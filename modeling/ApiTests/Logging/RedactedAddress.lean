import ApiTests.Logging.EmailMatch

/-!
# Addresses in redacted text (`logging.py:169-188`)

Behind `EMAIL_RE` four more substitutions run. Each keeps the first group of its match, if it has one,
and puts a mark in, so none of them creates an address (`containsAddress_of_sub`). They may hide one
that `EMAIL_RE` has left; where they find nothing (`Inert`), they do not.

Results:
* `redacted_addresses`: **a clean text is returned without addresses**, and of the inert texts only
  the clean ones are.
* `leaked_address_example`: three texts that are not clean.
-/

namespace ApiTests.Logging

open Py

/-! ## The other patterns -/

theorem redactedMark_eq : redactedMark = Re.mark 91 93 (lit "REDACTED") := by
  decide

theorem marks_redactAll (r : Re) : r.Marks redactAll redactedMark :=
  fun _ _ _ _ _ _ => ⟨[], List.nil_prefix, rfl⟩

theorem marks_keepGroup {r : Re} {n : Nat} {p : Nat → Bool} :
    (Re.seq (.group 1 r) (.rep n p)).Marks keepGroup redactedMark := by
  intro behind u v y hfirst hv
  obtain ⟨z, hz, hy⟩ := Re.mem_run_seq.mp (Re.first_mem hfirst)
  obtain ⟨z', -, g, hg, rfl⟩ := Re.mem_run_group.mp hz
  obtain ⟨u', v', hu', -, -, rfl⟩ := Re.mem_run_rep.mp hy
  refine ⟨g, ⟨u', ?_⟩, rfl⟩
  have hahead : u ++ v = g ++ (u' ++ v') := hg.trans (by rw [← hu'])
  rw [Cursor.after_ahead] at hv
  rw [hv, ← List.append_assoc] at hahead
  exact (List.append_cancel_right hahead).symm

theorem consumes_preview (unicode : Unicode) : (previewTokenRe unicode).Consumes :=
  Re.Consumes.seq_right (Re.Consumes.seq_left Re.consumes_str)

theorem consumes_bearer : bearerRe.Consumes := (Re.consumes_rep Nat.one_ne_zero).seq_right

theorem consumes_assignment : assignmentRe.Consumes := (Re.consumes_rep Nat.one_ne_zero).seq_right

theorem consumes_cookie : cookieRe.Consumes := (Re.consumes_rep Nat.one_ne_zero).seq_right

/-- What an address is made of. -/
theorem address_chars {a : Text} (h : IsAddress a) : 64 ∈ a ∧ 91 ∉ a ∧ 93 ∉ a := by
  obtain ⟨l, d, -, hl, hd, rfl⟩ := h
  have hchars : ∀ c ∈ l ++ 64 :: d, c ≠ 91 ∧ c ≠ 93 := by
    intro c hc
    rcases List.mem_append.mp hc with hc | hc
    · have := hl c hc
      constructor <;> rintro rfl <;> exact absurd this (by decide)
    · rcases List.mem_cons.mp hc with rfl | hc
      · decide
      · have := addressDomainChar_of_domain hd c hc
        constructor <;> rintro rfl <;> exact absurd this (by decide)
  exact ⟨by simp, fun hm => (hchars _ hm).1 rfl, fun hm => (hchars _ hm).2 rfl⟩

section

variable {r : Re} {repl : Cursor → Text} {t : Text}

/-- **No address is created.** -/
theorem containsAddress_of_sub (hr : r.Consumes) (hmarks : r.Marks repl redactedMark)
    (h : ContainsAddress (r.sub repl t)) : ContainsAddress t := by
  obtain ⟨a, ha, hinfix⟩ := h
  obtain ⟨hat, hopen, hclose⟩ := address_chars ha
  refine ⟨a, ha, Re.infix_of_infix_sub hr (redactedMark_eq ▸ hmarks) hopen hclose (fun hmid => ?_)
    hinfix⟩
  exact absurd (hmid.subset hat) (by decide)

/-- The other patterns find nothing: the text has no `:`, no `=` and no `v2.`. -/
structure Inert (t : Text) : Prop where
  noColon : 58 ∉ t
  noEqual : 61 ∉ t
  noPreview : ¬ lit "v2." <:+: t

/-- A substitution that puts marks in leaves an inert text inert. -/
theorem Inert.sub (h : Inert t) (hr : r.Consumes) (hmarks : r.Marks repl redactedMark) :
    Inert (r.sub repl t) := by
  have hmem : ∀ {c : Nat} {x : Text}, [c] <:+: x ↔ c ∈ x := fun {c x} =>
    ⟨fun hinfix => hinfix.subset List.mem_cons_self, fun hm => by
      obtain ⟨u, v, rfl⟩ := List.append_of_mem hm
      exact ⟨u, v, by simp⟩⟩
  have hone : ∀ c, c ∉ t → c ≠ 91 → c ≠ 93 → c ∉ lit "REDACTED" → c ∉ r.sub repl t := by
    intro c hc hopen hclose hmid hm
    exact hc (hmem.mp (Re.infix_of_infix_sub hr (redactedMark_eq ▸ hmarks)
      (by simpa using Ne.symm hopen) (by simpa using Ne.symm hclose) (fun hx => hmid (hmem.mp hx))
      (hmem.mpr hm)))
  refine ⟨hone 58 h.noColon (by decide) (by decide) (by decide),
    hone 61 h.noEqual (by decide) (by decide) (by decide), fun hinfix => h.noPreview ?_⟩
  exact Re.infix_of_infix_sub hr (redactedMark_eq ▸ hmarks) (by decide) (by decide) (by decide) hinfix

end

/-! ## Inert texts -/

section

variable {x y : Cursor}

/-- A literal that no letter stands for is in the text. -/
theorem mem_of_strI {w : Text} {c : Nat} (hc : c ∈ w) (hfold : foldCase c = c) (hsmall : c < 97)
    (h : y ∈ (Re.strI w).run x) : c ∈ x.ahead := by
  obtain ⟨u, v, hx, hu, -⟩ := Re.mem_run_strI h
  obtain ⟨d, hd, hdc⟩ := List.mem_map.mp (hu ▸ List.mem_map_of_mem hc : foldCase c ∈ u.map foldCase)
  rw [hfold] at hdc
  rw [hx, ← eq_of_foldCase hdc hsmall]
  exact List.mem_append_left v hd

theorem preview_infix {unicode : Unicode} (h : y ∈ (previewTokenRe unicode).run x) :
    lit "v2." <:+: x.ahead := by
  simp only [previewTokenRe, Re.seqs, Re.mem_run_seq, Re.mem_run_boundary, Re.mem_run_str] at h
  obtain ⟨_, ⟨-, rfl⟩, _, ⟨v, hx, -⟩, -⟩ := h
  exact hx ▸ List.infix_append' [] _ _

theorem colon_of_bearer (h : y ∈ bearerRe.run x) : 58 ∈ x.ahead := by
  obtain ⟨z, hz, -⟩ := Re.mem_run_seq.mp h
  obtain ⟨z', hz', -⟩ := Re.mem_run_group.mp hz
  obtain ⟨_, hlit, -⟩ := Re.mem_run_seq.mp hz'
  exact mem_of_strI (by decide) (by decide) (by decide) hlit

theorem mem_of_reached {r : Re} {c : Nat} (h : y ∈ r.run x) (hc : c ∈ y.ahead) : c ∈ x.ahead := by
  obtain ⟨u, hu, -⟩ := Re.run_sound h
  exact hu ▸ List.mem_append_right u hc

theorem separator_of_assignment (h : y ∈ assignmentRe.run x) : 58 ∈ x.ahead ∨ 61 ∈ x.ahead := by
  obtain ⟨z, hz, -⟩ := Re.mem_run_seq.mp h
  obtain ⟨z', hz', -⟩ := Re.mem_run_group.mp hz
  simp only [Re.seqs, Re.mem_run_seq] at hz'
  obtain ⟨_, hname, _, hquote, _, hspace, _, hsep, -⟩ := hz'
  obtain ⟨c, v, hv, hc, -⟩ := Re.mem_run_cls.mp hsep
  have hback : ∀ {d : Nat}, d = c → d ∈ x.ahead := fun hd => mem_of_reached hname
    (mem_of_reached hquote (mem_of_reached hspace (hv ▸ hd ▸ List.mem_cons_self)))
  rw [Bool.or_eq_true, beq_iff_eq, beq_iff_eq] at hc
  exact hc.imp (fun h => hback h.symm) (fun h => hback h.symm)

theorem colon_of_cookie (h : y ∈ cookieRe.run x) : 58 ∈ x.ahead := by
  obtain ⟨z, hz, -⟩ := Re.mem_run_seq.mp h
  obtain ⟨z', hz', -⟩ := Re.mem_run_group.mp hz
  simp only [Re.seqs, Re.mem_run_seq] at hz'
  obtain ⟨_, hname, _, hspace, _, hcolon, -⟩ := hz'
  exact mem_of_reached hname (mem_of_reached hspace
    (mem_of_strI (by decide) (by decide) (by decide) hcolon))

end

section

variable {t : Text}

/-- A pattern whose matches need what the text has not leaves it alone. -/
theorem sub_inert {r : Re} {repl : Cursor → Text} (P : Text → Prop) (h : ¬ P t)
    (hsuffix : ∀ u v, P v → P (u ++ v)) (hr : ∀ x y, y ∈ r.run x → P x.ahead) : r.sub repl t = t := by
  refine Re.sub_eq_self fun u c v ht => Re.first_eq_none_iff.mpr fun y hy => h ?_
  rw [ht]
  exact hsuffix u _ (hr _ y hy)

/-- **An inert text goes through the other four substitutions unchanged.** -/
theorem redactSensitiveText_inert (unicode : Unicode) (h : Inert t) :
    redactSensitiveText unicode t = emailRe.sub redactAll t := by
  have h := h.sub consumes_email (marks_redactAll emailRe)
  rw [redactSensitiveText]
  generalize emailRe.sub redactAll t = t' at h ⊢
  have hcolon : ∀ u v : Text, 58 ∈ v → 58 ∈ u ++ v := fun u _ hv => List.mem_append_right u hv
  have hpreview : (previewTokenRe unicode).sub redactAll t' = t' :=
    sub_inert (fun x => lit "v2." <:+: x) h.noPreview
      (fun u v hv => hv.trans (List.suffix_append u v).isInfix) fun _ _ => preview_infix
  have hbearer : bearerRe.sub keepGroup t' = t' :=
    sub_inert (fun x => 58 ∈ x) h.noColon hcolon fun _ _ => colon_of_bearer
  have hassignment : assignmentRe.sub keepGroup t' = t' :=
    sub_inert (fun x => 58 ∈ x ∨ 61 ∈ x) (fun hm => hm.elim h.noColon h.noEqual)
      (fun u _ hv => hv.imp (List.mem_append_right u) (List.mem_append_right u))
      fun _ _ => separator_of_assignment
  have hcookie : cookieRe.sub keepGroup t' = t' :=
    sub_inert (fun x => 58 ∈ x) h.noColon hcolon fun _ _ => colon_of_cookie
  simp only [hpreview, hbearer, hassignment, hcookie]

/-- No `@` of the text is left in an address. -/
def CleanText (t : Text) : Prop := Clean false (cut t).1 (cut t).2

/-- **Redacted text contains no address if the text is clean**, and only then where the other
patterns find nothing. -/
theorem redacted_addresses (unicode : Unicode) (t : Text) :
    (CleanText t → ¬ ContainsAddress (redactSensitiveText unicode t)) ∧
      (Inert t → ¬ ContainsAddress (redactSensitiveText unicode t) → CleanText t) := by
  refine ⟨fun hclean hcontains => ?_, fun hinert hnone => ?_⟩
  · refine (email_clean_iff t).mpr hclean ?_
    exact containsAddress_of_sub (consumes_preview unicode) (marks_redactAll _)
      (containsAddress_of_sub consumes_bearer marks_keepGroup
        (containsAddress_of_sub consumes_assignment marks_keepGroup
          (containsAddress_of_sub consumes_cookie marks_keepGroup hcontains)))
  · rw [redactSensitiveText_inert unicode hinert] at hnone
    exact (email_clean_iff t).mp hnone

end

/-- A text with two addresses that both are removed. -/
theorem redacted_addresses_example :
    ¬ ContainsAddress (redactSensitiveText .ascii (lit "mail a@b.com, c.d@e.org!")) := by
  refine (redacted_addresses .ascii _).1 ⟨Or.inl ?_, Or.inl ?_, trivial⟩ <;> decide

/-- Addresses that are left: in front of a full stop or a hyphen, and joined to one that is removed. -/
theorem leaked_address_example :
    ContainsAddress (redactSensitiveText .ascii (lit "a@b.com.")) ∧
      ContainsAddress (redactSensitiveText .ascii (lit "a@b.com-")) ∧
      ContainsAddress (redactSensitiveText .ascii (lit "a@b.com_c@d.org")) := by
  have hfirst : IsAddress (lit "a@b.com") := ⟨lit "a", lit "b.com", by decide, by decide,
    ⟨[lit "b"], lit "com", by decide, by decide, by decide, by decide, rfl⟩, rfl⟩
  have hsecond : IsAddress (lit "c@d.org") := ⟨lit "c", lit "d.org", by decide, by decide,
    ⟨[lit "d"], lit "org", by decide, by decide, by decide, by decide, rfl⟩, rfl⟩
  have hstop : redactSensitiveText .ascii (lit "a@b.com.") = lit "a@b.com." := by decide +kernel
  have hhyphen : redactSensitiveText .ascii (lit "a@b.com-") = lit "a@b.com-" := by decide +kernel
  have hjoined : redactSensitiveText .ascii (lit "a@b.com_c@d.org") = lit "[REDACTED]_c@d.org" := by
    decide +kernel
  refine ⟨?_, ?_, ?_⟩
  · rw [hstop]
    exact ⟨_, hfirst, [], lit ".", rfl⟩
  · rw [hhyphen]
    exact ⟨_, hfirst, [], lit "-", rfl⟩
  · rw [hjoined]
    exact ⟨_, hsecond, lit "[REDACTED]_", [], rfl⟩

end ApiTests.Logging
