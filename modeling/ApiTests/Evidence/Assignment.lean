import ApiTests.Evidence.RedactText
import ApiTests.Py.ReLocal

/-!
# Secret assignments, as the last substitution reads them

The last substitution of `redact_text` reads a text from the left. At a word boundary it may find a
secret name, a `:` or `=` with white space around it, and a value; then it goes on behind the value. So
a text may end in an assignment whose value is still to come, and takes the next word for it.

Results:
* `assignment_of_first`, `first_assignment`: what the pattern matches.
* `redactAssignments_of_endsOpen`, `redactAssignments_of_not_endsOpen`: **a text up to white space is
  replaced by itself, and the next word is taken for a value iff the text ends in an open assignment.**
-/

namespace ApiTests.Evidence

open Py Re

/-! ## Names and separators -/

/-- The secret names in lower case. -/
def secretNames : List Text :=
  [lit "authorization", lit "cookie", lit "password", lit "session", lit "token", lit "apikey",
    lit "api_key", lit "api-key"]

/-- A secret name in any case. -/
def IsSecretName (name : Text) : Prop := name.map foldCase ∈ secretNames

/-- A character of a secret name. -/
def isNameChar (c : Nat) : Bool := secretNames.any fun name => foldCase c ∈ name

/-- `\s*[:=]\s*`. -/
def IsSeparator (sep : Text) : Prop :=
  ∃ a c b, sep = a ++ c :: b ∧ (∀ d ∈ a, isSpace d = true) ∧ (c = 58 ∨ c = 61) ∧
    ∀ d ∈ b, isSpace d = true

theorem isNameChar_of_mem {name : Text} (h : IsSecretName name) : ∀ c ∈ name, isNameChar c = true := by
  intro c hc
  exact List.any_eq_true.mpr ⟨_, h, decide_eq_true (List.mem_map_of_mem hc)⟩

theorem IsSecretName.ne_nil {name : Text} (h : IsSecretName name) : name ≠ [] := by
  rintro rfl
  have hnil : ([] : Text) ∉ secretNames := by decide
  exact hnil h

theorem foldCase_of_isSpace {c : Nat} (h : isSpace c = true) : foldCase c = c := by
  simp only [isSpace, Bool.or_eq_true, Bool.and_eq_true, decide_eq_true_eq, beq_iff_eq] at h
  unfold foldCase
  split_ifs <;> omega

/-- The characters of a name can stand in a value, too. -/
theorem isSecretChar_of_isNameChar {c : Nat} (h : isNameChar c = true) : isSecretChar c = true := by
  obtain ⟨name, hname, hc⟩ := List.any_eq_true.mp h
  rw [decide_eq_true_eq] at hc
  have hall : ∀ name ∈ secretNames, ∀ d ∈ name, isSpace d = false := by decide
  have hcomma : isNameChar 44 = false := by decide
  have hsemicolon : isNameChar 59 = false := by decide
  have hspace : isSpace c = false := by
    by_contra hspace
    rw [Bool.not_eq_false] at hspace
    rw [foldCase_of_isSpace hspace] at hc
    exact absurd (hall name hname c hc) (by simp [hspace])
  have h44 : c ≠ 44 := by
    rintro rfl
    rw [hcomma] at h
    cases h
  have h59 : c ≠ 59 := by
    rintro rfl
    rw [hsemicolon] at h
    cases h
  simp [isSecretChar, hspace, h44, h59]

theorem isSpace_of_not_isSecretChar {c : Nat} (h : isSpace c = true) : isSecretChar c = false := by
  simp [isSecretChar, h]

/-- No secret name goes on to another one. -/
theorem IsSecretName.eq_of_append {name z : Text} (h : IsSecretName name)
    (h' : IsSecretName (name ++ z)) : z = [] := by
  have hfree : ∀ a ∈ secretNames, ∀ b ∈ secretNames, a <+: b → b.length = a.length := by decide
  have := hfree _ h _ h' ⟨z.map foldCase, by rw [List.map_append]⟩
  rw [List.length_map, List.length_map, List.length_append] at this
  exact List.length_eq_zero_iff.mp (by omega)

variable {unicode : Unicode} {x y : Cursor}

/-- `api[_-]?key`. -/
theorem mem_run_apiKey {y : Cursor} : y ∈ run (.seqs [.strI (lit "api"),
      .opt (.cls fun c => c == 95 || c == 45), .strI (lit "key")]) x ↔
    ∃ name v, x.ahead = name ++ v ∧
      name.map foldCase ∈ [lit "apikey", lit "api_key", lit "api-key"] ∧ y = x.after name v := by
  have hapi : (lit "api").map foldCase = lit "api" := by decide
  have hkey : (lit "key").map foldCase = lit "key" := by decide
  constructor
  · intro h
    obtain ⟨z, hz, h⟩ := mem_run_seq.mp h
    obtain ⟨w, hw, hy⟩ := mem_run_seq.mp h
    obtain ⟨u, v, hx, hu, rfl⟩ := mem_run_strI hz
    obtain ⟨u', v', hw', hu', rfl⟩ := mem_run_strI hy
    rw [hapi] at hu
    rw [hkey] at hu'
    rcases mem_run_opt.mp hw with hw | rfl
    · obtain ⟨c, v'', hv, hc, rfl⟩ := mem_run_cls.mp hw
      rw [Cursor.after_ahead] at hv hw'
      refine ⟨u ++ c :: u', v', by rw [hx, hv, hw']; simp, ?_, by simp [Cursor.after]⟩
      rw [List.map_append, List.map_cons, hu, hu']
      rcases Bool.or_eq_true_iff.mp hc with hc | hc <;> rw [beq_iff_eq] at hc <;> subst hc <;> decide
    · rw [Cursor.after_ahead] at hw'
      refine ⟨u ++ u', v', by rw [hx, hw']; simp, ?_, by simp [Cursor.after]⟩
      rw [List.map_append, hu, hu']
      decide
  · rintro ⟨name, v, hx, hname, rfl⟩
    have hsplit : ∃ u o u', name = u ++ o ++ u' ∧ u.map foldCase = lit "api" ∧
        u'.map foldCase = lit "key" ∧ (o = [] ∨ o = [95] ∨ o = [45]) := by
      have hcut : ∀ o, name.map foldCase = lit "api" ++ o ++ lit "key" → ∃ u o' u',
          name = u ++ o' ++ u' ∧ u.map foldCase = lit "api" ∧ u'.map foldCase = lit "key" ∧
            o'.map foldCase = o := by
        intro o ho
        obtain ⟨w, u', rfl, hw, hu'⟩ := List.map_eq_append_iff.mp ho
        obtain ⟨u, o', rfl, hu, ho'⟩ := List.map_eq_append_iff.mp hw
        exact ⟨u, o', u', rfl, hu, hu', ho'⟩
      have hsign : ∀ d, d = 95 ∨ d = 45 → ∀ o : Text, o.map foldCase = [d] → o = [d] := by
        intro d hd o ho
        obtain ⟨c, rfl, hc⟩ := List.map_eq_singleton_iff.mp ho
        have hc' : c = d := by
          unfold foldCase at hc
          split_ifs at hc <;> omega
        rw [hc']
      simp only [List.mem_cons, List.not_mem_nil, or_false] at hname
      rcases hname with hname | hname | hname
      · obtain ⟨u, o, u', rfl, hu, hu', ho⟩ := hcut [] hname
        exact ⟨u, o, u', rfl, hu, hu', Or.inl (List.map_eq_nil_iff.mp ho)⟩
      · obtain ⟨u, o, u', rfl, hu, hu', ho⟩ := hcut [95] hname
        exact ⟨u, o, u', rfl, hu, hu', Or.inr (Or.inl (hsign 95 (Or.inl rfl) o ho))⟩
      · obtain ⟨u, o, u', rfl, hu, hu', ho⟩ := hcut [45] hname
        exact ⟨u, o, u', rfl, hu, hu', Or.inr (Or.inr (hsign 45 (Or.inr rfl) o ho))⟩
    obtain ⟨u, o, u', rfl, hu, hu', ho⟩ := hsplit
    rw [List.append_assoc, List.append_assoc] at hx
    refine mem_run_seq.mpr ⟨x.after u (o ++ (u' ++ v)), mem_run_strI_iff.mpr ⟨u, _, hx, ?_, rfl⟩,
      mem_run_seq.mpr ⟨(x.after u (o ++ (u' ++ v))).after o (u' ++ v), ?_,
        mem_run_strI_iff.mpr ⟨u', v, rfl, ?_, by simp [Cursor.after]⟩⟩⟩
    · rw [hu, hapi]
    · rw [mem_run_opt]
      rcases ho with rfl | rfl | rfl
      · exact Or.inr rfl
      · exact Or.inl (mem_run_cls.mpr ⟨95, u' ++ v, rfl, rfl, rfl⟩)
      · exact Or.inl (mem_run_cls.mpr ⟨45, u' ++ v, rfl, rfl, rfl⟩)
    · rw [hu', hkey]

theorem mem_run_secretName : y ∈ run secretNameRe x ↔
    ∃ name v, x.ahead = name ++ v ∧ IsSecretName name ∧ y = x.after name v := by
  have hstr : ∀ w, w.map foldCase = w → (y ∈ run (strI w) x ↔
      ∃ name v, x.ahead = name ++ v ∧ name.map foldCase = w ∧ y = x.after name v) := by
    intro w hw
    rw [mem_run_strI_iff, hw]
  simp only [secretNameRe, alts, mem_run_alt, mem_run_apiKey, hstr (lit "authorization") (by decide),
    hstr (lit "cookie") (by decide), hstr (lit "password") (by decide),
    hstr (lit "session") (by decide), hstr (lit "token") (by decide), IsSecretName, secretNames,
    List.mem_cons, List.not_mem_nil, or_false]
  constructor
  · rintro (⟨name, v, hx, hn, rfl⟩ | ⟨name, v, hx, hn, rfl⟩ | ⟨name, v, hx, hn, rfl⟩ |
      ⟨name, v, hx, hn, rfl⟩ | ⟨name, v, hx, hn, rfl⟩ | ⟨name, v, hx, hn, rfl⟩) <;>
      exact ⟨name, v, hx, by simp [hn], rfl⟩
  · rintro ⟨name, v, hx, hn | hn | hn | hn | hn | hn, rfl⟩
    · exact Or.inl ⟨name, v, hx, hn, rfl⟩
    · exact Or.inr (Or.inl ⟨name, v, hx, hn, rfl⟩)
    · exact Or.inr (Or.inr (Or.inl ⟨name, v, hx, hn, rfl⟩))
    · exact Or.inr (Or.inr (Or.inr (Or.inl ⟨name, v, hx, hn, rfl⟩)))
    · exact Or.inr (Or.inr (Or.inr (Or.inr (Or.inl ⟨name, v, hx, hn, rfl⟩))))
    · exact Or.inr (Or.inr (Or.inr (Or.inr (Or.inr ⟨name, v, hx, hn, rfl⟩))))

/-- `\s*[:=]\s*`. -/
theorem mem_run_separator : y ∈ run (.seqs [.rep 0 isSpace, .cls (fun c => c == 58 || c == 61),
      .rep 0 isSpace]) x ↔
    ∃ sep v, x.ahead = sep ++ v ∧ IsSeparator sep ∧ y = x.after sep v := by
  constructor
  · intro h
    obtain ⟨z, hz, h⟩ := mem_run_seq.mp h
    obtain ⟨w, hw, hy⟩ := mem_run_seq.mp h
    obtain ⟨a, v, hx, ha, -, rfl⟩ := mem_run_rep.mp hz
    obtain ⟨c, v', hv, hc, rfl⟩ := mem_run_cls.mp hw
    obtain ⟨b, v'', hv', hb, -, rfl⟩ := mem_run_rep.mp hy
    rw [Cursor.after_ahead] at hv hv'
    rw [Bool.or_eq_true, beq_iff_eq, beq_iff_eq] at hc
    exact ⟨a ++ c :: b, v'', by rw [hx, hv, hv']; simp, ⟨a, c, b, rfl, ha, hc, hb⟩,
      by simp [Cursor.after]⟩
  · rintro ⟨_, v, hx, ⟨a, c, b, rfl, ha, hc, hb⟩, rfl⟩
    rw [List.append_assoc] at hx
    refine mem_run_seq.mpr ⟨x.after a (c :: b ++ v), mem_run_rep.mpr ⟨a, _, hx, ha, Nat.zero_le _, rfl⟩,
      mem_run_seq.mpr ⟨(x.after a (c :: b ++ v)).after [c] (b ++ v),
        mem_run_cls.mpr ⟨c, b ++ v, rfl, ?_, rfl⟩,
        mem_run_rep.mpr ⟨b, v, rfl, hb, Nat.zero_le _, by simp [Cursor.after]⟩⟩⟩
    rwa [Bool.or_eq_true, beq_iff_eq, beq_iff_eq]

/-! ## Assignments -/

/-- What the pattern reads at the start of a text. -/
structure Assignment (t name sep value rest : Text) : Prop where
  text : t = name ++ (sep ++ (value ++ rest))
  name : IsSecretName name
  sep : IsSeparator sep
  nonempty : value ≠ []
  value : ∀ c ∈ value, isSecretChar c = true
  rest : headIn isSecretChar rest = false

/-- A value does not begin with white space. -/
theorem headIn_value {value rest : Text} (hne : value ≠ [])
    (hvalue : ∀ c ∈ value, isSecretChar c = true) : headIn isSpace (value ++ rest) = false := by
  obtain ⟨c, cs, rfl⟩ := List.exists_cons_of_ne_nil hne
  rw [List.cons_append, headIn_cons]
  by_contra hspace
  rw [Bool.not_eq_false] at hspace
  exact absurd (hvalue c List.mem_cons_self) (by simp [isSpace_of_not_isSecretChar hspace])

/-- **A text is read in one way.** -/
theorem Assignment.unique {t n s v r n' s' v' r' : Text} (h : Assignment t n s v r)
    (h' : Assignment t n' s' v' r') : n = n' ∧ s = s' ∧ v = v' ∧ r = r' := by
  have htext := h.text.symm.trans h'.text
  have hname : n = n' := by
    rcases List.append_eq_append_iff.mp htext with ⟨z, hz, -⟩ | ⟨z, hz, -⟩
    · have := h.name.eq_of_append (hz ▸ h'.name)
      rw [hz, this, List.append_nil]
    · have := h'.name.eq_of_append (hz ▸ h.name)
      rw [hz, this, List.append_nil]
  subst hname
  obtain ⟨a, c, b, rfl, ha, hc, hb⟩ := h.sep
  obtain ⟨a', c', b', rfl, ha', hc', hb'⟩ := h'.sep
  have hsign : ∀ d u, d = 58 ∨ d = 61 → headIn isSpace (d :: u) = false := by
    rintro d u (rfl | rfl) <;> rfl
  have hsep := List.append_cancel_left htext
  rw [List.append_assoc, List.append_assoc, List.cons_append, List.cons_append] at hsep
  obtain ⟨rfl, htail⟩ := append_inj_of_stop ha (hsign c _ hc) ha' (hsign c' _ hc') hsep
  obtain ⟨rfl, hblank⟩ := List.cons.inj htail
  obtain ⟨rfl, hvalue⟩ := append_inj_of_stop hb (headIn_value h.nonempty h.value) hb'
    (headIn_value h'.nonempty h'.value) hblank
  obtain ⟨rfl, rfl⟩ := append_inj_of_stop h.value h.rest h'.value h'.rest hvalue
  exact ⟨rfl, rfl, rfl, rfl⟩

/-- The start of a text is a word boundary. -/
def AtBoundary (unicode : Unicode) (behind t : Text) : Prop :=
  headIn unicode.isWord behind ≠ headIn unicode.isWord t

/-- **What the pattern matches** is an assignment. -/
theorem assignment_of_first {behind t : Text} {m : Cursor}
    (h : first (secretAssignmentRe unicode) ⟨behind, t, []⟩ = some m) :
    AtBoundary unicode behind t ∧ ∃ name sep value, Assignment t name sep value m.ahead ∧
      m.get 1 = name ∧ m.get 2 = sep := by
  obtain ⟨z, hz, h⟩ := first_seq h
  obtain ⟨hb, rfl⟩ := mem_run_boundary.mp hz
  obtain ⟨z, hz, h⟩ := first_seq h
  obtain ⟨w, hw, u, hu, rfl⟩ := mem_run_group.mp hz
  obtain ⟨name, v, hx, hname, rfl⟩ := mem_run_secretName.mp hw
  obtain rfl : name = u := List.append_cancel_right (hx.symm.trans hu)
  obtain ⟨z, hz, h⟩ := first_seq h
  obtain ⟨w, hw, u, hu, rfl⟩ := mem_run_group.mp hz
  obtain ⟨sep, v', hx', hsep, rfl⟩ := mem_run_separator.mp hw
  obtain rfl : sep = u := List.append_cancel_right (hx'.symm.trans hu)
  rw [seqs, first_group, Option.map_eq_some_iff] at h
  obtain ⟨w, hw, rfl⟩ := h
  obtain ⟨value, rest, hx'', hvalue, hrest, hlen, rfl⟩ := first_rep hw
  simp only [Cursor.after_ahead] at hx hx' hx''
  refine ⟨hb, name, sep, value, ⟨?_, hname, hsep, ?_, hvalue, hrest⟩, rfl, rfl⟩
  · rw [hx, hx', hx'']
    rfl
  · rintro rfl
    simp at hlen

/-- **An assignment is matched.** -/
theorem first_assignment {behind t name sep value rest : Text} (hb : AtBoundary unicode behind t)
    (h : Assignment t name sep value rest) :
    ∃ m, first (secretAssignmentRe unicode) ⟨behind, t, []⟩ = some m ∧ m.ahead = rest ∧
      m.get 1 = name ∧ m.get 2 = sep := by
  have hmem : ∃ y, y ∈ run (secretAssignmentRe unicode) ⟨behind, t, []⟩ := by
    refine ⟨_, mem_run_seq.mpr ⟨_, mem_run_boundary.mpr ⟨hb, rfl⟩, mem_run_seq.mpr ⟨_,
      mem_run_group.mpr ⟨_, mem_run_secretName.mpr ⟨name, _, h.text, h.name, rfl⟩, name, h.text, rfl⟩,
      mem_run_seq.mpr ⟨_, mem_run_group.mpr ⟨_, mem_run_separator.mpr ⟨sep, _, rfl, h.sep, rfl⟩, sep,
        rfl, rfl⟩, mem_run_group.mpr ⟨_, mem_run_rep.mpr ⟨value, rest, rfl, h.value, ?_, rfl⟩, value,
        rfl, rfl⟩⟩⟩⟩⟩
    exact List.length_pos_iff.mpr h.nonempty
  obtain ⟨y, hy⟩ := hmem
  cases hf : first (secretAssignmentRe unicode) ⟨behind, t, []⟩ with
  | none => exact absurd hy (first_eq_none_iff.mp hf y)
  | some m =>
    obtain ⟨-, name', sep', value', h', h1, h2⟩ := assignment_of_first hf
    obtain ⟨rfl, rfl, -, rfl⟩ := h.unique h'
    exact ⟨m, rfl, rfl, h1, h2⟩

/-! ## The substitution -/

variable (unicode)

/-- The last substitution, from a position on. -/
def redactAssignments (behind t : Text) : Text :=
  subFrom (secretAssignmentRe unicode) (fun m => m.get 1 ++ m.get 2 ++ redactedMark) behind t

/-- An assignment starts at a position. -/
def Starts (behind t : Text) : Prop :=
  AtBoundary unicode behind t ∧ ∃ name sep value rest, Assignment t name sep value rest

variable {unicode} {behind behind' t : Text} {c : Nat}

@[simp] theorem redactAssignments_nil : redactAssignments unicode behind [] = [] := rfl

theorem redactAssignments_miss (h : ¬ Starts unicode behind (c :: t)) :
    redactAssignments unicode behind (c :: t) = c :: redactAssignments unicode (c :: behind) t := by
  refine subFrom_miss ?_
  cases hf : first (secretAssignmentRe unicode) ⟨behind, c :: t, []⟩ with
  | none => rfl
  | some m =>
    obtain ⟨hb, name, sep, value, hread, -, -⟩ := assignment_of_first hf
    exact absurd ⟨hb, name, sep, value, _, hread⟩ h

theorem redactAssignments_hit {name sep value rest : Text} (hb : AtBoundary unicode behind t)
    (h : Assignment t name sep value rest) :
    redactAssignments unicode behind t = name ++ sep ++ redactedMark ++
      redactAssignments unicode ((name ++ sep ++ value).reverse ++ behind) rest := by
  obtain ⟨m, hm, hrest, h1, h2⟩ := first_assignment hb h
  have htext : t = name ++ sep ++ value ++ rest := by
    rw [h.text]
    simp only [List.append_assoc]
  have hne : name ++ sep ++ value ≠ [] := by simp [h.nonempty]
  unfold redactAssignments
  rw [htext] at hm ⊢
  rw [subFrom_hit hne hm hrest, h1, h2]

theorem Starts.head_isNameChar (h : Starts unicode behind t) : headIn isNameChar t = true := by
  obtain ⟨-, name, sep, value, rest, hread⟩ := h
  obtain ⟨d, ds, rfl⟩ := List.exists_cons_of_ne_nil hread.name.ne_nil
  rw [hread.text]
  exact isNameChar_of_mem hread.name d List.mem_cons_self

/-- Of what stands behind, only whether it ends in a word counts. -/
theorem redactAssignments_congr : ∀ (n : Nat) {t behind behind' : Text}, t.length ≤ n →
    headIn unicode.isWord behind = headIn unicode.isWord behind' →
      redactAssignments unicode behind t = redactAssignments unicode behind' t
  | _, [], _, _, _, _ => rfl
  | n + 1, c :: t, behind, behind', hn, hb => by
    have hlen : t.length ≤ n := by simpa using hn
    by_cases hs : Starts unicode behind (c :: t)
    · obtain ⟨hbound, name, sep, value, rest, h⟩ := hs
      have hbound' : AtBoundary unicode behind' (c :: t) := by
        unfold AtBoundary at hbound ⊢
        rwa [← hb]
      have hlen' : rest.length ≤ n := by
        have := congrArg List.length h.text
        have := List.length_pos_iff.mpr h.nonempty
        simp only [List.length_cons, List.length_append] at *
        omega
      rw [redactAssignments_hit hbound h, redactAssignments_hit hbound' h]
      congr 1
      refine redactAssignments_congr n hlen' ?_
      have hne : (name ++ sep ++ value).reverse ≠ [] := by simp [h.nonempty]
      obtain ⟨d, ds, hd⟩ := List.exists_cons_of_ne_nil hne
      rw [hd]
      rfl
    · have hs' : ¬ Starts unicode behind' (c :: t) := by
        unfold Starts AtBoundary at hs ⊢
        rwa [← hb]
      rw [redactAssignments_miss hs, redactAssignments_miss hs']
      congr 1
      exact redactAssignments_congr n hlen rfl

/-- A character that no name has starts nothing. -/
theorem redactAssignments_cons (hc : isNameChar c = false) :
    redactAssignments unicode behind (c :: t) = c :: redactAssignments unicode (c :: behind) t := by
  refine redactAssignments_miss fun h => ?_
  have := h.head_isNameChar
  rw [headIn_cons, hc] at this
  cases this

/-- Where no value can go on, what stands behind does not count. -/
theorem redactAssignments_of_stop (h : headIn isSecretChar t = false) :
    redactAssignments unicode behind t = redactAssignments unicode behind' t := by
  cases t with
  | nil => rfl
  | cons c t =>
    have hc : isNameChar c = false := by
      by_contra hc
      rw [Bool.not_eq_false] at hc
      rw [headIn_cons, isSecretChar_of_isNameChar hc] at h
      cases h
    rw [redactAssignments_cons hc, redactAssignments_cons hc]
    congr 1
    exact redactAssignments_congr t.length le_rfl rfl

/-! ## A text up to white space -/

/-- Empty, or with white space at the end. -/
def EndsInSpace (t : Text) : Prop := ∀ c ∈ t.getLast?, isSpace c = true

/-- What begins with a character of a value that is no sign of an assignment. -/
def Plain (x : Text) : Prop := ∃ c v, x = c :: v ∧ isSecretChar c = true ∧ c ≠ 58 ∧ c ≠ 61

variable {p x : Text}

theorem EndsInSpace.suffix {u v : Text} (h : EndsInSpace (u ++ v)) : EndsInSpace v := by
  intro c hc
  refine h c ?_
  rw [List.getLast?_append, Option.mem_def.mp hc]
  rfl

/-- Without white space it is empty. -/
theorem EndsInSpace.eq_nil (h : EndsInSpace p) (hall : ∀ c ∈ p, isSecretChar c = true) : p = [] := by
  by_contra hne
  have hlast := List.getLast?_eq_some_getLast hne
  have hspace := isSpace_of_not_isSecretChar (h _ hlast)
  rw [hall _ (List.getLast_mem hne)] at hspace
  cases hspace

/-- A text that was cut in two ways. -/
theorem cut_or {u w : Text} (h : p ++ x = u ++ w) :
    (∃ q, p = u ++ q ∧ q ++ x = w) ∨ ∃ c z, u = p ++ c :: z ∧ x = c :: z ++ w := by
  rcases List.append_eq_append_iff.mp h with ⟨z, hu, hx⟩ | ⟨q, hp, hw⟩
  · cases z with
    | nil => exact Or.inl ⟨[], by simp [hu], hx⟩
    | cons c z => exact Or.inr ⟨c, z, hu, hx⟩
  · exact Or.inl ⟨q, hp, hw.symm⟩

theorem Plain.not_isSpace {c : Nat} {z : Text} (h : Plain (c :: z)) : isSpace c = false := by
  obtain ⟨d, v, hd, hsecret, -, -⟩ := h
  obtain ⟨rfl, -⟩ := List.cons.inj hd
  by_contra hspace
  rw [Bool.not_eq_false] at hspace
  rw [isSpace_of_not_isSecretChar hspace] at hsecret
  cases hsecret

/-- **Where the words of an assignment lie**: all before the white space, or all but the value. -/
theorem Assignment.cut {n s v r : Text} (hp : EndsInSpace p) (hne : p ≠ []) (hx : Plain x)
    (h : Assignment (p ++ x) n s v r) :
    (∃ rest, r = rest ++ x ∧ Assignment p n s v rest) ∨ p = n ++ s := by
  obtain ⟨a, c, b, rfl, ha, hc, hb⟩ := h.sep
  have htext := h.text
  rw [List.append_assoc, List.cons_append] at htext
  have hspaces : ∀ {u w q : Text}, (∀ d ∈ u, isSpace d = true) → q ++ x = u ++ w →
      ∃ q', q = u ++ q' ∧ q' ++ x = w := by
    intro u w q hu hcut
    rcases cut_or hcut with hq | ⟨d, z, rfl, rfl⟩
    · exact hq
    · have := hu d (List.mem_append_right q List.mem_cons_self)
      rw [hx.not_isSpace] at this
      cases this
  rcases cut_or htext with ⟨p1, rfl, h1⟩ | ⟨d, z, hn, -⟩
  · obtain ⟨p2, rfl, h2⟩ := hspaces ha h1
    cases p2 with
    | nil =>
      obtain ⟨d, w, rfl, -, h58, h61⟩ := hx
      obtain ⟨rfl, -⟩ := List.cons.inj h2
      exact absurd hc (by simp [h58, h61])
    | cons d p3 =>
      obtain ⟨rfl, h3⟩ := List.cons.inj h2
      obtain ⟨p4, rfl, h4⟩ := hspaces hb h3
      have hp4 : EndsInSpace p4 := EndsInSpace.suffix (u := d :: b) hp.suffix.suffix
      rcases cut_or h4 with ⟨rest, rfl, hrest⟩ | ⟨e, z, rfl, -⟩
      · refine Or.inl ⟨rest, hrest.symm, ⟨by simp, h.name, h.sep, h.nonempty, h.value, ?_⟩⟩
        cases rest with
        | nil => rfl
        | cons e rest =>
          have := h.rest
          rw [← hrest] at this
          exact this
      · have : p4 = [] := hp4.eq_nil fun e he => h.value e (List.mem_append_left _ he)
        exact Or.inr (by simp [this])
  · refine absurd (hp.eq_nil fun e he => ?_) hne
    refine isSecretChar_of_isNameChar (isNameChar_of_mem h.name e ?_)
    rw [hn]
    exact List.mem_append_left _ he

/-- An assignment up to white space stays one, whatever follows. -/
theorem Assignment.extend {n s v rest : Text} (hp : EndsInSpace p) (h : Assignment p n s v rest)
    (x : Text) : rest ≠ [] ∧ Assignment (p ++ x) n s v (rest ++ x) := by
  have hne : rest ≠ [] := by
    rintro rfl
    have htext := h.text
    rw [List.append_nil, ← List.append_assoc] at htext
    rw [htext] at hp
    exact h.nonempty (hp.suffix.eq_nil h.value)
  obtain ⟨d, ds, rfl⟩ := List.exists_cons_of_ne_nil hne
  refine ⟨hne, ⟨?_, h.name, h.sep, h.nonempty, h.value, h.rest⟩⟩
  rw [h.text]
  simp

/-- An open assignment takes the next word. -/
theorem assignment_of_open {name sep : Text} (hname : IsSecretName name) (hsep : IsSeparator sep)
    (hx : Plain x) : Assignment (name ++ sep ++ x) name sep (x.takeWhile isSecretChar)
      (x.dropWhile isSecretChar) := by
  obtain ⟨c, v, rfl, hc, -, -⟩ := hx
  refine ⟨?_, hname, hsep, ?_, fun d hd => List.mem_takeWhile_imp hd, headIn_dropWhile _ _⟩
  · rw [List.takeWhile_append_dropWhile, List.append_assoc]
  · rw [List.takeWhile_cons_of_pos hc]
    exact List.cons_ne_nil _ _

/-! ## Open assignments -/

/-- A text whose last assignment still waits for its value, as the scan from a position reads it. -/
inductive EndsOpen (unicode : Unicode) : Text → Text → Prop where
  /-- The open assignment. -/
  | here {behind name sep : Text} : AtBoundary unicode behind (name ++ sep) → IsSecretName name →
      IsSeparator sep → EndsOpen unicode behind (name ++ sep)
  /-- Nothing starts here. -/
  | keep {behind t : Text} {c : Nat} : ¬ Starts unicode behind (c :: t) →
      EndsOpen unicode (c :: behind) t → EndsOpen unicode behind (c :: t)
  /-- An assignment with its value. -/
  | skip {behind t name sep value rest : Text} : AtBoundary unicode behind t →
      Assignment t name sep value rest →
      EndsOpen unicode ((name ++ sep ++ value).reverse ++ behind) rest → EndsOpen unicode behind t

theorem AtBoundary.append (hb : AtBoundary unicode behind p) (hne : p ≠ []) (x : Text) :
    AtBoundary unicode behind (p ++ x) := by
  obtain ⟨c, cs, rfl⟩ := List.exists_cons_of_ne_nil hne
  exact hb

theorem redactAssignments_open {name sep : Text} (hb : AtBoundary unicode behind (name ++ sep))
    (hname : IsSecretName name) (hsep : IsSeparator sep) (hx : Plain x) :
    redactAssignments unicode behind (name ++ sep ++ x) = name ++ sep ++ redactedMark ++
      redactAssignments unicode [] (x.dropWhile isSecretChar) := by
  have hne : name ++ sep ≠ [] := by simp [hname.ne_nil]
  rw [redactAssignments_hit (hb.append hne x) (assignment_of_open hname hsep hx)]
  congr 1
  exact redactAssignments_of_stop (headIn_dropWhile _ _)

/-- Where nothing starts and no assignment is open, nothing starts whatever follows. -/
theorem not_starts_append (hp : EndsInSpace p) (hne : p ≠ []) (hs : ¬ Starts unicode behind p)
    (hopen : ∀ name sep, IsSecretName name → IsSeparator sep → AtBoundary unicode behind p →
      p ≠ name ++ sep) (hx : Plain x) : ¬ Starts unicode behind (p ++ x) := by
  rintro ⟨hb, name, sep, value, rest, h⟩
  have hb' : AtBoundary unicode behind p := by
    obtain ⟨c, cs, rfl⟩ := List.exists_cons_of_ne_nil hne
    exact hb
  rcases h.cut hp hne hx with ⟨rest', -, h'⟩ | heq
  · exact hs ⟨hb', name, sep, value, rest', h'⟩
  · exact hopen name sep h.name h.sep hb' heq

/-- **The word after an open assignment is taken for its value.** -/
theorem redactAssignments_of_endsOpen (h : EndsOpen unicode behind p) (hp : EndsInSpace p) :
    ∃ out, ∀ x, Plain x → redactAssignments unicode behind (p ++ x) =
      out ++ redactedMark ++ redactAssignments unicode [] (x.dropWhile isSecretChar) := by
  induction h with
  | @here behind name sep hb hname hsep =>
    exact ⟨name ++ sep, fun x hx => redactAssignments_open hb hname hsep hx⟩
  | @keep behind t c hs _ ih =>
    by_cases hopen : ∃ name sep, IsSecretName name ∧ IsSeparator sep ∧
        AtBoundary unicode behind (c :: t) ∧ c :: t = name ++ sep
    · obtain ⟨name, sep, hname, hsep, hb, heq⟩ := hopen
      rw [heq] at hb ⊢
      exact ⟨name ++ sep, fun x hx => redactAssignments_open hb hname hsep hx⟩
    · obtain ⟨out, hout⟩ := ih (EndsInSpace.suffix (u := [c]) hp)
      refine ⟨c :: out, fun x hx => ?_⟩
      have hs' : ¬ Starts unicode behind (c :: (t ++ x)) :=
        not_starts_append hp (List.cons_ne_nil c t) hs
          (fun name sep hname hsep hb heq => hopen ⟨name, sep, hname, hsep, hb, heq⟩) hx
      rw [List.cons_append, redactAssignments_miss hs', hout x hx]
      rfl
  | @skip behind t name sep value rest hb hread _ ih =>
    have hsuffix : EndsInSpace rest := by
      rw [hread.text] at hp
      exact hp.suffix.suffix.suffix
    obtain ⟨out, hout⟩ := ih hsuffix
    refine ⟨name ++ sep ++ redactedMark ++ out, fun x hx => ?_⟩
    have hne : t ≠ [] := by
      rw [hread.text]
      simp [hread.name.ne_nil]
    rw [redactAssignments_hit (hb.append hne x) (hread.extend hp x).2, hout x hx]
    simp

/-- **Without one, what follows is read on its own.** -/
theorem redactAssignments_of_not_endsOpen : ∀ (n : Nat) {p behind : Text}, p.length ≤ n →
    ¬ EndsOpen unicode behind p → EndsInSpace p → ∃ out, ∀ x, Plain x →
      redactAssignments unicode behind (p ++ x) =
        out ++ redactAssignments unicode (p.reverse ++ behind) x
  | _, [], _, _, _, _ => ⟨[], fun _ _ => rfl⟩
  | n + 1, c :: t, behind, hn, hclosed, hp => by
    have hlen : t.length ≤ n := by simpa using hn
    by_cases hs : Starts unicode behind (c :: t)
    · obtain ⟨hb, name, sep, value, rest, hread⟩ := hs
      have hlen' : rest.length ≤ n := by
        have := congrArg List.length hread.text
        have := List.length_pos_iff.mpr hread.nonempty
        simp only [List.length_cons, List.length_append] at *
        omega
      have hsuffix : EndsInSpace rest := by
        rw [hread.text] at hp
        exact hp.suffix.suffix.suffix
      obtain ⟨out, hout⟩ := redactAssignments_of_not_endsOpen n hlen'
        (fun h => hclosed (.skip hb hread h)) hsuffix
      refine ⟨name ++ sep ++ redactedMark ++ out, fun x hx => ?_⟩
      rw [redactAssignments_hit (hb.append (List.cons_ne_nil c t) x) (hread.extend hp x).2, hout x hx,
        hread.text]
      simp
    · obtain ⟨out, hout⟩ := redactAssignments_of_not_endsOpen n hlen
        (fun h => hclosed (.keep hs h)) (EndsInSpace.suffix (u := [c]) hp)
      refine ⟨c :: out, fun x hx => ?_⟩
      have hs' : ¬ Starts unicode behind (c :: (t ++ x)) := by
        refine not_starts_append hp (List.cons_ne_nil c t) hs (fun name sep hname hsep hb heq => ?_) hx
        refine hclosed ?_
        rw [heq] at hb ⊢
        exact .here hb hname hsep
      rw [List.cons_append, redactAssignments_miss hs', hout x hx]
      simp

/-! ## What is kept -/

theorem IsSeparator.head {sep : Text} (h : IsSeparator sep) :
    ∃ d ds, sep = d :: ds ∧ (isSpace d = true ∨ d = 58 ∨ d = 61) := by
  obtain ⟨a, c, b, rfl, ha, hc, -⟩ := h
  cases a with
  | nil => exact ⟨c, b, rfl, Or.inr hc⟩
  | cons d a => exact ⟨d, a ++ c :: b, rfl, Or.inl (ha d List.mem_cons_self)⟩

/-- **No assignment reaches over a character** that stands in no name and in no separator. -/
theorem redactAssignments_keep {u v : Text} (hu : 58 ∉ u ∧ 61 ∉ u) (hc : isNameChar c = false)
    (hspace : isSpace c = false) (h58 : c ≠ 58) (h61 : c ≠ 61) :
    redactAssignments unicode behind (u ++ c :: v) =
      u ++ c :: redactAssignments unicode (c :: (u.reverse ++ behind)) v := by
  induction u generalizing behind with
  | nil => exact redactAssignments_cons hc
  | cons d u ih =>
    have hmiss : ¬ Starts unicode behind (d :: u ++ c :: v) := by
      rintro ⟨-, name, sep, value, rest, h⟩
      obtain ⟨a, e, b, rfl, ha, he, -⟩ := h.sep
      have htext := h.text
      rw [List.append_assoc, ← List.append_assoc name] at htext
      rcases cut_or htext with ⟨q, hq, hrest⟩ | ⟨c', z, hz, hrest⟩
      · cases q with
        | nil =>
          obtain ⟨rfl, -⟩ := List.cons.inj hrest
          rcases he with rfl | rfl
          · exact h58 rfl
          · exact h61 rfl
        | cons f q =>
          obtain ⟨rfl, -⟩ := List.cons.inj hrest
          have hmem : f ∈ d :: u := hq ▸ List.mem_append_right _ List.mem_cons_self
          rcases he with rfl | rfl
          · exact hu.1 hmem
          · exact hu.2 hmem
      · obtain ⟨rfl, -⟩ := List.cons.inj hrest
        have hmem : c ∈ name ++ a := hz ▸ List.mem_append_right _ List.mem_cons_self
        rcases List.mem_append.mp hmem with hmem | hmem
        · rw [isNameChar_of_mem h.name c hmem] at hc
          cases hc
        · rw [ha c hmem] at hspace
          cases hspace
    have hu' : 58 ∉ u ∧ 61 ∉ u :=
      ⟨fun h => hu.1 (List.mem_cons_of_mem d h), fun h => hu.2 (List.mem_cons_of_mem d h)⟩
    rw [List.cons_append] at hmiss ⊢
    rw [redactAssignments_miss hmiss, ih hu']
    simp

/-- No part at the end of a text is a name at a word boundary. -/
def NoName (unicode : Unicode) (behind word : Text) : Prop :=
  ∀ u w, word = u ++ w → IsSecretName w → ¬ AtBoundary unicode (u.reverse ++ behind) w

/-- **A word that ends in no name is kept.** -/
theorem redactAssignments_keep_word {word t : Text}
    (hword : ∀ d ∈ word, isSpace d = false ∧ d ≠ 58 ∧ d ≠ 61) (hno : NoName unicode behind word)
    (hc : isNameChar c = false) : redactAssignments unicode behind (word ++ c :: t) =
      word ++ c :: redactAssignments unicode (c :: (word.reverse ++ behind)) t := by
  induction word generalizing behind with
  | nil => exact redactAssignments_cons hc
  | cons d word ih =>
    have hmiss : ¬ Starts unicode behind (d :: word ++ c :: t) := by
      rintro ⟨hb, name, sep, value, rest, h⟩
      obtain ⟨e, es, hsep, he⟩ := h.sep.head
      rcases cut_or h.text with ⟨q, hq, hrest⟩ | ⟨c', z, hz, hrest⟩
      · cases q with
        | nil =>
          rw [List.append_nil] at hq
          exact hno [] (d :: word) rfl (hq ▸ h.name) hb
        | cons f q =>
          rw [hsep] at hrest
          obtain ⟨rfl, -⟩ := List.cons.inj hrest
          have hf := hword f (hq ▸ List.mem_append_right _ List.mem_cons_self)
          rcases he with he | he | he
          · rw [hf.1] at he
            cases he
          · exact hf.2.1 he
          · exact hf.2.2 he
      · obtain ⟨rfl, -⟩ := List.cons.inj hrest
        have hmem : c ∈ name := hz ▸ List.mem_append_right _ List.mem_cons_self
        rw [isNameChar_of_mem h.name c hmem] at hc
        cases hc
    have hno' : NoName unicode (d :: behind) word := by
      intro u w hw hname
      have := hno (d :: u) w (by rw [hw]; rfl) hname
      simpa using this
    rw [List.cons_append] at hmiss ⊢
    rw [redactAssignments_miss hmiss, ih (fun e he => hword e (List.mem_cons_of_mem d he)) hno']
    simp

end ApiTests.Evidence
