import ApiTests.Logging.Address

/-!
# What `EMAIL_RE` removes (`logging.py:33-36`)

A match takes all of a run of local characters up to an `@` and the domain behind it
(`email_match`), and the matcher finds it wherever the run can start (`exists_email_match`). The
substitution is computed one `@` at a time: `subFrom_taken`, `subFrom_kept`, `subFrom_last`.

Results:
* `takes_iff`: `takes` tells which `@`s are removed.
* `exposed_subFrom`: what the substitution exposes, by induction on the `@`s.
* `email_clean_iff`: **`EMAIL_RE` leaves no address iff the text is clean.**
-/

namespace ApiTests.Logging

open Py

/-! ## The matches of `EMAIL_RE` -/

theorem mem_run_email {x y : Cursor} : y ∈ emailRe.run x ↔ headIn isLocalChar x.behind = false ∧
    ∃ u d tld v, x.ahead = u ++ 64 :: (d ++ 46 :: (tld ++ v)) ∧ u ≠ [] ∧
      (∀ c ∈ u, isLocalChar c = true) ∧ d ≠ [] ∧ (∀ c ∈ d, isDomainChar c = true) ∧
      2 ≤ tld.length ∧ (∀ c ∈ tld, isLetterI c = true) ∧ headIn isDomainChar v = false ∧
      y.ahead = v ∧ y = x.after (u ++ 64 :: (d ++ 46 :: tld)) v := by
  simp only [emailRe, Re.seqs, Re.mem_run_seq, Re.mem_run_notBehind, Re.mem_run_rep, Re.mem_run_str,
    Re.mem_run_notAhead]
  constructor
  · rintro ⟨_, ⟨hbehind, rfl⟩, _, ⟨u, v₁, hahead, hu, hune, rfl⟩, _, ⟨v₂, h₂, rfl⟩, _,
      ⟨d, v₃, h₃, hd, hdne, rfl⟩, _, ⟨v₄, h₄, rfl⟩, _, ⟨tld, v, h₅, htld, hlen, rfl⟩, hstop, rfl⟩
    simp only [Cursor.after_ahead] at h₂ h₃ h₄ h₅ hstop
    refine ⟨hbehind, u, d, tld, v, ?_, List.length_pos_iff.mp hune, hu, List.length_pos_iff.mp hdne,
      hd, hlen, htld, hstop, rfl, ?_⟩
    · rw [hahead, h₂, h₃, h₄, h₅]
      simp [lit]
    · simp [Cursor.after_after, lit]
  · rintro ⟨hbehind, u, d, tld, v, hahead, hune, hu, hdne, hd, hlen, htld, hstop, -, rfl⟩
    refine ⟨x, ⟨hbehind, rfl⟩, _, ⟨u, _, hahead, hu, List.length_pos_iff.mpr hune, rfl⟩, _,
      ⟨_, rfl, rfl⟩, _, ⟨d, _, rfl, hd, List.length_pos_iff.mpr hdne, rfl⟩, _, ⟨_, rfl, rfl⟩, _,
      ⟨tld, v, rfl, htld, hlen, rfl⟩, hstop, ?_⟩
    simp [Cursor.after_after, lit]

theorem consumes_email : Re.Consumes emailRe := by
  intro x y hy hsame
  obtain ⟨-, u, d, tld, v, hahead, -, -, -, -, -, -, -, hv, -⟩ := mem_run_email.mp hy
  have := congrArg List.length (hahead.symm.trans (hsame.symm.trans hv))
  simp only [List.length_append, List.length_cons] at this
  omega

/-- The run of a class in front of what is not in it. -/
theorem takeWhile_stop {p : Nat → Bool} {d rest : Text} (h : headIn p rest = false) :
    (d ++ rest).takeWhile p = d.takeWhile p ∧ (d ++ rest).dropWhile p = d.dropWhile p ++ rest := by
  induction d with
  | nil =>
    cases rest with
    | nil => exact ⟨rfl, rfl⟩
    | cons c rest =>
      have hc : p c = false := h
      simp [hc]
  | cons c d ih =>
    by_cases hc : p c = true
    · simp [hc, ih]
    · simp [hc]

theorem isLocalChar_of_domain {c : Nat} (h : isDomainChar c = true) : isLocalChar c = true := by
  simp only [isDomainChar, isLocalChar, Bool.or_eq_true] at h ⊢
  tauto

theorem isDomainChar_of_letter {c : Nat} (h : isLetterI c = true) : isDomainChar c = true := by
  simp only [isDomainChar, h, Bool.true_or]

section

variable {behind w after : Text} {m : Cursor}

/-- What a match takes: all of a run of local characters up to the `@`, and the domain behind it. -/
theorem email_match {y : Cursor} (hat : 64 ∉ w) (h : y ∈ emailRe.run ⟨behind, w ++ 64 :: after, []⟩) :
    headIn isLocalChar behind = false ∧ w ≠ [] ∧ (∀ c ∈ w, isLocalChar c = true) ∧
      isDomain after = true ∧ y.ahead = after.dropWhile isDomainChar := by
  obtain ⟨hbehind, u, d, tld, v, hahead, hune, hu, hdne, hd, hlen, htld, hstop, hv, -⟩ :=
    mem_run_email.mp h
  have hat' : 64 ∉ u := fun hm => absurd (hu 64 hm) (by decide)
  obtain ⟨rfl, hafter⟩ : w = u ∧ after = d ++ 46 :: (tld ++ v) := by
    have hsplit := List.append_eq_append_iff.mp hahead
    rcases hsplit with ⟨z, rfl, hz⟩ | ⟨z, rfl, hz⟩
    · cases z with
      | nil => exact ⟨(List.append_nil _).symm, (List.cons.inj hz).2⟩
      | cons c z =>
        obtain ⟨rfl, -⟩ := List.cons.inj hz
        exact absurd (by simp) hat'
    · cases z with
      | nil => exact ⟨List.append_nil _, (List.cons.inj hz).2.symm⟩
      | cons c z =>
        obtain ⟨rfl, -⟩ := List.cons.inj hz
        exact absurd (by simp) hat
  have hrun : ∀ c ∈ d ++ 46 :: tld, isDomainChar c = true := by
    intro c hc
    rcases List.mem_append.mp hc with hc | hc
    · exact hd c hc
    · rcases List.mem_cons.mp hc with rfl | hc
      · decide
      · exact isDomainChar_of_letter (htld c hc)
  have hafter : after = (d ++ 46 :: tld) ++ v := by rw [hafter]; simp
  have htake : after.takeWhile isDomainChar = d ++ 46 :: tld := by
    rw [hafter, Re.takeWhile_append_stop hrun hstop]
  refine ⟨hbehind, hune, hu, isDomain_iff.mpr ⟨d, tld, htake, hdne, hlen, htld⟩, ?_⟩
  have hdrop := List.takeWhile_append_dropWhile (p := isDomainChar) (l := after)
  rw [htake] at hdrop
  rw [hv]
  exact (List.append_cancel_left (hdrop.trans hafter)).symm

/-- **Where `EMAIL_RE` matches.** -/
theorem exists_email_match (hbehind : headIn isLocalChar behind = false) (hw : w ≠ [])
    (hat : 64 ∉ w) (hlocal : ∀ c ∈ w, isLocalChar c = true) (hd : isDomain after = true) :
    ∃ m, emailRe.first ⟨behind, w ++ 64 :: after, []⟩ = some m ∧
      m.ahead = after.dropWhile isDomainChar := by
  obtain ⟨d, tld, hrun, hdne, hlen, htld⟩ := isDomain_iff.mp hd
  have hafter : after = d ++ 46 :: (tld ++ after.dropWhile isDomainChar) := by
    conv_lhs => rw [← List.takeWhile_append_dropWhile (p := isDomainChar) (l := after), hrun]
    simp
  have hdall : ∀ c ∈ d, isDomainChar c = true := fun c hc =>
    List.mem_takeWhile_imp (hrun ▸ List.mem_append_left _ hc : c ∈ after.takeWhile isDomainChar)
  have hstop : headIn isDomainChar (after.dropWhile isDomainChar) = false := by
    cases hdrop : after.dropWhile isDomainChar with
    | nil => rfl
    | cons c cs =>
      have := List.head?_dropWhile_not isDomainChar after
      rw [hdrop] at this
      simpa using this
  let x : Cursor := ⟨behind, w ++ 64 :: after, []⟩
  have hy : x.after (w ++ 64 :: (d ++ 46 :: tld)) (after.dropWhile isDomainChar) ∈ emailRe.run x :=
    mem_run_email.mpr ⟨hbehind, w, d, tld, _, congrArg (fun z => w ++ 64 :: z) hafter, hw, hlocal,
      hdne, hdall, hlen, htld, hstop, rfl, rfl⟩
  cases hfirst : emailRe.first x with
  | none => exact absurd hy (Re.first_eq_none_iff.mp hfirst _)
  | some m => exact ⟨m, rfl, (email_match hat (Re.first_mem hfirst)).2.2.2.2⟩

/-- Without an `@` nothing matches. -/
theorem email_first_none (hat : 64 ∉ after) : emailRe.first ⟨behind, after, []⟩ = none := by
  rw [Re.first_eq_none_iff]
  intro y hy
  obtain ⟨-, u, d, tld, v, hahead, -⟩ := mem_run_email.mp hy
  refine hat ?_
  rw [show after = _ from hahead]
  simp

end

/-! ## One `@` -/

/-- A text and the run of a class that ends it. -/
theorem exists_run (p : Nat → Bool) (x : Text) :
    ∃ a w, x = a ++ w ∧ (∀ c ∈ w, p c = true) ∧ endsIn p a = false := by
  refine ⟨x.rdropWhile p, x.rtakeWhile p, List.rdropWhile_append_rtakeWhile.symm,
    fun c hc => List.mem_rtakeWhile_imp hc, ?_⟩
  cases h : endsIn p (x.rdropWhile p) with
  | false => rfl
  | true =>
    obtain ⟨u, c, hu, hc⟩ := endsIn_eq_true_iff.mp h
    have hne : x.rdropWhile p ≠ [] := by simp [hu]
    have hlast := List.rdropWhile_last_not p x hne
    simp only [hu, List.getLast_append_singleton] at hlast
    exact absurd hc hlast

section

variable {behind a w d : Text} {ds : List Text}

/-- Behind a character that is no local one, and in front of a run that can be taken, nothing
matches. -/
theorem subFrom_front (hend : endsIn isLocalChar a = false) (hat : 64 ∉ a ++ w)
    {rest : Text} (hrest : rest = [] ∨ ∃ after, rest = 64 :: after) :
    emailRe.subFrom redactAll behind (a ++ (w ++ rest)) =
      a ++ emailRe.subFrom redactAll (a.reverse ++ behind) (w ++ rest) := by
  refine Re.subFrom_keep fun u₁ c u₂ hu => Re.first_eq_none_iff.mpr fun y hy => ?_
  rcases hrest with rfl | ⟨after, rfl⟩
  · refine absurd hy (Re.first_eq_none_iff.mp (email_first_none fun hm => hat ?_) y)
    rw [hu]
    simp only [List.append_nil, List.mem_append, List.mem_cons] at hm ⊢
    tauto
  · have hsplit : c :: (u₂ ++ (w ++ 64 :: after)) = (c :: u₂ ++ w) ++ 64 :: after := by simp
    rw [hsplit] at hy
    have hat' : 64 ∉ c :: u₂ ++ w := fun hm => hat (by
      rw [hu]
      simp only [List.mem_append, List.mem_cons] at hm ⊢
      tauto)
    obtain ⟨-, -, hall, -, -⟩ := email_match hat' hy
    have hlast : endsIn isLocalChar a = true := by
      rw [hu, endsIn_append _ (List.cons_ne_nil _ _), endsIn_eq_true_iff]
      obtain ⟨u', e, he⟩ := (List.eq_nil_or_concat' (c :: u₂)).resolve_left (List.cons_ne_nil _ _)
      exact ⟨u', e, he, hall e (List.mem_append_left _ (he ▸ by simp))⟩
    rw [hend] at hlast
    exact nomatch hlast

/-- A last stretch without an `@` is kept. -/
theorem subFrom_last (hat : 64 ∉ w) : emailRe.subFrom redactAll behind w = w := by
  have hkeep : emailRe.subFrom redactAll behind (w ++ []) =
      w ++ emailRe.subFrom redactAll (w.reverse ++ behind) [] := by
    refine Re.subFrom_keep fun u₁ c u₂ hu => email_first_none fun hm => hat ?_
    rw [hu]
    simp only [List.append_nil, List.mem_append, List.mem_cons] at hm ⊢
    tauto
  simpa using hkeep

/-- A match that starts at the run in front of the `@` can. -/
def Free (behind a : Text) : Prop := headIn isLocalChar (a.reverse ++ behind) = false

theorem isDomain_glue (ds : List Text) : isDomain (d ++ glue ds) = isDomain d := by
  unfold isDomain
  rw [(takeWhile_stop (headIn_glue (by decide) ds)).1]

/-- **An `@` that is taken.** -/
theorem subFrom_taken (hend : endsIn isLocalChar a = false) (hat : 64 ∉ a ++ w) (hw : w ≠ [])
    (hlocal : ∀ c ∈ w, isLocalChar c = true) (hfree : Free behind a) (hd : isDomain d = true) :
    ∃ behind', headIn isLocalChar behind' = true ∧
      emailRe.subFrom redactAll behind (a ++ (w ++ glue (d :: ds))) =
        a ++ redactedMark ++ emailRe.subFrom redactAll behind' (d.dropWhile isDomainChar ++ glue ds) := by
  have hatw : 64 ∉ w := fun hm => hat (List.mem_append_right a hm)
  obtain ⟨m, hfirst, hm⟩ := exists_email_match hfree hw hatw hlocal
    ((isDomain_glue ds).trans hd : isDomain (d ++ glue ds) = true)
  obtain ⟨htake, hdrop⟩ := takeWhile_stop (d := d) (headIn_glue (p := isDomainChar) (by decide) ds)
  rw [hdrop] at hm
  have hsplit : w ++ glue (d :: ds) =
      (w ++ 64 :: d.takeWhile isDomainChar) ++ (d.dropWhile isDomainChar ++ glue ds) := by
    rw [glue_cons, List.append_assoc, List.cons_append, ← List.append_assoc (d.takeWhile _),
      List.takeWhile_append_dropWhile]
  refine ⟨(w ++ 64 :: d.takeWhile isDomainChar).reverse ++ (a.reverse ++ behind), ?_, ?_⟩
  · obtain ⟨x, tld, hrun, -, hlen, htld⟩ := isDomain_iff.mp hd
    obtain ⟨tld', c, rfl⟩ := (List.eq_nil_or_concat' tld).resolve_left fun hnil => by
      rw [hnil] at hlen
      exact absurd hlen (by decide)
    have hc : isLocalChar c = true :=
      isLocalChar_of_domain (isDomainChar_of_letter (htld c (by simp)))
    simpa [hrun] using hc
  · rw [glue_cons] at hsplit ⊢
    rw [subFrom_front hend hat (Or.inr ⟨_, rfl⟩)]
    rw [hsplit] at hfirst ⊢
    rw [Re.subFrom_hit (by simp) hfirst hm, List.append_assoc]
    rfl

/-- **An `@` that is not taken.** -/
theorem subFrom_kept (hend : endsIn isLocalChar a = false) (hat : 64 ∉ a ++ w)
    (hlocal : ∀ c ∈ w, isLocalChar c = true)
    (hnot : ¬ (w ≠ [] ∧ Free behind a ∧ isDomain d = true)) :
    emailRe.subFrom redactAll behind (a ++ (w ++ glue (d :: ds))) = (a ++ w) ++ 64 ::
      emailRe.subFrom redactAll (64 :: (w.reverse ++ (a.reverse ++ behind))) (d ++ glue ds) := by
  have hatw : 64 ∉ w := fun hm => hat (List.mem_append_right a hm)
  have hkeep : emailRe.subFrom redactAll (a.reverse ++ behind) ((w ++ [64]) ++ (d ++ glue ds)) =
      (w ++ [64]) ++ emailRe.subFrom redactAll ((w ++ [64]).reverse ++ (a.reverse ++ behind))
        (d ++ glue ds) := by
    refine Re.subFrom_keep fun u₁ c u₂ hu => Re.first_eq_none_iff.mpr fun y hy => ?_
    rcases List.eq_nil_or_concat' u₂ with rfl | ⟨u₂, e, rfl⟩
    · obtain rfl : 64 = c := (List.cons.inj (List.append_inj' hu rfl).2).1
      exact (email_match (w := []) List.not_mem_nil hy).2.1 rfl
    · have hu : w ++ [64] = (u₁ ++ c :: u₂) ++ [e] := by rw [hu]; simp
      obtain ⟨rfl, he⟩ := List.append_inj' hu rfl
      obtain rfl : 64 = e := (List.cons.inj he).1
      have hsplit : c :: (u₂ ++ [64] ++ (d ++ glue ds)) = (c :: u₂) ++ 64 :: (d ++ glue ds) := by simp
      rw [hsplit] at hy
      obtain ⟨hbehind, -, -, hd, -⟩ := email_match
        (fun hm => hatw (List.mem_append_right u₁ hm)) hy
      rw [isDomain_glue] at hd
      rcases List.eq_nil_or_concat' u₁ with rfl | ⟨u₁, e, rfl⟩
      · exact hnot ⟨by simp, hbehind, hd⟩
      · rw [List.reverse_append, List.append_assoc] at hbehind
        have he := hlocal e (by simp)
        simp [he] at hbehind
  rw [glue_cons, subFrom_front hend hat (Or.inr ⟨_, rfl⟩)]
  have hassoc : w ++ 64 :: (d ++ glue ds) = (w ++ [64]) ++ (d ++ glue ds) := by simp
  rw [hassoc, hkeep]
  simp

end

/-! ## All `@`s -/

theorem isLetterI_of_ascii {c : Nat} (h : isAsciiLetter c = true) : isLetterI c = true := by
  simp only [isAsciiLetter, Bool.or_eq_true, Bool.and_eq_true, decide_eq_true_eq] at h
  simp only [isLetterI, Bool.and_eq_true, decide_eq_true_eq]
  rcases h with h | h
  · rw [foldCase, if_pos h]
    omega
  · rw [foldCase, if_neg (by omega), if_neg (by omega), if_neg (by omega), if_neg (by omega)]
    exact h

theorem isLocalChar_of_addressDomain {c : Nat} (h : isAddressDomainChar c = true) :
    isLocalChar c = true := by
  refine isLocalChar_of_domain ?_
  simp only [isAddressDomainChar, isLabelChar, Bool.or_eq_true] at h
  simp only [isDomainChar, Bool.or_eq_true]
  rcases h with ((h | h) | h) | h
  · exact Or.inl (Or.inl (Or.inl (isLetterI_of_ascii h)))
  · exact Or.inl (Or.inl (Or.inr h))
  · exact Or.inr h
  · exact Or.inl (Or.inr h)

/-- What is left in front of an `@` when the previous match has eaten the domain that starts there. -/
def leftOver (previous : Bool) (s : Text) : Text := if previous then s.dropWhile isDomainChar else s

section

variable {previous : Bool} {s d behind a w : Text} {ds : List Text}

theorem leftOver_eq_nil_iff : leftOver true s = [] ↔ s.all isDomainChar = true := by
  rw [leftOver, if_pos rfl, List.dropWhile_eq_nil_iff, List.all_eq_true]

theorem endsIn_leftOver {p : Nat → Bool} (h : leftOver previous s ≠ []) :
    endsIn p (leftOver previous s) = endsIn p s := by
  cases previous with
  | false => rfl
  | true =>
    conv_rhs => rw [← List.takeWhile_append_dropWhile (p := isDomainChar) (l := s)]
    exact (endsIn_append _ h).symm

theorem all_leftOver : (leftOver previous s).all isLocalChar = s.all isLocalChar := by
  cases previous with
  | false => rfl
  | true =>
    conv_rhs => rw [← List.takeWhile_append_dropWhile (p := isDomainChar) (l := s)]
    rw [List.all_append, (List.all_eq_true.mpr fun c hc =>
      isLocalChar_of_domain (List.mem_takeWhile_imp hc) : (s.takeWhile isDomainChar).all isLocalChar = _)]
    rfl

theorem notMem_leftOver (h : 64 ∉ s) : 64 ∉ leftOver previous s := by
  cases previous with
  | false => exact h
  | true => exact fun hm => h ((List.dropWhile_suffix _).subset hm)

theorem free_iff (hend : endsIn isLocalChar a = false) (hbehind : headIn isLocalChar behind = previous) :
    Free behind a ↔ a ≠ [] ∨ previous = false := by
  unfold Free
  cases hr : a.reverse with
  | nil =>
    rw [List.reverse_eq_nil_iff.mp hr, List.nil_append, hbehind]
    simp
  | cons c cs =>
    rw [endsIn, hr] at hend
    have hne : a ≠ [] := fun hnil => by simp [hnil] at hr
    simpa [hne] using hend

theorem all_run_iff (hlocal : ∀ c ∈ w, isLocalChar c = true) (hend : endsIn isLocalChar a = false) :
    (a ++ w).all isLocalChar = true ↔ a = [] := by
  constructor
  · intro h
    by_contra hne
    obtain ⟨a', c, rfl⟩ := (List.eq_nil_or_concat' a).resolve_left hne
    rw [endsIn_eq_true_iff.mpr ⟨a', c, rfl, List.all_eq_true.mp h c (by simp)⟩] at hend
    exact nomatch hend
  · rintro rfl
    exact List.all_eq_true.mpr hlocal

theorem endsIn_run_iff (hlocal : ∀ c ∈ w, isLocalChar c = true) (hend : endsIn isLocalChar a = false) :
    endsIn isLocalChar (a ++ w) = true ↔ w ≠ [] := by
  constructor
  · rintro h rfl
    rw [List.append_nil, hend] at h
    exact nomatch h
  · intro hw
    obtain ⟨w', c, rfl⟩ := (List.eq_nil_or_concat' w).resolve_left hw
    exact endsIn_eq_true_iff.mpr ⟨a ++ w', c, by simp, hlocal c (by simp)⟩

/-- What `takes` says of the run in front of the `@`. -/
theorem takes_iff (hx : leftOver previous s = a ++ w) (hlocal : ∀ c ∈ w, isLocalChar c = true)
    (hend : endsIn isLocalChar a = false) (hbehind : headIn isLocalChar behind = previous) :
    takes previous s d = true ↔ w ≠ [] ∧ Free behind a ∧ isDomain d = true := by
  have hall := all_run_iff hlocal hend
  rw [← hx, all_leftOver] at hall
  rw [free_iff hend hbehind, ← endsIn_run_iff hlocal hend, ← hx]
  simp only [takes, Bool.and_eq_true, Bool.not_eq_true', Bool.and_eq_false_iff]
  by_cases hnil : leftOver previous s = []
  · obtain ⟨rfl, rfl⟩ := List.append_eq_nil_iff.mp (hx.symm.trans hnil)
    have hs := hall.mpr rfl
    cases previous with
    | false =>
      obtain rfl : s = [] := hnil
      simp [endsIn, leftOver]
    | true => simp [hnil, hs, endsIn]
  · rw [endsIn_leftOver hnil]
    have hne : a ≠ [] ↔ s.all isLocalChar = false := by rw [Ne, ← hall, Bool.not_eq_true]
    rw [hne]
    tauto

/-- What an `@` that is not taken leaves behind it is a domain, unless the next match takes it. -/
theorem startsDomain_subFrom (hd : 64 ∉ d) (hds : ∀ d' ∈ ds, 64 ∉ d')
    (hbehind : headIn isLocalChar behind = false) :
    StartsDomain (emailRe.subFrom redactAll behind (d ++ glue ds)) ↔ StartsDomain d ∧
      ¬ (d.all isLocalChar = true ∧ ∃ d' ∈ ds.head?, isDomain d' = true) := by
  obtain ⟨a, w, rfl, hlocal, hend⟩ := exists_run isLocalChar d
  have hfree : Free behind a := (free_iff hend hbehind).mpr (Or.inr rfl)
  cases ds with
  | nil =>
    have hlast : emailRe.subFrom redactAll behind ((a ++ w) ++ glue []) = a ++ w := by
      rw [show glue [] = [] from rfl, List.append_nil]
      exact subFrom_last hd
    rw [hlast]
    simp
  | cons d' ds =>
    rw [all_run_iff hlocal hend, List.append_assoc]
    have hnext : (∃ d'' ∈ (d' :: ds).head?, isDomain d'' = true) ↔ isDomain d' = true := by simp
    rw [hnext]
    by_cases htaken : w ≠ [] ∧ isDomain d' = true
    · obtain ⟨behind', -, hout⟩ := subFrom_taken hend hd htaken.1 hlocal hfree htaken.2
      rw [hout, List.append_assoc, startsDomain_stop (by rfl)]
      rcases List.eq_nil_or_concat' a with rfl | ⟨a', z, rfl⟩
      · have hnone : ¬ StartsDomain [] := not_startsDomain_of_head rfl
        simp [htaken.2, hnone]
      · have hz : isAddressDomainChar z = false := by
          rw [endsIn, List.reverse_append] at hend
          refine Bool.eq_false_iff.mpr fun hz => ?_
          rw [List.reverse_singleton, List.singleton_append, headIn_cons,
            isLocalChar_of_addressDomain hz] at hend
          exact nomatch hend
        rw [List.append_assoc, startsDomain_stop (by simpa using hz), startsDomain_stop (by simpa using hz)]
        simp
    · have hnot : ¬ (w ≠ [] ∧ Free behind a ∧ isDomain d' = true) := fun h => htaken ⟨h.1, h.2.2⟩
      rw [subFrom_kept hend hd hlocal hnot, startsDomain_stop (by rfl)]
      refine ⟨fun h => ⟨h, ?_⟩, And.left⟩
      rintro ⟨rfl, hd'⟩
      have hw : w = [] := by
        by_contra hw
        exact htaken ⟨hw, hd'⟩
      rw [hw] at h
      exact not_startsDomain_of_head rfl h

/-- What is exposed at an `@` that is not taken. -/
theorem exposed_kept_iff (hs : 64 ∉ s) {y : Text} :
    Exposed (leftOver previous s ++ 64 :: y) ↔ (endsIn isAddressLocal s = true ∧
      ¬ (previous = true ∧ s.all isDomainChar = true) ∧ StartsDomain y) ∨ Exposed y := by
  rw [exposed_at_iff (notMem_leftOver hs)]
  refine or_congr_left ?_
  by_cases hnil : leftOver previous s = []
  · rw [hnil]
    refine ⟨fun h => (nomatch h.1), fun ⟨hend, hnot, _⟩ => absurd ?_ hnot⟩
    cases previous with
    | false =>
      obtain rfl : s = [] := hnil
      exact nomatch hend
    | true => exact ⟨rfl, leftOver_eq_nil_iff.mp hnil⟩
  · rw [endsIn_leftOver hnil]
    refine ⟨fun ⟨hend, hy⟩ => ⟨hend, ?_, hy⟩, fun ⟨hend, _, hy⟩ => ⟨hend, hy⟩⟩
    rintro ⟨rfl, hall⟩
    exact hnil (leftOver_eq_nil_iff.mpr hall)

/-- **What the substitution exposes**, by induction on the `@`s: a taken one starts the text anew behind
the mark, one that is not taken is exposed or not, and the rest is. -/
theorem exposed_subFrom : ∀ (ds : List Text) {previous : Bool} {s behind : Text}, 64 ∉ s →
    (∀ d ∈ ds, 64 ∉ d) → headIn isLocalChar behind = previous →
      (Exposed (emailRe.subFrom redactAll behind (leftOver previous s ++ glue ds)) ↔
        ¬ Clean previous s ds)
  | [], previous, s, behind, hs, _, _ => by
    have hlast : emailRe.subFrom redactAll behind (leftOver previous s ++ glue []) =
        leftOver previous s := by
      rw [show glue [] = [] from rfl, List.append_nil]
      exact subFrom_last (notMem_leftOver hs)
    rw [hlast]
    exact iff_of_false (not_exposed_of_notMem (notMem_leftOver hs)) (not_not_intro trivial)
  | d :: ds, previous, s, behind, hs, hds, hbehind => by
    obtain ⟨hd, hds⟩ := List.forall_mem_cons.mp hds
    obtain ⟨a, w, hx, hlocal, hend⟩ := exists_run isLocalChar (leftOver previous s)
    have hat : 64 ∉ a ++ w := hx ▸ notMem_leftOver hs
    have htakes := takes_iff (d := d) hx hlocal hend hbehind
    rw [hx, List.append_assoc, Clean]
    by_cases htaken : takes previous s d = true
    · obtain ⟨hw, hfree, hdomain⟩ := htakes.mp htaken
      obtain ⟨behind', hbehind', hout⟩ := subFrom_taken hend hat hw hlocal hfree hdomain
      have hrest : leftOver true d ++ glue ds = d.dropWhile isDomainChar ++ glue ds := rfl
      rw [hout, exposed_mark_iff (fun hm => hat (List.mem_append_left w hm)), ← hrest,
        exposed_subFrom ds hd hds hbehind', htaken]
      simp
    · have hnot : ¬ (w ≠ [] ∧ Free behind a ∧ isDomain d = true) := fun h => htaken (htakes.mpr h)
      have hbehind' : headIn isLocalChar (64 :: (w.reverse ++ (a.reverse ++ behind))) = false := rfl
      have hrest : d ++ glue ds = leftOver false d ++ glue ds := rfl
      rw [subFrom_kept hend hat hlocal hnot, ← hx, exposed_kept_iff hs,
        startsDomain_subFrom hd hds hbehind', hrest,
        exposed_subFrom ds hd hds hbehind', Bool.eq_false_iff.mpr htaken]
      rw [or_iff_right Bool.false_ne_true]
      refine (or_congr_left ?_).trans not_and_or.symm
      rw [not_or, not_or, not_not]
      exact ⟨fun ⟨he, hp, hstart, hn⟩ => ⟨⟨he, hstart⟩, hp, hn⟩,
        fun ⟨⟨he, hstart⟩, hp, hn⟩ => ⟨he, hp, hstart, hn⟩⟩

end

/-- **`EMAIL_RE` leaves no address iff the text is clean.** -/
theorem email_clean_iff (t : Text) :
    ¬ ContainsAddress (emailRe.sub redactAll t) ↔ Clean false (cut t).1 (cut t).2 := by
  obtain ⟨hs, hds⟩ := notMem_cut t
  have hexposed : Exposed (emailRe.subFrom redactAll [] (leftOver false (cut t).1 ++ glue (cut t).2)) ↔
      ¬ Clean false (cut t).1 (cut t).2 := exposed_subFrom _ hs hds rfl
  rw [show leftOver false (cut t).1 ++ glue (cut t).2 = t from glue_cut t] at hexposed
  rw [containsAddress_iff, Re.sub_eq_subFrom, hexposed, not_not]

end ApiTests.Logging
