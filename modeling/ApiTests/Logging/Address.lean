import ApiTests.Logging.RedactText

/-!
# Email addresses in redacted text (`logging.py:27-37, 169-188`)

An address is a local part, `@`, and at least two labels of which the last is at least two letters
(`IsAddress`). `EMAIL_RE` takes the maximal run of local characters before an `@` and the maximal run
of domain characters behind it, and only where the second one ends in a dot and letters: behind
`a@b.com.` or `a@b.com-` the run goes on, and nothing is redacted. A run of local characters that the
previous match has begun to eat is not taken either (`a@b.com_c@d.org`).

A text is cut at its `@`s (`cut`). `takes` says which of them `EMAIL_RE` removes, `Clean` that none
of the others stands in an address.

Results:
* `containsAddress_iff`: a text contains an address iff one of its `@`s is `Exposed`.
* `exposed_at_iff`, `exposed_mark_iff`: exposure is decided `@` by `@`, and a mark hides what stands in
  front of it.
* `isDomain_iff`: what the domain run of a match looks like.
-/

namespace ApiTests.Logging

open Py

/-! ## Addresses -/

/-- `[A-Za-z0-9._%+-]`. -/
def isAddressLocal (c : Nat) : Bool :=
  isAsciiLetter c || isDigit c || c == 46 || c == 95 || c == 37 || c == 43 || c == 45

/-- `[A-Za-z0-9-]`. -/
def isLabelChar (c : Nat) : Bool := isAsciiLetter c || isDigit c || c == 45

/-- Labels, each followed by a dot, and a last one of at least two letters. -/
def IsAddressDomain (d : Text) : Prop :=
  ∃ labels : List Text, ∃ last : Text, labels ≠ [] ∧
    (∀ label ∈ labels, label ≠ [] ∧ ∀ c ∈ label, isLabelChar c = true) ∧
    2 ≤ last.length ∧ (∀ c ∈ last, isAsciiLetter c = true) ∧
    d = labels.flatMap (fun label => label ++ lit ".") ++ last

/-- An email address. -/
def IsAddress (a : Text) : Prop :=
  ∃ l d, l ≠ [] ∧ (∀ c ∈ l, isAddressLocal c = true) ∧ IsAddressDomain d ∧ a = l ++ 64 :: d

/-- Some part of the text is an address. -/
def ContainsAddress (t : Text) : Prop := ∃ a, IsAddress a ∧ a <:+: t

/-! ## Where addresses stand -/

/-- The last character is in the class. -/
def endsIn (p : Nat → Bool) (t : Text) : Bool := headIn p t.reverse

/-- An address domain stands at the start. -/
def StartsDomain (t : Text) : Prop := ∃ d, IsAddressDomain d ∧ d <+: t

/-- `[A-Za-z0-9.-]`. -/
def isAddressDomainChar (c : Nat) : Bool := isLabelChar c || c == 46

theorem endsIn_append {p : Nat → Bool} (u : Text) {v : Text} (hv : v ≠ []) :
    endsIn p (u ++ v) = endsIn p v := by
  unfold endsIn
  rw [List.reverse_append]
  cases hr : v.reverse with
  | nil => exact absurd (List.reverse_eq_nil_iff.mp hr) hv
  | cons c cs => rfl

theorem endsIn_eq_true_iff {p : Nat → Bool} {t : Text} :
    endsIn p t = true ↔ ∃ u c, t = u ++ [c] ∧ p c = true := by
  unfold endsIn
  constructor
  · intro h
    cases hr : t.reverse with
    | nil =>
      rw [hr] at h
      exact nomatch h
    | cons c cs =>
      rw [hr] at h
      exact ⟨cs.reverse, c, by rw [← List.reverse_reverse t, hr, List.reverse_cons], h⟩
  · rintro ⟨u, c, rfl, hc⟩
    simpa using hc

theorem addressDomainChar_of_domain {d : Text} (h : IsAddressDomain d) :
    ∀ c ∈ d, isAddressDomainChar c = true := by
  obtain ⟨labels, last, -, hlabels, -, hlast, rfl⟩ := h
  intro c hc
  unfold isAddressDomainChar
  rcases List.mem_append.mp hc with hc | hc
  · obtain ⟨label, hlabel, hc⟩ := List.mem_flatMap.mp hc
    rcases List.mem_append.mp hc with hc | hc
    · rw [(hlabels label hlabel).2 c hc, Bool.true_or]
    · rw [List.mem_singleton.mp hc]
      rfl
  · rw [isLabelChar, hlast c hc]
    rfl

theorem domain_ne_nil {d : Text} (h : IsAddressDomain d) : d ≠ [] := by
  obtain ⟨labels, last, -, -, hlast, -, rfl⟩ := h
  refine List.append_ne_nil_of_right_ne_nil _ fun hnil => ?_
  rw [hnil] at hlast
  exact absurd hlast (by decide)

/-- A prefix of a class ends before what is not in the class. -/
theorem prefix_of_stop {p : Nat → Bool} {a x y : Text} (ha : ∀ c ∈ a, p c = true)
    (hy : headIn p y = false) (h : a <+: x ++ y) : a <+: x := by
  obtain ⟨q, h⟩ := h
  rcases List.append_eq_append_iff.mp h with ⟨z, rfl, -⟩ | ⟨z, rfl, rfl⟩
  · exact List.prefix_append _ _
  · cases z with
    | nil => rw [List.append_nil]
    | cons c z =>
      rw [List.cons_append, headIn_cons, ha c (by simp)] at hy
      exact nomatch hy

/-- Behind the run of domain characters nothing matters. -/
theorem startsDomain_stop {x y : Text} (hy : headIn isAddressDomainChar y = false) :
    StartsDomain (x ++ y) ↔ StartsDomain x :=
  ⟨fun ⟨d, hd, hp⟩ => ⟨d, hd, prefix_of_stop (addressDomainChar_of_domain hd) hy hp⟩,
    fun ⟨d, hd, hp⟩ => ⟨d, hd, hp.trans (List.prefix_append _ _)⟩⟩

theorem not_startsDomain_of_head {t : Text} (ht : headIn isAddressDomainChar t = false) :
    ¬ StartsDomain t := fun ⟨_, hd, hp⟩ =>
  domain_ne_nil hd (List.prefix_nil.mp (prefix_of_stop (addressDomainChar_of_domain hd) ht hp))

/-- An `@` with an address around it. -/
def Exposed (t : Text) : Prop :=
  ∃ u v, t = u ++ 64 :: v ∧ endsIn isAddressLocal u = true ∧ StartsDomain v

theorem containsAddress_iff {t : Text} : ContainsAddress t ↔ Exposed t := by
  constructor
  · rintro ⟨_, ⟨l, d, hl, hlocal, hd, rfl⟩, p, q, rfl⟩
    refine ⟨p ++ l, d ++ q, by simp, ?_, d, hd, List.prefix_append _ _⟩
    rw [endsIn_append p hl, endsIn_eq_true_iff]
    obtain ⟨l', c, rfl⟩ := (List.eq_nil_or_concat' l).resolve_left hl
    exact ⟨l', c, rfl, hlocal c (by simp)⟩
  · rintro ⟨u, v, rfl, hu, d, hd, q, rfl⟩
    obtain ⟨u', c, rfl, hc⟩ := endsIn_eq_true_iff.mp hu
    exact ⟨[c] ++ 64 :: d, ⟨[c], d, List.cons_ne_nil _ _, fun x hx => List.mem_singleton.mp hx ▸ hc,
      hd, rfl⟩, u', q, by simp⟩

theorem not_exposed_of_notMem {t : Text} (h : 64 ∉ t) : ¬ Exposed t := by
  rintro ⟨u, v, rfl, -⟩
  exact h (by simp)

/-- The first `@` of a text, and the others. -/
theorem exposed_at_iff {x y : Text} (hx : 64 ∉ x) :
    Exposed (x ++ 64 :: y) ↔ (endsIn isAddressLocal x = true ∧ StartsDomain y) ∨ Exposed y := by
  constructor
  · rintro ⟨u, v, h, hu, hv⟩
    rcases List.append_eq_append_iff.mp h with ⟨z, rfl, hz⟩ | ⟨z, rfl, hz⟩
    · cases z with
      | nil =>
        rw [List.append_nil] at hu
        exact Or.inl ⟨hu, (List.cons.inj hz).2 ▸ hv⟩
      | cons c z =>
        obtain ⟨rfl, rfl⟩ := List.cons.inj hz
        refine Or.inr ⟨z, v, rfl, ?_, hv⟩
        cases z with
        | nil =>
          rw [endsIn_append x (List.cons_ne_nil _ _)] at hu
          exact nomatch hu
        | cons c z =>
          rwa [List.append_cons, endsIn_append _ (List.cons_ne_nil _ _)] at hu
    · cases z with
      | nil =>
        rw [List.append_nil] at hx ⊢
        exact Or.inl ⟨hu, (List.cons.inj hz).2 ▸ hv⟩
      | cons c z =>
        obtain ⟨rfl, -⟩ := List.cons.inj hz
        exact absurd (by simp) hx
  · rintro (⟨hx, hy⟩ | ⟨u, v, rfl, hu, hv⟩)
    · exact ⟨x, y, rfl, hx, hy⟩
    · refine ⟨x ++ 64 :: u, v, by simp, ?_, hv⟩
      have hne : u ≠ [] := fun hnil => by
        rw [hnil] at hu
        exact nomatch hu
      rwa [List.append_cons, endsIn_append _ hne]

/-- In front of a mark nothing is exposed, and behind it the text starts anew. -/
theorem exposed_mark_iff {x y : Text} (hx : 64 ∉ x) :
    Exposed (x ++ redactedMark ++ y) ↔ Exposed y := by
  constructor
  · rintro ⟨u, v, h, hu, hv⟩
    have hnone : 64 ∉ x ++ redactedMark := fun hm =>
      (List.mem_append.mp hm).elim hx (by decide)
    rcases List.append_eq_append_iff.mp h with ⟨z, rfl, hz⟩ | ⟨z, hz, hy⟩
    · cases z with
      | nil =>
        rw [List.append_nil, endsIn_append x (by decide)] at hu
        exact absurd hu (by decide)
      | cons c z =>
        rw [endsIn_append _ (List.cons_ne_nil _ _)] at hu
        exact ⟨c :: z, v, hz, hu, hv⟩
    · cases z with
      | nil =>
        rw [List.append_nil] at hz
        rw [← hz, endsIn_append x (by decide)] at hu
        exact absurd hu (by decide)
      | cons c z =>
        obtain ⟨rfl, -⟩ := List.cons.inj hy
        rw [hz] at hnone
        exact absurd (by simp) hnone
  · rintro ⟨u, v, rfl, hu, hv⟩
    have hne : u ≠ [] := fun hnil => by
      rw [hnil] at hu
      exact nomatch hu
    exact ⟨x ++ redactedMark ++ u, v, by simp, by rwa [endsIn_append _ hne], hv⟩

/-! ## Texts cut at their `@`s -/

/-- The text before the first `@`, and what follows each `@` up to the next one. -/
def cut : Text → Text × List Text
  | [] => ([], [])
  | c :: cs => if c = 64 then ([], (cut cs).1 :: (cut cs).2) else (c :: (cut cs).1, (cut cs).2)

/-- The texts behind their `@`s. -/
def glue (ds : List Text) : Text := ds.flatMap fun d => 64 :: d

@[simp] theorem glue_cons (d : Text) (ds : List Text) : glue (d :: ds) = 64 :: (d ++ glue ds) := rfl

theorem glue_cut : ∀ t : Text, (cut t).1 ++ glue (cut t).2 = t
  | [] => rfl
  | c :: cs => by
    rw [cut]
    split
    · rename_i h
      rw [glue_cons, glue_cut cs, h, List.nil_append]
    · rw [List.cons_append, glue_cut cs]

theorem notMem_cut : ∀ t : Text, 64 ∉ (cut t).1 ∧ ∀ d ∈ (cut t).2, 64 ∉ d
  | [] => ⟨List.not_mem_nil, fun _ h => absurd h List.not_mem_nil⟩
  | c :: cs => by
    obtain ⟨hs, hds⟩ := notMem_cut cs
    rw [cut]
    split
    · exact ⟨List.not_mem_nil, List.forall_mem_cons.mpr ⟨hs, hds⟩⟩
    · rename_i h
      exact ⟨fun hm => (List.mem_cons.mp hm).elim (fun he => h he.symm) hs, hds⟩

theorem headIn_glue {p : Nat → Bool} (hp : p 64 = false) (ds : List Text) :
    headIn p (glue ds) = false := by
  cases ds with
  | nil => rfl
  | cons d ds => exact hp

/-- The run of domain characters at the start of a text ends, behind a first part and a dot, in at
least two letters. -/
def isDomain (d : Text) : Bool :=
  let run := d.takeWhile isDomainChar
  decide (2 ≤ (run.rtakeWhile isLetterI).length) &&
    match (run.rdropWhile isLetterI).reverse with
    | 46 :: _ :: _ => true
    | _ => false

/-- Whether `EMAIL_RE` removes the `@` between `s` and `d`; `previous` says whether it has removed the
one in front of `s`. -/
def takes (previous : Bool) (s d : Text) : Bool :=
  endsIn isLocalChar s && isDomain d && !(previous && s.all isLocalChar)

/-- Each `@` is removed, or stands in no address, or in one of which a neighbour's match takes the
local part or the domain. -/
def Clean : Bool → Text → List Text → Prop
  | _, _, [] => True
  | previous, s, d :: ds =>
    (takes previous s d = true ∨ ¬ (endsIn isAddressLocal s = true ∧ StartsDomain d) ∨
      (previous = true ∧ s.all isDomainChar = true) ∨
      (d.all isLocalChar = true ∧ ∃ d' ∈ ds.head?, isDomain d' = true)) ∧
    Clean (takes previous s d) d ds

theorem isDomain_iff {d : Text} : isDomain d = true ↔ ∃ x tld, d.takeWhile isDomainChar = x ++ 46 :: tld ∧
    x ≠ [] ∧ 2 ≤ tld.length ∧ ∀ c ∈ tld, isLetterI c = true := by
  have hdot : isLetterI 46 = false := by decide
  unfold isDomain
  simp only [Bool.and_eq_true, decide_eq_true_eq]
  constructor
  · rintro ⟨hlen, hfront⟩
    split at hfront
    · rename_i c cs hr
      refine ⟨(c :: cs).reverse, (d.takeWhile isDomainChar).rtakeWhile isLetterI, ?_, by simp, hlen,
        fun c hc => List.mem_rtakeWhile_imp hc⟩
      have hfront : (d.takeWhile isDomainChar).rdropWhile isLetterI = (c :: cs).reverse ++ [46] := by
        rw [← List.reverse_reverse ((d.takeWhile isDomainChar).rdropWhile isLetterI), hr]
        simp
      rw [List.append_cons, ← hfront, List.rdropWhile_append_rtakeWhile]
    · exact nomatch hfront
  · rintro ⟨x, tld, hrun, hx, hlen, htld⟩
    have hstop : ∀ h : x ++ [46] ≠ [], isLetterI ((x ++ [46]).getLast h) = false := fun h => by simpa
    rw [hrun, List.append_cons, rtakeWhile_append htld hstop, rdropWhile_append_of_pos htld,
      List.rdropWhile_concat_neg _ _ _ (by simp [hdot])]
    obtain ⟨x', c, rfl⟩ := (List.eq_nil_or_concat' x).resolve_left hx
    refine ⟨hlen, ?_⟩
    simp

end ApiTests.Logging
