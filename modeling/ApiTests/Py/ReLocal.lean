import ApiTests.Py.Checks
import ApiTests.Py.Unicode

/-!
# Patterns that see no farther than a separator

Where no class of a pattern accepts a separator, and none of its assertions tells a separator from the
end of the text, its matches lie between separators and do not depend on what lies beyond.

Results:
* `run_local`: the cursors reached from two positions that agree up to the next separators.
* `sub_append_sep`: **a local substitution works on each side of a separator.**
-/

namespace ApiTests.Py.Re

variable {sep : Nat → Bool}

/-- A class that accepts no separator. -/
def Rejects (sep p : Nat → Bool) : Prop := ∀ c, sep c = true → p c = false

/-- A pattern that sees no farther than the next separators. -/
def Local (sep : Nat → Bool) : Re → Prop
  | eps => True
  | cls p => Rejects sep p
  | rep _ p => Rejects sep p
  | seq r s => Local sep r ∧ Local sep s
  | alt r s => Local sep r ∧ Local sep s
  | opt r => Local sep r
  | group _ r => Local sep r
  | notBehind p => Rejects sep p
  | notAhead p => Rejects sep p
  | boundary w => Rejects sep w
  | atStart => False
  | atEnd => False

theorem local_str {w : Text} (h : ∀ c ∈ w, sep c = false) : Local sep (str w) := by
  induction w with
  | nil => trivial
  | cons c w ih =>
    refine ⟨fun d hd => ?_, ih fun e he => h e (List.mem_cons_of_mem c he)⟩
    by_contra heq
    rw [Bool.not_eq_false, beq_iff_eq] at heq
    subst heq
    rw [h d List.mem_cons_self] at hd
    cases hd

theorem local_strI {w : Text} (h : ∀ d, sep d = true → ∀ c ∈ w, foldCase d ≠ foldCase c) :
    Local sep (strI w) := by
  induction w with
  | nil => trivial
  | cons c w ih =>
    refine ⟨fun d hd => ?_, ih fun d hd e he => h d hd e (List.mem_cons_of_mem c he)⟩
    exact beq_eq_false_iff_ne.mpr (h d hd c List.mem_cons_self)

/-- What lies ahead is nothing or a separator. -/
def Stops (sep : Nat → Bool) (t : Text) : Prop := ∀ p, Rejects sep p → headIn p t = false

/-- Two texts behind that no class tells apart. -/
def Like (sep : Nat → Bool) (b b' : Text) : Prop := ∀ p, Rejects sep p → headIn p b = headIn p b'

theorem stops_nil : Stops sep [] := fun _ _ => rfl

theorem stops_cons {c : Nat} {t : Text} (h : sep c = true) : Stops sep (c :: t) := fun _ hp => hp c h

theorem Like.append {b b' : Text} (h : Like sep b b') (u : Text) : Like sep (u ++ b) (u ++ b') := by
  intro p hp
  cases u with
  | nil => exact h p hp
  | cons c u => rfl

/-- A separator behind is like the start of the text. -/
theorem like_sep {c : Nat} {b : Text} (h : sep c = true) : Like sep (c :: b) [] := fun _ hp => hp c h

theorem takeWhile_append_stops {p : Nat → Bool} {v : Text} (hp : Rejects sep p) (hv : Stops sep v) :
    ∀ a : Text, (a ++ v).takeWhile p = a.takeWhile p
  | [] => by
    cases v with
    | nil => rfl
    | cons c v => exact List.takeWhile_cons_of_neg (by simpa using hv p hp)
  | c :: a => by
    rw [List.cons_append, List.takeWhile_cons, List.takeWhile_cons, takeWhile_append_stops hp hv a]

/-- Two cursors with one text up to `v` and `v'`. -/
structure Aligned (sep : Nat → Bool) (v v' : Text) (x y : Cursor) : Prop where
  ahead : ∃ a, x.ahead = a ++ v ∧ y.ahead = a ++ v'
  behind : Like sep x.behind y.behind
  groups : x.groups = y.groups

variable {r : Re} {v v' : Text} {x y : Cursor}

/-- Both go on over the same text. -/
theorem Aligned.after (h : Aligned sep v v' x y) (u a : Text) :
    Aligned sep v v' (x.after u (a ++ v)) (y.after u (a ++ v')) :=
  ⟨⟨a, rfl, rfl⟩, h.behind.append _, h.groups⟩

/-- Two aligned cursors have come over the same text. -/
theorem Aligned.upTo_eq {z w : Cursor} (h : Aligned sep v v' x y) (hzw : Aligned sep v v' z w)
    (hz : z ∈ run r x) (hw : w ∈ run r y) : x.upTo z = y.upTo w := by
  obtain ⟨a, hx, hy⟩ := h.ahead
  obtain ⟨a', hz', hw'⟩ := hzw.ahead
  obtain ⟨u, hu, -⟩ := run_sound hz
  obtain ⟨u', hu', -⟩ := run_sound hw
  have ha : a = u ++ a' := by
    rw [hx, hz', ← List.append_assoc] at hu
    exact List.append_cancel_right hu
  have ha' : a = u' ++ a' := by
    rw [hy, hw', ← List.append_assoc] at hu'
    exact List.append_cancel_right hu'
  rw [Re.upTo_eq hu, Re.upTo_eq hu', List.append_cancel_right (ha.symm.trans ha')]

theorem Aligned.headIn_ahead {p : Nat → Bool} (h : Aligned sep v v' x y) (hv : Stops sep v)
    (hv' : Stops sep v') (hp : Rejects sep p) : headIn p x.ahead = headIn p y.ahead := by
  obtain ⟨a, hx, hy⟩ := h.ahead
  rw [hx, hy]
  cases a with
  | nil => exact (hv p hp).trans (hv' p hp).symm
  | cons c a => rfl

/-- **The cursors a local pattern reaches** depend only on the text up to the separators. -/
theorem run_local (hv : Stops sep v) (hv' : Stops sep v') : ∀ {r : Re} {x y : Cursor}, r.Local sep →
    Aligned sep v v' x y → List.Forall₂ (Aligned sep v v') (run r x) (run r y)
  | eps, x, y, _, h => .cons h .nil
  | cls p, x, y, hr, h => by
    obtain ⟨a, hx, hy⟩ := h.ahead
    cases a with
    | nil =>
      rw [List.nil_append] at hx hy
      rw [run, run, hx, hy, hv p hr, hv' p hr]
      exact .nil
    | cons c a =>
      rw [run, run, hx, hy, List.cons_append, List.cons_append, headIn_cons, headIn_cons]
      split_ifs
      · refine .cons ?_ .nil
        have hskip : x.skip 1 = x.after [c] (a ++ v) := by simp [Cursor.skip, hx]
        have hskip' : y.skip 1 = y.after [c] (a ++ v') := by simp [Cursor.skip, hy]
        rw [hskip, hskip']
        exact h.after [c] a
      · exact .nil
  | rep n p, x, y, hr, h => by
    obtain ⟨a, hx, hy⟩ := h.ahead
    rw [run, run, hx, hy, takeWhile_append_stops hr hv, takeWhile_append_stops hr hv',
      List.forall₂_map_left_iff, List.forall₂_map_right_iff, List.forall₂_same]
    intro i _
    have hle : (a.takeWhile p).length - i ≤ a.length :=
      (Nat.sub_le _ _).trans (List.takeWhile_prefix p).length_le
    rw [Cursor.skip, Cursor.skip, hx, hy, List.take_append_of_le_length hle,
      List.take_append_of_le_length hle, List.drop_append_of_le_length hle,
      List.drop_append_of_le_length hle]
    exact h.after _ _
  | seq r s, x, y, hr, h => by
    rw [run, run]
    exact List.rel_flatMap (run_local hv hv' hr.1 h) fun z w hzw => run_local hv hv' hr.2 hzw
  | alt r s, x, y, hr, h => by
    rw [run, run]
    exact List.rel_append (run_local hv hv' hr.1 h) (run_local hv hv' hr.2 h)
  | opt r, x, y, hr, h => by
    rw [run, run]
    exact List.rel_append (run_local (r := r) hv hv' hr h) (.cons h .nil)
  | group i r, x, y, hr, h => by
    rw [run, run, List.forall₂_map_left_iff, List.forall₂_map_right_iff]
    refine forall₂_imp_mem (run_local (r := r) hv hv' hr h) fun z hz w hw hzw => ?_
    rw [h.upTo_eq hzw hz hw]
    exact ⟨hzw.ahead, hzw.behind, by rw [hzw.groups]⟩
  | notBehind p, x, y, hr, h => by
    rw [run, run, h.behind p hr]
    split_ifs
    · exact .nil
    · exact .cons h .nil
  | notAhead p, x, y, hr, h => by
    rw [run, run, h.headIn_ahead hv hv' hr]
    split_ifs
    · exact .nil
    · exact .cons h .nil
  | boundary w, x, y, hr, h => by
    rw [run, run, h.headIn_ahead hv hv' hr, h.behind w hr]
    split_ifs
    · exact .nil
    · exact .cons h .nil
  | atStart, _, _, hr, _ => hr.elim
  | atEnd, _, _, hr, _ => hr.elim

/-- The first matches correspond. -/
theorem first_local (hv : Stops sep v) (hv' : Stops sep v') (hr : r.Local sep)
    (h : Aligned sep v v' x y) :
    (first r x = none ∧ first r y = none) ∨
      ∃ z w, first r x = some z ∧ first r y = some w ∧ Aligned sep v v' z w ∧ x.upTo z = y.upTo w := by
  have hrun := run_local hv hv' hr h
  unfold first
  cases hx : run r x with
  | nil =>
    rw [hx, List.forall₂_nil_left_iff] at hrun
    rw [hrun]
    exact Or.inl ⟨rfl, rfl⟩
  | cons z zs =>
    cases hy : run r y with
    | nil =>
      rw [hx, hy] at hrun
      cases hrun
    | cons w ws =>
      have hz : z ∈ run r x := hx ▸ List.mem_cons_self
      have hw : w ∈ run r y := hy ▸ List.mem_cons_self
      rw [hx, hy] at hrun
      cases hrun with
      | cons hzw _ => exact Or.inr ⟨z, w, rfl, rfl, hzw, h.upTo_eq hzw hz hw⟩

/-! ## Substitution -/

variable {repl : Cursor → Text}

/-- A replacement made from the groups. -/
def FromGroups (repl : Cursor → Text) : Prop := ∀ m m', m.groups = m'.groups → repl m = repl m'

/-- **A local substitution up to a separator** does not depend on what follows it, nor on what stands
before a separator behind. -/
theorem subFrom_local (hr : r.Local sep) (hc : Consumes r) (hrepl : FromGroups repl)
    (hv : Stops sep v) : ∀ (n : Nat) (t b b' : Text), t.length ≤ n → Like sep b b' →
      subFrom r repl b (t ++ v) = subFrom r repl b' t ++ subFrom r repl (t.reverse ++ b) v
  | _, [], _, _, _, _ => rfl
  | n + 1, c :: t, b, b', hn, hb => by
    have haligned : Aligned sep v [] ⟨b, c :: t ++ v, []⟩ ⟨b', c :: t, []⟩ :=
      ⟨⟨c :: t, rfl, (List.append_nil _).symm⟩, hb, rfl⟩
    have hlen : t.length ≤ n := by simpa using hn
    rcases first_local hv stops_nil hr haligned with ⟨hnone, hnone'⟩ | ⟨m, m', hm, hm', hmm, -⟩
    · have hrest := subFrom_local hr hc hrepl hv n t (c :: b) (c :: b') hlen (hb.append [c])
      rw [List.cons_append] at hnone ⊢
      rw [subFrom_miss hnone, subFrom_miss hnone', hrest]
      simp
    · obtain ⟨a, ha, ha'⟩ := hmm.ahead
      obtain ⟨u, hu, -⟩ := run_sound (first_mem hm')
      rw [ha', List.append_nil] at hu
      have hne : u ≠ [] := by
        rintro rfl
        exact hc _ _ (first_mem hm') (by rw [ha', List.append_nil]; exact hu.symm)
      have hlen' : a.length ≤ n := by
        have := congrArg List.length hu
        have := List.length_pos_iff.mpr hne
        simp only [List.length_cons, List.length_append] at *
        omega
      have hrest := subFrom_local hr hc hrepl hv n a (u.reverse ++ b) (u.reverse ++ b') hlen'
        (hb.append _)
      change c :: t = u ++ a at hu
      rw [hu] at hm hm' ⊢
      rw [List.append_assoc] at hm ⊢
      rw [subFrom_hit hne hm ha, subFrom_hit hne hm' (by rw [ha', List.append_nil]),
        hrepl m m' hmm.groups, hrest, List.reverse_append, List.append_assoc, List.append_assoc]

/-- Texts behind that no class tells apart make no difference. -/
theorem subFrom_like (hr : r.Local sep) (hc : Consumes r) (hrepl : FromGroups repl) {b b' t : Text}
    (hb : Like sep b b') : subFrom r repl b t = subFrom r repl b' t := by
  have := subFrom_local hr hc hrepl stops_nil t.length t b b' le_rfl hb
  rwa [List.append_nil, subFrom_nil, List.append_nil] at this

/-- A separator starts no match. -/
theorem subFrom_sep (hr : r.Local sep) (hc : Consumes r) {c : Nat} (hsep : sep c = true) (b t : Text) :
    subFrom r repl b (c :: t) = c :: subFrom r repl (c :: b) t := by
  have hnone : first r ⟨b, c :: t, []⟩ = none := by
    rw [first_eq_none_iff]
    intro z hz
    have hstops : Stops sep (c :: t) := stops_cons hsep
    have haligned : Aligned sep (c :: t) (c :: t) ⟨b, c :: t, []⟩ ⟨b, c :: t, []⟩ :=
      ⟨⟨[], rfl, rfl⟩, fun _ _ => rfl, rfl⟩
    obtain ⟨w, -, hzw⟩ := exists_of_forall₂ (run_local hstops hstops hr haligned) hz
    obtain ⟨a, ha, -⟩ := hzw.ahead
    obtain ⟨u, hu, -⟩ := run_sound hz
    have hlen := congrArg List.length hu
    rw [ha] at hlen
    simp only [List.length_append, List.length_cons] at hlen
    have hnil : a = [] := List.length_eq_zero_iff.mp (by omega)
    exact hc _ _ hz (by rw [ha, hnil, List.nil_append])
  exact subFrom_miss hnone

/-- **A local substitution works on each side of a separator.** -/
theorem sub_append_sep (hr : r.Local sep) (hc : Consumes r) (hrepl : FromGroups repl) {c : Nat}
    (hsep : sep c = true) (t v : Text) :
    sub r repl (t ++ c :: v) = sub r repl t ++ c :: sub r repl v := by
  have hcut := subFrom_local hr hc hrepl (stops_cons (t := v) hsep) t.length t [] [] le_rfl fun _ _ => rfl
  have hfresh : subFrom r repl (c :: t.reverse) v = subFrom r repl [] v :=
    subFrom_like hr hc hrepl (like_sep hsep)
  rw [sub_eq_subFrom, hcut, List.append_nil, subFrom_sep hr hc hsep, hfresh, ← sub_eq_subFrom,
    ← sub_eq_subFrom]

theorem sub_cons_sep (hr : r.Local sep) (hc : Consumes r) (hrepl : FromGroups repl) {c : Nat}
    (hsep : sep c = true) (v : Text) : sub r repl (c :: v) = c :: sub r repl v :=
  sub_append_sep hr hc hrepl hsep [] v

/-- A text up to a separator is replaced on its own. -/
theorem sub_append_left (hr : r.Local sep) (hc : Consumes r) (hrepl : FromGroups repl) {t : Text}
    (ht : ∀ c ∈ t.getLast?, sep c = true) (v : Text) :
    sub r repl (t ++ v) = sub r repl t ++ sub r repl v ∧ (sub r repl t).getLast? = t.getLast? := by
  rcases List.eq_nil_or_concat' t with rfl | ⟨u, c, rfl⟩
  · exact ⟨rfl, rfl⟩
  · rw [List.getLast?_concat] at ht
    have hsep := ht c rfl
    have hend := sub_append_sep hr hc hrepl hsep u []
    rw [sub_eq_subFrom r repl [], subFrom_nil] at hend
    rw [hend, List.append_assoc, List.singleton_append,
      sub_append_sep hr hc hrepl hsep]
    simp

/-- So is a text from a separator on. -/
theorem sub_append_right (hr : r.Local sep) (hc : Consumes r) (hrepl : FromGroups repl) {v : Text}
    (hv : ∀ c ∈ v.head?, sep c = true) (t : Text) :
    sub r repl (t ++ v) = sub r repl t ++ sub r repl v ∧ (sub r repl v).head? = v.head? := by
  cases v with
  | nil => exact ⟨by rw [List.append_nil]; exact (List.append_nil _).symm, rfl⟩
  | cons c v =>
    have hsep := hv c rfl
    rw [sub_append_sep hr hc hrepl hsep, sub_cons_sep hr hc hrepl hsep]
    exact ⟨rfl, rfl⟩

end ApiTests.Py.Re
