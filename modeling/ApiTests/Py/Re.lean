import ApiTests.Py.Text
import Mathlib.Tactic.Common

/-!
# Backtracking patterns: the ordered matches of Python's `re`

`Re` is the fragment of `re` whose repetitions are greedy runs of one character class
(`[…]{n,}`, `[…]*`, `[…]+`), with sequence, ordered alternative, optional part, capturing group,
one-character lookaround, word boundary, `^` and `$`. A `Cursor` is a position in a text with the
groups captured so far. `run r x` lists every cursor `r` can reach from `x` **in the order the
backtracking matcher tries them**, so `first`, the head of that list, is the match `re` returns.

* `pieces r t` cuts `t` at the leftmost non-overlapping matches, as `re.finditer` does;
  `sub r repl t` replaces each match by `repl` of its final cursor (`re.sub`). A match of the empty
  text, which no pattern here has, would be replaced in front of the character it stands before.
* `matchPrefix` is `Pattern.match`, `search` is `Pattern.search` as a test.

Results:
* `mem_run_*`: what each constructor reaches, with the captured text written out. They turn a
  match of a pattern into a decomposition of the text.
* `run_sound`: a match consumes a prefix of what lies ahead.
* `forall_mem_piecesFrom`: a property of all pieces; `source_piecesFrom`: the pieces make up the
  text.
* `subFrom_keep`, `subFrom_hit`: the substitution, stretch by stretch.
* `infix_of_infix_sub`: a substitution that puts bracketed marks in creates nothing outside them.
-/

namespace ApiTests.Py

/-- A pattern. -/
inductive Re where
  /-- The empty pattern. -/
  | eps
  /-- One character of a class. -/
  | cls (p : Nat → Bool)
  /-- A greedy run `[…]{n,}`. -/
  | rep (n : Nat) (p : Nat → Bool)
  | seq (r s : Re)
  /-- `r|s`, `r` first. -/
  | alt (r s : Re)
  /-- `r?`, greedy. -/
  | opt (r : Re)
  /-- The capturing group number `i`. -/
  | group (i : Nat) (r : Re)
  /-- `(?<![…])`. -/
  | notBehind (p : Nat → Bool)
  /-- `(?![…])`. -/
  | notAhead (p : Nat → Bool)
  /-- `\b`, `w` telling the word characters. -/
  | boundary (w : Nat → Bool)
  /-- `^`. -/
  | atStart
  /-- `$`: the end of the text, or before a final `\n`. -/
  | atEnd

/-- A position: what was passed (nearest character first), what lies ahead, the groups. -/
structure Cursor where
  behind : Text
  ahead : Text
  groups : List (Nat × Text)
  deriving Repr, DecidableEq

namespace Cursor

/-- The cursor behind `u`, with `v` ahead. -/
def after (x : Cursor) (u v : Text) : Cursor := { x with behind := u.reverse ++ x.behind, ahead := v }

/-- The cursor `k` characters further. -/
def skip (x : Cursor) (k : Nat) : Cursor := x.after (x.ahead.take k) (x.ahead.drop k)

/-- The text between `x` and a later cursor `y`. -/
def upTo (x y : Cursor) : Text := x.ahead.take (x.ahead.length - y.ahead.length)

/-- The last capture of group `i`. -/
def get (x : Cursor) (i : Nat) : Text := (x.groups.lookup i).getD []

@[simp] theorem after_behind (x : Cursor) (u v : Text) :
    (x.after u v).behind = u.reverse ++ x.behind := rfl

@[simp] theorem after_ahead (x : Cursor) (u v : Text) : (x.after u v).ahead = v := rfl

@[simp] theorem after_groups (x : Cursor) (u v : Text) : (x.after u v).groups = x.groups := rfl

theorem after_after (x : Cursor) (u v u' v' : Text) :
    (x.after u v).after u' v' = x.after (u ++ u') v' := by
  simp [after]

end Cursor

/-- Whether the head of a text is in the class. -/
def headIn (p : Nat → Bool) : Text → Bool
  | [] => false
  | c :: _ => p c

@[simp] theorem headIn_nil (p : Nat → Bool) : headIn p [] = false := rfl

@[simp] theorem headIn_cons (p : Nat → Bool) (c : Nat) (t : Text) : headIn p (c :: t) = p c := rfl

namespace Re

/-- The cursors `r` reaches from `x`, in the order a backtracking matcher tries them. -/
def run : Re → Cursor → List Cursor
  | eps, x => [x]
  | cls p, x => if headIn p x.ahead then [x.skip 1] else []
  | rep n p, x =>
    let k := (x.ahead.takeWhile p).length
    (List.range (k + 1 - n)).map fun i => x.skip (k - i)
  | seq r s, x => (run r x).flatMap (run s)
  | alt r s, x => run r x ++ run s x
  | opt r, x => run r x ++ [x]
  | group i r, x => (run r x).map fun y => { y with groups := (i, x.upTo y) :: y.groups }
  | notBehind p, x => if headIn p x.behind then [] else [x]
  | notAhead p, x => if headIn p x.ahead then [] else [x]
  | boundary w, x => if headIn w x.behind = headIn w x.ahead then [] else [x]
  | atStart, x => if x.behind = [] then [x] else []
  | atEnd, x => if x.ahead = [] ∨ x.ahead = [lf] then [x] else []

attribute [local simp] run

/-- The match at the cursor `x`, if any: the first one the matcher finds. -/
def first (r : Re) (x : Cursor) : Option Cursor := (r.run x).head?

/-- `Pattern.match(t)`. -/
def matchPrefix (r : Re) (t : Text) : Option Cursor := r.first ⟨[], t, []⟩

/-- A piece of a scanned text: a character no match covers, or a match and its text. -/
inductive Piece where
  | keep (c : Nat)
  | hit (text : Text) (m : Cursor)

/-- The scan from a position, `k` characters of which the last match still covers. -/
def piecesFrom (r : Re) : Text → Nat → Text → List Piece
  | _, _, [] => []
  | behind, k + 1, c :: cs => piecesFrom r (c :: behind) k cs
  | behind, 0, c :: cs =>
    match r.first ⟨behind, c :: cs, []⟩ with
    | none => .keep c :: piecesFrom r (c :: behind) 0 cs
    | some m =>
      match Cursor.upTo ⟨behind, c :: cs, []⟩ m with
      | [] => .hit [] m :: .keep c :: piecesFrom r (c :: behind) 0 cs
      | d :: ds => .hit (d :: ds) m :: piecesFrom r (c :: behind) ds.length cs

/-- A text cut at the leftmost non-overlapping matches. -/
def pieces (r : Re) (t : Text) : List Piece := piecesFrom r [] 0 t

/-- What stands for a piece after the substitution. -/
def Piece.render (repl : Cursor → Text) : Piece → Text
  | .keep c => [c]
  | .hit _ m => repl m

/-- `Pattern.sub(repl, t)`. -/
def sub (r : Re) (repl : Cursor → Text) (t : Text) : Text :=
  (pieces r t).flatMap (Piece.render repl)

/-- `Pattern.search(t)` as a test. -/
def search (r : Re) (t : Text) : Bool :=
  (pieces r t).any fun p => match p with
    | .keep _ => false
    | .hit _ _ => true

/-- A pattern's literal text. -/
def str : Text → Re
  | [] => eps
  | c :: cs => seq (cls fun d => d == c) (str cs)

/-- The sequence of several patterns. -/
def seqs : List Re → Re
  | [] => eps
  | [r] => r
  | r :: rs => seq r (seqs rs)

/-- The ordered alternative of several patterns. -/
def alts : List Re → Re
  | [] => cls fun _ => false
  | [r] => r
  | r :: rs => alt r (alts rs)

/-! ## What a match reaches -/

variable {r s : Re} {x y : Cursor} {p : Nat → Bool}

@[simp] theorem mem_run_eps : y ∈ run eps x ↔ y = x := List.mem_singleton

theorem mem_run_seq : y ∈ run (seq r s) x ↔ ∃ z ∈ run r x, y ∈ run s z := List.mem_flatMap

theorem mem_run_alt : y ∈ run (alt r s) x ↔ y ∈ run r x ∨ y ∈ run s x := List.mem_append

theorem mem_run_opt : y ∈ run (opt r) x ↔ y ∈ run r x ∨ y = x := by
  rw [run, List.mem_append, List.mem_singleton]

theorem mem_run_cls : y ∈ run (cls p) x ↔
    ∃ c v, x.ahead = c :: v ∧ p c = true ∧ y = x.after [c] v := by
  cases hx : x.ahead with
  | nil => simp [run, hx]
  | cons c v =>
    rw [run, hx, headIn_cons]
    split
    · rename_i hp
      simp [Cursor.skip, hx, hp]
    · rename_i hp
      simp [hp]

theorem takeWhile_append_stop {u v : Text} (hu : ∀ c ∈ u, p c = true) (hv : headIn p v = false) :
    (u ++ v).takeWhile p = u := by
  rw [List.takeWhile_append_of_pos hu]
  cases v with
  | nil => simp
  | cons c v => simp [show p c = false from hv]

theorem dropWhile_append_stop {u v : Text} (hu : ∀ c ∈ u, p c = true) (hv : headIn p v = false) :
    (u ++ v).dropWhile p = v := by
  rw [List.dropWhile_append_of_pos hu]
  cases v with
  | nil => rfl
  | cons c v => exact List.dropWhile_cons_of_neg (by simpa using hv)

/-- A longest run stops before another character. -/
theorem headIn_dropWhile (p : Nat → Bool) (t : Text) : headIn p (t.dropWhile p) = false := by
  cases hd : t.dropWhile p with
  | nil => rfl
  | cons c v =>
    have := List.head?_dropWhile_not p t
    rw [hd] at this
    simpa using this

/-- Two longest runs of one class. -/
theorem append_inj_of_stop {u v u' v' : Text} (hu : ∀ c ∈ u, p c = true) (hv : headIn p v = false)
    (hu' : ∀ c ∈ u', p c = true) (hv' : headIn p v' = false) (h : u ++ v = u' ++ v') :
    u = u' ∧ v = v' := by
  have hrun : u = u' := by
    rw [← takeWhile_append_stop hu hv, h, takeWhile_append_stop hu' hv']
  subst hrun
  exact ⟨rfl, List.append_cancel_left h⟩

theorem length_le_takeWhile {u v : Text} (hu : ∀ c ∈ u, p c = true) :
    u.length ≤ ((u ++ v).takeWhile p).length := by
  rw [List.takeWhile_append_of_pos hu, List.length_append]
  exact Nat.le_add_right _ _

theorem mem_run_rep {n : Nat} : y ∈ run (rep n p) x ↔
    ∃ u v, x.ahead = u ++ v ∧ (∀ c ∈ u, p c = true) ∧ n ≤ u.length ∧ y = x.after u v := by
  simp only [run, List.mem_map, List.mem_range]
  constructor
  · rintro ⟨i, hi, rfl⟩
    have hpre : x.ahead.take ((x.ahead.takeWhile p).length - i) <+: x.ahead.takeWhile p := by
      rw [List.prefix_iff_eq_take.mp (List.takeWhile_prefix p (l := x.ahead))]
      simp only [List.length_take]
      exact List.take_prefix_take_left (by omega)
    have hle : (x.ahead.takeWhile p).length ≤ x.ahead.length :=
      (List.takeWhile_prefix p).length_le
    refine ⟨_, _, (List.take_append_drop _ _).symm, fun c hc => ?_, ?_, rfl⟩
    · exact List.mem_takeWhile_imp (hpre.subset hc)
    · rw [List.length_take]
      omega
  · rintro ⟨u, v, hx, hu, hn, rfl⟩
    have hk := length_le_takeWhile (v := v) hu
    rw [← hx] at hk
    refine ⟨(x.ahead.takeWhile p).length - u.length, by omega, ?_⟩
    have : (x.ahead.takeWhile p).length - ((x.ahead.takeWhile p).length - u.length) = u.length := by
      omega
    rw [this, Cursor.skip, hx, List.take_left, List.drop_left]

theorem mem_run_notBehind : y ∈ run (notBehind p) x ↔ headIn p x.behind = false ∧ y = x := by
  rw [run]
  split <;> simp_all

theorem mem_run_notAhead : y ∈ run (notAhead p) x ↔ headIn p x.ahead = false ∧ y = x := by
  rw [run]
  split <;> simp_all

theorem mem_run_boundary : y ∈ run (boundary p) x ↔
    headIn p x.behind ≠ headIn p x.ahead ∧ y = x := by
  rw [run]
  split <;> simp_all

theorem mem_run_atStart : y ∈ run atStart x ↔ x.behind = [] ∧ y = x := by
  rw [run]
  split <;> simp_all

theorem mem_run_atEnd : y ∈ run atEnd x ↔ (x.ahead = [] ∨ x.ahead = [lf]) ∧ y = x := by
  rw [run]
  split <;> simp_all

theorem mem_run_str {w : Text} : y ∈ run (str w) x ↔ ∃ v, x.ahead = w ++ v ∧ y = x.after w v := by
  induction w generalizing x with
  | nil => simp [str, Cursor.after]
  | cons c w ih =>
    rw [str, mem_run_seq]
    constructor
    · rintro ⟨z, hz, hy⟩
      obtain ⟨d, v, hx, hd, rfl⟩ := mem_run_cls.mp hz
      obtain ⟨v', hv', rfl⟩ := ih.mp hy
      rw [beq_iff_eq] at hd
      subst hd
      rw [Cursor.after_ahead] at hv'
      exact ⟨v', by rw [hx, hv']; rfl, Cursor.after_after x [d] v w v'⟩
    · rintro ⟨v, hx, rfl⟩
      exact ⟨x.after [c] (w ++ v), mem_run_cls.mpr ⟨c, w ++ v, hx, beq_self_eq_true c, rfl⟩,
        ih.mpr ⟨v, rfl, (Cursor.after_after x [c] (w ++ v) w v).symm⟩⟩

/-- **A match consumes a prefix of what lies ahead.** -/
theorem run_sound : ∀ {r : Re} {x y : Cursor}, y ∈ run r x →
    ∃ u, x.ahead = u ++ y.ahead ∧ y.behind = u.reverse ++ x.behind
  | eps, x, y, h => by
    rw [mem_run_eps.mp h]
    exact ⟨[], rfl, rfl⟩
  | cls p, x, y, h => by
    obtain ⟨c, v, hx, -, rfl⟩ := mem_run_cls.mp h
    exact ⟨[c], hx, rfl⟩
  | rep n p, x, y, h => by
    obtain ⟨u, v, hx, -, -, rfl⟩ := mem_run_rep.mp h
    exact ⟨u, hx, rfl⟩
  | seq r s, x, y, h => by
    obtain ⟨z, hz, hy⟩ := mem_run_seq.mp h
    obtain ⟨u, hu, hub⟩ := run_sound hz
    obtain ⟨v, hv, hvb⟩ := run_sound hy
    exact ⟨u ++ v, by rw [hu, hv, List.append_assoc], by rw [hvb, hub]; simp⟩
  | alt r s, x, y, h => (mem_run_alt.mp h).elim run_sound run_sound
  | opt r, x, y, h => by
    rcases mem_run_opt.mp h with h | rfl
    · exact run_sound h
    · exact ⟨[], rfl, rfl⟩
  | group i r, x, y, h => by
    obtain ⟨z, hz, rfl⟩ := List.mem_map.mp h
    obtain ⟨u, hu, hub⟩ := run_sound hz
    exact ⟨u, hu, hub⟩
  | notBehind p, x, y, h => ⟨[], by rw [(mem_run_notBehind.mp h).2]; exact ⟨rfl, rfl⟩⟩
  | notAhead p, x, y, h => ⟨[], by rw [(mem_run_notAhead.mp h).2]; exact ⟨rfl, rfl⟩⟩
  | boundary p, x, y, h => ⟨[], by rw [(mem_run_boundary.mp h).2]; exact ⟨rfl, rfl⟩⟩
  | atStart, x, y, h => ⟨[], by rw [(mem_run_atStart.mp h).2]; exact ⟨rfl, rfl⟩⟩
  | atEnd, x, y, h => ⟨[], by rw [(mem_run_atEnd.mp h).2]; exact ⟨rfl, rfl⟩⟩

theorem upTo_eq {u : Text} (h : x.ahead = u ++ y.ahead) : x.upTo y = u := by
  rw [Cursor.upTo, h]
  simp

/-- A group captures the text its pattern consumes. -/
theorem mem_run_group {i : Nat} : y ∈ run (group i r) x ↔
    ∃ z ∈ run r x, ∃ u, x.ahead = u ++ z.ahead ∧ y = { z with groups := (i, u) :: z.groups } := by
  rw [run, List.mem_map]
  refine exists_congr fun z => and_congr_right fun hz => ⟨?_, ?_⟩
  · rintro rfl
    obtain ⟨u, hu, -⟩ := run_sound hz
    exact ⟨u, hu, by rw [upTo_eq hu]⟩
  · rintro ⟨u, hu, rfl⟩
    rw [upTo_eq hu]

theorem first_mem (h : first r x = some y) : y ∈ run r x := List.mem_of_mem_head? h

theorem first_eq_none_iff : first r x = none ↔ ∀ y, y ∉ run r x := by
  rw [first, List.head?_eq_none_iff, List.eq_nil_iff_forall_not_mem]

/-- Where every match agrees on `f`, so does the first one. -/
theorem map_first_eq {β : Type} {f : Cursor → β} {b : β} (hy : y ∈ run r x)
    (h : ∀ z ∈ run r x, f z = b) : (first r x).map f = some b := by
  cases hf : first r x with
  | none => exact absurd hy (first_eq_none_iff.mp hf y)
  | some z => rw [Option.map_some, h z (first_mem hf)]

/-! ## The first match -/

theorem first_seq (h : first (seq r s) x = some y) : ∃ z ∈ run r x, first s z = some y := by
  rw [first, run, List.head?_flatMap] at h
  exact List.exists_of_findSome?_eq_some h

theorem first_group {i : Nat} : first (group i r) x =
    (first r x).map fun y => { y with groups := (i, x.upTo y) :: y.groups } := by
  rw [first, run, List.head?_map]
  rfl

/-- A greedy run is as long as it can be. -/
theorem first_rep {n : Nat} (h : first (rep n p) x = some y) :
    ∃ u v, x.ahead = u ++ v ∧ (∀ c ∈ u, p c = true) ∧ headIn p v = false ∧ n ≤ u.length ∧
      y = x.after u v := by
  rw [first, run, List.head?_map, Option.map_eq_some_iff] at h
  obtain ⟨i, hi, rfl⟩ := h
  rw [List.head?_range] at hi
  split_ifs at hi with hn
  obtain rfl : 0 = i := by simpa using hi
  have htake : x.ahead.take (x.ahead.takeWhile p).length = x.ahead.takeWhile p :=
    (List.prefix_iff_eq_take.mp (List.takeWhile_prefix p)).symm
  have hdrop : x.ahead.drop (x.ahead.takeWhile p).length = x.ahead.dropWhile p := calc
    _ = (x.ahead.takeWhile p ++ x.ahead.dropWhile p).drop (x.ahead.takeWhile p).length := by
      rw [List.takeWhile_append_dropWhile]
    _ = x.ahead.dropWhile p := List.drop_left
  refine ⟨_, _, (List.takeWhile_append_dropWhile (p := p)).symm, fun c hc => ?_,
    headIn_dropWhile p x.ahead, ?_, ?_⟩
  · exact List.mem_takeWhile_imp hc
  · omega
  · rw [Nat.sub_zero, Cursor.skip, htake, hdrop]

/-! ## The scan -/

theorem piecesFrom_skip (r : Re) : ∀ (u v behind : Text),
    piecesFrom r behind u.length (u ++ v) = piecesFrom r (u.reverse ++ behind) 0 v
  | [], _, _ => rfl
  | c :: u, v, behind => by
    rw [List.length_cons, List.cons_append, piecesFrom, piecesFrom_skip r u v]
    simp

/-- Where nothing matches, the character is kept. -/
theorem piecesFrom_miss {behind cs : Text} {c : Nat}
    (h : first r ⟨behind, c :: cs, []⟩ = none) :
    piecesFrom r behind 0 (c :: cs) = .keep c :: piecesFrom r (c :: behind) 0 cs := by
  rw [piecesFrom, h]

/-- A match is one piece, and the scan goes on behind it. -/
theorem piecesFrom_hit {behind u v : Text} {m : Cursor} (hu : u ≠ [])
    (h : first r ⟨behind, u ++ v, []⟩ = some m) (hm : m.ahead = v) :
    piecesFrom r behind 0 (u ++ v) = .hit u m :: piecesFrom r (u.reverse ++ behind) 0 v := by
  obtain ⟨c, cs, rfl⟩ := List.exists_cons_of_ne_nil hu
  have hup : Cursor.upTo ⟨behind, c :: (cs ++ v), []⟩ m = c :: cs := upTo_eq (by rw [hm]; rfl)
  rw [List.cons_append] at h ⊢
  rw [piecesFrom, h]
  simp only [hup]
  rw [piecesFrom_skip]
  simp

/-- The text a piece was cut from. -/
def Piece.source : Piece → Text
  | .keep c => [c]
  | .hit u _ => u

/-- A match consumes at least one character. -/
def Consumes (r : Re) : Prop := ∀ x y, y ∈ run r x → y.ahead ≠ x.ahead

theorem length_ahead_le (hy : y ∈ run r x) : y.ahead.length ≤ x.ahead.length := by
  obtain ⟨u, hu, -⟩ := run_sound hy
  rw [hu, List.length_append]
  exact Nat.le_add_left _ _

theorem Consumes.length_lt (hr : Consumes r) (hy : y ∈ run r x) :
    y.ahead.length < x.ahead.length := by
  refine lt_of_le_of_ne (length_ahead_le hy) fun hlen => hr x y hy ?_
  obtain ⟨u, hu, -⟩ := run_sound hy
  rw [hu, List.length_append] at hlen
  have : u = [] := List.length_eq_zero_iff.mp (by omega)
  rw [hu, this, List.nil_append]

theorem consumes_rep {n : Nat} (hn : n ≠ 0) : Consumes (.rep n p) := by
  intro x y hy hsame
  obtain ⟨u, v, hx, -, hle, rfl⟩ := mem_run_rep.mp hy
  rw [Cursor.after_ahead] at hsame
  have := congrArg List.length hx
  rw [← hsame, List.length_append] at this
  omega

theorem consumes_str {c : Nat} {w : Text} : Consumes (str (c :: w)) := by
  intro x y hy hsame
  obtain ⟨v, hx, rfl⟩ := mem_run_str.mp hy
  rw [Cursor.after_ahead] at hsame
  have := congrArg List.length hx
  rw [← hsame, List.length_append, List.length_cons] at this
  omega

theorem Consumes.seq_left (hr : Consumes r) : Consumes (.seq r s) := by
  intro x y hy hsame
  obtain ⟨z, hz, hy⟩ := mem_run_seq.mp hy
  have := hr.length_lt hz
  have := length_ahead_le hy
  rw [hsame] at this
  omega

theorem Consumes.seq_right (hs : Consumes s) : Consumes (.seq r s) := by
  intro x y hy hsame
  obtain ⟨z, hz, hy⟩ := mem_run_seq.mp hy
  have := hs.length_lt hy
  have := length_ahead_le hz
  rw [hsame] at *
  omega

/-- **One step of the scan**: a kept character that starts no match, or a match. -/
theorem piecesFrom_cons (hr : Consumes r) (behind : Text) (c : Nat) (cs : Text) :
    (first r ⟨behind, c :: cs, []⟩ = none ∧
      piecesFrom r behind 0 (c :: cs) = .keep c :: piecesFrom r (c :: behind) 0 cs) ∨
    ∃ u v m, u ≠ [] ∧ c :: cs = u ++ v ∧ first r ⟨behind, c :: cs, []⟩ = some m ∧ m.ahead = v ∧
      piecesFrom r behind 0 (c :: cs) = .hit u m :: piecesFrom r (u.reverse ++ behind) 0 v := by
  cases hf : first r ⟨behind, c :: cs, []⟩ with
  | none => exact Or.inl ⟨rfl, piecesFrom_miss hf⟩
  | some m =>
    obtain ⟨u, hu, -⟩ := run_sound (first_mem hf)
    have hne : u ≠ [] := by
      rintro rfl
      exact hr _ _ (first_mem hf) hu.symm
    refine Or.inr ⟨u, m.ahead, m, hne, hu, rfl, rfl, ?_⟩
    rw [show (⟨behind, c :: cs, []⟩ : Cursor).ahead = c :: cs from rfl] at hu
    rw [hu] at hf ⊢
    exact piecesFrom_hit hne hf rfl

/-- **A property of every piece**: of each kept character where nothing matches, and of each
match. -/
theorem forall_mem_piecesFrom (hr : Consumes r) {P : Piece → Prop}
    (hkeep : ∀ behind c cs, first r ⟨behind, c :: cs, []⟩ = none → P (.keep c))
    (hhit : ∀ behind u v m, first r ⟨behind, u ++ v, []⟩ = some m → m.ahead = v → P (.hit u m)) :
    ∀ (n : Nat) (behind t : Text), t.length ≤ n → ∀ p ∈ piecesFrom r behind 0 t, P p
  | _, _, [], _, p, hp => absurd hp (by simp [piecesFrom])
  | n + 1, behind, c :: cs, hn, p, hp => by
    have hlen : cs.length ≤ n := by simpa using hn
    rcases piecesFrom_cons hr behind c cs with ⟨hf, h⟩ | ⟨u, v, m, hu, hcs, hf, hm, h⟩ <;>
      rw [h] at hp <;> rcases List.mem_cons.mp hp with rfl | hp
    · exact hkeep _ _ _ hf
    · exact forall_mem_piecesFrom hr hkeep hhit n _ cs hlen p hp
    · exact hhit _ _ _ _ (hcs ▸ hf) hm
    · refine forall_mem_piecesFrom hr hkeep hhit n _ v ?_ p hp
      have := congrArg List.length hcs
      have := List.length_pos_iff.mpr hu
      simp only [List.length_cons, List.length_append] at *
      omega

/-- The pieces make up the text. -/
theorem source_piecesFrom (hr : Consumes r) : ∀ (n : Nat) (behind t : Text), t.length ≤ n →
    (piecesFrom r behind 0 t).flatMap Piece.source = t
  | _, _, [], _ => rfl
  | n + 1, behind, c :: cs, hn => by
    have hlen : cs.length ≤ n := by simpa using hn
    rcases piecesFrom_cons hr behind c cs with ⟨-, h⟩ | ⟨u, v, m, hu, hcs, -, -, h⟩ <;>
      rw [h, List.flatMap_cons]
    · rw [source_piecesFrom hr n _ cs hlen]
      rfl
    · have hv : v.length ≤ n := by
        have := congrArg List.length hcs
        have := List.length_pos_iff.mpr hu
        simp only [List.length_cons, List.length_append] at *
        omega
      rw [source_piecesFrom hr n _ v hv, hcs]
      rfl

/-! ## The substitution -/

/-- The substitution from a position on. -/
def subFrom (r : Re) (repl : Cursor → Text) (behind t : Text) : Text :=
  (piecesFrom r behind 0 t).flatMap (Piece.render repl)

theorem sub_eq_subFrom (r : Re) (repl : Cursor → Text) (t : Text) :
    sub r repl t = subFrom r repl [] t := rfl

variable {repl : Cursor → Text}

@[simp] theorem subFrom_nil (behind : Text) : subFrom r repl behind [] = [] := rfl

/-- Where nothing matches, the character is kept. -/
theorem subFrom_miss {behind cs : Text} {c : Nat} (h : first r ⟨behind, c :: cs, []⟩ = none) :
    subFrom r repl behind (c :: cs) = c :: subFrom r repl (c :: behind) cs := by
  unfold subFrom
  rw [piecesFrom_miss h, List.flatMap_cons]
  rfl

/-- A stretch in which no match starts is kept. -/
theorem subFrom_keep : ∀ {u v behind : Text},
    (∀ u₁ c u₂, u = u₁ ++ c :: u₂ → first r ⟨u₁.reverse ++ behind, c :: (u₂ ++ v), []⟩ = none) →
      subFrom r repl behind (u ++ v) = u ++ subFrom r repl (u.reverse ++ behind) v
  | [], _, _, _ => rfl
  | c :: u, v, behind, h => by
    have hrest : subFrom r repl (c :: behind) (u ++ v) =
        u ++ subFrom r repl (u.reverse ++ c :: behind) v := subFrom_keep fun u₁ d u₂ hu => by
      have := h (c :: u₁) d u₂ (by rw [hu]; rfl)
      simpa using this
    have hmiss : first r ⟨behind, c :: (u ++ v), []⟩ = none := h [] c u rfl
    rw [List.cons_append, subFrom_miss hmiss, hrest]
    simp

/-- A match is replaced. -/
theorem subFrom_hit {behind u v : Text} {m : Cursor} (hu : u ≠ [])
    (h : first r ⟨behind, u ++ v, []⟩ = some m) (hm : m.ahead = v) :
    subFrom r repl behind (u ++ v) = repl m ++ subFrom r repl (u.reverse ++ behind) v := by
  unfold subFrom
  rw [piecesFrom_hit hu h hm, List.flatMap_cons]
  rfl

/-- A text without matches is kept. -/
theorem sub_eq_self {t : Text}
    (h : ∀ u c v, t = u ++ c :: v → first r ⟨u.reverse, c :: v, []⟩ = none) : sub r repl t = t := by
  have hkeep : subFrom r repl [] (t ++ []) = t ++ subFrom r repl (t.reverse ++ []) [] :=
    subFrom_keep fun u c v ht => by simpa using h u c v ht
  rw [sub_eq_subFrom]
  simpa using hkeep

/-- A property of every character of the text and of the replacements. -/
theorem forall_mem_sub (hr : Consumes r) {P : Nat → Prop} {t : Text} (ht : ∀ c ∈ t, P c)
    (hrepl : ∀ m, ∀ c ∈ repl m, P c) : ∀ c ∈ sub r repl t, P c := by
  intro c hc
  obtain ⟨piece, hpiece, hc⟩ := List.mem_flatMap.mp hc
  cases piece with
  | hit u m => exact hrepl m c hc
  | keep d =>
    obtain rfl : c = d := List.mem_singleton.mp hc
    refine ht c ?_
    rw [← source_piecesFrom hr t.length [] t le_rfl]
    exact List.mem_flatMap.mpr ⟨_, hpiece, List.mem_singleton.mpr rfl⟩

theorem sub_ne_nil (hr : Consumes r) {t : Text} (ht : t ≠ []) (hrepl : ∀ m, repl m ≠ []) :
    sub r repl t ≠ [] := by
  rw [sub, Ne, List.flatMap_eq_nil_iff]
  intro hnil
  refine ht ?_
  rw [← source_piecesFrom hr t.length [] t le_rfl, List.flatMap_eq_nil_iff]
  intro piece hpiece
  have := hnil piece hpiece
  cases piece with
  | keep c => cases this
  | hit u m => exact absurd this (hrepl m)

/-! ## Marks -/

/-- What holds no separator lies on one side of it. -/
theorem infix_or_infix {a x y : Text} {sep : Nat} (ha : sep ∉ a) (h : a <:+: x ++ sep :: y) :
    a <:+: x ∨ a <:+: y := by
  obtain ⟨p, q, h⟩ := h
  rcases List.append_eq_append_iff.mp h with ⟨z, hx, -⟩ | ⟨z, hpa, hy⟩
  · exact Or.inl ⟨p, z, hx.symm⟩
  · cases z with
    | nil => exact Or.inl ⟨p, [], by simpa using hpa⟩
    | cons d z =>
      rw [List.cons_append, List.cons.injEq] at hy
      obtain ⟨rfl, rfl⟩ := hy
      rcases List.append_eq_append_iff.mp hpa with ⟨w, -, hw⟩ | ⟨w, -, hw⟩
      · exact absurd (hw ▸ List.mem_append_right w List.mem_cons_self) ha
      · cases w with
        | nil =>
          refine absurd ?_ ha
          rw [show a = sep :: z from hw.symm]
          exact List.mem_cons_self
        | cons e w =>
          rw [List.cons_append, List.cons.injEq] at hw
          exact Or.inr ⟨w, q, by rw [hw.2]⟩

/-- A mark: a text between two brackets. -/
def mark (open' close : Nat) (mid : Text) : Text := open' :: mid ++ [close]

/-- Every match is replaced by a part of it from its start, and a mark. -/
def Marks (r : Re) (repl : Cursor → Text) (m : Text) : Prop :=
  ∀ behind u v y, first r ⟨behind, u ++ v, []⟩ = some y → y.ahead = v →
    ∃ g, g <+: u ∧ repl y = g ++ m

/-- **A substitution that puts marks in creates nothing outside them**: what it leaves without a
bracket, and not inside a mark, stood in the text before. -/
theorem infix_of_infix_sub {open' close : Nat} {mid a t : Text} (hr : Consumes r)
    (hmarks : Marks r repl (mark open' close mid)) (hopen : open' ∉ a) (hclose : close ∉ a)
    (hmid : ¬ a <:+: mid) (h : a <:+: sub r repl t) : a <:+: t := by
  have hpieces : ∀ p ∈ pieces r t, ∀ u m, p = .hit u m →
      ∃ g, g <+: u ∧ repl m = g ++ mark open' close mid := by
    refine forall_mem_piecesFrom hr (fun _ _ _ _ _ _ hp => (nomatch hp)) ?_ t.length [] t le_rfl
    rintro behind u v m hfirst hm _ _ ⟨rfl, rfl⟩
    exact hmarks behind u v m hfirst hm
  have hscan : ∀ (ps : List Piece), (∀ p ∈ ps, ∀ u m, p = .hit u m →
      ∃ g, g <+: u ∧ repl m = g ++ mark open' close mid) →
      ∀ kept : Text, a <:+: kept ++ ps.flatMap (Piece.render repl) →
        a <:+: kept ++ ps.flatMap Piece.source := by
    intro ps
    induction ps with
    | nil => exact fun _ _ h => h
    | cons p ps ih =>
      intro hps kept h
      have ih := ih fun q hq => hps q (List.mem_cons_of_mem p hq)
      cases p with
      | keep c =>
        have := ih (kept ++ [c]) (by simpa [Piece.render] using h)
        simpa [Piece.source] using this
      | hit u m =>
        obtain ⟨g, ⟨g', rfl⟩, hg⟩ := hps _ List.mem_cons_self u m rfl
        have h : a <:+: (kept ++ g) ++ open' :: (mid ++ close :: ps.flatMap (Piece.render repl)) := by
          simpa [Piece.render, hg, mark] using h
        rcases infix_or_infix hopen h with h | h
        · exact h.trans ⟨[], g' ++ ps.flatMap Piece.source, by simp [Piece.source]⟩
        · rcases infix_or_infix hclose h with h | h
          · exact absurd h hmid
          · have := ih [] h
            exact this.trans ⟨kept ++ (g ++ g'), [], by simp [Piece.source]⟩
  have := hscan (pieces r t) hpieces [] h
  rwa [List.nil_append, pieces, source_piecesFrom hr t.length [] t le_rfl] at this

end Re

end ApiTests.Py
