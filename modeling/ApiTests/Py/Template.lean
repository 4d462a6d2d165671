import ApiTests.Py.Re
import ApiTests.Py.Replace

/-!
# Texts with placeholders

A template is a text made of characters and placeholders in braces. `fillOf` replaces every
placeholder at once. `replaceEach` replaces one after another, each time the first occurrence of the
placeholder, as a loop over `str.replace(…, 1)` does. `partsOf` cuts a text at the matches of
`{([^{}]+)}`.

Results:
* `replaceEach_eq_fill`: **one after another is all at once**, where no value has an opening brace.
* `mem_fillOf`, `countP_fillOf`: what a filled template has of characters that no value has.
* `sourceOf_partsOf`, `proper_partsOf`: the parts make up the text, and where it has no other braces
  it is a template.
-/

namespace ApiTests.Py

/-- `{`. -/
abbrev openBrace : Nat := 0x7B

/-- `}`. -/
abbrev closeBrace : Nat := 0x7D

/-- `[^{}]`. -/
def noBrace (c : Nat) : Bool := c != openBrace && c != closeBrace

/-- A piece of a template. -/
inductive TemplatePart where
  | char (c : Nat)
  | hole (name : Text)
  deriving Repr, DecidableEq

namespace TemplatePart

/-- The piece as it is written. -/
def source : TemplatePart → Text
  | char c => [c]
  | hole name => openBrace :: (name ++ [closeBrace])

/-- The piece with a value in its place. -/
def fill (value : Text → Text) : TemplatePart → Text
  | char c => [c]
  | hole name => value name

/-- The name of a placeholder. -/
def name? : TemplatePart → Option Text
  | char _ => none
  | hole name => some name

/-- The characters outside the placeholders. -/
def literal : TemplatePart → Text
  | char c => [c]
  | hole _ => []

/-- No brace stands in the piece but around a placeholder. -/
def Proper : TemplatePart → Prop
  | char c => noBrace c = true
  | hole name => name ≠ [] ∧ ∀ c ∈ name, noBrace c = true

end TemplatePart

/-- The placeholder of a name. -/
def placeholder (name : Text) : Text := openBrace :: (name ++ [closeBrace])

/-- A template as it is written. -/
def sourceOf (parts : List TemplatePart) : Text := parts.flatMap TemplatePart.source

/-- A template with a value for every placeholder. -/
def fillOf (value : Text → Text) (parts : List TemplatePart) : Text :=
  parts.flatMap (TemplatePart.fill value)

/-- The names of the placeholders, in order. -/
def namesOf (parts : List TemplatePart) : List Text := parts.filterMap TemplatePart.name?

/-- The replacements one after another, each of the first occurrence. -/
def replaceEach (value : Text → Text) (names : List Text) (t : Text) : Text :=
  names.foldl (fun t name => replaceFirst (placeholder name) (value name) t) t

variable {value : Text → Text} {parts : List TemplatePart}

theorem openBrace_notMem {t : Text} (h : ∀ c ∈ t, noBrace c = true) : openBrace ∉ t := by
  intro hmem
  exact absurd (h _ hmem) (by decide)

/-- Behind a front without an opening brace, the replacements find the placeholders in order. -/
theorem replaceEach_append (hparts : ∀ p ∈ parts, p.Proper)
    (hvalue : ∀ name ∈ namesOf parts, openBrace ∉ value name) {front : Text}
    (hfront : openBrace ∉ front) :
    replaceEach value (namesOf parts) (front ++ sourceOf parts) = front ++ fillOf value parts := by
  induction parts generalizing front with
  | nil => rfl
  | cons p parts ih =>
    have hrest : ∀ q ∈ parts, q.Proper := fun q hq => hparts q (List.mem_cons_of_mem _ hq)
    have hp := hparts p List.mem_cons_self
    cases p with
    | char c =>
      have hc : openBrace ∉ front ++ [c] := by
        rw [List.mem_append, not_or]
        exact ⟨hfront, openBrace_notMem fun d hd => List.mem_singleton.mp hd ▸ hp⟩
      have := ih hrest hvalue hc
      rw [List.append_assoc, List.append_assoc] at this
      exact this
    | hole name =>
      have hname : namesOf (.hole name :: parts) = name :: namesOf parts := rfl
      rw [hname, List.forall_mem_cons] at hvalue
      have hfilled : openBrace ∉ front ++ value name := by
        rw [List.mem_append, not_or]
        exact ⟨hfront, hvalue.1⟩
      have hfirst : replaceFirst (placeholder name) (value name)
          (front ++ sourceOf (.hole name :: parts)) = (front ++ value name) ++ sourceOf parts := by
        rw [List.append_assoc]
        exact replaceFirst_append hfront (sourceOf parts)
      have hfill : front ++ value name ++ fillOf value parts =
        front ++ fillOf value (.hole name :: parts) := List.append_assoc _ _ _
      rw [hname, replaceEach, List.foldl_cons, hfirst, ← hfill]
      exact ih hrest hvalue.2 hfilled

/-- **The replacements one after another are the replacement of all at once.** -/
theorem replaceEach_eq_fill (hparts : ∀ p ∈ parts, p.Proper)
    (hvalue : ∀ name ∈ namesOf parts, openBrace ∉ value name) :
    replaceEach value (namesOf parts) (sourceOf parts) = fillOf value parts :=
  replaceEach_append hparts hvalue List.not_mem_nil

theorem mem_namesOf {name : Text} : name ∈ namesOf parts ↔ .hole name ∈ parts := by
  unfold namesOf
  rw [List.mem_filterMap]
  constructor
  · rintro ⟨p, hp, hname⟩
    cases p with
    | char c => exact nomatch hname
    | hole name' =>
      cases hname
      exact hp
  · exact fun h => ⟨_, h, rfl⟩

/-- A character of a filled template is one of the template, or of a value. -/
theorem mem_fillOf {c : Nat} (h : c ∈ fillOf value parts) :
    .char c ∈ parts ∨ ∃ name ∈ namesOf parts, c ∈ value name := by
  obtain ⟨p, hp, hc⟩ := List.mem_flatMap.mp h
  cases p with
  | char d =>
    rw [TemplatePart.fill, List.mem_singleton] at hc
    rw [hc]
    exact Or.inl hp
  | hole name => exact Or.inr ⟨name, mem_namesOf.mpr hp, hc⟩

/-- A filled template has as many of the characters that no value has as stand outside its
placeholders. -/
theorem countP_fillOf {P : Nat → Bool} (hvalue : ∀ name ∈ namesOf parts, (value name).countP P = 0) :
    (fillOf value parts).countP P = (parts.flatMap TemplatePart.literal).countP P := by
  unfold fillOf
  rw [List.countP_flatMap, List.countP_flatMap]
  refine congrArg List.sum (List.map_congr_left fun p hp => ?_)
  cases p with
  | char c => rfl
  | hole name => exact hvalue name (mem_namesOf.mpr hp)

/-- What a template has of a brace: those outside its placeholders, and one in each. -/
theorem count_sourceOf {brace : Nat} (hbrace : brace = openBrace ∨ brace = closeBrace) :
    ∀ {parts : List TemplatePart}, (∀ name ∈ namesOf parts, ∀ c ∈ name, noBrace c = true) →
      (sourceOf parts).count brace =
        (parts.flatMap TemplatePart.literal).count brace + (namesOf parts).length
  | [], _ => rfl
  | .char c :: parts, h => by
    have ih : (sourceOf parts).count brace =
        (parts.flatMap TemplatePart.literal).count brace + (namesOf parts).length :=
      count_sourceOf hbrace h
    have hsource : sourceOf (.char c :: parts) = [c] ++ sourceOf parts := rfl
    have hliteral : (TemplatePart.char c :: parts).flatMap TemplatePart.literal =
      [c] ++ parts.flatMap TemplatePart.literal := rfl
    have hnames : namesOf (.char c :: parts) = namesOf parts := rfl
    rw [hsource, hliteral, hnames, List.count_append, List.count_append, ih, Nat.add_assoc]
  | .hole name :: parts, h => by
    have hnames : namesOf (.hole name :: parts) = name :: namesOf parts := rfl
    rw [hnames, List.forall_mem_cons] at h
    have ih := count_sourceOf hbrace h.2
    have hsource : sourceOf (.hole name :: parts) =
      (openBrace :: (name ++ [closeBrace])) ++ sourceOf parts := rfl
    have hliteral : (TemplatePart.hole name :: parts).flatMap TemplatePart.literal =
      parts.flatMap TemplatePart.literal := rfl
    have hname : name.count brace = 0 := by
      rw [List.count_eq_zero]
      intro hmem
      have := h.1 brace hmem
      rcases hbrace with rfl | rfl
      · exact absurd this (by decide)
      · exact absurd this (by decide)
    have hone : (openBrace :: (name ++ [closeBrace])).count brace = 1 := by
      rw [List.count_cons, List.count_append, hname]
      rcases hbrace with rfl | rfl
      · rfl
      · rfl
    rw [hsource, hliteral, hnames, List.count_append, hone, ih, List.length_cons]
    omega

/-! ## The cut -/

/-- The group of the name. -/
abbrev placeholderGroup : Nat := 1

/-- `{([^{}]+)}`. -/
def placeholderRe : Re :=
  .seqs [.str [openBrace], .group placeholderGroup (.rep 1 noBrace), .str [closeBrace]]

/-- `placeholderRe.findall(t)`: the names. -/
def findPlaceholders (t : Text) : List Text :=
  (placeholderRe.pieces t).filterMap fun
    | .keep _ => none
    | .hit _ m => some (m.get placeholderGroup)

/-- A piece of the scan. -/
def TemplatePart.ofPiece : Re.Piece → TemplatePart
  | .keep c => .char c
  | .hit _ m => .hole (m.get placeholderGroup)

/-- A text, cut at its placeholders. -/
def partsOf (t : Text) : List TemplatePart := (placeholderRe.pieces t).map TemplatePart.ofPiece

theorem namesOf_partsOf (t : Text) : namesOf (partsOf t) = findPlaceholders t := by
  unfold namesOf partsOf findPlaceholders
  rw [List.filterMap_map]
  refine List.filterMap_congr fun p _ => ?_
  cases p with
  | keep c => rfl
  | hit u m => rfl

theorem consumes_placeholderRe : Re.Consumes placeholderRe := Re.consumes_str.seq_left

/-- A match is a placeholder. -/
theorem mem_run_placeholderRe {x y : Cursor} (h : y ∈ placeholderRe.run x) :
    y.get placeholderGroup ≠ [] ∧ (∀ c ∈ y.get placeholderGroup, noBrace c = true) ∧
      x.ahead = placeholder (y.get placeholderGroup) ++ y.ahead := by
  simp only [placeholderRe, Re.seqs] at h
  obtain ⟨x₁, h₁, h⟩ := Re.mem_run_seq.mp h
  obtain ⟨v₁, hv₁, rfl⟩ := Re.mem_run_str.mp h₁
  obtain ⟨x₂, h₂, h⟩ := Re.mem_run_seq.mp h
  obtain ⟨z, hz, name, hname, rfl⟩ := Re.mem_run_group.mp h₂
  obtain ⟨u, v₂, hv₂, hu, hlength, rfl⟩ := Re.mem_run_rep.mp hz
  obtain rfl : name = u := List.append_cancel_right (hname.symm.trans hv₂)
  obtain ⟨v₃, hv₃, rfl⟩ := Re.mem_run_str.mp h
  simp only [Cursor.after_ahead] at hv₂ hv₃
  change name ≠ [] ∧ (∀ c ∈ name, noBrace c = true) ∧ x.ahead = placeholder name ++ v₃
  refine ⟨List.ne_nil_of_length_pos hlength, hu, ?_⟩
  rw [hv₁, hv₂, hv₃]
  simp [placeholder]

theorem ofPiece_spec (t : Text) : ∀ p ∈ placeholderRe.pieces t,
    (TemplatePart.ofPiece p).source = p.source ∧
      ∀ name, TemplatePart.ofPiece p = .hole name → name ≠ [] ∧ ∀ c ∈ name, noBrace c = true := by
  refine Re.forall_mem_piecesFrom consumes_placeholderRe (fun behind c cs _ => ?_)
    (fun behind u v m hm hv => ?_) t.length [] t (Nat.le_refl _)
  · exact ⟨rfl, fun name h => (nomatch h)⟩
  · obtain ⟨hne, hname, hahead⟩ := mem_run_placeholderRe (Re.first_mem hm)
    rw [hv] at hahead
    refine ⟨(List.append_cancel_right hahead).symm, fun name h => ?_⟩
    cases h
    exact ⟨hne, hname⟩

/-- The parts make up the text. -/
theorem sourceOf_partsOf (t : Text) : sourceOf (partsOf t) = t := by
  unfold sourceOf partsOf
  rw [List.flatMap_map]
  refine Eq.trans ?_ (Re.source_piecesFrom consumes_placeholderRe t.length [] t (Nat.le_refl _))
  exact List.flatMap_congr fun p hp => (ofPiece_spec t p hp).1

theorem name_partsOf {t name : Text} (h : name ∈ namesOf (partsOf t)) :
    name ≠ [] ∧ ∀ c ∈ name, noBrace c = true := by
  obtain ⟨p, hp, heq⟩ := List.mem_map.mp (mem_namesOf.mp h)
  exact (ofPiece_spec t p hp).2 name heq

/-- **A text with no more braces than its placeholders have is a template.** -/
theorem proper_partsOf {t : Text} (hopen : t.count openBrace = (findPlaceholders t).length)
    (hclose : t.count closeBrace = (findPlaceholders t).length) : ∀ p ∈ partsOf t, p.Proper := by
  have hnames : ∀ name ∈ namesOf (partsOf t), ∀ c ∈ name, noBrace c = true :=
    fun name h => (name_partsOf h).2
  have hnone : ∀ {brace}, brace = openBrace ∨ brace = closeBrace →
      t.count brace = (findPlaceholders t).length → .char brace ∉ partsOf t := by
    intro brace hbrace hcount hmem
    have := count_sourceOf hbrace hnames
    rw [sourceOf_partsOf, hcount, ← namesOf_partsOf] at this
    have hzero : ((partsOf t).flatMap TemplatePart.literal).count brace = 0 := by omega
    rw [List.count_eq_zero] at hzero
    exact hzero (List.mem_flatMap.mpr ⟨_, hmem, List.mem_singleton.mpr rfl⟩)
  intro p hp
  cases p with
  | char c =>
    change (c != openBrace && c != closeBrace) = true
    rw [Bool.and_eq_true, bne_iff_ne, bne_iff_ne]
    constructor
    · rintro rfl
      exact hnone (Or.inl rfl) hopen hp
    · rintro rfl
      exact hnone (Or.inr rfl) hclose hp
  | hole name => exact name_partsOf (mem_namesOf.mpr hp)

end ApiTests.Py
