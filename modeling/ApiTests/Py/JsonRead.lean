import ApiTests.Py.JsonRoundTrip

/-!
# What `json.loads` can return

A reader keeps a property of what is ahead of it (`S`, passed on to every suffix) and gives what it
reads a property (`P`): `Keeps S P`. The readers of the brackets, of a key, of a list and of a dict
pass these on, so that a property of numbers and one of texts become one of whole values.

Results:
* `keeps_readValue`: **the properties of the parts are those of every value**, however deep.
* `each_of_loads`: **what is read of a text without surrogates can be written and read back.**
* `keysDistinct_of_loads`: no dict that is read has a key twice.
-/

namespace ApiTests.Py

variable {ν α : Type} {numbers : JsonNumbers ν}

/-! ## Strings -/

theorem IsScalarText.suffix {t rest : Text} (ht : IsScalarText t) (h : rest <:+ t) : IsScalarText rest :=
  fun c hc => ht c (h.subset hc)

theorem readHex4_eq_some {t : Text} {r : Nat × Text} (h : readHex4 t = some r) :
    r.1 < 0x10000 ∧ r.2 <:+ t := by
  match t, h with
  | a :: b :: c :: d :: rest, h =>
    simp only [readHex4, Option.bind_eq_some_iff, Option.map_eq_some_iff] at h
    obtain ⟨a', ha, b', hb, c', hc, d', hd, rfl⟩ := h
    have ha := (readHexDigit_spec ha).1
    have hb := (readHexDigit_spec hb).1
    have hc := (readHexDigit_spec hc).1
    have hd := (readHexDigit_spec hd).1
    exact ⟨by simp only; omega, ⟨[a, b, c, d], rfl⟩⟩

/-- What follows does not start with the escape of a low surrogate. -/
def LowNext (rest : Text) : Prop :=
  ∃ t low, afterPrefix (lit "\\u") rest = some t ∧ readHex4 t = some low ∧
    isLowSurrogate low.1 = true

theorem afterPrefix_suffix {start t rest : Text} (h : afterPrefix start t = some rest) : rest <:+ t :=
  afterPrefix_eq_some h ▸ List.suffix_append _ _

theorem readUnicodeEscape_suffix {t : Text} {r : Nat × Text} (h : readUnicodeEscape t = some r) :
    r.2 <:+ t := by
  obtain ⟨first, hfirst, h⟩ := Option.bind_eq_some_iff.mp h
  have hsuffix := (readHex4_eq_some hfirst).2
  split_ifs at h
  · cases hafter : afterPrefix (lit "\\u") first.2 with
    | none =>
      rw [hafter] at h
      cases h
      exact hsuffix
    | some u =>
      rw [hafter] at h
      obtain ⟨low, hlow, rfl⟩ := Option.map_eq_some_iff.mp h
      split
      · exact ((readHex4_eq_some hlow).2.trans (afterPrefix_suffix hafter)).trans hsuffix
      · exact hsuffix
  · cases h
    exact hsuffix

theorem readStringChar_suffix {t : Text} {r : Nat × Text} (h : readStringChar t = some r) :
    r.2 <:+ t := by
  cases t with
  | nil => cases h
  | cons c rest =>
    rw [readStringChar] at h
    split_ifs at h
    · cases rest with
      | nil => cases h
      | cons d rest =>
        rw [readBackslash] at h
        split_ifs at h
        · exact (readUnicodeEscape_suffix h).trans ⟨[c, d], rfl⟩
        · obtain ⟨e, -, rfl⟩ := Option.map_eq_some_iff.mp h
          exact ⟨[c, d], rfl⟩
    · cases h
      exact List.suffix_cons c rest

theorem readChars_suffix : ∀ {fuel : Nat} {t : Text} {r : Text × Text},
    readChars fuel t = some r → r.2 <:+ t
  | 0, _, _, h => by cases h
  | fuel + 1, t, r, h => by
    rw [readChars] at h
    split_ifs at h
    · cases h
      exact List.tail_suffix t
    · obtain ⟨char, hchar, h⟩ := Option.bind_eq_some_iff.mp h
      obtain ⟨more, hmore, rfl⟩ := Option.map_eq_some_iff.mp h
      exact (readChars_suffix hmore).trans (readStringChar_suffix hchar)

/-- What one step of the reader of strings guarantees. -/
structure CharRead (r : Nat × Text) : Prop where
  bound : r.1 < 0x110000
  /-- A high surrogate is joined to a low one escaped behind it. -/
  high : isHighSurrogate r.1 = true → ¬ LowNext r.2

/-- The character of a pair lies above the basic plane. -/
theorem joinSurrogates_bounds {high low : Nat} (hhigh : isHighSurrogate high = true)
    (hlow : isLowSurrogate low = true) :
    0xFFFF < joinSurrogates high low ∧ joinSurrogates high low < 0x110000 := by
  simp only [isHighSurrogate, isLowSurrogate, Bool.and_eq_true, decide_eq_true_eq] at hhigh hlow
  unfold joinSurrogates
  omega

theorem charRead_unicodeEscape {t : Text} {r : Nat × Text} (h : readUnicodeEscape t = some r) :
    CharRead r := by
  obtain ⟨first, hfirst, h⟩ := Option.bind_eq_some_iff.mp h
  have hbound := (readHex4_eq_some hfirst).1
  by_cases hhigh : isHighSurrogate first.1 = true
  · rw [if_pos hhigh] at h
    cases hafter : afterPrefix (lit "\\u") first.2 with
    | none =>
      rw [hafter] at h
      cases h
      refine ⟨by omega, fun _ => ?_⟩
      rintro ⟨t', low, hafter', -⟩
      rw [hafter] at hafter'
      cases hafter'
    | some u =>
      rw [hafter] at h
      obtain ⟨low, hlow, heq⟩ := Option.map_eq_some_iff.mp h
      by_cases hpair : isLowSurrogate low.1 = true
      · rw [if_pos hpair] at heq
        subst heq
        refine ⟨(joinSurrogates_bounds hhigh hpair).2, fun hjoined => ?_⟩
        have habove := (joinSurrogates_bounds hhigh hpair).1
        simp only [isHighSurrogate, Bool.and_eq_true, decide_eq_true_eq] at hjoined
        omega
      · rw [if_neg hpair] at heq
        subst heq
        refine ⟨by omega, fun _ => ?_⟩
        rintro ⟨t', low', hafter', hlow', hisLow⟩
        rw [hafter, Option.some.injEq] at hafter'
        subst hafter'
        rw [hlow, Option.some.injEq] at hlow'
        subst hlow'
        exact hpair hisLow
  · rw [if_neg hhigh] at h
    cases h
    exact ⟨by omega, fun h => absurd h hhigh⟩

theorem unescape_lt {c d : Nat} (h : unescape c = some d) : d < 128 := by
  unfold unescape at h
  split_ifs at h with h1
  · cases h
    omega
  all_goals
    cases h
    decide

theorem charRead_stringChar {t : Text} (ht : IsScalarText t) {r : Nat × Text}
    (h : readStringChar t = some r) : CharRead r := by
  cases t with
  | nil => cases h
  | cons c rest =>
    rw [readStringChar] at h
    split_ifs at h with hcontrol hbackslash
    · cases rest with
      | nil => cases h
      | cons d rest =>
        rw [readBackslash] at h
        split_ifs at h with hu
        · exact charRead_unicodeEscape h
        · obtain ⟨e, he, rfl⟩ := Option.map_eq_some_iff.mp h
          have hascii := unescape_lt he
          refine ⟨by simp only; omega, fun hhigh => ?_⟩
          simp only [isHighSurrogate, Bool.and_eq_true, decide_eq_true_eq] at hhigh
          omega
    · cases h
      have hscalar := ht c List.mem_cons_self
      refine ⟨hscalar.1, fun hhigh => ?_⟩
      have hsurrogate := hscalar.2
      simp only [isHighSurrogate, isSurrogate, Bool.and_eq_true, Bool.and_eq_false_iff,
        decide_eq_true_eq, decide_eq_false_iff_not] at hhigh hsurrogate
      omega

/-- A low surrogate is read from its escape. -/
theorem lowNext_of_read {t : Text} (ht : IsScalarText t) {r : Nat × Text}
    (h : readStringChar t = some r) (hlow : isLowSurrogate r.1 = true) : LowNext t := by
  simp only [isLowSurrogate, Bool.and_eq_true, decide_eq_true_eq] at hlow
  cases t with
  | nil => cases h
  | cons c rest =>
    rw [readStringChar] at h
    split_ifs at h with hcontrol hbackslash
    · subst hbackslash
      cases rest with
      | nil => cases h
      | cons d rest =>
        rw [readBackslash] at h
        split_ifs at h with hu
        · subst hu
          obtain ⟨first, hfirst, h⟩ := Option.bind_eq_some_iff.mp h
          refine ⟨rest, first, afterPrefix_append _ _, hfirst, ?_⟩
          by_cases hhigh : isHighSurrogate first.1 = true
          · have hbounds : 0xD800 ≤ first.1 ∧ first.1 < 0xDC00 := by
              simpa only [isHighSurrogate, Bool.and_eq_true, decide_eq_true_eq] using hhigh
            rw [if_pos hhigh] at h
            cases hafter : afterPrefix (lit "\\u") first.2 with
            | none =>
              rw [hafter] at h
              cases h
              omega
            | some u =>
              rw [hafter] at h
              obtain ⟨low, -, heq⟩ := Option.map_eq_some_iff.mp h
              split_ifs at heq with hpair
              · have habove := (joinSurrogates_bounds hhigh hpair).1
                subst heq
                omega
              · subst heq
                omega
          · rw [if_neg hhigh] at h
            cases h
            simpa [isLowSurrogate] using hlow
        · obtain ⟨e, he, rfl⟩ := Option.map_eq_some_iff.mp h
          have := unescape_lt he
          simp only at hlow
          omega
    · cases h
      have hsurrogate := (ht c List.mem_cons_self).2
      simp only [isSurrogate, Bool.and_eq_false_iff, decide_eq_false_iff_not] at hsurrogate
      simp only at hlow
      omega

/-- **A string that is read has no surrogate pair in it.** -/
theorem unpaired_of_readChars : ∀ {fuel : Nat} {t : Text} {r : Text × Text}, IsScalarText t →
    readChars fuel t = some r →
      Unpaired r.1 ∧ ((∃ d ∈ r.1.head?, isLowSurrogate d = true) → LowNext t)
  | 0, _, _, _, h => by cases h
  | fuel + 1, t, r, ht, h => by
    rw [readChars] at h
    split_ifs at h with hquote
    · cases h
      refine ⟨⟨by simp, .nil⟩, ?_⟩
      rintro ⟨d, hd, -⟩
      cases hd
    · obtain ⟨char, hchar, h⟩ := Option.bind_eq_some_iff.mp h
      obtain ⟨more, hmore, rfl⟩ := Option.map_eq_some_iff.mp h
      have hread := charRead_stringChar ht hchar
      obtain ⟨hunpaired, hlow⟩ := unpaired_of_readChars (ht.suffix (readStringChar_suffix hchar)) hmore
      refine ⟨unpaired_cons.mpr ⟨hread.bound, ?_, hunpaired⟩, ?_⟩
      · rintro d hd ⟨hhigh, hislow⟩
        exact hread.high hhigh (hlow ⟨d, hd, hislow⟩)
      · rintro ⟨d, hd, hislow⟩
        obtain rfl : char.1 = d := Option.some.inj hd
        exact lowNext_of_read ht hchar hislow

/-! ## Values -/

/-- What is read of a text with `S` satisfies `P`, and what follows it has `S` again. -/
def Keeps (S : Text → Prop) (P : α → Prop) (read : Reader α) : Prop :=
  ∀ t r, S t → read t = .ok r → P r.1 ∧ S r.2

theorem skipJsonSpace_suffix (t : Text) : skipJsonSpace t <:+ t := List.dropWhile_suffix _

/-- A value without repeated keys, its numbers satisfying `N` and its texts `K`. -/
def IsDocument (N : ν → Prop) (K : Text → Prop) (v : Json ν) : Prop := v.KeysDistinct ∧ v.Each N K

namespace Dict

/-- The entries of a display are among its pairs. -/
theorem mem_of_mem_ofList {κ : Type} [DecidableEq κ] {l : List (κ × α)} {e : κ × α}
    (h : e ∈ (ofList l).entries) : e ∈ l := by
  have hfold : ∀ (l : List (κ × α)) (d : Dict κ α),
      e ∈ (l.foldl (fun d e => d.update (single e.1 e.2)) d).entries → e ∈ d.entries ∨ e ∈ l := by
    intro l
    induction l with
    | nil => exact fun d h => Or.inl h
    | cons p l ih =>
      intro d h
      rcases ih _ h with h | h
      · have h := (mem_entries_iff (d := d.update (single p.1 p.2))).mp (show (e.1, e.2) ∈ _ from h)
        rw [get?_update, get?_single] at h
        by_cases hk : e.1 = p.1
        · rw [if_pos hk, Option.some_or, Option.some.injEq] at h
          exact Or.inr (List.mem_cons.mpr (Or.inl (Prod.ext hk h.symm)))
        · rw [if_neg hk, Option.none_or] at h
          exact Or.inl (mem_entries_iff.mpr h)
      · exact Or.inr (List.mem_cons_of_mem _ h)
  exact (hfold l empty h).resolve_left List.not_mem_nil

end Dict

theorem readNatural_suffix {t : Text} {r : Text × Text} (h : readNatural t = some r) : r.2 <:+ t := by
  cases t with
  | nil => cases h
  | cons c rest =>
    rw [readNatural] at h
    split_ifs at h
    · cases h
      exact List.suffix_cons c rest
    · cases h
      exact (List.dropWhile_suffix _).trans (List.suffix_cons c rest)

theorem readInteger_suffix {t : Text} {r : Text × Text} (h : readInteger t = some r) : r.2 <:+ t := by
  unfold readInteger at h
  split at h
  · obtain ⟨s, hs, rfl⟩ := Option.map_eq_some_iff.mp h
    exact (readNatural_suffix hs).trans (List.tail_suffix t)
  · exact readNatural_suffix h

theorem readFraction_suffix (t : Text) : (readFraction t).2 <:+ t := by
  unfold readFraction
  split
  · exact (List.dropWhile_suffix _).trans (List.tail_suffix t)
  · exact List.suffix_rfl

theorem readExponent_suffix (t : Text) : (readExponent t).2 <:+ t := by
  cases t with
  | nil => exact List.suffix_rfl
  | cons c rest =>
    unfold readExponent
    simp only
    generalize (if rest.head? = some 43 ∨ rest.head? = some 45 then rest.take 1 else []) = sign
    split
    · exact ((List.dropWhile_suffix _).trans (List.drop_suffix _ _)).trans (List.suffix_cons c rest)
    · exact List.suffix_rfl

theorem readNumber_suffix {t : Text} {r : ν × Text} (h : readNumber numbers t = .ok r) : r.2 <:+ t := by
  unfold readNumber at h
  split at h
  · rename_i integer rest hinteger
    have hsuffix := (readExponent_suffix (readFraction rest).2).trans
      ((readFraction_suffix rest).trans (readInteger_suffix hinteger))
    simp only at h
    split at h
    · cases h
      exact hsuffix
    · cases h
  · split at h
    · rename_i name rest hread
      split at h
      · cases h
        exact (readConstant_eq_some hread).2 ▸ List.suffix_append _ _
      · cases h
    · cases h

section Keeps

variable {S : Text → Prop} (hS : ∀ {t rest : Text}, S t → rest <:+ t → S rest)

include hS

section Parts

variable {P : α → Prop} {read : Reader α}

theorem keeps_readSeparated (h : Keeps S P read) (closing : Nat) : ∀ fuel,
    Keeps S (fun items => ∀ x ∈ items, P x) (readSeparated read closing fuel)
  | 0, _, _, _, hread => by cases hread
  | fuel + 1, t, r, ht, hread => by
    rw [readSeparated] at hread
    obtain ⟨item, hitem, hread⟩ := bind_eq_ok_iff.mp hread
    obtain ⟨hP, hrest⟩ := h t item ht hitem
    have hskip := hS hrest (skipJsonSpace_suffix item.2)
    simp only at hread
    split_ifs at hread with hclosing hcomma
    · cases hread
      exact ⟨List.forall_mem_singleton.mpr hP, hS hskip (List.tail_suffix _)⟩
    · obtain ⟨more, hmore, hread⟩ := bind_eq_ok_iff.mp hread
      cases hread
      obtain ⟨hall, hend⟩ := keeps_readSeparated h closing fuel _ more
        (hS (hS hskip (List.tail_suffix _)) (skipJsonSpace_suffix _)) hmore
      exact ⟨List.forall_mem_cons.mpr ⟨hP, hall⟩, hend⟩

theorem keeps_readBracketed (h : Keeps S P read) (closing : Nat) :
    Keeps S (fun items => ∀ x ∈ items, P x) (readBracketed read closing) := by
  intro t r ht hread
  have hskip := hS ht (skipJsonSpace_suffix t)
  unfold readBracketed at hread
  simp only at hread
  split_ifs at hread with hclosing
  · cases hread
    exact ⟨List.forall_mem_nil _, hS hskip (List.tail_suffix _)⟩
  · exact keeps_readSeparated hS h closing _ _ r hskip hread

variable {K : Text → Prop} (hK : ∀ {t : Text} {r : Text × Text}, S t → readString t = some r → K r.1)

include hK

theorem keeps_readKey : Keeps S K readKey := by
  intro t r ht hread
  unfold readKey at hread
  split_ifs at hread
  cases hstring : readString t.tail with
  | none =>
    rw [hstring] at hread
    cases hread
  | some key =>
    rw [hstring] at hread
    have htail := hS ht (List.tail_suffix t)
    have hk := hK htail hstring
    have hrest := hS (hS htail (readChars_suffix hstring)) (skipJsonSpace_suffix _)
    simp only at hread
    split_ifs at hread
    cases hread
    exact ⟨hk, hS (hS hrest (List.tail_suffix _)) (skipJsonSpace_suffix _)⟩

theorem keeps_readEntry (h : Keeps S P read) : Keeps S (fun e => K e.1 ∧ P e.2) (readEntry read) := by
  intro t r ht hread
  obtain ⟨key, hkey, hread⟩ := bind_eq_ok_iff.mp hread
  obtain ⟨item, hitem, hread⟩ := bind_eq_ok_iff.mp hread
  cases hread
  obtain ⟨hk, hrest⟩ := keeps_readKey hS hK t key ht hkey
  obtain ⟨hP, hend⟩ := h key.2 item hrest hitem
  exact ⟨⟨hk, hP⟩, hend⟩

end Parts

variable {N : ν → Prop} {K : Text → Prop}

theorem keeps_readArray {read : Reader (Json ν)} (h : Keeps S (IsDocument N K) read) :
    Keeps S (IsDocument N K) (readArray read) := by
  intro t r ht hread
  obtain ⟨items, hitems, hread⟩ := bind_eq_ok_iff.mp hread
  cases hread
  obtain ⟨hall, hrest⟩ := keeps_readBracketed hS h 93 t items ht hitems
  exact ⟨⟨Json.keysDistinct_list_iff.mpr fun x hx => (hall x hx).1,
    Json.each_list_iff.mpr fun x hx => (hall x hx).2⟩, hrest⟩

variable (hK : ∀ {t : Text} {r : Text × Text}, S t → readString t = some r → K r.1)
  (hN : ∀ {t : Text} {r : ν × Text}, S t → readNumber numbers t = .ok r → N r.1)

include hK

theorem keeps_readObject {read : Reader (Json ν)} (h : Keeps S (IsDocument N K) read) :
    Keeps S (IsDocument N K) (readObject read) := by
  intro t r ht hread
  obtain ⟨entries, hentries, hread⟩ := bind_eq_ok_iff.mp hread
  cases hread
  obtain ⟨hall, hrest⟩ := keeps_readBracketed hS (keeps_readEntry hS hK h) 125 t entries ht hentries
  have hmem : ∀ e ∈ (Dict.ofList entries.1).entries, K e.1 ∧ IsDocument N K e.2 :=
    fun e he => hall e (Dict.mem_of_mem_ofList he)
  exact ⟨⟨Json.keysDistinct_dict_iff.mpr ⟨(Dict.ofList entries.1).nodup, fun e he => (hmem e he).2.1⟩,
    Json.each_dict_iff.mpr fun e he => ⟨(hmem e he).1, (hmem e he).2.2⟩⟩, hrest⟩

omit hK

include hN

theorem keeps_readAtom : Keeps S (IsDocument N K) (readAtom numbers) := by
  intro t r ht hread
  unfold readAtom at hread
  split at hread
  · rename_i name rest hconstant
    cases hread
    refine ⟨?_, hS ht ((readConstant_eq_some hconstant).2 ▸ List.suffix_append _ _)⟩
    simp only
    split <;> exact ⟨trivial, trivial⟩
  · obtain ⟨n, hn, hread⟩ := bind_eq_ok_iff.mp hread
    have hsuffix : n.2 <:+ t := readNumber_suffix hn
    cases hread
    exact ⟨⟨trivial, hN ht hn⟩, hS ht hsuffix⟩

include hK

/-- **Values that are read**, how deep they may be. -/
theorem keeps_readValue : ∀ fuel, Keeps S (IsDocument N K) (readValue numbers fuel)
  | 0, _, _, _, hread => by cases hread
  | fuel + 1, t, r, ht, hread => by
    have ih := keeps_readValue fuel
    have htail := hS ht (List.tail_suffix t)
    rw [readValue] at hread
    split_ifs at hread
    · cases hstring : readString t.tail with
      | none =>
        rw [hstring] at hread
        cases hread
      | some s =>
        rw [hstring] at hread
        cases hread
        exact ⟨⟨trivial, hK htail hstring⟩, hS htail (readChars_suffix hstring)⟩
    · exact keeps_readArray hS ih _ r htail hread
    · exact keeps_readObject hS hK ih _ r htail hread
    · exact keeps_readAtom hS hN t r ht hread

/-- **A document that is read.** -/
theorem isDocument_loads {t : Text} (ht : S t) {v : Json ν} (h : loads numbers t = .ok v) :
    IsDocument N K v := by
  unfold loads at h
  split_ifs at h
  obtain ⟨r, hr, h⟩ := bind_eq_ok_iff.mp h
  split_ifs at h
  cases h
  exact (keeps_readValue hS hK hN _ _ r (hS ht (skipJsonSpace_suffix t)) hr).1

end Keeps

/-- **A number that is read reads back** as it is written. -/
def Lawful (numbers : JsonNumbers ν) : Prop :=
  ∀ {t : Text} {r : ν × Text}, readNumber numbers t = .ok r → ReadsBack numbers r.1

/-- **What is read of a text without surrogates can be written and read back.** -/
theorem each_of_loads (hlawful : Lawful numbers) {t : Text} (ht : IsScalarText t) {v : Json ν}
    (h : loads numbers t = .ok v) : v.Each (ReadsBack numbers) Unpaired :=
  (isDocument_loads (S := IsScalarText) (fun ht => ht.suffix)
    (fun ht hread => (unpaired_of_readChars ht hread).1) (fun _ hread => hlawful hread) ht h).2

/-- What is read has no key twice. -/
theorem keysDistinct_of_loads {t : Text} {v : Json ν} (h : loads numbers t = .ok v) : v.KeysDistinct :=
  (isDocument_loads (S := fun _ => True) (N := fun _ => True) (K := fun _ => True)
    (fun _ _ => trivial) (fun _ _ => trivial) (fun _ _ => trivial) trivial h).1

/-- `json.loads`, its dicts known to have each key once. -/
def loadsValue (numbers : JsonNumbers ν) (t : Text) : Except JsonError (JsonValue ν) :=
  match h : loads numbers t with
  | .error e => .error e
  | .ok v => .ok ⟨v, keysDistinct_of_loads h⟩

theorem loadsValue_eq_ok {t : Text} {v : JsonValue ν} :
    loadsValue numbers t = .ok v ↔ loads numbers t = .ok v.json := by
  unfold loadsValue
  obtain ⟨json, hjson⟩ := v
  split
  · rename_i e h
    rw [h]
    simp
  · rename_i w h
    rw [Except.ok.injEq, JsonValue.mk.injEq]
    exact ⟨fun hw => hw ▸ h, fun h' => Except.ok.inj (h.symm.trans h')⟩

end ApiTests.Py
