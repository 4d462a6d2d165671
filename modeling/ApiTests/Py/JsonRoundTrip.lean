import ApiTests.Py.JsonReader

/-!
# Reading back what `json.dumps` has written

`Reads` says that a text reads as a value, whatever stops it. The encoders sort the entries of every
dict, so what reads back is the value with its dicts sorted, `Json.sortKeys`.

Results:
* `loads_dumpsIndented`: **what is written reads back as the value, its dicts sorted**, where the
  numbers read back and no text has a surrogate pair in it.
* `mem_dumpsIndented`: the characters of a document on lines of its own.
-/

namespace ApiTests.Py

variable {ν α : Type} {numbers : JsonNumbers ν}

/-! ## Sorted dicts -/

mutual

/-- The value with its dicts sorted by key. -/
def Json.sortKeys : Json ν → Json ν
  | .list items => .list (Json.sortKeysItems items)
  | .dict entries => .dict (sortByKey (Json.sortKeysEntries entries))
  | .null => .null
  | .bool b => .bool b
  | .number n => .number n
  | .str t => .str t

def Json.sortKeysItems : List (Json ν) → List (Json ν)
  | [] => []
  | item :: items => item.sortKeys :: Json.sortKeysItems items

def Json.sortKeysEntries : List (Text × Json ν) → List (Text × Json ν)
  | [] => []
  | (key, item) :: entries => (key, item.sortKeys) :: Json.sortKeysEntries entries

end

mutual

/-- Every number of the value satisfies `P` and every text `Q`, the keys among them. -/
def Json.Each (P : ν → Prop) (Q : Text → Prop) : Json ν → Prop
  | .list items => Json.EachItems P Q items
  | .dict entries => Json.EachEntries P Q entries
  | .number n => P n
  | .str t => Q t
  | _ => True

def Json.EachItems (P : ν → Prop) (Q : Text → Prop) : List (Json ν) → Prop
  | [] => True
  | item :: items => item.Each P Q ∧ Json.EachItems P Q items

def Json.EachEntries (P : ν → Prop) (Q : Text → Prop) : List (Text × Json ν) → Prop
  | [] => True
  | (key, item) :: entries => (Q key ∧ item.Each P Q) ∧ Json.EachEntries P Q entries

end

theorem Json.each_list_iff {P : ν → Prop} {Q : Text → Prop} {items : List (Json ν)} :
    (Json.list items).Each P Q ↔ ∀ x ∈ items, x.Each P Q := by
  rw [Json.Each]
  induction items with
  | nil => simp [Json.EachItems]
  | cons x items ih => rw [Json.EachItems, ih, List.forall_mem_cons]

theorem Json.each_dict_iff {P : ν → Prop} {Q : Text → Prop} {entries : List (Text × Json ν)} :
    (Json.dict entries).Each P Q ↔ ∀ e ∈ entries, Q e.1 ∧ e.2.Each P Q := by
  rw [Json.Each]
  induction entries with
  | nil => simp [Json.EachEntries]
  | cons e entries ih =>
    obtain ⟨key, x⟩ := e
    rw [Json.EachEntries, ih, List.forall_mem_cons]

theorem Json.sortKeysItems_eq (items : List (Json ν)) :
    Json.sortKeysItems items = items.map Json.sortKeys := by
  induction items with
  | nil => rfl
  | cons x items ih => rw [Json.sortKeysItems, ih, List.map_cons]

theorem Json.sortKeysEntries_eq (entries : List (Text × Json ν)) :
    Json.sortKeysEntries entries = entries.map fun e => (e.1, e.2.sortKeys) := by
  induction entries with
  | nil => rfl
  | cons e entries ih =>
    obtain ⟨key, x⟩ := e
    rw [Json.sortKeysEntries, ih, List.map_cons]

/-- Sorting by key does not look at the values. -/
theorem sortByKey_map {β : Type} (f : Text × α → β) (entries : List (Text × α)) :
    sortByKey (entries.map fun e => (e.1, f e)) = (sortByKey entries).map fun e => (e.1, f e) :=
  (List.map_insertionSort KeyLe KeyLe (fun e => (e.1, f e)) entries fun _ _ _ _ => Iff.rfl).symm

theorem Json.sortKeys_dict (entries : List (Text × Json ν)) : (Json.dict entries).sortKeys =
    .dict ((sortByKey entries).map fun e => (e.1, e.2.sortKeys)) := by
  rw [Json.sortKeys, Json.sortKeysEntries_eq, sortByKey_map]

theorem nodup_sortByKey {entries : List (Text × α)} (h : (entries.map Prod.fst).Nodup) :
    ((sortByKey entries).map Prod.fst).Nodup :=
  ((List.perm_insertionSort _ _).map Prod.fst).nodup_iff.mpr h

/-- A part read behind a key is an entry. -/
theorem readEntry_dumpsStr {read : Reader α} {key part : Text} {item : α} {rest : Text}
    (hkey : Unpaired key) (hpart : ∃ c u, part = c :: u ∧ isValueStart c = true)
    (hread : read (part ++ rest) = .ok (item, rest)) :
    readEntry read (dumpsStr key ++ lit ": " ++ part ++ rest) = .ok ((key, item), rest) := by
  obtain ⟨c, u, rfl, hc⟩ := hpart
  have hquote : (dumpsStr key ++ lit ": " ++ (c :: u) ++ rest).head? = some 34 := rfl
  have hstring : readString (dumpsStr key ++ lit ": " ++ (c :: u) ++ rest).tail =
      some (key, 58 :: 32 :: (c :: u ++ rest)) := by
    rw [List.append_assoc, List.append_assoc]
    exact readString_dumpsStr hkey _
  have hcolon : ∀ t, skipJsonSpace (58 :: t) = 58 :: t := fun t => rfl
  have hblank : skipJsonSpace (32 :: (c :: u ++ rest)) = c :: u ++ rest :=
    skipJsonSpace_append [32] (by decide) (by simpa using (isJsonSpace_of_isValueStart hc).1)
  simp only [readEntry, readKey, if_pos hquote, hstring, hcolon, List.head?_cons, if_true, List.tail_cons,
    hblank, bind, Except.bind, hread]

theorem readValue_list (fuel : Nat) (t : Text) :
    readValue numbers (fuel + 1) (91 :: t) = readArray (readValue numbers fuel) t := rfl

theorem readValue_dict (fuel : Nat) (t : Text) :
    readValue numbers (fuel + 1) (123 :: t) = readObject (readValue numbers fuel) t := rfl

section Containers

variable (numbers) (first gap last : Text)

/-- **A written list reads back**, whatever blanks are between its items. -/
theorem reads_list (hfirst : ∀ c ∈ first, isJsonSpace c = true)
    (hgap : ∀ c ∈ gap, isJsonSpace c = true) (hlast : ∀ c ∈ last, isJsonSpace c = true)
    (parts : List (Text × Json ν)) (hparts : ∀ p ∈ parts, Reads numbers p.1 p.2) :
    Reads numbers (91 :: (first ++ ((44 :: gap).intercalate (parts.map Prod.fst) ++ (last ++ [93]))))
      (.list (parts.map Prod.snd)) := by
  intro fuel rest hfuel _
  obtain ⟨fuel, rfl⟩ := Nat.exists_eq_add_of_le' (le_trans (Nat.succ_le_succ (Nat.zero_le _)) hfuel)
  have hread : ∀ p ∈ parts, ∀ rest, Stops rest →
      readValue numbers fuel (p.1 ++ rest) = .ok (p.2, rest) := by
    intro p hp rest hrest
    refine hparts p hp fuel rest ?_ hrest
    have := length_le_intercalate (44 :: gap) (List.mem_map.mpr ⟨p, hp, rfl⟩ : p.1 ∈ parts.map Prod.fst)
    simp only [List.length_cons, List.length_append] at hfuel
    omega
  have hbody := readBracketed_intercalate 93 rfl rfl (by decide) rfl hfirst hgap hlast hread
    (fun p hp => (hparts p hp).start) rest
  have htext : first ++ ((44 :: gap).intercalate (parts.map Prod.fst) ++ (last ++ [93])) ++ rest =
      first ++ ((44 :: gap).intercalate (parts.map Prod.fst) ++ (last ++ 93 :: rest)) := by simp
  rw [List.cons_append, readValue_list, htext, readArray, hbody]
  rfl

/-- **A written dict reads back**, whatever blanks are between its entries. -/
theorem reads_dict (hfirst : ∀ c ∈ first, isJsonSpace c = true)
    (hgap : ∀ c ∈ gap, isJsonSpace c = true) (hlast : ∀ c ∈ last, isJsonSpace c = true)
    (parts : List (Text × Text × Json ν)) (hkeys : (parts.map Prod.fst).Nodup)
    (hparts : ∀ p ∈ parts, Unpaired p.1 ∧ Reads numbers p.2.1 p.2.2) :
    Reads numbers (123 :: (first ++ ((44 :: gap).intercalate
        (parts.map fun p => dumpsStr p.1 ++ lit ": " ++ p.2.1) ++ (last ++ [125]))))
      (.dict (parts.map fun p => (p.1, p.2.2))) := by
  intro fuel rest hfuel _
  obtain ⟨fuel, rfl⟩ := Nat.exists_eq_add_of_le' (le_trans (Nat.succ_le_succ (Nat.zero_le _)) hfuel)
  have hread : ∀ q ∈ parts.map fun p => (dumpsStr p.1 ++ lit ": " ++ p.2.1, (p.1, p.2.2)), ∀ rest,
      Stops rest → readEntry (readValue numbers fuel) (q.1 ++ rest) = .ok (q.2, rest) := by
    intro q hq rest hrest
    obtain ⟨p, hp, rfl⟩ := List.mem_map.mp hq
    refine readEntry_dumpsStr (hparts p hp).1 (hparts p hp).2.start ((hparts p hp).2 fuel rest ?_ hrest)
    have := length_le_intercalate (44 :: gap)
      (List.mem_map.mpr ⟨p, hp, rfl⟩ : dumpsStr p.1 ++ lit ": " ++ p.2.1 ∈
        parts.map fun p => dumpsStr p.1 ++ lit ": " ++ p.2.1)
    simp only [List.length_cons, List.length_append] at hfuel this
    omega
  have hstarts : ∀ q ∈ parts.map fun p => (dumpsStr p.1 ++ lit ": " ++ p.2.1, (p.1, p.2.2)),
      ∃ c u, q.1 = c :: u ∧ isValueStart c = true := by
    intro q hq
    obtain ⟨p, -, rfl⟩ := List.mem_map.mp hq
    exact ⟨34, _, rfl, rfl⟩
  have hbody := readBracketed_intercalate 125 rfl rfl (by decide) rfl hfirst hgap hlast hread
    hstarts rest
  rw [List.map_map, List.map_map] at hbody
  have htext : first ++ ((44 :: gap).intercalate
      (parts.map fun p => dumpsStr p.1 ++ lit ": " ++ p.2.1) ++ (last ++ [125])) ++ rest =
      first ++ ((44 :: gap).intercalate (parts.map fun p => dumpsStr p.1 ++ lit ": " ++ p.2.1) ++
        (last ++ 125 :: rest)) := by simp
  have hentries : (Dict.ofList (parts.map fun p => (p.1, p.2.2))).entries =
      parts.map fun p => (p.1, p.2.2) := by
    refine Dict.entries_ofList ?_
    rw [List.map_map]
    exact hkeys
  rw [List.cons_append, readValue_dict, htext, readObject]
  refine (congrArg (· >>= _) hbody).trans ?_
  change Except.ok (Json.dict (Dict.ofList (parts.map fun p => (p.1, p.2.2))).entries, rest) = _
  rw [hentries]

end Containers

/-! ## Documents -/

theorem dumpsIndentedItems_eq (number : ν → Text) (level : Nat) (items : List (Json ν)) :
    dumpsIndentedItems number level items = items.map (dumpsIndented number level) := by
  induction items with
  | nil => rfl
  | cons x items ih => rw [dumpsIndentedItems, ih, List.map_cons]

theorem dumpsIndentedEntries_eq (number : ν → Text) (level : Nat) (entries : List (Text × Json ν)) :
    dumpsIndentedEntries number level entries =
      entries.map fun e => (e.1, dumpsIndented number level e.2) := by
  induction entries with
  | nil => rfl
  | cons e entries ih =>
    obtain ⟨key, x⟩ := e
    rw [dumpsIndentedEntries, ih, List.map_cons]

/-- The entries of a dict as `sort_keys` writes them, each value by `write`. -/
def writtenEntries (write : Json ν → Text) (entries : List (Text × Json ν)) : List Text :=
  (sortByKey entries).map fun e => dumpsStr e.1 ++ lit ": " ++ write e.2

theorem writtenEntries_eq (write : Json ν → Text) (entries : List (Text × Json ν)) :
    (sortByKey (entries.map fun e => (e.1, write e.2))).map (fun e => dumpsStr e.1 ++ lit ": " ++ e.2) =
      writtenEntries write entries := by
  rw [sortByKey_map, List.map_map]
  rfl

theorem newline_blank (level : Nat) : ∀ c ∈ newline level, isJsonSpace c = true := by
  intro c hc
  rcases List.mem_cons.mp hc with rfl | hc
  · rfl
  · rw [List.eq_of_mem_replicate hc]
    rfl

section Written

variable (numbers) (write : Json ν → Text) (first gap last : Text)

/-- A list whose items read back. -/
theorem reads_items (hfirst : ∀ c ∈ first, isJsonSpace c = true)
    (hgap : ∀ c ∈ gap, isJsonSpace c = true) (hlast : ∀ c ∈ last, isJsonSpace c = true)
    {items : List (Json ν)} (hitems : ∀ x ∈ items, Reads numbers (write x) x.sortKeys) :
    Reads numbers (91 :: (first ++ ((44 :: gap).intercalate (items.map write) ++ (last ++ [93]))))
      (Json.list items).sortKeys := by
  have hread := reads_list numbers first gap last hfirst hgap hlast
    (items.map fun x => (write x, x.sortKeys)) (List.forall_mem_map.mpr hitems)
  rw [List.map_map, List.map_map] at hread
  rw [Json.sortKeys, Json.sortKeysItems_eq]
  exact hread

/-- A dict whose values read back. -/
theorem reads_entries (hfirst : ∀ c ∈ first, isJsonSpace c = true)
    (hgap : ∀ c ∈ gap, isJsonSpace c = true) (hlast : ∀ c ∈ last, isJsonSpace c = true)
    {entries : List (Text × Json ν)} (hkeys : (entries.map Prod.fst).Nodup)
    (hentries : ∀ e ∈ entries, Unpaired e.1 ∧ Reads numbers (write e.2) e.2.sortKeys) :
    Reads numbers (123 :: (first ++ ((44 :: gap).intercalate (writtenEntries write entries) ++
      (last ++ [125])))) (Json.dict entries).sortKeys := by
  have hread := reads_dict numbers first gap last hfirst hgap hlast
    ((sortByKey entries).map fun e => (e.1, write e.2, e.2.sortKeys))
    (by rw [List.map_map]; exact nodup_sortByKey hkeys)
    (List.forall_mem_map.mpr fun e he => hentries e (mem_sortByKey.mp he))
  rw [List.map_map, List.map_map] at hread
  rw [Json.sortKeys_dict]
  exact hread

end Written

/-- **A value written on lines of its own reads back.** -/
theorem reads_dumpsIndented {v : Json ν} (hkeys : v.KeysDistinct)
    (hv : v.Each (ReadsBack numbers) Unpaired) :
    ∀ level, Reads numbers (dumpsIndented numbers.write level v) v.sortKeys := by
  induction v using Json.induction with
  | null => exact fun _ => reads_null
  | bool b => exact fun _ => reads_bool b
  | number n => exact fun _ => hv
  | str t => exact fun _ => reads_str hv
  | list items ih =>
    intro level
    rw [Json.keysDistinct_list_iff] at hkeys
    rw [Json.each_list_iff] at hv
    rw [dumpsIndented, dumpsIndentedItems_eq]
    split
    · rename_i hempty
      rw [List.isEmpty_iff.mp hempty]
      exact reads_items numbers (dumpsIndented numbers.write level) [] [] [] (by simp) (by simp) (by simp)
        (List.forall_mem_nil _)
    · have hread := reads_items numbers (dumpsIndented numbers.write (level + 1)) _ _ _
        (newline_blank (level + 1)) (newline_blank (level + 1)) (newline_blank level)
        fun x hx => ih x hx (hkeys x hx) (hv x hx) (level + 1)
      simpa [lit] using hread
  | dict entries ih =>
    intro level
    rw [Json.keysDistinct_dict_iff] at hkeys
    rw [Json.each_dict_iff] at hv
    rw [dumpsIndented, dumpsIndentedEntries_eq, writtenEntries_eq]
    split
    · rename_i hempty
      rw [List.isEmpty_iff.mp hempty]
      exact reads_entries numbers (dumpsIndented numbers.write level) [] [] [] (by simp) (by simp) (by simp)
        (show ([].map Prod.fst).Nodup from List.nodup_nil) (List.forall_mem_nil _)
    · have hread := reads_entries numbers (dumpsIndented numbers.write (level + 1)) _ _ _
        (newline_blank (level + 1)) (newline_blank (level + 1)) (newline_blank level) hkeys.1
        fun e he => ⟨(hv e he).1, ih e he (hkeys.2 e he) (hv e he).2 (level + 1)⟩
      simpa [lit] using hread

theorem loads_dumpsIndented {v : Json ν} (hkeys : v.KeysDistinct)
    (hv : v.Each (ReadsBack numbers) Unpaired) {tail : Text}
    (htail : ∀ c ∈ tail, isJsonSpace c = true) :
    loads numbers (dumpsIndented numbers.write 0 v ++ tail) = .ok v.sortKeys :=
  loads_of_reads (reads_dumpsIndented hkeys hv 0) htail

/-! ## The characters of a document -/

/-- A printing character of ASCII. -/
def IsPrinting (c : Nat) : Prop := 32 ≤ c ∧ c < 127

instance (c : Nat) : Decidable (IsPrinting c) := inferInstanceAs (Decidable (_ ∧ _))

theorem isPrinting_hexDigit (n : Nat) : IsPrinting (hexDigit (n % 16)) := by
  have := Nat.mod_lt n (show 16 > 0 by decide)
  unfold IsPrinting hexDigit
  split <;> omega

theorem isPrinting_escapeJson {c d : Nat} (hd : d ∈ escapeJson c) : IsPrinting d := by
  have hescape : ∀ n, ∀ d ∈ lit "\\u" ++ hexDigits 4 n, IsPrinting d := by
    intro n d hd
    rw [hexDigits_four] at hd
    simp only [List.mem_append, List.mem_cons, List.not_mem_nil, or_false] at hd
    rcases hd with hd | rfl | rfl | rfl | rfl
    · exact (by decide : ∀ d ∈ lit "\\u", IsPrinting d) d hd
    · exact isPrinting_hexDigit _
    · exact isPrinting_hexDigit _
    · exact isPrinting_hexDigit _
    · exact isPrinting_hexDigit _
  unfold escapeJson at hd
  split_ifs at hd with h34 h92 h10 h13 h9 h12 h8 hascii hbmp
  · exact (by decide : ∀ d ∈ lit "\\\"", IsPrinting d) d hd
  · exact (by decide : ∀ d ∈ lit "\\\\", IsPrinting d) d hd
  · exact (by decide : ∀ d ∈ lit "\\n", IsPrinting d) d hd
  · exact (by decide : ∀ d ∈ lit "\\r", IsPrinting d) d hd
  · exact (by decide : ∀ d ∈ lit "\\t", IsPrinting d) d hd
  · exact (by decide : ∀ d ∈ lit "\\f", IsPrinting d) d hd
  · exact (by decide : ∀ d ∈ lit "\\b", IsPrinting d) d hd
  · rw [List.mem_singleton.mp hd]
    exact ⟨hascii.1, Nat.lt_succ_of_le hascii.2⟩
  · exact hescape c d hd
  · rw [List.append_assoc] at hd
    exact (List.mem_append.mp hd).elim (hescape _ d) (hescape _ d)

theorem isPrinting_dumpsStr {t : Text} {c : Nat} (hc : c ∈ dumpsStr t) : IsPrinting c := by
  simp only [dumpsStr, List.mem_append, List.mem_singleton, List.mem_flatMap] at hc
  rcases hc with (rfl | ⟨d, -, hd⟩) | rfl
  · decide
  · exact isPrinting_escapeJson hd
  · decide

/-- **An indented document has printing characters and line feeds.** -/
theorem mem_dumpsIndented {v : Json ν} {number : ν → Text}
    (hnumber : ∀ n, ∀ c ∈ number n, IsPrinting c) :
    ∀ level, ∀ c ∈ dumpsIndented number level v, c = lf ∨ IsPrinting c := by
  have hnewline : ∀ level, ∀ c ∈ newline level, c = lf ∨ IsPrinting c := by
    intro level c hc
    refine (List.mem_cons.mp hc).imp_right fun hc => ?_
    rw [List.eq_of_mem_replicate hc]
    decide
  have hcomma : ∀ level, ∀ c ∈ lit "," ++ newline level, c = lf ∨ IsPrinting c := fun level c hc =>
    (List.mem_append.mp hc).elim (fun hc => Or.inr ((by decide : ∀ c ∈ lit ",", IsPrinting c) c hc))
      (hnewline level c)
  have hbracketed : ∀ {opening closing : Text} {level : Nat} {parts : List Text},
      (∀ c ∈ opening, IsPrinting c) → (∀ c ∈ closing, IsPrinting c) →
      (∀ t ∈ parts, ∀ c ∈ t, c = lf ∨ IsPrinting c) →
      ∀ c ∈ opening ++ newline (level + 1) ++ (lit "," ++ newline (level + 1)).intercalate parts ++
        newline level ++ closing, c = lf ∨ IsPrinting c := by
    intro opening closing level parts hopening hclosing hparts c hc
    simp only [List.mem_append] at hc
    rcases hc with (((hc | hc) | hc) | hc) | hc
    · exact Or.inr (hopening c hc)
    · exact hnewline _ c hc
    · rcases mem_of_mem_intercalate hc with hc | ⟨t, ht, hc⟩
      · exact hcomma _ c hc
      · exact hparts t ht c hc
    · exact hnewline _ c hc
    · exact Or.inr (hclosing c hc)
  induction v using Json.induction with
  | null =>
    intro level
    rw [dumpsIndented]
    decide
  | bool b =>
    intro level
    cases b <;> rw [dumpsIndented] <;> decide
  | number n =>
    intro level c hc
    rw [dumpsIndented] at hc
    exact Or.inr (hnumber n c hc)
  | str t =>
    intro level c hc
    rw [dumpsIndented] at hc
    exact Or.inr (isPrinting_dumpsStr hc)
  | list items ih =>
    intro level
    rw [dumpsIndented, dumpsIndentedItems_eq]
    split
    · decide
    · refine hbracketed (by decide) (by decide) fun t ht => ?_
      obtain ⟨x, hx, rfl⟩ := List.mem_map.mp ht
      exact ih x hx (level + 1)
  | dict entries ih =>
    intro level
    rw [dumpsIndented, dumpsIndentedEntries_eq, writtenEntries_eq]
    split
    · decide
    · refine hbracketed (by decide) (by decide) fun t ht c hc => ?_
      obtain ⟨e, he, rfl⟩ := List.mem_map.mp ht
      rcases List.mem_append.mp hc with hc | hc
      · refine Or.inr ((List.mem_append.mp hc).elim isPrinting_dumpsStr fun hc => ?_)
        exact (by decide : ∀ c ∈ lit ": ", IsPrinting c) c hc
      · exact ih e (mem_sortByKey.mp he) (level + 1) c hc

end ApiTests.Py
