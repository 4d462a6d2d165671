import ApiTests.Py.Percent
import ApiTests.Py.Re
import ApiTests.Py.Url

/-!
# Absolute URLs and their queries

`parse_qsl(query, keep_blank_values=True)`, `urlencode(pairs, doseq=True)` and `urlunsplit` of
`urllib.parse`. `AbsoluteUrl` is a URL by its parts, as it is written.

Results:
* `urlsplit_text`: **`urlsplit` finds the parts of an absolute URL.**
* `pathOf_inj`: segments without `/` are what their path says.
* `urlunsplit_inj`: two URLs with a network location and one query are put together alike only if
  their paths are alike.
-/

namespace ApiTests.Py

/-! ## Queries -/

/-- `t.replace("+", " ")`. -/
def plusToSpace (t : Text) : Text := t.map fun c => if c == 43 then 32 else c

/-- What stands before the first `=` of an item of a query. -/
def itemName (item : Text) : Text := (splitOnce 61 item).1

/-- The name and the value of an item, decoded. -/
def readItem (item : Text) : Text × Text :=
  (unquote (plusToSpace (itemName item)), unquote (plusToSpace (splitOnce 61 item).2))

/-- `parse_qsl(query, keep_blank_values=True)`. -/
def parseQsl (query : Text) : List (Text × Text) :=
  ((query.splitOn 38).filter fun item => !item.isEmpty).map readItem

/-- `quote_plus(t)`; `none` is its `UnicodeEncodeError`. -/
def quotePlus (t : Text) : Option Text :=
  (encodeUtf8 t).map fun bytes => bytes.flatMap fun b => if b = 32 then [43] else quoteByte b

/-- A pair as `urlencode` writes it. -/
def encodePair (pair : Text × Text) : Option Text := do
  let name ← quotePlus pair.1
  let value ← quotePlus pair.2
  return name ++ lit "=" ++ value

/-- `urlencode(pairs, doseq=True)` of pairs of texts; `none` is a `UnicodeEncodeError`. -/
def urlencode (pairs : List (Text × Text)) : Option Text :=
  (pairs.mapM encodePair).map fun encoded => (lit "&").intercalate encoded

/-! ## URLs put together -/

/-- `uses_netloc`. -/
def usesNetloc : List Text :=
  [[], lit "ftp", lit "http", lit "gopher", lit "nntp", lit "telnet", lit "imap", lit "wais",
    lit "file", lit "mms", lit "https", lit "shttp", lit "snews", lit "prospero", lit "rtsp",
    lit "rtsps", lit "rtspu", lit "rsync", lit "svn", lit "svn+ssh", lit "sftp", lit "nfs", lit "git",
    lit "git+ssh", lit "ws", lit "wss", lit "itms-services"]

/-- `url` behind the network location. -/
def withNetloc (parts : SplitResult) : Text :=
  if parts.netloc ≠ [] then
    lit "//" ++ parts.netloc ++
      (if parts.path ≠ [] ∧ parts.path.head? ≠ some 47 then 47 :: parts.path else parts.path)
  else if lit "//" <+: parts.path then lit "//" ++ parts.path
  else if parts.scheme ≠ [] ∧ parts.scheme ∈ usesNetloc ∧
      (parts.path = [] ∨ parts.path.head? = some 47) then lit "//" ++ parts.path
  else parts.path

/-- `urlunsplit(parts)`. -/
def urlunsplit (parts : SplitResult) : Text :=
  (if parts.scheme ≠ [] then parts.scheme ++ lit ":" else []) ++ withNetloc parts ++
    (if parts.query ≠ [] then lit "?" ++ parts.query else []) ++
    (if parts.fragment ≠ [] then lit "#" ++ parts.fragment else [])

/-! ## Absolute URLs -/

/-- A character that ends a network location. -/
def isDelimiter (c : Nat) : Bool := c == 47 || c == 63 || c == 35

/-- The path of the given segments. -/
def pathOf (segments : List Text) : Text := segments.flatMap fun segment => 47 :: segment

/-- A part that may be left out, and the character that begins it. -/
def optionalPart (c : Nat) : Option Text → Text
  | none => []
  | some t => c :: t

/-- An absolute URL, by its parts. -/
structure AbsoluteUrl where
  scheme : Text
  netloc : Text
  segments : List Text
  query : Option Text
  fragment : Option Text
  deriving Repr, DecidableEq

namespace AbsoluteUrl

/-- The path and what follows it. -/
def rest (u : AbsoluteUrl) : Text :=
  pathOf u.segments ++ optionalPart 63 u.query ++ optionalPart 35 u.fragment

/-- The URL as it is written. -/
def text (u : AbsoluteUrl) : Text := u.scheme ++ 58 :: (lit "//" ++ (u.netloc ++ u.rest))

/-- The parts hold none of the characters that end them, and no tab and no line break. -/
structure WellFormed (u : AbsoluteUrl) : Prop where
  letter : ∃ c ∈ u.scheme.head?, isAsciiLetter c = true
  scheme : ∀ c ∈ u.scheme, isSchemeChar c = true
  netloc_ne_nil : u.netloc ≠ []
  netloc : ∀ c ∈ u.netloc, isDelimiter c = false
  segments : ∀ segment ∈ u.segments, ∀ c ∈ segment, isDelimiter c = false
  query : ∀ query ∈ u.query, 35 ∉ query
  clean : ∀ c ∈ u.text, c ≠ 9 ∧ c ≠ cr ∧ c ≠ lf

/-- What `urlsplit` finds. -/
def parts (u : AbsoluteUrl) : SplitResult :=
  ⟨u.scheme.map lowerAscii, u.netloc, pathOf u.segments, u.query.getD [], u.fragment.getD []⟩

end AbsoluteUrl

/-- What the checks of `urlsplit` say of a network location. -/
def netlocError (checks : NetlocChecks) (netloc : Text) : Option Text :=
  (bracketError checks netloc).or (checks.normalized netloc)

theorem splitOnce_optionalPart {c : Nat} {t : Text} (ht : c ∉ t) (part : Option Text) :
    splitOnce c (t ++ optionalPart c part) = (t, part.getD []) := by
  have hall : ∀ d ∈ t, (d != c) = true := by
    intro d hd
    rw [bne_iff_ne]
    rintro rfl
    exact ht hd
  have hstop : headIn (fun d => d != c) (optionalPart c part) = false := by
    cases part with
    | none => rfl
    | some part => exact bne_self_eq_false c
  have htail : (optionalPart c part).tail = part.getD [] := by
    cases part with
    | none => rfl
    | some part => rfl
  rw [splitOnce, Re.takeWhile_append_stop hall hstop, Re.dropWhile_append_stop hall hstop, htail]

section

variable {segments segments' : List Text}

@[simp] theorem pathOf_nil : pathOf [] = [] := rfl

@[simp] theorem pathOf_cons (segment : Text) :
    pathOf (segment :: segments) = 47 :: (segment ++ pathOf segments) := rfl

theorem mem_pathOf {c : Nat} (hc : c ∈ pathOf segments) : c = 47 ∨ ∃ s ∈ segments, c ∈ s := by
  obtain ⟨s, hs, hc⟩ := List.mem_flatMap.mp hc
  rcases List.mem_cons.mp hc with rfl | hc
  · exact .inl rfl
  · exact .inr ⟨s, hs, hc⟩

/-- A path is empty or begins with `/`. -/
theorem headIn_pathOf {p : Nat → Bool} (hp : p 47 = false) (segments : List Text) :
    headIn p (pathOf segments) = false := by
  cases segments with
  | nil => rfl
  | cons s segments => exact hp

/-- What stands behind the first `/` of a path, cut at the next one. -/
theorem pathOf_cons_inj {s t v : Text} (hs : 47 ∉ s) (ht : 47 ∉ t)
    (hv : headIn (fun c => c != 47) v = false) (h : s ++ pathOf segments = t ++ v) :
    s = t ∧ pathOf segments = v := by
  have hne : ∀ {w : Text}, 47 ∉ w → ∀ c ∈ w, (c != 47) = true := by
    intro w hw c hc
    rw [bne_iff_ne]
    rintro rfl
    exact hw hc
  exact Re.append_inj_of_stop (hne hs) (headIn_pathOf rfl segments) (hne ht) hv h

/-- Segments without `/` are what their path says. -/
theorem pathOf_inj : ∀ {segments segments' : List Text}, (∀ s ∈ segments, 47 ∉ s) →
    (∀ s ∈ segments', 47 ∉ s) → pathOf segments = pathOf segments' → segments = segments'
  | [], [], _, _, _ => rfl
  | [], _ :: _, _, _, h => by cases h
  | _ :: _, [], _, _, h => by cases h
  | s :: segments, s' :: segments', hs, hs', h => by
    rw [pathOf_cons, pathOf_cons, List.cons.injEq] at h
    obtain ⟨rfl, hpath⟩ := pathOf_cons_inj (hs s List.mem_cons_self) (hs' s' List.mem_cons_self)
      (headIn_pathOf rfl segments') h.2
    rw [pathOf_inj (fun t ht => hs t (List.mem_cons_of_mem _ ht))
      (fun t ht => hs' t (List.mem_cons_of_mem _ ht)) hpath]

end

namespace AbsoluteUrl

variable {u : AbsoluteUrl}

theorem WellFormed.cleanUrl_text (hu : u.WellFormed) : cleanUrl u.text = u.text := by
  obtain ⟨c, hc, hletter⟩ := hu.letter
  obtain ⟨scheme, hscheme⟩ : ∃ scheme, u.scheme = c :: scheme := List.head?_eq_some_iff.mp hc
  have hprintable : ¬ (decide (c ≤ 32)) = true := by
    simp only [isAsciiLetter, Bool.or_eq_true, Bool.and_eq_true, decide_eq_true_eq] at hletter ⊢
    omega
  have hdrop : u.text.dropWhile (fun c => decide (c ≤ 32)) = u.text := by
    rw [text, hscheme, List.cons_append]
    exact List.dropWhile_cons_of_neg hprintable
  rw [cleanUrl, hdrop, List.filter_eq_self]
  intro d hd
  obtain ⟨htab, hcr, hlf⟩ := hu.clean d hd
  simp [htab, hcr, hlf]

theorem WellFormed.splitScheme_text (hu : u.WellFormed) :
    splitScheme u.text = (u.scheme.map lowerAscii, lit "//" ++ (u.netloc ++ u.rest)) := by
  have hne : ∀ c ∈ u.scheme, (c != 58) = true := by
    intro c hc
    rw [bne_iff_ne]
    rintro rfl
    exact absurd (hu.scheme 58 hc) (by decide)
  have hstop : headIn (fun c => c != 58) (58 :: (lit "//" ++ (u.netloc ++ u.rest))) = false := rfl
  have hname : u.text.takeWhile (fun c => c != 58) = u.scheme := Re.takeWhile_append_stop hne hstop
  have hrest : (splitOnce 58 u.text).2 = lit "//" ++ (u.netloc ++ u.rest) :=
    congrArg List.tail (Re.dropWhile_append_stop hne hstop)
  have hmem : 58 ∈ u.text := List.mem_append_right _ List.mem_cons_self
  have hall : u.scheme.all isSchemeChar = true := List.all_eq_true.mpr hu.scheme
  unfold splitScheme
  simp only [hname, hrest]
  exact if_pos ⟨hmem, hu.letter, hall⟩

theorem WellFormed.splitNetloc_text (hu : u.WellFormed) :
    splitNetloc (u.netloc ++ u.rest) = (u.netloc, u.rest) := by
  have hstop : headIn (fun c => !isDelimiter c) u.rest = false := by
    unfold rest
    cases u.segments with
    | cons s segments => rfl
    | nil =>
      cases u.query with
      | some query => rfl
      | none =>
        cases u.fragment with
        | some fragment => rfl
        | none => rfl
  have hall : ∀ c ∈ u.netloc, (!isDelimiter c) = true := by
    intro c hc
    rw [hu.netloc c hc]
    rfl
  unfold splitNetloc
  rw [List.span_eq_takeWhile_dropWhile]
  exact Prod.ext (Re.takeWhile_append_stop hall hstop) (Re.dropWhile_append_stop hall hstop)

theorem WellFormed.not_mem_pathOf (hu : u.WellFormed) {c : Nat} (hc : isDelimiter c = true)
    (hslash : c ≠ 47) : c ∉ pathOf u.segments := by
  intro hmem
  rcases mem_pathOf hmem with rfl | ⟨s, hs, hmem⟩
  · exact hslash rfl
  · rw [hu.segments s hs c hmem] at hc
    cases hc

/-- **`urlsplit` finds the parts of an absolute URL**, or refuses its network location. -/
theorem WellFormed.urlsplit_text (hu : u.WellFormed) (checks : NetlocChecks) :
    (∃ message, netlocError checks u.netloc = some message ∧
      urlsplit checks u.text = .error message) ∨
    (netlocError checks u.netloc = none ∧ urlsplit checks u.text = .ok u.parts) := by
  have hquery : splitOnce 63 (pathOf u.segments ++ optionalPart 63 u.query) =
      (pathOf u.segments, u.query.getD []) :=
    splitOnce_optionalPart (hu.not_mem_pathOf rfl (by decide)) u.query
  have hhash : 35 ∉ pathOf u.segments ++ optionalPart 63 u.query := by
    rw [List.mem_append, not_or]
    refine ⟨hu.not_mem_pathOf rfl (by decide), ?_⟩
    cases hq : u.query with
    | none => exact List.not_mem_nil
    | some query =>
      refine List.not_mem_cons_of_ne_of_not_mem (by decide) (hu.query query ?_)
      rw [hq]
      rfl
  have hfragment : splitOnce 35 u.rest = (_, u.fragment.getD []) :=
    splitOnce_optionalPart hhash u.fragment
  have hprefix : lit "//" <+: lit "//" ++ (u.netloc ++ u.rest) := List.prefix_append _ _
  have hdrop : (lit "//" ++ (u.netloc ++ u.rest)).drop 2 = u.netloc ++ u.rest := rfl
  unfold urlsplit netlocError
  rw [hu.cleanUrl_text, hu.splitScheme_text]
  simp only [if_pos hprefix, hdrop, hu.splitNetloc_text, hfragment, hquery]
  cases bracketError checks u.netloc with
  | some message => exact .inl ⟨message, rfl, rfl⟩
  | none =>
    cases checks.normalized u.netloc with
    | some message => exact .inl ⟨message, rfl, rfl⟩
    | none => exact .inr ⟨rfl, rfl⟩

end AbsoluteUrl

/-- **Two URLs that differ in the path alone** are put together alike only if their paths are
alike. -/
theorem urlunsplit_inj {parts : SplitResult} {segments segments' : List Text}
    (hnetloc : parts.netloc ≠ [])
    (h : urlunsplit { parts with path := pathOf segments } =
      urlunsplit { parts with path := pathOf segments' }) : pathOf segments = pathOf segments' := by
  have hwith : ∀ segments : List Text, withNetloc { parts with path := pathOf segments } =
      lit "//" ++ parts.netloc ++ pathOf segments := by
    intro segments
    have hslash : ¬ (pathOf segments ≠ [] ∧ (pathOf segments).head? ≠ some 47) := by
      rintro ⟨hne, hhead⟩
      cases segments with
      | nil => exact hne rfl
      | cons s segments => exact hhead rfl
    rw [withNetloc, if_pos hnetloc]
    exact congrArg _ (if_neg hslash)
  unfold urlunsplit at h
  rw [hwith, hwith] at h
  exact List.append_cancel_left (List.append_cancel_left
    (List.append_cancel_right (List.append_cancel_right h)))

end ApiTests.Py
