import ApiTests.Logging.RedactText
import ApiTests.Py.Json
import ApiTests.Py.Utf8

/-!
# Redaction of response bodies (`logging.py:27-60, 123-166, 215-220`)

A JSON body is parsed, `_redact_json` replaces the value of every redacted key, the result is written
with sorted keys and only then cut: to `MAX_BODY_BYTES` of UTF-8 in the artifact, to `limit`
characters in a failure message. The decoder of bytes, `json.loads` and how a number is written are
parameters (`Codec`).

`LowEq` relates two JSON values that differ below redacted keys and in the order of keys only.

Results:
* `dumps_redactJson`: **values that are low-equal are written alike once redacted.**
* `utf8Prefix_longest`: **a text is cut to its longest prefix that fits.**
* `redact_noninterference`: **the logged body and the failure message do not depend on what is stored
  under redacted keys.**
-/

namespace ApiTests.Logging

open Py

/-! ## The response -/

/-- `httpx.Response`, as far as it is logged. -/
structure Response where
  statusCode : Nat
  /-- `headers.get("content-type")`. -/
  contentType : Option Text
  content : List Nat
  encoding : Option Text
  /-- `request.url.path`; `none` for a response without a request, whose `request` raises. -/
  path : Option Text

/-- What `json.loads` raises. -/
inductive LoadsError where
  | jsonDecodeError
  | other
  deriving Repr, DecidableEq

/-- The codecs of the standard library. -/
structure Codec (ν : Type) where
  /-- `bytes.decode(encoding, errors="replace")`. -/
  decode : Text → List Nat → Text
  loads : Text → Except LoadsError (JsonValue ν)
  /-- How `json.dumps` writes a number. -/
  number : ν → Text

/-- What logging a body can raise. -/
inductive BodyError where
  | loads
  /-- A lone surrogate has no UTF-8. -/
  | unicodeEncodeError
  deriving Repr, DecidableEq

/-- `MAX_BODY_BYTES`. -/
def maxBodyBytes : Nat := 4096

/-- `_utf8_prefix`. -/
def utf8Prefix (value : Text) (byteLimit : Nat) : Except BodyError Text :=
  match encodeUtf8 value with
  | none => .error .unicodeEncodeError
  | some encoded =>
    if encoded.length ≤ byteLimit then .ok value
    else .ok (decodeUtf8Ignore (encoded.take byteLimit))

/-- **A text without surrogates is cut to its longest prefix that fits.** -/
theorem utf8Prefix_longest {value : Text} (hvalue : ∀ c ∈ value, IsScalar c) (byteLimit : Nat) :
    ∃ p, utf8Prefix value byteLimit = .ok p ∧ IsLongestPrefix value byteLimit p := by
  have hsurrogates : value.any isSurrogate = false := by
    rw [List.any_eq_false]
    intro c hc
    rw [(hvalue c hc).2]
    exact Bool.false_ne_true
  unfold utf8Prefix encodeUtf8
  rw [hsurrogates]
  by_cases hlength : (value.flatMap utf8Bytes).length ≤ byteLimit
  · exact ⟨value, if_pos hlength, List.prefix_rfl, hlength, fun _ hq _ => hq⟩
  · exact ⟨_, if_neg hlength, longest_decodeUtf8Ignore hvalue byteLimit⟩

/-- Two of the three bytes of `€` fit. -/
theorem utf8Prefix_longest_example : ∃ p, utf8Prefix (lit "a€") 3 = .ok p ∧
    IsLongestPrefix (lit "a€") 3 p :=
  utf8Prefix_longest (by decide) 3

/-! ## Redacted keys -/

/-- `SENSITIVE_KEY_RE`. -/
def sensitiveKeyRe : Re :=
  .group 1 (.alts [.strI (lit "authorization"), .strI (lit "cookie"), .strI (lit "email"),
    .strI (lit "username"), .strI (lit "password"), .strI (lit "client_secret"),
    .strI (lit "access_token"), .strI (lit "refresh_token"), .strI (lit "id_token"),
    .strI (lit "token")])

/-- `USER_PROFILE_KEYS`. -/
def userProfileKeys : List Text :=
  [lit "displayname", lit "email", lit "id", lit "idpsub", lit "name", lit "sub"]

/-- `IDENTITY_REFERENCE_KEYS`. -/
def identityReferenceKeys : List Text :=
  [lit "createdby", lit "deactivatedby", lit "deletedby", lit "ownerid", lit "updatedby",
    lit "userid"]

/-- The condition of `_redact_json` on a key. -/
def isRedactedKey (unicode : Unicode) (redactUserProfile : Bool) (key : Text) : Bool :=
  sensitiveKeyRe.search key || identityReferenceKeys.contains (unicode.casefold key) ||
    (redactUserProfile && userProfileKeys.contains (unicode.casefold key))

/-- `(?i)(?:/v1/users(?:/|$)|/auth/v1/user$)`. -/
def userProfilePathRe : Re :=
  .alts [.seqs [.strI (lit "/v1/users"), .alts [.strI (lit "/"), .atEnd]],
    .seqs [.strI (lit "/auth/v1/user"), .atEnd]]

/-- `_is_user_profile_response`. -/
def isUserProfileResponse (response : Response) : Bool :=
  match response.path with
  | none => false
  | some path => userProfilePathRe.search path

/-! ## Redacted values -/

variable {ν : Type}

mutual

/-- `_redact_json`, the condition on keys and the redaction of strings being parameters. -/
def redactJson (redacted : Text → Bool) (text : Text → Text) : Json ν → Json ν
  | .dict entries => .dict (redactEntries redacted text entries)
  | .list items => .list (redactItems redacted text items)
  | .str t => .str (text t)
  | .null => .null
  | .bool b => .bool b
  | .number n => .number n

def redactItems (redacted : Text → Bool) (text : Text → Text) : List (Json ν) → List (Json ν)
  | [] => []
  | item :: items => redactJson redacted text item :: redactItems redacted text items

def redactEntries (redacted : Text → Bool) (text : Text → Text) :
    List (Text × Json ν) → List (Text × Json ν)
  | [] => []
  | (key, item) :: entries =>
    (key, if redacted key then .str redactedMark else redactJson redacted text item) ::
      redactEntries redacted text entries

end

section

variable (unicode : Unicode) (codec : Codec ν)

/-- `response.content.decode(response.encoding or "utf-8", errors="replace")`. -/
def Response.text (response : Response) : Text :=
  codec.decode (match response.encoding with
    | some (c :: cs) => c :: cs
    | _ => lit "utf-8") response.content

/-- `"json" in content_type.lower()`: no other character has a lower case with these letters. -/
def Response.isJson (response : Response) : Bool :=
  decide (lit "json" <:+: (response.contentType.getD []).map lowerAscii)

/-- `_redact_body_prefix`. -/
def redactBodyPrefix (response : Response) : Except BodyError Text :=
  if response.isJson then
    match codec.loads (response.text codec) with
    | .error .other => .error .loads
    | .error .jsonDecodeError =>
      utf8Prefix (redactSensitiveText unicode (response.text codec)) maxBodyBytes
    | .ok payload =>
      utf8Prefix (dumps codec.number (redactJson
        (isRedactedKey unicode (isUserProfileResponse response)) (redactSensitiveText unicode)
        payload.json)) maxBodyBytes
  else utf8Prefix (redactSensitiveText unicode (response.text codec)) maxBodyBytes

/-- `body[:limit]`. -/
def sliceTo (limit : Int) (body : Text) : Text :=
  if 0 ≤ limit then body.take limit.toNat else body.take (body.length - limit.natAbs)

/-- `redacted_response_context`. -/
def redactedResponseContext (response : Response) (limit : Int) : Except BodyError Text :=
  match redactBodyPrefix unicode codec response with
  | .error e => .error e
  | .ok body =>
    let body := if limit < body.length then sliceTo limit body ++ lit "..." else body
    .ok (lit "HTTP " ++ lit (toString response.statusCode) ++ lit "; content-type=" ++
      reprText unicode (response.contentType.getD (lit "<missing>")) ++ lit "; body=" ++
      reprText unicode body)

end

/-! ## Low equality -/

mutual

/-- Equal but for what is stored under redacted keys and for the order of keys. -/
inductive LowEq (redacted : Text → Bool) : Json ν → Json ν → Prop
  | null : LowEq redacted .null .null
  | bool (b : Bool) : LowEq redacted (.bool b) (.bool b)
  | number (n : ν) : LowEq redacted (.number n) (.number n)
  | str (t : Text) : LowEq redacted (.str t) (.str t)
  | list {items items' : List (Json ν)} (h : LowEqItems redacted items items') :
      LowEq redacted (.list items) (.list items')
  | dict {entries entries' ordered : List (Text × Json ν)} (h : LowEqEntries redacted entries ordered)
      (hperm : ordered.Perm entries') : LowEq redacted (.dict entries) (.dict entries')

inductive LowEqItems (redacted : Text → Bool) : List (Json ν) → List (Json ν) → Prop
  | nil : LowEqItems redacted [] []
  | cons {item item' : Json ν} {items items' : List (Json ν)} (h : LowEq redacted item item')
      (hs : LowEqItems redacted items items') : LowEqItems redacted (item :: items) (item' :: items')

inductive LowEqEntries (redacted : Text → Bool) :
    List (Text × Json ν) → List (Text × Json ν) → Prop
  | nil : LowEqEntries redacted [] []
  | secret {key : Text} {item item' : Json ν} {entries entries' : List (Text × Json ν)}
      (hkey : redacted key = true) (hs : LowEqEntries redacted entries entries') :
      LowEqEntries redacted ((key, item) :: entries) ((key, item') :: entries')
  | kept {key : Text} {item item' : Json ν} {entries entries' : List (Text × Json ν)}
      (h : LowEq redacted item item') (hs : LowEqEntries redacted entries entries') :
      LowEqEntries redacted ((key, item) :: entries) ((key, item') :: entries')

end

variable {redacted : Text → Bool} {text : Text → Text} {number : ν → Text}

/-- The entries of a dict as they are redacted and written. -/
def redactedEntry (redacted : Text → Bool) (text : Text → Text) (number : ν → Text)
    (e : Text × Json ν) : Text × Text :=
  (e.1, dumps number (if redacted e.1 then .str redactedMark else redactJson redacted text e.2))

theorem dumpsEntries_redactEntries : ∀ entries : List (Text × Json ν),
    dumpsEntries number (redactEntries redacted text entries) =
      entries.map (redactedEntry redacted text number)
  | [] => rfl
  | (key, item) :: entries => by
    rw [redactEntries, dumpsEntries, dumpsEntries_redactEntries entries]
    rfl

theorem map_fst_redactedEntry (entries : List (Text × Json ν)) :
    (entries.map (redactedEntry redacted text number)).map Prod.fst = entries.map Prod.fst := by
  rw [List.map_map]
  rfl

mutual

/-- **Low-equal values are written alike once redacted.** -/
theorem dumps_redactJson : ∀ {v v' : Json ν}, LowEq redacted v v' → v.KeysDistinct →
    dumps number (redactJson redacted text v) = dumps number (redactJson redacted text v')
  | _, _, .null, _ => rfl
  | _, _, .bool _, _ => rfl
  | _, _, .number _, _ => rfl
  | _, _, .str _, _ => rfl
  | _, _, .list h, hkeys => by
    rw [redactJson, redactJson, dumps, dumps, dumpsItems_redactItems h hkeys]
  | .dict entries, .dict entries', .dict h hperm, hkeys => by
    rw [redactJson, redactJson, dumps, dumps, dumpsEntries_redactEntries, dumpsEntries_redactEntries]
    have hnodup : ((entries.map (redactedEntry redacted text number)).map Prod.fst).Nodup := by
      rw [map_fst_redactedEntry]
      exact hkeys.1
    rw [sortByKey_eq_of_perm hnodup
      ((map_redactedEntry h hkeys.2) ▸ hperm.map (redactedEntry redacted text number))]

theorem dumpsItems_redactItems : ∀ {items items' : List (Json ν)},
    LowEqItems redacted items items' → Json.KeysDistinctItems items →
      dumpsItems number (redactItems redacted text items) =
        dumpsItems number (redactItems redacted text items')
  | _, _, .nil, _ => rfl
  | _, _, .cons h hs, hkeys => by
    rw [redactItems, redactItems, dumpsItems, dumpsItems, dumps_redactJson h hkeys.1,
      dumpsItems_redactItems hs hkeys.2]

theorem map_redactedEntry : ∀ {entries entries' : List (Text × Json ν)},
    LowEqEntries redacted entries entries' → Json.KeysDistinctEntries entries →
      entries.map (redactedEntry redacted text number) =
        entries'.map (redactedEntry redacted text number)
  | _, _, .nil, _ => rfl
  | _, _, .secret hkey hs, hkeys => by
    rw [List.map_cons, List.map_cons, map_redactedEntry hs hkeys.2]
    simp only [redactedEntry, hkey, if_true]
  | _, _, .kept h hs, hkeys => by
    rw [List.map_cons, List.map_cons, map_redactedEntry hs hkeys.2]
    simp only [redactedEntry]
    split
    · rfl
    · rw [dumps_redactJson h hkeys.1]

end

/-! ## Noninterference -/

/-- **What is logged of a JSON body does not depend on the secrets in it**: two responses with one
status, path and content type, whose bodies parse to low-equal values, have the same logged body and
the same failure message. -/
theorem redact_noninterference (unicode : Unicode) (codec : Codec ν) {r r' : Response}
    (hstatus : r.statusCode = r'.statusCode) (hpath : r.path = r'.path)
    (htype : r.contentType = r'.contentType) (hjson : r.isJson = true) {v v' : JsonValue ν}
    (hv : codec.loads (r.text codec) = .ok v) (hv' : codec.loads (r'.text codec) = .ok v')
    (hlow : LowEq (isRedactedKey unicode (isUserProfileResponse r)) v.json v'.json) :
    redactBodyPrefix unicode codec r = redactBodyPrefix unicode codec r' ∧
      ∀ limit, redactedResponseContext unicode codec r limit =
        redactedResponseContext unicode codec r' limit := by
  have hjson' : r'.isJson = true := by rw [← hjson, Response.isJson, Response.isJson, htype]
  have hprofile : isUserProfileResponse r' = isUserProfileResponse r := by
    rw [isUserProfileResponse, isUserProfileResponse, hpath]
  have hbody : redactBodyPrefix unicode codec r = redactBodyPrefix unicode codec r' := by
    rw [redactBodyPrefix, redactBodyPrefix, if_pos hjson, if_pos hjson', hv, hv', hprofile]
    simp only [dumps_redactJson hlow v.keysDistinct]
  refine ⟨hbody, fun limit => ?_⟩
  rw [redactedResponseContext, redactedResponseContext, hbody, hstatus, htype]

/-! ## Two bodies -/

/-- `{"token": "a", "n": [{"Password": 1, "x": true}]}`. -/
def firstBody : JsonValue Int :=
  ⟨.dict [(lit "token", .str (lit "a")),
    (lit "n", .list [.dict [(lit "Password", .number 1), (lit "x", .bool true)]])],
    by decide, trivial, ⟨⟨by decide, trivial, trivial, trivial⟩, trivial⟩, trivial⟩

/-- `{"n": [{"x": true, "Password": [null]}], "token": "bb"}`. -/
def secondBody : JsonValue Int :=
  ⟨.dict [(lit "n", .list [.dict [(lit "x", .bool true), (lit "Password", .list [.null])]]),
    (lit "token", .str (lit "bb"))],
    by decide, ⟨⟨by decide, trivial, ⟨trivial, trivial⟩, trivial⟩, trivial⟩, trivial, trivial⟩

def firstText : Text := lit "\x7b\"token\": \"a\", \"n\": [\x7b\"Password\": 1, \"x\": true\x7d]\x7d"

def secondText : Text :=
  lit "\x7b\"n\": [\x7b\"x\": true, \"Password\": [null]\x7d], \"token\": \"bb\"\x7d"

/-- The standard codec on the two bodies. -/
def bodyCodec : Codec Int where
  decode _ content := content
  loads t :=
    if t = firstText then .ok firstBody
    else if t = secondText then .ok secondBody
    else .error .jsonDecodeError
  number n := lit (toString n)

/-- A JSON response with the given body. -/
def jsonResponse (content : Text) : Response :=
  ⟨401, some (lit "application/json"), content, none, some (lit "/api/v1/accounts")⟩

theorem lowEq_bodies :
    LowEq (isRedactedKey .ascii (isUserProfileResponse (jsonResponse firstText))) firstBody.json
      secondBody.json := by
  have hinner : LowEq (isRedactedKey .ascii (isUserProfileResponse (jsonResponse firstText)))
      (.dict [(lit "Password", .number (1 : Int)), (lit "x", .bool true)])
      (.dict [(lit "x", .bool true), (lit "Password", .list [.null])]) :=
    .dict (.secret (by decide) (.kept (.bool true) .nil)) (List.Perm.swap _ _ _)
  exact .dict (.secret (by decide) (.kept (.list (.cons hinner .nil)) .nil)) (List.Perm.swap _ _ _)

theorem redact_noninterference_example :
    redactBodyPrefix .ascii bodyCodec (jsonResponse firstText) =
        redactBodyPrefix .ascii bodyCodec (jsonResponse secondText) ∧
      ∀ limit, redactedResponseContext .ascii bodyCodec (jsonResponse firstText) limit =
        redactedResponseContext .ascii bodyCodec (jsonResponse secondText) limit := by
  have hjson : (jsonResponse firstText).isJson = true := by decide
  have hfirst : bodyCodec.loads ((jsonResponse firstText).text bodyCodec) = .ok firstBody := by
    simp only [Response.text, jsonResponse, bodyCodec, if_true]
  have hsecond : bodyCodec.loads ((jsonResponse secondText).text bodyCodec) = .ok secondBody := by
    have hne : secondText ≠ firstText := by decide
    simp only [Response.text, jsonResponse, bodyCodec, if_neg hne, if_true]
  refine redact_noninterference .ascii bodyCodec ?_ ?_ ?_ hjson hfirst hsecond lowEq_bodies <;>
    simp only [jsonResponse]

end ApiTests.Logging
