import ApiTests.Py.Unicode
import Mathlib.Data.List.Basic
import Mathlib.Logic.Function.Basic

/-!
# Cookie assertions (`assertions.py:118-165`)

`_response_cookie` takes the first `Set-Cookie` header that `http.cookies` reads and that sets a
cookie of the name, and `assert_cookie_cleared` checks this cookie alone. How `http.cookies` reads a
header is a parameter: a header sets one cookie at most, or raises `CookieError`.

A `CookieClient` applies the headers in their order, a later cookie of the same name and path in
place of the earlier one.

Results:
* `receive_eq`: what a client holds in the end is decided by the last header for it.
* **`cookie_cleared_iff`**: where the assertion passes, the cookie is gone iff the headers behind the
  one it looked at do not bring it back.
* `not_set_keeps`: where `assert_cookie_not_set` passes, the client holds what it held.
-/

namespace ApiTests.Client

open Py

/-- What `Morsel` holds of a cookie; an attribute that the header has not is empty. -/
structure Morsel where
  value : Text
  maxAge : Text
  path : Text
  /-- `bool(cookie["httponly"])`. -/
  httpOnly : Bool
  /-- `bool(cookie["secure"])`. -/
  secure : Bool
  sameSite : Text
  deriving Repr, DecidableEq

/-- `SimpleCookie().load(header)`: the cookie with its name, or `CookieError`. -/
abbrev CookieReader := Text → Except Unit (Option (Text × Morsel))

/-- The cookie of a header. -/
def CookieReader.cookie? (reader : CookieReader) (header : Text) : Option (Text × Morsel) :=
  match reader header with
  | .ok cookie => cookie
  | .error () => none

variable (reader : CookieReader) (unicode : Unicode)

/-- `_response_cookie`. -/
def responseCookie (cookieName : Text) : List Text → Option Morsel
  | [] => none
  | header :: headers =>
    match reader header with
    | .error () => responseCookie cookieName headers
    | .ok none => responseCookie cookieName headers
    | .ok (some (name, cookie)) =>
      if name = cookieName then some cookie else responseCookie cookieName headers

/-- The headers behind the one that `_response_cookie` stops at. -/
def headersBehind (cookieName : Text) : List Text → List Text
  | [] => []
  | header :: headers =>
    if (reader.cookie? header).map Prod.fst = some cookieName then headers
    else headersBehind cookieName headers

/-- `str(b)`. -/
def boolText (b : Bool) : Text := if b then lit "True" else lit "False"

/-- `assert_cookie_cleared`, or the message of its `AssertionError`. -/
def assertCookieCleared (headers : List Text) (cookieName expectedPath : Text)
    (expectedHttpOnly expectedSecure : Option Bool) (expectedSameSite : Option Text) :
    Except Text Unit :=
  let name := reprText unicode cookieName
  match responseCookie reader cookieName headers with
  | none => .error (lit "expected response to clear cookie " ++ name)
  | some cookie =>
    if cookie.value ≠ [] then .error (lit "expected " ++ name ++ lit " clearing cookie to be empty")
    else if cookie.maxAge ≠ lit "0" then
      .error (lit "expected " ++ name ++ lit " clearing cookie to set Max-Age=0")
    else if cookie.path ≠ expectedPath then
      .error (lit "expected " ++ name ++ lit " clearing cookie path " ++
        reprText unicode expectedPath)
    else if ∃ expected ∈ expectedHttpOnly, cookie.httpOnly ≠ expected then
      .error (lit "expected " ++ name ++ lit " clearing cookie HttpOnly=" ++
        (expectedHttpOnly.elim [] boolText))
    else if ∃ expected ∈ expectedSecure, cookie.secure ≠ expected then
      .error (lit "expected " ++ name ++ lit " clearing cookie Secure=" ++
        (expectedSecure.elim [] boolText))
    else if ∃ expected ∈ expectedSameSite,
        unicode.casefold cookie.sameSite ≠ unicode.casefold expected then
      .error (lit "expected " ++ name ++ lit " clearing cookie SameSite=" ++ expectedSameSite.getD [])
    else .ok ()

/-- `assert_cookie_not_set`. -/
def assertCookieNotSet (headers : List Text) (cookieName : Text) : Except Text Unit :=
  match responseCookie reader cookieName headers with
  | some _ => .error (lit "expected response not to set cookie " ++ reprText unicode cookieName)
  | none => .ok ()

/-! ## A client -/

/-- How a client treats a cookie without a `Domain`: a cookie with `Max-Age=0` is removed. -/
structure CookieClient where
  /-- The path a cookie is kept at, from its `Path` attribute. -/
  storePath : Text → Text
  removes : Morsel → Bool
  removes_zero : ∀ cookie : Morsel, cookie.maxAge = lit "0" → removes cookie = true

/-- The values a client holds, by name and path. -/
abbrev Jar := Text × Text → Option Text

namespace CookieClient

variable (client : CookieClient)

/-- The client applies one `Set-Cookie` header. -/
def apply (jar : Jar) (header : Text) : Jar :=
  match reader.cookie? header with
  | none => jar
  | some (name, cookie) =>
    Function.update jar (name, client.storePath cookie.path)
      (if client.removes cookie then none else some cookie.value)

/-- The client applies all headers in order. -/
def receive (jar : Jar) (headers : List Text) : Jar := headers.foldl (client.apply reader) jar

/-- The cookie of a header, when it has this name and is kept at this path. -/
def setting? (name path header : Text) : Option Morsel :=
  (reader.cookie? header).bind fun cookie =>
    if cookie.1 = name ∧ client.storePath cookie.2.path = path then some cookie.2 else none

/-- The cookies of this name and path, in the order of the headers. -/
def settings (headers : List Text) (name path : Text) : List Morsel :=
  headers.filterMap (client.setting? reader name path)

end CookieClient

variable {reader unicode} {client : CookieClient}

open CookieClient

/-- What a header does to one place of a jar. -/
theorem apply_eq (jar : Jar) (name path header : Text) :
    client.apply reader jar header (name, path) =
      (client.setting? reader name path header).elim (jar (name, path)) fun cookie =>
        if client.removes cookie then none else some cookie.value := by
  unfold CookieClient.apply CookieClient.setting?
  cases reader.cookie? header with
  | none => rfl
  | some found =>
    obtain ⟨name', cookie⟩ := found
    by_cases h : name' = name ∧ client.storePath cookie.path = path
    · obtain ⟨rfl, rfl⟩ := h
      simp
    · have hne : (name, path) ≠ (name', client.storePath cookie.path) := by
        intro heq
        obtain ⟨rfl, rfl⟩ := Prod.mk.inj heq
        exact h ⟨rfl, rfl⟩
      simp [hne, h]

/-- **What a client holds in the end** is decided by the last header for it. -/
theorem receive_eq (jar : Jar) (headers : List Text) (name path : Text) :
    client.receive reader jar headers (name, path) =
      ((client.settings reader headers name path).getLast?).elim (jar (name, path)) fun cookie =>
        if client.removes cookie then none else some cookie.value := by
  unfold CookieClient.receive CookieClient.settings
  induction headers using List.reverseRecOn with
  | nil => rfl
  | append_singleton headers header ih =>
    rw [List.foldl_append, List.foldl_cons, List.foldl_nil, apply_eq, ih, List.filterMap_append,
      List.filterMap_cons, List.filterMap_nil]
    cases client.setting? reader name path header with
    | none => simp
    | some cookie => simp

/-! ## The assertions -/

/-- **The header the cookie is read from**: none in front of it sets a cookie of the name. -/
theorem responseCookie_eq_some {cookieName : Text} {headers : List Text} {cookie : Morsel}
    (h : responseCookie reader cookieName headers = some cookie) :
    ∃ before header, headers = before ++ header :: headersBehind reader cookieName headers ∧
      reader.cookie? header = some (cookieName, cookie) ∧
      ∀ header ∈ before, ∀ found, reader.cookie? header ≠ some (cookieName, found) := by
  induction headers with
  | nil => cases h
  | cons header headers ih =>
    rw [responseCookie] at h
    -- A header that is passed over stands in front of the one that is found.
    have hpass : responseCookie reader cookieName headers = some cookie →
        (reader.cookie? header).map Prod.fst ≠ some cookieName →
        ∃ before found, header :: headers =
            before ++ found :: headersBehind reader cookieName (header :: headers) ∧
          reader.cookie? found = some (cookieName, cookie) ∧
          ∀ header ∈ before, ∀ found, reader.cookie? header ≠ some (cookieName, found) := by
      intro h hname
      obtain ⟨before, found, hheaders, hread, hbefore⟩ := ih h
      refine ⟨header :: before, found, ?_, hread, List.forall_mem_cons.mpr ⟨?_, hbefore⟩⟩
      · rw [headersBehind, if_neg hname, List.cons_append, ← hheaders]
      · exact fun _ heq => hname (by rw [heq]; rfl)
    cases hread : reader header with
    | error e =>
      rw [hread] at h
      exact hpass h (by simp [CookieReader.cookie?, hread])
    | ok found =>
      rw [hread] at h
      rcases found with _ | ⟨name, found⟩
      · exact hpass h (by simp [CookieReader.cookie?, hread])
      · have hcookie : reader.cookie? header = some (name, found) := by
          rw [CookieReader.cookie?, hread]
        dsimp only at h
        split_ifs at h with hname
        · cases h
          refine ⟨[], header, ?_, by rw [hcookie, hname], List.forall_mem_nil _⟩
          rw [headersBehind, if_pos (by rw [hcookie, Option.map_some, hname]), List.nil_append]
        · exact hpass h (by simp [hcookie, hname])

/-- No header sets the cookie. -/
theorem responseCookie_eq_none {cookieName : Text} {headers : List Text} :
    responseCookie reader cookieName headers = none ↔
      ∀ header ∈ headers, ∀ cookie, reader.cookie? header ≠ some (cookieName, cookie) := by
  induction headers with
  | nil => simp [responseCookie]
  | cons header headers ih =>
    rw [List.forall_mem_cons, responseCookie, ← ih, CookieReader.cookie?]
    rcases reader header with ⟨⟩ | _ | ⟨name, cookie⟩
    · simp
    · simp
    · by_cases hname : name = cookieName
      · simp [hname]
      · simp [hname]

/-- The cookie the assertion passes on. -/
theorem assertCookieCleared_eq_ok {headers : List Text} {cookieName expectedPath : Text}
    {expectedHttpOnly expectedSecure : Option Bool} {expectedSameSite : Option Text}
    (h : assertCookieCleared reader unicode headers cookieName expectedPath expectedHttpOnly
      expectedSecure expectedSameSite = .ok ()) :
    ∃ cookie, responseCookie reader cookieName headers = some cookie ∧ cookie.maxAge = lit "0" ∧
      cookie.path = expectedPath := by
  unfold assertCookieCleared at h
  cases hcookie : responseCookie reader cookieName headers with
  | none =>
    rw [hcookie] at h
    cases h
  | some cookie =>
    rw [hcookie] at h
    dsimp only at h
    split_ifs at h with hvalue hage hpath
    exact ⟨cookie, rfl, not_not.mp hage, not_not.mp hpath⟩

/-- What a client applies for the cookie: the one the assertion passes on, which is removed, and then
those of the headers behind it. -/
theorem settings_of_cleared (client : CookieClient) {headers : List Text}
    {cookieName expectedPath : Text} {expectedHttpOnly expectedSecure : Option Bool}
    {expectedSameSite : Option Text}
    (h : assertCookieCleared reader unicode headers cookieName expectedPath expectedHttpOnly
      expectedSecure expectedSameSite = .ok ()) :
    ∃ cookie, client.removes cookie = true ∧
      client.settings reader headers cookieName (client.storePath expectedPath) =
        cookie :: client.settings reader (headersBehind reader cookieName headers) cookieName
          (client.storePath expectedPath) := by
  obtain ⟨cookie, hcookie, hage, hpath⟩ := assertCookieCleared_eq_ok h
  obtain ⟨before, header, hheaders, hread, hbefore⟩ := responseCookie_eq_some hcookie
  refine ⟨cookie, client.removes_zero cookie hage, ?_⟩
  have hfront : client.settings reader before cookieName (client.storePath expectedPath) = [] := by
    refine List.filterMap_eq_nil_iff.mpr fun header hheader => ?_
    unfold CookieClient.setting?
    cases hfound : reader.cookie? header with
    | none => rfl
    | some found =>
      rw [Option.bind_some, if_neg]
      rintro ⟨hname, -⟩
      exact hbefore header hheader found.2 (by rw [hfound, ← hname])
  have hhere : client.setting? reader cookieName (client.storePath expectedPath) header =
      some cookie := by
    rw [CookieClient.setting?, hread, Option.bind_some, if_pos ⟨rfl, by rw [hpath]⟩]
  rw [CookieClient.settings] at hfront
  conv_lhs => rw [hheaders]
  rw [CookieClient.settings, List.filterMap_append, hfront, List.nil_append,
    List.filterMap_cons_some hhere, CookieClient.settings]

/-- **Where the assertion passes, a client that held the cookie holds none in the end iff the headers
behind the one that was checked do not bring it back**: none of them sets this cookie, or the last one
that does removes it. -/
theorem cookie_cleared_iff (client : CookieClient) {headers : List Text}
    {cookieName expectedPath : Text} {expectedHttpOnly expectedSecure : Option Bool}
    {expectedSameSite : Option Text}
    (h : assertCookieCleared reader unicode headers cookieName expectedPath expectedHttpOnly
      expectedSecure expectedSameSite = .ok ()) :
    (∀ jar : Jar, jar (cookieName, client.storePath expectedPath) ≠ none →
      client.receive reader jar headers (cookieName, client.storePath expectedPath) = none) ↔
    ∀ cookie ∈ (client.settings reader (headersBehind reader cookieName headers) cookieName
      (client.storePath expectedPath)).getLast?, client.removes cookie = true := by
  obtain ⟨checked, hremoved, hsettings⟩ := settings_of_cleared client h
  simp only [receive_eq, hsettings, List.getLast?_cons, Option.elim_some]
  cases (client.settings reader (headersBehind reader cookieName headers) cookieName
      (client.storePath expectedPath)).getLast? with
  | none => simp [hremoved]
  | some last =>
    simp only [Option.getD_some, Option.mem_some_iff, forall_eq']
    refine ⟨fun hgone => ?_, fun hremoves jar _ => if_pos hremoves⟩
    have hgone := hgone (fun _ => some []) (Option.some_ne_none [])
    by_contra hkept
    rw [if_neg hkept] at hgone
    cases hgone

/-- **Where `assert_cookie_not_set` passes, the client holds what it held** of this name. -/
theorem not_set_keeps {headers : List Text} {cookieName : Text}
    (h : assertCookieNotSet reader unicode headers cookieName = .ok ()) (jar : Jar) (path : Text) :
    client.receive reader jar headers (cookieName, path) = jar (cookieName, path) := by
  have hnone : responseCookie reader cookieName headers = none := by
    unfold assertCookieNotSet at h
    cases hcookie : responseCookie reader cookieName headers with
    | none => rfl
    | some cookie =>
      rw [hcookie] at h
      cases h
  have hsettings : client.settings reader headers cookieName path = [] := by
    refine List.filterMap_eq_nil_iff.mpr fun header hheader => ?_
    unfold CookieClient.setting?
    cases hread : reader.cookie? header with
    | none => rfl
    | some found =>
      obtain ⟨name, cookie⟩ := found
      rw [Option.bind_some, if_neg]
      rintro ⟨rfl, -⟩
      exact responseCookie_eq_none.mp hnone header hheader cookie hread
  rw [receive_eq, hsettings]
  rfl

/-! ## A cookie that is set again -/

/-- A client that keeps a cookie at its `Path` attribute. -/
def plainClient : CookieClient :=
  ⟨id, fun cookie => cookie.maxAge == lit "0", fun _ h => beq_iff_eq.mpr h⟩

def clearingHeader : Text := lit "BA_SESSION=; Path=/; Max-Age=0"

def settingHeader : Text := lit "BA_SESSION=s1; Path=/"

/-- A cookie of another name. -/
def languageHeader : Text := lit "lang=de; Path=/"

/-- A cookie of the name at another path. -/
def consoleHeader : Text := lit "BA_SESSION=s2; Path=/console"

/-- What `http.cookies` reads in these headers; another header is illegal. -/
def sessionReader : CookieReader := fun header =>
  if header = clearingHeader then
    .ok (some (lit "BA_SESSION", ⟨[], lit "0", lit "/", false, false, []⟩))
  else if header = settingHeader then
    .ok (some (lit "BA_SESSION", ⟨lit "s1", [], lit "/", false, false, []⟩))
  else if header = languageHeader then
    .ok (some (lit "lang", ⟨lit "de", [], lit "/", false, false, []⟩))
  else if header = consoleHeader then
    .ok (some (lit "BA_SESSION", ⟨lit "s2", [], lit "/console", false, false, []⟩))
  else .error ()

/-- A response that clears the cookie and sets it again passes, and the client holds the cookie. -/
theorem setAgain_passes :
    assertCookieCleared sessionReader .ascii [clearingHeader, settingHeader] (lit "BA_SESSION")
      (lit "/") none none none = .ok () ∧
    plainClient.receive sessionReader (fun _ => some (lit "s0")) [clearingHeader, settingHeader]
      (lit "BA_SESSION", lit "/") = some (lit "s1") := by
  decide +kernel

/-- A response that clears the cookie, sets it again and clears it once more, between headers that
are for other cookies or that no cookie is read from. -/
def clearedTwice : List Text :=
  [languageHeader, lit "BA SESSION=?", clearingHeader, settingHeader, consoleHeader, clearingHeader]

theorem cookie_cleared_iff_example :
    (∀ jar : Jar, jar (lit "BA_SESSION", lit "/") ≠ none →
      plainClient.receive sessionReader jar clearedTwice (lit "BA_SESSION", lit "/") = none) ↔
    ∀ cookie ∈ (plainClient.settings sessionReader
      (headersBehind sessionReader (lit "BA_SESSION") clearedTwice) (lit "BA_SESSION")
      (lit "/")).getLast?, plainClient.removes cookie = true :=
  cookie_cleared_iff plainClient (show assertCookieCleared sessionReader .ascii clearedTwice
    (lit "BA_SESSION") (lit "/") none none none = .ok () by decide +kernel)

end ApiTests.Client
