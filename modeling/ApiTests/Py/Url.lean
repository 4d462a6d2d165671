import ApiTests.Py.Text

/-!
# `urllib.parse.urlsplit` and `urlparse`

The splitter of Python 3.12, the version the project requires: leading control characters and
spaces go, tabs and line breaks go wherever they are, then scheme, network location, fragment and
query are cut off, in this order, and what is left is the path. The checks of a network location
that need address and Unicode tables are a parameter, `NetlocChecks`. `urlparse` also cuts the
parameters off the last segment of the path.
-/

namespace ApiTests.Py

/-- `SplitResult`. -/
structure SplitResult where
  scheme : Text
  netloc : Text
  path : Text
  query : Text
  fragment : Text
  deriving Repr, DecidableEq

/-- The checks of a network location, each with the message of the `ValueError` it raises. -/
structure NetlocChecks where
  /-- `_check_bracketed_netloc`: what stands between brackets is an IP literal. -/
  bracketed : Text → Option Text
  /-- `_checknetloc`: no character that NFKC turns into a delimiter. -/
  normalized : Text → Option Text

/-- `scheme_chars`: ASCII letters, digits and `+-.`. -/
def isSchemeChar (c : Nat) : Bool :=
  isAsciiLetter c || (48 ≤ c && c ≤ 57) || c == 43 || c == 45 || c == 46

/-- `t.split(c, 1)` when `c` is in `t`, else `t` and the empty text. -/
def splitOnce (c : Nat) (t : Text) : Text × Text :=
  (t.takeWhile fun d => d != c, (t.dropWhile fun d => d != c).tail)

/-- `lstrip(_WHATWG_C0_CONTROL_OR_SPACE)`, and `_UNSAFE_URL_BYTES_TO_REMOVE` removed. -/
def cleanUrl (url : Text) : Text :=
  (url.dropWhile fun c => c ≤ 32).filter fun c => !(c == 9 || c == cr || c == lf)

/-- The scheme, in lower case, and the rest; the scheme is empty when there is none. -/
def splitScheme (url : Text) : Text × Text :=
  let name := url.takeWhile fun c => c != 58
  if 58 ∈ url ∧ (∃ c ∈ name.head?, isAsciiLetter c = true) ∧ name.all isSchemeChar then
    (name.map lowerAscii, (splitOnce 58 url).2)
  else ([], url)

/-- `_splitnetloc`: up to the first `/`, `?` or `#`. -/
def splitNetloc (url : Text) : Text × Text :=
  url.span fun c => !(c == 47 || c == 63 || c == 35)

/-- The first check of `urlsplit` on brackets, then `_check_bracketed_netloc`. -/
def bracketError (checks : NetlocChecks) (netloc : Text) : Option Text :=
  if (91 ∈ netloc ∧ 93 ∉ netloc) ∨ (93 ∈ netloc ∧ 91 ∉ netloc) then some (lit "Invalid IPv6 URL")
  else if 91 ∈ netloc ∧ 93 ∈ netloc then checks.bracketed netloc
  else none

/-- `urlsplit(url)`, or the message of its `ValueError`. -/
def urlsplit (checks : NetlocChecks) (url : Text) : Except Text SplitResult :=
  let (scheme, url) := splitScheme (cleanUrl url)
  let (netloc, url) := if lit "//" <+: url then splitNetloc (url.drop 2) else ([], url)
  match bracketError checks netloc with
  | some message => .error message
  | none =>
    let (url, fragment) := splitOnce 35 url
    let (path, query) := splitOnce 63 url
    match checks.normalized netloc with
    | some message => .error message
    | none => .ok ⟨scheme, netloc, path, query, fragment⟩

/-- `uses_params`. -/
def usesParams : List Text :=
  [[], lit "ftp", lit "hdl", lit "prospero", lit "http", lit "imap", lit "https", lit "shttp",
    lit "rtsp", lit "rtsps", lit "rtspu", lit "sip", lit "sips", lit "mms", lit "sftp", lit "tel"]

/-- `_splitparams`: at the first `;` behind the last `/`. -/
def splitParams (url : Text) : Text × Text :=
  let last := url.rtakeWhile fun c => c != 47
  if 59 ∈ last then
    ((url.rdropWhile fun c => c != 47) ++ (splitOnce 59 last).1, (splitOnce 59 last).2)
  else (url, [])

/-- `ParseResult`. -/
structure ParseResult extends SplitResult where
  params : Text
  deriving Repr, DecidableEq

/-- `urlparse(url)`, or the message of its `ValueError`. -/
def urlparse (checks : NetlocChecks) (url : Text) : Except Text ParseResult :=
  (urlsplit checks url).map fun parts =>
    if parts.scheme ∈ usesParams ∧ 59 ∈ parts.path then
      let (path, params) := splitParams parts.path
      { parts with path, params }
    else { parts with params := [] }

end ApiTests.Py
