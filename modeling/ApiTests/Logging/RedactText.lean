import ApiTests.Py.Unicode

/-!
# Redaction of free text (`logging.py:27-37, 63-70, 169-188`)

`_redact_sensitive_text` runs five substitutions one after the other: email addresses, preview
tokens, bearer headers, credential assignments and cookie headers. `redact_sensitive_text`, for
diagnostics outside the artifacts, adds the values of an authorization query.
-/

namespace ApiTests.Logging

open Py

/-- `"[REDACTED]"`. -/
def redactedMark : Text := lit "[REDACTED]"

/-! ## The patterns -/

/-- `[A-Z0-9._%+-]`, case ignored: the characters of a local part. -/
def isLocalChar (c : Nat) : Bool :=
  isLetterI c || isDigit c || c == 46 || c == 95 || c == 37 || c == 43 || c == 45

/-- `[A-Z0-9.-]`, case ignored: the characters of a domain. -/
def isDomainChar (c : Nat) : Bool := isLetterI c || isDigit c || c == 46 || c == 45

/-- `[A-Za-z0-9_-]`. -/
def isTokenChar (c : Nat) : Bool := isWordAscii c || c == 45

/-- `EMAIL_RE`. -/
def emailRe : Re :=
  .seqs [.notBehind isLocalChar, .rep 1 isLocalChar, .str (lit "@"), .rep 1 isDomainChar,
    .str (lit "."), .rep 2 isLetterI, .notAhead isDomainChar]

/-- `PREVIEW_TOKEN_RE`. -/
def previewTokenRe (unicode : Unicode) : Re :=
  .seqs [.boundary unicode.isWord, .str (lit "v2."), .rep 1 isTokenChar, .str (lit "."),
    .rep 1 isTokenChar, .boundary unicode.isWord]

/-- `(?i)(authorization:\s*bearer\s+)[^\s,;]+`. -/
def bearerRe : Re :=
  .seq (.group 1 (.seqs [.strI (lit "authorization:"), .rep 0 isSpace, .strI (lit "bearer"),
    .rep 1 isSpace]))
    (.rep 1 fun c => !(isSpace c || c == 44 || c == 59))

/-- `["']`. -/
def isQuote (c : Nat) : Bool := c == 34 || c == 39

/-- `(?i)((?:access_token|…|username)["']?\s*[:=]\s*["']?)[^"'\s,;}]+`. -/
def assignmentRe : Re :=
  .seq (.group 1 (.seqs [
    .alts [.strI (lit "access_token"), .strI (lit "refresh_token"), .strI (lit "id_token"),
      .strI (lit "password"), .strI (lit "client_secret"), .strI (lit "email"),
      .strI (lit "username")],
    .opt (.cls isQuote), .rep 0 isSpace, .cls (fun c => c == 58 || c == 61), .rep 0 isSpace,
    .opt (.cls isQuote)]))
    (.rep 1 fun c => !(isQuote c || isSpace c || c == 44 || c == 59 || c == 125))

/-- `(?i)((?:cookie|set-cookie)\s*:\s*)[^\n\r]+`. -/
def cookieRe : Re :=
  .seq (.group 1 (.seqs [.alts [.strI (lit "cookie"), .strI (lit "set-cookie")], .rep 0 isSpace,
    .strI (lit ":"), .rep 0 isSpace]))
    (.rep 1 fun c => !(c == lf || c == cr))

/-- `(?i)([?&](?:client_id|code|code_challenge|id_token_hint|nonce|state)=)[^&#\s]+`. -/
def authorizationQueryRe : Re :=
  .seq (.group 1 (.seqs [.cls (fun c => c == 63 || c == 38),
    .alts [.strI (lit "client_id"), .strI (lit "code"), .strI (lit "code_challenge"),
      .strI (lit "id_token_hint"), .strI (lit "nonce"), .strI (lit "state")],
    .strI (lit "=")]))
    (.rep 1 fun c => !(c == 38 || c == 35 || isSpace c))

/-! ## The substitutions -/

/-- The replacement `\1[REDACTED]`. -/
def keepGroup (m : Cursor) : Text := m.get 1 ++ redactedMark

/-- The replacement `[REDACTED]`. -/
def redactAll (_ : Cursor) : Text := redactedMark

/-- `_redact_sensitive_text`. -/
def redactSensitiveText (unicode : Unicode) (value : Text) : Text :=
  let redacted := emailRe.sub redactAll value
  let redacted := (previewTokenRe unicode).sub redactAll redacted
  let redacted := bearerRe.sub keepGroup redacted
  let redacted := assignmentRe.sub keepGroup redacted
  cookieRe.sub keepGroup redacted

/-- `redact_sensitive_text`, the public one. -/
def publicRedactSensitiveText (unicode : Unicode) (value : Text) : Text :=
  let redacted := redactSensitiveText unicode value
  authorizationQueryRe.sub keepGroup redacted

end ApiTests.Logging
