import ApiTests.Py.Unicode

/-!
# Redaction of diagnostics (`dependency_evidence.py:50-57, 107-111`)

`redact_text` runs three substitutions one after the other: the userinfo of a URL, known tokens, and
secret assignments.
-/

namespace ApiTests.Evidence

open Py

/-- `"<redacted>"`. -/
def redactedMark : Text := lit "<redacted>"

/-! ## The patterns -/

/-- `[^\s,;]`. -/
def isSecretChar (c : Nat) : Bool := !(isSpace c || c == 44 || c == 59)

/-- `authorization|cookie|password|session|token|api[_-]?key`, case ignored. -/
def secretNameRe : Re :=
  .alts [.strI (lit "authorization"), .strI (lit "cookie"), .strI (lit "password"),
    .strI (lit "session"), .strI (lit "token"),
    .seqs [.strI (lit "api"), .opt (.cls fun c => c == 95 || c == 45), .strI (lit "key")]]

/-- `_SECRET_ASSIGNMENT`. -/
def secretAssignmentRe (unicode : Unicode) : Re :=
  .seqs [.boundary unicode.isWord, .group 1 secretNameRe,
    .group 2 (.seqs [.rep 0 isSpace, .cls (fun c => c == 58 || c == 61), .rep 0 isSpace]),
    .group 3 (.rep 1 isSecretChar)]

/-- `[^/@\s:]`. -/
def isUserChar (c : Nat) : Bool := !(c == 47 || c == 64 || isSpace c || c == 58)

/-- `[^/@\s]`. -/
def isUserinfoChar (c : Nat) : Bool := !(c == 47 || c == 64 || isSpace c)

/-- `_URL_USERINFO`. -/
def urlUserinfoRe : Re :=
  .seqs [.group 1 (.seqs [.strI (lit "http"), .opt (.strI (lit "s")), .str (lit "://")]),
    .rep 1 isUserChar, .str (lit ":"), .rep 1 isUserinfoChar, .str (lit "@")]

/-- `_KNOWN_TOKEN`. -/
def knownTokenRe (unicode : Unicode) : Re :=
  .seqs [.boundary unicode.isWord,
    .alts [
      .seqs [.str (lit "gh"), .cls (fun c => c ∈ lit "pousr"), .str (lit "_"), .rep 20 isWordAscii],
      .seq (.str (lit "github_pat_")) (.rep 20 isWordAscii)],
    .boundary unicode.isWord]

/-! ## The substitutions -/

/-- `redact_text`. -/
def redactText (unicode : Unicode) (value : Text) : Text :=
  let redacted := urlUserinfoRe.sub (fun m => m.get 1 ++ redactedMark ++ lit "@") value
  let redacted := (knownTokenRe unicode).sub (fun _ => redactedMark) redacted
  (secretAssignmentRe unicode).sub (fun m => m.get 1 ++ m.get 2 ++ redactedMark) redacted

end ApiTests.Evidence
