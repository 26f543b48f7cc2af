import Crossing.IpAddress

namespace Urllib

open IpAddress

/-!
# The parts of a URL

`urlparse` of Python 3.12 and the properties of its result that read the
authority: `username`, `password`, `hostname` and `port`.  The path, the query
and the fragment are cut off and not kept.  The tables of Unicode are taken
from outside.
-/

/-- `str.lower` and the normalization NFKC. -/
structure UnicodeTables where
  lower : String → String
  nfkc : String → String

/-- `text.rpartition(sep)`: before and after the last separator. -/
def rpartition (sep : Char) (text : List Char) :
    Option (List Char) × List Char :=
  match text.reverse.dropWhile (· ≠ sep) with
  | [] => (none, text)
  | _ :: before =>
      (some before.reverse, (text.reverse.takeWhile (· ≠ sep)).reverse)

/-- `text.partition(sep)`: before and after the first separator. -/
def partition (sep : Char) (text : List Char) :
    List Char × Option (List Char) :=
  match text.dropWhile (· ≠ sep) with
  | [] => (text, none)
  | _ :: rest => (text.takeWhile (· ≠ sep), some rest)

/-- `scheme_chars`. -/
def isSchemeChar (char : Char) : Bool :=
  char.isAlphanum || char ∈ ['+', '-', '.']

/-- What `urlsplit` keeps of its argument: no leading space, no line breaks. -/
def cleaned (url : List Char) : List Char :=
  (url.dropWhile fun char => char.toNat ≤ 32).filter
    (· ∉ ['\t', '\r', '\n'])

/-- The scheme and the rest of a URL. -/
def splitScheme (tables : UnicodeTables) (url : List Char) :
    String × List Char :=
  match partition ':' url with
  | (first :: name, some rest) =>
      if first.isAlpha ∧ (first :: name).all isSchemeChar then
        (tables.lower (.ofList (first :: name)), rest)
      else
        ("", url)
  | _ => ("", url)

/-- The authority, which two slashes introduce. -/
def netlocOf : List Char → List Char
  | '/' :: '/' :: rest => rest.takeWhile (· ∉ ['/', '?', '#'])
  | _ => []

/-- An address of a future version: `v`, hexadecimal digits, a dot and text. -/
def isFutureAddress : List Char → Bool
  | 'v' :: rest =>
      let digits := rest.takeWhile fun char => (hexDigit char).isSome
      match rest.drop digits.length with
      | '.' :: text => !digits.isEmpty && !text.isEmpty && '\n' ∉ text
      | _ => false
  | _ => false

/-- `_check_bracketed_host`. -/
def bracketedHostValid (host : List Char) : Bool :=
  if host.head? = some 'v' then
    isFutureAddress host
  else
    match ipAddress (.ofList host) with
    | some (.v6 _ _) => true
    | _ => false

/-- `_check_bracketed_netloc`. -/
def bracketedNetlocValid (netloc : List Char) : Bool :=
  let hostAndPort := (rpartition '@' netloc).2
  match partition '[' hostAndPort with
  | (before, some bracketed) =>
      let (host, rest) := partition ']' bracketed
      let port := rest.getD []
      before.isEmpty && (port.isEmpty || port.head? = some ':') &&
        bracketedHostValid host
  | (_, none) => bracketedHostValid (partition ':' hostAndPort).1

/-- Brackets come in pairs, around an address. -/
def bracketsValid (netloc : List Char) : Bool :=
  if '[' ∈ netloc ∧ ']' ∈ netloc then
    bracketedNetlocValid netloc
  else
    '[' ∉ netloc && ']' ∉ netloc

/-- `_checknetloc`: the normal form has no delimiters that were not there. -/
def normalFormValid (tables : UnicodeTables) (netloc : List Char) : Bool :=
  if netloc.all fun char => char.toNat < 128 then
    true
  else
    let kept := String.ofList (netloc.filter (· ∉ ['@', ':', '#', '?']))
    let normal := tables.nfkc kept
    decide (kept = normal) ||
      ['/', '?', '#', '@', ':'].all fun char => char ∉ normal.toList

/-- The scheme and the authority of a URL. -/
structure ParseResult where
  scheme : String
  netloc : List Char
  deriving Repr, DecidableEq

/-- `urlparse(url)`; `none` stands for `ValueError`. -/
def urlparse (tables : UnicodeTables) (url : String) : Option ParseResult :=
  let (scheme, rest) := splitScheme tables (cleaned url.toList)
  let netloc := netlocOf rest
  if bracketsValid netloc ∧ normalFormValid tables netloc then
    some ⟨scheme, netloc⟩
  else
    none

/-- The number of digits that `int` takes at most. -/
def maxIntDigits : Nat := 4300

namespace ParseResult

/-- `username`. -/
def username (parsed : ParseResult) : Option String :=
  (rpartition '@' parsed.netloc).1.map fun userinfo =>
    .ofList (partition ':' userinfo).1

/-- `password`. -/
def password (parsed : ParseResult) : Option String :=
  (rpartition '@' parsed.netloc).1.bind fun userinfo =>
    (partition ':' userinfo).2.map .ofList

/-- `_hostinfo`: the host, and the port when it is not empty. -/
def hostinfo (parsed : ParseResult) : List Char × Option (List Char) :=
  let hostinfo := (rpartition '@' parsed.netloc).2
  let (host, port) :=
    match partition '[' hostinfo with
    | (_, some bracketed) =>
        let (host, rest) := partition ']' bracketed
        (host, (partition ':' (rest.getD [])).2)
    | (_, none) => partition ':' hostinfo
  (host, port.filter (· ≠ []))

/-- `hostname`: in lower case, but for the scope of an address. -/
def hostname (tables : UnicodeTables) (parsed : ParseResult) :
    Option String :=
  match parsed.hostinfo.1 with
  | [] => none
  | host =>
      let (name, scope) := partition '%' host
      let lowered := tables.lower (.ofList name)
      match scope with
      | none => some lowered
      | some scope => some (lowered ++ "%" ++ .ofList scope)

/-- `port`; the outer `none` stands for `ValueError`. -/
def port (parsed : ParseResult) : Option (Option Nat) :=
  match parsed.hostinfo.2 with
  | none => some none
  | some text =>
      let value := Nat.ofDigitChars 10 text 0
      if text.all Char.isDigit ∧ text.length ≤ maxIntDigits ∧
          value ≤ 65535 then
        some (some value)
      else
        none

end ParseResult

end Urllib
