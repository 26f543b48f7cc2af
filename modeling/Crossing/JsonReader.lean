import Crossing.JsonText

namespace Python

/-!
# Reading JSON

`json.loads` on text, as the C scanner of the standard library reads it: the
numerals, strict strings with their surrogate pairs, and objects in which the
last value of a key wins at the place of the first.
-/

/--
Why a text has no value.  `decode` is `JSONDecodeError` and `digits` the
`ValueError` of a long integer.  `outside` stands for `NaN` and for a string
with a lone surrogate, which are no values here.  `unfinished` marks a scan
that was given too few steps.
-/
inductive LoadsError where
  | decode
  | digits
  | outside
  | unfinished
  deriving DecidableEq, Repr

namespace Json

/-- White space between tokens. -/
def isWhite (char : Char) : Bool :=
  char = ' ' || char = '\t' || char = '\n' || char = '\r'

/-- The text behind the white space. -/
def skip (text : List Char) : List Char :=
  text.dropWhile isWhite

/-- The text behind a character that comes next. -/
def eat (char : Char) : List Char → Option (List Char)
  | [] => none
  | head :: rest => if head = char then some rest else none

/-! ## Strings -/

/-- The escapes of one letter that are read. -/
def readEscapes : List (Char × Char) :=
  [('"', '"'), ('\\', '\\'), ('/', '/'), ('b', '\x08'), ('f', '\x0c'),
    ('n', '\n'), ('r', '\r'), ('t', '\t')]

/-- A hexadecimal digit of either case. -/
def hexDigit? (char : Char) : Option Nat :=
  if char.isDigit then
    some (char.toNat - 48)
  else if 'a' ≤ char ∧ char ≤ 'f' then
    some (char.toNat - 87)
  else if 'A' ≤ char ∧ char ≤ 'F' then
    some (char.toNat - 55)
  else
    none

/-- Four hexadecimal digits. -/
def readHex (a b c d : Char) : Option Nat := do
  let a ← hexDigit? a
  let b ← hexDigit? b
  let c ← hexDigit? c
  let d ← hexDigit? d
  some (0x1000 * a + 0x100 * b + 0x10 * c + d)

/-- One more item in front of what was read. -/
def push
    {α : Type}
    (item : α)
    (scanned : Except LoadsError (List α × List Char)) :
    Except LoadsError (List α × List Char) :=
  scanned.map fun read => (item :: read.1, read.2)

/-- The code points and code units of a string, up to its closing quote. -/
def scanUnits : List Char → Except LoadsError (List Nat × List Char)
  | [] => .error .decode
  | head :: rest =>
      if head = '"' then
        .ok ([], rest)
      else if head = '\\' then
        match rest with
        | 'u' :: a :: b :: c :: d :: rest =>
            match readHex a b c d with
            | some codeUnit => push codeUnit (scanUnits rest)
            | none => .error .decode
        | letter :: rest =>
            match readEscapes.lookup letter with
            | some char => push char.toNat (scanUnits rest)
            | none => .error .decode
        | [] => .error .decode
      else if head.toNat < 0x20 then
        .error .decode
      else
        push head.toNat (scanUnits rest)

/-- The first half of a surrogate pair. -/
def isHigh (codeUnit : Nat) : Bool :=
  0xd800 ≤ codeUnit && codeUnit < 0xdc00

/-- The second half of a surrogate pair. -/
def isLow (codeUnit : Nat) : Bool :=
  0xdc00 ≤ codeUnit && codeUnit < 0xe000

/-- `Py_UNICODE_JOIN_SURROGATES`. -/
def joinPair (high low : Nat) : Nat :=
  0x10000 + (high - 0xd800) * 0x400 + (low - 0xdc00)

/-- The characters of a string; a lone surrogate is none. -/
def joinUnits : List Nat → Option (List Char)
  | [] => some []
  | codeUnit :: rest =>
      if isHigh codeUnit then
        match rest with
        | low :: rest =>
            if isLow low then
              (joinUnits rest).map (.ofNat (joinPair codeUnit low) :: ·)
            else
              none
        | [] => none
      else if isLow codeUnit then
        none
      else
        (joinUnits rest).map (.ofNat codeUnit :: ·)

/-- `scanstring`, behind the opening quote. -/
def scanString (text : List Char) :
    Except LoadsError (String × List Char) := do
  let (units, rest) ← scanUnits text
  match joinUnits units with
  | some chars => .ok (.ofList chars, rest)
  | none => .error .outside

/-! ## Scalars -/

/-- `int` on a numeral. -/
def Numeral.toInt (numeral : Numeral) : Int :=
  if numeral.sign = [] then
    Nat.ofDigitChars 10 numeral.whole 0
  else
    -Nat.ofDigitChars 10 numeral.whole 0

section

variable (floats : FloatText)

/-- The number of a numeral. -/
def Numeral.value (numeral : Numeral) : Except LoadsError Json :=
  if numeral.isFloat then
    .ok (.float (floats.parse numeral.text))
  else if numeral.whole.length ≤ digitLimit then
    .ok (.int numeral.toInt)
  else
    .error .digits

/-- The constants of `json`, with the value of each. -/
def constants : List (List Char × Except LoadsError Json) :=
  [("null".toList, .ok .null),
    ("true".toList, .ok (.bool true)),
    ("false".toList, .ok (.bool false)),
    ("NaN".toList, .error .outside),
    ("Infinity".toList, .ok (.float .infinity)),
    ("-Infinity".toList, .ok (.float .negativeInfinity))]

/-- A constant or a numeral. -/
def scanScalar (text : List Char) : Except LoadsError (Json × List Char) :=
  match constants.find? fun constant => constant.1.isPrefixOf text with
  | some (name, value) => value.map (·, text.drop name.length)
  | none =>
      match scanNumeral text with
      | some (numeral, rest) => (numeral.value floats).map (·, rest)
      | none => .error .decode

/-! ## Values -/

/-- `fields[key] = value`. -/
def setField
    (fields : List (String × Json))
    (field : String × Json) :
    List (String × Json) :=
  if field.1 ∈ fields.map Prod.fst then
    fields.map fun old => if old.1 = field.1 then field else old
  else
    fields ++ [field]

/-- The dict of the fields that were read. -/
def dictOf (fields : List (String × Json)) : List (String × Json) :=
  fields.foldl setField []

mutual

/-- `scan_once`. -/
def scan : Nat → List Char → Except LoadsError (Json × List Char)
  | 0, _ => .error .unfinished
  | _ + 1, [] => .error .decode
  | steps + 1, head :: rest =>
      if head = '"' then do
        let (text, rest) ← scanString rest
        .ok (.string text, rest)
      else if head = '{' then
        match eat '}' (skip rest) with
        | some rest => .ok (.object [], rest)
        | none => do
            let (fields, rest) ← scanFields steps (skip rest)
            .ok (.object (dictOf fields), rest)
      else if head = '[' then
        match eat ']' (skip rest) with
        | some rest => .ok (.array [], rest)
        | none => do
            let (items, rest) ← scanItems steps (skip rest)
            .ok (.array items, rest)
      else
        scanScalar floats (head :: rest)

/-- The items of an array, up to its bracket. -/
def scanItems : Nat → List Char → Except LoadsError (List Json × List Char)
  | 0, _ => .error .unfinished
  | steps + 1, text => do
      let (item, rest) ← scan steps text
      match eat ']' (skip rest), eat ',' (skip rest) with
      | some rest, _ => .ok ([item], rest)
      | none, some rest => push item (scanItems steps (skip rest))
      | none, none => .error .decode

/-- The fields of an object, up to its brace. -/
def scanFields :
    Nat → List Char → Except LoadsError (List (String × Json) × List Char)
  | 0, _ => .error .unfinished
  | steps + 1, text =>
      match eat '"' text with
      | none => .error .decode
      | some rest => do
          let (key, rest) ← scanString rest
          match eat ':' (skip rest) with
          | none => .error .decode
          | some rest => do
              let (value, rest) ← scan steps (skip rest)
              match eat '}' (skip rest), eat ',' (skip rest) with
              | some rest, _ => .ok ([(key, value)], rest)
              | none, some rest =>
                  push (key, value) (scanFields steps (skip rest))
              | none, none => .error .decode

end

/-- The steps that a text of this length takes at most. -/
def stepsFor (text : List Char) : Nat :=
  2 * text.length + 1

/-- `json.loads(text)`, which refuses a byte order mark. -/
def loads (text : List Char) : Except LoadsError Json :=
  if text.head? = some '\uFEFF' then
    .error .decode
  else do
    let start := skip text
    let (value, rest) ← scan floats (stepsFor start) start
    if skip rest = [] then .ok value else .error .decode

end

end Json
end Python
