import Crossing.JsonValue
import Mathlib.Data.List.Sort

namespace Python

/-!
# Writing JSON

`json.dumps` with `ensure_ascii`, which is its default, any spacing behind
commas and colons, and `sort_keys`.  How a float is written, and what a numeral
with a fraction or an exponent denotes, is taken from outside.  The sign of a
negative zero is left out, and so is the depth at which Python gives up on
nested values.
-/

namespace Json

/-! ## Numerals -/

/-- The parts of a numeral as they are written. -/
structure Numeral where
  sign : List Char
  whole : List Char
  fraction : List Char
  exponent : List Char
  deriving DecidableEq, Repr

/-- The text of a numeral. -/
def Numeral.text (numeral : Numeral) : List Char :=
  numeral.sign ++ numeral.whole ++ numeral.fraction ++ numeral.exponent

/-- A numeral with a fraction or an exponent is a float. -/
def Numeral.isFloat (numeral : Numeral) : Bool :=
  !numeral.fraction.isEmpty || !numeral.exponent.isEmpty

/-- An optional sign among the given ones. -/
def scanSign (signs : List Char) : List Char → List Char × List Char
  | [] => ([], [])
  | head :: rest =>
      if head ∈ signs then ([head], rest) else ([], head :: rest)

/-- The integer part: a zero, or digits that start with none. -/
def scanWhole : List Char → List Char × List Char
  | [] => ([], [])
  | head :: rest =>
      if head = '0' then
        (['0'], rest)
      else
        (head :: rest).span Char.isDigit

/-- A point with digits behind it. -/
def scanFraction : List Char → List Char × List Char
  | [] => ([], [])
  | head :: rest =>
      let digits := rest.span Char.isDigit
      if head = '.' ∧ digits.1 ≠ [] then
        (head :: digits.1, digits.2)
      else
        ([], head :: rest)

/-- An exponent with at least one digit. -/
def scanExponent : List Char → List Char × List Char
  | [] => ([], [])
  | head :: rest =>
      let sign := scanSign ['-', '+'] rest
      let digits := sign.2.span Char.isDigit
      if (head = 'e' ∨ head = 'E') ∧ digits.1 ≠ [] then
        (head :: (sign.1 ++ digits.1), digits.2)
      else
        ([], head :: rest)

/-- `_match_number`: the longest numeral that comes next. -/
def scanNumeral (text : List Char) : Option (Numeral × List Char) :=
  let (sign, text) := scanSign ['-'] text
  let (whole, text) := scanWhole text
  let (fraction, text) := scanFraction text
  let (exponent, text) := scanExponent text
  if whole = [] then
    none
  else
    some (⟨sign, whole, fraction, exponent⟩, text)

end Json

/-! ## Floats -/

/--
`float.__repr__`, and `float` on the numerals of JSON.  A float is written as a
numeral with a fraction or an exponent, and read back as it was.
-/
structure FloatText where
  repr : Rat → List Char
  parse : List Char → FloatValue
  repr_numeral :
    ∀ {text value}, parse text = .finite value →
      ∃ numeral,
        Json.scanNumeral (repr value) = some (numeral, []) ∧
          numeral.isFloat = true
  parse_repr :
    ∀ {text value}, parse text = .finite value →
      parse (repr value) = .finite value

/-- The finite floats: a rational that some numeral denotes. -/
def FloatText.Denoted (floats : FloatText) (value : Rat) : Prop :=
  ∃ text, floats.parse text = .finite value

/-- The one finite float is a half. -/
def halfText : FloatText where
  repr _ := "0.5".toList
  parse text :=
    if text = "0.5".toList then .finite (1 / 2) else .infinity
  repr_numeral _ := ⟨⟨[], ['0'], ['.', '5'], []⟩, by decide, rfl⟩
  parse_repr := by
    intro text value parsed
    split at parsed
    · simpa using parsed
    · cases parsed

namespace Json

/-! ## Strings -/

/-- The escapes of one letter that are written. -/
def writtenEscapes : List (Char × Char) :=
  [('\\', '\\'), ('"', '"'), ('\x08', 'b'), ('\x0c', 'f'), ('\n', 'n'),
    ('\r', 'r'), ('\t', 't')]

/-- The code units of a character in UTF-16. -/
def codeUnits (char : Char) : List Nat :=
  if char.toNat < 0x10000 then
    [char.toNat]
  else
    [0xd800 + (char.toNat - 0x10000) / 0x400,
      0xdc00 + (char.toNat - 0x10000) % 0x400]

/-- A code unit in four hexadecimal digits. -/
def hexEscape (codeUnit : Nat) : List Char :=
  ['\\', 'u', Nat.digitChar (codeUnit / 0x1000 % 16),
    Nat.digitChar (codeUnit / 0x100 % 16),
    Nat.digitChar (codeUnit / 0x10 % 16), Nat.digitChar (codeUnit % 16)]

/-- Printable ASCII stands for itself. -/
def printable (char : Char) : Bool :=
  ' ' ≤ char && char ≤ '~'

/-- A character inside a string. -/
def writeChar (char : Char) : List Char :=
  match writtenEscapes.lookup char with
  | some letter => ['\\', letter]
  | none =>
      if printable char then
        [char]
      else
        (codeUnits char).flatMap hexEscape

/-- `py_encode_basestring_ascii`. -/
def quote (text : String) : List Char :=
  '"' :: (text.toList.flatMap writeChar ++ ['"'])

/-! ## Values -/

/-- A float; infinities are allowed and get the names of JavaScript. -/
def writeFloat (floats : FloatText) : FloatValue → List Char
  | .finite value => floats.repr value
  | .infinity => "Infinity".toList
  | .negativeInfinity => "-Infinity".toList

section

variable (floats : FloatText) (space : List Char)

mutual

/-- The text of a value, with `space` behind each comma and colon. -/
def write : Json → List Char
  | .null => "null".toList
  | .bool true => "true".toList
  | .bool false => "false".toList
  | .int value => value.repr.toList
  | .float value => writeFloat floats value
  | .string text => quote text
  | .array items => '[' :: writeItems items
  | .object fields => '{' :: writeFields fields

/-- The items of an array and its closing bracket. -/
def writeItems : List Json → List Char
  | [] => [']']
  | [item] => write item ++ [']']
  | item :: next :: rest =>
      write item ++ ',' :: (space ++ writeItems (next :: rest))

/-- The fields of an object and its closing brace. -/
def writeFields : List (String × Json) → List Char
  | [] => ['}']
  | [(key, value)] => quote key ++ ':' :: (space ++ (write value ++ ['}']))
  | (key, value) :: next :: rest =>
      quote key ++ ':' :: (space ++
        (write value ++ ',' :: (space ++ writeFields (next :: rest))))

end

end

/-- `sys.get_int_max_str_digits()`, the longest integer that has a text. -/
def digitLimit : Nat := 4300

/-- An integer that `int.__repr__` gives a text. -/
def shortInt (value : Int) : Bool :=
  (Nat.toDigits 10 value.natAbs).length ≤ digitLimit

mutual

/-- Every integer of a value has a text. -/
def intsFit : Json → Bool
  | .int value => shortInt value
  | .array items => intsFitItems items
  | .object fields => intsFitFields fields
  | _ => true

/-- The same for items. -/
def intsFitItems : List Json → Bool
  | [] => true
  | item :: rest => intsFit item && intsFitItems rest

/-- The same for fields. -/
def intsFitFields : List (String × Json) → Bool
  | [] => true
  | (_, value) :: rest => intsFit value && intsFitFields rest

end

/-- `json.dumps(value)`; `none` stands for `ValueError`. -/
def dumps
    (floats : FloatText)
    (space : List Char)
    (value : Json) :
    Option (List Char) :=
  if value.intsFit then some (value.write floats space) else none

mutual

/-- A value that Python has: a key comes once, and its floats are floats. -/
def Proper (floats : FloatText) : Json → Prop
  | .float (.finite value) => floats.Denoted value
  | .array items => ProperItems floats items
  | .object fields =>
      (fields.map Prod.fst).Nodup ∧ ProperFields floats fields
  | _ => True

/-- The same for items. -/
def ProperItems (floats : FloatText) : List Json → Prop
  | [] => True
  | item :: rest => Proper floats item ∧ ProperItems floats rest

/-- The same for fields. -/
def ProperFields (floats : FloatText) : List (String × Json) → Prop
  | [] => True
  | (_, value) :: rest => Proper floats value ∧ ProperFields floats rest

end

/-! ## Keys in order -/

/-- The order of two fields by their keys. -/
def keyLe (field other : String × Json) : Prop :=
  field.1 ≤ other.1

instance : DecidableRel keyLe := fun field other =>
  inferInstanceAs (Decidable (field.1 ≤ other.1))

instance : Std.Total keyLe := ⟨fun field other => le_total field.1 other.1⟩

instance : IsTrans (String × Json) keyLe :=
  ⟨fun _ _ _ before after => le_trans (α := String) before after⟩

mutual

/-- A value with the fields of its objects sorted by their keys. -/
def ordered : Json → Json
  | .array items => .array (orderedItems items)
  | .object fields => .object (orderedFields fields)
  | value => value

/-- The same for items. -/
def orderedItems : List Json → List Json
  | [] => []
  | item :: rest => ordered item :: orderedItems rest

/-- The same for fields, by insertion. -/
def orderedFields : List (String × Json) → List (String × Json)
  | [] => []
  | (key, value) :: rest =>
      (orderedFields rest).orderedInsert keyLe (key, ordered value)

end

/-- `json.dumps(value, sort_keys=True)` in the compact form. -/
def dumpsSorted (floats : FloatText) (value : Json) : Option (List Char) :=
  value.ordered.dumps floats []

end Json
end Python
