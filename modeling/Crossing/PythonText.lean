import Crossing.JsonValue
import Crossing.Policy
import Mathlib.Data.List.Basic

namespace Crossing

open Python

/-!
# Text in Python

`int` on text and `str` on integers, with the limit that Python sets on the
number of digits, and `str.partition`.  `int` is given Latin-1 text here, whose
only decimal digits are those of ASCII.  What `json.loads` makes of text and
how values are written in text is taken from outside.
-/

/-- Exceptions of Python and of its libraries. -/
inductive PythonError where
  | typeError
  | valueError
  | attributeError
  | other (name : String)
  deriving Repr, DecidableEq

/-- `json.loads`, `json.dumps`, and `repr` on the values of JSON. -/
structure JsonLibrary where
  loads : String → Except PythonError Json
  dumps : Json → String
  repr : Json → String

/-- `str(value)`. -/
def JsonLibrary.str (json : JsonLibrary) : Json → String
  | .string text => text
  | value => json.repr value

/-- `sys.get_int_max_str_digits()`. -/
def maxStrDigits : Nat := 4300

/-- White space that `int` skips; it keeps the ASCII separators. -/
def isIntSpace (char : Char) : Bool :=
  isSpace char && char.toNat ∉ [28, 29, 30, 31]

/-- Decimal digits, with single underscores between digits. -/
def naturalOf (text : List Char) : Option Nat :=
  let groups := text.splitOn '_'
  let digits := groups.flatten
  if groups.all (fun group => !group.isEmpty && group.all Char.isDigit) ∧
      digits.length ≤ maxStrDigits then
    some (Nat.ofDigitChars 10 digits 0)
  else
    none

/-- `int(text)`; `none` stands for `ValueError`. -/
def pythonInt (text : String) : Option Int :=
  let stripped :=
    ((text.toList.dropWhile isIntSpace).reverse.dropWhile isIntSpace).reverse
  match stripped with
  | [] => none
  | sign :: digits =>
      if sign = '-' then
        (naturalOf digits).map fun (value : Nat) => -(value : Int)
      else if sign = '+' then
        (naturalOf digits).map fun (value : Nat) => (value : Int)
      else
        (naturalOf (sign :: digits)).map fun (value : Nat) => (value : Int)

/-- The text of an integer of any size. -/
def decimalText (value : Int) : List Char :=
  if value < 0 then
    '-' :: Nat.toDigits 10 value.natAbs
  else
    Nat.toDigits 10 value.natAbs

/-- `str(value)`; `none` stands for `ValueError`. -/
def pythonStr (value : Int) : Option String :=
  if (Nat.toDigits 10 value.natAbs).length ≤ maxStrDigits then
    some (.ofList (decimalText value))
  else
    none

/-- `text.partition(sep)` without the separator. -/
def partition (sep : Char) (text : String) : String × String :=
  (.ofList (text.toList.takeWhile (· ≠ sep)),
    .ofList (text.toList.dropWhile (· ≠ sep)).tail)

/-! ## Stripping -/

/-- What starts and ends with other characters is stripped of nothing. -/
theorem dropWhile_ends
    {skipped : Char → Bool}
    {text : List Char}
    (kept : ∀ char ∈ text, skipped char = false) :
    ((text.dropWhile skipped).reverse.dropWhile skipped).reverse = text := by
  have dropNone (chars : List Char) (inText : chars ⊆ text) :
      chars.dropWhile skipped = chars := by
    cases chars with
    | nil => rfl
    | cons head rest =>
        rw [List.dropWhile_cons_of_neg]
        rw [kept head (inText List.mem_cons_self)]
        exact Bool.false_ne_true
  rw [dropNone text (List.Subset.refl _), dropNone text.reverse,
    List.reverse_reverse]
  intro char member
  exact List.mem_reverse.mp member

/-- Text without white space is not changed by `strip`. -/
theorem strip_of_noSpace
    {text : String}
    (noSpace : ∀ char ∈ text.toList, isSpace char = false) :
    strip text = text := by
  unfold strip
  rw [dropWhile_ends noSpace, String.ofList_toList]

/-- Text is cut at the first separator. -/
theorem partition_append
    {sep : Char}
    {key value : List Char}
    (absent : sep ∉ key) :
    partition sep (.ofList (key ++ sep :: value)) =
      (.ofList key, .ofList value) := by
  have passes : ∀ char ∈ key, decide (char ≠ sep) = true := by
    intro char member
    exact decide_eq_true (ne_of_mem_of_not_mem member absent)
  unfold partition
  rw [String.toList_ofList, List.takeWhile_append_of_pos passes,
    List.dropWhile_append_of_pos passes]
  simp

/-! ## Numerals -/

/-- The digits of a number are read back. -/
theorem naturalOf_toDigits
    {value : Nat}
    (short : (Nat.toDigits 10 value).length ≤ maxStrDigits) :
    naturalOf (Nat.toDigits 10 value) = some value := by
  have oneGroup :
      (Nat.toDigits 10 value).splitOn '_' = [Nat.toDigits 10 value] := by
    have split :
        (['_'].intercalate [Nat.toDigits 10 value]).splitOn '_' =
          [Nat.toDigits 10 value] :=
      List.splitOn_intercalate '_'
        (by simp [Nat.underscore_not_in_toDigits]) (by simp)
    simpa [List.intercalate] using split
  unfold naturalOf
  rw [oneGroup, if_pos]
  · simp [Nat.ofDigitChars_ten_toDigits]
  · simp only [List.all_cons, List.all_nil, Bool.and_true, Bool.and_eq_true,
      List.flatten_singleton]
    refine ⟨⟨by simp, ?_⟩, short⟩
    rw [List.all_eq_true]
    intro char member
    exact Nat.isDigit_of_mem_toDigits (by decide) (by decide) member

/-- A digit is neither white space nor a separator of a header. -/
theorem digit_plain
    {char : Char}
    (isDigit : char.isDigit = true) :
    isSpace char = false ∧ char ≠ ',' ∧ char ≠ '-' ∧ char ≠ '+' := by
  have bounds : 48 ≤ char.toNat ∧ char.toNat ≤ 57 := by
    simpa [Char.isDigit, UInt32.le_iff_toNat_le] using isDigit
  refine ⟨?_, ?_, ?_, ?_⟩
  · unfold isSpace
    rw [decide_eq_false_iff_not]
    intro member
    simp only [List.mem_cons, List.not_mem_nil, or_false] at member
    omega
  all_goals
    rintro rfl
    revert bounds
    decide

/-- The characters of a numeral. -/
theorem mem_decimalText
    {value : Int}
    {char : Char}
    (member : char ∈ decimalText value) :
    char = '-' ∨ char.isDigit = true := by
  unfold decimalText at member
  split at member
  · rcases List.mem_cons.mp member with isSign | inDigits
    · exact .inl isSign
    · exact .inr (Nat.isDigit_of_mem_toDigits (by decide) (by decide) inDigits)
  · exact .inr (Nat.isDigit_of_mem_toDigits (by decide) (by decide) member)

/-- `int` reads what `str` writes. -/
theorem pythonInt_pythonStr
    {value : Int}
    {text : String}
    (written : pythonStr value = some text) :
    pythonInt text = some value := by
  obtain ⟨short, isText⟩ := Option.ite_none_right_eq_some.mp written
  cases isText
  have digitsRead := naturalOf_toDigits short
  have noSpace : ∀ char ∈ decimalText value, isIntSpace char = false := by
    intro char member
    rcases mem_decimalText member with rfl | isDigit
    · decide
    · unfold isIntSpace
      rw [(digit_plain isDigit).1, Bool.false_and]
  unfold pythonInt
  rw [String.toList_ofList, dropWhile_ends noSpace]
  unfold decimalText
  by_cases negative : value < 0
  · rw [if_pos negative]
    dsimp only
    rw [if_pos rfl, digitsRead, Option.map_some]
    exact congrArg some (by omega)
  · rw [if_neg negative]
    have nonempty : Nat.toDigits 10 value.natAbs ≠ [] := Nat.toDigits_ne_nil
    obtain ⟨first, digits, shape⟩ := List.exists_cons_of_ne_nil nonempty
    have isFirst : first ∈ Nat.toDigits 10 value.natAbs :=
      shape ▸ List.mem_cons_self
    have isDigit : first.isDigit = true :=
      Nat.isDigit_of_mem_toDigits (by decide) (by decide) isFirst
    obtain ⟨_, _, notMinus, notPlus⟩ := digit_plain isDigit
    rw [shape] at digitsRead ⊢
    dsimp only
    rw [if_neg notMinus, if_neg notPlus, digitsRead, Option.map_some]
    exact congrArg some (by omega)

end Crossing
