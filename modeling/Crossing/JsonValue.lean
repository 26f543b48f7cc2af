import Mathlib.Data.List.Sort
import Mathlib.Data.List.Infix
import Mathlib.Data.String.Basic

namespace Python

/-!
# Values of `json.loads`

The values that a JSON text stands for, with the operators of Python on them:
equality, order, `sorted`, `in` and `dict.get`.  An operator that raises
`TypeError` or `AttributeError` answers `none`.
-/

/-- A float that a JSON numeral denotes; a huge numeral overflows. -/
inductive FloatValue where
  | negativeInfinity
  | finite (value : Rat)
  | infinity
  deriving DecidableEq, Repr

/-- `<` on floats. -/
def FloatValue.less : FloatValue → FloatValue → Bool
  | .finite left, .finite right => left < right
  | .negativeInfinity, .negativeInfinity => false
  | .negativeInfinity, _ => true
  | _, .infinity => true
  | _, _ => false

/-- A JSON value.  The fields of an object are listed one per key. -/
inductive Json where
  | null
  | bool (value : Bool)
  | int (value : Int)
  | float (value : FloatValue)
  | string (text : String)
  | array (items : List Json)
  | object (fields : List (String × Json))
  deriving Repr

namespace Json

/-! ## Operators -/

/-- The number that a value is in comparisons; `True` is one. -/
def number : Json → Option FloatValue
  | .bool value => some (.finite (if value then 1 else 0))
  | .int value => some (.finite value)
  | .float value => some value
  | _ => none

/-- `bool(value)`. -/
def truthy : Json → Bool
  | .null => false
  | .bool value => value
  | .int value => value ≠ 0
  | .float value => value ≠ .finite 0
  | .string text => text ≠ ""
  | .array items => !items.isEmpty
  | .object fields => !fields.isEmpty

/-- `==` on two values that are not both containers of one kind. -/
def sameScalar (left right : Json) : Bool :=
  match left, right with
  | .null, .null => true
  | .string left, .string right => left = right
  | left, right =>
      match left.number, right.number with
      | some left, some right => left = right
      | _, _ => false

mutual

/-- `==`. -/
def same : Json → Json → Bool
  | .array left, .array right => sameItems left right
  | .object left, .object right => sameFields left right
  | left, right => sameScalar left right

/-- `==` on lists. -/
def sameItems : List Json → List Json → Bool
  | [], [] => true
  | left :: lefts, right :: rights => same left right && sameItems lefts rights
  | _, _ => false

/-- `==` on dicts whose keys are in order. -/
def sameFields : List (String × Json) → List (String × Json) → Bool
  | [], [] => true
  | (key, left) :: lefts, (key', right) :: rights =>
      key = key' && same left right && sameFields lefts rights
  | _, _ => false

end

mutual

/-- `<`, which strings, numbers and lists have. -/
def less : Json → Json → Option Bool
  | .string left, .string right => some (left < right)
  | .array left, .array right => lessItems left right
  | left, right =>
      match left.number, right.number with
      | some left, some right => some (left.less right)
      | _, _ => none

/-- `<` on lists: the first difference decides. -/
def lessItems : List Json → List Json → Option Bool
  | [], [] => some false
  | [], _ :: _ => some true
  | _ :: _, [] => some false
  | left :: lefts, right :: rights =>
      if same left right then lessItems lefts rights else less left right

end

/-- Insert into a sorted list, before the first item that is not less. -/
def insertItem (item : Json) : List Json → Option (List Json)
  | [] => some [item]
  | head :: rest => do
      if ← less head item then
        let inserted ← insertItem item rest
        some (head :: inserted)
      else
        some (item :: head :: rest)

/-- `sorted` on the items of an iterable. -/
def sortItems : List Json → Option (List Json)
  | [] => some []
  | item :: rest => do
      let sorted ← sortItems rest
      insertItem item sorted

/-- The items that `iter` gives: those of a list, characters, or keys. -/
def items : Json → Option (List Json)
  | .array items => some items
  | .string text =>
      some (text.toList.map fun char => .string (.singleton char))
  | .object fields => some (fields.map fun field => .string field.1)
  | _ => none

/-- `sorted(value)`. -/
def sorted (value : Json) : Option (List Json) :=
  value.items.bind sortItems

/-- `text in value`: an item, a substring, or a key. -/
def containsText (value : Json) (text : String) : Option Bool :=
  match value with
  | .array items => some (items.any (same (.string text)))
  | .string whole => some (decide (text.toList <:+: whole.toList))
  | .object fields => some (fields.any fun field => field.1 = text)
  | _ => none

/-- The value under a key of an object. -/
def field? (value : Json) (key : String) : Option Json :=
  match value with
  | .object fields => fields.lookup key
  | _ => none

/-- `value.get(key)`, which objects have. -/
def get (value : Json) (key : String) : Option Json :=
  match value with
  | .object fields => some ((fields.lookup key).getD .null)
  | _ => none

/-- `None` or a string. -/
def ofOption (text : Option String) : Json :=
  match text with
  | some text => .string text
  | none => .null

/-! ## Equality of values -/

mutual

/-- The same value, which `==` may hold of different values as well. -/
def identical : Json → Json → Bool
  | .null, .null => true
  | .bool left, .bool right => left = right
  | .int left, .int right => left = right
  | .float left, .float right => left = right
  | .string left, .string right => left = right
  | .array left, .array right => identicalItems left right
  | .object left, .object right => identicalFields left right
  | _, _ => false

/-- The same list. -/
def identicalItems : List Json → List Json → Bool
  | [], [] => true
  | left :: lefts, right :: rights =>
      identical left right && identicalItems lefts rights
  | _, _ => false

/-- The same fields. -/
def identicalFields : List (String × Json) → List (String × Json) → Bool
  | [], [] => true
  | (key, left) :: lefts, (key', right) :: rights =>
      key = key' && identical left right && identicalFields lefts rights
  | _, _ => false

end

mutual

/-- `identical` decides equality. -/
theorem identical_iff (left right : Json) :
    identical left right = true ↔ left = right := by
  cases left with
  | null => cases right <;> simp [identical]
  | bool _ => cases right <;> simp [identical]
  | int _ => cases right <;> simp [identical]
  | float _ => cases right <;> simp [identical]
  | string _ => cases right <;> simp [identical]
  | array items =>
      cases right with
      | array others => simp [identical, identicalItems_iff items others]
      | null | bool _ | int _ | float _ | string _ | object _ =>
          simp [identical]
  | object fields =>
      cases right with
      | object others => simp [identical, identicalFields_iff fields others]
      | null | bool _ | int _ | float _ | string _ | array _ =>
          simp [identical]

/-- The same for lists. -/
theorem identicalItems_iff (left right : List Json) :
    identicalItems left right = true ↔ left = right := by
  cases left with
  | nil => cases right <;> simp [identicalItems]
  | cons head rest =>
      cases right with
      | nil => simp [identicalItems]
      | cons head' rest' =>
          simp [identicalItems, identical_iff head head',
            identicalItems_iff rest rest']

/-- The same for fields. -/
theorem identicalFields_iff (left right : List (String × Json)) :
    identicalFields left right = true ↔ left = right := by
  cases left with
  | nil => cases right <;> simp [identicalFields]
  | cons field rest =>
      obtain ⟨key, value⟩ := field
      cases right with
      | nil => simp [identicalFields]
      | cons field' rest' =>
          obtain ⟨key', value'⟩ := field'
          simp [identicalFields, identical_iff value value',
            identicalFields_iff rest rest']

end

instance : DecidableEq Json := fun left right =>
  decidable_of_iff _ (identical_iff left right)

/-! ## Strings in comparisons -/

/-- A list of strings. -/
def ofStrings (texts : List String) : Json :=
  .array (texts.map .string)

/-- A string equals itself only. -/
@[simp] theorem same_string
    {text : String}
    {value : Json} :
    same (.string text) value = true ↔ value = .string text := by
  cases value <;> simp [same, sameScalar, number, eq_comm]

/-- A string on the right equals itself only, too. -/
@[simp] theorem same_string_right
    {text : String}
    {value : Json} :
    same value (.string text) = true ↔ value = .string text := by
  cases value <;> simp [same, sameScalar, number]

/-- Null equals null only. -/
@[simp] theorem same_null
    {value : Json} :
    same .null value = true ↔ value = .null := by
  cases value <;> simp [same, sameScalar, number]

/-- What equals a list of strings is that list. -/
theorem sameItems_strings
    {texts : List String}
    {items : List Json} :
    sameItems (texts.map .string) items = true ↔
      items = texts.map .string := by
  induction texts generalizing items with
  | nil => cases items <;> simp [sameItems]
  | cons text rest inductionHypothesis =>
      cases items with
      | nil => simp [sameItems]
      | cons item items => simp [sameItems, inductionHypothesis]

/-- Membership of a string in a list. -/
@[simp] theorem any_same_string
    {text : String}
    {items : List Json} :
    items.any (same (.string text)) = true ↔ .string text ∈ items := by
  simp [List.any_eq_true]

/-! ## What `sorted` gives -/

/-- An insertion keeps the items. -/
theorem insertItem_perm
    {item : Json}
    {before after : List Json}
    (inserted : insertItem item before = some after) :
    after.Perm (item :: before) := by
  induction before generalizing after with
  | nil =>
      cases inserted
      exact .refl _
  | cons head rest inductionHypothesis =>
      obtain ⟨isLess, _, inserted⟩ := Option.bind_eq_some_iff.mp inserted
      cases isLess with
      | false =>
          cases inserted
          exact .refl _
      | true =>
          obtain ⟨tail, insertedTail, same⟩ :=
            Option.bind_eq_some_iff.mp inserted
          cases same
          exact ((inductionHypothesis insertedTail).cons head).trans
            (.swap item head rest)

/-- `sorted` keeps the items. -/
theorem sortItems_perm
    {before after : List Json}
    (ran : sortItems before = some after) :
    after.Perm before := by
  induction before generalizing after with
  | nil =>
      cases ran
      exact .refl _
  | cons item rest inductionHypothesis =>
      obtain ⟨tail, sortedTail, inserted⟩ := Option.bind_eq_some_iff.mp ran
      exact (insertItem_perm inserted).trans
        ((inductionHypothesis sortedTail).cons item)

/-- Strings are inserted in their order. -/
theorem insertItem_strings (text : String) (texts : List String) :
    insertItem (.string text) (texts.map .string) =
      some ((texts.orderedInsert (· ≤ ·) text).map .string) := by
  induction texts with
  | nil => rfl
  | cons head rest inductionHypothesis =>
      by_cases before : text ≤ head
      · have notLess : ¬ head < text := not_lt.mpr before
        simp [insertItem, less, notLess, before]
      · have isLess : head < text := not_le.mp before
        simp [insertItem, less, isLess, before, inductionHypothesis]

/-- `sorted` on strings. -/
theorem sortItems_strings (texts : List String) :
    sortItems (texts.map .string) =
      some ((texts.insertionSort (· ≤ ·)).map .string) := by
  induction texts with
  | nil => rfl
  | cons text rest inductionHypothesis =>
      simp [sortItems, inductionHypothesis, insertItem_strings]

/-- Strings are distinct values. -/
theorem string_injective : Function.Injective Json.string := by
  intro left right same
  cases same
  rfl

end Json
end Python
