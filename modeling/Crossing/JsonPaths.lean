import Crossing.JsonOrder

namespace Python
namespace Json

/-!
# What stands inside a value

A path leads to a value inside a value.  What holds at the ends of all paths
into an array or an object is what holds at its own and of each of its children.
-/

/-- The value at the end of a path. -/
def reach : Json → List Step → Option Json
  | value, [] => some value
  | value, step :: path => (value.child step).bind (reach · path)

/-- A property of every value inside a value, by the length of its path. -/
def Inside (Holds : Nat → Json → Prop) (value : Json) : Prop :=
  ∀ path inner, value.reach path = some inner → Holds path.length inner

section

variable {Holds : Nat → Json → Prop}

/-- What holds inside a value holds of it and inside each child. -/
theorem inside_iff {value : Json} :
    value.Inside Holds ↔
      Holds 0 value ∧
        ∀ step inner, value.child step = some inner →
          inner.Inside fun length => Holds (length + 1) := by
  constructor
  · intro holds
    refine ⟨holds [] value rfl, ?_⟩
    intro step inner isChild path deeper reached
    refine holds (step :: path) deeper ?_
    rw [reach, isChild]
    exact reached
  · rintro ⟨here, below⟩ path inner reached
    cases path with
    | nil =>
        cases reached
        exact here
    | cons step path =>
        obtain ⟨child, isChild, reached⟩ := Option.bind_eq_some_iff.mp reached
        exact below step child isChild path inner reached

/-- A leaf has no children. -/
theorem child_leaf
    {value : Json}
    (isLeaf : value.isLeaf = true)
    (step : Step) :
    value.child step = none := by
  cases value <;> cases step <;> first | rfl | cases isLeaf

/-- A leaf has nothing inside but itself. -/
theorem inside_leaf
    {value : Json}
    (isLeaf : value.isLeaf = true) :
    value.Inside Holds ↔ Holds 0 value := by
  refine inside_iff.trans (and_iff_left_of_imp fun _ step inner isChild => ?_)
  rw [child_leaf isLeaf] at isChild
  cases isChild

/-- Inside an array stand its items. -/
theorem inside_array {items : List Json} :
    (Json.array items).Inside Holds ↔
      Holds 0 (.array items) ∧
        ∀ item ∈ items, item.Inside fun length => Holds (length + 1) := by
  refine inside_iff.trans (and_congr_right fun _ => ?_)
  constructor
  · intro below item member
    obtain ⟨position, found⟩ := List.getElem?_of_mem member
    exact below (.index position) item found
  · intro below step inner isChild
    cases step with
    | index position => exact below inner (List.mem_of_getElem? isChild)
    | key text => cases isChild

/-- Inside an object stand the values of its fields. -/
theorem inside_object
    {fields : List (String × Json)}
    (distinct : (fields.map Prod.fst).Nodup) :
    (Json.object fields).Inside Holds ↔
      Holds 0 (.object fields) ∧
        ∀ field ∈ fields, field.2.Inside fun length => Holds (length + 1) := by
  refine inside_iff.trans (and_congr_right fun _ => ?_)
  constructor
  · intro below field member
    exact below (.key field.1) field.2 ((lookup_iff_mem distinct).mpr member)
  · intro below step inner isChild
    cases step with
    | index position => cases isChild
    | key text =>
        exact below (text, inner) ((lookup_iff_mem distinct).mp isChild)

end

end Json
end Python
