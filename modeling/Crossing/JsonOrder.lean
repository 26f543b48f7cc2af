import Crossing.JsonLoads

namespace Python
namespace Json

/-!
# The order of keys

`sort_keys` leaves a value as it is but for the order of its fields, and two
values with the same sorted text cannot be told apart by the paths into them.
-/

/-! ## Induction over the values inside a value -/

/-- A value that is no array and no object. -/
def isLeaf : Json → Bool
  | .array _ => false
  | .object _ => false
  | _ => true

mutual

/-- What holds of a value when it holds of what the value contains. -/
theorem inside
    {motive : Json → Prop}
    (leaf : ∀ value, value.isLeaf = true → motive value)
    (array : ∀ items, (∀ item ∈ items, motive item) → motive (.array items))
    (object :
      ∀ fields, (∀ field ∈ fields, motive field.2) → motive (.object fields))
    (value : Json) :
    motive value := by
  cases value with
  | array items => exact array items (insideItems leaf array object items)
  | object fields =>
      exact object fields (insideFields leaf array object fields)
  | null => exact leaf _ rfl
  | bool value => exact leaf _ rfl
  | int value => exact leaf _ rfl
  | float value => exact leaf _ rfl
  | string text => exact leaf _ rfl

/-- The same for the items of an array. -/
theorem insideItems
    {motive : Json → Prop}
    (leaf : ∀ value, value.isLeaf = true → motive value)
    (array : ∀ items, (∀ item ∈ items, motive item) → motive (.array items))
    (object :
      ∀ fields, (∀ field ∈ fields, motive field.2) → motive (.object fields))
    (items : List Json) :
    ∀ item ∈ items, motive item := by
  cases items with
  | nil => exact nofun
  | cons item rest =>
      exact List.forall_mem_cons.mpr
        ⟨inside leaf array object item, insideItems leaf array object rest⟩

/-- The same for the fields of an object. -/
theorem insideFields
    {motive : Json → Prop}
    (leaf : ∀ value, value.isLeaf = true → motive value)
    (array : ∀ items, (∀ item ∈ items, motive item) → motive (.array items))
    (object :
      ∀ fields, (∀ field ∈ fields, motive field.2) → motive (.object fields))
    (fields : List (String × Json)) :
    ∀ field ∈ fields, motive field.2 := by
  cases fields with
  | nil => exact nofun
  | cons field rest =>
      obtain ⟨key, value⟩ := field
      exact List.forall_mem_cons.mpr
        ⟨inside leaf array object value,
          insideFields leaf array object rest⟩

end

/-- The items of a value of Python. -/
theorem properItems_iff
    {floats : FloatText}
    {items : List Json} :
    ProperItems floats items ↔ ∀ item ∈ items, item.Proper floats := by
  induction items with
  | nil => simp [ProperItems]
  | cons item rest inductionHypothesis =>
      simp [ProperItems, inductionHypothesis]

/-- The fields of a value of Python. -/
theorem properFields_iff
    {floats : FloatText}
    {fields : List (String × Json)} :
    ProperFields floats fields ↔
      ∀ field ∈ fields, field.2.Proper floats := by
  induction fields with
  | nil => simp [ProperFields]
  | cons field rest inductionHypothesis =>
      simp [ProperFields, inductionHypothesis]

/-- The items of a value that can be written. -/
theorem intsFitItems_iff
    {items : List Json} :
    intsFitItems items = true ↔ ∀ item ∈ items, item.intsFit = true := by
  induction items with
  | nil => simp [intsFitItems]
  | cons item rest inductionHypothesis =>
      simp [intsFitItems, inductionHypothesis]

/-- The fields of a value that can be written. -/
theorem intsFitFields_iff
    {fields : List (String × Json)} :
    intsFitFields fields = true ↔
      ∀ field ∈ fields, field.2.intsFit = true := by
  induction fields with
  | nil => simp [intsFitFields]
  | cons field rest inductionHypothesis =>
      simp [intsFitFields, inductionHypothesis]

/-! ## Fields with distinct keys -/

/-- A field is found under its key. -/
theorem lookup_iff_mem
    {β : Type}
    {fields : List (String × β)}
    {key : String}
    {value : β}
    (distinct : (fields.map Prod.fst).Nodup) :
    fields.lookup key = some value ↔ (key, value) ∈ fields := by
  induction fields with
  | nil => simp
  | cons field rest inductionHypothesis =>
      obtain ⟨fresh, restDistinct⟩ := List.nodup_cons.mp distinct
      obtain ⟨key', value'⟩ := field
      rw [List.lookup_cons, List.mem_cons, Prod.mk.injEq]
      by_cases same : key = key'
      · subst same
        have absent : (key, value) ∉ rest := by
          intro member
          exact fresh (List.mem_map.mpr ⟨_, member, rfl⟩)
        simp [absent, eq_comm]
      · have other : (key == key') = false := beq_false_of_ne same
        simp [other, same, inductionHypothesis restDistinct]

/-- The order of distinct fields does not matter to a lookup. -/
theorem lookup_perm
    {β : Type}
    {fields others : List (String × β)}
    (distinct : (fields.map Prod.fst).Nodup)
    (perm : fields.Perm others)
    (key : String) :
    fields.lookup key = others.lookup key := by
  have othersDistinct : (others.map Prod.fst).Nodup :=
    (perm.map Prod.fst).nodup_iff.mp distinct
  refine Option.ext fun value => ?_
  rw [lookup_iff_mem distinct, lookup_iff_mem othersDistinct,
    perm.mem_iff]

/-- A lookup in fields whose values are changed. -/
theorem lookup_map
    {β γ : Type}
    (fields : List (String × β))
    (change : β → γ)
    (key : String) :
    (fields.map fun field => (field.1, change field.2)).lookup key =
      (fields.lookup key).map change := by
  induction fields with
  | nil => rfl
  | cons field rest inductionHypothesis =>
      obtain ⟨key', value⟩ := field
      rw [List.map_cons, List.lookup_cons, List.lookup_cons]
      by_cases same : key = key'
      · simp [same]
      · have other : (key == key') = false := beq_false_of_ne same
        simp [other, inductionHypothesis]

/-- Fields with distinct keys in order are determined by their lookups. -/
theorem fields_ext
    {fields others : List (String × Json)}
    (distinct : (fields.map Prod.fst).Nodup)
    (othersDistinct : (others.map Prod.fst).Nodup)
    (sorted : fields.Pairwise keyLe)
    (othersSorted : others.Pairwise keyLe)
    (same : ∀ key, fields.lookup key = others.lookup key) :
    fields = others := by
  have members : ∀ field, field ∈ fields ↔ field ∈ others := by
    intro field
    rw [← lookup_iff_mem distinct, ← lookup_iff_mem othersDistinct, same]
  have perm : fields.Perm others :=
    (List.perm_ext_iff_of_nodup distinct.of_map othersDistinct.of_map).mpr
      members
  refine perm.eq_of_pairwise ?_ sorted othersSorted
  intro field other member otherMember before after
  have sameKey : field.1 = other.1 := le_antisymm before after
  have found := (lookup_iff_mem othersDistinct).mpr otherMember
  have found' :=
    (lookup_iff_mem othersDistinct).mpr ((members field).mp member)
  rw [sameKey, found, Option.some.injEq] at found'
  exact Prod.ext sameKey found'.symm

/-! ## The sorted value -/

/-- The items of an array are sorted inside. -/
theorem orderedItems_eq (items : List Json) :
    orderedItems items = items.map ordered := by
  induction items with
  | nil => rfl
  | cons item rest inductionHypothesis =>
      rw [orderedItems, inductionHypothesis, List.map_cons]

/-- The fields of an object are sorted inside, and put in another order. -/
theorem orderedFields_perm (fields : List (String × Json)) :
    (orderedFields fields).Perm
      (fields.map fun field => (field.1, field.2.ordered)) := by
  induction fields with
  | nil => exact .refl _
  | cons field rest inductionHypothesis =>
      obtain ⟨key, value⟩ := field
      exact (List.perm_orderedInsert keyLe _ _).trans
        (inductionHypothesis.cons _)

/-- The fields come in the order of their keys. -/
theorem orderedFields_sorted (fields : List (String × Json)) :
    (orderedFields fields).Pairwise keyLe := by
  induction fields with
  | nil => exact .nil
  | cons field rest inductionHypothesis =>
      exact inductionHypothesis.orderedInsert _ _

/-- The keys are those of the object. -/
theorem orderedFields_keys (fields : List (String × Json)) :
    ((orderedFields fields).map Prod.fst).Perm (fields.map Prod.fst) := by
  have keys := (orderedFields_perm fields).map Prod.fst
  rwa [List.map_map] at keys

/-- Sorting keeps keys distinct. -/
theorem orderedFields_distinct
    {fields : List (String × Json)}
    (distinct : (fields.map Prod.fst).Nodup) :
    ((orderedFields fields).map Prod.fst).Nodup :=
  (orderedFields_keys fields).nodup_iff.mpr distinct

/-- What is under a key is sorted inside. -/
theorem lookup_orderedFields
    {fields : List (String × Json)}
    (distinct : (fields.map Prod.fst).Nodup)
    (key : String) :
    (orderedFields fields).lookup key =
      (fields.lookup key).map ordered := by
  rw [lookup_perm (orderedFields_distinct distinct)
    (orderedFields_perm fields) key, lookup_map]

/-- A sorted value is one that Python has. -/
theorem ordered_proper
    {floats : FloatText}
    {value : Json}
    (proper : value.Proper floats) :
    value.ordered.Proper floats := by
  induction value using inside with
  | leaf value isLeaf => cases value <;> first | exact proper | cases isLeaf
  | array items inductionHypothesis =>
      refine properItems_iff.mpr fun item member => ?_
      rw [orderedItems_eq] at member
      obtain ⟨before, beforeMember, rfl⟩ := List.mem_map.mp member
      exact inductionHypothesis before beforeMember
        (properItems_iff.mp proper before beforeMember)
  | object fields inductionHypothesis =>
      obtain ⟨distinct, fieldsProper⟩ := proper
      refine ⟨orderedFields_distinct distinct,
        properFields_iff.mpr fun field member => ?_⟩
      obtain ⟨before, beforeMember, rfl⟩ :=
        List.mem_map.mp ((orderedFields_perm fields).mem_iff.mp member)
      exact inductionHypothesis before beforeMember
        (properFields_iff.mp fieldsProper before beforeMember)

/-- Sorting keeps the integers. -/
theorem intsFit_ordered (value : Json) :
    value.ordered.intsFit = value.intsFit := by
  induction value using inside with
  | leaf value isLeaf => cases value <;> first | rfl | cases isLeaf
  | array items inductionHypothesis =>
      refine Bool.eq_iff_iff.mpr ?_
      rw [ordered, intsFit, intsFit, orderedItems_eq, intsFitItems_iff,
        intsFitItems_iff, List.forall_mem_map]
      exact forall₂_congr fun item member => by
        rw [inductionHypothesis item member]
  | object fields inductionHypothesis =>
      refine Bool.eq_iff_iff.mpr ?_
      rw [ordered, intsFit, intsFit, intsFitFields_iff, intsFitFields_iff]
      simp only [(orderedFields_perm fields).mem_iff, List.forall_mem_map]
      exact forall₂_congr fun field member => by
        rw [inductionHypothesis field member]

/-! ## Paths -/

/-- A step into a value: an index of a list, or a key of an object. -/
inductive Step where
  | index (position : Nat)
  | key (text : String)
  deriving DecidableEq, Repr

/-- The value that a step leads to. -/
def child (value : Json) : Step → Option Json
  | .index position =>
      match value with
      | .array items => items[position]?
      | _ => none
  | .key text => value.field? text

/-- What a value is, apart from what it contains. -/
inductive Shape where
  | leaf (value : Json)
  | array
  | object

/-- The shape of a value. -/
def shape : Json → Shape
  | .array _ => .array
  | .object _ => .object
  | value => .leaf value

/-- What stands at the end of a path. -/
def view : Json → List Step → Option Shape
  | value, [] => some value.shape
  | value, step :: path => (value.child step).bind (view · path)

/-- Sorting keeps the shape of a value. -/
theorem shape_ordered (value : Json) : value.ordered.shape = value.shape := by
  cases value <;> rfl

/-- Each step leads to the sorted child. -/
theorem child_ordered
    {floats : FloatText}
    {value : Json}
    (proper : value.Proper floats)
    (step : Step) :
    value.ordered.child step = (value.child step).map ordered := by
  cases value with
  | array items =>
      cases step with
      | index position =>
          change (orderedItems items)[position]? =
            items[position]?.map ordered
          rw [orderedItems_eq, List.getElem?_map]
      | key text => rfl
  | object fields =>
      cases step with
      | index position => rfl
      | key text => exact lookup_orderedFields proper.1 text
  | null => cases step <;> rfl
  | bool value => cases step <;> rfl
  | int value => cases step <;> rfl
  | float value => cases step <;> rfl
  | string text => cases step <;> rfl

/-- A step into a value of Python leads to one. -/
theorem child_proper
    {floats : FloatText}
    {value inner : Json}
    {step : Step}
    (proper : value.Proper floats)
    (reached : value.child step = some inner) :
    inner.Proper floats := by
  cases value with
  | array items =>
      cases step with
      | index position =>
          exact properItems_iff.mp proper inner
            (List.mem_of_getElem? reached)
      | key text => cases reached
  | object fields =>
      cases step with
      | index position => cases reached
      | key text =>
          exact properFields_iff.mp proper.2 (text, inner)
            ((lookup_iff_mem proper.1).mp reached)
  | null => cases step <;> cases reached
  | bool value => cases step <;> cases reached
  | int value => cases step <;> cases reached
  | float value => cases step <;> cases reached
  | string text => cases step <;> cases reached

/-- No path tells a value from the sorted one. -/
theorem view_ordered
    {floats : FloatText}
    {value : Json}
    (proper : value.Proper floats)
    (path : List Step) :
    value.ordered.view path = value.view path := by
  induction path generalizing value with
  | nil => exact congrArg some (shape_ordered value)
  | cons step path inductionHypothesis =>
      rw [view, view, child_ordered proper]
      cases reached : value.child step with
      | none => rfl
      | some inner => exact inductionHypothesis (child_proper proper reached)

/-- A leaf is told by its shape. -/
theorem shape_leaf
    {value leaf : Json}
    (isLeaf : leaf.isLeaf = true)
    (same : leaf.shape = value.shape) :
    value = leaf := by
  have leafShape : leaf.shape = .leaf leaf := by
    cases leaf <;> first | rfl | cases isLeaf
  rw [leafShape] at same
  cases value <;> simp only [shape, Shape.leaf.injEq, reduceCtorEq] at same
  all_goals exact same.symm

/-- Children that no path tells apart are sorted to the same. -/
theorem map_ordered_eq
    {left right : Option Json}
    (same : ∀ path, left.bind (view · path) = right.bind (view · path))
    (inner :
      ∀ leftChild rightChild,
        left = some leftChild → right = some rightChild →
          (∀ path, leftChild.view path = rightChild.view path) →
            leftChild.ordered = rightChild.ordered) :
    left.map ordered = right.map ordered := by
  cases left with
  | none =>
      cases right with
      | none => rfl
      | some rightChild => cases same []
  | some leftChild =>
      cases right with
      | none => cases same []
      | some rightChild =>
          exact congrArg some (inner leftChild rightChild rfl rfl same)

/-- Values that no path tells apart are the same when they are sorted. -/
theorem ordered_eq_of_view
    {floats : FloatText}
    {left right : Json}
    (leftProper : left.Proper floats)
    (rightProper : right.Proper floats)
    (same : ∀ path, left.view path = right.view path) :
    left.ordered = right.ordered := by
  have shapes : left.shape = right.shape := Option.some.inj (same [])
  induction left using inside generalizing right with
  | leaf left isLeaf => rw [shape_leaf isLeaf shapes]
  | array items inductionHypothesis =>
      cases right <;> simp only [shape, reduceCtorEq] at shapes
      case array others =>
        rw [ordered, ordered, orderedItems_eq, orderedItems_eq]
        refine congrArg Json.array (List.ext_getElem? fun position => ?_)
        rw [List.getElem?_map, List.getElem?_map]
        refine map_ordered_eq (fun path => same (.index position :: path)) ?_
        intro leftItem rightItem leftFound rightFound sameViews
        have leftMember := List.mem_of_getElem? leftFound
        have rightMember := List.mem_of_getElem? rightFound
        exact inductionHypothesis leftItem leftMember
          (properItems_iff.mp leftProper leftItem leftMember)
          (properItems_iff.mp rightProper rightItem rightMember)
          sameViews (Option.some.inj (sameViews []))
  | object fields inductionHypothesis =>
      cases right <;> simp only [shape, reduceCtorEq] at shapes
      case object others =>
        obtain ⟨distinct, proper⟩ := leftProper
        obtain ⟨othersDistinct, othersProper⟩ := rightProper
        rw [ordered, ordered]
        refine congrArg Json.object
          (fields_ext (orderedFields_distinct distinct)
            (orderedFields_distinct othersDistinct)
            (orderedFields_sorted fields) (orderedFields_sorted others)
            fun key => ?_)
        rw [lookup_orderedFields distinct, lookup_orderedFields othersDistinct]
        refine map_ordered_eq (fun path => same (.key key :: path)) ?_
        intro leftValue rightValue leftFound rightFound sameViews
        have leftMember := (lookup_iff_mem distinct).mp leftFound
        have rightMember := (lookup_iff_mem othersDistinct).mp rightFound
        exact inductionHypothesis (key, leftValue) leftMember
          (properFields_iff.mp proper _ leftMember)
          (properFields_iff.mp othersProper _ rightMember)
          sameViews (Option.some.inj (sameViews []))

/-! ## Sorted texts -/

/-- A value with a text has a sorted text. -/
theorem dumpsSorted_eq_some
    {floats : FloatText}
    {value : Json}
    (fits : value.intsFit = true) :
    value.dumpsSorted floats = some (value.ordered.write floats []) :=
  if_pos (by rw [intsFit_ordered, fits])

/-- A sorted text is loaded as the sorted value. -/
theorem loads_dumpsSorted
    {floats : FloatText}
    {value : Json}
    {text : List Char}
    (proper : value.Proper floats)
    (dumped : value.dumpsSorted floats = some text) :
    loads floats text = .ok value.ordered :=
  loads_dumps (List.forall_mem_nil _) (ordered_proper proper) dumped

/-- A value that is sorted again stays as it is. -/
theorem ordered_ordered
    {floats : FloatText}
    {value : Json}
    (proper : value.Proper floats) :
    value.ordered.ordered = value.ordered :=
  ordered_eq_of_view (ordered_proper proper) proper (view_ordered proper)

/-- Sorted texts are equal just when no path tells the values apart. -/
theorem dumpsSorted_inj
    {floats : FloatText}
    {left right : Json}
    {leftText rightText : List Char}
    (leftProper : left.Proper floats)
    (rightProper : right.Proper floats)
    (leftDumped : left.dumpsSorted floats = some leftText)
    (rightDumped : right.dumpsSorted floats = some rightText) :
    leftText = rightText ↔ ∀ path, left.view path = right.view path := by
  constructor
  · rintro rfl path
    have leftLoaded := loads_dumpsSorted leftProper leftDumped
    have rightLoaded := loads_dumpsSorted rightProper rightDumped
    rw [leftLoaded, Except.ok.injEq] at rightLoaded
    rw [← view_ordered leftProper, ← view_ordered rightProper, rightLoaded]
  · intro same
    have sorted := ordered_eq_of_view leftProper rightProper same
    rw [dumpsSorted, sorted] at leftDumped
    exact Option.some.inj (leftDumped.symm.trans rightDumped)

end Json
end Python
