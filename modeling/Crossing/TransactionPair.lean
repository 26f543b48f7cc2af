import Crossing.TransactionFrame

namespace Relational

/-!
# Two runs side by side

`Paired` relates two bodies that run on related stores: both return related
values or both raise the same exception, and the stores they leave are related
again.  There is one rule for each combinator.

Stores are related through classes of rows.  Tables that have the same rows of
a class answer alike to every statement about a key of the class, and have the
same rows of it afterwards.
-/

namespace Transaction

variable {σ ε ε' α β : Type}

/-- Both runs raise the same exception, or return related values. -/
inductive SameOutcome (post : α → α → Prop) :
    Except ε α → Except ε α → Prop where
  | raised (exception : ε) :
      SameOutcome post (.error exception) (.error exception)
  | returned
      {left right : α}
      (related : post left right) :
      SameOutcome post (.ok left) (.ok right)

/-- From related stores both bodies come to the same outcome. -/
def Paired
    (related : σ → σ → Prop)
    (one two : Transaction σ ε α)
    (post : α → α → Prop) :
    Prop :=
  ∀ left right, related left right →
    related (exec one left).2 (exec two right).2 ∧
      SameOutcome post (exec one left).1 (exec two right).1

/-- The values that are returned are equal. -/
theorem SameOutcome.eq
    {left right : Except ε α}
    (same : SameOutcome Eq left right) :
    left = right := by
  cases same with
  | raised exception => rfl
  | returned related => rw [related]

/-- A weaker relation of the values. -/
theorem SameOutcome.weaken
    {post weaker : α → α → Prop}
    {left right : Except ε α}
    (same : SameOutcome post left right)
    (implies : ∀ left right, post left right → weaker left right) :
    SameOutcome weaker left right := by
  cases same with
  | raised exception => exact .raised exception
  | returned related => exact .returned (implies _ _ related)

namespace Paired

variable
  {related : σ → σ → Prop}
  {one two : Transaction σ ε α}
  {post : α → α → Prop}

/-- What two runs that are known come to. -/
theorem run
    {left right left' right' : σ}
    {outcome outcome' : Except ε α}
    (paired : Paired related one two Eq)
    (ran : exec one left = (outcome, left'))
    (ran' : exec two right = (outcome', right'))
    (holds : related left right) :
    outcome = outcome' ∧ related left' right' := by
  obtain ⟨after, same⟩ := paired left right holds
  rw [ran, ran'] at after same
  exact ⟨same.eq, after⟩

/-- A weaker relation of the values. -/
theorem weaken
    {weaker : α → α → Prop}
    (paired : Paired related one two post)
    (implies : ∀ left right, post left right → weaker left right) :
    Paired related one two weaker := by
  intro left right holds
  obtain ⟨after, same⟩ := paired left right holds
  exact ⟨after, same.weaken implies⟩

/-- `pure` on both sides. -/
theorem pure
    {left right : α}
    (isRelated : post left right) :
    Paired related (pure left : Transaction σ ε α) (pure right) post :=
  fun _ _ holds => ⟨holds, .returned isRelated⟩

/-- `throw` on both sides. -/
theorem throw {exception : ε} :
    Paired related (throw exception : Transaction σ ε α) (throw exception)
      post :=
  fun _ _ holds => ⟨holds, .raised exception⟩

/-- The stores that are read are related. -/
theorem get :
    Paired related (get : Transaction σ ε σ) get related :=
  fun _ _ holds => ⟨holds, .returned holds⟩

/-- Changes that keep the stores related. -/
theorem modify
    {change change' : σ → σ}
    (keeps :
      ∀ left right, related left right →
        related (change left) (change' right)) :
    Paired related (modify change : Transaction σ ε PUnit) (modify change')
      fun _ _ => True :=
  fun left right holds => ⟨keeps left right holds, .returned trivial⟩

/-- Sequences are paired part by part. -/
theorem bind
    {next next' : α → Transaction σ ε β}
    {after : β → β → Prop}
    (first : Paired related one two post)
    (rest :
      ∀ left right, post left right →
        Paired related (next left) (next' right) after) :
    Paired related (one >>= next) (two >>= next') after := by
  intro left right holds
  have reached := first left right holds
  rw [exec_bind, exec_bind]
  cases leftRun : exec one left with
  | mk outcome left' =>
      cases rightRun : exec two right with
      | mk outcome' right' =>
          rw [leftRun, rightRun] at reached
          obtain ⟨holds', same⟩ := reached
          cases same with
          | raised exception => exact ⟨holds', .raised exception⟩
          | returned isRelated =>
              exact rest _ _ isRelated left' right' holds'

/-- A sequence whose first values are equal. -/
theorem step
    {next next' : α → Transaction σ ε β}
    {after : β → β → Prop}
    (first : Paired related one two Eq)
    (rest :
      ∀ value, Paired related (next value) (next' value) after) :
    Paired related (one >>= next) (two >>= next') after := by
  refine first.bind ?_
  rintro value _ rfl
  exact rest value

/-- Mapped bodies. -/
theorem map
    {change change' : α → β}
    {after : β → β → Prop}
    (paired :
      Paired related one two fun left right =>
        after (change left) (change' right)) :
    Paired related (change <$> one) (change' <$> two) after := by
  rw [← bind_pure_comp, ← bind_pure_comp]
  exact paired.bind fun _ _ isRelated => .pure isRelated

/-- The same function on equal values. -/
theorem mapEq
    {change : α → β}
    (paired : Paired related one two Eq) :
    Paired related (change <$> one) (change <$> two) Eq :=
  map (paired.weaken fun _ _ same => congrArg change same)

/-- Handled bodies. -/
theorem tryCatch
    {handler handler' : ε → Transaction σ ε α}
    (bodies : Paired related one two post)
    (handlers :
      ∀ exception,
        Paired related (handler exception) (handler' exception) post) :
    Paired related (tryCatch one handler) (tryCatch two handler') post := by
  intro left right holds
  have reached := bodies left right holds
  rw [exec_tryCatch, exec_tryCatch]
  cases leftRun : exec one left with
  | mk outcome left' =>
      cases rightRun : exec two right with
      | mk outcome' right' =>
          rw [leftRun, rightRun] at reached
          obtain ⟨holds', same⟩ := reached
          cases same with
          | raised exception => exact handlers exception left' right' holds'
          | returned isRelated => exact ⟨holds', .returned isRelated⟩

/-- Savepoints, which exceptions leave with the stores from before. -/
theorem savepoint
    (bodies : Paired related one two post) :
    Paired related (savepoint one) (savepoint two) post := by
  intro left right holds
  have reached := bodies left right holds
  rw [exec_savepoint, exec_savepoint]
  cases leftRun : exec one left with
  | mk outcome left' =>
      cases rightRun : exec two right with
      | mk outcome' right' =>
          rw [leftRun, rightRun] at reached
          obtain ⟨holds', same⟩ := reached
          cases same with
          | raised exception => exact ⟨holds, .raised exception⟩
          | returned isRelated => exact ⟨holds', .returned isRelated⟩

/-- Checks that fail together. -/
theorem raiseWhen
    {failed failed' : Prop}
    [Decidable failed]
    [Decidable failed']
    {exception : ε}
    (same : failed ↔ failed') :
    Paired related
      (raiseWhen failed exception : Transaction σ ε Unit)
      (raiseWhen failed' exception)
      Eq := by
  unfold Transaction.raiseWhen
  by_cases fails : failed
  · rw [if_pos fails, if_pos (same.mp fails)]
    exact .throw
  · rw [if_neg fails, if_neg fun fails' => fails (same.mpr fails')]
    exact .pure rfl

/-- A value that is present on both sides or on none. -/
theorem orRaise
    {exception : ε}
    {found found' : Option α}
    (same : found = found') :
    Paired related
      (orRaise exception found : Transaction σ ε α)
      (orRaise exception found')
      Eq := by
  subst same
  cases found with
  | none => exact .throw
  | some value => exact .pure rfl

/-- The same pure check. -/
theorem ofExcept
    {raise : ε' → ε}
    {checked : Except ε' α} :
    Paired related
      (ofExcept raise checked : Transaction σ ε α)
      (ofExcept raise checked)
      Eq := by
  cases checked with
  | error exception => exact .throw
  | ok value => exact .pure rfl

/-- What the first body keeps by itself can be assumed of its runs. -/
theorem keeping
    {τ : Type}
    {invariant : σ → Prop}
    {observe : σ → τ}
    {kept : α → Prop}
    (paired : Paired related one two post)
    (keeps : Keeps invariant observe one kept) :
    Paired (fun left right => related left right ∧ invariant left) one two
      fun left right => post left right ∧ kept left := by
  rintro left right ⟨holds, isKept⟩
  obtain ⟨after, same⟩ := paired left right holds
  obtain ⟨_, isKept', returns⟩ := keeps left isKept
  refine ⟨⟨after, isKept'⟩, ?_⟩
  generalize (exec one left).1 = outcome at same returns
  generalize (exec two right).1 = outcome' at same
  cases same with
  | raised exception => exact .raised exception
  | returned isRelated => exact .returned ⟨isRelated, returns _ rfl⟩

end Paired

end Transaction

/-! ## Tables with the same rows of a class -/

namespace Table

section Classes

variable
  {ρ κ : Type}
  [Keyed ρ κ]
  {one two : Table ρ}
  {isIn : ρ → Bool}

open Keyed (key)

/-- The tables have the same rows of the class, in the same order. -/
def Agree (one : Table ρ) (isIn : ρ → Bool) (two : Table ρ) : Prop :=
  one.rows.filter isIn = two.rows.filter isIn

/--
Tables that agree on a larger class agree on a smaller one, when every row of
the smaller class that they store is in the larger.
-/
theorem Agree.within
    {larger : ρ → Bool}
    (agree : one.Agree larger two)
    (within : ∀ row ∈ one.rows, isIn row = true → larger row = true)
    (within' : ∀ row ∈ two.rows, isIn row = true → larger row = true) :
    one.Agree isIn two := by
  have inLarger
      {table : Table ρ}
      (stored : ∀ row ∈ table.rows, isIn row = true → larger row = true) :
      table.rows.filter isIn =
        (table.rows.filter larger).filter isIn := by
    rw [List.filter_filter]
    apply List.filter_congr
    intro row member
    cases rowIn : isIn row with
    | false => rfl
    | true => simp [stored row member rowIn]
  unfold Agree
  rw [inLarger within, inLarger within', agree]

/-- Tables without rows of the class agree on it. -/
theorem agree_of_none
    (none : ∀ row ∈ one.rows, isIn row ≠ true)
    (none' : ∀ row ∈ two.rows, isIn row ≠ true) :
    one.Agree isIn two := by
  unfold Agree
  rw [List.filter_eq_nil_iff.mpr none, List.filter_eq_nil_iff.mpr none']

/-- The first row that satisfies a condition within the class is the same. -/
theorem Agree.find?
    {condition : ρ → Bool}
    (agree : one.Agree isIn two)
    (within : ∀ row, condition row = true → isIn row = true) :
    one.rows.find? condition = two.rows.find? condition := by
  have inClass (rows : List ρ) :
      rows.find? condition = (rows.filter isIn).find? condition := by
    rw [List.find?_filter]
    congr 1
    funext row
    cases holds : condition row with
    | false => simp
    | true => simp [within row holds]
  rw [inClass one.rows, inClass two.rows, agree]

/-- Rows that satisfy a condition within the class are there or not alike. -/
theorem Agree.exists_iff
    {condition : ρ → Prop}
    (agree : one.Agree isIn two)
    (within : ∀ row, condition row → isIn row = true) :
    (∃ row ∈ one.rows, condition row) ↔ ∃ row ∈ two.rows, condition row := by
  have inClass (rows : List ρ) :
      (∃ row ∈ rows, condition row) ↔
        ∃ row ∈ rows.filter isIn, condition row := by
    constructor
    · rintro ⟨row, member, holds⟩
      exact ⟨row, List.mem_filter.mpr ⟨member, within row holds⟩, holds⟩
    · rintro ⟨row, member, holds⟩
      exact ⟨row, (List.mem_filter.mp member).1, holds⟩
  rw [inClass one.rows, inClass two.rows, agree]

variable [DecidableEq κ]

/-- Every row that can have the key is in the class. -/
def KeyIn (isIn : ρ → Bool) (k : κ) : Prop :=
  ∀ row, key row = k → isIn row = true

/-- Lookups of a key of the class agree. -/
theorem Agree.find
    {k : κ}
    (agree : one.Agree isIn two)
    (keyIn : KeyIn isIn k) :
    one.find k = two.find k :=
  agree.find? fun row isKey => keyIn row (of_decide_eq_true isKey)

/-- A row of the class that is found in one table is found in the other. -/
theorem Agree.found
    {k : κ}
    {row : ρ}
    (agree : one.Agree isIn two)
    (found : one.find k = some row)
    (rowIn : isIn row = true) :
    two.find k = some row := by
  have member : row ∈ one.rows.filter isIn :=
    List.mem_filter.mpr ⟨mem_of_find found, rowIn⟩
  rw [agree] at member
  rw [← key_of_find found]
  exact find_of_mem (List.mem_filter.mp member).1

/-- A row of the class is found in both tables or in none. -/
theorem Agree.found_iff
    {k : κ}
    (agree : one.Agree isIn two) :
    (∃ row, one.find k = some row ∧ isIn row = true) ↔
      ∃ row, two.find k = some row ∧ isIn row = true := by
  constructor
  · rintro ⟨row, found, rowIn⟩
    exact ⟨row, agree.found found rowIn, rowIn⟩
  · rintro ⟨row, found, rowIn⟩
    exact ⟨row, Agree.found (Eq.symm agree) found rowIn, rowIn⟩

/-- Both inserts of a row are accepted, or both are refused. -/
theorem Agree.insert
    {row : ρ}
    (agree : one.Agree isIn two)
    (keyIn : KeyIn isIn (key row)) :
    (one.insert? row = none ∧ two.insert? row = none) ∨
      ∃ one' two',
        one.insert? row = some one' ∧ two.insert? row = some two' ∧
          one'.Agree isIn two' := by
  have same := agree.find keyIn
  cases found : one.find (key row) with
  | some stored =>
      have refused
          {table : Table ρ}
          (isStored : table.find (key row) = some stored) :
          table.insert? row = none := by
        cases inserted : table.insert? row with
        | none => rfl
        | some table' =>
            rw [(insert?_eq_some inserted).1] at isStored
            cases isStored
      exact .inl ⟨refused found, refused (same ▸ found)⟩
  | none =>
      right
      obtain ⟨one', accepted⟩ := insert?_of_fresh found
      obtain ⟨two', accepted'⟩ := insert?_of_fresh (same ▸ found)
      refine ⟨one', two', accepted, accepted', ?_⟩
      unfold Agree
      rw [(insert?_eq_some accepted).2, (insert?_eq_some accepted').2,
        List.filter_append, List.filter_append, agree]

/-- The rows of a class after a `put` at a key of the class. -/
theorem filter_put_in
    {row : ρ}
    (table : Table ρ)
    (keyIn : KeyIn isIn (key row)) :
    (table.put row).rows.filter isIn =
      (table.rows.filter isIn).map fun old =>
        if key old = key row then row else old := by
  show (table.rows.map _).filter isIn = _
  induction table.rows with
  | nil => rfl
  | cons head rest inductionHypothesis =>
      by_cases isKey : key head = key row
      · have headIn := keyIn head isKey
        have rowIn := keyIn row rfl
        simp [isKey, headIn, rowIn, inductionHypothesis]
      · cases headIn : isIn head <;>
          simp [isKey, headIn, inductionHypothesis]

/-- A `put` at a key of the class. -/
theorem Agree.put
    {row : ρ}
    (agree : one.Agree isIn two)
    (keyIn : KeyIn isIn (key row)) :
    (one.put row).Agree isIn (two.put row) := by
  unfold Agree
  rw [one.filter_put_in keyIn, two.filter_put_in keyIn, agree]

/-- A change of the row under a key of the class. -/
theorem Agree.modify
    {k : κ}
    {change : ρ → ρ}
    (agree : one.Agree isIn two)
    (keyIn : KeyIn isIn k)
    (keepsKey : ∀ row, key (change row) = key row) :
    (one.modify k change).Agree isIn (two.modify k change) := by
  have same := agree.find keyIn
  unfold Table.modify
  rw [← same]
  cases found : one.find k with
  | none => exact agree
  | some row =>
      have isKey : key (change row) = k :=
        (keepsKey row).trans (key_of_find found)
      exact agree.put (isKey ▸ keyIn)

/-- Both conditional updates change the same row, or none. -/
theorem Agree.update
    {k : κ}
    {guard : ρ → Bool}
    {change : ρ → ρ}
    (agree : one.Agree isIn two)
    (keyIn : KeyIn isIn k)
    (keepsKey : ∀ row, key (change row) = key row) :
    (one.update? k guard change = none ∧ two.update? k guard change = none) ∨
      ∃ row one' two',
        one.update? k guard change = some (row, one') ∧
          two.update? k guard change = some (row, two') ∧
          one'.Agree isIn two' := by
  have same := agree.find keyIn
  unfold update?
  rw [← same]
  cases found : one.find k with
  | none => simp
  | some row =>
      by_cases passes : guard row = true
      · right
        have isKey : key (change row) = k :=
          (keepsKey row).trans (key_of_find found)
        refine ⟨change row, one.put (change row), two.put (change row),
          ?_, ?_, agree.put (isKey ▸ keyIn)⟩
        · simp [passes]
        · simp [passes]
      · left
        simp [passes]

end Classes

end Table

end Relational
