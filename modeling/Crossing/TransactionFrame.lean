import Crossing.RelationalTable
import Crossing.RelationalTransaction

namespace Relational

/-!
# What a transaction body leaves alone

`Keeps` is a triple for bodies whose conclusion also covers the runs that raise:
an observation of the store stays as it is, an invariant is kept, and what is
returned satisfies a postcondition.  `Raises` names the exceptions of a body.
Bodies are composed by one rule for each combinator.  The second half says when
the rows of some owners stay as they are.
-/

namespace Transaction

variable {σ ε ε' τ α β : Type}

/--
Under an invariant, the body keeps the invariant and an observation, also when
it raises, and returns only what satisfies `post`.
-/
def Keeps
    (invariant : σ → Prop)
    (observe : σ → τ)
    (body : Transaction σ ε α)
    (post : α → Prop) :
    Prop :=
  ∀ store, invariant store →
    observe (exec body store).2 = observe store ∧
      invariant (exec body store).2 ∧
      ∀ value, (exec body store).1 = .ok value → post value

namespace Keeps

variable
  {invariant : σ → Prop}
  {observe : σ → τ}
  {body : Transaction σ ε α}
  {post : α → Prop}

/-- What a run that is known keeps. -/
theorem run
    {store store' : σ}
    {outcome : Except ε α}
    (keeps : Keeps invariant observe body post)
    (ran : exec body store = (outcome, store'))
    (holds : invariant store) :
    observe store' = observe store ∧
      invariant store' ∧
      ∀ value, outcome = .ok value → post value := by
  have kept := keeps store holds
  rw [ran] at kept
  exact kept

/-- A weaker postcondition. -/
theorem weaken
    {weaker : α → Prop}
    (keeps : Keeps invariant observe body post)
    (implies : ∀ value, post value → weaker value) :
    Keeps invariant observe body weaker := by
  intro store holds
  obtain ⟨same, holds', returns⟩ := keeps store holds
  exact ⟨same, holds', fun value isValue =>
    implies value (returns value isValue)⟩

/-- Any body satisfies the trivial postcondition if it satisfies one. -/
theorem trivially
    (keeps : Keeps invariant observe body post) :
    Keeps invariant observe body fun _ => True :=
  keeps.weaken fun _ _ => trivial

/-- `pure` writes nothing. -/
theorem pure
    {value : α}
    (holds : post value) :
    Keeps invariant observe (pure value : Transaction σ ε α) post := by
  intro store kept
  refine ⟨rfl, kept, ?_⟩
  intro returned isReturned
  cases isReturned
  exact holds

/-- `throw` writes nothing. -/
theorem throw {exception : ε} :
    Keeps invariant observe (throw exception : Transaction σ ε α) post := by
  intro store kept
  refine ⟨rfl, kept, ?_⟩
  intro returned isReturned
  cases isReturned

/-- Reading writes nothing, and the store that is read is a kept one. -/
theorem get :
    Keeps invariant observe (get : Transaction σ ε σ) invariant := by
  intro store kept
  refine ⟨rfl, kept, ?_⟩
  intro returned isReturned
  cases isReturned
  exact kept

/-- A change of the store keeps what the change keeps. -/
theorem modify
    {change : σ → σ}
    (keeps :
      ∀ store, invariant store →
        observe (change store) = observe store ∧ invariant (change store)) :
    Keeps invariant observe (modify change : Transaction σ ε PUnit)
      fun _ => True := by
  intro store kept
  exact ⟨(keeps store kept).1, (keeps store kept).2, fun _ _ => trivial⟩

/-- A sequence keeps what both parts keep. -/
theorem bind
    {first : Transaction σ ε α}
    {next : α → Transaction σ ε β}
    {middle : α → Prop}
    {post : β → Prop}
    (firstKeeps : Keeps invariant observe first middle)
    (nextKeeps :
      ∀ value, middle value → Keeps invariant observe (next value) post) :
    Keeps invariant observe (first >>= next) post := by
  intro store holds
  have kept := firstKeeps store holds
  rw [exec_bind]
  cases firstRun : exec first store with
  | mk outcome between =>
      rw [firstRun] at kept
      obtain ⟨same, holds', returns⟩ := kept
      cases outcome with
      | error exception =>
          refine ⟨same, holds', ?_⟩
          intro value isValue
          cases isValue
      | ok value =>
          obtain ⟨same', holds'', returns'⟩ :=
            nextKeeps value (returns value rfl) between holds'
          exact ⟨same'.trans same, holds'', returns'⟩

/-- A mapped body keeps what the body keeps. -/
theorem map
    {change : α → β}
    {post : β → Prop}
    (keeps : Keeps invariant observe body fun value => post (change value)) :
    Keeps invariant observe (change <$> body) post := by
  rw [← bind_pure_comp]
  exact keeps.bind fun _ holds => .pure holds

/-- A handled body keeps what the body and each handler keep. -/
theorem tryCatch
    {handler : ε → Transaction σ ε α}
    (bodyKeeps : Keeps invariant observe body post)
    (handlerKeeps :
      ∀ exception, Keeps invariant observe (handler exception) post) :
    Keeps invariant observe (tryCatch body handler) post := by
  intro store holds
  have kept := bodyKeeps store holds
  rw [exec_tryCatch]
  cases bodyRun : exec body store with
  | mk outcome between =>
      rw [bodyRun] at kept
      cases outcome with
      | ok value => exact kept
      | error exception =>
          obtain ⟨same, holds', _⟩ := kept
          obtain ⟨same', holds'', returns⟩ :=
            handlerKeeps exception between holds'
          exact ⟨same'.trans same, holds'', returns⟩

/-- A savepoint keeps what its body keeps. -/
theorem savepoint
    (keeps : Keeps invariant observe body post) :
    Keeps invariant observe (savepoint body) post := by
  intro store holds
  have kept := keeps store holds
  rw [exec_savepoint]
  cases bodyRun : exec body store with
  | mk outcome between =>
      rw [bodyRun] at kept
      cases outcome with
      | ok value => exact kept
      | error exception =>
          refine ⟨rfl, holds, ?_⟩
          intro value isValue
          cases isValue

/-- A check writes nothing. -/
theorem raiseWhen
    {failed : Prop}
    [Decidable failed]
    {exception : ε} :
    Keeps invariant observe
      (raiseWhen failed exception : Transaction σ ε Unit)
      fun _ => ¬ failed := by
  unfold Transaction.raiseWhen
  split
  · exact .throw
  · exact .pure ‹_›

/-- A value that is present is the given one. -/
theorem orRaise
    {exception : ε}
    {found : Option α} :
    Keeps invariant observe
      (orRaise exception found : Transaction σ ε α)
      fun value => found = some value := by
  cases found with
  | none => exact .throw
  | some value => exact .pure rfl

/-- A pure check writes nothing. -/
theorem ofExcept
    {raise : ε' → ε}
    {checked : Except ε' α} :
    Keeps invariant observe
      (ofExcept raise checked : Transaction σ ε α)
      fun value => checked = .ok value := by
  cases checked with
  | error exception => exact .throw
  | ok value => exact .pure rfl

end Keeps

/-! ## Exceptions -/

/-- Every exception that the body raises is among the allowed ones. -/
def Raises (allowed : ε → Prop) (body : Transaction σ ε α) : Prop :=
  ∀ store exception store',
    exec body store = (.error exception, store') → allowed exception

namespace Raises

variable {allowed : ε → Prop}

/-- `pure` does not raise. -/
theorem pure {value : α} :
    Raises allowed (pure value : Transaction σ ε α) := by
  intro store exception store' raised
  cases raised

/-- `throw` raises its exception. -/
theorem throw
    {exception : ε}
    (isAllowed : allowed exception) :
    Raises allowed (throw exception : Transaction σ ε α) := by
  intro store thrown store' raised
  cases raised
  exact isAllowed

/-- Reading does not raise. -/
theorem get : Raises allowed (get : Transaction σ ε σ) := by
  intro store exception store' raised
  cases raised

/-- A change of the store does not raise. -/
theorem modify {change : σ → σ} :
    Raises allowed (modify change : Transaction σ ε PUnit) := by
  intro store exception store' raised
  cases raised

/-- A sequence raises what its parts raise. -/
theorem bind
    {first : Transaction σ ε α}
    {next : α → Transaction σ ε β}
    (firstRaises : Raises allowed first)
    (nextRaises : ∀ value, Raises allowed (next value)) :
    Raises allowed (first >>= next) := by
  intro store exception store' raised
  rcases bind_error raised with
    inFirst | ⟨value, between, _, inNext⟩
  · exact firstRaises store exception store' inFirst
  · exact nextRaises value between exception store' inNext

/-- A mapped body raises what the body raises. -/
theorem map
    {change : α → β}
    {body : Transaction σ ε α}
    (raises : Raises allowed body) :
    Raises allowed (change <$> body) := by
  intro store exception store' raised
  exact raises store exception store' (map_error raised)

/-- A handled body raises what its handlers raise. -/
theorem tryCatch
    {body : Transaction σ ε α}
    {handler : ε → Transaction σ ε α}
    (handlerRaises : ∀ exception, Raises allowed (handler exception)) :
    Raises allowed (tryCatch body handler) := by
  intro store exception store' raised
  rw [exec_tryCatch] at raised
  cases bodyRun : exec body store with
  | mk outcome between =>
      rw [bodyRun] at raised
      cases outcome with
      | ok value => cases raised
      | error thrown => exact handlerRaises thrown _ _ _ raised

end Raises

end Transaction

namespace Table

/-! ## Rows of other owners -/

section Owners

variable
  {ρ κ α : Type}
  [Keyed ρ κ]
  [DecidableEq κ]
  {table : Table ρ}
  {condition : ρ → Bool}

open Keyed (key)

/-- The row under a key, if there is one, has this owner. -/
def OwnedBy
    (table : Table ρ)
    (owner : ρ → α)
    (value : α)
    (k : κ) :
    Prop :=
  ∀ row, table.find k = some row → owner row = value

/-- An insert adds nothing to the rows it is not one of. -/
theorem filter_insert
    {row : ρ}
    {inserted : Table ρ}
    (accepted : table.insert? row = some inserted)
    (outside : condition row = false) :
    inserted.rows.filter condition = table.rows.filter condition := by
  obtain ⟨_, sameRows⟩ := insert?_eq_some accepted
  rw [sameRows, List.filter_append]
  simp [outside]

/-- A `put` changes nothing among the rows that neither version is one of. -/
theorem filter_put
    {row : ρ}
    (outsideNow :
      ∀ old, table.find (key row) = some old → condition old = false)
    (outsideThen : condition row = false) :
    (table.put row).rows.filter condition = table.rows.filter condition := by
  have outside :
      ∀ old ∈ table.rows, key old = key row → condition old = false := by
    intro old member same
    exact outsideNow old (same ▸ find_of_mem member)
  show (table.rows.map _).filter condition = _
  generalize table.rows = rows at outside
  clear outsideNow
  induction rows with
  | nil => rfl
  | cons head rest inductionHypothesis =>
      have ofRest :=
        inductionHypothesis fun old member =>
          outside old (List.mem_cons_of_mem _ member)
      by_cases isRow : key head = key row
      · have headOutside := outside head List.mem_cons_self isRow
        simp [isRow, outsideThen, headOutside, ofRest]
      · simp only [List.map_cons, isRow, ↓reduceIte, List.filter_cons, ofRest]

/-- A change of one row changes nothing among the rows it is not one of. -/
theorem filter_modify
    {k : κ}
    {change : ρ → ρ}
    (outsideNow : ∀ old, table.find k = some old → condition old = false)
    (outsideThen :
      ∀ old, table.find k = some old → condition (change old) = false)
    (keepsKey : ∀ old, key (change old) = key old) :
    (table.modify k change).rows.filter condition =
      table.rows.filter condition := by
  unfold modify
  cases found : table.find k with
  | none => rfl
  | some row =>
      apply filter_put
      · intro old oldFound
        rw [keepsKey, key_of_find found] at oldFound
        exact outsideNow old oldFound
      · exact outsideThen row found

namespace OwnedBy

variable
  {owner : ρ → α}
  {value : α}
  {k : κ}

/-- A row of the same owner may be inserted under any key. -/
theorem insert
    {row : ρ}
    {inserted : Table ρ}
    (owned : table.OwnedBy owner value k)
    (accepted : table.insert? row = some inserted)
    (sameOwner : owner row = value) :
    inserted.OwnedBy owner value k := by
  intro stored found
  rcases (mem_insert accepted).mp (mem_of_find found) with inOld | rfl
  · apply owned stored
    rw [← key_of_find found]
    exact find_of_mem inOld
  · exact sameOwner

/-- A row of the same owner may replace any row. -/
theorem put
    {row : ρ}
    (owned : table.OwnedBy owner value k)
    (sameOwner : owner row = value) :
    (table.put row).OwnedBy owner value k := by
  intro stored found
  rcases mem_put (mem_of_find found) with rfl | ⟨inOld, _⟩
  · exact sameOwner
  · apply owned stored
    rw [← key_of_find found]
    exact find_of_mem inOld

/-- A change that keeps owners keeps each row with its owner. -/
theorem modify
    {k' : κ}
    {change : ρ → ρ}
    (owned : table.OwnedBy owner value k)
    (keepsKey : ∀ row, key (change row) = key row)
    (keepsOwner : ∀ row, owner (change row) = owner row) :
    (table.modify k' change).OwnedBy owner value k := by
  intro stored found
  rw [find_modify keepsKey] at found
  split at found
  · obtain ⟨old, oldFound, rfl⟩ := Option.map_eq_some_iff.mp found
    rw [keepsOwner]
    exact owned old oldFound
  · exact owned stored found

end OwnedBy

end Owners

end Table

end Relational
