import Mathlib.Tactic.Common

namespace Relational

/-!
# Transaction bodies

A transaction body reads and writes a store and may raise.  Raising does not
undo anything by itself: a caller that catches the exception still sees what
the body wrote.  Writes are undone by a savepoint that the exception leaves, or
by the end of a transaction that raises.

Each combinator comes with the equation for `exec`, its effect on a store, and
with the inversion of a normal return that proofs about bodies use.
-/

/-- Bodies over a store `σ` that raise exceptions of type `ε`. -/
abbrev Transaction (σ ε α : Type) := ExceptT ε (StateM σ) α

namespace Transaction

variable {σ ε ε' α β : Type}

/-- The outcome of a body on a store, with the store it leaves. -/
def exec (body : Transaction σ ε α) (store : σ) : Except ε α × σ :=
  body.run.run store

/-- Run a body inside a savepoint: an exception restores the store. -/
def savepoint (body : Transaction σ ε α) : Transaction σ ε α :=
  ExceptT.mk fun store =>
    match body.exec store with
    | (.ok value, store') => (.ok value, store')
    | (.error exception, _) => (.error exception, store)

/-- Raise when a check fails. -/
def raiseWhen
    (failed : Prop)
    [Decidable failed]
    (exception : ε) :
    Transaction σ ε Unit :=
  if failed then throw exception else pure ()

/-- Continue with a value that is present. -/
def orRaise (exception : ε) : Option α → Transaction σ ε α
  | some value => pure value
  | none => throw exception

/-- Use the outcome of a check that does not touch the store. -/
def ofExcept (raise : ε' → ε) : Except ε' α → Transaction σ ε α
  | .ok value => pure value
  | .error exception => throw (raise exception)

/--
The end of a transaction: a normal return commits the store, an exception
leaves no transaction at all.
-/
def commit (body : Transaction σ ε α) (store : σ) : Option (α × σ) :=
  match body.exec store with
  | (.ok value, store') => some (value, store')
  | (.error _, _) => none

/-! ## Effects of the combinators -/

@[simp] theorem exec_pure (value : α) (store : σ) :
    exec (pure value : Transaction σ ε α) store = (.ok value, store) :=
  rfl

@[simp] theorem exec_throw (exception : ε) (store : σ) :
    exec (throw exception : Transaction σ ε α) store =
      (.error exception, store) :=
  rfl

@[simp] theorem exec_get (store : σ) :
    exec (get : Transaction σ ε σ) store = (.ok store, store) :=
  rfl

@[simp] theorem exec_set (store store' : σ) :
    exec (set store' : Transaction σ ε PUnit) store = (.ok ⟨⟩, store') :=
  rfl

@[simp] theorem exec_modify (change : σ → σ) (store : σ) :
    exec (modify change : Transaction σ ε PUnit) store =
      (.ok ⟨⟩, change store) :=
  rfl

/-- Sequencing stops at an exception and keeps what was written before it. -/
@[simp] theorem exec_bind
    (first : Transaction σ ε α)
    (next : α → Transaction σ ε β)
    (store : σ) :
    exec (first >>= next) store =
      match exec first store with
      | (.ok value, store') => exec (next value) store'
      | (.error exception, store') => (.error exception, store') := by
  simp only [exec, bind, ExceptT.bind, ExceptT.mk, ExceptT.run,
    StateT.run, StateT.bind, ExceptT.bindCont]
  cases first store with
  | mk outcome store' =>
      cases outcome <;> rfl

@[simp] theorem exec_map
    (change : α → β)
    (body : Transaction σ ε α)
    (store : σ) :
    exec (change <$> body) store =
      match exec body store with
      | (.ok value, store') => (.ok (change value), store')
      | (.error exception, store') => (.error exception, store') := by
  rw [← bind_pure_comp, exec_bind]
  rfl

/-- A handler runs on the store the exception left. -/
@[simp] theorem exec_tryCatch
    (body : Transaction σ ε α)
    (handler : ε → Transaction σ ε α)
    (store : σ) :
    exec (tryCatch body handler) store =
      match exec body store with
      | (.ok value, store') => (.ok value, store')
      | (.error exception, store') => exec (handler exception) store' := by
  simp only [exec, tryCatch, tryCatchThe, MonadExceptOf.tryCatch,
    ExceptT.tryCatch, ExceptT.mk, ExceptT.run, bind, StateT.bind,
    StateT.run]
  cases body store with
  | mk outcome store' =>
      cases outcome <;> rfl

@[simp] theorem exec_savepoint
    (body : Transaction σ ε α)
    (store : σ) :
    exec (savepoint body) store =
      match exec body store with
      | (.ok value, store') => (.ok value, store')
      | (.error exception, _) => (.error exception, store) :=
  rfl

@[simp] theorem exec_raiseWhen
    (failed : Prop)
    [Decidable failed]
    (exception : ε)
    (store : σ) :
    exec (raiseWhen failed exception : Transaction σ ε Unit) store =
      if failed then (.error exception, store) else (.ok (), store) := by
  unfold raiseWhen
  split <;> rfl

@[simp] theorem exec_orRaise_some
    (exception : ε)
    (value : α)
    (store : σ) :
    exec (orRaise exception (some value)) store = (.ok value, store) :=
  rfl

@[simp] theorem exec_orRaise_none (exception : ε) (store : σ) :
    exec (orRaise exception (none : Option α)) store =
      (.error exception, store) :=
  rfl

@[simp] theorem exec_ofExcept_ok
    (raise : ε' → ε)
    (value : α)
    (store : σ) :
    exec (ofExcept raise (.ok value)) store = (.ok value, store) :=
  rfl

@[simp] theorem exec_ofExcept_error
    (raise : ε' → ε)
    (exception : ε')
    (store : σ) :
    exec (ofExcept raise (.error exception : Except ε' α)) store =
      (.error (raise exception), store) :=
  rfl

/-! ## Inverting a normal return -/

section Inversion

variable {store store' : σ} {value : α} {result : β}

/-- A sequence that returns ran both of its parts to a normal return. -/
theorem bind_ok
    {first : Transaction σ ε α}
    {next : α → Transaction σ ε β}
    (returned : exec (first >>= next) store = (.ok result, store')) :
    ∃ middle between,
      exec first store = (.ok middle, between) ∧
        exec (next middle) between = (.ok result, store') := by
  rw [exec_bind] at returned
  cases firstRun : exec first store with
  | mk outcome between =>
      rw [firstRun] at returned
      cases outcome with
      | error exception =>
          cases returned
      | ok middle =>
          exact ⟨middle, between, rfl, returned⟩

/-- `pure` returns its argument and keeps the store. -/
theorem pure_ok
    {given : α}
    (returned :
      exec (pure given : Transaction σ ε α) store = (.ok value, store')) :
    value = given ∧ store = store' := by
  cases returned
  exact ⟨rfl, rfl⟩

/-- A mapped body returns the image of what the body returns. -/
theorem map_ok
    {change : α → β}
    {body : Transaction σ ε α}
    (returned : exec (change <$> body) store = (.ok result, store')) :
    ∃ inner, exec body store = (.ok inner, store') ∧ result = change inner := by
  rw [exec_map] at returned
  cases bodyRun : exec body store with
  | mk outcome between =>
      rw [bodyRun] at returned
      cases outcome with
      | error exception => cases returned
      | ok inner =>
          cases returned
          exact ⟨inner, rfl, rfl⟩

/-- A check that lets the body go on has passed and kept the store. -/
theorem raiseWhen_ok
    {failed : Prop}
    [Decidable failed]
    {exception : ε}
    {done : Unit}
    (returned :
      exec (raiseWhen failed exception : Transaction σ ε Unit) store =
        (.ok done, store')) :
    ¬ failed ∧ store = store' := by
  rw [exec_raiseWhen] at returned
  by_cases holds : failed
  · simp [holds] at returned
  · simp only [holds, ↓reduceIte, Prod.mk.injEq] at returned
    exact ⟨holds, returned.2⟩

/-- A value that the body continues with was present. -/
theorem orRaise_ok
    {exception : ε}
    {found : Option α}
    (returned :
      exec (orRaise exception found : Transaction σ ε α) store =
        (.ok value, store')) :
    found = some value ∧ store = store' := by
  cases found with
  | none => cases returned
  | some stored =>
      cases returned
      exact ⟨rfl, rfl⟩

/-- A pure check that lets the body go on succeeded. -/
theorem ofExcept_ok
    {raise : ε' → ε}
    {checked : Except ε' α}
    (returned :
      exec (ofExcept raise checked : Transaction σ ε α) store =
        (.ok value, store')) :
    checked = .ok value ∧ store = store' := by
  cases checked with
  | error exception => cases returned
  | ok stored =>
      cases returned
      exact ⟨rfl, rfl⟩

/--
A guarded savepoint that returns either ran its body to the end, or the body
raised and the handler answered on the store from before the savepoint.
-/
theorem tryCatch_savepoint_ok
    {body : Transaction σ ε α}
    {handler : ε → Transaction σ ε α}
    (returned :
      exec (tryCatch (savepoint body) handler) store =
        (.ok value, store')) :
    exec body store = (.ok value, store') ∨
      ∃ exception between,
        exec body store = (.error exception, between) ∧
          exec (handler exception) store = (.ok value, store') := by
  rw [exec_tryCatch, exec_savepoint] at returned
  cases bodyRun : exec body store with
  | mk outcome between =>
      rw [bodyRun] at returned
      cases outcome with
      | ok stored =>
          left
          exact returned
      | error exception =>
          right
          exact ⟨exception, between, rfl, returned⟩

/-- A sequence that raises did so in its first part or in its second. -/
theorem bind_error
    {first : Transaction σ ε α}
    {next : α → Transaction σ ε β}
    {exception : ε}
    (raised : exec (first >>= next) store = (.error exception, store')) :
    exec first store = (.error exception, store') ∨
      ∃ middle between,
        exec first store = (.ok middle, between) ∧
          exec (next middle) between = (.error exception, store') := by
  rw [exec_bind] at raised
  cases firstRun : exec first store with
  | mk outcome between =>
      rw [firstRun] at raised
      cases outcome with
      | error thrown =>
          cases raised
          exact .inl rfl
      | ok middle =>
          right
          exact ⟨middle, between, rfl, raised⟩

/-- A mapped body raises what the body raises. -/
theorem map_error
    {change : α → β}
    {body : Transaction σ ε α}
    {exception : ε}
    (raised : exec (change <$> body) store = (.error exception, store')) :
    exec body store = (.error exception, store') := by
  rw [exec_map] at raised
  cases bodyRun : exec body store with
  | mk outcome between =>
      rw [bodyRun] at raised
      cases outcome with
      | ok inner => cases raised
      | error thrown =>
          cases raised
          rfl

/-- A check that raises has failed and kept the store. -/
theorem raiseWhen_error
    {failed : Prop}
    [Decidable failed]
    {exception thrown : ε}
    (raised :
      exec (raiseWhen failed exception : Transaction σ ε Unit) store =
        (.error thrown, store')) :
    failed ∧ thrown = exception ∧ store' = store := by
  rw [exec_raiseWhen] at raised
  by_cases holds : failed
  · simp only [holds, ↓reduceIte, Prod.mk.injEq,
      Except.error.injEq] at raised
    exact ⟨holds, raised.1.symm, raised.2.symm⟩
  · simp [holds] at raised

/-- A missing value raises the given exception. -/
theorem orRaise_error
    {exception thrown : ε}
    {found : Option α}
    (raised :
      exec (orRaise exception found : Transaction σ ε α) store =
        (.error thrown, store')) :
    found = none ∧ thrown = exception ∧ store' = store := by
  cases found with
  | none =>
      cases raised
      exact ⟨rfl, rfl, rfl⟩
  | some stored => cases raised

/-- A failed check raises and writes nothing. -/
theorem ofExcept_error
    {raise : ε' → ε}
    {thrown : ε}
    {outcome : Except ε' α}
    (raised :
      exec (ofExcept raise outcome : Transaction σ ε α) store =
        (.error thrown, store')) :
    store' = store := by
  cases outcome with
  | error exception =>
      cases raised
      rfl
  | ok value => cases raised

/--
A guarded savepoint that raises has undone its body, and its handler raised on
the store from before the savepoint.
-/
theorem tryCatch_savepoint_error
    {body : Transaction σ ε α}
    {handler : ε → Transaction σ ε α}
    {exception : ε}
    (raised :
      exec (tryCatch (savepoint body) handler) store =
        (.error exception, store')) :
    ∃ thrown between,
      exec body store = (.error thrown, between) ∧
        exec (handler thrown) store = (.error exception, store') := by
  rw [exec_tryCatch, exec_savepoint] at raised
  cases bodyRun : exec body store with
  | mk outcome between =>
      rw [bodyRun] at raised
      cases outcome with
      | ok stored => cases raised
      | error thrown => exact ⟨thrown, between, rfl, raised⟩

/-- What a transaction commits is what its body returned normally. -/
theorem commit_eq_some
    {body : Transaction σ ε α} :
    commit body store = some (value, store') ↔
      exec body store = (.ok value, store') := by
  unfold commit
  cases bodyRun : exec body store with
  | mk outcome between =>
      cases outcome <;> simp

end Inversion

end Transaction

end Relational
