import Crossing.RelationalTransaction

namespace Relational

/-!
# Bodies that return

`Returns` is the triple of total correctness for a body on one store: the body
returns normally, and its value and the store it leaves satisfy a
postcondition.  There is one rule for each combinator.
-/

namespace Transaction

variable {σ ε ε' α β : Type}

/-- On this store the body returns a value and a store that satisfy `post`. -/
def Returns
    (body : Transaction σ ε α)
    (store : σ)
    (post : α → σ → Prop) :
    Prop :=
  ∃ value store', exec body store = (.ok value, store') ∧ post value store'

namespace Returns

variable {store : σ} {post : α → σ → Prop}

/-- `pure` returns its argument and keeps the store. -/
theorem pure
    {value : α}
    (holds : post value store) :
    Returns (pure value : Transaction σ ε α) store post :=
  ⟨value, store, rfl, holds⟩

/-- A read returns the store. -/
theorem get
    {post : σ → σ → Prop}
    (holds : post store store) :
    Returns (get : Transaction σ ε σ) store post :=
  ⟨store, store, rfl, holds⟩

/-- A write leaves the store it is given. -/
theorem set
    {store' : σ}
    {post : PUnit → σ → Prop}
    (holds : post ⟨⟩ store') :
    Returns (set store' : Transaction σ ε PUnit) store post :=
  ⟨⟨⟩, store', rfl, holds⟩

/-- A change leaves the changed store. -/
theorem modify
    {change : σ → σ}
    {post : PUnit → σ → Prop}
    (holds : post ⟨⟩ (change store)) :
    Returns (modify change : Transaction σ ε PUnit) store post :=
  ⟨⟨⟩, change store, rfl, holds⟩

/-- A sequence returns when its second part does wherever the first ends. -/
theorem bind
    {first : Transaction σ ε α}
    {next : α → Transaction σ ε β}
    {post : β → σ → Prop}
    (returns :
      Returns first store fun value store' =>
        Returns (next value) store' post) :
    Returns (first >>= next) store post := by
  obtain ⟨value, store', ran, result, store'', nextRan, holds⟩ := returns
  refine ⟨result, store'', ?_, holds⟩
  rw [exec_bind, ran]
  exact nextRan

/-- A mapped body returns the image of what the body returns. -/
theorem map
    {change : α → β}
    {body : Transaction σ ε α}
    {post : β → σ → Prop}
    (returns :
      Returns body store fun value store' => post (change value) store') :
    Returns (change <$> body) store post := by
  obtain ⟨value, store', ran, holds⟩ := returns
  refine ⟨change value, store', ?_, holds⟩
  rw [exec_map, ran]

/-- A check that passes keeps the store. -/
theorem raiseWhen
    {failed : Prop}
    [Decidable failed]
    {exception : ε}
    {post : Unit → σ → Prop}
    (passes : ¬ failed)
    (holds : post () store) :
    Returns (raiseWhen failed exception : Transaction σ ε Unit) store
      post := by
  refine ⟨(), store, ?_, holds⟩
  rw [exec_raiseWhen, if_neg passes]

/-- A value that is present is returned. -/
theorem orRaise
    {exception : ε}
    {found : Option α}
    {value : α}
    (present : found = some value)
    (holds : post value store) :
    Returns (orRaise exception found : Transaction σ ε α) store post := by
  subst present
  exact ⟨value, store, rfl, holds⟩

/-- A pure check that succeeds keeps the store. -/
theorem ofExcept
    {raise : ε' → ε}
    {checked : Except ε' α}
    {value : α}
    (succeeds : checked = .ok value)
    (holds : post value store) :
    Returns (ofExcept raise checked : Transaction σ ε α) store post := by
  subst succeeds
  exact ⟨value, store, rfl, holds⟩

/-- A guarded savepoint whose body returns does not use its handler. -/
theorem tryCatch_savepoint
    {body : Transaction σ ε α}
    {handler : ε → Transaction σ ε α}
    (returns : Returns body store post) :
    Returns (tryCatch (savepoint body) handler) store post := by
  obtain ⟨value, store', ran, holds⟩ := returns
  refine ⟨value, store', ?_, holds⟩
  rw [exec_tryCatch, exec_savepoint, ran]

end Returns

end Transaction

end Relational
