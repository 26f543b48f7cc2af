import Crossing.RelationalTable
import Mathlib.Logic.Function.Basic

namespace Relational

/-!
# Row locks under READ COMMITTED

Transactions that write a table statement by statement.  An UPDATE leaves a new
version of a row that only its own transaction sees, and holds the row until
that transaction ends.  Another UPDATE of the row waits and then tests its
condition on the row as it is by then.  A COMMIT publishes the versions of its
transaction, and a rollback drops them.

`Sound` keeps account of which rows a transaction holds and of how each of its
versions follows from the committed row, which nobody else can have changed in
between.  Nothing here depends on what the rows mean.
-/

open Keyed (key)

/-- The versions that running transactions have written, by the row's key. -/
structure Locks (ρ τ : Type) {κ : Type} [Keyed ρ κ] where
  written : κ → Option (τ × ρ)
  keyed : ∀ k t row, written k = some (t, row) → key row = k

namespace Locks

variable {ρ τ κ : Type} [Keyed ρ κ]

/-- No transaction has written anything. -/
def free : Locks ρ τ where
  written _ := none
  keyed _ _ _ held := by cases held

section Statements

variable [DecidableEq τ] [DecidableEq κ]

/-- The version of a row that a transaction has written itself. -/
def own (locks : Locks ρ τ) (t : τ) (k : κ) : Option ρ :=
  match locks.written k with
  | some (holder, row) => if holder = t then some row else none
  | none => none

/-- `SELECT … WHERE key = k`: the own version, else the committed row. -/
def read (locks : Locks ρ τ) (table : Table ρ) (t : τ) (k : κ) : Option ρ :=
  (locks.own t k).or (table.find k)

/-- Write a version of a row. -/
def write (locks : Locks ρ τ) (t : τ) (row : ρ) : Locks ρ τ where
  written := Function.update locks.written (key row) (some (t, row))
  keyed k holder stored held := by
    by_cases same : k = key row
    · subst same
      rw [Function.update_self] at held
      cases held
      rfl
    · rw [Function.update_of_ne same] at held
      exact locks.keyed k holder stored held

/-- What an UPDATE answers. -/
inductive Answer (ρ : Type) where
  | waits
  | missed
  | wrote (old new : ρ)

/--
`UPDATE … WHERE key = k AND guard`.  On a row that another transaction holds it
waits when the committed row matches, and misses when it does not.
-/
def update
    (locks : Locks ρ τ)
    (table : Table ρ)
    (t : τ)
    (k : κ)
    (guard : ρ → Bool)
    (change : ρ → ρ) :
    Answer ρ :=
  match locks.written k with
  | none =>
      match table.find k with
      | some row =>
          if guard row then .wrote row (change row) else .missed
      | none => .missed
  | some (holder, version) =>
      if holder = t then
        if guard version then .wrote version (change version) else .missed
      else if (table.find k).any guard then
        .waits
      else
        .missed

/-- `COMMIT` publishes the versions of the transaction. -/
def publish (locks : Locks ρ τ) (table : Table ρ) (t : τ) : Table ρ where
  rows := table.rows.map fun row => (locks.own t (key row)).getD row
  keysNodup := by
    have sameKeys :
        (table.rows.map fun row => (locks.own t (key row)).getD row).map key =
          table.rows.map key := by
      rw [List.map_map]
      apply List.map_congr_left
      intro row _
      unfold own
      cases held : locks.written (key row) with
      | none => simp [held]
      | some entry =>
          obtain ⟨holder, version⟩ := entry
          by_cases isOwn : holder = t
          · simp [held, isOwn, locks.keyed _ _ _ held]
          · simp [held, isOwn]
    rw [sameKeys]
    exact table.keysNodup

/-- The end of a transaction gives its rows free. -/
def release (locks : Locks ρ τ) (t : τ) : Locks ρ τ where
  written k := (locks.written k).filter fun entry => entry.1 ≠ t
  keyed k holder row held := by
    obtain ⟨isHeld, _⟩ := Option.filter_eq_some_iff.mp held
    exact locks.keyed k holder row isHeld

end Statements

section Reading

variable [DecidableEq τ] {locks : Locks ρ τ} {table : Table ρ} {t : τ} {k : κ}

/-- The own version is the one that the transaction has written. -/
theorem own_eq_some {row : ρ} :
    locks.own t k = some row ↔ locks.written k = some (t, row) := by
  unfold own
  cases held : locks.written k with
  | none => simp
  | some entry =>
      obtain ⟨holder, version⟩ := entry
      by_cases isOwn : holder = t
      · simp [isOwn]
      · simp [isOwn]

/-- Reading finds a row under its own key. -/
theorem key_of_read
    [DecidableEq κ]
    {row : ρ}
    (isRead : locks.read table t k = some row) :
    key row = k := by
  unfold read at isRead
  rcases Option.or_eq_some_iff.mp isRead with isOwn | ⟨_, found⟩
  · exact locks.keyed _ _ _ (own_eq_some.mp isOwn)
  · exact Table.key_of_find found

/-- Reading a list of keys finds no row twice. -/
theorem keys_filterMap_read
    [DecidableEq κ]
    (locks : Locks ρ τ)
    (table : Table ρ)
    (t : τ)
    (ks : List κ) :
    ((ks.filterMap (locks.read table t)).map key).Sublist ks := by
  induction ks with
  | nil => exact .refl _
  | cons head rest inductionHypothesis =>
      cases isRead : locks.read table t head with
      | none =>
          rw [List.filterMap_cons_none isRead]
          exact inductionHypothesis.cons head
      | some row =>
          rw [List.filterMap_cons_some isRead, List.map_cons,
            key_of_read isRead]
          exact inductionHypothesis.cons_cons head

/-- What is held after the end of a transaction. -/
theorem written_release {holder : τ} {row : ρ} :
    (locks.release t).written k = some (holder, row) ↔
      locks.written k = some (holder, row) ∧ holder ≠ t := by
  simp [release, Option.filter_eq_some_iff]

variable [DecidableEq κ]

/-- An UPDATE that writes found the row free, or held by itself. -/
theorem update_wrote
    {guard : ρ → Bool}
    {change : ρ → ρ}
    {old new : ρ}
    (answered : locks.update table t k guard change = .wrote old new) :
    guard old = true ∧ new = change old ∧
      (locks.written k = none ∧ table.find k = some old ∨
        locks.written k = some (t, old)) := by
  unfold update at answered
  cases held : locks.written k with
  | none =>
      rw [held] at answered
      cases found : table.find k with
      | none => simp [found] at answered
      | some row =>
          by_cases passes : guard row = true
          · simp only [found, passes, ↓reduceIte, Answer.wrote.injEq]
              at answered
            obtain ⟨rfl, rfl⟩ := answered
            exact ⟨passes, rfl, .inl ⟨rfl, rfl⟩⟩
          · simp [found, passes] at answered
  | some entry =>
      obtain ⟨holder, version⟩ := entry
      rw [held] at answered
      by_cases isOwn : holder = t
      · subst isOwn
        by_cases passes : guard version = true
        · simp only [passes, ↓reduceIte, Answer.wrote.injEq] at answered
          obtain ⟨rfl, rfl⟩ := answered
          exact ⟨passes, rfl, .inr rfl⟩
        · simp [passes] at answered
      · simp only [isOwn, ↓reduceIte] at answered
        split at answered <;> cases answered

/-- An UPDATE of a free row that matches writes it. -/
theorem update_of_free
    {guard : ρ → Bool}
    {change : ρ → ρ}
    {row : ρ}
    (isFree : locks.written k = none)
    (found : table.find k = some row)
    (passes : guard row = true) :
    locks.update table t k guard change = .wrote row (change row) := by
  simp [update, isFree, found, passes]

/-- Lookup after a commit. -/
theorem find_publish :
    (locks.publish table t).find k =
      (table.find k).map fun row => (locks.own t k).getD row := by
  obtain ⟨rows, keysNodup⟩ := table
  simp only [Table.find, publish]
  clear keysNodup
  induction rows with
  | nil => rfl
  | cons head rest inductionHypothesis =>
      have headKey : key ((locks.own t (key head)).getD head) = key head := by
        cases version : locks.own t (key head) with
        | none => rfl
        | some row => exact locks.keyed _ _ _ (own_eq_some.mp version)
      simp only [List.map_cons, List.find?_cons, headKey]
      by_cases isKey : key head = k
      · simp [isKey]
      · simpa [isKey] using inductionHypothesis

end Reading

/-! ## Which rows are held, and why -/

/-- The versions after a write. -/
theorem written_write
    [DecidableEq κ]
    (locks : Locks ρ τ)
    (t : τ)
    (row : ρ) :
    (locks.write t row).written =
      Function.update locks.written (key row) (some (t, row)) :=
  rfl

/--
Transaction `t` holds exactly the rows `held t`, and each version it has
written is related by `why t` to the committed row.
-/
structure Sound
    [DecidableEq κ]
    (locks : Locks ρ τ)
    (table : Table ρ)
    (held : τ → List κ)
    (why : τ → ρ → ρ → Prop) :
    Prop where
  holds :
    ∀ t k, k ∈ held t ↔ ∃ row, locks.written k = some (t, row)
  justified :
    ∀ k t row, locks.written k = some (t, row) →
      ∃ old, table.find k = some old ∧ why t old row

namespace Sound

variable
  [DecidableEq κ]
  {locks : Locks ρ τ}
  {table : Table ρ}
  {held held' : τ → List κ}
  {why why' : τ → ρ → ρ → Prop}

/-- Before the first write nothing is held. -/
theorem free
    (idle : ∀ t, held t = []) :
    Sound (Locks.free : Locks ρ τ) table held why where
  holds t k := by simp [idle, Locks.free]
  justified k t row isHeld := by cases isHeld

/-- A row that no transaction holds is free. -/
theorem written_eq_none
    {k : κ}
    (sound : Sound locks table held why)
    (unheld : ∀ t, k ∉ held t) :
    locks.written k = none := by
  rw [Option.eq_none_iff_forall_not_mem]
  rintro ⟨t, row⟩ isHeld
  exact unheld t ((sound.holds t k).mpr ⟨row, isHeld⟩)

/-- One row is held by at most one transaction. -/
theorem holder_unique
    {t t' : τ}
    {k : κ}
    (sound : Sound locks table held why)
    (first : k ∈ held t)
    (second : k ∈ held t') :
    t = t' := by
  obtain ⟨row, isHeld⟩ := (sound.holds t k).mp first
  obtain ⟨row', isHeld'⟩ := (sound.holds t' k).mp second
  cases isHeld.symm.trans isHeld'
  rfl

/-- The reasons for held rows may be restated. -/
theorem mono
    (sound : Sound locks table held why)
    (same : ∀ t k, k ∈ held' t ↔ k ∈ held t)
    (implies :
      ∀ t k old new, k ∈ held t → why t old new → why' t old new) :
    Sound locks table held' why' where
  holds t k := (same t k).trans (sound.holds t k)
  justified k t row isHeld := by
    obtain ⟨old, found, because⟩ := sound.justified k t row isHeld
    have member := (sound.holds t k).mpr ⟨row, isHeld⟩
    exact ⟨old, found, implies t k old row member because⟩

/-- Rows that are added are not held. -/
theorem extend
    {table' : Table ρ}
    (sound : Sound locks table held why)
    (keeps :
      ∀ k row, table.find k = some row → table'.find k = some row) :
    Sound locks table' held why where
  holds := sound.holds
  justified k t row isHeld := by
    obtain ⟨old, found, because⟩ := sound.justified k t row isHeld
    exact ⟨old, keeps k old found, because⟩

variable [DecidableEq τ]

/-- An UPDATE of a row that its transaction does not hold yet finds it free. -/
theorem update_found
    {t : τ}
    {k : κ}
    {guard : ρ → Bool}
    {change : ρ → ρ}
    {old new : ρ}
    (sound : Sound locks table held why)
    (answered : locks.update table t k guard change = .wrote old new)
    (notHeld : k ∉ held t) :
    locks.written k = none ∧ table.find k = some old ∧ guard old = true := by
  obtain ⟨passes, _, place⟩ := update_wrote answered
  rcases place with ⟨isFree, found⟩ | isOwn
  · exact ⟨isFree, found, passes⟩
  · exact (notHeld ((sound.holds t k).mpr ⟨old, isOwn⟩)).elim

/-- An UPDATE of a row that its transaction does not hold yet. -/
theorem write
    {t : τ}
    {k : κ}
    {guard : ρ → Bool}
    {change : ρ → ρ}
    {old new : ρ}
    (sound : Sound locks table held why)
    (answered : locks.update table t k guard change = .wrote old new)
    (keepsKey : ∀ row, key (change row) = key row)
    (notHeld : k ∉ held t)
    (grows :
      ∀ t' k', k' ∈ held' t' ↔ k' ∈ held t' ∨ t' = t ∧ k' = k)
    (because :
      table.find k = some old → guard old = true →
        why' t old (change old))
    (implies :
      ∀ t' k' old new, k' ∈ held t' → why t' old new → why' t' old new) :
    table.find k = some old ∧
      Sound (locks.write t new) table held' why' := by
  obtain ⟨isFree, found, passes⟩ := sound.update_found answered notHeld
  have isNew : new = change old := (update_wrote answered).2.1
  have newKey : key new = k := by
    rw [isNew, keepsKey, Table.key_of_find found]
  refine ⟨found, ?_, ?_⟩
  · intro t' k'
    rw [grows, written_write, newKey]
    by_cases same : k' = k
    · subst same
      rw [Function.update_self, sound.holds, isFree]
      constructor
      · rintro (⟨_, impossible⟩ | ⟨rfl, _⟩)
        · cases impossible
        · exact ⟨new, rfl⟩
      · rintro ⟨row, isHeld⟩
        cases isHeld
        exact .inr ⟨rfl, rfl⟩
    · rw [Function.update_of_ne same, sound.holds]
      simp [same]
  · intro k' t' row isHeld
    rw [written_write, newKey] at isHeld
    by_cases same : k' = k
    · subst same
      rw [Function.update_self] at isHeld
      cases isHeld
      exact ⟨old, found, isNew ▸ because found passes⟩
    · rw [Function.update_of_ne same] at isHeld
      obtain ⟨before, isBefore, reason⟩ := sound.justified k' t' row isHeld
      have member := (sound.holds t' k').mpr ⟨row, isHeld⟩
      exact ⟨before, isBefore, implies t' k' before row member reason⟩

/-- A rollback gives the rows of its transaction free. -/
theorem rollback
    {t : τ}
    (sound : Sound locks table held why)
    (ended : held' t = [])
    (others : ∀ t', t' ≠ t → held' t' = held t')
    (implies :
      ∀ t' old new, t' ≠ t → why t' old new → why' t' old new) :
    Sound (locks.release t) table held' why' where
  holds t' k := by
    by_cases isEnded : t' = t
    · subst isEnded
      simp [ended, written_release]
    · rw [others t' isEnded, sound.holds]
      simp [written_release, isEnded]
  justified k t' row isHeld := by
    obtain ⟨wasHeld, other⟩ := written_release.mp isHeld
    obtain ⟨old, found, because⟩ := sound.justified k t' row wasHeld
    exact ⟨old, found, implies t' old row other because⟩

/-- A commit leaves the rows of other transactions as they justified them. -/
theorem commit
    {t : τ}
    (sound : Sound locks table held why)
    (ended : held' t = [])
    (others : ∀ t', t' ≠ t → held' t' = held t')
    (implies :
      ∀ t' old new, t' ≠ t → why t' old new → why' t' old new) :
    Sound (locks.release t) (locks.publish table t) held' why' where
  holds := (sound.rollback ended others implies).holds
  justified k t' row isHeld := by
    obtain ⟨wasHeld, other⟩ := written_release.mp isHeld
    obtain ⟨old, found, because⟩ := sound.justified k t' row wasHeld
    refine ⟨old, ?_, implies t' old row other because⟩
    have notOwn : locks.own t k = none := by
      rw [Option.eq_none_iff_forall_not_mem]
      intro version isOwn
      have isHeldByT := own_eq_some.mp isOwn
      cases wasHeld.symm.trans isHeldByT
      exact other rfl
    rw [find_publish, found, notOwn]
    rfl

/-- A commit changes exactly the rows that its transaction holds. -/
theorem published
    {t : τ}
    {k : κ}
    {old : ρ}
    (sound : Sound locks table held why)
    (found : table.find k = some old) :
    (k ∉ held t ∧ (locks.publish table t).find k = some old) ∨
      (k ∈ held t ∧
        ∃ new, why t old new ∧
          (locks.publish table t).find k = some new) := by
  cases version : locks.own t k with
  | none =>
      left
      constructor
      · intro isHeld
        obtain ⟨row, written⟩ := (sound.holds t k).mp isHeld
        rw [own_eq_some.mpr written] at version
        cases version
      · rw [find_publish, found, version]
        rfl
  | some new =>
      right
      have written := own_eq_some.mp version
      obtain ⟨before, isBefore, because⟩ := sound.justified k t new written
      cases isBefore.symm.trans found
      refine ⟨(sound.holds t k).mpr ⟨new, written⟩, new, because, ?_⟩
      rw [find_publish, found, version]
      rfl

end Sound

end Locks

end Relational
