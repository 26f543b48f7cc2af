import Mathlib.Algebra.BigOperators.Group.Finset.Piecewise
import Mathlib.Algebra.BigOperators.Group.List.Basic
import Mathlib.Data.List.Nodup
import Mathlib.Tactic.Abel

namespace Relational

/-!
# Tables with a unique key

A table is a list of rows in insertion order together with the proof that no
two rows share their key, so a duplicate key cannot be stored.  Reading is by
key.  Writing is by the three statements a relational store offers on one row:
a guarded insert, a conditional update returning the new row, and a delete.

The second half relates sums and counts over the rows that satisfy a condition
to those statements.  Nothing here depends on what the rows mean.
-/

/-- Rows of type `ρ` are identified by a key of type `κ`. -/
class Keyed (ρ : Type) (κ : outParam Type) where
  key : ρ → κ

open Keyed (key)

/-- Rows without a repeated key, oldest first. -/
structure Table (ρ : Type) {κ : Type} [Keyed ρ κ] where
  rows : List ρ
  keysNodup : (rows.map key).Nodup

namespace Table

variable {ρ κ : Type} [Keyed ρ κ]

/-- The table without rows. -/
def empty : Table ρ where
  rows := []
  keysNodup := List.nodup_nil

instance : Inhabited (Table ρ) := ⟨empty⟩

section Statements

variable [DecidableEq κ]

/-- `SELECT … WHERE key = k`. -/
def find (table : Table ρ) (k : κ) : Option ρ :=
  table.rows.find? fun row => key row = k

/-- Replace the row that has the key of `row`; without one nothing changes. -/
def put (table : Table ρ) (row : ρ) : Table ρ where
  rows := table.rows.map fun old => if key old = key row then row else old
  keysNodup := by
    have sameKeys :
        (table.rows.map fun old =>
          if key old = key row then row else old).map key =
          table.rows.map key := by
      rw [List.map_map]
      apply List.map_congr_left
      intro old _
      by_cases same : key old = key row <;> simp [same]
    rw [sameKeys]
    exact table.keysNodup

/-- `INSERT`, refused when the key is taken. -/
def insert? (table : Table ρ) (row : ρ) : Option (Table ρ) :=
  if taken : key row ∈ table.rows.map key then
    none
  else
    some {
      rows := table.rows ++ [row]
      keysNodup := by
        rw [List.map_append, List.map_singleton]
        exact table.keysNodup.append (List.nodup_singleton _)
          (by simpa using taken)
    }

/--
`UPDATE … WHERE key = k AND guard RETURNING row`.  It answers nothing when no
row matches.
-/
def update?
    (table : Table ρ)
    (k : κ)
    (guard : ρ → Bool)
    (change : ρ → ρ) :
    Option (ρ × Table ρ) :=
  match table.find k with
  | some row =>
      if guard row then
        some (change row, table.put (change row))
      else
        none
  | none => none

/-- `UPDATE … WHERE key = k`, on the row itself. -/
def modify (table : Table ρ) (k : κ) (change : ρ → ρ) : Table ρ :=
  match table.find k with
  | some row => table.put (change row)
  | none => table

/-- `DELETE … WHERE key = k`. -/
def erase (table : Table ρ) (k : κ) : Table ρ where
  rows := table.rows.filter fun row => key row ≠ k
  keysNodup := table.keysNodup.sublist (List.filter_sublist.map key)

end Statements

/-- The rows that satisfy a condition, as a table. -/
def restrict (table : Table ρ) (keeps : ρ → Bool) : Table ρ where
  rows := table.rows.filter keeps
  keysNodup := table.keysNodup.sublist (List.filter_sublist.map key)

/-- The sum of `weight` over the rows that satisfy `condition`. -/
def sumWhere
    {M : Type}
    [AddCommMonoid M]
    (table : Table ρ)
    (condition : ρ → Bool)
    (weight : ρ → M) :
    M :=
  ((table.rows.filter condition).map weight).sum

/-- The number of rows that satisfy `condition`. -/
def countWhere (table : Table ρ) (condition : ρ → Bool) : Nat :=
  (table.rows.filter condition).length

/-! ## Reading -/

section Reading

variable [DecidableEq κ]

/-- A row found under a key has that key. -/
theorem key_of_find
    {table : Table ρ}
    {k : κ}
    {row : ρ}
    (found : table.find k = some row) :
    key row = k := by
  simpa using List.find?_some found

/-- A row that is found is stored. -/
theorem mem_of_find
    {table : Table ρ}
    {k : κ}
    {row : ρ}
    (found : table.find k = some row) :
    row ∈ table.rows :=
  List.mem_of_find?_eq_some found

/-- Every stored row is the one found under its own key. -/
theorem find_of_mem
    {table : Table ρ}
    {row : ρ}
    (member : row ∈ table.rows) :
    table.find (key row) = some row := by
  obtain ⟨rows, keysNodup⟩ := table
  simp only [find] at member ⊢
  induction rows with
  | nil =>
      simp at member
  | cons head rest inductionHypothesis =>
      obtain ⟨headFresh, restNodup⟩ := List.nodup_cons.mp keysNodup
      rcases List.mem_cons.mp member with isHead | inRest
      · subst isHead
        simp
      · have different : key head ≠ key row := by
          intro same
          exact headFresh (same ▸ List.mem_map_of_mem inRest)
        simp [different, inductionHypothesis restNodup inRest]

/-- Two stored rows with one key are the same row. -/
theorem eq_of_key_eq
    {table : Table ρ}
    {first second : ρ}
    (firstMember : first ∈ table.rows)
    (secondMember : second ∈ table.rows)
    (sameKey : key first = key second) :
    first = second := by
  have firstFound := find_of_mem firstMember
  rw [sameKey, find_of_mem secondMember] at firstFound
  exact (Option.some.inj firstFound).symm

/-- A key is absent exactly when no row has it. -/
theorem find_eq_none_iff
    {table : Table ρ}
    {k : κ} :
    table.find k = none ↔ ∀ row ∈ table.rows, key row ≠ k := by
  simp [find]

@[simp] theorem find_empty (k : κ) :
    (empty : Table ρ).find k = none :=
  rfl

/-- A lookup among the rows that satisfy a condition. -/
theorem find_restrict
    (table : Table ρ)
    (keeps : ρ → Bool)
    (k : κ) :
    (table.restrict keeps).find k = (table.find k).filter keeps := by
  refine Option.ext fun row => ?_
  rw [Option.filter_eq_some_iff]
  constructor
  · intro found
    obtain ⟨stored, kept⟩ := List.mem_filter.mp (mem_of_find found)
    exact ⟨key_of_find found ▸ find_of_mem stored, kept⟩
  · rintro ⟨found, kept⟩
    have member : row ∈ (table.restrict keeps).rows :=
      List.mem_filter.mpr ⟨mem_of_find found, kept⟩
    exact key_of_find found ▸ find_of_mem member

end Reading

@[simp] theorem rows_empty : (empty : Table ρ).rows = [] :=
  rfl

@[simp] theorem sumWhere_empty
    {M : Type}
    [AddCommMonoid M]
    (condition : ρ → Bool)
    (weight : ρ → M) :
    (empty : Table ρ).sumWhere condition weight = 0 :=
  rfl

@[simp] theorem countWhere_empty (condition : ρ → Bool) :
    (empty : Table ρ).countWhere condition = 0 :=
  rfl

/-! ## Writing -/

section Writing

variable [DecidableEq κ]

/-- After `put`, the key of the new row leads to it and no other key moves. -/
theorem find_put
    (table : Table ρ)
    (row : ρ)
    (k : κ) :
    (table.put row).find k =
      if key row = k then
        (table.find k).map fun _ => row
      else
        table.find k := by
  obtain ⟨rows, keysNodup⟩ := table
  simp only [find, put]
  clear keysNodup
  induction rows with
  | nil =>
      simp
  | cons head rest inductionHypothesis =>
      simp only [List.map_cons, List.find?_cons]
      by_cases headIsRow : key head = key row
      · by_cases rowIsKey : key row = k
        · simp [headIsRow, rowIsKey]
        · simp [headIsRow, rowIsKey] at inductionHypothesis ⊢
          exact inductionHypothesis
      · by_cases rowIsKey : key row = k
        · have headNotKey : key head ≠ k := rowIsKey ▸ headIsRow
          simp [rowIsKey, headNotKey] at inductionHypothesis ⊢
          exact inductionHypothesis
        · by_cases headIsKey : key head = k
          · have keyNotRow : k ≠ key row := headIsKey ▸ headIsRow
            simp [headIsKey, rowIsKey, keyNotRow]
          · simp [headIsRow, rowIsKey, headIsKey] at inductionHypothesis ⊢
            exact inductionHypothesis

/-- `put` on a stored key is found under that key. -/
theorem find_put_self
    {table : Table ρ}
    {row old : ρ}
    (found : table.find (key row) = some old) :
    (table.put row).find (key row) = some row := by
  simp [find_put, found]

/-- `put` leaves every other key alone. -/
theorem find_put_of_ne
    {table : Table ρ}
    {row : ρ}
    {k : κ}
    (different : key row ≠ k) :
    (table.put row).find k = table.find k := by
  simp [find_put, different]

/-- `put` adds no key. -/
theorem find_put_none
    {table : Table ρ}
    {k : κ}
    (row : ρ)
    (free : table.find k = none) :
    (table.put row).find k = none := by
  simp [find_put, free]

/-- A row stored after `put` is the new row or an old row with another key. -/
theorem mem_put
    {table : Table ρ}
    {row stored : ρ}
    (member : stored ∈ (table.put row).rows) :
    stored = row ∨ stored ∈ table.rows ∧ key stored ≠ key row := by
  obtain ⟨old, oldMember, shape⟩ := List.mem_map.mp member
  by_cases same : key old = key row
  · left
    simpa [same] using shape.symm
  · right
    simp only [same, ↓reduceIte] at shape
    subst shape
    exact ⟨oldMember, same⟩

/-- A stored row with another key is stored after `put`. -/
theorem mem_put_of_ne
    {table : Table ρ}
    {row stored : ρ}
    (member : stored ∈ table.rows)
    (different : key stored ≠ key row) :
    stored ∈ (table.put row).rows := by
  apply mem_of_find
  rw [find_put_of_ne (Ne.symm different)]
  exact find_of_mem member

/-- `put` of a row whose key is stored adds no key. -/
theorem find_of_mem_put
    {table : Table ρ}
    {row old stored : ρ}
    (member : stored ∈ (table.put row).rows)
    (found : table.find (key row) = some old) :
    ∃ before, table.find (key stored) = some before := by
  rcases mem_put member with rfl | ⟨inOld, _⟩
  · exact ⟨old, found⟩
  · exact ⟨stored, find_of_mem inOld⟩

/-- What the new row shares with the old one, the table keeps. -/
theorem map_put
    {α : Type}
    {column : ρ → α}
    {table : Table ρ}
    {row old : ρ}
    (found : table.find (key row) = some old)
    (same : column row = column old) :
    (table.put row).rows.map column = table.rows.map column := by
  simp only [put, List.map_map]
  apply List.map_congr_left
  intro stored member
  by_cases isRow : key stored = key row
  · have isOld : stored = old := by
      have storedFound := find_of_mem member
      rw [isRow, found] at storedFound
      exact (Option.some.inj storedFound).symm
    subst isOld
    simp [isRow, same]
  · simp [isRow]

/-- A change that keeps a column of every row keeps it in the table. -/
theorem map_modify
    {α : Type}
    {column : ρ → α}
    {change : ρ → ρ}
    (keepsKey : ∀ row, key (change row) = key row)
    (keeps : ∀ row, column (change row) = column row)
    (table : Table ρ)
    (k : κ) :
    (table.modify k change).rows.map column = table.rows.map column := by
  unfold modify
  cases found : table.find k with
  | none => rfl
  | some old =>
      have stored : table.find (key (change old)) = some old := by
        rw [keepsKey, key_of_find found, found]
      exact map_put stored (keeps old)

/-- An accepted insert had a fresh key and appends the row. -/
theorem insert?_eq_some
    {table inserted : Table ρ}
    {row : ρ}
    (accepted : table.insert? row = some inserted) :
    table.find (key row) = none ∧
      inserted.rows = table.rows ++ [row] := by
  unfold insert? at accepted
  by_cases taken : key row ∈ table.rows.map key
  · simp [taken] at accepted
  · simp only [taken, ↓reduceDIte, Option.some.injEq] at accepted
    subst accepted
    refine ⟨?_, rfl⟩
    rw [find_eq_none_iff]
    intro stored member same
    exact taken (same ▸ List.mem_map_of_mem member)

/-- A fresh key is accepted. -/
theorem insert?_of_fresh
    {table : Table ρ}
    {row : ρ}
    (fresh : table.find (key row) = none) :
    ∃ inserted, table.insert? row = some inserted := by
  have absent : key row ∉ table.rows.map key := by
    intro member
    obtain ⟨stored, storedMember, same⟩ := List.mem_map.mp member
    exact find_eq_none_iff.mp fresh stored storedMember same
  unfold insert?
  simp [absent]

/-- An insert is refused exactly when the key is taken. -/
theorem insert?_eq_none
    {table : Table ρ}
    {row : ρ} :
    table.insert? row = none ↔ (table.find (key row)).isSome = true := by
  constructor
  · intro refused
    cases found : table.find (key row) with
    | some _ => rfl
    | none =>
        obtain ⟨inserted, accepted⟩ := insert?_of_fresh found
        rw [refused] at accepted
        cases accepted
  · intro taken
    cases accepted : table.insert? row with
    | none => rfl
    | some inserted =>
        rw [(insert?_eq_some accepted).1] at taken
        cases taken

/-- Lookup after an accepted insert. -/
theorem find_insert
    {table inserted : Table ρ}
    {row : ρ}
    (accepted : table.insert? row = some inserted)
    (k : κ) :
    inserted.find k = if key row = k then some row else table.find k := by
  obtain ⟨fresh, shape⟩ := insert?_eq_some accepted
  simp only [find, shape, List.find?_append]
  by_cases same : key row = k
  · subst same
    have absent : table.rows.find? (fun old => key old = key row) = none :=
      fresh
    simp [absent]
  · simp [same]

/-- An accepted insert leaves every other key alone. -/
theorem find_insert_of_ne
    {table inserted : Table ρ}
    {row : ρ}
    {k : κ}
    (accepted : table.insert? row = some inserted)
    (different : key row ≠ k) :
    inserted.find k = table.find k := by
  rw [find_insert accepted, if_neg different]

/-- Rows after an accepted insert. -/
theorem mem_insert
    {table inserted : Table ρ}
    {row stored : ρ}
    (accepted : table.insert? row = some inserted) :
    stored ∈ inserted.rows ↔ stored ∈ table.rows ∨ stored = row := by
  simp [(insert?_eq_some accepted).2]

/-- Keys found before an accepted insert are found after it. -/
theorem find_insert_of_some
    {table inserted : Table ρ}
    {row stored : ρ}
    {k : κ}
    (accepted : table.insert? row = some inserted)
    (found : table.find k = some stored) :
    inserted.find k = some stored := by
  have different : key row ≠ k := by
    intro same
    rw [← same, (insert?_eq_some accepted).1] at found
    cases found
  rw [find_insert accepted, if_neg different, found]

/-- The conditional update answers exactly when a matching row exists. -/
theorem update?_eq_some
    {table updated : Table ρ}
    {k : κ}
    {guard : ρ → Bool}
    {change : ρ → ρ}
    {row : ρ}
    (answered : table.update? k guard change = some (row, updated)) :
    ∃ old,
      table.find k = some old ∧
        guard old = true ∧
        row = change old ∧
        updated = table.put (change old) := by
  unfold update? at answered
  cases found : table.find k with
  | none =>
      simp [found] at answered
  | some old =>
      by_cases passes : guard old = true
      · simp only [found, passes, ↓reduceIte, Option.some.injEq,
          Prod.mk.injEq] at answered
        exact ⟨old, rfl, passes, answered.1.symm, answered.2.symm⟩
      · simp [found, passes] at answered

/-- `modify` on a stored key is `put`. -/
theorem modify_of_find
    {table : Table ρ}
    {k : κ}
    {change : ρ → ρ}
    {old : ρ}
    (found : table.find k = some old) :
    table.modify k change = table.put (change old) := by
  simp [modify, found]

/-- Lookup after `modify`. -/
theorem find_modify
    {change : ρ → ρ}
    (keepsKey : ∀ row, key (change row) = key row)
    (table : Table ρ)
    (k k' : κ) :
    (table.modify k change).find k' =
      if k = k' then (table.find k').map change else table.find k' := by
  cases found : table.find k with
  | none =>
      by_cases same : k = k'
      · subst same
        simp [modify, found]
      · simp [modify, found, same]
  | some old =>
      have isKey : key (change old) = k := by
        rw [keepsKey, key_of_find found]
      rw [modify_of_find found, find_put]
      by_cases same : k = k'
      · subst same
        simp [isKey, found]
      · simp [isKey, same]

/-- A row stored after `modify` was stored before, or is one that changed. -/
theorem mem_modify
    {table : Table ρ}
    {change : ρ → ρ}
    {k : κ}
    {stored : ρ}
    (member : stored ∈ (table.modify k change).rows) :
    stored ∈ table.rows ∨ ∃ old ∈ table.rows, stored = change old := by
  cases found : table.find k with
  | none =>
      simp only [modify, found] at member
      exact .inl member
  | some old =>
      rw [modify_of_find found] at member
      rcases mem_put member with isNew | ⟨inOld, _⟩
      · exact .inr ⟨old, mem_of_find found, isNew⟩
      · exact .inl inOld

/-- `modify` adds no key. -/
theorem find_of_mem_modify
    {table : Table ρ}
    {change : ρ → ρ}
    {k : κ}
    {stored : ρ}
    (member : stored ∈ (table.modify k change).rows)
    (keepsKey : ∀ row, key (change row) = key row) :
    ∃ before, table.find (key stored) = some before := by
  cases found : table.find k with
  | none =>
      simp only [modify, found] at member
      exact ⟨stored, find_of_mem member⟩
  | some old =>
      rw [modify_of_find found] at member
      have stillFound : table.find (key (change old)) = some old := by
        rw [keepsKey, key_of_find found, found]
      exact find_of_mem_put member stillFound

/-- Lookup after a delete. -/
theorem find_erase
    (table : Table ρ)
    (k k' : κ) :
    (table.erase k).find k' = if k' = k then none else table.find k' := by
  simp only [find, erase, List.find?_filter]
  by_cases same : k' = k
  · subst same
    simp
  · simp only [same, ↓reduceIte]
    congr 1
    funext row
    by_cases rowKey : key row = k'
    · simp [rowKey, same]
    · simp [rowKey]

end Writing

/-! ## Sums and counts over the rows -/

section Sums

variable {M : Type} [AddCommMonoid M]

/-- The contribution of one row to `sumWhere`. -/
def share (condition : ρ → Bool) (weight : ρ → M) (row : ρ) : M :=
  if condition row then weight row else 0

/-- A filtered sum adds the share of every row. -/
theorem sumWhere_eq_sum_share
    (table : Table ρ)
    (condition : ρ → Bool)
    (weight : ρ → M) :
    table.sumWhere condition weight =
      (table.rows.map (share condition weight)).sum := by
  unfold sumWhere
  induction table.rows with
  | nil =>
      rfl
  | cons head rest inductionHypothesis =>
      by_cases passes : condition head = true <;>
        simp [share, passes, inductionHypothesis]

/-- A count is the sum of ones. -/
theorem countWhere_eq_sumWhere
    (table : Table ρ)
    (condition : ρ → Bool) :
    table.countWhere condition = table.sumWhere condition fun _ => 1 := by
  simp [countWhere, sumWhere]

/-- A count is positive exactly when some row satisfies the condition. -/
theorem countWhere_eq_zero_iff
    (table : Table ρ)
    (condition : ρ → Bool) :
    table.countWhere condition = 0 ↔
      ∀ row ∈ table.rows, condition row = false := by
  simp [countWhere, List.filter_eq_nil_iff]

/-- A count that is not zero has a row. -/
theorem exists_of_countWhere_ne_zero
    {table : Table ρ}
    {condition : ρ → Bool}
    (some_ : table.countWhere condition ≠ 0) :
    ∃ row ∈ table.rows, condition row = true := by
  have nonempty : table.rows.filter condition ≠ [] := by
    intro empty
    exact some_ (congrArg List.length empty)
  obtain ⟨row, inFilter⟩ := List.exists_mem_of_ne_nil _ nonempty
  exact ⟨row, List.mem_filter.mp inFilter⟩

/-- Two rows that satisfy a condition with a count of one are the same row. -/
theorem eq_of_countWhere_eq_one
    {table : Table ρ}
    {condition : ρ → Bool}
    {first second : ρ}
    (one : table.countWhere condition = 1)
    (firstMember : first ∈ table.rows)
    (firstPasses : condition first = true)
    (secondMember : second ∈ table.rows)
    (secondPasses : condition second = true) :
    first = second := by
  obtain ⟨only, shape⟩ := List.length_eq_one_iff.mp one
  have isOnly {row : ρ} (member : row ∈ table.rows)
      (passes : condition row = true) :
      row = only := by
    have inFilter : row ∈ table.rows.filter condition :=
      List.mem_filter.mpr ⟨member, passes⟩
    rw [shape] at inFilter
    exact List.mem_singleton.mp inFilter
  rw [isOnly firstMember firstPasses, isOnly secondMember secondPasses]

/-- A key is stored once or not at all. -/
theorem countWhere_key
    [DecidableEq κ]
    (table : Table ρ)
    (k : κ) :
    table.countWhere (fun row => key row = k) =
      if (table.find k).isSome = true then 1 else 0 := by
  obtain ⟨rows, keysNodup⟩ := table
  simp only [countWhere, find]
  induction rows with
  | nil => rfl
  | cons head rest inductionHypothesis =>
      obtain ⟨headFresh, restNodup⟩ := List.nodup_cons.mp keysNodup
      by_cases isHead : key head = k
      · -- The rest does not hold the key of the head.
        have restEmpty : rest.filter (fun row => key row = k) = [] := by
          rw [List.filter_eq_nil_iff]
          intro row member
          have different : key row ≠ k := by
            rw [← isHead]
            intro same
            exact headFresh (same ▸ List.mem_map_of_mem member)
          simp [different]
        simp [isHead, restEmpty]
      · simpa [isHead] using inductionHypothesis restNodup

/-- Conditions that agree on the rows give one count. -/
theorem countWhere_congr
    {table : Table ρ}
    {condition condition' : ρ → Bool}
    (same : ∀ row ∈ table.rows, condition row = condition' row) :
    table.countWhere condition = table.countWhere condition' := by
  unfold countWhere
  rw [List.filter_congr same]

/-- Conditions and weights that agree on the rows give one sum. -/
theorem sumWhere_congr
    {table : Table ρ}
    {condition condition' : ρ → Bool}
    {weight weight' : ρ → M}
    (same :
      ∀ row ∈ table.rows,
        share condition weight row = share condition' weight' row) :
    table.sumWhere condition weight = table.sumWhere condition' weight' := by
  rw [sumWhere_eq_sum_share, sumWhere_eq_sum_share,
    List.map_congr_left same]

/-- A condition that no row satisfies has an empty sum. -/
theorem sumWhere_eq_zero
    {table : Table ρ}
    {condition : ρ → Bool}
    {weight : ρ → M}
    (nowhere : ∀ row ∈ table.rows, condition row = false) :
    table.sumWhere condition weight = 0 := by
  have empty : table.rows.filter condition = [] := by
    simpa [List.filter_eq_nil_iff] using nowhere
  simp [sumWhere, empty]

/-- Tables that share a column share the sums over it. -/
theorem sumWhere_eq_of_map_eq
    {α : Type}
    {column : ρ → α}
    {table later : Table ρ}
    (same : later.rows.map column = table.rows.map column)
    (condition : α → Bool)
    (weight : α → M) :
    later.sumWhere
        (fun row => condition (column row))
        (fun row => weight (column row)) =
      table.sumWhere
        (fun row => condition (column row))
        (fun row => weight (column row)) := by
  have overColumn (rows : List ρ) :
      (rows.filter fun row => condition (column row)).map
          (fun row => weight (column row)) =
        ((rows.map column).filter condition).map weight := by
    rw [List.filter_map, List.map_map]
    rfl
  unfold sumWhere
  rw [overColumn, overColumn, same]

/-- Tables that share a column share the counts over it. -/
theorem countWhere_eq_of_map_eq
    {α : Type}
    {column : ρ → α}
    {table later : Table ρ}
    (same : later.rows.map column = table.rows.map column)
    (condition : α → Bool) :
    later.countWhere (fun row => condition (column row)) =
      table.countWhere (fun row => condition (column row)) := by
  rw [countWhere_eq_sumWhere, countWhere_eq_sumWhere]
  exact sumWhere_eq_of_map_eq same condition fun _ => 1

/--
Sums over the fibers of a column add up to the sum over the rows whose column
lies in the set of fibers.
-/
theorem sum_sumWhere_fiber
    {α : Type}
    [DecidableEq α]
    (table : Table ρ)
    (column : ρ → α)
    (condition : ρ → Bool)
    (weight : ρ → M)
    (fibers : Finset α) :
    ∑ x ∈ fibers,
        table.sumWhere (fun row => column row = x && condition row) weight =
      table.sumWhere (fun row => column row ∈ fibers && condition row)
        weight := by
  simp only [sumWhere_eq_sum_share]
  induction table.rows with
  | nil =>
      simp
  | cons row rest inductionHypothesis =>
      simp only [List.map_cons, List.sum_cons, Finset.sum_add_distrib,
        inductionHypothesis]
      congr 1
      by_cases passes : condition row = true
      · simp [share, passes]
      · simp [share, passes]

variable [DecidableEq κ]

/-- An accepted insert adds the share of the new row. -/
theorem sumWhere_insert
    {table inserted : Table ρ}
    {row : ρ}
    (accepted : table.insert? row = some inserted)
    (condition : ρ → Bool)
    (weight : ρ → M) :
    inserted.sumWhere condition weight =
      table.sumWhere condition weight + share condition weight row := by
  rw [sumWhere_eq_sum_share, sumWhere_eq_sum_share,
    (insert?_eq_some accepted).2, List.map_append, List.sum_append]
  simp

/-- `put` exchanges the share of the old row for that of the new one. -/
theorem sumWhere_put
    {table : Table ρ}
    {row old : ρ}
    (found : table.find (key row) = some old)
    (condition : ρ → Bool)
    (weight : ρ → M) :
    (table.put row).sumWhere condition weight +
        share condition weight old =
      table.sumWhere condition weight +
        share condition weight row := by
  rw [sumWhere_eq_sum_share, sumWhere_eq_sum_share]
  obtain ⟨rows, keysNodup⟩ := table
  simp only [find, put] at found ⊢
  induction rows with
  | nil =>
      simp at found
  | cons head rest inductionHypothesis =>
      obtain ⟨headFresh, restNodup⟩ := List.nodup_cons.mp keysNodup
      by_cases headIsRow : key head = key row
      · have oldIsHead : head = old := by
          simpa [headIsRow] using found
        subst oldIsHead
        -- The remaining rows have other keys, so `put` leaves them alone.
        have restSame :
            (rest.map fun other =>
              if key other = key row then row else other) = rest := by
          rw [List.map_congr_left (g := id), List.map_id]
          intro other member
          have different : key other ≠ key row := by
            intro same
            exact headFresh
              (headIsRow.trans same.symm ▸ List.mem_map_of_mem member)
          simp [different]
        simp only [List.map_cons, headIsRow, ↓reduceIte, List.sum_cons,
          restSame]
        abel
      · have foundInRest :
            rest.find? (fun other => key other = key row) = some old := by
          simpa [headIsRow] using found
        have tail := inductionHypothesis restNodup foundInRest
        simp only [List.map_cons, headIsRow, ↓reduceIte, List.sum_cons,
          add_assoc, tail]

/-- A replacement with an equal share keeps the sum. -/
theorem sumWhere_put_of_share_eq
    {N : Type}
    [AddCommGroup N]
    {table : Table ρ}
    {row old : ρ}
    (found : table.find (key row) = some old)
    {condition : ρ → Bool}
    {weight : ρ → N}
    (sameShare : share condition weight row = share condition weight old) :
    (table.put row).sumWhere condition weight =
      table.sumWhere condition weight := by
  have exchange := sumWhere_put found condition weight
  rw [sameShare] at exchange
  exact add_right_cancel exchange

/-- The keys of the stored rows. -/
def keys (table : Table ρ) : Finset κ :=
  (table.rows.map key).toFinset

/-- The keys are those under which a row is found. -/
theorem mem_keys
    {table : Table ρ}
    {k : κ} :
    k ∈ table.keys ↔ ∃ row, table.find k = some row := by
  simp only [keys, List.mem_toFinset, List.mem_map]
  constructor
  · rintro ⟨row, member, rfl⟩
    exact ⟨row, find_of_mem member⟩
  · rintro ⟨row, found⟩
    exact ⟨row, mem_of_find found, key_of_find found⟩

/-- A sum over rows is a sum over the keys that lead to them. -/
theorem sumWhere_eq_sum_keys
    (table : Table ρ)
    (condition : ρ → Bool)
    (weight : ρ → M) :
    table.sumWhere condition weight =
      ∑ k ∈ table.keys with (table.find k).any condition = true,
        ((table.find k).map weight).getD 0 := by
  rw [Finset.sum_filter]
  unfold keys
  rw [List.sum_toFinset _ table.keysNodup, List.map_map,
    sumWhere_eq_sum_share]
  congr 1
  apply List.map_congr_left
  intro row member
  simp [share, find_of_mem member]

/-- An accepted insert counts the new row when it satisfies the condition. -/
theorem countWhere_insert
    {table inserted : Table ρ}
    {row : ρ}
    (accepted : table.insert? row = some inserted)
    (condition : ρ → Bool) :
    inserted.countWhere condition =
      table.countWhere condition + if condition row then 1 else 0 := by
  rw [countWhere_eq_sumWhere, countWhere_eq_sumWhere,
    sumWhere_insert accepted]
  rfl

end Sums

/-! ## Growth -/

section Growth

variable [DecidableEq κ]

/--
Every row of the first table still has its key in the second, where it is
related by `same` to what it was.
-/
def Extends (same : ρ → ρ → Prop) (table later : Table ρ) : Prop :=
  ∀ k row,
    table.find k = some row →
    ∃ row', later.find k = some row' ∧ same row row'

namespace Extends

variable {same : ρ → ρ → Prop} {table later : Table ρ}

/-- A table extends itself. -/
theorem refl
    (reflexive : ∀ row, same row row)
    (table : Table ρ) :
    Extends same table table :=
  fun _ row found => ⟨row, found, reflexive row⟩

/-- The rows under one key are related. -/
theorem related
    {k : κ}
    {row row' : ρ}
    (extends_ : Extends same table later)
    (found : table.find k = some row)
    (found' : later.find k = some row') :
    same row row' := by
  obtain ⟨kept, keptFound, isSame⟩ := extends_ k row found
  cases keptFound.symm.trans found'
  exact isSame

/-- Extensions compose. -/
theorem trans
    (transitive :
      ∀ {first second third},
        same first second → same second third → same first third)
    {latest : Table ρ}
    (first : Extends same table later)
    (second : Extends same later latest) :
    Extends same table latest := by
  intro k row found
  obtain ⟨row', found', related⟩ := first k row found
  obtain ⟨row'', found'', related'⟩ := second k row' found'
  exact ⟨row'', found'', transitive related related'⟩

/-- An insert extends the table. -/
theorem insert
    (reflexive : ∀ row, same row row)
    {row : ρ}
    (accepted : table.insert? row = some later) :
    Extends same table later :=
  fun _ stored found =>
    ⟨stored, find_insert_of_some accepted found, reflexive stored⟩

/-- Replacing a row by a related one extends the table. -/
theorem put
    (reflexive : ∀ row, same row row)
    {row old : ρ}
    (found : table.find (key row) = some old)
    (related : same old row) :
    Extends same table (table.put row) := by
  intro k stored storedFound
  by_cases isRow : key row = k
  · subst isRow
    rw [found] at storedFound
    cases storedFound
    exact ⟨row, find_put_self found, related⟩
  · exact ⟨stored, (find_put_of_ne isRow).trans storedFound,
      reflexive stored⟩

/-- Modifying a row within the relation extends the table. -/
theorem modify
    (reflexive : ∀ row, same row row)
    {change : ρ → ρ}
    (keeps : ∀ row, key (change row) = key row)
    (related : ∀ row, same row (change row))
    (k : κ) :
    Extends same table (table.modify k change) := by
  cases found : table.find k with
  | none =>
      simpa [Table.modify, found] using refl reflexive table
  | some old =>
      rw [modify_of_find found]
      refine put reflexive ?_ (related old)
      rw [keeps, key_of_find found, found]

end Extends

end Growth

end Table

end Relational
