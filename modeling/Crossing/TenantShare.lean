import Crossing.Footprint
import Crossing.Routes

namespace Crossing

open Relational
open Relational.Transaction

/-!
# The share of an account

The rows that belong to an account: its own row, its principals, and the rows
of its principals.  What is confined to a principal of one account leaves the
shares of the others as they are.
-/

namespace Db

/-- The principal belongs to the account. -/
def owns (db : Db) (accountId principalId : Id) : Bool :=
  (db.principals.find principalId).any (·.accountId = accountId)

/-- The rows that belong to an account. -/
def share (db : Db) (accountId : Id) : Rows where
  accounts := db.accounts.rows.filter (·.id = accountId)
  principals := db.principals.rows.filter (·.accountId = accountId)
  agents := db.agents.rows.filter (db.owns accountId ·.principalId)
  tasks := db.tasks.rows.filter (db.owns accountId ·.principalId)
  mandates := db.mandates.rows.filter (db.owns accountId ·.principalId)
  ledgerEvents := db.ledgerEvents.filter (db.owns accountId ·.principalId)
  reservations :=
    db.reservations.rows.filter (db.owns accountId ·.principalId)
  receipts := db.receipts.rows.filter (db.owns accountId ·.principalId)
  billingOutbox :=
    db.billingOutbox.rows.filter
      (db.owns accountId ·.payloadJson.principalId)
  idempotencyRecords :=
    db.idempotencyRecords.rows.filter (db.owns accountId ·.principalId)
  usedNonces := db.usedNonces.rows.filter (db.owns accountId ·.principalId)
  invocations :=
    db.invocations.rows.filter (db.owns accountId ·.principalId)

/-- A principal with its account. -/
theorem owns_iff
    {db : Db}
    {accountId principalId : Id} :
    db.owns accountId principalId = true ↔
      ∃ principal, db.principals.find principalId = some principal ∧
        principal.accountId = accountId := by
  unfold owns
  rw [Option.any_eq_true]
  simp

end Db

/-- Lists that agree on some of their rows agree on fewer of them. -/
theorem filter_eq_of_filter_eq
    {α : Type}
    {larger smaller smaller' : α → Bool}
    {rows rows' : List α}
    (agree : rows'.filter larger = rows.filter larger)
    (within : ∀ row, smaller row = true → larger row = true)
    (same : ∀ row, smaller' row = smaller row) :
    rows'.filter smaller' = rows.filter smaller := by
  have inLarger (list : List α) :
      list.filter smaller = (list.filter larger).filter smaller := by
    rw [List.filter_filter]
    apply List.filter_congr
    intro row _
    cases isSmaller : smaller row with
    | false => rfl
    | true => simp [within row isSmaller]
  rw [List.filter_congr fun row _ => same row, inLarger rows', inLarger rows,
    agree]

namespace Scope

variable
  {scope : Scope}
  {db db' : Db}
  {accountId : Id}

/-- The principals of other accounts are not the one of the scope. -/
theorem Holds.outside
    {principalId : Id}
    (holds : scope.Holds db)
    (other : accountId ≠ scope.accountId)
    (owns : db.owns accountId principalId = true) :
    principalId ≠ scope.principalId := by
  rintro rfl
  obtain ⟨principal, found, ofAccount⟩ := Db.owns_iff.mp owns
  exact other (ofAccount.symm.trans (holds.account principal found))

/-- What is confined to a scope leaves the shares of other accounts alone. -/
theorem share_eq
    (holds : scope.Holds db)
    (holds' : scope.Holds db')
    (same : scope.others db' = scope.others db)
    (other : accountId ≠ scope.accountId) :
    db'.share accountId = db.share accountId := by
  have others := Rows.mk.inj same
  obtain ⟨accounts, principals, agents, tasks, mandates, ledgerEvents,
    reservations, receipts, billingOutbox, idempotencyRecords, usedNonces,
    invocations⟩ := others
  have sameOwner (principalId : Id) :
      db'.owns accountId principalId = db.owns accountId principalId := by
    by_cases isScope : principalId = scope.principalId
    · subst isScope
      have notThen : db'.owns accountId scope.principalId = false := by
        by_contra owns
        exact holds'.outside other (by simpa using owns) rfl
      have notNow : db.owns accountId scope.principalId = false := by
        by_contra owns
        exact holds.outside other (by simpa using owns) rfl
      rw [notThen, notNow]
    · have find (database : Db) :
          database.principals.find principalId =
            (database.principals.rows.filter
                (·.id ≠ scope.principalId)).find?
              (·.id = principalId) := by
        unfold Table.find
        rw [List.find?_filter]
        congr 1
        funext row
        by_cases isRow : row.id = principalId
        · simp [isRow, isScope]
        · simp [isRow]
      unfold Db.owns
      rw [find db', find db, principals]
  have outside (principalId : Id) :
      db.owns accountId principalId = true →
        decide (principalId ≠ scope.principalId) = true := by
    intro owns
    exact decide_eq_true (holds.outside other owns)
  unfold Db.share
  congr 1
  · refine filter_eq_of_filter_eq accounts ?_ fun _ => rfl
    intro row isAccount
    have ofAccount : row.id = accountId := of_decide_eq_true isAccount
    simpa [ofAccount] using other
  · have principalsOf (database : Db) (holdsThere : scope.Holds database) :
        database.principals.rows.filter (·.accountId = accountId) =
          (database.principals.rows.filter
              (·.id ≠ scope.principalId)).filter
            (·.accountId = accountId) := by
      rw [List.filter_filter]
      apply List.filter_congr
      intro row member
      by_cases ofAccount : row.accountId = accountId
      · have notScope : row.id ≠ scope.principalId := by
          apply holdsThere.outside other
          exact Db.owns_iff.mpr ⟨row, Table.find_of_mem member, ofAccount⟩
        simp [ofAccount, notScope]
      · simp [ofAccount]
    rw [principalsOf db' holds', principalsOf db holds, principals]
  · exact filter_eq_of_filter_eq agents (fun row => outside row.principalId)
      fun row => sameOwner row.principalId
  · exact filter_eq_of_filter_eq tasks (fun row => outside row.principalId)
      fun row => sameOwner row.principalId
  · exact filter_eq_of_filter_eq mandates (fun row => outside row.principalId)
      fun row => sameOwner row.principalId
  · exact filter_eq_of_filter_eq ledgerEvents
      (fun row => outside row.principalId)
      fun row => sameOwner row.principalId
  · exact filter_eq_of_filter_eq reservations
      (fun row => outside row.principalId)
      fun row => sameOwner row.principalId
  · exact filter_eq_of_filter_eq receipts (fun row => outside row.principalId)
      fun row => sameOwner row.principalId
  · exact filter_eq_of_filter_eq billingOutbox
      (fun row => outside row.payloadJson.principalId)
      fun row => sameOwner row.payloadJson.principalId
  · exact filter_eq_of_filter_eq idempotencyRecords
      (fun row => outside row.principalId)
      fun row => sameOwner row.principalId
  · exact filter_eq_of_filter_eq usedNonces
      (fun row => outside row.principalId)
      fun row => sameOwner row.principalId
  · exact filter_eq_of_filter_eq invocations
      (fun row => outside row.principalId)
      fun row => sameOwner row.principalId

/-- A confined body leaves the shares of other accounts alone. -/
theorem Confines.share
    {α : Type}
    {body : Body α}
    {post : α → Prop}
    {outcome : Except Raised α}
    (confines : scope.Confines body post)
    (holds : scope.Holds db)
    (ran : exec body db = (outcome, db'))
    (other : accountId ≠ scope.accountId) :
    db'.share accountId = db.share accountId := by
  obtain ⟨same, holds', _⟩ := Keeps.run confines ran holds
  exact share_eq holds holds' same other

end Scope

end Crossing
