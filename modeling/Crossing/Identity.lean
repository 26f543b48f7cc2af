import Crossing.Policy
import Crossing.RelationalTransaction

namespace Crossing

open Relational
open Relational.Transaction

/-!
# Principals, agents and tasks

The functions of `identity.py`.  A transaction runs under READ COMMITTED: its
plain SELECTs each see some committed state, given by `Views`, while its
inserts and conditional updates act on the rows as they are when it commits,
since an updated row stays locked until then.
-/

/-- A transaction body over the database. -/
abbrev Body := Transaction Db Raised

/-- The committed state that each SELECT of a transaction sees, in order. -/
abbrev Views := Nat → Db

namespace Views

/-- The statements that come after the first `count`. -/
def after (views : Views) (count : Nat) : Views :=
  fun statement => views (count + statement)

end Views

/-- A denial raised as an exception. -/
abbrev denied (outcome : Denied) : Raised := .policyDenied outcome

/-- `session.add(row)` and `session.flush()`. -/
def addRow
    {ρ κ : Type}
    [Keyed ρ κ]
    [DecidableEq κ]
    (table : Db → Table ρ)
    (store : Db → Table ρ → Db)
    (row : ρ) :
    Body Unit := do
  let db ← get
  let inserted ← orRaise .integrityError ((table db).insert? row)
  set (store db inserted)

/-- A row that was added had a fresh key. -/
theorem addRow_ok
    {ρ κ : Type}
    [Keyed ρ κ]
    [DecidableEq κ]
    {table : Db → Table ρ}
    {store : Db → Table ρ → Db}
    {row : ρ}
    {db db' : Db}
    {done : Unit}
    (returned : exec (addRow table store row) db = (.ok done, db')) :
    ∃ inserted,
      (table db).insert? row = some inserted ∧
        db' = store db inserted := by
  obtain ⟨read, between, readRun, rest⟩ := bind_ok returned
  cases readRun
  obtain ⟨inserted, between', insertRun, setRun⟩ := bind_ok rest
  obtain ⟨accepted, rfl⟩ := orRaise_ok insertRun
  cases setRun
  exact ⟨inserted, accepted, rfl⟩

/-- An insert that raises found its key taken. -/
theorem addRow_error
    {ρ κ : Type}
    [Keyed ρ κ]
    [DecidableEq κ]
    {table : Db → Table ρ}
    {store : Db → Table ρ → Db}
    {row : ρ}
    {db db' : Db}
    {exception : Raised}
    (raised : exec (addRow table store row) db = (.error exception, db')) :
    exception = .integrityError ∧ db' = db := by
  rcases bind_error raised with
    readRaised | ⟨read, between, readRun, rest⟩
  · cases readRaised
  · cases readRun
    rcases bind_error rest with
      insertRaised | ⟨inserted, between', insertRun, setRaised⟩
    · exact (orRaise_error insertRaised).2
    · cases setRaised

/-- `UPDATE … WHERE id = k AND guard RETURNING row`. -/
def updateRow
    {ρ κ : Type}
    [Keyed ρ κ]
    [DecidableEq κ]
    (table : Db → Table ρ)
    (store : Db → Table ρ → Db)
    (k : κ)
    (guard : ρ → Bool)
    (change : ρ → ρ) :
    Body (Option ρ) := do
  let db ← get
  match (table db).update? k guard change with
  | some (row, updated) => do
      set (store db updated)
      pure (some row)
  | none => pure none

/-- A conditional update either changes the one matching row or nothing. -/
theorem updateRow_ok
    {ρ κ : Type}
    [Keyed ρ κ]
    [DecidableEq κ]
    {table : Db → Table ρ}
    {store : Db → Table ρ → Db}
    {k : κ}
    {guard : ρ → Bool}
    {change : ρ → ρ}
    {db db' : Db}
    {answer : Option ρ}
    (returned :
      exec (updateRow table store k guard change) db =
        (.ok answer, db')) :
    (answer = none ∧ db' = db) ∨
      ∃ old,
        (table db).find k = some old ∧
          guard old = true ∧
          answer = some (change old) ∧
          db' = store db ((table db).put (change old)) := by
  simp only [updateRow, exec_bind, exec_get] at returned
  cases answered : (table db).update? k guard change with
  | none =>
      rw [answered] at returned
      cases returned
      exact .inl ⟨rfl, rfl⟩
  | some result =>
      obtain ⟨row, updated⟩ := result
      rw [answered] at returned
      cases returned
      obtain ⟨old, found, passes, rfl, rfl⟩ :=
        Table.update?_eq_some answered
      exact .inr ⟨old, found, passes, rfl, rfl⟩

/--
A body that goes on with the row of a conditional update, and raises without
one, has updated it.
-/
theorem updateRow_orRaise_ok
    {ρ κ β : Type}
    [Keyed ρ κ]
    [DecidableEq κ]
    {table : Db → Table ρ}
    {store : Db → Table ρ → Db}
    {k : κ}
    {guard : ρ → Bool}
    {change : ρ → ρ}
    {exception : Raised}
    {next : ρ → Body β}
    {db db' : Db}
    {result : β}
    (returned :
      exec
          (do
            let answer ← updateRow table store k guard change
            let row ← orRaise exception answer
            next row)
          db =
        (.ok result, db')) :
    ∃ old,
      (table db).find k = some old ∧
        guard old = true ∧
        exec (next (change old)) (store db ((table db).put (change old))) =
          (.ok result, db') := by
  obtain ⟨answer, between, updateRun, rest⟩ := bind_ok returned
  obtain ⟨row, between', present, nextRun⟩ := bind_ok rest
  obtain ⟨answered, rfl⟩ := orRaise_ok present
  rcases updateRow_ok updateRun with
    ⟨missed, _⟩ | ⟨old, found, passes, shape, rfl⟩
  · rw [missed] at answered
    cases answered
  · rw [shape] at answered
    cases answered
    exact ⟨old, found, passes, nextRun⟩

/-- The account of a new principal: the given one, or a new one. -/
def accountOrNew (accountId : Option Id) (newAccountId : Id) : Body Id :=
  match accountId with
  | none => do
      addRow Db.accounts (fun db table => { db with accounts := table })
        { id := newAccountId
          stripeCustomerId := none
          stripeStatus := none
          feeMicrocents := 0
          feeInvoicedCents := 0 }
      pure newAccountId
  | some accountId => pure accountId

/-- `create_principal`, with a new account unless one is given. -/
def createPrincipal
    (pubkeyHex : Option String)
    (accountId : Option Id)
    (newAccountId newId : Id) :
    Body Principal := do
  let accountId ← accountOrNew accountId newAccountId
  -- The foreign key of `principals.account_id`.
  let db ← get
  let _ ← orRaise .integrityError (db.accounts.find accountId)
  let principal : Principal :=
    { id := newId
      accountId := accountId
      pubkeyHex := pubkeyHex }
  addRow Db.principals (fun db table => { db with principals := table })
    principal
  pure principal

/-- The check of `create_agent` on the direct parent. -/
def checkParentAgent
    (view : Db)
    (principalId : Id)
    (parentId : Option Id) :
    Body Unit :=
  match parentId with
  | none => pure ()
  | some parentId => do
      let parent ← ofExcept denied (checkAgent (view.agents.find parentId))
      raiseWhen (parent.principalId ≠ principalId)
        (denied ⟨.principalMissing, "parent agent principal mismatch"⟩)

/-- `create_agent`; only the direct parent is checked. -/
def createAgent
    (views : Views)
    (principalId : Id)
    (parentId : Option Id)
    (newId : Id) :
    Body Agent := do
  checkParentAgent (views 0) principalId parentId
  -- The foreign key of `agents.principal_id`.
  let db ← get
  let _ ← orRaise .integrityError (db.principals.find principalId)
  let agent : Agent :=
    { id := newId
      principalId := principalId
      parentId := parentId
      revoked := false }
  addRow Db.agents (fun db table => { db with agents := table }) agent
  pure agent

/-- `SELECT … WHERE parent_id = parent`. -/
def childAgents (view : Db) (parent : Id) : List Id :=
  (view.agents.rows.filter fun agent =>
    agent.parentId = some parent).map Agent.id

/--
The `while stack` loop of `revoke_agent`.  The head of `stack` is the end of the
source's list, so the next child to pop; `visited` collects the popped ones.
-/
def revokeWalk
    (views : Views) :
    (fuel statement : Nat) →
    (stack visited : List Id) →
    Option (List Id)
  | _, _, [], visited => some visited
  | 0, _, _ :: _, _ => none
  | fuel + 1, statement, child :: rest, visited =>
      revokeWalk views fuel (statement + 1)
        ((childAgents (views statement) child).reverse ++ rest)
        (child :: visited)

/-- The flush of `revoked = True` on every loaded agent. -/
def revokeAll (agents : Table Agent) (ids : List Id) : Table Agent :=
  ids.foldl
    (fun table id =>
      table.modify id fun agent => { agent with revoked := true })
    agents

/-- `revoke_agent`: flag the agent and every descendant the walk finds. -/
def revokeAgent
    (views : Views)
    (fuel : Nat)
    (agentId : Id) :
    Body (List Id) := do
  let _ ←
    orRaise (denied ⟨.agentRevoked, "agent missing"⟩)
      ((views 0).agents.find agentId)
  let visited ←
    orRaise .unfinished
      (revokeWalk views fuel 2 (childAgents (views 1) agentId).reverse [])
  modify fun db =>
    { db with agents := revokeAll db.agents (agentId :: visited) }
  pure (agentId :: visited)

/-- `create_task`. -/
def createTask
    (principalId : Id)
    (agentId : Option Id)
    (newId : Id) :
    Body Task := do
  let task : Task :=
    { id := newId
      principalId := principalId
      agentId := agentId }
  addRow Db.tasks (fun db table => { db with tasks := table }) task
  pure task

/-- `require_live_agent`: the agent and its direct parent are not revoked. -/
def requireLiveAgent
    (views : Views)
    (agentId : Id) :
    Except Denied Agent := do
  let agent ← checkAgent ((views 0).agents.find agentId)
  match agent.parentId with
  | none => .ok agent
  | some parentId => do
      let _ ← checkAgent ((views 1).agents.find parentId)
      .ok agent

/-- The `while` loop of `is_self_or_descendant`. -/
def ancestorWalk
    (agents : Table Agent)
    (ancestorId : Id) :
    (fuel : Nat) →
    (current : Option Agent) →
    (seen : List Id) →
    Option Bool
  | _, none, _ => some false
  | 0, some _, _ => none
  | fuel + 1, some current, seen =>
      match current.parentId with
      | none => some false
      | some parentId =>
          if parentId = ancestorId then
            some true
          else if current.id ∈ seen then
            some false
          else
            ancestorWalk agents ancestorId fuel (agents.find parentId)
              (current.id :: seen)

/--
`is_self_or_descendant`.  The visited set admits each agent once, so one
iteration more than there are agents ends the loop.
-/
def isSelfOrDescendant
    (agents : Table Agent)
    (agentId ancestorId : Id) :
    Option Bool :=
  if agentId = ancestorId then
    some true
  else
    ancestorWalk agents ancestorId (agents.rows.length + 1)
      (agents.find agentId) []

end Crossing
