import Crossing.DelegationForest
import Crossing.InvokeOutcomes
import Crossing.Runs

namespace Crossing

open Relational
open Relational.Transaction

/-!
# Revocation of agents

`revoke_agent` flags the agents that its walk finds, and everything else relies
on the flags: `create_agent` and `invoke` check the agents they have read.  What
they have read may be out of date when they commit.  When it is not, flags are
closed downwards in every reachable state, and no call is opened below a
revoked agent.
-/

/-! ## The forest of agents -/

namespace Db

/-- The parent of an agent. -/
def agentParent (db : Db) (agentId : Id) : Option Id :=
  (db.agents.find agentId).bind Agent.parentId

/-- The agent is `root` or has it among its transitive parents. -/
def Beneath (db : Db) (root agentId : Id) : Prop :=
  Delegation.SelfOrAncestor db.agentParent agentId root

/-- The agent is stored. -/
def HasAgent (db : Db) (agentId : Id) : Prop :=
  ∃ agent, db.agents.find agentId = some agent

/-- The agent is stored and flagged. -/
def Flagged (db : Db) (agentId : Id) : Prop :=
  ∃ agent, db.agents.find agentId = some agent ∧ agent.revoked = true

/-- Parents are stored, and a flagged parent has flagged children. -/
structure Sealed (db : Db) : Prop where
  ofParent :
    ∀ childId parentId, db.agentParent childId = some parentId →
      db.HasAgent parentId
  descends :
    ∀ childId parentId, db.agentParent childId = some parentId →
      db.Flagged parentId → db.Flagged childId

end Db

section Forest

variable {db db' : Db} {root agentId : Id}

/-- Flags are kept. -/
theorem Db.Flagged.evolves
    (flagged : db.Flagged agentId)
    (evolves : Evolves db db') :
    db'.Flagged agentId := by
  obtain ⟨agent, found, revoked⟩ := flagged
  obtain ⟨agent', found', same⟩ := evolves.agents _ _ found
  exact ⟨agent', found', same.2 revoked⟩

/-- Stored agents are kept. -/
theorem Db.HasAgent.evolves
    (stored : db.HasAgent agentId)
    (evolves : Evolves db db') :
    db'.HasAgent agentId := by
  obtain ⟨agent, found⟩ := stored
  obtain ⟨agent', found', _⟩ := evolves.agents _ _ found
  exact ⟨agent', found'⟩

/-- Stored agents keep their parents. -/
theorem Db.HasAgent.sameParent
    (stored : db.HasAgent agentId)
    (evolves : Evolves db db') :
    db'.agentParent agentId = db.agentParent agentId := by
  obtain ⟨agent, found⟩ := stored
  obtain ⟨agent', found', same⟩ := evolves.agents _ _ found
  unfold Db.agentParent
  rw [found, found', same.1]
  rfl

/-- Below a flagged agent every agent is flagged. -/
theorem Db.Sealed.flagged
    (isSealed : db.Sealed)
    (beneath : db.Beneath root agentId)
    (flagged : db.Flagged root) :
    db.Flagged agentId :=
  beneath.inherit isSealed.descends flagged

/-- The agents above a stored agent do not change. -/
theorem Db.Sealed.beneath
    (isSealed : db.Sealed)
    (evolves : Evolves db db')
    (stored : db.HasAgent agentId)
    (beneath : db'.Beneath root agentId) :
    db.Beneath root agentId := by
  refine Delegation.SelfOrAncestor.restrict ?_ ?_ beneath stored
  · intro childId childStored
    exact childStored.sameParent evolves
  · intro childId parentId _ link
    exact isSealed.ofParent childId parentId link

/-- The children that a SELECT shows are those whose parent the agent is. -/
theorem mem_childAgents
    {childId parentId : Id} :
    childId ∈ childAgents db parentId ↔
      db.agentParent childId = some parentId := by
  unfold childAgents Db.agentParent
  rw [List.mem_map, Option.bind_eq_some_iff]
  constructor
  · rintro ⟨agent, member, rfl⟩
    obtain ⟨inRows, isParent⟩ := List.mem_filter.mp member
    exact ⟨agent, Table.find_of_mem inRows, of_decide_eq_true isParent⟩
  · rintro ⟨agent, found, isParent⟩
    refine ⟨agent, List.mem_filter.mpr ⟨Table.mem_of_find found, ?_⟩,
      Table.key_of_find found⟩
    exact decide_eq_true isParent

end Forest

/-! ## The walk of `revoke_agent` -/

/-- The SELECT shows every agent that is stored below the parent. -/
def ShowsChildren (view db : Db) (parent : Id) : Prop :=
  childAgents db parent ⊆ childAgents view parent

/-- The SELECTs of the rest of the walk show every child of what they visit. -/
def WalkShows
    (views : Views)
    (db : Db) :
    (fuel statement : Nat) →
    (stack : List Id) →
    Prop
  | fuel + 1, statement, child :: rest =>
      ShowsChildren (views statement) db child ∧
        WalkShows views db fuel (statement + 1)
          ((childAgents (views statement) child).reverse ++ rest)
  | _, _, _ => True

/--
A call that goes on to reserve: it passes its checks, its operation is not
claimed and the debit is covered.
-/
structure Reserves
    (env : Env)
    (s : Sys)
    (ages : List Nat)
    (request : InvokeRequest)
    (draw : InvokeDraw)
    (mandate : Mandate)
    (price : Cents) :
    Prop where
  passes : gate env (s.views ages) request draw = .passes mandate price
  unclaimed :
    claimOf s.db mandate.principalId request.idempotencyKey = none
  debitable : Debitable s.db draw.debitNow mandate.id price

/--
What the transaction has read of the agents is so when it commits; of a call it
is asked only where the call reserves.
-/
def Undisturbed (env : Env) (s : Sys) : Action → Prop
  | .txn ages (.createAgent _ (some parentId) _) =>
      (s.views ages 0).agents.find parentId = s.db.agents.find parentId
  | .txn ages (.revokeAgent fuel agentId) =>
      ShowsChildren (s.views ages 1) s.db agentId ∧
        WalkShows (s.views ages) s.db fuel 2
          (childAgents (s.views ages 1) agentId).reverse
  | .invoke ages request draw =>
      ∀ mandate price,
        Reserves env s ages request draw mandate price →
          (s.views ages 2).agents.find mandate.agentId =
            s.db.agents.find mandate.agentId
  | _ => True

/-- A walk that sees every child visits everything below its stack. -/
theorem revokeWalk_closed
    {views : Views}
    {db : Db}
    {fuel statement : Nat}
    {stack visited final : List Id}
    (walked : revokeWalk views fuel statement stack visited = some final)
    (shows_ : WalkShows views db fuel statement stack)
    (closed :
      ∀ parent ∈ visited, ∀ child ∈ childAgents db parent,
        child ∈ visited ∨ child ∈ stack) :
    visited ⊆ final ∧
      stack ⊆ final ∧
      ∀ parent ∈ final, childAgents db parent ⊆ final := by
  induction fuel generalizing statement stack visited with
  | zero =>
      cases stack with
      | nil =>
          cases walked
          refine ⟨List.Subset.refl _, List.nil_subset _, ?_⟩
          intro parent member child isChild
          simpa using closed parent member child isChild
      | cons => cases walked
  | succ fuel inductionHypothesis =>
      cases stack with
      | nil =>
          cases walked
          refine ⟨List.Subset.refl _, List.nil_subset _, ?_⟩
          intro parent member child isChild
          simpa using closed parent member child isChild
      | cons head rest =>
          obtain ⟨headShown, restShown⟩ := shows_
          obtain ⟨visitedIn, stackIn, finalClosed⟩ :=
            inductionHypothesis walked restShown (by
              intro parent member child isChild
              rcases List.mem_cons.mp member with rfl | inVisited
              · have shown := headShown isChild
                exact .inr (List.mem_append_left _ (by simpa using shown))
              · rcases closed parent inVisited child isChild with
                  isVisited | isStacked
                · exact .inl (List.mem_cons_of_mem _ isVisited)
                · rcases List.mem_cons.mp isStacked with rfl | inRest
                  · exact .inl List.mem_cons_self
                  · exact .inr (List.mem_append_right _ inRest))
          refine ⟨fun id member => visitedIn (List.mem_cons_of_mem _ member),
            ?_, finalClosed⟩
          intro id member
          rcases List.mem_cons.mp member with rfl | inRest
          · exact visitedIn List.mem_cons_self
          · exact stackIn (List.mem_append_right _ inRest)

/-- Flagging a list of agents flags these and no others. -/
theorem find_revokeAll
    (agents : Table Agent)
    (ids : List Id)
    (id : Id) :
    (revokeAll agents ids).find id =
      (agents.find id).map fun agent =>
        { agent with revoked := agent.revoked || decide (id ∈ ids) } := by
  induction ids generalizing agents with
  | nil =>
      simp [revokeAll]
  | cons first rest inductionHypothesis =>
      have keepsKey :
          ∀ agent : Agent,
            Keyed.key { agent with revoked := true } = Keyed.key agent :=
        fun _ => rfl
      have flagged := inductionHypothesis
        (agents.modify first fun agent => { agent with revoked := true })
      rw [Table.find_modify keepsKey] at flagged
      refine flagged.trans ?_
      by_cases isFirst : first = id
      · subst isFirst
        cases agents.find first <;> simp
      · have notFirst : id ≠ first := Ne.symm isFirst
        simp [isFirst, notFirst]

/-- The database after the flush of `revoke_agent`. -/
def Db.flagging (db : Db) (ids : List Id) : Db :=
  { db with agents := revokeAll db.agents ids }

section Flagging

variable {db : Db} {ids : List Id} {agentId : Id}

/-- Flags do not move agents. -/
theorem agentParent_flagging :
    (db.flagging ids).agentParent agentId = db.agentParent agentId := by
  unfold Db.agentParent Db.flagging
  rw [find_revokeAll]
  cases db.agents.find agentId <;> rfl

/-- The agents are the same. -/
theorem hasAgent_flagging :
    (db.flagging ids).HasAgent agentId ↔ db.HasAgent agentId := by
  unfold Db.HasAgent Db.flagging
  rw [find_revokeAll]
  cases db.agents.find agentId <;> simp

/-- What is flagged was flagged or is on the list. -/
theorem flagged_flagging :
    (db.flagging ids).Flagged agentId ↔
      db.Flagged agentId ∨ db.HasAgent agentId ∧ agentId ∈ ids := by
  unfold Db.Flagged Db.HasAgent Db.flagging
  rw [find_revokeAll]
  cases db.agents.find agentId <;> simp

/-- Flags on a list that is closed under children stay closed. -/
theorem Db.Sealed.flagging
    (isSealed : db.Sealed)
    (closed : ∀ parentId ∈ ids, childAgents db parentId ⊆ ids) :
    (db.flagging ids).Sealed where
  ofParent := by
    intro childId parentId link
    rw [agentParent_flagging] at link
    exact hasAgent_flagging.mpr (isSealed.ofParent childId parentId link)
  descends := by
    intro childId parentId link flagged
    rw [agentParent_flagging] at link
    rw [flagged_flagging] at flagged ⊢
    rcases flagged with flagged | ⟨_, listed⟩
    · exact .inl (isSealed.descends childId parentId link flagged)
    · obtain ⟨agent, found, _⟩ := Option.bind_eq_some_iff.mp link
      exact .inr ⟨⟨agent, found⟩,
        closed parentId listed (mem_childAgents.mpr link)⟩

end Flagging

/-- A new agent below a live one keeps flags closed. -/
theorem Db.Sealed.added
    {db : Db}
    {agent : Agent}
    {agents : Table Agent}
    (isSealed : db.Sealed)
    (inserted : db.agents.insert? agent = some agents)
    (parentLive :
      ∀ parentId, agent.parentId = some parentId →
        ∃ parent, db.agents.find parentId = some parent ∧
          parent.revoked = false) :
    ({ db with agents := agents } : Db).Sealed := by
  have stays {id : Id} (stored : db.HasAgent id) :
      agents.find id = db.agents.find id := by
    obtain ⟨row, found⟩ := stored
    exact (Table.find_insert_of_some inserted found).trans found.symm
  -- The child of a link is the new agent or an old one.
  have cases_link {childId parentId : Id}
      (link :
        ({ db with agents := agents } : Db).agentParent childId =
          some parentId) :
      agent.id = childId ∧ agent.parentId = some parentId ∨
        db.agentParent childId = some parentId := by
    unfold Db.agentParent at link ⊢
    simp only [Table.find_insert inserted] at link
    by_cases isNew : agent.id = childId
    · left
      simp only [key_agent, isNew, ↓reduceIte, Option.bind_some] at link
      exact ⟨isNew, link⟩
    · right
      simpa [isNew] using link
  refine { ofParent := ?_, descends := ?_ }
  · intro childId parentId link
    unfold Db.HasAgent
    rcases cases_link link with ⟨_, isParent⟩ | link
    · obtain ⟨parent, found, _⟩ := parentLive parentId isParent
      exact ⟨parent, (stays ⟨parent, found⟩).trans found⟩
    · have stored := isSealed.ofParent childId parentId link
      rw [stays stored]
      exact stored
  · intro childId parentId link flagged
    unfold Db.Flagged at flagged ⊢
    rcases cases_link link with ⟨_, isParent⟩ | link
    · obtain ⟨parent, found, live⟩ := parentLive parentId isParent
      obtain ⟨row, rowFound, revoked⟩ := flagged
      rw [stays ⟨parent, found⟩, found] at rowFound
      cases rowFound
      rw [live] at revoked
      cases revoked
    · obtain ⟨child, found, _⟩ := Option.bind_eq_some_iff.mp link
      rw [stays (isSealed.ofParent childId parentId link)] at flagged
      rw [stays ⟨child, found⟩]
      exact isSealed.descends childId parentId link flagged

/-! ## What a step does to the agents -/

/-- What a step can do to the agents. -/
inductive AgentsMove (s : Sys) : Action → Table Agent → Prop where
  | still
      {action : Action}
      (notRevoke :
        ∀ ages fuel agentId, action ≠ .txn ages (.revokeAgent fuel agentId)) :
      AgentsMove s action s.db.agents
  | created
      {ages : List Nat}
      {principalId newId : Id}
      {parentId : Option Id}
      {agent : Agent}
      {agents : Table Agent}
      (inserted : s.db.agents.insert? agent = some agents)
      (ofParent : agent.parentId = parentId)
      (parentLive :
        ∀ id, parentId = some id →
          ∃ parent, (s.views ages 0).agents.find id = some parent ∧
            parent.revoked = false ∧
            parent.principalId = agent.principalId) :
      AgentsMove s (.txn ages (.createAgent principalId parentId newId)) agents
  | revoked
      {ages : List Nat}
      {fuel : Nat}
      {agentId : Id}
      {agent : Agent}
      {visited : List Id}
      (found : (s.views ages 0).agents.find agentId = some agent)
      (walked :
        revokeWalk (s.views ages) fuel 2
            (childAgents (s.views ages 1) agentId).reverse [] =
          some visited) :
      AgentsMove s (.txn ages (.revokeAgent fuel agentId))
        (revokeAll s.db.agents (agentId :: visited))

/-- Only `create_agent` and `revoke_agent` write agents. -/
theorem Effect.agents_kept
    {env : Env}
    {discipline : Discipline}
    {origin : Origin}
    {db db' : Db}
    {entries : List Entry}
    (effect : Effect env discipline origin db entries db')
    (notCreate :
      ∀ principalId parentId newId,
        origin ≠ .txn (.createAgent principalId parentId newId))
    (notRevoke :
      ∀ fuel agentId, origin ≠ .txn (.revokeAgent fuel agentId)) :
    db'.agents = db.agents := by
  cases effect with
  | agentAdded _ _ _ _ created =>
      obtain ⟨principalId, newId, isCreate⟩ := created
      exact (notCreate _ _ _ isCreate).elim
  | agentsRevoked _ revokes =>
      obtain ⟨fuel, isRevoke⟩ := revokes
      exact (notRevoke _ _ isRevoke).elim
  | _ => rfl

/-- Only `revoke_agent` reports an agent revoked. -/
theorem Effect.reports
    {env : Env}
    {discipline : Discipline}
    {origin : Origin}
    {db db' : Db}
    {entries : List Entry}
    {agentId : Id}
    (effect : Effect env discipline origin db entries db')
    (reported : .agentRevoked agentId ∈ entries) :
    ∃ fuel, origin = .txn (.revokeAgent fuel agentId) := by
  cases effect with
  | agentsRevoked _ revokes =>
      cases List.mem_singleton.mp reported
      exact revokes
  | @moved _ toStatus =>
      cases toStatus <;> simp [moveEntries] at reported
  | _ => simp at reported

section Steps

variable
  {env : Env}
  {discipline : Discipline}
  {s s' : Sys}
  {action : Action}

/-- Every step moves the agents in one of the listed ways. -/
theorem Stepped.agents
    (stepped : Stepped env discipline s action s') :
    AgentsMove s action s'.db.agents := by
  have kept
      (notCreate :
        ∀ ages principalId parentId newId,
          action ≠ .txn ages (.createAgent principalId parentId newId))
      (notRevoke :
        ∀ ages fuel agentId, action ≠ .txn ages (.revokeAgent fuel agentId)) :
      AgentsMove s action s'.db.agents := by
    obtain ⟨origin, entries, ofAction, effect⟩ := stepped.effect_origin
    rw [effect.agents_kept]
    · exact .still notRevoke
    · intro principalId parentId newId isCreate
      obtain ⟨ages, isAction⟩ := ofAction _ isCreate
      exact notCreate _ _ _ _ isAction
    · intro fuel agentId isRevoke
      obtain ⟨ages, isAction⟩ := ofAction _ isRevoke
      exact notRevoke _ _ _ isAction
  cases action with
  | txn ages txn =>
      cases txn with
      | createAgent =>
          cases stepped with
          | txn ran =>
              obtain ⟨agent, run, _⟩ := map_ok ran
              obtain ⟨agents, inserted, rfl, ofParent, _, _, parentLive⟩ :=
                createAgent_ok run
              exact .created inserted ofParent parentLive
      | revokeAgent =>
          cases stepped with
          | txn ran =>
              obtain ⟨_, run, _⟩ := map_ok ran
              obtain ⟨agent, visited, found, walked, rfl⟩ :=
                revokeAgent_ok run
              exact .revoked found walked
      | _ => exact kept nofun nofun
  | _ => exact kept nofun nofun

/-- A move that has read the agents as they are keeps the flags closed. -/
theorem AgentsMove.isSealed
    {agents : Table Agent}
    (move : AgentsMove s action agents)
    (undisturbed : Undisturbed env s action)
    (isSealed : s.db.Sealed) :
    ({ s.db with agents := agents } : Db).Sealed := by
  cases move with
  | still => exact isSealed
  | @created ages principalId newId parentId agent _ inserted ofParent
      parentLive =>
      -- The parent was seen live, and it is as it was seen.
      have parentStored :
          ∀ id, parentId = some id →
            ∃ parent, s.db.agents.find id = some parent ∧
              parent.revoked = false := by
        rintro id rfl
        obtain ⟨parent, found, live, _⟩ := parentLive id rfl
        exact ⟨parent, undisturbed.symm.trans found, live⟩
      rw [← ofParent] at parentStored
      exact isSealed.added inserted parentStored
  | @revoked ages fuel agentId agent visited found walked =>
      obtain ⟨childrenShown, walkShown⟩ := undisturbed
      obtain ⟨_, stackIn, closed⟩ :=
        revokeWalk_closed walked walkShown (by simp)
      apply isSealed.flagging
      intro parentId listed childId isChild
      rcases List.mem_cons.mp listed with rfl | isVisited
      · have shown := childrenShown isChild
        exact List.mem_cons_of_mem _ (stackIn (List.mem_reverse.mpr shown))
      · exact List.mem_cons_of_mem _ (closed parentId isVisited isChild)

/-- A step that has read the agents as they are keeps the flags closed. -/
theorem Stepped.isSealed
    (stepped : Stepped env discipline s action s')
    (undisturbed : Undisturbed env s action)
    (isSealed : s.db.Sealed) :
    s'.db.Sealed := by
  have moved := stepped.agents.isSealed undisturbed isSealed
  exact { ofParent := moved.ofParent, descends := moved.descends }

/-- An agent that is newly reported revoked is flagged. -/
theorem Stepped.reported
    {agentId : Id}
    (stepped : Stepped env discipline s action s')
    (kept : s.Kept env)
    (reported : .agentRevoked agentId ∈ s'.log) :
    .agentRevoked agentId ∈ s.log ∨ s'.db.Flagged agentId := by
  cases stepped with
  | @txn ages txn entries db' ran effect =>
      rcases List.mem_append.mp reported with isOld | isNew
      · exact .inl isOld
      · right
        obtain ⟨fuel, isRevoke⟩ := effect.reports isNew
        cases isRevoke
        obtain ⟨_, run, _⟩ := map_ok ran
        obtain ⟨agent, visited, found, _, rfl⟩ := revokeAgent_ok run
        obtain ⟨row, stored, _⟩ := (kept.seen ages 0).agents _ _ found
        exact flagged_flagging.mpr (.inr ⟨⟨row, stored⟩, List.mem_cons_self⟩)
  | _ =>
      left
      simpa [Sys.commit, Sys.advance, Sys.record] using reported

end Steps

section Runs

variable
  {env : Env}
  {allowed : Sys → Action → Prop}
  {s s' : Sys}

/-- When nothing read is out of date, flags are closed downwards. -/
theorem reachable_sealed
    (undisturbed : ∀ s action, allowed s action → Undisturbed env s action)
    (reachable : Reachable env allowed s) :
    s.db.Sealed := by
  apply reachable_invariant .free (fun s => s.db.Sealed) _ _ _ reachable
  · intro s action _
    exact Discipline.free_allows action
  · exact { ofParent := nofun, descends := nofun }
  · intro s s' action _ isSealed isAllowed stepped
    exact stepped.isSealed (undisturbed s action isAllowed) isSealed

/-- Agents that are reported revoked are flagged. -/
theorem reachable_reported
    (reachable : Reachable env allowed s) :
    ∀ agentId, .agentRevoked agentId ∈ s.log → s.db.Flagged agentId := by
  apply reachable_invariant .free
    (fun s =>
      ∀ agentId, .agentRevoked agentId ∈ s.log → s.db.Flagged agentId)
    _ _ _ reachable
  · intro s action _
    exact Discipline.free_allows action
  · intro agentId reported
    cases reported
  · intro s s' action isReachable holds _ stepped agentId reported
    rcases stepped.reported (reachable_kept isReachable) reported with
      isOld | flagged
    · exact (holds agentId isOld).evolves stepped.evolves
    · exact flagged

/-- The agents of stored mandates are stored. -/
theorem reachable_ofAgent
    (reachable : Reachable env allowed s) :
    ∀ mandate ∈ s.db.mandates.rows, s.db.HasAgent mandate.agentId := by
  apply reachable_db_invariant .free
    (fun db => ∀ mandate ∈ db.mandates.rows, db.HasAgent mandate.agentId)
    _ _ _ reachable
  · intro s action _
    exact Discipline.free_allows action
  · intro mandate member
    cases member
  · intro s origin entries db' _ effect holds mandate member
    have evolves := effect.evolves
    rcases effect.mandate_origin member with ⟨before, found⟩ | issued
    · have same : before.SameTerms mandate :=
        evolves.mandates.related found (Table.find_of_mem member)
      have stored := (holds before (Table.mem_of_find found)).evolves evolves
      rw [same.1]
      exact stored
    · exact Db.HasAgent.evolves issued.ofAgent evolves

/-- What was debited in time could be debited. -/
theorem debitable_of_debit
    {db : Db}
    {old : Mandate}
    {reservation : Reservation}
    {reservations : Table Reservation}
    {now : Datetime}
    (debit : Debit db old reservation reservations)
    (inTime : notExpired now old = true) :
    Debitable db now old.id reservation.amountCents := by
  refine ⟨old, debit.found, ?_⟩
  simp only [debitGuard, Bool.and_eq_true, decide_eq_true_eq,
    Bool.not_eq_true', Option.all_eq_true]
  exact ⟨⟨⟨debit.covered, debit.live⟩, debit.belowMax⟩, inTime⟩

/-- A call that has reserved has passed its checks, and its debit was covered. -/
theorem reserves_of_reserved
    {ages : List Nat}
    {request : InvokeRequest}
    {draw : InvokeDraw}
    {attempt : Attempt}
    {db' : Db}
    (returned :
      exec (invokeBegin env (s.views ages) request draw) s.db =
        (.ok (.reserved attempt), db'))
    (kept : s.Kept env) :
    ∃ mandate price, Reserves env s ages request draw mandate price := by
  obtain ⟨mandate, price, passes, ran⟩ := passes_of_reserved returned
  obtain ⟨taskId, booked, books, reserveRun⟩ := bookAndReserve_iff.mp ran
  obtain ⟨row, stored, same⟩ :=
    (gate_passes_iff.mp passes).stored (kept.seen ages)
  have sameMandates := books.others.1
  have samePrincipal :
      ∀ row, booked.mandates.find mandate.id = some row →
        row.principalId = mandate.principalId := by
    rw [sameMandates]
    intro other found
    cases stored.symm.trans found
    rw [same.1]
  rcases reserveOrAnswer_ok reserveRun samePrincipal with
    ⟨_, isAnswer, _⟩ |
    ⟨opened, old, _, _, _, _, opening, sameId, isMandate, inTime, _, _,
      isPrice, isInvocation, _⟩
  · cases isAnswer
  · refine ⟨mandate, price, passes, ?_, ?_⟩
    · rw [← books.claimOf]
      unfold claimOf
      cases given : truthy request.idempotencyKey with
      | none => rfl
      | some key =>
          refine opening.unclaimed (mandate.principalId, key) ?_
          have ofPrincipal :
              opened.mandate.principalId = mandate.principalId := by
            rw [isMandate]
            exact samePrincipal old (sameId ▸ opening.debit.found)
          rw [isInvocation]
          simp [Invocation.operation, reservedInvocation, given, ofPrincipal]
    · have isAmount : opened.reservation.amountCents = price := by
        rw [← opening.sameAmount, isInvocation]
        rfl
      obtain ⟨debitedRow, found, guarded⟩ :=
        debitable_of_debit opening.debit inTime
      refine ⟨debitedRow, ?_, isAmount ▸ guarded⟩
      rw [← sameId, ← sameMandates]
      exact found

/-- A call is an old one, or one that its step has reserved. -/
theorem reserves_of_member
    {ages : List Nat}
    {request : InvokeRequest}
    {draw : InvokeDraw}
    {call : InvokeCall}
    (kept : s.Kept env)
    (taken : step env s (.invoke ages request draw) = some s')
    (member : call ∈ s'.calls.rows) :
    call ∈ s.calls.rows ∨
      ∃ mandate price, Reserves env s ages request draw mandate price := by
  rcases step_invoke taken with ⟨result, _, log⟩ | ⟨attempt, returned, _⟩
  · left
    cases stepped kept (Discipline.free_allows _) taken with
    | answered => exact member
    | began => cases List.append_cancel_left log
  · exact .inr (reserves_of_reserved returned kept)

/-- A mandate whose agent was read live, and is as it was read. -/
theorem Begins.agentLive
    {ages : List Nat}
    {request : InvokeRequest}
    {draw : InvokeDraw}
    {loaded : Mandate}
    {attempt : Attempt}
    (begins : Begins env (s.views ages) request draw s.db loaded attempt)
    (asRead :
      (s.views ages 2).agents.find loaded.agentId =
        s.db.agents.find loaded.agentId) :
    s.db.HasAgent loaded.agentId ∧ ¬ s.db.Flagged loaded.agentId := by
  obtain ⟨_, _, agent, live⟩ := loadLiveMandate_ok begins.live
  obtain ⟨agentFound, unrevoked, _⟩ := requireLiveAgent_ok live
  have stored := asRead.symm.trans agentFound
  refine ⟨⟨agent, stored⟩, ?_⟩
  rintro ⟨row, rowFound, revoked⟩
  cases stored.symm.trans rowFound
  rw [unrevoked] at revoked
  cases revoked

/-- The mandate of the call has the agent or an agent below it. -/
def Sys.SpendsBeneath (s : Sys) (agentId : Id) (call : InvokeCall) : Prop :=
  ∃ mandate,
    s.db.mandates.find call.attempt.invocation.mandateId = some mandate ∧
      s.db.Beneath agentId mandate.agentId

/-- A call that is not below an agent never comes to be below it. -/
theorem Stepped.spendsBeneath
    {discipline : Discipline}
    {action : Action}
    {agentId : Id}
    {before call : InvokeCall}
    (stepped : Stepped env discipline s action s')
    (reachable : Reachable env allowed s)
    (isSealed : s.db.Sealed)
    (inOld : before ∈ s.calls.rows)
    (same : before.attempt = call.attempt)
    (spends : s'.SpendsBeneath agentId call) :
    s.SpendsBeneath agentId before := by
  obtain ⟨mandate, found, beneath⟩ := spends
  have stored := (reachable_kept reachable).calls before inOld
  obtain ⟨old, oldFound, _⟩ := stored.loaded
  rw [stored.ofMandate] at oldFound
  rw [← same] at found
  have sameTerms := stepped.evolves.mandates.related oldFound found
  rw [sameTerms.1] at beneath
  exact ⟨old, oldFound,
    isSealed.beneath stepped.evolves
      (reachable_ofAgent reachable old (Table.mem_of_find oldFound)) beneath⟩

/-- A call that begins is not below a flagged agent. -/
theorem Begins.notBeneath
    {discipline : Discipline}
    {ages : List Nat}
    {request : InvokeRequest}
    {draw : InvokeDraw}
    {loaded : Mandate}
    {agentId : Id}
    {call : InvokeCall}
    (begins :
      Begins env (s.views ages) request draw s.db loaded call.attempt)
    (stepped : Stepped env discipline s (.invoke ages request draw) s')
    (stored : call.attempt.Stored env s'.db)
    (kept : s.Kept env)
    (isSealed : s.db.Sealed)
    (asRead :
      (s.views ages 2).agents.find loaded.agentId =
        s.db.agents.find loaded.agentId)
    (flagged : s.db.Flagged agentId) :
    ¬ s'.SpendsBeneath agentId call := by
  rintro ⟨mandate, found, beneath⟩
  obtain ⟨hasAgent, live⟩ := begins.agentLive asRead
  obtain ⟨loadedFound, _, _⟩ := loadLiveMandate_ok begins.live
  have requested := stored.requested
  rw [begins.isRequest] at requested
  rw [requested.mandate] at found
  have evolves := (kept.seen ages 0).trans stepped.evolves
  have sameTerms := evolves.mandates.related loadedFound found
  rw [sameTerms.1] at beneath
  have wasBeneath := isSealed.beneath stepped.evolves hasAgent beneath
  exact live (isSealed.flagged wasBeneath flagged)

/--
Revocation ends spending.  When no transaction has read agents that are out of
date, no call that is opened after an agent was revoked is below that agent.
-/
theorem revocation_ends_spending
    {agentId : Id}
    {call : InvokeCall}
    {mandate : Mandate}
    (reachable : Reachable env (Undisturbed env) s)
    (revoked : .agentRevoked agentId ∈ s.log)
    (later : Later env (Undisturbed env) s s')
    (member : call ∈ s'.calls.rows)
    (opened : s.calls.find call.attempt.invocation.id = none)
    (found :
      s'.db.mandates.find call.attempt.invocation.mandateId =
        some mandate) :
    ¬ s'.db.Beneath agentId mandate.agentId := by
  have ends :=
    Transition.later_invariant
      (fun s' =>
        s'.db.Flagged agentId ∧
          ∀ call ∈ s'.calls.rows,
            s.calls.find call.attempt.invocation.id = none →
              ¬ s'.SpendsBeneath agentId call)
      ?kept reachable ⟨reachable_reported reachable agentId revoked, ?now⟩
      later
  case now =>
    intro call member opened
    cases (Table.find_of_mem member).symm.trans opened
  case kept =>
    rintro s₁ s₂ isReachable ⟨flagged, none⟩ ⟨action, undisturbed, taken⟩
    have kept := reachable_kept isReachable
    have isSealed := reachable_sealed (fun _ _ given => given) isReachable
    have shape := stepped kept (Discipline.free_allows action) taken
    refine ⟨flagged.evolves shape.evolves, ?_⟩
    intro call member opened spends
    rcases shape.call_origin call member with
      ⟨before, inOld, same⟩ |
      ⟨ages, request, draw, loaded, rfl, begins, stored⟩
    · exact none before inOld (same ▸ opened)
        (shape.spendsBeneath isReachable isSealed inOld same spends)
    · rcases reserves_of_member kept taken member with
        inOld | ⟨mandate, price, reserves⟩
      · exact none call inOld opened
          (shape.spendsBeneath isReachable isSealed inOld rfl spends)
      · have live := (gate_passes_iff.mp reserves.passes).live
        cases live.symm.trans begins.live
        exact begins.notBeneath shape stored kept isSealed
          (undisturbed loaded price reserves) flagged spends
  intro beneath
  exact ends.2 call member opened ⟨mandate, found, beneath⟩

end Runs

/-! ## Runs one after the other -/

/-- A walk that sees the stored agents shows every child. -/
theorem walkShows_self
    (db : Db)
    (fuel statement : Nat)
    (stack : List Id) :
    WalkShows (fun _ => db) db fuel statement stack := by
  induction fuel generalizing statement stack with
  | zero =>
      exact trivial
  | succ fuel inductionHypothesis =>
      cases stack with
      | nil => exact trivial
      | cons head rest =>
          exact ⟨List.Subset.refl _, inductionHypothesis _ _⟩

/-- The statements of the transaction see what it commits on. -/
def Action.isSerial : Action → Bool
  | .txn ages _ | .invoke ages _ _ => ages.isEmpty
  | _ => true

/-- A transaction that runs alone has read nothing that is out of date. -/
theorem undisturbed_of_serial
    {env : Env}
    {s : Sys}
    {action : Action}
    (serial : action.isSerial = true) :
    Undisturbed env s action := by
  cases action with
  | txn ages txn =>
      obtain rfl := List.isEmpty_iff.mp serial
      cases txn with
      | createAgent principalId parentId newId =>
          cases parentId with
          | none => trivial
          | some parentId => exact rfl
      | revokeAgent fuel agentId =>
          exact ⟨List.Subset.refl _, walkShows_self _ _ _ _⟩
      | _ => trivial
  | invoke ages request draw =>
      obtain rfl := List.isEmpty_iff.mp serial
      intro mandate _ _
      exact rfl
  | _ => trivial

/-- Runs of transactions that run alone are undisturbed. -/
theorem Permitted.serial
    {env : Env}
    {actions : List Action}
    (serial : actions.all Action.isSerial = true)
    (s : Sys) :
    Permitted env (Undisturbed env) s actions := by
  apply Permitted.of_forall
  intro action member s
  exact undisturbed_of_serial (List.all_eq_true.mp serial action member)

/-- After the first agent was revoked, a call is opened for an agent. -/
def callsAfterRevocation (agentId : Id) (s s' : Sys) : Bool :=
  .agentRevoked 1 ∈ s.log &&
    (s.calls.find 1).isNone &&
    (s'.calls.find 1).any fun call =>
      (s'.db.mandates.find call.attempt.invocation.mandateId).any
        (·.agentId = agentId)

/-- What the check of two ends of a run says. -/
theorem callsAfterRevocation_iff
    {agentId : Id}
    {s s' : Sys}
    (passes : callsAfterRevocation agentId s s' = true) :
    ∃ call mandate,
      .agentRevoked 1 ∈ s.log ∧
        call ∈ s'.calls.rows ∧
        s.calls.find call.attempt.invocation.id = none ∧
        s'.db.mandates.find call.attempt.invocation.mandateId =
          some mandate ∧
        mandate.agentId = agentId := by
  obtain ⟨passes, isOpen⟩ := Bool.and_eq_true_iff.mp passes
  obtain ⟨logged, absent⟩ := Bool.and_eq_true_iff.mp passes
  obtain ⟨call, isCall, ofMandate⟩ := (Option.any_eq_true _ _).mp isOpen
  obtain ⟨mandate, found, ofAgent⟩ := (Option.any_eq_true _ _).mp ofMandate
  have isKey : call.attempt.invocation.id = 1 := Table.key_of_find isCall
  refine ⟨call, mandate, of_decide_eq_true logged, Table.mem_of_find isCall,
    ?_, found, of_decide_eq_true ofAgent⟩
  rw [isKey]
  exact Option.isNone_iff_eq_none.mp absent

/-- The second of two agents goes on spending when the first is revoked. -/
theorem revocation_ends_spending_example :
    ∃ s s' call mandate,
      Reachable .plain (Undisturbed .plain) s ∧
        .agentRevoked 1 ∈ s.log ∧
        Later .plain (Undisturbed .plain) s s' ∧
        call ∈ s'.calls.rows ∧
        s'.db.mandates.find call.attempt.invocation.mandateId =
          some mandate ∧
        ¬ s'.db.Beneath 1 mandate.agentId := by
  let revokeFirst : List Action :=
    deploy ++
      [.txn [] (.createAgent 1 none 2),
        .txn []
          (.issueMandate noon noon
            { principalId := 1, agentId := 2, spendLimitCents := 40 } 2 "n2"),
        .txn [] (.revokeAgent 5 1)]
  let spend : List Action :=
    [.invoke [] { call with mandateId := 2 } (drawTen 1)]
  have checked :
      (run .plain Sys.start revokeFirst).any
          (fun s => (run .plain s spend).any (callsAfterRevocation 2 s)) =
        true := by
    decide
  obtain ⟨s, s', reachable, later, passes⟩ :=
    later_of_check (.serial (by decide) _) (.serial (by decide)) checked
  obtain ⟨call, mandate, revoked, member, opened, found, _⟩ :=
    callsAfterRevocation_iff passes
  exact ⟨s, s', call, mandate, reachable, revoked, later, member, found,
    revocation_ends_spending reachable revoked later member opened found⟩

/--
A call whose liveness checks ran before the revocation was committed debits its
mandate afterwards.
-/
theorem revoked_agent_spends :
    ∃ s s' call mandate,
      Reachable .plain (fun _ _ => True) s ∧
        .agentRevoked 1 ∈ s.log ∧
        Later .plain (fun _ _ => True) s s' ∧
        call ∈ s'.calls.rows ∧
        s.calls.find call.attempt.invocation.id = none ∧
        s'.db.mandates.find call.attempt.invocation.mandateId =
          some mandate ∧
        s'.db.Beneath 1 mandate.agentId := by
  -- The SELECTs of the call see the state before the revocation.
  let spend : List Action := [.invoke [1, 1, 1, 1, 1, 1] call (drawTen 1)]
  have checked :
      (run .plain Sys.start (deploy ++ [.txn [] (.revokeAgent 5 1)])).any
          (fun s => (run .plain s spend).any (callsAfterRevocation 1 s)) =
        true := by
    decide
  obtain ⟨s, s', reachable, later, passes⟩ :=
    later_of_check (.of_forall (fun _ _ _ => trivial) _)
      (.of_forall fun _ _ _ => trivial) checked
  obtain ⟨call, mandate, revoked, member, opened, found, ofFirst⟩ :=
    callsAfterRevocation_iff passes
  refine ⟨s, s', call, mandate, reachable, revoked, later, member, opened,
    found, ?_⟩
  rw [ofFirst]
  exact .refl _ 1

/--
An agent created below an agent that gets revoked meanwhile stays live, so the
agents below it can spend for good.
-/
example :
    (run .plain Sys.start
        (deploy ++
          [.txn [] (.revokeAgent 5 1),
            .txn [1] (.createAgent 1 (some 1) 2),
            .txn [] (.createAgent 1 (some 2) 3),
            .txn []
              (.issueMandate noon noon
                { principalId := 1, agentId := 3, spendLimitCents := 40 } 2
                "n2"),
            .invoke [] { call with mandateId := 2 } (drawTen 1)])).any
        (fun s => (s.calls.find 1).isSome) =
      true := by
  decide

end Crossing
