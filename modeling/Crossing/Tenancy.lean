import Crossing.Issuance
import Crossing.Revocation

namespace Crossing

open Relational

/-!
# Principals in the trees of agents and mandates

`issue_mandate` never compares the principal of the parent mandate with the one
it is called for.  Both have it from their agents: a mandate has the principal
of its agent, the agent of a child is below the agent of its parent, and agents
are created under agents of their own principal.
-/

/-! ## The walk up the agents -/

section Walk

variable {db db' : Db} {ancestorId agentId : Id}

/-- A walk that arrives has followed parent links from the current agent. -/
theorem ancestorWalk_sound
    {fuel : Nat}
    {current : Agent}
    {seen : List Id}
    (found : db.agents.find current.id = some current)
    (walked :
      ancestorWalk db.agents ancestorId fuel (some current) seen =
        some true) :
    db.Beneath ancestorId current.id := by
  induction fuel generalizing current seen with
  | zero =>
      cases walked
  | succ fuel inductionHypothesis =>
      unfold ancestorWalk at walked
      cases above : current.parentId with
      | none =>
          simp [above] at walked
      | some parentId =>
          have link : db.agentParent current.id = some parentId := by
            unfold Db.agentParent
            rw [found]
            exact above
          simp only [above] at walked
          split at walked
          · rename_i arrived
            subst arrived
            exact .step link (.refl _ parentId)
          · split at walked
            · cases walked
            · cases parentFound : db.agents.find parentId with
              | none =>
                  simp [parentFound, ancestorWalk] at walked
              | some parent =>
                  have parentKey : parent.id = parentId :=
                    Table.key_of_find parentFound
                  subst parentKey
                  rw [parentFound] at walked
                  exact .step link (inductionHypothesis parentFound walked)

/-- `is_self_or_descendant` answers only for agents below the ancestor. -/
theorem isSelfOrDescendant_sound
    (walked :
      isSelfOrDescendant db.agents agentId ancestorId = some true) :
    db.Beneath ancestorId agentId := by
  unfold isSelfOrDescendant at walked
  split at walked
  · rename_i same
    subst same
    exact .refl _ agentId
  · cases found : db.agents.find agentId with
    | none =>
        simp [found, ancestorWalk] at walked
    | some agent =>
        have agentKey : agent.id = agentId := Table.key_of_find found
        subst agentKey
        rw [found] at walked
        exact ancestorWalk_sound found walked

/-- The agents above an agent stay above it. -/
theorem Db.Beneath.evolves
    (beneath : db.Beneath ancestorId agentId)
    (evolves : Evolves db db') :
    db'.Beneath ancestorId agentId := by
  refine Delegation.SelfOrAncestor.mono ?_ beneath
  intro childId parentId link
  obtain ⟨child, found, _⟩ := Option.bind_eq_some_iff.mp link
  rw [Db.HasAgent.sameParent ⟨child, found⟩ evolves]
  exact link

end Walk

/-! ## The invariant -/

namespace Db

/-- The agent is stored and belongs to the principal. -/
def AgentOf (db : Db) (principalId agentId : Id) : Prop :=
  ∃ agent, db.agents.find agentId = some agent ∧
    agent.principalId = principalId

/-- Principals do not mix in the trees of agents and mandates. -/
structure Unmixed (db : Db) : Prop where
  ofParent :
    ∀ agent ∈ db.agents.rows, ∀ parentId,
      agent.parentId = some parentId →
        db.AgentOf agent.principalId parentId
  ofAgent :
    ∀ mandate ∈ db.mandates.rows,
      db.AgentOf mandate.principalId mandate.agentId
  ofMandate :
    ∀ child ∈ db.mandates.rows, ∀ parentId,
      child.parentMandateId = some parentId →
        ∃ parent, db.mandates.find parentId = some parent ∧
          parent.principalId = child.principalId ∧
          db.Beneath parent.agentId child.agentId

end Db

section Invariant

variable {db db' : Db} {principalId agentId rootId : Id}

/-- Agents keep their principals. -/
theorem Db.AgentOf.evolves
    (ofPrincipal : db.AgentOf principalId agentId)
    (evolves : Evolves db db') :
    db'.AgentOf principalId agentId := by
  obtain ⟨agent, found, isPrincipal⟩ := ofPrincipal
  obtain ⟨agent', found', same⟩ := evolves.agents _ _ found
  refine ⟨agent', found', ?_⟩
  rw [same.1]
  exact isPrincipal

/-- An agent belongs to one principal. -/
theorem Db.AgentOf.unique
    {otherId : Id}
    (one : db.AgentOf principalId agentId)
    (two : db.AgentOf otherId agentId) :
    principalId = otherId := by
  obtain ⟨agent, found, rfl⟩ := one
  obtain ⟨agent', found', rfl⟩ := two
  cases found.symm.trans found'
  rfl

/-- The agents above an agent belong to its principal. -/
theorem Db.Unmixed.above
    (unmixed : db.Unmixed)
    (beneath : db.Beneath rootId agentId)
    (ofPrincipal : db.AgentOf principalId agentId) :
    db.AgentOf principalId rootId := by
  refine beneath.ascend ?_ ofPrincipal
  rintro childId parentId link ⟨child, found, rfl⟩
  obtain ⟨row, rowFound, isParent⟩ := Option.bind_eq_some_iff.mp link
  cases found.symm.trans rowFound
  exact unmixed.ofParent child (Table.mem_of_find found) parentId isParent

end Invariant

/-! ## What a step keeps -/

section Steps

variable
  {env : Env}
  {discipline : Discipline}
  {s s' : Sys}
  {action : Action}

/-- An agent was stored before, or it is created under one of its principal. -/
theorem AgentsMove.agent_origin
    {agents : Table Agent}
    {agent : Agent}
    (move : AgentsMove s action agents)
    (kept : s.Kept env)
    (member : agent ∈ agents.rows) :
    (∃ before, s.db.agents.find agent.id = some before) ∨
      ∀ parentId, agent.parentId = some parentId →
        s.db.AgentOf agent.principalId parentId := by
  cases move with
  | still =>
      exact .inl ⟨agent, Table.find_of_mem member⟩
  | @created ages principalId newId _ created _ inserted ofParent
      parentLive =>
      rcases (Table.mem_insert inserted).mp member with inOld | rfl
      · exact .inl ⟨agent, Table.find_of_mem inOld⟩
      · right
        intro parentId isParent
        obtain ⟨parent, found, _, ofPrincipal⟩ :=
          parentLive parentId (ofParent.symm.trans isParent)
        exact Db.AgentOf.evolves ⟨parent, found, ofPrincipal⟩
          (kept.seen ages 0)
  | revoked =>
      left
      have found := Table.find_of_mem member
      rw [find_revokeAll] at found
      obtain ⟨before, beforeFound, _⟩ := Option.map_eq_some_iff.mp found
      exact ⟨before, beforeFound⟩

/-- The agent and the parent of a mandate that is issued. -/
theorem Issues.unmixed
    {mandate : Mandate}
    (issues : Issues env s mandate action)
    (kept : s.Kept env)
    (unmixed : s.db.Unmixed) :
    s.db.AgentOf mandate.principalId mandate.agentId ∧
      ∀ parentId, mandate.parentMandateId = some parentId →
        ∃ parent, s.db.mandates.find parentId = some parent ∧
          parent.principalId = mandate.principalId ∧
          s.db.Beneath parent.agentId mandate.agentId := by
  obtain ⟨issued⟩ := issues
  rename_i ages now debitNow args newId freshNonce
  have seen := kept.seen ages
  obtain ⟨nonce, signature, pubkeyHex, isRow⟩ := issued.isRow
  have ofAgent : s.db.AgentOf mandate.principalId mandate.agentId := by
    obtain ⟨agent, found, _, ofPrincipal⟩ := issued.ofAgent
    subst isRow
    exact Db.AgentOf.evolves ⟨agent, found, ofPrincipal⟩ (seen 0)
  refine ⟨ofAgent, ?_⟩
  intro parentId link
  obtain ⟨loaded, parent, checked, found, same, _⟩ :=
    issued.parentChecked link
  have beneath : s.db.Beneath parent.agentId mandate.agentId := by
    have walked := isSelfOrDescendant_sound checked.descends
    have sameAgent : parent.agentId = loaded.agentId := by rw [same.1]
    rw [sameAgent, isRow]
    exact walked.evolves (seen 4)
  -- Both mandates have the principal of the parent's agent.
  have ofParent := unmixed.ofAgent parent (Table.mem_of_find found)
  have ofMandate := unmixed.above beneath ofAgent
  exact ⟨parent, found, ofParent.unique ofMandate, beneath⟩

/-- Every step keeps principals unmixed. -/
theorem Stepped.unmixed
    (stepped : Stepped env discipline s action s')
    (kept : s.Kept env)
    (unmixed : s.db.Unmixed) :
    s'.db.Unmixed := by
  have evolves := stepped.evolves
  refine { ofParent := ?_, ofAgent := ?_, ofMandate := ?_ }
  · intro agent member parentId link
    rcases stepped.agents.agent_origin kept member with
      ⟨before, found⟩ | ofParent
    · have same := evolves.agents.related found (Table.find_of_mem member)
      rw [same.1] at link ⊢
      have ofParent :=
        unmixed.ofParent before (Table.mem_of_find found) parentId link
      exact ofParent.evolves evolves
    · exact (ofParent parentId link).evolves evolves
  · intro mandate member
    rcases stepped.mandate_origin kept member with ⟨before, found⟩ | issues
    · have same := evolves.mandates.related found (Table.find_of_mem member)
      rw [same.1]
      exact (unmixed.ofAgent before (Table.mem_of_find found)).evolves evolves
    · exact (issues.unmixed kept unmixed).1.evolves evolves
  · intro child member parentId link
    have later
        (parent : Mandate)
        (found : s.db.mandates.find parentId = some parent)
        (ofPrincipal : parent.principalId = child.principalId)
        (beneath : s.db.Beneath parent.agentId child.agentId) :
        ∃ parent, s'.db.mandates.find parentId = some parent ∧
          parent.principalId = child.principalId ∧
          s'.db.Beneath parent.agentId child.agentId := by
      obtain ⟨parent', found', same⟩ := evolves.mandates _ _ found
      refine ⟨parent', found', ?_⟩
      rw [same.1]
      exact ⟨ofPrincipal, beneath.evolves evolves⟩
    rcases stepped.mandate_origin kept member with ⟨before, found⟩ | issues
    · have same := evolves.mandates.related found (Table.find_of_mem member)
      rw [same.parentMandateId] at link
      obtain ⟨parent, parentFound, ofPrincipal, beneath⟩ :=
        unmixed.ofMandate before (Table.mem_of_find found) parentId link
      refine later parent parentFound ?_ ?_
      · rw [same.1]
        exact ofPrincipal
      · rw [same.1]
        exact beneath
    · obtain ⟨parent, parentFound, ofPrincipal, beneath⟩ :=
        (issues.unmixed kept unmixed).2 parentId link
      exact later parent parentFound ofPrincipal beneath

end Steps

section Runs

variable
  {env : Env}
  {allowed : Sys → Action → Prop}
  {s : Sys}

/-- Principals are unmixed in every reachable state. -/
theorem reachable_unmixed
    (reachable : Reachable env allowed s) :
    s.db.Unmixed := by
  apply reachable_invariant .free (fun s => s.db.Unmixed) _ _ _ reachable
  · intro s action _
    exact Discipline.free_allows action
  · refine { ofParent := ?_, ofAgent := ?_, ofMandate := ?_ }
    · intro agent member
      cases member
    · intro mandate member
      cases member
    · intro child member
      cases member
  · intro s s' action isReachable unmixed _ stepped
    exact stepped.unmixed (reachable_kept isReachable) unmixed

/-- `issue_mandate` leaves the mandates of other principals as they are. -/
def Sys.EscrowsOwn (env : Env) (s : Sys) : Prop :=
  ∀ ages now debitNow args newId freshNonce s',
    step env s
        (.txn ages (.issueMandate now debitNow args newId freshNonce)) =
      some s' →
    ∀ row ∈ s.db.mandates.rows,
      row.principalId ≠ args.principalId →
        s'.db.mandates.find row.id = some row

/--
Principals never mix: agents and mandates have the principal of their parents,
mandates have that of their agents, the agent of a child is below the agent of
its parent, and nobody escrows from the mandates of another principal.
-/
theorem principals_never_mix
    (reachable : Reachable env (fun _ _ => True) s) :
    s.db.Unmixed ∧ s.EscrowsOwn env := by
  have kept := reachable_kept reachable
  have unmixed := reachable_unmixed reachable
  refine ⟨unmixed, ?_⟩
  intro ages now debitNow args newId freshNonce s' taken row member foreign
  have shape := stepped kept (Discipline.free_allows _) taken
  obtain ⟨mandate, issued, change⟩ := shape.issued kept
  refine change.find_other (Table.find_of_mem member) ?_
  intro isParent
  have issues :
      Issues env s mandate
        (.txn ages
          (.issueMandate now debitNow args newId freshNonce)) :=
    .intro issued
  obtain ⟨parent, found, ofPrincipal, _⟩ :=
    (issues.unmixed kept unmixed).2 row.id isParent
  cases found.symm.trans (Table.find_of_mem member)
  obtain ⟨_, _, _, rfl⟩ := issued.isRow
  exact foreign ofPrincipal

end Runs

/-- A tenant whose agent has passed a mandate on to an agent below it. -/
def delegate : List Action :=
  deploy ++
    [.txn [] (.createAgent 1 (some 1) 2),
      .txn []
        (.issueMandate noon noon
          { principalId := 1
            agentId := 2
            spendLimitCents := 40
            parentMandateId := some 1 }
          2 "n2")]

/-- The law for a mandate that was delegated to an agent below. -/
theorem principals_never_mix_example :
    ∃ s child,
      Reachable .plain (fun _ _ => True) s ∧
        s.db.mandates.find 2 = some child ∧
        child.parentMandateId = some 1 ∧
        child.agentId = 2 ∧
        s.db.Unmixed ∧
        s.EscrowsOwn .plain := by
  have checked :
      (run .plain Sys.start delegate).any
          (fun s =>
            (s.db.mandates.find 2).any
              (fun row => row.parentMandateId = some 1 && row.agentId = 2)) =
        true := by
    decide
  obtain ⟨s, reachable, passes⟩ :=
    reachable_of_check (.of_forall (fun _ _ _ => trivial) _) checked
  obtain ⟨child, found, passes⟩ := (Option.any_eq_true _ _).mp passes
  obtain ⟨link, ofAgent⟩ := Bool.and_eq_true_iff.mp passes
  exact ⟨s, child, reachable, found, of_decide_eq_true link,
    of_decide_eq_true ofAgent, principals_never_mix reachable⟩

end Crossing
