import Crossing.TenantShare
import Crossing.Tenancy

namespace Crossing

open Relational
open Relational.Transaction

/-!
# Tenants write to their own rows

A handler compares the account of its caller with one principal, while its
operation follows other ids: the parent of an agent, the parent of a mandate,
the agents below a revoked one.  Principals are unmixed in every reachable
state, so these rows belong to the same principal.
-/

/-! ## What a handler has checked -/

section Checks

variable
  {env : Env}
  {s : Sys}
  {ages : List Nat}
  {ctx : AuthContext}
  {db db' : Db}

/-- `_own_principal` lets a tenant go on with its own principals. -/
theorem ownPrincipal_ok
    {view : Db}
    {principalId : Id}
    {principal : Principal}
    (tenant : ctx.isAdmin = false)
    (ran :
      exec (ownPrincipal view ctx principalId) db = (.ok principal, db')) :
    view.owns ctx.accountId principalId = true ∧ db' = db := by
  obtain ⟨loaded, _, loadRun, rest⟩ := bind_ok ran
  obtain ⟨found, rfl⟩ := orRaise_ok loadRun
  obtain ⟨_, _, checkRun, answer⟩ := bind_ok rest
  obtain ⟨passed, rfl⟩ := raiseWhen_ok checkRun
  cases answer
  refine ⟨Db.owns_iff.mpr ⟨principal, found, ?_⟩, rfl⟩
  by_contra foreign
  exact passed ⟨tenant, foreign⟩

/-- The principals of the account. -/
theorem mem_principalIds
    {view : Db}
    {principalId : Id} :
    principalId ∈ principalIds view ctx ↔
      view.owns ctx.accountId principalId = true := by
  unfold principalIds
  rw [List.mem_map, Db.owns_iff]
  constructor
  · rintro ⟨principal, member, rfl⟩
    obtain ⟨stored, ofAccount⟩ := List.mem_filter.mp member
    exact ⟨principal, Table.find_of_mem stored, by simpa using ofAccount⟩
  · rintro ⟨principal, found, ofAccount⟩
    refine ⟨principal, ?_, Table.key_of_find found⟩
    exact List.mem_filter.mpr
      ⟨Table.mem_of_find found, by simpa using ofAccount⟩

/-- `_own_mandate` lets a tenant go on with the mandates of its principals. -/
theorem ownMandate_ok
    {views : Views}
    {mandateId : Id}
    {mandate : Mandate}
    (tenant : ctx.isAdmin = false)
    (ran : exec (ownMandate views ctx mandateId) db = (.ok mandate, db')) :
    (views 0).mandates.find mandateId = some mandate ∧
      (views 1).owns ctx.accountId mandate.principalId = true ∧
      db' = db := by
  obtain ⟨loaded, _, loadRun, rest⟩ := bind_ok ran
  obtain ⟨found, rfl⟩ := orRaise_ok loadRun
  obtain ⟨_, _, checkRun, answer⟩ := bind_ok rest
  obtain ⟨passed, rfl⟩ := raiseWhen_ok checkRun
  cases answer
  refine ⟨found, mem_principalIds.mp ?_, rfl⟩
  by_contra foreign
  exact passed ⟨tenant, foreign⟩

/-- Principals stay with their accounts. -/
theorem Db.owns_evolves
    {accountId principalId : Id}
    (evolves : Evolves db db')
    (owns : db.owns accountId principalId = true) :
    db'.owns accountId principalId = true := by
  obtain ⟨principal, found, ofAccount⟩ := owns_iff.mp owns
  obtain ⟨principal', found', rfl⟩ := evolves.principals _ _ found
  exact owns_iff.mpr ⟨principal, found', ofAccount⟩

/-- A scope without rows, of a principal that the account owns. -/
theorem Scope.holds_of_owns
    {accountId principalId : Id}
    (owns : db.owns accountId principalId = true) :
    Scope.Holds { accountId := accountId, principalId := principalId } db := by
  obtain ⟨principal, found, ofAccount⟩ := Db.owns_iff.mp owns
  exact
    { account := by
        intro row rowFound
        cases found.symm.trans rowFound
        exact ofAccount
      agents := fun _ absent => absent.elim
      mandates := fun _ absent => absent.elim
      reservations := fun _ absent => absent.elim
      invocations := fun _ absent => absent.elim }

/-- A scope with one mandate, of a principal that the account owns. -/
theorem Scope.holds_of_mandate
    {accountId principalId mandateId : Id}
    (owned :
      db.mandates.OwnedBy Mandate.principalId principalId mandateId)
    (owns : db.owns accountId principalId = true) :
    Scope.Holds
      { accountId := accountId
        principalId := principalId
        mandates := {mandateId} }
      db :=
  { Scope.holds_of_owns owns with
    mandates := by
      rintro _ rfl
      exact owned }

/-- A mandate that was seen keeps its principal. -/
theorem Sys.Kept.mandateOf
    {mandateId : Id}
    {mandate : Mandate}
    {statement : Nat}
    (kept : s.Kept env)
    (found : (s.views ages statement).mandates.find mandateId = some mandate) :
    s.db.mandates.OwnedBy Mandate.principalId mandate.principalId
      mandateId := by
  intro row rowFound
  obtain ⟨row', found', same⟩ :=
    (kept.seen ages statement).mandates _ _ found
  cases rowFound.symm.trans found'
  rw [same.1]

end Checks

/-! ## Handlers as steps of the system -/

section Embedding

variable
  {env : Env}
  {s : Sys}
  {ages : List Nat}
  {db' : Db}

/-- What the statements after the first one see. -/
theorem Sys.views_drop (s : Sys) (ages : List Nat) :
    s.views (ages.drop 1) = (s.views ages).after 1 := by
  funext statement
  simp [Sys.views, Views.after, List.getD_eq_getElem?_getD,
    Nat.add_comm statement]

/-- What the statements see that reuse the first object. -/
theorem Sys.views_reusing (s : Sys) (ages : List Nat) :
    s.views (ages.getD 0 0 :: ages.drop 2) = (s.views ages).reusing 1 := by
  funext statement
  cases statement with
  | zero => simp [Sys.views, Views.reusing]
  | succ statement =>
      have index : statement + 1 + 1 = 2 + statement := by omega
      simp [Sys.views, Views.reusing, List.getD_eq_getElem?_getD, index]

/-- Later statements go on seeing later states. -/
theorem Monotone.drop
    (monotone : Monotone ages) :
    Monotone (ages.drop 1) :=
  List.Pairwise.sublist (List.drop_sublist 1 ages) monotone

/-- The same without the second statement. -/
theorem Monotone.reusing
    (monotone : Monotone ages) :
    Monotone (ages.getD 0 0 :: ages.drop 2) := by
  cases ages with
  | nil => exact List.pairwise_singleton _ _
  | cons head rest =>
      obtain ⟨above, ofRest⟩ := List.pairwise_cons.mp monotone
      refine List.pairwise_cons.mpr ⟨?_, ?_⟩
      · intro age member
        exact above age (List.mem_of_mem_drop member)
      · exact List.Pairwise.sublist (List.drop_sublist 1 rest) ofRest

/-- A transaction that returns is a step. -/
theorem step_txn
    {txn : Txn}
    {entries : List Entry}
    (monotone : Monotone ages)
    (loaded : txn.Loaded s)
    (ran : exec (txn.body env (s.views ages)) s.db = (.ok entries, db')) :
    step env s (.txn ages txn) = some (s.commit db' entries) := by
  simp only [step]
  rw [if_pos ⟨monotone, loaded⟩, commit_eq_some.mpr ran]
  rfl

/-- A body that is run for its writes. -/
theorem silently_ok
    {α : Type}
    {body : Body α}
    {value : α}
    {db : Db}
    (ran : exec body db = (.ok value, db')) :
    exec (silently body) db = (.ok [], db') := by
  unfold silently
  rw [exec_map, ran]

/-- A transaction that writes nothing is a step as well. -/
theorem step_idle (env : Env) (s : Sys) :
    step env s (.txn [] (.claimOutboxRows 0 0 0)) =
      some (s.commit s.db []) := by
  have loaded : (Txn.claimOutboxRows 0 0 0).Loaded s := trivial
  exact step_txn List.Pairwise.nil loaded rfl

end Embedding

/-! ## Each handler -/

/-- A response that is not an error is what the transaction returned. -/
theorem Route.respond_ok
    {env : Env}
    {views : Views}
    {ctx : AuthContext}
    {route : Route}
    {db db' : Db}
    {answer : RouteAnswer}
    (responded : route.respond env views ctx db = (.ok answer, db')) :
    exec (route.body env views ctx) db = (.ok answer, db') := by
  unfold Route.respond at responded
  split at responded
  · cases responded
  · split at responded
    · rename_i ran
      cases responded
      exact ran
    · cases responded

section Handlers

variable
  {env : Env}
  {s : Sys}
  {ages : List Nat}
  {ctx : AuthContext}
  {db' : Db}
  {accountId : Id}

/-- A new principal belongs to the account of the caller. -/
theorem postPrincipal_share
    {pubkeyHex : Option String}
    {newAccountId newId : Id}
    {principalId : Id}
    (tenant : ctx.isAdmin = false)
    (ran :
      exec
          (postPrincipal (s.views ages) ctx pubkeyHex newAccountId newId)
          s.db =
        (.ok principalId, db'))
    (other : accountId ≠ ctx.accountId) :
    db'.share accountId = s.db.share accountId := by
  unfold postPrincipal at ran
  simp only [tenant, Bool.false_eq_true, ↓reduceIte] at ran
  split at ran
  · cases ran
    rfl
  · obtain ⟨principal, created, _⟩ := map_ok ran
    obtain ⟨_, _, accountRun, rest⟩ := bind_ok created
    cases accountRun
    obtain ⟨_, _, readRun, rest⟩ := bind_ok rest
    cases readRun
    obtain ⟨_, _, foreignKey, rest⟩ := bind_ok rest
    obtain ⟨_, rfl⟩ := orRaise_ok foreignKey
    obtain ⟨_, _, addRun, answer⟩ := bind_ok rest
    cases answer
    obtain ⟨principals, accepted, rfl⟩ := addRow_ok addRun
    obtain ⟨fresh, _⟩ := Table.insert?_eq_some accepted
    let scope : Scope :=
      { accountId := ctx.accountId, principalId := newId }
    have holds : scope.Holds s.db :=
      { account := by
          intro row found
          cases fresh.symm.trans found
        agents := fun _ absent => absent.elim
        mandates := fun _ absent => absent.elim
        reservations := fun _ absent => absent.elim
        invocations := fun _ absent => absent.elim }
    refine Scope.share_eq holds ?_ ?_ other
    · exact
        { holds with
          account := holds.account.insert accepted rfl }
    · simp only [Scope.others]
      rw [Table.filter_insert accepted (by simp [scope])]

/-- A new agent belongs to a principal of the caller. -/
theorem postAgent_share
    {principalId newId : Id}
    {parentId : Option Id}
    {agent : Agent}
    (kept : s.Kept env)
    (tenant : ctx.isAdmin = false)
    (ran :
      exec (postAgent (s.views ages) ctx principalId parentId newId) s.db =
        (.ok agent, db'))
    (other : accountId ≠ ctx.accountId) :
    db'.share accountId = s.db.share accountId := by
  obtain ⟨_, _, checkRun, created⟩ := bind_ok ran
  obtain ⟨owns, rfl⟩ := ownPrincipal_ok tenant checkRun
  have holds :=
    Scope.holds_of_owns (Db.owns_evolves (kept.seen ages 0) owns)
  exact (Scope.confines_createAgent rfl).share holds created other

/-- A child in a view of an agent of the principal is of the principal. -/
theorem Db.Unmixed.childOf
    {principalId parentId childId : Id}
    {statement : Nat}
    (unmixed : s.db.Unmixed)
    (kept : s.Kept env)
    (ofParent : s.db.AgentOf principalId parentId)
    (child : childId ∈ childAgents (s.views ages statement) parentId) :
    s.db.AgentOf principalId childId := by
  obtain ⟨agent, member, rfl⟩ := List.mem_map.mp child
  obtain ⟨stored, link⟩ := List.mem_filter.mp member
  obtain ⟨agent', found', same⟩ :=
    (kept.seen ages statement).agents _ _ (Table.find_of_mem stored)
  have link' : agent'.parentId = some parentId := by
    rw [same.1]
    exact of_decide_eq_true link
  have ofAgent :=
    unmixed.ofParent agent' (Table.mem_of_find found') parentId link'
  exact ⟨agent', found', ofAgent.unique ofParent⟩

/-- The walk of `revoke_agent` stays with the principal of its root. -/
theorem revokeWalk_of
    {Of : Id → Prop}
    {views : Views}
    {fuel statement : Nat}
    {stack visited final : List Id}
    (walked : revokeWalk views fuel statement stack visited = some final)
    (children :
      ∀ statement parent, Of parent →
        ∀ child ∈ childAgents (views statement) parent, Of child)
    (ofStack : ∀ id ∈ stack, Of id)
    (ofVisited : ∀ id ∈ visited, Of id) :
    ∀ id ∈ final, Of id := by
  induction fuel generalizing statement stack visited with
  | zero =>
      cases stack with
      | nil =>
          cases walked
          exact ofVisited
      | cons head rest => cases walked
  | succ fuel inductionHypothesis =>
      cases stack with
      | nil =>
          cases walked
          exact ofVisited
      | cons head rest =>
          have ofHead := ofStack head List.mem_cons_self
          refine inductionHypothesis walked ?_ ?_
          · intro id member
            rcases List.mem_append.mp member with isChild | inRest
            · exact children statement head ofHead id
                (List.mem_reverse.mp isChild)
            · exact ofStack id (List.mem_cons_of_mem _ inRest)
          · intro id member
            rcases List.mem_cons.mp member with rfl | before
            · exact ofHead
            · exact ofVisited id before

/-- A revocation reaches agents of the principal of its root only. -/
theorem postRevoke_share
    {fuel : Nat}
    {agentId : Id}
    {revoked : List Id}
    (kept : s.Kept env)
    (unmixed : s.db.Unmixed)
    (tenant : ctx.isAdmin = false)
    (ran :
      exec (postRevoke (s.views ages) ctx fuel agentId) s.db =
        (.ok revoked, db'))
    (other : accountId ≠ ctx.accountId) :
    db'.share accountId = s.db.share accountId := by
  obtain ⟨agent, _, loadRun, rest⟩ := bind_ok ran
  obtain ⟨found, rfl⟩ := orRaise_ok loadRun
  obtain ⟨_, _, checkRun, revokes⟩ := bind_ok rest
  obtain ⟨owns, rfl⟩ := ownPrincipal_ok tenant checkRun
  have ofRoot : s.db.AgentOf agent.principalId agentId := by
    obtain ⟨agent', found', same⟩ := (kept.seen ages 0).agents _ _ found
    exact ⟨agent', found', by rw [same.1]⟩
  let scope : Scope :=
    { accountId := ctx.accountId
      principalId := agent.principalId
      agents := { id | s.db.AgentOf agent.principalId id } }
  have holds : scope.Holds s.db :=
    { Scope.holds_of_owns (Db.owns_evolves (kept.seen ages 1) owns) with
      agents := by
        rintro id ⟨stored, storedFound, ofPrincipal⟩ row rowFound
        cases storedFound.symm.trans rowFound
        exact ofPrincipal }
  have confines :
      scope.Confines (revokeAgent ((s.views ages).reusing 1) fuel agentId)
        fun _ => True := by
    apply Scope.confines_revokeAgent
    · exact ofRoot
    · intro visited walked
      have children :
          ∀ statement parent, s.db.AgentOf agent.principalId parent →
            ∀ child ∈
                childAgents (((s.views ages).reusing 1) statement) parent,
              s.db.AgentOf agent.principalId child := by
        intro statement parent ofParent child isChild
        cases statement with
        | zero => exact unmixed.childOf kept ofParent isChild
        | succ statement => exact unmixed.childOf kept ofParent isChild
      refine revokeWalk_of walked children ?_ ?_
      · intro id member
        exact children 1 agentId ofRoot id (List.mem_reverse.mp member)
      · intro id absent
        cases absent
  exact confines.share holds revokes other

/-- A mandate and its escrow belong to the principal it is issued for. -/
theorem postMandate_share
    {now debitNow : Datetime}
    {body : IssueMandate}
    {newId : Id}
    {freshNonce : String}
    {mandate : Mandate}
    (kept : s.Kept env)
    (unmixed : s.db.Unmixed)
    (monotone : Monotone ages)
    (tenant : ctx.isAdmin = false)
    (ran :
      exec
          (postMandate env (s.views ages) ctx now debitNow body newId
            freshNonce)
          s.db =
        (.ok mandate, db'))
    (other : accountId ≠ ctx.accountId) :
    db'.share accountId = s.db.share accountId := by
  obtain ⟨_, _, checkRun, issues⟩ := bind_ok ran
  obtain ⟨owns, rfl⟩ := ownPrincipal_ok tenant checkRun
  -- As a step of the system, it has a parent of its own principal.
  have issuesThere := issues
  rw [← s.views_drop ages] at issuesThere
  have taken :
      step env s
          (.txn (ages.drop 1)
            (.issueMandate now debitNow { body with verify := true } newId
              freshNonce)) =
        some (s.commit db' []) :=
    step_txn monotone.drop trivial (silently_ok issuesThere)
  have shape := stepped kept (Discipline.free_allows _) taken
  obtain ⟨issued, isIssued, _⟩ := shape.issued kept
  obtain ⟨nonce, signature, pubkeyHex, isRow⟩ := isIssued.isRow
  have issuing :
      Issues env s issued
        (.txn (ages.drop 1)
          (.issueMandate now debitNow { body with verify := true } newId
            freshNonce)) :=
    .intro isIssued
  have ofParent := (issuing.unmixed kept unmixed).2
  let scope : Scope :=
    { accountId := ctx.accountId
      principalId := body.principalId
      mandates := { id | body.parentMandateId = some id } }
  have holds : scope.Holds s.db :=
    { Scope.holds_of_owns (Db.owns_evolves (kept.seen ages 0) owns) with
      mandates := by
        intro parentId isParent row rowFound
        have link : issued.parentMandateId = some parentId := by
          rw [isRow]
          exact isParent
        obtain ⟨parent, found, ofPrincipal, _⟩ := ofParent parentId link
        cases found.symm.trans rowFound
        rw [ofPrincipal, isRow]
        rfl }
  have confines :
      scope.Confines
        (issueMandate env ((s.views ages).after 1) now debitNow
          { body with verify := true } newId freshNonce)
        fun _ => True :=
    Scope.confines_issueMandate rfl fun _ isParent => isParent
  exact confines.share holds issues other

/-- A revocation writes the mandate of the caller. -/
theorem postMandateRevoke_share
    {mandateId : Id}
    {done : Unit}
    (kept : s.Kept env)
    (tenant : ctx.isAdmin = false)
    (ran :
      exec (postMandateRevoke (s.views ages) ctx mandateId) s.db =
        (.ok done, db'))
    (other : accountId ≠ ctx.accountId) :
    db'.share accountId = s.db.share accountId := by
  obtain ⟨mandate, _, checkRun, revokes⟩ := bind_ok ran
  obtain ⟨found, owns, rfl⟩ := ownMandate_ok tenant checkRun
  have holds :=
    Scope.holds_of_mandate (kept.mandateOf found)
      (Db.owns_evolves (kept.seen ages 1) owns)
  exact (Scope.confines_revokeMandate rfl).share holds revokes other

/-- A call writes for the principal of its mandate. -/
theorem postInvoke_share
    {request : InvokeRequest}
    {draw : InvokeDraw}
    {begun : Begun}
    (kept : s.Kept env)
    (tenant : ctx.isAdmin = false)
    (ran :
      exec (postInvoke env (s.views ages) ctx request draw) s.db =
        (.ok begun, db'))
    (other : accountId ≠ ctx.accountId) :
    db'.share accountId = s.db.share accountId := by
  obtain ⟨mandate, _, checkRun, begins⟩ := bind_ok ran
  obtain ⟨found, owns, rfl⟩ := ownMandate_ok tenant checkRun
  have holds :=
    Scope.holds_of_mandate (kept.mandateOf found)
      (Db.owns_evolves (kept.seen ages 1) owns)
  let scope : Scope :=
    { accountId := ctx.accountId
      principalId := mandate.principalId
      mandates := {request.mandateId} }
  have begins' :
      scope.Confines (invokeBegin env (s.views ages) request draw)
        fun _ => True := by
    refine Scope.confines_invokeBegin ?_ rfl
    intro row rowFound
    cases found.symm.trans rowFound
    rfl
  refine Scope.Confines.share (Keeps.tryCatch begins' ?_) holds begins other
  intro exception
  cases exception with
  | policyDenied outcome =>
      exact Keeps.bind (Scope.confines_appendEvent rfl)
        fun _ _ => .pure trivial
  | idempotencyReplay _ => exact .throw
  | finalizeLost => exact .throw
  | integrityError => exact .throw
  | notFound => exact .throw
  | badRequest => exact .throw
  | unfinished => exact .throw

/-- A response of a tenant's request leaves other accounts alone. -/
theorem Route.share
    {route : Route}
    {answer : RouteAnswer}
    (kept : s.Kept env)
    (unmixed : s.db.Unmixed)
    (monotone : Monotone ages)
    (tenant : ctx.isAdmin = false)
    (responded :
      route.respond env (s.views ages) ctx s.db = (.ok answer, db'))
    (other : accountId ≠ ctx.accountId) :
    db'.share accountId = s.db.share accountId := by
  have ran := Route.respond_ok responded
  cases route with
  | postPrincipal =>
      obtain ⟨_, returned, _⟩ := map_ok ran
      exact postPrincipal_share tenant returned other
  | postAgent =>
      obtain ⟨_, returned, _⟩ := map_ok ran
      exact postAgent_share kept tenant returned other
  | postRevoke =>
      obtain ⟨_, returned, _⟩ := map_ok ran
      exact postRevoke_share kept unmixed tenant returned other
  | postMandate =>
      obtain ⟨_, returned, _⟩ := map_ok ran
      exact postMandate_share kept unmixed monotone tenant returned other
  | postMandateRevoke =>
      obtain ⟨_, returned, _⟩ := map_ok ran
      exact postMandateRevoke_share kept tenant returned other
  | postInvoke =>
      obtain ⟨_, returned, _⟩ := map_ok ran
      exact postInvoke_share kept tenant returned other

end Handlers

end Crossing
