import Crossing.TenantWrites

namespace Crossing

open Relational
open Relational.Transaction

/-!
# Tenant isolation

The service is the running system with the keys of its tenants, the requests
that were authenticated and the calls that run for an account.  A request of a
tenant is authenticated in one transaction and handled in another; its `invoke`
call goes on in later ones.  Whatever a tenant does between the steps of
anybody else, the rows of other accounts stay as they are.
-/

/-! ## The service -/

/-- The system with its keys, authenticated requests and running calls. -/
structure Service where
  sys : Sys
  keys : Table ApiKey
  sessions : List AuthContext
  running : List (Id × Id)

/-- Before the first request. -/
def Service.start : Service where
  sys := Sys.start
  keys := .empty
  sessions := []
  running := []

/-- The call that an action moves on. -/
def Action.call : Action → Option Id
  | .mark call
  | .dispatch call
  | .providerReturns call _
  | .providerRaises call _
  | .fail call
  | .finish call _ => some call
  | .txn .. | .invoke .. => none

/-- The entries that a handler leaves in the log. -/
def Route.entries : Route → List Entry
  | .postRevoke _ agentId => [.agentRevoked agentId]
  | _ => []

/-- What a process does for a tenant. -/
inductive TenantMove where
  | authenticate (now : Datetime) (presented : Option String)
  | request (ctx : AuthContext) (ages : List Nat) (route : Route)
  | keyRequest (ctx : AuthContext) (ages : List Nat) (route : KeyRoute)
  | goesOn (action : Action)

/-- The context belongs to a request of the account, without admin rights. -/
def Service.Serves
    (s : Service)
    (accountId : Id)
    (ctx : AuthContext) :
    Prop :=
  ctx ∈ s.sessions ∧ ctx.accountId = accountId ∧ ctx.isAdmin = false

instance (s : Service) (accountId : Id) (ctx : AuthContext) :
    Decidable (s.Serves accountId ctx) :=
  inferInstanceAs (Decidable (_ ∧ _ ∧ _))

/-- The state after a handler has answered. -/
def Service.answer
    (s : Service)
    (accountId : Id)
    (route : Route)
    (answer : RouteAnswer)
    (db : Db) :
    Option Service :=
  match answer with
  | .returned =>
      some { s with sys := s.sys.commit db route.entries }
  | .begun request (.answered result) =>
      some { s with sys := s.sys.commit db [.answered request result] }
  | .begun _ (.reserved attempt) =>
      (s.sys.calls.insert? { attempt := attempt, state := .reserved }).map
        fun calls =>
          { s with
            sys :=
              { s.sys.commit db [.reserved attempt.invocation.id] with
                calls := calls }
            running := s.running ++ [(accountId, attempt.invocation.id)] }

/--
The state after a move for a tenant.  A request that is refused changes nothing
and is no move; `last_used_at` of a key is set where it is authenticated.
-/
def serve
    (env : Env)
    (auth : AuthEnv)
    (s : Service)
    (accountId : Id) :
    TenantMove → Option Service
  | .authenticate now presented => do
      let row ← authenticate auth s.keys now presented
      if row.accountId = accountId ∧ row.context.isAdmin = false then
        some
          { s with
            keys := s.keys.put { row with lastUsedAt := some now }
            sessions := s.sessions ++ [row.context] }
      else
        none
  | .request ctx ages route =>
      if s.Serves accountId ctx ∧ Monotone ages then
        match route.respond env (s.sys.views ages) ctx s.sys.db with
        | (.ok answer, db) => s.answer accountId route answer db
        | (.error _, _) => none
      else
        none
  | .keyRequest ctx ages route =>
      if s.Serves accountId ctx then
        match route.respond (s.sys.views ages 0) ctx s.keys with
        | (.ok _, keys) => some { s with keys := keys }
        | (.error _, _) => none
      else
        none
  | .goesOn action =>
      if ∃ call ∈ action.call, (accountId, call) ∈ s.running then
        (step env s.sys action).map fun sys => { s with sys := sys }
      else
        none

/-- A move for the tenant of an account. -/
def TenantStep
    (env : Env)
    (auth : AuthEnv)
    (accountId : Id)
    (s s' : Service) :
    Prop :=
  ∃ move, serve env auth s accountId move = some s'

/-- A move for any tenant, or anything else that happens in between. -/
inductive ServiceStep (env : Env) (auth : AuthEnv) (s : Service) :
    Service → Prop where
  | tenant
      {accountId : Id}
      {s' : Service}
      (taken : TenantStep env auth accountId s s') :
      ServiceStep env auth s s'
  | system
      {sys : Sys}
      (taken : Step env (fun _ _ => True) s.sys sys) :
      ServiceStep env auth s { s with sys := sys }
  | keys (keys : Table ApiKey) :
      ServiceStep env auth s { s with keys := keys }

/-- The states that the service reaches. -/
abbrev Service.Reached (env : Env) (auth : AuthEnv) : Service → Prop :=
  Transition.Reachable (· = Service.start) (ServiceStep env auth)

/-- The keys of an account. -/
def Service.keysOf (s : Service) (accountId : Id) : List ApiKey :=
  s.keys.rows.filter (·.accountId = accountId)

/-! ## Calls belong to accounts -/

section Calls

variable
  {env : Env}
  {s s' : Sys}
  {action : Action}
  {accountId callId : Id}

/-- The call runs for a principal of the account, on a reservation of it. -/
def Sys.CallOf (s : Sys) (accountId callId : Id) : Prop :=
  ∃ call row,
    s.calls.find callId = some call ∧
      s.db.owns accountId call.attempt.mandate.principalId = true ∧
      s.db.reservations.find call.attempt.reservation.id = some row ∧
      row.principalId = call.attempt.mandate.principalId

/-- A step keeps the calls that run, each with its attempt. -/
theorem Stepped.call_kept
    {discipline : Discipline}
    {call : InvokeCall}
    (stepped : Stepped env discipline s action s')
    (found : s.calls.find callId = some call) :
    ∃ call', s'.calls.find callId = some call' ∧
      call'.attempt = call.attempt := by
  have advanced
      {attempt : Attempt}
      {before after : CallState}
      (foundBefore :
        s.calls.find attempt.invocation.id = some ⟨attempt, before⟩) :
      ∃ call', (s.calls.put ⟨attempt, after⟩).find callId = some call' ∧
        call'.attempt = call.attempt := by
    by_cases same : attempt.invocation.id = callId
    · subst same
      cases found.symm.trans foundBefore
      exact ⟨⟨attempt, after⟩, Table.find_put_self foundBefore, rfl⟩
    · refine ⟨call, ?_, rfl⟩
      rw [Table.find_put_of_ne same, found]
  cases stepped with
  | txn => exact ⟨call, found, rfl⟩
  | answered => exact ⟨call, found, rfl⟩
  | began _ _ _ inserted _ =>
      exact ⟨call, Table.find_insert_of_some inserted found, rfl⟩
  | marked foundBefore => exact advanced foundBefore
  | unmarked foundBefore => exact advanced foundBefore
  | dispatched foundBefore => exact advanced foundBefore
  | returned foundBefore => exact advanced foundBefore
  | raised foundBefore => exact advanced foundBefore
  | failed foundBefore => exact advanced foundBefore
  | lost foundBefore => exact advanced foundBefore
  | finished foundBefore => exact advanced foundBefore

/-- A step leaves the calls with their accounts. -/
theorem Sys.CallOf.stepped
    {discipline : Discipline}
    (callOf : s.CallOf accountId callId)
    (stepped : Stepped env discipline s action s') :
    s'.CallOf accountId callId := by
  obtain ⟨call, row, found, owns, reserved, ofPrincipal⟩ := callOf
  obtain ⟨call', found', same⟩ := stepped.call_kept found
  obtain ⟨row', reserved', sameHold⟩ :=
    stepped.evolves.reservations _ _ reserved
  refine ⟨call', row', found', ?_, ?_, ?_⟩
  · rw [same]
    exact Db.owns_evolves stepped.evolves owns
  · rw [same]
    exact reserved'
  · rw [same, sameHold]
    exact ofPrincipal

/-- The rows that a call of the account writes to. -/
def Attempt.scope (attempt : Attempt) (accountId : Id) : Scope where
  accountId := accountId
  principalId := attempt.mandate.principalId
  reservations := {attempt.reservation.id}
  invocations := {attempt.invocation.id}

/-- They belong to the account when the principal does. -/
theorem Attempt.Stored.holds
    {attempt : Attempt}
    {db : Db}
    {row : Reservation}
    (stored : attempt.Stored env db)
    (owns : db.owns accountId attempt.mandate.principalId = true)
    (reserved : db.reservations.find attempt.reservation.id = some row)
    (ofPrincipal : row.principalId = attempt.mandate.principalId) :
    (attempt.scope accountId).Holds db :=
  { Scope.holds_of_owns owns with
    reservations := by
      rintro _ rfl other otherFound
      cases reserved.symm.trans otherFound
      exact ofPrincipal
    invocations := by
      rintro _ rfl other otherFound
      obtain ⟨held, heldFound, same⟩ := stored.held
      cases heldFound.symm.trans otherFound
      rw [same]
      exact stored.ofPrincipal.symm }

/-- The rows of a call of the account belong to it. -/
theorem Sys.CallOf.holds
    {attempt : Attempt}
    {state : CallState}
    (callOf : s.CallOf accountId callId)
    (kept : s.Kept env)
    (found : s.calls.find callId = some ⟨attempt, state⟩) :
    (attempt.scope accountId).Holds s.db := by
  obtain ⟨call, row, isCall, owns, reserved, ofPrincipal⟩ := callOf
  cases found.symm.trans isCall
  have stored := kept.calls _ (Table.mem_of_find found)
  exact stored.holds owns reserved ofPrincipal

/-- A call of an account leaves the rows of other accounts as they are. -/
theorem Sys.CallOf.share
    {otherId : Id}
    (callOf : s.CallOf accountId callId)
    (kept : s.Kept env)
    (isCall : action.call = some callId)
    (taken : step env s action = some s')
    (other : otherId ≠ accountId) :
    s'.db.share otherId = s.db.share otherId := by
  cases action with
  | txn => cases isCall
  | invoke => cases isCall
  | mark id =>
      cases isCall
      simp only [step] at taken
      split at taken
      · rename_i attempt found
        obtain ⟨⟨answer, db'⟩, committed, shape⟩ :=
          Option.map_eq_some_iff.mp taken
        have confines :
            (attempt.scope accountId).Confines (invokeMark attempt)
              fun _ => True :=
          Scope.confines_invokeMark rfl
        have same :=
          confines.share (callOf.holds kept found)
            (commit_eq_some.mp committed) other
        cases answer <;> cases shape <;> exact same
      · cases taken
  | dispatch id =>
      simp only [step] at taken
      split at taken
      · cases taken
        rfl
      · cases taken
  | providerReturns id toolResult =>
      simp only [step] at taken
      split at taken
      · cases taken
        rfl
      · cases taken
  | providerRaises id error =>
      simp only [step] at taken
      split at taken
      · cases taken
        rfl
      · cases taken
  | fail id =>
      cases isCall
      simp only [step] at taken
      split at taken
      · rename_i attempt error found
        obtain ⟨⟨result, db'⟩, committed, rfl⟩ :=
          Option.map_eq_some_iff.mp taken
        have confines :
            (attempt.scope accountId).Confines (invokeFail attempt error)
              fun _ => True :=
          Scope.confines_invokeFail rfl
        exact confines.share (callOf.holds kept found)
          (commit_eq_some.mp committed) other
      · cases taken
  | finish id draw =>
      cases isCall
      simp only [step] at taken
      split at taken
      · rename_i attempt toolResult found
        obtain ⟨⟨result, db'⟩, committed, rfl⟩ :=
          Option.map_eq_some_iff.mp taken
        have confines :
            (attempt.scope accountId).Confines
              (invokeFinish env attempt toolResult draw) fun _ => True :=
          Scope.confines_invokeFinish rfl rfl rfl
        exact confines.share (callOf.holds kept found)
          (commit_eq_some.mp committed) other
      · cases taken

end Calls

/-! ## Requests are steps of the system -/

section Requests

variable
  {env : Env}
  {s : Sys}
  {ages : List Nat}
  {ctx : AuthContext}
  {db' : Db}

/-- `invoke` answers every denial itself. -/
theorem invokeBegin_raises
    {views : Views}
    {request : InvokeRequest}
    {draw : InvokeDraw} :
    Raises (fun exception => ∀ outcome, exception ≠ .policyDenied outcome)
      (invokeBegin env views request draw) := by
  have adds
      {ρ κ : Type}
      [Keyed ρ κ]
      [DecidableEq κ]
      {table : Db → Table ρ}
      {store : Db → Table ρ → Db}
      {row : ρ} :
      Raises (fun exception => ∀ outcome, exception ≠ .policyDenied outcome)
        (addRow table store row) := by
    intro db exception after raised
    obtain ⟨isIntegrity, _⟩ := addRow_error raised
    rw [isIntegrity]
    intro outcome isDenied
    cases isDenied
  have denies
      {principalId : Option Id}
      {mandateId : Id}
      {outcome : Denied}
      {remaining : Option Cents}
      {key : Option String} :
      Raises (fun exception => ∀ outcome, exception ≠ .policyDenied outcome)
        (Begun.answered <$>
          deny principalId mandateId outcome remaining key) := by
    apply Raises.map
    unfold deny
    refine Raises.bind ?_ fun _ => .pure
    cases principalId with
    | none => exact .pure
    | some principalId => exact .modify
  unfold invokeBegin
  dsimp only
  split
  · exact denies
  · split
    · split
      · exact .pure
      · exact denies
    · exact .pure
    · split
      · exact denies
      · split
        · exact denies
        · refine Raises.bind ?_ fun _ => Raises.bind ?_ fun taskId => ?_
          · unfold bookNonce
            split
            · exact .pure
            · exact adds
          · unfold bookTask
            split
            · exact .pure
            · exact Raises.map (Raises.bind adds fun _ => .pure)
          · unfold reserveOrAnswer
            apply Raises.tryCatch
            intro exception
            cases exception with
            | idempotencyReplay _ => exact .pure
            | policyDenied _ => exact Raises.get.bind fun _ => .pure
            | finalizeLost => exact .throw (by simp)
            | integrityError => exact .throw (by simp)
            | notFound => exact .throw (by simp)
            | badRequest => exact .throw (by simp)
            | unfinished => exact .throw (by simp)

/-- What the transaction of `post_invoke` returns, `invoke` returned. -/
theorem postInvoke_ok
    {views : Views}
    {request : InvokeRequest}
    {draw : InvokeDraw}
    {begun : Begun}
    {db : Db}
    (tenant : ctx.isAdmin = false)
    (ran :
      exec (postInvoke env views ctx request draw) db = (.ok begun, db')) :
    exec (invokeBegin env views request draw) db = (.ok begun, db') ∧
      ∃ mandate, (views 0).mandates.find request.mandateId = some mandate ∧
        (views 1).owns ctx.accountId mandate.principalId = true := by
  obtain ⟨mandate, _, checkRun, begins⟩ := bind_ok ran
  obtain ⟨found, owns, same⟩ := ownMandate_ok tenant checkRun
  refine ⟨?_, mandate, found, owns⟩
  rw [same, exec_tryCatch] at begins
  cases begun' : exec (invokeBegin env views request draw) db with
  | mk outcome between =>
      rw [begun'] at begins
      cases outcome with
      | ok _ => exact begins
      | error exception =>
          cases exception with
          | policyDenied outcome =>
              exact (invokeBegin_raises _ _ _ begun' outcome rfl).elim
          | idempotencyReplay _ => cases begins
          | finalizeLost => cases begins
          | integrityError => cases begins
          | notFound => cases begins
          | badRequest => cases begins
          | unfinished => cases begins

/-- A handler that answers is a step of the system. -/
theorem request_step
    {service service' : Service}
    {accountId : Id}
    {route : Route}
    {answer : RouteAnswer}
    (monotone : Monotone ages)
    (tenant : ctx.isAdmin = false)
    (responded :
      route.respond env (service.sys.views ages) ctx service.sys.db =
        (.ok answer, db'))
    (answered : service.answer accountId route answer db' = some service') :
    ∃ action, step env service.sys action = some service'.sys := by
  have ran := Route.respond_ok responded
  cases route with
  | postPrincipal pubkeyHex newAccountId newId =>
      obtain ⟨principalId, returned, rfl⟩ := map_ok ran
      cases answered
      unfold postPrincipal at returned
      simp only [tenant, Bool.false_eq_true, ↓reduceIte] at returned
      split at returned
      · -- The account has its principal already.
        cases returned
        exact ⟨_, step_idle env service.sys⟩
      · obtain ⟨principal, created, _⟩ := map_ok returned
        have loaded :
            (Txn.createPrincipal pubkeyHex (some ctx.accountId) newAccountId
              newId).Loaded service.sys :=
          trivial
        exact ⟨_, step_txn monotone loaded (silently_ok created)⟩
  | postAgent principalId parentId newId =>
      obtain ⟨agent, returned, rfl⟩ := map_ok ran
      cases answered
      obtain ⟨_, _, checkRun, created⟩ := bind_ok returned
      obtain ⟨_, rfl⟩ := ownPrincipal_ok tenant checkRun
      rw [← service.sys.views_drop ages] at created
      have loaded :
          (Txn.createAgent principalId parentId newId).Loaded service.sys :=
        trivial
      exact ⟨_, step_txn monotone.drop loaded (silently_ok created)⟩
  | postRevoke fuel agentId =>
      obtain ⟨revoked, returned, rfl⟩ := map_ok ran
      cases answered
      obtain ⟨agent, _, loadRun, rest⟩ := bind_ok returned
      obtain ⟨_, rfl⟩ := orRaise_ok loadRun
      obtain ⟨_, _, checkRun, revokes⟩ := bind_ok rest
      obtain ⟨_, rfl⟩ := ownPrincipal_ok tenant checkRun
      rw [← service.sys.views_reusing ages] at revokes
      have loaded : (Txn.revokeAgent fuel agentId).Loaded service.sys :=
        trivial
      refine ⟨_, step_txn monotone.reusing loaded ?_⟩
      simp only [Txn.body]
      rw [exec_map, revokes]
      rfl
  | postMandate now debitNow body newId freshNonce =>
      obtain ⟨mandate, returned, rfl⟩ := map_ok ran
      cases answered
      obtain ⟨_, _, checkRun, issues⟩ := bind_ok returned
      obtain ⟨_, rfl⟩ := ownPrincipal_ok tenant checkRun
      rw [← service.sys.views_drop ages] at issues
      have loaded :
          (Txn.issueMandate now debitNow { body with verify := true } newId
            freshNonce).Loaded service.sys :=
        trivial
      exact ⟨_, step_txn monotone.drop loaded (silently_ok issues)⟩
  | postMandateRevoke mandateId =>
      obtain ⟨_, returned, rfl⟩ := map_ok ran
      cases answered
      obtain ⟨_, _, checkRun, revokes⟩ := bind_ok returned
      obtain ⟨_, _, rfl⟩ := ownMandate_ok tenant checkRun
      have loaded : (Txn.revokeMandate mandateId).Loaded service.sys :=
        trivial
      exact ⟨_, step_txn monotone loaded (silently_ok revokes)⟩
  | postInvoke limited request draw =>
      obtain ⟨begun, returned, rfl⟩ := map_ok ran
      obtain ⟨begins, _⟩ := postInvoke_ok tenant returned
      refine ⟨.invoke ages request draw, ?_⟩
      simp only [step]
      rw [if_pos monotone, commit_eq_some.mpr begins]
      cases begun with
      | answered result =>
          cases answered
          rfl
      | reserved attempt =>
          obtain ⟨calls, inserted, rfl⟩ :=
            Option.map_eq_some_iff.mp answered
          simp only [inserted, Option.map_some]

/-- A reservation that a tenant makes is for a principal of its account. -/
theorem begun_owned
    {s : Sys}
    {request : InvokeRequest}
    {draw : InvokeDraw}
    {attempt : Attempt}
    (kept : s.Kept env)
    (tenant : ctx.isAdmin = false)
    (ran :
      exec (postInvoke env (s.views ages) ctx request draw) s.db =
        (.ok (.reserved attempt), db')) :
    db'.owns ctx.accountId attempt.mandate.principalId = true ∧
      db'.reservations.find attempt.reservation.id =
        some attempt.reservation ∧
      attempt.reservation.principalId = attempt.mandate.principalId ∧
      attempt.Stored env db' ∧
      ∀ mandate,
        (s.views ages 0).mandates.find request.mandateId = some mandate →
          attempt.mandate.principalId = mandate.principalId := by
  obtain ⟨ranBegin, mandate, found, owns⟩ := postInvoke_ok tenant ran
  have opens :
      ∃ loaded,
        BeginsIn env .free .call (s.views ages) request draw s.db db' loaded
          attempt := by
    rcases invokeBegin_ok (kept.seen ages) ranBegin with
      ⟨result, isAnswer, _⟩ | ⟨_, loaded, isReserved, opens⟩
    · cases isAnswer
    · cases isReserved
      exact ⟨loaded, opens⟩
  obtain ⟨loaded, opens⟩ := opens
  obtain ⟨old, _, _, _, opening, sameId, isDebited, _⟩ := opens.begins.opening
  have isLoaded : loaded.id = request.mandateId :=
    Table.key_of_find (loadLiveMandate_ok opens.begins.live).1
  -- The row that is debited has the principal of the one the handler saw.
  have ofOld : old.principalId = mandate.principalId := by
    refine kept.mandateOf found old ?_
    rw [← isLoaded, ← sameId]
    exact opening.debit.found
  have ofAttempt : attempt.mandate.principalId = old.principalId := by
    rw [isDebited]
    rfl
  refine ⟨?_, ?_, ?_, opens.stored, ?_⟩
  · rw [ofAttempt, ofOld]
    exact Db.owns_evolves opens.effect.evolves
      (Db.owns_evolves (kept.seen ages 1) owns)
  · exact Table.find_of_mem
      ((Table.mem_insert opens.reserved).mpr (.inr rfl))
  · rw [opening.debit.ofPrincipal, ofAttempt]
  · intro other otherFound
    cases found.symm.trans otherFound
    exact ofAttempt.trans ofOld

end Requests

/-! ## Keys -/

section Keys

variable
  {auth : AuthEnv}
  {keys keys' : Table ApiKey}
  {accountId : Id}

/-- A key that a request is authenticated with is a stored one. -/
theorem authenticate_mem
    {now : Datetime}
    {presented : Option String}
    {row : ApiKey}
    (authenticated : authenticate auth keys now presented = some row) :
    row ∈ keys.rows := by
  obtain ⟨given, _, rest⟩ := Option.bind_eq_some_iff.mp authenticated
  -- Whichever way the key was found, it is the one that is compared.
  have compared
      {visiblePrefix : String}
      {loaded : ApiKey}
      (found : keyByPrefix keys visiblePrefix = some loaded)
      (live :
        (if isLiveKey auth now given loaded then some loaded else none) =
          some row) :
      row ∈ keys.rows := by
    split at live
    · cases live
      exact List.mem_of_find?_eq_some found
    · cases live
  dsimp only at rest
  split at rest
  · rename_i parsed
    obtain ⟨_, _, found⟩ := Option.bind_eq_some_iff.mp parsed
    exact compared found rest
  · split at rest
    · obtain ⟨_, found, live⟩ := Option.bind_eq_some_iff.mp rest
      exact compared found live
    · cases rest

/-- A tenant manages the keys of its own account only. -/
theorem KeyRoute.keysOfOthers
    {view : Db}
    {ctx : AuthContext}
    {route : KeyRoute}
    {done : Unit}
    (tenant : ctx.isAdmin = false)
    (responded : route.respond view ctx keys = (.ok done, keys')) :
    Crossing.keysOfOthers ctx.accountId keys' =
      Crossing.keysOfOthers ctx.accountId keys := by
  unfold KeyRoute.respond at responded
  split at responded
  · cases responded
  · rename_i row found
    split at responded
    · cases responded
    · rename_i mayManage
      have own : row.accountId = ctx.accountId := by
        by_contra foreign
        unfold mayManageKey at mayManage
        rw [if_pos ⟨tenant, foreign⟩] at mayManage
        cases mayManage
      have isRow : row.id = route.keyId := Table.key_of_find found
      have owned :
          keys.OwnedBy ApiKey.accountId ctx.accountId row.id := by
        intro other otherFound
        rw [isRow] at otherFound
        cases found.symm.trans otherFound
        exact own
      have keeps :
          KeepsOtherKeys ctx.accountId row.id (route.body view row) := by
        cases route with
        | postKeyRotate keyId draw =>
            exact Keeps.map (rotateApiKey_keeps own)
        | postKeyRevoke keyId now => exact revokeKey_keeps
      split at responded
      · rename_i ran
        cases responded
        exact (keeps.run ran owned).1
      · cases responded

/-- The keys of an account are among those that are not of another one. -/
theorem keysOf_of_keysOfOthers
    {service service' : Service}
    {otherId : Id}
    (same :
      Crossing.keysOfOthers accountId service'.keys =
        Crossing.keysOfOthers accountId service.keys)
    (other : otherId ≠ accountId) :
    service'.keysOf otherId = service.keysOf otherId := by
  refine filter_eq_of_filter_eq same ?_ fun _ => rfl
  intro row ofOther
  have isOther : row.accountId = otherId := of_decide_eq_true ofOther
  simpa [isOther] using other

end Keys

/-! ## Steps and runs -/

section Steps

variable
  {env : Env}
  {auth : AuthEnv}
  {accountId otherId : Id}
  {s s' : Service}

/-- The moves for a tenant, with what is known of each. -/
inductive TenantServed
    (env : Env)
    (auth : AuthEnv)
    (s : Service)
    (accountId : Id) :
    Service → Prop where
  | authenticated
      {now : Datetime}
      {row : ApiKey}
      (stored : row ∈ s.keys.rows)
      (own : row.accountId = accountId) :
      TenantServed env auth s accountId
        { s with
          keys := s.keys.put { row with lastUsedAt := some now }
          sessions := s.sessions ++ [row.context] }
  | requested
      {ctx : AuthContext}
      {ages : List Nat}
      {route : Route}
      {answer : RouteAnswer}
      {db : Db}
      {s' : Service}
      (own : ctx.accountId = accountId)
      (tenant : ctx.isAdmin = false)
      (monotone : Monotone ages)
      (responded :
        route.respond env (s.sys.views ages) ctx s.sys.db = (.ok answer, db))
      (answered : s.answer accountId route answer db = some s') :
      TenantServed env auth s accountId s'
  | managed
      {ctx : AuthContext}
      {ages : List Nat}
      {route : KeyRoute}
      {done : Unit}
      {keys : Table ApiKey}
      (own : ctx.accountId = accountId)
      (tenant : ctx.isAdmin = false)
      (responded :
        route.respond (s.sys.views ages 0) ctx s.keys = (.ok done, keys)) :
      TenantServed env auth s accountId { s with keys := keys }
  | wentOn
      {action : Action}
      {callId : Id}
      {sys : Sys}
      (isCall : action.call = some callId)
      (running : (accountId, callId) ∈ s.running)
      (taken : step env s.sys action = some sys) :
      TenantServed env auth s accountId { s with sys := sys }

/-- Every move for a tenant is one of the listed ones. -/
theorem TenantStep.served
    (taken : TenantStep env auth accountId s s') :
    TenantServed env auth s accountId s' := by
  obtain ⟨move, served⟩ := taken
  cases move with
  | authenticate now presented =>
      obtain ⟨row, authenticated, rest⟩ := Option.bind_eq_some_iff.mp served
      split at rest
      · rename_i own
        cases rest
        exact .authenticated (authenticate_mem authenticated) own.1
      · cases rest
  | request ctx ages route =>
      simp only [serve] at served
      split at served
      · rename_i ready
        obtain ⟨⟨_, own, tenant⟩, monotone⟩ := ready
        split at served
        · rename_i responded
          exact .requested own tenant monotone responded served
        · cases served
      · cases served
  | keyRequest ctx ages route =>
      simp only [serve] at served
      split at served
      · rename_i ready
        obtain ⟨_, own, tenant⟩ := ready
        split at served
        · rename_i responded
          cases served
          exact .managed own tenant responded
        · cases served
      · cases served
  | goesOn action =>
      simp only [serve] at served
      split at served
      · rename_i ready
        obtain ⟨callId, isCall, running⟩ := ready
        obtain ⟨sys, taken, rfl⟩ := Option.map_eq_some_iff.mp served
        exact .wentOn isCall running taken
      · cases served

/-- The system runs as it would alone, and its calls belong to accounts. -/
structure Service.Sound (env : Env) (s : Service) : Prop where
  reachable : Reachable env (fun _ _ => True) s.sys
  running : ∀ entry ∈ s.running, s.sys.CallOf entry.1 entry.2

/-- A step of the system keeps the service sound. -/
theorem Service.Sound.step
    {sys : Sys}
    {action : Action}
    (sound : s.Sound env)
    (taken : Crossing.step env s.sys action = some sys) :
    Service.Sound env { s with sys := sys } where
  reachable := sound.reachable.next ⟨action, trivial, taken⟩
  running := by
    intro entry member
    have shape :=
      stepped (reachable_kept sound.reachable)
        (Discipline.free_allows action) taken
    exact (sound.running entry member).stepped shape

/-- Only `post_invoke` begins a call. -/
theorem Route.begun_ok
    {views : Views}
    {ctx : AuthContext}
    {route : Route}
    {request : InvokeRequest}
    {begun : Begun}
    {db db' : Db}
    (responded :
      route.respond env views ctx db = (.ok (.begun request begun), db')) :
    ∃ limited draw,
      route = .postInvoke limited request draw ∧
        exec (Crossing.postInvoke env views ctx request draw) db =
          (.ok begun, db') := by
  have ran := Route.respond_ok responded
  cases route with
  | postInvoke limited request' draw =>
      obtain ⟨_, returned, isAnswer⟩ := map_ok ran
      cases isAnswer
      exact ⟨limited, draw, rfl, returned⟩
  | _ =>
      obtain ⟨_, _, isAnswer⟩ := map_ok ran
      cases isAnswer

/-- A move for a tenant keeps the service sound. -/
theorem TenantServed.sound
    (served : TenantServed env auth s accountId s')
    (sound : s.Sound env) :
    s'.Sound env := by
  cases served with
  | authenticated _ _ => exact ⟨sound.reachable, sound.running⟩
  | managed _ _ _ => exact ⟨sound.reachable, sound.running⟩
  | wentOn _ _ taken => exact sound.step taken
  | @requested ctx ages route answer db s' own tenant monotone responded
      answered =>
      have kept := reachable_kept sound.reachable
      obtain ⟨action, taken⟩ :=
        request_step monotone tenant responded answered
      have after := sound.step taken
      refine ⟨after.reachable, ?_⟩
      intro entry member
      cases answer with
      | returned =>
          cases answered
          exact after.running entry member
      | begun request outcome =>
          cases outcome with
          | answered result =>
              cases answered
              exact after.running entry member
          | reserved attempt =>
              obtain ⟨calls, inserted, rfl⟩ :=
                Option.map_eq_some_iff.mp answered
              rcases List.mem_append.mp member with before | isNew
              · exact after.running entry before
              · cases List.mem_singleton.mp isNew
                rw [← own]
                obtain ⟨_, _, rfl, ran⟩ := Route.begun_ok responded
                obtain ⟨owns, reserved, ofPrincipal, _⟩ :=
                  begun_owned kept tenant ran
                exact ⟨⟨attempt, .reserved⟩, attempt.reservation,
                  Table.find_of_mem
                    ((Table.mem_insert inserted).mpr (.inr rfl)),
                  owns, reserved, ofPrincipal⟩

/-- Every step keeps the service sound. -/
theorem ServiceStep.sound
    (taken : ServiceStep env auth s s')
    (sound : s.Sound env) :
    s'.Sound env := by
  cases taken with
  | tenant taken => exact taken.served.sound sound
  | system taken =>
      obtain ⟨action, _, taken⟩ := taken
      exact sound.step taken
  | keys keys => exact ⟨sound.reachable, sound.running⟩

/-- The service is sound in every state it reaches. -/
theorem reached_sound
    (reached : Service.Reached env auth s) :
    s.Sound env := by
  refine Transition.Reachable.invariant ?_ ?_ reached
  · rintro _ rfl
    refine ⟨.start rfl, ?_⟩
    intro entry absent
    cases absent
  · intro before after _ sound taken
    exact taken.sound sound

/-- A move for a tenant leaves the rows of other accounts as they are. -/
theorem TenantServed.share
    (served : TenantServed env auth s accountId s')
    (sound : s.Sound env)
    (other : otherId ≠ accountId) :
    s'.sys.db.share otherId = s.sys.db.share otherId := by
  have kept := reachable_kept sound.reachable
  cases served with
  | authenticated _ _ => rfl
  | managed _ _ _ => rfl
  | wentOn isCall running taken =>
      exact (sound.running _ running).share kept isCall taken other
  | @requested ctx ages route answer db s' own tenant monotone responded
      answered =>
      have unmixed := reachable_unmixed sound.reachable
      have same :=
        Route.share kept unmixed monotone tenant responded (own ▸ other)
      cases answer with
      | returned =>
          cases answered
          exact same
      | begun request outcome =>
          cases outcome with
          | answered result =>
              cases answered
              exact same
          | reserved attempt =>
              obtain ⟨calls, _, rfl⟩ := Option.map_eq_some_iff.mp answered
              exact same

/-- A move for a tenant leaves the keys of other accounts as they are. -/
theorem TenantServed.keysOf
    (served : TenantServed env auth s accountId s')
    (other : otherId ≠ accountId) :
    s'.keysOf otherId = s.keysOf otherId := by
  cases served with
  | wentOn _ _ _ => rfl
  | @authenticated now row stored own =>
      refine keysOf_of_keysOfOthers ?_ other
      refine Table.filter_put ?_ (by simp [own])
      intro old found
      have isRow : old = row :=
        Option.some.inj (found.symm.trans (Table.find_of_mem stored))
      simp [isRow, own]
  | managed own tenant responded =>
      subst own
      exact keysOf_of_keysOfOthers
        (KeyRoute.keysOfOthers tenant responded) other
  | @requested ctx ages route answer db s' own tenant monotone responded
      answered =>
      cases answer with
      | returned =>
          cases answered
          rfl
      | begun request outcome =>
          cases outcome with
          | answered result =>
              cases answered
              rfl
          | reserved attempt =>
              obtain ⟨calls, _, rfl⟩ := Option.map_eq_some_iff.mp answered
              rfl

/--
A tenant writes to its own rows: whatever requests are made with its keys and
whatever its calls do, in any state of the service and in any order, the rows
and the keys of every other account stay as they are.
-/
theorem tenants_write_own_rows
    (reached : Service.Reached env auth s)
    (requests : Relation.ReflTransGen (TenantStep env auth accountId) s s')
    (other : otherId ≠ accountId) :
    s'.sys.db.share otherId = s.sys.db.share otherId ∧
      s'.keysOf otherId = s.keysOf otherId := by
  induction requests with
  | refl => exact ⟨rfl, rfl⟩
  | @tail middle last before taken inductionHypothesis =>
      have before' :
          Relation.ReflTransGen (ServiceStep env auth) s middle :=
        before.lift id fun _ _ => ServiceStep.tenant
      have sound := reached_sound (reached.later before')
      have served := taken.served
      exact ⟨(served.share sound other).trans inductionHypothesis.1,
        (served.keysOf other).trans inductionHypothesis.2⟩

end Steps

/-! ## A tenant at work -/

/-- The moves of a tenant, one after the other. -/
def serveAll
    (env : Env)
    (auth : AuthEnv)
    (s : Service)
    (accountId : Id) :
    List TenantMove → Option Service
  | [] => some s
  | move :: rest =>
      (serve env auth s accountId move).bind
        (serveAll env auth · accountId rest)

/-- Moves that are possible are moves for the tenant. -/
theorem requests_of_serveAll
    {env : Env}
    {auth : AuthEnv}
    {accountId : Id}
    {s s' : Service}
    {moves : List TenantMove}
    (served : serveAll env auth s accountId moves = some s') :
    Relation.ReflTransGen (TenantStep env auth accountId) s s' := by
  induction moves generalizing s with
  | nil =>
      cases served
      exact .refl
  | cons move rest inductionHypothesis =>
      obtain ⟨middle, taken, servedRest⟩ :=
        Option.bind_eq_some_iff.mp served
      exact .head ⟨move, taken⟩ (inductionHypothesis servedRest)

/-- What happens in the system alone can happen in the service. -/
theorem reached_of_reachable
    {env : Env}
    {auth : AuthEnv}
    {sys : Sys}
    (reachable : Reachable env (fun _ _ => True) sys) :
    Service.Reached env auth { Service.start with sys := sys } := by
  obtain ⟨_, rfl, later⟩ := reachable
  have embeds
      (before after : Sys)
      (taken : Step env (fun _ _ => True) before after) :
      ServiceStep env auth { Service.start with sys := before }
        { Service.start with sys := after } :=
    .system taken
  exact ⟨Service.start, rfl, later.lift _ embeds⟩

/-- Secrets that are stored as they are. -/
def AuthEnv.plain : AuthEnv where
  hashSecret secret := secret
  allowDev := false

/-- A customer's key. -/
def customerKey (keyId accountId : Id) (name : String) : ApiKey where
  id := keyId
  accountId := accountId
  visiblePrefix := "cxk_test_" ++ name
  secretHash := "cxk_test_" ++ name ++ "_s"
  scopes := customerScopes
  revokedAt := none
  expiresAt := none
  lastUsedAt := none
  kind := "customer"

/-- Two tenants have a key each. -/
def twoTenants (sys : Sys) : Service where
  sys := sys
  keys := ⟨[customerKey 1 1 "a", customerKey 2 2 "b"], by decide⟩
  sessions := []
  running := []

/-- The first tenant adds an agent, makes a call and revokes its key. -/
def tenantAtWork : List TenantMove :=
  let ctx := (customerKey 1 1 "a").context
  [.authenticate noon (some "cxk_test_a_s"),
    .request ctx [] (.postAgent 1 (some 1) 2),
    .request ctx [] (.postInvoke false call (drawTen 1)),
    .goesOn (.mark 1),
    .goesOn (.dispatch 1),
    .goesOn (.providerReturns 1 "found"),
    .goesOn (.finish 1 (drawFinish 1)),
    .keyRequest ctx [] (.postKeyRevoke 1 noon)]

/-- A tenant that settles a call and revokes its key changes nothing of another. -/
theorem tenants_write_own_rows_example :
    ∃ s s',
      Service.Reached .plain .plain s ∧
        Relation.ReflTransGen (TenantStep .plain .plain 1) s s' ∧
        s'.sys.db.receipts.rows.length = s.sys.db.receipts.rows.length + 1 ∧
        s'.sys.db.share 2 = s.sys.db.share 2 ∧
        s'.keysOf 2 = s.keysOf 2 := by
  have checked :
      (run .plain Sys.start
            (deploy ++ [.txn [] (.createPrincipal none none 2 2)])).any
          (fun sys =>
            (serveAll .plain .plain (twoTenants sys) 1 tenantAtWork).any
              fun s' =>
                s'.sys.db.receipts.rows.length =
                  sys.db.receipts.rows.length + 1) =
        true := by
    decide
  obtain ⟨sys, reachable, passes⟩ :=
    reachable_of_check (.of_forall (fun _ _ _ => trivial) _) checked
  obtain ⟨s', served, issued⟩ := (Option.any_eq_true _ _).mp passes
  have reached : Service.Reached .plain .plain (twoTenants sys) :=
    (reached_of_reachable reachable).next (.keys _)
  have requests := requests_of_serveAll served
  exact ⟨twoTenants sys, s', reached, requests, of_decide_eq_true issued,
    tenants_write_own_rows reached requests (by decide)⟩

end Crossing
