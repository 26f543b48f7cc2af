import Crossing.Replay

namespace Crossing

open Relational

/-!
# A successful invocation is idempotent

A positive answer to a request with a key leaves a completed claim with the same
answer, and completed claims stay.  What is left is that the claim is read
before anything else, and that its request hash is that of the request.
-/

/-- The hashes of requests are not empty. -/
def Env.Hashes (env : Env) : Prop :=
  ∀ request, requestFingerprint env request ≠ ""

/-- The hash of a request counts as given. -/
theorem Env.Hashes.truthy
    {env : Env}
    (hashes : env.Hashes)
    (request : InvokeRequest) :
    truthy (some (requestFingerprint env request)) =
      some (requestFingerprint env request) :=
  truthy_some (hashes request)

/-! ## Every claim has a request hash -/

/-- Every claim has a non-empty request hash. -/
def Hashed (claims : Table IdempotencyRecord) : Prop :=
  ∀ at_ claim, claims.find at_ = some claim →
    (truthy claim.requestHash).isSome = true

namespace Hashed

variable
  {claims claims' : Table IdempotencyRecord}
  {operation : Option (Id × String)}

/-- Claims that change into hashed ones stay hashed. -/
theorem change
    {value :
      Id × String → Option IdempotencyRecord → Option IdempotencyRecord}
    (hashed : Hashed claims)
    (changes : ClaimsChange operation value claims claims')
    (newHashed :
      ∀ at_ claim, operation = some at_ →
        value at_ (claims.find at_) = some claim →
          (truthy claim.requestHash).isSome = true) :
    Hashed claims' := by
  intro at_ claim found
  by_cases isOperation : operation = some at_
  · rw [changes.find_self isOperation] at found
    exact newHashed at_ claim isOperation found
  · rw [changes.find_of_ne isOperation] at found
    exact hashed at_ claim found

/-- A completed claim has the hash of its attempt or its own. -/
theorem completed
    {invocation : Invocation}
    {payload : Option InvokeResult}
    (hashed : Hashed claims)
    (claimed :
      ∀ at_, invocation.operation = some at_ →
        ∃ claim, claims.find at_ = some claim)
    (completes :
      ClaimsChange invocation.operation (completion invocation payload)
        claims claims') :
    Hashed claims' := by
  apply hashed.change completes
  intro at_ claim isOperation isClaim
  obtain ⟨old, found⟩ := claimed at_ isOperation
  rw [found] at isClaim
  cases isClaim
  simp only [completedClaim]
  cases given : truthy invocation.requestHash with
  | none => exact hashed at_ old found
  | some hash =>
      rw [Option.map_some, Option.getD_some,
        truthy_some (truthy_nonempty given)]
      rfl

/-- Every effect of a run whose attempts `invoke` opens keeps the hashes. -/
theorem effect
    {env : Env}
    {discipline : Discipline}
    {origin : Origin}
    {db db' : Db}
    {entries : List Entry}
    (hashed : Hashed db.idempotencyRecords)
    (hashes : env.Hashes)
    (law : db.attempts.Law)
    (byInvoke : discipline.byInvoke)
    (effect : Effect env discipline origin db entries db') :
    Hashed db'.idempotencyRecords := by
  have claimed
      {invocation : Invocation}
      {toStatus : InvocationStatus}
      (found : db.invocations.find invocation.id = some invocation)
      (way : Completes invocation.status toStatus) :
      ∀ at_, invocation.operation = some at_ →
        ∃ claim, db.idempotencyRecords.find at_ = some claim :=
    law.claimed invocation (Table.mem_of_find found) way.completed.1
  cases effect with
  | opened opening _ _ _ requested =>
      apply hashed.change opening.claimed
      intro at_ claim _ isClaim
      cases isClaim
      obtain ⟨request, isRequest⟩ := requested byInvoke
      simp only [openClaim]
      rw [isRequest.hash, hashes.truthy]
      rfl
  | settled settling via =>
      have found := settling.invocationFound
      have way := via.completes (law.noneOk _ (Table.mem_of_find found))
      exact hashed.completed (claimed found way) settling.completed
  | resettled resettling via =>
      have found := resettling.invocationFound
      have way := via.completes (law.noneOk _ (Table.mem_of_find found))
      exact hashed.completed (claimed found way) resettling.completed
  | released releasing =>
      apply hashed.change releasing.cleared
      intro at_ claim _ isClaim
      cases isClaim
  | _ => exact hashed

end Hashed

/-! ## Every positive answer is remembered -/

/-- A claim that gives the same answer to the same request. -/
structure Remembers
    (env : Env)
    (claim : IdempotencyRecord)
    (request : InvokeRequest)
    (result : InvokeResult) :
    Prop where
  completed : claim.status = .completed
  sameHash :
    truthy claim.requestHash = some (requestFingerprint env request)
  answer :
    ∃ stored,
      claim.resultJson = some stored ∧
        stored.ok = true ∧
        stored.receipt = result.receipt ∧
        stored.reservationId = result.reservationId ∧
        stored.amountCents = result.amountCents

/-- The claim with the answer of a request, and the mandate of the request. -/
def RememberedIn
    (env : Env)
    (db : Db)
    (request : InvokeRequest)
    (result : InvokeResult)
    (key : String) :
    Prop :=
  ∃ mandate claim,
    db.mandates.find request.mandateId = some mandate ∧
      db.idempotencyRecords.find (mandate.principalId, key) = some claim ∧
      Remembers env claim request result

section Runs

variable
  {env : Env}
  {allowed : Sys → Action → Prop}
  {discipline : Discipline}
  {s s' : Sys}
  {action : Action}
  {request : InvokeRequest}
  {result : InvokeResult}
  {key : String}

/-- A step that completes the attempt of a call with its answer. -/
inductive Settles (env : Env) (s s' : Sys) :
    InvokeRequest → InvokeResult → Prop where
  | settled
      {attempt : Attempt}
      {toolResult : JsonText}
      {draw : FinishDraw}
      {invocation : Invocation}
      (call :
        s.calls.find attempt.invocation.id =
          some ⟨attempt, .returned toolResult⟩)
      (found : s.db.invocations.find invocation.id = some invocation)
      (sameId : invocation.id = attempt.invocation.id)
      (completes :
        ClaimsChange invocation.operation
          (completion invocation
            ((attempt.callbacks toolResult draw).payload env
              ((attempt.callbacks toolResult draw).receiptFn.map
                (issuedReceipt env))))
          s.db.idempotencyRecords s'.db.idempotencyRecords) :
      Settles env s s' attempt.request
        (attempt.success toolResult
          ((attempt.callbacks toolResult draw).receiptFn.map
            (issuedReceipt env)))

/-- Transactions outside `invoke` answer nothing. -/
theorem Effect.unanswered
    {origin : Origin}
    {db db' : Db}
    {entries : List Entry}
    (effect : Effect env discipline origin db entries db')
    (request : InvokeRequest)
    (result : InvokeResult) :
    .answered request result ∉ entries := by
  cases effect with
  | @moved _ toStatus => cases toStatus <;> simp [moveEntries]
  | _ => simp

/-- Where a positive answer comes from. -/
theorem Stepped.answered_ok
    (stepped : Stepped env discipline s action s')
    (answered : .answered request result ∈ s'.log)
    (succeeded : result.ok = true) :
    .answered request result ∈ s.log ∨
      (∃ ages now loaded statement,
        loadLiveMandate env (s.views ages) now request.mandateId =
            .ok loaded ∧
          Replays (s.views ages statement) loaded.principalId
            request.idempotencyKey (requestFingerprint env request)
            result) ∨
      Settles env s s' request result := by
  have failedAnswer
      {request' : InvokeRequest}
      {result' : InvokeResult}
      (failed : result'.ok = false)
      (member :
        .answered request result ∈
          s.log ++ [Entry.answered request' result']) :
      .answered request result ∈ s.log := by
    rcases List.mem_append.mp member with inOld | isNew
    · exact inOld
    · cases List.mem_singleton.mp isNew
      rw [succeeded] at failed
      cases failed
  cases stepped with
  | txn _ effect =>
      rcases List.mem_append.mp answered with inOld | isNew
      · exact .inl inOld
      · exact (effect.unanswered _ _ isNew).elim
  | answered effect replays =>
      rcases List.mem_append.mp answered with inOld | isNew
      · exact .inl inOld
      · cases List.mem_singleton.mp isNew
        obtain ⟨loaded, statement, live, replay⟩ := replays succeeded
        exact .inr (.inl ⟨_, _, loaded, statement, live, replay⟩)
  | began _ effect =>
      rcases List.mem_append.mp answered with inOld | isNew
      · exact .inl inOld
      · exact (effect.unanswered _ _ isNew).elim
  | marked =>
      rcases List.mem_append.mp answered with inOld | isNew
      · exact .inl inOld
      · simp at isNew
  | unmarked _ failed => exact .inl (failedAnswer failed answered)
  | dispatched =>
      rcases List.mem_append.mp answered with inOld | isNew
      · exact .inl inOld
      · simp at isNew
  | returned =>
      rcases List.mem_append.mp answered with inOld | isNew
      · exact .inl inOld
      · simp at isNew
  | raised => exact .inl answered
  | failed _ failed => exact .inl (failedAnswer failed answered)
  | lost _ failed => exact .inl (failedAnswer failed answered)
  | finished call settling _ sameId _ issued =>
      rcases List.mem_append.mp answered with inOld | isNew
      · exact .inl inOld
      · cases List.mem_singleton.mp isNew
        subst issued
        exact .inr (.inr
          (.settled call settling.invocationFound sameId
            settling.completed))

/-- The payload that is stored carries the receipt that is answered. -/
theorem resultPayload_receipt
    (env : Env)
    (built : InvokeResult)
    (args : ReceiptArgs) :
    (resultPayload env built (some (issuedReceipt env args))).receipt =
      some (issuedReceipt env args).toDict := by
  unfold resultPayload
  by_cases retains : env.retainPayloads = true
  · simp [retains]
  · simp [retains, issuedReceipt, receiptBody, Receipt.toDict]

/-- A call stores the answer it gives. -/
theorem Attempt.stores
    (env : Env)
    (attempt : Attempt)
    (toolResult : JsonText)
    (draw : FinishDraw) :
    let callbacks := attempt.callbacks toolResult draw
    let receipt := callbacks.receiptFn.map (issuedReceipt env)
    ∃ stored,
      callbacks.payload env receipt = some stored ∧
        stored.ok = true ∧
        stored.receipt = (attempt.success toolResult receipt).receipt ∧
        stored.reservationId =
          (attempt.success toolResult receipt).reservationId ∧
        stored.amountCents =
          (attempt.success toolResult receipt).amountCents :=
  ⟨_, rfl, rfl, resultPayload_receipt _ _ _, rfl, rfl⟩

/-- The claim of a settled call remembers its answer. -/
theorem Settles.remembered
    (settles : Settles env s s' request result)
    (kept : s.Kept env)
    (evolves : Evolves s.db s'.db)
    (hashes : env.Hashes)
    (keyed : truthy request.idempotencyKey = some key) :
    RememberedIn env s'.db request result key := by
  cases settles with
  | @settled attempt toolResult draw invocation call found sameId
      completes =>
      have stored := kept.calls _ (Table.mem_of_find call)
      have same := stored.held.same found sameId
      have requested : Requested env invocation attempt.request := by
        rw [same]
        exact { stored.requested with }
      obtain ⟨row, rowFound, ofPrincipal⟩ := stored.loaded
      obtain ⟨mandate, isMandate, sameTerms⟩ :=
        evolves.mandates _ _ rowFound
      have mandateId : attempt.mandate.id = attempt.request.mandateId := by
        rw [stored.ofMandate, stored.requested.mandate]
      have principal : mandate.principalId = invocation.principalId := by
        rw [sameTerms.1, same, ← stored.ofPrincipal]
        exact ofPrincipal
      have operation :
          invocation.operation = some (mandate.principalId, key) := by
        simp [Invocation.operation, requested.key, keyed, principal]
      refine ⟨mandate, _, mandateId ▸ isMandate,
        completes.find_self operation, ?_⟩
      have hashed :
          truthy invocation.requestHash =
            some (requestFingerprint env attempt.request) := by
        rw [requested.hash, hashes.truthy]
      obtain ⟨answer, isAnswer, sameAnswer⟩ :=
        attempt.stores env toolResult draw
      refine
        { completed := ?_
          sameHash := ?_
          answer := ⟨answer, ?_, sameAnswer⟩ }
      · unfold completedClaim
        split <;> rfl
      · unfold completedClaim
        split
        · exact hashed
        · simp [hashed, hashes.truthy]
      · rw [← isAnswer]
        unfold completedClaim
        split <;> rfl

variable (discipline) in
/-- In every reachable state the claims have request hashes. -/
theorem reachable_hashed
    (hashes : env.Hashes)
    (rule : discipline.defaultRelease)
    (byInvoke : discipline.byInvoke)
    (keeps : ∀ s action, allowed s action → discipline.Allows action)
    (reachable : Reachable env allowed s) :
    Hashed s.db.idempotencyRecords := by
  apply reachable_db_invariant discipline
    (fun db => Hashed db.idempotencyRecords) keeps _ _ reachable
  · intro at_ claim found
    cases found
  · intro s origin entries db' isReachable effect hashed
    have law := reachable_attempts discipline rule keeps isReachable
    exact hashed.effect hashes law byInvoke effect

/-- What is remembered stays remembered. -/
theorem RememberedIn.later
    {db db' : Db}
    (remembered : RememberedIn env db request result key)
    (evolves : Evolves db db')
    (stays :
      ∀ at_ claim, db.idempotencyRecords.find at_ = some claim →
        claim.status = .completed →
          db'.idempotencyRecords.find at_ = some claim) :
    RememberedIn env db' request result key := by
  obtain ⟨mandate, claim, isMandate, found, remembers⟩ := remembered
  obtain ⟨mandate', isMandate', sameTerms⟩ :=
    evolves.mandates _ _ isMandate
  refine ⟨mandate', claim, isMandate', ?_, remembers⟩
  rw [sameTerms.1]
  exact stays _ claim found remembers.completed

/-- A replayed answer is remembered by the claim it was read from. -/
theorem Replays.remembered
    {view : Db}
    {principalId : Id}
    (replays :
      Replays view principalId request.idempotencyKey
        (requestFingerprint env request) result)
    (hashes : env.Hashes)
    (succeeded : result.ok = true)
    (keyed : truthy request.idempotencyKey = some key) :
    ∃ claim,
      view.idempotencyRecords.find (principalId, key) = some claim ∧
        claim.status = .completed ∧
        ((truthy claim.requestHash).isSome = true →
          Remembers env claim request result) := by
  obtain ⟨text, claim, stored, isText, found, completed, isStored, rfl,
    sameRequest⟩ := replays.claim
  cases isText.symm.trans keyed
  refine ⟨claim, found, completed, ?_⟩
  intro hashed
  obtain ⟨hash, isHash⟩ := Option.isSome_iff_exists.mp hashed
  refine
    { completed := completed
      sameHash := ?_
      answer := ⟨stored, isStored, succeeded, rfl, rfl, rfl⟩ }
  by_contra differs
  apply sameRequest
  refine ⟨hash, isHash, _, hashes.truthy request, ?_⟩
  rintro rfl
  exact differs isHash

variable (discipline) in
/-- In every reachable state the positive answers are remembered. -/
theorem reachable_remembered
    (hashes : env.Hashes)
    (rule : discipline.defaultRelease)
    (byInvoke : discipline.byInvoke)
    (keeps : ∀ s action, allowed s action → discipline.Allows action)
    (reachable : Reachable env allowed s) :
    ∀ request result key,
      .answered request result ∈ s.log →
        result.ok = true →
          truthy request.idempotencyKey = some key →
            RememberedIn env s.db request result key := by
  apply reachable_invariant discipline
    (fun s =>
      ∀ request result key,
        .answered request result ∈ s.log →
          result.ok = true →
            truthy request.idempotencyKey = some key →
              RememberedIn env s.db request result key)
    keeps _ _ reachable
  · intro request result key answered
    cases answered
  · intro s s' action isReachable remembered _ stepped request result key
      answered succeeded keyed
    obtain ⟨_, _, effect⟩ := stepped.effect
    have kept := reachable_kept isReachable
    have law := reachable_attempts discipline rule keeps isReachable
    have step := effect.attempts rule law.noneOk
    have stays :
        ∀ at_ claim, s.db.idempotencyRecords.find at_ = some claim →
          claim.status = .completed →
            s'.db.idempotencyRecords.find at_ = some claim :=
      fun at_ claim => law.completed_stays step
    rcases stepped.answered_ok answered succeeded with
      inOld | ⟨ages, _, loaded, statement, live, replays⟩ | settles
    · exact (remembered request result key inOld succeeded keyed).later
        effect.evolves stays
    · obtain ⟨claim, foundThen, completed, remembers⟩ :=
        replays.remembered hashes succeeded keyed
      obtain ⟨loadedFound, _, _⟩ := loadLiveMandate_ok live
      obtain ⟨mandate, isMandate, sameTerms⟩ :=
        (kept.seen ages 0).mandates _ _ loadedFound
      have found :=
        reachable_past_claim rule keeps isReachable _
          (s.views_mem ages statement) _ claim foundThen completed
      have hashed :=
        reachable_hashed discipline hashes rule byInvoke keeps isReachable _
          claim found
      have now : RememberedIn env s.db request result key :=
        ⟨mandate, claim, isMandate, by rw [sameTerms.1]; exact found,
          remembers hashed⟩
      exact now.later effect.evolves stays
    · exact settles.remembered kept effect.evolves hashes keyed

end Runs

/-! ## Every repetition -/

/-- The rules that releases are the default ones and `invoke` opens attempts. -/
def Discipline.idempotent : Discipline :=
  { Discipline.free with defaultRelease := True, byInvoke := True }

/-- The same mandate, server, tool, arguments and key, with any nonce. -/
structure InvokeRequest.Repeats (again request : InvokeRequest) : Prop where
  mandate : again.mandateId = request.mandateId
  server : again.server = request.server
  tool : again.tool = request.tool
  arguments : again.payload = request.payload
  key : again.idempotencyKey = request.idempotencyKey

/-- A repeated request has the same fingerprint. -/
theorem InvokeRequest.Repeats.fingerprint
    {again request : InvokeRequest}
    (repeats : again.Repeats request)
    (env : Env) :
    requestFingerprint env again = requestFingerprint env request := by
  unfold requestFingerprint
  rw [repeats.mandate, repeats.server, repeats.tool, repeats.arguments]

/-- A transaction on a later state that finds the mandate of a request live. -/
structure LoadsLater
    (env : Env)
    (s s' : Sys)
    (ages : List Nat)
    (request : InvokeRequest)
    (draw : InvokeDraw)
    (loaded : Mandate) :
    Prop where
  monotone : Monotone ages
  since : Since s s' ages
  live :
    loadLiveMandate env (s'.views ages) draw.now request.mandateId =
      .ok loaded

/-- The claim of a remembered answer is what a later transaction loads. -/
theorem RememberedIn.loaded
    {env : Env}
    {allowed : Sys → Action → Prop}
    (discipline : Discipline)
    {s s' : Sys}
    {request : InvokeRequest}
    {result : InvokeResult}
    {key : String}
    (remembered : RememberedIn env s.db request result key)
    (rule : discipline.defaultRelease)
    (keeps : ∀ s action, allowed s action → discipline.Allows action)
    (reachable : Reachable env allowed s)
    (later : Later env allowed s s')
    {ages : List Nat}
    (since : Since s s' ages)
    (statement : Nat) :
    RememberedIn env (s'.views ages statement) request result key := by
  obtain ⟨between, isBetween, isView⟩ :=
    view_since reachable later since statement
  rw [isView]
  apply remembered.later (later_evolves reachable isBetween)
  intro at_ claim found completed
  exact later_claim rule keeps reachable isBetween found completed

/-- The principal of the mandate of a request, which stays the same. -/
def OfPrincipal (db : Db) (request : InvokeRequest) (principalId : Id) : Prop :=
  ∃ mandate,
    db.mandates.find request.mandateId = some mandate ∧
      mandate.principalId = principalId

/-- The claim of a remembered answer is found by every later transaction. -/
theorem RememberedIn.found
    {env : Env}
    {allowed : Sys → Action → Prop}
    (discipline : Discipline)
    {s s' : Sys}
    {request : InvokeRequest}
    {result : InvokeResult}
    {key : String}
    {ages : List Nat}
    {principalId : Id}
    (remembered : RememberedIn env s.db request result key)
    (rule : discipline.defaultRelease)
    (keeps : ∀ s action, allowed s action → discipline.Allows action)
    (reachable : Reachable env allowed s)
    (later : Later env allowed s s')
    (since : Since s s' ages)
    (ofPrincipal : OfPrincipal s'.db request principalId)
    (statement : Nat) :
    ∃ claim,
      (s'.views ages statement).idempotencyRecords.find
          (principalId, key) =
        some claim ∧
        Remembers env claim request result := by
  obtain ⟨mandate, claim, isMandate, found, remembers⟩ :=
    remembered.loaded discipline rule keeps reachable later since statement
  have kept := reachable_kept (reachable.later later)
  obtain ⟨row, rowFound, rfl⟩ := ofPrincipal
  obtain ⟨row', rowFound', sameTerms⟩ :=
    (kept.seen ages statement).mandates _ _ isMandate
  cases rowFound.symm.trans rowFound'
  refine ⟨claim, ?_, remembers⟩
  rw [sameTerms.1]
  exact found

/-- A mandate that loads as live has its principal in the database. -/
theorem LoadsLater.ofPrincipal
    {env : Env}
    {s s' : Sys}
    {ages : List Nat}
    {request : InvokeRequest}
    {draw : InvokeDraw}
    {loaded : Mandate}
    (loads : LoadsLater env s s' ages request draw loaded)
    (kept : s'.Kept env) :
    OfPrincipal s'.db request loaded.principalId := by
  obtain ⟨loadedFound, _, _⟩ := loadLiveMandate_ok loads.live
  obtain ⟨row, rowFound, sameTerms⟩ :=
    (kept.seen ages 0).mandates _ _ loadedFound
  exact ⟨row, rowFound, by rw [sameTerms.1]⟩

/--
After a positive answer to a request with a key, every repetition whose mandate
still loads as live is answered alike and changes no table, and another request
of the same principal with the key is denied.
-/
theorem success_is_idempotent
    {env : Env}
    {s s' : Sys}
    {request : InvokeRequest}
    {result : InvokeResult}
    {key : String}
    (hashes : env.Hashes)
    (reachable :
      Reachable env (fun _ action => Discipline.idempotent.Allows action) s)
    (answered : .answered request result ∈ s.log)
    (succeeded : result.ok = true)
    (keyed : truthy request.idempotencyKey = some key)
    (later :
      Later env (fun _ action => Discipline.idempotent.Allows action) s s') :
    (∀ ages again draw loaded,
      LoadsLater env s s' ages again draw loaded →
        again.Repeats request →
          ∃ replay,
            step env s' (.invoke ages again draw) =
                some (s'.commit s'.db [.answered again replay]) ∧
              replay.ok = true ∧
              replay.replayed = true ∧
              replay.receipt = result.receipt ∧
              replay.reservationId = result.reservationId ∧
              replay.amountCents = result.amountCents) ∧
      ∀ ages again draw loaded,
        LoadsLater env s s' ages again draw loaded →
          again.idempotencyKey = request.idempotencyKey →
            OfPrincipal s'.db request loaded.principalId →
              requestFingerprint env again ≠
                  requestFingerprint env request →
                ∃ denial event,
                  step env s' (.invoke ages again draw) =
                      some
                        (s'.commit
                          { s'.db with
                            ledgerEvents :=
                              s'.db.ledgerEvents ++ [event] }
                          [.answered again denial]) ∧
                    denial.ok = false ∧
                    denial.reason = some .idempotencyConflict ∧
                    event.kind = .deny ∧
                    event.amountCents = 0 := by
  have keeps :
      ∀ (s : Sys) action,
        Discipline.idempotent.Allows action →
          Discipline.idempotent.Allows action :=
    fun _ _ kept => kept
  have remembered :=
    reachable_remembered .idempotent hashes trivial trivial keeps
      reachable request result key answered succeeded keyed
  constructor
  · intro ages again draw loaded loads repeats
    have kept := reachable_kept (reachable.later later)
    have ofPrincipal : OfPrincipal s'.db request loaded.principalId := by
      unfold OfPrincipal
      rw [← repeats.mandate]
      exact loads.ofPrincipal kept
    obtain ⟨claim, found, remembers⟩ :=
      remembered.found .idempotent trivial keeps reachable later
        loads.since ofPrincipal 4
    obtain ⟨stored, isStored, ok, sameAnswer⟩ := remembers.answer
    have sameHash :
        ∀ hash ∈ truthy claim.requestHash,
          hash = requestFingerprint env again := by
      intro hash isHash
      cases remembers.sameHash.symm.trans isHash
      exact (repeats.fingerprint env).symm
    have cached :=
      loadIdem_cached (repeats.key ▸ keyed) found sameHash
        remembers.completed isStored
    exact ⟨replayOf stored,
      step_answered loads.monotone (invokeBegin_cached loads.live cached),
      ok, rfl, sameAnswer⟩
  · intro ages again draw loaded loads sameKey ofPrincipal differs
    obtain ⟨claim, found, remembers⟩ :=
      remembered.found .idempotent trivial keeps reachable later
        loads.since ofPrincipal 4
    have conflict :=
      loadIdem_conflict (sameKey ▸ keyed) found remembers.sameHash
        differs.symm
    obtain ⟨denial, event, denied, failed, reason, isDeny, free⟩ :=
      invokeBegin_denies s'.db loads.live conflict (by simp)
    exact ⟨denial, event, step_answered loads.monotone denied, failed,
      reason, isDeny, free⟩

/-- The requests of the small deployment have hashes. -/
theorem Env.plain_hashes : Env.plain.Hashes := by
  intro request empty
  have length := congrArg String.length empty
  simp [requestFingerprint, Env.plain, String.length_append] at length

/-- A settled call that is repeated with another nonce. -/
theorem success_is_idempotent_example :
    ∃ s result replay,
      Reachable .plain (fun _ action => Discipline.idempotent.Allows action)
          s ∧
        .answered call result ∈ s.log ∧
        step .plain s
            (.invoke [] { call with nonce := some "again" } (drawTen 2)) =
          some
            (s.commit s.db
              [.answered { call with nonce := some "again" } replay]) ∧
        replay.ok = true ∧
        replay.replayed = true ∧
        replay.receipt = result.receipt ∧
        replay.reservationId = result.reservationId ∧
        replay.amountCents = result.amountCents := by
  have checked :
      (run .plain Sys.start (deploy ++ settle)).any
          (fun s =>
            s.log.any
                (fun
                  | .answered request result =>
                      request = call && result.ok
                  | _ => false) &&
              (loadLiveMandate .plain (s.views []) noon 1).isOk) =
        true := by
    decide
  obtain ⟨s, reachable, passes⟩ :=
    reachable_of_check (.routine (by decide) .idempotent _) checked
  obtain ⟨hasAnswer, isLive⟩ := Bool.and_eq_true_iff.mp passes
  obtain ⟨entry, inLog, isAnswer⟩ := List.any_eq_true.mp hasAnswer
  cases entry with
  | answered request result =>
      obtain ⟨isCall, succeeded⟩ := Bool.and_eq_true_iff.mp isAnswer
      cases of_decide_eq_true isCall
      cases live : loadLiveMandate .plain (s.views []) noon 1 with
      | error outcome =>
          rw [live] at isLive
          cases isLive
      | ok loaded =>
          obtain ⟨replay, taken, same⟩ :=
            (success_is_idempotent Env.plain_hashes reachable inLog
              succeeded rfl .refl).1 []
              { call with nonce := some "again" } (drawTen 2) loaded
              { monotone := .nil, since := by simp [Since], live := live }
              ⟨rfl, rfl, rfl, rfl, rfl⟩
          exact ⟨s, result, replay, reachable, inLog, taken, same⟩
  | _ => cases isAnswer

end Crossing
