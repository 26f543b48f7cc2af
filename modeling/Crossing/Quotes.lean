import Crossing.CallArguments
import Crossing.ProviderRequests
import Crossing.Retry

namespace Crossing

open Python

/-!
# Quotes

`quote` from the allowlist of the providers to the price list of `pricing.py`.
A price stands in that list or in the answer of a provider.  What a quote and
the check of the arguments deny is never taken for a repetition, which is what
a request that was given up has to rely on.
-/

/-! ## The price list -/

/-- `PRICES_CENTS`, by server and tool. -/
def pricesCents : List ((String × String) × Cents) :=
  [(("mock", "search"), 5), (("mock", "purchase"), 500),
    (("mock", "expensive"), 500)]

/-- `quote` of `pricing.py`, or the message of its `KeyError`. -/
def listedQuote (tool server : String) : Except String Cents :=
  match pricesCents.lookup (server, tool) with
  | none => .error s!"no price for {server}/{tool}"
  | some price => .ok price

/-- A quote from the list; `str` shows the message of a `KeyError` quoted. -/
def listedOrDenied (json : JsonLibrary) (tool server : String) :
    Except ProviderRaised Cents :=
  match listedQuote tool server with
  | .error message =>
      .error (.policyDenied ⟨.unknownTool, json.repr (.string message)⟩)
  | .ok price => .ok price

/-! ## The answer of a provider -/

/-- `int(value)`. -/
def intOf : Json → Except PythonError Int
  | .bool value => .ok (if value then 1 else 0)
  | .int value => .ok value
  | .float (.finite value) => .ok (value.num.tdiv value.den)
  | .float _ => .error (.other "OverflowError")
  | .string text =>
      match pythonInt text with
      | none => .error .valueError
      | some value => .ok value
  | .null | .array _ | .object _ => .error .typeError

/-- The price in a result: `amount_cents` of a dict, or an `int`. -/
def answeredQuote : Json → Option (Except PythonError Cents)
  | .object fields => (fields.lookup "amount_cents").map intOf
  | .int value => some (intOf (.int value))
  | .bool value => some (intOf (.bool value))
  | _ => none

section Quote

variable
  (env : ProviderEnv)
  (resolver : Resolver)
  (instant : Nat)
  (transport : Transport env.tables)

/-- The request that `HttpJsonRpcProvider.quote` makes. -/
def quoteRpc (name url tool : String) : Rpc :=
  rpc env resolver instant transport name url "tools/quote"
    (.object [("name", .string tool)])

/-- `HttpJsonRpcProvider.quote`, which passes over a `ProviderError`. -/
def httpQuote (name url tool : String) : Except ProviderRaised Cents :=
  let listed := listedOrDenied env.json tool name
  match (quoteRpc env resolver instant transport name url tool).outcome with
  | .error (.provider _ _ _) => listed
  | .error raised => .error raised
  | .ok result =>
      match answeredQuote result with
      | none => listed
      | some answered => answered.mapError .python

/-- `quote` of the two providers. -/
def Provider.quote (tool : String) : Provider → Except ProviderRaised Cents
  | .mock => listedOrDenied env.json tool "mock"
  | .http name url => httpQuote env resolver instant transport name url tool

/--
`quote` of `providers.py`.  The `quote` of `lifecycle.py` around it has no
`KeyError` left to catch, since both providers deny for theirs.
-/
def quote (tool server : String) : Except ProviderRaised Cents := do
  let provider ← getProvider env resolver instant server
  provider.quote env resolver (instant + 1) transport tool

end Quote

/-! ## Where prices come from -/

section Prices

variable
  {env : ProviderEnv}
  {resolver : Resolver}
  {instant : Nat}
  {transport : Transport env.tables}
  {tool server name url : String}
  {price : Cents}

/-- A quote from the list is an entry of it. -/
theorem listedOrDenied_ok
    {json : JsonLibrary}
    (priced : listedOrDenied json tool server = .ok price) :
    pricesCents.lookup (server, tool) = some price := by
  unfold listedOrDenied listedQuote at priced
  cases entry : pricesCents.lookup (server, tool) with
  | none =>
      rw [entry] at priced
      cases priced
  | some listed =>
      rw [entry] at priced
      cases priced
      rfl

/-- The list has prices of `mock` only. -/
theorem server_of_listed
    (listed : pricesCents.lookup (server, tool) = some price) :
    server = "mock" := by
  by_contra isOther
  have misses (listedTool : String) :
      ((server, tool) == ("mock", listedTool)) = false := by
    simp [isOther]
  simp [pricesCents, List.lookup_cons, misses] at listed

/-- A provider behind HTTP is not called `mock`. -/
theorem getProvider_http_name
    (found : getProvider env resolver instant server = .ok (.http name url)) :
    name ≠ "mock" := by
  unfold getProvider at found
  dsimp only at found
  split_ifs at found with _ isMock
  · cases found
  · obtain ⟨urls, _, found⟩ := except_bind_eq_ok.mp found
    cases entry : urls.lookup (serverName server) with
    | none =>
        rw [entry] at found
        cases found
    | some listedUrl =>
        rw [entry] at found
        obtain ⟨_, _, found⟩ := except_bind_eq_ok.mp found
        cases found
        exact isMock

/--
A price is the one in the list for `mock`, or stands in the answer of the
provider; no other server has prices in the list.
-/
theorem quote_ok
    (priced : quote env resolver instant transport tool server = .ok price) :
    pricesCents.lookup ("mock", tool) = some price ∨
      ∃ name url result,
        getProvider env resolver instant server = .ok (.http name url) ∧
          (quoteRpc env resolver (instant + 1) transport name url
              tool).outcome =
            .ok result ∧
          answeredQuote result = some (.ok price) := by
  obtain ⟨provider, found, priced⟩ := except_bind_eq_ok.mp priced
  cases provider with
  | mock => exact .inl (listedOrDenied_ok priced)
  | http name url =>
      -- The price list has nothing for a provider with an address.
      have unlisted :
          listedOrDenied env.json tool name ≠ .ok price := by
        intro listed
        exact getProvider_http_name found
          (server_of_listed (listedOrDenied_ok listed))
      unfold Provider.quote httpQuote at priced
      dsimp only at priced
      split at priced
      · exact (unlisted priced).elim
      · cases priced
      · next result answers =>
          split at priced
          · exact (unlisted priced).elim
          · next answered isAnswer =>
              cases answered with
              | error exception => cases priced
              | ok value =>
                  cases priced
                  exact .inr ⟨name, url, result, found, answers, isAnswer⟩

end Prices

/-! ## What is denied -/

/-- A `PolicyDenied` is raised for one of the reasons only. -/
def RefusesOnly
    {α : Type}
    (reasons : List Reason)
    (ran : Except ProviderRaised α) :
    Prop :=
  ∀ outcome, ran = .error (.policyDenied outcome) → outcome.reason ∈ reasons

namespace RefusesOnly

variable
  {α β : Type}
  {reasons others : List Reason}

theorem ok {value : α} :
    RefusesOnly reasons (.ok value : Except ProviderRaised α) := by
  intro outcome isError
  cases isError

theorem denied
    {outcome : Denied}
    (isAmong : outcome.reason ∈ reasons) :
    RefusesOnly reasons
      (.error (.policyDenied outcome) : Except ProviderRaised α) := by
  rintro _ ⟨⟩
  exact isAmong

theorem bind
    {first : Except ProviderRaised α}
    {next : α → Except ProviderRaised β}
    (ofFirst : RefusesOnly reasons first)
    (ofNext : ∀ value, RefusesOnly reasons (next value)) :
    RefusesOnly reasons (first >>= next) := by
  cases first with
  | error raised =>
      intro outcome isError
      cases isError
      exact ofFirst outcome rfl
  | ok value => exact ofNext value

theorem weaken
    {ran : Except ProviderRaised α}
    (only : RefusesOnly reasons ran)
    (within : reasons ⊆ others) :
    RefusesOnly others ran :=
  fun outcome isError => within (only outcome isError)

theorem configErrorWhen
    {failed : Prop}
    [Decidable failed]
    {message : String} :
    RefusesOnly reasons (Crossing.configErrorWhen failed message) := by
  intro outcome isError
  unfold Crossing.configErrorWhen at isError
  split at isError <;> cases isError

theorem orValueError {computed : Option α} :
    RefusesOnly reasons (Crossing.orValueError computed) := by
  intro outcome isError
  cases computed <;> cases isError

end RefusesOnly

section Refusals

variable
  {env : ProviderEnv}
  {resolver : Resolver}
  {instant : Nat}
  {transport : Transport env.tables}
  {lookup : String → Nat → Lookup}
  {reasons : List Reason}

/-- No entry of the answer is denied. -/
theorem checkResolved_refuses {allowInternal : Bool} {infos : List String} :
    RefusesOnly [] (checkResolved allowInternal infos) := by
  induction infos with
  | nil => exact .ok
  | cons addr infos inductionHypothesis =>
      unfold checkResolved
      split
      · exact inductionHypothesis
      · exact .bind .configErrorWhen fun _ => inductionHypothesis

/-- The guard raises no denial. -/
theorem assertPublicUrl_refuses {url : String} :
    RefusesOnly [] (assertPublicUrl env lookup url) := by
  unfold assertPublicUrl
  refine .bind .orValueError fun parsed => .bind .configErrorWhen fun _ =>
    .bind .configErrorWhen fun _ => .bind .configErrorWhen fun _ =>
      .bind .configErrorWhen fun _ => ?_
  split
  · exact .configErrorWhen
  · unfold checkName
    refine .bind .configErrorWhen fun _ => .bind .orValueError fun port => ?_
    split
    · rintro _ ⟨⟩
    · rintro _ ⟨⟩
    · exact .bind .configErrorWhen fun _ => checkResolved_refuses

/-- Entries are added without a denial. -/
theorem addEntries_refuse
    {urls : List (String × String)}
    {parts : List String} :
    RefusesOnly [] (parts.foldlM addEntry urls) := by
  induction parts generalizing urls with
  | nil => exact .ok
  | cons part parts inductionHypothesis =>
      rw [List.foldlM_cons]
      refine .bind ?_ fun _ => inductionHypothesis
      unfold addEntry
      dsimp only
      split_ifs
      · exact .ok
      · rintro _ ⟨⟩
      · exact .ok
      · rintro _ ⟨⟩

/-- Nor does the allowlist. -/
theorem parseProviderUrls_refuses :
    RefusesOnly [] (parseProviderUrls env) := by
  unfold parseProviderUrls
  dsimp only
  split_ifs
  · exact .ok
  · split
    · rintro _ ⟨⟩
    · exact .ok
    · rintro _ ⟨⟩
  · exact addEntries_refuse

/-- A server that is not configured is not allowed. -/
theorem getProvider_refuses {server : String} :
    RefusesOnly [.serverNotAllowed]
      (getProvider env resolver instant server) := by
  unfold getProvider
  dsimp only
  split_ifs
  · exact .denied (List.mem_singleton_self _)
  · exact .ok
  · refine .bind (parseProviderUrls_refuses.weaken (by simp)) fun urls => ?_
    split
    · exact .denied (List.mem_singleton_self _)
    · exact .bind (assertPublicUrl_refuses.weaken (by simp)) fun _ => .ok

/-- What a response says is never a denial of the policy. -/
theorem readResponse_refuses {json : JsonLibrary} {resp : Response} :
    RefusesOnly [] (readResponse json resp) := by
  unfold readResponse
  split_ifs
  · rintro _ ⟨⟩
  · rintro _ ⟨⟩
  · split
    · rintro _ ⟨⟩
    · rintro _ ⟨⟩
    · split
      · split_ifs
        · rintro _ ⟨⟩
        · exact .ok
      · rintro _ ⟨⟩

/-- Nor is the request to a provider denied. -/
theorem rpc_refuses {name url method : String} {params : Json} :
    RefusesOnly []
      (rpc env resolver instant transport name url method params).outcome := by
  unfold rpc
  split
  · next raised guarded =>
      intro outcome isError
      exact assertPublicUrl_refuses outcome
        (guarded.trans (congrArg Except.error (Except.error.inj isError)))
  · dsimp only
    split
    · next exception _ =>
        intro outcome isError
        cases exception <;> cases isError
    · exact readResponse_refuses

/-- A tool without a price is unknown. -/
theorem listedOrDenied_refuses {json : JsonLibrary} {tool server : String} :
    RefusesOnly [.unknownTool] (listedOrDenied json tool server) := by
  unfold listedOrDenied
  split
  · exact .denied (List.mem_singleton_self _)
  · exact .ok

/-- A provider denies a quote for that reason only. -/
theorem providerQuote_refuses {tool : String} {provider : Provider} :
    RefusesOnly [.unknownTool]
      (provider.quote env resolver instant transport tool) := by
  cases provider with
  | mock => exact listedOrDenied_refuses
  | http name url =>
      unfold Provider.quote httpQuote
      dsimp only
      split
      · exact listedOrDenied_refuses
      · next raised _ failed =>
          intro outcome isError
          cases isError
          exact absurd (rpc_refuses outcome failed) List.not_mem_nil
      · split
        · exact listedOrDenied_refuses
        · next answered _ =>
            intro outcome isError
            cases answered <;> cases isError

/-- A quote is denied for an unknown tool or a server that is not allowed. -/
theorem quote_refuses {tool server : String} :
    RefusesOnly [.unknownTool, .serverNotAllowed]
      (quote env resolver instant transport tool server) :=
  .bind (getProvider_refuses.weaken (by simp)) fun _ =>
    providerQuote_refuses.weaken (by simp)

end Refusals

/-! ## What the arguments are denied for -/

section Arguments

variable
  {codec : Codec}
  {limit : Int}
  {depth : Nat}

/-- A test of the arguments denies them as not valid. -/
theorem rejectWhen_reason {failed : Prop} [Decidable failed] {detail : String} :
    DeniesOnly (· = .invalidArguments) (rejectWhen failed detail) :=
  .denyWhen rfl

/-- A loop denies for what its passes deny. -/
theorem forM_reason
    {α : Type}
    {among : Reason → Prop}
    {pass : α → Except Denied Unit}
    (each : ∀ item, DeniesOnly among (pass item))
    (items : List α) :
    DeniesOnly among (items.forM pass) := by
  induction items with
  | nil => exact .ok
  | cons item rest inductionHypothesis =>
      exact .bind (each item) fun _ => inductionHypothesis

/-- The loop over items denies what its passes deny. -/
theorem walkItems_reason
    {items : List Json}
    (each :
      ∀ item ∈ items,
        DeniesOnly (· = .invalidArguments) (walk (depth + 1) item)) :
    DeniesOnly (· = .invalidArguments) (walkItems depth items) := by
  induction items with
  | nil => exact .ok
  | cons item rest inductionHypothesis =>
      obtain ⟨ofItem, ofRest⟩ := List.forall_mem_cons.mp each
      exact .bind ofItem fun _ => inductionHypothesis ofRest

/-- The loop over fields denies a long key, or what its passes deny. -/
theorem walkFields_reason
    {fields : List (String × Json)}
    (each :
      ∀ field ∈ fields,
        DeniesOnly (· = .invalidArguments) (walk (depth + 1) field.2)) :
    DeniesOnly (· = .invalidArguments) (walkFields depth fields) := by
  induction fields with
  | nil => exact .ok
  | cons field rest inductionHypothesis =>
      obtain ⟨ofField, ofRest⟩ := List.forall_mem_cons.mp each
      exact .bind rejectWhen_reason fun _ =>
        .bind ofField fun _ => inductionHypothesis ofRest

/-- `_walk` denies what it meets as not valid. -/
theorem walk_reason {value : Json} :
    DeniesOnly (· = .invalidArguments) (walk depth value) := by
  induction value using Json.inside generalizing depth with
  | leaf value isLeaf =>
      unfold walk
      refine .bind rejectWhen_reason fun _ => ?_
      cases value with
      | array items => cases isLeaf
      | object fields => cases isLeaf
      | string text => exact rejectWhen_reason
      | null | bool _ | int _ | float _ => exact .ok
  | array items inductionHypothesis =>
      unfold walk
      exact .bind rejectWhen_reason fun _ => .bind rejectWhen_reason fun _ =>
        walkItems_reason fun item member => inductionHypothesis item member
  | object fields inductionHypothesis =>
      unfold walk
      exact .bind rejectWhen_reason fun _ => .bind rejectWhen_reason fun _ =>
        walkFields_reason fun field member => inductionHypothesis field member

/-- So do the schemas. -/
theorem schemaCheck_reason
    {schema : InputSchema}
    {fields : List (String × Json)} :
    DeniesOnly (· = .invalidArguments) (schema.check fields) := by
  refine .bind (forM_reason (fun _ => rejectWhen_reason) _) fun _ =>
    forM_reason (fun field => ?_) _
  unfold InputSchema.checkField
  split
  · exact .error rfl
  · exact rejectWhen_reason

/-- `validate_arguments` denies for the size or as not valid. -/
theorem validateArguments_reason {tool : String} {arguments : Json} :
    DeniesOnly (· ∈ [Reason.payloadTooLarge, .invalidArguments])
      (validateArguments codec limit tool arguments) := by
  unfold validateArguments
  refine .bind (.denyWhen (by decide)) fun _ => ?_
  split
  · refine .bind (walk_reason.weaken (by simp)) fun _ => ?_
    split
    · exact .ok
    · exact schemaCheck_reason.weaken (by simp)
  · exact .error (by decide)

end Arguments

/-! ## Requests that are sent again -/

section Again

variable
  {codec : Codec}
  {limit : Int}
  {env : Env}
  {providers : ProviderEnv}
  {resolver : Resolver}
  {instant : Nat}
  {transport : Transport providers.tables}

/--
With the arguments checked as in `abuse.py` and the price that `quote` returns
or denies, the denials have the reasons that a retry relies on.
-/
theorem ownReasons_of_quote
    {tool server : String}
    {quoted : Except Denied Cents}
    (isQuote :
      quote providers resolver instant transport tool server =
        quoted.mapError .policyDenied) :
    OwnReasons (codec.validating limit env) quoted where
  quote outcome denied := by
    subst denied
    exact quote_refuses outcome isQuote
  validateArguments _ _ := validateArguments_reason

/--
A request without a nonce that was not served is processed like a fresh one,
whatever the providers quote for it.
-/
theorem retry_without_nonce
    {request : InvokeRequest}
    {s t t' : Sys}
    {ages : List Nat}
    {draw : InvokeDraw}
    (unserved : Unserved (codec.validating limit env) request s)
    (resent :
      Resent (codec.validating limit env) request s t t' ages draw)
    (isQuote :
      quote providers resolver instant transport request.tool request.server =
        draw.quoted.mapError .policyDenied)
    (noNonce : truthy request.nonce = none) :
    ProcessedFresh (codec.validating limit env) request t t' ages draw := by
  obtain ⟨principalId, givenUp⟩ := unserved.givenUp
  exact givenUp.processedFresh unserved.reachable resent
    (ownReasons_of_quote isQuote) fun _ _ => noNonce

end Again

end Crossing
