import Crossing.ProviderUrls

namespace Crossing

open IpAddress
open Python
open Urllib (UnicodeTables ParseResult urlparse)

/-!
# Where provider requests go

What the guard lets through, and what follows for the address that a request
is sent to.  The guard is about one answer of the resolver and the request
about another, so the request is as safe as the answer to its own lookup.
-/

/-- The text names no blocked address. -/
def Public (address : String) : Prop :=
  ∀ ip ∈ ipAddress address, ipBlocked ip = false

instance (address : String) : Decidable (Public address) :=
  match read : ipAddress address with
  | none => isTrue (by simp [Public, read])
  | some ip =>
      decidable_of_iff (ipBlocked ip = false) (by simp [Public, read])

/-! ## The guard -/

/-- A URL has passed the checks on its text. -/
structure UrlAdmitted
    (tables : UnicodeTables)
    (url : String)
    (parsed : ParseResult) :
    Prop where
  parses : urlparse tables url = some parsed
  scheme : parsed.scheme ∈ ["http", "https"]
  noUsername : truthy parsed.username = none
  noPassword : truthy parsed.password = none
  hasHost : guardHost tables parsed ≠ ""
  notMetadata : ¬ isMetadata (guardHost tables parsed)

/-- A name has passed the checks on what it resolves to. -/
def NameAdmitted
    (lookup : String → Nat → Lookup)
    (parsed : ParseResult)
    (host : String) :
    Prop :=
  host ≠ "localhost" ∧
    ∃ port infos,
      parsed.port = some port ∧
        lookup host (portOrDefault parsed port) = .ok infos ∧
        infos ≠ [] ∧
        ∀ addr ∈ infos, Public addr

/-- What `assert_public_url` asks of a URL and of an answer of the resolver. -/
def Admitted
    (tables : UnicodeTables)
    (lookup : String → Nat → Lookup)
    (url : String) :
    Prop :=
  ∃ parsed,
    UrlAdmitted tables url parsed ∧
      match ipAddress (guardHost tables parsed) with
      | some ip => ipBlocked ip = false
      | none => NameAdmitted lookup parsed (guardHost tables parsed)

section Guard

variable
  {env : ProviderEnv}
  {lookup : String → Nat → Lookup}
  {url : String}

/-- The loop passes when no address of the answer is blocked. -/
theorem checkResolved_ok_iff {infos : List String} :
    checkResolved false infos = .ok () ↔ ∀ addr ∈ infos, Public addr := by
  induction infos with
  | nil => simp [checkResolved]
  | cons addr rest inductionHypothesis =>
      rw [List.forall_mem_cons, ← inductionHypothesis]
      cases read : ipAddress addr with
      | none => simp [checkResolved, Public, read]
      | some resolved =>
          simp [checkResolved, except_bind_eq_ok, Public, read]

/-- The checks on a name pass as `NameAdmitted` says. -/
theorem checkName_ok_iff
    {parsed : ParseResult}
    {host : String} :
    checkName lookup false parsed host = .ok () ↔
      NameAdmitted lookup parsed host := by
  unfold checkName NameAdmitted
  simp only [except_bind_eq_ok, configErrorWhen_eq_ok, orValueError_eq_ok,
    and_true, exists_const]
  refine and_congr Iff.rfl ?_
  constructor
  · rintro ⟨port, hasPort, passes⟩
    cases found : lookup host (portOrDefault parsed port) with
    | error exception =>
        rw [found] at passes
        cases exception <;> cases passes
    | ok infos =>
        rw [found] at passes
        simp only [except_bind_eq_ok, configErrorWhen_eq_ok, exists_const,
          checkResolved_ok_iff] at passes
        exact ⟨port, infos, hasPort, found, passes.1, passes.2⟩
  · rintro ⟨port, infos, hasPort, found, nonempty, allPublic⟩
    refine ⟨port, hasPort, ?_⟩
    rw [found]
    simp only [except_bind_eq_ok, configErrorWhen_eq_ok, exists_const,
      checkResolved_ok_iff]
    exact ⟨nonempty, allPublic⟩

/-- The guard passes a URL exactly when it is admitted. -/
theorem assertPublicUrl_ok_iff
    (off : internalAllowlistEnabled env = false) :
    assertPublicUrl env lookup url = .ok () ↔
      Admitted env.tables lookup url := by
  unfold assertPublicUrl Admitted
  simp only [except_bind_eq_ok, configErrorWhen_eq_ok, orValueError_eq_ok,
    exists_const, off, Option.getD_none]
  constructor
  · rintro ⟨parsed, parses, scheme, noCredentials, hasHost, notMetadata,
      passes⟩
    rw [not_not] at scheme
    simp only [Option.isSome_iff_ne_none, ne_eq, not_or, not_not]
      at noCredentials
    refine ⟨parsed, ⟨parses, scheme, noCredentials.1, noCredentials.2,
      hasHost, notMetadata⟩, ?_⟩
    cases literal : ipAddress (guardHost env.tables parsed) with
    | some ip =>
        rw [literal] at passes
        simpa using passes
    | none =>
        rw [literal] at passes
        exact checkName_ok_iff.mp passes
  · rintro ⟨parsed, admitted, passes⟩
    refine ⟨parsed, admitted.parses, not_not.mpr admitted.scheme, ?_,
      admitted.hasHost, admitted.notMetadata, ?_⟩
    · simp [admitted.noUsername, admitted.noPassword]
    · cases literal : ipAddress (guardHost env.tables parsed) with
      | some ip =>
          rw [literal] at passes
          simpa using passes
      | none =>
          rw [literal] at passes
          exact checkName_ok_iff.mpr passes

end Guard

/-! ## The request -/

section Request

variable
  {env : ProviderEnv}
  {resolver : Resolver}
  {instant : Nat}
  {transport : Transport env.tables}
  {name url method address : String}
  {params : Json}

/-- Where a request goes: past the guard, to what its own lookup answers. -/
theorem rpc_sentTo_iff
    (off : internalAllowlistEnabled env = false) :
    (rpc env resolver instant transport name url method params).sentTo =
        some address ↔
      Admitted env.tables (resolver instant) url ∧
        ∃ host port answer,
          transport.target url = some (host, port) ∧
            getaddrinfo resolver (instant + 1) host port = .ok answer ∧
            transport.connect answer = some address := by
  rw [← assertPublicUrl_ok_iff off]
  unfold rpc
  cases guarded : assertPublicUrl env (resolver instant) url with
  | error raised => simp
  | ok passed =>
      cases found : transport.target url with
      | none => simp [post, found]
      | some looked =>
          obtain ⟨host, port⟩ := looked
          cases answered : getaddrinfo resolver (instant + 1) host port with
          | error exception => simp [post, found, answered]
          | ok answer =>
              cases connected : transport.connect answer with
              | none => simp [post, found, answered, connected]
              | some reached =>
                  cases exchanged : transport.exchange reached
                      { url := url
                        headers := headers env name
                        json := rpcPayload method params } <;>
                    simp [post, found, answered, connected, exchanged]

/-- Whatever the network does, the request goes to no blocked address. -/
def StaysPublic
    (env : ProviderEnv)
    (resolver : Resolver)
    (instant : Nat)
    (url : String) :
    Prop :=
  ∀ transport name method params address,
    (rpc env resolver instant transport name url method params).sentTo =
        some address →
      Public address

/-- The lookup of the request answers with public addresses only. -/
def AnswersPublic
    (tables : UnicodeTables)
    (resolver : Resolver)
    (instant : Nat)
    (url : String) :
    Prop :=
  ∀ answer,
    lookupHost tables resolver instant url = some (.ok answer) →
      ∀ address ∈ answer, Public address

/-- A network in which one address takes every connection. -/
def Transport.reaching (tables : UnicodeTables) (address : String) :
    Transport tables where
  target := urlTarget tables
  target_url found := found
  connect answer := if address ∈ answer then some address else none
  connect_mem := by
    intro answer reached connected
    split at connected
    · cases connected
      assumption
    · cases connected
  unsent _ := .httpError
  exchange _ _ := .error .timeout

/-- A URL whose host the guard checks as it stands. -/
def PlainHost (tables : UnicodeTables) (url host : String) : Prop :=
  ∃ parsed,
    urlparse tables url = some parsed ∧
      parsed.hostname tables = some host ∧
      guardHost tables parsed = host

/-- What the guard and the second lookup say of a request that was sent. -/
theorem rpc_sentTo_plain
    {host : String}
    (off : internalAllowlistEnabled env = false)
    (plain : PlainHost env.tables url host)
    (sent :
      (rpc env resolver instant transport name url method params).sentTo =
        some address) :
    ∃ parsed port answer,
      parsed.port = some port ∧
        getaddrinfo resolver (instant + 1) host (portOrDefault parsed port) =
          .ok answer ∧
        address ∈ answer ∧
        match ipAddress host with
        | some ip => ipBlocked ip = false
        | none => NameAdmitted (resolver instant) parsed host := by
  obtain ⟨parsed, parses, isHost, guarded⟩ := plain
  obtain ⟨⟨parsed', admitted, passed⟩, looked, place, answer, found, answers,
    connected⟩ := (rpc_sentTo_iff off).mp sent
  cases parses.symm.trans admitted.parses
  rw [guarded] at passed
  have ofUrl := transport.target_url found
  simp only [urlTarget, parses, isHost, bind, Option.bind_some,
    Option.bind_eq_some_iff, Option.some.injEq, Prod.mk.injEq] at ofUrl
  obtain ⟨port, hasPort, rfl, rfl⟩ := ofUrl
  exact ⟨parsed, port, answer, hasPort, answers,
    transport.connect_mem connected, passed⟩

/-- What an address resolves to is that address. -/
theorem getaddrinfo_address
    {host : String}
    {ip : Address}
    {port : Nat}
    {answer : List String}
    (literal : ipAddress host = some ip)
    (answers : getaddrinfo resolver instant host port = .ok answer) :
    answer = [host] := by
  simp only [getaddrinfo, literal] at answers
  cases looked : resolver instant host port with
  | error exception =>
      rw [looked] at answers
      cases answers
  | ok names =>
      rw [looked] at answers
      cases answers
      rfl

/-- A request to an address goes to that address, which is not blocked. -/
theorem address_request_stays_public
    {host : String}
    {ip : Address}
    (off : internalAllowlistEnabled env = false)
    (plain : PlainHost env.tables url host)
    (literal : ipAddress host = some ip) :
    StaysPublic env resolver instant url := by
  intro transport _ _ _ address sent
  obtain ⟨_, _, answer, _, answers, member, passed⟩ :=
    rpc_sentTo_plain off plain sent
  rw [literal] at passed
  rw [getaddrinfo_address literal answers, List.mem_singleton] at member
  intro read isRead
  rw [member, literal] at isRead
  cases isRead
  exact passed

/-- With a resolver whose second answer is part of its first all is well. -/
theorem steady_request_stays_public
    {host : String}
    (off : internalAllowlistEnabled env = false)
    (plain : PlainHost env.tables url host)
    (steady :
      ∀ port later,
        resolver (instant + 1) host port = .ok later →
          ∃ earlier, resolver instant host port = .ok earlier ∧
            later ⊆ earlier) :
    StaysPublic env resolver instant url := by
  cases literal : ipAddress host with
  | some ip => exact address_request_stays_public off plain literal
  | none =>
      intro transport _ _ _ address sent
      obtain ⟨_, _, answer, hasPort, answers, member, passed⟩ :=
        rpc_sentTo_plain off plain sent
      rw [literal] at passed
      obtain ⟨_, _, infos, hasPort', looked, _, allPublic⟩ := passed
      cases hasPort.symm.trans hasPort'
      simp only [getaddrinfo, literal] at answers
      obtain ⟨earlier, before, contained⟩ := steady _ _ answers
      cases looked.symm.trans before
      exact allPublic address (contained member)

/-- A request stays public when the guard stops it or its lookup does. -/
theorem requests_stay_public_iff
    (off : internalAllowlistEnabled env = false) :
    StaysPublic env resolver instant url ↔
      ¬ Admitted env.tables (resolver instant) url ∨
        AnswersPublic env.tables resolver (instant + 1) url := by
  unfold StaysPublic AnswersPublic
  simp only [rpc_sentTo_iff off]
  constructor
  · intro stays
    by_cases admitted : Admitted env.tables (resolver instant) url
    · refine .inr ?_
      intro answer found address member
      obtain ⟨⟨host, port⟩, ofUrl, looked⟩ := Option.map_eq_some_iff.mp found
      have connected :
          (Transport.reaching env.tables address).connect answer =
            some address :=
        if_pos member
      exact stays (.reaching env.tables address) "" "" .null address
        ⟨admitted, host, port, answer, ofUrl, looked, connected⟩
    · exact .inl admitted
  · rintro stopped transport _ _ _ address
      ⟨admitted, host, port, answer, found, looked, connected⟩
    have answers := stopped.resolve_left (not_not.mpr admitted)
    have ofUrl :
        lookupHost env.tables resolver (instant + 1) url =
          some (.ok answer) := by
      rw [lookupHost, transport.target_url found]
      exact congrArg some looked
    exact answers answer ofUrl address (transport.connect_mem connected)

end Request

/-- Tables for text that is plain ASCII. -/
def asciiTables : UnicodeTables where
  lower text := .ofList (text.toList.map Char.toLower)
  nfkc text := text

/-- An operator that allows one provider, and no internal addresses. -/
def ProviderEnv.single : ProviderEnv where
  tables := asciiTables
  json :=
    { loads := fun _ => .error .valueError
      dumps := fun _ => ""
      repr := fun _ => "" }
  internalAllowlist := ""
  providerUrls := "acme=https://mcp.acme.example/rpc"
  token _ := ""

/-- A name that turns to another address after the first lookups. -/
def rebinding (turns : Nat) (address : String) : Resolver :=
  fun instant _ _ =>
    .ok [if instant < turns then "93.184.216.34" else address]

/-- A name that turns to another public address is no danger. -/
theorem requests_stay_public_example :
    StaysPublic .single (rebinding 2 "1.1.1.1") 1
      "https://mcp.acme.example/rpc" := by
  refine (requests_stay_public_iff (by decide)).mpr (.inr ?_)
  have looked :
      lookupHost asciiTables (rebinding 2 "1.1.1.1") 2
          "https://mcp.acme.example/rpc" =
        some (.ok ["1.1.1.1"]) := by
    decide +kernel
  intro answer found address member
  cases looked.symm.trans found
  cases List.mem_singleton.mp member
  decide +kernel

/-- The guard sees a public address and the request goes elsewhere. -/
theorem rebound_request_leaves_public :
    getProvider .single (rebinding 2 "169.254.169.254") 0 "acme" =
        .ok (.http "acme" "https://mcp.acme.example/rpc") ∧
      ¬ StaysPublic .single (rebinding 2 "169.254.169.254") 1
        "https://mcp.acme.example/rpc" := by
  refine ⟨by decide +kernel, ?_⟩
  intro stays
  have reached : ¬ Public "169.254.169.254" := by decide +kernel
  have sent :
      (rpc .single (rebinding 2 "169.254.169.254") 1
        (.reaching asciiTables "169.254.169.254") "acme" "https://mcp.acme.example/rpc"
        "tools/call" .null).sentTo =
      some "169.254.169.254" := by
    decide +kernel
  exact reached (stays _ _ _ _ _ sent)

end Crossing
