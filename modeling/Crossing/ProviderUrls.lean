import Crossing.PythonText
import Crossing.UrlText

namespace Crossing

open IpAddress
open Python
open Urllib (UnicodeTables ParseResult urlparse)

/-!
# The URLs of providers

`providers.py`: the list of URLs that the operator allows, the guard
`assert_public_url`, and the request of `HttpJsonRpcProvider._rpc`.  The guard
looks a name up before the request is made, and the request looks the host of
its URL up again.  A resolver may answer each lookup as it likes.
-/

/-! ## Blocked addresses -/

/-- `_METADATA_HOSTS`. -/
def metadataHosts : List String :=
  ["metadata",
    "metadata.google.internal",
    "metadata.google.internal.",
    "169.254.169.254"]

/-- `_BLOCKED_NETWORKS`. -/
def blockedNetworks : List Network :=
  [.v4 (blockV4 [0, 0, 0, 0] 8),
    .v4 (blockV4 [10, 0, 0, 0] 8),
    .v4 (blockV4 [100, 64, 0, 0] 10),
    .v4 (blockV4 [127, 0, 0, 0] 8),
    .v4 (blockV4 [169, 254, 0, 0] 16),
    .v4 (blockV4 [172, 16, 0, 0] 12),
    .v4 (blockV4 [192, 0, 0, 0] 29),
    .v4 (blockV4 [192, 0, 2, 0] 24),
    .v4 (blockV4 [192, 168, 0, 0] 16),
    .v4 (blockV4 [198, 18, 0, 0] 15),
    .v4 (blockV4 [198, 51, 100, 0] 24),
    .v4 (blockV4 [203, 0, 113, 0] 24),
    .v4 (blockV4 [224, 0, 0, 0] 4),
    .v4 (blockV4 [240, 0, 0, 0] 4),
    .v6 (blockV6 [0, 0, 0, 0, 0, 0, 0, 1] 128),
    .v6 (blockV6 [] 128),
    .v6 (blockV6 [0xfc00] 7),
    .v6 (blockV6 [0xfe80] 10),
    .v6 (blockV6 [0xff00] 8)]

/-- `_ip_blocked`. -/
def ipBlocked (ip : Address) : Bool :=
  ip.isPrivate || ip.isLoopback || ip.isLinkLocal || ip.isMulticast ||
    ip.isReserved || ip.isUnspecified ||
    blockedNetworks.any fun net => net.contains ip

/-! ## What providers run on -/

/-- The environment variables, and what is taken from the libraries. -/
structure ProviderEnv where
  tables : UnicodeTables
  json : JsonLibrary
  internalAllowlist : String
  providerUrls : String
  token : String → String

/-- `internal_allowlist_enabled`. -/
def internalAllowlistEnabled (env : ProviderEnv) : Bool :=
  env.internalAllowlist = "1"

/-- The exceptions that leave the functions of `providers.py`. -/
inductive ProviderRaised where
  | config (message : String)
  | policyDenied (outcome : Denied)
  | provider (code message : String) (retryable : Bool)
  | python (exception : PythonError)
  deriving Repr, DecidableEq

/-- Raise `ProviderConfigError(message)` when a test holds. -/
def configErrorWhen
    (failed : Prop)
    [Decidable failed]
    (message : String) :
    Except ProviderRaised Unit :=
  if failed then .error (.config message) else .ok ()

/-- The guard goes on exactly when the test fails. -/
@[simp] theorem configErrorWhen_eq_ok
    {failed : Prop}
    [Decidable failed]
    {message : String}
    {passed : Unit} :
    configErrorWhen failed message = .ok passed ↔ ¬ failed := by
  unfold configErrorWhen
  split <;> simp_all

/-- A value that Python computes or raises `ValueError` for. -/
def orValueError {α : Type} : Option α → Except ProviderRaised α
  | some value => .ok value
  | none => .error (.python .valueError)

/-- The value was computed. -/
@[simp] theorem orValueError_eq_ok
    {α : Type}
    {computed : Option α}
    {value : α} :
    orValueError computed = .ok value ↔ computed = some value := by
  cases computed <;> simp [orValueError]

/-- What a lookup of a name raises. -/
inductive LookupError where
  | gaierror
  | python (exception : PythonError)
  deriving Repr, DecidableEq

/-- The addresses that a lookup answers, as text. -/
abbrev Lookup := Except LookupError (List String)

/-- `socket.getaddrinfo` for names: the answers at every instant. -/
abbrev Resolver := Nat → String → Nat → Lookup

/-- `socket.getaddrinfo`: an address stands for itself. -/
def getaddrinfo (resolver : Resolver) (instant : Nat) (host : String)
    (port : Nat) :
    Lookup :=
  match ipAddress host with
  | some _ => (fun _ => [host]) <$> resolver instant host port
  | none => resolver instant host port

/-! ## The allowlist -/

/-- One entry `name=url` of the list, added to those before. -/
def addEntry (urls : List (String × String)) (part : String) :
    Except ProviderRaised (List (String × String)) :=
  let part := strip part
  if part = "" then
    .ok urls
  else if '=' ∉ part.toList then
    .error (.config "CROSSING_PROVIDER_URLS entries must be name=url")
  else
    let (name, url) := partition '=' part
    let name := strip name
    let url := strip url
    if name = "" ∨ url = "" then
      .error (.config "CROSSING_PROVIDER_URLS entries must be name=url")
    else
      .ok ((name, url) :: urls)

/-- `parse_provider_urls`; the first entry of a name counts. -/
def parseProviderUrls (env : ProviderEnv) :
    Except ProviderRaised (List (String × String)) :=
  let text := strip env.providerUrls
  if text = "" then
    .ok []
  else if text.toList.head? = some '\x7b' then
    match env.json.loads text with
    | .error exception => .error (.python exception)
    | .ok (.object fields) =>
        .ok (fields.map fun (name, url) => (name, env.json.str url))
    | .ok _ =>
        .error (.config "CROSSING_PROVIDER_URLS JSON must be an object")
  else
    ((text.toList.splitOn ',').map String.ofList).foldlM addEntry []

/-! ## The guard -/

/-- The host that the guard checks: without a final dot, in lower case. -/
def guardHost (tables : UnicodeTables) (parsed : ParseResult) : String :=
  let host := strip ((parsed.hostname tables).getD "")
  tables.lower
    (.ofList ((host.toList.reverse.dropWhile (· = '.')).reverse))

/-- `parsed.port or (443 if parsed.scheme == "https" else 80)`. -/
def portOrDefault (parsed : ParseResult) (port : Option Nat) : Nat :=
  match port with
  | some (port + 1) => port + 1
  | _ => if parsed.scheme = "https" then 443 else 80

/-- The host names the metadata service of a cloud. -/
def isMetadata (host : String) : Prop :=
  host ∈ metadataHosts ∨
    ".metadata.google.internal".toList <:+ host.toList

instance (host : String) : Decidable (isMetadata host) :=
  inferInstanceAs (Decidable (_ ∨ _))

/-- The loop over the answer; text that is no address is passed over. -/
def checkResolved (allowInternal : Bool) :
    List String → Except ProviderRaised Unit
  | [] => .ok ()
  | addr :: infos =>
      match ipAddress addr with
      | none => checkResolved allowInternal infos
      | some resolved => do
          configErrorWhen (ipBlocked resolved = true ∧ allowInternal = false)
            "provider URL blocked (resolved private/link-local)"
          checkResolved allowInternal infos

/-- The checks on a host that is a name. -/
def checkName
    (lookup : String → Nat → Lookup)
    (allowInternal : Bool)
    (parsed : ParseResult)
    (host : String) :
    Except ProviderRaised Unit := do
  configErrorWhen (host = "localhost" ∧ allowInternal = false)
    "provider URL blocked (loopback)"
  let port ← orValueError parsed.port
  match lookup host (portOrDefault parsed port) with
  | .error .gaierror => .error (.config "provider URL host did not resolve")
  | .error (.python exception) => .error (.python exception)
  | .ok infos => do
      configErrorWhen (infos = []) "provider URL host did not resolve"
      checkResolved allowInternal infos

/-- `assert_public_url`. -/
def assertPublicUrl
    (env : ProviderEnv)
    (lookup : String → Nat → Lookup)
    (url : String)
    (allowInternal : Option Bool := none) :
    Except ProviderRaised Unit := do
  let parsed ← orValueError (urlparse env.tables url)
  configErrorWhen (parsed.scheme ∉ ["http", "https"])
    "provider URL must be http or https"
  configErrorWhen
    ((truthy parsed.username).isSome ∨ (truthy parsed.password).isSome)
    "provider URL must not contain credentials"
  let host := guardHost env.tables parsed
  configErrorWhen (host = "") "provider URL missing host"
  configErrorWhen (isMetadata host) "provider URL blocked (metadata)"
  let allowInternal := allowInternal.getD (internalAllowlistEnabled env)
  match ipAddress host with
  | some ip =>
      configErrorWhen (ipBlocked ip = true ∧ allowInternal = false)
        "provider URL blocked (private/link-local)"
  | none => checkName lookup allowInternal parsed host

/-! ## Requests -/

/-- `HttpJsonRpcProvider`, and the provider in the process. -/
inductive Provider where
  | mock
  | http (name url : String)
  deriving Repr, DecidableEq

/-- `(server or "mock").strip() or "mock"`. -/
def serverName (server : String) : String :=
  let name := strip (if server = "" then "mock" else server)
  if name = "" then "mock" else name

/-- `get_provider`. -/
def getProvider
    (env : ProviderEnv)
    (resolver : Resolver)
    (instant : Nat)
    (server : String) :
    Except ProviderRaised Provider :=
  let name := serverName server
  if name ∈ ["shell", "exec", "subprocess", "local_shell"] then
    .error
      (.policyDenied
        ⟨.serverNotAllowed, "shell transports are not configurable"⟩)
  else if name = "mock" then
    .ok .mock
  else do
    let urls ← parseProviderUrls env
    match urls.lookup name with
    | none =>
        .error
          (.policyDenied ⟨.serverNotAllowed, "server is not allowlisted"⟩)
    | some url => do
        assertPublicUrl env (resolver instant) url
        pure (.http name url)

/-- What `client.post` is called with. -/
structure Request where
  url : String
  headers : List (String × String)
  json : Json
  deriving Repr, DecidableEq

/-- The body of a response, as `resp.json()` reads it. -/
inductive ResponseBody where
  | json (value : Json)
  | notJson
  | undecodable (exception : PythonError)

/-- How `client.post` fails. -/
inductive PostError where
  | timeout
  | httpError
  | python (exception : PythonError)

/-- A response. -/
structure Response where
  statusCode : Nat
  body : ResponseBody

/-- The host and the port of a URL. -/
def urlTarget (tables : UnicodeTables) (url : String) :
    Option (String × Nat) := do
  let parsed ← urlparse tables url
  let host ← parsed.hostname tables
  let port ← parsed.port
  some (host, portOrDefault parsed port)

/--
The HTTP client and the network.  The client looks up the host of the URL, unless
it refuses the URL, and connects to one of the addresses of the answer.
-/
structure Transport (tables : UnicodeTables) where
  target : String → Option (String × Nat)
  target_url {url : String} {looked : String × Nat}
    (found : target url = some looked) :
    urlTarget tables url = some looked
  connect : List String → Option String
  connect_mem {answer : List String} {address : String}
    (connected : connect answer = some address) :
    address ∈ answer
  unsent : Request → PostError
  exchange : (address : String) → Request → Except PostError Response

/-- What `_rpc` has done: where its request went, and what it answers. -/
structure Rpc where
  sentTo : Option String
  outcome : Except ProviderRaised Json

/-- The exceptions of `client.post` in those of `_rpc`. -/
def PostError.raised : PostError → ProviderRaised
  | .timeout => .provider "TIMEOUT" "TIMEOUT" true
  | .httpError => .provider "HTTP" "HTTP" true
  | .python exception => .python exception

/-- The message of an error in a response. -/
def errorMessage (json : JsonLibrary) (error : Json) : String :=
  let message :=
    match error.get "message" with
    | some message => json.str message
    | none => "rpc error"
  .ofList (message.toList.take 120)

/-- What `_rpc` makes of a response. -/
def readResponse (json : JsonLibrary) (resp : Response) :
    Except ProviderRaised Json :=
  if resp.statusCode ≥ 500 then
    .error (.provider "HTTP" "HTTP" true)
  else if resp.statusCode ≥ 400 then
    .error (.provider "HTTP" "HTTP" false)
  else
    match resp.body with
    | .undecodable exception => .error (.python exception)
    | .notJson => .error (.provider "PROTOCOL" "PROTOCOL" false)
    | .json body =>
        match body.get "error", body.get "result" with
        | some error, some result =>
            if error.truthy then
              let message := errorMessage json error
              .error
                (.provider "JSONRPC"
                  (if message = "" then "JSONRPC" else message) false)
            else
              .ok result
        | _, _ => .error (.provider "PROTOCOL" "PROTOCOL" false)

/-- `_headers`. -/
def headers (env : ProviderEnv) (name : String) : List (String × String) :=
  let token := env.token name
  [("Content-Type", "application/json"), ("Accept", "application/json")] ++
    if token = "" then [] else [("Authorization", "Bearer " ++ token)]

/-- The payload of a request. -/
def rpcPayload (method : String) (params : Json) : Json :=
  .object
    [("jsonrpc", .string "2.0"), ("id", .int 1), ("method", .string method),
      ("params", params)]

/-- The lookup of the host of a URL. -/
def lookupHost
    (tables : UnicodeTables)
    (resolver : Resolver)
    (instant : Nat)
    (url : String) :
    Option Lookup :=
  (urlTarget tables url).map fun (host, port) =>
    getaddrinfo resolver instant host port

/-- `client.post`: look the host up, connect, and exchange. -/
def post
    (env : ProviderEnv)
    (resolver : Resolver)
    (instant : Nat)
    (transport : Transport env.tables)
    (request : Request) :
    Option String × Except PostError Response :=
  match transport.target request.url with
  | some (host, port) =>
      match getaddrinfo resolver instant host port with
      | .ok answer =>
          match transport.connect answer with
          | some address =>
              (some address, transport.exchange address request)
          | none => (none, .error (transport.unsent request))
      | .error _ => (none, .error (transport.unsent request))
  | none => (none, .error (transport.unsent request))

/-- `_rpc`: the guard at one instant, the request at the next. -/
def rpc
    (env : ProviderEnv)
    (resolver : Resolver)
    (instant : Nat)
    (transport : Transport env.tables)
    (name url method : String)
    (params : Json) :
    Rpc :=
  match assertPublicUrl env (resolver instant) url with
  | .error raised => ⟨none, .error raised⟩
  | .ok () =>
      let request : Request :=
        { url := url
          headers := headers env name
          json := rpcPayload method params }
      let (sentTo, posted) :=
        post env resolver (instant + 1) transport request
      match posted with
      | .error exception => ⟨sentTo, .error exception.raised⟩
      | .ok resp => ⟨sentTo, readResponse env.json resp⟩

end Crossing
