import Crossing.PythonText

namespace Crossing

open Python

/-!
# The proxy on standard input and output

`handle_jsonrpc` and `stdio_loop` of `proxy.py`.  A line may fail to decode,
decode to a value that is no request, or lead to a call of `invoke` that raises
something else than `PolicyDenied`.  None of this is caught, so it ends the
loop.  `invoke` works on a session and may do to it what it likes.
-/

/-- `list(TOOLS.values())` of `mock_mcp.py`. -/
def listTools : List Json :=
  let tool (name description property : String) : Json :=
    .object
      [("name", .string name),
        ("description", .string description),
        ("inputSchema",
          .object
            [("type", .string "object"),
              ("properties",
                .object
                  [(property, .object [("type", .string "string")])])])]
  [tool "search" "Paid search. $0.05 per call." "q",
    tool "purchase" "Expensive purchase. $5.00 per call." "sku",
    tool "expensive" "Alias of purchase. $5.00 per call." "sku"]

/-- The keyword arguments that the proxy calls `invoke` with. -/
structure ToolCall where
  mandateId : Id
  tool : Json
  arguments : Json
  idempotencyKey : Json
  nonce : Json
  deriving Repr, DecidableEq

/-- An `InvokeResult` as the proxy reads it. -/
structure ToolResult where
  ok : Bool
  reason : Option String
  toDict : Json
  deriving Repr, DecidableEq

/-- How a call of `invoke` comes back. -/
inductive Invoked where
  | returned (result : ToolResult)
  | policyDenied (reason detail : String)
  | raised (exception : PythonError)
  deriving Repr, DecidableEq

/-- `InvokeResult(ok=False, reason=exc.reason, detail=str(exc.detail))`. -/
def ToolResult.denied (reason detail : String) : ToolResult where
  ok := false
  reason := some reason
  toDict :=
    .object
      [("ok", .bool false),
        ("reason", .string reason),
        ("detail", .string detail),
        ("amount_cents", .int 0),
        ("remaining_cents", .null),
        ("receipt", .null),
        ("result", .null),
        ("reservation_id", .null),
        ("idempotency_key", .null),
        ("replayed", .bool false),
        ("task_id", .null)]

/-- What a proxy runs on: its mandate, the codec, and `invoke`. -/
structure Proxy (Session : Type) where
  mandateId : Id
  json : JsonLibrary
  invoke : ToolCall → Session → Invoked × Session

/-- `left or right`. -/
def orElse (left right : Json) : Json :=
  if left.truthy then left else right

/-- The call that parameters ask for; `none` stands for `AttributeError`. -/
def toolCall (mandateId : Id) (params : Json) : Option ToolCall := do
  let name ← params.get "name"
  let arguments ← params.get "arguments"
  let key ← params.get "idempotency_key"
  let otherKey ← params.get "idempotencyKey"
  let nonce ← params.get "nonce"
  some
    { mandateId := mandateId
      tool := name
      arguments := orElse arguments (.object [])
      idempotencyKey := orElse key otherKey
      nonce := nonce }

/-- A response that carries a result. -/
def resultResponse (mid result : Json) : Json :=
  .object [("jsonrpc", .string "2.0"), ("id", mid), ("result", result)]

/-- A response that carries an error. -/
def errorResponse (mid : Json) (error : List (String × Json)) : Json :=
  .object
    [("jsonrpc", .string "2.0"), ("id", mid), ("error", .object error)]

/-- The response to `tools/list`. -/
def toolsResponse (mid : Json) : Json :=
  resultResponse mid (.object [("tools", .array listTools)])

/-- The response to a method that is not known. -/
def unknownResponse (json : JsonLibrary) (mid method : Json) : Json :=
  errorResponse mid
    [("code", .int (-32601)),
      ("message", .string ("unknown method " ++ json.str method))]

/-- The response to `tools/call`. -/
def callResponse (json : JsonLibrary) (mid : Json) (result : ToolResult) :
    Json :=
  if result.ok then
    resultResponse mid
      (.object
        [("content",
          .array
            [.object
              [("type", .string "text"),
                ("text", .string (json.dumps result.toDict))]])])
  else
    errorResponse mid
      [("code", .int (-32000)),
        ("message", .string ((truthy result.reason).getD "denied")),
        ("data", result.toDict)]

section Proxy

variable {Session : Type}

/-- `handle_jsonrpc` for `tools/call`. -/
def handleCall
    (proxy : Proxy Session)
    (mid params : Json)
    (session : Session) :
    Except PythonError Json × Session :=
  match toolCall proxy.mandateId params with
  | none => (.error .attributeError, session)
  | some call =>
      match proxy.invoke call session with
      | (.returned result, session) =>
          (.ok (callResponse proxy.json mid result), session)
      | (.policyDenied reason detail, session) =>
          (.ok (callResponse proxy.json mid (.denied reason detail)), session)
      | (.raised exception, session) => (.error exception, session)

/-- `handle_jsonrpc`. -/
def handleJsonrpc
    (proxy : Proxy Session)
    (message : Json)
    (session : Session) :
    Except PythonError Json × Session :=
  match message.get "id", message.get "method", message.get "params" with
  | some mid, some method, some params =>
      let params := orElse params (.object [])
      if method = .string "tools/list" then
        (.ok (toolsResponse mid), session)
      else if method ≠ .string "tools/call" then
        (.ok (unknownResponse proxy.json mid method), session)
      else
        handleCall proxy mid params session
  | _, _, _ => (.error .attributeError, session)

/--
`stdio_loop`: what is written to standard output, and the exception that ends
the loop before the input ends.
-/
def stdioLoop (proxy : Proxy Session) :
    List String → Session → List String × Option PythonError
  | [], _ => ([], none)
  | line :: rest, session =>
      let line := strip line
      if line = "" then
        stdioLoop proxy rest session
      else
        match proxy.json.loads line with
        | .error exception => ([], some exception)
        | .ok msg =>
            match handleJsonrpc proxy msg session with
            | (.error exception, _) => ([], some exception)
            | (.ok out, session) =>
                let (outs, ended) := stdioLoop proxy rest session
                ((proxy.json.dumps out ++ "\n") :: outs, ended)

end Proxy

end Crossing
