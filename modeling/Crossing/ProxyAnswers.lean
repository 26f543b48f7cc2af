import Crossing.Proxy

namespace Crossing

open Python

/-!
# What the proxy answers

A line is handled when it is a request whose parameters can be read and whose
call of `invoke`, if it makes one, raises nothing but `PolicyDenied`.  The loop
answers every line of its input exactly when every line is handled.
-/

section Answers

variable
  {Session : Type}
  {proxy : Proxy Session}
  {line : String}
  {lines : List String}
  {session : Session}

/-! ## What is asked of an answer -/

/-- A JSON-RPC response with an id: it has a result or an error. -/
def IsResponse (mid out : Json) : Prop :=
  (∃ result, out = resultResponse mid result) ∨
    ∃ error, out = errorResponse mid error

/-- Parameters of a request that can be read. -/
def readable (params : Json) : Bool :=
  match params with
  | .object _ => true
  | params => !params.truthy

/-- The method of a message and its parameters. -/
def requestOf (json : JsonLibrary) (line : String) : Option (Json × Json) :=
  match json.loads (strip line) with
  | .error _ => none
  | .ok message => do
      let method ← message.get "method"
      let params ← message.get "params"
      some (method, params)

/-- The line asks for the tools or calls one. -/
def AsksForTools (json : JsonLibrary) (line : String) : Prop :=
  ∃ method params,
    requestOf json line = some (method, params) ∧
      (method = .string "tools/list" ∨
        method = .string "tools/call" ∧ readable params = true)

/--
A response answers a line: it has the id of the request, when that has one, and
a line that does not ask for tools is always answered alike.
-/
structure Answers (proxy : Proxy Session) (line : String) (out : Json) :
    Prop where
  responds :
    ∃ mid, IsResponse mid out ∧
      ∀ message given,
        proxy.json.loads (strip line) = .ok message →
          message.field? "id" = some given →
          mid = given
  settled :
    ¬ AsksForTools proxy.json line →
      ∀ session,
        stdioLoop proxy [line] session =
          ([proxy.json.dumps out ++ "\n"], none)

/-- The loop reads to the end and writes one response for each line. -/
def AnswersEveryLine
    (proxy : Proxy Session)
    (lines : List String)
    (session : Session) :
    Prop :=
  ∃ outs : List Json,
    stdioLoop proxy lines session =
        (outs.map fun out => proxy.json.dumps out ++ "\n", none) ∧
      List.Forall₂ (Answers proxy)
        (lines.filter fun line => strip line ≠ "") outs

/-! ## When a line is handled -/

/-- The call of `invoke` that a line makes. -/
def callOf (proxy : Proxy Session) (line : String) : Option ToolCall :=
  match requestOf proxy.json line with
  | none => none
  | some (method, params) =>
      if method = .string "tools/call" then
        toolCall proxy.mandateId (orElse params (.object []))
      else
        none

/-- The session after a line that is handled. -/
def sessionAfter (proxy : Proxy Session) (line : String) (session : Session) :
    Session :=
  match callOf proxy line with
  | some call => (proxy.invoke call session).2
  | none => session

/-- The line is a request, and its parameters are read only when they can be. -/
def IsRequest (json : JsonLibrary) (line : String) : Prop :=
  ∃ method params,
    requestOf json line = some (method, params) ∧
      (method = .string "tools/call" → readable params = true)

/-- The line is a request, and `invoke` raises nothing but `PolicyDenied`. -/
def Handled (proxy : Proxy Session) (line : String) (session : Session) :
    Prop :=
  IsRequest proxy.json line ∧
    ∀ call exception,
      callOf proxy line = some call →
        (proxy.invoke call session).1 ≠ .raised exception

/-- Every line that is not blank is handled when its turn comes. -/
def EveryLineHandled (proxy : Proxy Session) : List String → Session → Prop
  | [], _ => True
  | line :: rest, session =>
      if strip line = "" then
        EveryLineHandled proxy rest session
      else
        Handled proxy line session ∧
          EveryLineHandled proxy rest (sessionAfter proxy line session)

/-! ## One line -/

/-- What the loop makes of a line that is not blank. -/
def answerTo (proxy : Proxy Session) (line : String) (session : Session) :
    Except PythonError Json × Session :=
  match proxy.json.loads (strip line) with
  | .error exception => (.error exception, session)
  | .ok message => handleJsonrpc proxy message session

/-- The loop, by what it makes of the first line. -/
theorem stdioLoop_cons (notBlank : strip line ≠ "") :
    stdioLoop proxy (line :: lines) session =
      match answerTo proxy line session with
      | (.error exception, _) => ([], some exception)
      | (.ok out, after) =>
          ((proxy.json.dumps out ++ "\n") ::
              (stdioLoop proxy lines after).1,
            (stdioLoop proxy lines after).2) := by
  rw [stdioLoop, answerTo]
  dsimp only
  rw [if_neg notBlank]
  cases proxy.json.loads (strip line) with
  | error exception => rfl
  | ok message =>
      cases handled : handleJsonrpc proxy message session with
      | mk outcome after => cases outcome <;> simp only [handled]

/-- Parameters can be read exactly when they give a call. -/
theorem toolCall_isSome_iff (mandateId : Id) {params : Json} :
    (toolCall mandateId (orElse params (.object []))).isSome = true ↔
      readable params = true := by
  unfold orElse
  cases given : params.truthy with
  | false =>
      have read : readable params = true := by
        cases params <;> simp [readable, given]
      simp [toolCall, Json.get, read]
  | true =>
      cases params with
      | object fields => simp [toolCall, readable, Json.get]
      | null | bool _ | int _ | float _ | string _ | array _ =>
          simp [toolCall, readable, Json.get, given]

/-- What a call is answered is a response. -/
theorem isResponse_call (json : JsonLibrary) (mid : Json)
    (result : ToolResult) :
    IsResponse mid (callResponse json mid result) := by
  unfold callResponse
  split
  · exact .inl ⟨_, rfl⟩
  · exact .inr ⟨_, rfl⟩

/-- A line that is a request is an object with the fields of one. -/
theorem requestOf_eq_some
    {json : JsonLibrary}
    {method params : Json}
    (isRequest : requestOf json line = some (method, params)) :
    ∃ fields mid,
      json.loads (strip line) = .ok (.object fields) ∧
        (Json.object fields).get "id" = some mid ∧
        (Json.object fields).get "method" = some method ∧
        (Json.object fields).get "params" = some params := by
  unfold requestOf at isRequest
  cases loaded : json.loads (strip line) with
  | error exception => simp [loaded] at isRequest
  | ok message =>
      cases message with
      | object fields =>
          simp only [loaded, Json.get, bind, Option.bind_some,
            Option.some.injEq, Prod.mk.injEq] at isRequest
          obtain ⟨rfl, rfl⟩ := isRequest
          exact ⟨fields, _, rfl, rfl, rfl, rfl⟩
      | null | bool _ | int _ | float _ | string _ | array _ =>
          simp [loaded, Json.get] at isRequest

/-- A line that is no request ends the loop. -/
theorem answerTo_of_no_request
    (session : Session)
    (noRequest : requestOf proxy.json line = none) :
    ∃ exception, answerTo proxy line session = (.error exception, session) := by
  unfold requestOf at noRequest
  unfold answerTo handleJsonrpc
  cases loaded : proxy.json.loads (strip line) with
  | error exception => exact ⟨exception, rfl⟩
  | ok message =>
      cases message with
      | object fields => simp [loaded, Json.get] at noRequest
      | null | bool _ | int _ | float _ | string _ | array _ =>
          exact ⟨_, rfl⟩

/-- What a request is answered, by its method. -/
theorem answerTo_of_request
    {method params : Json}
    (session : Session)
    (isRequest : requestOf proxy.json line = some (method, params)) :
    ∃ fields mid,
      proxy.json.loads (strip line) = .ok (.object fields) ∧
        (Json.object fields).get "id" = some mid ∧
        answerTo proxy line session =
          if method = .string "tools/list" then
            (.ok (toolsResponse mid), session)
          else if method ≠ .string "tools/call" then
            (.ok (unknownResponse proxy.json mid method), session)
          else
            handleCall proxy mid (orElse params (.object [])) session := by
  obtain ⟨fields, mid, loaded, hasId, hasMethod, hasParams⟩ :=
    requestOf_eq_some isRequest
  refine ⟨fields, mid, loaded, hasId, ?_⟩
  unfold answerTo handleJsonrpc
  rw [loaded]
  dsimp only
  rw [hasId, hasMethod, hasParams]

/-- A call is answered unless its parameters or `invoke` raise. -/
theorem handleCall_cases (proxy : Proxy Session) (mid params : Json)
    (session : Session) :
    (∃ call exception,
        toolCall proxy.mandateId params = some call ∧
          (proxy.invoke call session).1 = .raised exception ∧
          (handleCall proxy mid params session).1 = .error exception) ∨
      (toolCall proxy.mandateId params = none ∧
        handleCall proxy mid params session =
          (.error .attributeError, session)) ∨
      ∃ call result,
        toolCall proxy.mandateId params = some call ∧
          (∀ exception, (proxy.invoke call session).1 ≠ .raised exception) ∧
          handleCall proxy mid params session =
            (.ok (callResponse proxy.json mid result),
              (proxy.invoke call session).2) := by
  unfold handleCall
  cases asked : toolCall proxy.mandateId params with
  | none => exact .inr (.inl ⟨rfl, rfl⟩)
  | some call =>
      dsimp only
      cases invoked : proxy.invoke call session with
      | mk outcome after =>
          cases outcome with
          | returned result =>
              exact .inr (.inr ⟨call, result, rfl, by simp [invoked],
                by simp [invoked]⟩)
          | policyDenied reason detail =>
              exact .inr (.inr ⟨call, .denied reason detail, rfl,
                by simp [invoked], by simp [invoked]⟩)
          | raised exception =>
              exact .inl ⟨call, exception, rfl, by simp [invoked], rfl⟩

/-- A line that is not handled ends the loop. -/
theorem answerTo_of_not_handled (unhandled : ¬ Handled proxy line session) :
    ∃ exception, (answerTo proxy line session).1 = .error exception := by
  cases request : requestOf proxy.json line with
  | none =>
      obtain ⟨exception, ended⟩ :=
        answerTo_of_no_request session request
      exact ⟨exception, congrArg Prod.fst ended⟩
  | some parts =>
      obtain ⟨method, params⟩ := parts
      obtain ⟨_, mid, _, _, answered⟩ :=
        answerTo_of_request session request
      by_cases call : method = .string "tools/call"
      · subst call
        rw [answered, if_neg (by simp), if_neg (not_not.mpr rfl)]
        rcases handleCall_cases proxy mid (orElse params (.object [])) session
          with ⟨_, exception, _, _, ended⟩ | ⟨_, ended⟩ |
            ⟨call, _, asked, calm, _⟩
        · exact ⟨exception, ended⟩
        · exact ⟨_, congrArg Prod.fst ended⟩
        · have read : readable params = true :=
            (toolCall_isSome_iff proxy.mandateId).mp (by rw [asked]; rfl)
          refine absurd ⟨⟨_, _, request, fun _ => read⟩, ?_⟩ unhandled
          intro called exception isCall
          simp only [callOf, request, ↓reduceIte, asked, Option.some.injEq]
            at isCall
          cases isCall
          exact calm exception
      · refine absurd ⟨⟨_, _, request, fun same => absurd same call⟩, ?_⟩
          unhandled
        intro called exception isCall
        simp [callOf, request, call] at isCall

/-- A response with the id of the request answers it. -/
theorem Answers.of_response
    {fields : List (String × Json)}
    {mid out : Json}
    (loaded : proxy.json.loads (strip line) = .ok (.object fields))
    (hasId : (Json.object fields).get "id" = some mid)
    (isResponse : IsResponse mid out)
    (settled :
      ¬ AsksForTools proxy.json line →
        ∀ session, (answerTo proxy line session).1 = .ok out)
    (notBlank : strip line ≠ "") :
    Answers proxy line out where
  responds := by
    refine ⟨mid, isResponse, ?_⟩
    intro message given isMessage isGiven
    cases loaded.symm.trans isMessage
    simp only [Json.field?] at isGiven
    simp only [Json.get, isGiven, Option.getD_some, Option.some.injEq] at hasId
    exact hasId.symm
  settled := by
    intro noTools session
    have answered := settled noTools session
    rw [stdioLoop_cons notBlank]
    cases outcome : answerTo proxy line session with
    | mk result after =>
        rw [outcome] at answered
        cases answered
        rfl

/-- A line that calls no tool leaves the session alone. -/
theorem sessionAfter_of_no_call
    {method params : Json}
    (request : requestOf proxy.json line = some (method, params))
    (noCall : method ≠ .string "tools/call") :
    sessionAfter proxy line session = session := by
  simp [sessionAfter, callOf, request, noCall]

/-- A request for the list of tools is answered. -/
theorem answerTo_list
    {params : Json}
    (notBlank : strip line ≠ "")
    (request :
      requestOf proxy.json line = some (.string "tools/list", params)) :
    ∃ out,
      answerTo proxy line session =
          (.ok out, sessionAfter proxy line session) ∧
        Answers proxy line out := by
  obtain ⟨fields, mid, loaded, hasId, answered⟩ :=
    answerTo_of_request session request
  rw [if_pos rfl] at answered
  refine ⟨toolsResponse mid, ?_, ?_⟩
  · rw [answered, sessionAfter_of_no_call request (by simp)]
  · refine .of_response loaded hasId (.inl ⟨_, rfl⟩) ?_ notBlank
    intro noTools
    exact absurd ⟨_, _, request, .inl rfl⟩ noTools

/-- A request for an unknown method is answered, always alike. -/
theorem answerTo_unknown
    {method params : Json}
    (notBlank : strip line ≠ "")
    (request : requestOf proxy.json line = some (method, params))
    (notList : method ≠ .string "tools/list")
    (notCall : method ≠ .string "tools/call") :
    ∃ out,
      answerTo proxy line session =
          (.ok out, sessionAfter proxy line session) ∧
        Answers proxy line out := by
  have always (session : Session) :
      ∃ fields mid,
        proxy.json.loads (strip line) = .ok (.object fields) ∧
          (Json.object fields).get "id" = some mid ∧
          answerTo proxy line session =
            (.ok (unknownResponse proxy.json mid method), session) := by
    obtain ⟨fields, mid, loaded, hasId, answered⟩ :=
      answerTo_of_request session request
    rw [if_neg notList, if_pos notCall] at answered
    exact ⟨fields, mid, loaded, hasId, answered⟩
  obtain ⟨fields, mid, loaded, hasId, answered⟩ := always session
  refine ⟨unknownResponse proxy.json mid method, ?_, ?_⟩
  · rw [answered, sessionAfter_of_no_call request notCall]
  · refine .of_response loaded hasId (.inr ⟨_, rfl⟩) ?_ notBlank
    intro _ other
    obtain ⟨_, mid', loaded', hasId', answered'⟩ := always other
    cases loaded.symm.trans loaded'
    cases hasId.symm.trans hasId'
    rw [answered']

/-- A call is answered when `invoke` raises nothing but `PolicyDenied`. -/
theorem answerTo_call
    {params : Json}
    (notBlank : strip line ≠ "")
    (request :
      requestOf proxy.json line = some (.string "tools/call", params))
    (read : readable params = true)
    (calm :
      ∀ call exception,
        callOf proxy line = some call →
          (proxy.invoke call session).1 ≠ .raised exception) :
    ∃ out,
      answerTo proxy line session =
          (.ok out, sessionAfter proxy line session) ∧
        Answers proxy line out := by
  obtain ⟨fields, mid, loaded, hasId, answered⟩ :=
    answerTo_of_request session request
  rw [if_neg (by simp), if_neg (not_not.mpr rfl)] at answered
  have isCall :
      callOf proxy line =
        toolCall proxy.mandateId (orElse params (.object [])) := by
    simp [callOf, request]
  have isSome :=
    (toolCall_isSome_iff proxy.mandateId).mpr read
  rcases handleCall_cases proxy mid (orElse params (.object [])) session
    with ⟨call, exception, asked, raised, _⟩ | ⟨none, _⟩ |
      ⟨call, result, asked, _, handled⟩
  · exact absurd raised (calm call exception (isCall.trans asked))
  · rw [none] at isSome
    cases isSome
  · refine ⟨callResponse proxy.json mid result, ?_, ?_⟩
    · rw [answered, handled, sessionAfter, isCall, asked]
    · refine .of_response loaded hasId (isResponse_call _ _ _) ?_ notBlank
      intro noTools
      exact absurd ⟨_, _, request, .inr ⟨rfl, read⟩⟩ noTools

/-- A line that is handled is answered. -/
theorem answerTo_of_handled
    (notBlank : strip line ≠ "")
    (handled : Handled proxy line session) :
    ∃ out,
      answerTo proxy line session =
          (.ok out, sessionAfter proxy line session) ∧
        Answers proxy line out := by
  obtain ⟨⟨method, params, request, read⟩, calm⟩ := handled
  by_cases call : method = .string "tools/call"
  · subst call
    exact answerTo_call notBlank request (read rfl) calm
  · by_cases list : method = .string "tools/list"
    · subst list
      exact answerTo_list notBlank request
    · exact answerTo_unknown notBlank request list call

/-! ## All lines -/

/-- A line that is handled is answered before the others. -/
theorem answersEveryLine_cons
    (notBlank : strip line ≠ "")
    (handled : Handled proxy line session) :
    AnswersEveryLine proxy (line :: lines) session ↔
      AnswersEveryLine proxy lines (sessionAfter proxy line session) := by
  obtain ⟨out, answered, answers⟩ := answerTo_of_handled notBlank handled
  have kept :
      (line :: lines).filter (fun line => strip line ≠ "") =
        line :: lines.filter fun line => strip line ≠ "" :=
    List.filter_cons_of_pos (decide_eq_true notBlank)
  unfold AnswersEveryLine
  rw [stdioLoop_cons notBlank, answered, kept]
  dsimp only
  constructor
  · rintro ⟨outs, ran, all⟩
    cases all with
    | cons _ rest =>
        rw [List.map_cons, Prod.mk.injEq, List.cons.injEq] at ran
        exact ⟨_, Prod.ext ran.1.2 ran.2, rest⟩
  · rintro ⟨outs, ran, all⟩
    refine ⟨out :: outs, ?_, .cons answers all⟩
    rw [ran]
    rfl

/-- A blank line is passed over. -/
theorem answersEveryLine_blank (blank : strip line = "") :
    AnswersEveryLine proxy (line :: lines) session ↔
      AnswersEveryLine proxy lines session := by
  have goesOn :
      stdioLoop proxy (line :: lines) session =
        stdioLoop proxy lines session := by
    rw [stdioLoop]
    simp only [blank, ↓reduceIte]
  unfold AnswersEveryLine
  rw [goesOn, List.filter_cons_of_neg (by simp [blank])]

/-- When every line is handled the loop answers every line. -/
theorem EveryLineHandled.answered
    (handled : EveryLineHandled proxy lines session) :
    AnswersEveryLine proxy lines session := by
  induction lines generalizing session with
  | nil => exact ⟨[], rfl, .nil⟩
  | cons line rest inductionHypothesis =>
      rw [EveryLineHandled] at handled
      by_cases blank : strip line = ""
      · rw [if_pos blank] at handled
        exact (answersEveryLine_blank blank).mpr (inductionHypothesis handled)
      · rw [if_neg blank] at handled
        exact (answersEveryLine_cons blank handled.1).mpr
          (inductionHypothesis handled.2)

/-- When the loop answers every line, every line is handled. -/
theorem AnswersEveryLine.handled
    (answers : AnswersEveryLine proxy lines session) :
    EveryLineHandled proxy lines session := by
  induction lines generalizing session with
  | nil => trivial
  | cons line rest inductionHypothesis =>
      rw [EveryLineHandled]
      by_cases blank : strip line = ""
      · rw [if_pos blank]
        exact inductionHypothesis ((answersEveryLine_blank blank).mp answers)
      · rw [if_neg blank]
        by_cases handled : Handled proxy line session
        · exact ⟨handled, inductionHypothesis
            ((answersEveryLine_cons blank handled).mp answers)⟩
        · obtain ⟨exception, ended⟩ := answerTo_of_not_handled handled
          obtain ⟨outs, ran, _⟩ := answers
          rw [stdioLoop_cons blank] at ran
          cases outcome : answerTo proxy line session with
          | mk result after =>
              rw [outcome] at ended ran
              cases ended
              exact absurd (congrArg Prod.snd ran) (Option.some_ne_none _)

/-- The loop answers every line exactly when every line is handled. -/
theorem every_line_answered_iff (proxy : Proxy Session) (lines : List String)
    (session : Session) :
    AnswersEveryLine proxy lines session ↔
      EveryLineHandled proxy lines session :=
  ⟨AnswersEveryLine.handled, EveryLineHandled.answered⟩

end Answers

/-- A request for the list of tools. -/
def listLine : String :=
  "\x7b\"id\": 7, \"method\": \"tools/list\"\x7d"

/-- A call whose parameters are a list. -/
def callLine : String :=
  "\x7b\"id\": 8, \"method\": \"tools/call\", \"params\": [1]\x7d"

/-- What these lines and a list decode to; other text is not JSON. -/
def fewLines : JsonLibrary where
  loads text :=
    if text = listLine then
      .ok (.object [("id", .int 7), ("method", .string "tools/list")])
    else if text = callLine then
      .ok
        (.object
          [("id", .int 8), ("method", .string "tools/call"),
            ("params", .array [.int 1])])
    else if text = "[1]" then
      .ok (.array [.int 1])
    else
      .error .valueError
  dumps _ := "\x7b\x7d"
  repr _ := ""

/-- A proxy whose mandate is missing. -/
def denyingProxy : Proxy Unit where
  mandateId := 1
  json := fewLines
  invoke _ session :=
    (.policyDenied "MANDATE_REVOKED" "mandate missing", session)

/-- Each kind of bad line keeps the loop from the line after it. -/
theorem bad_line_ends_the_loop :
    stdioLoop denyingProxy ["not json", listLine] () =
        ([], some .valueError) ∧
      stdioLoop denyingProxy ["[1]", listLine] () =
        ([], some .attributeError) ∧
      stdioLoop denyingProxy [callLine, listLine] () =
        ([], some .attributeError) ∧
      ¬ AnswersEveryLine denyingProxy ["not json", listLine] () := by
  have ended :
      stdioLoop denyingProxy ["not json", listLine] () =
        ([], some .valueError) := by
    decide +kernel
  refine ⟨ended, by decide +kernel, by decide +kernel, ?_⟩
  rintro ⟨outs, ran, _⟩
  rw [ended] at ran
  exact absurd (congrArg Prod.snd ran) (Option.some_ne_none _)

end Crossing
