import Crossing.JsonLines
import Crossing.ProxyInvoke
import Crossing.StoredResults

namespace Crossing

open Python
open Relational.Transaction

/-!
# The proxy between two streams

A client writes one request on each line, `stdio_loop` reads and answers them,
and the client reads the answers.  Over the text of JSON it gets what the proxy
makes of the values: the same answers in the same order, each with the id of
its request and the whole result, up to the request that ends the loop.
-/

/-! ## Answers as values -/

/-- An answer as a client understands it. -/
inductive ToolAnswer where
  | tools (id : Json) (items : List Json)
  | unknown (id : Json) (message : String)
  | done (id result : Json)
  | refused (id : Json) (message : String) (result : Json)
  deriving Repr, DecidableEq

namespace ToolAnswer

/-- The answer that a result gives. -/
def ofResult (mid : Json) (result : ToolResult) : ToolAnswer :=
  if result.ok then
    .done mid result.toDict
  else
    .refused mid ((truthy result.reason).getD "denied") result.toDict

/-- The response that stands for an answer. -/
def response (json : JsonLibrary) : ToolAnswer → Json
  | .tools mid items => resultResponse mid (.object [("tools", .array items)])
  | .unknown mid message =>
      errorResponse mid
        [("code", .int (-32601)), ("message", .string message)]
  | .done mid result =>
      resultResponse mid
        (.object
          [("content",
            .array
              [.object
                [("type", .string "text"),
                  ("text", .string (json.dumps result))]])])
  | .refused mid message result =>
      errorResponse mid
        [("code", .int (-32000)),
          ("message", .string message),
          ("data", result)]

/-- The text of a JSON string. -/
def textOf : Json → Option String
  | .string text => some text
  | _ => none

/-- A client reads the result of a response, or its error. -/
def ofResponse (json : JsonLibrary) (response : Json) : Option ToolAnswer := do
  let mid ← response.field? "id"
  match response.field? "error" with
  | some error =>
      let message ← (error.field? "message").bind textOf
      some
        (match error.field? "data" with
        | some data => .refused mid message data
        | none => .unknown mid message)
  | none =>
      let result ← response.field? "result"
      match result.field? "tools", result.field? "content" with
      | some (.array items), _ => some (.tools mid items)
      | none, some (.array [item]) =>
          let text ← (item.field? "text").bind textOf
          let value ← (json.loads text).toOption
          some (.done mid value)
      | _, _ => none

/-- The values in an answer have texts. -/
def Fine (floats : FloatText) : ToolAnswer → Prop
  | .tools mid items =>
      Json.Fine floats mid ∧ ∀ tool ∈ items, Json.Fine floats tool
  | .unknown mid _ => Json.Fine floats mid
  | .done mid result | .refused mid _ result =>
      Json.Fine floats mid ∧ Json.Fine floats result

end ToolAnswer

/-- The call of `invoke` that a message asks for. -/
def callFor (mandateId : Id) (message : Json) : Option ToolCall := do
  let method ← message.get "method"
  let params ← message.get "params"
  if method = .string "tools/call" then
    toolCall mandateId (orElse params (.object []))
  else
    none

section Stream

variable {Session : Type}

/-- What a proxy makes of a message, on values. -/
def answerMessage (proxy : Proxy Session) (message : Json) (session : Session) :
    Except PythonError ToolAnswer × Session :=
  match message.get "id", message.get "method" with
  | some mid, some method =>
      if method = .string "tools/list" then
        (.ok (.tools mid listTools), session)
      else if method ≠ .string "tools/call" then
        (.ok (.unknown mid ("unknown method " ++ proxy.json.str method)),
          session)
      else
        match callFor proxy.mandateId message with
        | none => (.error .attributeError, session)
        | some call =>
            match proxy.invoke call session with
            | (.returned result, after) =>
                (.ok (.ofResult mid result), after)
            | (.policyDenied reason detail, after) =>
                (.ok (.ofResult mid (.denied reason detail)), after)
            | (.raised exception, after) => (.error exception, after)
  | _, _ => (.error .attributeError, session)

/-- What a proxy makes of messages, up to the one that ends it. -/
def answerMessages (proxy : Proxy Session) :
    List Json → Session → List ToolAnswer × Option PythonError
  | [], _ => ([], none)
  | message :: rest, session =>
      match answerMessage proxy message session with
      | (.error exception, _) => ([], some exception)
      | (.ok answer, after) =>
          (answer :: (answerMessages proxy rest after).1,
            (answerMessages proxy rest after).2)

/-- What a client reads in the answers to its requests. -/
def converse
    (codec : Codec)
    (space : List Char)
    (proxy : Proxy Session)
    (messages : List Json)
    (session : Session) :
    List (Option ToolAnswer) × Option PythonError :=
  let input := writeLines (messages.map (Json.write codec.floats space))
  let (output, ended) :=
    stdioLoop proxy ((readLines input).map String.ofList) session
  let lines := (readLines (output.flatMap String.toList)).map String.ofList
  (lines.map fun line =>
      (proxy.json.loads (strip line)).toOption.bind
        (ToolAnswer.ofResponse proxy.json),
    ended)

/-- Every result that a proxy gets has a text when its turn comes. -/
def ResultsFit (floats : FloatText) (proxy : Proxy Session) :
    List Json → Session → Prop
  | [], _ => True
  | message :: rest, session =>
      (∀ call ∈ callFor proxy.mandateId message,
          ∀ result,
            (proxy.invoke call session).1 = .returned result →
              Json.Fine floats result.toDict) ∧
        ResultsFit floats proxy rest (answerMessage proxy message session).2

/--
`json` with the codec of the deployment.  Text that has no value raises
`ValueError`; values without a text are not written here.
-/
def Codec.library (codec : Codec) (repr : Json → String) : JsonLibrary where
  loads text :=
    match Json.loads codec.floats text.toList with
    | .ok value => .ok value
    | .error _ => .error .valueError
  dumps value := .ofList (value.write codec.floats [' '])
  repr := repr

end Stream

/-! ## One line -/

/-- A printable character that is no blank is no white space. -/
theorem printable_noSpace
    {char : Char}
    (shown : Json.printable char = true)
    (mark : char ≠ ' ') :
    isSpace char = false := by
  simp only [Json.printable, Bool.and_eq_true, decide_eq_true_eq] at shown
  have low : 32 ≤ char.toNat := shown.1
  have high : char.toNat ≤ 126 := shown.2
  have notBlank : char.toNat ≠ 32 := fun same => mark (Char.toNat_inj.mp same)
  simp only [isSpace, List.mem_cons, List.not_mem_nil, or_false,
    decide_eq_false_iff_not]
  omega

/-- A line without white space at its ends is stripped of its line feed. -/
theorem strip_line
    {head last : Char}
    {text before after : List Char}
    (opens : text = head :: after)
    (closes : text = before ++ [last])
    (headMark : isSpace head = false)
    (lastMark : isSpace last = false) :
    strip (.ofList (text ++ ['\n'])) = .ofList text := by
  have front : (text ++ ['\n']).dropWhile isSpace = text ++ ['\n'] := by
    rw [opens, List.cons_append,
      List.dropWhile_cons_of_neg (by simp [headMark])]
  have back : text.reverse.dropWhile isSpace = text.reverse := by
    rw [closes, List.reverse_append, List.reverse_singleton,
      List.singleton_append, List.dropWhile_cons_of_neg (by simp [lastMark])]
  have feed : isSpace '\n' = true := by decide
  unfold strip
  rw [String.toList_ofList, front, List.reverse_append,
    List.reverse_singleton, List.singleton_append,
    List.dropWhile_cons_of_pos feed, back, List.reverse_reverse]

/-- The text of a value breaks no line. -/
theorem write_unbroken
    {floats : FloatText}
    {space : List Char}
    {value : Json}
    (blank : ∀ char ∈ space, char = ' ')
    (fine : Json.Fine floats value) :
    ∀ char ∈ value.write floats space, char ≠ '\n' ∧ char ≠ '\r' := by
  have plain : ∀ char ∈ space, Json.printable char = true :=
    fun char member => blank char member ▸ rfl
  exact fun char member =>
    Json.printable_unbroken
      (Json.write_printable plain value fine.1 fine.2 char member)

/-- The line of a value is stripped to the text of the value. -/
theorem strip_written
    {floats : FloatText}
    {space : List Char}
    {value : Json}
    (blank : ∀ char ∈ space, char = ' ')
    (fine : Json.Fine floats value) :
    strip (.ofList (value.write floats space ++ ['\n'])) =
      .ofList (value.write floats space) := by
  have plain : ∀ char ∈ space, Json.printable char = true :=
    fun char member => blank char member ▸ rfl
  have shown := Json.write_printable plain value fine.1 fine.2
  obtain ⟨head, after, opens, isOpen⟩ :=
    Json.write_opens floats space fine.1 fine.2
  obtain ⟨before, last, closes, isClose⟩ :=
    @Json.write_closes floats space value fine.1 fine.2
  have notBlank : head ≠ ' ' := by
    rintro rfl
    exact absurd isOpen.1 (by decide)
  refine strip_line opens closes ?_ ?_
  · exact printable_noSpace (shown head (by simp [opens])) notBlank
  · exact printable_noSpace (shown last (by simp [closes])) isClose

/-- The text of a value is not blank. -/
theorem written_nonempty
    {floats : FloatText}
    {space : List Char}
    {value : Json}
    (fine : Json.Fine floats value) :
    String.ofList (value.write floats space) ≠ "" := by
  obtain ⟨head, after, opens, _⟩ :=
    Json.write_opens floats space fine.1 fine.2
  intro empty
  have noText := congrArg String.toList empty
  rw [String.toList_ofList, opens] at noText
  cases noText

/-- The library loads what was written. -/
theorem library_loads
    {codec : Codec}
    {repr : Json → String}
    {space : List Char}
    {value : Json}
    (blank : ∀ char ∈ space, char = ' ')
    (fine : Json.Fine codec.floats value) :
    (codec.library repr).loads
        (.ofList (value.write codec.floats space)) =
      .ok value := by
  have white : ∀ char ∈ space, Json.isWhite char = true :=
    fun char member => blank char member ▸ rfl
  unfold Codec.library
  simp only [String.toList_ofList, Json.loads_write white fine.1 fine.2]

section Stream

variable {Session : Type}

/-! ## Messages and responses -/

variable
  {codec : Codec}
  {repr : Json → String}
  {proxy : Proxy Session}
  {message : Json}
  {messages : List Json}
  {session : Session}

/-- The proxy responds as it answers on values. -/
theorem handleJsonrpc_eq (message : Json) (session : Session) :
    handleJsonrpc proxy message session =
      ((answerMessage proxy message session).1.map
          (ToolAnswer.response proxy.json),
        (answerMessage proxy message session).2) := by
  have answered (mid : Json) (result : ToolResult) :
      callResponse proxy.json mid result =
        (ToolAnswer.ofResult mid result).response proxy.json := by
    unfold callResponse ToolAnswer.ofResult
    split <;> rfl
  unfold handleJsonrpc answerMessage callFor
  cases message with
  | object fields =>
      simp only [Json.get]
      split
      · rfl
      · split
        · rfl
        case isFalse notList isCall =>
          simp only [bind, Option.bind_some, if_pos (not_not.mp isCall)]
          unfold handleCall
          cases toolCall proxy.mandateId
              (orElse ((fields.lookup "params").getD .null) (.object [])) with
          | none => rfl
          | some call =>
              dsimp only
              cases proxy.invoke call session with
              | mk invoked after =>
                  cases invoked with
                  | returned result =>
                      simp only [answered, Except.map]
                  | policyDenied reason detail =>
                      simp only [answered, Except.map]
                  | raised exception => rfl
  | null | bool _ | int _ | float _ | string _ | array _ => rfl

/-! ## The loop -/

/-- The line of a value, as a program reads it. -/
def lineOf (floats : FloatText) (space : List Char) (value : Json) : String :=
  .ofList (value.write floats space ++ ['\n'])

/-- On lines of messages the loop answers the messages. -/
theorem stdioLoop_messages
    {space : List Char}
    (blank : ∀ char ∈ space, char = ' ')
    (library : proxy.json = codec.library repr)
    (fine : ∀ message ∈ messages, Json.Fine codec.floats message) :
    stdioLoop proxy (messages.map (lineOf codec.floats space)) session =
      ((answerMessages proxy messages session).1.map fun answer =>
          lineOf codec.floats [' '] (answer.response proxy.json),
        (answerMessages proxy messages session).2) := by
  induction messages generalizing session with
  | nil => rfl
  | cons message rest inductionHypothesis =>
      obtain ⟨first, others⟩ := List.forall_mem_cons.mp fine
      have stripped :
          strip (lineOf codec.floats space message) =
            .ofList (message.write codec.floats space) :=
        strip_written blank first
      have notBlank : strip (lineOf codec.floats space message) ≠ "" := by
        rw [stripped]
        exact written_nonempty first
      have loaded :
          proxy.json.loads (strip (lineOf codec.floats space message)) =
            .ok message := by
        rw [stripped, library]
        exact library_loads blank first
      have written (response : Json) :
          proxy.json.dumps response ++ "\n" =
            lineOf codec.floats [' '] response := by
        rw [library]
        exact (@String.ofList_append _ ['\n']).symm
      rw [List.map_cons, stdioLoop_cons notBlank, answerTo, loaded]
      simp only [handleJsonrpc_eq, answerMessages]
      cases answered : answerMessage proxy message session with
      | mk outcome after =>
          cases outcome with
          | error exception => rfl
          | ok answer =>
              simp only [Except.map, written, List.map_cons,
                inductionHypothesis others]

/-! ## What the client reads -/

/-- The fields of a message are fine. -/
theorem get_fine
    {floats : FloatText}
    {value field : Json}
    {key : String}
    (fine : Json.Fine floats value)
    (found : value.get key = some field) :
    Json.Fine floats field := by
  cases value with
  | object fields =>
      cases found
      cases looked : fields.lookup key with
      | none => exact ⟨trivial, rfl⟩
      | some field =>
          have member := (Json.lookup_iff_mem fine.1.1).mp looked
          exact ⟨Json.properFields_iff.mp fine.1.2 _ member,
            Json.intsFitFields_iff.mp fine.2 _ member⟩
  | null | bool _ | int _ | float _ | string _ | array _ => cases found

/-- The list of tools has a text. -/
theorem listTools_fine (floats : FloatText) :
    ∀ tool ∈ listTools, Json.Fine floats tool := by
  have schema (property : String) :
      Json.Fine floats
        (.object
          [("type", .string "object"),
            ("properties",
              .object
                [(property, .object [("type", .string "string")])])]) :=
    ⟨by simp [Json.Proper, Json.ProperFields], rfl⟩
  have tool (name description property : String) :
      Json.Fine floats
        (.object
          [("name", .string name),
            ("description", .string description),
            ("inputSchema",
              .object
                [("type", .string "object"),
                  ("properties",
                    .object
                      [(property,
                        .object [("type", .string "string")])])])]) := by
    refine Json.fine_object (by simp) ?_
    simp only [List.forall_mem_cons]
    exact ⟨⟨trivial, rfl⟩, ⟨trivial, rfl⟩, schema property,
      List.forall_mem_nil _⟩
  simp only [listTools, List.forall_mem_cons]
  exact ⟨tool _ _ _, tool _ _ _, tool _ _ _, List.forall_mem_nil _⟩

/-- A response to an answer that is fine has a text. -/
theorem response_fine
    {answer : ToolAnswer}
    (fine : answer.Fine codec.floats) :
    Json.Fine codec.floats (answer.response (codec.library repr)) := by
  have string (text : String) : Json.Fine codec.floats (.string text) :=
    ⟨trivial, rfl⟩
  have result {mid value : Json} (midFine : Json.Fine codec.floats mid)
      (valueFine : Json.Fine codec.floats value) :
      Json.Fine codec.floats (resultResponse mid value) := by
    refine Json.fine_object (by simp) ?_
    simp only [List.forall_mem_cons]
    exact ⟨string _, midFine, valueFine, List.forall_mem_nil _⟩
  have error {mid : Json} {fields : List (String × Json)}
      (midFine : Json.Fine codec.floats mid)
      (errorFine : Json.Fine codec.floats (.object fields)) :
      Json.Fine codec.floats (errorResponse mid fields) := by
    refine Json.fine_object (by simp) ?_
    simp only [List.forall_mem_cons]
    exact ⟨string _, midFine, errorFine, List.forall_mem_nil _⟩
  cases answer with
  | tools mid items =>
      refine result fine.1 (Json.fine_object (by simp) ?_)
      exact List.forall_mem_singleton.mpr (Json.fine_array fine.2)
  | unknown mid message =>
      refine error fine (Json.fine_object (by simp) ?_)
      simp only [List.forall_mem_cons]
      exact ⟨⟨trivial, rfl⟩, string _, List.forall_mem_nil _⟩
  | done mid value =>
      refine result fine.1 (Json.fine_object (by simp) ?_)
      refine List.forall_mem_singleton.mpr
        (Json.fine_array (List.forall_mem_singleton.mpr ?_))
      refine Json.fine_object (by simp) ?_
      simp only [List.forall_mem_cons]
      exact ⟨string _, string _, List.forall_mem_nil _⟩
  | refused mid message value =>
      refine error fine.1 (Json.fine_object (by simp) ?_)
      simp only [List.forall_mem_cons]
      exact ⟨⟨trivial, rfl⟩, string _, fine.2, List.forall_mem_nil _⟩

/-- A client reads the answer that a response stands for. -/
theorem ofResponse_response
    {answer : ToolAnswer}
    (fine : answer.Fine codec.floats) :
    ToolAnswer.ofResponse (codec.library repr)
        (answer.response (codec.library repr)) =
      some answer := by
  cases answer with
  | tools mid items => rfl
  | unknown mid message => rfl
  | done mid result =>
      have loaded :
          (codec.library repr).loads ((codec.library repr).dumps result) =
            .ok result :=
        library_loads (by simp) fine.2
      have shape :
          ToolAnswer.ofResponse (codec.library repr)
              (ToolAnswer.response (codec.library repr) (.done mid result)) =
            ((codec.library repr).loads
              ((codec.library repr).dumps result)).toOption.bind
                fun value => some (.done mid value) := rfl
      rw [shape, loaded]
      rfl
  | refused mid message result => rfl

/-- The answer to a message is fine. -/
theorem answerMessage_fine
    {answer : ToolAnswer}
    {after : Session}
    (fine : Json.Fine codec.floats message)
    (fits :
      ∀ call ∈ callFor proxy.mandateId message,
        ∀ result,
          (proxy.invoke call session).1 = .returned result →
            Json.Fine codec.floats result.toDict)
    (answered : answerMessage proxy message session = (.ok answer, after)) :
    answer.Fine codec.floats := by
  have ofResult {mid : Json} {result : ToolResult}
      (midFine : Json.Fine codec.floats mid)
      (resultFine : Json.Fine codec.floats result.toDict) :
      (ToolAnswer.ofResult mid result).Fine codec.floats := by
    unfold ToolAnswer.ofResult
    split
    · exact ⟨midFine, resultFine⟩
    · exact ⟨midFine, resultFine⟩
  have denied (reason detail : String) :
      Json.Fine codec.floats (ToolResult.denied reason detail).toDict :=
    ⟨by simp [ToolResult.denied, Json.Proper, Json.ProperFields], rfl⟩
  unfold answerMessage at answered
  split at answered
  case h_1 mid method isId isMethod =>
    have midFine := get_fine fine isId
    split at answered
    · cases answered
      exact ⟨midFine, listTools_fine _⟩
    · split at answered
      · cases answered
        exact midFine
      · split at answered
        · cases answered
        case h_2 call isCall =>
          split at answered
          case h_1 result _ invoked =>
            cases answered
            exact ofResult midFine
              (fits call isCall result (congrArg Prod.fst invoked))
          case h_2 =>
            cases answered
            exact ofResult midFine (denied _ _)
          case h_3 => cases answered
  case h_2 => cases answered

/-- The answers to messages are fine. -/
theorem answerMessages_fine
    (fine : ∀ message ∈ messages, Json.Fine codec.floats message)
    (fits : ResultsFit codec.floats proxy messages session) :
    ∀ answer ∈ (answerMessages proxy messages session).1,
      answer.Fine codec.floats := by
  induction messages generalizing session with
  | nil => exact List.forall_mem_nil _
  | cons message rest inductionHypothesis =>
      obtain ⟨first, others⟩ := List.forall_mem_cons.mp fine
      obtain ⟨here, later⟩ := fits
      rw [answerMessages]
      cases answered : answerMessage proxy message session with
      | mk outcome after =>
          rw [answered] at later
          cases outcome with
          | error exception => exact List.forall_mem_nil _
          | ok answer =>
              exact List.forall_mem_cons.mpr
                ⟨answerMessage_fine first here answered,
                  inductionHypothesis others later⟩

/-- What was written line by line is read line by line. -/
theorem readLines_written
    {floats : FloatText}
    {space : List Char}
    {values : List Json}
    (blank : ∀ char ∈ space, char = ' ')
    (fine : ∀ value ∈ values, Json.Fine floats value) :
    (readLines (writeLines (values.map (Json.write floats space)))).map
        String.ofList =
      values.map (lineOf floats space) := by
  have unbroken :
      ∀ text ∈ values.map (Json.write floats space),
        ∀ char ∈ text, char ≠ '\n' ∧ char ≠ '\r' := by
    intro text member
    obtain ⟨value, isValue, rfl⟩ := List.mem_map.mp member
    exact write_unbroken blank (fine value isValue)
  rw [readLines_writeLines unbroken, List.map_map, List.map_map]
  rfl

/--
Between two streams of text a client gets from the proxy what it makes of the
values of the messages, whatever `invoke` does: every answer, in order, with the
id of its message and the whole result, up to the message that ends the loop.
-/
theorem client_reads_answers
    {space : List Char}
    (blank : ∀ char ∈ space, char = ' ')
    (library : proxy.json = codec.library repr)
    (fine : ∀ message ∈ messages, Json.Fine codec.floats message)
    (fits : ResultsFit codec.floats proxy messages session) :
    converse codec space proxy messages session =
      ((answerMessages proxy messages session).1.map some,
        (answerMessages proxy messages session).2) := by
  have one : ∀ char ∈ [' '], char = ' ' := by simp
  have answersFine := answerMessages_fine fine fits
  generalize answered : answerMessages proxy messages session = answers
    at answersFine
  have responsesFine :
      ∀ response ∈ answers.1.map (·.response proxy.json),
        Json.Fine codec.floats response := by
    intro response member
    obtain ⟨answer, isAnswer, rfl⟩ := List.mem_map.mp member
    rw [library]
    exact response_fine (answersFine answer isAnswer)
  have output :
      (answers.1.map fun answer =>
          lineOf codec.floats [' '] (answer.response proxy.json)).flatMap
          String.toList =
        writeLines
          ((answers.1.map (·.response proxy.json)).map
            (Json.write codec.floats [' '])) := by
    simp [writeLines, lineOf, List.flatMap_map]
  unfold converse
  simp only [readLines_written blank fine,
    stdioLoop_messages blank library fine, answered, output,
    readLines_written one responsesFine]
  rw [List.map_map, List.map_map, Prod.mk.injEq]
  refine ⟨List.map_congr_left fun answer isAnswer => ?_, rfl⟩
  have responseFine :=
    responsesFine _ (List.mem_map.mpr ⟨answer, isAnswer, rfl⟩)
  have loaded :
      proxy.json.loads
          (strip
            (lineOf codec.floats [' '] (answer.response proxy.json))) =
        .ok (answer.response proxy.json) := by
    rw [lineOf, strip_written one responseFine, library]
    rw [library] at responseFine
    exact library_loads one responseFine
  simp only [Function.comp_apply, loaded]
  rw [library]
  exact ofResponse_response (answersFine answer isAnswer)

end Stream

/-! ## The modelled `invoke` -/

/-- A result whose numbers have texts is returned as a dict that has one. -/
theorem ProxyWorld.invoked_fine
    {codec : Codec}
    {isoformat : Datetime → String}
    {world : ProxyWorld}
    {outcome : Except Raised InvokeResult}
    {result : ToolResult}
    (written :
      world.resultDict =
        fun result => (codec.resultObject isoformat result).toDict)
    (storable : ∀ answer, outcome = .ok answer → answer.Storable)
    (returned : world.invoked outcome = .returned result) :
    Json.Fine codec.floats result.toDict := by
  cases outcome with
  | ok answer =>
      cases returned
      simp only [written]
      exact resultObject_fine (storable answer rfl)
  | error exception => cases exception <;> cases returned

/-- A world in which the issuer has the codec of the examples. -/
def ProxyWorld.typed : ProxyWorld where
  env := .plain
  json := Codec.plain.library fun _ => ""
  draws call :=
    { draw :=
        { now := ⟨0, none⟩
          debitNow := ⟨0, none⟩
          quoted := .ok 10
          newTaskId := 3 * call
          newReservationId := 3 * call + 1
          newInvocationId := 3 * call + 2 }
      provider := .ok "\x7b\x7d"
      finish :=
        { newReceiptId := call
          newOutboxId := call
          issuedAt := ⟨0, none⟩
          createdAt := ⟨0, none⟩ } }
  reasonText := Reason.text
  resultDict result :=
    (Codec.plain.resultObject (fun _ => "noon") result).toDict
  exception _ := .valueError
  illTyped _ session := (.raised .typeError, session)

/-- There is no price for a call without a name. -/
def denyNameless (call : ToolCall) (db : Db) :
    Except Raised InvokeResult × Db :=
  exec
    (deny (some 1) call.mandateId
      ⟨.unknownTool, "'no price for mock/None'"⟩
      ((db.mandates.find call.mandateId).map Mandate.remainingCents) none)
    db

/-- A world in which calls without a name are denied at their quote. -/
def ProxyWorld.plain : ProxyWorld :=
  { ProxyWorld.typed with
    illTyped := fun call session =>
      let (outcome, db) := denyNameless call session.db
      (ProxyWorld.typed.invoked outcome, ⟨db, session.calls + 1⟩) }

/-- A request for the tools. -/
def listMessage : Json :=
  .object [("id", .int 7), ("method", .string "tools/list")]

/-- A call of a tool. -/
def callMessage : Json :=
  .object
    [("id", .int 8),
      ("method", .string "tools/call"),
      ("params", .object [("name", .string "search")])]

/-- A call of no tool. -/
def namelessMessage : Json :=
  .object [("id", .int 9), ("method", .string "tools/call")]

/--
A client lists the tools, makes a call and one without a name, and a number ends
the loop.
-/
theorem client_reads_answers_example :
    ∃ result refusal,
      converse .plain [' '] (ProxyWorld.plain.proxy 1)
          [listMessage, callMessage, namelessMessage, .int 3] ⟨.deployed, 0⟩ =
        ([some (.tools (.int 7) listTools), some (.done (.int 8) result),
            some (.refused (.int 9) "UNKNOWN_TOOL" refusal)],
          some .attributeError) := by
  have fine :
      ∀ message ∈ [listMessage, callMessage, namelessMessage, .int 3],
        Json.Fine Codec.plain.floats message := by
    simp only [List.forall_mem_cons]
    refine ⟨⟨?_, rfl⟩, ⟨?_, rfl⟩, ⟨?_, rfl⟩, ⟨trivial, rfl⟩,
      List.forall_mem_nil _⟩
    · simp [listMessage, Json.Proper, Json.ProperFields]
    · simp [callMessage, Json.Proper, Json.ProperFields]
    · simp [namelessMessage, Json.Proper, Json.ProperFields]
  have storable
      {outcome : Except Raised InvokeResult}
      (all :
        outcome.toOption.all (fun result => decide result.Storable) = true)
      (result : InvokeResult)
      (isOk : outcome = .ok result) :
      result.Storable :=
    of_decide_eq_true
      ((Option.all_eq_true _ _).mp all result (congrArg Except.toOption isOk))
  have fits :
      ResultsFit Codec.plain.floats (ProxyWorld.plain.proxy 1)
        [listMessage, callMessage, namelessMessage, .int 3]
        ⟨.deployed, 0⟩ := by
    refine ⟨?_, ?_, ?_, ?_, trivial⟩
    · rintro call ⟨⟩
    · rintro call ⟨⟩ result returned
      change
        ProxyWorld.plain.invoked
            (exec
              (invokeAlone .plain
                { mandateId := 1, tool := "search", arguments := some "\x7b\x7d" }
                (ProxyWorld.plain.draws 0))
              Db.deployed).1 =
          _ at returned
      exact
        @ProxyWorld.invoked_fine Codec.plain (fun _ => "noon") .plain _ _ rfl
          (storable (by decide)) returned
    · rintro call ⟨⟩ result returned
      change ProxyWorld.plain.invoked (denyNameless _ _).1 = _ at returned
      exact
        @ProxyWorld.invoked_fine Codec.plain (fun _ => "noon") .plain _ _ rfl
          (storable (by decide)) returned
    · rintro call ⟨⟩
  rw [client_reads_answers (by simp) rfl fine fits]
  exact ⟨_, _, rfl⟩

end Crossing
