import Crossing.Completion
import Crossing.DispatchLog
import Crossing.InvokeOutcomes
import Crossing.JsonPaths
import Crossing.Proxy
import Crossing.StoredResults

namespace Crossing

open Python
open Relational
open Relational.Transaction

/-!
# Arguments of calls

`validate_arguments` of `abuse.py` and its recursion into the arguments.  What
it accepts is told by the paths into the arguments, and nothing else reaches a
provider.
-/

/-! ## The size and the nesting of arguments -/

/-- `max_args_bytes`, by the text of its variable. -/
def maxArgsBytes (raw : Option String) : Int :=
  match truthy raw with
  | none => 16384
  | some text => ((pythonInt text).map (max 256)).getD 16384

/-- Raise `PolicyDenied` for arguments that are not valid. -/
def rejectWhen (failed : Prop) [Decidable failed] (detail : String) :
    Except Denied Unit :=
  denyWhen failed .invalidArguments detail

mutual

/-- `_walk`. -/
def walk (depth : Nat) (value : Json) : Except Denied Unit := do
  rejectWhen (depth > 6) "arguments too nested"
  match value with
  | .object fields => do
      rejectWhen (fields.length > 32) "too many keys"
      walkFields depth fields
  | .array items => do
      rejectWhen (items.length > 32) "too many items"
      walkItems depth items
  | .string text => rejectWhen (text.length > 4096) "string too long"
  | _ => .ok ()

/-- The loop over the items of a list. -/
def walkItems (depth : Nat) : List Json → Except Denied Unit
  | [] => .ok ()
  | item :: rest => do
      walk (depth + 1) item
      walkItems depth rest

/-- The loop over the items of a dict. -/
def walkFields (depth : Nat) : List (String × Json) → Except Denied Unit
  | [] => .ok ()
  | (key, value) :: rest => do
      rejectWhen (key.length > 64) "invalid key"
      walk (depth + 1) value
      walkFields depth rest

end

/-! ## The schemas of the tools -/

/-- `_type_ok`; `True` and `False` are no numbers here. -/
def typeOk (value : Json) (expected : String) : Bool :=
  match expected, value with
  | "string", .string _ => true
  | "string", _ => false
  | "number", .int _ => true
  | "number", .float _ => true
  | "number", _ => false
  | "integer", .int _ => true
  | "integer", _ => false
  | "boolean", .bool _ => true
  | "boolean", _ => false
  | "object", .object _ => true
  | "object", _ => false
  | "array", .array _ => true
  | "array", _ => false
  | _, _ => true

/-- What is read of an `inputSchema`. -/
structure InputSchema where
  properties : List (String × String)
  required : List String

/-- `TOOLS`. -/
def toolSchemas : List (String × InputSchema) :=
  [("search", ⟨[("q", "string")], []⟩),
    ("purchase", ⟨[("sku", "string")], []⟩),
    ("expensive", ⟨[("sku", "string")], []⟩)]

/-- A pass of the loop over the required keys. -/
def checkRequired (fields : List (String × Json)) (key : String) :
    Except Denied Unit :=
  rejectWhen (key ∉ fields.map Prod.fst) s!"missing {key}"

/-- A pass of the loop over the arguments. -/
def InputSchema.checkField
    (schema : InputSchema)
    (field : String × Json) :
    Except Denied Unit :=
  match schema.properties.lookup field.1 with
  | none => .error ⟨.invalidArguments, s!"unknown argument {field.1}"⟩
  | some expected =>
      rejectWhen (typeOk field.2 expected = false) s!"{field.1} type"

/-- The two loops over a schema in `validate_arguments`. -/
def InputSchema.check
    (schema : InputSchema)
    (fields : List (String × Json)) :
    Except Denied Unit := do
  schema.required.forM (checkRequired fields)
  fields.forM schema.checkField

/-- The bytes of the compact text of arguments, whose integers have texts. -/
def argumentBytes (codec : Codec) (arguments : Json) : Nat :=
  (String.ofList (arguments.write codec.floats [])).utf8ByteSize

/-- `validate_arguments`. -/
def validateArguments
    (codec : Codec)
    (limit : Int)
    (tool : String)
    (arguments : Json) :
    Except Denied Unit := do
  let arguments := orElse arguments (.object [])
  denyWhen (argumentBytes codec arguments > limit)
    .payloadTooLarge "arguments exceed size limit"
  match arguments with
  | .object fields => do
      walk 0 arguments
      match toolSchemas.lookup tool with
      | none => .ok ()
      | some schema => schema.check fields
  | _ => .error ⟨.invalidArguments, "arguments must be an object"⟩

/-! ## What is accepted -/

/-- A value that is not too large, apart from what it contains. -/
def Small : Json → Prop
  | .object fields =>
      fields.length ≤ 32 ∧ ∀ field ∈ fields, field.1.length ≤ 64
  | .array items => items.length ≤ 32
  | .string text => text.length ≤ 4096
  | _ => True

/-- The fields are declared and of their types, and the required ones there. -/
structure InputSchema.Admits
    (schema : InputSchema)
    (fields : List (String × Json)) :
    Prop where
  required : ∀ key ∈ schema.required, key ∈ fields.map Prod.fst
  declared :
    ∀ field ∈ fields,
      ∃ expected, schema.properties.lookup field.1 = some expected ∧
        typeOk field.2 expected = true

/-- Arguments whose text, nesting, parts and fields are within their bounds. -/
structure Accepted
    (codec : Codec)
    (limit : Int)
    (tool : String)
    (fields : List (String × Json)) :
    Prop where
  bytes : argumentBytes codec (.object fields) ≤ limit
  inside :
    (Json.object fields).Inside fun length inner => length ≤ 6 ∧ Small inner
  schema :
    ∀ schema, toolSchemas.lookup tool = some schema → schema.Admits fields

section Walk

variable {floats : FloatText} {value : Json} {depth : Nat}

/-- A check that passes leaves the next one. -/
theorem rejectWhen_bind
    {failed : Prop}
    [Decidable failed]
    {detail : String}
    {next : Unit → Except Denied Unit} :
    (rejectWhen failed detail >>= next) = .ok () ↔
      ¬ failed ∧ next () = .ok () := by
  unfold rejectWhen denyWhen
  by_cases fails : failed
  · simp [fails, bind, Except.bind]
  · simp [fails, bind, Except.bind]

/-- The loop over items passes when every item does. -/
theorem walkItems_ok_iff {items : List Json} :
    walkItems depth items = .ok () ↔
      ∀ item ∈ items, walk (depth + 1) item = .ok () := by
  induction items with
  | nil => simp [walkItems]
  | cons item rest inductionHypothesis =>
      rw [walkItems, List.forall_mem_cons, ← inductionHypothesis]
      cases walk (depth + 1) item <;> simp [bind, Except.bind]

/-- The loop over fields passes when every key is short and every value does. -/
theorem walkFields_ok_iff {fields : List (String × Json)} :
    walkFields depth fields = .ok () ↔
      ∀ field ∈ fields,
        field.1.length ≤ 64 ∧ walk (depth + 1) field.2 = .ok () := by
  induction fields with
  | nil => simp [walkFields]
  | cons field rest inductionHypothesis =>
      obtain ⟨key, value⟩ := field
      rw [walkFields, List.forall_mem_cons, ← inductionHypothesis,
        rejectWhen_bind, not_lt, and_assoc]
      refine and_congr_right fun _ => ?_
      cases walk (depth + 1) value <;> simp [bind, Except.bind]

/-- `_walk` passes when every value inside is small and not too deep. -/
theorem walk_ok_iff (proper : value.Proper floats) :
    walk depth value = .ok () ↔
      value.Inside fun length inner => depth + length ≤ 6 ∧ Small inner := by
  induction value using Json.inside generalizing depth with
  | leaf value isLeaf =>
      rw [Json.inside_leaf isLeaf, add_zero]
      cases value with
      | array items => cases isLeaf
      | object fields => cases isLeaf
      | string text =>
          rw [walk, rejectWhen_bind]
          simp [rejectWhen, Small]
      | null | bool _ | int _ | float _ =>
          simp [walk, rejectWhen_bind, Small]
  | array items inductionHypothesis =>
      rw [Json.inside_array, walk, rejectWhen_bind, not_lt, add_zero,
        rejectWhen_bind, not_lt, walkItems_ok_iff, and_assoc]
      refine and_congr_right fun _ => and_congr_right fun _ => ?_
      refine forall₂_congr fun item member => ?_
      rw [inductionHypothesis item member
        (Json.properItems_iff.mp proper item member)]
      simp only [Nat.add_assoc, Nat.add_comm 1]
  | object fields inductionHypothesis =>
      obtain ⟨distinct, proper⟩ := proper
      rw [Json.inside_object distinct, walk, rejectWhen_bind, not_lt,
        add_zero, rejectWhen_bind, not_lt, walkFields_ok_iff, forall₂_and,
        and_assoc]
      refine and_congr_right fun _ => ?_
      rw [Small, and_assoc]
      refine and_congr_right fun _ => and_congr_right fun _ => ?_
      refine forall₂_congr fun field member => ?_
      rw [inductionHypothesis field member
        (Json.properFields_iff.mp proper field member)]
      simp only [Nat.add_assoc, Nat.add_comm 1]

end Walk

/-- A loop of checks passes when each check does. -/
theorem forM_ok_iff
    {α : Type}
    {items : List α}
    {check : α → Except Denied Unit} :
    items.forM check = .ok () ↔ ∀ item ∈ items, check item = .ok () := by
  induction items with
  | nil => simp [pure, Except.pure]
  | cons item rest inductionHypothesis =>
      rw [List.forall_mem_cons, ← inductionHypothesis]
      change (check item >>= fun _ => rest.forM check) = .ok () ↔ _
      cases check item <;> simp [bind, Except.bind]

/-- The loops over a schema pass when it admits the fields. -/
theorem InputSchema.check_ok_iff
    {schema : InputSchema}
    {fields : List (String × Json)} :
    schema.check fields = .ok () ↔ schema.Admits fields := by
  have required :
      schema.required.forM (checkRequired fields) = .ok () ↔
        ∀ key ∈ schema.required, key ∈ fields.map Prod.fst := by
    rw [forM_ok_iff]
    refine forall₂_congr fun key _ => ?_
    simp only [checkRequired, rejectWhen, denyWhen_eq_ok, not_not]
  have declared :
      fields.forM schema.checkField = .ok () ↔
        ∀ field ∈ fields,
          ∃ expected, schema.properties.lookup field.1 = some expected ∧
            typeOk field.2 expected = true := by
    rw [forM_ok_iff]
    refine forall₂_congr fun field _ => ?_
    unfold InputSchema.checkField
    cases schema.properties.lookup field.1 with
    | none => simp
    | some expected => simp [rejectWhen]
  unfold InputSchema.check
  constructor
  · intro passed
    obtain ⟨_, first, second⟩ := except_bind_eq_ok.mp passed
    exact ⟨required.mp first, declared.mp second⟩
  · intro admits
    exact except_bind_eq_ok.mpr
      ⟨(), required.mpr admits.required, declared.mpr admits.declared⟩

/-- `validate_arguments` passes dicts that are accepted. -/
theorem validateArguments_ok_iff
    {codec : Codec}
    {limit : Int}
    {tool : String}
    {arguments : Json}
    (proper : arguments.Proper codec.floats) :
    validateArguments codec limit tool arguments = .ok () ↔
      ∃ fields, orElse arguments (.object []) = .object fields ∧
        Accepted codec limit tool fields := by
  have givenProper :
      (orElse arguments (.object [])).Proper codec.floats := by
    unfold orElse
    split
    · exact proper
    · exact ⟨.nil, trivial⟩
  unfold validateArguments
  cases given : orElse arguments (.object []) with
  | object fields =>
      rw [given] at givenProper
      have walked := @walk_ok_iff codec.floats (.object fields) 0 givenProper
      simp only [zero_add] at walked
      constructor
      · intro passed
        obtain ⟨_, fits, passed⟩ := except_bind_eq_ok.mp passed
        obtain ⟨_, inside, passed⟩ := except_bind_eq_ok.mp passed
        refine ⟨fields, rfl, ?_, walked.mp inside, ?_⟩
        · exact not_lt.mp (denyWhen_eq_ok.mp fits)
        · intro schema isSchema
          simp only [isSchema] at passed
          exact InputSchema.check_ok_iff.mp passed
      · rintro ⟨_, same, accepted⟩
        cases same
        refine except_bind_eq_ok.mpr
          ⟨(), denyWhen_eq_ok.mpr (not_lt.mpr accepted.bytes), ?_⟩
        refine except_bind_eq_ok.mpr ⟨(), walked.mpr accepted.inside, ?_⟩
        cases isSchema : toolSchemas.lookup tool with
        | none => rfl
        | some schema =>
            exact InputSchema.check_ok_iff.mpr
              (accepted.schema schema isSchema)
  | null | bool _ | int _ | float _ | string _ | array _ =>
      constructor
      · intro passed
        obtain ⟨_, _, passed⟩ := except_bind_eq_ok.mp passed
        cases passed
      · rintro ⟨_, same, _⟩
        cases same

/-! ## What reaches a provider -/

/-- The environment whose arguments are read from their texts and checked. -/
def Codec.validating (codec : Codec) (limit : Int) (env : Env) : Env :=
  { env with
    validateArguments := fun tool payload =>
      validateArguments codec limit tool (codec.value payload) }

/-- A price that passes its checks is for arguments that do. -/
theorem checkedPrice_arguments
    {env : Env}
    {view : Db}
    {mandate : Mandate}
    {request : InvokeRequest}
    {quoted : Except Denied Cents}
    {price : Cents}
    (passed : checkedPrice env view mandate request quoted = .ok price) :
    env.validateArguments request.tool request.payload = .ok () := by
  obtain ⟨_, _, passed⟩ := except_bind_eq_ok.mp passed
  obtain ⟨_, _, passed⟩ := except_bind_eq_ok.mp passed
  obtain ⟨_, valid, _⟩ := except_bind_eq_ok.mp passed
  exact valid

/-- A call that has reserved was let pass by the gate. -/
theorem invokeBegin_reserved
    {env : Env}
    {views : Views}
    {request : InvokeRequest}
    {draw : InvokeDraw}
    {db db' : Db}
    {attempt : Attempt}
    (reserved :
      exec (invokeBegin env views request draw) db =
        (.ok (.reserved attempt), db')) :
    ∃ mandate price, Passed env views request draw mandate price := by
  obtain ⟨mandate, price, passes, _⟩ := passes_of_reserved reserved
  exact ⟨mandate, price, gate_passes_iff.mp passes⟩

/-- Every call that has reserved has arguments that were let pass. -/
def Sys.Validated (env : Env) (s : Sys) : Prop :=
  ∀ call ∈ s.calls.rows,
    env.validateArguments call.attempt.request.tool
        call.attempt.request.payload =
      .ok ()

/-- A call of `invoke` begins with arguments that were let pass. -/
theorem invoke_step_valid
    {env : Env}
    {s s' : Sys}
    {ages : List Nat}
    {request : InvokeRequest}
    {draw : InvokeDraw}
    (kept : s.Kept env)
    (taken : step env s (.invoke ages request draw) = some s') :
    ∀ call ∈ s'.calls.rows,
      call ∈ s.calls.rows ∨
        env.validateArguments call.attempt.request.tool
            call.attempt.request.payload =
          .ok () := by
  simp only [step] at taken
  split at taken
  case isFalse => cases taken
  case isTrue =>
    cases committed :
        Transaction.commit (invokeBegin env (s.views ages) request draw)
          s.db with
    | none =>
        simp only [committed] at taken
        cases taken
    | some outcome =>
        obtain ⟨begun, db'⟩ := outcome
        have ran := commit_eq_some.mp committed
        cases begun with
        | answered result =>
            simp only [committed] at taken
            cases taken
            exact fun call member => .inl member
        | reserved attempt =>
            simp only [committed] at taken
            obtain ⟨calls, inserted, rfl⟩ := Option.map_eq_some_iff.mp taken
            obtain ⟨mandate, price, passed⟩ := invokeBegin_reserved ran
            have valid := checkedPrice_arguments passed.priced
            have isRequest : attempt.request = request := by
              rcases @invokeBegin_ok env .free .call _ _ _ _ _ _
                  (kept.seen ages) ran with
                ⟨_, same, _⟩ | ⟨_, _, same, opens⟩
              · cases same
              · cases same
                exact opens.begins.isRequest
            intro call member
            rcases (Table.mem_insert inserted).mp member with inOld | rfl
            · exact .inl inOld
            · rw [← isRequest] at valid
              exact .inr valid

/-- No other step changes the arguments of a call. -/
theorem reachable_validated
    {env : Env}
    {allowed : Sys → Action → Prop}
    {s : Sys}
    (reachable : Reachable env allowed s) :
    s.Validated env := by
  refine Transition.Reachable.invariant ?_ ?_ reachable
  · rintro _ rfl call member
    cases member
  · rintro s s' isReachable valid ⟨action, _, taken⟩ call member
    have kept := reachable_kept isReachable
    have origin :=
      (stepped kept (Discipline.free_allows action) taken).call_origin call
        member
    rcases origin with ⟨before, inOld, same⟩ | ⟨_, _, _, _, rfl, _, _⟩
    · rw [← same]
      exact valid before inOld
    · rcases invoke_step_valid kept taken call member with inOld | isValid
      · exact valid call inOld
      · exact isValid

/--
Whatever has been passed on to a provider is a dict of arguments with a text of
at most `max_args_bytes`, with no value deeper than six steps, none larger than
the bounds of `_walk`, and with the fields that the schema of its tool admits.
-/
theorem providers_get_accepted_arguments
    {codec : Codec}
    {limit : Int}
    {env : Env}
    {allowed : Sys → Action → Prop}
    {s : Sys}
    {id : Id}
    (reachable : Reachable (codec.validating limit env) allowed s)
    (dispatched : .dispatched id ∈ s.log) :
    ∃ call ∈ s.calls.rows,
      call.attempt.invocation.id = id ∧
        ∃ fields,
          orElse (codec.value call.attempt.request.payload) (.object []) =
              .object fields ∧
            Accepted codec limit call.attempt.request.tool fields := by
  have law := reachable_dispatched reachable
  cases found : s.calls.find id with
  | none =>
      have undispatched := law.notYet id (by simp [found])
      have counted := List.count_pos_iff.mpr dispatched
      omega
  | some call =>
      have member := Table.mem_of_find found
      have proper : (codec.value call.attempt.request.payload).Proper
          codec.floats :=
        (value_fine_of_text _).1
      refine ⟨call, member, Table.key_of_find found, ?_⟩
      exact (validateArguments_ok_iff proper).mp
        (reachable_validated reachable call member)

/-- The fallback of `call_tool` to `query` is out of reach. -/
example :
    validateArguments .plain 16384 "search"
        (.object [("query", .string "x")]) =
      .error ⟨.invalidArguments, "unknown argument query"⟩ := by
  decide

/-- The small deployment with checked arguments. -/
def Env.validating : Env :=
  Codec.plain.validating (maxArgsBytes none) .plain

/-- The settled call was passed on with accepted arguments. -/
theorem providers_get_accepted_arguments_example :
    ∃ s call fields,
      Reachable .validating (fun _ action => Discipline.api.Allows action)
          s ∧
        call ∈ s.calls.rows ∧
        Accepted .plain (maxArgsBytes none) call.attempt.request.tool
          fields := by
  have checked :
      (run .validating Sys.start (deploy ++ settle)).any
          (fun s => s.log.contains (.dispatched 1)) =
        true := by
    decide
  obtain ⟨s, reachable, passes⟩ :=
    reachable_of_check (.routine (by decide) .api _) checked
  obtain ⟨call, member, _, fields, _, accepted⟩ :=
    providers_get_accepted_arguments reachable
      (List.contains_iff_mem.mp passes)
  exact ⟨s, call, fields, reachable, member, accepted⟩

end Crossing
