import Crossing.KeyStores

namespace Crossing

open Python.Json (hexDigit?)

/-!
# The check at boot

`require_production_secrets` parses the seed before a process takes requests.  It
counts the characters of the seed, but `bytes.fromhex` skips white space, so a
seed of 64 characters may have fewer than the 32 bytes of a key.
-/

/-! ## Bytes of a seed -/

section Boot

variable
  {Key : Type}
  {library : KeyLibrary Key}
  {env : KeyVariables}

/-- A hexadecimal digit is no white space. -/
theorem hexDigit_notSpace
    {char : Char}
    {value : Nat}
    (isDigit : hexDigit? char = some value) :
    isHexSpace char = false := by
  rw [← Bool.not_eq_true]
  intro space
  have among := of_decide_eq_true space
  simp only [List.mem_cons, List.not_mem_nil, or_false] at among
  have isNone : hexDigit? char = none := by
    rcases among with rfl | rfl | rfl | rfl | rfl | rfl <;> decide
  cases isNone.symm.trans isDigit

/-- Two digits for each byte, and the white space. -/
theorem length_fromHex
    {text : List Char}
    {bytes : List UInt8}
    (decoded : fromHex text = some bytes) :
    text.length = 2 * bytes.length + text.countP isHexSpace := by
  fun_induction fromHex text generalizing bytes with
  | case1 =>
      cases decoded
      rfl
  | case2 char rest space inductionHypothesis =>
      have counted := inductionHypothesis decoded
      rw [List.countP_cons_of_pos space, List.length_cons]
      omega
  | case3 => cases decoded
  | case4 char notSpace next rest inductionHypothesis =>
      obtain ⟨high, isHigh, afterHigh⟩ := Option.bind_eq_some_iff.mp decoded
      obtain ⟨low, isLow, afterLow⟩ := Option.bind_eq_some_iff.mp afterHigh
      obtain ⟨later, isLater, isBytes⟩ := Option.bind_eq_some_iff.mp afterLow
      cases isBytes
      have counted := inductionHypothesis isLater
      have notFirst : ¬ isHexSpace char = true := notSpace
      have notSecond : ¬ isHexSpace next = true := by
        rw [hexDigit_notSpace isLow]
        exact Bool.false_ne_true
      rw [List.countP_cons_of_neg notFirst, List.countP_cons_of_neg notSecond]
      simp only [List.length_cons]
      omega

/-- What `parseSeed` has accepted. -/
theorem parseSeed_ok
    {raw : String}
    {bytes : List UInt8}
    (parsed : parseSeed raw = .ok bytes) :
    raw ≠ "" ∧
      2 * bytes.length + (strip raw).toList.countP isHexSpace = 64 := by
  unfold parseSeed at parsed
  dsimp only at parsed
  split at parsed
  · cases parsed
  · rename_i length
    have isLength : (strip raw).length = 64 := not_not.mp length
    split at parsed
    · rename_i found decoded
      cases parsed
      refine ⟨?_, ?_⟩
      · rintro rfl
        cases isLength.symm.trans (by decide : (strip "").length = 0)
      · rw [← length_fromHex decoded, String.length_toList, isLength]
    · cases parsed

/-- The bytes of a seed are a key unless there is white space in it. -/
theorem ofSeed_isSome_iff
    {raw : String}
    {bytes : List UInt8}
    (parsed : parseSeed raw = .ok bytes) :
    (library.ofSeed bytes).isSome = true ↔
      ∀ char ∈ (strip raw).toList, isHexSpace char = false := by
  have counted := (parseSeed_ok parsed).2
  rw [library.ofSeed_isSome]
  have spaces :
      (strip raw).toList.countP isHexSpace = 0 ↔
        ∀ char ∈ (strip raw).toList, isHexSpace char = false := by
    simp only [List.countP_eq_zero, Bool.not_eq_true]
  rw [← spaces]
  omega

/-- What the check at boot has accepted outside development. -/
theorem requireProductionSecrets_ok
    (production : env.allowDev = false)
    (booted : requireProductionSecrets library env = .ok ()) :
    (∃ bytes, parseSeed env.seed = .ok bytes) ∧
      backendName library env ≠ "hsm" := by
  unfold requireProductionSecrets at booted
  rw [production, if_neg Bool.false_ne_true] at booted
  cases parsed : parseSeed env.seed with
  | error exception =>
      rw [parsed] at booted
      cases booted
  | ok bytes =>
      rw [parsed] at booted
      refine ⟨⟨bytes, rfl⟩, ?_⟩
      intro isHsm
      change
        (if strip env.pepper = "" then _ else
          if backendName library env = "hsm" then _ else _) = _ at booted
      rw [if_pos isHsm] at booted
      split at booted <;> cases booted

/-! ## Answers by a seed -/

/-- What a process with this seed says when it needs its key. -/
def seedKey (key : Option Key) : Except KeyError Key :=
  match key with
  | some key => .ok key
  | none => .error .valueError

/-- What it says when it is asked for its key id. -/
def seedKid
    (library : KeyLibrary Key)
    (env : KeyVariables)
    (key : Option Key) :
    Except KeyError String :=
  if strip env.keyId ≠ "" then
    .ok (.ofList ((strip env.keyId).toList.take 64))
  else
    (seedKey key).map fun key =>
      "k1-" ++ .ofList ((library.digest (library.pubkeyHex key)).toList.take 12)

/-- What it answers, in an environment that stays. -/
def seedAnswer
    (library : KeyLibrary Key)
    (env : KeyVariables)
    (key : Option Key) :
    KeyCall → KeyAnswer
  | .signObj text =>
      match seedKey key with
      | .ok key => .signature (library.sign key text)
      | .error exception => .raised exception
  | .verifyObj text signatureHex pubkeyHexStr =>
      let vk :=
        if pubkeyHexStr ≠ "" then
          fromHex pubkeyHexStr.toList
        else
          key.map library.verifyKey
      match fromHex signatureHex.toList, vk with
      | some sig, some vk => .verified (library.verify vk text sig)
      | _, _ => .verified false
  | .pubkeyHex =>
      match seedKey key with
      | .ok key => .pubkey (library.pubkeyHex key)
      | .error exception => .raised exception
  | .keyId =>
      match seedKid library env key with
      | .ok kid => .kid kid
      | .error exception => .raised exception

/-! ## Caches by a seed -/

/-- A process that has nothing in its caches but what the seed gives. -/
structure KeyState.Seeded
    (library : KeyLibrary Key)
    (env : KeyVariables)
    (key : Option Key)
    (state : KeyState Key) : Prop where
  store :
    ∀ store, state.store = some store →
      store = .envSeed none ∨ store = .envSeed key
  sk : ∀ made, state.sk = some made → key = some made
  kid : ∀ kid, state.kid = some kid → seedKid library env key = .ok kid

section

variable
  {fresh : Key}
  {key : Option Key}
  {state : KeyState Key}

/-- A store makes its key of the seed. -/
theorem KeyStore.signingKey_seed
    {bytes : List UInt8}
    {store : KeyStore Key}
    (parsed : parseSeed env.seed = .ok bytes)
    (seeded :
      store = .envSeed none ∨ store = .envSeed (library.ofSeed bytes)) :
    store.signingKey library env fresh =
      (seedKey (library.ofSeed bytes), .envSeed (library.ofSeed bytes)) := by
  have bare :
      (KeyStore.envSeed none).signingKey library env fresh =
        (seedKey (library.ofSeed bytes), .envSeed (library.ofSeed bytes)) := by
    simp only [KeyStore.signingKey, if_pos (parseSeed_ok parsed).1, parsed]
    cases library.ofSeed bytes <;> rfl
  rcases seeded with rfl | rfl
  · exact bare
  · cases made : library.ofSeed bytes with
    | none =>
        rw [made] at bare
        exact bare
    | some key => rfl

/-- The store of a process is one for the seed. -/
theorem KeyState.keyStore_seed
    (notHsm : backendName library env ≠ "hsm")
    (seeded : state.Seeded library env key) :
    state.keyStore library env = .envSeed none ∨
      state.keyStore library env = .envSeed key := by
  unfold KeyState.keyStore
  cases stored : state.store with
  | none =>
      rw [if_neg notHsm]
      exact .inl rfl
  | some store => exact seeded.store store stored

/-- `signing_key` in a process with this seed. -/
theorem KeyState.signingKey_seed
    {bytes : List UInt8}
    (notHsm : backendName library env ≠ "hsm")
    (parsed : parseSeed env.seed = .ok bytes)
    (seeded : state.Seeded library env (library.ofSeed bytes)) :
    ∃ next : KeyState Key,
      state.signingKey library env fresh =
          (seedKey (library.ofSeed bytes), next) ∧
        next.Seeded library env (library.ofSeed bytes) := by
  cases cached : state.sk with
  | some made =>
      refine ⟨state, ?_, seeded⟩
      simp only [KeyState.signingKey, cached, seeded.sk made cached, seedKey]
  | none =>
      have made :=
        @KeyStore.signingKey_seed Key library env fresh bytes _ parsed
          (KeyState.keyStore_seed notHsm seeded)
      refine
        ⟨{ state with
            store := some (.envSeed (library.ofSeed bytes))
            sk := (seedKey (library.ofSeed bytes)).toOption },
          by simp only [KeyState.signingKey, cached, made], ?_, ?_, seeded.kid⟩
      · intro store stored
        cases stored
        exact .inr rfl
      · intro key isKey
        cases found : library.ofSeed bytes with
        | none =>
            rw [found] at isKey
            cases isKey
        | some key' =>
            rw [found] at isKey
            exact isKey

/-- `kid` in a process with this seed. -/
theorem KeyStore.kid_seed
    {bytes : List UInt8}
    {store : KeyStore Key}
    (parsed : parseSeed env.seed = .ok bytes)
    (seeded :
      store = .envSeed none ∨ store = .envSeed (library.ofSeed bytes)) :
    ∃ next : KeyStore Key,
      store.kid library env fresh =
          (seedKid library env (library.ofSeed bytes), next) ∧
        (next = .envSeed none ∨ next = .envSeed (library.ofSeed bytes)) := by
  have made :=
    @KeyStore.signingKey_seed Key library env fresh bytes store parsed seeded
  have isEnv : ∃ held, store = .envSeed held := by
    rcases seeded with rfl | rfl <;> exact ⟨_, rfl⟩
  obtain ⟨held, rfl⟩ := isEnv
  unfold seedKid
  by_cases explicit : strip env.keyId ≠ ""
  · refine ⟨_, ?_, seeded⟩
    simp only [KeyStore.kid, if_pos explicit]
  · refine ⟨_, ?_, .inr rfl⟩
    simp only [KeyStore.kid, if_neg explicit, made]

/-- `key_id` in a process with this seed. -/
theorem KeyState.keyId_seed
    {bytes : List UInt8}
    (notHsm : backendName library env ≠ "hsm")
    (parsed : parseSeed env.seed = .ok bytes)
    (seeded : state.Seeded library env (library.ofSeed bytes)) :
    ∃ next : KeyState Key,
      state.keyId library env fresh =
          (seedKid library env (library.ofSeed bytes), next) ∧
        next.Seeded library env (library.ofSeed bytes) := by
  cases cached : state.kid with
  | some kid =>
      refine ⟨state, ?_, seeded⟩
      simp only [KeyState.keyId, cached, seeded.kid kid cached]
  | none =>
      obtain ⟨next, made, isSeeded⟩ :=
        @KeyStore.kid_seed Key library env fresh bytes _ parsed
          (KeyState.keyStore_seed notHsm seeded)
      refine
        ⟨{ state with
            store := some next
            kid := (seedKid library env (library.ofSeed bytes)).toOption },
          by simp only [KeyState.keyId, cached, made], ?_, seeded.sk, ?_⟩
      · intro store stored
        cases stored
        exact isSeeded
      · intro kid isKid
        cases found : seedKid library env (library.ofSeed bytes) with
        | error exception =>
            rw [found] at isKid
            cases isKid
        | ok kid' =>
            rw [found] at isKid
            cases isKid
            rfl

/-- A call in a process with this seed. -/
theorem answer_seed
    {bytes : List UInt8}
    (notHsm : backendName library env ≠ "hsm")
    (parsed : parseSeed env.seed = .ok bytes)
    (seeded : state.Seeded library env (library.ofSeed bytes))
    (call : KeyCall) :
    ∃ next : KeyState Key,
      answer library env fresh state call =
          (seedAnswer library env (library.ofSeed bytes) call, next) ∧
        next.Seeded library env (library.ofSeed bytes) := by
  obtain ⟨next, made, isSeeded⟩ :=
    @KeyState.signingKey_seed Key library env fresh state bytes notHsm parsed
      seeded
  cases call with
  | signObj text =>
      refine ⟨next, ?_, isSeeded⟩
      simp only [answer, seedAnswer, made]
      cases library.ofSeed bytes <;> rfl
  | verifyObj text hex given =>
      cases decoded : fromHex hex.toList with
      | none =>
          refine ⟨state, ?_, seeded⟩
          simp only [answer, seedAnswer, decoded]
      | some sig =>
          by_cases isGiven : given ≠ ""
          · refine ⟨state, ?_, seeded⟩
            simp only [answer, seedAnswer, decoded, if_pos isGiven]
            cases fromHex given.toList <;> rfl
          · refine ⟨next, ?_, isSeeded⟩
            simp only [answer, seedAnswer, decoded, if_neg isGiven, made]
            cases library.ofSeed bytes <;> rfl
  | pubkeyHex =>
      refine ⟨next, ?_, isSeeded⟩
      simp only [answer, seedAnswer, made]
      cases library.ofSeed bytes <;> rfl
  | keyId =>
      obtain ⟨next, made, isSeeded⟩ :=
        @KeyState.keyId_seed Key library env fresh state bytes notHsm parsed
          seeded
      refine ⟨next, ?_, isSeeded⟩
      simp only [answer, seedAnswer, made]
      cases seedKid library env (library.ofSeed bytes) <;> rfl

/-- The calls of a process with this seed. -/
theorem keyRun_seed
    {bytes : List UInt8}
    (notHsm : backendName library env ≠ "hsm")
    (parsed : parseSeed env.seed = .ok bytes)
    (seeded : state.Seeded library env (library.ofSeed bytes))
    (requests : List (KeyRequest Key))
    (stays : ∀ request ∈ requests, request.env = env) :
    (keyRun library state requests).1 =
      requests.map fun request =>
        (request.call,
          seedAnswer library env (library.ofSeed bytes) request.call) := by
  induction requests generalizing state with
  | nil => rfl
  | cons request rest inductionHypothesis =>
      obtain ⟨next, answered, isSeeded⟩ :=
        @answer_seed Key library env request.fresh state bytes notHsm parsed
          seeded request.call
      have later :=
        inductionHypothesis isSeeded
          (fun other inRest => stays other (List.mem_cons_of_mem _ inRest))
      have isEnv := stays request List.mem_cons_self
      simp only [keyRun, isEnv, answered, later, List.map_cons]

end

/-! ## Boot and the runs after it -/

/--
Outside development, a process that has passed the check at boot has a key from
its seed exactly if there is no white space inside the seed, and it answers every
call of every run by that key.  With white space the bytes are too few: each call
that signs or shows the public key raises, and no signature is valid for it.
-/
theorem boot_decides_keys
    (library : KeyLibrary Key)
    (env : KeyVariables)
    (production : env.allowDev = false)
    (booted : requireProductionSecrets library env = .ok ()) :
    ∃ bytes,
      parseSeed env.seed = .ok bytes ∧
        ((library.ofSeed bytes).isSome = true ↔
          ∀ char ∈ (strip env.seed).toList, isHexSpace char = false) ∧
        ∀ requests : List (KeyRequest Key),
          (∀ request ∈ requests, request.env = env) →
            (keyRun library .start requests).1 =
              requests.map fun request =>
                (request.call,
                  seedAnswer library env (library.ofSeed bytes)
                    request.call) := by
  obtain ⟨⟨bytes, parsed⟩, notHsm⟩ :=
    requireProductionSecrets_ok production booted
  refine ⟨bytes, parsed, ofSeed_isSome_iff parsed, ?_⟩
  intro requests stays
  have seeded :
      (.start : KeyState Key).Seeded library env (library.ofSeed bytes) := by
    refine ⟨?_, ?_, ?_⟩ <;>
      · intro value cached
        cases cached
  exact keyRun_seed notHsm parsed seeded requests stays

/-- Keys of which nothing is asked: there is none for a seed with white space. -/
def seedLibrary : KeyLibrary Unit where
  ofSeed seed := if seed.length = 32 then some () else none
  ofSeed_isSome seed := by split <;> simp [*]
  verifyKey _ := []
  pubkeyHex _ := ""
  fromHex_pubkeyHex _ := by decide
  sign _ _ := ""
  sign_hex _ _ := by decide
  verify _ _ _ := true
  verify_sign _ _ _ _ := rfl
  digest text := text
  lower text := .ofList (text.toList.map Char.toLower)

/-- 62 digits and two blanks. -/
def spacedSeed : String :=
  .ofList (List.replicate 30 'a' ++ [' ', ' '] ++ List.replicate 32 'b')

/-- Variables that pass the check at boot. -/
def spacedVariables : KeyVariables where
  allowDev := false
  seed := spacedSeed
  pepper := "pepper"
  backend := ""
  keyId := "k-2026"

/-- White space inside a seed is not stripped. -/
theorem strip_spacedSeed : strip spacedSeed = spacedSeed := by
  unfold strip spacedSeed
  rw [String.toList_ofList]
  simp [List.replicate, isSpace]

/-- Its bytes are one short. -/
theorem parseSeed_spacedSeed :
    parseSeed spacedSeed =
      .ok (List.replicate 15 0xaa ++ List.replicate 16 0xbb) := by
  have length : spacedSeed.length = 64 := by
    unfold spacedSeed
    rw [String.length_ofList]
    simp
  have decoded :
      fromHex spacedSeed.toList =
        some (List.replicate 15 0xaa ++ List.replicate 16 0xbb) := by
    unfold spacedSeed
    rw [String.toList_ofList]
    rfl
  simp only [parseSeed, strip_spacedSeed, length, decoded, ne_eq,
    not_true_eq_false, if_false]

/-- A process that has passed the check and cannot sign. -/
theorem boot_decides_keys_example :
    requireProductionSecrets seedLibrary spacedVariables = .ok () ∧
      (keyRun seedLibrary .start
          [⟨spacedVariables, (), .keyId⟩, ⟨spacedVariables, (), .signObj []⟩]).1 =
        [(.keyId, .kid "k-2026"), (.signObj [], .raised .valueError)] := by
  have booted :
      requireProductionSecrets seedLibrary spacedVariables = .ok () := by
    have pepper : ¬ strip spacedVariables.pepper = "" := by decide +kernel
    have backend : ¬ backendName seedLibrary spacedVariables = "hsm" := by
      decide +kernel
    have parsed :
        parseSeed spacedVariables.seed =
          .ok (List.replicate 15 0xaa ++ List.replicate 16 0xbb) :=
      parseSeed_spacedSeed
    unfold requireProductionSecrets
    rw [parsed, if_neg backend, if_neg pepper]
    rfl
  obtain ⟨bytes, parsed, made, runs⟩ :=
    boot_decides_keys seedLibrary spacedVariables rfl booted
  refine ⟨booted, ?_⟩
  have noKey : seedLibrary.ofSeed bytes = none := by
    cases parseSeed_spacedSeed.symm.trans parsed
    rfl
  have stays :
      ∀ request ∈
          [(⟨spacedVariables, (), .keyId⟩ : KeyRequest Unit),
            ⟨spacedVariables, (), .signObj []⟩],
        request.env = spacedVariables := by
    simp
  have kid :
      seedKid seedLibrary spacedVariables none = .ok "k-2026" := by
    decide +kernel
  rw [runs _ stays, noKey]
  simp only [List.map_cons, List.map_nil, seedAnswer, kid, seedKey]

end Boot

end Crossing
