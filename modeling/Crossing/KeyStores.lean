import Crossing.JsonReader
import Crossing.Policy

namespace Crossing

open Python.Json (hexDigit?)

/-!
# The key of a process

`crypto.py` keeps the key store, the signing key and the key id of a process in
caches, and reads the environment wherever one of them is empty.  Whatever the
environment is at each call, a process signs and verifies with one key and shows
one key id.
-/

/-! ## Seeds -/

/-- White space that `bytes.fromhex` skips. -/
def isHexSpace (char : Char) : Bool :=
  char ∈ [' ', '\t', '\n', '\x0b', '\x0c', '\r']

/-- `bytes.fromhex`; `none` stands for `ValueError`. -/
def fromHex : List Char → Option (List UInt8)
  | [] => some []
  | char :: rest =>
      if isHexSpace char then
        fromHex rest
      else
        match rest with
        | [] => none
        | next :: rest => do
            let high ← hexDigit? char
            let low ← hexDigit? next
            let bytes ← fromHex rest
            some (.ofNat (16 * high + low) :: bytes)

/-- What the functions of `crypto.py` raise. -/
inductive KeyError where
  | productionConfig (text : String)
  | valueError
  deriving Repr, DecidableEq

/-- `_parse_seed`. -/
def parseSeed (raw : String) : Except KeyError (List UInt8) :=
  let raw := strip raw
  if raw.length ≠ 64 then
    .error
      (.productionConfig "CROSSING_ED25519_SEED must be 64 hex characters")
  else
    match fromHex raw.toList with
    | some bytes => .ok bytes
    | none =>
        .error
          (.productionConfig "CROSSING_ED25519_SEED must be 64 hex characters")

/-! ## Keys and their stores -/

/-- The variables that `crypto.py` reads; one that is not set is empty. -/
structure KeyVariables where
  allowDev : Bool
  seed : String
  pepper : String
  backend : String
  keyId : String

/--
Ed25519 keys, SHA-256 and `str.lower`.  A key is made of 32 bytes; signatures and
public keys are shown in hexadecimal digits; `verify` is false where the library
raises.
-/
structure KeyLibrary (Key : Type) where
  ofSeed : List UInt8 → Option Key
  ofSeed_isSome : ∀ seed, (ofSeed seed).isSome = true ↔ seed.length = 32
  verifyKey : Key → List UInt8
  pubkeyHex : Key → String
  fromHex_pubkeyHex : ∀ key, fromHex (pubkeyHex key).toList = some (verifyKey key)
  sign : Key → List Char → String
  sign_hex : ∀ key text, (fromHex (sign key text).toList).isSome = true
  verify : List UInt8 → List Char → List UInt8 → Bool
  verify_sign :
    ∀ key text bytes, fromHex (sign key text).toList = some bytes →
      verify (verifyKey key) text bytes = true
  digest : String → String
  lower : String → String

section

variable {Key : Type} (library : KeyLibrary Key) (env : KeyVariables)

/-- The name of the backend. -/
def backendName : String :=
  library.lower (strip (if env.backend = "" then "env" else env.backend))

/-- `require_production_secrets`. -/
def requireProductionSecrets : Except KeyError Unit := do
  if env.allowDev then
    .ok ()
  else
    let _ ← parseSeed env.seed
    if strip env.pepper = "" then
      .error
        (.productionConfig
          "CROSSING_KEY_PEPPER is required unless CROSSING_ALLOW_DEV=1")
    else if backendName library env = "hsm" then
      .error
        (.productionConfig
          "CROSSING_KEY_BACKEND=hsm is not wired; keep env seed for beta or implement KeyStore")
    else
      .ok ()

/-- A key store: `EnvSeedKeyStore` with its `_sk`, or `HsmKeyStore`. -/
inductive KeyStore (Key : Type) where
  | envSeed (held : Option Key)
  | hsm
  deriving Repr, DecidableEq

namespace KeyStore

/-- `signing_key` of a store; `fresh` is what `SigningKey.generate` draws. -/
def signingKey (fresh : Key) : KeyStore Key → Except KeyError Key × KeyStore Key
  | .hsm => (.error (.productionConfig "HSM key store is not implemented"), .hsm)
  | .envSeed (some key) => (.ok key, .envSeed (some key))
  | .envSeed none =>
      if env.seed ≠ "" then
        match parseSeed env.seed with
        | .error exception => (.error exception, .envSeed none)
        | .ok seed =>
            match library.ofSeed seed with
            | none => (.error .valueError, .envSeed none)
            | some key => (.ok key, .envSeed (some key))
      else if env.allowDev then
        (.ok fresh, .envSeed (some fresh))
      else
        (.error
            (.productionConfig
              "CROSSING_ED25519_SEED is required unless CROSSING_ALLOW_DEV=1"),
          .envSeed none)

/-- `kid` of a store. -/
def kid (fresh : Key) (store : KeyStore Key) :
    Except KeyError String × KeyStore Key :=
  match store with
  | .hsm => (.error (.productionConfig "HSM key store is not implemented"), .hsm)
  | .envSeed _ =>
      let explicit := strip env.keyId
      if explicit ≠ "" then
        (.ok (.ofList (explicit.toList.take 64)), store)
      else
        let (key, store) := store.signingKey library env fresh
        (key.map fun key =>
            "k1-" ++
              .ofList ((library.digest (library.pubkeyHex key)).toList.take 12),
          store)

end KeyStore

/-- `_state` of `crypto.py`; `vk` is the public key of `sk`. -/
structure KeyState (Key : Type) where
  store : Option (KeyStore Key)
  sk : Option Key
  kid : Option String
  deriving Repr, DecidableEq

namespace KeyState

/-- A process that has just started. -/
def start : KeyState Key where
  store := none
  sk := none
  kid := none

/-- `key_store`. -/
def keyStore (state : KeyState Key) : KeyStore Key :=
  match state.store with
  | some store => store
  | none =>
      if backendName library env = "hsm" then .hsm else .envSeed none

/-- `signing_key`. -/
def signingKey (fresh : Key) (state : KeyState Key) :
    Except KeyError Key × KeyState Key :=
  match state.sk with
  | some key => (.ok key, state)
  | none =>
      let (key, store) :=
        (state.keyStore library env).signingKey library env fresh
      (key, { state with store := some store, sk := key.toOption })

/-- `key_id`. -/
def keyId (fresh : Key) (state : KeyState Key) :
    Except KeyError String × KeyState Key :=
  match state.kid with
  | some kid => (.ok kid, state)
  | none =>
      let (kid, store) := (state.keyStore library env).kid library env fresh
      (kid, { state with store := some store, kid := kid.toOption })

end KeyState

/-! ## Calls -/

/--
The calls of other modules, on texts of `canonical_dumps`.  The public key of
`verify_obj` is empty where the caller gives none.
-/
inductive KeyCall where
  | signObj (text : List Char)
  | verifyObj (text : List Char) (signatureHex pubkeyHexStr : String)
  | pubkeyHex
  | keyId
  deriving Repr, DecidableEq

/-- What a call returns or raises. -/
inductive KeyAnswer where
  | signature (hex : String)
  | verified (valid : Bool)
  | pubkey (hex : String)
  | kid (kid : String)
  | raised (exception : KeyError)
  deriving Repr, DecidableEq

/-- A call, in its environment. -/
def answer (fresh : Key) (state : KeyState Key) :
    KeyCall → KeyAnswer × KeyState Key
  | .signObj text =>
      match state.signingKey library env fresh with
      | (.ok key, state) => (.signature (library.sign key text), state)
      | (.error exception, state) => (.raised exception, state)
  | .verifyObj text signatureHex pubkeyHexStr =>
      match fromHex signatureHex.toList with
      | none => (.verified false, state)
      | some sig =>
          if pubkeyHexStr ≠ "" then
            match fromHex pubkeyHexStr.toList with
            | none => (.verified false, state)
            | some vk => (.verified (library.verify vk text sig), state)
          else
            match state.signingKey library env fresh with
            | (.ok key, state) =>
                (.verified (library.verify (library.verifyKey key) text sig),
                  state)
            -- `verify_obj` takes a `ValueError` for a signature that is not valid.
            | (.error .valueError, state) => (.verified false, state)
            | (.error exception, state) => (.raised exception, state)
  | .pubkeyHex =>
      match state.signingKey library env fresh with
      | (.ok key, state) => (.pubkey (library.pubkeyHex key), state)
      | (.error exception, state) => (.raised exception, state)
  | .keyId =>
      match state.keyId library env fresh with
      | (.ok kid, state) => (.kid kid, state)
      | (.error exception, state) => (.raised exception, state)

end

/-- A call with the environment that it meets and the key it would draw. -/
structure KeyRequest (Key : Type) where
  env : KeyVariables
  fresh : Key
  call : KeyCall

/-- The calls of a process with their answers, and the state they leave. -/
def keyRun {Key : Type} (library : KeyLibrary Key) :
    KeyState Key → List (KeyRequest Key) →
      List (KeyCall × KeyAnswer) × KeyState Key
  | state, [] => ([], state)
  | state, request :: rest =>
      let (answered, next) :=
        answer library request.env request.fresh state request.call
      let (later, last) := keyRun library next rest
      ((request.call, answered) :: later, last)

/-! ## One key -/

section OneKey

variable
  {Key : Type}
  {library : KeyLibrary Key}
  {env : KeyVariables}
  {fresh key : Key}
  {state state' : KeyState Key}

/-- The key that a store holds. -/
def KeyStore.held : KeyStore Key → Option Key
  | .envSeed held => held
  | .hsm => none

/-- The key that the store of a process holds. -/
def KeyState.held (state : KeyState Key) : Option Key :=
  state.store.bind KeyStore.held

/-- The cached key is the one that the store holds. -/
def KeyState.Coherent (state : KeyState Key) : Prop :=
  ∀ key, state.sk = some key → state.held = some key

/-- What a call leaves: the same key and the same key id, if there were any. -/
structure KeyState.Next (state state' : KeyState Key) : Prop where
  coherent : state'.Coherent
  held : ∀ key, state.held = some key → state'.held = some key
  kid : ∀ kid, state.kid = some kid → state'.kid = some kid

/-- Nothing has happened. -/
theorem KeyState.Next.refl (coherent : state.Coherent) :
    KeyState.Next state state :=
  ⟨coherent, fun _ held => held, fun _ kid => kid⟩

/-- A store with a key goes on with it. -/
theorem KeyStore.signingKey_held
    {store : KeyStore Key}
    (held : store.held = some key) :
    store.signingKey library env fresh = (.ok key, store) := by
  cases store with
  | hsm => cases held
  | envSeed held' =>
      cases held
      rfl

/-- A store that returns a key holds it from then on. -/
theorem KeyStore.signingKey_ok
    {store store' : KeyStore Key}
    (returned : store.signingKey library env fresh = (.ok key, store')) :
    store'.held = some key := by
  cases store with
  | hsm => cases returned
  | envSeed held =>
      cases held with
      | some held =>
          cases returned
          rfl
      | none =>
          simp only [KeyStore.signingKey] at returned
          split at returned
          · split at returned
            · cases returned
            · split at returned
              · cases returned
              · cases returned
                rfl
          · split at returned
            · cases returned
              rfl
            · cases returned

/-- The store of a process holds the key of the process. -/
theorem KeyState.held_keyStore
    (held : state.held = some key) :
    (state.keyStore library env).held = some key := by
  unfold KeyState.held at held
  unfold KeyState.keyStore
  cases stored : state.store with
  | none =>
      rw [stored] at held
      cases held
  | some store =>
      rw [stored] at held
      exact held

/-- A process that has a key returns it. -/
theorem KeyState.signingKey_held
    (coherent : state.Coherent)
    (held : state.held = some key) :
    (state.signingKey library env fresh).1 = .ok key := by
  unfold KeyState.signingKey
  cases cached : state.sk with
  | some cachedKey =>
      have same := (coherent cachedKey cached).symm.trans held
      cases same
      rfl
  | none =>
      simp only [KeyStore.signingKey_held (KeyState.held_keyStore held)]

/-- A process that returns a key has it from then on. -/
theorem KeyState.signingKey_ok
    (coherent : state.Coherent)
    (returned : state.signingKey library env fresh = (.ok key, state')) :
    state'.held = some key := by
  unfold KeyState.signingKey at returned
  cases cached : state.sk with
  | some cachedKey =>
      rw [cached] at returned
      cases returned
      exact coherent key cached
  | none =>
      rw [cached] at returned
      cases made :
          (state.keyStore library env).signingKey library env fresh with
      | mk outcome store =>
          simp only [made] at returned
          cases returned
          exact KeyStore.signingKey_ok made

/-- `signing_key` keeps the key and the key id. -/
theorem KeyState.signingKey_next
    (coherent : state.Coherent) :
    KeyState.Next state (state.signingKey library env fresh).2 := by
  cases cached : state.sk with
  | some cachedKey =>
      unfold KeyState.signingKey
      rw [cached]
      exact .refl coherent
  | none =>
      cases made :
          (state.keyStore library env).signingKey library env fresh with
      | mk outcome store =>
          have left :
              (state.signingKey library env fresh).2 =
                { state with store := some store, sk := outcome.toOption } := by
            simp only [KeyState.signingKey, cached, made]
          rw [left]
          refine ⟨?_, ?_, fun _ kid => kid⟩
          · intro key isKey
            cases outcome with
            | error exception => cases isKey
            | ok made' =>
                cases isKey
                exact KeyStore.signingKey_ok made
          · intro key held
            have same :=
              made.symm.trans
                (KeyStore.signingKey_held
                  (KeyState.held_keyStore held))
            cases same
            exact KeyState.held_keyStore held

/-- `kid` leaves the key of a store. -/
theorem KeyStore.kid_held
    {store : KeyStore Key}
    (held : store.held = some key) :
    (store.kid library env fresh).2.held = some key := by
  cases store with
  | hsm => cases held
  | envSeed stored =>
      simp only [KeyStore.kid, KeyStore.signingKey_held held]
      split <;> exact held

/-- `key_id` keeps the key and the key id. -/
theorem KeyState.keyId_next
    (coherent : state.Coherent) :
    KeyState.Next state (state.keyId library env fresh).2 := by
  cases cached : state.kid with
  | some kid =>
      unfold KeyState.keyId
      rw [cached]
      exact .refl coherent
  | none =>
      have held
          (key : Key)
          (held : state.held = some key) :
          (state.keyId library env fresh).2.held = some key := by
        simp only [KeyState.keyId, cached]
        exact KeyStore.kid_held (KeyState.held_keyStore held)
      refine ⟨?_, held, ?_⟩
      · intro key isKey
        simp only [KeyState.keyId, cached] at isKey
        exact held key (coherent key isKey)
      · intro kid isKid
        cases cached.symm.trans isKid

/-- A key id that is returned is kept. -/
theorem KeyState.keyId_ok
    {kid : String}
    (returned : state.keyId library env fresh = (.ok kid, state')) :
    state'.kid = some kid := by
  cases cached : state.kid with
  | some cachedKid =>
      simp only [KeyState.keyId, cached] at returned
      cases returned
      exact cached
  | none =>
      simp only [KeyState.keyId, cached, Prod.mk.injEq] at returned
      obtain ⟨isKid, rfl⟩ := returned
      simp only [isKid]
      rfl

/-- The answer is that of a process with this key and this key id. -/
def KeyAnswer.Fits
    (library : KeyLibrary Key)
    (held : Option Key)
    (kid : Option String) :
    KeyCall → KeyAnswer → Prop
  | .signObj text, .signature hex =>
      ∃ key, held = some key ∧ hex = library.sign key text
  | .verifyObj text hex given, .verified true =>
      ∃ sig vk,
        fromHex hex.toList = some sig ∧ library.verify vk text sig = true ∧
          (given ≠ "" → fromHex given.toList = some vk) ∧
            (given = "" → ∃ key, held = some key ∧ vk = library.verifyKey key)
  | .verifyObj _ _ _, .verified false => True
  | .pubkeyHex, .pubkey hex =>
      ∃ key, held = some key ∧ hex = library.pubkeyHex key
  | .keyId, .kid shown => kid = some shown
  | _, .raised _ => True
  | _, _ => False

/-- An answer fits as long as the key and the key id are kept. -/
theorem KeyAnswer.Fits.later
    {call : KeyCall}
    {answered : KeyAnswer}
    (fits : KeyAnswer.Fits library state.held state.kid call answered)
    (next : KeyState.Next state state') :
    KeyAnswer.Fits library state'.held state'.kid call answered := by
  unfold KeyAnswer.Fits at fits ⊢
  split at fits
  · obtain ⟨key, held, rest⟩ := fits
    exact ⟨key, next.held key held, rest⟩
  · obtain ⟨sig, vk, decoded, valid, isGiven, isHeld⟩ := fits
    refine ⟨sig, vk, decoded, valid, isGiven, ?_⟩
    intro notGiven
    obtain ⟨key, held, isKey⟩ := isHeld notGiven
    exact ⟨key, next.held key held, isKey⟩
  · trivial
  · obtain ⟨key, held, rest⟩ := fits
    exact ⟨key, next.held key held, rest⟩
  · exact next.kid _ fits
  · trivial
  · exact fits.elim

/-- A call keeps the key and the key id, and its answer fits them. -/
theorem answer_fits
    (coherent : state.Coherent)
    (call : KeyCall) :
    KeyState.Next state (answer library env fresh state call).2 ∧
      KeyAnswer.Fits library (answer library env fresh state call).2.held
        (answer library env fresh state call).2.kid call
        (answer library env fresh state call).1 := by
  have next := @KeyState.signingKey_next Key library env fresh state coherent
  cases call with
  | signObj text =>
      cases made : state.signingKey library env fresh with
      | mk outcome state' =>
          rw [made] at next
          cases outcome with
          | error exception =>
              simp only [answer, made]
              exact ⟨next, trivial⟩
          | ok key =>
              simp only [answer, made]
              exact ⟨next, key, KeyState.signingKey_ok coherent made, rfl⟩
  | verifyObj text hex given =>
      cases decoded : fromHex hex.toList with
      | none =>
          simp only [answer, decoded]
          exact ⟨.refl coherent, trivial⟩
      | some sig =>
          by_cases isGiven : given ≠ ""
          · cases readKey : fromHex given.toList with
            | none =>
                simp only [answer, decoded, if_pos isGiven, readKey]
                exact ⟨.refl coherent, trivial⟩
            | some vk =>
                simp only [answer, decoded, if_pos isGiven, readKey]
                refine ⟨.refl coherent, ?_⟩
                cases valid : library.verify vk text sig with
                | false => trivial
                | true =>
                    exact ⟨sig, vk, decoded, valid, fun _ => readKey,
                      fun notGiven => absurd notGiven isGiven⟩
          · cases made : state.signingKey library env fresh with
            | mk outcome state' =>
                rw [made] at next
                cases outcome with
                | error exception =>
                    cases exception <;>
                      simp only [answer, decoded, if_neg isGiven, made] <;>
                      exact ⟨next, trivial⟩
                | ok key =>
                    simp only [answer, decoded, if_neg isGiven, made]
                    refine ⟨next, ?_⟩
                    cases valid :
                        library.verify (library.verifyKey key) text sig with
                    | false => trivial
                    | true =>
                        exact ⟨sig, library.verifyKey key, decoded, valid,
                          fun given => absurd given isGiven,
                          fun _ =>
                            ⟨key, KeyState.signingKey_ok coherent made, rfl⟩⟩
  | pubkeyHex =>
      cases made : state.signingKey library env fresh with
      | mk outcome state' =>
          rw [made] at next
          cases outcome with
          | error exception =>
              simp only [answer, made]
              exact ⟨next, trivial⟩
          | ok key =>
              simp only [answer, made]
              exact ⟨next, key, KeyState.signingKey_ok coherent made, rfl⟩
  | keyId =>
      have nextKid := @KeyState.keyId_next Key library env fresh state coherent
      cases made : state.keyId library env fresh with
      | mk outcome state' =>
          rw [made] at nextKid
          cases outcome with
          | error exception =>
              simp only [answer, made]
              exact ⟨nextKid, trivial⟩
          | ok kid =>
              simp only [answer, made]
              exact ⟨nextKid, KeyState.keyId_ok made⟩

/-- What is kept twice is kept. -/
theorem KeyState.Next.trans
    {state'' : KeyState Key}
    (first : KeyState.Next state state')
    (second : KeyState.Next state' state'') :
    KeyState.Next state state'' where
  coherent := second.coherent
  held key held := second.held key (first.held key held)
  kid kid isKid := second.kid kid (first.kid kid isKid)

/-- The calls of a run keep the key, and all their answers fit it. -/
theorem keyRun_fits
    (coherent : state.Coherent)
    (requests : List (KeyRequest Key)) :
    KeyState.Next state (keyRun library state requests).2 ∧
      ∀ entry ∈ (keyRun library state requests).1,
        KeyAnswer.Fits library (keyRun library state requests).2.held
          (keyRun library state requests).2.kid entry.1 entry.2 := by
  induction requests generalizing state with
  | nil =>
      refine ⟨.refl coherent, ?_⟩
      intro entry member
      cases member
  | cons request rest inductionHypothesis =>
      obtain ⟨next, fits⟩ :=
        @answer_fits Key library request.env request.fresh state coherent
          request.call
      obtain ⟨later, others⟩ := inductionHypothesis next.coherent
      refine ⟨next.trans later, ?_⟩
      intro entry member
      rcases List.mem_cons.mp member with rfl | inRest
      · exact fits.later later
      · exact others entry inRest

/--
A process has one key and shows one key id: in every run of calls, whatever the
environment is at each of them, all signatures are of the key that the process
ends with, all public keys are its, all key ids are one, and what was signed in
the run is verified after it, in any environment, with the key of the process and
with every public key that the run has shown.
-/
theorem one_key_per_process
    (library : KeyLibrary Key)
    (requests : List (KeyRequest Key)) :
    (∀ entry ∈ (keyRun library .start requests).1,
        KeyAnswer.Fits library (keyRun library .start requests).2.held
          (keyRun library .start requests).2.kid entry.1 entry.2) ∧
      ∀ text hex,
        (.signObj text, .signature hex) ∈
            (keyRun library .start requests).1 →
          ∀ env fresh given,
            given = "" ∨
                (.pubkeyHex, .pubkey given) ∈
                  (keyRun library .start requests).1 →
              (answer library env fresh (keyRun library .start requests).2
                (.verifyObj text hex given)).1 =
                .verified true := by
  have coherent : (.start : KeyState Key).Coherent := by
    intro key cached
    cases cached
  obtain ⟨next, fits⟩ := keyRun_fits coherent requests
  refine ⟨fits, ?_⟩
  intro text hex signed env fresh given known
  obtain ⟨key, held, rfl⟩ := fits _ signed
  obtain ⟨sig, decoded⟩ :=
    Option.isSome_iff_exists.mp (library.sign_hex key text)
  have valid := library.verify_sign key text sig decoded
  by_cases isGiven : given ≠ ""
  · have shown := known.resolve_left isGiven
    obtain ⟨key', held', rfl⟩ := fits _ shown
    cases held.symm.trans held'
    simp only [answer, decoded, if_pos isGiven, library.fromHex_pubkeyHex, valid]
  · have made :=
      @KeyState.signingKey_held Key library env fresh key _ next.coherent held
    cases result :
        (keyRun library .start requests).2.signingKey library env fresh with
    | mk outcome state' =>
        rw [result] at made
        cases made
        simp only [answer, decoded, if_neg isGiven, result, valid]

end OneKey

/-- Two keys, whose signatures are their public keys. -/
def drawnKeys : KeyLibrary Bool where
  ofSeed seed := if seed.length = 32 then some (seed.head? = some 0) else none
  ofSeed_isSome seed := by split <;> simp [*]
  verifyKey key := if key then [0xaa] else [0xbb]
  pubkeyHex key := if key then "aa" else "bb"
  fromHex_pubkeyHex key := by cases key <;> decide
  sign key _ := if key then "aa" else "bb"
  sign_hex key _ := by cases key <;> decide
  verify vk _ sig := vk = sig
  verify_sign key _ sig decoded := by
    have shown :
        fromHex (if key then "aa" else "bb").toList =
          some (if key then [0xaa] else [0xbb]) := by
      cases key <;> decide
    cases shown.symm.trans decoded
    exact decide_eq_true rfl
  digest text := text
  lower text := .ofList (text.toList.map Char.toLower)

/-- Variables of a developer, without a seed. -/
def seedless : KeyVariables where
  allowDev := true
  seed := ""
  pepper := ""
  backend := ""
  keyId := ""

/-- A signature, and then the key id and the public key in other environments. -/
def movedRequests : List (KeyRequest Bool) :=
  [⟨seedless, true, .signObj []⟩,
    ⟨{ seedless with backend := "hsm" }, false, .keyId⟩,
    ⟨{ seedless with allowDev := false }, false, .pubkeyHex⟩]

/--
The process goes on with the key that it drew first, where a process that starts
in the last environment has none.
-/
theorem one_key_per_process_example :
    (keyRun drawnKeys .start movedRequests).1 =
        [(.signObj [], .signature "aa"), (.keyId, .kid "k1-aa"),
          (.pubkeyHex, .pubkey "aa")] ∧
      (keyRun drawnKeys .start
          [⟨{ seedless with allowDev := false }, false, .pubkeyHex⟩]).1 =
        [(.pubkeyHex,
          .raised
            (.productionConfig
              "CROSSING_ED25519_SEED is required unless CROSSING_ALLOW_DEV=1"))] ∧
      ∀ env fresh,
        (answer drawnKeys env fresh (keyRun drawnKeys .start movedRequests).2
            (.verifyObj [] "aa" "aa")).1 =
          .verified true := by
  have answers :
      (keyRun drawnKeys .start movedRequests).1 =
        [(.signObj [], .signature "aa"), (.keyId, .kid "k1-aa"),
          (.pubkeyHex, .pubkey "aa")] := by
    decide +kernel
  refine ⟨answers, by decide +kernel, ?_⟩
  intro env fresh
  refine
    (one_key_per_process drawnKeys movedRequests).2 [] "aa" ?_ env fresh "aa"
      (.inr ?_) <;>
    simp [answers]

end Crossing
