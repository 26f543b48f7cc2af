import Crossing.KeyRuns
import Crossing.Runs

namespace Crossing

open Relational
open Relational.Transaction

/-!
# The life of a key

A secret is made of four parts that hold no underscore, so that its prefix can
be read off it again.  `KeySys.Sound` ties the rows of the table to the keys
that were issued and to the keys that were ended; together they say which
strings authenticate, and as whom.
-/

/-! ## Prefixes and secrets -/

section Secrets

variable {draw : SecretDraw}

/-- The two kinds of environments. -/
theorem envKind_cases (allowDev : Bool) :
    envKind allowDev = "test" ∨ envKind allowDev = "live" := by
  cases allowDev <;> simp [envKind]

/-- The parts of a secret that are joined by underscores. -/
def SecretDraw.parts (draw : SecretDraw) : List (List Char) :=
  ["cxk".toList, (envKind draw.allowDev).toList, draw.prefixToken.toList,
    draw.secretToken.toList]

/-- A secret joins its parts. -/
theorem secret_toList (draw : SecretDraw) :
    draw.secret.toList = ['_'].intercalate draw.parts := by
  simp [SecretDraw.secret, SecretDraw.keyPrefix, visiblePrefix,
    SecretDraw.parts, List.intercalate]

/-- A prefix joins the first three of them. -/
theorem keyPrefix_toList (draw : SecretDraw) :
    draw.keyPrefix.toList = ['_'].intercalate (draw.parts.take 3) := by
  simp [SecretDraw.keyPrefix, visiblePrefix, SecretDraw.parts,
    List.intercalate]

/-- Hexadecimal digits are no underscores. -/
theorem underscore_notMem_parts
    (isHex : draw.IsHex) :
    ∀ part ∈ draw.parts, '_' ∉ part := by
  have noDigit : '_' ∉ "0123456789abcdef".toList := by decide
  intro part member
  simp only [SecretDraw.parts, List.mem_cons, List.not_mem_nil, or_false]
    at member
  rcases member with rfl | rfl | rfl | rfl
  · decide
  · rcases envKind_cases draw.allowDev with kind | kind
    · rw [kind]
      decide
    · rw [kind]
      decide
  · intro underscore
    exact noDigit (isHex '_' (List.mem_append_left _ underscore))
  · intro underscore
    exact noDigit (isHex '_' (List.mem_append_right _ underscore))

/-- The prefix is read off a secret. -/
theorem parsePrefix_secret (isHex : draw.IsHex) :
    parsePrefix draw.secret = some draw.keyPrefix := by
  have split : draw.secret.toList.splitOn '_' = draw.parts := by
    rw [secret_toList]
    exact List.splitOn_intercalate '_' (underscore_notMem_parts isHex)
      (by simp [SecretDraw.parts])
  have joined :
      "_".intercalate ["cxk", envKind draw.allowDev, draw.prefixToken] =
        draw.keyPrefix := by
    rw [← String.toList_inj]
    simp [SecretDraw.keyPrefix, visiblePrefix]
  unfold parsePrefix
  rw [split]
  simp only [SecretDraw.parts, List.map_cons, List.map_nil,
    String.ofList_toList]
  rw [joined, if_pos]
  refine ⟨trivial, ?_⟩
  rcases envKind_cases draw.allowDev with kind | kind <;> simp [kind]

/-- No drawn prefix is the one of the bootstrap key. -/
theorem keyPrefix_ne_bootstrap (isHex : draw.IsHex) :
    draw.keyPrefix ≠ bootstrapPrefix := by
  intro same
  have split : draw.keyPrefix.toList.splitOn '_' = draw.parts.take 3 := by
    rw [keyPrefix_toList]
    apply List.splitOn_intercalate '_' _ (by simp [SecretDraw.parts])
    intro part member
    exact underscore_notMem_parts isHex part (List.mem_of_mem_take member)
  have bootParts :
      bootstrapPrefix.toList.splitOn '_' =
        ["cxk".toList, "test".toList, "boot".toList] := by
    decide
  rw [same, bootParts] at split
  have token : draw.prefixToken.toList = "boot".toList := by
    simp only [SecretDraw.parts, List.take_succ_cons, List.take_zero,
      List.cons.injEq] at split
    exact split.2.2.1.symm
  have noDigit : 'o' ∉ "0123456789abcdef".toList := by decide
  apply noDigit
  apply isHex 'o'
  rw [token]
  exact List.mem_append_left _ (by decide)

/-- The bootstrap secret has no prefix. -/
theorem parsePrefix_bootstrapSecret : parsePrefix bootstrapSecret = none := by
  decide

end Secrets

/-! ## Operations -/

section Operations

variable
  {hashSecret : String → String}
  {view : Db}
  {keys keys' : Table ApiKey}
  {key : IssuedKey}

/-- An insert that is accepted had a fresh prefix and a fresh id. -/
theorem addKey_ok
    {row : ApiKey}
    {done : Unit}
    (returned : exec (addKey row) keys = (.ok done, keys')) :
    (∀ other ∈ keys.rows, other.visiblePrefix ≠ row.visiblePrefix) ∧
      keys.insert? row = some keys' := by
  obtain ⟨_, _, readRun, rest⟩ := bind_ok returned
  cases readRun
  obtain ⟨_, _, checkRun, rest⟩ := bind_ok rest
  obtain ⟨fresh, rfl⟩ := raiseWhen_ok checkRun
  obtain ⟨inserted, _, insertRun, setRun⟩ := bind_ok rest
  obtain ⟨accepted, rfl⟩ := orRaise_ok insertRun
  cases setRun
  refine ⟨?_, accepted⟩
  intro other member same
  exact fresh ⟨other, member, same⟩

/-- The row of a new key. -/
structure FreshKey
    (hashSecret : String → String)
    (keyPrefix secret : String)
    (newId : Id)
    (keys : Table ApiKey)
    (key : IssuedKey)
    (keys' : Table ApiKey) :
    Prop where
  isSecret : key.secret = secret
  isPrefix : key.record.visiblePrefix = keyPrefix
  hashed : key.record.secretHash = hashSecret secret
  isId : key.record.id = newId
  live : key.record.revokedAt = none
  fresh : ∀ other ∈ keys.rows, other.visiblePrefix ≠ keyPrefix
  inserted : keys.insert? key.record = some keys'

/-- What `issue_api_key` inserts and returns. -/
theorem issueKey_ok
    {accountId newId : Id}
    {kind keyPrefix secret : String}
    {scopes : Option (List String)}
    {expiresAt : Option Datetime}
    (returned :
      exec
          (issueKey hashSecret view accountId kind scopes expiresAt keyPrefix
            secret newId)
          keys =
        (.ok key, keys')) :
    FreshKey hashSecret keyPrefix secret newId keys key keys' ∧
      key.record.accountId = accountId ∧
      key.record.kind = kind ∧
      key.record.scopes = scopesJsonFor scopes kind ∧
      key.record.expiresAt = expiresAt := by
  obtain ⟨_, _, kindRun, rest⟩ := bind_ok returned
  obtain ⟨_, rfl⟩ := raiseWhen_ok kindRun
  obtain ⟨_, _, accountRun, rest⟩ := bind_ok rest
  obtain ⟨_, rfl⟩ := orRaise_ok accountRun
  obtain ⟨_, _, addRun, rest⟩ := bind_ok rest
  obtain ⟨fresh, inserted⟩ := addKey_ok addRun
  cases rest
  exact ⟨⟨rfl, rfl, rfl, rfl, rfl, fresh, inserted⟩, rfl, rfl, rfl, rfl⟩

/-- What `rotate_api_key` revokes, inserts and returns. -/
theorem rotateKey_ok
    {row : ApiKey}
    {draw : SecretDraw}
    (returned :
      exec (rotateKey hashSecret view row draw) keys = (.ok key, keys')) :
    FreshKey hashSecret draw.keyPrefix draw.secret draw.newId
        (keys.modify row.id fun stored =>
          { stored with revokedAt := some draw.now })
        key keys' ∧
      key.record.accountId = row.accountId ∧
      key.record.kind = row.kind ∧
      key.record.scopes = scopesJson row.scopes ∧
      key.record.expiresAt = none := by
  obtain ⟨record, rotated, rfl⟩ := map_ok returned
  obtain ⟨_, _, revokeRun, issueRun⟩ := bind_ok rotated
  cases revokeRun
  obtain ⟨_, _, kindRun, rest⟩ := bind_ok issueRun
  obtain ⟨_, rfl⟩ := raiseWhen_ok kindRun
  obtain ⟨_, _, accountRun, rest⟩ := bind_ok rest
  obtain ⟨_, rfl⟩ := orRaise_ok accountRun
  obtain ⟨_, _, addRun, rest⟩ := bind_ok rest
  obtain ⟨fresh, inserted⟩ := addKey_ok addRun
  cases rest
  exact ⟨⟨rfl, rfl, rfl, rfl, rfl, fresh, inserted⟩, rfl, rfl, rfl, rfl⟩

end Operations

/-! ## The invariant -/

/-- A stored row differs from what was issued in two columns only. -/
def ApiKey.StoredFrom (row record : ApiKey) : Prop :=
  row =
    { record with
      revokedAt := row.revokedAt
      lastUsedAt := row.lastUsedAt }

/-- The key of `ensure_bootstrap`. -/
def IssuedKey.IsBootstrap (key : IssuedKey) : Prop :=
  key.record.visiblePrefix = bootstrapPrefix

/-- The prefix, the secret and the hash of a key belong together. -/
structure IssuedKey.Shaped
    (hashSecret : String → String)
    (key : IssuedKey) :
    Prop where
  hashed : key.record.secretHash = hashSecret key.secret
  shape :
    key.IsBootstrap ∧ key.secret = bootstrapSecret ∨
      ∃ draw : SecretDraw,
        draw.IsHex ∧
          key.record.visiblePrefix = draw.keyPrefix ∧
          key.secret = draw.secret

/-- A key with the prefix of the bootstrap key has its secret. -/
theorem IssuedKey.Shaped.bootstrap
    {hashSecret : String → String}
    {key : IssuedKey}
    (shaped : key.Shaped hashSecret)
    (isBootstrap : key.IsBootstrap) :
    key.secret = bootstrapSecret := by
  rcases shaped.shape with ⟨_, isSecret⟩ | ⟨draw, isHex, isPrefix, _⟩
  · exact isSecret
  · exact (keyPrefix_ne_bootstrap isHex (isPrefix.symm.trans isBootstrap)).elim

/-- The prefix of any other key is read off its secret. -/
theorem IssuedKey.Shaped.parsePrefix
    {hashSecret : String → String}
    {key : IssuedKey}
    (shaped : key.Shaped hashSecret)
    (notBootstrap : ¬key.IsBootstrap) :
    Crossing.parsePrefix key.secret = some key.record.visiblePrefix := by
  rcases shaped.shape with ⟨isBootstrap, _⟩ | ⟨draw, isHex, isPrefix, isSecret⟩
  · exact (notBootstrap isBootstrap).elim
  · rw [isSecret, isPrefix]
    exact parsePrefix_secret isHex

/-- The stored keys are the issued ones, less what has ended them. -/
structure KeySys.Sound (hashSecret : String → String) (s : KeySys) :
    Prop where
  stored :
    ∀ key ∈ s.issued, ∃ row,
      s.keys.find key.record.id = some row ∧
        row.StoredFrom key.record ∧
        (row.revokedAt.isSome = true ↔ row.id ∈ s.ended)
  issued :
    ∀ row ∈ s.keys.rows, ∃ key ∈ s.issued, key.record.id = row.id
  ended : ∀ id ∈ s.ended, ∃ row, s.keys.find id = some row
  prefixes :
    ∀ row ∈ s.keys.rows, ∀ other ∈ s.keys.rows,
      row.visiblePrefix = other.visiblePrefix → row = other
  shaped : ∀ key ∈ s.issued, key.Shaped hashSecret

namespace KeySys

variable
  {hashSecret : String → String}
  {s s' : KeySys}
  {key : IssuedKey}

/-- Before the first key there is nothing to say. -/
theorem sound_start : start.Sound hashSecret where
  stored _ member := by cases member
  issued _ member := by cases member
  ended _ member := by cases member
  prefixes _ member := by cases member
  shaped _ member := by cases member

/-- A row that has changed twice in its two columns. -/
theorem storedFrom_trans
    {row row' record : ApiKey}
    (later : row'.StoredFrom row)
    (first : row.StoredFrom record) :
    row'.StoredFrom record := by
  unfold ApiKey.StoredFrom at *
  rw [later, first]

/-- A change of two columns of one row. -/
theorem Sound.modify
    {keyId : Id}
    {change : ApiKey → ApiKey}
    {ended : List Id}
    (sound : s.Sound hashSecret)
    (keeps : ∀ row, (change row).StoredFrom row)
    (endedRow : ∀ id ∈ ended, ∃ row, s.keys.find id = some row)
    (revoked :
      ∀ row,
        (row.revokedAt.isSome = true ↔ row.id ∈ s.ended) →
          ((if keyId = row.id then change row else row).revokedAt.isSome =
              true ↔
            row.id ∈ ended)) :
    Sound hashSecret
      { s with keys := s.keys.modify keyId change, ended := ended } := by
  have keepsId (row : ApiKey) : (change row).id = row.id := by
    rw [keeps row]
  have isFound (id : Id) :
      (s.keys.modify keyId change).find id =
        (s.keys.find id).map fun row =>
          if keyId = row.id then change row else row := by
    rw [Table.find_modify keepsId]
    cases found : s.keys.find id with
    | none => simp
    | some row =>
        have isId : row.id = id := Table.key_of_find found
        by_cases same : keyId = id
        · simp [same, isId]
        · simp [same, isId]
  have changed (row : ApiKey) :
      (if keyId = row.id then change row else row).StoredFrom row := by
    split
    · exact keeps row
    · rfl
  have before (row : ApiKey)
      (member : row ∈ (s.keys.modify keyId change).rows) :
      ∃ old ∈ s.keys.rows,
        old.id = row.id ∧
          row = if keyId = old.id then change old else old := by
    have found := Table.find_of_mem member
    rw [show Keyed.key row = row.id from rfl, isFound] at found
    obtain ⟨old, isOld, isRow⟩ := Option.map_eq_some_iff.mp found
    exact
      ⟨old, Table.mem_of_find isOld, Table.key_of_find isOld, isRow.symm⟩
  constructor
  · intro key isIssued
    obtain ⟨row, found, storedFrom, isRevoked⟩ := sound.stored key isIssued
    refine ⟨if keyId = row.id then change row else row, ?_, ?_, ?_⟩
    · rw [isFound, found]
      rfl
    · exact storedFrom_trans (changed row) storedFrom
    · rw [show (if keyId = row.id then change row else row).id = row.id by
        rw [changed row]]
      exact revoked row isRevoked
  · intro row member
    obtain ⟨old, isOld, sameId, _⟩ := before row member
    obtain ⟨key, isIssued, isId⟩ := sound.issued old isOld
    exact ⟨key, isIssued, isId.trans sameId⟩
  · intro id isEnded
    obtain ⟨row, found⟩ := endedRow id isEnded
    exact ⟨_, by rw [isFound, found]; rfl⟩
  · intro row member other member' samePrefix
    obtain ⟨old, isOld, _, rfl⟩ := before row member
    obtain ⟨old', isOld', _, rfl⟩ := before other member'
    rw [changed old, changed old'] at samePrefix
    rw [sound.prefixes old isOld old' isOld' samePrefix]
  · exact sound.shaped

/-- A new key is inserted and returned. -/
theorem Sound.add
    {keyPrefix secret : String}
    {newId : Id}
    {keys : Table ApiKey}
    (sound : s.Sound hashSecret)
    (new : FreshKey hashSecret keyPrefix secret newId s.keys key keys)
    (shaped : key.Shaped hashSecret) :
    Sound hashSecret { s with keys := keys, issued := s.issued ++ [key] } := by
  have absent : s.keys.find key.record.id = none :=
    (Table.insert?_eq_some new.inserted).1
  have otherPrefix :
      ∀ row ∈ s.keys.rows,
        row.visiblePrefix ≠ key.record.visiblePrefix := by
    rw [new.isPrefix]
    exact new.fresh
  constructor
  · intro one isIssued
    rcases List.mem_append.mp isIssued with isOld | isNew
    · obtain ⟨row, found, stored⟩ := sound.stored one isOld
      exact ⟨row, Table.find_insert_of_some new.inserted found, stored⟩
    · obtain rfl := List.mem_singleton.mp isNew
      refine ⟨one.record, ?_, rfl, ?_⟩
      · rw [Table.find_insert new.inserted]
        simp
      · rw [new.live]
        constructor
        · intro impossible
          cases impossible
        · intro isEnded
          obtain ⟨row, found⟩ := sound.ended _ isEnded
          rw [absent] at found
          cases found
  · intro row member
    rcases (Table.mem_insert new.inserted).mp member with isOld | rfl
    · obtain ⟨one, isIssued, isId⟩ := sound.issued row isOld
      exact ⟨one, List.mem_append_left _ isIssued, isId⟩
    · exact ⟨key, by simp, rfl⟩
  · intro id isEnded
    obtain ⟨row, found⟩ := sound.ended id isEnded
    exact ⟨row, Table.find_insert_of_some new.inserted found⟩
  · intro row member other member' samePrefix
    rcases (Table.mem_insert new.inserted).mp member with isOld | rfl
    · rcases (Table.mem_insert new.inserted).mp member' with isOld' | rfl
      · exact sound.prefixes row isOld other isOld' samePrefix
      · exact (otherPrefix row isOld samePrefix).elim
    · rcases (Table.mem_insert new.inserted).mp member' with isOld' | rfl
      · exact (otherPrefix other isOld' samePrefix.symm).elim
      · rfl
  · intro one isIssued
    rcases List.mem_append.mp isIssued with isOld | isNew
    · exact sound.shaped one isOld
    · obtain rfl := List.mem_singleton.mp isNew
      exact shaped

/-- The rest of the database is no part of the invariant. -/
theorem Sound.elsewhere
    (sound : s.Sound hashSecret)
    (db : Db) :
    Sound hashSecret { s with db := db } :=
  ⟨sound.stored, sound.issued, sound.ended, sound.prefixes, sound.shaped⟩

/-- A key that is ended. -/
theorem Sound.revoke
    {keyId : Id}
    {row : ApiKey}
    (sound : s.Sound hashSecret)
    (found : s.keys.find keyId = some row)
    (now : Datetime) :
    Sound hashSecret
      { s with
        keys := s.keys.modify keyId fun stored =>
          { stored with revokedAt := some now }
        ended := s.ended ++ [keyId] } := by
  apply sound.modify
  · exact fun _ => rfl
  · intro id isEnded
    rcases List.mem_append.mp isEnded with isOld | isNew
    · exact sound.ended id isOld
    · obtain rfl := List.mem_singleton.mp isNew
      exact ⟨row, found⟩
  · intro stored isRevoked
    by_cases isKey : keyId = stored.id
    · simp [isKey]
    · simp [isKey, isRevoked, Ne.symm isKey]

/-- What a step does: a new key, an end, a use, or something else. -/
inductive Took (hashSecret : String → String) (s : KeySys) :
    KeyAction → KeySys → Prop where
  | elsewhere {action : KeyAction} (db : Db) :
      Took hashSecret s action { s with db := db }
  | issued
      {accountId : Id}
      {kind : String}
      {scopes : Option (List String)}
      {expiresAt : Option Datetime}
      {draw : SecretDraw}
      {key : IssuedKey}
      {keys : Table ApiKey}
      (new :
        FreshKey hashSecret draw.keyPrefix draw.secret draw.newId s.keys key
          keys)
      (isScopes : ∃ given, key.record.scopes = scopesJson given) :
      Took hashSecret s (.issue accountId kind scopes expiresAt draw)
        { s with keys := keys, issued := s.issued ++ [key] }
  | rotated
      {keyId : Id}
      {row : ApiKey}
      {draw : SecretDraw}
      {key : IssuedKey}
      {keys : Table ApiKey}
      (found : s.keys.find keyId = some row)
      (new :
        FreshKey hashSecret draw.keyPrefix draw.secret draw.newId
          (s.keys.modify keyId fun stored =>
            { stored with revokedAt := some draw.now })
          key keys)
      (sameAccount : key.record.accountId = row.accountId)
      (sameKind : key.record.kind = row.kind)
      (sameScopes : key.record.scopes = scopesJson row.scopes) :
      Took hashSecret s (.rotate keyId draw)
        { s with
          keys := keys
          issued := s.issued ++ [key]
          ended := s.ended ++ [keyId] }
  | revoked
      {keyId : Id}
      {row : ApiKey}
      {now : Datetime}
      (found : s.keys.find keyId = some row) :
      Took hashSecret s (.revoke keyId now)
        { s with
          keys := s.keys.modify keyId fun stored =>
            { stored with revokedAt := some now }
          ended := s.ended ++ [keyId] }
  | used
      {action : KeyAction}
      (keyId : Id)
      (now : Datetime) :
      Took hashSecret s action
        { s with
          keys := s.keys.modify keyId fun stored =>
            { stored with lastUsedAt := some now } }
  | bootstrapped
      {allowDev : Bool}
      {newAccountId newId : Id}
      {db : Db}
      {key : IssuedKey}
      {keys : Table ApiKey}
      (new :
        FreshKey hashSecret bootstrapPrefix bootstrapSecret newId s.keys key
          keys)
      (isAdmin : key.record.kind = "admin")
      (isScopes : ∃ given, key.record.scopes = scopesJson given) :
      Took hashSecret s (.bootstrap allowDev newAccountId newId)
        { s with db := db, keys := keys, issued := s.issued ++ [key] }

/-- Every step is one of these. -/
theorem step_took
    {action : KeyAction}
    (taken : s.step hashSecret action = some s') :
    s.Took hashSecret action s' := by
  cases action with
  | elsewhere db =>
      cases taken
      exact .elsewhere db
  | issue accountId kind scopes expiresAt draw =>
      obtain ⟨⟨key, keys⟩, committed, isState⟩ :=
        Option.bind_eq_some_iff.mp taken
      cases isState
      obtain ⟨new, _, _, isScopes, _⟩ :=
        issueKey_ok (commit_eq_some.mp committed)
      exact .issued new ⟨_, isScopes⟩
  | rotate keyId draw =>
      obtain ⟨row, found, rest⟩ := Option.bind_eq_some_iff.mp taken
      obtain ⟨⟨key, keys⟩, committed, isState⟩ :=
        Option.bind_eq_some_iff.mp rest
      cases isState
      obtain ⟨new, sameAccount, sameKind, sameScopes, _⟩ :=
        rotateKey_ok (commit_eq_some.mp committed)
      rw [show row.id = keyId from Table.key_of_find found] at new
      exact .rotated found new sameAccount sameKind sameScopes
  | revoke keyId now =>
      obtain ⟨row, found, rest⟩ := Option.bind_eq_some_iff.mp taken
      obtain ⟨⟨done, keys⟩, committed, isState⟩ :=
        Option.bind_eq_some_iff.mp rest
      cases isState
      cases commit_eq_some.mp committed
      rw [show row.id = keyId from Table.key_of_find found]
      exact .revoked found
  | authenticate allowDev now presented =>
      obtain ⟨row, _, isState⟩ := Option.bind_eq_some_iff.mp taken
      cases isState
      exact .used row.id now
  | bootstrap allowDev newAccountId newId =>
      simp only [step] at taken
      split at taken
      · cases taken
        exact .elsewhere s.db
      · split at taken
        · cases taken
          exact .elsewhere s.db
        · obtain ⟨accounts, _, rest⟩ := Option.bind_eq_some_iff.mp taken
          obtain ⟨⟨key, keys⟩, committed, isState⟩ :=
            Option.bind_eq_some_iff.mp rest
          cases isState
          obtain ⟨new, _, isAdmin, isScopes, _⟩ :=
            issueKey_ok (commit_eq_some.mp committed)
          exact .bootstrapped new isAdmin ⟨_, isScopes⟩

/-- Every step keeps the invariant. -/
theorem Sound.step
    {action : KeyAction}
    (sound : s.Sound hashSecret)
    (drawn : action.Drawn)
    (took : s.Took hashSecret action s') :
    s'.Sound hashSecret := by
  cases took with
  | elsewhere db => exact sound.elsewhere db
  | @issued accountId kind scopes expiresAt draw key keys new =>
      apply sound.add new
      refine ⟨new.isSecret ▸ new.hashed, .inr ⟨draw, drawn, ?_, ?_⟩⟩
      · exact new.isPrefix
      · exact new.isSecret
  | @rotated keyId row draw key keys found new =>
      apply (sound.revoke found draw.now).add new
      refine ⟨new.isSecret ▸ new.hashed, .inr ⟨draw, drawn, ?_, ?_⟩⟩
      · exact new.isPrefix
      · exact new.isSecret
  | revoked found => exact sound.revoke found _
  | used keyId now =>
      apply sound.modify
      · exact fun _ => rfl
      · exact sound.ended
      · intro row isRevoked
        split
        · exact isRevoked
        · exact isRevoked
  | @bootstrapped allowDev newAccountId newId db key keys new =>
      apply (sound.elsewhere db).add new
      exact ⟨new.isSecret ▸ new.hashed, .inl ⟨new.isPrefix, new.isSecret⟩⟩

/-- The invariant holds in every reachable state. -/
theorem sound_of_reachable
    (reachable : Reachable hashSecret s) :
    s.Sound hashSecret := by
  apply Transition.Reachable.invariant _ _ reachable
  · rintro _ rfl
    exact sound_start
  · rintro s s' _ sound ⟨action, drawn, taken⟩
    exact sound.step drawn (step_took taken)

/-! ## Who is authenticated -/

/-- The key is neither revoked nor rotated, and not past its `expires_at`. -/
def LiveAt (s : KeySys) (now : Datetime) (key : IssuedKey) : Prop :=
  key.record.id ∉ s.ended ∧
    ∀ expires ∈ key.record.expiresAt,
      (asUtc now).wall ≤ (asUtc expires).wall

/-- A stored row is found by its prefix. -/
theorem Sound.keyByPrefix_of_mem
    {row : ApiKey}
    (sound : s.Sound hashSecret)
    (member : row ∈ s.keys.rows) :
    keyByPrefix s.keys row.visiblePrefix = some row := by
  unfold keyByPrefix
  cases found : s.keys.rows.find? fun other =>
      other.visiblePrefix = row.visiblePrefix with
  | none =>
      have absent := List.find?_eq_none.mp found row member
      simp at absent
  | some other =>
      have samePrefix := List.find?_some found
      have isOther := List.mem_of_find?_eq_some found
      rw [sound.prefixes other isOther row member (by simpa using samePrefix)]

/-- A row that is found by its prefix is that of an issued key. -/
theorem Sound.issued_of_keyByPrefix
    {row : ApiKey}
    {keyPrefix : String}
    (sound : s.Sound hashSecret)
    (found : keyByPrefix s.keys keyPrefix = some row) :
    row.visiblePrefix = keyPrefix ∧
      ∃ key ∈ s.issued,
        row.StoredFrom key.record ∧
          (row.revokedAt.isSome = true ↔ key.record.id ∈ s.ended) := by
  have member := List.mem_of_find?_eq_some found
  have samePrefix := List.find?_some found
  refine ⟨by simpa using samePrefix, ?_⟩
  obtain ⟨key, isIssued, isId⟩ := sound.issued row member
  obtain ⟨row', found', storedFrom, isRevoked⟩ := sound.stored key isIssued
  rw [isId, show s.keys.find row.id = some row from
    Table.find_of_mem member] at found'
  cases found'
  exact ⟨key, isIssued, storedFrom, isId ▸ isRevoked⟩

/-- A stored row is live for the secret of its key while the key is. -/
theorem isLiveKey_iff
    {auth : AuthEnv}
    {now : Datetime}
    {presented : String}
    {row : ApiKey}
    (injective : Function.Injective auth.hashSecret)
    (shaped : key.Shaped auth.hashSecret)
    (storedFrom : row.StoredFrom key.record)
    (isRevoked : row.revokedAt.isSome = true ↔ key.record.id ∈ s.ended) :
    isLiveKey auth now presented row = true ↔
      s.LiveAt now key ∧ presented = key.secret := by
  have sameHash : row.secretHash = auth.hashSecret key.secret := by
    rw [storedFrom]
    exact shaped.hashed
  have sameExpiry : row.expiresAt = key.record.expiresAt := by
    rw [storedFrom]
  unfold isLiveKey LiveAt
  rw [sameHash, sameExpiry, ← isRevoked]
  simp only [Bool.and_eq_true, decide_eq_true_eq, injective.eq_iff,
    Option.all_eq_true, Option.isNone_iff_eq_none, Bool.not_eq_true,
    Option.isSome_eq_false_iff, Option.mem_def]

/-- The context of a stored row is the one of its key. -/
theorem context_eq
    {row : ApiKey}
    (storedFrom : row.StoredFrom key.record) :
    row.context = key.record.context := by
  rw [storedFrom]
  rfl

/-- How the row that a string authenticates is found. -/
theorem authenticate_eq
    {auth : AuthEnv}
    {keys : Table ApiKey}
    {now : Datetime}
    {presented : String}
    (nonempty : presented ≠ "") :
    authenticate auth keys now (some presented) =
      (((parsePrefix presented).bind (keyByPrefix keys)).or
          (if auth.allowDev = true ∧ presented = bootstrapSecret then
            keyByPrefix keys bootstrapPrefix
          else
            none)).filter
        (isLiveKey auth now presented) := by
  unfold authenticate
  rw [truthy_some nonempty]
  simp only [Option.bind_eq_bind, Option.bind_some]
  split
  · rename_i row parsed
    rw [parsed]
    simp [Option.filter_some]
  · rename_i missing
    rw [missing, Option.none_or]
    change
      (if auth.allowDev = true ∧ presented = bootstrapSecret then
          (keyByPrefix keys bootstrapPrefix).bind _
        else
          none) =
        _
    split
    · cases keyByPrefix keys bootstrapPrefix with
      | none => rfl
      | some row => simp [Option.filter_some]
    · rfl

/--
A string authenticates exactly when it is the secret of a live key, or the
bootstrap secret in development; the context is that of the key.
-/
theorem authenticates_iff
    (reachable : Reachable hashSecret s)
    (injective : Function.Injective hashSecret)
    (allowDev : Bool)
    (now : Datetime)
    (presented : String)
    (ctx : AuthContext) :
    (authenticate ⟨hashSecret, allowDev⟩ s.keys now (some presented)).map
          ApiKey.context =
        some ctx ↔
      ∃ key ∈ s.issued,
        s.LiveAt now key ∧
          ctx = key.record.context ∧
          (¬key.IsBootstrap ∧ presented = key.secret ∨
            key.IsBootstrap ∧ allowDev = true ∧
              presented = bootstrapSecret) := by
  have sound := sound_of_reachable reachable
  constructor
  · intro authenticated
    obtain ⟨row, isRow, rfl⟩ := Option.map_eq_some_iff.mp authenticated
    by_cases isEmpty : presented = ""
    · rw [isEmpty] at isRow
      cases isRow
    rw [authenticate_eq isEmpty] at isRow
    obtain ⟨isFound, isLive⟩ := Option.filter_eq_some_iff.mp isRow
    rcases Option.or_eq_some_iff.mp isFound with parsed | ⟨_, inDev⟩
    · obtain ⟨keyPrefix, isPrefix, found⟩ :=
        Option.bind_eq_some_iff.mp parsed
      obtain ⟨_, key, isIssued, storedFrom, isRevoked⟩ :=
        sound.issued_of_keyByPrefix found
      obtain ⟨live, isSecret⟩ :=
        (isLiveKey_iff injective (sound.shaped key isIssued) storedFrom
          isRevoked).mp isLive
      refine ⟨key, isIssued, live, context_eq storedFrom, .inl ⟨?_, isSecret⟩⟩
      -- The bootstrap secret has no prefix to be found by.
      intro isBootstrap
      have isBoot := (sound.shaped key isIssued).bootstrap isBootstrap
      rw [isSecret, isBoot, parsePrefix_bootstrapSecret] at isPrefix
      cases isPrefix
    · split at inDev
      · rename_i isDev
        obtain ⟨isPrefix, key, isIssued, storedFrom, isRevoked⟩ :=
          sound.issued_of_keyByPrefix inDev
        obtain ⟨live, _⟩ :=
          (isLiveKey_iff injective (sound.shaped key isIssued) storedFrom
            isRevoked).mp isLive
        refine
          ⟨key, isIssued, live, context_eq storedFrom,
            .inr ⟨?_, isDev.1, isDev.2⟩⟩
        rw [storedFrom] at isPrefix
        exact isPrefix
      · cases inDev
  · rintro ⟨key, isIssued, live, rfl, shape⟩
    obtain ⟨row, found, storedFrom, isRevoked⟩ := sound.stored key isIssued
    have shaped := sound.shaped key isIssued
    have isId : row.id = key.record.id := Table.key_of_find found
    have samePrefix : row.visiblePrefix = key.record.visiblePrefix := by
      rw [storedFrom]
    have byPrefix :=
      sound.keyByPrefix_of_mem (Table.mem_of_find found)
    rw [samePrefix] at byPrefix
    have isSecret : presented = key.secret := by
      rcases shape with ⟨_, isSecret⟩ | ⟨isBootstrap, _, isSecret⟩
      · exact isSecret
      · rw [isSecret, shaped.bootstrap isBootstrap]
    have isLive : isLiveKey ⟨hashSecret, allowDev⟩ now presented row = true :=
      (isLiveKey_iff injective shaped storedFrom (isId ▸ isRevoked)).mpr
        ⟨live, isSecret⟩
    have lookup :
        presented ≠ "" ∧
          ((parsePrefix presented).bind (keyByPrefix s.keys)).or
              (if allowDev = true ∧ presented = bootstrapSecret then
                keyByPrefix s.keys bootstrapPrefix
              else
                none) =
            some row := by
      rcases shape with ⟨notBootstrap, _⟩ | ⟨isBootstrap, isDev, isBoot⟩
      · have parsed := shaped.parsePrefix notBootstrap
        rw [← isSecret] at parsed
        refine ⟨?_, by rw [parsed, Option.bind_some, byPrefix]; rfl⟩
        rintro rfl
        cases parsed
      · rw [isBoot, parsePrefix_bootstrapSecret, Option.bind_none,
          Option.none_or, if_pos ⟨isDev, rfl⟩]
        exact ⟨by decide, isBootstrap ▸ byPrefix⟩
    obtain ⟨nonempty, isFound⟩ := lookup
    rw [authenticate_eq nonempty, isFound, Option.filter_some, if_pos isLive,
      Option.map_some, context_eq storedFrom]

/-- An account whose key is issued and then rotated. -/
def rotation : List KeyAction :=
  [.bootstrap true 1 1,
    .issue 1 "customer" none none
      { now := noon
        newId := 2
        allowDev := false
        prefixToken := "0a1b2c3d"
        secretToken := "e4f5" },
    .rotate 2
      { now := noon
        newId := 3
        allowDev := false
        prefixToken := "4d3c2b1a"
        secretToken := "5f4e" }]

/-- The keys that it issues. -/
def rotatedKey (newId : Id) (keyPrefix secret : String) : IssuedKey where
  record :=
    { id := newId
      accountId := 1
      visiblePrefix := keyPrefix
      secretHash := secret
      scopes := customerScopes
      revokedAt := none
      expiresAt := none
      lastUsedAt := none
      kind := "customer" }
  secret := secret

/-- The secret that the rotation returns gives its account. -/
theorem authenticates_iff_rotation :
    ∃ s, start.play id rotation = some s ∧
      (authenticate ⟨id, false⟩ s.keys noon
          (some "cxk_live_4d3c2b1a_5f4e")).map ApiKey.context =
        some
          { accountId := 1
            apiKeyId := 3
            kind := "customer"
            scopes := customerScopes } := by
  have runs :
      (start.play id rotation).map (fun s => (s.issued.tail, s.ended)) =
        some
          ([rotatedKey 2 "cxk_live_0a1b2c3d" "cxk_live_0a1b2c3d_e4f5",
              rotatedKey 3 "cxk_live_4d3c2b1a" "cxk_live_4d3c2b1a_5f4e"],
            [2]) := by
    decide +kernel
  obtain ⟨s, played, facts⟩ := Option.map_eq_some_iff.mp runs
  simp only [Prod.mk.injEq] at facts
  obtain ⟨isTail, isEnded⟩ := facts
  refine ⟨s, played, ?_⟩
  apply
    (authenticates_iff ⟨start, rfl, later_of_play played⟩
      Function.injective_id false noon "cxk_live_4d3c2b1a_5f4e" _).mpr
  refine
    ⟨rotatedKey 3 "cxk_live_4d3c2b1a" "cxk_live_4d3c2b1a_5f4e", ?_,
      ⟨?_, ?_⟩, rfl, .inl ⟨?_, rfl⟩⟩
  · apply List.mem_of_mem_tail
    simp [isTail]
  · rw [isEnded]
    decide
  · simp [rotatedKey]
  · change "cxk_live_4d3c2b1a" ≠ bootstrapPrefix
    decide

end KeySys

end Crossing
