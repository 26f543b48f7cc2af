import Crossing.KeyConfinement

namespace Crossing

open Relational
open Relational.Transaction

/-!
# Chains of rotations

A rotation issues a key to the account and with the kind of the rotated one.
The scopes go through `_scopes_json` again, and `expires_at` is not handed on.
-/

/-- The action does not rotate the key. -/
def KeyAction.Spares (action : KeyAction) (keyId : Id) : Prop :=
  match action with
  | .rotate rotated _ => rotated ≠ keyId
  | _ => True

namespace KeySys

section Rows

variable
  {hashSecret : String → String}
  {s s' : KeySys}
  {action : KeyAction}
  {id : Id}
  {row : ApiKey}

/-- The row changes in two columns, and a revoked one stays revoked. -/
structure RowKept (row row' : ApiKey) : Prop where
  stored : row'.StoredFrom row
  revoked : row.revokedAt.isSome = true → row'.revokedAt.isSome = true

/-- A change of one row keeps every row. -/
theorem rowKept_modify
    {keys : Table ApiKey}
    {keyId : Id}
    {change : ApiKey → ApiKey}
    (keeps : ∀ row, RowKept row (change row))
    (found : keys.find id = some row) :
    ∃ row', (keys.modify keyId change).find id = some row' ∧
      RowKept row row' := by
  have keepsId (row : ApiKey) : (change row).id = row.id := by
    rw [(keeps row).stored]
  rw [Table.find_modify keepsId, found]
  by_cases same : keyId = id
  · exact ⟨change row, by simp [same], keeps row⟩
  · exact ⟨row, by simp [same], rfl, fun isRevoked => isRevoked⟩

/-- Every step keeps every row. -/
theorem step_keeps_row
    (taken : s.step hashSecret action = some s')
    (found : s.keys.find id = some row) :
    ∃ row', s'.keys.find id = some row' ∧ RowKept row row' := by
  have same : RowKept row row := ⟨rfl, fun isRevoked => isRevoked⟩
  have revokes (now : Datetime) (stored : ApiKey) :
      RowKept stored { stored with revokedAt := some now } :=
    ⟨rfl, fun _ => rfl⟩
  cases step_took taken with
  | elsewhere => exact ⟨row, found, same⟩
  | issued new =>
      exact ⟨row, Table.find_insert_of_some new.inserted found, same⟩
  | rotated _ new =>
      obtain ⟨row', found', kept⟩ := rowKept_modify (revokes _) found
      exact ⟨row', Table.find_insert_of_some new.inserted found', kept⟩
  | revoked => exact rowKept_modify (revokes _) found
  | used =>
      exact rowKept_modify (fun _ => ⟨rfl, fun isRevoked => isRevoked⟩) found
  | bootstrapped new =>
      exact ⟨row, Table.find_insert_of_some new.inserted found, same⟩

/-- What a rotation that returns has revoked and issued. -/
theorem rotate_took
    {keyId : Id}
    {draw : SecretDraw}
    {key : IssuedKey}
    (taken : s.step hashSecret (.rotate keyId draw) = some s')
    (returned : s'.issued = s.issued ++ [key]) :
    ∃ row keys,
      s.keys.find keyId = some row ∧
        FreshKey hashSecret draw.keyPrefix draw.secret draw.newId keys key
          s'.keys ∧
        keys =
          s.keys.modify keyId (fun stored =>
            { stored with revokedAt := some draw.now }) ∧
        key.record.accountId = row.accountId ∧
        key.record.kind = row.kind ∧
        key.record.scopes = scopesJson row.scopes ∧
        key.record.expiresAt = none := by
  obtain ⟨row, found, rest⟩ := Option.bind_eq_some_iff.mp taken
  obtain ⟨⟨issued, keys⟩, committed, isState⟩ :=
    Option.bind_eq_some_iff.mp rest
  cases isState
  obtain rfl : issued = key := by simpa using returned
  obtain ⟨new, facts⟩ := rotateKey_ok (commit_eq_some.mp committed)
  rw [show row.id = keyId from Table.key_of_find found] at new
  exact ⟨row, _, found, new, rfl, facts⟩

end Rows

/-! ## Runs with rotations -/

/--
The records of the keys that the rotations of a run have made of one key, which
is the first of them.  `picks` says which of them a rotation may be of; nothing
else in the run rotates them.
-/
inductive Rotations
    (hashSecret : String → String)
    (picks : List ApiKey → ApiKey → Prop)
    (s : KeySys)
    (original : ApiKey) :
    List ApiKey → KeySys → Prop where
  | start : Rotations hashSecret picks s original [original] s
  | other
      {records : List ApiKey}
      {before after : KeySys}
      {action : KeyAction}
      (run : Rotations hashSecret picks s original records before)
      (drawn : action.Drawn)
      (spares : ∀ record ∈ records, action.Spares record.id)
      (taken : before.step hashSecret action = some after) :
      Rotations hashSecret picks s original records after
  | rotate
      {records : List ApiKey}
      {before after : KeySys}
      {old : ApiKey}
      {draw : SecretDraw}
      {key : IssuedKey}
      (run : Rotations hashSecret picks s original records before)
      (picked : picks records old)
      (isHex : draw.IsHex)
      (taken : before.step hashSecret (.rotate old.id draw) = some after)
      (returned : after.issued = before.issued ++ [key]) :
      Rotations hashSecret picks s original (records ++ [key.record]) after

/-- Every key is rotated that was issued. -/
abbrev anyOf (records : List ApiKey) (old : ApiKey) : Prop :=
  old ∈ records

/-- Only the key that was issued last is rotated. -/
abbrev lastOf (records : List ApiKey) (old : ApiKey) : Prop :=
  records.getLast? = some old

section Runs

variable
  {hashSecret : String → String}
  {picks : List ApiKey → ApiKey → Prop}
  {s s' : KeySys}
  {original : ApiKey}
  {records : List ApiKey}

/-- What is known of each key of such a run. -/
structure MadeOf (original record : ApiKey) : Prop where
  account : record.accountId = original.accountId
  kind : record.kind = original.kind
  rest :
    record = original ∨
      record.scopes = scopesJson original.scopes ∧ record.expiresAt = none

/-- What a rotation of one of these keys issues. -/
theorem MadeOf.rotated
    {before after : KeySys}
    {old row : ApiKey}
    {draw : SecretDraw}
    {key : IssuedKey}
    (made : MadeOf original old)
    (stored : before.keys.find old.id = some row)
    (storedFrom : row.StoredFrom old)
    (taken : before.step hashSecret (.rotate old.id draw) = some after)
    (returned : after.issued = before.issued ++ [key]) :
    key.record.accountId = original.accountId ∧
      key.record.kind = original.kind ∧
      key.record.scopes = scopesJson original.scopes ∧
      key.record.expiresAt = none := by
  obtain ⟨row', _, stored', _, _, account, kind, scopes, expires⟩ :=
    rotate_took taken returned
  cases stored.symm.trans stored'
  rw [storedFrom] at account kind scopes
  refine ⟨account.trans made.account, kind.trans made.kind, ?_, expires⟩
  rcases made.rest with rfl | ⟨cleaned, _⟩
  · exact scopes
  · rw [cleaned, scopesJson_idem] at scopes
    exact scopes

/-- The keys of a run are stored, and made of the first of them. -/
theorem Rotations.stored
    (found : s.keys.find original.id = some original)
    (mem : ∀ records old, picks records old → old ∈ records)
    (run : Rotations hashSecret picks s original records s') :
    ∀ record ∈ records,
      MadeOf original record ∧
        ∃ row, s'.keys.find record.id = some row ∧ row.StoredFrom record := by
  induction run with
  | start =>
      intro record member
      rw [List.mem_singleton.mp member]
      exact ⟨⟨rfl, rfl, .inl rfl⟩, original, found, rfl⟩
  | other _ _ _ taken inductionHypothesis =>
      intro record member
      obtain ⟨made, row, stored, storedFrom⟩ :=
        inductionHypothesis record member
      obtain ⟨row', stored', kept⟩ := step_keeps_row taken stored
      exact ⟨made, row', stored', storedFrom_trans kept.stored storedFrom⟩
  | @rotate records before after old draw key _ picked _ taken returned
      inductionHypothesis =>
      intro record member
      rcases List.mem_append.mp member with isOld | isNew
      · obtain ⟨made, row, stored, storedFrom⟩ :=
          inductionHypothesis record isOld
        obtain ⟨row', stored', kept⟩ := step_keeps_row taken stored
        exact ⟨made, row', stored', storedFrom_trans kept.stored storedFrom⟩
      · rw [List.mem_singleton.mp isNew]
        obtain ⟨made, row, stored, storedFrom⟩ :=
          inductionHypothesis _ (mem _ _ picked)
        obtain ⟨account, kind, rest⟩ :=
          made.rotated stored storedFrom taken returned
        obtain ⟨_, _, _, new, _⟩ := rotate_took taken returned
        exact ⟨⟨account, kind, .inr rest⟩, key.record,
          (Table.find_insert new.inserted _).trans (if_pos rfl), rfl⟩

/-- In a chain every key but the last is revoked. -/
theorem Rotations.revoked
    (run : Rotations hashSecret lastOf s original records s') :
    ∀ record ∈ records.dropLast, ∃ row,
      s'.keys.find record.id = some row ∧ row.revokedAt.isSome = true := by
  induction run with
  | start => simp
  | other _ _ _ taken inductionHypothesis =>
      intro record member
      obtain ⟨row, stored, isRevoked⟩ := inductionHypothesis record member
      obtain ⟨row', stored', kept⟩ := step_keeps_row taken stored
      exact ⟨row', stored', kept.revoked isRevoked⟩
  | @rotate records before after old draw key _ picked _ taken returned
      inductionHypothesis =>
      intro record member
      rw [List.dropLast_concat] at member
      rw [← List.dropLast_append_getLast? old picked] at member
      rcases List.mem_append.mp member with isOld | isLast
      · obtain ⟨row, stored, isRevoked⟩ := inductionHypothesis record isOld
        obtain ⟨row', stored', kept⟩ := step_keeps_row taken stored
        exact ⟨row', stored', kept.revoked isRevoked⟩
      · rw [List.mem_singleton.mp isLast]
        obtain ⟨row, keys, found, new, rfl, _⟩ := rotate_took taken returned
        refine
          ⟨{ row with revokedAt := some draw.now },
            Table.find_insert_of_some new.inserted ?_, rfl⟩
        rw [Table.find_modify, if_pos rfl, found]
        · rfl
        · exact fun _ => rfl

end Runs

/-! ## Who is authenticated -/

/-- Some string is authenticated with the key at an instant. -/
def Authenticates
    (hashSecret : String → String)
    (s : KeySys)
    (now : Datetime)
    (keyId : Id) :
    Prop :=
  ∃ allowDev presented row,
    authenticate ⟨hashSecret, allowDev⟩ s.keys now presented = some row ∧
      row.id = keyId

section Authentication

variable
  {hashSecret : String → String}
  {s : KeySys}
  {now : Datetime}

/-- The row that a string authenticates is stored and not revoked. -/
theorem authenticate_live
    {auth : AuthEnv}
    {keys : Table ApiKey}
    {presented : Option String}
    {row : ApiKey}
    (authenticated : authenticate auth keys now presented = some row) :
    keys.find row.id = some row ∧ row.revokedAt = none := by
  obtain ⟨given, isGiven, _⟩ := Option.bind_eq_some_iff.mp authenticated
  obtain rfl : presented = some given :=
    (Option.filter_eq_some_iff.mp isGiven).1
  rw [authenticate_eq (truthy_nonempty isGiven)] at authenticated
  obtain ⟨looked, isLive⟩ := Option.filter_eq_some_iff.mp authenticated
  have member : row ∈ keys.rows := by
    rcases Option.or_eq_some_iff.mp looked with parsed | ⟨_, boot⟩
    · obtain ⟨_, _, found⟩ := Option.bind_eq_some_iff.mp parsed
      exact List.mem_of_find?_eq_some found
    · split at boot
      · exact List.mem_of_find?_eq_some boot
      · cases boot
  refine ⟨Table.find_of_mem member, ?_⟩
  simp only [isLiveKey, Bool.and_eq_true, Option.isNone_iff_eq_none] at isLive
  exact isLive.1.1

/-- A new key without an expiry is authenticated with at every instant. -/
theorem authenticates_of_fresh
    {keys : Table ApiKey}
    {draw : SecretDraw}
    {key : IssuedKey}
    (isHex : draw.IsHex)
    (new :
      FreshKey hashSecret draw.keyPrefix draw.secret draw.newId keys key
        s.keys)
    (unlimited : key.record.expiresAt = none) :
    Authenticates hashSecret s now key.record.id := by
  refine ⟨false, some key.secret, key.record, ?_, rfl⟩
  have nonempty : key.secret ≠ "" := by
    intro isEmpty
    have parsed := parsePrefix_secret isHex
    rw [← new.isSecret, isEmpty] at parsed
    cases parsed
  have byPrefix :
      keyByPrefix s.keys draw.keyPrefix = some key.record := by
    have absent :
        keys.rows.find?
            (fun row => row.visiblePrefix = draw.keyPrefix) =
          none :=
      List.find?_eq_none.mpr fun other member => by
        simpa using new.fresh other member
    unfold keyByPrefix
    rw [(Table.insert?_eq_some new.inserted).2, List.find?_append, absent]
    simp [new.isPrefix]
  rw [authenticate_eq nonempty, new.isSecret, parsePrefix_secret isHex,
    Option.bind_some, byPrefix, Option.some_or, Option.filter_some, if_pos]
  simp [isLiveKey, new.live, unlimited, new.hashed]

end Authentication

/-! ## What a chain should keep -/

/-- An instant at which the key is not past its `expires_at`. -/
def NotPast (original : ApiKey) (now : Datetime) : Prop :=
  ∀ expires ∈ original.expiresAt, (asUtc now).wall ≤ (asUtc expires).wall

/--
The keys of a chain have the authority of the first one and no more, and only
one of them is authenticated with.
-/
structure NeverExtends
    (hashSecret : String → String)
    (original : ApiKey)
    (records : List ApiKey)
    (s : KeySys) :
    Prop where
  same :
    ∀ record ∈ records,
      record.accountId = original.accountId ∧
        record.kind = original.kind ∧
        record.scopes = original.scopes
  expires :
    ∀ record ∈ records, ∀ now,
      Authenticates hashSecret s now record.id → NotPast original now
  single :
    ∀ one ∈ records, ∀ two ∈ records, ∀ now now',
      Authenticates hashSecret s now one.id →
        Authenticates hashSecret s now' two.id →
          one.id = two.id

/-- There is an instant after every expiry. -/
theorem exists_past {original : ApiKey} (limited : original.expiresAt ≠ none) :
    ∃ now, ¬ NotPast original now := by
  obtain ⟨expires, isExpires⟩ := Option.ne_none_iff_exists'.mp limited
  refine ⟨⟨(asUtc expires).wall + 1, none⟩, ?_⟩
  intro notPast
  have early := notPast expires isExpires
  simp [asUtc] at early

/-- Cleaning leaves exactly the lists of known scopes that are not empty. -/
theorem scopesJson_eq_self_iff {scopes : List String} :
    scopesJson scopes = scopes ↔
      scopes ≠ [] ∧ ∀ scope ∈ scopes, scope ∈ allScopes := by
  constructor
  · intro same
    rcases scopesJson_cases scopes with all | ⟨cleaned, nonempty⟩
    · rw [← same, all]
      decide
    · rw [← cleaned, same] at nonempty
      refine ⟨nonempty, fun scope member => ?_⟩
      rw [← same, cleaned] at member
      simpa using List.of_mem_filter member
  · rintro ⟨nonempty, known⟩
    exact scopesJson_of_known nonempty known

section Chain

variable
  {hashSecret : String → String}
  {s before after : KeySys}
  {original old : ApiKey}
  {records : List ApiKey}
  {draw : SecretDraw}
  {key : IssuedKey}

/-- After a rotation only the key that it has issued is authenticated with. -/
theorem eq_last_of_authenticates
    {record : ApiKey}
    {now : Datetime}
    (run :
      Rotations hashSecret lastOf s original (records ++ [key.record]) after)
    (member : record ∈ records ++ [key.record])
    (authenticates : Authenticates hashSecret after now record.id) :
    record.id = key.record.id := by
  rcases List.mem_append.mp member with isOld | isLast
  · obtain ⟨allowDev, presented, live, authenticated, sameId⟩ := authenticates
    obtain ⟨stored, unrevoked⟩ := authenticate_live authenticated
    obtain ⟨row, found, isRevoked⟩ :=
      run.revoked record (by simpa using isOld)
    rw [sameId] at stored
    cases stored.symm.trans found
    rw [unrevoked] at isRevoked
    cases isRevoked
  · rw [List.mem_singleton.mp isLast]

/--
A rotation at the end of a chain keeps the authority of the first key exactly
when that key never expires and has known scopes, at least one.
-/
theorem rotation_never_extends_iff
    (found : s.keys.find original.id = some original)
    (chain : Rotations hashSecret lastOf s original records before)
    (picked : lastOf records old)
    (isHex : draw.IsHex)
    (taken : before.step hashSecret (.rotate old.id draw) = some after)
    (returned : after.issued = before.issued ++ [key]) :
    NeverExtends hashSecret original (records ++ [key.record]) after ↔
      original.expiresAt = none ∧
        original.scopes ≠ [] ∧
        ∀ scope ∈ original.scopes, scope ∈ allScopes := by
  have mem (records : List ApiKey) (old : ApiKey) :
      lastOf records old → old ∈ records :=
    List.mem_of_getLast?
  have run := chain.rotate picked isHex taken returned
  obtain ⟨made, row, stored, storedFrom⟩ :=
    chain.stored found mem old (mem _ _ picked)
  obtain ⟨_, _, scopes, unlimited⟩ :=
    made.rotated stored storedFrom taken returned
  obtain ⟨_, _, _, new, _⟩ := rotate_took taken returned
  constructor
  · intro keeps
    constructor
    · by_contra limited
      obtain ⟨now, past⟩ := exists_past limited
      exact past
        (keeps.expires key.record (by simp) now
          (authenticates_of_fresh isHex new unlimited))
    · have same := (keeps.same key.record (by simp)).2.2
      exact scopesJson_eq_self_iff.mp (scopes.symm.trans same)
  · rintro ⟨neverExpires, known⟩
    have cleaned := scopesJson_eq_self_iff.mpr known
    refine ⟨?_, ?_, ?_⟩
    · intro record member
      obtain ⟨isMade, _⟩ := run.stored found mem record member
      refine ⟨isMade.account, isMade.kind, ?_⟩
      rcases isMade.rest with rfl | ⟨isScopes, _⟩
      · rfl
      · exact isScopes.trans cleaned
    · intro record _ now _ expires isExpires
      rw [neverExpires] at isExpires
      cases isExpires
    · intro one isOne two isTwo now now' first second
      rw [eq_last_of_authenticates run isOne first,
        eq_last_of_authenticates run isTwo second]

end Chain

/-! ## A key that is rotated once -/

/-- An account with a customer key. -/
def withKey (expiresAt : Option Datetime) : List KeyAction :=
  [.bootstrap true 1 1,
    .issue 1 "customer" none expiresAt
      { now := noon
        newId := 2
        allowDev := false
        prefixToken := "0a1b2c3d"
        secretToken := "e4f5" }]

/-- What the rotation of that key draws. -/
def rotationDraw : SecretDraw where
  now := noon
  newId := 3
  allowDev := false
  prefixToken := "4d3c2b1a"
  secretToken := "5f4e"

/-- The key that the rotation returns. -/
def returnedKey : IssuedKey :=
  rotatedKey 3 "cxk_live_4d3c2b1a" "cxk_live_4d3c2b1a_5f4e"

/-- The customer key is as it was asked for, and its rotation returns. -/
def rotatesOnce (expiresAt : Option Datetime) : Bool :=
  (start.play id (withKey expiresAt)).any fun s =>
    (s.keys.find 2).any fun original =>
      original.id = 2 && original.expiresAt = expiresAt &&
        original.scopes = customerScopes &&
          (s.step id (.rotate 2 rotationDraw)).any fun after =>
            after.issued = s.issued ++ [returnedKey]

/-- The key and the rotation of such a check. -/
theorem rotates_once
    {expiresAt : Option Datetime}
    (checked : rotatesOnce expiresAt = true) :
    ∃ s original after,
      Reachable id s ∧
        s.keys.find original.id = some original ∧
        original.expiresAt = expiresAt ∧
        original.scopes = customerScopes ∧
        s.step id (.rotate original.id rotationDraw) = some after ∧
        after.issued = s.issued ++ [returnedKey] := by
  simp only [rotatesOnce, Option.any_eq_true, Bool.and_eq_true,
    decide_eq_true_eq] at checked
  obtain ⟨s, played, original, found, ⟨⟨isId, expires⟩, scopes⟩, after, taken,
    returned⟩ := checked
  refine
    ⟨s, original, after, ⟨start, rfl, later_of_play played⟩, ?_, expires,
      scopes, ?_, returned⟩
  · rw [isId]
    exact found
  · rw [isId]
    exact taken

/-- The rotation of a key without an expiry. -/
theorem rotation_never_extends_of_unlimited :
    ∃ s original after,
      Reachable id s ∧
        s.keys.find original.id = some original ∧
        s.step id (.rotate original.id rotationDraw) = some after ∧
        NeverExtends id original [original, returnedKey.record] after := by
  obtain ⟨s, original, after, reachable, found, expires, scopes, taken,
    returned⟩ := rotates_once (show rotatesOnce none = true by decide +kernel)
  refine ⟨s, original, after, reachable, found, taken, ?_⟩
  apply
    (rotation_never_extends_iff found .start (List.getLast?_singleton ..)
      (by decide) taken returned).mpr
  rw [scopes]
  exact ⟨expires, by decide, by decide⟩

/-- The rotation of a key that expires: the new one is good for ever. -/
theorem rotation_outlives_expiry :
    ∃ s original after,
      Reachable id s ∧
        s.keys.find original.id = some original ∧
        s.step id (.rotate original.id rotationDraw) = some after ∧
        ¬ NeverExtends id original [original, returnedKey.record] after := by
  obtain ⟨s, original, after, reachable, found, expires, _, taken, returned⟩ :=
    rotates_once (show rotatesOnce (some noon) = true by decide +kernel)
  refine ⟨s, original, after, reachable, found, taken, ?_⟩
  intro keeps
  obtain ⟨_, _, _, new, _, _, _, _, unlimited⟩ := rotate_took taken returned
  obtain ⟨now, past⟩ :=
    exists_past (show original.expiresAt ≠ none by simp [expires])
  exact past
    (keeps.expires returnedKey.record (by simp) now
      (authenticates_of_fresh (by decide) new unlimited))

end KeySys

end Crossing
