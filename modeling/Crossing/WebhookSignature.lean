import Crossing.PythonText

namespace Crossing

/-!
# Signatures of webhooks

`verify_webhook_signature` and `sign_webhook_payload` of `billing.py`.  The
header is Latin-1 text, as a server decodes it, and `hmac.compare_digest`
raises on text that is not ASCII.  So the parser may come to a decision or run
into a value that it cannot compare.
-/

/-- `hmac.new(key, message, hashlib.sha256).digest()`. -/
abbrev HmacSha256 := List UInt8 → List UInt8 → Vector UInt8 32

/-- `text.encode("utf-8")`. -/
def utf8 (text : String) : List UInt8 :=
  text.toUTF8.toList

/-- The digits of `hexdigest`. -/
def hexDigits : List Char := "0123456789abcdef".toList

/-- `digest.hex()`. -/
def hexdigest (digest : Vector UInt8 32) : String :=
  .ofList
    (digest.toList.flatMap fun byte =>
      [hexDigits.getD (byte.toNat / 16) '0',
        hexDigits.getD (byte.toNat % 16) '0'])

/-- `text.isascii()`. -/
def isAscii (text : String) : Bool :=
  text.toList.all fun char => char.toNat < 128

/-- `hmac.compare_digest` on text. -/
def compareDigest (left right : String) : Except PythonError Bool :=
  if isAscii left && isAscii right then
    .ok (left = right)
  else
    .error .typeError

/-- `any(hmac.compare_digest(expected, sig) for sig in v1s)`. -/
def anyDigest (expected : String) : List String → Except PythonError Bool
  | [] => .ok false
  | sig :: v1s => do
      if ← compareDigest expected sig then
        .ok true
      else
        anyDigest expected v1s

/-- One turn of the loop over the items of a header. -/
def headerPart (item : String) : Option (String × String) :=
  let (k, v) := partition '=' (strip item)
  if k ≠ "" ∧ v ≠ "" then some (k, v) else none

/-- The items of a header that have a key and a value. -/
def headerParts (header : String) : List (String × String) :=
  ((header.toList.splitOn ',').map String.ofList).filterMap headerPart

/-- `parts.get(key) or []`: the values of a key, in order. -/
def valuesOf (key : String) (parts : List (String × String)) : List String :=
  parts.filterMap fun (k, v) => if k = key then some v else none

/-- What is compared with the `v1` values. -/
def expectedSignature
    (hmac : HmacSha256)
    (payload : List UInt8)
    (secret stamp : String) :
    String :=
  let signed := utf8 (stamp ++ ".") ++ payload
  hexdigest (hmac (utf8 secret) signed)

/--
`verify_webhook_signature`; `now` is `int(time.time())`, and without a secret
the configured one is taken.
-/
def verifyWebhookSignature
    (hmac : HmacSha256)
    (webhookSecret : String)
    (now : Int)
    (payload : List UInt8)
    (header secret : Option String)
    (tolerance : Int) :
    Except PythonError Bool :=
  let secret := secret.getD webhookSecret
  let header := header.getD ""
  if header = "" ∨ secret = "" then
    .ok false
  else
    let parts := headerParts header
    let v1s := valuesOf "v1" parts
    match (valuesOf "t" parts).head? with
    | none => .ok false
    | some ts_s =>
        if v1s.isEmpty then
          .ok false
        else
          match pythonInt ts_s with
          | none => .ok false
          | some ts =>
              if (now - ts).natAbs > tolerance then
                .ok false
              else
                anyDigest (expectedSignature hmac payload secret ts_s) v1s

/-- `sign_webhook_payload`. -/
def signWebhookPayload
    (hmac : HmacSha256)
    (payload : List UInt8)
    (secret : String)
    (ts : Int) :
    Except PythonError String :=
  match pythonStr ts with
  | none => .error .valueError
  | some stamp =>
      .ok
        ("t=" ++ stamp ++ ",v1=" ++
          expectedSignature hmac payload secret stamp)

/-! ## Digests -/

section Digests

variable {expected : String} {v1s : List String}

/-- Hexadecimal digits are plain ASCII. -/
theorem hexDigit_plain
    {char : Char}
    (isHex : char ∈ hexDigits) :
    isSpace char = false ∧ char ≠ ',' ∧ char.toNat < 128 := by
  have checked :
      (hexDigits.all fun char =>
        isSpace char = false ∧ char ≠ ',' ∧ char.toNat < 128) = true := by
    decide
  exact of_decide_eq_true (List.all_eq_true.mp checked char isHex)

/-- A digest is written in hexadecimal digits. -/
theorem mem_hexdigest
    {digest : Vector UInt8 32}
    {char : Char}
    (member : char ∈ (hexdigest digest).toList) :
    char ∈ hexDigits := by
  have inDigits (index : Nat) (inside : index < 16) :
      hexDigits.getD index '0' ∈ hexDigits := by
    have checked : ∀ index < 16, hexDigits.getD index '0' ∈ hexDigits := by
      decide
    exact checked index inside
  unfold hexdigest at member
  rw [String.toList_ofList, List.mem_flatMap] at member
  obtain ⟨byte, _, member⟩ := member
  have small : byte.toNat < 256 := byte.toNat_lt
  rcases List.mem_cons.mp member with rfl | member
  · exact inDigits _ (by omega)
  · cases List.mem_singleton.mp member
    exact inDigits _ (by omega)

/-- A digest is ASCII. -/
theorem isAscii_hexdigest (digest : Vector UInt8 32) :
    isAscii (hexdigest digest) = true := by
  unfold isAscii
  rw [List.all_eq_true]
  intro char member
  exact decide_eq_true (hexDigit_plain (mem_hexdigest member)).2.2

/-- A digest is not empty. -/
theorem hexdigest_ne_empty (digest : Vector UInt8 32) :
    hexdigest digest ≠ "" := by
  have hasBytes : digest.toList ≠ [] := by
    intro empty
    have size : digest.toList.length = 32 := by simp
    rw [empty] at size
    cases size
  obtain ⟨byte, bytes, shape⟩ := List.exists_cons_of_ne_nil hasBytes
  unfold hexdigest
  rw [shape, List.flatMap_cons, Ne, ← String.toList_inj]
  simp

/-- A value that cannot be compared stands before every match. -/
def Incomparable (expected : String) (v1s : List String) : Prop :=
  ∃ before sig after,
    v1s = before ++ sig :: after ∧ isAscii sig = false ∧ expected ∉ before

/-- The comparison raises on a value that is not ASCII before every match. -/
theorem anyDigest_error
    (ascii : isAscii expected = true)
    (incomparable : Incomparable expected v1s) :
    anyDigest expected v1s = .error .typeError := by
  obtain ⟨before, sig, after, rfl, foreign, unmatched⟩ := incomparable
  induction before with
  | nil =>
      simp [anyDigest, compareDigest, foreign, Bind.bind, Except.bind]
  | cons first before inductionHypothesis =>
      obtain ⟨notFirst, notBefore⟩ :=
        List.ne_and_not_mem_of_not_mem_cons unmatched
      have goesOn := inductionHypothesis notBefore
      cases plain : isAscii first with
      | false =>
          simp [anyDigest, compareDigest, plain, Bind.bind, Except.bind]
      | true =>
          simp [anyDigest, compareDigest, plain, ascii, notFirst, goesOn,
            Bind.bind, Except.bind]

/-- Otherwise it answers whether there is a match. -/
theorem anyDigest_ok
    (ascii : isAscii expected = true)
    (comparable : ¬ Incomparable expected v1s) :
    anyDigest expected v1s = .ok (decide (expected ∈ v1s)) := by
  induction v1s with
  | nil => rfl
  | cons sig rest inductionHypothesis =>
      have plain : isAscii sig = true := by
        rw [← Bool.not_eq_false]
        intro foreign
        exact comparable ⟨[], sig, rest, rfl, foreign, List.not_mem_nil⟩
      by_cases same : expected = sig
      · subst same
        simp [anyDigest, compareDigest, ascii, Bind.bind, Except.bind]
      · have goesOn : ¬ Incomparable expected rest := by
          rintro ⟨before, foreign, after, rfl, notAscii, unmatched⟩
          exact comparable
            ⟨sig :: before, foreign, after, rfl, notAscii,
              List.not_mem_cons_of_ne_of_not_mem same unmatched⟩
        simp [anyDigest, compareDigest, plain, ascii, same,
          inductionHypothesis goesOn, Bind.bind, Except.bind]

end Digests

/-! ## Headers -/

/-- The value of a `stripe-signature` header as a server decodes it. -/
structure HeaderText where
  text : String
  latin1 : ∀ char ∈ text.toList, char.toNat < 256

/-- Text whose characters pass a test is Latin-1. -/
theorem latin1_of_all
    {text : String}
    (small : (text.toList.all fun char => char.toNat < 256) = true) :
    ∀ char ∈ text.toList, char.toNat < 256 :=
  fun char member => of_decide_eq_true (List.all_eq_true.mp small char member)

/-- The first `t` value, when it is an integer within tolerance of the clock. -/
def freshStamp (now tolerance : Int) (header : String) : Option String :=
  (valuesOf "t" (headerParts header)).head?.filter fun stamp =>
    (pythonInt stamp).any fun ts => (now - ts).natAbs ≤ tolerance

section Verify

variable
  {hmac : HmacSha256}
  {webhookSecret secret header : String}
  {now tolerance : Int}
  {payload : List UInt8}

/-- The signature that is expected for the stamp is among the `v1` values. -/
def Genuine
    (hmac : HmacSha256)
    (now : Int)
    (payload : List UInt8)
    (header secret : String)
    (tolerance : Int) :
    Prop :=
  ∃ stamp ∈ freshStamp now tolerance header,
    expectedSignature hmac payload secret stamp ∈
      valuesOf "v1" (headerParts header)

/-- What is compared runs into a value that is not ASCII before a match. -/
def RunsIntoForeign
    (hmac : HmacSha256)
    (now : Int)
    (payload : List UInt8)
    (header secret : String)
    (tolerance : Int) :
    Prop :=
  ∃ stamp ∈ freshStamp now tolerance header,
    Incomparable (expectedSignature hmac payload secret stamp)
      (valuesOf "v1" (headerParts header))

/-- The header is accepted when it is genuine, and refused otherwise. -/
def DecidedRightly
    (hmac : HmacSha256)
    (webhookSecret : String)
    (now : Int)
    (payload : List UInt8)
    (header secret : String)
    (tolerance : Int) :
    Prop :=
  (Genuine hmac now payload header secret tolerance →
      verifyWebhookSignature hmac webhookSecret now payload (some header)
          (some secret) tolerance =
        .ok true) ∧
    (¬ Genuine hmac now payload header secret tolerance →
      verifyWebhookSignature hmac webhookSecret now payload (some header)
          (some secret) tolerance =
        .ok false)

/-- The decision is about the fresh stamp and the `v1` values. -/
theorem verifyWebhookSignature_eq
    (nonempty : secret ≠ "") :
    verifyWebhookSignature hmac webhookSecret now payload (some header)
        (some secret) tolerance =
      match freshStamp now tolerance header with
      | none => .ok false
      | some stamp =>
          anyDigest (expectedSignature hmac payload secret stamp)
            (valuesOf "v1" (headerParts header)) := by
  unfold verifyWebhookSignature freshStamp
  dsimp only [Option.getD_some]
  by_cases blank : header = ""
  · subst blank
    rw [if_pos (.inl rfl)]
    rfl
  · rw [if_neg (not_or.mpr ⟨blank, nonempty⟩)]
    cases stamps : (valuesOf "t" (headerParts header)).head? with
    | none => rfl
    | some stamp =>
        dsimp only
        cases v1s : valuesOf "v1" (headerParts header) with
        | nil =>
            rw [if_pos List.isEmpty_nil]
            cases Option.filter _ (some stamp) <;> rfl
        | cons sig rest =>
            rw [if_neg (by simp)]
            cases read : pythonInt stamp with
            | none =>
                rw [Option.filter_some_neg (by rw [read]; simp)]
            | some ts =>
                dsimp only
                by_cases late : (now - ts).natAbs > tolerance
                · rw [if_pos late, Option.filter_some_neg]
                  rw [read, Option.any_some, decide_eq_false_iff_not]
                  exact not_le.mpr late
                · rw [if_neg late, Option.filter_some_pos]
                  rw [read, Option.any_some, decide_eq_true_iff]
                  exact not_lt.mp late

/-- A header is decided rightly unless it runs into a foreign value. -/
theorem decidedRightly_iff
    (nonempty : secret ≠ "") :
    DecidedRightly hmac webhookSecret now payload header secret tolerance ↔
      ¬ RunsIntoForeign hmac now payload header secret tolerance := by
  unfold DecidedRightly Genuine RunsIntoForeign
  rw [verifyWebhookSignature_eq nonempty]
  cases freshStamp now tolerance header with
  | none => simp
  | some stamp =>
      simp only [Option.mem_def, Option.some.injEq, exists_eq_left']
      have ascii :
          isAscii (expectedSignature hmac payload secret stamp) = true :=
        isAscii_hexdigest _
      by_cases incomparable :
          Incomparable (expectedSignature hmac payload secret stamp)
            (valuesOf "v1" (headerParts header))
      · rw [anyDigest_error ascii incomparable]
        simp [incomparable]
      · rw [anyDigest_ok ascii incomparable]
        simp [incomparable]

/-! ## Signing -/

/-- An item without white space is taken apart. -/
theorem headerPart_plain
    {key value : List Char}
    (noSpace : ∀ char ∈ key ++ '=' :: value, isSpace char = false)
    (oneSign : '=' ∉ key)
    (hasKey : key ≠ [])
    (hasValue : value ≠ []) :
    headerPart (.ofList (key ++ '=' :: value)) =
      some (.ofList key, .ofList value) := by
  have stripped :
      strip (.ofList (key ++ '=' :: value)) = .ofList (key ++ '=' :: value) :=
    strip_of_noSpace (by rwa [String.toList_ofList])
  unfold headerPart
  rw [stripped, partition_append oneSign]
  dsimp only
  rw [if_pos]
  simp [← String.toList_inj, hasKey, hasValue]

/-- The items of a signed header are its stamp and its signature. -/
theorem headerParts_signed
    {stamp signature : List Char}
    (stampPlain : ∀ char ∈ stamp, isSpace char = false ∧ char ≠ ',')
    (signaturePlain : ∀ char ∈ signature, isSpace char = false ∧ char ≠ ',')
    (hasStamp : stamp ≠ [])
    (hasSignature : signature ≠ []) :
    headerParts
        ("t=" ++ .ofList stamp ++ ",v1=" ++ .ofList signature) =
      [("t", .ofList stamp), ("v1", .ofList signature)] := by
  let items : List (List Char) :=
    [['t'] ++ '=' :: stamp, ['v', '1'] ++ '=' :: signature]
  have plain : ∀ item ∈ items, ∀ char ∈ item,
      isSpace char = false ∧ char ≠ ',' := by
    intro item isItem char member
    simp only [items, List.mem_cons, List.not_mem_nil, or_false] at isItem
    rcases isItem with rfl | rfl
    · simp only [List.mem_append, List.mem_cons, List.not_mem_nil, or_false]
        at member
      rcases member with rfl | rfl | inStamp
      · decide
      · decide
      · exact stampPlain char inStamp
    · simp only [List.mem_append, List.mem_cons, List.not_mem_nil, or_false]
        at member
      rcases member with (rfl | rfl) | rfl | inSignature
      · decide
      · decide
      · decide
      · exact signaturePlain char inSignature
  have joined :
      ("t=" ++ String.ofList stamp ++ ",v1=" ++
          String.ofList signature).toList =
        [','].intercalate items := by
    simp [items, List.intercalate]
  have cut : ([','].intercalate items).splitOn ',' = items :=
    List.splitOn_intercalate ','
      (fun item isItem comma => (plain item isItem ',' comma).2 rfl)
      (List.cons_ne_nil _ _)
  have noSpace (item : List Char) (isItem : item ∈ items) :
      ∀ char ∈ item, isSpace char = false :=
    fun char member => (plain item isItem char member).1
  have stampPart :=
    headerPart_plain (noSpace _ List.mem_cons_self) (by decide) (by decide)
      hasStamp
  have signaturePart :=
    headerPart_plain
      (noSpace _ (List.mem_cons_of_mem _ List.mem_cons_self))
      (by decide) (by decide) hasSignature
  unfold headerParts
  rw [joined, cut]
  simp only [items, List.map_cons, List.map_nil, List.filterMap_cons,
    List.filterMap_nil, stampPart, signaturePart]

/-- The items of what `sign_webhook_payload` returns. -/
theorem headerParts_signWebhookPayload
    {ts : Int}
    (signed : signWebhookPayload hmac payload secret ts = .ok header) :
    ∃ stamp,
      pythonInt stamp = some ts ∧
        headerParts header =
          [("t", stamp),
            ("v1", expectedSignature hmac payload secret stamp)] := by
  unfold signWebhookPayload at signed
  cases written : pythonStr ts with
  | none =>
      rw [written] at signed
      cases signed
  | some stamp =>
      rw [written] at signed
      cases signed
      refine ⟨stamp, pythonInt_pythonStr written, ?_⟩
      have isText := (Option.ite_none_right_eq_some.mp written).2
      cases isText
      have stampPlain :
          ∀ char ∈ decimalText ts, isSpace char = false ∧ char ≠ ',' := by
        intro char member
        rcases mem_decimalText member with rfl | isDigit
        · decide
        · exact ⟨(digit_plain isDigit).1, (digit_plain isDigit).2.1⟩
      have hasStamp : decimalText ts ≠ [] := by
        unfold decimalText
        split
        · exact List.cons_ne_nil _ _
        · exact Nat.toDigits_ne_nil
      generalize isSignature :
        expectedSignature hmac payload secret (.ofList (decimalText ts)) =
          signature
      have signaturePlain :
          ∀ char ∈ signature.toList, isSpace char = false ∧ char ≠ ',' := by
        intro char member
        rw [← isSignature] at member
        have plain := hexDigit_plain (mem_hexdigest member)
        exact ⟨plain.1, plain.2.1⟩
      have hasSignature : signature.toList ≠ [] := by
        rw [← isSignature, Ne, String.toList_eq_nil_iff]
        exact hexdigest_ne_empty _
      have parts :=
        headerParts_signed stampPlain signaturePlain hasStamp hasSignature
      rwa [String.ofList_toList] at parts

/-- A signed header is accepted within tolerance of its stamp. -/
theorem signed_accepted
    {ts : Int}
    (nonempty : secret ≠ "")
    (signed : signWebhookPayload hmac payload secret ts = .ok header)
    (fresh : (now - ts).natAbs ≤ tolerance) :
    verifyWebhookSignature hmac webhookSecret now payload (some header)
        (some secret) tolerance =
      .ok true := by
  obtain ⟨stamp, read, parts⟩ := headerParts_signWebhookPayload signed
  have isFresh : freshStamp now tolerance header = some stamp := by
    unfold freshStamp
    rw [parts]
    refine Option.filter_some_pos ?_
    rw [read, Option.any_some, decide_eq_true_iff]
    exact fresh
  have ascii : isAscii (expectedSignature hmac payload secret stamp) = true :=
    isAscii_hexdigest _
  rw [verifyWebhookSignature_eq nonempty, isFresh]
  simp [parts, valuesOf, anyDigest, compareDigest, ascii, Bind.bind,
    Except.bind]

/--
Webhook signatures.  A header is decided rightly unless the comparison runs
into a `v1` value that is not ASCII before it meets the expected signature; a
signed header is accepted within tolerance of its stamp.
-/
theorem webhook_signature_decided_iff
    (hmac : HmacSha256)
    (webhookSecret : String)
    (payload : List UInt8)
    {secret : String}
    (nonempty : secret ≠ "")
    (now tolerance : Int) :
    (∀ header : HeaderText,
        DecidedRightly hmac webhookSecret now payload header.text secret
            tolerance ↔
          ¬ RunsIntoForeign hmac now payload header.text secret tolerance) ∧
      ∀ ts header,
        signWebhookPayload hmac payload secret ts = .ok header →
          (now - ts).natAbs ≤ tolerance →
            verifyWebhookSignature hmac webhookSecret now payload
                (some header) (some secret) tolerance =
              .ok true :=
  ⟨fun _ => decidedRightly_iff nonempty,
    fun _ _ signed fresh => signed_accepted nonempty signed fresh⟩

end Verify

/-- The payload `{}`. -/
def emptyObject : List UInt8 := [123, 125]

/-- HMAC-SHA256 of `1000.{}` under the key `whsec`. -/
def sampleHmac : HmacSha256 := fun _ _ =>
  #v[18, 234, 68, 19, 145, 253, 208, 139, 32, 234, 241, 80, 179, 96, 146, 229,
    226, 169, 35, 231, 75, 214, 144, 159, 36, 248, 141, 212, 59, 99, 28, 178]

/-- A header whose only signature is not ASCII. -/
def foreignHeader : HeaderText where
  text := "t=1000,v1=é"
  latin1 := latin1_of_all (by decide)

/-- A header whose only signature is not ASCII raises. -/
theorem foreign_signature_raises :
    verifyWebhookSignature sampleHmac "" 1000 emptyObject
          (some foreignHeader.text) (some "whsec") 300 =
        .error .typeError ∧
      ¬ DecidedRightly sampleHmac "" 1000 emptyObject foreignHeader.text
          "whsec" 300 := by
  have raises :
      verifyWebhookSignature sampleHmac "" 1000 emptyObject
          (some foreignHeader.text) (some "whsec") 300 =
        .error .typeError := by
    decide +kernel
  refine ⟨raises, ?_⟩
  rintro ⟨accepts, refuses⟩
  by_cases genuine :
      Genuine sampleHmac 1000 emptyObject foreignHeader.text "whsec" 300
  · cases raises.symm.trans (accepts genuine)
  · cases raises.symm.trans (refuses genuine)

/-- A genuine signature after one that does not match. -/
def genuineHeader : HeaderText where
  text :=
    "t=1000,v1=00,v1=12ea441391fdd08b20eaf150b36092e5" ++
      "e2a923e74bd6909f24f88dd43b631cb2"
  latin1 := latin1_of_all (by decide)

/-- A header with a genuine signature is decided rightly. -/
theorem webhook_signature_decided_example :
    DecidedRightly sampleHmac "" 1000 emptyObject genuineHeader.text "whsec"
        300 ∧
      verifyWebhookSignature sampleHmac "" 1000 emptyObject
          (some genuineHeader.text) (some "whsec") 300 =
        .ok true := by
  have plain :
      ∀ sig ∈ valuesOf "v1" (headerParts genuineHeader.text),
        isAscii sig = true := by
    decide +kernel
  have comparable :
      ¬ RunsIntoForeign sampleHmac 1000 emptyObject genuineHeader.text "whsec"
          300 := by
    rintro ⟨stamp, _, before, sig, after, shape, foreign, _⟩
    have isPlain := plain sig (shape ▸ by simp)
    cases foreign.symm.trans isPlain
  have decided :=
    webhook_signature_decided_iff sampleHmac "" emptyObject
      (by decide : "whsec" ≠ "") 1000 300
  exact ⟨(decided.1 genuineHeader).mpr comparable, by decide +kernel⟩

end Crossing
