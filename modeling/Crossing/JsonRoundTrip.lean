import Crossing.JsonReader
import Mathlib.Data.List.Basic

namespace Python
namespace Json

/-!
# Reading what was written

A value is read back as it was written, whatever the spacing, and a scan never
runs out of steps.
-/

/-! ## Characters -/

/-- A hexadecimal digit is read back. -/
theorem hexDigit?_digitChar
    {digit : Nat}
    (small : digit < 16) :
    hexDigit? (Nat.digitChar digit) = some digit := by
  revert digit
  decide

/-- The four digits of a code unit are read back. -/
theorem readHex_digits
    {codeUnit : Nat}
    (small : codeUnit < 0x10000) :
    readHex (Nat.digitChar (codeUnit / 0x1000 % 16))
        (Nat.digitChar (codeUnit / 0x100 % 16))
        (Nat.digitChar (codeUnit / 0x10 % 16))
        (Nat.digitChar (codeUnit % 16)) =
      some codeUnit := by
  have digit (value : Nat) :
      hexDigit? (Nat.digitChar (value % 16)) = some (value % 16) :=
    hexDigit?_digitChar (Nat.mod_lt _ (by decide))
  simp only [readHex, digit, Option.bind_eq_bind, Option.bind_some,
    Option.some.injEq]
  omega

/-- The code units of a character have four digits. -/
theorem codeUnits_small
    {char : Char}
    {codeUnit : Nat}
    (member : codeUnit ∈ codeUnits char) :
    codeUnit < 0x10000 := by
  have inRange : char.toNat < 0x110000 := by
    rcases char.valid with below | ⟨_, below⟩
    · exact Nat.lt_trans below (by decide)
    · exact below
  unfold codeUnits at member
  split at member
  · rw [List.mem_singleton] at member
    omega
  · simp only [List.mem_cons, List.not_mem_nil, or_false] at member
    omega

/-- A character is no surrogate. -/
theorem no_surrogate
    {char : Char}
    (small : char.toNat < 0x10000) :
    isHigh char.toNat = false ∧ isLow char.toNat = false := by
  have valid : char.toNat < 0xd800 ∨ 0xdfff < char.toNat := by
    rcases char.valid with below | ⟨above, _⟩
    · exact .inl below
    · exact .inr above
  simp only [isHigh, isLow, Bool.and_eq_false_iff, decide_eq_false_iff_not]
  omega

/-- The code units of a character are joined to it. -/
theorem joinUnits_codeUnits (char : Char) (rest : List Nat) :
    joinUnits (codeUnits char ++ rest) =
      (joinUnits rest).map (char :: ·) := by
  unfold codeUnits
  split
  case isTrue small =>
    obtain ⟨notHigh, notLow⟩ := no_surrogate small
    rw [List.singleton_append, joinUnits.eq_def]
    simp [notHigh, notLow, Char.ofNat_toNat]
  case isFalse large =>
    have inRange : char.toNat < 0x110000 := by
      rcases char.valid with below | ⟨_, below⟩
      · exact Nat.lt_trans below (by decide)
      · exact below
    have high :
        isHigh (0xd800 + (char.toNat - 0x10000) / 0x400) = true := by
      simp only [isHigh, Bool.and_eq_true, decide_eq_true_eq]
      omega
    have low :
        isLow (0xdc00 + (char.toNat - 0x10000) % 0x400) = true := by
      simp only [isLow, Bool.and_eq_true, decide_eq_true_eq]
      omega
    have joined :
        joinPair (0xd800 + (char.toNat - 0x10000) / 0x400)
            (0xdc00 + (char.toNat - 0x10000) % 0x400) =
          char.toNat := by
      unfold joinPair
      omega
    simp [joinUnits, high, low, joined, Char.ofNat_toNat]

/-- The code units of a text are joined to it. -/
theorem joinUnits_text (text : List Char) :
    joinUnits (text.flatMap codeUnits) = some text := by
  induction text with
  | nil => rfl
  | cons char rest inductionHypothesis =>
      rw [List.flatMap_cons, joinUnits_codeUnits, inductionHypothesis]
      rfl

/-! ## Strings -/

/-- Items are pushed in front of what was read. -/
theorem foldr_push {α : Type} (items read : List α) (rest : List Char) :
    items.foldr push (.ok (read, rest)) = .ok (items ++ read, rest) := by
  induction items with
  | nil => rfl
  | cons item items inductionHypothesis =>
      rw [List.foldr_cons, inductionHypothesis]
      rfl

/-- An escape in digits is read back. -/
theorem scanUnits_hexEscape
    {codeUnit : Nat}
    (small : codeUnit < 0x10000)
    (rest : List Char) :
    scanUnits (hexEscape codeUnit ++ rest) =
      push codeUnit (scanUnits rest) := by
  have backslash : '\\' ≠ '"' := by decide
  simp only [hexEscape, List.cons_append, List.nil_append, scanUnits,
    backslash, if_false, if_true, readHex_digits small]

/-- So are several of them. -/
theorem scanUnits_hexEscapes
    {units : List Nat}
    {rest : List Char}
    (small : ∀ codeUnit ∈ units, codeUnit < 0x10000) :
    scanUnits (units.flatMap hexEscape ++ rest) =
      units.foldr push (scanUnits rest) := by
  induction units with
  | nil => rfl
  | cons codeUnit units inductionHypothesis =>
      obtain ⟨headSmall, restSmall⟩ := List.forall_mem_cons.mp small
      rw [List.flatMap_cons, List.append_assoc,
        scanUnits_hexEscape headSmall, inductionHypothesis restSmall]
      rfl

/-- An escape of one letter is read back. -/
theorem scanUnits_letter
    {char letter : Char}
    (member : (char, letter) ∈ writtenEscapes)
    (rest : List Char) :
    scanUnits ('\\' :: letter :: rest) =
        push char.toNat (scanUnits rest) ∧
      char.toNat < 0x10000 := by
  simp only [writtenEscapes, List.mem_cons, Prod.mk.injEq, List.not_mem_nil,
    or_false] at member
  rcases member with
    ⟨rfl, rfl⟩ | ⟨rfl, rfl⟩ | ⟨rfl, rfl⟩ | ⟨rfl, rfl⟩ | ⟨rfl, rfl⟩ |
      ⟨rfl, rfl⟩ | ⟨rfl, rfl⟩
  all_goals exact ⟨rfl, by decide⟩

/-- Printable ASCII is read as it stands. -/
theorem scanUnits_printable
    {char : Char}
    (plain : printable char = true)
    (unescaped : writtenEscapes.lookup char = none)
    (rest : List Char) :
    scanUnits (char :: rest) = push char.toNat (scanUnits rest) ∧
      char.toNat < 0x10000 := by
  simp only [printable, Bool.and_eq_true, decide_eq_true_eq] at plain
  have lower : 32 ≤ char.toNat := plain.1
  have upper : char.toNat ≤ 126 := plain.2
  have notQuote : char ≠ '"' := by
    rintro rfl
    revert unescaped
    decide
  have notBackslash : char ≠ '\\' := by
    rintro rfl
    revert unescaped
    decide
  constructor
  · rw [scanUnits.eq_def]
    simp only
    rw [if_neg notQuote, if_neg notBackslash, if_neg (by omega)]
  · omega

/-- A character is read back. -/
theorem scanUnits_writeChar (char : Char) (rest : List Char) :
    scanUnits (writeChar char ++ rest) =
      (codeUnits char).foldr push (scanUnits rest) := by
  have oneUnit (small : char.toNat < 0x10000) :
      codeUnits char = [char.toNat] := if_pos small
  unfold writeChar
  split
  case h_1 letter found =>
    have member : (char, letter) ∈ writtenEscapes := by
      obtain ⟨before, after, shape, _⟩ :=
        List.lookup_eq_some_iff.mp found
      rw [shape]
      simp
    obtain ⟨scanned, small⟩ := scanUnits_letter member rest
    rw [oneUnit small]
    exact scanned
  case h_2 unescaped =>
    split
    case isTrue plain =>
      obtain ⟨scanned, small⟩ := scanUnits_printable plain unescaped rest
      rw [oneUnit small]
      exact scanned
    case isFalse =>
      exact scanUnits_hexEscapes fun _ member => codeUnits_small member

/-- The characters of a string are read back up to the quote. -/
theorem scanUnits_text (text rest : List Char) :
    scanUnits (text.flatMap writeChar ++ '"' :: rest) =
      .ok (text.flatMap codeUnits, rest) := by
  induction text with
  | nil =>
      rw [List.flatMap_nil, List.nil_append, scanUnits.eq_def]
      rfl
  | cons char text inductionHypothesis =>
      rw [List.flatMap_cons, List.append_assoc, scanUnits_writeChar,
        inductionHypothesis, List.flatMap_cons, foldr_push]

/-- A quoted string is read back. -/
theorem scanString_quote (text : String) (rest : List Char) :
    scanString (text.toList.flatMap writeChar ++ '"' :: rest) =
      .ok (text, rest) := by
  unfold scanString
  rw [scanUnits_text]
  simp only [bind, Except.bind, joinUnits_text, String.ofList_toList]

/-! ## Numerals -/

/-- What may stand behind a numeral: nothing that would belong to it. -/
def NumberEnd (rest : List Char) : Prop :=
  ∀ head ∈ rest.head?,
    head.isDigit = false ∧ head ∉ ['.', 'e', 'E', '-', '+']

/-- The digits of a text end where it ends. -/
theorem span_append
    {text rest : List Char}
    (ends : NumberEnd rest) :
    (text ++ rest).span Char.isDigit =
      ((text.span Char.isDigit).1, (text.span Char.isDigit).2 ++ rest) := by
  simp only [List.span_eq_takeWhile_dropWhile, Prod.mk.injEq]
  induction text with
  | nil =>
      cases rest with
      | nil => simp
      | cons head rest =>
          have notDigit : head.isDigit = false := (ends head rfl).1
          simp [notDigit]
  | cons head text inductionHypothesis =>
      cases digit : head.isDigit with
      | false => simp [digit]
      | true => simpa [digit] using inductionHypothesis

/-- A sign is looked for in a text, and not behind it. -/
theorem scanSign_append
    {signs text rest : List Char}
    (known : signs ⊆ ['-', '+'])
    (ends : NumberEnd rest) :
    scanSign signs (text ++ rest) =
      ((scanSign signs text).1, (scanSign signs text).2 ++ rest) := by
  cases text with
  | cons head text =>
      simp only [List.cons_append, scanSign]
      split <;> rfl
  | nil =>
      cases rest with
      | nil => rfl
      | cons head rest =>
          have noSign : head ∉ signs := by
            intro member
            refine (ends head rfl).2 ?_
            have sign := known member
            simp only [List.mem_cons, List.not_mem_nil, or_false] at sign ⊢
            tauto
          simp [scanSign, noSign]

/-- The integer part is in the text. -/
theorem scanWhole_append
    {text rest : List Char}
    (ends : NumberEnd rest) :
    scanWhole (text ++ rest) =
      ((scanWhole text).1, (scanWhole text).2 ++ rest) := by
  cases text with
  | cons head text =>
      simp only [List.cons_append, scanWhole]
      split
      · rfl
      · have split := @span_append (head :: text) rest ends
        exact split
  | nil =>
      cases rest with
      | nil => rfl
      | cons head rest =>
          have notDigit : head.isDigit = false := (ends head rfl).1
          have notZero : head ≠ '0' := by
            rintro rfl
            revert notDigit
            decide
          simp [scanWhole, notZero, List.span_eq_takeWhile_dropWhile,
            notDigit]

/-- The fraction is in the text. -/
theorem scanFraction_append
    {text rest : List Char}
    (ends : NumberEnd rest) :
    scanFraction (text ++ rest) =
      ((scanFraction text).1, (scanFraction text).2 ++ rest) := by
  cases text with
  | cons head text =>
      simp only [List.cons_append, scanFraction, span_append ends]
      split <;> rfl
  | nil =>
      cases rest with
      | nil => rfl
      | cons head rest =>
          have notPoint : head ≠ '.' := by
            rintro rfl
            exact (ends '.' rfl).2 (by decide)
          simp [scanFraction, notPoint]

/-- The exponent is in the text. -/
theorem scanExponent_append
    {text rest : List Char}
    (ends : NumberEnd rest) :
    scanExponent (text ++ rest) =
      ((scanExponent text).1, (scanExponent text).2 ++ rest) := by
  cases text with
  | cons head text =>
      simp only [List.cons_append, scanExponent,
        scanSign_append (List.Subset.refl _) ends, span_append ends]
      split <;> rfl
  | nil =>
      cases rest with
      | nil => rfl
      | cons head rest =>
          have notMark : ¬ (head = 'e' ∨ head = 'E') := by
            rintro (rfl | rfl)
            · exact (ends 'e' rfl).2 (by decide)
            · exact (ends 'E' rfl).2 (by decide)
          simp [scanExponent, notMark]

/-- A numeral ends where its text ends. -/
theorem scanNumeral_append
    {text rest : List Char}
    (ends : NumberEnd rest) :
    scanNumeral (text ++ rest) =
      (scanNumeral text).map fun read => (read.1, read.2 ++ rest) := by
  have minus : ['-'] ⊆ ['-', '+'] := by simp
  simp only [scanNumeral, scanSign_append minus ends,
    scanWhole_append ends, scanFraction_append ends,
    scanExponent_append ends]
  split <;> rfl

/-- An optional sign and what is left make up the text. -/
theorem scanSign_text (signs text : List Char) :
    (scanSign signs text).1 ++ (scanSign signs text).2 = text := by
  cases text with
  | nil => rfl
  | cons head rest =>
      simp only [scanSign]
      split <;> rfl

/-- The same for the digits. -/
theorem span_text (text : List Char) :
    (text.span Char.isDigit).1 ++ (text.span Char.isDigit).2 = text := by
  rw [List.span_eq_takeWhile_dropWhile]
  exact List.takeWhile_append_dropWhile

/-- The same for the integer part. -/
theorem scanWhole_text (text : List Char) :
    (scanWhole text).1 ++ (scanWhole text).2 = text := by
  cases text with
  | nil => rfl
  | cons head rest =>
      simp only [scanWhole]
      split
      case isTrue zero =>
          rw [zero]
          rfl
      case isFalse => exact span_text (head :: rest)

/-- The same for the fraction. -/
theorem scanFraction_text (text : List Char) :
    (scanFraction text).1 ++ (scanFraction text).2 = text := by
  cases text with
  | nil => rfl
  | cons head rest =>
      simp only [scanFraction]
      split
      · rw [List.cons_append, span_text]
      · rfl

/-- The same for the exponent. -/
theorem scanExponent_text (text : List Char) :
    (scanExponent text).1 ++ (scanExponent text).2 = text := by
  cases text with
  | nil => rfl
  | cons head rest =>
      simp only [scanExponent]
      split
      · rw [List.cons_append, List.append_assoc, span_text, scanSign_text]
      · rfl

/-- A numeral and what is left make up the text. -/
theorem scanNumeral_text
    {text rest : List Char}
    {numeral : Numeral}
    (read : scanNumeral text = some (numeral, rest)) :
    numeral.text ++ rest = text := by
  simp only [scanNumeral] at read
  split at read
  · cases read
  · obtain ⟨rfl, rfl⟩ := Prod.mk.inj (Option.some.inj read)
    simp only [Numeral.text, List.append_assoc, scanExponent_text,
      scanFraction_text, scanWhole_text, scanSign_text]

/-- The integer part starts with a digit. -/
theorem scanWhole_head
    {text : List Char}
    (present : (scanWhole text).1 ≠ []) :
    ∃ digit ∈ text.head?, digit.isDigit = true := by
  cases text with
  | nil => exact absurd rfl present
  | cons head rest =>
      refine ⟨head, rfl, ?_⟩
      by_contra notDigit
      have notZero : head ≠ '0' := by
        rintro rfl
        exact notDigit rfl
      refine present ?_
      simp [scanWhole, notZero, List.span_eq_takeWhile_dropWhile, notDigit]

/-- A numeral starts with a digit, behind its sign. -/
theorem scanNumeral_head
    {text rest : List Char}
    {numeral : Numeral}
    (read : scanNumeral text = some (numeral, rest)) :
    ∃ digit after,
      digit.isDigit = true ∧
        (text = digit :: after ∨ text = '-' :: digit :: after) := by
  simp only [scanNumeral] at read
  split at read
  case isTrue => cases read
  case isFalse present =>
    obtain ⟨digit, first, isDigit⟩ := scanWhole_head present
    obtain ⟨after, shape⟩ := List.head?_eq_some_iff.mp first
    refine ⟨digit, after, isDigit, ?_⟩
    cases text with
    | nil => cases shape
    | cons head tail =>
        by_cases minus : head = '-'
        · right
          simpa [scanSign, minus] using shape
        · left
          simpa [scanSign, minus] using shape

/-! ## Integers -/

/-- The digits of a number that is not zero start with no zero. -/
theorem toDigits_head
    {value : Nat}
    (positive : 0 < value) :
    ∃ head rest, Nat.toDigits 10 value = head :: rest ∧ head ≠ '0' := by
  induction value using Nat.strong_induction_on with
  | h value inductionHypothesis =>
      rw [Nat.toDigits_eq_if (by decide)]
      split
      case isTrue small =>
          have digits :
              ∀ digit < 10, 0 < digit → Nat.digitChar digit ≠ '0' := by
            decide
          exact ⟨_, [], rfl, digits value small positive⟩
      case isFalse large =>
          obtain ⟨head, rest, shape, notZero⟩ :=
            inductionHypothesis (value / 10) (by omega) (by omega)
          exact ⟨head, rest ++ [Nat.digitChar (value % 10)],
            by rw [shape]; rfl, notZero⟩

/-- Digits are read to their end. -/
theorem span_digits
    {digits : List Char}
    (allDigits : ∀ char ∈ digits, char.isDigit = true) :
    digits.span Char.isDigit = (digits, []) := by
  rw [List.span_eq_takeWhile_dropWhile]
  induction digits with
  | nil => rfl
  | cons head rest inductionHypothesis =>
      obtain ⟨headDigit, restDigits⟩ := List.forall_mem_cons.mp allDigits
      simpa [headDigit] using inductionHypothesis restDigits

/-- The digits of a number are an integer part. -/
theorem scanWhole_toDigits (value : Nat) :
    scanWhole (Nat.toDigits 10 value) = (Nat.toDigits 10 value, []) := by
  rcases Nat.eq_zero_or_pos value with rfl | positive
  · rfl
  · obtain ⟨head, rest, shape, notZero⟩ := toDigits_head positive
    have allDigits : ∀ char ∈ head :: rest, char.isDigit = true := by
      intro char member
      rw [← shape] at member
      exact Nat.isDigit_of_mem_toDigits (by decide) (by decide) member
    rw [shape, scanWhole, if_neg notZero, span_digits allDigits]

/-- The digits of a number start with no sign. -/
theorem scanSign_toDigits (value : Nat) :
    scanSign ['-'] (Nat.toDigits 10 value) = ([], Nat.toDigits 10 value) := by
  cases shape : Nat.toDigits 10 value with
  | nil => rfl
  | cons head rest =>
      have digit : head.isDigit = true :=
        Nat.isDigit_of_mem_toDigits (b := 10) (n := value) (by decide)
          (by decide) (shape ▸ List.mem_cons_self)
      have noSign : head ∉ ['-'] := by
        rw [List.mem_singleton]
        rintro rfl
        revert digit
        decide
      rw [scanSign, if_neg noSign]

/-- The value of a numeral without fraction and exponent. -/
theorem value_int
    {sign digits : List Char}
    (floats : FloatText)
    (short : digits.length ≤ digitLimit) :
    Numeral.value floats ⟨sign, digits, [], []⟩ =
      .ok (.int (Numeral.toInt ⟨sign, digits, [], []⟩)) := by
  have integer : Numeral.isFloat ⟨sign, digits, [], []⟩ = false := rfl
  rw [Numeral.value, integer, if_neg Bool.false_ne_true]
  exact if_pos short

/-- The text of an integer is a numeral that stands for it. -/
theorem scanNumeral_int (floats : FloatText) {value : Int}
    (short : shortInt value = true) :
    ∃ numeral,
      scanNumeral value.repr.toList = some (numeral, []) ∧
        numeral.value floats = .ok (.int value) := by
  cases value with
  | ofNat value =>
      have fits : (Nat.toDigits 10 value).length ≤ digitLimit :=
        of_decide_eq_true short
      have text : (Int.repr (.ofNat value)).toList =
          Nat.toDigits 10 value := Nat.toList_repr
      refine ⟨⟨[], Nat.toDigits 10 value, [], []⟩, ?_, ?_⟩
      · rw [text]
        simp [scanNumeral, scanSign_toDigits, scanWhole_toDigits,
          scanFraction, scanExponent]
      · rw [value_int floats fits]
        simp [Numeral.toInt, Nat.ofDigitChars_ten_toDigits]
  | negSucc value =>
      have fits : (Nat.toDigits 10 (value + 1)).length ≤ digitLimit :=
        of_decide_eq_true short
      have text : (Int.repr (.negSucc value)).toList =
          '-' :: Nat.toDigits 10 (value + 1) := by
        simp [Int.repr, Nat.toList_repr]
      refine ⟨⟨['-'], Nat.toDigits 10 (value + 1), [], []⟩, ?_, ?_⟩
      · rw [text]
        simp [scanNumeral, scanSign, scanWhole_toDigits, scanFraction,
          scanExponent]
      · rw [value_int floats fits]
        simp [Numeral.toInt, Nat.ofDigitChars_ten_toDigits, Int.negSucc_eq]

/-! ## Scalars -/

/-- A numeral is no constant. -/
theorem scanScalar_numeral
    {text rest : List Char}
    {numeral : Numeral}
    (floats : FloatText)
    (read : scanNumeral text = some (numeral, rest)) :
    scanScalar floats text = (numeral.value floats).map (·, rest) := by
  have noConstant :
      constants.find? (fun constant => constant.1.isPrefixOf text) =
        none := by
    obtain ⟨digit, after, isDigit, rfl | rfl⟩ := scanNumeral_head read
    all_goals
      have other : digit ≠ 'n' ∧ digit ≠ 't' ∧ digit ≠ 'f' ∧ digit ≠ 'N' ∧
          digit ≠ 'I' ∧ digit ≠ '-' := by
        refine ⟨?_, ?_, ?_, ?_, ?_, ?_⟩ <;>
          (rintro rfl; revert isDigit; decide)
      simp [constants, List.isPrefixOf, Ne.symm other.1,
        Ne.symm other.2.1, Ne.symm other.2.2.1, Ne.symm other.2.2.2.1,
        Ne.symm other.2.2.2.2.1, Ne.symm other.2.2.2.2.2]
  rw [scanScalar, noConstant, read]

/-- What a value is written as starts with no white space, nor closes one. -/
def Opens (head : Char) : Prop :=
  isWhite head = false ∧ head ≠ ']' ∧ head ≠ '\uFEFF'

section

variable (floats : FloatText) (space : List Char)

/-- A numeral opens a value, and is read as a scalar. -/
theorem scan_numeral
    {text rest : List Char}
    {numeral : Numeral}
    {value : Json}
    {steps : Nat}
    (read : scanNumeral text = some (numeral, []))
    (denotes : numeral.value floats = .ok value)
    (ends : NumberEnd rest) :
    scan floats (steps + 1) (text ++ rest) = .ok (value, rest) := by
  have readOn : scanNumeral (text ++ rest) = some (numeral, rest) := by
    rw [scanNumeral_append ends, read]
    rfl
  have scalar :
      scanScalar floats (text ++ rest) = .ok (value, rest) := by
    rw [scanScalar_numeral floats readOn, denotes]
    rfl
  obtain ⟨digit, after, isDigit, shape | shape⟩ := scanNumeral_head readOn
  · have other : digit ≠ '"' ∧ digit ≠ '{' ∧ digit ≠ '[' := by
      refine ⟨?_, ?_, ?_⟩ <;> (rintro rfl; revert isDigit; decide)
    rw [shape] at scalar ⊢
    rw [scan, if_neg other.1, if_neg other.2.1, if_neg other.2.2, scalar]
  · rw [shape] at scalar ⊢
    rw [scan, if_neg (by decide), if_neg (by decide), if_neg (by decide),
      scalar]

/-- A numeral opens a value. -/
theorem opens_numeral
    {text rest : List Char}
    {numeral : Numeral}
    (read : scanNumeral text = some (numeral, rest)) :
    ∃ head tail, text = head :: tail ∧ Opens head := by
  obtain ⟨digit, after, isDigit, rfl | rfl⟩ := scanNumeral_head read
  · refine ⟨digit, after, rfl, ?_, ?_, ?_⟩
    · simp only [isWhite, Bool.or_eq_false_iff, decide_eq_false_iff_not]
      refine ⟨⟨⟨?_, ?_⟩, ?_⟩, ?_⟩ <;> (rintro rfl; revert isDigit; decide)
    · rintro rfl
      revert isDigit
      decide
    · rintro rfl
      revert isDigit
      decide
  · exact ⟨'-', _, rfl, by decide, by decide, by decide⟩

/-- The text of a float is a numeral that stands for it. -/
theorem scanNumeral_float
    {value : Rat}
    (denoted : floats.Denoted value) :
    ∃ numeral,
      scanNumeral (floats.repr value) = some (numeral, []) ∧
        numeral.value floats = .ok (.float (.finite value)) := by
  obtain ⟨text, parsed⟩ := denoted
  obtain ⟨numeral, read, isFloat⟩ := floats.repr_numeral parsed
  have whole : numeral.text = floats.repr value := by
    simpa using scanNumeral_text read
  refine ⟨numeral, read, ?_⟩
  rw [Numeral.value, if_pos isFloat, whole, floats.parse_repr parsed]

/-- What a value is written as opens one. -/
theorem write_opens
    {value : Json}
    (proper : value.Proper floats)
    (fits : value.intsFit = true) :
    ∃ head tail, value.write floats space = head :: tail ∧ Opens head := by
  have opens (head : Char) (tail : List Char)
      (isOpen :
        (isWhite head = false ∧ head ≠ ']' ∧ head ≠ '\uFEFF') := by decide) :
      ∃ head' tail', head :: tail = head' :: tail' ∧ Opens head' :=
    ⟨head, tail, rfl, isOpen⟩
  cases value with
  | null => exact opens 'n' _
  | bool value =>
      cases value
      · exact opens 'f' _
      · exact opens 't' _
  | int value =>
      obtain ⟨numeral, read, _⟩ := scanNumeral_int floats fits
      exact opens_numeral read
  | float value =>
      cases value with
      | negativeInfinity => exact opens '-' _
      | infinity => exact opens 'I' _
      | finite value =>
          obtain ⟨numeral, read, _⟩ := scanNumeral_float floats proper
          exact opens_numeral read
  | string text => exact opens '"' _
  | array items => exact opens '[' _
  | object fields => exact opens '{' _

/-! ## Values -/

/-- White space is skipped up to the next token. -/
theorem skip_space
    {space tail : List Char}
    {head : Char}
    (white : ∀ char ∈ space, isWhite char = true)
    (token : isWhite head = false) :
    skip (space ++ head :: tail) = head :: tail := by
  rw [skip, List.dropWhile_append_of_pos white,
    List.dropWhile_cons_of_neg (by rw [token]; exact Bool.false_ne_true)]

/-- A token is not skipped. -/
theorem skip_token
    {head : Char}
    {tail : List Char}
    (token : isWhite head = false) :
    skip (head :: tail) = head :: tail := by
  rw [skip, List.dropWhile_cons_of_neg
    (by rw [token]; exact Bool.false_ne_true)]

/-- The character that comes next is eaten. -/
theorem eat_self (char : Char) (rest : List Char) :
    eat char (char :: rest) = some rest :=
  if_pos rfl

/-- No other character is. -/
theorem eat_other
    {char head : Char}
    {rest : List Char}
    (other : head ≠ char) :
    eat char (head :: rest) = none :=
  if_neg other

/-- A comma and both closing marks end a numeral. -/
theorem numberEnd_mark
    {head : Char}
    {tail : List Char}
    (mark : head ∈ [',', ']', '}']) :
    NumberEnd (head :: tail) := by
  simp only [List.mem_cons, List.not_mem_nil, or_false] at mark
  intro head' first
  cases first
  rcases mark with rfl | rfl | rfl <;> decide

/-- The first item of an array opens what comes behind the bracket. -/
theorem writeItems_opens
    {item : Json}
    {rest : List Json}
    (proper : item.Proper floats)
    (fits : item.intsFit = true) :
    ∃ head tail,
      writeItems floats space (item :: rest) = head :: tail ∧ Opens head := by
  obtain ⟨head, tail, shape, isOpen⟩ :=
    write_opens floats space proper fits
  cases rest with
  | nil => exact ⟨head, _, by rw [writeItems, shape]; rfl, isOpen⟩
  | cons next rest => exact ⟨head, _, by rw [writeItems, shape]; rfl, isOpen⟩

/-- The first key of an object comes behind the brace. -/
theorem writeFields_opens (field : String × Json) (rest : List (String × Json)) :
    ∃ tail, writeFields floats space (field :: rest) = '"' :: tail := by
  cases rest <;> exact ⟨_, rfl⟩

variable {floats space}

/-- An array is scanned when its items are. -/
theorem scan_array
    {items : List Json}
    {rest : List Char}
    {steps : Nat}
    (proper : ProperItems floats items)
    (fits : intsFitItems items = true)
    (scanned :
      items ≠ [] →
        scanItems floats steps (writeItems floats space items ++ rest) =
          .ok (items, rest)) :
    scan floats (steps + 1)
        ((Json.array items).write floats space ++ rest) =
      .ok (.array items, rest) := by
  cases items with
  | nil => rfl
  | cons item more =>
      simp only [ProperItems, intsFitItems, Bool.and_eq_true] at proper fits
      obtain ⟨head, tail, shape, token, notClose, _⟩ :=
        @writeItems_opens floats space item more proper.1 fits.1
      have itemsScanned := scanned (List.cons_ne_nil item more)
      rw [shape] at itemsScanned
      rw [write, shape]
      simp only [List.cons_append] at itemsScanned ⊢
      rw [scan, if_neg (by decide), if_neg (by decide), if_pos rfl,
        skip_token token, eat_other notClose]
      simp only [itemsScanned]
      rfl

/-- Fields with distinct keys are a dict as they are. -/
theorem dictOf_eq_self
    {fields : List (String × Json)}
    (distinct : (fields.map Prod.fst).Nodup) :
    dictOf fields = fields := by
  have grow :
      ∀ (later kept : List (String × Json)),
        ((kept ++ later).map Prod.fst).Nodup →
          later.foldl setField kept = kept ++ later := by
    intro later
    induction later with
    | nil =>
        intro kept _
        rw [List.foldl_nil, List.append_nil]
    | cons field later inductionHypothesis =>
        intro kept nodup
        have fresh : field.1 ∉ kept.map Prod.fst := by
          intro member
          rw [List.map_append, List.map_cons] at nodup
          exact List.disjoint_of_nodup_append nodup member
            List.mem_cons_self
        have next : kept ++ field :: later = kept ++ [field] ++ later := by
          rw [List.append_assoc, List.singleton_append]
        rw [List.foldl_cons, setField, if_neg fresh,
          inductionHypothesis (kept ++ [field]) (next ▸ nodup), next]
  exact grow fields [] distinct

/-- An object is scanned when its fields are. -/
theorem scan_object
    {fields : List (String × Json)}
    {rest : List Char}
    {steps : Nat}
    (distinct : (fields.map Prod.fst).Nodup)
    (scanned :
      fields ≠ [] →
        scanFields floats steps (writeFields floats space fields ++ rest) =
          .ok (fields, rest)) :
    scan floats (steps + 1)
        ((Json.object fields).write floats space ++ rest) =
      .ok (.object fields, rest) := by
  cases fields with
  | nil => rfl
  | cons field more =>
      obtain ⟨tail, shape⟩ := writeFields_opens floats space field more
      have fieldsScanned := scanned (List.cons_ne_nil field more)
      rw [shape] at fieldsScanned
      rw [write, shape]
      simp only [List.cons_append] at fieldsScanned ⊢
      rw [scan, if_neg (by decide), if_pos rfl, skip_token (by decide),
        eat_other (by decide)]
      simp only [fieldsScanned, bind, Except.bind, dictOf_eq_self distinct]

/-- The last item of an array. -/
theorem scanItems_last
    {text rest : List Char}
    {item : Json}
    {steps : Nat}
    (scanned : scan floats steps text = .ok (item, ']' :: rest)) :
    scanItems floats (steps + 1) text = .ok ([item], rest) := by
  rw [scanItems, scanned]
  rfl

/-- An item with others behind it. -/
theorem scanItems_more
    {text after rest : List Char}
    {item : Json}
    {items : List Json}
    {steps : Nat}
    (scanned : scan floats steps text = .ok (item, ',' :: after))
    (others : scanItems floats steps (skip after) = .ok (items, rest)) :
    scanItems floats (steps + 1) text = .ok (item :: items, rest) := by
  have comma : isWhite ',' = false := rfl
  have otherMark : ',' ≠ ']' := by decide
  rw [scanItems, scanned]
  simp only [bind, Except.bind, skip_token comma, eat_other otherMark,
    eat_self, others]
  rfl

/-- The last field of an object. -/
theorem scanFields_last
    {key : String}
    {value : Json}
    {after rest : List Char}
    {steps : Nat}
    (white : ∀ char ∈ space, isWhite char = true)
    (opens : ∃ head tail, after = head :: tail ∧ Opens head)
    (scanned : scan floats steps after = .ok (value, '}' :: rest)) :
    scanFields floats (steps + 1) (quote key ++ ':' :: (space ++ after)) =
      .ok ([(key, value)], rest) := by
  obtain ⟨head, tail, rfl, token, _⟩ := opens
  have colon : isWhite ':' = false := rfl
  rw [scanFields, quote, List.cons_append, eat_self, List.append_assoc,
    List.singleton_append]
  simp only [bind, Except.bind, scanString_quote, skip_token colon,
    eat_self, skip_space white token, scanned]
  rfl

/-- A field with others behind it. -/
theorem scanFields_more
    {key : String}
    {value : Json}
    {fields : List (String × Json)}
    {after behind rest : List Char}
    {steps : Nat}
    (white : ∀ char ∈ space, isWhite char = true)
    (opens : ∃ head tail, after = head :: tail ∧ Opens head)
    (scanned : scan floats steps after = .ok (value, ',' :: behind))
    (others : scanFields floats steps (skip behind) = .ok (fields, rest)) :
    scanFields floats (steps + 1) (quote key ++ ':' :: (space ++ after)) =
      .ok ((key, value) :: fields, rest) := by
  obtain ⟨head, tail, rfl, token, _⟩ := opens
  have colon : isWhite ':' = false := rfl
  have comma : isWhite ',' = false := rfl
  have otherMark : ',' ≠ '}' := by decide
  rw [scanFields, quote, List.cons_append, eat_self, List.append_assoc,
    List.singleton_append]
  simp only [bind, Except.bind, scanString_quote, skip_token colon,
    eat_self, skip_space white token, scanned, skip_token comma,
    eat_other otherMark, others]
  rfl

/-- What opens a value is found behind the spacing. -/
theorem skip_opens
    {text : List Char}
    (white : ∀ char ∈ space, isWhite char = true)
    (opens : ∃ head tail, text = head :: tail ∧ Opens head)
    (after : List Char) :
    skip (space ++ (text ++ after)) = text ++ after := by
  obtain ⟨head, tail, rfl, token, _⟩ := opens
  exact skip_space white token

/-- What has more steps than some number has a step. -/
theorem step_of_lt
    {bound steps : Nat}
    (enough : bound < steps) :
    ∃ before, steps = before + 1 :=
  Nat.exists_eq_succ_of_ne_zero (Nat.ne_zero_of_lt enough)

mutual

/--
A value is read back from its text, in as many steps as the text allows for.
The induction is on the value: each token pays for the calls around it.
-/
theorem scan_write
    (white : ∀ char ∈ space, isWhite char = true)
    (value : Json)
    {steps : Nat}
    {rest : List Char}
    (proper : value.Proper floats)
    (fits : value.intsFit = true)
    (ends : NumberEnd rest)
    (enough : 2 * (value.write floats space).length < steps) :
    scan floats steps (value.write floats space ++ rest) =
      .ok (value, rest) := by
  obtain ⟨steps, rfl⟩ := step_of_lt enough
  cases value with
  | null => rfl
  | bool value => cases value <;> rfl
  | int value =>
      obtain ⟨numeral, read, denotes⟩ := scanNumeral_int floats fits
      exact scan_numeral floats read denotes ends
  | float value =>
      cases value with
      | negativeInfinity => rfl
      | infinity => rfl
      | finite value =>
          obtain ⟨numeral, read, denotes⟩ := scanNumeral_float floats proper
          exact scan_numeral floats read denotes ends
  | string text =>
      rw [write, quote, List.cons_append, scan, if_pos rfl,
        List.append_assoc, List.singleton_append, scanString_quote]
      rfl
  | array items =>
      simp only [write, List.length_cons] at enough
      exact scan_array proper fits fun present =>
        scanItems_write white items present proper fits (by omega)
  | object fields =>
      simp only [write, List.length_cons] at enough
      exact scan_object proper.1 fun present =>
        scanFields_write white fields present proper.2 fits (by omega)

/-- The same for the items of an array. -/
theorem scanItems_write
    (white : ∀ char ∈ space, isWhite char = true)
    (items : List Json)
    {steps : Nat}
    {rest : List Char}
    (present : items ≠ [])
    (proper : ProperItems floats items)
    (fits : intsFitItems items = true)
    (enough : 2 * (writeItems floats space items).length ≤ steps) :
    scanItems floats steps (writeItems floats space items ++ rest) =
      .ok (items, rest) := by
  cases items with
  | nil => exact absurd rfl present
  | cons item more =>
      obtain ⟨itemProper, moreProper⟩ := proper
      obtain ⟨itemFits, moreFits⟩ := Bool.and_eq_true_iff.mp fits
      cases more with
      | nil =>
          simp only [writeItems, List.length_append, List.length_singleton]
            at enough
          obtain ⟨steps, rfl⟩ := step_of_lt (show 0 < steps by omega)
          rw [writeItems, List.append_assoc]
          exact scanItems_last
            (scan_write white item itemProper itemFits
              (numberEnd_mark (by decide)) (by omega))
      | cons next more =>
          simp only [writeItems, List.length_append, List.length_cons]
            at enough
          obtain ⟨steps, rfl⟩ := step_of_lt (show 0 < steps by omega)
          have opens :=
            @writeItems_opens floats space next more moreProper.1
              (Bool.and_eq_true_iff.mp moreFits).1
          rw [writeItems, List.append_assoc, List.cons_append,
            List.append_assoc]
          refine scanItems_more
            (scan_write white item itemProper itemFits
              (numberEnd_mark (by decide)) (by omega)) ?_
          rw [skip_opens white opens]
          exact scanItems_write white (next :: more) (List.cons_ne_nil _ _)
            moreProper moreFits (by omega)

/-- The same for the fields of an object. -/
theorem scanFields_write
    (white : ∀ char ∈ space, isWhite char = true)
    (fields : List (String × Json))
    {steps : Nat}
    {rest : List Char}
    (present : fields ≠ [])
    (proper : ProperFields floats fields)
    (fits : intsFitFields fields = true)
    (enough : 2 * (writeFields floats space fields).length ≤ steps) :
    scanFields floats steps (writeFields floats space fields ++ rest) =
      .ok (fields, rest) := by
  cases fields with
  | nil => exact absurd rfl present
  | cons field more =>
      obtain ⟨key, value⟩ := field
      obtain ⟨valueProper, moreProper⟩ := proper
      obtain ⟨valueFits, moreFits⟩ := Bool.and_eq_true_iff.mp fits
      have opens (after : List Char) :
          ∃ head tail,
            value.write floats space ++ after = head :: tail ∧ Opens head := by
        obtain ⟨head, tail, shape, isOpen⟩ :=
          write_opens floats space valueProper valueFits
        exact ⟨head, tail ++ after, by rw [shape]; rfl, isOpen⟩
      cases more with
      | nil =>
          simp only [writeFields, List.length_append, List.length_cons]
            at enough
          obtain ⟨steps, rfl⟩ := step_of_lt (show 0 < steps by omega)
          rw [writeFields, List.append_assoc, List.cons_append,
            List.append_assoc, List.append_assoc]
          exact scanFields_last white (opens _)
            (scan_write white value valueProper valueFits
              (numberEnd_mark (by decide)) (by omega))
      | cons next more =>
          simp only [writeFields, List.length_append, List.length_cons]
            at enough
          obtain ⟨steps, rfl⟩ := step_of_lt (show 0 < steps by omega)
          obtain ⟨tail, shape⟩ := writeFields_opens floats space next more
          rw [writeFields, List.append_assoc, List.cons_append,
            List.append_assoc, List.append_assoc, List.cons_append,
            List.append_assoc]
          refine scanFields_more white (opens _)
            (scan_write white value valueProper valueFits
              (numberEnd_mark (by decide)) (by omega)) ?_
          rw [skip_opens white ⟨'"', tail, shape, by decide, by decide,
            by decide⟩]
          exact scanFields_write white (next :: more) (List.cons_ne_nil _ _)
            moreProper moreFits (by omega)

end

/-- A text that was written is loaded as it was. -/
theorem loads_write
    {value : Json}
    (white : ∀ char ∈ space, isWhite char = true)
    (proper : value.Proper floats)
    (fits : value.intsFit = true) :
    loads floats (value.write floats space) = .ok value := by
  obtain ⟨head, tail, shape, token, _, notMark⟩ :=
    write_opens floats space proper fits
  have noMark : (value.write floats space).head? ≠ some '\uFEFF' := by
    rw [shape]
    exact fun same => notMark (Option.some.inj same)
  have start :
      skip (value.write floats space) = value.write floats space := by
    rw [shape, skip_token token]
  have scanned :
      scan floats (stepsFor (value.write floats space))
          (value.write floats space) =
        .ok (value, []) := by
    have ran :=
      @scan_write floats space white value
        (stepsFor (value.write floats space)) [] proper fits
        (fun _ first => nomatch first) (Nat.lt_succ_self _)
    rwa [List.append_nil] at ran
  rw [loads, if_neg noMark, start]
  simp only [scanned, bind, Except.bind]
  rfl

/-- What `json.dumps` gives is loaded as it was. -/
theorem loads_dumps
    {value : Json}
    {text : List Char}
    (white : ∀ char ∈ space, isWhite char = true)
    (proper : value.Proper floats)
    (dumped : value.dumps floats space = some text) :
    loads floats text = .ok value := by
  unfold dumps at dumped
  split at dumped
  case isTrue fits =>
    cases dumped
    exact loads_write white proper fits
  case isFalse => cases dumped

end

/-! ## What texts are made of -/

/-- The characters of numerals. -/
def inNumeral (char : Char) : Bool :=
  char.isDigit || ['.', 'e', 'E', '-', '+'].contains char

/-- They are printable. -/
theorem printable_inNumeral
    {char : Char}
    (member : inNumeral char = true) :
    printable char = true := by
  unfold inNumeral at member
  rcases Bool.or_eq_true_iff.mp member with digit | mark
  · simp only [Char.isDigit, Bool.and_eq_true, decide_eq_true_eq] at digit
    simp only [printable, Bool.and_eq_true, decide_eq_true_eq]
    exact ⟨Nat.le_trans (by decide) digit.1, Nat.le_trans digit.2 (by decide)⟩
  · have marks :
        ∀ char ∈ ['.', 'e', 'E', '-', '+'], printable char = true :=
      List.all_eq_true.mp rfl
    exact marks char (List.contains_iff_mem.mp mark)

/-- A sign is one of the characters of numerals. -/
theorem scanSign_inNumeral
    {signs text : List Char}
    (known : signs ⊆ ['-', '+']) :
    ∀ char ∈ (scanSign signs text).1, inNumeral char = true := by
  have marks : ∀ char ∈ ['-', '+'], inNumeral char = true :=
    List.all_eq_true.mp rfl
  cases text with
  | nil => exact nofun
  | cons head rest =>
      simp only [scanSign]
      split
      case isTrue member =>
        simpa using marks head (known member)
      case isFalse => exact nofun

/-- Digits are among them. -/
theorem span_inNumeral (text : List Char) :
    ∀ char ∈ (text.span Char.isDigit).1, inNumeral char = true := by
  rw [List.span_eq_takeWhile_dropWhile]
  intro char member
  have digit := List.all_eq_true.mp List.all_takeWhile char member
  simp [inNumeral, digit]

/-- A fraction is made of them. -/
theorem scanFraction_inNumeral (text : List Char) :
    ∀ char ∈ (scanFraction text).1, inNumeral char = true := by
  cases text with
  | nil => exact nofun
  | cons head rest =>
      simp only [scanFraction]
      split
      case isTrue fraction =>
        refine List.forall_mem_cons.mpr ⟨?_, span_inNumeral rest⟩
        rw [fraction.1]
        rfl
      case isFalse => exact nofun

/-- An exponent is made of them. -/
theorem scanExponent_inNumeral (text : List Char) :
    ∀ char ∈ (scanExponent text).1, inNumeral char = true := by
  cases text with
  | nil => exact nofun
  | cons head rest =>
      simp only [scanExponent]
      split
      case isTrue exponent =>
        refine List.forall_mem_cons.mpr
          ⟨?_, List.forall_mem_append.mpr
            ⟨scanSign_inNumeral (List.Subset.refl _), span_inNumeral _⟩⟩
        rcases exponent.1 with rfl | rfl <;> rfl
      case isFalse => exact nofun

/-- An integer part is made of them. -/
theorem scanWhole_inNumeral (text : List Char) :
    ∀ char ∈ (scanWhole text).1, inNumeral char = true := by
  cases text with
  | nil => exact nofun
  | cons head rest =>
      simp only [scanWhole]
      split
      case isTrue =>
        intro char member
        rw [List.mem_singleton.mp member]
        rfl
      case isFalse => exact span_inNumeral (head :: rest)

/-- A text that is a numeral is made of their characters. -/
theorem numeral_inNumeral
    {text : List Char}
    {numeral : Numeral}
    (read : scanNumeral text = some (numeral, [])) :
    ∀ char ∈ text, inNumeral char = true := by
  have whole : numeral.text = text := by
    simpa using scanNumeral_text read
  have minus : ['-'] ⊆ ['-', '+'] := by simp
  rw [← whole]
  simp only [scanNumeral] at read
  split at read
  case isTrue => cases read
  case isFalse =>
    obtain ⟨rfl, _⟩ := Prod.mk.inj (Option.some.inj read)
    intro char member
    simp only [Numeral.text, List.mem_append] at member
    rcases member with ((sign | integer) | fraction) | exponent
    · exact scanSign_inNumeral minus char sign
    · exact scanWhole_inNumeral _ char integer
    · exact scanFraction_inNumeral _ char fraction
    · exact scanExponent_inNumeral _ char exponent

/-- A text that is a numeral is printable. -/
theorem numeral_printable
    {text : List Char}
    {numeral : Numeral}
    (read : scanNumeral text = some (numeral, [])) :
    ∀ char ∈ text, printable char = true := fun char member =>
  printable_inNumeral (numeral_inNumeral read char member)

/-- The escapes and the text of a character are printable. -/
theorem writeChar_printable (char : Char) :
    ∀ written ∈ writeChar char, printable written = true := by
  unfold writeChar
  split
  case h_1 letter found =>
    have letters :
        ∀ escape ∈ writtenEscapes, printable escape.2 = true := by
      decide
    have member : (char, letter) ∈ writtenEscapes := by
      obtain ⟨before, after, shape, _⟩ :=
        List.lookup_eq_some_iff.mp found
      rw [shape]
      simp
    simpa [show printable '\\' = true from rfl] using
      letters (char, letter) member
  case h_2 =>
    split
    case isTrue plain => simpa using plain
    case isFalse =>
      have digits :
          ∀ digit < 16, printable (Nat.digitChar digit) = true := by
        decide
      have digit (value : Nat) :
          printable (Nat.digitChar (value % 16)) = true :=
        digits _ (Nat.mod_lt _ (by decide))
      intro written member
      obtain ⟨codeUnit, _, inEscape⟩ := List.mem_flatMap.mp member
      simp only [hexEscape, List.mem_cons, List.not_mem_nil, or_false]
        at inEscape
      rcases inEscape with rfl | rfl | rfl | rfl | rfl | rfl
      · rfl
      · rfl
      all_goals exact digit _

/-- A quoted string is printable. -/
theorem quote_printable (text : String) :
    ∀ char ∈ quote text, printable char = true := by
  intro char member
  simp only [quote, List.mem_cons, List.mem_append, List.mem_flatMap,
    List.not_mem_nil, or_false] at member
  rcases member with rfl | ⟨inner, _, written⟩ | rfl
  · rfl
  · exact writeChar_printable inner char written
  · rfl

section

variable {floats : FloatText} {space : List Char}

mutual

/-- What a value is written as is printable ASCII on one line. -/
theorem write_printable
    (plain : ∀ char ∈ space, printable char = true)
    (value : Json)
    (proper : value.Proper floats)
    (fits : value.intsFit = true) :
    ∀ char ∈ value.write floats space, printable char = true := by
  cases value with
  | null => exact List.all_eq_true.mp rfl
  | bool value => cases value <;> exact List.all_eq_true.mp rfl
  | int value =>
      obtain ⟨numeral, read, _⟩ := scanNumeral_int floats fits
      exact numeral_printable read
  | float value =>
      cases value with
      | negativeInfinity => exact List.all_eq_true.mp rfl
      | infinity => exact List.all_eq_true.mp rfl
      | finite value =>
          obtain ⟨numeral, read, _⟩ := scanNumeral_float floats proper
          exact numeral_printable read
  | string text => exact quote_printable text
  | array items =>
      exact List.forall_mem_cons.mpr
        ⟨rfl, writeItems_printable plain items proper fits⟩
  | object fields =>
      exact List.forall_mem_cons.mpr
        ⟨rfl, writeFields_printable plain fields proper.2 fits⟩

/-- The same for the items of an array. -/
theorem writeItems_printable
    (plain : ∀ char ∈ space, printable char = true)
    (items : List Json)
    (proper : ProperItems floats items)
    (fits : intsFitItems items = true) :
    ∀ char ∈ writeItems floats space items, printable char = true := by
  cases items with
  | nil => exact List.all_eq_true.mp rfl
  | cons item more =>
      obtain ⟨itemProper, moreProper⟩ := proper
      obtain ⟨itemFits, moreFits⟩ := Bool.and_eq_true_iff.mp fits
      have itemPrintable := write_printable plain item itemProper itemFits
      have morePrintable :=
        writeItems_printable plain more moreProper moreFits
      cases more with
      | nil => exact List.forall_mem_append.mpr ⟨itemPrintable, List.all_eq_true.mp rfl⟩
      | cons next more =>
          exact List.forall_mem_append.mpr
            ⟨itemPrintable, List.forall_mem_cons.mpr
              ⟨rfl, List.forall_mem_append.mpr ⟨plain, morePrintable⟩⟩⟩

/-- The same for the fields of an object. -/
theorem writeFields_printable
    (plain : ∀ char ∈ space, printable char = true)
    (fields : List (String × Json))
    (proper : ProperFields floats fields)
    (fits : intsFitFields fields = true) :
    ∀ char ∈ writeFields floats space fields, printable char = true := by
  cases fields with
  | nil => exact List.all_eq_true.mp rfl
  | cons field more =>
      obtain ⟨key, value⟩ := field
      obtain ⟨valueProper, moreProper⟩ := proper
      obtain ⟨valueFits, moreFits⟩ := Bool.and_eq_true_iff.mp fits
      have valuePrintable := write_printable plain value valueProper valueFits
      have morePrintable :=
        writeFields_printable plain more moreProper moreFits
      cases more with
      | nil =>
          exact List.forall_mem_append.mpr
            ⟨quote_printable key, List.forall_mem_cons.mpr
              ⟨rfl, List.forall_mem_append.mpr
                ⟨plain, List.forall_mem_append.mpr
                  ⟨valuePrintable, List.all_eq_true.mp rfl⟩⟩⟩⟩
      | cons next more =>
          exact List.forall_mem_append.mpr
            ⟨quote_printable key, List.forall_mem_cons.mpr
              ⟨rfl, List.forall_mem_append.mpr
                ⟨plain, List.forall_mem_append.mpr
                  ⟨valuePrintable, List.forall_mem_cons.mpr
                    ⟨rfl, List.forall_mem_append.mpr
                      ⟨plain, morePrintable⟩⟩⟩⟩⟩⟩

end

end

end Json
end Python
