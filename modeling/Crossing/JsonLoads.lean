import Crossing.JsonRoundTrip

namespace Python
namespace Json

/-!
# What is read

Each scanner leaves a shorter text, so that the steps are always enough, and
what `json.loads` gives is a value that Python has and can write again.
-/

/-! ## Strings -/

/-- One more item is in front of what was read. -/
theorem push_ok
    {α : Type}
    {item : α}
    {scanned : Except LoadsError (List α × List Char)}
    {items : List α}
    {rest : List Char}
    (read : push item scanned = .ok (items, rest)) :
    ∃ others, scanned = .ok (others, rest) ∧ items = item :: others := by
  cases scanned with
  | error error => cases read
  | ok read' =>
      obtain ⟨others, rest'⟩ := read'
      cases read
      exact ⟨others, rfl, rfl⟩

/-- A push fails as the scan before it. -/
theorem push_error
    {α : Type}
    {item : α}
    {scanned : Except LoadsError (List α × List Char)}
    {error : LoadsError}
    (failed : push item scanned = .error error) :
    scanned = .error error := by
  cases scanned with
  | error error => exact congrArg _ (Except.error.inj failed)
  | ok read => cases failed

/-- A string is shorter than the text it is in. -/
theorem scanUnits_shorter
    {text rest : List Char}
    {units : List Nat}
    (read : scanUnits text = .ok (units, rest)) :
    rest.length < text.length := by
  fun_induction scanUnits text generalizing units with
  | case1 => cases read
  | case2 _ =>
      cases read
      exact Nat.lt_succ_self _
  | case3 _ _ _ _ _ _ _ _ inductionHypothesis =>
      obtain ⟨others, scanned, _⟩ := push_ok read
      have shorter := inductionHypothesis scanned
      simp only [List.length_cons]
      omega
  | case4 => cases read
  | case5 =>
      rename_i inductionHypothesis
      obtain ⟨others, scanned, _⟩ := push_ok read
      have shorter := inductionHypothesis scanned
      simp only [List.length_cons]
      omega
  | case6 => cases read
  | case7 => cases read
  | case8 => cases read
  | case9 _ _ _ _ _ inductionHypothesis =>
      obtain ⟨others, scanned, _⟩ := push_ok read
      have shorter := inductionHypothesis scanned
      simp only [List.length_cons]
      omega

/-- The scan of a string needs no steps. -/
theorem scanUnits_finished
    {text : List Char} :
    scanUnits text ≠ .error .unfinished := by
  fun_induction scanUnits text with
  | case1 => exact nofun
  | case2 => exact nofun
  | case3 _ _ _ _ _ _ _ _ inductionHypothesis =>
      exact fun failed => inductionHypothesis (push_error failed)
  | case4 => exact nofun
  | case5 =>
      rename_i inductionHypothesis
      exact fun failed => inductionHypothesis (push_error failed)
  | case6 => exact nofun
  | case7 => exact nofun
  | case8 => exact nofun
  | case9 _ _ _ _ _ inductionHypothesis =>
      exact fun failed => inductionHypothesis (push_error failed)

/-- A string is shorter than the text behind its opening quote. -/
theorem scanString_shorter
    {text rest : List Char}
    {value : String}
    (read : scanString text = .ok (value, rest)) :
    rest.length < text.length := by
  unfold scanString at read
  cases scanned : scanUnits text with
  | error error =>
      rw [scanned] at read
      cases read
  | ok units =>
      rw [scanned] at read
      simp only [bind, Except.bind] at read
      split at read
      · cases read
        exact scanUnits_shorter scanned
      · cases read

/-- A string needs no steps. -/
theorem scanString_finished
    {text : List Char} :
    scanString text ≠ .error .unfinished := by
  intro failed
  unfold scanString at failed
  cases scanned : scanUnits text with
  | error error =>
      rw [scanned] at failed
      cases failed
      exact scanUnits_finished scanned
  | ok units =>
      rw [scanned] at failed
      simp only [bind, Except.bind] at failed
      split at failed <;> cases failed

/-! ## Scalars -/

/-- The integer part of a numeral is made of digits. -/
theorem scanWhole_digits (text : List Char) :
    ∀ char ∈ (scanWhole text).1, char.isDigit = true := by
  cases text with
  | nil => exact nofun
  | cons head rest =>
      simp only [scanWhole]
      split
      · simp
      · rw [List.span_eq_takeWhile_dropWhile]
        exact List.all_eq_true.mp List.all_takeWhile

/-- A numeral has an integer part, which is made of digits. -/
theorem scanNumeral_whole
    {text rest : List Char}
    {numeral : Numeral}
    (read : scanNumeral text = some (numeral, rest)) :
    0 < numeral.whole.length ∧
      ∀ char ∈ numeral.whole, char.isDigit = true := by
  simp only [scanNumeral] at read
  split at read
  case isTrue => cases read
  case isFalse present =>
    obtain ⟨rfl, _⟩ := Prod.mk.inj (Option.some.inj read)
    exact ⟨List.length_pos_iff.mpr present, scanWhole_digits _⟩

/-- A number is below the power of ten that its digits allow for. -/
theorem ofDigitChars_lt
    {digits : List Char}
    (allDigits : ∀ char ∈ digits, char.isDigit = true)
    (start : Nat) :
    Nat.ofDigitChars 10 digits start < (start + 1) * 10 ^ digits.length := by
  induction digits generalizing start with
  | nil => simp
  | cons head rest inductionHypothesis =>
      obtain ⟨headDigit, restDigits⟩ := List.forall_mem_cons.mp allDigits
      have digit : head.toNat - '0'.toNat < 10 := by
        simp only [Char.isDigit, Bool.and_eq_true, decide_eq_true_eq,
          ge_iff_le, UInt32.le_iff_toNat_le] at headDigit
        have upper : head.toNat ≤ 57 := headDigit.2
        have zero : '0'.toNat = 48 := rfl
        omega
      rw [Nat.ofDigitChars_cons, List.length_cons]
      calc
        Nat.ofDigitChars 10 rest (10 * start + (head.toNat - '0'.toNat)) <
            (10 * start + (head.toNat - '0'.toNat) + 1) *
              10 ^ rest.length :=
          inductionHypothesis restDigits _
        _ ≤ (10 * (start + 1)) * 10 ^ rest.length :=
          Nat.mul_le_mul_right _ (by omega)
        _ = (start + 1) * 10 ^ (rest.length + 1) := by
          rw [Nat.mul_comm 10, Nat.mul_assoc, Nat.pow_succ']

/-- A numeral of an integer that has a text stands for one that has. -/
theorem shortInt_toInt
    {text rest : List Char}
    {numeral : Numeral}
    (read : scanNumeral text = some (numeral, rest))
    (short : numeral.whole.length ≤ digitLimit) :
    shortInt numeral.toInt = true := by
  obtain ⟨positive, allDigits⟩ := scanNumeral_whole read
  have below := ofDigitChars_lt allDigits 0
  rw [Nat.zero_add, Nat.one_mul] at below
  have fits :=
    (Nat.length_toDigits_le_iff (b := 10) (by decide) positive).mpr below
  refine decide_eq_true (Nat.le_trans ?_ short)
  unfold Numeral.toInt
  split <;> simpa using fits

variable {floats : FloatText}

/-- What a scan gives: a value of Python that can be written. -/
def Fine (floats : FloatText) (value : Json) : Prop :=
  value.Proper floats ∧ value.intsFit = true

/-- The value of a numeral. -/
theorem value_fine
    {text rest : List Char}
    {numeral : Numeral}
    {value : Json}
    (read : scanNumeral text = some (numeral, rest))
    (denotes : numeral.value floats = .ok value) :
    Fine floats value := by
  unfold Numeral.value at denotes
  split at denotes
  · cases denotes
    refine ⟨?_, rfl⟩
    cases parsed : floats.parse numeral.text with
    | finite value => exact ⟨_, parsed⟩
    | infinity => trivial
    | negativeInfinity => trivial
  · split at denotes
    case isTrue short =>
      cases denotes
      exact ⟨trivial, shortInt_toInt read short⟩
    case isFalse => cases denotes

/-- A scalar. -/
theorem scanScalar_ok
    {text rest : List Char}
    {value : Json}
    (read : scanScalar floats text = .ok (value, rest)) :
    rest.length < text.length ∧ Fine floats value := by
  unfold scanScalar at read
  split at read
  case h_1 name outcome found =>
    have member := List.mem_of_find?_eq_some found
    have isPrefix : name <+: text := by
      have holds := List.find?_some found
      exact List.isPrefixOf_iff_prefix.mp holds
    have known :
        ∀ constant ∈ constants,
          0 < constant.1.length ∧
            ∀ value, constant.2 = .ok value → Fine floats value := by
      intro constant member
      simp only [constants, List.mem_cons, List.not_mem_nil, or_false]
        at member
      rcases member with rfl | rfl | rfl | rfl | rfl | rfl
      all_goals
        refine ⟨by decide, ?_⟩
        rintro value same
        cases same
        try exact ⟨trivial, rfl⟩
    obtain ⟨positive, fine⟩ := known _ member
    cases outcome with
    | error error => cases read
    | ok value' =>
        cases read
        refine ⟨?_, fine _ rfl⟩
        have bound := isPrefix.length_le
        simp only [List.length_drop]
        simp only at positive
        omega
  case h_2 =>
    split at read
    case h_1 numeral after scanned =>
      cases denotes : numeral.value floats with
      | error error =>
          rw [denotes] at read
          cases read
      | ok value' =>
          rw [denotes] at read
          cases read
          refine ⟨?_, value_fine scanned denotes⟩
          obtain ⟨positive, _⟩ := scanNumeral_whole scanned
          rw [← scanNumeral_text scanned]
          simp only [Numeral.text, List.length_append]
          omega
    case h_2 => cases read

/-! ## Values -/

/-- An array of such values. -/
theorem fine_array
    {items : List Json}
    (fine : ∀ item ∈ items, Fine floats item) :
    Fine floats (.array items) := by
  induction items with
  | nil => exact ⟨trivial, rfl⟩
  | cons item rest inductionHypothesis =>
      obtain ⟨itemFine, restFine⟩ := List.forall_mem_cons.mp fine
      obtain ⟨restProper, restFits⟩ := inductionHypothesis restFine
      exact ⟨⟨itemFine.1, restProper⟩,
        Bool.and_eq_true_iff.mpr ⟨itemFine.2, restFits⟩⟩

/-- An object of such values. -/
theorem fine_object
    {fields : List (String × Json)}
    (distinct : (fields.map Prod.fst).Nodup)
    (fine : ∀ field ∈ fields, Fine floats field.2) :
    Fine floats (.object fields) := by
  have values :
      ProperFields floats fields ∧ intsFitFields fields = true := by
    clear distinct
    induction fields with
    | nil => exact ⟨trivial, rfl⟩
    | cons field rest inductionHypothesis =>
        obtain ⟨fieldFine, restFine⟩ := List.forall_mem_cons.mp fine
        obtain ⟨restProper, restFits⟩ := inductionHypothesis restFine
        exact ⟨⟨fieldFine.1, restProper⟩,
          Bool.and_eq_true_iff.mpr ⟨fieldFine.2, restFits⟩⟩
  exact ⟨⟨distinct, values.1⟩, values.2⟩

/-- A field that is set adds no other. -/
theorem mem_setField
    {fields : List (String × Json)}
    {field other : String × Json}
    (member : other ∈ setField fields field) :
    other = field ∨ other ∈ fields := by
  unfold setField at member
  split at member
  · obtain ⟨old, oldMember, same⟩ := List.mem_map.mp member
    split at same
    · exact .inl same.symm
    · exact .inr (same ▸ oldMember)
  · rcases List.mem_append.mp member with kept | new
    · exact .inr kept
    · exact .inl (List.mem_singleton.mp new)

/-- Setting a field keeps the keys distinct. -/
theorem setField_distinct
    {fields : List (String × Json)}
    {field : String × Json}
    (distinct : (fields.map Prod.fst).Nodup) :
    ((setField fields field).map Prod.fst).Nodup := by
  unfold setField
  split
  case isTrue =>
    have sameKeys :
        (fields.map fun old => if old.1 = field.1 then field else old).map
            Prod.fst =
          fields.map Prod.fst := by
      rw [List.map_map]
      refine List.map_congr_left fun old _ => ?_
      by_cases same : old.1 = field.1 <;> simp [same]
    rw [sameKeys]
    exact distinct
  case isFalse fresh =>
    rw [List.map_append]
    refine List.nodup_append'.mpr ⟨distinct, List.nodup_singleton _, ?_⟩
    exact List.disjoint_singleton.mpr fresh

/-- A dict has distinct keys, and fields that were read. -/
theorem dictOf_spec (fields : List (String × Json)) :
    ((dictOf fields).map Prod.fst).Nodup ∧
      ∀ field ∈ dictOf fields, field ∈ fields := by
  have grow :
      ∀ (later kept : List (String × Json)),
        (kept.map Prod.fst).Nodup →
          ((later.foldl setField kept).map Prod.fst).Nodup ∧
            ∀ field ∈ later.foldl setField kept,
              field ∈ kept ∨ field ∈ later := by
    intro later
    induction later with
    | nil => exact fun kept distinct => ⟨distinct, fun _ => .inl⟩
    | cons head later inductionHypothesis =>
        intro kept distinct
        obtain ⟨nodup, origin⟩ :=
          inductionHypothesis (setField kept head)
            (setField_distinct distinct)
        refine ⟨nodup, fun field member => ?_⟩
        rcases origin field member with inKept | inLater
        · rcases mem_setField inKept with rfl | old
          · exact .inr List.mem_cons_self
          · exact .inl old
        · exact .inr (List.mem_cons_of_mem _ inLater)
  obtain ⟨nodup, origin⟩ := grow fields [] List.nodup_nil
  refine ⟨nodup, fun field member => ?_⟩
  rcases origin field member with inNil | inFields
  · exact absurd inNil List.not_mem_nil
  · exact inFields

/-- Skipping leaves no longer text. -/
theorem skip_length (text : List Char) :
    (skip text).length ≤ text.length :=
  (List.dropWhile_sublist isWhite).length_le

/-- What is eaten is the next character. -/
theorem eat_eq_some
    {char : Char}
    {text rest : List Char}
    (eaten : eat char text = some rest) :
    text = char :: rest := by
  cases text with
  | nil => cases eaten
  | cons head tail =>
      simp only [eat] at eaten
      split at eaten
      case isTrue same =>
        cases eaten
        rw [same]
      case isFalse => cases eaten

/-- Eating behind white space leaves a shorter text. -/
theorem eat_skip_shorter
    {char : Char}
    {text rest : List Char}
    (eaten : eat char (skip text) = some rest) :
    rest.length < text.length := by
  have bound := skip_length text
  rw [eat_eq_some eaten, List.length_cons] at bound
  exact bound

/-- What `scanItems` does with one step more. -/
theorem scanItems_cases
    {steps : Nat}
    {text rest : List Char}
    {items : List Json}
    (read : scanItems floats (steps + 1) text = .ok (items, rest)) :
    ∃ item after,
      scan floats steps text = .ok (item, after) ∧
        ((eat ']' (skip after) = some rest ∧ items = [item]) ∨
          ∃ behind others,
            eat ',' (skip after) = some behind ∧
              scanItems floats steps (skip behind) = .ok (others, rest) ∧
              items = item :: others) := by
  rw [scanItems] at read
  cases scanned : scan floats steps text with
  | error error =>
      rw [scanned] at read
      cases read
  | ok pair =>
      obtain ⟨item, after⟩ := pair
      rw [scanned] at read
      simp only [bind, Except.bind] at read
      refine ⟨item, after, rfl, ?_⟩
      split at read
      case h_1 closed =>
        cases read
        exact .inl ⟨closed, rfl⟩
      case h_2 behind _ comma =>
        obtain ⟨others, more, rfl⟩ := push_ok read
        exact .inr ⟨behind, others, comma, more, rfl⟩
      case h_3 => cases read

/-- What `scanFields` does with one step more. -/
theorem scanFields_cases
    {steps : Nat}
    {text rest : List Char}
    {fields : List (String × Json)}
    (read : scanFields floats (steps + 1) text = .ok (fields, rest)) :
    ∃ start key behindKey start' value after,
      eat '"' text = some start ∧
        scanString start = .ok (key, behindKey) ∧
        eat ':' (skip behindKey) = some start' ∧
        scan floats steps (skip start') = .ok (value, after) ∧
        ((eat '}' (skip after) = some rest ∧ fields = [(key, value)]) ∨
          ∃ behind others,
            eat ',' (skip after) = some behind ∧
              scanFields floats steps (skip behind) = .ok (others, rest) ∧
              fields = (key, value) :: others) := by
  rw [scanFields] at read
  split at read
  case h_1 => cases read
  case h_2 start quoted =>
    cases keyScanned : scanString start with
    | error error =>
        rw [keyScanned] at read
        cases read
    | ok pair =>
        obtain ⟨key, behindKey⟩ := pair
        rw [keyScanned] at read
        simp only [bind, Except.bind] at read
        split at read
        case h_1 => cases read
        case h_2 start' colon =>
          cases scanned : scan floats steps (skip start') with
          | error error =>
              rw [scanned] at read
              cases read
          | ok pair =>
              obtain ⟨value, after⟩ := pair
              rw [scanned] at read
              simp only at read
              refine ⟨start, key, behindKey, start', value, after, quoted,
                keyScanned, colon, scanned, ?_⟩
              split at read
              case h_1 closed =>
                cases read
                exact .inl ⟨closed, rfl⟩
              case h_2 behind _ comma =>
                obtain ⟨others, more, rfl⟩ := push_ok read
                exact .inr ⟨behind, others, comma, more, rfl⟩
              case h_3 => cases read

/-- What is said of a scan with so many steps. -/
structure ScanSpec (floats : FloatText) (steps : Nat) : Prop where
  value :
    ∀ {text value rest},
      scan floats steps text = .ok (value, rest) →
        rest.length < text.length ∧ Fine floats value
  items :
    ∀ {text items rest},
      scanItems floats steps text = .ok (items, rest) →
        rest.length < text.length ∧ ∀ item ∈ items, Fine floats item
  fields :
    ∀ {text fields rest},
      scanFields floats steps text = .ok (fields, rest) →
        rest.length < text.length ∧ ∀ field ∈ fields, Fine floats field.2

/-- A value with one step more. -/
theorem scan_step
    {steps : Nat}
    {text rest : List Char}
    {value : Json}
    (spec : ScanSpec floats steps)
    (read : scan floats (steps + 1) text = .ok (value, rest)) :
    rest.length < text.length ∧ Fine floats value := by
  cases text with
  | nil => cases read
  | cons head tail =>
      rw [scan] at read
      split at read
      case isTrue =>
        cases scanned : scanString tail with
        | error error =>
            rw [scanned] at read
            cases read
        | ok pair =>
            rw [scanned] at read
            cases read
            exact ⟨Nat.lt_succ_of_lt (scanString_shorter scanned),
              trivial, rfl⟩
      case isFalse =>
        split at read
        case isTrue =>
          split at read
          case h_1 closed =>
            cases read
            exact ⟨Nat.lt_succ_of_lt (eat_skip_shorter closed),
              fine_object List.nodup_nil (List.forall_mem_nil _)⟩
          case h_2 =>
            cases scanned : scanFields floats steps (skip tail) with
            | error error =>
                rw [scanned] at read
                cases read
            | ok pair =>
                obtain ⟨fields, after⟩ := pair
                rw [scanned] at read
                cases read
                obtain ⟨shorter, fine⟩ := spec.fields scanned
                obtain ⟨distinct, origin⟩ := dictOf_spec fields
                refine ⟨Nat.lt_succ_of_lt
                  (Nat.lt_of_lt_of_le shorter (skip_length tail)), ?_⟩
                exact fine_object distinct fun field member =>
                  fine field (origin field member)
        case isFalse =>
          split at read
          case isTrue =>
            split at read
            case h_1 closed =>
              cases read
              exact ⟨Nat.lt_succ_of_lt (eat_skip_shorter closed),
                fine_array (List.forall_mem_nil _)⟩
            case h_2 =>
              cases scanned : scanItems floats steps (skip tail) with
              | error error =>
                  rw [scanned] at read
                  cases read
              | ok pair =>
                  rw [scanned] at read
                  cases read
                  obtain ⟨shorter, fine⟩ := spec.items scanned
                  exact ⟨Nat.lt_succ_of_lt
                    (Nat.lt_of_lt_of_le shorter (skip_length tail)),
                    fine_array fine⟩
          case isFalse => exact scanScalar_ok read

/-- Whatever the steps, a scan gives fine values and leaves a shorter text. -/
theorem scan_spec (steps : Nat) : ScanSpec floats steps := by
  induction steps with
  | zero => exact ⟨nofun, nofun, nofun⟩
  | succ steps spec =>
      refine ⟨scan_step spec, ?_, ?_⟩
      · intro text items rest read
        obtain ⟨item, after, scanned, last | more⟩ := scanItems_cases read
        · obtain ⟨closed, rfl⟩ := last
          obtain ⟨shorter, fine⟩ := spec.value scanned
          have behind := eat_skip_shorter closed
          exact ⟨by omega, by simpa using fine⟩
        · obtain ⟨behind, others, comma, othersScanned, rfl⟩ := more
          obtain ⟨shorter, fine⟩ := spec.value scanned
          obtain ⟨othersShorter, othersFine⟩ := spec.items othersScanned
          have behindComma := eat_skip_shorter comma
          have skipped := skip_length behind
          exact ⟨by omega, List.forall_mem_cons.mpr ⟨fine, othersFine⟩⟩
      · intro text fields rest read
        obtain ⟨start, key, behindKey, start', value, after, quoted,
          keyScanned, colon, scanned, last | more⟩ := scanFields_cases read
        all_goals
          obtain ⟨shorter, fine⟩ := spec.value scanned
          have opening := congrArg List.length (eat_eq_some quoted)
          have keyShorter := scanString_shorter keyScanned
          have behindColon := eat_skip_shorter colon
          have skippedColon := skip_length start'
          rw [List.length_cons] at opening
        · obtain ⟨closed, rfl⟩ := last
          have behind := eat_skip_shorter closed
          exact ⟨by omega, by simpa using fine⟩
        · obtain ⟨behind, others, comma, othersScanned, rfl⟩ := more
          obtain ⟨othersShorter, othersFine⟩ := spec.fields othersScanned
          have behindComma := eat_skip_shorter comma
          have skipped := skip_length behind
          exact ⟨by omega, List.forall_mem_cons.mpr ⟨fine, othersFine⟩⟩

/-- What `json.loads` gives is a value of Python, and has a text. -/
theorem loads_fine
    {text : List Char}
    {value : Json}
    (loaded : loads floats text = .ok value) :
    Fine floats value := by
  unfold loads at loaded
  split at loaded
  case isTrue => cases loaded
  case isFalse =>
    cases scanned : scan floats (stepsFor (skip text)) (skip text) with
    | error error =>
        simp only [scanned] at loaded
        cases loaded
    | ok pair =>
        obtain ⟨value', rest⟩ := pair
        simp only [scanned, bind, Except.bind] at loaded
        split at loaded
        · cases loaded
          exact ((scan_spec _).value scanned).2
        · cases loaded

/-! ## Steps -/

/-- A scalar needs no steps. -/
theorem scanScalar_finished
    {text : List Char} :
    scanScalar floats text ≠ .error .unfinished := by
  intro failed
  unfold scanScalar at failed
  split at failed
  case h_1 name outcome found =>
    have member := List.mem_of_find?_eq_some found
    have known :
        ∀ constant ∈ constants, constant.2 ≠ .error .unfinished := by
      intro constant member
      simp only [constants, List.mem_cons, List.not_mem_nil, or_false]
        at member
      rcases member with rfl | rfl | rfl | rfl | rfl | rfl
      all_goals simp
    cases outcome with
    | error error =>
        cases failed
        exact known _ member rfl
    | ok value => cases failed
  case h_2 =>
    split at failed
    case h_1 numeral after scanned =>
      unfold Numeral.value at failed
      split at failed
      · cases failed
      · split at failed <;> cases failed
    case h_2 => cases failed

/-- What is said of a scan with so many steps. -/
structure EnoughSteps (floats : FloatText) (steps : Nat) : Prop where
  value :
    ∀ {text},
      2 * text.length < steps →
        scan floats steps text ≠ .error .unfinished
  items :
    ∀ {text},
      2 * text.length + 1 < steps →
        scanItems floats steps text ≠ .error .unfinished
  fields :
    ∀ {text},
      2 * text.length + 1 < steps →
        scanFields floats steps text ≠ .error .unfinished

/-- A value with one step more. -/
theorem scan_enough
    {steps : Nat}
    {text : List Char}
    (before : EnoughSteps floats steps)
    (enough : 2 * text.length < steps + 1) :
    scan floats (steps + 1) text ≠ .error .unfinished := by
  intro failed
  cases text with
  | nil => cases failed
  | cons head tail =>
      have skipped := skip_length tail
      rw [List.length_cons] at enough
      rw [scan] at failed
      split at failed
      case isTrue =>
        cases scanned : scanString tail with
        | error error =>
            rw [scanned] at failed
            cases failed
            exact scanString_finished scanned
        | ok pair =>
            rw [scanned] at failed
            cases failed
      case isFalse =>
        split at failed
        case isTrue =>
          split at failed
          case h_1 => cases failed
          case h_2 =>
            cases scanned : scanFields floats steps (skip tail) with
            | error error =>
                rw [scanned] at failed
                cases failed
                exact before.fields (by omega) scanned
            | ok pair =>
                rw [scanned] at failed
                cases failed
        case isFalse =>
          split at failed
          case isTrue =>
            split at failed
            case h_1 => cases failed
            case h_2 =>
              cases scanned : scanItems floats steps (skip tail) with
              | error error =>
                  rw [scanned] at failed
                  cases failed
                  exact before.items (by omega) scanned
              | ok pair =>
                  rw [scanned] at failed
                  cases failed
          case isFalse => exact scanScalar_finished failed

/-- The items of an array with one step more. -/
theorem scanItems_enough
    {steps : Nat}
    {text : List Char}
    (before : EnoughSteps floats steps)
    (enough : 2 * text.length + 1 < steps + 1) :
    scanItems floats (steps + 1) text ≠ .error .unfinished := by
  intro failed
  rw [scanItems] at failed
  cases scanned : scan floats steps text with
  | error error =>
      rw [scanned] at failed
      cases failed
      exact before.value (by omega) scanned
  | ok pair =>
      obtain ⟨item, after⟩ := pair
      rw [scanned] at failed
      simp only [bind, Except.bind] at failed
      split at failed
      case h_1 => cases failed
      case h_2 behind _ comma =>
        have shorter := ((scan_spec steps).value scanned).1
        have behindComma := eat_skip_shorter comma
        have skipped := skip_length behind
        exact before.items (by omega) (push_error failed)
      case h_3 => cases failed

/-- The fields of an object with one step more. -/
theorem scanFields_enough
    {steps : Nat}
    {text : List Char}
    (before : EnoughSteps floats steps)
    (enough : 2 * text.length + 1 < steps + 1) :
    scanFields floats (steps + 1) text ≠ .error .unfinished := by
  intro failed
  rw [scanFields] at failed
  split at failed
  case h_1 => cases failed
  case h_2 start quoted =>
    have opening := congrArg List.length (eat_eq_some quoted)
    rw [List.length_cons] at opening
    cases keyScanned : scanString start with
    | error error =>
        rw [keyScanned] at failed
        cases failed
        exact scanString_finished keyScanned
    | ok pair =>
        obtain ⟨key, behindKey⟩ := pair
        have keyShorter := scanString_shorter keyScanned
        rw [keyScanned] at failed
        simp only [bind, Except.bind] at failed
        split at failed
        case h_1 => cases failed
        case h_2 start' colon =>
          have behindColon := eat_skip_shorter colon
          have skippedColon := skip_length start'
          cases scanned : scan floats steps (skip start') with
          | error error =>
              rw [scanned] at failed
              cases failed
              exact before.value (by omega) scanned
          | ok pair =>
              obtain ⟨value, after⟩ := pair
              rw [scanned] at failed
              simp only at failed
              split at failed
              case h_1 => cases failed
              case h_2 behind _ comma =>
                have shorter := ((scan_spec steps).value scanned).1
                have behindComma := eat_skip_shorter comma
                have skipped := skip_length behind
                exact before.fields (by omega) (push_error failed)
              case h_3 => cases failed

/-- Two steps for each character are enough, and one to begin with. -/
theorem enough_steps (steps : Nat) : EnoughSteps floats steps := by
  induction steps with
  | zero => exact ⟨nofun, nofun, nofun⟩
  | succ steps before =>
      exact ⟨scan_enough before, scanItems_enough before,
        scanFields_enough before⟩

/-- `json.loads` ends on every text. -/
theorem loads_finished
    {text : List Char} :
    loads floats text ≠ .error .unfinished := by
  intro failed
  unfold loads at failed
  split at failed
  case isTrue => cases failed
  case isFalse =>
    cases scanned : scan floats (stepsFor (skip text)) (skip text) with
    | error error =>
        simp only [scanned] at failed
        cases failed
        exact (enough_steps _).value (Nat.lt_succ_self _) scanned
    | ok pair =>
        simp only [scanned, bind, Except.bind] at failed
        split at failed <;> cases failed

end Json
end Python
