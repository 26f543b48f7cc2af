import Crossing.JsonLoads

namespace Python

/-!
# Values on lines

One text on each line of a stream, as a program reads its standard input: a
line ends at a line feed, at a carriage return or at both.
-/

/-- The lines of a text file, each with the line feed that ends it. -/
def readLines : List Char → List (List Char)
  | [] => []
  | '\r' :: '\n' :: rest => ['\n'] :: readLines rest
  | char :: rest =>
      if char = '\n' ∨ char = '\r' then
        ['\n'] :: readLines rest
      else
        match readLines rest with
        | [] => [[char]]
        | line :: lines => (char :: line) :: lines

/-- Texts, each on a line of its own. -/
def writeLines (texts : List (List Char)) : List Char :=
  texts.flatMap fun text => text ++ ['\n']

/-- A text that breaks no line is read as the first line. -/
theorem readLines_append
    {text : List Char}
    (rest : List Char)
    (unbroken : ∀ char ∈ text, char ≠ '\n' ∧ char ≠ '\r') :
    readLines (text ++ '\n' :: rest) =
      (text ++ ['\n']) :: readLines rest := by
  induction text with
  | nil => simp [readLines]
  | cons char text inductionHypothesis =>
      obtain ⟨plain, others⟩ := List.forall_mem_cons.mp unbroken
      rw [List.cons_append, readLines]
      · rw [if_neg (not_or.mpr plain), inductionHypothesis others]
        rfl
      · rintro _ rfl
        exact absurd rfl plain.2

/-- Texts that break no line are read as they were written. -/
theorem readLines_writeLines
    {texts : List (List Char)}
    (unbroken :
      ∀ text ∈ texts, ∀ char ∈ text, char ≠ '\n' ∧ char ≠ '\r') :
    readLines (writeLines texts) = texts.map (· ++ ['\n']) := by
  induction texts with
  | nil => rfl
  | cons text texts inductionHypothesis =>
      obtain ⟨first, others⟩ := List.forall_mem_cons.mp unbroken
      have ended :
          writeLines (text :: texts) = text ++ '\n' :: writeLines texts := by
        simp [writeLines]
      rw [ended, readLines_append _ first, inductionHypothesis others]
      rfl

namespace Json

/-- Printable ASCII breaks no line. -/
theorem printable_unbroken
    {char : Char}
    (shown : printable char = true) :
    char ≠ '\n' ∧ char ≠ '\r' := by
  constructor <;> rintro rfl <;> exact absurd shown (by decide)

section

variable {floats : FloatText} {space : List Char}

/-- A text that ends with a mark other than a blank. -/
def Closes (text : List Char) : Prop :=
  ∃ before last, text = before ++ [last] ∧ last ≠ ' '

/-- What is put in front of a text does not change its end. -/
theorem Closes.append
    {text : List Char}
    (closes : Closes text)
    (before : List Char) :
    Closes (before ++ text) := by
  obtain ⟨init, last, rfl, mark⟩ := closes
  exact ⟨before ++ init, last, (List.append_assoc _ _ _).symm, mark⟩

/-- The same for one character. -/
theorem Closes.cons
    {text : List Char}
    (closes : Closes text)
    (char : Char) :
    Closes (char :: text) :=
  closes.append [char]

/-- A text without blanks that is not empty. -/
theorem closes_of_no_blank
    {text : List Char}
    (given : text ≠ [])
    (noBlank : ∀ char ∈ text, char ≠ ' ') :
    Closes text :=
  ⟨text.dropLast, text.getLast given,
    (List.dropLast_append_getLast given).symm,
    noBlank _ (List.getLast_mem given)⟩

/-- An array ends with its bracket. -/
theorem writeItems_closes (items : List Json) :
    Closes (writeItems floats space items) := by
  induction items with
  | nil => exact ⟨[], ']', rfl, by decide⟩
  | cons item rest inductionHypothesis =>
      cases rest with
      | nil => exact ⟨_, ']', rfl, by decide⟩
      | cons next rest =>
          exact ((inductionHypothesis.append space).cons ',').append _

/-- An object ends with its brace. -/
theorem writeFields_closes (fields : List (String × Json)) :
    Closes (writeFields floats space fields) := by
  induction fields with
  | nil => exact ⟨[], '\x7d', rfl, by decide⟩
  | cons field rest inductionHypothesis =>
      obtain ⟨key, value⟩ := field
      have brace : Closes ['\x7d'] := ⟨[], '\x7d', rfl, by decide⟩
      cases rest with
      | nil =>
          exact
            (((brace.append (write floats space value)).append space).cons
              ':').append _
      | cons next rest =>
          exact
            ((((((inductionHypothesis.append space).cons ',').append
              (write floats space value)).append space).cons ':').append _)

/-- A numeral has no blank in it. -/
theorem numeral_closes
    {text : List Char}
    {numeral : Numeral}
    (read : scanNumeral text = some (numeral, [])) :
    Closes text := by
  refine closes_of_no_blank ?_ ?_
  · rintro rfl
    obtain ⟨_, _, _, shape | shape⟩ := scanNumeral_head read <;> cases shape
  · rintro char member rfl
    exact absurd (numeral_inNumeral read ' ' member) (by decide)

/-- What a value is written as ends with no blank. -/
theorem write_closes
    {value : Json}
    (proper : value.Proper floats)
    (fits : value.intsFit = true) :
    Closes (value.write floats space) := by
  cases value with
  | null => exact ⟨"nul".toList, 'l', rfl, by decide⟩
  | bool value =>
      cases value
      · exact ⟨"fals".toList, 'e', rfl, by decide⟩
      · exact ⟨"tru".toList, 'e', rfl, by decide⟩
  | int value =>
      obtain ⟨numeral, read, _⟩ := scanNumeral_int floats fits
      exact numeral_closes read
  | float value =>
      cases value with
      | negativeInfinity => exact ⟨"-Infinit".toList, 'y', rfl, by decide⟩
      | infinity => exact ⟨"Infinit".toList, 'y', rfl, by decide⟩
      | finite value =>
          obtain ⟨numeral, read, _⟩ := scanNumeral_float floats proper
          exact numeral_closes read
  | string text =>
      exact ⟨'"' :: text.toList.flatMap writeChar, '"', rfl, by decide⟩
  | array items => exact (writeItems_closes items).cons '['
  | object fields => exact (writeFields_closes fields).cons '\x7b'

end

end Json
end Python
