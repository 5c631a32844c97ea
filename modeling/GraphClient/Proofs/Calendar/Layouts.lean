import GraphClient.Attribute.Encoding
import GraphClient.Proofs.Calendar.Texts
/-
  The layouts in which a date and time is read.

  Key definitions include:
    * `GraphClient.Text.Pads`

  Key theorems include:
    * `GraphClient.Calendar.DateTime.readAny?_charsWith`
    * `GraphClient.Calendar.DateTime.readAny?_date`
    * `GraphClient.Calendar.DateTime.layouts_round_trip`

  The layouts are tried in turn, and a text that is written in
  one of them is read in that one: an earlier layout stops at
  the letter between date and time, or at the end of the date.
  So nothing is read as another date and time than the one that
  was written, whatever white space stands around it.
-/

------------------------------------------------------------
-- White Space
------------------------------------------------------------

namespace GraphClient

namespace Text

/- A text that is some characters with white space around them. -/
def Pads
    (whole : String)
    (cs : List Char) :
    Prop :=
  ∃ before after,
    whole.toList = before ++ cs ++ after ∧
      (∀ c ∈ before, isBlank c = true) ∧
      ∀ c ∈ after, isBlank c = true

/- The white space around characters is trimmed. -/
theorem Pads.trimChars_eq
    {whole : String}
    {cs : List Char}
    (hPads : Pads whole cs) :
    trimChars whole.toList = trimChars cs := by
  rcases hPads with ⟨before, after, hWhole, hBefore, hAfter⟩
  rw [hWhole, trimChars_append hBefore hAfter]

end Text

end GraphClient

------------------------------------------------------------
-- Layouts That Do Not Fit
------------------------------------------------------------

namespace GraphClient

namespace Calendar

open Numeral (EndsDigits)

/- No number is read where there is no digit. -/
theorem readNumber?_eq_none
    {cs : List Char}
    (hEnds : EndsDigits (Text.trimLeft cs)) :
    readNumber? cs = none := by
  have hSpan : spanDigits 2 (Text.trimLeft cs) =
      ([], Text.trimLeft cs) :=
    spanDigits_append (List.forall_mem_nil _) hEnds (Nat.zero_le 2)
  unfold readNumber? readDigits?
  rw [hSpan]

/- No time of day is read where there is no digit. -/
theorem Clock.read?_eq_none
    {cs : List Char}
    (hEnds : EndsDigits (Text.trimLeft cs)) :
    Clock.read? cs = none := by
  unfold read?
  rw [readNumber?_eq_none hEnds]
  rfl

/- The letter between date and time is no white space. -/
theorem DateTime.read?_space_letter
    (t : DateTime) :
    DateTime.read? .space (t.charsWith .letter) = none := by
  have hDate :=
    Date.read?_chars t.date
      (Separator.letter.endsDigits t.clock.chars)
  have hTrim :
      Text.trimLeft (Separator.letter.mark :: t.clock.chars) =
        Separator.letter.mark :: t.clock.chars := by
    apply Text.trimLeft_of_head?
    intro c hHead
    cases Option.some.inj hHead
    decide
  have hSpace :
      Separator.space.read? (Separator.letter.mark :: t.clock.chars) =
        some (Separator.letter.mark :: t.clock.chars) :=
    congrArg some hTrim
  have hClock :
      Clock.read? (Separator.letter.mark :: t.clock.chars) = none := by
    apply Clock.read?_eq_none
    rw [hTrim]
    exact Separator.letter.endsDigits t.clock.chars
  simp only [read?, charsWith, hDate, hSpace, hClock,
    Option.bind_eq_bind, Option.bind_some, Option.bind_none]

/- A date is read to the end of its text. -/
theorem Date.read?_alone
    (d : Date) :
    Date.read? d.chars = some (d, []) := by
  have hRead := d.read?_chars endsDigits_nil
  rwa [List.append_nil] at hRead

/- Behind a date alone no time of day is read. -/
theorem DateTime.read?_date
    (separator : Separator)
    (d : Date) :
    DateTime.read? separator d.chars = none := by
  have hClock : Clock.read? [] = none :=
    Clock.read?_eq_none endsDigits_nil
  simp only [read?, d.read?_alone, Option.bind_eq_bind,
    Option.bind_some]
  cases separator with
  | space =>
      have hSpace : Separator.space.read? [] = some [] := rfl
      rw [hSpace, Option.bind_some, hClock, Option.bind_none]
  | letter => rfl

end Calendar

end GraphClient

------------------------------------------------------------
-- The Layout That Fits
------------------------------------------------------------

namespace GraphClient

namespace Calendar

namespace DateTime

/- Every separator is read in its own layout. -/
theorem readAny?_charsWith
    (separator : Separator)
    (t : DateTime) :
    readAny? (t.charsWith separator) = some t := by
  have hRead := t.read?_charsWith separator
  unfold readAny?
  cases separator with
  | space =>
      rw [hRead]
      rfl
  | letter =>
      rw [t.read?_space_letter, hRead]
      rfl

/- A date alone is read as its midnight. -/
theorem readAny?_date
    (d : Date) :
    readAny? d.chars = some ⟨d, .midnight⟩ := by
  have hDay : readDay? d.chars = some ⟨d, .midnight⟩ := by
    unfold readDay?
    rw [d.read?_alone]
    rfl
  unfold readAny?
  rw [read?_date .space d, read?_date .letter d, hDay]
  rfl

/- A date and time is read with white space around it. -/
theorem parse?_of_pads
    {separator : Separator}
    {t : DateTime}
    {whole : String}
    (hPads : Text.Pads whole (t.charsWith separator)) :
    parse? whole = some t := by
  unfold parse?
  rw [hPads.trimChars_eq, t.trimChars_charsWith,
    readAny?_charsWith]

/- A date is read with white space around it. -/
theorem parse?_of_pads_date
    {d : Date}
    {whole : String}
    (hPads : Text.Pads whole d.chars) :
    parse? whole = some ⟨d, .midnight⟩ := by
  unfold parse?
  rw [hPads.trimChars_eq, d.trimChars_chars, readAny?_date]

/-
  Every date and time is read from its text, also with a letter
  for the space in it, and its date alone is read as the start
  of that day, with any white space around all of these.  Both
  encoders write it as a string that denotes it, and that may
  stand where a date is asked for.
-/
theorem layouts_round_trip
    (t : DateTime) :
    (∀ separator whole,
      Text.Pads whole (t.charsWith separator) →
        parse? whole = some t) ∧
      (∀ whole,
        Text.Pads whole t.date.chars →
          parse? whole = some ⟨t.date, .midnight⟩) ∧
      t.text = String.ofList (t.charsWith .space) ∧
      ∃ s,
        (Value.dateTime t).toJson = .string s ∧
          (Value.dateTime t).written = .string s ∧
          (Value.string s).dateTime? = some t ∧
          DataType.dateTime.accepts (.string s) = true := by
  refine ⟨?_, ?_, rfl, t.text, rfl, rfl, ?_, ?_⟩
  · intro separator whole hPads
    exact parse?_of_pads hPads
  · intro whole hPads
    exact parse?_of_pads_date hPads
  · exact Value.dateTime?_text t
  · exact DataType.accepts_text t

/- A leap second at the end of a year before the year 0. -/
def ancientLeapSecond : DateTime :=
  ⟨⟨-5, 12, 31, by decide⟩, ⟨23, 59, 60, by decide⟩⟩

/- It is read with white space of several kinds around it. -/
theorem layouts_round_trip_ancientLeapSecond :
    parse? "\u3000-0005-12-31 23:59:60\n" = some ancientLeapSecond ∧
      parse? " -0005-12-31T23:59:60\u2029" = some ancientLeapSecond ∧
      parse? "\t-0005-12-31 " =
        some ⟨ancientLeapSecond.date, .midnight⟩ := by
  have hBlank (c : Char) (hChar : Text.isBlank c = true) :
      ∀ d ∈ [c], Text.isBlank d = true := by
    simpa using hChar
  rcases layouts_round_trip ancientLeapSecond with ⟨hAll, hDay, _⟩
  refine ⟨?_, ?_, ?_⟩
  · exact hAll .space _
      ⟨['\u3000'], ['\n'], by decide, hBlank _ (by decide),
        hBlank _ (by decide)⟩
  · exact hAll .letter _
      ⟨[' '], ['\u2029'], by decide, hBlank _ (by decide),
        hBlank _ (by decide)⟩
  · exact hDay _
      ⟨['\t'], [' '], by decide, hBlank _ (by decide),
        hBlank _ (by decide)⟩

end DateTime

end Calendar

end GraphClient
