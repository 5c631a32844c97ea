import GraphClient.Attribute.DataType
import GraphClient.Proofs.Number.Numerals
import GraphClient.Proofs.Text.Trimming
/-
  The text of a date and time is read as that date and time.

  Key definitions include:
    * `GraphClient.Calendar.DateTime.charsWith`

  Key theorems include:
    * `GraphClient.Calendar.Date.read?_chars`
    * `GraphClient.Calendar.Clock.read?_chars`
    * `GraphClient.Calendar.DateTime.read?_charsWith`
    * `GraphClient.Calendar.DateTime.parse?_text`
    * `GraphClient.DataType.accepts_text`

  Every year has a text that is read as that year, also one with
  a sign, and a second 60 is kept.
-/

------------------------------------------------------------
-- Blanks
------------------------------------------------------------

namespace GraphClient

namespace Text

/- No digit is white space. -/
theorem isBlank_of_isDigit
    {c : Char}
    (hDigit : Numeral.isDigit c = true) :
    isBlank c = false := by
  have hRange : 48 ≤ c.toNat ∧ c.toNat ≤ 57 := by
    simpa [Numeral.isDigit, Char.le_def, UInt32.le_iff_toNat_le]
      using hDigit
  unfold isBlank
  simp only [Bool.or_eq_false_iff, Bool.and_eq_false_iff,
    decide_eq_false_iff_not, beq_eq_false_iff_ne]
  omega

end Text

end GraphClient

------------------------------------------------------------
-- Numbers
------------------------------------------------------------

namespace GraphClient

namespace Calendar

open Numeral (AreDigits EndsDigits)

/- Digits are filled up with digits. -/
theorem areDigits_padded
    (width n : Nat) :
    AreDigits (padded width n) := by
  constructor
  · intro hNil
    exact Numeral.digitsOf_ne_nil n (List.append_eq_nil_iff.mp hNil).2
  · intro c hMem
    rcases List.mem_append.mp hMem with hZero | hDigit
    · rw [List.eq_of_mem_replicate hZero]
      decide
    · exact Numeral.isDigit_of_mem_digitsOf hDigit

/- Zeros at the start add nothing to a number. -/
theorem valueOf_zeros_append
    (zeros : Nat)
    (digits : List Char) :
    Numeral.valueOf (List.replicate zeros '0' ++ digits) =
      Numeral.valueOf digits := by
  induction zeros with
  | zero => rfl
  | succ zeros ih =>
      rw [List.replicate_succ, List.cons_append]
      exact ih

/- A number has its value when it is filled up. -/
theorem valueOf_padded
    (width n : Nat) :
    Numeral.valueOf (padded width n) = n := by
  unfold padded
  rw [valueOf_zeros_append, Numeral.valueOf_digitsOf]

/- A number that is not too wide is filled up to its width. -/
theorem length_padded
    {width n : Nat}
    (hPos : 0 < width)
    (hLt : n < Nat.pow 10 width) :
    (padded width n).length = width := by
  have hDigits : (Numeral.digitsOf n).length ≤ width :=
    (Nat.length_toDigits_le_iff (by decide) hPos).mpr hLt
  unfold padded
  rw [List.length_append, List.length_replicate]
  omega

/- Digits are split off up to a limit that they do not exceed. -/
theorem spanDigits_append
    {digits rest : List Char}
    (hDigits : ∀ c ∈ digits, Numeral.isDigit c = true)
    (hEnds : EndsDigits rest)
    {limit : Nat}
    (hLimit : digits.length ≤ limit) :
    spanDigits limit (digits ++ rest) = (digits, rest) := by
  induction digits generalizing limit with
  | nil =>
      cases limit with
      | zero => rfl
      | succ limit =>
          cases rest with
          | nil => rfl
          | cons c rest =>
              have hDigit := hEnds c rfl
              simp [spanDigits, hDigit]
  | cons c digits ih =>
      cases limit with
      | zero => cases hLimit
      | succ limit =>
          have hDigit := hDigits c (by simp)
          have hRest :=
            ih (fun d hMem => hDigits d (List.mem_cons_of_mem c hMem))
              (Nat.le_of_succ_le_succ hLimit)
          simp [spanDigits, hDigit, hRest]

/- A filled-up number is read, within a limit. -/
theorem readDigits?_padded
    (width n : Nat)
    {rest : List Char}
    (hEnds : EndsDigits rest)
    {limit : Nat}
    (hLimit : (padded width n).length ≤ limit) :
    readDigits? limit (padded width n ++ rest) = some (n, rest) := by
  have hDigits := areDigits_padded width n
  have hValue := valueOf_padded width n
  unfold readDigits?
  rw [spanDigits_append hDigits.all hEnds hLimit]
  split
  · next hNil =>
      exact absurd (congrArg Prod.fst hNil) hDigits.ne_nil
  · next hSplit =>
      cases hSplit
      rw [hValue]

/- A filled-up number starts with a digit. -/
theorem exists_padded
    (width n : Nat) :
    ∃ c digits, padded width n = c :: digits ∧
      Numeral.isDigit c = true := by
  have hDigits := areDigits_padded width n
  rcases List.exists_cons_of_ne_nil hDigits.ne_nil with
    ⟨c, digits, hCons⟩
  exact ⟨c, digits, hCons, hDigits.all c (by simp [hCons])⟩

/- White space is looked for before a number, but there is none. -/
theorem trimLeft_padded
    (width n : Nat)
    (rest : List Char) :
    Text.trimLeft (padded width n ++ rest) =
      padded width n ++ rest := by
  rcases exists_padded width n with ⟨d, digits, hCons, hDigit⟩
  apply Text.trimLeft_of_head?
  intro c hHead
  rw [hCons] at hHead
  cases Option.some.inj hHead
  exact Text.isBlank_of_isDigit hDigit

/- A number of two digits is read. -/
theorem readNumber?_padded
    {n : Nat}
    (hLt : n < 100)
    {rest : List Char}
    (hEnds : EndsDigits rest) :
    readNumber? (padded 2 n ++ rest) = some (n, rest) := by
  have hLength : (padded 2 n).length = 2 :=
    length_padded (by decide) hLt
  unfold readNumber?
  rw [trimLeft_padded]
  exact readDigits?_padded 2 n hEnds (Nat.le_of_eq hLength)

/- A year without a sign is read from at most four digits. -/
theorem readYear?_padded
    {n : Nat}
    (hLt : n < 10000)
    {rest : List Char}
    (hEnds : EndsDigits rest) :
    readYear? (padded 4 n ++ rest) = some ((n : Int), rest) := by
  have hLength : (padded 4 n).length = 4 :=
    length_padded (by decide) hLt
  have hRead := readDigits?_padded 4 n hEnds (Nat.le_of_eq hLength)
  rcases exists_padded 4 n with ⟨c, digits, hCons, hDigit⟩
  have hNoSign :
      ∀ sign, Numeral.isDigit sign = false →
        ∀ tail, padded 4 n ++ rest ≠ sign :: tail := by
    intro sign hSign tail hEq
    rw [hCons, List.cons_append] at hEq
    cases hEq
    rw [hSign] at hDigit
    cases hDigit
  unfold readYear?
  rw [trimLeft_padded]
  split
  · next hMinus => exact absurd hMinus (hNoSign '-' (by decide) _)
  · next hPlus => exact absurd hPlus (hNoSign '+' (by decide) _)
  · rw [hRead]
    rfl

/- A year is read, with its sign if it has one. -/
theorem readYear?_yearChars
    (year : Int)
    {rest : List Char}
    (hEnds : EndsDigits rest) :
    readYear? (yearChars year ++ rest) = some (year, rest) := by
  have hLimit :
      (padded 4 year.natAbs).length ≤
        (padded 4 year.natAbs ++ rest).length := by
    rw [List.length_append]
    omega
  have hRead := readDigits?_padded 4 year.natAbs hEnds hLimit
  have hTrim :
      ∀ sign, Text.isBlank sign = false →
        ∀ cs, Text.trimLeft (sign :: cs) = sign :: cs := by
    intro sign hSign cs
    apply Text.trimLeft_of_head?
    intro c hHead
    cases Option.some.inj hHead
    exact hSign
  unfold yearChars
  by_cases hNegative : year < 0
  · have hYear : -(year.natAbs : Int) = year := by omega
    simp only [hNegative, if_true, List.cons_append, readYear?,
      hTrim '-' (by decide), hRead, Option.map_some, hYear]
  · have hYear : (year.natAbs : Int) = year := by omega
    by_cases hLarge : 9999 < year
    · simp only [hNegative, hLarge, if_true, if_false,
        List.cons_append, readYear?, hTrim '+' (by decide), hRead,
        Option.map_some, hYear]
    · have hFour :=
        readYear?_padded (show year.natAbs < 10000 by omega) hEnds
      rw [hYear] at hFour
      simpa only [hNegative, hLarge, if_false] using hFour

/- No year starts with white space. -/
theorem exists_yearChars
    (year : Int) :
    ∃ c rest, yearChars year = c :: rest ∧
      Text.isBlank c = false := by
  rcases exists_padded 4 year.natAbs with
    ⟨c, digits, hCons, hDigit⟩
  unfold yearChars
  by_cases hNegative : year < 0
  · simp only [hNegative, if_true]
    exact ⟨'-', _, rfl, by decide⟩
  · by_cases hLarge : 9999 < year
    · simp only [hNegative, hLarge, if_true, if_false]
      exact ⟨'+', _, rfl, by decide⟩
    · simp only [hNegative, hLarge, if_false]
      exact ⟨c, digits, hCons, Text.isBlank_of_isDigit hDigit⟩

/- A mark that is there is read. -/
@[simp]
theorem readMark?_cons
    (mark : Char)
    (rest : List Char) :
    readMark? mark (mark :: rest) = some rest := by
  simp [readMark?]

end Calendar

end GraphClient

------------------------------------------------------------
-- Dates and Times
------------------------------------------------------------

namespace GraphClient

namespace Calendar

open Numeral (EndsDigits)

/- A number ends where the text does. -/
theorem endsDigits_nil :
    EndsDigits [] := by
  intro c hHead
  cases hHead

/- A mark that is no digit ends a number. -/
theorem endsDigits_cons
    {mark : Char}
    (hMark : Numeral.isDigit mark = false)
    (rest : List Char) :
    EndsDigits (mark :: rest) := by
  intro c hHead
  cases Option.some.inj hHead
  exact hMark

/- No month has more days than two digits can count. -/
theorem daysInMonth_le
    (year : Int)
    (month : Nat) :
    daysInMonth year month ≤ 31 := by
  unfold daysInMonth
  split
  · split <;> decide
  · split <;> decide

/- The text of a date is read as the date. -/
theorem Date.read?_chars
    (d : Date)
    {rest : List Char}
    (hEnds : EndsDigits rest) :
    Date.read? (d.chars ++ rest) = some (d, rest) := by
  rcases d with ⟨year, month, day, hDate⟩
  have hDays := daysInMonth_le year month
  have hMonth : month < 100 := by
    have hLast := hDate.2.1.2
    omega
  have hDay : day < 100 := by
    have hLast := hDate.2.2.2
    omega
  have hMark (cs : List Char) : EndsDigits ('-' :: cs) :=
    endsDigits_cons (by decide) cs
  simp only [Date.chars, List.append_assoc, List.cons_append,
    Date.read?, readYear?_yearChars year (hMark _),
    readNumber?_padded hMonth (hMark _),
    readNumber?_padded hDay hEnds, readMark?_cons,
    Option.bind_eq_bind, Option.bind_some, Date.of?, hDate, dite_true]
  rfl

/- The text of a time of day is read as the time. -/
theorem Clock.read?_chars
    (c : Clock)
    {rest : List Char}
    (hEnds : EndsDigits rest) :
    Clock.read? (c.chars ++ rest) = some (c, rest) := by
  rcases c with ⟨hour, minute, second, hClock⟩
  have hHour : hour < 100 := by
    have hLast := hClock.1
    omega
  have hMinute : minute < 100 := by
    have hLast := hClock.2.1
    omega
  have hSecond : second < 100 := by
    have hLast := hClock.2.2
    omega
  have hMark (cs : List Char) : EndsDigits (':' :: cs) :=
    endsDigits_cons (by decide) cs
  simp only [Clock.chars, List.append_assoc, List.cons_append,
    Clock.read?, readNumber?_padded hHour (hMark _),
    readNumber?_padded hMinute (hMark _),
    readNumber?_padded hSecond hEnds, readMark?_cons,
    Option.bind_eq_bind, Option.bind_some, Clock.of?, hClock, dite_true]
  rfl

/- What ends with a filled-up number does not end blank. -/
theorem isBlank_getLast?_padded
    (front : List Char)
    (width n : Nat) :
    ∀ c ∈ (front ++ padded width n).getLast?,
      Text.isBlank c = false := by
  intro c hLast
  have hDigits := areDigits_padded width n
  rw [List.getLast?_append,
    List.getLast?_eq_some_getLast hDigits.ne_nil] at hLast
  cases Option.some.inj hLast
  exact Text.isBlank_of_isDigit
    (hDigits.all _ (List.getLast_mem hDigits.ne_nil))

/- Nothing before a date is trimmed, for it does not start blank. -/
theorem Date.trimChars_append
    (d : Date)
    {rest : List Char}
    (hLast :
      ∀ c ∈ (d.chars ++ rest).getLast?, Text.isBlank c = false) :
    Text.trimChars (d.chars ++ rest) = d.chars ++ rest := by
  refine Text.trimChars_of_ends ?_ hLast
  intro c hHead
  rcases exists_yearChars d.year with ⟨first, year, hCons, hBlank⟩
  rw [Date.chars, hCons] at hHead
  cases Option.some.inj hHead
  exact hBlank

/- Nothing around the text of a date is trimmed. -/
theorem Date.trimChars_chars
    (d : Date) :
    Text.trimChars d.chars = d.chars := by
  have hSplit :
      d.chars ++ [] =
        (yearChars d.year ++ ('-' :: (padded 2 d.month ++ ['-']))) ++
          padded 2 d.day := by
    simp [Date.chars]
  have hLast :
      ∀ c ∈ (d.chars ++ []).getLast?, Text.isBlank c = false := by
    rw [hSplit]
    exact isBlank_getLast?_padded _ 2 d.day
  have hTrim := d.trimChars_append hLast
  rwa [List.append_nil] at hTrim

/- The character that stands for a separator. -/
def Separator.mark : Separator → Char
| .space => ' '
| .letter => 'T'

/- The characters of a date and time around a separator. -/
def DateTime.charsWith
    (separator : Separator)
    (t : DateTime) :
    List Char :=
  t.date.chars ++ (separator.mark :: t.clock.chars)

/- No separator is a digit. -/
theorem Separator.endsDigits
    (separator : Separator)
    (rest : List Char) :
    EndsDigits (separator.mark :: rest) := by
  apply endsDigits_cons
  cases separator <;> decide

/- Nothing around the text of a date and time is trimmed. -/
theorem DateTime.trimChars_charsWith
    (separator : Separator)
    (t : DateTime) :
    Text.trimChars (t.charsWith separator) =
      t.charsWith separator := by
  apply t.date.trimChars_append
  have hSplit :
      t.date.chars ++ (separator.mark :: t.clock.chars) =
        (t.date.chars ++ (separator.mark :: (padded 2 t.clock.hour ++
          (':' :: (padded 2 t.clock.minute ++ [':']))))) ++
            padded 2 t.clock.second := by
    simp [Clock.chars]
  rw [hSplit]
  exact isBlank_getLast?_padded _ 2 t.clock.second

/- A separator is read before a time of day. -/
theorem Separator.read?_mark
    (separator : Separator)
    (c : Clock) :
    separator.read? (separator.mark :: c.chars) = some c.chars := by
  cases separator with
  | space => exact congrArg some (trimLeft_padded 2 c.hour _)
  | letter => exact readMark?_cons 'T' c.chars

/- A date and time is read around its separator. -/
theorem DateTime.read?_charsWith
    (separator : Separator)
    (t : DateTime) :
    DateTime.read? separator (t.charsWith separator) = some t := by
  have hDate :=
    Date.read?_chars t.date (separator.endsDigits t.clock.chars)
  have hMark := separator.read?_mark t.clock
  have hClock := Clock.read?_chars t.clock endsDigits_nil
  rw [List.append_nil] at hClock
  simp only [read?, charsWith, hDate, hMark, hClock,
    Option.bind_eq_bind, Option.bind_some, List.isEmpty_nil, if_true]

/- The text of a date and time is read as that date and time. -/
theorem DateTime.parse?_text
    (t : DateTime) :
    DateTime.parse? t.text = some t := by
  have hTrim : Text.trimChars t.chars = t.chars :=
    t.trimChars_charsWith .space
  have hRead : DateTime.read? .space t.chars = some t :=
    t.read?_charsWith .space
  unfold parse? text readAny?
  rw [String.toList_ofList, hTrim, hRead]
  rfl

end Calendar

end GraphClient

------------------------------------------------------------
-- Values
------------------------------------------------------------

namespace GraphClient

/- The text of a date, as a string, denotes the date. -/
theorem Value.dateTime?_text
    (t : Calendar.DateTime) :
    (Value.string t.text).dateTime? = some t :=
  Calendar.DateTime.parse?_text t

/- The text of a date may stand where a date is asked for. -/
theorem DataType.accepts_text
    (t : Calendar.DateTime) :
    DataType.dateTime.accepts (.string t.text) = true := by
  rw [accepts, Value.dateTime?_text, Option.isSome_some]

end GraphClient
