import GraphClient.Number.Layout
import GraphClient.Number.Reading
/-
  Numerals that are written and read again.

  Key definitions include:
    * `GraphClient.Numeral.WellFormed`

  Key theorems include:
    * `GraphClient.Numeral.valueOf_digitsOf`
    * `GraphClient.Numeral.read?_chars_append`
    * `GraphClient.Numeral.text_ofInt`
    * `GraphClient.Numeral.wellFormed_ofInt`
    * `GraphClient.Numeral.value?_ofInt`
    * `GraphClient.Binary64.wellFormed_numeral`

  A numeral is read again from its characters when its parts
  are digits, no part is empty and no zero stands before its
  whole part.  The numerals of integers and of floating-point
  numbers are like that, whatever the number is.
-/

------------------------------------------------------------
-- Digits
------------------------------------------------------------

namespace GraphClient

namespace Numeral

/- A digit of the library is a digit. -/
theorem isDigit_of_char
    {c : Char}
    (hDigit : c.isDigit = true) :
    isDigit c = true := by
  unfold Char.isDigit at hDigit
  unfold isDigit
  simpa [Char.le_def] using hDigit

/- The digits of a number are digits. -/
theorem isDigit_of_mem_digitsOf
    {n : Nat}
    {c : Char}
    (hMem : c ∈ digitsOf n) :
    isDigit c = true :=
  isDigit_of_char
    (Nat.isDigit_of_mem_toDigits (by decide) (by decide) hMem)

/- A number has at least one digit. -/
theorem digitsOf_ne_nil
    (n : Nat) :
    digitsOf n ≠ [] :=
  Nat.toDigits_ne_nil

/- A number of one digit. -/
theorem digitsOf_of_lt
    {n : Nat}
    (hLt : n < 10) :
    digitsOf n = [Nat.digitChar n] :=
  Nat.toDigits_of_lt_base hLt

/- The last digit of a number stands after those of its tenth. -/
theorem digitsOf_of_le
    {n : Nat}
    (hLe : 10 ≤ n) :
    digitsOf n = digitsOf (n / 10) ++ [Nat.digitChar (n % 10)] :=
  Nat.toDigits_of_base_le (by decide) hLe

/- No zero stands before the digits of a number. -/
theorem head?_digitsOf
    {n : Nat}
    (hPos : 0 < n) :
    (digitsOf n).head? ≠ some '0' := by
  induction n using Nat.strongRecOn with
  | ind n ih =>
      by_cases hLt : n < 10
      · rw [digitsOf_of_lt hLt]
        have hAll :
            ∀ d, d < 10 → 0 < d →
              [Nat.digitChar d].head? ≠ some '0' := by
          decide
        exact hAll n hLt hPos
      · have hTenth := ih (n / 10) (by omega) (by omega)
        rw [digitsOf_of_le (by omega)]
        rcases List.exists_cons_of_ne_nil (digitsOf_ne_nil (n / 10))
          with ⟨c, rest, hCons⟩
        rw [hCons] at hTenth ⊢
        exact hTenth

/- A number is the value of its digits. -/
theorem valueOf_digitsOf
    (n : Nat) :
    valueOf (digitsOf n) = n := by
  have hStep :
      (fun (n : Nat) (c : Char) => n * 10 + digitValue c) =
        fun n c => 10 * n + (c.toNat - '0'.toNat) := by
    funext n c
    rw [Nat.mul_comm, digitValue]
  unfold valueOf
  rw [hStep]
  exact Nat.ofDigitChars_ten_toDigits

end Numeral

end GraphClient

------------------------------------------------------------
-- Well-Formed Numerals
------------------------------------------------------------

namespace GraphClient

namespace Numeral

/- At least one character, and all of them digits. -/
structure AreDigits (cs : List Char) : Prop where
  ne_nil : cs ≠ []
  all : ∀ c ∈ cs, isDigit c = true

/- A numeral whose parts are digits, without a zero before them. -/
structure WellFormed (n : Numeral) : Prop where
  whole : AreDigits n.whole
  noZero : n.whole.head? = some '0' → n.whole = ['0']
  fraction : ∀ digits ∈ n.fraction, AreDigits digits
  power : ∀ p ∈ n.power, AreDigits p.digits

/- A zero is a digit. -/
theorem areDigits_zero :
    AreDigits ['0'] where
  ne_nil := by simp
  all := by
    intro c hMem
    rw [List.mem_singleton.mp hMem]
    decide

/- The digits of a number. -/
theorem areDigits_digitsOf
    (n : Nat) :
    AreDigits (digitsOf n) :=
  ⟨digitsOf_ne_nil n, fun _ => isDigit_of_mem_digitsOf⟩

/- No digit stands at the start of a text. -/
def EndsDigits
    (cs : List Char) :
    Prop :=
  ∀ c ∈ cs.head?, isDigit c = false

/- Nothing that goes on a numeral stands at the start of a text. -/
def EndsNumeral
    (cs : List Char) :
    Prop :=
  ∀ c ∈ cs.head?,
    isDigit c = false ∧ c ≠ '.' ∧ c ≠ 'e' ∧ c ≠ 'E'

/- What ends a numeral ends its digits. -/
theorem EndsNumeral.endsDigits
    {cs : List Char}
    (hEnds : EndsNumeral cs) :
    EndsDigits cs :=
  fun c hHead => (hEnds c hHead).1

end Numeral

end GraphClient

------------------------------------------------------------
-- Reading
------------------------------------------------------------

namespace GraphClient

namespace Numeral

/- Digits are split from what ends them. -/
theorem spanDigits_append
    {digits rest : List Char}
    (hDigits : ∀ c ∈ digits, isDigit c = true)
    (hEnds : EndsDigits rest) :
    spanDigits (digits ++ rest) = (digits, rest) := by
  have hStop :
      rest.takeWhile isDigit = [] ∧ rest.dropWhile isDigit = rest := by
    cases rest with
    | nil => exact ⟨rfl, rfl⟩
    | cons c rest =>
        have hNot := hEnds c rfl
        simp [hNot]
  unfold spanDigits
  rw [List.takeWhile_append_of_pos hDigits,
    List.dropWhile_append_of_pos hDigits, hStop.1, hStop.2,
    List.append_nil]

/- Digits are read up to what ends them. -/
theorem readDigits?_append
    {digits rest : List Char}
    (hDigits : AreDigits digits)
    (hEnds : EndsDigits rest) :
    readDigits? (digits ++ rest) = some (digits, rest) := by
  have hNonempty := hDigits.ne_nil
  unfold readDigits?
  rw [spanDigits_append hDigits.all hEnds]
  cases digits with
  | nil => exact (hNonempty rfl).elim
  | cons c digits => rfl

/- A whole part is read up to what ends it. -/
theorem readWhole?_append
    {whole rest : List Char}
    (hWhole : AreDigits whole)
    (hNoZero : whole.head? = some '0' → whole = ['0'])
    (hEnds : EndsDigits rest) :
    readWhole? (whole ++ rest) = some (whole, rest) := by
  unfold readWhole?
  rw [readDigits?_append hWhole hEnds]
  split
  · rename_i hZero
    simp only [Option.some.injEq, Prod.mk.injEq] at hZero
    have hOnly := hNoZero (by rw [hZero.1]; rfl)
    rw [hZero.1] at hOnly
    cases hOnly
  · rfl

/- The characters of a fraction, with its point. -/
def fractionChars : Option (List Char) → List Char
| none => []
| some digits => '.' :: digits

/- The characters of a power that may be absent. -/
def powerChars : Option Power → List Char
| none => []
| some p => p.chars

/- The characters of a numeral are those of its parts. -/
theorem chars_eq
    (n : Numeral) :
    n.chars =
      (if n.negative then ['-'] else []) ++
        (n.whole ++ (fractionChars n.fraction ++
          powerChars n.power)) := by
  rcases n with ⟨negative, whole, fraction, power⟩
  cases fraction <;> cases power <;>
    simp [chars, fractionChars, powerChars]

/- A fraction is read up to what ends it. -/
theorem readFraction?_append
    {fraction : Option (List Char)}
    {rest : List Char}
    (hFraction : ∀ digits ∈ fraction, AreDigits digits)
    (hEnds : EndsDigits rest)
    (hPoint : rest.head? ≠ some '.') :
    readFraction? (fractionChars fraction ++ rest) =
      some (fraction, rest) := by
  cases fraction with
  | some digits =>
      have hRead := readDigits?_append (hFraction digits rfl) hEnds
      simp [fractionChars, readFraction?, hRead]
  | none =>
      cases rest with
      | nil => rfl
      | cons c rest =>
          have hNe : c ≠ '.' := by simpa using hPoint
          simp only [fractionChars, List.nil_append, readFraction?]
          split
          · rename_i hHead
            cases hHead
            exact (hNe rfl).elim
          · rfl

/- A power is read up to what ends it. -/
theorem readPower?_append
    {power : Option Power}
    {rest : List Char}
    (hPower : ∀ p ∈ power, AreDigits p.digits)
    (hEnds : EndsNumeral rest) :
    readPower? (powerChars power ++ rest) = some (power, rest) := by
  cases power with
  | some p =>
      rcases p with ⟨negative, digits⟩
      have hRead :=
        readDigits?_append (hPower _ rfl) hEnds.endsDigits
      cases negative <;>
        simp [powerChars, Power.chars, readPower?,
          readSignedDigits?, readSign, hRead]
  | none =>
      cases rest with
      | nil => rfl
      | cons c rest =>
          rcases hEnds c rfl with ⟨_, _, hLower, hUpper⟩
          simp only [powerChars, List.nil_append, readPower?]
          split
          · rename_i hHead
            cases hHead
            exact (hLower rfl).elim
          · rename_i hHead
            cases hHead
            exact (hUpper rfl).elim
          · rfl

/- A power, or what follows it, ends digits and starts no fraction. -/
theorem ends_powerChars
    (power : Option Power)
    {rest : List Char}
    (hEnds : EndsNumeral rest) :
    EndsDigits (powerChars power ++ rest) ∧
      (powerChars power ++ rest).head? ≠ some '.' := by
  cases power with
  | some p =>
      constructor
      · intro c hHead
        have hMark : 'e' = c := Option.some.inj hHead
        rw [← hMark]
        decide
      · simp [powerChars, Power.chars]
  | none =>
      refine ⟨hEnds.endsDigits, ?_⟩
      intro hHead
      exact (hEnds '.' hHead).2.1 rfl

/- A fraction, or what follows it, ends digits. -/
theorem ends_fractionChars
    (fraction : Option (List Char))
    {rest : List Char}
    (hEnds : EndsDigits rest) :
    EndsDigits (fractionChars fraction ++ rest) := by
  cases fraction with
  | none => exact hEnds
  | some digits =>
      intro c hHead
      have hPoint : '.' = c := Option.some.inj hHead
      rw [← hPoint]
      decide

/- The part of a numeral after its sign is read again. -/
theorem readUnsigned?_append
    {n : Numeral}
    (hWell : n.WellFormed)
    {rest : List Char}
    (hEnds : EndsNumeral rest) :
    readUnsigned? n.negative
        (n.whole ++ (fractionChars n.fraction ++
          (powerChars n.power ++ rest))) =
      some (n, rest) := by
  have hPower := ends_powerChars n.power hEnds
  have hFraction := ends_fractionChars n.fraction hPower.1
  have hReadWhole :=
    readWhole?_append hWell.whole hWell.noZero hFraction
  have hReadFraction :=
    readFraction?_append hWell.fraction hPower.1 hPower.2
  have hReadPower := readPower?_append hWell.power hEnds
  simp [readUnsigned?, hReadWhole, hReadFraction, hReadPower]

/- A well-formed numeral is read again, up to what ends it. -/
theorem read?_chars_append
    {n : Numeral}
    (hWell : n.WellFormed)
    {rest : List Char}
    (hEnds : EndsNumeral rest) :
    read? (n.chars ++ rest) = some (n, rest) := by
  have hRead := readUnsigned?_append hWell hEnds
  rw [chars_eq]
  cases hSign : n.negative with
  | true =>
      rw [hSign] at hRead
      simpa [read?] using hRead
  | false =>
      rw [hSign] at hRead
      -- a digit comes first, so there is no sign
      rcases List.exists_cons_of_ne_nil hWell.whole.ne_nil with
        ⟨c, digits, hCons⟩
      have hDigit : isDigit c = true :=
        hWell.whole.all c (by simp [hCons])
      have hNoSign : c ≠ '-' := by
        rintro rfl
        revert hDigit
        decide
      simp only [hCons, List.cons_append] at hRead
      simp only [hCons, Bool.false_eq_true, if_false,
        List.nil_append, List.cons_append, List.append_assoc, read?]
      split
      · rename_i hHead
        cases hHead
        exact (hNoSign rfl).elim
      · exact hRead

end Numeral

end GraphClient

------------------------------------------------------------
-- Integers
------------------------------------------------------------

namespace GraphClient

namespace Numeral

/- The numeral of an integer is written as the library does. -/
theorem text_ofInt
    (n : Int) :
    (ofInt n).text = toString n := by
  unfold text
  cases n with
  | ofNat m =>
      change String.ofList _ = m.repr
      simp [ofInt, chars, digitsOf, Nat.repr]
  | negSucc m =>
      have hNegative : Int.negSucc m < 0 := Int.negSucc_lt_zero m
      change String.ofList _ = "-" ++ (m + 1).repr
      simp [ofInt, chars, digitsOf, Nat.repr, hNegative]

/- The numeral of an integer is well-formed. -/
theorem wellFormed_ofInt
    (n : Int) :
    (ofInt n).WellFormed where
  whole := areDigits_digitsOf n.natAbs
  noZero := by
    intro hHead
    change digitsOf n.natAbs = ['0']
    rcases Nat.eq_zero_or_pos n.natAbs with hZero | hPos
    · rw [hZero]
      rfl
    · exact (head?_digitsOf hPos hHead).elim
  fraction := by simp [ofInt]
  power := by simp [ofInt]

/- An integer that fits into 64 bits is the value of its numeral. -/
theorem value?_ofInt
    {n : Int}
    (hLow : -(Nat.pow 2 63 : Nat) ≤ n)
    (hHigh : n ≤ maxWord) :
    (ofInt n).value? = some (.int n) := by
  have hInteger : (ofInt n).integer? = some n := by
    unfold integer? ofInt
    simp only [Option.isNone_none, Bool.and_self, if_true,
      valueOf_digitsOf]
    by_cases hNegative : n < 0
    · have hPos : 0 < n.natAbs := by omega
      have hFits : n.natAbs ≤ Nat.pow 2 63 := by omega
      simp only [hNegative, decide_true, if_true, hPos, hFits,
        Bool.and_self, Option.some.injEq]
      omega
    · have hFits : n.natAbs ≤ maxWord := by omega
      simp only [hNegative, decide_false, Bool.false_eq_true,
        if_false, hFits, if_true, Option.some.injEq]
      omega
  unfold value?
  rw [hInteger]

/- No integer beyond 64 bits is the value of a numeral. -/
theorem le_maxWord_of_value?
    {n : Numeral}
    {i : Int}
    (hValue : n.value? = some (.int i)) :
    i ≤ maxWord := by
  unfold value? at hValue
  cases hInteger : n.integer? with
  | none =>
      rw [hInteger] at hValue
      rcases Option.map_eq_some_iff.mp hValue with ⟨x, _, hFloat⟩
      cases hFloat
  | some found =>
      rw [hInteger] at hValue
      cases hValue
      unfold integer? at hInteger
      simp only [Option.ite_none_right_eq_some] at hInteger
      rcases hInteger with ⟨_, hWhole⟩
      cases hSign : n.negative with
      | true =>
          simp only [hSign, if_true, Option.ite_none_right_eq_some,
            Option.some.injEq] at hWhole
          omega
      | false =>
          simp only [hSign, Bool.false_eq_true, if_false,
            Option.ite_none_right_eq_some, Option.some.injEq]
            at hWhole
          omega

end Numeral

end GraphClient

------------------------------------------------------------
-- Floating-Point Numbers
------------------------------------------------------------

namespace GraphClient

namespace Binary64

open Numeral (AreDigits)

/- The digits of a positional decimal before its point. -/
theorem areDigits_wholeChars
    (d : Decimal) :
    AreDigits d.wholeChars := by
  unfold Decimal.wholeChars
  by_cases hPoint : d.point ≤ 0
  · simp only [hPoint, if_true]
    exact Numeral.areDigits_zero
  · simp only [hPoint, if_false]
    constructor
    · have hTake : d.digitChars.take d.point.toNat ≠ [] := by
        have hNonempty : d.digitChars ≠ [] :=
          Numeral.digitsOf_ne_nil d.digits
        simp only [ne_eq, List.take_eq_nil_iff, hNonempty, or_false]
        omega
      simp [hTake]
    · intro c hMem
      rcases List.mem_append.mp hMem with hTake | hZero
      · exact Numeral.isDigit_of_mem_digitsOf
          (List.mem_of_mem_take hTake)
      · rw [List.eq_of_mem_replicate hZero]
        decide

/- The digits of a decimal after its point. -/
theorem isDigit_of_mem_fractionChars
    {d : Decimal}
    {c : Char}
    (hMem : c ∈ d.fractionChars) :
    Numeral.isDigit c = true := by
  unfold Decimal.fractionChars at hMem
  by_cases hExponent : d.exponent < 0
  · simp only [hExponent, if_true] at hMem
    rcases List.mem_append.mp hMem with hZero | hDrop
    · rw [List.eq_of_mem_replicate hZero]
      decide
    · exact Numeral.isDigit_of_mem_digitsOf
        (List.mem_of_mem_drop hDrop)
  · simp [hExponent] at hMem

/- No zero stands before a positional decimal that is not zero. -/
theorem noZero_wholeChars
    {d : Decimal}
    (hDigits : d.digits ≠ 0)
    (hHead : d.wholeChars.head? = some '0') :
    d.wholeChars = ['0'] := by
  unfold Decimal.wholeChars at hHead ⊢
  by_cases hPoint : d.point ≤ 0
  · simp only [hPoint, if_true]
  · simp only [hPoint, if_false] at hHead
    have hFirst :=
      Numeral.head?_digitsOf (Nat.pos_of_ne_zero hDigits)
    rcases List.exists_cons_of_ne_nil
      (Numeral.digitsOf_ne_nil d.digits) with ⟨c, rest, hCons⟩
    have hTake : d.point.toNat = d.point.toNat - 1 + 1 := by omega
    rw [hCons] at hFirst
    rw [Decimal.digitChars, hCons, hTake] at hHead
    exact (hFirst hHead).elim

/- The numeral of a floating-point number is well-formed. -/
theorem wellFormed_numeral
    (x : Binary64) :
    x.numeral.WellFormed := by
  have hZero := Numeral.areDigits_zero
  unfold numeral
  generalize x.shortest .toEven = d
  by_cases hDigits : d.digits = 0
  · simp only [hDigits, beq_self_eq_true, if_true]
    exact ⟨hZero, by simp, by simpa using hZero, by simp⟩
  · simp only [beq_iff_eq, hDigits, if_false]
    by_cases hPositional : isPositional d = true
    · simp only [hPositional, if_true]
      refine ⟨areDigits_wholeChars d, noZero_wholeChars hDigits,
        ?_, by simp⟩
      intro digits hFraction
      rw [← Option.some.inj hFraction]
      by_cases hEmpty : d.fractionChars.isEmpty = true
      · simpa only [hEmpty, if_true] using hZero
      · simp only [hEmpty]
        exact ⟨by simpa using hEmpty,
          fun c hMem => isDigit_of_mem_fractionChars hMem⟩
    · simp only [hPositional]
      have hFirst :=
        Numeral.head?_digitsOf (Nat.pos_of_ne_zero hDigits)
      have hAll : ∀ c ∈ d.digitChars, Numeral.isDigit c = true :=
        fun _ => Numeral.isDigit_of_mem_digitsOf
      rcases List.exists_cons_of_ne_nil
        (Numeral.digitsOf_ne_nil d.digits) with ⟨c, rest, hCons⟩
      have hChars : d.digitChars = c :: rest := hCons
      rw [hChars, List.forall_mem_cons] at hAll
      rw [hCons] at hFirst
      simp only [hChars, List.take_succ_cons, List.take_zero,
        List.drop_succ_cons, List.drop_zero]
      refine ⟨⟨by simp, by simpa using hAll.1⟩, ?_, ?_, ?_⟩
      · intro hHead
        exact (hFirst hHead).elim
      · intro digits hFraction
        cases rest with
        | nil => cases hFraction
        | cons next rest =>
            rw [← Option.some.inj hFraction]
            exact ⟨by simp, hAll.2⟩
      · intro p hPower
        rw [← Option.some.inj hPower]
        exact Numeral.areDigits_digitsOf _

end Binary64

end GraphClient
