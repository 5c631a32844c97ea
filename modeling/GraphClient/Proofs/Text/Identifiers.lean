import GraphClient.Text.Name
import Mathlib.Computability.RegularExpressions
/-
  Which texts are identifiers.

  Key definitions include:
    * `GraphClient.Text.identifierPattern`

  Key theorems include:
    * `GraphClient.Text.isIdentifier_iff_matches`

  An identifier is what the expression `[A-Za-z_][A-Za-z0-9_]*`
  matches as a whole.
-/

------------------------------------------------------------
-- Identifiers
------------------------------------------------------------

namespace GraphClient

namespace Text

/- The characters from one to another. -/
def charsBetween
    (first last : Char) :
    List Char :=
  (List.range (last.toNat + 1 - first.toNat)).map
    (fun i => Char.ofNat (first.toNat + i))

/- The expression of one of some characters. -/
def anyOf : List Char → RegularExpression Char
| [] => 0
| c :: cs => .char c + anyOf cs

/- The characters of names: `A-Za-z_`. -/
def nameStarts : List Char :=
  charsBetween 'A' 'Z' ++ charsBetween 'a' 'z' ++ ['_']

/- The expression `[A-Za-z_][A-Za-z0-9_]*`. -/
def identifierPattern : RegularExpression Char :=
  anyOf nameStarts *
    (anyOf (nameStarts ++ charsBetween '0' '9')).star

/- Between two ASCII characters are those in between. -/
theorem mem_charsBetween_iff
    {first last : Char}
    (hAscii : last.toNat < 128)
    (c : Char) :
    c ∈ charsBetween first last ↔ first ≤ c ∧ c ≤ last := by
  have hLe (a b : Char) : a ≤ b ↔ a.toNat ≤ b.toNat := Iff.rfl
  simp only [charsBetween, List.mem_map, List.mem_range, hLe]
  constructor
  · rintro ⟨i, hLt, rfl⟩
    have hBack :
        (Char.ofNat (first.toNat + i)).toNat = first.toNat + i := by
      have hValid : (first.toNat + i).isValidChar :=
        Or.inl (by omega)
      rw [Char.ofNat, dif_pos hValid]
      rfl
    rw [hBack]
    omega
  · rintro ⟨hFirst, hLast⟩
    refine ⟨c.toNat - first.toNat, by omega, ?_⟩
    rw [Nat.add_sub_cancel' hFirst, Char.ofNat_toNat]

/- One of some characters is matched, alone. -/
theorem mem_matches_anyOf_iff
    {cs word : List Char} :
    word ∈ (anyOf cs).matches' ↔ ∃ c ∈ cs, word = [c] := by
  induction cs with
  | nil => simp [anyOf]
  | cons d ds ih =>
      rw [anyOf, RegularExpression.matches'_add, Language.mem_add,
        ih, RegularExpression.matches'_char]
      simp only [List.mem_cons, exists_eq_or_imp]
      exact Iff.rfl

/- Any number of some characters are matched. -/
theorem mem_matches_star_anyOf_iff
    {cs word : List Char} :
    word ∈ (anyOf cs).star.matches' ↔ ∀ c ∈ word, c ∈ cs := by
  rw [RegularExpression.matches'_star, Language.mem_kstar]
  constructor
  · rintro ⟨parts, rfl, hParts⟩ c hMem
    rcases List.mem_flatten.mp hMem with ⟨part, hPart, hIn⟩
    rcases mem_matches_anyOf_iff.mp (hParts part hPart) with
      ⟨d, hd, rfl⟩
    rw [List.mem_singleton.mp hIn]
    exact hd
  · intro hAll
    refine ⟨word.map (fun c => [c]), ?_, ?_⟩
    · induction word with
      | nil => rfl
      | cons c rest ih =>
          rw [List.forall_mem_cons] at hAll
          simpa using ih hAll.2
    · intro part hPart
      rcases List.mem_map.mp hPart with ⟨c, hc, rfl⟩
      exact mem_matches_anyOf_iff.mpr ⟨c, hAll c hc, rfl⟩

/- Names start with what identifiers start with. -/
theorem mem_nameStarts_iff
    (c : Char) :
    c ∈ nameStarts ↔ startsIdentifier c = true := by
  simp only [nameStarts, startsIdentifier, isLetter,
    List.mem_append, List.mem_singleton, Bool.or_eq_true,
    Bool.and_eq_true, decide_eq_true_eq, beq_iff_eq,
    mem_charsBetween_iff (by decide : 'Z'.toNat < 128),
    mem_charsBetween_iff (by decide : 'z'.toNat < 128)]
  rw [or_comm (a := 'A' ≤ c ∧ c ≤ 'Z')]

/- Names go on with what identifiers go on with. -/
theorem mem_nameParts_iff
    (c : Char) :
    c ∈ nameStarts ++ charsBetween '0' '9' ↔
      continuesIdentifier c = true := by
  simp [continuesIdentifier, isDigit, mem_nameStarts_iff,
    mem_charsBetween_iff]

/- Identifiers are what the expression matches as a whole. -/
theorem isIdentifier_iff_matches
    {s : String} :
    isIdentifier s = true ↔
      s.toList ∈ identifierPattern.matches' := by
  rw [identifierPattern, RegularExpression.matches'_mul,
    Language.mem_mul]
  simp only [mem_matches_anyOf_iff, mem_matches_star_anyOf_iff,
    mem_nameStarts_iff, mem_nameParts_iff]
  unfold isIdentifier
  cases s.toList with
  | nil => simp
  | cons c rest => simp

end Text

end GraphClient
