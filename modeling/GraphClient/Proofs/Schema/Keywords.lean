import GraphClient.Schema.Keyword
import Mathlib.Data.List.Forall2
/-
  Reserved words in every letter case.

  Key definitions include:
    * `GraphClient.Keyword.Reserves`

  Key theorems include:
    * `GraphClient.Keyword.isReserved_iff`

  A reserved word is one of the words in upper case, with any of
  its letters in lower case.
-/

------------------------------------------------------------
-- Letter Case
------------------------------------------------------------

namespace GraphClient

/- A character is a given one, or its small letter. -/
def Text.IsLetterOf
    (c upper : Char) :
    Prop :=
  c = upper ∨
    ('A' ≤ upper ∧ upper ≤ 'Z') ∧ c.toNat = upper.toNat + 32

/- A name is one of the reserved words, in some letter case. -/
def Keyword.Reserves
    (name : String) :
    Prop :=
  ∃ word ∈ words,
    List.Forall₂ Text.IsLetterOf name.toList word.toList

end GraphClient

------------------------------------------------------------
-- Reserved Words
------------------------------------------------------------

namespace GraphClient

namespace Text

/- Characters are ordered by their numbers. -/
theorem char_le_iff
    {c d : Char} :
    c ≤ d ↔ c.toNat ≤ d.toNat := by
  rw [Char.le_def, UInt32.le_iff_toNat_le]
  rfl

/- The upper-case form is that of its own letters only. -/
theorem upperChar_eq_iff
    {c upper : Char}
    (hUpper : ¬ ('a' ≤ upper ∧ upper ≤ 'z')) :
    upperChar c = upper ↔ IsLetterOf c upper := by
  have hA : 'A'.toNat = 65 := rfl
  have hZ : 'Z'.toNat = 90 := rfl
  have ha : 'a'.toNat = 97 := rfl
  have hz : 'z'.toNat = 122 := rfl
  unfold upperChar IsLetterOf
  simp only [Bool.and_eq_true, decide_eq_true_eq, char_le_iff]
    at hUpper ⊢
  split
  · next hSmall =>
      have hBack :
          (Char.ofNat (c.toNat - 32)).toNat = c.toNat - 32 := by
        have hValid : (c.toNat - 32).isValidChar := Or.inl (by omega)
        rw [Char.ofNat, dif_pos hValid]
        rfl
      rw [← Char.toNat_inj, ← Char.toNat_inj, hBack]
      omega
  · next hOther =>
      rw [← Char.toNat_inj]
      omega

/- So is the upper-case form of a text without small letters. -/
theorem upper_eq_iff
    {name word : String}
    (hWord : ∀ c ∈ word.toList, ¬ ('a' ≤ c ∧ c ≤ 'z')) :
    upper name = word ↔
      List.Forall₂ IsLetterOf name.toList word.toList := by
  rw [← String.toList_inj, upper, String.toList_ofList]
  generalize name.toList = cs
  generalize word.toList = ws at hWord
  induction cs generalizing ws with
  | nil => rw [List.map_nil, List.forall₂_nil_left_iff, eq_comm]
  | cons c cs ih =>
      cases ws with
      | nil => simp
      | cons w ws =>
          rcases List.forall_mem_cons.mp hWord with ⟨hFirst, hRest⟩
          rw [List.map_cons, List.cons.injEq, List.forall₂_cons,
            upperChar_eq_iff hFirst, ih ws hRest]

end Text

namespace Keyword

/- Reserved words have no small letters. -/
theorem not_small_of_mem_words
    {word : String}
    (hWord : word ∈ words) :
    ∀ c ∈ word.toList, ¬ ('a' ≤ c ∧ c ≤ 'z') := by
  have hAll :
      words.all (fun word =>
        word.toList.all (fun c => !('a' ≤ c && c ≤ 'z'))) = true := by
    decide +kernel
  intro c hMem hSmall
  have hChar :=
    List.all_eq_true.mp (List.all_eq_true.mp hAll word hWord) c hMem
  simp [hSmall] at hChar

/- The reserved words are recognized in every letter case. -/
theorem isReserved_iff
    (name : String) :
    isReserved name = true ↔ Reserves name := by
  unfold isReserved Reserves
  rw [List.contains_iff_mem]
  constructor
  · intro hMem
    have hSmall := not_small_of_mem_words hMem
    exact ⟨_, hMem, (Text.upper_eq_iff hSmall).mp rfl⟩
  · rintro ⟨word, hMem, hLetters⟩
    have hSmall := not_small_of_mem_words hMem
    rw [(Text.upper_eq_iff hSmall).mpr hLetters]
    exact hMem

/- What is not recognized is free. -/
theorem isReserved_eq_false_iff
    (name : String) :
    isReserved name = false ↔ ¬ Reserves name := by
  rw [← isReserved_iff, Bool.not_eq_true]

end Keyword

end GraphClient
