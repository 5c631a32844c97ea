import GraphClient.Text.Blank
import Mathlib.Data.List.TakeWhile
/-
  Texts without the white space around them.

  Key definitions include:
    * `GraphClient.Text.Trims`

  Key theorems include:
    * `GraphClient.Text.trims_trim`
    * `GraphClient.Text.trims_iff`

  Every text is a text that neither starts nor ends with white
  space, with white space around it, and it is so in one way.
-/

------------------------------------------------------------
-- White Space at the Ends
------------------------------------------------------------

namespace GraphClient

namespace Text

/- Nothing is dropped when the first character is no blank. -/
theorem trimLeft_of_head?
    {cs : List Char}
    (hHead : ∀ c ∈ cs.head?, isBlank c = false) :
    trimLeft cs = cs := by
  cases cs with
  | nil => rfl
  | cons c rest =>
      have hBlank := hHead c rfl
      simp [trimLeft, hBlank]

/- Nothing is dropped when neither end is blank. -/
theorem trimChars_of_ends
    {cs : List Char}
    (hHead : ∀ c ∈ cs.head?, isBlank c = false)
    (hLast : ∀ c ∈ cs.getLast?, isBlank c = false) :
    trimChars cs = cs := by
  unfold trimChars
  rw [trimLeft_of_head? hHead, trimLeft_of_head?,
    List.reverse_reverse]
  rw [List.head?_reverse]
  exact hLast

/- White space around a text is dropped, and nothing else is. -/
theorem trimChars_append
    {before after : List Char}
    (hBefore : ∀ c ∈ before, isBlank c = true)
    (hAfter : ∀ c ∈ after, isBlank c = true)
    (cs : List Char) :
    trimChars (before ++ cs ++ after) = trimChars cs := by
  have hReverse : ∀ c ∈ after.reverse, isBlank c = true := by
    simpa using hAfter
  have hLeft :
      trimLeft (before ++ cs ++ after) = trimLeft (cs ++ after) := by
    rw [List.append_assoc]
    exact List.dropWhile_append_of_pos hBefore
  have hSplit :
      trimLeft (cs ++ after) =
        if (trimLeft cs).isEmpty then
          trimLeft after
        else
          trimLeft cs ++ after :=
    List.dropWhile_append
  unfold trimChars
  rw [hLeft, hSplit]
  cases hRest : trimLeft cs with
  | nil =>
      have hNone : trimLeft after = [] :=
        List.dropWhile_eq_nil_iff.mpr hAfter
      rw [List.isEmpty_nil, if_pos rfl, hNone]
  | cons c rest =>
      rw [List.isEmpty_cons, if_neg Bool.false_ne_true,
        List.reverse_append]
      exact congrArg List.reverse
        (List.dropWhile_append_of_pos hReverse)

end Text

end GraphClient

------------------------------------------------------------
-- Trimmed Texts
------------------------------------------------------------

namespace GraphClient

namespace Text

/-
  A text without the white space around another one: both of its
  ends are something else.
-/
def Trims
    (whole text : String) :
    Prop :=
  ∃ before after,
    whole.toList = before ++ text.toList ++ after ∧
      (∀ c ∈ before, isBlank c = true) ∧
      (∀ c ∈ after, isBlank c = true) ∧
      (∀ c ∈ text.toList.head?, isBlank c = false) ∧
      ∀ c ∈ text.toList.getLast?, isBlank c = false

/- What is dropped at the start is white space, and all of it. -/
theorem exists_append_trimLeft
    (cs : List Char) :
    ∃ before,
      cs = before ++ trimLeft cs ∧
        (∀ c ∈ before, isBlank c = true) ∧
        ∀ c ∈ (trimLeft cs).head?, isBlank c = false := by
  refine ⟨cs.takeWhile isBlank,
    List.takeWhile_append_dropWhile.symm,
    List.all_eq_true.mp List.all_takeWhile, ?_⟩
  intro c hHead
  have hNot := List.head?_dropWhile_not isBlank cs
  rw [trimLeft, Option.mem_def] at hHead
  rw [hHead] at hNot
  simpa using hNot

/- Trimming drops the white space at both ends. -/
theorem trims_trim
    (s : String) :
    Trims s (trim s) := by
  rcases exists_append_trimLeft s.toList with
    ⟨before, hBefore, hBlank, hHead⟩
  rcases exists_append_trimLeft (trimLeft s.toList).reverse with
    ⟨after, hAfter, hBlankAfter, hLast⟩
  have hMiddle :
      trimLeft s.toList = trimChars s.toList ++ after.reverse := by
    have hReverse := congrArg List.reverse hAfter
    rwa [List.reverse_reverse, List.reverse_append] at hReverse
  unfold Trims
  rw [trim, String.toList_ofList]
  refine ⟨before, after.reverse, ?_, hBlank, ?_, ?_, ?_⟩
  · rw [List.append_assoc, ← hMiddle]
    exact hBefore
  · simpa using hBlankAfter
  · intro c hFirst
    apply hHead
    rw [hMiddle, List.head?_append, Option.mem_def.mp hFirst]
    rfl
  · rw [trimChars, List.getLast?_reverse]
    exact hLast

/- There is one way to trim a text. -/
theorem trims_iff
    {whole text : String} :
    Trims whole text ↔ text = trim whole := by
  constructor
  · rintro ⟨before, after, hWhole, hBefore, hAfter, hHead, hLast⟩
    rw [trim, hWhole, trimChars_append hBefore hAfter,
      trimChars_of_ends hHead hLast, String.ofList_toList]
  · rintro rfl
    exact trims_trim whole

end Text

end GraphClient
