import GraphClient.Text.Join
import GraphClient.Text.Name
import Mathlib.Data.List.Basic
/-
  Taking texts apart.

  Key definitions include:
    * `GraphClient.Text.Lacks`

  Key theorems include:
    * `GraphClient.Text.append_inj`
    * `GraphClient.Text.exists_join_eq_of_mem`
    * `GraphClient.Text.join_inj`
    * `GraphClient.Text.terminated_inj`

  A text that was put together from parts can be taken apart
  again when the character that ends a part does not occur in
  it.  Identifiers lack all characters that end parts.
-/

------------------------------------------------------------
-- Absent Characters
------------------------------------------------------------

namespace GraphClient

namespace Text

/- The text does not have the character. -/
def Lacks
    (c : Char)
    (s : String) :
    Prop :=
  c ∉ s.toList

instance
    (c : Char)
    (s : String) :
    Decidable (Lacks c s) := by
  unfold Lacks
  infer_instance

/- What both parts lack is lacked by the whole. -/
@[simp]
theorem lacks_append
    (c : Char)
    (s t : String) :
    Lacks c (s ++ t) ↔ Lacks c s ∧ Lacks c t := by
  simp [Lacks]

/- A text that starts with a character does not lack it. -/
theorem not_lacks_of_head?
    {c : Char}
    {s : String}
    (hHead : s.toList.head? = some c) :
    ¬ Lacks c s := by
  intro hLacks
  exact hLacks (List.mem_of_head? hHead)

end Text

end GraphClient

------------------------------------------------------------
-- Two Parts
------------------------------------------------------------

namespace GraphClient

namespace Text

variable {c : Char}

/- Characters are split in one way where one first occurs. -/
theorem split_inj
    {cs ds us vs : List Char}
    (hC : c ∉ cs)
    (hD : c ∉ ds)
    (hEq : cs ++ c :: us = ds ++ c :: vs) :
    cs = ds ∧ us = vs := by
  induction cs generalizing ds with
  | nil =>
      cases ds with
      | nil =>
          simpa using hEq
      | cons d ds =>
          simp only [List.nil_append, List.cons_append,
            List.cons.injEq] at hEq
          simp [hEq.1] at hD
  | cons b cs ih =>
      cases ds with
      | nil =>
          simp only [List.nil_append, List.cons_append,
            List.cons.injEq] at hEq
          simp [hEq.1] at hC
      | cons d ds =>
          simp only [List.cons_append, List.cons.injEq] at hEq
          have hRest :=
            ih (fun h => hC (List.mem_cons_of_mem b h))
              (fun h => hD (List.mem_cons_of_mem d h)) hEq.2
          rw [hEq.1, hRest.1]
          exact ⟨rfl, hRest.2⟩

/-
  Parts on both sides of a separator are told apart when the
  first of them lacks the first character of the separator.
-/
theorem append_inj
    {separator : String}
    (hSeparator : separator.toList.head? = some c)
    {s t u v : String}
    (hS : Lacks c s)
    (hT : Lacks c t)
    (hEq : s ++ (separator ++ u) = t ++ (separator ++ v)) :
    s = t ∧ u = v := by
  rcases List.head?_eq_some_iff.mp hSeparator with ⟨rest, hRest⟩
  have hChars :
      s.toList ++ c :: (rest ++ u.toList) =
        t.toList ++ c :: (rest ++ v.toList) := by
    simpa [hRest] using congrArg String.toList hEq
  have hParts := split_inj hS hT hChars
  exact ⟨String.toList_injective hParts.1,
    String.toList_injective (List.append_cancel_left hParts.2)⟩

end Text

end GraphClient

------------------------------------------------------------
-- Any Number of Parts
------------------------------------------------------------

namespace GraphClient

namespace Text

variable {c : Char}

/- Lines are told apart by the breaks at their ends. -/
theorem terminated_inj
    {ending : String}
    (hEnding : Lacks '\n' ending)
    {parts others : List String}
    (hParts : ∀ part ∈ parts, Lacks '\n' part)
    (hOthers : ∀ part ∈ others, Lacks '\n' part)
    (hEq :
      terminated parts ++ ending = terminated others ++ ending) :
    parts = others := by
  have hBreak : ("\n" : String).toList.head? = some '\n' := rfl
  -- a line too many would put a break into the ending
  have hNone :
      ∀ (part : String) (rest : List String),
        ending ≠ terminated (part :: rest) ++ ending := by
    intro part rest hOne
    rw [hOne] at hEnding
    simp [terminated, not_lacks_of_head? hBreak] at hEnding
  induction parts generalizing others with
  | nil =>
      cases others with
      | nil => rfl
      | cons other others =>
          have hOne :
              ending = terminated (other :: others) ++ ending := by
            simpa [terminated] using hEq
          exact (hNone other others hOne).elim
  | cons part parts ih =>
      cases others with
      | nil =>
          have hOne :
              ending = terminated (part :: parts) ++ ending := by
            simpa [terminated] using hEq.symm
          exact (hNone part parts hOne).elim
      | cons other others =>
          rw [List.forall_mem_cons] at hParts hOthers
          simp only [terminated, String.append_assoc] at hEq
          have hHead := append_inj hBreak hParts.1 hOthers.1 hEq
          rw [hHead.1, ih hParts.2 hOthers.2 hHead.2]

/- Joined parts lack what the parts and the separator lack. -/
theorem lacks_join
    {separator : String}
    (hSeparator : Lacks c separator)
    {parts : List String}
    (hParts : ∀ part ∈ parts, Lacks c part) :
    Lacks c (join separator parts) := by
  induction parts with
  | nil => simp [join, Lacks]
  | cons part parts ih =>
      rw [List.forall_mem_cons] at hParts
      cases parts with
      | nil => exact hParts.1
      | cons next parts =>
          simp only [join, lacks_append]
          exact ⟨⟨hParts.1, hSeparator⟩, ih hParts.2⟩

/- A joined part stands before a separator or at the end. -/
theorem exists_join_eq_of_mem
    (separator : String)
    {part : String}
    {parts : List String}
    (hPart : part ∈ parts) :
    ∃ before after,
      join separator parts = before ++ (part ++ after) ∧
        (after = "" ∨ ∃ rest, after = separator ++ rest) := by
  induction parts with
  | nil => cases hPart
  | cons first parts ih =>
      cases parts with
      | nil =>
          rw [List.mem_singleton.mp hPart]
          exact ⟨"", "", by simp [join], Or.inl rfl⟩
      | cons next parts =>
          rcases List.mem_cons.mp hPart with hFirst | hRest
          · rw [hFirst]
            refine ⟨"", separator ++ join separator (next :: parts),
              ?_, Or.inr ⟨_, rfl⟩⟩
            simp [join, String.append_assoc]
          · rcases ih hRest with ⟨before, after, hJoin, hAfter⟩
            refine ⟨first ++ separator ++ before, after, ?_, hAfter⟩
            simp [join, hJoin, String.append_assoc]

/- Joined parts are told apart by the separators between them. -/
theorem join_inj
    {separator : String}
    (hSeparator : separator.toList.head? = some c)
    {parts others : List String}
    (hParts : ∀ part ∈ parts, part ≠ "" ∧ Lacks c part)
    (hOthers : ∀ part ∈ others, part ≠ "" ∧ Lacks c part)
    (hEq : join separator parts = join separator others) :
    parts = others := by
  have hNot := not_lacks_of_head? hSeparator
  have hNonempty :
      ∀ (part : String) (rest : List String),
        part ≠ "" → join separator (part :: rest) ≠ "" := by
    intro part rest hPart
    cases rest <;> simp [join, hPart]
  induction parts generalizing others with
  | nil =>
      cases others with
      | nil => rfl
      | cons other others =>
          rw [List.forall_mem_cons] at hOthers
          exact (hNonempty other others hOthers.1.1 hEq.symm).elim
  | cons part parts ih =>
      rw [List.forall_mem_cons] at hParts
      cases others with
      | nil => exact (hNonempty part parts hParts.1.1 hEq).elim
      | cons other others =>
          rw [List.forall_mem_cons] at hOthers
          cases parts with
          | nil =>
              cases others with
              | nil => simpa [join] using hEq
              | cons next others =>
                  have hLacks := hParts.1.2
                  simp only [join] at hEq
                  simp [hEq, hNot] at hLacks
          | cons next parts =>
              cases others with
              | nil =>
                  have hLacks := hOthers.1.2
                  simp only [join] at hEq
                  simp [← hEq, hNot] at hLacks
              | cons next' others =>
                  simp only [join, String.append_assoc] at hEq
                  have hHead :=
                    append_inj hSeparator hParts.1.2 hOthers.1.2 hEq
                  rw [hHead.1, ih hParts.2 hOthers.2 hHead.2]

end Text

end GraphClient

------------------------------------------------------------
-- Identifiers and Numbers
------------------------------------------------------------

namespace GraphClient

namespace Text

/- An identifier lacks what cannot stand in identifiers. -/
theorem lacks_of_isIdentifier
    {c : Char}
    (hChar : continuesIdentifier c = false)
    {s : String}
    (hName : isIdentifier s = true) :
    Lacks c s := by
  intro hMem
  unfold isIdentifier at hName
  cases hList : s.toList with
  | nil =>
      rw [hList] at hMem
      cases hMem
  | cons d rest =>
      rw [hList] at hMem hName
      simp only [Bool.and_eq_true, List.all_eq_true] at hName
      rcases List.mem_cons.mp hMem with hHead | hRest
      · rw [← hHead] at hName
        simp [continuesIdentifier, hName.1] at hChar
      · rw [hName.2 c hRest] at hChar
        cases hChar

/- An identifier is not empty. -/
theorem ne_empty_of_isIdentifier
    {s : String}
    (hName : isIdentifier s = true) :
    s ≠ "" := by
  rintro rfl
  cases hName

/- Different numbers have different digits. -/
theorem toString_nat_inj
    {m n : Nat}
    (hEq : toString m = toString n) :
    m = n := by
  have hDigits : Nat.toDigits 10 m = Nat.toDigits 10 n := by
    rw [Nat.toString_eq_ofList_toDigits,
      Nat.toString_eq_ofList_toDigits] at hEq
    exact String.ofList_injective hEq
  rw [← Nat.ofDigitChars_ten_toDigits (n := m), hDigits,
    Nat.ofDigitChars_ten_toDigits]

/- The digits of a number lack what is no digit. -/
theorem lacks_toString_nat
    {c : Char}
    (hChar : c.isDigit = false)
    (n : Nat) :
    Lacks c (toString n) := by
  intro hMem
  rw [Nat.toString_eq_ofList_toDigits, String.toList_ofList] at hMem
  have hDigit :=
    Nat.isDigit_of_mem_toDigits (by decide) (by decide) hMem
  rw [hChar] at hDigit
  cases hDigit

end Text

end GraphClient
