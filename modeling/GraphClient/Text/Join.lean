/-
  Texts put together from parts.

  Key definitions include:
    * `GraphClient.Text.join`
    * `GraphClient.Text.lines`
    * `GraphClient.Text.terminated`

  Key theorems include:
    * `GraphClient.Text.join_eq`
    * `GraphClient.Text.terminated_append`
-/

------------------------------------------------------------
-- Joining
------------------------------------------------------------

namespace GraphClient

namespace Text

/- The parts in order, with a separator between each two. -/
def join
    (separator : String) :
    List String → String
| [] => ""
| [part] => part
| part :: parts => part ++ separator ++ join separator parts

/- Parts are joined as the library does. -/
theorem join_eq
    (separator : String)
    (parts : List String) :
    join separator parts = separator.intercalate parts := by
  induction parts with
  | nil => rfl
  | cons part rest ih =>
      cases rest with
      | nil => rw [join, String.intercalate_singleton]
      | cons next rest =>
          rw [join, ih, String.intercalate_cons_cons]
          simp

/- The parts on lines of their own. -/
def lines
    (parts : List String) :
    String :=
  join "\n" parts

/- The parts with a line break after each. -/
def terminated : List String → String
| [] => ""
| part :: parts => part ++ "\n" ++ terminated parts

/- Lists of lines may be written one after the other. -/
theorem terminated_append
    (parts others : List String) :
    terminated (parts ++ others) =
      terminated parts ++ terminated others := by
  induction parts with
  | nil =>
      simp [terminated]
  | cons part parts ih =>
      simp [terminated, ih, String.append_assoc]

end Text

end GraphClient
