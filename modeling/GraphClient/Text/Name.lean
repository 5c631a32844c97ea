/-
  Identifiers and letter case.

  Key definitions include:
    * `GraphClient.Text.isIdentifier`
    * `GraphClient.Text.upper`

  The query dialect knows ASCII identifiers only, and folds
  the case of ASCII letters only.
-/

------------------------------------------------------------
-- Identifiers
------------------------------------------------------------

namespace GraphClient

namespace Text

/- Whether a character is an ASCII letter. -/
def isLetter
    (c : Char) :
    Bool :=
  ('a' ≤ c && c ≤ 'z') || ('A' ≤ c && c ≤ 'Z')

/- Whether a character is an ASCII digit. -/
def isDigit
    (c : Char) :
    Bool :=
  '0' ≤ c && c ≤ '9'

/- Whether an identifier may start with a character. -/
def startsIdentifier
    (c : Char) :
    Bool :=
  isLetter c || c == '_'

/- Whether an identifier may go on with a character. -/
def continuesIdentifier
    (c : Char) :
    Bool :=
  startsIdentifier c || isDigit c

/-
  Whether a whole text is an identifier: a letter or an
  underscore, then letters, digits and underscores.
-/
def isIdentifier
    (s : String) :
    Bool :=
  match s.toList with
  | [] => false
  | c :: rest =>
      startsIdentifier c && rest.all continuesIdentifier

end Text

end GraphClient

------------------------------------------------------------
-- Letter Case
------------------------------------------------------------

namespace GraphClient

namespace Text

/- The upper-case form of an ASCII letter. -/
def upperChar
    (c : Char) :
    Char :=
  if 'a' ≤ c && c ≤ 'z' then
    Char.ofNat (c.toNat - 32)
  else
    c

/- The text with its ASCII letters in upper case. -/
def upper
    (s : String) :
    String :=
  String.ofList (s.toList.map upperChar)

end Text

end GraphClient
