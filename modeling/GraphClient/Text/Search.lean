/-
  Texts inside of texts.

  Key definitions include:
    * `GraphClient.Text.occursIn`
-/

------------------------------------------------------------
-- Occurrence
------------------------------------------------------------

namespace GraphClient

namespace Text

/- Whether characters stand somewhere in a row in others. -/
def occursInChars
    (part : List Char) :
    List Char → Bool
| [] => part.isEmpty
| c :: cs => part.isPrefixOf (c :: cs) || occursInChars part cs

/- Whether a text is a part of another one. -/
def occursIn
    (part whole : String) :
    Bool :=
  occursInChars part.toList whole.toList

end Text

end GraphClient
