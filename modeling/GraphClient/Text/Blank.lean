/-
  White space and trimming.

  Key definitions include:
    * `GraphClient.Text.isBlank`
    * `GraphClient.Text.trimChars`
    * `GraphClient.Text.trim`

  White space is the Unicode property `White_Space`.  The
  zero-width space and the byte order mark do not have it, so
  trimming leaves them alone.
-/

------------------------------------------------------------
-- White Space
------------------------------------------------------------

namespace GraphClient

namespace Text

/- Whether a character has the property `White_Space`. -/
def isBlank
    (c : Char) :
    Bool :=
  let n := c.toNat
  (0x09 ≤ n && n ≤ 0x0D) || n == 0x20 || n == 0x85 ||
    n == 0xA0 || n == 0x1680 ||
    (0x2000 ≤ n && n ≤ 0x200A) ||
    n == 0x2028 || n == 0x2029 || n == 0x202F ||
    n == 0x205F || n == 0x3000

/- Drop the white space at the start. -/
def trimLeft
    (cs : List Char) :
    List Char :=
  cs.dropWhile isBlank

/- Drop the white space at both ends. -/
def trimChars
    (cs : List Char) :
    List Char :=
  (trimLeft (trimLeft cs).reverse).reverse

/- The text without the white space at both ends. -/
def trim
    (s : String) :
    String :=
  String.ofList (trimChars s.toList)

end Text

end GraphClient
