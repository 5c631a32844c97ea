import GraphClient.Text.Printable
/-
  Texts quoted inside diagnostics.

  Key definitions include:
    * `GraphClient.Text.quotedChar`
    * `GraphClient.Text.quoted`

  A quoted text stands between double quotes.  Quotes and
  backslashes are escaped, the usual control characters have
  short escapes, and every other character that cannot be seen
  on its own is written by its code point.
-/

------------------------------------------------------------
-- Diagnostic Quoting
------------------------------------------------------------

namespace GraphClient

namespace Text

/- The hexadecimal digits of a number, in lower case. -/
def hex
    (n : Nat) :
    String :=
  String.ofList (Nat.toDigits 16 n)

/- One character of a quoted text. -/
def quotedChar
    (c : Char) :
    String :=
  if c == '"' then
    "\\\""
  else if c == '\\' then
    "\\\\"
  else if c == '\n' then
    "\\n"
  else if c == '\r' then
    "\\r"
  else if c == '\t' then
    "\\t"
  else if c.toNat == 0 then
    "\\0"
  else if isCombining c || !isPrintable c then
    "\\u\x7b" ++ hex c.toNat ++ "\x7d"
  else
    String.singleton c

/- The text between quotes, with its special characters escaped. -/
def quoted
    (s : String) :
    String :=
  "\"" ++ String.join (s.toList.map quotedChar) ++ "\""

end Text

end GraphClient
