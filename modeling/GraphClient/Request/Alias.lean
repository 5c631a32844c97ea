import GraphClient.Request.Error
import GraphClient.Schema.Keyword
/-
  Names for the parts of a pattern.

  Key definitions include:
    * `GraphClient.Alias.check`
    * `GraphClient.Alias.checkAll`

  An alias is an identifier and not a reserved word.  Aliases
  of one pattern are pairwise distinct.  They are checked in
  order, each one completely before the next.
-/

------------------------------------------------------------
-- Aliases
------------------------------------------------------------

namespace GraphClient

namespace Alias

/- The alias of the first node of a pattern, unless changed. -/
def start : String :=
  "s"

/- The alias of the edge of a pattern, unless changed. -/
def edge : String :=
  "e"

/- The alias of the second node of a pattern, unless changed. -/
def target : String :=
  "t"

/- Check an alias by itself. -/
def check
    (name : String) :
    Except RequestError Unit :=
  if !Text.isIdentifier name then
    .error (.invalidAlias name)
  else if Keyword.isReserved name then
    .error (.reservedAlias name)
  else
    .ok ()

/- Check aliases in order, given those before them. -/
def checkAfter
    (earlier : List String) :
    List String → Except RequestError Unit
| [] => .ok ()
| name :: rest => do
    check name
    if earlier.contains name then
      throw (.duplicateAlias name)
    checkAfter (name :: earlier) rest

/- Check the aliases of one pattern. -/
def checkAll
    (aliases : List String) :
    Except RequestError Unit :=
  checkAfter [] aliases

end Alias

end GraphClient
