import GraphClient.Request.Error
import GraphClient.Text.Blank
/-
  Which results a request asks for.

  Key definitions include:
    * `GraphClient.Restriction`
    * `GraphClient.Restriction.Clause`
    * `GraphClient.Restriction.check`

  A request may filter its results, name the attributes that it
  wants and limit their number.  Of several clauses of one kind
  the last one counts.  A blank filter is no filter.
-/

------------------------------------------------------------
-- Restrictions
------------------------------------------------------------

namespace GraphClient

/- The filter, the attributes and the limit of a request. -/
structure Restriction where
  filter? : Option String
  projection? : Option (List String)
  limit? : Option Nat
deriving DecidableEq, Repr

namespace Restriction

/- No restriction. -/
def none : Restriction :=
  ⟨.none, .none, .none⟩

/- One part of a restriction. -/
inductive Clause
| filter (condition : String)
| projection (names : List String)
| limit (n : Nat)
deriving DecidableEq, Repr

/- Add a clause; it replaces an earlier one of its kind. -/
def add
    (r : Restriction) :
    Clause → Restriction
| .filter condition => { r with filter? := some condition }
| .projection names => { r with projection? := some names }
| .limit n => { r with limit? := some n }

end Restriction

end GraphClient

------------------------------------------------------------
-- Checks
------------------------------------------------------------

namespace GraphClient

namespace Restriction

/- A condition without the white space around it, if any is left. -/
def condition?
    (condition : String) :
    Option String :=
  let trimmed := Text.trim condition
  if trimmed.isEmpty then .none else some trimmed

/- The restriction with its filter trimmed. -/
def normalized
    (r : Restriction) :
    Restriction :=
  { r with filter? := r.filter?.bind condition? }

/- Check a restriction, and trim its filter. -/
def check
    (r : Restriction) :
    Except RequestError Restriction :=
  if r.projection? = some [] then
    .error .emptyProjection
  else if r.limit? = some 0 then
    .error .invalidLimit
  else
    .ok r.normalized

end Restriction

end GraphClient
