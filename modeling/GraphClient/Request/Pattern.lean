import GraphClient.Request.Alias
/-
  Patterns of one edge between two nodes.

  Key definitions include:
    * `GraphClient.Pattern`
    * `GraphClient.Pattern.Clause`
    * `GraphClient.Pattern.check`

  An empty list of types stands for any type.  Types are added
  one after the other; an alias replaces the one before it.
-/

------------------------------------------------------------
-- Patterns
------------------------------------------------------------

namespace GraphClient

/- An edge between a named first node and a second one. -/
structure Pattern where
  startAlias : String
  edgeTypes : List String
  edgeAlias : String
  targetTypes : List String
  targetAlias : String
deriving DecidableEq, Repr

namespace Pattern

/- Any edge to any node. -/
def any : Pattern :=
  ⟨Alias.start, [], Alias.edge, [], Alias.target⟩

/- One part of a pattern. -/
inductive Clause
| startAlias (name : String)
| edgeTypes (names : List String)
| edgeAlias (name : String)
| targetTypes (names : List String)
| targetAlias (name : String)
deriving DecidableEq, Repr

/- Add a clause. -/
def add
    (p : Pattern) :
    Clause → Pattern
| .startAlias name => { p with startAlias := name }
| .edgeTypes names =>
    { p with edgeTypes := p.edgeTypes ++ names }
| .edgeAlias name => { p with edgeAlias := name }
| .targetTypes names =>
    { p with targetTypes := p.targetTypes ++ names }
| .targetAlias name => { p with targetAlias := name }

/- The aliases in the order of the pattern. -/
def aliases
    (p : Pattern) :
    List String :=
  [p.startAlias, p.edgeAlias, p.targetAlias]

/- Check the aliases of a pattern. -/
def check
    (p : Pattern) :
    Except RequestError Unit :=
  Alias.checkAll p.aliases

end Pattern

end GraphClient
