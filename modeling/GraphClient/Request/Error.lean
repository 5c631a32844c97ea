import GraphClient.Schema.Error
/-
  Why a request is refused.

  Key definitions include:
    * `GraphClient.RequestError`
    * `GraphClient.RequestError.message`
-/

------------------------------------------------------------
-- Causes
------------------------------------------------------------

namespace GraphClient

/- Why a request is refused. -/
inductive RequestError
| schema (e : SchemaError)
| invalidAlias (name : String)
| reservedAlias (name : String)
| duplicateAlias (name : String)
| emptyProjection
| invalidLimit
| noStartNodes
| missingNodeType
deriving DecidableEq

namespace RequestError

/- The message of a cause. -/
def message : RequestError → String
| .schema e => e.message
| .invalidAlias name =>
    "Alias " ++ Text.named name ++ " is not a valid identifier"
| .reservedAlias name =>
    "Alias " ++ Text.named name ++ " is a reserved keyword."
| .duplicateAlias name =>
    "Alias " ++ Text.named name ++ " is used more than once"
| .emptyProjection =>
    "Attribute list 'return_attributes' must not be empty; " ++
      "omit it to return all attributes"
| .invalidLimit => "Limit must be a positive integer"
| .noStartNodes => "At least one start node is required"
| .missingNodeType =>
    "Please specify a node type or request all node types."

end RequestError

end GraphClient
