import GraphClient.Attribute.DataType
/-
  Why a schema, or a reference into one, is refused.

  Key definitions include:
    * `GraphClient.Element`
    * `GraphClient.SchemaError`
    * `GraphClient.SchemaError.message`
-/

------------------------------------------------------------
-- Causes
------------------------------------------------------------

namespace GraphClient

/- The two kinds of types in a graph. -/
inductive Element
| node
| edge
deriving DecidableEq, Repr

/- The name of a kind. -/
def Element.text : Element → String
| .node => "node"
| .edge => "edge"

/- Why a schema, or a reference into one, is refused. -/
inductive SchemaError
| missingPrimaryKey (key : String)
| reservedAttribute (name : String)
| reservedVector (name : String)
| missingDiscriminator (name : String)
| undefinedEndpoint (edge source target : String)
| invalidDefault (name : String) (type : DataType) (got : Value)
| invalidDimension (name : String)
| ambiguousType (element : Element) (hasSeveral : Bool)
| unknownType (element : Element) (name : String)
| unknownAttribute (type name : String)
| invalidValue (name : String) (type : DataType) (got : Value)
deriving DecidableEq

end GraphClient

------------------------------------------------------------
-- Messages
------------------------------------------------------------

namespace GraphClient

/- A name between single quotes. -/
def Text.named
    (name : String) :
    String :=
  "'" ++ name ++ "'"

namespace SchemaError

/- What a graph has that makes a reference ambiguous. -/
def hint
    (element : Element)
    (hasSeveral : Bool) :
    String :=
  (if hasSeveral then "multiple " else "no ") ++
    element.text ++ " types"

/- The message of a cause. -/
def message : SchemaError → String
| .missingPrimaryKey key =>
    "Primary key " ++ Text.named key ++
      " is not defined in attributes."
| .reservedAttribute name =>
    "Attribute name " ++ Text.named name ++
      " is a reserved keyword."
| .reservedVector name =>
    "Vector attribute name " ++ Text.named name ++
      " is a reserved keyword."
| .missingDiscriminator name =>
    "Discriminator attribute " ++ Text.named name ++
      " is not defined in attributes."
| .undefinedEndpoint edge source target =>
    "Edge " ++ Text.named edge ++ " requires nodes " ++
      Text.named source ++ " and " ++ Text.named target ++
      " to be defined"
| .invalidDefault name type got =>
    "Default value of attribute " ++ Text.named name ++
      " must be of type " ++ type.expected ++ ", got " ++ got.kind
| .invalidDimension name =>
    "Vector attribute " ++ Text.named name ++
      " must have a dimension of at least 1"
| .ambiguousType element hasSeveral =>
    "Please specify a " ++ element.text ++
      " type, as the graph has " ++ hint element hasSeveral ++ "."
| .unknownType element name =>
    "Unknown " ++ element.text ++ " type: " ++ name
| .unknownAttribute type name =>
    "Unknown attribute " ++ Text.named name ++
      " for type " ++ Text.named type
| .invalidValue name type got =>
    "Invalid value for attribute " ++ Text.named name ++
      ": expected " ++ type.expected ++ ", got " ++ got.kind

end SchemaError

end GraphClient
