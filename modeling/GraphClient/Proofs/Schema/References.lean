import GraphClient.Proofs.Requirement
import GraphClient.Schema.Resolution
/-
  References to the types of a schema, and what they come to.

  Key definitions include:
    * `GraphClient.Schema.Defines`

  Key theorems include:
    * `GraphClient.TypeRef.name?_eq_some_iff`
    * `GraphClient.Schema.mem_of_resolve`
    * `GraphClient.Schema.node_eq_ok_iff`
    * `GraphClient.Schema.edge_eq_ok_iff`
    * `GraphClient.Schema.decides_node`
    * `GraphClient.Schema.decides_edge`

  What is found in a schema is defined there.
-/

------------------------------------------------------------
-- Resolved References
------------------------------------------------------------

namespace GraphClient

/- A name that a reference gives is the one in it, and not empty. -/
theorem TypeRef.name?_eq_some_iff
    {ref : TypeRef}
    {name : String} :
    ref.name? = some name ↔ ref = some name ∧ name ≠ "" := by
  unfold name?
  rw [Option.filter_eq_some_iff]
  simp

namespace Schema

/- What a reference resolves to is defined. -/
theorem mem_of_resolve
    {element : Element}
    {defined : List String}
    {ref : TypeRef}
    {name : String}
    (hResolve : resolve element defined ref = .ok name) :
    name ∈ defined := by
  unfold resolve at hResolve
  cases hName : TypeRef.name? ref with
  | some given =>
      simp only [hName] at hResolve
      by_cases hMem : given ∈ defined
      · simp only [hMem, if_true, Except.ok.injEq] at hResolve
        rw [← hResolve]
        exact hMem
      · simp [hMem] at hResolve
  | none =>
      simp only [hName] at hResolve
      match defined, hResolve with
      | [only], hResolve =>
          simp only [Except.ok.injEq] at hResolve
          simp [hResolve]

/- A defined node type is found. -/
theorem node_eq_ok_iff
    {schema : Schema}
    {name : String}
    {type : NodeType} :
    schema.node name = .ok type ↔
      schema.nodes.get? name = some type := by
  unfold node
  cases schema.nodes.get? name <;> simp

/- A defined edge type is found. -/
theorem edge_eq_ok_iff
    {schema : Schema}
    {name : String}
    {type : EdgeType} :
    schema.edge name = .ok type ↔
      schema.edges.get? name = some type := by
  unfold edge
  cases schema.edges.get? name <;> simp

end Schema

end GraphClient

------------------------------------------------------------
-- Looking Up Types
------------------------------------------------------------

namespace GraphClient

namespace Schema

/- A schema defines the types that it lists. -/
def Defines
    (schema : Schema) :
    Element × String → Prop
| (.node, name) => name ∈ schema.nodes.keys
| (.edge, name) => name ∈ schema.edges.keys

instance
    (schema : Schema)
    (type : Element × String) :
    Decidable (schema.Defines type) :=
  match type with
  | (.node, name) =>
      inferInstanceAs (Decidable (name ∈ schema.nodes.keys))
  | (.edge, name) =>
      inferInstanceAs (Decidable (name ∈ schema.edges.keys))

open Requirement

/- A type is required to be defined. -/
def requirement
    (schema : Schema)
    (type : Element × String) :
    Requirement SchemaError :=
  ⟨schema.Defines type, .unknownType type.1 type.2⟩

/- What is required of some types is that they are defined. -/
theorem allMet_iff
    {schema : Schema}
    {types : List (Element × String)} :
    AllMet (types.map schema.requirement) ↔
      ∀ type ∈ types, schema.Defines type :=
  List.forall_mem_map

/- What is looked up in a map is found if its name is listed. -/
theorem decides_of_get?
    {α ε : Type}
    {m : OrderedMap α}
    {name : String}
    {e : ε}
    {check : Except ε α}
    (hSome : ∀ {a}, m.get? name = some a → check = .ok a)
    (hNone : m.get? name = none → check = .error e) :
    Decides [⟨name ∈ m.keys, e⟩] (fun _ => True) check := by
  have hListed := Entries.lookup_eq_none_iff name m.entries
  cases hFound : m.get? name with
  | none =>
      exact .cons (fun _ => hNone hFound)
        fun hMem => absurd hMem (hListed.mp hFound)
  | some a =>
      refine .cons (fun hNot => ?_) fun _ => .nil (hSome hFound) trivial
      exact hNone (hListed.mpr hNot)

/- A node type is found if it is defined. -/
theorem decides_node
    (schema : Schema)
    (name : String) :
    Decides [schema.requirement (.node, name)] (fun _ => True)
      (schema.node name) := by
  refine decides_of_get? node_eq_ok_iff.mpr fun hNone => ?_
  unfold node
  rw [hNone]

/- An edge type is found if it is defined. -/
theorem decides_edge
    (schema : Schema)
    (name : String) :
    Decides [schema.requirement (.edge, name)] (fun _ => True)
      (schema.edge name) := by
  refine decides_of_get? edge_eq_ok_iff.mpr fun hNone => ?_
  unfold edge
  rw [hNone]

end Schema

end GraphClient
