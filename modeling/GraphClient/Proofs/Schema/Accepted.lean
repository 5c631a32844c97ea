import GraphClient.Proofs.Checks
import GraphClient.Schema.Types
/-
  What passes the checks of a schema.

  Key definitions include:
    * `GraphClient.AttributeType.Accepted`
    * `GraphClient.VectorType.Accepted`

  Key theorems include:
    * `GraphClient.NodeType.check_eq_ok_iff`
    * `GraphClient.EdgeType.check_eq_ok_iff`
    * `GraphClient.Schema.check_eq_ok_iff`

  The checks stop at the first fault.  That there is none can be
  said of each part by itself, in no order.
-/

------------------------------------------------------------
-- Attributes
------------------------------------------------------------

namespace GraphClient

namespace AttributeType

/- An attribute that may stand in a schema under a name. -/
def Accepted
    (name : String)
    (type : AttributeType) :
    Prop :=
  Keyword.isReserved name = false ∧
    type.default?.all type.dataType.accepts = true

instance
    (name : String)
    (type : AttributeType) :
    Decidable (Accepted name type) := by
  unfold Accepted
  infer_instance

/- A default passes when its type accepts it. -/
theorem checkDefault_eq_ok_iff
    (type : AttributeType)
    (name : String) :
    type.checkDefault name = .ok () ↔
      type.default?.all type.dataType.accepts = true := by
  unfold checkDefault
  cases type.default? with
  | none => simp
  | some value =>
      by_cases hAccepts : type.dataType.accepts value = true
      · simp [hAccepts]
      · simp [hAccepts]

/- Attributes pass when each of them is accepted. -/
theorem checkAll_eq_ok_iff
    {entries : Entries AttributeType} :
    checkAll entries = .ok () ↔
      ∀ entry ∈ entries, Accepted entry.1 entry.2 := by
  induction entries with
  | nil => simp [checkAll]
  | cons entry rest ih =>
      rcases entry with ⟨name, type⟩
      rw [List.forall_mem_cons, ← ih]
      unfold Accepted
      rw [← checkDefault_eq_ok_iff type name]
      cases hReserved : Keyword.isReserved name with
      | true => simp [checkAll, hReserved]
      | false => simp [checkAll, hReserved, Checks.next_eq_ok_iff]

end AttributeType

end GraphClient

------------------------------------------------------------
-- Vectors
------------------------------------------------------------

namespace GraphClient

namespace VectorType

/- A vector that may stand in a schema under a name. -/
def Accepted
    (name : String)
    (type : VectorType) :
    Prop :=
  Keyword.isReserved name = false ∧ type.dimension ≠ 0

instance
    (name : String)
    (type : VectorType) :
    Decidable (Accepted name type) := by
  unfold Accepted
  infer_instance

/- Vectors pass when each of them is accepted. -/
theorem checkAll_eq_ok_iff
    {entries : Entries VectorType} :
    checkAll entries = .ok () ↔
      ∀ entry ∈ entries, Accepted entry.1 entry.2 := by
  induction entries with
  | nil => simp [checkAll]
  | cons entry rest ih =>
      rcases entry with ⟨name, type⟩
      rw [List.forall_mem_cons, ← ih]
      unfold Accepted
      by_cases hReserved : Keyword.isReserved name = true
      · simp [checkAll, hReserved]
      · by_cases hDimension : type.dimension = 0
        · simp [checkAll, hReserved, hDimension]
        · simp [checkAll, hReserved, hDimension]

end VectorType

end GraphClient

------------------------------------------------------------
-- Types of Nodes and Edges
------------------------------------------------------------

namespace GraphClient

/- A node type passes with accepted parts and a primary key. -/
theorem NodeType.check_eq_ok_iff
    {primaryKey : String}
    {attributes : OrderedMap AttributeType}
    {vectors : OrderedMap VectorType} :
    check primaryKey attributes vectors = .ok () ↔
      (∀ entry ∈ attributes.entries,
          AttributeType.Accepted entry.1 entry.2) ∧
        attributes.contains primaryKey = true ∧
          ∀ entry ∈ vectors.entries,
            VectorType.Accepted entry.1 entry.2 := by
  rw [← AttributeType.checkAll_eq_ok_iff,
    ← VectorType.checkAll_eq_ok_iff]
  unfold check
  by_cases hKey : attributes.contains primaryKey = true
  · simp [hKey, Checks.next_eq_ok_iff]
  · simp [hKey, Checks.next_eq_ok_iff]

/- An edge type passes when its discriminators are attributes. -/
theorem EdgeType.check_eq_ok_iff
    {discriminator : List String}
    {attributes : OrderedMap AttributeType} :
    check discriminator attributes = .ok () ↔
      (∀ entry ∈ attributes.entries,
          AttributeType.Accepted entry.1 entry.2) ∧
        ∀ name ∈ discriminator, attributes.contains name = true := by
  rw [← AttributeType.checkAll_eq_ok_iff]
  unfold check
  cases hMissing :
      discriminator.find? (fun d => !attributes.contains d) with
  | some missing =>
      have hNot := List.find?_some hMissing
      have hMem := List.mem_of_find?_eq_some hMissing
      rw [Checks.next_eq_ok_iff]
      constructor
      · rintro ⟨_, hThrow⟩
        cases hThrow
      · rintro ⟨_, hAll⟩
        rw [hAll missing hMem] at hNot
        simp at hNot
  | none =>
      have hAll := List.find?_eq_none.mp hMissing
      rw [Checks.next_eq_ok_iff]
      constructor
      · rintro ⟨hCheck, _⟩
        exact ⟨hCheck, by simpa using hAll⟩
      · rintro ⟨hCheck, _⟩
        exact ⟨hCheck, rfl⟩

/- A schema passes when edges join its node types. -/
theorem Schema.check_eq_ok_iff
    {nodes : OrderedMap NodeType}
    {edges : Entries EdgeType} :
    check nodes edges = .ok () ↔
      ∀ entry ∈ edges,
        nodes.contains entry.2.source = true ∧
          nodes.contains entry.2.target = true := by
  induction edges with
  | nil => simp [check]
  | cons entry rest ih =>
      rcases entry with ⟨name, edge⟩
      rw [List.forall_mem_cons, ← ih]
      by_cases hEnds :
          nodes.contains edge.source = true ∧
            nodes.contains edge.target = true
      · simp [check, hEnds.1, hEnds.2]
      · have hNot :
            (nodes.contains edge.source &&
              nodes.contains edge.target) ≠ true := by
          simpa using hEnds
        simp only [check, hNot, hEnds]
        simp

end GraphClient
