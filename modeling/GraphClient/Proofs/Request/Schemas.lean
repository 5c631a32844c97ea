import GraphClient.Proofs.Request.Built
import GraphClient.Proofs.Requirement
import GraphClient.Proofs.Schema.Definition
import GraphClient.Proofs.Schema.References
/-
  Requests that are built with a schema.

  Key definitions include:
    * `GraphClient.Schema.Settles`
    * `GraphClient.Schema.Screens`

  Key theorems include:
    * `GraphClient.Schema.decides_requireNodes`
    * `GraphClient.Schema.decides_requireEdges`
    * `GraphClient.Schema.decides_resolveNode`
    * `GraphClient.Schema.screens_requests`

  A schema lets a form through if it defines all types that the
  form names, and then does not change what is built from it.  Of
  the types that it does not define the first one is reported,
  whatever else is wrong with the form.
-/

------------------------------------------------------------
-- Names of Types
------------------------------------------------------------

namespace GraphClient

/- Some names, as names of types of a kind. -/
def Element.named
    (element : Element)
    (names : List String) :
    List (Element × String) :=
  names.map (fun name => (element, name))

/- The name in a reference to a node type, unless it is empty. -/
def TypeRef.named
    (ref : TypeRef) :
    List (Element × String) :=
  Element.node.named (ref.toList.filter (fun name => name ≠ ""))

/- The types that are named in a form for nodes. -/
def NodeRequest.Form.named
    (form : Form) :
    List (Element × String) :=
  if form.wantsAll then [] else TypeRef.named form.type?

/- The types that a request for nodes is about. -/
def NodeRequest.named
    (request : NodeRequest) :
    List (Element × String) :=
  Element.node.named request.target.type?.toList

/- The types that are named in a form for neighbors. -/
def NeighborRequest.Form.named
    (form : Form) :
    List (Element × String) :=
  TypeRef.named form.startType? ++
    Element.node.named form.pattern.targetTypes

/- The types of nodes that a request for neighbors is about. -/
def NeighborRequest.named
    (request : NeighborRequest) :
    List (Element × String) :=
  Element.node.named (request.startType :: request.pattern.targetTypes)

/- The types that are named in a form for edges. -/
def EdgeRequest.Form.named
    (form : Form) :
    List (Element × String) :=
  Element.node.named (form.sourceTypes ++ form.pattern.targetTypes) ++
    Element.edge.named form.pattern.edgeTypes

/- The types that a request for edges is about. -/
def EdgeRequest.named
    (request : EdgeRequest) :
    List (Element × String) :=
  Element.node.named
      (request.sourceTypes ++ request.pattern.targetTypes) ++
    Element.edge.named request.pattern.edgeTypes

namespace Schema

/-
  Where no node type is named, a schema settles which one is meant
  by having only one.
-/
def Settles
    (schema : Schema)
    (ref : TypeRef) :
    Prop :=
  ref.named = [] → ∃ only, schema.nodes.keys = [only]

/-
  Building with a schema beside building without.  A request that
  is about defined types is built alike, and no others are built.
  A form in which some type is named that is not defined, after
  types that are, is refused for that type.
-/
structure Screens
    {F R : Type}
    (schema : Schema)
    (build buildWith : F → Except RequestError R)
    (named : F → List (Element × String))
    (namedIn : R → List (Element × String))
    (Settled : F → Prop) :
    Prop where
  keeps :
    ∀ form request, build form = .ok request →
      (∀ type ∈ namedIn request, schema.Defines type) →
      buildWith form = .ok request
  defined :
    ∀ form request, buildWith form = .ok request →
      ∀ type ∈ namedIn request, schema.Defines type
  unknown :
    ∀ form before element name after, Settled form →
      named form = before ++ (element, name) :: after →
      (∀ type ∈ before, schema.Defines type) →
      ¬ schema.Defines (element, name) →
      buildWith form = .error (.schema (.unknownType element name))

end Schema

end GraphClient

------------------------------------------------------------
-- Looking Up Types
------------------------------------------------------------

namespace GraphClient

/- A reference names what it gives as a name. -/
theorem TypeRef.named_eq
    (ref : TypeRef) :
    ref.named = Element.node.named ref.name?.toList := by
  cases ref with
  | none => rfl
  | some name =>
      by_cases hName : name = "" <;>
        simp [named, name?, hName, Option.filter]

/- What a reference gives as a name is the one type it names. -/
theorem TypeRef.named_of_name?
    {ref : TypeRef}
    {name : String}
    (hName : ref.name? = some name) :
    ref.named = [(.node, name)] := by
  rw [named_eq, hName]
  rfl

namespace Schema

open Requirement

/- Node types are required one after the other. -/
theorem decides_requireNodes
    (schema : Schema)
    (names : List String) :
    Decides ((Element.node.named names).map schema.requirement)
      (fun _ => True) (schema.requireNodes names) := by
  induction names with
  | nil => exact .nil rfl trivial
  | cons name rest ih =>
      exact (schema.decides_node name).bind fun _ _ => ih

/- Edge types are required one after the other. -/
theorem decides_requireEdges
    (schema : Schema)
    (names : List String) :
    Decides ((Element.edge.named names).map schema.requirement)
      (fun _ => True) (schema.requireEdges names) := by
  induction names with
  | nil => exact .nil rfl trivial
  | cons name rest ih =>
      exact (schema.decides_edge name).bind fun _ _ => ih

/- A reference is resolved to the type that it names, if any. -/
theorem decides_resolveNode
    {schema : Schema}
    {ref : TypeRef}
    (hSettles : schema.Settles ref) :
    Decides (ref.named.map schema.requirement)
      (fun name => ∀ given, ref.name? = some given → name = given)
      (schema.resolveNode ref) := by
  rw [Settles, TypeRef.named_eq] at hSettles
  rw [TypeRef.named_eq]
  unfold resolveNode resolve
  cases hName : ref.name? with
  | none =>
      -- Nothing is required, as the one node type is meant.
      rw [hName] at hSettles
      rcases hSettles rfl with ⟨only, hOnly⟩
      rw [hOnly]
      exact .nil rfl fun given hGiven => nomatch hGiven
  | some name =>
      refine .cons (fun hNot => if_neg hNot) fun hMem => ?_
      exact .nil (if_pos hMem)
        fun given hGiven => Option.some.inj hGiven

/- A reference that names something is settled. -/
theorem settles_of_named
    {schema : Schema}
    {ref : TypeRef}
    (hNamed : ref.named ≠ []) :
    schema.Settles ref :=
  fun hNone => absurd hNone hNamed

/- The first of some types that is not defined is reported. -/
theorem unknown_of_decides
    {α : Type}
    {schema : Schema}
    {types before after : List (Element × String)}
    {element : Element}
    {name : String}
    {Gives : α → Prop}
    {check : Except SchemaError α}
    (hCheck : Decides (types.map schema.requirement) Gives check)
    (hTypes : types = before ++ (element, name) :: after)
    (hBefore : ∀ type ∈ before, schema.Defines type)
    (hNot : ¬ schema.Defines (element, name)) :
    check = .error (.unknownType element name) := by
  rw [hTypes] at hCheck
  exact hCheck.refuses _
    (firstUnmet_map schema.requirement hBefore hNot)

end Schema

end GraphClient

------------------------------------------------------------
-- Forms for Nodes
------------------------------------------------------------

namespace GraphClient

namespace NodeRequest

namespace Form

variable {form : Form} {schema : Schema} {target : NodeTarget}

/- A target of defined types is the same with the schema. -/
theorem resolvedTarget_of_namedTarget
    (hTarget : form.namedTarget = .ok target)
    (hDefined :
      ∀ type ∈ Element.node.named target.type?.toList,
        schema.Defines type) :
    form.resolvedTarget schema = .ok target := by
  unfold namedTarget at hTarget
  unfold resolvedTarget
  cases hAll : form.wantsAll with
  | true =>
      rw [hAll] at hTarget
      exact hTarget
  | false =>
      rw [hAll] at hTarget
      cases hName : TypeRef.name? form.type? with
      | none =>
          rw [hName] at hTarget
          cases hTarget
      | some name =>
          rw [hName] at hTarget
          cases hTarget
          have hNamed := TypeRef.named_of_name? hName
          have hSettles : schema.Settles form.type? := by
            apply Schema.settles_of_named
            rw [hNamed]
            exact List.cons_ne_nil _ _
          have hResolve := Schema.decides_resolveNode hSettles
          rw [hNamed] at hResolve
          rcases hResolve.accepts (Schema.allMet_iff.mpr hDefined) with
            ⟨found, hFound, hGiven⟩
          rw [hFound, hGiven name hName]
          rfl

/- The target that is found with a schema is of defined types. -/
theorem defines_of_resolvedTarget
    (hTarget : form.resolvedTarget schema = .ok target) :
    ∀ type ∈ Element.node.named target.type?.toList,
      schema.Defines type := by
  unfold resolvedTarget at hTarget
  cases hAll : form.wantsAll with
  | true =>
      rw [hAll] at hTarget
      cases hTarget
      exact fun _ hMem => absurd hMem List.not_mem_nil
  | false =>
      rw [hAll] at hTarget
      cases hName : schema.resolveNode form.type? with
      | error e =>
          rw [hName] at hTarget
          cases hTarget
      | ok name =>
          rw [hName] at hTarget
          cases hTarget
          exact List.forall_mem_singleton.mpr
            (Schema.mem_of_resolve hName)

/- A type that is not defined is no target. -/
theorem resolvedTarget_of_unknown
    {before after : List (Element × String)}
    {element : Element}
    {name : String}
    (hNamed : form.named = before ++ (element, name) :: after)
    (hBefore : ∀ type ∈ before, schema.Defines type)
    (hNot : ¬ schema.Defines (element, name)) :
    form.resolvedTarget schema =
      .error (.schema (.unknownType element name)) := by
  unfold named at hNamed
  unfold resolvedTarget
  cases hAll : form.wantsAll with
  | true =>
      rw [hAll] at hNamed
      cases before <;> cases hNamed
  | false =>
      rw [hAll, if_neg Bool.false_ne_true] at hNamed
      have hSettles : schema.Settles form.type? := by
        apply Schema.settles_of_named
        rw [hNamed]
        exact List.append_ne_nil_of_right_ne_nil _
          (List.cons_ne_nil _ _)
      rw [Schema.unknown_of_decides
        (Schema.decides_resolveNode hSettles) hNamed hBefore hNot]
      rfl

end Form

/- A schema screens requests for nodes. -/
theorem screens
    (schema : Schema) :
    schema.Screens Form.build (Form.buildWith schema) Form.named
      named (fun _ => True) where
  keeps form request hBuild hDefined := by
    rcases Checks.bind_eq_ok_iff.mp hBuild with
      ⟨target, hTarget, hFinish⟩
    refine Checks.bind_eq_ok_iff.mpr ⟨target, ?_, hFinish⟩
    rcases Form.finish_eq_ok_iff.mp hFinish with ⟨-, _, -, rfl⟩
    exact Form.resolvedTarget_of_namedTarget hTarget hDefined
  defined form request hBuild := by
    rcases Checks.bind_eq_ok_iff.mp hBuild with
      ⟨target, hTarget, hFinish⟩
    rcases Form.finish_eq_ok_iff.mp hFinish with ⟨-, _, -, rfl⟩
    exact Form.defines_of_resolvedTarget hTarget
  unknown form before element name after _ hNamed hBefore hNot := by
    unfold Form.buildWith
    rw [Form.resolvedTarget_of_unknown hNamed hBefore hNot]
    rfl

end NodeRequest

end GraphClient

------------------------------------------------------------
-- Forms for Neighbors
------------------------------------------------------------

namespace GraphClient

namespace NeighborRequest

open Requirement

/- The types of a form are resolved if the named ones are defined. -/
theorem Form.decides_resolveTypes
    {schema : Schema}
    {form : Form}
    (hSettles : schema.Settles form.startType?) :
    Decides (form.named.map schema.requirement)
      (fun name => ∀ given,
        TypeRef.name? form.startType? = some given → name = given)
      (form.resolveTypes schema) := by
  rw [Form.named, List.map_append]
  exact (Schema.decides_resolveNode hSettles).bind
    fun startType hGiven =>
      (schema.decides_requireNodes _).map (fun _ => rfl)
        fun _ _ => hGiven

/- A schema screens requests for neighbors. -/
theorem screens
    (schema : Schema) :
    schema.Screens Form.build (Form.buildWith schema) Form.named
      named (fun form => schema.Settles form.startType?) where
  keeps form request hBuild hDefined := by
    unfold Form.build at hBuild
    cases hName : TypeRef.name? form.startType? with
    | none =>
        rw [hName] at hBuild
        cases hBuild
    | some name =>
        rw [hName] at hBuild
        have hNamed : form.named = request.named := by
          rcases Form.finish_eq_ok_iff.mp hBuild with
            ⟨-, -, _, -, rfl⟩
          rw [Form.named, TypeRef.named_of_name? hName]
          rfl
        have hSettles : schema.Settles form.startType? := by
          apply Schema.settles_of_named
          rw [TypeRef.named_of_name? hName]
          exact List.cons_ne_nil _ _
        rcases (Form.decides_resolveTypes hSettles).accepts
            (Schema.allMet_iff.mpr (hNamed ▸ hDefined)) with
          ⟨found, hFound, hGiven⟩
        unfold Form.buildWith
        rw [hFound, hGiven name hName]
        exact hBuild
  defined form request hBuild := by
    unfold Form.buildWith at hBuild
    cases hTypes : form.resolveTypes schema with
    | error e =>
        rw [hTypes] at hBuild
        cases hBuild
    | ok startType =>
        rw [hTypes] at hBuild
        rcases Form.finish_eq_ok_iff.mp hBuild with
          ⟨-, -, _, -, rfl⟩
        rcases Checks.bind_eq_ok_iff.mp hTypes with
          ⟨found, hFound, hRest⟩
        rcases Checks.next_eq_ok_iff.mp hRest with ⟨hTargets, hSame⟩
        cases hSame
        have hAll :=
          (schema.decides_requireNodes _).passes_iff.mp hTargets
        exact List.forall_mem_cons.mpr
          ⟨Schema.mem_of_resolve hFound, Schema.allMet_iff.mp hAll⟩
  unknown form before element name after hSettles hNamed hBefore hNot := by
    have hError := Schema.unknown_of_decides
      (Form.decides_resolveTypes hSettles) hNamed hBefore hNot
    unfold Form.buildWith
    rw [hError]

end NeighborRequest

end GraphClient

------------------------------------------------------------
-- Forms for Edges
------------------------------------------------------------

namespace GraphClient

namespace EdgeRequest

open Requirement

/- The types of a form pass if they are defined. -/
theorem Form.decides_checkTypes
    (schema : Schema)
    (form : Form) :
    Decides (form.named.map schema.requirement) (fun _ => True)
      (form.checkTypes schema) := by
  rw [Form.named, List.map_append]
  exact (schema.decides_requireNodes _).bind
    fun _ _ => schema.decides_requireEdges _

/- A schema screens requests for edges. -/
theorem screens
    (schema : Schema) :
    schema.Screens Form.build (Form.buildWith schema) Form.named
      named (fun _ => True) where
  keeps form request hBuild hDefined := by
    have hNamed : form.named = request.named := by
      rcases Form.build_eq_ok_iff.mp hBuild with ⟨-, _, -, rfl⟩
      rfl
    rcases (form.decides_checkTypes schema).accepts
        (Schema.allMet_iff.mpr (hNamed ▸ hDefined)) with
      ⟨_, hTypes, -⟩
    unfold Form.buildWith
    rw [hTypes]
    exact hBuild
  defined form request hBuild := by
    unfold Form.buildWith at hBuild
    cases hTypes : form.checkTypes schema with
    | error e =>
        rw [hTypes] at hBuild
        cases hBuild
    | ok u =>
        rw [hTypes] at hBuild
        have hNamed : form.named = request.named := by
          rcases Form.build_eq_ok_iff.mp hBuild with ⟨-, _, -, rfl⟩
          rfl
        have hAll := (form.decides_checkTypes schema).passes_iff.mp hTypes
        rw [← hNamed]
        exact Schema.allMet_iff.mp hAll
  unknown form before element name after _ hNamed hBefore hNot := by
    have hError := Schema.unknown_of_decides
      (form.decides_checkTypes schema) hNamed hBefore hNot
    unfold Form.buildWith
    rw [hError]

end EdgeRequest

/-
  Every schema screens the requests of every kind.  Only where a
  start type is left out has it to have one node type to settle
  which one is meant.
-/
theorem Schema.screens_requests
    (schema : Schema) :
    schema.Screens NodeRequest.Form.build
        (NodeRequest.Form.buildWith schema) NodeRequest.Form.named
        NodeRequest.named (fun _ => True) ∧
      schema.Screens NeighborRequest.Form.build
        (NeighborRequest.Form.buildWith schema)
        NeighborRequest.Form.named NeighborRequest.named
        (fun form => schema.Settles form.startType?) ∧
      schema.Screens EdgeRequest.Form.build
        (EdgeRequest.Form.buildWith schema) EdgeRequest.Form.named
        EdgeRequest.named (fun _ => True) :=
  ⟨NodeRequest.screens schema, NeighborRequest.screens schema,
    EdgeRequest.screens schema⟩

/- A form for neighbors that are ghosts, with a reserved alias. -/
def NeighborRequest.Form.haunted : Form :=
  .ofClauses ["ann"]
    [.startType "Customer",
      .pattern (.targetTypes ["Customer", "Ghost"]),
      .pattern (.startAlias "select")]

/- A form for edges that are hauntings, with a limit too low. -/
def EdgeRequest.Form.hauntings : Form :=
  .ofClauses
    [.sourceTypes ["Customer"],
      .pattern (.edgeTypes ["Advises", "Haunts"]),
      .restrict (.limit 0)]

/-
  A shop lets a form for its customers through.  It reports ghosts
  and hauntings, for which it has no types, before what is found
  without it.
-/
theorem Schema.screens_requests_shop :
    NodeRequest.Form.buildWith .shop
          (.ofClauses [.type "Customer", .nodeAlias "c"]) =
        .ok ⟨.type "Customer", "c", .none⟩ ∧
      NeighborRequest.Form.haunted.build =
        .error (.reservedAlias "select") ∧
      NeighborRequest.Form.haunted.buildWith .shop =
        .error (.schema (.unknownType .node "Ghost")) ∧
      EdgeRequest.Form.hauntings.build = .error .invalidLimit ∧
      EdgeRequest.Form.hauntings.buildWith .shop =
        .error (.schema (.unknownType .edge "Haunts")) := by
  rcases screens_requests .shop with ⟨hNodes, hNeighbors, hEdges⟩
  have hCustomer : shop.Defines (.node, "Customer") := by decide
  have hAdvises : shop.Defines (.edge, "Advises") := by decide
  refine ⟨?_, rfl, ?_, rfl, ?_⟩
  · exact hNodes.keeps _ _ rfl
      (List.forall_mem_singleton.mpr hCustomer)
  · apply hNeighbors.unknown _
      [(.node, "Customer"), (.node, "Customer")] _ _ []
    · exact fun _ => ⟨"Customer", rfl⟩
    · rfl
    · simp [hCustomer]
    · decide
  · apply hEdges.unknown _
      [(.node, "Customer"), (.edge, "Advises")] _ _ [] trivial
    · rfl
    · simp [hCustomer, hAdvises]
    · decide

end GraphClient
