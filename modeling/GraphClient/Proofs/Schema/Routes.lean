import GraphClient.Proofs.Schema.Accepted
import GraphClient.Proofs.OrderedMap
import GraphClient.Proofs.Schema.References
/-
  References to an edge type and the types of its ends.

  Key definitions include:
    * `GraphClient.TypeRef.Names`
    * `GraphClient.TypeRef.IsOmitted`
    * `GraphClient.TypeRef.StandsFor`
    * `GraphClient.Schema.Answers`
    * `GraphClient.Schema.routeRequirements`

  Key theorems include:
    * `GraphClient.Schema.decides_resolve`
    * `GraphClient.Schema.decides_resolveEnd`
    * `GraphClient.Schema.decides_resolveRoute`
    * `GraphClient.Schema.routes_settled`

  A reference names a type or leaves it out, and an empty name
  leaves it out as well.  A type may have the empty name all the
  same: it can then be meant, but it cannot be named.
-/

------------------------------------------------------------
-- Names and Omissions
------------------------------------------------------------

namespace GraphClient

namespace TypeRef

/- A reference names a type by a name that is not empty. -/
def Names
    (ref : TypeRef)
    (name : String) :
    Prop :=
  ref = some name ∧ name ≠ ""

/- A reference leaves the type out. -/
def IsOmitted
    (ref : TypeRef) :
    Prop :=
  ref = none ∨ ref = some ""

/-
  A name stands for a reference: it is the one that is named, and
  where none is, it is what is meant then.
-/
structure StandsFor
    (ref : TypeRef)
    (Meant : String → Prop)
    (name : String) :
    Prop where
  named : ∀ given, ref.Names given → name = given
  omitted : ref.IsOmitted → Meant name

/-
  A reference is settled among some types: it names one of them,
  or it names none and there is only one.
-/
def IsSettled
    (ref : TypeRef)
    (defined : List String) :
    Prop :=
  (∃ name, ref.Names name ∧ name ∈ defined) ∨
    (ref.IsOmitted ∧ ∃ only, defined = [only])

/- What is wrong with a reference among some types. -/
def fault
    (element : Element)
    (defined : List String)
    (ref : TypeRef) :
    SchemaError :=
  match ref with
  | none => .ambiguousType element (1 < defined.length)
  | some name =>
      if name = "" then
        .ambiguousType element (1 < defined.length)
      else
        .unknownType element name

/- A reference names a type or leaves it out. -/
theorem isOmitted_or_names
    (ref : TypeRef) :
    ref.IsOmitted ∨ ∃ name, ref.Names name := by
  cases ref with
  | none => exact Or.inl (Or.inl rfl)
  | some name =>
      by_cases hName : name = ""
      · exact Or.inl (Or.inr (congrArg some hName))
      · exact Or.inr ⟨name, rfl, hName⟩

/- A reference that leaves the type out names none. -/
theorem IsOmitted.not_names
    {ref : TypeRef}
    (hOmitted : ref.IsOmitted)
    (name : String) :
    ¬ ref.Names name := by
  rintro ⟨rfl, hName⟩
  rcases hOmitted with hNone | hEmpty
  · cases hNone
  · exact hName (Option.some.inj hEmpty)

/- A reference that leaves the type out gives no name. -/
theorem IsOmitted.name?_eq
    {ref : TypeRef}
    (hOmitted : ref.IsOmitted) :
    ref.name? = none := by
  rcases hOmitted with rfl | rfl <;> rfl

/- A reference that names a type gives its name. -/
theorem Names.name?_eq
    {ref : TypeRef}
    {name : String}
    (hNames : ref.Names name) :
    ref.name? = some name :=
  name?_eq_some_iff.mpr hNames

/- The fault of an omitted reference is how many it can mean. -/
theorem IsOmitted.fault_eq
    {ref : TypeRef}
    (hOmitted : ref.IsOmitted)
    (element : Element)
    (defined : List String) :
    ref.fault element defined =
      .ambiguousType element (1 < defined.length) := by
  rcases hOmitted with rfl | rfl <;> rfl

/- The fault of a reference to a name is that it is unknown. -/
theorem Names.fault_eq
    {ref : TypeRef}
    {name : String}
    (hNames : ref.Names name)
    (element : Element)
    (defined : List String) :
    ref.fault element defined = .unknownType element name := by
  rcases hNames with ⟨rfl, hName⟩
  exact if_neg hName

/- What is named stands for the reference. -/
theorem Names.standsFor
    {ref : TypeRef}
    {name : String}
    (hNames : ref.Names name)
    (Meant : String → Prop) :
    ref.StandsFor Meant name where
  named _ hGiven :=
    Option.some.inj (hNames.1.symm.trans hGiven.1)
  omitted hOmitted := absurd hNames (hOmitted.not_names name)

/- What is meant stands for an omitted reference. -/
theorem IsOmitted.standsFor
    {ref : TypeRef}
    (hOmitted : ref.IsOmitted)
    {Meant : String → Prop}
    {name : String}
    (hMeant : Meant name) :
    ref.StandsFor Meant name where
  named _ hGiven := absurd hGiven (hOmitted.not_names _)
  omitted _ := hMeant

/- What stands for a reference stands for a reference to itself. -/
theorem StandsFor.again
    {ref : TypeRef}
    {Meant : String → Prop}
    {name : String}
    (hStands : ref.StandsFor Meant name) :
    StandsFor (some name) Meant name := by
  by_cases hName : name = ""
  · -- an empty name is not given, so that it was meant
    rcases ref.isOmitted_or_names with hOmitted | ⟨given, hGiven⟩
    · exact IsOmitted.standsFor (Or.inr (congrArg some hName))
        (hStands.omitted hOmitted)
    · exact absurd ((hStands.named given hGiven).symm.trans hName)
        hGiven.2
  · exact Names.standsFor ⟨rfl, hName⟩ Meant

/- If one name can be meant, one name stands for a reference. -/
theorem StandsFor.unique
    {ref : TypeRef}
    {Meant : String → Prop}
    (hMeant : ∀ {a b}, Meant a → Meant b → a = b)
    {name other : String}
    (hName : ref.StandsFor Meant name)
    (hOther : ref.StandsFor Meant other) :
    name = other := by
  rcases ref.isOmitted_or_names with hOmitted | ⟨given, hGiven⟩
  · exact hMeant (hName.omitted hOmitted) (hOther.omitted hOmitted)
  · rw [hName.named given hGiven, hOther.named given hGiven]

end TypeRef

end GraphClient

------------------------------------------------------------
-- Resolved References
------------------------------------------------------------

namespace GraphClient

namespace Schema

open Requirement

/-
  A reference is resolved if it is settled: to what it names, and
  to the only type if it names none.
-/
theorem decides_resolve
    (element : Element)
    (defined : List String)
    (ref : TypeRef) :
    Decides [⟨ref.IsSettled defined, ref.fault element defined⟩]
      (fun name =>
        ref.StandsFor (fun name => defined = [name]) name ∧
          name ∈ defined)
      (resolve element defined ref) := by
  unfold resolve
  rcases ref.isOmitted_or_names with hOmitted | ⟨name, hNames⟩
  · rw [hOmitted.name?_eq, hOmitted.fault_eq]
    match defined with
    | [] =>
        refine .cons (fun _ => rfl) fun hSettled => ?_
        rcases hSettled with ⟨_, _, hMem⟩ | ⟨_, _, hOnly⟩
        · cases hMem
        · cases hOnly
    | [only] =>
        refine .cons (fun hNot => ?_) fun _ => .nil rfl ?_
        · exact absurd (Or.inr ⟨hOmitted, only, rfl⟩) hNot
        · exact ⟨hOmitted.standsFor rfl, List.mem_singleton_self _⟩
    | first :: second :: rest =>
        refine .cons (fun _ => ?_) fun hSettled => ?_
        · simp
        · rcases hSettled with ⟨given, hGiven, _⟩ | ⟨_, _, hOnly⟩
          · exact absurd hGiven (hOmitted.not_names given)
          · cases hOnly
  · rw [hNames.name?_eq, hNames.fault_eq]
    refine .cons (fun hNot => ?_) fun hSettled => ?_
    · exact if_neg fun hMem => hNot (Or.inl ⟨name, hNames, hMem⟩)
    · have hMem : name ∈ defined := by
        rcases hSettled with ⟨given, hGiven, hMem⟩ | ⟨hOmitted, _⟩
        · rw [(hNames.standsFor (fun _ => True)).named given hGiven]
          exact hMem
        · exact absurd hNames (hOmitted.not_names name)
      exact .nil (if_pos hMem) ⟨hNames.standsFor _, hMem⟩

/- An end that is named has to be defined. -/
def endRequirement
    (schema : Schema)
    (ref : TypeRef) :
    Requirement SchemaError :=
  ⟨∀ name, ref.Names name → name ∈ schema.nodes.keys,
    ref.fault .node schema.nodes.keys⟩

/- An end is resolved to what it names, and else as is defined. -/
theorem decides_resolveEnd
    {schema : Schema}
    {declared : String}
    (hDeclared : declared ∈ schema.nodes.keys)
    (ref : TypeRef) :
    Decides [schema.endRequirement ref]
      (fun name =>
        ref.StandsFor (fun name => name = declared) name ∧
          name ∈ schema.nodes.keys)
      (schema.resolveEnd ref declared) := by
  unfold resolveEnd endRequirement
  rcases ref.isOmitted_or_names with hOmitted | ⟨name, hNames⟩
  · rw [hOmitted.name?_eq]
    refine .cons (fun hNot => ?_) fun _ => .nil rfl ?_
    · exact absurd
        (fun given hGiven => absurd hGiven (hOmitted.not_names given))
        hNot
    · exact ⟨hOmitted.standsFor rfl, hDeclared⟩
  · rw [hNames.name?_eq, hNames.fault_eq]
    change Decides _ _ (schema.node name >>= fun _ => pure name)
    have hNode := schema.decides_node name
    refine .cons (fun hNot => ?_) fun hMet => ?_
    · have hUnknown : ¬ schema.Defines (.node, name) := by
        intro hDefined
        apply hNot
        intro given hGiven
        rw [← (hNames.standsFor (fun _ => True)).named given hGiven]
        exact hDefined
      rw [hNode.refuses _ (firstUnmet_cons.mpr
        (Or.inl ⟨hUnknown, rfl⟩))]
      rfl
    · have hMem := hMet name hNames
      rcases hNode.accepts (List.forall_mem_singleton.mpr hMem) with
        ⟨type, hType, -⟩
      rw [hType]
      exact .nil rfl ⟨hNames.standsFor _, hMem⟩

end Schema

end GraphClient

------------------------------------------------------------
-- Resolved Routes
------------------------------------------------------------

namespace GraphClient

/- The references to the types of a route. -/
def Route.ref
    (route : Route) :
    RouteRef :=
  ⟨some route.source, some route.edge, some route.target⟩

namespace Schema

open Requirement

/- An edge type is declared with a source. -/
def LeadsFrom
    (schema : Schema)
    (edge source : String) :
    Prop :=
  ∃ type, schema.edges.get? edge = some type ∧ source = type.source

/- An edge type is declared with a target. -/
def LeadsTo
    (schema : Schema)
    (edge target : String) :
    Prop :=
  ∃ type, schema.edges.get? edge = some type ∧ target = type.target

/-
  A route is what references come to in a schema: each type is the
  one that is named, and otherwise the only edge type, or the end
  that the edge type is declared with.  All of them are defined.
-/
structure Answers
    (schema : Schema)
    (ref : RouteRef)
    (route : Route) :
    Prop where
  edge :
    ref.edge.StandsFor (fun name => schema.edges.keys = [name])
      route.edge
  source : ref.source.StandsFor (schema.LeadsFrom route.edge) route.source
  target : ref.target.StandsFor (schema.LeadsTo route.edge) route.target
  edge_mem : route.edge ∈ schema.edges.keys
  source_mem : route.source ∈ schema.nodes.keys
  target_mem : route.target ∈ schema.nodes.keys

/- What is required of references to the types of a route. -/
def routeRequirements
    (schema : Schema)
    (ref : RouteRef) :
    List (Requirement SchemaError) :=
  [⟨ref.edge.IsSettled schema.edges.keys,
      ref.edge.fault .edge schema.edges.keys⟩,
    schema.endRequirement ref.source,
    schema.endRequirement ref.target]

/- The ends of a defined edge type are node types. -/
theorem ends_mem
    {schema : Schema}
    {name : String}
    {edgeType : EdgeType}
    (hEdge : schema.edges.get? name = some edgeType) :
    edgeType.source ∈ schema.nodes.keys ∧
      edgeType.target ∈ schema.nodes.keys := by
  have hMem : (name, edgeType) ∈ schema.edges.entries :=
    Entries.mem_of_lookup hEdge
  have hEnds :=
    check_eq_ok_iff.mp schema.accepted (name, edgeType) hMem
  exact ⟨(schema.nodes.contains_iff _).mp hEnds.1,
    (schema.nodes.contains_iff _).mp hEnds.2⟩

/- References are resolved if all that is required of them is met. -/
theorem decides_resolveRoute
    (schema : Schema)
    (ref : RouteRef) :
    Decides (schema.routeRequirements ref) (schema.Answers ref)
      (schema.resolveRoute ref) := by
  unfold resolveRoute
  refine (decides_resolve .edge schema.edges.keys ref.edge).bind
    fun name hName => ?_
  rcases hName with ⟨hEdge, hMem⟩
  rcases (schema.decides_edge name).accepts
      (List.forall_mem_singleton.mpr hMem) with
    ⟨type, hType, -⟩
  have hFound := edge_eq_ok_iff.mp hType
  have hEnds := ends_mem hFound
  rw [hType]
  refine (decides_resolveEnd hEnds.1 ref.source).bind
    fun source hSource => ?_
  refine (decides_resolveEnd hEnds.2 ref.target).map
    (fun _ => rfl) fun target hTarget => ?_
  exact
    { edge := hEdge
      source := ⟨hSource.1.named,
        fun hOmitted => ⟨type, hFound, hSource.1.omitted hOmitted⟩⟩
      target := ⟨hTarget.1.named,
        fun hOmitted => ⟨type, hFound, hTarget.1.omitted hOmitted⟩⟩
      edge_mem := hMem
      source_mem := hSource.2
      target_mem := hTarget.2 }

/- References come to one route. -/
theorem Answers.unique
    {schema : Schema}
    {ref : RouteRef}
    {route other : Route}
    (hRoute : schema.Answers ref route)
    (hOther : schema.Answers ref other) :
    route = other := by
  rcases route with ⟨source, edge, target⟩
  rcases other with ⟨source', edge', target'⟩
  have hEdge : edge = edge' :=
    hRoute.edge.unique
      (fun hA hB => (List.cons.inj (hA.symm.trans hB)).1)
      hOther.edge
  subst hEdge
  have hSource : source = source' :=
    hRoute.source.unique
      (fun ⟨_, hA, hFirst⟩ ⟨_, hB, hSecond⟩ => by
        cases hA.symm.trans hB
        exact hFirst.trans hSecond.symm)
      hOther.source
  have hTarget : target = target' :=
    hRoute.target.unique
      (fun ⟨_, hA, hFirst⟩ ⟨_, hB, hSecond⟩ => by
        cases hA.symm.trans hB
        exact hFirst.trans hSecond.symm)
      hOther.target
  rw [hSource, hTarget]

/- A route that references come to is what its own come to. -/
theorem Answers.again
    {schema : Schema}
    {ref : RouteRef}
    {route : Route}
    (hAnswers : schema.Answers ref route) :
    schema.Answers route.ref route :=
  { hAnswers with
    edge := hAnswers.edge.again
    source := hAnswers.source.again
    target := hAnswers.target.again }

/- What stands for a reference among some types is settled there. -/
theorem isSettled_some
    {defined : List String}
    {name : String}
    (hStands :
      TypeRef.StandsFor (some name) (fun only => defined = [only])
        name)
    (hMem : name ∈ defined) :
    TypeRef.IsSettled (some name) defined := by
  by_cases hName : name = ""
  · have hOmitted : TypeRef.IsOmitted (some name) :=
      Or.inr (congrArg some hName)
    exact Or.inr ⟨hOmitted, name, hStands.omitted hOmitted⟩
  · exact Or.inl ⟨name, ⟨rfl, hName⟩, hMem⟩

/- The references of a resolved route meet what is required. -/
theorem Answers.allMet
    {schema : Schema}
    {ref : RouteRef}
    {route : Route}
    (hAnswers : schema.Answers ref route) :
    AllMet (schema.routeRequirements route.ref) := by
  have hNamed (name : String)
      (hMem : name ∈ schema.nodes.keys) :
      ∀ given, TypeRef.Names (some name) given →
        given ∈ schema.nodes.keys := by
    rintro given ⟨hGiven, -⟩
    rw [← Option.some.inj hGiven]
    exact hMem
  refine List.forall_mem_cons.mpr ⟨?_, ?_⟩
  · exact isSettled_some hAnswers.again.edge hAnswers.edge_mem
  · refine List.forall_mem_cons.mpr ⟨?_, ?_⟩
    · exact hNamed route.source hAnswers.source_mem
    · refine List.forall_mem_singleton.mpr ?_
      exact hNamed route.target hAnswers.target_mem

/- The ends of a resolved route are node types. -/
theorem ends_mem_of_resolveRoute
    {schema : Schema}
    {ref : RouteRef}
    {route : Route}
    (hResolve : schema.resolveRoute ref = .ok route) :
    route.source ∈ schema.nodes.keys ∧
      route.target ∈ schema.nodes.keys := by
  have hAnswers :=
    ((schema.decides_resolveRoute ref).eq_ok_iff Answers.unique).mp
      hResolve
  exact ⟨hAnswers.2.source_mem, hAnswers.2.target_mem⟩

/-
  References to an edge type and its ends are resolved exactly when
  the edge type is settled and the ends that are named are defined.
  They are resolved to what is named and, where nothing is, to the
  only edge type and to the ends that it is declared with; and to
  the same types again.  Otherwise the first fault is reported, of
  the edge type, the source and the target in this order.
-/
theorem routes_settled
    (schema : Schema)
    (ref : RouteRef) :
    ((∃ route, schema.resolveRoute ref = .ok route) ↔
        ref.edge.IsSettled schema.edges.keys ∧
          (∀ name, ref.source.Names name →
            name ∈ schema.nodes.keys) ∧
          ∀ name, ref.target.Names name →
            name ∈ schema.nodes.keys) ∧
      (∀ route, schema.resolveRoute ref = .ok route →
        schema.Answers ref route ∧
          schema.resolveRoute route.ref = .ok route) ∧
      ∀ e, schema.resolveRoute ref = .error e ↔
        FirstUnmet (schema.routeRequirements ref) e := by
  have hDecides := schema.decides_resolveRoute ref
  refine ⟨?_, ?_, fun e => hDecides.eq_error_iff⟩
  · rw [hDecides.exists_eq_ok_iff]
    unfold AllMet routeRequirements
    simp only [List.forall_mem_cons, endRequirement]
    exact and_congr_right fun _ => and_congr_right fun _ =>
      and_iff_left (List.forall_mem_nil _)
  · intro route hResolve
    have hAnswers := (hDecides.eq_ok_iff Answers.unique).mp hResolve
    have hAgain := schema.decides_resolveRoute route.ref
    refine ⟨hAnswers.2, ?_⟩
    exact (hAgain.eq_ok_iff Answers.unique).mpr
      ⟨hAnswers.2.allMet, hAnswers.2.again⟩

end Schema

/- Places with an id. -/
def NodeType.place : NodeType where
  primaryKey := "id"
  attributes := .ofList [("id", .plain .string)]
  vectors := .empty
  accepted := check_eq_ok_iff.mpr (by decide +kernel)

/- Ways from places without a kind to cities. -/
def EdgeType.way : EdgeType where
  isDirected := true
  source := ""
  target := "City"
  discriminator := []
  attributes := .empty
  accepted := check_eq_ok_iff.mpr (by decide +kernel)

/- A schema in which a node type and the edge type have no name. -/
def Schema.unnamed : Schema where
  graphName := "Atlas"
  nodes := .ofList [("", .place), ("City", .place)]
  edges := .ofList [("", .way)]
  accepted := check_eq_ok_iff.mpr (by decide +kernel)

/-
  Types without a name can be meant, and their route is resolved to
  itself.  Of two faults that of the edge type is reported.
-/
theorem Schema.routes_settled_unnamed :
    Schema.unnamed.resolveRoute ⟨some "", none, some "City"⟩ =
        .ok ⟨"", "", "City"⟩ ∧
      Schema.unnamed.Answers ⟨some "", none, some "City"⟩
        ⟨"", "", "City"⟩ ∧
      Schema.unnamed.resolveRoute ⟨some "", some "", some "City"⟩ =
        .ok ⟨"", "", "City"⟩ ∧
      Schema.unnamed.resolveRoute ⟨some "Town", some "Road", none⟩ =
        .error (.unknownType .edge "Road") := by
  have hResolve :
      Schema.unnamed.resolveRoute ⟨some "", none, some "City"⟩ =
        .ok ⟨"", "", "City"⟩ :=
    Checks.eq_ok_of_toOption (by decide +kernel)
  rcases Schema.routes_settled .unnamed
      ⟨some "", none, some "City"⟩ with
    ⟨-, hAnswers, -⟩
  rcases Schema.routes_settled .unnamed
      ⟨some "Town", some "Road", none⟩ with
    ⟨-, -, hFault⟩
  rcases hAnswers _ hResolve with ⟨hAnswer, hAgain⟩
  refine ⟨hResolve, hAnswer, hAgain, (hFault _).mpr ?_⟩
  refine Requirement.firstUnmet_cons.mpr (Or.inl ⟨?_, rfl⟩)
  rintro (⟨name, hNames, hMem⟩ | ⟨hOmitted, -⟩)
  · have hRoad : "Road" ∈ Schema.unnamed.edges.keys := by
      rw [Option.some.inj hNames.1]
      exact hMem
    exact absurd hRoad (by decide +kernel)
  · exact hOmitted.not_names "Road" ⟨rfl, by decide⟩

end GraphClient
