import GraphClient.Proofs.Checks
import GraphClient.Proofs.Request.Clauses
import GraphClient.Proofs.Requirement
import GraphClient.Proofs.Schema.Keywords
import GraphClient.Proofs.Schema.References
import GraphClient.Proofs.Text.Identifiers
import GraphClient.Proofs.Text.Trimming
/-
  What forms require, and the requests that they give.

  Key definitions include:
    * `GraphClient.NodeRequest.Form.requirements`
    * `GraphClient.NeighborRequest.Form.requirements`
    * `GraphClient.EdgeRequest.Form.requirements`
    * `GraphClient.Clauses.Builds`

  Key theorems include:
    * `GraphClient.NodeRequest.Form.decides_build`
    * `GraphClient.NeighborRequest.Form.decides_build`
    * `GraphClient.EdgeRequest.Form.decides_build`
    * `GraphClient.Clauses.builds_requests`

  A form with a type and start nodes is accepted if its aliases
  can be told apart and its restriction lets something through.
  The request then has what was collected from the clauses.
-/

------------------------------------------------------------
-- Aliases
------------------------------------------------------------

namespace GraphClient

namespace Alias

/- An alias is an identifier that is no reserved word. -/
def requirements
    (name : String) :
    List (Requirement RequestError) :=
  [⟨name.toList ∈ Text.identifierPattern.matches',
      .invalidAlias name⟩,
    ⟨¬ Keyword.Reserves name, .reservedAlias name⟩]

/- Each alias is one, and then not one of those before it. -/
def requirementsAfter
    (earlier : List String) :
    List String → List (Requirement RequestError)
| [] => []
| name :: rest =>
    requirements name ++
      ⟨name ∉ earlier, .duplicateAlias name⟩ ::
        requirementsAfter (name :: earlier) rest

end Alias

namespace Alias

open Requirement

/-
  Aliases are as they should be when each is by itself, and none
  repeats another one or an earlier one.
-/
theorem allMet_requirementsAfter
    {earlier names : List String} :
    AllMet (requirementsAfter earlier names) ↔
      (∀ name ∈ names, AllMet (requirements name)) ∧ names.Nodup ∧
        ∀ name ∈ names, name ∉ earlier := by
  induction names generalizing earlier with
  | nil => simp [requirementsAfter, allMet_nil]
  | cons name rest ih =>
      have hStep :
          AllMet (requirementsAfter earlier (name :: rest)) ↔
            AllMet (requirements name) ∧ name ∉ earlier ∧
              AllMet (requirementsAfter (name :: earlier) rest) := by
        rw [requirementsAfter, allMet_append]
        exact and_congr_right fun _ => List.forall_mem_cons
      rw [hStep, ih, List.forall_mem_cons, List.forall_mem_cons,
        List.nodup_cons]
      constructor
      · rintro ⟨hName, hEarlier, hRest, hNodup, hNew⟩
        refine ⟨⟨hName, hRest⟩, ⟨?_, hNodup⟩, hEarlier, ?_⟩
        · intro hMem
          exact hNew name hMem List.mem_cons_self
        · intro other hMem hOther
          exact hNew other hMem (List.mem_cons_of_mem name hOther)
      · rintro ⟨⟨hName, hRest⟩, ⟨hFresh, hNodup⟩, hEarlier, hNew⟩
        refine ⟨hName, hEarlier, hRest, hNodup, ?_⟩
        intro other hMem hOther
        rcases List.mem_cons.mp hOther with hSame | hOld
        · rw [hSame] at hMem
          exact hFresh hMem
        · exact hNew other hMem hOld

/- The check of an alias is decided by what it requires. -/
theorem decides_check
    (name : String) :
    Decides (requirements name) (fun _ => True) (check name) := by
  refine .cons ?_ fun hIdentifier => .cons ?_ fun hFree => ?_
  · intro hOther
    rw [← Text.isIdentifier_iff_matches] at hOther
    simp [check, hOther]
  · intro hReserved
    rw [not_not, ← Keyword.isReserved_iff] at hReserved
    rw [← Text.isIdentifier_iff_matches] at hIdentifier
    simp [check, hIdentifier, hReserved]
  · rw [← Keyword.isReserved_eq_false_iff] at hFree
    rw [← Text.isIdentifier_iff_matches] at hIdentifier
    have hCheck : check name = .ok () := by
      simp [check, hIdentifier, hFree]
    exact .nil hCheck trivial

/- So is the check of several aliases, one after the other. -/
theorem decides_checkAfter
    (earlier names : List String) :
    Decides (requirementsAfter earlier names) (fun _ => True)
      (checkAfter earlier names) := by
  induction names generalizing earlier with
  | nil => exact .nil rfl trivial
  | cons name rest ih =>
      -- For the rest the name is one of the earlier ones.
      refine (decides_check name).bind fun _ _ => .cons ?_ fun hNew => ?_
      · intro hOld
        simp [not_not.mp hOld, Checks.throw_bind]
      · simpa [hNew] using ih (name :: earlier)

end Alias

end GraphClient

------------------------------------------------------------
-- Restrictions
------------------------------------------------------------

namespace GraphClient

namespace Restriction

open Requirement

/- A restriction names attributes, and lets something through. -/
def requirements
    (r : Restriction) :
    List (Requirement RequestError) :=
  [⟨r.projection? ≠ some [], .emptyProjection⟩,
    ⟨r.limit? ≠ some 0, .invalidLimit⟩]

/-
  The filter has lost the white space around it, and is there only
  if anything is left; the rest is as it was given.
-/
structure Normalizes (given result : Restriction) : Prop where
  filter :
    ∀ text, result.filter? = some text ↔
      ∃ whole, given.filter? = some whole ∧
        Text.Trims whole text ∧ text ≠ ""
  projection : result.projection? = given.projection?
  limit : result.limit? = given.limit?

/- What is left of a filter is not empty. -/
theorem condition?_eq_some_iff
    {whole text : String} :
    condition? whole = some text ↔
      Text.Trims whole text ∧ text ≠ "" := by
  unfold condition?
  rw [Text.trims_iff]
  by_cases hEmpty : Text.trim whole = ""
  · have hNone : (Text.trim whole).isEmpty = true := by
      simpa using hEmpty
    simp only [hNone, if_true, reduceCtorEq, false_iff]
    rintro ⟨rfl, hText⟩
    exact hText hEmpty
  · have hRest : (Text.trim whole).isEmpty = false := by
      simpa using hEmpty
    simp only [hRest, Bool.false_eq_true, if_false, Option.some.injEq]
    constructor
    · rintro rfl
      exact ⟨rfl, hEmpty⟩
    · rintro ⟨rfl, -⟩
      rfl

/- A restriction that is normalized is what it should be. -/
theorem normalizes_normalized
    (r : Restriction) :
    Normalizes r r.normalized where
  filter text := by
    simp only [normalized, Option.bind_eq_some_iff,
      condition?_eq_some_iff]
  projection := rfl
  limit := rfl

/- There is one way to normalize a restriction. -/
theorem Normalizes.unique
    {given result other : Restriction}
    (hResult : Normalizes given result)
    (hOther : Normalizes given other) :
    result = other := by
  have hFilter : result.filter? = other.filter? :=
    Option.ext fun text =>
      (hResult.filter text).trans (hOther.filter text).symm
  have hProjection : result.projection? = other.projection? :=
    hResult.projection.trans hOther.projection.symm
  have hLimit : result.limit? = other.limit? :=
    hResult.limit.trans hOther.limit.symm
  cases result
  cases other
  simp_all

/- The check of a restriction is decided by what it requires. -/
theorem decides_check
    (r : Restriction) :
    Decides r.requirements (Normalizes r) r.check := by
  refine .cons ?_ fun hProjection => .cons ?_ fun hLimit =>
    .nil ?_ r.normalizes_normalized
  · intro hEmpty
    simp [check, not_not.mp hEmpty]
  · intro hZero
    simp [check, hProjection, not_not.mp hZero]
  · simp [check, hProjection, hLimit]

end Restriction

end GraphClient

------------------------------------------------------------
-- Patterns
------------------------------------------------------------

namespace GraphClient

namespace Pattern

open Requirement

/- The aliases of a pattern can be told apart. -/
def requirements
    (p : Pattern) :
    List (Requirement RequestError) :=
  Alias.requirementsAfter []
    [p.startAlias, p.edgeAlias, p.targetAlias]

/- The check of a pattern is decided by what it requires. -/
theorem decides_check
    (p : Pattern) :
    Decides p.requirements (fun _ => True) p.check :=
  Alias.decides_checkAfter [] p.aliases

end Pattern

end GraphClient

------------------------------------------------------------
-- Forms for Nodes
------------------------------------------------------------

namespace GraphClient

namespace NodeRequest

namespace Form

open Requirement

/- A form for nodes has a type, an alias and a restriction. -/
def requirements
    (form : Form) :
    List (Requirement RequestError) :=
  ⟨form.wantsAll = true ∨
      ∃ name, form.type? = some name ∧ name ≠ "",
    .missingNodeType⟩ ::
    (Alias.requirements form.nodeAlias ++
      form.restriction.requirements)

/- All types are the target if they are wanted, or else the type. -/
def Targets
    (form : Form) :
    NodeTarget → Prop
| .all => form.wantsAll = true
| .type name => form.wantsAll = false ∧ form.type? = some name

/- A request for nodes has what its form has. -/
structure Gives
    (form : Form)
    (request : NodeRequest) :
    Prop where
  target : form.Targets request.target
  nodeAlias : request.nodeAlias = form.nodeAlias
  restriction :
    Restriction.Normalizes form.restriction request.restriction

/- A form has one target. -/
theorem Targets.unique
    {form : Form}
    {target other : NodeTarget}
    (hTarget : form.Targets target)
    (hOther : form.Targets other) :
    target = other := by
  cases target with
  | all =>
      cases other with
      | all => rfl
      | type name => simp_all [Targets]
  | type name =>
      cases other with
      | all => simp_all [Targets]
      | type otherName =>
          have hNames := hTarget.2.symm.trans hOther.2
          rw [Option.some.inj hNames]

/- A form gives one request. -/
theorem Gives.unique
    {form : Form}
    {request other : NodeRequest}
    (hRequest : form.Gives request)
    (hOther : form.Gives other) :
    request = other := by
  have hTarget := hRequest.target.unique hOther.target
  have hAlias := hRequest.nodeAlias.trans hOther.nodeAlias.symm
  have hRestriction := hRequest.restriction.unique hOther.restriction
  cases request
  cases other
  simp_all

/- With a target, the alias and the restriction are required. -/
theorem decides_finish
    (form : Form)
    (target : NodeTarget) :
    Decides
      (Alias.requirements form.nodeAlias ++
        form.restriction.requirements)
      (fun request =>
        request.target = target ∧
          request.nodeAlias = form.nodeAlias ∧
          Restriction.Normalizes form.restriction
            request.restriction)
      (form.finish target) :=
  (Alias.decides_check form.nodeAlias).bind fun _ _ =>
    form.restriction.decides_check.map (fun _ => rfl)
      fun _ hRestriction => ⟨rfl, rfl, hRestriction⟩

/- The target requires a type, unless all of them are wanted. -/
theorem decides_namedTarget
    (form : Form) :
    Decides
      [⟨form.wantsAll = true ∨
          ∃ name, form.type? = some name ∧ name ≠ "",
        .missingNodeType⟩]
      form.Targets form.namedTarget := by
  unfold namedTarget
  cases hAll : form.wantsAll with
  | true =>
      exact .cons (fun hNot => absurd (Or.inl rfl) hNot)
        fun _ => .nil rfl hAll
  | false =>
      cases hName : TypeRef.name? form.type? with
      | some name =>
          rcases TypeRef.name?_eq_some_iff.mp hName with
            ⟨hType, hNonempty⟩
          exact .cons
            (fun hNot => absurd (Or.inr ⟨name, hType, hNonempty⟩) hNot)
            fun _ => .nil rfl ⟨hAll, hType⟩
      | none =>
          refine .cons (fun _ => rfl) ?_
          rintro (hWants | ⟨name, hType⟩)
          · cases hWants
          · rw [TypeRef.name?_eq_some_iff.mpr hType] at hName
            cases hName

/- The request of a form for nodes is decided by what it requires. -/
theorem decides_build
    (form : Form) :
    Decides form.requirements form.Gives form.build :=
  form.decides_namedTarget.bind fun target hTarget =>
    (form.decides_finish target).imp
      fun _ ⟨hSame, hAlias, hRestriction⟩ =>
        ⟨hSame ▸ hTarget, hAlias, hRestriction⟩

end Form

end NodeRequest

end GraphClient

------------------------------------------------------------
-- Forms for Neighbors
------------------------------------------------------------

namespace GraphClient

namespace NeighborRequest

namespace Form

open Requirement

/- A form for neighbors has a start, a pattern and a restriction. -/
def requirements
    (form : Form) :
    List (Requirement RequestError) :=
  ⟨∃ name, form.startType? = some name ∧ name ≠ "",
    .missingNodeType⟩ ::
    ⟨form.startNodes ≠ [], .noStartNodes⟩ ::
      (form.pattern.requirements ++ form.restriction.requirements)

/- A request for neighbors has what its form has. -/
structure Gives
    (form : Form)
    (request : NeighborRequest) :
    Prop where
  startNodes : request.startNodes = form.startNodes
  startType : form.startType? = some request.startType
  pattern : request.pattern = form.pattern
  restriction :
    Restriction.Normalizes form.restriction request.restriction

/- A form gives one request. -/
theorem Gives.unique
    {form : Form}
    {request other : NeighborRequest}
    (hRequest : form.Gives request)
    (hOther : form.Gives other) :
    request = other := by
  have hNodes := hRequest.startNodes.trans hOther.startNodes.symm
  have hTypes := hRequest.startType.symm.trans hOther.startType
  have hPattern := hRequest.pattern.trans hOther.pattern.symm
  have hRestriction := hRequest.restriction.unique hOther.restriction
  cases request
  cases other
  simp_all

/- With a start type, start nodes and the rest are required. -/
theorem decides_finish
    (form : Form)
    (startType : String) :
    Decides
      (⟨form.startNodes ≠ [], .noStartNodes⟩ ::
        (form.pattern.requirements ++ form.restriction.requirements))
      (fun request =>
        request.startType = startType ∧
          request.startNodes = form.startNodes ∧
          request.pattern = form.pattern ∧
          Restriction.Normalizes form.restriction
            request.restriction)
      (form.finish startType) := by
  refine .cons ?_ fun hStart => ?_
  · intro hNone
    simp [finish, not_not.mp hNone, Checks.throw_bind]
  · have hSome : form.startNodes.isEmpty = false := by
      simpa using hStart
    simp only [finish, hSome, Bool.false_eq_true, if_false]
    exact form.pattern.decides_check.bind fun _ _ =>
      form.restriction.decides_check.map (fun _ => rfl)
        fun _ hRestriction => ⟨rfl, rfl, rfl, hRestriction⟩

/- The request of a form is decided by what it requires. -/
theorem decides_build
    (form : Form) :
    Decides form.requirements form.Gives form.build := by
  unfold build
  cases hName : TypeRef.name? form.startType? with
  | none =>
      refine .cons (fun _ => rfl) ?_
      rintro ⟨name, hType⟩
      rw [TypeRef.name?_eq_some_iff.mpr hType] at hName
      cases hName
  | some name =>
      have hType := TypeRef.name?_eq_some_iff.mp hName
      refine .cons (fun hNot => absurd ⟨name, hType⟩ hNot) fun _ => ?_
      exact (form.decides_finish name).imp
        fun _ ⟨hSame, hNodes, hPattern, hRestriction⟩ =>
          ⟨hNodes, hSame ▸ hType.1, hPattern, hRestriction⟩

end Form

end NeighborRequest

end GraphClient

------------------------------------------------------------
-- Forms for Edges
------------------------------------------------------------

namespace GraphClient

namespace EdgeRequest

namespace Form

open Requirement

/- A form for edges has a pattern and a restriction. -/
def requirements
    (form : Form) :
    List (Requirement RequestError) :=
  form.pattern.requirements ++ form.restriction.requirements

/- A request for edges has what its form has. -/
structure Gives
    (form : Form)
    (request : EdgeRequest) :
    Prop where
  sourceTypes : request.sourceTypes = form.sourceTypes
  pattern : request.pattern = form.pattern
  restriction :
    Restriction.Normalizes form.restriction request.restriction

/- A form gives one request. -/
theorem Gives.unique
    {form : Form}
    {request other : EdgeRequest}
    (hRequest : form.Gives request)
    (hOther : form.Gives other) :
    request = other := by
  have hTypes := hRequest.sourceTypes.trans hOther.sourceTypes.symm
  have hPattern := hRequest.pattern.trans hOther.pattern.symm
  have hRestriction := hRequest.restriction.unique hOther.restriction
  cases request
  cases other
  simp_all

/- The request of a form for edges is decided by what it requires. -/
theorem decides_build
    (form : Form) :
    Decides form.requirements form.Gives form.build :=
  form.pattern.decides_check.bind fun _ _ =>
    form.restriction.decides_check.map (fun _ => rfl)
      fun _ hRestriction => ⟨rfl, rfl, hRestriction⟩

end Form

end EdgeRequest

end GraphClient

------------------------------------------------------------
-- Clauses and Their Requests
------------------------------------------------------------

namespace GraphClient

namespace Clauses

open Requirement

variable {C P F R : Type}

/-
  What clauses come to.  A form collects them, and clauses for
  different parts may change places.  A request is built if the
  form has all that is required, and is then what the form gives;
  otherwise the first thing that is missing is named.
-/
structure Builds
    (part : C → P)
    (ofClauses : List C → F)
    (build : F → Except RequestError R)
    (Collects : List C → F → Prop)
    (requirements : F → List (Requirement RequestError))
    (Gives : F → R → Prop) :
    Prop where
  collects : ∀ clauses, Collects clauses (ofClauses clauses)
  reordered :
    ∀ clauses others, Reordered part clauses others →
      build (ofClauses clauses) = build (ofClauses others)
  accepted :
    ∀ clauses, (∃ request, build (ofClauses clauses) = .ok request) ↔
      AllMet (requirements (ofClauses clauses))
  given :
    ∀ clauses request, build (ofClauses clauses) = .ok request ↔
      AllMet (requirements (ofClauses clauses)) ∧
        Gives (ofClauses clauses) request
  refused :
    ∀ clauses e, build (ofClauses clauses) = .error e ↔
      FirstUnmet (requirements (ofClauses clauses)) e

/-
  Clauses come to what they should if they can be added in either
  order, and the request of a form is decided by what it requires.
-/
theorem builds_of_decides
    {part : C → P}
    {add : F → C → F}
    {blank : F}
    {build : F → Except RequestError R}
    {Collects : List C → F → Prop}
    {requirements : F → List (Requirement RequestError)}
    {Gives : F → R → Prop}
    (hCollects :
      ∀ clauses, Collects clauses (clauses.foldl add blank))
    (hSwap :
      ∀ form first second, part first ≠ part second →
        add (add form first) second = add (add form second) first)
    (hBuild :
      ∀ form, Decides (requirements form) (Gives form) (build form))
    (hUnique :
      ∀ form {request other}, Gives form request → Gives form other →
        request = other) :
    Builds part (fun clauses => clauses.foldl add blank) build
      Collects requirements Gives where
  collects := hCollects
  reordered _ _ hReordered :=
    congrArg build (foldl_reordered hSwap hReordered blank)
  accepted _ := (hBuild _).exists_eq_ok_iff
  given _ _ := (hBuild _).eq_ok_iff (hUnique _)
  refused _ _ := (hBuild _).eq_error_iff

/-
  The clauses of every kind of request build exactly the request
  that they describe, or name the first fault.
-/
theorem builds_requests :
    Builds NodeRequest.Clause.part NodeRequest.Form.ofClauses
        NodeRequest.Form.build NodeRequest.Form.Collects
        NodeRequest.Form.requirements NodeRequest.Form.Gives ∧
      (∀ startNodes,
        Builds NeighborRequest.Clause.part
          (NeighborRequest.Form.ofClauses startNodes)
          NeighborRequest.Form.build
          (NeighborRequest.Form.Collects startNodes)
          NeighborRequest.Form.requirements
          NeighborRequest.Form.Gives) ∧
      Builds EdgeRequest.Clause.part EdgeRequest.Form.ofClauses
        EdgeRequest.Form.build EdgeRequest.Form.Collects
        EdgeRequest.Form.requirements EdgeRequest.Form.Gives := by
  refine ⟨?_, fun startNodes => ?_, ?_⟩
  · exact builds_of_decides NodeRequest.Form.collects_ofClauses
      (fun form _ _ => form.add_swap)
      NodeRequest.Form.decides_build
      (fun _ _ _ => NodeRequest.Form.Gives.unique)
  · exact builds_of_decides
      (NeighborRequest.Form.collects_ofClauses startNodes)
      (fun form _ _ => form.add_swap)
      NeighborRequest.Form.decides_build
      (fun _ _ _ => NeighborRequest.Form.Gives.unique)
  · exact builds_of_decides EdgeRequest.Form.collects_ofClauses
      (fun form _ _ => form.add_swap)
      EdgeRequest.Form.decides_build
      (fun _ _ _ => EdgeRequest.Form.Gives.unique)

/- A reserved alias is named before a limit that is too low. -/
example :
    (NodeRequest.Form.ofClauses
        [.restrict (.limit 0), .nodeAlias "Select", .allTypes]).build =
      .error (.reservedAlias "Select") := by
  rfl

end Clauses

end GraphClient
