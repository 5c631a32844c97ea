import GraphClient.Proofs.Request.Requirements
/-
  What is known of requests that were built.

  Key definitions include:
    * `GraphClient.NodeRequest.Built`
    * `GraphClient.NeighborRequest.Built`
    * `GraphClient.EdgeRequest.Built`

  Key theorems include:
    * `GraphClient.NodeRequest.Built.check_alias`
    * `GraphClient.NeighborRequest.Built.check_pattern`
    * `GraphClient.EdgeRequest.Built.check_pattern`
    * `GraphClient.Restriction.sound_of_check`

  A request is built from a form, with a schema or without.
  Either way its aliases and its restriction have passed their
  checks.
-/

------------------------------------------------------------
-- Aliases
------------------------------------------------------------

namespace GraphClient

namespace Alias

/- An alias passes when it is an identifier and not reserved. -/
theorem check_eq_ok_iff
    {name : String} :
    check name = .ok () ↔
      Text.isIdentifier name = true ∧
        Keyword.isReserved name = false := by
  unfold check
  cases Text.isIdentifier name <;>
    cases Keyword.isReserved name <;> simp

/- Aliases of one pattern pass when they are sound and distinct. -/
theorem checkAll_eq_ok_iff
    {names : List String} :
    checkAll names = .ok () ↔
      (∀ name ∈ names, check name = .ok ()) ∧ names.Nodup := by
  rw [checkAll, (decides_checkAfter [] names).passes_iff,
    allMet_requirementsAfter]
  simp only [(decides_check _).passes_iff, List.not_mem_nil,
    not_false_eq_true, implies_true, and_true]

end Alias

/- The aliases of a pattern that passes are identifiers. -/
theorem Pattern.isIdentifier_of_check
    {p : Pattern}
    (hCheck : p.check = .ok ()) :
    ∀ name ∈ p.aliases, Text.isIdentifier name = true := by
  intro name hMem
  have hAll := (Alias.checkAll_eq_ok_iff.mp hCheck).1
  exact (Alias.check_eq_ok_iff.mp (hAll name hMem)).1

end GraphClient

------------------------------------------------------------
-- Restrictions
------------------------------------------------------------

namespace GraphClient

namespace Restriction

/-
  A restriction that lists an attribute, if it lists any, and
  lets a result through, if it limits them.
-/
structure Sound (r : Restriction) : Prop where
  projection : r.projection? ≠ some []
  limit : r.limit? ≠ some 0

/- A restriction that passes its check is sound. -/
theorem sound_of_check
    {r checked : Restriction}
    (hCheck : r.check = .ok checked) :
    checked.Sound := by
  unfold check at hCheck
  by_cases hProjection : r.projection? = some []
  · simp [hProjection] at hCheck
  · by_cases hLimit : r.limit? = some 0
    · simp [hProjection, hLimit] at hCheck
    · simp only [hProjection, hLimit, if_false,
        Except.ok.injEq] at hCheck
      subst hCheck
      exact ⟨hProjection, hLimit⟩

end Restriction

end GraphClient

------------------------------------------------------------
-- Requests for Nodes
------------------------------------------------------------

namespace GraphClient

namespace NodeRequest

/- A request that a form gives, with a schema or without. -/
def Built
    (request : NodeRequest) :
    Prop :=
  ∃ form : Form, form.build = .ok request ∨
    ∃ schema, Form.buildWith schema form = .ok request

/- A form gives a request when its alias and restriction pass. -/
theorem Form.finish_eq_ok_iff
    {form : Form}
    {target : NodeTarget}
    {request : NodeRequest} :
    form.finish target = .ok request ↔
      Alias.check form.nodeAlias = .ok () ∧
        ∃ restriction, form.restriction.check = .ok restriction ∧
          request = ⟨target, form.nodeAlias, restriction⟩ := by
  unfold finish
  rw [Checks.next_eq_ok_iff, Checks.bind_eq_ok_iff]
  simp only [Checks.pure_eq_ok_iff]

/- A built request was finished with some target. -/
theorem Built.finish
    {request : NodeRequest}
    (hBuilt : request.Built) :
    ∃ (form : Form) (target : NodeTarget),
      form.finish target = .ok request := by
  rcases hBuilt with ⟨form, hBuild | ⟨schema, hBuild⟩⟩
  · rcases Checks.bind_eq_ok_iff.mp hBuild with ⟨target, _, hFinish⟩
    exact ⟨form, target, hFinish⟩
  · rcases Checks.bind_eq_ok_iff.mp hBuild with ⟨target, _, hFinish⟩
    exact ⟨form, target, hFinish⟩

/- The alias of a built request has passed its check. -/
theorem Built.check_alias
    {request : NodeRequest}
    (hBuilt : request.Built) :
    Alias.check request.nodeAlias = .ok () := by
  rcases hBuilt.finish with ⟨form, target, hFinish⟩
  rcases Form.finish_eq_ok_iff.mp hFinish with ⟨hAlias, _, _, rfl⟩
  exact hAlias

/- The restriction of a built request is sound. -/
theorem Built.sound
    {request : NodeRequest}
    (hBuilt : request.Built) :
    request.restriction.Sound := by
  rcases hBuilt.finish with ⟨form, target, hFinish⟩
  rcases Form.finish_eq_ok_iff.mp hFinish with
    ⟨_, restriction, hCheck, rfl⟩
  exact Restriction.sound_of_check hCheck

end NodeRequest

end GraphClient

------------------------------------------------------------
-- Requests for Neighbors
------------------------------------------------------------

namespace GraphClient

namespace NeighborRequest

/- A request that a form gives, with a schema or without. -/
def Built
    (request : NeighborRequest) :
    Prop :=
  ∃ form : Form, form.build = .ok request ∨
    ∃ schema, Form.buildWith schema form = .ok request

/- A form gives a request when all of its parts pass. -/
theorem Form.finish_eq_ok_iff
    {form : Form}
    {startType : String}
    {request : NeighborRequest} :
    form.finish startType = .ok request ↔
      form.startNodes ≠ [] ∧ form.pattern.check = .ok () ∧
        ∃ restriction, form.restriction.check = .ok restriction ∧
          request = ⟨form.startNodes, startType, form.pattern,
            restriction⟩ := by
  unfold finish
  cases form.startNodes with
  | nil => simp
  | cons id ids =>
      simp only [List.isEmpty_cons, Bool.false_eq_true, if_false]
      rw [Checks.next_eq_ok_iff, Checks.bind_eq_ok_iff]
      simp [Checks.pure_eq_ok_iff]

/- A built request was finished with some start type. -/
theorem Built.finish
    {request : NeighborRequest}
    (hBuilt : request.Built) :
    ∃ (form : Form) (startType : String),
      form.finish startType = .ok request := by
  rcases hBuilt with ⟨form, hBuild | ⟨schema, hBuild⟩⟩
  · unfold Form.build at hBuild
    cases hName : TypeRef.name? form.startType? with
    | none => simp [hName] at hBuild
    | some name =>
        simp only [hName] at hBuild
        exact ⟨form, name, hBuild⟩
  · unfold Form.buildWith at hBuild
    cases hTypes : form.resolveTypes schema with
    | error e => simp [hTypes] at hBuild
    | ok name =>
        simp only [hTypes] at hBuild
        exact ⟨form, name, hBuild⟩

/- The pattern of a built request has passed its check. -/
theorem Built.check_pattern
    {request : NeighborRequest}
    (hBuilt : request.Built) :
    request.pattern.check = .ok () := by
  rcases hBuilt.finish with ⟨form, startType, hFinish⟩
  rcases Form.finish_eq_ok_iff.mp hFinish with
    ⟨_, hPattern, _, _, rfl⟩
  exact hPattern

/- A built request starts somewhere. -/
theorem Built.startNodes_ne
    {request : NeighborRequest}
    (hBuilt : request.Built) :
    request.startNodes ≠ [] := by
  rcases hBuilt.finish with ⟨form, startType, hFinish⟩
  rcases Form.finish_eq_ok_iff.mp hFinish with
    ⟨hStart, _, _, _, rfl⟩
  exact hStart

/- The restriction of a built request is sound. -/
theorem Built.sound
    {request : NeighborRequest}
    (hBuilt : request.Built) :
    request.restriction.Sound := by
  rcases hBuilt.finish with ⟨form, startType, hFinish⟩
  rcases Form.finish_eq_ok_iff.mp hFinish with
    ⟨_, _, restriction, hCheck, rfl⟩
  exact Restriction.sound_of_check hCheck

end NeighborRequest

end GraphClient

------------------------------------------------------------
-- Requests for Edges
------------------------------------------------------------

namespace GraphClient

namespace EdgeRequest

/- A request that a form gives, with a schema or without. -/
def Built
    (request : EdgeRequest) :
    Prop :=
  ∃ form : Form, form.build = .ok request ∨
    ∃ schema, Form.buildWith schema form = .ok request

/- A form gives a request when all of its parts pass. -/
theorem Form.build_eq_ok_iff
    {form : Form}
    {request : EdgeRequest} :
    form.build = .ok request ↔
      form.pattern.check = .ok () ∧
        ∃ restriction, form.restriction.check = .ok restriction ∧
          request =
            ⟨form.sourceTypes, form.pattern, restriction⟩ := by
  unfold build
  rw [Checks.next_eq_ok_iff, Checks.bind_eq_ok_iff]
  simp only [Checks.pure_eq_ok_iff]

/- A request that was built with a schema is built without. -/
theorem Built.build
    {request : EdgeRequest}
    (hBuilt : request.Built) :
    ∃ form : Form, form.build = .ok request := by
  rcases hBuilt with ⟨form, hBuild | ⟨schema, hBuild⟩⟩
  · exact ⟨form, hBuild⟩
  · unfold Form.buildWith at hBuild
    cases hTypes : form.checkTypes schema with
    | error e => simp [hTypes] at hBuild
    | ok u =>
        simp only [hTypes] at hBuild
        exact ⟨form, hBuild⟩

/- The pattern of a built request has passed its check. -/
theorem Built.check_pattern
    {request : EdgeRequest}
    (hBuilt : request.Built) :
    request.pattern.check = .ok () := by
  rcases hBuilt.build with ⟨form, hBuild⟩
  rcases Form.build_eq_ok_iff.mp hBuild with ⟨hPattern, _, _, rfl⟩
  exact hPattern

/- The restriction of a built request is sound. -/
theorem Built.sound
    {request : EdgeRequest}
    (hBuilt : request.Built) :
    request.restriction.Sound := by
  rcases hBuilt.build with ⟨form, hBuild⟩
  rcases Form.build_eq_ok_iff.mp hBuild with
    ⟨_, restriction, hCheck, rfl⟩
  exact Restriction.sound_of_check hCheck

end EdgeRequest

end GraphClient
