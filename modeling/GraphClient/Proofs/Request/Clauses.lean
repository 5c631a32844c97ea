import GraphClient.Request.Edge
import GraphClient.Request.Neighbor
import GraphClient.Request.Node
/-
  What the clauses of a form come to.

  Key definitions include:
    * `GraphClient.Clauses.Last`
    * `GraphClient.Clauses.Listed`
    * `GraphClient.Clauses.Reordered`
    * `GraphClient.NodeRequest.Form.Collects`
    * `GraphClient.NeighborRequest.Form.Collects`
    * `GraphClient.EdgeRequest.Form.Collects`

  Key theorems include:
    * `GraphClient.Clauses.foldl_reordered`
    * `GraphClient.NodeRequest.Form.collects_ofClauses`
    * `GraphClient.NeighborRequest.Form.collects_ofClauses`
    * `GraphClient.EdgeRequest.Form.collects_ofClauses`

  Of the clauses of one kind the last one counts, or all of them
  count, in their order.  Clauses of different kinds have nothing
  to do with each other, so that their order does not matter.
-/

------------------------------------------------------------
-- Clauses of One Kind
------------------------------------------------------------

namespace GraphClient

namespace Clauses

variable {C P S α β : Type}

/- The last clause of a kind says a value; without one none is said. -/
def Last
    (kind : α → C)
    (clauses : List C) :
    Option α → Prop
| none => ∀ a, kind a ∉ clauses
| some a =>
    ∃ before after,
      clauses = before ++ kind a :: after ∧ ∀ b, kind b ∉ after

/- The clauses of a kind list names, one list after the other. -/
inductive Listed
    (kind : List String → C) :
    List C → List String → Prop
| nil : Listed kind [] []
| more
    (names : List String)
    {clauses : List C}
    {rest : List String}
    (hRest : Listed kind clauses rest) :
    Listed kind (kind names :: clauses) (names ++ rest)
| other
    {clause : C}
    {clauses : List C}
    {names : List String}
    (hOther : ∀ names, clause ≠ kind names)
    (hRest : Listed kind clauses names) :
    Listed kind (clause :: clauses) names

/- Clauses of different kinds have changed places. -/
inductive Reordered
    (part : C → P) :
    List C → List C → Prop
| refl (clauses : List C) : Reordered part clauses clauses
| swap
    (before : List C)
    {first second : C}
    (hParts : part first ≠ part second)
    (after : List C)
    {others : List C}
    (hRest :
      Reordered part (before ++ second :: first :: after) others) :
    Reordered part (before ++ first :: second :: after) others

/- A value that the clauses of one kind replace, and no others. -/
structure Replaces
    (add : S → C → S)
    (kind : α → C)
    (put : α → β)
    (get : S → β) :
    Prop where
  set : ∀ s a, get (add s (kind a)) = put a
  keep :
    ∀ s clause, (∀ a, clause ≠ kind a) → get (add s clause) = get s

/- Names that the clauses of one kind append, and no others. -/
structure Appends
    (add : S → C → S)
    (kind : List String → C)
    (get : S → List String) :
    Prop where
  more : ∀ s names, get (add s (kind names)) = get s ++ names
  keep :
    ∀ s clause, (∀ names, clause ≠ kind names) →
      get (add s clause) = get s

/- A part to which the clauses of one kind are added, and no others. -/
structure Passes
    {D T : Type}
    (add : S → C → S)
    (kind : D → C)
    (addPart : T → D → T)
    (get : S → T) :
    Prop where
  pass : ∀ s d, get (add s (kind d)) = addPart (get s) d
  keep :
    ∀ s clause, (∀ d, clause ≠ kind d) → get (add s clause) = get s

end Clauses

end GraphClient

------------------------------------------------------------
-- Adding Clauses
------------------------------------------------------------

namespace GraphClient

namespace Clauses

variable {C D P S T α β : Type}
variable {add : S → C → S} {addPart : T → D → T}

/-
  A value that is replaced is what the last clause of its kind
  says, or else what it was before.
-/
theorem Replaces.exists_last
    {kind : α → C}
    {put : α → β}
    {get : S → β}
    (hReplaces : Replaces add kind put get)
    (s : S)
    (clauses : List C) :
    ∃ a?, Last kind clauses a? ∧
      get (clauses.foldl add s) = (a?.map put).getD (get s) := by
  induction clauses generalizing s with
  | nil => exact ⟨none, fun _ => List.not_mem_nil, rfl⟩
  | cons clause clauses ih =>
      rcases ih (add s clause) with ⟨a?, hLast, hGet⟩
      -- The first clause counts only if no later one is of its kind.
      cases a? with
      | some a =>
          rcases hLast with ⟨before, after, rfl, hAfter⟩
          exact ⟨some a, ⟨clause :: before, after, rfl, hAfter⟩, hGet⟩
      | none =>
          by_cases hClause : ∃ a, clause = kind a
          · rcases hClause with ⟨a, rfl⟩
            refine ⟨some a, ⟨[], clauses, rfl, hLast⟩, ?_⟩
            exact hGet.trans (hReplaces.set s a)
          · have hNone : ∀ a, clause ≠ kind a :=
              fun a hEq => hClause ⟨a, hEq⟩
            refine ⟨none, ?_,
              hGet.trans (hReplaces.keep s clause hNone)⟩
            intro a hMem
            rcases List.mem_cons.mp hMem with hHere | hThere
            · exact hNone a hHere.symm
            · exact hLast a hThere

/- A value that was not there is what the last clause says. -/
theorem Replaces.last
    {kind : α → C}
    {get : S → Option α}
    (hReplaces : Replaces add kind some get)
    {s : S}
    (hNone : get s = none)
    (clauses : List C) :
    Last kind clauses (get (clauses.foldl add s)) := by
  rcases hReplaces.exists_last s clauses with ⟨a?, hLast, hGet⟩
  rw [hGet, hNone]
  cases a? <;> exact hLast

/- A value with a default is what the last clause says, or that. -/
theorem Replaces.last_getD
    {kind : α → C}
    {get : S → α}
    (hReplaces : Replaces add kind id get)
    {s : S}
    {a : α}
    (hDefault : get s = a)
    (clauses : List C) :
    ∃ a?, Last kind clauses a? ∧
      get (clauses.foldl add s) = a?.getD a := by
  rcases hReplaces.exists_last s clauses with ⟨a?, hLast, hGet⟩
  rw [hDefault, Option.map_id] at hGet
  exact ⟨a?, hLast, hGet⟩

/- Names that are appended follow those that were there. -/
theorem Appends.exists_listed
    {kind : List String → C}
    {get : S → List String}
    (hAppends : Appends add kind get)
    (s : S)
    (clauses : List C) :
    ∃ names, Listed kind clauses names ∧
      get (clauses.foldl add s) = get s ++ names := by
  induction clauses generalizing s with
  | nil => exact ⟨[], .nil, (List.append_nil _).symm⟩
  | cons clause clauses ih =>
      rcases ih (add s clause) with ⟨rest, hListed, hGet⟩
      by_cases hClause : ∃ names, clause = kind names
      · rcases hClause with ⟨names, rfl⟩
        refine ⟨names ++ rest, .more names hListed, ?_⟩
        rw [hAppends.more, List.append_assoc] at hGet
        exact hGet
      · have hNone : ∀ names, clause ≠ kind names :=
          fun names hEq => hClause ⟨names, hEq⟩
        refine ⟨rest, .other hNone hListed, ?_⟩
        rw [hAppends.keep s clause hNone] at hGet
        exact hGet

/- If no names were there, they are all that are listed. -/
theorem Appends.listed
    {kind : List String → C}
    {get : S → List String}
    (hAppends : Appends add kind get)
    {s : S}
    (hNone : get s = [])
    (clauses : List C) :
    Listed kind clauses (get (clauses.foldl add s)) := by
  rcases hAppends.exists_listed s clauses with
    ⟨names, hListed, hGet⟩
  rw [hGet, hNone]
  exact hListed

/- What is kept of a part is kept of the whole. -/
theorem Passes.keep_part
    {kind : D → C}
    {get : S → T}
    (hPasses : Passes add kind addPart get)
    {own : α → D}
    {part : T → β}
    (hKeep :
      ∀ t d, (∀ a, d ≠ own a) → part (addPart t d) = part t)
    (s : S)
    (clause : C)
    (hClause : ∀ a, clause ≠ kind (own a)) :
    part (get (add s clause)) = part (get s) := by
  by_cases hPassed : ∃ d, clause = kind d
  · rcases hPassed with ⟨d, rfl⟩
    rw [hPasses.pass]
    exact hKeep _ d (fun a hEq => hClause a (congrArg kind hEq))
  · rw [hPasses.keep s clause (fun d hEq => hPassed ⟨d, hEq⟩)]

/- What is replaced in a part is replaced in the whole. -/
theorem Passes.replaces
    {kind : D → C}
    {get : S → T}
    (hPasses : Passes add kind addPart get)
    {own : α → D}
    {put : α → β}
    {part : T → β}
    (hReplaces : Replaces addPart own put part) :
    Replaces add (fun a => kind (own a)) put
      (fun s => part (get s)) where
  set s a := by
    rw [hPasses.pass]
    exact hReplaces.set _ a
  keep := hPasses.keep_part hReplaces.keep

/- What is appended to a part is appended to the whole. -/
theorem Passes.appends
    {kind : D → C}
    {get : S → T}
    (hPasses : Passes add kind addPart get)
    {own : List String → D}
    {part : T → List String}
    (hAppends : Appends addPart own part) :
    Appends add (fun names => kind (own names))
      (fun s => part (get s)) where
  more s names := by
    rw [hPasses.pass]
    exact hAppends.more _ names
  keep := hPasses.keep_part hAppends.keep

/-
  If clauses of different kinds can be added in either order,
  clauses that were reordered come to the same.
-/
theorem foldl_reordered
    {part : C → P}
    {clauses others : List C}
    (hSwap :
      ∀ s first second, part first ≠ part second →
        add (add s first) second = add (add s second) first)
    (hReordered : Reordered part clauses others)
    (s : S) :
    clauses.foldl add s = others.foldl add s := by
  induction hReordered with
  | refl => rfl
  | swap before hParts after _ ih =>
      rw [← ih]
      simp only [List.foldl_append, List.foldl_cons]
      rw [hSwap _ _ _ hParts]

end Clauses

end GraphClient

------------------------------------------------------------
-- Restrictions
------------------------------------------------------------

namespace GraphClient

namespace Restriction

open Clauses (Last Passes Replaces)

variable {C S : Type}

/- The parts of a restriction. -/
inductive Part
| filter
| projection
| limit

/- The part that a clause replaces. -/
def Clause.part : Clause → Part
| .filter _ => .filter
| .projection _ => .projection
| .limit _ => .limit

/- A restriction has what the last clause of each kind says. -/
structure Collects
    (kind : Clause → C)
    (clauses : List C)
    (r : Restriction) :
    Prop where
  filter :
    Last (fun text => kind (.filter text)) clauses r.filter?
  projection :
    Last (fun names => kind (.projection names)) clauses
      r.projection?
  limit : Last (fun n => kind (.limit n)) clauses r.limit?

/- Clauses for the filter replace it. -/
theorem replaces_filter :
    Replaces add Clause.filter some filter? where
  set _ _ := rfl
  keep := by
    intro r clause hOther
    cases clause with
    | filter text => exact (hOther text rfl).elim
    | projection => rfl
    | limit => rfl

/- Clauses for the projection replace it. -/
theorem replaces_projection :
    Replaces add Clause.projection some projection? where
  set _ _ := rfl
  keep := by
    intro r clause hOther
    cases clause with
    | filter => rfl
    | projection names => exact (hOther names rfl).elim
    | limit => rfl

/- Clauses for the limit replace it. -/
theorem replaces_limit :
    Replaces add Clause.limit some limit? where
  set _ _ := rfl
  keep := by
    intro r clause hOther
    cases clause with
    | filter => rfl
    | projection => rfl
    | limit n => exact (hOther n rfl).elim

/- The restriction in a form collects its clauses. -/
theorem collects_foldl
    {addForm : S → C → S}
    {kind : Clause → C}
    {get : S → Restriction}
    (hPasses : Passes addForm kind add get)
    {s : S}
    (hNone : get s = .none)
    (clauses : List C) :
    Collects kind clauses (get (clauses.foldl addForm s)) where
  filter :=
    (hPasses.replaces replaces_filter).last
      (congrArg filter? hNone) clauses
  projection :=
    (hPasses.replaces replaces_projection).last
      (congrArg projection? hNone) clauses
  limit :=
    (hPasses.replaces replaces_limit).last
      (congrArg limit? hNone) clauses

/- Clauses for different parts may be added in either order. -/
theorem add_swap
    (r : Restriction)
    {first second : Clause}
    (hParts : first.part ≠ second.part) :
    (r.add first).add second = (r.add second).add first := by
  cases first <;> cases second <;>
    first
    | rfl
    | exact (hParts rfl).elim

end Restriction

end GraphClient

------------------------------------------------------------
-- Patterns
------------------------------------------------------------

namespace GraphClient

namespace Pattern

open Clauses (Appends Last Listed Passes Replaces)

variable {C S : Type}

/- The parts of a pattern. -/
inductive Part
| startAlias
| edgeTypes
| edgeAlias
| targetTypes
| targetAlias

/- The part that a clause replaces or adds to. -/
def Clause.part : Clause → Part
| .startAlias _ => .startAlias
| .edgeTypes _ => .edgeTypes
| .edgeAlias _ => .edgeAlias
| .targetTypes _ => .targetTypes
| .targetAlias _ => .targetAlias

/-
  A pattern has the alias that the last clause of each kind says,
  if there is one, and all types that are listed.
-/
structure Collects
    (kind : Clause → C)
    (clauses : List C)
    (p : Pattern) :
    Prop where
  startAlias :
    ∃ name?, Last (fun name => kind (.startAlias name)) clauses name? ∧
      p.startAlias = name?.getD "s"
  edgeTypes :
    Listed (fun names => kind (.edgeTypes names)) clauses p.edgeTypes
  edgeAlias :
    ∃ name?, Last (fun name => kind (.edgeAlias name)) clauses name? ∧
      p.edgeAlias = name?.getD "e"
  targetTypes :
    Listed (fun names => kind (.targetTypes names)) clauses
      p.targetTypes
  targetAlias :
    ∃ name?, Last (fun name => kind (.targetAlias name)) clauses name? ∧
      p.targetAlias = name?.getD "t"

/- Clauses for the first alias replace it. -/
theorem replaces_startAlias :
    Replaces add Clause.startAlias id startAlias where
  set _ _ := rfl
  keep := by
    intro p clause hOther
    cases clause with
    | startAlias name => exact (hOther name rfl).elim
    | _ => rfl

/- Clauses for the alias of the edge replace it. -/
theorem replaces_edgeAlias :
    Replaces add Clause.edgeAlias id edgeAlias where
  set _ _ := rfl
  keep := by
    intro p clause hOther
    cases clause with
    | edgeAlias name => exact (hOther name rfl).elim
    | _ => rfl

/- Clauses for the second alias replace it. -/
theorem replaces_targetAlias :
    Replaces add Clause.targetAlias id targetAlias where
  set _ _ := rfl
  keep := by
    intro p clause hOther
    cases clause with
    | targetAlias name => exact (hOther name rfl).elim
    | _ => rfl

/- Clauses for the types of edges append to them. -/
theorem appends_edgeTypes :
    Appends add Clause.edgeTypes edgeTypes where
  more _ _ := rfl
  keep := by
    intro p clause hOther
    cases clause with
    | edgeTypes names => exact (hOther names rfl).elim
    | _ => rfl

/- Clauses for the types of targets append to them. -/
theorem appends_targetTypes :
    Appends add Clause.targetTypes targetTypes where
  more _ _ := rfl
  keep := by
    intro p clause hOther
    cases clause with
    | targetTypes names => exact (hOther names rfl).elim
    | _ => rfl

/- The pattern in a form collects its clauses. -/
theorem collects_foldl
    {addForm : S → C → S}
    {kind : Clause → C}
    {get : S → Pattern}
    (hPasses : Passes addForm kind add get)
    {s : S}
    (hAny : get s = .any)
    (clauses : List C) :
    Collects kind clauses (get (clauses.foldl addForm s)) where
  startAlias :=
    (hPasses.replaces replaces_startAlias).last_getD
      (congrArg startAlias hAny) clauses
  edgeTypes :=
    (hPasses.appends appends_edgeTypes).listed
      (congrArg edgeTypes hAny) clauses
  edgeAlias :=
    (hPasses.replaces replaces_edgeAlias).last_getD
      (congrArg edgeAlias hAny) clauses
  targetTypes :=
    (hPasses.appends appends_targetTypes).listed
      (congrArg targetTypes hAny) clauses
  targetAlias :=
    (hPasses.replaces replaces_targetAlias).last_getD
      (congrArg targetAlias hAny) clauses

/- Clauses for different parts may be added in either order. -/
theorem add_swap
    (p : Pattern)
    {first second : Clause}
    (hParts : first.part ≠ second.part) :
    (p.add first).add second = (p.add second).add first := by
  cases first <;> cases second <;>
    first
    | rfl
    | exact (hParts rfl).elim

end Pattern

end GraphClient

------------------------------------------------------------
-- Forms for Nodes
------------------------------------------------------------

namespace GraphClient

namespace NodeRequest

open Clauses (Last Passes Replaces)

/- The parts of a form for nodes. -/
inductive Part
| type
| allTypes
| nodeAlias
| restriction (part : Restriction.Part)

/- The part that a clause says something of. -/
def Clause.part : Clause → Part
| .type _ => .type
| .allTypes => .allTypes
| .nodeAlias _ => .nodeAlias
| .restrict clause => .restriction clause.part

namespace Form

/-
  A form for nodes has what the last clause of each kind says; it
  wants all types if any clause says so.
-/
structure Collects
    (clauses : List Clause)
    (form : Form) :
    Prop where
  type : Last Clause.type clauses form.type?
  wantsAll : form.wantsAll = true ↔ Clause.allTypes ∈ clauses
  nodeAlias :
    ∃ name?, Last Clause.nodeAlias clauses name? ∧
      form.nodeAlias = name?.getD "s"
  restriction :
    Restriction.Collects Clause.restrict clauses form.restriction

/- Clauses for the type replace it. -/
theorem replaces_type :
    Replaces add Clause.type some type? where
  set _ _ := rfl
  keep := by
    intro form clause hOther
    cases clause with
    | type name => exact (hOther name rfl).elim
    | _ => rfl

/- Clauses for the alias replace it. -/
theorem replaces_nodeAlias :
    Replaces add Clause.nodeAlias id nodeAlias where
  set _ _ := rfl
  keep := by
    intro form clause hOther
    cases clause with
    | nodeAlias name => exact (hOther name rfl).elim
    | _ => rfl

/- Other clauses are for the restriction. -/
theorem passes_restriction :
    Passes add Clause.restrict Restriction.add restriction where
  pass _ _ := rfl
  keep := by
    intro form clause hOther
    cases clause with
    | restrict clause => exact (hOther clause rfl).elim
    | _ => rfl

/- All types are wanted from the first clause for it on. -/
theorem wantsAll_foldl
    (form : Form)
    (clauses : List Clause) :
    (clauses.foldl add form).wantsAll = true ↔
      form.wantsAll = true ∨ Clause.allTypes ∈ clauses := by
  induction clauses generalizing form with
  | nil => simp
  | cons clause clauses ih =>
      rw [List.foldl_cons, ih, List.mem_cons]
      cases clause <;> simp [add]

/- A form has what its clauses say. -/
theorem collects_ofClauses
    (clauses : List Clause) :
    Collects clauses (ofClauses clauses) where
  type := replaces_type.last rfl clauses
  wantsAll := by
    rw [ofClauses, wantsAll_foldl]
    simp [blank]
  nodeAlias := replaces_nodeAlias.last_getD rfl clauses
  restriction :=
    Restriction.collects_foldl passes_restriction rfl clauses

/- Clauses for different parts may be added in either order. -/
theorem add_swap
    (form : Form)
    {first second : Clause}
    (hParts : first.part ≠ second.part) :
    (form.add first).add second = (form.add second).add first := by
  cases first with
  | restrict clause =>
      cases second with
      | restrict other =>
          have hInner : clause.part ≠ other.part :=
            fun hEq => hParts (congrArg Part.restriction hEq)
          simp [add, Restriction.add_swap _ hInner]
      | _ => rfl
  | _ =>
      cases second <;>
        first
        | rfl
        | exact (hParts rfl).elim

end Form

end NodeRequest

end GraphClient

------------------------------------------------------------
-- Forms for Neighbors
------------------------------------------------------------

namespace GraphClient

namespace NeighborRequest

open Clauses (Last Passes Replaces)

/- The parts of a form for neighbors. -/
inductive Part
| startType
| pattern (part : Pattern.Part)
| restriction (part : Restriction.Part)

/- The part that a clause says something of. -/
def Clause.part : Clause → Part
| .startType _ => .startType
| .pattern clause => .pattern clause.part
| .restrict clause => .restriction clause.part

namespace Form

/- A form for neighbors has its start nodes, and what clauses say. -/
structure Collects
    (startNodes : List String)
    (clauses : List Clause)
    (form : Form) :
    Prop where
  startNodes : form.startNodes = startNodes
  startType : Last Clause.startType clauses form.startType?
  pattern : Pattern.Collects Clause.pattern clauses form.pattern
  restriction :
    Restriction.Collects Clause.restrict clauses form.restriction

/- Clauses for the start type replace it. -/
theorem replaces_startType :
    Replaces add Clause.startType some startType? where
  set _ _ := rfl
  keep := by
    intro form clause hOther
    cases clause with
    | startType name => exact (hOther name rfl).elim
    | _ => rfl

/- Some clauses are for the pattern. -/
theorem passes_pattern :
    Passes add Clause.pattern Pattern.add pattern where
  pass _ _ := rfl
  keep := by
    intro form clause hOther
    cases clause with
    | pattern clause => exact (hOther clause rfl).elim
    | _ => rfl

/- Some clauses are for the restriction. -/
theorem passes_restriction :
    Passes add Clause.restrict Restriction.add restriction where
  pass _ _ := rfl
  keep := by
    intro form clause hOther
    cases clause with
    | restrict clause => exact (hOther clause rfl).elim
    | _ => rfl

/- No clause is for the start nodes. -/
theorem startNodes_foldl
    (form : Form)
    (clauses : List Clause) :
    (clauses.foldl add form).startNodes = form.startNodes := by
  induction clauses generalizing form with
  | nil => rfl
  | cons clause clauses ih =>
      rw [List.foldl_cons, ih]
      cases clause <;> rfl

/- A form has what its clauses say. -/
theorem collects_ofClauses
    (startNodes : List String)
    (clauses : List Clause) :
    Collects startNodes clauses (ofClauses startNodes clauses) where
  startNodes := startNodes_foldl _ clauses
  startType := replaces_startType.last rfl clauses
  pattern := Pattern.collects_foldl passes_pattern rfl clauses
  restriction :=
    Restriction.collects_foldl passes_restriction rfl clauses

/- Clauses for different parts may be added in either order. -/
theorem add_swap
    (form : Form)
    {first second : Clause}
    (hParts : first.part ≠ second.part) :
    (form.add first).add second = (form.add second).add first := by
  cases first with
  | startType =>
      cases second with
      | startType => exact (hParts rfl).elim
      | _ => rfl
  | pattern clause =>
      cases second with
      | pattern other =>
          have hInner : clause.part ≠ other.part :=
            fun hEq => hParts (congrArg Part.pattern hEq)
          simp [add, Pattern.add_swap _ hInner]
      | _ => rfl
  | restrict clause =>
      cases second with
      | restrict other =>
          have hInner : clause.part ≠ other.part :=
            fun hEq => hParts (congrArg Part.restriction hEq)
          simp [add, Restriction.add_swap _ hInner]
      | _ => rfl

end Form

end NeighborRequest

end GraphClient

------------------------------------------------------------
-- Forms for Edges
------------------------------------------------------------

namespace GraphClient

namespace EdgeRequest

open Clauses (Appends Listed Passes)

/- The parts of a form for edges. -/
inductive Part
| sourceTypes
| pattern (part : Pattern.Part)
| restriction (part : Restriction.Part)

/- The part that a clause says something of. -/
def Clause.part : Clause → Part
| .sourceTypes _ => .sourceTypes
| .pattern clause => .pattern clause.part
| .restrict clause => .restriction clause.part

namespace Form

/- A form for edges has what its clauses say. -/
structure Collects
    (clauses : List Clause)
    (form : Form) :
    Prop where
  sourceTypes : Listed Clause.sourceTypes clauses form.sourceTypes
  pattern : Pattern.Collects Clause.pattern clauses form.pattern
  restriction :
    Restriction.Collects Clause.restrict clauses form.restriction

/- Clauses for the types of sources append to them. -/
theorem appends_sourceTypes :
    Appends add Clause.sourceTypes sourceTypes where
  more _ _ := rfl
  keep := by
    intro form clause hOther
    cases clause with
    | sourceTypes names => exact (hOther names rfl).elim
    | _ => rfl

/- Some clauses are for the pattern. -/
theorem passes_pattern :
    Passes add Clause.pattern Pattern.add pattern where
  pass _ _ := rfl
  keep := by
    intro form clause hOther
    cases clause with
    | pattern clause => exact (hOther clause rfl).elim
    | _ => rfl

/- Some clauses are for the restriction. -/
theorem passes_restriction :
    Passes add Clause.restrict Restriction.add restriction where
  pass _ _ := rfl
  keep := by
    intro form clause hOther
    cases clause with
    | restrict clause => exact (hOther clause rfl).elim
    | _ => rfl

/- A form has what its clauses say. -/
theorem collects_ofClauses
    (clauses : List Clause) :
    Collects clauses (ofClauses clauses) where
  sourceTypes := appends_sourceTypes.listed rfl clauses
  pattern := Pattern.collects_foldl passes_pattern rfl clauses
  restriction :=
    Restriction.collects_foldl passes_restriction rfl clauses

/- Clauses for different parts may be added in either order. -/
theorem add_swap
    (form : Form)
    {first second : Clause}
    (hParts : first.part ≠ second.part) :
    (form.add first).add second = (form.add second).add first := by
  cases first with
  | sourceTypes =>
      cases second with
      | sourceTypes => exact (hParts rfl).elim
      | _ => rfl
  | pattern clause =>
      cases second with
      | pattern other =>
          have hInner : clause.part ≠ other.part :=
            fun hEq => hParts (congrArg Part.pattern hEq)
          simp [add, Pattern.add_swap _ hInner]
      | _ => rfl
  | restrict clause =>
      cases second with
      | restrict other =>
          have hInner : clause.part ≠ other.part :=
            fun hEq => hParts (congrArg Part.restriction hEq)
          simp [add, Restriction.add_swap _ hInner]
      | _ => rfl

end Form

end EdgeRequest

end GraphClient
