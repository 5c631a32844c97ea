import GraphClient.Proofs.Text.Splitting
import GraphClient.Query.Compile
/-
  Reading the types in patterns and seeds.

  Key definitions include:
    * `GraphClient.Text.IsEdgeName`
    * `GraphClient.Query.Spells`
    * `GraphClient.Pattern.Legible`

  Key theorems include:
    * `GraphClient.Query.Spells.unique`
    * `GraphClient.Query.seedSource_inj`
    * `GraphClient.Query.patternText_inj`

  No types, one type and several types are spelled in different
  ways.  The spellings do not overlap as long as the names of
  types have none of the characters that stand around them.
-/

------------------------------------------------------------
-- Names of Edge Types
------------------------------------------------------------

namespace GraphClient

namespace Text

/- An identifier, with a direction before or behind it or without. -/
def IsEdgeName
    (s : String) :
    Prop :=
  ∃ name, isIdentifier name = true ∧
    (s = name ∨ s = "<" ++ name ∨ s = name ++ ">")

/- An identifier without direction names an edge type. -/
theorem IsEdgeName.of_isIdentifier
    {s : String}
    (hName : isIdentifier s = true) :
    IsEdgeName s :=
  ⟨s, hName, Or.inl rfl⟩

/- The name of an edge type is not empty. -/
theorem IsEdgeName.ne_empty
    {s : String}
    (hEdge : IsEdgeName s) :
    s ≠ "" := by
  rcases hEdge with ⟨name, hName, rfl | rfl | rfl⟩
  · exact ne_empty_of_isIdentifier hName
  · simp
  · simp

/- An edge type lacks what is neither name nor direction. -/
theorem IsEdgeName.lacks
    {c : Char}
    (hChar : continuesIdentifier c = false)
    (hBackward : Lacks c "<")
    (hForward : Lacks c ">")
    {s : String}
    (hEdge : IsEdgeName s) :
    Lacks c s := by
  rcases hEdge with ⟨name, hName, rfl | rfl | rfl⟩
  · exact lacks_of_isIdentifier hChar hName
  · exact (lacks_append c "<" name).mpr
      ⟨hBackward, lacks_of_isIdentifier hChar hName⟩
  · exact (lacks_append c name ">").mpr
      ⟨lacks_of_isIdentifier hChar hName, hForward⟩

end Text

end GraphClient

------------------------------------------------------------
-- Alternatives
------------------------------------------------------------

namespace GraphClient

open Text (Lacks)

namespace Query

/- How a list of types is spelled: not at all, bare or as a choice. -/
def Spells
    (names : List String)
    (text : String) :
    Prop :=
  (names = [] ∧ text = "") ∨
    names = [text] ∨
    (names ≠ [] ∧ text = choice names)

/- Edge types are spelled in one of these ways. -/
theorem spells_edgeTypesText
    (names : List String) :
    Spells names (edgeTypesText names) := by
  match names with
  | [] => exact Or.inl ⟨rfl, rfl⟩
  | [name] =>
      unfold edgeTypesText
      by_cases hDirected : isDirected name = true
      · simp only [hDirected, if_true]
        exact Or.inr (Or.inr ⟨by simp, rfl⟩)
      · simp only [hDirected]
        exact Or.inr (Or.inl rfl)
  | first :: second :: names =>
      exact Or.inr (Or.inr ⟨by simp, rfl⟩)

/- Node types are spelled in one of these ways. -/
theorem spells_nodeTypesText
    (names : List String) :
    Spells names (nodeTypesText names) := by
  match names with
  | [] => exact Or.inl ⟨rfl, rfl⟩
  | [name] => exact Or.inr (Or.inl rfl)
  | first :: second :: names =>
      exact Or.inr (Or.inr ⟨by simp, rfl⟩)

/- A choice has a parenthesis. -/
theorem not_lacks_choice
    (names : List String) :
    ¬ Lacks '(' (choice names) := by
  have hOpen : ("(" : String).toList.head? = some '(' := rfl
  simp [choice, Text.not_lacks_of_head? hOpen]

/- A choice names no edge type. -/
theorem not_isEdgeName_choice
    (names : List String) :
    ¬ Text.IsEdgeName (choice names) := by
  intro hEdge
  exact not_lacks_choice names
    (hEdge.lacks (by decide) (by decide) (by decide))

/- Choices that are spelled alike offer the same. -/
theorem choice_inj
    {names others : List String}
    (hNames : ∀ name ∈ names, Text.IsEdgeName name)
    (hOthers : ∀ name ∈ others, Text.IsEdgeName name)
    (hEq : choice names = choice others) :
    names = others := by
  have hBar : ("|" : String).toList.head? = some '|' := rfl
  have hPart :
      ∀ name : String, Text.IsEdgeName name →
        name ≠ "" ∧ Lacks '|' name := by
    intro name hEdge
    exact ⟨hEdge.ne_empty,
      hEdge.lacks (by decide) (by decide) (by decide)⟩
  simp only [choice, String.append_left_inj,
    String.append_right_inj] at hEq
  exact Text.join_inj hBar
    (fun name hName => hPart name (hNames name hName))
    (fun name hName => hPart name (hOthers name hName)) hEq

/- Lists of types that are spelled alike are the same list. -/
theorem Spells.unique
    {names others : List String}
    (hNames : ∀ name ∈ names, Text.IsEdgeName name)
    (hOthers : ∀ name ∈ others, Text.IsEdgeName name)
    {text : String}
    (hSpells : Spells names text)
    (hSpellsToo : Spells others text) :
    names = others := by
  have hEmpty : ∀ names, "" ≠ choice names := by
    intro names hEq
    have hLacks : Lacks '(' "" := by decide
    rw [hEq] at hLacks
    exact not_lacks_choice names hLacks
  rcases hSpells with ⟨rfl, rfl⟩ | rfl | ⟨_, rfl⟩
  · rcases hSpellsToo with ⟨rfl, _⟩ | rfl | ⟨_, hChoice⟩
    · rfl
    · exact ((hOthers "" (by simp)).ne_empty rfl).elim
    · exact (hEmpty others hChoice).elim
  · rcases hSpellsToo with ⟨_, rfl⟩ | rfl | ⟨_, rfl⟩
    · exact ((hNames "" (by simp)).ne_empty rfl).elim
    · rfl
    · exact (not_isEdgeName_choice others
        (hNames _ (by simp))).elim
  · rcases hSpellsToo with ⟨_, hChoice⟩ | rfl | ⟨_, hChoice⟩
    · exact (hEmpty names hChoice.symm).elim
    · exact (not_isEdgeName_choice names
        (hOthers _ (by simp))).elim
    · exact choice_inj hNames hOthers hChoice

/- Spelled types lack what is neither in names nor around them. -/
theorem Spells.lacks
    {c : Char}
    (hChar : Text.continuesIdentifier c = false)
    (hMarks : ∀ s ∈ ["<", ">", "(", "|", ")"], Lacks c s)
    {names : List String}
    (hNames : ∀ name ∈ names, Text.IsEdgeName name)
    {text : String}
    (hSpells : Spells names text) :
    Lacks c text := by
  have hPart : ∀ name ∈ names, Lacks c name := by
    intro name hName
    exact (hNames name hName).lacks hChar
      (hMarks "<" (by simp)) (hMarks ">" (by simp))
  rcases hSpells with ⟨_, rfl⟩ | rfl | ⟨_, rfl⟩
  · simp [Lacks]
  · exact hPart text (by simp)
  · simp only [choice, Text.lacks_append]
    exact ⟨⟨hMarks "(" (by simp),
      Text.lacks_join (hMarks "|" (by simp)) hPart⟩,
      hMarks ")" (by simp)⟩

end Query

end GraphClient

------------------------------------------------------------
-- Seeds
------------------------------------------------------------

namespace GraphClient

open Text (Lacks)

namespace Query

/- A named type in a seed lacks what is not in names. -/
theorem lacks_seedSource
    {c : Char}
    (hChar : Text.continuesIdentifier c = false)
    (hMarks : ∀ s ∈ ["ANY", ", ", ".*"], Lacks c s)
    {types : List String}
    (hTypes : ∀ type ∈ types, Text.isIdentifier type = true) :
    Lacks c (seedSource types) := by
  unfold seedSource
  cases types with
  | nil => exact hMarks "ANY" (by simp)
  | cons type types =>
      simp only [List.isEmpty_cons, Bool.false_eq_true, if_false]
      apply Text.lacks_join (hMarks ", " (by simp))
      rw [List.forall_mem_map]
      intro name hName
      exact (Text.lacks_append c name ".*").mpr
        ⟨Text.lacks_of_isIdentifier hChar (hTypes name hName),
          hMarks ".*" (by simp)⟩

/- Seeds that are spelled alike have the same types. -/
theorem seedSource_inj
    {types others : List String}
    (hTypes : ∀ type ∈ types, Text.isIdentifier type = true)
    (hOthers : ∀ type ∈ others, Text.isIdentifier type = true)
    (hEq : seedSource types = seedSource others) :
    types = others := by
  have hComma : (", " : String).toList.head? = some ',' := rfl
  have hPoint : (".*" : String).toList.head? = some '.' := rfl
  have hAny :
      ∀ (type : String) (types : List String),
        seedSource [] ≠ seedSource (type :: types) := by
    intro type types hEq
    have hLacks : Lacks '.' (seedSource []) := by decide
    rw [hEq] at hLacks
    cases types <;>
      simp [seedSource, Text.join,
        Text.not_lacks_of_head? hPoint] at hLacks
  have hPart :
      ∀ names : List String,
        (∀ name ∈ names, Text.isIdentifier name = true) →
          ∀ part ∈ names.map (fun name => name ++ ".*"),
            part ≠ "" ∧ Lacks ',' part := by
    intro names hNames
    rw [List.forall_mem_map]
    intro name hName
    refine ⟨by simp, (Text.lacks_append ',' name ".*").mpr ⟨?_, ?_⟩⟩
    · exact Text.lacks_of_isIdentifier (by decide)
        (hNames name hName)
    · decide
  cases types with
  | nil =>
      cases others with
      | nil => rfl
      | cons other others => exact (hAny other others hEq).elim
  | cons type types =>
      cases others with
      | nil => exact (hAny type types hEq.symm).elim
      | cons other others =>
          have hMap :=
            Text.join_inj hComma (hPart _ hTypes)
              (hPart _ hOthers) hEq
          refine (List.map_inj_right ?_).mp hMap
          intro first second hBoth
          exact (String.append_left_inj ".*").mp hBoth

end Query

end GraphClient

------------------------------------------------------------
-- Patterns
------------------------------------------------------------

namespace GraphClient

open Text (Lacks)

/-
  A pattern whose node types are identifiers, and whose edge
  types are identifiers that may carry a direction.
-/
structure Pattern.Legible (p : Pattern) : Prop where
  edgeTypes : ∀ name ∈ p.edgeTypes, Text.IsEdgeName name
  targetTypes :
    ∀ name ∈ p.targetTypes, Text.isIdentifier name = true

namespace Query

/- A legible pattern has no line break. -/
theorem lacks_patternText
    {start : String}
    (hStart : Lacks '\n' start)
    {p : Pattern}
    (hAliases : ∀ name ∈ p.aliases, Text.isIdentifier name = true)
    (hLegible : p.Legible) :
    Lacks '\n' (patternText start p) := by
  have hAlias : ∀ name ∈ p.aliases, Lacks '\n' name :=
    fun name hMem =>
      Text.lacks_of_isIdentifier (by decide) (hAliases name hMem)
  have hEdgeTypes : Lacks '\n' (edgeTypesText p.edgeTypes) :=
    (spells_edgeTypesText p.edgeTypes).lacks (by decide)
      (by decide) hLegible.edgeTypes
  have hTargetTypes : Lacks '\n' (nodeTypesText p.targetTypes) :=
    (spells_nodeTypesText p.targetTypes).lacks (by decide)
      (by decide) (fun name hMem =>
        .of_isIdentifier (hLegible.targetTypes name hMem))
  simp +decide [patternText, edgeStep, nodeStep, hStart,
    hAlias p.startAlias (by simp [Pattern.aliases]), hEdgeTypes,
    hAlias p.edgeAlias (by simp [Pattern.aliases]), hTargetTypes,
    hAlias p.targetAlias (by simp [Pattern.aliases])]

/- Legible patterns that are spelled alike are the same. -/
theorem patternText_inj
    {start : String}
    {p q : Pattern}
    (hPAliases : ∀ name ∈ p.aliases, Text.isIdentifier name = true)
    (hQAliases : ∀ name ∈ q.aliases, Text.isIdentifier name = true)
    (hP : p.Legible)
    (hQ : q.Legible)
    (hEq : patternText start p = patternText start q) :
    p = q := by
  have hBlank : (" " : String).toList.head? = some ' ' := rfl
  have hColon : (":" : String).toList.head? = some ':' := rfl
  have hClose : (")-" : String).toList.head? = some ')' := rfl
  have hAlias :
      ∀ (p : Pattern) (c : Char),
        (∀ name ∈ p.aliases, Text.isIdentifier name = true) →
        Text.continuesIdentifier c = false →
        ∀ name ∈ p.aliases, Lacks c name :=
    fun p c hNames hChar name hMem =>
      Text.lacks_of_isIdentifier hChar (hNames name hMem)
  have hTargets :
      ∀ p : Pattern, p.Legible →
        ∀ name ∈ p.targetTypes, Text.IsEdgeName name :=
    fun p hLegible name hMem =>
      .of_isIdentifier (hLegible.targetTypes name hMem)
  simp only [patternText, edgeStep, nodeStep, String.append_assoc,
    String.append_right_inj] at hEq
  -- the parts from left to right, each up to what ends it
  have hStart :=
    Text.append_inj hBlank
      (hAlias p ' ' hPAliases (by decide) _ (by simp [Pattern.aliases]))
      (hAlias q ' ' hQAliases (by decide) _ (by simp [Pattern.aliases]))
      hEq
  have hEdgeTypes :=
    Text.append_inj hColon
      ((spells_edgeTypesText p.edgeTypes).lacks (by decide)
        (by decide) hP.edgeTypes)
      ((spells_edgeTypesText q.edgeTypes).lacks (by decide)
        (by decide) hQ.edgeTypes)
      ((String.append_right_inj _).mp hStart.2)
  have hEdge :=
    Text.append_inj hClose
      (hAlias p ')' hPAliases (by decide) _ (by simp [Pattern.aliases]))
      (hAlias q ')' hQAliases (by decide) _ (by simp [Pattern.aliases]))
      hEdgeTypes.2
  have hTargetTypes :=
    Text.append_inj hColon
      ((spells_nodeTypesText p.targetTypes).lacks (by decide)
        (by decide) (hTargets p hP))
      ((spells_nodeTypesText q.targetTypes).lacks (by decide)
        (by decide) (hTargets q hQ))
      ((String.append_right_inj _).mp hEdge.2)
  have hSameEdges : p.edgeTypes = q.edgeTypes := by
    have hSpells := spells_edgeTypesText q.edgeTypes
    rw [← hEdgeTypes.1] at hSpells
    exact (spells_edgeTypesText p.edgeTypes).unique
      hP.edgeTypes hQ.edgeTypes hSpells
  have hSameTargets : p.targetTypes = q.targetTypes := by
    have hSpells := spells_nodeTypesText q.targetTypes
    rw [← hTargetTypes.1] at hSpells
    exact (spells_nodeTypesText p.targetTypes).unique
      (hTargets p hP) (hTargets q hQ) hSpells
  rcases p with ⟨startAlias, edgeTypes, edgeAlias, targetTypes, _⟩
  rw [Pattern.mk.injEq]
  exact ⟨hStart.1, hSameEdges, hEdge.1, hSameTargets,
    hTargetTypes.2⟩

end Query

end GraphClient
