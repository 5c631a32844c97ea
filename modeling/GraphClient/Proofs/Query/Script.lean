import GraphClient.Proofs.Text.Splitting
import GraphClient.Query.Script
/-
  Reading the lines of scripts.

  Key definitions include:
    * `GraphClient.Script.Unbroken`

  Key theorems include:
    * `GraphClient.Script.lines_of_text`
    * `GraphClient.Script.commaLines_inj`
    * `GraphClient.Script.Selection.lines_inj`
    * `GraphClient.Script.Output.nodes_lines_inj`

  A clause that is absent has no line, so the clauses of a
  selection are told apart by the first characters of their
  lines.  What is filtered or matched plays no part in that.
-/

------------------------------------------------------------
-- Scripts without Line Breaks
------------------------------------------------------------

namespace GraphClient

open Text (Lacks)

namespace Script

/- The parts of a selection have no line breaks. -/
structure Selection.Unbroken (s : Selection) : Prop where
  name : Lacks '\n' s.name
  selected : Lacks '\n' s.selected
  pattern : Lacks '\n' s.pattern
  filter : ∀ filter ∈ s.filter?, Lacks '\n' filter
  collect : ∀ collect ∈ s.collect?, Lacks '\n' collect

/- The parts of an output have no line breaks. -/
def Output.Unbroken : Output → Prop
| .nodes name projection? =>
    Lacks '\n' name ∧
      ∀ names ∈ projection?, ∀ name ∈ names, Lacks '\n' name
| .collected accumulator label =>
    Lacks '\n' accumulator ∧ Lacks '\n' label

/- The parts of a script have no line breaks. -/
structure Unbroken (script : Script) : Prop where
  graphName : Lacks '\n' script.graphName
  parameters : ∀ line ∈ script.parameters, Lacks '\n' line
  declarations : ∀ line ∈ script.declarations, Lacks '\n' line
  seedName : Lacks '\n' script.seed.name
  seedSource : Lacks '\n' script.seed.source
  selection : ∀ s ∈ script.selection?, s.Unbroken
  output : script.output.Unbroken

/- Lines inside a script stay unbroken. -/
theorem lacks_inner
    {line : String} :
    Lacks '\n' (inner line) ↔ Lacks '\n' line := by
  have hBlank : Lacks '\n' "  " := by decide
  simp [inner, hBlank]

/- Lines inside a statement stay unbroken. -/
theorem lacks_clause
    {line : String} :
    Lacks '\n' (clause line) ↔ Lacks '\n' line := by
  have hBlank : Lacks '\n' "    " := by decide
  simp [clause, hBlank]

/- Commas at their ends do not break lines. -/
theorem lacks_commaLines
    {lines : List String}
    (hLines : ∀ line ∈ lines, Lacks '\n' line) :
    ∀ line ∈ commaLines lines, Lacks '\n' line := by
  have hComma : Lacks '\n' "," := by decide
  induction lines with
  | nil => exact hLines
  | cons line rest ih =>
      rw [List.forall_mem_cons] at hLines
      cases rest with
      | nil => simpa [commaLines] using hLines.1
      | cons next rest =>
          simp only [commaLines, List.forall_mem_cons,
            Text.lacks_append]
          exact ⟨⟨hLines.1, hComma⟩, ih hLines.2⟩

end Script

end GraphClient

------------------------------------------------------------
-- Texts without Further Line Breaks
------------------------------------------------------------

namespace GraphClient

open Text (Lacks)

namespace Script

/- The lines of a head are unbroken. -/
theorem lacks_headLines
    {graphName : String}
    {parameters : List String}
    (hGraph : Lacks '\n' graphName)
    (hParameters : ∀ line ∈ parameters, Lacks '\n' line) :
    ∀ line ∈ headLines graphName parameters, Lacks '\n' line := by
  cases parameters with
  | nil =>
      simp +decide [headLines, hGraph]
  | cons parameter rest =>
      have hComma :
          ∀ line ∈ commaLines ((parameter :: rest).map inner),
            Lacks '\n' line := by
        apply lacks_commaLines
        rw [List.forall_mem_map]
        exact fun line hLine =>
          lacks_inner.mpr (hParameters line hLine)
      have hOpen : Lacks '\n' "INTERPRET QUERY(" := by decide
      simp only [headLines, List.forall_mem_cons,
        List.forall_mem_append]
      refine ⟨hOpen, hComma, ?_⟩
      simp +decide [hGraph]

/- The lines of a selection are unbroken. -/
theorem Selection.Unbroken.lacks_lines
    {s : Selection}
    (hUnbroken : s.Unbroken) :
    ∀ line ∈ s.lines, Lacks '\n' line := by
  have hFilter :
      ∀ line ∈ filterLines s.filter?, Lacks '\n' line := by
    cases hSome : s.filter? with
    | none => simp [filterLines]
    | some filter =>
        have hLacks := hUnbroken.filter filter hSome
        simp +decide [filterLines, lacks_clause, hLacks]
  have hCollect :
      ∀ line ∈ collectLines s.collect?, Lacks '\n' line := by
    cases hSome : s.collect? with
    | none => simp [collectLines]
    | some collect =>
        have hLacks := hUnbroken.collect collect hSome
        simp +decide [collectLines, lacks_clause, hLacks]
  have hLimit :
      ∀ line ∈ limitLines s.limit?, Lacks '\n' line := by
    cases s.limit? with
    | none => simp [limitLines]
    | some limit =>
        have hLacks : Lacks '\n' (toString limit) :=
          Text.lacks_toString_nat (by decide) limit
        simp +decide only [limitLines, List.forall_mem_singleton,
          lacks_clause, Text.lacks_append, hLacks]
  simp only [Selection.lines, List.forall_mem_append]
  refine ⟨⟨⟨⟨?_, hFilter⟩, hCollect⟩, hLimit⟩, ?_⟩
  · simp +decide [lacks_inner, lacks_clause, hUnbroken.name,
      hUnbroken.selected, hUnbroken.pattern]
  · decide

/- The lines of an output are unbroken. -/
theorem Output.Unbroken.lacks_lines
    {output : Output}
    (hUnbroken : output.Unbroken) :
    ∀ line ∈ output.lines, Lacks '\n' line := by
  match output, hUnbroken with
  | .nodes name none, hUnbroken =>
      simp +decide [Output.lines, lacks_inner, hUnbroken.1]
  | .nodes name (some names), hUnbroken =>
      have hComma :
          ∀ line ∈ commaLines (names.map (projected name)),
            Lacks '\n' line := by
        apply lacks_commaLines
        rw [List.forall_mem_map]
        intro word hWord
        have hLacks := hUnbroken.2 names rfl word hWord
        simp +decide [projected, lacks_clause, hUnbroken.1, hLacks]
      simp only [Output.lines, List.forall_mem_cons,
        List.forall_mem_append]
      refine ⟨?_, hComma, by decide⟩
      simp +decide [lacks_inner, hUnbroken.1]
  | .collected accumulator label, hUnbroken =>
      simp +decide [Output.lines, lacks_inner, hUnbroken.1,
        hUnbroken.2]

/- The lines of a script are unbroken. -/
theorem Unbroken.lacks_lines
    {script : Script}
    (hUnbroken : script.Unbroken) :
    ∀ line ∈ script.lines, Lacks '\n' line := by
  have hHead :=
    lacks_headLines hUnbroken.graphName hUnbroken.parameters
  have hDeclarations :
      ∀ line ∈ script.declarations.map inner, Lacks '\n' line := by
    rw [List.forall_mem_map]
    exact fun line hLine =>
      lacks_inner.mpr (hUnbroken.declarations line hLine)
  have hSeed : Lacks '\n' script.seed.line := by
    simp +decide [Seed.line, lacks_inner, hUnbroken.seedName,
      hUnbroken.seedSource]
  have hSelection :
      ∀ line ∈ selectionLines script.selection?,
        Lacks '\n' line := by
    cases hSome : script.selection? with
    | none => simp [selectionLines]
    | some s => exact (hUnbroken.selection s hSome).lacks_lines
  simp only [lines, List.forall_mem_append]
  exact ⟨⟨⟨⟨hHead, hDeclarations⟩, by simpa using hSeed⟩,
    hSelection⟩, hUnbroken.output.lacks_lines⟩

/- Unbroken scripts of one text have the same lines. -/
theorem lines_of_text
    {script other : Script}
    (hScript : script.Unbroken)
    (hOther : other.Unbroken)
    (hEq : script.text = other.text) :
    script.lines = other.lines := by
  have hBrace : Lacks '\n' "\x7d" := by decide
  exact Text.terminated_inj hBrace hScript.lacks_lines
    hOther.lacks_lines hEq

end Script

end GraphClient

------------------------------------------------------------
-- Optional Lines
------------------------------------------------------------

namespace GraphClient

namespace Script

/- What tells the lines of different clauses apart. -/
def mark
    (line : String) :
    List Char :=
  line.toList.take 5

/- Texts that start alike have the same mark. -/
theorem mark_append
    {start : String}
    (hLength : 5 ≤ start.toList.length)
    (rest : String) :
    mark (start ++ rest) = mark start := by
  unfold mark
  rw [String.toList_append, List.take_append_of_le_length hLength]

/- The lines of a clause that may be absent. -/
def optionalLines
    {α : Type}
    (word : String)
    (text : α → String)
    (o : Option α) :
    List String :=
  o.toList.map (fun a => clause (word ++ text a))

/-
  An optional clause and what follows it can be told apart when
  what follows has another mark than the clause.
-/
theorem optionalLines_inj
    {α : Type}
    {word : String}
    {text : α → String}
    (hWord : 5 ≤ (clause word).toList.length)
    (hText : ∀ a b, text a = text b → a = b)
    {first second : Option α}
    {rest others : List String}
    (hRest : rest.head?.map mark ≠ some (mark (clause word)))
    (hOthers : others.head?.map mark ≠ some (mark (clause word)))
    (hEq :
      optionalLines word text first ++ rest =
        optionalLines word text second ++ others) :
    first = second ∧ rest = others := by
  have hMark :
      ∀ a, mark (clause (word ++ text a)) = mark (clause word) := by
    intro a
    unfold clause at hWord ⊢
    rw [← String.append_assoc]
    exact mark_append hWord (text a)
  cases first with
  | none =>
      cases second with
      | none => exact ⟨rfl, hEq⟩
      | some b =>
          have hHead : rest = clause (word ++ text b) :: others := hEq
          simp [hHead, hMark] at hRest
  | some a =>
      cases second with
      | none =>
          have hHead : clause (word ++ text a) :: rest = others := hEq
          simp [← hHead, hMark] at hOthers
      | some b =>
          simp only [optionalLines, Option.toList_some,
            List.map_cons, List.map_nil, List.cons_append,
            List.nil_append, List.cons.injEq, clause,
            String.append_right_inj] at hEq
          exact ⟨congrArg some (hText a b hEq.1), hEq.2⟩

/- The line of a filter is optional. -/
theorem filterLines_eq
    (filter? : Option String) :
    filterLines filter? = optionalLines "WHERE " id filter? := by
  cases filter? <;> rfl

/- The line of a collection is optional. -/
theorem collectLines_eq
    (collect? : Option String) :
    collectLines collect? = optionalLines "ACCUM " id collect? := by
  cases collect? <;> rfl

/- The line of a limit is optional. -/
theorem limitLines_eq
    (limit? : Option Nat) :
    limitLines limit? = optionalLines "LIMIT " toString limit? := by
  cases limit? <;> rfl

/- What is absent or has another mark does not start like a line. -/
theorem head?_optionalLines_ne
    {α : Type}
    {word : String}
    {m : List Char}
    (hWord : 5 ≤ (clause word).toList.length)
    (hMark : mark (clause word) ≠ m)
    (text : α → String)
    (o : Option α)
    {rest : List String}
    (hRest : rest.head?.map mark ≠ some m) :
    (optionalLines word text o ++ rest).head?.map mark ≠ some m := by
  cases o with
  | none => exact hRest
  | some a =>
      unfold clause at hWord hMark
      simpa only [optionalLines, Option.toList_some, List.map_cons,
        List.map_nil, List.cons_append, List.head?_cons,
        Option.map_some, clause, ← String.append_assoc,
        mark_append hWord, ne_eq, Option.some.injEq] using hMark

/-
  A selection and what follows it can be told apart, whatever
  its parts are.
-/
theorem Selection.lines_inj
    {s t : Selection}
    {rest others : List String}
    (hEq : s.lines ++ rest = t.lines ++ others) :
    s = t ∧ rest = others := by
  rcases s with ⟨name, selected, pattern, filter?, collect?, limit?⟩
  rcases t with
    ⟨name', selected', pattern', filter?', collect?', limit?'⟩
  simp only [Selection.lines, filterLines_eq, collectLines_eq,
    limitLines_eq, List.append_assoc, List.cons_append,
    List.nil_append, List.cons.injEq] at hEq
  rcases hEq with ⟨hName, hSelected, hPattern, hClauses⟩
  -- no clause is followed by one that starts like it
  have hEnd :
      ∀ (m : List Char) (rest : List String),
        mark (inner ";") ≠ m →
          (inner ";" :: rest).head?.map mark ≠ some m := by
    intro m rest hMark
    simpa using hMark
  have hAfterCollect :
      ∀ (l : Option Nat) (rest : List String),
        (optionalLines "LIMIT " toString l ++
          inner ";" :: rest).head?.map mark ≠
            some (mark (clause "ACCUM ")) := by
    intro l rest
    exact head?_optionalLines_ne (by decide) (by decide) toString l
      (hEnd _ rest (by decide))
  have hAfterFilter :
      ∀ (c : Option String) (l : Option Nat) (rest : List String),
        (optionalLines "ACCUM " id c ++
          (optionalLines "LIMIT " toString l ++
            inner ";" :: rest)).head?.map mark ≠
              some (mark (clause "WHERE ")) := by
    intro c l rest
    apply head?_optionalLines_ne (by decide) (by decide)
    exact head?_optionalLines_ne (by decide) (by decide) toString l
      (hEnd _ rest (by decide))
  have hFilter :=
    optionalLines_inj (by decide) (fun _ _ h => h)
      (hAfterFilter collect? limit? rest)
      (hAfterFilter collect?' limit?' others) hClauses
  have hCollect :=
    optionalLines_inj (by decide) (fun _ _ h => h)
      (hAfterCollect limit? rest)
      (hAfterCollect limit?' others) hFilter.2
  have hLimit :=
    optionalLines_inj (by decide) (fun _ _ => Text.toString_nat_inj)
      (hEnd _ rest (by decide)) (hEnd _ others (by decide))
      hCollect.2
  simp only [inner, clause, String.append_right_inj,
    String.append_left_inj] at hName hSelected hPattern
  rw [hName, hSelected, hPattern, hFilter.1, hCollect.1, hLimit.1]
  exact ⟨rfl, List.tail_eq_of_cons_eq hLimit.2⟩

end Script

end GraphClient

------------------------------------------------------------
-- Lines of Outputs
------------------------------------------------------------

namespace GraphClient

open Text (Lacks)

namespace Script

/- Lines without commas are told apart by those at their ends. -/
theorem commaLines_inj
    {lines others : List String}
    (hLines : ∀ line ∈ lines, Lacks ',' line)
    (hOthers : ∀ line ∈ others, Lacks ',' line)
    (hEq : commaLines lines = commaLines others) :
    lines = others := by
  have hComma : ∀ line : String, ¬ Lacks ',' (line ++ ",") := by
    intro line
    simp +decide
  induction lines generalizing others with
  | nil =>
      match others, hEq with
      | [], _ => rfl
      | [_], hEq => cases hEq
      | _ :: _ :: _, hEq => cases hEq
  | cons line rest ih =>
      rw [List.forall_mem_cons] at hLines
      match rest, others, hEq with
      | [], [], hEq => cases hEq
      | _ :: _, [], hEq => cases hEq
      | [], [other], hEq => exact hEq
      | [], other :: next :: others, hEq =>
          simp only [commaLines, List.cons.injEq] at hEq
          rw [hEq.1] at hLines
          exact (hComma other hLines.1).elim
      | next :: rest, [other], hEq =>
          simp only [commaLines, List.cons.injEq] at hEq
          rw [List.forall_mem_cons, ← hEq.1] at hOthers
          exact (hComma line hOthers.1).elim
      | next :: rest, other :: next' :: others, hEq =>
          rw [List.forall_mem_cons] at hOthers
          simp only [commaLines, List.cons.injEq,
            String.append_left_inj] at hEq
          rw [hEq.1, ih hLines.2 hOthers.2 hEq.2]

/- A printed attribute stands twice in its line, so it is known. -/
theorem projected_inj
    {set first second : String}
    (hEq : projected set first = projected set second) :
    first = second := by
  simp only [projected, clause, String.append_assoc,
    String.append_right_inj] at hEq
  have hChars := congrArg String.toList hEq
  simp only [String.toList_append] at hChars
  have hLength : first.toList.length = second.toList.length := by
    have hTwice := congrArg List.length hChars
    simp only [List.length_append] at hTwice
    omega
  exact String.toList_injective
    (List.append_inj_left hChars hLength)

/- What is printed of nodes can be told from its lines. -/
theorem Output.nodes_lines_inj
    {name : String}
    (hName : Lacks ',' name)
    {first second : Option (List String)}
    (hFirst :
      ∀ names ∈ first, ∀ name ∈ names,
        Text.isIdentifier name = true)
    (hSecond :
      ∀ names ∈ second, ∀ name ∈ names,
        Text.isIdentifier name = true)
    (hEq :
      (Output.nodes name first).lines =
        (Output.nodes name second).lines) :
    first = second := by
  have hProjected :
      ∀ names : List String,
        (∀ name ∈ names, Text.isIdentifier name = true) →
          ∀ line ∈ names.map (projected name), Lacks ',' line := by
    intro names hNames
    rw [List.forall_mem_map]
    intro word hWord
    have hLacks : Lacks ',' word :=
      Text.lacks_of_isIdentifier (by decide) (hNames word hWord)
    simp +decide [projected, clause, hName, hLacks]
  match first, second, hEq with
  | none, none, _ => rfl
  | none, some names, hEq =>
      have hLength := congrArg List.length hEq
      simp [Output.lines] at hLength
  | some names, none, hEq =>
      have hLength := congrArg List.length hEq
      simp [Output.lines] at hLength
  | some names, some others, hEq =>
      simp only [Output.lines, List.cons.injEq, true_and,
        List.append_cancel_right_eq] at hEq
      have hNames := hFirst names rfl
      have hOthers := hSecond others rfl
      have hMap :=
        commaLines_inj (hProjected names hNames)
          (hProjected others hOthers) hEq
      exact congrArg some
        ((List.map_inj_right (fun _ _ => projected_inj)).mp hMap)

end Script

end GraphClient
