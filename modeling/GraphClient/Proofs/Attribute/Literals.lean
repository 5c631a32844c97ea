import GraphClient.Proofs.Schema.Accepted
import GraphClient.Proofs.Text.Splitting
import GraphClient.Schema.Definition
/-
  Reading string literals.

  Key definitions include:
    * `GraphClient.Literal.read?`
    * `GraphClient.Statement.columns`

  Key theorems include:
    * `GraphClient.Literal.length_of_readBody?`
    * `GraphClient.Literal.read?_literal_iff`
    * `GraphClient.Column.standsIn_creationScript`
    * `GraphClient.Schema.defaults_end_iff`

  A literal begins and ends with a quote, and a backslash inside
  it stands for the character after it.  Quotes are written with
  a backslash, but backslashes are written as they are, so the
  literal of a text is read back exactly when the text has no
  backslash.
-/

------------------------------------------------------------
-- Reading
------------------------------------------------------------

namespace GraphClient

namespace Literal

/-
  Read a literal after its opening quote, up to the first quote
  that no backslash stands for: the text that it denotes, and
  what follows the literal.
-/
def readBody? : List Char → Option (List Char × List Char)
| [] => none
| '"' :: rest => some ([], rest)
| '\\' :: c :: rest =>
    (readBody? rest).map (fun found => (c :: found.1, found.2))
| '\\' :: [] => none
| c :: rest =>
    (readBody? rest).map (fun found => (c :: found.1, found.2))

/- Read a literal from its opening quote on. -/
def read? : List Char → Option (List Char × List Char)
| '"' :: rest => readBody? rest
| _ => none

/-
  Each quote and each backslash of the text that is read takes
  two characters, and the closing quote takes one.
-/
theorem length_of_readBody?
    {cs text rest : List Char}
    (hRead : readBody? cs = some (text, rest)) :
    text.length + text.count '\\' + text.count '"' +
      rest.length < cs.length := by
  fun_induction readBody? cs generalizing text with
  | case1 => cases hRead
  | case2 after =>
      cases hRead
      simp
  | case3 c cs ih =>
      rcases Option.map_eq_some_iff.mp hRead with
        ⟨found, hRest, hFound⟩
      rw [Prod.mk.injEq] at hFound
      rcases hFound with ⟨rfl, rfl⟩
      have hLength := ih hRest
      -- no character is both a quote and a backslash
      have hCounts :
          (c :: found.1).count '\\' + (c :: found.1).count '"' ≤
            found.1.count '\\' + found.1.count '"' + 1 := by
        by_cases hQuote : c = '"'
        · simp [hQuote]
          omega
        · rw [List.count_cons_of_ne hQuote, List.count_cons]
          split <;> omega
      simp only [List.length_cons]
      omega
  | case4 => cases hRead
  | case5 c cs hQuote hEscape hLast ih =>
      rcases Option.map_eq_some_iff.mp hRead with
        ⟨found, hRest, hFound⟩
      rw [Prod.mk.injEq] at hFound
      rcases hFound with ⟨rfl, rfl⟩
      have hLength := ih hRest
      have hBackslash : c ≠ '\\' := by
        intro hSame
        cases cs with
        | nil => exact hLast hSame rfl
        | cons d ds => exact hEscape d ds hSame rfl
      rw [List.count_cons_of_ne hBackslash,
        List.count_cons_of_ne hQuote]
      simp only [List.length_cons]
      omega

end Literal

end GraphClient

------------------------------------------------------------
-- Writing
------------------------------------------------------------

namespace GraphClient

namespace Literal

/- Inside a literal only quotes take more than one character. -/
theorem length_body
    (s : List Char) :
    (s.flatMap Value.literalChar).length =
      s.length + s.count '"' := by
  induction s with
  | nil => rfl
  | cons c cs ih =>
      by_cases hQuote : c = '"'
      · simp [Value.literalChar, hQuote, ih]
        omega
      · simp [Value.literalChar, hQuote, ih]
        omega

/- What has no backslash is read back, whatever follows it. -/
theorem readBody?_body
    {s : List Char}
    (hNone : '\\' ∉ s)
    (rest : List Char) :
    readBody? (s.flatMap Value.literalChar ++ '"' :: rest) =
      some (s, rest) := by
  induction s with
  | nil => rfl
  | cons c cs ih =>
      rw [List.mem_cons, not_or] at hNone
      have hRest := ih hNone.2
      rw [List.flatMap_cons, List.append_assoc]
      by_cases hQuote : c = '"'
      · simp [Value.literalChar, hQuote, readBody?, hRest]
      · simp [Value.literalChar, hQuote, readBody?, hRest,
          Ne.symm hNone.1]

/- The literal of a text has its characters between quotes. -/
theorem read?_literal
    (s : String)
    (rest : List Char) :
    read? ((Value.string s).literal.toList ++ rest) =
      readBody? (s.toList.flatMap Value.literalChar ++
        '"' :: rest) := by
  have hChars :
      (Value.string s).literal.toList ++ rest =
        '"' :: (s.toList.flatMap Value.literalChar ++
          '"' :: rest) := by
    simp [Value.literal, Value.stringLiteral]
  rw [hChars, read?]

/-
  The literal of a text is read back exactly when the text has
  no backslash: the literal has no character to spare for one.
-/
theorem read?_literal_iff
    (s : String)
    (rest : List Char) :
    read? ((Value.string s).literal.toList ++ rest) =
        some (s.toList, rest) ↔
      '\\' ∉ s.toList := by
  rw [read?_literal]
  constructor
  · intro hRead
    have hLength := length_of_readBody? hRead
    rw [List.length_append, length_body, List.length_cons]
      at hLength
    rw [← List.count_eq_zero]
    omega
  · exact fun hNone => readBody?_body hNone rest

end Literal

end GraphClient

------------------------------------------------------------
-- Defaults in Scripts
------------------------------------------------------------

namespace GraphClient

/- The columns of the type that a statement adds. -/
def Statement.columns : Statement → List Column
| .addVertex _ columns => columns
| .addEdge _ _ columns => columns
| .addVector _ _ _ => []

namespace Column

/- A column with a default ends with its literal. -/
theorem text_of_default
    {type : AttributeType}
    {value : Value}
    (hDefault : type.default? = some value)
    (name : String) :
    (plain name type).text =
      typed name type.dataType ++ " DEFAULT " ++ value.literal := by
  rcases type with ⟨dataType, default?⟩
  cases hDefault
  rfl

/- What follows a column: a next one, or the last bracket. -/
def EndsBefore
    (after : String) :
    Prop :=
  ∃ rest, after = ", " ++ rest ∨ after = ")" ++ rest

/- A column stands somewhere in a text, as a whole. -/
def StandsIn
    (column : Column)
    (text : String) :
    Prop :=
  ∃ before after,
    text = before ++ (column.text ++ after) ∧ EndsBefore after

/- A column stands in a text with something before it. -/
theorem StandsIn.prepend
    {column : Column}
    {text : String}
    (hStands : column.StandsIn text)
    (lead : String) :
    column.StandsIn (lead ++ text) := by
  rcases hStands with ⟨before, after, rfl, hAfter⟩
  exact ⟨lead ++ before, after,
    (String.append_assoc ..).symm, hAfter⟩

/- A column stands in a text with something after it. -/
theorem StandsIn.append
    {column : Column}
    {text : String}
    (hStands : column.StandsIn text)
    (more : String) :
    column.StandsIn (text ++ more) := by
  rcases hStands with ⟨before, after, rfl, rest, hAfter⟩
  refine ⟨before, after ++ more, ?_, rest ++ more, ?_⟩
  · simp only [String.append_assoc]
  · rcases hAfter with rfl | rfl
    · exact Or.inl (String.append_assoc ..)
    · exact Or.inr (String.append_assoc ..)

/- Columns stand between the brackets of their type. -/
theorem standsIn_withColumns
    {column : Column}
    {columns : List Column}
    (hColumn : column ∈ columns)
    (name : String) :
    column.StandsIn (Statement.withColumns name columns) := by
  rcases Text.exists_join_eq_of_mem ", "
      (List.mem_map_of_mem (f := text) hColumn) with
    ⟨before, after, hJoin, hAfter⟩
  refine ⟨name ++ "(" ++ before, after ++ ")", ?_, ?_⟩
  · simp [Statement.withColumns, hJoin, String.append_assoc]
  · rcases hAfter with rfl | ⟨rest, rfl⟩
    · exact ⟨"", Or.inr rfl⟩
    · exact ⟨rest ++ ")", Or.inl (String.append_assoc ..)⟩

/- The columns of a statement stand in its text. -/
theorem standsIn_statement
    {column : Column}
    {statement : Statement}
    (hColumn : column ∈ statement.columns) :
    column.StandsIn statement.text := by
  cases statement with
  | addVertex name columns =>
      have hStands := standsIn_withColumns hColumn name
      exact (hStands.prepend _).append _
  | addEdge name isDirected columns =>
      have hStands := standsIn_withColumns hColumn name
      cases isDirected with
      | true =>
          exact (((hStands.prepend _).append _).append _).append _
      | false => exact (hStands.prepend _).append _
  | addVector vertex name type => cases hColumn

/- The columns of a schema stand in its script. -/
theorem standsIn_creationScript
    {column : Column}
    {statement : Statement}
    (hColumn : column ∈ statement.columns)
    {schema : Schema}
    (hStatement : statement ∈ schema.statements) :
    column.StandsIn schema.creationScript := by
  have hLine :
      "  " ++ statement.text ∈
        schema.statements.map (fun line => "  " ++ line.text) :=
    List.mem_map_of_mem hStatement
  unfold Schema.creationScript Text.lines
  rcases Text.exists_join_eq_of_mem "\n"
      (List.mem_append_left _ (List.mem_append_right _ hLine)) with
    ⟨before, after, hJoin, _⟩
  rw [hJoin]
  exact (((standsIn_statement hColumn).prepend _).append _).prepend _

end Column

end GraphClient

------------------------------------------------------------
-- Main Result
------------------------------------------------------------

namespace GraphClient

/-
  The literal of a text ends where it is to end, and denotes the
  text, exactly when the text has no backslash.  In the script
  of a schema this holds of each default that is a text: what is
  read after the literal is what follows the column.
-/
theorem Schema.defaults_end_iff
    (s : String) :
    (∀ rest : List Char,
      Literal.read? ((Value.string s).literal.toList ++ rest) =
          some (s.toList, rest) ↔
        '\\' ∉ s.toList) ∧
      ∀ (schema : Schema) (statement : Statement)
        (name : String) (type : AttributeType),
        statement ∈ schema.statements →
        .plain name type ∈ statement.columns →
        type.default? = some (.string s) →
        ∃ before after : String,
          schema.creationScript =
              before ++ (Column.typed name type.dataType ++
                " DEFAULT " ++ ((Value.string s).literal ++ after)) ∧
            Column.EndsBefore after ∧
            (Literal.read?
                  ((Value.string s).literal ++ after).toList =
                some (s.toList, after.toList) ↔
              '\\' ∉ s.toList) := by
  refine ⟨Literal.read?_literal_iff s, ?_⟩
  intro schema statement name type hStatement hColumn hDefault
  rcases Column.standsIn_creationScript hColumn hStatement with
    ⟨before, after, hScript, hAfter⟩
  refine ⟨before, after, ?_, hAfter, ?_⟩
  · rw [hScript, Column.text_of_default hDefault]
    simp only [String.append_assoc]
  · rw [String.toList_append]
    exact Literal.read?_literal_iff s after.toList

/- Files have a path and a size. -/
def NodeType.file : NodeType where
  primaryKey := "id"
  attributes :=
    .ofList
      [("id", .plain .string),
        ("path", ⟨.string, some (.string "\\")⟩),
        ("size", .plain .int)]
  vectors := .empty
  accepted := check_eq_ok_iff.mpr (by decide +kernel)

/- The schema of a graph of files. -/
def Schema.files : Schema where
  graphName := "Disk"
  nodes := .ofList [("File", .file)]
  edges := .empty
  accepted := rfl

/-
  A backslash alone has a literal without end, and one before a
  quote has a literal that ends too early.  As the default of a
  path, a backslash swallows the column of the size.
-/
theorem Schema.files_default_runs_on :
    Literal.read? (Value.string "\\").literal.toList = none ∧
      Literal.read? (Value.string "\\\"").literal.toList =
        some (['\\'], ['"']) ∧
      ∃ before after : String,
        files.creationScript =
            before ++ ((Value.string "\\").literal ++
              (", size INT) WITH PRIMARY_ID_AS_ATTRIBUTE=\"" ++
                after)) ∧
          Literal.read? ((Value.string "\\").literal ++
              (", size INT) WITH PRIMARY_ID_AS_ATTRIBUTE=\"" ++
                after)).toList =
            some
              ("\", size INT) WITH PRIMARY_ID_AS_ATTRIBUTE=".toList,
                after.toList) := by
  have hRead (s : String) :
      Literal.read? (Value.string s).literal.toList =
        Literal.readBody?
          (s.toList.flatMap Value.literalChar ++ ['"']) := by
    rw [← Literal.read?_literal, List.append_nil]
  refine ⟨(hRead _).trans rfl, (hRead _).trans rfl,
    "CREATE GRAPH Disk()\n" ++
      "CREATE SCHEMA_CHANGE JOB schema_change_job_for_graph_Disk" ++
      " FOR GRAPH Disk \x7b\n" ++
      "  ADD VERTEX File(PRIMARY_ID id STRING, path STRING DEFAULT ",
    "true\";\n\x7d\n" ++
      "RUN SCHEMA_CHANGE JOB schema_change_job_for_graph_Disk\n" ++
      "DROP JOB schema_change_job_for_graph_Disk", ?_, ?_⟩
  · decide +kernel
  · rw [String.toList_append, Literal.read?_literal,
      String.toList_append]
    rfl

/-
  Quotes are read back, and the literal of the path does not end
  with its column.
-/
theorem Schema.defaults_end_iff_files :
    Literal.read? (Value.string "a \"b\"").literal.toList =
        some ("a \"b\"".toList, []) ∧
      ∃ before after : String,
        files.creationScript =
            before ++ (Column.typed "path" .string ++
              " DEFAULT " ++ ((Value.string "\\").literal ++ after)) ∧
          Column.EndsBefore after ∧
          Literal.read?
              ((Value.string "\\").literal ++ after).toList ≠
            some (['\\'], after.toList) := by
  have hQuotes :=
    ((defaults_end_iff "a \"b\"").1 []).mpr (by decide)
  rw [List.append_nil] at hQuotes
  refine ⟨hQuotes, ?_⟩
  rcases (defaults_end_iff "\\").2 files
      (.addVertex "File" NodeType.file.columns) "path"
      ⟨.string, some (.string "\\")⟩ List.mem_cons_self
      (by decide +kernel) rfl with
    ⟨before, after, hScript, hAfter, hRead⟩
  refine ⟨before, after, hScript, hAfter, ?_⟩
  intro hBack
  exact hRead.mp hBack (by decide)

end GraphClient
