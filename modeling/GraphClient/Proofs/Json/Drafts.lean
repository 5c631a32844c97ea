import GraphClient.Json.Draft
import GraphClient.Json.Writer
import GraphClient.Proofs.Number.Numerals
/-
  Written JSON is read again.

  Key definitions include:
    * `GraphClient.Json.draft`
    * `GraphClient.Json.Spacing.Blank`

  Key theorems include:
    * `GraphClient.Json.Draft.readString_escapeChars`
    * `GraphClient.Json.Draft.readValue_charsAt`
    * `GraphClient.Json.Draft.read_chars`

  Whatever the layout is, as long as it adds white space only,
  the text of a value spells that value and nothing else.  The
  order and the repetition of fields are kept.
-/

------------------------------------------------------------
-- Strings
------------------------------------------------------------

namespace GraphClient

namespace Json

namespace Draft

/- A written hexadecimal digit has its value. -/
theorem hexValue?_hexDigit
    {n : Nat}
    (hLt : n < 16) :
    hexValue? (hexDigit n) = some n := by
  have hAll : ∀ n, n < 16 → hexValue? (hexDigit n) = some n := by
    decide
  exact hAll n hLt

/- A small code unit is read from its last two digits. -/
theorem hexUnit?_small
    {n : Nat}
    (hLt : n < 256)
    (rest : List Char) :
    hexUnit?
        ('0' :: '0' :: hexDigit (n / 16) :: hexDigit (n % 16) ::
          rest) =
      some (n, rest) := by
  have hHigh := hexValue?_hexDigit (show n / 16 < 16 by omega)
  have hLow := hexValue?_hexDigit (show n % 16 < 16 by omega)
  have hZero : hexValue? '0' = some 0 := by decide
  have hUnit : n / 16 * 16 + n % 16 = n := by omega
  simp [hexUnit?, hHigh, hLow, hZero, hUnit]

/- A control character is read from its code unit. -/
theorem symbol?_unit
    {c : Char}
    (hControl : c.toNat < 32)
    (rest : List Char) :
    symbol?
        ('\\' :: 'u' :: '0' :: '0' :: hexDigit (c.toNat / 16) ::
          hexDigit (c.toNat % 16) :: rest) =
      some (.char c, rest) := by
  have hUnit := hexUnit?_small (show c.toNat < 256 by omega) rest
  have hLeading : isLeading c.toNat = false := by
    unfold isLeading
    simp only [Bool.and_eq_false_iff, decide_eq_false_iff_not]
    omega
  have hTrailing : isTrailing c.toNat = false := by
    unfold isTrailing
    simp only [Bool.and_eq_false_iff, decide_eq_false_iff_not]
    omega
  simp [symbol?, escape?, hUnit, unitSymbol, hLeading, hTrailing]

/- A written character is read as one symbol. -/
theorem symbol?_escapeChar
    (c : Char)
    (rest : List Char) :
    symbol? (escapeChar c ++ rest) = some (.char c, rest) := by
  have hNat : ∀ n, c.toNat = n → c = Char.ofNat n := by
    intro n hEq
    rw [← hEq, Char.ofNat_toNat]
  unfold escapeChar
  by_cases hQuote : c = '"'
  · subst hQuote
    rfl
  by_cases hBackslash : c = '\\'
  · subst hBackslash
    rfl
  simp only [hQuote, hBackslash, if_false]
  by_cases hBackspace : c.toNat = 8
  · rw [hNat 8 hBackspace]
    rfl
  by_cases hTab : c.toNat = 9
  · rw [hNat 9 hTab]
    rfl
  by_cases hLine : c.toNat = 10
  · rw [hNat 10 hLine]
    rfl
  by_cases hForm : c.toNat = 12
  · rw [hNat 12 hForm]
    rfl
  by_cases hReturn : c.toNat = 13
  · rw [hNat 13 hReturn]
    rfl
  simp only [hBackspace, hTab, hLine, hForm, hReturn, if_false]
  by_cases hControl : c.toNat < 32
  · simp only [hControl, if_true]
    exact symbol?_unit hControl rest
  · simp [hControl, symbol?, hQuote, hBackslash]

/- A written string is read up to its closing quote. -/
theorem readString_escapeChars
    (cs rest : List Char)
    {fuel : Nat}
    (hFuel : cs.length < fuel) :
    readString fuel (escapeChars cs ++ '"' :: rest) =
      some (some cs, rest) := by
  induction cs generalizing fuel with
  | nil =>
      rcases Nat.exists_eq_add_of_lt hFuel with ⟨n, rfl⟩
      simp [escapeChars, readString, symbol?]
  | cons c cs ih =>
      cases fuel with
      | zero => cases hFuel
      | succ fuel =>
          have hRest := ih (by simpa using hFuel)
          have hSymbol :=
            symbol?_escapeChar c (escapeChars cs ++ '"' :: rest)
          simp only [escapeChars, List.flatMap_cons,
            List.append_assoc] at hRest hSymbol ⊢
          simp [readString, hSymbol, hRest]

end Draft

end Json

end GraphClient

------------------------------------------------------------
-- White Space
------------------------------------------------------------

namespace GraphClient

namespace Json

/- A layout that adds nothing but white space. -/
structure Spacing.Blank (spacing : Spacing) : Prop where
  colon : ∀ c ∈ spacing.colon, Draft.isSpace c = true
  line : ∀ depth, ∀ c ∈ spacing.line depth, Draft.isSpace c = true

/- The layout without white space. -/
theorem Spacing.blank_none :
    Spacing.none.Blank where
  colon := by simp [Spacing.none]
  line := by simp [Spacing.none]

/- The layout with a line for each item. -/
theorem Spacing.blank_lines :
    Spacing.lines.Blank where
  colon := by
    intro c hMem
    rw [List.mem_singleton.mp hMem]
    decide
  line := by
    intro depth c hMem
    rcases List.mem_cons.mp hMem with rfl | hMem
    · decide
    · rw [List.eq_of_mem_replicate hMem]
      decide

namespace Draft

/- White space at the start is skipped. -/
theorem skipSpace_append
    {space : List Char}
    (hSpace : ∀ c ∈ space, isSpace c = true)
    (cs : List Char) :
    skipSpace (space ++ cs) = skipSpace cs :=
  List.dropWhile_append_of_pos hSpace

/- Nothing is skipped before what is no white space. -/
theorem skipSpace_cons
    {c : Char}
    (hSpace : isSpace c = false)
    (cs : List Char) :
    skipSpace (c :: cs) = c :: cs := by
  simp [skipSpace, hSpace]

/- What has been skipped is not there to be skipped again. -/
theorem skipSpace_skipSpace
    (cs : List Char) :
    skipSpace (skipSpace cs) = skipSpace cs := by
  induction cs with
  | nil => rfl
  | cons c cs ih =>
      cases hSpace : isSpace c with
      | true => simpa [skipSpace, hSpace] using ih
      | false => rw [skipSpace_cons hSpace, skipSpace_cons hSpace]

/- A value may stand after white space. -/
theorem readValue_skipSpace
    (fuel : Nat)
    (cs : List Char) :
    readValue fuel (skipSpace cs) = readValue fuel cs := by
  cases fuel with
  | zero => simp [readValue]
  | succ fuel => simp only [readValue, skipSpace_skipSpace]

/- Items may stand after white space. -/
theorem readItems_skipSpace
    (fuel : Nat)
    (cs : List Char) :
    readItems fuel (skipSpace cs) = readItems fuel cs := by
  cases fuel with
  | zero => simp [readItems]
  | succ fuel => simp only [readItems, readValue_skipSpace]

/- Members may stand after white space. -/
theorem readMembers_skipSpace
    (fuel : Nat)
    (cs : List Char) :
    readMembers fuel (skipSpace cs) = readMembers fuel cs := by
  cases fuel with
  | zero => simp [readMembers]
  | succ fuel => simp only [readMembers, skipSpace_skipSpace]

end Draft

end Json

end GraphClient

------------------------------------------------------------
-- Brackets
------------------------------------------------------------

namespace GraphClient

namespace Json

namespace Draft

/- An empty array is closed at once. -/
theorem readValue_emptyArray
    (fuel : Nat)
    (rest : List Char) :
    readValue (fuel + 1) ('[' :: ']' :: rest) =
      (.array [] true, rest) := by
  simp [readValue, skipSpace, isSpace]

/- An array that is not closed at once has items. -/
theorem readValue_array
    (fuel : Nat)
    {cs : List Char}
    (hOpen : (skipSpace cs).head? ≠ some ']') :
    readValue (fuel + 1) ('[' :: cs) =
      (.array (readItems fuel cs).1 (readItems fuel cs).2.1,
        (readItems fuel cs).2.2) := by
  have hSkip : skipSpace ('[' :: cs) = '[' :: cs :=
    skipSpace_cons (by decide) cs
  rw [← readItems_skipSpace fuel cs]
  simp only [readValue, hSkip]
  cases hHead : skipSpace cs with
  | nil => simp
  | cons c rest =>
      have hNe : c ≠ ']' := by simpa [hHead] using hOpen
      simp [hNe]

/- An empty object is closed at once. -/
theorem readValue_emptyObject
    (fuel : Nat)
    (rest : List Char) :
    readValue (fuel + 1) ('\x7b' :: '\x7d' :: rest) =
      (.object [] true, rest) := by
  simp [readValue, skipSpace, isSpace]

/- An object that is not closed at once has members. -/
theorem readValue_object
    (fuel : Nat)
    {cs : List Char}
    (hOpen : (skipSpace cs).head? ≠ some '\x7d') :
    readValue (fuel + 1) ('\x7b' :: cs) =
      (.object (readMembers fuel cs).1 (readMembers fuel cs).2.1,
        (readMembers fuel cs).2.2) := by
  have hSkip : skipSpace ('\x7b' :: cs) = '\x7b' :: cs :=
    skipSpace_cons (by decide) cs
  rw [← readMembers_skipSpace fuel cs]
  simp only [readValue, hSkip]
  cases hHead : skipSpace cs with
  | nil => simp
  | cons c rest =>
      have hNe : c ≠ '\x7d' := by simpa [hHead] using hOpen
      simp [hNe]

end Draft

end Json

end GraphClient

------------------------------------------------------------
-- Scalars
------------------------------------------------------------

namespace GraphClient

namespace Json

namespace Draft

/- A text that starts with what may follow a value. -/
def EndsValue
    (cs : List Char) :
    Prop :=
  ∀ c ∈ cs.head?,
    isSpace c = true ∨ c = ',' ∨ c = ']' ∨ c = '\x7d'

/- A mark that may follow a value starts such a text. -/
theorem endsValue_cons
    {c : Char}
    (hMark : c = ',' ∨ c = ']' ∨ c = '\x7d')
    (cs : List Char) :
    EndsValue (c :: cs) := by
  intro d hHead
  rw [← Option.some.inj hHead]
  exact Or.inr hMark

/- So may white space before it. -/
theorem endsValue_append
    {space : List Char}
    (hSpace : ∀ c ∈ space, isSpace c = true)
    {cs : List Char}
    (hEnds : EndsValue cs) :
    EndsValue (space ++ cs) := by
  cases space with
  | nil => exact hEnds
  | cons c space =>
      intro d hHead
      rw [← Option.some.inj hHead]
      exact Or.inl (hSpace c (by simp))

/- What ends a value ends a numeral. -/
theorem EndsValue.endsNumeral
    {cs : List Char}
    (hEnds : EndsValue cs) :
    Numeral.EndsNumeral cs := by
  intro c hHead
  rcases hEnds c hHead with hSpace | rfl | rfl | rfl
  · unfold isSpace at hSpace
    simp only [Bool.or_eq_true, beq_iff_eq] at hSpace
    rcases hSpace with ((rfl | rfl) | rfl) | rfl <;> decide
  · decide
  · decide
  · decide

/- A string is read as its text. -/
theorem readValue_string
    (s : String)
    (rest : List Char)
    {fuel : Nat}
    (hFuel : s.length + 1 < fuel) :
    readValue fuel (stringChars s ++ rest) =
      (.string (some s), rest) := by
  cases fuel with
  | zero => cases hFuel
  | succ fuel =>
      have hLength : s.toList.length < fuel := by
        rw [String.length_toList]
        omega
      have hRead := readString_escapeChars s.toList rest hLength
      have hSkip :
          skipSpace ('"' :: (escapeChars s.toList ++ '"' :: rest)) =
            '"' :: (escapeChars s.toList ++ '"' :: rest) :=
        skipSpace_cons (by decide) _
      simp only [stringChars, List.cons_append, List.append_assoc,
        List.nil_append, readValue, hSkip, if_true, hRead,
        Option.map_some, String.ofList_toList]

/- A numeral starts with a minus or a digit. -/
theorem exists_numeral_chars
    {n : Numeral}
    (hWell : n.WellFormed) :
    ∃ c rest, n.chars = c :: rest ∧
      (c = '-' ∨ Numeral.isDigit c = true) := by
  rw [Numeral.chars_eq]
  cases n.negative with
  | true => exact ⟨'-', _, rfl, Or.inl rfl⟩
  | false =>
      rcases List.exists_cons_of_ne_nil hWell.whole.ne_nil with
        ⟨c, digits, hCons⟩
      rw [hCons]
      exact ⟨c, _, rfl, Or.inr (hWell.whole.all c (by simp [hCons]))⟩

/- What may start a numeral is no white space and opens nothing. -/
theorem not_isSpace_of_numeral
    {c : Char}
    (hStart : c = '-' ∨ Numeral.isDigit c = true) :
    isSpace c = false ∧ c ≠ '"' ∧ c ≠ '[' ∧ c ≠ '\x7b' ∧
      c ≠ ']' ∧ c ≠ '\x7d' := by
  have hDigit :
      ∀ d, Numeral.isDigit d = false → Numeral.isDigit c = true →
        c ≠ d := by
    rintro d hNot hIs rfl
    rw [hNot] at hIs
    cases hIs
  rcases hStart with rfl | hIs
  · decide
  · refine ⟨?_, hDigit '"' (by decide) hIs,
      hDigit '[' (by decide) hIs, hDigit '\x7b' (by decide) hIs,
      hDigit ']' (by decide) hIs, hDigit '\x7d' (by decide) hIs⟩
    simp [isSpace, hDigit ' ' (by decide) hIs,
      hDigit '\n' (by decide) hIs, hDigit '\t' (by decide) hIs,
      hDigit '\r' (by decide) hIs]

/- A well-formed numeral is read up to what ends it. -/
theorem readValue_numeral
    {n : Numeral}
    (hWell : n.WellFormed)
    {rest : List Char}
    (hEnds : EndsValue rest)
    (fuel : Nat) :
    readValue (fuel + 1) (n.chars ++ rest) = (.number n, rest) := by
  have hRead := Numeral.read?_chars_append hWell hEnds.endsNumeral
  rcases exists_numeral_chars hWell with ⟨c, tail, hCons, hStart⟩
  rcases not_isSpace_of_numeral hStart with
    ⟨hSpace, hQuote, hArray, hObject, _, _⟩
  have hDispatch :
      (decide (c = '-') || Numeral.isDigit c) = true := by
    simpa using hStart
  rw [hCons, List.cons_append] at hRead ⊢
  simp only [readValue, skipSpace_cons hSpace, hQuote, hArray,
    hObject, if_false, hDispatch, if_true, readNumber, hRead]

end Draft

end Json

end GraphClient

------------------------------------------------------------
-- Drafts of Values
------------------------------------------------------------

namespace GraphClient

namespace Json

/- What the text of a floating-point number spells. -/
def floatDraft
    (x : Binary64) :
    Draft :=
  if x.isFinite then .number x.numeral else .null

mutual

/- What the text of a value spells. -/
def draft : Json → Draft
| .null => .null
| .bool b => .bool b
| .int n => .number (Numeral.ofInt n)
| .float x => floatDraft x
| .string s => .string (some s)
| .array items => .array (drafts items) true
| .object fields => .object (draftMembers fields) true

/- What the texts of items spell. -/
def drafts : List Json → List Draft
| [] => []
| item :: items => draft item :: drafts items

/- What the texts of fields spell. -/
def draftMembers :
    List (String × Json) → List (Option String × Draft)
| [] => []
| (key, value) :: fields =>
    (some key, draft value) :: draftMembers fields

end

mutual

/- The fuel that reading a value takes. -/
def cost : Json → Nat
| .null => 1
| .bool _ => 1
| .int _ => 1
| .float _ => 1
| .string s => s.length + 2
| .array items => costOfItems items + 1
| .object fields => costOfFields fields + 1

/- The fuel that reading items takes. -/
def costOfItems : List Json → Nat
| [] => 0
| item :: items => cost item + costOfItems items + 1

/- The fuel that reading fields takes. -/
def costOfFields : List (String × Json) → Nat
| [] => 0
| (key, value) :: fields =>
    key.length + cost value + costOfFields fields + 2

end

/- The drafts of fields are the drafts of their values. -/
theorem draftMembers_eq_map
    (fields : Entries Json) :
    draftMembers fields =
      fields.map (fun field => (some field.1, field.2.draft)) := by
  induction fields with
  | nil => rfl
  | cons field fields ih =>
      rcases field with ⟨key, value⟩
      simp [draftMembers, ih]

/- No text of a value is empty, or starts with space or an end. -/
theorem exists_charsAt
    (spacing : Spacing)
    (depth : Nat)
    (j : Json) :
    ∃ c rest, charsAt spacing depth j = c :: rest ∧
      Draft.isSpace c = false ∧ c ≠ ']' ∧ c ≠ '\x7d' := by
  have hNumeral :
      ∀ n : Numeral, n.WellFormed →
        ∃ c rest, n.chars = c :: rest ∧
          Draft.isSpace c = false ∧ c ≠ ']' ∧ c ≠ '\x7d' := by
    intro n hWell
    rcases Draft.exists_numeral_chars hWell with
      ⟨c, rest, hCons, hStart⟩
    rcases Draft.not_isSpace_of_numeral hStart with
      ⟨hSpace, _, _, _, hArray, hObject⟩
    exact ⟨c, rest, hCons, hSpace, hArray, hObject⟩
  have hWord : ∃ c rest, "null".toList = c :: rest ∧
      Draft.isSpace c = false ∧ c ≠ ']' ∧ c ≠ '\x7d' :=
    ⟨'n', "ull".toList, rfl, by decide⟩
  cases j with
  | null => exact hWord
  | bool b =>
      cases b with
      | true => exact ⟨'t', "rue".toList, rfl, by decide⟩
      | false => exact ⟨'f', "alse".toList, rfl, by decide⟩
  | int n => exact hNumeral _ (Numeral.wellFormed_ofInt n)
  | float x =>
      unfold charsAt floatChars
      by_cases hFinite : x.isFinite = true
      · simp only [hFinite, if_true]
        exact hNumeral _ (Binary64.wellFormed_numeral x)
      · simp only [hFinite]
        exact hWord
  | string s => exact ⟨'"', _, rfl, by decide⟩
  | array items => exact ⟨'[', _, rfl, by decide⟩
  | object fields => exact ⟨'\x7b', _, rfl, by decide⟩

end Json

end GraphClient

------------------------------------------------------------
-- Reading What Was Written
------------------------------------------------------------

namespace GraphClient

namespace Json

namespace Draft

/- A value may stand after blanks of the layout. -/
theorem readValue_append
    {space : List Char}
    (hSpace : ∀ c ∈ space, isSpace c = true)
    (fuel : Nat)
    (cs : List Char) :
    readValue fuel (space ++ cs) = readValue fuel cs := by
  rw [← readValue_skipSpace, skipSpace_append hSpace,
    readValue_skipSpace]

/- The last item is followed by the closing bracket. -/
theorem readItems_last
    {fuel : Nat}
    {cs space rest : List Char}
    {d : Draft}
    (hSpace : ∀ c ∈ space, isSpace c = true)
    (hRead : readValue fuel cs = (d, space ++ ']' :: rest)) :
    readItems (fuel + 1) cs = ([d], true, rest) := by
  have hSkip : skipSpace (space ++ ']' :: rest) = ']' :: rest := by
    rw [skipSpace_append hSpace, skipSpace_cons (by decide)]
  simp only [readItems, hRead, hSkip]

/- Any other item is followed by a comma and further items. -/
theorem readItems_cons
    {fuel : Nat}
    {cs rest : List Char}
    {d : Draft}
    (hRead : readValue fuel cs = (d, ',' :: rest)) :
    readItems (fuel + 1) cs =
      (d :: (readItems fuel rest).1, (readItems fuel rest).2.1,
        (readItems fuel rest).2.2) := by
  have hSkip : skipSpace (',' :: rest) = ',' :: rest :=
    skipSpace_cons (by decide) rest
  simp only [readItems, hRead, hSkip]

/- A written key is read up to its closing quote. -/
theorem readString_key
    (key : String)
    (rest : List Char)
    {fuel : Nat}
    (hFuel : key.length < fuel) :
    readString fuel (escapeChars key.toList ++ '"' :: rest) =
      some (some key.toList, rest) := by
  rw [← String.length_toList] at hFuel
  exact readString_escapeChars key.toList rest hFuel

/- The last member is followed by the closing brace. -/
theorem readMembers_last
    {fuel : Nat}
    {space after rest value : List Char}
    {d : Draft}
    (hSpace : ∀ c ∈ space, isSpace c = true)
    (hAfter : ∀ c ∈ after, isSpace c = true)
    (key : String)
    (hFuel : key.length < fuel)
    (hRead : readValue fuel value = (d, after ++ '\x7d' :: rest)) :
    readMembers (fuel + 1)
        (space ++ (stringChars key ++ ':' :: value)) =
      ([(some key, d)], true, rest) := by
  have hKey := readString_key key (':' :: value) hFuel
  have hQuote (cs : List Char) : skipSpace ('"' :: cs) = '"' :: cs :=
    skipSpace_cons (by decide) cs
  have hColon : skipSpace (':' :: value) = ':' :: value :=
    skipSpace_cons (by decide) value
  have hSkip :
      skipSpace (after ++ '\x7d' :: rest) = '\x7d' :: rest := by
    rw [skipSpace_append hAfter, skipSpace_cons (by decide)]
  rw [← readMembers_skipSpace, skipSpace_append hSpace,
    readMembers_skipSpace]
  simp only [stringChars, List.cons_append, List.append_assoc,
    List.nil_append, readMembers, hQuote, hKey, hColon, hRead, hSkip,
    Option.map_some, String.ofList_toList]

/- Any other member is followed by a comma and further members. -/
theorem readMembers_cons
    {fuel : Nat}
    {space rest value : List Char}
    {d : Draft}
    (hSpace : ∀ c ∈ space, isSpace c = true)
    (key : String)
    (hFuel : key.length < fuel)
    (hRead : readValue fuel value = (d, ',' :: rest)) :
    readMembers (fuel + 1)
        (space ++ (stringChars key ++ ':' :: value)) =
      ((some key, d) :: (readMembers fuel rest).1,
        (readMembers fuel rest).2.1,
        (readMembers fuel rest).2.2) := by
  have hKey := readString_key key (':' :: value) hFuel
  have hQuote (cs : List Char) : skipSpace ('"' :: cs) = '"' :: cs :=
    skipSpace_cons (by decide) cs
  have hColon : skipSpace (':' :: value) = ':' :: value :=
    skipSpace_cons (by decide) value
  have hSkip : skipSpace (',' :: rest) = ',' :: rest :=
    skipSpace_cons (by decide) rest
  rw [← readMembers_skipSpace, skipSpace_append hSpace,
    readMembers_skipSpace]
  simp only [stringChars, List.cons_append, List.append_assoc,
    List.nil_append, readMembers, hQuote, hKey, hColon, hRead, hSkip,
    Option.map_some, String.ofList_toList]

/- The truth values are read. -/
theorem readValue_boolChars
    (fuel : Nat)
    (b : Bool)
    (rest : List Char) :
    readValue (fuel + 1) (boolChars b ++ rest) = (.bool b, rest) := by
  cases b <;> rfl

/- The word of what is no value is read. -/
theorem readValue_null
    (fuel : Nat)
    (rest : List Char) :
    readValue (fuel + 1) ("null".toList ++ rest) = (.null, rest) :=
  rfl

/- A floating-point number is read as its numeral, or as null. -/
theorem readValue_floatChars
    (fuel : Nat)
    (x : Binary64)
    {rest : List Char}
    (hEnds : EndsValue rest) :
    readValue (fuel + 1) (floatChars x ++ rest) =
      (floatDraft x, rest) := by
  unfold floatChars floatDraft
  by_cases hFinite : x.isFinite = true
  · simp only [hFinite, if_true]
    exact readValue_numeral (Binary64.wellFormed_numeral x) hEnds fuel
  · simp only [hFinite]
    exact readValue_null fuel rest

end Draft

end Json

end GraphClient

------------------------------------------------------------
-- Values at a Depth
------------------------------------------------------------

namespace GraphClient

namespace Json

variable {spacing : Spacing}

/- The items after the first one start with a comma. -/
theorem itemsAt_cons
    (depth : Nat)
    (first : Bool)
    (item : Json)
    (items : List Json) :
    itemsAt spacing depth first (item :: items) =
      comma first ++ (spacing.line depth ++
        (charsAt spacing depth item ++
          itemsAt spacing depth false items)) := by
  rw [itemsAt]

/- The fields after the first one start with a comma. -/
theorem fieldsAt_cons
    (depth : Nat)
    (first : Bool)
    (key : String)
    (value : Json)
    (fields : List (String × Json)) :
    fieldsAt spacing depth first ((key, value) :: fields) =
      comma first ++ (spacing.line depth ++
        (stringChars key ++ (':' :: (spacing.colon ++
          (charsAt spacing depth value ++
            fieldsAt spacing depth false fields))))) := by
  rw [fieldsAt]

/- A bracket is not closed before its first item. -/
theorem head?_itemsAt
    (hBlank : spacing.Blank)
    (depth : Nat)
    (item : Json)
    (items : List Json)
    (rest : List Char) :
    (Draft.skipSpace
        (itemsAt spacing depth true (item :: items) ++ rest)).head? ≠
      some ']' := by
  rcases exists_charsAt spacing depth item with
    ⟨c, chars, hCons, hSpace, hArray, _⟩
  rw [itemsAt_cons, comma, if_pos rfl, List.nil_append, hCons,
    List.append_assoc, Draft.skipSpace_append (hBlank.line depth),
    List.cons_append, List.cons_append,
    Draft.skipSpace_cons hSpace, List.head?_cons]
  intro hEq
  exact hArray (Option.some.inj hEq)

/- A brace is not closed before its first field. -/
theorem head?_fieldsAt
    (hBlank : spacing.Blank)
    (depth : Nat)
    (field : String × Json)
    (fields : List (String × Json))
    (rest : List Char) :
    (Draft.skipSpace
        (fieldsAt spacing depth true (field :: fields) ++ rest)).head? ≠
      some '\x7d' := by
  rcases field with ⟨key, value⟩
  rw [fieldsAt_cons, comma, if_pos rfl, List.nil_append,
    List.append_assoc, Draft.skipSpace_append (hBlank.line depth),
    stringChars, List.cons_append, List.cons_append,
    Draft.skipSpace_cons (by decide), List.head?_cons]
  decide

mutual

/- A written value is read up to what ends it. -/
theorem Draft.readValue_charsAt
    (hBlank : spacing.Blank)
    (depth : Nat)
    (rest : List Char)
    (hEnds : Draft.EndsValue rest)
    (fuel : Nat) :
    (j : Json) →
      j.cost ≤ fuel →
      Draft.readValue fuel (charsAt spacing depth j ++ rest) =
        (j.draft, rest)
| .null, hFuel => by
    rcases Nat.exists_eq_add_of_le hFuel with ⟨extra, rfl⟩
    rw [charsAt, draft, cost, Nat.add_comm]
    exact Draft.readValue_null extra rest
| .bool b, hFuel => by
    rcases Nat.exists_eq_add_of_le hFuel with ⟨extra, rfl⟩
    rw [charsAt, draft, cost, Nat.add_comm]
    exact Draft.readValue_boolChars extra b rest
| .int n, hFuel => by
    rcases Nat.exists_eq_add_of_le hFuel with ⟨extra, rfl⟩
    rw [charsAt, draft, cost, Nat.add_comm]
    exact Draft.readValue_numeral (Numeral.wellFormed_ofInt n) hEnds
      extra
| .float x, hFuel => by
    rcases Nat.exists_eq_add_of_le hFuel with ⟨extra, rfl⟩
    rw [charsAt, draft, cost, Nat.add_comm]
    exact Draft.readValue_floatChars extra x hEnds
| .string s, hFuel => by
    rw [cost] at hFuel
    rw [charsAt, draft]
    exact Draft.readValue_string s rest (by omega)
| .array [], hFuel => by
    rcases Nat.exists_eq_add_of_le hFuel with ⟨extra, rfl⟩
    rw [cost, costOfItems, Nat.add_comm]
    simpa [charsAt, itemsAt, Spacing.closing, draft, drafts] using
      Draft.readValue_emptyArray extra rest
| .array (item :: items), hFuel => by
    rw [cost] at hFuel
    rcases Nat.exists_eq_add_of_le hFuel with ⟨extra, rfl⟩
    have hItems :=
      Draft.readItems_itemsAt hBlank (depth + 1)
        (hBlank.line depth) rest
        (costOfItems (item :: items) + extra) (item :: items)
        (by simp) (Nat.le_add_right _ _)
    have hOpen :=
      head?_itemsAt hBlank (depth + 1) item items
        (spacing.line depth ++ ']' :: rest)
    rw [Nat.add_right_comm, charsAt, draft]
    simp only [List.cons_append, List.append_assoc, List.nil_append,
      Spacing.closing, List.isEmpty_cons, Bool.false_eq_true,
      if_false]
    rw [Draft.readValue_array _ hOpen, hItems]
| .object [], hFuel => by
    rcases Nat.exists_eq_add_of_le hFuel with ⟨extra, rfl⟩
    rw [cost, costOfFields, Nat.add_comm]
    simpa [charsAt, fieldsAt, Spacing.closing, draft, draftMembers]
      using Draft.readValue_emptyObject extra rest
| .object (field :: fields), hFuel => by
    rw [cost] at hFuel
    rcases Nat.exists_eq_add_of_le hFuel with ⟨extra, rfl⟩
    have hMembers :=
      Draft.readMembers_fieldsAt hBlank (depth + 1)
        (hBlank.line depth) rest
        (costOfFields (field :: fields) + extra) (field :: fields)
        (by simp) (Nat.le_add_right _ _)
    have hOpen :=
      head?_fieldsAt hBlank (depth + 1) field fields
        (spacing.line depth ++ '\x7d' :: rest)
    rw [Nat.add_right_comm, charsAt, draft]
    simp only [List.cons_append, List.append_assoc, List.nil_append,
      Spacing.closing, List.isEmpty_cons, Bool.false_eq_true,
      if_false]
    rw [Draft.readValue_object _ hOpen, hMembers]

/- Written items are read up to their closing bracket. -/
theorem Draft.readItems_itemsAt
    (hBlank : spacing.Blank)
    (depth : Nat)
    {space : List Char}
    (hSpace : ∀ c ∈ space, Draft.isSpace c = true)
    (rest : List Char)
    (fuel : Nat) :
    (items : List Json) →
      items ≠ [] →
      costOfItems items ≤ fuel →
      Draft.readItems fuel
          (itemsAt spacing depth true items ++
            (space ++ ']' :: rest)) =
        (drafts items, true, rest)
| [], hItems, _ => absurd rfl hItems
| [item], _, hFuel => by
    rcases Nat.exists_eq_add_of_le hFuel with ⟨extra, rfl⟩
    have hEnds : Draft.EndsValue (space ++ ']' :: rest) :=
      Draft.endsValue_append hSpace
        (Draft.endsValue_cons (by simp) rest)
    have hItem :=
      Draft.readValue_charsAt hBlank depth (space ++ ']' :: rest)
        hEnds (item.cost + extra) item (Nat.le_add_right _ _)
    rw [← Draft.readValue_append (hBlank.line depth)] at hItem
    rw [itemsAt_cons, itemsAt, comma, if_pos rfl, List.nil_append,
      List.append_nil, List.append_assoc, costOfItems, costOfItems,
      Nat.add_zero, Nat.add_right_comm,
      Draft.readItems_last hSpace hItem]
    rfl
| item :: next :: items, _, hFuel => by
    rw [costOfItems] at hFuel
    rcases Nat.exists_eq_add_of_le hFuel with ⟨extra, rfl⟩
    have hRest :=
      Draft.readItems_itemsAt hBlank depth hSpace rest
        (item.cost + costOfItems (next :: items) + extra)
        (next :: items) (by simp) (by omega)
    have hEnds : Draft.EndsValue
        (',' :: (itemsAt spacing depth true (next :: items) ++
          (space ++ ']' :: rest))) :=
      Draft.endsValue_cons (by simp) _
    have hItem :=
      Draft.readValue_charsAt hBlank depth _ hEnds
        (item.cost + costOfItems (next :: items) + extra) item
        (by omega)
    rw [← Draft.readValue_append (hBlank.line depth)] at hItem
    have hRead := Draft.readItems_cons hItem
    rw [hRest] at hRead
    rw [Nat.add_right_comm, itemsAt_cons, itemsAt_cons _ false]
    simpa [comma, itemsAt_cons, drafts] using hRead

/- Written fields are read up to their closing brace. -/
theorem Draft.readMembers_fieldsAt
    (hBlank : spacing.Blank)
    (depth : Nat)
    {space : List Char}
    (hSpace : ∀ c ∈ space, Draft.isSpace c = true)
    (rest : List Char)
    (fuel : Nat) :
    (fields : List (String × Json)) →
      fields ≠ [] →
      costOfFields fields ≤ fuel →
      Draft.readMembers fuel
          (fieldsAt spacing depth true fields ++
            (space ++ '\x7d' :: rest)) =
        (draftMembers fields, true, rest)
| [], hFields, _ => absurd rfl hFields
| [(key, value)], _, hFuel => by
    rcases Nat.exists_eq_add_of_le hFuel with ⟨extra, rfl⟩
    have hEnds : Draft.EndsValue (space ++ '\x7d' :: rest) :=
      Draft.endsValue_append hSpace
        (Draft.endsValue_cons (by simp) rest)
    have hValue :=
      Draft.readValue_charsAt hBlank depth (space ++ '\x7d' :: rest)
        hEnds (key.length + value.cost + 1 + extra) value (by omega)
    rw [← Draft.readValue_append hBlank.colon] at hValue
    have hRead :=
      Draft.readMembers_last (hBlank.line depth) hSpace key
        (by omega) hValue
    have hSteps :
        key.length + value.cost + 0 + 2 + extra =
          key.length + value.cost + 1 + extra + 1 := by
      omega
    rw [costOfFields, costOfFields, hSteps, fieldsAt_cons, fieldsAt]
    simpa [comma, draftMembers] using hRead
| (key, value) :: next :: fields, _, hFuel => by
    rw [costOfFields] at hFuel
    rcases Nat.exists_eq_add_of_le hFuel with ⟨extra, rfl⟩
    have hRest :=
      Draft.readMembers_fieldsAt hBlank depth hSpace rest
        (key.length + value.cost + costOfFields (next :: fields) + 1 +
          extra) (next :: fields) (by simp) (by omega)
    have hEnds : Draft.EndsValue
        (',' :: (fieldsAt spacing depth true (next :: fields) ++
          (space ++ '\x7d' :: rest))) :=
      Draft.endsValue_cons (by simp) _
    have hValue :=
      Draft.readValue_charsAt hBlank depth _ hEnds
        (key.length + value.cost + costOfFields (next :: fields) + 1 +
          extra) value
        (by omega)
    rw [← Draft.readValue_append hBlank.colon] at hValue
    have hRead :=
      Draft.readMembers_cons (hBlank.line depth) key
        (by omega) hValue
    rw [hRest] at hRead
    have hSteps :
        key.length + value.cost + costOfFields (next :: fields) + 2 +
            extra =
          key.length + value.cost + costOfFields (next :: fields) + 1 +
            extra + 1 := by
      omega
    rw [hSteps, fieldsAt_cons]
    rcases next with ⟨nextKey, nextValue⟩
    rw [fieldsAt_cons _ false]
    simpa [comma, fieldsAt_cons, draftMembers] using hRead

end

end Json

end GraphClient

------------------------------------------------------------
-- Whole Texts
------------------------------------------------------------

namespace GraphClient

namespace Json

variable (spacing : Spacing)

/- No character is written as nothing. -/
theorem length_escapeChar_pos
    (c : Char) :
    1 ≤ (escapeChar c).length := by
  cases hEscape : escapeChar c with
  | nil =>
      have hSymbol := Draft.symbol?_escapeChar c []
      rw [hEscape] at hSymbol
      cases hSymbol
  | cons d rest => simp

/- Escaping makes nothing shorter. -/
theorem length_le_escapeChars
    (cs : List Char) :
    cs.length ≤ (escapeChars cs).length := by
  induction cs with
  | nil => exact Nat.le_refl 0
  | cons c cs ih =>
      have hOne := length_escapeChar_pos c
      unfold escapeChars at ih ⊢
      rw [List.flatMap_cons, List.length_append, List.length_cons]
      omega

/- A written string has its quotes besides its characters. -/
theorem length_le_stringChars
    (s : String) :
    s.length + 2 ≤ (stringChars s).length := by
  have hChars := length_le_escapeChars s.toList
  rw [String.length_toList] at hChars
  simp only [stringChars, List.length_cons, List.length_append,
    List.length_nil]
  omega

/- A written value has at least one character. -/
theorem length_charsAt_pos
    (depth : Nat)
    (j : Json) :
    1 ≤ (charsAt spacing depth j).length := by
  rcases exists_charsAt spacing depth j with ⟨c, chars, hCons, _⟩
  rw [hCons, List.length_cons]
  omega

mutual

/- Each written character pays for two steps of the reader. -/
theorem cost_le_charsAt
    (depth : Nat) :
    (j : Json) →
      j.cost ≤ 2 * (charsAt spacing depth j).length
| .null => by
    rw [cost]
    exact Nat.le_of_ble_eq_true rfl
| .bool b => by
    have hLength := length_charsAt_pos spacing depth (.bool b)
    rw [cost]
    omega
| .int n => by
    have hLength := length_charsAt_pos spacing depth (.int n)
    rw [cost]
    omega
| .float x => by
    have hLength := length_charsAt_pos spacing depth (.float x)
    rw [cost]
    omega
| .string s => by
    have hLength := length_le_stringChars s
    rw [cost, charsAt]
    omega
| .array items => by
    have hItems := costOfItems_le_itemsAt (depth + 1) true items
    simp only [if_true] at hItems
    simp only [cost, charsAt, List.length_cons, List.length_append]
    omega
| .object fields => by
    have hFields := costOfFields_le_fieldsAt (depth + 1) true fields
    simp only [if_true] at hFields
    simp only [cost, charsAt, List.length_cons, List.length_append]
    omega

/- So do the characters of items; the first comma is not there. -/
theorem costOfItems_le_itemsAt
    (depth : Nat)
    (first : Bool) :
    (items : List Json) →
      costOfItems items ≤
        2 * (itemsAt spacing depth first items).length +
          (if first then 1 else 0)
| [] => by
    rw [costOfItems]
    exact Nat.zero_le _
| item :: items => by
    have hItem := cost_le_charsAt depth item
    have hItems := costOfItems_le_itemsAt depth false items
    simp only [Bool.false_eq_true, if_false] at hItems
    simp only [costOfItems, itemsAt, List.length_append]
    cases first with
    | true =>
        simp only [if_true]
        omega
    | false =>
        simp only [comma, List.length_cons, Bool.false_eq_true,
          if_false]
        omega

/- So do the characters of fields. -/
theorem costOfFields_le_fieldsAt
    (depth : Nat)
    (first : Bool) :
    (fields : List (String × Json)) →
      costOfFields fields ≤
        2 * (fieldsAt spacing depth first fields).length +
          (if first then 1 else 0)
| [] => by
    rw [costOfFields]
    exact Nat.zero_le _
| (key, value) :: fields => by
    have hKey := length_le_stringChars key
    have hValue := cost_le_charsAt depth value
    have hFields := costOfFields_le_fieldsAt depth false fields
    simp only [Bool.false_eq_true, if_false] at hFields
    simp only [costOfFields, fieldsAt, List.length_append,
      List.length_cons]
    cases first with
    | true =>
        simp only [if_true]
        omega
    | false =>
        simp only [comma, List.length_cons, Bool.false_eq_true,
          if_false]
        omega

end

/- The text of a value spells it, and nothing is left. -/
theorem Draft.read_chars
    {spacing : Spacing}
    (hBlank : spacing.Blank)
    (j : Json) :
    Draft.read (j.chars spacing) = (j.draft, []) := by
  have hCost := cost_le_charsAt spacing 0 j
  have hEnds : Draft.EndsValue [] := by
    intro c hHead
    cases hHead
  have hRead :=
    Draft.readValue_charsAt hBlank 0 [] hEnds
      (Draft.fuelFor (j.chars spacing)) j
      (Nat.le_trans hCost (Nat.le_add_right _ _))
  rw [List.append_nil] at hRead
  exact hRead

end Json

end GraphClient
