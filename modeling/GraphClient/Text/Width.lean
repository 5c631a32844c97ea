import GraphClient.Text.Ahead
/-
  The number of terminal columns of a line.

  Key definitions include:
    * `GraphClient.Text.Context`
    * `GraphClient.Text.Context.step`
    * `GraphClient.Text.width`

  Key theorems include:
    * `GraphClient.Text.width_of_simple`

  Most characters take their own columns.  A character takes
  others where it is drawn together with what follows it, or in
  a style that the variation selectors after it ask for.  A line
  is therefore read from its end, and the context says what has
  been read.
-/

------------------------------------------------------------
-- Contexts
------------------------------------------------------------

namespace GraphClient

namespace Text

/-
  What is known of the text ahead of a character: what it begins
  with, and whether selectors at its start ask for an emoji, for
  narrow text or for a wide quotation mark.
-/
structure Context where
  ahead : Ahead
  emoji : Bool
  narrow : Bool
  wideQuote : Bool
deriving DecidableEq, Repr

namespace Context

/- A context in which no style is asked for. -/
def of
    (a : Ahead) :
    Context :=
  ⟨a, false, false, false⟩

/- The context at the end of a line. -/
def plain : Context :=
  of .plain

/-
  What is left behind a selector.  A ligature goes on, with the
  styles that are asked for already, and all else ends.
-/
def ligature
    (x : Context) :
    Context :=
  if x.ahead.isLigature then x else plain

/-
  An emoji is asked for by the last selector before a character
  only.  What is not a ligature ends with the request.
-/
def withoutEmoji
    (x : Context) :
    Context :=
  if x.emoji then { x.ligature with emoji := false } else x

/- Ask for an emoji.  An emoji behind a joiner stays joined. -/
def askEmoji
    (x : Context) :
    Context :=
  let x := x.withoutEmoji
  if x.ahead.isJoined then
    { x with emoji := true }
  else
    { x.ligature with emoji := true }

/- Ask for narrow text. -/
def askNarrow
    (x : Context) :
    Context :=
  { x.withoutEmoji.ligature with narrow := true }

/- Ask for a wide quotation mark. -/
def askWideQuote
    (x : Context) :
    Context :=
  { x.withoutEmoji.ligature with wideQuote := true }

end Context

end Text

end GraphClient

------------------------------------------------------------
-- Width
------------------------------------------------------------

namespace GraphClient

namespace Text

/- Whether a character is a curved quotation mark. -/
def isCurvedQuote
    (c : Char) :
    Bool :=
  inRanges [(0x2018, 0x2019), (0x201C, 0x201D)] c.toNat

namespace Context

/- A character that no style changes. -/
def stepUnstyled
    (c : Char)
    (a : Ahead) :
    Int × Context :=
  if a.isOpenLigature && c == joiner then
    (0, of a.joined)
  else if a.isOpenLigature && isLigatureTransparent c then
    (0, of a)
  else
    match a.step c with
    | some (columns, b) => (columns, of b)
    | none => (Int.ofNat (charWidth c), of (.ofChar c))

/- A character that may be a variation selector. -/
def stepSelector
    (c : Char)
    (x : Context) :
    Int × Context :=
  if c.toNat < 0xA1 then
    (Int.ofNat (charWidth c), plain)
  else if c == '\ufe0f' then
    (0, x.askEmoji)
  else if c == '\ufe0e' then
    (0, x.askNarrow)
  else if c == '\ufe01' then
    (0, x.askWideQuote)
  else
    stepUnstyled c x.withoutEmoji.ahead

/-
  Read one more character, from the end of a line on: the
  columns that it adds, and the context of the one before it.
-/
def step
    (c : Char)
    (x : Context) :
    Int × Context :=
  if x.emoji && takesEmojiStyle c then
    (if x.ahead.isJoined then 0 else 2, of .emoji)
  else if x.narrow && takesTextStyle c then
    (1, plain)
  else if x.wideQuote && isCurvedQuote c then
    (2, plain)
  else
    x.stepSelector c

/- The columns of a line and the context of the text before it. -/
def scan
    (cs : List Char) :
    Int × Context :=
  cs.foldr
    (fun c (columns, x) =>
      let (added, x) := x.step c
      (columns + added, x))
    (0, plain)

end Context

/- The number of columns of a line. -/
def width
    (s : String) :
    Nat :=
  (Context.scan s.toList).1.toNat

end Text

end GraphClient

------------------------------------------------------------
-- Simple Lines
------------------------------------------------------------

namespace GraphClient

namespace Text

/-
  Whether a character takes one column next to any other of its
  kind: the ASCII and control characters and the space after
  them.
-/
def isSimple
    (c : Char) :
    Bool :=
  c.toNat < 0xA1

namespace Context

/- A simple character leaves a context without styles. -/
theorem step_plain
    (c : Char)
    (hSimple : isSimple c = true) :
    plain.step c = (1, plain) := by
  have hLow : c.toNat < 0xA1 := by
    simpa [isSimple] using hSimple
  simp [step, plain, of, stepSelector, charWidth, hLow]

/- A simple line ends in such a context again. -/
theorem scan_of_simple
    (cs : List Char)
    (hSimple : ∀ c ∈ cs, isSimple c = true) :
    scan cs = (Int.ofNat cs.length, plain) := by
  induction cs with
  | nil =>
      rfl
  | cons c cs ih =>
      have hRest :
          scan cs = (Int.ofNat cs.length, plain) :=
        ih (fun d hMem => hSimple d (List.mem_cons_of_mem c hMem))
      have hStep :
          plain.step c = (1, plain) :=
        step_plain c (hSimple c List.mem_cons_self)
      have hScan :
          scan (c :: cs) =
            ((scan cs).1 + ((scan cs).2.step c).1,
              ((scan cs).2.step c).2) :=
        rfl
      rw [hScan, hRest, hStep]
      rfl

end Context

/- A simple line takes a column for each of its characters. -/
theorem width_of_simple
    (s : String)
    (hSimple : ∀ c ∈ s.toList, isSimple c = true) :
    width s = s.toList.length := by
  rw [width, Context.scan_of_simple s.toList hSimple]
  rfl

end Text

end GraphClient
