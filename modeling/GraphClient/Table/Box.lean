import GraphClient.Json.Writer
import GraphClient.Table.Basic
import GraphClient.Text.Join
import GraphClient.Text.Width
/-
  Tables drawn with lines around their cells.

  Key definitions include:
    * `GraphClient.Box.Rule`
    * `GraphClient.Box.draw`
    * `GraphClient.Table.text`

  A column is as wide as its widest line, and at least one
  character.  A text with line breaks takes several lines, and
  the other cells of its row are blank there.  A double line
  stands below the header, a dashed one between two rows.
-/

------------------------------------------------------------
-- Cells
------------------------------------------------------------

namespace GraphClient

namespace Box

/- Split characters at line breaks. -/
def splitLines : List Char → List (List Char)
| [] => [[]]
| c :: cs =>
    if c = '\n' then
      [] :: splitLines cs
    else
      match splitLines cs with
      | [] => [[c]]
      | line :: rest => (c :: line) :: rest

/- The lines of a text. -/
def linesOf
    (text : String) :
    List String :=
  (splitLines text.toList).map String.ofList

/- The text of a cell. -/
def cellText : Json → String
| .null => "NULL"
| .string s => s
| j => j.compact

/- The number of columns that the lines of a text take. -/
def textWidth
    (text : String) :
    Nat :=
  ((linesOf text).map Text.width).foldl max 0

end Box

end GraphClient

------------------------------------------------------------
-- Lines
------------------------------------------------------------

namespace GraphClient

namespace Box

/- The parts of a horizontal line. -/
structure Rule where
  left : String
  fill : Char
  crossing : String
  right : String
deriving DecidableEq, Repr

/- The line above a table. -/
def Rule.top : Rule :=
  ⟨"┌", '─', "┬", "┐"⟩

/- The line below the header. -/
def Rule.header : Rule :=
  ⟨"╞", '═', "╪", "╡"⟩

/- The line between two rows. -/
def Rule.inner : Rule :=
  ⟨"├", '╌', "┼", "┤"⟩

/- The line below a table. -/
def Rule.bottom : Rule :=
  ⟨"└", '─', "┴", "┘"⟩

/- A horizontal line over columns of the given widths. -/
def Rule.text
    (rule : Rule)
    (widths : List Nat) :
    String :=
  let segment := fun width =>
    String.ofList (List.replicate (width + 2) rule.fill)
  rule.left ++
    Text.join rule.crossing (widths.map segment) ++ rule.right

/- A text filled up to a width. -/
def padded
    (width : Nat)
    (text : String) :
    String :=
  text ++
    String.ofList (List.replicate (width - Text.width text) ' ')

/- The part of a cell that stands on one line of its row. -/
def segment
    (i : Nat)
    (width : Nat)
    (text : String) :
    String :=
  " " ++ padded width ((linesOf text)[i]?.getD "") ++ " "

/- One line of a row. -/
def rowLine
    (widths : List Nat)
    (texts : List String)
    (i : Nat) :
    String :=
  "│" ++
    Text.join "┆" (List.zipWith (segment i) widths texts) ++ "│"

/- The number of lines of a row. -/
def height
    (texts : List String) :
    Nat :=
  (texts.map (fun text => (linesOf text).length)).foldl max 0

/- The lines of a row. -/
def rowLines
    (widths : List Nat)
    (texts : List String) :
    List String :=
  (List.range (height texts)).map (rowLine widths texts)

end Box

end GraphClient

------------------------------------------------------------
-- Boxes
------------------------------------------------------------

namespace GraphClient

namespace Box

/- The rows of a box with lines between them. -/
def bodyLines
    (widths : List Nat) :
    List (List String) → List String
| [] => []
| [row] => rowLines widths row
| row :: rows =>
    rowLines widths row ++
      (Rule.inner.text widths :: bodyLines widths rows)

/- The width of each column, given the rows below the header. -/
def columnWidths
    (header : List String)
    (rows : List (List String)) :
    List Nat :=
  rows.foldl
    (fun widths row => List.zipWith max widths (row.map textWidth))
    (header.map (fun text => max 1 (textWidth text)))

/- A header and the rows below it. -/
def draw
    (header : List String)
    (rows : List (List String)) :
    String :=
  let widths := columnWidths header rows
  Text.lines
    (Rule.top.text widths ::
      (rowLines widths header ++
        (Rule.header.text widths ::
          (bodyLines widths rows ++ [Rule.bottom.text widths]))))

end Box

namespace Table

/- The texts of a row under the given columns. -/
def rowTexts
    (columns : List String)
    (row : Row) :
    List String :=
  columns.map (fun column =>
    Box.cellText ((row.get? column).getD .null))

/- The drawing of a table. -/
def text
    (t : Table) :
    String :=
  Box.draw t.columns (t.rows.map (rowTexts t.columns))

end Table

end GraphClient
