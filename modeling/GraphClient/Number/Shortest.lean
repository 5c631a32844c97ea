import GraphClient.Number.Binary64
/-
  The shortest decimal that denotes a floating-point number.

  Key definitions include:
    * `GraphClient.Decimal`
    * `GraphClient.TieRule`
    * `GraphClient.Binary64.shortest`

  A decimal denotes a number when the number is the nearest
  one to it.  Among the decimals that denote it, the shortest
  have the fewest digits, and of those the nearest is taken.
  A rule says which one to take if two are equally near.
  On a decimal grid the candidates are the two neighbours of
  the exact value, compared in natural-number arithmetic.
-/

------------------------------------------------------------
-- Decimals
------------------------------------------------------------

namespace GraphClient

/- The decimal `digits * 10^exponent`. -/
structure Decimal where
  digits : Nat
  exponent : Int
deriving DecidableEq, Repr

namespace Decimal

/- The decimal without zeros at the end of its digits. -/
def strip
    (fuel : Nat)
    (d : Decimal) :
    Decimal :=
  match fuel with
  | 0 => d
  | fuel + 1 =>
      if d.digits != 0 && d.digits % 10 == 0 then
        strip fuel ⟨d.digits / 10, d.exponent + 1⟩
      else
        d

end Decimal

end GraphClient

------------------------------------------------------------
-- Ties
------------------------------------------------------------

namespace GraphClient

/- Which of two equally near neighbours is taken. -/
inductive TieRule : Type
| toEven
| upward
deriving DecidableEq, Repr

/- Whether a number between equally near neighbours goes down. -/
def TieRule.goesDown
    (below : Nat) :
    TieRule → Bool
| toEven => below % 2 == 0
| upward => false

end GraphClient

------------------------------------------------------------
-- Decimal Grids
------------------------------------------------------------

namespace GraphClient

namespace Binary64

/-
  The factors of a decimal grid: `c * 10^p` is compared with
  `x` quarters of a unit as `c * scale p` with `x * inverse p`.
-/
def gridScale
    (p : Int) :
    Nat :=
  Nat.pow 10 p.toNat * Nat.pow 2 (unitScale + 2)

/- The factor on the other side of the comparison. -/
def gridInverse
    (p : Int) :
    Nat :=
  Nat.pow 10 (-p).toNat

/- The lower end of the interval that rounds to a number. -/
def lowerQuarters
    (word : Nat)
    (quarters : Nat) :
    Nat :=
  if significand word == fractionModulus && spacing word != 0 then
    quarters - Nat.pow 2 (spacing word)
  else
    quarters - 2 * Nat.pow 2 (spacing word)

/- The upper end of the interval that rounds to a number. -/
def upperQuarters
    (word : Nat)
    (quarters : Nat) :
    Nat :=
  quarters + 2 * Nat.pow 2 (spacing word)

/- Whether a grid point lies in the interval of a number. -/
def denotes
    (x : Binary64)
    (p : Int)
    (c : Nat) :
    Bool :=
  let word := x.magnitudeWord
  let quarters := 4 * x.units
  let point := c * gridScale p
  let low := lowerQuarters word quarters * gridInverse p
  let high := upperQuarters word quarters * gridInverse p
  if significand word % 2 == 0 then
    low ≤ point && point ≤ high
  else
    low < point && point < high

/- The nearer of the two neighbours on a grid that denote `x`. -/
def neighbour?
    (tie : TieRule)
    (x : Binary64)
    (p : Int) :
    Option Nat :=
  let exact := 4 * x.units * gridInverse p
  let below := exact / gridScale p
  let above := below + 1
  match x.denotes p below && below != 0, x.denotes p above with
  | true, true =>
      let down := exact - below * gridScale p
      let up := above * gridScale p - exact
      if down < up || (down == up && tie.goesDown below) then
        some below
      else
        some above
  | true, false => some below
  | false, true => some above
  | false, false => none

/- Search the grids of ever more digits, from exponent `p` down. -/
def searchGrids
    (tie : TieRule)
    (x : Binary64)
    (p : Int) :
    Nat → Decimal
| 0 => ⟨0, 0⟩
| fuel + 1 =>
    match neighbour? tie x p with
    | some c => ⟨c, p⟩
    | none => searchGrids tie x (p - 1) fuel

/- Whether `10^k` is at most the magnitude of a number. -/
def reachesPower
    (x : Binary64)
    (k : Int) :
    Bool :=
  gridScale k ≤ 4 * x.units * gridInverse k

/- The exponent of the largest power of ten below a number. -/
def leadingPower
    (x : Binary64) :
    Int :=
  let twos : Int := x.units.log2 - unitScale
  let guess := Int.fdiv (twos * 1233) 4096
  if x.reachesPower (guess + 1) then
    guess + 1
  else if x.reachesPower guess then
    guess
  else
    guess - 1

/- The shortest decimal that denotes a finite magnitude. -/
def shortest
    (tie : TieRule)
    (x : Binary64) :
    Decimal :=
  if x.units == 0 then
    ⟨0, 0⟩
  else
    (searchGrids tie x x.leadingPower 18).strip 18

end Binary64

end GraphClient
