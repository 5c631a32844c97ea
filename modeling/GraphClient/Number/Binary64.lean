/-
  Binary floating-point numbers of 64 bits.

  Key definitions include:
    * `GraphClient.Binary64`
    * `GraphClient.Binary64.units`
    * `GraphClient.Binary64.ofRatio`
    * `GraphClient.Binary64.mul`
    * `GraphClient.Binary64.div`

  A number is its word.  A finite number is an integer
  multiple of the smallest positive number, 2^-1074, so every
  computation is exact in the natural numbers until the one
  rounding at its end: to the nearest number, and of two
  nearest ones to the one with an even significand.
-/

------------------------------------------------------------
-- Words
------------------------------------------------------------

namespace GraphClient

/- A floating-point number, given by its word. -/
structure Binary64 where
  bits : UInt64
deriving DecidableEq

namespace Binary64

/- The number of significand bits below the leading one. -/
def fractionModulus : Nat :=
  Nat.pow 2 52

/- The magnitude word of infinity. -/
def infinityWord : Nat :=
  2047 * fractionModulus

/- The word without its sign bit. -/
def magnitudeWord
    (x : Binary64) :
    Nat :=
  x.bits.toNat % Nat.pow 2 63

/- Whether the sign bit is set. -/
def isNegative
    (x : Binary64) :
    Bool :=
  Nat.pow 2 63 ≤ x.bits.toNat

/- Whether the word is not a number. -/
def isNaN
    (x : Binary64) :
    Bool :=
  infinityWord < x.magnitudeWord

/- Whether the number is finite. -/
def isFinite
    (x : Binary64) :
    Bool :=
  x.magnitudeWord < infinityWord

/- Whether the number is zero, of either sign. -/
def isZero
    (x : Binary64) :
    Bool :=
  x.magnitudeWord == 0

/- The number with a sign and a magnitude word. -/
def ofMagnitude
    (negative : Bool)
    (word : Nat) :
    Binary64 :=
  ⟨UInt64.ofNat (if negative then Nat.pow 2 63 + word else word)⟩

/- The canonical word that is not a number. -/
def nan : Binary64 :=
  ofMagnitude false (infinityWord + Nat.pow 2 51)

/- Infinity with a sign. -/
def infinity
    (negative : Bool) :
    Binary64 :=
  ofMagnitude negative infinityWord

end Binary64

end GraphClient

------------------------------------------------------------
-- Exact Values
------------------------------------------------------------

namespace GraphClient

namespace Binary64

/- The binary scale of the smallest positive number. -/
def unitScale : Nat :=
  1074

/- How often the spacing of a magnitude word doubles. -/
def spacing
    (word : Nat) :
    Nat :=
  word / fractionModulus - 1

/- The significand of a magnitude word. -/
def significand
    (word : Nat) :
    Nat :=
  if word < fractionModulus then
    word
  else
    fractionModulus + word % fractionModulus

/- The magnitude in units of 2^-1074. -/
def units
    (x : Binary64) :
    Nat :=
  significand x.magnitudeWord *
    Nat.pow 2 (spacing x.magnitudeWord)

end Binary64

end GraphClient

------------------------------------------------------------
-- Rounding
------------------------------------------------------------

namespace GraphClient

namespace Binary64

/- The nearest integer to a ratio; a half goes to even. -/
def divideToEven
    (num den : Nat) :
    Nat :=
  let q := num / den
  let r := num % den
  if den < 2 * r || (den == 2 * r && q % 2 == 1) then
    q + 1
  else
    q

/-
  The magnitude word nearest to a ratio of units.  The word of
  significand `m` at spacing `s` is `m + s * 2^52`, also when
  rounding carries `m` into the next spacing.
-/
def wordOfUnits
    (num den : Nat) :
    Nat :=
  let s := (num / den).log2 - 52
  divideToEven num (den * Nat.pow 2 s) + s * fractionModulus

/- The number nearest to a ratio; too large ones are infinite. -/
def ofRatio
    (negative : Bool)
    (num den : Nat) :
    Binary64 :=
  ofMagnitude negative
    (min (wordOfUnits (num * Nat.pow 2 unitScale) den) infinityWord)

/- The number nearest to an integer. -/
def ofInt
    (n : Int) :
    Binary64 :=
  ofRatio (n < 0) n.natAbs 1

/- The negation. -/
def neg
    (x : Binary64) :
    Binary64 :=
  ofMagnitude (!x.isNegative) x.magnitudeWord

/- The rounded product of two finite numbers. -/
def mul
    (x y : Binary64) :
    Binary64 :=
  if x.isFinite && y.isFinite then
    ofRatio (x.isNegative != y.isNegative)
      (x.units * y.units) (Nat.pow 2 (2 * unitScale))
  else
    nan

/- The rounded quotient of two finite numbers. -/
def div
    (x y : Binary64) :
    Binary64 :=
  if x.isFinite && y.isFinite && !y.isZero then
    ofRatio (x.isNegative != y.isNegative) x.units y.units
  else
    nan

end Binary64

end GraphClient
