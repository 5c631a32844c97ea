import GraphClient.Text.Ligature
/-
  What the text ahead of a character begins with.

  Key definitions include:
    * `GraphClient.Text.Ahead`
    * `GraphClient.Text.Ahead.ofChar`
    * `GraphClient.Text.Ahead.step`

  A character may be drawn together with what follows it, as
  part of an emoji or as a letter of a ligature.  The number of
  columns that it adds then depends on what the text ahead
  begins with, and together they begin something else.
-/

------------------------------------------------------------
-- What Comes Next
------------------------------------------------------------

namespace GraphClient

namespace Text

/-
  What the text ahead of a character begins with, so far as
  the character may be drawn together with it.  A joined emoji
  stands behind a zero-width joiner, and a tag sequence, of so
  many letters or digits, ends before one.
-/
inductive Ahead : Type
| plain
| skinTone
| flagLetter
| flagLetters
| emoji
| joinedEmoji
| joinedKeycap
| joinedFlagLetter
| joinedFlags
| joinedFlagsAndLetter
| joinedTagEnd
| joinedTagLetters (count : Nat)
| joinedTagDigits (count : Nat)
| alef
| lamed
| joinedLamed
| bugineseYa
| joinedBugineseYa
| bugineseSignAndYa
| tifinaghConsonant
| joinedTifinaghConsonant
| tifinaghJoiner
| lisuTone
| orkhonI
| joinedOrkhonI
| khmerLetter
| kiratRaiE
| kiratRaiAi
deriving DecidableEq, Repr

end Text

end GraphClient

------------------------------------------------------------
-- Beginnings
------------------------------------------------------------

namespace GraphClient

namespace Text

namespace Ahead

/- What a character begins, read on its own. -/
def ofChar
    (c : Char) :
    Ahead :=
  if isPictograph c then
    .emoji
  else if isSkinTone c then
    .skinTone
  else if isFlagLetter c then
    .flagLetter
  else if isAlef c then
    .alef
  else if c == '\u05dc' then
    .lamed
  else if c == '\u1a10' then
    .bugineseYa
  else if isTifinaghConsonant c then
    .tifinaghConsonant
  else if isLisuSecondTone c then
    .lisuTone
  else if c.toNat == 0x10C03 then
    .orkhonI
  else if isSubscriptLetter c then
    .khmerLetter
  else if c.toNat == 0x16D67 then
    .kiratRaiE
  else if c.toNat == 0x16D68 then
    .kiratRaiAi
  else
    .plain

/- Whether an emoji, or its keycap, stands behind a joiner. -/
def isJoined : Ahead → Bool
| joinedEmoji => true
| joinedKeycap => true
| _ => false

/- Whether joiners and ignorable marks leave a ligature whole. -/
def isOpenLigature : Ahead → Bool
| lamed => true
| joinedLamed => true
| bugineseYa => true
| joinedBugineseYa => true
| bugineseSignAndYa => true
| tifinaghConsonant => true
| joinedTifinaghConsonant => true
| tifinaghJoiner => true
| lisuTone => true
| orkhonI => true
| joinedOrkhonI => true
| khmerLetter => true
| _ => false

/- Whether a letter begins the rest of a ligature. -/
def isLigature
    (a : Ahead) :
    Bool :=
  a == .alef || a.isOpenLigature

/- The rest of a ligature behind a zero-width joiner. -/
def joined : Ahead → Ahead
| lamed => joinedLamed
| bugineseYa => joinedBugineseYa
| tifinaghConsonant => joinedTifinaghConsonant
| orkhonI => joinedOrkhonI
| a => a

end Ahead

end Text

end GraphClient

------------------------------------------------------------
-- Emoji Sequences
------------------------------------------------------------

namespace GraphClient

namespace Text

namespace Ahead

/-
  One more character of a tag sequence with a number of letters
  at its end.  A region has three letters or more.
-/
def stepTagLetters
    (c : Char)
    (count : Nat) :
    Option (Int × Ahead) :=
  if isTagLetter c && count < 6 then
    some (0, .joinedTagLetters (count + 1))
  else if isTagDigit c && count < 5 then
    some (0, .joinedTagDigits 1)
  else if isTaggedFlag c && 3 ≤ count then
    some (0, .emoji)
  else
    none

/- One more character of a tag sequence with digits at its end. -/
def stepTagDigits
    (c : Char)
    (count : Nat) :
    Option (Int × Ahead) :=
  if isTagDigit c && count < 3 then
    some (0, .joinedTagDigits (count + 1))
  else if isTaggedFlag c && count == 3 then
    some (0, .emoji)
  else
    none

/- A character before an emoji that stands behind a joiner. -/
def stepJoinedEmoji
    (c : Char) :
    Option (Int × Ahead) :=
  if c == '\u20e3' then
    some (0, .joinedKeycap)
  else if isFlagLetter c then
    some (1, .joinedFlagLetter)
  else if isSkinTone c then
    some (0, .skinTone)
  else if c.toNat == 0xE007F then
    some (0, .joinedTagEnd)
  else if isPictograph c then
    some (0, .emoji)
  else
    none

/-
  A character that is drawn as one emoji with the text ahead:
  the columns that it adds, and what it begins.  Flag letters
  are paired from the left, so a pair that turns out to be split
  otherwise gives back a column or takes it.
-/
def stepEmoji
    (c : Char) :
    Ahead → Option (Int × Ahead)
| skinTone =>
    if takesSkinTone c then
      some (0, .emoji)
    else if c == joiner then
      some (0, .joinedEmoji)
    else
      none
| flagLetter =>
    if isFlagLetter c then some (1, .flagLetters) else none
| flagLetters =>
    if isFlagLetter c then
      some (1, .flagLetters)
    else if c == joiner then
      some (0, .joinedEmoji)
    else
      none
| emoji =>
    if c == joiner then some (0, .joinedEmoji) else none
| joinedEmoji => stepJoinedEmoji c
| joinedFlagLetter =>
    if isFlagLetter c then some (-1, .joinedFlags) else none
| joinedFlags =>
    if isFlagLetter c then
      some (3, .joinedFlagsAndLetter)
    else if c == joiner then
      some (0, .joinedEmoji)
    else
      none
| joinedFlagsAndLetter =>
    if isFlagLetter c then
      some (-1, .joinedFlags)
    else if c == joiner then
      some (0, .joinedEmoji)
    else
      none
| joinedTagEnd => stepTagLetters c 0
| joinedTagLetters count => stepTagLetters c count
| joinedTagDigits count => stepTagDigits c count
| _ => none

end Ahead

end Text

end GraphClient

------------------------------------------------------------
-- Ligatures
------------------------------------------------------------

namespace GraphClient

namespace Text

namespace Ahead

/-
  A letter that is drawn as one sign with the text ahead: the
  columns that it adds, and what it begins.
-/
def stepLetter
    (c : Char) :
    Ahead → Option (Int × Ahead)
| alef =>
    if isLam c then
      some (0, .plain)
    else if isJoiningTransparent c then
      some (0, .alef)
    else
      none
| joinedLamed =>
    if c == '\u05d0' then some (0, .plain) else none
| khmerLetter =>
    if c == '\u17d2' then some (-1, .plain) else none
| joinedBugineseYa =>
    if c == '\u1a17' then some (0, .bugineseSignAndYa) else none
| bugineseSignAndYa =>
    if c == '\u1a15' then some (0, .plain) else none
| tifinaghConsonant =>
    if c == '\u2d7f' then some (1, .tifinaghJoiner) else none
| joinedTifinaghConsonant =>
    if c == '\u2d7f' then
      some (1, .tifinaghJoiner)
    else if isTifinaghConsonant c then
      some (0, .plain)
    else
      none
| tifinaghJoiner =>
    if isTifinaghConsonant c then some (-1, .plain) else none
| lisuTone =>
    if isLisuFirstTone c then some (0, .plain) else none
| joinedOrkhonI =>
    if c.toNat == 0x10C32 then some (0, .plain) else none
| kiratRaiE =>
    if c.toNat == 0x16D63 || c.toNat == 0x16D69 then
      some (0, .plain)
    else if c.toNat == 0x16D67 then
      some (0, .kiratRaiAi)
    else if c.toNat == 0x16D68 then
      some (1, .kiratRaiE)
    else
      none
| kiratRaiAi =>
    if c.toNat == 0x16D63 then some (0, .plain) else none
| _ => none

/- A character that is drawn together with the text ahead. -/
def step
    (c : Char)
    (a : Ahead) :
    Option (Int × Ahead) :=
  (a.stepEmoji c).or (a.stepLetter c)

end Ahead

end Text

end GraphClient
