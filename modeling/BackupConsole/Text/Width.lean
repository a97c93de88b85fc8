import BackupConsole.Text.Emoji
import BackupConsole.Text.Wide
import BackupConsole.Text.ZeroWidth

set_option autoImplicit false

namespace BackupConsole.Text

/-- What on the right of a character may be drawn with it. -/
inductive Follower where
  | nothing
  | lineFeed
  | skinTone
  | regional
  | regionals
  | picture
  | joinedPicture
  | joinedKeycap
  /-- One regional indicator before a joined picture, then an even number, then an odd one. -/
  | joinedRegional
  | joinedRegionalPairs
  | joinedRegionalOdd
  /-- So many letters, or digits before letters, of a tag that ends before a joined picture. -/
  | tagLetters (count : Nat)
  | tagDigits (count : Nat)
  | alef
  | lamed (joined : Bool)
  | bugineseYa (joined : Bool)
  | bugineseVowelYa
  | tifinagh (joined : Bool)
  | tifinaghJoined
  | lisuTone
  | orkhonI (joined : Bool)
  | khmerLetter
deriving DecidableEq, Repr

inductive Selector where
  | text
  | picture
deriving DecidableEq, Repr

/-- What is on the right of a character: a selector, and what may be drawn with the character. -/
structure Context where
  follower : Follower := .nothing
  selector : Option Selector := none
deriving DecidableEq, Repr

/-- Marks between the letters of a ligature do not part them: combining marks that are not shown. -/
def isHiddenMark (c : Char) : Bool :=
  let n := c.toNat
  n == 0x34F || n == 0x17B4 || n == 0x17B5 || (0x180B ≤ n && n ≤ 0x180D) || n == 0x180F ||
    (0xFE00 ≤ n && n ≤ 0xFE0F) || (0xE0100 ≤ n && n ≤ 0xE01EF)

def isLam (c : Char) : Bool :=
  let n := c.toNat
  n == 0x644 || (0x6B5 ≤ n && n ≤ 0x6B8) || n == 0x76A || n == 0x8A6 || n == 0x8C7

def isAlef (c : Char) : Bool :=
  let n := c.toNat
  n == 0x622 || n == 0x623 || n == 0x625 || n == 0x627 || (0x671 ≤ n && n ≤ 0x673) || n == 0x675 ||
    n == 0x773 || n == 0x774 || (0x870 ≤ n && n ≤ 0x882)

def isKhmerLetter (c : Char) : Bool :=
  let n := c.toNat
  (0x1780 ≤ n && n ≤ 0x17AF) &&
    !([0x1783, 0x1788, 0x178D, 0x1794, 0x1799, 0x179A, 0x179E, 0x179F, 0x17A1, 0x17A3, 0x17A4,
      0x17A5, 0x17A6, 0x17A8, 0x17A9, 0x17AA, 0x17AD, 0x17AE].contains n)

def isTifinaghConsonant (c : Char) : Bool :=
  (0x2D31 ≤ c.toNat && c.toNat ≤ 0x2D65) || c.toNat == 0x2D6F

def ownWidth (c : Char) : Nat × Context :=
  let n := c.toNat
  if isZeroWidth c then (0, {})
  else if isSkinTone c then (2, { follower := .skinTone })
  else if isRegional c then (1, { follower := .regional })
  else if isPicture c then (2, { follower := .picture })
  else if isAlef c then (1, { follower := .alef })
  else if isKhmerLetter c then (1, { follower := .khmerLetter })
  else if isTifinaghConsonant c then (1, { follower := .tifinagh false })
  else
    match n with
    | 0x5DC => (1, { follower := .lamed false })
    | 0x17D8 => (3, {})
    | 0x1A10 => (1, { follower := .bugineseYa false })
    | 0xA4FC | 0xA4FD => (1, { follower := .lisuTone })
    | 0x10C03 => (1, { follower := .orkhonI false })
    | _ => (if isWide c then 2 else 1, {})

namespace Follower

def isLetter : Follower → Bool
  | .alef | .lamed _ | .bugineseYa _ | .bugineseVowelYa | .tifinagh _ | .tifinaghJoined => true
  | .lisuTone | .orkhonI _ | .khmerLetter => true
  | _ => false

def isJoined : Follower → Bool
  | .joinedPicture | .joinedKeycap => true
  | _ => false

/-- A letter with a joiner on its left. The joiner parts a lam from its alef only. -/
def join : Follower → Follower
  | .lamed _ => .lamed true
  | .bugineseYa _ => .bugineseYa true
  | .tifinagh _ => .tifinagh true
  | .orkhonI _ => .orkhonI true
  | f => f

def absorb? (f : Follower) (c : Char) : Option (Int × Follower) :=
  let n := c.toNat
  let tagLetter := 0xE0061 ≤ n && n ≤ 0xE007A
  let tagDigit := 0xE0030 ≤ n && n ≤ 0xE0039
  let joiner := n == 0x200D
  match f with
  | .alef =>
    if isLam c then some (0, .nothing) else if isTransparent c then some (0, .alef) else none
  | .lamed true => if n = 0x5D0 then some (0, .nothing) else none
  | .khmerLetter => if n = 0x17D2 then some (-1, .nothing) else none
  | .bugineseYa true => if n = 0x1A17 then some (0, .bugineseVowelYa) else none
  | .bugineseVowelYa => if n = 0x1A15 then some (0, .nothing) else none
  | .tifinagh joined =>
    if n = 0x2D7F then some (1, .tifinaghJoined)
    else if joined && isTifinaghConsonant c then some (0, .nothing)
    else none
  | .tifinaghJoined => if isTifinaghConsonant c then some (-1, .nothing) else none
  | .lisuTone => if 0xA4F8 ≤ n ∧ n ≤ 0xA4FB then some (0, .nothing) else none
  | .orkhonI true => if n = 0x10C32 then some (0, .nothing) else none
  | .skinTone =>
    if isToneable c then some (0, .picture) else if joiner then some (0, .joinedPicture) else none
  | .regional => if isRegional c then some (1, .regionals) else none
  | .regionals =>
    if isRegional c then some (1, .regionals)
    else if joiner then some (0, .joinedPicture)
    else none
  | .picture => if joiner then some (0, .joinedPicture) else none
  | .joinedPicture =>
    if n = 0x20E3 then some (0, .joinedKeycap)
    else if isRegional c then some (1, .joinedRegional)
    else if isSkinTone c then some (0, .skinTone)
    else if n = 0xE007F then some (0, .tagLetters 0)
    else if isPicture c then some (0, .picture)
    else none
  | .joinedRegional => if isRegional c then some (-1, .joinedRegionalPairs) else none
  | .joinedRegionalOdd =>
    if isRegional c then some (-1, .joinedRegionalPairs)
    else if joiner then some (0, .joinedPicture)
    else none
  | .joinedRegionalPairs =>
    if isRegional c then some (3, .joinedRegionalOdd)
    else if joiner then some (0, .joinedPicture)
    else none
  | .tagLetters count =>
    if tagLetter && count < 6 then some (0, .tagLetters (count + 1))
    else if tagDigit && count ≤ 4 then some (0, .tagDigits 1)
    else if n = 0x1F3F4 ∧ 3 ≤ count then some (0, .picture)
    else none
  | .tagDigits count =>
    if tagDigit && count < 3 then some (0, .tagDigits (count + 1))
    else if n = 0x1F3F4 ∧ count = 3 then some (0, .picture)
    else none
  | _ => none

end Follower

/-- What a character adds to the width of the text on its right. A selector that does not fit the
character has no effect. -/
def place (c : Char) (right : Context) : Int × Context :=
  let n := c.toNat
  let f := right.follower
  if right.selector = some .picture && becomesPicture c then
    (if f.isJoined then 0 else 2, { follower := .picture })
  else
    let f := if right.selector = some .picture && !f.isLetter then .nothing else f
    let selector := if right.selector = some .text then right.selector else none
    if n ≤ 0xA0 then
      if n = 10 then (1, { follower := .lineFeed })
      else (if n = 13 && f = .lineFeed then 0 else 1, {})
    else if n = 0xFE0F then
      let kept : Follower := if f.isLetter || f.isJoined then f else .nothing
      (0, { follower := kept, selector := some .picture })
    else if n = 0xFE0E then
      (0, { follower := if f.isLetter then f else .nothing, selector := some .text })
    else if selector = some .text && becomesText c then (1, {})
    else if f.isLetter && f != .alef && n = 0x200D then (0, { follower := f.join })
    else if f.isLetter && f != .alef && isHiddenMark c then (0, { follower := f })
    else
      match f.absorb? c with
      | some (add, f) => (add, { follower := f })
      | none =>
        let (width, context) := ownWidth c
        (width, context)

def width (s : List Char) : Nat :=
  (s.foldr (fun c (sum, right) =>
    let (add, left) := place c right
    (sum + add, left)) ((0 : Int), ({} : Context))).1.toNat

theorem width_singleton_ascii {c : Char} (low : 32 ≤ c.toNat) (high : c.toNat < 127) :
    width [c] = 1 := by
  have notFeed : ¬ c.toNat = 10 := by omega
  have within : c.toNat ≤ 0xA0 := by omega
  simp [width, place, notFeed, within]

end BackupConsole.Text
