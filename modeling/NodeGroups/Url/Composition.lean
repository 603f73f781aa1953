import NodeGroups.Url.CompositionTable

namespace NodeGroups.Url

/-- The combining class of a code point: zero for what starts a character. -/
def combiningClass (n : Nat) : Nat :=
  match combiningClasses[Text.lastAtMost Prod.fst combiningClasses n 0 combiningClasses.size]? with
  | none => 0
  | some (first, last, value) => if first ≤ n && n ≤ last then value else 0

/-- The two parts of a composed character. -/
def parts? (n : Nat) : Option (Nat × Nat) :=
  match compositions[Text.lastAtMost Prod.fst compositions n 0 compositions.size]? with
  | none => none
  | some (whole, first, second) => if whole = n then some (first, second) else none

/-- The jamo of a Hangul syllable. -/
def jamo? (n : Nat) : Option (List Nat) :=
  if 0xAC00 ≤ n && n ≤ 0xD7A3 then
    let s := n - 0xAC00
    let tail := s % 28
    some ([0x1100 + s / 588, 0x1161 + s % 588 / 28] ++ if tail = 0 then [] else [0x11A7 + tail])
  else none

/-- A code point taken apart, at most `depth` times over. -/
def decompose : Nat → Nat → List Nat
  | 0, n => [n]
  | depth + 1, n =>
    match jamo? n with
    | some jamo => jamo
    | none =>
      match parts? n with
      | none => [n]
      | some (first, second) => decompose depth first ++ [second]

/-- No character has more than three marks composed onto it. -/
def maxDepth : Nat := 4

/-- Puts a code point in front; a mark moves behind the marks of lower class. -/
def insertMark (n : Nat) : List Nat → List Nat
  | [] => [n]
  | m :: ms =>
    if combiningClass m ≠ 0 && combiningClass m < combiningClass n then m :: insertMark n ms
    else n :: m :: ms

/-- The character of two parts. -/
def compose? (first second : Nat) : Option Nat :=
  if 0x1100 ≤ first && first < 0x1113 && 0x1161 ≤ second && second < 0x1176 then
    some (0xAC00 + ((first - 0x1100) * 21 + (second - 0x1161)) * 28)
  else if 0xAC00 ≤ first && first ≤ 0xD7A3 && (first - 0xAC00) % 28 = 0 && 0x11A8 ≤ second &&
      second < 0x11C3 then
    some (first + (second - 0x11A7))
  else (compositions.find? fun c => c.2 = (first, second)).map Prod.fst

/-- Composes marks onto `start`. The marks that did not compose wait, last first; a mark of the same
class as the last of them, or a lower one, cannot pass it. -/
def composeOnto (start : Nat) (waiting : List Nat) : List Nat → List Nat
  | [] => start :: waiting.reverse
  | n :: ns =>
    let blocked := match waiting with
      | [] => false
      | last :: _ => combiningClass n ≤ combiningClass last
    match if blocked then none else compose? start n with
    | some whole => composeOnto whole waiting ns
    | none =>
      if combiningClass n = 0 then start :: waiting.reverse ++ composeOnto n [] ns
      else composeOnto start (n :: waiting) ns

/-- Leading marks stay; from the first starter on, marks are composed. -/
def composeAll : List Nat → List Nat
  | [] => []
  | n :: ns => if combiningClass n = 0 then composeOnto n [] ns else n :: composeAll ns

/-- The composed form of a text, in which equal characters are written the same way. -/
def composed (cs : List Char) : List Char :=
  let apart := cs.flatMap fun c => decompose maxDepth c.toNat
  (composeAll (apart.foldr insertMark [])).map Char.ofNat

end NodeGroups.Url
