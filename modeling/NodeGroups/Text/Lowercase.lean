import NodeGroups.Text.CaseTable

namespace NodeGroups.Text

/-- The lower case of a code point above ASCII, by the table of one-to-one pairs. -/
def lowerByTable (n : Nat) : Nat := (shifted? caseRuns n).getD n

/-- The lower case of a character out of context. Only the dotted capital I becomes two characters. -/
def lowerChar (c : Char) : List Char :=
  if c.toNat < 0x80 then [if 'A' ≤ c && c ≤ 'Z' then Char.ofNat (c.toNat + 0x20) else c]
  else if c.toNat = 0x130 then ['i', '\u0307']
  else [Char.ofNat (lowerByTable c.toNat)]

/-- Whether the nearest character that is not passed over takes part in case. -/
def nextIsCased : List Char → Bool
  | [] => false
  | c :: cs =>
    if inRanges caseIgnorable c.toNat then nextIsCased cs else inRanges cased c.toNat

/-- Lower case with what stands before, nearest first. A capital sigma that ends a word becomes the
final form. -/
def lowerFrom (before : List Char) : List Char → List Char
  | [] => []
  | c :: cs =>
    (if c.toNat = 0x3A3 then [if nextIsCased before && !nextIsCased cs then '\u03c2' else '\u03c3']
      else lowerChar c) ++ lowerFrom (c :: before) cs

def lowercase (s : String) : String := String.ofList (lowerFrom [] s.toList)

end NodeGroups.Text
