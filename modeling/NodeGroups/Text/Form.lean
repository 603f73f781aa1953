import NodeGroups.Text.Map
import NodeGroups.Text.Split
import NodeGroups.Text.Utf8

namespace NodeGroups.Form

/-- The bytes a form component keeps: letters, digits and four marks. -/
def isKept (b : UInt8) : Bool :=
  (0x30 ≤ b && b ≤ 0x39) || (0x41 ≤ b && b ≤ 0x5A) || (0x61 ≤ b && b ≤ 0x7A) ||
    b = 0x2A || b = 0x2D || b = 0x2E || b = 0x5F

def hexDigit (n : Nat) : Char := Char.ofNat (if n < 10 then 0x30 + n else 0x37 + n)

/-- A byte behind a percent sign. -/
def percentByte (b : UInt8) : List Char :=
  ['%', hexDigit (b.toNat / 16), hexDigit (b.toNat % 16)]

/-- One byte of a component. A space is `%20`, never a plus sign. -/
def encodeByte (b : UInt8) : List Char := if isKept b then [Char.ofNat b.toNat] else percentByte b

/-- One component: a key or a value. -/
def encodeComponent (cs : List Char) : List Char := (Utf8.encode cs).flatMap encodeByte

def encodePair (p : String × String) : List Char :=
  encodeComponent p.1.toList ++ '=' :: encodeComponent p.2.toList

/-- The pairs, each as `key=value`, joined by ampersands. -/
def encodePairs : List (String × String) → List Char
  | [] => []
  | [p] => encodePair p
  | p :: q :: ps => encodePair p ++ '&' :: encodePairs (q :: ps)

/-- The query of a map, its keys ascending. -/
def encodeMap (m : TextMap) : String := String.ofList (encodePairs m.toList)

/-- The value of a hexadecimal digit of either case. -/
def hexValue? (b : UInt8) : Option Nat :=
  if 0x30 ≤ b && b ≤ 0x39 then some (b.toNat - 0x30)
  else if 0x41 ≤ b && b ≤ 0x46 then some (b.toNat - 0x37)
  else if 0x61 ≤ b && b ≤ 0x66 then some (b.toNat - 0x57)
  else none

/-- Undoes percent encoding; a percent sign that leads no two hexadecimal digits stays. -/
def percentDecode : List UInt8 → List UInt8
  | [] => []
  | b :: bs =>
    match bs with
    | h :: l :: rest =>
      if b = 0x25 then
        match hexValue? h, hexValue? l with
        | some x, some y => UInt8.ofNat (16 * x + y) :: percentDecode rest
        | _, _ => b :: percentDecode (h :: l :: rest)
      else b :: percentDecode (h :: l :: rest)
    | short => b :: percentDecode short

/-- Reads a component back: plus signs are spaces, percent sequences are bytes of UTF-8. -/
def decodeComponent (cs : List Char) : String :=
  String.ofList (Utf8.decodeLossy (percentDecode (Utf8.encode
    (cs.map fun c => if c = '+' then ' ' else c))))

/-- Reads one piece; without an equals sign the value is empty. -/
def decodePiece (cs : List Char) : String × String :=
  match Text.cut '=' cs with
  | some (k, v) => (decodeComponent k, decodeComponent v)
  | none => (decodeComponent cs, "")

/-- The pairs of a form, in order; empty pieces are none. -/
def decodePairs (s : String) : List (String × String) :=
  ((Text.splitOn '&' s.toList).filter (· ≠ [])).map decodePiece

end NodeGroups.Form
