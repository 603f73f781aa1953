import NodeGroups.Text.Form

namespace NodeGroups.Url

/-- The bytes no part of an address holds as they are: controls, and everything beyond ASCII. -/
def escapedAnywhere (b : UInt8) : Bool := b < 0x20 || 0x7F ≤ b

def escapedInFragment (b : UInt8) : Bool :=
  escapedAnywhere b || b = 0x20 || b = 0x22 || b = 0x3C || b = 0x3E || b = 0x60

def escapedInPath (b : UInt8) : Bool :=
  escapedInFragment b || b = 0x23 || b = 0x3F || b = 0x7B || b = 0x7D

/-- User names and passwords escape whatever separates the parts of an address. -/
def escapedInUserinfo (b : UInt8) : Bool :=
  escapedInPath b || b = 0x2F || b = 0x3A || b = 0x3B || b = 0x3D || b = 0x40 || b = 0x5B ||
    b = 0x5C || b = 0x5D || b = 0x5E || b = 0x7C

def escapedInQuery (b : UInt8) : Bool :=
  escapedAnywhere b || b = 0x20 || b = 0x22 || b = 0x23 || b = 0x27 || b = 0x3C || b = 0x3E

/-- A text whose bytes in the given set stand behind percent signs. -/
def percentEncode (escaped : UInt8 → Bool) (cs : List Char) : List Char :=
  (Utf8.encode cs).flatMap fun b => if escaped b then Form.percentByte b else [Char.ofNat b.toNat]

/-- The text behind the percent signs. Bytes that are no UTF-8 become replacement characters. -/
def percentDecode (cs : List Char) : List Char :=
  Utf8.decodeLossy (Form.percentDecode (Utf8.encode cs))

end NodeGroups.Url
