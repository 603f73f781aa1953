namespace NodeGroups.Decimal

def isDigit (c : Char) : Bool := '0' ≤ c && c ≤ '9'

def digitValue (c : Char) : Nat := c.toNat - '0'.toNat

/-- The number a run of digits stands for, the digits read so far being worth `acc`. -/
def valueFrom (acc : Nat) (cs : List Char) : Nat := cs.foldl (fun n c => 10 * n + digitValue c) acc

/-- The number written by one or more ASCII digits. -/
def digits? (cs : List Char) : Option Nat :=
  if cs ≠ [] ∧ cs.all isDigit then some (valueFrom 0 cs) else none

/-- An unsigned integer up to `max`: digits, perhaps after one plus sign. -/
def unsigned? (max : Nat) (s : String) : Option Nat :=
  let body := match s.toList with
    | '+' :: cs => cs
    | cs => cs
  (digits? body).filter (· ≤ max)

/-- A signed integer of 64 bits: digits, perhaps after one sign. -/
def int64? (s : String) : Option Int64 :=
  let value : Option Int := match s.toList with
    | '-' :: cs => (digits? cs).map fun n => -(n : Int)
    | '+' :: cs => (digits? cs).map Int.ofNat
    | cs => (digits? cs).map Int.ofNat
  (value.filter fun i => Int64.minValue.toInt ≤ i && i ≤ Int64.maxValue.toInt).map Int64.ofInt

/-- Sizes and counts of the engine are held in 64 bits. -/
def maxSize : Nat := UInt64.size - 1

end NodeGroups.Decimal
