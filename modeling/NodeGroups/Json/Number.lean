import NodeGroups.Json.Shortest
import NodeGroups.Text.Decimal

namespace NodeGroups.Json

/-- A JSON number: an integer that fits 64 bits, signed or unsigned, or a double. -/
inductive Number
  | int (i : Int)
  | float (x : Float)

structure Numeral where
  negative : Bool
  whole : List Char
  fraction : List Char
  /-- Whether the exponent is positive, and its digits. -/
  exponent : Option (Bool × List Char)

namespace Number

def wordMax : Nat := UInt64.size - 1

/-- The largest exponent that is counted exactly. -/
def exponentMax : Int := Int32.maxValue.toInt

def text : Number → String
  | int i => toString i
  | float x => Shortest.text x

/-- Takes in the digits of the whole part; once a word would overflow, digits are only counted. -/
def takeWhole : Nat × Nat → List Char → Nat × Nat
  | s, [] => s
  | (significand, dropped), c :: cs =>
    let next := 10 * significand + Decimal.digitValue c
    if dropped = 0 && next ≤ wordMax then takeWhole (next, 0) cs
    else takeWhole (significand, dropped + 1) cs

/-- Takes in the digits after the point; from the first that overflows a word on, they are left
out. Gives the significand and how many digits went into it. -/
def takeFraction (significand taken : Nat) : List Char → Nat × Nat
  | [] => (significand, taken)
  | c :: cs =>
    let next := 10 * significand + Decimal.digitValue c
    if next ≤ wordMax then takeFraction next (taken + 1) cs else (significand, taken)

/-- The value of an exponent's digits, or nothing when they pass `exponentMax`. -/
def takeExponent (acc : Int) : List Char → Option Int
  | [] => some acc
  | c :: cs =>
    let next := 10 * acc + Decimal.digitValue c
    if next ≤ exponentMax then takeExponent next cs else none

def powerOfTen (n : Nat) : Float := Float.ofScientific 1 false n

/-- `f * 10 ^ exponent`, by one multiplication or division where a double holds the power, and by
repeated division below that. Overflow gives nothing. -/
def scaleFloat (f : Float) (exponent : Int) : Option Float :=
  if exponent.natAbs ≤ 308 then
    if 0 ≤ exponent then
      let scaled := f * powerOfTen exponent.natAbs
      if scaled.isInf then none else some scaled
    else some (f / powerOfTen exponent.natAbs)
  else if f == 0.0 then some f
  else if 0 ≤ exponent then none
  else scaleFloat (f / powerOfTen 308) (exponent + 308)
termination_by exponent.natAbs
decreasing_by omega

def clampExponent (e : Int) : Int := max (-exponentMax - 1) (min exponentMax e)

/-- The double of a significand and a decimal exponent. -/
def ofParts (negative : Bool) (significand : Nat) (exponent : Int) : Option Number :=
  (scaleFloat (UInt64.ofNat significand).toFloat exponent).map fun f =>
    .float (if negative then -f else f)

/-- The number that a numeral stands for, or nothing when it is out of range. An integer that fits
64 bits stays one; minus zero and everything else is a double. -/
def ofNumeral? (n : Numeral) : Option Number :=
  let (whole, dropped) := takeWhole (0, 0) n.whole
  if dropped = 0 && n.fraction.isEmpty && n.exponent.isNone then
    if !n.negative then some (.int whole)
    else if whole ≠ 0 && whole ≤ UInt64.size / 2 then some (.int (-whole))
    else some (.float (-(UInt64.ofNat whole).toFloat))
  else
    let (significand, taken) := takeFraction whole 0 n.fraction
    let start := (dropped : Int) - taken
    match n.exponent with
    | none => ofParts n.negative significand start
    | some (positive, digits) =>
      match takeExponent 0 digits with
      | some e =>
        ofParts n.negative significand (clampExponent (if positive then start + e else start - e))
      | none =>
        if significand ≠ 0 && positive then none
        else some (.float (if n.negative then -0.0 else 0.0))

end Number
end NodeGroups.Json
