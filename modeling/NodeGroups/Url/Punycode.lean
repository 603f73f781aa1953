namespace NodeGroups.Url.Punycode

/-- The letter or digit of a value below 36. -/
def digitChar (d : Nat) : Char := Char.ofNat (if d < 26 then 0x61 + d else 0x16 + d)

def digitValue? (c : Char) : Option Nat :=
  if 'a' ≤ c && c ≤ 'z' then some (c.toNat - 0x61)
  else if 'A' ≤ c && c ≤ 'Z' then some (c.toNat - 0x41)
  else if '0' ≤ c && c ≤ '9' then some (c.toNat - 0x16)
  else none

/-- A digit below the threshold ends a number; `position` counts in steps of 36. -/
def threshold (position bias : Nat) : Nat :=
  if position ≤ bias then 1 else if bias + 26 ≤ position then 26 else position - bias

theorem threshold_pos (position bias : Nat) : 0 < threshold position bias := by
  unfold threshold
  split
  · omega
  · split <;> omega

theorem threshold_le (position bias : Nat) : threshold position bias ≤ 26 := by
  unfold threshold
  split
  · omega
  · split <;> omega

/-- Brings a distance into the range of one digit, counting the digits in steps of 36. -/
def shrink (delta digits : Nat) : Nat × Nat :=
  if 455 < delta then shrink (delta / 35) (digits + 36) else (delta, digits)
termination_by delta
decreasing_by exact Nat.div_lt_self (by omega) (by omega)

/-- The bias after a distance was written; `count` characters are placed by then. -/
def adapt (delta count : Nat) (first : Bool) : Nat :=
  let halved := if first then delta / 700 else delta / 2
  let (rest, digits) := shrink (halved + halved / count) 0
  digits + 36 * rest / (rest + 38)

def digits (bias position delta : Nat) : List Char :=
  let t := threshold position bias
  if delta < t then [digitChar delta]
  else digitChar (t + (delta - t) % (36 - t)) :: digits bias (position + 36) ((delta - t) / (36 - t))
termination_by delta
decreasing_by
  have := threshold_pos position bias
  exact Nat.lt_of_le_of_lt (Nat.div_le_self _ _) (by omega)

def maxEncoded : Nat := 1000

def maxDecoded : Nat := 2000

/-- What has been written, the distance since then, the bias, and how many characters are placed. -/
structure Encoder where
  written : List Char
  delta : Nat
  bias : Nat
  placed : Nat

/-- Passes over one character of the text while all occurrences of `next` are being placed. -/
def Encoder.pass (basics next : Nat) (e : Encoder) (c : Char) : Encoder :=
  if c.toNat < next then { e with delta := e.delta + 1 }
  else if c.toNat = next then
    ⟨e.written ++ digits e.bias 36 e.delta, 0, adapt e.delta (e.placed + 1) (e.placed = basics),
      e.placed + 1⟩
  else e

/-- Places the code points of a list, which ascend from `start` on. -/
def Encoder.place (text : List Char) (basics : Nat) (start : Nat) (e : Encoder) :
    List Nat → Encoder
  | [] => e
  | next :: rest =>
    let ready := { e with delta := e.delta + (next - start) * (e.placed + 1) }
    let passed := text.foldl (Encoder.pass basics next) ready
    Encoder.place text basics (next + 1) { passed with delta := passed.delta + 1 } rest

/-- Adds a number to an ascending list that lacks it. -/
def insertSorted (n : Nat) : List Nat → List Nat
  | [] => [n]
  | m :: ms => if n < m then n :: m :: ms else if n = m then m :: ms else m :: insertSorted n ms

/-- The code points beyond ASCII, ascending, each once. -/
def extended (text : List Char) : List Nat :=
  (text.filter fun c => 0x80 ≤ c.toNat).foldr (fun c ns => insertSorted c.toNat ns) []

/-- A label in ASCII: first its ASCII characters, then where the others belong. -/
def encode? (text : List Char) : Option (List Char) :=
  if maxEncoded < text.length then none
  else
    let basic := text.filter fun c => c.toNat < 0x80
    let encoder := Encoder.place text basic.length 0x80 ⟨[], 0, 72, basic.length⟩ (extended text)
    some (basic ++ (if basic.isEmpty then [] else ['-']) ++ encoder.written)

/-- Reads a distance, and gives what follows it. -/
def readDelta (bias : Nat) : Nat → Nat → Nat → List Char → Option (Nat × List Char)
  | _, _, _, [] => none
  | position, weight, sum, c :: cs =>
    match digitValue? c with
    | none => none
    | some d =>
      if d < threshold position bias then some (sum + d * weight, cs)
      else readDelta bias (position + 36) (weight * (36 - threshold position bias)) (sum + d * weight) cs

theorem readDelta_length {bias position weight sum : Nat} {cs : List Char} {r : Nat × List Char}
    (h : readDelta bias position weight sum cs = some r) : r.2.length < cs.length := by
  fun_induction readDelta bias position weight sum cs
  case case1 => cases h
  case case2 => cases h
  case case3 => cases h; simp
  case case4 ih => have := ih h; simp only [List.length_cons]; omega

/-- Places the characters that the digits describe. The next one comes no earlier than code point
`code`, at `index` of the text so far. -/
def insertAll (text : List Char) (code index bias : Nat) (cs : List Char) : Option (List Char) :=
  match cs with
  | [] => some text
  | c :: rest =>
    match _h : readDelta bias 36 1 index (c :: rest) with
    | none => none
    | some (sum, after) =>
      let count := text.length + 1
      let next := code + sum / count
      if next < 0xD800 || (0xE000 ≤ next && next < 0x110000) then
        let place := sum % count
        insertAll (text.take place ++ Char.ofNat next :: text.drop place) next (place + 1)
          (adapt (sum - index) count (index = 0)) after
      else none
termination_by cs.length
decreasing_by exact readDelta_length _h

/-- The text of a label in ASCII. The digits begin after the last hyphen. -/
def decode? (cs : List Char) : Option (List Char) :=
  if maxDecoded < cs.length then none
  else
    let digits := (cs.reverse.takeWhile (· ≠ '-')).reverse
    let before := cs.take (cs.length - digits.length)
    if digits.isEmpty || before.length = 1 then none
    else insertAll before.dropLast 0x80 0 72 digits

end NodeGroups.Url.Punycode
