import NodeGroups.Error
import NodeGroups.Text.Decimal
import NodeGroups.Text.Offset

namespace NodeGroups

structure Duration where
  negative : Bool
  nanos : Nat
  deriving DecidableEq

namespace Duration

/-- Numbers of a duration are made of these. -/
def isNumeric (c : Char) : Bool := Decimal.isDigit c || c = '.'

def unitNanos (unit : List Char) : Option Float :=
  if unit = ['n', 's'] then some 1.0
  else if unit = ['u', 's'] || unit = ['µ', 's'] then some 1e3
  else if unit = ['m', 's'] then some 1e6
  else if unit = ['s'] then some 1e9
  else if unit = ['m'] then some (60.0 * 1e9)
  else if unit = ['h'] then some (3600.0 * 1e9)
  else none

/-- The value of digits with at most one point among them, which may also stand first or last. -/
def number? (cs : List Char) : Option Float :=
  match Text.cut '.' cs with
  | none =>
    if cs ≠ [] ∧ cs.all Decimal.isDigit then
      some (Float.ofScientific (Decimal.valueFrom 0 cs) false 0)
    else none
  | some (whole, fraction) =>
    if whole ++ fraction ≠ [] ∧ (whole ++ fraction).all Decimal.isDigit then
      some (Float.ofScientific (Decimal.valueFrom 0 (whole ++ fraction)) true fraction.length)
    else none

def invalid (raw : String) : ValidationError := .format ("invalid duration \"" ++ raw ++ "\"")

def missingUnit (raw : String) : ValidationError :=
  .format ("missing unit in duration \"" ++ raw ++ "\"")

def unknownUnit (raw : String) (unit : List Char) : ValidationError :=
  .format ("unknown unit \"" ++ String.ofList unit ++ "\" in duration \"" ++ raw ++ "\"")

/-- A number with its unit in front of a text, and what follows them. -/
structure Round where
  number : List Char
  unit : List Char
  amount : Float
  rest : List Char

/-- Takes a number with its unit off a text that is not empty; `raw` is the whole text, for errors. There
is no result if the text would have to be cut inside a character. -/
def round? (raw : String) (cs : List Char) : Option (Except ValidationError Round) :=
  match Text.offset? (fun c => !isNumeric c) cs with
  | none => some (.error (missingUnit raw))
  | some numberEnd =>
    if numberEnd = 0 then some (.error (invalid raw))
    else do
      let (number, behind) ← Text.cutAt? numberEnd cs
      match number? number with
      | none => some (.error (invalid raw))
      | some value =>
        let unitEnd := (Text.offset? isNumeric behind).getD (Text.byteLength behind)
        let (unit, rest) ← Text.cutAt? unitEnd behind
        match unitNanos unit with
        | none => some (.error (unknownUnit raw unit))
        | some scale => some (.ok ⟨number, unit, value * scale, rest⟩)

/-- A number goes as far as there are digits and points, and its unit up to the next of them. -/
theorem round?_eq (raw : String) (cs : List Char) : round? raw cs = some (
    if cs.dropWhile isNumeric = [] then .error (missingUnit raw)
    else if cs.takeWhile isNumeric = [] then .error (invalid raw)
    else
      match number? (cs.takeWhile isNumeric) with
      | none => .error (invalid raw)
      | some value =>
        match unitNanos ((cs.dropWhile isNumeric).takeWhile fun c => !isNumeric c) with
        | none =>
          .error (unknownUnit raw ((cs.dropWhile isNumeric).takeWhile fun c => !isNumeric c))
        | some scale =>
          .ok ⟨cs.takeWhile isNumeric, (cs.dropWhile isNumeric).takeWhile fun c => !isNumeric c,
            value * scale, (cs.dropWhile isNumeric).dropWhile fun c => !isNumeric c⟩) := by
  unfold round?
  cases hend : Text.offset? (fun c => !isNumeric c) cs with
  | none =>
    have hdrop : cs.dropWhile isNumeric = [] := by
      simpa only [Bool.not_not] using Text.offset?_eq_none_iff.mp hend
    rw [if_pos hdrop]
  | some numberEnd =>
    have hcut : Text.cutAt? numberEnd cs = some (cs.takeWhile isNumeric, cs.dropWhile isNumeric) := by
      simpa only [Bool.not_not] using Text.cutAt?_offset? hend
    have hdrop : cs.dropWhile isNumeric ≠ [] := by
      intro hnil
      have hnone : Text.offset? (fun c => !isNumeric c) cs = none := by
        simpa only [Text.offset?_eq_none_iff, Bool.not_not] using hnil
      rw [hnone] at hend
      cases hend
    have hzero : numberEnd = 0 ↔ cs.takeWhile isNumeric = [] := by
      rw [← (Text.cutAt?_eq_some_iff.mp hcut).2, Text.byteLength_eq_zero_iff]
    rw [if_neg hdrop]
    simp only [hzero, hcut]
    by_cases hempty : cs.takeWhile isNumeric = []
    · rw [if_pos hempty, if_pos hempty]
    · rw [if_neg hempty, if_neg hempty]
      simp only [Option.bind_eq_bind, Option.bind_some, Text.cutAt?_offset?_getD]
      cases number? (cs.takeWhile isNumeric) with
      | none => rfl
      | some value =>
        cases unitNanos ((cs.dropWhile isNumeric).takeWhile fun c => !isNumeric c) with
        | none => rfl
        | some scale => rfl

/-- No round cuts inside a character: what it searches for is found between characters. -/
theorem round?_isSome (raw : String) (cs : List Char) : (round? raw cs).isSome := by
  simp [round?_eq]

/-- The result of a round. -/
def round (raw : String) (cs : List Char) : Except ValidationError Round :=
  (round? raw cs).get (round?_isSome raw cs)

theorem round?_eq_round (raw : String) (cs : List Char) : round? raw cs = some (round raw cs) := by
  simp [round]

/-- The round was made at the front of `cs`, with a number and a unit that there are. -/
structure Round.IsAt (r : Round) (cs : List Char) : Prop where
  number : cs.takeWhile isNumeric = r.number
  unit : ((cs.dropWhile isNumeric).takeWhile fun c => !isNumeric c) = r.unit
  rest : ((cs.dropWhile isNumeric).dropWhile fun c => !isNumeric c) = r.rest
  amount : ∃ value scale, number? r.number = some value ∧ unitNanos r.unit = some scale ∧
    value * scale = r.amount

theorem number?_nil : number? [] = none := rfl

theorem unitNanos_nil : unitNanos [] = none := rfl

theorem round_eq_ok_iff {raw : String} {cs : List Char} {r : Round} :
    round raw cs = .ok r ↔ r.IsAt cs := by
  have hround := round?_eq raw cs
  rw [round?_eq_round, Option.some.injEq] at hround
  rw [hround]
  constructor
  · intro h
    split at h
    · cases h
    split at h
    · cases h
    split at h
    · cases h
    next value hvalue =>
    split at h
    · cases h
    next scale hscale =>
    cases h
    exact ⟨rfl, rfl, rfl, value, scale, hvalue, hscale, rfl⟩
  · intro h
    obtain ⟨number, unit, amount, rest⟩ := r
    obtain ⟨rfl, rfl, rfl, value, scale, hvalue, hscale, rfl⟩ := h
    have hdrop : cs.dropWhile isNumeric ≠ [] := by
      intro hnil
      simp [hnil, unitNanos_nil] at hscale
    have htake : cs.takeWhile isNumeric ≠ [] := by
      intro hnil
      simp [hnil, number?_nil] at hvalue
    simp only [if_neg hdrop, if_neg htake, hvalue, hscale]

/-- A round takes a number and a unit off, each of one character at least. -/
theorem Round.IsAt.takes {r : Round} {cs : List Char} (h : r.IsAt cs) :
    cs = r.number ++ r.unit ++ r.rest ∧ r.number ≠ [] ∧ r.unit ≠ [] := by
  obtain ⟨value, scale, hvalue, hscale, -⟩ := h.amount
  refine ⟨?_, ?_, ?_⟩
  · rw [← h.number, ← h.unit, ← h.rest, List.append_assoc, List.takeWhile_append_dropWhile,
      List.takeWhile_append_dropWhile]
  · intro hnil
    simp [hnil, number?_nil] at hvalue
  · intro hnil
    simp [hnil, unitNanos_nil] at hscale

theorem round_rest_length {raw : String} {cs : List Char} {r : Round} (h : round raw cs = .ok r) :
    r.rest.length < cs.length := by
  obtain ⟨happend, hnumber, -⟩ := (round_eq_ok_iff.mp h).takes
  have hpos := List.length_pos_iff.mpr hnumber
  have hlength := congrArg List.length happend
  simp only [List.length_append] at hlength
  omega

/-- Adds up numbers with units; `raw` is the whole text, for errors. -/
def sum (raw : String) (nanos : Float) (cs : List Char) : Except ValidationError Float :=
  if cs = [] then .ok nanos
  else
    match _h : round raw cs with
    | .error e => .error e
    | .ok r => sum raw (nanos + r.amount) r.rest
termination_by cs.length
decreasing_by exact round_rest_length _h

/-- The sign in front of a text, and what follows it. -/
def splitSign : List Char → Bool × List Char
  | '-' :: cs => (true, cs)
  | '+' :: cs => (false, cs)
  | cs => (false, cs)

/-- Reads a duration such as `1h30m` or `-1.5s`: after at most one sign, zero alone or numbers with
units. The sum is rounded to whole nanoseconds, halves away from zero, and kept within 64 bits. -/
def parse (raw : String) : Except ValidationError Duration :=
  let (negative, body) := splitSign raw.toList
  if body = [] then .error (invalid raw)
  else if body = ['0'] then .ok ⟨negative, 0⟩
  else (sum raw 0.0 body).map fun nanos => ⟨negative, nanos.round.toUInt64.toNat⟩

end Duration

/-- How long a project list stays fresh. -/
structure RefreshInterval where
  nanos : Nat
  pos : 0 < nanos

namespace RefreshInterval

def tooShort : ValidationError := .constraint "max projects age cannot be <= 0"

/-- The interval of a number of nanoseconds, which must not be zero. -/
def ofNanos (nanos : Nat) : Except ValidationError RefreshInterval :=
  if h : 0 < nanos then .ok ⟨nanos, h⟩ else .error tooShort

def parse (raw : String) : Except ValidationError RefreshInterval := do
  let d ← Duration.parse raw
  if d.negative then .error tooShort else ofNanos d.nanos

/-- Half an hour. -/
def standard : RefreshInterval := ⟨30 * 60 * 1000000000, by decide⟩

end RefreshInterval
end NodeGroups
