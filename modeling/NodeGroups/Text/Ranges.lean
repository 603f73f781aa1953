namespace NodeGroups.Text

/-- The value of a lower-case hexadecimal digit. -/
def hexValue (c : Char) : Nat := if c.toNat < 0x3A then c.toNat - 0x30 else c.toNat - 0x57

/-- A table of hexadecimal numbers, some negative, separated by blanks. -/
def numbers (table : String) : List Int :=
  let finish (word : Option (Bool × Nat)) (done : List Int) : List Int :=
    match word with
    | none => done
    | some (true, n) => -(n : Int) :: done
    | some (false, n) => (n : Int) :: done
  let step (s : Option (Bool × Nat) × List Int) (c : Char) : Option (Bool × Nat) × List Int :=
    if c = ' ' || c = '\n' then (none, finish s.1 s.2)
    else if c = '-' then (some (true, 0), s.2)
    else match s.1 with
      | none => (some (false, hexValue c), s.2)
      | some (neg, n) => (some (neg, 16 * n + hexValue c), s.2)
  let last := table.toList.foldl step (none, [])
  (finish last.1 last.2).reverse

/-- A table of ascending code point ranges: `lo-hi`, or one code point, separated by blanks. -/
def ranges (table : String) : Array (Nat × Nat) :=
  let finish (word : Option (Option Nat × Nat)) (done : Array (Nat × Nat)) : Array (Nat × Nat) :=
    match word with
    | none => done
    | some (some lo, n) => done.push (lo, n)
    | some (none, n) => done.push (n, n)
  let step (s : Option (Option Nat × Nat) × Array (Nat × Nat)) (c : Char) :
      Option (Option Nat × Nat) × Array (Nat × Nat) :=
    if c = ' ' || c = '\n' then (none, finish s.1 s.2)
    else match s.1 with
      | none => (some (none, hexValue c), s.2)
      | some (lo, n) =>
        if c = '-' then (some (some n, 0), s.2) else (some (lo, 16 * n + hexValue c), s.2)
  let last := table.toList.foldl step (none, #[])
  finish last.1 last.2

/-- Every step-th code point from the first to the last is moved by the shift. -/
structure ShiftRun where
  first : Nat
  last : Nat
  step : Nat
  shift : Int
  deriving Inhabited

/-- Reads the numbers of a table four by four. -/
def ShiftRun.readAll : List Int → List ShiftRun
  | a :: b :: s :: d :: rest => ⟨a.toNat, b.toNat, s.toNat, d⟩ :: readAll rest
  | _ => []

/-- A table of ascending runs that do not overlap. -/
def shiftRuns (table : String) : Array ShiftRun := (ShiftRun.readAll (numbers table)).toArray

/-- Reads the numbers of a table three by three. -/
def readTriples : List Int → List (Nat × Nat × Nat)
  | a :: b :: c :: rest => (a.toNat, b.toNat, c.toNat) :: readTriples rest
  | _ => []

/-- A table of rows of three numbers, the first of each row ascending. -/
def triples (table : String) : Array (Nat × Nat × Nat) := (readTriples (numbers table)).toArray

/-- A table of rows `key:a,b,...` in ascending order of the keys. -/
def keyed (table : String) : Array (Nat × List Nat) :=
  let finish (row : Option Nat × List Nat × Nat) (done : Array (Nat × List Nat)) :
      Array (Nat × List Nat) :=
    match row.1 with
    | none => done
    | some key => done.push (key, (row.2.2 :: row.2.1).reverse)
  let step (s : (Option Nat × List Nat × Nat) × Array (Nat × List Nat)) (c : Char) :
      (Option Nat × List Nat × Nat) × Array (Nat × List Nat) :=
    if c = ' ' || c = '\n' then ((none, [], 0), finish s.1 s.2)
    else if c = ':' then ((some s.1.2.2, [], 0), s.2)
    else if c = ',' then ((s.1.1, s.1.2.2 :: s.1.2.1, 0), s.2)
    else ((s.1.1, s.1.2.1, 16 * s.1.2.2 + hexValue c), s.2)
  let last := table.toList.foldl step ((none, [], 0), #[])
  finish last.1 last.2

/-- The position of the last element between `lo` and `hi` whose key is at most `n`, found by
halving; `lo` when there is none. -/
def lastAtMost {α : Type} (key : α → Nat) (t : Array α) (n lo hi : Nat) : Nat :=
  if lo + 1 < hi then
    let mid := (lo + hi) / 2
    match t[mid]? with
    | none => lo
    | some x => if key x ≤ n then lastAtMost key t n mid hi else lastAtMost key t n lo mid
  else lo
termination_by hi - lo

/-- Whether a code point lies in one of the ascending ranges. -/
def inRanges (t : Array (Nat × Nat)) (n : Nat) : Bool :=
  match t[lastAtMost Prod.fst t n 0 t.size]? with
  | none => false
  | some (lo, hi) => lo ≤ n && n ≤ hi

/-- Where a code point is moved to, if one of the runs moves it. -/
def shifted? (t : Array ShiftRun) (n : Nat) : Option Nat :=
  match t[lastAtMost ShiftRun.first t n 0 t.size]? with
  | none => none
  | some r =>
    if r.first ≤ n && n ≤ r.last && (n - r.first) % r.step = 0 then some ((n : Int) + r.shift).toNat
    else none

def row? (t : Array (Nat × List Nat)) (key : Nat) : Option (List Nat) :=
  match t[lastAtMost Prod.fst t key 0 t.size]? with
  | none => none
  | some r => if r.1 = key then some r.2 else none

end NodeGroups.Text
