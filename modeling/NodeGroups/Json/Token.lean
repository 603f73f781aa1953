import NodeGroups.Json.Number

namespace NodeGroups.Json

/-- The smallest parts of JSON text. A number out of range and a string with half a surrogate pair
are tokens too: only who reads their value must refuse them. -/
inductive Token
  | openObject
  | closeObject
  | openArray
  | closeArray
  | comma
  | colon
  | null
  | bool (b : Bool)
  | num (n : Option Number)
  | str (s : Option String)
  /-- What follows is no token. -/
  | broken

namespace Token

/-- One code unit of a string: a character, or half of a surrogate pair written as an escape. -/
inductive Part
  | char (c : Char)
  | surrogate (unit : Nat)

/-- Joins the surrogate pairs; a half on its own gives nothing. -/
def joinParts : List Part → Option (List Char)
  | [] => some []
  | .char c :: ps => (joinParts ps).map (c :: ·)
  | .surrogate high :: .surrogate low :: ps =>
    if high < 0xDC00 && 0xDC00 ≤ low then
      (joinParts ps).map (Char.ofNat (0x10000 + (high - 0xD800) * 0x400 + (low - 0xDC00)) :: ·)
    else none
  | .surrogate _ :: _ => none

def hexValue? (c : Char) : Option Nat :=
  if '0' ≤ c && c ≤ '9' then some (c.toNat - 0x30)
  else if 'a' ≤ c && c ≤ 'f' then some (c.toNat - 0x57)
  else if 'A' ≤ c && c ≤ 'F' then some (c.toNat - 0x37)
  else none

/-- The unit of four hexadecimal digits. -/
def unit? (a b c d : Char) : Option Part := do
  let n := (((← hexValue? a) * 16 + (← hexValue? b)) * 16 + (← hexValue? c)) * 16 + (← hexValue? d)
  pure (if 0xD800 ≤ n && n ≤ 0xDFFF then .surrogate n else .char (Char.ofNat n))

/-- The character behind a backslash, `u` apart. -/
def escape? (c : Char) : Option Char :=
  match c with
  | '"' => some '"'
  | '\\' => some '\\'
  | '/' => some '/'
  | 'b' => some (Char.ofNat 8)
  | 'f' => some (Char.ofNat 12)
  | 'n' => some '\n'
  | 'r' => some '\r'
  | 't' => some '\t'
  | _ => none

/-- Reads a string behind its opening quote: its parts, last first, and what follows. -/
def readString (acc : List Part) : List Char → Option (List Part × List Char)
  | [] => none
  | '"' :: rest => some (acc, rest)
  | '\\' :: 'u' :: a :: b :: c :: d :: rest =>
    match unit? a b c d with
    | none => none
    | some p => readString (p :: acc) rest
  | '\\' :: e :: rest =>
    match escape? e with
    | none => none
    | some c => readString (.char c :: acc) rest
  | c :: rest => if c.toNat < 0x20 || c = '\\' then none else readString (.char c :: acc) rest

theorem readString_length {acc : List Part} {cs : List Char} {r : List Part × List Char}
    (h : readString acc cs = some r) : r.2.length < cs.length := by
  fun_induction readString acc cs
  all_goals first
    | (simp only [reduceCtorEq] at h)
    | (cases h; simp)
    | (next ih => have := ih h; simp only [List.length_cons] at *; omega)

/-- The digits at the front of a text, and the rest. -/
def digitRun : List Char → List Char × List Char
  | [] => ([], [])
  | c :: cs =>
    if Decimal.isDigit c then
      let r := digitRun cs
      (c :: r.1, r.2)
    else ([], c :: cs)

theorem digitRun_append (cs : List Char) : (digitRun cs).1 ++ (digitRun cs).2 = cs := by
  induction cs with
  | nil => rfl
  | cons c cs ih => unfold digitRun; split <;> simp [ih]

theorem digitRun_length (cs : List Char) :
    (digitRun cs).1.length + (digitRun cs).2.length = cs.length := by
  rw [← List.length_append, digitRun_append]

/-- Reads the digits of an exponent; there has to be one. -/
def readExponentDigits (positive : Bool) (cs : List Char) :
    Option (Option (Bool × List Char) × List Char) :=
  if (digitRun cs).1.isEmpty then none else some (some (positive, (digitRun cs).1), (digitRun cs).2)

/-- Reads the exponent of a number, if one follows; a broken one gives nothing. -/
def readExponent : List Char → Option (Option (Bool × List Char) × List Char)
  | [] => some (none, [])
  | c :: cs =>
    if c = 'e' || c = 'E' then
      match cs with
      | '+' :: rest => readExponentDigits true rest
      | '-' :: rest => readExponentDigits false rest
      | rest => readExponentDigits true rest
    else some (none, c :: cs)

/-- Reads the fraction of a number, if one follows; a point without digits gives nothing. -/
def readFraction (cs : List Char) : Option (List Char × List Char) :=
  match cs with
  | '.' :: rest =>
    let (digits, after) := digitRun rest
    if digits.isEmpty then none else some (digits, after)
  | _ => some ([], cs)

/-- Reads a number behind its sign. Zero is followed by no further digit. -/
def readNumber (negative : Bool) (cs : List Char) : Option (Numeral × List Char) :=
  match digitRun cs with
  | ([], _) => none
  | ('0' :: _ :: _, _) => none
  | (whole, after) =>
    match readFraction after with
    | none => none
    | some (fraction, after) =>
      match readExponent after with
      | none => none
      | some (exponent, after) => some (⟨negative, whole, fraction, exponent⟩, after)

theorem readExponentDigits_length {positive : Bool} {cs : List Char}
    {r : Option (Bool × List Char) × List Char} (h : readExponentDigits positive cs = some r) :
    r.2.length ≤ cs.length := by
  have := digitRun_length cs
  unfold readExponentDigits at h
  split at h
  · cases h
  · cases h; simp only; omega

theorem readExponent_length {cs : List Char} {r : Option (Bool × List Char) × List Char}
    (h : readExponent cs = some r) : r.2.length ≤ cs.length := by
  unfold readExponent at h
  split at h
  · cases h; exact Nat.le_refl _
  · split at h
    · split at h
      all_goals
        have := readExponentDigits_length h
        simp only [List.length_cons] at *
        omega
    · cases h; exact Nat.le_refl _

theorem readFraction_length {cs : List Char} {r : List Char × List Char}
    (h : readFraction cs = some r) : r.2.length ≤ cs.length := by
  unfold readFraction at h
  split at h
  · next rest =>
    have := digitRun_length rest
    simp only at h
    split at h
    · cases h
    · cases h; simp only [List.length_cons]; omega
  · cases h; exact Nat.le_refl _

theorem readNumber_length {negative : Bool} {cs : List Char} {r : Numeral × List Char}
    (h : readNumber negative cs = some r) : r.2.length < cs.length := by
  unfold readNumber at h
  have hd := digitRun_length cs
  split at h
  · cases h
  · cases h
  · next whole after hne _ heq =>
    rw [heq] at hd
    have hw : 0 < whole.length := List.length_pos_iff.2 hne
    split at h
    · cases h
    · next fraction after1 hf =>
      have := readFraction_length hf
      split at h
      · cases h
      · next exponent after2 he =>
        have := readExponent_length he
        cases h
        simp only at *
        omega

def isBlank (c : Char) : Bool := c = ' ' || c = '\n' || c = '\t' || c = '\r'

/-- The token at the front of a text that begins with `c`, and what follows it. -/
def read (c : Char) (cs : List Char) : Token × List Char :=
  match c with
  | '\x7b' => (.openObject, cs)
  | '\x7d' => (.closeObject, cs)
  | '[' => (.openArray, cs)
  | ']' => (.closeArray, cs)
  | ',' => (.comma, cs)
  | ':' => (.colon, cs)
  | '"' =>
    match readString [] cs with
    | none => (.broken, [])
    | some (parts, rest) => (.str ((joinParts parts.reverse).map String.ofList), rest)
  | '-' =>
    match readNumber true cs with
    | none => (.broken, [])
    | some (n, rest) => (.num (Number.ofNumeral? n), rest)
  | 'n' =>
    match cs with
    | 'u' :: 'l' :: 'l' :: rest => (.null, rest)
    | _ => (.broken, [])
  | 't' =>
    match cs with
    | 'r' :: 'u' :: 'e' :: rest => (.bool true, rest)
    | _ => (.broken, [])
  | 'f' =>
    match cs with
    | 'a' :: 'l' :: 's' :: 'e' :: rest => (.bool false, rest)
    | _ => (.broken, [])
  | _ =>
    if Decimal.isDigit c then
      match readNumber false (c :: cs) with
      | none => (.broken, [])
      | some (n, rest) => (.num (Number.ofNumeral? n), rest)
    else (.broken, [])

theorem read_length (c : Char) (cs : List Char) : (read c cs).2.length ≤ cs.length := by
  unfold read
  split
  any_goals exact Nat.le_refl _
  · split
    · exact Nat.zero_le _
    · next h => exact Nat.le_of_lt (readString_length h)
  · split
    · exact Nat.zero_le _
    · next h => exact Nat.le_of_lt (readNumber_length h)
  all_goals try (split <;> simp only [List.length_cons, List.length_nil] <;> omega)
  · split
    · split
      · exact Nat.zero_le _
      · next h => exact Nat.le_of_lt_succ (readNumber_length h)
    · exact Nat.zero_le _

/-- The tokens of a text. Reading stops at the first part that is none. -/
def scan : List Char → List Token
  | [] => []
  | c :: cs =>
    if isBlank c then scan cs
    else
      match (read c cs).1 with
      | .broken => [.broken]
      | t => t :: scan (read c cs).2
termination_by cs => cs.length
decreasing_by
  · simp
  · exact Nat.lt_succ_of_le (read_length c cs)

end Token
end NodeGroups.Json
