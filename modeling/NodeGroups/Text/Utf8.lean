namespace NodeGroups.Utf8

def encode (cs : List Char) : List UInt8 := cs.flatMap String.utf8EncodeChar

def bytes (s : String) : List UInt8 := encode s.toList

def isContinuation (b : UInt8) : Bool := 0x80 ≤ b && b ≤ 0xBF

/-- The second bytes that may follow the lead byte `b` of a sequence of three or four. They leave out
overlong forms, surrogates and everything above U+10FFFF. -/
def isSecond (b next : UInt8) : Bool :=
  if b = 0xE0 then 0xA0 ≤ next && next ≤ 0xBF
  else if b = 0xED then 0x80 ≤ next && next ≤ 0x9F
  else if b = 0xF0 then 0x90 ≤ next && next ≤ 0xBF
  else if b = 0xF4 then 0x80 ≤ next && next ≤ 0x8F
  else isContinuation next

/-- The payload of a continuation byte. -/
def low6 (b : UInt8) : Nat := b.toNat % 64

/-- Reads the character led by `b`, and says where reading goes on. A sequence that breaks off is no
character and ends before the byte that broke it. -/
def readChar (b : UInt8) (bs : List UInt8) : Option Char × List UInt8 :=
  if b < 0x80 then (some (Char.ofNat b.toNat), bs)
  else if 0xC2 ≤ b && b ≤ 0xDF then
    match bs with
    | b1 :: rest =>
      if isContinuation b1 then (some (Char.ofNat (b.toNat % 32 * 64 + low6 b1)), rest) else (none, bs)
    | [] => (none, bs)
  else if 0xE0 ≤ b && b ≤ 0xEF then
    match bs with
    | b1 :: r1 =>
      if isSecond b b1 then
        match r1 with
        | b2 :: rest =>
          if isContinuation b2 then
            (some (Char.ofNat (b.toNat % 16 * 4096 + low6 b1 * 64 + low6 b2)), rest)
          else (none, r1)
        | [] => (none, r1)
      else (none, bs)
    | [] => (none, bs)
  else if 0xF0 ≤ b && b ≤ 0xF4 then
    match bs with
    | b1 :: r1 =>
      if isSecond b b1 then
        match r1 with
        | b2 :: r2 =>
          if isContinuation b2 then
            match r2 with
            | b3 :: rest =>
              if isContinuation b3 then
                (some (Char.ofNat
                  (b.toNat % 8 * 262144 + low6 b1 * 4096 + low6 b2 * 64 + low6 b3)), rest)
              else (none, r2)
            | [] => (none, r2)
          else (none, r1)
        | [] => (none, r1)
      else (none, bs)
    | [] => (none, bs)
  else (none, bs)

theorem readChar_length (b : UInt8) (bs : List UInt8) : (readChar b bs).2.length ≤ bs.length := by
  unfold readChar
  repeat' split
  all_goals simp only [List.length_cons]
  all_goals omega

/-- Decodes bytes; what is no UTF-8 becomes a replacement character per broken sequence. -/
def decodeLossy : List UInt8 → List Char
  | [] => []
  | b :: bs => (readChar b bs).1.getD '\uFFFD' :: decodeLossy (readChar b bs).2
termination_by bs => bs.length
decreasing_by exact Nat.lt_succ_of_le (readChar_length b bs)

/-- Decodes bytes that are UTF-8 throughout. -/
def decode? : List UInt8 → Option (List Char)
  | [] => some []
  | b :: bs =>
    match (readChar b bs).1 with
    | none => none
    | some c => (decode? (readChar b bs).2).map (c :: ·)
termination_by bs => bs.length
decreasing_by exact Nat.lt_succ_of_le (readChar_length b bs)

/-- How many bytes a string takes in UTF-8. -/
def size (s : String) : Nat := (bytes s).length

end NodeGroups.Utf8
