namespace NodeGroups.Shortest

/-- A positive decimal: `digits * 10 ^ exponent`. -/
structure Digits where
  digits : Nat
  exponent : Int

/-- A positive fraction. -/
structure Ratio where
  num : Nat
  den : Nat

/-- `n * 2 ^ e` as a fraction. -/
def Ratio.scale (n : Nat) (e : Int) : Ratio :=
  if 0 ≤ e then ⟨n * Nat.pow 2 e.toNat, 1⟩ else ⟨n, Nat.pow 2 (-e).toNat⟩

/-- The sign of `r - d * 10 ^ p`. -/
def Ratio.compare (r : Ratio) (d : Nat) (p : Int) : Ordering :=
  if 0 ≤ p then Ord.compare r.num (d * Nat.pow 10 p.toNat * r.den)
  else Ord.compare (r.num * Nat.pow 10 (-p).toNat) (d * r.den)

/-- The whole part of `r / 10 ^ p`. -/
def Ratio.floor (r : Ratio) (p : Int) : Nat :=
  if 0 ≤ p then r.num / (r.den * Nat.pow 10 p.toNat)
  else r.num * Nat.pow 10 (-p).toNat / r.den

/-- Whether `r` is at least half way from `d * 10 ^ p` to the next point of that grid; at exactly
half way the even neighbour is taken. -/
def Ratio.roundsUp (r : Ratio) (d : Nat) (p : Int) : Bool :=
  match (Ratio.mk (2 * r.num) r.den).compare (2 * d + 1) p with
  | .lt => false
  | .gt => true
  | .eq => d % 2 = 1

/-- The largest `e` below `start` with `10 ^ e ≤ r`, looking `fuel` steps down. -/
def decade (r : Ratio) : Nat → Int → Int
  | 0, e => e
  | fuel + 1, e => if r.compare 1 e = .lt then decade r fuel (e - 1) else e

/-- A double without its sign, as `mantissa * 2 ^ exponent`. -/
structure Binary where
  mantissa : Nat
  exponent : Int

/-- The bit that a normal double has and does not store. -/
def hiddenBit : Nat := Nat.pow 2 52

def Binary.ofFloat (x : Float) : Binary :=
  let bits := x.toBits.toNat
  let fraction : Nat := bits % hiddenBit
  let biased : Nat := bits / hiddenBit % 2048
  if biased = 0 then ⟨fraction, -1074⟩ else ⟨hiddenBit + fraction, (biased : Int) - 1075⟩

/-- The fewest digits that lie among the reals read back as this double, and of those the nearest.
The ends of that interval belong to it when the mantissa is even. -/
def Binary.shortest (b : Binary) : Digits :=
  let below := if b.mantissa = hiddenBit && b.exponent ≠ -1074 then 4 * b.mantissa - 1
    else 4 * b.mantissa - 2
  let value := Ratio.scale (4 * b.mantissa) (b.exponent - 2)
  let low := Ratio.scale below (b.exponent - 2)
  let high := Ratio.scale (4 * b.mantissa + 2) (b.exponent - 2)
  let closed := b.mantissa % 2 = 0
  let fits (d : Nat) (p : Int) : Bool :=
    (match low.compare d p with | .lt => true | .eq => closed | .gt => false) &&
    (match high.compare d p with | .gt => true | .eq => closed | .lt => false)
  let top := decade value 660 330
  let rec search : Nat → Int → Digits
    | 0, p => ⟨value.floor p, p⟩
    | n + 1, p =>
      let d := value.floor p
      let near := if value.roundsUp d p then d + 1 else d
      let far := if value.roundsUp d p then d else d + 1
      if fits near p then ⟨near, p⟩
      else if fits far p then ⟨far, p⟩
      else search n (p - 1)
  search 17 top

/-- Drops trailing zeros, up to `fuel` of them. -/
def Digits.trim : Nat → Digits → Digits
  | 0, d => d
  | fuel + 1, d =>
    if d.digits % 10 = 0 && d.digits ≠ 0 then Digits.trim fuel ⟨d.digits / 10, d.exponent + 1⟩ else d

/-- Which decimal exponents are written in place, and how the others are marked. -/
structure Layout where
  leastInPlace : Int
  greatestInPlace : Int
  exponentDigits : Nat

/-- From 0.00001 to just below 10^16 a number is written in place; beyond, the exponent carries its
sign and at least two digits. -/
def layout : Layout := ⟨-5, 15, 2⟩

/-- A positive decimal in the given layout, with a point in every number written in place. -/
def Digits.render (l : Layout) (d : Digits) : String :=
  let text := toString d.digits
  let lead := (text.length : Int) + d.exponent - 1
  let zeros (n : Nat) : String := String.ofList (List.replicate n '0')
  let front (n : Nat) : String := String.ofList (text.toList.take n)
  let back (n : Nat) : String := String.ofList (text.toList.drop n)
  if l.leastInPlace ≤ lead && lead ≤ l.greatestInPlace then
    if 0 ≤ d.exponent then text ++ zeros d.exponent.toNat ++ ".0"
    else if 0 ≤ lead then front (lead.toNat + 1) ++ "." ++ back (lead.toNat + 1)
    else "0." ++ zeros ((-lead).toNat - 1) ++ text
  else
    let size := toString lead.natAbs
    let point := if text.length = 1 then "" else "." ++ back 1
    front 1 ++ point ++ (if lead < 0 then "e-" else "e+") ++
      zeros (l.exponentDigits - size.length) ++ size

/-- The shortest text that reads back as a finite double. -/
def text (x : Float) : String :=
  let sign := if UInt64.size / 2 ≤ x.toBits.toNat then "-" else ""
  let b := Binary.ofFloat x
  sign ++ if b.mantissa = 0 then "0.0" else (b.shortest.trim 20).render layout

end NodeGroups.Shortest
