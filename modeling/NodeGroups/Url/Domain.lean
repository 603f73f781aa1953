import NodeGroups.Text.Split
import NodeGroups.Url.CharacterTable
import NodeGroups.Url.Composition
import NodeGroups.Url.MappingTable
import NodeGroups.Url.Punycode

namespace NodeGroups.Url

def isAscii (c : Char) : Bool := c.toNat < 0x80

def asciiLower (c : Char) : Char := if 'A' ≤ c && c ≤ 'Z' then Char.ofNat (c.toNat + 0x20) else c

/-- The characters that separate the parts of an address, or are no characters of a name at all. -/
def isForbidden (c : Char) : Bool :=
  c.toNat ≤ 0x20 || c.toNat = 0x7F || c = '%' || c = '#' || c = '/' || c = ':' || c = '<' ||
    c = '>' || c = '?' || c = '@' || c = '[' || c = '\\' || c = ']' || c = '^' || c = '|'

/-- How a code point beyond ASCII is read in a name; nothing where it must not stand. -/
def mapCode? (n : Nat) : Option (List Nat) :=
  if Text.inRanges disallowed n then none
  else if Text.inRanges ignored n then some []
  else match Text.shifted? mappedRuns n with
    | some m => some [m]
    | none => some ((Text.row? mapped n).getD [n])

def mapChar? (c : Char) : Option (List Char) :=
  if isAscii c then some [asciiLower c] else (mapCode? c.toNat).map fun ns => ns.map Char.ofNat

inductive Direction
  | left
  | right
  | arabicDigit
  | digit
  | neutral
  | mark
  deriving DecidableEq

def Direction.ofChar (c : Char) : Direction :=
  let n := c.toNat
  if isAscii c then
    if ('a' ≤ c && c ≤ 'z') || ('A' ≤ c && c ≤ 'Z') then left
    else if '0' ≤ c && c ≤ '9' then digit
    else neutral
  else if Text.inRanges rightToLeft n then right
  else if Text.inRanges arabicDigits n then arabicDigit
  else if Text.inRanges europeanDigits n then digit
  else if Text.inRanges undirected n then neutral
  else if Text.inRanges spacingless n then mark
  else left

/-- Whether a label with these directions can be read in one way only. One that begins to the right
holds nothing leftward and ends in a letter or number; one that begins to the left holds nothing
rightward and ends in a letter or digit. -/
def readsOneWay (ds : List Direction) : Bool :=
  match ds, (ds.reverse.dropWhile (· = .mark)).head? with
  | .right :: _, some last =>
    !ds.contains .left && (last = .right || last = .digit || last = .arabicDigit) &&
      !(ds.contains .digit && ds.contains .arabicDigit)
  | .left :: _, some last =>
    !ds.contains .right && !ds.contains .arabicDigit && (last = .left || last = .digit)
  | _, _ => false

/-- Whether the nearest character that joining does not pass over is of a kind. -/
def nearestIs (kind : Array (Nat × Nat)) (cs : List Char) : Bool :=
  match cs.dropWhile fun c => Text.inRanges joinsThrough c.toNat with
  | [] => false
  | c :: _ => Text.inRanges kind c.toNat

/-- The combining class of the signs that join consonants. -/
def viramaClass : Nat := 9

/-- Whether every joiner and non-joiner stands where it shows: behind a virama, or, a non-joiner,
between letters that would join. `before` is read backwards. -/
def joinersShow (before : List Char) : List Char → Bool
  | [] => true
  | c :: cs =>
    let behindVirama := match before with
      | [] => false
      | b :: _ => combiningClass b.toNat = viramaClass
    (if c = '\u200D' then behindVirama
      else if c = '\u200C' then
        behindVirama || (nearestIs joinsNext before && nearestIs joinsPrevious cs)
      else true) && joinersShow (c :: before) cs

/-- What the labels that are not written in ASCII begin with. -/
def encodedMark : List Char := ['x', 'n', '-', '-']

/-- What a label has to be apart from its single characters: no mark stands first, and every joiner
shows. -/
def isLabel (cs : List Char) : Bool :=
  (match cs with
    | [] => true
    | c :: _ => !Text.inRanges marks c.toNat) && joinersShow [] cs

/-- Whether a label is as mapping and composing leave it. -/
def isMapped (cs : List Char) : Bool := cs.all (fun c => mapChar? c = some [c]) && composed cs = cs

/-- A label as it is read, and as it is written in ASCII. -/
structure Label where
  text : List Char
  ascii : List Char

/-- The label of a mapped text. -/
def Label.ofMapped? (cs : List Char) : Option Label :=
  match Text.stripPrefix? encodedMark cs with
  | some digits => do
    let text ← Punycode.decode? digits
    if isLabel text && isMapped text && (Text.stripPrefix? encodedMark text).isNone then
      some ⟨text, cs⟩
    else none
  | none =>
    if !isLabel cs then none
    else if cs.all isAscii then some ⟨cs, cs⟩
    else (Punycode.encode? cs).map fun digits => ⟨cs, encodedMark ++ digits⟩

def joinLabels : List (List Char) → List Char
  | [] => []
  | [l] => l
  | l :: m :: ls => l ++ '.' :: joinLabels (m :: ls)

/-- Whether a name is in ASCII and has no encoded label. -/
def isPlain (cs : List Char) : Bool :=
  cs.all isAscii &&
    (Text.splitOn '.' (cs.map asciiLower)).all fun l => (Text.stripPrefix? encodedMark l).isNone

/-- The ASCII form of a domain name, if it is one. A plain name only needs lower case. -/
def domain? (cs : List Char) : Option (List Char) :=
  if isPlain cs then
    let lower := cs.map asciiLower
    if lower.any isForbidden then none else some lower
  else do
    let mapped ← cs.mapM mapChar?
    let labels ← (Text.splitOn '.' (composed mapped.flatten)).mapM Label.ofMapped?
    let directions := labels.map fun l => l.text.map Direction.ofChar
    let twoWay := directions.any fun ds => ds.contains .right || ds.contains .arabicDigit
    if labels.any (fun l => l.text.any isForbidden) ||
        (twoWay && directions.any fun ds => ds ≠ [] && !readsOneWay ds) then none
    else some (joinLabels (labels.map Label.ascii))

end NodeGroups.Url
