import NodeGroups.Text.Decimal
import NodeGroups.Text.Quoted
import NodeGroups.Url.Domain
import NodeGroups.Url.Percent

namespace NodeGroups.Url

/-- Why a text is no address. -/
inductive AddressError
  | noScheme
  | emptyHost
  | port
  | ipv4
  | ipv6
  | domain
  | domainCharacter
  deriving DecidableEq

def AddressError.message : AddressError → String
  | noScheme => "relative URL without a base"
  | emptyHost => "empty host"
  | port => "invalid port number"
  | ipv4 => "invalid IPv4 address"
  | ipv6 => "invalid IPv6 address"
  | domain => "invalid international domain name"
  | domainCharacter => "invalid domain character"

inductive Host
  | domain (name : List Char)
  /-- Four bytes as one number. -/
  | ipv4 (address : Nat)
  /-- Eight groups of two bytes. -/
  | ipv6 (groups : List Nat)
  deriving DecidableEq

def isHexDigit (c : Char) : Bool :=
  ('0' ≤ c && c ≤ '9') || ('a' ≤ c && c ≤ 'f') || ('A' ≤ c && c ≤ 'F')

def hexDigitValue (c : Char) : Nat :=
  if c ≤ '9' then c.toNat - 0x30 else if c ≤ 'F' then c.toNat - 0x37 else c.toNat - 0x57

/-- The number written by digits of a base. -/
def valueIn (base : Nat) (cs : List Char) : Nat :=
  cs.foldl (fun n c => base * n + hexDigitValue c) 0

namespace Ipv4

/-- A part of an address: hexadecimal behind `0x`, octal behind a zero, else decimal. -/
def number? : List Char → Option Nat
  | [] => none
  | ['0'] => some 0
  | '0' :: c :: cs =>
    if c = 'x' || c = 'X' then if cs.all isHexDigit then some (valueIn 16 cs) else none
    else if (c :: cs).all (fun d => '0' ≤ d && d ≤ '7') then some (valueIn 8 (c :: cs)) else none
  | cs => if cs.all Decimal.isDigit then some (valueIn 10 cs) else none

/-- The parts of a name; a point at its end is passed over. -/
def parts (name : List Char) : List (List Char) :=
  let ps := Text.splitOn '.' name
  if ps.getLast? = some [] && 1 < ps.length then ps.dropLast else ps

/-- Whether a name claims to be an address: its last part is a number. -/
def isClaimed (name : List Char) : Bool :=
  match (parts name).getLast? with
  | none => false
  | some last => (last ≠ [] && last.all Decimal.isDigit) || (number? last).isSome

/-- The address of up to four numbers. The last one fills all bytes that are left. -/
def ofNumbers? (ns : List Nat) : Option Nat :=
  match ns.getLast? with
  | none => none
  | some last =>
    let leading := ns.dropLast
    if 4 < ns.length || leading.any (255 < ·) || Nat.pow 256 (4 - leading.length) ≤ last then none
    else some (leading.foldl (fun n p => 256 * n + p) 0 * Nat.pow 256 (4 - leading.length) + last)

def parse? (name : List Char) : Option Nat := ((parts name).mapM number?).bind ofNumbers?

def text (address : Nat) : List Char :=
  joinLabels ([address / Nat.pow 256 3, address / Nat.pow 256 2 % 256, address / 256 % 256,
    address % 256].map fun n => (toString n).toList)

end Ipv4

namespace Ipv6

/-- A group of one to four hexadecimal digits. -/
def group? (cs : List Char) : Option Nat :=
  if cs ≠ [] && cs.length ≤ 4 && cs.all isHexDigit then some (valueIn 16 cs) else none

/-- A byte in decimal without leading zeros. -/
def byte? (cs : List Char) : Option Nat :=
  if cs ≠ [] && cs.all Decimal.isDigit && (cs.length = 1 || cs.head? ≠ some '0') &&
      valueIn 10 cs ≤ 255 then some (valueIn 10 cs)
  else none

/-- The two groups of four bytes in decimal. -/
def embedded? (cs : List Char) : Option (List Nat) :=
  match (Text.splitOn '.' cs).mapM byte? with
  | some [a, b, c, d] => some [256 * a + b, 256 * c + d]
  | _ => none

/-- Groups between colons. Only where `last` is set may the last one be written as four bytes. -/
def groups? (last : Bool) : List (List Char) → Option (List Nat)
  | [] => some []
  | [cs] => if last && cs.contains '.' then embedded? cs else (group? cs).map fun n => [n]
  | cs :: rest => do
    let n ← group? cs
    let ns ← groups? last rest
    pure (n :: ns)

/-- The groups of a text, none for an empty one. -/
def side? (last : Bool) (cs : List Char) : Option (List Nat) :=
  if cs.isEmpty then some [] else groups? last (Text.splitOn ':' cs)

/-- The texts around the first double colon. -/
def cutGap : List Char → Option (List Char × List Char)
  | [] => none
  | [_] => none
  | a :: b :: cs =>
    if a = ':' && b = ':' then some ([], cs) else (cutGap (b :: cs)).map fun p => (a :: p.1, p.2)

/-- Reads the eight groups. One double colon stands for all that are not written. -/
def parse? (cs : List Char) : Option (List Nat) :=
  match cutGap cs with
  | none => (side? true cs).filter fun ns => ns.length = 8
  | some (before, after) => do
    let front ← side? false before
    let back ← side? true after
    if front.length + back.length ≤ 7 then
      some (front ++ List.replicate (8 - front.length - back.length) 0 ++ back)
    else none

/-- How many zeros a list begins with. -/
def zeros (ns : List Nat) : Nat := (ns.takeWhile (· = 0)).length

/-- The first of the longest runs of zeros: where it begins, and its length. -/
def longestGap (index : Nat) (best : Nat × Nat) : List Nat → Nat × Nat
  | [] => best
  | n :: ns =>
    let here := zeros (n :: ns)
    longestGap (index + 1) (if best.2 < here then (index, here) else best) ns

/-- Groups in hexadecimal with colons between them. -/
def joinGroups : List Nat → List Char
  | [] => []
  | [n] => Text.hexDigits n
  | n :: m :: ns => Text.hexDigits n ++ ':' :: joinGroups (m :: ns)

/-- The address in brackets, its longest run of at least two zeros left out. -/
def text (groups : List Nat) : List Char :=
  let (start, length) := longestGap 0 (0, 0) groups
  let body :=
    if length < 2 then joinGroups groups
    else joinGroups (groups.take start) ++ [':', ':'] ++ joinGroups (groups.drop (start + length))
  '[' :: body ++ [']']

end Ipv6

namespace Host

/-- Reads the address between brackets. -/
def parseBrackets (cs : List Char) : Except AddressError Host :=
  if cs.getLast? = some ']' then
    match Ipv6.parse? cs.dropLast with
    | some groups => .ok (.ipv6 groups)
    | none => .error .ipv6
  else .error .ipv6

/-- Reads the host of a web address. A name whose last part is a number has to be an address. -/
def parse (cs : List Char) : Except AddressError Host :=
  match cs with
  | '[' :: rest => parseBrackets rest
  | _ =>
    match domain? (percentDecode cs) with
    | none => .error .domain
    | some name =>
      if name.isEmpty then .error .emptyHost
      else if Ipv4.isClaimed name then
        match Ipv4.parse? name with
        | some address => .ok (.ipv4 address)
        | none => .error .ipv4
      else .ok (.domain name)

/-- Whether a character must not stand in a host of another kind of address. -/
def isForbiddenAnywhere (c : Char) : Bool :=
  c.toNat = 0 || c = '\t' || c = '\n' || c = '\r' || c = ' ' || c = '#' || c = '/' || c = ':' ||
    c = '<' || c = '>' || c = '?' || c = '@' || c = '[' || c = '\\' || c = ']' || c = '^' || c = '|'

/-- Checks the host of an address that is not of the web. -/
def checkOpaque (cs : List Char) : Except AddressError Unit :=
  match cs with
  | '[' :: rest => (parseBrackets rest).map fun _ => ()
  | _ => if cs.any isForbiddenAnywhere then .error .domainCharacter else .ok ()

def text : Host → List Char
  | domain name => name
  | ipv4 address => Ipv4.text address
  | ipv6 groups => Ipv6.text groups

end Host
end NodeGroups.Url
