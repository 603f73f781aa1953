import NodeGroups.Url.Basic

namespace NodeGroups

/-- An absolute address: one of the web, or a well-formed one of another scheme. -/
inductive Address
  | web (url : Url)
  | other (scheme : String)
  deriving DecidableEq

namespace Address

open Url

/-- The text without blanks and controls around it, and without line breaks and tabs in it. -/
def strip (s : String) : List Char :=
  let isOuter (c : Char) : Bool := c.toNat ≤ 0x20
  (((s.toList.dropWhile isOuter).reverse.dropWhile isOuter).reverse).filter fun c =>
    c ≠ '\t' && c ≠ '\n' && c ≠ '\r'

def isLetter (c : Char) : Bool := 'a' ≤ asciiLower c && asciiLower c ≤ 'z'

def isSchemeChar (c : Char) : Bool :=
  isLetter c || Decimal.isDigit c || c = '+' || c = '-' || c = '.'

/-- The scheme a text begins with, in lower case, and what follows its colon. -/
def scheme? (cs : List Char) : Option (List Char × List Char) :=
  match cs with
  | [] => none
  | c :: _ =>
    if isLetter c then
      match cs.dropWhile isSchemeChar with
      | ':' :: rest => some ((cs.takeWhile isSchemeChar).map asciiLower, rest)
      | _ => none
    else none

def isSlash (c : Char) : Bool := c = '/' || c = '\\'

/-- Whether a character ends the authority of a web address. -/
def endsAuthority (c : Char) : Bool := isSlash c || c = '?' || c = '#'

/-- The texts before and after the last at sign. -/
def cutLast (cs : List Char) : Option (List Char × List Char) :=
  (Text.cut '@' cs.reverse).map fun p => (p.2.reverse, p.1.reverse)

/-- The host, and what follows its colon if there is one. A colon in brackets belongs to the host. -/
def cutPort (inBrackets : Bool) : List Char → List Char × Option (List Char)
  | [] => ([], none)
  | c :: cs =>
    if c = ':' && !inBrackets then ([], some cs)
    else
      let (host, port) := cutPort (if c = '[' then true else if c = ']' then false else inBrackets) cs
      (c :: host, port)

def maxPort : Nat := UInt16.size - 1

/-- The port written behind a colon; there may be none. -/
def parsePort (cs : List Char) : Except AddressError (Option Nat) :=
  if cs.isEmpty then .ok none
  else if cs.all Decimal.isDigit && Decimal.valueFrom 0 cs ≤ maxPort then
    .ok (some (Decimal.valueFrom 0 cs))
  else .error .port

/-- The parts of the authority of a web address. -/
structure Authority where
  username : List Char
  password : List Char
  host : Host
  port : Option Nat

/-- The user name and the password before an at sign, escaped. -/
def splitUser (cs : List Char) : List Char × List Char :=
  let (name, password) := (Text.cut ':' cs).getD (cs, [])
  (percentEncode escapedInUserinfo name, percentEncode escapedInUserinfo password)

/-- Reads the authority of a web address, in which only the host has to be given. -/
def parseAuthority (cs : List Char) : Except AddressError Authority := do
  let (user, rest) := (cutLast cs).getD ([], cs)
  let (username, password) := splitUser user
  let (host, port) := cutPort false rest
  if host.isEmpty then .error .emptyHost
  let host ← Host.parse host
  let port ← match port with
    | none => pure none
    | some digits => parsePort digits
  pure ⟨username, password, host, port⟩

/-- The query and the fragment at the end of an address. -/
def parseTail (cs : List Char) : Option (List Char) × Option (List Char) :=
  let fragment (rest : List Char) : Option (List Char) :=
    match rest with
    | '#' :: f => some (percentEncode escapedInFragment f)
    | _ => none
  match cs with
  | '?' :: rest =>
    (some (percentEncode escapedInQuery (rest.takeWhile (· ≠ '#'))),
      fragment (rest.dropWhile (· ≠ '#')))
  | _ => (none, fragment cs)

/-- Reads a web address behind its scheme. Any number of slashes may lead to the authority. -/
def parseWeb (secure : Bool) (cs : List Char) : Except AddressError Url := do
  let body := cs.dropWhile isSlash
  let a ← parseAuthority (body.takeWhile fun c => !endsAuthority c)
  let rest := body.dropWhile fun c => !endsAuthority c
  let rest := match rest with
    | c :: after => if isSlash c then after else rest
    | [] => []
  let inPath (c : Char) : Bool := c ≠ '?' && c ≠ '#'
  let (query, fragment) := parseTail (rest.dropWhile inPath)
  pure
    { secure, username := a.username, password := a.password, host := a.host
      port := a.port.filter (· ≠ standardPort secure)
      path := Path.parse (rest.takeWhile inPath), query, fragment }

/-- Checks the host of a local address, which only two slashes announce. A drive letter is none. -/
def checkLocal (cs : List Char) : Except AddressError Unit :=
  match cs with
  | a :: b :: rest =>
    if isSlash a && isSlash b then
      let host := rest.takeWhile fun c => !endsAuthority c
      if host.isEmpty || Path.isDrive host then .ok () else (Host.parse host).map fun _ => ()
    else .ok ()
  | _ => .ok ()

/-- Checks an address whose scheme is unknown. It may do without a host, but then without user and
port too. -/
def checkUnknown (cs : List Char) : Except AddressError Unit := do
  match cs with
  | '/' :: '/' :: body =>
    let ends (c : Char) : Bool := c = '/' || c = '?' || c = '#'
    let authority := body.takeWhile fun c => !ends c
    let after := body.dropWhile fun c => !ends c
    let (user, rest) := (cutLast authority).getD ([], authority)
    let (username, password) := splitUser user
    let (host, port) := cutPort false rest
    if authority = ['@'] && !after.isEmpty then .error .emptyHost
    Host.checkOpaque host
    if host.isEmpty && port.isSome then .error .emptyHost
    let _ ← parsePort ((port.getD []).takeWhile (· ≠ '\\'))
    if host.isEmpty && !(username.isEmpty && password.isEmpty) then .error .emptyHost
  | _ => pure ()

/-- The schemes besides those of the web whose addresses are written like web addresses. -/
def webLike : List String := ["ws", "wss", "ftp"]

def parse (s : String) : Except AddressError Address := do
  match scheme? (strip s) with
  | none => .error .noScheme
  | some (scheme, rest) =>
    if scheme = httpText then return .web (← parseWeb false rest)
    if scheme = httpsText then return .web (← parseWeb true rest)
    let name := String.ofList scheme
    if webLike.contains name then
      let _ ← parseWeb false rest
    else if name = "file" then checkLocal rest
    else checkUnknown rest
    return .other name

end Address
end NodeGroups
