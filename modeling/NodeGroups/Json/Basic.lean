import NodeGroups.Json.Number

namespace NodeGroups

/-- A JSON value. An object that was read has its keys ascending, each once. -/
inductive Json
  | null
  | bool (b : Bool)
  | num (n : Json.Number)
  | str (s : String)
  | arr (items : List Json)
  | obj (members : List (String × Json))
  deriving Inhabited

namespace Json

def nat (n : Nat) : Json := .num (.int n)

/-- Puts a member in its place by key; a member of the same key is replaced. -/
def insertMember (k : String) (v : Json) : List (String × Json) → List (String × Json)
  | [] => [(k, v)]
  | m :: ms =>
    if k < m.1 then (k, v) :: m :: ms
    else if k = m.1 then (k, v) :: ms
    else m :: insertMember k v ms

/-- The object of some members, the last of each key. -/
def object (members : List (String × Json)) : Json :=
  .obj (members.foldl (fun ms m => insertMember m.1 m.2 ms) [])

def get? (k : String) : Json → Option Json
  | .obj members => members.lookup k
  | _ => none

def string? : Json → Option String
  | .str s => some s
  | _ => none

/-- An unsigned 64-bit integer; a double is none, also a whole one. -/
def word? : Json → Option Nat
  | .num (.int i) => if 0 ≤ i && i ≤ Number.wordMax then some i.toNat else none
  | _ => none

def escapedChar (c : Char) : List Char :=
  if c = '"' then ['\\', '"']
  else if c = '\\' then ['\\', '\\']
  else if 0x20 ≤ c.toNat then [c]
  else if c = '\n' then ['\\', 'n']
  else if c = '\r' then ['\\', 'r']
  else if c = '\t' then ['\\', 't']
  else if c.toNat = 8 then ['\\', 'b']
  else if c.toNat = 12 then ['\\', 'f']
  else ['\\', 'u', '0', '0', Nat.digitChar (c.toNat / 16), Nat.digitChar (c.toNat % 16)]

def renderString (s : String) : String := String.ofList ('"' :: s.toList.flatMap escapedChar ++ ['"'])

mutual

/-- Compact text: no blanks, members in the order they stand. -/
def render : Json → String
  | .null => "null"
  | .bool true => "true"
  | .bool false => "false"
  | .num n => n.text
  | .str s => renderString s
  | .arr items => "[" ++ renderItems items ++ "]"
  | .obj members => "\x7b" ++ renderMembers members ++ "\x7d"

def renderItems : List Json → String
  | [] => ""
  | [j] => render j
  | j :: k :: rest => render j ++ "," ++ renderItems (k :: rest)

def renderMembers : List (String × Json) → String
  | [] => ""
  | [(k, j)] => renderString k ++ ":" ++ render j
  | (k, j) :: m :: rest => renderString k ++ ":" ++ render j ++ "," ++ renderMembers (m :: rest)

end

end Json
end NodeGroups
