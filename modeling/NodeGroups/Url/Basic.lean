import NodeGroups.Url.Host
import NodeGroups.Url.Path

namespace NodeGroups

/-- A web address in its normal form: every part is escaped where it has to be. -/
structure Url where
  secure : Bool
  username : List Char
  password : List Char
  host : Url.Host
  /-- A port other than the one of the scheme. -/
  port : Option Nat
  path : List Url.Path.Segment
  query : Option (List Char)
  fragment : Option (List Char)
  deriving DecidableEq

namespace Url

def httpText : List Char := ['h', 't', 't', 'p']
def httpsText : List Char := ['h', 't', 't', 'p', 's']

def scheme (u : Url) : List Char := if u.secure then httpsText else httpText

/-- The port that is meant where none is written. -/
def standardPort (secure : Bool) : Nat := if secure then 443 else 80

def userinfo (u : Url) : List Char :=
  if u.username.isEmpty && u.password.isEmpty then []
  else u.username ++ (if u.password.isEmpty then [] else ':' :: u.password) ++ ['@']

def authority (u : Url) : List Char :=
  u.userinfo ++ u.host.text ++ (match u.port with
    | none => []
    | some n => ':' :: (toString n).toList)

def chars (u : Url) : List Char :=
  u.scheme ++ [':', '/', '/'] ++ u.authority ++ Path.text u.path ++
    (match u.query with
      | none => []
      | some q => '?' :: q) ++
    (match u.fragment with
      | none => []
      | some f => '#' :: f)

def text (u : Url) : String := String.ofList u.chars

/-- The address without user name and password, which never go on the wire as part of it. -/
def anonymous (u : Url) : Url := { u with username := [], password := [] }

/-- What a server is asked for: neither user nor fragment are told. -/
def requested (u : Url) : Url := { u.anonymous with fragment := none }

end Url
end NodeGroups
