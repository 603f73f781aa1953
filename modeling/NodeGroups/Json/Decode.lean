import NodeGroups.Json.Basic
import NodeGroups.Text.Quoted

namespace NodeGroups

/-- Why a JSON value is not of the wanted form. -/
inductive DecodeError
  | invalidType (found : Json) (expected : String)
  | invalidValue (found : Int) (expected : String)
  | missingField (name : String)
  | duplicateField (name : String)
  /-- An array in place of a record ends before the required item at `index`. -/
  | tooShort (index : Nat) (record : String) (size : Nat)
  | tooLong (length : Nat)

namespace DecodeError

/-- What a value is, as errors name it. -/
def describe : Json → String
  | .null => "null"
  | .bool b => "boolean `" ++ (if b then "true" else "false") ++ "`"
  | .num (.int i) => "integer `" ++ toString i ++ "`"
  | .num (.float x) => "floating point `" ++ Shortest.text x ++ "`"
  | .str s => "string " ++ Text.quoted s
  | .arr _ => "sequence"
  | .obj _ => "map"

def message : DecodeError → String
  | invalidType found expected => "invalid type: " ++ describe found ++ ", expected " ++ expected
  | invalidValue found expected =>
    "invalid value: integer `" ++ toString found ++ "`, expected " ++ expected
  | missingField name => "missing field `" ++ name ++ "`"
  | duplicateField name => "duplicate field `" ++ name ++ "`"
  | tooShort index record size =>
    "invalid length " ++ toString index ++ ", expected struct " ++ record ++ " with " ++
      toString size ++ (if size = 1 then " element" else " elements")
  | tooLong length =>
    "invalid length " ++ toString length ++ ", expected fewer elements in array"

end DecodeError

namespace Decode

abbrev Result := Except DecodeError

def text : Json → Result String
  | .str s => .ok s
  | j => .error (.invalidType j "a string")

def flag : Json → Result Bool
  | .bool b => .ok b
  | j => .error (.invalidType j "a boolean")

/-- An unsigned integer below `bound`. -/
def unsigned (bound : Nat) (expected : String) : Json → Result Nat
  | .num (.int i) =>
    if 0 ≤ i && i < bound then .ok i.toNat else .error (.invalidValue i expected)
  | j => .error (.invalidType j expected)

def word8 (j : Json) : Result UInt8 := (unsigned UInt8.size "u8" j).map UInt8.ofNat
def word32 (j : Json) : Result UInt32 := (unsigned UInt32.size "u32" j).map UInt32.ofNat
def word64 (j : Json) : Result UInt64 := (unsigned UInt64.size "u64" j).map UInt64.ofNat

/-- Null stands for nothing. -/
def optional {α : Type} (item : Json → Result α) : Json → Result (Option α)
  | .null => .ok none
  | j => (item j).map some

def list {α : Type} (item : Json → Result α) : Json → Result (List α)
  | .arr items => items.mapM item
  | j => .error (.invalidType j "a sequence")

def anything (j : Json) : Result Json := .ok j

/-- The fields of a record as they were found. -/
structure Fields where
  find : String → Option Json
  /-- The error for a required field that is not there. -/
  absent : String → DecodeError

namespace Fields

def required {α : Type} (f : Fields) (name : String) (item : Json → Result α) : Result α :=
  match f.find name with
  | none => .error (f.absent name)
  | some j => item j

def orElse {α : Type} (f : Fields) (name : String) (item : Json → Result α) (default : α) :
    Result α :=
  match f.find name with
  | none => .ok default
  | some j => item j

end Fields

/-- Whether a value fits a field. -/
abbrev Check := Json → Result Unit

def check {α : Type} (item : Json → Result α) : Check := fun j => (item j).map fun _ => ()

/-- A record with named fields in their order. -/
structure Schema where
  name : String
  fields : List (String × Check)

/-- The members of an object whose names are fields fit them; other members are passed over. -/
def Schema.checkMembers (s : Schema) : List (String × Json) → Result Unit
  | [] => .ok ()
  | m :: ms =>
    match s.fields.lookup m.1 with
    | none => s.checkMembers ms
    | some item =>
      match item m.2 with
      | .error e => .error e
      | .ok () => s.checkMembers ms

/-- The fields as an object gives them. -/
def Schema.ofMembers (_ : Schema) (members : List (String × Json)) : Fields :=
  ⟨fun name => members.lookup name, .missingField⟩

/-- The fields as an array gives them, in order. -/
def Schema.ofItems (s : Schema) (items : List Json) : Fields :=
  ⟨fun name => ((s.fields.map Prod.fst).zip items).lookup name,
    fun name => .tooShort ((s.fields.map Prod.fst).idxOf name) s.name s.fields.length⟩

/-- Reads a record from an object, or from an array that holds its fields in order. Of several
faults the first in the value is reported, then the first field that is missing. -/
def Schema.decode {α : Type} (s : Schema) (build : Fields → Result α) : Json → Result α
  | .obj members =>
    match s.checkMembers members with
    | .error e => .error e
    | .ok () => build (s.ofMembers members)
  | .arr items =>
    match build (s.ofItems items) with
    | .error e => .error e
    | .ok a => if s.fields.length < items.length then .error (.tooLong items.length) else .ok a
  | j => .error (.invalidType j ("struct " ++ s.name))

end Decode
end NodeGroups
