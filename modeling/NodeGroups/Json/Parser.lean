import NodeGroups.Json.Basic
import NodeGroups.Json.Token

namespace NodeGroups.Json

/-- An array or object that is being read. -/
inductive Frame
  /-- The items so far, last first. -/
  | array (items : List Json)
  /-- The members so far, and the key whose value comes next. -/
  | object (members : List (String × Json)) (key : String)

def Frame.add (v : Json) : Frame → Frame
  | array items => array (v :: items)
  | object members key => object (insertMember key v members) key

/-- What has been read of a value; the enclosing containers stand innermost first. -/
inductive State
  | value (stack : List Frame)
  /-- The first item of an array, or its end. -/
  | firstItem (stack : List Frame)
  /-- The first key of an object, or its end. -/
  | firstKey (stack : List Frame)
  /-- A key, after a comma. -/
  | key (members : List (String × Json)) (stack : List Frame)
  | colon (members : List (String × Json)) (key : String) (stack : List Frame)
  /-- A comma, or the end of the innermost container. -/
  | next (frame : Frame) (stack : List Frame)

/-- How strictly a value is read. -/
structure Reading where
  /-- How many containers may be open at once, if that is limited. -/
  maxDepth : Option Nat
  /-- Whether numbers out of range and halves of surrogate pairs are let through. -/
  lenient : Bool

/-- A value whose content matters. -/
def Reading.full : Reading := ⟨some 127, false⟩

/-- A value that is passed over: only its grammar matters. -/
def Reading.skim : Reading := ⟨none, true⟩

/-- A value is complete: the whole text, or an item of the innermost container. -/
def deliver (v : Json) : List Frame → Json ⊕ State
  | [] => .inl v
  | f :: stack => .inr (.next (f.add v) stack)

def Reading.mayOpen (r : Reading) (stack : List Frame) : Bool :=
  match r.maxDepth with
  | none => true
  | some d => stack.length < d

/-- A value begins with this token. -/
def Reading.begin (r : Reading) (stack : List Frame) : Token → Option (Json ⊕ State)
  | .null => some (deliver .null stack)
  | .bool b => some (deliver (.bool b) stack)
  | .num (some n) => some (deliver (.num n) stack)
  | .num none => if r.lenient then some (deliver .null stack) else none
  | .str (some s) => some (deliver (.str s) stack)
  | .str none => if r.lenient then some (deliver .null stack) else none
  | .openArray => if r.mayOpen stack then some (.inr (.firstItem stack)) else none
  | .openObject => if r.mayOpen stack then some (.inr (.firstKey stack)) else none
  | _ => none

def Reading.key (r : Reading) (members : List (String × Json)) (stack : List Frame) :
    Token → Option (Json ⊕ State)
  | .str (some k) => some (.inr (.colon members k stack))
  | .str none => if r.lenient then some (.inr (.colon members "" stack)) else none
  | _ => none

/-- Takes in one token; gives the value when it is complete, and nothing when the token does not
belong there. -/
def Reading.step (r : Reading) : State → Token → Option (Json ⊕ State)
  | .value stack, t => r.begin stack t
  | .firstItem stack, .closeArray => some (deliver (.arr []) stack)
  | .firstItem stack, t => r.begin (.array [] :: stack) t
  | .firstKey stack, .closeObject => some (deliver (.obj []) stack)
  | .firstKey stack, t => r.key [] stack t
  | .key members stack, t => r.key members stack t
  | .colon members k stack, .colon => some (.inr (.value (.object members k :: stack)))
  | .next (.array items) stack, .comma => some (.inr (.value (.array items :: stack)))
  | .next (.array items) stack, .closeArray => some (deliver (.arr items.reverse) stack)
  | .next (.object members _) stack, .comma => some (.inr (.key members stack))
  | .next (.object members _) stack, .closeObject => some (deliver (.obj members) stack)
  | _, _ => none

/-- Reads one value and gives what follows it. -/
def Reading.run (r : Reading) : State → List Token → Option (Json × List Token)
  | _, [] => none
  | s, t :: ts =>
    match r.step s t with
    | none => none
    | some (.inl v) => some (v, ts)
    | some (.inr s') => r.run s' ts

/-- The value a text holds, if it is JSON and nothing more. -/
def parse? (text : String) : Option Json :=
  match Reading.full.run (.value []) (Token.scan text.toList) with
  | some (v, []) => some v
  | _ => none

end NodeGroups.Json
