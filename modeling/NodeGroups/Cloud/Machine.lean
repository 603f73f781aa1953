import NodeGroups.Json.Decode

namespace NodeGroups

open Decode

/-- A key and a value attached to a machine. -/
structure ResourceTag where
  key : String
  value : String
  deriving DecidableEq, Inhabited

structure VirtualMachine where
  id : String
  name : String
  displayName : Option String
  state : String
  zoneId : Option String
  projectId : Option String
  tags : List ResourceTag
  deriving DecidableEq, Inhabited

/-- Where an instance is in its life. -/
inductive InstanceStatus
  | creating
  | running
  | deleting
  | error (message : String)
  deriving DecidableEq

/-- An instance under its external id. -/
structure Instance where
  id : String
  status : InstanceStatus
  deriving DecidableEq

namespace ResourceTag

def schema : Schema := ⟨"ResourceTag", [("key", check text), ("value", check text)]⟩

def decode : Json → Result ResourceTag := schema.decode fun f => do
  let key ← f.required "key" text
  let value ← f.required "value" text
  pure ⟨key, value⟩

def encode (t : ResourceTag) : Json := .object [("key", .str t.key), ("value", .str t.value)]

end ResourceTag

/-- The status behind the name of a machine state. -/
def InstanceStatus.ofState (state : String) : InstanceStatus :=
  if state = "Starting" || state = "Migrating" then creating
  else if state = "Running" then running
  else if state = "Stopping" || state = "Stopped" || state = "Destroyed" || state = "Expunging" ||
      state = "Shutdowned" then deleting
  else error ("unexpected vm state: " ++ state)

namespace VirtualMachine

def schema : Schema :=
  ⟨"VirtualMachine", [("id", check text), ("name", check text),
    ("displayname", check (optional text)), ("state", check text), ("zoneid", check (optional text)),
    ("projectid", check (optional text)), ("tags", check (list ResourceTag.decode))]⟩

def decode : Json → Result VirtualMachine := schema.decode fun f => do
  let id ← f.required "id" text
  let name ← f.orElse "name" text ""
  let displayName ← f.orElse "displayname" (optional text) none
  let state ← f.orElse "state" text ""
  let zoneId ← f.orElse "zoneid" (optional text) none
  let projectId ← f.orElse "projectid" (optional text) none
  let tags ← f.orElse "tags" (list ResourceTag.decode) []
  pure ⟨id, name, displayName, state, zoneId, projectId, tags⟩

/-- What is not known, and an empty list of tags, are left out. -/
def encode (vm : VirtualMachine) : Json :=
  let optional (key : String) (value : Option String) : List (String × Json) :=
    (value.map fun s => (key, Json.str s)).toList
  .object <| [("id", .str vm.id), ("name", .str vm.name)] ++ optional "displayname" vm.displayName ++
    [("state", .str vm.state)] ++ optional "zoneid" vm.zoneId ++
    optional "projectid" vm.projectId ++
    (if vm.tags.isEmpty then [] else [("tags", .arr (vm.tags.map ResourceTag.encode))])

def status (vm : VirtualMachine) : InstanceStatus := .ofState vm.state

def hasTag (vm : VirtualMachine) (key value : String) : Bool := vm.tags.contains ⟨key, value⟩

end VirtualMachine
end NodeGroups
