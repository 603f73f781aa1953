import NodeGroups.Group.Naming
import NodeGroups.Remote.Program

namespace NodeGroups

structure Provisioner where
  expunge : Bool
  deriving DecidableEq

namespace Provisioner

/-- Destroys a machine. One that does not exist any more counts as destroyed. -/
def destroy (p : Provisioner) (vmId : String) : Task (Except Error Unit) := do
  match ← Task.ask (.destroy ⟨vmId, p.expunge⟩) with
  | .ok () => return .ok ()
  | .error e => return if e.isNotFound vmId then .ok () else .error e

/-- Deploys a machine and tags it. Whatever was deployed by a failed attempt is destroyed again. -/
def create (p : Provisioner) (deploy : DeployRequest) (tags : TagRequest) :
    Task (Except Error String) := do
  match ← Task.ask (.deploy deploy) with
  | .error ⟨vmId, cause⟩ =>
    match vmId.filter (· ≠ "") with
    | none => return .error cause
    | some vmId =>
      match ← p.destroy vmId with
      | .ok () => return .error cause
      | .error destroy => return .error (.createCleanup destroy cause)
  | .ok vm =>
    match ← Task.ask (.tag (tags.forMachine vm.id)) with
    | .ok () => return .ok vm.id
    | .error cause =>
      match ← p.destroy vm.id with
      | .ok () => return .error cause
      | .error destroy => return .error (.tagCleanup destroy cause)

def drawNames (base : String) : Nat → Program (List String)
  | 0 => pure []
  | n + 1 => do
    let value ← Program.random
    let names ← drawNames base n
    return randomName base value :: names

def failures (results : List (Except Error String)) : List String :=
  results.filterMap fun
    | .ok _ => none
    | .error e => some e.message

/-- Creates machines of a group at once, each on its own. What succeeded stays, also when others
failed. -/
def scaleUp (p : Provisioner) (d : GroupDefinition) (count : Nat) :
    Program (Except Error Unit) := do
  let names ← drawNames d.name count
  let deploy := DeployRequest.ofDefinition d
  let tags := TagRequest.ofDefinition d
  let results ← Program.together (names.map fun name => p.create (deploy.withName name) tags)
  return if (failures results).isEmpty then .ok () else .error (.scaleUp (failures results))

end Provisioner
end NodeGroups
