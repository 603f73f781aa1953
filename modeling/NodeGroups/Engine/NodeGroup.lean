import NodeGroups.Engine.Provisioner
import NodeGroups.Group.Template

namespace NodeGroups

/-- A node handed in for deletion. -/
structure NodeRef where
  name : String
  /-- The node's external id: the group's prefix and the id of its machine. -/
  providerId : String
  deriving DecidableEq

/-- A group with the machines it is known to have. Its size is their number. -/
structure NodeGroup where
  definition : GroupDefinition
  machines : List VirtualMachine
  deriving DecidableEq, Inhabited

/-- A list without the item at `i`; the last item takes its place. -/
def swapRemove {α : Type} (items : List α) (i : Nat) : List α :=
  match items.getLast? with
  | none => []
  | some last => (items.set i last).dropLast

namespace NodeGroup

/-- A group whose machines are not known yet. -/
def new (d : GroupDefinition) : NodeGroup := ⟨d, []⟩

def id (g : NodeGroup) : String := g.definition.name
def minSize (g : NodeGroup) : Nat := g.definition.minSize
def maxSize (g : NodeGroup) : Nat := g.definition.maxSize
def size (g : NodeGroup) : Nat := g.machines.length

/-- Asks for the machines that carry the group's tag. -/
def machinesRequest (g : NodeGroup) : MachinesRequest :=
  ⟨g.definition.project?, TextMap.empty.insert GroupDefinition.nameKey g.id⟩

/-- Reads the group's machines, offering and zone anew: all three, or nothing changes. -/
def refresh (g : NodeGroup) : Program (Except Error Unit × NodeGroup) := do
  match ← Program.ask (.listMachines g.machinesRequest) with
  | .error e => return (.error e, g)
  | .ok machines =>
    match ← Program.ask (.getOffering g.definition.profile.serviceOfferingId) with
    | .error e => return (.error e, g)
    | .ok offering =>
      match ← Program.ask (.getZone g.definition.profile.zoneId) with
      | .error e => return (.error e, g)
      | .ok zone => return (.ok (), ⟨{ g.definition with offering, zone }, machines⟩)

/-- Creates machines and reads the group anew, also when some failed. The failure to create them is
the one reported. -/
def scaleUp (p : Provisioner) (count : Nat) (g : NodeGroup) :
    Program (Except Error Unit × NodeGroup) := do
  let scaled ← p.scaleUp g.definition count
  let (refreshed, g) ← g.refresh
  match scaled with
  | .error e => return (.error e, g)
  | .ok () => return (refreshed, g)

/-- The group grown up to its minimum, as far as that succeeds. -/
def heal (p : Provisioner) (g : NodeGroup) : Program NodeGroup := do
  if g.size < g.minSize then
    let (_, g) ← g.scaleUp p (g.minSize - g.size)
    return g
  else return g

/-- The size of the group, which is first grown up to its minimum. -/
def targetSize (p : Provisioner) (g : NodeGroup) : Program (Except Error Nat × NodeGroup) := do
  let g ← g.heal p
  return (.ok g.size, g)

/-- A sum of sizes, as far as sizes go. -/
def addSizes (a b : Nat) : Nat := min (a + b) Decimal.maxSize

/-- Adds machines to the group, within its maximum. -/
def increaseSize (p : Provisioner) (delta : Int64) (g : NodeGroup) :
    Program (Except Error Unit × NodeGroup) := do
  if delta.toInt ≤ 0 then return (.error (.invalidDelta delta), g)
  else
    let g ← g.heal p
    let desired := addSizes g.size delta.toInt.toNat
    if g.maxSize < desired then
      return (.error (.sizeIncreaseTooLarge g.size desired g.maxSize), g)
    else g.scaleUp p delta.toInt.toNat

/-- Does nothing: only `deleteNodes` takes machines away. -/
def decreaseTargetSize (_ : Int64) (g : NodeGroup) : Program (Except Error Unit × NodeGroup) :=
  pure (.ok (), g)

def providerId (g : NodeGroup) (vmId : String) : String := g.definition.providerIdPrefix ++ vmId

/-- The id of a node's machine. An external id without the group's prefix is taken as it is. -/
def vmIdOf (g : NodeGroup) (node : NodeRef) : String :=
  (Text.dropStart? g.definition.providerIdPrefix node.providerId).getD node.providerId

/-- Where a node's machine stands among those of the group. -/
def indexOf? (g : NodeGroup) (node : NodeRef) : Option Nat :=
  g.machines.findIdx? fun vm => vm.id = g.vmIdOf node

/-- Destroys the machines of some nodes, one after the other, and stops at the first failure. -/
def deleteNodes (p : Provisioner) : List NodeRef → NodeGroup →
    Program (Except Error Unit × NodeGroup)
  | [], g => pure (.ok (), g)
  | node :: nodes, g =>
    match g.indexOf? node with
    | none => pure (.error (.nodeNotFound node.name node.providerId g.id), g)
    | some i => do
      match ← (p.destroy (g.vmIdOf node)).toProgram with
      | .error e => return (.error e, g)
      | .ok () => deleteNodes p nodes { g with machines := swapRemove g.machines i }

def nodes (g : NodeGroup) : List Instance :=
  g.machines.map fun vm => ⟨g.providerId vm.id, vm.status⟩

/-- What a new node of the group would look like, under a new name. -/
def templateNode (g : NodeGroup) : Program NodeTemplate := do
  let value ← Program.random
  return NodeTemplate.build (randomName g.id value) g.definition

def hasNode (g : NodeGroup) (providerId : String) : Bool :=
  g.machines.any fun vm => g.providerId vm.id = providerId

/-- Groups are defined in the cloud: they exist, and are neither made nor deleted here. -/
def exist (_ : NodeGroup) : Bool := true
def autoprovisioned (_ : NodeGroup) : Bool := false
def create (_ : NodeGroup) : Except Error NodeGroup := .error .notImplemented
def delete (_ : NodeGroup) : Except Error Unit := .error .notImplemented

/-- How descriptions of the group's definition begin; the metadata follows. -/
def definitionLead (g : NodeGroup) : String :=
  "VmProfile \x7b asp: " ++ g.definition.profile.describe ++ ", "

/-- How the description of the group for operators begins. -/
def debugLead (g : NodeGroup) : String := "vmProfile: " ++ g.definitionLead

/-- How the description of the whole group begins. -/
def describeLead (g : NodeGroup) : String := "NodeGroup \x7b profile: " ++ g.definitionLead

end NodeGroup
end NodeGroups
