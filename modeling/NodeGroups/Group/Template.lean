import NodeGroups.Group.Definition

namespace NodeGroups

structure NodeResources where
  pods : Int
  cpu : Int
  /-- Bytes. -/
  memory : Int
  /-- Bytes, if the group asks for a root disk of its own. -/
  ephemeralStorage : Option Int
  deriving DecidableEq

/-- An empty node as it looks right after it joined. -/
structure NodeTemplate where
  name : String
  selfLink : String
  labels : TextMap
  capacity : NodeResources
  allocatable : NodeResources
  ready : Bool
  deriving DecidableEq

namespace NodeTemplate

def maxPods : Int := 110

/-- Offerings count memory in decimal megabytes. -/
def bytesPerMegabyte : Int := 1000 * 1000

def bytesPerGibibyte : Int := 1024 * 1024 * 1024

/-- The largest quantity of bytes that can be reported. -/
def maxQuantity : Int := Int64.maxValue.toInt

/-- Limits a quantity to what can be reported. -/
def saturate (q : Int) : Int := min q maxQuantity

/-- The quantity, if it can be reported. -/
def checked? (q : Int) : Option Int := if q ≤ maxQuantity then some q else none

/-- The labels every node has, from the offering and the zone. -/
def genericLabels (d : GroupDefinition) : List (String × String) :=
  [("beta.kubernetes.io/arch", "amd64"),
    ("beta.kubernetes.io/os", "linux"),
    ("beta.kubernetes.io/instance-type", d.offering.name),
    ("failure-domain.beta.kubernetes.io/region", d.zone.name),
    ("failure-domain.beta.kubernetes.io/zone", d.zone.name)]

/-- What a node of the group offers. A disk too large to be reported counts as not given. -/
def resources (d : GroupDefinition) : NodeResources where
  pods := maxPods
  cpu := d.offering.cpuNumber.toNat
  memory := saturate (saturate d.offering.memory.toNat * bytesPerMegabyte)
  ephemeralStorage :=
    if 0 < d.rootDiskSize.toInt then checked? (d.rootDiskSize.toInt * bytesPerGibibyte) else none

/-- The template of a group's nodes under a given name. Generic labels win over those of the
group. -/
def build (name : String) (d : GroupDefinition) : NodeTemplate where
  name := name
  selfLink := "/api/v1/nodes/" ++ name
  labels := d.labels.insertAll (genericLabels d)
  capacity := resources d
  allocatable := resources d
  ready := true

end NodeTemplate
end NodeGroups
