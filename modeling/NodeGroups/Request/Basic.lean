import NodeGroups.Request.Deploy

namespace NodeGroups

/-- Asks for the profiles of a project, or of the root scope. -/
structure ProfilesRequest where
  projectId : Option String
  deriving DecidableEq

structure DetailsRequest where
  resourceType : String
  resourceId : String
  deriving DecidableEq

/-- Asks for the machines of a project, or of the root scope, that carry every given tag. -/
structure MachinesRequest where
  projectId : Option String
  tags : TextMap
  deriving DecidableEq

structure TagRequest where
  resourceIds : List String
  resourceType : String
  tags : TextMap
  deriving DecidableEq

/-- Destroys a machine; with `expunge` nothing of it is kept. -/
structure DestroyRequest where
  id : String
  expunge : Bool
  deriving DecidableEq

namespace ProfilesRequest

def command : String := "listAutoScaleVmProfiles"

/-- The profiles of a project; the empty id stands for the root scope. -/
def inProject (projectId : String) : ProfilesRequest :=
  ⟨if projectId.isEmpty then none else some projectId⟩

def query (r : ProfilesRequest) : Query := Query.ofParams [("projectid", r.projectId)]

end ProfilesRequest

namespace DetailsRequest

def command : String := "listResourceDetails"

/-- The metadata of an autoscale profile. -/
def ofProfile (profileId : String) : DetailsRequest := ⟨"AutoScaleVmProfile", profileId⟩

def query (r : DetailsRequest) : Query :=
  Query.ofParams [("resourcetype", some r.resourceType), ("resourceid", some r.resourceId)]

end DetailsRequest

namespace MachinesRequest

def command : String := "listVirtualMachines"

def query (r : MachinesRequest) : Query :=
  (Query.ofParams [("projectid", r.projectId)]).setMap "tags" r.tags

end MachinesRequest

namespace TagRequest

def command : String := "createTags"

def machineType : String := "UserVm"

/-- The tags of a new machine of the group: those of the metadata, and the group's own. Which
machine it is for is set once it exists. -/
def ofDefinition (d : GroupDefinition) : TagRequest :=
  ⟨[], "", d.tags.insert GroupDefinition.nameKey d.name⟩

def forMachine (r : TagRequest) (vmId : String) : TagRequest :=
  { r with resourceIds := [vmId], resourceType := machineType }

def query (r : TagRequest) : Query :=
  (Query.ofParams [("resourceids", some (String.intercalate "," r.resourceIds)),
    ("resourcetype", some r.resourceType)]).setMap "tags" r.tags

end TagRequest

namespace DestroyRequest

def command : String := "destroyVirtualMachine"

def query (r : DestroyRequest) : Query :=
  Query.ofParams [("id", some r.id), ("expunge", some (if r.expunge then "true" else "false"))]

end DestroyRequest

/-- Projects, offerings and zones are asked for without a request of their own. -/
def projectsCommand : String := "listProjects"
def offeringsCommand : String := "listServiceOfferings"
def zonesCommand : String := "listZones"

/-- Asks for the one entity with this id. -/
def idQuery (id : String) : Query := Query.ofParams [("id", some id)]

end NodeGroups
