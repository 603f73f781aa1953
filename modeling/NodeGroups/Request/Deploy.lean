import NodeGroups.Group.Definition
import NodeGroups.Request.Query

namespace NodeGroups

structure DeployRequest where
  serviceOfferingId : String
  zoneId : String
  templateId : String
  projectId : Option String := none
  name : Option String := none
  userdata : Option String := none
  account : Option String := none
  affinityGroupIds : List String := []
  affinityGroupNames : List String := []
  diskOfferingId : Option String := none
  displayName : Option String := none
  hypervisor : Option String := none
  keyboard : Option String := none
  keypair : Option String := none
  networkIds : List String := []
  rootDiskSize : Option Int64 := none
  securityGroupIds : List String := []
  securityGroupNames : List String := []
  size : Option Int64 := none
  deriving DecidableEq

namespace DeployRequest

def command : String := "deployVirtualMachine"

/-- A parameter that is a list, its items separated by commas. -/
def listParam (d : GroupDefinition) (key : String) : List String :=
  match d.param? key with
  | none => []
  | some v => Text.pieces ',' v

/-- A parameter that is a number; anything else counts as not given. -/
def numberParam (d : GroupDefinition) (key : String) : Option Int64 :=
  (d.param? key).bind Decimal.int64?

/-- A machine of the group, still without a name. Userdata in the metadata goes before the deploy
parameter of that name. -/
def ofDefinition (d : GroupDefinition) : DeployRequest where
  serviceOfferingId := d.profile.serviceOfferingId
  zoneId := d.profile.zoneId
  templateId := d.profile.templateId
  projectId := d.project?
  userdata := d.userdata.or (d.param? "userdata")
  account := d.param? "account"
  affinityGroupIds := listParam d "affinitygroupids"
  affinityGroupNames := listParam d "affinitygroupnames"
  diskOfferingId := d.param? "diskofferingid"
  displayName := d.param? "displayname"
  hypervisor := d.param? "hypervisor"
  keyboard := d.param? "keyboard"
  keypair := d.param? "keypair"
  networkIds := listParam d "networkids"
  rootDiskSize := numberParam d "rootdisksize"
  securityGroupIds := listParam d "securitygroupids"
  securityGroupNames := listParam d "securitygroupnames"
  size := numberParam d "size"

def withName (r : DeployRequest) (name : String) : DeployRequest := { r with name := some name }

def numberText (n : Int64) : String := toString n.toInt

/-- Every parameter there is, and its value if the request sets it. -/
def params (r : DeployRequest) : List (String × Option String) :=
  [("serviceofferingid", some r.serviceOfferingId), ("zoneid", some r.zoneId),
    ("templateid", some r.templateId), ("projectid", r.projectId), ("name", r.name),
    ("userdata", r.userdata), ("account", r.account), ("diskofferingid", r.diskOfferingId),
    ("displayname", r.displayName), ("hypervisor", r.hypervisor), ("keyboard", r.keyboard),
    ("keypair", r.keypair), ("affinitygroupids", Query.joined? r.affinityGroupIds),
    ("affinitygroupnames", Query.joined? r.affinityGroupNames),
    ("networkids", Query.joined? r.networkIds),
    ("securitygroupids", Query.joined? r.securityGroupIds),
    ("securitygroupnames", Query.joined? r.securityGroupNames),
    ("rootdisksize", r.rootDiskSize.map numberText), ("size", r.size.map numberText)]

def query (r : DeployRequest) : Query := Query.ofParams r.params

end DeployRequest
end NodeGroups
