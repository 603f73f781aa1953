import NodeGroups.Error
import NodeGroups.Request.Basic
import NodeGroups.Cloud.Machine

namespace NodeGroups

inductive Call
  | listProjects
  | listProfiles (request : ProfilesRequest)
  | listDetails (request : DetailsRequest)
  | listMachines (request : MachinesRequest)
  | getOffering (id : String)
  | getZone (id : String)
  | deploy (request : DeployRequest)
  | tag (request : TagRequest)
  | destroy (request : DestroyRequest)
  deriving DecidableEq

abbrev Call.Reply : Call → Type
  | listProjects => Except Error (List Project)
  | listProfiles _ => Except Error (List AutoscaleProfile)
  | listDetails _ => Except Error (List ResourceDetail)
  | listMachines _ => Except Error (List VirtualMachine)
  | getOffering _ => Except Error ServiceOffering
  | getZone _ => Except Error Zone
  | deploy _ => Except DeployFailure VirtualMachine
  | tag _ => Except Error Unit
  | destroy _ => Except Error Unit

end NodeGroups
