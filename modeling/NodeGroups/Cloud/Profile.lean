import NodeGroups.Json.Decode
import NodeGroups.Text.Map

namespace NodeGroups

open Decode

/-- An autoscale profile: how the machines of a node group are deployed. -/
structure AutoscaleProfile where
  id : String
  templateId : String
  serviceOfferingId : String
  zoneId : String
  /-- The project the profile was made in. -/
  projectId : Option String
  /-- Further deploy parameters, form encoded. -/
  otherDeployParams : String
  deriving DecidableEq, Inhabited

/-- One entry of the metadata attached to a resource. -/
structure ResourceDetail where
  key : String
  value : String
  deriving DecidableEq, Inhabited

namespace AutoscaleProfile

def schema : Schema :=
  ⟨"AutoScaleVmProfile", [("id", check text), ("templateid", check text),
    ("serviceofferingid", check text), ("zoneid", check text), ("projectid", check (optional text)),
    ("otherdeployparams", check text)]⟩

def decode : Json → Result AutoscaleProfile := schema.decode fun f => do
  let id ← f.required "id" text
  let templateId ← f.orElse "templateid" text ""
  let serviceOfferingId ← f.orElse "serviceofferingid" text ""
  let zoneId ← f.orElse "zoneid" text ""
  let projectId ← f.orElse "projectid" (optional text) none
  let otherDeployParams ← f.orElse "otherdeployparams" text ""
  pure ⟨id, templateId, serviceOfferingId, zoneId, projectId, otherDeployParams⟩

/-- A profile without a project has no such member. -/
def encode (p : AutoscaleProfile) : Json :=
  .object <| [("id", .str p.id), ("templateid", .str p.templateId),
    ("serviceofferingid", .str p.serviceOfferingId), ("zoneid", .str p.zoneId)] ++
    (p.projectId.map fun s => ("projectid", Json.str s)).toList ++
    [("otherdeployparams", .str p.otherDeployParams)]

/-- The profile in full, for people. -/
def describe (p : AutoscaleProfile) : String :=
  "AutoScaleVmProfile \x7b id: " ++ Text.quoted p.id ++ ", templateid: " ++
    Text.quoted p.templateId ++ ", serviceofferingid: " ++ Text.quoted p.serviceOfferingId ++
    ", zoneid: " ++ Text.quoted p.zoneId ++ ", projectid: " ++
    (match p.projectId with
      | none => "None"
      | some s => "Some(" ++ Text.quoted s ++ ")") ++
    ", otherdeployparams: " ++ Text.quoted p.otherDeployParams ++ " \x7d"

end AutoscaleProfile

namespace ResourceDetail

def schema : Schema := ⟨"ResourceDetail", [("key", check text), ("value", check text)]⟩

def decode : Json → Result ResourceDetail := schema.decode fun f => do
  let key ← f.required "key" text
  let value ← f.orElse "value" text ""
  pure ⟨key, value⟩

def encode (d : ResourceDetail) : Json := .object [("key", .str d.key), ("value", .str d.value)]

/-- The details as a map; of equal keys the last one wins. -/
def metadata (details : List ResourceDetail) : TextMap :=
  .ofList (details.map fun d => (d.key, d.value))

end ResourceDetail
end NodeGroups
