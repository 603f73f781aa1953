import NodeGroups.Cloud.Catalog
import NodeGroups.Cloud.Profile
import NodeGroups.Text.Decimal
import NodeGroups.Text.Form

namespace NodeGroups

/-- A node group as it is defined: a profile, the metadata attached to it, and the offering and zone
found for it. -/
structure GroupDefinition where
  profile : AutoscaleProfile
  metadata : TextMap
  offering : ServiceOffering
  zone : Zone
  deriving DecidableEq, Inhabited

namespace GroupDefinition

/-- The metadata key of the group's name, which is also the tag that makes a machine its member. -/
def nameKey : String := "nodeGroupName"
def minKey : String := "minNodes"
def maxKey : String := "maxNodes"
def userdataKey : String := "userdata"
def providerIdPrefixKey : String := "providerIDPrefix"

/-- Metadata under such a key is a label of the group's nodes. -/
def labelMark : String := "label-"

/-- Metadata under such a key is a tag of the group's machines. -/
def tagMark : String := "tag-"

/-- The metadata a profile has to carry to define a group. -/
def requiredKeys : List String := [nameKey, minKey, maxKey]

/-- A definition whose offering and zone are not known yet. -/
def new (profile : AutoscaleProfile) (metadata : TextMap) : GroupDefinition :=
  ⟨profile, metadata, default, default⟩

def name (d : GroupDefinition) : String := (d.metadata.get? nameKey).getD ""

def hasRequiredMetadata (d : GroupDefinition) : Bool := requiredKeys.all d.metadata.contains

/-- A size in the metadata; what is no number counts as zero. -/
def sizeAt (d : GroupDefinition) (key : String) : Nat :=
  ((d.metadata.get? key).bind (Decimal.unsigned? Decimal.maxSize)).getD 0

def minSize (d : GroupDefinition) : Nat := d.sizeAt minKey
def maxSize (d : GroupDefinition) : Nat := d.sizeAt maxKey

/-- What a new machine runs first. -/
def userdata (d : GroupDefinition) : Option String := d.metadata.get? userdataKey

/-- What stands before a machine's id in its external id. -/
def providerIdPrefix (d : GroupDefinition) : String :=
  (d.metadata.get? providerIdPrefixKey).getD ""

/-- The further deploy parameters, in the order written. -/
def deployParams (d : GroupDefinition) : List (String × String) :=
  Form.decodePairs d.profile.otherDeployParams

/-- A further deploy parameter; of a repeated one the first counts. -/
def param? (d : GroupDefinition) (key : String) : Option String := d.deployParams.lookup key

/-- The project the group lives in, empty for none. It may also be given as a deploy parameter. -/
def projectId (d : GroupDefinition) : String :=
  match d.profile.projectId with
  | some id => if id.isEmpty then (d.param? "projectid").getD "" else id
  | none => (d.param? "projectid").getD ""

/-- The project, if there is one. -/
def project? (d : GroupDefinition) : Option String :=
  if d.projectId.isEmpty then none else some d.projectId

/-- The size of the root disk in gigabytes; zero when it is not given as a number. -/
def rootDiskSize (d : GroupDefinition) : Int64 :=
  ((d.param? "rootdisksize").bind Decimal.int64?).getD 0

/-- The metadata whose keys begin with `mark`, under the rest of the key. -/
def marked (d : GroupDefinition) (mark : String) : TextMap :=
  .ofList (d.metadata.toList.filterMap fun p => (Text.dropStart? mark p.1).map fun k => (k, p.2))

/-- The tags new machines get besides the group's own. -/
def tags (d : GroupDefinition) : TextMap := d.marked tagMark

/-- The labels the group's nodes are expected to have. -/
def labels (d : GroupDefinition) : TextMap := d.marked labelMark

end GroupDefinition
end NodeGroups
