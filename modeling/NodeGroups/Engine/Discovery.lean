import NodeGroups.Engine.NodeGroup
import NodeGroups.Engine.ProjectCache
import NodeGroups.Settings.Selector

namespace NodeGroups.Discovery

/-- The groups found so far, in the order they were found. -/
abbrev Found := List NodeGroup

/-- The group of a name among those found. -/
def named? (found : Found) (name : String) : Option NodeGroup := found.find? fun g => g.id = name

/-- Whether a definition has what a group needs and is selected. -/
def accepts (selectors : List LabelSelector) (d : GroupDefinition) : Bool :=
  d.hasRequiredMetadata && LabelSelector.anyAccepts selectors d.metadata

/-- Takes on one profile if it defines a group. No two groups may have one name. -/
def addProfile (selectors : List LabelSelector) (found : Found) (profile : AutoscaleProfile) :
    Program (Except Error Unit × Found) := do
  match ← Program.ask (.listDetails (.ofProfile profile.id)) with
  | .error e => return (.error e, found)
  | .ok details =>
    let d := GroupDefinition.new profile (ResourceDetail.metadata details)
    if !accepts selectors d then return (.ok (), found)
    else
      match named? found d.name with
      | some other =>
        return (.error (.duplicateNodeGroup d.name profile.id other.definition.profile.id), found)
      | none =>
        match ← (NodeGroup.new d).refresh with
        | (.error e, _) => return (.error e, found)
        | (.ok (), g) => return (.ok (), found ++ [g])

/-- Takes on profiles until one fails. -/
def addProfiles (selectors : List LabelSelector) :
    List AutoscaleProfile → Found → Program (Except Error Unit × Found)
  | [], found => pure (.ok (), found)
  | profile :: profiles, found => do
    match ← addProfile selectors found profile with
    | (.error e, found) => return (.error e, found)
    | (.ok (), found) => addProfiles selectors profiles found

def visitProject (selectors : List LabelSelector) (found : Found) (projectId : String) :
    Program (Except Error Unit × Found) := do
  match ← Program.ask (.listProfiles (.inProject projectId)) with
  | .error e => return (.error e, found)
  | .ok profiles => addProfiles selectors profiles found

/-- Finds the groups of the root scope and of every project: all of them, or the first error. -/
def discover (cache : ProjectCache) (selectors : List LabelSelector) :
    Program (Except Error (List NodeGroup) × ProjectCache) := do
  match ← cache.forEach (visitProject selectors) [] with
  | (.error e, _, cache) => return (.error e, cache)
  | (.ok (), found, cache) => return (.ok found, cache)

end NodeGroups.Discovery
