import NodeGroups.Engine.Discovery
import NodeGroups.Remote.Client

namespace NodeGroups

/-- The cloud as an autoscaler sees it: the groups that were found, and how to find them again. -/
structure Provider where
  provisioner : Provisioner
  selectors : List LabelSelector
  cache : ProjectCache
  groups : List NodeGroup

namespace Provider

/-- The name under which the provider is known. -/
def name : String := "globo-cloudstack"

/-- The label of nodes with a graphics processor. -/
def gpuLabel : String := "cloudstack.apache.org/gpu-node"

/-- Machine types are not offered. -/
def machineTypes : List String := []

/-- Nothing has to be cleaned up at the end. -/
def cleanup : Except Error Unit := .ok ()

/-- Reads the settings at a path; `document` is what is stored there. -/
def readSettings (path : String) (document : Option String) (environment : String → Option String) :
    Except Error Settings :=
  match document with
  | none =>
    .error (.validation (.field "config" ("couldn't open configuration " ++ path ++
      ": No such file or directory (os error 2)")))
  | some text =>
    match Settings.parse text with
    | .error e => .error (.validation e)
    | .ok settings => .ok (settings.override environment)

/-- A provider that has found nothing yet. All settings and specs are checked before anything is
asked of the cloud. -/
def prepare (settings : Settings) (specs : List String) : Except ValidationError Provider := do
  settings.validate
  if specs.isEmpty then
    .error (.field "discovery_specs" "auto discovery configuration is required")
  let selectors ← specs.mapM LabelSelector.parse
  let interval ← settings.refreshInterval
  pure ⟨⟨settings.expungeVms⟩, selectors, .ofInterval settings.useProjects interval, []⟩

/-- A provider that has found nothing yet, put together of parts that each check once more what they are
made of. A client is made of the settings unless one is given. -/
def assemble (given : Bool) (settings : Settings) (specs : List String) :
    Except Error (Option Client × Provider) := do
  settings.validate.mapError .validation
  if specs.isEmpty then
    .error (.validation (.field "discovery_specs" "auto discovery configuration is required"))
  let selectors ← (specs.mapM LabelSelector.parse).mapError .validation
  let client ← if given then pure none else
    ((Client.ofSettings settings).map some).mapError .validation
  let interval ← settings.refreshInterval.mapError .validation
  let cache ← ProjectCache.new settings.useProjects interval.nanos
  pure (client, ⟨⟨settings.expungeVms⟩, selectors, cache, []⟩)

/-- Finds the groups anew. If that fails the old ones stay. -/
def refresh (p : Provider) : Program (Except Error Unit × Provider) := do
  match ← Discovery.discover p.cache p.selectors with
  | (.error e, cache) => return (.error e, { p with cache })
  | (.ok groups, cache) => return (.ok (), { p with cache, groups })

/-- A provider with the groups it finds at first. -/
def build (settings : Settings) (specs : List String) : Program (Except Error Provider) := do
  match prepare settings specs with
  | .error e => return .error (.validation e)
  | .ok provider =>
    match ← provider.refresh with
    | (.error e, _) => return .error e
    | (.ok (), provider) => return .ok provider

/-- The position of the group that a node belongs to. -/
def indexOf? (p : Provider) (providerId : String) : Option Nat :=
  p.groups.findIdx? fun g => g.hasNode providerId

/-- Puts a group back after an operation on it. -/
def setGroup (p : Provider) (index : Nat) (g : NodeGroup) : Provider :=
  { p with groups := p.groups.set index g }

end Provider
end NodeGroups
