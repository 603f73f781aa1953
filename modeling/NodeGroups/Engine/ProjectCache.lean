import NodeGroups.Remote.Program
import NodeGroups.Settings.Duration

namespace NodeGroups

/-- The projects that groups are looked for in, read anew when they are too old. -/
structure ProjectCache where
  /-- Without it only the root scope counts, and projects are never listed. -/
  enabled : Bool
  maxAge : RefreshInterval
  /-- When the last listing that succeeded was begun, in nanoseconds. -/
  lastRefreshed : Option Nat
  projects : List Project

namespace ProjectCache

/-- A cache that has listed nothing yet. -/
def ofInterval (enabled : Bool) (maxAge : RefreshInterval) : ProjectCache :=
  ⟨enabled, maxAge, none, []⟩

/-- A cache with an age limit in nanoseconds, which must not be zero. -/
def new (enabled : Bool) (maxAge : Nat) : Except Error ProjectCache :=
  match RefreshInterval.ofNanos maxAge with
  | .error e => .error (.validation e)
  | .ok interval => .ok (ofInterval enabled interval)

/-- Whether the projects are young enough at a moment. -/
def isFresh (c : ProjectCache) (now : Nat) : Bool :=
  match c.lastRefreshed with
  | none => false
  | some last => now - last ≤ c.maxAge.nanos

/-- Lists the projects if they are too old. A listing that fails changes nothing. -/
def refresh (c : ProjectCache) : Program (Except Error Unit × ProjectCache) := do
  if !c.enabled then return (.ok (), c)
  else
    let now ← Program.now
    if c.isFresh now then return (.ok (), c)
    else
      match ← Program.ask .listProjects with
      | .error e => return (.error e, c)
      | .ok projects => return (.ok (), { c with projects, lastRefreshed := some now })

/-- The root scope, whose id is empty, and the projects. -/
def projectIds (c : ProjectCache) : List String := "" :: c.projects.map Project.id

/-- Visits one id after the other until a visit fails. -/
def visitAll {σ : Type} (visit : σ → String → Program (Except Error Unit × σ)) :
    List String → σ → Program (Except Error Unit × σ)
  | [], s => pure (.ok (), s)
  | id :: ids, s => do
    match ← visit s id with
    | (.error e, s) => return (.error e, s)
    | (.ok (), s) => visitAll visit ids s

/-- Visits every project id, after a look at the age of the list. -/
def forEach {σ : Type} (c : ProjectCache) (visit : σ → String → Program (Except Error Unit × σ))
    (s : σ) : Program (Except Error Unit × σ × ProjectCache) := do
  match ← c.refresh with
  | (.error e, c) => return (.error e, s, c)
  | (.ok (), c) =>
    let (result, s) ← visitAll visit c.projectIds s
    return (result, s, c)

end ProjectCache
end NodeGroups
