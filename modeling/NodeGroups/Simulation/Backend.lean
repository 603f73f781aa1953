import NodeGroups.Simulation.Device

namespace NodeGroups

inductive CallKind
  | listProjects
  | listProfiles
  | listDetails
  | listMachines
  | getOffering
  | getZone
  | deploy
  | tag
  | destroy
  deriving DecidableEq

def Call.kind : Call → CallKind
  | listProjects => .listProjects
  | listProfiles _ => .listProfiles
  | listDetails _ => .listDetails
  | listMachines _ => .listMachines
  | getOffering _ => .getOffering
  | getZone _ => .getZone
  | deploy _ => .deploy
  | tag _ => .tag
  | destroy _ => .destroy

/-- A reply that fails. Only a failed deployment carries the id of a machine. -/
def Call.refuse (e : Error) (vmId : Option String) : (c : Call) → c.Reply
  | listProjects => .error e
  | listProfiles _ => .error e
  | listDetails _ => .error e
  | listMachines _ => .error e
  | getOffering _ => .error e
  | getZone _ => .error e
  | deploy _ => .error ⟨vmId, e⟩
  | tag _ => .error e
  | destroy _ => .error e

/-- Something unusual that happens to a call. -/
structure Fault where
  /-- How long the call takes, in nanoseconds. -/
  delay : Nat := 0
  error : Option Error := none
  /-- The machine that a failed deployment names. -/
  vmId : Option String := none
  /-- The machine that a deployment makes, also one that fails. -/
  vm : Option VirtualMachine := none

/-- The machines that a fault makes of a call. -/
def Fault.machines (f : Fault) : Call → List VirtualMachine
  | .deploy _ => f.vm.toList
  | _ => []

/-- A cloud kept in memory. -/
structure Backend where
  projects : List Project := []
  /-- The profiles of each project; the empty id stands for the root scope. -/
  profiles : List (String × List AutoscaleProfile) := []
  details : List (String × List ResourceDetail) := []
  machines : List VirtualMachine := []
  offerings : List ServiceOffering := []
  zones : List Zone := []
  /-- What is going to happen: each call takes the first entry of its kind. -/
  faults : List (CallKind × Option Fault) := []
  /-- How many machines were made without being told how. -/
  made : Nat := 0
  /-- The calls so far, last first. -/
  log : List Call := []

/-- The first entry of a kind, and the list without it. -/
def takeFirst {α : Type} (kind : CallKind) : List (CallKind × α) → Option α × List (CallKind × α)
  | [] => (none, [])
  | f :: fs =>
    if f.1 = kind then (some f.2, fs)
    else
      let (found, rest) := takeFirst kind fs
      (found, f :: rest)

theorem takeFirst_length {α : Type} (kind : CallKind) (fs : List (CallKind × α)) :
    (takeFirst kind fs).2.length + (if (takeFirst kind fs).1.isSome then 1 else 0) = fs.length := by
  induction fs with
  | nil => rfl
  | cons f fs ih =>
    unfold takeFirst
    split
    · simp
    · simp only [List.length_cons]; omega

/-- Whether a machine is asked for: it belongs to the project and carries every tag. -/
def MachinesRequest.accepts (r : MachinesRequest) (vm : VirtualMachine) : Bool :=
  vm.projectId = r.projectId && r.tags.toList.all fun t => vm.hasTag t.1 t.2

namespace Backend

/-- The machines of a project that carry every tag. -/
def select (b : Backend) (r : MachinesRequest) : List VirtualMachine := b.machines.filter r.accepts

/-- The machine that a deployment makes of its own accord. -/
def fresh (b : Backend) (r : DeployRequest) : VirtualMachine where
  id := "vm-" ++ toString (b.made + 1)
  name := r.name.getD ""
  displayName := r.displayName
  state := "Starting"
  zoneId := none
  projectId := r.projectId
  tags := []

def add (b : Backend) (vm : VirtualMachine) : Backend := { b with machines := b.machines ++ [vm] }

def addTags (tags : TextMap) (vm : VirtualMachine) : VirtualMachine :=
  { vm with tags := vm.tags ++ tags.toList.map fun t => ⟨t.1, t.2⟩ }

/-- The machines after some of them were tagged. -/
def tagged (r : TagRequest) (machines : List VirtualMachine) : List VirtualMachine :=
  machines.map fun vm => if r.resourceIds.contains vm.id then addTags r.tags vm else vm

/-- What a call does when nothing unusual happens. -/
def act (b : Backend) : (c : Call) → c.Reply × Backend
  | .listProjects => (.ok b.projects, b)
  | .listProfiles r => (.ok ((b.profiles.lookup (r.projectId.getD "")).getD []), b)
  | .listDetails r => (.ok ((b.details.lookup r.resourceId).getD []), b)
  | .listMachines r => (.ok (b.select r), b)
  | .getOffering id =>
    match b.offerings.find? fun o => o.id = id with
    | some o => (.ok o, b)
    | none => (.error (.noMatch .serviceOffering id), b)
  | .getZone id =>
    match b.zones.find? fun z => z.id = id with
    | some z => (.ok z, b)
    | none => (.error (.noMatch .zone id), b)
  | .deploy r => (.ok (b.fresh r), { b.add (b.fresh r) with made := b.made + 1 })
  | .tag r => (.ok (), { b with machines := tagged r b.machines })
  | .destroy r =>
    if b.machines.any (fun vm => vm.id = r.id) then
      (.ok (), { b with machines := b.machines.eraseP fun vm => vm.id = r.id })
    else (.error (.api 431 (Error.notFoundText r.id)), b)

/-- What a call does under a fault. A machine that the fault names is there afterwards. -/
def actUnder (b : Backend) (fault : Option Fault) (c : Call) : c.Reply × Backend :=
  match fault with
  | none => b.act c
  | some f =>
    match f.error with
    | some e => (c.refuse e f.vmId, { b with machines := b.machines ++ f.machines c })
    | none =>
      match c with
      | .deploy r =>
        match f.vm with
        | some vm => (.ok vm, b.add vm)
        | none => b.act (.deploy r)
      | c => b.act c

/-- Notes a call and takes the fault that is meant for it. -/
def receive (b : Backend) (c : Call) : Option Fault × Backend :=
  let (fault, faults) := takeFirst c.kind b.faults
  (fault.join, { b with faults, log := c :: b.log })

/-- How long a call takes under a fault. -/
def delayOf (fault : Option Fault) : Nat := (fault.map Fault.delay).getD 0

/-- Takes a call up: it acts at once, or after the delay of its fault. -/
def start (c : Call) (now : Nat) (b : Backend) : Progress (fun _ => Option Fault) c × Backend :=
  let (fault, b) := b.receive c
  if delayOf fault = 0 then
    let (reply, b) := b.actUnder fault c
    (.finished reply, b)
  else (.asleep (now + delayOf fault) fault, b)

theorem act_faults (b : Backend) (c : Call) : (b.act c).2.faults = b.faults := by
  cases c <;> simp only [act, add] <;> try rfl
  all_goals split <;> rfl

theorem actUnder_faults (b : Backend) (fault : Option Fault) (c : Call) :
    (b.actUnder fault c).2.faults = b.faults := by
  unfold actUnder
  split
  · exact act_faults b c
  · split
    · rfl
    · split
      · split
        · rfl
        · exact act_faults b _
      · exact act_faults b _

theorem start_patience (c : Call) (now : Nat) (b : Backend) :
    (start c now b).2.faults.length + (start c now b).1.sleeps ≤ b.faults.length := by
  have h := takeFirst_length c.kind b.faults
  unfold start receive
  simp only
  split
  · simp only [actUnder_faults, Progress.sleeps]
    omega
  · next hd =>
    simp only [Progress.sleeps]
    cases hf : (takeFirst c.kind b.faults).1 with
    | none => simp [hf, delayOf] at hd
    | some f => simp only [hf, Option.isSome_some, if_true] at h; omega

theorem resume_patience (c : Call) (fault : Option Fault) (b : Backend) :
    (b.actUnder fault c).2.faults.length + 0 ≤ b.faults.length := by
  rw [actUnder_faults]
  exact Nat.le_refl _

/-- The backend as a device. A call sleeps at most once. -/
def device : Device Backend where
  Thread _ := Option Fault
  start := start
  resume c fault _ b :=
    let (reply, b) := b.actUnder fault c
    (.finished reply, b)
  patience b := b.faults.length
  start_patience := start_patience
  resume_patience c fault _ b := resume_patience c fault b

end Backend
end NodeGroups
