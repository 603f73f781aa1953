import NodeGroups.Proofs.Operations

namespace NodeGroups

/-- What a group was read to be. -/
structure Reading where
  machines : List VirtualMachine
  offering : ServiceOffering
  zone : Zone

namespace Event

/-- The machines that a listing gave. -/
def machines? : Event → Option (List VirtualMachine)
  | called (.listMachines _) (.ok machines) => some machines
  | _ => none

def offering? : Event → Option ServiceOffering
  | called (.getOffering _) (.ok offering) => some offering
  | _ => none

def zone? : Event → Option Zone
  | called (.getZone _) (.ok zone) => some zone
  | _ => none

/-- The machine of a destruction that succeeded, or that was not there any more. -/
def deleted? : Event → Option String
  | called (.destroy r) (.ok ()) => some r.id
  | called (.destroy r) (.error e) => if e.isNotFound r.id then some r.id else none
  | _ => none

end Event

/-- The reading that a history begins with, if all three reads of a group succeeded, and what came
after it. -/
def headReading? : List Event → Option (Reading × List Event)
  | first :: second :: third :: rest => do
    let machines ← first.machines?
    let offering ← second.offering?
    let zone ← third.zone?
    return (⟨machines, offering, zone⟩, rest)
  | _ => none

/-- The last reading of a history in which all three reads of a group succeeded, and what came after
it. -/
def lastReading? : List Event → Option (Reading × List Event)
  | [] => none
  | e :: es => (lastReading? es).or (headReading? (e :: es))

def deletions (es : List Event) : List String := es.filterMap Event.deleted?

/-- Events that cannot be the end of a reading that other events began. -/
def BeginsAnew (es : List Event) : Prop := ∀ e ∈ es.head?, e.offering? = none ∧ e.zone? = none

theorem headReading?_append (e : Event) (es : List Event) {es' : List Event} (h : BeginsAnew es') :
    headReading? (e :: es ++ es') = (headReading? (e :: es)).map fun x => (x.1, x.2 ++ es') := by
  match es, es' with
  | [], [] => rfl
  | [], [_] => rfl
  | [], second :: third :: rest =>
    have hsecond := (h second rfl).1
    simp [headReading?, hsecond]
  | [_], [] => rfl
  | [_], third :: rest =>
    have hthird := (h third rfl).2
    simp [headReading?, hthird]
  | second :: third :: rest, es' =>
    simp only [headReading?, List.cons_append]
    cases e.machines? <;> cases second.offering? <;> cases third.zone? <;> rfl

/-- A reading is never put together from two parts of a history. -/
theorem lastReading?_append {es es' : List Event} (h : BeginsAnew es') :
    lastReading? (es ++ es') =
      (lastReading? es').or ((lastReading? es).map fun x => (x.1, x.2 ++ es')) := by
  induction es with
  | nil => simp [lastReading?]
  | cons e es ih =>
    have hhead := headReading?_append e es h
    rw [List.cons_append] at hhead ⊢
    rw [lastReading?, lastReading?, ih, hhead]
    cases lastReading? es' <;> cases lastReading? es <;> rfl

theorem exists_of_headReading? {es since : List Event} {r : Reading}
    (h : headReading? es = some (r, since)) : ∃ e ∈ es, e.machines? = some r.machines := by
  match es with
  | first :: second :: third :: rest =>
    simp only [headReading?, Option.bind_eq_bind, Option.bind_eq_some_iff] at h
    obtain ⟨machines, hmachines, offering, -, zone, -, hpair⟩ := h
    cases hpair
    exact ⟨first, List.mem_cons_self, hmachines⟩

/-- The machines of a reading were listed. -/
theorem exists_of_lastReading? {es since : List Event} {r : Reading}
    (h : lastReading? es = some (r, since)) : ∃ e ∈ es, e.machines? = some r.machines := by
  induction es with
  | nil => cases h
  | cons e es ih =>
    rw [lastReading?, Option.or_eq_some_iff] at h
    rcases h with h | ⟨-, h⟩
    · obtain ⟨e', he', hmachines⟩ := ih h
      exact ⟨e', List.mem_cons_of_mem e he', hmachines⟩
    · exact exists_of_headReading? h

/-- A group without machines, as it is before anything was read. -/
def Reading.ofDefinition (d : GroupDefinition) : Reading := ⟨[], d.offering, d.zone⟩

/-- The last reading of a history that began with a new group, and what came after it. -/
def lastReading (d : GroupDefinition) (es : List Event) : Reading × List Event :=
  (lastReading? es).getD (.ofDefinition d, es)

/-- A group is as it was last read, in any order and without the machines that were deleted since. -/
structure NodeGroup.Follows (g : NodeGroup) (d : GroupDefinition) (es : List Event) : Prop where
  definition : g.definition =
    { d with offering := (lastReading d es).1.offering, zone := (lastReading d es).1.zone }
  machines : ∃ removed : List VirtualMachine,
    removed.map VirtualMachine.id = deletions (lastReading d es).2 ∧
      (g.machines ++ removed).Perm (lastReading d es).1.machines

theorem lastReading_append_of_none (d : GroupDefinition) (es : List Event) {es' : List Event}
    (hnew : BeginsAnew es') (hnone : lastReading? es' = none) :
    lastReading d (es ++ es') = ((lastReading d es).1, (lastReading d es).2 ++ es') := by
  unfold lastReading
  rw [lastReading?_append hnew, hnone, Option.none_or]
  cases lastReading? es <;> rfl

theorem lastReading_append_of_some (d : GroupDefinition) (es : List Event) {es' since : List Event}
    {r : Reading} (hnew : BeginsAnew es') (hsome : lastReading? es' = some (r, since)) :
    lastReading d (es ++ es') = (r, since) := by
  unfold lastReading
  rw [lastReading?_append hnew, hsome]
  rfl

namespace NodeGroup

variable {g g' : NodeGroup} {d : GroupDefinition} {es es' : List Event}

theorem Follows.new (d : GroupDefinition) : (new d).Follows d [] := ⟨rfl, [], rfl, .nil⟩

theorem Follows.listed (h : g.Follows d es) {vm : VirtualMachine} (hvm : vm ∈ g.machines) :
    ∃ e ∈ es, ∃ machines, e.machines? = some machines ∧ vm ∈ machines := by
  obtain ⟨removed, -, hperm⟩ := h.machines
  have hmem : vm ∈ (lastReading d es).1.machines :=
    hperm.mem_iff.mp (List.mem_append_left removed hvm)
  cases hlast : lastReading? es with
  | none =>
    simp only [lastReading, hlast, Option.getD_none, Reading.ofDefinition] at hmem
    cases hmem
  | some x =>
    simp only [lastReading, hlast, Option.getD_some] at hmem
    obtain ⟨e, he, hmachines⟩ := exists_of_lastReading? hlast
    exact ⟨e, he, _, hmachines, hmem⟩

/-- Events in which nothing is read in full and nothing is deleted. -/
def Idle (es : List Event) : Prop := lastReading? es = none ∧ deletions es = []

theorem Follows.idle (h : g.Follows d es) (hnew : BeginsAnew es') (hidle : Idle es') :
    g.Follows d (es ++ es') := by
  obtain ⟨hnone, hdeleted⟩ := hidle
  have hlast := lastReading_append_of_none d es hnew hnone
  obtain ⟨removed, hids, hperm⟩ := h.machines
  refine ⟨by rw [hlast, h.definition], removed, ?_, by rwa [hlast]⟩
  rw [hlast, hids]
  change _ = List.filterMap _ _
  rw [List.filterMap_append]
  change _ = _ ++ deletions es'
  rw [hdeleted, List.append_nil]
  rfl

/-- A group as it was read. -/
def bound (g : NodeGroup) (r : Reading) : NodeGroup :=
  ⟨{ g.definition with offering := r.offering, zone := r.zone }, r.machines⟩

theorem Follows.read (h : g.Follows d es) {r : Reading} (hnew : BeginsAnew es')
    (hread : lastReading? es' = some (r, [])) : (g.bound r).Follows d (es ++ es') := by
  have hlast := lastReading_append_of_some d es hnew hread
  refine ⟨?_, [], by rw [hlast]; rfl, ?_⟩
  · rw [hlast, bound, h.definition]
  · rw [hlast, bound, List.append_nil]

theorem Follows.delete (h : g.Follows d es) {i : Nat} {vm : VirtualMachine}
    (hvm : g.machines[i]? = some vm) (hnew : BeginsAnew es') (hnone : lastReading? es' = none)
    (hdeleted : deletions es' = [vm.id]) :
    Follows { g with machines := swapRemove g.machines i } d (es ++ es') := by
  have hlast := lastReading_append_of_none d es hnew hnone
  obtain ⟨removed, hids, hperm⟩ := h.machines
  refine ⟨by rw [hlast, ← h.definition], removed ++ [vm], ?_, ?_⟩
  · rw [hlast, List.map_append, hids]
    change _ = List.filterMap _ _
    rw [List.filterMap_append]
    change _ = _ ++ deletions es'
    rw [hdeleted]
    rfl
  · rw [hlast]
    have hswap := (swapRemove_perm hvm).append_right removed
    refine List.Perm.trans ?_ (hswap.trans hperm)
    rw [List.cons_append, ← List.append_assoc]
    exact List.perm_append_singleton vm _

end NodeGroup
end NodeGroups
