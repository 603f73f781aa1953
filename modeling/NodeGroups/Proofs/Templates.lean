import NodeGroups.Group.Template
import NodeGroups.Proofs.Deployments

namespace NodeGroups.NodeTemplate

/-- A quantity that can be reported: not negative, and of 64 bits with a sign. -/
def Reportable (q : Int) : Prop := 0 ≤ q ∧ q ≤ 2 ^ 63 - 1

theorem maxQuantity_eq : maxQuantity = 2 ^ 63 - 1 := by decide

/-- The limit before the multiplication changes nothing: what it cuts off is over the limit again
after it. -/
theorem saturate_megabytes (m : Nat) :
    saturate (saturate m * bytesPerMegabyte) = min ((m : Int) * 10 ^ 6) (2 ^ 63 - 1) := by
  have hmega : bytesPerMegabyte = 10 ^ 6 := by decide
  unfold saturate
  rw [maxQuantity_eq, hmega]
  omega

theorem checked?_eq_some_iff {q b : Int} : checked? q = some b ↔ q ≤ 2 ^ 63 - 1 ∧ b = q := by
  unfold checked?
  rw [maxQuantity_eq, Option.ite_none_right_eq_some, Option.some.injEq]
  exact and_congr_right fun _ => eq_comm

/-- The size a template reads is the size a deployed machine is given. -/
theorem rootDiskSize_eq (d : GroupDefinition) :
    d.rootDiskSize = (DeployRequest.numberParam d "rootdisksize").getD 0 := rfl

/-- A new machine of the group is deployed with a root disk of so many gigabytes. -/
def AsksDisk (d : GroupDefinition) (machine : String) (gigabytes : Int) : Prop :=
  ∃ text, ((DeployRequest.ofDefinition d).withName machine).query.get? "rootdisksize" = some text ∧
    Decimal.Denotes text.toList gigabytes

theorem asksDisk_iff {d : GroupDefinition} {machine : String} {g : Int} :
    AsksDisk d machine g ↔
      (DeployRequest.numberParam d "rootdisksize").map Int64.toInt = some g := by
  have hget : ((DeployRequest.ofDefinition d).withName machine).query.get? "rootdisksize" =
      (DeployRequest.numberParam d "rootdisksize").map DeployRequest.numberText :=
    DeployRequest.get?_number d machine (by decide)
  unfold AsksDisk
  rw [hget]
  cases DeployRequest.numberParam d "rootdisksize" with
  | none => simp
  | some n =>
    have hdecimal : Decimal.Denotes (DeployRequest.numberText n).toList n.toInt :=
      Decimal.denotes_toString n.toInt
    rw [Option.map_some, Option.map_some, Option.some.injEq]
    constructor
    · intro h
      obtain ⟨text, htext, hg⟩ := h
      rw [← Option.some.inj htext] at hg
      exact hdecimal.unique hg
    · intro h
      subst h
      exact ⟨_, rfl, hdecimal⟩

theorem ephemeralStorage_eq_some_iff {d : GroupDefinition} (machine : String) {b : Int} :
    (resources d).ephemeralStorage = some b ↔
      ∃ g, AsksDisk d machine g ∧ 0 < g ∧ g * 2 ^ 30 ≤ 2 ^ 63 - 1 ∧ b = g * 2 ^ 30 := by
  have hgibi : bytesPerGibibyte = 2 ^ 30 := by decide
  have hstorage : (resources d).ephemeralStorage = some b ↔ 0 < d.rootDiskSize.toInt ∧
      d.rootDiskSize.toInt * 2 ^ 30 ≤ 2 ^ 63 - 1 ∧ b = d.rootDiskSize.toInt * 2 ^ 30 := by
    rw [resources, Option.ite_none_right_eq_some, checked?_eq_some_iff, hgibi]
  rw [hstorage, rootDiskSize_eq]
  simp only [asksDisk_iff]
  cases DeployRequest.numberParam d "rootdisksize" with
  | none => simp
  | some n => simp

/-- The names of the labels every node has. -/
def genericKeys : List String :=
  ["beta.kubernetes.io/arch", "beta.kubernetes.io/os", "beta.kubernetes.io/instance-type",
    "failure-domain.beta.kubernetes.io/region", "failure-domain.beta.kubernetes.io/zone"]

theorem get?_labels (name : String) (d : GroupDefinition) (k : String) :
    (build name d).labels.get? k =
      ((genericLabels d).lookup k).or (d.metadata.get? ("label-" ++ k)) := by
  have hkeys : (genericLabels d).map Prod.fst = genericKeys := rfl
  have hdistinct : (genericLabels d).Pairwise fun a b => a.1 ≠ b.1 := by
    have hnames : ((genericLabels d).map Prod.fst).Pairwise fun a b => a ≠ b := by
      rw [hkeys]
      decide
    exact List.pairwise_map.mp hnames
  have hown : d.labels.get? k = d.metadata.get? ("label-" ++ k) := d.get?_marked "label-" k
  rw [build, TextMap.get?_insertAll, lookup_reverse hdistinct, hown]

/-- What the resources of a group's template are: quantities that can be reported, the memory of the
offering in bytes, and the disk that a new machine is deployed with. -/
structure Offers (d : GroupDefinition) (r : NodeResources) : Prop where
  pods : Reportable r.pods
  cpu : Reportable r.cpu
  memory : Reportable r.memory
  storage : ∀ b, r.ephemeralStorage = some b → Reportable b
  memory_eq : r.memory = min ((d.offering.memory.toNat : Int) * 10 ^ 6) (2 ^ 63 - 1)
  disk : ∀ machine b, r.ephemeralStorage = some b ↔
    ∃ g, AsksDisk d machine g ∧ 0 < g ∧ g * 2 ^ 30 ≤ 2 ^ 63 - 1 ∧ b = g * 2 ^ 30

/-- What the labels of a group's template are: the generic ones from the offering and the zone, and
those of the metadata that are named otherwise. -/
structure Labelled (d : GroupDefinition) (labels : TextMap) : Prop where
  arch : labels.get? "beta.kubernetes.io/arch" = some "amd64"
  os : labels.get? "beta.kubernetes.io/os" = some "linux"
  instanceType : labels.get? "beta.kubernetes.io/instance-type" = some d.offering.name
  region : labels.get? "failure-domain.beta.kubernetes.io/region" = some d.zone.name
  zone : labels.get? "failure-domain.beta.kubernetes.io/zone" = some d.zone.name
  own : ∀ k ∉ genericKeys, labels.get? k = d.metadata.get? ("label-" ++ k)

theorem resources_offers (d : GroupDefinition) : Offers d (resources d) := by
  have hmemory : (resources d).memory = _ := saturate_megabytes d.offering.memory.toNat
  constructor
  case pods =>
    have hpods : (resources d).pods = 110 := rfl
    unfold Reportable
    omega
  case cpu =>
    have hlt : d.offering.cpuNumber.toNat < 2 ^ 32 := d.offering.cpuNumber.toNat_lt
    have hcpu : (resources d).cpu = d.offering.cpuNumber.toNat := rfl
    unfold Reportable
    omega
  case memory =>
    unfold Reportable
    omega
  case storage =>
    intro b hb
    obtain ⟨g, -, hpos, hle, rfl⟩ := (ephemeralStorage_eq_some_iff "").mp hb
    unfold Reportable
    omega
  case memory_eq => exact hmemory
  case disk =>
    intro machine b
    exact ephemeralStorage_eq_some_iff machine

theorem build_labelled (name : String) (d : GroupDefinition) :
    Labelled d (build name d).labels := by
  constructor
  case own =>
    intro k hk
    have habsent : (genericLabels d).lookup k = none := by
      rw [List.lookup_eq_none_iff]
      intro p hp
      have hmem : p.1 ∈ genericKeys := List.mem_map_of_mem (f := Prod.fst) hp
      have hne : k ≠ p.1 := by
        intro same
        exact hk (same ▸ hmem)
      simpa using hne
    rw [get?_labels, habsent, Option.none_or]
  all_goals
    rw [get?_labels]
    simp [genericLabels, List.lookup_cons]

/-- A template reports no quantity out of range, the disk that machines of the group are deployed
with, and the labels its nodes will have. -/
theorem build_describes (name : String) (d : GroupDefinition) :
    Offers d (build name d).capacity ∧ Offers d (build name d).allocatable ∧
      Labelled d (build name d).labels :=
  ⟨resources_offers d, resources_offers d, build_labelled name d⟩

end NodeGroups.NodeTemplate
