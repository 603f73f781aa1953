import NodeGroups.Proofs.Maps
import NodeGroups.Proofs.Mirrors
import NodeGroups.Proofs.Operations

namespace NodeGroups

/-- Two definitions whose metadata may differ under keys that begin with `labelMark`, and nowhere else. -/
structure GroupDefinition.SameUpToLabels (d d' : GroupDefinition) : Prop where
  profile : d'.profile = d.profile
  offering : d'.offering = d.offering
  zone : d'.zone = d.zone
  metadata : ∀ key, (∀ rest, key ≠ labelMark ++ rest) → d'.metadata.get? key = d.metadata.get? key

/-- Two groups with the same machines, whose definitions may differ in labels. -/
structure NodeGroup.SameUpToLabels (g g' : NodeGroup) : Prop where
  definition : g.definition.SameUpToLabels g'.definition
  machines : g'.machines = g.machines

/-- What is given back when something is done with a group. -/
inductive Answer
  | done (result : Except Error Unit)
  | size (result : Except Error Nat)
  | template (node : NodeTemplate)
  deriving DecidableEq

/-- What may be done with a group, the question what a new node would look like included. -/
inductive Inquiry
  | operation (op : Operation)
  | templateNode

/-- What is seen of a group after something was done with it. -/
structure View where
  answer : Answer
  machines : List VirtualMachine
  nodes : List Instance
  deriving DecidableEq

namespace Operation

/-- An operation with what it gives back. -/
def answer (p : Provisioner) (g : NodeGroup) : Operation → Program (Answer × NodeGroup)
  | refresh => do
    let (result, g) ← g.refresh
    return (.done result, g)
  | targetSize => do
    let (result, g) ← g.targetSize p
    return (.size result, g)
  | increaseSize delta => do
    let (result, g) ← g.increaseSize p delta
    return (.done result, g)
  | decreaseTargetSize delta => do
    let (result, g) ← g.decreaseTargetSize delta
    return (.done result, g)
  | deleteNodes nodes => do
    let (result, g) ← g.deleteNodes p nodes
    return (.done result, g)

end Operation

namespace Inquiry

def answer (p : Provisioner) (g : NodeGroup) : Inquiry → Program (Answer × NodeGroup)
  | operation op => op.answer p g
  | templateNode => do
    let node ← g.templateNode
    return (.template node, g)

/-- Inquiries one after the other, with what is seen after each. -/
def watch (p : Provisioner) : List Inquiry → NodeGroup → Program (List View × NodeGroup)
  | [], g => return ([], g)
  | inquiry :: inquiries, g => do
    let (answer, g) ← inquiry.answer p g
    let (views, last) ← watch p inquiries g
    return (⟨answer, g.machines, g.nodes⟩ :: views, last)

end Inquiry

/-- An answer without the labels of a template. -/
def Answer.withoutLabels : Answer → Answer
  | template node => template { node with labels := .empty }
  | answer => answer

def View.withoutLabels (v : View) : View := { v with answer := v.answer.withoutLabels }

/-- No key that begins with another letter is the key of a label. -/
theorem GroupDefinition.ne_label_of_head? {key : String} (h : key.toList.head? ≠ some 'l')
    (rest : String) : key ≠ labelMark ++ rest := by
  intro same
  have hmark : labelMark.toList = 'l' :: ['a', 'b', 'e', 'l', '-'] := by decide
  rw [same, String.toList_append, hmark] at h
  exact h rfl

namespace GroupDefinition.SameUpToLabels

variable {d d' : GroupDefinition}

theorem get?_eq (h : d.SameUpToLabels d') (key : String) (hkey : key.toList.head? ≠ some 'l') :
    d'.metadata.get? key = d.metadata.get? key :=
  h.metadata key (ne_label_of_head? hkey)

theorem name_eq (h : d.SameUpToLabels d') : d'.name = d.name := by
  have hname := h.get?_eq nameKey (by decide)
  rw [name, name, hname]

theorem minSize_eq (h : d.SameUpToLabels d') : d'.minSize = d.minSize := by
  have hmin := h.get?_eq minKey (by decide)
  rw [minSize, minSize, sizeAt, sizeAt, hmin]

theorem maxSize_eq (h : d.SameUpToLabels d') : d'.maxSize = d.maxSize := by
  have hmax := h.get?_eq maxKey (by decide)
  rw [maxSize, maxSize, sizeAt, sizeAt, hmax]

theorem providerIdPrefix_eq (h : d.SameUpToLabels d') :
    d'.providerIdPrefix = d.providerIdPrefix := by
  have hstart := h.get?_eq providerIdPrefixKey (by decide)
  rw [providerIdPrefix, providerIdPrefix, hstart]

theorem param?_eq (h : d.SameUpToLabels d') (key : String) : d'.param? key = d.param? key := by
  rw [param?, param?, deployParams, deployParams, h.profile]

theorem project?_eq (h : d.SameUpToLabels d') : d'.project? = d.project? := by
  have hproject : d'.projectId = d.projectId := by
    rw [projectId, projectId, h.profile, h.param?_eq]
  rw [project?, project?, hproject]

theorem tags_eq (h : d.SameUpToLabels d') : d'.tags = d.tags := by
  apply TextMap.ext_get?
  intro key
  rw [tags, tags, get?_marked, get?_marked]
  refine h.get?_eq _ ?_
  have hmark : tagMark.toList = 't' :: ['a', 'g', '-'] := by decide
  rw [String.toList_append, hmark]
  simp

/-- Machines are deployed alike, parameter by parameter. -/
theorem deployRequest_eq (h : d.SameUpToLabels d') :
    DeployRequest.ofDefinition d' = DeployRequest.ofDefinition d := by
  have huserdata : d'.userdata = d.userdata := h.get?_eq userdataKey (by decide)
  have hparam : d'.param? = d.param? := funext h.param?_eq
  simp only [DeployRequest.ofDefinition, DeployRequest.listParam, DeployRequest.numberParam,
    h.profile, h.project?_eq, huserdata, hparam]

theorem tagRequest_eq (h : d.SameUpToLabels d') :
    TagRequest.ofDefinition d' = TagRequest.ofDefinition d := by
  rw [TagRequest.ofDefinition, TagRequest.ofDefinition, h.tags_eq, h.name_eq]

theorem scaleUp_eq (h : d.SameUpToLabels d') (p : Provisioner) (count : Nat) :
    p.scaleUp d' count = p.scaleUp d count := by
  rw [Provisioner.scaleUp, Provisioner.scaleUp, h.name_eq, h.deployRequest_eq, h.tagRequest_eq]

theorem resources_eq (h : d.SameUpToLabels d') :
    NodeTemplate.resources d' = NodeTemplate.resources d := by
  have hdisk : d'.rootDiskSize = d.rootDiskSize := by
    rw [rootDiskSize, rootDiskSize, h.param?_eq]
  rw [NodeTemplate.resources, NodeTemplate.resources, h.offering, hdisk]

end GroupDefinition.SameUpToLabels

/-- Two answers that agree, and the groups afterwards. -/
def SameOutcome {α : Type} (x x' : α × NodeGroup) : Prop :=
  x.1 = x'.1 ∧ x.2.SameUpToLabels x'.2

namespace NodeGroup.SameUpToLabels

variable {g g' : NodeGroup} {p : Provisioner}

theorem machinesRequest_eq (h : g.SameUpToLabels g') : g'.machinesRequest = g.machinesRequest := by
  rw [machinesRequest, machinesRequest, h.definition.project?_eq, id, id, h.definition.name_eq]

theorem size_eq (h : g.SameUpToLabels g') : g'.size = g.size := by
  rw [size, size, h.machines]

theorem nodes_eq (h : g.SameUpToLabels g') : g'.nodes = g.nodes := by
  have hid : g'.providerId = g.providerId := by
    funext vmId
    rw [providerId, providerId, h.definition.providerIdPrefix_eq]
  rw [nodes, nodes, h.machines, hid]

theorem vmIdOf_eq (h : g.SameUpToLabels g') (node : NodeRef) : g'.vmIdOf node = g.vmIdOf node := by
  rw [vmIdOf, vmIdOf, h.definition.providerIdPrefix_eq]

theorem indexOf?_eq (h : g.SameUpToLabels g') (node : NodeRef) :
    g'.indexOf? node = g.indexOf? node := by
  rw [indexOf?, indexOf?, h.machines, h.vmIdOf_eq]

theorem refresh (h : g.SameUpToLabels g') : g.refresh.Mirrors SameOutcome g'.refresh := by
  unfold NodeGroup.refresh
  rw [h.machinesRequest_eq, h.definition.profile]
  refine .after _ fun listed => ?_
  cases listed with
  | error e => exact .done ⟨rfl, h⟩
  | ok machines =>
    refine .after _ fun offered => ?_
    cases offered with
    | error e => exact .done ⟨rfl, h⟩
    | ok offering =>
      refine .after _ fun zoned => ?_
      cases zoned with
      | error e => exact .done ⟨rfl, h⟩
      | ok zone => exact .done ⟨rfl, ⟨h.definition.profile, rfl, rfl, h.definition.metadata⟩, rfl⟩

theorem scaleUp (h : g.SameUpToLabels g') (count : Nat) :
    (g.scaleUp p count).Mirrors SameOutcome (g'.scaleUp p count) := by
  unfold NodeGroup.scaleUp
  rw [h.definition.scaleUp_eq]
  refine .after _ fun scaled => h.refresh.bind ?_
  rintro ⟨refreshed, g₁⟩ ⟨refreshed', g₁'⟩ ⟨rfl, hg⟩
  cases scaled with
  | error e => exact .done ⟨rfl, hg⟩
  | ok u => exact .done ⟨rfl, hg⟩

theorem heal (h : g.SameUpToLabels g') :
    (g.heal p).Mirrors NodeGroup.SameUpToLabels (g'.heal p) := by
  unfold NodeGroup.heal
  rw [h.size_eq, minSize, minSize, h.definition.minSize_eq]
  split
  · refine (h.scaleUp _).bind ?_
    rintro ⟨result, g₁⟩ ⟨result', g₁'⟩ ⟨-, hg⟩
    exact .done hg
  · exact .done h

theorem targetSize (h : g.SameUpToLabels g') :
    (g.targetSize p).Mirrors SameOutcome (g'.targetSize p) := by
  refine h.heal.bind fun g₁ g₁' hg => .done ⟨?_, hg⟩
  rw [hg.size_eq]

theorem increaseSize (h : g.SameUpToLabels g') (delta : Int64) :
    (g.increaseSize p delta).Mirrors SameOutcome (g'.increaseSize p delta) := by
  unfold NodeGroup.increaseSize
  split
  · exact .done ⟨rfl, h⟩
  · refine h.heal.bind fun g₁ g₁' hg => ?_
    have hmax : g₁'.maxSize = g₁.maxSize := hg.definition.maxSize_eq
    simp only [hg.size_eq, hmax]
    by_cases hlimit : g₁.maxSize < addSizes g₁.size delta.toInt.toNat
    · rw [if_pos hlimit, if_pos hlimit]
      exact .done ⟨rfl, hg⟩
    · rw [if_neg hlimit, if_neg hlimit]
      exact hg.scaleUp _

theorem deleteNodes (h : g.SameUpToLabels g') (nodes : List NodeRef) :
    (deleteNodes p nodes g).Mirrors SameOutcome (deleteNodes p nodes g') := by
  induction nodes generalizing g g' with
  | nil => exact .done ⟨rfl, h⟩
  | cons node nodes ih =>
    unfold NodeGroup.deleteNodes
    rw [h.indexOf?_eq, h.vmIdOf_eq]
    cases g.indexOf? node with
    | none =>
      refine .done ⟨?_, h⟩
      rw [id, id, h.definition.name_eq]
    | some i =>
      refine .after _ fun destroyed => ?_
      cases destroyed with
      | error e => exact .done ⟨rfl, h⟩
      | ok u => exact ih ⟨h.definition, by simp only [h.machines]⟩

/-- Under one name the templates of both groups are the same but for their labels. -/
theorem template_eq (h : g.SameUpToLabels g') (name : String) :
    (Answer.template (NodeTemplate.build name g.definition)).withoutLabels =
      (Answer.template (NodeTemplate.build name g'.definition)).withoutLabels := by
  simp only [Answer.withoutLabels, NodeTemplate.build, h.definition.resources_eq]

end NodeGroup.SameUpToLabels

namespace Inquiry

variable {g g' : NodeGroup} {p : Provisioner}

/-- What is seen of two groups, but for labels, and the groups afterwards. -/
def SameViews (x x' : List View × NodeGroup) : Prop :=
  x.1.map View.withoutLabels = x'.1.map View.withoutLabels ∧ x.2.SameUpToLabels x'.2

/-- One inquiry asks for the same and is answered the same, labels apart. -/
theorem answer_mirrors (h : g.SameUpToLabels g') (inquiry : Inquiry) :
    (inquiry.answer p g).Mirrors
      (fun x x' => x.1.withoutLabels = x'.1.withoutLabels ∧ x.2.SameUpToLabels x'.2)
      (inquiry.answer p g') := by
  have hsame {α : Type} (wrap : α → Answer) {q q' : Program (α × NodeGroup)}
      (hq : q.Mirrors SameOutcome q') :
      (q.bind fun x => .done (wrap x.1, x.2)).Mirrors
        (fun x x' => x.1.withoutLabels = x'.1.withoutLabels ∧ x.2.SameUpToLabels x'.2)
        (q'.bind fun x => .done (wrap x.1, x.2)) := by
    refine hq.bind fun x x' hx => .done ⟨?_, hx.2⟩
    rw [hx.1]
  cases inquiry with
  | operation op =>
    cases op with
    | refresh => exact hsame .done h.refresh
    | targetSize => exact hsame .size h.targetSize
    | increaseSize delta => exact hsame .done (h.increaseSize delta)
    | decreaseTargetSize delta => exact .done ⟨rfl, h⟩
    | deleteNodes nodes => exact hsame .done (h.deleteNodes nodes)
  | templateNode =>
    refine .draw fun value => .done ⟨?_, h⟩
    rw [NodeGroup.id, NodeGroup.id, h.definition.name_eq]
    exact h.template_eq _

theorem watch_mirrors (h : g.SameUpToLabels g') (inquiries : List Inquiry) :
    (watch p inquiries g).Mirrors SameViews (watch p inquiries g') := by
  induction inquiries generalizing g g' with
  | nil => exact .done ⟨rfl, h⟩
  | cons inquiry inquiries ih =>
    refine (answer_mirrors h inquiry).bind ?_
    rintro ⟨answer, g₁⟩ ⟨answer', g₁'⟩ ⟨hanswer, hg⟩
    refine (ih hg).bind ?_
    rintro ⟨views, last⟩ ⟨views', last'⟩ ⟨hviews, hlast⟩
    refine .done ⟨?_, hlast⟩
    have hmachines : g₁'.machines = g₁.machines := hg.machines
    have hnodes : g₁'.nodes = g₁.nodes := hg.nodes_eq
    have hfirst : View.withoutLabels ⟨answer, g₁.machines, g₁.nodes⟩ =
        View.withoutLabels ⟨answer', g₁'.machines, g₁'.nodes⟩ := by
      rw [hmachines, hnodes, View.withoutLabels, View.withoutLabels]
      exact congrArg (View.mk · g₁.machines g₁.nodes) hanswer
    exact congrArg₂ List.cons hfirst hviews

/-- Labels have no influence on what is asked of the cloud. Of two groups that differ in labels only, one
may have every history that the other may have; and when both are told the same, the same happens to both
and the same is seen of them, but for the labels of templates. -/
theorem watch_ignores_labels (h : g.SameUpToLabels g') (inquiries : List Inquiry) :
    (∀ (World : Type) (cloud : Cloud World) (w w₁ : World) (es : List Event) (x : List View × NodeGroup),
      (watch p inquiries g).Run cloud w es x w₁ →
        ∃ x', (watch p inquiries g').Run cloud w es x' w₁ ∧ SameViews x x') ∧
    ∀ (World World' : Type) (cloud : Cloud World) (cloud' : Cloud World') (w w₁ : World)
      (w' w₁' : World') (es es' : List Event) (x x' : List View × NodeGroup),
      (watch p inquiries g).Run cloud w es x w₁ → (watch p inquiries g').Run cloud' w' es' x' w₁' →
        Event.Agree es es' → es = es' ∧ SameViews x x' := by
  have hmirrors := watch_mirrors (p := p) h inquiries
  constructor
  · intro World cloud w w₁ es x hrun
    exact hmirrors.run hrun
  · intro World World' cloud cloud' w w₁ w' w₁' es es' x x' hrun hrun' agree
    exact hmirrors.determined hrun hrun' agree

def tiered (tier : String) : NodeGroup :=
  ⟨.new default (.ofList [("nodeGroupName", "g1"), ("providerIDPrefix", "cs:"), ("label-tier", tier)]),
    [⟨"vm1", "", none, "Running", none, none, []⟩]⟩

theorem tiered_sameUpToLabels (tier tier' : String) : (tiered tier).SameUpToLabels (tiered tier') := by
  refine ⟨⟨rfl, rfl, rfl, fun key hkey => ?_⟩, rfl⟩
  have hlabel : key ≠ "label-tier" := hkey "tier"
  simp [tiered, GroupDefinition.new, TextMap.get?_ofList, List.lookup_cons,
    beq_eq_false_iff_ne.mpr hlabel]

def tieredTemplate (tier : String) : NodeTemplate :=
  NodeTemplate.build (randomName (tiered tier).id 7) (tiered tier).definition

/-- The label can be read off the template. -/
theorem tieredTemplate_tier (tier : String) : (tieredTemplate tier).labels.get? "tier" = some tier := by
  rw [tieredTemplate, NodeTemplate.build, TextMap.get?_insertAll, GroupDefinition.labels,
    GroupDefinition.get?_marked]
  simp [NodeTemplate.genericLabels, tiered, GroupDefinition.new, GroupDefinition.labelMark,
    TextMap.get?_ofList, List.lookup_cons]

/-- A node is deleted, and then there is the question for a template. -/
def tieredInquiries : List Inquiry := [.operation (.deleteNodes [⟨"n1", "cs:vm1"⟩]), .templateNode]

def tieredEvents : List Event := [.called (.destroy ⟨"vm1", false⟩) (.ok ()), .drew 7]

theorem tiered_run (tier : String) (hindex : (tiered tier).indexOf? ⟨"n1", "cs:vm1"⟩ = some 0)
    (hid : (tiered tier).vmIdOf ⟨"n1", "cs:vm1"⟩ = "vm1") :
    (watch ⟨false⟩ tieredInquiries (tiered tier)).Run Cloud.any () tieredEvents
      ([⟨.done (.ok ()), [], []⟩, ⟨.template (tieredTemplate tier), [], []⟩],
        { tiered tier with machines := [] }) () := by
  rw [tieredInquiries, watch, answer, Operation.answer, NodeGroup.deleteNodes, hindex, hid]
  exact .call rfl (.draw .done)

theorem watch_ignores_labels_of_tiers :
    (tiered "web").SameUpToLabels (tiered "db") ∧ ∃ x x',
      (watch ⟨false⟩ tieredInquiries (tiered "web")).Run Cloud.any () tieredEvents x () ∧
        (watch ⟨false⟩ tieredInquiries (tiered "db")).Run Cloud.any () tieredEvents x' () ∧
        Event.Agree tieredEvents tieredEvents ∧ SameViews x x' ∧ x.1 ≠ x'.1 := by
  have hsame := tiered_sameUpToLabels "web" "db"
  have hweb := tiered_run "web" (by decide) (by decide)
  have hdb := tiered_run "db" (by decide) (by decide)
  have hagree : Event.Agree tieredEvents tieredEvents := by
    simp [tieredEvents, Event.Agree, Event.Agrees]
  obtain ⟨-, hdetermined⟩ := watch_ignores_labels (p := ⟨false⟩) hsame tieredInquiries
  obtain ⟨-, hviews⟩ := hdetermined _ _ _ _ _ _ _ _ _ _ _ _ hweb hdb hagree
  refine ⟨hsame, _, _, hweb, hdb, hagree, hviews, ?_⟩
  intro same
  simp only [List.cons.injEq, View.mk.injEq, Answer.template.injEq] at same
  have htier := tieredTemplate_tier "web"
  rw [same.2.1.1, tieredTemplate_tier] at htier
  simp at htier

end Inquiry
end NodeGroups
