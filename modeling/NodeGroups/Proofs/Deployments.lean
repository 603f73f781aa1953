import NodeGroups.Proofs.Queries
import NodeGroups.Proofs.Text.Decimals
import NodeGroups.Request.Deploy

namespace NodeGroups

/-- The first of the pairs with this key has the value `v`. -/
def FirstValue (pairs : List (String × String)) (key v : String) : Prop :=
  ∃ before after, pairs = before ++ (key, v) :: after ∧ ∀ p ∈ before, p.1 ≠ key

theorem GroupDefinition.deployParams_eq (d : GroupDefinition) :
    d.deployParams = Form.decodePairs d.profile.otherDeployParams := rfl

/-- A deploy parameter is the first value of its key in the text of the profile. -/
theorem GroupDefinition.param?_eq_some_iff {d : GroupDefinition} {key v : String} :
    d.param? key = some v ↔ FirstValue (Form.decodePairs d.profile.otherDeployParams) key v := by
  have hne (p : String × String) : (key != p.1) = true ↔ p.1 ≠ key := by
    rw [bne_iff_ne, ne_comm]
  simp only [param?, List.lookup_eq_some_iff, FirstValue, deployParams_eq, hne]

/-- A group's project is that of its profile, or else the one given first as a deploy parameter. -/
theorem GroupDefinition.project?_eq_some_iff {d : GroupDefinition} {v : String} :
    d.project? = some v ↔ v ≠ "" ∧ (d.profile.projectId = some v ∨
      (d.profile.projectId = none ∨ d.profile.projectId = some "") ∧
        FirstValue (Form.decodePairs d.profile.otherDeployParams) "projectid" v) := by
  have hproject : d.project? = some v ↔ v ≠ "" ∧ d.projectId = v := by
    unfold project?
    rw [Option.ite_none_left_eq_some, String.isEmpty_iff, Option.some.injEq]
    constructor
    · intro h
      exact ⟨h.2 ▸ h.1, h.2⟩
    · intro h
      exact ⟨h.2.symm ▸ h.1, h.2⟩
  rw [hproject]
  refine and_congr_right fun hv => ?_
  have hparam : (d.param? "projectid").getD "" = v ↔
      FirstValue (Form.decodePairs d.profile.otherDeployParams) "projectid" v := by
    rw [← param?_eq_some_iff]
    cases d.param? "projectid" with
    | none => simp [Ne.symm hv]
    | some w => simp
  unfold projectId
  cases d.profile.projectId with
  | none => simp [hparam]
  | some id =>
    by_cases hempty : id = ""
    · subst hempty
      simp [hparam, Ne.symm hv]
    · simp [hempty]

namespace DeployRequest

/-- Puts one deploy parameter into a request. Most names mean nothing. -/
def setParam (r : DeployRequest) (key value : String) : DeployRequest :=
  match key with
  | "account" => { r with account := some value }
  | "affinitygroupids" => { r with affinityGroupIds := Text.pieces ',' value }
  | "affinitygroupnames" => { r with affinityGroupNames := Text.pieces ',' value }
  | "diskofferingid" => { r with diskOfferingId := some value }
  | "displayname" => { r with displayName := some value }
  | "hypervisor" => { r with hypervisor := some value }
  | "keyboard" => { r with keyboard := some value }
  | "keypair" => { r with keypair := some value }
  | "networkids" => { r with networkIds := Text.pieces ',' value }
  | "rootdisksize" => { r with rootDiskSize := Decimal.int64? value }
  | "securitygroupids" => { r with securityGroupIds := Text.pieces ',' value }
  | "securitygroupnames" => { r with securityGroupNames := Text.pieces ',' value }
  | "size" => { r with size := Decimal.int64? value }
  | "userdata" => { r with userdata := some value }
  | _ => r

/-- Puts parameters into a request one after the other, but none whose name was seen before. -/
def setFirsts (r : DeployRequest) (seen : List String) : List (String × String) → DeployRequest
  | [] => r
  | (key, value) :: rest =>
    if key ∈ seen then r.setFirsts seen rest
    else (r.setParam key value).setFirsts (key :: seen) rest

/-- A request with the parameters that were found, and its own values for the others. -/
def fill (r : DeployRequest) (found : String → Option String) : DeployRequest :=
  { r with
    userdata := (found "userdata").or r.userdata
    account := (found "account").or r.account
    affinityGroupIds := (found "affinitygroupids").elim r.affinityGroupIds (Text.pieces ',')
    affinityGroupNames := (found "affinitygroupnames").elim r.affinityGroupNames (Text.pieces ',')
    diskOfferingId := (found "diskofferingid").or r.diskOfferingId
    displayName := (found "displayname").or r.displayName
    hypervisor := (found "hypervisor").or r.hypervisor
    keyboard := (found "keyboard").or r.keyboard
    keypair := (found "keypair").or r.keypair
    networkIds := (found "networkids").elim r.networkIds (Text.pieces ',')
    rootDiskSize := (found "rootdisksize").elim r.rootDiskSize Decimal.int64?
    securityGroupIds := (found "securitygroupids").elim r.securityGroupIds (Text.pieces ',')
    securityGroupNames := (found "securitygroupnames").elim r.securityGroupNames (Text.pieces ',')
    size := (found "size").elim r.size Decimal.int64? }

/-- A parameter put in is one more that was found, if those found do not have it. -/
theorem fill_setParam {r : DeployRequest} {found : String → Option String} {key : String}
    (h : found key = none) (value : String) :
    (r.setParam key value).fill found =
      r.fill fun k => if key = k then some value else found k := by
  unfold setParam
  split
  -- a name that means nothing: it is none of those the request is filled from
  case h_15 => simp_all [fill]
  all_goals simp [fill, h]

theorem fill_none (r : DeployRequest) : r.fill (fun _ => none) = r := by
  simp [fill]

/-- What the parameters come to: of each name that was not seen before the first value. -/
theorem setFirsts_eq_fill (r : DeployRequest) (seen : List String)
    (pairs : List (String × String)) :
    r.setFirsts seen pairs = r.fill fun k => if k ∈ seen then none else pairs.lookup k := by
  induction pairs generalizing r seen with
  | nil =>
    have hnone : (fun k => if k ∈ seen then none else List.lookup k ([] : List (String × String))) =
        fun _ => none := by simp
    rw [hnone, fill_none, setFirsts]
  | cons p pairs ih =>
    obtain ⟨key, value⟩ := p
    rw [setFirsts]
    by_cases again : key ∈ seen
    · rw [if_pos again, ih]
      congr 1
      funext k
      by_cases hk : k ∈ seen
      · rw [if_pos hk, if_pos hk]
      · have hne : k ≠ key := by
          intro same
          exact hk (same ▸ again)
        rw [if_neg hk, if_neg hk, List.lookup_cons, beq_eq_false_iff_ne.mpr hne]
    · -- the name counts as seen from here on, so the rest does not find it again
      have hlater : (if key ∈ key :: seen then none else pairs.lookup key) = none :=
        if_pos List.mem_cons_self
      rw [if_neg again, ih, fill_setParam hlater]
      congr 1
      funext k
      by_cases same : key = k
      · subst same
        rw [if_pos rfl, if_neg again, List.lookup_cons, beq_self_eq_true]
      · have hne : k ≠ key := Ne.symm same
        rw [if_neg same, List.lookup_cons, beq_eq_false_iff_ne.mpr hne]
        simp [hne]

/-- The request of a group before any deploy parameter is put in. -/
def unfilled (d : GroupDefinition) : DeployRequest where
  serviceOfferingId := d.profile.serviceOfferingId
  zoneId := d.profile.zoneId
  templateId := d.profile.templateId
  projectId := d.project?

/-- The request of a group as it comes about: the deploy parameters put in one after the other, and
the metadata's userdata at the end. -/
def inTurn (d : GroupDefinition) : DeployRequest :=
  let r := (unfilled d).setFirsts [] (Form.decodePairs d.profile.otherDeployParams)
  { r with userdata := d.userdata.or r.userdata }

theorem inTurn_eq (d : GroupDefinition) : inTurn d = ofDefinition d := by
  have hfound : (fun k => if k ∈ ([] : List String) then none else d.deployParams.lookup k) =
      d.param? := by
    funext k
    simp [GroupDefinition.param?]
  have hlist (key : String) : (d.param? key).elim [] (Text.pieces ',') = listParam d key := by
    unfold listParam
    cases d.param? key <;> rfl
  have hnumber (key : String) : (d.param? key).elim none Decimal.int64? = numberParam d key := by
    unfold numberParam
    cases d.param? key <;> rfl
  rw [inTurn, ← GroupDefinition.deployParams_eq, setFirsts_eq_fill, hfound]
  simp [fill, unfilled, ofDefinition, hlist, hnumber]

/-- The names of the parameters that are sent as they are written. -/
def plainKeys : List String :=
  ["account", "affinitygroupids", "affinitygroupnames", "diskofferingid", "displayname",
    "hypervisor", "keyboard", "keypair", "networkids", "securitygroupids", "securitygroupnames"]

/-- The names of the parameters that are sent as numbers. -/
def numberKeys : List String := ["rootdisksize", "size"]

/-- The names of the parameters for which a group has a place of its own. -/
def ownKeys : List String :=
  ["serviceofferingid", "zoneid", "templateid", "projectid", "name", "userdata"]

theorem map_params (r : DeployRequest) : r.params.map Prod.fst =
    ["serviceofferingid", "zoneid", "templateid", "projectid", "name", "userdata", "account",
      "diskofferingid", "displayname", "hypervisor", "keyboard", "keypair", "affinitygroupids",
      "affinitygroupnames", "networkids", "securitygroupids", "securitygroupnames",
      "rootdisksize", "size"] := rfl

theorem get?_query (r : DeployRequest) (k : String) : r.query.get? k = (r.params.lookup k).join := by
  have hdistinct : r.params.Pairwise fun a b => a.1 ≠ b.1 := by
    have hkeys : (r.params.map Prod.fst).Pairwise fun a b => a ≠ b := by
      rw [map_params]
      decide
    exact List.pairwise_map.mp hkeys
  exact Query.get?_ofParams hdistinct k

/-- A list of a request is sent as it was written. -/
theorem joined?_listParam (d : GroupDefinition) (key : String) :
    Query.joined? (listParam d key) = d.param? key := by
  unfold listParam
  cases d.param? key with
  | none => rfl
  | some v => exact Query.joined?_pieces v

section Named

variable (d : GroupDefinition) (name : String)

theorem get?_plain {key : String} (h : key ∈ plainKeys) :
    ((ofDefinition d).withName name).query.get? key = d.param? key := by
  rw [get?_query]
  simp only [plainKeys, List.mem_cons, List.not_mem_nil, or_false] at h
  rcases h with rfl | rfl | rfl | rfl | rfl | rfl | rfl | rfl | rfl | rfl | rfl
  all_goals simp [params, withName, ofDefinition, joined?_listParam, List.lookup_cons]

theorem get?_number {key : String} (h : key ∈ numberKeys) :
    ((ofDefinition d).withName name).query.get? key = (numberParam d key).map numberText := by
  rw [get?_query]
  simp only [numberKeys, List.mem_cons, List.not_mem_nil, or_false] at h
  rcases h with rfl | rfl
  all_goals simp [params, withName, ofDefinition, List.lookup_cons]

theorem mem_keys_of_get? {k v : String}
    (h : ((ofDefinition d).withName name).query.get? k = some v) :
    k ∈ plainKeys ++ numberKeys ++ ownKeys := by
  have hjoin := h
  rw [get?_query, Option.join_eq_some_iff, List.lookup_eq_some_iff] at hjoin
  obtain ⟨before, after, hparams, -⟩ := hjoin
  have hmem : k ∈ ((ofDefinition d).withName name).params.map Prod.fst := by
    rw [hparams]
    simp
  have hkeys : ((ofDefinition d).withName name).params.map Prod.fst ⊆
      plainKeys ++ numberKeys ++ ownKeys := by
    rw [map_params]
    decide
  exact hkeys hmem

end Named

/-- A number is sent if the first value given for it is one of 64 bits, and then as its decimal. -/
theorem numberText_eq_some_iff {d : GroupDefinition} {key v : String} :
    (numberParam d key).map numberText = some v ↔ ∃ text n,
      FirstValue (Form.decodePairs d.profile.otherDeployParams) key text ∧
        Decimal.Denotes text.toList n ∧ -2 ^ 63 ≤ n ∧ n < 2 ^ 63 ∧ v = toString n := by
  have htext : numberText = (toString : Int → String) ∘ Int64.toInt := rfl
  rw [numberParam, htext, ← Option.map_map, Option.map_eq_some_iff]
  constructor
  · intro h
    obtain ⟨n, hn, hv⟩ := h
    obtain ⟨m, hm, hmn⟩ := Option.map_eq_some_iff.mp hn
    obtain ⟨text, hparam, hread⟩ := Option.bind_eq_some_iff.mp hm
    have hdenotes : (Decimal.int64? text).map Int64.toInt = some n := by
      rw [hread, Option.map_some, hmn]
    obtain ⟨hd, hlow, hhigh⟩ := Decimal.toInt_int64?_eq_some_iff.mp hdenotes
    exact ⟨text, n, GroupDefinition.param?_eq_some_iff.mp hparam, hd, hlow, hhigh, hv.symm⟩
  · intro h
    obtain ⟨text, n, hfirst, hd, hlow, hhigh, hv⟩ := h
    have hdenotes := Decimal.toInt_int64?_eq_some_iff.mpr ⟨hd, hlow, hhigh⟩
    rw [GroupDefinition.param?_eq_some_iff.mpr hfirst, Option.bind_some]
    exact ⟨n, hdenotes, hv.symm⟩

/-- What the query for a new machine of a group holds: of each deploy parameter the first value, in
the places of the group's own values those, and nothing else. -/
structure Sends (d : GroupDefinition) (name : String) (q : Query) : Prop where
  plain : ∀ key ∈ plainKeys, ∀ v, q.get? key = some v ↔
    FirstValue (Form.decodePairs d.profile.otherDeployParams) key v
  userdata : ∀ v, q.get? "userdata" = some v ↔ d.metadata.get? "userdata" = some v ∨
    d.metadata.get? "userdata" = none ∧
      FirstValue (Form.decodePairs d.profile.otherDeployParams) "userdata" v
  number : ∀ key ∈ numberKeys, ∀ v, q.get? key = some v ↔ ∃ text n,
    FirstValue (Form.decodePairs d.profile.otherDeployParams) key text ∧
      Decimal.Denotes text.toList n ∧ -2 ^ 63 ≤ n ∧ n < 2 ^ 63 ∧ v = toString n
  serviceOffering : q.get? "serviceofferingid" = some d.profile.serviceOfferingId
  zone : q.get? "zoneid" = some d.profile.zoneId
  template : q.get? "templateid" = some d.profile.templateId
  name : q.get? "name" = some name
  project : ∀ v, q.get? "projectid" = some v ↔ v ≠ "" ∧ (d.profile.projectId = some v ∨
    (d.profile.projectId = none ∨ d.profile.projectId = some "") ∧
      FirstValue (Form.decodePairs d.profile.otherDeployParams) "projectid" v)
  only : ∀ k v, q.get? k = some v → k ∈ plainKeys ++ numberKeys ++ ownKeys

/-- The request of a group, made by putting in one deploy parameter after the other, sends of each
name what was given first. -/
theorem inTurn_sends (d : GroupDefinition) (name : String) :
    inTurn d = ofDefinition d ∧ Sends d name ((ofDefinition d).withName name).query := by
  refine ⟨inTurn_eq d, ?_⟩
  constructor
  case plain =>
    intro key hkey v
    rw [get?_plain d name hkey, GroupDefinition.param?_eq_some_iff]
  case userdata =>
    intro v
    have hget : ((ofDefinition d).withName name).query.get? "userdata" =
        d.userdata.or (d.param? "userdata") := by
      rw [get?_query]
      simp [params, withName, ofDefinition, List.lookup_cons]
    rw [hget, Option.or_eq_some_iff, GroupDefinition.param?_eq_some_iff]
    rfl
  case number =>
    intro key hkey v
    rw [get?_number d name hkey, numberText_eq_some_iff]
  case project =>
    intro v
    have hget : ((ofDefinition d).withName name).query.get? "projectid" = d.project? := by
      rw [get?_query]
      simp [params, withName, ofDefinition, List.lookup_cons]
    rw [hget, GroupDefinition.project?_eq_some_iff]
  case only =>
    intro k v h
    exact mem_keys_of_get? d name h
  all_goals
    rw [get?_query]
    simp [params, withName, ofDefinition, List.lookup_cons]

end DeployRequest
end NodeGroups
