import NodeGroups.Cloud.Catalog
import NodeGroups.Cloud.Machine
import NodeGroups.Proofs.Json.Exchanged

namespace NodeGroups

open Decode

section Plain

/-- A record of two texts, the second of which is empty if it is not there. -/
theorem Decode.Schema.exchanges_twoTexts {α : Type} (record : String) {first second : String}
    (distinct : first ≠ second) (make : String → String → α) (one two : α → String)
    (whole : ∀ a, make (one a) (two a) = a) :
    Schema.Exchanges ⟨record, [(first, check text), (second, check text)]⟩ (fun _ => Eq)
      (fun a => [(first, some (.str (one a))), (second, some (.str (two a)))])
      (fun a => .object [(first, .str (one a)), (second, .str (two a))])
      (Schema.decode ⟨record, [(first, check text), (second, check text)]⟩ fun f => do
        let x ← f.required first text
        let y ← f.orElse second text ""
        pure (make x y)) := by
  refine exchanges_plain ?_ (fun a => rfl) (fun a => ?_) (fun a f found => ?_) ?_
  · simpa using distinct
  · simp [Fits, Agree]
  · have hfirst : f.find first = some (.str (one a)) := by
      simp [found]
    have hsecond : f.find second = some (.str (two a)) := by
      simp [found, lookup_cons_eq_ite, distinct.symm]
    simp only [Fields.required, Fields.orElse, hfirst, hsecond, text_str]
    exact congrArg Except.ok (whole a)
  · intro f f' habsent hfind
    simp only [List.forall_mem_cons] at hfind
    simp only [Fields.required, Fields.orElse, habsent, hfind]

def Project.entries (p : Project) : List (String × Option Json) :=
  [("id", some (.str p.id)), ("name", some (.str p.name))]

theorem Project.exchanges : schema.Exchanges (fun _ => Eq) entries encode decode :=
  Schema.exchanges_twoTexts "Project" (by decide) mk id name fun _ => rfl

def Zone.entries (z : Zone) : List (String × Option Json) :=
  [("id", some (.str z.id)), ("name", some (.str z.name))]

theorem Zone.exchanges : schema.Exchanges (fun _ => Eq) entries encode decode :=
  Schema.exchanges_twoTexts "Zone" (by decide) mk id name fun _ => rfl

def ResourceDetail.entries (d : ResourceDetail) : List (String × Option Json) :=
  [("key", some (.str d.key)), ("value", some (.str d.value))]

theorem ResourceDetail.exchanges : schema.Exchanges (fun _ => Eq) entries encode decode :=
  Schema.exchanges_twoTexts "ResourceDetail" (by decide) mk key value fun _ => rfl

/-- An unknown speed has no value. -/
def ServiceOffering.entries (o : ServiceOffering) : List (String × Option Json) :=
  [("id", some (.str o.id)), ("name", some (.str o.name)),
    ("cpunumber", some (.nat o.cpuNumber.toNat)),
    ("cpuspeed", o.cpuSpeed.map fun speed => .nat speed.toNat),
    ("memory", some (.nat o.memory.toNat))]

theorem ServiceOffering.exchanges : schema.Exchanges (fun _ => Eq) entries encode decode := by
  refine Schema.exchanges_plain (by decide) (fun o => ?_) (fun o => ?_) (fun o f found => ?_) ?_
  · cases hspeed : o.cpuSpeed <;> simp [encode, entries, present, hspeed]
  · simp [Schema.Fits, Agree, entries, schema]
  · have hid : f.required "id" text = .ok o.id :=
      Fields.required_of_find (found "id") (text_str _)
    have hname : f.orElse "name" text "" = .ok o.name :=
      Fields.orElse_of_find (found "name") (text_str _)
    have hnumber : f.orElse "cpunumber" word32 0 = .ok o.cpuNumber :=
      Fields.orElse_of_find (found "cpunumber") (word32_nat _)
    have hspeed : f.orElse "cpuspeed" (Decode.optional word32) none = .ok o.cpuSpeed :=
      Fields.orElse_of_optional (found "cpuspeed") optional_word32_nat
    have hmemory : f.orElse "memory" word64 0 = .ok o.memory :=
      Fields.orElse_of_find (found "memory") (word64_nat _)
    simp only [hid, hname, hnumber, hspeed, hmemory]
    rfl
  · intro f f' habsent hfind
    simp only [schema, List.forall_mem_cons] at hfind
    simp only [Fields.required, Fields.orElse, habsent, hfind]

/-- A profile without a project has no value there. -/
def AutoscaleProfile.entries (p : AutoscaleProfile) : List (String × Option Json) :=
  [("id", some (.str p.id)), ("templateid", some (.str p.templateId)),
    ("serviceofferingid", some (.str p.serviceOfferingId)), ("zoneid", some (.str p.zoneId)),
    ("projectid", p.projectId.map .str), ("otherdeployparams", some (.str p.otherDeployParams))]

theorem AutoscaleProfile.exchanges : schema.Exchanges (fun _ => Eq) entries encode decode := by
  refine Schema.exchanges_plain (by decide) (fun p => ?_) (fun p => ?_) (fun p f found => ?_) ?_
  · cases hproject : p.projectId <;> simp [encode, entries, present, hproject]
  · simp [Schema.Fits, Agree, entries, schema]
  · have hid : f.required "id" text = .ok p.id :=
      Fields.required_of_find (found "id") (text_str _)
    have htemplate : f.orElse "templateid" text "" = .ok p.templateId :=
      Fields.orElse_of_find (found "templateid") (text_str _)
    have hoffering : f.orElse "serviceofferingid" text "" = .ok p.serviceOfferingId :=
      Fields.orElse_of_find (found "serviceofferingid") (text_str _)
    have hzone : f.orElse "zoneid" text "" = .ok p.zoneId :=
      Fields.orElse_of_find (found "zoneid") (text_str _)
    have hproject : f.orElse "projectid" (Decode.optional text) none = .ok p.projectId :=
      Fields.orElse_of_optional (found "projectid") optional_text_str
    have hparams : f.orElse "otherdeployparams" text "" = .ok p.otherDeployParams :=
      Fields.orElse_of_find (found "otherdeployparams") (text_str _)
    simp only [hid, htemplate, hoffering, hzone, hproject, hparams]
    rfl
  · intro f f' habsent hfind
    simp only [schema, List.forall_mem_cons] at hfind
    simp only [Fields.required, Fields.orElse, habsent, hfind]

def ResourceTag.entries (t : ResourceTag) : List (String × Option Json) :=
  [("key", some (.str t.key)), ("value", some (.str t.value))]

theorem ResourceTag.exchanges : schema.Exchanges (fun _ => Eq) entries encode decode := by
  refine Schema.exchanges_plain (by decide) (fun t => rfl) (fun t => ?_) (fun t f found => ?_) ?_
  · simp [Schema.Fits, Agree, entries, schema]
  · have hkey : f.required "key" text = .ok t.key :=
      Fields.required_of_find (found "key") (text_str _)
    have hvalue : f.required "value" text = .ok t.value :=
      Fields.required_of_find (found "value") (text_str _)
    simp only [hkey, hvalue]
    rfl
  · intro f f' habsent hfind
    simp only [schema, List.forall_mem_cons] at hfind
    simp only [Fields.required, habsent, hfind]

end Plain

namespace VirtualMachine

/-- What is not known, and an empty list of tags, have no value. -/
def entries (vm : VirtualMachine) : List (String × Option Json) :=
  [("id", some (.str vm.id)), ("name", some (.str vm.name)),
    ("displayname", vm.displayName.map .str), ("state", some (.str vm.state)),
    ("zoneid", vm.zoneId.map .str), ("projectid", vm.projectId.map .str),
    ("tags", if vm.tags.isEmpty then none else some (.arr (vm.tags.map ResourceTag.encode)))]

theorem encode_eq_object (vm : VirtualMachine) : vm.encode = Json.object (present vm.entries) := by
  obtain ⟨id, name, displayName, state, zoneId, projectId, tags⟩ := vm
  cases displayName <;> cases zoneId <;> cases projectId <;> cases tags <;> rfl

theorem build_of_entries {vm : VirtualMachine} {f : Fields}
    (found : ∀ key, f.find key = (vm.entries.lookup key).join) : (do
      let id ← f.required "id" text
      let name ← f.orElse "name" text ""
      let displayName ← f.orElse "displayname" (Decode.optional text) none
      let state ← f.orElse "state" text ""
      let zoneId ← f.orElse "zoneid" (Decode.optional text) none
      let projectId ← f.orElse "projectid" (Decode.optional text) none
      let tags ← f.orElse "tags" (list ResourceTag.decode) []
      pure ⟨id, name, displayName, state, zoneId, projectId, tags⟩) =
      (.ok vm : Result VirtualMachine) := by
  have hid : f.required "id" text = .ok vm.id :=
    Fields.required_of_find (found "id") (text_str _)
  have hname : f.orElse "name" text "" = .ok vm.name :=
    Fields.orElse_of_find (found "name") (text_str _)
  have hdisplay : f.orElse "displayname" (Decode.optional text) none = .ok vm.displayName :=
    Fields.orElse_of_optional (found "displayname") optional_text_str
  have hstate : f.orElse "state" text "" = .ok vm.state :=
    Fields.orElse_of_find (found "state") (text_str _)
  have hzone : f.orElse "zoneid" (Decode.optional text) none = .ok vm.zoneId :=
    Fields.orElse_of_optional (found "zoneid") optional_text_str
  have hproject : f.orElse "projectid" (Decode.optional text) none = .ok vm.projectId :=
    Fields.orElse_of_optional (found "projectid") optional_text_str
  have htags : f.orElse "tags" (list ResourceTag.decode) [] = .ok vm.tags := by
    have hfind : f.find "tags" =
      if vm.tags.isEmpty then none else some (.arr (vm.tags.map ResourceTag.encode)) := found "tags"
    cases htags : vm.tags with
    | nil =>
      rw [htags] at hfind
      exact Fields.orElse_eq_ok_iff.mpr (.inl ⟨hfind, rfl⟩)
    | cons t ts =>
      rw [htags] at hfind
      exact Fields.orElse_of_find hfind (list_map ResourceTag.exchanges.restored _)
  simp only [hid, hname, hdisplay, hstate, hzone, hproject, htags]
  rfl

/-- The same value; or tags, of which each has the same fields. -/
def SameField (name : String) (v v' : Json) : Prop :=
  v = v' ∨ name = "tags" ∧ ∃ tags tags', v = .arr tags ∧ v' = .arr tags' ∧
    List.Forall₂ (ResourceTag.schema.Alike fun _ => Eq) tags tags'

theorem list_tags_congr {v v' : Json} (h : SameField "tags" v v') :
    list ResourceTag.decode v = list ResourceTag.decode v' := by
  rcases h with rfl | ⟨-, tags, tags', rfl, rfl, htags⟩
  · rfl
  · exact list_congr (htags.imp fun t t' alike => ResourceTag.exchanges.unaffected t t' alike)

theorem SameField.eq {name : String} {v v' : Json} (h : SameField name v v')
    (other : name ≠ "tags") : v = v' :=
  h.resolve_right fun tags => other tags.1

theorem check_congr {name : String} {item : Check} (h : (name, item) ∈ schema.fields) {v v' : Json}
    (hsame : SameField name v v') : item v = item v' := by
  by_cases isTags : name = "tags"
  · subst isTags
    have hlookup : schema.fields.lookup "tags" = some item :=
      (lookup_eq_some_iff_mem (by decide)).mpr h
    cases hlookup
    exact congrArg (Except.map _) (list_tags_congr hsame)
  · rw [hsame.eq isTags]

theorem exchanges : schema.Exchanges SameField entries encode decode := by
  refine Schema.exchanges (by decide) encode_eq_object (fun vm => ?_) (fun vm f => build_of_entries)
    (fun field hfield v v' hsame => check_congr hfield hsame) ?_
  · have htags := list_map ResourceTag.exchanges.restored vm.tags
    simp [Schema.Fits, Agree, entries, schema, htags]
  · intro f f' habsent hfind
    have htags : f.orElse "tags" (list ResourceTag.decode) [] =
        f'.orElse "tags" (list ResourceTag.decode) [] :=
      Fields.orElse_congr [] (hfind ("tags", check (list ResourceTag.decode)) (by simp [schema]))
        fun v v' hsame => list_tags_congr hsame
    have hother : ∀ field ∈ schema.fields, field.1 ≠ "tags" → f.find field.1 = f'.find field.1 :=
      fun field hfield other => eq_of_rel (hfind field hfield) fun v v' hsame => hsame.eq other
    simp only [schema, List.forall_mem_cons] at hother
    -- Only the reading of the tags is known to agree, so it is replaced before readings are opened.
    simp only [htags]
    simp [Fields.required, Fields.orElse, habsent, hother]

end VirtualMachine

/-- Every record that is both written and read is read back as it was written, from an object that
leaves out the entries without a value; and no member that is not a field, of the record or of a tag
within it, makes a difference to what is read. -/
theorem records_exchange :
    AutoscaleProfile.schema.Exchanges (fun _ => Eq) AutoscaleProfile.entries AutoscaleProfile.encode
      AutoscaleProfile.decode ∧
    ResourceDetail.schema.Exchanges (fun _ => Eq) ResourceDetail.entries ResourceDetail.encode
      ResourceDetail.decode ∧
    Project.schema.Exchanges (fun _ => Eq) Project.entries Project.encode Project.decode ∧
    ServiceOffering.schema.Exchanges (fun _ => Eq) ServiceOffering.entries ServiceOffering.encode
      ServiceOffering.decode ∧
    Zone.schema.Exchanges (fun _ => Eq) Zone.entries Zone.encode Zone.decode ∧
    ResourceTag.schema.Exchanges (fun _ => Eq) ResourceTag.entries ResourceTag.encode
      ResourceTag.decode ∧
    VirtualMachine.schema.Exchanges VirtualMachine.SameField VirtualMachine.entries
      VirtualMachine.encode VirtualMachine.decode :=
  ⟨AutoscaleProfile.exchanges, ResourceDetail.exchanges, Project.exchanges,
    ServiceOffering.exchanges, Zone.exchanges, ResourceTag.exchanges, VirtualMachine.exchanges⟩

/-- A machine with an account, and with a tag that names the type of its resource. -/
theorem records_exchange_of_extended :
    VirtualMachine.decode (.obj [("account", .str "admin"), ("id", .str "vm1"),
      ("name", .str "ng1-123"), ("state", .str "Running"),
      ("tags", .arr [.obj
        [("key", .str "pool"), ("resourcetype", .str "UserVm"), ("value", .str "ng1")]])]) =
    .ok ⟨"vm1", "ng1-123", none, "Running", none, none, [⟨"pool", "ng1"⟩]⟩ := by
  obtain ⟨-, -, -, -, -, -, machines⟩ := records_exchange
  have tag : ResourceTag.schema.Alike (fun _ => Eq) (ResourceTag.encode ⟨"pool", "ng1"⟩)
      (.obj [("key", .str "pool"), ("resourcetype", .str "UserVm"), ("value", .str "ng1")]) :=
    ⟨_, _, rfl, rfl, .cons ⟨rfl, rfl⟩ (.cons ⟨rfl, rfl⟩ .nil)⟩
  rw [← machines.restored]
  refine (machines.unaffected _ _ ⟨_, _, rfl, rfl, ?_⟩).symm
  exact .cons ⟨rfl, .inl rfl⟩ (.cons ⟨rfl, .inl rfl⟩ (.cons ⟨rfl, .inl rfl⟩
    (.cons ⟨rfl, .inr ⟨rfl, _, _, rfl, rfl, .cons tag .nil⟩⟩ .nil)))

end NodeGroups
