import Mathlib.Data.List.Forall2
import NodeGroups.Proofs.Json.Ordered

/-!
What records hold, said by their fields alone. A record is read from an object, whose members are found
by their names, or from an array, whose items are found by their places.
-/

namespace NodeGroups

namespace Json

/-- A record with the fields of these names: an object with its members, or an array with its items in
their places. -/
def IsRecord (names : List String) (P : (String → Option Json) → Prop) : Json → Prop
  | .obj members => P fun name => members.lookup name
  | .arr items => items.length ≤ names.length ∧ P fun name => (names.zip items).lookup name
  | _ => False

/-- A field with a text; where it is missing, the text is empty. -/
def IsText (field : Option Json) (s : String) : Prop :=
  field = some (.str s) ∨ field = none ∧ s = ""

/-- A field with a text or none; it may be missing, or null. -/
def MayBeText (field : Option Json) (s : Option String) : Prop :=
  (∃ t, s = some t ∧ field = some (.str t)) ∨ s = none ∧ (field = none ∨ field = some .null)

theorem Ordered.get? {j v : Json} {key : String} (hj : j.Ordered) (h : j.get? key = some v) :
    v.Ordered := by
  cases hj with
  | obj keys values => exact values _ (mem_of_lookup_eq_some h)
  | arr | null | bool | num | str => cases h

/-- The fields of an ordered record are ordered. -/
theorem IsRecord.exists_fields {names : List String} {P : (String → Option Json) → Prop} {j : Json}
    (h : j.IsRecord names P) (hj : j.Ordered) :
    ∃ field, P field ∧ ∀ name v, field name = some v → v.Ordered := by
  cases hj with
  | obj keys values => exact ⟨_, h, fun name v hv => values _ (mem_of_lookup_eq_some hv)⟩
  | arr items =>
    exact ⟨_, h.2, fun name v hv => items _ (List.of_mem_zip (mem_of_lookup_eq_some hv)).2⟩
  | null | bool | num | str => exact h.elim

end Json

namespace Decode

variable {α β : Type}

theorem bind_eq_ok_iff {x : Result α} {next : α → Result β} {b : β} :
    (x >>= next) = .ok b ↔ ∃ a, x = .ok a ∧ next a = .ok b := by
  cases x <;> simp [bind, Except.bind]

@[simp] theorem check_eq_ok_iff {item : Json → Result α} {j : Json} :
    check item j = .ok () ↔ ∃ a, item j = .ok a := by
  unfold check
  cases item j <;> simp [Except.map]

theorem Fields.required_eq_ok_iff {f : Fields} {name : String} {item : Json → Result α} {a : α} :
    f.required name item = .ok a ↔ ∃ j, f.find name = some j ∧ item j = .ok a := by
  unfold required
  cases f.find name <;> simp

theorem Fields.orElse_eq_ok_iff {f : Fields} {name : String} {item : Json → Result α}
    {default a : α} : f.orElse name item default = .ok a ↔
      (f.find name = none ∧ default = a) ∨ ∃ j, f.find name = some j ∧ item j = .ok a := by
  unfold orElse
  cases f.find name <;> simp

/-- Null stands for nothing; everything else is read. -/
theorem optional_eq_ok_iff {item : Json → Result α} {j : Json} {o : Option α} :
    Decode.optional item j = .ok o ↔
      j = .null ∧ o = none ∨ j ≠ .null ∧ ∃ a, item j = .ok a ∧ o = some a := by
  cases j with
  | null => simp [Decode.optional, eq_comm]
  | bool | num | str | arr | obj =>
    simp only [Decode.optional, ne_eq, reduceCtorEq, not_false_eq_true, true_and, false_and, false_or]
    cases item _ <;> simp [Except.map, eq_comm]

theorem text_eq_ok_iff {j : Json} {v : String} : text j = .ok v ↔ j = .str v := by
  cases j <;> simp [text]

theorem word8_eq_ok_iff {j : Json} {b : UInt8} : word8 j = .ok b ↔ j = .num (.int b.toNat) := by
  cases j with
  | num n =>
    cases n with
    | int i =>
      have hsize : UInt8.size = 256 := rfl
      have hb : b.toNat < 256 := b.toNat_lt
      simp only [word8, unsigned, hsize]
      by_cases hrange : (0 ≤ i && i < (256 : Nat)) = true
      · rw [if_pos hrange]
        simp only [Bool.and_eq_true, decide_eq_true_iff] at hrange
        simp only [Except.map, Except.ok.injEq, Json.num.injEq, Json.Number.int.injEq]
        constructor
        · rintro rfl
          rw [UInt8.toNat_ofNat', Nat.mod_eq_of_lt (by omega)]
          omega
        · rintro rfl
          rw [Int.toNat_natCast, UInt8.ofNat_toNat]
      · rw [if_neg hrange]
        simp only [Bool.and_eq_true, decide_eq_true_iff] at hrange
        simp only [Except.map, reduceCtorEq, Json.num.injEq, Json.Number.int.injEq, false_iff]
        rintro rfl
        omega
    | float x => simp [word8, unsigned, Except.map]
  | null | bool | str | arr | obj => simp [word8, unsigned, Except.map]

theorem Fields.orElse_text_eq_ok_iff {f : Fields} {name s : String} :
    f.orElse name text "" = .ok s ↔ Json.IsText (f.find name) s := by
  simp only [orElse_eq_ok_iff, text_eq_ok_iff, exists_eq_right, Json.IsText]
  rw [or_comm, eq_comm (a := "")]

theorem Fields.orElse_optional_text_eq_ok_iff {f : Fields} {name : String} {o : Option String} :
    f.orElse name (Decode.optional text) none = .ok o ↔ Json.MayBeText (f.find name) o := by
  simp only [orElse_eq_ok_iff, optional_eq_ok_iff, text_eq_ok_iff, Json.MayBeText]
  constructor
  · rintro (⟨hnone, rfl⟩ | ⟨j, hj, ⟨rfl, rfl⟩ | ⟨-, s, rfl, rfl⟩⟩)
    · exact .inr ⟨rfl, .inl hnone⟩
    · exact .inr ⟨rfl, .inr hj⟩
    · exact .inl ⟨s, rfl, hj⟩
  · rintro (⟨s, rfl, hs⟩ | ⟨rfl, hnone | hnull⟩)
    · exact .inr ⟨_, hs, .inr ⟨by simp, s, rfl, rfl⟩⟩
    · exact .inl ⟨hnone, rfl⟩
    · exact .inr ⟨_, hnull, .inl ⟨rfl, rfl⟩⟩

theorem Fields.orElse_anything_eq_ok_iff {f : Fields} {name : String} {o : Option Json} :
    f.orElse name (Decode.optional anything) none = .ok o ↔
      ∀ v, o = some v ↔ f.find name = some v ∧ v ≠ .null := by
  simp only [orElse_eq_ok_iff, optional_eq_ok_iff, anything, Except.ok.injEq, exists_eq_left']
  constructor
  · rintro (⟨hnone, rfl⟩ | ⟨j, hj, ⟨rfl, rfl⟩ | ⟨hne, rfl⟩⟩) v
    · simp [hnone]
    · rw [hj]
      constructor
      · intro h
        cases h
      · rintro ⟨h, hv⟩
        exact absurd (Option.some.inj h).symm hv
    · rw [hj]
      constructor
      · intro h
        cases h
        exact ⟨rfl, hne⟩
      · exact And.left
  · intro h
    cases hfind : f.find name with
    | none =>
      refine .inl ⟨rfl, ?_⟩
      cases o with
      | none => rfl
      | some v => cases hfind.symm.trans ((h v).mp rfl).1
    | some j =>
      refine .inr ⟨j, rfl, ?_⟩
      cases o with
      | none => exact .inl ⟨by_contra fun hne => (by cases (h j).mpr ⟨hfind, hne⟩), rfl⟩
      | some v =>
        obtain ⟨hv, hne⟩ := (h v).mp rfl
        cases hfind.symm.trans hv
        exact .inr ⟨hne, rfl⟩

theorem list_eq_ok_iff {item : Json → Result α} {j : Json} {as : List α} :
    list item j = .ok as ↔
      ∃ items, j = .arr items ∧ List.Forall₂ (fun i a => item i = .ok a) items as := by
  cases j with
  | arr items =>
    simp only [list, Json.arr.injEq, exists_eq_left']
    induction items generalizing as with
    | nil => simp [pure, Except.pure, eq_comm]
    | cons i items ih =>
      rw [List.mapM_cons, bind_eq_ok_iff]
      constructor
      · rintro ⟨a, ha, hrest⟩
        obtain ⟨others, hothers, hpure⟩ := bind_eq_ok_iff.mp hrest
        cases hpure
        exact .cons ha (ih.mp hothers)
      · intro h
        cases h with
        | cons ha hothers => exact ⟨_, ha, bind_eq_ok_iff.mpr ⟨_, ih.mpr hothers, rfl⟩⟩
  | null | bool | num | str | obj => simp [list]

theorem Schema.checkMembers_eq_ok_iff {s : Schema} {members : List (String × Json)} :
    s.checkMembers members = .ok () ↔
      ∀ m ∈ members, ∀ item, s.fields.lookup m.1 = some item → item m.2 = .ok () := by
  induction members with
  | nil => simp [checkMembers]
  | cons m ms ih =>
    unfold checkMembers
    rw [List.forall_mem_cons, ← ih]
    cases hf : s.fields.lookup m.1 with
    | none => simp
    | some item =>
      cases hi : item m.2 with
      | error e => simp [hi]
      | ok u => simp [hi]

theorem Schema.decode_obj_eq_ok_iff {s : Schema} {build : Fields → Result α}
    {members : List (String × Json)} {a : α} : s.decode build (.obj members) = .ok a ↔
      s.checkMembers members = .ok () ∧ build (s.ofMembers members) = .ok a := by
  simp only [decode]
  cases s.checkMembers members <;> simp

theorem Schema.decode_arr_eq_ok_iff {s : Schema} {build : Fields → Result α} {items : List Json}
    {a : α} : s.decode build (.arr items) = .ok a ↔
      build (s.ofItems items) = .ok a ∧ items.length ≤ s.fields.length := by
  simp only [decode]
  cases build (s.ofItems items) with
  | error e => simp
  | ok b =>
    by_cases long : s.fields.length < items.length
    · simp [long]
    · simp [long, Nat.not_lt.mp long]

/-- A field that was read passes the check. -/
theorem Fields.check_of_required {f : Fields} {name : String} {item : Json → Result α} {a : α}
    (h : f.required name item = .ok a) : ∀ v, f.find name = some v → check item v = .ok () := by
  intro v hv
  obtain ⟨j, hj, hread⟩ := required_eq_ok_iff.mp h
  cases hv.symm.trans hj
  exact check_eq_ok_iff.mpr ⟨a, hread⟩

theorem Fields.check_of_orElse {f : Fields} {name : String} {item : Json → Result α} {default a : α}
    (h : f.orElse name item default = .ok a) :
    ∀ v, f.find name = some v → check item v = .ok () := by
  intro v hv
  rcases orElse_eq_ok_iff.mp h with ⟨hnone, -⟩ | ⟨j, hj, hread⟩
  · cases hv.symm.trans hnone
  · cases hv.symm.trans hj
    exact check_eq_ok_iff.mpr ⟨a, hread⟩

def Schema.names (s : Schema) : List String := s.fields.map Prod.fst

/-- What is read from a record depends on its fields alone where keys occur once: the fields it was made
of are then all that was to be checked. -/
theorem Schema.decode_eq_ok_iff {s : Schema} {build : Fields → Result α} {a : α}
    {P : (String → Option Json) → Prop}
    (makes : ∀ f, (∀ name v, f.find name = some v → v.Ordered) → (build f = .ok a ↔ P f.find))
    (checks : ∀ f, build f = .ok a →
      ∀ field ∈ s.fields, ∀ v, f.find field.1 = some v → field.2 v = .ok ())
    {j : Json} (hj : j.Ordered) : s.decode build j = .ok a ↔ j.IsRecord s.names P := by
  cases hj with
  | obj keys values =>
    rw [decode_obj_eq_ok_iff]
    have hmakes := makes (s.ofMembers _) fun name v hv => values _ (mem_of_lookup_eq_some hv)
    refine Iff.trans (and_iff_right_of_imp fun hbuild => ?_) hmakes
    rw [checkMembers_eq_ok_iff]
    intro m hm item hitem
    have hfield : (m.1, item) ∈ s.fields := mem_of_lookup_eq_some hitem
    exact checks _ hbuild _ hfield m.2 ((Json.lookup_eq_some_iff keys).mpr hm)
  | arr items =>
    rw [decode_arr_eq_ok_iff, and_comm]
    have hmakes := makes (s.ofItems _) fun name v hv =>
      items _ (List.of_mem_zip (mem_of_lookup_eq_some hv)).2
    refine and_congr ?_ hmakes
    rw [names, List.length_map]
  | null | bool | num | str => simp [decode, Json.IsRecord]

end Decode

open Decode

namespace JobHandle

/-- The fields of a job that was started: the id of the job, and maybe that of the entity it works on. -/
structure OfFields (h : JobHandle) (field : String → Option Json) : Prop where
  entityId : Json.MayBeText (field "id") h.entityId
  jobId : field "jobid" = some (.str h.jobId)

def Describes (j : Json) (h : JobHandle) : Prop := j.IsRecord ["id", "jobid"] h.OfFields

theorem build_eq_ok_iff {f : Fields} {h : JobHandle} : (do
      let entityId ← f.orElse "id" (Decode.optional text) none
      let jobId ← f.required "jobid" text
      pure ⟨entityId, jobId⟩) = (.ok h : Result JobHandle) ↔
      f.orElse "id" (Decode.optional text) none = .ok h.entityId ∧
        f.required "jobid" text = .ok h.jobId := by
  simp only [bind_eq_ok_iff]
  constructor
  · rintro ⟨entityId, hid, jobId, hjob, hmake⟩
    cases hmake
    exact ⟨hid, hjob⟩
  · rintro ⟨hid, hjob⟩
    exact ⟨_, hid, _, hjob, rfl⟩

theorem decode_eq_ok_iff {j : Json} (hj : j.Ordered) {h : JobHandle} :
    decode j = .ok h ↔ Describes j h := by
  refine schema.decode_eq_ok_iff (fun f _ => ?_) (fun f hbuild => ?_) hj
  · simp only [build_eq_ok_iff, Fields.orElse_optional_text_eq_ok_iff, Fields.required_eq_ok_iff,
      text_eq_ok_iff, exists_eq_right]
    exact ⟨fun ⟨hid, hjob⟩ => ⟨hid, hjob⟩, fun ⟨hid, hjob⟩ => ⟨hid, hjob⟩⟩
  · obtain ⟨hid, hjob⟩ := build_eq_ok_iff.mp hbuild
    simp only [schema, List.forall_mem_cons]
    exact ⟨Fields.check_of_orElse hid, Fields.check_of_required hjob, List.forall_mem_nil _⟩

/-- Content that hands out the machine `v` along with a job: a record with both ids as text, or the
list of the two. -/
def Names (v : String) (content : Json) : Prop :=
  ∃ jobId, (content.get? "id" = some (.str v) ∧ content.get? "jobid" = some (.str jobId)) ∨
    content = .arr [.str v, .str jobId]

theorem ofFields_named_iff {field : String → Option Json} {v jobId : String} :
    OfFields ⟨some v, jobId⟩ field ↔
      field "id" = some (.str v) ∧ field "jobid" = some (.str jobId) := by
  constructor
  · rintro ⟨⟨_, same, hid⟩ | ⟨hnone, -⟩, hjob⟩
    · cases same
      exact ⟨hid, hjob⟩
    · cases hnone
  · rintro ⟨hid, hjob⟩
    exact ⟨.inl ⟨v, rfl, hid⟩, hjob⟩

theorem describes_named_iff {j : Json} {v jobId : String} : Describes j ⟨some v, jobId⟩ ↔
    (j.get? "id" = some (.str v) ∧ j.get? "jobid" = some (.str jobId)) ∨
      j = .arr [.str v, .str jobId] := by
  unfold Describes Json.IsRecord
  cases j with
  | obj members => simp [ofFields_named_iff, Json.get?]
  | arr items =>
    simp only [ofFields_named_iff, Json.get?, reduceCtorEq, false_and, false_or, Json.arr.injEq]
    match items with
    | [] => simp
    | [i] => simp [List.lookup_cons]
    | [i, k] => simp [List.lookup_cons]
    | i :: k :: l :: rest => simp
  | null | bool | num | str => simp [Json.get?]

/-- A handle with a machine is read from exactly the content that names the machine. -/
theorem decode_names_iff {content : Json} (h : content.Ordered) {v : String} :
    (∃ jobId, decode content = .ok ⟨some v, jobId⟩) ↔ Names v content :=
  exists_congr fun _ => (decode_eq_ok_iff h).trans describes_named_iff

end JobHandle

namespace JobState

/-- The fields of a job: its status, a number of 8 bits, and maybe its result, for which null is none. -/
structure OfFields (s : JobState) (field : String → Option Json) : Prop where
  status : field "jobstatus" = some (.num (.int s.status.toNat))
  result : ∀ v, s.result = some v ↔ field "jobresult" = some v ∧ v ≠ .null

def Describes (j : Json) (s : JobState) : Prop := j.IsRecord ["jobstatus", "jobresult"] s.OfFields

theorem build_eq_ok_iff {f : Fields} {s : JobState} : (do
      let status ← f.required "jobstatus" word8
      let result ← f.orElse "jobresult" (Decode.optional anything) none
      pure ⟨status, result⟩) = (.ok s : Result JobState) ↔
      f.required "jobstatus" word8 = .ok s.status ∧
        f.orElse "jobresult" (Decode.optional anything) none = .ok s.result := by
  simp only [bind_eq_ok_iff]
  constructor
  · rintro ⟨status, hstatus, result, hresult, hmake⟩
    cases hmake
    exact ⟨hstatus, hresult⟩
  · rintro ⟨hstatus, hresult⟩
    exact ⟨_, hstatus, _, hresult, rfl⟩

theorem decode_eq_ok_iff {j : Json} (hj : j.Ordered) {s : JobState} :
    decode j = .ok s ↔ Describes j s := by
  refine schema.decode_eq_ok_iff (fun f _ => ?_) (fun f hbuild => ?_) hj
  · simp only [build_eq_ok_iff, Fields.orElse_anything_eq_ok_iff, Fields.required_eq_ok_iff,
      word8_eq_ok_iff, exists_eq_right]
    exact ⟨fun ⟨hstatus, hresult⟩ => ⟨hstatus, hresult⟩, fun ⟨hstatus, hresult⟩ => ⟨hstatus, hresult⟩⟩
  · obtain ⟨hstatus, hresult⟩ := build_eq_ok_iff.mp hbuild
    simp only [schema, List.forall_mem_cons]
    exact ⟨Fields.check_of_required hstatus, Fields.check_of_orElse hresult, List.forall_mem_nil _⟩

end JobState

namespace ResourceTag

structure OfFields (t : ResourceTag) (field : String → Option Json) : Prop where
  key : field "key" = some (.str t.key)
  value : field "value" = some (.str t.value)

def Describes (j : Json) (t : ResourceTag) : Prop := j.IsRecord ["key", "value"] t.OfFields

theorem build_eq_ok_iff {f : Fields} {t : ResourceTag} : (do
      let key ← f.required "key" text
      let value ← f.required "value" text
      pure ⟨key, value⟩) = (.ok t : Result ResourceTag) ↔
      f.required "key" text = .ok t.key ∧ f.required "value" text = .ok t.value := by
  simp only [bind_eq_ok_iff]
  constructor
  · rintro ⟨key, hkey, value, hvalue, hmake⟩
    cases hmake
    exact ⟨hkey, hvalue⟩
  · rintro ⟨hkey, hvalue⟩
    exact ⟨_, hkey, _, hvalue, rfl⟩

theorem decode_eq_ok_iff {j : Json} (hj : j.Ordered) {t : ResourceTag} :
    decode j = .ok t ↔ Describes j t := by
  refine schema.decode_eq_ok_iff (fun f _ => ?_) (fun f hbuild => ?_) hj
  · simp only [build_eq_ok_iff, Fields.required_eq_ok_iff, text_eq_ok_iff, exists_eq_right]
    exact ⟨fun ⟨hkey, hvalue⟩ => ⟨hkey, hvalue⟩, fun ⟨hkey, hvalue⟩ => ⟨hkey, hvalue⟩⟩
  · obtain ⟨hkey, hvalue⟩ := build_eq_ok_iff.mp hbuild
    simp only [schema, List.forall_mem_cons]
    exact ⟨Fields.check_of_required hkey, Fields.check_of_required hvalue, List.forall_mem_nil _⟩

end ResourceTag

namespace VirtualMachine

structure OfFields (vm : VirtualMachine) (field : String → Option Json) : Prop where
  id : field "id" = some (.str vm.id)
  name : Json.IsText (field "name") vm.name
  displayName : Json.MayBeText (field "displayname") vm.displayName
  state : Json.IsText (field "state") vm.state
  zoneId : Json.MayBeText (field "zoneid") vm.zoneId
  projectId : Json.MayBeText (field "projectid") vm.projectId
  tags : field "tags" = none ∧ vm.tags = [] ∨
    ∃ items, field "tags" = some (.arr items) ∧ List.Forall₂ ResourceTag.Describes items vm.tags

def Describes (j : Json) (vm : VirtualMachine) : Prop :=
  j.IsRecord ["id", "name", "displayname", "state", "zoneid", "projectid", "tags"] vm.OfFields

theorem build_eq_ok_iff {f : Fields} {vm : VirtualMachine} : (do
      let id ← f.required "id" text
      let name ← f.orElse "name" text ""
      let displayName ← f.orElse "displayname" (Decode.optional text) none
      let state ← f.orElse "state" text ""
      let zoneId ← f.orElse "zoneid" (Decode.optional text) none
      let projectId ← f.orElse "projectid" (Decode.optional text) none
      let tags ← f.orElse "tags" (list ResourceTag.decode) []
      pure ⟨id, name, displayName, state, zoneId, projectId, tags⟩) =
      (.ok vm : Result VirtualMachine) ↔
      f.required "id" text = .ok vm.id ∧ f.orElse "name" text "" = .ok vm.name ∧
        f.orElse "displayname" (Decode.optional text) none = .ok vm.displayName ∧
        f.orElse "state" text "" = .ok vm.state ∧
        f.orElse "zoneid" (Decode.optional text) none = .ok vm.zoneId ∧
        f.orElse "projectid" (Decode.optional text) none = .ok vm.projectId ∧
        f.orElse "tags" (list ResourceTag.decode) [] = .ok vm.tags := by
  simp only [bind_eq_ok_iff]
  constructor
  · rintro ⟨_, hid, _, hname, _, hdisplay, _, hstate, _, hzone, _, hproject, _, htags, hmake⟩
    cases hmake
    exact ⟨hid, hname, hdisplay, hstate, hzone, hproject, htags⟩
  · rintro ⟨hid, hname, hdisplay, hstate, hzone, hproject, htags⟩
    exact ⟨_, hid, _, hname, _, hdisplay, _, hstate, _, hzone, _, hproject, _, htags, rfl⟩

theorem orElse_tags_eq_ok_iff {f : Fields} (hf : ∀ name v, f.find name = some v → v.Ordered)
    {tags : List ResourceTag} : f.orElse "tags" (list ResourceTag.decode) [] = .ok tags ↔
      f.find "tags" = none ∧ tags = [] ∨
        ∃ items, f.find "tags" = some (.arr items) ∧ List.Forall₂ ResourceTag.Describes items tags := by
  have hitems {items : List Json} (h : f.find "tags" = some (.arr items)) :
      List.Forall₂ (fun i t => ResourceTag.decode i = .ok t) items tags ↔
        List.Forall₂ ResourceTag.Describes items tags := by
    cases hf _ _ h with
    | arr ordered =>
      rw [List.forall₂_iff_get, List.forall₂_iff_get]
      exact and_congr_right fun _ => forall₃_congr fun i hi _ =>
        ResourceTag.decode_eq_ok_iff (ordered _ (List.get_mem items ⟨i, hi⟩))
  simp only [Fields.orElse_eq_ok_iff, list_eq_ok_iff, eq_comm (a := ([] : List ResourceTag))]
  refine or_congr_right ⟨?_, ?_⟩
  · rintro ⟨_, hj, items, rfl, htags⟩
    exact ⟨items, hj, (hitems hj).mp htags⟩
  · rintro ⟨items, hj, htags⟩
    exact ⟨_, hj, items, rfl, (hitems hj).mpr htags⟩

theorem decode_eq_ok_iff {j : Json} (hj : j.Ordered) {vm : VirtualMachine} :
    decode j = .ok vm ↔ Describes j vm := by
  refine schema.decode_eq_ok_iff (fun f hf => ?_) (fun f hbuild => ?_) hj
  · simp only [build_eq_ok_iff, Fields.orElse_optional_text_eq_ok_iff, Fields.required_eq_ok_iff,
      Fields.orElse_text_eq_ok_iff, orElse_tags_eq_ok_iff hf, text_eq_ok_iff, exists_eq_right]
    constructor
    · rintro ⟨hid, hname, hdisplay, hstate, hzone, hproject, htags⟩
      exact ⟨hid, hname, hdisplay, hstate, hzone, hproject, htags⟩
    · rintro ⟨hid, hname, hdisplay, hstate, hzone, hproject, htags⟩
      exact ⟨hid, hname, hdisplay, hstate, hzone, hproject, htags⟩
  · obtain ⟨hid, hname, hdisplay, hstate, hzone, hproject, htags⟩ := build_eq_ok_iff.mp hbuild
    simp only [schema, List.forall_mem_cons]
    exact ⟨Fields.check_of_required hid, Fields.check_of_orElse hname,
      Fields.check_of_orElse hdisplay, Fields.check_of_orElse hstate, Fields.check_of_orElse hzone,
      Fields.check_of_orElse hproject, Fields.check_of_orElse htags, List.forall_mem_nil _⟩

end VirtualMachine
end NodeGroups
