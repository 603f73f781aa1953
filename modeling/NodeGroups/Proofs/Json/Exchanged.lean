import Mathlib.Data.List.Forall2
import NodeGroups.Proofs.Json.Records

/-!
Records that are written as objects and read again. What is written is described by entries, one for each
field, of which those without a value are left out. Reading depends on the fields alone: it goes once over
the members, to check those that are fields, and then looks fields up by name.
-/

namespace NodeGroups
namespace Decode

variable {α β : Type} {s : Schema} {build : Fields → Result α}

section Agreement

/-- Entries under the same names in the same order, with values that belong together. -/
def Agree (same : String → α → β → Prop) (es : List (String × α)) (es' : List (String × β)) :
    Prop :=
  List.Forall₂ (fun e e' => e.1 = e'.1 ∧ same e.1 e.2 e'.2) es es'

theorem Agree.lookup {same : String → α → β → Prop} {es : List (String × α)}
    {es' : List (String × β)} (h : Agree same es es') (key : String) :
    Option.Rel (same key) (es.lookup key) (es'.lookup key) := by
  induction h with
  | nil => exact .none
  | @cons e e' es es' first _ ih =>
    obtain ⟨names, values⟩ := first
    rw [lookup_cons_eq_ite, lookup_cons_eq_ite, ← names]
    split
    · next hkey =>
      rw [hkey]
      exact .some values
    · exact ih

theorem Agree.names {same : String → α → β → Prop} {es : List (String × α)}
    {es' : List (String × β)} (h : Agree same es es') : es.map Prod.fst = es'.map Prod.fst := by
  induction h with
  | nil => rfl
  | cons first _ ih => rw [List.map_cons, List.map_cons, first.1, ih]

end Agreement

section Unknown

/-- The members that are fields. -/
def Schema.known (s : Schema) (members : List (String × Json)) : List (String × Json) :=
  members.filter fun m => (s.fields.lookup m.1).isSome

/-- Two objects that have the same fields, with values that belong together. What other members they
hold, and between which fields, does not matter. -/
def Schema.Alike (s : Schema) (same : String → Json → Json → Prop) (j j' : Json) : Prop :=
  ∃ members members', j = .obj members ∧ j' = .obj members' ∧
    Agree same (s.known members) (s.known members')

theorem Schema.checkMembers_known (members : List (String × Json)) :
    s.checkMembers (s.known members) = s.checkMembers members := by
  induction members with
  | nil => rfl
  | cons m ms ih =>
    unfold known at ih ⊢
    cases hm : s.fields.lookup m.1 with
    | none => rw [List.filter_cons_of_neg (by simp [hm]), ih, checkMembers, hm]
    | some item => rw [List.filter_cons_of_pos (by simp [hm]), checkMembers, checkMembers, hm, ih]

theorem Schema.lookup_known (members : List (String × Json)) {name : String}
    (h : (s.fields.lookup name).isSome) :
    (s.known members).lookup name = members.lookup name := by
  induction members with
  | nil => rfl
  | cons m ms ih =>
    unfold known at ih ⊢
    -- A member that is left out is no field, so it is not the one that is looked up.
    by_cases isField : (s.fields.lookup m.1).isSome
    · rw [List.filter_cons, if_pos isField, lookup_cons_eq_ite, lookup_cons_eq_ite, ih]
    · have other : name ≠ m.1 := fun same => isField (same ▸ h)
      rw [List.filter_cons, if_neg isField, lookup_cons_eq_ite, if_neg other, ih]

theorem Schema.lookup_isSome {field : String × Check} (h : field ∈ s.fields) :
    (s.fields.lookup field.1).isSome :=
  List.lookup_isSome_iff.mpr ⟨field, h, beq_self_eq_true _⟩

variable {same : String → Json → Json → Prop}

theorem Schema.checkMembers_congr {members members' : List (String × Json)}
    (h : Agree same members members')
    (checks : ∀ field ∈ s.fields, ∀ v v', same field.1 v v' → field.2 v = field.2 v') :
    s.checkMembers members = s.checkMembers members' := by
  induction h with
  | nil => rfl
  | @cons m m' ms ms' first _ ih =>
    obtain ⟨names, values⟩ := first
    rw [checkMembers, checkMembers, ← names, ih]
    split
    · rfl
    · next item hitem =>
      have hvalues : item m.2 = item m'.2 :=
        checks (m.1, item) (mem_of_lookup_eq_some hitem) m.2 m'.2 values
      rw [hvalues]

/-- A record is built from its fields alone: where they are found alike, the record is the same. -/
def Schema.Determines (s : Schema) (same : String → Json → Json → Prop)
    (build : Fields → Result α) : Prop :=
  ∀ f f' : Fields, f.absent = f'.absent →
    (∀ field ∈ s.fields, Option.Rel (same field.1) (f.find field.1) (f'.find field.1)) →
    build f = build f'

theorem Schema.decode_congr {j j' : Json} (h : s.Alike same j j')
    (checks : ∀ field ∈ s.fields, ∀ v v', same field.1 v v' → field.2 v = field.2 v')
    (fields : s.Determines same build) : s.decode build j = s.decode build j' := by
  obtain ⟨members, members', rfl, rfl, hagree⟩ := h
  have hcheck : s.checkMembers members = s.checkMembers members' := by
    rw [← checkMembers_known members, ← checkMembers_known members']
    exact checkMembers_congr hagree checks
  have hbuild : build (s.ofMembers members) = build (s.ofMembers members') := by
    refine fields _ _ rfl fun field hfield => ?_
    have hname := lookup_isSome hfield
    have hfound := hagree.lookup field.1
    rw [lookup_known members hname, lookup_known members' hname] at hfound
    exact hfound
  rw [decode, decode, hcheck, hbuild]

theorem eq_of_rel {related : Json → Json → Prop} {o o' : Option Json} (h : Option.Rel related o o')
    (same : ∀ v v', related v v' → v = v') : o = o' := by
  cases h with
  | none => rfl
  | some values => exact congrArg some (same _ _ values)

theorem Fields.orElse_congr {f f' : Fields} {name : String} {item : Json → Result α} (default : α)
    {related : Json → Json → Prop} (h : Option.Rel related (f.find name) (f'.find name))
    (reads : ∀ v v', related v v' → item v = item v') :
    f.orElse name item default = f'.orElse name item default := by
  unfold orElse
  generalize f.find name = o, f'.find name = o' at h ⊢
  cases h with
  | none => rfl
  | some values => exact reads _ _ values

end Unknown

section Entries

/-- The entries that have a value, as members. -/
def present (entries : List (String × Option Json)) : List (String × Json) :=
  entries.filterMap fun e => e.2.map fun v => (e.1, v)

variable {entries : List (String × Option Json)}

theorem present_distinct (h : entries.Pairwise fun a b => a.1 ≠ b.1) :
    (present entries).Pairwise fun a b => a.1 ≠ b.1 := by
  refine List.Pairwise.filterMap _ ?_ h
  intro e e' hne m hm m' hm'
  obtain ⟨v, -, rfl⟩ := Option.map_eq_some_iff.mp hm
  obtain ⟨v', -, rfl⟩ := Option.map_eq_some_iff.mp hm'
  exact hne

theorem mem_present_iff {key : String} {v : Json} :
    (key, v) ∈ present entries ↔ (key, some v) ∈ entries := by
  rw [present, List.mem_filterMap]
  constructor
  · intro h
    obtain ⟨e, he, hv⟩ := h
    obtain ⟨w, hw, hpair⟩ := Option.map_eq_some_iff.mp hv
    cases hpair
    rw [← hw]
    exact he
  · intro h
    exact ⟨(key, some v), h, rfl⟩

theorem lookup_present (h : entries.Pairwise fun a b => a.1 ≠ b.1) (key : String) :
    (present entries).lookup key = (entries.lookup key).join := by
  ext v
  rw [lookup_eq_some_iff_mem (present_distinct h), mem_present_iff, Option.join_eq_some_iff,
    lookup_eq_some_iff_mem h]

/-- An object has exactly the entries with a value as its members. -/
theorem exists_object_present (h : entries.Pairwise fun a b => a.1 ≠ b.1) :
    ∃ members, Json.object (present entries) = .obj members ∧ Json.Ascending members ∧
      ∀ key, members.lookup key = (entries.lookup key).join := by
  obtain ⟨members, hobject, keys, found⟩ := Json.exists_object (present entries)
  refine ⟨members, hobject, keys, fun key => ?_⟩
  rw [found, lookup_reverse (present_distinct h), lookup_present h]

/-- There is an entry for each field, and its value, if it has one, passes the check. -/
def Schema.Fits (s : Schema) (entries : List (String × Option Json)) : Prop :=
  Agree (fun _ v item => ∀ j, v = some j → item j = .ok ()) entries s.fields

theorem Schema.Fits.checkMembers (h : s.Fits entries) {members : List (String × Json)}
    (keys : Json.Ascending members)
    (found : ∀ key, members.lookup key = (entries.lookup key).join) :
    s.checkMembers members = .ok () := by
  rw [Schema.checkMembers_eq_ok_iff]
  intro m hm item hitem
  have hentry : entries.lookup m.1 = some (some m.2) := by
    rw [← Option.join_eq_some_iff, ← found]
    exact (Json.lookup_eq_some_iff keys).mpr hm
  have hfit := Agree.lookup h m.1
  rw [hentry, hitem] at hfit
  cases hfit with
  | some pass => exact pass m.2 rfl

end Entries

/-- Records go to objects and come back. An object has the entries that have a value and nothing
else; the record is read from it again, and members that are not fields change nothing that is read
from any object. -/
structure Schema.Exchanges (s : Schema) (same : String → Json → Json → Prop)
    (entries : α → List (String × Option Json)) (encode : α → Json) (decode : Json → Result α) :
    Prop where
  /-- The members of an object, by ascending key. -/
  written : ∀ a, ∃ members, encode a = .obj members ∧ Json.Ascending members ∧
    ∀ key, members.lookup key = ((entries a).lookup key).join
  restored : ∀ a, decode (encode a) = .ok a
  unaffected : ∀ j j', s.Alike same j j' → decode j = decode j'

/-- What has to be known of a record: of its entries, that they fit the fields and that it is built of
them; of its fields, that nothing else counts. -/
theorem Schema.exchanges {same : String → Json → Json → Prop}
    {entries : α → List (String × Option Json)} {encode : α → Json}
    (names : s.fields.Pairwise fun a b => a.1 ≠ b.1)
    (encodes : ∀ a, encode a = Json.object (present (entries a)))
    (fits : ∀ a, s.Fits (entries a))
    (builds : ∀ a f, (∀ key, f.find key = ((entries a).lookup key).join) → build f = .ok a)
    (checks : ∀ field ∈ s.fields, ∀ v v', same field.1 v v' → field.2 v = field.2 v')
    (fields : s.Determines same build) : s.Exchanges same entries encode (s.decode build) := by
  have written (a : α) : ∃ members, encode a = .obj members ∧ Json.Ascending members ∧
      ∀ key, members.lookup key = ((entries a).lookup key).join := by
    have distinct : (entries a).Pairwise fun a b => a.1 ≠ b.1 := by
      rw [← List.pairwise_map (f := Prod.fst) (R := (· ≠ ·))] at names ⊢
      rwa [(fits a).names]
    rw [encodes]
    exact exists_object_present distinct
  refine ⟨written, fun a => ?_, fun j j' h => decode_congr h checks fields⟩
  obtain ⟨members, hobject, keys, found⟩ := written a
  rw [hobject, decode_obj_eq_ok_iff]
  exact ⟨(fits a).checkMembers keys found, builds a _ found⟩

/-- A record whose fields are compared as they stand. -/
theorem Schema.exchanges_plain {entries : α → List (String × Option Json)} {encode : α → Json}
    (names : s.fields.Pairwise fun a b => a.1 ≠ b.1)
    (encodes : ∀ a, encode a = Json.object (present (entries a)))
    (fits : ∀ a, s.Fits (entries a))
    (builds : ∀ a f, (∀ key, f.find key = ((entries a).lookup key).join) → build f = .ok a)
    (fields : ∀ f f' : Fields, f.absent = f'.absent →
      (∀ field ∈ s.fields, f.find field.1 = f'.find field.1) → build f = build f') :
    s.Exchanges (fun _ => Eq) entries encode (s.decode build) := by
  refine exchanges names encodes fits builds (fun _ _ _ _ same => congrArg _ same) ?_
  intro f f' habsent hfind
  refine fields f f' habsent fun field hfield => ?_
  exact eq_of_rel (hfind field hfield) fun _ _ same => same

section Items

@[simp] theorem text_str (v : String) : text (.str v) = .ok v := rfl

@[simp] theorem optional_text_str (v : String) : Decode.optional text (.str v) = .ok (some v) := rfl

theorem unsigned_nat {bound n : Nat} {expected : String} (h : n < bound) :
    unsigned bound expected (.nat n) = .ok n := by
  have below : (n : Int) < bound := Int.ofNat_lt.mpr h
  simp [unsigned, Json.nat, below]

@[simp] theorem word32_nat (n : UInt32) : word32 (.nat n.toNat) = .ok n := by
  rw [word32, unsigned_nat n.toNat_lt_size, Except.map, UInt32.ofNat_toNat]

@[simp] theorem word64_nat (n : UInt64) : word64 (.nat n.toNat) = .ok n := by
  rw [word64, unsigned_nat n.toNat_lt_size, Except.map, UInt64.ofNat_toNat]

@[simp] theorem optional_word32_nat (n : UInt32) :
    Decode.optional word32 (.nat n.toNat) = .ok (some n) := by
  rw [Json.nat, Decode.optional, ← Json.nat, word32_nat, Except.map]
  intro h
  cases h

variable {f : Fields} {name : String}

theorem Fields.required_of_find {item : Json → Result α} {j : Json} {a : α}
    (h : f.find name = some j) (read : item j = .ok a) : f.required name item = .ok a :=
  required_eq_ok_iff.mpr ⟨j, h, read⟩

theorem Fields.orElse_of_find {item : Json → Result α} {default : α} {j : Json} {a : α}
    (h : f.find name = some j) (read : item j = .ok a) : f.orElse name item default = .ok a :=
  orElse_eq_ok_iff.mpr (.inr ⟨j, h, read⟩)

/-- A field that is left out where there is nothing. -/
theorem Fields.orElse_of_optional {item : Json → Result α} {encode : α → Json} {o : Option α}
    (h : f.find name = o.map encode)
    (read : ∀ a, Decode.optional item (encode a) = .ok (some a)) :
    f.orElse name (Decode.optional item) none = .ok o := by
  cases o with
  | none => exact orElse_eq_ok_iff.mpr (.inl ⟨h, rfl⟩)
  | some a => exact orElse_of_find h (read a)

theorem list_map {item : Json → Result α} {encode : α → Json} (h : ∀ a, item (encode a) = .ok a)
    (as : List α) : list item (.arr (as.map encode)) = .ok as := by
  unfold list
  induction as with
  | nil => rfl
  | cons a as ih =>
    simp only at ih
    simp only [List.map_cons, List.mapM_cons, h, ih]
    rfl

theorem list_congr {item : Json → Result α} {items items' : List Json}
    (h : List.Forall₂ (fun j j' => item j = item j') items items') :
    list item (.arr items) = list item (.arr items') := by
  unfold list
  induction h with
  | nil => rfl
  | cons first _ ih =>
    simp only at ih
    simp only [List.mapM_cons, first, ih]

end Items
end Decode
end NodeGroups
