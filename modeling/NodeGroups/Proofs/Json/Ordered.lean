import NodeGroups.Proofs.Maps
import NodeGroups.Remote.Response

namespace NodeGroups
namespace Json

def Ascending (members : List (String × Json)) : Prop := members.Pairwise fun a b => a.1 < b.1

/-- A value whose objects, at every depth, have ascending keys. -/
inductive Ordered : Json → Prop
  | null : Ordered .null
  | bool {b : Bool} : Ordered (.bool b)
  | num {n : Number} : Ordered (.num n)
  | str {s : String} : Ordered (.str s)
  | arr {items : List Json} (h : ∀ j ∈ items, Ordered j) : Ordered (.arr items)
  | obj {members : List (String × Json)} (keys : Ascending members)
      (values : ∀ m ∈ members, Ordered m.2) : Ordered (.obj members)

theorem mem_insertMember {k : String} {v : Json} {m : String × Json}
    {members : List (String × Json)} (h : m ∈ insertMember k v members) :
    m = (k, v) ∨ m ∈ members := by
  induction members with
  | nil => exact .inl (List.mem_singleton.mp h)
  | cons e es ih =>
    unfold insertMember at h
    split at h
    · exact (List.mem_cons.mp h).imp id id
    · split at h
      · exact (List.mem_cons.mp h).imp id (List.mem_cons_of_mem e)
      · rcases List.mem_cons.mp h with rfl | h
        · exact .inr List.mem_cons_self
        · exact (ih h).imp id (List.mem_cons_of_mem e)

theorem insertMember_ascending (k : String) (v : Json) {members : List (String × Json)}
    (h : Ascending members) : Ascending (insertMember k v members) := by
  induction members with
  | nil => exact List.pairwise_singleton _ _
  | cons e es ih =>
    obtain ⟨first, rest⟩ := List.pairwise_cons.mp h
    unfold insertMember
    by_cases less : k < e.1
    · rw [if_pos less]
      refine List.pairwise_cons.mpr ⟨?_, h⟩
      intro m hm
      rcases List.mem_cons.mp hm with rfl | hm
      · exact less
      · exact String.lt_trans less (first m hm)
    · rw [if_neg less]
      by_cases same : k = e.1
      · rw [if_pos same]
        refine List.pairwise_cons.mpr ⟨?_, rest⟩
        intro m hm
        rw [same]
        exact first m hm
      · rw [if_neg same]
        have greater : e.1 < k := Decidable.byContradiction fun not =>
          same (String.le_antisymm (String.not_lt.mp not) (String.not_lt.mp less))
        refine List.pairwise_cons.mpr ⟨?_, ih rest⟩
        intro m hm
        rcases mem_insertMember hm with rfl | hm
        · exact greater
        · exact first m hm

theorem lookup_insertMember (k : String) (v : Json) (members : List (String × Json)) (key : String) :
    (insertMember k v members).lookup key = if key = k then some v else members.lookup key := by
  induction members with
  | nil => rw [insertMember, lookup_cons_eq_ite]
  | cons e es ih =>
    unfold insertMember
    split
    · rw [lookup_cons_eq_ite]
    · split
      · next same => by_cases first : key = k <;> simp [lookup_cons_eq_ite, first, ← same]
      · next other =>
        rw [lookup_cons_eq_ite, lookup_cons_eq_ite, ih]
        by_cases first : key = k <;> simp [first, other]

/-- An object has its keys ascending, and of the members that it is made of, the last of a key
counts. -/
theorem exists_object (members : List (String × Json)) : ∃ ms, object members = .obj ms ∧
    Ascending ms ∧ ∀ key, ms.lookup key = members.reverse.lookup key := by
  refine ⟨_, rfl, ?_⟩
  rw [List.foldl_eq_foldr_reverse]
  induction members.reverse with
  | nil => exact ⟨.nil, fun _ => rfl⟩
  | cons m ms ih =>
    obtain ⟨keys, found⟩ := ih
    refine ⟨insertMember_ascending m.1 m.2 keys, ?_⟩
    intro key
    rw [List.foldr_cons, lookup_insertMember, found, lookup_cons_eq_ite]

/-- Where the keys ascend, a look-up finds every member. -/
theorem lookup_eq_some_iff {members : List (String × Json)} (h : Ascending members) {k : String}
    {v : Json} : members.lookup k = some v ↔ (k, v) ∈ members :=
  lookup_eq_some_iff_mem (distinct_of_ascending h)

def Frame.Ordered : Frame → Prop
  | array items => ∀ j ∈ items, j.Ordered
  | object members _ => Ascending members ∧ ∀ m ∈ members, m.2.Ordered

/-- What has been read so far is ordered: the enclosing containers, and the members at hand. -/
def State.Ordered : State → Prop
  | value stack | firstItem stack | firstKey stack => ∀ f ∈ stack, f.Ordered
  | key members stack | colon members _ stack =>
    (Frame.object members "").Ordered ∧ ∀ f ∈ stack, f.Ordered
  | next frame stack => frame.Ordered ∧ ∀ f ∈ stack, f.Ordered

/-- After a token: a value that is complete, or what has been read so far. -/
def OrderedOutcome : Json ⊕ State → Prop
  | .inl v => v.Ordered
  | .inr s => s.Ordered

variable {r : Reading} {stack : List Frame} {t : Token} {outcome : Json ⊕ State}

theorem Frame.add_ordered {v : Json} (hv : v.Ordered) {f : Frame} (hf : f.Ordered) :
    (f.add v).Ordered := by
  cases f with
  | array items =>
    intro j hj
    rcases List.mem_cons.mp hj with rfl | hj
    · exact hv
    · exact hf j hj
  | object members k =>
    refine ⟨insertMember_ascending k v hf.1, ?_⟩
    intro m hm
    rcases mem_insertMember hm with rfl | hm
    · exact hv
    · exact hf.2 m hm

theorem deliver_ordered {v : Json} (hv : v.Ordered) (hs : ∀ f ∈ stack, f.Ordered) :
    OrderedOutcome (deliver v stack) := by
  cases stack with
  | nil => exact hv
  | cons f stack =>
    obtain ⟨hf, hs⟩ := List.forall_mem_cons.mp hs
    exact ⟨Frame.add_ordered hv hf, hs⟩

theorem begin_ordered (hs : ∀ f ∈ stack, f.Ordered) (h : r.begin stack t = some outcome) :
    OrderedOutcome outcome := by
  unfold Reading.begin at h
  split at h
  case h_1 | h_2 | h_3 | h_5 =>
    cases h
    exact deliver_ordered (by constructor) hs
  case h_4 | h_6 =>
    split at h
    · cases h
      exact deliver_ordered .null hs
    · cases h
  case h_7 | h_8 =>
    split at h
    · cases h
      exact hs
    · cases h
  case h_9 => cases h

theorem key_ordered {members : List (String × Json)} (hm : (Frame.object members "").Ordered)
    (hs : ∀ f ∈ stack, f.Ordered) (h : r.key members stack t = some outcome) :
    OrderedOutcome outcome := by
  unfold Reading.key at h
  split at h
  · cases h
    exact ⟨hm, hs⟩
  · split at h
    · cases h
      exact ⟨hm, hs⟩
    · cases h
  · cases h

theorem step_ordered {s : State} (hs : s.Ordered) (h : r.step s t = some outcome) :
    OrderedOutcome outcome := by
  have nothing : (Frame.object [] "").Ordered := ⟨.nil, by simp⟩
  unfold Reading.step at h
  split at h
  case h_1 => exact begin_ordered hs h
  case h_2 =>
    cases h
    exact deliver_ordered (.arr (by simp)) hs
  case h_3 =>
    refine begin_ordered ?_ h
    intro f hf
    rcases List.mem_cons.mp hf with rfl | hf
    · exact fun j hj => absurd hj List.not_mem_nil
    · exact hs f hf
  case h_4 =>
    cases h
    exact deliver_ordered (.obj .nil (by simp)) hs
  case h_5 => exact key_ordered nothing hs h
  case h_6 => exact key_ordered hs.1 hs.2 h
  case h_7 =>
    cases h
    exact List.forall_mem_cons.mpr hs
  case h_8 =>
    cases h
    exact List.forall_mem_cons.mpr hs
  case h_9 =>
    cases h
    exact deliver_ordered (.arr fun j hj => hs.1 j (List.mem_reverse.mp hj)) hs.2
  case h_10 =>
    cases h
    exact hs
  case h_11 =>
    cases h
    exact deliver_ordered (.obj hs.1.1 hs.1.2) hs.2
  case h_12 => cases h

theorem run_ordered {s : State} (hs : s.Ordered) {tokens rest : List Token} {v : Json}
    (h : r.run s tokens = some (v, rest)) : v.Ordered := by
  induction tokens generalizing s with
  | nil => cases h
  | cons t ts ih =>
    unfold Reading.run at h
    cases hstep : r.step s t with
    | none =>
      rw [hstep] at h
      cases h
    | some outcome =>
      have ho := step_ordered hs hstep
      rw [hstep] at h
      cases outcome with
      | inl w =>
        cases h
        exact ho
      | inr s' => exact ih ho h

/-- Every value that is read from a text is ordered. -/
theorem parse?_ordered {text : String} {v : Json} (h : parse? text = some v) : v.Ordered := by
  unfold parse? at h
  split at h
  · next hrun =>
    cases h
    exact run_ordered (s := .value []) (by simp [State.Ordered]) hrun
  · cases h

end Json

/-- What an envelope holds is ordered. -/
theorem Response.content_ordered {r : Response} {v : Json} (h : r.content = .ok v) : v.Ordered := by
  cases r with
  | lost reason => cases h
  | broken reason => cases h
  | received status body =>
    cases hp : Json.parse? body with
    | none =>
      simp only [content, hp] at h
      split at h <;> cases h
    | some value =>
      have hv := Json.parse?_ordered hp
      simp only [content, hp] at h
      unfold openEnvelope at h
      split at h
      · next inner =>
        split at h
        · cases h
        · split at h
          · cases h
            cases hv with
            | obj keys values => exact values _ List.mem_cons_self
          · cases h
      · cases h

end NodeGroups
