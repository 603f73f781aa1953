import NodeGroups.Cloud.Profile
import NodeGroups.Group.Definition

namespace NodeGroups

theorem mem_of_lookup_eq_some {α : Type} {entries : List (String × α)} {k : String} {v : α}
    (h : entries.lookup k = some v) : (k, v) ∈ entries := by
  obtain ⟨before, after, rfl, -⟩ := List.lookup_eq_some_iff.mp h
  simp

/-- Where no two keys are equal, a look-up finds every entry. -/
theorem lookup_eq_some_iff_mem {α : Type} {entries : List (String × α)}
    (h : entries.Pairwise fun a b => a.1 ≠ b.1) {k : String} {v : α} :
    entries.lookup k = some v ↔ (k, v) ∈ entries := by
  induction entries with
  | nil => simp
  | cons e es ih =>
    obtain ⟨first, rest⟩ := List.pairwise_cons.mp h
    rw [List.lookup_cons]
    by_cases same : k = e.1
    · subst same
      have absent : (e.1, v) ∉ es := fun hm => first (e.1, v) hm rfl
      simp [absent, Prod.ext_iff, eq_comm]
    · rw [beq_eq_false_iff_ne.mpr same]
      simp [same, Prod.ext_iff, ih rest]

/-- Where no two keys are equal, the order of the entries does not matter. -/
theorem lookup_reverse {α : Type} {entries : List (String × α)}
    (h : entries.Pairwise fun a b => a.1 ≠ b.1) (k : String) :
    entries.reverse.lookup k = entries.lookup k := by
  have hreverse : entries.reverse.Pairwise fun a b => a.1 ≠ b.1 :=
    List.pairwise_reverse.mpr (h.imp Ne.symm)
  ext v
  rw [lookup_eq_some_iff_mem hreverse, lookup_eq_some_iff_mem h, List.mem_reverse]

theorem distinct_of_ascending {α : Type} {entries : List (String × α)}
    (h : entries.Pairwise fun a b => a.1 < b.1) : entries.Pairwise fun a b => a.1 ≠ b.1 := by
  refine h.imp ?_
  intro a b less same
  rw [same] at less
  exact String.lt_irrefl _ less

namespace TextMap

theorem distinct (m : TextMap) : m.toList.Pairwise fun a b => a.1 ≠ b.1 :=
  distinct_of_ascending m.ascending

theorem mem_toList_iff {m : TextMap} {k v : String} : (k, v) ∈ m.toList ↔ m.get? k = some v :=
  (lookup_eq_some_iff_mem m.distinct).symm

/-- Two maps that find the same under every key are equal. -/
theorem ext_get? {m m' : TextMap} (h : ∀ k, m.get? k = m'.get? k) : m = m' := by
  have hmem : ∀ e, e ∈ m.toList ↔ e ∈ m'.toList := by
    intro e
    rw [mem_toList_iff, mem_toList_iff, h]
  have hnodup (m : TextMap) : m.toList.Nodup :=
    m.distinct.imp fun hne same => hne (congrArg Prod.fst same)
  have hperm : m.toList.Perm m'.toList :=
    (List.perm_ext_iff_of_nodup (hnodup m) (hnodup m')).mpr hmem
  ext1
  refine hperm.eq_of_pairwise ?_ m.ascending m'.ascending
  intro a b _ _ hab hba
  exact absurd hba (String.lt_asymm hab)

theorem get?_insertAll (m : TextMap) (pairs : List (String × String)) (k : String) :
    (m.insertAll pairs).get? k = (pairs.reverse.lookup k).or (m.get? k) := by
  induction pairs generalizing m with
  | nil => rfl
  | cons e es ih =>
    have hfirst : (m.insertAll (e :: es)).get? k = ((m.insert e.1 e.2).insertAll es).get? k := rfl
    rw [hfirst, ih, get?_insert, List.reverse_cons, List.lookup_append, lookup_cons_eq_ite,
      Option.or_assoc]
    split <;> rfl

/-- The last pair of a key counts. -/
theorem get?_ofList (pairs : List (String × String)) (k : String) :
    (ofList pairs).get? k = pairs.reverse.lookup k := by
  rw [ofList, get?_insertAll, get?_empty, Option.or_none]

/-- The pair is written, and nothing else is written under its key later on. -/
def IsLast (pairs : List (String × String)) (p : String × String) : Prop :=
  ∃ before after, pairs = before ++ p :: after ∧ ∀ q ∈ after, q.1 ≠ p.1

theorem IsLast.mem {pairs : List (String × String)} {p : String × String} (h : IsLast pairs p) :
    p ∈ pairs := by
  obtain ⟨before, after, rfl, -⟩ := h
  simp

theorem mem_ofList_iff {pairs : List (String × String)} {p : String × String} :
    p ∈ (ofList pairs).toList ↔ IsLast pairs p := by
  rw [mem_toList_iff (k := p.1) (v := p.2), get?_ofList, List.lookup_eq_some_iff]
  constructor
  · rintro ⟨after, before, hreverse, hnone⟩
    refine ⟨before.reverse, after.reverse, ?_, fun q hq => ?_⟩
    · rw [← List.reverse_inj, hreverse]
      simp
    · have hne := hnone q (List.mem_reverse.mp hq)
      exact fun same => by simp [same] at hne
  · rintro ⟨before, after, rfl, hnone⟩
    refine ⟨after.reverse, before.reverse, by simp, fun q hq => ?_⟩
    have hne : p.1 ≠ q.1 := Ne.symm (hnone q (List.mem_reverse.mp hq))
    simpa using hne

/-- Every key that is written is bound. -/
theorem exists_isLast {pairs : List (String × String)} {p : String × String} (h : p ∈ pairs) :
    ∃ q, IsLast pairs q ∧ q.1 = p.1 := by
  have hfound : (pairs.reverse.lookup p.1).isSome := by
    rw [List.lookup_isSome_iff]
    exact ⟨p, List.mem_reverse.mpr h, by simp⟩
  obtain ⟨v, hv⟩ := Option.isSome_iff_exists.mp hfound
  refine ⟨(p.1, v), ?_, rfl⟩
  rw [← mem_ofList_iff, mem_toList_iff, get?_ofList, hv]

/-- Where no key is written twice, a map has exactly the pairs that are written. -/
theorem ofList_perm {pairs : List (String × String)} (h : pairs.Pairwise fun a b => a.1 ≠ b.1) :
    (ofList pairs).toList.Perm pairs := by
  have hnodup {es : List (String × String)} (hes : es.Pairwise fun a b => a.1 ≠ b.1) : es.Nodup :=
    hes.imp fun hne same => hne (congrArg Prod.fst same)
  rw [List.perm_ext_iff_of_nodup (hnodup (ofList pairs).distinct) (hnodup h)]
  intro p
  rw [mem_toList_iff (k := p.1) (v := p.2), get?_ofList, lookup_reverse h, lookup_eq_some_iff_mem h]

/-- The order in which the pairs of a map are written does not matter. -/
theorem ofList_of_perm {m : TextMap} {pairs : List (String × String)} (h : pairs.Perm m.toList) :
    ofList pairs = m := by
  have hdistinct : pairs.Pairwise fun a b => a.1 ≠ b.1 := (h.pairwise_iff Ne.symm).mpr m.distinct
  apply ext_get?
  intro k
  ext v
  rw [get?_ofList, lookup_reverse hdistinct, lookup_eq_some_iff_mem hdistinct, h.mem_iff, mem_toList_iff]

/-- A key behind all others is bound at the end. -/
theorem insertEntry_of_last {k v : String} {es : List (String × String)} (h : ∀ e ∈ es, e.1 < k) :
    insertEntry k v es = es ++ [(k, v)] := by
  induction es with
  | nil => rfl
  | cons e es ih =>
    have hfirst : e.1 < k := h e List.mem_cons_self
    have hlt : ¬ k < e.1 := String.lt_asymm hfirst
    have hne : k ≠ e.1 := by
      intro same
      rw [same] at hfirst
      exact String.lt_irrefl _ hfirst
    rw [insertEntry, if_neg hlt, if_neg hne, ih fun e' he' => h e' (List.mem_cons_of_mem e he')]
    rfl

theorem entries_insertAll {m : TextMap} {pairs : List (String × String)}
    (h : (m.entries ++ pairs).Pairwise fun a b => a.1 < b.1) :
    (m.insertAll pairs).entries = m.entries ++ pairs := by
  induction pairs generalizing m with
  | nil => exact (List.append_nil _).symm
  | cons p pairs ih =>
    have hlast : ∀ e ∈ m.entries, e.1 < p.1 := fun e he =>
      (List.pairwise_append.mp h).2.2 e he p List.mem_cons_self
    have hinsert : (m.insert p.1 p.2).entries = m.entries ++ [p] := insertEntry_of_last hlast
    have hsplit : m.entries ++ p :: pairs = (m.insert p.1 p.2).entries ++ pairs := by
      rw [hinsert, List.append_assoc, List.singleton_append]
    rw [hsplit] at h ⊢
    exact ih h

/-- A map is the map of its pairs. -/
theorem ofList_toList (m : TextMap) : ofList m.toList = m := by
  ext1
  exact entries_insertAll (show (empty.entries ++ m.entries).Pairwise _ from m.ascending)

end TextMap

theorem dropStart?_eq_some_iff {start s rest : String} :
    Text.dropStart? start s = some rest ↔ s = start ++ rest := by
  unfold Text.dropStart?
  rw [Option.map_eq_some_iff]
  constructor
  · intro h
    obtain ⟨cs, hcs, rfl⟩ := h
    rw [Text.stripPrefix?_eq_some_iff] at hcs
    rw [← String.toList_inj, hcs, String.toList_append, String.toList_ofList]
  · intro h
    subst h
    refine ⟨rest.toList, ?_, String.ofList_toList⟩
    rw [Text.stripPrefix?_eq_some_iff, String.toList_append]

/-- Metadata under a marked key is found under the rest of the key, and nothing else is. -/
theorem GroupDefinition.get?_marked (d : GroupDefinition) (mark k : String) :
    (d.marked mark).get? k = d.metadata.get? (mark ++ k) := by
  have hmem (e : String × String) : e ∈ (d.metadata.toList.filterMap fun p =>
      (Text.dropStart? mark p.1).map fun key => (key, p.2)) ↔
        d.metadata.get? (mark ++ e.1) = some e.2 := by
    rw [← TextMap.mem_toList_iff, List.mem_filterMap]
    constructor
    · intro h
      obtain ⟨p, hp, hdrop⟩ := h
      obtain ⟨key, hkey, rfl⟩ := Option.map_eq_some_iff.mp hdrop
      rw [← dropStart?_eq_some_iff.mp hkey]
      exact hp
    · intro h
      exact ⟨_, h, by rw [dropStart?_eq_some_iff.mpr rfl]; rfl⟩
  have hdistinct : (d.metadata.toList.filterMap fun p =>
      (Text.dropStart? mark p.1).map fun key => (key, p.2)).Pairwise fun a b => a.1 ≠ b.1 := by
    refine List.Pairwise.filterMap _ ?_ d.metadata.distinct
    intro p q hpq e he e' he' same
    obtain ⟨key, hkey, rfl⟩ := Option.map_eq_some_iff.mp he
    obtain ⟨key', hkey', rfl⟩ := Option.map_eq_some_iff.mp he'
    apply hpq
    rw [dropStart?_eq_some_iff.mp hkey, dropStart?_eq_some_iff.mp hkey']
    exact congrArg (mark ++ ·) same
  ext v
  rw [marked, TextMap.get?_ofList, lookup_reverse hdistinct, lookup_eq_some_iff_mem hdistinct, hmem]

/-- The value of a key in a list of details. Of a key given more than once the last value counts. -/
def ResourceDetail.last? (details : List ResourceDetail) (key : String) : Option String :=
  (details.reverse.find? fun d => d.key = key).map ResourceDetail.value

theorem ResourceDetail.get?_metadata (details : List ResourceDetail) (key : String) :
    (metadata details).get? key = last? details key := by
  rw [metadata, TextMap.get?_ofList, last?, ← List.map_reverse]
  induction details.reverse with
  | nil => rfl
  | cons d ds ih =>
    rw [List.map_cons, List.lookup_cons, List.find?_cons, ih]
    by_cases same : key = d.key
    · simp [same]
    · simp [beq_eq_false_iff_ne.mpr same, Ne.symm same]

end NodeGroups
