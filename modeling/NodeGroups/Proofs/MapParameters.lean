import NodeGroups.Proofs.Queries
import NodeGroups.Proofs.Text.Characters
import NodeGroups.Proofs.Text.Decimals
import NodeGroups.Request.Basic

/-!
A map is sent as one parameter for each key and one for each value, numbered from zero. In the query they
stand in the order of their names, in which entry 10 comes before entry 2. Since a decimal is
followed by a bracket that is no digit, the number and the half of an entry can be told from its name, so
no entry takes the place of another, and the map can be read back by counting.
-/

namespace NodeGroups.Query

/-- What is read from a query as the entries of a map parameter, by counting from an index on until there
is neither a key nor a value. -/
inductive Lists (q : Query) (name : String) : Nat → List (String × String) → Prop
  | stop {i : Nat} (key : q.get? (name ++ "[" ++ toString i ++ "].key") = none)
      (value : q.get? (name ++ "[" ++ toString i ++ "].value") = none) : Lists q name i []
  | next {i : Nat} {k v : String} {rest : List (String × String)}
      (key : q.get? (name ++ "[" ++ toString i ++ "].key") = some k)
      (value : q.get? (name ++ "[" ++ toString i ++ "].value") = some v)
      (more : Lists q name (i + 1) rest) : Lists q name i ((k, v) :: rest)

section Keys

variable {name half half' : String} {i j : Nat}

theorem entryKey_toList (name : String) (i : Nat) (half : String) : (entryKey name i half).toList =
    (name ++ "[").toList ++ ((toString i).toList ++ ']' :: '.' :: half.toList) := by
  simp [entryKey]

theorem entryKey_key (name : String) (i : Nat) :
    entryKey name i "key" = name ++ "[" ++ toString i ++ "].key" := by
  rw [← String.toList_inj, entryKey_toList]
  simp

theorem entryKey_value (name : String) (i : Nat) :
    entryKey name i "value" = name ++ "[" ++ toString i ++ "].value" := by
  rw [← String.toList_inj, entryKey_toList]
  simp

/-- The number of an entry ends at the first bracket behind it. -/
theorem entryKey_inj : entryKey name i half = entryKey name j half' ↔ i = j ∧ half = half' := by
  constructor
  · intro h
    rw [← String.toList_inj, entryKey_toList, entryKey_toList, List.append_cancel_left_eq] at h
    obtain ⟨hnumber, hhalf⟩ := Text.eq_of_append_sep (Decimal.not_mem_toString (by decide) i)
      (Decimal.not_mem_toString (by decide) j) h
    rw [String.toList_inj, Decimal.toString_inj] at hnumber
    rw [List.cons_inj_right, String.toList_inj] at hhalf
    exact ⟨hnumber, hhalf⟩
  · rintro ⟨rfl, rfl⟩
    rfl

theorem prefix_entryKey (name : String) (i : Nat) (half : String) :
    (name ++ "[").toList <+: (entryKey name i half).toList := by
  rw [entryKey_toList]
  exact List.prefix_append _ _

end Keys

/-- The parameters for the entries of a map, numbered from `index` on. -/
def numbered (name : String) (index : Nat) : List (String × String) → List (String × String)
  | [] => []
  | p :: rest =>
    (entryKey name index "key", p.1) :: (entryKey name index "value", p.2) ::
      numbered name (index + 1) rest

section Numbered

variable {name : String} {index : Nat} {pairs : List (String × String)}

theorem setEntries_eq (q : Query) (name : String) (index : Nat) (pairs : List (String × String)) :
    q.setEntries name index pairs = q.insertAll (numbered name index pairs) := by
  induction pairs generalizing q index with
  | nil => rfl
  | cons p rest ih =>
    rw [setEntries, ih]
    rfl

/-- Each pair is sent twice, by its key and by its value, under its number. -/
theorem mem_numbered_iff {key v : String} : (key, v) ∈ numbered name index pairs ↔
    ∃ i p, pairs[i]? = some p ∧ (key = entryKey name (index + i) "key" ∧ v = p.1 ∨
      key = entryKey name (index + i) "value" ∧ v = p.2) := by
  induction pairs generalizing index with
  | nil => simp [numbered]
  | cons p rest ih =>
    rw [numbered, List.mem_cons, List.mem_cons, ih, ← or_assoc, Prod.mk.injEq, Prod.mk.injEq]
    constructor
    · rintro (hfirst | ⟨i, p', hp', hlater⟩)
      · exact ⟨0, p, rfl, hfirst⟩
      · refine ⟨i + 1, p', hp', ?_⟩
        rwa [← Nat.add_assoc, Nat.add_right_comm]
    · rintro ⟨i, p', hp', hentry⟩
      cases i with
      | zero =>
        cases hp'
        exact .inl hentry
      | succ i =>
        refine .inr ⟨i, p', hp', ?_⟩
        rwa [Nat.add_right_comm, Nat.add_assoc]

theorem numbered_distinct (name : String) (index : Nat) (pairs : List (String × String)) :
    (numbered name index pairs).Pairwise fun a b => a.1 ≠ b.1 := by
  induction pairs generalizing index with
  | nil => exact .nil
  | cons p rest ih =>
    have hlater (half : String) : ∀ e ∈ numbered name (index + 1) rest, entryKey name index half ≠ e.1 := by
      rintro ⟨key, v⟩ he same
      obtain ⟨i, -, -, ⟨hkey, -⟩ | ⟨hkey, -⟩⟩ := mem_numbered_iff.mp he
      all_goals
        have hnumber : index = index + 1 + i := (entryKey_inj.mp (same.trans hkey)).1
        omega
    have hhalves : entryKey name index "key" ≠ entryKey name index "value" := fun same =>
      absurd (entryKey_inj.mp same).2 (by decide)
    rw [numbered, List.pairwise_cons, List.pairwise_cons, List.forall_mem_cons]
    exact ⟨⟨hhalves, hlater "key"⟩, hlater "value", ih (index + 1)⟩

end Numbered

section SetMap

variable {q : Query} {name : String} {m : TextMap}

/-- Where no parameter is written like an entry before, a query has the entries of the map and all it had. -/
theorem get?_setMap_eq_some_iff
    (hfresh : ∀ key, (name ++ "[").toList <+: key.toList → q.get? key = none) {key v : String} :
    (q.setMap name m).get? key = some v ↔
      (∃ i p, m.toList[i]? = some p ∧ (key = entryKey name i "key" ∧ v = p.1 ∨
        key = entryKey name i "value" ∧ v = p.2)) ∨ q.get? key = some v := by
  have hmem : (∃ i p, m.toList[i]? = some p ∧ (key = entryKey name i "key" ∧ v = p.1 ∨
      key = entryKey name i "value" ∧ v = p.2)) ↔ (key, v) ∈ numbered name 0 m.toList := by
    simp only [mem_numbered_iff, Nat.zero_add]
  rw [hmem, setMap, setEntries_eq, TextMap.get?_insertAll, lookup_reverse (numbered_distinct name 0 _),
    Option.or_eq_some_iff, lookup_eq_some_iff_mem (numbered_distinct name 0 _)]
  refine or_congr_right ⟨And.right, fun hold => ⟨?_, hold⟩⟩
  -- an entry under this key would be written like one, and the query had none
  rw [Option.eq_none_iff_forall_ne_some]
  intro v' hentry
  rw [lookup_eq_some_iff_mem (numbered_distinct name 0 _), mem_numbered_iff] at hentry
  obtain ⟨i, -, -, ⟨rfl, -⟩ | ⟨rfl, -⟩⟩ := hentry
  all_goals
    rw [hfresh _ (prefix_entryKey name _ _)] at hold
    cases hold

variable (hfresh : ∀ key, (name ++ "[").toList <+: key.toList → q.get? key = none) (i : Nat)
include hfresh

theorem get?_setMap_key :
    (q.setMap name m).get? (name ++ "[" ++ toString i ++ "].key") = m.toList[i]?.map Prod.fst := by
  ext v
  rw [← entryKey_key, get?_setMap_eq_some_iff hfresh, hfresh _ (prefix_entryKey name i "key"),
    Option.map_eq_some_iff]
  simp [entryKey_inj, eq_comm]

theorem get?_setMap_value :
    (q.setMap name m).get? (name ++ "[" ++ toString i ++ "].value") = m.toList[i]?.map Prod.snd := by
  ext v
  rw [← entryKey_value, get?_setMap_eq_some_iff hfresh, hfresh _ (prefix_entryKey name i "value"),
    Option.map_eq_some_iff]
  simp [entryKey_inj, eq_comm]

end SetMap

/-- What is read by counting is what there is from the index on. -/
theorem lists_iff {q : Query} {name : String} {pairs : List (String × String)}
    (hkey : ∀ i : Nat, q.get? (name ++ "[" ++ toString i ++ "].key") = pairs[i]?.map Prod.fst)
    (hvalue : ∀ i : Nat, q.get? (name ++ "[" ++ toString i ++ "].value") = pairs[i]?.map Prod.snd)
    {i : Nat} {found : List (String × String)} : q.Lists name i found ↔ found = pairs.drop i := by
  constructor
  · intro h
    induction h with
    | @stop i key value =>
      rw [hkey, Option.map_eq_none_iff, List.getElem?_eq_none_iff] at key
      exact (List.drop_eq_nil_of_le key).symm
    | @next i k v rest key value more ih =>
      rw [hkey, Option.map_eq_some_iff] at key
      obtain ⟨p, hp, rfl⟩ := key
      rw [hvalue, hp, Option.map_some, Option.some.injEq] at value
      obtain ⟨hi, rfl⟩ := List.getElem?_eq_some_iff.mp hp
      rw [List.drop_eq_getElem_cons hi, ih, ← value]
  · intro h
    induction found generalizing i with
    | nil =>
      have hend : pairs[i]? = none :=
        List.getElem?_eq_none_iff.mpr (List.drop_eq_nil_iff.mp h.symm)
      exact .stop (by rw [hkey, hend]; rfl) (by rw [hvalue, hend]; rfl)
    | cons p rest ih =>
      have hhere : pairs[i]? = some p := by
        rw [← List.head?_drop, ← h, List.head?_cons]
      have hrest : rest = pairs.drop (i + 1) := by
        rw [← List.tail_drop, ← h, List.tail_cons]
      exact .next (by rw [hkey, hhere]; rfl) (by rw [hvalue, hhere]; rfl) (ih hrest)

/-- A query that has a map under a name besides other parameters. -/
structure Carries (q : Query) (name : String) (m : TextMap) (others : String → Option String) :
    Prop where
  /-- Counting gives the pairs of the map, and nothing but them. -/
  lists : ∀ pairs, q.Lists name 0 pairs ↔ pairs = m.toList
  /-- They come in the order of the bytes of their keys. -/
  order : ∀ pairs, q.Lists name 0 pairs → pairs.Pairwise fun a b => Utf8.bytes a.1 < Utf8.bytes b.1
  /-- There are as many numbers as pairs. -/
  key_iff : ∀ i, q.contains (name ++ "[" ++ toString i ++ "].key") ↔ i < m.size
  value_iff : ∀ i, q.contains (name ++ "[" ++ toString i ++ "].value") ↔ i < m.size
  /-- No other parameter is written like an entry. -/
  entries : ∀ key, (name ++ "[").toList <+: key.toList → q.contains key →
    ∃ i < m.size, key = name ++ "[" ++ toString i ++ "].key" ∨
      key = name ++ "[" ++ toString i ++ "].value"
  others : ∀ key, ¬ (name ++ "[").toList <+: key.toList → q.get? key = others key

theorem carries_setMap {q : Query} {name : String} (m : TextMap)
    (hfresh : ∀ key, (name ++ "[").toList <+: key.toList → q.get? key = none) :
    (q.setMap name m).Carries name m q.get? := by
  have hkey := get?_setMap_key (m := m) hfresh
  have hvalue := get?_setMap_value (m := m) hfresh
  have hlists {pairs : List (String × String)} :
      (q.setMap name m).Lists name 0 pairs ↔ pairs = m.toList := lists_iff hkey hvalue
  have hsize (i : Nat) : m.toList[i]?.isSome ↔ i < m.size := by
    simp [TextMap.toList, TextMap.size]
  constructor
  case lists => exact fun pairs => hlists
  case order =>
    intro pairs h
    rw [hlists.mp h]
    exact m.ascending.imp Utf8.bytes_lt
  case key_iff =>
    intro i
    rw [TextMap.contains, hkey, Option.isSome_map, hsize]
  case value_iff =>
    intro i
    rw [TextMap.contains, hvalue, Option.isSome_map, hsize]
  case entries =>
    intro key hstart hin
    obtain ⟨v, hv⟩ := Option.isSome_iff_exists.mp hin
    rcases (get?_setMap_eq_some_iff hfresh).mp hv with ⟨i, p, hp, hentry⟩ | hold
    · refine ⟨i, (hsize i).mp (by rw [hp]; rfl), ?_⟩
      rw [← entryKey_key, ← entryKey_value]
      exact hentry.imp And.left And.left
    · rw [hfresh key hstart] at hold
      cases hold
  case others =>
    intro key hother
    ext v
    rw [get?_setMap_eq_some_iff hfresh]
    refine or_iff_right ?_
    rintro ⟨i, p, -, ⟨rfl, -⟩ | ⟨rfl, -⟩⟩ <;> exact hother (prefix_entryKey name i _)

/-- A map beside parameters of other names. -/
theorem carries_ofParams {params : List (String × Option String)} {name : String} (m : TextMap)
    {others : String → Option String} (hdistinct : params.Pairwise fun a b => a.1 ≠ b.1)
    (hother : ∀ p ∈ params, ¬ (name ++ "[").toList <+: p.1.toList)
    (hothers : ∀ key, others key = (params.lookup key).join) :
    ((ofParams params).setMap name m).Carries name m others := by
  have hget : (ofParams params).get? = others := by
    funext key
    rw [get?_ofParams hdistinct, hothers]
  rw [← hget]
  refine carries_setMap m fun key hstart => ?_
  have habsent : params.lookup key = none := by
    rw [List.lookup_eq_none_iff]
    intro p hp
    rw [bne_iff_ne]
    rintro rfl
    exact hother p hp hstart
  rw [get?_ofParams hdistinct, habsent]
  rfl

theorem carries_tagRequest (r : TagRequest) : r.query.Carries "tags" r.tags fun key =>
    if key = "resourceids" then some (String.intercalate "," r.resourceIds)
    else if key = "resourcetype" then some r.resourceType else none := by
  refine carries_ofParams r.tags (by simp) (by simp) fun key => ?_
  rw [lookup_cons_eq_ite, lookup_cons_eq_ite, apply_ite Option.join, apply_ite Option.join]
  rfl

/-- A request to tag machines and one to list them carry their tags whole, however many there are, and
their other parameters beside them. -/
theorem carries_tags :
    (∀ r : TagRequest, r.query.Carries "tags" r.tags fun key =>
      if key = "resourceids" then some (String.intercalate "," r.resourceIds)
      else if key = "resourcetype" then some r.resourceType else none) ∧
    ∀ r : MachinesRequest, r.query.Carries "tags" r.tags fun key =>
      if key = "projectid" then r.projectId else none := by
  refine ⟨carries_tagRequest, fun r => ?_⟩
  refine carries_ofParams r.tags (by simp) (by simp) fun key => ?_
  rw [lookup_cons_eq_ite, apply_ite Option.join]
  rfl

/-- The order of a query is not that of the numbers. -/
example : entryKey "tags" 10 "key" < entryKey "tags" 2 "key" := by decide

end NodeGroups.Query
