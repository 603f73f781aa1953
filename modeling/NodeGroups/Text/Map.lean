namespace NodeGroups

theorem lookup_cons_eq_ite {α : Type} (q : String) (e : String × α) (es : List (String × α)) :
    (e :: es).lookup q = if q = e.1 then some e.2 else es.lookup q := by
  rw [List.lookup_cons]
  by_cases h : q = e.1
  · simp [h]
  · simp [h, beq_eq_false_iff_ne.2 h]

/-- Text values under text keys. The keys ascend strictly (by code point, which is the byte order of
their UTF-8 form), so two maps with the same bindings are equal. -/
@[ext] structure TextMap where
  entries : List (String × String)
  ascending : entries.Pairwise (fun a b => a.1 < b.1)

namespace TextMap

instance : DecidableEq TextMap := fun m n =>
  decidable_of_iff (m.entries = n.entries) TextMap.ext_iff.symm

def empty : TextMap := ⟨[], List.Pairwise.nil⟩

instance : EmptyCollection TextMap := ⟨empty⟩
instance : Inhabited TextMap := ⟨empty⟩

/-- Binds `k` to `v` in an ascending list, in place of any earlier binding of `k`. -/
def insertEntry (k v : String) : List (String × String) → List (String × String)
  | [] => [(k, v)]
  | e :: es =>
    if k < e.1 then (k, v) :: e :: es
    else if k = e.1 then (k, v) :: es
    else e :: insertEntry k v es

theorem mem_insertEntry_key {k v : String} {a : String × String} :
    ∀ {es : List (String × String)}, a ∈ insertEntry k v es → a.1 = k ∨ a ∈ es
  | [], h => by simp only [insertEntry, List.mem_singleton] at h; simp [h]
  | e :: es, h => by
    unfold insertEntry at h
    split at h
    · rcases List.mem_cons.1 h with h | h
      · simp [h]
      · exact .inr h
    · split at h
      · rcases List.mem_cons.1 h with h | h
        · simp [h]
        · exact .inr (List.mem_cons_of_mem _ h)
      · rcases List.mem_cons.1 h with h | h
        · simp [h]
        · exact (mem_insertEntry_key h).imp id (List.mem_cons_of_mem _)

private theorem lt_of_not_lt_of_ne {a b : String} (h : ¬ a < b) (hne : a ≠ b) : b < a :=
  Classical.byContradiction fun hb => hne (String.le_antisymm (String.not_lt.1 hb) (String.not_lt.1 h))

theorem insertEntry_ascending (k v : String) : ∀ (es : List (String × String)),
    es.Pairwise (fun a b => a.1 < b.1) → (insertEntry k v es).Pairwise (fun a b => a.1 < b.1)
  | [], _ => by simp [insertEntry]
  | e :: es, h => by
    have hes := List.pairwise_cons.1 h
    unfold insertEntry
    split
    · next hk =>
      refine List.pairwise_cons.2 ⟨fun a ha => ?_, h⟩
      rcases List.mem_cons.1 ha with rfl | ha
      · exact hk
      · exact String.lt_trans hk (hes.1 a ha)
    · next hk =>
      split
      · next he => exact List.pairwise_cons.2 ⟨fun a ha => he ▸ hes.1 a ha, hes.2⟩
      · next he =>
        refine List.pairwise_cons.2 ⟨fun a ha => ?_, insertEntry_ascending k v es hes.2⟩
        rcases mem_insertEntry_key ha with rfl | ha
        · exact lt_of_not_lt_of_ne hk he
        · exact hes.1 a ha

/-- Binds `k` to `v`, in place of any earlier binding of `k`. -/
def insert (m : TextMap) (k v : String) : TextMap :=
  ⟨insertEntry k v m.entries, insertEntry_ascending k v m.entries m.ascending⟩

def get? (m : TextMap) (k : String) : Option String := m.entries.lookup k

def contains (m : TextMap) (k : String) : Bool := (m.get? k).isSome

def size (m : TextMap) : Nat := m.entries.length

def isEmpty (m : TextMap) : Bool := m.entries.isEmpty

def toList (m : TextMap) : List (String × String) := m.entries

/-- Adds every pair in turn, so a later binding of a key wins. -/
def insertAll (m : TextMap) (pairs : List (String × String)) : TextMap :=
  pairs.foldl (fun m p => m.insert p.1 p.2) m

/-- The map of a list of pairs; the last pair of a key wins. -/
def ofList (pairs : List (String × String)) : TextMap := empty.insertAll pairs

theorem lookup_insertEntry (k v q : String) : ∀ (es : List (String × String)),
    (insertEntry k v es).lookup q = if q = k then some v else es.lookup q
  | [] => by simp only [insertEntry, lookup_cons_eq_ite, List.lookup_nil]
  | e :: es => by
    unfold insertEntry
    split
    · simp only [lookup_cons_eq_ite]
    · split
      · next he => by_cases hq : q = k <;> simp [lookup_cons_eq_ite, hq, ← he]
      · next he =>
        simp only [lookup_cons_eq_ite, lookup_insertEntry k v q es]
        by_cases hq : q = k <;> simp [hq, he]

@[simp] theorem get?_empty (q : String) : get? empty q = none := rfl

@[simp] theorem get?_insert (m : TextMap) (k v q : String) :
    (m.insert k v).get? q = if q = k then some v else m.get? q :=
  lookup_insertEntry k v q m.entries

end TextMap
end NodeGroups
