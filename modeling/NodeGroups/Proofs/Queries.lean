import NodeGroups.Proofs.Maps
import NodeGroups.Request.Query

namespace NodeGroups

theorem Text.splitOn_eq (sep : Char) (cs : List Char) : splitOn sep cs = cs.splitOn sep := by
  induction cs with
  | nil => rw [splitOn, List.splitOn_nil]
  | cons c cs ih =>
    rw [splitOn, List.splitOn_cons_eq_if_modifyHead, ih]
    by_cases same : c = sep
    · rw [if_pos same, if_pos (beq_iff_eq.mpr same)]
    · rw [if_neg same, if_neg (by simpa using same)]
      cases hrest : cs.splitOn sep with
      | nil => exact absurd hrest (List.splitOn_ne_nil sep cs)
      | cons p ps => rw [List.modifyHead_cons]

namespace Query

/-- A list that was taken apart at its commas is sent as it was written. -/
theorem joined?_pieces (s : String) : joined? (Text.pieces ',' s) = some s := by
  have hsplit : (Text.pieces ',' s).map String.toList = s.toList.splitOn ',' := by
    rw [Text.pieces, Text.splitOn_eq, List.map_map]
    simp
  have hne : (Text.pieces ',' s).isEmpty = false := by
    rw [List.isEmpty_eq_false_iff]
    intro hnil
    rw [hnil] at hsplit
    exact List.splitOn_ne_nil ',' s.toList hsplit.symm
  have hjoined : String.intercalate "," (Text.pieces ',' s) = s := by
    rw [← String.toList_inj, String.toList_intercalate, hsplit]
    exact List.intercalate_splitOn ','
  rw [joined?, hne, hjoined]
  simp

theorem get?_setOptional (q : Query) (key : String) (value : Option String) (k : String) :
    (q.setOptional key value).get? k = if k = key then value.or (q.get? k) else q.get? k := by
  cases value with
  | none => simp [setOptional]
  | some v => simp [setOptional]

/-- Of parameters with different names a query holds those that are set, and nothing else. -/
theorem get?_ofParams {params : List (String × Option String)}
    (h : params.Pairwise fun a b => a.1 ≠ b.1) (k : String) :
    (ofParams params).get? k = (params.lookup k).join := by
  have hfold : ∀ q : Query, (params.foldl (fun q p => q.setOptional p.1 p.2) q).get? k =
      (params.lookup k).join.or (q.get? k) := by
    induction params with
    | nil => simp
    | cons p params ih =>
      intro q
      obtain ⟨hfirst, hrest⟩ := List.pairwise_cons.mp h
      rw [List.foldl_cons, ih hrest, get?_setOptional, lookup_cons_eq_ite]
      by_cases same : k = p.1
      · have habsent : params.lookup k = none := by
          rw [List.lookup_eq_none_iff]
          intro e he
          rw [same]
          simpa using hfirst e he
        rw [habsent, if_pos same, if_pos same]
        rfl
      · rw [if_neg same, if_neg same]
  rw [ofParams, hfold, TextMap.get?_empty, Option.or_none]

end Query
end NodeGroups
