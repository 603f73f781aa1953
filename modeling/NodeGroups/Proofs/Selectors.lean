import Mathlib.Data.List.Basic
import NodeGroups.Proofs.Queries
import NodeGroups.Settings.Selector

/-!
What a selector is read from: `label:` and then items `key=value` between commas. A spec is checked first
and its pairs are taken from it afterwards, in a way of its own that passes over what it does not
understand. In a spec that was found valid there is nothing of that kind, so that every pair that is
written is found.
-/

namespace NodeGroups

namespace Text

/-- The pieces of a text are the texts without separators that it is put together from. -/
theorem pieces_eq_iff {sep : Char} {s : String} {ps : List String} : pieces sep s = ps ↔
    ps ≠ [] ∧ (∀ p ∈ ps, sep ∉ p.toList) ∧ [sep].intercalate (ps.map String.toList) = s.toList := by
  have hlists : pieces sep s = ps ↔ splitOn sep s.toList = ps.map String.toList := by
    constructor
    · rintro rfl
      simp [pieces]
    · intro h
      rw [pieces, h]
      simp
  rw [hlists]
  constructor
  · intro h
    refine ⟨?_, ?_, ?_⟩
    · rintro rfl
      rw [splitOn_eq] at h
      exact List.splitOn_ne_nil sep s.toList h
    · intro p hp
      exact sep_not_mem_of_mem_splitOn (h ▸ List.mem_map_of_mem hp)
    · rw [← h, splitOn_eq]
      exact List.intercalate_splitOn sep
  · intro h
    obtain ⟨hne, hsep, hs⟩ := h
    rw [← hs, splitOn_eq]
    apply List.splitOn_intercalate
    · intro l hl
      obtain ⟨p, hp, rfl⟩ := List.mem_map.mp hl
      exact hsep p hp
    · simpa using hne

theorem mem_pieces_iff (sep : Char) {c : Char} {s : String} (hne : c ≠ sep) :
    c ∈ s.toList ↔ ∃ p ∈ pieces sep s, c ∈ p.toList := by
  rw [mem_iff_of_ne_sep hne, pieces]
  constructor
  · rintro ⟨p, hp, hc⟩
    exact ⟨String.ofList p, List.mem_map_of_mem hp, by simpa using hc⟩
  · rintro ⟨p, hp, hc⟩
    obtain ⟨cs, hcs, rfl⟩ := List.mem_map.mp hp
    exact ⟨cs, hcs, by simpa using hc⟩

theorem pieces_eq_pair_iff {sep : Char} {s k v : String} : pieces sep s = [k, v] ↔
    sep ∉ k.toList ∧ sep ∉ v.toList ∧ s.toList = k.toList ++ sep :: v.toList := by
  have hjoined : [sep].intercalate ([k, v].map String.toList) = k.toList ++ sep :: v.toList := by
    simp [List.intercalate]
  rw [pieces_eq_iff, hjoined, eq_comm (a := s.toList)]
  simp [and_assoc]

theorem splitOnce?_of_not_mem {sep : Char} {s k v : String} (hk : sep ∉ k.toList)
    (hs : s.toList = k.toList ++ sep :: v.toList) : splitOnce? sep s = some (k, v) := by
  simp [splitOnce?, hs, cut_append_sep hk]

end Text

namespace LabelSelector

/-- A text that may stand in a spec as a key or as a value. -/
structure Plain (t : String) : Prop where
  nonempty : t ≠ ""
  colon : ':' ∉ t.toList
  comma : ',' ∉ t.toList
  equals : '=' ∉ t.toList

instance (t : String) : Decidable (Plain t) :=
  decidable_of_iff (t ≠ "" ∧ ':' ∉ t.toList ∧ ',' ∉ t.toList ∧ '=' ∉ t.toList)
    ⟨fun ⟨h₁, h₂, h₃, h₄⟩ => ⟨h₁, h₂, h₃, h₄⟩, fun ⟨h₁, h₂, h₃, h₄⟩ => ⟨h₁, h₂, h₃, h₄⟩⟩

/-- A pair as it is written in a spec. -/
def item (p : String × String) : String := p.1 ++ "=" ++ p.2

/-- The spec in which these pairs are written. -/
def written (ps : List (String × String)) : String := "label:" ++ String.intercalate "," (ps.map item)

/-- The spec is well formed, and these are the pairs that are written in it. -/
structure Writes (spec : String) (ps : List (String × String)) : Prop where
  nonempty : ps ≠ []
  plain : ∀ p ∈ ps, Plain p.1 ∧ Plain p.2
  spec_eq : spec = written ps

theorem item_toList (p : String × String) : (item p).toList = p.1.toList ++ '=' :: p.2.toList := by
  simp [item]

theorem checkItem_eq_ok_iff {text : String} : checkItem text = .ok () ↔
    ∃ p, p.1 ≠ "" ∧ p.2 ≠ "" ∧ '=' ∉ p.1.toList ∧ '=' ∉ p.2.toList ∧ text = item p := by
  have hpieces (p : String × String) : Text.pieces '=' text = [p.1, p.2] ↔
      '=' ∉ p.1.toList ∧ '=' ∉ p.2.toList ∧ text = item p := by
    rw [Text.pieces_eq_pair_iff, ← item_toList, String.toList_inj]
  simp only [← hpieces]
  unfold checkItem
  constructor
  · intro h
    split at h
    · next k v hkv =>
      by_cases hempty : (k.isEmpty || v.isEmpty) = true
      · rw [if_pos hempty] at h
        cases h
      · have hne : k ≠ "" ∧ v ≠ "" := by simpa using hempty
        exact ⟨(k, v), hne.1, hne.2, hkv⟩
    · cases h
  · rintro ⟨⟨k, v⟩, hk, hv, hkv⟩
    simp [hkv, hk, hv]

theorem forM_eq_ok_iff {ε α : Type} {f : α → Except ε Unit} {items : List α} :
    items.forM f = .ok () ↔ ∀ a ∈ items, f a = .ok () := by
  induction items with
  | nil => simp [List.forM, pure, Except.pure]
  | cons a items ih =>
    cases ha : f a with
    | error e => simp [List.forM, ha, bind, Except.bind]
    | ok u => simpa [List.forM, ha, bind, Except.bind] using ih

theorem validate_eq_ok_iff {spec : String} : validate spec = .ok () ↔
    ∃ body, ':' ∉ body.toList ∧ spec.toList = "label".toList ++ ':' :: body.toList ∧
      ∀ text ∈ Text.pieces ',' body, checkItem text = .ok () := by
  have hlabel : ':' ∉ "label".toList := by decide
  unfold validate
  constructor
  · intro h
    split at h
    · next discoverer body hspec =>
      by_cases hdiscoverer : discoverer = "label"
      · subst hdiscoverer
        obtain ⟨-, hbody, hspec⟩ := Text.pieces_eq_pair_iff.mp hspec
        rw [if_pos rfl] at h
        exact ⟨body, hbody, hspec, forM_eq_ok_iff.mp h⟩
      · rw [if_neg hdiscoverer] at h
        cases h
    · cases h
  · rintro ⟨body, hbody, hspec, hitems⟩
    rw [Text.pieces_eq_pair_iff.mpr ⟨hlabel, hbody, hspec⟩]
    simpa using forM_eq_ok_iff.mpr hitems

/-- The pairs of a spec are looked for behind the first colon. -/
theorem pairs_of_body {spec body : String}
    (h : spec.toList = "label".toList ++ ':' :: body.toList) :
    pairs spec = (Text.pieces ',' body).filterMap (Text.splitOnce? '=') := by
  have hbody : Text.splitOnce? ':' spec = some ("label", body) :=
    Text.splitOnce?_of_not_mem (by decide) h
  rw [pairs, hbody]
  rfl

theorem splitOnce?_item {p : String × String} (h : '=' ∉ p.1.toList) :
    Text.splitOnce? '=' (item p) = some p :=
  Text.splitOnce?_of_not_mem h (item_toList p)

/-- No item that passes the check is passed over. -/
theorem map_item_filterMap {items : List String} (h : ∀ text ∈ items, checkItem text = .ok ()) :
    (items.filterMap (Text.splitOnce? '=')).map item = items := by
  induction items with
  | nil => rfl
  | cons text items ih =>
    obtain ⟨p, -, -, hp, -, rfl⟩ := checkItem_eq_ok_iff.mp (h text List.mem_cons_self)
    rw [List.filterMap_cons_some (splitOnce?_item hp), List.map_cons,
      ih fun later hlater => h later (List.mem_cons_of_mem _ hlater)]

theorem written_toList (ps : List (String × String)) : (written ps).toList =
    "label".toList ++ ':' :: (String.intercalate "," (ps.map item)).toList := by
  unfold written
  rw [String.toList_append]
  simp

/-- The pair of an item that passes the check is the one that is written there. -/
theorem item_of_mem_filterMap {items : List String} (h : ∀ text ∈ items, checkItem text = .ok ())
    {p : String × String} (hp : p ∈ items.filterMap (Text.splitOnce? '=')) :
    item p ∈ items ∧ p.1 ≠ "" ∧ p.2 ≠ "" ∧ '=' ∉ p.1.toList ∧ '=' ∉ p.2.toList := by
  obtain ⟨text, htext, hsplit⟩ := List.mem_filterMap.mp hp
  obtain ⟨q, hk, hv, hkEq, hvEq, rfl⟩ := checkItem_eq_ok_iff.mp (h text htext)
  rw [splitOnce?_item hkEq, Option.some.injEq] at hsplit
  subst hsplit
  exact ⟨htext, hk, hv, hkEq, hvEq⟩

theorem not_mem_of_not_mem_item {c : Char} {p : String × String} (h : c ∉ (item p).toList) :
    c ∉ p.1.toList ∧ c ∉ p.2.toList := by
  rw [item_toList, List.mem_append, List.mem_cons, not_or, not_or] at h
  exact ⟨h.1, h.2.2⟩

/-- A spec that passes the check is well formed, and its pairs are found. -/
theorem writes_of_validate {spec : String} (h : validate spec = .ok ()) : Writes spec (pairs spec) := by
  obtain ⟨body, hcolon, hspec, hitems⟩ := validate_eq_ok_iff.mp h
  have hpairs := pairs_of_body hspec
  have hmap : (pairs spec).map item = Text.pieces ',' body := by
    rw [hpairs]
    exact map_item_filterMap hitems
  obtain ⟨hne, hcomma, hbody⟩ := Text.pieces_eq_iff.mp hmap.symm
  constructor
  case nonempty => simpa using hne
  case plain =>
    intro p hp
    rw [hpairs] at hp
    obtain ⟨hitem, hk, hv, hkEq, hvEq⟩ := item_of_mem_filterMap hitems hp
    have hnoColon : ':' ∉ (item p).toList := by
      intro hc
      exact hcolon ((Text.mem_pieces_iff ',' (by decide)).mpr ⟨item p, hitem, hc⟩)
    have hnoComma : ',' ∉ (item p).toList := hcomma (item p) (hmap ▸ hitem)
    obtain ⟨hkColon, hvColon⟩ := not_mem_of_not_mem_item hnoColon
    obtain ⟨hkComma, hvComma⟩ := not_mem_of_not_mem_item hnoComma
    exact ⟨⟨hk, hkColon, hkComma, hkEq⟩, hv, hvColon, hvComma, hvEq⟩
  case spec_eq =>
    have hjoined : (String.intercalate "," ((pairs spec).map item)).toList = body.toList := by
      rw [String.toList_intercalate]
      exact hbody
    rw [← String.toList_inj, hspec, written_toList, hjoined]

/-- A well-formed spec passes the check, and no pair is lost. -/
theorem validate_of_writes {spec : String} {ps : List (String × String)} (h : Writes spec ps) :
    validate spec = .ok () ∧ pairs spec = ps := by
  obtain ⟨hne, hplain, rfl⟩ := h
  let body := String.intercalate "," (ps.map item)
  have hspec : (written ps).toList = "label".toList ++ ':' :: body.toList := written_toList ps
  have hnone {c : Char} (hc : c ≠ '=') (hplain : ∀ p ∈ ps, c ∉ p.1.toList ∧ c ∉ p.2.toList) :
      ∀ text ∈ ps.map item, c ∉ text.toList := by
    intro text htext
    obtain ⟨p, hp, rfl⟩ := List.mem_map.mp htext
    rw [item_toList]
    simp [hc, hplain p hp]
  have hpieces : Text.pieces ',' body = ps.map item := by
    rw [Text.pieces_eq_iff]
    refine ⟨by simpa using hne, ?_, ?_⟩
    · exact hnone (by decide) fun p hp => ⟨(hplain p hp).1.comma, (hplain p hp).2.comma⟩
    · exact (String.toList_intercalate (s := ",") (l := ps.map item)).symm
  constructor
  · rw [validate_eq_ok_iff]
    refine ⟨body, ?_, hspec, ?_⟩
    · rw [Text.mem_pieces_iff ',' (by decide), hpieces]
      rintro ⟨text, htext, hc⟩
      exact hnone (by decide) (fun p hp => ⟨(hplain p hp).1.colon, (hplain p hp).2.colon⟩) text htext hc
    · rw [hpieces]
      intro text htext
      obtain ⟨p, hp, rfl⟩ := List.mem_map.mp htext
      obtain ⟨hk, hv⟩ := hplain p hp
      exact checkItem_eq_ok_iff.mpr ⟨p, hk.nonempty, hv.nonempty, hk.equals, hv.equals, rfl⟩
  · rw [pairs_of_body hspec, hpieces, List.filterMap_map]
    have hfound : ∀ p ∈ ps, (Text.splitOnce? '=' ∘ item) p = some p := fun p hp =>
      splitOnce?_item (hplain p hp).1.equals
    rw [List.filterMap_congr hfound, List.filterMap_some]

/-- What is accepted is well formed, and what is well formed is accepted, with the pairs as written. -/
theorem parse_eq_ok_iff {spec : String} {s : LabelSelector} :
    parse spec = .ok s ↔ ∃ ps, Writes spec ps ∧ s = ⟨.ofList ps⟩ := by
  unfold parse
  constructor
  · intro h
    cases hvalid : validate spec with
    | error e =>
      rw [hvalid] at h
      cases h
    | ok u =>
      rw [hvalid] at h
      cases h
      exact ⟨pairs spec, writes_of_validate hvalid, rfl⟩
  · rintro ⟨ps, hps, rfl⟩
    obtain ⟨hvalid, hpairs⟩ := validate_of_writes hps
    rw [hvalid, hpairs]
    rfl

/-- The specs that are accepted are the well-formed ones, and none of their pairs is lost: all are found, and
if no key is written twice the selector wants exactly them. Every map of plain texts can be written, with
its pairs in any order, and is read back. -/
theorem parse_reads_written :
    (∀ spec, (∃ s, parse spec = .ok s) ↔ ∃ ps, Writes spec ps) ∧
    (∀ spec ps, Writes spec ps → pairs spec = ps ∧ parse spec = .ok ⟨.ofList ps⟩ ∧
      ((ps.map Prod.fst).Nodup → (TextMap.ofList ps).toList.Perm ps)) ∧
    ∀ (m : TextMap) (ps : List (String × String)), m.toList ≠ [] →
      (∀ p ∈ m.toList, Plain p.1 ∧ Plain p.2) → ps.Perm m.toList → parse (written ps) = .ok ⟨m⟩ := by
  refine ⟨fun spec => ?_, fun spec ps hps => ?_, fun m ps hne hplain hperm => ?_⟩
  · constructor
    · rintro ⟨s, hs⟩
      obtain ⟨ps, hps, -⟩ := parse_eq_ok_iff.mp hs
      exact ⟨ps, hps⟩
    · rintro ⟨ps, hps⟩
      exact ⟨_, parse_eq_ok_iff.mpr ⟨ps, hps, rfl⟩⟩
  · refine ⟨(validate_of_writes hps).2, parse_eq_ok_iff.mpr ⟨ps, hps, rfl⟩, fun hnodup => ?_⟩
    exact TextMap.ofList_perm (List.pairwise_map.mp hnodup)
  · have hwrites : Writes (written ps) ps := by
      refine ⟨?_, fun p hp => hplain p (hperm.mem_iff.mp hp), rfl⟩
      rintro rfl
      exact hne hperm.symm.eq_nil
    rw [parse_eq_ok_iff]
    exact ⟨ps, hwrites, by rw [TextMap.ofList_of_perm hperm]⟩

def webTier : TextMap := .ofList [("cluster", "prod"), ("tier", "web")]

/-- The pairs of a map, written in another order than the map has them in. -/
theorem parse_reads_written_of_webTier :
    webTier.toList ≠ [] ∧ (∀ p ∈ webTier.toList, Plain p.1 ∧ Plain p.2) ∧
      parse (written [("tier", "web"), ("cluster", "prod")]) = .ok ⟨webTier⟩ := by
  have hne : webTier.toList ≠ [] := by decide
  have hplain : ∀ p ∈ webTier.toList, Plain p.1 ∧ Plain p.2 := by decide
  have hperm : [("tier", "web"), ("cluster", "prod")].Perm webTier.toList := by decide
  exact ⟨hne, hplain, parse_reads_written.2.2 webTier _ hne hplain hperm⟩

/-- A spec can be read in one way only. -/
theorem Writes.unique {spec : String} {ps ps' : List (String × String)} (h : Writes spec ps)
    (h' : Writes spec ps') : ps = ps' := by
  rw [← (validate_of_writes h).2, (validate_of_writes h').2]

/-- The metadata has all of these pairs. -/
def Carries (metadata : TextMap) (ps : List (String × String)) : Prop :=
  ∀ p ∈ ps, metadata.get? p.1 = some p.2

instance (metadata : TextMap) (ps : List (String × String)) : Decidable (Carries metadata ps) :=
  inferInstanceAs (Decidable (∀ p ∈ ps, metadata.get? p.1 = some p.2))

/-- A selector that wants no empty values accepts what has all of its pairs. -/
theorem accepts_iff_carries {s : LabelSelector} (hvalues : ∀ p ∈ s.wanted.toList, p.2 ≠ "")
    {metadata : TextMap} : s.accepts metadata = true ↔ Carries metadata s.wanted.toList := by
  rw [accepts, List.all_eq_true]
  refine forall₂_congr fun p hp => ?_
  cases hget : metadata.get? p.1 with
  | none => simp
  | some v => simp [hvalues p hp]

theorem carries_ofList_iff {metadata : TextMap} {ps : List (String × String)} :
    Carries metadata (TextMap.ofList ps).toList ↔
      ∀ p, TextMap.IsLast ps p → metadata.get? p.1 = some p.2 := by
  simp only [Carries, TextMap.mem_ofList_iff]

/-- The map of some pairs has those of them that are the last of their key. -/
theorem carries_ofList_self_iff {ps ps' : List (String × String)} :
    Carries (TextMap.ofList ps) ps' ↔ ∀ p ∈ ps', TextMap.IsLast ps p := by
  refine forall₂_congr fun p _ => ?_
  rw [← TextMap.mem_ofList_iff, TextMap.mem_toList_iff (k := p.1) (v := p.2)]

variable {spec : String} {s : LabelSelector} {ps : List (String × String)}

theorem accepts_iff_last (hs : parse spec = .ok s) (hps : Writes spec ps) (metadata : TextMap) :
    s.accepts metadata = true ↔ ∀ p, TextMap.IsLast ps p → metadata.get? p.1 = some p.2 := by
  obtain ⟨ps', hps', rfl⟩ := parse_eq_ok_iff.mp hs
  obtain rfl := hps'.unique hps
  have hvalues : ∀ p ∈ (TextMap.ofList ps').toList, p.2 ≠ "" := fun p hp =>
    (hps'.plain p (TextMap.mem_ofList_iff.mp hp).mem).2.nonempty
  rw [accepts_iff_carries (s := ⟨.ofList ps'⟩) hvalues, carries_ofList_iff]

/-- All pairs are the last of their keys if no key is written with two values. -/
theorem forall_isLast_iff :
    (∀ p ∈ ps, TextMap.IsLast ps p) ↔ ∀ p ∈ ps, ∀ q ∈ ps, p.1 = q.1 → p.2 = q.2 := by
  constructor
  · intro h p hp q hq same
    have hget {r : String × String} (hr : r ∈ ps) : (TextMap.ofList ps).get? r.1 = some r.2 :=
      TextMap.mem_toList_iff.mp (TextMap.mem_ofList_iff.mpr (h r hr))
    have hvalue := hget hp
    rw [same, hget hq, Option.some.injEq] at hvalue
    exact hvalue.symm
  · intro h p hp
    obtain ⟨q, hlast, same⟩ := TextMap.exists_isLast hp
    have hvalue : q.2 = p.2 := h q hlast.mem p hp same
    rwa [Prod.ext same hvalue] at hlast

theorem anyAccepts_iff {specs : List String} {selectors : List LabelSelector}
    (h : List.Forall₂ (fun spec s => parse spec = .ok s) specs selectors) (metadata : TextMap) :
    anyAccepts selectors metadata = true ↔ ∃ spec ∈ specs, ∃ ps, Writes spec ps ∧
      ∀ p, TextMap.IsLast ps p → metadata.get? p.1 = some p.2 := by
  induction h with
  | nil => simp [anyAccepts]
  | @cons spec s specs selectors hs rest ih =>
    obtain ⟨ps, hps, -⟩ := parse_eq_ok_iff.mp hs
    have hfirst : (∃ ps, Writes spec ps ∧ ∀ p, TextMap.IsLast ps p → metadata.get? p.1 = some p.2) ↔
        s.accepts metadata = true := by
      rw [accepts_iff_last hs hps]
      constructor
      · rintro ⟨ps', hps', hlast⟩
        rwa [hps'.unique hps] at hlast
      · intro hlast
        exact ⟨ps, hps, hlast⟩
    rw [anyAccepts] at ih ⊢
    rw [List.any_cons, Bool.or_eq_true, ih, List.exists_mem_cons_iff, hfirst]

/-- A selector wants of every key that is written the last value. It wants all pairs of its spec, as it
should, exactly if no key is written with two values; and a list of selectors lets pass what has all pairs
of one of the specs, and nothing else, exactly if for every spec there is one whose pairs are all among
the last ones of that spec. -/
theorem accepts_lastPairs (spec : String) (specs : List String) :
    (∀ s ps, parse spec = .ok s → Writes spec ps →
      (∀ metadata, s.accepts metadata = true ↔
        ∀ p, TextMap.IsLast ps p → metadata.get? p.1 = some p.2) ∧
      ((∀ metadata, s.accepts metadata = true ↔ Carries metadata ps) ↔
        ∀ p ∈ ps, ∀ q ∈ ps, p.1 = q.1 → p.2 = q.2)) ∧
    ∀ selectors, List.Forall₂ (fun spec s => parse spec = .ok s) specs selectors →
      (∀ metadata, anyAccepts selectors metadata = true ↔ ∃ spec ∈ specs, ∃ ps, Writes spec ps ∧
        ∀ p, TextMap.IsLast ps p → metadata.get? p.1 = some p.2) ∧
      ((∀ metadata, anyAccepts selectors metadata = true ↔
          ∃ spec ∈ specs, ∃ ps, Writes spec ps ∧ Carries metadata ps) ↔
        ∀ spec ∈ specs, ∀ ps, Writes spec ps → ∃ spec' ∈ specs, ∃ ps', Writes spec' ps' ∧
          ∀ p ∈ ps', TextMap.IsLast ps p) := by
  constructor
  · intro s ps hs hps
    refine ⟨accepts_iff_last hs hps, ?_⟩
    simp only [accepts_iff_last hs hps]
    constructor
    · intro h
      rw [← forall_isLast_iff, ← carries_ofList_self_iff, ← h, ← carries_ofList_iff,
        carries_ofList_self_iff]
      exact fun p hp => TextMap.mem_ofList_iff.mp hp
    · intro hsingle metadata
      have hlast := forall_isLast_iff.mpr hsingle
      exact ⟨fun h p hp => h p (hlast p hp), fun h p hp => h p hp.mem⟩
  · intro selectors h
    refine ⟨anyAccepts_iff h, ?_⟩
    simp only [anyAccepts_iff h]
    constructor
    · intro hall spec hspec ps hps
      have hself : ∀ p, TextMap.IsLast ps p → (TextMap.ofList ps).get? p.1 = some p.2 := fun p hp =>
        TextMap.mem_toList_iff.mp (TextMap.mem_ofList_iff.mpr hp)
      obtain ⟨spec', hspec', ps', hps', hcarries⟩ := (hall (.ofList ps)).mp ⟨spec, hspec, ps, hps, hself⟩
      exact ⟨spec', hspec', ps', hps', carries_ofList_self_iff.mp hcarries⟩
    · intro hcover metadata
      constructor
      · rintro ⟨spec, hspec, ps, hps, hlast⟩
        obtain ⟨spec', hspec', ps', hps', hamong⟩ := hcover spec hspec ps hps
        exact ⟨spec', hspec', ps', hps', fun p hp => hlast p (hamong p hp)⟩
      · rintro ⟨spec, hspec, ps, hps, hcarries⟩
        exact ⟨spec, hspec, ps, hps, fun p hp => hcarries p hp.mem⟩

/-- Where a key is written with two values, the first of them is not asked for. Another spec in the list
does not help, as it wants something else. -/
theorem accepts_lastPairs_of_twoValues :
    ∃ s s', List.Forall₂ (fun spec s => parse spec = .ok s) ["label:a=b,a=c", "label:tier=web"] [s, s'] ∧
      anyAccepts [s, s'] (.ofList [("a", "c")]) = true ∧
      ¬ ∀ metadata, anyAccepts [s, s'] metadata = true ↔
        ∃ spec ∈ ["label:a=b,a=c", "label:tier=web"], ∃ ps, Writes spec ps ∧ Carries metadata ps := by
  have htwo : Writes "label:a=b,a=c" [("a", "b"), ("a", "c")] := ⟨by decide, by decide, by decide⟩
  have htier : Writes "label:tier=web" [("tier", "web")] := ⟨by decide, by decide, by decide⟩
  have hparsed : List.Forall₂ (fun spec s => parse spec = .ok s) ["label:a=b,a=c", "label:tier=web"]
      [⟨.ofList [("a", "b"), ("a", "c")]⟩, ⟨.ofList [("tier", "web")]⟩] :=
    .cons (parse_eq_ok_iff.mpr ⟨_, htwo, rfl⟩) (.cons (parse_eq_ok_iff.mpr ⟨_, htier, rfl⟩) .nil)
  obtain ⟨-, hexact⟩ := (accepts_lastPairs "label:a=b,a=c" _).2 _ hparsed
  refine ⟨_, _, hparsed, by decide, fun hall => ?_⟩
  obtain ⟨spec, hspec, ps, hps, hamong⟩ := hexact.mp hall _ List.mem_cons_self _ htwo
  have hlast (p : String × String) (hp : p ∈ ps) : p ∈ (TextMap.ofList [("a", "b"), ("a", "c")]).toList :=
    TextMap.mem_ofList_iff.mpr (hamong p hp)
  rcases List.mem_cons.mp hspec with rfl | hspec
  · obtain rfl := hps.unique htwo
    exact absurd (hlast ("a", "b") (by decide)) (by decide)
  · obtain rfl := List.mem_singleton.mp hspec
    obtain rfl := hps.unique htier
    exact absurd (hlast ("tier", "web") (by decide)) (by decide)

/-- The metadata is accepted without one of the pairs that are written in the spec. -/
theorem accepts_without_pair :
    ∃ s, parse "label:a=b,a=c" = .ok s ∧ Writes "label:a=b,a=c" [("a", "b"), ("a", "c")] ∧
      s.accepts (.ofList [("a", "c")]) = true ∧
      ¬ Carries (.ofList [("a", "c")]) [("a", "b"), ("a", "c")] := by
  have htwo : Writes "label:a=b,a=c" [("a", "b"), ("a", "c")] := ⟨by decide, by decide, by decide⟩
  exact ⟨_, parse_eq_ok_iff.mpr ⟨_, htwo, rfl⟩, htwo, by decide, by decide⟩

end LabelSelector
end NodeGroups
