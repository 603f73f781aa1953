namespace NodeGroups.Text

/-- The pieces of a text between the occurrences of `sep`: one more than there are separators. -/
def splitOn (sep : Char) : List Char → List (List Char)
  | [] => [[]]
  | c :: cs =>
    if c = sep then [] :: splitOn sep cs
    else match splitOn sep cs with
      | [] => [[c]]
      | p :: ps => (c :: p) :: ps

/-- The texts before and after the first occurrence of `sep`. -/
def cut (sep : Char) : List Char → Option (List Char × List Char)
  | [] => none
  | c :: cs => if c = sep then some ([], cs) else (cut sep cs).map fun p => (c :: p.1, p.2)

theorem splitOn_of_not_mem {sep : Char} {cs : List Char} (h : sep ∉ cs) : splitOn sep cs = [cs] := by
  induction cs with
  | nil => rfl
  | cons c cs ih =>
    rw [List.mem_cons, not_or] at h
    rw [splitOn, if_neg (Ne.symm h.1), ih h.2]

theorem splitOn_append_sep {sep : Char} {cs : List Char} (h : sep ∉ cs) (rest : List Char) :
    splitOn sep (cs ++ sep :: rest) = cs :: splitOn sep rest := by
  induction cs with
  | nil => rw [List.nil_append, splitOn, if_pos rfl]
  | cons c cs ih =>
    rw [List.mem_cons, not_or] at h
    rw [List.cons_append, splitOn, if_neg (Ne.symm h.1), ih h.2]

theorem sep_not_mem_of_mem_splitOn {sep : Char} {cs p : List Char} (h : p ∈ splitOn sep cs) : sep ∉ p := by
  induction cs generalizing p with
  | nil =>
    obtain rfl : p = [] := by simpa [splitOn] using h
    simp
  | cons c cs ih =>
    rw [splitOn] at h
    by_cases same : c = sep
    · rw [if_pos same] at h
      rcases List.mem_cons.mp h with rfl | hlater
      · simp
      · exact ih hlater
    · rw [if_neg same] at h
      cases hrest : splitOn sep cs with
      | nil =>
        obtain rfl : p = [c] := by simpa [hrest] using h
        simp [Ne.symm same]
      | cons q qs =>
        rw [hrest] at h ih
        rcases List.mem_cons.mp h with rfl | hlater
        · have hq : sep ∉ q := ih List.mem_cons_self
          simp [Ne.symm same, hq]
        · exact ih (List.mem_cons_of_mem q hlater)

/-- Nothing but separators is lost. -/
theorem mem_iff_of_ne_sep {sep c : Char} {cs : List Char} (hne : c ≠ sep) :
    c ∈ cs ↔ ∃ p ∈ splitOn sep cs, c ∈ p := by
  induction cs with
  | nil => simp [splitOn]
  | cons d cs ih =>
    rw [splitOn, List.mem_cons, ih]
    by_cases same : d = sep
    · simp [same, hne]
    · rw [if_neg same]
      cases splitOn sep cs with
      | nil => simp
      | cons q qs => simp [or_assoc]

theorem cut_of_not_mem {sep : Char} {cs : List Char} (h : sep ∉ cs) : cut sep cs = none := by
  induction cs with
  | nil => rfl
  | cons c cs ih =>
    rw [List.mem_cons, not_or] at h
    rw [cut, if_neg (Ne.symm h.1), ih h.2]
    rfl

theorem cut_append_sep {sep : Char} {cs : List Char} (h : sep ∉ cs) (rest : List Char) :
    cut sep (cs ++ sep :: rest) = some (cs, rest) := by
  induction cs with
  | nil => rw [List.nil_append, cut, if_pos rfl]
  | cons c cs ih =>
    rw [List.mem_cons, not_or] at h
    rw [List.cons_append, cut, if_neg (Ne.symm h.1), ih h.2]
    rfl

/-- Texts without a separator are the same if they are when the separator and something else follows. -/
theorem eq_of_append_sep {sep : Char} {cs cs' later later' : List Char} (h : sep ∉ cs) (h' : sep ∉ cs')
    (same : cs ++ sep :: later = cs' ++ sep :: later') : cs = cs' ∧ later = later' := by
  have hcut := cut_append_sep h later
  rw [same, cut_append_sep h' later'] at hcut
  simpa [eq_comm] using hcut

theorem cut_eq_none_iff {sep : Char} {cs : List Char} : cut sep cs = none ↔ sep ∉ cs := by
  constructor
  · intro h hmem
    obtain ⟨before, after, rfl, hnone⟩ := List.eq_append_cons_of_mem hmem
    rw [cut_append_sep hnone] at h
    cases h
  · exact cut_of_not_mem

theorem cut_eq_some_iff {sep : Char} {cs before after : List Char} :
    cut sep cs = some (before, after) ↔ cs = before ++ sep :: after ∧ sep ∉ before := by
  constructor
  · intro h
    induction cs generalizing before with
    | nil => simp [cut] at h
    | cons c cs ih =>
      by_cases same : c = sep
      · obtain ⟨rfl, rfl⟩ : [] = before ∧ cs = after := by simpa [cut, same] using h
        simp [same]
      · rw [cut, if_neg same] at h
        obtain ⟨⟨first, rest⟩, hcut, hpair⟩ := Option.map_eq_some_iff.mp h
        obtain ⟨rfl, rfl⟩ : c :: first = before ∧ rest = after := by simpa using hpair
        obtain ⟨rfl, hnone⟩ := ih hcut
        simp [Ne.symm same, hnone]
  · rintro ⟨rfl, hnone⟩
    exact cut_append_sep hnone after

/-- What follows `start` in a text that begins with it. -/
def stripPrefix? : List Char → List Char → Option (List Char)
  | [], cs => some cs
  | _ :: _, [] => none
  | p :: ps, c :: cs => if p = c then stripPrefix? ps cs else none

theorem stripPrefix?_eq_some_iff {start cs rest : List Char} :
    stripPrefix? start cs = some rest ↔ cs = start ++ rest := by
  induction start generalizing cs with
  | nil => simp [stripPrefix?]
  | cons p ps ih =>
    cases cs with
    | nil => simp [stripPrefix?]
    | cons c cs =>
      by_cases h : p = c
      · simp [stripPrefix?, h, ih]
      · simp [stripPrefix?, h, Ne.symm h]

/-- The pieces of `s` between the occurrences of `sep`. -/
def pieces (sep : Char) (s : String) : List String := (splitOn sep s.toList).map String.ofList

/-- What stands in `s` before and after the first occurrence of `sep`. -/
def splitOnce? (sep : Char) (s : String) : Option (String × String) :=
  (cut sep s.toList).map fun p => (String.ofList p.1, String.ofList p.2)

/-- What follows `start` in `s`, when `s` begins with it. -/
def dropStart? (start s : String) : Option String :=
  (stripPrefix? start.toList s.toList).map String.ofList

def occursIn (part : List Char) : List Char → Bool
  | [] => part.isEmpty
  | c :: cs => part.isPrefixOf (c :: cs) || occursIn part cs

end NodeGroups.Text
