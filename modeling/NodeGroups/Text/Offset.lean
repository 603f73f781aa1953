import NodeGroups.Text.Utf8

/-!
Places in a text, counted in bytes of its UTF-8 form. Not every number of bytes is a place: it may
point into a character. What a search finds never does (`cutAt?_offset?`).
-/

namespace NodeGroups.Text

/-- How many bytes a text takes in UTF-8. -/
def byteLength (cs : List Char) : Nat := (Utf8.encode cs).length

/-- How many bytes stand in front of the first character that satisfies `p`. -/
def offset? (p : Char → Bool) : List Char → Option Nat
  | [] => none
  | c :: cs => if p c then some 0 else (offset? p cs).map (c.utf8Size + ·)

/-- The first `n` bytes of a text and what follows them. There is no cutting inside a character, or
behind the end. -/
def cutAt? : Nat → List Char → Option (List Char × List Char)
  | 0, cs => some ([], cs)
  | _ + 1, [] => none
  | n + 1, c :: cs =>
    if c.utf8Size ≤ n + 1 then (cutAt? (n + 1 - c.utf8Size) cs).map fun p => (c :: p.1, p.2)
    else none

@[simp] theorem byteLength_nil : byteLength [] = 0 := rfl

@[simp] theorem byteLength_cons (c : Char) (cs : List Char) :
    byteLength (c :: cs) = c.utf8Size + byteLength cs := by
  simp [byteLength, Utf8.encode]

theorem byteLength_eq_zero_iff {cs : List Char} : byteLength cs = 0 ↔ cs = [] := by
  cases cs with
  | nil => simp
  | cons c cs => simp [Nat.ne_of_gt c.utf8Size_pos]

/-- To cut off a character in front, cut the rest by as many bytes less. -/
theorem cutAt?_cons (c : Char) (cs : List Char) (n : Nat) :
    cutAt? (c.utf8Size + n) (c :: cs) = (cutAt? n cs).map fun p => (c :: p.1, p.2) := by
  have hpos : 0 < c.utf8Size := c.utf8Size_pos
  obtain ⟨m, hm⟩ : ∃ m, c.utf8Size + n = m + 1 := ⟨c.utf8Size + n - 1, by omega⟩
  have hrest : m + 1 - c.utf8Size = n := by omega
  rw [hm, cutAt?, if_pos (by omega), hrest]

theorem cutAt?_append (before after : List Char) :
    cutAt? (byteLength before) (before ++ after) = some (before, after) := by
  induction before with
  | nil => simp [cutAt?]
  | cons c before ih => simp [cutAt?_cons, ih]

/-- A text can be cut exactly where a part of it ends. -/
theorem cutAt?_eq_some_iff {n : Nat} {cs before after : List Char} :
    cutAt? n cs = some (before, after) ↔ cs = before ++ after ∧ byteLength before = n := by
  constructor
  · intro h
    fun_induction cutAt? n cs generalizing before with
    | case1 cs =>
      obtain ⟨rfl, rfl⟩ : [] = before ∧ cs = after := by simpa using h
      simp
    | case2 n => simp at h
    | case3 n c cs hsize ih =>
      obtain ⟨⟨first, rest⟩, hrest, hpair⟩ := Option.map_eq_some_iff.mp h
      obtain ⟨rfl, rfl⟩ : c :: first = before ∧ rest = after := by simpa using hpair
      obtain ⟨hcs, hlength⟩ := ih hrest
      refine ⟨by rw [hcs, List.cons_append], ?_⟩
      rw [byteLength_cons, hlength]
      omega
    | case4 n c cs hsize => simp at h
  · rintro ⟨rfl, rfl⟩
    exact cutAt?_append before after

/-- A text can be cut at its end. -/
theorem cutAt?_byteLength (cs : List Char) : cutAt? (byteLength cs) cs = some (cs, []) := by
  have h := cutAt?_append cs []
  rwa [List.append_nil] at h

theorem offset?_eq_none_iff {p : Char → Bool} {cs : List Char} :
    offset? p cs = none ↔ (cs.dropWhile fun c => !p c) = [] := by
  induction cs with
  | nil => simp [offset?]
  | cons c cs ih => cases hc : p c <;> simp [offset?, hc, ih]

/-- What a search finds is a place between two characters, and everything in front of it fails the
search. -/
theorem cutAt?_offset? {p : Char → Bool} {cs : List Char} {n : Nat} (h : offset? p cs = some n) :
    cutAt? n cs = some (cs.takeWhile fun c => !p c, cs.dropWhile fun c => !p c) := by
  induction cs generalizing n with
  | nil => simp [offset?] at h
  | cons c cs ih =>
    cases hc : p c with
    | true =>
      obtain rfl : 0 = n := by simpa [offset?, hc] using h
      simp [cutAt?, hc]
    | false =>
      obtain ⟨m, hm, rfl⟩ : ∃ m, offset? p cs = some m ∧ c.utf8Size + m = n := by
        simpa [offset?, hc] using h
      rw [cutAt?_cons, ih hm]
      simp [hc]

/-- The same, if a search that finds nothing is said to end at the end of the text. -/
theorem cutAt?_offset?_getD (p : Char → Bool) (cs : List Char) :
    cutAt? ((offset? p cs).getD (byteLength cs)) cs =
      some (cs.takeWhile fun c => !p c, cs.dropWhile fun c => !p c) := by
  cases h : offset? p cs with
  | some n => exact cutAt?_offset? h
  | none =>
    have hdrop : (cs.dropWhile fun c => !p c) = [] := offset?_eq_none_iff.mp h
    have htake : (cs.takeWhile fun c => !p c) = cs := by
      have happend := List.takeWhile_append_dropWhile (p := fun c => !p c) (l := cs)
      rwa [hdrop, List.append_nil] at happend
    rw [htake, hdrop]
    exact cutAt?_byteLength cs

/-- There is no place inside a character of two bytes. -/
example : cutAt? 1 ['µ', 's'] = none := rfl

end NodeGroups.Text
