import NodeGroups.Text.Split

namespace NodeGroups.Url

/-- The parts of an address as its separators cut it, whatever they hold. -/
structure Components where
  scheme : Option (List Char)
  authority : Option (List Char)
  path : List Char
  query : Option (List Char)
  fragment : Option (List Char)
  deriving DecidableEq

namespace Components

/-- Cuts off what follows the first `sep`, if it occurs. -/
def cutTail (sep : Char) (cs : List Char) : List Char × Option (List Char) :=
  match Text.cut sep cs with
  | none => (cs, none)
  | some (before, after) => (before, some after)

/-- Cuts an address: the fragment begins at the first hash sign, the query at the first question mark
before it, the path behind scheme and authority. -/
def ofChars (cs : List Char) : Components :=
  let (rest, fragment) := cutTail '#' cs
  let (rest, query) := cutTail '?' rest
  let (scheme, rest) := match Text.cut ':' rest with
    | none => (none, rest)
    | some (before, after) => if before.contains '/' then (none, rest) else (some before, after)
  match Text.stripPrefix? ['/', '/'] rest with
  | none => ⟨scheme, none, rest, query, fragment⟩
  | some body =>
    ⟨scheme, some (body.takeWhile (· ≠ '/')), body.dropWhile (· ≠ '/'), query, fragment⟩

/-- A part as it is written behind its separator, if there is one. -/
def tail (sep : Char) : Option (List Char) → List Char
  | none => []
  | some cs => sep :: cs

theorem cutTail_append_tail {sep : Char} {cs : List Char} (h : sep ∉ cs)
    (part : Option (List Char)) : cutTail sep (cs ++ tail sep part) = (cs, part) := by
  cases part with
  | none => rw [tail, List.append_nil, cutTail, Text.cut_of_not_mem h]
  | some rest => rw [tail, cutTail, Text.cut_append_sep h]

/-- Parts without the separators that follow them are told apart again. -/
theorem ofChars_append {scheme authority path : List Char} {query fragment : Option (List Char)}
    (hscheme : ∀ c ∈ scheme, c ≠ ':' ∧ c ≠ '/' ∧ c ≠ '?' ∧ c ≠ '#')
    (hauthority : ∀ c ∈ authority, c ≠ '/' ∧ c ≠ '?' ∧ c ≠ '#')
    (hpath : ∀ c ∈ path, c ≠ '?' ∧ c ≠ '#') (hroot : ∀ c ∈ path.head?, c = '/')
    (hquery : ∀ q ∈ query, '#' ∉ q) :
    ofChars (scheme ++ [':', '/', '/'] ++ authority ++ path ++ tail '?' query ++
      tail '#' fragment) = ⟨some scheme, some authority, path, query, fragment⟩ := by
  have hfront : ∀ c ∈ scheme ++ [':', '/', '/'] ++ authority ++ path, c ≠ '?' ∧ c ≠ '#' := by
    simp only [List.forall_mem_append]
    refine ⟨⟨⟨fun c hc => (hscheme c hc).2.2, by simp⟩, fun c hc => (hauthority c hc).2⟩, hpath⟩
  have hquestion : '?' ∉ scheme ++ [':', '/', '/'] ++ authority ++ path := fun hmem =>
    (hfront _ hmem).1 rfl
  have hhash : '#' ∉ scheme ++ [':', '/', '/'] ++ authority ++ path ++ tail '?' query := by
    rw [List.mem_append, not_or]
    refine ⟨fun hmem => (hfront _ hmem).2 rfl, ?_⟩
    cases query with
    | none => exact List.not_mem_nil
    | some q =>
      rw [tail, List.mem_cons, not_or]
      exact ⟨by decide, hquery q rfl⟩
  have hcolon : Text.cut ':' (scheme ++ [':', '/', '/'] ++ authority ++ path) =
      some (scheme, '/' :: '/' :: (authority ++ path)) := by
    have hcut := Text.cut_append_sep (fun hmem => (hscheme ':' hmem).1 rfl)
      ('/' :: '/' :: (authority ++ path))
    simpa using hcut
  have hslash : scheme.contains '/' = false := by
    rw [Bool.eq_false_iff, Ne, List.contains_iff_mem]
    exact fun hmem => (hscheme '/' hmem).2.1 rfl
  have hstrip : Text.stripPrefix? ['/', '/'] ('/' :: '/' :: (authority ++ path)) =
      some (authority ++ path) := Text.stripPrefix?_eq_some_iff.mpr rfl
  have hbody : (authority ++ path).takeWhile (· ≠ '/') = authority ∧
      (authority ++ path).dropWhile (· ≠ '/') = path := by
    have hall : ∀ c ∈ authority, decide (c ≠ '/') = true := fun c hc =>
      decide_eq_true (hauthority c hc).1
    rw [List.takeWhile_append_of_pos hall, List.dropWhile_append_of_pos hall]
    cases path with
    | nil => simp
    | cons c path =>
      obtain rfl : c = '/' := hroot c rfl
      simp
  rw [ofChars, cutTail_append_tail hhash]
  dsimp only
  rw [cutTail_append_tail hquestion]
  dsimp only
  rw [hcolon]
  dsimp only
  rw [hslash, if_neg Bool.false_ne_true]
  dsimp only
  rw [hstrip]
  dsimp only
  rw [hbody.1, hbody.2]

end Components
end NodeGroups.Url
