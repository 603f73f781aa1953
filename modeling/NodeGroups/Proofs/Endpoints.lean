import Mathlib.Data.List.DropRight
import NodeGroups.Proofs.Signatures
import NodeGroups.Proofs.Url.Addresses

namespace NodeGroups.Client

open Url

section Trim

variable {cs : List Char}

theorem trimQuestionMarks_eq (cs : List Char) :
    trimQuestionMarks cs = cs.rdropWhile (· = '?') := rfl

theorem trimQuestionMarks_append (cs ds : List Char) : trimQuestionMarks (cs ++ ds) =
    if trimQuestionMarks ds = [] then trimQuestionMarks cs else cs ++ trimQuestionMarks ds := by
  simp only [trimQuestionMarks, List.reverse_append, List.dropWhile_append, List.isEmpty_iff,
    List.reverse_eq_nil_iff]
  split_ifs
  · rfl
  · rw [List.reverse_append, List.reverse_reverse]

theorem trimQuestionMarks_eq_nil_iff : trimQuestionMarks cs = [] ↔ ∀ c ∈ cs, c = '?' := by
  rw [trimQuestionMarks_eq, List.rdropWhile_eq_nil_iff]
  simp only [decide_eq_true_eq]

theorem trimQuestionMarks_of_not_mem (h : '?' ∉ cs) : trimQuestionMarks cs = cs := by
  rw [trimQuestionMarks_eq, List.rdropWhile_eq_self_iff]
  intro hne hlast
  have hmem := List.getLast_mem hne
  rw [of_decide_eq_true hlast] at hmem
  exact h hmem

theorem trimQuestionMarks_subset (cs : List Char) : trimQuestionMarks cs ⊆ cs :=
  (List.rdropWhile_prefix _ cs).subset

theorem trimQuestionMarks_question (cs : List Char) : trimQuestionMarks ('?' :: cs) =
    if trimQuestionMarks cs = [] then [] else '?' :: trimQuestionMarks cs :=
  trimQuestionMarks_append ['?'] cs

theorem trimQuestionMarks_hash (cs : List Char) :
    trimQuestionMarks ('#' :: cs) = '#' :: trimQuestionMarks cs := by
  have h := trimQuestionMarks_append ['#'] cs
  rw [List.singleton_append] at h
  rw [h]
  split_ifs with hcs
  · rw [hcs]
    rfl
  · rfl

end Trim

theorem not_mem_signedQuery (c : Client) (command : String) (q : Query) :
    '#' ∉ c.signedQuery command q := by
  rw [signedQuery_eq]
  exact Form.not_mem_encodePairs (by decide) (by decide) (by decide) _

/-- The query and the fragment of an address that parameters were put behind. They are the query only if
nothing but question marks follows the path. -/
def tailWith (u : Url) (parameters : List Char) : Option (List Char) × Option (List Char) :=
  match u.fragment with
  | some f => (u.query, some (trimQuestionMarks f ++ '?' :: parameters))
  | none =>
    if trimQuestionMarks (u.query.getD []) = [] then (some parameters, none)
    else (some (trimQuestionMarks (u.query.getD []) ++ '?' :: parameters), none)

section Tail

variable {u : Url} {parameters : List Char}

theorem tailWith_eq_iff : tailWith u parameters = (some parameters, none) ↔
    u.fragment = none ∧ ∀ x ∈ u.query.getD [], x = '?' := by
  have hlonger (cs : List Char) : cs ++ '?' :: parameters ≠ parameters := by
    intro h
    have hlength := congrArg List.length h
    simp at hlength
    omega
  rw [← trimQuestionMarks_eq_nil_iff, tailWith]
  cases u.fragment with
  | some f => simp
  | none => by_cases hnil : trimQuestionMarks (u.query.getD []) = [] <;> simp [hnil, hlonger]

theorem trimmed_append_eq (h : u.Apart) : trimQuestionMarks u.chars ++ '?' :: parameters =
    u.front ++ Components.tail '?' (tailWith u parameters).1 ++
      Components.tail '#' (tailWith u parameters).2 := by
  have hfront := trimQuestionMarks_of_not_mem h.not_mem_front
  rw [chars_eq, tailWith]
  cases hfragment : u.fragment with
  | some f =>
    rw [Components.tail, trimQuestionMarks_append, trimQuestionMarks_hash]
    simp [Components.tail]
  | none =>
    cases hquery : u.query with
    | none =>
      rw [Components.tail, Components.tail, List.append_nil, List.append_nil, hfront]
      exact (List.append_nil _).symm
    | some cs =>
      rw [Components.tail, Components.tail, List.append_nil, trimQuestionMarks_append,
        trimQuestionMarks_question, hfront]
      by_cases hnil : trimQuestionMarks cs = [] <;> simp [hnil, Components.tail]

theorem not_mem_tailWith (h : u.Apart) (hparameters : '#' ∉ parameters) :
    ∀ q ∈ (tailWith u parameters).1, '#' ∉ q := by
  have hquery : '#' ∉ u.query.getD [] := by
    cases hq : u.query with
    | none => exact List.not_mem_nil
    | some cs => exact h.query cs hq
  have hkept : '#' ∉ trimQuestionMarks (u.query.getD []) := fun hmem =>
    hquery (trimQuestionMarks_subset _ hmem)
  unfold tailWith
  split
  · exact h.query
  · split <;> simp [hparameters, hkept]

end Tail

/-- A signed address is cut into the scheme, authority and path of the endpoint, and where the parameters
were put. -/
theorem ofChars_signedUrl {c : Client} (h : c.endpoint.url.Apart) (command : String) (q : Query) :
    let u := c.endpoint.url
    Components.ofChars (c.signedUrl command q).toList =
      ⟨some u.scheme, some u.authority, Path.text u.path, (tailWith u (c.signedQuery command q)).1,
        (tailWith u (c.signedQuery command q)).2⟩ := by
  intro u
  rw [signedUrl, String.toList_ofList, trimmed_append_eq h]
  exact h.ofChars_append (not_mem_tailWith h (c.not_mem_signedQuery command q))

/-- For every endpoint that is accepted, a signed address has the scheme, authority and path of the endpoint.
Its query is just the signed parameters, and there is no fragment, exactly when the endpoint has no fragment
and no query other than question marks. -/
theorem signedUrl_query_iff {raw : String} {c : Client} (h : Endpoint.parse raw = .ok c.endpoint)
    (command : String) (q : Query) :
    let u := c.endpoint.url
    let parts := Components.ofChars (c.signedUrl command q).toList
    Components.ofChars u.chars =
        ⟨some u.scheme, some u.authority, Path.text u.path, u.query, u.fragment⟩ ∧
      parts.scheme = some u.scheme ∧ parts.authority = some u.authority ∧
      parts.path = Path.text u.path ∧
      (parts.query, parts.fragment) = tailWith u (c.signedQuery command q) ∧
      (parts.query = some (c.signedQuery command q) ∧ parts.fragment = none ↔
        u.fragment = none ∧ ∀ x ∈ u.query.getD [], x = '?') := by
  intro u parts
  have hapart := Endpoint.parse_apart h
  have hparts : parts = _ := ofChars_signedUrl hapart command q
  have hiff : tailWith u (c.signedQuery command q) = (some (c.signedQuery command q), none) ↔ _ :=
    tailWith_eq_iff
  rw [hparts, ← hiff]
  refine ⟨hapart.ofChars_chars, rfl, rfl, rfl, rfl, ?_⟩
  rw [Prod.ext_iff]

/-- A client of an endpoint with some query and fragment. -/
def sendingTo (query fragment : Option String) : Client :=
  ⟨⟨{ secure := false, username := [], password := [], host := .domain "cs.local".toList
      port := none, path := ["api".toList], query := query.map String.toList
      fragment := fragment.map String.toList }⟩, "key", "secret", 0, 1, none⟩

theorem signedUrl_query_of_questionMarks : ∃ c : Client,
    Endpoint.parse "http://cs.local/api??" = .ok c.endpoint ∧
      (Components.ofChars (c.signedUrl "listZones" .empty).toList).query =
        some (c.signedQuery "listZones" .empty) ∧
      (Components.ofChars (c.signedUrl "listZones" .empty).toList).fragment = none := by
  have hparse : Endpoint.parse "http://cs.local/api??" = .ok (sendingTo (some "?") none).endpoint := by
    decide +kernel
  obtain ⟨-, -, -, -, -, hiff⟩ := signedUrl_query_iff hparse "listZones" .empty
  exact ⟨_, hparse, hiff.mpr ⟨rfl, by simp [sendingTo]⟩⟩

/-- The query of an endpoint takes the first parameter for its own, and a fragment takes them all. -/
theorem signedUrl_query_misses_parameters :
    (let c := sendingTo (some "x=1") none
      let signed := c.signedQuery "listZones" .empty
      Endpoint.parse "http://cs.local/api?x=1" = .ok c.endpoint ∧
        (Components.ofChars (c.signedUrl "listZones" .empty).toList).query =
          some ("x=1?".toList ++ signed) ∧ "x=1?".toList ++ signed ≠ signed) ∧
    let c := sendingTo none (some "top")
    let parts := Components.ofChars (c.signedUrl "listZones" .empty).toList
    Endpoint.parse "http://cs.local/api#top" = .ok c.endpoint ∧ parts.query = none ∧
      parts.fragment = some ("top?".toList ++ c.signedQuery "listZones" .empty) := by
  have hquery : Endpoint.parse "http://cs.local/api?x=1" =
      .ok (sendingTo (some "x=1") none).endpoint := by decide +kernel
  have hfragment : Endpoint.parse "http://cs.local/api#top" =
      .ok (sendingTo none (some "top")).endpoint := by decide +kernel
  have hbehind (parameters : List Char) :
      tailWith (sendingTo (some "x=1") none).endpoint.url parameters =
        (some ("x=1?".toList ++ parameters), none) := rfl
  have hhidden (parameters : List Char) :
      tailWith (sendingTo none (some "top")).endpoint.url parameters =
        (none, some ("top?".toList ++ parameters)) := rfl
  refine ⟨⟨hquery, ?_, ?_⟩, hfragment, ?_⟩
  · rw [ofChars_signedUrl (Endpoint.parse_apart hquery), hbehind]
  · intro hsame
    have hlength := congrArg List.length hsame
    have hfour : "x=1?".toList.length = 4 := rfl
    rw [List.length_append] at hlength
    omega
  · rw [ofChars_signedUrl (Endpoint.parse_apart hfragment), hhidden]
    exact ⟨rfl, rfl⟩

end NodeGroups.Client
