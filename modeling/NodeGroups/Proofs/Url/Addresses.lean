import NodeGroups.Proofs.Text.Forms
import NodeGroups.Proofs.Url.Hosts
import NodeGroups.Url.Components
import NodeGroups.Url.Endpoint

namespace NodeGroups.Url

section Escapes

theorem any_endsAuthority_percentByte :
    ∀ b : UInt8, (Form.percentByte b).any Address.endsAuthority = false := by
  apply Form.forall_byte
  decide +kernel

/-- Of the separators, an escaped text has none that is escaped. -/
theorem not_mem_percentEncode {escaped : UInt8 → Bool} {c : Char}
    (hends : Address.endsAuthority c = true) (hescaped : escaped (UInt8.ofNat c.toNat) = true)
    (cs : List Char) : c ∉ percentEncode escaped cs := by
  intro hc
  obtain ⟨b, -, hb⟩ := List.mem_flatMap.mp hc
  by_cases hesc : escaped b = true
  · rw [if_pos hesc] at hb
    exact List.any_eq_false.mp (any_endsAuthority_percentByte b) c hb hends
  · rw [if_neg hesc, List.mem_singleton] at hb
    have hlt := b.toNat_lt
    have hbyte : (Char.ofNat b.toNat).toNat = b.toNat := Utf8.toNat_charOfNat (by omega)
    rw [hb, hbyte, UInt8.ofNat_toNat] at hescaped
    exact hesc hescaped

theorem unbroken_userinfo (cs : List Char) : Unbroken (percentEncode escapedInUserinfo cs) := by
  intro c hc
  rw [Bool.eq_false_iff]
  intro hends
  have hescaped : escapedInUserinfo (UInt8.ofNat c.toNat) = true := by
    rcases endsAuthority_iff.mp hends with rfl | rfl | rfl | rfl <;> decide
  exact not_mem_percentEncode hends hescaped cs hc

end Escapes

namespace Path

theorem mem_of_mem_parent {s : Segment} {done : List Segment} (h : s ∈ parent done) : s ∈ done := by
  cases done with
  | nil => exact h
  | cons t done =>
    rw [parent] at h
    split at h
    · exact h
    · exact List.mem_cons_of_mem t h

/-- The steps that are left of a path are steps of it, or the empty one behind its last slash. -/
theorem mem_of_mem_walk {s : Segment} {done steps : List Segment} (h : s ∈ walk done steps) :
    s ∈ done ∨ s ∈ steps ∨ s = [] := by
  induction steps generalizing done with
  | nil => exact .inl (List.mem_reverse.mp h)
  | cons t steps ih =>
    have hclose {done : List Segment}
        (hmem : s ∈ walk (if steps.isEmpty then [] :: done else done) steps) :
        s ∈ done ∨ s ∈ t :: steps ∨ s = [] := by
      rcases ih hmem with hdone | hlater | hempty
      · split at hdone
        · rcases List.mem_cons.mp hdone with hempty | hdone
          · exact .inr (.inr hempty)
          · exact .inl hdone
        · exact .inl hdone
      · exact .inr (.inl (List.mem_cons_of_mem t hlater))
      · exact .inr (.inr hempty)
    rw [walk] at h
    dsimp only at h
    split at h
    · exact (hclose h).imp_left mem_of_mem_parent
    · split at h
      · exact hclose h
      · rcases ih h with hdone | hlater | hempty
        · rcases List.mem_cons.mp hdone with rfl | hdone
          · exact .inr (.inl List.mem_cons_self)
          · exact .inl hdone
        · exact .inr (.inl (List.mem_cons_of_mem t hlater))
        · exact .inr (.inr hempty)

theorem not_mem_parse {s : Segment} {cs : List Char} (h : s ∈ parse cs) : '?' ∉ s ∧ '#' ∉ s := by
  rcases mem_of_mem_walk h with hnone | hstep | rfl
  · exact absurd hnone List.not_mem_nil
  · obtain ⟨piece, -, rfl⟩ := List.mem_map.mp hstep
    exact ⟨not_mem_percentEncode (by decide) (by decide) piece,
      not_mem_percentEncode (by decide) (by decide) piece⟩
  · exact ⟨List.not_mem_nil, List.not_mem_nil⟩

theorem not_mem_text_parse (cs : List Char) : ∀ c ∈ text (parse cs), c ≠ '?' ∧ c ≠ '#' := by
  intro c hc
  obtain ⟨s, hs, hmem⟩ := List.mem_flatMap.mp hc
  rcases List.mem_cons.mp hmem with rfl | hmem
  · decide
  · obtain ⟨hquestion, hhash⟩ := not_mem_parse hs
    exact ⟨fun heq => hquestion (heq ▸ hmem), fun heq => hhash (heq ▸ hmem)⟩

theorem head?_text (path : List Segment) : ∀ c ∈ (text path).head?, c = '/' := by
  intro c hc
  cases path with
  | nil => cases hc
  | cons s path =>
    cases hc
    rfl

end Path

/-- The separators of an address stand nowhere but between its parts. -/
structure Apart (u : Url) : Prop where
  authority : Unbroken u.authority
  path : ∀ c ∈ Path.text u.path, c ≠ '?' ∧ c ≠ '#'
  query : ∀ q ∈ u.query, '#' ∉ q

theorem unbroken_authority {u : Url} (hname : Unbroken u.username) (hpassword : Unbroken u.password)
    (hhost : Unbroken u.host.text) : Unbroken u.authority := by
  have huser : Unbroken u.userinfo := by
    unfold userinfo
    split
    · exact .nil
    · refine (hname.append ?_).append (.cons (by decide) .nil)
      split
      · exact .nil
      · exact .cons (by decide) hpassword
  refine (huser.append hhost).append ?_
  split
  · exact .nil
  · exact .cons (by decide) (unbroken_toString _)

end Url

namespace Address

open Url

theorem exists_of_bind_ok {ε α β : Type} {x : Except ε α} {f : α → Except ε β} {b : β}
    (h : x >>= f = .ok b) : ∃ a, x = .ok a ∧ f a = .ok b := by
  cases x with
  | error e => cases h
  | ok a => exact ⟨a, rfl, h⟩

theorem unbroken_splitUser (cs : List Char) :
    Unbroken (splitUser cs).1 ∧ Unbroken (splitUser cs).2 :=
  ⟨unbroken_userinfo _, unbroken_userinfo _⟩

theorem parseAuthority_unbroken {cs : List Char} {a : Authority} (h : parseAuthority cs = .ok a) :
    Unbroken a.username ∧ Unbroken a.password ∧ Unbroken a.host.text := by
  unfold parseAuthority at h
  dsimp only at h
  split at h
  · cases h
  · obtain ⟨host, hhost, hrest⟩ := exists_of_bind_ok h
    obtain ⟨hname, hpassword⟩ := unbroken_splitUser ((cutLast cs).getD ([], cs)).1
    split at hrest
    · cases hrest
      exact ⟨hname, hpassword, Host.unbroken_text hhost⟩
    · obtain ⟨port, -, hdone⟩ := exists_of_bind_ok hrest
      cases hdone
      exact ⟨hname, hpassword, Host.unbroken_text hhost⟩

theorem not_mem_parseTail {cs q : List Char} (h : q ∈ (parseTail cs).1) : '#' ∉ q := by
  unfold parseTail at h
  split at h
  · cases h
    exact not_mem_percentEncode (by decide) (by decide) _
  · cases h

theorem parseWeb_apart {secure : Bool} {cs : List Char} {u : Url} (h : parseWeb secure cs = .ok u) :
    u.Apart := by
  obtain ⟨a, hauthority, hdone⟩ := exists_of_bind_ok h
  cases hdone
  obtain ⟨hname, hpassword, hhost⟩ := parseAuthority_unbroken hauthority
  exact ⟨unbroken_authority hname hpassword hhost, Path.not_mem_text_parse _,
    fun q hq => not_mem_parseTail hq⟩

theorem parse_apart {s : String} {u : Url} (h : parse s = .ok (.web u)) : u.Apart := by
  unfold parse at h
  split at h
  · cases h
  · split at h
    · obtain ⟨u', hweb, hdone⟩ := exists_of_bind_ok h
      cases hdone
      exact parseWeb_apart hweb
    · split at h
      · obtain ⟨u', hweb, hdone⟩ := exists_of_bind_ok h
        cases hdone
        exact parseWeb_apart hweb
      -- An address of another scheme is not of the web.
      · dsimp only at h
        split at h
        · obtain ⟨-, -, hdone⟩ := exists_of_bind_ok h
          cases hdone
        · split at h
          · obtain ⟨-, -, hdone⟩ := exists_of_bind_ok h
            cases hdone
          · obtain ⟨-, -, hdone⟩ := exists_of_bind_ok h
            cases hdone

end Address

theorem Endpoint.parse_apart {raw : String} {e : Endpoint} (h : parse raw = .ok e) : e.url.Apart := by
  unfold parse at h
  split at h
  · cases h
  · split at h
    · cases h
    · split at h
      · cases h
      · cases h
      · cases h
        exact Address.parse_apart ‹_›

namespace Url

/-- An address up to the end of its path. -/
def front (u : Url) : List Char := u.scheme ++ [':', '/', '/'] ++ u.authority ++ Path.text u.path

theorem chars_eq (u : Url) : u.chars =
    u.front ++ Components.tail '?' u.query ++ Components.tail '#' u.fragment := by
  unfold chars front
  cases u.query <;> cases u.fragment <;> rfl

variable {u : Url}

theorem Apart.not_mem_front (h : u.Apart) : '?' ∉ u.front := by
  have hscheme : '?' ∉ u.scheme := by
    unfold scheme
    split <;> decide
  have hauthority : '?' ∉ u.authority := fun hmem => nomatch h.authority '?' hmem
  have hpath : '?' ∉ Path.text u.path := fun hmem => (h.path '?' hmem).1 rfl
  simp [front, hscheme, hauthority, hpath]

/-- An address with another query and fragment is cut into just those parts. -/
theorem Apart.ofChars_append (h : u.Apart) {query fragment : Option (List Char)}
    (hquery : ∀ q ∈ query, '#' ∉ q) :
    Components.ofChars (u.front ++ Components.tail '?' query ++ Components.tail '#' fragment) =
      ⟨some u.scheme, some u.authority, Path.text u.path, query, fragment⟩ := by
  have hscheme : ∀ c ∈ u.scheme, c ≠ ':' ∧ c ≠ '/' ∧ c ≠ '?' ∧ c ≠ '#' := by
    unfold scheme
    split <;> simp [httpText, httpsText]
  have hauthority : ∀ c ∈ u.authority, c ≠ '/' ∧ c ≠ '?' ∧ c ≠ '#' := by
    intro c hc
    have hends := h.authority c hc
    rw [Bool.eq_false_iff, Ne, endsAuthority_iff, not_or, not_or, not_or] at hends
    exact ⟨hends.1, hends.2.2⟩
  exact Components.ofChars_append hscheme hauthority h.path (Path.head?_text u.path) hquery

theorem Apart.ofChars_chars (h : u.Apart) : Components.ofChars u.chars =
    ⟨some u.scheme, some u.authority, Path.text u.path, u.query, u.fragment⟩ := by
  rw [chars_eq]
  exact h.ofChars_append h.query

end Url
end NodeGroups
