import Mathlib.Data.List.Basic
import NodeGroups.Url.Address

namespace NodeGroups.Url

/-- A text that can stand in an authority without ending it. -/
def Unbroken (cs : List Char) : Prop := ∀ c ∈ cs, Address.endsAuthority c = false

theorem endsAuthority_iff {c : Char} :
    Address.endsAuthority c = true ↔ c = '/' ∨ c = '\\' ∨ c = '?' ∨ c = '#' := by
  simp [Address.endsAuthority, Address.isSlash, or_assoc]

/-- Characters of a kind that has no separators. -/
theorem endsAuthority_of_kind (kind : Char → Bool)
    (h : ['/', '\\', '?', '#'].any kind = false) {c : Char} (hc : kind c = true) :
    Address.endsAuthority c = false := by
  rw [Bool.eq_false_iff]
  intro hends
  have hmem : c ∈ ['/', '\\', '?', '#'] := by simpa using endsAuthority_iff.mp hends
  exact List.any_eq_false.mp h c hmem hc

theorem endsAuthority_of_not_forbidden {c : Char} (h : isForbidden c = false) :
    Address.endsAuthority c = false := by
  apply endsAuthority_of_kind (fun c => !isForbidden c) (by decide)
  rw [h]
  rfl

theorem unbroken_iff {cs : List Char} : Unbroken cs ↔ cs.any Address.endsAuthority = false := by
  simp [Unbroken]

namespace Unbroken

variable {cs ds : List Char}

theorem nil : Unbroken [] := List.forall_mem_nil _

theorem append (h : Unbroken cs) (h' : Unbroken ds) : Unbroken (cs ++ ds) :=
  List.forall_mem_append.mpr ⟨h, h'⟩

theorem cons {c : Char} (h : Address.endsAuthority c = false) (h' : Unbroken cs) :
    Unbroken (c :: cs) :=
  List.forall_mem_cons.mpr ⟨h, h'⟩

theorem of_subset (h : Unbroken ds) (hsub : cs ⊆ ds) : Unbroken cs := fun c hc => h c (hsub hc)

theorem of_not_forbidden (h : cs.any isForbidden = false) : Unbroken cs := fun c hc =>
  endsAuthority_of_not_forbidden (Bool.eq_false_iff.mpr (List.any_eq_false.mp h c hc))

theorem joinLabels {labels : List (List Char)} (h : ∀ l ∈ labels, Unbroken l) :
    Unbroken (Url.joinLabels labels) := by
  induction labels with
  | nil => exact nil
  | cons l labels ih =>
    obtain ⟨hl, hlabels⟩ := List.forall_mem_cons.mp h
    cases labels with
    | nil => exact hl
    | cons m labels => exact hl.append (cons (by decide) (ih hlabels))

end Unbroken

section Digits

theorem exists_of_mem_toDigits {b n : Nat} (hb : 1 < b) {c : Char} (h : c ∈ Nat.toDigits b n) :
    ∃ d < b, c = d.digitChar := by
  induction n using Nat.strongRecOn with
  | ind n ih =>
    rw [Nat.toDigits_eq_if hb] at h
    by_cases hlt : n < b
    · rw [if_pos hlt, List.mem_singleton] at h
      exact ⟨n, hlt, h⟩
    · rw [if_neg hlt, List.mem_append, List.mem_singleton] at h
      rcases h with h | h
      · exact ih (n / b) (Nat.div_lt_self (by omega) hb) h
      · exact ⟨n % b, Nat.mod_lt n (by omega), h⟩

theorem unbroken_toDigits {b n : Nat} (hb : 1 < b) (hmax : b ≤ 16) : Unbroken (Nat.toDigits b n) := by
  have hdigit : ∀ d < 16, Address.endsAuthority d.digitChar = false := by decide
  intro c hc
  obtain ⟨d, hd, rfl⟩ := exists_of_mem_toDigits hb hc
  exact hdigit d (by omega)

theorem unbroken_toString (n : Nat) : Unbroken (toString n).toList := by
  rw [Nat.toString_eq_ofList_toDigits, String.toList_ofList]
  exact unbroken_toDigits (by decide) (by decide)

theorem Ipv4.unbroken_text (address : Nat) : Unbroken (Ipv4.text address) := by
  apply Unbroken.joinLabels
  intro l hl
  obtain ⟨n, -, rfl⟩ := List.mem_map.mp hl
  exact unbroken_toString n

theorem Ipv6.unbroken_joinGroups (groups : List Nat) : Unbroken (joinGroups groups) := by
  have hgroup (n : Nat) : Unbroken (Text.hexDigits n) := unbroken_toDigits (by decide) (by decide)
  induction groups with
  | nil => exact Unbroken.nil
  | cons n groups ih =>
    cases groups with
    | nil => exact hgroup n
    | cons m groups => exact (hgroup n).append (.cons (by decide) ih)

theorem Ipv6.unbroken_text (groups : List Nat) : Unbroken (Ipv6.text groups) := by
  unfold Ipv6.text
  have hgap : Unbroken [':', ':'] := .cons (by decide) (.cons (by decide) .nil)
  have hclose : Unbroken [']'] := .cons (by decide) .nil
  apply Unbroken.append (.cons (by decide) ?_) hclose
  split
  · exact unbroken_joinGroups groups
  · exact ((unbroken_joinGroups _).append hgap).append (unbroken_joinGroups _)

end Digits

namespace Punycode

theorem unbroken_digits (bias position delta : Nat) : Unbroken (digits bias position delta) := by
  have hdigit : ∀ d < 36, Address.endsAuthority (digitChar d) = false := by decide
  have hpos := threshold_pos
  have hle := threshold_le
  fun_induction digits bias position delta with
  | case1 position delta t hlt =>
    have := hle position bias
    exact .cons (hdigit delta (by omega)) .nil
  | case2 position delta t hlt ih =>
    have := hle position bias
    have hmod : (delta - t) % (36 - t) < 36 - t := Nat.mod_lt _ (by omega)
    exact .cons (hdigit _ (by omega)) ih

theorem Encoder.unbroken_pass {basics next : Nat} {e : Encoder} (h : Unbroken e.written) (c : Char) :
    Unbroken (e.pass basics next c).written := by
  unfold pass
  split
  · exact h
  · split
    · exact h.append (unbroken_digits _ _ _)
    · exact h

theorem Encoder.unbroken_place {text : List Char} {basics start : Nat} {e : Encoder}
    (h : Unbroken e.written) (codes : List Nat) :
    Unbroken (place text basics start e codes).written := by
  induction codes generalizing start e with
  | nil => exact h
  | cons next codes ih =>
    have hpassed {e : Encoder} (he : Unbroken e.written) :
        Unbroken (text.foldl (pass basics next) e).written := by
      clear ih
      induction text generalizing e with
      | nil => exact he
      | cons c text ihtext => exact ihtext (unbroken_pass he c)
    exact ih (hpassed h)

theorem unbroken_encode? {text cs : List Char} (h : Unbroken text) (hcs : encode? text = some cs) :
    Unbroken cs := by
  unfold encode? at hcs
  split at hcs
  · cases hcs
  · cases hcs
    have hbasic : Unbroken (text.filter fun c => c.toNat < 0x80) :=
      h.of_subset (List.filter_subset_self text)
    refine (hbasic.append ?_).append (Encoder.unbroken_place .nil _)
    split
    · exact .nil
    · exact .cons (by decide) .nil

/-- Reading a distance takes digits off the front. -/
theorem readDelta_digits {bias position weight sum : Nat} {cs : List Char} {r : Nat × List Char}
    (h : readDelta bias position weight sum cs = some r) :
    ∀ c ∈ cs, c ∈ r.2 ∨ (digitValue? c).isSome = true := by
  fun_induction readDelta bias position weight sum cs with
  | case1 => cases h
  | case2 => cases h
  | case3 position weight sum c cs d hd hlast =>
    cases h
    exact List.forall_mem_cons.mpr ⟨.inr (by rw [hd]; rfl), fun c' hc' => .inl hc'⟩
  | case4 position weight sum c cs d hd hmore ih =>
    exact List.forall_mem_cons.mpr ⟨.inr (by rw [hd]; rfl), ih h⟩

/-- Placing characters keeps those that are there, and reads nothing but digits. -/
theorem insertAll_digits {text result cs : List Char} {code index bias : Nat}
    (h : insertAll text code index bias cs = some result) :
    text ⊆ result ∧ ∀ c ∈ cs, (digitValue? c).isSome = true := by
  fun_induction insertAll text code index bias cs with
  | case1 =>
    cases h
    exact ⟨List.Subset.refl _, List.forall_mem_nil _⟩
  | case2 => cases h
  | case3 text _ _ _ c rest sum after hread _ next _ place ih =>
    obtain ⟨hsub, hafter⟩ := ih h
    have hkept : text ⊆ text.take place ++ Char.ofNat next :: text.drop place := by
      intro x hx
      rw [← List.take_append_drop place text, List.mem_append] at hx
      exact List.mem_append.mpr (hx.imp_right (List.mem_cons_of_mem _))
    refine ⟨List.Subset.trans hkept hsub, fun x hx => ?_⟩
    rcases readDelta_digits hread x hx with hlater | hdigit
    · exact hafter x hlater
    · exact hdigit
  | case4 => cases h

/-- An encoded label has nothing but digits, a hyphen, and characters of the label it was made of. -/
theorem unbroken_of_decode? {text cs : List Char} (h : Unbroken text) (hcs : decode? cs = some text) :
    Unbroken cs := by
  let notHyphen (c : Char) : Bool := c ≠ '-'
  let digits := (cs.reverse.takeWhile notHyphen).reverse
  let before := (cs.reverse.dropWhile notHyphen).reverse
  have hsplit : before ++ digits = cs := by
    rw [← List.reverse_append, List.takeWhile_append_dropWhile, List.reverse_reverse]
  have htake : cs.take (cs.length - digits.length) = before := by
    rw [← hsplit, List.length_append, Nat.add_sub_cancel, List.take_left]
  have hhyphen : ∀ c ∈ before, c ∈ before.dropLast ∨ c = '-' := by
    cases hdrop : cs.reverse.dropWhile notHyphen with
    | nil => simp [before, hdrop]
    | cons x rest =>
      have hx : notHyphen x = false := by
        have hhead := List.head?_dropWhile_not notHyphen cs.reverse
        rw [hdrop] at hhead
        exact hhead
      have heq : x = '-' := by simpa [notHyphen] using hx
      simp [before, hdrop, heq]
  have hdigits : before.dropLast ⊆ text ∧ ∀ c ∈ digits, (digitValue? c).isSome = true := by
    unfold decode? at hcs
    split at hcs
    · cases hcs
    · have hins : insertAll (cs.take (cs.length - digits.length)).dropLast 0x80 0 72 digits =
          some text := by
        dsimp only at hcs
        split at hcs
        · cases hcs
        · exact hcs
      rw [htake] at hins
      exact insertAll_digits hins
  rw [← hsplit]
  apply Unbroken.append
  · intro c hc
    rcases hhyphen c hc with hbasic | rfl
    · exact h c (hdigits.1 hbasic)
    · decide
  · intro c hc
    exact endsAuthority_of_kind (fun c => (digitValue? c).isSome) (by decide) (hdigits.2 c hc)

end Punycode

theorem unbroken_encodedMark : Unbroken encodedMark := unbroken_iff.mpr rfl

/-- A label that has no separator as it is read has none as it is written. -/
theorem Label.unbroken_ascii {cs : List Char} {l : Label} (h : Label.ofMapped? cs = some l)
    (htext : l.text.any isForbidden = false) : Unbroken l.ascii := by
  unfold Label.ofMapped? at h
  split at h
  case h_1 digits hmark =>
    rw [Text.stripPrefix?_eq_some_iff] at hmark
    cases hdecoded : Punycode.decode? digits with
    | none =>
      rw [hdecoded] at h
      cases h
    | some text =>
      rw [hdecoded] at h
      dsimp only [Option.bind_eq_bind, Option.bind_some] at h
      split at h
      · cases h
        rw [hmark]
        exact unbroken_encodedMark.append
          (Punycode.unbroken_of_decode? (.of_not_forbidden htext) hdecoded)
      · cases h
  case h_2 hmark =>
    split at h
    · cases h
    · split at h
      · cases h
        exact .of_not_forbidden htext
      · obtain ⟨digits, hencoded, rfl⟩ := Option.map_eq_some_iff.mp h
        exact unbroken_encodedMark.append
          (Punycode.unbroken_encode? (.of_not_forbidden htext) hencoded)

theorem exists_of_mapM_some {α β : Type} {f : α → Option β} {items : List α} {results : List β}
    (h : items.mapM f = some results) : ∀ b ∈ results, ∃ a ∈ items, f a = some b := by
  induction items generalizing results with
  | nil =>
    cases h
    exact List.forall_mem_nil _
  | cons a items ih =>
    rw [List.mapM_cons] at h
    obtain ⟨b, hfirst, hrest⟩ := Option.bind_eq_some_iff.mp h
    obtain ⟨others, hothers, hdone⟩ := Option.bind_eq_some_iff.mp hrest
    cases hdone
    refine List.forall_mem_cons.mpr ⟨⟨a, List.mem_cons_self, hfirst⟩, fun b' hb' => ?_⟩
    obtain ⟨a', ha', hsome⟩ := ih hothers b' hb'
    exact ⟨a', List.mem_cons_of_mem a ha', hsome⟩

theorem unbroken_domain? {cs name : List Char} (h : domain? cs = some name) : Unbroken name := by
  unfold domain? at h
  split at h
  · dsimp only at h
    split at h
    · cases h
    · cases h
      exact .of_not_forbidden (Bool.eq_false_iff.mpr ‹_›)
  · obtain ⟨mapped, -, hrest⟩ := Option.bind_eq_some_iff.mp h
    obtain ⟨labels, hlabels, hdone⟩ := Option.bind_eq_some_iff.mp hrest
    dsimp only at hdone
    split at hdone
    · cases hdone
    · rename_i hclean
      cases hdone
      apply Unbroken.joinLabels
      intro ascii hascii
      obtain ⟨l, hl, rfl⟩ := List.mem_map.mp hascii
      obtain ⟨piece, -, hpiece⟩ := exists_of_mapM_some hlabels l hl
      apply Label.unbroken_ascii hpiece
      rw [Bool.or_eq_true, not_or] at hclean
      have hany := List.any_eq_false.mp (Bool.eq_false_iff.mpr hclean.1) l hl
      exact Bool.eq_false_iff.mpr hany

/-- A host as it is written stands in an authority without ending it. -/
theorem Host.unbroken_text {cs : List Char} {host : Host} (h : Host.parse cs = .ok host) :
    Unbroken host.text := by
  unfold Host.parse at h
  split at h
  · unfold parseBrackets at h
    split at h
    · split at h
      · cases h
        exact Ipv6.unbroken_text _
      · cases h
    · cases h
  · split at h
    · cases h
    · rename_i name hname
      split at h
      · cases h
      · split at h
        · split at h
          · cases h
            exact Ipv4.unbroken_text _
          · cases h
        · cases h
          exact unbroken_domain? hname

end NodeGroups.Url
