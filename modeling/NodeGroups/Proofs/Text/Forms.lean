import NodeGroups.Proofs.Text.Characters
import NodeGroups.Text.Form
import NodeGroups.Url.Percent

namespace NodeGroups.Form

/-- The characters that encoded components are written with. -/
def isWritten (c : Char) : Bool := c = '%' || (c.toNat < 0x80 && isKept (UInt8.ofNat c.toNat))

theorem forall_byte {P : UInt8 → Prop} (h : ∀ n < 256, P (UInt8.ofNat n)) (b : UInt8) : P b := by
  have hb := h b.toNat b.toNat_lt
  rwa [UInt8.ofNat_toNat] at hb

theorem all_isWritten_encodeByte : ∀ b : UInt8, (encodeByte b).all isWritten = true := by
  apply forall_byte
  decide +kernel

theorem isWritten_of_mem_encodeComponent {cs : List Char} {c : Char} (h : c ∈ encodeComponent cs) :
    isWritten c = true := by
  obtain ⟨b, -, hc⟩ := List.mem_flatMap.mp h
  exact List.all_eq_true.mp (all_isWritten_encodeByte b) c hc

theorem not_mem_encodeComponent {c : Char} (h : isWritten c = false) (cs : List Char) :
    c ∉ encodeComponent cs := by
  intro hc
  rw [isWritten_of_mem_encodeComponent hc] at h
  contradiction

/-- Between the components stand equals signs and ampersands. -/
theorem isWritten_of_mem_encodePairs {ps : List (String × String)} {c : Char}
    (h : c ∈ encodePairs ps) : isWritten c = true ∨ c = '=' ∨ c = '&' := by
  have hpair {p : String × String} (hc : c ∈ encodePair p) : isWritten c = true ∨ c = '=' := by
    rw [encodePair, List.mem_append, List.mem_cons] at hc
    rcases hc with hc | rfl | hc
    · exact .inl (isWritten_of_mem_encodeComponent hc)
    · exact .inr rfl
    · exact .inl (isWritten_of_mem_encodeComponent hc)
  induction ps with
  | nil => simp [encodePairs] at h
  | cons p ps ih =>
    cases ps with
    | nil =>
      rw [encodePairs] at h
      exact (hpair h).imp_right .inl
    | cons q ps =>
      rw [encodePairs, List.mem_append, List.mem_cons] at h
      rcases h with h | rfl | h
      · exact (hpair h).imp_right .inl
      · exact .inr (.inr rfl)
      · exact ih h

theorem not_mem_encodePairs {c : Char} (h : isWritten c = false) (heq : c ≠ '=') (hand : c ≠ '&')
    (ps : List (String × String)) : c ∉ encodePairs ps := by
  intro hc
  rcases isWritten_of_mem_encodePairs hc with hw | rfl | rfl
  · rw [hw] at h
    contradiction
  · exact heq rfl
  · exact hand rfl

section Percent

theorem percentDecode_cons_of_ne {b : UInt8} (h : b ≠ 0x25) (bs : List UInt8) :
    percentDecode (b :: bs) = b :: percentDecode bs := by
  rcases bs with _ | ⟨h1, _ | ⟨l, rest⟩⟩
  · rfl
  · rfl
  · rw [percentDecode, if_neg h]

theorem percentDecode_digits {h l : UInt8} {x y : Nat} (hx : hexValue? h = some x)
    (hy : hexValue? l = some y) (rest : List UInt8) :
    percentDecode (0x25 :: h :: l :: rest) = UInt8.ofNat (16 * x + y) :: percentDecode rest := by
  rw [percentDecode, if_pos rfl]
  simp only [hx, hy]

/-- The byte of a hexadecimal digit is read as the value the digit was written for. -/
theorem hexValue?_hexDigit : ∀ n < 16, String.utf8EncodeChar (hexDigit n) =
    [UInt8.ofNat (hexDigit n).toNat] ∧ hexValue? (UInt8.ofNat (hexDigit n).toNat) = some n := by
  decide +kernel

theorem percentDecode_percentByte_append (b : UInt8) (rest : List UInt8) :
    percentDecode (Utf8.encode (percentByte b) ++ rest) = b :: percentDecode rest := by
  have hb := b.toNat_lt
  obtain ⟨hhigh, hx⟩ := hexValue?_hexDigit (b.toNat / 16) (by omega)
  obtain ⟨hlow, hy⟩ := hexValue?_hexDigit (b.toNat % 16) (by omega)
  have hbytes : Utf8.encode (percentByte b) = [0x25, UInt8.ofNat (hexDigit (b.toNat / 16)).toNat,
      UInt8.ofNat (hexDigit (b.toNat % 16)).toNat] := by
    rw [percentByte, Utf8.encode, List.flatMap_cons, List.flatMap_cons, List.flatMap_cons,
      List.flatMap_nil, hhigh, hlow]
    rfl
  have hvalue : 16 * (b.toNat / 16) + b.toNat % 16 = b.toNat := Nat.div_add_mod b.toNat 16
  rw [hbytes]
  show percentDecode (_ :: _ :: _ :: rest) = _
  rw [percentDecode_digits hx hy, hvalue, UInt8.ofNat_toNat]

theorem ascii_of_isKept : ∀ b : UInt8, isKept b = true → b.toNat < 0x80 ∧ b ≠ 0x25 := by
  apply forall_byte
  decide +kernel

/-- A byte of ASCII is the character it stands for. -/
theorem encode_ofNat_toNat {b : UInt8} (h : b.toNat < 0x80) :
    Utf8.encode [Char.ofNat b.toNat] = [b] := by
  have hc : (Char.ofNat b.toNat).toNat = b.toNat := Utf8.toNat_charOfNat (by omega)
  rw [Utf8.encode, List.flatMap_cons, List.flatMap_nil, List.append_nil,
    Utf8.encodeChar_of_ascii (by omega), hc, UInt8.ofNat_toNat]

theorem percentDecode_encodeByte_append (b : UInt8) (rest : List UInt8) :
    percentDecode (Utf8.encode (encodeByte b) ++ rest) = b :: percentDecode rest := by
  unfold encodeByte
  by_cases hkept : isKept b = true
  · obtain ⟨hascii, hne⟩ := ascii_of_isKept b hkept
    rw [if_pos hkept, encode_ofNat_toNat hascii, List.singleton_append,
      percentDecode_cons_of_ne hne]
  · rw [if_neg hkept, percentDecode_percentByte_append]

theorem percentDecode_encodeComponent (cs : List Char) :
    percentDecode (Utf8.encode (encodeComponent cs)) = Utf8.encode cs := by
  unfold encodeComponent
  induction Utf8.encode cs with
  | nil => rfl
  | cons b bs ih => rw [List.flatMap_cons, Utf8.encode_append, percentDecode_encodeByte_append, ih]

end Percent

/-- Reads a component back and leaves plus signs as they are. -/
def decodeVerbatim (cs : List Char) : String := String.ofList (Url.percentDecode cs)

theorem decodeVerbatim_encodeComponent (cs : List Char) :
    decodeVerbatim (encodeComponent cs) = String.ofList cs := by
  rw [decodeVerbatim, Url.percentDecode, percentDecode_encodeComponent, Utf8.decodeLossy_encode]

/-- Where there is no plus sign it does not matter what one would be read as. -/
theorem decodeComponent_eq_verbatim {cs : List Char} (h : '+' ∉ cs) :
    decodeComponent cs = decodeVerbatim cs := by
  have hsame : cs.map (fun c => if c = '+' then ' ' else c) = cs.map id := by
    apply List.map_congr_left
    intro c hc
    have hne : c ≠ '+' := fun same => h (same ▸ hc)
    rw [if_neg hne, id]
  rw [decodeComponent, hsame, List.map_id]
  rfl

theorem decodeComponent_encodeComponent (cs : List Char) :
    decodeComponent (encodeComponent cs) = String.ofList cs := by
  have hplus : '+' ∉ encodeComponent cs := not_mem_encodeComponent (by decide) cs
  rw [decodeComponent_eq_verbatim hplus, decodeVerbatim_encodeComponent]

/-- The pairs of a form whose components are read in some way. -/
def pairsBy (read : List Char → String) (s : String) : List (String × String) :=
  ((Text.splitOn '&' s.toList).filter (· ≠ [])).map fun piece =>
    match Text.cut '=' piece with
    | some (k, v) => (read k, read v)
    | none => (read piece, "")

theorem pairsBy_decodeComponent (s : String) : pairsBy decodeComponent s = decodePairs s := rfl

/-- Pairs are read back by whatever reads back components. -/
theorem pairsBy_encodePairs {read : List Char → String}
    (hread : ∀ cs, read (encodeComponent cs) = String.ofList cs) (ps : List (String × String)) :
    pairsBy read (String.ofList (encodePairs ps)) = ps := by
  have hsep (p : String × String) : '&' ∉ encodePair p := by
    rw [encodePair, List.mem_append, List.mem_cons, not_or, not_or]
    exact ⟨not_mem_encodeComponent (by decide) _, by decide, not_mem_encodeComponent (by decide) _⟩
  have hcut (p : String × String) : Text.cut '=' (encodePair p) =
      some (encodeComponent p.1.toList, encodeComponent p.2.toList) :=
    Text.cut_append_sep (not_mem_encodeComponent (by decide) _) _
  have hne (p : String × String) : encodePair p ≠ [] := by
    rw [encodePair]
    simp
  unfold pairsBy
  rw [String.toList_ofList]
  induction ps with
  | nil => rfl
  | cons p ps ih =>
    have hfirst : (read (encodeComponent p.1.toList), read (encodeComponent p.2.toList)) = p := by
      rw [hread, hread, String.ofList_toList, String.ofList_toList]
    cases ps with
    | nil =>
      rw [encodePairs, Text.splitOn_of_not_mem (hsep p)]
      simp [hne p, hcut p, hfirst]
    | cons q ps =>
      rw [encodePairs, Text.splitOn_append_sep (hsep p), List.filter_cons_of_pos (by simp [hne p]),
        List.map_cons, ih]
      simp only [hcut p, hfirst]

/-- A pair more at the end follows an ampersand. -/
theorem encodePairs_append_singleton {ps : List (String × String)} (h : ps ≠ []) (p : String × String) :
    encodePairs (ps ++ [p]) = encodePairs ps ++ '&' :: encodePair p := by
  induction ps with
  | nil => exact absurd rfl h
  | cons q ps ih =>
    cases ps with
    | nil => rfl
    | cons r ps =>
      have hrest := ih (List.cons_ne_nil r ps)
      rw [List.cons_append, List.cons_append, encodePairs, ← List.cons_append, hrest, encodePairs,
        List.append_assoc, List.cons_append]

end NodeGroups.Form
