import Mathlib.Data.List.Basic
import NodeGroups.Text.Utf8

namespace NodeGroups.Utf8

theorem toNat_ofNat {n : Nat} (h : n < 256) : (UInt8.ofNat n).toNat = n :=
  UInt8.toNat_ofNat_of_lt' h

theorem toNat_charOfNat {n : Nat} (h : n < 0xD800) : (Char.ofNat n).toNat = n := by
  rw [Char.ofNat, dif_pos (.inl h)]
  rfl

/-- How a character is written, by the number of its bytes. -/
theorem encodeChar_cases (c : Char) :
    (c.toNat < 0x80 ∧ String.utf8EncodeChar c = [UInt8.ofNat c.toNat]) ∨
    (0x80 ≤ c.toNat ∧ c.toNat < 0x800 ∧
      String.utf8EncodeChar c = [UInt8.ofNat (c.toNat / 64 + 192), UInt8.ofNat (c.toNat % 64 + 128)]) ∨
    (0x800 ≤ c.toNat ∧ c.toNat < 0x10000 ∧ (c.toNat < 0xD800 ∨ 0xE000 ≤ c.toNat) ∧
      String.utf8EncodeChar c = [UInt8.ofNat (c.toNat / 4096 + 224),
        UInt8.ofNat (c.toNat / 64 % 64 + 128), UInt8.ofNat (c.toNat % 64 + 128)]) ∨
    (0x10000 ≤ c.toNat ∧ c.toNat < 0x110000 ∧
      String.utf8EncodeChar c = [UInt8.ofNat (c.toNat / 262144 + 240),
        UInt8.ofNat (c.toNat / 4096 % 64 + 128), UInt8.ofNat (c.toNat / 64 % 64 + 128),
        UInt8.ofNat (c.toNat % 64 + 128)]) := by
  have hvalid := c.valid
  have hval : c.val.toNat = c.toNat := rfl
  simp only [UInt32.isValidChar, Nat.isValidChar, hval] at hvalid
  unfold String.utf8EncodeChar
  simp only [hval]
  split_ifs with h1 h2 h3
  · exact .inl ⟨by omega, rfl⟩
  · refine .inr (.inl ⟨by omega, by omega, ?_⟩)
    rw [Nat.mod_eq_of_lt (show c.toNat / 64 < 32 by omega)]
  · refine .inr (.inr (.inl ⟨by omega, by omega, by omega, ?_⟩))
    rw [Nat.mod_eq_of_lt (show c.toNat / 4096 < 16 by omega)]
  · refine .inr (.inr (.inr ⟨by omega, by omega, ?_⟩))
    rw [Nat.mod_eq_of_lt (show c.toNat / 262144 < 8 by omega)]

theorem encodeChar_of_ascii {c : Char} (h : c.toNat < 0x80) :
    String.utf8EncodeChar c = [UInt8.ofNat c.toNat] := by
  rcases encodeChar_cases c with ⟨-, e⟩ | ⟨h', -⟩ | ⟨h', -⟩ | ⟨h', -⟩
  · exact e
  all_goals omega

theorem encode_append (cs ds : List Char) : encode (cs ++ ds) = encode cs ++ encode ds :=
  List.flatMap_append

section Reading

variable {b b1 b2 b3 : UInt8} {rest : List UInt8}

theorem isContinuation_of_toNat (h : 0x80 ≤ b.toNat) (h' : b.toNat < 0xC0) :
    isContinuation b = true := by
  simp only [isContinuation, Bool.and_eq_true, decide_eq_true_eq, UInt8.le_iff_toNat_le]
  exact ⟨h, Nat.le_of_lt_succ h'⟩

/-- A second byte that makes no overlong form, no surrogate and nothing beyond the last character. -/
theorem isSecond_of_toNat (h : 0x80 ≤ b1.toNat) (h' : b1.toNat < 0xC0)
    (hE0 : b.toNat = 0xE0 → 0xA0 ≤ b1.toNat) (hED : b.toNat = 0xED → b1.toNat < 0xA0)
    (hF0 : b.toNat = 0xF0 → 0x90 ≤ b1.toNat) (hF4 : b.toNat = 0xF4 → b1.toNat < 0x90) :
    isSecond b b1 = true := by
  have hlit (n : UInt8) : b = n ↔ b.toNat = n.toNat := UInt8.toNat_inj.symm
  simp only [isSecond, isContinuation, hlit, UInt8.le_iff_toNat_le, UInt8.reduceToNat]
  split_ifs <;> simp only [Bool.and_eq_true, decide_eq_true_eq] <;> omega

theorem readChar_one (h : b.toNat < 0x80) : readChar b rest = (some (Char.ofNat b.toNat), rest) := by
  unfold readChar
  exact if_pos (UInt8.lt_iff_toNat_lt.mpr h)

theorem readChar_two (h : 0xC2 ≤ b.toNat) (h' : b.toNat < 0xE0) (h1 : isContinuation b1 = true) :
    readChar b (b1 :: rest) = (some (Char.ofNat (b.toNat % 32 * 64 + low6 b1)), rest) := by
  unfold readChar
  simp only [Bool.and_eq_true, decide_eq_true_eq, UInt8.lt_iff_toNat_lt, UInt8.le_iff_toNat_le,
    UInt8.reduceToNat]
  rw [if_neg (by omega), if_pos (by omega), if_pos h1]

theorem readChar_three (h : 0xE0 ≤ b.toNat) (h' : b.toNat < 0xF0) (h1 : isSecond b b1 = true)
    (h2 : isContinuation b2 = true) : readChar b (b1 :: b2 :: rest) =
      (some (Char.ofNat (b.toNat % 16 * 4096 + low6 b1 * 64 + low6 b2)), rest) := by
  unfold readChar
  simp only [Bool.and_eq_true, decide_eq_true_eq, UInt8.lt_iff_toNat_lt, UInt8.le_iff_toNat_le,
    UInt8.reduceToNat]
  rw [if_neg (by omega), if_neg (by omega), if_pos (by omega), if_pos h1, if_pos h2]

theorem readChar_four (h : 0xF0 ≤ b.toNat) (h' : b.toNat < 0xF5) (h1 : isSecond b b1 = true)
    (h2 : isContinuation b2 = true) (h3 : isContinuation b3 = true) :
    readChar b (b1 :: b2 :: b3 :: rest) =
      (some (Char.ofNat (b.toNat % 8 * 262144 + low6 b1 * 4096 + low6 b2 * 64 + low6 b3)), rest) := by
  unfold readChar
  simp only [Bool.and_eq_true, decide_eq_true_eq, UInt8.lt_iff_toNat_lt, UInt8.le_iff_toNat_le,
    UInt8.reduceToNat]
  rw [if_neg (by omega), if_neg (by omega), if_neg (by omega), if_pos (by omega), if_pos h1,
    if_pos h2, if_pos h3]

end Reading

/-- A continuation byte keeps the six bits it was made of. -/
theorem continuation (n : Nat) : isContinuation (UInt8.ofNat (n % 64 + 128)) = true ∧
    low6 (UInt8.ofNat (n % 64 + 128)) = n % 64 := by
  have hb : (UInt8.ofNat (n % 64 + 128)).toNat = n % 64 + 128 := toNat_ofNat (by omega)
  constructor
  · exact isContinuation_of_toNat (by omega) (by omega)
  · rw [low6, hb]
    omega

theorem decodeLossy_encodeChar_append (c : Char) (rest : List UInt8) :
    decodeLossy (String.utf8EncodeChar c ++ rest) = c :: decodeLossy rest := by
  -- It suffices that reading on from the first byte finds the character and stops at the rest.
  have hread {b : UInt8} {bs : List UInt8} {n : Nat} (h : readChar b bs = (some (Char.ofNat n), rest))
      (hn : n = c.toNat) : decodeLossy (b :: bs) = c :: decodeLossy rest := by
    rw [decodeLossy, h, hn, Char.ofNat_toNat]
    rfl
  have hlast := continuation c.toNat
  have hsecond := continuation (c.toNat / 64)
  have hthird := continuation (c.toNat / 4096)
  rcases encodeChar_cases c with ⟨h, e⟩ | ⟨h, h', e⟩ | ⟨h, h', hsurrogate, e⟩ | ⟨h, h', e⟩
  · have hb : (UInt8.ofNat c.toNat).toNat = c.toNat := toNat_ofNat (by omega)
    rw [e]
    exact hread (readChar_one (by omega)) hb
  · have hb : (UInt8.ofNat (c.toNat / 64 + 192)).toNat = c.toNat / 64 + 192 := toNat_ofNat (by omega)
    rw [e]
    apply hread (readChar_two (by omega) (by omega) hlast.1)
    rw [hb, hlast.2]
    omega
  · have hb : (UInt8.ofNat (c.toNat / 4096 + 224)).toNat = c.toNat / 4096 + 224 :=
      toNat_ofNat (by omega)
    have hb1 : (UInt8.ofNat (c.toNat / 64 % 64 + 128)).toNat = c.toNat / 64 % 64 + 128 :=
      toNat_ofNat (by omega)
    rw [e]
    apply hread (readChar_three (by omega) (by omega) _ hlast.1)
    · rw [hb, hsecond.2, hlast.2]
      omega
    · apply isSecond_of_toNat <;> omega
  · have hb : (UInt8.ofNat (c.toNat / 262144 + 240)).toNat = c.toNat / 262144 + 240 :=
      toNat_ofNat (by omega)
    have hb1 : (UInt8.ofNat (c.toNat / 4096 % 64 + 128)).toNat = c.toNat / 4096 % 64 + 128 :=
      toNat_ofNat (by omega)
    rw [e]
    apply hread (readChar_four (by omega) (by omega) _ hsecond.1 hlast.1)
    · rw [hb, hthird.2, hsecond.2, hlast.2]
      omega
    · apply isSecond_of_toNat <;> omega

/-- Whatever text is written, it is read back. -/
theorem decodeLossy_encode (cs : List Char) : decodeLossy (encode cs) = cs := by
  induction cs with
  | nil => rw [encode, List.flatMap_nil, decodeLossy]
  | cons c cs ih =>
    rw [encode, List.flatMap_cons, decodeLossy_encodeChar_append]
    exact congrArg (c :: ·) ih

/-- Whatever bytes follow them, one sequence of bytes comes before another. -/
def Precedes (as bs : List UInt8) : Prop := ∀ cs ds, as ++ cs < bs ++ ds

theorem precedes_of_lead {m n : Nat} (h : m < n) (hn : n < 256) (as bs : List UInt8) :
    Precedes (UInt8.ofNat m :: as) (UInt8.ofNat n :: bs) := by
  intro cs ds
  have hlead : UInt8.ofNat m < UInt8.ofNat n := by
    rw [UInt8.lt_iff_toNat_lt, toNat_ofNat (by omega), toNat_ofNat hn]
    exact h
  rw [List.cons_append, List.cons_append, List.cons_lt_cons_iff]
  exact .inl hlead

/-- Numbers whose higher bits are written in order are in order when six more bits follow. -/
theorem precedes_append_sextet {m n : Nat} {as bs : List UInt8} (h : m < n)
    (hlt : m / 64 < n / 64 → Precedes as bs) (heq : m / 64 = n / 64 → as = bs) :
    Precedes (as ++ [UInt8.ofNat (m % 64 + 128)]) (bs ++ [UInt8.ofNat (n % 64 + 128)]) := by
  intro cs ds
  rw [List.append_assoc, List.append_assoc]
  by_cases hhigh : m / 64 < n / 64
  · exact hlt hhigh _ _
  · have hsame : m / 64 = n / 64 := by omega
    rw [heq hsame]
    apply List.append_left_lt
    exact precedes_of_lead (by omega) (by omega) [] [] cs ds

theorem precedes_two {m n lead : Nat} (h : m < n) (hn : n / 64 + lead < 256) :
    Precedes [UInt8.ofNat (m / 64 + lead), UInt8.ofNat (m % 64 + 128)]
      [UInt8.ofNat (n / 64 + lead), UInt8.ofNat (n % 64 + 128)] := by
  show Precedes ([_] ++ [_]) ([_] ++ [_])
  apply precedes_append_sextet h
  · intro hhigh
    exact precedes_of_lead (by omega) hn [] []
  · intro hsame
    rw [hsame]

theorem precedes_three {m n lead : Nat} (h : m < n) (hn : n / 4096 + lead < 256) :
    Precedes [UInt8.ofNat (m / 4096 + lead), UInt8.ofNat (m / 64 % 64 + 128),
        UInt8.ofNat (m % 64 + 128)]
      [UInt8.ofNat (n / 4096 + lead), UInt8.ofNat (n / 64 % 64 + 128), UInt8.ofNat (n % 64 + 128)] := by
  have hdiv (k : Nat) : k / 4096 = k / 64 / 64 := by omega
  rw [hdiv m, hdiv n]
  show Precedes ([_, _] ++ [_]) ([_, _] ++ [_])
  apply precedes_append_sextet h
  · intro hhigh
    exact precedes_two hhigh (by omega)
  · intro hsame
    rw [hsame]

theorem precedes_four {m n lead : Nat} (h : m < n) (hn : n / 262144 + lead < 256) :
    Precedes [UInt8.ofNat (m / 262144 + lead), UInt8.ofNat (m / 4096 % 64 + 128),
        UInt8.ofNat (m / 64 % 64 + 128), UInt8.ofNat (m % 64 + 128)]
      [UInt8.ofNat (n / 262144 + lead), UInt8.ofNat (n / 4096 % 64 + 128),
        UInt8.ofNat (n / 64 % 64 + 128), UInt8.ofNat (n % 64 + 128)] := by
  have hdiv (k : Nat) : k / 4096 = k / 64 / 64 := by omega
  have hdiv' (k : Nat) : k / 262144 = k / 64 / 4096 := by omega
  rw [hdiv m, hdiv n, hdiv' m, hdiv' n]
  show Precedes ([_, _, _] ++ [_]) ([_, _, _] ++ [_])
  apply precedes_append_sextet h
  · intro hhigh
    exact precedes_three hhigh (by omega)
  · intro hsame
    rw [hsame]

theorem encodeChar_precedes {c d : Char} (h : c < d) :
    Precedes (String.utf8EncodeChar c) (String.utf8EncodeChar d) := by
  have hlt : c.toNat < d.toNat := h
  -- A character of fewer bytes has the smaller first byte; among equals the sextets decide.
  rcases encodeChar_cases c with ⟨h1, e⟩ | ⟨h1, h2, e⟩ | ⟨h1, h2, -, e⟩ | ⟨h1, h2, e⟩ <;>
    rcases encodeChar_cases d with ⟨k1, f⟩ | ⟨k1, k2, f⟩ | ⟨k1, k2, -, f⟩ | ⟨k1, k2, f⟩ <;>
    rw [e, f]
  case inr.inl.inr.inl => exact precedes_two hlt (by omega)
  case inr.inr.inl.inr.inr.inl => exact precedes_three hlt (by omega)
  case inr.inr.inr.inr.inr.inr => exact precedes_four hlt (by omega)
  case inr.inl.inl | inr.inr.inl.inl | inr.inr.inr.inl | inr.inr.inl.inr.inl | inr.inr.inr.inr.inl |
      inr.inr.inr.inr.inr.inl => omega
  all_goals exact precedes_of_lead (by omega) (by omega) _ _

theorem encode_lt {cs ds : List Char} (h : cs < ds) : encode cs < encode ds := by
  induction cs generalizing ds with
  | nil =>
    cases ds with
    | nil => exact absurd h (List.lt_irrefl _)
    | cons d ds =>
      have hne : String.utf8EncodeChar d ≠ [] := by simp
      obtain ⟨b, bs, hb⟩ := List.exists_cons_of_ne_nil hne
      rw [encode, encode, List.flatMap_nil, List.flatMap_cons, hb, List.cons_append]
      exact List.nil_lt_cons b _
  | cons c cs ih =>
    cases ds with
    | nil => exact absurd h (List.not_lt_nil _)
    | cons d ds =>
      rw [encode, encode, List.flatMap_cons, List.flatMap_cons]
      rcases List.cons_lt_cons_iff.mp h with hfirst | ⟨rfl, hrest⟩
      · exact encodeChar_precedes hfirst _ _
      · exact List.append_left_lt (ih hrest)

/-- Texts are in the order of their bytes. -/
theorem bytes_lt {s t : String} (h : s < t) : bytes s < bytes t := encode_lt h

end NodeGroups.Utf8
