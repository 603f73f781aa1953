import Mathlib.Algebra.Group.Int.Defs
import NodeGroups.Text.Decimal

namespace NodeGroups.Decimal

/-- A run of digits and the number it is worth. There may be zeros in front. -/
structure Digits (cs : List Char) (n : Nat) : Prop where
  nonempty : cs ≠ []
  isDigit : ∀ c ∈ cs, c.isDigit
  worth : Nat.ofDigitChars 10 cs 0 = n

/-- An integer as it may be written: digits, perhaps after one sign. -/
inductive Denotes : List Char → Int → Prop
  | plain {cs : List Char} {n : Nat} : Digits cs n → Denotes cs n
  | plus {cs : List Char} {n : Nat} : Digits cs n → Denotes ('+' :: cs) n
  | minus {cs : List Char} {n : Nat} : Digits cs n → Denotes ('-' :: cs) (-n)

theorem digits?_eq_some_iff {cs : List Char} {n : Nat} : digits? cs = some n ↔ Digits cs n := by
  have hvalue : valueFrom 0 cs = Nat.ofDigitChars 10 cs 0 := Nat.ofDigitChars_eq_foldl.symm
  unfold digits?
  rw [hvalue, Option.ite_none_right_eq_some, Option.some.injEq, List.all_eq_true]
  constructor
  · intro h
    obtain ⟨⟨hne, hdigits⟩, hn⟩ := h
    exact ⟨hne, hdigits, hn⟩
  · intro h
    exact ⟨⟨h.nonempty, h.isDigit⟩, h.worth⟩

theorem Digits.not_sign {c : Char} {cs : List Char} {n : Nat} (h : Digits (c :: cs) n) :
    c ≠ '+' ∧ c ≠ '-' := by
  have hdigit : c.isDigit := h.isDigit c List.mem_cons_self
  constructor
  · intro same
    subst same
    exact absurd hdigit (by decide)
  · intro same
    subst same
    exact absurd hdigit (by decide)

/-- A text denotes one number at most. -/
theorem Denotes.unique {cs : List Char} {m n : Int} (hm : Denotes cs m) (hn : Denotes cs n) :
    m = n := by
  cases hm with
  | plain hd =>
    cases hn with
    | plain hd' => rw [← hd.worth, ← hd'.worth]
    | plus => exact absurd rfl hd.not_sign.1
    | minus => exact absurd rfl hd.not_sign.2
  | plus hd =>
    cases hn with
    | plain hd' => exact absurd rfl hd'.not_sign.1
    | plus hd' => rw [← hd.worth, ← hd'.worth]
  | minus hd =>
    cases hn with
    | plain hd' => exact absurd rfl hd'.not_sign.2
    | minus hd' => rw [← hd.worth, ← hd'.worth]

/-- A number that is kept to 64 bits is itself when it is in their range. -/
theorem toInt_narrowed {value : Option Int} {n : Int} :
    ((value.filter fun i => Int64.minValue.toInt ≤ i && i ≤ Int64.maxValue.toInt).map
      Int64.ofInt).map Int64.toInt = some n ↔ value = some n ∧ -2 ^ 63 ≤ n ∧ n < 2 ^ 63 := by
  have hmin : Int64.minValue.toInt = -2 ^ 63 := by decide
  have hmax : Int64.maxValue.toInt = 2 ^ 63 - 1 := by decide
  rw [Option.map_map, Option.map_eq_some_iff, hmin, hmax]
  constructor
  · intro h
    obtain ⟨i, hi, hin⟩ := h
    obtain ⟨hvalue, hrange⟩ := Option.filter_eq_some_iff.mp hi
    rw [Bool.and_eq_true, decide_eq_true_iff, decide_eq_true_iff] at hrange
    have hround : (Int64.ofInt i).toInt = i :=
      Int64.toInt_ofInt_of_le hrange.1 (by omega)
    have hsame : i = n := hround.symm.trans hin
    subst hsame
    exact ⟨hvalue, hrange.1, by omega⟩
  · intro h
    obtain ⟨hvalue, hlow, hhigh⟩ := h
    have hround : (Int64.ofInt n).toInt = n := Int64.toInt_ofInt_of_le hlow hhigh
    refine ⟨n, Option.filter_eq_some_iff.mpr ⟨hvalue, ?_⟩, hround⟩
    rw [Bool.and_eq_true, decide_eq_true_iff, decide_eq_true_iff]
    omega

/-- The numbers read from a text are those of 64 bits that it denotes. -/
theorem toInt_int64?_eq_some_iff {s : String} {n : Int} :
    (int64? s).map Int64.toInt = some n ↔ Denotes s.toList n ∧ -2 ^ 63 ≤ n ∧ n < 2 ^ 63 := by
  dsimp only [int64?]
  rw [toInt_narrowed]
  refine and_congr_left fun _ => ?_
  -- a minus sign, a plus sign or neither comes first, as in the three ways to write a number
  split
  next cs hcs =>
    rw [hcs, Option.map_eq_some_iff]
    constructor
    · intro h
      obtain ⟨i, hi, rfl⟩ := h
      obtain ⟨k, hk, hki⟩ := Option.bind_eq_some_iff.mp hi
      cases hki
      exact Denotes.minus (digits?_eq_some_iff.mp hk)
    · intro h
      cases h with
      | plain hd => exact absurd rfl hd.not_sign.2
      | minus hd =>
        have hread : digits? cs = some _ := digits?_eq_some_iff.mpr hd
        exact ⟨_, Option.bind_eq_some_iff.mpr ⟨_, hread, rfl⟩, rfl⟩
  next cs hcs =>
    rw [hcs, Option.map_eq_some_iff]
    constructor
    · intro h
      obtain ⟨k, hk, rfl⟩ := h
      exact Denotes.plus (digits?_eq_some_iff.mp hk)
    · intro h
      cases h with
      | plain hd => exact absurd rfl hd.not_sign.1
      | plus hd => exact ⟨_, digits?_eq_some_iff.mpr hd, rfl⟩
  next hminus hplus =>
    rw [Option.map_eq_some_iff]
    constructor
    · intro h
      obtain ⟨k, hk, rfl⟩ := h
      exact Denotes.plain (digits?_eq_some_iff.mp hk)
    · intro h
      generalize s.toList = cs at h hminus hplus
      cases h with
      | plain hd => exact ⟨_, digits?_eq_some_iff.mpr hd, rfl⟩
      | plus => exact absurd rfl (hplus _)
      | minus => exact absurd rfl (hminus _)

/-- A decimal has nothing but digits in it. -/
theorem not_mem_toString {c : Char} (h : c.isDigit = false) (n : Nat) : c ∉ (toString n).toList := by
  rw [Nat.toString_eq_ofList_toDigits, String.toList_ofList]
  intro hmem
  have hdigit := Nat.isDigit_of_mem_toDigits (by decide) (by decide) hmem
  rw [h] at hdigit
  cases hdigit

/-- A number is told by its decimal. -/
theorem toString_inj {m n : Nat} : toString m = toString n ↔ m = n := by
  constructor
  · intro h
    have hdigits : Nat.toDigits 10 m = Nat.toDigits 10 n := by
      simpa only [Nat.toString_eq_ofList_toDigits, String.ofList_inj] using h
    calc
      m = Nat.ofDigitChars 10 (Nat.toDigits 10 m) 0 := Nat.ofDigitChars_ten_toDigits.symm
      _ = Nat.ofDigitChars 10 (Nat.toDigits 10 n) 0 := by rw [hdigits]
      _ = n := Nat.ofDigitChars_ten_toDigits
  · intro h
    rw [h]

/-- An integer is denoted by its decimal. -/
theorem denotes_toString (n : Int) : Denotes (toString n).toList n := by
  have hdigits (k : Nat) : Digits k.repr.toList k := by
    rw [Nat.toList_repr]
    exact ⟨Nat.toDigits_ne_nil, fun c hc => Nat.isDigit_of_mem_toDigits (by decide) (by decide) hc,
      Nat.ofDigitChars_ten_toDigits⟩
  rw [Int.toString_eq_repr, Int.repr_eq_if]
  by_cases hpos : 0 ≤ n
  · rw [if_pos hpos]
    have hplain := Denotes.plain (hdigits n.toNat)
    rw [Int.toNat_of_nonneg hpos] at hplain
    exact hplain
  · rw [if_neg hpos, String.toList_append]
    have hminus := Denotes.minus (hdigits (-n).toNat)
    rw [Int.toNat_of_nonneg (by omega), Int.neg_neg] at hminus
    exact hminus

end NodeGroups.Decimal
