import Mathlib.Data.List.Basic
import NodeGroups.Settings.Duration

/-!
How a duration is written: after at most one sign, a zero, or numbers with units one behind the other. The
reading goes in rounds, and each of them takes one number with its unit off. It searches for places in the
text, and all that it finds are between two characters.
-/

namespace NodeGroups.Duration

/-- A number is made of digits, with one point at most in front of them, among them or behind them. -/
structure IsNumber (cs : List Char) : Prop where
  numeric : ∀ c ∈ cs, isNumeric c = true
  digit : ∃ c ∈ cs, Decimal.isDigit c = true
  point : cs.count '.' ≤ 1

def units : List (List Char) :=
  [['n', 's'], ['u', 's'], ['µ', 's'], ['m', 's'], ['s'], ['m'], ['h']]

/-- A number with its unit, as they are written. -/
structure Token where
  number : List Char
  unit : List Char

namespace Token

def text (t : Token) : List Char := t.number ++ t.unit

structure Valid (t : Token) : Prop where
  number : IsNumber t.number
  unit : t.unit ∈ units

end Token

/-- What may stand behind the sign: a zero alone, or numbers with units. -/
inductive Written : List Char → Prop
  | zero : Written ['0']
  | tokens {ts : List Token} (nonempty : ts ≠ []) (valid : ∀ t ∈ ts, t.Valid) :
      Written (ts.flatMap Token.text)

/-- A text that is a duration. -/
def IsDuration (cs : List Char) : Prop :=
  ∃ sign body, cs = sign ++ body ∧ sign ∈ [[], ['+'], ['-']] ∧ Written body

theorem isNumeric_of_isDigit {c : Char} (h : Decimal.isDigit c = true) : isNumeric c = true := by
  simp [isNumeric, h]

theorem isDigit_of_isNumeric {c : Char} (h : isNumeric c = true) (hne : c ≠ '.') :
    Decimal.isDigit c = true := by
  simpa [isNumeric, hne] using h

/-- Digits with no point, or on both sides of one. -/
theorem isNumber_iff_of_not_mem {cs : List Char} (h : '.' ∉ cs) :
    IsNumber cs ↔ cs ≠ [] ∧ ∀ c ∈ cs, Decimal.isDigit c = true := by
  constructor
  · intro hnumber
    obtain ⟨c, hc, -⟩ := hnumber.digit
    refine ⟨List.ne_nil_of_mem hc, fun d hd => ?_⟩
    exact isDigit_of_isNumeric (hnumber.numeric d hd) fun same => h (same ▸ hd)
  · rintro ⟨hne, hdigits⟩
    obtain ⟨c, hc⟩ := List.exists_mem_of_ne_nil cs hne
    refine ⟨fun d hd => isNumeric_of_isDigit (hdigits d hd), ⟨c, hc, hdigits c hc⟩, ?_⟩
    rw [List.count_eq_zero_of_not_mem h]
    exact Nat.zero_le 1

theorem isNumber_iff_of_point {whole fraction : List Char} (h : '.' ∉ whole) :
    IsNumber (whole ++ '.' :: fraction) ↔
      whole ++ fraction ≠ [] ∧ ∀ c ∈ whole ++ fraction, Decimal.isDigit c = true := by
  have hmem (c : Char) : c ∈ whole ++ '.' :: fraction ↔ c = '.' ∨ c ∈ whole ++ fraction := by
    simp [or_left_comm]
  have hcount : (whole ++ '.' :: fraction).count '.' ≤ 1 ↔ '.' ∉ fraction := by
    rw [List.count_append, List.count_eq_zero_of_not_mem h, List.count_cons_self, ← List.count_eq_zero]
    omega
  constructor
  · intro hnumber
    have hfraction : '.' ∉ fraction := hcount.mp hnumber.point
    constructor
    · obtain ⟨c, hc, hdigit⟩ := hnumber.digit
      rcases (hmem c).mp hc with rfl | hc
      · exact absurd hdigit (by decide)
      · exact List.ne_nil_of_mem hc
    · intro c hc
      refine isDigit_of_isNumeric (hnumber.numeric c ((hmem c).mpr (.inr hc))) ?_
      rintro rfl
      simp [h, hfraction] at hc
  · rintro ⟨hne, hdigits⟩
    obtain ⟨c, hc⟩ := List.exists_mem_of_ne_nil _ hne
    refine ⟨fun d hd => ?_, ⟨c, (hmem c).mpr (.inr hc), hdigits c hc⟩, ?_⟩
    · rcases (hmem d).mp hd with rfl | hd
      · decide
      · exact isNumeric_of_isDigit (hdigits d hd)
    · rw [hcount]
      intro hpoint
      exact absurd (hdigits '.' (List.mem_append_right whole hpoint)) (by decide)

/-- The numbers are the texts that have a value. -/
theorem number?_isSome_iff {cs : List Char} : (number? cs).isSome ↔ IsNumber cs := by
  unfold number?
  cases hcut : Text.cut '.' cs with
  | none =>
    rw [isNumber_iff_of_not_mem (Text.cut_eq_none_iff.mp hcut)]
    simp
  | some parts =>
    obtain ⟨whole, fraction⟩ := parts
    obtain ⟨rfl, hwhole⟩ := Text.cut_eq_some_iff.mp hcut
    rw [isNumber_iff_of_point hwhole, ← List.all_eq_true]
    exact Option.isSome_ite

theorem unitNanos_isSome_iff {cs : List Char} : (unitNanos cs).isSome ↔ cs ∈ units := by
  unfold unitNanos units
  simp only [List.mem_cons, List.not_mem_nil, or_false, Bool.or_eq_true, decide_eq_true_eq]
  split_ifs <;> simp <;> tauto

/-- No unit has a character in it that belongs to a number. -/
theorem not_isNumeric_of_mem_units {unit : List Char} (h : unit ∈ units) :
    unit ≠ [] ∧ ∀ c ∈ unit, isNumeric c = false := by
  simp only [units, List.mem_cons, List.not_mem_nil, or_false] at h
  rcases h with rfl | rfl | rfl | rfl | rfl | rfl | rfl <;> simp [isNumeric, Decimal.isDigit]

section Spans

variable {p : Char → Bool} {front rest : List Char}

/-- A run of characters goes up to the first that is not of its kind. -/
theorem takeWhile_span (hfront : ∀ c ∈ front, p c = true)
    (hrest : ∀ c, rest.head? = some c → p c = false) : (front ++ rest).takeWhile p = front := by
  rw [List.takeWhile_append_of_pos hfront]
  cases rest with
  | nil => simp
  | cons c rest => simp [hrest c rfl]

theorem dropWhile_span (hfront : ∀ c ∈ front, p c = true)
    (hrest : ∀ c, rest.head? = some c → p c = false) : (front ++ rest).dropWhile p = rest := by
  rw [List.dropWhile_append_of_pos hfront]
  cases rest with
  | nil => rfl
  | cons c rest => simp [hrest c rfl]

end Spans

namespace Token

/-- A token begins with its number. -/
theorem Valid.text_eq_cons {t : Token} (h : t.Valid) :
    ∃ c cs, t.text = c :: cs ∧ isNumeric c = true := by
  obtain ⟨d, hd, -⟩ := h.number.digit
  cases hchars : t.number with
  | nil => simp [hchars] at hd
  | cons c cs =>
    refine ⟨c, cs ++ t.unit, by simp [text, hchars], ?_⟩
    apply h.number.numeric
    simp [hchars]

end Token

theorem isNumeric_of_head_tokens {ts : List Token} (hvalid : ∀ t ∈ ts, t.Valid) {c : Char}
    (h : (ts.flatMap Token.text).head? = some c) : isNumeric c = true := by
  cases ts with
  | nil => simp at h
  | cons t ts =>
    obtain ⟨first, cs, htext, hfirst⟩ := (hvalid t List.mem_cons_self).text_eq_cons
    obtain rfl : first = c := by simpa [htext] using h
    exact hfirst

/-- A round takes the token off that stands in front, if a number or the end follows it. -/
theorem isAt_of_token {t : Token} (h : t.Valid) {rest : List Char}
    (hrest : ∀ c, rest.head? = some c → isNumeric c = true) :
    ∃ r : Round, r.IsAt (t.text ++ rest) ∧ r.rest = rest := by
  obtain ⟨hne, hunit⟩ := not_isNumeric_of_mem_units h.unit
  obtain ⟨value, hvalue⟩ := Option.isSome_iff_exists.mp (number?_isSome_iff.mpr h.number)
  obtain ⟨scale, hscale⟩ := Option.isSome_iff_exists.mp (unitNanos_isSome_iff.mpr h.unit)
  have hbehind : ∀ c, (t.unit ++ rest).head? = some c → isNumeric c = false := by
    intro c hc
    rw [List.head?_append_of_ne_nil _ hne] at hc
    exact hunit c (List.mem_of_head? hc)
  have hunit' : ∀ c ∈ t.unit, (!isNumeric c) = true := by
    intro c hc
    simp [hunit c hc]
  have hrest' : ∀ c, rest.head? = some c → (!isNumeric c) = false := by
    intro c hc
    simp [hrest c hc]
  have htext : t.text ++ rest = t.number ++ (t.unit ++ rest) := List.append_assoc ..
  refine ⟨⟨t.number, t.unit, value * scale, rest⟩, ⟨?_, ?_, ?_, value, scale, hvalue, hscale, rfl⟩, rfl⟩
  · rw [htext]
    exact takeWhile_span h.number.numeric hbehind
  · rw [htext, dropWhile_span h.number.numeric hbehind]
    exact takeWhile_span hunit' hrest'
  · rw [htext, dropWhile_span h.number.numeric hbehind]
    exact dropWhile_span hunit' hrest'

/-- What a round takes off is a token. -/
theorem Round.IsAt.token {r : Round} {cs : List Char} (h : r.IsAt cs) :
    Token.Valid ⟨r.number, r.unit⟩ := by
  obtain ⟨value, scale, hvalue, hscale, -⟩ := h.amount
  constructor
  · exact number?_isSome_iff.mp (Option.isSome_of_eq_some hvalue)
  · exact unitNanos_isSome_iff.mp (Option.isSome_of_eq_some hscale)

/-- The texts with a sum are the sequences of tokens, of no token too. -/
theorem sum_ok_iff (raw : String) (nanos : Float) (cs : List Char) :
    (∃ total, sum raw nanos cs = .ok total) ↔
      ∃ ts : List Token, (∀ t ∈ ts, t.Valid) ∧ cs = ts.flatMap Token.text := by
  constructor
  · -- along the rounds, each of which takes one token off
    rintro ⟨total, htotal⟩
    fun_induction sum raw nanos cs with
    | case1 nanos => exact ⟨[], by simp⟩
    | case2 nanos cs hne e hround => cases htotal
    | case3 nanos cs hne r hround ih =>
      obtain ⟨ts, hvalid, hts⟩ := ih htotal
      have hat : r.IsAt cs := round_eq_ok_iff.mp hround
      refine ⟨⟨r.number, r.unit⟩ :: ts, ?_, ?_⟩
      · simpa using ⟨hat.token, hvalid⟩
      · rw [hat.takes.1, hts, List.flatMap_cons, Token.text]
  · -- along the tokens: the number of the next one, or the end, is where the round stops
    rintro ⟨ts, hvalid, rfl⟩
    induction ts generalizing nanos with
    | nil => exact ⟨nanos, by simp [sum]⟩
    | cons t ts ih =>
      have hts : ∀ u ∈ ts, u.Valid := fun u hu => hvalid u (List.mem_cons_of_mem t hu)
      obtain ⟨r, hat, hrest⟩ := isAt_of_token (hvalid t List.mem_cons_self)
        fun c hc => isNumeric_of_head_tokens hts hc
      obtain ⟨total, htotal⟩ := ih (nanos + r.amount) hts
      have hround : round raw (t.text ++ ts.flatMap Token.text) = .ok r := round_eq_ok_iff.mpr hat
      have hne : t.text ++ ts.flatMap Token.text ≠ [] := by
        obtain ⟨first, cs, htext, -⟩ := (hvalid t List.mem_cons_self).text_eq_cons
        simp [htext]
      refine ⟨total, ?_⟩
      rw [List.flatMap_cons, sum, if_neg hne]
      split
      next e herror => simp [hround] at herror
      next r' hr' =>
        obtain rfl : r = r' := by simpa [hround] using hr'
        rw [hrest]
        exact htotal

/-- What may stand behind a sign does not begin with one. -/
theorem Written.eq_cons {body : List Char} (h : Written body) :
    ∃ c cs, body = c :: cs ∧ isNumeric c = true := by
  cases h with
  | zero => exact ⟨'0', [], by simp, by decide⟩
  | @tokens ts hne hvalid =>
    obtain ⟨t, others, rfl⟩ := List.exists_cons_of_ne_nil hne
    obtain ⟨c, cs, htext, hc⟩ := (hvalid t List.mem_cons_self).text_eq_cons
    exact ⟨c, cs ++ others.flatMap Token.text, by simp [htext], hc⟩

theorem splitSign_spec (cs : List Char) :
    (∃ sign ∈ [[], ['+'], ['-']], cs = sign ++ (splitSign cs).2) ∧
      ((splitSign cs).1 = true ↔ cs.head? = some '-') := by
  unfold splitSign
  split
  · simp
  · simp
  next hminus _ =>
    refine ⟨⟨[], by simp⟩, ?_⟩
    cases cs with
    | nil => simp
    | cons c cs =>
      simp only [Bool.false_eq_true, List.head?_cons, Option.some.injEq, false_iff]
      rintro rfl
      exact hminus cs rfl

theorem splitSign_of_sign {sign body : List Char} (hsign : sign ∈ [[], ['+'], ['-']])
    (hbody : Written body) : (splitSign (sign ++ body)).2 = body := by
  obtain ⟨c, cs, rfl, hc⟩ := hbody.eq_cons
  simp only [List.mem_cons, List.not_mem_nil, or_false] at hsign
  rcases hsign with rfl | rfl | rfl
  · rw [List.nil_append]
    unfold splitSign
    split
    next heq =>
      obtain rfl : c = '-' := by simpa using (List.cons.inj heq).1
      exact absurd hc (by decide)
    next heq =>
      obtain rfl : c = '+' := by simpa using (List.cons.inj heq).1
      exact absurd hc (by decide)
    next => simp
  · simp [splitSign]
  · simp [splitSign]

theorem isDuration_iff {cs : List Char} : IsDuration cs ↔ Written (splitSign cs).2 := by
  constructor
  · rintro ⟨sign, body, rfl, hsign, hbody⟩
    rwa [splitSign_of_sign hsign hbody]
  · intro h
    obtain ⟨⟨sign, hsign, hcs⟩, -⟩ := splitSign_spec cs
    exact ⟨sign, (splitSign cs).2, hcs, hsign, h⟩

theorem written_iff {body : List Char} : Written body ↔ body ≠ [] ∧
    (body = ['0'] ∨ ∃ ts : List Token, (∀ t ∈ ts, t.Valid) ∧ body = ts.flatMap Token.text) := by
  constructor
  · intro h
    obtain ⟨c, cs, hbody, -⟩ := h.eq_cons
    refine ⟨by simp [hbody], ?_⟩
    cases h with
    | zero => exact .inl (by simp)
    | @tokens ts hne hvalid => exact .inr ⟨ts, hvalid, by simp⟩
  · rintro ⟨hne, rfl | ⟨ts, hvalid, rfl⟩⟩
    · exact .zero
    · refine .tokens ?_ hvalid
      rintro rfl
      simp at hne

theorem parse_eq_ok_iff {raw : String} {d : Duration} : parse raw = .ok d ↔
    d.negative = (splitSign raw.toList).1 ∧ (splitSign raw.toList).2 ≠ [] ∧
      (if (splitSign raw.toList).2 = ['0'] then d.nanos = 0
      else ∃ total, sum raw 0.0 (splitSign raw.toList).2 = .ok total ∧
        d.nanos = total.round.toUInt64.toNat) := by
  obtain ⟨negative, nanos⟩ := d
  unfold parse
  generalize splitSign raw.toList = signed
  simp only
  by_cases hnil : signed.2 = []
  · simp [hnil]
  by_cases hzero : signed.2 = ['0']
  · simp [hzero, eq_comm]
  rw [if_neg hnil, if_neg hzero, if_neg hzero]
  cases sum raw 0.0 signed.2 with
  | error e => simp [Except.map]
  | ok total => simp [Except.map, hnil, eq_comm]

theorem parse_ok_iff {raw : String} :
    (∃ d, parse raw = .ok d) ↔ Written (splitSign raw.toList).2 := by
  simp only [parse_eq_ok_iff, written_iff, ← sum_ok_iff raw 0.0]
  constructor
  · rintro ⟨d, -, hne, hd⟩
    refine ⟨hne, ?_⟩
    by_cases hzero : (splitSign raw.toList).2 = ['0']
    · exact .inl hzero
    · rw [if_neg hzero] at hd
      obtain ⟨total, htotal, -⟩ := hd
      exact .inr ⟨total, htotal⟩
  · rintro ⟨hne, hbody⟩
    by_cases hzero : (splitSign raw.toList).2 = ['0']
    · exact ⟨⟨(splitSign raw.toList).1, 0⟩, by simp, hne, by simp [hzero]⟩
    · obtain ⟨total, htotal⟩ := hbody.resolve_left hzero
      refine ⟨⟨(splitSign raw.toList).1, total.round.toUInt64.toNat⟩, by simp, hne, ?_⟩
      simp [hzero, htotal]

/-- Exactly the texts that are durations can be read, and the sign is that of the text. Every round has a
result, so no text is cut inside a character; and what a round takes off is a number and a unit, each as
long as it can be. -/
theorem parse_reads (raw : String) :
    ((∃ d, parse raw = .ok d) ↔ IsDuration raw.toList) ∧
    (∀ d, parse raw = .ok d → (d.negative = true ↔ raw.toList.head? = some '-')) ∧
    ∀ cs, ∃ result, round? raw cs = some result ∧ ∀ r, result = .ok r →
      r.IsAt cs ∧ cs = r.number ++ r.unit ++ r.rest ∧ r.number ≠ [] ∧ r.unit ≠ [] := by
  refine ⟨?_, ?_, ?_⟩
  · rw [parse_ok_iff, isDuration_iff]
  · intro d hd
    rw [(parse_eq_ok_iff.mp hd).1]
    exact (splitSign_spec raw.toList).2
  · intro cs
    refine ⟨round raw cs, round?_eq_round raw cs, fun r hr => ?_⟩
    have hat : r.IsAt cs := round_eq_ok_iff.mp hr
    exact ⟨hat, hat.takes⟩

theorem parse_reads_of_micro :
    ∃ d, parse "-1.5µs" = .ok d ∧ d.negative = true ∧ IsDuration "-1.5µs".toList := by
  have hnumber : IsNumber ['1', '.', '5'] :=
    ⟨by simp [isNumeric, Decimal.isDigit], ⟨'1', by simp, by decide⟩, by decide⟩
  have hvalid : ∀ t ∈ [Token.mk ['1', '.', '5'] ['µ', 's']], t.Valid := by
    simp only [List.mem_singleton, forall_eq]
    exact ⟨hnumber, by simp [units]⟩
  have hduration : IsDuration "-1.5µs".toList := by
    refine ⟨['-'], _, ?_, by simp, .tokens (by simp) hvalid⟩
    simp [Token.text]
  obtain ⟨hread, hsign, -⟩ := parse_reads "-1.5µs"
  obtain ⟨d, hd⟩ := hread.mpr hduration
  exact ⟨d, hd, (hsign d hd).mpr (by decide), hduration⟩

end NodeGroups.Duration
