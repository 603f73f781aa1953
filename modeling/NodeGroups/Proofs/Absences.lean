import Mathlib.Data.List.Infix
import NodeGroups.Proofs.Operations
import NodeGroups.Proofs.Text.Decimals

/-!
Whether an error says that a machine does not exist is read off its text. The API writes the id of the
missing machine between two fixed texts, and where it stands can be told without doubt: the first of them
begins with a character that is nowhere else in it, so that two occurrences never overlap, and the id has
no space in it, so that it ends with the first one.
-/

namespace NodeGroups

namespace Text

variable {first : Char} {rest before after : List Char}

/-- A mark cannot begin where its first character is missing. -/
theorem infix_of_infix_append (hfirst : first ∉ before) (h : first :: rest <:+: before ++ after) :
    first :: rest <:+: after := by
  induction before with
  | nil => exact h
  | cons c before ih =>
    rw [List.mem_cons, not_or] at hfirst
    rcases List.infix_cons_iff.mp h with hstart | hlater
    · have same : first = c := (List.cons_prefix_cons.mp hstart).1
      exact absurd same hfirst.1
    · exact ih hfirst.2 hlater

/-- A mark whose first character is nowhere else in it does not begin inside itself. -/
theorem eq_nil_or_prefix_of_marks {gap later later' : List Char} (hfirst : first ∉ rest)
    (h : (first :: rest) ++ later = gap ++ ((first :: rest) ++ later')) :
    gap = [] ∨ first :: rest <+: gap := by
  rcases List.append_eq_append_iff.mp h with ⟨more, rfl, -⟩ | ⟨tail, hmark, htail⟩
  · exact .inr (List.prefix_append _ _)
  · cases gap with
    | nil => exact .inl rfl
    | cons c gap =>
      cases tail with
      | nil =>
        rw [List.append_nil] at hmark
        exact .inr (hmark ▸ List.prefix_rfl)
      | cons d tail =>
        -- the second mark would begin inside the first one, behind its first character
        obtain ⟨-, hrest⟩ := List.cons.inj hmark
        obtain ⟨hd, -⟩ := List.cons.inj htail
        rw [← hd] at hrest
        exact absurd (by simp [hrest]) hfirst

/-- Wherever such a mark is found in a text, it is found in front of a place where it stands, right
there, or behind it. -/
theorem found_apart {u v : List Char} (hfirst : first ∉ rest)
    (h : u ++ ((first :: rest) ++ v) = before ++ ((first :: rest) ++ after)) :
    first :: rest <:+: before ∨ v = after ∨ first :: rest <:+: after := by
  rcases List.append_eq_append_iff.mp h with ⟨gap, rfl, hgap⟩ | ⟨gap, rfl, hgap⟩
  · rcases eq_nil_or_prefix_of_marks hfirst hgap with rfl | hmark
    · exact .inr (.inl (List.append_cancel_left hgap))
    · exact .inl (hmark.isInfix.trans (List.suffix_append u gap).isInfix)
  · rcases eq_nil_or_prefix_of_marks hfirst hgap with rfl | ⟨more, rfl⟩
    · exact .inr (.inl (List.append_cancel_left hgap).symm)
    · rw [List.append_assoc] at hgap
      have hafter : after = more ++ ((first :: rest) ++ v) := List.append_cancel_left hgap
      exact .inr (.inr ⟨more, v, by rw [hafter, List.append_assoc]⟩)

end Text

namespace Error

theorem notFoundStart_toList : notFoundStart.toList = 'I' :: "nvalid parameter id value=".toList := by
  simp [notFoundStart]

theorem notFoundEnd_toList : notFoundEnd.toList =
    ' ' :: "due to incorrect long value format, or entity does not exist".toList := by
  simp [notFoundEnd]

/-- What an error of the API begins with. -/
def apiFront (code : String) : String := "CloudStack API error " ++ code ++ ": "

theorem message_api (code : UInt16) (text : String) :
    (api code text).message.toList = (apiFront (toString code.toNat)).toList ++ text.toList :=
  String.toList_append

/-- The text in front of an id does not begin in what comes before the message. -/
theorem start_of_front {code : String} {cs : List Char} (hcode : 'I' ∉ code.toList)
    (h : notFoundStart.toList <:+: (apiFront code).toList ++ cs) : notFoundStart.toList <:+: cs := by
  have hstart : notFoundStart.toList = 'I' :: 'n' :: "valid parameter id value=".toList := by
    simp [notFoundStart]
  have hname : "CloudStack API error ".toList = "CloudStack AP".toList ++ 'I' :: ' ' :: "error ".toList := by
    simp
  have hfront : (apiFront code).toList = "CloudStack AP".toList ++
      'I' :: ' ' :: ("error ".toList ++ (code.toList ++ ": ".toList)) := by
    unfold apiFront
    rw [String.toList_append, String.toList_append, hname]
    simp only [List.append_assoc, List.cons_append]
  rw [hfront, hstart, List.append_assoc] at h
  have hI := Text.infix_of_infix_append (by decide) h
  rw [List.cons_append, List.infix_cons_iff] at hI
  rcases hI with hhere | hlater
  · have hnext := (List.cons_prefix_cons.mp hhere).2
    have same : 'n' = ' ' := (List.cons_prefix_cons.mp hnext).1
    exact absurd same (by decide)
  · rw [hstart]
    refine Text.infix_of_infix_append ?_ hlater
    simp [hcode]

/-- Nor does it begin in an id without spaces, or in the text behind the id. -/
theorem start_of_named {id : String} {cs : List Char} (hid : ' ' ∉ id.toList)
    (h : notFoundStart.toList <:+: id.toList ++ (notFoundEnd.toList ++ cs)) :
    notFoundStart.toList <:+: cs := by
  have hstart : notFoundStart.toList = "Invalid".toList ++ ' ' :: "parameter id value=".toList := by
    simp [notFoundStart]
  rcases List.infix_append_iff.mp h with hinside | hbehind | ⟨head, tail, hsplit, hhead, htail⟩
  · have hspace : ' ' ∈ notFoundStart.toList := by decide
    exact absurd (hinside.subset hspace) hid
  · rw [notFoundStart_toList] at hbehind ⊢
    exact Text.infix_of_infix_append (by simp [notFoundEnd]) hbehind
  · have hnone : ' ' ∉ head := fun hmem => hid (hhead.subset hmem)
    cases tail with
    | nil =>
      rw [List.append_nil] at hsplit
      exact absurd (by rw [← hsplit]; decide) hnone
    | cons c tail =>
      -- the first space of the text in front would be the one that ends the id, but another word follows
      rw [notFoundEnd_toList, List.cons_append, List.cons_prefix_cons] at htail
      obtain ⟨rfl, htail⟩ := htail
      rw [hstart] at hsplit
      obtain ⟨-, rfl⟩ := Text.eq_of_append_sep (by decide) hnone hsplit
      have same : 'p' = 'd' := (List.cons_prefix_cons.mp htail).1
      exact absurd same (by decide)

variable {id other before after : String}

/-- An error that says of one machine that it does not exist says so of no other machine. -/
theorem isNotFound_api_iff (code : UInt16) (hid : ' ' ∉ id.toList) (hother : ' ' ∉ other.toList)
    (hbefore : ¬ notFoundStart.toList <:+: before.toList)
    (hafter : ¬ notFoundStart.toList <:+: after.toList) :
    (api code (before ++ notFoundText id ++ after)).isNotFound other = true ↔ id = other := by
  have hcode : 'I' ∉ (toString code.toNat).toList := Decimal.not_mem_toString (by decide) code.toNat
  generalize hfront : apiFront (toString code.toNat) = front
  have hmessage : (api code (before ++ notFoundText id ++ after)).message.toList =
      (front.toList ++ before.toList) ++
        (notFoundStart.toList ++ (id.toList ++ (notFoundEnd.toList ++ after.toList))) := by
    rw [message_api, hfront]
    simp only [notFoundText, String.toList_append, List.append_assoc]
  rw [isNotFound, Text.occursIn_iff, hmessage]
  constructor
  · rintro ⟨u, v, huv⟩
    have hfound : u ++ (notFoundStart.toList ++ (other.toList ++ (notFoundEnd.toList ++ v))) =
        (front.toList ++ before.toList) ++
          (notFoundStart.toList ++ (id.toList ++ (notFoundEnd.toList ++ after.toList))) := by
      rw [← huv]
      simp only [notFoundText, String.toList_append, List.append_assoc]
    rw [notFoundStart_toList] at hfound
    rcases Text.found_apart (by decide) hfound with hin | hhere | hin
    · rw [← notFoundStart_toList] at hin
      rw [← hfront] at hin
      exact absurd (start_of_front hcode hin) hbefore
    · rw [notFoundEnd_toList, List.cons_append, List.cons_append] at hhere
      obtain ⟨same, -⟩ := Text.eq_of_append_sep hother hid hhere
      exact (String.toList_inj.mp same).symm
    · rw [← notFoundStart_toList] at hin
      exact absurd (start_of_named hid hin) hafter
  · rintro rfl
    refine ⟨front.toList ++ before.toList, after.toList, ?_⟩
    simp only [notFoundText, String.toList_append, List.append_assoc]

end Error

namespace Provisioner

/-- An error of the API that says of a machine that it does not exist is about that machine only. When the
destruction of a machine is answered by it, the machine counts as destroyed if it is the one that is
named. If another one is, the error is given back as it came. -/
theorem destroy_of_absence (p : Provisioner) (code : UInt16) {id other before after : String}
    (hid : ' ' ∉ id.toList) (hother : ' ' ∉ other.toList)
    (hbefore : ¬ "Invalid parameter id value=".toList <:+: before.toList)
    (hafter : ¬ "Invalid parameter id value=".toList <:+: after.toList) :
    let e := Error.api code (before ++ ("Invalid parameter id value=" ++ id ++
      " due to incorrect long value format, or entity does not exist") ++ after)
    (e.isNotFound other = true ↔ id = other) ∧
      ∀ es result, (p.destroy other).toProgram.Run Cloud.any ()
          (.called (.destroy ⟨other, p.expunge⟩) (.error e) :: es) result () ↔
        es = [] ∧ result = if id = other then .ok () else .error e := by
  intro e
  have hiff : e.isNotFound other = true ↔ id = other :=
    Error.isNotFound_api_iff code hid hother hbefore hafter
  refine ⟨hiff, fun es result => ?_⟩
  rw [destroy_run_iff]
  simp only [← hiff]
  constructor
  · intro h
    obtain ⟨reply, hes, -, hresult⟩ := h
    obtain ⟨hevent, rfl⟩ := List.cons.inj hes
    cases hevent
    exact ⟨rfl, hresult⟩
  · rintro ⟨rfl, rfl⟩
    exact ⟨.error e, rfl, rfl, rfl⟩

/-- The API says of `vm12` that it does not exist, and repeats a part of its text. The machine `vm1` stays,
although its id is the beginning of the one that is named. -/
theorem destroy_of_absence_of_longer :
    let e := Error.api 431 ("Invalid parameter: " ++ ("Invalid parameter id value=" ++ "vm12" ++
      " due to incorrect long value format, or entity does not exist") ++ " id value=vm1")
    ' ' ∉ "vm12".toList ∧ ' ' ∉ "vm1".toList ∧
      ¬ "Invalid parameter id value=".toList <:+: "Invalid parameter: ".toList ∧
      ¬ "Invalid parameter id value=".toList <:+: " id value=vm1".toList ∧ e.isNotFound "vm1" = false ∧
      (destroy ⟨true⟩ "vm1").toProgram.Run Cloud.any () [.called (.destroy ⟨"vm1", true⟩) (.error e)]
        (.error e) () := by
  have hid : ' ' ∉ "vm12".toList := by decide
  have hother : ' ' ∉ "vm1".toList := by decide
  have hbefore : ¬ "Invalid parameter id value=".toList <:+: "Invalid parameter: ".toList := by
    intro h
    have hlength := h.length_le
    simp at hlength
  have hafter : ¬ "Invalid parameter id value=".toList <:+: " id value=vm1".toList := by
    intro h
    have hlength := h.length_le
    simp at hlength
  obtain ⟨hiff, hrun⟩ := destroy_of_absence ⟨true⟩ 431 hid hother hbefore hafter
  have hne : "vm12" ≠ "vm1" := by decide
  refine ⟨hid, hother, hbefore, hafter, ?_, ?_⟩
  · rw [← Bool.not_eq_true, hiff]
    exact hne
  · rw [hrun, if_neg hne]
    exact ⟨rfl, rfl⟩

end Provisioner
end NodeGroups
