import NodeGroups.Proofs.Growth
import NodeGroups.Proofs.Text.Decimals

/-!
The name of a machine tells its group and the number that was drawn for it. The number is what follows the
last hyphen, since there is none in a decimal, so the name of the group may have hyphens and digits in it.
Only where a name is cut can this be lost. The largest number has twenty digits, which together with the
hyphen leave room for 42 characters.
-/

namespace NodeGroups

/-- A name before it is cut. -/
def uncutName (base : String) (value : UInt64) : String := base ++ "-" ++ toString value.toNat

variable {base base' : String} {value value' : UInt64}

theorem uncutName_toList (base : String) (value : UInt64) :
    (uncutName base value).toList = base.toList ++ '-' :: (toString value.toNat).toList := by
  simp [uncutName]

theorem randomName_toList (base : String) (value : UInt64) :
    (randomName base value).toList = (uncutName base value).toList.take maxNameLength := by
  rw [randomName, String.toList_ofList, uncutName]

theorem length_uncutName (base : String) (value : UInt64) :
    (uncutName base value).length = base.length + 1 + (toString value.toNat).length := by
  rw [← String.length_toList, uncutName_toList, List.length_append, List.length_cons,
    String.length_toList, String.length_toList]
  omega

theorem length_randomName (base : String) (value : UInt64) :
    (randomName base value).length = min maxNameLength (uncutName base value).length := by
  rw [← String.length_toList, randomName_toList, List.length_take, String.length_toList]

theorem randomName_prefix (base : String) (value : UInt64) :
    (randomName base value).toList <+: (uncutName base value).toList := by
  rw [randomName_toList]
  exact List.take_prefix _ _

theorem randomName_eq_uncutName_iff :
    randomName base value = uncutName base value ↔ (uncutName base value).length ≤ maxNameLength := by
  constructor
  · intro h
    rw [← h, length_randomName]
    exact Nat.min_le_left _ _
  · intro h
    rw [← String.toList_inj, randomName_toList]
    exact List.take_of_length_le (by rwa [String.length_toList])

theorem length_toString_le (value : UInt64) : (toString value.toNat).length ≤ 20 := by
  rw [← String.length_toList, Nat.toString_eq_ofList_toDigits, String.toList_ofList,
    Nat.length_toDigits_le_iff (by decide) (by decide)]
  exact Nat.lt_trans value.toNat_lt (by decide)

/-- Twenty digits are not too many: the largest number has them. -/
theorem length_toString_max : (toString (UInt64.ofNat (UInt64.size - 1)).toNat).length = 20 := by
  decide

/-- No number makes a name too long exactly when the base has 42 characters at most. -/
theorem forall_uncut_iff :
    (∀ value, randomName base value = uncutName base value) ↔ base.length ≤ 42 := by
  simp only [randomName_eq_uncutName_iff, length_uncutName]
  constructor
  · intro h
    have hmax : base.length + 1 + (toString (UInt64.ofNat (UInt64.size - 1)).toNat).length ≤
        maxNameLength := h _
    rw [length_toString_max, maxNameLength] at hmax
    omega
  · intro h value
    have hdigits : (toString value.toNat).length ≤ 20 := length_toString_le value
    rw [maxNameLength]
    omega

/-- What follows the last hyphen is the number, and what comes before it is the base. -/
theorem uncutName_inj :
    uncutName base value = uncutName base' value' ↔ base = base' ∧ value = value' := by
  constructor
  · intro h
    have hlists : base.toList ++ '-' :: (toString value.toNat).toList =
        base'.toList ++ '-' :: (toString value'.toNat).toList := by
      rw [← uncutName_toList, ← uncutName_toList, h]
    have hyphen (v : UInt64) : '-' ∉ (toString v.toNat).toList.reverse := by
      rw [List.mem_reverse]
      exact Decimal.not_mem_toString (by decide) v.toNat
    -- from its end, the text is cut at the first hyphen
    have hreversed : (toString value.toNat).toList.reverse ++ '-' :: base.toList.reverse =
        (toString value'.toNat).toList.reverse ++ '-' :: base'.toList.reverse := by
      simpa using congrArg List.reverse hlists
    obtain ⟨hnumber, hbase⟩ := Text.eq_of_append_sep (hyphen value) (hyphen value') hreversed
    rw [List.reverse_inj, String.toList_inj, Decimal.toString_inj, UInt64.toNat_inj] at hnumber
    rw [List.reverse_inj, String.toList_inj] at hbase
    exact ⟨hbase, hnumber⟩
  · rintro ⟨rfl, rfl⟩
    rfl

theorem eq_of_randomName_eq (h : base.length ≤ 42) (h' : base'.length ≤ 42)
    (same : randomName base value = randomName base' value') : base = base' ∧ value = value' := by
  rw [forall_uncut_iff.mpr h, forall_uncut_iff.mpr h'] at same
  exact uncutName_inj.mp same

/-- The random numbers drawn in some events. -/
def drawn (es : List Event) : List UInt64 :=
  es.filterMap fun
    | .drew value => some value
    | _ => none

/-- The machines asked for in the batches among some events, each with the unit that asks for it. -/
def deployments (es : List Event) : List (DeployRequest × Nat) :=
  es.flatMap fun
    | .batch ms => picked Moment.deployment? ms
    | _ => []

section

variable {World : Type} {cloud : Cloud World} {w w₁ : World} {es : List Event} {p : Provisioner}
  {d : GroupDefinition} {count : Nat} {result : Except Error Unit}

/-- The machine that a unit asks for has the name made for it: of the group's name and the number drawn
for the unit. -/
theorem Provisioner.name_of_deployment (h : (p.scaleUp d count).Run cloud w es result w₁)
    {r : DeployRequest} {i : Nat} (hr : (r, i) ∈ deployments es) :
    ∃ value, (drawn es)[i]? = some value ∧ r.name = some (randomName d.name value) := by
  obtain ⟨values, ms, results, -, rfl, hends, -⟩ := scaleUp_run_iff.mp h
  have hdrawn : drawn (values.map .drew ++ [.batch ms]) = values := by
    simp [drawn, List.filterMap_map]
  have hbatch : deployments (values.map .drew ++ [.batch ms]) = picked Moment.deployment? ms := by
    simp [deployments, List.flatMap_map]
  rw [hbatch, (deployments_perm hends).mem_iff, List.mk_mem_zipIdx_iff_getElem?] at hr
  obtain ⟨name, hname, rfl⟩ := Option.map_eq_some_iff.mp (List.getElem?_map ▸ hr)
  obtain ⟨value, hvalue, rfl⟩ := Option.map_eq_some_iff.mp (List.getElem?_map ▸ hname)
  exact ⟨value, by rw [hdrawn, hvalue], rfl⟩

end

/-- A name has at most 63 characters and is the beginning of the group's name, a hyphen and a decimal. It
is all of that for every number exactly when the group's name has at most 42 characters. Of such groups
two names are equal only if the groups' names are and the numbers are, so machines that are asked for
at once or for different groups have the same name only where the same number was drawn. -/
theorem randomName_tells_apart :
    (∀ base value, (randomName base value).length ≤ 63 ∧
      (randomName base value).length = min 63 (uncutName base value).length ∧
      (randomName base value).toList <+: (base ++ "-" ++ toString value.toNat).toList) ∧
    (∀ base, (∀ value, randomName base value = base ++ "-" ++ toString value.toNat) ↔
      base.length ≤ 42) ∧
    (∀ base base' value value', base.length ≤ 42 → base'.length ≤ 42 →
      (randomName base value = randomName base' value' ↔ base = base' ∧ value = value')) ∧
    ∀ {World World' : Type} {cloud : Cloud World} {cloud' : Cloud World'} {w w₁ : World}
      {w' w₁' : World'} {es es' : List Event} {p p' : Provisioner} {d d' : GroupDefinition}
      {count count' : Nat} {result result' : Except Error Unit},
      d.name.length ≤ 42 → d'.name.length ≤ 42 →
      (p.scaleUp d count).Run cloud w es result w₁ →
      (p'.scaleUp d' count').Run cloud' w' es' result' w₁' →
      ∀ r i r' i', (r, i) ∈ deployments es → (r', i') ∈ deployments es' → r.name = r'.name →
        d.name = d'.name ∧ ∃ value, (drawn es)[i]? = some value ∧ (drawn es')[i']? = some value := by
  refine ⟨fun base value => ?_, fun base => forall_uncut_iff, ?_, ?_⟩
  · have hlength := length_randomName base value
    exact ⟨hlength ▸ Nat.min_le_left _ _, hlength, randomName_prefix base value⟩
  · intro base base' value value' h h'
    constructor
    · exact eq_of_randomName_eq h h'
    · rintro ⟨rfl, rfl⟩
      rfl
  · intro World World' cloud cloud' w w₁ w' w₁' es es' p p' d d' count count' result result' h h' run run'
      r i r' i' hr hr' same
    obtain ⟨value, hvalue, hname⟩ := Provisioner.name_of_deployment run hr
    obtain ⟨value', hvalue', hname'⟩ := Provisioner.name_of_deployment run' hr'
    rw [hname, hname', Option.some.injEq] at same
    obtain ⟨hbase, rfl⟩ := eq_of_randomName_eq h h' same
    exact ⟨hbase, value, hvalue, hvalue'⟩

/-- A group whose name ends like the name of a machine. -/
def hyphenated : GroupDefinition := .new default (.ofList [("nodeGroupName", "web-1")])

/-- A scale-up by one machine, the reply to whose deployment is lost. -/
def lostUnit (d : GroupDefinition) (value : UInt64) : List Event :=
  let r := (DeployRequest.ofDefinition d).withName (randomName d.name value)
  [.drew value, .batch [(0, .asked (.deploy r)),
    (0, .answered (.deploy r) (.error ⟨none, .connection "reset"⟩)),
    (0, .ended (.error (.connection "reset")))]]

theorem lostUnit_run (d : GroupDefinition) (value : UInt64) :
    (Provisioner.scaleUp ⟨false⟩ d 1).Run Cloud.any () (lostUnit d value)
      (.error (.scaleUp [(Error.connection "reset").message])) () :=
  Provisioner.scaleUp_run_iff.mpr ⟨[value], _, [.error (.connection "reset")], rfl, rfl,
    .cons rfl .ask rfl (.cons rfl .answer rfl (.cons rfl .finish rfl .nil)), rfl⟩

theorem randomName_tells_apart_of_hyphens :
    "web-1".length ≤ 42 ∧ "web".length ≤ 42 ∧ randomName "web-1" 12 ≠ randomName "web" 112 ∧
      hyphenated.name.length ≤ 42 ∧ (Provisioner.scaleUp ⟨false⟩ hyphenated 1).Run Cloud.any ()
        (lostUnit hyphenated 12) (.error (.scaleUp [(Error.connection "reset").message])) () ∧
      ∃ value, (drawn (lostUnit hyphenated 12))[0]? = some value ∧
        (drawn (lostUnit hyphenated 12))[0]? = some value := by
  obtain ⟨-, -, htwo, hscaled⟩ := randomName_tells_apart
  have hlong : "web-1".length ≤ 42 := by decide
  have hshort : "web".length ≤ 42 := by decide
  have hname : hyphenated.name.length ≤ 42 := by decide
  have hdiffer : randomName "web-1" 12 ≠ randomName "web" 112 := fun same =>
    absurd ((htwo _ _ _ _ hlong hshort).mp same).1 (by decide)
  have hrun := lostUnit_run hyphenated 12
  obtain ⟨-, hvalue⟩ := hscaled hname hname hrun hrun _ 0 _ 0 List.mem_cons_self List.mem_cons_self rfl
  exact ⟨hlong, hshort, hdiffer, hname, hrun, hvalue⟩

end NodeGroups
