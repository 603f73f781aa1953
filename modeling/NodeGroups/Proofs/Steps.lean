import Mathlib.Data.List.Basic
import NodeGroups.Proofs.Programs

namespace NodeGroups

/-- The error that a reply is, if it is one. -/
def Call.failure? : (c : Call) → c.Reply → Option Error
  | deploy _, .error f => some f.error
  | listProjects, .error e | listProfiles _, .error e | listDetails _, .error e
  | listMachines _, .error e | getOffering _, .error e | getZone _, .error e
  | tag _, .error e | destroy _, .error e => some e
  | deploy _, .ok _ | listProjects, .ok _ | listProfiles _, .ok _ | listDetails _, .ok _
  | listMachines _, .ok _ | getOffering _, .ok _ | getZone _, .ok _
  | tag _, .ok _ | destroy _, .ok _ => none

/-- A step that may fail: a call with its reply, or a check of what is known already. -/
inductive Step
  | read (c : Call) (reply : c.Reply)
  | check (failure : Option Error)

namespace Step

def failure? : Step → Option Error
  | read c reply => c.failure? reply
  | check failure => failure

/-- A check is not seen from outside. -/
def event? : Step → Option Event
  | read c reply => some (.called c reply)
  | check _ => none

/-- The error of the first step that fails. -/
def outcome (steps : List Step) : Except Error Unit :=
  match steps.findSome? failure? with
  | none => .ok ()
  | some e => .error e

/-- What is seen of steps that are taken until one fails. -/
def events : List Step → List Event
  | [] => []
  | step :: steps => step.event?.toList ++ if step.failure?.isSome then [] else events steps

variable {step : Step} {steps before : List Step} {e : Error}

theorem outcome_cons_of_none (h : step.failure? = none) : outcome (step :: steps) = outcome steps := by
  rw [outcome, outcome, List.findSome?_cons, h]

theorem outcome_cons_of_some (h : step.failure? = some e) : outcome (step :: steps) = .error e := by
  rw [outcome, List.findSome?_cons, h]

theorem events_cons_of_none (h : step.failure? = none) :
    events (step :: steps) = step.event?.toList ++ events steps := by
  simp [events, h]

theorem events_cons_of_some (h : step.failure? = some e) :
    events (step :: steps) = step.event?.toList := by
  simp [events, h]

theorem outcome_eq_ok_iff : outcome steps = .ok () ↔ ∀ step ∈ steps, step.failure? = none := by
  rw [outcome, ← List.findSome?_eq_none_iff]
  cases steps.findSome? failure? <;> simp

theorem outcome_of_map_error {σ : Type} {f : Unit → σ} (h : (outcome steps).map f = .error e) :
    outcome steps = .error e := by
  cases hsteps : outcome steps with
  | ok u =>
    rw [hsteps] at h
    cases h
  | error e' =>
    rw [hsteps] at h
    cases h
    rfl

theorem outcome_of_map_ok {σ : Type} {s s' : σ} (h : ((outcome steps).map fun () => s) = .ok s') :
    outcome steps = .ok () ∧ s' = s := by
  cases hsteps : outcome steps with
  | ok u =>
    rw [hsteps] at h
    cases h
    exact ⟨rfl, rfl⟩
  | error e' =>
    rw [hsteps] at h
    cases h

theorem outcome_append_of_ok (h : outcome before = .ok ()) (after : List Step) :
    outcome (before ++ after) = outcome after ∧ events (before ++ after) =
      events before ++ events after := by
  induction before with
  | nil => exact ⟨rfl, rfl⟩
  | cons step before ih =>
    obtain ⟨hfirst, hrest⟩ := List.forall_mem_cons.mp (outcome_eq_ok_iff.mp h)
    obtain ⟨houtcome, hevents⟩ := ih (outcome_eq_ok_iff.mpr hrest)
    rw [List.cons_append, outcome_cons_of_none hfirst, events_cons_of_none hfirst,
      events_cons_of_none hfirst, houtcome, hevents, List.append_assoc]
    exact ⟨rfl, rfl⟩

theorem outcome_append_of_error (h : outcome before = .error e) (after : List Step) :
    outcome (before ++ after) = .error e ∧ events (before ++ after) = events before := by
  induction before with
  | nil => cases h
  | cons step before ih =>
    rw [List.cons_append]
    cases hfirst : step.failure? with
    | none =>
      rw [outcome_cons_of_none hfirst] at h
      obtain ⟨houtcome, hevents⟩ := ih h
      rw [outcome_cons_of_none hfirst, events_cons_of_none hfirst, events_cons_of_none hfirst,
        houtcome, hevents]
      exact ⟨rfl, rfl⟩
    | some e' =>
      rw [outcome_cons_of_some hfirst] at h
      cases h
      rw [outcome_cons_of_some hfirst, events_cons_of_some hfirst, events_cons_of_some hfirst]
      exact ⟨rfl, rfl⟩

theorem events_of_ok (h : outcome steps = .ok ()) : events steps = steps.filterMap event? := by
  induction steps with
  | nil => rfl
  | cons step steps ih =>
    obtain ⟨hfirst, hrest⟩ := List.forall_mem_cons.mp (outcome_eq_ok_iff.mp h)
    rw [events_cons_of_none hfirst, ih (outcome_eq_ok_iff.mpr hrest)]
    cases hevent : step.event? <;> simp [hevent]

/-- Steps that fail go well up to one of them, and nothing is seen of those after it. -/
theorem exists_of_outcome_error (h : outcome steps = .error e) :
    ∃ before step after, steps = before ++ step :: after ∧ outcome before = .ok () ∧
      step.failure? = some e ∧ events steps = before.filterMap event? ++ step.event?.toList := by
  induction steps with
  | nil => cases h
  | cons step steps ih =>
    cases hfirst : step.failure? with
    | none =>
      rw [outcome_cons_of_none hfirst] at h
      obtain ⟨before, failed, after, rfl, hbefore, hfailed, hevents⟩ := ih h
      refine ⟨step :: before, failed, after, rfl, ?_, hfailed, ?_⟩
      · rw [outcome_cons_of_none hfirst, hbefore]
      · rw [events_cons_of_none hfirst, hevents, ← List.append_assoc]
        congr 1
        cases hevent : step.event? <;> simp [hevent]
    | some e' =>
      rw [outcome_cons_of_some hfirst] at h
      cases h
      exact ⟨[], step, steps, rfl, rfl, hfirst, events_cons_of_some hfirst⟩

section

variable {σ ι : Type} (steps : σ → ι → List Step) (after : σ → ι → σ)

/-- The steps for items one after the other. What is known grows with every item. -/
def inOrder (s : σ) : List ι → List Step
  | [] => []
  | i :: items => steps s i ++ inOrder (after s i) items

variable {steps after} in
theorem inOrder_cons_of_error {s : σ} {i : ι} {e : Error} (h : outcome (steps s i) = .error e)
    (items : List ι) : outcome (inOrder steps after s (i :: items)) = .error e ∧
      events (inOrder steps after s (i :: items)) = events (steps s i) :=
  outcome_append_of_error h _

variable {steps after} in
theorem inOrder_cons_of_ok {s : σ} {i : ι} (h : outcome (steps s i) = .ok ()) (items : List ι) :
    outcome (inOrder steps after s (i :: items)) = outcome (inOrder steps after (after s i) items) ∧
      events (inOrder steps after s (i :: items)) =
        events (steps s i) ++ events (inOrder steps after (after s i) items) :=
  outcome_append_of_ok h _

variable {steps after} in
/-- Where what is known stays good exactly as long as the steps of an item are good, all steps are good
exactly if what is known in the end is. -/
theorem forall_mem_inOrder_iff {Good : σ → Prop} {Passes : Step → Prop}
    (hbefore : ∀ s i, Good (after s i) → Good s)
    (hstep : ∀ s i, Good s → ((∀ step ∈ steps s i, Passes step) ↔ Good (after s i)))
    {items : List ι} {s : σ} (hs : Good s) :
    (∀ step ∈ inOrder steps after s items, Passes step) ↔ Good (items.foldl after s) := by
  have hfold (items : List ι) (s : σ) (h : Good (items.foldl after s)) : Good s := by
    induction items generalizing s with
    | nil => exact h
    | cons i items ih => exact hbefore s i (ih (after s i) h)
  induction items generalizing s with
  | nil => exact ⟨fun _ => hs, fun _ step hstep => nomatch hstep⟩
  | cons i items ih =>
    rw [inOrder, List.forall_mem_append, List.foldl_cons]
    constructor
    · intro h
      have hnext := (hstep s i hs).mp h.1
      exact (ih hnext).mp h.2
    · intro h
      have hnext := hfold items (after s i) h
      exact ⟨(hstep s i hs).mpr hnext, (ih hnext).mpr h⟩

theorem exists_subset_inOrder (s : σ) {i : ι} {items : List ι} (h : i ∈ items) :
    ∃ s', steps s' i ⊆ inOrder steps after s items := by
  induction items generalizing s with
  | nil => cases h
  | cons j items ih =>
    rw [inOrder]
    rcases List.mem_cons.mp h with rfl | h
    · exact ⟨s, List.subset_append_left _ _⟩
    · obtain ⟨s', hs'⟩ := ih (after s j) h
      exact ⟨s', List.subset_append_of_subset_right _ hs'⟩

end

end Step

namespace Program

variable {σ : Type} {es : List Event} {result : Except Error σ}

/-- A run that gathers something, or fails. What it had gathered when it failed does not count. -/
def Gathers (p : Program (Except Error Unit × σ)) (es : List Event) (result : Except Error σ) : Prop :=
  ∃ ended s, p.Run Cloud.any () es (ended, s) () ∧ result = ended.map fun () => s

theorem gathers_done_iff {ended : Except Error Unit} {s : σ} :
    (done (ended, s)).Gathers es result ↔ es = [] ∧ result = ended.map fun () => s := by
  constructor
  · intro h
    obtain ⟨_, _, hrun, rfl⟩ := h
    obtain ⟨rfl, hpair, -⟩ := run_done_iff.mp hrun
    cases hpair
    exact ⟨rfl, rfl⟩
  · intro h
    obtain ⟨rfl, rfl⟩ := h
    exact ⟨ended, s, .done, rfl⟩

theorem gathers_call_iff {c : Call} {next : c.Reply → Program (Except Error Unit × σ)} :
    (call c next).Gathers es result ↔
      ∃ reply rest, es = .called c reply :: rest ∧ (next reply).Gathers rest result := by
  constructor
  · intro h
    obtain ⟨ended, s, hrun, rfl⟩ := h
    cases hrun with
    | call change rest => exact ⟨_, _, rfl, ended, s, rest, rfl⟩
  · intro h
    obtain ⟨reply, rest, rfl, ended, s, hrun, rfl⟩ := h
    exact ⟨ended, s, .call rfl hrun, rfl⟩

/-- A program that goes on with what another one gathered, unless that one failed. -/
def andThen {τ : Type} (p : Program (Except Error Unit × σ)) (stop : σ → τ)
    (q : σ → Program (Except Error Unit × τ)) : Program (Except Error Unit × τ) :=
  p.bind fun
    | (.error e, s) => .done (.error e, stop s)
    | (.ok (), s) => q s

theorem gathers_andThen_iff {τ : Type} {p : Program (Except Error Unit × σ)} {stop : σ → τ}
    {q : σ → Program (Except Error Unit × τ)} {result : Except Error τ} :
    (p.andThen stop q).Gathers es result ↔ (∃ e, p.Gathers es (.error e) ∧ result = .error e) ∨
      ∃ first s rest, es = first ++ rest ∧ p.Gathers first (.ok s) ∧ (q s).Gathers rest result := by
  constructor
  · intro h
    obtain ⟨ended, t, hrun, rfl⟩ := h
    obtain ⟨first, ⟨gathered, s⟩, _, rest, rfl, hp, hq⟩ := run_bind_iff.mp hrun
    cases gathered with
    | error e =>
      obtain ⟨rfl, hpair, -⟩ := run_done_iff.mp hq
      cases hpair
      rw [List.append_nil]
      exact .inl ⟨e, ⟨_, s, hp, rfl⟩, rfl⟩
    | ok u => exact .inr ⟨first, s, rest, rfl, ⟨_, s, hp, rfl⟩, ended, t, hq, rfl⟩
  · intro h
    rcases h with ⟨e, ⟨ended, s, hp, he⟩, rfl⟩ | ⟨first, s, rest, rfl, ⟨ended, s', hp, hs⟩, hq⟩
    · cases ended with
      | ok u => cases he
      | error e' =>
        cases he
        refine ⟨.error e, stop s, run_bind_iff.mpr ⟨es, _, (), [], ?_, hp, .done⟩, rfl⟩
        rw [List.append_nil]
    · cases ended with
      | error e => cases hs
      | ok u =>
        cases hs
        obtain ⟨last, t, hrun, rfl⟩ := hq
        exact ⟨last, t, run_bind_iff.mpr ⟨first, _, (), rest, rfl, hp, hrun⟩, rfl⟩

theorem gathers_andThen_done_iff {τ : Type} {p : Program (Except Error Unit × σ)} {stop f : σ → τ}
    {result : Except Error τ} : (p.andThen stop fun s => .done (.ok (), f s)).Gathers es result ↔
      ∃ gathered, p.Gathers es gathered ∧ result = gathered.map f := by
  rw [gathers_andThen_iff]
  constructor
  · intro h
    rcases h with ⟨e, hp, rfl⟩ | ⟨first, s, rest, rfl, hp, hdone⟩
    · exact ⟨.error e, hp, rfl⟩
    · obtain ⟨rfl, rfl⟩ := gathers_done_iff.mp hdone
      rw [List.append_nil]
      exact ⟨.ok s, hp, rfl⟩
  · intro h
    obtain ⟨gathered, hp, rfl⟩ := h
    cases gathered with
    | error e => exact .inl ⟨e, hp, rfl⟩
    | ok s =>
      exact .inr ⟨es, s, [], (List.append_nil es).symm, hp, gathers_done_iff.mpr ⟨rfl, rfl⟩⟩

variable {α ι κ : Type}

/-- Items taken one after the other until one fails. -/
def inTurn (take : σ → α → Program (Except Error Unit × σ)) :
    List α → σ → Program (Except Error Unit × σ)
  | [], s => .done (.ok (), s)
  | a :: items, s => (take s a).andThen id (inTurn take items)

/-- If what is done with an item are the steps of what there is to know about it, then what is done with
items one after the other are these steps in order, as far as they go well. -/
theorem gathers_inTurn_iff {take : σ → α → Program (Except Error Unit × σ)} {about : ι → α}
    (steps : κ → ι → List Step) (after : κ → ι → κ) (gathered : κ → σ)
    (hsome : Function.Surjective about)
    (htake : ∀ k a es result, (take (gathered k) a).Gathers es result ↔ ∃ i, about i = a ∧
      es = Step.events (steps k i) ∧
        result = (Step.outcome (steps k i)).map fun () => gathered (after k i))
    {items : List α} {k : κ} :
    (inTurn take items (gathered k)).Gathers es result ↔ ∃ known : List ι, known.map about = items ∧
      es = Step.events (Step.inOrder steps after k known) ∧
        result = (Step.outcome (Step.inOrder steps after k known)).map fun () =>
          gathered (known.foldl after k) := by
  induction items generalizing k es result with
  | nil =>
    rw [inTurn, gathers_done_iff]
    constructor
    · intro h
      obtain ⟨rfl, rfl⟩ := h
      exact ⟨[], rfl, rfl, rfl⟩
    · intro h
      obtain ⟨known, hknown, rfl, rfl⟩ := h
      rw [List.map_eq_nil_iff.mp hknown]
      exact ⟨rfl, rfl⟩
  | cons a items ih =>
    rw [inTurn, gathers_andThen_iff]
    constructor
    · intro h
      rcases h with ⟨e, hfirst, rfl⟩ | ⟨first, s, rest, rfl, hfirst, hrest⟩
      · obtain ⟨i, rfl, rfl, hi⟩ := (htake k _ _ _).mp hfirst
        -- Whatever there is to know about the items after a failure, the steps do not come to them.
        obtain ⟨others, rfl⟩ := List.map_surjective_iff.mpr hsome items
        have hfailed := Step.outcome_of_map_error hi.symm
        obtain ⟨houtcome, hevents⟩ := Step.inOrder_cons_of_error hfailed others
        exact ⟨i :: others, rfl, hevents.symm, by rw [houtcome]; rfl⟩
      · obtain ⟨i, rfl, rfl, hi⟩ := (htake k _ _ _).mp hfirst
        obtain ⟨hok, rfl⟩ := Step.outcome_of_map_ok hi.symm
        obtain ⟨others, rfl, rfl, rfl⟩ := ih.mp hrest
        obtain ⟨houtcome, hevents⟩ := Step.inOrder_cons_of_ok hok others
        exact ⟨i :: others, rfl, hevents.symm, by rw [houtcome]; rfl⟩
    · intro h
      obtain ⟨known, hknown, rfl, rfl⟩ := h
      obtain ⟨i, others, rfl, rfl, rfl⟩ := List.map_eq_cons_iff.mp hknown
      have hfirst := (htake k (about i) _ _).mpr ⟨i, rfl, rfl, rfl⟩
      rw [List.foldl_cons]
      cases hone : Step.outcome (steps k i) with
      | error e =>
        obtain ⟨houtcome, hevents⟩ := Step.inOrder_cons_of_error hone others
        rw [houtcome, hevents]
        rw [hone] at hfirst
        exact .inl ⟨e, hfirst, rfl⟩
      | ok u =>
        obtain ⟨houtcome, hevents⟩ := Step.inOrder_cons_of_ok hone others
        rw [houtcome, hevents]
        rw [hone] at hfirst
        have hrest := (ih (k := after k i)).mpr ⟨others, rfl, rfl, rfl⟩
        exact .inr ⟨_, _, _, rfl, hfirst, hrest⟩

end Program
end NodeGroups
