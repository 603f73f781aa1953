import NodeGroups.Proofs.Discoveries

namespace NodeGroups.ProjectCache

variable {σ : Type}

/-- What a cache is used for. A visitor carries its state from one visit to the next. -/
inductive Use (σ : Type)
  | refresh
  | forEach (visit : σ → String → Program (Except Error Unit × σ))

/-- The result of a use, with the visitor and the cache afterwards. -/
def Use.on (c : ProjectCache) (s : σ) : Use σ → Program (Except Error Unit × σ × ProjectCache)
  | refresh => do
    let (result, c) ← c.refresh
    return (result, s, c)
  | forEach visit => c.forEach visit s

/-- Uses one after the other, whatever comes of each. -/
def useAll : List (Use σ) → ProjectCache → σ → Program (σ × ProjectCache)
  | [], c, s => return (s, c)
  | use :: uses, c, s => do
    let (_, s, c) ← use.on c s
    useAll uses c s

/-- A visit to a project: what happens meanwhile, and what comes of it. -/
structure Visit where
  id : String
  events : List Event
  result : Except Error Unit

/-- A visitor makes visits one after the other. -/
inductive Walk (visit : σ → String → Program (Except Error Unit × σ)) : σ → List Visit → σ → Prop
  | nil {s : σ} : Walk visit s [] s
  | cons {s s₁ s' : σ} {v : Visit} {visits : List Visit}
      (run : (visit s v.id).Run Cloud.any () v.events (v.result, s₁) ())
      (rest : Walk visit s₁ visits s') : Walk visit s (v :: visits) s'

/-- Each id is visited once and in order, up to and including the first visit that fails. -/
def UpToFailure (ids : List String) (visits : List Visit) (result : Except Error Unit) : Prop :=
  ∃ done : List Visit, (∀ v ∈ done, v.result = .ok ()) ∧
    ((visits = done ∧ ids = done.map Visit.id ∧ result = .ok ()) ∨
      ∃ failed rest e, visits = done ++ [failed] ∧ ids = done.map Visit.id ++ failed.id :: rest ∧
        failed.result = .error e ∧ result = .error e)

theorem UpToFailure.cons {ids : List String} {visits : List Visit} {result : Except Error Unit}
    {v : Visit} (hv : v.result = .ok ()) (h : UpToFailure ids visits result) :
    UpToFailure (v.id :: ids) (v :: visits) result := by
  obtain ⟨done, hdone, hrest⟩ := h
  refine ⟨v :: done, List.forall_mem_cons.mpr ⟨hv, hdone⟩, ?_⟩
  rcases hrest with ⟨rfl, rfl, rfl⟩ | ⟨failed, rest, e, rfl, rfl, hfailed, rfl⟩
  · exact .inl ⟨rfl, rfl, rfl⟩
  · exact .inr ⟨failed, rest, e, rfl, rfl, hfailed, rfl⟩

theorem visitAll_walks {visit : σ → String → Program (Except Error Unit × σ)} {ids : List String}
    {s s' : σ} {es : List Event} {result : Except Error Unit}
    (h : (visitAll visit ids s).Run Cloud.any () es (result, s') ()) :
    ∃ visits, es = visits.flatMap Visit.events ∧ Walk visit s visits s' ∧
      UpToFailure ids visits result := by
  induction ids generalizing s es with
  | nil =>
    obtain ⟨rfl, hpair, -⟩ := Program.run_done_iff.mp h
    cases hpair
    exact ⟨[], rfl, .nil, [], List.forall_mem_nil _, .inl ⟨rfl, rfl, rfl⟩⟩
  | cons id ids ih =>
    obtain ⟨first, ⟨visited, s₁⟩, _, rest, rfl, hfirst, hrest⟩ := Program.run_bind_iff.mp h
    let v : Visit := ⟨id, first, visited⟩
    have hrun : (visit s v.id).Run Cloud.any () v.events (v.result, s₁) () := hfirst
    cases visited with
    | error e =>
      obtain ⟨rfl, hpair, -⟩ := Program.run_done_iff.mp hrest
      cases hpair
      refine ⟨[v], by simp [v], .cons hrun .nil, [], List.forall_mem_nil _, .inr ?_⟩
      exact ⟨v, ids, e, rfl, rfl, rfl, rfl⟩
    | ok u =>
      obtain ⟨visits, rfl, hwalk, hvisits⟩ := ih hrest
      exact ⟨v :: visits, rfl, .cons hrun hwalk, .cons (v := v) rfl hvisits⟩

/-- A look at the age of the projects: when it began, and the reply if they were listed. -/
structure Look where
  start : Nat
  reply : Option (Except Error (List Project))

namespace Look

def events (enabled : Bool) (look : Look) : List Event :=
  (if enabled then [.clock look.start] else []) ++ look.reply.toList.map (.called .listProjects)

/-- When the projects were listed, and which they were. -/
def listed? (look : Look) : Option (Nat × List Project) :=
  match look.reply with
  | some (.ok projects) => some (look.start, projects)
  | _ => none

/-- A look fails if a listing did. -/
def outcome (look : Look) : Except Error Unit :=
  match look.reply with
  | some (.error e) => .error e
  | _ => .ok ()

/-- The cache after a look: only a listing that succeeds changes it. -/
def update (look : Look) (c : ProjectCache) : ProjectCache :=
  match look.listed? with
  | none => c
  | some (start, projects) => { c with projects, lastRefreshed := some start }

@[simp] theorem update_enabled (look : Look) (c : ProjectCache) :
    (look.update c).enabled = c.enabled := by
  unfold update
  cases look.listed? <;> rfl

variable {look : Look} {e : Error}

theorem outcome_eq_error_iff : look.outcome = .error e ↔ look.reply = some (.error e) := by
  unfold outcome
  rcases look.reply with _ | reply
  · simp
  · cases reply <;> simp

theorem outcome_eq_ok_iff : look.outcome = .ok () ↔ ∀ e, look.reply ≠ some (.error e) := by
  unfold outcome
  rcases look.reply with _ | reply
  · simp
  · cases reply <;> simp

theorem listed?_of_error (h : look.reply = some (.error e)) : look.listed? = none := by
  rw [listed?, h]

end Look

theorem refresh_looks {c c' : ProjectCache} {es : List Event} {ended : Except Error Unit}
    (h : c.refresh.Run Cloud.any () es (ended, c') ()) :
    ∃ look : Look, es = look.events c.enabled ∧ look.reply.isSome = c.isDue look.start ∧
      ended = look.outcome ∧ c' = look.update c := by
  obtain ⟨now, projects, rfl, rfl, rfl⟩ := refresh_run_iff.mp h
  cases hdue : c.isDue now with
  | false =>
    refine ⟨⟨now, none⟩, ?_, hdue.symm, ?_, ?_⟩
    · simp [glances, listSteps, hdue, Look.events, Step.events]
    · simp [listSteps, hdue, Look.outcome, Step.outcome]
    · cases projects <;> simp [listed, hdue, Look.update, Look.listed?]
  | true =>
    refine ⟨⟨now, some projects⟩, ?_, hdue.symm, ?_, ?_⟩
    · cases projects <;>
        simp [glances, listSteps, hdue, Look.events, Step.events, Step.event?, Step.failure?,
          Call.failure?]
    · cases projects <;>
        simp [listSteps, hdue, Look.outcome, Step.outcome, Step.failure?, Call.failure?]
    · cases projects <;> simp [listed, hdue, Look.update, Look.listed?]

/-- The last listing that succeeded. -/
def lastListing? (looks : List Look) : Option (Nat × List Project) :=
  (looks.filterMap Look.listed?).getLast?

theorem lastListing?_append_singleton (looks : List Look) (look : Look) :
    lastListing? (looks ++ [look]) = look.listed?.or (lastListing? looks) := by
  unfold lastListing?
  cases hlisted : look.listed? <;> simp [hlisted]

/-- A cache that knows what a listing gave. -/
def asOf (enabled : Bool) (maxAge : RefreshInterval) (listing : Option (Nat × List Project)) :
    ProjectCache :=
  ⟨enabled, maxAge, listing.map Prod.fst, (listing.map Prod.snd).getD []⟩

section

variable {enabled : Bool} {maxAge : RefreshInterval} {listing : Option (Nat × List Project)}

theorem asOf_isDue_iff {now : Nat} : (asOf enabled maxAge listing).isDue now = true ↔
    enabled = true ∧ ∀ last ∈ listing, maxAge.nanos < now - last.1 := by
  cases listing with
  | none => simp [asOf, isDue, isFresh]
  | some last => simp [asOf, isDue, isFresh, Nat.lt_sub_iff_add_lt]

theorem asOf_projectIds : (asOf enabled maxAge listing).projectIds =
    "" :: (listing.elim [] Prod.snd).map Project.id := by
  cases listing <;> rfl

theorem update_asOf (look : Look) : look.update (asOf enabled maxAge listing) =
    asOf enabled maxAge (look.listed?.or listing) := by
  unfold Look.update
  cases look.listed? <;> rfl

end

/-- One use of a cache as it went: the look at the age of the projects, the visits, the result, and the
cache afterwards. -/
structure Passage (σ : Type) extends Look where
  use : Use σ
  visits : List Visit
  result : Except Error Unit
  cache : ProjectCache

namespace Passage

def events (enabled : Bool) (p : Passage σ) : List Event :=
  p.toLook.events enabled ++ p.visits.flatMap Visit.events

/-- What a use of a cache comes to: visits are made unless a listing failed. -/
structure Follows (c : ProjectCache) (p : Passage σ) : Prop where
  due : p.reply.isSome = c.isDue p.start
  cache_eq : p.cache = p.toLook.update c
  failed : ∀ e, p.outcome = .error e → p.result = .error e ∧ p.visits = []
  visited : p.outcome = .ok () → match p.use with
    | .refresh => p.result = .ok () ∧ p.visits = []
    | .forEach _ => UpToFailure p.cache.projectIds p.visits p.result

/-- A use that did go this way, from one state of the visitors to another. -/
structure Goes (c : ProjectCache) (s : σ) (p : Passage σ) (s' : σ) : Prop where
  run : (p.use.on c s).Run Cloud.any () (p.events c.enabled) (p.result, s', p.cache) ()
  walk : match p.use with
    | .refresh => s' = s
    | .forEach visit => Walk visit s p.visits s'

end Passage

theorem Use.on_goes {use : Use σ} {c c' : ProjectCache} {s s' : σ} {es : List Event}
    {result : Except Error Unit} (h : (use.on c s).Run Cloud.any () es (result, s', c') ()) :
    ∃ p : Passage σ, p.use = use ∧ p.result = result ∧ p.cache = c' ∧ es = p.events c.enabled ∧
      p.Goes c s s' ∧ p.Follows c := by
  cases use with
  | refresh =>
    obtain ⟨first, ⟨ended, c₁⟩, _, rest, rfl, hlook, hdone⟩ := Program.run_bind_iff.mp h
    obtain ⟨rfl, hpair, -⟩ := Program.run_done_iff.mp hdone
    cases hpair
    obtain ⟨look, rfl, hdue, rfl, rfl⟩ := refresh_looks hlook
    refine ⟨⟨look, .refresh, [], look.outcome, look.update c⟩, rfl, rfl, rfl, rfl, ⟨h, rfl⟩, ?_⟩
    exact ⟨hdue, rfl, fun e he => ⟨he, rfl⟩, fun hok => ⟨hok, rfl⟩⟩
  | forEach visit =>
    obtain ⟨first, ⟨ended, c₁⟩, _, rest, rfl, hlook, hrest⟩ := Program.run_bind_iff.mp h
    obtain ⟨look, rfl, hdue, rfl, rfl⟩ := refresh_looks hlook
    cases hended : look.outcome with
    | error e =>
      rw [hended] at hrest
      obtain ⟨rfl, hpair, -⟩ := Program.run_done_iff.mp hrest
      cases hpair
      refine ⟨⟨look, .forEach visit, [], .error e, look.update c⟩, rfl, rfl, rfl, rfl, ⟨h, .nil⟩, ?_⟩
      refine ⟨hdue, rfl, fun e' he' => ⟨?_, rfl⟩, fun hok => ?_⟩
      · exact hended.symm.trans he'
      · exact nomatch hended.symm.trans hok
    | ok u =>
      rw [hended] at hrest
      obtain ⟨middle, ⟨visited, s₁⟩, _, last, rfl, hvisits, hdone⟩ := Program.run_bind_iff.mp hrest
      obtain ⟨rfl, hpair, -⟩ := Program.run_done_iff.mp hdone
      cases hpair
      obtain ⟨visits, rfl, hwalk, hupTo⟩ := visitAll_walks hvisits
      rw [List.append_nil] at h ⊢
      refine ⟨⟨look, .forEach visit, visits, result, look.update c⟩, rfl, rfl, rfl, rfl, ⟨h, hwalk⟩, ?_⟩
      exact ⟨hdue, rfl, fun e he => (nomatch hended.symm.trans he), fun _ => hupTo⟩

/-- Uses of a cache one after the other, each beginning with what the one before left. -/
inductive Timeline : ProjectCache → σ → List (Passage σ) → ProjectCache → σ → Prop
  | nil {c : ProjectCache} {s : σ} : Timeline c s [] c s
  | cons {c c' : ProjectCache} {s s₁ s' : σ} {p : Passage σ} {passages : List (Passage σ)}
      (goes : p.Goes c s s₁) (follows : p.Follows c)
      (rest : Timeline p.cache s₁ passages c' s') : Timeline c s (p :: passages) c' s'

theorem useAll_timeline {uses : List (Use σ)} {c c' : ProjectCache} {s s' : σ} {es : List Event}
    (h : (useAll uses c s).Run Cloud.any () es (s', c') ()) :
    ∃ passages, passages.map Passage.use = uses ∧ es = passages.flatMap (Passage.events c.enabled) ∧
      Timeline c s passages c' s' := by
  induction uses generalizing c s es with
  | nil =>
    obtain ⟨rfl, hpair, -⟩ := Program.run_done_iff.mp h
    cases hpair
    exact ⟨[], rfl, rfl, .nil⟩
  | cons use uses ih =>
    obtain ⟨first, ⟨result, s₁, c₁⟩, _, rest, rfl, hfirst, hrest⟩ := Program.run_bind_iff.mp h
    obtain ⟨p, rfl, rfl, rfl, rfl, hgoes, hfollows⟩ := Use.on_goes hfirst
    obtain ⟨passages, rfl, rfl, htimeline⟩ := ih hrest
    refine ⟨p :: passages, rfl, ?_, .cons hgoes hfollows htimeline⟩
    rw [hfollows.cache_eq, Look.update_enabled]
    rfl

namespace Timeline

variable {c c' : ProjectCache} {s s' : σ} {p : Passage σ} {before after passages : List (Passage σ)}
  {enabled : Bool} {maxAge : RefreshInterval} {looks : List Look}

theorem split (h : Timeline c s (before ++ p :: after) c' s') :
    ∃ c₁ s₁ s₂, Timeline c s before c₁ s₁ ∧ p.Goes c₁ s₁ s₂ ∧ p.Follows c₁ ∧
      Timeline p.cache s₂ after c' s' := by
  induction before generalizing c s with
  | nil =>
    cases h with
    | cons goes follows rest => exact ⟨c, s, _, .nil, goes, follows, rest⟩
  | cons q before ih =>
    cases h with
    | cons goes follows rest =>
      obtain ⟨c₁, s₁, s₂, hbefore, hp, hfollows, hafter⟩ := ih rest
      exact ⟨c₁, s₁, s₂, .cons goes follows hbefore, hp, hfollows, hafter⟩

theorem cache_eq (h : Timeline (asOf enabled maxAge (lastListing? looks)) s passages c' s') :
    c' = asOf enabled maxAge (lastListing? (looks ++ passages.map Passage.toLook)) := by
  induction passages generalizing looks s with
  | nil =>
    cases h
    rw [List.map_nil, List.append_nil]
  | cons p passages ih =>
    cases h with
    | cons goes follows rest =>
      rw [follows.cache_eq, update_asOf, ← lastListing?_append_singleton] at rest
      rw [ih rest, List.append_assoc]
      rfl

end Timeline

/-- A use of a cache as it is meant to go, after those `before` and ahead of those `after`. -/
structure Passage.Keeps (enabled : Bool) (maxAge : Nat) (before after : List (Passage σ))
    (c : ProjectCache) (p : Passage σ) : Prop where
  listed_iff : p.reply.isSome ↔ enabled = true ∧
    ∀ last ∈ lastListing? (before.map Passage.toLook), maxAge < p.start - last.1
  projectIds : p.cache.projectIds =
    "" :: ((lastListing? ((before ++ [p]).map Passage.toLook)).elim [] Prod.snd).map Project.id
  failed : ∀ e, p.reply = some (.error e) → p.result = .error e ∧ p.visits = [] ∧ p.cache = c
  retried : ∀ e next later, p.reply = some (.error e) → after = next :: later →
    p.start ≤ next.start → next.reply.isSome
  visited : (∀ e, p.reply ≠ some (.error e)) → match p.use with
    | .refresh => p.result = .ok () ∧ p.visits = []
    | .forEach _ => UpToFailure p.cache.projectIds p.visits p.result

theorem Timeline.keeps {enabled : Bool} {maxAge : RefreshInterval} {s s' : σ} {c' : ProjectCache}
    {p : Passage σ} {before after : List (Passage σ)}
    (h : Timeline (.ofInterval enabled maxAge) s (before ++ p :: after) c' s') :
    ∃ c s₁ s₂, Timeline (.ofInterval enabled maxAge) s before c s₁ ∧ p.Goes c s₁ s₂ ∧
      Timeline p.cache s₂ after c' s' ∧ p.Keeps enabled maxAge.nanos before after c := by
  obtain ⟨c, s₁, s₂, hbefore, hgoes, hfollows, hafter⟩ := h.split
  refine ⟨c, s₁, s₂, hbefore, hgoes, hafter, ?_⟩
  have hbegan : Timeline (asOf enabled maxAge (lastListing? [])) s before c s₁ := hbefore
  have hc : c = asOf enabled maxAge (lastListing? (before.map Passage.toLook)) := hbegan.cache_eq
  subst hc
  have hdue : p.reply.isSome ↔ enabled = true ∧
      ∀ last ∈ lastListing? (before.map Passage.toLook), maxAge.nanos < p.start - last.1 := by
    rw [hfollows.due, asOf_isDue_iff]
  have hcache : p.cache = asOf enabled maxAge
      (lastListing? ((before ++ [p]).map Passage.toLook)) := by
    rw [hfollows.cache_eq, update_asOf, List.map_append, List.map_singleton,
      lastListing?_append_singleton]
  have hfailed {e : Error} (he : p.reply = some (.error e)) :
      p.cache = asOf enabled maxAge (lastListing? (before.map Passage.toLook)) := by
    rw [hfollows.cache_eq, update_asOf, Look.listed?_of_error he, Option.none_or]
  refine ⟨hdue, ?_, ?_, ?_, ?_⟩
  · rw [hcache, asOf_projectIds]
  · intro e he
    obtain ⟨hresult, hvisits⟩ := hfollows.failed e (Look.outcome_eq_error_iff.mpr he)
    exact ⟨hresult, hvisits, hfailed he⟩
  · intro e next later he hlater hstart
    subst hlater
    cases hafter with
    | cons goes follows rest =>
      rw [hfailed he] at follows
      rw [follows.due, asOf_isDue_iff]
      obtain ⟨henabled, hold⟩ := hdue.mp (by rw [he]; rfl)
      exact ⟨henabled, fun last hlast =>
        Nat.lt_of_lt_of_le (hold last hlast) (Nat.sub_le_sub_right hstart last.1)⟩
  · intro hok
    exact hfollows.visited (Look.outcome_eq_ok_iff.mpr hok)

/-- A cache lists the projects exactly when it is enabled and the last listing that succeeded, if there was
one, is older than the age limit. It knows what that listing gave, and a listing that fails counts as
none. -/
theorem useAll_lists_when_due {maxAge : Nat} (hpos : 0 < maxAge) (enabled : Bool) :
    ∃ c₀, new enabled maxAge = .ok c₀ ∧ c₀.projectIds = [""] ∧
      ∀ (uses : List (Use σ)) s es s' c', (useAll uses c₀ s).Run Cloud.any () es (s', c') () →
        ∃ passages, passages.map Passage.use = uses ∧
          es = passages.flatMap (Passage.events enabled) ∧
          ∀ before p after, passages = before ++ p :: after →
            ∃ c s₁ s₂, Timeline c₀ s before c s₁ ∧ p.Goes c s₁ s₂ ∧ Timeline p.cache s₂ after c' s' ∧
              p.Keeps enabled maxAge before after c := by
  have hnew : new enabled maxAge = .ok (.ofInterval enabled ⟨maxAge, hpos⟩) := by
    simp [new, RefreshInterval.ofNanos, hpos]
  refine ⟨_, hnew, rfl, fun uses s es s' c' hrun => ?_⟩
  obtain ⟨passages, huses, hevents, htimeline⟩ := useAll_timeline hrun
  refine ⟨passages, huses, hevents, fun before p after hsplit => ?_⟩
  subst hsplit
  exact htimeline.keeps

/-- Notes the ids it visits, and fails on one of them. -/
def noteUpTo (bad : String) (noted : List String) (id : String) :
    Program (Except Error Unit × List String) :=
  return (if id = bad then .error default else .ok (), noted ++ [id])

/-- Listings that fail, at first and after the list was too old, are made again at once. A list that is
just as old as it may be is not made again. -/
theorem useAll_lists_after_failures :
    ∃ c₀ c', new true 10 = .ok c₀ ∧
      (useAll [.refresh, .forEach (noteUpTo "p1"), .refresh, .refresh, .forEach (noteUpTo "p1")] c₀
          []).Run Cloud.any ()
        [.clock 0, .called .listProjects (.error default),
          .clock 0, .called .listProjects (.ok [⟨"p1", ""⟩, ⟨"p2", ""⟩]), .clock 10,
          .clock 11, .called .listProjects (.error default),
          .clock 11, .called .listProjects (.ok [⟨"p3", ""⟩])]
        (["", "p1", "", "p3"], c') () ∧
      ∃ passages, passages.map Passage.use =
          [.refresh, .forEach (noteUpTo "p1"), .refresh, .refresh, .forEach (noteUpTo "p1")] ∧
        ∀ before p after, passages = before ++ p :: after →
          ∃ c s₁ s₂, Timeline c₀ [] before c s₁ ∧ p.Goes c s₁ s₂ ∧
            Timeline p.cache s₂ after c' ["", "p1", "", "p3"] ∧ p.Keeps true 10 before after c := by
  obtain ⟨c₀, hnew, -, hall⟩ := @useAll_lists_when_due (List String) 10 (by decide) true
  cases hnew
  have hrun : (useAll [.refresh, .forEach (noteUpTo "p1"), .refresh, .refresh,
      .forEach (noteUpTo "p1")] (.ofInterval true ⟨10, by decide⟩) []).Run Cloud.any ()
      [.clock 0, .called .listProjects (.error default),
        .clock 0, .called .listProjects (.ok [⟨"p1", ""⟩, ⟨"p2", ""⟩]), .clock 10,
        .clock 11, .called .listProjects (.error default),
        .clock 11, .called .listProjects (.ok [⟨"p3", ""⟩])]
      (["", "p1", "", "p3"], ⟨true, ⟨10, by decide⟩, some 11, [⟨"p3", ""⟩]⟩) () :=
    .clock (.call rfl (.clock (.call rfl (.clock (.clock (.call rfl (.clock (.call rfl .done))))))))
  obtain ⟨passages, huses, -, hkeeps⟩ := hall _ _ _ _ _ hrun
  exact ⟨_, _, rfl, hrun, passages, huses, hkeeps⟩

end NodeGroups.ProjectCache
