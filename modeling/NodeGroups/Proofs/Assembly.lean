import NodeGroups.Proofs.Providers
import NodeGroups.Proofs.Url.Addresses

/-!
What a provider is made of checks its own conditions: the endpoint is read again, the limits must not be
zero, the age of a project list must be positive. All of that is checked before, so no part is refused
once the settings are found valid.
-/

namespace NodeGroups

section Parts

variable {s : Settings}

/-- The checks of the settings, in their order. -/
theorem Settings.validate_eq_ok_iff : s.validate = .ok () ↔
    s.apiKey ≠ "" ∧ s.apiSecret ≠ "" ∧ s.url ≠ "" ∧ (∃ e, s.endpoint = .ok e) ∧
      (∃ i, s.refreshInterval = .ok i) ∧
      ∀ limit, s.rateLimit = some limit → limit.requestsPerSecond ≠ 0 ∧ limit.burstSize ≠ 0 := by
  unfold validate
  simp only [String.isEmpty_iff]
  by_cases hkey : s.apiKey = ""
  · simp [hkey, bind, Except.bind]
  by_cases hsecret : s.apiSecret = ""
  · simp [hkey, hsecret, bind, Except.bind]
  by_cases hurl : s.url = ""
  · simp [hkey, hsecret, hurl, bind, Except.bind]
  cases s.endpoint with
  | error e => simp [hkey, hsecret, hurl, bind, Except.bind]
  | ok endpoint =>
    cases s.refreshInterval with
    | error e => simp [hkey, hsecret, hurl, bind, Except.bind]
    | ok interval =>
      cases s.rateLimit with
      | none => simp [hkey, hsecret, hurl, bind, Except.bind, pure, Except.pure]
      | some limit =>
        by_cases hrate : limit.requestsPerSecond = 0
        · simp [hkey, hsecret, hurl, hrate, bind, Except.bind]
        by_cases hburst : limit.burstSize = 0
        · simp [hkey, hsecret, hurl, hburst, bind, Except.bind]
        · simp [hkey, hsecret, hurl, hrate, hburst, bind, Except.bind, pure, Except.pure]

theorem RateLimit.quota_of_ne_zero {limit : RateLimit} (hrate : limit.requestsPerSecond ≠ 0)
    (hburst : limit.burstSize ≠ 0) :
    limit.quota = .ok ⟨limit.requestsPerSecond, limit.burstSize, hrate, hburst⟩ := by
  rw [quota, dif_neg hrate, dif_neg hburst]

theorem ProjectCache.new_nanos (enabled : Bool) (interval : RefreshInterval) :
    new enabled interval.nanos = .ok (ofInterval enabled interval) := by
  rw [new, RefreshInterval.ofNanos, dif_pos interval.pos]

/-- An endpoint is an address of the web. -/
theorem Endpoint.exists_text_eq (e : Endpoint) :
    ∃ rest, e.text = "http://" ++ rest ∨ e.text = "https://" ++ rest := by
  let rest := e.url.authority ++ Url.Path.text e.url.path ++
    Url.Components.tail '?' e.url.query ++ Url.Components.tail '#' e.url.fragment
  have hchars : e.url.chars = e.url.scheme ++ [':', '/', '/'] ++ rest := by
    simp only [Url.chars_eq, Url.front, rest, List.append_assoc]
  refine ⟨String.ofList rest, ?_⟩
  rw [text, Url.text, hchars, String.ofList_append, Url.scheme]
  cases e.url.secure
  · exact .inl rfl
  · exact .inr rfl

end Parts

theorem exists_mapM_eq_ok_iff {α β ε : Type} {f : α → Except ε β} {items : List α} :
    (∃ results, items.mapM f = .ok results) ↔ ∀ a ∈ items, ∃ b, f a = .ok b := by
  induction items with
  | nil => exact iff_of_true ⟨[], rfl⟩ (List.forall_mem_nil _)
  | cons a items ih =>
    rw [List.forall_mem_cons, ← ih, List.mapM_cons]
    cases f a with
    | error e => simp [bind, Except.bind]
    | ok b => cases items.mapM f <;> simp [bind, Except.bind, pure, Except.pure]

/-- A client and a project cache are made of the settings, each with what was set. -/
structure Settings.Yields (s : Settings) (client : Client) (cache : ProjectCache) : Prop where
  endpoint : s.endpoint = .ok client.endpoint
  web : ∃ rest, client.endpoint.text = "http://" ++ rest ∨ client.endpoint.text = "https://" ++ rest
  interval : ∃ i, s.refreshInterval = .ok i ∧ 0 < i.nanos ∧ cache.maxAge = i ∧
    ProjectCache.new s.useProjects i.nanos = .ok cache
  quota : ∀ limit, s.rateLimit = some limit → ∃ q, limit.quota = .ok q ∧ client.quota = some q ∧
    q.perSecond = limit.requestsPerSecond ∧ q.burst = limit.burstSize
  client : Client.ofSettings s = .ok client

theorem Client.exists_ofSettings {s : Settings} (h : s.validate = .ok ()) : ∃ client,
    ofSettings s = .ok client ∧ s.endpoint = .ok client.endpoint ∧
      ∀ limit, s.rateLimit = some limit → ∃ q, limit.quota = .ok q ∧ client.quota = some q ∧
        q.perSecond = limit.requestsPerSecond ∧ q.burst = limit.burstSize := by
  obtain ⟨-, -, -, ⟨endpoint, hendpoint⟩, -, hlimit⟩ := Settings.validate_eq_ok_iff.mp h
  cases hs : s.rateLimit with
  | none =>
    refine ⟨⟨endpoint, s.apiKey, s.apiSecret, s.asyncTimeout, s.pollInterval, none⟩, ?_, hendpoint,
      by simp⟩
    rw [ofSettings, h, hs, hendpoint]
    rfl
  | some limit =>
    obtain ⟨hrate, hburst⟩ := hlimit limit hs
    have hquota := RateLimit.quota_of_ne_zero hrate hburst
    refine ⟨⟨endpoint, s.apiKey, s.apiSecret, s.asyncTimeout, s.pollInterval,
      some ⟨_, _, hrate, hburst⟩⟩, ?_, hendpoint, ?_⟩
    · rw [ofSettings, h, hs, hendpoint]
      simp only [hquota]
      rfl
    · intro limit' same
      cases same
      exact ⟨_, hquota, rfl, rfl, rfl⟩

theorem Settings.exists_yields {s : Settings} (h : s.validate = .ok ()) : ∃ client interval,
    s.refreshInterval = .ok interval ∧ s.Yields client (.ofInterval s.useProjects interval) := by
  obtain ⟨client, hclient, hendpoint, hquota⟩ := Client.exists_ofSettings h
  obtain ⟨-, -, -, -, ⟨interval, hinterval⟩, -⟩ := validate_eq_ok_iff.mp h
  exact ⟨client, interval, hinterval, hendpoint, client.endpoint.exists_text_eq,
    ⟨interval, hinterval, interval.pos, rfl, ProjectCache.new_nanos _ _⟩, hquota, hclient⟩

namespace Provider

variable {settings : Settings} {specs : List String} {p : Provider}

/-- What a provider can be built of. -/
structure Admissible (settings : Settings) (specs : List String) : Prop where
  valid : settings.validate = .ok ()
  specified : specs ≠ []
  parsed : ∀ spec ∈ specs, ∃ s, LabelSelector.parse spec = .ok s

/-- Every part is made, and the provider is the one that is prepared at once. -/
theorem Admissible.exists_parts (h : Admissible settings specs) : ∃ client p,
    settings.Yields client p.cache ∧ specs.mapM LabelSelector.parse = .ok p.selectors ∧
      prepare settings specs = .ok p ∧ ∀ given,
        assemble given settings specs = .ok (if given then none else some client, p) := by
  obtain ⟨selectors, hparsed⟩ := exists_mapM_eq_ok_iff.mpr h.parsed
  obtain ⟨client, interval, hinterval, yields⟩ := Settings.exists_yields h.valid
  have hspecified : specs.isEmpty = false := List.isEmpty_eq_false_iff.mpr h.specified
  have hcache := ProjectCache.new_nanos settings.useProjects interval
  refine ⟨client, ⟨⟨settings.expungeVms⟩, selectors, .ofInterval settings.useProjects interval, []⟩,
    yields, hparsed, ?_, fun given => ?_⟩
  · rw [prepare, h.valid, hspecified, hparsed, hinterval]
    rfl
  · rw [assemble, h.valid, hspecified, hparsed, hinterval, yields.client]
    cases given <;> simp [hcache, Except.mapError, Except.map, bind, Except.bind, pure, Except.pure]

/-- What keeps a provider from being built is found before any of its parts is made. -/
theorem exists_error_of_not_admissible (h : ¬ Admissible settings specs) : ∃ e,
    prepare settings specs = .error e ∧
      ∀ given, assemble given settings specs = .error (.validation e) := by
  unfold prepare assemble
  cases hvalid : settings.validate with
  | error e => exact ⟨e, rfl, fun _ => rfl⟩
  | ok u =>
    by_cases hspecified : specs = []
    · subst hspecified
      exact ⟨_, rfl, fun _ => rfl⟩
    · rw [List.isEmpty_eq_false_iff.mpr hspecified]
      cases hparsed : specs.mapM LabelSelector.parse with
      | error e => exact ⟨e, rfl, fun _ => rfl⟩
      | ok selectors =>
        exact absurd ⟨hvalid, hspecified, exists_mapM_eq_ok_iff.mp ⟨selectors, hparsed⟩⟩ h

/-- The checks that the parts make for themselves change nothing. -/
theorem assemble_agrees (given : Bool) (settings : Settings) (specs : List String) :
    (assemble given settings specs).map Prod.snd =
      (prepare settings specs).mapError .validation := by
  by_cases h : Admissible settings specs
  · obtain ⟨client, p, -, -, hprepare, hassemble⟩ := h.exists_parts
    rw [hprepare, hassemble]
    rfl
  · obtain ⟨e, hprepare, hassemble⟩ := exists_error_of_not_admissible h
    rw [hprepare, hassemble]
    rfl

/-- Once it is prepared, a provider is built by a search for groups. -/
theorem build_eq (h : prepare settings specs = .ok p) : build settings specs =
    (Discovery.discover p.cache p.selectors).bind fun x =>
      .done (x.1.map fun groups => { p with cache := x.2, groups }) := by
  rw [build, h]
  simp only [refresh, Program.bind_eq, Program.bind_assoc]
  refine congrArg (Program.bind _) (funext fun x => ?_)
  obtain ⟨found, cache⟩ := x
  cases found <;> rfl

theorem build_run_iff (h : prepare settings specs = .ok p) {es : List Event}
    {result : Except Error Provider} : (build settings specs).Run Cloud.any () es result () ↔
      ∃ found cache, (Discovery.discover p.cache p.selectors).Run Cloud.any () es (found, cache) () ∧
        result = found.map fun groups => { p with cache, groups } := by
  rw [build_eq h, Program.run_bind_iff]
  constructor
  · intro run
    obtain ⟨first, ⟨found, cache⟩, _, rest, rfl, hfound, hdone⟩ := run
    obtain ⟨rfl, rfl, -⟩ := Program.run_done_iff.mp hdone
    rw [List.append_nil]
    exact ⟨found, cache, hfound, rfl⟩
  · intro run
    obtain ⟨found, cache, hfound, rfl⟩ := run
    exact ⟨es, (found, cache), (), [], (List.append_nil es).symm, hfound, .done⟩

/-- Settings that are not valid, specs that are missing and specs that cannot be read are told without
anything being asked of the cloud, and by no part of the provider. Otherwise every part is made, and what
is left is the search for groups: the provider is built where that finds them, and its errors are the only
ones. -/
theorem build_checks_first (settings : Settings) (specs : List String) :
    (∀ given, (assemble given settings specs).map Prod.snd =
      (prepare settings specs).mapError .validation) ∧
    (¬ Admissible settings specs → ∃ e,
      (∀ given, assemble given settings specs = .error (.validation e)) ∧
      ∀ es result, (build settings specs).Run Cloud.any () es result () ↔
        es = [] ∧ result = .error (.validation e)) ∧
    (Admissible settings specs → ∃ client p,
      settings.Yields client p.cache ∧ specs.mapM LabelSelector.parse = .ok p.selectors ∧
      (∀ given, assemble given settings specs = .ok (if given then none else some client, p)) ∧
      ∀ es result, (build settings specs).Run Cloud.any () es result () ↔ ∃ found cache,
        (Discovery.discover p.cache p.selectors).Run Cloud.any () es (found, cache) () ∧
          result = found.map fun groups => { p with cache, groups }) := by
  refine ⟨fun given => assemble_agrees given settings specs, ?_, ?_⟩
  · intro h
    obtain ⟨e, hprepare, hassemble⟩ := exists_error_of_not_admissible h
    refine ⟨e, hassemble, fun es result => ?_⟩
    have hbuild : build settings specs = .done (.error (.validation e)) := by
      rw [build, hprepare]
      rfl
    rw [hbuild, Program.run_done_iff]
    simp
  · intro h
    obtain ⟨client, p, yields, hparsed, hprepare, hassemble⟩ := h.exists_parts
    exact ⟨client, p, yields, hparsed, hassemble, fun es result => build_run_iff hprepare⟩

def limitedSettings (requestsPerSecond : UInt32) : Settings :=
  { webSettings with rateLimit := some ⟨requestsPerSecond, 20⟩ }

/-- Ten requests in a second are a quota. None is not, and no request finds that out. -/
theorem build_checks_first_of_limits :
    (Admissible (limitedSettings 10) ["label:tier=web"] ∧
      ∃ client quota, Client.ofSettings (limitedSettings 10) = .ok client ∧
        client.quota = some quota ∧ quota.perSecond = 10 ∧ quota.burst = 20) ∧
    ¬ Admissible (limitedSettings 0) ["label:tier=web"] ∧ ∃ e, ∀ es result,
      (build (limitedSettings 0) ["label:tier=web"]).Run Cloud.any () es result () →
        es = [] ∧ result = .error (.validation e) := by
  have hvalid : (limitedSettings 10).validate = .ok () := by decide +kernel
  have hrefused : (limitedSettings 0).validate ≠ .ok () := by decide +kernel
  have hparsed : ["label:tier=web"].mapM LabelSelector.parse =
      .ok [⟨.ofList [("tier", "web")]⟩] := by decide +kernel
  have admissible : Admissible (limitedSettings 10) ["label:tier=web"] :=
    ⟨hvalid, by simp, exists_mapM_eq_ok_iff.mp ⟨_, hparsed⟩⟩
  have refused : ¬ Admissible (limitedSettings 0) ["label:tier=web"] := fun h => hrefused h.valid
  obtain ⟨client, p, yields, -⟩ := (build_checks_first _ _).2.2 admissible
  obtain ⟨quota, -, hquota, hrate, hburst⟩ := yields.quota ⟨10, 20⟩ rfl
  obtain ⟨e, -, hruns⟩ := (build_checks_first _ _).2.1 refused
  exact ⟨⟨admissible, client, quota, yields.client, hquota, hrate, hburst⟩, refused, e,
    fun es result run => (hruns es result).mp run⟩

end Provider
end NodeGroups
