import FleetMend.Fleet.Codec.Fleet
import FleetMend.Proofs.Fleet.Scalars
import FleetMend.Proofs.Json.Return
import FleetMend.Proofs.Quantity.Return

/-!
A fleet that is stored is read back.

The two halves meet at the scalars.  Scalars in range are read back from what is written for them,
the spans in whole milliseconds (`Scalar.Storable`); and whatever is read is in range, its spans in
whole milliseconds already (`Scalar.AsRead`).

* `Fleet.returns`: a fleet of storable scalars is read back with its spans cut to milliseconds.
* `Fleet.yields`: what a fleet that was read holds.
* `Fleet.stored_returns`: what is stored is read back, and what was read can be stored again.
-/

namespace FleetMend

open Json

/-! ### Scalars -/

/-- A size but the least one, or a span that a word of 64 bits counts the milliseconds of. -/
def Scalar.InRange : Scalar → Prop
  | size q => q.value ≠ Int64.minValue
  | span s => s.millis < Nat.pow 2 64
  | time _ => True

instance (x : Scalar) : Decidable x.InRange :=
  match x with
  | .size q => inferInstanceAs (Decidable (q.value ≠ Int64.minValue))
  | .span s => inferInstanceAs (Decidable (s.millis < Nat.pow 2 64))
  | .time _ => inferInstanceAs (Decidable True)

/-- A scalar in range; a time has to be read back from its text. -/
def Scalar.Storable (x : Scalar) : Prop :=
  x.InRange ∧ ∀ t ∈ x.time?, Time.ofJson? t.toJson = some t

theorem Time.returns {t : Time} (h : (Scalar.time t).Storable) : Time.ofJson? t.toJson = some t :=
  h.2 t rfl

theorem Quantity.returns {q : Quantity} (h : (Scalar.size q).Storable) :
    Returns Quantity.toJson Quantity.ofJson? q q := by
  refine ⟨q.reread, ?_, q.reread_beq⟩
  change (read q.text).toOption = _
  rw [read_text h.1]
  rfl

theorem Span.returns {s : Span} (h : (Scalar.span s).Storable) :
    Span.ofJson? s.toJson = some s.truncated := by
  rw [ofJson?, toJson, nat64?_ofNat h.1]
  rfl

/-! ### Keys -/

theorem FleetKey.returns (k : FleetKey) : FleetKey.ofJson? k.toJson = some k := by
  rw [ofJson?, toJson, bind_members, bind_required (str?_str k.space) rfl,
    bind_required (str?_str k.name) rfl]

/-! ### The spec -/

theorem Share.returns (s : Share) : Share.ofJson? s.toJson = some s := by
  cases s with
  | count n =>
    have read : (Json.int n.toInt).int64? = some n := int64?_int n
    simp only [toJson, ofJson?, read]
  | text s => rfl

theorem RolloutStrategy.returns (r : RolloutStrategy) :
    RolloutStrategy.ofJson? r.toJson = some r := by
  have maxUnavailable : option? Share.ofJson? (ofOption Share.toJson r.maxUnavailable) =
      some r.maxUnavailable := (Returns.option_self rfl fun s _ => .of_eq s.returns).eq
  rw [ofJson?, toJson, bind_members, bind_defaulted maxUnavailable rfl]

theorem AutoscaleSpec.returns {s : AutoscaleSpec} (h : ∀ x ∈ s.scalars, x.Storable) :
    Returns AutoscaleSpec.toJson AutoscaleSpec.ofJson? s s := by
  obtain ⟨ceiling, read, like⟩ := Returns.option_self (o := s.ceiling) rfl fun q hq =>
    Quantity.returns (forall_scalars.1 h q hq)
  refine ⟨{ s with ceiling }, ?_, ?_⟩
  · rw [ofJson?, toJson, bind_members, bind_required (uint32?_ofUInt32 s.trigger) rfl,
      bind_required (str?_str s.increase) rfl, bind_defaulted read rfl]
  · change (s.trigger == s.trigger && (s.increase == s.increase && ceiling == s.ceiling)) = true
    simp [like]

theorem RegenerateSpec.returns {s : RegenerateSpec} (h : ∀ x ∈ s.scalars, x.Storable) :
    RegenerateSpec.ofJson? s.toJson = some s.truncated := by
  rw [ofJson?, toJson, bind_members, bind_required (Span.returns (forall_scalars.1 h)) rfl,
    bind_required (uint32?_ofUInt32 s.threshold) rfl]
  rfl

theorem DriftSpec.returns {s : DriftSpec} (h : ∀ x ∈ s.scalars, x.Storable) :
    DriftSpec.ofJson? s.toJson = some s.truncated := by
  obtain ⟨hret, hreg⟩ := forall_scalars.1 h
  have retention := Returns.option rfl fun d hd => .of_eq (Span.returns (hret d hd))
  have regenerate := Returns.option rfl fun r hr => .of_eq (RegenerateSpec.returns (hreg r hr))
  rw [ofJson?, toJson, bind_members, bind_required (uint64?_ofUInt64 s.threshold) rfl,
    bind_defaulted retention.eq rfl, bind_defaulted regenerate.eq rfl]
  rfl

theorem Backend.returns (b : Backend) : Backend.ofJson? (.str b.name) = some b := by
  cases b <;> rfl

theorem PruningSpec.returns (s : PruningSpec) : PruningSpec.ofJson? s.toJson = some s := by
  have minAvailable := Returns.option_self (o := s.minAvailable) rfl fun n _ =>
    .of_eq (uint32?_ofUInt32 n)
  rw [ofJson?, toJson, bind_members, bind_required (uint32?_ofUInt32 s.trigger) rfl,
    bind_defaulted minAvailable.eq rfl, bind_defaulted (str?_str s.dataDir) rfl,
    bind_defaulted (uint64?_ofUInt64 s.blocks) rfl,
    bind_defaulted (uint64?_ofUInt64 s.versions) rfl, bind_defaulted (bool?_bool s.cosmosSdk) rfl,
    bind_defaulted (bool?_bool s.tendermint) rfl, bind_defaulted (bool?_bool s.txIndex) rfl,
    bind_defaulted (bool?_bool s.compact) rfl, bind_defaulted s.backend.returns rfl]

theorem HealSpec.returns {s : HealSpec} (h : ∀ x ∈ s.scalars, x.Storable) :
    Returns HealSpec.toJson HealSpec.ofJson? s s.truncated := by
  obtain ⟨hauto, hdrift⟩ := forall_scalars.1 h
  obtain ⟨autoscale, read, like⟩ := Returns.option_self rfl fun a ha =>
    AutoscaleSpec.returns (hauto a ha)
  have drift := Returns.option rfl fun d hd => .of_eq (DriftSpec.returns (hdrift d hd))
  have pruning := Returns.option_self (o := s.pruning) rfl fun p _ => .of_eq p.returns
  refine ⟨{ s.truncated with autoscale }, ?_, ?_⟩
  · rw [ofJson?, toJson, bind_members, bind_defaulted read rfl, bind_defaulted drift.eq rfl,
      bind_defaulted pruning.eq rfl]
    rfl
  · change (autoscale == s.autoscale &&
      (s.truncated.drift == s.truncated.drift && s.pruning == s.pruning)) = true
    simp [like]

theorem FleetSpec.returns {s : FleetSpec} (h : ∀ x ∈ s.scalars, x.Storable) :
    Returns FleetSpec.toJson FleetSpec.ofJson? s s.truncated := by
  obtain ⟨heal, read, like⟩ := Returns.option rfl fun heal hh =>
    HealSpec.returns (forall_scalars.1 h heal hh)
  refine ⟨{ s with heal }, ?_, ?_⟩
  · rw [ofJson?, toJson, bind_members, bind_required (uint32?_ofUInt32 s.replicas) rfl,
      bind_defaulted s.rollout.returns rfl, bind_defaulted read rfl]
  · change (s.replicas == s.replicas && (s.rollout == s.rollout && heal == s.truncated.heal)) = true
    simp [like, truncated]

/-! ### The status -/

theorem SyncInfo.returns {s : SyncInfo} (h : ∀ x ∈ s.scalars, x.Storable) :
    SyncInfo.ofJson? s.toJson = some s.truncated := by
  obtain ⟨observed, lastBlock, flat⟩ := forall_scalars.1 h
  have height := Returns.option_self (o := s.height) rfl fun n _ => .of_eq (uint64?_ofUInt64 n)
  have inSync := Returns.option_self (o := s.inSync) rfl fun b _ => .of_eq (bool?_bool b)
  have error := Returns.option_self (o := s.error) rfl fun e _ => .of_eq (str?_str e)
  rw [ofJson?, toJson, bind_members, bind_required (Time.returns observed) rfl,
    bind_defaulted height.eq rfl, bind_defaulted inSync.eq rfl, bind_defaulted error.eq rfl,
    bind_required (Time.returns lastBlock) rfl, bind_required (Span.returns flat) rfl]
  rfl

theorem ResizeRequest.returns {r : ResizeRequest} (h : ∀ x ∈ r.scalars, x.Storable) :
    Returns ResizeRequest.toJson ResizeRequest.ofJson? r r := by
  obtain ⟨hsize, requestedAt⟩ := forall_scalars.1 h
  obtain ⟨size, read, like⟩ := Quantity.returns hsize
  refine ⟨{ r with size }, ?_, ?_⟩
  · rw [ofJson?, toJson, bind_members, bind_required read rfl,
      bind_required (Time.returns requestedAt) rfl]
  · change (size == r.size && r.requestedAt == r.requestedAt) = true
    simp [like]

theorem RegenPhase.returns (p : RegenPhase) : RegenPhase.ofJson? (.str p.name) = some p := by
  cases p <;> rfl

theorem FailureLog.returns {l : FailureLog} (h : ∀ x ∈ l.scalars, x.Storable) :
    FailureLog.ofJson? l.toJson = some l := by
  have times := Returns.list fun t ht => .of_eq (Time.returns (forall_scalars.1 h t ht))
  rw [ofJson?, toJson, bind_members, bind_defaulted times.eq rfl,
    bind_defaulted l.phase.returns rfl]

theorem PruningPhase.returns (p : PruningPhase) : PruningPhase.ofJson? (.str p.name) = some p := by
  cases p <;> rfl

theorem Candidate.returns (c : Candidate) : Candidate.ofJson? c.toJson = some c := by
  rw [ofJson?, toJson, bind_members, bind_required (str?_str c.pod) rfl,
    bind_required (str?_str c.space) rfl]

theorem PruningStatus.returns {p : PruningStatus} (h : ∀ x ∈ p.scalars, x.Storable) :
    PruningStatus.ofJson? p.toJson = some p := by
  have candidates := Returns.map_self (m := p.candidates) fun c _ => .of_eq c.returns
  have substituted := Returns.map_self fun t ht =>
    .of_eq (Time.returns (forall_scalars.1 h t ht))
  rw [ofJson?, toJson, bind_members, bind_required p.phase.returns rfl,
    bind_defaulted candidates.eq rfl, bind_defaulted substituted.eq rfl]

theorem HealingStatus.returns {s : HealingStatus} (h : ∀ x ∈ s.scalars, x.Storable) :
    Returns HealingStatus.toJson HealingStatus.ofJson? s s := by
  obtain ⟨hsizes, hfail, hprune⟩ := forall_scalars.1 h
  obtain ⟨resizes, read, like⟩ := Returns.map_self fun r hr =>
    ResizeRequest.returns (hsizes r hr)
  have failures := Returns.map_self fun l hl => .of_eq (FailureLog.returns (hfail l hl))
  have pruning := Returns.option_self rfl fun p hp => .of_eq (PruningStatus.returns (hprune p hp))
  refine ⟨{ s with resizes }, ?_, ?_⟩
  · rw [ofJson?, toJson, bind_members, bind_defaulted read rfl, bind_defaulted failures.eq rfl,
      bind_defaulted pruning.eq rfl]
  · change (resizes == s.resizes && (s.failures == s.failures && s.pruning == s.pruning)) = true
    simp [like]

theorem FleetStatus.returns {s : FleetStatus} (h : ∀ x ∈ s.scalars, x.Storable) :
    Returns FleetStatus.toJson FleetStatus.ofJson? s s.truncated := by
  obtain ⟨hinfo, hheal⟩ := forall_scalars.1 h
  have syncInfo := Returns.map fun i hi => .of_eq (SyncInfo.returns (hinfo i hi))
  obtain ⟨healing, read, like⟩ := HealingStatus.returns hheal
  refine ⟨{ s.truncated with healing }, ?_, ?_⟩
  · rw [ofJson?, toJson, bind_members, bind_defaulted syncInfo.eq rfl, bind_defaulted read rfl]
    rfl
  · change (s.truncated.syncInfo == s.truncated.syncInfo && healing == s.healing) = true
    simp [like]

/-! ### The fleet -/

/-- A fleet of storable scalars is read back with its spans cut to milliseconds. -/
theorem Fleet.returns {f : Fleet} (version : f.version < Nat.pow 2 64)
    (h : ∀ x ∈ f.scalars, x.Storable) : Returns Fleet.toJson Fleet.ofJson? f f.truncated := by
  obtain ⟨hspec, hstatus⟩ := forall_scalars.1 h
  obtain ⟨spec, readSpec, likeSpec⟩ := FleetSpec.returns hspec
  obtain ⟨status, readStatus, likeStatus⟩ := FleetStatus.returns hstatus
  refine ⟨{ f with spec, status }, ?_, ?_⟩
  · rw [ofJson?, toJson, bind_members, bind_required f.key.returns rfl,
      bind_defaulted (nat64?_ofNat version) rfl, bind_required readSpec rfl,
      bind_defaulted readStatus rfl]
  · change (f.key == f.key && (f.version == f.version &&
      (spec == f.spec.truncated && status == f.status.truncated))) = true
    simp [likeSpec, likeStatus]

/-! ### What is read -/

/-- What a reader leaves in a scalar: it is in range, and a span is whole milliseconds. -/
def Scalar.AsRead (x : Scalar) : Prop := x.InRange ∧ x.Whole

theorem Quantity.yields : Yields ofJson? fun q => (Scalar.size q).AsRead := by
  intro j q read
  obtain ⟨input, -, read⟩ := Option.bind_eq_some_iff.1 read
  refine ⟨?_, trivial⟩
  unfold read? at read
  cases result : Quantity.read input with
  | error e => rw [result] at read; cases read
  | ok r =>
    rw [result] at read
    cases read
    exact read_ne_least result

theorem Span.yields : Yields ofJson? fun s => (Scalar.span s).AsRead := by
  intro j s read
  obtain ⟨n, counted, rfl⟩ := Option.map_eq_some_iff.1 read
  refine ⟨?_, ?_⟩
  · change (ofMillis n).millis < _
    rw [millis_ofMillis]
    exact yields_nat64 j n counted
  · change ofMillis (ofMillis n).millis = _
    rw [millis_ofMillis]

theorem Time.yields : Yields ofJson? fun t => (Scalar.time t).AsRead := fun _ _ _ =>
  ⟨trivial, trivial⟩

theorem AutoscaleSpec.yields : Yields ofJson? fun s => ∀ x ∈ s.scalars, x.AsRead := by
  intro j s read
  simp only [ofJson?, Option.bind_eq_bind, Option.bind_eq_some_iff, Option.some.injEq] at read
  obtain ⟨m, -, trigger, -, increase, -, ceiling, hceiling, rfl⟩ := read
  exact forall_scalars.2 (Quantity.yields.defaulted_option hceiling)

theorem RegenerateSpec.yields : Yields ofJson? fun s => ∀ x ∈ s.scalars, x.AsRead := by
  intro j s read
  simp only [ofJson?, Option.bind_eq_bind, Option.bind_eq_some_iff, Option.some.injEq] at read
  obtain ⟨m, -, window, hwindow, threshold, -, rfl⟩ := read
  exact forall_scalars.2 (Span.yields.required hwindow)

theorem DriftSpec.yields : Yields ofJson? fun s => ∀ x ∈ s.scalars, x.AsRead := by
  intro j s read
  simp only [ofJson?, Option.bind_eq_bind, Option.bind_eq_some_iff, Option.some.injEq] at read
  obtain ⟨m, -, threshold, -, retention, hret, regenerate, hreg, rfl⟩ := read
  exact forall_scalars.2
    ⟨Span.yields.defaulted_option hret, RegenerateSpec.yields.defaulted_option hreg⟩

theorem HealSpec.yields : Yields ofJson? fun s => ∀ x ∈ s.scalars, x.AsRead := by
  intro j s read
  simp only [ofJson?, Option.bind_eq_bind, Option.bind_eq_some_iff, Option.some.injEq] at read
  obtain ⟨m, -, autoscale, hauto, drift, hdrift, pruning, -, rfl⟩ := read
  exact forall_scalars.2
    ⟨AutoscaleSpec.yields.defaulted_option hauto, DriftSpec.yields.defaulted_option hdrift⟩

theorem FleetSpec.yields : Yields ofJson? fun s => ∀ x ∈ s.scalars, x.AsRead := by
  intro j s read
  simp only [ofJson?, Option.bind_eq_bind, Option.bind_eq_some_iff, Option.some.injEq] at read
  obtain ⟨m, -, replicas, -, rollout, -, heal, hheal, rfl⟩ := read
  exact forall_scalars.2 (HealSpec.yields.defaulted_option hheal)

theorem SyncInfo.yields : Yields ofJson? fun s => ∀ x ∈ s.scalars, x.AsRead := by
  intro j s read
  simp only [ofJson?, Option.bind_eq_bind, Option.bind_eq_some_iff, Option.some.injEq] at read
  obtain ⟨m, -, observedAt, hobserved, height, -, inSync, -, error, -, lastBlockAt, hlast, flatFor,
    hflat, rfl⟩ := read
  exact forall_scalars.2
    ⟨Time.yields.required hobserved, Time.yields.required hlast, Span.yields.required hflat⟩

theorem ResizeRequest.yields : Yields ofJson? fun r => ∀ x ∈ r.scalars, x.AsRead := by
  intro j r read
  simp only [ofJson?, Option.bind_eq_bind, Option.bind_eq_some_iff, Option.some.injEq] at read
  obtain ⟨m, -, size, hsize, requestedAt, hrequested, rfl⟩ := read
  exact forall_scalars.2 ⟨Quantity.yields.required hsize, Time.yields.required hrequested⟩

theorem FailureLog.yields : Yields ofJson? fun l => ∀ x ∈ l.scalars, x.AsRead := fun _ _ _ =>
  forall_scalars.2 fun _ _ => ⟨trivial, trivial⟩

theorem PruningStatus.yields : Yields ofJson? fun p => ∀ x ∈ p.scalars, x.AsRead := fun _ _ _ =>
  forall_scalars.2 fun _ _ => ⟨trivial, trivial⟩

theorem HealingStatus.yields : Yields ofJson? fun s => ∀ x ∈ s.scalars, x.AsRead := by
  intro j s read
  simp only [ofJson?, Option.bind_eq_bind, Option.bind_eq_some_iff, Option.some.injEq] at read
  obtain ⟨m, -, resizes, hsizes, failures, hfail, pruning, hprune, rfl⟩ := read
  exact forall_scalars.2 ⟨ResizeRequest.yields.defaulted_map hsizes,
    FailureLog.yields.defaulted_map hfail, PruningStatus.yields.defaulted_option hprune⟩

theorem FleetStatus.yields : Yields ofJson? fun s => ∀ x ∈ s.scalars, x.AsRead := by
  intro j s read
  simp only [ofJson?, Option.bind_eq_bind, Option.bind_eq_some_iff, Option.some.injEq] at read
  obtain ⟨m, -, syncInfo, hinfo, healing, hheal, rfl⟩ := read
  refine forall_scalars.2 ⟨SyncInfo.yields.defaulted_map hinfo,
    HealingStatus.yields.defaulted (fun x hx => absurd hx List.not_mem_nil) hheal⟩

/-- A fleet that was read has a version of one word, and its scalars are as they are read. -/
theorem Fleet.yields :
    Yields ofJson? fun f => f.version < Nat.pow 2 64 ∧ ∀ x ∈ f.scalars, x.AsRead := by
  intro j f read
  simp only [ofJson?, Option.bind_eq_bind, Option.bind_eq_some_iff, Option.some.injEq] at read
  obtain ⟨m, -, key, -, version, hversion, spec, hspec, status, hstatus, rfl⟩ := read
  refine ⟨yields_nat64.defaulted (by decide) hversion, forall_scalars.2
    ⟨FleetSpec.yields.required hspec, FleetStatus.yields.defaulted (fun x hx => ?_) hstatus⟩⟩
  exact absurd hx List.not_mem_nil

namespace Fleet

/-- **The stored fleet returns.**  A fleet with a version of one word and its sizes and spans in
range is read back from what is stored of it, the like of the fleet with its spans cut to whole
milliseconds; and a fleet that was read is read back the like of itself.  Its times have to be read
back from their texts. -/
theorem stored_returns :
    (∀ f : Fleet, f.version < Nat.pow 2 64 → (∀ x ∈ f.scalars, x.InRange) →
      (∀ t ∈ f.times, Time.ofJson? t.toJson = some t) →
      ∃ g, ofJson? f.toJson = some g ∧ (g == f.truncated) = true) ∧
    ∀ j (f : Fleet), ofJson? j = some f →
      (∀ t ∈ f.times, Time.ofJson? t.toJson = some t) →
      ∃ g, ofJson? f.toJson = some g ∧ (g == f) = true := by
  have stored : ∀ f : Fleet, f.version < Nat.pow 2 64 → (∀ x ∈ f.scalars, x.InRange) →
      (∀ t ∈ f.times, Time.ofJson? t.toJson = some t) →
      Returns toJson ofJson? f f.truncated := fun f version inRange times =>
    returns version fun x hx =>
      ⟨inRange x hx, fun t ht => times t (List.mem_filterMap.2 ⟨x, hx, ht⟩)⟩
  refine ⟨stored, fun j f read times => ?_⟩
  obtain ⟨version, asRead⟩ := yields j f read
  have whole : f.truncated = f := truncated_eq fun x hx => (asRead x hx).2
  have returned := stored f version (fun x hx => (asRead x hx).1) times
  rwa [whole] at returned

/-- A fleet with every part there is, its spans not in whole milliseconds. -/
def laden : Fleet where
  key := ⟨"chain", "fullnode"⟩
  version := 7
  spec := {
    replicas := 3
    rollout := { maxUnavailable := some (.percent 25) }
    heal := some {
      autoscale := some { trigger := 80, increase := "10%", ceiling := some ⟨1073741824, .binary⟩ }
      drift := some {
        threshold := 10
        retention := some ⟨60000000001⟩
        regenerate := some { window := ⟨3600000999999⟩, threshold := 3 } }
      pruning := some { trigger := 75 } } }
  status := {
    syncInfo := .ofList [("pod-0", {
      observedAt := ⟨1700000000123456789, false⟩
      height := some 42
      lastBlockAt := ⟨1699999999000000000, false⟩
      flatFor := ⟨1123456789⟩ })]
    healing := {
      resizes := .ofList [("claim-0", {
        size := ⟨12000, .decimal⟩
        requestedAt := ⟨1700000000000000000, false⟩ })]
      failures := .ofList [("pod-0", {
        times := [⟨1700000000000001000, false⟩]
        phase := .regenerating })]
      pruning := some {
        candidates := .ofList [("chain.pod-0", { pod := "pod-0", space := "chain" })]
        substituted := .ofList [("chain.pod-0", ⟨1483228800000000000, true⟩)] } } }

theorem stored_returns_laden :
    (∃ g, ofJson? laden.toJson = some g ∧ (g == laden.truncated) = true) ∧
    ∃ g, ofJson? laden.truncated.toJson = some g ∧ (g == laden.truncated) = true :=
  ⟨stored_returns.1 laden (by decide) (by decide) (by decide +kernel),
    stored_returns.2 laden.toJson laden.truncated rfl (by decide +kernel)⟩

end Fleet

end FleetMend
