/-
  HNodeMgmt.Arbiter.DiscoveryOrder — mappings and the order of discovery.

  Two runs with the same devices and the same replies may differ in when each
  record is found and in how the monitor's turns fall between.  A device passes
  SRV_MAP_UPDATE ONCE on its way to ACTIVE, and the states after it never look
  at the mappings again.  So what a device is told depends on the target at
  that moment: it is the provider's URI if the provider is known by then, and
  the empty string, which unmaps the service, if not.

  Main results:
    * `deviceInv_run` — along every run, what the phase of a device says of its
      desired types and of what it has been told.
    * `mappings_order_independent` — two runs tell every device the same, when
      each mapping update comes after its providers are known.
    * `mapped_too_early` — two runs that differ in the order of discovery alone,
      and leave a device mapped to different URIs.
-/
import Mathlib.Tactic.Common
import HNodeMgmt.Arbiter.Mapped
import HNodeMgmt.Arbiter.Addresses

namespace HNodeMgmt.Arbiter

open Lib

section DiscoveryOrder

variable [Platform]

/-! ## §1. Fixed replies, and mapping updates in time. -/

/-- The replies are fixed: what becomes of a request depends on the device and
the helper, and on nothing else. -/
def FixedReplies (ρ : Str → RestOp → RestOutcome) (u : Sys) : Label → Prop
  | .reply o => ∀ id st op, u.monitor = .waiting id st op → o = ρ id op
  | _ => True

/-- Where a step may make the mappings depend on the order. -/
structure MapsInTime (own : Str) (u : Sys) (l : Label) : Prop where
  /-- The case of SRV_MAP_UPDATE runs when the default providers of the services
  the device desires are known. -/
  providersKnown : ∀ (id : Str) (device : HNMDARecord), l = .act →
    u.monitor = .acting id .srvMapUpdate → u.arbiter.deviceMap[id]? = some device →
    ∀ t ∈ device.srvMapDesired, ∀ ref : HNMDSrvRef, u.arbiter.defaultMappings[t]? = some ref →
      u.arbiter.deviceMap[ref.devCRC32ID]? ≠ none
  /-- The reply with the desired services does not raise with some of them added:
  such a device goes to ACTIVE and is never told. -/
  completes : ∀ (id : Str) (device : HNMDARecord) (o : RestOutcome) (st : MgmtState) (body : Body),
    l = .reply o → u.monitor = .waiting id st .updateDeviceServicesMappingInfo →
    u.arbiter.deviceMap[id]? = some device → o.receive = .ok body →
      ¬ raisesAfterAdding device.srvMapDesired body
  /-- The manager is not asked for its services like a device. -/
  ownKept : ∀ (o : RestOutcome) (st : MgmtState), l = .reply o →
    u.monitor ≠ .waiting own st .updateDeviceServicesProvideInfo

/-- The states past the mapping update. -/
def pastMapping : MgmtState → Bool
  | .active | .updateHealth | .updateStrref => true
  | _ => false

/-- The manager is known, and every other device is past its mapping update. -/
structure Settled (own : Str) (s : Sys) : Prop where
  ownKnown : s.arbiter.deviceMap[own]? ≠ none
  others : ∀ (id : Str) (device : HNMDARecord), s.arbiter.deviceMap[id]? = some device →
    id ≠ own → pastMapping device.mgmtState = true

/-! ## §2. What the phase of a device says. -/

/-- The types a device desires, by its reply. -/
def desiredTypes (ρ : Str → RestOp → RestOutcome) (id : Str) : List Str :=
  match (ρ id .updateDeviceServicesMappingInfo).receive with
  | .ok body => namedTypes body
  | _ => []

/-- A plain IPv4 address of the device has been announced. -/
def Reachable (id : Str) (ts : List (Trans Sys Label Event)) : Prop :=
  ∃ e ∈ announced id ts, addressType e.2.1 = .ipv4

/-- The record has the types its device's reply names. -/
def Desires (ρ : Str → RestOp → RestOutcome) (id : Str) (device : HNMDARecord) : Prop :=
  ∀ t : Str, t ∈ device.srvMapDesired ↔ t ∈ desiredTypes ρ id

/-- The device has been told the target of each type it desires. -/
def Told (a₀ : HNManagedDeviceArbiter) (id : Str) (ts : List (Trans Sys Label Event))
    (device : HNMDARecord) : Prop :=
  ∀ t ∈ device.srvMapDesired, lastMapped id t ts = some (ownTarget a₀ t)

section Facts

variable (ρ : Str → RestOp → RestOutcome) (a₀ : HNManagedDeviceArbiter) (id : Str)
  (ts : List (Trans Sys Label Event)) (device : HNMDARecord)

/-- What a state says of the device that is in it, or about to be. -/
def StateFacts : MgmtState → Prop
  | .ownerInfo | .srvProvideInfo => Reachable id ts
  | .srvMappingInfo => Reachable id ts ∧ id ≠ a₀.getSelfCRC32IDStr
  | .srvMapUpdate => Desires ρ id device
  | .active | .updateHealth | .updateStrref => Desires ρ id device ∧ Told a₀ id ts device
  | _ => True

/-- The same once the request of its case is out. -/
def WaitFacts : MgmtState → Prop
  | .optInfo => Reachable id ts
  | .srvMapUpdate => Desires ρ id device ∧ Told a₀ id ts device
  | st => StateFacts ρ a₀ id ts device st

/-- The same of wherever the monitor is. -/
def PhaseFacts : MonitorPhase → Prop
  | .acting key st => key = id → StateFacts ρ a₀ id ts device st
  | .waiting key st op => key = id →
    WaitFacts ρ a₀ id ts device st ∧ ∃ cmdType, caseOp st cmdType = some op
  | .writing key _ next => key = id → StateFacts ρ a₀ id ts device next.1
  | _ => True

structure RecordFacts (monitor : MonitorPhase) : Prop where
  keyed : Keyed device.srvMapDesired
  types : (∀ t : Str, t ∉ device.srvMapDesired) ∨ Desires ρ id device
  own : id = a₀.getSelfCRC32IDStr → ∀ t : Str, t ∉ device.srvMapDesired
  state : StateFacts ρ a₀ id ts device device.mgmtState
  phase : PhaseFacts ρ a₀ id ts device monitor

end Facts

/-- The facts of a device, once it is known. -/
def DeviceInv (ρ : Str → RestOp → RestOutcome) (a₀ : HNManagedDeviceArbiter) (id : Str)
    (ts : List (Trans Sys Label Event)) (s : Sys) : Prop :=
  ∀ device, s.arbiter.deviceMap[id]? = some device → RecordFacts ρ a₀ id ts device s.monitor

variable {ρ : Str → RestOp → RestOutcome} {a₀ : HNManagedDeviceArbiter} {id : Str}
  {ts ts' : List (Trans Sys Label Event)} {device device' : HNMDARecord} {u v : Sys} {l : Label}
  {es : List Event}

/-- The facts of a device carry over to a later one. -/
structure Carries (ρ : Str → RestOp → RestOutcome) (a₀ : HNManagedDeviceArbiter) (id : Str)
    (ts : List (Trans Sys Label Event)) (device : HNMDARecord)
    (ts' : List (Trans Sys Label Event)) (device' : HNMDARecord) : Prop where
  reachable : Reachable id ts → Reachable id ts'
  desires : Desires ρ id device → Desires ρ id device'
  told : Desires ρ id device → Told a₀ id ts device → Told a₀ id ts' device'

theorem StateFacts.carry {st : MgmtState} (h : StateFacts ρ a₀ id ts device st)
    (hc : Carries ρ a₀ id ts device ts' device') : StateFacts ρ a₀ id ts' device' st := by
  cases st with
  | ownerInfo | srvProvideInfo => exact hc.reachable h
  | srvMappingInfo => exact ⟨hc.reachable h.1, h.2⟩
  | srvMapUpdate => exact hc.desires h
  | active | updateHealth | updateStrref => exact ⟨hc.desires h.1, hc.told h.1 h.2⟩
  | _ => trivial

/-- Two requests are news. -/
theorem waitFacts_of_state {st : MgmtState} (h : StateFacts ρ a₀ id ts device st)
    (hopt : st = .optInfo → Reachable id ts) (hmap : st = .srvMapUpdate → Told a₀ id ts device) :
    WaitFacts ρ a₀ id ts device st := by
  cases st with
  | optInfo => exact hopt rfl
  | srvMapUpdate => exact ⟨h, hmap rfl⟩
  | _ => exact h

theorem WaitFacts.state {st : MgmtState} (h : WaitFacts ρ a₀ id ts device st) :
    StateFacts ρ a₀ id ts device st := by
  cases st with
  | optInfo => trivial
  | srvMapUpdate => exact h.1
  | _ => exact h

theorem WaitFacts.carry {st : MgmtState} (h : WaitFacts ρ a₀ id ts device st)
    (hc : Carries ρ a₀ id ts device ts' device') : WaitFacts ρ a₀ id ts' device' st := by
  refine waitFacts_of_state (h.state.carry hc) ?_ ?_
  · rintro rfl
    exact hc.reachable h
  · rintro rfl
    exact hc.told h.1 h.2

theorem PhaseFacts.carry {monitor : MonitorPhase} (h : PhaseFacts ρ a₀ id ts device monitor)
    (hc : Carries ρ a₀ id ts device ts' device') :
    PhaseFacts ρ a₀ id ts' device' monitor := by
  cases monitor with
  | acting key st => exact fun heq => (h heq).carry hc
  | waiting key st op => exact fun heq => ⟨(h heq).1.carry hc, (h heq).2⟩
  | writing key st next => exact fun heq => (h heq).carry hc
  | idle | atDevice key | dead => trivial

theorem phaseFacts_of_free {monitor : MonitorPhase} (hfree : workingOn id monitor = false) :
    PhaseFacts ρ a₀ id ts device monitor := by
  cases monitor with
  | acting key st | waiting key st op | writing key st next =>
    intro heq
    simp [workingOn, heq] at hfree
  | idle | atDevice key | dead => trivial

/-- The facts of a record carry over where its types stay. -/
theorem RecordFacts.carry {monitor monitor' : MonitorPhase}
    (h : RecordFacts ρ a₀ id ts device monitor) (hc : Carries ρ a₀ id ts device ts' device')
    (hkeyed : Keyed device'.srvMapDesired)
    (hsame : ∀ t : Str, t ∈ device'.srvMapDesired ↔ t ∈ device.srvMapDesired)
    (hstate : device'.mgmtState = device.mgmtState ∨
      StateFacts ρ a₀ id ts' device' device'.mgmtState)
    (hphase : PhaseFacts ρ a₀ id ts' device' monitor') :
    RecordFacts ρ a₀ id ts' device' monitor' := by
  have hnone : (∀ t : Str, t ∉ device.srvMapDesired) → ∀ t : Str, t ∉ device'.srvMapDesired :=
    fun h t => (hsame t).not.mpr (h t)
  refine ⟨hkeyed, h.types.imp hnone hc.desires, fun hown => hnone (h.own hown), ?_, hphase⟩
  rcases hstate with heq | hfacts
  · rw [heq]
    exact h.state.carry hc
  · exact hfacts

/-- A device without desired types, whose reply names none, has been told all. -/
theorem told_of_none (hnone : ∀ t : Str, t ∉ device.srvMapDesired)
    (hreply : desiredTypes ρ id = []) : Desires ρ id device ∧ Told a₀ id ts device := by
  refine ⟨fun t => iff_of_false (hnone t) ?_, fun t ht => absurd ht (hnone t)⟩
  rw [hreply]
  exact List.not_mem_nil

/-- Where a reply names no type, a record that has the types of the reply has none. -/
theorem none_of_types (htypes : (∀ t : Str, t ∉ device.srvMapDesired) ∨ Desires ρ id device)
    (hreply : desiredTypes ρ id = []) (t : Str) : t ∉ device.srvMapDesired := by
  rcases htypes with hnone | hdes
  · exact hnone t
  · rw [hdes t, hreply]
    exact List.not_mem_nil

/-! ## §3. The two halves of a case. -/

theorem announced_snoc (tr : Trans Sys Label Event) :
    announced id (ts ++ [tr]) = announced id ts ++ announcedBy id tr.label := by
  simp [announced]

theorem Reachable.snoc (h : Reachable id ts) (tr : Trans Sys Label Event) :
    Reachable id (ts ++ [tr]) := by
  obtain ⟨e, he, htype⟩ := h
  refine ⟨e, ?_, htype⟩
  rw [announced_snoc]
  exact List.mem_append_left _ he

/-- A record has a plain IPv4 address exactly when one has been announced. -/
theorem connection_iff {mgmtDevice : HNodeDevice} {caches : Platform.Caches}
    (hr : Run system (Sys.init mgmtDevice caches) ts u)
    (hget : u.arbiter.deviceMap[id]? = some device) :
    (device.findPreferredConnection .ipv4).isSome ↔ Reachable id ts := by
  have htype := find_type (announced id ts) .ipv4
  rw [← addrsOf_run hr id, addrsOf_of_get hget] at htype
  have hsome := congrArg Option.isSome htype
  rw [Option.isSome_map, Option.isSome_map] at hsome
  unfold HNMDARecord.findPreferredConnection Reachable
  rw [Option.isSome_map, hsome, List.find?_isSome]
  simp only [beq_iff_eq]

/-- The facts carry over a step that keeps the types of a record that has those of
the reply. -/
theorem carries_step (hdefaults : DefaultsOwn a₀) (htarget : TargetInv a₀ u.arbiter)
    (hintime : MapsInTime a₀.getSelfCRC32IDStr u l) (hstep : system.step u l = some (v, es))
    (hget : u.arbiter.deviceMap[id]? = some device) (hkeyed : Keyed device.srvMapDesired)
    (hsame : Desires ρ id device →
      ∀ t : Str, t ∈ device'.srvMapDesired ↔ t ∈ device.srvMapDesired) :
    Carries ρ a₀ id ts device (ts ++ [⟨u, l, es, v⟩]) device' := by
  refine ⟨fun h => h.snoc _, fun h t => (hsame h t).trans (h t), fun hdes htold t ht => ?_⟩
  have hin := (hsame hdes t).mp ht
  rw [lastMapped_snoc]
  rcases mappedAt_none_or_target hget hkeyed hin hstep with hnone | ⟨hl, hat, heq⟩
  · rw [hnone, Option.none_or]
    exact htold t hin
  · rw [heq, Option.some_or,
      mappingTarget_eq hdefaults htarget (hintime.providersKnown id device hl hat hget t hin)]

/-- **The case of SRV_MAP_UPDATE** tells the device all, or gives it up. -/
theorem told_act (hdefaults : DefaultsOwn a₀) (htarget : TargetInv a₀ u.arbiter)
    (hintime : MapsInTime a₀.getSelfCRC32IDStr u .act)
    (hstep : system.step u .act = some (v, es)) (hat : u.monitor = .acting id .srvMapUpdate)
    (hget : u.arbiter.deviceMap[id]? = some device) (hkeyed : Keyed device.srvMapDesired)
    (hsame : ∀ t : Str, t ∈ device'.srvMapDesired ↔ t ∈ device.srvMapDesired)
    (hgoes : v.monitor ≠ .writing id .srvMapUpdate (.offline, 10)) :
    Told a₀ id (ts ++ [⟨u, .act, es, v⟩]) device' := by
  intro t ht
  have hin := (hsame t).mp ht
  rw [lastMapped_snoc]
  rcases mappedAt_target hat hget hkeyed hin hstep with heq | ⟨-, hoffline⟩
  · rw [heq, Option.some_or,
      mappingTarget_eq hdefaults htarget (hintime.providersKnown id device rfl hat hget t hin)]
  · exact absurd hoffline hgoes

/-- A helper that ends before its request: the mapping update, the two that go to a
published URI, and those that find no address. -/
theorem start_finished {a : HNManagedDeviceArbiter} {st : MgmtState} {cmdType : CmdType}
    {op : RestOp} {result : HNMDLResult} (hop : caseOp st cmdType = some op)
    (hstart : (op.start a device).2 = .finished result) :
    st = .srvMapUpdate ∨ st = .updateHealth ∨ st = .updateStrref ∨
      (result = .failure ∧ device.findPreferredConnection .ipv4 = none) := by
  have hopen : ∀ {method path payload},
      openRequest device method path payload = .finished result →
      result = .failure ∧ device.findPreferredConnection .ipv4 = none := by
    intro method path payload h
    unfold openRequest at h
    cases hconn : device.findPreferredConnection .ipv4 with
    | none =>
      rw [hconn] at h
      exact ⟨(RestStart.finished.inj h).symm, rfl⟩
    | some dcInfo =>
      rw [hconn] at h
      cases h
  cases st with
  | srvMapUpdate => exact .inl rfl
  | updateHealth => exact .inr (.inl rfl)
  | updateStrref => exact .inr (.inr (.inl rfl))
  | optInfo | ownerInfo | srvProvideInfo | srvMappingInfo =>
    obtain rfl := Option.some.inj hop
    exact .inr (.inr (.inr (hopen hstart)))
  | execCmd =>
    cases cmdType with
    | notset => cases hop
    | claimdev | releasedev | setdevparams =>
      obtain rfl := Option.some.inj hop
      exact .inr (.inr (.inr (hopen hstart)))
  | _ => cases hop

/-- The first half of a helper keeps the types. -/
theorem start_types (a : HNManagedDeviceArbiter) (op : RestOp)
    (hkeyed : Keyed device.srvMapDesired) :
    Keyed (op.start a device).1.srvMapDesired ∧
      ∀ t : Str, t ∈ (op.start a device).1.srvMapDesired ↔ t ∈ device.srvMapDesired := by
  obtain ⟨m, heq, hm⟩ := start_device a device op
  rw [heq]
  exact hm hkeyed

/-- A reply keeps the endpoints under their types. -/
theorem deviceGiven_keyed (a : HNManagedDeviceArbiter) (o : RestOutcome) (op : RestOp)
    (hkeyed : Keyed device.srvMapDesired) :
    Keyed (op.deviceGiven a device o).srvMapDesired := by
  by_cases hmapping : op = .updateDeviceServicesMappingInfo
  · subst hmapping
    unfold RestOp.deviceGiven
    split
    next body _ => exact applyServicesReply_keyed hkeyed body
    next => exact hkeyed
  · rw [(deviceGiven_frame a device o op).desired hmapping]
    exact hkeyed

/-- A record is discovered with no desired type. -/
theorem discovered_srvMapDesired (a : HNManagedDeviceArbiter) (event : DiscoverEvent) :
    (discovered a event.toRecord).srvMapDesired = ∅ := by
  unfold discovered
  split
  next =>
    rw [initMgmtDevice_frame]
    exact toRecord_srvMapDesired event
  next => exact toRecord_srvMapDesired event

/-- The info request goes to an address. -/
theorem connection_of_request {a : HNManagedDeviceArbiter} {req : HttpRequest}
    (hstart : (RestOp.start a device .updateDeviceOperationalInfo).2 = .request req) :
    (device.findPreferredConnection .ipv4).isSome := by
  simp only [RestOp.start, openRequest] at hstart
  cases hconn : device.findPreferredConnection .ipv4 with
  | none =>
    rw [hconn] at hstart
    cases hstart
  | some dcInfo => rfl

/-- The end of a case without a helper. -/
theorem stateFacts_alone {a : HNManagedDeviceArbiter} {st : MgmtState} {cmdType : CmdType}
    (hop : caseOp st cmdType = none) (h : StateFacts ρ a₀ id ts device st) :
    StateFacts ρ a₀ id ts device (nextState a device' st .failure).1 := by
  cases st with
  | active => exact h
  | optInfo | ownerInfo | srvProvideInfo | srvMappingInfo | srvMapUpdate | updateHealth
  | updateStrref => cases hop
  | _ => trivial

/-- The end of a case with a helper, but for the reply with the desired services. -/
theorem stateFacts_next {a : HNManagedDeviceArbiter} {st : MgmtState} {cmdType : CmdType}
    {op : RestOp} (hop : caseOp st cmdType = some op) (result : HNMDLResult)
    (hmapping : op ≠ .updateDeviceServicesMappingInfo)
    (hprovide : op = .updateDeviceServicesProvideInfo → id ≠ a₀.getSelfCRC32IDStr)
    (h : WaitFacts ρ a₀ id ts device st) :
    StateFacts ρ a₀ id ts device (nextState a device' st result).1 := by
  cases st with
  | srvMappingInfo => exact absurd (Option.some.inj hop).symm hmapping
  | srvProvideInfo =>
    cases result with
    | failure => trivial
    | success => exact ⟨h, hprovide (Option.some.inj hop).symm⟩
  | srvMapUpdate =>
    cases result with
    | failure => trivial
    | success =>
      simp only [nextState]
      split <;> exact h
  | optInfo =>
    cases result with
    | failure => trivial
    | success => exact h
  | ownerInfo =>
    cases result with
    | failure => trivial
    | success =>
      simp only [nextState]
      split <;> first | exact h | trivial
  | updateHealth | updateStrref => exact h
  | execCmd => cases result <;> trivial
  | _ => cases hop

/-- The end of a case whose helper sends nothing. -/
theorem phaseFacts_finished {mgmtDevice : HNodeDevice} {caches : Platform.Caches} {st : MgmtState}
    {op : RestOp} {result : HNMDLResult} (hdefaults : DefaultsOwn a₀)
    (hr : Run system (Sys.init mgmtDevice caches) ts u) (htarget : TargetInv a₀ u.arbiter)
    (hintime : MapsInTime a₀.getSelfCRC32IDStr u .act)
    (hstep : system.step u .act = some (v, es)) (hat : u.monitor = .acting id st)
    (hget : u.arbiter.deviceMap[id]? = some device) (hkeyed : Keyed device.srvMapDesired)
    (hop : caseOp st device.mgmtCmd.cmdType = some op)
    (hstart : (op.start u.arbiter device).2 = .finished result)
    (hgoes : v.monitor =
      .writing id st (nextState v.arbiter (op.start u.arbiter device).1 st result))
    (hc : Carries ρ a₀ id ts device (ts ++ [⟨u, .act, es, v⟩]) (op.start u.arbiter device).1)
    (h : StateFacts ρ a₀ id ts device st) :
    PhaseFacts ρ a₀ id (ts ++ [⟨u, .act, es, v⟩]) (op.start u.arbiter device).1 v.monitor := by
  have hst := h.carry hc
  rcases start_finished hop hstart with rfl | rfl | rfl | ⟨rfl, hconn⟩
  · -- the mapping update: all is told, or the device goes to OFFLINE
    by_cases hoffline : v.monitor = .writing id .srvMapUpdate (.offline, 10)
    · rw [hoffline]
      exact fun _ => trivial
    · obtain ⟨-, hsame⟩ := start_types u.arbiter op hkeyed
      have htold : Told a₀ id (ts ++ [⟨u, .act, es, v⟩]) (op.start u.arbiter device).1 :=
        told_act hdefaults htarget hintime hstep hat hget hkeyed hsame hoffline
      obtain rfl := Option.some.inj hop
      rw [hgoes]
      exact fun _ => stateFacts_next hop result (fun h => by cases h) (fun h => by cases h)
        ⟨hst, htold⟩
  · rw [hgoes]
    exact fun _ => hst
  · rw [hgoes]
    exact fun _ => hst
  · rw [hgoes]
    intro _
    cases st with
    | srvMappingInfo =>
      -- the device has been asked before, so it has an address
      have hsome := (connection_iff hr hget).mpr h.1
      rw [hconn] at hsome
      cases hsome
    | updateHealth | updateStrref => exact hst
    | optInfo | ownerInfo | srvProvideInfo | srvMapUpdate | execCmd => trivial
    | _ => cases hop

/-- The start of a case whose helper sends its request. -/
theorem phaseFacts_requested {mgmtDevice : HNodeDevice} {caches : Platform.Caches}
    {st : MgmtState} {op : RestOp} {req : HttpRequest} (hdefaults : DefaultsOwn a₀)
    (hr : Run system (Sys.init mgmtDevice caches) ts u) (htarget : TargetInv a₀ u.arbiter)
    (hintime : MapsInTime a₀.getSelfCRC32IDStr u .act)
    (hstep : system.step u .act = some (v, es)) (hat : u.monitor = .acting id st)
    (hget : u.arbiter.deviceMap[id]? = some device) (hkeyed : Keyed device.srvMapDesired)
    (hop : caseOp st device.mgmtCmd.cmdType = some op)
    (hstart : (op.start u.arbiter device).2 = .request req)
    (hgoes : v.monitor = .waiting id st op)
    (hc : Carries ρ a₀ id ts device (ts ++ [⟨u, .act, es, v⟩]) (op.start u.arbiter device).1)
    (h : StateFacts ρ a₀ id ts device st) :
    PhaseFacts ρ a₀ id (ts ++ [⟨u, .act, es, v⟩]) (op.start u.arbiter device).1 v.monitor := by
  obtain ⟨-, hsame⟩ := start_types u.arbiter op hkeyed
  rw [hgoes]
  refine fun _ => ⟨waitFacts_of_state (h.carry hc) ?_ ?_, _, hop⟩
  · -- the info request has an address to go to, so one has been announced
    rintro rfl
    obtain rfl := Option.some.inj hop
    exact hc.reachable ((connection_iff hr hget).mp (connection_of_request hstart))
  · -- the request of SRV_MAP_UPDATE carries the mappings
    rintro rfl
    exact told_act hdefaults htarget hintime hstep hat hget hkeyed hsame
      (fun h => by rw [hgoes] at h; cases h)

/-- What the reply with the desired services leaves, and where the device goes. -/
structure MappingReplied (ρ : Str → RestOp → RestOutcome) (a₀ : HNManagedDeviceArbiter) (id : Str)
    (ts : List (Trans Sys Label Event)) (device device' : HNMDARecord) (next : MgmtState) :
    Prop where
  same : Desires ρ id device → ∀ t : Str, t ∈ device'.srvMapDesired ↔ t ∈ device.srvMapDesired
  types : (∀ t : Str, t ∉ device'.srvMapDesired) ∨ Desires ρ id device'
  next : StateFacts ρ a₀ id ts device' next

/-- **The reply with the desired services**: read to its end it leaves the types it
names; else the device is active, without any. -/
theorem mappingReplied {a a' b : HNManagedDeviceArbiter} {o : RestOutcome} {result : HNMDLResult}
    (hfixed : o = ρ id .updateDeviceServicesMappingInfo)
    (hfinish : RestOp.finish a id device o .updateDeviceServicesMappingInfo = some (a', result))
    (hcompletes : ∀ body, o.receive = .ok body → ¬ raisesAfterAdding device.srvMapDesired body)
    (htypes : (∀ t : Str, t ∉ device.srvMapDesired) ∨ Desires ρ id device) :
    MappingReplied ρ a₀ id ts device
      (RestOp.deviceGiven a device o .updateDeviceServicesMappingInfo)
      (nextState b (RestOp.deviceGiven a device o .updateDeviceServicesMappingInfo)
        .srvMappingInfo result).1 := by
  have hresult := finish_result a id device o .updateDeviceServicesMappingInfo
  rw [hfinish] at hresult
  simp only [RestOp.resultOf, RestOp.received, RestOp.feedsCache, RestOp.understands,
    Bool.false_or, Option.map_some] at hresult
  have hreply : desiredTypes ρ id = match o.receive with
      | .ok body => namedTypes body
      | _ => [] := by
    rw [hfixed]
    rfl
  cases hrec : o.receive with
  | raised =>
    rw [hrec] at hresult
    cases hresult
  | failed =>
    rw [hrec] at hresult hreply
    obtain rfl := Option.some.inj hresult
    rw [deviceGiven_not_ok (by rw [hrec]; exact fun _ h => by cases h)]
    exact ⟨fun _ _ => Iff.rfl, htypes, told_of_none (none_of_types htypes hreply) hreply⟩
  | ok body =>
    rw [hrec] at hresult hreply
    have hresult := Option.some.inj hresult
    rw [deviceGiven_ok hrec]
    cases happly : (applyServicesReply device.srvMapDesired body).2 with
    | none =>
      -- the reply raises, and has added no type
      rw [happly, if_neg (by decide)] at hresult
      subst hresult
      have hnamed : desiredTypes ρ id = [] := hreply.trans (namedTypes_of_raised happly)
      have hold := (applyServicesReply_raised_iff happly).mpr (hcompletes body hrec)
      have hnone : ∀ t, t ∉ (applyServicesReply device.srvMapDesired body).1 := fun t ht =>
        none_of_types htypes hnamed t (hold t ht)
      exact ⟨fun _ t => ⟨hold t, applyServicesReply_grows happly⟩, .inl hnone,
        told_of_none hnone hnamed⟩
    | some changed =>
      rw [happly, if_pos (by rfl)] at hresult
      subst hresult
      have hdes : ∀ t, t ∈ (applyServicesReply device.srvMapDesired body).1 ↔
          t ∈ desiredTypes ρ id := by
        intro t
        rw [mem_applyServicesReply happly, hreply]
      exact ⟨fun hbefore t => (hdes t).trans (hbefore t).symm, .inr hdes, hdes⟩

/-- **A reply** keeps the facts of its device, whose case ends. -/
theorem recordFacts_replied {a' b : HNManagedDeviceArbiter} {o : RestOutcome} {st : MgmtState}
    {op : RestOp} {result : HNMDLResult} (hfixed : FixedReplies ρ u (.reply o))
    (hintime : MapsInTime a₀.getSelfCRC32IDStr u (.reply o)) (hat : u.monitor = .waiting id st op)
    (hget : u.arbiter.deviceMap[id]? = some device)
    (hfinish : op.finish u.arbiter id device o = some (a', result))
    (hcarry : ∀ device', (Desires ρ id device →
      ∀ t : Str, t ∈ device'.srvMapDesired ↔ t ∈ device.srvMapDesired) →
        Carries ρ a₀ id ts device ts' device')
    (h : RecordFacts ρ a₀ id ts device u.monitor) :
    RecordFacts ρ a₀ id ts' (op.deviceGiven u.arbiter device o)
      (.writing id st (nextState b (op.deviceGiven u.arbiter device o) st result)) := by
  have hphase := h.phase
  rw [hat] at hphase
  obtain ⟨hwait, cmdType, hop⟩ := hphase rfl
  have hframe := deviceGiven_frame u.arbiter device o op
  by_cases hmapping : op = .updateDeviceServicesMappingInfo
  · obtain rfl := hmapping
    obtain rfl := caseOp_mappingInfo hop
    have hreplied : MappingReplied ρ a₀ id ts' device
        (RestOp.deviceGiven u.arbiter device o .updateDeviceServicesMappingInfo)
        (nextState b (RestOp.deviceGiven u.arbiter device o .updateDeviceServicesMappingInfo)
          .srvMappingInfo result).1 :=
      mappingReplied (hfixed id _ _ hat) hfinish
        (fun body hok => hintime.completes id device o _ body rfl hat hget hok) h.types
    obtain ⟨hsame, htypes, hnext⟩ := hreplied
    have hc := hcarry _ hsame
    refine ⟨deviceGiven_keyed _ o _ h.keyed, htypes, fun hown => absurd hown hwait.2, ?_,
      fun _ => hnext⟩
    rw [hframe.mgmtState]
    exact h.state.carry hc
  · -- no other reply touches the desired types
    have hdesired := hframe.desired hmapping
    have hsame : ∀ t : Str, t ∈ (op.deviceGiven u.arbiter device o).srvMapDesired ↔
        t ∈ device.srvMapDesired := fun t => by rw [hdesired]
    have hc := hcarry _ fun _ => hsame
    refine h.carry hc (hdesired ▸ h.keyed) hsame (.inl hframe.mgmtState) ?_
    refine fun _ => stateFacts_next hop result hmapping ?_ (hwait.carry hc)
    rintro rfl rfl
    exact hintime.ownKept o st rfl hat

/-! ## §4. One step, and every run. -/

/-- A step that leaves the desired services of a device keeps its facts, where its
state, if it is a new one, and the phase of the monitor say what then holds. -/
theorem recordFacts_kept (hdefaults : DefaultsOwn a₀) (htarget : TargetInv a₀ u.arbiter)
    (hintime : MapsInTime a₀.getSelfCRC32IDStr u l) (hstep : system.step u l = some (v, es))
    (hget : u.arbiter.deviceMap[id]? = some device)
    (h : RecordFacts ρ a₀ id ts device u.monitor)
    (hdesired : device'.srvMapDesired = device.srvMapDesired)
    (hnow : Carries ρ a₀ id ts device (ts ++ [⟨u, l, es, v⟩]) device' →
      (device'.mgmtState = device.mgmtState ∨
        StateFacts ρ a₀ id (ts ++ [⟨u, l, es, v⟩]) device' device'.mgmtState) ∧
      PhaseFacts ρ a₀ id (ts ++ [⟨u, l, es, v⟩]) device' v.monitor) :
    RecordFacts ρ a₀ id (ts ++ [⟨u, l, es, v⟩]) device' v.monitor := by
  have hsame : ∀ t : Str, t ∈ device'.srvMapDesired ↔ t ∈ device.srvMapDesired := by
    intro t
    rw [hdesired]
  have hc : Carries ρ a₀ id ts device (ts ++ [⟨u, l, es, v⟩]) device' :=
    carries_step hdefaults htarget hintime hstep hget h.keyed fun _ => hsame
  obtain ⟨hstate, hphase⟩ := hnow hc
  exact h.carry hc (hdesired ▸ h.keyed) hsame hstate hphase

/-- A step elsewhere. -/
theorem recordFacts_away (hdefaults : DefaultsOwn a₀) (htarget : TargetInv a₀ u.arbiter)
    (hintime : MapsInTime a₀.getSelfCRC32IDStr u l) (hstep : system.step u l = some (v, es))
    (hget : u.arbiter.deviceMap[id]? = some device) (moved : MovedAway u v id)
    (h : RecordFacts ρ a₀ id ts device u.monitor) :
    RecordFacts ρ a₀ id (ts ++ [⟨u, l, es, v⟩]) device v.monitor := by
  have hc : Carries ρ a₀ id ts device (ts ++ [⟨u, l, es, v⟩]) device :=
    carries_step hdefaults htarget hintime hstep hget h.keyed fun _ _ => Iff.rfl
  refine h.carry hc h.keyed (fun _ => Iff.rfl) (.inl rfl) ?_
  rcases moved.free with heq | hfree
  · rw [heq]
    exact h.phase.carry hc
  · exact phaseFacts_of_free hfree

/-- A device that is discovered desires nothing yet. -/
theorem recordFacts_appeared {mgmtDevice : HNodeDevice} {caches : Platform.Caches}
    {event : DiscoverEvent} (hr : Run system (Sys.init mgmtDevice caches) ts u)
    (hnone : u.arbiter.deviceMap[id]? = none) (hstays : v.monitor = u.monitor) :
    RecordFacts ρ a₀ id ts' (discovered u.arbiter event.toRecord) v.monitor := by
  -- the monitor works on known devices only, so it is not at this one
  have hfree : workingOn id v.monitor = false := by
    rw [hstays]
    exact Bool.eq_false_iff.mpr fun hw => known_run hr hw hnone
  have hempty := discovered_srvMapDesired u.arbiter event
  have hnone' : ∀ t : Str, t ∉ (discovered u.arbiter event.toRecord).srvMapDesired := by
    intro t
    rw [hempty]
    simp
  refine ⟨hempty ▸ keyed_empty, .inl hnone', fun _ => hnone', ?_, phaseFacts_of_free hfree⟩
  unfold discovered
  split <;> trivial

/-- The first half of a helper: what is left to say is what the new phase says. -/
theorem recordFacts_started {op : RestOp} (hdefaults : DefaultsOwn a₀)
    (htarget : TargetInv a₀ u.arbiter) (hintime : MapsInTime a₀.getSelfCRC32IDStr u l)
    (hstep : system.step u l = some (v, es)) (hget : u.arbiter.deviceMap[id]? = some device)
    (h : RecordFacts ρ a₀ id ts device u.monitor)
    (hphase : Carries ρ a₀ id ts device (ts ++ [⟨u, l, es, v⟩]) (op.start u.arbiter device).1 →
      PhaseFacts ρ a₀ id (ts ++ [⟨u, l, es, v⟩]) (op.start u.arbiter device).1 v.monitor) :
    RecordFacts ρ a₀ id (ts ++ [⟨u, l, es, v⟩]) (op.start u.arbiter device).1 v.monitor := by
  obtain ⟨hkeyed, hsame⟩ := start_types u.arbiter op h.keyed
  have hc : Carries ρ a₀ id ts device (ts ++ [⟨u, l, es, v⟩]) (op.start u.arbiter device).1 :=
    carries_step hdefaults htarget hintime hstep hget h.keyed fun _ => hsame
  exact h.carry hc hkeyed hsame (.inl (start_mgmtState _ _ op)) (hphase hc)

/-- **One step** keeps the facts of a device. -/
theorem deviceInv_step {mgmtDevice : HNodeDevice} {caches : Platform.Caches}
    (hdefaults : DefaultsOwn a₀) (hr : Run system (Sys.init mgmtDevice caches) ts u)
    (htarget : TargetInv a₀ u.arbiter) (hfixed : FixedReplies ρ u l)
    (hintime : MapsInTime a₀.getSelfCRC32IDStr u l) (hstep : system.step u l = some (v, es))
    (hinv : DeviceInv ρ a₀ id ts u) : DeviceInv ρ a₀ id (ts ++ [⟨u, l, es, v⟩]) v := by
  cases recordTook_of_took (took_of_step hstep) id with
  | away same moved quiet =>
    intro device hget
    have hbefore := same ▸ hget
    exact recordFacts_away hdefaults htarget hintime hstep hbefore moved (hinv device hbefore)
  | appeared hid hnone after stays =>
    exact forall_record after (recordFacts_appeared hr hnone stays)
  | @announced event _ device hid hget after stays =>
    have hfacts := hinv device hget
    have hdesired := updateRecord_srvMapDesired device event.toRecord
    exact forall_record after
      (recordFacts_kept hdefaults htarget hintime hstep hget hfacts hdesired fun hc =>
        ⟨.inl (updateRecord_mgmtState device _), stays ▸ hfacts.phase.carry hc⟩)
  | @removed event _ device hid hget after stays =>
    -- DISAPPEARING says nothing of the device
    have hfacts := hinv device hget
    exact forall_record after
      (recordFacts_kept hdefaults htarget hintime hstep hget hfacts rfl fun hc =>
        ⟨.inr trivial, stays ▸ hfacts.phase.carry hc⟩)
  | @cmdSet body _ device hget after stays =>
    have hfacts := hinv device hget
    exact forall_record after
      (recordFacts_kept hdefaults htarget hintime hstep hget hfacts rfl fun hc =>
        ⟨.inl rfl, stays ▸ hfacts.phase.carry hc⟩)
  | @cmdStarted _ device hget after stays =>
    have hfacts := hinv device hget
    exact forall_record after
      (recordFacts_kept hdefaults htarget hintime hstep hget hfacts rfl fun hc =>
        ⟨.inr trivial, stays ▸ hfacts.phase.carry hc⟩)
  | @read _ device hat hget hbusy after goes =>
    -- what the state says is now what the phase says
    have hfacts := hinv device hget
    refine forall_record after
      (recordFacts_kept hdefaults htarget hintime hstep hget hfacts rfl fun hc => ⟨.inl rfl, ?_⟩)
    rw [goes]
    exact fun _ => hfacts.state.carry hc
  | @alone _ st device hat hget hop after goes =>
    have hfacts := hinv device hget
    have hphase := hfacts.phase
    rw [hat] at hphase
    have hdesired : (caseOwnership st device).srvMapDesired = device.srvMapDesired := by
      cases st <;> rfl
    refine forall_record after
      (recordFacts_kept hdefaults htarget hintime hstep hget hfacts hdesired fun hc =>
        ⟨.inl (caseOwnership_mgmtState st device), ?_⟩)
    rw [goes]
    exact fun _ => stateFacts_alone hop ((hphase rfl).carry hc)
  | @finished _ st device op result hat hget hop hstart after goes =>
    have hfacts := hinv device hget
    have hphase := hfacts.phase
    rw [hat] at hphase
    exact forall_record after
      (recordFacts_started hdefaults htarget hintime hstep hget hfacts fun hc =>
        phaseFacts_finished hdefaults hr htarget hintime hstep hat hget hfacts.keyed hop hstart goes
          hc (hphase rfl))
  | @requested _ st device op req hat hget hop hstart after goes =>
    have hfacts := hinv device hget
    have hphase := hfacts.phase
    rw [hat] at hphase
    exact forall_record after
      (recordFacts_started hdefaults htarget hintime hstep hget hfacts fun hc =>
        phaseFacts_requested hdefaults hr htarget hintime hstep hat hget hfacts.keyed hop hstart
          goes hc (hphase rfl))
  | @raised _ st device op hat hget hop hstart after goes =>
    refine forall_record after
      (recordFacts_started hdefaults htarget hintime hstep hget (hinv device hget) fun _ => ?_)
    rw [goes]
    trivial
  | @replied _ st device op o result hat hget hfinish after goes =>
    have hfacts := hinv device hget
    refine forall_record after ?_
    rw [goes]
    exact recordFacts_replied hfixed hintime hat hget hfinish
      (fun device' => carries_step hdefaults htarget hintime hstep hget hfacts.keyed) hfacts
  | @written _ st next device hat hget after goes =>
    -- what the phase says of the next state is now what the state says
    have hfacts := hinv device hget
    have hphase := hfacts.phase
    rw [hat] at hphase
    exact forall_record after
      (recordFacts_kept hdefaults htarget hintime hstep hget hfacts rfl fun hc =>
        ⟨.inr ((hphase rfl).carry hc), phaseFacts_of_free goes⟩)

/-- The facts of every device along a run. -/
theorem deviceInv_run {mgmtDevice : HNodeDevice} {caches : Platform.Caches} {s : Sys}
    (hr : Run system (Sys.init mgmtDevice caches) ts s) (hfixed : StepsMeet (FixedReplies ρ) ts)
    (hintime : StepsMeet (MapsInTime mgmtDevice.hnodeIDCRC32Str) ts) :
    TargetInv (Sys.init mgmtDevice caches).arbiter s.arbiter ∧
      ∀ id, DeviceInv ρ (Sys.init mgmtDevice caches).arbiter id ts s := by
  revert hfixed hintime
  refine Run.traceInvariant (P := fun ts s => StepsMeet (FixedReplies ρ) ts →
    StepsMeet (MapsInTime mgmtDevice.hnodeIDCRC32Str) ts →
    TargetInv (Sys.init mgmtDevice caches).arbiter s.arbiter ∧
      ∀ id, DeviceInv ρ (Sys.init mgmtDevice caches).arbiter id ts s) ?_ ?_ hr
  · refine fun _ _ => ⟨⟨rfl, rfl, ?_⟩, fun id => ?_⟩ <;>
    · intro device hget
      simp [Sys.init] at hget
  · intro us u l v es hr ih hstep hfixed hintime
    rw [stepsMeet_snoc] at hfixed hintime
    obtain ⟨htarget, hinv⟩ := ih hfixed.1 hintime.1
    refine ⟨targetInv_step htarget hintime.2.ownKept hstep, fun id => ?_⟩
    exact deviceInv_step (defaultsOwn_init mgmtDevice caches) hr htarget hfixed.2 hintime.2 hstep
      (hinv id)

/-! ## §5. Two runs. -/

/-- What a run leaves a device with that is past its mapping update. -/
theorem told_run {mgmtDevice : HNodeDevice} {caches : Platform.Caches} {s : Sys}
    (hr : Run system (Sys.init mgmtDevice caches) ts s) (hfixed : StepsMeet (FixedReplies ρ) ts)
    (hintime : StepsMeet (MapsInTime mgmtDevice.hnodeIDCRC32Str) ts)
    (hsettled : Settled mgmtDevice.hnodeIDCRC32Str s)
    (hget : s.arbiter.deviceMap[id]? = some device) (t : Str) :
    (t ∈ device.srvMapDesired ↔ id ≠ mgmtDevice.hnodeIDCRC32Str ∧ t ∈ desiredTypes ρ id) ∧
      mappingTarget s.arbiter t = ownTarget (Sys.init mgmtDevice caches).arbiter t ∧
      (t ∈ device.srvMapDesired →
        lastMapped id t ts = some (ownTarget (Sys.init mgmtDevice caches).arbiter t)) := by
  obtain ⟨htarget, hinv⟩ := deviceInv_run hr hfixed hintime
  have hdefaults := defaultsOwn_init mgmtDevice caches
  have hfacts := hinv id device hget
  have hown := mappingTarget_eq hdefaults htarget fun ref href => by
    rw [htarget.defaults] at href
    rw [hdefaults t ref href]
    exact hsettled.ownKnown
  by_cases heq : id = mgmtDevice.hnodeIDCRC32Str
  · -- the manager's record desires nothing
    have hnone := hfacts.own heq t
    exact ⟨iff_of_false hnone fun h => h.1 heq, hown, fun ht => absurd ht hnone⟩
  · have hpast : ∀ {st : MgmtState}, pastMapping st = true →
        StateFacts ρ (Sys.init mgmtDevice caches).arbiter id ts device st →
        Desires ρ id device ∧ Told (Sys.init mgmtDevice caches).arbiter id ts device := by
      intro st hst h
      cases st with
      | active | updateHealth | updateStrref => exact h
      | _ => cases hst
    obtain ⟨hdes, htold⟩ := hpast (hsettled.others id device hget heq) hfacts.state
    exact ⟨(hdes t).trans ⟨fun h => ⟨heq, h⟩, And.right⟩, hown, htold t⟩

/-- **Mappings do not depend on the order of discovery**, in the runs whose mapping
updates come in time.  Two runs of the same manager, in which the same records
are announced and the requests have the same outcomes, and which have settled,
know the same records; a record desires the same services in both; and the URI
last pushed to the device for each, or found correct, is the same in both: the
default provider's URI, in either state. -/
theorem mappings_order_independent (ρ : Str → RestOp → RestOutcome) (mgmtDevice : HNodeDevice)
    (caches : Platform.Caches) (ts₁ ts₂ : List (Trans Sys Label Event)) (s₁ s₂ : Sys)
    (hr₁ : Run system (Sys.init mgmtDevice caches) ts₁ s₁)
    (hr₂ : Run system (Sys.init mgmtDevice caches) ts₂ s₂)
    (hfixed₁ : StepsMeet (FixedReplies ρ) ts₁) (hfixed₂ : StepsMeet (FixedReplies ρ) ts₂)
    (hsame : ∀ event, event ∈ discoveries ts₁ ↔ event ∈ discoveries ts₂)
    (hsettled₁ : Settled mgmtDevice.hnodeIDCRC32Str s₁)
    (hsettled₂ : Settled mgmtDevice.hnodeIDCRC32Str s₂)
    (hintime₁ : StepsMeet (MapsInTime mgmtDevice.hnodeIDCRC32Str) ts₁)
    (hintime₂ : StepsMeet (MapsInTime mgmtDevice.hnodeIDCRC32Str) ts₂)
    (id : Str) (device₁ : HNMDARecord) (hget₁ : s₁.arbiter.deviceMap[id]? = some device₁) :
    ∃ device₂, s₂.arbiter.deviceMap[id]? = some device₂ ∧
      ∀ t, (t ∈ device₁.srvMapDesired ↔ t ∈ device₂.srvMapDesired) ∧
        (t ∈ device₁.srvMapDesired →
          lastMapped id t ts₁ = some (mappingTarget s₁.arbiter t) ∧
          lastMapped id t ts₂ = some (mappingTarget s₂.arbiter t) ∧
          mappingTarget s₁.arbiter t = mappingTarget s₂.arbiter t) := by
  have hknown₂ : s₂.arbiter.deviceMap[id]? ≠ none := by
    have hknown₁ : s₁.arbiter.deviceMap[id]? ≠ none := hget₁ ▸ Option.some_ne_none _
    obtain ⟨event, hmem, hid⟩ := (known_iff_found hr₁).mp hknown₁
    exact (known_iff_found hr₂).mpr ⟨event, (hsame event).mp hmem, hid⟩
  obtain ⟨device₂, hget₂⟩ := Option.ne_none_iff_exists'.mp hknown₂
  refine ⟨device₂, hget₂, fun t => ?_⟩
  obtain ⟨hdes₁, htarget₁, htold₁⟩ := told_run hr₁ hfixed₁ hintime₁ hsettled₁ hget₁ t
  obtain ⟨hdes₂, htarget₂, htold₂⟩ := told_run hr₂ hfixed₂ hintime₂ hsettled₂ hget₂ t
  refine ⟨hdes₁.trans hdes₂.symm, fun ht => ?_⟩
  rw [htarget₁, htarget₂]
  exact ⟨htold₁ ht, htold₂ (hdes₂.mpr (hdes₁.mp ht)), rfl⟩

/-! ## §6. The conditions on a run, decided. -/

def fixedRepliesCheck (ρ : Str → RestOp → RestOutcome) (u : Sys) : Label → Bool
  | .reply o =>
    match u.monitor with
    | .waiting id _ op => o == ρ id op
    | _ => true
  | _ => true

theorem fixedReplies_of_check (h : fixedRepliesCheck ρ u l = true) : FixedReplies ρ u l := by
  cases l with
  | reply o =>
    intro id st op hat
    simp only [fixedRepliesCheck, hat] at h
    exact beq_iff_eq.mp h
  | _ => trivial

/-- `MapsInTime`, where a reply that raises is taken to have added something. -/
def mapsInTimeCheck (own : Str) (u : Sys) : Label → Bool
  | .act =>
    match u.monitor with
    | .acting id .srvMapUpdate =>
      (u.arbiter.deviceMap[id]?).all fun device =>
        device.srvMapDesired.keys.all fun t =>
          (u.arbiter.defaultMappings[t]?).all fun ref =>
            (u.arbiter.deviceMap[ref.devCRC32ID]?).isSome
    | _ => true
  | .reply o =>
    match u.monitor with
    | .waiting id _ .updateDeviceServicesMappingInfo =>
      (u.arbiter.deviceMap[id]?).all fun device =>
        match o.receive with
        | .ok body => (applyServicesReply device.srvMapDesired body).2.isSome
        | _ => true
    | .waiting id _ .updateDeviceServicesProvideInfo => id != own
    | _ => true
  | _ => true

theorem mapsInTime_of_check {own : Str} (h : mapsInTimeCheck own u l = true) :
    MapsInTime own u l := by
  refine ⟨?_, ?_, ?_⟩
  · rintro id device rfl hat hget t ht ref href hnone
    simp only [mapsInTimeCheck, hat, hget, Option.all_some, List.all_eq_true] at h
    have hknown := h t (Std.ExtTreeMap.mem_keys.mpr ht)
    rw [href, Option.all_some, hnone] at hknown
    cases hknown
  · rintro id device o st body rfl hat hget hok hadds
    simp only [mapsInTimeCheck, hat, hget, Option.all_some, hok] at h
    rw [applyServicesReply_of_raisesAfterAdding hadds] at h
    cases h
  · rintro o st rfl hat
    simp only [mapsInTimeCheck, hat, bne_self_eq_false] at h
    cases h

def settledCheck (own : Str) (s : Sys) : Bool :=
  (s.arbiter.deviceMap[own]?).isSome &&
    s.arbiter.deviceMap.toList.all fun it => it.1 == own || pastMapping it.2.mgmtState

theorem settled_of_check {own : Str} {s : Sys} (h : settledCheck own s = true) :
    Settled own s := by
  obtain ⟨hown, hall⟩ := Bool.and_eq_true_iff.mp h
  refine ⟨fun hnone => ?_, fun id device hget hne => ?_⟩
  · rw [hnone] at hown
    cases hown
  · have hmem := Std.ExtTreeMap.mem_toList_iff_getElem?_eq_some.mpr hget
    rcases Bool.or_eq_true_iff.mp (List.all_eq_true.mp hall _ hmem) with heq | hpast
    · exact absurd (beq_iff_eq.mp heq) hne
    · exact hpast

end DiscoveryOrder

/-! ## §7. A manager that is found before, between and after. -/

section Sample

open RefPlatform

/-- The device is the manager's, and maps its health reports elsewhere. -/
def sinkElsewhere (_ : Str) : RestOp → RestOutcome
  | .updateDeviceOwnerInfo => okReply ownedByManager
  | .updateDeviceServicesProvideInfo => okReply (.array [])
  | .updateDeviceServicesMappingInfo =>
    okReply (servicesReply (fun _ => lit "http://192.168.1.9/sink") [lit "hnsrv-health-sink"])
  | _ => okReply (.object [])

/-- The helpers on the way to ACTIVE, one a pass. -/
def toActive : List RestOp :=
  [.updateDeviceOperationalInfo, .updateDeviceOwnerInfo, .updateDeviceServicesProvideInfo,
    .updateDeviceServicesMappingInfo, .executeDeviceServicesUpdateMapping]

/-- A pass in which the device has its turn, after the manager's if that is known. -/
def passWith (ownTurn : List Label) (op : RestOp) : List Label :=
  .wakeup :: ownTurn ++ [.readState, .act, .reply (sinkElsewhere [] op), .writeState]

/-- The device is found first, the manager when `k` of the helpers are through. -/
def managerFoundAfter (k : Nat) : List Label :=
  [.notifyDiscoverAdd sampleDeviceFound, .wakeup, .readState, .act, .writeState] ++
    (toActive.take k).flatMap (passWith []) ++
    .notifyDiscoverAdd sampleManagerFound ::
      (toActive.drop k).flatMap (passWith [.readState, .act, .writeState])

/-- That run, over the fixed replies: it settles, and leaves the device, which
desires the sink, mapped to this URI. -/
structure LeavesMapped (k : Nat) (uri : Str) (ts : List (Trans Sys Label Event)) (s : Sys) :
    Prop where
  run : Run system (Sys.init sampleManager ()) ts s
  labels : ts.map Trans.label = managerFoundAfter k
  fixed : StepsMeet (FixedReplies sinkElsewhere) ts
  settled : Settled sampleManager.hnodeIDCRC32Str s
  desires : ∃ device, s.arbiter.deviceMap[lit "4900fb4e"]? = some device ∧
    lit "hnsrv-health-sink" ∈ device.srvMapDesired
  mapped : lastMapped (lit "4900fb4e") (lit "hnsrv-health-sink") ts = some uri

def leavesMappedCheck (k : Nat) (uri : Str) (r : List (Trans Sys Label Event) × Sys) : Bool :=
  r.1.map Trans.label == managerFoundAfter k &&
    (r.1.all (fun t => fixedRepliesCheck sinkElsewhere t.pre t.label) &&
    (settledCheck sampleManager.hnodeIDCRC32Str r.2 &&
    ((r.2.arbiter.deviceMap[lit "4900fb4e"]?).any
      (fun device => device.srvMapDesired.contains (lit "hnsrv-health-sink")) &&
    lastMapped (lit "4900fb4e") (lit "hnsrv-health-sink") r.1 == some uri)))

theorem leavesMapped_of_check {k : Nat} {uri : Str} {ts : List (Trans Sys Label Event)} {s : Sys}
    (hr : Run system (Sys.init sampleManager ()) ts s)
    (h : leavesMappedCheck k uri (ts, s) = true) : LeavesMapped k uri ts s := by
  obtain ⟨hlabels, h⟩ := Bool.and_eq_true_iff.mp h
  obtain ⟨hfixed, h⟩ := Bool.and_eq_true_iff.mp h
  obtain ⟨hsettled, h⟩ := Bool.and_eq_true_iff.mp h
  obtain ⟨hdesires, hmapped⟩ := Bool.and_eq_true_iff.mp h
  obtain ⟨device, hget, hmem⟩ := (Option.any_eq_true _ _).mp hdesires
  exact ⟨hr, beq_iff_eq.mp hlabels,
    fun t ht => fixedReplies_of_check (List.all_eq_true.mp hfixed t ht),
    settled_of_check hsettled, ⟨device, hget, Std.ExtTreeMap.contains_iff_mem.mp hmem⟩,
    beq_iff_eq.mp hmapped⟩

/-- Such a run finds the device and the manager, whenever that is. -/
theorem LeavesMapped.found {k : Nat} {uri : Str} {ts : List (Trans Sys Label Event)} {s : Sys}
    (h : LeavesMapped k uri ts s) (event : DiscoverEvent) :
    event ∈ discoveries ts ↔ .notifyDiscoverAdd event ∈ managerFoundAfter k := by
  rw [← h.labels]
  unfold discoveries
  rw [List.mem_filterMap, List.mem_map]
  refine exists_congr fun t => and_congr_right fun _ => ?_
  cases t.label <;> simp [discoveredBy]

/-- Found before the mapping update, the manager is what the device is mapped to. -/
theorem found_in_time {k : Nat} (hk : k = 0 ∨ k = 2) :
    ∃ ts s, LeavesMapped k (lit "http://192.168.1.2/hnode2/mgmt/health-sink") ts s ∧
      StepsMeet (MapsInTime sampleManager.hnodeIDCRC32Str) ts := by
  obtain ⟨ts, s, hr, hp⟩ := Machine.exists_run_of_exec (M := system)
    (s := Sys.init sampleManager ()) (l := managerFoundAfter k)
    (p := fun r => leavesMappedCheck k (lit "http://192.168.1.2/hnode2/mgmt/health-sink") r &&
      r.1.all fun t => mapsInTimeCheck sampleManager.hnodeIDCRC32Str t.pre t.label)
    (by rcases hk with rfl | rfl <;> decide +kernel)
  obtain ⟨hleaves, hall⟩ := Bool.and_eq_true_iff.mp hp
  exact ⟨ts, s, leavesMapped_of_check hr hleaves,
    fun t ht => mapsInTime_of_check (List.all_eq_true.mp hall t ht)⟩

/-- Whenever the manager is found, the announcements are the same. -/
theorem managerFoundAfter_found (k : Nat) (event : DiscoverEvent) :
    .notifyDiscoverAdd event ∈ managerFoundAfter k ↔
      event = sampleDeviceFound ∨ event = sampleManagerFound := by
  have hpass : ∀ (ownTurn : List Label) (ops : List RestOp),
      .notifyDiscoverAdd event ∉ ownTurn →
      .notifyDiscoverAdd event ∉ ops.flatMap (passWith ownTurn) := by
    intro ownTurn ops hown hmem
    obtain ⟨op, -, hin⟩ := List.mem_flatMap.mp hmem
    simp [passWith, hown] at hin
  have hbefore := hpass [] (toActive.take k) (by simp)
  have hafter := hpass [.readState, .act, .writeState] (toActive.drop k) (by simp)
  simp [managerFoundAfter, hbefore, hafter]

/-- Found at once or on the way, the manager is what the device is mapped to in both
runs, and its URI the same. -/
theorem mappings_order_independent_sample :
    ∃ ts₁ s₁ ts₂ s₂,
      LeavesMapped 0 (lit "http://192.168.1.2/hnode2/mgmt/health-sink") ts₁ s₁ ∧
      LeavesMapped 2 (lit "http://192.168.1.2/hnode2/mgmt/health-sink") ts₂ s₂ ∧
      mappingTarget s₁.arbiter (lit "hnsrv-health-sink") =
        mappingTarget s₂.arbiter (lit "hnsrv-health-sink") := by
  obtain ⟨ts₁, s₁, h₁, hintime₁⟩ := found_in_time (.inl rfl)
  obtain ⟨ts₂, s₂, h₂, hintime₂⟩ := found_in_time (.inr rfl)
  have hsame : ∀ event, event ∈ discoveries ts₁ ↔ event ∈ discoveries ts₂ := by
    intro event
    rw [h₁.found, h₂.found, managerFoundAfter_found, managerFoundAfter_found]
  obtain ⟨device₁, hget₁, hdes₁⟩ := h₁.desires
  obtain ⟨device₂, hget₂, hall⟩ := mappings_order_independent sinkElsewhere sampleManager () ts₁ ts₂
    s₁ s₂ h₁.run h₂.run h₁.fixed h₂.fixed hsame h₁.settled h₂.settled hintime₁ hintime₂
    (lit "4900fb4e") device₁ hget₁
  exact ⟨ts₁, s₁, ts₂, s₂, h₁, h₂, ((hall (lit "hnsrv-health-sink")).2 hdes₁).2.2⟩

/-- **A manager that is found too late**: the two runs differ in nothing but when it
is found.  In one the device is mapped to it, in the other to nothing, and that
is where it stays. -/
theorem mapped_too_early :
    ∃ ts₁ s₁ ts₂ s₂,
      LeavesMapped 0 (lit "http://192.168.1.2/hnode2/mgmt/health-sink") ts₁ s₁ ∧
      LeavesMapped 5 [] ts₂ s₂ ∧
      (∀ event, event ∈ discoveries ts₁ ↔ event ∈ discoveries ts₂) ∧
      mappingTarget s₂.arbiter (lit "hnsrv-health-sink") =
        lit "http://192.168.1.2/hnode2/mgmt/health-sink" := by
  obtain ⟨ts₁, s₁, h₁, -⟩ := found_in_time (.inl rfl)
  obtain ⟨ts₂, s₂, hr₂, hp⟩ := Machine.exists_run_of_exec (M := system)
    (s := Sys.init sampleManager ()) (l := managerFoundAfter 5)
    (p := fun r => leavesMappedCheck 5 [] r &&
      mappingTarget r.2.arbiter (lit "hnsrv-health-sink") ==
        lit "http://192.168.1.2/hnode2/mgmt/health-sink") (by decide +kernel)
  obtain ⟨hleaves, htarget⟩ := Bool.and_eq_true_iff.mp hp
  have h₂ := leavesMapped_of_check hr₂ hleaves
  refine ⟨ts₁, s₁, ts₂, s₂, h₁, h₂, fun event => ?_, beq_iff_eq.mp htarget⟩
  rw [h₁.found, h₂.found, managerFoundAfter_found, managerFoundAfter_found]

end Sample

end HNodeMgmt.Arbiter
