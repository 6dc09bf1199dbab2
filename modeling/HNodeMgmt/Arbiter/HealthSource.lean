/-
  HNodeMgmt.Arbiter.HealthSource — who is polled for its health.

  The decision to poll a device is made in SRV_MAP_UPDATE, from the provider
  index; the poll itself reads the device's record.  In between lie the write
  of the state, calls of the main thread and, while the device is polled, a
  round of states that never leads through SRV_PROVIDE_INFO, the one place
  where a provided service is taken away.

  Main results:
    * `healthInv_step` — one step keeps polling to health sources.
    * `polled_provides_health` — in every reachable state a device that is
      polled has the endpoint the poll looks up.
-/
import Mathlib.Tactic.Common
import HNodeMgmt.Arbiter.RecordSteps
import HNodeMgmt.Arbiter.Indexes

namespace HNodeMgmt.Arbiter

open Lib

/-! ## §1. The invariant. -/

/-- The states whose cases poll the device. -/
def polled : MgmtState → Bool
  | .updateHealth | .updateStrref => true
  | _ => false

section HealthSource

variable [Platform]

/-- The record has the service that is polled. -/
def ProvidesHealth (device : HNMDARecord) : Prop :=
  lit "hnsrv-health-source" ∈ device.srvMapProvided

/-- The monitor has read `st` and is in its case.  What the main thread has set
since is not a state that polls. -/
structure CaseHealth (st : MgmtState) (device : HNMDARecord) : Prop where
  provides : polled st = true → ProvidesHealth device
  state : device.mgmtState = st ∨ polled device.mgmtState = false

/-- The same of wherever the monitor is. -/
def HealthPhase (key : Str) (device : HNMDARecord) : MonitorPhase → Prop
  | .acting id st => id = key → CaseHealth st device
  | .waiting id st op => id = key → CaseHealth st device ∧
      (op = .updateDeviceServicesProvideInfo → st = .srvProvideInfo)
  | .writing id _ next => id = key → polled next.1 = true → ProvidesHealth device
  | _ => True

structure HealthInv (key : Str) (u : Sys) : Prop where
  known : workingOn key u.monitor = true → u.arbiter.deviceMap[key]? ≠ none
  record : ∀ device, u.arbiter.deviceMap[key]? = some device →
    (polled device.mgmtState = true → ProvidesHealth device) ∧ HealthPhase key device u.monitor

variable {u v : Sys} {key : Str} {l : Label} {es : List Event} {device device' : HNMDARecord}

theorem ProvidesHealth.congr (h : ProvidesHealth device)
    (hprovided : device'.srvMapProvided = device.srvMapProvided) : ProvidesHealth device' := by
  unfold ProvidesHealth
  rw [hprovided]
  exact h

theorem healthPhase_of_free {monitor : MonitorPhase} (hfree : workingOn key monitor = false) :
    HealthPhase key device monitor := by
  cases monitor with
  | acting id st | waiting id st op | writing id st next =>
    intro heq
    simp [workingOn, heq] at hfree
  | idle | atDevice id | dead => trivial

/-- A record that differs in nothing the poll looks at, or is not polled now. -/
theorem HealthPhase.congr {monitor : MonitorPhase} (h : HealthPhase key device monitor)
    (hprovided : device'.srvMapProvided = device.srvMapProvided)
    (hstate : device'.mgmtState = device.mgmtState ∨ polled device'.mgmtState = false) :
    HealthPhase key device' monitor := by
  have hcase : ∀ {st}, CaseHealth st device → CaseHealth st device' := fun hc =>
    ⟨fun hp => (hc.provides hp).congr hprovided,
      hstate.elim (fun heq => heq ▸ hc.state) fun hnot => .inr hnot⟩
  cases monitor with
  | acting id st => exact fun heq => hcase (h heq)
  | waiting id st op => exact fun heq => ⟨hcase (h heq).1, (h heq).2⟩
  | writing id st next => exact fun heq hp => (h heq hp).congr hprovided
  | idle | atDevice id | dead => trivial

/-- The next state polls only from a state that does, or on the word of the
provider index. -/
theorem polled_nextState {a : HNManagedDeviceArbiter} {st : MgmtState} {result : HNMDLResult}
    (h : polled (nextState a device st result).1 = true) :
    polled st = true ∨ (st = .srvMapUpdate ∧
      a.doesDeviceProvideService device.getCRC32IDStr (lit "hnsrv-health-source") = true) := by
  cases st with
  | updateHealth | updateStrref => exact Or.inl rfl
  | srvMapUpdate =>
    cases result with
    | failure => cases h
    | success =>
      simp only [nextState] at h
      split at h
      next hlisted => exact Or.inr ⟨rfl, hlisted⟩
      next => cases h
  | ownerInfo =>
    cases result with
    | failure => cases h
    | success =>
      simp only [nextState] at h
      split at h <;> cases h
  | _ => cases result <;> cases h

/-- The index vouches for the record. -/
theorem providesHealth_of_listed {a : HNManagedDeviceArbiter} (hindex : IndexInv a)
    (hget : a.deviceMap[key]? = some device)
    (hlisted : a.doesDeviceProvideService device.getCRC32IDStr (lit "hnsrv-health-source") =
      true) : ProvidesHealth device := by
  rw [(hindex.keys key device hget).1, doesDeviceProvideService_iff] at hlisted
  obtain ⟨d, hd, hmem⟩ := hindex.provided _ _ hlisted
  obtain rfl := Option.some.inj (hd.symm.trans hget)
  exact hmem

/-- The end of a case: what is about to be written polls only a health source. -/
theorem healthPhase_written {a : HNManagedDeviceArbiter} {st : MgmtState} {result : HNMDLResult}
    (hindex : IndexInv a) (hget : a.deviceMap[key]? = some device)
    (hcase : polled st = true → ProvidesHealth device) :
    HealthPhase key device (.writing key st (nextState a device st result)) := by
  intro _ hp
  rcases polled_nextState hp with hst | ⟨-, hlisted⟩
  · exact hcase hst
  · exact providesHealth_of_listed hindex hget hlisted

omit [Platform] in
theorem not_polled_of_caseOp_none {st : MgmtState} {cmdType : CmdType}
    (hop : caseOp st cmdType = none) : polled st = false := by
  cases st <;> first | rfl | cases hop

/-! ## §2. One step, and every run. -/

/-- A case without a helper: a polling case has one, so this is none. -/
private theorem health_alone {a : HNManagedDeviceArbiter} {st : MgmtState} (hindex : IndexInv a)
    (hop : caseOp st device.mgmtCmd.cmdType = none)
    (after : a.deviceMap[key]? = some (caseOwnership st device))
    (hrec : polled device.mgmtState = true → ProvidesHealth device) :
    (polled (caseOwnership st device).mgmtState = true →
        ProvidesHealth (caseOwnership st device)) ∧
      HealthPhase key (caseOwnership st device)
        (.writing key st (nextState a (caseOwnership st device) st .failure)) := by
  have hown : (caseOwnership st device).srvMapProvided = device.srvMapProvided := by
    cases st <;> rfl
  have hnot := not_polled_of_caseOp_none hop
  refine ⟨fun hp => (hrec (caseOwnership_mgmtState st device ▸ hp)).congr hown, ?_⟩
  refine healthPhase_written hindex after fun hp => ?_
  rw [hnot] at hp
  cases hp

/-- A reply: it may take the service away, from a record that is not polled. -/
private theorem health_replied {a a' : HNManagedDeviceArbiter} {st : MgmtState} {op : RestOp}
    {o : RestOutcome} (hindex : IndexInv a') (result : HNMDLResult)
    (after : a'.deviceMap[key]? = some (op.deviceGiven a device o))
    (hrec : polled device.mgmtState = true → ProvidesHealth device)
    (hphase : HealthPhase key device (.waiting key st op)) :
    (polled (op.deviceGiven a device o).mgmtState = true →
        ProvidesHealth (op.deviceGiven a device o)) ∧
      HealthPhase key (op.deviceGiven a device o)
        (.writing key st (nextState a' (op.deviceGiven a device o) st result)) := by
  obtain ⟨⟨hprovides, hstate⟩, hprovide⟩ := hphase rfl
  have hframe := deviceGiven_frame a device o op
  by_cases hop : op = .updateDeviceServicesProvideInfo
  · obtain rfl := hprovide hop
    have hnot : polled device.mgmtState = false := by
      rcases hstate with heq | hnot
      · rw [heq]
        rfl
      · exact hnot
    refine ⟨fun hp => ?_, healthPhase_written hindex after nofun⟩
    rw [hframe.mgmtState, hnot] at hp
    cases hp
  · have hprovided := hframe.provided hop
    exact ⟨fun hp => (hrec (hframe.mgmtState ▸ hp)).congr hprovided,
      healthPhase_written hindex after fun hp => (hprovides hp).congr hprovided⟩

/-- **One step** keeps polling to health sources. -/
theorem healthInv_step (hindex : IndexInv v.arbiter) (hinv : HealthInv key u)
    (htook : RecordTook u key l v es) : HealthInv key v := by
  refine ⟨htook.known hinv.known, ?_⟩
  cases htook with
  | away same moved quiet =>
    intro device hget
    obtain ⟨hrec, hphase⟩ := hinv.record device (same ▸ hget)
    rcases moved.free with heq | hfree
    · exact ⟨hrec, heq ▸ hphase⟩
    · exact ⟨hrec, healthPhase_of_free hfree⟩
  | appeared hid hnone after stays =>
    -- a new record is in SELF or DISCOVERED, and the monitor is not at it
    have hfree : workingOn key v.monitor = false := by
      rw [stays]
      exact Bool.eq_false_iff.mpr fun hw => hinv.known hw hnone
    refine forall_record after ⟨fun hp => ?_, healthPhase_of_free hfree⟩
    unfold discovered at hp
    split at hp <;> cases hp
  | @announced event _ device hid hget after stays =>
    -- an announcement merges addresses and names only
    obtain ⟨hrec, hphase⟩ := hinv.record device hget
    have hprovided := updateRecord_srvMapProvided device event.toRecord
    have hstate := updateRecord_mgmtState device event.toRecord
    exact forall_record after ⟨fun hp => (hrec (hstate ▸ hp)).congr hprovided,
      stays ▸ hphase.congr hprovided (.inl hstate)⟩
  | @removed event _ device hid hget after stays =>
    obtain ⟨-, hphase⟩ := hinv.record device hget
    exact forall_record after ⟨nofun, stays ▸ hphase.congr rfl (.inr rfl)⟩
  | @cmdSet body _ device hget after stays =>
    obtain ⟨hrec, hphase⟩ := hinv.record device hget
    exact forall_record after ⟨hrec, stays ▸ hphase.congr rfl (.inl rfl)⟩
  | @cmdStarted _ device hget after stays =>
    obtain ⟨-, hphase⟩ := hinv.record device hget
    exact forall_record after ⟨nofun, stays ▸ hphase.congr rfl (.inr rfl)⟩
  | @read _ device hat hget hbusy after goes =>
    obtain ⟨hrec, -⟩ := hinv.record device hget
    refine forall_record after ⟨hrec, ?_⟩
    rw [goes]
    exact fun _ => ⟨hrec, .inl rfl⟩
  | @alone _ st device hat hget hop after goes =>
    exact forall_record after (goes ▸ health_alone hindex hop after (hinv.record device hget).1)
  | @finished _ st device op result hat hget hop hstart after goes =>
    obtain ⟨hrec, hphase⟩ := hinv.record device hget
    rw [hat] at hphase
    obtain ⟨m, heq, -⟩ := start_device u.arbiter device op
    rw [heq] at after goes
    refine forall_record after ⟨hrec, ?_⟩
    rw [goes]
    exact healthPhase_written hindex after (hphase rfl).provides
  | @requested _ st device op req hat hget hop hstart after goes =>
    obtain ⟨hrec, hphase⟩ := hinv.record device hget
    rw [hat] at hphase
    obtain ⟨m, heq, -⟩ := start_device u.arbiter device op
    rw [heq] at after
    refine forall_record after ⟨hrec, ?_⟩
    rw [goes]
    exact fun _ => ⟨⟨(hphase rfl).provides, (hphase rfl).state⟩,
      fun hprovide => caseOp_provideInfo (hprovide ▸ hop)⟩
  | @raised _ st device op hat hget hop hstart after goes =>
    obtain ⟨hrec, -⟩ := hinv.record device hget
    obtain ⟨m, heq, -⟩ := start_device u.arbiter device op
    rw [heq] at after
    refine forall_record after ⟨hrec, ?_⟩
    rw [goes]
    trivial
  | @replied _ st device op o result hat hget hfinish after goes =>
    obtain ⟨hrec, hphase⟩ := hinv.record device hget
    rw [hat] at hphase
    exact forall_record after (goes ▸ health_replied hindex result after hrec hphase)
  | @written _ st next device hat hget after goes =>
    obtain ⟨-, hphase⟩ := hinv.record device hget
    rw [hat] at hphase
    exact forall_record after ⟨hphase rfl, healthPhase_of_free goes⟩

theorem healthInv_run (hstable : CRC32StrStable) {mgmtDevice : HNodeDevice}
    {caches : Platform.Caches} {ts : List (Trans Sys Label Event)} {s : Sys}
    (hr : Run system (Sys.init mgmtDevice caches) ts s) :
    IndexInv s.arbiter ∧ ∀ key, HealthInv key s := by
  refine Run.invariant (P := fun s => IndexInv s.arbiter ∧ ∀ key, HealthInv key s)
    ⟨indexInv_init mgmtDevice caches, fun key => ⟨nofun, fun device hget => ?_⟩⟩ ?_ hr
  · simp [Sys.init] at hget
  · intro u l v es hinv hstep
    have hindex := indexInv_step hstable hinv.1 hstep
    exact ⟨hindex, fun key => healthInv_step hindex (hinv.2 key)
      (recordTook_of_took (took_of_step hstep) key)⟩

/-- **Polling runs against a health source**: in every reachable state a record
in UPDATE_HEALTH or UPDATE_STRREF provides it, and where the monitor is about to
poll, its lookup finds an endpoint of that record. -/
theorem polled_provides_health (hstable : CRC32StrStable) (mgmtDevice : HNodeDevice)
    (caches : Platform.Caches) (ts : List (Trans Sys Label Event)) (s : Sys)
    (hr : Run system (Sys.init mgmtDevice caches) ts s) :
    (∀ (key : Str) (device : HNMDARecord), s.arbiter.deviceMap[key]? = some device →
      device.mgmtState = .updateHealth ∨ device.mgmtState = .updateStrref →
      lit "hnsrv-health-source" ∈ device.srvMapProvided) ∧
    ∀ (key : Str) (st : MgmtState), s.monitor = .acting key st →
      st = .updateHealth ∨ st = .updateStrref →
      ∃ device ep, s.arbiter.deviceMap[key]? = some device ∧
        device.srvMapProvided[lit "hnsrv-health-source"]? = some ep ∧
        device.getServiceProviderURI (lit "hnsrv-health-source") = ep.rootURI := by
  obtain ⟨-, hinv⟩ := healthInv_run hstable hr
  have hpolled : ∀ {st : MgmtState}, st = .updateHealth ∨ st = .updateStrref →
      polled st = true := by
    rintro st (rfl | rfl) <;> rfl
  refine ⟨fun key device hget hst => ((hinv key).record device hget).1 (hpolled hst),
    fun key st hat hst => ?_⟩
  obtain ⟨device, hget⟩ := Option.ne_none_iff_exists'.mp
    ((hinv key).known (by rw [hat]; exact beq_self_eq_true key))
  have hphase := ((hinv key).record device hget).2
  rw [hat] at hphase
  obtain ⟨ep, hep⟩ := (OrdMap.mem_iff_get _ _).mp ((hphase rfl).provides (hpolled hst))
  refine ⟨device, ep, hget, hep, ?_⟩
  unfold HNMDARecord.getServiceProviderURI
  rw [hep]

end HealthSource

/-! ## §3. A device that is polled. -/

section Sample

open RefPlatform

/-- The device provides the health source and desires nothing: the monitor goes
on to poll it. -/
def polledRun : List Label :=
  providedRun ++ [.writeState,
    .wakeup, .readState, .act, .reply (okReply (.array [])), .writeState,
    .wakeup, .readState, .act, .writeState,
    .wakeup, .readState]

/-- The monitor is about to poll the device, and its lookup finds an endpoint. -/
theorem polled_provides_health_sample :
    ∃ ts s, Run system (Sys.init sampleManager ()) ts s ∧
      s.monitor = .acting (lit "4900fb4e") .updateHealth ∧
      ∃ device ep, s.arbiter.deviceMap[lit "4900fb4e"]? = some device ∧
        device.srvMapProvided[lit "hnsrv-health-source"]? = some ep ∧
        device.getServiceProviderURI (lit "hnsrv-health-source") = ep.rootURI := by
  obtain ⟨ts, s, hr, hp⟩ := Machine.exists_run_of_exec (M := system)
    (s := Sys.init sampleManager ()) (l := polledRun)
    (p := fun r => r.2.monitor == .acting (lit "4900fb4e") .updateHealth) (by decide +kernel)
  have hat := beq_iff_eq.mp hp
  exact ⟨ts, s, hr, hat, (polled_provides_health crc32StrStable_ref sampleManager () ts s hr).2
    (lit "4900fb4e") .updateHealth hat (Or.inl rfl)⟩

end Sample

end HNodeMgmt.Arbiter
