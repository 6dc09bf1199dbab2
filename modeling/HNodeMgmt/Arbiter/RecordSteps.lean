/-
  HNodeMgmt.Arbiter.RecordSteps — what a step does to one record.

  `Took` says what a step does to the system.  Seen from one key of the device
  map, most of that is elsewhere: another record is written, or the monitor is
  at another device.  What is left are the calls made for this key and the
  steps of its case, each with the record before and after.

  Main results:
    * `recordTook_of_took` — every step, seen from a key.
    * `RecordTook.stateChange` — a known record stays known, and three calls
      write its management state.
-/
import Mathlib.Tactic.Common
import HNodeMgmt.Arbiter.Commands

namespace HNodeMgmt.Arbiter

open Lib

section RecordSteps

variable [Platform]

/-! ## §1. The steps, from a key. -/

/-- Where the monitor goes when the record under `key` is not written. -/
inductive MovedAway (s s' : Sys) (key : Str) : Prop
  | stays (heq : s'.monitor = s.monitor)
  | ends (hdead : s'.monitor = .dead)
  | goesOn (halive : s.monitor ≠ .dead) (hfree : workingOn key s.monitor = false)
      (hfree' : workingOn key s'.monitor = false)

theorem MovedAway.free {s s' : Sys} {key : Str} (h : MovedAway s s' key) :
    s'.monitor = s.monitor ∨ workingOn key s'.monitor = false := by
  cases h with
  | stays heq => exact .inl heq
  | ends hdead => exact .inr (hdead ▸ rfl)
  | goesOn halive hfree hfree' => exact .inr hfree'

/-- What a step does to the record under `key`. -/
inductive RecordTook (s : Sys) (key : Str) : Label → Sys → List Event → Prop
  /-- Nothing is done to it: the step is elsewhere, or an exception ends the
  record's case. -/
  | away {l : Label} {s' : Sys} {es : List Event}
      (same : s'.arbiter.deviceMap[key]? = s.arbiter.deviceMap[key]?)
      (moved : MovedAway s s' key) (quiet : ∀ req, Event.request key req ∉ es) :
      RecordTook s key l s' es
  | appeared {event : DiscoverEvent} {s' : Sys} (hid : event.toRecord.getCRC32IDStr = key)
      (hnone : s.arbiter.deviceMap[key]? = none)
      (after : s'.arbiter.deviceMap[key]? = some (discovered s.arbiter event.toRecord))
      (stays : s'.monitor = s.monitor) : RecordTook s key (.notifyDiscoverAdd event) s' []
  | announced {event : DiscoverEvent} {s' : Sys} {device : HNMDARecord}
      (hid : event.toRecord.getCRC32IDStr = key) (hget : s.arbiter.deviceMap[key]? = some device)
      (after : s'.arbiter.deviceMap[key]? = some (device.updateRecord event.toRecord))
      (stays : s'.monitor = s.monitor) : RecordTook s key (.notifyDiscoverAdd event) s' []
  | removed {event : DiscoverEvent} {s' : Sys} {device : HNMDARecord}
      (hid : event.toRecord.getCRC32IDStr = key) (hget : s.arbiter.deviceMap[key]? = some device)
      (after : s'.arbiter.deviceMap[key]? = some (device.setManagementState .disappearing))
      (stays : s'.monitor = s.monitor) : RecordTook s key (.notifyDiscoverRemove event) s' []
  | cmdSet {body : Body} {s' : Sys} {device : HNMDARecord}
      (hget : s.arbiter.deviceMap[key]? = some device)
      (after : s'.arbiter.deviceMap[key]? = some (device.setMgmtCmdFromJSON body).1)
      (stays : s'.monitor = s.monitor) : RecordTook s key (.setDeviceMgmtCmdFromJSON key body) s' []
  | cmdStarted {s' : Sys} {device : HNMDARecord} (hget : s.arbiter.deviceMap[key]? = some device)
      (after : s'.arbiter.deviceMap[key]? = some (device.setManagementState .execCmd))
      (stays : s'.monitor = s.monitor) : RecordTook s key (.startDeviceMgmtCmd key) s' []
  | read {s' : Sys} {device : HNMDARecord} (hphase : s.monitor = .atDevice key)
      (hget : s.arbiter.deviceMap[key]? = some device) (hbusy : idleState device.mgmtState = false)
      (after : s'.arbiter.deviceMap[key]? = some device)
      (goes : s'.monitor = .acting key device.mgmtState) : RecordTook s key .readState s' []
  | alone {s' : Sys} {st : MgmtState} {device : HNMDARecord} (hphase : s.monitor = .acting key st)
      (hget : s.arbiter.deviceMap[key]? = some device)
      (hop : caseOp st device.mgmtCmd.cmdType = none)
      (after : s'.arbiter.deviceMap[key]? = some (caseOwnership st device))
      (goes : s'.monitor =
        .writing key st (nextState s'.arbiter (caseOwnership st device) st .failure)) :
      RecordTook s key .act s' (passedEvent key st device)
  | finished {s' : Sys} {st : MgmtState} {device : HNMDARecord} {op : RestOp}
      {result : HNMDLResult} (hphase : s.monitor = .acting key st)
      (hget : s.arbiter.deviceMap[key]? = some device)
      (hop : caseOp st device.mgmtCmd.cmdType = some op)
      (hstart : (op.start s.arbiter device).2 = .finished result)
      (after : s'.arbiter.deviceMap[key]? = some (op.start s.arbiter device).1)
      (goes : s'.monitor =
        .writing key st (nextState s'.arbiter (op.start s.arbiter device).1 st result)) :
      RecordTook s key .act s' (passedEvent key st device)
  | requested {s' : Sys} {st : MgmtState} {device : HNMDARecord} {op : RestOp} {req : HttpRequest}
      (hphase : s.monitor = .acting key st) (hget : s.arbiter.deviceMap[key]? = some device)
      (hop : caseOp st device.mgmtCmd.cmdType = some op)
      (hstart : (op.start s.arbiter device).2 = .request req)
      (after : s'.arbiter.deviceMap[key]? = some (op.start s.arbiter device).1)
      (goes : s'.monitor = .waiting key st op) :
      RecordTook s key .act s' (passedEvent key st device ++ [.request key req])
  | raised {s' : Sys} {st : MgmtState} {device : HNMDARecord} {op : RestOp}
      (hphase : s.monitor = .acting key st) (hget : s.arbiter.deviceMap[key]? = some device)
      (hop : caseOp st device.mgmtCmd.cmdType = some op)
      (hstart : (op.start s.arbiter device).2 = .raised)
      (after : s'.arbiter.deviceMap[key]? = some (op.start s.arbiter device).1)
      (goes : s'.monitor = .dead) : RecordTook s key .act s' (passedEvent key st device)
  | replied {s' : Sys} {st : MgmtState} {device : HNMDARecord} {op : RestOp} {o : RestOutcome}
      {result : HNMDLResult} (hphase : s.monitor = .waiting key st op)
      (hget : s.arbiter.deviceMap[key]? = some device)
      (hfinish : op.finish s.arbiter key device o = some (s'.arbiter, result))
      (after : s'.arbiter.deviceMap[key]? = some (op.deviceGiven s.arbiter device o))
      (goes : s'.monitor =
        .writing key st (nextState s'.arbiter (op.deviceGiven s.arbiter device o) st result)) :
      RecordTook s key (.reply o) s' (replyEvents key device op o)
  | written {s' : Sys} {st : MgmtState} {next : MgmtState × Nat} {device : HNMDARecord}
      (hphase : s.monitor = .writing key st next) (hget : s.arbiter.deviceMap[key]? = some device)
      (after : s'.arbiter.deviceMap[key]? = some (device.setManagementState next.1))
      (goes : workingOn key s'.monitor = false) : RecordTook s key .writeState s' []

variable {s s' : Sys} {key : Str} {l : Label} {es : List Event}

/-- What holds of the record that is there holds of all that are. -/
theorem forall_record {a : HNManagedDeviceArbiter} {device : HNMDARecord}
    {P : HNMDARecord → Prop} (hget : a.deviceMap[key]? = some device) (h : P device) :
    ∀ d, a.deviceMap[key]? = some d → P d :=
  fun _ hd => Option.some.inj (hget.symm.trans hd) ▸ h

theorem workingOn_advance (key : Str) (a : HNManagedDeviceArbiter) (id : Str) :
    workingOn key (advance a id) = false := by
  rcases advance_cases a id with h | ⟨id', h⟩ <;> rw [h] <;> rfl

/-- Another record is written, by a step that sends nothing to this device. -/
private theorem RecordTook.elsewhere {id : Str} {device : HNMDARecord}
    (hstores : Stores s.arbiter s'.arbiter id device) (hne : id ≠ key)
    (moved : MovedAway s s' key) (quiet : ∀ req, Event.request key req ∉ es) :
    RecordTook s key l s' es :=
  .away (hstores.get_ne hne) moved quiet

/-- The monitor goes from one record that is not this one to the next. -/
private theorem MovedAway.onward {phase : MonitorPhase} (hphase : s.monitor = phase)
    (halive : (phase != .dead) = true) (hnot : workingOn key phase = false)
    (hnot' : workingOn key s'.monitor = false) : MovedAway s s' key :=
  .goesOn (hphase ▸ bne_iff_ne.mp halive) (hphase ▸ hnot) hnot'

/-- A call that finds no record changes none. -/
private theorem RecordTook.idle (s : Sys) (key : Str) (l : Label) : RecordTook s key l s [] :=
  .away rfl (.stays rfl) fun _ => List.not_mem_nil

private theorem recordTook_add (s : Sys) (event : DiscoverEvent) (key : Str) :
    RecordTook s key (.notifyDiscoverAdd event)
      { s with arbiter := s.arbiter.notifyDiscoverAdd event.toRecord } [] := by
  cases hget : s.arbiter.deviceMap[event.toRecord.getCRC32IDStr]? with
  | none =>
    have hstores := notifyDiscoverAdd_new hget
    by_cases heq : event.toRecord.getCRC32IDStr = key
    · exact .appeared heq (heq ▸ hget) (heq ▸ hstores.get) rfl
    · exact .elsewhere hstores heq (.stays rfl) fun _ => List.not_mem_nil
  | some known =>
    have hstores := notifyDiscoverAdd_known hget
    by_cases heq : event.toRecord.getCRC32IDStr = key
    · exact .announced heq (heq ▸ hget) (heq ▸ hstores.get) rfl
    · exact .elsewhere hstores heq (.stays rfl) fun _ => List.not_mem_nil

private theorem recordTook_remove (s : Sys) (event : DiscoverEvent) (key : Str) :
    RecordTook s key (.notifyDiscoverRemove event)
      { s with arbiter := s.arbiter.notifyDiscoverRemove event.toRecord } [] := by
  unfold HNManagedDeviceArbiter.notifyDiscoverRemove
  cases hget : s.arbiter.deviceMap[event.toRecord.getCRC32IDStr]? with
  | none => exact .idle s key _
  | some known =>
    have hstores := stores_setDevice s.arbiter event.toRecord.getCRC32IDStr
      (known.setManagementState .disappearing)
    by_cases heq : event.toRecord.getCRC32IDStr = key
    · exact .removed heq (heq ▸ hget) (heq ▸ hstores.get) rfl
    · exact .elsewhere hstores heq (.stays rfl) fun _ => List.not_mem_nil

private theorem recordTook_setCmd (s : Sys) (id : Str) (body : Body) (key : Str) :
    RecordTook s key (.setDeviceMgmtCmdFromJSON id body)
      { s with arbiter := (s.arbiter.setDeviceMgmtCmdFromJSON id body).1 } [] := by
  unfold HNManagedDeviceArbiter.setDeviceMgmtCmdFromJSON
  cases hget : s.arbiter.deviceMap[id]? with
  | none => exact .idle s key _
  | some device =>
    have hstores := stores_setDevice s.arbiter id (device.setMgmtCmdFromJSON body).1
    by_cases heq : id = key
    · subst heq
      exact .cmdSet hget hstores.get rfl
    · exact .elsewhere hstores heq (.stays rfl) fun _ => List.not_mem_nil

private theorem recordTook_startCmd (s : Sys) (id key : Str) :
    RecordTook s key (.startDeviceMgmtCmd id)
      { s with arbiter := (s.arbiter.startDeviceMgmtCmd id).1 } [] := by
  unfold HNManagedDeviceArbiter.startDeviceMgmtCmd
  cases hget : s.arbiter.deviceMap[id]? with
  | none => exact .idle s key _
  | some device =>
    have hstores := stores_setNextMonitorState s.arbiter id device .execCmd 0
    by_cases heq : id = key
    · subst heq
      exact .cmdStarted hget hstores.get rfl
    · exact .elsewhere hstores heq (.stays rfl) fun _ => List.not_mem_nil

/-- **Every step, seen from a key.** -/
theorem recordTook_of_took (htook : Took s l s' es) (key : Str) : RecordTook s key l s' es := by
  have hfree : ∀ {id : Str}, id ≠ key → (id == key) = false := fun hne => by simpa using hne
  -- in every case: the step is at this key, or it stores another record
  cases htook with
  | add event => exact recordTook_add s event key
  | remove event => exact recordTook_remove s event key
  | setCmd id body => exact recordTook_setCmd s id body key
  | startCmd id => exact recordTook_startCmd s id key
  | wakeup phase hphase hnext =>
    refine .away rfl (.onward hphase rfl rfl ?_) fun _ => List.not_mem_nil
    rcases hnext with rfl | ⟨id, rfl⟩ <;> rfl
  | skip id device hphase hget hidle =>
    exact .away rfl (.onward hphase rfl rfl (workingOn_advance key s.arbiter id))
      fun _ => List.not_mem_nil
  | read id device hphase hget hbusy =>
    by_cases heq : id = key
    · subst heq
      exact .read hphase hget hbusy hget rfl
    · exact .away rfl (.onward hphase rfl rfl (hfree heq)) fun _ => List.not_mem_nil
  | actAlone id st device hphase hget hop =>
    have hstores := stores_setDevice s.arbiter id (caseOwnership st device)
    by_cases heq : id = key
    · subst heq
      exact .alone hphase hget hop hstores.get rfl
    · exact .elsewhere hstores heq (.onward hphase rfl (hfree heq) (hfree heq))
        (request_not_mem_passedEvent id st device key)
  | actFinished id st device op result hphase hget hop hstart =>
    have hstores := stores_setDevice s.arbiter id (op.start s.arbiter device).1
    by_cases heq : id = key
    · subst heq
      exact .finished hphase hget hop hstart hstores.get rfl
    · exact .elsewhere hstores heq (.onward hphase rfl (hfree heq) (hfree heq))
        (request_not_mem_passedEvent id st device key)
  | actRequest id st device op req hphase hget hop hstart =>
    have hstores := stores_setDevice s.arbiter id (op.start s.arbiter device).1
    by_cases heq : id = key
    · subst heq
      exact .requested hphase hget hop hstart hstores.get rfl
    · -- the request goes to the device of the case
      refine .elsewhere hstores heq (.onward hphase rfl (hfree heq) (hfree heq))
        fun req' hmem => ?_
      rcases List.mem_append.mp hmem with hmem | hmem
      · exact request_not_mem_passedEvent id st device key req' hmem
      · exact heq (Event.request.inj (List.mem_singleton.mp hmem)).1.symm
  | actRaised id st device op hphase hget hop hstart =>
    have hstores := stores_setDevice s.arbiter id (op.start s.arbiter device).1
    by_cases heq : id = key
    · subst heq
      exact .raised hphase hget hop hstart hstores.get rfl
    · exact .elsewhere hstores heq (.ends rfl) (request_not_mem_passedEvent id st device key)
  | replyRaised id st op device o hphase hget hfinish =>
    -- an exception leaves every record as it is, and ends the monitor
    exact .away rfl (.ends rfl) (request_not_mem_replyEvents id device op o key)
  | replyDone id st op device o a' result hphase hget hfinish hstores =>
    by_cases heq : id = key
    · subst heq
      exact .replied hphase hget hfinish hstores.get rfl
    · exact .elsewhere hstores heq (.onward hphase rfl (hfree heq) (hfree heq))
        (request_not_mem_replyEvents id device op o key)
  | write id st next device hphase hget =>
    have hstores := stores_setNextMonitorState s.arbiter id device next.1 next.2
    have hfar := workingOn_advance key s.arbiter id
    by_cases heq : id = key
    · subst heq
      exact .written hphase hget hstores.get hfar
    · exact .elsewhere hstores heq (.onward hphase rfl (hfree heq) hfar) fun _ => List.not_mem_nil

/-- The manager and the default mappings are the same after a step. -/
theorem settings_of_took (htook : Took s l s' es) :
    s'.arbiter.mgmtDevice = s.arbiter.mgmtDevice ∧
      s'.arbiter.defaultMappings = s.arbiter.defaultMappings := by
  cases htook with
  | add event =>
    show (s.arbiter.notifyDiscoverAdd event.toRecord).mgmtDevice = _ ∧
      (s.arbiter.notifyDiscoverAdd event.toRecord).defaultMappings = _
    rw [notifyDiscoverAdd_rest]
    exact ⟨rfl, rfl⟩
  | remove event =>
    show (s.arbiter.notifyDiscoverRemove event.toRecord).mgmtDevice = _ ∧
      (s.arbiter.notifyDiscoverRemove event.toRecord).defaultMappings = _
    unfold HNManagedDeviceArbiter.notifyDiscoverRemove
    split <;> exact ⟨rfl, rfl⟩
  | setCmd id body =>
    show (s.arbiter.setDeviceMgmtCmdFromJSON id body).1.mgmtDevice = _ ∧
      (s.arbiter.setDeviceMgmtCmdFromJSON id body).1.defaultMappings = _
    unfold HNManagedDeviceArbiter.setDeviceMgmtCmdFromJSON
    split <;> exact ⟨rfl, rfl⟩
  | startCmd id =>
    show (s.arbiter.startDeviceMgmtCmd id).1.mgmtDevice = _ ∧
      (s.arbiter.startDeviceMgmtCmd id).1.defaultMappings = _
    unfold HNManagedDeviceArbiter.startDeviceMgmtCmd
    split <;> exact ⟨rfl, rfl⟩
  | replyDone id st op device o a' result hphase hget hfinish hstores =>
    exact (finish_stores hget hfinish).2
  | _ => exact ⟨rfl, rfl⟩

/-! ## §2. The management state. -/

/-- A helper's first half keeps the management state. -/
theorem start_mgmtState (a : HNManagedDeviceArbiter) (device : HNMDARecord) (op : RestOp) :
    (op.start a device).1.mgmtState = device.mgmtState := by
  obtain ⟨m, heq, -⟩ := start_device a device op
  rw [heq]

@[simp] theorem caseOwnership_mgmtState (st : MgmtState) (device : HNMDARecord) :
    (caseOwnership st device).mgmtState = device.mgmtState := by
  cases st <;> rfl

/-- Who writes a management state: a report that the device is gone, an
operator's command, and the monitor at the end of a case. -/
inductive StateChange (s : Sys) (key : Str) (old : MgmtState) : Label → MgmtState → Prop
  | kept {l : Label} : StateChange s key old l old
  | gone {event : DiscoverEvent} (hid : event.toRecord.getCRC32IDStr = key) :
      StateChange s key old (.notifyDiscoverRemove event) .disappearing
  | command : StateChange s key old (.startDeviceMgmtCmd key) .execCmd
  | written {st : MgmtState} {next : MgmtState × Nat} (hphase : s.monitor = .writing key st next) :
      StateChange s key old .writeState next.1

/-- **A known record stays known**, and three calls write its state. -/
theorem RecordTook.stateChange (h : RecordTook s key l s' es) {device : HNMDARecord}
    (hget : s.arbiter.deviceMap[key]? = some device) :
    ∃ device', s'.arbiter.deviceMap[key]? = some device' ∧
      StateChange s key device.mgmtState l device'.mgmtState := by
  have hsame : ∀ d, s.arbiter.deviceMap[key]? = some d → d = device := fun d hd =>
    Option.some.inj (hd.symm.trans hget)
  cases h with
  | away same moved quiet => exact ⟨device, same.trans hget, .kept⟩
  | appeared hid hnone after stays => cases hnone.symm.trans hget
  | announced hid hd after stays =>
    rw [hsame _ hd, updateRecord_frame] at after
    exact ⟨_, after, .kept⟩
  | removed hid hd after stays => exact ⟨_, after, .gone hid⟩
  | cmdSet hd after stays =>
    rw [hsame _ hd] at after
    exact ⟨_, after, .kept⟩
  | cmdStarted hd after stays => exact ⟨_, after, .command⟩
  | read hphase hd hbusy after goes =>
    rw [hsame _ hd] at after
    exact ⟨_, after, .kept⟩
  | alone hphase hd hop after goes =>
    rw [hsame _ hd] at after
    refine ⟨_, after, ?_⟩
    rw [caseOwnership_mgmtState]
    exact .kept
  | finished hphase hd hop hstart after goes | requested hphase hd hop hstart after goes
  | raised hphase hd hop hstart after goes =>
    rw [hsame _ hd] at after
    refine ⟨_, after, ?_⟩
    rw [start_mgmtState]
    exact .kept
  | replied hphase hd hfinish after goes =>
    rw [hsame _ hd] at after
    refine ⟨_, after, ?_⟩
    rw [(deviceGiven_frame _ device _ _).mgmtState]
    exact .kept
  | written hphase hd after goes => exact ⟨_, after, .written hphase⟩

/-- The monitor works on known records. -/
theorem RecordTook.known (h : RecordTook s key l s' es)
    (hknown : workingOn key s.monitor = true → s.arbiter.deviceMap[key]? ≠ none) :
    workingOn key s'.monitor = true → s'.arbiter.deviceMap[key]? ≠ none := by
  intro hw
  have hsome : ∀ {device : HNMDARecord}, s'.arbiter.deviceMap[key]? = some device →
      s'.arbiter.deviceMap[key]? ≠ none := fun hget => hget ▸ Option.some_ne_none _
  cases h with
  | away same moved quiet =>
    rcases moved.free with heq | hfree
    · rw [heq] at hw
      rw [same]
      exact hknown hw
    · rw [hfree] at hw
      cases hw
  | appeared hid hnone after stays => exact hsome after
  | announced hid hget after stays | removed hid hget after stays => exact hsome after
  | cmdSet hget after stays | cmdStarted hget after stays => exact hsome after
  | read hphase hget hbusy after goes | alone hphase hget hbusy after goes => exact hsome after
  | finished hphase hget hop hstart after goes | requested hphase hget hop hstart after goes
  | raised hphase hget hop hstart after goes => exact hsome after
  | replied hphase hget hfinish after goes => exact hsome after
  | written hphase hget after goes => exact hsome after

theorem known_run {mgmtDevice : HNodeDevice} {caches : Platform.Caches}
    {ts : List (Trans Sys Label Event)} (hr : Run system (Sys.init mgmtDevice caches) ts s) :
    workingOn key s.monitor = true → s.arbiter.deviceMap[key]? ≠ none := by
  refine Run.invariant
    (P := fun s => workingOn key s.monitor = true → s.arbiter.deviceMap[key]? ≠ none) ?_ ?_ hr
  · exact fun hw => absurd hw Bool.false_ne_true
  · intro u l v es hknown hstep
    exact (recordTook_of_took (took_of_step hstep) key).known hknown

end RecordSteps

end HNodeMgmt.Arbiter
