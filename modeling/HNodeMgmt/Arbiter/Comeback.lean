/-
  HNodeMgmt.Arbiter.Comeback — a device that is announced again.

  The cases of OFFLINE and DISAPPEARING are empty, so only a write from outside
  of the switch leads out of them.  `notifyDiscoverAdd` sets DISCOVERED for an
  ID it does not know; for one it knows it brings the identity and the
  addresses up to date and leaves the management state ("Avahi notification
  that device is offline") as it is.

  Main results:
    * `parked_run` — from OFFLINE and DISAPPEARING no run without an operator's
      command leads to another request.
    * `comeback` — exactly when such a device is contacted again: when the
      monitor was in its case for the device at the time, and overwrites the
      state.
    * `announced_not_contacted` — a device that is announced again, and never
      contacted.
-/
import Mathlib.Tactic.Common
import HNodeMgmt.Arbiter.RecordSteps
import HNodeMgmt.Arbiter.Isolation

namespace HNodeMgmt.Arbiter

open Lib

/-! ## §1. States that contact the device. -/

/-- The case of the state contacts the device; that of EXEC_CMD does when a
command is set. -/
def callsDevice : MgmtState → Bool
  | .optInfo | .ownerInfo | .srvProvideInfo | .srvMappingInfo | .srvMapUpdate | .execCmd
  | .updateHealth | .updateStrref => true
  | _ => false

/-- The states a device is in when it cannot be reached, or is said to be gone. -/
def gone : MgmtState → Bool
  | .offline | .disappearing => true
  | _ => false

theorem callsDevice_of_caseOp {st : MgmtState} {cmdType : CmdType} {op : RestOp}
    (hop : caseOp st cmdType = some op) : callsDevice st = true := by
  cases st <;> first | rfl | cases hop

theorem idle_of_gone {st : MgmtState} (h : gone st = true) : idleState st = true := by
  cases st <;> first | rfl | cases h

theorem not_callsDevice_of_gone {st : MgmtState} (h : gone st = true) :
    callsDevice st = false := by
  cases st <;> first | rfl | cases h

section Comeback

variable [Platform]

/-- The monitor's next turn of the device contacts it. -/
def Attended (id : Str) (a : HNManagedDeviceArbiter) : Prop :=
  ∃ device, a.deviceMap[id]? = some device ∧ callsDevice device.mgmtState = true

/-- The monitor ends its case for the device with a state that contacts it. -/
def TakesBack (id : Str) (t : Trans Sys Label Event) : Prop :=
  t.label = .writeState ∧
    ∃ st next, t.pre.monitor = .writing id st next ∧ callsDevice next.1 = true

/-- The step is not an operator's command for the device. -/
def Uncommanded (id : Str) (_ : Sys) (l : Label) : Prop := l ≠ .startDeviceMgmtCmd id

variable {s s' u v : Sys} {id : Str} {l : Label} {es : List Event}
  {ts : List (Trans Sys Label Event)}

/-- A turn of a walk finds the record as the walk did. -/
theorem turns_device {o : Str → RestOutcome} {t : Turn} :
    ∀ {ids : List Str} {a : HNManagedDeviceArbiter}, Known ids a → ids.Nodup →
      t ∈ turns o ids a → a.deviceMap[t.crc32ID]? = some t.device
  | [], _, _, _, h => absurd h List.not_mem_nil
  | id :: ids, a, hknown, hnodup, h => by
      obtain ⟨device, hget⟩ := hknown.get
      obtain ⟨hnot, hnodup⟩ := List.nodup_cons.mp hnodup
      by_cases hdead : (visit (o id) a id).monitor = .dead
      · rw [turns_cons_dead hget hdead] at h
        rw [List.mem_singleton.mp h]
        exact hget
      · rw [turns_cons_live hget hdead] at h
        rcases List.mem_cons.mp h with rfl | htail
        · exact hget
        · have hne : id ≠ t.crc32ID := fun heq => hnot (heq ▸ (turns_mem htail).1)
          rw [← visit_other hget (o id) hne]
          exact turns_device (hknown.visit (o id)) hnodup htail

/-- A pass contacts the devices that are attended when it begins, and no other. -/
theorem attended_of_contacts {o : Str → RestOutcome} {a : HNManagedDeviceArbiter} {t : Turn}
    (ht : t ∈ passTurns o a) {op : RestOp} (hop : t.contacts = some op) :
    Attended t.crc32ID a := by
  have hknown : Known a.deviceMap.keys { a with monitorWaitTime := 10 } :=
    fun id hmem => Std.ExtTreeMap.mem_keys.mp hmem
  have hget := turns_device hknown a.deviceMap.nodup_keys ht
  refine ⟨t.device, hget, ?_⟩
  unfold Turn.contacts at hop
  cases hcase : caseOp t.device.mgmtState t.device.mgmtCmd.cmdType with
  | none =>
    rw [hcase] at hop
    cases hop
  | some op => exact callsDevice_of_caseOp hcase

/-! ## §2. Out of reach. -/

/-- The device is OFFLINE or DISAPPEARING, and the monitor is not in a case of
its. -/
structure Parked (id : Str) (s : Sys) : Prop where
  free : workingOn id s.monitor = false
  gone : ∃ device, s.arbiter.deviceMap[id]? = some device ∧ gone device.mgmtState = true

/-- A step other than the operator's leaves the device parked and sends it no
request. -/
theorem parked_step (hparked : Parked id u) (hcmd : Uncommanded id u l)
    (hstep : system.step u l = some (v, es)) :
    Parked id v ∧ ∀ req, Event.request id req ∉ es := by
  have htook := recordTook_of_took (took_of_step hstep) id
  obtain ⟨hfree, device, hget, hgone⟩ := hparked
  obtain ⟨device', hget', hchange⟩ := htook.stateChange hget
  have hgone' : gone device'.mgmtState = true := by
    generalize device'.mgmtState = st at hchange
    cases hchange with
    | kept => exact hgone
    | gone hid => rfl
    | command => exact absurd rfl hcmd
    | written hphase =>
      -- the monitor writes only where it works
      rw [hphase] at hfree
      simp [workingOn] at hfree
  cases htook with
  | away same moved quiet =>
    refine ⟨⟨?_, device', hget', hgone'⟩, quiet⟩
    rcases moved.free with heq | hfar
    · rw [heq]
      exact hfree
    · exact hfar
  | appeared hid hnone after stays | announced hid hd after stays | removed hid hd after stays
  | cmdSet hd after stays | cmdStarted hd after stays =>
    exact ⟨⟨stays ▸ hfree, device', hget', hgone'⟩, fun _ => List.not_mem_nil⟩
  | read hphase hd hbusy after goes =>
    -- the states of a parked device have no case to enter
    obtain rfl := Option.some.inj (hd.symm.trans hget)
    rw [idle_of_gone hgone] at hbusy
    cases hbusy
  | alone hphase hd hop after goes | finished hphase hd hop hstart after goes
  | requested hphase hd hop hstart after goes | raised hphase hd hop hstart after goes
  | replied hphase hd hfinish after goes | written hphase hd after goes =>
    rw [hphase] at hfree
    simp [workingOn] at hfree

/-- **Out of reach for good**: without an operator's command the device stays
parked and is never sent a request. -/
theorem parked_run (hparked : Parked id s) (hr : Run system s ts v)
    (hcmd : StepsMeet (Uncommanded id) ts) :
    Parked id v ∧ ∀ req, Event.request id req ∉ history ts := by
  refine Run.historyInvariant (C := Uncommanded id)
    (P := fun h u => Parked id u ∧ ∀ req, Event.request id req ∉ h)
    ⟨hparked, fun _ => List.not_mem_nil⟩ ?_ hr hcmd
  intro h u l v es hinv hne hstep
  obtain ⟨hparked', hquiet⟩ := parked_step hinv.1 hne hstep
  refine ⟨hparked', fun req hmem => ?_⟩
  rcases List.mem_append.mp hmem with hold | hnew
  · exact hinv.2 req hold
  · exact hquiet req hnew

/-! ## §3. What the event does. -/

/-- The event leaves a known device's management state and the monitor alone. -/
theorem add_known {event : DiscoverEvent} {device : HNMDARecord}
    (hget : s.arbiter.deviceMap[event.toRecord.getCRC32IDStr]? = some device)
    (hadd : system.step s (.notifyDiscoverAdd event) = some (s', es)) :
    s'.monitor = s.monitor ∧ ∃ device',
      s'.arbiter.deviceMap[event.toRecord.getCRC32IDStr]? = some device' ∧
        device'.mgmtState = device.mgmtState := by
  obtain ⟨rfl, -⟩ := Prod.mk.inj (Option.some.inj hadd)
  exact ⟨rfl, _, (notifyDiscoverAdd_known hget).get, updateRecord_mgmtState device _⟩

/-- Without an operator's command, a device comes to be attended only by what
the monitor writes. -/
theorem attended_only_by_write
    (hnot : ∃ device, s.arbiter.deviceMap[id]? = some device ∧
      callsDevice device.mgmtState = false)
    (hr : Run system s ts v) (hcmd : StepsMeet (Uncommanded id) ts)
    (hwrite : ∀ t ∈ ts, ¬ TakesBack id t) :
    (∀ t ∈ ts, ¬ Attended id t.post.arbiter) ∧
      ∃ device, v.arbiter.deviceMap[id]? = some device ∧
        callsDevice device.mgmtState = false := by
  revert hcmd hwrite
  refine Run.traceInvariant (P := fun ts v => StepsMeet (Uncommanded id) ts →
    (∀ t ∈ ts, ¬ TakesBack id t) → (∀ t ∈ ts, ¬ Attended id t.post.arbiter) ∧
      ∃ device, v.arbiter.deviceMap[id]? = some device ∧
        callsDevice device.mgmtState = false) ?_ ?_ hr
  · exact fun _ _ => ⟨fun _ h => absurd h List.not_mem_nil, hnot⟩
  · intro us u l v es _ ih hstep hcmd hwrite
    rw [stepsMeet_snoc] at hcmd
    rw [List.forall_mem_append, List.forall_mem_singleton] at hwrite
    obtain ⟨hbefore, device, hget, hcalls⟩ := ih hcmd.1 hwrite.1
    obtain ⟨device', hget', hchange⟩ :=
      (recordTook_of_took (took_of_step hstep) id).stateChange hget
    have hcalls' : callsDevice device'.mgmtState = false := by
      have hlast := hwrite.2
      generalize device'.mgmtState = st at hchange
      cases hchange with
      | kept => exact hcalls
      | gone hid => rfl
      | command => exact absurd rfl hcmd.2
      | written hphase =>
        exact Bool.eq_false_iff.mpr fun hc => hlast ⟨rfl, _, _, hphase, hc⟩
    refine ⟨?_, device', hget', hcalls'⟩
    rw [List.forall_mem_append, List.forall_mem_singleton]
    refine ⟨hbefore, ?_⟩
    rintro ⟨d, hd, hc⟩
    obtain rfl := Option.some.inj (hd.symm.trans hget')
    rw [hcalls'] at hc
    cases hc

/-- The write leaves the device attended. -/
theorem attended_of_takesBack (hr : Run system s ts v) {t : Trans Sys Label Event} (ht : t ∈ ts)
    (hback : TakesBack id t) : Attended id t.post.arbiter := by
  obtain ⟨ts₁, ts₂, rfl⟩ := List.append_of_mem ht
  obtain ⟨-, hstep⟩ := hr.split
  obtain ⟨hl, st, next, hphase, hc⟩ := hback
  rw [hl] at hstep
  have htook := took_of_step hstep
  generalize t.post = w at htook ⊢
  generalize t.evts = es at htook
  cases htook with
  | write id' st' next' device hphase' hget =>
    obtain ⟨rfl, rfl, rfl⟩ := MonitorPhase.writing.inj (hphase.symm.trans hphase')
    exact ⟨_, (stores_setNextMonitorState t.pre.arbiter id device next.1 next.2).get, hc⟩

/-- What a second announcement comes to, along a run that follows it. -/
structure Comeback (id : Str) (s s' : Sys) (ts : List (Trans Sys Label Event)) : Prop where
  /-- The event leaves the device in a state in which no pass contacts it. -/
  pass : ∀ o, ∀ t ∈ passTurns o s'.arbiter, t.crc32ID = id → t.contacts = none
  /-- It gets into another state exactly when a case writes one. -/
  attended : (∃ t ∈ ts, Attended id t.post.arbiter) ↔ ∃ t ∈ ts, TakesBack id t
  /-- And there is no such case but the one the monitor was in at the time. -/
  never : workingOn id s.monitor = false →
    (∀ t ∈ ts, ¬ Attended id t.post.arbiter) ∧ ∀ req, Event.request id req ∉ history ts

/-- **A device that comes back** is contacted again exactly when the monitor was
in its case for the device and overwrites the state; the event does not do it. -/
theorem comeback (s s' v : Sys) (event : DiscoverEvent) (device : HNMDARecord)
    (es : List Event) (ts : List (Trans Sys Label Event))
    (hget : s.arbiter.deviceMap[event.toRecord.getCRC32IDStr]? = some device)
    (hgone : device.mgmtState = .offline ∨ device.mgmtState = .disappearing)
    (hadd : system.step s (.notifyDiscoverAdd event) = some (s', es))
    (hr : Run system s' ts v)
    (hcmd : StepsMeet (Uncommanded event.toRecord.getCRC32IDStr) ts) :
    Comeback event.toRecord.getCRC32IDStr s s' ts := by
  have hgone' : gone device.mgmtState = true := by
    rcases hgone with h | h <;> rw [h] <;> rfl
  obtain ⟨hmonitor, device', hget', hstate⟩ := add_known hget hadd
  rw [← hstate] at hgone'
  have hnot := not_callsDevice_of_gone hgone'
  have hunattended : ¬ Attended event.toRecord.getCRC32IDStr s'.arbiter := by
    rintro ⟨d, hd, hc⟩
    obtain rfl := Option.some.inj (hd.symm.trans hget')
    rw [hnot] at hc
    cases hc
  refine ⟨fun o t ht hid => ?_, ⟨fun hatt => ?_, ?_⟩, fun hfree => ?_⟩
  · cases hop : t.contacts with
    | none => rfl
    | some op => exact absurd (hid ▸ attended_of_contacts ht hop) hunattended
  · -- nothing but a write brings the device back
    by_contra hwrite
    obtain ⟨t, ht, hatt⟩ := hatt
    have hnone := (attended_only_by_write ⟨device', hget', hnot⟩ hr hcmd
      fun t ht hback => hwrite ⟨t, ht, hback⟩).1
    exact hnone t ht hatt
  · rintro ⟨t, ht, hback⟩
    exact ⟨t, ht, attended_of_takesBack hr ht hback⟩
  · -- the monitor is not in a case for the device, so it never gets to one
    have hparked : Parked event.toRecord.getCRC32IDStr s' :=
      ⟨hmonitor ▸ hfree, device', hget', hgone'⟩
    refine ⟨fun t ht => ?_, (parked_run hparked hr hcmd).2⟩
    obtain ⟨ts₁, ts₂, rfl⟩ := List.append_of_mem ht
    obtain ⟨hr₁, hstep⟩ := hr.split
    have hbefore := (parked_run hparked hr₁ fun t' ht' =>
      hcmd t' (List.mem_append_left _ ht')).1
    have hafter := (parked_step hbefore (hcmd t ht) hstep).1
    obtain ⟨-, d, hd, hg⟩ := hafter
    rintro ⟨d', hd', hc⟩
    obtain rfl := Option.some.inj (hd.symm.trans hd')
    rw [not_callsDevice_of_gone hg] at hc
    cases hc

end Comeback

/-! ## §4. A device that was not reached, and is announced again. -/

section Sample

open RefPlatform

/-- The device is discovered, and does not answer the request for its info. -/
def notReachedRun : List Label :=
  [.notifyDiscoverAdd sampleDeviceFound, .wakeup, .readState, .act, .writeState,
    .wakeup, .readState, .act, .reply notFound, .writeState]

/-- The device is OFFLINE, the monitor sleeps. -/
def isOffline (id : Str) (s : Sys) : Bool :=
  s.monitor == .idle &&
    (s.arbiter.deviceMap[id]?).any fun device => device.mgmtState == .offline

theorem offline_of_isOffline {id : Str} {s : Sys} (h : isOffline id s = true) :
    s.monitor = .idle ∧
      ∃ device, s.arbiter.deviceMap[id]? = some device ∧ device.mgmtState = .offline := by
  obtain ⟨hidle, hany⟩ := Bool.and_eq_true_iff.mp h
  obtain ⟨device, hget, hst⟩ := (Option.any_eq_true _ _).mp hany
  exact ⟨beq_iff_eq.mp hidle, device, hget, beq_iff_eq.mp hst⟩

/-- The device is announced again, and the monitor goes over it twice. -/
theorem comeback_sample :
    ∃ ts s s' us v, Run system (Sys.init sampleManager ()) ts s ∧
      system.step s (.notifyDiscoverAdd sampleDeviceFound) = some (s', []) ∧
      Run system s' us v ∧ us.map Trans.label = [.wakeup, .readState, .wakeup, .readState] ∧
      Comeback (lit "4900fb4e") s s' us := by
  obtain ⟨ts, s, hr, hp⟩ := Machine.exists_run_of_exec (M := system)
    (s := Sys.init sampleManager ()) (l := notReachedRun)
    (p := fun r => isOffline (lit "4900fb4e") r.2 &&
      (system.exec { r.2 with arbiter := r.2.arbiter.notifyDiscoverAdd sampleDeviceFound.toRecord }
        [.wakeup, .readState, .wakeup, .readState]).any fun r => r.1.map Trans.label ==
          [.wakeup, .readState, .wakeup, .readState])
    (by decide +kernel)
  obtain ⟨hoffline, hlater⟩ := Bool.and_eq_true_iff.mp hp
  obtain ⟨-, device, hget, hst⟩ := offline_of_isOffline hoffline
  obtain ⟨us, v, hr', hlabels⟩ := Machine.exists_run_of_exec hlater
  have hus := beq_iff_eq.mp hlabels
  have hid : sampleDeviceFound.toRecord.getCRC32IDStr = lit "4900fb4e" := by decide +kernel
  refine ⟨ts, s, _, us, v, hr, rfl, hr', hus, ?_⟩
  rw [← hid] at hget ⊢
  refine comeback s _ v sampleDeviceFound device [] us hget (Or.inl hst) rfl hr' fun t ht hl => ?_
  have hmem : t.label ∈ us.map Trans.label := List.mem_map.mpr ⟨t, ht, rfl⟩
  rw [hus, hl] at hmem
  simp at hmem

/-- **The device is announced again** while the monitor sleeps: the next pass
does not contact it, and without a command nothing else ever does. -/
theorem announced_not_contacted :
    ∃ ts s s', Run system (Sys.init sampleManager ()) ts s ∧
      (∃ device, s.arbiter.deviceMap[lit "4900fb4e"]? = some device ∧
        device.mgmtState = .offline) ∧
      system.step s (.notifyDiscoverAdd sampleDeviceFound) = some (s', []) ∧
      sampleDeviceFound.toRecord.getCRC32IDStr = lit "4900fb4e" ∧
      (∀ o, ∀ t ∈ passTurns o s'.arbiter, t.crc32ID = lit "4900fb4e" → t.contacts = none) ∧
      ∀ us v, Run system s' us v → StepsMeet (Uncommanded (lit "4900fb4e")) us →
        ∀ req, Event.request (lit "4900fb4e") req ∉ history us := by
  obtain ⟨ts, s, hr, hp⟩ := Machine.exists_run_of_exec (M := system)
    (s := Sys.init sampleManager ()) (l := notReachedRun)
    (p := fun r => isOffline (lit "4900fb4e") r.2) (by decide +kernel)
  obtain ⟨hidle, device, hget, hst⟩ := offline_of_isOffline hp
  have hid : sampleDeviceFound.toRecord.getCRC32IDStr = lit "4900fb4e" := by decide +kernel
  have hadd : system.step s (.notifyDiscoverAdd sampleDeviceFound) = some ({ s with
      arbiter := s.arbiter.notifyDiscoverAdd sampleDeviceFound.toRecord }, []) := rfl
  obtain ⟨hmonitor, device', hget', hst'⟩ := add_known (hid ▸ hget) hadd
  rw [hid] at hget'
  rw [hst] at hst'
  have hparked : Parked (lit "4900fb4e")
      { s with arbiter := s.arbiter.notifyDiscoverAdd sampleDeviceFound.toRecord } :=
    ⟨by rw [hmonitor, hidle]; rfl, device', hget', by rw [hst']; rfl⟩
  refine ⟨ts, s, _, hr, ⟨device, hget, hst⟩, rfl, hid, fun o t ht heq => ?_,
    fun us v hr' hcmd => (parked_run hparked hr' hcmd).2⟩
  cases hop : t.contacts with
  | none => rfl
  | some op =>
    obtain ⟨d, hd, hc⟩ := attended_of_contacts ht hop
    rw [heq] at hd
    obtain rfl := Option.some.inj (hd.symm.trans hget')
    rw [hst'] at hc
    cases hc

end Sample

end HNodeMgmt.Arbiter
