/-
  HNodeMgmt.Arbiter.Mapped — what a device is told to map its services to.

  SRV_MAP_UPDATE compares, for each type a device desires, the URI the device
  has been told with that of the type's default provider.  One that differs is
  pushed to the device, one that does not is found correct.  The other states
  never look at the mappings, so what a device has been told LAST is read off
  the transitions of a run.

  The provider is the manager: its record gets the built-in services when it
  is inserted, and keeps them unless it is asked for its services like any
  device.

  Main results:
    * `mappedAt_target` — the case tells the device the target of each type it
      desires, or gives the device up.
    * `mappingTarget_eq` — where the provider is known, the target is that of
      an arbiter that knows the manager.
    * `known_iff_found` — a record is known exactly from its discovery on.
-/
import Mathlib.Tactic.Common
import HNodeMgmt.Arbiter.RecordSteps
import HNodeMgmt.Arbiter.Contact
import HNodeMgmt.Arbiter.Indexes

namespace HNodeMgmt.Arbiter

open Lib

section Mapped

variable [Platform]

/-! ## §1. Pushed, or found correct. -/

/-- The URI an event pushes to a device for a type. -/
def pushedBy (id srvType : Str) : Event → Option Str
  | .request crc32ID req =>
    if crc32ID = id then
      match req.payload with
      | .mappings entries => (entries.find? fun entry => entry.1 = srvType).map Prod.snd
      | _ => none
    else none
  | _ => none

/-- The URI a device has already, where it is that of the default provider. -/
def foundCorrect (a : HNManagedDeviceArbiter) (id srvType : Str) : Option Str :=
  match a.deviceMap[id]? with
  | none => none
  | some device =>
    if srvType ∈ device.srvMapDesired ∧ mappingTarget a srvType = mappedURI device srvType then
      some (mappedURI device srvType)
    else none

/-- The URI that a transition pushes to a device for a type, or finds correct:
the first half of SRV_MAP_UPDATE does. -/
def mappedAt (id srvType : Str) (t : Trans Sys Label Event) : Option Str :=
  match t.label, t.pre.monitor with
  | .act, .acting crc32ID .srvMapUpdate =>
    if crc32ID = id then
      (t.evts.findSome? (pushedBy id srvType)).or (foundCorrect t.pre.arbiter id srvType)
    else none
  | _, _ => none

/-- The URI last pushed to a device for a type, or last found correct. -/
def lastMapped (id srvType : Str) (ts : List (Trans Sys Label Event)) : Option Str :=
  ts.reverse.findSome? (mappedAt id srvType)

variable {u v : Sys} {l : Label} {es : List Event} {id t : Str} {device : HNMDARecord}
  {ts : List (Trans Sys Label Event)}

theorem lastMapped_snoc (tr : Trans Sys Label Event) :
    lastMapped id t (ts ++ [tr]) = (mappedAt id t tr).or (lastMapped id t ts) := by
  unfold lastMapped
  rw [List.reverse_append, List.reverse_singleton, List.singleton_append, List.findSome?_cons]
  cases mappedAt id t tr <;> rfl

/-- Elsewhere nothing is pushed or found. -/
theorem mappedAt_other (h : ¬ (l = .act ∧ u.monitor = .acting id .srvMapUpdate)) :
    mappedAt id t ⟨u, l, es, v⟩ = none := by
  unfold mappedAt
  split
  next crc32ID hl hat =>
    rw [if_neg]
    rintro rfl
    exact h ⟨hl, hat⟩
  next => rfl

/-- The case of SRV_MAP_UPDATE, by its only label. -/
theorem mappedAt_act (hat : u.monitor = .acting id .srvMapUpdate) :
    mappedAt id t ⟨u, .act, es, v⟩ =
      (es.findSome? (pushedBy id t)).or (foundCorrect u.arbiter id t) := by
  simp only [mappedAt, hat, if_true]

/-- What is queued or found correct is the target. -/
theorem queued_or_found (hget : u.arbiter.deviceMap[id]? = some device)
    (hkeyed : Keyed device.srvMapDesired) (ht : t ∈ device.srvMapDesired) :
    ((mappingChanges u.arbiter device).2[t]?).or (foundCorrect u.arbiter id t) =
      some (mappingTarget u.arbiter t) := by
  rw [mappingChanges_get u.arbiter hkeyed]
  unfold foundCorrect
  simp only [hget, ht, true_and]
  by_cases hsame : mappingTarget u.arbiter t = mappedURI device t
  · rw [if_neg (not_not.mpr hsame), if_pos hsame, hsame]
    rfl
  · rw [if_pos hsame]
    rfl

/-- **The case tells the device the target** of each type it desires, or writes
OFFLINE. -/
theorem mappedAt_target (hat : u.monitor = .acting id .srvMapUpdate)
    (hget : u.arbiter.deviceMap[id]? = some device) (hkeyed : Keyed device.srvMapDesired)
    (ht : t ∈ device.srvMapDesired) (hstep : system.step u .act = some (v, es)) :
    mappedAt id t ⟨u, .act, es, v⟩ = some (mappingTarget u.arbiter t) ∨
      (mappedAt id t ⟨u, .act, es, v⟩ = none ∧
        v.monitor = .writing id .srvMapUpdate (.offline, 10)) := by
  have hact : actStep u.arbiter id .srvMapUpdate device = (v, es) := by
    have h : u.step .act = some (v, es) := hstep
    simp only [Sys.step, hat, hget, Option.map_some] at h
    exact Option.some.inj h
  have hqueued := queued_or_found hget hkeyed ht
  rw [mappedAt_act hat]
  unfold actStep at hact
  simp only [caseOp, RestOp.start, passedEvent] at hact
  cases hempty : (mappingChanges u.arbiter device).2.isEmpty with
  | true =>
    -- nothing is queued, so every type is found correct
    simp only [hempty, if_true] at hact
    obtain ⟨-, rfl⟩ := Prod.mk.inj hact
    have hnone : (mappingChanges u.arbiter device).2[t]? = none := by
      rw [Std.ExtTreeMap.isEmpty_iff.mp hempty]
      simp
    rw [hnone] at hqueued
    exact .inl hqueued
  | false =>
    simp only [hempty, Bool.false_eq_true, if_false, openRequest] at hact
    cases hconn : (mappingChanges u.arbiter device).1.findPreferredConnection .ipv4 with
    | none =>
      rw [hconn] at hact
      obtain ⟨rfl, rfl⟩ := Prod.mk.inj hact
      have hgoes := caseDone_eq (stores_setDevice u.arbiter id
        (mappingChanges u.arbiter device).1).get .srvMapUpdate .failure
      -- without a connection only the types that are correct are told
      unfold foundCorrect
      simp only [hget, ht, true_and]
      by_cases hsame : mappingTarget u.arbiter t = mappedURI device t
      · rw [if_pos hsame, hsame]
        exact .inl rfl
      · rw [if_neg hsame]
        exact .inr ⟨rfl, congrArg Sys.monitor hgoes⟩
    | some dcInfo =>
      rw [hconn] at hact
      obtain ⟨-, rfl⟩ := Prod.mk.inj hact
      left
      rw [← hqueued, ← OrdMap.find?_toList]
      simp [pushedBy, requestTo]

/-- What a transition tells a device is a target of the state it is taken in. -/
theorem mappedAt_none_or_target (hget : u.arbiter.deviceMap[id]? = some device)
    (hkeyed : Keyed device.srvMapDesired) (ht : t ∈ device.srvMapDesired)
    (hstep : system.step u l = some (v, es)) :
    mappedAt id t ⟨u, l, es, v⟩ = none ∨
      (l = .act ∧ u.monitor = .acting id .srvMapUpdate ∧
        mappedAt id t ⟨u, l, es, v⟩ = some (mappingTarget u.arbiter t)) := by
  by_cases h : l = .act ∧ u.monitor = .acting id .srvMapUpdate
  · obtain ⟨rfl, hat⟩ := h
    rcases mappedAt_target hat hget hkeyed ht hstep with heq | ⟨hnone, -⟩
    · exact .inr ⟨rfl, hat, heq⟩
    · exact .inl hnone
  · exact .inl (mappedAt_other h)

/-! ## §2. The target. -/

/-- The manager's record provides what it was made with. -/
structure TargetInv (a₀ a : HNManagedDeviceArbiter) : Prop where
  manager : a.mgmtDevice = a₀.mgmtDevice
  defaults : a.defaultMappings = a₀.defaultMappings
  own : ∀ device, a.deviceMap[a₀.getSelfCRC32IDStr]? = some device →
    device.srvMapProvided = (a₀.initMgmtDevice HNMDARecord.new).srvMapProvided

/-- The target in an arbiter that knows the manager. -/
def ownTarget (a₀ : HNManagedDeviceArbiter) (srvType : Str) : Str :=
  mappingTarget
    (a₀.setDevice a₀.getSelfCRC32IDStr (a₀.initMgmtDevice HNMDARecord.new)) srvType

/-- Every default provider is the manager. -/
def DefaultsOwn (a₀ : HNManagedDeviceArbiter) : Prop :=
  ∀ (t : Str) (ref : HNMDSrvRef), a₀.defaultMappings[t]? = some ref →
    ref.devCRC32ID = a₀.getSelfCRC32IDStr

variable {a₀ a : HNManagedDeviceArbiter}

theorem defaultsOwn_init (mgmtDevice : HNodeDevice) (caches : Platform.Caches) :
    DefaultsOwn (Sys.init mgmtDevice caches).arbiter := by
  intro t ref href
  simp only [Sys.init, OrdMap.get_insertIfNew, Std.ExtTreeMap.getElem?_empty] at href
  split at href
  next => rw [← Option.some.inj href]; rfl
  next => cases href

/-- **The target where the provider is known**, in whatever state that is. -/
theorem mappingTarget_eq (hdefaults : DefaultsOwn a₀) (hinv : TargetInv a₀ a)
    (hknown : ∀ ref, a.defaultMappings[t]? = some ref → a.deviceMap[ref.devCRC32ID]? ≠ none) :
    mappingTarget a t = ownTarget a₀ t := by
  have hsame : (a₀.setDevice a₀.getSelfCRC32IDStr
      (a₀.initMgmtDevice HNMDARecord.new)).defaultMappings = a₀.defaultMappings := rfl
  unfold ownTarget mappingTarget
  rw [hsame]
  rw [hinv.defaults] at hknown ⊢
  cases href : a₀.defaultMappings[t]? with
  | none => rfl
  | some ref =>
    have hown := hdefaults t ref href
    obtain ⟨device, hget⟩ := Option.ne_none_iff_exists'.mp (hknown ref href)
    simp only [HNManagedDeviceArbiter.getDeviceServiceProviderURI, hget]
    rw [hown] at hget ⊢
    rw [setDevice_get, if_pos rfl]
    simp only [HNMDARecord.getServiceProviderURI, hinv.own device hget]

/-- What the built-in services are depends on the manager only. -/
theorem initMgmtDevice_congr (hmanager : a.mgmtDevice = a₀.mgmtDevice) {r r' : HNMDARecord}
    (hprovided : r.srvMapProvided = r'.srvMapProvided) :
    (a.initMgmtDevice r).srvMapProvided = (a₀.initMgmtDevice r').srvMapProvided := by
  simp only [HNManagedDeviceArbiter.initMgmtDevice,
    HNManagedDeviceArbiter.addMgmtDeviceProvidedSrv, HNMDARecord.completeSrvProviderUpdates,
    HNMDARecord.updateSrvProvider, HNMDARecord.startSrvProviderUpdates, hmanager, hprovided]

/-- A reply that is not about the services a record provides leaves them. -/
theorem RecordTook.provided (h : RecordTook u id l v es)
    (hget : u.arbiter.deviceMap[id]? = some device)
    (hnot : ∀ o st, l = .reply o →
      u.monitor ≠ .waiting id st .updateDeviceServicesProvideInfo) :
    ∃ device', v.arbiter.deviceMap[id]? = some device' ∧
      device'.srvMapProvided = device.srvMapProvided := by
  have hsame : ∀ {d}, u.arbiter.deviceMap[id]? = some d → d = device := fun hd =>
    Option.some.inj (hd.symm.trans hget)
  cases h with
  | away same moved quiet => exact ⟨device, same.trans hget, rfl⟩
  | appeared hid hnone after stays => cases hnone.symm.trans hget
  | announced hid hd after stays =>
    obtain rfl := hsame hd
    exact ⟨_, after, updateRecord_srvMapProvided _ _⟩
  | removed hid hd after stays | cmdSet hd after stays | cmdStarted hd after stays
  | read hphase hd hbusy after goes | written hphase hd after goes =>
    obtain rfl := hsame hd
    exact ⟨_, after, rfl⟩
  | @alone _ st _ hphase hd hop after goes =>
    obtain rfl := hsame hd
    refine ⟨_, after, ?_⟩
    cases st <;> rfl
  | @finished _ st d op result hphase hd hop hstart after goes
  | @requested _ st d op req hphase hd hop hstart after goes
  | @raised _ st d op hphase hd hop hstart after goes =>
    obtain rfl := hsame hd
    obtain ⟨m, heq, -⟩ := start_device u.arbiter d op
    exact ⟨_, after, heq ▸ rfl⟩
  | @replied _ st d op o result hphase hd hfinish after goes =>
    obtain rfl := hsame hd
    refine ⟨_, after, (deviceGiven_frame u.arbiter d o op).provided ?_⟩
    rintro rfl
    exact hnot o st rfl hphase

/-- **One step** that does not ask the manager for its services. -/
theorem targetInv_step (hinv : TargetInv a₀ u.arbiter)
    (hnot : ∀ o st, l = .reply o →
      u.monitor ≠ .waiting a₀.getSelfCRC32IDStr st .updateDeviceServicesProvideInfo)
    (hstep : system.step u l = some (v, es)) : TargetInv a₀ v.arbiter := by
  have htook := took_of_step hstep
  have hrecord := recordTook_of_took htook a₀.getSelfCRC32IDStr
  obtain ⟨hmanager, hdefaults⟩ := settings_of_took htook
  refine ⟨hmanager.trans hinv.manager, hdefaults.trans hinv.defaults, fun device hget => ?_⟩
  cases hbefore : u.arbiter.deviceMap[a₀.getSelfCRC32IDStr]? with
  | some known =>
    obtain ⟨device', hget', hprovided⟩ := hrecord.provided hbefore hnot
    obtain rfl := Option.some.inj (hget'.symm.trans hget)
    exact hprovided.trans (hinv.own known hbefore)
  | none =>
    cases hrecord with
    | away same moved quiet => cases (same.trans hbefore).symm.trans hget
    | @appeared event _ hid hnone after stays =>
      obtain rfl := Option.some.inj (after.symm.trans hget)
      have hself : event.toRecord.getCRC32IDStr = u.arbiter.getSelfCRC32IDStr := by
        rw [hid]
        unfold HNManagedDeviceArbiter.getSelfCRC32IDStr
        rw [hinv.manager]
      rw [discovered, if_pos hself]
      exact initMgmtDevice_congr hinv.manager (toRecord_srvMapProvided event)
    | announced hid hd after stays | removed hid hd after stays | cmdSet hd after stays
    | cmdStarted hd after stays | read hphase hd hbusy after goes | alone hphase hd hop after goes
    | finished hphase hd hop hstart after goes | requested hphase hd hop hstart after goes
    | raised hphase hd hop hstart after goes | replied hphase hd hfinish after goes
    | written hphase hd after goes => cases hbefore.symm.trans hd

/-! ## §3. What is known. -/

/-- The announcement a label makes. -/
def discoveredBy : Label → Option DiscoverEvent
  | .notifyDiscoverAdd event => some event
  | _ => none

/-- The announcements of a run, oldest first. -/
def discoveries (ts : List (Trans Sys Label Event)) : List DiscoverEvent :=
  ts.filterMap fun tr => discoveredBy tr.label

/-- A step makes a record known exactly when it announces it. -/
theorem known_step_iff (hstep : system.step u l = some (v, es)) :
    v.arbiter.deviceMap[id]? ≠ none ↔ u.arbiter.deviceMap[id]? ≠ none ∨
      ∃ event, l = .notifyDiscoverAdd event ∧ event.toRecord.getCRC32IDStr = id := by
  have htook := recordTook_of_took (took_of_step hstep) id
  constructor
  · intro hafter
    by_cases hbefore : u.arbiter.deviceMap[id]? = none
    · right
      cases htook with
      | away same moved quiet => exact absurd (same.trans hbefore) hafter
      | @appeared event _ hid hnone after stays => exact ⟨event, rfl, hid⟩
      | announced hid hd after stays | removed hid hd after stays | cmdSet hd after stays
      | cmdStarted hd after stays | read hphase hd hbusy after goes
      | alone hphase hd hop after goes | finished hphase hd hop hstart after goes
      | requested hphase hd hop hstart after goes | raised hphase hd hop hstart after goes
      | replied hphase hd hfinish after goes | written hphase hd after goes =>
        cases hbefore.symm.trans hd
    · exact .inl hbefore
  · rintro (hbefore | ⟨event, rfl, rfl⟩)
    · obtain ⟨device, hget⟩ := Option.ne_none_iff_exists'.mp hbefore
      obtain ⟨device', hget', -⟩ := htook.stateChange hget
      rw [hget']
      exact Option.some_ne_none _
    · obtain ⟨rfl, -⟩ := Prod.mk.inj (Option.some.inj hstep)
      show (u.arbiter.notifyDiscoverAdd event.toRecord).deviceMap[_]? ≠ none
      cases hget : u.arbiter.deviceMap[event.toRecord.getCRC32IDStr]? with
      | none =>
        rw [(notifyDiscoverAdd_new hget).get]
        exact Option.some_ne_none _
      | some known =>
        rw [(notifyDiscoverAdd_known hget).get]
        exact Option.some_ne_none _

/-- **A record is known** exactly from its first announcement on. -/
theorem known_iff_found {mgmtDevice : HNodeDevice} {caches : Platform.Caches} {s : Sys}
    (hr : Run system (Sys.init mgmtDevice caches) ts s) :
    s.arbiter.deviceMap[id]? ≠ none ↔
      ∃ event ∈ discoveries ts, event.toRecord.getCRC32IDStr = id := by
  refine Run.traceInvariant (P := fun ts s => s.arbiter.deviceMap[id]? ≠ none ↔
    ∃ event ∈ discoveries ts, event.toRecord.getCRC32IDStr = id) ?_ ?_ hr
  · simp [Sys.init, discoveries]
  · intro us u l v es _ ih hstep
    have hlast : ∀ event, event ∈ discoveries (us ++ [⟨u, l, es, v⟩]) ↔
        event ∈ discoveries us ∨ l = .notifyDiscoverAdd event := by
      intro event
      unfold discoveries
      rw [List.filterMap_append, List.mem_append]
      refine or_congr_right ?_
      cases l <;> simp [discoveredBy, eq_comm]
    simp only [known_step_iff hstep, ih, hlast, or_and_right, exists_or]

end Mapped

end HNodeMgmt.Arbiter
