/-
  HNodeMgmt.Arbiter.Ownership — the manager only acts on devices it owns.

  The ownership of a device is what its LAST answer about its owner said, and
  the management states in which the manager configures a device are reached
  only under its ownership.  The main thread may overwrite a state the monitor
  is working on, and the monitor may overwrite the main thread's: both writes
  are harmless here, because neither the command state nor the disappearing
  one is a managed state, and the monitor alone writes the ownership.

  Main results:
    * `ownedInv_step` — one step keeps the invariant.
    * `ownership_safety` — over every run, for every record but the manager's
      own: MINE means the last OK owner reply named this manager, a managed
      state means MINE, and every mapping PUT goes to such a device.
-/
import Mathlib.Tactic.Common
import HNodeMgmt.Arbiter.Steps

namespace HNodeMgmt.Arbiter

open Lib

/-! ## §1. What the property says. -/

/-- The states in which the manager reads, maps and polls a device as its own. -/
def managedState : MgmtState → Bool
  | .srvProvideInfo | .srvMappingInfo | .srvMapUpdate | .active | .updateHealth
  | .updateStrref => true
  | _ => false

/-- The bodies of the owner replies of one device with an OK status, oldest
first. -/
def ownerReplies (id : Str) (h : List Event) : List Body :=
  h.filterMap fun
    | .ownerReply id' body => if id' = id then some body else none
    | _ => none

/-- A PUT of service mappings. -/
def isMappingPut (req : HttpRequest) : Prop :=
  req.method = .put ∧ ∃ entries, req.payload = .mappings entries

@[simp] theorem ownerReplies_append (id : Str) (h₁ h₂ : List Event) :
    ownerReplies id (h₁ ++ h₂) = ownerReplies id h₁ ++ ownerReplies id h₂ := by
  unfold ownerReplies
  exact List.filterMap_append

section Owned

variable [Platform]

/-- The reply was parsed, says that the device is owned, and its owner ID (the
default one when the field is absent) has the manager's CRC32. -/
def namesManager (mgmtDevice : HNodeDevice) (body : Body) : Prop :=
  ∃ r, parseOwnerReply body = some r ∧ r.isOwned = true ∧
    Platform.getCRC32 r.ownerHNID = mgmtDevice.hnodeIDCRC32

/-- The most recent of these replies names the manager. -/
def lastReplyNamesManager (mgmtDevice : HNodeDevice) (h : List Event) (id : Str) : Prop :=
  ∃ body, (ownerReplies id h).getLast? = some body ∧ namesManager mgmtDevice body

/-! ## §2. The invariant. -/

/-- A record other than the manager's own. -/
structure RecordOwned (mgmtDevice : HNodeDevice) (h : List Event) (id : Str)
    (device : HNMDARecord) : Prop where
  plain : device.mgmtState ≠ .self ∧ device.mgmtState ≠ .recovered
  mine : device.ownerState = .mine → lastReplyNamesManager mgmtDevice h id
  managed : managedState device.mgmtState = true → device.ownerState = .mine

/-- The device of a case that is being run: the main thread may have changed
its state, in two ways only. -/
structure CaseOwned (st : MgmtState) (device : HNMDARecord) : Prop where
  state : device.mgmtState = st ∨ device.mgmtState = .execCmd ∨ device.mgmtState = .disappearing
  plain : st ≠ .self ∧ st ≠ .recovered
  managed : managedState st = true → device.ownerState = .mine

/-- The device of a case that is about to write its next state. -/
structure NextOwned (next : MgmtState) (device : HNMDARecord) : Prop where
  plain : next ≠ .self ∧ next ≠ .recovered
  managed : managedState next = true → device.ownerState = .mine

/-- The monitor's part. -/
def PhaseOwned (mgmtDevice : HNodeDevice) (a : HNManagedDeviceArbiter) : MonitorPhase → Prop
  | .acting id st => ∃ device : HNMDARecord, a.deviceMap[id]? = some device ∧
      (id ≠ mgmtDevice.hnodeIDCRC32Str → CaseOwned st device)
  | .waiting id st op => (∃ cmdType, caseOp st cmdType = some op) ∧
      ∃ device : HNMDARecord, a.deviceMap[id]? = some device ∧
      (id ≠ mgmtDevice.hnodeIDCRC32Str → CaseOwned st device)
  | .writing id _ next => ∃ device : HNMDARecord, a.deviceMap[id]? = some device ∧
      (id ≠ mgmtDevice.hnodeIDCRC32Str → NextOwned next.1 device)
  | _ => True

structure OwnedInv (mgmtDevice : HNodeDevice) (h : List Event) (s : Sys) : Prop where
  self : s.arbiter.mgmtDevice = mgmtDevice
  records : ∀ (id : Str) (device : HNMDARecord), s.arbiter.deviceMap[id]? = some device →
    id ≠ mgmtDevice.hnodeIDCRC32Str → RecordOwned mgmtDevice h id device
  phase : PhaseOwned mgmtDevice s.arbiter s.monitor

/-! ## §3. Changes that keep it. -/

/-- A change of a record that the main thread may make. -/
structure Kept (device device' : HNMDARecord) : Prop where
  owner : device'.ownerState = device.ownerState
  state : device'.mgmtState = device.mgmtState ∨ device'.mgmtState = .execCmd ∨
    device'.mgmtState = .disappearing

theorem Kept.refl (device : HNMDARecord) : Kept device device := ⟨rfl, Or.inl rfl⟩

variable {mgmtDevice : HNodeDevice} {h : List Event} {id : Str} {device device' : HNMDARecord}

theorem RecordOwned.keep (hrec : RecordOwned mgmtDevice h id device) (hk : Kept device device') :
    RecordOwned mgmtDevice h id device' := by
  obtain ⟨howner, hstate⟩ := hk
  refine ⟨?_, fun hmine => hrec.mine (howner ▸ hmine), fun hman => ?_⟩
  · rcases hstate with hs | hs | hs <;> rw [hs]
    · exact hrec.plain
    · exact ⟨nofun, nofun⟩
    · exact ⟨nofun, nofun⟩
  · rcases hstate with hs | hs | hs <;> rw [hs] at hman
    · rw [howner]
      exact hrec.managed hman
    · cases hman
    · cases hman

/-- Events that are no owner replies of the device leave its part alone. -/
theorem RecordOwned.extend (hrec : RecordOwned mgmtDevice h id device) {es : List Event}
    (hes : ownerReplies id es = []) : RecordOwned mgmtDevice (h ++ es) id device := by
  refine ⟨hrec.plain, fun hmine => ?_, hrec.managed⟩
  unfold lastReplyNamesManager
  rw [ownerReplies_append, hes, List.append_nil]
  exact hrec.mine hmine

theorem CaseOwned.keep {st : MgmtState} (hcase : CaseOwned st device) (hk : Kept device device') :
    CaseOwned st device' := by
  obtain ⟨howner, hstate⟩ := hk
  refine ⟨?_, hcase.plain, fun hman => howner ▸ hcase.managed hman⟩
  rcases hstate with hs | hs | hs
  · rw [hs]
    exact hcase.state
  · exact Or.inr (Or.inl hs)
  · exact Or.inr (Or.inr hs)

theorem NextOwned.keep {next : MgmtState} (hnext : NextOwned next device)
    (hk : Kept device device') : NextOwned next device' :=
  ⟨hnext.plain, fun hman => hk.owner ▸ hnext.managed hman⟩

/-- A case that is not one of a managed state has a record that is in none. -/
theorem CaseOwned.not_managed {st : MgmtState} (hcase : CaseOwned st device)
    (hst : managedState st = false) :
    managedState device.mgmtState = false := by
  rcases hcase.state with hs | hs | hs <;> rw [hs]
  · exact hst
  · rfl
  · rfl

/-- **What a case may write**: managed states follow each other, and the first
of them follows an owner reply that left the device MINE. -/
theorem nextState_owned {a : HNManagedDeviceArbiter} {st : MgmtState} {result : HNMDLResult}
    (hplain : st ≠ .self ∧ st ≠ .recovered)
    (hman : managedState st = true → device.ownerState = .mine) :
    NextOwned (nextState a device st result).1 device := by
  have hmine := hman
  cases st with
  | self => exact absurd rfl hplain.1
  | recovered => exact absurd rfl hplain.2
  | ownerInfo =>
    cases result with
    | failure => exact ⟨⟨nofun, nofun⟩, nofun⟩
    | success =>
      simp only [nextState]
      cases howner : device.ownerState with
      | mine => exact ⟨⟨nofun, nofun⟩, fun _ => howner⟩
      | _ => exact ⟨⟨nofun, nofun⟩, nofun⟩
  | srvMapUpdate =>
    cases result with
    | failure => exact ⟨⟨nofun, nofun⟩, nofun⟩
    | success =>
      simp only [nextState]
      split
      next => exact ⟨⟨nofun, nofun⟩, fun _ => hmine rfl⟩
      next => exact ⟨⟨nofun, nofun⟩, fun _ => hmine rfl⟩
  | srvProvideInfo | srvMappingInfo | active | updateHealth | updateStrref =>
    cases result <;> exact ⟨⟨nofun, nofun⟩, fun _ => hmine rfl⟩
  | _ => cases result <;> exact ⟨⟨nofun, nofun⟩, nofun⟩

/-- The first half of a helper is no concern of the ownership. -/
theorem start_kept (a : HNManagedDeviceArbiter) (device : HNMDARecord) (op : RestOp) :
    Kept device (op.start a device).1 := by
  obtain ⟨m, heq, -⟩ := start_device a device op
  rw [heq]
  exact ⟨rfl, Or.inl rfl⟩

/-- An owner reply that leaves the device MINE names the manager. -/
theorem applyOwnerReply_mine {selfCRC32ID : UInt32} {body : Body}
    (hself : selfCRC32ID = mgmtDevice.hnodeIDCRC32)
    (hmine : (applyOwnerReply selfCRC32ID device body).1.ownerState = .mine) :
    namesManager mgmtDevice body := by
  unfold applyOwnerReply at hmine
  split at hmine
  next => cases hmine
  next r hparse =>
    split at hmine
    next howned =>
      split at hmine
      next hcrc => exact ⟨r, hparse, howned, by rw [← hcrc, hself]⟩
      next => cases hmine
    next =>
      split at hmine
      next => cases hmine
      next => cases hmine

/-! ## §4. One step. -/

/-- Only the owner reply itself is an owner reply. -/
theorem ownerReplies_replyEvents (id id' : Str) (op : RestOp) (o : RestOutcome)
    (device : HNMDARecord) :
    ownerReplies id (replyEvents id' device op o) =
      match op, o.receive with
      | .updateDeviceOwnerInfo, .ok body => if id' = id then [body] else []
      | _, _ => [] := by
  unfold replyEvents
  cases op with
  | updateDeviceOwnerInfo =>
    cases o.receive with
    | ok body => by_cases hid : id' = id <;> simp [ownerReplies, hid]
    | _ => rfl
  | sendDeviceSetParameters => simp only; split <;> rfl
  | _ => rfl

theorem ownerReplies_passedEvent (id id' : Str) (st : MgmtState) (device : HNMDARecord) :
    ownerReplies id (passedEvent id' st device) = [] := by
  unfold passedEvent
  split <;> rfl

/-- A step of the main thread: each record is kept, or it is new and in no
state yet. -/
structure MainStep (mgmtDevice : HNodeDevice) (a a' : HNManagedDeviceArbiter) : Prop where
  self : a'.mgmtDevice = a.mgmtDevice
  old : ∀ (id : Str) (device : HNMDARecord), a.deviceMap[id]? = some device →
    ∃ device' : HNMDARecord, a'.deviceMap[id]? = some device' ∧ Kept device device'
  new : ∀ (id : Str) (device' : HNMDARecord), a'.deviceMap[id]? = some device' →
    a.deviceMap[id]? = none → id ≠ mgmtDevice.hnodeIDCRC32Str →
    device'.mgmtState = .discovered ∧ device'.ownerState = .notset

/-- A write to a known record that keeps it. -/
theorem mainStep_of_stores {a a' : HNManagedDeviceArbiter} (hself : a'.mgmtDevice = a.mgmtDevice)
    (hget : a.deviceMap[id]? = some device) (hstores : Stores a a' id device')
    (hk : Kept device device') : MainStep mgmtDevice a a' := by
  refine ⟨hself, fun key d hd => ?_, fun key d' hd' hnone => ?_⟩
  · by_cases heq : id = key
    · subst heq
      obtain rfl : device = d := Option.some.inj (hget.symm.trans hd)
      exact ⟨device', hstores.get, hk⟩
    · exact ⟨d, (hstores.get_ne heq).trans hd, Kept.refl d⟩
  · by_cases heq : id = key
    · rw [← heq, hget] at hnone
      cases hnone
    · rw [hstores.get_ne heq, hnone] at hd'
      cases hd'

theorem mainStep_refl (a : HNManagedDeviceArbiter) : MainStep mgmtDevice a a :=
  ⟨rfl, fun _ d hd => ⟨d, hd, Kept.refl d⟩, fun _ _ hd hnone => by rw [hnone] at hd; cases hd⟩

theorem mainStep_notifyDiscoverAdd {a : HNManagedDeviceArbiter}
    (hself : a.mgmtDevice = mgmtDevice) (event : DiscoverEvent) :
    MainStep mgmtDevice a (a.notifyDiscoverAdd event.toRecord) := by
  have hdev : (a.notifyDiscoverAdd event.toRecord).mgmtDevice = a.mgmtDevice := by
    rw [notifyDiscoverAdd_rest]
  cases hget : a.deviceMap[event.toRecord.getCRC32IDStr]? with
  | some known =>
    exact mainStep_of_stores hdev hget (notifyDiscoverAdd_known hget)
      ⟨updateRecord_ownerState _ _, Or.inl (updateRecord_mgmtState _ _)⟩
  | none =>
    have hstores := notifyDiscoverAdd_new hget
    refine ⟨hdev, fun key d hd => ?_, fun key d' hd' hnone hne => ?_⟩
    · have hneq : event.toRecord.getCRC32IDStr ≠ key := by
        intro heq
        rw [heq, hd] at hget
        cases hget
      exact ⟨d, (hstores.get_ne hneq).trans hd, Kept.refl d⟩
    · by_cases heq : event.toRecord.getCRC32IDStr = key
      · subst heq
        obtain rfl : discovered a event.toRecord = d' :=
          Option.some.inj (hstores.get.symm.trans hd')
        -- the ID is not the manager's: no built-in services, state DISCOVERED
        have hother : event.toRecord.getCRC32IDStr ≠ a.getSelfCRC32IDStr := by
          rw [HNManagedDeviceArbiter.getSelfCRC32IDStr, hself]
          exact hne
        rw [discovered, if_neg hother]
        exact ⟨rfl, toRecord_ownerState event⟩
      · rw [hstores.get_ne heq, hnone] at hd'
        cases hd'

theorem mainStep_notifyDiscoverRemove (a : HNManagedDeviceArbiter) (event : DiscoverEvent) :
    MainStep mgmtDevice a (a.notifyDiscoverRemove event.toRecord) := by
  unfold HNManagedDeviceArbiter.notifyDiscoverRemove
  cases hget : a.deviceMap[event.toRecord.getCRC32IDStr]? with
  | none => exact mainStep_refl a
  | some known =>
    exact mainStep_of_stores rfl hget (stores_setDevice a _ _) ⟨rfl, Or.inr (Or.inr rfl)⟩

theorem mainStep_setDeviceMgmtCmdFromJSON (a : HNManagedDeviceArbiter) (id : Str) (body : Body) :
    MainStep mgmtDevice a (a.setDeviceMgmtCmdFromJSON id body).1 := by
  unfold HNManagedDeviceArbiter.setDeviceMgmtCmdFromJSON
  cases hget : a.deviceMap[id]? with
  | none => exact mainStep_refl a
  | some known =>
    exact mainStep_of_stores rfl hget (stores_setDevice a _ _) ⟨rfl, Or.inl rfl⟩

theorem mainStep_startDeviceMgmtCmd (a : HNManagedDeviceArbiter) (id : Str) :
    MainStep mgmtDevice a (a.startDeviceMgmtCmd id).1 := by
  unfold HNManagedDeviceArbiter.startDeviceMgmtCmd
  cases hget : a.deviceMap[id]? with
  | none => exact mainStep_refl a
  | some known =>
    exact mainStep_of_stores rfl hget (stores_setNextMonitorState a _ _ _ _)
      ⟨rfl, Or.inr (Or.inl rfl)⟩

/-- A step of the main thread keeps the invariant. -/
theorem ownedInv_main {s : Sys} {a' : HNManagedDeviceArbiter} (hinv : OwnedInv mgmtDevice h s)
    (hmain : MainStep mgmtDevice s.arbiter a') :
    OwnedInv mgmtDevice h { s with arbiter := a' } := by
  obtain ⟨hself, hrecords, hphase⟩ := hinv
  refine ⟨hmain.self.trans hself, fun key d' hd' hne => ?_, ?_⟩
  · cases hd : s.arbiter.deviceMap[key]? with
    | some d =>
      obtain ⟨d'', hd'', hk⟩ := hmain.old key d hd
      obtain rfl : d'' = d' := Option.some.inj (hd''.symm.trans hd')
      exact (hrecords key d hd hne).keep hk
    | none =>
      obtain ⟨hst, how⟩ := hmain.new key d' hd' hd hne
      refine ⟨?_, fun hmine => ?_, fun hman => ?_⟩
      · rw [hst]
        exact ⟨nofun, nofun⟩
      · rw [how] at hmine
        cases hmine
      · rw [hst] at hman
        cases hman
  · show PhaseOwned mgmtDevice a' s.monitor
    revert hphase
    cases s.monitor with
    | acting key st =>
      rintro ⟨d, hd, hcase⟩
      obtain ⟨d', hd', hk⟩ := hmain.old key d hd
      exact ⟨d', hd', fun hne => (hcase hne).keep hk⟩
    | waiting key st op =>
      rintro ⟨hop, d, hd, hcase⟩
      obtain ⟨d', hd', hk⟩ := hmain.old key d hd
      exact ⟨hop, d', hd', fun hne => (hcase hne).keep hk⟩
    | writing key st next =>
      rintro ⟨d, hd, hnext⟩
      obtain ⟨d', hd', hk⟩ := hmain.old key d hd
      exact ⟨d', hd', fun hne => (hnext hne).keep hk⟩
    | _ => exact id

/-- A step of the monitor on one record: it keeps the invariant when it does
for that record and the phase it leaves. -/
theorem ownedInv_monitor {s : Sys} {a' : HNManagedDeviceArbiter} {phase : MonitorPhase}
    {es : List Event} (hinv : OwnedInv mgmtDevice h s)
    (hstores : Stores s.arbiter a' id device') (hself : a'.mgmtDevice = s.arbiter.mgmtDevice)
    (hes : ∀ key, id ≠ key → ownerReplies key es = [])
    (hrec : id ≠ mgmtDevice.hnodeIDCRC32Str → RecordOwned mgmtDevice (h ++ es) id device')
    (hphase : PhaseOwned mgmtDevice a' phase) :
    OwnedInv mgmtDevice (h ++ es) { arbiter := a', monitor := phase } := by
  refine ⟨hself.trans hinv.self, fun key d hd hne => ?_, hphase⟩
  by_cases heq : id = key
  · subst heq
    obtain rfl : device' = d := Option.some.inj (hstores.get.symm.trans hd)
    exact hrec hne
  · rw [hstores.get_ne heq] at hd
    exact (hinv.records key d hd hne).extend (hes key heq)

theorem phaseOwned_advance (a a' : HNManagedDeviceArbiter) (key : Str) :
    PhaseOwned mgmtDevice a' (advance a key) := by
  rcases advance_cases a key with hadv | ⟨id', hadv⟩ <;> rw [hadv] <;> exact trivial

/-- The monitor's part of a record after the first half of a case. -/
private theorem ownedInv_acted {s : Sys} {phase : MonitorPhase}
    {es : List Event} (hinv : OwnedInv mgmtDevice h s)
    (hget : s.arbiter.deviceMap[id]? = some device) (hk : Kept device device')
    (hes : ∀ key, ownerReplies key es = [])
    (hphase : PhaseOwned mgmtDevice (s.arbiter.setDevice id device') phase) :
    OwnedInv mgmtDevice (h ++ es)
      { arbiter := s.arbiter.setDevice id device', monitor := phase } := by
  apply ownedInv_monitor hinv (stores_setDevice s.arbiter id device') rfl (fun key _ => hes key) _
    hphase
  intro hne
  exact ((hinv.records id device hget hne).keep hk).extend (hes id)

/-- The replies of a managed state's case keep the ownership. -/
private theorem ownerState_of_managed {st : MgmtState} {cmdType : CmdType} {op : RestOp}
    (hop : caseOp st cmdType = some op) (hframe : ReplyFrame op device device')
    (hst : managedState st = true) : device'.ownerState = device.ownerState := by
  have howner : op ≠ .updateDeviceOwnerInfo := by
    intro heq
    rw [heq] at hop
    rw [caseOp_ownerInfo hop] at hst
    cases hst
  rcases hframe.ownerState howner with heq | ⟨heq, -⟩
  · exact heq
  · rw [heq] at hop
    rw [caseOp_operationalInfo hop] at hst
    cases hst

/-- A device that is MINE after a reply: the reply was the owner's and named
the manager, or nothing has changed. -/
private theorem replyDone_mine {a : HNManagedDeviceArbiter} {op : RestOp} {o : RestOutcome}
    (hself : a.mgmtDevice = mgmtDevice) (hrec : RecordOwned mgmtDevice h id device)
    (hframe : ReplyFrame op device (op.deviceGiven a device o))
    (hmine : (op.deviceGiven a device o).ownerState = .mine) :
    lastReplyNamesManager mgmtDevice (h ++ replyEvents id device op o) id := by
  by_cases hop : op = .updateDeviceOwnerInfo
  · subst hop
    cases hrec' : o.receive with
    | ok body =>
      rw [deviceGiven_ok hrec'] at hmine
      refine ⟨body, ?_, applyOwnerReply_mine (by rw [← hself]; rfl) hmine⟩
      rw [ownerReplies_append, ownerReplies_replyEvents, hrec']
      simp
    | _ =>
      have hnot : ∀ body, o.receive ≠ .ok body := by rw [hrec']; exact nofun
      rw [deviceGiven_not_ok hnot] at hmine
      apply (hrec.extend _).mine hmine
      rw [ownerReplies_replyEvents, hrec']
  · rcases hframe.ownerState hop with heq | ⟨-, heq⟩
    · rw [heq] at hmine
      apply (hrec.extend _).mine hmine
      rw [ownerReplies_replyEvents]
      split
      next => exact absurd rfl hop
      next => rfl
    · rw [heq] at hmine
      cases hmine

/-- The record after a reply, and what it says of the case that asked. -/
private theorem RecordOwned.reply {a : HNManagedDeviceArbiter} {st : MgmtState}
    {cmdType : CmdType} {op : RestOp} {o : RestOutcome} (hself : a.mgmtDevice = mgmtDevice)
    (hop : caseOp st cmdType = some op) (hcase : CaseOwned st device)
    (hrec : RecordOwned mgmtDevice h id device) :
    RecordOwned mgmtDevice (h ++ replyEvents id device op o) id (op.deviceGiven a device o) := by
  have hframe := deviceGiven_frame a device o op
  refine ⟨by rw [hframe.mgmtState]; exact hrec.plain, fun hmine => ?_, fun hman => ?_⟩
  · exact replyDone_mine hself hrec hframe hmine
  · rw [hframe.mgmtState] at hman
    -- a managed record is one of a managed case, whose reply keeps the ownership
    have hst : managedState st = true := by
      by_contra hnot
      rw [hcase.not_managed (by simpa using hnot)] at hman
      cases hman
    rw [ownerState_of_managed hop hframe hst]
    exact hrec.managed hman

/-- The record after a case that calls no helper: in DISCOVERED the ownership
becomes UNKNOWN, and the record is in no managed state. -/
private theorem RecordOwned.alone {st : MgmtState} (hcase : CaseOwned st device)
    (hrec : RecordOwned mgmtDevice h id device) :
    RecordOwned mgmtDevice h id (caseOwnership st device) := by
  cases st with
  | self => exact absurd rfl hcase.plain.1
  | recovered => exact absurd rfl hcase.plain.2
  | discovered =>
    refine ⟨hrec.plain, fun hmine => ?_, fun hman => ?_⟩
    · cases hmine
    · rw [show (caseOwnership .discovered device).mgmtState = device.mgmtState from rfl,
        hcase.not_managed rfl] at hman
      cases hman
  | _ => exact hrec

private theorem CaseOwned.managed_alone {st : MgmtState} (hcase : CaseOwned st device)
    (hman : managedState st = true) : (caseOwnership st device).ownerState = .mine := by
  have hmine := hcase.managed hman
  cases st with
  | self => exact absurd rfl hcase.plain.1
  | recovered => exact absurd rfl hcase.plain.2
  | discovered => cases hman
  | _ => exact hmine

/-- The device of the phase is the one that is stored. -/
private theorem PhaseOwned.acting {a : HNManagedDeviceArbiter} {phase : MonitorPhase}
    {st : MgmtState} (hphase : PhaseOwned mgmtDevice a phase) (hph : phase = .acting id st)
    (hget : a.deviceMap[id]? = some device) (hne : id ≠ mgmtDevice.hnodeIDCRC32Str) :
    CaseOwned st device := by
  subst hph
  obtain ⟨d, hd, hcase⟩ := hphase
  obtain rfl : d = device := Option.some.inj (hd.symm.trans hget)
  exact hcase hne

private theorem PhaseOwned.waiting {a : HNManagedDeviceArbiter} {phase : MonitorPhase}
    {st : MgmtState} {op : RestOp} (hphase : PhaseOwned mgmtDevice a phase)
    (hph : phase = .waiting id st op) (hget : a.deviceMap[id]? = some device) :
    (∃ cmdType, caseOp st cmdType = some op) ∧
      (id ≠ mgmtDevice.hnodeIDCRC32Str → CaseOwned st device) := by
  subst hph
  obtain ⟨hop, d, hd, hcase⟩ := hphase
  obtain rfl : d = device := Option.some.inj (hd.symm.trans hget)
  exact ⟨hop, hcase⟩

/-- **One step keeps the invariant.** -/
theorem ownedInv_step {s s' : Sys} {l : Label} {es : List Event}
    (hinv : OwnedInv mgmtDevice h s) (hstep : system.step s l = some (s', es)) :
    OwnedInv mgmtDevice (h ++ es) s' := by
  have hphase := hinv.phase
  cases took_of_step hstep with
  -- the four calls of the other threads send nothing and keep the ownership
  | add event =>
    rw [List.append_nil]
    exact ownedInv_main hinv (mainStep_notifyDiscoverAdd hinv.self event)
  | remove event =>
    rw [List.append_nil]
    exact ownedInv_main hinv (mainStep_notifyDiscoverRemove s.arbiter event)
  | setCmd id body =>
    rw [List.append_nil]
    exact ownedInv_main hinv (mainStep_setDeviceMgmtCmdFromJSON s.arbiter id body)
  | startCmd id =>
    rw [List.append_nil]
    exact ownedInv_main hinv (mainStep_startDeviceMgmtCmd s.arbiter id)
  | wakeup phase _ hnext =>
    rw [List.append_nil]
    refine ⟨hinv.self, hinv.records, ?_⟩
    rcases hnext with hnext | ⟨first, hnext⟩ <;> rw [hnext] <;> exact trivial
  | skip id device _ _ _ =>
    rw [List.append_nil]
    exact ⟨hinv.self, hinv.records, phaseOwned_advance s.arbiter s.arbiter id⟩
  | read id device _ hget _ =>
    -- the state of the case is the record's
    rw [List.append_nil]
    refine ⟨hinv.self, hinv.records, device, hget, fun hne => ?_⟩
    have hrec := hinv.records id device hget hne
    exact ⟨Or.inl rfl, hrec.plain, hrec.managed⟩
  | actAlone id st device hph hget hop =>
    have hcase := hphase.acting hph hget
    have hes : ∀ key, ownerReplies key (passedEvent id st device) = [] :=
      fun key => ownerReplies_passedEvent key id st device
    apply ownedInv_monitor hinv (stores_setDevice s.arbiter id _) rfl (fun key _ => hes key)
    · intro hne
      exact ((hinv.records id device hget hne).extend (hes id)).alone (hcase hne)
    · refine ⟨_, (stores_setDevice s.arbiter id _).get, fun hne => ?_⟩
      exact nextState_owned (hcase hne).plain (hcase hne).managed_alone
  | actFinished id st device op result hph hget hop hstart =>
    apply ownedInv_acted hinv hget (start_kept s.arbiter device op)
      fun key => ownerReplies_passedEvent key id st device
    refine ⟨_, (stores_setDevice s.arbiter id _).get, fun hne => ?_⟩
    have hc := (hphase.acting hph hget hne).keep (start_kept s.arbiter device op)
    exact nextState_owned hc.plain hc.managed
  | actRequest id st device op req hph hget hop hstart =>
    apply ownedInv_acted hinv hget (start_kept s.arbiter device op)
    · intro key
      rw [ownerReplies_append, ownerReplies_passedEvent]
      rfl
    · refine ⟨⟨_, hop⟩, _, (stores_setDevice s.arbiter id _).get, fun hne => ?_⟩
      exact (hphase.acting hph hget hne).keep (start_kept s.arbiter device op)
  | actRaised id st device op hph hget hop hstart =>
    exact ownedInv_acted hinv hget (start_kept s.arbiter device op)
      (fun key => ownerReplies_passedEvent key id st device) trivial
  | replyRaised id st op device o hph hget hfinish =>
    have hdead : PhaseOwned mgmtDevice s.arbiter .dead := trivial
    have hes : ∀ key, ownerReplies key (replyEvents id device op o) = [] := by
      intro key
      rw [ownerReplies_replyEvents]
      cases op with
      | updateDeviceOwnerInfo => rw [finish_raised rfl hfinish]
      | _ => rfl
    apply ownedInv_monitor hinv (stores_refl hget) rfl (fun key _ => hes key) _ hdead
    intro hne
    exact (hinv.records id device hget hne).extend (hes id)
  | replyDone id st op device o a' result hph hget hfinish hstores =>
    obtain ⟨⟨cmdType, hop⟩, hcase⟩ := hphase.waiting hph hget
    have hself := (finish_stores hget hfinish).2.1
    apply ownedInv_monitor hinv hstores hself
    · -- the reply is the device's own
      intro key hne
      rw [ownerReplies_replyEvents]
      split
      next => rw [if_neg hne]
      next => rfl
    · intro hne
      exact (hinv.records id device hget hne).reply hinv.self hop (hcase hne)
    · refine ⟨_, hstores.get, fun hne => nextState_owned (hcase hne).plain fun hst => ?_⟩
      rw [ownerState_of_managed hop (deviceGiven_frame s.arbiter device o op) hst]
      exact (hcase hne).managed hst
  | write id st next device hph hget =>
    rw [hph] at hphase
    obtain ⟨d, hd, hnext⟩ := hphase
    obtain rfl : d = device := Option.some.inj (hd.symm.trans hget)
    apply ownedInv_monitor hinv (stores_setNextMonitorState s.arbiter id d next.1 next.2) rfl
      (fun _ _ => rfl)
    · intro hne
      rw [List.append_nil]
      have hn := hnext hne
      exact ⟨hn.plain, (hinv.records id d hget hne).mine, hn.managed⟩
    · exact phaseOwned_advance s.arbiter _ id

/-! ## §5. Every run. -/

theorem ownedInv_init (mgmtDevice : HNodeDevice) (caches : Platform.Caches) :
    OwnedInv mgmtDevice [] (Sys.init mgmtDevice caches) := by
  refine ⟨rfl, fun key d hd => ?_, trivial⟩
  simp [Sys.init] at hd

theorem ownedInv_run {caches : Platform.Caches} {ts : List (Trans Sys Label Event)} {s : Sys}
    (hr : Run system (Sys.init mgmtDevice caches) ts s) :
    OwnedInv mgmtDevice (history ts) s := by
  apply Run.historyInvariant (C := fun _ _ => True) (ownedInv_init mgmtDevice caches) _ hr
    fun _ _ => trivial
  intro h u l v es hinv _ hstep
  exact ownedInv_step hinv hstep

/-- Only the mapping update sends mappings. -/
theorem start_mappingPut {a : HNManagedDeviceArbiter} {op : RestOp} {req : HttpRequest}
    (hstart : (op.start a device).2 = .request req) (hput : isMappingPut req) :
    op = .executeDeviceServicesUpdateMapping := by
  obtain ⟨-, entries, hpay⟩ := hput
  cases op with
  | executeDeviceServicesUpdateMapping => rfl
  | updateDeviceHealthInfo | updateDeviceStringReferences =>
    obtain ⟨-, hempty | ⟨fmtCodes, hcodes⟩⟩ := start_published rfl hstart
    · cases hempty.symm.trans hpay
    · cases hcodes.symm.trans hpay
  -- the payload of a request is the one its helper was written with
  | _ => cases (openRequest_eq hstart).2.symm.trans hpay

/-- Only the call of a case sends a request. -/
theorem request_of_took {s s' : Sys} {l : Label} {es : List Event} {req : HttpRequest}
    (htook : Took s l s' es) (hreq : Event.request id req ∈ es) :
    ∃ (st : MgmtState) (device : HNMDARecord) (op : RestOp), s.monitor = .acting id st ∧
      s.arbiter.deviceMap[id]? = some device ∧
      caseOp st device.mgmtCmd.cmdType = some op ∧
      (op.start s.arbiter device).2 = .request req := by
  have hpassed : ∀ id' st device, Event.request id req ∉ passedEvent id' st device :=
    fun id' st device => request_not_mem_passedEvent id' st device id req
  have hreplied : ∀ id' device op o, Event.request id req ∉ replyEvents id' device op o :=
    fun id' device op o => request_not_mem_replyEvents id' device op o id req
  cases htook with
  | actRequest id' st device op req' hph hget hop hstart =>
    rcases List.mem_append.mp hreq with hmem | hmem
    · exact absurd hmem (hpassed id' st device)
    · obtain ⟨rfl, rfl⟩ : id = id' ∧ req = req' := by simpa using hmem
      exact ⟨st, device, op, hph, hget, hop, hstart⟩
  | actAlone id' st device hph hget hop => exact absurd hreq (hpassed id' st device)
  | actFinished id' st device op result hph hget hop hstart =>
    exact absurd hreq (hpassed id' st device)
  | actRaised id' st device op hph hget hop hstart => exact absurd hreq (hpassed id' st device)
  | replyRaised id' st op device o hph hget hfinish =>
    exact absurd hreq (hreplied id' device op o)
  | replyDone id' st op device o a' result hph hget hfinish hstores =>
    exact absurd hreq (hreplied id' device op o)
  | _ => cases hreq

/-- **A mapping PUT**: the device it goes to is MINE. -/
theorem mappingPut_of_step {s s' : Sys} {l : Label} {es : List Event} {req : HttpRequest}
    (hinv : OwnedInv mgmtDevice h s) (hstep : system.step s l = some (s', es))
    (hreq : Event.request id req ∈ es) (hput : isMappingPut req)
    (hne : id ≠ mgmtDevice.hnodeIDCRC32Str) : lastReplyNamesManager mgmtDevice h id := by
  obtain ⟨st, device, op, hph, hget, hop, hstart⟩ := request_of_took (took_of_step hstep) hreq
  have hupdate := start_mappingPut hstart hput
  rw [hupdate] at hop
  have hst : st = .srvMapUpdate := caseOp_updateMapping hop
  have hcase := hinv.phase.acting hph hget hne
  apply (hinv.records id device hget hne).mine
  apply hcase.managed
  rw [hst]
  rfl

/-- Ownership safety of a run. -/
structure OwnershipSafe (mgmtDevice : HNodeDevice) (ts : List (Trans Sys Label Event)) (s : Sys) :
    Prop where
  /-- MINE is what the most recent OK owner reply said. -/
  mine : ∀ (id : Str) (device : HNMDARecord), s.arbiter.deviceMap[id]? = some device →
    id ≠ mgmtDevice.hnodeIDCRC32Str → device.ownerState = .mine →
    lastReplyNamesManager mgmtDevice (history ts) id
  /-- A managed state is a state of a device that is MINE. -/
  managed : ∀ (id : Str) (device : HNMDARecord), s.arbiter.deviceMap[id]? = some device →
    id ≠ mgmtDevice.hnodeIDCRC32Str → managedState device.mgmtState = true →
    device.ownerState = .mine
  /-- A mapping PUT is sent to a device whose last such reply named the manager. -/
  mappingPut : ∀ (ts₁ ts₂ : List (Trans Sys Label Event)) (t : Trans Sys Label Event)
    (id : Str) (req : HttpRequest), ts = ts₁ ++ t :: ts₂ → Event.request id req ∈ t.evts →
    isMappingPut req → id ≠ mgmtDevice.hnodeIDCRC32Str →
    lastReplyNamesManager mgmtDevice (history ts₁) id

/-- **Ownership safety**: it holds of every run, whatever the order of the
threads and the answers of the network. -/
theorem ownership_safety (mgmtDevice : HNodeDevice) (caches : Platform.Caches)
    (ts : List (Trans Sys Label Event)) (s : Sys)
    (hr : Run system (Sys.init mgmtDevice caches) ts s) : OwnershipSafe mgmtDevice ts s := by
  have hinv := ownedInv_run hr
  refine ⟨fun id device hget hne => (hinv.records id device hget hne).mine,
    fun id device hget hne => (hinv.records id device hget hne).managed, ?_⟩
  intro ts₁ ts₂ t id req hts hreq hput hne
  obtain ⟨hrun, hstep⟩ := (hts ▸ hr).split
  exact mappingPut_of_step (ownedInv_run hrun) hstep hreq hput hne

end Owned

/-! ### A run with a mapping PUT. -/

section Sample

open RefPlatform

/-- A pass over the manager's own record and then the device. -/
def samplePass (device : List Label) : List Label :=
  [.wakeup, .readState, .act, .writeState, .readState] ++ device ++ [.writeState]

/-- From discovery to the mapping update. -/
def sampleRun : List Label :=
  [.notifyDiscoverAdd sampleManagerFound, .notifyDiscoverAdd sampleDeviceFound] ++
  samplePass [.act] ++
  samplePass [.act, .reply (okReply (.object []))] ++
  samplePass [.act, .reply (okReply ownedByManager)] ++
  samplePass [.act, .reply (okReply (.array []))] ++
  samplePass [.act, .reply (okReply
    (.array [some [(lit "type", stringField "hnsrv-health-sink")]]))] ++
  samplePass [.act, .reply (okReply (.object []))]

/-- The request is a mapping PUT. -/
def isMappingPutEvent : Event → Bool
  | .request _ { method := .put, payload := .mappings _, .. } => true
  | _ => false

/-- A run in which the manager does send its mappings, and is safe. -/
theorem ownership_safety_sample :
    ∃ ts s, Run system (Sys.init sampleManager ()) ts s ∧
      (history ts).any isMappingPutEvent = true ∧ OwnershipSafe sampleManager ts s := by
  obtain ⟨ts, s, hr, hput⟩ := Machine.exists_run_of_exec (M := system)
    (s := Sys.init sampleManager ()) (l := sampleRun)
    (p := fun r => (history r.1).any isMappingPutEvent) (by decide +kernel)
  exact ⟨ts, s, hr, hput, ownership_safety sampleManager () ts s hr⟩

end Sample

end HNodeMgmt.Arbiter
