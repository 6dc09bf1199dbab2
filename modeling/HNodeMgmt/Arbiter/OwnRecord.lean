/-
  HNodeMgmt.Arbiter.OwnRecord — the manager among its devices.

  The manager announces itself like any node, and finds its own record in the
  device map.  `notifyDiscoverAdd` tells it apart when the record is first
  inserted: the built-in services are added, the state is SELF, and the case of
  SELF ("just halt in this state") never leaves it.  The two other writers of
  the state do not ask whose record it is.

  Main results:
    * `own_kept_iff` — the manager is never treated as a device exactly in the
      runs that post no command for its ID and do not report it as gone.
    * `claimed_itself` — a run in which the manager contacts itself and lists
      itself.
-/
import Mathlib.Tactic.Common
import HNodeMgmt.Arbiter.RecordSteps
import HNodeMgmt.Arbiter.Indexes

namespace HNodeMgmt.Arbiter

open Lib

/-! ## §1. The device inventory (`getDeviceInventory`). -/

/-- `getManagementStateStr`. -/
def getManagementStateStr : MgmtState → Str
  | .active => lit "ACTIVE"
  | .self => lit "SELF"
  | .discovered => lit "DISCOVERED"
  | .recovered => lit "RECOVERED"
  | .optInfo => lit "OPT_INFO"
  | .ownerInfo => lit "OWNER_INFO"
  | .srvProvideInfo => lit "SRV_PROVIDE_INFO"
  | .srvMappingInfo => lit "SRV_MAPPING_INFO"
  | .srvMapUpdate => lit "SRV_MAP_UPDATE"
  | .unclaimed => lit "UNCLAIMED"
  | .otherMgr => lit "OTHER_MGR"
  | .disappearing => lit "DISAPPEARING"
  | .offline => lit "OFFLINE"
  | .execCmd => lit "EXEC_CMD"
  | .notAvailable => lit "NOT_AVAILABLE"
  | .updateHealth => lit "UPDATE_HEALTH"
  | .updateStrref => lit "UPDATE_STRREF"
  | .notset => lit "NOTSET"

/-- `getTypeAsStr` of an address. -/
def getTypeAsStr : AddrType → Str
  | .notset => lit "not-set"
  | .unknown => lit "unknown"
  | .ipv4 => lit "ipv4"
  | .loopbackIpv4 => lit "loopback_ipv4"
  | .castIpv4 => lit "cast_ipv4"
  | .inetIpv4 => lit "inet_ipv4"
  | .ipv6 => lit "ipv6"
  | .loopbackIpv6 => lit "loopback_ipv6"
  | .castIpv6 => lit "cast_ipv6"
  | .inetIpv6 => lit "inet_ipv6"

/-- `jsAddress`. -/
structure InventoryAddress where
  type : Str
  dnsName : Str
  address : Str
  port : UInt16
  deriving DecidableEq, Repr

/-- `jsDevice`. -/
structure InventoryEntry where
  name : Str
  hnodeID : Str
  deviceType : Str
  deviceVersion : Str
  discID : Str
  crc32ID : UInt32
  hexID : Str
  mgmtState : Str
  addresses : List InventoryAddress
  deriving DecidableEq, Repr

/-- `jsRoot`. -/
structure DeviceInventory where
  ownedDevices : List InventoryEntry
  unclaimedDevices : List InventoryEntry
  unavailableDevices : List InventoryEntry
  deriving DecidableEq, Repr

/-- Everything that is listed. -/
def DeviceInventory.entries (inv : DeviceInventory) : List InventoryEntry :=
  inv.ownedDevices ++ inv.unclaimedDevices ++ inv.unavailableDevices

section OwnRecord

variable [Platform]

/-- `getDeviceListCopy`. -/
def HNManagedDeviceArbiter.getDeviceListCopy (a : HNManagedDeviceArbiter) : List HNMDARecord :=
  a.deviceMap.toList.map fun it => it.2.copy

def inventoryEntry (device : HNMDARecord) : InventoryEntry :=
  { name := device.name
    hnodeID := device.getHNodeIDStr
    deviceType := device.devType
    deviceVersion := device.devVersion
    discID := device.discID
    crc32ID := device.getCRC32ID
    hexID := device.getCRC32IDStr
    mgmtState := getManagementStateStr device.mgmtState
    addresses := device.addrList.map fun addr =>
      { type := getTypeAsStr addr.type, dnsName := addr.dnsName, address := addr.address,
        port := addr.port } }

/-- One round of the loop over the copies. -/
def inventoryStep (inv : DeviceInventory) (device : HNMDARecord) : DeviceInventory :=
  -- "Don't report the self device information here"
  if device.mgmtState = .self then inv
  else
    match device.ownerState with
    | .mine => { inv with ownedDevices := inv.ownedDevices ++ [inventoryEntry device] }
    | .available => { inv with unclaimedDevices := inv.unclaimedDevices ++ [inventoryEntry device] }
    | _ => { inv with unavailableDevices := inv.unavailableDevices ++ [inventoryEntry device] }

/-- The case `getDeviceInventory` of `handleLocalSCGIRequest`. -/
def getDeviceInventory (deviceList : List HNMDARecord) : DeviceInventory :=
  deviceList.foldl inventoryStep
    { ownedDevices := [], unclaimedDevices := [], unavailableDevices := [] }

theorem mem_entries_inventoryStep {inv : DeviceInventory} {device : HNMDARecord}
    {e : InventoryEntry} :
    e ∈ (inventoryStep inv device).entries ↔
      e ∈ inv.entries ∨ (device.mgmtState ≠ .self ∧ e = inventoryEntry device) := by
  unfold inventoryStep
  split
  next hself => simp [hself]
  next hother =>
    cases device.ownerState <;>
    · simp only [DeviceInventory.entries, List.mem_append, List.mem_singleton, ne_eq, hother,
        not_false_eq_true, true_and]
      tauto

/-- Every device but the manager is listed, and nothing else. -/
theorem mem_entries_inventory {deviceList : List HNMDARecord} {e : InventoryEntry} :
    e ∈ (getDeviceInventory deviceList).entries ↔
      ∃ device ∈ deviceList, device.mgmtState ≠ .self ∧ e = inventoryEntry device := by
  have hloop : ∀ (l : List HNMDARecord) (inv : DeviceInventory),
      e ∈ (l.foldl inventoryStep inv).entries ↔
        e ∈ inv.entries ∨ ∃ device ∈ l, device.mgmtState ≠ .self ∧ e = inventoryEntry device := by
    intro l
    induction l with
    | nil => simp
    | cons device l ih =>
      intro inv
      rw [List.foldl_cons, ih, mem_entries_inventoryStep, List.exists_mem_cons_iff, or_assoc]
  unfold getDeviceInventory
  rw [hloop]
  simp [DeviceInventory.entries]

theorem mem_getDeviceListCopy {a : HNManagedDeviceArbiter} {r : HNMDARecord} :
    r ∈ a.getDeviceListCopy ↔ ∃ (key : Str) (device : HNMDARecord),
      a.deviceMap[key]? = some device ∧ device.copy = r := by
  unfold HNManagedDeviceArbiter.getDeviceListCopy
  rw [List.mem_map]
  constructor
  · rintro ⟨it, hit, rfl⟩
    exact ⟨it.1, it.2, Std.ExtTreeMap.mem_toList_iff_getElem?_eq_some.mp hit, rfl⟩
  · rintro ⟨key, device, hget, rfl⟩
    exact ⟨(key, device), Std.ExtTreeMap.mem_toList_iff_getElem?_eq_some.mpr hget, rfl⟩

/-! ## §2. The manager's record. -/

/-- The record is the manager's, and its two services are in it. -/
structure OwnServices (device : HNMDARecord) : Prop where
  state : device.mgmtState = .self
  healthSink : lit "hnsrv-health-sink" ∈ device.srvMapProvided
  logSink : lit "hnsrv-log-sink" ∈ device.srvMapProvided

/-- The manager is not treated as a device: its record stays what it was made,
it is sent no request, and it is not listed. -/
structure OwnKept (own : Str) (t : Trans Sys Label Event) : Prop where
  record : ∀ device, t.post.arbiter.deviceMap[own]? = some device → OwnServices device
  quiet : ∀ req, Event.request own req ∉ t.evts
  unlisted : ∀ e ∈ (getDeviceInventory t.post.arbiter.getDeviceListCopy).entries, e.hexID ≠ own

/-- The calls that write a management state leave the manager's alone. -/
def SparesOwn (own : Str) (u : Sys) : Label → Prop
  | .startDeviceMgmtCmd id => id = own → u.arbiter.deviceMap[own]? = none
  | .notifyDiscoverRemove event =>
    event.toRecord.getCRC32IDStr = own → u.arbiter.deviceMap[own]? = none
  | _ => True

/-- Where the monitor is in a case of the manager's record, it is that of SELF. -/
def OwnPhase (own : Str) (monitor : MonitorPhase) : Prop :=
  workingOn own monitor = true → monitor = .acting own .self ∨
    ∃ minValue, monitor = .writing own .self (.self, minValue)

structure OwnInv (mgmtDevice : HNodeDevice) (u : Sys) : Prop where
  manager : u.arbiter.mgmtDevice = mgmtDevice
  index : IndexInv u.arbiter
  record : ∀ device, u.arbiter.deviceMap[mgmtDevice.hnodeIDCRC32Str]? = some device →
    OwnServices device
  phase : OwnPhase mgmtDevice.hnodeIDCRC32Str u.monitor

variable {mgmtDevice : HNodeDevice} {u v : Sys} {l : Label} {es : List Event}

/-- The record `notifyDiscoverAdd` makes for the manager. -/
theorem ownServices_discovered {a : HNManagedDeviceArbiter} {record : HNMDARecord}
    (hown : record.getCRC32IDStr = a.getSelfCRC32IDStr) : OwnServices (discovered a record) := by
  rw [discovered, if_pos hown]
  obtain ⟨hhealth, hlog⟩ := initMgmtDevice_provides (a := a) record
  exact ⟨rfl, hhealth, hlog⟩

/-- A manager in SELF is not listed. -/
theorem unlisted_of_self {own : Str} {a : HNManagedDeviceArbiter} (hkeys : KeysAgree a)
    (hrecord : ∀ device, a.deviceMap[own]? = some device → device.mgmtState = .self) :
    ∀ e ∈ (getDeviceInventory a.getDeviceListCopy).entries, e.hexID ≠ own := by
  intro e he hid
  obtain ⟨r, hr, hother, rfl⟩ := mem_entries_inventory.mp he
  obtain ⟨key, device, hget, rfl⟩ := mem_getDeviceListCopy.mp hr
  -- the copy has the ID of the record, which is the record's key
  have hkey : key = own := (hkeys key device hget).1.symm.trans hid
  exact hother (hrecord device (hkey ▸ hget))

omit [Platform] in
theorem OwnPhase.acting {own : Str} {st : MgmtState} (h : OwnPhase own (.acting own st)) :
    st = .self := by
  rcases h (beq_self_eq_true own) with heq | ⟨_, heq⟩
  · exact (MonitorPhase.acting.inj heq).2
  · cases heq

omit [Platform] in
theorem OwnPhase.not_waiting {own : Str} {st : MgmtState} {op : RestOp} :
    ¬ OwnPhase own (.waiting own st op) := by
  intro h
  rcases h (beq_self_eq_true own) with heq | ⟨_, heq⟩ <;> cases heq

omit [Platform] in
theorem OwnPhase.writing {own : Str} {st : MgmtState} {next : MgmtState × Nat}
    (h : OwnPhase own (.writing own st next)) : next.1 = .self := by
  rcases h (beq_self_eq_true own) with heq | ⟨_, heq⟩
  · cases heq
  · rw [(MonitorPhase.writing.inj heq).2.2]

omit [Platform] in
theorem ownPhase_of_free {own : Str} {monitor : MonitorPhase}
    (hfree : workingOn own monitor = false) : OwnPhase own monitor := by
  intro hw
  rw [hfree] at hw
  cases hw

/-- What becomes of the manager's record, of the monitor in its case, and of the
requests to it, in a step that spares it. -/
theorem own_step {own : Str} (hself : u.arbiter.getSelfCRC32IDStr = own)
    (hrecord : ∀ device, u.arbiter.deviceMap[own]? = some device → OwnServices device)
    (hphase : OwnPhase own u.monitor) (hspares : SparesOwn own u l)
    (htook : RecordTook u own l v es) :
    (∀ device, v.arbiter.deviceMap[own]? = some device → OwnServices device) ∧
      OwnPhase own v.monitor ∧ ∀ req, Event.request own req ∉ es := by
  cases htook with
  | away same moved quiet =>
    refine ⟨fun device hget => hrecord device (same ▸ hget), ?_, quiet⟩
    rcases moved.free with heq | hfar
    · rw [heq]
      exact hphase
    · exact ownPhase_of_free hfar
  | appeared hid hnone after stays =>
    exact ⟨forall_record after (ownServices_discovered (hid.trans hself.symm)), stays ▸ hphase,
      fun _ => List.not_mem_nil⟩
  | @announced _ _ device hid hget after stays =>
    obtain ⟨hstate, hhealth, hlog⟩ := hrecord device hget
    rw [updateRecord_frame] at after
    exact ⟨forall_record after ⟨hstate, hhealth, hlog⟩, stays ▸ hphase, fun _ => List.not_mem_nil⟩
  -- the two calls that would write its state are not made for it
  | removed hid hget after stays => cases (hspares hid).symm.trans hget
  | @cmdSet _ _ device hget after stays =>
    obtain ⟨hstate, hhealth, hlog⟩ := hrecord device hget
    exact ⟨forall_record after ⟨hstate, hhealth, hlog⟩, stays ▸ hphase, fun _ => List.not_mem_nil⟩
  | cmdStarted hget after stays => cases (hspares rfl).symm.trans hget
  | @read _ device hat hget hbusy after goes =>
    obtain ⟨hstate, hhealth, hlog⟩ := hrecord device hget
    refine ⟨forall_record after ⟨hstate, hhealth, hlog⟩, ?_, fun _ => List.not_mem_nil⟩
    rw [goes, hstate]
    exact fun _ => Or.inl rfl
  | @alone _ st device hat hget hop after goes =>
    rw [hat] at hphase
    obtain rfl := hphase.acting
    obtain ⟨hstate, hhealth, hlog⟩ := hrecord device hget
    refine ⟨forall_record after ⟨hstate, hhealth, hlog⟩, ?_,
      request_not_mem_passedEvent own .self device own⟩
    rw [goes]
    exact fun _ => Or.inr ⟨10, rfl⟩
  | finished hat hget hop hstart after goes | requested hat hget hop hstart after goes
  | raised hat hget hop hstart after goes =>
    -- the case of SELF calls no helper
    rw [hat] at hphase
    obtain rfl := hphase.acting
    cases hop
  | replied hat hget hfinish after goes =>
    -- and so waits for no reply
    rw [hat] at hphase
    exact absurd hphase OwnPhase.not_waiting
  | @written _ st next device hat hget after goes =>
    rw [hat] at hphase
    obtain ⟨-, hhealth, hlog⟩ := hrecord device hget
    exact ⟨forall_record after ⟨hphase.writing, hhealth, hlog⟩, ownPhase_of_free goes,
      fun _ => List.not_mem_nil⟩

/-- **One step** that spares the manager's record keeps the manager apart. -/
theorem ownInv_step (hstable : CRC32StrStable) (hinv : OwnInv mgmtDevice u)
    (hspares : SparesOwn mgmtDevice.hnodeIDCRC32Str u l)
    (hstep : system.step u l = some (v, es)) :
    OwnInv mgmtDevice v ∧ OwnKept mgmtDevice.hnodeIDCRC32Str ⟨u, l, es, v⟩ := by
  have htook := took_of_step hstep
  have hself : u.arbiter.getSelfCRC32IDStr = mgmtDevice.hnodeIDCRC32Str := by
    unfold HNManagedDeviceArbiter.getSelfCRC32IDStr
    rw [hinv.manager]
  obtain ⟨hrecord, hphase, hquiet⟩ := own_step hself hinv.record hinv.phase hspares
    (recordTook_of_took htook _)
  have hindex := indexInv_step hstable hinv.index hstep
  exact ⟨⟨(settings_of_took htook).1.trans hinv.manager, hindex, hrecord, hphase⟩,
    hrecord, hquiet, unlisted_of_self hindex.keys fun device hget => (hrecord device hget).state⟩

/-- A step that leaves the manager's record in SELF has spared it. -/
theorem sparesOwn_of_kept {own : Str} (hstep : system.step u l = some (v, es))
    (hrecord : ∀ device, v.arbiter.deviceMap[own]? = some device → OwnServices device) :
    SparesOwn own u l := by
  have htook := recordTook_of_took (took_of_step hstep) own
  cases l with
  | startDeviceMgmtCmd id =>
    rintro rfl
    by_contra hknown
    obtain ⟨device, hget⟩ := Option.ne_none_iff_exists'.mp hknown
    obtain ⟨rfl, -⟩ := Prod.mk.inj (Option.some.inj hstep)
    have hafter : (u.arbiter.startDeviceMgmtCmd id).1.deviceMap[id]? =
        some (device.setManagementState .execCmd) := by
      simp only [HNManagedDeviceArbiter.startDeviceMgmtCmd, hget]
      exact (stores_setNextMonitorState u.arbiter id device .execCmd 0).get
    cases (hrecord _ hafter).state
  | notifyDiscoverRemove event =>
    rintro rfl
    by_contra hknown
    obtain ⟨device, hget⟩ := Option.ne_none_iff_exists'.mp hknown
    obtain ⟨rfl, -⟩ := Prod.mk.inj (Option.some.inj hstep)
    have hafter : (u.arbiter.notifyDiscoverRemove event.toRecord).deviceMap[
        event.toRecord.getCRC32IDStr]? = some (device.setManagementState .disappearing) := by
      simp only [HNManagedDeviceArbiter.notifyDiscoverRemove, hget]
      exact (stores_setDevice u.arbiter _ (device.setManagementState .disappearing)).get
    cases (hrecord _ hafter).state
  | _ => trivial

/-- **The manager is never treated as a device** exactly in the runs in which no
command is posted for its ID, and it is not reported as gone, once its record
is in the map. -/
theorem own_kept_iff (hstable : CRC32StrStable) (mgmtDevice : HNodeDevice)
    (caches : Platform.Caches) (ts : List (Trans Sys Label Event)) (s : Sys)
    (hr : Run system (Sys.init mgmtDevice caches) ts s) :
    (∀ t ∈ ts, OwnKept mgmtDevice.hnodeIDCRC32Str t) ↔
      StepsMeet (SparesOwn mgmtDevice.hnodeIDCRC32Str) ts := by
  refine (Run.kept_iff (I := OwnInv mgmtDevice) ?_ ?_ ?_ hr).symm
  · refine ⟨rfl, indexInv_init mgmtDevice caches, fun device hget => ?_, nofun⟩
    simp [Sys.init] at hget
  · exact fun u l v es hinv hspares hstep => ownInv_step hstable hinv hspares hstep
  · exact fun u l v es _ hstep hkept => sparesOwn_of_kept hstep hkept.record

end OwnRecord

/-! ## §3. The manager is announced, and claims itself. -/

section Sample

open RefPlatform

/-- The manager is found, its case runs, and it is announced once more. -/
def ownRun : List Label :=
  [.notifyDiscoverAdd sampleManagerFound, .notifyDiscoverAdd sampleDeviceFound, .wakeup,
    .readState, .act, .writeState, .readState, .act, .writeState,
    .notifyDiscoverAdd sampleManagerFound]

/-- The manager's record is in the map. -/
def knowsItself (s : Sys) : Bool :=
  (s.arbiter.deviceMap[sampleManager.hnodeIDCRC32Str]?).isSome

/-- The manager is known, and apart from its device. -/
theorem own_kept_sample :
    ∃ ts s, Run system (Sys.init sampleManager ()) ts s ∧ knowsItself s = true ∧
      ∀ t ∈ ts, OwnKept sampleManager.hnodeIDCRC32Str t := by
  obtain ⟨ts, s, hr, hp⟩ := Machine.exists_run_of_exec (M := system)
    (s := Sys.init sampleManager ()) (l := ownRun)
    (p := fun r => knowsItself r.2 && r.1.all fun t => ownRun.contains t.label)
    (by decide +kernel)
  obtain ⟨hknows, hall⟩ := Bool.and_eq_true_iff.mp hp
  refine ⟨ts, s, hr, hknows,
    (own_kept_iff crc32StrStable_ref sampleManager () ts s hr).mpr fun t ht => ?_⟩
  have hmem : t.label ∈ ownRun := by simpa using List.all_eq_true.mp hall t ht
  cases hl : t.label with
  | startDeviceMgmtCmd id =>
    rw [hl] at hmem
    simp [ownRun] at hmem
  | notifyDiscoverRemove event =>
    rw [hl] at hmem
    simp [ownRun] at hmem
  | _ => trivial

/-- A command is posted for the manager's own ID. -/
def claimsItselfRun : List Label :=
  [.notifyDiscoverAdd sampleManagerFound,
    .setDeviceMgmtCmdFromJSON sampleManager.hnodeIDCRC32Str
      (some (.object [(lit "command", stringField "claim")])),
    .startDeviceMgmtCmd sampleManager.hnodeIDCRC32Str, .wakeup, .readState, .act]

/-- A request to the device is among the events. -/
def contacted (id : Str) (es : List Event) : Bool :=
  es.any fun e =>
    match e with
    | .request crc32ID _ => crc32ID == id
    | _ => false

/-- **The manager claims itself**: it is sent a request, and listed. -/
theorem claimed_itself :
    ∃ ts s, Run system (Sys.init sampleManager ()) ts s ∧
      contacted sampleManager.hnodeIDCRC32Str (history ts) = true ∧
      ((getDeviceInventory s.arbiter.getDeviceListCopy).entries.map InventoryEntry.hexID =
        [sampleManager.hnodeIDCRC32Str]) ∧
      ¬ ∀ t ∈ ts, OwnKept sampleManager.hnodeIDCRC32Str t := by
  obtain ⟨ts, s, hr, hp⟩ := Machine.exists_run_of_exec (M := system)
    (s := Sys.init sampleManager ()) (l := claimsItselfRun)
    (p := fun r => contacted sampleManager.hnodeIDCRC32Str (history r.1) &&
      decide ((getDeviceInventory r.2.arbiter.getDeviceListCopy).entries.map
        InventoryEntry.hexID = [sampleManager.hnodeIDCRC32Str]))
    (by decide +kernel)
  obtain ⟨hcontacted, hlisted⟩ := Bool.and_eq_true_iff.mp hp
  refine ⟨ts, s, hr, hcontacted, of_decide_eq_true hlisted, fun hkept => ?_⟩
  obtain ⟨e, he, hreq⟩ := List.any_eq_true.mp hcontacted
  cases e with
  | request id req =>
    obtain ⟨t, ht, hmem⟩ := List.mem_flatMap.mp he
    exact (hkept t ht).quiet req (beq_iff_eq.mp hreq ▸ hmem)
  | _ => cases hreq

end Sample

end HNodeMgmt.Arbiter
