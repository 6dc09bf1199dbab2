/-
  HNodeMgmt.Arbiter.Reports — what the arbiter reports, in every reachable state.

  The inventory sorts the devices by their ownership and prints their
  management state; the two are written by different hands at different times.
  That they agree is an invariant: the ownership changes in three cases only,
  and while the monitor is in a case the record is in that state or in one of
  the two the main thread sets.

  Main results:
    * `fits_step`, `fits_run` — the table of states and ownerships.
    * `inventory_true` — every known device is listed exactly once, in the list
      of its state, and as owned only when it has named this manager.
-/
import Mathlib.Tactic.Common
import HNodeMgmt.Arbiter.OwnRecord
import HNodeMgmt.Arbiter.Ownership

namespace HNodeMgmt.Arbiter

open Lib

/-! ## §1. The table of states and ownerships. -/

/-- The ownerships a record may have in a state.  States that are not listed
say nothing of it. -/
def ownerFits (st : MgmtState) (ownerState : OwnerState) : Bool :=
  match st with
  | .unclaimed => ownerState == .available
  | .otherMgr => ownerState == .other
  | .notAvailable => ownerState == .unavailable
  | .discovered => ownerState == .notset || ownerState == .unknown
  | .srvProvideInfo | .srvMappingInfo | .srvMapUpdate | .active | .updateHealth
  | .updateStrref => ownerState == .mine
  | _ => true

/-- What the main thread makes of a state says nothing of the ownership. -/
def setByMain (st : MgmtState) : Bool := st == .execCmd || st == .disappearing

theorem ownerFits_setByMain {st : MgmtState} (h : setByMain st = true) (o : OwnerState) :
    ownerFits st o = true := by
  cases st <;> first | rfl | cases h

section Reports

variable [Platform]

/-- The record in a case that the monitor is in: the state is the one that was
read, or the main thread's, and the ownership is the one of the case. -/
structure CaseFits (st : MgmtState) (device : HNMDARecord) : Prop where
  state : device.mgmtState = st ∨ setByMain device.mgmtState = true
  owner : ownerFits st device.ownerState = true

/-- The same of wherever the monitor is. -/
def PhaseFits (key : Str) (device : HNMDARecord) : MonitorPhase → Prop
  | .acting id st => id = key → CaseFits st device
  | .waiting id st op => id = key → CaseFits st device ∧ ∃ cmdType, caseOp st cmdType = some op
  | .writing id _ next => id = key → ownerFits next.1 device.ownerState = true
  | _ => True

structure FitsInv (key : Str) (s : Sys) : Prop where
  known : workingOn key s.monitor = true → s.arbiter.deviceMap[key]? ≠ none
  record : ∀ device, s.arbiter.deviceMap[key]? = some device →
    ownerFits device.mgmtState device.ownerState = true ∧ PhaseFits key device s.monitor

variable {u v s : Sys} {key : Str} {l : Label} {es : List Event} {device device' : HNMDARecord}
  {st : MgmtState} {ts : List (Trans Sys Label Event)}

theorem CaseFits.record (h : CaseFits st device) :
    ownerFits device.mgmtState device.ownerState = true := by
  rcases h.state with heq | hmain
  · rw [heq]
    exact h.owner
  · exact ownerFits_setByMain hmain _

theorem phaseFits_of_free {monitor : MonitorPhase} (hfree : workingOn key monitor = false) :
    PhaseFits key device monitor := by
  cases monitor with
  | acting id st | waiting id st op | writing id st next =>
    intro heq
    simp [workingOn, heq] at hfree
  | idle | atDevice id | dead => trivial

/-- The main thread keeps the ownership, and the state or sets one of its own. -/
theorem PhaseFits.main {monitor : MonitorPhase} (h : PhaseFits key device monitor)
    (howner : device'.ownerState = device.ownerState)
    (hstate : device'.mgmtState = device.mgmtState ∨ setByMain device'.mgmtState = true) :
    PhaseFits key device' monitor := by
  have hcase : ∀ {st}, CaseFits st device → CaseFits st device' := fun hc =>
    ⟨hstate.elim (fun heq => heq ▸ hc.state) .inr, howner ▸ hc.owner⟩
  cases monitor with
  | acting id st => exact fun heq => hcase (h heq)
  | waiting id st op => exact fun heq => ⟨hcase (h heq).1, (h heq).2⟩
  | writing id st next => exact fun heq => howner ▸ h heq
  | idle | atDevice id | dead => trivial

/-- A case writes a state that fits the ownership its helper has left. -/
theorem ownerFits_nextState (a : HNManagedDeviceArbiter) (result : HNMDLResult)
    (h : ownerFits st device.ownerState = true) :
    ownerFits (nextState a device st result).1 device.ownerState = true := by
  cases st with
  | ownerInfo =>
    cases result with
    | failure => rfl
    | success =>
      simp only [nextState]
      cases device.ownerState <;> rfl
  | srvMapUpdate =>
    cases result with
    | failure => rfl
    | success =>
      simp only [nextState]
      split <;> exact h
  | _ => cases result <;> first | exact h | rfl

/-- A case with no helper leaves an ownership of its state. -/
theorem CaseFits.alone (h : CaseFits st device) : CaseFits st (caseOwnership st device) := by
  refine ⟨?_, ?_⟩
  · rw [caseOwnership_mgmtState]
    exact h.state
  · cases st <;> first | rfl | exact h.owner

/-- A reply changes the ownership only in states that say nothing of it. -/
theorem CaseFits.replied {op : RestOp} {cmdType : CmdType} (hop : caseOp st cmdType = some op)
    (hframe : ReplyFrame op device device') (h : CaseFits st device) : CaseFits st device' := by
  refine ⟨hframe.mgmtState ▸ h.state, ?_⟩
  by_cases howner : op = .updateDeviceOwnerInfo
  · subst howner
    obtain rfl := caseOp_ownerInfo hop
    rfl
  · rcases hframe.ownerState howner with heq | ⟨rfl, -⟩
    · rw [heq]
      exact h.owner
    · obtain rfl := caseOp_operationalInfo hop
      rfl

/-- **One step** keeps state and ownership together. -/
theorem fits_step (hinv : FitsInv key u) (htook : RecordTook u key l v es) : FitsInv key v := by
  refine ⟨htook.known hinv.known, ?_⟩
  cases htook with
  | away same moved quiet =>
    intro device hget
    obtain ⟨hrec, hphase⟩ := hinv.record device (same ▸ hget)
    rcases moved.free with heq | hfree
    · exact ⟨hrec, heq ▸ hphase⟩
    · exact ⟨hrec, phaseFits_of_free hfree⟩
  | @appeared event _ hid hnone after stays =>
    have hfree : workingOn key v.monitor = false := by
      rw [stays]
      exact Bool.eq_false_iff.mpr fun hw => hinv.known hw hnone
    refine forall_record after ⟨?_, phaseFits_of_free hfree⟩
    -- SELF goes with any ownership; DISCOVERED only with what an announcement leaves unsaid
    unfold discovered
    split
    next => rfl
    next =>
      show (event.toRecord.ownerState == .notset || event.toRecord.ownerState == .unknown) = true
      rw [toRecord_ownerState]
      rfl
  | @announced event _ device hid hget after stays =>
    obtain ⟨hrec, hphase⟩ := hinv.record device hget
    have hstate := updateRecord_mgmtState device event.toRecord
    have howner := updateRecord_ownerState device event.toRecord
    exact forall_record after ⟨by rw [hstate, howner]; exact hrec,
      stays ▸ hphase.main howner (.inl hstate)⟩
  | @removed event _ device hid hget after stays =>
    obtain ⟨-, hphase⟩ := hinv.record device hget
    exact forall_record after ⟨rfl, stays ▸ hphase.main rfl (.inr rfl)⟩
  | @cmdSet body _ device hget after stays =>
    obtain ⟨hrec, hphase⟩ := hinv.record device hget
    exact forall_record after ⟨hrec, stays ▸ hphase.main rfl (.inl rfl)⟩
  | @cmdStarted _ device hget after stays =>
    obtain ⟨-, hphase⟩ := hinv.record device hget
    exact forall_record after ⟨rfl, stays ▸ hphase.main rfl (.inr rfl)⟩
  | @read _ device hat hget hbusy after goes =>
    obtain ⟨hrec, -⟩ := hinv.record device hget
    refine forall_record after ⟨hrec, ?_⟩
    rw [goes]
    exact fun _ => ⟨.inl rfl, hrec⟩
  | @alone _ st device hat hget hop after goes =>
    obtain ⟨-, hphase⟩ := hinv.record device hget
    rw [hat] at hphase
    have hcase := (hphase rfl).alone
    refine forall_record after ⟨hcase.record, ?_⟩
    rw [goes]
    exact fun _ => ownerFits_nextState _ _ hcase.owner
  | @finished _ st device op result hat hget hop hstart after goes =>
    obtain ⟨hrec, hphase⟩ := hinv.record device hget
    rw [hat] at hphase
    obtain ⟨m, heq, -⟩ := start_device u.arbiter device op
    rw [heq] at after goes
    refine forall_record after ⟨hrec, ?_⟩
    rw [goes]
    exact fun _ => ownerFits_nextState _ _ (hphase rfl).owner
  | @requested _ st device op req hat hget hop hstart after goes =>
    obtain ⟨hrec, hphase⟩ := hinv.record device hget
    rw [hat] at hphase
    obtain ⟨m, heq, -⟩ := start_device u.arbiter device op
    rw [heq] at after
    refine forall_record after ⟨hrec, ?_⟩
    rw [goes]
    -- which case the request is of is kept with it: the reply is judged by that
    exact fun _ => ⟨⟨(hphase rfl).state, (hphase rfl).owner⟩, _, hop⟩
  | @raised _ st device op hat hget hop hstart after goes =>
    obtain ⟨hrec, -⟩ := hinv.record device hget
    obtain ⟨m, heq, -⟩ := start_device u.arbiter device op
    rw [heq] at after
    refine forall_record after ⟨hrec, ?_⟩
    -- the exception ends the monitor, and with it all that its phase would have to fit
    rw [goes]
    trivial
  | @replied _ st device op o result hat hget hfinish after goes =>
    obtain ⟨-, hphase⟩ := hinv.record device hget
    rw [hat] at hphase
    obtain ⟨hcase, cmdType, hop⟩ := hphase rfl
    have hcase' := hcase.replied hop (deviceGiven_frame u.arbiter device o op)
    refine forall_record after ⟨hcase'.record, ?_⟩
    rw [goes]
    exact fun _ => ownerFits_nextState _ _ hcase'.owner
  | @written _ st next device hat hget after goes =>
    obtain ⟨-, hphase⟩ := hinv.record device hget
    rw [hat] at hphase
    exact forall_record after ⟨hphase rfl, phaseFits_of_free goes⟩

/-- **Every reachable state**: a record's ownership is one its state allows. -/
theorem fits_run {mgmtDevice : HNodeDevice} {caches : Platform.Caches}
    (hr : Run system (Sys.init mgmtDevice caches) ts s)
    (hget : s.arbiter.deviceMap[key]? = some device) :
    ownerFits device.mgmtState device.ownerState = true := by
  have hinv : FitsInv key s := by
    have h0 : FitsInv key (Sys.init mgmtDevice caches) := by
      refine ⟨fun hw => absurd hw Bool.false_ne_true, fun d hd => ?_⟩
      simp [Sys.init] at hd
    exact Run.invariant (P := FitsInv key) h0 (fun u l v es hinv hstep =>
      fits_step hinv (recordTook_of_took (took_of_step hstep) key)) hr
  exact (hinv.record device hget).1

/-! ## §2. The inventory. -/

omit [Platform] in
/-- The lists of the inventory. -/
inductive InventoryList where
  | owned
  | unclaimed
  | unavailable
  deriving DecidableEq, Repr

omit [Platform] in
/-- The list an ownership is reported in. -/
def listOf : OwnerState → InventoryList
  | .mine => .owned
  | .available => .unclaimed
  | _ => .unavailable

/-- The device is reported in the list. -/
def reportedIn (list : InventoryList) (device : HNMDARecord) : Bool :=
  device.mgmtState != .self && listOf device.ownerState == list

/-- The three lists, each as a part of the list of devices. -/
theorem getDeviceInventory_eq (deviceList : List HNMDARecord) :
    getDeviceInventory deviceList =
      { ownedDevices := (deviceList.filter (reportedIn .owned)).map inventoryEntry
        unclaimedDevices := (deviceList.filter (reportedIn .unclaimed)).map inventoryEntry
        unavailableDevices :=
          (deviceList.filter (reportedIn .unavailable)).map inventoryEntry } := by
  have hloop : ∀ (l : List HNMDARecord) (inv : DeviceInventory), l.foldl inventoryStep inv =
      { ownedDevices := inv.ownedDevices ++ (l.filter (reportedIn .owned)).map inventoryEntry
        unclaimedDevices :=
          inv.unclaimedDevices ++ (l.filter (reportedIn .unclaimed)).map inventoryEntry
        unavailableDevices :=
          inv.unavailableDevices ++ (l.filter (reportedIn .unavailable)).map inventoryEntry } := by
    intro l
    induction l with
    | nil => intro inv; simp
    | cons d l ih =>
      intro inv
      rw [List.foldl_cons, ih]
      unfold inventoryStep
      by_cases hself : d.mgmtState = .self
      · simp [reportedIn, hself]
      · cases howner : d.ownerState <;> simp [reportedIn, hself, howner, listOf]
  rw [getDeviceInventory, hloop]
  simp

/-- The inventory of the devices as they are. -/
def HNManagedDeviceArbiter.inventory (a : HNManagedDeviceArbiter) : DeviceInventory :=
  getDeviceInventory a.getDeviceListCopy

/-- What the inventory says of the records that it is made of. -/
structure InventoryLists (a : HNManagedDeviceArbiter) : Prop where
  /-- No device is listed twice. -/
  once : (a.inventory.entries.map InventoryEntry.hexID).Nodup
  /-- The known devices are listed, but for the one that reports itself elsewhere. -/
  known : ∀ id : Str, id ∈ a.inventory.entries.map InventoryEntry.hexID ↔
    ∃ device : HNMDARecord, a.deviceMap[id]? = some device ∧ device.mgmtState ≠ .self
  /-- The list is the one of the management state. -/
  unclaimed : ∀ (id : Str) (device : HNMDARecord), a.deviceMap[id]? = some device →
    device.mgmtState = .unclaimed → id ∈ a.inventory.unclaimedDevices.map InventoryEntry.hexID
  managed : ∀ (id : Str) (device : HNMDARecord), a.deviceMap[id]? = some device →
    managedState device.mgmtState = true →
    id ∈ a.inventory.ownedDevices.map InventoryEntry.hexID
  unavailable : ∀ (id : Str) (device : HNMDARecord), a.deviceMap[id]? = some device →
    device.mgmtState = .otherMgr ∨ device.mgmtState = .notAvailable ∨
      device.mgmtState = .discovered →
    id ∈ a.inventory.unavailableDevices.map InventoryEntry.hexID
  /-- What is listed as owned has a record that says so. -/
  mine : ∀ id ∈ a.inventory.ownedDevices.map InventoryEntry.hexID,
    ∃ device : HNMDARecord, a.deviceMap[id]? = some device ∧ device.ownerState = .mine

/-- What the inventory of a run's state says. -/
structure InventoryTrue (mgmtDevice : HNodeDevice) (ts : List (Trans Sys Label Event)) (s : Sys) :
    Prop extends InventoryLists s.arbiter where
  /-- A device that is listed as owned has said so. -/
  owned : ∀ id ∈ s.arbiter.inventory.ownedDevices.map InventoryEntry.hexID,
    id ≠ mgmtDevice.hnodeIDCRC32Str → lastReplyNamesManager mgmtDevice (history ts) id

variable {a : HNManagedDeviceArbiter}

/-- A list of the inventory has the IDs of the records reported in it. -/
theorem mem_hexIDs (hkeys : KeysAgree a) {list : InventoryList} {id : Str} :
    id ∈ ((a.getDeviceListCopy.filter (reportedIn list)).map inventoryEntry).map
        InventoryEntry.hexID ↔
      ∃ device : HNMDARecord, a.deviceMap[id]? = some device ∧ reportedIn list device = true := by
  simp only [HNManagedDeviceArbiter.getDeviceListCopy, List.mem_map, List.mem_filter]
  constructor
  · rintro ⟨e, ⟨d, ⟨⟨it, hit, rfl⟩, hin⟩, rfl⟩, rfl⟩
    have hget := Std.ExtTreeMap.mem_toList_iff_getElem?_eq_some.mp hit
    -- the entry's ID is the key of its record
    have hid : (inventoryEntry it.2.copy).hexID = it.1 := (hkeys it.1 it.2 hget).1
    rw [hid]
    exact ⟨it.2, hget, hin⟩
  · rintro ⟨device, hget, hin⟩
    have hit := Std.ExtTreeMap.mem_toList_iff_getElem?_eq_some.mpr hget
    exact ⟨_, ⟨_, ⟨⟨_, hit, rfl⟩, hin⟩, rfl⟩, (hkeys id device hget).1⟩

/-- The IDs of the list of copies are the keys of the map. -/
theorem hexIDs_copies (hkeys : KeysAgree a) :
    (a.getDeviceListCopy.map inventoryEntry).map InventoryEntry.hexID = a.deviceMap.keys := by
  rw [HNManagedDeviceArbiter.getDeviceListCopy, List.map_map, List.map_map,
    ← Std.ExtTreeMap.map_fst_toList_eq_keys]
  refine List.map_congr_left fun it hit => ?_
  exact (hkeys it.1 it.2 (Std.ExtTreeMap.mem_toList_iff_getElem?_eq_some.mp hit)).1

omit [Platform] in
/-- The IDs in the three lists together, whatever is listed first. -/
theorem mem_entries_iff {inv : DeviceInventory} {id : Str} :
    id ∈ inv.entries.map InventoryEntry.hexID ↔
      id ∈ inv.ownedDevices.map InventoryEntry.hexID ∨
      id ∈ inv.unclaimedDevices.map InventoryEntry.hexID ∨
      id ∈ inv.unavailableDevices.map InventoryEntry.hexID := by
  simp only [DeviceInventory.entries, List.map_append, List.mem_append, or_assoc]

/-- No device is in two lists, nor in one list twice. -/
theorem inventory_once (hkeys : KeysAgree a) :
    (a.inventory.entries.map InventoryEntry.hexID).Nodup := by
  have hlist : ∀ list, (((a.getDeviceListCopy.filter (reportedIn list)).map inventoryEntry).map
      InventoryEntry.hexID).Nodup := by
    intro list
    have hall : ((a.getDeviceListCopy.map inventoryEntry).map InventoryEntry.hexID).Nodup :=
      hexIDs_copies hkeys ▸ a.deviceMap.nodup_keys
    exact hall.sublist ((List.filter_sublist.map _).map _)
  -- a record is reported in one list
  have hdisjoint : ∀ {list list'}, list ≠ list' → ∀ id,
      id ∈ ((a.getDeviceListCopy.filter (reportedIn list)).map inventoryEntry).map
        InventoryEntry.hexID →
      id ∉ ((a.getDeviceListCopy.filter (reportedIn list')).map inventoryEntry).map
        InventoryEntry.hexID := by
    intro list list' hne id hin hin'
    obtain ⟨d, hd, hr⟩ := (mem_hexIDs hkeys).mp hin
    obtain ⟨d', hd', hr'⟩ := (mem_hexIDs hkeys).mp hin'
    obtain rfl := Option.some.inj (hd.symm.trans hd')
    simp only [reportedIn, Bool.and_eq_true, beq_iff_eq] at hr hr'
    exact hne (hr.2.symm.trans hr'.2)
  rw [HNManagedDeviceArbiter.inventory, getDeviceInventory_eq, DeviceInventory.entries,
    List.map_append, List.map_append, List.nodup_append, List.nodup_append]
  refine ⟨⟨hlist _, hlist _, fun x hx y hy heq => ?_⟩, hlist _, fun x hx y hy heq => ?_⟩
  · exact hdisjoint (by decide) x hx (heq ▸ hy)
  · rcases List.mem_append.mp hx with hx | hx
    · exact hdisjoint (by decide) x hx (heq ▸ hy)
    · exact hdisjoint (by decide) x hx (heq ▸ hy)

/-- The lists are right where the keys are and the ownerships fit the states. -/
theorem inventoryLists_of (hkeys : KeysAgree a)
    (hfits : ∀ {id : Str} {device : HNMDARecord}, a.deviceMap[id]? = some device →
      ownerFits device.mgmtState device.ownerState = true) : InventoryLists a := by
  have hlists := getDeviceInventory_eq a.getDeviceListCopy
  -- a state that is not SELF, and the ownership it goes with
  have hreported : ∀ {id device} (list : InventoryList), a.deviceMap[id]? = some device →
      device.mgmtState ≠ .self → listOf device.ownerState = list →
      id ∈ ((a.getDeviceListCopy.filter (reportedIn list)).map inventoryEntry).map
        InventoryEntry.hexID := by
    intro id device list hget hself hlist
    refine (mem_hexIDs hkeys).mpr ⟨device, hget, ?_⟩
    simp [reportedIn, hself, hlist]
  refine ⟨inventory_once hkeys, fun id => ?_, fun id device hget hst => ?_,
    fun id device hget hst => ?_, fun id device hget hst => ?_, fun id hmem => ?_⟩
  · rw [mem_entries_iff, HNManagedDeviceArbiter.inventory, hlists]
    constructor
    · rintro (h | h | h) <;>
      · obtain ⟨device, hget, hin⟩ := (mem_hexIDs hkeys).mp h
        simp only [reportedIn, Bool.and_eq_true, bne_iff_ne] at hin
        exact ⟨device, hget, hin.1⟩
    · rintro ⟨device, hget, hself⟩
      cases hlist : listOf device.ownerState with
      | owned => exact .inl (hreported .owned hget hself hlist)
      | unclaimed => exact .inr (.inl (hreported .unclaimed hget hself hlist))
      | unavailable => exact .inr (.inr (hreported .unavailable hget hself hlist))
  · rw [HNManagedDeviceArbiter.inventory, hlists]
    have hfits := hfits hget
    rw [hst] at hfits
    refine hreported .unclaimed hget (by rw [hst]; nofun) ?_
    rw [beq_iff_eq.mp hfits]
    rfl
  · rw [HNManagedDeviceArbiter.inventory, hlists]
    have hfits := hfits hget
    have hmine : device.ownerState = .mine := by
      generalize device.mgmtState = st at hst hfits
      cases st <;> first | exact beq_iff_eq.mp hfits | cases hst
    refine hreported .owned hget (fun hself => ?_) (by rw [hmine]; rfl)
    rw [hself] at hst
    cases hst
  · rw [HNManagedDeviceArbiter.inventory, hlists]
    have hfits := hfits hget
    refine hreported .unavailable hget (fun hself => ?_) ?_
    · rw [hself] at hst
      simp at hst
    · rcases hst with hst | hst | hst <;> rw [hst] at hfits
      · rw [beq_iff_eq.mp hfits]
        rfl
      · rw [beq_iff_eq.mp hfits]
        rfl
      · rcases (Bool.or_eq_true _ _).mp hfits with h | h <;>
        · rw [beq_iff_eq.mp h]
          rfl
  · rw [HNManagedDeviceArbiter.inventory, hlists] at hmem
    obtain ⟨device, hget, hin⟩ := (mem_hexIDs hkeys).mp hmem
    refine ⟨device, hget, ?_⟩
    simp only [reportedIn, Bool.and_eq_true, beq_iff_eq] at hin
    generalize device.ownerState = o at hin
    cases o <;> first | rfl | cases hin.2

/-- **The inventory is true.**  In every reachable state each known device other
than one in SELF is listed exactly once, in the list of its management state
where that is at rest, and a device is listed as owned only if the last of its
owner replies named this manager. -/
theorem inventory_true (hstable : CRC32StrStable) (mgmtDevice : HNodeDevice)
    (caches : Platform.Caches) (ts : List (Trans Sys Label Event)) (s : Sys)
    (hr : Run system (Sys.init mgmtDevice caches) ts s) : InventoryTrue mgmtDevice ts s := by
  have hlists : InventoryLists s.arbiter :=
    inventoryLists_of (indexInv_run hstable hr).keys fun hget => fits_run hr hget
  refine ⟨hlists, fun id hmem hne => ?_⟩
  obtain ⟨device, hget, hmine⟩ := hlists.mine id hmem
  exact ((ownedInv_run hr).records id device hget hne).mine hmine

end Reports

/-! ### The manager has set its device up. -/

section Sample

open RefPlatform

/-- The device is listed as owned, and it has said so. -/
theorem inventory_true_sample :
    ∃ ts s, Run system (Sys.init sampleManager ()) ts s ∧
      s.arbiter.inventory.ownedDevices.map InventoryEntry.hexID = [lit "4900fb4e"] ∧
      InventoryTrue sampleManager ts s := by
  obtain ⟨ts, s, hr, hp⟩ := Machine.exists_run_of_exec (M := system)
    (s := Sys.init sampleManager ()) (l := sampleRun)
    (p := fun r => r.2.arbiter.inventory.ownedDevices.map InventoryEntry.hexID ==
      [lit "4900fb4e"]) (by decide +kernel)
  exact ⟨ts, s, hr, beq_iff_eq.mp hp, inventory_true crc32StrStable_ref sampleManager () ts s hr⟩

end Sample

end HNodeMgmt.Arbiter
