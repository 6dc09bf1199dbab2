/-
  HNodeMgmt.Arbiter.Indexes — the service indexes against the records.

  `m_providerMap` and `m_servicesMap` are derived from the records but kept
  beside them, and rebuilt only when a reply says that something has changed.
  They hold no phantoms: types only ever leave a record together with a
  rebuild.  They do miss things: the built-in services of the manager's own
  record are never indexed when it is discovered, and a reply that raises
  after it has added a type leaves the type in the record only.

  Main results:
    * `no_phantoms` — over every run, keys, IDs, endpoint types and both
      indexes agree, and the reports never meet a missing device.
    * `indexes_complete_iff` — a run keeps the indexes complete EXACTLY when
      it has neither of the two steps above.
-/
import Mathlib.Tactic.Common
import HNodeMgmt.Arbiter.Steps

namespace HNodeMgmt.Arbiter

open Lib

section Indexes

variable [Platform]

/-! ## §1. The two directions, for either index. -/

/-- Keys are the CRC32 strings of their records, and endpoints are stored under
their types. -/
def KeysAgree (a : HNManagedDeviceArbiter) : Prop :=
  ∀ (key : Str) (device : HNMDARecord), a.deviceMap[key]? = some device →
    device.getCRC32IDStr = key ∧ Keyed device.srvMapProvided ∧ Keyed device.srvMapDesired

/-- Whatever is listed is a known device with the type. -/
def NoPhantom (services : HNMDARecord → SrvMap) (index : StrMap (List Str))
    (a : HNManagedDeviceArbiter) : Prop :=
  ∀ t id : Str, id ∈ listedUnder index t →
    ∃ device : HNMDARecord, a.deviceMap[id]? = some device ∧ t ∈ services device

/-- Whatever a known device has is listed. -/
def NoGap (services : HNMDARecord → SrvMap) (index : StrMap (List Str))
    (a : HNManagedDeviceArbiter) : Prop :=
  ∀ (key : Str) (device : HNMDARecord) (t : Str), a.deviceMap[key]? = some device →
    t ∈ services device → device.getCRC32IDStr ∈ listedUnder index t

variable {a a' : HNManagedDeviceArbiter} {id : Str} {device device' : HNMDARecord}
  {services : HNMDARecord → SrvMap} {index : StrMap (List Str)}

theorem KeysAgree.stores (h : KeysAgree a) (hstores : Stores a a' id device')
    (hid : device'.getCRC32IDStr = id) (hprovided : Keyed device'.srvMapProvided)
    (hdesired : Keyed device'.srvMapDesired) : KeysAgree a' := by
  intro key d hd
  by_cases heq : id = key
  · subst heq
    obtain rfl : device' = d := Option.some.inj (hstores.get.symm.trans hd)
    exact ⟨hid, hprovided, hdesired⟩
  · rw [hstores.get_ne heq] at hd
    exact h key d hd

/-- A record that keeps its types makes no phantom. -/
theorem NoPhantom.stores (h : NoPhantom services index a) (hstores : Stores a a' id device')
    (hkeep : ∀ d : HNMDARecord, a.deviceMap[id]? = some d →
      ∀ t, t ∈ services d → t ∈ services device') : NoPhantom services index a' := by
  intro t id' hlisted
  obtain ⟨d, hd, ht⟩ := h t id' hlisted
  by_cases heq : id = id'
  · subst heq
    exact ⟨device', hstores.get, hkeep d hd t ht⟩
  · exact ⟨d, (hstores.get_ne heq).trans hd, ht⟩

/-- A record that gains no type leaves no gap. -/
theorem NoGap.stores (h : NoGap services index a) (hget : a.deviceMap[id]? = some device)
    (hstores : Stores a a' id device') (hid : device'.getCRC32IDStr = device.getCRC32IDStr)
    (hkeep : ∀ t, t ∈ services device' → t ∈ services device) : NoGap services index a' := by
  intro key d t hd ht
  by_cases heq : id = key
  · subst heq
    obtain rfl : device' = d := Option.some.inj (hstores.get.symm.trans hd)
    rw [hid]
    exact h id device t hget (hkeep t ht)
  · rw [hstores.get_ne heq] at hd
    exact h key d t hd ht

/-- What a rebuild over `services` installs. -/
private theorem rebuilt_iff (hkeys : KeysAgree a) {types : HNMDARecord → List Str}
    (hexact : ∀ t id, id ∈ listedUnder index t ↔ ∃ (key : Str) (d : HNMDARecord),
      a.deviceMap[key]? = some d ∧ d.getCRC32IDStr = id ∧ t ∈ types d)
    (htypes : ∀ (key : Str) (d : HNMDARecord), a.deviceMap[key]? = some d →
      types d = (services d).keys) :
    NoPhantom services index a ∧ NoGap services index a := by
  constructor
  · intro t id hlisted
    obtain ⟨key, d, hd, hcrc, ht⟩ := (hexact t id).mp hlisted
    obtain rfl : key = id := (hkeys key d hd).1.symm.trans hcrc
    rw [htypes key d hd, Std.ExtTreeMap.mem_keys] at ht
    exact ⟨d, hd, ht⟩
  · intro key d t hd ht
    apply (hexact t _).mpr
    refine ⟨key, d, hd, rfl, ?_⟩
    rw [htypes key d hd, Std.ExtTreeMap.mem_keys]
    exact ht

/-- **After a rebuild** the provider index has neither. -/
theorem rebuildSrvProviderMap_agrees (hkeys : KeysAgree a) :
    NoPhantom HNMDARecord.srvMapProvided a.rebuildSrvProviderMap.providerMap a ∧
      NoGap HNMDARecord.srvMapProvided a.rebuildSrvProviderMap.providerMap a :=
  rebuilt_iff hkeys (fun _ _ => rebuildSrvProviderMap_exact) fun key d hd =>
    srvTSList_eq_keys (hkeys key d hd).2.1

/-- **After a rebuild** the index of desired services has neither. -/
theorem rebuildSrvMappings_agrees (hkeys : KeysAgree a) :
    NoPhantom HNMDARecord.srvMapDesired a.rebuildSrvMappings.servicesMap a ∧
      NoGap HNMDARecord.srvMapDesired a.rebuildSrvMappings.servicesMap a :=
  rebuilt_iff hkeys (fun _ _ => rebuildSrvMappings_exact) fun key d hd =>
    srvTSList_eq_keys (hkeys key d hd).2.2

/-! ## §2. What a step does to them. -/

/-- Nothing the indexes read has changed. -/
structure SameIndexed (a a' : HNManagedDeviceArbiter) : Prop where
  provider : a'.providerMap = a.providerMap
  services : a'.servicesMap = a.servicesMap
  known : ∀ (key : Str) (device : HNMDARecord), a.deviceMap[key]? = some device →
    ∃ device' : HNMDARecord, a'.deviceMap[key]? = some device' ∧
      (∀ t, t ∈ device.srvMapProvided → t ∈ device'.srvMapProvided) ∧
      (∀ t, t ∈ device.srvMapDesired → t ∈ device'.srvMapDesired)
  records : ∀ (key : Str) (device' : HNMDARecord), a'.deviceMap[key]? = some device' →
    ∃ device : HNMDARecord, a.deviceMap[key]? = some device ∧
      device'.getCRC32IDStr = device.getCRC32IDStr ∧
      device'.srvMapProvided = device.srvMapProvided ∧
      (Keyed device.srvMapDesired → Keyed device'.srvMapDesired) ∧
      ∀ t, t ∈ device'.srvMapDesired → t ∈ device.srvMapDesired

theorem sameIndexed_refl (a : HNManagedDeviceArbiter) : SameIndexed a a :=
  ⟨rfl, rfl, fun _ d hd => ⟨d, hd, fun _ ht => ht, fun _ ht => ht⟩,
    fun _ d hd => ⟨d, hd, rfl, rfl, fun hk => hk, fun _ ht => ht⟩⟩

/-- A record is rewritten. -/
theorem sameIndexed_of_stores (hget : a.deviceMap[id]? = some device)
    (hstores : Stores a a' id device') (hprov : a'.providerMap = a.providerMap)
    (hserv : a'.servicesMap = a.servicesMap) (hid : device'.getCRC32IDStr = device.getCRC32IDStr)
    (hsp : device'.srvMapProvided = device.srvMapProvided)
    (hkd : Keyed device.srvMapDesired → Keyed device'.srvMapDesired)
    (hsd : ∀ t, t ∈ device'.srvMapDesired ↔ t ∈ device.srvMapDesired) : SameIndexed a a' := by
  refine ⟨hprov, hserv, fun key d hd => ?_, fun key d' hd' => ?_⟩
  · by_cases heq : id = key
    · subst heq
      obtain rfl : device = d := Option.some.inj (hget.symm.trans hd)
      exact ⟨device', hstores.get, fun t ht => hsp ▸ ht, fun t ht => (hsd t).mpr ht⟩
    · exact ⟨d, (hstores.get_ne heq).trans hd, fun _ ht => ht, fun _ ht => ht⟩
  · by_cases heq : id = key
    · subst heq
      obtain rfl : device' = d' := Option.some.inj (hstores.get.symm.trans hd')
      exact ⟨device, hget, hid, hsp, hkd, fun t ht => (hsd t).mp ht⟩
    · rw [hstores.get_ne heq] at hd'
      exact ⟨d', hd', rfl, rfl, fun hk => hk, fun _ ht => ht⟩

/-- The usual case: a field that has nothing to do with services is written. -/
theorem sameIndexed_rewrite (hget : a.deviceMap[id]? = some device)
    (hstores : Stores a a' id device') (hprov : a'.providerMap = a.providerMap)
    (hserv : a'.servicesMap = a.servicesMap) (hid : device'.getCRC32IDStr = device.getCRC32IDStr)
    (hsp : device'.srvMapProvided = device.srvMapProvided)
    (hsd : device'.srvMapDesired = device.srvMapDesired) : SameIndexed a a' := by
  apply sameIndexed_of_stores hget hstores hprov hserv hid hsp
  · rw [hsd]
    exact fun hk => hk
  · intro t
    rw [hsd]

/-- What the hnode2 library promises: the text of an ID gives back an ID with
the same CRC32 string. -/
def CRC32StrStable : Prop :=
  ∀ old hnodeID : Platform.HNodeID,
    Platform.getCRC32AsHexStr (Platform.setFromStr old (Platform.getStr hnodeID)) =
      Platform.getCRC32AsHexStr hnodeID

/-- A known ID is announced again. -/
theorem sameIndexed_updateRecord (hstable : CRC32StrStable) (hkeys : KeysAgree a)
    {record known : HNMDARecord} (hget : a.deviceMap[record.getCRC32IDStr]? = some known) :
    SameIndexed a (a.notifyDiscoverAdd record) := by
  have hrest := notifyDiscoverAdd_rest a record
  apply sameIndexed_rewrite hget (notifyDiscoverAdd_known hget)
  · rw [hrest]
  · rw [hrest]
  · rw [updateRecord_getCRC32IDStr, HNMDARecord.getHNodeIDStr, hstable]
    exact ((hkeys _ known hget).1).symm
  · exact updateRecord_srvMapProvided known record
  · exact updateRecord_srvMapDesired known record

/-- The first half of a helper. -/
theorem sameIndexed_start (hkeys : KeysAgree a) (hget : a.deviceMap[id]? = some device)
    (op : RestOp) : SameIndexed a (a.setDevice id (op.start a device).1) := by
  obtain ⟨m, heq, hm⟩ := start_device a device op
  obtain ⟨hkm, hmem⟩ := hm (hkeys id device hget).2.2
  rw [heq]
  exact sameIndexed_of_stores hget (stores_setDevice a id { device with srvMapDesired := m })
    rfl rfl rfl rfl (fun _ => hkm) hmem

/-- The second half of a helper that does not read services. -/
theorem sameIndexed_arbiterAfter (hget : a.deviceMap[id]? = some device) (body : Body)
    {op : RestOp} (hp : op ≠ .updateDeviceServicesProvideInfo)
    (hd : op ≠ .updateDeviceServicesMappingInfo) :
    SameIndexed a (op.arbiterAfter a id device body) := by
  have hframe := deviceAfter_frame a device body op
  have hstores := (stores_arbiterAfter hget body op).1
  apply sameIndexed_rewrite hget hstores
  · cases op <;> first | rfl | exact absurd rfl hp | exact absurd rfl hd
  · cases op <;> first | rfl | exact absurd rfl hp | exact absurd rfl hd
  · exact congrArg Platform.getCRC32AsHexStr hframe.hnodeID
  · exact hframe.provided hp
  · exact hframe.desired hd

/-- The steps that change what the indexes are about: a new ID, and an OK reply
about services. -/
inductive Reindexes (s s' : Sys) (l : Label) : Prop
  | discovery (event : DiscoverEvent) (hl : l = .notifyDiscoverAdd event)
      (hnone : s.arbiter.deviceMap[event.toRecord.getCRC32IDStr]? = none)
      (hs' : s'.arbiter = s.arbiter.notifyDiscoverAdd event.toRecord)
  | provided (id : Str) (st : MgmtState) (device : HNMDARecord) (o : RestOutcome) (body : Body)
      (hl : l = .reply o) (hphase : s.monitor = .waiting id st .updateDeviceServicesProvideInfo)
      (hget : s.arbiter.deviceMap[id]? = some device) (hok : o.receive = .ok body)
      (hs' : s'.arbiter = (storeProvided s.arbiter id device body).1)
  | desired (id : Str) (st : MgmtState) (device : HNMDARecord) (o : RestOutcome) (body : Body)
      (hl : l = .reply o) (hphase : s.monitor = .waiting id st .updateDeviceServicesMappingInfo)
      (hget : s.arbiter.deviceMap[id]? = some device) (hok : o.receive = .ok body)
      (hs' : s'.arbiter = (storeDesired s.arbiter id device body).1)

/-- **What a step does to the indexes**: one of those three things, or nothing
they read. -/
theorem step_indexed (hstable : CRC32StrStable) {s s' : Sys} {l : Label} {es : List Event}
    (hkeys : KeysAgree s.arbiter) (hstep : system.step s l = some (s', es)) :
    SameIndexed s.arbiter s'.arbiter ∨ Reindexes s s' l := by
  cases took_of_step hstep with
  | add event =>
    cases hget : s.arbiter.deviceMap[event.toRecord.getCRC32IDStr]? with
    | none => exact Or.inr (.discovery event rfl hget rfl)
    | some known => exact Or.inl (sameIndexed_updateRecord hstable hkeys hget)
  | remove event =>
    left
    show SameIndexed s.arbiter (s.arbiter.notifyDiscoverRemove event.toRecord)
    unfold HNManagedDeviceArbiter.notifyDiscoverRemove
    cases hget : s.arbiter.deviceMap[event.toRecord.getCRC32IDStr]? with
    | none => exact sameIndexed_refl s.arbiter
    | some known =>
      exact sameIndexed_rewrite hget (stores_setDevice s.arbiter _ _) rfl rfl rfl rfl rfl
  | setCmd id body =>
    left
    show SameIndexed s.arbiter (s.arbiter.setDeviceMgmtCmdFromJSON id body).1
    unfold HNManagedDeviceArbiter.setDeviceMgmtCmdFromJSON
    cases hget : s.arbiter.deviceMap[id]? with
    | none => exact sameIndexed_refl s.arbiter
    | some known =>
      exact sameIndexed_rewrite hget (stores_setDevice s.arbiter _ _) rfl rfl rfl rfl rfl
  | startCmd id =>
    left
    show SameIndexed s.arbiter (s.arbiter.startDeviceMgmtCmd id).1
    unfold HNManagedDeviceArbiter.startDeviceMgmtCmd
    cases hget : s.arbiter.deviceMap[id]? with
    | none => exact sameIndexed_refl s.arbiter
    | some known =>
      exact sameIndexed_rewrite hget (stores_setNextMonitorState s.arbiter _ _ _ _) rfl rfl rfl
        rfl rfl
  | wakeup phase hphase hnext =>
    obtain ⟨_, _, hknown, hrecords⟩ := sameIndexed_refl s.arbiter
    exact Or.inl ⟨rfl, rfl, hknown, hrecords⟩
  | skip id device hphase hget hidle => exact Or.inl (sameIndexed_refl s.arbiter)
  | read id device hphase hget hbusy => exact Or.inl (sameIndexed_refl s.arbiter)
  | actAlone id st device hphase hget hop =>
    left
    -- a case without an operation touches at most the ownership, which no index reads
    have hown : ∃ os, caseOwnership st device = { device with ownerState := os } := by
      cases st <;> exact ⟨_, rfl⟩
    obtain ⟨os, heq⟩ := hown
    show SameIndexed s.arbiter (s.arbiter.setDevice id (caseOwnership st device))
    rw [heq]
    exact sameIndexed_rewrite hget
      (stores_setDevice s.arbiter id { device with ownerState := os }) rfl rfl rfl rfl rfl
  | actFinished id st device op result hphase hget hop hstart =>
    exact Or.inl (sameIndexed_start hkeys hget op)
  | actRequest id st device op req hphase hget hop hstart =>
    exact Or.inl (sameIndexed_start hkeys hget op)
  | actRaised id st device op hphase hget hop hstart =>
    exact Or.inl (sameIndexed_start hkeys hget op)
  | replyRaised id st op device o hphase hget hfinish => exact Or.inl (sameIndexed_refl s.arbiter)
  | replyDone id st op device o a' result hphase hget hfinish hstores =>
    -- of the bodies that are taken in, those of the two service lists reach the indexes
    rcases finish_cases hfinish with ⟨rfl, -⟩ | ⟨body, hok, rfl⟩
    · exact Or.inl (sameIndexed_refl _)
    · by_cases hp : op = .updateDeviceServicesProvideInfo
      · subst hp
        exact Or.inr (.provided id st device o body rfl hphase hget hok rfl)
      · by_cases hd : op = .updateDeviceServicesMappingInfo
        · subst hd
          exact Or.inr (.desired id st device o body rfl hphase hget hok rfl)
        · exact Or.inl (sameIndexed_arbiterAfter hget body hp hd)
  | write id st next device hphase hget =>
    exact Or.inl (sameIndexed_rewrite hget
      (stores_setNextMonitorState s.arbiter id device next.1 next.2) rfl rfl rfl rfl rfl)

/-! ## §3. No phantoms. -/

structure IndexInv (a : HNManagedDeviceArbiter) : Prop where
  keys : KeysAgree a
  provided : NoPhantom HNMDARecord.srvMapProvided a.providerMap a
  desired : NoPhantom HNMDARecord.srvMapDesired a.servicesMap a

theorem IndexInv.same (h : IndexInv a) (hsame : SameIndexed a a') : IndexInv a' := by
  refine ⟨fun key d' hd' => ?_, fun t id hlisted => ?_, fun t id hlisted => ?_⟩
  · obtain ⟨d, hd, hid, hsp, hkd, -⟩ := hsame.records key d' hd'
    obtain ⟨hcrc, hkp, hkd₀⟩ := h.keys key d hd
    exact ⟨hid.trans hcrc, hsp ▸ hkp, hkd hkd₀⟩
  · rw [hsame.provider] at hlisted
    obtain ⟨d, hd, ht⟩ := h.provided t id hlisted
    obtain ⟨d', hd', hp, -⟩ := hsame.known id d hd
    exact ⟨d', hd', hp t ht⟩
  · rw [hsame.services] at hlisted
    obtain ⟨d, hd, ht⟩ := h.desired t id hlisted
    obtain ⟨d', hd', -, hdes⟩ := hsame.known id d hd
    exact ⟨d', hd', hdes t ht⟩

/-- An ID that is not known is not listed. -/
theorem IndexInv.unlisted (h : IndexInv a) (hnone : a.deviceMap[id]? = none) (t : Str) :
    id ∉ listedUnder a.providerMap t := by
  intro hlisted
  obtain ⟨d, hd, -⟩ := h.provided t id hlisted
  rw [hnone] at hd
  cases hd

theorem keyed_addMgmtDeviceProvidedSrv {record : HNMDARecord} (h : Keyed record.srvMapProvided)
    (srvType version pathExt : Str) :
    Keyed (a.addMgmtDeviceProvidedSrv record srvType version pathExt).srvMapProvided := by
  have hvisit := keyed_updateSrv h srvType
  simp only [HNManagedDeviceArbiter.addMgmtDeviceProvidedSrv, HNMDARecord.updateSrvProvider]
  intro k ep hep
  rw [OrdMap.get_modify] at hep
  split at hep
  next heq =>
    obtain ⟨ep₀, -, rfl⟩ := Option.map_eq_some_iff.mp hep
    exact heq
  next => exact hvisit k ep hep

theorem keyed_initMgmtDevice {record : HNMDARecord} (h : Keyed record.srvMapProvided) :
    Keyed (a.initMgmtDevice record).srvMapProvided := by
  unfold HNManagedDeviceArbiter.initMgmtDevice
  apply keyed_completeSrvUpdates
  apply keyed_addMgmtDeviceProvidedSrv
  apply keyed_addMgmtDeviceProvidedSrv
  exact keyed_startSrvUpdates h

/-- The record that goes into the map for a new ID. -/
theorem discovered_keyed (event : DiscoverEvent) :
    (discovered a event.toRecord).getCRC32IDStr = event.toRecord.getCRC32IDStr ∧
      Keyed (discovered a event.toRecord).srvMapProvided ∧
      Keyed (discovered a event.toRecord).srvMapDesired := by
  have hp : Keyed event.toRecord.srvMapProvided := by
    rw [toRecord_srvMapProvided]
    exact keyed_empty
  have hd : Keyed event.toRecord.srvMapDesired := by
    rw [toRecord_srvMapDesired]
    exact keyed_empty
  unfold discovered
  split
  next =>
    refine ⟨initMgmtDevice_getCRC32IDStr a event.toRecord, keyed_initMgmtDevice hp, ?_⟩
    show Keyed (a.initMgmtDevice event.toRecord).srvMapDesired
    rw [initMgmtDevice_frame]
    exact hd
  next => exact ⟨rfl, hp, hd⟩

theorem indexInv_discovery (h : IndexInv a) {event : DiscoverEvent}
    (hnone : a.deviceMap[event.toRecord.getCRC32IDStr]? = none) :
    IndexInv (a.notifyDiscoverAdd event.toRecord) := by
  have hrest := notifyDiscoverAdd_rest a event.toRecord
  have hstores := notifyDiscoverAdd_new hnone
  obtain ⟨hid, hkp, hkd⟩ := discovered_keyed (a := a) event
  -- no record is there whose types could be lost
  have hkeep : ∀ services : HNMDARecord → SrvMap, ∀ d : HNMDARecord,
      a.deviceMap[event.toRecord.getCRC32IDStr]? = some d →
      ∀ t, t ∈ services d → t ∈ services (discovered a event.toRecord) := by
    intro services d hd
    rw [hnone] at hd
    cases hd
  refine ⟨h.keys.stores hstores hid hkp hkd, ?_, ?_⟩
  · rw [show (a.notifyDiscoverAdd event.toRecord).providerMap = a.providerMap by rw [hrest]]
    exact h.provided.stores hstores (hkeep _)
  · rw [show (a.notifyDiscoverAdd event.toRecord).servicesMap = a.servicesMap by rw [hrest]]
    exact h.desired.stores hstores (hkeep _)

theorem indexInv_storeProvided (h : IndexInv a) (hget : a.deviceMap[id]? = some device)
    (body : Body) : IndexInv (storeProvided a id device body).1 := by
  obtain ⟨hcrc, hkp, hkd⟩ := h.keys id device hget
  have hstores := stores_setDevice a id
    { device with srvMapProvided := (applyServicesReply device.srvMapProvided body).1 }
  have hkeyed := applyServicesReply_keyed hkp body
  have hkeys := h.keys.stores hstores hcrc hkeyed hkd
  have hdesired : NoPhantom HNMDARecord.srvMapDesired a.servicesMap
      (a.setDevice id
        { device with srvMapProvided := (applyServicesReply device.srvMapProvided body).1 }) := by
    apply h.desired.stores hstores
    intro d hd t ht
    obtain rfl : device = d := Option.some.inj (hget.symm.trans hd)
    exact ht
  simp only [storeProvided]
  cases hflag : (applyServicesReply device.srvMapProvided body).2 with
  | none =>
    -- a reply that raises removes nothing
    refine ⟨hkeys, h.provided.stores hstores fun d hd t ht => ?_, hdesired⟩
    obtain rfl : device = d := Option.some.inj (hget.symm.trans hd)
    exact applyServicesReply_grows hflag ht
  | some changed =>
    cases changed with
    | true => exact ⟨hkeys, (rebuildSrvProviderMap_agrees hkeys).1, hdesired⟩
    | false =>
      refine ⟨hkeys, h.provided.stores hstores fun d hd t ht => ?_, hdesired⟩
      obtain rfl : device = d := Option.some.inj (hget.symm.trans hd)
      exact (applyServicesReply_unchanged hflag).mpr ht

theorem indexInv_storeDesired (h : IndexInv a) (hget : a.deviceMap[id]? = some device)
    (body : Body) : IndexInv (storeDesired a id device body).1 := by
  obtain ⟨hcrc, hkp, hkd⟩ := h.keys id device hget
  have hstores := stores_setDevice a id
    { device with srvMapDesired := (applyServicesReply device.srvMapDesired body).1 }
  have hkeyed := applyServicesReply_keyed hkd body
  have hkeys := h.keys.stores hstores hcrc hkp hkeyed
  have hprovided : NoPhantom HNMDARecord.srvMapProvided a.providerMap
      (a.setDevice id
        { device with srvMapDesired := (applyServicesReply device.srvMapDesired body).1 }) := by
    apply h.provided.stores hstores
    intro d hd t ht
    obtain rfl : device = d := Option.some.inj (hget.symm.trans hd)
    exact ht
  simp only [storeDesired]
  cases hflag : (applyServicesReply device.srvMapDesired body).2 with
  | none =>
    refine ⟨hkeys, hprovided, h.desired.stores hstores fun d hd t ht => ?_⟩
    obtain rfl : device = d := Option.some.inj (hget.symm.trans hd)
    exact applyServicesReply_grows hflag ht
  | some changed =>
    cases changed with
    | true => exact ⟨hkeys, hprovided, (rebuildSrvMappings_agrees hkeys).1⟩
    | false =>
      refine ⟨hkeys, hprovided, h.desired.stores hstores fun d hd t ht => ?_⟩
      obtain rfl : device = d := Option.some.inj (hget.symm.trans hd)
      exact (applyServicesReply_unchanged hflag).mpr ht

/-- **One step keeps the indexes free of phantoms.** -/
theorem indexInv_step (hstable : CRC32StrStable) {s s' : Sys} {l : Label} {es : List Event}
    (h : IndexInv s.arbiter) (hstep : system.step s l = some (s', es)) : IndexInv s'.arbiter := by
  rcases step_indexed hstable h.keys hstep with hsame | hre
  · exact h.same hsame
  · cases hre with
    | discovery event hl hnone hs' =>
      rw [hs']
      exact indexInv_discovery h hnone
    | provided id st device o body hl hphase hget hok hs' =>
      rw [hs']
      exact indexInv_storeProvided h hget body
    | desired id st device o body hl hphase hget hok hs' =>
      rw [hs']
      exact indexInv_storeDesired h hget body

theorem indexInv_init (mgmtDevice : HNodeDevice) (caches : Platform.Caches) :
    IndexInv (Sys.init mgmtDevice caches).arbiter := by
  refine ⟨fun key d hd => ?_, fun t id hlisted => ?_, fun t id hlisted => ?_⟩
  · simp [Sys.init] at hd
  · simp [Sys.init, listedUnder] at hlisted
  · simp [Sys.init, listedUnder] at hlisted

theorem indexInv_run (hstable : CRC32StrStable) {mgmtDevice : HNodeDevice}
    {caches : Platform.Caches} {ts : List (Trans Sys Label Event)} {s : Sys}
    (hr : Run system (Sys.init mgmtDevice caches) ts s) : IndexInv s.arbiter := by
  apply Run.invariant (P := fun s => IndexInv s.arbiter) (indexInv_init mgmtDevice caches) _ hr
  intro u l v es hinv hstep
  exact indexInv_step hstable hinv hstep

omit [Platform] in
private theorem mapM_ne_none {α β : Type} {f : α → Option β} :
    ∀ {l : List α}, (∀ x ∈ l, f x ≠ none) → l.mapM f ≠ none
  | [], _ => nofun
  | x :: xs, h => by
      obtain ⟨y, hy⟩ := Option.ne_none_iff_exists'.mp (h x (by simp))
      obtain ⟨ys, hys⟩ := Option.ne_none_iff_exists'.mp
        (mapM_ne_none (l := xs) fun z hz => h z (by simp [hz]))
      rw [List.mapM_cons, hy, hys]
      nofun

/-- A report only looks up known devices. -/
theorem reportInfoList_ne_none (h : NoPhantom services index a) :
    a.reportInfoList index ≠ none := by
  unfold HNManagedDeviceArbiter.reportInfoList
  apply mapM_ne_none
  rintro ⟨t, ids⟩ hmem
  have hlist : listedUnder index t = ids := by
    rw [listedUnder, Std.ExtTreeMap.mem_toList_iff_getElem?_eq_some.mp hmem]
    rfl
  have hids : ids.mapM (fun id => do
      let device ← a.deviceMap[id]?
      return { name := device.name, crc32ID := device.getCRC32IDStr : HNMDServiceDevRef }) ≠
      none := by
    apply mapM_ne_none
    intro id hid
    obtain ⟨d, hd, -⟩ := h t id (hlist ▸ hid)
    rw [hd]
    nofun
  obtain ⟨refs, hrefs⟩ := Option.ne_none_iff_exists'.mp hids
  simp only at hrefs ⊢
  rw [hrefs]
  nofun

/-- The service indexes hold no phantoms. -/
structure NoPhantoms (a : HNManagedDeviceArbiter) : Prop where
  key : ∀ (key : Str) (device : HNMDARecord), a.deviceMap[key]? = some device →
    device.getCRC32IDStr = key
  provided : ∀ t id : Str, id ∈ listedUnder a.providerMap t →
    ∃ device : HNMDARecord, a.deviceMap[id]? = some device ∧ t ∈ device.srvMapProvided
  desired : ∀ t id : Str, id ∈ listedUnder a.servicesMap t →
    ∃ device : HNMDARecord, a.deviceMap[id]? = some device ∧ t ∈ device.srvMapDesired
  reportProvided : a.reportSrvProviderInfoList ≠ none
  reportDesired : a.reportSrvMappingInfoList ≠ none

/-- **No phantoms**: in every state a run reaches, each ID listed under a type
is a known device that has the type, so the reports' unchecked lookups
succeed. -/
theorem no_phantoms (hstable : CRC32StrStable) (mgmtDevice : HNodeDevice)
    (caches : Platform.Caches) (ts : List (Trans Sys Label Event)) (s : Sys)
    (hr : Run system (Sys.init mgmtDevice caches) ts s) : NoPhantoms s.arbiter := by
  have hinv := indexInv_run hstable hr
  exact ⟨fun key d hd => (hinv.keys key d hd).1, hinv.provided, hinv.desired,
    reportInfoList_ne_none hinv.provided, reportInfoList_ne_none hinv.desired⟩

/-! ## §4. When they miss something. -/

/-- The indexes list all that the records hold; so the service lookup answers
for every service a record provides. -/
structure IndexesComplete (a : HNManagedDeviceArbiter) : Prop where
  provided : ∀ (key : Str) (device : HNMDARecord) (t : Str), a.deviceMap[key]? = some device →
    t ∈ device.srvMapProvided → device.getCRC32IDStr ∈ listedUnder a.providerMap t
  desired : ∀ (key : Str) (device : HNMDARecord) (t : Str), a.deviceMap[key]? = some device →
    t ∈ device.srvMapDesired → device.getCRC32IDStr ∈ listedUnder a.servicesMap t
  lookup : ∀ (key : Str) (device : HNMDARecord) (t : Str), a.deviceMap[key]? = some device →
    t ∈ device.srvMapProvided → a.doesDeviceProvideService device.getCRC32IDStr t = true

theorem indexesComplete_iff : IndexesComplete a ↔
    NoGap HNMDARecord.srvMapProvided a.providerMap a ∧
      NoGap HNMDARecord.srvMapDesired a.servicesMap a := by
  constructor
  · intro h
    exact ⟨h.provided, h.desired⟩
  · intro ⟨hp, hd⟩
    exact ⟨hp, hd, fun key d t hget ht => doesDeviceProvideService_iff.mpr (hp key d t hget ht)⟩

theorem IndexesComplete.same (h : IndexesComplete a) (hsame : SameIndexed a a') :
    IndexesComplete a' := by
  refine indexesComplete_iff.mpr ⟨fun key d' t hd' ht => ?_, fun key d' t hd' ht => ?_⟩
  · obtain ⟨d, hd, hid, hsp, -, -⟩ := hsame.records key d' hd'
    rw [hid, hsame.provider]
    exact h.provided key d t hd (hsp ▸ ht)
  · obtain ⟨d, hd, hid, -, -, hsd⟩ := hsame.records key d' hd'
    rw [hid, hsame.services]
    exact h.desired key d t hd (hsd t ht)

/-- The step leaves nothing out: it is neither the first discovery of the
manager's own record, nor a services reply that raises after it has added a
type. -/
def indexedStep (s : Sys) : Label → Prop
  | .notifyDiscoverAdd event =>
    s.arbiter.deviceMap[event.toRecord.getCRC32IDStr]? = none →
      event.toRecord.getCRC32IDStr ≠ s.arbiter.getSelfCRC32IDStr
  | .reply o =>
    ∀ (id : Str) (st : MgmtState) (device : HNMDARecord) (body : Body),
      s.arbiter.deviceMap[id]? = some device → o.receive = .ok body →
      (s.monitor = .waiting id st .updateDeviceServicesProvideInfo →
        ¬ raisesAfterAdding device.srvMapProvided body) ∧
      (s.monitor = .waiting id st .updateDeviceServicesMappingInfo →
        ¬ raisesAfterAdding device.srvMapDesired body)
  | _ => True

/-- A built-in service is visited when it is added, and is not dropped. -/
private theorem kept_addMgmtDeviceProvidedSrv {record : HNMDARecord} {t : Str}
    (srvType version pathExt : Str) :
    t ∈ (completeSrvUpdates
        (a.addMgmtDeviceProvidedSrv record srvType version pathExt).srvMapProvided).1 ↔
      t ∈ (completeSrvUpdates record.srvMapProvided).1 ∨ t = srvType := by
  simp only [HNManagedDeviceArbiter.addMgmtDeviceProvidedSrv, HNMDARecord.updateSrvProvider]
  rw [mem_complete_modify, mem_complete_updateSrv]
  exact fun _ => rfl

/-- What the manager's own record provides when it is set up. -/
theorem mem_initMgmtDevice (record : HNMDARecord) (t : Str) :
    t ∈ (a.initMgmtDevice record).srvMapProvided ↔
      (t ∈ (completeSrvUpdates (startSrvUpdates record.srvMapProvided)).1 ∨
        t = lit "hnsrv-health-sink") ∨ t = lit "hnsrv-log-sink" := by
  unfold HNManagedDeviceArbiter.initMgmtDevice
  exact (kept_addMgmtDeviceProvidedSrv _ _ _).trans
    (or_congr_left (kept_addMgmtDeviceProvidedSrv _ _ _))

/-- The built-in services are there when the manager's own record is set up. -/
theorem initMgmtDevice_provides (record : HNMDARecord) :
    lit "hnsrv-health-sink" ∈ (a.initMgmtDevice record).srvMapProvided ∧
      lit "hnsrv-log-sink" ∈ (a.initMgmtDevice record).srvMapProvided :=
  ⟨(mem_initMgmtDevice record _).mpr (.inl (.inr rfl)),
    (mem_initMgmtDevice record _).mpr (.inr rfl)⟩

/-- A discovery keeps the indexes complete unless it is the manager's own. -/
theorem indexesComplete_discovery (hinv : IndexInv a) (h : IndexesComplete a)
    {event : DiscoverEvent} (hnone : a.deviceMap[event.toRecord.getCRC32IDStr]? = none) :
    IndexesComplete (a.notifyDiscoverAdd event.toRecord) ↔
      event.toRecord.getCRC32IDStr ≠ a.getSelfCRC32IDStr := by
  have hrest := notifyDiscoverAdd_rest a event.toRecord
  have hprov : (a.notifyDiscoverAdd event.toRecord).providerMap = a.providerMap := by rw [hrest]
  have hserv : (a.notifyDiscoverAdd event.toRecord).servicesMap = a.servicesMap := by rw [hrest]
  have hstores := notifyDiscoverAdd_new hnone
  constructor
  · intro hcomplete hself
    -- the built-in services are in the record, and its ID is listed nowhere
    have hrecord : discovered a event.toRecord =
        ((a.initMgmtDevice event.toRecord).setManagementState .self).copy := by
      rw [discovered, if_pos hself]
    have hlisted := hcomplete.provided _ _ (lit "hnsrv-health-sink") hstores.get
      (by rw [hrecord]; exact (initMgmtDevice_provides event.toRecord).1)
    rw [(discovered_keyed event).1, hprov] at hlisted
    exact hinv.unlisted hnone _ hlisted
  · intro hother
    -- an ordinary record is empty
    have hrecord : discovered a event.toRecord =
        (event.toRecord.setManagementState .discovered).copy := by
      rw [discovered, if_neg hother]
    have hempty : ∀ t, t ∉ (discovered a event.toRecord).srvMapProvided ∧
        t ∉ (discovered a event.toRecord).srvMapDesired := by
      intro t
      rw [hrecord]
      show t ∉ event.toRecord.srvMapProvided ∧ t ∉ event.toRecord.srvMapDesired
      rw [toRecord_srvMapProvided, toRecord_srvMapDesired]
      exact ⟨Std.ExtTreeMap.not_mem_empty, Std.ExtTreeMap.not_mem_empty⟩
    refine indexesComplete_iff.mpr ⟨fun key d t hd ht => ?_, fun key d t hd ht => ?_⟩
    · by_cases heq : event.toRecord.getCRC32IDStr = key
      · subst heq
        obtain rfl : discovered a event.toRecord = d := Option.some.inj (hstores.get.symm.trans hd)
        exact absurd ht (hempty t).1
      · rw [hstores.get_ne heq] at hd
        rw [hprov]
        exact h.provided key d t hd ht
    · by_cases heq : event.toRecord.getCRC32IDStr = key
      · subst heq
        obtain rfl : discovered a event.toRecord = d := Option.some.inj (hstores.get.symm.trans hd)
        exact absurd ht (hempty t).2
      · rw [hstores.get_ne heq] at hd
        rw [hserv]
        exact h.desired key d t hd ht

/-- A reply about provided services keeps the indexes complete unless it raises
after adding. -/
theorem indexesComplete_storeProvided (hinv : IndexInv a) (h : IndexesComplete a)
    (hget : a.deviceMap[id]? = some device) (body : Body) :
    IndexesComplete (storeProvided a id device body).1 ↔
      ¬ raisesAfterAdding device.srvMapProvided body := by
  obtain ⟨hcrc, hkp, hkd⟩ := hinv.keys id device hget
  have hstores := stores_setDevice a id
    { device with srvMapProvided := (applyServicesReply device.srvMapProvided body).1 }
  obtain ⟨hlistedProvided, hlistedDesired⟩ := indexesComplete_iff.mp h
  have hdesired := hlistedDesired.stores hget hstores rfl fun _ ht => ht
  rw [indexesComplete_iff]
  simp only [storeProvided]
  cases hflag : (applyServicesReply device.srvMapProvided body).2 with
  | none =>
    rw [← applyServicesReply_raised_iff hflag]
    constructor
    · rintro ⟨hcomplete, -⟩ t ht
      -- what the record holds now is listed, and what is listed it held before
      have hlisted : id ∈ listedUnder a.providerMap t := by
        have hnow := hcomplete id _ t hstores.get ht
        rw [← hcrc]
        exact hnow
      obtain ⟨d, hd, hold⟩ := hinv.provided t id hlisted
      obtain rfl : device = d := Option.some.inj (hget.symm.trans hd)
      exact hold
    · intro hold
      exact ⟨hlistedProvided.stores hget hstores rfl hold, hdesired⟩
  | some changed =>
    have hnot : ¬ raisesAfterAdding device.srvMapProvided body := by
      intro hraises
      rw [applyServicesReply_of_raisesAfterAdding hraises] at hflag
      cases hflag
    refine ⟨fun _ => hnot, fun _ => ?_⟩
    cases changed with
    | true =>
      have hkeys := hinv.keys.stores hstores hcrc (applyServicesReply_keyed hkp body) hkd
      exact ⟨(rebuildSrvProviderMap_agrees hkeys).2, hdesired⟩
    | false =>
      exact ⟨hlistedProvided.stores hget hstores rfl fun t ht =>
        (applyServicesReply_unchanged hflag).mp ht, hdesired⟩

/-- The same for a reply about desired services. -/
theorem indexesComplete_storeDesired (hinv : IndexInv a) (h : IndexesComplete a)
    (hget : a.deviceMap[id]? = some device) (body : Body) :
    IndexesComplete (storeDesired a id device body).1 ↔
      ¬ raisesAfterAdding device.srvMapDesired body := by
  obtain ⟨hcrc, hkp, hkd⟩ := hinv.keys id device hget
  have hstores := stores_setDevice a id
    { device with srvMapDesired := (applyServicesReply device.srvMapDesired body).1 }
  obtain ⟨hlistedProvided, hlistedDesired⟩ := indexesComplete_iff.mp h
  have hprovided := hlistedProvided.stores hget hstores rfl fun _ ht => ht
  rw [indexesComplete_iff]
  simp only [storeDesired]
  cases hflag : (applyServicesReply device.srvMapDesired body).2 with
  | none =>
    rw [← applyServicesReply_raised_iff hflag]
    constructor
    · rintro ⟨-, hcomplete⟩ t ht
      have hlisted : id ∈ listedUnder a.servicesMap t := by
        have hnow := hcomplete id _ t hstores.get ht
        rw [← hcrc]
        exact hnow
      obtain ⟨d, hd, hold⟩ := hinv.desired t id hlisted
      obtain rfl : device = d := Option.some.inj (hget.symm.trans hd)
      exact hold
    · intro hold
      exact ⟨hprovided, hlistedDesired.stores hget hstores rfl hold⟩
  | some changed =>
    have hnot : ¬ raisesAfterAdding device.srvMapDesired body := by
      intro hraises
      rw [applyServicesReply_of_raisesAfterAdding hraises] at hflag
      cases hflag
    refine ⟨fun _ => hnot, fun _ => ?_⟩
    cases changed with
    | true =>
      have hkeys := hinv.keys.stores hstores hcrc hkp (applyServicesReply_keyed hkd body)
      exact ⟨hprovided, (rebuildSrvMappings_agrees hkeys).2⟩
    | false =>
      exact ⟨hprovided, hlistedDesired.stores hget hstores rfl fun t ht =>
        (applyServicesReply_unchanged hflag).mp ht⟩

/-- **One step**, from complete indexes, keeps them complete exactly when it is
none of the two kinds that leave something out. -/
theorem indexesComplete_step (hstable : CRC32StrStable) {s s' : Sys} {l : Label}
    {es : List Event} (hinv : IndexInv s.arbiter) (h : IndexesComplete s.arbiter)
    (hstep : system.step s l = some (s', es)) :
    IndexesComplete s'.arbiter ↔ indexedStep s l := by
  rcases step_indexed hstable hinv.keys hstep with hsame | hre
  · refine iff_of_true (h.same hsame) ?_
    -- nothing the indexes read has changed: no new record, no raising reply that adds
    cases took_of_step hstep with
    | add event =>
      intro hnone
      obtain ⟨d, hd, -⟩ := hsame.records _ _ (notifyDiscoverAdd_new hnone).get
      rw [hnone] at hd
      cases hd
    | replyRaised id st op device o hphase hget hfinish =>
      intro id' st' device' body _ hok
      rw [hphase]
      refine ⟨fun heq => ?_, fun heq => ?_⟩ <;>
      · obtain ⟨rfl, rfl, rfl⟩ := MonitorPhase.waiting.inj heq
        rw [finish_raised rfl hfinish] at hok
        cases hok
    | replyDone id st op device o a' result hphase hget hfinish hstores =>
      intro id' st' device' body hget' hok
      rw [deviceGiven_ok hok] at hstores
      obtain ⟨d, hd, -, hsp, -, hsd⟩ := hsame.records id _ hstores.get
      obtain rfl : device = d := Option.some.inj (hget.symm.trans hd)
      rw [hphase]
      refine ⟨fun heq => ?_, fun heq => ?_⟩
      · obtain ⟨rfl, rfl, rfl⟩ := MonitorPhase.waiting.inj heq
        obtain rfl : device = device' := Option.some.inj (hget.symm.trans hget')
        intro hraises
        have hflag := applyServicesReply_of_raisesAfterAdding hraises
        apply (applyServicesReply_raised_iff hflag).mp _ hraises
        intro t ht
        rw [← hsp]
        exact ht
      · obtain ⟨rfl, rfl, rfl⟩ := MonitorPhase.waiting.inj heq
        obtain rfl : device = device' := Option.some.inj (hget.symm.trans hget')
        intro hraises
        have hflag := applyServicesReply_of_raisesAfterAdding hraises
        exact (applyServicesReply_raised_iff hflag).mp hsd hraises
    | _ => exact trivial
  · cases hre with
    | discovery event hl hnone hs' =>
      rw [hs', indexesComplete_discovery hinv h hnone, hl]
      exact ⟨fun hne _ => hne, fun hne => hne hnone⟩
    | provided id st device o body hl hphase hget hok hs' =>
      rw [hs', indexesComplete_storeProvided hinv h hget, hl]
      constructor
      · intro hnot id' st' device' body' hget' hok'
        obtain rfl : body = body' := Received.ok.inj (hok.symm.trans hok')
        rw [hphase]
        refine ⟨fun heq => ?_, nofun⟩
        obtain ⟨rfl, rfl, -⟩ := MonitorPhase.waiting.inj heq
        obtain rfl : device = device' := Option.some.inj (hget.symm.trans hget')
        exact hnot
      · intro hall
        exact (hall id st device body hget hok).1 hphase
    | desired id st device o body hl hphase hget hok hs' =>
      rw [hs', indexesComplete_storeDesired hinv h hget, hl]
      constructor
      · intro hnot id' st' device' body' hget' hok'
        obtain rfl : body = body' := Received.ok.inj (hok.symm.trans hok')
        rw [hphase]
        refine ⟨nofun, fun heq => ?_⟩
        obtain ⟨rfl, rfl, -⟩ := MonitorPhase.waiting.inj heq
        obtain rfl : device = device' := Option.some.inj (hget.symm.trans hget')
        exact hnot
      · intro hall
        exact (hall id st device body hget hok).2 hphase

theorem indexesComplete_init (mgmtDevice : HNodeDevice) (caches : Platform.Caches) :
    IndexesComplete (Sys.init mgmtDevice caches).arbiter := by
  refine indexesComplete_iff.mpr ⟨fun key d t hd _ => ?_, fun key d t hd _ => ?_⟩
  · simp [Sys.init] at hd
  · simp [Sys.init] at hd

/-- **When the indexes miss nothing**: in every state of a run, exactly when the
run neither discovers the manager's own record for the first time nor takes a
services reply that raises after it has added a type. -/
theorem indexes_complete_iff (hstable : CRC32StrStable) (mgmtDevice : HNodeDevice)
    (caches : Platform.Caches) (ts : List (Trans Sys Label Event)) (s : Sys)
    (hr : Run system (Sys.init mgmtDevice caches) ts s) :
    StepsMeet indexedStep ts ↔ ∀ t ∈ ts, IndexesComplete t.post.arbiter :=
  Run.invariant_iff (I := fun s => IndexesComplete s.arbiter) (J := fun s => IndexInv s.arbiter)
    (indexInv_init mgmtDevice caches) (indexesComplete_init mgmtDevice caches)
    (fun _ _ _ _ hinv hstep => indexInv_step hstable hinv hstep)
    (fun _ _ _ _ hinv h hstep => indexesComplete_step hstable hinv h hstep) hr

end Indexes

/-! ### Runs of the two nodes. -/

section Sample

open RefPlatform

/-- An ID of the reference platform is read back from its text. -/
theorem crc32StrStable_ref : CRC32StrStable := by
  intro old hnodeID
  show crcHexStr (crc32 (parseHex (hexStr hnodeID))) = crcHexStr (crc32 hnodeID)
  rw [parseHex_hexStr]

/-- A run that claims a device and reads what it provides. -/
def providedRun : List Label :=
  [.notifyDiscoverAdd sampleDeviceFound,
    .wakeup, .readState, .act, .writeState,
    .wakeup, .readState, .act, .reply (okReply (.object [])), .writeState,
    .wakeup, .readState, .act, .reply (okReply ownedByManager), .writeState,
    .wakeup, .readState, .act, .reply (okReply
      (.array [some [(lit "type", stringField "hnsrv-health-source")]]))]

/-- A run after which the provider index has an entry, and no phantom. -/
theorem no_phantoms_sample :
    ∃ ts s, Run system (Sys.init sampleManager ()) ts s ∧
      s.arbiter.doesDeviceProvideService (lit "4900fb4e") (lit "hnsrv-health-source") = true ∧
      NoPhantoms s.arbiter := by
  obtain ⟨ts, s, hr, hlisted⟩ := Machine.exists_run_of_exec (M := system)
    (s := Sys.init sampleManager ()) (l := providedRun)
    (p := fun r => r.2.arbiter.doesDeviceProvideService (lit "4900fb4e")
      (lit "hnsrv-health-source")) (by decide +kernel)
  exact ⟨ts, s, hr, hlisted, no_phantoms crc32StrStable_ref sampleManager () ts s hr⟩

/-- The rule at that run. -/
theorem indexes_complete_iff_sample :
    ∃ ts s, Run system (Sys.init sampleManager ()) ts s ∧
      s.arbiter.doesDeviceProvideService (lit "4900fb4e") (lit "hnsrv-health-source") = true ∧
      (StepsMeet indexedStep ts ↔ ∀ t ∈ ts, IndexesComplete t.post.arbiter) := by
  obtain ⟨ts, s, hr, hlisted⟩ := Machine.exists_run_of_exec (M := system)
    (s := Sys.init sampleManager ()) (l := providedRun)
    (p := fun r => r.2.arbiter.doesDeviceProvideService (lit "4900fb4e")
      (lit "hnsrv-health-source")) (by decide +kernel)
  exact ⟨ts, s, hr, hlisted, indexes_complete_iff crc32StrStable_ref sampleManager () ts s hr⟩

/-- **The manager discovers itself**: its record provides the health sink, and
the service lookup denies it. -/
theorem indexes_miss_builtin :
    ∃ ts s, Run system (Sys.init sampleManager ()) ts s ∧ ¬ IndexesComplete s.arbiter := by
  obtain ⟨ts, s, hr, hp⟩ := Machine.exists_run_of_exec (M := system)
    (s := Sys.init sampleManager ()) (l := [.notifyDiscoverAdd sampleManagerFound])
    (p := fun r => (r.2.arbiter.deviceMap[lit "2c1b21da"]?).any fun d =>
      d.srvMapProvided.contains (lit "hnsrv-health-sink") &&
        !r.2.arbiter.doesDeviceProvideService d.getCRC32IDStr (lit "hnsrv-health-sink"))
    (by decide +kernel)
  refine ⟨ts, s, hr, fun hcomplete => ?_⟩
  obtain ⟨d, hd, hboth⟩ := (Option.any_eq_true _ _).mp hp
  obtain ⟨hin, hdenied⟩ := Bool.and_eq_true_iff.mp hboth
  have hprovides := hcomplete.lookup _ d _ hd (Std.ExtTreeMap.contains_iff_mem.mp hin)
  rw [hprovides] at hdenied
  cases hdenied

end Sample

end HNodeMgmt.Arbiter
