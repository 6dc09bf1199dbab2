/-
  HNodeMgmt.Arbiter.DeviceArbiter — the arbiter's state and its calls.

  The device map, the two service indexes, the default mappings and the
  caches, with the calls the main loop makes (each of them under the map
  mutex, so one step) and the lookups.

  Main results:
    * `rebuildSrvProviderMap_exact`, `rebuildSrvMappings_exact` — after a
      rebuild, an ID is listed under a type EXACTLY when it is the CRC32 string
      of a known record with an endpoint of that type.
-/
import Mathlib.Tactic.Common
import HNodeMgmt.Arbiter.Record

namespace HNodeMgmt.Arbiter

open Lib

/-! ## §1. The state. -/

/-- `HNMDSrvRef`. -/
structure HNMDSrvRef where
  devCRC32ID : Str
  srvType : Str
  deriving DecidableEq, Repr

/-- `HNManagedDeviceArbiter`.  The main thread sets `m_mgmtDevice` before the
arbiter is used. -/
structure HNManagedDeviceArbiter [Platform] where
  mgmtDevice : HNodeDevice
  deviceMap : StrMap HNMDARecord
  providerMap : StrMap (List Str)
  servicesMap : StrMap (List Str)
  defaultMappings : StrMap HNMDSrvRef
  caches : Platform.Caches
  monitorWaitTime : Nat

/-- `HNMDServiceDevRef` and `HNMDServiceInfo`, for the reports. -/
structure HNMDServiceDevRef where
  name : Str
  crc32ID : Str
  deriving DecidableEq, Repr

structure HNMDServiceInfo where
  srvType : Str
  devRefList : List HNMDServiceDevRef
  deriving DecidableEq, Repr

namespace HNManagedDeviceArbiter

variable [Platform] (a : HNManagedDeviceArbiter)

def getSelfHNodeIDStr : Str := a.mgmtDevice.hnodeIDStr

def getSelfCRC32IDStr : Str := a.mgmtDevice.hnodeIDCRC32Str

def getSelfCRC32ID : UInt32 := a.mgmtDevice.hnodeIDCRC32

/-- Write a record back under its key. -/
def setDevice (crc32ID : Str) (device : HNMDARecord) : HNManagedDeviceArbiter :=
  { a with deviceMap := a.deviceMap.insert crc32ID device }

/-! ## §2. The manager's own record. -/

/-- `addMgmtDeviceProvidedSrv`. -/
def addMgmtDeviceProvidedSrv (record : HNMDARecord) (srvType version pathExt : Str) :
    HNMDARecord :=
  let path := a.mgmtDevice.restRootPath ++ lit "/" ++ pathExt
  let uri := Platform.httpURI a.mgmtDevice.restAddress a.mgmtDevice.restPort path
  let record := (record.updateSrvProvider srvType).1
  { record with
    srvMapProvided := record.srvMapProvided.modify srvType fun ep =>
      { ep with type := srvType, version, rootURI := Platform.uriToString uri } }

/-- `initMgmtDevice`: the two services built into the manager. -/
def initMgmtDevice (record : HNMDARecord) : HNMDARecord :=
  let record := record.startSrvProviderUpdates
  let record := a.addMgmtDeviceProvidedSrv record (lit "hnsrv-health-sink") (lit "1.0.0")
    (lit "mgmt/health-sink")
  let record := a.addMgmtDeviceProvidedSrv record (lit "hnsrv-log-sink") (lit "1.0.0")
    (lit "mgmt/log-sink")
  record.completeSrvProviderUpdates.1

/-! ## §3. Calls of the main thread. -/

/-- `notifyDiscoverAdd`. -/
def notifyDiscoverAdd (record : HNMDARecord) : HNManagedDeviceArbiter :=
  match a.deviceMap[record.getCRC32IDStr]? with
  | none =>
    let record :=
      if record.getCRC32IDStr = a.getSelfCRC32IDStr then
        (a.initMgmtDevice record).setManagementState .self
      else record.setManagementState .discovered
    { a with deviceMap := a.deviceMap.insertIfNew record.getCRC32IDStr record.copy }
  | some known => a.setDevice record.getCRC32IDStr (known.updateRecord record)

/-- `notifyDiscoverRemove`. -/
def notifyDiscoverRemove (record : HNMDARecord) : HNManagedDeviceArbiter :=
  match a.deviceMap[record.getCRC32IDStr]? with
  | none => a
  | some known => a.setDevice record.getCRC32IDStr (known.setManagementState .disappearing)

/-- `setNextMonitorState`. -/
def setNextMonitorState (crc32ID : Str) (device : HNMDARecord)
    (nextState : MgmtState) (minValue : Nat) : HNManagedDeviceArbiter :=
  { a.setDevice crc32ID (device.setManagementState nextState) with
    monitorWaitTime := if minValue < a.monitorWaitTime then minValue else a.monitorWaitTime }

/-- `setDeviceMgmtCmdFromJSON`.  "Make sure a command isnt already running" is a
comment with no code under it. -/
def setDeviceMgmtCmdFromJSON (crc32ID : Str) (body : Body) : HNManagedDeviceArbiter × HNMDLResult :=
  match a.deviceMap[crc32ID]? with
  | none => (a, .failure)
  | some device =>
    (a.setDevice crc32ID (device.setMgmtCmdFromJSON body).1, (device.setMgmtCmdFromJSON body).2)

/-- `startDeviceMgmtCmd`. -/
def startDeviceMgmtCmd (crc32ID : Str) : HNManagedDeviceArbiter × HNMDLResult :=
  match a.deviceMap[crc32ID]? with
  | none => (a, .failure)
  | some device => (a.setNextMonitorState crc32ID device .execCmd 0, .success)

/-! ## §4. The service indexes. -/

/-- `rebuildSrvProviderMap`. -/
def rebuildSrvProviderMap : HNManagedDeviceArbiter :=
  { a with
    providerMap := invert (a.deviceMap.toList.map fun it =>
      (it.2.getCRC32IDStr, it.2.getSrvProviderTSList)) }

/-- `rebuildSrvMappings`. -/
def rebuildSrvMappings : HNManagedDeviceArbiter :=
  { a with
    servicesMap := invert (a.deviceMap.toList.map fun it =>
      (it.2.getCRC32IDStr, it.2.getSrvMappingTSList)) }

/-- `doesDeviceProvideService`. -/
def doesDeviceProvideService (crc32ID srvType : Str) : Bool :=
  match a.providerMap[srvType]? with
  | none => false
  | some ids => ids.any fun id => id == crc32ID

/-- `getDeviceServiceProviderURI`. -/
def getDeviceServiceProviderURI (devCRC32ID srvType : Str) : Str :=
  match a.deviceMap[devCRC32ID]? with
  | none => []
  | some device => device.getServiceProviderURI srvType

/-- `reportSrvProviderInfoList` and `reportSrvMappingInfoList`: both walk an
index and dereference the lookup of every ID; `none` is the lookup that fails. -/
def reportInfoList (index : StrMap (List Str)) : Option (List HNMDServiceInfo) :=
  index.toList.mapM fun it => do
    let devRefList ← it.2.mapM fun id => do
      let device ← a.deviceMap[id]?
      return { name := device.name, crc32ID := device.getCRC32IDStr }
    return { srvType := it.1, devRefList }

def reportSrvProviderInfoList : Option (List HNMDServiceInfo) :=
  a.reportInfoList a.providerMap

def reportSrvMappingInfoList : Option (List HNMDServiceInfo) :=
  a.reportInfoList a.servicesMap

end HNManagedDeviceArbiter

/-! ## §5. What a rebuild installs. -/

section Rebuild

variable [Platform]

/-- The IDs listed under a type. -/
def listedUnder (index : StrMap (List Str)) (t : Str) : List Str := (index[t]?).getD []

private theorem mem_invert_devices {a : HNManagedDeviceArbiter}
    {types : HNMDARecord → List Str} {t id : Str} :
    id ∈ listedUnder
        (invert (a.deviceMap.toList.map fun it => (it.2.getCRC32IDStr, types it.2))) t ↔
      ∃ (key : Str) (device : HNMDARecord), a.deviceMap[key]? = some device ∧
        device.getCRC32IDStr = id ∧ t ∈ types device := by
  unfold listedUnder
  rw [mem_invert]
  constructor
  · rintro ⟨row, hrow, hid, ht⟩
    obtain ⟨it, hit, rfl⟩ := List.mem_map.mp hrow
    exact ⟨it.1, it.2, Std.ExtTreeMap.mem_toList_iff_getElem?_eq_some.mp hit, hid, ht⟩
  · rintro ⟨key, device, hget, hid, ht⟩
    have hmem : (key, device) ∈ a.deviceMap.toList :=
      Std.ExtTreeMap.mem_toList_iff_getElem?_eq_some.mpr hget
    exact ⟨_, List.mem_map.mpr ⟨_, hmem, rfl⟩, hid, ht⟩

/-- **A rebuild of the provider index is exact.** -/
theorem rebuildSrvProviderMap_exact {a : HNManagedDeviceArbiter} {t id : Str} :
    id ∈ listedUnder a.rebuildSrvProviderMap.providerMap t ↔
      ∃ (key : Str) (device : HNMDARecord), a.deviceMap[key]? = some device ∧
        device.getCRC32IDStr = id ∧ t ∈ device.getSrvProviderTSList :=
  mem_invert_devices

/-- **A rebuild of the desired index is exact.** -/
theorem rebuildSrvMappings_exact {a : HNManagedDeviceArbiter} {t id : Str} :
    id ∈ listedUnder a.rebuildSrvMappings.servicesMap t ↔
      ∃ (key : Str) (device : HNMDARecord), a.deviceMap[key]? = some device ∧
        device.getCRC32IDStr = id ∧ t ∈ device.getSrvMappingTSList :=
  mem_invert_devices

/-- The service lookup reads the index. -/
theorem doesDeviceProvideService_iff {a : HNManagedDeviceArbiter} {crc32ID srvType : Str} :
    a.doesDeviceProvideService crc32ID srvType = true ↔
      crc32ID ∈ listedUnder a.providerMap srvType := by
  unfold HNManagedDeviceArbiter.doesDeviceProvideService listedUnder
  cases a.providerMap[srvType]? with
  | none => simp
  | some ids => simp

/-- The device list read back after a record is written under a key. -/
@[simp] theorem setDevice_get {a : HNManagedDeviceArbiter} {crc32ID key : Str}
    {device : HNMDARecord} :
    (a.setDevice crc32ID device).deviceMap[key]? =
      if crc32ID = key then some device else a.deviceMap[key]? :=
  OrdMap.get_insert a.deviceMap crc32ID key device

end Rebuild

end HNodeMgmt.Arbiter
