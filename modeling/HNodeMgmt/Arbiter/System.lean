/-
  HNodeMgmt.Arbiter.System — the monitor thread beside the main thread.

  `runMonitoringLoop` as a thread of its own: it wakes up, walks the device
  map, and for each device reads the management state, runs that state's case
  and writes the next state.  A REST helper is two steps with the network in
  between.  The main thread's calls may fall between ANY two of these steps;
  each of them holds the map mutex, so it is one step.

  Records are never erased and `std::map` iterators survive insertion, so the
  monitor's position is the key it stands at.
-/
import Mathlib.Tactic.Common
import HNodeMgmt.Lib.Machine
import HNodeMgmt.RefPlatform
import HNodeMgmt.Arbiter.Rest

namespace HNodeMgmt.Arbiter

open Lib

/-! ## §1. The cases of the switch. -/

/-- States whose case is empty: the monitor writes nothing. -/
def idleState : MgmtState → Bool
  | .unclaimed | .notAvailable | .otherMgr | .disappearing | .offline | .notset => true
  | _ => false

/-- The helper a case calls; `executeDeviceMgmtCmd` goes by the command's type
and has none for a command that is not set. -/
def caseOp (st : MgmtState) (cmdType : CmdType) : Option RestOp :=
  match st with
  | .optInfo => some .updateDeviceOperationalInfo
  | .ownerInfo => some .updateDeviceOwnerInfo
  | .srvProvideInfo => some .updateDeviceServicesProvideInfo
  | .srvMappingInfo => some .updateDeviceServicesMappingInfo
  | .srvMapUpdate => some .executeDeviceServicesUpdateMapping
  | .execCmd =>
    match cmdType with
    | .claimdev => some .sendDeviceClaimRequest
    | .releasedev => some .sendDeviceReleaseRequest
    | .setdevparams => some .sendDeviceSetParameters
    | .notset => none
  | .updateHealth => some .updateDeviceHealthInfo
  | .updateStrref => some .updateDeviceStringReferences
  | _ => none

theorem caseOp_ownerInfo {st : MgmtState} {cmdType : CmdType}
    (hop : caseOp st cmdType = some .updateDeviceOwnerInfo) : st = .ownerInfo := by
  cases st <;> cases cmdType <;> first | rfl | cases hop

theorem caseOp_operationalInfo {st : MgmtState} {cmdType : CmdType}
    (hop : caseOp st cmdType = some .updateDeviceOperationalInfo) : st = .optInfo := by
  cases st <;> cases cmdType <;> first | rfl | cases hop

theorem caseOp_provideInfo {st : MgmtState} {cmdType : CmdType}
    (hop : caseOp st cmdType = some .updateDeviceServicesProvideInfo) :
    st = .srvProvideInfo := by
  cases st <;> cases cmdType <;> first | rfl | cases hop

theorem caseOp_mappingInfo {st : MgmtState} {cmdType : CmdType}
    (hop : caseOp st cmdType = some .updateDeviceServicesMappingInfo) : st = .srvMappingInfo := by
  cases st <;> cases cmdType <;> first | rfl | cases hop

theorem caseOp_updateMapping {st : MgmtState} {cmdType : CmdType}
    (hop : caseOp st cmdType = some .executeDeviceServicesUpdateMapping) :
    st = .srvMapUpdate := by
  cases st <;> cases cmdType <;> first | rfl | cases hop

theorem caseOp_setParams {st : MgmtState} {cmdType : CmdType}
    (hop : caseOp st cmdType = some .sendDeviceSetParameters) : st = .execCmd := by
  cases st <;> cases cmdType <;> first | rfl | cases hop

section

variable [Platform]

/-- The ownership a case sets before it writes the next state. -/
def caseOwnership (st : MgmtState) (device : HNMDARecord) : HNMDARecord :=
  match st with
  | .self => device.setOwnershipState .mine
  | .discovered => device.setOwnershipState .unknown
  | .recovered => device.setOwnershipState .mine
  | _ => device

/-- The state a case writes, and its wait, given the helper's result and the
device as the helper left it. -/
def nextState (a : HNManagedDeviceArbiter) (device : HNMDARecord) (st : MgmtState)
    (result : HNMDLResult) : MgmtState × Nat :=
  match st, result with
  | .self, _ => (.self, 10)
  | .discovered, _ => (.optInfo, 0)
  | .recovered, _ => (.optInfo, 0)
  | .optInfo, .failure => (.offline, 10)
  | .optInfo, .success => (.ownerInfo, 0)
  | .ownerInfo, .failure => (.offline, 10)
  | .ownerInfo, .success =>
    match device.ownerState with
    | .mine => (.srvProvideInfo, 0)
    | .other => (.otherMgr, 0)
    | .available => (.unclaimed, 0)
    | .unavailable => (.notAvailable, 0)
    | .notset | .unknown => (.offline, 10)
  | .srvProvideInfo, .failure => (.offline, 10)
  | .srvProvideInfo, .success => (.srvMappingInfo, 0)
  | .srvMappingInfo, .failure => (.active, 10)
  | .srvMappingInfo, .success => (.srvMapUpdate, 0)
  | .srvMapUpdate, .failure => (.offline, 10)
  | .srvMapUpdate, .success =>
    if a.doesDeviceProvideService device.getCRC32IDStr (lit "hnsrv-health-source") then
      (.updateHealth, 0)
    else (.active, 10)
  | .active, _ => (.active, 10)
  | .execCmd, .failure => (.offline, 10)
  | .execCmd, .success => (.optInfo, 2)
  | .updateHealth, _ => (.updateStrref, 10)
  | .updateStrref, _ => (.updateHealth, 10)
  -- the idle states, whose cases write nothing
  | st, _ => (st, 10)

end

/-! ## §2. The two threads. -/

/-- Where the monitor thread is.  `dead`: an exception has left `run`. -/
inductive MonitorPhase where
  | idle
  | atDevice (crc32ID : Str)
  | acting (crc32ID : Str) (st : MgmtState)
  | waiting (crc32ID : Str) (st : MgmtState) (op : RestOp)
  | writing (crc32ID : Str) (st : MgmtState) (next : MgmtState × Nat)
  | dead
  deriving DecidableEq, Repr

structure Sys [Platform] where
  arbiter : HNManagedDeviceArbiter
  monitor : MonitorPhase

inductive Label where
  -- the main thread
  | notifyDiscoverAdd (event : DiscoverEvent)
  | notifyDiscoverRemove (event : DiscoverEvent)
  | setDeviceMgmtCmdFromJSON (crc32ID : Str) (body : Body)
  | startDeviceMgmtCmd (crc32ID : Str)
  -- the monitor thread
  | wakeup
  | readState
  | act
  | reply (o : RestOutcome)
  | writeState
  deriving DecidableEq, Repr

/-- What an observer of the network and of `executeDeviceMgmtCmd` sees. -/
inductive Event where
  | request (crc32ID : Str) (req : HttpRequest)
  | ownerReply (crc32ID : Str) (body : Body)
  | cmdPassed (crc32ID : Str) (cmd : HNMDMgmtCmd)
  | updateFields (crc32ID : Str) (fields : Option (Option Str))
  deriving DecidableEq, Repr

section

variable [Platform]

/-- `it++` of the walk. -/
def advance (a : HNManagedDeviceArbiter) (crc32ID : Str) : MonitorPhase :=
  match OrdMap.next? a.deviceMap crc32ID with
  | none => .idle
  | some next => .atDevice next

/-- The case ends: the state to write is fixed. -/
def caseDone (a : HNManagedDeviceArbiter) (crc32ID : Str) (st : MgmtState)
    (result : HNMDLResult) : Sys :=
  match a.deviceMap[crc32ID]? with
  | none => { arbiter := a, monitor := .dead }
  | some device =>
    { arbiter := a, monitor := .writing crc32ID st (nextState a device st result) }

/-- The call of `executeDeviceMgmtCmd`, if the case makes it. -/
def passedEvent (crc32ID : Str) (st : MgmtState) (device : HNMDARecord) : List Event :=
  if st = .execCmd then [.cmdPassed crc32ID device.mgmtCmd] else []

/-- The first half of a case. -/
def actStep (a : HNManagedDeviceArbiter) (crc32ID : Str) (st : MgmtState)
    (device : HNMDARecord) : Sys × List Event :=
  match caseOp st device.mgmtCmd.cmdType with
  | none =>
    let a := a.setDevice crc32ID (caseOwnership st device)
    (caseDone a crc32ID st .failure, passedEvent crc32ID st device)
  | some op =>
    let (device', started) := op.start a device
    let a := a.setDevice crc32ID device'
    match started with
    | .finished result => (caseDone a crc32ID st result, passedEvent crc32ID st device)
    | .request req =>
      ({ arbiter := a, monitor := .waiting crc32ID st op },
        passedEvent crc32ID st device ++ [.request crc32ID req])
    | .raised => ({ arbiter := a, monitor := .dead }, passedEvent crc32ID st device)

/-- What an observer sees of the second half: the owner replies with an OK
status, and the fields the parameters are rendered to. -/
def replyEvents (crc32ID : Str) (device : HNMDARecord) (op : RestOp) (o : RestOutcome) :
    List Event :=
  match op, o.receive with
  | .updateDeviceOwnerInfo, .ok body => [.ownerReply crc32ID body]
  | .sendDeviceSetParameters, _ =>
    if o.send then [.updateFields crc32ID device.mgmtCmd.getUpdateFieldsJSON] else []
  | _, _ => []

/-- The second half of a case. -/
def replyStep (a : HNManagedDeviceArbiter) (crc32ID : Str) (st : MgmtState) (op : RestOp)
    (device : HNMDARecord) (o : RestOutcome) : Sys × List Event :=
  match op.finish a crc32ID device o with
  | none => ({ arbiter := a, monitor := .dead }, replyEvents crc32ID device op o)
  | some (a, result) => (caseDone a crc32ID st result, replyEvents crc32ID device op o)

/-- The step function. -/
def Sys.step (s : Sys) : Label → Option (Sys × List Event)
  | .notifyDiscoverAdd event =>
    some ({ s with arbiter := s.arbiter.notifyDiscoverAdd event.toRecord }, [])
  | .notifyDiscoverRemove event =>
    some ({ s with arbiter := s.arbiter.notifyDiscoverRemove event.toRecord }, [])
  | .setDeviceMgmtCmdFromJSON crc32ID body =>
    some ({ s with arbiter := (s.arbiter.setDeviceMgmtCmdFromJSON crc32ID body).1 }, [])
  | .startDeviceMgmtCmd crc32ID =>
    some ({ s with arbiter := (s.arbiter.startDeviceMgmtCmd crc32ID).1 }, [])
  | .wakeup =>
    match s.monitor with
    | .idle =>
      some ({ arbiter := { s.arbiter with monitorWaitTime := 10 }
              monitor := match s.arbiter.deviceMap.keys.head? with
                | none => .idle
                | some first => .atDevice first }, [])
    | _ => none
  | .readState =>
    match s.monitor with
    | .atDevice crc32ID =>
      (s.arbiter.deviceMap[crc32ID]?).map fun device =>
        ({ s with
            monitor := if idleState device.mgmtState then advance s.arbiter crc32ID
              else .acting crc32ID device.mgmtState }, [])
    | _ => none
  | .act =>
    match s.monitor with
    | .acting crc32ID st => (s.arbiter.deviceMap[crc32ID]?).map (actStep s.arbiter crc32ID st)
    | _ => none
  | .reply o =>
    match s.monitor with
    | .waiting crc32ID st op =>
      (s.arbiter.deviceMap[crc32ID]?).map fun device => replyStep s.arbiter crc32ID st op device o
    | _ => none
  | .writeState =>
    match s.monitor with
    | .writing crc32ID _ next =>
      (s.arbiter.deviceMap[crc32ID]?).map fun device =>
        ({ arbiter := s.arbiter.setNextMonitorState crc32ID device next.1 next.2
           monitor := advance s.arbiter crc32ID }, [])
    | _ => none

/-- The arbiter beside its monitor. -/
def system : Machine Sys Label Event := { step := Sys.step }

/-- The default mapping `runMonitoringLoop` sets up, and nothing discovered. -/
def Sys.init (mgmtDevice : HNodeDevice) (caches : Platform.Caches) : Sys :=
  { arbiter :=
      { mgmtDevice, deviceMap := ∅, providerMap := ∅, servicesMap := ∅
        defaultMappings := (∅ : StrMap HNMDSrvRef).insertIfNew (lit "hnsrv-health-sink")
          { devCRC32ID := mgmtDevice.hnodeIDCRC32Str, srvType := lit "hnsrv-health-sink" }
        caches, monitorWaitTime := 10 }
    monitor := .idle }

end

/-! ## §3. Two nodes to run it on. -/

/-- The manager and its device are the two nodes quoted in the source. -/
def sampleManager : HNodeDevice :=
  { hnodeIDStr := lit "54:cb:b3:de:e4:7f:11:ec:84:ac:d0:50:99:9c:b1:04"
    hnodeIDCRC32Str := lit "2c1b21da", hnodeIDCRC32 := 0x2c1b21da
    restAddress := lit "192.168.1.2", restPort := 80, restRootPath := lit "/hnode2" }

def sampleManagerFound : DiscoverEvent :=
  { name := lit "mgmt", devType := lit "hnode2-mgmt-device"
    hnodeID := sampleManager.hnodeIDStr, txtName := lit "manager"
    addrs := [(lit "mgmt.local", lit "192.168.1.2", 80)] }

def sampleDeviceFound : DiscoverEvent :=
  { name := lit "irrigation", devType := lit "hnode2-irrigation-device"
    hnodeID := lit "29:72:e2:ae:db:90:11:ec:89:a1:b8:27:eb:52:da:55", txtName := lit "garden"
    addrs := [(lit "garden.local", lit "192.168.1.10", 8080)] }

/-- An answer with status OK. -/
def okReply (body : JsonVar) : RestOutcome :=
  { send := true, render := true, response := some (200, some body), cached := true }

def stringField (s : String) : JsonField := { asString := some (lit s), asBool := none }

/-- The owner reply that names the manager. -/
def ownedByManager : JsonVar :=
  .object [(lit "isOwned", { asString := none, asBool := some true }),
    (lit "owner_hnodeID", stringField "54:cb:b3:de:e4:7f:11:ec:84:ac:d0:50:99:9c:b1:04")]

end HNodeMgmt.Arbiter
