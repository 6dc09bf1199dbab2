/-
  HNodeMgmt.Arbiter.Record — one known device (`HNMDARecord`).

  The record's own operations, and the record that the main loop builds from a
  browser event.  The update mutex is left out: it guards fields against each
  other, and every field here is written in one step.
-/
import Mathlib.Tactic.Common
import HNodeMgmt.Arbiter.SrvMap

namespace HNodeMgmt.Arbiter

open Lib

/-! ## §1. The record. -/

structure HNMDARecord [Platform] where
  mgmtState : MgmtState
  ownerState : OwnerState
  discID : Str
  hnodeID : Platform.HNodeID
  devType : Str
  devVersion : Str
  instanceName : Str
  name : Str
  addrList : List HNMDARAddress
  ownerHNodeID : Platform.HNodeID
  mgmtCmd : HNMDMgmtCmd
  srvMapProvided : SrvMap
  srvMapDesired : SrvMap

namespace HNMDARecord

variable [Platform]

/-- The constructor. -/
def new : HNMDARecord :=
  { mgmtState := .notset, ownerState := .notset, discID := [], hnodeID := Platform.newHNodeID,
    devType := [], devVersion := [], instanceName := [], name := [], addrList := [],
    ownerHNodeID := Platform.newHNodeID, mgmtCmd := HNMDMgmtCmd.new,
    srvMapProvided := ∅, srvMapDesired := ∅ }

/-- The copy constructor, which leaves the owner's ID out. -/
def copy (r : HNMDARecord) : HNMDARecord := { r with ownerHNodeID := Platform.newHNodeID }

def getHNodeIDStr (r : HNMDARecord) : Str := Platform.getStr r.hnodeID

def getCRC32ID (r : HNMDARecord) : UInt32 := Platform.getCRC32 r.hnodeID

def getCRC32IDStr (r : HNMDARecord) : Str := Platform.getCRC32AsHexStr r.hnodeID

def setHNodeIDFromStr (r : HNMDARecord) (value : Str) : HNMDARecord :=
  { r with hnodeID := Platform.setFromStr r.hnodeID value }

def setManagementState (r : HNMDARecord) (value : MgmtState) : HNMDARecord :=
  { r with mgmtState := value }

def setOwnershipState (r : HNMDARecord) (value : OwnerState) : HNMDARecord :=
  { r with ownerState := value }

/-- `setOwnerID` goes through the text of the ID. -/
def setOwnerID (r : HNMDARecord) (ownerID : Platform.HNodeID) : HNMDARecord :=
  { r with ownerHNodeID := Platform.setFromStr r.ownerHNodeID (Platform.getStr ownerID) }

def clearOwnerID (r : HNMDARecord) : HNMDARecord :=
  { r with ownerHNodeID := Platform.clear r.ownerHNodeID }

/-! ## §2. Addresses. -/

/-- The loop of `addAddressInfo`: rewrite the first entry with this address,
else append a new one. -/
def addToAddrList (dnsName address : Str) (port : UInt16) : List HNMDARAddress → List HNMDARAddress
  | [] => [setAddressInfo dnsName address port]
  | a :: rest =>
    if a.address = address then setAddressInfo dnsName address port :: rest
    else a :: addToAddrList dnsName address port rest

def addAddressInfo (r : HNMDARecord) (dnsName address : Str) (port : UInt16) : HNMDARecord :=
  { r with addrList := addToAddrList dnsName address port r.addrList }

/-- The first address of the preferred type, if any. -/
def findPreferredConnection (r : HNMDARecord) (preferredType : AddrType) : Option HNMDARAddress :=
  (r.addrList.find? fun a => a.type == preferredType).map fun a =>
    setAddressInfo a.dnsName a.address a.port

/-- `updateRecord`: the identity, the name and the addresses of a newer
announcement.  States, services, instance and command stay. -/
def updateRecord (r newRecord : HNMDARecord) : HNMDARecord :=
  let r := { r with
    discID := newRecord.discID
    devType := newRecord.devType
    devVersion := newRecord.devVersion }
  let r := r.setHNodeIDFromStr newRecord.getHNodeIDStr
  let r := { r with name := newRecord.name }
  newRecord.addrList.foldl (fun r a => r.addAddressInfo a.dnsName a.address a.port) r

/-! ## §3. Services and the command. -/

def startSrvProviderUpdates (r : HNMDARecord) : HNMDARecord :=
  { r with srvMapProvided := startSrvUpdates r.srvMapProvided }

def updateSrvProvider (r : HNMDARecord) (srvType : Str) : HNMDARecord × Bool :=
  ({ r with srvMapProvided := (updateSrv r.srvMapProvided srvType).1 },
    (updateSrv r.srvMapProvided srvType).2)

def completeSrvProviderUpdates (r : HNMDARecord) : HNMDARecord × Bool :=
  ({ r with srvMapProvided := (completeSrvUpdates r.srvMapProvided).1 },
    (completeSrvUpdates r.srvMapProvided).2)

def getSrvProviderTSList (r : HNMDARecord) : List Str := srvTSList r.srvMapProvided

def updateSrvMapping (r : HNMDARecord) (srvType : Str) : HNMDARecord × Bool :=
  ({ r with srvMapDesired := (updateSrv r.srvMapDesired srvType).1 },
    (updateSrv r.srvMapDesired srvType).2)

def getSrvMappingTSList (r : HNMDARecord) : List Str := srvTSList r.srvMapDesired

/-- The empty string stands for a service the record does not provide. -/
def getServiceProviderURI (r : HNMDARecord) (srvType : Str) : Str :=
  match r.srvMapProvided[srvType]? with
  | none => []
  | some ep => ep.rootURI

/-- `some none` is FAILURE: the stored URI does not parse.  `none` is the exception
of `setPath`, which stands outside of the `try`. -/
def getServiceProviderURIWithExtendedPath (r : HNMDARecord) (srvType pathExt : Str) :
    Option (Option Str) :=
  match Platform.parseURI (r.getServiceProviderURI srvType) with
  | none => some none
  | some uri =>
    if pathExt.isEmpty then some (some (Platform.uriToString uri))
    else (Platform.uriSetPath uri (Platform.uriPath uri ++ pathExt)).map fun uri =>
      some (Platform.uriToString uri)

def setMgmtCmdFromJSON (r : HNMDARecord) (body : Body) : HNMDARecord × HNMDLResult :=
  ({ r with mgmtCmd := (r.mgmtCmd.setFromJSON body).1 }, (r.mgmtCmd.setFromJSON body).2)

/-! ## §4. Discovery events. -/

end HNMDARecord

/-- An ADD event of the browser: the text record, and the address entries
(host name, address, port).  The browser reports one entry an event. -/
structure DiscoverEvent where
  name : Str
  devType : Str
  hnodeID : Str
  txtName : Str
  addrs : List (Str × Str × UInt16)
  deriving DecidableEq, Repr

/-- The `notifyRec` the main loop builds from an ADD event. -/
def DiscoverEvent.toRecord [Platform] (event : DiscoverEvent) : HNMDARecord :=
  let r : HNMDARecord := { HNMDARecord.new with discID := event.name, devType := event.devType }
  let r := r.setHNodeIDFromStr event.hnodeID
  let r := { r with name := event.txtName }
  event.addrs.foldl (fun r a => r.addAddressInfo a.1 a.2.1 a.2.2) r

/-! ## §5. What the operations leave alone. -/

section Frame

variable [Platform]

/-- Everything of a record but its addresses. -/
private theorem foldl_addAddressInfo {ι : Type} (f : ι → Str × Str × UInt16) :
    ∀ (l : List ι) (r : HNMDARecord),
      l.foldl (fun r a => r.addAddressInfo (f a).1 (f a).2.1 (f a).2.2) r =
        { r with addrList :=
            (l.foldl (fun r a => r.addAddressInfo (f a).1 (f a).2.1 (f a).2.2) r).addrList }
  | [], _ => rfl
  | a :: l, r => by
      rw [List.foldl_cons, foldl_addAddressInfo f l]
      rfl

/-- Rediscovery rewrites the announced fields and nothing else. -/
theorem updateRecord_frame (r newRecord : HNMDARecord) :
    r.updateRecord newRecord =
      { r with
        discID := newRecord.discID
        devType := newRecord.devType
        devVersion := newRecord.devVersion
        hnodeID := Platform.setFromStr r.hnodeID newRecord.getHNodeIDStr
        name := newRecord.name
        addrList := (r.updateRecord newRecord).addrList } := by
  conv_lhs => rw [HNMDARecord.updateRecord, foldl_addAddressInfo fun a : HNMDARAddress =>
    (a.dnsName, a.address, a.port)]
  rfl

@[simp] theorem updateRecord_mgmtState (r newRecord : HNMDARecord) :
    (r.updateRecord newRecord).mgmtState = r.mgmtState := by rw [updateRecord_frame]

@[simp] theorem updateRecord_ownerState (r newRecord : HNMDARecord) :
    (r.updateRecord newRecord).ownerState = r.ownerState := by rw [updateRecord_frame]

@[simp] theorem updateRecord_mgmtCmd (r newRecord : HNMDARecord) :
    (r.updateRecord newRecord).mgmtCmd = r.mgmtCmd := by rw [updateRecord_frame]

@[simp] theorem updateRecord_srvMapProvided (r newRecord : HNMDARecord) :
    (r.updateRecord newRecord).srvMapProvided = r.srvMapProvided := by rw [updateRecord_frame]

@[simp] theorem updateRecord_srvMapDesired (r newRecord : HNMDARecord) :
    (r.updateRecord newRecord).srvMapDesired = r.srvMapDesired := by rw [updateRecord_frame]

@[simp] theorem updateRecord_getCRC32IDStr (r newRecord : HNMDARecord) :
    (r.updateRecord newRecord).getCRC32IDStr =
      Platform.getCRC32AsHexStr (Platform.setFromStr r.hnodeID newRecord.getHNodeIDStr) := by
  rw [updateRecord_frame]
  rfl

/-- What the main loop's record is, up to its addresses: it is a new record,
with no state, no service and no command. -/
theorem toRecord_frame (event : DiscoverEvent) :
    event.toRecord =
      { HNMDARecord.new with
        discID := event.name
        devType := event.devType
        hnodeID := Platform.setFromStr Platform.newHNodeID event.hnodeID
        name := event.txtName
        addrList := event.toRecord.addrList } := by
  conv_lhs => rw [DiscoverEvent.toRecord, foldl_addAddressInfo fun a : Str × Str × UInt16 => a]
  rfl

@[simp] theorem toRecord_ownerState (event : DiscoverEvent) :
    event.toRecord.ownerState = .notset := by rw [toRecord_frame]; rfl

@[simp] theorem toRecord_srvMapProvided (event : DiscoverEvent) :
    event.toRecord.srvMapProvided = ∅ := by rw [toRecord_frame]; rfl

@[simp] theorem toRecord_srvMapDesired (event : DiscoverEvent) :
    event.toRecord.srvMapDesired = ∅ := by rw [toRecord_frame]; rfl

end Frame

end HNodeMgmt.Arbiter
