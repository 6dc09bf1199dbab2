/-
  HNodeMgmt.Arbiter.DeviceOps — the REST operations as whole functions.

  `Arbiter.Rest` has the two halves of each operation, without the device's
  mutex.  Here an operation is the whole function, statement by statement, with
  its calls of `lockForUpdate` and `unlockForUpdate` and with the exceptions
  where they are raised.  What the libraries and the other threads do meanwhile
  is given.

  Main results:
    * `run_eq_wholeCall` — without its locks an operation is its two halves.
-/
import Mathlib.Tactic.Common
import HNodeMgmt.Lib.Locked
import HNodeMgmt.Arbiter.Rest

namespace HNodeMgmt.Arbiter

open Lib

section Operations

variable [Platform]

/-! ## §1. What an operation works with. -/

/-- The arbiter, and the record `device` refers to. -/
structure OpState where
  arbiter : HNManagedDeviceArbiter
  device : HNMDARecord

/-- What happens to an operation from outside: the HTTP session, with the cache
its reply goes to, and what the other threads do while it waits for the network. -/
structure OpOutcome where
  rest : RestOutcome
  meanwhile : OpState → OpState

abbrev DeviceOp := Prog HttpRequest OpState

def lockForUpdate : DeviceOp Unit := Prog.act .lock

def unlockForUpdate : DeviceOp Unit := Prog.act .unlock

/-- Write to the record, which is in the device map under `crc32ID`. -/
def writeDevice (crc32ID : Str) (device : HNMDARecord) : DeviceOp Unit :=
  Prog.modify fun s => { arbiter := s.arbiter.setDevice crc32ID device, device }

def modifyArbiter (f : HNManagedDeviceArbiter → HNManagedDeviceArbiter) : DeviceOp Unit :=
  Prog.modify fun s => { s with arbiter := f s.arbiter }

/-- `session.sendRequest`. -/
def sendRequest (o : OpOutcome) (req : HttpRequest) : DeviceOp Unit := do
  Prog.act (.other req)
  Prog.modify o.meanwhile
  if o.rest.send = false then Prog.raise else pure ()

/-- `Stringifier::stringify` under its `try`: whether it is through. -/
def stringify (o : OpOutcome) : DeviceOp Bool :=
  Prog.tryCatch (if o.rest.render = false then Prog.raise else pure true) (pure false)

/-- `session.receiveResponse`, and the body unless the status is another than OK. -/
def receiveOK (o : OpOutcome) : DeviceOp (Option Body) := do
  let (status, body) ← Prog.orRaise o.rest.response
  pure (if status ≠ httpOK then none else some body)

/-- A request without a body, or whose rendering does not matter. -/
def exchange (o : OpOutcome) (req : HttpRequest) : DeviceOp (Option Body) := do
  sendRequest o req
  receiveOK o

/-- A request whose body has to be rendered. -/
def exchangeRendered (o : OpOutcome) (req : HttpRequest) : DeviceOp (Option Body) := do
  sendRequest o req
  if ← stringify o then receiveOK o else pure none

/-- The opening of the operations on fixed paths. -/
def onConnection (k : HNMDARAddress → DeviceOp HNMDLResult) : DeviceOp HNMDLResult := do
  lockForUpdate
  let s ← Prog.get
  match s.device.findPreferredConnection .ipv4 with
  | none => do
    unlockForUpdate
    pure .failure
  | some dcInfo => do
    unlockForUpdate
    k dcInfo

/-- SUCCESS for an OK status. -/
def agreed (reply : Option Body) : HNMDLResult := if reply.isSome then .success else .failure

/-! ## §2. The operations. -/

/-- The members of the info reply, up to the first that does not convert. -/
def infoFields (device : HNMDARecord) : Body → Except HNMDARecord HNMDARecord
  | some (.object jsRoot) => do
    let d ← updateInfoField jsRoot (lit "deviceType") (fun v d => { d with devType := v }) device
    let d ← updateInfoField jsRoot (lit "instance") (fun v d => { d with instanceName := v }) d
    let d ← updateInfoField jsRoot (lit "name") (fun v d => { d with name := v }) d
    updateInfoField jsRoot (lit "version") (fun v d => { d with devVersion := v }) d
  | _ => .error device

/-- The body of the `try` block of `updateDeviceOperationalInfo`. -/
def readInfo (crc32ID : Str) (body : Body) : DeviceOp Unit := do
  let s ← Prog.get
  match infoFields s.device body with
  | .error device => do
    writeDevice crc32ID device
    Prog.raise
  | .ok device => writeDevice crc32ID device

/-- The handler that gives up the ownership. -/
def ownershipUnknown (crc32ID : Str) : DeviceOp Unit := do
  let s ← Prog.get
  writeDevice crc32ID (s.device.setOwnershipState .unknown)

def updateDeviceOperationalInfo (crc32ID : Str) (o : OpOutcome) : DeviceOp HNMDLResult :=
  onConnection fun dcInfo => do
    let reply ← exchange o (requestTo (Platform.httpURI dcInfo.address dcInfo.port
      (lit "/hnode2/device/info")) .get .empty)
    match reply with
    | none => pure .failure
    | some body =>
      Prog.tryCatch
        (do
          lockForUpdate
          let _ ← readInfo crc32ID body
          unlockForUpdate
          pure .success)
        (do
          ownershipUnknown crc32ID
          unlockForUpdate
          pure .failure)

/-- The body of the `try` block of `updateDeviceOwnerInfo`: nothing is written
before the members are read. -/
def readOwner (crc32ID : Str) (body : Body) : DeviceOp Unit := do
  let _ ← Prog.orRaise (parseOwnerReply body)
  let s ← Prog.get
  writeDevice crc32ID (applyOwnerReply s.arbiter.getSelfCRC32ID s.device body).1

def updateDeviceOwnerInfo (crc32ID : Str) (o : OpOutcome) : DeviceOp HNMDLResult :=
  onConnection fun dcInfo => do
    let reply ← exchange o (requestTo (Platform.httpURI dcInfo.address dcInfo.port
      (lit "/hnode2/device/owner")) .get .empty)
    match reply with
    | none => pure .failure
    | some body =>
      Prog.tryCatch
        (do
          lockForUpdate
          let _ ← readOwner crc32ID body
          unlockForUpdate
          pure .success)
        (do
          ownershipUnknown crc32ID
          unlockForUpdate
          pure .failure)

def sendDeviceClaimRequest (o : OpOutcome) : DeviceOp HNMDLResult :=
  onConnection fun dcInfo => do
    let s ← Prog.get
    let reply ← exchangeRendered o (requestTo (Platform.httpURI dcInfo.address dcInfo.port
      (lit "/hnode2/device/owner")) .put (.owner s.arbiter.getSelfHNodeIDStr))
    pure (agreed reply)

def sendDeviceReleaseRequest (o : OpOutcome) : DeviceOp HNMDLResult :=
  onConnection fun dcInfo => do
    let reply ← exchange o (requestTo (Platform.httpURI dcInfo.address dcInfo.port
      (lit "/hnode2/device/owner")) .delete .empty)
    pure (agreed reply)

def sendDeviceSetParameters (o : OpOutcome) : DeviceOp HNMDLResult :=
  onConnection fun dcInfo => do
    let reply ← exchange o (requestTo (Platform.httpURI dcInfo.address dcInfo.port
      (lit "/hnode2/device/info")) .put .updateFields)
    pure (agreed reply)

/-- The body of the `try` block of `updateDeviceServicesProvideInfo`. -/
def readProvided (crc32ID : Str) (body : Body) : DeviceOp Bool := do
  let s ← Prog.get
  writeDevice crc32ID
    { s.device with srvMapProvided := (applyServicesReply s.device.srvMapProvided body).1 }
  Prog.orRaise (applyServicesReply s.device.srvMapProvided body).2

/-- The body of the `try` block of `updateDeviceServicesMappingInfo`. -/
def readDesired (crc32ID : Str) (body : Body) : DeviceOp Bool := do
  let s ← Prog.get
  writeDevice crc32ID
    { s.device with srvMapDesired := (applyServicesReply s.device.srvMapDesired body).1 }
  Prog.orRaise (applyServicesReply s.device.srvMapDesired body).2

/-- `abandonSrvProviderUpdates`, `abandonSrvMappingUpdates`: both bodies are empty. -/
def abandonSrvUpdates : DeviceOp Unit := pure ()

/-- What the two share: the `try` block, and the rebuild of the index after a
change. -/
def storeServices (read : Body → DeviceOp Bool)
    (rebuild : HNManagedDeviceArbiter → HNManagedDeviceArbiter) (body : Body) :
    DeviceOp HNMDLResult := do
  let changed ← Prog.tryCatch
    (do
      lockForUpdate
      let changed ← read body
      unlockForUpdate
      pure (some changed))
    (do
      abandonSrvUpdates
      unlockForUpdate
      pure none)
  match changed with
  | none => pure .failure
  | some true => do
    modifyArbiter rebuild
    pure .success
  | some false => pure .success

def updateDeviceServicesProvideInfo (crc32ID : Str) (o : OpOutcome) : DeviceOp HNMDLResult :=
  onConnection fun dcInfo => do
    let reply ← exchange o (requestTo (Platform.httpURI dcInfo.address dcInfo.port
      (lit "/hnode2/device/services/provided")) .get .empty)
    match reply with
    | none => pure .failure
    | some body =>
      storeServices (readProvided crc32ID) HNManagedDeviceArbiter.rebuildSrvProviderMap body

def updateDeviceServicesMappingInfo (crc32ID : Str) (o : OpOutcome) : DeviceOp HNMDLResult :=
  onConnection fun dcInfo => do
    let reply ← exchange o (requestTo (Platform.httpURI dcInfo.address dcInfo.port
      (lit "/hnode2/device/services/mappings")) .get .empty)
    match reply with
    | none => pure .failure
    | some body =>
      storeServices (readDesired crc32ID) HNManagedDeviceArbiter.rebuildSrvMappings body

def executeDeviceServicesUpdateMapping (crc32ID : Str) (o : OpOutcome) :
    DeviceOp HNMDLResult := do
  lockForUpdate
  let s ← Prog.get
  writeDevice crc32ID (mappingChanges s.arbiter s.device).1
  unlockForUpdate
  if (mappingChanges s.arbiter s.device).2.isEmpty then pure .success
  else
    -- from here on the device is not locked
    match (mappingChanges s.arbiter s.device).1.findPreferredConnection .ipv4 with
    | none => do
      unlockForUpdate
      pure .failure
    | some dcInfo => do
      unlockForUpdate
      let reply ← exchangeRendered o (requestTo (Platform.httpURI dcInfo.address dcInfo.port
        (lit "/hnode2/device/services/mappings")) .put
        (.mappings (mappingChanges s.arbiter s.device).2.toList))
      pure (agreed reply)

/-- `m_healthCache.updateDeviceHealth`. -/
def updateDeviceHealth (o : OpOutcome) (body : Body) : DeviceOp Unit :=
  if o.rest.cached then Prog.modify fun s => { s with arbiter := { s.arbiter with
    caches := (Platform.updateDeviceHealth s.arbiter.caches s.device.getCRC32ID body).1 } }
  else Prog.raise

/-- `m_formatStrCache.getUncachedStrRefList`. -/
def getUncachedStrRefList : DeviceOp (List Str) := do
  let s ← Prog.get
  Prog.orRaise (Platform.getUncachedStrRefList s.arbiter.caches s.device.getCRC32ID)

/-- `m_formatStrCache.updateStringDefinitions`. -/
def updateStringDefinitions (o : OpOutcome) (body : Body) : DeviceOp Unit :=
  if o.rest.cached then Prog.modify fun s => { s with arbiter := { s.arbiter with
    caches := (Platform.updateStringDefinitions s.arbiter.caches s.device.getCRC32IDStr body).1 } }
  else Prog.raise

/-- The second locked region of the two operations on published URIs. -/
def storeInCache (update : Body → DeviceOp Unit) (reply : Option Body) : DeviceOp HNMDLResult :=
  match reply with
  | none => pure .failure
  | some body => do
    lockForUpdate
    let _ ← update body
    unlockForUpdate
    pure .success

/-- The opening of the two operations on published URIs; the device is still
locked when they go on. -/
def onPublishedURI (srvType pathExt : Str)
    (k : OpState → Platform.URI → DeviceOp HNMDLResult) : DeviceOp HNMDLResult := do
  lockForUpdate
  let s ← Prog.get
  let uriStr ← Prog.orRaise (s.device.getServiceProviderURIWithExtendedPath srvType pathExt)
  match uriStr with
  | none => do
    unlockForUpdate
    pure .failure
  | some uriStr => do
    -- `uri = uriStr` parses the text again, outside of any `try`
    let uri ← Prog.orRaise (Platform.parseURI uriStr)
    k s uri

def updateDeviceHealthInfo (o : OpOutcome) : DeviceOp HNMDLResult :=
  onPublishedURI (lit "hnsrv-health-source") [] fun _ uri => do
    unlockForUpdate
    let reply ← exchange o (requestTo uri .get .empty)
    storeInCache (updateDeviceHealth o) reply

def updateDeviceStringReferences (o : OpOutcome) : DeviceOp HNMDLResult :=
  onPublishedURI (lit "hnsrv-string-source") (lit "/format-strings") fun s uri => do
    let formatCodeList ← getUncachedStrRefList
    unlockForUpdate
    let reply ← exchange o (requestTo uri .put (.strRefs s.device.getCRC32IDStr formatCodeList))
    storeInCache (updateStringDefinitions o) reply

/-- The operation on the device under `crc32ID`. -/
def RestOp.run (crc32ID : Str) (o : OpOutcome) : RestOp → DeviceOp HNMDLResult
  | .updateDeviceOperationalInfo => Arbiter.updateDeviceOperationalInfo crc32ID o
  | .updateDeviceOwnerInfo => Arbiter.updateDeviceOwnerInfo crc32ID o
  | .sendDeviceClaimRequest => Arbiter.sendDeviceClaimRequest o
  | .sendDeviceReleaseRequest => Arbiter.sendDeviceReleaseRequest o
  | .sendDeviceSetParameters => Arbiter.sendDeviceSetParameters o
  | .updateDeviceServicesProvideInfo => Arbiter.updateDeviceServicesProvideInfo crc32ID o
  | .updateDeviceServicesMappingInfo => Arbiter.updateDeviceServicesMappingInfo crc32ID o
  | .executeDeviceServicesUpdateMapping => Arbiter.executeDeviceServicesUpdateMapping crc32ID o
  | .updateDeviceHealthInfo => Arbiter.updateDeviceHealthInfo o
  | .updateDeviceStringReferences => Arbiter.updateDeviceStringReferences o

/-! ## §3. The session. -/

/-- The result of a session: an exception, a status that is not OK, or a body. -/
def Received.result : Received → Option (Option Body)
  | .raised => none
  | .failed => some none
  | .ok body => some (some body)

variable {crc32ID : Str} {o : OpOutcome} {s : OpState}

theorem run_sendRequest (req : HttpRequest) : sendRequest o req s =
    { acts := [.other req], state := o.meanwhile s,
      result := if o.rest.send = false then none else some () } := by
  unfold sendRequest
  cases o.rest.send <;> rfl

theorem run_stringify : stringify o s =
    { acts := [], state := s, result := some o.rest.render } := by
  unfold stringify
  cases o.rest.render <;> rfl

theorem run_receiveOK : receiveOK o s =
    { acts := [], state := s,
      result := o.rest.response.map fun r => if r.1 ≠ httpOK then none else some r.2 } := by
  unfold receiveOK
  cases o.rest.response <;> rfl

/-- The rest of a session that was sent. -/
theorem receive_of_sent (hsend : o.rest.send = true) :
    (o.rest.response.map fun r => if r.1 ≠ httpOK then none else some r.2) =
      o.rest.receive.result := by
  unfold RestOutcome.receive
  rw [if_neg (by rw [hsend]; decide)]
  cases o.rest.response with
  | none => rfl
  | some r =>
    obtain ⟨status, body⟩ := r
    by_cases hst : status = httpOK
    · simp [hst, Received.result]
    · simp [hst, Received.result]

/-- A session issues its request, lets the others run, and makes no call on the
mutex. -/
theorem run_exchange (req : HttpRequest) :
    exchange o req s =
      { acts := [.other req], state := o.meanwhile s, result := o.rest.receive.result } := by
  have hsent := run_sendRequest (o := o) (s := s) req
  unfold exchange
  cases hsend : o.rest.send with
  | false =>
    rw [hsend] at hsent
    rw [Prog.run_bind_raised (by rw [hsent]; rfl), hsent]
    unfold RestOutcome.receive
    rw [hsend]
    rfl
  | true =>
    rw [hsend] at hsent
    rw [Prog.run_bind_some (by rw [hsent]; rfl), hsent, ← receive_of_sent hsend]
    show Prog.andThen _ (receiveOK o) = _
    unfold Prog.andThen
    rw [run_receiveOK]
    rfl

theorem run_exchangeRendered (req : HttpRequest) :
    exchangeRendered o req s =
      { acts := [.other req], state := o.meanwhile s,
        result := o.rest.receiveRendered.result } := by
  have hsent := run_sendRequest (o := o) (s := s) req
  unfold exchangeRendered RestOutcome.receiveRendered
  cases hsend : o.rest.send with
  | false =>
    rw [hsend] at hsent
    rw [Prog.run_bind_raised (by rw [hsent]; rfl), hsent]
    rfl
  | true =>
    rw [hsend] at hsent
    rw [Prog.run_bind_some (by rw [hsent]; rfl), hsent]
    unfold Prog.andThen
    rw [Prog.run_bind_some (by rw [run_stringify]), run_stringify]
    cases hrender : o.rest.render with
    | false => rfl
    | true =>
      show Prog.andThen _ _ = _
      unfold Prog.andThen
      simp only [if_true, run_receiveOK, receive_of_sent hsend]
      rfl

theorem quiet_exchange (req : HttpRequest) : Prog.Quiet (exchange o req) := by
  intro s
  rw [run_exchange]
  rfl

theorem quiet_exchangeRendered (req : HttpRequest) : Prog.Quiet (exchangeRendered o req) := by
  intro s
  rw [run_exchangeRendered]
  rfl

theorem run_orRaise {α : Type} (x : Option α) :
    (Prog.orRaise x : DeviceOp α) s = { acts := [], state := s, result := x } := by
  cases x <;> rfl

/-- FAILURE is a URI that does not parse, and nothing else. -/
theorem extendedPath_eq_failure (device : HNMDARecord) (srvType pathExt : Str) :
    device.getServiceProviderURIWithExtendedPath srvType pathExt = some none ↔
      Platform.parseURI (device.getServiceProviderURI srvType) = none := by
  unfold HNMDARecord.getServiceProviderURIWithExtendedPath
  cases Platform.parseURI (device.getServiceProviderURI srvType) with
  | none => simp
  | some uri =>
    by_cases hpath : pathExt.isEmpty = true
    · simp [hpath]
    · simp [hpath]

/-- `setPath` raises on the stored URI, which parses. -/
def SetPathRaises (device : HNMDARecord) (srvType pathExt : Str) : Prop :=
  pathExt.isEmpty = false ∧
    ∃ uri, Platform.parseURI (device.getServiceProviderURI srvType) = some uri ∧
      Platform.uriSetPath uri (Platform.uriPath uri ++ pathExt) = none

/-- Nothing else raises in the helper. -/
theorem extendedPath_eq_none {device : HNMDARecord} {srvType pathExt : Str} :
    device.getServiceProviderURIWithExtendedPath srvType pathExt = none ↔
      SetPathRaises device srvType pathExt := by
  unfold SetPathRaises HNMDARecord.getServiceProviderURIWithExtendedPath
  cases Platform.parseURI (device.getServiceProviderURI srvType) with
  | none => simp
  | some uri =>
    by_cases hpath : pathExt.isEmpty = true
    · simp [hpath]
    · simp [hpath]

theorem run_getUncachedStrRefList : getUncachedStrRefList s =
    { acts := [], state := s,
      result := Platform.getUncachedStrRefList s.arbiter.caches s.device.getCRC32ID } :=
  run_orRaise _

/-! ## §4. An operation without its locks. -/

/-- The second half of an operation: the arbiter it leaves and its result, where
none is an exception. -/
def afterReply (op : RestOp) (crc32ID : Str) (o : OpOutcome) (s : OpState) :
    HNManagedDeviceArbiter × Option HNMDLResult :=
  match op.finish s.arbiter crc32ID s.device o.rest with
  | none => (s.arbiter, none)
  | some (a, result) => (a, some result)

/-- How a started operation goes on. -/
def goOn (op : RestOp) (crc32ID : Str) (o : OpOutcome) (s : OpState) :
    RestStart → List HttpRequest × HNManagedDeviceArbiter × Option HNMDLResult
  | .finished result => ([], s.arbiter, some result)
  | .raised => ([], s.arbiter, none)
  | .request req => ([req], afterReply op crc32ID o (o.meanwhile s))

/-- An operation by its two halves: the requests it sends, and what it leaves. -/
def wholeCall (op : RestOp) (crc32ID : Str) (o : OpOutcome) (s : OpState) :
    List HttpRequest × HNManagedDeviceArbiter × Option HNMDLResult :=
  let started := op.start s.arbiter s.device
  goOn op crc32ID o
    { arbiter := s.arbiter.setDevice crc32ID started.1, device := started.1 } started.2

/-- The same of what was done. -/
def seen (d : Done HttpRequest OpState HNMDLResult) :
    List HttpRequest × HNManagedDeviceArbiter × Option HNMDLResult :=
  (others d.acts, d.state.arbiter, d.result)

theorem setDevice_setDevice (a : HNManagedDeviceArbiter) (crc32ID : Str)
    (device device' : HNMDARecord) :
    (a.setDevice crc32ID device).setDevice crc32ID device' = a.setDevice crc32ID device' := by
  unfold HNManagedDeviceArbiter.setDevice
  congr 1
  apply Std.ExtTreeMap.ext_getElem?
  intro key
  simp only [OrdMap.get_insert]
  split <;> rfl

theorem setDevice_self {a : HNManagedDeviceArbiter} {crc32ID : Str} {device : HNMDARecord}
    (hget : a.deviceMap[crc32ID]? = some device) : a.setDevice crc32ID device = a := by
  have hmap : a.deviceMap.insert crc32ID device = a.deviceMap := by
    apply Std.ExtTreeMap.ext_getElem?
    intro key
    rw [OrdMap.get_insert]
    split
    next heq => rw [← heq, hget]
    next => rfl
  unfold HNManagedDeviceArbiter.setDevice
  rw [hmap]

/-- An operation that writes nothing before its request. -/
theorem wholeCall_of_start {op : RestOp} {started : RestStart}
    (hstored : s.arbiter.deviceMap[crc32ID]? = some s.device)
    (hstart : op.start s.arbiter s.device = (s.device, started)) :
    wholeCall op crc32ID o s = goOn op crc32ID o s started := by
  unfold wholeCall
  rw [hstart]
  show goOn op crc32ID o { arbiter := s.arbiter.setDevice crc32ID s.device, device := s.device }
    started = _
  rw [setDevice_self hstored]

/-- A session and what follows it are the second half. -/
theorem seen_afterExchange {op : RestOp} {p : DeviceOp (Option Body)} {req : HttpRequest}
    {received : Received} {f : Option Body → DeviceOp HNMDLResult}
    (hp : p s = { acts := [.other req], state := o.meanwhile s, result := received.result })
    (hf : ∀ s, (match received.result with
      | none => ([], s.arbiter, none)
      | some reply => seen (f reply s)) = ([], afterReply op crc32ID o s)) :
    seen ((p >>= f) s) = ([req], afterReply op crc32ID o (o.meanwhile s)) := by
  have hafter := hf (o.meanwhile s)
  cases hres : received.result with
  | none =>
    rw [hres] at hp hafter
    rw [Prog.run_bind_raised (by rw [hp]), hp, ← (Prod.mk.inj hafter).2]
    rfl
  | some reply =>
    rw [hres] at hp hafter
    rw [Prog.run_bind_some (by rw [hp]), hp]
    obtain ⟨hreqs, hrest⟩ := Prod.mk.inj hafter
    rw [← hrest]
    exact Prod.ext (congrArg (req :: ·) hreqs) rfl

theorem seen_onConnection (k : HNMDARAddress → DeviceOp HNMDLResult) :
    seen (onConnection k s) =
      match s.device.findPreferredConnection .ipv4 with
      | none => ([], s.arbiter, some .failure)
      | some dcInfo => seen (k dcInfo s) := by
  have hopen : onConnection k s =
      Prog.andThen { acts := [.lock], state := s, result := some () }
        (match s.device.findPreferredConnection .ipv4 with
          | none => do
            unlockForUpdate
            pure .failure
          | some dcInfo => do
            unlockForUpdate
            k dcInfo) := rfl
  rw [hopen]
  cases s.device.findPreferredConnection .ipv4 with
  | none => rfl
  | some dcInfo => rfl

/-- An operation on a fixed path, which writes nothing before its request. -/
theorem seen_eq_wholeCall {op : RestOp} {method : HttpMethod} {path : Str} {payload : Payload}
    {p : HNMDARAddress → DeviceOp (Option Body)} {received : Received}
    {f : Option Body → DeviceOp HNMDLResult} {k : HNMDARAddress → DeviceOp HNMDLResult}
    (hstored : s.arbiter.deviceMap[crc32ID]? = some s.device)
    (hstart : op.start s.arbiter s.device = (s.device, openRequest s.device method path payload))
    (hk : ∀ dcInfo, k dcInfo s = (p dcInfo >>= f) s)
    (hp : ∀ dcInfo, p dcInfo s =
      { acts := [.other (requestTo (Platform.httpURI dcInfo.address dcInfo.port path) method
          payload)]
        state := o.meanwhile s, result := received.result })
    (hf : ∀ s, (match received.result with
      | none => ([], s.arbiter, none)
      | some reply => seen (f reply s)) = ([], afterReply op crc32ID o s)) :
    seen (onConnection k s) = wholeCall op crc32ID o s := by
  rw [seen_onConnection, wholeCall_of_start hstored hstart]
  unfold openRequest
  cases s.device.findPreferredConnection .ipv4 with
  | none => rfl
  | some dcInfo =>
    show seen (k dcInfo s) = ([_], afterReply op crc32ID o (o.meanwhile s))
    rw [hk dcInfo]
    exact seen_afterExchange (hp dcInfo) hf

/-- The operations that only want to know whether the device agreed. -/
theorem afterReply_acknowledged {op : RestOp} {received : Received}
    (hfinish : ∀ s : OpState, op.finish s.arbiter crc32ID s.device o.rest =
      acknowledged s.arbiter received) (s : OpState) :
    (match received.result with
      | none => ([], s.arbiter, none)
      | some reply => seen ((pure (agreed reply) : DeviceOp HNMDLResult) s)) =
      ([], afterReply op crc32ID o s) := by
  unfold afterReply
  rw [hfinish]
  cases received <;> rfl

/-- The two `try` blocks that give up the ownership. -/
theorem seen_tryOwnership {read : DeviceOp Unit} (hacts : (read s).acts = []) :
    seen ((Prog.tryCatch
      (do
        lockForUpdate
        let _ ← read
        unlockForUpdate
        pure .success)
      (do
        ownershipUnknown crc32ID
        unlockForUpdate
        pure .failure) : DeviceOp HNMDLResult) s) =
      match (read s).result with
      | none => ([], (read s).state.arbiter.setDevice crc32ID
          ((read s).state.device.setOwnershipState .unknown), some .failure)
      | some _ => ([], (read s).state.arbiter, some .success) := by
  have hreturns : ∀ s, (ownershipUnknown crc32ID s).result = some () := fun _ => rfl
  have hrun := Prog.run_guarded (s := s) (p := read) hreturns (fun _ => HNMDLResult.success)
    HNMDLResult.failure
  unfold lockForUpdate unlockForUpdate
  rw [hrun]
  cases (read s).result with
  | none =>
    unfold seen
    simp only [hacts]
    rfl
  | some _ =>
    unfold seen
    simp only [hacts]
    rfl

theorem run_readInfo (crc32ID : Str) (s : OpState) (body : Body) :
    readInfo crc32ID body s =
      match infoFields s.device body with
      | .error device =>
        { acts := [], state := { arbiter := s.arbiter.setDevice crc32ID device, device },
          result := none }
      | .ok device =>
        { acts := [], state := { arbiter := s.arbiter.setDevice crc32ID device, device },
          result := some () } := by
  have hget : readInfo crc32ID body s =
      (match infoFields s.device body with
        | .error device => do
          writeDevice crc32ID device
          Prog.raise
        | .ok device => writeDevice crc32ID device : DeviceOp Unit) s := rfl
  rw [hget]
  cases infoFields s.device body <;> rfl

/-- The info reply by its members. -/
theorem applyInfoReply_eq (device : HNMDARecord) (body : Body) :
    applyInfoReply device body =
      match infoFields device body with
      | .error d => (d.setOwnershipState .unknown, .failure)
      | .ok d => (d, .success) := by
  cases body with
  | none => rfl
  | some v => cases v <;> rfl

theorem run_readOwner (crc32ID : Str) (s : OpState) (body : Body) :
    readOwner crc32ID body s =
      match parseOwnerReply body with
      | none => { acts := [], state := s, result := none }
      | some _ =>
        { acts := []
          state :=
            { arbiter := s.arbiter.setDevice crc32ID
                (applyOwnerReply s.arbiter.getSelfCRC32ID s.device body).1
              device := (applyOwnerReply s.arbiter.getSelfCRC32ID s.device body).1 }
          result := some () } := by
  unfold readOwner
  cases parseOwnerReply body <;> rfl

theorem applyOwnerReply_result (selfCRC32ID : UInt32) (device : HNMDARecord) (body : Body) :
    applyOwnerReply selfCRC32ID device body =
      match parseOwnerReply body with
      | none => (device.setOwnershipState .unknown, .failure)
      | some _ => ((applyOwnerReply selfCRC32ID device body).1, .success) := by
  unfold applyOwnerReply
  cases parseOwnerReply body with
  | none => rfl
  | some r =>
    simp only
    split
    · split <;> rfl
    · split <;> rfl

/-- The two `try` blocks that take over services. -/
theorem seen_storeServices {read : Body → DeviceOp Bool} {body : Body}
    (hacts : (read body s).acts = [])
    (rebuild : HNManagedDeviceArbiter → HNManagedDeviceArbiter) :
    seen (storeServices read rebuild body s) =
      match (read body s).result with
      | none => ([], (read body s).state.arbiter, some .failure)
      | some true => ([], rebuild (read body s).state.arbiter, some .success)
      | some false => ([], (read body s).state.arbiter, some .success) := by
  have hrun := Prog.run_guarded (s := s) (p := read body) (q := abandonSrvUpdates)
    (fun _ => rfl) some none
  unfold storeServices lockForUpdate unlockForUpdate
  cases hres : (read body s).result with
  | none =>
    rw [hres] at hrun
    rw [Prog.run_bind_some (by rw [hrun]), hrun]
    unfold seen
    simp only [hacts]
    rfl
  | some changed =>
    rw [hres] at hrun
    rw [Prog.run_bind_some (by rw [hrun]), hrun]
    unfold seen
    simp only [hacts]
    cases changed <;> rfl

theorem run_readProvided (body : Body) :
    readProvided crc32ID body s =
      let device :=
        { s.device with srvMapProvided := (applyServicesReply s.device.srvMapProvided body).1 }
      { acts := [], state := { arbiter := s.arbiter.setDevice crc32ID device, device }
        result := (applyServicesReply s.device.srvMapProvided body).2 } := by
  show Prog.andThen { acts := [], state := _, result := some () }
    (Prog.orRaise (applyServicesReply s.device.srvMapProvided body).2) = _
  cases (applyServicesReply s.device.srvMapProvided body).2 <;> rfl

theorem run_readDesired (body : Body) :
    readDesired crc32ID body s =
      let device :=
        { s.device with srvMapDesired := (applyServicesReply s.device.srvMapDesired body).1 }
      { acts := [], state := { arbiter := s.arbiter.setDevice crc32ID device, device }
        result := (applyServicesReply s.device.srvMapDesired body).2 } := by
  show Prog.andThen { acts := [], state := _, result := some () }
    (Prog.orRaise (applyServicesReply s.device.srvMapDesired body).2) = _
  cases (applyServicesReply s.device.srvMapDesired body).2 <;> rfl

/-- The second half of an operation that stores the body of an OK reply. -/
theorem afterReply_store {op : RestOp}
    {apply : OpState → Body → HNManagedDeviceArbiter × HNMDLResult}
    {f : Option Body → DeviceOp HNMDLResult}
    (hfinish : ∀ s : OpState, op.finish s.arbiter crc32ID s.device o.rest =
      store s.arbiter o.rest.receive (apply s))
    (hfailed : ∀ s, f none s = { acts := [], state := s, result := some .failure })
    (hok : ∀ s body, seen (f (some body) s) = ([], (apply s body).1, some (apply s body).2))
    (s : OpState) :
    (match o.rest.receive.result with
      | none => ([], s.arbiter, none)
      | some reply => seen (f reply s)) = ([], afterReply op crc32ID o s) := by
  unfold afterReply
  rw [hfinish]
  cases o.rest.receive with
  | raised => rfl
  | failed =>
    show seen (f none s) = _
    rw [hfailed]
    rfl
  | ok body => exact hok s body

theorem seen_infoReply (body : Body) :
    seen ((Prog.tryCatch
      (do
        lockForUpdate
        let _ ← readInfo crc32ID body
        unlockForUpdate
        pure .success)
      (do
        ownershipUnknown crc32ID
        unlockForUpdate
        pure .failure) : DeviceOp HNMDLResult) s) =
      ([], s.arbiter.setDevice crc32ID (applyInfoReply s.device body).1,
        some (applyInfoReply s.device body).2) := by
  have hread := run_readInfo crc32ID s body
  rw [applyInfoReply_eq]
  cases hfields : infoFields s.device body with
  | error device =>
    rw [hfields] at hread
    rw [seen_tryOwnership (by rw [hread]), hread]
    show ([], (s.arbiter.setDevice crc32ID device).setDevice crc32ID _, _) = _
    rw [setDevice_setDevice]
  | ok device =>
    rw [hfields] at hread
    rw [seen_tryOwnership (by rw [hread]), hread]

theorem seen_ownerReply (body : Body) :
    seen ((Prog.tryCatch
      (do
        lockForUpdate
        let _ ← readOwner crc32ID body
        unlockForUpdate
        pure .success)
      (do
        ownershipUnknown crc32ID
        unlockForUpdate
        pure .failure) : DeviceOp HNMDLResult) s) =
      ([], s.arbiter.setDevice crc32ID
          (applyOwnerReply s.arbiter.getSelfCRC32ID s.device body).1,
        some (applyOwnerReply s.arbiter.getSelfCRC32ID s.device body).2) := by
  have hread := run_readOwner crc32ID s body
  have happly := applyOwnerReply_result s.arbiter.getSelfCRC32ID s.device body
  cases hparse : parseOwnerReply body with
  | none =>
    rw [hparse] at hread happly
    rw [seen_tryOwnership (by rw [hread]), hread, happly]
  | some r =>
    rw [hparse] at hread happly
    rw [seen_tryOwnership (by rw [hread]), hread, happly]

theorem seen_providedReply (body : Body) :
    seen (storeServices (readProvided crc32ID)
      HNManagedDeviceArbiter.rebuildSrvProviderMap body s) =
      ([], (storeProvided s.arbiter crc32ID s.device body).1,
        some (storeProvided s.arbiter crc32ID s.device body).2) := by
  rw [seen_storeServices (by rw [run_readProvided]), run_readProvided]
  unfold storeProvided
  rcases applyServicesReply s.device.srvMapProvided body with ⟨m, changed⟩
  cases changed with
  | none => rfl
  | some changed => cases changed <;> rfl

theorem seen_desiredReply (body : Body) :
    seen (storeServices (readDesired crc32ID) HNManagedDeviceArbiter.rebuildSrvMappings body s) =
      ([], (storeDesired s.arbiter crc32ID s.device body).1,
        some (storeDesired s.arbiter crc32ID s.device body).2) := by
  rw [seen_storeServices (by rw [run_readDesired]), run_readDesired]
  unfold storeDesired
  rcases applyServicesReply s.device.srvMapDesired body with ⟨m, changed⟩
  cases changed with
  | none => rfl
  | some changed => cases changed <;> rfl

/-- What the operations on published URIs do up to their request. -/
theorem seen_onPublishedURI (s : OpState) (srvType pathExt : Str)
    (k : OpState → Platform.URI → DeviceOp HNMDLResult) :
    seen (onPublishedURI srvType pathExt k s) =
      match s.device.getServiceProviderURIWithExtendedPath srvType pathExt with
      | none => ([], s.arbiter, none)
      | some none => ([], s.arbiter, some .failure)
      | some (some uriStr) =>
        match Platform.parseURI uriStr with
        | none => ([], s.arbiter, none)
        | some uri => seen (k s uri s) := by
  show seen (Prog.andThen { acts := [.lock], state := s, result := some () }
    (Prog.orRaise (s.device.getServiceProviderURIWithExtendedPath srvType pathExt) >>= _)) = _
  cases s.device.getServiceProviderURIWithExtendedPath srvType pathExt with
  | none => rfl
  | some given =>
    cases given with
    | none => rfl
    | some uriStr =>
      show seen ((Prog.orRaise (Platform.parseURI uriStr) >>= k s) s) = _
      cases hparse : Platform.parseURI uriStr with
      | none =>
        simp only [hparse]
        rfl
      | some uri =>
        simp only [hparse]
        rfl

/-- An operation on a published URI, which writes nothing before its request. -/
theorem seen_published {op : RestOp} {srvType pathExt : Str} {method : HttpMethod}
    {payload : Option Payload} {k : OpState → Platform.URI → DeviceOp HNMDLResult}
    (hstored : s.arbiter.deviceMap[crc32ID]? = some s.device)
    (hstart : op.start s.arbiter s.device =
      (s.device, publishedRequest s.device srvType pathExt method payload))
    (hrest : ∀ uri, seen (k s uri s) = payload.elim ([], s.arbiter, none) fun payload =>
      ([requestTo uri method payload], afterReply op crc32ID o (o.meanwhile s))) :
    seen (onPublishedURI srvType pathExt k s) = wholeCall op crc32ID o s := by
  rw [seen_onPublishedURI, wholeCall_of_start hstored hstart]
  unfold publishedRequest
  cases s.device.getServiceProviderURIWithExtendedPath srvType pathExt with
  | none => rfl
  | some given =>
    cases given with
    | none => rfl
    | some uriStr =>
      cases hparse : Platform.parseURI uriStr with
      | none =>
        simp only [hparse]
        rfl
      | some uri =>
        simp only [hparse]
        rw [hrest uri]
        cases payload <;> rfl

/-- The second locked region: an exception of the cache ends the operation. -/
theorem afterReply_cached {op : RestOp} {update : Body → DeviceOp Unit}
    {next : OpState → Body → HNManagedDeviceArbiter}
    (hfinish : ∀ s : OpState, op.finish s.arbiter crc32ID s.device o.rest =
      store s.arbiter o.rest.receiveCached fun body => (next s body, .success))
    (hupdate : ∀ body, update body =
      if o.rest.cached then Prog.modify fun s => { s with arbiter := next s body }
      else Prog.raise)
    (s : OpState) :
    (match o.rest.receive.result with
      | none => ([], s.arbiter, none)
      | some reply => seen (storeInCache update reply s)) =
      ([], afterReply op crc32ID o s) := by
  unfold afterReply RestOutcome.receiveCached at *
  rw [hfinish]
  cases o.rest.receive with
  | raised => rfl
  | failed => rfl
  | ok body =>
    have hrun := Prog.run_locked (update body) (fun _ => HNMDLResult.success) s
    have hseen : seen (storeInCache update (some body) s) = seen _ := congrArg seen hrun
    refine hseen.trans ?_
    rw [hupdate]
    cases o.rest.cached <;> rfl

theorem seen_updateDeviceHealthInfo (hstored : s.arbiter.deviceMap[crc32ID]? = some s.device) :
    seen (updateDeviceHealthInfo o s) = wholeCall .updateDeviceHealthInfo crc32ID o s :=
  seen_published hstored rfl fun _ => seen_afterExchange (run_exchange _)
    (afterReply_cached (fun _ => rfl) fun _ => rfl)

theorem seen_updateDeviceStringReferences
    (hstored : s.arbiter.deviceMap[crc32ID]? = some s.device) :
    seen (updateDeviceStringReferences o s) =
      wholeCall .updateDeviceStringReferences crc32ID o s := by
  refine seen_published hstored rfl fun uri => ?_
  have hlist := run_getUncachedStrRefList (s := s)
  cases hcodes : Platform.getUncachedStrRefList s.arbiter.caches s.device.getCRC32ID with
  | none =>
    rw [hcodes] at hlist
    rw [Prog.run_bind_raised (by rw [hlist]), hlist]
    rfl
  | some formatCodeList =>
    rw [hcodes] at hlist
    rw [Prog.run_bind_some (by rw [hlist]), hlist]
    exact seen_afterExchange (run_exchange _) (afterReply_cached (fun _ => rfl) fun _ => rfl)

theorem seen_executeDeviceServicesUpdateMapping :
    seen (executeDeviceServicesUpdateMapping crc32ID o s) =
      wholeCall .executeDeviceServicesUpdateMapping crc32ID o s := by
  -- the device is written, and its mutex free, before the changes are looked at
  have hwritten : seen (executeDeviceServicesUpdateMapping crc32ID o s) =
      seen ((if (mappingChanges s.arbiter s.device).2.isEmpty then pure .success
        else
          match (mappingChanges s.arbiter s.device).1.findPreferredConnection .ipv4 with
          | none => do
            unlockForUpdate
            pure .failure
          | some dcInfo => do
            unlockForUpdate
            let reply ← exchangeRendered o (requestTo (Platform.httpURI dcInfo.address dcInfo.port
              (lit "/hnode2/device/services/mappings")) .put
              (.mappings (mappingChanges s.arbiter s.device).2.toList))
            pure (agreed reply) : DeviceOp HNMDLResult)
        { arbiter := s.arbiter.setDevice crc32ID (mappingChanges s.arbiter s.device).1
          device := (mappingChanges s.arbiter s.device).1 }) := rfl
  rw [hwritten]
  unfold wholeCall RestOp.start
  cases hempty : (mappingChanges s.arbiter s.device).2.isEmpty with
  | true =>
    simp only [hempty, if_true]
    rfl
  | false =>
    simp only [hempty, if_false, Bool.false_eq_true]
    unfold openRequest
    cases (mappingChanges s.arbiter s.device).1.findPreferredConnection .ipv4 with
    | none => rfl
    | some dcInfo =>
      exact seen_afterExchange (run_exchangeRendered _)
        (afterReply_acknowledged (fun _ => rfl))

/-- **Without its locks an operation is its two halves**: the requests it sends,
the arbiter it leaves and its result are those of `RestOp.start` and
`RestOp.finish`. -/
theorem run_eq_wholeCall (op : RestOp)
    (hstored : s.arbiter.deviceMap[crc32ID]? = some s.device) :
    seen (op.run crc32ID o s) = wholeCall op crc32ID o s := by
  cases op with
  | updateDeviceOperationalInfo =>
    exact seen_eq_wholeCall hstored rfl (fun _ => rfl) (fun _ => run_exchange _)
      (afterReply_store (fun _ => rfl) (fun _ => rfl) fun _ => seen_infoReply)
  | updateDeviceOwnerInfo =>
    exact seen_eq_wholeCall hstored rfl (fun _ => rfl) (fun _ => run_exchange _)
      (afterReply_store (fun _ => rfl) (fun _ => rfl) fun _ => seen_ownerReply)
  | sendDeviceClaimRequest =>
    exact seen_eq_wholeCall hstored rfl (fun _ => rfl) (fun _ => run_exchangeRendered _)
      (afterReply_acknowledged fun _ => rfl)
  | sendDeviceReleaseRequest | sendDeviceSetParameters =>
    exact seen_eq_wholeCall hstored rfl (fun _ => rfl) (fun _ => run_exchange _)
      (afterReply_acknowledged fun _ => rfl)
  | updateDeviceServicesProvideInfo =>
    exact seen_eq_wholeCall hstored rfl (fun _ => rfl) (fun _ => run_exchange _)
      (afterReply_store (fun _ => rfl) (fun _ => rfl) fun _ => seen_providedReply)
  | updateDeviceServicesMappingInfo =>
    exact seen_eq_wholeCall hstored rfl (fun _ => rfl) (fun _ => run_exchange _)
      (afterReply_store (fun _ => rfl) (fun _ => rfl) fun _ => seen_desiredReply)
  | executeDeviceServicesUpdateMapping => exact seen_executeDeviceServicesUpdateMapping
  | updateDeviceHealthInfo => exact seen_updateDeviceHealthInfo hstored
  | updateDeviceStringReferences => exact seen_updateDeviceStringReferences hstored

end Operations

end HNodeMgmt.Arbiter
