/-
  HNodeMgmt.Arbiter.Rest — the arbiter's REST operations on a device.

  Each helper blocks in the network between building its request and reading
  the answer, and the main thread runs meanwhile.  So a helper is two halves:
  `start`, which ends early or issues a request, and `finish`, which is given
  what the HTTP session then does.

  `sendRequest` and `receiveResponse` raise when the device cannot be reached;
  only the code after them stands in a `try` block, and not all of it: the two
  helpers on published URIs have none.  An exception that leaves the helper is
  `raised` (in `start`) or `none` (in `finish`).
-/
import Mathlib.Tactic.Common
import HNodeMgmt.Arbiter.DeviceArbiter

namespace HNodeMgmt.Arbiter

open Lib

/-! ## §1. Requests and what becomes of them. -/

inductive HttpMethod where
  | get
  | put
  | delete
  deriving DecidableEq, Repr

/-- The JSON a request carries.  `updateFields` is rendered from the stored
command only when the request's headers are out. -/
inductive Payload where
  | empty
  | owner (ownerHNodeID : Str)
  | updateFields
  | mappings (entries : List (Str × Str))
  | strRefs (devCRC32ID : Str) (fmtCodes : List Str)
  deriving DecidableEq, Repr

structure HttpRequest where
  host : Str
  port : UInt16
  method : HttpMethod
  path : Str
  payload : Payload
  deriving DecidableEq, Repr

/-- The session's behaviour: whether `sendRequest` returns, whether
`Stringifier::stringify` does, and the status and body, unless
`receiveResponse` raises.  `cached` is for the two helpers that hand the body to
a cache: whether the cache returns. -/
structure RestOutcome where
  send : Bool
  render : Bool
  response : Option (Nat × Body)
  cached : Bool
  deriving DecidableEq, Repr

/-- `HTTP_OK`. -/
def httpOK : Nat := 200

inductive Received where
  | raised
  | failed
  | ok (body : Body)
  deriving DecidableEq, Repr

/-- Send, receive, check the status. -/
def RestOutcome.receive (o : RestOutcome) : Received :=
  if o.send = false then .raised
  else
    match o.response with
    | none => .raised
    | some (status, body) => if status ≠ httpOK then .failed else .ok body

/-- The same with a body to render, where a rendering error gives up. -/
def RestOutcome.receiveRendered (o : RestOutcome) : Received :=
  if o.send = false then .raised
  else if o.render = false then .failed
  else o.receive

/-- The same where the body of an OK reply goes to a cache, outside of any `try`. -/
def RestOutcome.receiveCached (o : RestOutcome) : Received :=
  match o.receive with
  | .ok body => if o.cached then .ok body else .raised
  | received => received

/-- With a body to render, the session raises no more often. -/
theorem receive_of_receiveRendered {o : RestOutcome} (h : o.receiveRendered = .raised) :
    o.receive = .raised := by
  unfold RestOutcome.receiveRendered at h
  split at h
  next hsend => simp only [RestOutcome.receive, hsend, if_true]
  next =>
    split at h
    next => cases h
    next => exact h

/-- A cache that does not raise is given what the session gives. -/
theorem receive_of_receiveCached {o : RestOutcome} (h : o.receiveCached ≠ .raised) :
    o.receive = o.receiveCached := by
  unfold RestOutcome.receiveCached at h ⊢
  cases hrec : o.receive with
  | ok body =>
    simp only [hrec] at h ⊢
    split at h
    next hcached => rw [if_pos hcached]
    next => exact absurd rfl h
  | _ => rfl

/-- The outcome of the first half. -/
inductive RestStart where
  | finished (result : HNMDLResult)
  | request (req : HttpRequest)
  | raised
  deriving DecidableEq, Repr

section

variable [Platform]

/-- The request a session for this URI sends. -/
def requestTo (uri : Platform.URI) (method : HttpMethod) (payload : Payload) : HttpRequest :=
  { host := Platform.uriHost uri, port := Platform.uriPort uri, method,
    path := Platform.uriPathAndQuery uri, payload }

/-- The opening the helpers on fixed paths share: without a plain IPv4 address
they return FAILURE at once. -/
def openRequest (device : HNMDARecord) (method : HttpMethod) (path : Str) (payload : Payload) :
    RestStart :=
  match device.findPreferredConnection .ipv4 with
  | none => .finished .failure
  | some dcInfo =>
    .request (requestTo (Platform.httpURI dcInfo.address dcInfo.port path) method payload)

/-! ## §2. The replies. -/

/-- One member of the info reply.  (The code compares with the old value first,
for its log only.) -/
def updateInfoField (jsRoot : JsonObject) (key : Str) (set : Str → HNMDARecord → HNMDARecord)
    (device : HNMDARecord) : Except HNMDARecord HNMDARecord :=
  if jsRoot.has key then
    match jsRoot.getString key with
    | none => .error device
    | some value => .ok (set value device)
  else .ok device

/-- The `try` block of `updateDeviceOperationalInfo`; its handler gives up the
ownership. -/
def applyInfoReply (device : HNMDARecord) (body : Body) : HNMDARecord × HNMDLResult :=
  match body with
  | some (.object jsRoot) =>
    let fields := do
      let d ← updateInfoField jsRoot (lit "deviceType") (fun v d => { d with devType := v }) device
      let d ← updateInfoField jsRoot (lit "instance") (fun v d => { d with instanceName := v }) d
      let d ← updateInfoField jsRoot (lit "name") (fun v d => { d with name := v }) d
      updateInfoField jsRoot (lit "version") (fun v d => { d with devVersion := v }) d
    match fields with
    | .error d => (d.setOwnershipState .unknown, .failure)
    | .ok d => (d, .success)
  | _ => (device.setOwnershipState .unknown, .failure)

/-- What `updateDeviceOwnerInfo` reads of a reply. -/
structure OwnerReply where
  isAvailable : Bool
  isOwned : Bool
  ownerHNID : Platform.HNodeID

/-- The reading part of its `try` block; `none` when something raises. -/
def parseOwnerReply : Body → Option OwnerReply
  | some (.object jsRoot) => do
    let isAvailable ←
      if jsRoot.has (lit "isAvailable") then jsRoot.getBool (lit "isAvailable") else some false
    let isOwned ←
      if jsRoot.has (lit "isOwned") then jsRoot.getBool (lit "isOwned") else some false
    let ownerHNID ←
      if jsRoot.has (lit "owner_hnodeID") then
        (jsRoot.getString (lit "owner_hnodeID")).map (Platform.setFromStr Platform.newHNodeID)
      else some Platform.newHNodeID
    return { isAvailable, isOwned, ownerHNID }
  | _ => none

/-- The `try` block of `updateDeviceOwnerInfo`. -/
def applyOwnerReply (selfCRC32ID : UInt32) (device : HNMDARecord) (body : Body) :
    HNMDARecord × HNMDLResult :=
  match parseOwnerReply body with
  | none => (device.setOwnershipState .unknown, .failure)
  | some r =>
    if r.isOwned then
      let device := device.setOwnerID r.ownerHNID
      if selfCRC32ID = Platform.getCRC32 r.ownerHNID then
        (device.setOwnershipState .mine, .success)
      else (device.setOwnershipState .other, .success)
    else if r.isAvailable then (device.clearOwnerID.setOwnershipState .available, .success)
    else (device.clearOwnerID.setOwnershipState .unavailable, .success)

/-! ## §3. The mapping update. -/

/-- The URI the desired type should be mapped to: the default provider's, or
the empty string. -/
def mappingTarget (a : HNManagedDeviceArbiter) (srvType : Str) : Str :=
  match a.defaultMappings[srvType]? with
  | none => []
  | some ref => a.getDeviceServiceProviderURI ref.devCRC32ID srvType

/-- One round of the loop over the desired types. -/
def mappingStep (a : HNManagedDeviceArbiter) (st : HNMDARecord × StrMap Str) (srvType : Str) :
    HNMDARecord × StrMap Str :=
  let device := (st.1.updateSrvMapping srvType).1
  let mappedURI := ((device.srvMapDesired[srvType]?).map HNMDServiceEndpoint.rootURI).getD []
  if mappingTarget a srvType ≠ mappedURI then
    (device, st.2.insertIfNew srvType (mappingTarget a srvType))
  else (device, st.2)

/-- The loop: the device with its endpoints visited, and `uriMap`. -/
def mappingChanges (a : HNManagedDeviceArbiter) (device : HNMDARecord) :
    HNMDARecord × StrMap Str :=
  device.getSrvMappingTSList.foldl (mappingStep a) (device, ∅)

/-! ## §4. The helpers. -/

end

/-- The helpers `runMonitoringLoop` calls, directly or through
`executeDeviceMgmtCmd`. -/
inductive RestOp where
  | updateDeviceOperationalInfo
  | updateDeviceOwnerInfo
  | sendDeviceClaimRequest
  | sendDeviceReleaseRequest
  | sendDeviceSetParameters
  | updateDeviceServicesProvideInfo
  | updateDeviceServicesMappingInfo
  | executeDeviceServicesUpdateMapping
  | updateDeviceHealthInfo
  | updateDeviceStringReferences
  deriving DecidableEq, Repr

/-- The helpers that hand the body to a cache and succeed whatever it says. -/
def RestOp.feedsCache : RestOp → Bool
  | .updateDeviceHealthInfo | .updateDeviceStringReferences => true
  | _ => false

variable [Platform]

/-- The request to a URI the device published: parsed once under a `try`, and
once more, from its text, outside of any.  `payload` is `none` where an exception
leaves the code that makes it. -/
def publishedRequest (device : HNMDARecord) (srvType pathExt : Str) (method : HttpMethod)
    (payload : Option Payload) : RestStart :=
  match device.getServiceProviderURIWithExtendedPath srvType pathExt with
  | none => .raised
  | some none => .finished .failure
  | some (some uriStr) =>
    match Platform.parseURI uriStr, payload with
    | some uri, some payload => .request (requestTo uri method payload)
    | _, _ => .raised

/-- The first half of a helper. -/
def RestOp.start (a : HNManagedDeviceArbiter) (device : HNMDARecord) :
    RestOp → HNMDARecord × RestStart
  | .updateDeviceOperationalInfo =>
    (device, openRequest device .get (lit "/hnode2/device/info") .empty)
  | .updateDeviceOwnerInfo =>
    (device, openRequest device .get (lit "/hnode2/device/owner") .empty)
  | .sendDeviceClaimRequest =>
    (device, openRequest device .put (lit "/hnode2/device/owner") (.owner a.getSelfHNodeIDStr))
  | .sendDeviceReleaseRequest =>
    (device, openRequest device .delete (lit "/hnode2/device/owner") .empty)
  | .sendDeviceSetParameters =>
    (device, openRequest device .put (lit "/hnode2/device/info") .updateFields)
  | .updateDeviceServicesProvideInfo =>
    (device, openRequest device .get (lit "/hnode2/device/services/provided") .empty)
  | .updateDeviceServicesMappingInfo =>
    (device, openRequest device .get (lit "/hnode2/device/services/mappings") .empty)
  | .executeDeviceServicesUpdateMapping =>
    let changes := mappingChanges a device
    if changes.2.isEmpty then (changes.1, .finished .success)
    else (changes.1, openRequest changes.1 .put (lit "/hnode2/device/services/mappings")
      (.mappings changes.2.toList))
  | .updateDeviceHealthInfo =>
    (device, publishedRequest device (lit "hnsrv-health-source") [] .get (some .empty))
  | .updateDeviceStringReferences =>
    (device, publishedRequest device (lit "hnsrv-string-source") (lit "/format-strings") .put
      ((Platform.getUncachedStrRefList a.caches device.getCRC32ID).map
        (.strRefs device.getCRC32IDStr)))

/-- The end of a helper that only wants to know whether the device agreed. -/
def acknowledged (a : HNManagedDeviceArbiter) :
    Received → Option (HNManagedDeviceArbiter × HNMDLResult)
  | .raised => none
  | .failed => some (a, .failure)
  | .ok _ => some (a, .success)

/-- The end of a helper that stores the body of an OK reply. -/
def store (a : HNManagedDeviceArbiter) (received : Received)
    (apply : Body → HNManagedDeviceArbiter × HNMDLResult) :
    Option (HNManagedDeviceArbiter × HNMDLResult) :=
  match received with
  | .raised => none
  | .failed => some (a, .failure)
  | .ok body => some (apply body)

/-- `updateDeviceServicesProvideInfo` on an OK reply: the index is rebuilt only
when the reply is through and has changed something. -/
def storeProvided (a : HNManagedDeviceArbiter) (crc32ID : Str) (device : HNMDARecord)
    (body : Body) : HNManagedDeviceArbiter × HNMDLResult :=
  let reply := applyServicesReply device.srvMapProvided body
  let a := a.setDevice crc32ID { device with srvMapProvided := reply.1 }
  match reply.2 with
  | none => (a, .failure)
  | some true => (a.rebuildSrvProviderMap, .success)
  | some false => (a, .success)

/-- `updateDeviceServicesMappingInfo` on an OK reply. -/
def storeDesired (a : HNManagedDeviceArbiter) (crc32ID : Str) (device : HNMDARecord)
    (body : Body) : HNManagedDeviceArbiter × HNMDLResult :=
  let reply := applyServicesReply device.srvMapDesired body
  let a := a.setDevice crc32ID { device with srvMapDesired := reply.1 }
  match reply.2 with
  | none => (a, .failure)
  | some true => (a.rebuildSrvMappings, .success)
  | some false => (a, .success)

/-- The second half of a helper, for the device stored under `crc32ID`. -/
def RestOp.finish (a : HNManagedDeviceArbiter) (crc32ID : Str) (device : HNMDARecord)
    (o : RestOutcome) : RestOp → Option (HNManagedDeviceArbiter × HNMDLResult)
  | .updateDeviceOperationalInfo =>
    store a o.receive fun body =>
      (a.setDevice crc32ID (applyInfoReply device body).1, (applyInfoReply device body).2)
  | .updateDeviceOwnerInfo =>
    store a o.receive fun body =>
      (a.setDevice crc32ID (applyOwnerReply a.getSelfCRC32ID device body).1,
        (applyOwnerReply a.getSelfCRC32ID device body).2)
  | .sendDeviceClaimRequest => acknowledged a o.receiveRendered
  | .sendDeviceReleaseRequest => acknowledged a o.receive
  | .sendDeviceSetParameters => acknowledged a o.receive
  | .updateDeviceServicesProvideInfo => store a o.receive (storeProvided a crc32ID device)
  | .updateDeviceServicesMappingInfo => store a o.receive (storeDesired a crc32ID device)
  | .executeDeviceServicesUpdateMapping => acknowledged a o.receiveRendered
  | .updateDeviceHealthInfo =>
    store a o.receiveCached fun body =>
      ({ a with caches := (Platform.updateDeviceHealth a.caches device.getCRC32ID body).1 },
        .success)
  | .updateDeviceStringReferences =>
    store a o.receiveCached fun body =>
      ({ a with
          caches := (Platform.updateStringDefinitions a.caches device.getCRC32IDStr body).1 },
        .success)

end HNodeMgmt.Arbiter
