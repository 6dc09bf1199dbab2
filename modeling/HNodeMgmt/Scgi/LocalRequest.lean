/-
  HNodeMgmt.Scgi.LocalRequest — the operations the manager answers itself.

  `handleLocalSCGIRequest` has a case for each of seven operations.  They fill
  in the response of the request: a status and a reason, and the local content
  with its length, or one of the bodies that announce no content.  Two exits of
  `getDeviceMgmtStatus` go to the operation data instead, which was made from
  the method and the path and knows nothing of this response; the second of
  them has set the content source before.

  Main results:
    * `complete_response_iff` — a call that returns leaves a complete response,
      and an error for an unknown device, exactly when it does not take one of
      these two exits.
    * `status_of_unknown` — the status of an unknown device is asked for.
-/
import Mathlib.Tactic.Common
import HNodeMgmt.Arbiter.OwnRecord
import HNodeMgmt.Scgi.ResponseHeaders
import HNodeMgmt.Scgi.Transfer

namespace HNodeMgmt.Arbiter

open Lib

/-! ## §1. What is asked of the arbiter. -/

/-- `HNMDSA_TYPE_T`. -/
inductive HNMDSAType where
  | notset
  | default
  | directed
  deriving DecidableEq, Repr

/-- `HNMDServiceAssoc`. -/
structure HNMDServiceAssoc where
  type : HNMDSAType
  srvType : Str
  providerCRC32ID : Str
  desirerCRC32ID : Str

namespace HNManagedDeviceArbiter

variable [Platform]

/-- `getDeviceCopy`.  The assignment is memberwise. -/
def getDeviceCopy (a : HNManagedDeviceArbiter) (crc32ID : Str) : Option HNMDARecord :=
  a.deviceMap[crc32ID]?

/-- `reportSrvDefaultMappings`: the body of the loop is commented out. -/
def reportSrvDefaultMappings (a : HNManagedDeviceArbiter) : List HNMDServiceAssoc :=
  a.defaultMappings.toList.foldl (fun assocList _ => assocList) []

/-- `reportSrvDirectedMappings`. -/
def reportSrvDirectedMappings (_ : HNManagedDeviceArbiter) : List HNMDServiceAssoc := []

end HNManagedDeviceArbiter

end HNodeMgmt.Arbiter

namespace HNodeMgmt.Scgi

open Lib Arbiter

/-! ## §2. The response of a local operation. -/

/-- A response message with its content source, which is the message itself
where it is set, its local content and `m_contentMoved`.  Two marks say whether
the status and the reason have been set since the message was made. -/
structure LocalRsp where
  msg : HNSCGIMsg
  contentSource : Bool
  localContent : List UInt8
  contentMoved : UInt32
  statusSet : Bool
  reasonSet : Bool

namespace LocalRsp

/-- The response of a new request, whose status code is whatever was in the
memory. -/
def new (statusCode : UInt32) : LocalRsp :=
  { msg := { HNSCGIMsg.new with statusCode }, contentSource := false, localContent := []
    contentMoved := 0, statusSet := false, reasonSet := false }

def setStatusCode (rsp : LocalRsp) (statusCode : UInt32) : LocalRsp :=
  { rsp with msg := rsp.msg.setStatusCode statusCode, statusSet := true }

def setReason (rsp : LocalRsp) (reason : Str) : LocalRsp :=
  { rsp with msg := rsp.msg.setReason reason, reasonSet := true }

def setContentType (rsp : LocalRsp) (typeStr : Str) : LocalRsp :=
  { rsp with msg := rsp.msg.setContentType typeStr }

/-- `useLocalContentSource`.  The flags of the stream are cleared, its bytes are
not. -/
def useLocalContentSource (rsp : LocalRsp) : LocalRsp := { rsp with contentSource := true }

/-- What is written to the stream that `useLocalContentSource` returns. -/
def write (rsp : LocalRsp) (bytes : List UInt8) : LocalRsp :=
  { rsp with localContent := rsp.localContent ++ bytes }

/-- `finalizeLocalContent`.  The size is a `uint`. -/
def finalizeLocalContent (rsp : LocalRsp) : LocalRsp :=
  { rsp with
    msg := rsp.msg.setContentLength (UInt32.ofNat rsp.localContent.length), contentMoved := 0 }

/-- The messages that `configAs` makes, with what else `clearHeaders` sets. -/
def config (rsp : LocalRsp) (msg : HNSCGIMsg) : LocalRsp :=
  { rsp with msg, contentMoved := 0, statusSet := true, reasonSet := true }

def configAsInternalServerError (rsp : LocalRsp) : LocalRsp :=
  rsp.config rsp.msg.configAsInternalServerError

def configAsNotFound (rsp : LocalRsp) : LocalRsp := rsp.config rsp.msg.configAsNotFound

/-- The last lines of the operations that render their content first. -/
def finish (rsp : LocalRsp) : LocalRsp :=
  ((rsp.finalizeLocalContent.setContentType (lit "application/json")).setStatusCode 200).setReason
    (lit "OK")

/-- As the sink sees it. -/
def response (rsp : LocalRsp) : Response :=
  { msg := rsp.msg
    contentMoved := rsp.contentMoved
    source := if rsp.contentSource then some (.ofBytes rsp.localContent) else none }

/-- The transfer of the content to a client. -/
def transfer (rsp : LocalRsp) (client : OStream) : Transfer := rsp.response.transfer client

end LocalRsp

/-! ## §3. A complete response. -/

/-- A client that waits for the content, and takes it, gets this many bytes. -/
def Transfers (rsp : LocalRsp) (n : Nat) : Prop :=
  ∀ client : OStream, client.Takes n → ∃ fuel t os,
    Transfer.transferLoop fuel (.msgContent, rsp.transfer client) = some (.msgComplete, t) ∧
    t.sink = some os ∧ os.written.length = client.written.length + n

/-- The status and the reason have been set, and the bytes of a content source
are as many as the Content-Length says. -/
structure CompleteResponse (rsp : LocalRsp) : Prop where
  status : rsp.statusSet = true
  reason : rsp.reasonSet = true
  content : rsp.contentSource = true → ∃ n,
    rsp.msg.paramMap[lit "Content-Length"]? = some (decimal n) ∧ Transfers rsp n

/-- No Content-Length is set. -/
def Unannounced (rsp : LocalRsp) : Prop := rsp.msg.paramMap[lit "Content-Length"]? = none

/-- A Content-Length is set, of bytes that are there and have not been moved. -/
structure Announces (rsp : LocalRsp) (n : Nat) : Prop where
  moved : rsp.contentMoved = 0
  small : n < 2 ^ 32
  there : n ≤ rsp.localContent.length
  length : rsp.msg.paramMap[lit "Content-Length"]? = some (decimal n)

/-- A message without a length gets the one that is set. -/
theorem setContentLength_get {msg : HNSCGIMsg}
    (h : msg.paramMap[lit "Content-Length"]? = none) (length : UInt32) :
    (msg.setContentLength length).paramMap[lit "Content-Length"]? =
      some (decimal length.toNat) := by
  have hnot : lit "Content-Length" ∉ msg.paramMap := by
    intro hmem
    obtain ⟨value, hget⟩ := (OrdMap.mem_iff_get _ _).mp hmem
    cases h.symm.trans hget
  show (msg.paramMap.insertIfNew _ _)[_]? = _
  rw [OrdMap.get_insertIfNew, if_pos ⟨rfl, hnot⟩]

/-- The type of the content is another header. -/
theorem setContentType_get (msg : HNSCGIMsg) (typeStr : Str) :
    (msg.setContentType typeStr).paramMap[lit "Content-Length"]? =
      msg.paramMap[lit "Content-Length"]? := by
  have hother : lit "Content-Type" ≠ lit "Content-Length" := by decide +kernel
  show (msg.paramMap.insertIfNew _ _)[_]? = _
  rw [OrdMap.get_insertIfNew, if_neg fun h => hother h.1]

/-- **What is announced is transferred**: the loop moves that many bytes and no more. -/
theorem Announces.transfers {rsp : LocalRsp} {n : Nat} (h : Announces rsp n)
    (hsource : rsp.contentSource = true) : Transfers rsp n := by
  intro client htakes
  have hset : (rsp.transfer client).source = some (.ofBytes rsp.localContent) := if_pos hsource
  obtain ⟨fuel, t, is, os, hloop, -, hsink, hwritten, -⟩ := Transfer.moves_announced
    (rsp.transfer client) (.ofBytes rsp.localContent) client hset rfl h.moved rfl fun _ => rfl
  rw [show (rsp.transfer client).msg = rsp.msg from rfl,
    Transfer.announced_decimal h.small h.length] at hwritten
  have hlength : (rsp.localContent.take n).length = n := by
    rw [List.length_take, Nat.min_eq_left h.there]
  have hall : (client.write (rsp.localContent.take n)).written =
      client.written ++ rsp.localContent.take n :=
    OStream.write_written_iff.mpr (by rw [hlength]; exact htakes)
  refine ⟨fuel, t, os, hloop, hsink, ?_⟩
  rw [hwritten]
  show (client.write (rsp.localContent.take n)).written.length = _
  rw [hall, List.length_append, hlength]

/-- The length of the local content, or what a `uint` keeps of it. -/
theorem announces_finalize {rsp : LocalRsp} (h : Unannounced rsp) :
    ∃ n, Announces rsp.finalizeLocalContent n := by
  refine ⟨(UInt32.ofNat rsp.localContent.length).toNat, rfl, UInt32.toNat_lt _, ?_,
    setContentLength_get h _⟩
  -- a size that does not fit is cut off, and then no more is moved than that
  show (UInt32.ofNat rsp.localContent.length).toNat ≤ rsp.localContent.length
  rw [UInt32.toNat_ofNat']
  exact Nat.mod_le _ _

/-- A status and a reason, and a length where there is a source. -/
theorem complete_of_announces {rsp : LocalRsp} (hstatus : rsp.statusSet = true)
    (hreason : rsp.reasonSet = true) (h : rsp.contentSource = true → ∃ n, Announces rsp n) :
    CompleteResponse rsp := by
  refine ⟨hstatus, hreason, fun hsource => ?_⟩
  obtain ⟨n, hn⟩ := h hsource
  exact ⟨n, hn.length, hn.transfers hsource⟩

/-- A response that is made an error announces no content, whatever it was before. -/
theorem complete_configAs (rsp : LocalRsp) (statusCode : UInt32) (reason : Str) :
    CompleteResponse (rsp.config (rsp.msg.configAs statusCode reason)) := by
  refine complete_of_announces rfl rfl fun _ => ⟨0, rfl, by decide, Nat.zero_le _, ?_⟩
  -- `clearHeaders` has emptied the map, so this length is the first
  have hcleared : ({ rsp.msg.clearHeaders with statusCode, reason } : HNSCGIMsg).paramMap[
      lit "Content-Length"]? = none := Std.ExtTreeMap.getElem?_empty
  exact setContentLength_get hcleared 0

/-- The one that most operations end with when something fails. -/
theorem complete_internalServerError (rsp : LocalRsp) :
    CompleteResponse rsp.configAsInternalServerError :=
  complete_configAs rsp 500 (lit "Internal Server Error")

/-- The last lines complete a response that had no length. -/
theorem complete_finish (rsp : LocalRsp) (h : Unannounced rsp) : CompleteResponse rsp.finish := by
  obtain ⟨n, hn⟩ := announces_finalize h
  refine complete_of_announces rfl rfl fun _ => ⟨n, hn.moved, hn.small, hn.there, ?_⟩
  exact (setContentType_get _ _).trans hn.length

/-! ## §4. What the operations use. -/

/-- The `Poco::JSON` values that are rendered; the fields of an object in the
order they are set. -/
inductive Json where
  | str (value : Str)
  | num (value : Nat)
  | arr (elems : List Json)
  | obj (fields : List (Str × Json))

/-- `HNMD_RESULT_T`. -/
inductive HNMDResult where
  | success
  | failure
  | notAuthorized
  deriving DecidableEq, Repr

/-- The value of a grant: `jwt_add_grant`, or `jwt_add_grant_int`. -/
inductive GrantValue where
  | text (value : Str)
  | int (value : Int)

/-- The library that makes the tokens: what its calls return, and the token
after them. -/
structure JWTLib where
  Jwt : Type
  jwtNew : Int × Option Jwt
  addGrant : Jwt → Str → GrantValue → Int × Jwt
  setAlgHS256 : Jwt → Str → Int × Jwt
  /-- `none` is the null pointer. -/
  encodeStr : Jwt → Option Str

/-- `HNR_HTTP_STATUS`, where it is used here. -/
inductive HNRStatus where
  | internalServerError

/-- `HNOperationData`: the operation and the parameters of the path. -/
structure HNOperationData where
  opID : Str
  paramMap : StrMap Str

/-- `getParam`; `none` is its return value `true`. -/
def HNOperationData.getParam (opData : HNOperationData) (name : Str) : Option Str :=
  opData.paramMap[name]?

/-- What happens around the call.  The libraries may raise. -/
structure LocalEnv [Platform] where
  /-- The bytes that `Stringifier::stringify` writes, and whether it raises then. -/
  stringify : Json → List UInt8 × Bool
  /-- The report of the health cache; `none` where it raises. -/
  healthReport : Platform.Caches → Option (List UInt8)
  /-- `parser.parse`. -/
  parse : List UInt8 → Body
  jwt : JWTLib
  /-- `time( NULL )`. -/
  time : Int
  instanceName : Str
  /-- What the other threads do to the arbiter between two calls of it: after the
  first, the second and the third. -/
  meanwhile : Nat → HNManagedDeviceArbiter → HNManagedDeviceArbiter
  /-- The calls of the operation data that concern its own response; `none` where
  they do not return. -/
  responseSetStatusAndReason : HNOperationData → HNRStatus → Option HNOperationData
  responseSend : HNOperationData → Option HNOperationData

section LocalRequest

variable [Platform]

/-- A request at the handler: its message, with the local content of that, its
response, and the operation. -/
structure LocalCall where
  arbiter : HNManagedDeviceArbiter
  req : Transfer
  reqContent : OStream
  rsp : LocalRsp
  opData : HNOperationData

/-! ## §5. The operations. -/

/-- The grants one after the other; the first that fails ends it. -/
def JWTLib.addGrants (lib : JWTLib) (grants : List (Str × GrantValue)) (jwt : lib.Jwt) :
    Option lib.Jwt :=
  grants.foldlM (fun jwt grant =>
    let (ret, jwt) := lib.addGrant jwt grant.1 grant.2
    if ret ≠ 0 then none else some jwt) jwt

/-- `generateJWT`, with the token that is empty unless it succeeds; `none` where
the token is a null pointer and made into a string. -/
def generateJWT (env : LocalEnv) (mgmtDevice : HNodeDevice) (username : Str) (duration : Nat) :
    Option (HNMDResult × Str) :=
  let (ret, jwt) := env.jwt.jwtNew
  match jwt with
  | none => some (.failure, [])
  | some jwt =>
    if ret ≠ 0 then some (.failure, [])
    else
      let iss := lit "hnode2-management-device" ++ lit "-" ++ env.instanceName ++ lit "-" ++
        mgmtDevice.hnodeIDCRC32Str
      match env.jwt.addGrants
        [(lit "username", .text username), (lit "role", .text (lit "ROLE_ADMIN")),
          (lit "iss", .text iss), (lit "iat", .int env.time),
          (lit "exp", .int (env.time + duration))] jwt with
      | none => some (.failure, [])
      | some jwt =>
        let (ret, jwt) := env.jwt.setAlgHS256 jwt (lit "TestSecretKeyStringForHMAC")
        if ret < 0 then some (.failure, [])
        else (env.jwt.encodeStr jwt).map fun out => (.success, out)

namespace LocalRsp

/-- `stringify` to the local content, in a `try`, and these lines. -/
def render (env : LocalEnv) (rsp : LocalRsp) (jsRoot : Json) : LocalRsp :=
  let (bytes, raised) := env.stringify jsRoot
  let rsp := rsp.write bytes
  if raised then rsp.configAsInternalServerError else rsp.finish

end LocalRsp

/-- `jsAddrArray`. -/
def jsAddrArray (addresses : List InventoryAddress) : Json :=
  .arr (addresses.map fun addr =>
    .obj [(lit "type", .str addr.type), (lit "dnsName", .str addr.dnsName),
      (lit "address", .str addr.address), (lit "port", .num addr.port.toNat)])

/-- `jsDevice` of the inventory. -/
def jsDevice (e : InventoryEntry) : Json :=
  .obj [(lit "name", .str e.name), (lit "hnodeID", .str e.hnodeID),
    (lit "deviceType", .str e.deviceType), (lit "deviceVersion", .str e.deviceVersion),
    (lit "discID", .str e.discID), (lit "crc32ID", .num e.crc32ID.toNat),
    (lit "hexID", .str e.hexID), (lit "mgmtState", .str e.mgmtState),
    (lit "addresses", jsAddrArray e.addresses)]

/-- `jsRoot` of the status of a device, which leaves `hexID` out. -/
def jsDeviceStatus (e : InventoryEntry) : Json :=
  .obj [(lit "name", .str e.name), (lit "hnodeID", .str e.hnodeID),
    (lit "deviceType", .str e.deviceType), (lit "deviceVersion", .str e.deviceVersion),
    (lit "discID", .str e.discID), (lit "crc32ID", .num e.crc32ID.toNat),
    (lit "mgmtState", .str e.mgmtState), (lit "addresses", jsAddrArray e.addresses)]

/-- `jsProviderSet` and `jsMappingSet`. -/
def jsServiceSet (srvInfoList : List HNMDServiceInfo) : Json :=
  .obj (srvInfoList.map fun info =>
    (info.srvType, .arr (info.devRefList.map fun devRef =>
      .obj [(lit "name", .str devRef.name), (lit "devCRC32ID", .str devRef.crc32ID)])))

/-- `jsDefaultSet`. -/
def jsDefaultSet (assocList : List HNMDServiceAssoc) : Json :=
  .obj ((assocList.filter fun assoc => assoc.type == .default).map fun assoc =>
    (assoc.srvType, .obj [(lit "providerCRC32ID", .str assoc.providerCRC32ID)]))

/-- `jsDirectedArray`. -/
def jsDirectedArray (assocList : List HNMDServiceAssoc) : Json :=
  .arr ((assocList.filter fun assoc => assoc.type == .directed).map fun assoc =>
    .obj [(lit "srvType", .str assoc.srvType), (lit "desirerCRC32ID", .str assoc.desirerCRC32ID),
      (lit "providerCRC32ID", .str assoc.providerCRC32ID)])

namespace LocalCall

/-- Another response. -/
def respond (c : LocalCall) (rsp : LocalRsp) : LocalCall := { c with rsp }

/-- `readContentToLocal` of the request. -/
def readContentToLocal (fuel : Nat) (c : LocalCall) : Option LocalCall :=
  (Transfer.transferLoop fuel (.msgContent, { c.req with sink := some c.reqContent })).map fun st =>
    { c with req := st.2, reqContent := st.2.sink.getD c.reqContent }

/-- The case `createAuthToken`.  The body of the request is printed only. -/
def createAuthToken (env : LocalEnv) (fuel : Nat) (c : LocalCall) : Option LocalCall := do
  let c ← c.readContentToLocal fuel
  let (result, jwtStr) ← generateJWT env c.arbiter.mgmtDevice (lit "admin") (12 * 60 * 60)
  match result with
  | .success =>
    -- the status comes first here, and the length last
    let rsp := ((c.rsp.setStatusCode 200).setReason (lit "OK")).setContentType
      (lit "application/json")
    let (bytes, raised) := env.stringify
      (.obj [(lit "username", .str (lit "admin")), (lit "accessToken", .str jwtStr),
        (lit "roles", .arr [.str (lit "ROLE_ADMIN")])])
    let rsp := rsp.useLocalContentSource.write bytes
    return c.respond (if raised then rsp.configAsInternalServerError else rsp.finalizeLocalContent)
  | .failure | .notAuthorized => return c.respond c.rsp.configAsInternalServerError

/-- The case `getStatus`. -/
def getStatus (env : LocalEnv) (c : LocalCall) : Option LocalCall :=
  some (c.respond (c.rsp.useLocalContentSource.render env
    (.obj [(lit "state", .str (lit "enable")), (lit "test2", .str (lit "00:00:00"))])))

/-- The case `getDeviceInventory`. -/
def getDeviceInventory (env : LocalEnv) (c : LocalCall) : Option LocalCall :=
  let inv := Arbiter.getDeviceInventory c.arbiter.getDeviceListCopy
  some (c.respond (c.rsp.useLocalContentSource.render env
    (.obj [(lit "ownedDevices", .arr (inv.ownedDevices.map jsDevice)),
      (lit "unclaimedDevices", .arr (inv.unclaimedDevices.map jsDevice)),
      (lit "unavailableDevices", .arr (inv.unavailableDevices.map jsDevice))])))

/-- The two calls of the operation data at the early exits of `getDeviceMgmtStatus`. -/
def respondByOpData (env : LocalEnv) (c : LocalCall) : Option LocalCall := do
  let opData ← env.responseSetStatusAndReason c.opData .internalServerError
  let opData ← env.responseSend opData
  return { c with opData }

/-- The case `getDeviceMgmtStatus`. -/
def getDeviceMgmtStatus (env : LocalEnv) (c : LocalCall) : Option LocalCall :=
  match c.opData.getParam (lit "devCRC32ID") with
  | none => c.respondByOpData env
  | some devCRC32ID =>
    -- the source is set before it is known that there is something to say
    let c := c.respond c.rsp.useLocalContentSource
    match c.arbiter.getDeviceCopy devCRC32ID with
    | none => c.respondByOpData env
    | some device => some (c.respond (c.rsp.render env (jsDeviceStatus (inventoryEntry device))))

/-- The case `postDeviceMgmtCommand`. -/
def postDeviceMgmtCommand (env : LocalEnv) (fuel : Nat) (c : LocalCall) : Option LocalCall :=
  match c.opData.getParam (lit "devCRC32ID") with
  | none => some (c.respond c.rsp.configAsInternalServerError)
  | some devCRC32ID => do
    let c ← c.readContentToLocal fuel
    let (arbiter, result) :=
      c.arbiter.setDeviceMgmtCmdFromJSON devCRC32ID (env.parse c.reqContent.written)
    let c := { c with arbiter }
    if result ≠ .success then return c.respond c.rsp.configAsInternalServerError
    else
      -- stored and started are two calls, and others may come between them
      let (arbiter, result) := (env.meanwhile 0 c.arbiter).startDeviceMgmtCmd devCRC32ID
      let c := { c with arbiter }
      if result ≠ .success then return c.respond c.rsp.configAsInternalServerError
      else return c.respond ((c.rsp.setStatusCode 200).setReason (lit "OK"))

/-- The case `getDeviceServices`. -/
def getDeviceServices (env : LocalEnv) (c : LocalCall) : Option LocalCall := do
  let rsp := c.rsp.useLocalContentSource
  let providers ← c.arbiter.reportSrvProviderInfoList
  let c := { c with arbiter := env.meanwhile 0 c.arbiter }
  let mappings ← c.arbiter.reportSrvMappingInfoList
  let c := { c with arbiter := env.meanwhile 1 c.arbiter }
  let defaults := c.arbiter.reportSrvDefaultMappings
  let c := { c with arbiter := env.meanwhile 2 c.arbiter }
  let directed := c.arbiter.reportSrvDirectedMappings
  return c.respond (rsp.render env
    (.obj [(lit "providerSet", jsServiceSet providers), (lit "mappingSet", jsServiceSet mappings),
      (lit "defaultMappings", jsDefaultSet defaults),
      (lit "directedMappings", jsDirectedArray directed)]))

/-- The case `getClusterHealth`, in which nothing is caught. -/
def getClusterHealth (env : LocalEnv) (c : LocalCall) : Option LocalCall :=
  (env.healthReport c.arbiter.caches).map fun bytes =>
    c.respond (c.rsp.useLocalContentSource.write bytes).finish

end LocalCall

/-- `handleLocalSCGIRequest`; `none` where it does not return, or not yet. -/
def handleLocalSCGIRequest (env : LocalEnv) (fuel : Nat) (c : LocalCall) : Option LocalCall :=
  if lit "createAuthToken" = c.opData.opID then c.createAuthToken env fuel
  else if lit "getStatus" = c.opData.opID then c.getStatus env
  else if lit "getDeviceInventory" = c.opData.opID then c.getDeviceInventory env
  else if lit "getDeviceMgmtStatus" = c.opData.opID then c.getDeviceMgmtStatus env
  else if lit "postDeviceMgmtCommand" = c.opData.opID then c.postDeviceMgmtCommand env fuel
  else if lit "getDeviceServices" = c.opData.opID then c.getDeviceServices env
  else if lit "getClusterHealth" = c.opData.opID then c.getClusterHealth env
  -- "Send back not implemented", which is Not Found
  else some (c.respond c.rsp.configAsNotFound)

/-! ## §6. The property. -/

/-- An error of HTTP. -/
def ErrorStatus (rsp : LocalRsp) : Prop := 400 ≤ rsp.msg.statusCode

/-- One of the two operations on a device is asked for with an ID that the arbiter
does not know. -/
def AsksUnknown (c : LocalCall) : Prop :=
  (c.opData.opID = lit "getDeviceMgmtStatus" ∨ c.opData.opID = lit "postDeviceMgmtCommand") ∧
    ∃ devCRC32ID, c.opData.getParam (lit "devCRC32ID") = some devCRC32ID ∧
      c.arbiter.deviceMap[devCRC32ID]? = none

/-- The status that is asked for, if it is one, is that of a known device. -/
def StatusOfKnown (c : LocalCall) : Prop :=
  c.opData.opID = lit "getDeviceMgmtStatus" → ∃ devCRC32ID device,
    c.opData.getParam (lit "devCRC32ID") = some devCRC32ID ∧
      c.arbiter.deviceMap[devCRC32ID]? = some device

/-! ## §7. The operations, one by one. -/

/-- Rendering completes a response, whether it raises or not. -/
theorem complete_render (env : LocalEnv) (rsp : LocalRsp) (h : Unannounced rsp) (jsRoot : Json) :
    CompleteResponse (rsp.render env jsRoot) := by
  unfold LocalRsp.render
  cases hout : env.stringify jsRoot with
  | mk bytes raised =>
    cases raised with
    | true => exact complete_internalServerError _
    | false => exact complete_finish (rsp.write bytes) h

section Operations

variable {env : LocalEnv} {fuel : Nat} {c c' : LocalCall}

/-- The content of the request is read, and nothing else changed. -/
theorem readContentToLocal_keeps (h : c.readContentToLocal fuel = some c') :
    c'.arbiter = c.arbiter ∧ c'.rsp = c.rsp := by
  obtain ⟨st, -, rfl⟩ := Option.map_eq_some_iff.mp h
  exact ⟨rfl, rfl⟩

theorem complete_createAuthToken (hnew : Unannounced c.rsp)
    (h : c.createAuthToken env fuel = some c') : CompleteResponse c'.rsp := by
  obtain ⟨read, hread, h⟩ := Option.bind_eq_some_iff.mp h
  obtain ⟨⟨result, jwtStr⟩, -, h⟩ := Option.bind_eq_some_iff.mp h
  rw [← (readContentToLocal_keeps hread).2] at hnew
  cases result with
  | failure =>
    obtain rfl := Option.some.inj h
    exact complete_internalServerError _
  | notAuthorized =>
    obtain rfl := Option.some.inj h
    exact complete_internalServerError _
  | success =>
    obtain rfl := Option.some.inj h
    show CompleteResponse (if _ then _ else _)
    split
    · exact complete_internalServerError _
    · -- here the length comes last, behind the type
      refine complete_of_announces rfl rfl fun _ => announces_finalize ?_
      exact (setContentType_get _ _).trans hnew

theorem complete_getStatus (hnew : Unannounced c.rsp) (h : c.getStatus env = some c') :
    CompleteResponse c'.rsp := by
  obtain rfl := Option.some.inj h
  exact complete_render env c.rsp.useLocalContentSource hnew _

theorem complete_getDeviceInventory (hnew : Unannounced c.rsp)
    (h : c.getDeviceInventory env = some c') : CompleteResponse c'.rsp := by
  obtain rfl := Option.some.inj h
  exact complete_render env c.rsp.useLocalContentSource hnew _

/-- The status of a known device. -/
theorem complete_getDeviceMgmtStatus {devCRC32ID : Str} {device : HNMDARecord}
    (hnew : Unannounced c.rsp) (hid : c.opData.getParam (lit "devCRC32ID") = some devCRC32ID)
    (hget : c.arbiter.deviceMap[devCRC32ID]? = some device)
    (h : c.getDeviceMgmtStatus env = some c') : CompleteResponse c'.rsp := by
  simp only [LocalCall.getDeviceMgmtStatus, hid, LocalCall.respond,
    HNManagedDeviceArbiter.getDeviceCopy, hget] at h
  obtain rfl := Option.some.inj h
  exact complete_render env c.rsp.useLocalContentSource hnew _

/-- The operation data is all that these calls change. -/
theorem respondByOpData_rsp (h : c.respondByOpData env = some c') : c'.rsp = c.rsp := by
  obtain ⟨opData, -, h⟩ := Option.bind_eq_some_iff.mp h
  obtain ⟨opData', -, h⟩ := Option.bind_eq_some_iff.mp h
  obtain rfl := Option.some.inj h
  rfl

/-- **The two exits to the operation data** leave the status as it was. -/
theorem getDeviceMgmtStatus_elsewhere
    (hunknown : ∀ devCRC32ID, c.opData.getParam (lit "devCRC32ID") = some devCRC32ID →
      c.arbiter.deviceMap[devCRC32ID]? = none)
    (h : c.getDeviceMgmtStatus env = some c') : c'.rsp.statusSet = c.rsp.statusSet := by
  unfold LocalCall.getDeviceMgmtStatus at h
  cases hid : c.opData.getParam (lit "devCRC32ID") with
  | none =>
    rw [hid] at h
    rw [respondByOpData_rsp h]
  | some devCRC32ID =>
    simp only [hid, HNManagedDeviceArbiter.getDeviceCopy, LocalCall.respond,
      hunknown devCRC32ID hid] at h
    rw [respondByOpData_rsp h]
    rfl

/-- A posted command is answered with a status and no content. -/
theorem complete_postDeviceMgmtCommand (hsource : c.rsp.contentSource = false)
    (h : c.postDeviceMgmtCommand env fuel = some c') : CompleteResponse c'.rsp := by
  unfold LocalCall.postDeviceMgmtCommand at h
  cases hid : c.opData.getParam (lit "devCRC32ID") with
  | none =>
    rw [hid] at h
    obtain rfl := Option.some.inj h
    exact complete_internalServerError _
  | some devCRC32ID =>
    rw [hid] at h
    obtain ⟨read, hread, h⟩ := Option.bind_eq_some_iff.mp h
    rw [← (readContentToLocal_keeps hread).2] at hsource
    dsimp only at h
    split at h
    · obtain rfl := Option.some.inj h
      exact complete_internalServerError _
    · split at h
      · obtain rfl := Option.some.inj h
        exact complete_internalServerError _
      · obtain rfl := Option.some.inj h
        refine complete_of_announces rfl rfl fun hset => ?_
        cases hsource.symm.trans hset

/-- For an unknown device it is refused. -/
theorem postDeviceMgmtCommand_unknown {devCRC32ID : Str}
    (hid : c.opData.getParam (lit "devCRC32ID") = some devCRC32ID)
    (hget : c.arbiter.deviceMap[devCRC32ID]? = none)
    (h : c.postDeviceMgmtCommand env fuel = some c') : ErrorStatus c'.rsp := by
  unfold LocalCall.postDeviceMgmtCommand at h
  rw [hid] at h
  obtain ⟨read, hread, h⟩ := Option.bind_eq_some_iff.mp h
  rw [← (readContentToLocal_keeps hread).1] at hget
  have hrefused : read.arbiter.setDeviceMgmtCmdFromJSON devCRC32ID
      (env.parse read.reqContent.written) = (read.arbiter, .failure) := by
    simp only [HNManagedDeviceArbiter.setDeviceMgmtCmdFromJSON, hget]
  rw [hrefused] at h
  obtain rfl := Option.some.inj h
  show (400 : UInt32) ≤ 500
  decide

theorem complete_getDeviceServices (hnew : Unannounced c.rsp)
    (h : c.getDeviceServices env = some c') : CompleteResponse c'.rsp := by
  obtain ⟨providers, -, h⟩ := Option.bind_eq_some_iff.mp h
  obtain ⟨mappings, -, h⟩ := Option.bind_eq_some_iff.mp h
  obtain rfl := Option.some.inj h
  exact complete_render env c.rsp.useLocalContentSource hnew _

theorem complete_getClusterHealth (hnew : Unannounced c.rsp)
    (h : c.getClusterHealth env = some c') : CompleteResponse c'.rsp := by
  obtain ⟨bytes, -, rfl⟩ := Option.map_eq_some_iff.mp h
  exact complete_finish (c.rsp.useLocalContentSource.write bytes) hnew

/-- The case of `getDeviceMgmtStatus` is reached by its name. -/
theorem handle_status (hop : c.opData.opID = lit "getDeviceMgmtStatus") :
    handleLocalSCGIRequest env fuel c = c.getDeviceMgmtStatus env := by
  unfold handleLocalSCGIRequest
  rw [hop, if_neg (by decide +kernel), if_neg (by decide +kernel), if_neg (by decide +kernel),
    if_pos rfl]

/-- And so is that of `postDeviceMgmtCommand`. -/
theorem handle_command (hop : c.opData.opID = lit "postDeviceMgmtCommand") :
    handleLocalSCGIRequest env fuel c = c.postDeviceMgmtCommand env fuel := by
  unfold handleLocalSCGIRequest
  rw [hop, if_neg (by decide +kernel), if_neg (by decide +kernel), if_neg (by decide +kernel),
    if_neg (by decide +kernel), if_pos rfl]

/-- **Every operation, known or not,** that is not the status of a device that is
not known leaves a complete response. -/
theorem complete_of_known (hnew : Unannounced c.rsp) (hsource : c.rsp.contentSource = false)
    (hknown : StatusOfKnown c) (h : handleLocalSCGIRequest env fuel c = some c') :
    CompleteResponse c'.rsp := by
  unfold handleLocalSCGIRequest at h
  split at h
  next => exact complete_createAuthToken hnew h
  next =>
  split at h
  next => exact complete_getStatus hnew h
  next =>
  split at h
  next => exact complete_getDeviceInventory hnew h
  next =>
  split at h
  next hop =>
    obtain ⟨devCRC32ID, device, hid, hget⟩ := hknown hop.symm
    exact complete_getDeviceMgmtStatus hnew hid hget h
  next =>
  split at h
  next => exact complete_postDeviceMgmtCommand hsource h
  next =>
  split at h
  next => exact complete_getDeviceServices hnew h
  next =>
  split at h
  next => exact complete_getClusterHealth hnew h
  next =>
    obtain rfl := Option.some.inj h
    exact complete_configAs _ 404 (lit "Not Found")

end Operations

/-- **A complete response**, and an error for an unknown device, is left by a call
that returns EXACTLY when the operation is not the status of a device, or that
of one that the arbiter knows. -/
theorem complete_response_iff (env : LocalEnv) (fuel : Nat) (c c' : LocalCall)
    (statusCode : UInt32) (hnew : c.rsp = .new statusCode)
    (hreturns : handleLocalSCGIRequest env fuel c = some c') :
    (CompleteResponse c'.rsp ∧ (AsksUnknown c → ErrorStatus c'.rsp)) ↔ StatusOfKnown c := by
  have hempty : Unannounced c.rsp := by
    rw [hnew]
    exact Std.ExtTreeMap.getElem?_empty
  constructor
  · intro h hop
    obtain ⟨hcomplete, -⟩ := h
    rw [handle_status hop] at hreturns
    by_contra hnot
    -- neither exit marks the status
    have hsame := getDeviceMgmtStatus_elsewhere (fun devCRC32ID hid => by
      by_contra hget
      obtain ⟨device, hget⟩ := Option.ne_none_iff_exists'.mp hget
      exact hnot ⟨devCRC32ID, device, hid, hget⟩) hreturns
    rw [hcomplete.status, hnew] at hsame
    cases hsame
  · intro hknown
    refine ⟨complete_of_known hempty (by rw [hnew]; rfl) hknown hreturns, fun hunknown => ?_⟩
    obtain ⟨hop, devCRC32ID, hid, hnone⟩ := hunknown
    rcases hop with hop | hop
    · obtain ⟨devCRC32ID', device, hid', hget⟩ := hknown hop
      obtain rfl := Option.some.inj (hid.symm.trans hid')
      cases hnone.symm.trans hget
    · rw [handle_command hop] at hreturns
      exact postDeviceMgmtCommand_unknown hid hnone hreturns

end LocalRequest

/-! ### The status of a device, known and not. -/

section Sample

open RefPlatform

/-- What is rendered for the garden. -/
def gardenStatus : Str :=
  lit "\x7b\"addresses\":[\x7b\"address\":\"192.168.1.10\",\"dnsName\":\"garden.local\"," ++
  lit "\"port\":8080,\"type\":\"ipv4\"\x7d],\"crc32ID\":1224801102," ++
  lit "\"deviceType\":\"hnode2-irrigation-device\",\"deviceVersion\":\"\"," ++
  lit "\"discID\":\"irrigation\",\"hnodeID\":" ++
  lit "\"29:72:e2:ae:db:90:11:ec:89:a1:b8:27:eb:52:da:55\"," ++
  lit "\"mgmtState\":\"DISCOVERED\",\"name\":\"garden\"\x7d"

/-- Nothing raises, and nobody else is at work. -/
def sampleLocalEnv : LocalEnv where
  stringify _ := (gardenStatus, false)
  healthReport _ := some []
  parse _ := none
  jwt :=
    { Jwt := Unit, jwtNew := (0, some ()), addGrant := fun _ _ _ => (0, ())
      setAlgHS256 := fun _ _ => (0, ()), encodeStr := fun _ => some (lit "e30.e30.") }
  time := 0
  instanceName := lit "default"
  meanwhile _ a := a
  responseSetStatusAndReason opData _ := some opData
  responseSend opData := some opData

/-- The garden is known, and the status of some device is asked for; the response
was made where a 1 happened to be. -/
def statusCall (devCRC32ID : Str) : LocalCall :=
  { arbiter := (Sys.init sampleManager ()).arbiter.notifyDiscoverAdd sampleDeviceFound.toRecord
    req := { msg := HNSCGIMsg.new, contentMoved := 0, source := none, sink := none }
    reqContent := .fresh
    rsp := .new 1
    opData :=
      { opID := lit "getDeviceMgmtStatus"
        paramMap := (∅ : StrMap Str).insertIfNew (lit "devCRC32ID") devCRC32ID } }

/-- The parameter is what was asked for. -/
theorem statusCall_getParam (devCRC32ID : Str) :
    (statusCall devCRC32ID).opData.getParam (lit "devCRC32ID") = some devCRC32ID := by
  show ((∅ : StrMap Str).insertIfNew _ _)[_]? = _
  rw [OrdMap.get_insertIfNew, if_pos ⟨rfl, by simp⟩]

/-- The garden is known. -/
theorem statusCall_known :
    ((statusCall (lit "4900fb4e")).arbiter.deviceMap[lit "4900fb4e"]?).isSome = true := by
  decide +kernel

/-- No other device is. -/
theorem statusCall_unknown :
    (statusCall (lit "00000000")).arbiter.deviceMap[lit "00000000"]? = none := by
  refine Option.isNone_iff_eq_none.mp ?_
  decide +kernel

/-- The status of the garden is a complete response. -/
theorem complete_response_sample :
    ∃ c', handleLocalSCGIRequest sampleLocalEnv 0 (statusCall (lit "4900fb4e")) = some c' ∧
      CompleteResponse c'.rsp ∧
      (AsksUnknown (statusCall (lit "4900fb4e")) → ErrorStatus c'.rsp) := by
  obtain ⟨device, hget⟩ := Option.isSome_iff_exists.mp statusCall_known
  have hid := statusCall_getParam (lit "4900fb4e")
  have hreturns : ∃ c', handleLocalSCGIRequest sampleLocalEnv 0
      (statusCall (lit "4900fb4e")) = some c' := by
    rw [handle_status rfl]
    simp only [LocalCall.getDeviceMgmtStatus, hid, LocalCall.respond,
      HNManagedDeviceArbiter.getDeviceCopy, hget]
    exact ⟨_, rfl⟩
  obtain ⟨c', hreturns⟩ := hreturns
  exact ⟨c', hreturns, (complete_response_iff sampleLocalEnv 0 (statusCall (lit "4900fb4e")) c' 1
    rfl hreturns).mpr fun _ => ⟨_, device, hid, hget⟩⟩

/-- **The status of an unknown device** is asked for: the call returns, the status is
the 1 that was there, no reason is set, and content without a length is to
follow. -/
theorem status_of_unknown :
    ∃ c', handleLocalSCGIRequest sampleLocalEnv 0 (statusCall (lit "00000000")) = some c' ∧
      c'.rsp.msg.statusCode = 1 ∧ c'.rsp.msg.reason = [] ∧ c'.rsp.contentSource = true ∧
      c'.rsp.msg.paramMap[lit "Content-Length"]? = none ∧
      ¬ (CompleteResponse c'.rsp ∧
        (AsksUnknown (statusCall (lit "00000000")) → ErrorStatus c'.rsp)) := by
  have hid := statusCall_getParam (lit "00000000")
  have hreturns : handleLocalSCGIRequest sampleLocalEnv 0 (statusCall (lit "00000000")) =
      some ((statusCall (lit "00000000")).respond (LocalRsp.new 1).useLocalContentSource) := by
    rw [handle_status rfl]
    simp only [LocalCall.getDeviceMgmtStatus, hid, LocalCall.respond,
      HNManagedDeviceArbiter.getDeviceCopy, statusCall_unknown]
    rfl
  refine ⟨_, hreturns, rfl, rfl, rfl, Std.ExtTreeMap.getElem?_empty, fun h => ?_⟩
  cases h.1.status

end Sample

end HNodeMgmt.Scgi
