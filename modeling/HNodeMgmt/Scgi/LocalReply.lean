/-
  HNodeMgmt.Scgi.LocalReply — what a client reads of a local operation.

  Seen from the network the manager is a table: an operation, the state of the
  arbiter and what the libraries return make an answer, which is a JSON text, a
  bare OK or an error.  The handler gets there by setting fields of a message,
  in an order that differs from operation to operation, and by streams: it marks
  a source before it knows its content, leaves half a text in the buffer when
  the rendering raises, and announces what a `uint` keeps of the length.

  Main results:
    * `clientReads_json`, `clientReads_config` — the two ways a response is finished.
    * `local_reply` — the client reads the answer of the table, byte for byte.
-/
import Mathlib.Tactic.Common
import HNodeMgmt.Scgi.LocalRequest
import HNodeMgmt.Scgi.Response

namespace HNodeMgmt.Scgi

open Lib Arbiter

/-! ## §1. The table of answers. -/

/-- A JSON text.  More than a `uint` counts is cut off. -/
def Reply.json (bytes : List UInt8) : Reply :=
  { status := 200, reason := lit "OK"
    fields := [(lit "Content-Length", decimal (bytes.length % 2 ^ 32)),
      (lit "Content-Type", lit "application/json")]
    body := bytes.take (bytes.length % 2 ^ 32) }

/-- A status with no content. -/
def Reply.empty (status : Nat) (reason : Str) : Reply :=
  { status, reason, fields := [(lit "Content-Length", lit "0")], body := [] }

/-- What an operation answers. -/
inductive Answer where
  | document (doc : Json)
  | text (bytes : List UInt8)
  | done
  | internalServerError
  | notFound

section LocalReply

variable [Platform]

/-- The answer as the client reads it.  A document is an error when its rendering
raises, whatever has been rendered by then. -/
def Answer.reply (env : LocalEnv) : Answer → Reply
  | .document doc =>
    if (env.stringify doc).2 then .empty 500 (lit "Internal Server Error")
    else .json (env.stringify doc).1
  | .text bytes => .json bytes
  | .done => { status := 200, reason := lit "OK", fields := [], body := [] }
  | .internalServerError => .empty 500 (lit "Internal Server Error")
  | .notFound => .empty 404 (lit "Not Found")

omit [Platform] in
def authToken (jwtStr : Str) : Json :=
  .obj [(lit "username", .str (lit "admin")), (lit "accessToken", .str jwtStr),
    (lit "roles", .arr [.str (lit "ROLE_ADMIN")])]

/-- A token for the administrator, for half a day. -/
def answerToken (env : LocalEnv) (a : HNManagedDeviceArbiter) : Option Answer :=
  (generateJWT env a.mgmtDevice (lit "admin") (12 * 60 * 60)).map fun (result, jwtStr) =>
    if result = .success then .document (authToken jwtStr) else .internalServerError

def answerInventory (a : HNManagedDeviceArbiter) : Answer :=
  let inv := Arbiter.getDeviceInventory a.getDeviceListCopy
  .document (.obj [(lit "ownedDevices", .arr (inv.ownedDevices.map jsDevice)),
    (lit "unclaimedDevices", .arr (inv.unclaimedDevices.map jsDevice)),
    (lit "unavailableDevices", .arr (inv.unavailableDevices.map jsDevice))])

/-- The command of a body is stored and, after what others did meanwhile, started. -/
def answerCommand (env : LocalEnv) (a : HNManagedDeviceArbiter) (devCRC32ID : Str)
    (content : List UInt8) : Answer :=
  let (stored, result) := a.setDeviceMgmtCmdFromJSON devCRC32ID (env.parse content)
  if result = .success ∧ ((env.meanwhile 0 stored).startDeviceMgmtCmd devCRC32ID).2 = .success then
    .done
  else .internalServerError

/-- The two indexes, each as it is when it is asked for.  There are no mappings of
the other two kinds. -/
def answerServices (env : LocalEnv) (a : HNManagedDeviceArbiter) : Option Answer := do
  let providers ← a.reportSrvProviderInfoList
  let mappings ← (env.meanwhile 0 a).reportSrvMappingInfoList
  return .document (.obj [(lit "providerSet", jsServiceSet providers),
    (lit "mappingSet", jsServiceSet mappings), (lit "defaultMappings", .obj []),
    (lit "directedMappings", .arr [])])

/-- **The table.**  `none` is a call that does not return, or the status of a device
that is not known, which has no answer. -/
def answer (env : LocalEnv) (fuel : Nat) (c : LocalCall) : Option Answer :=
  if lit "createAuthToken" = c.opData.opID then do
    let c ← c.readContentToLocal fuel
    answerToken env c.arbiter
  else if lit "getStatus" = c.opData.opID then
    some (.document (.obj [(lit "state", .str (lit "enable")),
      (lit "test2", .str (lit "00:00:00"))]))
  else if lit "getDeviceInventory" = c.opData.opID then some (answerInventory c.arbiter)
  else if lit "getDeviceMgmtStatus" = c.opData.opID then do
    let devCRC32ID ← c.opData.getParam (lit "devCRC32ID")
    let device ← c.arbiter.deviceMap[devCRC32ID]?
    return .document (jsDeviceStatus (inventoryEntry device))
  else if lit "postDeviceMgmtCommand" = c.opData.opID then
    match c.opData.getParam (lit "devCRC32ID") with
    | none => some .internalServerError
    | some devCRC32ID => do
      let c ← c.readContentToLocal fuel
      return answerCommand env c.arbiter devCRC32ID c.reqContent.written
  else if lit "getDeviceServices" = c.opData.opID then answerServices env c.arbiter
  else if lit "getClusterHealth" = c.opData.opID then
    (env.healthReport c.arbiter.caches).map .text
  else some .notFound

/-! ## §2. The two ways a response is finished. -/

omit [Platform] in
/-- Every client whose stream takes all that is written to it gets this reply. -/
def ClientReads (rsp : LocalRsp) (reply : Reply) : Prop := rsp.response.Reads reply

omit [Platform] in
/-- The content that is sent. -/
def sentContent (rsp : LocalRsp) : List UInt8 :=
  if rsp.contentSource then Transfer.wanted (Transfer.announced rsp.msg) rsp.localContent else []

omit [Platform] in
/-- A response of which nothing has been moved is read as it is. -/
theorem clientReads_plain {rsp : LocalRsp} (hmoved : rsp.contentMoved = 0)
    (hplain : PlainMsg rsp.msg) : ClientReads rsp (replyOf rsp.msg (sentContent rsp)) := by
  intro client htakes
  have hcontent : (rsp.transfer client).content = sentContent rsp := by
    show ((if rsp.contentSource then some (IStream.ofBytes rsp.localContent) else none).map
      _).getD [] = _
    unfold sentContent
    cases rsp.contentSource <;> rfl
  rw [← hcontent]
  refine response_read rfl htakes hmoved hplain fun is hsource => ?_
  have hbytes : (if rsp.contentSource then some (IStream.ofBytes rsp.localContent) else none) =
      some is := hsource
  split at hbytes
  next =>
    obtain rfl := Option.some.inj hbytes
    exact ⟨rfl, fun _ => rfl⟩
  next => cases hbytes

omit [Platform] in
/-- The names of the two fields, and their order. -/
theorem field_names :
    PlainField (lit "Content-Length", lit "0") ∧
      PlainField (lit "Content-Type", lit "application/json") ∧
      compare (lit "Content-Length") (lit "Content-Type") = .lt ∧ lit "0" = decimal 0 := by
  unfold PlainField
  decide +kernel

omit [Platform] in
/-- **A JSON text with its length and its type**, in whichever order these were set. -/
theorem clientReads_json (rsp : LocalRsp) (hmoved : rsp.contentMoved = 0)
    (hsource : rsp.contentSource = true) (hstatus : rsp.msg.statusCode = 200)
    (hreason : rsp.msg.reason = lit "OK")
    (hmap : ∀ name value, rsp.msg.paramMap[name]? = some value ↔
      (name, value) ∈ (Reply.json rsp.localContent).fields) :
    ClientReads rsp (.json rsp.localContent) := by
  obtain ⟨hlength, htype, hless, -⟩ := field_names
  have hlist : rsp.msg.paramMap.toList = (Reply.json rsp.localContent).fields := by
    refine OrdMap.toList_eq ?_ hmap
    simpa [Reply.json] using hless
  have hplain : PlainMsg rsp.msg := by
    refine ⟨by rw [hreason]; decide +kernel, ?_⟩
    rw [hlist]
    intro field hmem
    rcases List.mem_pair.mp hmem with rfl | rfl
    · exact ⟨hlength.1, hlength.2.1, decimal_plain_line _⟩
    · exact htype
  have hannounced : Transfer.announced rsp.msg = some (rsp.localContent.length % 2 ^ 32) := by
    refine Transfer.announced_decimal (Nat.mod_lt _ (by decide)) ?_
    exact (hmap _ _).mpr List.mem_cons_self
  have hreply : replyOf rsp.msg (sentContent rsp) = .json rsp.localContent := by
    rw [sentContent, if_pos hsource, hannounced, replyOf, hlist, hstatus, hreason]
    rfl
  rw [← hreply]
  exact clientReads_plain hmoved hplain

omit [Platform] in
/-- **A response that is made an error**, whatever it was before and whatever is in
its buffer. -/
theorem clientReads_config (rsp : LocalRsp) {statusCode : UInt32} {reason : Str}
    (hreason : 10 ∉ reason) :
    ClientReads (rsp.config (rsp.msg.configAs statusCode reason))
      (.empty statusCode.toNat reason) := by
  obtain ⟨hlength, -, -, hzero⟩ := field_names
  let msg := rsp.msg.configAs statusCode reason
  have hget : ∀ name value, msg.paramMap[name]? = some value ↔
      (name, value) ∈ [(lit "Content-Length", lit "0")] := by
    intro name value
    show ((∅ : StrMap Str).insertIfNew (lit "Content-Length") (decimal 0))[name]? = some value ↔ _
    rw [OrdMap.get_insertIfNew, hzero]
    by_cases hname : lit "Content-Length" = name
    · rw [if_pos ⟨hname, by simp⟩]
      simp [hname, eq_comm]
    · rw [if_neg fun h => hname h.1]
      simp [Ne.symm hname]
  have hlist : msg.paramMap.toList = [(lit "Content-Length", lit "0")] :=
    OrdMap.toList_eq (List.pairwise_singleton _ _) hget
  have hplain : PlainMsg msg := by
    refine ⟨hreason, ?_⟩
    rw [hlist]
    intro field hmem
    obtain rfl := List.mem_singleton.mp hmem
    exact hlength
  have hannounced : Transfer.announced msg = some 0 := by
    refine Transfer.announced_decimal (by decide) ?_
    rw [← hzero]
    exact (hget _ _).mpr List.mem_cons_self
  have hnothing : sentContent (rsp.config msg) = [] := by
    show (if rsp.contentSource then
      Transfer.wanted (Transfer.announced msg) rsp.localContent else []) = []
    rw [hannounced]
    exact ite_self []
  have hreply : replyOf msg (sentContent (rsp.config msg)) = .empty statusCode.toNat reason := by
    rw [hnothing, replyOf, hlist]
    rfl
  rw [← hreply]
  exact clientReads_plain rfl hplain

omit [Platform] in
/-- The response to a request that nobody takes. -/
theorem notFound_reads :
    Response.new.configAsNotFound.Reads (.empty 404 (lit "Not Found")) :=
  clientReads_config (LocalRsp.new 0) (by decide +kernel)

omit [Platform] in
/-- A map of two fields. -/
theorem get_two {a b : Str} (hne : a ≠ b) (x y name value : Str) :
    (((∅ : StrMap Str).insertIfNew a x).insertIfNew b y)[name]? = some value ↔
      (name, value) ∈ [(a, x), (b, y)] := by
  have hfirst : ∀ name : Str, ((∅ : StrMap Str).insertIfNew a x)[name]? =
      if a = name then some x else none := by
    intro name
    rw [OrdMap.get_insertIfNew]
    simp
  have hnot : b ∉ (∅ : StrMap Str).insertIfNew a x := by
    rw [OrdMap.not_mem_iff_get, hfirst, if_neg hne]
  rw [OrdMap.get_insertIfNew, hfirst]
  by_cases hb : b = name
  · subst hb
    rw [if_pos ⟨rfl, hnot⟩]
    have hother : ¬ b = a := Ne.symm hne
    simp [hother, eq_comm (a := value)]
  · rw [if_neg fun h => hb h.1]
    by_cases ha : a = name
    · subst ha
      simp [hne, eq_comm (a := value)]
    · simp [ha, Ne.symm ha, Ne.symm hb]

omit [Platform] in
/-- The two fields are different. -/
theorem length_ne_type : lit "Content-Length" ≠ lit "Content-Type" := by decide +kernel

omit [Platform] in
/-- The lines at the end of most operations, over a new response. -/
theorem clientReads_finish (statusCode : UInt32) (bytes : List UInt8) :
    ClientReads ((LocalRsp.new statusCode).useLocalContentSource.write bytes).finish
      (.json bytes) := by
  refine clientReads_json ((LocalRsp.new statusCode).useLocalContentSource.write bytes).finish
    rfl rfl rfl rfl fun name value => ?_
  refine (get_two length_ne_type _ _ name value).trans ?_
  rw [UInt32.toNat_ofNat']
  rfl

omit [Platform] in
/-- The token is announced last, behind the type. -/
theorem clientReads_token (statusCode : UInt32) (bytes : List UInt8) :
    ClientReads (((((LocalRsp.new statusCode).setStatusCode 200).setReason
      (lit "OK")).setContentType (lit "application/json")).useLocalContentSource.write
        bytes).finalizeLocalContent (.json bytes) := by
  refine clientReads_json (((((LocalRsp.new statusCode).setStatusCode 200).setReason
    (lit "OK")).setContentType (lit "application/json")).useLocalContentSource.write
      bytes).finalizeLocalContent rfl rfl rfl rfl fun name value => ?_
  refine (get_two length_ne_type.symm _ _ name value).trans ?_
  rw [UInt32.toNat_ofNat', List.mem_pair, or_comm]
  exact List.mem_pair.symm

omit [Platform] in
/-- A status and a reason, and nothing else. -/
theorem clientReads_done (statusCode : UInt32) :
    ClientReads (((LocalRsp.new statusCode).setStatusCode 200).setReason (lit "OK"))
      { status := 200, reason := lit "OK", fields := [], body := [] } := by
  let rsp := ((LocalRsp.new statusCode).setStatusCode 200).setReason (lit "OK")
  have hempty : rsp.msg.paramMap.toList = [] :=
    OrdMap.toList_eq (m := (∅ : StrMap Str)) List.Pairwise.nil fun _ _ => by simp
  have hplain : PlainMsg rsp.msg := by
    refine ⟨show 10 ∉ lit "OK" by decide +kernel, ?_⟩
    rw [hempty]
    exact fun _ hmem => absurd hmem List.not_mem_nil
  have hreply : replyOf rsp.msg [] =
      { status := 200, reason := lit "OK", fields := [], body := [] } := by
    rw [replyOf, hempty]
    rfl
  rw [← hreply]
  exact clientReads_plain rfl hplain

/-- The reply to a document whose rendering raises, and to another. -/
theorem reply_document {env : LocalEnv} {doc : Json} {bytes : List UInt8} {raised : Bool}
    (h : env.stringify doc = (bytes, raised)) :
    (Answer.document doc).reply env =
      if raised then .empty 500 (lit "Internal Server Error") else .json bytes := by
  show (if (env.stringify doc).2 then _ else Reply.json (env.stringify doc).1) = _
  rw [h]

omit [Platform] in
theorem clientReads_internalServerError (rsp : LocalRsp) :
    ClientReads rsp.configAsInternalServerError (.empty 500 (lit "Internal Server Error")) :=
  clientReads_config rsp (by decide +kernel)

/-- A document that is rendered. -/
theorem clientReads_render (env : LocalEnv) (statusCode : UInt32) (doc : Json) :
    ClientReads ((LocalRsp.new statusCode).useLocalContentSource.render env doc)
      ((Answer.document doc).reply env) := by
  unfold LocalRsp.render
  cases hout : env.stringify doc with
  | mk bytes raised =>
    rw [reply_document hout]
    cases raised with
    | true => exact clientReads_internalServerError _
    | false => exact clientReads_finish statusCode bytes

/-! ## §3. The operations. -/

section Operations

variable {env : LocalEnv} {fuel : Nat} {c : LocalCall} {statusCode : UInt32}

/-- What the handler leaves is read as the answer; where one does not return there
is none. -/
abbrev ReadAs (env : LocalEnv) : Option LocalCall → Option Answer → Prop :=
  Option.Rel fun c ans => ClientReads c.rsp (ans.reply env)

/-- They return together, and what is read is the answer. -/
theorem ReadAs.reads {returned : Option LocalCall} {found : Option Answer}
    (h : ReadAs env returned found) : (returned.isSome ↔ found.isSome) ∧
      ∀ c' ans, returned = some c' → found = some ans → ClientReads c'.rsp (ans.reply env) := by
  cases h with
  | none => exact ⟨Iff.rfl, fun _ _ hc => by cases hc⟩
  | some hread =>
    refine ⟨iff_of_true rfl rfl, fun c' ans hc hans => ?_⟩
    rw [← Option.some.inj hc, ← Option.some.inj hans]
    exact hread

/-- A call that begins with the same steps. -/
theorem ReadAs.bind {α : Type} {x : Option α} {f : α → Option LocalCall}
    {g : α → Option Answer} (h : ∀ a, x = some a → ReadAs env (f a) (g a)) :
    ReadAs env (x.bind f) (x.bind g) := by
  cases x with
  | none => exact .none
  | some a => exact h a rfl

/-- The content of the request is read, and the response is new still. -/
theorem ReadAs.readContent {f : LocalCall → Option LocalCall} {g : LocalCall → Option Answer}
    (hnew : c.rsp = .new statusCode)
    (h : ∀ c' : LocalCall, c'.rsp = .new statusCode → ReadAs env (f c') (g c')) :
    ReadAs env ((c.readContentToLocal fuel).bind f) ((c.readContentToLocal fuel).bind g) :=
  ReadAs.bind fun c' hread => h c' ((readContentToLocal_keeps hread).2.trans hnew)

theorem createAuthToken_reply (hnew : c.rsp = .new statusCode) :
    ReadAs env (c.createAuthToken env fuel)
      ((c.readContentToLocal fuel).bind fun c => answerToken env c.arbiter) := by
  refine ReadAs.readContent hnew fun c hnew => ?_
  unfold answerToken
  rw [Option.map_eq_bind]
  refine ReadAs.bind fun ⟨result, jwtStr⟩ _ => ?_
  cases result with
  | failure | notAuthorized => exact .some (clientReads_internalServerError _)
  | success =>
    refine .some ?_
    let prepared := (((c.rsp.setStatusCode 200).setReason (lit "OK")).setContentType
      (lit "application/json")).useLocalContentSource
    show ClientReads (if (env.stringify (authToken jwtStr)).2 then
        (prepared.write (env.stringify (authToken jwtStr)).1).configAsInternalServerError
      else (prepared.write (env.stringify (authToken jwtStr)).1).finalizeLocalContent) _
    cases hout : env.stringify (authToken jwtStr) with
    | mk bytes raised =>
      show ClientReads _ ((Answer.document (authToken jwtStr)).reply env)
      rw [reply_document hout]
      cases raised with
      | true => exact clientReads_internalServerError _
      | false =>
        have hprepared : prepared = (((c.rsp.setStatusCode 200).setReason
          (lit "OK")).setContentType (lit "application/json")).useLocalContentSource := rfl
        rw [hprepared, hnew]
        exact clientReads_token statusCode bytes

/-- A document that is rendered over a new response. -/
theorem render_reply (hnew : c.rsp = .new statusCode) (doc : Json) :
    ReadAs env (some (c.respond (c.rsp.useLocalContentSource.render env doc)))
      (some (.document doc)) := by
  rw [hnew]
  exact .some (clientReads_render env statusCode doc)

theorem getDeviceInventory_reply (hnew : c.rsp = .new statusCode) :
    ReadAs env (c.getDeviceInventory env) (some (answerInventory c.arbiter)) :=
  render_reply hnew _

theorem getDeviceMgmtStatus_reply (hnew : c.rsp = .new statusCode) {devCRC32ID : Str}
    {device : HNMDARecord} (hid : c.opData.getParam (lit "devCRC32ID") = some devCRC32ID)
    (hget : c.arbiter.deviceMap[devCRC32ID]? = some device) :
    ReadAs env (c.getDeviceMgmtStatus env)
      (some (.document (jsDeviceStatus (inventoryEntry device)))) := by
  simp only [LocalCall.getDeviceMgmtStatus, hid, LocalCall.respond,
    HNManagedDeviceArbiter.getDeviceCopy, hget]
  exact render_reply hnew _

theorem postDeviceMgmtCommand_reply (hnew : c.rsp = .new statusCode) :
    ReadAs env (c.postDeviceMgmtCommand env fuel)
      (match c.opData.getParam (lit "devCRC32ID") with
        | none => some .internalServerError
        | some devCRC32ID => (c.readContentToLocal fuel).bind fun c =>
          some (answerCommand env c.arbiter devCRC32ID c.reqContent.written)) := by
  unfold LocalCall.postDeviceMgmtCommand
  cases c.opData.getParam (lit "devCRC32ID") with
  | none => exact .some (clientReads_internalServerError _)
  | some devCRC32ID =>
    refine ReadAs.readContent hnew fun c hnew => ?_
    unfold answerCommand
    cases hstored : c.arbiter.setDeviceMgmtCmdFromJSON devCRC32ID
      (env.parse c.reqContent.written) with
    | mk stored result =>
    dsimp only
    by_cases hfirst : result = .success
    · rw [if_neg (not_not_intro hfirst)]
      cases hstarted : (env.meanwhile 0 stored).startDeviceMgmtCmd devCRC32ID with
      | mk started result' =>
      dsimp only
      by_cases hsecond : result' = .success
      · rw [if_neg (not_not_intro hsecond), if_pos ⟨hfirst, hsecond⟩]
        rw [hnew]
        exact .some (clientReads_done statusCode)
      · rw [if_pos hsecond, if_neg fun h => hsecond h.2]
        exact .some (clientReads_internalServerError _)
    · rw [if_pos hfirst, if_neg fun h => hfirst h.1]
      exact .some (clientReads_internalServerError _)

/-- The two kinds of mappings that are never filled. -/
theorem no_mappings (a a' : HNManagedDeviceArbiter) :
    jsDefaultSet a.reportSrvDefaultMappings = .obj [] ∧
      jsDirectedArray a'.reportSrvDirectedMappings = .arr [] := by
  have hnone : ∀ mappings : List (Str × HNMDSrvRef),
      mappings.foldl (fun (assocList : List HNMDServiceAssoc) _ => assocList) [] = [] := by
    intro mappings
    induction mappings with
    | nil => rfl
    | cons _ mappings ih => exact ih
  refine ⟨?_, rfl⟩
  rw [HNManagedDeviceArbiter.reportSrvDefaultMappings, hnone]
  rfl

theorem getDeviceServices_reply (hnew : c.rsp = .new statusCode) :
    ReadAs env (c.getDeviceServices env) (answerServices env c.arbiter) := by
  refine ReadAs.bind fun providers _ => ReadAs.bind fun mappings _ => ?_
  obtain ⟨hdefaults, hdirected⟩ := no_mappings (env.meanwhile 1 (env.meanwhile 0 c.arbiter))
    (env.meanwhile 2 (env.meanwhile 1 (env.meanwhile 0 c.arbiter)))
  dsimp only
  rw [hdefaults, hdirected, hnew]
  exact .some (clientReads_render env statusCode _)

theorem getClusterHealth_reply (hnew : c.rsp = .new statusCode) :
    ReadAs env (c.getClusterHealth env) ((env.healthReport c.arbiter.caches).map .text) := by
  unfold LocalCall.getClusterHealth
  rw [hnew]
  cases env.healthReport c.arbiter.caches with
  | none => exact .none
  | some bytes => exact .some (clientReads_finish statusCode bytes)

/-- What each operation leaves is read as the answer of the table. -/
theorem handled_reply (hnew : c.rsp = .new statusCode) (hknown : StatusOfKnown c) :
    ReadAs env (handleLocalSCGIRequest env fuel c) (answer env fuel c) := by
  unfold handleLocalSCGIRequest answer
  split
  next => exact createAuthToken_reply hnew
  next =>
  split
  next => exact render_reply hnew _
  next =>
  split
  next => exact getDeviceInventory_reply hnew
  next =>
  split
  next hop =>
    obtain ⟨devCRC32ID, device, hid, hget⟩ := hknown hop.symm
    simp only [hid, hget, Option.bind_eq_bind, Option.bind_some]
    exact getDeviceMgmtStatus_reply hnew hid hget
  next =>
  split
  next => exact postDeviceMgmtCommand_reply hnew
  next =>
  split
  next => exact getDeviceServices_reply hnew
  next =>
  split
  next => exact getClusterHealth_reply hnew
  next => exact .some (clientReads_config _ (by decide +kernel))

/-- **A client reads the answer of the table.**  For every operation, known or not,
with every state of the arbiter, every body and everything the libraries may
return, a call over a new response returns just when the table has an answer,
and then every client reads that answer: the status, the reason, the header
fields and the content, byte for byte. -/
theorem local_reply (env : LocalEnv) (fuel : Nat) (c : LocalCall) (statusCode : UInt32)
    (hnew : c.rsp = .new statusCode) (hknown : StatusOfKnown c) :
    ((handleLocalSCGIRequest env fuel c).isSome ↔ (answer env fuel c).isSome) ∧
      ∀ c' ans, handleLocalSCGIRequest env fuel c = some c' → answer env fuel c = some ans →
        ClientReads c'.rsp (ans.reply env) :=
  ReadAs.reads (handled_reply hnew hknown)

end Operations

end LocalReply

/-! ### The status of the garden, on its way to a client. -/

section Sample

open RefPlatform

/-- The garden is known, and its status is asked for: the client reads the text that
is rendered for it. -/
theorem local_reply_sample :
    ∃ c', handleLocalSCGIRequest sampleLocalEnv 0 (statusCall (lit "4900fb4e")) = some c' ∧
      ClientReads c'.rsp (.json gardenStatus) := by
  obtain ⟨device, hget⟩ := Option.isSome_iff_exists.mp statusCall_known
  have hid := statusCall_getParam (lit "4900fb4e")
  have hop : (statusCall (lit "4900fb4e")).opData.opID = lit "getDeviceMgmtStatus" := rfl
  have hanswer : answer sampleLocalEnv 0 (statusCall (lit "4900fb4e")) =
      some (.document (jsDeviceStatus (inventoryEntry device))) := by
    unfold answer
    rw [hop, if_neg (by decide +kernel), if_neg (by decide +kernel), if_neg (by decide +kernel),
      if_pos rfl]
    simp only [hid, hget, Option.bind_eq_bind, Option.bind_some]
    rfl
  obtain ⟨hreturns, hread⟩ := local_reply sampleLocalEnv 0 (statusCall (lit "4900fb4e")) 1 rfl
    fun _ => ⟨_, device, hid, hget⟩
  rw [hanswer] at hreturns
  obtain ⟨c', hcall⟩ := Option.isSome_iff_exists.mp (hreturns.mpr rfl)
  have hreply := hread c' _ hcall hanswer
  exact ⟨c', hcall, hreply⟩

end Sample

end HNodeMgmt.Scgi
