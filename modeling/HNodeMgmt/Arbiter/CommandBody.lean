/-
  HNodeMgmt.Arbiter.CommandBody — what a posted body makes of the stored command.

  `setFromJSON` clears the stored command before it looks at the body, and
  fills it in as it reads.  An accepted body leaves nothing of what was there
  but a name that the mask hides; a rejected one leaves the command cleared, or
  cleared and of the type the body names.

  Main results:
    * `setFromJSON_accepted`, `setFromJSON_rejected` — the command after a body,
      by what the body says.
    * `rejected_keeps_iff` — a rejected body leaves the stored command as it was
      EXACTLY when it was cleared already, up to the type.
    * `executed_by_last_body` — what is sent for a command depends on the body
      that was accepted last, and on nothing before it.
-/
import Mathlib.Tactic.Common
import HNodeMgmt.Arbiter.DeviceOps
import HNodeMgmt.Arbiter.Commands

namespace HNodeMgmt.Arbiter

open Lib

/-! ## §1. What a body says. -/

/-- The type a command text stands for. -/
def commandType (command : Str) : CmdType :=
  if lit "claim" = command then .claimdev
  else if lit "release" = command then .releasedev
  else if lit "update_device_fields" = command then .setdevparams
  else .notset

/-- The type of the command a body names, NOTSET when it names none. -/
def bodyCommand : Body → CmdType
  | some (.object jsRoot) => ((jsRoot.getString (lit "command")).map commandType).getD .notset
  | _ => .notset

/-- The name a body has. -/
def bodyName : Body → Option Str
  | some (.object jsRoot) => jsRoot.getString (lit "name")
  | _ => none

/-- The type is set in either case, and an unknown name is the error. -/
theorem setTypeFromStr_eq (c : HNMDMgmtCmd) (value : Str) :
    c.setTypeFromStr value =
      ({ c with cmdType := commandType value }, commandType value == .notset) := by
  unfold HNMDMgmtCmd.setTypeFromStr commandType
  split
  next => rfl
  next =>
    split
    next => rfl
    next => split <;> rfl

/-- The command after a body that names a type. -/
theorem setFromJSON_typed {jsRoot : JsonObject} {command : Str} (c : HNMDMgmtCmd)
    (hcommand : jsRoot.getString (lit "command") = some command)
    (htype : commandType command ≠ .notset) :
    c.setFromJSON (some (.object jsRoot)) =
      if jsRoot.has (lit "name") then
        match jsRoot.getString (lit "name") with
        | none => ({ c.clear with cmdType := commandType command }, .failure)
        | some name =>
          (({ c.clear with cmdType := commandType command } : HNMDMgmtCmd).setName name, .success)
      else ({ c.clear with cmdType := commandType command }, .success) := by
  have hhas : jsRoot.has (lit "command") = true := by
    by_contra hnot
    rw [getString_eq_none_of_not_has (Bool.eq_false_iff.mpr hnot)] at hcommand
    cases hcommand
  have hflag : (commandType command == .notset) = false := beq_eq_false_iff_ne.mpr htype
  simp only [HNMDMgmtCmd.setFromJSON, hhas, hcommand, setTypeFromStr_eq, hflag]
  rfl

/-- And after one that names none: it is rejected, and the command cleared. -/
theorem setFromJSON_untyped (c : HNMDMgmtCmd) {body : Body} (h : bodyCommand body = .notset) :
    c.setFromJSON body = (c.clear, .failure) := by
  unfold HNMDMgmtCmd.setFromJSON
  split
  next jsRoot =>
    split
    next => rfl
    next =>
      cases hcommand : jsRoot.getString (lit "command") with
      | none => rfl
      | some command =>
        -- an unknown text sets NOTSET, which is what `clear` has left
        have htype : commandType command = .notset := by
          simpa only [bodyCommand, hcommand, Option.map_some, Option.getD_some] using h
        simp only [setTypeFromStr_eq, htype]
        rfl
  next => rfl

/-- A body that names a type is an object with a command text. -/
theorem command_of_typed {body : Body} (h : bodyCommand body ≠ .notset) :
    ∃ jsRoot command, body = some (.object jsRoot) ∧
      jsRoot.getString (lit "command") = some command ∧ commandType command = bodyCommand body := by
  unfold bodyCommand at h ⊢
  split at h
  next jsRoot =>
    cases hcommand : jsRoot.getString (lit "command") with
    | none =>
      rw [hcommand] at h
      exact absurd rfl h
    | some command => exact ⟨jsRoot, command, rfl, hcommand, rfl⟩
  next => exact absurd rfl h

/-- **An accepted body**: the type and the mask are its own, and so is the name
when it has one. -/
theorem setFromJSON_accepted {c : HNMDMgmtCmd} {body : Body}
    (h : (c.setFromJSON body).2 = .success) :
    bodyCommand body ≠ .notset ∧
      (c.setFromJSON body).1 =
        { cmdType := bodyCommand body
          fieldMask := if (bodyName body).isSome then fldmaskName else fldmaskNone
          name := (bodyName body).getD c.name } := by
  by_cases htype : bodyCommand body = .notset
  · rw [setFromJSON_untyped c htype] at h
    cases h
  obtain ⟨jsRoot, command, rfl, hcommand, heq⟩ := command_of_typed htype
  have hset := setFromJSON_typed c hcommand (heq ▸ htype)
  refine ⟨htype, ?_⟩
  rw [hset] at h ⊢
  rw [heq]
  cases hhas : jsRoot.has (lit "name") with
  | false =>
    simp only [bodyName, getString_eq_none_of_not_has hhas]
    rfl
  | true =>
    simp only [hhas, if_true] at h ⊢
    cases hname : jsRoot.getString (lit "name") with
    | none =>
      rw [hname] at h
      cases h
    | some name =>
      have hmask : fldmaskNone ||| fldmaskName = fldmaskName := by decide
      simp only [bodyName, hname, HNMDMgmtCmd.setName, HNMDMgmtCmd.clear, hmask]
      rfl

/-- **A rejected body**: nothing but the type is set. -/
theorem setFromJSON_rejected {c : HNMDMgmtCmd} {body : Body}
    (h : (c.setFromJSON body).2 = .failure) :
    (c.setFromJSON body).1 =
      { cmdType := bodyCommand body, fieldMask := fldmaskNone, name := c.name } := by
  by_cases htype : bodyCommand body = .notset
  · rw [setFromJSON_untyped c htype, htype]
    rfl
  obtain ⟨jsRoot, command, rfl, hcommand, heq⟩ := command_of_typed htype
  have hset := setFromJSON_typed c hcommand (heq ▸ htype)
  rw [hset] at h ⊢
  rw [← heq]
  cases hhas : jsRoot.has (lit "name") with
  | false =>
    rw [hhas] at h
    cases h
  | true =>
    simp only [hhas, if_true] at h ⊢
    cases hname : jsRoot.getString (lit "name") with
    | none =>
      -- the type stays set although the name is no text
      rfl
    | some name =>
      rw [hname] at h
      cases h

/-- The fields an accepted body is rendered to. -/
theorem getUpdateFieldsJSON_accepted {c : HNMDMgmtCmd} {body : Body}
    (h : (c.setFromJSON body).2 = .success) :
    (c.setFromJSON body).1.getUpdateFieldsJSON = (bodyName body).map some := by
  have hbit : fldmaskName &&& fldmaskName ≠ 0 := by decide
  have hset : fldmaskName ≠ fldmaskNone := by decide
  rw [(setFromJSON_accepted h).2]
  cases bodyName body with
  | none => rfl
  | some name =>
    unfold HNMDMgmtCmd.getUpdateFieldsJSON
    simp only [Option.isSome_some, if_true, if_neg hset, if_pos hbit]
    rfl

/-! ## §2. A rejected body. -/

section Rejected

variable [Platform]

/-- The call for a known device. -/
theorem setDeviceMgmtCmdFromJSON_known {a : HNManagedDeviceArbiter} {id : Str}
    {device : HNMDARecord} (hget : a.deviceMap[id]? = some device) (body : Body) :
    a.setDeviceMgmtCmdFromJSON id body =
      (a.setDevice id { device with mgmtCmd := (device.mgmtCmd.setFromJSON body).1 },
        (device.mgmtCmd.setFromJSON body).2) := by
  simp only [HNManagedDeviceArbiter.setDeviceMgmtCmdFromJSON, hget]
  rfl

/-- **A rejected body** leaves the stored command as it was EXACTLY when that was
empty but for its type, and the type is the one the body names.  Then nothing at
all has changed, and what was due is executed as it was posted. -/
theorem rejected_keeps_iff (a a' : HNManagedDeviceArbiter) (id : Str) (device : HNMDARecord)
    (body : Body) (hget : a.deviceMap[id]? = some device)
    (hrejected : a.setDeviceMgmtCmdFromJSON id body = (a', .failure)) :
    ((∃ device', a'.deviceMap[id]? = some device' ∧ device'.mgmtCmd = device.mgmtCmd) ↔
      device.mgmtCmd.fieldMask = fldmaskNone ∧
        device.mgmtCmd.cmdType = bodyCommand body) ∧
    (device.mgmtCmd.fieldMask = fldmaskNone ∧ device.mgmtCmd.cmdType = bodyCommand body →
      a' = a) := by
  rw [setDeviceMgmtCmdFromJSON_known hget, Prod.mk.injEq] at hrejected
  obtain ⟨harbiter, hresult⟩ := hrejected
  have hcmd := setFromJSON_rejected hresult
  have hkept : (device.mgmtCmd.setFromJSON body).1 = device.mgmtCmd ↔
      device.mgmtCmd.fieldMask = fldmaskNone ∧ device.mgmtCmd.cmdType = bodyCommand body := by
    rw [hcmd]
    constructor
    · intro heq
      exact ⟨(congrArg HNMDMgmtCmd.fieldMask heq).symm,
        (congrArg HNMDMgmtCmd.cmdType heq).symm⟩
    · intro hboth
      obtain ⟨hmask, htype⟩ := hboth
      rw [← hmask, ← htype]
  refine ⟨?_, fun hboth => ?_⟩
  · rw [← hkept, ← harbiter]
    constructor
    · intro h
      obtain ⟨device', hget', hsame⟩ := h
      rw [setDevice_get, if_pos rfl] at hget'
      obtain rfl := Option.some.inj hget'
      exact hsame
    · intro h
      exact ⟨_, setDevice_get.trans (if_pos rfl), h⟩
  · rw [← harbiter, hkept.mpr hboth]
    exact setDevice_self hget

end Rejected

section Sample

open RefPlatform

/-- A claim is posted and started; before the monitor gets to it, an empty object
is posted. -/
def overwrittenClaim : List Label :=
  [.notifyDiscoverAdd sampleDeviceFound, .setDeviceMgmtCmdFromJSON (lit "4900fb4e") claimBody,
    .startDeviceMgmtCmd (lit "4900fb4e"),
    .setDeviceMgmtCmdFromJSON (lit "4900fb4e") (some (.object [])),
    .wakeup, .readState, .act]

/-- The body is rejected, and the stored claim is gone. -/
def claimGone (t : Trans Sys Label Event) : Bool :=
  t.label == .setDeviceMgmtCmdFromJSON (lit "4900fb4e") (some (.object [])) &&
    (t.pre.arbiter.setDeviceMgmtCmdFromJSON (lit "4900fb4e") (some (.object []))).2 == .failure &&
    (t.pre.arbiter.deviceMap[lit "4900fb4e"]?.map HNMDARecord.mgmtCmd ==
      some { HNMDMgmtCmd.new with cmdType := .claimdev }) &&
    (t.post.arbiter.deviceMap[lit "4900fb4e"]?.map HNMDARecord.mgmtCmd == some HNMDMgmtCmd.new)

/-- **A rejected body takes the started claim away**: the monitor executes a command
that is not set, and sends nothing. -/
theorem rejected_overwrites :
    ∃ ts s, Run system (Sys.init sampleManager ()) ts s ∧
      (∃ t ∈ ts, claimGone t = true) ∧
      Event.cmdPassed (lit "4900fb4e") HNMDMgmtCmd.new ∈ history ts ∧
      ∀ id req, Event.request id req ∉ history ts := by
  obtain ⟨ts, s, hr, hp⟩ := Machine.exists_run_of_exec (M := system)
    (s := Sys.init sampleManager ()) (l := overwrittenClaim)
    (p := fun r => r.1.any claimGone &&
      history r.1 == [.cmdPassed (lit "4900fb4e") HNMDMgmtCmd.new])
    (by decide +kernel)
  obtain ⟨hgone, hevents⟩ := Bool.and_eq_true_iff.mp hp
  refine ⟨ts, s, hr, List.any_eq_true.mp hgone, ?_, fun id req hmem => ?_⟩
  · rw [beq_iff_eq.mp hevents]
    exact List.mem_singleton.mpr rfl
  · rw [beq_iff_eq.mp hevents] at hmem
    cases List.mem_singleton.mp hmem

/-- A discovered device with a claim that has been posted for it. -/
def pendingClaim : HNMDARecord :=
  { sampleDeviceFound.toRecord with
    mgmtCmd := { HNMDMgmtCmd.new with cmdType := .claimdev } }

/-- The arbiter that knows the device. -/
def sampleKnown : HNManagedDeviceArbiter :=
  (Sys.init sampleManager ()).arbiter.setDevice (lit "4900fb4e") pendingClaim

/-- A claim whose name is `null`. The name does not convert to a string, so the body is
rejected. -/
def nullNameBody : Body :=
  some (.object [(lit "command", stringField "claim"),
    (lit "name", { asString := none, asBool := none })])

/-- **The rejected body names the command that is pending**, so the claim is still there
and nothing at all has changed. -/
theorem rejected_keeps_sample :
    ∃ a', sampleKnown.setDeviceMgmtCmdFromJSON (lit "4900fb4e") nullNameBody = (a', .failure) ∧
      (∃ device', a'.deviceMap[lit "4900fb4e"]? = some device' ∧
        device'.mgmtCmd.cmdType = .claimdev) ∧
      a' = sampleKnown := by
  have hget : sampleKnown.deviceMap[lit "4900fb4e"]? = some pendingClaim :=
    setDevice_get.trans (if_pos rfl)
  have hfailure : (pendingClaim.mgmtCmd.setFromJSON nullNameBody).2 = .failure := by
    decide +kernel
  have hnamed : bodyCommand nullNameBody = .claimdev := by decide +kernel
  have hrejected : sampleKnown.setDeviceMgmtCmdFromJSON (lit "4900fb4e") nullNameBody =
      ((sampleKnown.setDeviceMgmtCmdFromJSON (lit "4900fb4e") nullNameBody).1, .failure) := by
    rw [setDeviceMgmtCmdFromJSON_known hget, hfailure]
  obtain ⟨hkept, hsame⟩ := rejected_keeps_iff sampleKnown _ (lit "4900fb4e") pendingClaim
    nullNameBody hget hrejected
  have hboth : pendingClaim.mgmtCmd.fieldMask = fldmaskNone ∧
      pendingClaim.mgmtCmd.cmdType = bodyCommand nullNameBody := ⟨rfl, hnamed.symm⟩
  obtain ⟨device', hget', hcmd⟩ := hkept.mpr hboth
  exact ⟨_, hrejected, ⟨device', hget', congrArg HNMDMgmtCmd.cmdType hcmd⟩, hsame hboth⟩

end Sample

/-! ## §3. An accepted body, and what is sent for it. -/

section Executed

variable [Platform]

/-- `executeDeviceMgmtCmd`. -/
def executeDeviceMgmtCmd (o : OpOutcome) : DeviceOp HNMDLResult := do
  let s ← Prog.get
  match s.device.mgmtCmd.cmdType with
  | .claimdev => sendDeviceClaimRequest o
  | .releasedev => sendDeviceReleaseRequest o
  | .setdevparams => sendDeviceSetParameters o
  | .notset => pure .failure

/-- It is the case the monitor takes in EXEC_CMD. -/
theorem executeDeviceMgmtCmd_eq (crc32ID : Str) (o : OpOutcome) (s : OpState) :
    executeDeviceMgmtCmd o s =
      match caseOp .execCmd s.device.mgmtCmd.cmdType with
      | some op => op.run crc32ID o s
      | none => { acts := [], state := s, result := some .failure } := by
  have hget : executeDeviceMgmtCmd o s =
      (match s.device.mgmtCmd.cmdType with
        | .claimdev => sendDeviceClaimRequest o
        | .releasedev => sendDeviceReleaseRequest o
        | .setdevparams => sendDeviceSetParameters o
        | .notset => pure .failure : DeviceOp HNMDLResult) s := rfl
  rw [hget]
  cases s.device.mgmtCmd.cmdType <;> rfl

/-- The JSON in the body of a command's request. -/
inductive CommandJson where
  | owner (ownerHNodeID : Str)
  | fields (name : Option Str)
  deriving DecidableEq, Repr

/-- What a payload is rendered to, by the command that is stored. -/
def Payload.json (cmd : HNMDMgmtCmd) : Payload → Option CommandJson
  | .owner ownerHNodeID => some (.owner ownerHNodeID)
  | .updateFields => cmd.getUpdateFieldsJSON.map .fields
  | _ => none

/-- The stored command after some bodies, accepted or not. -/
def afterBodies (c : HNMDMgmtCmd) (bodies : List Body) : HNMDMgmtCmd :=
  bodies.foldl (fun c body => (c.setFromJSON body).1) c

/-- The request for a body: method, path and JSON. -/
structure CommandRequest where
  method : HttpMethod
  path : Str
  json : Option CommandJson
  deriving DecidableEq, Repr

/-- What an accepted body asks to be sent. -/
def requestFor (a : HNManagedDeviceArbiter) (body : Body) : CommandRequest :=
  match bodyCommand body with
  | .releasedev => { method := .delete, path := lit "/hnode2/device/owner", json := none }
  | .setdevparams =>
    { method := .put, path := lit "/hnode2/device/info"
      json := (bodyName body).map fun name => .fields (some name) }
  | .claimdev | .notset =>
    { method := .put, path := lit "/hnode2/device/owner"
      json := some (.owner a.getSelfHNodeIDStr) }

/-- An operation that opens a connection and sends one request. -/
theorem sent_onConnection {k : HNMDARAddress → DeviceOp HNMDLResult}
    {p : DeviceOp (Option Body)} {o : OpOutcome} {s : OpState} {dcInfo : HNMDARAddress}
    {req : HttpRequest} {received : Received}
    (hconn : s.device.findPreferredConnection .ipv4 = some dcInfo)
    (hk : k dcInfo s = (p >>= fun reply => pure (agreed reply)) s)
    (hp : p s = { acts := [.other req], state := o.meanwhile s, result := received.result }) :
    others (onConnection k s).acts = [req] := by
  show (seen (onConnection k s)).1 = [req]
  rw [seen_onConnection, hconn]
  show (seen (k dcInfo s)).1 = [req]
  rw [hk]
  cases hres : received.result with
  | none =>
    rw [Prog.run_bind_raised (by rw [hp, hres]), hp]
    rfl
  | some reply =>
    rw [Prog.run_bind_some (by rw [hp, hres]), hp]
    rfl

/-- **An executed command depends on the last accepted body only.**  Whatever was
stored, and whatever was posted before it: one request is sent, which is the one
that body asks for. -/
theorem executed_by_last_body (c : HNMDMgmtCmd) (bodies : List Body) (body : Body)
    (a : HNManagedDeviceArbiter) (device : HNMDARecord) (dcInfo : HNMDARAddress) (o : OpOutcome)
    (haccepted : ((afterBodies c bodies).setFromJSON body).2 = .success)
    (hcmd : device.mgmtCmd = afterBodies c (bodies ++ [body]))
    (hconn : device.findPreferredConnection .ipv4 = some dcInfo) :
    ∃ payload,
      others (executeDeviceMgmtCmd o { arbiter := a, device }).acts =
        [requestTo (Platform.httpURI dcInfo.address dcInfo.port (requestFor a body).path)
          (requestFor a body).method payload] ∧
      payload.json device.mgmtCmd = (requestFor a body).json := by
  have hlast : device.mgmtCmd = ((afterBodies c bodies).setFromJSON body).1 := by
    rw [hcmd, afterBodies, List.foldl_append]
    rfl
  obtain ⟨htyped, hset⟩ := setFromJSON_accepted haccepted
  have htype : device.mgmtCmd.cmdType = bodyCommand body := by rw [hlast, hset]
  have hfields : device.mgmtCmd.getUpdateFieldsJSON = (bodyName body).map some := by
    rw [hlast, getUpdateFieldsJSON_accepted haccepted]
  rw [executeDeviceMgmtCmd_eq [] o]
  simp only [htype, caseOp]
  unfold requestFor
  cases hcommand : bodyCommand body with
  | claimdev =>
    exact ⟨_, sent_onConnection hconn rfl (run_exchangeRendered _), rfl⟩
  | releasedev => exact ⟨_, sent_onConnection hconn rfl (run_exchange _), rfl⟩
  | setdevparams =>
    -- the only command whose JSON is rendered from what is stored
    refine ⟨_, sent_onConnection hconn rfl (run_exchange _), ?_⟩
    show device.mgmtCmd.getUpdateFieldsJSON.map _ = _
    rw [hfields, Option.map_map]
    rfl
  | notset => exact absurd hcommand htyped

end Executed

section Sample

open RefPlatform

/-- A new name, a claim, and a body that is no JSON. -/
def postedBodies : List Body :=
  [some (.object [(lit "command", stringField "update_device_fields"),
      (lit "name", stringField "shed")]), claimBody, none]

/-- An update without a name. -/
def updateBody : Body := some (.object [(lit "command", stringField "update_device_fields")])

/-- The session with the device, which answers OK. -/
def sampleAnswer : OpOutcome :=
  { rest := okReply (.object []), meanwhile := id }

/-- The device they are posted for. -/
def sampleCommanded : HNMDARecord :=
  { sampleDeviceFound.toRecord with
    mgmtCmd := afterBodies HNMDMgmtCmd.new (postedBodies ++ [updateBody]) }

/-- The name of an earlier body is still stored, and not sent. -/
theorem executed_by_last_body_sample :
    sampleCommanded.mgmtCmd.name = lit "shed" ∧ ∃ payload : Payload,
      others (executeDeviceMgmtCmd sampleAnswer
        { arbiter := sampleKnown, device := sampleCommanded }).acts =
        [requestTo (Platform.httpURI (lit "192.168.1.10") 8080 (lit "/hnode2/device/info")) .put
          payload] ∧
      payload.json sampleCommanded.mgmtCmd = none :=
  ⟨by decide +kernel, executed_by_last_body HNMDMgmtCmd.new postedBodies updateBody sampleKnown
    sampleCommanded (setAddressInfo (lit "garden.local") (lit "192.168.1.10") 8080) sampleAnswer
    (by decide +kernel) rfl (by decide +kernel)⟩

end Sample

end HNodeMgmt.Arbiter
