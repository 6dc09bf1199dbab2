/-
  HNodeMgmt.Arbiter.Entitled — commands and the ownership they are for.

  A claim is for an available device, a release for an owned one; the command
  types are defined so.  The call that starts a command says "Validate the
  request" and validates nothing, and neither does the monitor when it executes
  the command.  From the start of a command to its execution nothing changes the
  ownership of the device: only the monitor does, in a case for that device.

  Main results:
    * `entitled_step` — the command that is due stays one the device's ownership
      is for, when the posts see to it.
    * `commands_respect_ownership` — in every run of such posts, claims go to
      available devices only, and releases to owned ones.
    * `claimed_from_other` — a claim sent to a device of another manager.
-/
import Mathlib.Tactic.Common
import HNodeMgmt.Arbiter.Ownership
import HNodeMgmt.Arbiter.RecordSteps

namespace HNodeMgmt.Arbiter

open Lib

/-! ## §1. What a command is for. -/

/-- "Claim ownership of an available device", "Release ownership of an owned
device". -/
def cmdSuits : CmdType → OwnerState → Bool
  | .claimdev, ownerState => ownerState == .available
  | .releasedev, ownerState => ownerState == .mine
  | _, _ => true

/-- `PUT` of an owner. -/
def isClaimRequest (req : HttpRequest) : Bool :=
  match req.payload with
  | .owner _ => true
  | _ => false

/-- `DELETE` of the owner. -/
def isReleaseRequest (req : HttpRequest) : Bool := req.method == .delete

theorem caseOp_claim {st : MgmtState} {cmdType : CmdType}
    (hop : caseOp st cmdType = some .sendDeviceClaimRequest) :
    st = .execCmd ∧ cmdType = .claimdev := by
  cases st <;> cases cmdType <;> first | exact ⟨rfl, rfl⟩ | cases hop

theorem caseOp_release {st : MgmtState} {cmdType : CmdType}
    (hop : caseOp st cmdType = some .sendDeviceReleaseRequest) :
    st = .execCmd ∧ cmdType = .releasedev := by
  cases st <;> cases cmdType <;> first | exact ⟨rfl, rfl⟩ | cases hop

section Entitled

variable [Platform]

/-- Only the claim puts an owner. -/
theorem start_claim {a : HNManagedDeviceArbiter} {device : HNMDARecord} {op : RestOp}
    {req : HttpRequest} (hstart : (op.start a device).2 = .request req)
    (hclaim : isClaimRequest req = true) : op = .sendDeviceClaimRequest := by
  have hne : ∀ {payload : Payload}, req.payload = payload →
      (∀ own, payload ≠ .owner own) → False := by
    intro payload hpay hno
    unfold isClaimRequest at hclaim
    split at hclaim
    next own hown => exact hno own (hpay.symm.trans hown)
    next => cases hclaim
  cases op with
  | sendDeviceClaimRequest => rfl
  | executeDeviceServicesUpdateMapping =>
    simp only [RestOp.start] at hstart
    split at hstart
    next => cases hstart
    next => exact absurd (openRequest_eq hstart).2 fun hpay => hne hpay fun _ h => by cases h
  | updateDeviceHealthInfo | updateDeviceStringReferences =>
    obtain ⟨-, hempty | ⟨fmtCodes, hcodes⟩⟩ := start_published rfl hstart
    · exact (hne hempty fun _ h => by cases h).elim
    · exact (hne hcodes fun _ h => by cases h).elim
  | _ => exact absurd (openRequest_eq hstart).2 fun hpay => hne hpay fun _ h => by cases h

/-- Only the release deletes. -/
theorem start_release {a : HNManagedDeviceArbiter} {device : HNMDARecord} {op : RestOp}
    {req : HttpRequest} (hstart : (op.start a device).2 = .request req)
    (hrelease : isReleaseRequest req = true) : op = .sendDeviceReleaseRequest := by
  have hdelete : req.method = .delete := beq_iff_eq.mp hrelease
  cases op with
  | sendDeviceReleaseRequest => rfl
  | executeDeviceServicesUpdateMapping =>
    simp only [RestOp.start] at hstart
    split at hstart
    next => cases hstart
    next => cases (openRequest_eq hstart).1.symm.trans hdelete
  | updateDeviceHealthInfo | updateDeviceStringReferences =>
    exact absurd hdelete (start_published rfl hstart).1
  | _ => cases (openRequest_eq hstart).1.symm.trans hdelete

/-- The stored command is one the device's ownership is for. -/
def Entitled (device : HNMDARecord) : Prop :=
  cmdSuits device.mgmtCmd.cmdType device.ownerState = true

/-- The requests of a step respect the ownership of the devices they go to. -/
structure RespectsOwnership (t : Trans Sys Label Event) : Prop where
  claim : ∀ id req, Event.request id req ∈ t.evts → isClaimRequest req = true →
    ∃ device, t.pre.arbiter.deviceMap[id]? = some device ∧ device.ownerState = .available
  release : ∀ id req, Event.request id req ∈ t.evts → isReleaseRequest req = true →
    ∃ device, t.pre.arbiter.deviceMap[id]? = some device ∧ device.ownerState = .mine

/-- The posts validate: a command is started when it suits the ownership, unless
the monitor is about to overwrite its start; and while one is due, it is replaced
by a command that does. -/
def PostsSuit (u : Sys) : Label → Prop
  | .startDeviceMgmtCmd id => ∀ device : HNMDARecord, u.arbiter.deviceMap[id]? = some device →
      due id u.monitor .execCmd = true → Entitled device
  | .setDeviceMgmtCmdFromJSON id body =>
    ∀ device : HNMDARecord, u.arbiter.deviceMap[id]? = some device →
      due id u.monitor device.mgmtState = true → Entitled (device.setMgmtCmdFromJSON body).1
  | _ => True

/-! ## §2. From the start of a command to its execution. -/

/-- A command that is due is one the ownership is for. -/
structure EntitledInv (key : Str) (u : Sys) : Prop where
  known : workingOn key u.monitor = true → u.arbiter.deviceMap[key]? ≠ none
  next : ∀ st next, u.monitor = .writing key st next → next.1 ≠ .execCmd
  entitled : ∀ device, u.arbiter.deviceMap[key]? = some device →
    due key u.monitor device.mgmtState = true → Entitled device

variable {u v : Sys} {key : Str} {l : Label} {es : List Event}

omit [Platform] in
/-- Away from the device nothing but EXEC_CMD is due. -/
theorem execCmd_of_due {monitor : MonitorPhase} {st : MgmtState}
    (hfree : workingOn key monitor = false) (hdue : due key monitor st = true) :
    monitor ≠ .dead ∧ st = .execCmd := by
  rw [due_of_free hfree, Bool.and_eq_true, bne_iff_ne, decide_eq_true_eq] at hdue
  exact hdue

omit [Platform] in
theorem not_due_of_written {id : Str} {st st' : MgmtState} {next : MgmtState × Nat} :
    due id (.writing id st next) st' = false := by
  simp [due]

/-- What becomes of the command that is due. -/
theorem entitled_of_recordTook (hinv : EntitledInv key u) (hok : PostsSuit u l)
    (htook : RecordTook u key l v es) :
    ∀ device, v.arbiter.deviceMap[key]? = some device →
      due key v.monitor device.mgmtState = true → Entitled device := by
  cases htook with
  | away same moved quiet =>
    intro device hget hdue
    refine hinv.entitled device (same ▸ hget) ?_
    cases moved with
    | stays heq => exact heq ▸ hdue
    | ends hdead =>
      rw [hdead] at hdue
      cases hdue
    | goesOn halive hfree hfree' =>
      rw [due_of_free hfree, (execCmd_of_due hfree' hdue).2]
      simp [halive]
  | @appeared event _ hid hnone after stays =>
    -- a new record is in SELF or DISCOVERED, and the monitor is not at it
    refine forall_record after fun hdue => ?_
    rw [stays] at hdue
    have hfree : workingOn key u.monitor = false :=
      Bool.eq_false_iff.mpr fun hw => hinv.known hw hnone
    have hst := (execCmd_of_due hfree hdue).2
    unfold discovered at hst
    split at hst <;> cases hst
  | @announced event _ device hid hget after stays =>
    rw [updateRecord_frame] at after
    exact forall_record after fun hdue => hinv.entitled device hget (stays ▸ hdue)
  | @removed event _ device hid hget after stays =>
    refine forall_record after fun hdue => hinv.entitled device hget ?_
    rw [stays] at hdue
    cases hw : workingOn key u.monitor with
    | true =>
      -- the monitor goes by the state it has read
      rw [due_of_working hw _ .disappearing]
      exact hdue
    | false => cases (execCmd_of_due hw hdue).2
  -- the two calls of an operator are what has to be checked
  | @cmdSet body _ device hget after stays =>
    exact forall_record after fun hdue => hok device hget (stays ▸ hdue)
  | @cmdStarted _ device hget after stays =>
    exact forall_record after fun hdue => hok device hget (stays ▸ hdue)
  | @read _ device hat hget hbusy after goes =>
    refine forall_record after fun hdue => hinv.entitled device hget ?_
    -- what is read is what was there
    rw [goes] at hdue
    rw [hat]
    simpa [due] using hdue
  | alone hat hget hop after goes | finished hat hget hop hstart after goes
  | replied hat hget hfinish after goes =>
    refine forall_record after fun hdue => ?_
    rw [goes, not_due_of_written] at hdue
    cases hdue
  | requested hat hget hop hstart after goes =>
    refine forall_record after fun hdue => ?_
    rw [goes] at hdue
    simp [due] at hdue
  | raised hat hget hop hstart after goes =>
    refine forall_record after fun hdue => ?_
    rw [goes] at hdue
    cases hdue
  | @written _ st next device hat hget after goes =>
    refine forall_record after fun hdue => ?_
    exact absurd (execCmd_of_due goes hdue).2 (hinv.next st next hat)

/-- **One step** of posts that validate keeps the command that is due one the
ownership is for. -/
theorem entitled_step (hinv : EntitledInv key u) (hok : PostsSuit u l)
    (hstep : system.step u l = some (v, es)) : EntitledInv key v := by
  have htook := took_of_step hstep
  have hrecord := recordTook_of_took htook key
  refine ⟨hrecord.known hinv.known, fun st next hat => ?_,
    entitled_of_recordTook hinv hok hrecord⟩
  rcases took_phase key htook with ⟨hphase, -⟩ | hmoved
  · exact hinv.next st next (hphase.symm.trans hat)
  · exact hmoved.next st next hat

/-- A step from such a state respects the ownership. -/
theorem respects_of_entitled (hinv : ∀ key, EntitledInv key u)
    (hstep : system.step u l = some (v, es)) : RespectsOwnership ⟨u, l, es, v⟩ := by
  -- a request goes out in a case that executes the command that was due
  have hcmd : ∀ {id req}, Event.request id req ∈ es → ∃ (st : MgmtState) (device : HNMDARecord)
      (op : RestOp), u.arbiter.deviceMap[id]? = some device ∧
        caseOp st device.mgmtCmd.cmdType = some op ∧
        (op.start u.arbiter device).2 = .request req ∧ (st = .execCmd → Entitled device) := by
    intro id req hreq
    obtain ⟨st, device, op, hat, hget, hop, hstart⟩ := request_of_took (took_of_step hstep) hreq
    refine ⟨st, device, op, hget, hop, hstart, fun hst => (hinv id).entitled device hget ?_⟩
    rw [hat, hst]
    simp [due]
  refine ⟨fun id req hreq hclaim => ?_, fun id req hreq hrelease => ?_⟩
  · obtain ⟨st, device, op, hget, hop, hstart, hentitled⟩ := hcmd hreq
    obtain rfl := start_claim hstart hclaim
    obtain ⟨hst, htype⟩ := caseOp_claim hop
    have hsuits := hentitled hst
    rw [Entitled, htype] at hsuits
    exact ⟨device, hget, beq_iff_eq.mp hsuits⟩
  · obtain ⟨st, device, op, hget, hop, hstart, hentitled⟩ := hcmd hreq
    obtain rfl := start_release hstart hrelease
    obtain ⟨hst, htype⟩ := caseOp_release hop
    have hsuits := hentitled hst
    rw [Entitled, htype] at hsuits
    exact ⟨device, hget, beq_iff_eq.mp hsuits⟩

theorem entitledInv_init (mgmtDevice : HNodeDevice) (caches : Platform.Caches) (key : Str) :
    EntitledInv key (Sys.init mgmtDevice caches) := by
  refine ⟨fun hw => absurd hw Bool.false_ne_true, fun st next hat => ?_, fun device hget => ?_⟩
  · cases hat
  · simp [Sys.init] at hget

/-- **Commands respect ownership** in every run whose posts validate: a claim is
sent to a device that is AVAILABLE at that moment, a release to one that is
MINE. -/
theorem commands_respect_ownership (mgmtDevice : HNodeDevice) (caches : Platform.Caches)
    (ts : List (Trans Sys Label Event)) (s : Sys)
    (hr : Run system (Sys.init mgmtDevice caches) ts s) (hok : StepsMeet PostsSuit ts) :
    ∀ t ∈ ts, RespectsOwnership t := by
  suffices h : StepsMeet PostsSuit ts →
      (∀ key, EntitledInv key s) ∧ ∀ t ∈ ts, RespectsOwnership t from (h hok).2
  refine Run.traceInvariant (P := fun ts s => StepsMeet PostsSuit ts →
    (∀ key, EntitledInv key s) ∧ ∀ t ∈ ts, RespectsOwnership t) ?_ ?_ hr
  · exact fun _ => ⟨entitledInv_init mgmtDevice caches, fun _ h => absurd h List.not_mem_nil⟩
  · intro us u l v es _ ih hstep hok
    rw [stepsMeet_snoc] at hok
    obtain ⟨hinv, hbefore⟩ := ih hok.1
    rw [List.forall_mem_append, List.forall_mem_singleton]
    exact ⟨fun key => entitled_step (hinv key) hok.2 hstep, hbefore,
      respects_of_entitled hinv hstep⟩

/-- A test for `PostsSuit`, for runs that are executed. -/
def postsSuitCheck (u : Sys) : Label → Bool
  | .startDeviceMgmtCmd id => (u.arbiter.deviceMap[id]?).all fun device =>
      !due id u.monitor .execCmd || cmdSuits device.mgmtCmd.cmdType device.ownerState
  | .setDeviceMgmtCmdFromJSON id body => (u.arbiter.deviceMap[id]?).all fun device =>
      !due id u.monitor device.mgmtState ||
        cmdSuits (device.setMgmtCmdFromJSON body).1.mgmtCmd.cmdType device.ownerState
  | _ => true

theorem postsSuit_of_check (hcheck : postsSuitCheck u l = true) : PostsSuit u l := by
  cases l with
  | startDeviceMgmtCmd id =>
    intro device hget hdue
    show cmdSuits _ _ = true
    simpa [postsSuitCheck, hget, hdue] using hcheck
  | setDeviceMgmtCmdFromJSON id body =>
    intro device hget hdue
    show cmdSuits (device.setMgmtCmdFromJSON body).1.mgmtCmd.cmdType device.ownerState = true
    simpa [postsSuitCheck, hget, hdue] using hcheck
  | _ => trivial

end Entitled

/-! ## §3. An available device, and one of another manager. -/

section Sample

open RefPlatform

/-- The device is discovered, and asked who owns it. -/
def ownerAskedRun (owner : JsonVar) : List Label :=
  [.notifyDiscoverAdd sampleDeviceFound,
    .wakeup, .readState, .act, .writeState,
    .wakeup, .readState, .act, .reply (okReply (.object [])), .writeState,
    .wakeup, .readState, .act, .reply (okReply owner), .writeState]

/-- A client posts a claim, and the monitor wakes up. -/
def claimPosted : List Label :=
  [.setDeviceMgmtCmdFromJSON (lit "4900fb4e") claimBody, .startDeviceMgmtCmd (lit "4900fb4e"),
    .wakeup, .readState, .act]

/-- The owner reply of a device nobody owns. -/
def notOwned : JsonVar := .object [(lit "isAvailable", { asString := none, asBool := some true })]

/-- The owner reply that names another node. -/
def ownedByOther : JsonVar :=
  .object [(lit "isOwned", { asString := none, asBool := some true }),
    (lit "owner_hnodeID", stringField "29:72:e2:ae:db:90:11:ec:89:a1:b8:27:eb:52:da:56")]

/-- The event is a claim that is sent to the device. -/
def isClaimTo (id : Str) : Event → Bool
  | .request crc32ID req => crc32ID == id && isClaimRequest req
  | _ => false

/-- A device nobody owns is claimed. -/
theorem commands_respect_ownership_sample :
    ∃ ts s, Run system (Sys.init sampleManager ()) ts s ∧
      (history ts).any (isClaimTo (lit "4900fb4e")) = true ∧ ∀ t ∈ ts, RespectsOwnership t := by
  obtain ⟨ts, s, hr, hp⟩ := Machine.exists_run_of_exec (M := system)
    (s := Sys.init sampleManager ()) (l := ownerAskedRun notOwned ++ claimPosted)
    (p := fun r => r.1.all (fun t => postsSuitCheck t.pre t.label) &&
      (history r.1).any (isClaimTo (lit "4900fb4e")))
    (by decide +kernel)
  obtain ⟨hall, hclaim⟩ := Bool.and_eq_true_iff.mp hp
  exact ⟨ts, s, hr, hclaim, commands_respect_ownership sampleManager () ts s hr
    fun t ht => postsSuit_of_check (List.all_eq_true.mp hall t ht)⟩

/-- **A device of another manager is claimed**: its ownership is OTHER when the
claim is sent. -/
theorem claimed_from_other :
    ∃ ts s, Run system (Sys.init sampleManager ()) ts s ∧
      ∃ t ∈ ts, (∃ req, Event.request (lit "4900fb4e") req ∈ t.evts ∧
          isClaimRequest req = true) ∧
        (∃ device, t.pre.arbiter.deviceMap[lit "4900fb4e"]? = some device ∧
          device.ownerState = .other) ∧ ¬ RespectsOwnership t := by
  obtain ⟨ts, s, hr, hp⟩ := Machine.exists_run_of_exec (M := system)
    (s := Sys.init sampleManager ()) (l := ownerAskedRun ownedByOther ++ claimPosted)
    (p := fun r => r.1.any fun t =>
      (t.pre.arbiter.deviceMap[lit "4900fb4e"]?).any (fun d => d.ownerState == .other) &&
        t.evts.any (isClaimTo (lit "4900fb4e")))
    (by decide +kernel)
  obtain ⟨t, ht, hboth⟩ := List.any_eq_true.mp hp
  obtain ⟨hother, hevts⟩ := Bool.and_eq_true_iff.mp hboth
  obtain ⟨device, hget, hstate⟩ := (Option.any_eq_true _ _).mp hother
  obtain ⟨e, he, hclaim⟩ := List.any_eq_true.mp hevts
  have hst : device.ownerState = .other := beq_iff_eq.mp hstate
  cases e with
  | request id req =>
    obtain ⟨hid, hreq⟩ := Bool.and_eq_true_iff.mp hclaim
    obtain rfl : id = lit "4900fb4e" := beq_iff_eq.mp hid
    refine ⟨ts, s, hr, t, ht, ⟨req, he, hreq⟩, ⟨device, hget, hst⟩, fun hrespects => ?_⟩
    obtain ⟨d, hd, havailable⟩ := hrespects.claim _ req he hreq
    obtain rfl := Option.some.inj (hd.symm.trans hget)
    rw [hst] at havailable
    cases havailable
  | _ => cases hclaim

end Sample

end HNodeMgmt.Arbiter
