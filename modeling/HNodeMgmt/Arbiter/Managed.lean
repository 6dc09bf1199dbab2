/-
  HNodeMgmt.Arbiter.Managed — a device that answers becomes managed.

  A device is set up by a chain of exchanges, and it falls out of the chain at
  the first that fails, when its owner turns out to be another, or when it is
  reported gone.  Where none of this happens, every state that is written is
  one of the chain; and as the chain comes to an end, the device ends among the
  managed ones.

  Main results:
    * `nextState_onWay` — a case whose exchange went well does not leave the chain.
    * `onWay_step` — neither does any step that does not hinder the device.
    * `answering_device_managed` — a device that has a plain IPv4 address and
      answers is managed after six passes.
-/
import Mathlib.Tactic.Common
import HNodeMgmt.Arbiter.Addresses
import HNodeMgmt.Arbiter.DiscoveryOrder
import HNodeMgmt.Arbiter.Ownership
import HNodeMgmt.Arbiter.Settles

namespace HNodeMgmt.Arbiter

open Lib

/-! ## §1. The chain. -/

/-- The states of a device that is managed, and polled. -/
def servedState : MgmtState → Bool
  | .active | .updateHealth | .updateStrref => true
  | _ => false

/-- The states that lead there, and these. -/
def onChain (st : MgmtState) : Bool := inTransit st || servedState st

/-- The cases that leave the chain when the device does not answer. -/
def needsAnswer : MgmtState → Bool
  | .execCmd | .optInfo | .ownerInfo | .srvProvideInfo | .srvMapUpdate => true
  | _ => false

section Managed

variable [Platform]

/-- A case may be begun in this state with this command. -/
structure OnWay (cmd : HNMDMgmtCmd) (st : MgmtState) : Prop where
  chain : onChain st = true
  command : st = .execCmd → cmd.cmdType ≠ .notset

variable {mgmtDevice : HNodeDevice} {a : HNManagedDeviceArbiter} {device : HNMDARecord}
  {st : MgmtState} {op : RestOp} {result : HNMDLResult} {key : Str} {u v s s' : Sys} {l : Label}
  {es : List Event} {o : RestOutcome}

/-- **A case does not leave the chain** if its exchange went well, where it needs it,
and the owner is this manager. -/
theorem nextState_onWay (cmd : HNMDMgmtCmd) (hst : onChain st = true)
    (hresult : needsAnswer st = true → result = .success)
    (howner : st = .ownerInfo → device.ownerState = .mine) :
    OnWay cmd (nextState a device st result).1 := by
  refine ⟨?_, fun heq => absurd heq (nextState_ne_execCmd a device st result)⟩
  cases st with
  | ownerInfo =>
    rw [hresult rfl]
    simp only [nextState, howner rfl]
    rfl
  | srvMapUpdate =>
    rw [hresult rfl]
    simp only [nextState]
    split <;> rfl
  | optInfo | srvProvideInfo | execCmd =>
    rw [hresult rfl]
    rfl
  | discovered | recovered | srvMappingInfo | active | updateHealth | updateStrref =>
    cases result <;> rfl
  | _ => cases hst

/-! ## §2. The exchanges. -/

/-- A case that needs an answer asks, once the device has an address; only the
mapping update may find that there is nothing to ask. -/
theorem start_answers {cmdType : CmdType} (hop : caseOp st cmdType = some op)
    (hst : needsAnswer st = true) (haddr : device.findPreferredConnection .ipv4 ≠ none)
    (hstart : (op.start a device).2 = .finished result) :
    result = .success ∧ st = .srvMapUpdate := by
  rcases start_finished hop hstart with rfl | rfl | rfl | ⟨-, hnone⟩
  · refine ⟨?_, rfl⟩
    obtain rfl := Option.some.inj hop
    simp only [RestOp.start] at hstart
    split at hstart
    next => exact (RestStart.finished.inj hstart).symm
    next =>
      -- with changes to push, the device is asked at its address
      obtain ⟨m, heq, -⟩ := mappingChanges_device a device
      have hconn : (mappingChanges a device).1.findPreferredConnection .ipv4 =
          device.findPreferredConnection .ipv4 := by rw [heq]; rfl
      unfold openRequest at hstart
      cases hfind : (mappingChanges a device).1.findPreferredConnection .ipv4 with
      | none => exact absurd (hconn.symm.trans hfind) haddr
      | some dcInfo =>
        rw [hfind] at hstart
        cases hstart
  · cases hst
  · cases hst
  · exact absurd hnone haddr

omit [Platform] in
/-- A case without a helper needs no answer, unless it is a command that is not set. -/
theorem no_helper {cmd : HNMDMgmtCmd} (hst : OnWay cmd st) (hop : caseOp st cmd.cmdType = none) :
    needsAnswer st = false := by
  cases st with
  | execCmd =>
    have hset := hst.command rfl
    simp only [caseOp] at hop
    cases hcmd : cmd.cmdType with
    | notset => exact absurd hcmd hset
    | claimdev | releasedev | setdevparams =>
      rw [hcmd] at hop
      cases hop
  | _ => first | rfl | cases hop

/-- The body of a reply with an OK status. -/
def Received.body : Received → Option Body
  | .ok body => some body
  | _ => none

omit [Platform] in
theorem Received.body_eq_some {r : Received} {body : Body} : r.body = some body ↔ r = .ok body := by
  cases r <;> simp [Received.body]

/-- The device answers: the reply is received and taken over, and a reply about
the owner names the manager. -/
def Answers (mgmtDevice : HNodeDevice) (a : HNManagedDeviceArbiter) (key : Str)
    (device : HNMDARecord) (o : RestOutcome) (op : RestOp) : Prop :=
  (op.finish a key device o).map Prod.snd = some .success ∧
    (op = .updateDeviceOwnerInfo →
      ∃ body ∈ o.receive.body, namesManager mgmtDevice body)

/-- A reply that names the manager makes the device the manager's. -/
theorem owner_mine {body : Body} (hself : a.mgmtDevice = mgmtDevice)
    (hnames : namesManager mgmtDevice body) :
    (applyOwnerReply a.getSelfCRC32ID device body).1.ownerState = .mine := by
  obtain ⟨r, hparse, howned, hcrc⟩ := hnames
  have hown : a.getSelfCRC32ID = Platform.getCRC32 r.ownerHNID := by
    rw [hcrc, ← hself]
    rfl
  simp only [applyOwnerReply, hparse, if_pos howned, if_pos hown]
  rfl

/-- An answer to the helper of a case makes it succeed, and the owner's makes the
device the manager's. -/
theorem answered_finish {cmdType : CmdType} {a' : HNManagedDeviceArbiter}
    (hself : a.mgmtDevice = mgmtDevice) (hop : caseOp st cmdType = some op)
    (hanswer : Answers mgmtDevice a key device o op)
    (hfinish : op.finish a key device o = some (a', result)) :
    result = .success ∧ (st = .ownerInfo → (op.deviceGiven a device o).ownerState = .mine) := by
  obtain ⟨hsuccess, howner⟩ := hanswer
  rw [hfinish, Option.map_some] at hsuccess
  refine ⟨Option.some.inj hsuccess, fun hst => ?_⟩
  subst hst
  obtain rfl : RestOp.updateDeviceOwnerInfo = op := Option.some.inj hop
  obtain ⟨body, hbody, hnames⟩ := howner rfl
  rw [deviceGiven_ok (Received.body_eq_some.mp hbody)]
  exact owner_mine hself hnames

/-! ## §3. The device along a run. -/

/-- A reply to the device's case answers it, where it needs an answer. -/
def RepliedWell (mgmtDevice : HNodeDevice) (a : HNManagedDeviceArbiter) (key : Str)
    (o : RestOutcome) : MonitorPhase → Option HNMDARecord → Prop
  | .waiting id st op, some device =>
    id = key → needsAnswer st = true → Answers mgmtDevice a key device o op
  | _, _ => True

/-- Nothing takes the device off its way: no command is given for it, it is not
reported gone, and what it is asked it answers. -/
def Unhindered (mgmtDevice : HNodeDevice) (key : Str) (s : Sys) : Label → Prop
  | .startDeviceMgmtCmd id | .setDeviceMgmtCmdFromJSON id _ => id ≠ key
  | .notifyDiscoverRemove event => event.toRecord.getCRC32IDStr ≠ key
  | .reply o => RepliedWell mgmtDevice s.arbiter key o s.monitor s.arbiter.deviceMap[key]?
  | _ => True

omit [Platform] in
/-- What the monitor is doing with the device, or is about to write, is on the
chain. -/
def PhaseOnWay (key : Str) (cmd : HNMDMgmtCmd) : MonitorPhase → Prop
  | .acting id st => id = key → OnWay cmd st
  | .waiting id st op => id = key → OnWay cmd st ∧ ∃ cmdType, caseOp st cmdType = some op
  | .writing id _ next => id = key → OnWay cmd next.1
  | _ => True

omit [Platform] in
theorem phaseOnWay_free {cmd : HNMDMgmtCmd} {phase : MonitorPhase}
    (hfree : workingOn key phase = false) : PhaseOnWay key cmd phase := by
  cases phase with
  | idle | atDevice id | dead => trivial
  | acting id st | waiting id st op | writing id st next =>
    intro heq
    simp [workingOn, heq] at hfree

/-- The device is known, and on its way, in its record and at the monitor. -/
structure DeviceOnWay (key : Str) (s : Sys) (device : HNMDARecord) : Prop where
  get : s.arbiter.deviceMap[key]? = some device
  record : OnWay device.mgmtCmd device.mgmtState
  phase : PhaseOnWay key device.mgmtCmd s.monitor

/-- A case has come to its end on the chain. -/
private theorem DeviceOnWay.ended {device' : HNMDARecord} {next : MgmtState × Nat}
    (hway : DeviceOnWay key u device) (after : v.arbiter.deviceMap[key]? = some device')
    (hcmd : device'.mgmtCmd = device.mgmtCmd) (hstate : device'.mgmtState = device.mgmtState)
    (goes : v.monitor = .writing key st next) (hnext : OnWay device.mgmtCmd next.1) :
    DeviceOnWay key v device' := by
  refine ⟨after, ?_, ?_⟩
  · rw [hcmd, hstate]
    exact hway.record
  · rw [goes, hcmd]
    exact fun _ => hnext

/-- The main thread has written other parts of the record. -/
private theorem DeviceOnWay.main {device' : HNMDARecord} (hway : DeviceOnWay key u device)
    (after : v.arbiter.deviceMap[key]? = some device') (hcmd : device'.mgmtCmd = device.mgmtCmd)
    (hstate : device'.mgmtState = device.mgmtState) (stays : v.monitor = u.monitor) :
    DeviceOnWay key v device' := by
  refine ⟨after, ?_, ?_⟩
  · rw [hcmd, hstate]
    exact hway.record
  · rw [hcmd, stays]
    exact hway.phase

/-- **No step that does not hinder the device takes it off its way.** -/
theorem onWay_step (hself : u.arbiter.mgmtDevice = mgmtDevice)
    (haddr : device.findPreferredConnection .ipv4 ≠ none) (hway : DeviceOnWay key u device)
    (hcalm : Unhindered mgmtDevice key u l) (hstep : system.step u l = some (v, es)) :
    ∃ device', DeviceOnWay key v device' := by
  have hsame : ∀ {d : HNMDARecord}, u.arbiter.deviceMap[key]? = some d → d = device := fun hd =>
    Option.some.inj (hd.symm.trans hway.get)
  cases recordTook_of_took (took_of_step hstep) key with
  | away same moved quiet =>
    refine ⟨device, same.trans hway.get, hway.record, ?_⟩
    rcases moved.free with heq | hfree
    · rw [heq]
      exact hway.phase
    · exact phaseOnWay_free hfree
  | appeared hid hnone after stays => cases hnone.symm.trans hway.get
  | announced hid hget after stays =>
    obtain rfl := hsame hget
    exact ⟨_, hway.main after (updateRecord_mgmtCmd _ _) (updateRecord_mgmtState _ _) stays⟩
  | removed hid hget after stays => exact absurd hid hcalm
  | cmdSet hget after stays | cmdStarted hget after stays => exact absurd rfl hcalm
  | read hphase hget hbusy after goes =>
    obtain rfl := hsame hget
    exact ⟨_, after, hway.record, goes ▸ fun _ => hway.record⟩
  | @alone _ st d hphase hget hop after goes =>
    obtain rfl := hsame hget
    have hst : OnWay d.mgmtCmd st := (hphase ▸ hway.phase : PhaseOnWay key _ (.acting key st)) rfl
    refine ⟨_, hway.ended after ?_ (caseOwnership_mgmtState st d) goes ?_⟩
    · cases st <;> rfl
    · have hfree : needsAnswer st = false := no_helper hst hop
      refine nextState_onWay _ hst.chain (fun hneed => ?_) fun hown => ?_
      · exact absurd hneed (by rw [hfree]; exact Bool.false_ne_true)
      · rw [hown] at hfree
        cases hfree
  | @finished _ st d op result hphase hget hop hstart after goes =>
    obtain rfl := hsame hget
    have hst : OnWay d.mgmtCmd st := (hphase ▸ hway.phase : PhaseOnWay key _ (.acting key st)) rfl
    obtain ⟨m, heq, -⟩ := start_device u.arbiter d op
    have hfinished := fun hneed => start_answers hop hneed haddr hstart
    refine ⟨_, hway.ended after ?_ (start_mgmtState _ d op) goes ?_⟩
    · rw [heq]
    · refine nextState_onWay _ hst.chain (fun hneed => (hfinished hneed).1) fun hown => ?_
      -- the owner is always asked
      obtain ⟨-, hpush⟩ := hfinished (hown ▸ rfl)
      cases hown.symm.trans hpush
  | @requested _ st d op req hphase hget hop hstart after goes =>
    obtain rfl := hsame hget
    have hst : OnWay d.mgmtCmd st := (hphase ▸ hway.phase : PhaseOnWay key _ (.acting key st)) rfl
    obtain ⟨m, heq, -⟩ := start_device u.arbiter d op
    rw [heq] at after
    exact ⟨_, after, hway.record, goes ▸ fun _ => ⟨hst, _, hop⟩⟩
  | @raised _ st d op hphase hget hop hstart after goes =>
    obtain rfl := hsame hget
    obtain ⟨m, heq, -⟩ := start_device u.arbiter d op
    rw [heq] at after
    exact ⟨_, after, hway.record, goes ▸ trivial⟩
  | @replied _ st d op o result hphase hget hfinish after goes =>
    obtain rfl := hsame hget
    obtain ⟨hst, cmdType, hop⟩ :=
      (hphase ▸ hway.phase : PhaseOnWay key d.mgmtCmd (.waiting key st op)) rfl
    have hframe := deviceGiven_frame u.arbiter d o op
    have hwell : RepliedWell mgmtDevice u.arbiter key o (.waiting key st op) (some d) :=
      hphase ▸ hget ▸ hcalm
    have hgood := fun hneed => answered_finish hself hop (hwell rfl hneed) hfinish
    refine ⟨_, hway.ended after hframe.mgmtCmd hframe.mgmtState goes ?_⟩
    exact nextState_onWay _ hst.chain (fun hneed => (hgood hneed).1)
      fun hown => (hgood (hown ▸ rfl)).2 hown
  | @written _ st next d hphase hget after goes =>
    obtain rfl := hsame hget
    have hnext : OnWay d.mgmtCmd next.1 :=
      (hphase ▸ hway.phase : PhaseOnWay key _ (.writing key st next)) rfl
    exact ⟨_, after, hnext, phaseOnWay_free goes⟩

/-- An announced IPv4 address is found in the record. -/
theorem addressed_of_announced {caches : Platform.Caches} {ts : List (Trans Sys Label Event)}
    (hr : Run system (Sys.init mgmtDevice caches) ts s)
    (hget : s.arbiter.deviceMap[key]? = some device) {e : Str × Str × UInt16}
    (hmem : e ∈ announced key ts) (htype : addressType e.2.1 = .ipv4) :
    device.findPreferredConnection .ipv4 ≠ none := by
  have hfind := find_type (announced key ts) .ipv4
  rw [← addrsOf_run hr key, addrsOf_of_get hget] at hfind
  intro hnone
  rw [HNMDARecord.findPreferredConnection, Option.map_eq_none_iff] at hnone
  rw [hnone, Option.map_none] at hfind
  have hall := List.find?_eq_none.mp (Option.map_eq_none_iff.mp hfind.symm)
  exact hall e hmem (beq_iff_eq.mpr htype)

/-- **A device that answers becomes managed.**  Take any run, and when the monitor
is asleep a device on its way that has announced an IPv4 address.  Let anything
happen to the other devices, and let this one be discovered again as often as it
likes: if no command is given for it, it is not reported gone, and it answers what
it has to, naming this manager when asked for its owner, then, asleep again after
six passes, the monitor counts it among the managed devices. -/
theorem answering_device_managed (mgmtDevice : HNodeDevice) (caches : Platform.Caches)
    (before ts : List (Trans Sys Label Event)) (s s' : Sys)
    (hr₀ : Run system (Sys.init mgmtDevice caches) before s) (hr : Run system s ts s')
    (hidle : s.monitor = .idle) (key : Str) (device : HNMDARecord)
    (hget : s.arbiter.deviceMap[key]? = some device) (hway : OnWay device.mgmtCmd device.mgmtState)
    (haddr : ∃ e ∈ announced key before, addressType e.2.1 = .ipv4)
    (hcalm : StepsMeet (Unhindered mgmtDevice key) ts)
    (hpasses : 6 ≤ passesOf ts) (hend : s'.monitor = .idle) :
    ∃ device', s'.arbiter.deviceMap[key]? = some device' ∧
      servedState device'.mgmtState = true := by
  obtain ⟨e, hmem, htype⟩ := haddr
  have hkept : StepsMeet (Unhindered mgmtDevice key) ts →
      ∃ device', DeviceOnWay key s' device' := by
    refine Run.traceInvariant (P := fun us u => StepsMeet (Unhindered mgmtDevice key) us →
      ∃ device', DeviceOnWay key u device') ?_ ?_ hr
    · exact fun _ => ⟨device, hget, hway, hidle ▸ trivial⟩
    · intro us u l v es hus hu hstep hsteps
      obtain ⟨hcalms, hcalm⟩ := stepsMeet_snoc.mp hsteps
      obtain ⟨d, hd⟩ := hu hcalms
      have hrun := hr₀.append hus
      have hmem' : e ∈ announced key (before ++ us) := by
        rw [announced, List.flatMap_append]
        exact List.mem_append_left _ hmem
      exact onWay_step (ownedInv_run hrun).self (addressed_of_announced hrun hd.get hmem' htype) hd
        hcalm hstep
  obtain ⟨d, hd⟩ := hkept hcalm
  obtain ⟨device', hget', hnil⟩ :=
    nothing_ahead hr hidle hget (fun t ht heq => absurd rfl (heq ▸ hcalm t ht)) hpasses hend
  obtain rfl := Option.some.inj (hget'.symm.trans hd.get)
  refine ⟨device', hget', ?_⟩
  have hchain := hd.record.chain
  rw [onChain, inTransit, hnil] at hchain
  exact hchain

end Managed

/-! ## §4. A device that answers. -/

section Sample

open RefPlatform

instance (mgmtDevice : HNodeDevice) (body : Body) : Decidable (namesManager mgmtDevice body) :=
  decidable_of_iff
    (∃ r ∈ parseOwnerReply body, r.isOwned = true ∧
      Platform.getCRC32 r.ownerHNID = mgmtDevice.hnodeIDCRC32) Iff.rfl

instance (mgmtDevice : HNodeDevice) (a : HNManagedDeviceArbiter) (key : Str)
    (device : HNMDARecord) (o : RestOutcome) (op : RestOp) :
    Decidable (Answers mgmtDevice a key device o op) :=
  inferInstanceAs (Decidable (_ ∧ _))

instance (mgmtDevice : HNodeDevice) (a : HNManagedDeviceArbiter) (key : Str) (o : RestOutcome) :
    ∀ phase device, Decidable (RepliedWell mgmtDevice a key o phase device)
  | .waiting id st op, some device =>
    inferInstanceAs (Decidable (id = key → needsAnswer st = true →
      Answers mgmtDevice a key device o op))
  | .waiting _ _ _, none | .idle, _ | .atDevice _, _ | .acting _ _, _ | .writing _ _ _, _
  | .dead, _ => isTrue trivial

instance (mgmtDevice : HNodeDevice) (key : Str) (s : Sys) :
    ∀ l, Decidable (Unhindered mgmtDevice key s l)
  | .startDeviceMgmtCmd id | .setDeviceMgmtCmdFromJSON id _ =>
    inferInstanceAs (Decidable (id ≠ key))
  | .notifyDiscoverRemove event =>
    inferInstanceAs (Decidable (event.toRecord.getCRC32IDStr ≠ key))
  | .reply o => inferInstanceAs
    (Decidable (RepliedWell mgmtDevice s.arbiter key o s.monitor s.arbiter.deviceMap[key]?))
  | .notifyDiscoverAdd _ | .wakeup | .readState | .act | .writeState => isTrue trivial

/-- The six passes of a device that has just been discovered. -/
theorem answering_device_managed_sample :
    ∃ ts s', Run system sampleAlone ts s' ∧ passesOf ts = 6 ∧
      ∃ device', s'.arbiter.deviceMap[lit "4900fb4e"]? = some device' ∧
        servedState device'.mgmtState = true := by
  have hr₀ : Run system (Sys.init sampleManager ())
      [⟨Sys.init sampleManager (), .notifyDiscoverAdd sampleDeviceFound, [], sampleAlone⟩]
      sampleAlone := Run.snoc Run.nil rfl
  obtain ⟨device, hdevice⟩ := Option.isSome_iff_exists.mp
    (by decide +kernel : (sampleAlone.arbiter.deviceMap[lit "4900fb4e"]?).isSome = true)
  have hstate : (sampleAlone.arbiter.deviceMap[lit "4900fb4e"]?).map HNMDARecord.mgmtState =
      some .discovered := by decide +kernel
  rw [hdevice, Option.map_some, Option.some.injEq] at hstate
  obtain ⟨ts, s', hr, hp⟩ := Machine.exists_run_of_exec (M := system) (s := sampleAlone)
    (l := sampleSetup)
    (p := fun r => passesOf r.1 = 6 ∧ r.2.monitor = .idle ∧
      ∀ t ∈ r.1, Unhindered sampleManager (lit "4900fb4e") t.pre t.label) (by decide +kernel)
  obtain ⟨hpasses, hend, hcalm⟩ := of_decide_eq_true hp
  exact ⟨ts, s', hr, hpasses,
    answering_device_managed sampleManager () _ ts sampleAlone s' hr₀ hr rfl (lit "4900fb4e") device
      hdevice ⟨hstate ▸ rfl, fun heq => absurd (hstate.symm.trans heq) (by decide)⟩
      ⟨(lit "garden.local", lit "192.168.1.10", 8080), by decide +kernel, by decide +kernel⟩ hcalm
      (Nat.le_of_eq hpasses.symm) hend⟩

end Sample

end HNodeMgmt.Arbiter
