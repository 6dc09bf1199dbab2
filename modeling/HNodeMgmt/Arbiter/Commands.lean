/-
  HNodeMgmt.Arbiter.Commands — what becomes of an accepted command.

  A post is two calls: one stores the command, one sets the state that makes
  the monitor execute it.  Clients post for one device while the monitor works
  on it and on the others.  Nothing orders the two sides: the monitor's next
  state overwrites a state set since it read the old one, and a second post
  overwrites the stored command ("Make sure a command isnt already running" is
  a comment with no code under it).

  Main results:
    * `commandsInv_step` — a step under `postOk` keeps the books.
    * `commands_kept_when` — in every run of such steps the accepted commands
      are EXACTLY the executed ones and the one that is due, in order.
    * `command_lost` — a run that loses an accepted command.
-/
import Mathlib.Tactic.Common
import HNodeMgmt.Arbiter.Steps

namespace HNodeMgmt.Arbiter

open Lib

/-! ## §1. Clients posting for one device. -/

inductive PostLabel where
  | set (client : Nat) (body : Body)
  | start (client : Nat)
  | sys (l : Label)
  deriving DecidableEq, Repr

/-- `accepted`: both calls of the client have returned SUCCESS. -/
inductive PostEvent where
  | accepted (client : Nat) (cmd : HNMDMgmtCmd)
  | sys (e : Event)
  deriving DecidableEq, Repr

/-- The commands accepted, oldest first. -/
def acceptedCmds (h : List PostEvent) : List HNMDMgmtCmd :=
  h.filterMap fun
    | .accepted _ cmd => some cmd
    | .sys _ => none

/-- The commands passed to `executeDeviceMgmtCmd` for a device, oldest first. -/
def passedCmds (dev : Str) (h : List PostEvent) : List HNMDMgmtCmd :=
  h.filterMap fun
    | .sys (.cmdPassed id cmd) => if id = dev then some cmd else none
    | _ => none

/-- The calls that go through a client's post. -/
def isPostCall (dev : Str) : Label → Bool
  | .setDeviceMgmtCmdFromJSON id _ => id == dev
  | .startDeviceMgmtCmd id => id == dev
  | _ => false

@[simp] theorem acceptedCmds_append (h₁ h₂ : List PostEvent) :
    acceptedCmds (h₁ ++ h₂) = acceptedCmds h₁ ++ acceptedCmds h₂ := by
  unfold acceptedCmds
  exact List.filterMap_append

@[simp] theorem passedCmds_append (dev : Str) (h₁ h₂ : List PostEvent) :
    passedCmds dev (h₁ ++ h₂) = passedCmds dev h₁ ++ passedCmds dev h₂ := by
  unfold passedCmds
  exact List.filterMap_append

section Posts

variable [Platform]

/-- The system, and the posts between their two calls: the client and the
command its first call stored. -/
structure PostSys where
  sys : Sys
  posts : List (Nat × HNMDMgmtCmd)

/-- A client makes its two calls in order, the second one only after the first
has returned SUCCESS. -/
def PostSys.step (dev : Str) (u : PostSys) : PostLabel → Option (PostSys × List PostEvent)
  | .set client body =>
    match u.posts.lookup client with
    | some _ => none
    | none =>
      let (a, result) := u.sys.arbiter.setDeviceMgmtCmdFromJSON dev body
      let posts :=
        match result, a.deviceMap[dev]? with
        | .success, some device => (client, device.mgmtCmd) :: u.posts
        | _, _ => u.posts
      some ({ sys := { u.sys with arbiter := a }, posts }, [])
  | .start client =>
    match u.posts.lookup client with
    | none => none
    | some cmd =>
      let (a, result) := u.sys.arbiter.startDeviceMgmtCmd dev
      some ({ sys := { u.sys with arbiter := a }
              posts := u.posts.filter fun post => post.1 != client },
        match result with
        | .success => [.accepted client cmd]
        | .failure => [])
  | .sys l =>
    if isPostCall dev l then none
    else (u.sys.step l).map fun r => ({ u with sys := r.1 }, r.2.map .sys)

/-- Clients posting for `dev` beside the system. -/
def postSystem (dev : Str) : Machine PostSys PostLabel PostEvent := { step := PostSys.step dev }

def PostSys.init (mgmtDevice : HNodeDevice) (caches : Platform.Caches) : PostSys :=
  { sys := Sys.init mgmtDevice caches, posts := [] }

/-! ## §2. The command that is due. -/

/-- The monitor will execute the device's command: it has read the command
state, or will read it.  What is in the record while the monitor works on the
device it is about to overwrite. -/
def due (dev : Str) (monitor : MonitorPhase) (state : MgmtState) : Bool :=
  match monitor with
  | .dead => false
  | .acting id st => if id = dev then st == .execCmd else state == .execCmd
  | .waiting id _ _ => if id = dev then false else state == .execCmd
  | .writing id _ _ => if id = dev then false else state == .execCmd
  | _ => state == .execCmd

/-- The device's state and stored command. -/
def storedCmd (dev : Str) (a : HNManagedDeviceArbiter) : Option (MgmtState × HNMDMgmtCmd) :=
  (a.deviceMap[dev]?).map fun device => (device.mgmtState, device.mgmtCmd)

/-- The command that is due. -/
def pending (dev : Str) (s : Sys) : Option HNMDMgmtCmd :=
  (storedCmd dev s.arbiter).bind fun stored =>
    if due dev s.monitor stored.1 then some stored.2 else none

/-- The monitor is between reading the device's state and writing the next. -/
def workingOn (dev : Str) : MonitorPhase → Bool
  | .acting id _ => id == dev
  | .waiting id _ _ => id == dev
  | .writing id _ _ => id == dev
  | _ => false

/-- The device's parameters are still to be rendered from its command. -/
def rendering (dev : Str) : MonitorPhase → Bool
  | .waiting id _ .sendDeviceSetParameters => id == dev
  | _ => false

theorem storedCmd_of_get {dev : Str} {a : HNManagedDeviceArbiter} {device : HNMDARecord}
    (hget : a.deviceMap[dev]? = some device) :
    storedCmd dev a = some (device.mgmtState, device.mgmtCmd) := by
  rw [storedCmd, hget]
  rfl

omit [Platform] in
/-- Away from the device, a live monitor goes by its state. -/
theorem due_of_free {dev : Str} {monitor : MonitorPhase} (hfree : workingOn dev monitor = false)
    (state : MgmtState) :
    due dev monitor state = (monitor != .dead && decide (state = .execCmd)) := by
  cases monitor with
  | acting id st | waiting id st op | writing id st next =>
    have hne : id ≠ dev := by simpa [workingOn] using hfree
    simp [due, hne, beq_eq_decide]
  | idle | atDevice id | dead => simp [due, beq_eq_decide]

omit [Platform] in
/-- At the device it goes by what it has read. -/
theorem due_of_working {dev : Str} {monitor : MonitorPhase} (hw : workingOn dev monitor = true)
    (state state' : MgmtState) : due dev monitor state = due dev monitor state' := by
  cases monitor with
  | acting id st | waiting id st op | writing id st next =>
    have heq : id = dev := by simpa [workingOn] using hw
    simp [due, heq]
  | idle | atDevice id | dead => cases hw

omit [Platform] in
theorem workingOn_of_rendering {dev : Str} {monitor : MonitorPhase}
    (h : rendering dev monitor = true) : workingOn dev monitor = true := by
  cases monitor with
  | waiting id st op => cases op <;> first | exact h | cases h
  | _ => cases h

/-- An exception leaves the REST call of this step. -/
def restRaises (s : Sys) : Label → Prop
  | .act => ∃ (id : Str) (st : MgmtState) (device : HNMDARecord) (op : RestOp),
      s.monitor = .acting id st ∧ s.arbiter.deviceMap[id]? = some device ∧
      caseOp st device.mgmtCmd.cmdType = some op ∧ (op.start s.arbiter device).2 = .raised
  | .reply o => ∃ (id : Str) (st : MgmtState) (device : HNMDARecord) (op : RestOp),
      s.monitor = .waiting id st op ∧ s.arbiter.deviceMap[id]? = some device ∧
      op.finish s.arbiter id device o = none
  | _ => False

/-- The posts keep out of each other's way and out of the monitor's: a command
is set when none is due or being rendered and no other post is between its
calls; it is started while the monitor lives and is not working on the device;
and while one is due, no exception ends the monitor and the device is not
reported as gone. -/
def postOk (dev : Str) (u : PostSys) : PostLabel → Prop
  | .set _ _ => pending dev u.sys = none ∧ rendering dev u.sys.monitor = false ∧ u.posts = []
  | .start _ => u.sys.monitor ≠ .dead ∧ workingOn dev u.sys.monitor = false
  | .sys (.notifyDiscoverRemove event) =>
    event.toRecord.getCRC32IDStr = dev → workingOn dev u.sys.monitor = false →
      pending dev u.sys = none
  | .sys l => restRaises u.sys l → workingOn dev u.sys.monitor = false → pending dev u.sys = none

/-! ## §3. The books. -/

structure CommandsInv (dev : Str) (h : List PostEvent) (u : PostSys) : Prop where
  books : acceptedCmds h = passedCmds dev h ++ (pending dev u.sys).toList
  posts : u.posts = [] ∨ ∃ client stored, storedCmd dev u.sys.arbiter = some stored ∧
    u.posts = [(client, stored.2)] ∧ pending dev u.sys = none
  rendered : rendering dev u.sys.monitor = true → ∀ stored,
    storedCmd dev u.sys.arbiter = some stored →
    (passedCmds dev h).getLast? = some stored.2
  known : workingOn dev u.sys.monitor = true → storedCmd dev u.sys.arbiter ≠ none
  next : ∀ st next, u.sys.monitor = .writing dev st next → next.1 ≠ .execCmd

variable {dev : Str} {h : List PostEvent} {s s' : Sys} {l : Label} {es : List Event}

/-- No case writes the command state. -/
theorem nextState_ne_execCmd (a : HNManagedDeviceArbiter) (device : HNMDARecord) (st : MgmtState)
    (result : HNMDLResult) : (nextState a device st result).1 ≠ .execCmd := by
  cases st with
  | ownerInfo =>
    cases result with
    | failure => nofun
    | success => simp only [nextState]; cases device.ownerState <;> nofun
  | srvMapUpdate =>
    cases result with
    | failure => nofun
    | success => simp only [nextState]; split <;> nofun
  | _ => cases result <;> nofun

theorem storedCmd_stores {a a' : HNManagedDeviceArbiter} {id : Str} {device device' : HNMDARecord}
    (hget : a.deviceMap[id]? = some device) (hstores : Stores a a' id device')
    (hst : device'.mgmtState = device.mgmtState) (hcmd : device'.mgmtCmd = device.mgmtCmd) :
    storedCmd dev a' = storedCmd dev a := by
  unfold storedCmd
  by_cases heq : id = dev
  · subst heq
    rw [hstores.get, hget, Option.map_some, Option.map_some, hst, hcmd]
  · rw [hstores.get_ne heq]

theorem storedCmd_stores_ne {a a' : HNManagedDeviceArbiter} {id : Str} {device' : HNMDARecord}
    (hstores : Stores a a' id device') (hne : id ≠ dev) : storedCmd dev a' = storedCmd dev a := by
  unfold storedCmd
  rw [hstores.get_ne hne]

/-- The first half of a helper leaves both alone. -/
theorem storedCmd_started {a : HNManagedDeviceArbiter} {id : Str} {device : HNMDARecord}
    (hget : a.deviceMap[id]? = some device) (op : RestOp) :
    storedCmd dev (a.setDevice id (op.start a device).1) = storedCmd dev a := by
  obtain ⟨m, heq, -⟩ := start_device a device op
  apply storedCmd_stores hget (stores_setDevice a id (op.start a device).1)
  · rw [heq]
  · rw [heq]

/-- What a step can do to the device's state and command: a new device, one
that is gone, and the monitor's write; every other step leaves both alone. -/
inductive CmdChange (dev : Str) (s s' : Sys) : Label → Prop
  | same (l : Label) (heq : storedCmd dev s'.arbiter = storedCmd dev s.arbiter) :
      CmdChange dev s s' l
  | discovery (event : DiscoverEvent) (stored : MgmtState × HNMDMgmtCmd)
      (hnone : storedCmd dev s.arbiter = none) (hst : stored.1 ≠ .execCmd)
      (hnew : storedCmd dev s'.arbiter = some stored) :
      CmdChange dev s s' (.notifyDiscoverAdd event)
  | gone (event : DiscoverEvent) (stored : MgmtState × HNMDMgmtCmd)
      (hdev : event.toRecord.getCRC32IDStr = dev)
      (hold : storedCmd dev s.arbiter = some stored)
      (hnew : storedCmd dev s'.arbiter = some (.disappearing, stored.2)) :
      CmdChange dev s s' (.notifyDiscoverRemove event)
  | written (st : MgmtState) (next : MgmtState × Nat) (stored : MgmtState × HNMDMgmtCmd)
      (hphase : s.monitor = .writing dev st next)
      (hold : storedCmd dev s.arbiter = some stored)
      (hnew : storedCmd dev s'.arbiter = some (next.1, stored.2)) :
      CmdChange dev s s' .writeState

theorem cmdChange_of_took (htook : Took s l s' es) (hl : isPostCall dev l = false) :
    CmdChange dev s s' l := by
  cases htook with
  | add event =>
    cases hget : s.arbiter.deviceMap[event.toRecord.getCRC32IDStr]? with
    | some known =>
      -- an announcement of a known device merges neither state nor command
      exact .same _ (storedCmd_stores hget (notifyDiscoverAdd_known hget)
        (updateRecord_mgmtState known _) (updateRecord_mgmtCmd known _))
    | none =>
      have hstores := notifyDiscoverAdd_new hget
      by_cases hdev : event.toRecord.getCRC32IDStr = dev
      · rw [hdev] at hget hstores
        apply CmdChange.discovery event _ (by rw [storedCmd, hget]; rfl) _
          (by rw [storedCmd, hstores.get]; rfl)
        unfold discovered
        split <;> nofun
      · exact .same _ (storedCmd_stores_ne hstores hdev)
  | remove event =>
    by_cases hdev : event.toRecord.getCRC32IDStr = dev
    · cases hget : s.arbiter.deviceMap[event.toRecord.getCRC32IDStr]? with
      | none =>
        apply CmdChange.same
        simp only [HNManagedDeviceArbiter.notifyDiscoverRemove, hget]
      | some known =>
        have hstores := stores_setDevice s.arbiter event.toRecord.getCRC32IDStr
          (known.setManagementState .disappearing)
        apply CmdChange.gone event (known.mgmtState, known.mgmtCmd) hdev
        · rw [storedCmd, ← hdev, hget]
          rfl
        · simp only [HNManagedDeviceArbiter.notifyDiscoverRemove, hget]
          rw [storedCmd, ← hdev, hstores.get]
          rfl
    · apply CmdChange.same
      show storedCmd dev (s.arbiter.notifyDiscoverRemove event.toRecord) = _
      unfold HNManagedDeviceArbiter.notifyDiscoverRemove
      split
      next => rfl
      next known _ => exact storedCmd_stores_ne (stores_setDevice s.arbiter _ _) hdev
  | setCmd id body =>
    have hne : id ≠ dev := by simpa [isPostCall] using hl
    apply CmdChange.same
    show storedCmd dev (s.arbiter.setDeviceMgmtCmdFromJSON id body).1 = _
    unfold HNManagedDeviceArbiter.setDeviceMgmtCmdFromJSON
    split
    next => rfl
    next => exact storedCmd_stores_ne (stores_setDevice s.arbiter _ _) hne
  | startCmd id =>
    have hne : id ≠ dev := by simpa [isPostCall] using hl
    apply CmdChange.same
    show storedCmd dev (s.arbiter.startDeviceMgmtCmd id).1 = _
    unfold HNManagedDeviceArbiter.startDeviceMgmtCmd
    split
    next => rfl
    next => exact storedCmd_stores_ne (stores_setNextMonitorState s.arbiter _ _ _ _) hne
  | wakeup phase hphase hnext => exact .same _ rfl
  | skip id device hphase hget hidle => exact .same _ rfl
  | read id device hphase hget hbusy => exact .same _ rfl
  | actAlone id st device hphase hget hop =>
    apply CmdChange.same
    apply storedCmd_stores hget (stores_setDevice s.arbiter id (caseOwnership st device))
    · cases st <;> rfl
    · cases st <;> rfl
  | actFinished id st device op result hphase hget hop hstart =>
    exact .same _ (storedCmd_started hget op)
  | actRequest id st device op req hphase hget hop hstart =>
    exact .same _ (storedCmd_started hget op)
  | actRaised id st device op hphase hget hop hstart =>
    exact .same _ (storedCmd_started hget op)
  | replyRaised id st op device o hphase hget hfinish => exact .same _ rfl
  | replyDone id st op device o a' result hphase hget hfinish hstores =>
    have hframe := deviceGiven_frame s.arbiter device o op
    exact .same _ (storedCmd_stores hget hstores hframe.mgmtState hframe.mgmtCmd)
  | write id st next device hphase hget =>
    have hstores := stores_setNextMonitorState s.arbiter id device next.1 next.2
    by_cases heq : id = dev
    · subst heq
      apply CmdChange.written st next (device.mgmtState, device.mgmtCmd) hphase
      · rw [storedCmd, hget]
        rfl
      · rw [storedCmd, hstores.get]
        rfl
    · exact .same _ (storedCmd_stores_ne hstores heq)

theorem passedCmds_passedEvent (id : Str) (st : MgmtState) (device : HNMDARecord) :
    passedCmds dev ((passedEvent id st device).map .sys) =
      if id = dev ∧ st = .execCmd then [device.mgmtCmd] else [] := by
  unfold passedEvent passedCmds
  by_cases hst : st = .execCmd
  · by_cases hid : id = dev <;> simp [hst, hid]
  · simp [hst]

theorem passedCmds_replyEvents (id : Str) (device : HNMDARecord) (op : RestOp) (o : RestOutcome) :
    passedCmds dev ((replyEvents id device op o).map .sys) = [] := by
  unfold replyEvents
  split
  next => rfl
  next => split <;> rfl
  next => rfl

omit [Platform] in
theorem acceptedCmds_sys (es : List Event) : acceptedCmds (es.map .sys) = [] := by
  unfold acceptedCmds
  rw [List.filterMap_map]
  exact List.filterMap_eq_nil_iff.mpr fun _ _ => rfl

/-- The call of a case executes the command that is due, if the case is the
device's; then nothing is due. -/
private theorem act_books {id : Str} {st : MgmtState} {device : HNMDARecord}
    (hphase : s.monitor = .acting id st) (hget : s.arbiter.deviceMap[id]? = some device)
    (hsame : storedCmd dev s'.arbiter = storedCmd dev s.arbiter)
    (hdue : ∀ state, due dev s'.monitor state =
      if id = dev then false else decide (state = .execCmd)) :
    (pending dev s).toList =
      passedCmds dev ((passedEvent id st device).map .sys) ++ (pending dev s').toList := by
  rw [passedCmds_passedEvent]
  unfold pending
  rw [hsame]
  by_cases hid : id = dev
  · subst hid
    have hbefore : due id s.monitor device.mgmtState = decide (st = .execCmd) := by
      rw [hphase]
      simp [due, beq_eq_decide]
    by_cases hst : st = .execCmd
    · simp [storedCmd_of_get hget, hbefore, hdue, hst]
    · simp [storedCmd_of_get hget, hbefore, hdue, hst]
  · have hbefore : ∀ state, due dev s.monitor state = decide (state = .execCmd) := by
      intro state
      rw [hphase]
      simp [due, hid, beq_eq_decide]
    simp [hid, hbefore, hdue]

/-- A new device is due for nothing: the monitor is not at it. -/
private theorem pending_discovery {a' : HNManagedDeviceArbiter}
    {stored : MgmtState × HNMDMgmtCmd} (hnone : storedCmd dev s.arbiter = none)
    (hknown : workingOn dev s.monitor = true → storedCmd dev s.arbiter ≠ none)
    (hst : stored.1 ≠ .execCmd) (hnew : storedCmd dev a' = some stored) :
    pending dev { s with arbiter := a' } = pending dev s := by
  have hfree : workingOn dev s.monitor = false :=
    Bool.eq_false_iff.mpr fun hw => hknown hw hnone
  unfold pending
  rw [hnone, hnew]
  simp [due_of_free hfree, hst]

/-- A device that is gone is due for what the monitor has read of it. -/
private theorem pending_gone {a' : HNManagedDeviceArbiter} {stored : MgmtState × HNMDMgmtCmd}
    (hok : workingOn dev s.monitor = false → pending dev s = none)
    (hold : storedCmd dev s.arbiter = some stored)
    (hnew : storedCmd dev a' = some (.disappearing, stored.2)) :
    pending dev { s with arbiter := a' } = pending dev s := by
  cases hw : workingOn dev s.monitor with
  | true =>
    unfold pending
    rw [hold, hnew]
    simp [due_of_working hw .disappearing stored.1]
  | false =>
    rw [hok hw]
    unfold pending
    rw [hnew]
    simp [due_of_free hw]

/-- The write of the next state makes nothing due. -/
private theorem pending_write {id : Str} {st : MgmtState} {next : MgmtState × Nat}
    {device : HNMDARecord} (hphase : s.monitor = .writing id st next)
    (hget : s.arbiter.deviceMap[id]? = some device) (hnext : id = dev → next.1 ≠ .execCmd) :
    pending dev { arbiter := s.arbiter.setNextMonitorState id device next.1 next.2,
                  monitor := advance s.arbiter id } = pending dev s := by
  have hafter : ∀ state, due dev (advance s.arbiter id) state = decide (state = .execCmd) := by
    intro state
    rcases advance_cases s.arbiter id with hadv | ⟨id', hadv⟩ <;> rw [hadv] <;>
      simp [due, beq_eq_decide]
  have hstores := stores_setNextMonitorState s.arbiter id device next.1 next.2
  unfold pending
  by_cases hid : id = dev
  · subst hid
    have hbefore : due id s.monitor device.mgmtState = false := by
      rw [hphase]
      simp [due]
    have hnew : storedCmd id (s.arbiter.setNextMonitorState id device next.1 next.2) =
        some (next.1, device.mgmtCmd) := storedCmd_of_get hstores.get
    simp [storedCmd_of_get hget, hnew, hbefore, hafter, hnext rfl]
  · have hbefore : ∀ state, due dev s.monitor state = decide (state = .execCmd) := by
      intro state
      rw [hphase]
      simp [due, hid, beq_eq_decide]
    simp [storedCmd_stores_ne hstores hid, hbefore, hafter]

/-- A call of the main thread leaves due what was. -/
private theorem pending_call {a' : HNManagedDeviceArbiter} {posts : List (Nat × HNMDMgmtCmd)}
    (hchange : CmdChange dev s { s with arbiter := a' } l) (hl : l ≠ .writeState)
    (hok : postOk dev { sys := s, posts } (.sys l))
    (hknown : workingOn dev s.monitor = true → storedCmd dev s.arbiter ≠ none) :
    pending dev { s with arbiter := a' } = pending dev s := by
  cases hchange with
  | same _ heq =>
    unfold pending
    rw [heq]
  | discovery _ stored hnone hst hnew => exact pending_discovery hnone hknown hst hnew
  | gone _ stored hdev hold hnew => exact pending_gone (hok hdev) hold hnew
  | written => exact absurd rfl hl

/-- An exception in the first half of a helper: the device's command has been
executed, or nothing may be due. -/
private theorem pending_actRaised {id : Str} {st : MgmtState} {device : HNMDARecord} {op : RestOp}
    {posts : List (Nat × HNMDMgmtCmd)} (hok : postOk dev { sys := s, posts } (.sys .act))
    (hphase : s.monitor = .acting id st) (hget : s.arbiter.deviceMap[id]? = some device)
    (hop : caseOp st device.mgmtCmd.cmdType = some op)
    (hstart : (op.start s.arbiter device).2 = .raised)
    (hsame : storedCmd dev s'.arbiter = storedCmd dev s.arbiter) (hdead : s'.monitor = .dead) :
    (pending dev s).toList =
      passedCmds dev ((passedEvent id st device).map .sys) ++ (pending dev s').toList := by
  by_cases hid : id = dev
  · apply act_books hphase hget hsame
    intro state
    rw [hdead]
    simp [due, hid]
  · -- the monitor dies at another device: nothing may be due
    have hnone := hok ⟨id, st, device, op, hphase, hget, hop, hstart⟩
      (by simp [hphase, workingOn, hid])
    rw [hnone, passedCmds_passedEvent, if_neg fun hand => hid hand.1]
    unfold pending
    rw [hdead]
    cases storedCmd dev s'.arbiter <;> rfl

/-- An exception in the second half: the same. -/
private theorem pending_replyRaised {id : Str} {st : MgmtState} {device : HNMDARecord}
    {op : RestOp} {o : RestOutcome} {posts : List (Nat × HNMDMgmtCmd)}
    (hok : postOk dev { sys := s, posts } (.sys (.reply o)))
    (hphase : s.monitor = .waiting id st op) (hget : s.arbiter.deviceMap[id]? = some device)
    (hfinish : op.finish s.arbiter id device o = none) :
    pending dev s = pending dev { s with monitor := .dead } := by
  by_cases hid : id = dev
  · unfold pending
    rw [hphase]
    simp [due, hid]
  · have hnone := hok ⟨id, st, device, op, hphase, hget, hfinish⟩
      (by simp [hphase, workingOn, hid])
    rw [hnone]
    unfold pending
    simp [due]

/-- **What is due**, over a step of the system: it is executed, or still due. -/
theorem pending_step {posts : List (Nat × HNMDMgmtCmd)} (htook : Took s l s' es)
    (hl : isPostCall dev l = false) (hok : postOk dev { sys := s, posts } (.sys l))
    (hknown : workingOn dev s.monitor = true → storedCmd dev s.arbiter ≠ none)
    (hnext : ∀ st next, s.monitor = .writing dev st next → next.1 ≠ .execCmd) :
    (pending dev s).toList = passedCmds dev (es.map .sys) ++ (pending dev s').toList := by
  have hchange := cmdChange_of_took htook hl
  -- a step without an event
  have hquiet : ∀ {t : Sys}, pending dev t = pending dev s →
      (pending dev s).toList = passedCmds dev ([].map .sys) ++ (pending dev t).toList := by
    intro t heq
    rw [heq]
    rfl
  cases htook with
  | add event => exact hquiet (pending_call hchange nofun hok hknown)
  | remove event => exact hquiet (pending_call hchange nofun hok hknown)
  | setCmd id body => exact hquiet (pending_call hchange nofun hok hknown)
  | startCmd id => exact hquiet (pending_call hchange nofun hok hknown)
  | wakeup phase hphase hnext' =>
    unfold pending
    rcases hnext' with rfl | ⟨first, rfl⟩ <;> rw [hphase] <;> rfl
  | skip id device hphase hget hidle =>
    unfold pending
    rcases advance_cases s.arbiter id with hadv | ⟨id', hadv⟩ <;> rw [hphase, hadv] <;> rfl
  | read id device hphase hget hbusy =>
    show _ = [] ++ _
    unfold pending
    rw [hphase, List.nil_append]
    by_cases hid : id = dev
    · -- what the state made due, the phase now does
      subst hid
      simp [storedCmd_of_get hget, due]
    · simp [due, hid]
  | actAlone id st device hphase hget hop =>
    cases hchange with
    | same _ heq =>
      apply act_books hphase hget heq
      intro state
      simp [due, beq_eq_decide]
  | actFinished id st device op result hphase hget hop hstart =>
    cases hchange with
    | same _ heq =>
      apply act_books hphase hget heq
      intro state
      simp [due, beq_eq_decide]
  | actRequest id st device op req hphase hget hop hstart =>
    cases hchange with
    | same _ heq =>
      have hmap : passedCmds dev ((passedEvent id st device ++ [Event.request id req]).map .sys) =
          passedCmds dev ((passedEvent id st device).map .sys) := by
        rw [List.map_append, passedCmds_append]
        exact List.append_nil _
      rw [hmap]
      apply act_books hphase hget heq
      intro state
      simp [due, beq_eq_decide]
  | actRaised id st device op hphase hget hop hstart =>
    cases hchange with
    | same _ heq => exact pending_actRaised hok hphase hget hop hstart heq rfl
  | replyRaised id st op device o hphase hget hfinish =>
    rw [passedCmds_replyEvents, List.nil_append]
    exact congrArg Option.toList (pending_replyRaised hok hphase hget hfinish)
  | replyDone id st op device o a' result hphase hget hfinish hstores =>
    cases hchange with
    | same _ heq =>
      rw [passedCmds_replyEvents, List.nil_append]
      unfold pending
      rw [heq, hphase]
      rfl
  | write id st next device hphase hget =>
    refine hquiet (pending_write hphase hget ?_)
    rintro rfl
    exact hnext st next hphase

theorem commandsInv_set {u v : PostSys} {client : Nat} {body : Body} {es : List PostEvent}
    (hinv : CommandsInv dev h u) (hok : postOk dev u (.set client body))
    (hstep : (postSystem dev).step u (.set client body) = some (v, es)) :
    CommandsInv dev (h ++ es) v := by
  obtain ⟨hnone, hrender, hposts⟩ := hok
  have hstep' : PostSys.step dev u (.set client body) = some (v, es) := hstep
  simp only [PostSys.step, hposts, List.lookup_nil, Option.some.injEq, Prod.mk.injEq] at hstep'
  obtain ⟨rfl, rfl⟩ := hstep'
  rw [List.append_nil]
  cases hget : u.sys.arbiter.deviceMap[dev]? with
  | none =>
    -- the device is not known: the call fails and changes nothing
    simp only [HNManagedDeviceArbiter.setDeviceMgmtCmdFromJSON, hget]
    exact ⟨hinv.books, Or.inl rfl, hinv.rendered, hinv.known, hinv.next⟩
  | some device =>
    have hold := storedCmd_of_get hget
    have hstores := stores_setDevice u.sys.arbiter dev (device.setMgmtCmdFromJSON body).1
    have hnew : storedCmd dev (u.sys.arbiter.setDevice dev (device.setMgmtCmdFromJSON body).1) =
        some (device.mgmtState, (device.setMgmtCmdFromJSON body).1.mgmtCmd) :=
      storedCmd_of_get hstores.get
    -- nothing was due, and the state has not changed
    have hidle : due dev u.sys.monitor device.mgmtState = false := by
      unfold pending at hnone
      simpa [hold] using hnone
    simp only [HNManagedDeviceArbiter.setDeviceMgmtCmdFromJSON, hget, hstores.get]
    have hpending : pending dev
        { u.sys with
          arbiter := u.sys.arbiter.setDevice dev (device.setMgmtCmdFromJSON body).1 } = none := by
      unfold pending
      simp [hnew, hidle]
    refine ⟨?_, ?_, ?_, ?_, hinv.next⟩
    · rw [hpending, hinv.books, hnone]
    · cases (device.setMgmtCmdFromJSON body).2 with
      | failure => exact Or.inl rfl
      | success => exact Or.inr ⟨client, _, hnew, rfl, hpending⟩
    · intro hrend
      rw [hrender] at hrend
      cases hrend
    · intro _
      rw [hnew]
      nofun

theorem commandsInv_start {u v : PostSys} {client : Nat} {es : List PostEvent}
    (hinv : CommandsInv dev h u) (hok : postOk dev u (.start client))
    (hstep : (postSystem dev).step u (.start client) = some (v, es)) :
    CommandsInv dev (h ++ es) v := by
  obtain ⟨halive, hfree⟩ := hok
  have hstep' : PostSys.step dev u (.start client) = some (v, es) := hstep
  rcases hinv.posts with hposts | ⟨client', stored, hstored, hposts, hnone⟩
  · simp only [PostSys.step, hposts, List.lookup_nil] at hstep'
    cases hstep'
  · -- the only post between its calls is this one
    simp only [PostSys.step, hposts, List.lookup_cons, List.lookup_nil] at hstep'
    by_cases hclient : client = client'
    · subst hclient
      simp only [BEq.rfl, Option.some.injEq, Prod.mk.injEq] at hstep'
      obtain ⟨rfl, rfl⟩ := hstep'
      obtain ⟨device, hget, heq⟩ := Option.map_eq_some_iff.mp hstored
      obtain rfl : (device.mgmtState, device.mgmtCmd) = stored := heq
      have hstores := stores_setNextMonitorState u.sys.arbiter dev device .execCmd 0
      have hnew : storedCmd dev (u.sys.arbiter.setNextMonitorState dev device .execCmd 0) =
          some (.execCmd, device.mgmtCmd) := storedCmd_of_get hstores.get
      have hdue : due dev u.sys.monitor .execCmd = true := by
        rw [due_of_free hfree]
        simpa using halive
      simp only [HNManagedDeviceArbiter.startDeviceMgmtCmd, hget]
      -- the post is over, and its command is the one the next visit will render
      have hpending : pending dev
          { u.sys with
            arbiter := u.sys.arbiter.setNextMonitorState dev device .execCmd 0 } =
          some device.mgmtCmd := by
        unfold pending
        simp [hnew, hdue]
      refine ⟨?_, Or.inl (by simp), ?_, ?_, ?_⟩
      · rw [acceptedCmds_append, passedCmds_append, hpending, hinv.books, hnone]
        rfl
      · intro hrend
        have hw := workingOn_of_rendering hrend
        rw [show workingOn dev u.sys.monitor = false from hfree] at hw
        cases hw
      · intro hw
        rw [show workingOn dev u.sys.monitor = false from hfree] at hw
        cases hw
      · intro st next hph
        have hw : workingOn dev u.sys.monitor = true := by
          rw [show u.sys.monitor = .writing dev st next from hph]
          simp [workingOn]
        rw [hfree] at hw
        cases hw
    · have hne : (client == client') = false := beq_false_of_ne hclient
      rw [hne] at hstep'
      cases hstep'

/-- A device that is known stays known, with the same command. -/
theorem CmdChange.keeps (hchange : CmdChange dev s s' l) {stored : MgmtState × HNMDMgmtCmd}
    (hstored : storedCmd dev s.arbiter = some stored) :
    ∃ stored', storedCmd dev s'.arbiter = some stored' ∧ stored'.2 = stored.2 := by
  cases hchange with
  | same _ heq => exact ⟨stored, heq.trans hstored, rfl⟩
  | discovery _ _ hnone => rw [hnone] at hstored; cases hstored
  | gone _ old _ hold hnew =>
    rw [hold] at hstored
    obtain rfl := Option.some.inj hstored
    exact ⟨_, hnew, rfl⟩
  | written _ _ old _ hold hnew =>
    rw [hold] at hstored
    obtain rfl := Option.some.inj hstored
    exact ⟨_, hnew, rfl⟩

/-- How the monitor has moved on: what holds if it is at the device now. -/
structure MovedOn (dev : Str) (s s' : Sys) (es : List Event) : Prop where
  rendered : rendering dev s'.monitor = true → ∃ device : HNMDARecord,
    s.arbiter.deviceMap[dev]? = some device ∧
      ∃ req, es = passedEvent dev .execCmd device ++ [Event.request dev req]
  working : workingOn dev s'.monitor = true → storedCmd dev s.arbiter ≠ none
  next : ∀ st next, s'.monitor = .writing dev st next → next.1 ≠ .execCmd

theorem MovedOn.off (h : s'.monitor = .idle ∨ (∃ id, s'.monitor = .atDevice id) ∨
    s'.monitor = .dead) : MovedOn dev s s' es := by
  have hfree : workingOn dev s'.monitor = false := by
    rcases h with h | ⟨id, h⟩ | h <;> rw [h] <;> rfl
  refine ⟨fun hrend => ?_, fun hw => ?_, fun st next heq => ?_⟩
  · rw [workingOn_of_rendering hrend] at hfree
    cases hfree
  · rw [hw] at hfree
    cases hfree
  · rcases h with h | ⟨id, h⟩ | h <;> rw [h] at heq <;> cases heq

theorem MovedOn.advanced {id : Str} (h : s'.monitor = advance s.arbiter id) :
    MovedOn dev s s' es := by
  apply MovedOn.off
  rw [h]
  rcases advance_cases s.arbiter id with hadv | hadv
  · exact Or.inl hadv
  · exact Or.inr (Or.inl hadv)

/-- At a device that is known. -/
private theorem working_known {id : Str} {device : HNMDARecord} {a : HNManagedDeviceArbiter}
    (hget : a.deviceMap[id]? = some device) (heq : id = dev) : storedCmd dev a ≠ none := by
  subst heq
  rw [storedCmd_of_get hget]
  exact Option.some_ne_none _

/-- About to write the state a case has chosen. -/
theorem MovedOn.chosen {id : Str} {device device' : HNMDARecord} {a : HNManagedDeviceArbiter}
    {st : MgmtState} {result : HNMDLResult} (hget : s.arbiter.deviceMap[id]? = some device)
    (h : s'.monitor = .writing id st (nextState a device' st result)) :
    MovedOn dev s s' es := by
  refine ⟨fun hrend => ?_, fun hw => ?_, fun st' next heq => ?_⟩
  · rw [h] at hrend
    cases hrend
  · rw [h] at hw
    exact working_known hget (by simpa [workingOn] using hw)
  · rw [h] at heq
    obtain ⟨-, -, rfl⟩ := MonitorPhase.writing.inj heq
    exact nextState_ne_execCmd a device' st result

/-- The monitor's phase after a step: unchanged, or moved on. -/
theorem took_phase (dev : Str) (htook : Took s l s' es) :
    (s'.monitor = s.monitor ∧ es = []) ∨ MovedOn dev s s' es := by
  cases htook with
  | add event => exact Or.inl ⟨rfl, rfl⟩
  | remove event => exact Or.inl ⟨rfl, rfl⟩
  | setCmd id body => exact Or.inl ⟨rfl, rfl⟩
  | startCmd id => exact Or.inl ⟨rfl, rfl⟩
  | wakeup phase hphase hnext =>
    refine Or.inr (.off ?_)
    rcases hnext with hnext | hnext
    · exact Or.inl hnext
    · exact Or.inr (Or.inl hnext)
  | skip id device hphase hget hidle => exact Or.inr (.advanced rfl)
  | read id device hphase hget hbusy =>
    refine Or.inr ⟨fun hrend => ?_, fun hw => ?_, fun st next heq => ?_⟩
    · cases hrend
    · exact working_known hget (by simpa [workingOn] using hw)
    · cases heq
  | actAlone id st device hphase hget hop => exact Or.inr (.chosen hget rfl)
  | actFinished id st device op result hphase hget hop hstart =>
    exact Or.inr (.chosen hget rfl)
  | actRequest id st device op req hphase hget hop hstart =>
    refine Or.inr ⟨fun hrend => ?_, fun hw => ?_, fun st next heq => ?_⟩
    · have hop' : op = .sendDeviceSetParameters := by
        cases op <;> first | rfl | cases hrend
      obtain rfl : id = dev := by simpa [workingOn] using workingOn_of_rendering hrend
      rw [hop'] at hop
      obtain rfl := caseOp_setParams hop
      exact ⟨device, hget, req, rfl⟩
    · exact working_known hget (by simpa [workingOn] using hw)
    · cases heq
  | actRaised id st device op hphase hget hop hstart => exact Or.inr (.off (Or.inr (Or.inr rfl)))
  | replyRaised id st op device o hphase hget hfinish =>
    exact Or.inr (.off (Or.inr (Or.inr rfl)))
  | replyDone id st op device o a' result hphase hget hfinish hstores =>
    exact Or.inr (.chosen hget rfl)
  | write id st next device hphase hget => exact Or.inr (.advanced rfl)

theorem commandsInv_sys {u v : PostSys} {es : List PostEvent}
    (hinv : CommandsInv dev h u) (hok : postOk dev u (.sys l))
    (hstep : (postSystem dev).step u (.sys l) = some (v, es)) :
    CommandsInv dev (h ++ es) v := by
  have hstep' : PostSys.step dev u (.sys l) = some (v, es) := hstep
  simp only [PostSys.step] at hstep'
  split at hstep'
  next => cases hstep'
  next hcall =>
    obtain ⟨⟨s', es'⟩, hs, heq⟩ := Option.map_eq_some_iff.mp hstep'
    obtain ⟨rfl, rfl⟩ := Prod.mk.inj heq
    have hl : isPostCall dev l = false := by simpa using hcall
    have htook : Took u.sys l s' es' := took_of_step hs
    have hchange := cmdChange_of_took htook hl
    have hbooks := pending_step htook hl hok hinv.known hinv.next
    refine ⟨?_, ?_, ?_, ?_, ?_⟩
    · rw [acceptedCmds_append, acceptedCmds_sys, List.append_nil, passedCmds_append, hinv.books,
        hbooks, List.append_assoc]
    · rcases hinv.posts with hposts | ⟨client, stored, hstored, hposts, hnone⟩
      · exact Or.inl hposts
      -- a post is between its two calls: the command it stored is still the record's
      · obtain ⟨stored', hstored', hcmd⟩ := hchange.keeps hstored
        refine Or.inr ⟨client, stored', hstored', by rw [hcmd]; exact hposts, ?_⟩
        rw [hnone] at hbooks
        have hnil := (List.append_eq_nil_iff.mp hbooks.symm).2
        exact Option.toList_eq_nil_iff.mp hnil
    · intro hrend stored' hstored'
      rcases took_phase dev htook with ⟨hphase, hes⟩ | hmoved
      · -- the monitor has not moved, so neither has the command
        rw [hphase] at hrend
        obtain ⟨stored, hstored⟩ := Option.ne_none_iff_exists'.mp
          (hinv.known (workingOn_of_rendering hrend))
        obtain ⟨stored'', hstored'', hcmd⟩ := hchange.keeps hstored
        obtain rfl : stored' = stored'' := Option.some.inj (hstored'.symm.trans hstored'')
        rw [hes, List.map_nil, List.append_nil, hcmd]
        exact hinv.rendered hrend stored hstored
      · obtain ⟨device, hget, req, hes⟩ := hmoved.rendered hrend
        obtain ⟨stored'', hstored'', hcmd⟩ := hchange.keeps (storedCmd_of_get hget)
        obtain rfl : stored' = stored'' := Option.some.inj (hstored'.symm.trans hstored'')
        rw [passedCmds_append, hes, List.map_append, passedCmds_append, passedCmds_passedEvent,
          if_pos ⟨rfl, rfl⟩, hcmd]
        show (_ ++ [device.mgmtCmd]).getLast? = _
        exact List.getLast?_concat
    · intro hw
      rcases took_phase dev htook with ⟨hphase, -⟩ | hmoved
      · rw [hphase] at hw
        obtain ⟨stored, hstored⟩ := Option.ne_none_iff_exists'.mp (hinv.known hw)
        obtain ⟨stored', hstored', -⟩ := hchange.keeps hstored
        rw [hstored']
        nofun
      · obtain ⟨stored, hstored⟩ := Option.ne_none_iff_exists'.mp (hmoved.working hw)
        obtain ⟨stored', hstored', -⟩ := hchange.keeps hstored
        rw [hstored']
        nofun
    · intro st next hph
      rcases took_phase dev htook with ⟨hphase, -⟩ | hmoved
      · exact hinv.next st next (hphase.symm.trans hph)
      · exact hmoved.next st next hph

/-- **One step keeps the books.** -/
theorem commandsInv_step {u v : PostSys} {pl : PostLabel} {es : List PostEvent}
    (hinv : CommandsInv dev h u) (hok : postOk dev u pl)
    (hstep : (postSystem dev).step u pl = some (v, es)) : CommandsInv dev (h ++ es) v := by
  cases pl with
  | set client body => exact commandsInv_set hinv hok hstep
  | start client => exact commandsInv_start hinv hok hstep
  | sys l => exact commandsInv_sys hinv hok hstep

/-! ## §4. Every run. -/

theorem commandsInv_init (dev : Str) (mgmtDevice : HNodeDevice) (caches : Platform.Caches) :
    CommandsInv dev [] (PostSys.init mgmtDevice caches) := by
  refine ⟨?_, Or.inl rfl, nofun, nofun, nofun⟩
  simp [pending, storedCmd, PostSys.init, Sys.init, acceptedCmds, passedCmds]

theorem commandsInv_run {mgmtDevice : HNodeDevice} {caches : Platform.Caches}
    {ts : List (Trans PostSys PostLabel PostEvent)} {u : PostSys}
    (hr : Run (postSystem dev) (PostSys.init mgmtDevice caches) ts u)
    (hok : StepsMeet (postOk dev) ts) : CommandsInv dev (history ts) u :=
  Run.historyInvariant (commandsInv_init dev mgmtDevice caches)
    (fun _ _ _ _ _ hinv hc hstep => commandsInv_step hinv hc hstep) hr hok

theorem passedCmds_actStep (a : HNManagedDeviceArbiter) (id : Str) (st : MgmtState)
    (device : HNMDARecord) :
    passedCmds dev ((actStep a id st device).2.map .sys) =
      if id = dev ∧ st = .execCmd then [device.mgmtCmd] else [] := by
  rw [← passedCmds_passedEvent]
  unfold actStep
  cases caseOp st device.mgmtCmd.cmdType with
  | none => rfl
  | some op =>
    simp only
    cases (op.start a device).2 with
    | finished result => rfl
    | request req =>
      simp only [List.map_append, passedCmds_append]
      exact List.append_nil _
    | raised => rfl

/-- A command that is due is executed by the monitor's next visit. -/
theorem pending_visit {u : PostSys} {cmd : HNMDMgmtCmd} (hphase : u.sys.monitor = .atDevice dev)
    (hpending : pending dev u.sys = some cmd) :
    ∃ u₁ u₂ es, (postSystem dev).step u (.sys .readState) = some (u₁, []) ∧
      (postSystem dev).step u₁ (.sys .act) = some (u₂, es) ∧ passedCmds dev es = [cmd] := by
  unfold pending at hpending
  cases hget : u.sys.arbiter.deviceMap[dev]? with
  | none => simp [storedCmd, hget] at hpending
  | some device =>
    obtain ⟨hst, hcmd⟩ : device.mgmtState = .execCmd ∧ device.mgmtCmd = cmd := by
      simpa [storedCmd, hget, hphase, due] using hpending
    have hread : (postSystem dev).step u (.sys .readState) =
        some ({ u with sys := { u.sys with monitor := .acting dev .execCmd } }, []) := by
      show PostSys.step dev u (.sys .readState) = _
      simp [PostSys.step, isPostCall, Sys.step, hphase, hget, hst, idleState]
    refine ⟨_, { u with sys := (actStep u.sys.arbiter dev .execCmd device).1 },
      (actStep u.sys.arbiter dev .execCmd device).2.map .sys, hread, ?_, ?_⟩
    · show PostSys.step dev _ (.sys .act) = _
      simp [PostSys.step, isPostCall, Sys.step, hget]
    · rw [passedCmds_actStep, if_pos ⟨rfl, rfl⟩, hcmd]

/-- Only the second half of the parameter helper renders. -/
private theorem replyEvents_updateFields {id : Str} {device : HNMDARecord} {op : RestOp}
    {o : RestOutcome} {fields : Option (Option Str)}
    (hin : Event.updateFields dev fields ∈ replyEvents id device op o) :
    id = dev ∧ op = .sendDeviceSetParameters ∧ fields = device.mgmtCmd.getUpdateFieldsJSON := by
  unfold replyEvents at hin
  split at hin
  next => simp at hin
  next =>
    split at hin
    next =>
      obtain ⟨rfl, rfl⟩ : dev = id ∧ fields = device.mgmtCmd.getUpdateFieldsJSON := by
        simpa using hin
      exact ⟨rfl, rfl, rfl⟩
    next => cases hin
  next => cases hin

private theorem passedEvent_updateFields {id : Str} {st : MgmtState} {device : HNMDARecord}
    {fields : Option (Option Str)} :
    Event.updateFields dev fields ∉ passedEvent id st device := by
  intro hin
  unfold passedEvent at hin
  split at hin <;> simp at hin

/-- The parameters a step renders are those of the command passed last. -/
theorem updateFields_of_step {u v : PostSys} {pl : PostLabel} {es : List PostEvent}
    {fields : Option (Option Str)} (hinv : CommandsInv dev h u)
    (hstep : (postSystem dev).step u pl = some (v, es))
    (hmem : PostEvent.sys (.updateFields dev fields) ∈ es) :
    ∃ cmd, (passedCmds dev h).getLast? = some cmd ∧ fields = cmd.getUpdateFieldsJSON := by
  have hstep' : PostSys.step dev u pl = some (v, es) := hstep
  cases pl with
  | set client body =>
    simp only [PostSys.step] at hstep'
    split at hstep'
    next => cases hstep'
    next =>
      obtain ⟨-, rfl⟩ := Prod.mk.inj (Option.some.inj hstep')
      cases hmem
  | start client =>
    simp only [PostSys.step] at hstep'
    split at hstep'
    next => cases hstep'
    next =>
      obtain ⟨-, rfl⟩ := Prod.mk.inj (Option.some.inj hstep')
      split at hmem <;> simp at hmem
  | sys l =>
    simp only [PostSys.step] at hstep'
    split at hstep'
    next => cases hstep'
    next =>
      obtain ⟨⟨s', es'⟩, hs, heq⟩ := Option.map_eq_some_iff.mp hstep'
      obtain ⟨rfl, rfl⟩ := Prod.mk.inj heq
      have hmem' : Event.updateFields dev fields ∈ es' := by simpa using hmem
      -- while the helper waits, the command is the one that was passed
      have hlast : ∀ (id : Str) (st : MgmtState) (op : RestOp) (device : HNMDARecord)
          (o : RestOutcome), u.sys.monitor = .waiting id st op →
          u.sys.arbiter.deviceMap[id]? = some device →
          Event.updateFields dev fields ∈ replyEvents id device op o →
          ∃ cmd, (passedCmds dev h).getLast? = some cmd ∧ fields = cmd.getUpdateFieldsJSON := by
        intro id st op device o hphase hget hin
        obtain ⟨rfl, rfl, rfl⟩ := replyEvents_updateFields hin
        refine ⟨device.mgmtCmd, ?_, rfl⟩
        exact hinv.rendered (by rw [hphase]; simp [rendering])
          (device.mgmtState, device.mgmtCmd) (storedCmd_of_get hget)
      cases took_of_step hs with
      | actAlone id st device hphase hget hop => exact absurd hmem' passedEvent_updateFields
      | actFinished id st device op result hphase hget hop hstart =>
        exact absurd hmem' passedEvent_updateFields
      | actRequest id st device op req hphase hget hop hstart =>
        rcases List.mem_append.mp hmem' with hin | hin
        · exact absurd hin passedEvent_updateFields
        · simp at hin
      | actRaised id st device op hphase hget hop hstart =>
        exact absurd hmem' passedEvent_updateFields
      | replyRaised id st op device o hphase hget hfinish =>
        exact hlast id st op device o hphase hget hmem'
      | replyDone id st op device o a' result hphase hget hfinish hstores =>
        exact hlast id st op device o hphase hget hmem'
      | _ => cases hmem'

/-- No accepted command is lost: the accepted commands are the executed ones
and the one that is due, each once and in order; what is due is executed by the
monitor's next visit; and the parameters sent are those of the command that was
passed last. -/
structure CommandsKept (dev : Str) (ts : List (Trans PostSys PostLabel PostEvent))
    (u : PostSys) : Prop where
  books : acceptedCmds (history ts) = passedCmds dev (history ts) ++ (pending dev u.sys).toList
  visit : ∀ cmd, u.sys.monitor = .atDevice dev → pending dev u.sys = some cmd →
    ∃ u₁ u₂ es, (postSystem dev).step u (.sys .readState) = some (u₁, []) ∧
      (postSystem dev).step u₁ (.sys .act) = some (u₂, es) ∧ passedCmds dev es = [cmd]
  fields : ∀ (ts₁ ts₂ : List (Trans PostSys PostLabel PostEvent))
    (t : Trans PostSys PostLabel PostEvent) (fields : Option (Option Str)),
    ts = ts₁ ++ t :: ts₂ → PostEvent.sys (.updateFields dev fields) ∈ t.evts →
    ∃ cmd, (passedCmds dev (history ts₁)).getLast? = some cmd ∧
      fields = cmd.getUpdateFieldsJSON

/-- **No command is lost** in a run whose steps keep out of each other's way. -/
theorem commands_kept_when (dev : Str) (mgmtDevice : HNodeDevice) (caches : Platform.Caches)
    (ts : List (Trans PostSys PostLabel PostEvent)) (u : PostSys)
    (hr : Run (postSystem dev) (PostSys.init mgmtDevice caches) ts u)
    (hok : StepsMeet (postOk dev) ts) : CommandsKept dev ts u := by
  have hinv := commandsInv_run hr hok
  refine ⟨hinv.books, fun cmd hphase hpending => pending_visit hphase hpending, ?_⟩
  intro ts₁ ts₂ t fields hts hmem
  subst hts
  obtain ⟨hrun, hstep⟩ := hr.split
  have hok₁ : StepsMeet (postOk dev) ts₁ := fun t' ht' => hok t' (by simp [ht'])
  have hinv₁ := commandsInv_run hrun hok₁
  exact updateFields_of_step hinv₁ hstep hmem

/-- A test that is enough for `postOk`, for runs that are executed. -/
def postCheck (dev : Str) (u : PostSys) : PostLabel → Bool
  | .set _ _ => (pending dev u.sys).isNone && !rendering dev u.sys.monitor && u.posts.isEmpty
  | .start _ => u.sys.monitor != .dead && !workingOn dev u.sys.monitor
  | .sys .act => workingOn dev u.sys.monitor || (pending dev u.sys).isNone
  | .sys (.reply _) => workingOn dev u.sys.monitor || (pending dev u.sys).isNone
  | .sys (.notifyDiscoverRemove _) => workingOn dev u.sys.monitor || (pending dev u.sys).isNone
  | .sys _ => true

theorem postOk_of_check {u : PostSys} {pl : PostLabel} (hcheck : postCheck dev u pl = true) :
    postOk dev u pl := by
  have hnone : (workingOn dev u.sys.monitor || (pending dev u.sys).isNone) = true →
      workingOn dev u.sys.monitor = false → pending dev u.sys = none := by
    intro h hw
    simpa [hw] using h
  cases pl with
  | set client body => simpa [postCheck, postOk, and_assoc] using hcheck
  | start client => simpa [postCheck, postOk] using hcheck
  | sys l =>
    cases l with
    | act => exact fun _ => hnone hcheck
    | reply o => exact fun _ => hnone hcheck
    | notifyDiscoverRemove event => exact fun _ => hnone hcheck
    -- the other steps make no REST call
    | _ => exact fun hraises => hraises.elim

end Posts

/-! ### Two posts. -/

section Sample

open RefPlatform

/-- The body of a claim command. -/
def claimBody : Body := some (.object [(lit "command", stringField "claim")])

/-- A client posts while the monitor sleeps; the monitor executes the command. -/
def executedRun : List PostLabel :=
  [.sys (.notifyDiscoverAdd sampleDeviceFound), .set 0 claimBody, .start 0, .sys .wakeup,
    .sys .readState, .sys .act]

/-- A run in which a command is accepted, and kept. -/
theorem commands_kept_sample :
    ∃ ts u, Run (postSystem (lit "4900fb4e")) (PostSys.init sampleManager ()) ts u ∧
      acceptedCmds (history ts) ≠ [] ∧ CommandsKept (lit "4900fb4e") ts u := by
  obtain ⟨ts, u, hr, hp⟩ := Machine.exists_run_of_exec (M := postSystem (lit "4900fb4e"))
    (s := PostSys.init sampleManager ()) (l := executedRun)
    (p := fun r => r.1.all (fun t => postCheck (lit "4900fb4e") t.pre t.label) &&
      !(acceptedCmds (history r.1)).isEmpty)
    (by decide +kernel)
  obtain ⟨hall, haccepted⟩ := Bool.and_eq_true_iff.mp hp
  have hok : StepsMeet (postOk (lit "4900fb4e")) ts := fun t ht =>
    postOk_of_check (List.all_eq_true.mp hall t ht)
  exact ⟨ts, u, hr, by simpa using haccepted,
    commands_kept_when (lit "4900fb4e") sampleManager () ts u hr hok⟩

/-- The device is discovered; between the monitor's reading of its state and
the writing of the next one a client posts a command. -/
def overwrittenRun : List PostLabel :=
  [.sys (.notifyDiscoverAdd sampleDeviceFound), .sys .wakeup, .sys .readState,
    .set 0 claimBody, .start 0, .sys .act, .sys .writeState]

/-- **A lost command**: both calls succeed, the state they set is overwritten,
and the command is neither executed nor due. -/
theorem command_lost :
    ∃ ts u, Run (postSystem (lit "4900fb4e")) (PostSys.init sampleManager ()) ts u ∧
      ¬ CommandsKept (lit "4900fb4e") ts u := by
  obtain ⟨ts, u, hr, hp⟩ := Machine.exists_run_of_exec (M := postSystem (lit "4900fb4e"))
    (s := PostSys.init sampleManager ()) (l := overwrittenRun)
    (p := fun r => acceptedCmds (history r.1) != passedCmds (lit "4900fb4e") (history r.1) ++
      (pending (lit "4900fb4e") r.2.sys).toList)
    (by decide +kernel)
  refine ⟨ts, u, hr, fun hkept => ?_⟩
  rw [hkept.books] at hp
  simp at hp

end Sample

end HNodeMgmt.Arbiter
