/-
  HNodeMgmt.Arbiter.Pass — one walk of the monitor over the device map.

  With the main thread quiet and an outcome fixed for the REST call of each
  device, a pass is a function: every device has its turn, in map order, until
  an exception leaves a case.  A turn is the steps of the system one after the
  other; nothing is modelled anew here.

  Main results:
    * `monitorPass_run` — a pass IS a run of the system.
    * `visit_case` — a turn, as what the case does to the record and the state
      it then writes.
    * `visit_frame` — a turn writes the record it is for, and no other.
-/
import Mathlib.Tactic.Common
import HNodeMgmt.Arbiter.Steps

namespace HNodeMgmt.Arbiter

open Lib

section Pass

variable [Platform]

/-! ## §1. Turns and passes. -/

/-- Take a step where the label has one. -/
def Sys.follow (s : Sys) (l : Label) : Sys := ((s.step l).map Prod.fst).getD s

/-- The turn of a device: its state is read and its case run, with `o` as what
becomes of the request, if the case sends one. -/
def visit (o : RestOutcome) (a : HNManagedDeviceArbiter) (crc32ID : Str) : Sys :=
  let s : Sys := { arbiter := a, monitor := .atDevice crc32ID }
  (((s.follow .readState).follow .act).follow (.reply o)).follow .writeState

/-- The turns of the devices in the list, up to the first that an exception
ends.  The flag says that none did. -/
def walk (o : Str → RestOutcome) : List Str → HNManagedDeviceArbiter → HNManagedDeviceArbiter × Bool
  | [], a => (a, true)
  | crc32ID :: ids, a =>
    let s := visit (o crc32ID) a crc32ID
    if s.monitor = .dead then (s.arbiter, false) else walk o ids s.arbiter

/-- The pass that follows a wakeup. -/
def monitorPass (o : Str → RestOutcome) (a : HNManagedDeviceArbiter) : Sys :=
  let ended := walk o a.deviceMap.keys { a with monitorWaitTime := 10 }
  { arbiter := ended.1, monitor := if ended.2 then .idle else .dead }

/-- A device's turn: the device and the arbiter as the monitor finds them. -/
structure Turn where
  crc32ID : Str
  arbiter : HNManagedDeviceArbiter
  device : HNMDARecord

/-- The turns a walk comes to. -/
def turns (o : Str → RestOutcome) : List Str → HNManagedDeviceArbiter → List Turn
  | [], _ => []
  | crc32ID :: ids, a =>
    match a.deviceMap[crc32ID]? with
    | none => []
    | some device =>
      let s := visit (o crc32ID) a crc32ID
      { crc32ID, arbiter := a, device } ::
        (if s.monitor = .dead then [] else turns o ids s.arbiter)

section

variable {o : Str → RestOutcome} {crc32ID : Str} {ids : List Str} {a : HNManagedDeviceArbiter}

theorem walk_cons_dead (h : (visit (o crc32ID) a crc32ID).monitor = .dead) :
    walk o (crc32ID :: ids) a = ((visit (o crc32ID) a crc32ID).arbiter, false) :=
  if_pos h

theorem walk_cons_live (h : (visit (o crc32ID) a crc32ID).monitor ≠ .dead) :
    walk o (crc32ID :: ids) a = walk o ids (visit (o crc32ID) a crc32ID).arbiter :=
  if_neg h

theorem turns_cons_live {device : HNMDARecord} (hget : a.deviceMap[crc32ID]? = some device)
    (h : (visit (o crc32ID) a crc32ID).monitor ≠ .dead) :
    turns o (crc32ID :: ids) a =
      { crc32ID, arbiter := a, device } :: turns o ids (visit (o crc32ID) a crc32ID).arbiter := by
  simp only [turns, hget, if_neg h]

theorem turns_cons_dead {device : HNMDARecord} (hget : a.deviceMap[crc32ID]? = some device)
    (h : (visit (o crc32ID) a crc32ID).monitor = .dead) :
    turns o (crc32ID :: ids) a = [{ crc32ID, arbiter := a, device }] := by
  simp only [turns, hget, if_pos h]

end

/-- The turns of a pass. -/
def passTurns (o : Str → RestOutcome) (a : HNManagedDeviceArbiter) : List Turn :=
  turns o a.deviceMap.keys { a with monitorWaitTime := 10 }

/-! ## §2. A case, run to its end. -/

/-- What a case comes to: the arbiter, the device in it, and the helper's
result, which is `none` when an exception leaves it. -/
structure CaseRun where
  arbiter : HNManagedDeviceArbiter
  device : HNMDARecord
  result : Option HNMDLResult

/-- The two halves of a case together. -/
def runCase (o : RestOutcome) (a : HNManagedDeviceArbiter) (crc32ID : Str)
    (device : HNMDARecord) : CaseRun :=
  match caseOp device.mgmtState device.mgmtCmd.cmdType with
  | none =>
    let device' := caseOwnership device.mgmtState device
    { arbiter := a.setDevice crc32ID device', device := device', result := some .failure }
  | some op =>
    let device' := (op.start a device).1
    let a' := a.setDevice crc32ID device'
    match (op.start a device).2 with
    | .finished result => { arbiter := a', device := device', result := some result }
    | .raised => { arbiter := a', device := device', result := none }
    | .request _ =>
      match op.finish a' crc32ID device' o with
      | none => { arbiter := a', device := device', result := none }
      | some (a'', result) =>
        { arbiter := a'', device := op.deviceGiven a' device' o, result := some result }

/-- The write that ends a case, unless an exception does. -/
def CaseRun.written (c : CaseRun) (crc32ID : Str) (st : MgmtState) : Sys :=
  match c.result with
  | none => { arbiter := c.arbiter, monitor := .dead }
  | some result =>
    let next := nextState c.arbiter c.device st result
    let a := c.arbiter.setNextMonitorState crc32ID c.device next.1 next.2
    { arbiter := a, monitor := advance c.arbiter crc32ID }

variable {a : HNManagedDeviceArbiter} {id : Str} {device : HNMDARecord} {o : RestOutcome}

/-- The record a case leaves is the one in the map. -/
theorem runCase_stores (o : RestOutcome) (a : HNManagedDeviceArbiter) (id : Str)
    (device : HNMDARecord) :
    Stores a (runCase o a id device).arbiter id (runCase o a id device).device ∧
      (runCase o a id device).arbiter.mgmtDevice = a.mgmtDevice ∧
      (runCase o a id device).arbiter.defaultMappings = a.defaultMappings := by
  unfold runCase
  cases hop : caseOp device.mgmtState device.mgmtCmd.cmdType with
  | none => exact ⟨stores_setDevice a id _, rfl, rfl⟩
  | some op =>
    simp only
    have hstores := stores_setDevice a id (op.start a device).1
    cases (op.start a device).2 with
    | finished result => exact ⟨hstores, rfl, rfl⟩
    | raised => exact ⟨hstores, rfl, rfl⟩
    | request req =>
      simp only
      cases hfinish : op.finish (a.setDevice id (op.start a device).1) id
          (op.start a device).1 o with
      | none => exact ⟨hstores, rfl, rfl⟩
      | some r =>
        obtain ⟨a', result⟩ := r
        obtain ⟨hs, hm, hd⟩ := finish_stores hstores.get hfinish
        exact ⟨hstores.trans hs, hm, hd⟩

/-! ## §3. A turn is a case. -/

/-- The turn of a device in an idle state. -/
theorem visit_idle (hget : a.deviceMap[id]? = some device)
    (hidle : idleState device.mgmtState = true) :
    visit o a id = { arbiter := a, monitor := advance a id } := by
  have hread : Sys.follow { arbiter := a, monitor := .atDevice id } .readState =
      { arbiter := a, monitor := advance a id } := by
    simp only [Sys.follow, Sys.step, hget, hidle, if_true, Option.map_some, Option.getD_some]
  unfold visit
  simp only [hread]
  -- the monitor has moved on, so the labels of a case have no step
  rcases advance_cases a id with hnext | ⟨id', hnext⟩
  · rw [hnext]
    rfl
  · rw [hnext]
    rfl

/-- **A turn is a case**, run to its end and written. -/
theorem visit_case (hget : a.deviceMap[id]? = some device)
    (hbusy : idleState device.mgmtState = false) :
    visit o a id = (runCase o a id device).written id device.mgmtState := by
  have hread : Sys.follow { arbiter := a, monitor := .atDevice id } .readState =
      { arbiter := a, monitor := .acting id device.mgmtState } := by
    simp only [Sys.follow, Sys.step, hget, hbusy, Option.map_some, Option.getD_some]
    rfl
  have hact : Sys.follow { arbiter := a, monitor := .acting id device.mgmtState } .act =
      (actStep a id device.mgmtState device).1 := by
    simp only [Sys.follow, Sys.step, hget, Option.map_some, Option.getD_some]
  -- the write, from wherever the case has ended
  have hwrite : ∀ (b : HNManagedDeviceArbiter) (d : HNMDARecord) (r : HNMDLResult),
      b.deviceMap[id]? = some d →
      Sys.follow ⟨b, .writing id device.mgmtState (nextState b d device.mgmtState r)⟩ .writeState =
        CaseRun.written ⟨b, d, some r⟩ id device.mgmtState := by
    intro b d r hd
    simp only [Sys.follow, Sys.step, hd, Option.map_some, Option.getD_some, CaseRun.written]
  unfold visit
  simp only [hread, hact]
  unfold actStep runCase
  cases hop : caseOp device.mgmtState device.mgmtCmd.cmdType with
  | none =>
    simp only
    rw [caseDone_eq (stores_setDevice a id _).get]
    exact hwrite _ _ _ (stores_setDevice a id _).get
  | some op =>
    simp only
    have hstores := stores_setDevice a id (op.start a device).1
    cases (op.start a device).2 with
    | finished result =>
      simp only
      rw [caseDone_eq hstores.get]
      exact hwrite _ _ _ hstores.get
    | raised => rfl
    | request req =>
      have hreply : Sys.follow
            ⟨a.setDevice id (op.start a device).1, .waiting id device.mgmtState op⟩ (.reply o) =
          (replyStep (a.setDevice id (op.start a device).1) id device.mgmtState op
            (op.start a device).1 o).1 := by
        simp only [Sys.follow, Sys.step, hstores.get, Option.map_some, Option.getD_some]
      simp only [hreply]
      unfold replyStep
      cases hfinish : op.finish (a.setDevice id (op.start a device).1) id
          (op.start a device).1 o with
      | none => rfl
      | some r =>
        obtain ⟨a', result⟩ := r
        have hgiven := (finish_stores hstores.get hfinish).1.get
        simp only
        rw [caseDone_eq hgiven]
        exact hwrite _ _ _ hgiven

/-! ## §4. What a turn leaves alone. -/

/-- What no case changes of the device it is for. -/
theorem runCase_frame (o : RestOutcome) (a : HNManagedDeviceArbiter) (id : Str)
    (device : HNMDARecord) :
    (runCase o a id device).device.hnodeID = device.hnodeID ∧
      (device.mgmtState ≠ .srvProvideInfo →
        (runCase o a id device).device.srvMapProvided = device.srvMapProvided) := by
  unfold runCase
  cases hop : caseOp device.mgmtState device.mgmtCmd.cmdType with
  | none =>
    simp only [caseOwnership]
    split <;> exact ⟨rfl, fun _ => rfl⟩
  | some op =>
    simp only
    obtain ⟨m, hstart, -⟩ := start_device a device op
    rw [hstart]
    cases (op.start a device).2 with
    | finished result => exact ⟨rfl, fun _ => rfl⟩
    | raised => exact ⟨rfl, fun _ => rfl⟩
    | request req =>
      simp only
      split
      next => exact ⟨rfl, fun _ => rfl⟩
      next a' result _ =>
        have hframe := deviceGiven_frame (a.setDevice id { device with srvMapDesired := m })
          { device with srvMapDesired := m } o op
        refine ⟨hframe.hnodeID, fun hst => hframe.provided fun heq => hst ?_⟩
        rw [heq] at hop
        exact caseOp_provideInfo hop

/-- **A turn writes the record it is for**, and no other; the device keeps its
ID, and outside SRV_PROVIDE_INFO the services it provides. -/
theorem visit_frame (o : RestOutcome) (hget : a.deviceMap[id]? = some device) :
    ∃ device', Stores a (visit o a id).arbiter id device' ∧
      device'.hnodeID = device.hnodeID ∧
      (device.mgmtState ≠ .srvProvideInfo → device'.srvMapProvided = device.srvMapProvided) ∧
      (visit o a id).arbiter.mgmtDevice = a.mgmtDevice ∧
      (visit o a id).arbiter.defaultMappings = a.defaultMappings := by
  cases hidle : idleState device.mgmtState with
  | true =>
    rw [visit_idle hget hidle]
    exact ⟨device, stores_refl hget, rfl, fun _ => rfl, rfl, rfl⟩
  | false =>
    rw [visit_case hget hidle]
    obtain ⟨hstores, hmgmt, hdefaults⟩ := runCase_stores o a id device
    obtain ⟨hnode, hprovided⟩ := runCase_frame o a id device
    unfold CaseRun.written
    cases (runCase o a id device).result with
    | none => exact ⟨_, hstores, hnode, hprovided, hmgmt, hdefaults⟩
    | some result =>
      refine ⟨_, hstores.trans (stores_setNextMonitorState _ id _ _ _), hnode, hprovided, ?_⟩
      exact ⟨hmgmt, hdefaults⟩

/-- The keys stay. -/
theorem visit_keys (o : RestOutcome) (hget : a.deviceMap[id]? = some device) :
    (visit o a id).arbiter.deviceMap.keys = a.deviceMap.keys := by
  obtain ⟨_, hstores, -⟩ := visit_frame o hget
  exact hstores.keys hget

/-- The monitor goes on to the next key, unless an exception ends it. -/
theorem visit_monitor (o : RestOutcome) (hget : a.deviceMap[id]? = some device) :
    (visit o a id).monitor = .dead ∨ (visit o a id).monitor = advance a id := by
  cases hidle : idleState device.mgmtState with
  | true =>
    rw [visit_idle hget hidle]
    exact Or.inr rfl
  | false =>
    rw [visit_case hget hidle]
    unfold CaseRun.written
    cases (runCase o a id device).result with
    | none => exact Or.inl rfl
    | some result =>
      refine Or.inr ?_
      show advance (runCase o a id device).arbiter id = advance a id
      unfold advance OrdMap.next?
      rw [(runCase_stores o a id device).1.keys hget]

/-! ## §5. A pass is a run of the system. -/

/-- The labels of a pass: the monitor's own, where a reply is the outcome fixed
for the device that is waited for. -/
def PassStep (o : Str → RestOutcome) (t : Trans Sys Label Event) : Prop :=
  match t.label with
  | .wakeup | .readState | .act | .writeState => True
  | .reply outcome => ∃ id st op, t.pre.monitor = .waiting id st op ∧ outcome = o id
  | _ => False

/-- A label followed is a run of at most one step. -/
theorem follow_run {o : Str → RestOutcome} {s : Sys} {l : Label}
    (hallowed : ∀ v es, s.step l = some (v, es) → PassStep o ⟨s, l, es, v⟩) :
    ∃ ts, Run system s ts (s.follow l) ∧ ∀ t ∈ ts, PassStep o t := by
  unfold Sys.follow
  cases hstep : s.step l with
  | none => exact ⟨[], Run.nil, fun _ ht => absurd ht List.not_mem_nil⟩
  | some r =>
    obtain ⟨v, es⟩ := r
    refine ⟨[⟨s, l, es, v⟩], Run.cons hstep Run.nil, fun t ht => ?_⟩
    rw [List.mem_singleton.mp ht]
    exact hallowed v es hstep

/-- A case that waits, waits for the device whose turn it is. -/
theorem waiting_own {id' : Str} {st : MgmtState} {op : RestOp}
    (h : ((Sys.follow ⟨a, .atDevice id⟩ .readState).follow .act).monitor = .waiting id' st op) :
    id' = id := by
  -- nothing but `act` leads to waiting
  have hact : ∀ s : Sys, (∀ i st op, s.monitor ≠ .waiting i st op) →
      (s.follow .act).monitor = .waiting id' st op → ∃ st', s.monitor = .acting id' st' := by
    intro s hs hw
    unfold Sys.follow at hw
    cases hstep : s.step .act with
    | none =>
      rw [hstep] at hw
      exact absurd hw (hs id' st op)
    | some r =>
      obtain ⟨v, es⟩ := r
      rw [hstep] at hw
      have htook : Took s .act v es := took_of_step hstep
      cases htook with
      | actAlone => cases hw
      | actFinished => cases hw
      | actRequest i st' _ _ _ hphase =>
        cases hw
        exact ⟨_, hphase⟩
      | actRaised => cases hw
  cases hget : a.deviceMap[id]? with
  | none =>
    have hread : Sys.follow ⟨a, .atDevice id⟩ .readState = ⟨a, .atDevice id⟩ := by
      simp only [Sys.follow, Sys.step, hget, Option.map_none, Option.getD_none]
    rw [hread] at h
    obtain ⟨_, hphase⟩ := hact _ (fun _ _ _ hw => by cases hw) h
    cases hphase
  | some device =>
    have hread : (Sys.follow ⟨a, .atDevice id⟩ .readState).monitor =
        if idleState device.mgmtState then advance a id else .acting id device.mgmtState := by
      simp only [Sys.follow, Sys.step, hget, Option.map_some, Option.getD_some]
    cases hidle : idleState device.mgmtState with
    | true =>
      rw [hidle, if_pos rfl] at hread
      obtain ⟨_, hphase⟩ := hact _ (fun _ _ _ hw => by
        rcases advance_cases a id with hn | ⟨_, hn⟩ <;> rw [hread, hn] at hw <;> cases hw) h
      rw [hread] at hphase
      rcases advance_cases a id with hn | ⟨_, hn⟩ <;> rw [hn] at hphase <;> cases hphase
    | false =>
      rw [hidle, if_neg Bool.false_ne_true] at hread
      obtain ⟨_, hphase⟩ := hact _ (fun _ _ _ hw => by rw [hread] at hw; cases hw) h
      rw [hread] at hphase
      cases hphase
      rfl

/-- A turn is a run. -/
theorem visit_run (o : Str → RestOutcome) (a : HNManagedDeviceArbiter) (id : Str) :
    ∃ ts, Run system ⟨a, .atDevice id⟩ ts (visit (o id) a id) ∧ ∀ t ∈ ts, PassStep o t := by
  obtain ⟨ts₁, hr₁, hp₁⟩ := follow_run (o := o) (s := ⟨a, .atDevice id⟩) (l := .readState)
    fun _ _ _ => trivial
  obtain ⟨ts₂, hr₂, hp₂⟩ := follow_run (o := o) (l := .act)
    (s := Sys.follow ⟨a, .atDevice id⟩ .readState) fun _ _ _ => trivial
  obtain ⟨ts₃, hr₃, hp₃⟩ := follow_run (o := o) (l := .reply (o id))
    (s := (Sys.follow ⟨a, .atDevice id⟩ .readState).follow .act) fun v es hstep => by
      have htook : Took _ (.reply (o id)) v es := took_of_step hstep
      cases htook with
      | replyRaised id' st op _ _ hphase => exact ⟨id', st, op, hphase, by rw [waiting_own hphase]⟩
      | replyDone id' st op _ _ _ _ hphase =>
        exact ⟨id', st, op, hphase, by rw [waiting_own hphase]⟩
  obtain ⟨ts₄, hr₄, hp₄⟩ := follow_run (o := o) (l := .writeState)
    (s := ((Sys.follow ⟨a, .atDevice id⟩ .readState).follow .act).follow (.reply (o id)))
    fun _ _ _ => trivial
  refine ⟨((ts₁ ++ ts₂) ++ ts₃) ++ ts₄, ((hr₁.append hr₂).append hr₃).append hr₄, ?_⟩
  simp only [List.mem_append, or_imp, forall_and]
  exact ⟨⟨⟨hp₁, hp₂⟩, hp₃⟩, hp₄⟩

/-- Where the walk stands when these keys are left. -/
def walkPhase : List Str → MonitorPhase
  | [] => .idle
  | id :: _ => .atDevice id

/-- The rest of a walk is a run. -/
theorem walk_run (o : Str → RestOutcome) :
    ∀ (ids pre : List Str) (a : HNManagedDeviceArbiter), a.deviceMap.keys = pre ++ ids →
      ∃ ts, Run system ⟨a, walkPhase ids⟩ ts
        ⟨(walk o ids a).1, if (walk o ids a).2 then .idle else .dead⟩ ∧ ∀ t ∈ ts, PassStep o t
  | [], _, _, _ => ⟨[], Run.nil, fun _ ht => absurd ht List.not_mem_nil⟩
  | id :: ids, pre, a, hkeys => by
      have hmem : id ∈ a.deviceMap := by
        rw [← Std.ExtTreeMap.mem_keys, hkeys]
        simp
      obtain ⟨device, hget⟩ := (OrdMap.mem_iff_get _ _).mp hmem
      obtain ⟨ts, hr, hp⟩ := visit_run o a id
      have hnext : advance a id = walkPhase ids := by
        unfold advance
        rw [OrdMap.next?_of_keys hkeys]
        cases ids <;> rfl
      by_cases hdead : (visit (o id) a id).monitor = .dead
      · rw [walk_cons_dead hdead]
        refine ⟨ts, ?_, hp⟩
        show Run system _ ts ⟨(visit (o id) a id).arbiter, .dead⟩
        rw [← hdead]
        exact hr
      · rw [walk_cons_live hdead]
        have hphase : (visit (o id) a id).monitor = walkPhase ids :=
          ((visit_monitor (o id) hget).resolve_left hdead).trans hnext
        obtain ⟨us, hr', hp'⟩ := walk_run o ids (pre ++ [id]) (visit (o id) a id).arbiter (by
          rw [visit_keys (o id) hget, hkeys, List.append_cons])
        rw [← hphase] at hr'
        refine ⟨ts ++ us, hr.append hr', ?_⟩
        simp only [List.mem_append, or_imp, forall_and]
        exact ⟨hp, hp'⟩

/-- **A pass is a run of the system**, by the monitor's steps alone and with the
outcomes that were fixed. -/
theorem monitorPass_run (o : Str → RestOutcome) (a : HNManagedDeviceArbiter) :
    ∃ ts, Run system ⟨a, .idle⟩ ts (monitorPass o a) ∧ ∀ t ∈ ts, PassStep o t := by
  obtain ⟨ts, hr, hp⟩ := walk_run o a.deviceMap.keys [] { a with monitorWaitTime := 10 } rfl
  have hwake : system.step ⟨a, .idle⟩ .wakeup =
      some (⟨{ a with monitorWaitTime := 10 }, walkPhase a.deviceMap.keys⟩, []) := by
    show some _ = some _
    simp only
    cases a.deviceMap.keys <;> rfl
  refine ⟨_ :: ts, Run.cons hwake hr, fun t ht => ?_⟩
  rcases List.mem_cons.mp ht with rfl | hmem
  · trivial
  · exact hp t hmem

end Pass

end HNodeMgmt.Arbiter
