/-
  HNodeMgmt.Daemon.Mgmtd — the whole daemon.

  The arbiter with its monitor and the pipeline of the requests are two parts of
  one program, and the main thread is in both: it takes a request from the sink,
  looks a device up in the arbiter for it, or answers it from what the arbiter
  holds.  For that it goes to the arbiter several times: a command is stored by
  one call and started by another, and the list of the devices is copied record
  by record, since the monitor changes records without the lock of the map.  The
  monitor, the sink, the sequencer and the clients take their steps between any
  two of these accesses.

  What the libraries do at a call is given from outside, by an index.

  Main results:
    * `arbiterPart`, `pipelinePart` — the two machines are parts of the daemon, so
      what holds of all their runs holds of it.
-/
import Mathlib.Tactic.Common
import HNodeMgmt.Lib.Parts
import HNodeMgmt.Scgi.Ticket
import HNodeMgmt.Scgi.LocalReply

namespace HNodeMgmt.Daemon

open Lib Arbiter Scgi

section

variable [Platform]

/-! ## §1. A request that the main thread answers itself. -/

/-- An access of the main thread to the arbiter. -/
inductive Access where
  /-- A call that changes a record. -/
  | change (l : Label)
  /-- One record is copied. -/
  | copy
  /-- A report of an index, or of the health cache. -/
  | report

namespace Access

/-- The step of the arbiter. -/
def label : Access → Option Label
  | .change l => some l
  | .copy | .report => none

/-- The arbiter that the access finds.  No lock keeps the monitor from rebuilding
what is reported meanwhile, so what a report finds is left open. -/
def finds (access : Access) (found a : HNManagedDeviceArbiter) : HNManagedDeviceArbiter :=
  match access with
  | .report => found
  | .change _ | .copy => a

end Access

/-- What the main thread has in its hand besides the record. -/
structure LocalWork (ι : Type) where
  /-- What the lookup of a device has found. -/
  connInfo : Option HNMDARAddress
  /-- Which of the environments the call finds. -/
  env : ι
  fuel : Nat
  call : LocalCall
  /-- The arbiter as each of the accesses so far has found it. -/
  seen : List HNManagedDeviceArbiter

namespace LocalWork

variable {ι : Type}

/-- The next access of `handleLocalSCGIRequest`: `none` when there is none left. -/
def nextAccess (env : LocalEnv) (a : HNManagedDeviceArbiter) (w : LocalWork ι) :
    Option Access :=
  if w.call.opData.opID = lit "postDeviceMgmtCommand" then do
    let devCRC32ID ← w.call.opData.getParam (lit "devCRC32ID")
    let read ← w.call.readContentToLocal w.fuel
    let body := env.parse read.reqContent.written
    match w.seen with
    | [] => return .change (.setDeviceMgmtCmdFromJSON devCRC32ID body)
    | [a] =>
      if (a.setDeviceMgmtCmdFromJSON devCRC32ID body).2 = .success then
        return .change (.startDeviceMgmtCmd devCRC32ID)
      else none
    | _ => none
  else if w.call.opData.opID = lit "getDeviceServices" then
    if w.seen.length < 4 then some .report else none
  else if w.call.opData.opID = lit "getDeviceInventory" then
    -- the loop of `getDeviceListCopy`
    if w.seen.length < a.deviceMap.size then some .copy else none
  else if w.call.opData.opID = lit "getClusterHealth" then
    if w.seen = [] then some .report else none
  else if w.call.opData.opID = lit "getDeviceMgmtStatus" ∧
      w.call.opData.getParam (lit "devCRC32ID") ≠ none then
    if w.seen = [] then some .copy else none
  else none

/-- What others have done between the accesses is in what was seen. -/
def envSeen (env : LocalEnv) (w : LocalWork ι) : LocalEnv :=
  { env with meanwhile := fun i a => (w.seen[i + 1]?).getD a }

/-- The devices with the records that were copied: in the order of the map, one in
each round. -/
def copies (a : HNManagedDeviceArbiter) (w : LocalWork ι) : HNManagedDeviceArbiter :=
  { a with
    deviceMap := a.deviceMap.map fun id device =>
      ((w.seen[a.deviceMap.keys.idxOf id]?).bind fun seen => seen.deviceMap[id]?).getD device }

/-- The arbiter that the call has begun with. -/
def begunWith (a : HNManagedDeviceArbiter) (w : LocalWork ι) : HNManagedDeviceArbiter :=
  if w.call.opData.opID = lit "getDeviceInventory" then w.copies a else w.seen.head?.getD a

def callSeen (a : HNManagedDeviceArbiter) (w : LocalWork ι) : LocalCall :=
  { w.call with arbiter := w.begunWith a }

/-- What the call returns with when it has made its accesses. -/
def returns (env : LocalEnv) (a : HNManagedDeviceArbiter) (w : LocalWork ι) : Option LocalCall :=
  handleLocalSCGIRequest (w.envSeen env) w.fuel (w.callSeen a)

end LocalWork

/-! ## §2. The machine. -/

/-- The program: its arbiter with the monitor, its sink and its sequencer, and
what the main thread is doing. -/
structure Mgmtd (ι : Type) where
  sys : Sys
  pipe : Pipe
  work : Option (LocalWork ι)

inductive MgmtdLabel (ι : Type) where
  /-- The monitor thread. -/
  | monitor (l : Label)
  /-- The main thread, with an event of the browser. -/
  | discover (event : DiscoverEvent)
  /-- The kernel, the clients, the sink and the sequencer, and the main thread at
  its queues. -/
  | others (l : PipeLabel)
  -- the main thread, with a request: who it is for, an access, and the end
  | check (env : ι) (fuel : Nat) (req : Transfer) (statusCode : UInt32)
  | access (found : HNManagedDeviceArbiter)
  | finish

inductive MgmtdEvent where
  | arbiter (e : Event)
  | pipe (e : PipeEvent)
  deriving DecidableEq, Repr

def MgmtdEvent.arbiter? : MgmtdEvent → Option Event
  | .arbiter e => some e
  | .pipe _ => none

def MgmtdEvent.pipe? : MgmtdEvent → Option PipeEvent
  | .arbiter _ => none
  | .pipe e => some e

/-- The labels of the monitor thread. -/
def ofMonitor : Label → Bool
  | .wakeup | .readState | .act | .reply _ | .writeState => true
  | _ => false

/-- A step of the program: at most one of each part, and what the main thread does
then. -/
structure Moves (ι : Type) where
  arbiter : Option Label
  pipe : Option PipeLabel
  work : Option (LocalWork ι)

variable {ι : Type} (envs : ι → LocalEnv) (handler : Str → List Str → Option HNOperationData)

/-- `mapProxyRequest`: what the registered paths make of the method and the
segments of a request. -/
def mappedTo (request : HNSCGIMsg) : Option HNOperationData :=
  (Platform.parseURI request.uri).bind fun uri =>
    handler request.method (Platform.uriPathSegments uri)

namespace Mgmtd

/-- A request is for a device, or for nobody, or the main thread begins with it. -/
def check (s : Mgmtd ι) (env : ι) (fuel : Nat) (req : Transfer) (statusCode : UInt32) :
    Option (Moves ι) :=
  match s.work, s.pipe.mainHand with
  | none, some rr =>
    match s.pipe.heap[rr]? with
    | none => some { arbiter := none, pipe := some (.dispatch none .noHandler), work := none }
    | some client =>
      let request := client.rr.request
      let connInfo := lookedUp s.sys.arbiter request
      match checkForProxyRequestOf s.sys.arbiter rr request, mappedTo handler request with
      | some none, some opData =>
        let call : LocalCall :=
          { arbiter := s.sys.arbiter, req := { req with msg := request }
            reqContent := .fresh, rsp := .new statusCode, opData }
        some
          { arbiter := none, pipe := none
            work := some { connInfo, env, fuel, call, seen := [] } }
      | _, _ =>
        some { arbiter := none, pipe := some (.dispatch connInfo .noHandler), work := none }
  | _, _ => none

/-- The next access. -/
def access (s : Mgmtd ι) (found : HNManagedDeviceArbiter) : Option (Moves ι) := do
  let w ← s.work
  let access ← w.nextAccess (envs w.env) s.sys.arbiter
  some
    { arbiter := access.label, pipe := none
      work := some { w with seen := w.seen ++ [access.finds found s.sys.arbiter] } }

/-- The end of `handleLocalSCGIRequest`.  One that does not return keeps the main
thread. -/
def finish (s : Mgmtd ι) : Option (Moves ι) := do
  let w ← s.work
  if (w.nextAccess (envs w.env) s.sys.arbiter).isSome then none
  else do
    let c ← w.returns (envs w.env) s.sys.arbiter
    let answer := LocalAnswer.handled c.rsp.response
    return { arbiter := none, pipe := some (.dispatch w.connInfo answer), work := none }

/-- What a label makes the parts do. -/
def moves (s : Mgmtd ι) : MgmtdLabel ι → Option (Moves ι)
  | .monitor l =>
    if ofMonitor l then some { arbiter := some l, pipe := none, work := s.work } else none
  | .discover event =>
    if s.pipe.mainAlive && s.pipe.mainHand.isNone then
      some { arbiter := some (.notifyDiscoverAdd event), pipe := none, work := s.work }
    else none
  | .others l =>
    match l with
    | .dispatch _ _ => none
    | l => some { arbiter := none, pipe := some l, work := s.work }
  | .check env fuel req statusCode => s.check handler env fuel req statusCode
  | .access found => s.access envs found
  | .finish => s.finish envs

/-- The arbiter's part of a step. -/
def stepArbiter (s : Mgmtd ι) (l : Option Label) : Option (Sys × List MgmtdEvent) :=
  match l with
  | none => some (s.sys, [])
  | some l => (s.sys.step l).map fun r => (r.1, r.2.map .arbiter)

/-- The pipeline's part of a step. -/
def stepPipe (s : Mgmtd ι) (l : Option PipeLabel) : Option (Pipe × List MgmtdEvent) :=
  match l with
  | none => some (s.pipe, [])
  | some l => (s.pipe.step l).map fun r => (r.1, r.2.map .pipe)

/-- The step function. -/
def step (s : Mgmtd ι) (l : MgmtdLabel ι) : Option (Mgmtd ι × List MgmtdEvent) :=
  if s.pipe.crashed then none
  else do
    let m ← s.moves envs handler l
    let (sys, es) ← s.stepArbiter m.arbiter
    let (pipe, es') ← s.stepPipe m.pipe
    return ({ sys, pipe, work := m.work }, es ++ es')

/-- The program has just been started. -/
def init (mgmtDevice : HNodeDevice) (caches : Platform.Caches) : Mgmtd ι :=
  { sys := Sys.init mgmtDevice caches, pipe := Pipe.init, work := none }

end Mgmtd

/-- The program. -/
def hnmgmtd : Machine (Mgmtd ι) (MgmtdLabel ι) MgmtdEvent := { step := Mgmtd.step envs handler }

/-! ## §3. What a step can be. -/

variable {envs handler} {s s' : Mgmtd ι} {l : MgmtdLabel ι} {es : List MgmtdEvent}

/-- The record that a request is dispatched from, if it is not deleted. -/
def IsRequest (s : Mgmtd ι) (rr : Nat) (request : HNSCGIMsg) : Prop :=
  ∃ client : ClientRec, s.pipe.heap[rr]? = some client ∧ client.rr.request = request

/-- The moves of a label, one case for each thing that the main thread does. -/
inductive Moved (envs : ι → LocalEnv) (handler : Str → List Str → Option HNOperationData)
    (s : Mgmtd ι) : MgmtdLabel ι → Moves ι → Prop
  /-- It does nothing with the request in its hand. -/
  | aside {l : MgmtdLabel ι} {m : Moves ι} (work : m.work = s.work)
      (undispatched : ∀ connInfo answer, m.pipe ≠ some (.dispatch connInfo answer)) :
      Moved envs handler s l m
  /-- It passes the request on, or answers that there is no such thing. -/
  | passed {env : ι} {fuel : Nat} {req : Transfer} {statusCode : UInt32} {rr : Nat}
      {connInfo : Option HNMDARAddress} (idle : s.work = none) (hand : s.pipe.mainHand = some rr)
      (looked : ∀ request, IsRequest s rr request → connInfo = lookedUp s.sys.arbiter request ∧
        (checkForProxyRequestOf s.sys.arbiter rr request = some none →
          mappedTo handler request = none)) :
      Moved envs handler s (.check env fuel req statusCode)
        { arbiter := none, pipe := some (.dispatch connInfo .noHandler), work := none }
  /-- It begins to answer it. -/
  | begun {env : ι} {fuel : Nat} {req : Transfer} {statusCode : UInt32} {rr : Nat}
      {client : ClientRec} {opData : HNOperationData} (idle : s.work = none)
      (hand : s.pipe.mainHand = some rr) (get : s.pipe.heap[rr]? = some client)
      (own : checkForProxyRequestOf s.sys.arbiter rr client.rr.request = some none)
      (mapped : mappedTo handler client.rr.request = some opData) :
      Moved envs handler s (.check env fuel req statusCode)
        { arbiter := none, pipe := none
          work := some
            { connInfo := lookedUp s.sys.arbiter client.rr.request, env, fuel
              call :=
                { arbiter := s.sys.arbiter, req := { req with msg := client.rr.request }
                  reqContent := .fresh, rsp := .new statusCode, opData }
              seen := [] } }
  | accessed {w : LocalWork ι} {access : Access} {found : HNManagedDeviceArbiter}
      (work : s.work = some w) (next : w.nextAccess (envs w.env) s.sys.arbiter = some access) :
      Moved envs handler s (.access found)
        { arbiter := access.label, pipe := none
          work := some { w with seen := w.seen ++ [access.finds found s.sys.arbiter] } }
  | finished {w : LocalWork ι} {c : LocalCall} (work : s.work = some w)
      (done : w.nextAccess (envs w.env) s.sys.arbiter = none)
      (returns : w.returns (envs w.env) s.sys.arbiter = some c) :
      Moved envs handler s .finish
        { arbiter := none, pipe := some (.dispatch w.connInfo (.handled c.rsp.response))
          work := none }

/-- What the check comes to. -/
theorem moved_check {env : ι} {fuel : Nat} {req : Transfer} {statusCode : UInt32} {m : Moves ι}
    (h : s.check handler env fuel req statusCode = some m) :
    Moved envs handler s (.check env fuel req statusCode) m := by
  unfold Mgmtd.check at h
  cases hwork : s.work with
  | some w =>
    rw [hwork] at h
    cases h
  | none =>
    cases hhand : s.pipe.mainHand with
    | none =>
      rw [hwork, hhand] at h
      cases h
    | some rr =>
      cases hget : s.pipe.heap[rr]? with
      | none =>
        simp only [hwork, hhand, hget] at h
        obtain rfl := Option.some.inj h
        refine .passed hwork hhand fun request hrequest => ?_
        obtain ⟨client, hclient, -⟩ := hrequest
        cases hget.symm.trans hclient
      | some client =>
        simp only [hwork, hhand, hget] at h
        -- the one that is in the record
        have honly : ∀ request, IsRequest s rr request → request = client.rr.request := by
          rintro request ⟨client', hclient, rfl⟩
          rw [Option.some.inj (hget.symm.trans hclient)]
        split at h
        next opData hown hmapped =>
          obtain rfl := Option.some.inj h
          exact .begun hwork hhand hget hown hmapped
        next hother =>
          obtain rfl := Option.some.inj h
          refine .passed hwork hhand fun request hrequest => ?_
          obtain rfl := honly request hrequest
          refine ⟨rfl, fun hown => ?_⟩
          cases hmapped : mappedTo handler client.rr.request with
          | none => rfl
          | some opData => exact absurd hmapped (hother opData hown)

theorem moved_of_moves {m : Moves ι} (h : s.moves envs handler l = some m) :
    Moved envs handler s l m := by
  -- the main thread's labels alone touch the work; none of the others dispatches
  cases l with
  | monitor l =>
    have hmoves : (if ofMonitor l then
      some ({ arbiter := some l, pipe := none, work := s.work } : Moves ι) else none) = some m := h
    split at hmoves
    next =>
      obtain rfl := Option.some.inj hmoves
      refine .aside rfl ?_
      intro _ _ heq
      cases heq
    next => cases hmoves
  | discover event =>
    have hmoves : (if s.pipe.mainAlive && s.pipe.mainHand.isNone then
      some ({ arbiter := some (.notifyDiscoverAdd event), pipe := none, work := s.work } : Moves ι)
      else none) = some m := h
    split at hmoves
    next =>
      obtain rfl := Option.some.inj hmoves
      refine .aside rfl ?_
      intro _ _ heq
      cases heq
    next => cases hmoves
  | others l =>
    cases l with
    | dispatch connInfo answer => cases h
    | _ =>
      obtain rfl := Option.some.inj h
      refine .aside rfl ?_
      intro _ _ heq
      cases Option.some.inj heq
  | check env fuel req statusCode => exact moved_check h
  | access found =>
    obtain ⟨w, hwork, h⟩ := Option.bind_eq_some_iff.mp h
    obtain ⟨access, hnext, h⟩ := Option.bind_eq_some_iff.mp h
    obtain rfl := Option.some.inj h
    exact .accessed hwork hnext
  | finish =>
    obtain ⟨w, hwork, h⟩ := Option.bind_eq_some_iff.mp h
    split at h
    next => cases h
    next hdone =>
      obtain ⟨c, hreturns, h⟩ := Option.bind_eq_some_iff.mp h
      obtain rfl := Option.some.inj h
      exact .finished hwork (by simpa using hdone) hreturns

/-! ## §4. Its parts. -/

/-- **What a step does**: what the label makes the parts do, and they do it. -/
theorem moved_of_step (h : (hnmgmtd envs handler).step s l = some (s', es)) :
    s.pipe.crashed = false ∧ ∃ m es₁ es₂, s.moves envs handler l = some m ∧
      s.stepArbiter m.arbiter = some (s'.sys, es₁) ∧ s.stepPipe m.pipe = some (s'.pipe, es₂) ∧
      s'.work = m.work ∧ es = es₁ ++ es₂ := by
  have hstep : Mgmtd.step envs handler s l = some (s', es) := h
  unfold Mgmtd.step at hstep
  split at hstep
  next => cases hstep
  next hlive =>
    obtain ⟨m, hm, hstep⟩ := Option.bind_eq_some_iff.mp hstep
    obtain ⟨⟨sys, es₁⟩, hsys, hstep⟩ := Option.bind_eq_some_iff.mp hstep
    obtain ⟨⟨pipe, es₂⟩, hpipe, hstep⟩ := Option.bind_eq_some_iff.mp hstep
    obtain ⟨rfl, rfl⟩ := Prod.mk.inj (Option.some.inj hstep)
    exact ⟨by simpa using hlive, m, es₁, es₂, hm, hsys, hpipe, rfl, rfl⟩

omit [Platform] in
/-- The events of a part are its own. -/
theorem arbiter_events (es : List Event) :
    (es.map MgmtdEvent.arbiter).filterMap MgmtdEvent.arbiter? = es ∧
      (es.map MgmtdEvent.arbiter).filterMap MgmtdEvent.pipe? = [] := by
  induction es with
  | nil => exact ⟨rfl, rfl⟩
  | cons e es ih => exact ⟨congrArg (e :: ·) ih.1, ih.2⟩

omit [Platform] in
theorem pipe_events (es : List PipeEvent) :
    (es.map MgmtdEvent.pipe).filterMap MgmtdEvent.pipe? = es ∧
      (es.map MgmtdEvent.pipe).filterMap MgmtdEvent.arbiter? = [] := by
  induction es with
  | nil => exact ⟨rfl, rfl⟩
  | cons e es ih => exact ⟨congrArg (e :: ·) ih.1, ih.2⟩

/-- The arbiter rests or takes its step, and the events are its own. -/
theorem stepArbiter_cases {l : Option Label} {sys : Sys}
    (h : s.stepArbiter l = some (sys, es)) :
    (l = none ∧ sys = s.sys ∧ es = []) ∨
      ∃ l' es', l = some l' ∧ system.step s.sys l' = some (sys, es') ∧ es = es'.map .arbiter := by
  cases l with
  | none =>
    obtain ⟨rfl, rfl⟩ := Prod.mk.inj (Option.some.inj h)
    exact .inl ⟨rfl, rfl, rfl⟩
  | some l =>
    obtain ⟨⟨sys', es'⟩, hstep, heq⟩ := Option.map_eq_some_iff.mp h
    obtain ⟨rfl, rfl⟩ := Prod.mk.inj heq
    exact .inr ⟨l, es', rfl, hstep, rfl⟩

/-- The pipeline rests or takes its step. -/
theorem stepPipe_cases {l : Option PipeLabel} {pipe : Pipe}
    (h : s.stepPipe l = some (pipe, es)) :
    (l = none ∧ pipe = s.pipe ∧ es = []) ∨
      ∃ l' es', l = some l' ∧ pipeline.step s.pipe l' = some (pipe, es') ∧
        es = es'.map .pipe := by
  cases l with
  | none =>
    obtain ⟨rfl, rfl⟩ := Prod.mk.inj (Option.some.inj h)
    exact .inl ⟨rfl, rfl, rfl⟩
  | some l =>
    obtain ⟨⟨pipe', es'⟩, hstep, heq⟩ := Option.map_eq_some_iff.mp h
    obtain ⟨rfl, rfl⟩ := Prod.mk.inj heq
    exact .inr ⟨l, es', rfl, hstep, rfl⟩

variable (envs handler)

/-- **The arbiter with its monitor** is a part of the program. -/
def arbiterPart : Part (hnmgmtd envs handler) system where
  state := Mgmtd.sys
  label s l := (s.moves envs handler l).bind Moves.arbiter
  event := MgmtdEvent.arbiter?
  rests u l v es h hl := by
    obtain ⟨-, m, es₁, es₂, hm, harbiter, hpipe, -, rfl⟩ := moved_of_step h
    rw [hm, Option.bind_some] at hl
    rw [hl] at harbiter
    obtain ⟨hsys, rfl⟩ := Prod.mk.inj (Option.some.inj harbiter)
    refine ⟨hsys.symm, ?_⟩
    rcases stepPipe_cases hpipe with ⟨-, -, rfl⟩ | ⟨_, es', -, -, rfl⟩
    · rfl
    · exact (pipe_events es').2
  moves u l v es l' h hl := by
    obtain ⟨-, m, es₁, es₂, hm, harbiter, hpipe, -, rfl⟩ := moved_of_step h
    rw [hm, Option.bind_some] at hl
    rcases stepArbiter_cases harbiter with ⟨hnone, -, -⟩ | ⟨l₁, es', hsome, hstep, rfl⟩
    · cases hnone.symm.trans hl
    · obtain rfl := Option.some.inj (hsome.symm.trans hl)
      have hother : es₂.filterMap MgmtdEvent.arbiter? = [] := by
        rcases stepPipe_cases hpipe with ⟨-, -, rfl⟩ | ⟨_, es'', -, -, rfl⟩
        · rfl
        · exact (pipe_events es'').2
      rw [List.filterMap_append, hother, List.append_nil, (arbiter_events es').1]
      exact hstep

/-- **The pipeline of the requests** is a part of the program. -/
def pipelinePart : Part (hnmgmtd envs handler) pipeline where
  state := Mgmtd.pipe
  label s l := (s.moves envs handler l).bind Moves.pipe
  event := MgmtdEvent.pipe?
  rests u l v es h hl := by
    obtain ⟨-, m, es₁, es₂, hm, harbiter, hpipe, -, rfl⟩ := moved_of_step h
    rw [hm, Option.bind_some] at hl
    rw [hl] at hpipe
    obtain ⟨hsame, rfl⟩ := Prod.mk.inj (Option.some.inj hpipe)
    refine ⟨hsame.symm, ?_⟩
    rw [List.append_nil]
    rcases stepArbiter_cases harbiter with ⟨-, -, rfl⟩ | ⟨_, es', -, -, rfl⟩
    · rfl
    · exact (arbiter_events es').2
  moves u l v es l' h hl := by
    obtain ⟨-, m, es₁, es₂, hm, harbiter, hpipe, -, rfl⟩ := moved_of_step h
    rw [hm, Option.bind_some] at hl
    rcases stepPipe_cases hpipe with ⟨hnone, -, -⟩ | ⟨l₁, es', hsome, hstep, rfl⟩
    · cases hnone.symm.trans hl
    · obtain rfl := Option.some.inj (hsome.symm.trans hl)
      have hother : es₁.filterMap MgmtdEvent.pipe? = [] := by
        rcases stepArbiter_cases harbiter with ⟨-, -, rfl⟩ | ⟨_, es'', -, -, rfl⟩
        · rfl
        · exact (arbiter_events es'').2
      rw [List.filterMap_append, hother, List.nil_append, (pipe_events es').1]
      exact hstep

end

end HNodeMgmt.Daemon
