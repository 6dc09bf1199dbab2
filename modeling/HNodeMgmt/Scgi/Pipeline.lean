/-
  HNodeMgmt.Scgi.Pipeline — the way of a request through three threads.

  The sink accepts connections, reads headers and writes responses.  The main
  loop takes the requests the sink has queued, answers them itself or makes a
  ticket of them for the proxy sequencer, and passes the tickets that come back
  on to the sink.  What goes through the four queues is pointers to the
  sink's records; the sink deletes a record when it closes its connection.

  Everything has an identity: the n-th connection the sink accepts, and the
  record it makes for it, have the number n.  The kernel's descriptor table is
  the one that all threads of the daemon share; it says whose a descriptor is,
  and a closed number may be given to a later connection or to another thread,
  also while the sink is deleting a record.  Using a record that has been
  deleted is the end of a run.

  Main results:
    * `descriptorsPart` — what the threads do to descriptors is a run of
      `descriptors`.
-/
import Mathlib.Tactic.Common
import HNodeMgmt.Lib.Parts
import HNodeMgmt.Arbiter.Types
import HNodeMgmt.Scgi.Descriptors
import HNodeMgmt.Scgi.Parser

namespace HNodeMgmt.Scgi

open Lib Arbiter

/-! ## §1. What the main loop does with a request. -/

/-- `HNProxyTicket`; `rr` is the pointer to the record. -/
structure HNProxyTicket where
  rr : Nat
  crc32ID : Str
  address : Str
  port : UInt16
  queryStr : Str
  proxyPath : Str
  deriving DecidableEq, Repr

def buildProxyPath (segments : List Str) : Str := segments.flatMap fun segment => 47 :: segment

/-- What becomes of a request the manager answers itself. -/
inductive LocalAnswer where
  | noHandler
  | handled (response : Response)
  | raised

section

variable [Platform]

/-- A ticket for a device, none for another request; the outer `none` is the
exception of `Poco::URI`.  `connInfo` is what `lookupConnectionInfo` finds. -/
def checkForProxyRequest (rr : Nat) (request : HNSCGIMsg) (connInfo : Option HNMDARAddress) :
    Option (Option HNProxyTicket) :=
  (Platform.parseURI request.uri).map fun uri =>
    match Platform.uriPathSegments uri with
    | root :: mgmt :: proxy :: crc32ID :: rest =>
      if root ≠ lit "hnode2" || mgmt ≠ lit "mgmt" || proxy ≠ lit "device-proxy" then none
      else connInfo.map fun dcInfo =>
        { rr, crc32ID, address := dcInfo.address, port := dcInfo.port
          queryStr := Platform.uriRawQuery uri, proxyPath := buildProxyPath rest }
    | _ => none

/-- The handler of a request, which parses the URI once more. -/
def mapProxyRequest (request : HNSCGIMsg) (answer : LocalAnswer) : LocalAnswer :=
  match Platform.parseURI request.uri with
  | none => .raised
  | some _ => answer

end

/-! ## §2. What the sequencer does with a ticket. -/

/-- How the calls of `executeProxyRequest` end: whether `init` and
`initiateRequest` return, what the last transfer returns, and the response
that `waitForResponse` has filled in.  `none` is an exception. -/
structure ProxyOutcome where
  initiated : Bool
  transferred : Option HNSSResult
  response : Option Response

inductive Executed where
  | posted (response : Response)
  | failed
  | raised

def executeProxyRequest (request : HNSCGIMsg) (o : ProxyOutcome) : Executed :=
  if o.initiated then
    let result := if request.getContentLength = 0 then some .msgComplete else o.transferred
    match result with
    | none => .raised
    | some .msgComplete =>
      match o.response with
      | none => .raised
      -- with content or without, the ticket is posted
      | some response => .posted response
    | some _ => .failed
  else .raised

/-! ## §3. The three threads. -/

/-- A record of the sink, and what waits on its socket. -/
structure ClientRec where
  rr : HNSCGIRR
  sock : Socket

/-- A record with its response. -/
def responded (client : ClientRec) (response : Response) : ClientRec :=
  { client with rr := { client.rr with response } }

/-- The record of a connection that nothing has been read of. -/
def freshClient (fd : Nat) : ClientRec :=
  { rr := HNSCGIRR.new fd, sock := { pieces := [], nonblocking := true } }

structure Pipe where
  /-- The kernel's table, `m_rrMap`, and where the sink is in a deletion. -/
  descr : Descriptors
  /-- The connections whose client has hung up. -/
  gone : List Nat
  /-- The records that are not deleted. -/
  heap : OrdMap Nat ClientRec
  scgiRequests : List Nat
  proxyRequests : List HNProxyTicket
  proxyResponses : List HNProxyTicket
  sinkResponses : List Nat
  /-- What the main loop is dispatching. -/
  mainHand : Option Nat
  /-- What the sequencer is executing. -/
  seqHand : Option HNProxyTicket
  /-- Whether the threads run; an exception ends one. -/
  mainAlive : Bool
  seqAlive : Bool
  /-- A deleted record has been used. -/
  crashed : Bool

inductive PipeLabel where
  -- any thread, with a descriptor of its own
  | otherOpen (fd : Nat)
  | otherClose (id : Nat)
  -- the kernel and the clients
  | accept (fd : Nat)
  | clientCloses (conn : Nat)
  -- the sink, the last two in `delete client`
  | readable (fd : Nat) (arrived : List (List UInt8))
  | hangup (fd : Nat)
  | respond
  | destroyOfilebuf
  | destroyIfilebuf
  -- the main loop
  | take
  | dispatch (connInfo : Option HNMDARAddress) (answer : LocalAnswer)
  | forward
  -- the sequencer
  | takeTicket
  | execute (o : ProxyOutcome)

/-- `sent`: the response for a record is written to a descriptor, which belongs
to somebody. -/
inductive PipeEvent where
  | queued (rr : Nat)
  | sent (rr : Nat) (fd : Nat) (owner : Option DescrOwner)
  | descr (e : DescrEvent)
  deriving DecidableEq, Repr

def PipeEvent.descr? : PipeEvent → Option DescrEvent
  | .descr e => some e
  | _ => none

namespace Pipe

/-- A sink that has just been started. -/
def init : Pipe :=
  { descr := .init, gone := [], heap := ∅, scgiRequests := []
    proxyRequests := [], proxyResponses := [], sinkResponses := [], mainHand := none
    seqHand := none, mainAlive := true, seqAlive := true, crashed := false }

/-- The number of the next connection. -/
abbrev next (s : Pipe) : Nat := s.descr.next

/-- `m_rrMap.find( fd )`. -/
def find (s : Pipe) (fd : Nat) : Option Nat := s.descr.rrMap[fd]?.map RRFiles.conn

/-- A step of a thread with a descriptor. -/
def stepDescr (s : Pipe) (l : DescrLabel) : Option (Pipe × List PipeEvent) :=
  (s.descr.step l).map fun r => ({ s with descr := r.1 }, r.2.map .descr)

/-- `processNewClientConnections`, for the descriptor `accept` returns. -/
def accepted (s : Pipe) (fd : Nat) : Pipe :=
  { s with descr := s.descr.accepted fd, heap := s.heap.insert s.next (freshClient fd) }

/-- A record in its new state. -/
def setClient (s : Pipe) (rr : Nat) (client : ClientRec) : Pipe :=
  { s with heap := s.heap.insert rr client }

/-- The response part of a record is filled in. -/
def setResponse (s : Pipe) (rr : Nat) (client : ClientRec) (response : Response) : Pipe :=
  s.setClient rr (responded client response)

/-- The record found under the descriptor is deleted, whichever it is.  Its two
buffers are destroyed by the next steps of the sink. -/
def closeClientConnection (s : Pipe) (fd : Nat) : Pipe × List PipeEvent :=
  ({ s with
      descr := (s.descr.closeClientConnection fd).1
      heap := match s.find fd with
        | none => s.heap
        | some rr => s.heap.erase rr },
    (s.descr.closeClientConnection fd).2.map .descr)

def processClientRequest (s : Pipe) (fd : Nat) (arrived : List (List UInt8)) :
    Pipe × List PipeEvent :=
  match s.find fd with
  | none => (s, [])
  | some rr =>
    match s.heap[rr]? with
    | none => ({ s with crashed := true }, [])
    | some client =>
      match client.rr.recvData { client.sock with pieces := client.sock.pieces ++ arrived } with
      | (.requestReady, rr', sock) =>
        ({ s.setClient rr { rr := rr', sock } with scgiRequests := s.scgiRequests ++ [rr] },
          [.queued rr])
      | (_, rr', sock) => (s.setClient rr { rr := rr', sock }, [])

/-- One turn of the response loop.  That the record is not in the map is only
reported. -/
def sendResponse (s : Pipe) : Option (Pipe × List PipeEvent) :=
  match s.sinkResponses with
  | [] => none
  | rr :: rest =>
    match s.heap[rr]? with
    | none => some ({ s with crashed := true }, [])
    | some client =>
      let (s', es) := { s with sinkResponses := rest }.closeClientConnection client.rr.fd
      some (s', .sent rr client.rr.fd s.descr.table[client.rr.fd]? :: es)

def takeRequest (s : Pipe) : Option Pipe :=
  match s.mainAlive, s.mainHand, s.scgiRequests with
  | true, none, rr :: rest => some { s with mainHand := some rr, scgiRequests := rest }
  | _, _, _ => none

/-- The rest of the dispatch of a request. -/
def dispatchRequest [Platform] (s : Pipe) (connInfo : Option HNMDARAddress)
    (answer : LocalAnswer) : Option Pipe :=
  match s.mainHand with
  | none => none
  | some rr =>
    match s.heap[rr]? with
    | none => some { s with crashed := true }
    | some client =>
      match checkForProxyRequest rr client.rr.request connInfo with
      | none => some { s with mainHand := none, mainAlive := false }
      | some (some ticket) =>
        some { s with mainHand := none, proxyRequests := s.proxyRequests ++ [ticket] }
      | some none =>
        match mapProxyRequest client.rr.request answer with
        | .noHandler =>
          some { s.setResponse rr client client.rr.response.configAsNotFound with
            mainHand := none, sinkResponses := s.sinkResponses ++ [rr] }
        | .handled response =>
          some { s.setResponse rr client response with
            mainHand := none, sinkResponses := s.sinkResponses ++ [rr] }
        | .raised => some { s with mainHand := none, mainAlive := false }

/-- A ticket that came back is deleted and its record passed on. -/
def forwardResponse (s : Pipe) : Option Pipe :=
  match s.mainAlive, s.mainHand, s.proxyResponses with
  | true, none, ticket :: rest =>
    some { s with proxyResponses := rest, sinkResponses := s.sinkResponses ++ [ticket.rr] }
  | _, _, _ => none

def takeTicket (s : Pipe) : Option Pipe :=
  match s.seqAlive, s.seqHand, s.proxyRequests with
  | true, none, ticket :: rest => some { s with seqHand := some ticket, proxyRequests := rest }
  | _, _, _ => none

def executeTicket (s : Pipe) (o : ProxyOutcome) : Option Pipe :=
  match s.seqHand with
  | none => none
  | some ticket =>
    match s.heap[ticket.rr]? with
    | none => some { s with crashed := true }
    | some client =>
      match executeProxyRequest client.rr.request o with
      | .posted response =>
        some { s.setResponse ticket.rr client response with
          seqHand := none, proxyResponses := s.proxyResponses ++ [ticket] }
      | .failed => some { s with seqHand := none }
      | .raised => some { s with seqHand := none, seqAlive := false }

/-- The step function.  The events of the sink's descriptors come in batches: by its
turn an event may be about a number that has been closed, or closed and given
out again, so nothing is asked of the table here. -/
def step [Platform] (s : Pipe) (l : PipeLabel) : Option (Pipe × List PipeEvent) :=
  if s.crashed then none
  else
    match l with
    | .otherOpen fd => s.stepDescr (.otherOpen fd)
    | .otherClose id => s.stepDescr (.otherClose id)
    | .accept fd =>
      if s.descr.sink = .loop ∧ s.descr.LowestFree fd then some (s.accepted fd, []) else none
    | .clientCloses conn =>
      if conn < s.next then some ({ s with gone := conn :: s.gone }, []) else none
    | .readable fd arrived =>
      if s.descr.sink = .loop then some (s.processClientRequest fd arrived) else none
    | .hangup fd => if s.descr.sink = .loop then some (s.closeClientConnection fd) else none
    | .respond => if s.descr.sink = .loop then s.sendResponse else none
    | .destroyOfilebuf => s.stepDescr .destroyOfilebuf
    | .destroyIfilebuf => s.stepDescr .destroyIfilebuf
    | .take => s.takeRequest.map fun s' => (s', [])
    | .dispatch connInfo answer => (s.dispatchRequest connInfo answer).map fun s' => (s', [])
    | .forward => s.forwardResponse.map fun s' => (s', [])
    | .takeTicket => s.takeTicket.map fun s' => (s', [])
    | .execute o => (s.executeTicket o).map fun s' => (s', [])

end Pipe

/-- The three threads, the kernel and the clients. -/
def pipeline [Platform] : Machine Pipe PipeLabel PipeEvent := { step := Pipe.step }

/-! ## §4. The descriptors. -/

/-- What the step is to the descriptors. -/
def descrLabel (s : Pipe) : PipeLabel → Option DescrLabel
  | .otherOpen fd => some (.otherOpen fd)
  | .otherClose id => some (.otherClose id)
  | .accept fd => some (.accept fd)
  | .hangup fd => some (.closeClientConnection fd)
  | .respond => (s.sinkResponses.head?.bind fun rr => s.heap[rr]?).map fun client =>
      .closeClientConnection client.rr.fd
  | .destroyOfilebuf => some .destroyOfilebuf
  | .destroyIfilebuf => some .destroyIfilebuf
  | _ => none

section

variable {s s' : Pipe} {es : List PipeEvent}

@[simp] theorem filterMap_descr (ds : List DescrEvent) :
    (ds.map PipeEvent.descr).filterMap PipeEvent.descr? = ds := by
  induction ds with
  | nil => rfl
  | cons d ds ih => exact congrArg (d :: ·) ih

theorem Pipe.stepDescr_moves {l : DescrLabel} (h : s.stepDescr l = some (s', es)) :
    descriptors.step s.descr l = some (s'.descr, es.filterMap PipeEvent.descr?) := by
  obtain ⟨⟨descr, ds⟩, hstep, heq⟩ := Option.map_eq_some_iff.mp h
  obtain ⟨rfl, rfl⟩ := Prod.mk.inj heq
  rw [filterMap_descr]
  exact hstep

/-- The close of a response is that of the descriptor machine. -/
theorem Pipe.sendResponse_moves (hidle : s.descr.sink = .loop)
    (h : s.sendResponse = some (s', es)) :
    (descrLabel s .respond = none → s'.descr = s.descr ∧ es.filterMap PipeEvent.descr? = []) ∧
      ∀ l', descrLabel s .respond = some l' →
        descriptors.step s.descr l' = some (s'.descr, es.filterMap PipeEvent.descr?) := by
  unfold Pipe.sendResponse at h
  cases hq : s.sinkResponses with
  | nil => simp [hq] at h
  | cons rr rest =>
    have hlabel : descrLabel s .respond = s.heap[rr]?.map fun client =>
        .closeClientConnection client.rr.fd := by
      unfold descrLabel
      rw [hq]
      rfl
    rw [hlabel]
    cases hget : s.heap[rr]? with
    | none =>
      simp only [hq, hget] at h
      obtain ⟨rfl, rfl⟩ := Prod.mk.inj (Option.some.inj h)
      exact ⟨fun _ => ⟨rfl, rfl⟩, nofun⟩
    | some client =>
      simp only [hq, hget] at h
      obtain ⟨rfl, rfl⟩ := Prod.mk.inj (Option.some.inj h)
      refine ⟨nofun, fun l' hl' => ?_⟩
      obtain rfl := Option.some.inj hl'
      have hevents : (PipeEvent.sent rr client.rr.fd s.descr.table[client.rr.fd]? ::
          (s.descr.closeClientConnection client.rr.fd).2.map .descr).filterMap PipeEvent.descr? =
          (s.descr.closeClientConnection client.rr.fd).2 := by
        rw [List.filterMap_cons_none rfl, filterMap_descr]
      exact (if_pos hidle).trans (congrArg (fun ds => some (_, ds)) hevents.symm)

/-- A step that leaves the table alone. -/
theorem Pipe.silent_rests {r : Option Pipe} (hr : ∀ s₁, r = some s₁ → s₁.descr = s.descr)
    (h : r.map (fun s₁ => (s₁, ([] : List PipeEvent))) = some (s', es)) :
    s'.descr = s.descr ∧ es.filterMap PipeEvent.descr? = [] := by
  obtain ⟨s₁, hs₁, heq⟩ := Option.map_eq_some_iff.mp h
  obtain ⟨rfl, rfl⟩ := Prod.mk.inj heq
  exact ⟨hr _ hs₁, rfl⟩

theorem Pipe.processClientRequest_descr (s : Pipe) (fd : Nat) (arrived : List (List UInt8)) :
    (s.processClientRequest fd arrived).1.descr = s.descr ∧
      (s.processClientRequest fd arrived).2.filterMap PipeEvent.descr? = [] := by
  unfold Pipe.processClientRequest
  split
  next => exact ⟨rfl, rfl⟩
  next =>
    split
    next => exact ⟨rfl, rfl⟩
    next =>
      split
      next => exact ⟨rfl, rfl⟩
      next => exact ⟨rfl, rfl⟩

variable [Platform]

theorem Pipe.dispatchRequest_descr {connInfo : Option HNMDARAddress} {answer : LocalAnswer}
    (h : s.dispatchRequest connInfo answer = some s') : s'.descr = s.descr := by
  unfold Pipe.dispatchRequest at h
  split at h
  next => cases h
  next =>
    split at h
    next => exact (Option.some.inj h) ▸ rfl
    next =>
      split at h
      next => exact (Option.some.inj h) ▸ rfl
      next => exact (Option.some.inj h) ▸ rfl
      next => split at h <;> exact (Option.some.inj h) ▸ rfl

omit [Platform] in
theorem Pipe.executeTicket_descr {o : ProxyOutcome} (h : s.executeTicket o = some s') :
    s'.descr = s.descr := by
  unfold Pipe.executeTicket at h
  split at h
  next => cases h
  next =>
    split at h
    next => exact (Option.some.inj h) ▸ rfl
    next => split at h <;> exact (Option.some.inj h) ▸ rfl

omit [Platform] in
/-- Taking from a queue is no matter of descriptors. -/
theorem Pipe.queue_descr (h : s.takeRequest = some s' ∨ s.forwardResponse = some s' ∨
    s.takeTicket = some s') : s'.descr = s.descr := by
  unfold Pipe.takeRequest Pipe.forwardResponse Pipe.takeTicket at h
  rcases h with h | h | h
  all_goals
    split at h
    next => exact (Option.some.inj h) ▸ rfl
    next => cases h

/-- **The threads' descriptors**: each step of the pipeline is one of `descriptors`, or
leaves them alone. -/
def descriptorsPart : Part pipeline descriptors where
  state := Pipe.descr
  label := descrLabel
  event := PipeEvent.descr?
  rests u l v es hstep hlabel := by
    have hstep' : u.step l = some (v, es) := hstep
    unfold Pipe.step at hstep'
    split at hstep'
    next => cases hstep'
    cases l with
    | clientCloses conn =>
      obtain ⟨-, heq⟩ := Option.ite_none_right_eq_some.mp hstep'
      obtain ⟨rfl, rfl⟩ := Prod.mk.inj (Option.some.inj heq)
      exact ⟨rfl, rfl⟩
    | readable fd arrived =>
      obtain ⟨-, heq⟩ := Option.ite_none_right_eq_some.mp hstep'
      have hquiet := u.processClientRequest_descr fd arrived
      rwa [Option.some.inj heq] at hquiet
    | respond =>
      obtain ⟨hidle, heq⟩ := Option.ite_none_right_eq_some.mp hstep'
      exact (Pipe.sendResponse_moves hidle heq).1 hlabel
    | take => exact Pipe.silent_rests (fun _ h => Pipe.queue_descr (.inl h)) hstep'
    | dispatch connInfo answer =>
      exact Pipe.silent_rests (fun _ h => Pipe.dispatchRequest_descr h) hstep'
    | forward => exact Pipe.silent_rests (fun _ h => Pipe.queue_descr (.inr (.inl h))) hstep'
    | takeTicket => exact Pipe.silent_rests (fun _ h => Pipe.queue_descr (.inr (.inr h))) hstep'
    | execute o => exact Pipe.silent_rests (fun _ h => Pipe.executeTicket_descr h) hstep'
    | _ => cases hlabel
  moves u l v es l' hstep hlabel := by
    have hstep' : u.step l = some (v, es) := hstep
    unfold Pipe.step at hstep'
    split at hstep'
    next => cases hstep'
    cases l with
    | otherOpen fd =>
      obtain rfl := Option.some.inj hlabel
      exact Pipe.stepDescr_moves hstep'
    | otherClose id =>
      obtain rfl := Option.some.inj hlabel
      exact Pipe.stepDescr_moves hstep'
    | destroyOfilebuf =>
      obtain rfl := Option.some.inj hlabel
      exact Pipe.stepDescr_moves hstep'
    | destroyIfilebuf =>
      obtain rfl := Option.some.inj hlabel
      exact Pipe.stepDescr_moves hstep'
    | accept fd =>
      obtain rfl := Option.some.inj hlabel
      obtain ⟨hmay, heq⟩ := Option.ite_none_right_eq_some.mp hstep'
      obtain ⟨rfl, rfl⟩ := Prod.mk.inj (Option.some.inj heq)
      exact if_pos hmay
    | hangup fd =>
      obtain rfl := Option.some.inj hlabel
      obtain ⟨hidle, heq⟩ := Option.ite_none_right_eq_some.mp hstep'
      obtain ⟨rfl, rfl⟩ := Prod.mk.inj (Option.some.inj heq)
      rw [filterMap_descr]
      exact if_pos hidle
    | respond =>
      obtain ⟨hidle, heq⟩ := Option.ite_none_right_eq_some.mp hstep'
      exact (Pipe.sendResponse_moves hidle heq).2 l' hlabel
    | _ => cases hlabel

end

end HNodeMgmt.Scgi
