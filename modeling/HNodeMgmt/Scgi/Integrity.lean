/-
  HNodeMgmt.Scgi.Integrity — each response is the answer to its own request.

  Three threads work on the records of all the clients at once, and a response
  is written to a record by one thread, to be sent by another.  What is sent for
  a record was written to it by one step: the main loop's answer to the request
  of that record, or the sequencer's execution of the ticket that the main loop
  made of it.  And that request is what the parser makes of the bytes that have
  arrived on the connection of the record.

  Main results:
    * `handled_of_step` — what a step does to the content of the records.
    * `faithful_run` — the request of a record is what was read on its connection,
      its ticket was made of that request, and its response is the answer to it.
    * `response_of_own_request` — so it is for every response that is sent.
-/
import Mathlib.Tactic.Common
import HNodeMgmt.Scgi.Registered

namespace HNodeMgmt.Scgi

open Lib Arbiter

/-! ## §1. The property. -/

/-- What has arrived on a connection: the pieces of each event of its descriptor that
was handled as long as it had it. -/
def arrivals (rr : Nat) (ts : List (Trans Pipe PipeLabel PipeEvent)) : List (List (List UInt8)) :=
  ts.flatMap fun t =>
    match t.label with
    | .readable fd arrived =>
      if t.pre.descr.table[fd]? = some (.client rr) then [arrived] else []
    | _ => []

/-- A record with what waits on its socket, after an event. -/
def afterEvent (client : ClientRec) (arrived : List (List UInt8)) : ClientRec :=
  let (_, rr, sock) :=
    client.rr.recvData { client.sock with pieces := client.sock.pieces ++ arrived }
  { rr, sock }

/-- The request that is read of what has arrived. -/
def requestRead (fd rr : Nat) (ts : List (Trans Pipe PipeLabel PipeEvent)) : HNSCGIMsg :=
  ((arrivals rr ts).foldl afterEvent (freshClient fd)).rr.request

/-- The tickets that are under way. -/
def ticketsOf (s : Pipe) : List HNProxyTicket :=
  s.proxyRequests ++ s.seqHand.toList ++ s.proxyResponses

/-- The records whose response is on its way to the client. -/
def answeredPlaces (s : Pipe) : List Nat :=
  s.proxyResponses.map HNProxyTicket.rr ++ s.sinkResponses

section

variable [Platform]

/-- The step gave this response to the request of the record: the main loop, by
itself, or the sequencer, with the ticket that was made of the request. -/
inductive GaveAnswer (rr : Nat) (request : HNSCGIMsg) (response : Response)
    (t : Trans Pipe PipeLabel PipeEvent) : Prop
  | manager {connInfo : Option HNMDARAddress} {answer : LocalAnswer}
      (label : t.label = .dispatch connInfo answer) (hand : t.pre.mainHand = some rr)
      (get : ∃ client : ClientRec, t.pre.heap[rr]? = some client ∧ client.rr.request = request)
      (own : checkForProxyRequest rr request connInfo = some none)
      (gives : mapProxyRequest request answer = .handled response ∨
        mapProxyRequest request answer = .noHandler ∧
          response = Response.new.configAsNotFound)
  | device {o : ProxyOutcome} {ticket : HNProxyTicket} {connInfo : Option HNMDARAddress}
      (label : t.label = .execute o) (hand : t.pre.seqHand = some ticket)
      (get : ∃ client : ClientRec, t.pre.heap[rr]? = some client ∧ client.rr.request = request)
      (made : checkForProxyRequest rr request connInfo = some (some ticket))
      (gives : executeProxyRequest request o = .posted response)

/-! ## §2. What a step does to the content of the records. -/

/-- What a step does to the records, to the tickets and to those that are answered. -/
inductive Handled (s : Pipe) : PipeLabel → Pipe → Prop
  | accepted {fd : Nat} : Handled s (.accept fd) (s.accepted fd)
  /-- No record is touched and none is answered. -/
  | passed {l : PipeLabel} {s' : Pipe}
      (unread : ∀ fd arrived, l = .readable fd arrived →
        ∀ rr : Nat, s.find fd = some rr → s.heap[rr]? = none)
      (tables : SameTables s s') (tickets : ∀ ticket ∈ ticketsOf s', ticket ∈ ticketsOf s)
      (answered : ∀ r, r ∈ answeredPlaces s' ↔ r ∈ answeredPlaces s) : Handled s l s'
  | read {fd : Nat} {arrived : List (List UInt8)} {s' : Pipe} {rr : Nat} {client : ClientRec}
      (mapped : s.find fd = some rr) (get : s.heap[rr]? = some client)
      (tables : SameTables (s.setClient rr (afterEvent client arrived)) s')
      (tickets : ticketsOf s' = ticketsOf s) (answered : answeredPlaces s' = answeredPlaces s) :
      Handled s (.readable fd arrived) s'
  | ticketed {connInfo : Option HNMDARAddress} {answer : LocalAnswer} {s' : Pipe} {rr : Nat}
      {client : ClientRec} {ticket : HNProxyTicket} (hand : s.mainHand = some rr)
      (get : s.heap[rr]? = some client)
      (made : checkForProxyRequest rr client.rr.request connInfo = some (some ticket))
      (tables : SameTables s s')
      (tickets : ∀ other ∈ ticketsOf s', other ∈ ticketsOf s ∨ other = ticket)
      (answered : answeredPlaces s' = answeredPlaces s) :
      Handled s (.dispatch connInfo answer) s'
  | byManager {connInfo : Option HNMDARAddress} {answer : LocalAnswer} {s' : Pipe} {rr : Nat}
      {client : ClientRec} {response : Response} (hand : s.mainHand = some rr)
      (get : s.heap[rr]? = some client)
      (own : checkForProxyRequest rr client.rr.request connInfo = some none)
      (gives : mapProxyRequest client.rr.request answer = .handled response ∨
        mapProxyRequest client.rr.request answer = .noHandler ∧
          response = client.rr.response.configAsNotFound)
      (tables : SameTables (s.setClient rr (responded client response)) s')
      (tickets : ticketsOf s' = ticketsOf s)
      (answered : ∀ r, r ∈ answeredPlaces s' ↔ r ∈ answeredPlaces s ∨ r = rr) :
      Handled s (.dispatch connInfo answer) s'
  | byDevice {o : ProxyOutcome} {s' : Pipe} {ticket : HNProxyTicket} {client : ClientRec}
      {response : Response} (hand : s.seqHand = some ticket)
      (get : s.heap[ticket.rr]? = some client)
      (gives : executeProxyRequest client.rr.request o = .posted response)
      (tables : SameTables (s.setClient ticket.rr (responded client response)) s')
      (tickets : ∀ other ∈ ticketsOf s', other ∈ ticketsOf s)
      (answered : ∀ r, r ∈ answeredPlaces s' ↔ r ∈ answeredPlaces s ∨ r = ticket.rr) :
      Handled s (.execute o) s'
  | closed {fd : Nat} : Handled s (.hangup fd) (s.closeClientConnection fd).1
  | sent {s' : Pipe} {rr : Nat} {client : ClientRec} (head : s.sinkResponses.head? = some rr)
      (get : s.heap[rr]? = some client)
      (tables : SameTables (s.closeClientConnection client.rr.fd).1 s')
      (tickets : ticketsOf s' = ticketsOf s)
      (answered : ∀ r, r ≠ rr → (r ∈ answeredPlaces s' ↔ r ∈ answeredPlaces s)) :
      Handled s .respond s'

variable {s s' : Pipe} {l : PipeLabel} {es : List PipeEvent}

/-- Nothing happens but that a deleted record is read. -/
theorem Handled.crashes (unread : ∀ fd arrived, l = .readable fd arrived →
    ∀ rr : Nat, s.find fd = some rr → s.heap[rr]? = none)
    (hcrash : s' = { s with crashed := true }) : Handled s l s' := by
  subst hcrash
  exact .passed unread ⟨rfl, rfl, rfl⟩ (fun _ h => h) fun _ => Iff.rfl

theorem handled_readable {fd : Nat} {arrived : List (List UInt8)}
    (h : s.processClientRequest fd arrived = (s', es)) : Handled s (.readable fd arrived) s' := by
  unfold Pipe.processClientRequest at h
  cases hmap : s.find fd with
  | none =>
    rw [hmap] at h
    obtain ⟨rfl, -⟩ := Prod.mk.inj h
    refine .passed (fun fd' _ heq rr hrr => ?_) (SameTables.refl s) (fun _ h => h) fun _ => Iff.rfl
    obtain ⟨rfl, -⟩ := PipeLabel.readable.inj heq
    cases hmap.symm.trans hrr
  | some rr =>
    rw [hmap] at h
    cases hget : s.heap[rr]? with
    | none =>
      simp only [hget] at h
      obtain ⟨rfl, -⟩ := Prod.mk.inj h
      refine .crashes (fun fd' _ heq rr' hrr => ?_) rfl
      obtain ⟨rfl, -⟩ := PipeLabel.readable.inj heq
      obtain rfl := Option.some.inj (hmap.symm.trans hrr)
      exact hget
    | some client =>
      simp only [hget] at h
      -- whatever the call returns, the record is as it leaves it
      have hread : ∀ queue, Handled s (.readable fd arrived)
          { s.setClient rr (afterEvent client arrived) with scgiRequests := queue } :=
        fun _ => .read hmap hget ⟨rfl, rfl, rfl⟩ rfl rfl
      unfold afterEvent at hread
      generalize client.rr.recvData
        { client.sock with pieces := client.sock.pieces ++ arrived } = r at h hread
      obtain ⟨result, rr', sock⟩ := r
      cases result with
      | requestReady =>
        obtain ⟨rfl, -⟩ := Prod.mk.inj h
        exact hread _
      | _ =>
        obtain ⟨rfl, -⟩ := Prod.mk.inj h
        exact hread s.scgiRequests

theorem handled_respond (h : s.sendResponse = some (s', es)) : Handled s .respond s' := by
  unfold Pipe.sendResponse at h
  cases hq : s.sinkResponses with
  | nil =>
    rw [hq] at h
    cases h
  | cons rr rest =>
    cases hget : s.heap[rr]? with
    | none =>
      simp only [hq, hget] at h
      obtain ⟨rfl, -⟩ := Prod.mk.inj (Option.some.inj h)
      exact .crashes (fun _ _ heq => by cases heq) (by rw [← hq])
    | some client =>
      simp only [hq, hget] at h
      obtain ⟨rfl, -⟩ := Prod.mk.inj (Option.some.inj h)
      refine .sent (by rw [hq]; rfl) hget ⟨rfl, rfl, rfl⟩ rfl fun r hne => ?_
      simp [answeredPlaces, Pipe.closeClientConnection, hq, hne]

theorem handled_dispatch {connInfo : Option HNMDARAddress} {answer : LocalAnswer}
    (h : s.dispatchRequest connInfo answer = some s') :
    Handled s (.dispatch connInfo answer) s' := by
  -- an exception of the main loop: the record stays in the map and is answered by nobody
  have hdies : Handled s (.dispatch connInfo answer)
      { s with mainHand := none, mainAlive := false } :=
    .passed nofun ⟨rfl, rfl, rfl⟩ (fun _ h => h) fun _ => Iff.rfl
  unfold Pipe.dispatchRequest at h
  cases hhand : s.mainHand with
  | none =>
    rw [hhand] at h
    cases h
  | some rr =>
    cases hget : s.heap[rr]? with
    | none =>
      simp only [hhand, hget] at h
      obtain rfl := Option.some.inj h
      exact .crashes (fun _ _ heq => by cases heq) (by rw [← hhand])
    | some client =>
      simp only [hhand, hget] at h
      cases hcheck : checkForProxyRequest rr client.rr.request connInfo with
      | none =>
        rw [hcheck] at h
        obtain rfl := Option.some.inj h
        exact hdies
      | some ticket? =>
        rw [hcheck] at h
        cases ticket? with
        | some ticket =>
          obtain rfl := Option.some.inj h
          refine .ticketed hhand hget hcheck ⟨rfl, rfl, rfl⟩ (fun other hmem => ?_) rfl
          simp only [ticketsOf, List.mem_append, List.mem_singleton] at hmem ⊢
          tauto
        | none =>
          -- either way the record goes to the sink's queue; they differ in what stands in it
          have hgives : ∀ response, (mapProxyRequest client.rr.request answer = .handled response ∨
              mapProxyRequest client.rr.request answer = .noHandler ∧
                response = client.rr.response.configAsNotFound) →
              Handled s (.dispatch connInfo answer)
                { s.setResponse rr client response with
                  mainHand := none, sinkResponses := s.sinkResponses ++ [rr] } := by
            intro response hgives
            refine .byManager hhand hget hcheck hgives ⟨rfl, rfl, rfl⟩ rfl fun r => ?_
            simp [answeredPlaces, Pipe.setResponse, Pipe.setClient, or_assoc]
          cases hanswer : mapProxyRequest client.rr.request answer with
          | noHandler =>
            simp only [hanswer] at h
            obtain rfl := Option.some.inj h
            exact hgives _ (.inr ⟨hanswer, rfl⟩)
          | handled response =>
            simp only [hanswer] at h
            obtain rfl := Option.some.inj h
            exact hgives response (.inl hanswer)
          | raised =>
            simp only [hanswer] at h
            obtain rfl := Option.some.inj h
            exact hdies

theorem handled_execute {o : ProxyOutcome} (h : s.executeTicket o = some s') :
    Handled s (.execute o) s' := by
  unfold Pipe.executeTicket at h
  cases hhand : s.seqHand with
  | none =>
    rw [hhand] at h
    cases h
  | some ticket =>
    have hdropped : ∀ alive, Handled s (.execute o)
        { s with seqHand := none, seqAlive := alive } := by
      intro alive
      refine .passed nofun ⟨rfl, rfl, rfl⟩ (fun other hmem => ?_) fun _ => Iff.rfl
      simp only [ticketsOf, List.mem_append, Option.toList_none, List.not_mem_nil, or_false] at hmem
      simp only [ticketsOf, List.mem_append]
      tauto
    cases hget : s.heap[ticket.rr]? with
    | none =>
      simp only [hhand, hget] at h
      obtain rfl := Option.some.inj h
      exact .crashes (fun _ _ heq => by cases heq) (by rw [← hhand])
    | some client =>
      simp only [hhand, hget] at h
      cases hexec : executeProxyRequest client.rr.request o with
      | posted response =>
        rw [hexec] at h
        obtain rfl := Option.some.inj h
        refine .byDevice hhand hget hexec ⟨rfl, rfl, rfl⟩ (fun other hmem => ?_) fun r => ?_
        · simp only [ticketsOf, Pipe.setResponse, Pipe.setClient, Option.toList_none,
            List.append_nil, List.mem_append, List.mem_singleton] at hmem
          simp only [ticketsOf, hhand, Option.toList_some, List.mem_append, List.mem_singleton]
          tauto
        · simp only [answeredPlaces, Pipe.setResponse, Pipe.setClient, List.map_append,
            List.map_cons, List.map_nil, List.mem_append, List.mem_singleton]
          tauto
      | failed =>
        rw [hexec] at h
        obtain rfl := Option.some.inj h
        exact hdropped s.seqAlive
      | raised =>
        rw [hexec] at h
        obtain rfl := Option.some.inj h
        exact hdropped false

/-- **What a step does** to the content of the records. -/
theorem handled_of_step (h : pipeline.step s l = some (s', es)) : Handled s l s' := by
  have hstep : s.step l = some (s', es) := h
  unfold Pipe.step at hstep
  split at hstep
  next => cases hstep
  have hsilent : ∀ r : Option Pipe, r.map (fun s₁ => (s₁, ([] : List PipeEvent))) = some (s', es) →
      r = some s' := by
    intro r hr
    obtain ⟨s₁, rfl, heq⟩ := Option.map_eq_some_iff.mp hr
    obtain ⟨rfl, -⟩ := Prod.mk.inj heq
    rfl
  -- a record that moves from one queue to the next
  have hmoved : ∀ l s₁, (∀ fd arrived, l ≠ PipeLabel.readable fd arrived) → SameTables s s₁ →
      (∀ ticket, ticket ∈ ticketsOf s₁ ↔ ticket ∈ ticketsOf s) →
      (∀ r, r ∈ answeredPlaces s₁ ↔ r ∈ answeredPlaces s) → Handled s l s₁ := by
    intro l s₁ hother htables htickets hanswered
    exact .passed (fun fd arrived heq => absurd heq (hother fd arrived)) htables
      (fun ticket => (htickets ticket).mp) hanswered
  -- another thread's descriptor, or a buffer's
  have hdescr : ∀ d, s.stepDescr d = some (s', es) →
      (∀ fd, d ≠ .accept fd ∧ d ≠ .closeClientConnection fd) →
      (∀ fd arrived, l ≠ PipeLabel.readable fd arrived) → Handled s l s' := by
    intro d hd hneither hother
    obtain ⟨tables, -, descr, rfl⟩ := SameTables.stepDescr hd hneither
    exact hmoved _ _ hother tables (fun _ => Iff.rfl) fun _ => Iff.rfl
  cases l with
  | otherOpen fd =>
    exact hdescr _ hstep (fun _ => ⟨nofun, nofun⟩) fun _ _ heq => by cases heq
  | otherClose id =>
    exact hdescr _ hstep (fun _ => ⟨nofun, nofun⟩) fun _ _ heq => by cases heq
  | destroyOfilebuf =>
    exact hdescr _ hstep (fun _ => ⟨nofun, nofun⟩) fun _ _ heq => by cases heq
  | destroyIfilebuf =>
    exact hdescr _ hstep (fun _ => ⟨nofun, nofun⟩) fun _ _ heq => by cases heq
  | accept fd =>
    obtain ⟨-, heq⟩ := Option.ite_none_right_eq_some.mp hstep
    obtain ⟨rfl, -⟩ := Prod.mk.inj (Option.some.inj heq)
    exact .accepted
  | clientCloses conn =>
    obtain ⟨-, heq⟩ := Option.ite_none_right_eq_some.mp hstep
    obtain ⟨rfl, -⟩ := Prod.mk.inj (Option.some.inj heq)
    exact hmoved _ _ (fun _ _ heq => by cases heq) ⟨rfl, rfl, rfl⟩ (fun _ => Iff.rfl)
      fun _ => Iff.rfl
  | readable fd arrived =>
    obtain ⟨-, heq⟩ := Option.ite_none_right_eq_some.mp hstep
    exact handled_readable (Option.some.inj heq)
  | hangup fd =>
    obtain ⟨-, heq⟩ := Option.ite_none_right_eq_some.mp hstep
    obtain ⟨rfl, -⟩ := Prod.mk.inj (Option.some.inj heq)
    exact .closed
  | respond =>
    obtain ⟨-, heq⟩ := Option.ite_none_right_eq_some.mp hstep
    exact handled_respond heq
  | take =>
    have htake := hsilent _ hstep
    unfold Pipe.takeRequest at htake
    split at htake
    next =>
      obtain rfl := Option.some.inj htake
      exact hmoved _ _ (fun _ _ heq => by cases heq) ⟨rfl, rfl, rfl⟩ (fun _ => Iff.rfl)
        fun _ => Iff.rfl
    next => cases htake
  | dispatch connInfo answer => exact handled_dispatch (hsilent _ hstep)
  | forward =>
    have hforward := hsilent _ hstep
    unfold Pipe.forwardResponse at hforward
    split at hforward
    next ticket rest _ _ hq =>
      obtain rfl := Option.some.inj hforward
      refine .passed (fun _ _ heq => by cases heq) ⟨rfl, rfl, rfl⟩ (fun other hmem => ?_)
        fun r => ?_
      · simp only [ticketsOf, hq, List.mem_append, List.mem_cons] at hmem ⊢
        tauto
      · simp only [answeredPlaces, hq, List.map_cons, List.mem_append, List.mem_cons,
          List.not_mem_nil, or_false]
        tauto
    next => cases hforward
  | takeTicket =>
    have htake := hsilent _ hstep
    unfold Pipe.takeTicket at htake
    split at htake
    next ticket rest _ hhand hq =>
      obtain rfl := Option.some.inj htake
      refine hmoved _ _ (fun _ _ heq => by cases heq) ⟨rfl, rfl, rfl⟩ (fun other => ?_)
        fun _ => Iff.rfl
      simp only [ticketsOf, hhand, hq, List.mem_append, List.mem_cons, Option.toList_some,
        Option.toList_none, List.not_mem_nil, or_false]
      tauto
    next => cases htake
  | execute o => exact handled_execute (hsilent _ hstep)

/-! ## §3. Reading keeps the response. -/

end

namespace HNSCGIRR

theorem readNetStrLoop_response :
    ∀ (fuel : Nat) (rr : HNSCGIRR) (sock : Socket),
      (readNetStrLoop fuel rr sock).2.1.response = rr.response
  | 0, _, _ => rfl
  | fuel + 1, rr, sock => by
      rw [readNetStrLoop]
      split
      next => rfl
      next => rfl
      next =>
        split
        next => exact readNetStrLoop_response fuel rr _
        next =>
          split
          next => rfl
          next => rw [readNetStrLoop_response fuel]

theorem readRequestHeaders_response (rr : HNSCGIRR) (sock : Socket) :
    (rr.readRequestHeaders sock).2.1.response = rr.response := by
  unfold readRequestHeaders
  cases rr.rxState with
  | hdrNstrLen =>
    have hkeeps := readNetStrLoop_response (sock.bytes.length + 1) rr sock
    simp only [readNetStrStart]
    generalize readNetStrLoop (sock.bytes.length + 1) rr sock = r at hkeeps ⊢
    obtain ⟨result, rr', sock'⟩ := r
    cases result <;> exact hkeeps
  | hdrAccumulate =>
    have hkeeps : (rr.fillRequestHeaderBuffer sock).2.1.response = rr.response := by
      unfold fillRequestHeaderBuffer
      simp only
      split <;> rfl
    simp only
    generalize rr.fillRequestHeaderBuffer sock = r at hkeeps ⊢
    obtain ⟨result, rr', sock'⟩ := r
    cases result <;> exact hkeeps
  | hdrNstrComma =>
    have hkeeps : (rr.consumeNetStrComma sock).2.1.response = rr.response := by
      unfold consumeNetStrComma
      split <;> rfl
    simp only
    generalize rr.consumeNetStrComma sock = r at hkeeps ⊢
    obtain ⟨result, rr', sock'⟩ := r
    cases result <;> exact hkeeps
  | _ => rfl

theorem readHeadersLoop_response :
    ∀ (fuel : Nat) (rr : HNSCGIRR) (sock : Socket),
      (rr.readHeadersLoop fuel sock).2.1.response = rr.response
  | 0, _, _ => rfl
  | fuel + 1, rr, sock => by
      have hkeeps := readRequestHeaders_response rr sock
      rw [readHeadersLoop]
      generalize rr.readRequestHeaders sock = r at hkeeps ⊢
      obtain ⟨result, rr', sock'⟩ := r
      cases result with
      | parseContinue => exact (readHeadersLoop_response fuel rr' sock').trans hkeeps
      | _ => exact hkeeps

/-- **A call leaves the response alone.** -/
theorem recvData_response (rr : HNSCGIRR) (sock : Socket) :
    (rr.recvData sock).2.1.response = rr.response := by
  unfold recvData
  split
  next => rfl
  next =>
    have hkeeps := readHeadersLoop_response 5 rr sock
    generalize rr.readHeadersLoop 5 sock = r at hkeeps ⊢
    obtain ⟨result, rr', sock'⟩ := r
    cases result <;> exact hkeeps

end HNSCGIRR

theorem afterEvent_fd (client : ClientRec) (arrived : List (List UInt8)) :
    (afterEvent client arrived).rr.fd = client.rr.fd :=
  (client.rr.recvData_keeps _).1

theorem afterEvent_response (client : ClientRec) (arrived : List (List UInt8)) :
    (afterEvent client arrived).rr.response = client.rr.response :=
  client.rr.recvData_response _

/-- A record that is done is left alone; what arrives waits. -/
theorem afterEvent_done {client : ClientRec} (h : client.rr.rxState = .hdrDone)
    (arrived : List (List UInt8)) :
    afterEvent client arrived =
      { rr := client.rr
        sock := { client.sock with pieces := client.sock.pieces ++ arrived } } := by
  unfold afterEvent
  rw [(client.rr.recvData_keeps _).2.1 h]

/-- The record is as the parser leaves one that has no other threads at work on it,
but for the response when it is done. -/
structure ReadFrom (client alone : ClientRec) : Prop where
  sock : client.sock = alone.sock
  record : client.rr = alone.rr ∨ client.rr.rxState = .hdrDone ∧ alone.rr.rxState = .hdrDone ∧
    client.rr.request = alone.rr.request

theorem ReadFrom.request {client alone : ClientRec} (h : ReadFrom client alone) :
    client.rr.request = alone.rr.request := by
  rcases h.record with heq | ⟨-, -, heq⟩
  · rw [heq]
  · exact heq

theorem ReadFrom.afterEvent {client alone : ClientRec} (h : ReadFrom client alone)
    (arrived : List (List UInt8)) :
    ReadFrom (afterEvent client arrived) (afterEvent alone arrived) := by
  rcases h.record with heq | ⟨hdone, hdone', heq⟩
  · have hsame : client = alone := congr (congrArg ClientRec.mk heq) h.sock
    rw [hsame]
    exact ⟨rfl, .inl rfl⟩
  · rw [afterEvent_done hdone, afterEvent_done hdone', h.sock]
    exact ⟨rfl, .inr ⟨hdone, hdone', heq⟩⟩

theorem ReadFrom.responded {client alone : ClientRec} (h : ReadFrom client alone)
    (hdone : client.rr.rxState = .hdrDone) (response : Response) :
    ReadFrom (responded client response) alone := by
  refine ⟨h.sock, .inr ⟨hdone, ?_, h.request⟩⟩
  rcases h.record with heq | ⟨-, hdone', -⟩
  · rw [← heq]
    exact hdone
  · exact hdone'

/-! ## §4. One record. -/

section

variable {s s' : Pipe}

theorem placed_of_ticket {ticket : HNProxyTicket} (h : ticket ∈ ticketsOf s) :
    0 < places s ticket.rr := by
  have hcount : ∀ tickets : List HNProxyTicket, ticket ∈ tickets →
      0 < (tickets.map HNProxyTicket.rr).count ticket.rr := fun tickets hmem =>
    List.count_pos_iff.mpr (List.mem_map_of_mem hmem)
  simp only [ticketsOf, List.mem_append] at h
  unfold places
  rcases h with (hmem | hmem) | hmem
  · have := hcount _ hmem
    omega
  · have := hcount _ hmem
    omega
  · have := hcount _ hmem
    omega

theorem placed_of_answered {rr : Nat} (h : rr ∈ answeredPlaces s) : 0 < places s rr := by
  have hcount := List.count_pos_iff.mpr h
  unfold answeredPlaces at hcount
  rw [List.count_append] at hcount
  unfold places
  omega

/-- What is in a hand is not answered. -/
theorem not_answered (hplaced : Placed s) {rr : Nat}
    (h : s.mainHand = some rr ∨ ∃ ticket, s.seqHand = some ticket ∧ ticket.rr = rr) :
    0 < places s rr ∧ rr ∉ answeredPlaces s := by
  have hhand : 0 < s.mainHand.toList.count rr +
      (s.seqHand.toList.map HNProxyTicket.rr).count rr := by
    rcases h with hhand | ⟨ticket, hhand, rfl⟩
    · rw [hhand]
      simp
    · rw [hhand]
      simp
  have hsingle := hplaced.single rr
  refine ⟨by unfold places; omega, fun hmem => ?_⟩
  have hcount := List.count_pos_iff.mpr hmem
  unfold answeredPlaces at hcount
  rw [List.count_append] at hcount
  unfold places at hsingle
  omega

variable [Platform] {l : PipeLabel} {es : List PipeEvent}

/-- The event is one of another record's connection, or none that is read. -/
def Unread (s : Pipe) (l : PipeLabel) (rr : Nat) : Prop :=
  ∀ fd arrived, l = .readable fd arrived → s.find fd ≠ some rr

/-- Where a record comes from that is live after a step. -/
inductive Lived (s : Pipe) (l : PipeLabel) (s' : Pipe) (es : List PipeEvent) (rr : Nat) :
    ClientRec → Prop
  | made {fd : Nat} (new : rr = s.next) (unread : Unread s l rr)
      (unanswered : rr ∉ answeredPlaces s') : Lived s l s' es rr (freshClient fd)
  | kept {client : ClientRec} (get : s.heap[rr]? = some client) (unread : Unread s l rr)
      (same : rr ∈ answeredPlaces s' ↔ rr ∈ answeredPlaces s) : Lived s l s' es rr client
  | read {fd : Nat} {arrived : List (List UInt8)} {client : ClientRec}
      (label : l = .readable fd arrived) (mapped : s.find fd = some rr)
      (get : s.heap[rr]? = some client)
      (same : rr ∈ answeredPlaces s' ↔ rr ∈ answeredPlaces s) :
      Lived s l s' es rr (afterEvent client arrived)
  | answered {client : ClientRec} {response : Response} (get : s.heap[rr]? = some client)
      (unread : Unread s l rr) (placed : 0 < places s rr) (before : rr ∉ answeredPlaces s)
      (after : rr ∈ answeredPlaces s')
      (gives : client.rr.response = Response.new →
        (∀ ticket ∈ ticketsOf s, ticket.rr = rr → ∃ connInfo,
          checkForProxyRequest rr client.rr.request connInfo = some (some ticket)) →
        GaveAnswer rr client.rr.request response ⟨s, l, es, s'⟩) :
      Lived s l s' es rr (responded client response)

omit [Platform] in
theorem unread_of_other (rr : Nat) (h : ∀ fd arrived, l ≠ .readable fd arrived) :
    Unread s l rr := fun fd arrived heq => absurd heq (h fd arrived)

/-- **Every record that is live after a step** is new, or was read, or answered, or
is as it was. -/
theorem lived_of_step (hinv : PipeInv s) (hstep : pipeline.step s l = some (s', es)) {rr : Nat}
    {client : ClientRec} (hget : s'.heap[rr]? = some client) : Lived s l s' es rr client := by
  cases handled_of_step hstep with
  | @accepted fd =>
    have hother : Unread s (.accept fd) rr := unread_of_other rr fun _ _ heq => by cases heq
    rw [heap_accepted] at hget
    by_cases heq : s.next = rr
    · rw [if_pos heq] at hget
      obtain rfl := Option.some.inj hget
      refine .made heq.symm hother fun hmem => ?_
      have hknown := hinv.placed.known rr (placed_of_answered (s := s) hmem)
      omega
    · rw [if_neg heq] at hget
      exact .kept hget hother Iff.rfl
  | passed unread tables tickets answered =>
    rw [tables.heap] at hget
    refine .kept hget (fun fd arrived heq hrr => ?_) (answered rr)
    cases (unread fd arrived heq rr hrr).symm.trans hget
  | @read fd arrived _ rr₀ client₀ mapped get tables tickets answered =>
    rw [tables.heap, setClient_heap] at hget
    have hsame : rr ∈ answeredPlaces s' ↔ rr ∈ answeredPlaces s := by rw [answered]
    by_cases heq : rr₀ = rr
    · subst heq
      rw [if_pos rfl] at hget
      obtain rfl := Option.some.inj hget
      exact .read rfl mapped get hsame
    · rw [if_neg heq] at hget
      refine .kept hget (fun fd' arrived' hlabel hrr => ?_) hsame
      obtain ⟨rfl, -⟩ := PipeLabel.readable.inj hlabel
      exact heq (Option.some.inj (mapped.symm.trans hrr))
  | ticketed hand get made tables tickets answered =>
    rw [tables.heap] at hget
    exact .kept hget (unread_of_other rr fun _ _ heq => by cases heq) (by rw [answered])
  | @byManager connInfo answer _ rr₀ client₀ response hand get own gives tables tickets answered =>
    have hother : Unread s (.dispatch connInfo answer) rr :=
      unread_of_other rr fun _ _ heq => by cases heq
    rw [tables.heap, setClient_heap] at hget
    by_cases heq : rr₀ = rr
    · subst heq
      rw [if_pos rfl] at hget
      obtain rfl := Option.some.inj hget
      obtain ⟨hplaced, hbefore⟩ := not_answered hinv.placed (.inl hand)
      refine .answered get hother hplaced hbefore ((answered rr₀).mpr (.inr rfl)) ?_
      intro hnew _
      rw [hnew] at gives
      exact .manager rfl hand ⟨client₀, get, rfl⟩ own gives
    · rw [if_neg heq] at hget
      refine .kept hget hother ((answered rr).trans (or_iff_left (Ne.symm heq)))
  | @byDevice o _ ticket client₀ response hand get gives tables tickets answered =>
    have hother : Unread s (.execute o) rr := unread_of_other rr fun _ _ heq => by cases heq
    rw [tables.heap, setClient_heap] at hget
    by_cases heq : ticket.rr = rr
    · subst heq
      rw [if_pos rfl] at hget
      obtain rfl := Option.some.inj hget
      obtain ⟨hplaced, hbefore⟩ := not_answered hinv.placed (.inr ⟨ticket, hand, rfl⟩)
      refine .answered get hother hplaced hbefore ((answered ticket.rr).mpr (.inr rfl)) ?_
      intro _ hmade
      have hmem : ticket ∈ ticketsOf s := by simp [ticketsOf, hand]
      obtain ⟨connInfo, hmade⟩ := hmade ticket hmem rfl
      exact .device rfl hand ⟨client₀, get, rfl⟩ hmade gives
    · rw [if_neg heq] at hget
      exact .kept hget hother ((answered rr).trans (or_iff_left (Ne.symm heq)))
  | @closed fd =>
    exact .kept (heap_of_close s fd rr client hget)
      (unread_of_other rr fun _ _ heq => by cases heq) Iff.rfl
  | @sent _ rr₀ client₀ head get tables tickets answered =>
    rw [tables.heap] at hget
    -- the one that is sent is deleted
    have hne : rr ≠ rr₀ := by
      intro heq
      subst heq
      have hmem : rr ∈ answeredPlaces s :=
        List.mem_append_right _ (List.mem_of_mem_head? head)
      have hstored := hinv.tables.live rr client₀ get
        (hinv.placed.parsed rr client₀ (placed_of_answered hmem) get)
      rw [close_heap s hstored, if_pos rfl] at hget
      cases hget
    exact .kept (heap_of_close s _ rr client hget)
      (unread_of_other rr fun _ _ heq => by cases heq) (answered rr hne)

/-- A record that is in a place keeps its request. -/
theorem request_of_placed (hinv : PipeInv s) (hstep : pipeline.step s l = some (s', es)) {rr : Nat}
    (hplaced : 0 < places s rr) {client : ClientRec} (hget : s'.heap[rr]? = some client) :
    ∃ client₀ : ClientRec, s.heap[rr]? = some client₀ ∧
      client₀.rr.request = client.rr.request := by
  cases lived_of_step hinv hstep hget with
  | made new unread unanswered =>
    have hknown := hinv.placed.known _ hplaced
    omega
  | kept get unread same => exact ⟨client, get, rfl⟩
  | @read fd arrived client₀ label mapped get same =>
    -- its header is complete, so what arrives is left where it is
    refine ⟨client₀, get, ?_⟩
    rw [afterEvent_done (hinv.placed.parsed _ client₀ hplaced get)]
  | @answered client₀ response get unread placed before after gives => exact ⟨client₀, get, rfl⟩

/-- A ticket that is under way after a step was so before, or has just been made. -/
theorem tickets_of_step (hstep : pipeline.step s l = some (s', es)) {ticket : HNProxyTicket}
    (hmem : ticket ∈ ticketsOf s') : ticket ∈ ticketsOf s ∨ s'.heap = s.heap ∧
      ∃ connInfo answer client, l = .dispatch connInfo answer ∧
        s.mainHand = some ticket.rr ∧ s.heap[ticket.rr]? = some client ∧
        checkForProxyRequest ticket.rr client.rr.request connInfo = some (some ticket) := by
  cases handled_of_step hstep with
  | accepted => exact .inl hmem
  | passed unread tables tickets answered => exact .inl (tickets ticket hmem)
  | read mapped get tables tickets answered => exact .inl (tickets ▸ hmem)
  | ticketed hand get made tables tickets answered =>
    rcases tickets ticket hmem with hold | rfl
    · exact .inl hold
    · obtain rfl := ticket_rr made
      exact .inr ⟨tables.heap, _, _, _, rfl, hand, get, made⟩
  | byManager hand get own gives tables tickets answered => exact .inl (tickets ▸ hmem)
  | byDevice hand get gives tables tickets answered => exact .inl (tickets ticket hmem)
  | closed => exact .inl hmem
  | sent head get tables tickets answered => exact .inl (tickets ▸ hmem)

/-! ## §5. Whole runs. -/

omit [Platform] in
@[simp] theorem arrivals_append (rr : Nat) (ts us : List (Trans Pipe PipeLabel PipeEvent)) :
    arrivals rr (ts ++ us) = arrivals rr ts ++ arrivals rr us :=
  List.flatMap_append

omit [Platform] in
theorem arrivals_read (hright : TableRight s.descr) {rr fd : Nat} {arrived : List (List UInt8)}
    (mapped : s.find fd = some rr) :
    arrivals rr [⟨s, .readable fd arrived, es, s'⟩] = [arrived] := by
  unfold arrivals
  rw [List.flatMap_singleton]
  exact if_pos ((find_iff_owner hright).mp mapped)

omit [Platform] in
theorem arrivals_unread (hright : TableRight s.descr) {rr : Nat} (h : Unread s l rr) :
    arrivals rr [⟨s, l, es, s'⟩] = [] := by
  unfold arrivals
  rw [List.flatMap_singleton]
  cases l with
  | readable fd arrived =>
    exact if_neg fun howner => h fd arrived rfl ((find_iff_owner hright).mpr howner)
  | _ => rfl

/-- The numbers that are given out are not taken back. -/
theorem next_le_of_took (htook : Took s l s' es) : s.next ≤ s'.next := by
  cases htook with
  | accepted => exact Nat.le_succ _
  | moved other tables => exact Nat.le_of_eq tables.next.symm
  | updated other get sameFd parsed mapped tables => exact Nat.le_of_eq tables.next.symm
  | queued mapped get sameFd before after tables => exact Nat.le_of_eq tables.next.symm
  | dropped other rough tables => exact Nat.le_of_eq tables.next.symm
  | @closed fd => exact Nat.le_of_eq (close_next s fd).symm
  | sent head get tables => exact Nat.le_of_eq (tables.next.trans (close_next s _)).symm

/-- What the records hold, after the transitions so far. -/
structure Faithful (ts : List (Trans Pipe PipeLabel PipeEvent)) (s : Pipe) : Prop where
  inv : PipeInv s
  right : TableRight s.descr
  /-- Nothing has arrived for a record that is yet to be made. -/
  unread : ∀ rr, s.next ≤ rr → arrivals rr ts = []
  read : ∀ (rr : Nat) (client : ClientRec), s.heap[rr]? = some client →
    ReadFrom client ((arrivals rr ts).foldl afterEvent (freshClient client.rr.fd))
  ticketed : ∀ ticket ∈ ticketsOf s, ∀ client : ClientRec, s.heap[ticket.rr]? = some client →
    ∃ connInfo, checkForProxyRequest ticket.rr client.rr.request connInfo = some (some ticket)
  answered : ∀ (rr : Nat) (client : ClientRec), s.heap[rr]? = some client →
    if rr ∈ answeredPlaces s then
      ∃ t ∈ ts, GaveAnswer rr client.rr.request client.rr.response t
    else client.rr.response = Response.new

theorem faithful_init : Faithful [] Pipe.init := by
  refine ⟨pipeInv_init, TableRight.init, fun _ _ => rfl, fun rr client h => ?_, fun ticket h => ?_,
    fun rr client h => ?_⟩
  · simp [Pipe.init] at h
  · simp [ticketsOf, Pipe.init] at h
  · simp [Pipe.init] at h

section Step

variable {ts : List (Trans Pipe PipeLabel PipeEvent)} (h : Faithful ts s)
  (hstep : pipeline.step s l = some (s', es))

include h hstep

/-- A number that is not given out stays so, and no descriptor leads to it. -/
theorem Faithful.unread_step {rr : Nat} (hle : s'.next ≤ rr) :
    arrivals rr (ts ++ [⟨s, l, es, s'⟩]) = [] := by
  have hnext : s.next ≤ s'.next := next_le_of_took (took_of_step hstep)
  have hunread : Unread s l rr := by
    intro fd arrived _ hrr
    obtain ⟨client, hget, -⟩ := h.inv.tables.mapped fd rr hrr
    have hlt := h.inv.tables.fresh rr client hget
    omega
  rw [arrivals_append, h.unread rr (hnext.trans hle), arrivals_unread h.right hunread]
  rfl

/-- What was read. -/
theorem Faithful.read_step {rr : Nat} {client : ClientRec} (hget : s'.heap[rr]? = some client) :
    ReadFrom client ((arrivals rr (ts ++ [⟨s, l, es, s'⟩])).foldl afterEvent
      (freshClient client.rr.fd)) := by
  cases lived_of_step h.inv hstep hget with
  | made new unread unanswered =>
    rw [arrivals_append, arrivals_unread h.right unread, h.unread rr (Nat.le_of_eq new.symm)]
    exact ⟨rfl, .inl rfl⟩
  | kept get unread same =>
    rw [arrivals_append, arrivals_unread h.right unread, List.append_nil]
    exact h.read rr client get
  | @read fd arrived client₀ label mapped get same =>
    subst label
    rw [arrivals_append, arrivals_read h.right mapped, List.foldl_append, afterEvent_fd]
    exact (h.read rr client₀ get).afterEvent arrived
  | @answered client₀ response get unread placed before after gives =>
    rw [arrivals_append, arrivals_unread h.right unread, List.append_nil]
    exact (h.read rr client₀ get).responded (h.inv.placed.parsed rr client₀ placed get) response

/-- What tickets are made of. -/
theorem Faithful.ticketed_step {ticket : HNProxyTicket} (hmem : ticket ∈ ticketsOf s')
    {client : ClientRec} (hget : s'.heap[ticket.rr]? = some client) :
    ∃ connInfo, checkForProxyRequest ticket.rr client.rr.request connInfo =
      some (some ticket) := by
  rcases tickets_of_step hstep hmem with hold | ⟨hheap, connInfo, _, client₀, -, -, hget₀, hmade⟩
  · obtain ⟨client₀, hget₀, hsame⟩ :=
      request_of_placed h.inv hstep (placed_of_ticket hold) hget
    rw [← hsame]
    exact h.ticketed ticket hold client₀ hget₀
  · rw [hheap, hget₀] at hget
    obtain rfl := Option.some.inj hget
    exact ⟨connInfo, hmade⟩

/-- What responses are. -/
theorem Faithful.answered_step {rr : Nat} {client : ClientRec}
    (hget : s'.heap[rr]? = some client) :
    if rr ∈ answeredPlaces s' then
      ∃ t ∈ ts ++ [⟨s, l, es, s'⟩], GaveAnswer rr client.rr.request client.rr.response t
    else client.rr.response = Response.new := by
  -- an answer that was given stays in front of the new transition
  have hearlier : ∀ request response, (∃ t ∈ ts, GaveAnswer rr request response t) →
      ∃ t ∈ ts ++ [⟨s, l, es, s'⟩], GaveAnswer rr request response t := by
    intro request response hgave
    obtain ⟨t, ht, hgave⟩ := hgave
    exact ⟨t, List.mem_append_left _ ht, hgave⟩
  cases lived_of_step h.inv hstep hget with
  | made new unread unanswered =>
    rw [if_neg unanswered]
    rfl
  | kept get unread same =>
    have hold := h.answered rr client get
    by_cases hmem : rr ∈ answeredPlaces s
    · rw [if_pos hmem] at hold
      rw [if_pos (same.mpr hmem)]
      exact hearlier _ _ hold
    · rw [if_neg hmem] at hold
      rw [if_neg fun hmem' => hmem (same.mp hmem')]
      exact hold
  | @read fd arrived client₀ label mapped get same =>
    have hold := h.answered rr client₀ get
    by_cases hmem : rr ∈ answeredPlaces s
    · rw [if_pos hmem] at hold
      rw [if_pos (same.mpr hmem),
        afterEvent_done (h.inv.placed.parsed rr client₀ (placed_of_answered hmem) get)]
      exact hearlier _ _ hold
    · rw [if_neg hmem] at hold
      rw [if_neg fun hmem' => hmem (same.mp hmem'), afterEvent_response]
      exact hold
  | @answered client₀ response get unread placed before after gives =>
    rw [if_pos after]
    have hold := h.answered rr client₀ get
    rw [if_neg before] at hold
    refine ⟨_, List.mem_append_right _ List.mem_cons_self, gives hold fun ticket hmem heq => ?_⟩
    subst heq
    exact h.ticketed ticket hmem client₀ get

end Step

/-- **Along every run in which the buffers close nothing** the records hold what they
should. -/
theorem faithful_run {ts : List (Trans Pipe PipeLabel PipeEvent)}
    (hr : Run pipeline Pipe.init ts s) (hown : StepsMeet ownBuffers ts) : Faithful ts s := by
  induction hr with
  | nil => exact faithful_init
  | @snoc u v ts l es hr hstep ih =>
    obtain ⟨hown, hmeets⟩ := stepsMeet_snoc.mp hown
    have h := ih hown
    exact ⟨pipeInv_step u l v es h.inv hstep, tableRight_pipe_step h.right hmeets hstep,
      fun _ hle => h.unread_step hstep hle, fun _ _ hget => h.read_step hstep hget,
      fun _ hmem _ hget => h.ticketed_step hstep hmem hget,
      fun _ _ hget => h.answered_step hstep hget⟩

/-- A response that is sent is that of a live record, whose response is on its way. -/
theorem sent_live (hstep : pipeline.step s l = some (s', es)) {rr fd : Nat}
    {owner : Option DescrOwner} (hsent : PipeEvent.sent rr fd owner ∈ es) :
    ∃ client : ClientRec, s.heap[rr]? = some client ∧ client.rr.fd = fd ∧
      rr ∈ answeredPlaces s := by
  cases took_of_step hstep with
  | @sent _ rr₀ client head get tables less =>
    obtain ⟨rfl, rfl, -⟩ : rr = rr₀ ∧ fd = client.rr.fd ∧
        owner = s.descr.table[client.rr.fd]? := by simpa [Pipe.closeClientConnection] using hsent
    exact ⟨client, get, rfl, List.mem_append_right _ (List.mem_of_mem_head? head)⟩
  | queued => simp at hsent
  | moved => simp at hsent
  | closed => simp [Pipe.closeClientConnection] at hsent
  | _ => cases hsent

/-- **Each response is the answer to its own request.**  After every run, whatever
the order in which the threads, the kernel and the clients took their steps, in
which the buffers of a deleted record close nothing: when the sink sends the
response of a record to a descriptor, it is that of the record's connection, the
request of the record is what the parser reads of the bytes that arrived on this
connection, and one of the steps before gave this very response, with its content,
to this request. -/
theorem response_of_own_request (ts : List (Trans Pipe PipeLabel PipeEvent)) (s : Pipe)
    (hr : Run pipeline Pipe.init ts s) (hown : StepsMeet ownBuffers ts) (l : PipeLabel)
    (s' : Pipe) (es : List PipeEvent) (hstep : pipeline.step s l = some (s', es)) (rr fd : Nat)
    (owner : Option DescrOwner) (hsent : PipeEvent.sent rr fd owner ∈ es) :
    owner = some (.client rr) ∧
    ∃ client : ClientRec, s.heap[rr]? = some client ∧ client.rr.fd = fd ∧
      client.rr.request = requestRead fd rr ts ∧
      ∃ t ∈ ts, GaveAnswer rr client.rr.request client.rr.response t := by
  have hfaithful := faithful_run hr hown
  obtain ⟨client, hget, rfl, hmem⟩ := sent_live hstep hsent
  have hanswered := hfaithful.answered rr client hget
  rw [if_pos hmem] at hanswered
  exact ⟨sent_of_took hfaithful.inv hfaithful.right (took_of_step hstep) rr _ owner hsent,
    client, hget, rfl, (hfaithful.read rr client hget).request, hanswered⟩

end

/-! ### A request that is answered. -/

section Sample

open RefPlatform

/-- The run of a request up to the queue of the sink. -/
def answeredQueue : List PipeLabel :=
  daemonStarted ++ [.accept 5, .readable 5 [sampleRequest], .take, .dispatch none .noHandler]

/-- Its response is the answer to it. -/
theorem response_of_own_request_sample :
    ∃ ts s, Run pipeline Pipe.init ts s ∧ ∃ client : ClientRec, s.heap[0]? = some client ∧
      client.rr.request = requestRead 5 0 ts ∧
      ∃ t ∈ ts, GaveAnswer 0 client.rr.request client.rr.response t := by
  obtain ⟨ts, s, hr, hp⟩ := Machine.exists_run_of_exec (M := pipeline) (s := Pipe.init)
    (l := answeredQueue)
    (p := fun r => r.1.all (fun t => decide (ownBuffers t.pre t.label)) &&
      (pipeline.step r.2 .respond).any fun r => r.2.contains (.sent 0 5 (some (.client 0))))
    (by decide +kernel)
  obtain ⟨hown, hp⟩ := Bool.and_eq_true_iff.mp hp
  have howns : StepsMeet ownBuffers ts := fun t ht =>
    of_decide_eq_true (List.all_eq_true.mp hown t ht)
  cases hstep : pipeline.step s .respond with
  | none =>
    rw [hstep] at hp
    cases hp
  | some sent =>
    rw [hstep] at hp
    have hsent : PipeEvent.sent 0 5 (some (.client 0)) ∈ sent.2 := List.contains_iff_mem.mp hp
    obtain ⟨-, client, hget, -, hread, hgave⟩ :=
      response_of_own_request ts s hr howns .respond sent.1 sent.2 hstep 0 5 _ hsent
    exact ⟨ts, s, hr, client, hget, hread, hgave⟩

end Sample

end HNodeMgmt.Scgi
