/-
  HNodeMgmt.Scgi.Places — where a record is, and what a step does about it.

  A record is referenced from the queues, from the tickets in them, and by a
  thread that works on it.  Counting these places makes every step of the
  pipeline one of a few: it leaves the counts alone, it queues a record, it
  drops one, or it sends a response and closes a connection.

  Main results:
    * `took_of_step` — what a step does to the sink's tables and to the places.
    * `tables_of_took` — the record map and the records belong together along
      every run.
    * `placed_of_took` — a record is in one place at most.
-/
import Mathlib.Tactic.Common
import HNodeMgmt.Scgi.Pipeline

namespace HNodeMgmt.Scgi

open Lib Arbiter

/-! ## §1. Places. -/

/-- In how many places a record is: in the queues, or in the hands of a thread. -/
def places (s : Pipe) (rr : Nat) : Nat :=
  s.scgiRequests.count rr + s.mainHand.toList.count rr +
    (s.proxyRequests.map HNProxyTicket.rr).count rr +
    (s.seqHand.toList.map HNProxyTicket.rr).count rr +
    (s.proxyResponses.map HNProxyTicket.rr).count rr + s.sinkResponses.count rr

/-- One for the record, none for another. -/
def one (rr rr' : Nat) : Nat := if rr = rr' then 1 else 0

/-- The sink's tables are the same. -/
structure SameTables (s s' : Pipe) : Prop where
  next : s'.next = s.next
  rrMap : s'.descr.rrMap = s.descr.rrMap
  heap : s'.heap = s.heap

theorem SameTables.refl (s : Pipe) : SameTables s s := ⟨rfl, rfl, rfl⟩

theorem SameTables.find {s s' : Pipe} (h : SameTables s s') (fd : Nat) :
    s'.find fd = s.find fd := by
  unfold Pipe.find
  rw [h.rrMap]

/-- What a step with a descriptor does, is another thread's, or a buffer's that is
destroyed: the record map stays as it is. -/
theorem SameTables.stepDescr {s s' : Pipe} {l : DescrLabel} {es : List PipeEvent}
    (h : s.stepDescr l = some (s', es))
    (hother : ∀ fd, l ≠ .accept fd ∧ l ≠ .closeClientConnection fd) :
    SameTables s s' ∧ (∃ ds : List DescrEvent, es = ds.map .descr) ∧
      ∃ descr, s' = { s with descr } := by
  obtain ⟨⟨descr, ds⟩, hstep, heq⟩ := Option.map_eq_some_iff.mp h
  obtain ⟨rfl, rfl⟩ := Prod.mk.inj heq
  refine ⟨?_, ⟨ds, rfl⟩, descr, rfl⟩
  cases descrMoved_of_step hstep with
  | otherOpen => exact ⟨rfl, rfl, rfl⟩
  | otherClose => exact ⟨rfl, rfl, rfl⟩
  | @accept fd => exact absurd rfl (hother fd).1
  | @unknown fd => exact absurd rfl (hother fd).2
  | @close fd => exact absurd rfl (hother fd).2
  | destroyOut => exact ⟨rfl, rfl, rfl⟩
  | destroyIn => exact ⟨rfl, rfl, rfl⟩

section

variable [Platform]

/-! ## §2. What a step can do. -/

/-- The calls of `executeProxyRequest` all return, and the body was moved. -/
def ProxyOutcome.finishes (request : HNSCGIMsg) (o : ProxyOutcome) : Prop :=
  o.initiated = true ∧ (request.getContentLength = 0 ∨ o.transferred = some .msgComplete) ∧
    o.response ≠ none

omit [Platform] in
theorem executed_of_finishes {request : HNSCGIMsg} {o : ProxyOutcome} (h : o.finishes request) :
    ∃ response, executeProxyRequest request o = .posted response := by
  obtain ⟨hinit, hbody, hresponse⟩ := h
  cases hrsp : o.response with
  | none => exact absurd hrsp hresponse
  | some response =>
    refine ⟨response, ?_⟩
    by_cases hzero : request.getContentLength = 0
    · simp only [executeProxyRequest, hinit, hzero, if_true, hrsp]
    · have htransfer := hbody.resolve_left hzero
      simp only [executeProxyRequest, hinit, hzero, if_true, if_false, htransfer, hrsp]

/-- The record that is worked on is passed on: its URI is accepted, its handler
returns, a proxied request is carried out. -/
def handsOn (s : Pipe) : PipeLabel → Prop
  | .dispatch connInfo answer => ∀ (rr : Nat) (client : ClientRec), s.mainHand = some rr →
      s.heap[rr]? = some client → Platform.parseURI client.rr.request.uri ≠ none ∧
        (checkForProxyRequest rr client.rr.request connInfo = some none → answer ≠ .raised)
  | .execute o => ∀ (ticket : HNProxyTicket) (client : ClientRec), s.seqHand = some ticket →
      s.heap[ticket.rr]? = some client → o.finishes client.rr.request
  | _ => True

/-- What a step does to the tables and to the places. -/
inductive Took (s : Pipe) : PipeLabel → Pipe → List PipeEvent → Prop
  | accepted {fd : Nat} (idle : s.descr.sink = .loop) (free : s.descr.LowestFree fd) :
      Took s (.accept fd) (s.accepted fd) []
  /-- A record is moved on, or nothing happens to any. -/
  | moved {l : PipeLabel} {s' : Pipe} {ds : List DescrEvent} (other : ∀ fd, l ≠ .hangup fd)
      (tables : SameTables s s') (same : ∀ r, places s' r = places s r) :
      Took s l s' (ds.map .descr)
  /-- A record is changed. -/
  | updated {l : PipeLabel} {s' : Pipe} {rr : Nat} {client client' : ClientRec}
      (other : ∀ fd, l ≠ .hangup fd) (get : s.heap[rr]? = some client)
      (sameFd : client'.rr.fd = client.rr.fd)
      (parsed : client.rr.rxState = .hdrDone → client'.rr.rxState = .hdrDone)
      (mapped : (∃ fd, s.find fd = some rr) ∨ client'.rr.rxState = client.rr.rxState)
      (tables : SameTables (s.setClient rr client') s')
      (same : ∀ r, places s' r = places s r) : Took s l s' []
  | queued {fd : Nat} {arrived : List (List UInt8)} {s' : Pipe} {rr : Nat}
      {client client' : ClientRec} (mapped : s.find fd = some rr)
      (get : s.heap[rr]? = some client)
      (sameFd : client'.rr.fd = client.rr.fd) (before : client.rr.rxState ≠ .hdrDone)
      (after : client'.rr.rxState = .hdrDone)
      (tables : SameTables (s.setClient rr client') s')
      (more : ∀ r, places s' r = places s r + one rr r) :
      Took s (.readable fd arrived) s' [.queued rr]
  /-- A record is not passed on. -/
  | dropped {l : PipeLabel} {s' : Pipe} {rr : Nat} (other : ∀ fd, l ≠ .hangup fd)
      (rough : ¬ handsOn s l) (tables : SameTables s s')
      (less : ∀ r, places s r = places s' r + one rr r) : Took s l s' []
  | closed {fd : Nat} :
      Took s (.hangup fd) (s.closeClientConnection fd).1 (s.closeClientConnection fd).2
  | sent {s' : Pipe} {rr : Nat} {client : ClientRec} (head : s.sinkResponses.head? = some rr)
      (get : s.heap[rr]? = some client)
      (tables : SameTables (s.closeClientConnection client.rr.fd).1 s')
      (less : ∀ r, places s r = places s' r + one rr r) :
      Took s .respond s' (.sent rr client.rr.fd s.descr.table[client.rr.fd]? ::
        (s.closeClientConnection client.rr.fd).2)

variable {s s' : Pipe} {l : PipeLabel} {es : List PipeEvent}

/-- Nothing happens to the records, and nothing to descriptors. -/
theorem Took.rests (other : ∀ fd, l ≠ .hangup fd) (tables : SameTables s s')
    (same : ∀ r, places s' r = places s r) : Took s l s' [] :=
  have hmoved : Took s l s' (([] : List DescrEvent).map .descr) := .moved other tables same
  hmoved

omit [Platform] in
@[simp] theorem places_close (s : Pipe) (fd : Nat) :
    places (s.closeClientConnection fd).1 = places s := rfl

/-- A step with a descriptor leaves the records alone. -/
theorem took_stepDescr {d : DescrLabel} (h : s.stepDescr d = some (s', es))
    (hother : ∀ fd, d ≠ .accept fd ∧ d ≠ .closeClientConnection fd)
    (hl : ∀ fd, l ≠ .hangup fd) : Took s l s' es := by
  obtain ⟨tables, ⟨ds, rfl⟩, descr, rfl⟩ := SameTables.stepDescr h hother
  exact .moved hl tables fun _ => rfl

theorem took_readable {fd : Nat} {arrived : List (List UInt8)}
    (h : s.processClientRequest fd arrived = (s', es)) : Took s (.readable fd arrived) s' es := by
  unfold Pipe.processClientRequest at h
  cases hmap : s.find fd with
  | none =>
    rw [hmap] at h
    obtain ⟨rfl, rfl⟩ := Prod.mk.inj h
    exact .rests nofun (SameTables.refl s) fun _ => rfl
  | some rr =>
    rw [hmap] at h
    cases hget : s.heap[rr]? with
    | none =>
      simp only [hget] at h
      obtain ⟨rfl, rfl⟩ := Prod.mk.inj h
      exact .rests nofun ⟨rfl, rfl, rfl⟩ fun _ => rfl
    | some client =>
      simp only [hget] at h
      obtain ⟨hfd, hdone, hready⟩ := client.rr.recvData_keeps
        { client.sock with pieces := client.sock.pieces ++ arrived }
      generalize hr : client.rr.recvData
        { client.sock with pieces := client.sock.pieces ++ arrived } = r at h hfd hdone hready
      obtain ⟨result, rr', sock⟩ := r
      by_cases hresult : result = .requestReady
      · subst hresult
        obtain ⟨rfl, rfl⟩ := Prod.mk.inj h
        have hafter : (ClientRec.mk rr' sock).rr.rxState = .hdrDone := hready rfl
        refine .queued hmap hget hfd ?_ hafter ⟨rfl, rfl, rfl⟩ fun r => ?_
        · intro hbefore
          have hsame := hdone hbefore
          cases hsame
        · simp only [places, one, Pipe.setClient, List.count_append, List.count_singleton,
            beq_iff_eq]
          omega
      · have hquiet : (s.setClient rr { rr := rr', sock }, ([] : List PipeEvent)) = (s', es) := by
          cases result <;> first | exact absurd rfl hresult | exact h
        obtain ⟨rfl, rfl⟩ := Prod.mk.inj hquiet
        refine .updated nofun hget hfd (fun hbefore => ?_) (.inl ⟨fd, hmap⟩) (SameTables.refl _)
          fun _ => rfl
        have hsame := hdone hbefore
        cases hsame
        exact hbefore

theorem took_respond (h : s.sendResponse = some (s', es)) : Took s .respond s' es := by
  unfold Pipe.sendResponse at h
  cases hq : s.sinkResponses with
  | nil => simp [hq] at h
  | cons rr rest =>
    cases hget : s.heap[rr]? with
    | none =>
      simp only [hq, hget] at h
      obtain ⟨rfl, rfl⟩ := Prod.mk.inj (Option.some.inj h)
      exact .rests nofun ⟨rfl, rfl, rfl⟩ fun r => by simp only [places, hq]
    | some client =>
      simp only [hq, hget] at h
      obtain ⟨rfl, rfl⟩ := Prod.mk.inj (Option.some.inj h)
      refine .sent (by rw [hq]; rfl) hget ⟨rfl, rfl, rfl⟩ fun r => ?_
      rw [places_close]
      simp only [places, one, hq, List.count_cons, beq_iff_eq]
      omega

/-- A ticket is that of the record it was made for. -/
theorem ticket_rr {rr : Nat} {request : HNSCGIMsg} {connInfo : Option HNMDARAddress}
    {ticket : HNProxyTicket}
    (h : checkForProxyRequest rr request connInfo = some (some ticket)) : ticket.rr = rr := by
  obtain ⟨uri, -, huri⟩ := Option.map_eq_some_iff.mp h
  split at huri
  next =>
    split at huri
    next => cases huri
    next =>
      obtain ⟨dcInfo, -, rfl⟩ := Option.map_eq_some_iff.mp huri
      rfl
  next => cases huri

theorem took_dispatch {connInfo : Option HNMDARAddress} {answer : LocalAnswer}
    (h : s.dispatchRequest connInfo answer = some s') :
    Took s (.dispatch connInfo answer) s' [] := by
  unfold Pipe.dispatchRequest at h
  cases hhand : s.mainHand with
  | none => simp [hhand] at h
  | some rr =>
    cases hget : s.heap[rr]? with
    | none =>
      simp only [hhand, hget] at h
      obtain rfl := Option.some.inj h
      exact .rests nofun ⟨rfl, rfl, rfl⟩ fun r => by simp only [places, hhand]
    | some client =>
      simp only [hhand, hget] at h
      -- the record leaves the main loop's hand
      have hone : ∀ r, (some rr).toList.count r = one rr r := by
        intro r
        simp only [Option.toList_some, List.count_singleton, one, beq_iff_eq]
      have hanswered : ∀ (s₁ : Pipe) (response : Response), s₁ =
          { s.setResponse rr client response with
            mainHand := none, sinkResponses := s.sinkResponses ++ [rr] } →
          Took s (.dispatch connInfo answer) s₁ [] := by
        rintro s₁ response rfl
        have hfd : (responded client response).rr.fd = client.rr.fd := rfl
        refine .updated nofun hget hfd id (.inr rfl) ⟨rfl, rfl, rfl⟩ fun r => ?_
        simp only [places, Pipe.setResponse, Pipe.setClient, hhand, hone, List.count_append,
          List.count_singleton, Option.toList_none, List.count_nil, one, beq_iff_eq]
        omega
      have hdropped : ∀ s₁ : Pipe, s₁ = { s with mainHand := none, mainAlive := false } →
          ¬ handsOn s (.dispatch connInfo answer) → Took s (.dispatch connInfo answer) s₁ [] := by
        rintro s₁ rfl hrough
        have hless : ∀ r, places s r =
            places { s with mainHand := none, mainAlive := false } r + one rr r := by
          intro r
          simp only [places, hhand, hone, Option.toList_none, List.count_nil]
          omega
        exact .dropped nofun hrough ⟨rfl, rfl, rfl⟩ hless
      cases hcheck : checkForProxyRequest rr client.rr.request connInfo with
      | none =>
        rw [hcheck] at h
        refine hdropped s' (Option.some.inj h).symm fun hhandsOn => ?_
        exact (hhandsOn rr client hhand hget).1 (by simpa [checkForProxyRequest] using hcheck)
      | some ticket? =>
        rw [hcheck] at h
        cases ticket? with
        | some ticket =>
          obtain rfl := Option.some.inj h
          have hrr : ticket.rr = rr := ticket_rr hcheck
          refine .rests nofun ⟨rfl, rfl, rfl⟩ fun r => ?_
          simp only [places, hhand, hone, List.map_append, List.map_cons, List.map_nil,
            List.count_append, List.count_singleton, Option.toList_none, List.count_nil, hrr, one,
            beq_iff_eq]
          omega
        | none =>
          cases hanswer : mapProxyRequest client.rr.request answer with
          | noHandler =>
            simp only [hanswer] at h
            exact hanswered s' _ (Option.some.inj h).symm
          | handled response =>
            simp only [hanswer] at h
            exact hanswered s' response (Option.some.inj h).symm
          | raised =>
            simp only [hanswer] at h
            refine hdropped s' (Option.some.inj h).symm fun hhandsOn => ?_
            obtain ⟨huri, hlocal⟩ := hhandsOn rr client hhand hget
            refine hlocal hcheck ?_
            unfold mapProxyRequest at hanswer
            cases hparse : Platform.parseURI client.rr.request.uri with
            | none => exact absurd hparse huri
            | some uri => rwa [hparse] at hanswer

theorem took_execute {o : ProxyOutcome} (h : s.executeTicket o = some s') :
    Took s (.execute o) s' [] := by
  unfold Pipe.executeTicket at h
  cases hhand : s.seqHand with
  | none => simp [hhand] at h
  | some ticket =>
    cases hget : s.heap[ticket.rr]? with
    | none =>
      simp only [hhand, hget] at h
      obtain rfl := Option.some.inj h
      exact .rests nofun ⟨rfl, rfl, rfl⟩ fun r => by simp only [places, hhand]
    | some client =>
      simp only [hhand, hget] at h
      have hone : ∀ r, ((some ticket).toList.map HNProxyTicket.rr).count r = one ticket.rr r := by
        intro r
        simp only [Option.toList_some, List.map_cons, List.map_nil, List.count_singleton, one,
          beq_iff_eq]
      have hrough : (∀ response, executeProxyRequest client.rr.request o ≠ .posted response) →
          ¬ handsOn s (.execute o) := by
        intro hnot hhandsOn
        obtain ⟨response, hposted⟩ := executed_of_finishes (hhandsOn ticket client hhand hget)
        exact hnot response hposted
      have hless : ∀ (alive : Bool) (r : Nat), places s r =
          places { s with seqHand := none, seqAlive := alive } r + one ticket.rr r := by
        intro alive r
        simp only [places, hhand, hone, Option.toList_none, List.map_nil, List.count_nil]
        omega
      cases hexec : executeProxyRequest client.rr.request o with
      | posted response =>
        rw [hexec] at h
        obtain rfl := Option.some.inj h
        have hfd : (responded client response).rr.fd = client.rr.fd := rfl
        refine .updated nofun hget hfd id (.inr rfl) ⟨rfl, rfl, rfl⟩ fun r => ?_
        simp only [places, Pipe.setResponse, Pipe.setClient, hhand, hone, List.map_append,
          List.map_cons, List.map_nil, List.count_append, List.count_singleton, Option.toList_none,
          List.count_nil, one, beq_iff_eq]
        omega
      | failed =>
        rw [hexec] at h
        obtain rfl := Option.some.inj h
        exact .dropped nofun (hrough (by simp [hexec])) ⟨rfl, rfl, rfl⟩ (hless s.seqAlive)
      | raised =>
        rw [hexec] at h
        obtain rfl := Option.some.inj h
        exact .dropped nofun (hrough (by simp [hexec])) ⟨rfl, rfl, rfl⟩ (hless false)

theorem took_take (h : s.takeRequest = some s') : Took s .take s' [] := by
  unfold Pipe.takeRequest at h
  split at h
  next hhand hq =>
    obtain rfl := Option.some.inj h
    refine .rests nofun ⟨rfl, rfl, rfl⟩ fun r => ?_
    simp only [places, hhand, hq, List.count_cons, List.count_nil, Option.toList_some,
      Option.toList_none]
    omega
  next => cases h

theorem took_forward (h : s.forwardResponse = some s') : Took s .forward s' [] := by
  unfold Pipe.forwardResponse at h
  split at h
  next hhand hq =>
    obtain rfl := Option.some.inj h
    refine .rests nofun ⟨rfl, rfl, rfl⟩ fun r => ?_
    simp only [places, hq, List.map_cons, List.count_cons, List.count_append, List.count_nil]
    omega
  next => cases h

theorem took_takeTicket (h : s.takeTicket = some s') : Took s .takeTicket s' [] := by
  unfold Pipe.takeTicket at h
  split at h
  next hhand hq =>
    obtain rfl := Option.some.inj h
    refine .rests nofun ⟨rfl, rfl, rfl⟩ fun r => ?_
    simp only [places, hhand, hq, List.map_cons, List.map_nil, List.count_cons, List.count_nil,
      Option.toList_some, Option.toList_none]
    omega
  next => cases h

/-- **What a step does.** -/
theorem took_of_step (h : pipeline.step s l = some (s', es)) : Took s l s' es := by
  have hstep : s.step l = some (s', es) := h
  unfold Pipe.step at hstep
  split at hstep
  next => cases hstep
  have hsilent : ∀ r : Option Pipe, r.map (fun s₁ => (s₁, ([] : List PipeEvent))) = some (s', es) →
      r = some s' ∧ es = [] := by
    intro r hr
    obtain ⟨s₁, rfl, heq⟩ := Option.map_eq_some_iff.mp hr
    obtain ⟨rfl, rfl⟩ := Prod.mk.inj heq
    exact ⟨rfl, rfl⟩
  cases l with
  | otherOpen fd => exact took_stepDescr hstep (fun _ => ⟨nofun, nofun⟩) nofun
  | otherClose id => exact took_stepDescr hstep (fun _ => ⟨nofun, nofun⟩) nofun
  | destroyOfilebuf => exact took_stepDescr hstep (fun _ => ⟨nofun, nofun⟩) nofun
  | destroyIfilebuf => exact took_stepDescr hstep (fun _ => ⟨nofun, nofun⟩) nofun
  | accept fd =>
    obtain ⟨⟨hidle, hfree⟩, heq⟩ := Option.ite_none_right_eq_some.mp hstep
    obtain ⟨rfl, rfl⟩ := Prod.mk.inj (Option.some.inj heq)
    exact .accepted hidle hfree
  | clientCloses conn =>
    obtain ⟨-, heq⟩ := Option.ite_none_right_eq_some.mp hstep
    obtain ⟨rfl, rfl⟩ := Prod.mk.inj (Option.some.inj heq)
    exact .rests nofun ⟨rfl, rfl, rfl⟩ fun _ => rfl
  | readable fd arrived =>
    obtain ⟨-, heq⟩ := Option.ite_none_right_eq_some.mp hstep
    exact took_readable (Option.some.inj heq)
  | hangup fd =>
    obtain ⟨-, heq⟩ := Option.ite_none_right_eq_some.mp hstep
    obtain ⟨rfl, rfl⟩ := Prod.mk.inj (Option.some.inj heq)
    exact .closed
  | respond =>
    obtain ⟨-, heq⟩ := Option.ite_none_right_eq_some.mp hstep
    exact took_respond heq
  | take =>
    obtain ⟨htake, rfl⟩ := hsilent _ hstep
    exact took_take htake
  | dispatch connInfo answer =>
    obtain ⟨hdispatch, rfl⟩ := hsilent _ hstep
    exact took_dispatch hdispatch
  | forward =>
    obtain ⟨hforward, rfl⟩ := hsilent _ hstep
    exact took_forward hforward
  | takeTicket =>
    obtain ⟨htake, rfl⟩ := hsilent _ hstep
    exact took_takeTicket htake
  | execute o =>
    obtain ⟨hexec, rfl⟩ := hsilent _ hstep
    exact took_execute hexec

end

/-! ## §3. The tables of the sink. -/

/-- The record map and the records belong together: what is stored is live and has the
descriptor it is stored under, and a record whose header has been read is stored. -/
structure Tables (s : Pipe) : Prop where
  mapped : ∀ fd rr : Nat, s.find fd = some rr →
    ∃ client : ClientRec, s.heap[rr]? = some client ∧ client.rr.fd = fd
  live : ∀ (rr : Nat) (client : ClientRec), s.heap[rr]? = some client →
    client.rr.rxState = .hdrDone → s.find client.rr.fd = some rr
  fresh : ∀ (rr : Nat) (client : ClientRec), s.heap[rr]? = some client → rr < s.next

variable {s s' : Pipe}

theorem Tables.of_same (h : Tables s) (hsame : SameTables s s') : Tables s' := by
  refine ⟨?_, ?_, ?_⟩
  · intro fd rr hfind
    rw [hsame.find] at hfind
    rw [hsame.heap]
    exact h.mapped fd rr hfind
  · intro rr client hget hdone
    rw [hsame.heap] at hget
    rw [hsame.find]
    exact h.live rr client hget hdone
  · rw [hsame.heap, hsame.next]
    exact h.fresh

/-- A record that has a number stays where it is; a new one is stored when its number
has none. -/
theorem find_accepted (s : Pipe) (fd fd' : Nat) : (s.accepted fd).find fd' =
    if fd = fd' ∧ fd ∉ s.descr.rrMap then some s.next else s.find fd' := by
  show (s.descr.rrMap.insertIfNew fd (.new s.next fd))[fd']?.map RRFiles.conn = _
  rw [OrdMap.get_insertIfNew]
  split
  next => rfl
  next => rfl

theorem heap_accepted (s : Pipe) (fd rr : Nat) : (s.accepted fd).heap[rr]? =
    if s.next = rr then some (freshClient fd) else s.heap[rr]? :=
  OrdMap.get_insert s.heap s.next rr _

theorem Tables.accepted (h : Tables s) (fd : Nat) : Tables (s.accepted fd) := by
  have hold : ∀ (rr : Nat) (client : ClientRec), s.heap[rr]? = some client → s.next ≠ rr := by
    intro rr client hget heq
    have hlt := h.fresh rr client hget
    omega
  refine ⟨?_, ?_, ?_⟩
  · intro fd' rr hfind
    rw [find_accepted] at hfind
    rw [heap_accepted]
    by_cases heq : fd = fd' ∧ fd ∉ s.descr.rrMap
    · rw [if_pos heq] at hfind
      exact ⟨freshClient fd, if_pos (Option.some.inj hfind), heq.1⟩
    · rw [if_neg heq] at hfind
      obtain ⟨client, hget, hclient⟩ := h.mapped fd' rr hfind
      exact ⟨client, by rw [if_neg (hold rr client hget), hget], hclient⟩
  · intro rr client hget hdone
    rw [heap_accepted] at hget
    by_cases heq : s.next = rr
    · -- nothing has been read of the new one
      rw [if_pos heq] at hget
      obtain rfl := Option.some.inj hget
      cases hdone
    · rw [if_neg heq] at hget
      have hfind := h.live rr client hget hdone
      rw [find_accepted, if_neg, hfind]
      rintro ⟨rfl, hnew⟩
      rw [Pipe.find, (OrdMap.not_mem_iff_get _ _).mp hnew] at hfind
      cases hfind
  · intro rr client hget
    rw [heap_accepted] at hget
    show rr < s.next + 1
    by_cases heq : s.next = rr
    · omega
    · rw [if_neg heq] at hget
      have hlt := h.fresh rr client hget
      omega

theorem setClient_heap (s : Pipe) (rr : Nat) (client : ClientRec) (rr' : Nat) :
    (s.setClient rr client).heap[rr']? = if rr = rr' then some client else s.heap[rr']? :=
  OrdMap.get_insert s.heap rr rr' client

/-- A record that is stored may be changed, and one whose header stays as far read as
it is. -/
theorem Tables.setClient (h : Tables s) {rr : Nat} {client client' : ClientRec}
    (hget : s.heap[rr]? = some client) (hfd : client'.rr.fd = client.rr.fd)
    (hmapped : (∃ fd, s.find fd = some rr) ∨ client'.rr.rxState = client.rr.rxState) :
    Tables (s.setClient rr client') := by
  refine ⟨?_, ?_, ?_⟩
  · intro fd rr' hfind
    obtain ⟨client₀, hget₀, hclient₀⟩ := h.mapped fd rr' hfind
    rw [setClient_heap]
    by_cases heq : rr = rr'
    · subst heq
      obtain rfl := Option.some.inj (hget.symm.trans hget₀)
      exact ⟨client', if_pos rfl, hfd.trans hclient₀⟩
    · exact ⟨client₀, by rw [if_neg heq, hget₀], hclient₀⟩
  · intro rr' client₁ hget₁ hdone
    rw [setClient_heap] at hget₁
    by_cases heq : rr = rr'
    · subst heq
      rw [if_pos rfl] at hget₁
      obtain rfl := Option.some.inj hget₁
      show s.find client'.rr.fd = some rr
      rw [hfd]
      rcases hmapped with ⟨fd, hfind⟩ | hsame
      · obtain ⟨client₀, hget₀, rfl⟩ := h.mapped fd rr hfind
        obtain rfl := Option.some.inj (hget.symm.trans hget₀)
        exact hfind
      · exact h.live rr client hget (hsame ▸ hdone)
    · rw [if_neg heq] at hget₁
      exact h.live rr' client₁ hget₁ hdone
  · intro rr' client₁ hget₁
    rw [setClient_heap] at hget₁
    by_cases heq : rr = rr'
    · exact heq ▸ h.fresh rr client hget
    · rw [if_neg heq] at hget₁
      exact h.fresh rr' client₁ hget₁

/-- A connection is closed: its record is the one that is deleted. -/
theorem close_heap (s : Pipe) {fd rr : Nat} (hfind : s.find fd = some rr) (rr' : Nat) :
    (s.closeClientConnection fd).1.heap[rr']? = if rr = rr' then none else s.heap[rr']? := by
  unfold Pipe.closeClientConnection
  rw [hfind]
  exact OrdMap.get_erase s.heap rr rr'

/-- Nothing is stored under the number. -/
theorem close_heap_none (s : Pipe) {fd : Nat} (hfind : s.find fd = none) :
    (s.closeClientConnection fd).1.heap = s.heap := by
  unfold Pipe.closeClientConnection
  rw [hfind]

theorem close_next (s : Pipe) (fd : Nat) : (s.closeClientConnection fd).1.next = s.next := by
  show (s.descr.closeClientConnection fd).1.next = _
  unfold Descriptors.closeClientConnection
  split <;> rfl

theorem close_find (s : Pipe) (fd fd' : Nat) : (s.closeClientConnection fd).1.find fd' =
    if fd = fd' then none else s.find fd' := by
  show (s.descr.closeClientConnection fd).1.rrMap[fd']?.map RRFiles.conn = _
  unfold Descriptors.closeClientConnection
  cases hget : s.descr.rrMap[fd]? with
  | none =>
    show s.descr.rrMap[fd']?.map RRFiles.conn = _
    split
    next heq => rw [← heq, hget, Option.map_none]
    next => rfl
  | some client =>
    show (s.descr.rrMap.erase fd)[fd']?.map RRFiles.conn = _
    rw [OrdMap.get_erase]
    split
    next => rfl
    next => rfl

theorem Tables.close (h : Tables s) (fd : Nat) : Tables (s.closeClientConnection fd).1 := by
  cases hfind : s.find fd with
  | none =>
    have hsame : ∀ fd', (s.closeClientConnection fd).1.find fd' = s.find fd' := by
      intro fd'
      rw [close_find]
      split
      next heq => rw [← heq, hfind]
      next => rfl
    refine ⟨fun fd' rr' hfind' => ?_, fun rr' client' hget' hdone => ?_, ?_⟩
    · rw [hsame] at hfind'
      rw [close_heap_none s hfind]
      exact h.mapped fd' rr' hfind'
    · rw [close_heap_none s hfind] at hget'
      rw [hsame]
      exact h.live rr' client' hget' hdone
    · rw [close_heap_none s hfind, close_next]
      exact h.fresh
  | some rr =>
    obtain ⟨client, hget, hclient⟩ := h.mapped fd rr hfind
    have hheap := close_heap s hfind
    refine ⟨?_, ?_, ?_⟩
    · intro fd' rr' hfind'
      rw [close_find] at hfind'
      by_cases heq : fd = fd'
      · rw [if_pos heq] at hfind'
        cases hfind'
      rw [if_neg heq] at hfind'
      obtain ⟨client', hget', hclient'⟩ := h.mapped fd' rr' hfind'
      -- one record has one descriptor
      have hne : rr ≠ rr' := by
        rintro rfl
        obtain rfl := Option.some.inj (hget.symm.trans hget')
        exact heq (hclient.symm.trans hclient')
      exact ⟨client', by rw [hheap, if_neg hne, hget'], hclient'⟩
    · intro rr' client' hget' hdone
      rw [hheap] at hget'
      by_cases heq : rr = rr'
      · rw [if_pos heq] at hget'
        cases hget'
      rw [if_neg heq] at hget'
      have hlive := h.live rr' client' hget' hdone
      have hne : fd ≠ client'.rr.fd := by
        rintro rfl
        exact heq (Option.some.inj (hfind.symm.trans hlive))
      rw [close_find, if_neg hne, hlive]
    · intro rr' client' hget'
      rw [hheap] at hget'
      by_cases heq : rr = rr'
      · rw [if_pos heq] at hget'
        cases hget'
      rw [if_neg heq] at hget'
      rw [close_next]
      exact h.fresh rr' client' hget'

/-! ## §4. One place at most. -/

/-- A record is in one place at most, and has been read to the end of its
header if it is anywhere. -/
structure Placed (s : Pipe) : Prop where
  single : ∀ rr, places s rr ≤ 1
  known : ∀ rr, 0 < places s rr → rr < s.next
  parsed : ∀ (rr : Nat) (client : ClientRec), 0 < places s rr → s.heap[rr]? = some client →
    client.rr.rxState = .hdrDone

/-- What holds of the pipeline along every run. -/
structure PipeInv (s : Pipe) : Prop where
  tables : Tables s
  placed : Placed s

theorem pipeInv_init : PipeInv Pipe.init := by
  refine ⟨⟨?_, ?_, ?_⟩, ⟨?_, ?_, ?_⟩⟩
  · intro fd rr h
    simp [Pipe.find, Pipe.init, Descriptors.init] at h
  · intro rr client h
    simp [Pipe.init] at h
  · intro rr client h
    simp [Pipe.init] at h
  · intro rr
    exact Nat.zero_le 1
  · intro rr h
    exact absurd h (Nat.lt_irrefl 0)
  · intro rr client h
    exact absurd h (Nat.lt_irrefl 0)

/-- Fewer places, and no record that was not there. -/
theorem Placed.of_le (h : Placed s) (hnext : s.next ≤ s'.next)
    (hle : ∀ rr, places s' rr ≤ places s rr)
    (hheap : ∀ (rr : Nat) (client' : ClientRec), rr < s.next → s'.heap[rr]? = some client' →
      ∃ client : ClientRec, s.heap[rr]? = some client ∧
        (client.rr.rxState = .hdrDone → client'.rr.rxState = .hdrDone)) : Placed s' := by
  refine ⟨fun rr => (hle rr).trans (h.single rr), ?_, ?_⟩
  · intro rr hpos
    exact lt_of_lt_of_le (h.known rr (lt_of_lt_of_le hpos (hle rr))) hnext
  · intro rr client' hpos hget
    have hpos' : 0 < places s rr := lt_of_lt_of_le hpos (hle rr)
    obtain ⟨client, hclient, hdone⟩ := hheap rr client' (h.known rr hpos') hget
    exact hdone (h.parsed rr client hpos' hclient)

/-- What a closed connection leaves of the records. -/
theorem heap_of_close (s : Pipe) (fd rr : Nat) (client : ClientRec)
    (h : (s.closeClientConnection fd).1.heap[rr]? = some client) : s.heap[rr]? = some client := by
  cases hfind : s.find fd with
  | none => rwa [close_heap_none s hfind] at h
  | some rr₀ =>
    rw [close_heap s hfind] at h
    split at h
    next => cases h
    next => exact h

section

variable [Platform] {l : PipeLabel} {es : List PipeEvent}

theorem tables_of_took (h : Tables s) (htook : Took s l s' es) : Tables s' := by
  cases htook with
  | accepted => exact h.accepted _
  | moved other tables => exact h.of_same tables
  | updated other get sameFd parsed mapped tables =>
    exact (h.setClient get sameFd mapped).of_same tables
  | queued mapped get sameFd before after tables =>
    exact (h.setClient get sameFd (.inl ⟨_, mapped⟩)).of_same tables
  | dropped other rough tables => exact h.of_same tables
  | closed => exact h.close _
  | sent head get tables => exact (h.close _).of_same tables

theorem placed_of_took (hinv : PipeInv s) (htook : Took s l s' es) : Placed s' := by
  obtain ⟨htables, hplaced⟩ := hinv
  cases htook with
  | @accepted fd idle free =>
    refine hplaced.of_le (Nat.le_succ _) (fun rr => le_refl _) fun rr client' hlt hget => ?_
    rw [heap_accepted, if_neg (by omega)] at hget
    exact ⟨client', hget, id⟩
  | moved other tables same =>
    refine hplaced.of_le (le_of_eq tables.next.symm) (fun rr => le_of_eq (same rr)) ?_
    intro rr client' _ hget
    rw [tables.heap] at hget
    exact ⟨client', hget, id⟩
  | @updated _ _ rr₀ client client₁ other get sameFd parsed mapped tables same =>
    refine hplaced.of_le (le_of_eq tables.next.symm) (fun rr => le_of_eq (same rr)) ?_
    intro rr client' _ hget
    rw [tables.heap, setClient_heap] at hget
    by_cases heq : rr₀ = rr
    · rw [if_pos heq] at hget
      obtain rfl := Option.some.inj hget
      exact ⟨client, heq ▸ get, parsed⟩
    · rw [if_neg heq] at hget
      exact ⟨client', hget, id⟩
  | @queued fd arrived _ rr₀ client client₁ mapped get sameFd before after tables more =>
    -- it is nowhere yet: its header was not complete
    have hzero : places s rr₀ = 0 := by
      by_contra hne
      exact before (hplaced.parsed rr₀ client (by omega) get)
    have hother : ∀ rr, rr₀ ≠ rr → places s' rr = places s rr := by
      intro rr hne
      have hmore := more rr
      rwa [one, if_neg hne] at hmore
    refine ⟨fun rr => ?_, fun rr hpos => ?_, fun rr client' hpos hget => ?_⟩
    · by_cases heq : rr₀ = rr
      · subst heq
        have hmore := more rr₀
        rw [one, if_pos rfl, hzero] at hmore
        omega
      · rw [hother rr heq]
        exact hplaced.single rr
    · rw [tables.next]
      by_cases heq : rr₀ = rr
      · exact heq ▸ htables.fresh rr₀ client get
      · rw [hother rr heq] at hpos
        exact hplaced.known rr hpos
    · rw [tables.heap, setClient_heap] at hget
      by_cases heq : rr₀ = rr
      · rw [if_pos heq] at hget
        obtain rfl := Option.some.inj hget
        exact after
      · rw [if_neg heq] at hget
        rw [hother rr heq] at hpos
        exact hplaced.parsed rr client' hpos hget
  | dropped other rough tables less =>
    refine hplaced.of_le (le_of_eq tables.next.symm) (fun rr => by rw [less rr]; omega) ?_
    intro rr client' _ hget
    rw [tables.heap] at hget
    exact ⟨client', hget, id⟩
  | @closed fd =>
    refine hplaced.of_le (le_of_eq (close_next s fd).symm)
      (fun rr => le_of_eq (congrFun (places_close s fd) rr)) ?_
    intro rr client' _ hget
    exact ⟨client', heap_of_close s fd rr client' hget, id⟩
  | @sent _ rr₀ client head get tables less =>
    refine hplaced.of_le (le_of_eq ?_) (fun rr => by rw [less rr]; omega) ?_
    · rw [tables.next, close_next]
    · intro rr client' _ hget
      rw [tables.heap] at hget
      exact ⟨client', heap_of_close s client.rr.fd rr client' hget, id⟩

/-- **A step keeps the tables together and a record in one place at most.** -/
theorem pipeInv_step (u : Pipe) (l : PipeLabel) (v : Pipe) (es : List PipeEvent) (hinv : PipeInv u)
    (hstep : pipeline.step u l = some (v, es)) : PipeInv v := by
  have htook := took_of_step hstep
  exact ⟨tables_of_took hinv.tables htook, placed_of_took hinv htook⟩

end

end HNodeMgmt.Scgi
