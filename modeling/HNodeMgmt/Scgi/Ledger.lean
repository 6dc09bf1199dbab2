/-
  HNodeMgmt.Scgi.Ledger — what becomes of every request.

  A request waits for the main loop, for the sequencer or for the sink, and each
  of these passes it on in a few ways: the main loop makes a ticket of it, or
  answers it, or dies of it; the sequencer posts the ticket or gives it up; the
  sink sends the response.  The three accounts are balanced by every step,
  whatever happens to connections and descriptors on the way.

  Main results:
    * `flow_of_step` — what a step takes from one account it gives to the next.
    * `queued_once` — a request is queued once at most.
    * `request_ledger` — the accounts are balanced after every run.
-/
import Mathlib.Tactic.Common
import HNodeMgmt.Lib.Budget
import HNodeMgmt.Scgi.Answered
import HNodeMgmt.Scgi.Integrity

namespace HNodeMgmt.Scgi

open Lib Arbiter

/-! ## §1. The accounts. -/

/-- How often a record waits for the main loop, or is in its hand. -/
def atMain (s : Pipe) (rr : Nat) : Nat := s.scgiRequests.count rr + s.mainHand.toList.count rr

/-- How often a ticket of the record waits for the sequencer, or is in its hand. -/
def atDevice (s : Pipe) (rr : Nat) : Nat :=
  (s.proxyRequests.map HNProxyTicket.rr).count rr +
    (s.seqHand.toList.map HNProxyTicket.rr).count rr

/-- How often a record is on its way to be sent. -/
def atSink (s : Pipe) (rr : Nat) : Nat :=
  (s.proxyResponses.map HNProxyTicket.rr).count rr + s.sinkResponses.count rr

/-- How the work on a request ends: in the main loop with a ticket, an answer or
an exception, in the sequencer with a posted ticket or without. -/
inductive Ended where
  | ticketed
  | answered
  | threw
  | posted
  | abandoned
  deriving DecidableEq, Repr

section

variable [Platform]

def dispatchEnds (rr : Nat) (request : HNSCGIMsg) (connInfo : Option HNMDARAddress)
    (answer : LocalAnswer) : Ended :=
  match checkForProxyRequest rr request connInfo with
  | none => .threw
  | some (some _) => .ticketed
  | some none =>
    match mapProxyRequest request answer with
    | .raised => .threw
    | _ => .answered

def executeEnds (request : HNSCGIMsg) (o : ProxyOutcome) : Ended :=
  match executeProxyRequest request o with
  | .posted _ => .posted
  | _ => .abandoned

/-- The record whose work a step ends, and how; none for a record that is deleted. -/
def ended (s : Pipe) : PipeLabel → Option (Nat × Ended)
  | .dispatch connInfo answer => s.mainHand.bind fun rr =>
      s.heap[rr]?.map fun client => (rr, dispatchEnds rr client.rr.request connInfo answer)
  | .execute o => s.seqHand.bind fun ticket =>
      s.heap[ticket.rr]?.map fun client => (ticket.rr, executeEnds client.rr.request o)
  | _ => none

/-- One for a step that ends the work on the record so. -/
def endsAs (e : Ended) (rr : Nat) (t : Trans Pipe PipeLabel PipeEvent) : Nat :=
  if ended t.pre t.label = some (rr, e) then 1 else 0

/-- **What one step does to the three accounts of a record.** -/
structure Flow (rr : Nat) (t : Trans Pipe PipeLabel PipeEvent) : Prop where
  main : endsAs .ticketed rr t + endsAs .answered rr t + endsAs .threw rr t + atMain t.post rr =
    atMain t.pre rr + queuedCount t.evts rr
  device : endsAs .posted rr t + endsAs .abandoned rr t + atDevice t.post rr =
    atDevice t.pre rr + endsAs .ticketed rr t
  sink : sentCount t.evts rr + atSink t.post rr =
    atSink t.pre rr + (endsAs .answered rr t + endsAs .posted rr t)

/-! ## §2. One step. -/

variable {s s' : Pipe} {l : PipeLabel} {es : List PipeEvent} {rr : Nat}

theorem endsAs_none (h : ended s l = none) (e : Ended) : endsAs e rr ⟨s, l, es, s'⟩ = 0 := by
  unfold endsAs
  rw [h]
  rfl

theorem endsAs_some {rr₀ : Nat} {kind : Ended} (h : ended s l = some (rr₀, kind)) (e : Ended) :
    endsAs e rr ⟨s, l, es, s'⟩ = if kind = e then one rr₀ rr else 0 := by
  unfold endsAs one
  rw [h]
  by_cases hkind : kind = e <;> simp [hkind]

/-- A step that ends no work moves the record within an account, if at all. -/
theorem Flow.within (h : ended s l = none)
    (main : atMain s' rr = atMain s rr + queuedCount es rr)
    (device : atDevice s' rr = atDevice s rr)
    (sink : sentCount es rr + atSink s' rr = atSink s rr) : Flow rr ⟨s, l, es, s'⟩ := by
  refine ⟨?_, ?_, ?_⟩ <;> simp only [endsAs_none h]
  · omega
  · omega
  · omega

theorem flow_readable {fd : Nat} {arrived : List (List UInt8)}
    (h : s.processClientRequest fd arrived = (s', es)) :
    Flow rr ⟨s, .readable fd arrived, es, s'⟩ := by
  unfold Pipe.processClientRequest at h
  cases hmap : s.find fd with
  | none =>
    rw [hmap] at h
    obtain ⟨rfl, rfl⟩ := Prod.mk.inj h
    exact .within rfl rfl rfl (Nat.zero_add _)
  | some rr₀ =>
    cases hget : s.heap[rr₀]? with
    | none =>
      simp only [hmap, hget] at h
      obtain ⟨rfl, rfl⟩ := Prod.mk.inj h
      exact .within rfl rfl rfl (Nat.zero_add _)
    | some client =>
      simp only [hmap, hget] at h
      generalize client.rr.recvData
        { client.sock with pieces := client.sock.pieces ++ arrived } = r at h
      obtain ⟨result, rr', sock⟩ := r
      cases result with
      | requestReady =>
        obtain ⟨rfl, rfl⟩ := Prod.mk.inj h
        refine .within rfl ?_ rfl (Nat.zero_add _)
        simp only [atMain, queuedCount_queued, one, Pipe.setClient, List.count_append,
          List.count_singleton, beq_iff_eq]
        omega
      | _ =>
        obtain ⟨rfl, rfl⟩ := Prod.mk.inj h
        exact .within rfl rfl rfl (Nat.zero_add _)

theorem flow_respond (h : s.sendResponse = some (s', es)) : Flow rr ⟨s, .respond, es, s'⟩ := by
  unfold Pipe.sendResponse at h
  cases hq : s.sinkResponses with
  | nil =>
    rw [hq] at h
    cases h
  | cons rr₀ rest =>
    cases hget : s.heap[rr₀]? with
    | none =>
      simp only [hq, hget] at h
      obtain ⟨rfl, rfl⟩ := Prod.mk.inj (Option.some.inj h)
      refine .within rfl rfl rfl ?_
      simp only [atSink, hq]
      exact Nat.zero_add _
    | some client =>
      simp only [hq, hget] at h
      obtain ⟨rfl, rfl⟩ := Prod.mk.inj (Option.some.inj h)
      refine .within rfl ?_ rfl ?_
      · rw [Pipe.closeClientConnection, queuedCount_sent]
        rfl
      · rw [Pipe.closeClientConnection, sentCount_sent]
        simp only [atSink, hq, one, List.count_cons, beq_iff_eq]
        omega

theorem flow_dispatch {connInfo : Option HNMDARAddress} {answer : LocalAnswer}
    (h : s.dispatchRequest connInfo answer = some s') :
    Flow rr ⟨s, .dispatch connInfo answer, [], s'⟩ := by
  unfold Pipe.dispatchRequest at h
  cases hhand : s.mainHand with
  | none =>
    rw [hhand] at h
    cases h
  | some rr₀ =>
    -- the record leaves the main loop's hand
    have hone : (some rr₀).toList.count rr = one rr₀ rr := by
      simp only [Option.toList_some, List.count_singleton, one, beq_iff_eq]
    cases hget : s.heap[rr₀]? with
    | none =>
      simp only [hhand, hget] at h
      obtain rfl := Option.some.inj h
      exact .within (by simp [ended, hhand, hget]) (by simp [atMain, hhand, queuedCount]) rfl
        (Nat.zero_add _)
    | some client =>
      simp only [hhand, hget] at h
      have hended : ended s (.dispatch connInfo answer) =
          some (rr₀, dispatchEnds rr₀ client.rr.request connInfo answer) := by
        simp [ended, hhand, hget]
      have hthrew : dispatchEnds rr₀ client.rr.request connInfo answer = .threw →
          Flow rr ⟨s, .dispatch connInfo answer, [],
            { s with mainHand := none, mainAlive := false }⟩ := by
        intro hkind
        rw [hkind] at hended
        refine ⟨?_, ?_, ?_⟩ <;> simp only [endsAs_some hended, reduceCtorEq, if_true, if_false]
        · simp only [atMain, hhand, hone, Option.toList_none, List.count_nil, queuedCount]
          omega
        · exact Nat.add_comm _ _
        · exact Nat.add_comm _ _
      have hanswered : ∀ response, dispatchEnds rr₀ client.rr.request connInfo answer = .answered →
          Flow rr ⟨s, .dispatch connInfo answer, [],
            { s.setResponse rr₀ client response with
              mainHand := none, sinkResponses := s.sinkResponses ++ [rr₀] }⟩ := by
        intro response hkind
        rw [hkind] at hended
        refine ⟨?_, ?_, ?_⟩ <;> simp only [endsAs_some hended, reduceCtorEq, if_true, if_false]
        · simp only [atMain, Pipe.setResponse, Pipe.setClient, hhand, hone, Option.toList_none,
            List.count_nil, queuedCount]
          omega
        · exact Nat.add_comm _ _
        · simp only [atSink, Pipe.setResponse, Pipe.setClient, List.count_append,
            List.count_singleton, one, beq_iff_eq, sentCount, List.countP_nil]
          omega
      cases hcheck : checkForProxyRequest rr₀ client.rr.request connInfo with
      | none =>
        rw [hcheck] at h
        obtain rfl := Option.some.inj h
        exact hthrew (by simp [dispatchEnds, hcheck])
      | some ticket? =>
        rw [hcheck] at h
        cases ticket? with
        | some ticket =>
          obtain rfl := Option.some.inj h
          have hkind : dispatchEnds rr₀ client.rr.request connInfo answer = .ticketed := by
            simp [dispatchEnds, hcheck]
          have hrr : ticket.rr = rr₀ := ticket_rr hcheck
          rw [hkind] at hended
          refine ⟨?_, ?_, ?_⟩ <;> simp only [endsAs_some hended, reduceCtorEq, if_true, if_false]
          · simp only [atMain, hhand, hone, Option.toList_none, List.count_nil, queuedCount]
            omega
          · simp only [atDevice, List.map_append, List.map_cons, List.map_nil, List.count_append,
              List.count_singleton, hrr, one, beq_iff_eq]
            omega
          · exact Nat.add_comm _ _
        | none =>
          cases hanswer : mapProxyRequest client.rr.request answer with
          | noHandler =>
            simp only [hanswer] at h
            obtain rfl := Option.some.inj h
            exact hanswered _ (by simp [dispatchEnds, hcheck, hanswer])
          | handled response =>
            simp only [hanswer] at h
            obtain rfl := Option.some.inj h
            exact hanswered response (by simp [dispatchEnds, hcheck, hanswer])
          | raised =>
            simp only [hanswer] at h
            obtain rfl := Option.some.inj h
            exact hthrew (by simp [dispatchEnds, hcheck, hanswer])

theorem flow_execute {o : ProxyOutcome} (h : s.executeTicket o = some s') :
    Flow rr ⟨s, .execute o, [], s'⟩ := by
  unfold Pipe.executeTicket at h
  cases hhand : s.seqHand with
  | none =>
    rw [hhand] at h
    cases h
  | some ticket =>
    have hone : ((some ticket).toList.map HNProxyTicket.rr).count rr = one ticket.rr rr := by
      simp only [Option.toList_some, List.map_cons, List.map_nil, List.count_singleton, one,
        beq_iff_eq]
    cases hget : s.heap[ticket.rr]? with
    | none =>
      simp only [hhand, hget] at h
      obtain rfl := Option.some.inj h
      exact .within (by simp [ended, hhand, hget]) rfl (by simp [atDevice, hhand])
        (Nat.zero_add _)
    | some client =>
      simp only [hhand, hget] at h
      have hended : ended s (.execute o) =
          some (ticket.rr, executeEnds client.rr.request o) := by
        simp [ended, hhand, hget]
      -- a failure and an exception both drop the ticket; the latter ends the sequencer too
      have habandoned : ∀ alive, executeEnds client.rr.request o = .abandoned →
          Flow rr ⟨s, .execute o, [], { s with seqHand := none, seqAlive := alive }⟩ := by
        intro alive hkind
        rw [hkind] at hended
        refine ⟨?_, ?_, ?_⟩ <;> simp only [endsAs_some hended, reduceCtorEq, if_true, if_false]
        · exact Nat.add_comm _ _
        · simp only [atDevice, hhand, hone, Option.toList_none, List.map_nil, List.count_nil]
          omega
        · exact Nat.add_comm _ _
      cases hexec : executeProxyRequest client.rr.request o with
      | posted response =>
        rw [hexec] at h
        obtain rfl := Option.some.inj h
        have hkind : executeEnds client.rr.request o = .posted := by simp [executeEnds, hexec]
        rw [hkind] at hended
        refine ⟨?_, ?_, ?_⟩ <;> simp only [endsAs_some hended, reduceCtorEq, if_true, if_false]
        · exact Nat.add_comm _ _
        · simp only [atDevice, Pipe.setResponse, Pipe.setClient, hhand, hone, Option.toList_none,
            List.map_nil, List.count_nil]
          omega
        · simp only [atSink, Pipe.setResponse, Pipe.setClient, List.map_append, List.map_cons,
            List.map_nil, List.count_append, List.count_singleton, one, beq_iff_eq, sentCount,
            List.countP_nil]
          omega
      | failed =>
        rw [hexec] at h
        obtain rfl := Option.some.inj h
        exact habandoned s.seqAlive (by simp [executeEnds, hexec])
      | raised =>
        rw [hexec] at h
        obtain rfl := Option.some.inj h
        exact habandoned false (by simp [executeEnds, hexec])

theorem flow_take (h : s.takeRequest = some s') : Flow rr ⟨s, .take, [], s'⟩ := by
  unfold Pipe.takeRequest at h
  split at h
  next hhand hq =>
    obtain rfl := Option.some.inj h
    refine .within rfl ?_ rfl (Nat.zero_add _)
    simp only [atMain, hhand, hq, List.count_cons, List.count_nil, Option.toList_some,
      Option.toList_none, queuedCount]
    omega
  next => cases h

theorem flow_forward (h : s.forwardResponse = some s') : Flow rr ⟨s, .forward, [], s'⟩ := by
  unfold Pipe.forwardResponse at h
  split at h
  next hhand hq =>
    obtain rfl := Option.some.inj h
    refine .within rfl rfl rfl ?_
    simp only [atSink, hq, List.map_cons, List.count_cons, List.count_append, List.count_nil,
      sentCount, List.countP_nil]
    omega
  next => cases h

theorem flow_takeTicket (h : s.takeTicket = some s') : Flow rr ⟨s, .takeTicket, [], s'⟩ := by
  unfold Pipe.takeTicket at h
  split at h
  next hhand hq =>
    obtain rfl := Option.some.inj h
    refine .within rfl rfl ?_ (Nat.zero_add _)
    simp only [atDevice, hhand, hq, List.map_cons, List.map_nil, List.count_cons, List.count_nil,
      Option.toList_some, Option.toList_none]
    omega
  next => cases h

/-- **What a step takes from one account it gives to the next.** -/
theorem flow_of_step (h : pipeline.step s l = some (s', es)) (rr : Nat) :
    Flow rr ⟨s, l, es, s'⟩ := by
  have hstep : s.step l = some (s', es) := h
  unfold Pipe.step at hstep
  split at hstep
  next => cases hstep
  have hsilent : ∀ r : Option Pipe, r.map (fun s₁ => (s₁, ([] : List PipeEvent))) = some (s', es) →
      r = some s' ∧ es = [] := by
    intro r hr
    obtain ⟨s₁, rfl, heq⟩ := Option.map_eq_some_iff.mp hr
    obtain ⟨rfl, rfl⟩ := Prod.mk.inj heq
    exact ⟨rfl, rfl⟩
  -- descriptors are of no concern
  have hdescr : ∀ d, s.stepDescr d = some (s', es) → ended s l = none → Flow rr ⟨s, l, es, s'⟩ := by
    intro d hd hended
    obtain ⟨⟨descr, ds⟩, -, heq⟩ := Option.map_eq_some_iff.mp hd
    obtain ⟨rfl, rfl⟩ := Prod.mk.inj heq
    exact .within hended (by rw [queuedCount_descr]; rfl) rfl
      (by rw [sentCount_descr]; exact Nat.zero_add _)
  cases l with
  | otherOpen fd => exact hdescr _ hstep rfl
  | otherClose id => exact hdescr _ hstep rfl
  | destroyOfilebuf => exact hdescr _ hstep rfl
  | destroyIfilebuf => exact hdescr _ hstep rfl
  | accept fd =>
    obtain ⟨-, heq⟩ := Option.ite_none_right_eq_some.mp hstep
    obtain ⟨rfl, rfl⟩ := Prod.mk.inj (Option.some.inj heq)
    exact .within rfl rfl rfl (Nat.zero_add _)
  | clientCloses conn =>
    obtain ⟨-, heq⟩ := Option.ite_none_right_eq_some.mp hstep
    obtain ⟨rfl, rfl⟩ := Prod.mk.inj (Option.some.inj heq)
    exact .within rfl rfl rfl (Nat.zero_add _)
  | readable fd arrived =>
    obtain ⟨-, heq⟩ := Option.ite_none_right_eq_some.mp hstep
    exact flow_readable (Option.some.inj heq)
  | hangup fd =>
    obtain ⟨-, heq⟩ := Option.ite_none_right_eq_some.mp hstep
    obtain ⟨rfl, rfl⟩ := Prod.mk.inj (Option.some.inj heq)
    exact .within rfl (by rw [queuedCount_descr]; rfl) rfl
      (by rw [sentCount_descr]; exact Nat.zero_add _)
  | respond =>
    obtain ⟨-, heq⟩ := Option.ite_none_right_eq_some.mp hstep
    exact flow_respond heq
  | take =>
    obtain ⟨htake, rfl⟩ := hsilent _ hstep
    exact flow_take htake
  | dispatch connInfo answer =>
    obtain ⟨hdispatch, rfl⟩ := hsilent _ hstep
    exact flow_dispatch hdispatch
  | forward =>
    obtain ⟨hforward, rfl⟩ := hsilent _ hstep
    exact flow_forward hforward
  | takeTicket =>
    obtain ⟨htake, rfl⟩ := hsilent _ hstep
    exact flow_takeTicket htake
  | execute o =>
    obtain ⟨hexec, rfl⟩ := hsilent _ hstep
    exact flow_execute hexec

/-! ## §3. A request is queued once. -/

/-- One as long as the header of the record is not complete. -/
def unqueued (s : Pipe) (rr : Nat) : Nat :=
  match s.heap[rr]? with
  | some client => if client.rr.rxState = .hdrDone then 0 else 1
  | none => if s.next ≤ rr then 1 else 0

/-- **A request is queued no more often than its header gets complete.** -/
theorem unqueued_step (hinv : PipeInv s) (hstep : pipeline.step s l = some (s', es)) (rr : Nat) :
    queuedCount es rr + unqueued s' rr ≤ unqueued s rr := by
  -- a record that is changed does not lose its header
  have hchanged : ∀ {rr₀ : Nat} {client client' : ClientRec}, s.heap[rr₀]? = some client →
      (client.rr.rxState = .hdrDone → client'.rr.rxState = .hdrDone) → s'.next = s.next →
      s'.heap = (s.setClient rr₀ client').heap → unqueued s' rr ≤ unqueued s rr := by
    intro rr₀ client client' get parsed hnext hheap
    unfold unqueued
    rw [hheap, hnext, setClient_heap]
    by_cases heq : rr₀ = rr
    · subst heq
      rw [if_pos rfl, get]
      by_cases hdone : client.rr.rxState = .hdrDone
      · simp [hdone, parsed hdone]
      · simp only [hdone, if_false]
        split <;> omega
    · rw [if_neg heq]
  have hclosed : ∀ fd, s'.next = s.next → s'.heap = (s.closeClientConnection fd).1.heap →
      unqueued s' rr ≤ unqueued s rr := by
    intro fd hnext hheap
    unfold unqueued
    rw [hheap, hnext]
    cases hget : (s.closeClientConnection fd).1.heap[rr]? with
    | some client => rw [heap_of_close s fd rr client hget]
    | none =>
      cases hold : s.heap[rr]? with
      | none => exact Nat.le_refl _
      | some client =>
        -- its number is not given out again
        have hlt := hinv.tables.fresh rr client hold
        simp only [Nat.not_le.mpr hlt, if_false]
        exact Nat.zero_le _
  have hquiet : queuedCount [] rr = 0 := rfl
  cases took_of_step hstep with
  | @accepted fd idle free =>
    rw [hquiet, Nat.zero_add]
    unfold unqueued
    rw [heap_accepted]
    by_cases heq : s.next = rr
    · subst heq
      have hnone : s.heap[s.next]? = none := by
        cases hget : s.heap[s.next]? with
        | none => rfl
        | some client => exact absurd (hinv.tables.fresh _ client hget) (Nat.lt_irrefl _)
      rw [if_pos rfl, hnone]
      simp [freshClient, HNSCGIRR.new]
    · rw [if_neg heq]
      cases s.heap[rr]? with
      | some client => exact Nat.le_refl _
      | none =>
        show (if s.next + 1 ≤ rr then 1 else 0) ≤ if s.next ≤ rr then 1 else 0
        split <;> split <;> omega
  | moved other tables same =>
    rw [queuedCount_descr, Nat.zero_add]
    unfold unqueued
    rw [tables.heap, tables.next]
  | updated other get sameFd parsed mapped tables same =>
    rw [hquiet, Nat.zero_add]
    exact hchanged get parsed tables.next tables.heap
  | @queued fd arrived _ rr₀ client client' mapped get sameFd before after tables more =>
    rw [queuedCount_queued, one]
    by_cases heq : rr₀ = rr
    · subst heq
      unfold unqueued
      rw [tables.heap, setClient_heap, if_pos rfl, get]
      simp [before, after]
    · rw [if_neg heq, Nat.zero_add]
      exact hchanged get (fun hdone => absurd hdone before) tables.next tables.heap
  | dropped other rough tables less =>
    rw [hquiet, Nat.zero_add]
    unfold unqueued
    rw [tables.heap, tables.next]
  | @closed fd =>
    rw [Pipe.closeClientConnection, queuedCount_descr, Nat.zero_add]
    exact hclosed fd (close_next s fd) rfl
  | @sent _ rr₀ client head get tables less =>
    rw [Pipe.closeClientConnection, queuedCount_sent, Nat.zero_add]
    exact hclosed _ (tables.next.trans (close_next s _)) tables.heap

/-! ## §4. Whole runs. -/

variable {ts : List (Trans Pipe PipeLabel PipeEvent)}

omit [Platform] in
theorem queuedCount_history (ts : List (Trans Pipe PipeLabel PipeEvent)) (rr : Nat) :
    total (fun t => queuedCount t.evts rr) ts = queuedCount (history ts) rr := by
  induction ts with
  | nil => rfl
  | cons t ts ih =>
    show queuedCount t.evts rr + total (fun t => queuedCount t.evts rr) ts =
      queuedCount (t.evts ++ history ts) rr
    rw [ih, queuedCount_append]

omit [Platform] in
theorem sentCount_history (ts : List (Trans Pipe PipeLabel PipeEvent)) (rr : Nat) :
    total (fun t => sentCount t.evts rr) ts = sentCount (history ts) rr := by
  induction ts with
  | nil => rfl
  | cons t ts ih =>
    show sentCount t.evts rr + total (fun t => sentCount t.evts rr) ts =
      sentCount (t.evts ++ history ts) rr
    rw [ih, sentCount_append]

/-- **A request is queued once at most.** -/
theorem queued_once (hr : Run pipeline Pipe.init ts s) (rr : Nat) :
    queuedCount (history ts) rr ≤ 1 := by
  have hbound : total (fun t => queuedCount t.evts rr) ts + unqueued s rr ≤
      unqueued Pipe.init rr + total (fun _ => 0) ts :=
    Run.budget (J := PipeInv) (Φ := fun s => unqueued s rr) pipeInv_init pipeInv_step
      (fun _ _ _ _ hinv hstep => unqueued_step hinv hstep rr) hr
  rw [queuedCount_history, total_zero] at hbound
  have hinit : unqueued Pipe.init rr = 1 := by
    simp [unqueued, Pipe.init, Pipe.next, Descriptors.init]
  omega

/-- How often the work on a record has ended so. -/
def endedAs (e : Ended) (rr : Nat) (ts : List (Trans Pipe PipeLabel PipeEvent)) : Nat :=
  total (endsAs e rr) ts

/-- **The three accounts are balanced** after every run. -/
theorem accounts_run (hr : Run pipeline Pipe.init ts s) (rr : Nat) :
    endedAs .ticketed rr ts + endedAs .answered rr ts + endedAs .threw rr ts + atMain s rr =
        queuedCount (history ts) rr ∧
      endedAs .posted rr ts + endedAs .abandoned rr ts + atDevice s rr =
        endedAs .ticketed rr ts ∧
      sentCount (history ts) rr + atSink s rr =
        endedAs .answered rr ts + endedAs .posted rr ts := by
  have hkeeps : ∀ (u : Pipe) l v es, False → pipeline.step u l = some (v, es) → False :=
    fun _ _ _ _ hfalse _ => hfalse
  have hmain : total (fun t => endsAs .ticketed rr t + endsAs .answered rr t + endsAs .threw rr t)
      ts + atMain s rr = atMain Pipe.init rr + total (fun t => queuedCount t.evts rr) ts :=
    Run.balance (J := fun _ => True) (D := fun _ => False) (Φ := fun s => atMain s rr) trivial
      (fun _ _ _ _ _ _ => trivial) hkeeps
      (fun _ _ _ _ _ _ hstep => (flow_of_step hstep rr).main) hr id
  have hdevice : total (fun t => endsAs .posted rr t + endsAs .abandoned rr t) ts +
      atDevice s rr = atDevice Pipe.init rr + total (endsAs .ticketed rr) ts :=
    Run.balance (J := fun _ => True) (D := fun _ => False) (Φ := fun s => atDevice s rr) trivial
      (fun _ _ _ _ _ _ => trivial) hkeeps
      (fun _ _ _ _ _ _ hstep => (flow_of_step hstep rr).device) hr id
  have hsink : total (fun t => sentCount t.evts rr) ts + atSink s rr =
      atSink Pipe.init rr + total (fun t => endsAs .answered rr t + endsAs .posted rr t) ts :=
    Run.balance (J := fun _ => True) (D := fun _ => False) (Φ := fun s => atSink s rr) trivial
      (fun _ _ _ _ _ _ => trivial) hkeeps
      (fun _ _ _ _ _ _ hstep => (flow_of_step hstep rr).sink) hr id
  rw [total_add, total_add, queuedCount_history] at hmain
  rw [total_add] at hdevice
  rw [total_add, sentCount_history] at hsink
  have hinit : atMain Pipe.init rr = 0 ∧ atDevice Pipe.init rr = 0 ∧ atSink Pipe.init rr = 0 :=
    ⟨rfl, rfl, rfl⟩
  unfold endedAs
  exact ⟨by omega, by omega, by omega⟩

/-- **Nothing is lost or done twice.**  After every run, up to the use of a record
that has been deleted, whatever the order of the steps, and with clients that hang
up, descriptors that are given out again and threads that die: a request has been
queued once at most; if so, it is with the main loop, or that made a ticket of it,
answered it, or died of it; its ticket is with the sequencer, or was posted, or was
given up; and what was answered or posted is on its way to the sink, or was sent.
None of this happens twice. -/
theorem request_ledger (ts : List (Trans Pipe PipeLabel PipeEvent)) (s : Pipe)
    (hr : Run pipeline Pipe.init ts s) (rr : Nat) :
    queuedCount (history ts) rr ≤ 1 ∧
      endedAs .ticketed rr ts + endedAs .answered rr ts + endedAs .threw rr ts + atMain s rr =
        queuedCount (history ts) rr ∧
      endedAs .posted rr ts + endedAs .abandoned rr ts + atDevice s rr =
        endedAs .ticketed rr ts ∧
      sentCount (history ts) rr + atSink s rr =
        endedAs .answered rr ts + endedAs .posted rr ts :=
  ⟨queued_once hr rr, accounts_run hr rr⟩

end

/-! ### A request that goes to a device. -/

section Sample

open RefPlatform

/-- It is queued once, carried out once and answered once. -/
theorem request_ledger_sample :
    ∃ ts s, Run pipeline Pipe.init ts s ∧ queuedCount (history ts) 0 = 1 ∧
      endedAs .posted 0 ts = 1 ∧ endedAs .ticketed 0 ts = 1 ∧ atSink s 0 = 0 := by
  obtain ⟨ts, s, hr, hp⟩ := Machine.exists_run_of_exec (M := pipeline) (s := Pipe.init)
    (l := proxiedRun) (p := fun r => sentCount (history r.1) 0 == 1 && endedAs .answered 0 r.1 == 0)
    (by decide +kernel)
  simp only [Bool.and_eq_true, beq_iff_eq] at hp
  obtain ⟨hqueued, hmain, hdevice, hsink⟩ := request_ledger ts s hr 0
  refine ⟨ts, s, hr, ?_, ?_, ?_, ?_⟩ <;> omega

end Sample

end HNodeMgmt.Scgi
