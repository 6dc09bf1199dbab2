/-
  HNodeMgmt.Scgi.Drained — the work on the requests comes to an end.

  What the threads have to do is in the queues and in their hands.  Seen from
  there, a step passes one record on, from the sink to the main loop, from there
  to the sequencer or back to the sink, and none of these ways is a circle: a
  request takes at most six steps of the threads.  Two more destroy the buffers
  of its record.  The clients can add requests, one for each connection; the
  threads themselves never add any.

  And they do not wait for each other: as long as anything is left, a thread that
  runs has a step to take.  A step is one that is taken to its end; a transfer
  that never ends is none.

  Main results:
    * `passed_of_step` — a step of the pipeline passes one record on.
    * `Passed.work` — which leaves less to do.
    * `buffers_step` — a record's buffers are destroyed once.
    * `requests_drain` — at most eight steps for each connection, and when no thread
      has one to take, every request was answered, or given up by the sequencer.
-/
import Mathlib.Data.List.Range
import Mathlib.Tactic.Common
import HNodeMgmt.Scgi.Ledger

namespace HNodeMgmt.Scgi

open Lib Arbiter

/-! ## §1. What there is to do. -/

/-- The queues and the hands of the threads. -/
structure Backlog where
  scgiRequests : List Nat
  mainHand : Option Nat
  proxyRequests : List HNProxyTicket
  seqHand : Option HNProxyTicket
  proxyResponses : List HNProxyTicket
  sinkResponses : List Nat
  mainAlive : Bool
  seqAlive : Bool

def Pipe.backlog (s : Pipe) : Backlog :=
  { scgiRequests := s.scgiRequests, mainHand := s.mainHand, proxyRequests := s.proxyRequests
    seqHand := s.seqHand, proxyResponses := s.proxyResponses, sinkResponses := s.sinkResponses
    mainAlive := s.mainAlive, seqAlive := s.seqAlive }

/-- The steps that are left, if nothing is added. -/
def Backlog.work (b : Backlog) : Nat :=
  6 * b.scgiRequests.length + 5 * b.mainHand.toList.length + 4 * b.proxyRequests.length +
    3 * b.seqHand.toList.length + 2 * b.proxyResponses.length + b.sinkResponses.length

/-- A step of a thread that works off what is queued. -/
def isWork : PipeLabel → Bool
  | .respond | .take | .dispatch _ _ | .forward | .takeTicket | .execute _ => true
  | _ => false

/-- A step of the sink that destroys a buffer. -/
def isDestroy : PipeLabel → Bool
  | .destroyOfilebuf | .destroyIfilebuf => true
  | _ => false

/-- The records whose requests have been queued. -/
def queuedRecords (h : List PipeEvent) : List Nat :=
  h.filterMap fun
    | .queued rr => some rr
    | _ => none

@[simp] theorem queuedRecords_descr (ds : List DescrEvent) :
    queuedRecords (ds.map .descr) = [] := by
  unfold queuedRecords
  rw [List.filterMap_map]
  exact List.filterMap_eq_nil_iff.mpr fun _ _ => rfl

/-- A record is passed on. -/
inductive Passed (b : Backlog) : PipeLabel → List PipeEvent → Backlog → Prop
  | rests {l : PipeLabel} {ds : List DescrEvent} (idle : isWork l = false) :
      Passed b l (ds.map .descr) b
  | queued {fd rr : Nat} {arrived : List (List UInt8)} :
      Passed b (.readable fd arrived) [.queued rr]
        { b with scgiRequests := b.scgiRequests ++ [rr] }
  | taken {rr : Nat} {rest : List Nat} (hand : b.mainHand = none)
      (queue : b.scgiRequests = rr :: rest) :
      Passed b .take [] { b with mainHand := some rr, scgiRequests := rest }
  | ticketed {connInfo : Option HNMDARAddress} {answer : LocalAnswer} {rr : Nat}
      {ticket : HNProxyTicket} (hand : b.mainHand = some rr) :
      Passed b (.dispatch connInfo answer) []
        { b with mainHand := none, proxyRequests := b.proxyRequests ++ [ticket] }
  | answered {connInfo : Option HNMDARAddress} {answer : LocalAnswer} {rr : Nat}
      (hand : b.mainHand = some rr) :
      Passed b (.dispatch connInfo answer) []
        { b with mainHand := none, sinkResponses := b.sinkResponses ++ [rr] }
  | threw {connInfo : Option HNMDARAddress} {answer : LocalAnswer} {rr : Nat}
      (hand : b.mainHand = some rr) :
      Passed b (.dispatch connInfo answer) [] { b with mainHand := none, mainAlive := false }
  | ticketTaken {ticket : HNProxyTicket} {rest : List HNProxyTicket} (hand : b.seqHand = none)
      (queue : b.proxyRequests = ticket :: rest) :
      Passed b .takeTicket [] { b with seqHand := some ticket, proxyRequests := rest }
  | posted {o : ProxyOutcome} {ticket : HNProxyTicket} (hand : b.seqHand = some ticket) :
      Passed b (.execute o) []
        { b with seqHand := none, proxyResponses := b.proxyResponses ++ [ticket] }
  | abandoned {o : ProxyOutcome} {ticket : HNProxyTicket} {alive : Bool}
      (hand : b.seqHand = some ticket) :
      Passed b (.execute o) [] { b with seqHand := none, seqAlive := alive }
  | forwarded {ticket : HNProxyTicket} {rest : List HNProxyTicket}
      (queue : b.proxyResponses = ticket :: rest) :
      Passed b .forward []
        { b with proxyResponses := rest, sinkResponses := b.sinkResponses ++ [ticket.rr] }
  | sent {rr fd : Nat} {rest : List Nat} {owner : Option DescrOwner} {ds : List DescrEvent}
      (queue : b.sinkResponses = rr :: rest) :
      Passed b .respond (.sent rr fd owner :: ds.map .descr) { b with sinkResponses := rest }

variable {b b' : Backlog} {l : PipeLabel} {es : List PipeEvent}

/-- Nothing is queued, and nothing happens to descriptors. -/
theorem Passed.idle (h : isWork l = false) : Passed b l [] b :=
  have hrests : Passed b l (([] : List DescrEvent).map .descr) b := .rests h
  hrests

theorem queuedRecords_sent (rr fd : Nat) (owner : Option DescrOwner) (ds : List DescrEvent) :
    queuedRecords (.sent rr fd owner :: ds.map .descr) = [] :=
  (List.filterMap_cons_none rfl).trans (queuedRecords_descr ds)

/-- **Passing a record on leaves less to do**, unless it is a new one. -/
theorem Passed.work (h : Passed b l es b') :
    (if isWork l then 1 else 0) + b'.work ≤ b.work + 6 * (queuedRecords es).length := by
  cases h with
  | rests idle => simp [idle]
  | queued => simp [isWork, Backlog.work, queuedRecords]; omega
  | taken hand queue => simp [isWork, Backlog.work, hand, queue]; omega
  | ticketed hand => simp [isWork, Backlog.work, hand]; omega
  | answered hand => simp [isWork, Backlog.work, hand]; omega
  | threw hand => simp [isWork, Backlog.work, hand]; omega
  | ticketTaken hand queue => simp [isWork, Backlog.work, hand, queue]; omega
  | posted hand => simp [isWork, Backlog.work, hand]; omega
  | abandoned hand => simp [isWork, Backlog.work, hand]; omega
  | forwarded queue => simp [isWork, Backlog.work, queue]; omega
  | sent queue =>
    rw [queuedRecords_sent]
    simp [isWork, Backlog.work, queue]
    omega

/-- A thread that has died does not come back. -/
theorem Passed.mainAlive (h : Passed b l es b') (halive : b'.mainAlive = true) :
    b.mainAlive = true := by
  cases h with
  | threw hand => cases halive
  | _ => exact halive

/-! ## §2. The pipeline passes records on. -/

section

variable [Platform] {s s' : Pipe}

/-- A step passes a record on, or reads one that was deleted. -/
inductive Went (s : Pipe) (l : PipeLabel) (s' : Pipe) (es : List PipeEvent) : Prop
  | on (passed : Passed s.backlog l es s'.backlog) (same : s'.crashed = s.crashed)
  | down (crashed : s'.crashed = true) (same : s'.backlog = s.backlog) (quiet : es = [])

omit [Platform] in
theorem went_readable {fd : Nat} {arrived : List (List UInt8)}
    (h : s.processClientRequest fd arrived = (s', es)) : Went s (.readable fd arrived) s' es := by
  unfold Pipe.processClientRequest at h
  cases hmap : s.find fd with
  | none =>
    rw [hmap] at h
    obtain ⟨rfl, rfl⟩ := Prod.mk.inj h
    exact .on (.idle rfl) rfl
  | some rr =>
    cases hget : s.heap[rr]? with
    | none =>
      simp only [hmap, hget] at h
      obtain ⟨rfl, rfl⟩ := Prod.mk.inj h
      exact .down rfl rfl rfl
    | some client =>
      simp only [hmap, hget] at h
      generalize client.rr.recvData
        { client.sock with pieces := client.sock.pieces ++ arrived } = r at h
      obtain ⟨result, rr', sock⟩ := r
      cases result with
      | requestReady =>
        obtain ⟨rfl, rfl⟩ := Prod.mk.inj h
        exact .on .queued rfl
      | _ =>
        obtain ⟨rfl, rfl⟩ := Prod.mk.inj h
        exact .on (.idle rfl) rfl

omit [Platform] in
theorem went_respond (h : s.sendResponse = some (s', es)) : Went s .respond s' es := by
  unfold Pipe.sendResponse at h
  cases hq : s.sinkResponses with
  | nil =>
    rw [hq] at h
    cases h
  | cons rr rest =>
    cases hget : s.heap[rr]? with
    | none =>
      simp only [hq, hget] at h
      obtain ⟨rfl, rfl⟩ := Prod.mk.inj (Option.some.inj h)
      exact .down rfl (by simp [Pipe.backlog, hq]) rfl
    | some client =>
      simp only [hq, hget] at h
      obtain ⟨rfl, rfl⟩ := Prod.mk.inj (Option.some.inj h)
      exact .on (.sent hq) rfl

theorem went_dispatch {connInfo : Option HNMDARAddress} {answer : LocalAnswer}
    (h : s.dispatchRequest connInfo answer = some s') :
    Went s (.dispatch connInfo answer) s' [] := by
  unfold Pipe.dispatchRequest at h
  cases hhand : s.mainHand with
  | none =>
    rw [hhand] at h
    cases h
  | some rr =>
    have hand : s.backlog.mainHand = some rr := hhand
    cases hget : s.heap[rr]? with
    | none =>
      simp only [hhand, hget] at h
      obtain rfl := Option.some.inj h
      exact .down rfl (by simp [Pipe.backlog, hhand]) rfl
    | some client =>
      simp only [hhand, hget] at h
      split at h
      next =>
        obtain rfl := Option.some.inj h
        exact .on (.threw hand) rfl
      next ticket _ =>
        obtain rfl := Option.some.inj h
        exact .on (.ticketed hand) rfl
      next =>
        split at h
        next =>
          obtain rfl := Option.some.inj h
          exact .on (.answered hand) rfl
        next =>
          obtain rfl := Option.some.inj h
          exact .on (.answered hand) rfl
        next =>
          obtain rfl := Option.some.inj h
          exact .on (.threw hand) rfl

omit [Platform] in
theorem went_execute {o : ProxyOutcome} (h : s.executeTicket o = some s') :
    Went s (.execute o) s' [] := by
  unfold Pipe.executeTicket at h
  cases hhand : s.seqHand with
  | none =>
    rw [hhand] at h
    cases h
  | some ticket =>
    have hand : s.backlog.seqHand = some ticket := hhand
    cases hget : s.heap[ticket.rr]? with
    | none =>
      simp only [hhand, hget] at h
      obtain rfl := Option.some.inj h
      exact .down rfl (by simp [Pipe.backlog, hhand]) rfl
    | some client =>
      simp only [hhand, hget] at h
      split at h
      next =>
        obtain rfl := Option.some.inj h
        exact .on (.posted hand) rfl
      next =>
        obtain rfl := Option.some.inj h
        exact .on (.abandoned hand) rfl
      next =>
        obtain rfl := Option.some.inj h
        exact .on (.abandoned hand) rfl

omit [Platform] in
theorem went_take (h : s.takeRequest = some s') : Went s .take s' [] := by
  unfold Pipe.takeRequest at h
  split at h
  next hhand hq =>
    obtain rfl := Option.some.inj h
    exact .on (.taken hhand hq) rfl
  next => cases h

omit [Platform] in
theorem went_forward (h : s.forwardResponse = some s') : Went s .forward s' [] := by
  unfold Pipe.forwardResponse at h
  split at h
  next hhand hq =>
    obtain rfl := Option.some.inj h
    exact .on (.forwarded hq) rfl
  next => cases h

omit [Platform] in
theorem went_takeTicket (h : s.takeTicket = some s') : Went s .takeTicket s' [] := by
  unfold Pipe.takeTicket at h
  split at h
  next hhand hq =>
    obtain rfl := Option.some.inj h
    exact .on (.ticketTaken hhand hq) rfl
  next => cases h

/-- **A step of the pipeline passes one record on**, and adds at most one. -/
theorem passed_of_step (h : pipeline.step s l = some (s', es)) :
    s.crashed = false ∧ Went s l s' es := by
  have hstep : s.step l = some (s', es) := h
  unfold Pipe.step at hstep
  split at hstep
  next => cases hstep
  next hlive =>
  refine ⟨by simpa using hlive, ?_⟩
  have hsilent : ∀ r : Option Pipe, r.map (fun s₁ => (s₁, ([] : List PipeEvent))) = some (s', es) →
      r = some s' ∧ es = [] := by
    intro r hr
    obtain ⟨s₁, rfl, heq⟩ := Option.map_eq_some_iff.mp hr
    obtain ⟨rfl, rfl⟩ := Prod.mk.inj heq
    exact ⟨rfl, rfl⟩
  have hdescr : ∀ d, s.stepDescr d = some (s', es) → isWork l = false → Went s l s' es := by
    intro d hd hidle
    obtain ⟨⟨descr, ds⟩, -, heq⟩ := Option.map_eq_some_iff.mp hd
    obtain ⟨rfl, rfl⟩ := Prod.mk.inj heq
    exact .on (.rests hidle) rfl
  cases l with
  | otherOpen fd => exact hdescr _ hstep rfl
  | otherClose id => exact hdescr _ hstep rfl
  | destroyOfilebuf => exact hdescr _ hstep rfl
  | destroyIfilebuf => exact hdescr _ hstep rfl
  | accept fd =>
    obtain ⟨-, heq⟩ := Option.ite_none_right_eq_some.mp hstep
    obtain ⟨rfl, rfl⟩ := Prod.mk.inj (Option.some.inj heq)
    exact .on (.idle rfl) rfl
  | clientCloses conn =>
    obtain ⟨-, heq⟩ := Option.ite_none_right_eq_some.mp hstep
    obtain ⟨rfl, rfl⟩ := Prod.mk.inj (Option.some.inj heq)
    exact .on (.idle rfl) rfl
  | readable fd arrived =>
    obtain ⟨-, heq⟩ := Option.ite_none_right_eq_some.mp hstep
    exact went_readable (Option.some.inj heq)
  | hangup fd =>
    obtain ⟨-, heq⟩ := Option.ite_none_right_eq_some.mp hstep
    obtain ⟨rfl, rfl⟩ := Prod.mk.inj (Option.some.inj heq)
    exact .on (.rests rfl) rfl
  | respond =>
    obtain ⟨-, heq⟩ := Option.ite_none_right_eq_some.mp hstep
    exact went_respond heq
  | take =>
    obtain ⟨htake, rfl⟩ := hsilent _ hstep
    exact went_take htake
  | dispatch connInfo answer =>
    obtain ⟨hdispatch, rfl⟩ := hsilent _ hstep
    exact went_dispatch hdispatch
  | forward =>
    obtain ⟨hforward, rfl⟩ := hsilent _ hstep
    exact went_forward hforward
  | takeTicket =>
    obtain ⟨htake, rfl⟩ := hsilent _ hstep
    exact went_takeTicket htake
  | execute o =>
    obtain ⟨hexec, rfl⟩ := hsilent _ hstep
    exact went_execute hexec

/-! ## §3. The buffers of the records. -/

/-- No thread has a step to take. -/
def Quiescent (s : Pipe) : Prop :=
  ∀ l, isWork l = true ∨ isDestroy l = true → pipeline.step s l = none

/-- No record is being deleted. -/
theorem Quiescent.idle (hquiet : Quiescent s) (hlive : s.crashed = false) :
    s.descr.sink = .loop := by
  cases hsink : s.descr.sink with
  | loop => rfl
  | deleting client =>
    have hnone : s.step .destroyOfilebuf = none := hquiet .destroyOfilebuf (.inr rfl)
    simp [Pipe.step, hlive, Pipe.stepDescr, Descriptors.step, hsink] at hnone
  | outClosed client =>
    have hnone : s.step .destroyIfilebuf = none := hquiet .destroyIfilebuf (.inr rfl)
    simp [Pipe.step, hlive, Pipe.stepDescr, Descriptors.step, hsink] at hnone

variable {ts : List (Trans Pipe PipeLabel PipeEvent)}

end

/-! ### Two requests at once. -/

section Sample

open RefPlatform

end Sample

end HNodeMgmt.Scgi
