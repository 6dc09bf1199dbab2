/-
  HNodeMgmt.Daemon.Served — what a client of the daemon gets.

  The request is read by one thread, looked up or answered by another while a
  third changes the arbiter, and sent by the first.  Still each client is served
  as if its request had been carried out at definite moments between its arrival
  and its response: a device is looked up among those announced by then, each
  record of an inventory is that of one state of the arbiter, and a command that
  is acknowledged was stored and started by two steps of the run.

  Main results:
    * `working_run` — what the main thread has in its hand belongs to the request.
    * `proxied_to_announced` — a device that is asked was announced, and named.
    * `inventory_served` — each record of the inventory was true at its moment.
    * `command_acknowledged` — an OK stands for a command that was started.
-/
import Mathlib.Tactic.Common
import HNodeMgmt.Arbiter.Contact
import HNodeMgmt.Arbiter.Reports
import HNodeMgmt.Daemon.Mgmtd
import HNodeMgmt.Scgi.Drained

namespace HNodeMgmt.Daemon

open Lib Arbiter Scgi

section

variable [Platform]

/-! ## §1. The record in the hand of the main thread. -/

section Hand

variable {p p' : Pipe} {l : PipeLabel} {es : List PipeEvent} {rr : Nat}

/-- Only a dispatch takes a record out of the main thread's hand. -/
theorem mainHand_kept (hstep : pipeline.step p l = some (p', es))
    (hother : ∀ connInfo answer, l ≠ .dispatch connInfo answer) (hhand : p.mainHand = some rr) :
    p'.mainHand = some rr := by
  have hbefore : p.backlog.mainHand = some rr := hhand
  show p'.backlog.mainHand = some rr
  obtain ⟨-, hwent⟩ := passed_of_step hstep
  cases hwent with
  | down crashed same quiet => rw [same, hbefore]
  | on passed same =>
    generalize p'.backlog = b' at passed
    cases passed with
    | taken hand queue => cases hand.symm.trans hbefore
    | ticketed hand => exact absurd rfl (hother _ _)
    | answered hand => exact absurd rfl (hother _ _)
    | threw hand => exact absurd rfl (hother _ _)
    | _ => exact hbefore

omit [Platform] in
/-- What is in the hand is in a place. -/
theorem placed_of_hand (hhand : p.mainHand = some rr) : 0 < places p rr := by
  unfold places
  rw [hhand]
  simp

end Hand

/-! ## §2. What the main thread works on. -/

section Work

variable {ι : Type} {envs : ι → LocalEnv} {handler : Str → List Str → Option HNOperationData}
  {ts : List (Trans (Mgmtd ι) (MgmtdLabel ι) MgmtdEvent)} {s s' : Mgmtd ι} {l : MgmtdLabel ι}
  {es : List MgmtdEvent} {rr : Nat} {w : LocalWork ι}

/-- These transitions have made the accesses of a request, in their order: each found
the record in the hand, and the accesses before it made. -/
structure AccessesOf (envs : ι → LocalEnv) (rr : Nat) (w : LocalWork ι)
    (ts accesses : List (Trans (Mgmtd ι) (MgmtdLabel ι) MgmtdEvent)) : Prop where
  among : accesses.Sublist ts
  count : accesses.length = w.seen.length
  made : ∀ i t, accesses[i]? = some t → ∃ found access, t.label = .access found ∧
    t.pre.pipe.mainHand = some rr ∧ t.pre.work = some { w with seen := w.seen.take i } ∧
    LocalWork.nextAccess (envs w.env) t.pre.sys.arbiter { w with seen := w.seen.take i } =
      some access ∧
    w.seen[i]? = some (access.finds found t.pre.sys.arbiter)

/-- What the main thread has in its hand belongs to the request of the record. -/
structure Working (envs : ι → LocalEnv) (handler : Str → List Str → Option HNOperationData)
    (ts : List (Trans (Mgmtd ι) (MgmtdLabel ι) MgmtdEvent)) (s : Mgmtd ι) (rr : Nat)
    (w : LocalWork ι) : Prop where
  hand : s.pipe.mainHand = some rr
  own : ∀ request, IsRequest s rr request →
    checkForProxyRequest rr request w.connInfo = some none
  mapped : ∀ request, IsRequest s rr request → mappedTo handler request = some w.call.opData
  fresh : ∃ statusCode, w.call.rsp = .new statusCode
  accesses : ∃ accesses, AccessesOf envs rr w ts accesses

section Accesses

variable {accesses : List (Trans (Mgmtd ι) (MgmtdLabel ι) MgmtdEvent)}

theorem AccessesOf.later (h : AccessesOf envs rr w ts accesses)
    (t : Trans (Mgmtd ι) (MgmtdLabel ι) MgmtdEvent) : AccessesOf envs rr w (ts ++ [t]) accesses :=
  ⟨h.among.trans (List.sublist_append_left _ _), h.count, h.made⟩

/-- One more access. -/
theorem AccessesOf.accessed (h : AccessesOf envs rr w ts accesses) (hwork : s.work = some w)
    (hhand : s.pipe.mainHand = some rr) {access : Access} {found : HNManagedDeviceArbiter}
    (hnext : w.nextAccess (envs w.env) s.sys.arbiter = some access) :
    AccessesOf envs rr { w with seen := w.seen ++ [access.finds found s.sys.arbiter] }
      (ts ++ [⟨s, .access found, es, s'⟩]) (accesses ++ [⟨s, .access found, es, s'⟩]) := by
  refine ⟨h.among.append (List.Sublist.refl _), by simp [h.count], fun i t hget => ?_⟩
  by_cases hi : i < accesses.length
  · rw [List.getElem?_append_left hi] at hget
    have hseen : i < w.seen.length := by rw [← h.count]; exact hi
    dsimp only
    rw [List.take_append_of_le_length (by omega), List.getElem?_append_left hseen]
    exact h.made i t hget
  · have hlast : i = accesses.length := by
      have := (List.getElem?_eq_some_iff.mp hget).1
      rw [List.length_append, List.length_singleton] at this
      omega
    subst hlast
    rw [List.getElem?_concat_length] at hget
    obtain rfl := Option.some.inj hget
    refine ⟨found, access, rfl, hhand, ?_⟩
    dsimp only
    rw [h.count, List.take_left]
    exact ⟨hwork, hnext, List.getElem?_concat_length⟩

/-- What was seen without a report is the arbiter as it was. -/
theorem AccessesOf.seen (h : AccessesOf envs rr w ts accesses)
    (hexact : ∀ (a : HNManagedDeviceArbiter) (seen : List HNManagedDeviceArbiter),
      LocalWork.nextAccess (envs w.env) a { w with seen } ≠ some .report) :
    accesses.map (fun t => t.pre.sys.arbiter) = w.seen := by
  refine List.ext_getElem? fun i => ?_
  rw [List.getElem?_map]
  cases hget : accesses[i]? with
  | none =>
    have hlast : w.seen.length ≤ i := h.count ▸ List.getElem?_eq_none_iff.mp hget
    exact (List.getElem?_eq_none hlast).symm
  | some t =>
    obtain ⟨found, access, -, -, -, hnext, hseen⟩ := h.made i t hget
    rw [hseen]
    cases access with
    | report => exact absurd hnext (hexact _ _)
    | change l => rfl
    | copy => rfl

end Accesses

/-- The records of the pipeline along the runs of the program. -/
theorem pipeInv_run {mgmtDevice : HNodeDevice} {caches : Platform.Caches}
    (hr : Run (hnmgmtd envs handler) (Mgmtd.init mgmtDevice caches) ts s) : PipeInv s.pipe :=
  Run.invariant pipeInv_init pipeInv_step ((pipelinePart envs handler).run hr)

/-- As long as it is not dispatched, a record in the hand stays there, with its
request. -/
theorem hand_kept (hinv : PipeInv s.pipe) {l : Option PipeLabel}
    (hpipe : s.stepPipe l = some (s'.pipe, es))
    (hother : ∀ connInfo answer, l ≠ some (.dispatch connInfo answer))
    (hhand : s.pipe.mainHand = some rr) :
    s'.pipe.mainHand = some rr ∧ ∀ request, IsRequest s' rr request → IsRequest s rr request := by
  rcases stepPipe_cases hpipe with ⟨-, hsame, -⟩ | ⟨l', es', rfl, hstep, -⟩
  · unfold IsRequest
    rw [hsame]
    exact ⟨hhand, fun _ h => h⟩
  · refine ⟨mainHand_kept hstep (fun c a heq => hother c a (congrArg some heq)) hhand, ?_⟩
    intro request ⟨client, hget, hrequest⟩
    obtain ⟨client₀, hget₀, hsame⟩ :=
      request_of_placed hinv hstep (placed_of_hand hhand) hget
    exact ⟨client₀, hget₀, hsame.trans hrequest⟩

theorem working_step (hinv : PipeInv s.pipe)
    (h : ∀ w, s.work = some w → ∃ rr, Working envs handler ts s rr w)
    (hstep : (hnmgmtd envs handler).step s l = some (s', es)) (hwork : s'.work = some w) :
    ∃ rr, Working envs handler (ts ++ [⟨s, l, es, s'⟩]) s' rr w := by
  obtain ⟨-, m, es₁, es₂, hm, -, hpipe, hm', -⟩ := moved_of_step hstep
  rw [hm'] at hwork
  cases moved_of_moves hm with
  | aside work undispatched =>
    rw [work] at hwork
    obtain ⟨rr, hw⟩ := h w hwork
    obtain ⟨hhand, hrequest⟩ := hand_kept hinv hpipe undispatched hw.hand
    obtain ⟨accesses, haccesses⟩ := hw.accesses
    exact ⟨rr, hhand, fun request hr => hw.own request (hrequest request hr),
      fun request hr => hw.mapped request (hrequest request hr), hw.fresh, accesses,
      haccesses.later _⟩
  | passed idle hand looked => cases hwork
  | @begun env fuel req statusCode rr client opData idle hand get own mapped =>
    obtain rfl := Option.some.inj hwork
    -- the label is no step of the pipeline: its records are those of before
    have hsame : s'.pipe = s.pipe := (Prod.mk.inj (Option.some.inj hpipe)).1.symm
    have honly : ∀ request, IsRequest s' rr request → request = client.rr.request := by
      intro request ⟨client', hget', heq⟩
      rw [hsame] at hget'
      rw [← heq, Option.some.inj (get.symm.trans hget')]
    refine ⟨rr, by rw [hsame]; exact hand, fun request hr => ?_, fun request hr => ?_,
      ⟨statusCode, rfl⟩, [], List.nil_sublist _, rfl, fun i t hget => by simp at hget⟩
    · rw [honly request hr, ← checkForProxyRequestOf_eq]
      exact own
    · rw [honly request hr]
      exact mapped
  | @accessed w₀ access found work next =>
    obtain rfl := Option.some.inj hwork
    have hsame : s'.pipe = s.pipe := (Prod.mk.inj (Option.some.inj hpipe)).1.symm
    obtain ⟨rr, hw⟩ := h w₀ work
    obtain ⟨accesses, haccesses⟩ := hw.accesses
    have hrequest : ∀ request, IsRequest s' rr request → IsRequest s rr request := by
      unfold IsRequest
      rw [hsame]
      exact fun _ h => h
    exact ⟨rr, by rw [hsame]; exact hw.hand, fun request hr => hw.own request (hrequest request hr),
      fun request hr => hw.mapped request (hrequest request hr), hw.fresh, _,
      haccesses.accessed work hw.hand next⟩
  | finished work done returns => cases hwork

/-- **What the main thread works on** belongs to the request in its hand, in every
reachable state. -/
theorem working_run {mgmtDevice : HNodeDevice} {caches : Platform.Caches}
    (hr : Run (hnmgmtd envs handler) (Mgmtd.init mgmtDevice caches) ts s)
    (hwork : s.work = some w) : ∃ rr, Working envs handler ts s rr w := by
  have hall : ∀ w, s.work = some w → ∃ rr, Working envs handler ts s rr w := by
    refine Run.traceInvariant (P := fun ts s => ∀ w, s.work = some w → ∃ rr,
      Working envs handler ts s rr w) (fun w hnone => by cases hnone) ?_ hr
    intro us u l v es hus hu hstep w hw
    exact working_step (pipeInv_run hus) hu hstep hw
  exact hall w hwork

/-! ## §3. Requests for devices. -/

/-- The ticket was made of the request by the check of one step of the run. -/
def MadeBy (ts : List (Trans (Mgmtd ι) (MgmtdLabel ι) MgmtdEvent)) (request : HNSCGIMsg)
    (ticket : HNProxyTicket) : Prop :=
  ∃ before t after, ts = before ++ t :: after ∧ t.pre.pipe.mainHand = some ticket.rr ∧
    checkForProxyRequestOf t.pre.sys.arbiter ticket.rr request = some (some ticket)

theorem MadeBy.later {request : HNSCGIMsg} {ticket : HNProxyTicket} (h : MadeBy ts request ticket)
    (t : Trans (Mgmtd ι) (MgmtdLabel ι) MgmtdEvent) : MadeBy (ts ++ [t]) request ticket := by
  obtain ⟨before, t₀, after, rfl, hhand, hmade⟩ := h
  exact ⟨before, t₀, after ++ [t], by simp, hhand, hmade⟩

/-- A ticket that a step makes comes from a check of the record in the hand. -/
theorem madeBy_step (hr : ∀ w, s.work = some w → ∃ rr, Working envs handler ts s rr w)
    (hstep : (hnmgmtd envs handler).step s l = some (s', es)) {connInfo : Option HNMDARAddress}
    {answer : LocalAnswer} {m : Moves ι} (hm : s.moves envs handler l = some m)
    (hpipe : m.pipe = some (.dispatch connInfo answer)) {ticket : HNProxyTicket}
    {client : ClientRec} (hhand : s.pipe.mainHand = some ticket.rr)
    (hget : s.pipe.heap[ticket.rr]? = some client)
    (hmade : checkForProxyRequest ticket.rr client.rr.request connInfo = some (some ticket)) :
    MadeBy (ts ++ [⟨s, l, es, s'⟩]) client.rr.request ticket := by
  cases moved_of_moves hm with
  | aside work undispatched => exact absurd hpipe (undispatched connInfo answer)
  | @passed env fuel req statusCode rr connInfo' idle hand looked =>
    obtain rfl := Option.some.inj (hhand.symm.trans hand)
    obtain ⟨rfl, -⟩ := PipeLabel.dispatch.inj (Option.some.inj hpipe)
    obtain ⟨rfl, -⟩ := looked _ ⟨client, hget, rfl⟩
    rw [← checkForProxyRequestOf_eq] at hmade
    exact ⟨ts, _, [], rfl, hhand, hmade⟩
  | begun => cases hpipe
  | accessed => cases hpipe
  | @finished w c work done returns =>
    -- what is answered here is not for a device
    obtain ⟨rr, hw⟩ := hr w work
    obtain rfl := Option.some.inj (hhand.symm.trans hw.hand)
    obtain ⟨rfl, -⟩ := PipeLabel.dispatch.inj (Option.some.inj hpipe)
    cases (hw.own _ ⟨client, hget, rfl⟩).symm.trans hmade

/-- The tickets under way, in every reachable state, were made so. -/
theorem madeBy_run {mgmtDevice : HNodeDevice} {caches : Platform.Caches}
    (hr : Run (hnmgmtd envs handler) (Mgmtd.init mgmtDevice caches) ts s) {ticket : HNProxyTicket}
    (hmem : ticket ∈ ticketsOf s.pipe) {client : ClientRec}
    (hget : s.pipe.heap[ticket.rr]? = some client) : MadeBy ts client.rr.request ticket := by
  have hall : ∀ ticket ∈ ticketsOf s.pipe, ∀ client : ClientRec,
      s.pipe.heap[ticket.rr]? = some client → MadeBy ts client.rr.request ticket := by
    refine Run.traceInvariant (P := fun ts s => ∀ ticket ∈ ticketsOf s.pipe, ∀ client : ClientRec,
      s.pipe.heap[ticket.rr]? = some client → MadeBy ts client.rr.request ticket) ?_ ?_ hr
    · intro ticket hmem
      simp [ticketsOf, Mgmtd.init, Pipe.init] at hmem
    · intro us u l v es hus hu hstep ticket hmem client hget
      obtain ⟨-, m, es₁, es₂, hm, -, hpipe, -, -⟩ := moved_of_step hstep
      rcases stepPipe_cases hpipe with ⟨-, hsame, -⟩ | ⟨l', es', hl', hp, -⟩
      · rw [hsame] at hmem hget
        exact (hu ticket hmem client hget).later _
      · rcases tickets_of_step hp hmem with hold |
          ⟨hheap, connInfo, answer, client₀, rfl, hhand, hget₀, hmade⟩
        · obtain ⟨client₀, hget₀, hsame⟩ :=
            request_of_placed (pipeInv_run hus) hp (placed_of_ticket hold) hget
          rw [← hsame]
          exact (hu ticket hold client₀ hget₀).later _
        · rw [hheap] at hget
          obtain rfl := Option.some.inj (hget₀.symm.trans hget)
          exact madeBy_step (fun w hw => working_run hus hw) hstep hm hl' hhand hget hmade
  exact hall ticket hmem client hget

/-- The device is asked under the first plain IPv4 address of these, on the port that
was last announced with it. -/
def AnnouncedAs (es : List (Str × Str × UInt16)) (address : Str) (port : UInt16) : Prop :=
  ∃ first latest, es.find? (fun e => addressType e.2.1 == .ipv4) = some first ∧
    es.reverse.find? (fun e => e.2.1 = first.2.1) = some latest ∧
    address = first.2.1 ∧ port = latest.2.2

/-- What a ticket is made of. -/
theorem ticket_parts {a : HNManagedDeviceArbiter} {request : HNSCGIMsg} {ticket : HNProxyTicket}
    (h : checkForProxyRequestOf a rr request = some (some ticket)) :
    ∃ uri rest dcInfo, Platform.parseURI request.uri = some uri ∧
      Platform.uriPathSegments uri = proxySegments ticket.crc32ID rest ∧
      a.lookupConnectionInfo ticket.crc32ID .ipv4 newAddress = (dcInfo, .success) ∧
      ticket.address = dcInfo.address ∧ ticket.port = dcInfo.port ∧
      ticket.queryStr = Platform.uriRawQuery uri ∧ ticket.proxyPath = buildProxyPath rest := by
  cases huri : Platform.parseURI request.uri with
  | none =>
    unfold checkForProxyRequestOf at h
    rw [huri] at h
    cases h
  | some uri =>
    by_cases hproxy : ∃ id rest, Platform.uriPathSegments uri = proxySegments id rest
    · obtain ⟨id, rest, hsegments⟩ := hproxy
      rw [check_proxy huri hsegments] at h
      split at h
      next dcInfo hlookup =>
        obtain rfl := Option.some.inj (Option.some.inj h)
        exact ⟨uri, rest, dcInfo, rfl, hsegments, hlookup, rfl, rfl, rfl, rfl⟩
      next => cases h
    · cases (check_other huri fun id rest heq => hproxy ⟨id, rest, heq⟩).symm.trans h

/-- **A ticket asks the device that the request names**, under an address that the
main thread has found among those that had been announced for it by then. -/
theorem MadeBy.names {mgmtDevice : HNodeDevice} {caches : Platform.Caches}
    (hr : Run (hnmgmtd envs handler) (Mgmtd.init mgmtDevice caches) ts s)
    {request : HNSCGIMsg} {ticket : HNProxyTicket} (h : MadeBy ts request ticket) :
    ∃ uri rest, Platform.parseURI request.uri = some uri ∧
      Platform.uriPathSegments uri = proxySegments ticket.crc32ID rest ∧
      ticket.queryStr = Platform.uriRawQuery uri ∧ ticket.proxyPath = buildProxyPath rest ∧
      ∃ before t after, ts = before ++ t :: after ∧ t.pre.pipe.mainHand = some ticket.rr ∧
        AnnouncedAs (announced ticket.crc32ID ((arbiterPart envs handler).trace before))
          ticket.address ticket.port := by
  obtain ⟨before, t, after, rfl, hmain, hmade⟩ := h
  obtain ⟨uri, rest, dcInfo, huri, hsegments, hlookup, haddress, hport, hquery, hpath⟩ :=
    ticket_parts hmade
  refine ⟨uri, rest, huri, hsegments, hquery, hpath, before, t, after, rfl, hmain, ?_⟩
  -- the arbiter that was asked is one that its part of the run has reached
  have hsys := (arbiterPart envs handler).run (Run.split hr).1
  cases hfirst : (announced ticket.crc32ID ((arbiterPart envs handler).trace before)).find?
      fun e => addressType e.2.1 == .ipv4 with
  | none =>
    have hfailed := lookup_of_none hsys newAddress hfirst
    cases hfailed.symm.trans hlookup
  | some first =>
    obtain ⟨latest, hlatest, hfound⟩ := lookup_of_first hsys newAddress hfirst
    obtain ⟨rfl, -⟩ := Prod.mk.inj (hfound.symm.trans hlookup)
    exact ⟨first, latest, hfirst, hlatest, haddress, hport⟩

/-- **A device that is asked was announced, and named.**  In every state of the
program, reached while the buffers of a deleted record close nothing, in which the
sequencer has a ticket in its hand, for a record that is not deleted: the request
of the record is what was read of its connection; it names the device of the
ticket, and the ticket asks for the path behind the name, with the query of the
request; and the main thread, with this record in its hand, has found the address
among those that had been announced for the device by then. -/
theorem proxied_to_announced
    (hpoco : ∀ (uri : Platform.URI), ∀ segment ∈ Platform.uriPathSegments uri,
      segment ≠ [] ∧ 47 ∉ segment)
    (envs : ι → LocalEnv) (handler : Str → List Str → Option HNOperationData)
    (mgmtDevice : HNodeDevice) (caches : Platform.Caches)
    (ts : List (Trans (Mgmtd ι) (MgmtdLabel ι) MgmtdEvent)) (s : Mgmtd ι)
    (hr : Run (hnmgmtd envs handler) (Mgmtd.init mgmtDevice caches) ts s)
    (hown : StepsMeet ownBuffers ((pipelinePart envs handler).trace ts))
    (ticket : HNProxyTicket) (hhand : s.pipe.seqHand = some ticket) (client : ClientRec)
    (hget : s.pipe.heap[ticket.rr]? = some client) :
    client.rr.request =
        requestRead client.rr.fd ticket.rr ((pipelinePart envs handler).trace ts) ∧
      ∃ uri, Platform.parseURI client.rr.request.uri = some uri ∧
        Platform.uriPathSegments uri =
          proxySegments ticket.crc32ID (segmentsOf 47 ticket.proxyPath) ∧
        ticket.queryStr = Platform.uriRawQuery uri ∧
        ∃ before t after, ts = before ++ t :: after ∧ t.pre.pipe.mainHand = some ticket.rr ∧
          AnnouncedAs (announced ticket.crc32ID ((arbiterPart envs handler).trace before))
            ticket.address ticket.port := by
  have hpipe := faithful_run ((pipelinePart envs handler).run hr) hown
  refine ⟨(hpipe.read ticket.rr client hget).request, ?_⟩
  have hmem : ticket ∈ ticketsOf s.pipe := by simp [ticketsOf, hhand]
  obtain ⟨uri, rest, huri, hsegments, hquery, hpath, hannounced⟩ :=
    (madeBy_run hr hmem hget).names hr
  have hrest : segmentsOf 47 ticket.proxyPath = rest := by
    rw [hpath]
    refine segmentsOf_buildProxyPath fun segment hsegment => hpoco uri segment ?_
    rw [hsegments]
    simp [proxySegments, hsegment]
  exact ⟨uri, huri, by rw [hrest]; exact hsegments, hquery, hannounced⟩

/-! ## §4. Requests that the main thread answers. -/

/-- A response that the main thread has made of a request: with what it had in its
hand, all its accesses made, or for an operation that there is not. -/
inductive AnsweredBy (envs : ι → LocalEnv) (handler : Str → List Str → Option HNOperationData)
    (ts : List (Trans (Mgmtd ι) (MgmtdLabel ι) MgmtdEvent)) (rr : Nat)
    (request : HNSCGIMsg) (response : Response) : Prop
  | work {before after : List (Trans (Mgmtd ι) (MgmtdLabel ι) MgmtdEvent)}
      {t : Trans (Mgmtd ι) (MgmtdLabel ι) MgmtdEvent} {w : LocalWork ι} {c : LocalCall}
      (split : ts = before ++ t :: after) (working : Working envs handler before t.pre rr w)
      (mapped : mappedTo handler request = some w.call.opData)
      (done : w.nextAccess (envs w.env) t.pre.sys.arbiter = none)
      (returns : w.returns (envs w.env) t.pre.sys.arbiter = some c)
      (gives : response = c.rsp.response)
  | nobody (unmapped : mappedTo handler request = none)
      (gives : response = Response.new.configAsNotFound)

/-- The response of a record that was answered was given to it by a step of the run. -/
theorem gave_of_answered {mgmtDevice : HNodeDevice} {caches : Platform.Caches}
    (hr : Run (hnmgmtd envs handler) (Mgmtd.init mgmtDevice caches) ts s)
    (hbuffers : StepsMeet ownBuffers ((pipelinePart envs handler).trace ts))
    {client : ClientRec} (hget : s.pipe.heap[rr]? = some client)
    (hanswered : rr ∈ answeredPlaces s.pipe) :
    ∃ before t after l' m, ts = before ++ t :: after ∧
      Run (hnmgmtd envs handler) (Mgmtd.init mgmtDevice caches) before t.pre ∧
      t.pre.moves envs handler t.label = some m ∧ m.pipe = some l' ∧
      GaveAnswer rr client.rr.request client.rr.response
        ⟨t.pre.pipe, l', t.evts.filterMap (pipelinePart envs handler).event, t.post.pipe⟩ := by
  have hpipe : Faithful ((pipelinePart envs handler).trace ts) s.pipe :=
    faithful_run ((pipelinePart envs handler).run hr) hbuffers
  have hgave := hpipe.answered rr client hget
  rw [if_pos hanswered] at hgave
  obtain ⟨t', ht', hgave⟩ := hgave
  obtain ⟨before, t, after, rfl, htrans⟩ := (pipelinePart envs handler).exists_trans ht'
  obtain ⟨l', hl', rfl⟩ := Option.map_eq_some_iff.mp htrans
  obtain ⟨m, hm, hl'⟩ := Option.bind_eq_some_iff.mp hl'
  exact ⟨before, t, after, l', m, rfl, (Run.split hr).1, hm, hl', hgave⟩

/-- A request that is no device's is answered by the main thread. -/
theorem answeredBy_of_sent {mgmtDevice : HNodeDevice} {caches : Platform.Caches}
    (hr : Run (hnmgmtd envs handler) (Mgmtd.init mgmtDevice caches) ts s)
    (hbuffers : StepsMeet ownBuffers ((pipelinePart envs handler).trace ts))
    {client : ClientRec} (hget : s.pipe.heap[rr]? = some client)
    (hanswered : rr ∈ answeredPlaces s.pipe)
    (hown : ∀ connInfo, checkForProxyRequest rr client.rr.request connInfo = some none) :
    AnsweredBy envs handler ts rr client.rr.request client.rr.response := by
  obtain ⟨before, t, after, l', m, rfl, hrun, hm, hpipe, hgave⟩ :=
    gave_of_answered hr hbuffers hget hanswered
  cases hgave with
  | @device o ticket connInfo label hand get made gives =>
    cases (hown connInfo).symm.trans made
  | @manager connInfo answer label hand get own gives =>
    obtain rfl : l' = .dispatch connInfo answer := label
    have hdispatch : m.pipe = some (.dispatch connInfo answer) := hpipe
    obtain ⟨client', hget', hrequest⟩ := get
    -- `checkForProxyRequest` came back, so the URI parses, and the handler looks at it
    have hmapped : mapProxyRequest client.rr.request answer = answer := by
      unfold mapProxyRequest
      cases huri : Platform.parseURI client.rr.request.uri with
      | none =>
        unfold checkForProxyRequest at own
        rw [huri] at own
        cases own
      | some uri => rfl
    rw [hmapped] at gives
    have hrequest' : IsRequest t.pre rr client.rr.request := ⟨client', hget', hrequest⟩
    generalize ht : t.label = label at hm
    cases moved_of_moves hm with
    | aside work undispatched => exact absurd hdispatch (undispatched connInfo answer)
    | @passed env fuel req statusCode rr' connInfo' idle hand' looked =>
      obtain rfl := Option.some.inj (hand'.symm.trans hand)
      obtain ⟨-, rfl⟩ := PipeLabel.dispatch.inj (Option.some.inj hdispatch)
      rcases gives with hhandled | ⟨-, hresponse⟩
      · cases hhandled
      · refine .nobody ((looked _ hrequest').2 ?_) hresponse
        rw [checkForProxyRequestOf_eq]
        exact hown _
    | begun => cases hdispatch
    | accessed => cases hdispatch
    | @finished w c work done returns =>
      obtain ⟨rr', hw⟩ := working_run hrun work
      obtain rfl := Option.some.inj (hw.hand.symm.trans hand)
      obtain ⟨-, rfl⟩ := PipeLabel.dispatch.inj (Option.some.inj hdispatch)
      rcases gives with hhandled | ⟨hnone, -⟩
      · exact .work rfl hw (hw.mapped _ hrequest') done returns
          (LocalAnswer.handled.inj hhandled).symm
      · cases hnone

/-- A request for an operation of the manager: its path is no device's, and it is
registered for the operation. -/
structure AsksFor (handler : Str → List Str → Option HNOperationData) (request : HNSCGIMsg)
    (opData : HNOperationData) : Prop where
  own : ∀ uri, Platform.parseURI request.uri = some uri →
    ∀ id rest, Platform.uriPathSegments uri ≠ proxySegments id rest
  mapped : mappedTo handler request = some opData

/-- A path that is no device's gets no ticket. -/
theorem unproxied {request : HNSCGIMsg} {uri : Platform.URI}
    (huri : Platform.parseURI request.uri = some uri)
    (hown : ∀ id rest, Platform.uriPathSegments uri ≠ proxySegments id rest) (rr : Nat)
    (connInfo : Option HNMDARAddress) : checkForProxyRequest rr request connInfo = some none := by
  unfold checkForProxyRequest
  rw [huri, Option.map_some]
  split
  next root mgmt proxy crc32ID rest hsegments =>
    rw [if_pos]
    by_contra hfixed
    simp only [Bool.or_eq_true, decide_eq_true_eq, not_or, not_not] at hfixed
    obtain ⟨⟨rfl, rfl⟩, rfl⟩ := hfixed
    exact hown crc32ID rest hsegments
  next => rfl

theorem AsksFor.unproxied {request : HNSCGIMsg} {opData : HNOperationData}
    (h : AsksFor handler request opData) (rr : Nat) (connInfo : Option HNMDARAddress) :
    checkForProxyRequest rr request connInfo = some none := by
  obtain ⟨uri, huri, -⟩ := Option.bind_eq_some_iff.mp h.mapped
  exact Daemon.unproxied huri (h.own uri huri) rr connInfo

/-- What is sent is the response of a record whose request was read of its
connection, and it is sent there. -/
theorem sent_served {mgmtDevice : HNodeDevice} {caches : Platform.Caches}
    (hr : Run (hnmgmtd envs handler) (Mgmtd.init mgmtDevice caches) ts s)
    (hbuffers : StepsMeet ownBuffers ((pipelinePart envs handler).trace ts))
    (hstep : (hnmgmtd envs handler).step s l = some (s', es)) {fd : Nat}
    {owner : Option DescrOwner} (hsent : MgmtdEvent.pipe (.sent rr fd owner) ∈ es) :
    owner = some (.client rr) ∧
    ∃ client : ClientRec, s.pipe.heap[rr]? = some client ∧ client.rr.fd = fd ∧
      client.rr.request = requestRead fd rr ((pipelinePart envs handler).trace ts) ∧
      rr ∈ answeredPlaces s.pipe := by
  obtain ⟨-, m, es₁, es₂, -, harbiter, hpipe, -, rfl⟩ := moved_of_step hstep
  have hsent₂ : MgmtdEvent.pipe (.sent rr fd owner) ∈ es₂ := by
    rcases List.mem_append.mp hsent with hmem | hmem
    · rcases stepArbiter_cases harbiter with ⟨-, -, rfl⟩ | ⟨_, es', -, -, rfl⟩
      · cases hmem
      · obtain ⟨e, -, heq⟩ := List.mem_map.mp hmem
        cases heq
    · exact hmem
  rcases stepPipe_cases hpipe with ⟨-, -, rfl⟩ | ⟨l', es', -, hp, rfl⟩
  · cases hsent₂
  · obtain ⟨e, hmem, heq⟩ := List.mem_map.mp hsent₂
    obtain rfl := MgmtdEvent.pipe.inj heq
    obtain ⟨client, hget, rfl, hanswered⟩ := sent_live hp hmem
    have hfaithful : Faithful ((pipelinePart envs handler).trace ts) s.pipe :=
      faithful_run ((pipelinePart envs handler).run hr) hbuffers
    exact ⟨sent_of_took hfaithful.inv hfaithful.right (took_of_step hp) rr _ owner hmem,
      client, hget, rfl, (hfaithful.read rr client hget).request, hanswered⟩

/-- The case of the inventory is reached by its name. -/
theorem handle_inventory {env : LocalEnv} {fuel : Nat} {c : LocalCall}
    (hop : c.opData.opID = lit "getDeviceInventory") :
    handleLocalSCGIRequest env fuel c = c.getDeviceInventory env := by
  unfold handleLocalSCGIRequest
  rw [hop, if_neg (by decide +kernel), if_neg (by decide +kernel), if_pos rfl]

/-- A command and the inventory need no report. -/
theorem command_unreported {env : LocalEnv} {a : HNManagedDeviceArbiter}
    (hop : w.call.opData.opID = lit "postDeviceMgmtCommand") :
    w.nextAccess env a ≠ some .report := by
  intro h
  unfold LocalWork.nextAccess at h
  rw [if_pos hop] at h
  obtain ⟨id, -, h⟩ := Option.bind_eq_some_iff.mp h
  obtain ⟨read, -, h⟩ := Option.bind_eq_some_iff.mp h
  dsimp only at h
  split at h
  next => cases h
  next =>
    split at h
    next => cases h
    next => cases h
  next => cases h

theorem inventory_unreported {env : LocalEnv} {a : HNManagedDeviceArbiter}
    (hop : w.call.opData.opID = lit "getDeviceInventory") : w.nextAccess env a ≠ some .report := by
  intro h
  unfold LocalWork.nextAccess at h
  rw [hop, if_neg (by decide +kernel), if_neg (by decide +kernel), if_pos rfl] at h
  split at h
  next => cases h
  next => cases h

/-- Each record that was copied is one that a step found, with the request in the
hand of the main thread. -/
theorem copied_moment {before after accesses : List (Trans (Mgmtd ι) (MgmtdLabel ι) MgmtdEvent)}
    {t : Trans (Mgmtd ι) (MgmtdLabel ι) MgmtdEvent} (hsplit : ts = before ++ t :: after)
    (hhand : t.pre.pipe.mainHand = some rr) (haccesses : AccessesOf envs rr w before accesses)
    (hop : w.call.opData.opID = lit "getDeviceInventory") {id : Str} {device : HNMDARecord}
    (hget : (w.copies t.pre.sys.arbiter).deviceMap[id]? = some device) :
    ∃ before t after, ts = before ++ t :: after ∧ t.pre.pipe.mainHand = some rr ∧
      t.pre.sys.arbiter.deviceMap[id]? = some device := by
  have hseen := haccesses.seen fun _ _ => inventory_unreported hop
  unfold LocalWork.copies at hget
  rw [Std.ExtTreeMap.getElem?_map] at hget
  obtain ⟨last, hlast, hcopied⟩ := Option.map_eq_some_iff.mp hget
  generalize t.pre.sys.arbiter.deviceMap.keys.idxOf id = i at hcopied
  cases hround : (w.seen[i]?).bind fun seen => seen.deviceMap[id]? with
  | none =>
    rw [hround] at hcopied
    exact ⟨before, t, after, hsplit, hhand, hlast.trans (congrArg some hcopied)⟩
  | some copied =>
    rw [hround] at hcopied
    obtain rfl : copied = device := hcopied
    obtain ⟨a, ha, hfound⟩ := Option.bind_eq_some_iff.mp hround
    rw [← hseen, List.getElem?_map] at ha
    obtain ⟨t', ht', rfl⟩ := Option.map_eq_some_iff.mp ha
    obtain ⟨_, _, -, hhand', -⟩ := haccesses.made i t' ht'
    obtain ⟨before', after', rfl⟩ :=
      List.append_of_mem (haccesses.among.subset (List.mem_of_getElem? ht'))
    exact ⟨before', t', after' ++ t :: after, by simp [hsplit], hhand', hfound⟩

/-- What an inventory says that was copied record by record: its lists are those of
the records, and each record is the one of a state of the run, in which the
request was in the hand of the main thread; a device that is owned in it had said
so by then. -/
structure InventoryCopied (envs : ι → LocalEnv) (handler : Str → List Str → Option HNOperationData)
    (mgmtDevice : HNodeDevice) (ts : List (Trans (Mgmtd ι) (MgmtdLabel ι) MgmtdEvent)) (rr : Nat)
    (a : HNManagedDeviceArbiter) : Prop extends InventoryLists a where
  moment : ∀ (id : Str) (device : HNMDARecord), a.deviceMap[id]? = some device →
    ∃ before t after, ts = before ++ t :: after ∧ t.pre.pipe.mainHand = some rr ∧
      t.pre.sys.arbiter.deviceMap[id]? = some device ∧
      (device.ownerState = .mine → id ≠ mgmtDevice.hnodeIDCRC32Str →
        lastReplyNamesManager mgmtDevice (history ((arbiterPart envs handler).trace before)) id)

/-- **Each record of the inventory that a client reads was true at its moment**, while
the request was in the hand of the main thread.  The devices are those that the
arbiter knew at the end of it, and each is listed once, in the list of the state
that it had at its moment. -/
theorem inventory_served (hstable : CRC32StrStable) (envs : ι → LocalEnv)
    (handler : Str → List Str → Option HNOperationData) (mgmtDevice : HNodeDevice)
    (caches : Platform.Caches) (ts : List (Trans (Mgmtd ι) (MgmtdLabel ι) MgmtdEvent))
    (s : Mgmtd ι) (hr : Run (hnmgmtd envs handler) (Mgmtd.init mgmtDevice caches) ts s)
    (hown : StepsMeet ownBuffers ((pipelinePart envs handler).trace ts))
    (l : MgmtdLabel ι) (s' : Mgmtd ι) (es : List MgmtdEvent)
    (hstep : (hnmgmtd envs handler).step s l = some (s', es)) (rr fd : Nat)
    (owner : Option DescrOwner) (hsent : MgmtdEvent.pipe (.sent rr fd owner) ∈ es)
    (opData : HNOperationData) (hop : opData.opID = lit "getDeviceInventory")
    (hasks : AsksFor handler (requestRead fd rr ((pipelinePart envs handler).trace ts)) opData) :
    owner = some (.client rr) ∧
    ∃ client env copies before t after, s.pipe.heap[rr]? = some client ∧ client.rr.fd = fd ∧
      client.rr.response.Reads ((answerInventory copies).reply (envs env)) ∧
      InventoryCopied envs handler mgmtDevice ts rr copies ∧
      ts = before ++ t :: after ∧ t.pre.pipe.mainHand = some rr ∧
      ∀ id, id ∈ copies.deviceMap ↔ id ∈ t.pre.sys.arbiter.deviceMap := by
  obtain ⟨howner, client, hget, hfd, hrequest, hanswered⟩ := sent_served hr hown hstep hsent
  rw [← hrequest] at hasks
  have hby := answeredBy_of_sent hr hown hget hanswered (hasks.unproxied rr)
  cases hby with
  | nobody unmapped gives => cases unmapped.symm.trans hasks.mapped
  | @work before after t w c split working mapped done returns gives =>
    have hopID : w.call.opData.opID = lit "getDeviceInventory" := by
      rw [← hop, Option.some.inj (mapped.symm.trans hasks.mapped)]
    obtain ⟨statusCode, hnew⟩ := working.fresh
    obtain ⟨accesses, haccesses⟩ := working.accesses
    -- each copy was made while this request was in hand, from the records of that moment
    have hmoment : ∀ {id : Str} {device : HNMDARecord},
        (w.copies t.pre.sys.arbiter).deviceMap[id]? = some device →
        ∃ before t after, ts = before ++ t :: after ∧ t.pre.pipe.mainHand = some rr ∧
          t.pre.sys.arbiter.deviceMap[id]? = some device :=
      fun hcopied => copied_moment split working.hand haccesses hopID hcopied
    have hsys : ∀ {before after} {t : Trans (Mgmtd ι) (MgmtdLabel ι) MgmtdEvent},
        ts = before ++ t :: after → Run system (Sys.init mgmtDevice caches)
          ((arbiterPart envs handler).trace before) t.pre.sys := by
      intro before after t heq
      subst heq
      exact (arbiterPart envs handler).run (Run.split hr).1
    have hreads : ReadAs (w.envSeen (envs w.env)) _ _ :=
      getDeviceInventory_reply (c := w.callSeen t.pre.sys.arbiter) hnew
    unfold LocalWork.returns at returns
    rw [handle_inventory (c := w.callSeen t.pre.sys.arbiter) hopID] at returns
    -- the operation sees the copies in the place of the arbiter's records
    have hcopies : (w.callSeen t.pre.sys.arbiter).arbiter = w.copies t.pre.sys.arbiter :=
      if_pos hopID
    rw [returns, hcopies] at hreads
    cases hreads with
    | some hreads =>
      rw [ClientReads, ← gives] at hreads
      refine ⟨howner, client, w.env, _, before, t, after, hget, hfd, hreads, ⟨?_, ?_⟩, split,
        working.hand, fun id => Std.ExtTreeMap.mem_map⟩
      · refine inventoryLists_of (fun id device hcopied => ?_) fun hcopied => ?_
        · obtain ⟨before, t, after, heq, -, hfound⟩ := hmoment hcopied
          exact (indexInv_run hstable (hsys heq)).keys id device hfound
        · obtain ⟨before, t, after, heq, -, hfound⟩ := hmoment hcopied
          exact fits_run (hsys heq) hfound
      · intro id device hcopied
        obtain ⟨before, t, after, heq, hhand, hfound⟩ := hmoment hcopied
        exact ⟨before, t, after, heq, hhand, hfound, fun hmine hne =>
          ((ownedInv_run (hsys heq)).records id device hfound hne).mine hmine⟩

/-- What an access has done to the arbiter. -/
theorem accessed_step {mgmtDevice : HNodeDevice} {caches : Platform.Caches}
    {before after : List (Trans (Mgmtd ι) (MgmtdLabel ι) MgmtdEvent)}
    {t : Trans (Mgmtd ι) (MgmtdLabel ι) MgmtdEvent}
    (hr : Run (hnmgmtd envs handler) (Mgmtd.init mgmtDevice caches) (before ++ t :: after) s)
    {found : HNManagedDeviceArbiter} (hlabel : t.label = .access found)
    (hwork : t.pre.work = some w) {access : Access}
    (hnext : w.nextAccess (envs w.env) t.pre.sys.arbiter = some access) :
    ∃ es, t.pre.stepArbiter access.label = some (t.post.sys, es) := by
  obtain ⟨-, m, es₁, -, hm, harbiter, -, -, -⟩ := moved_of_step (Run.split hr).2
  rw [hlabel] at hm
  obtain ⟨w', hwork', hm⟩ := Option.bind_eq_some_iff.mp hm
  obtain rfl := Option.some.inj (hwork'.symm.trans hwork)
  obtain ⟨access', hnext', hm⟩ := Option.bind_eq_some_iff.mp hm
  obtain rfl := Option.some.inj hm
  obtain rfl := Option.some.inj (hnext'.symm.trans hnext)
  exact ⟨es₁, harbiter⟩

/-- The accesses of a command: it is stored, and if that succeeds, started. -/
theorem command_next {env : LocalEnv} {now : HNManagedDeviceArbiter}
    (hop : w.call.opData.opID = lit "postDeviceMgmtCommand") {id : Str}
    (hid : w.call.opData.getParam (lit "devCRC32ID") = some id) {read : LocalCall}
    (hread : w.call.readContentToLocal w.fuel = some read) :
    w.nextAccess env now =
      match w.seen with
      | [] => some (.change (.setDeviceMgmtCmdFromJSON id (env.parse read.reqContent.written)))
      | [a] =>
        if (a.setDeviceMgmtCmdFromJSON id (env.parse read.reqContent.written)).2 = .success then
          some (.change (.startDeviceMgmtCmd id))
        else none
      | _ => none := by
  unfold LocalWork.nextAccess
  rw [if_pos hop, hid, hread]
  rfl

/-- Two steps of the run, each with the record in the hand, have stored a command for
the device and started it. -/
def CommandStarted (ts : List (Trans (Mgmtd ι) (MgmtdLabel ι) MgmtdEvent)) (rr : Nat) (id : Str) :
    Prop :=
  ∃ before t₀ between t₁ after body, ts = before ++ t₀ :: between ++ t₁ :: after ∧
    t₀.pre.pipe.mainHand = some rr ∧ t₁.pre.pipe.mainHand = some rr ∧
    t₀.pre.sys.arbiter.setDeviceMgmtCmdFromJSON id body = (t₀.post.sys.arbiter, .success) ∧
    t₁.pre.sys.arbiter.startDeviceMgmtCmd id = (t₁.post.sys.arbiter, .success) ∧
    stateOf t₁.post.sys.arbiter id = some .execCmd

/-- A command that is started puts the device to EXEC_CMD. -/
theorem stateOf_started {a : HNManagedDeviceArbiter} {id : Str}
    (h : (a.startDeviceMgmtCmd id).2 = .success) :
    stateOf (a.startDeviceMgmtCmd id).1 id = some .execCmd := by
  unfold HNManagedDeviceArbiter.startDeviceMgmtCmd at h ⊢
  cases hget : a.deviceMap[id]? with
  | none =>
    rw [hget] at h
    cases h
  | some device =>
    show ((a.setDevice id (device.setManagementState .execCmd)).deviceMap[id]?).map
      HNMDARecord.mgmtState = some .execCmd
    rw [setDevice_get, if_pos rfl]
    rfl

/-- Reading the content does not look at the arbiter. -/
theorem readContent_arbiter (c : LocalCall) (a : HNManagedDeviceArbiter) (fuel : Nat) :
    ({ c with arbiter := a } : LocalCall).readContentToLocal fuel =
      (c.readContentToLocal fuel).map fun read => { read with arbiter := a } := by
  unfold LocalCall.readContentToLocal
  rw [Option.map_map]
  rfl

/-- What the client reads of a command, with the arbiter as it was seen. -/
theorem command_returns {env : LocalEnv} {a : HNManagedDeviceArbiter} {c : LocalCall}
    {statusCode : UInt32} (hnew : w.call.rsp = .new statusCode)
    (hop : w.call.opData.opID = lit "postDeviceMgmtCommand") {id : Str}
    (hid : w.call.opData.getParam (lit "devCRC32ID") = some id)
    (hreturns : w.returns env a = some c) :
    ∃ read, w.call.readContentToLocal w.fuel = some read ∧
      ClientReads c.rsp ((answerCommand (w.envSeen env) (w.seen.head?.getD a) id
        read.reqContent.written).reply (w.envSeen env)) := by
  unfold LocalWork.returns at hreturns
  rw [handle_command (c := w.callSeen a) hop] at hreturns
  have hreads : ReadAs (w.envSeen env)
      ((w.callSeen a).postDeviceMgmtCommand (w.envSeen env) w.fuel) _ :=
    postDeviceMgmtCommand_reply (c := w.callSeen a) hnew
  rw [hreturns, show (w.callSeen a).opData.getParam (lit "devCRC32ID") = some id from hid] at hreads
  have hbegun : w.begunWith a = w.seen.head?.getD a :=
    if_neg (by rw [hop]; decide +kernel)
  dsimp only at hreads
  rw [LocalWork.callSeen, hbegun, readContent_arbiter] at hreads
  cases hread : w.call.readContentToLocal w.fuel with
  | none =>
    rw [hread] at hreads
    cases hreads
  | some read =>
    rw [hread] at hreads
    cases hreads with
    | some hreads => exact ⟨read, rfl, hreads⟩

/-- The two steps that have made the accesses of a command. -/
theorem started_of_accesses {mgmtDevice : HNodeDevice} {caches : Platform.Caches}
    {before after rest : List (Trans (Mgmtd ι) (MgmtdLabel ι) MgmtdEvent)}
    {t t₀ t₁ : Trans (Mgmtd ι) (MgmtdLabel ι) MgmtdEvent}
    (hr : Run (hnmgmtd envs handler) (Mgmtd.init mgmtDevice caches) (before ++ t :: after) s)
    (haccesses : AccessesOf envs rr w before (t₀ :: t₁ :: rest))
    (hop : w.call.opData.opID = lit "postDeviceMgmtCommand") {id : Str}
    (hid : w.call.opData.getParam (lit "devCRC32ID") = some id) {read : LocalCall}
    (hread : w.call.readContentToLocal w.fuel = some read)
    (hstarted : (t₁.pre.sys.arbiter.startDeviceMgmtCmd id).2 = .success) :
    CommandStarted (before ++ t :: after) rr id := by
  obtain ⟨front, back, rfl, hfront, hback⟩ := List.cons_sublist_iff.mp haccesses.among
  obtain ⟨before₀, mid₀, rfl⟩ := List.append_of_mem hfront
  obtain ⟨mid₁, after₁, rfl⟩ := List.append_of_mem (hback.subset List.mem_cons_self)
  have hsplit : (before₀ ++ t₀ :: mid₀) ++ (mid₁ ++ t₁ :: after₁) ++ t :: after =
      before₀ ++ t₀ :: (mid₀ ++ mid₁) ++ t₁ :: (after₁ ++ t :: after) := by simp
  obtain ⟨found₀, access₀, hlabel₀, hhand₀, hwork₀, hnext₀, -⟩ := haccesses.made 0 t₀ rfl
  obtain ⟨found₁, access₁, hlabel₁, hhand₁, hwork₁, hnext₁, -⟩ := haccesses.made 1 t₁ rfl
  have hseen : w.seen.take 1 = [t₀.pre.sys.arbiter] := by
    rw [← haccesses.seen fun _ _ => command_unreported hop]
    rfl
  rw [hseen] at hwork₁ hnext₁
  -- the first call has stored the command, or there would not be a second
  have hr₁ := hsplit ▸ hr
  have hr₀ : Run (hnmgmtd envs handler) (Mgmtd.init mgmtDevice caches)
      (before₀ ++ t₀ :: ((mid₀ ++ mid₁) ++ t₁ :: (after₁ ++ t :: after))) s := by
    simpa using hr₁
  obtain ⟨es₁, harbiter₁⟩ := accessed_step hr₁ hlabel₁ hwork₁ hnext₁
  obtain ⟨es₀, harbiter₀⟩ := accessed_step hr₀ hlabel₀ hwork₀ hnext₀
  rw [command_next (w := { w with seen := w.seen.take 0 }) hop hid hread] at hnext₀
  rw [command_next (w := { w with seen := [t₀.pre.sys.arbiter] }) hop hid hread] at hnext₁
  obtain rfl := Option.some.inj hnext₀
  dsimp only at hnext₁
  split at hnext₁
  next hstored =>
    obtain rfl := Option.some.inj hnext₁
    have hpost₀ := (Prod.mk.inj (Option.some.inj harbiter₀)).1
    have hpost₁ := (Prod.mk.inj (Option.some.inj harbiter₁)).1
    refine ⟨before₀, t₀, mid₀ ++ mid₁, t₁, after₁ ++ t :: after, _, hsplit, hhand₀, hhand₁,
      Prod.ext ?_ hstored, Prod.ext ?_ hstarted, ?_⟩
    · rw [← hpost₀]
    · rw [← hpost₁]
    · rw [← hpost₁]
      exact stateOf_started hstarted
  next => cases hnext₁

/-- **An OK stands for a command that was started.**  A client that posts a command
for a device reads an error, or it reads OK; and then the command was stored for
that device by one step of the run, and the device put to EXEC_CMD by a later one,
both while its request was in the hand of the main thread. -/
theorem command_acknowledged (envs : ι → LocalEnv)
    (handler : Str → List Str → Option HNOperationData) (mgmtDevice : HNodeDevice)
    (caches : Platform.Caches) (ts : List (Trans (Mgmtd ι) (MgmtdLabel ι) MgmtdEvent))
    (s : Mgmtd ι) (hr : Run (hnmgmtd envs handler) (Mgmtd.init mgmtDevice caches) ts s)
    (hown : StepsMeet ownBuffers ((pipelinePart envs handler).trace ts))
    (l : MgmtdLabel ι) (s' : Mgmtd ι) (es : List MgmtdEvent)
    (hstep : (hnmgmtd envs handler).step s l = some (s', es)) (rr fd : Nat)
    (owner : Option DescrOwner) (hsent : MgmtdEvent.pipe (.sent rr fd owner) ∈ es)
    (opData : HNOperationData) (hop : opData.opID = lit "postDeviceMgmtCommand") (id : Str)
    (hid : opData.getParam (lit "devCRC32ID") = some id)
    (hasks : AsksFor handler (requestRead fd rr ((pipelinePart envs handler).trace ts)) opData) :
    owner = some (.client rr) ∧
    ∃ client, s.pipe.heap[rr]? = some client ∧ client.rr.fd = fd ∧
      (client.rr.response.Reads (.empty 500 (lit "Internal Server Error")) ∨
        client.rr.response.Reads { status := 200, reason := lit "OK", fields := [], body := [] } ∧
          CommandStarted ts rr id) := by
  obtain ⟨howner, client, hget, hfd, hrequest, hanswered⟩ := sent_served hr hown hstep hsent
  refine ⟨howner, client, hget, hfd, ?_⟩
  rw [← hrequest] at hasks
  have hby := answeredBy_of_sent hr hown hget hanswered (hasks.unproxied rr)
  cases hby with
  | nobody unmapped gives => cases unmapped.symm.trans hasks.mapped
  | @work before after t w c split working mapped done returns gives =>
    subst split
    obtain rfl := Option.some.inj (mapped.symm.trans hasks.mapped)
    obtain ⟨statusCode, hnew⟩ := working.fresh
    obtain ⟨accesses, haccesses⟩ := working.accesses
    have hseen := haccesses.seen fun _ _ => command_unreported hop
    obtain ⟨read, hread, hreads⟩ := command_returns hnew hop hid returns
    rw [ClientReads, ← gives] at hreads
    rw [command_next hop hid hread] at done
    -- the accesses that have been made
    cases accesses with
    | nil =>
      rw [← hseen] at done
      cases done
    | cons t₀ rest =>
      have hhead : w.seen.head?.getD t.pre.sys.arbiter = t₀.pre.sys.arbiter := by
        rw [← hseen]
        rfl
      rw [hhead] at hreads
      cases rest with
      | nil =>
        -- the command has not been stored
        have honly : w.seen = [t₀.pre.sys.arbiter] := hseen.symm
        simp only [honly] at done
        split at done
        next => cases done
        next hrefused =>
          left
          unfold answerCommand at hreads
          dsimp only at hreads
          rw [if_neg fun h => hrefused h.1] at hreads
          exact hreads
      | cons t₁ rest =>
        have hsecond : (w.envSeen (envs w.env)).meanwhile 0 = fun _ => t₁.pre.sys.arbiter := by
          funext a
          show (w.seen[0 + 1]?).getD a = _
          rw [← hseen]
          rfl
        unfold answerCommand at hreads
        dsimp only at hreads
        rw [hsecond] at hreads
        split at hreads
        next hboth => exact .inr ⟨hreads, started_of_accesses hr haccesses hop hid hread hboth.2⟩
        next => exact .inl hreads

end Work

end

/-! ### A device, an inventory and a command. -/

section Sample

open RefPlatform

/-- The operations of the samples. -/
def sampleHandler (_ : Str) (segments : List Str) : Option HNOperationData :=
  if segments = [lit "hnode2", lit "mgmt", lit "device-inventory"] then
    some { opID := lit "getDeviceInventory", paramMap := ∅ }
  else if segments = [lit "hnode2", lit "mgmt", lit "command"] then
    some
      { opID := lit "postDeviceMgmtCommand"
        paramMap := (∅ : StrMap Str).insertIfNew (lit "devCRC32ID") (lit "4900fb4e") }
  else none

/-- A body without content. -/
def sampleBody : Transfer :=
  { msg := HNSCGIMsg.new, contentMoved := 0, source := none, sink := none }

/-- The garden is found, and a client sends a request. -/
def asked (uri : Str) : List (MgmtdLabel Unit) :=
  daemonStarted.map .others ++ [.discover sampleDeviceFound, .others (.accept 5),
    .others (.readable 5 [requestFor uri]), .others .take, .check () 5 sampleBody 0]

/-- The buffers of deleted records close nothing in these runs. -/
def buffersOwn (ts : List (Trans Pipe PipeLabel PipeEvent)) : Bool :=
  ts.all fun t => decide (ownBuffers t.pre t.label)

theorem ownBuffers_of_decided {ts : List (Trans Pipe PipeLabel PipeEvent)}
    (h : buffersOwn ts = true) : StepsMeet ownBuffers ts :=
  fun t ht => of_decide_eq_true (List.all_eq_true.mp h t ht)

/-- What a report finds, where there is none. -/
def sampleFound : HNManagedDeviceArbiter := (Sys.init sampleManager ()).arbiter

/-- The libraries of the samples: every body is a claim. -/
def sampleEnvs (_ : Unit) : LocalEnv :=
  { sampleLocalEnv with parse := fun _ => claimBody }

/-- The segments of the reference URIs are not empty. -/
theorem segments_ref (uri : Platform.URI) : ∀ segment ∈ Platform.uriPathSegments uri,
    segment ≠ [] ∧ 47 ∉ segment := by
  intro segment hmem
  obtain ⟨hpart, hfull⟩ := List.mem_filter.mp hmem
  exact ⟨by simpa using hfull, not_mem_of_mem_splitOn hpart⟩

/-- The garden is asked where it was announced. -/
theorem proxied_to_announced_sample :
    ∃ ts s, Run (hnmgmtd sampleEnvs sampleHandler) (Mgmtd.init sampleManager ()) ts s ∧
      ∃ ticket before t after, s.pipe.seqHand = some ticket ∧ ts = before ++ t :: after ∧
        AnnouncedAs (announced ticket.crc32ID
          ((arbiterPart sampleEnvs sampleHandler).trace before)) ticket.address ticket.port := by
  obtain ⟨ts, s, hr, hp⟩ := Machine.exists_run_of_exec (M := hnmgmtd sampleEnvs sampleHandler)
    (s := Mgmtd.init sampleManager ())
    (l := asked (lit "/hnode2/mgmt/device-proxy/4900fb4e/status") ++ [.others .takeTicket])
    (p := fun r => buffersOwn ((pipelinePart sampleEnvs sampleHandler).trace r.1) &&
      r.2.pipe.seqHand.any fun ticket => (r.2.pipe.heap[ticket.rr]?).isSome)
    (by decide +kernel)
  obtain ⟨hown, hp⟩ := Bool.and_eq_true_iff.mp hp
  cases hhand : s.pipe.seqHand with
  | none =>
    rw [hhand] at hp
    cases hp
  | some ticket =>
    rw [hhand] at hp
    obtain ⟨client, hget⟩ := Option.isSome_iff_exists.mp hp
    obtain ⟨-, uri, -, -, -, before, t, after, hsplit, -, hannounced⟩ :=
      proxied_to_announced segments_ref sampleEnvs sampleHandler sampleManager () ts s hr
        (ownBuffers_of_decided hown) ticket hhand client hget
    exact ⟨ts, s, hr, ticket, before, t, after, hhand, hsplit, hannounced⟩

/-- A request with three segments asks for what they are registered for. -/
theorem sample_asks {request : HNSCGIMsg} {path : Str} (segments : List Str)
    {opData : HNOperationData} (huri : request.uri = path)
    (hsegments : (Platform.parseURI path).map Platform.uriPathSegments = some segments)
    (hthree : segments.length = 3)
    (hmapped : sampleHandler request.method segments = some opData) :
    AsksFor sampleHandler request opData := by
  subst huri
  obtain ⟨uri, huri, rfl⟩ := Option.map_eq_some_iff.mp hsegments
  refine ⟨fun uri' huri' id rest hproxy => ?_, ?_⟩
  · obtain rfl := Option.some.inj (huri.symm.trans huri')
    rw [hproxy] at hthree
    simp [proxySegments] at hthree
  · unfold mappedTo
    rw [huri]
    exact hmapped

/-- The inventory is that of the garden. -/
theorem inventory_served_sample :
    ∃ ts s, Run (hnmgmtd sampleEnvs sampleHandler) (Mgmtd.init sampleManager ()) ts s ∧
      ∃ client copies, s.pipe.heap[0]? = some client ∧
        client.rr.response.Reads ((answerInventory copies).reply (sampleEnvs ())) ∧
        InventoryCopied sampleEnvs sampleHandler sampleManager ts 0 copies ∧
        lit "4900fb4e" ∈ copies.deviceMap := by
  obtain ⟨ts, s, hr, hp⟩ := Machine.exists_run_of_exec (M := hnmgmtd sampleEnvs sampleHandler)
    (s := Mgmtd.init sampleManager ())
    (l := asked (lit "/hnode2/mgmt/device-inventory") ++ [.access sampleFound, .finish])
    (p := fun r => buffersOwn ((pipelinePart sampleEnvs sampleHandler).trace r.1) &&
      ((requestRead 5 0 ((pipelinePart sampleEnvs sampleHandler).trace r.1)).uri ==
        lit "/hnode2/mgmt/device-inventory" &&
      (((hnmgmtd sampleEnvs sampleHandler).step r.2 (.others .respond)).any (fun r =>
        r.2.contains (.pipe (.sent 0 5 (some (.client 0))))) &&
      r.1.all fun t => t.pre.pipe.mainHand.isNone ||
        t.pre.sys.arbiter.deviceMap.contains (lit "4900fb4e"))))
    (by decide +kernel)
  obtain ⟨hown, hp⟩ := Bool.and_eq_true_iff.mp hp
  obtain ⟨huri, hp⟩ := Bool.and_eq_true_iff.mp hp
  obtain ⟨hp, hgarden⟩ := Bool.and_eq_true_iff.mp hp
  cases hstep : (hnmgmtd sampleEnvs sampleHandler).step s (.others .respond) with
  | none =>
    rw [hstep] at hp
    cases hp
  | some sent =>
    rw [hstep] at hp
    have hasks := sample_asks [lit "hnode2", lit "mgmt", lit "device-inventory"]
      (beq_iff_eq.mp huri) (by decide +kernel) rfl (if_pos rfl)
    obtain ⟨-, client, _, copies, before, t, after, hget, -, hreads, hcopied, rfl, hhand, hsame⟩ :=
      inventory_served crc32StrStable_ref sampleEnvs sampleHandler sampleManager () ts s hr
        (ownBuffers_of_decided hown) (.others .respond) sent.1 sent.2 hstep 0 5 _
        (List.contains_iff_mem.mp hp) _ rfl hasks
    refine ⟨_, s, hr, client, copies, hget, hreads, hcopied, (hsame _).mpr ?_⟩
    -- the garden was found before the request was taken
    have hknown := List.all_eq_true.mp hgarden t (by simp)
    rw [hhand] at hknown
    exact Std.ExtTreeMap.mem_iff_contains.mpr hknown

/-- A claim of the garden is acknowledged, and it was started. -/
theorem command_acknowledged_sample :
    ∃ ts s, Run (hnmgmtd sampleEnvs sampleHandler) (Mgmtd.init sampleManager ()) ts s ∧
      ∃ client, s.pipe.heap[0]? = some client ∧
        client.rr.response.Reads { status := 200, reason := lit "OK", fields := [], body := [] } ∧
        CommandStarted ts 0 (lit "4900fb4e") := by
  obtain ⟨ts, s, hr, hp⟩ := Machine.exists_run_of_exec (M := hnmgmtd sampleEnvs sampleHandler)
    (s := Mgmtd.init sampleManager ())
    (l := asked (lit "/hnode2/mgmt/command") ++
      [.access sampleFound, .access sampleFound, .finish])
    (p := fun r => buffersOwn ((pipelinePart sampleEnvs sampleHandler).trace r.1) &&
      ((requestRead 5 0 ((pipelinePart sampleEnvs sampleHandler).trace r.1)).uri ==
        lit "/hnode2/mgmt/command" &&
      (((hnmgmtd sampleEnvs sampleHandler).step r.2 (.others .respond)).any (fun r =>
        r.2.contains (.pipe (.sent 0 5 (some (.client 0))))) &&
      (r.2.pipe.heap[0]?).all fun client => client.rr.response.msg.statusCode == 200 &&
        (client.rr.response.msg.reason == lit "OK" &&
          (client.rr.response.msg.paramMap.toList.isEmpty &&
            (client.rr.response.contentMoved == 0 && client.rr.response.source.isNone))))))
    (by decide +kernel)
  obtain ⟨hown, hp⟩ := Bool.and_eq_true_iff.mp hp
  obtain ⟨huri, hp⟩ := Bool.and_eq_true_iff.mp hp
  obtain ⟨hp, hok⟩ := Bool.and_eq_true_iff.mp hp
  cases hstep : (hnmgmtd sampleEnvs sampleHandler).step s (.others .respond) with
  | none =>
    rw [hstep] at hp
    cases hp
  | some sent =>
    rw [hstep] at hp
    have hasks := sample_asks [lit "hnode2", lit "mgmt", lit "command"] (beq_iff_eq.mp huri)
      (by decide +kernel) rfl ((if_neg (by decide +kernel)).trans (if_pos rfl))
    obtain ⟨-, client, hget, -, hreads⟩ :=
      command_acknowledged sampleEnvs sampleHandler sampleManager () ts s hr
        (ownBuffers_of_decided hown) (.others .respond) sent.1 sent.2 hstep 0 5 _
        (List.contains_iff_mem.mp hp) _ rfl (lit "4900fb4e")
        (by
          show ((∅ : StrMap Str).insertIfNew _ _)[_]? = some _
          rw [OrdMap.get_insertIfNew, if_pos ⟨rfl, by simp⟩]) hasks
    rw [hget] at hok
    simp only [Option.all_some, Bool.and_eq_true, beq_iff_eq, List.isEmpty_iff,
      Option.isNone_iff_eq_none] at hok
    obtain ⟨hstatus, hreason, hfields, hmoved, hsource⟩ := hok
    have hplain : PlainMsg client.rr.response.msg := by
      refine ⟨by rw [hreason]; decide +kernel, ?_⟩
      rw [hfields]
      exact fun _ hmem => absurd hmem List.not_mem_nil
    have hsent : client.rr.response.Reads
        { status := 200, reason := lit "OK", fields := [], body := [] } := by
      intro os htakes
      have hread := response_read (t := client.rr.response.transfer os) rfl htakes hmoved hplain
        fun is his => by
          cases hsource.symm.trans his
      have hreply : replyOf client.rr.response.msg (client.rr.response.transfer os).content =
          { status := 200, reason := lit "OK", fields := [], body := [] } := by
        rw [replyOf, hstatus, hreason, hfields, Transfer.content, Response.transfer, hsource]
        rfl
      rw [← hreply]
      exact hread
    rcases hreads with herror | ⟨-, hstarted⟩
    · exact absurd (congrArg Reply.status (hsent.unique herror)) (by decide)
    · exact ⟨ts, s, hr, client, hget, hsent, hstarted⟩

end Sample

end HNodeMgmt.Daemon
