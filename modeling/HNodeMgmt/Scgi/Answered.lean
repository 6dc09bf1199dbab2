/-
  HNodeMgmt.Scgi.Answered — what becomes of a queued request.

  Each request that the sink has queued is accounted for: either it is in one
  place and unanswered, or it is answered, once, and nowhere.  The books stay
  balanced in every step in which the thread that works on a record passes it
  on.  Two exits do not: the main loop parses the URI outside of any handler
  for the exception, and the proxy request returns, or is left by an
  exception, without posting its ticket.  And nothing can be said once a record
  has been used that a hang-up has deleted: its memory may be another record's.

  Main results:
    * `books_of_took` — a step that passes the record on keeps the books.
    * `answered_when` — in every run of such steps, in which no deleted record
      is used, each queued request is accounted for.
    * `request_lost` — a run that loses the request of a connected client.
-/
import Mathlib.Tactic.Common
import HNodeMgmt.Scgi.Registered

namespace HNodeMgmt.Scgi

open Lib Arbiter

/-! ## §1. The books. -/

/-- How often a record has been queued by the sink. -/
def queuedCount (h : List PipeEvent) (rr : Nat) : Nat := h.count (.queued rr)

/-- How often a response has been sent for it. -/
def sentCount (h : List PipeEvent) (rr : Nat) : Nat :=
  h.countP fun e => match e with | .sent rr' _ _ => rr' == rr | _ => false

/-- In exactly one place and not answered, or answered once and nowhere. -/
def Accounted (h : List PipeEvent) (s : Pipe) (rr : Nat) : Prop :=
  places s rr = 1 ∧ sentCount h rr = 0 ∨ places s rr = 0 ∧ sentCount h rr = 1

/-- What is queued is in a place or has been answered; a record that has been
answered is deleted. -/
structure Books (h : List PipeEvent) (s : Pipe) : Prop where
  inv : PipeInv s
  balance : ∀ rr, queuedCount h rr = places s rr + sentCount h rr
  once : ∀ rr, queuedCount h rr ≤ 1
  dead : ∀ rr, 0 < sentCount h rr → s.heap[rr]? = none ∧ rr < s.next

@[simp] theorem queuedCount_append (h es : List PipeEvent) (rr : Nat) :
    queuedCount (h ++ es) rr = queuedCount h rr + queuedCount es rr := by
  unfold queuedCount
  exact List.count_append

@[simp] theorem sentCount_append (h es : List PipeEvent) (rr : Nat) :
    sentCount (h ++ es) rr = sentCount h rr + sentCount es rr := by
  unfold sentCount
  exact List.countP_append

theorem queuedCount_queued (rr rr' : Nat) : queuedCount [.queued rr] rr' = one rr rr' := by
  simp [queuedCount, one, List.count_singleton]

theorem sentCount_queued (rr rr' : Nat) : sentCount [.queued rr] rr' = 0 := rfl

/-- What happens to descriptors is not counted. -/
@[simp] theorem queuedCount_descr (ds : List DescrEvent) (rr : Nat) :
    queuedCount (ds.map .descr) rr = 0 := by
  simp [queuedCount, List.count_eq_zero]

@[simp] theorem sentCount_descr (ds : List DescrEvent) (rr : Nat) :
    sentCount (ds.map .descr) rr = 0 := by
  simp [sentCount]

theorem queuedCount_sent (rr fd : Nat) (owner : Option DescrOwner) (ds : List DescrEvent)
    (rr' : Nat) : queuedCount (.sent rr fd owner :: ds.map .descr) rr' = 0 := by
  have hcons := queuedCount_append [.sent rr fd owner] (ds.map .descr) rr'
  rw [queuedCount_descr] at hcons
  exact hcons.trans (by simp [queuedCount])

theorem sentCount_sent (rr fd : Nat) (owner : Option DescrOwner) (ds : List DescrEvent)
    (rr' : Nat) : sentCount (.sent rr fd owner :: ds.map .descr) rr' = one rr rr' := by
  have hcons := sentCount_append [.sent rr fd owner] (ds.map .descr) rr'
  rw [sentCount_descr] at hcons
  refine hcons.trans ?_
  by_cases h : rr = rr' <;> simp [sentCount, one, h]

theorem books_init : Books [] Pipe.init :=
  ⟨pipeInv_init, fun _ => rfl, fun _ => Nat.zero_le 1, fun _ h => absurd h (Nat.lt_irrefl 0)⟩

/-- The books of a record say where it is. -/
theorem Books.accounted {h : List PipeEvent} {s : Pipe} (hbooks : Books h s) {rr : Nat}
    (hqueued : 0 < queuedCount h rr) : Accounted h s rr := by
  have hbalance := hbooks.balance rr
  have honce := hbooks.once rr
  unfold Accounted
  omega

section

variable [Platform]

variable {h : List PipeEvent} {s s' : Pipe} {l : PipeLabel} {es : List PipeEvent}

/-! ## §2. One step. -/

omit [Platform] in
/-- A record that has been answered is not the one a step works on, and the
change of another leaves it deleted. -/
theorem Books.dead_setClient {rr₀ rr : Nat} {client client' : ClientRec} (hbooks : Books h s)
    (get : s.heap[rr₀]? = some client) (tables : SameTables (s.setClient rr₀ client') s')
    (hsent : 0 < sentCount h rr) : s'.heap[rr]? = none ∧ rr < s'.next := by
  obtain ⟨hdead, hlt⟩ := hbooks.dead rr hsent
  have hne : rr₀ ≠ rr := by
    intro heq
    subst heq
    rw [get] at hdead
    cases hdead
  rw [tables.heap, setClient_heap, if_neg hne, tables.next]
  exact ⟨hdead, hlt⟩

omit [Platform] in
/-- Nor does a close bring it back. -/
theorem Books.dead_close {rr : Nat} (hbooks : Books h s) (fd : Nat)
    (hsent : 0 < sentCount h rr) :
    (s.closeClientConnection fd).1.heap[rr]? = none ∧
      rr < (s.closeClientConnection fd).1.next := by
  obtain ⟨hdead, hlt⟩ := hbooks.dead rr hsent
  rw [close_next]
  refine ⟨?_, hlt⟩
  cases hget : (s.closeClientConnection fd).1.heap[rr]? with
  | none => rfl
  | some client =>
    rw [heap_of_close s fd rr client hget] at hdead
    cases hdead

/-- **A step that passes the record on keeps the books.** -/
theorem books_of_took (hbooks : Books h s) (hhands : handsOn s l) (htook : Took s l s' es) :
    Books (h ++ es) s' := by
  have hinv' : PipeInv s' :=
    ⟨tables_of_took hbooks.inv.tables htook, placed_of_took hbooks.inv htook⟩
  cases htook with
  | @accepted fd idle free =>
    rw [List.append_nil]
    refine ⟨hinv', hbooks.balance, hbooks.once, fun rr hsent => ?_⟩
    obtain ⟨hdead, hlt⟩ := hbooks.dead rr hsent
    exact ⟨by rw [heap_accepted, if_neg (by omega), hdead], Nat.lt_succ_of_lt hlt⟩
  | moved other tables same =>
    refine ⟨hinv', fun rr => ?_, fun rr => ?_, fun rr hsent => ?_⟩
    · simpa [same rr] using hbooks.balance rr
    · simpa using hbooks.once rr
    · rw [tables.heap, tables.next]
      exact hbooks.dead rr (by simpa using hsent)
  | @updated _ _ rr₀ client client₁ other get sameFd parsed mapped tables same =>
    rw [List.append_nil]
    exact ⟨hinv', fun rr => by rw [same rr]; exact hbooks.balance rr, hbooks.once,
      fun _ hsent => hbooks.dead_setClient get tables hsent⟩
  | @queued fd arrived _ rr₀ client client₁ mapped get sameFd before after tables more =>
    -- its header was not complete, so it is nowhere and has not been answered
    have hplaces : places s rr₀ = 0 := by
      by_contra hne
      exact before (hbooks.inv.placed.parsed rr₀ client (by omega) get)
    have hsent₀ : sentCount h rr₀ = 0 := by
      by_contra hne
      have hdead := (hbooks.dead rr₀ (by omega)).1
      rw [get] at hdead
      cases hdead
    refine ⟨hinv', fun rr => ?_, fun rr => ?_, fun rr hsent => ?_⟩
    · rw [queuedCount_append, sentCount_append, queuedCount_queued, sentCount_queued, more rr,
        hbooks.balance rr]
      omega
    · rw [queuedCount_append, queuedCount_queued]
      by_cases heq : rr₀ = rr
      · subst heq
        rw [hbooks.balance, hplaces, hsent₀, one, if_pos rfl]
      · rw [one, if_neg heq]
        exact hbooks.once rr
    · rw [sentCount_append, sentCount_queued, Nat.add_zero] at hsent
      exact hbooks.dead_setClient get tables hsent
  | dropped other rough => exact absurd hhands rough
  | @closed fd =>
    refine ⟨hinv', fun rr => ?_, fun rr => ?_, fun rr hsent => ?_⟩
    · rw [places_close]
      simpa [Pipe.closeClientConnection] using hbooks.balance rr
    · simpa [Pipe.closeClientConnection] using hbooks.once rr
    · refine hbooks.dead_close fd ?_
      simpa [Pipe.closeClientConnection] using hsent
  | @sent _ rr₀ client head get tables less =>
    have hplaced : 0 < places s rr₀ := by
      have hless := less rr₀
      rw [one, if_pos rfl] at hless
      omega
    have hlive := hbooks.inv.tables.live rr₀ client get
      (hbooks.inv.placed.parsed rr₀ client hplaced get)
    unfold Pipe.closeClientConnection
    refine ⟨hinv', fun rr => ?_, fun rr => ?_, fun rr hsent => ?_⟩
    · rw [queuedCount_append, sentCount_append, queuedCount_sent, sentCount_sent,
        hbooks.balance rr, less rr]
      omega
    · rw [queuedCount_append, queuedCount_sent]
      exact hbooks.once rr
    · rw [tables.heap, tables.next, close_next, close_heap s hlive]
      by_cases heq : rr₀ = rr
      · -- the one that is answered is deleted with its connection
        rw [if_pos heq, ← heq]
        exact ⟨rfl, hbooks.inv.tables.fresh rr₀ client get⟩
      · rw [sentCount_append, sentCount_sent, one, if_neg heq, Nat.add_zero] at hsent
        rw [if_neg heq]
        exact hbooks.dead rr hsent

/-! ## §3. Whole runs. -/

/-- A record that is used has not been deleted. -/
def usesLive (s : Pipe) : PipeLabel → Prop
  | .readable fd _ => ∀ rr : Nat, s.find fd = some rr → rr ∈ s.heap
  | .dispatch _ _ => ∀ rr : Nat, s.mainHand = some rr → rr ∈ s.heap
  | .execute _ => ∀ ticket : HNProxyTicket, s.seqHand = some ticket → ticket.rr ∈ s.heap
  | .respond => ∀ rr : Nat, s.sinkResponses.head? = some rr → rr ∈ s.heap
  | _ => True

omit [Platform] in
theorem live_of_uses {rr : Nat} (h : rr ∈ s.heap) (hget : s.heap[rr]? = none) : False :=
  (OrdMap.not_mem_iff_get _ _).mpr hget h

omit [Platform] in
theorem processClientRequest_goes {fd : Nat} {arrived : List (List UInt8)}
    (hlive : usesLive s (.readable fd arrived)) :
    (s.processClientRequest fd arrived).1.crashed = s.crashed := by
  unfold Pipe.processClientRequest
  split
  next => rfl
  next rr hfind =>
    split
    next hget => exact (live_of_uses (hlive rr hfind) hget).elim
    next => split <;> rfl

omit [Platform] in
theorem sendResponse_goes (hlive : usesLive s .respond) (h : s.sendResponse = some (s', es)) :
    s'.crashed = s.crashed := by
  unfold Pipe.sendResponse at h
  split at h
  next => cases h
  next rr rest hq =>
    split at h
    next hget => exact (live_of_uses (hlive rr (by rw [hq]; rfl)) hget).elim
    next =>
      obtain ⟨rfl, -⟩ := Prod.mk.inj (Option.some.inj h)
      rfl

theorem dispatchRequest_goes {connInfo : Option HNMDARAddress} {answer : LocalAnswer}
    (hlive : usesLive s (.dispatch connInfo answer))
    (h : s.dispatchRequest connInfo answer = some s') : s'.crashed = s.crashed := by
  unfold Pipe.dispatchRequest at h
  split at h
  next => cases h
  next rr hhand =>
    split at h
    next hget => exact (live_of_uses (hlive rr hhand) hget).elim
    next =>
      split at h
      next => exact (Option.some.inj h) ▸ rfl
      next => exact (Option.some.inj h) ▸ rfl
      next => split at h <;> exact (Option.some.inj h) ▸ rfl

omit [Platform] in
theorem executeTicket_goes {o : ProxyOutcome} (hlive : usesLive s (.execute o))
    (h : s.executeTicket o = some s') : s'.crashed = s.crashed := by
  unfold Pipe.executeTicket at h
  split at h
  next => cases h
  next ticket hhand =>
    split at h
    next hget => exact (live_of_uses (hlive ticket hhand) hget).elim
    next => split at h <;> exact (Option.some.inj h) ▸ rfl

omit [Platform] in
/-- Taking from a queue reads no record. -/
theorem queue_goes (h : s.takeRequest = some s' ∨ s.forwardResponse = some s' ∨
    s.takeTicket = some s') : s'.crashed = s.crashed := by
  unfold Pipe.takeRequest Pipe.forwardResponse Pipe.takeTicket at h
  rcases h with h | h | h
  all_goals
    split at h
    next => exact (Option.some.inj h) ▸ rfl
    next => cases h

/-- **A run goes on** after a step that uses no deleted record. -/
theorem crashed_of_usesLive (hlive : usesLive s l) (hstep : pipeline.step s l = some (s', es)) :
    s'.crashed = false := by
  have hstep' : s.step l = some (s', es) := hstep
  unfold Pipe.step at hstep'
  split at hstep'
  next => cases hstep'
  next hgoes =>
    suffices hsame : s'.crashed = s.crashed by rw [hsame, Bool.eq_false_iff.mpr hgoes]
    -- a step crashes only where it looks its record up, in four of the labels
    have hdescr : ∀ d, s.stepDescr d = some (s', es) → s'.crashed = s.crashed := by
      intro d h
      obtain ⟨r, -, heq⟩ := Option.map_eq_some_iff.mp h
      exact (Prod.mk.inj heq).1 ▸ rfl
    have hsilent : ∀ r : Option Pipe, (∀ s₁, r = some s₁ → s₁.crashed = s.crashed) →
        r.map (fun s₁ => (s₁, ([] : List PipeEvent))) = some (s', es) →
        s'.crashed = s.crashed := by
      intro r hr h
      obtain ⟨s₁, hs₁, heq⟩ := Option.map_eq_some_iff.mp h
      exact (Prod.mk.inj heq).1 ▸ hr s₁ hs₁
    cases l with
    | otherOpen fd => exact hdescr _ hstep'
    | otherClose id => exact hdescr _ hstep'
    | destroyOfilebuf => exact hdescr _ hstep'
    | destroyIfilebuf => exact hdescr _ hstep'
    | accept fd =>
      obtain ⟨-, heq⟩ := Option.ite_none_right_eq_some.mp hstep'
      exact (Prod.mk.inj (Option.some.inj heq)).1 ▸ rfl
    | clientCloses conn =>
      obtain ⟨-, heq⟩ := Option.ite_none_right_eq_some.mp hstep'
      exact (Prod.mk.inj (Option.some.inj heq)).1 ▸ rfl
    | readable fd arrived =>
      obtain ⟨-, heq⟩ := Option.ite_none_right_eq_some.mp hstep'
      exact (congrArg (fun r : Pipe × List PipeEvent => r.1.crashed)
        (Option.some.inj heq).symm).trans (processClientRequest_goes hlive)
    | hangup fd =>
      obtain ⟨-, heq⟩ := Option.ite_none_right_eq_some.mp hstep'
      exact (Prod.mk.inj (Option.some.inj heq)).1 ▸ rfl
    | respond =>
      obtain ⟨-, heq⟩ := Option.ite_none_right_eq_some.mp hstep'
      exact sendResponse_goes hlive heq
    | dispatch connInfo answer =>
      exact hsilent _ (fun _ h => dispatchRequest_goes hlive h) hstep'
    | execute o => exact hsilent _ (fun _ h => executeTicket_goes hlive h) hstep'
    | take => exact hsilent _ (fun _ h => queue_goes (.inl h)) hstep'
    | forward => exact hsilent _ (fun _ h => queue_goes (.inr (.inl h))) hstep'
    | takeTicket => exact hsilent _ (fun _ h => queue_goes (.inr (.inr h))) hstep'

/-- **No request is lost or answered twice** in a run whose steps pass the
record they work on on, and use no record that has been deleted. -/
theorem answered_when (ts : List (Trans Pipe PipeLabel PipeEvent)) (s : Pipe)
    (hr : Run pipeline Pipe.init ts s) (hok : StepsMeet handsOn ts)
    (hlive : StepsMeet usesLive ts) :
    (∀ rr, sentCount (history ts) rr ≤ 1) ∧
      (∀ rr, PipeEvent.queued rr ∈ history ts → Accounted (history ts) s rr) ∧
      s.crashed = false := by
  have hbooks : Books (history ts) s := by
    refine Run.historyInvariant (P := Books) books_init ?_ hr hok
    intro h u l v es hbooks hhands hstep
    exact books_of_took hbooks hhands (took_of_step hstep)
  have hgoes : s.crashed = false := by
    refine Run.historyInvariant (P := fun _ s => s.crashed = false) rfl ?_ hr hlive
    intro _ u l v es _ hmeets hstep
    exact crashed_of_usesLive hmeets hstep
  refine ⟨fun rr => ?_, fun rr hqueued => hbooks.accounted (List.count_pos_iff.mpr hqueued), hgoes⟩
  have hbalance := hbooks.balance rr
  have honce := hbooks.once rr
  omega

/-- A test that is enough for `handsOn`, for runs that are executed. -/
def handsOnCheck (s : Pipe) : PipeLabel → Bool
  | .dispatch _ answer =>
    match s.mainHand.bind fun rr => s.heap[rr]?, answer with
    | none, _ => true
    | some _, .raised => false
    | some client, _ => (Platform.parseURI client.rr.request.uri).isSome
  | .execute o =>
    match s.seqHand.bind fun ticket => s.heap[ticket.rr]? with
    | none => true
    | some client =>
      o.initiated && (client.rr.request.getContentLength == 0 ||
        o.transferred == some .msgComplete) && o.response.isSome
  | _ => true

/-- A test for `usesLive`, for runs that are executed. -/
def usesLiveCheck (s : Pipe) : PipeLabel → Bool
  | .readable fd _ => (s.find fd).all fun rr => decide (rr ∈ s.heap)
  | .dispatch _ _ => s.mainHand.all fun rr => decide (rr ∈ s.heap)
  | .execute _ => s.seqHand.all fun ticket => decide (ticket.rr ∈ s.heap)
  | .respond => s.sinkResponses.head?.all fun rr => decide (rr ∈ s.heap)
  | _ => true

omit [Platform] in
theorem usesLive_of_check (hcheck : usesLiveCheck s l = true) : usesLive s l := by
  cases l with
  | readable | dispatch | execute | respond =>
    intro rr hsome
    rw [usesLiveCheck, hsome] at hcheck
    exact of_decide_eq_true hcheck
  | _ => trivial

theorem handsOn_of_check (hcheck : handsOnCheck s l = true) : handsOn s l := by
  cases l with
  | dispatch connInfo answer =>
    intro rr client hhand hget
    have hbind : (s.mainHand.bind fun rr => s.heap[rr]?) = some client := by
      rw [hhand]
      exact hget
    simp only [handsOnCheck, hbind] at hcheck
    cases answer with
    | raised => cases hcheck
    | _ => exact ⟨Option.isSome_iff_ne_none.mp hcheck, fun _ => nofun⟩
  | execute o =>
    intro ticket client hhand hget
    have hbind : (s.seqHand.bind fun ticket => s.heap[ticket.rr]?) = some client := by
      rw [hhand]
      exact hget
    simp only [handsOnCheck, hbind, Bool.and_eq_true, Bool.or_eq_true, beq_iff_eq] at hcheck
    exact ⟨hcheck.1.1, hcheck.1.2, Option.isSome_iff_ne_none.mp hcheck.2⟩
  | _ => trivial

end

/-! ## §4. A request that is answered, and one that is lost. -/

section Sample

open RefPlatform

/-- A request for a device goes through the sequencer and back. -/
def proxiedRun : List PipeLabel :=
  daemonStarted ++ [.accept 5,
    .readable 5 [requestFor (lit "/hnode2/mgmt/device-proxy/4900fb4e/status")], .take,
    .dispatch (some (setAddressInfo (lit "garden.local") (lit "192.168.1.10") 8080)) .noHandler,
    .takeTicket,
    .execute { initiated := true, transferred := none, response := some .new },
    .forward, .respond]

/-- A run that answers a request. -/
theorem answered_sample :
    ∃ ts s, Run pipeline Pipe.init ts s ∧ sentCount (history ts) 0 = 1 ∧
      (∀ rr, sentCount (history ts) rr ≤ 1) ∧
      (∀ rr, PipeEvent.queued rr ∈ history ts → Accounted (history ts) s rr) ∧
      s.crashed = false := by
  obtain ⟨ts, s, hr, hp⟩ := Machine.exists_run_of_exec (M := pipeline) (s := Pipe.init)
    (l := proxiedRun)
    (p := fun r =>
      r.1.all (fun t => handsOnCheck t.pre t.label && usesLiveCheck t.pre t.label) &&
      sentCount (history r.1) 0 == 1)
    (by decide +kernel)
  obtain ⟨hall, hsent⟩ := Bool.and_eq_true_iff.mp hp
  have hmeets : ∀ t ∈ ts, handsOn t.pre t.label ∧ usesLive t.pre t.label := by
    intro t ht
    obtain ⟨hhands, hlive⟩ := Bool.and_eq_true_iff.mp (List.all_eq_true.mp hall t ht)
    exact ⟨handsOn_of_check hhands, usesLive_of_check hlive⟩
  exact ⟨ts, s, hr, by simpa using hsent,
    answered_when ts s hr (fun t ht => (hmeets t ht).1) fun t ht => (hmeets t ht).2⟩

/-- The URI ends in a percent sign. -/
def lostRun : List PipeLabel :=
  daemonStarted ++ [.accept 5, .readable 5 [requestFor (lit "/%")], .take,
    .dispatch none .noHandler]

/-- **A request is lost**: the exception of the URI leaves the main loop, with
the record in its hand and the client waiting. -/
theorem request_lost :
    ¬ ∀ ts s, Run pipeline Pipe.init ts s →
      (∀ rr, sentCount (history ts) rr ≤ 1) ∧
        ∀ rr, PipeEvent.queued rr ∈ history ts → rr ∉ s.gone → Accounted (history ts) s rr := by
  intro h
  obtain ⟨ts, s, hr, hp⟩ := Machine.exists_run_of_exec (M := pipeline) (s := Pipe.init)
    (l := lostRun)
    (p := fun r => (history r.1).contains (.queued 0) && !r.2.gone.contains 0 &&
      places r.2 0 == 0 && sentCount (history r.1) 0 == 0)
    (by decide +kernel)
  simp only [Bool.and_eq_true, Bool.not_eq_true', beq_iff_eq, List.contains_iff_mem] at hp
  obtain ⟨⟨⟨hqueued, hhere⟩, hplaces⟩, hsent⟩ := hp
  have hgone : 0 ∉ s.gone := by
    intro hmem
    rw [List.contains_iff_mem.mpr hmem] at hhere
    cases hhere
  rcases (h ts s hr).2 0 hqueued hgone with ⟨hone, -⟩ | ⟨-, hone⟩
  · omega
  · omega

end Sample

end HNodeMgmt.Scgi
