/-
  HNodeMgmt.Scgi.Ready — when a connection has a request.

  The switch of `recvData` falls from the case for a wait into the one for a
  request.  No state lets a wait get that far: whatever the reads of a call are
  answered, REQUEST_READY is the call that reads the comma, and the record is
  closed to reads from then on.

  Main results:
    * `readyBooks_step` — what a call, with any answers, does to the books of
      a connection.
    * `queuedOnce_of_took` — what a step of the pipeline does to them.
    * `ready_once` — a connection has one request at most, and a complete one.
-/
import Mathlib.Tactic.Common
import HNodeMgmt.Scgi.AnyRead
import HNodeMgmt.Scgi.Netstring
import HNodeMgmt.Scgi.Answered

namespace HNodeMgmt.Scgi

open Lib HeaderState

/-! ## §1. The calls of a connection. -/

/-- A call of `recvData`: what it returned, and the reads it made. -/
structure RecvCall where
  result : HNSSResult
  reads : List ReadCall
  deriving DecidableEq, Repr

/-- A record, called again and again; a label is the answers the reads of a
call get. -/
def connection : Machine HNSCGIRR (List (Option (List UInt8))) RecvCall :=
  { step := fun rr answers =>
      let (result, rr', script) := rr.recvData (Script.mk answers [])
      some (rr', [{ result, reads := script.made }]) }

/-- How often a request was reported. -/
def readyCount (h : List RecvCall) : Nat := h.countP fun call => call.result == .requestReady

/-- The bytes all calls have read. -/
def callBytes (h : List RecvCall) : List UInt8 := h.flatMap fun call => readBytes call.reads

/-- What is right about a call, made when the calls of `h` had been. -/
structure CallRight (h : List RecvCall)
    (t : Trans HNSCGIRR (List (Option (List UInt8))) RecvCall) : Prop where
  /-- A request is reported by the call in which the record gets done. -/
  entered : readyCount t.evts = 1 ↔ t.pre.rxState ≠ .hdrDone ∧ t.post.rxState = .hdrDone
  /-- Its block is extracted and its comma read. -/
  complete : readyCount t.evts = 1 → t.post.request.headerComplete = true ∧
    ∃ text block, 58 ∉ text ∧ callBytes (h ++ t.evts) = text ++ 58 :: (block ++ [44]) ∧
      block.length = t.post.expHdrLen.toNat ∧ t.post.request = parsedRequest block
  /-- No read of it failed or found nothing. -/
  fed : readyCount t.evts = 1 → ∀ call ∈ t.evts, ∀ r ∈ call.reads, r.Fed
  /-- A record that is done, or in error, reads and changes nothing. -/
  closed : t.pre.rxState = .hdrDone ∨ t.pre.rxState = .error →
    t.post = t.pre ∧ t.evts = [{ result := .success, reads := [] }]

/-- The books of a connection: a request has been reported if and only if the
record is done, and a record that is not in error holds what the reader makes
of the bytes that were read. -/
structure ReadyBooks (fd : Nat) (h : List RecvCall) (rr : HNSCGIRR) : Prop where
  count : readyCount h = if rr.rxState = .hdrDone then 1 else 0
  reading : rr.rxState = .error ∨
    ∃ st, Holds fd rr st ∧ Reads headerReader (.len []) (callBytes h) st []

variable {fd : Nat} {h : List RecvCall} {rr rr' : HNSCGIRR}
  {answers : List (Option (List UInt8))} {es : List RecvCall}

theorem readyCount_append (h es : List RecvCall) :
    readyCount (h ++ es) = readyCount h + readyCount es := List.countP_append

theorem callBytes_append (h es : List RecvCall) :
    callBytes (h ++ es) = callBytes h ++ callBytes es := List.flatMap_append

theorem readyBooks_init (fd : Nat) : ReadyBooks fd [] (HNSCGIRR.new fd) :=
  ⟨rfl, .inr ⟨.len [], .inr ⟨rfl, rfl⟩, Reads.refl⟩⟩

/-- A record that holds a state of the reader is done, or in error, exactly in
a final one. -/
theorem holds_final {st : HeaderState} (hholds : Holds fd rr st)
    (hclosed : ¬ (rr.rxState = .hdrDone ∨ rr.rxState = .error)) : st.final = false := by
  cases hfinal : st.final with
  | false => rfl
  | true =>
    rcases hholds with rfl | ⟨-, rfl⟩
    · exact absurd (final_rxState fd hfinal) hclosed
    · cases hfinal

/-- The reads of a call, behind those of the calls before. -/
theorem reads_call {p : ReadCall → Prop} {st st' : HeaderState} {script' : Script}
    (result : HNSSResult) (hreads : Reads headerReader (.len []) (callBytes h) st [])
    (hgoes : Goes p st { answers, made := [] } st' script') :
    (∀ r ∈ script'.made, p r) ∧
      Reads headerReader (.len []) (callBytes (h ++ [{ result, reads := script'.made }]))
        st' [] := by
  obtain ⟨calls, hmade, hp, hcalls⟩ := hgoes
  rw [List.nil_append] at hmade
  rw [hmade]
  refine ⟨hp, ?_⟩
  have hbytes : callBytes (h ++ [RecvCall.mk result calls]) = callBytes h ++ readBytes calls := by
    rw [callBytes_append]
    simp [callBytes]
  rw [hbytes]
  exact (hreads.append (readBytes calls)).trans hcalls

/-- A call that reports no request, and leaves the record not done, is right. -/
theorem callRight_of_quiet {result : HNSSResult} {reads : List ReadCall}
    (hquiet : result ≠ .requestReady) (hopen : rr.rxState ≠ .hdrDone ∧ rr.rxState ≠ .error)
    (hafter : rr'.rxState ≠ .hdrDone) : CallRight h ⟨rr, answers, [{ result, reads }], rr'⟩ := by
  have hcount : readyCount [RecvCall.mk result reads] = 0 := by
    simp [readyCount, hquiet]
  refine ⟨?_, ?_, ?_, ?_⟩
  · rw [hcount]
    exact ⟨fun hone => absurd hone Nat.zero_ne_one, fun hdone => absurd hdone.2 hafter⟩
  · intro hone
    exact absurd (hcount.symm.trans hone) Nat.zero_ne_one
  · intro hone
    exact absurd (hcount.symm.trans hone) Nat.zero_ne_one
  · rintro (hdone | herror)
    · exact absurd hdone hopen.1
    · exact absurd herror hopen.2

/-- **What a call does to the books.** -/
theorem readyBooks_step (hbooks : ReadyBooks fd h rr)
    (hstep : connection.step rr answers = some (rr', es)) :
    ReadyBooks fd (h ++ es) rr' ∧ CallRight h ⟨rr, answers, es, rr'⟩ := by
  have hcall : ∀ {result : HNSSResult} {rr₁ : HNSCGIRR} {script : Script},
      rr.recvData (Script.mk answers []) = (result, rr₁, script) →
      rr' = rr₁ ∧ es = [{ result, reads := script.made }] := by
    intro result rr₁ script heq
    have hsome := hstep
    simp only [connection, heq] at hsome
    obtain ⟨rfl, rfl⟩ := Prod.mk.inj (Option.some.inj hsome)
    exact ⟨rfl, rfl⟩
  by_cases hclosed : rr.rxState = .hdrDone ∨ rr.rxState = .error
  · -- HDR_DONE and ERROR have no case that reads
    obtain ⟨rfl, rfl⟩ := hcall (recvData_stays hclosed _)
    have hnone : readyCount [RecvCall.mk .success []] = 0 := rfl
    refine ⟨⟨?_, ?_⟩, ⟨?_, ?_, ?_, fun _ => ⟨rfl, rfl⟩⟩⟩
    · rw [readyCount_append, hnone]
      exact hbooks.count
    · rw [callBytes_append]
      simpa [callBytes, readBytes] using hbooks.reading
    · exact ⟨fun hone => absurd hone Nat.zero_ne_one, fun hdone => absurd hdone.2 hdone.1⟩
    · exact fun hone => absurd hone Nat.zero_ne_one
    · exact fun hone => absurd hone Nat.zero_ne_one
  have hopen : rr.rxState ≠ .hdrDone ∧ rr.rxState ≠ .error := not_or.mp hclosed
  have hzero : readyCount h = 0 := by rw [hbooks.count, if_neg hopen.1]
  obtain ⟨st, hholds, hreads⟩ := hbooks.reading.resolve_left hopen.2
  obtain ⟨r, hout, heq⟩ := call_outcome hholds (holds_final hholds hclosed) { answers, made := [] }
  cases hout with
  | @waiting st' script' goes notFinal =>
    obtain ⟨rfl, rfl⟩ := hcall heq
    have hafter : (st'.record fd).rxState ≠ .hdrDone := by
      intro hdone
      rw [rxState_final (.inl hdone)] at notFinal
      cases notFinal
    have hright : CallRight h ⟨rr, answers, [{ result := .success, reads := script'.made }],
        st'.record fd⟩ := callRight_of_quiet (fun h => by cases h) hopen hafter
    refine ⟨⟨?_, .inr ⟨st', .inl rfl, (reads_call _ hreads goes).2⟩⟩, hright⟩
    rw [if_neg hafter, readyCount_append, hzero]
    rfl
  | @ready exp request script' goes =>
    -- the one request: the reader has come to its end within this call
    obtain ⟨rfl, rfl⟩ := hcall heq
    obtain ⟨hfed, hall⟩ := reads_call .requestReady hreads goes
    have hone : readyCount [RecvCall.mk .requestReady script'.made] = 1 := rfl
    refine ⟨⟨?_, .inr ⟨_, .inl rfl, hall⟩⟩, ⟨?_, ?_, ?_, fun hbefore => absurd hbefore hclosed⟩⟩
    · rw [readyCount_append, hzero]
      exact hone
    · exact iff_of_true hone ⟨hopen.1, rfl⟩
    · intro _
      obtain ⟨text, block, hcolon, hbytes, rfl, hlen, rfl⟩ := reads_done_iff.mp hall
      exact ⟨rfl, text, block, hcolon, hbytes, hlen, rfl⟩
    · intro _ call hcall
      rw [List.mem_singleton.mp hcall]
      exact hfed
  | @failed _ script' error =>
    obtain ⟨rfl, rfl⟩ := hcall heq
    have hafter : rr'.rxState ≠ .hdrDone := by
      rw [error]
      exact fun h => by cases h
    have hright : CallRight h ⟨rr, answers, [{ result := .failure, reads := script'.made }], rr'⟩ :=
      callRight_of_quiet (fun h => by cases h) hopen hafter
    refine ⟨⟨?_, .inl error⟩, hright⟩
    rw [if_neg hafter, readyCount_append, hzero]
    rfl

/-! ## §2. The requests of the pipeline. -/

section

variable [Platform] {s s' : Pipe} {l : PipeLabel} {hist ps : List PipeEvent}

/-- What holds of the requests the sink has queued: a record is queued once at
most, and is then done. -/
structure QueuedOnce (hist : List PipeEvent) (s : Pipe) : Prop where
  once : ∀ rr, queuedCount hist rr ≤ 1
  done : ∀ rr, 0 < queuedCount hist rr → rr < s.next ∧
    ∀ client : ClientRec, s.heap[rr]? = some client → client.rr.rxState = .hdrDone

omit [Platform] in
/-- Nothing is queued, and the records that were done still are. -/
theorem QueuedOnce.keep (hq : QueuedOnce hist s) (hnone : ∀ rr, queuedCount ps rr = 0)
    (hnext : s.next ≤ s'.next)
    (hheap : ∀ (rr : Nat) (client' : ClientRec), rr < s.next → s'.heap[rr]? = some client' →
      ∃ client : ClientRec, s.heap[rr]? = some client ∧
        (client.rr.rxState = .hdrDone → client'.rr.rxState = .hdrDone)) :
    QueuedOnce (hist ++ ps) s' := by
  have hcount : ∀ rr, queuedCount (hist ++ ps) rr = queuedCount hist rr := by
    intro rr
    rw [queuedCount_append, hnone rr, Nat.add_zero]
  refine ⟨fun rr => (hcount rr).symm ▸ hq.once rr, fun rr hpos => ?_⟩
  rw [hcount rr] at hpos
  obtain ⟨hlt, hdone⟩ := hq.done rr hpos
  refine ⟨lt_of_lt_of_le hlt hnext, fun client' hget => ?_⟩
  obtain ⟨client, hclient, hkeeps⟩ := hheap rr client' hlt hget
  exact hkeeps (hdone client hclient)

/-- **A step queues a record that was not done before, or none.** -/
theorem queuedOnce_of_took (htables : Tables s) (hq : QueuedOnce hist s)
    (htook : Took s l s' ps) : QueuedOnce (hist ++ ps) s' := by
  cases htook with
  | @accepted fd idle free =>
    refine hq.keep (fun _ => rfl) (Nat.le_succ _) fun rr client' hlt hget => ?_
    rw [heap_accepted, if_neg (by omega)] at hget
    exact ⟨client', hget, id⟩
  | @moved _ _ ds other tables same =>
    refine hq.keep (queuedCount_descr ds) (le_of_eq tables.next.symm) fun rr client' _ hget => ?_
    rw [tables.heap] at hget
    exact ⟨client', hget, id⟩
  | @updated _ _ rr₀ client client₁ other get sameFd parsed mapped tables same =>
    refine hq.keep (fun _ => rfl) (le_of_eq tables.next.symm) fun rr client' _ hget => ?_
    rw [tables.heap, setClient_heap] at hget
    by_cases heq : rr₀ = rr
    · rw [if_pos heq] at hget
      obtain rfl := Option.some.inj hget
      exact ⟨client, heq ▸ get, parsed⟩
    · rw [if_neg heq] at hget
      exact ⟨client', hget, id⟩
  | @queued fd arrived _ rr₀ client client₁ mapped get sameFd before after tables more =>
    -- a record that has been queued is done
    have hzero : queuedCount hist rr₀ = 0 := by
      by_contra hne
      exact before ((hq.done rr₀ (by omega)).2 client get)
    refine ⟨fun rr => ?_, fun rr hpos => ?_⟩
    · rw [queuedCount_append, queuedCount_queued]
      by_cases heq : rr₀ = rr
      · rw [one, if_pos heq, ← heq, hzero]
      · rw [one, if_neg heq]
        exact hq.once rr
    · rw [tables.next, tables.heap]
      simp only [setClient_heap]
      by_cases heq : rr₀ = rr
      · simp only [if_pos heq]
        refine ⟨heq ▸ htables.fresh rr₀ client get, fun client' hget => ?_⟩
        obtain rfl := Option.some.inj hget
        exact after
      · rw [queuedCount_append, queuedCount_queued, one, if_neg heq, Nat.add_zero] at hpos
        simp only [if_neg heq]
        exact hq.done rr hpos
  | dropped other rough tables less =>
    refine hq.keep (fun _ => rfl) (le_of_eq tables.next.symm) fun rr client' _ hget => ?_
    rw [tables.heap] at hget
    exact ⟨client', hget, id⟩
  | @closed fd =>
    refine hq.keep (queuedCount_descr _) (le_of_eq (close_next s fd).symm)
      fun rr client' _ hget => ?_
    exact ⟨client', heap_of_close s fd rr client' hget, id⟩
  | @sent _ rr₀ client head get tables less =>
    refine hq.keep (fun rr => queuedCount_sent _ _ _ _ rr) ?_ fun rr client' _ hget => ?_
    · rw [tables.next, close_next]
    · rw [tables.heap] at hget
      exact ⟨client', heap_of_close s client.rr.fd rr client' hget, id⟩

/-! ## §3. Whole runs. -/

/-- **A connection has one request at most, and a complete one.**  In every run
of calls on a record, whatever their reads are answered, a request is reported
once at most and each call is right; and in every run of the pipeline a record
is queued once at most. -/
theorem ready_once (fd : Nat) :
    (∀ (ts : List (Trans HNSCGIRR (List (Option (List UInt8))) RecvCall)) (rr : HNSCGIRR),
      Run connection (HNSCGIRR.new fd) ts rr →
      readyCount (history ts) ≤ 1 ∧
        ∀ ts₁ t ts₂, ts = ts₁ ++ t :: ts₂ → CallRight (history ts₁) t) ∧
    ∀ (ts : List (Trans Pipe PipeLabel PipeEvent)) (s : Pipe), Run pipeline Pipe.init ts s →
      ∀ rr, queuedCount (history ts) rr ≤ 1 := by
  have hbooks : ∀ {ts : List (Trans HNSCGIRR (List (Option (List UInt8))) RecvCall)}
      {rr : HNSCGIRR}, Run connection (HNSCGIRR.new fd) ts rr → ReadyBooks fd (history ts) rr := by
    intro ts rr hr
    refine Run.historyInvariant (C := fun _ _ => True) (P := ReadyBooks fd) (readyBooks_init fd) ?_
      hr fun _ _ => trivial
    intro h u l v es hu _ hstep
    exact (readyBooks_step hu hstep).1
  refine ⟨?_, ?_⟩
  · intro ts rr hr
    refine ⟨?_, ?_⟩
    · rw [(hbooks hr).count]
      split <;> omega
    · rintro ts₁ t ts₂ rfl
      obtain ⟨hrun, hstep⟩ := hr.split
      exact (readyBooks_step (hbooks hrun) hstep).2
  · intro ts s hr
    have hinv : PipeInv s ∧ QueuedOnce (history ts) s := by
      refine Run.historyInvariant (C := fun _ _ => True)
        (P := fun hist s => PipeInv s ∧ QueuedOnce hist s)
        ⟨pipeInv_init, ⟨fun _ => Nat.zero_le 1, fun _ hpos => absurd hpos (Nat.lt_irrefl 0)⟩⟩ ?_
        hr fun _ _ => trivial
      intro hist u l v es hu _ hstep
      exact ⟨pipeInv_step u l v es hu.1 hstep,
        queuedOnce_of_took hu.1.tables hu.2 (took_of_step hstep)⟩
    exact hinv.2.once

end

/-! ## §4. A connection. -/

section Sample

open RefPlatform

/-- Three calls: a wait, the rest of the header, and one more. -/
def sampleAnswers : List (List (Option (List UInt8))) :=
  [[some [49], some []], [some [58], some [65], some [44]], [some [44]]]

/-- A run in which a request is reported and one in which it is queued. -/
theorem ready_once_sample :
    (∃ ts rr, Run connection (HNSCGIRR.new 7) ts rr ∧ rr.rxState = .hdrDone ∧
      readyCount (history ts) ≤ 1) ∧
    ∃ ts s, Run pipeline Pipe.init ts s ∧ PipeEvent.queued 0 ∈ history ts ∧
      queuedCount (history ts) 0 ≤ 1 := by
  obtain ⟨ts, rr, hr, hp⟩ := Machine.exists_run_of_exec (M := connection) (s := HNSCGIRR.new 7)
    (l := sampleAnswers) (p := fun r => r.2.rxState == .hdrDone) (by decide +kernel)
  obtain ⟨us, s, hs, hq⟩ := Machine.exists_run_of_exec (M := pipeline) (s := Pipe.init)
    (l := answeredRun) (p := fun r => (history r.1).contains (.queued 0)) (by decide +kernel)
  exact ⟨⟨ts, rr, hr, by simpa using hp, ((ready_once 7).1 ts rr hr).1⟩,
    us, s, hs, by simpa using hq, (ready_once 7).2 us s hs 0⟩

end Sample

end HNodeMgmt.Scgi
