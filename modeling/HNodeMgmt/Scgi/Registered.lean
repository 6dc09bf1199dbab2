/-
  HNodeMgmt.Scgi.Registered — whether a record outlives its references.

  The sink decides how long a record lives: a hang-up closes the connection
  and deletes the record at once, whatever queue or thread still has a pointer
  to it.  As long as no such hang-up is processed, every record that is
  referenced is registered under its descriptor.  That a response goes to the
  connection the request came from also needs the descriptors in order: a
  number that another thread is handed while the sink deletes a record is
  closed by the record's buffers, and by its owner once more when it is the
  next client's.

  Main results:
    * `registered_iff_of_took` — a step keeps the referenced records
      registered EXACTLY when it is no hang-up of one of them.
    * `registered_iff` — the same for whole runs, and that responses go to the
      clients that asked where the buffers close nothing.
    * `hangup_deletes_queued` — a hang-up deletes a record that is queued.
    * `response_to_another` — without a hang-up, a response for the next client.
-/
import Mathlib.Tactic.Common
import HNodeMgmt.RefPlatform
import HNodeMgmt.Scgi.Decode
import HNodeMgmt.Scgi.Places

namespace HNodeMgmt.Scgi

open Lib Arbiter

/-! ## §1. The property. -/

/-- Every record that is referenced is registered and not deleted. -/
def Registered (s : Pipe) : Prop :=
  ∀ rr, 0 < places s rr → ∃ client : ClientRec, s.heap[rr]? = some client ∧
    s.find client.rr.fd = some rr

/-- The responses that are sent go to the connections of their records. -/
def SentToOwn (h : List PipeEvent) : Prop :=
  ∀ rr fd owner, PipeEvent.sent rr fd owner ∈ h → owner = some (.client rr)

/-- What is read for a record is read from its own connection. -/
def ReadsOwn (t : Trans Pipe PipeLabel PipeEvent) : Prop :=
  ∀ fd arrived, t.label = .readable fd arrived → ∀ rr : Nat, t.pre.find fd = some rr →
    t.pre.descr.table[fd]? = some (.client rr)

/-- A hang-up is processed only for a connection whose record is nowhere
referenced. -/
def hangupFree (s : Pipe) : PipeLabel → Prop
  | .hangup fd => ∀ rr : Nat, s.find fd = some rr → places s rr = 0
  | _ => True

/-- A buffer of a record is destroyed only while its number is not open. -/
def ownBuffers (s : Pipe) : PipeLabel → Prop
  | .destroyOfilebuf => numberFree s.descr .destroyOfilebuf
  | .destroyIfilebuf => numberFree s.descr .destroyIfilebuf
  | _ => True

section

variable [Platform]

variable {s s' : Pipe} {l : PipeLabel} {es : List PipeEvent}

omit [Platform] in
/-- With the tables in order, a referenced record is registered when it is live. -/
theorem registered_of_live (hinv : PipeInv s)
    (h : ∀ rr, 0 < places s rr → ∃ client : ClientRec, s.heap[rr]? = some client) :
    Registered s := by
  intro rr hpos
  obtain ⟨client, hget⟩ := h rr hpos
  exact ⟨client, hget, hinv.tables.live rr client hget (hinv.placed.parsed rr client hpos hget)⟩

omit [Platform] in
theorem hangupFree_of_other (h : ∀ fd, l ≠ .hangup fd) : hangupFree s l := by
  cases l with
  | hangup fd => exact absurd rfl (h fd)
  | _ => trivial

/-! ## §2. One step. -/

/-- **A step keeps the referenced records registered exactly when** it is no
hang-up of one of them. -/
theorem registered_iff_of_took (hinv : PipeInv s) (hreg : Registered s) (htook : Took s l s' es) :
    Registered s' ↔ hangupFree s l := by
  have hinv' : PipeInv s' := ⟨tables_of_took hinv.tables htook, placed_of_took hinv htook⟩
  have hlive : ∀ rr, 0 < places s rr → ∃ client : ClientRec, s.heap[rr]? = some client := by
    intro rr hpos
    obtain ⟨client, hget, -⟩ := hreg rr hpos
    exact ⟨client, hget⟩
  cases htook with
  | @accepted fd idle free =>
    refine iff_of_true (registered_of_live hinv' fun rr hpos => ?_) trivial
    obtain ⟨client, hget⟩ := hlive rr hpos
    have hlt : rr < s.next := hinv.placed.known rr hpos
    exact ⟨client, by rw [heap_accepted, if_neg (by omega), hget]⟩
  | moved other tables same =>
    refine iff_of_true (registered_of_live hinv' fun rr hpos => ?_) (hangupFree_of_other other)
    rw [same rr] at hpos
    rw [tables.heap]
    exact hlive rr hpos
  | @updated _ _ rr₀ client client₁ other get sameFd parsed mapped tables same =>
    refine iff_of_true (registered_of_live hinv' fun rr hpos => ?_) (hangupFree_of_other other)
    rw [same rr] at hpos
    rw [tables.heap, setClient_heap]
    split
    next => exact ⟨client₁, rfl⟩
    next => exact hlive rr hpos
  | @queued fd arrived _ rr₀ client client₁ mapped get sameFd before after tables more =>
    refine iff_of_true (registered_of_live hinv' fun rr hpos => ?_) trivial
    rw [tables.heap, setClient_heap]
    by_cases heq : rr₀ = rr
    · exact ⟨client₁, if_pos heq⟩
    · rw [more rr, one, if_neg heq] at hpos
      rw [if_neg heq]
      exact hlive rr hpos
  | @dropped _ _ rr₀ other rough tables less =>
    refine iff_of_true (registered_of_live hinv' fun rr hpos => ?_) (hangupFree_of_other other)
    rw [tables.heap]
    exact hlive rr (by rw [less rr]; omega)
  | @closed fd =>
    cases hfind : s.find fd with
    | none =>
      -- nothing is registered there
      refine iff_of_true (registered_of_live hinv' fun rr hpos => ?_) fun rr h => ?_
      · rw [close_heap_none s hfind]
        exact hlive rr hpos
      · rw [hfind] at h
        cases h
    | some rr₀ =>
      constructor
      · intro hreg' rr h
        obtain rfl := Option.some.inj (hfind.symm.trans h)
        by_contra hne
        obtain ⟨client, hget, -⟩ := hreg' rr₀ (by rw [places_close]; omega)
        rw [close_heap s hfind, if_pos rfl] at hget
        cases hget
      · intro hfree
        refine registered_of_live hinv' fun rr hpos => ?_
        rw [places_close] at hpos
        have hne : rr₀ ≠ rr := by
          rintro rfl
          have hzero := hfree rr₀ hfind
          omega
        rw [close_heap s hfind, if_neg hne]
        exact hlive rr hpos
  | @sent _ rr₀ client head get tables less =>
    refine iff_of_true (registered_of_live hinv' fun rr hpos => ?_) trivial
    -- what is sent is in no other place
    have hless := less rr₀
    rw [one, if_pos rfl] at hless
    have hstored := hinv.tables.live rr₀ client get
      (hinv.placed.parsed rr₀ client (by omega) get)
    have hne : rr₀ ≠ rr := by
      rintro rfl
      have hsingle := hinv.placed.single rr₀
      omega
    rw [tables.heap, close_heap s hstored, if_neg hne]
    exact hlive rr (by rw [less rr]; omega)

/-! ## §3. The descriptors. -/

omit [Platform] in
/-- The descriptor machine's steps meet its condition. -/
theorem numberFree_of_ownBuffers {l' : DescrLabel} (hown : ownBuffers s l)
    (hlabel : descrLabel s l = some l') : numberFree s.descr l' := by
  cases l' with
  | destroyOfilebuf =>
    cases l with
    | destroyOfilebuf => exact hown
    | respond =>
      obtain ⟨client, -, heq⟩ := Option.map_eq_some_iff.mp hlabel
      cases heq
    | _ => cases hlabel
  | destroyIfilebuf =>
    cases l with
    | destroyIfilebuf => exact hown
    | respond =>
      obtain ⟨client, -, heq⟩ := Option.map_eq_some_iff.mp hlabel
      cases heq
    | _ => cases hlabel
  | _ => trivial

/-- **As long as the buffers close nothing** the kernel's table is as the threads
think. -/
theorem tableRight_pipe_step (hright : TableRight s.descr) (hown : ownBuffers s l)
    (hstep : pipeline.step s l = some (s', es)) : TableRight s'.descr := by
  cases hlabel : descrLabel s l with
  | none =>
    have hsame : s'.descr = s.descr := (descriptorsPart.rests s l s' es hstep hlabel).1
    rwa [hsame]
  | some l' =>
    have hmoved := descrMoved_of_step (descriptorsPart.moves s l s' es l' hstep hlabel)
    exact (tableRight_step hright (numberFree_of_ownBuffers hown hlabel) hmoved).1

omit [Platform] in
/-- A record is stored under the numbers that are its connection's. -/
theorem find_iff_owner (hright : TableRight s.descr) {fd rr : Nat} :
    s.find fd = some rr ↔ s.descr.table[fd]? = some (.client rr) :=
  Option.map_eq_some_iff.trans (hright.clients fd rr).symm

/-- A response is written to the connection its record was made for. -/
theorem sent_of_took (hinv : PipeInv s) (hright : TableRight s.descr) (htook : Took s l s' es) :
    SentToOwn es := by
  intro rr fd owner hsent
  cases htook with
  | @sent _ rr₀ client head get tables less =>
    obtain ⟨rfl, rfl, rfl⟩ : rr = rr₀ ∧ fd = client.rr.fd ∧
        owner = s.descr.table[client.rr.fd]? := by simpa [Pipe.closeClientConnection] using hsent
    have hless := less rr
    rw [one, if_pos rfl] at hless
    exact (find_iff_owner hright).mp (hinv.tables.live rr client get
      (hinv.placed.parsed rr client (by omega) get))
  | queued => simp at hsent
  | moved => simp at hsent
  | closed => simp [Pipe.closeClientConnection] at hsent
  | _ => cases hsent

/-! ## §4. Whole runs. -/

/-- The two invariants, along a run in which the buffers close nothing. -/
theorem right_run {ts : List (Trans Pipe PipeLabel PipeEvent)} (hr : Run pipeline Pipe.init ts s)
    (hown : StepsMeet ownBuffers ts) : PipeInv s ∧ TableRight s.descr := by
  refine Run.historyInvariant (P := fun _ s => PipeInv s ∧ TableRight s.descr)
    ⟨pipeInv_init, TableRight.init⟩ ?_ hr hown
  intro _ u l v es h hmeets hstep
  exact ⟨pipeInv_step u l v es h.1 hstep, tableRight_pipe_step h.2 hmeets hstep⟩

/-- The part of a run in front of one of its steps. -/
theorem right_before {ts : List (Trans Pipe PipeLabel PipeEvent)}
    (hr : Run pipeline Pipe.init ts s) (hown : StepsMeet ownBuffers ts)
    {t : Trans Pipe PipeLabel PipeEvent} (ht : t ∈ ts) :
    (PipeInv t.pre ∧ TableRight t.pre.descr) ∧ Took t.pre t.label t.post t.evts := by
  obtain ⟨ts₁, ts₂, rfl⟩ := List.append_of_mem ht
  obtain ⟨hrun, hstep⟩ := hr.split
  exact ⟨right_run hrun fun t' ht' => hown t' (List.mem_append_left _ ht'), took_of_step hstep⟩

/-- **The records that are referenced stay registered in exactly the runs** that
process no hang-up of a connection whose record is referenced.  Where, besides, a
buffer is destroyed only while its number is not open, these are exactly the runs
in which the requests are read from the connections of their records and every
response goes to the client that asked, too. -/
theorem registered_iff (ts : List (Trans Pipe PipeLabel PipeEvent)) (s : Pipe)
    (hr : Run pipeline Pipe.init ts s) :
    ((∀ t ∈ ts, Registered t.post) ↔ StepsMeet hangupFree ts) ∧
      (StepsMeet ownBuffers ts →
        ((∀ t ∈ ts, Registered t.post ∧ ReadsOwn t) ∧ SentToOwn (history ts) ↔
          StepsMeet hangupFree ts)) := by
  have hiff : StepsMeet hangupFree ts ↔ ∀ t ∈ ts, Registered t.post := by
    refine Run.invariant_iff (J := PipeInv) pipeInv_init ?_ pipeInv_step ?_ hr
    · intro rr hpos
      exact absurd hpos (Nat.lt_irrefl 0)
    · intro u l v es hinv hreg hstep
      exact registered_iff_of_took hinv hreg (took_of_step hstep)
  refine ⟨hiff.symm, fun hown => ⟨fun h => hiff.mpr fun t ht => (h.1 t ht).1, fun h => ?_⟩⟩
  refine ⟨fun t ht => ⟨hiff.mp h t ht, ?_⟩, ?_⟩
  · intro fd arrived _ rr hfind
    exact (find_iff_owner (right_before hr hown ht).1.2).mp hfind
  · intro rr fd owner hsent
    obtain ⟨t, ht, hmem⟩ := List.mem_flatMap.mp hsent
    obtain ⟨⟨hinv, hright⟩, htook⟩ := right_before hr hown ht
    exact sent_of_took hinv hright htook rr fd owner hmem

end

/-! ## §5. A request, a hang-up, and a number that changes hands. -/

section Sample

open RefPlatform

/-- A header with this URI. -/
def requestFor (uri : Str) : List UInt8 :=
  netstring (encodePairs [(lit "CONTENT_LENGTH", lit "0"), (lit "REQUEST_METHOD", lit "GET"),
    (lit "REQUEST_URI", uri)])

/-- A request the manager answers itself. -/
def sampleRequest : List UInt8 := requestFor (lit "/hnode2/mgmt/status")

/-- The daemon has five descriptors open when the first client comes. -/
def daemonStarted : List PipeLabel :=
  [.otherOpen 0, .otherOpen 1, .otherOpen 2, .otherOpen 3, .otherOpen 4]

/-- A client's request is answered. -/
def answeredRun : List PipeLabel :=
  daemonStarted ++ [.accept 5, .readable 5 [sampleRequest], .take, .dispatch none .noHandler,
    .respond]

/-- A run without a hang-up. -/
def noHangup (ts : List (Trans Pipe PipeLabel PipeEvent)) : Bool :=
  ts.all fun t => match t.label with | .hangup _ => false | _ => true

theorem hangupFree_of_noHangup {ts : List (Trans Pipe PipeLabel PipeEvent)}
    (h : noHangup ts = true) : StepsMeet hangupFree ts := by
  intro t ht
  refine hangupFree_of_other fun fd hlabel => ?_
  have hnot := List.all_eq_true.mp h t ht
  rw [hlabel] at hnot
  cases hnot

instance (s : Pipe) (l : PipeLabel) : Decidable (ownBuffers s l) := by
  cases l with
  | destroyOfilebuf =>
    exact decidable_of_iff (∀ client ∈ (match s.descr.sink with
      | .deleting client => some client
      | _ => none : Option RRFiles), client.m_ofilebuf ∉ s.descr.table) <| by
        cases h : s.descr.sink <;> simp [ownBuffers, numberFree, h]
  | destroyIfilebuf =>
    exact decidable_of_iff (∀ client ∈ (match s.descr.sink with
      | .outClosed client => some client
      | _ => none : Option RRFiles), client.m_ifilebuf ∉ s.descr.table) <| by
        cases h : s.descr.sink <;> simp [ownBuffers, numberFree, h]
  | _ => exact isTrue trivial

/-- The record is deleted and the descriptor given to the next client. -/
theorem registered_sample :
    ∃ ts s, Run pipeline Pipe.init ts s ∧
      PipeEvent.sent 0 5 (some (.client 0)) ∈ history ts ∧
      (∀ t ∈ ts, Registered t.post ∧ ReadsOwn t) ∧ SentToOwn (history ts) := by
  obtain ⟨ts, s, hr, hp⟩ := Machine.exists_run_of_exec (M := pipeline) (s := Pipe.init)
    (l := answeredRun ++ [.destroyOfilebuf, .destroyIfilebuf, .accept 5])
    (p := fun r => noHangup r.1 && r.1.all (fun t => decide (ownBuffers t.pre t.label)) &&
      (history r.1).contains (.sent 0 5 (some (.client 0))))
    (by decide +kernel)
  simp only [Bool.and_eq_true, List.contains_iff_mem] at hp
  obtain ⟨⟨hfree, hown⟩, hsent⟩ := hp
  have howns : StepsMeet ownBuffers ts := fun t ht =>
    of_decide_eq_true (List.all_eq_true.mp hown t ht)
  exact ⟨ts, s, hr, hsent,
    ((registered_iff ts s hr).2 howns).mpr (hangupFree_of_noHangup hfree)⟩

/-- The client hangs up while its request is queued. -/
def hungUpRun : List PipeLabel :=
  daemonStarted ++ [.accept 5, .readable 5 [sampleRequest], .clientCloses 0, .hangup 5]

/-- **A queued record is deleted** by the hang-up of its client. -/
theorem hangup_deletes_queued :
    ¬ ∀ ts s, Run pipeline Pipe.init ts s →
      (∀ t ∈ ts, Registered t.post) ∧ SentToOwn (history ts) := by
  intro h
  obtain ⟨ts, s, hr, hp⟩ := Machine.exists_run_of_exec (M := pipeline) (s := Pipe.init)
    (l := hungUpRun)
    (p := fun r => r.1.any fun t => places t.post 0 == 1 && (t.post.heap[0]?).isNone)
    (by decide +kernel)
  obtain ⟨t, ht, hbad⟩ := List.any_eq_true.mp hp
  obtain ⟨hplaced, hdeleted⟩ := Bool.and_eq_true_iff.mp hbad
  have hplace : places t.post 0 = 1 := by simpa using hplaced
  obtain ⟨client, hget, -⟩ := (h ts s hr).1 t ht 0 (by omega)
  rw [hget] at hdeleted
  cases hdeleted

/-- A session is handed the number of the record that is being deleted; its owner
closes it when it is the next client's, and the client after that gets it. -/
def handedOnRun : List PipeLabel :=
  answeredRun ++ [.otherOpen 5, .destroyOfilebuf, .destroyIfilebuf, .accept 5,
    .readable 5 [sampleRequest], .otherClose 5, .accept 5, .take, .dispatch none .noHandler,
    .respond]

/-- **A response goes to the client that was accepted next**, without a hang-up: a
buffer of the first record has closed the number of another thread. -/
theorem response_to_another :
    ∃ ts s, Run pipeline Pipe.init ts s ∧ StepsMeet hangupFree ts ∧
      PipeEvent.sent 1 5 (some (.client 2)) ∈ history ts ∧ ¬ StepsMeet ownBuffers ts := by
  obtain ⟨ts, s, hr, hp⟩ := Machine.exists_run_of_exec (M := pipeline) (s := Pipe.init)
    (l := handedOnRun)
    (p := fun r => noHangup r.1 && r.1.any (fun t => decide (¬ ownBuffers t.pre t.label)) &&
      (history r.1).contains (.sent 1 5 (some (.client 2))))
    (by decide +kernel)
  simp only [Bool.and_eq_true, List.contains_iff_mem] at hp
  obtain ⟨⟨hfree, hnot⟩, hsent⟩ := hp
  refine ⟨ts, s, hr, hangupFree_of_noHangup hfree, hsent, fun hown => ?_⟩
  obtain ⟨t, ht, hbad⟩ := List.any_eq_true.mp hnot
  exact of_decide_eq_true hbad (hown t ht)

end Sample

end HNodeMgmt.Scgi
