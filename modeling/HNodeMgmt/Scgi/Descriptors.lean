/-
  HNodeMgmt.Scgi.Descriptors — who closes the descriptor of a connection.

  The number that `accept` returns is kept three times: as the key of `m_rrMap`
  and by the two `stdio_filebuf`s of the record, each of which closes it when it
  is destroyed.  `closeClientConnection` closes the number and deletes the
  record; the members of a record are destroyed in reverse order, `m_ofilebuf`
  before `m_ifilebuf`.  Between these closes the other threads open and close
  descriptors of their own (the sockets of the proxy and of the monitor), and
  the system hands out the lowest free number.

  Main results:
    * `closed_once_iff` — a connection whose closing has ended has been closed
      three times, and no close hits another owner exactly in the runs in
      which a buffer is destroyed only while its number is not open.
    * `session_closed` — a session opened during the deletion is closed by it.
-/
import Mathlib.Tactic.Common
import HNodeMgmt.Lib.Machine
import HNodeMgmt.Lib.OrdMap

namespace HNodeMgmt.Scgi

open Lib

/-! ## §1. The tables and the threads. -/

/-- Whose an open descriptor is: the n-th connection's, or another part's of the
daemon, which are numbered as they open theirs. -/
inductive DescrOwner where
  | client (conn : Nat)
  | other (id : Nat)
  deriving DecidableEq, Repr

/-- The numbers the buffers of an `HNSCGIRR` have been constructed from. -/
structure RRFiles where
  conn : Nat
  m_ifilebuf : Nat
  m_ofilebuf : Nat
  deriving DecidableEq, Repr

/-- The constructor. -/
def RRFiles.new (conn fd : Nat) : RRFiles := { conn, m_ifilebuf := fd, m_ofilebuf := fd }

/-- Where the sink is: in its loop, or in `delete client`, before and after the
destructor of `m_ofilebuf`. -/
inductive SinkPhase where
  | loop
  | deleting (client : RRFiles)
  | outClosed (client : RRFiles)
  deriving DecidableEq, Repr

/-- The record that is being deleted. -/
def SinkPhase.client? : SinkPhase → Option RRFiles
  | .loop => none
  | .deleting client => some client
  | .outClosed client => some client

structure Descriptors where
  /-- The number of the next connection. -/
  next : Nat
  nextOther : Nat
  /-- The kernel's table. -/
  table : OrdMap Nat DescrOwner
  /-- `m_rrMap`. -/
  rrMap : OrdMap Nat RRFiles
  /-- What the other parts of the daemon have open. -/
  others : OrdMap Nat Nat
  sink : SinkPhase

inductive DescrLabel where
  -- any other thread
  | otherOpen (fd : Nat)
  | otherClose (id : Nat)
  -- the sink
  | accept (fd : Nat)
  | closeClientConnection (fd : Nat)
  | destroyOfilebuf
  | destroyIfilebuf
  deriving DecidableEq, Repr

/-- `closed`: a close performed for a connection, and the owner whose descriptor
the number was.  `ended`: `closeClientConnection` returns. -/
inductive DescrEvent where
  | closed (conn : Nat) (fd : Nat) (hit : Option DescrOwner)
  | ended (conn : Nat)
  deriving DecidableEq, Repr

namespace Descriptors

/-- Nothing is open; whatever the daemon opens first, another part opens. -/
def init : Descriptors :=
  { next := 0, nextOther := 0, table := ∅, rrMap := ∅, others := ∅, sink := .loop }

/-- The number the system hands out. -/
def LowestFree (s : Descriptors) (fd : Nat) : Prop := fd ∉ s.table ∧ ∀ n < fd, n ∈ s.table

instance (s : Descriptors) (fd : Nat) : Decidable (s.LowestFree fd) :=
  inferInstanceAs (Decidable (_ ∧ ∀ n, n < fd → _))

def otherOpened (s : Descriptors) (fd : Nat) : Descriptors :=
  { s with
    nextOther := s.nextOther + 1
    table := s.table.insert fd (.other s.nextOther)
    others := s.others.insert s.nextOther fd }

/-- Another part closes the number it was given. -/
def otherClosed (s : Descriptors) (id fd : Nat) : Descriptors :=
  { s with table := s.table.erase fd, others := s.others.erase id }

/-- `processNewClientConnections`, for the descriptor `accept` returns. -/
def accepted (s : Descriptors) (fd : Nat) : Descriptors :=
  { s with
    next := s.next + 1
    table := s.table.insert fd (.client s.next)
    rrMap := s.rrMap.insertIfNew fd (.new s.next fd) }

/-- `closeClientConnection` up to the deletion of the record. -/
def closeClientConnection (s : Descriptors) (fd : Nat) : Descriptors × List DescrEvent :=
  match s.rrMap[fd]? with
  | none => (s, [])
  | some client =>
    ({ s with table := s.table.erase fd, rrMap := s.rrMap.erase fd, sink := .deleting client },
      [.closed client.conn fd s.table[fd]?])

def destroyOfilebuf (s : Descriptors) (client : RRFiles) : Descriptors × List DescrEvent :=
  ({ s with table := s.table.erase client.m_ofilebuf, sink := .outClosed client },
    [.closed client.conn client.m_ofilebuf s.table[client.m_ofilebuf]?])

/-- The last member with a descriptor; `closeClientConnection` returns. -/
def destroyIfilebuf (s : Descriptors) (client : RRFiles) : Descriptors × List DescrEvent :=
  ({ s with table := s.table.erase client.m_ifilebuf, sink := .loop },
    [.closed client.conn client.m_ifilebuf s.table[client.m_ifilebuf]?, .ended client.conn])

def step (s : Descriptors) : DescrLabel → Option (Descriptors × List DescrEvent)
  | .otherOpen fd => if s.LowestFree fd then some (s.otherOpened fd, []) else none
  | .otherClose id => s.others[id]?.map fun fd => (s.otherClosed id fd, [])
  | .accept fd =>
    if s.sink = .loop ∧ s.LowestFree fd then some (s.accepted fd, []) else none
  | .closeClientConnection fd =>
    if s.sink = .loop then some (s.closeClientConnection fd) else none
  | .destroyOfilebuf =>
    match s.sink with
    | .deleting client => some (s.destroyOfilebuf client)
    | _ => none
  | .destroyIfilebuf =>
    match s.sink with
    | .outClosed client => some (s.destroyIfilebuf client)
    | _ => none

end Descriptors

/-- The sink and the threads beside it, as far as descriptors go. -/
def descriptors : Machine Descriptors DescrLabel DescrEvent := { step := Descriptors.step }

/-- What a step can do. -/
inductive DescrMoved (s : Descriptors) : DescrLabel → Descriptors → List DescrEvent → Prop
  | otherOpen {fd : Nat} (free : s.LowestFree fd) :
      DescrMoved s (.otherOpen fd) (s.otherOpened fd) []
  | otherClose {id fd : Nat} (given : s.others[id]? = some fd) :
      DescrMoved s (.otherClose id) (s.otherClosed id fd) []
  | accept {fd : Nat} (idle : s.sink = .loop) (free : s.LowestFree fd) :
      DescrMoved s (.accept fd) (s.accepted fd) []
  | unknown {fd : Nat} (none : s.rrMap[fd]? = none) :
      DescrMoved s (.closeClientConnection fd) s []
  | close {fd : Nat} {client : RRFiles} (idle : s.sink = .loop)
      (found : s.rrMap[fd]? = some client) :
      DescrMoved s (.closeClientConnection fd)
        { s with
          table := s.table.erase fd, rrMap := s.rrMap.erase fd, sink := .deleting client }
        [.closed client.conn fd s.table[fd]?]
  | destroyOut {client : RRFiles} (at_ : s.sink = .deleting client) :
      DescrMoved s .destroyOfilebuf (s.destroyOfilebuf client).1 (s.destroyOfilebuf client).2
  | destroyIn {client : RRFiles} (at_ : s.sink = .outClosed client) :
      DescrMoved s .destroyIfilebuf (s.destroyIfilebuf client).1 (s.destroyIfilebuf client).2

/-- **The steps, one by one**: what is proved about runs is proved of these. -/
theorem descrMoved_of_step {s s' : Descriptors} {l : DescrLabel} {es : List DescrEvent}
    (h : descriptors.step s l = some (s', es)) : DescrMoved s l s' es := by
  cases l with
  | otherOpen fd =>
    obtain ⟨hfree, heq⟩ := Option.ite_none_right_eq_some.mp h
    obtain ⟨rfl, rfl⟩ := Prod.mk.inj (Option.some.inj heq)
    exact .otherOpen hfree
  | otherClose id =>
    obtain ⟨fd, hgiven, heq⟩ := Option.map_eq_some_iff.mp h
    obtain ⟨rfl, rfl⟩ := Prod.mk.inj heq
    exact .otherClose hgiven
  | accept fd =>
    obtain ⟨⟨hidle, hfree⟩, heq⟩ := Option.ite_none_right_eq_some.mp h
    obtain ⟨rfl, rfl⟩ := Prod.mk.inj (Option.some.inj heq)
    exact .accept hidle hfree
  | closeClientConnection fd =>
    obtain ⟨hidle, heq⟩ := Option.ite_none_right_eq_some.mp h
    replace heq := Option.some.inj heq
    unfold Descriptors.closeClientConnection at heq
    cases hfound : s.rrMap[fd]? with
    | none =>
      rw [hfound] at heq
      obtain ⟨rfl, rfl⟩ := Prod.mk.inj heq
      exact .unknown hfound
    | some client =>
      rw [hfound] at heq
      obtain ⟨rfl, rfl⟩ := Prod.mk.inj heq
      exact .close hidle hfound
  | destroyOfilebuf =>
    cases hat : s.sink with
    | deleting client =>
      have heq : some (s.destroyOfilebuf client) = some (s', es) := by
        rw [← h]
        show _ = s.step .destroyOfilebuf
        rw [Descriptors.step, hat]
      obtain ⟨rfl, rfl⟩ := Prod.mk.inj (Option.some.inj heq)
      exact .destroyOut hat
    | _ =>
      replace h : s.step .destroyOfilebuf = some (s', es) := h
      rw [Descriptors.step, hat] at h
      cases h
  | destroyIfilebuf =>
    cases hat : s.sink with
    | outClosed client =>
      have heq : some (s.destroyIfilebuf client) = some (s', es) := by
        rw [← h]
        show _ = s.step .destroyIfilebuf
        rw [Descriptors.step, hat]
      obtain ⟨rfl, rfl⟩ := Prod.mk.inj (Option.some.inj heq)
      exact .destroyIn hat
    | _ =>
      replace h : s.step .destroyIfilebuf = some (s', es) := h
      rw [Descriptors.step, hat] at h
      cases h

/-! ## §2. The property. -/

/-- The closes performed for a connection: the owner each of them hit. -/
def closesOf (conn : Nat) (es : List DescrEvent) : List (Option DescrOwner) :=
  es.filterMap fun e =>
    match e with
    | .closed c _ hit => if c = conn then some hit else none
    | .ended _ => none

/-- Closes add up along a run. -/
@[simp] theorem closesOf_append (conn : Nat) (es es' : List DescrEvent) :
    closesOf conn (es ++ es') = closesOf conn es ++ closesOf conn es' := List.filterMap_append

@[simp] theorem closesOf_closed (conn c fd : Nat) (hit : Option DescrOwner) :
    closesOf conn [.closed c fd hit] = if c = conn then [hit] else [] := by
  unfold closesOf
  split <;> simp_all

@[simp] theorem closesOf_last (conn c fd : Nat) (hit : Option DescrOwner) :
    closesOf conn [.closed c fd hit, .ended c] = if c = conn then [hit] else [] := by
  unfold closesOf
  split <;> simp_all

/-- The descriptor of a connection is closed once, by the time
`closeClientConnection` returns. -/
def ClosedOnce (es : List DescrEvent) : Prop :=
  ∀ conn, (closesOf conn es).length ≤ 1 ∧ (.ended conn ∈ es → (closesOf conn es).length = 1)

/-- A close performed for a connection hits its own descriptor, or none. -/
def HitsOwn (es : List DescrEvent) : Prop :=
  ∀ conn fd owner, .closed conn fd (some owner) ∈ es → owner = .client conn

/-- No buffer of a record is destroyed. -/
def keepsBuffers (_ : Descriptors) : DescrLabel → Prop
  | .destroyOfilebuf | .destroyIfilebuf => False
  | _ => True

/-- A buffer is destroyed only while its number is not open. -/
def numberFree (s : Descriptors) : DescrLabel → Prop
  | .destroyOfilebuf => ∀ client, s.sink = .deleting client → client.m_ofilebuf ∉ s.table
  | .destroyIfilebuf => ∀ client, s.sink = .outClosed client → client.m_ifilebuf ∉ s.table
  | _ => True

/-- No other thread is handed the number of a record that is being deleted. -/
def notHandedOut (s : Descriptors) : DescrLabel → Prop
  | .otherOpen fd => ∀ client ∈ s.sink.client?, fd ≠ client.m_ofilebuf ∧ fd ≠ client.m_ifilebuf
  | _ => True

instance (s : Descriptors) (l : DescrLabel) : Decidable (notHandedOut s l) := by
  cases l <;> unfold notHandedOut <;> infer_instance

/-! ## §3. How often a connection is closed. -/

/-- It, and how often its number has been closed. -/
def SinkPhase.closing : SinkPhase → Option (RRFiles × Nat)
  | .loop => none
  | .deleting client => some (client, 1)
  | .outClosed client => some (client, 2)

/-- The record that is counted is the one that is being deleted. -/
theorem SinkPhase.client_of_closing {phase : SinkPhase} {client : RRFiles} {n : Nat}
    (h : phase.closing = some (client, n)) : client ∈ phase.client? := by
  cases phase with
  | loop => cases h
  | deleting client' => exact congrArg some (Prod.mk.inj (Option.some.inj h)).1
  | outClosed client' => exact congrArg some (Prod.mk.inj (Option.some.inj h)).1

/-- The records are those of connections that have been accepted, each under
the number it was constructed from, and no connection has two. -/
structure Recorded (s : Descriptors) : Prop where
  known : ∀ (fd : Nat) client, s.rrMap[fd]? = some client →
    client = .new client.conn fd ∧ client.conn < s.next
  apart : ∀ (fd fd' : Nat) client client', s.rrMap[fd]? = some client →
    s.rrMap[fd']? = some client' → client.conn = client'.conn → fd = fd'
  closing : ∀ client n, s.sink.closing = some (client, n) →
    (∃ fd, client = .new client.conn fd) ∧ client.conn < s.next ∧
      ∀ (fd : Nat) client', s.rrMap[fd]? = some client' → client'.conn ≠ client.conn

/-- The count: none for a connection with a record or one to come, one or two
during the deletion, three at its end. -/
structure Counted (es : List DescrEvent) (s : Descriptors) : Prop where
  recorded : Recorded s
  fresh : ∀ conn, s.next ≤ conn → closesOf conn es = [] ∧ .ended conn ∉ es
  live : ∀ (fd : Nat) client, s.rrMap[fd]? = some client →
    closesOf client.conn es = [] ∧ .ended client.conn ∉ es
  closing : ∀ client n, s.sink.closing = some (client, n) →
    (closesOf client.conn es).length = n ∧ .ended client.conn ∉ es
  finished : ∀ conn, .ended conn ∈ es → (closesOf conn es).length = 3

section

variable {s s' : Descriptors} {l : DescrLabel} {es es' : List DescrEvent}

/-- A record found after an accept is the new one or was there. -/
theorem accepted_cases {fd fd' : Nat} {client : RRFiles}
    (h : (s.accepted fd).rrMap[fd']? = some client) :
    fd = fd' ∧ client = .new s.next fd ∨ s.rrMap[fd']? = some client := by
  replace h : (s.rrMap.insertIfNew fd (.new s.next fd))[fd']? = some client := h
  rw [OrdMap.get_insertIfNew] at h
  split at h
  next hnew => exact .inl ⟨hnew.1, (Option.some.inj h).symm⟩
  next => exact .inr h

/-- A record found after one has been erased is another one. -/
theorem erase_cases {fd fd' : Nat} {client : RRFiles}
    (h : (s.rrMap.erase fd)[fd']? = some client) : fd ≠ fd' ∧ s.rrMap[fd']? = some client := by
  rw [OrdMap.get_erase] at h
  split at h
  next => cases h
  next hne => exact ⟨hne, h⟩

/-- A record is made with the number it is stored under, for a new connection. -/
theorem Recorded.accept {fd : Nat} (h : Recorded s) (hidle : s.sink = .loop) :
    Recorded (s.accepted fd) := by
  refine ⟨fun fd' client hget => ?_, fun fd₁ fd₂ c₁ c₂ hget₁ hget₂ heq => ?_, ?_⟩
  · rcases accepted_cases hget with ⟨rfl, rfl⟩ | hold
    · exact ⟨rfl, Nat.lt_succ_self _⟩
    · obtain ⟨hnew, hlt⟩ := h.known fd' client hold
      exact ⟨hnew, Nat.lt_succ_of_lt hlt⟩
  · -- the new connection has a number no record had
    rcases accepted_cases hget₁ with ⟨rfl, rfl⟩ | hold₁ <;>
      rcases accepted_cases hget₂ with ⟨rfl, rfl⟩ | hold₂
    · rfl
    · exact absurd heq.symm (Nat.ne_of_lt (h.known _ _ hold₂).2)
    · exact absurd heq (Nat.ne_of_lt (h.known _ _ hold₁).2)
    · exact h.apart _ _ _ _ hold₁ hold₂ heq
  · intro client n hclosing
    have hloop : (s.accepted fd).sink = .loop := hidle
    rw [hloop] at hclosing
    cases hclosing

/-- Its closing starts with the record that was stored. -/
theorem Recorded.close {fd : Nat} {client : RRFiles} (h : Recorded s)
    (hfound : s.rrMap[fd]? = some client) :
    Recorded { s with
      table := s.table.erase fd, rrMap := s.rrMap.erase fd, sink := .deleting client } := by
  refine ⟨fun fd' c hget => ?_, fun fd₁ fd₂ c₁ c₂ hget₁ hget₂ heq => ?_, fun c n hclosing => ?_⟩
  · exact h.known fd' c (erase_cases hget).2
  · exact h.apart _ _ _ _ (erase_cases hget₁).2 (erase_cases hget₂).2 heq
  · obtain ⟨rfl, -⟩ := Prod.mk.inj (Option.some.inj hclosing)
    obtain ⟨hnew, hlt⟩ := h.known fd client hfound
    refine ⟨⟨fd, hnew⟩, hlt, fun fd' c' hget heq => ?_⟩
    obtain ⟨hne, hold⟩ := erase_cases hget
    exact hne (h.apart _ _ _ _ hfound hold heq.symm)

/-- A close performed for one connection leaves the counts of the others. -/
theorem Counted.closed {c fd : Nat} {hit : Option DescrOwner} (h : Counted es s)
    (hrec : Recorded s') (hnext : s'.next = s.next)
    (hes' : es' = [.closed c fd hit] ∨ es' = [.closed c fd hit, .ended c]) (hlt : c < s.next)
    (hlive : ∀ (fd : Nat) client, s'.rrMap[fd]? = some client →
      s.rrMap[fd]? = some client ∧ client.conn ≠ c)
    (hclosing : ∀ client n, s'.sink.closing = some (client, n) →
      client.conn = c ∧ (closesOf c (es ++ es')).length = n ∧ .ended c ∉ es ++ es')
    (hover : .ended c ∈ es ++ es' → (closesOf c (es ++ es')).length = 3) :
    Counted (es ++ es') s' := by
  have hothers : ∀ conn, c ≠ conn → closesOf conn (es ++ es') = closesOf conn es ∧
      (.ended conn ∈ es ++ es' ↔ .ended conn ∈ es) := by
    intro conn hne
    rcases hes' with rfl | rfl
    · simp [hne]
    · simp [hne, Ne.symm hne]
  refine ⟨hrec, fun conn hle => ?_, fun fd' client hget => ?_, fun client n hat => ?_,
    fun conn hmem => ?_⟩
  · obtain ⟨hcloses, hended⟩ := hothers conn (by omega)
    rw [hcloses, hended]
    exact h.fresh conn (hnext ▸ hle)
  · obtain ⟨hget, hne⟩ := hlive fd' client hget
    obtain ⟨hcloses, hended⟩ := hothers client.conn (Ne.symm hne)
    rw [hcloses, hended]
    exact h.live fd' client hget
  · obtain ⟨rfl, hcount⟩ := hclosing client n hat
    exact hcount
  · by_cases heq : c = conn
    · subst heq
      exact hover hmem
    · obtain ⟨hcloses, hended⟩ := hothers conn heq
      rw [hcloses]
      exact h.finished conn (hended.mp hmem)

/-- **A step keeps the count.** -/
theorem counted_step (h : Counted es s) (hmoved : DescrMoved s l s' es') :
    Counted (es ++ es') s' := by
  have hrec := h.recorded
  cases hmoved with
  | otherOpen =>
    rw [List.append_nil]
    exact ⟨⟨hrec.known, hrec.apart, hrec.closing⟩, h.fresh, h.live, h.closing, h.finished⟩
  | otherClose =>
    rw [List.append_nil]
    exact ⟨⟨hrec.known, hrec.apart, hrec.closing⟩, h.fresh, h.live, h.closing, h.finished⟩
  | unknown =>
    rw [List.append_nil]
    exact h
  | accept hidle =>
    rw [List.append_nil]
    refine ⟨hrec.accept hidle, fun conn hle => h.fresh conn (Nat.le_of_succ_le hle),
      fun fd' client hget => ?_, h.closing, h.finished⟩
    rcases accepted_cases hget with ⟨rfl, rfl⟩ | hold
    · exact h.fresh s.next (Nat.le_refl _)
    · exact h.live fd' client hold
  -- the three closes of one client: `closeClientConnection`, then its two filebufs
  | @close fd client hidle hfound =>
    obtain ⟨hnone, hopen⟩ := h.live fd client hfound
    have hrec' := hrec.close hfound
    refine h.closed hrec' rfl (.inl rfl) (hrec.known fd client hfound).2 ?_ ?_ ?_
    · intro fd' client' hget
      exact ⟨(erase_cases hget).2, (hrec'.closing client 1 rfl).2.2 fd' client' hget⟩
    · intro client' n hat
      obtain ⟨rfl, rfl⟩ := Prod.mk.inj (Option.some.inj hat)
      simp [hnone, hopen]
    · intro hended
      exact absurd hended (by simp [hopen])
  | @destroyOut client hat =>
    have hclosing : s.sink.closing = some (client, 1) := by rw [hat]; rfl
    obtain ⟨hcount, hopen⟩ := h.closing client 1 hclosing
    obtain ⟨hnew, hlt, hapart⟩ := hrec.closing client 1 hclosing
    refine h.closed ⟨hrec.known, hrec.apart, fun client' n hat' => ?_⟩ rfl (.inl rfl) hlt
      (fun fd client' hget => ⟨hget, hapart fd client' hget⟩) ?_ ?_
    · obtain ⟨rfl, -⟩ := Prod.mk.inj (Option.some.inj hat')
      exact ⟨hnew, hlt, hapart⟩
    · intro client' n hat'
      obtain ⟨rfl, rfl⟩ := Prod.mk.inj (Option.some.inj hat')
      simp [Descriptors.destroyOfilebuf, hcount, hopen]
    · intro hended
      exact absurd hended (by simp [Descriptors.destroyOfilebuf, hopen])
  | @destroyIn client hat =>
    have hclosing : s.sink.closing = some (client, 2) := by rw [hat]; rfl
    obtain ⟨hcount, hopen⟩ := h.closing client 2 hclosing
    obtain ⟨hnew, hlt, hapart⟩ := hrec.closing client 2 hclosing
    refine h.closed ⟨hrec.known, hrec.apart, nofun⟩ rfl (.inr rfl) hlt
      (fun fd client' hget => ⟨hget, hapart fd client' hget⟩) nofun ?_
    intro _
    simp [Descriptors.destroyIfilebuf, hcount]

/-- The count holds in every run. -/
theorem counted_run {ts : List (Trans Descriptors DescrLabel DescrEvent)}
    (hr : Run descriptors Descriptors.init ts s) : Counted (history ts) s := by
  refine Run.historyInvariant (C := fun _ _ => True) ?_ ?_ hr (fun _ _ => trivial)
  · have hnone : ∀ (fd : Nat) client, Descriptors.init.rrMap[fd]? ≠ some client := by
      intro fd client hget
      simp [Descriptors.init] at hget
    exact ⟨⟨fun fd c h => absurd h (hnone fd c), fun fd _ c _ h => absurd h (hnone fd c), nofun⟩,
      fun _ _ => ⟨rfl, nofun⟩, fun fd c h => absurd h (hnone fd c), nofun, nofun⟩
  · intro es u l v es' hcounted _ hstep
    exact counted_step hcounted (descrMoved_of_step hstep)

/-! ## §4. Whose descriptor a close hits. -/

/-- The kernel's table is as the threads think: a number with a record is that
connection's, and what another part has opened is still its own. -/
structure TableRight (s : Descriptors) : Prop where
  recorded : Recorded s
  clients : ∀ (fd : Nat) conn, s.table[fd]? = some (.client conn) ↔
    ∃ client, s.rrMap[fd]? = some client ∧ client.conn = conn
  others : ∀ (id fd : Nat), s.others[id]? = some fd → s.table[fd]? = some (.other id)

/-- Nothing is open and nothing is stored. -/
theorem TableRight.init : TableRight .init :=
  ⟨(counted_run Run.nil).recorded, fun fd conn => by simp [Descriptors.init],
    fun id fd h => by simp [Descriptors.init] at h⟩

/-- A number that was free is no connection's. -/
theorem TableRight.otherOpen {fd : Nat} (h : TableRight s) (hfree : fd ∉ s.table) :
    TableRight (s.otherOpened fd) := by
  have hnone := (OrdMap.not_mem_iff_get s.table fd).mp hfree
  refine ⟨⟨h.recorded.known, h.recorded.apart, h.recorded.closing⟩, fun fd' conn => ?_,
    fun id fd' hget => ?_⟩
  · show (s.table.insert fd _)[fd']? = _ ↔ _
    rw [OrdMap.get_insert]
    by_cases heq : fd = fd'
    · subst heq
      have hother := h.clients fd conn
      rw [hnone] at hother
      rw [if_pos rfl]
      exact ⟨nofun, fun hrecord => by cases hother.mpr hrecord⟩
    · rw [if_neg heq]
      exact h.clients fd' conn
  · replace hget : (s.others.insert s.nextOther fd)[id]? = some fd' := hget
    show (s.table.insert fd _)[fd']? = _
    rw [OrdMap.get_insert] at hget ⊢
    by_cases hid : s.nextOther = id
    · rw [if_pos hid] at hget
      rw [if_pos (Option.some.inj hget), hid]
    · rw [if_neg hid] at hget
      have hopen := h.others id fd' hget
      rw [if_neg (fun heq => by rw [heq, hopen] at hnone; cases hnone)]
      exact hopen

/-- Erasing the number of another part touches no connection. -/
theorem TableRight.otherClose {id fd : Nat} (h : TableRight s) (hgiven : s.others[id]? = some fd) :
    TableRight (s.otherClosed id fd) := by
  have hown := h.others id fd hgiven
  refine ⟨⟨h.recorded.known, h.recorded.apart, h.recorded.closing⟩, fun fd' conn => ?_,
    fun id' fd' hget => ?_⟩
  · show (s.table.erase fd)[fd']? = _ ↔ _
    rw [OrdMap.get_erase]
    by_cases heq : fd = fd'
    · subst heq
      have hother := h.clients fd conn
      rw [hown] at hother
      rw [if_pos rfl]
      exact ⟨nofun, fun hrecord => by cases hother.mpr hrecord⟩
    · rw [if_neg heq]
      exact h.clients fd' conn
  · replace hget : (s.others.erase id)[id']? = some fd' := hget
    show (s.table.erase fd)[fd']? = _
    rw [OrdMap.get_erase] at hget ⊢
    split at hget
    next => cases hget
    next hid =>
      have hopen := h.others id' fd' hget
      have hne : fd ≠ fd' := by
        intro heq
        rw [← heq, hown] at hopen
        exact hid (DescrOwner.other.inj (Option.some.inj hopen))
      rw [if_neg hne, hopen]

/-- Nothing is stored under a free number, so the new record is. -/
theorem TableRight.accept {fd : Nat} (h : TableRight s) (hidle : s.sink = .loop)
    (hfree : fd ∉ s.table) : TableRight (s.accepted fd) := by
  have hnone := (OrdMap.not_mem_iff_get s.table fd).mp hfree
  have hunregistered : fd ∉ s.rrMap := by
    intro hmem
    obtain ⟨client, hget⟩ := (OrdMap.mem_iff_get s.rrMap fd).mp hmem
    have hopen := (h.clients fd client.conn).mpr ⟨client, hget, rfl⟩
    rw [hnone] at hopen
    cases hopen
  refine ⟨h.recorded.accept hidle, fun fd' conn => ?_, fun id fd' hget => ?_⟩
  · show (s.table.insert fd _)[fd']? = _ ↔ ∃ client, (s.rrMap.insertIfNew fd _)[fd']? = _ ∧ _
    rw [OrdMap.get_insert, OrdMap.get_insertIfNew]
    by_cases heq : fd = fd'
    · rw [if_pos heq, if_pos ⟨heq, hunregistered⟩]
      simp [RRFiles.new]
    · rw [if_neg heq, if_neg fun hnew => heq hnew.1]
      exact h.clients fd' conn
  · have hopen := h.others id fd' hget
    show (s.table.insert fd _)[fd']? = _
    rw [OrdMap.get_insert, if_neg (fun heq => by rw [heq, hopen] at hnone; cases hnone)]
    exact hopen

/-- The number and the record go together. -/
theorem TableRight.close {fd : Nat} {client : RRFiles} (h : TableRight s)
    (hfound : s.rrMap[fd]? = some client) :
    TableRight { s with
      table := s.table.erase fd, rrMap := s.rrMap.erase fd, sink := .deleting client } := by
  have hown := (h.clients fd client.conn).mpr ⟨client, hfound, rfl⟩
  refine ⟨h.recorded.close hfound, fun fd' conn => ?_, fun id fd' hget => ?_⟩
  · show (s.table.erase fd)[fd']? = _ ↔ ∃ client, (s.rrMap.erase fd)[fd']? = _ ∧ _
    rw [OrdMap.get_erase, OrdMap.get_erase]
    by_cases heq : fd = fd'
    · rw [if_pos heq, if_pos heq]
      simp
    · rw [if_neg heq, if_neg heq]
      exact h.clients fd' conn
  · have hopen := h.others id fd' hget
    show (s.table.erase fd)[fd']? = _
    rw [OrdMap.get_erase, if_neg (fun heq => by rw [heq, hopen] at hown; cases hown)]
    exact hopen

/-- A close that hits nothing leaves the table as it is. -/
theorem TableRight.closeNothing {fd : Nat} {sink : SinkPhase} (h : TableRight s)
    (hfree : fd ∉ s.table) (hrec : Recorded { s with table := s.table.erase fd, sink }) :
    TableRight { s with table := s.table.erase fd, sink } := by
  have hsame : s.table.erase fd = s.table := OrdMap.erase_of_not_mem hfree
  exact ⟨hrec, by rw [hsame]; exact h.clients, by rw [hsame]; exact h.others⟩

/-- **A step that meets the condition** keeps the table right, and its closes
hit the connection's own descriptor or none. -/
theorem tableRight_step (h : TableRight s) (hfree : numberFree s l)
    (hmoved : DescrMoved s l s' es) : TableRight s' ∧ HitsOwn es := by
  -- a close hits what the table has under its number
  have hhits : ∀ {c fd : Nat} {es : List DescrEvent},
      (∀ owner, s.table[fd]? = some owner → owner = .client c) →
      es = [.closed c fd s.table[fd]?] ∨ es = [.closed c fd s.table[fd]?, .ended c] →
      HitsOwn es := by
    intro c fd es hown hes conn fd' owner hmem
    have heq : DescrEvent.closed conn fd' (some owner) = .closed c fd s.table[fd]? := by
      rcases hes with rfl | rfl
      · exact List.mem_singleton.mp hmem
      · simpa using hmem
    obtain ⟨rfl, -, hget⟩ := DescrEvent.closed.inj heq
    exact hown owner hget.symm
  cases hmoved with
  | otherOpen hlowest => exact ⟨h.otherOpen hlowest.1, nofun⟩
  | otherClose hgiven => exact ⟨h.otherClose hgiven, nofun⟩
  | accept hidle hlowest => exact ⟨h.accept hidle hlowest.1, nofun⟩
  | unknown => exact ⟨h, nofun⟩
  | @close fd client hidle hfound =>
    have hown := (h.clients fd client.conn).mpr ⟨client, hfound, rfl⟩
    refine ⟨h.close hfound, hhits (fun owner hget => ?_) (.inl rfl)⟩
    exact Option.some.inj (hget.symm.trans hown)
  | @destroyOut client hat =>
    have hnone := hfree client hat
    have hrec : Recorded (s.destroyOfilebuf client).1 := by
      refine ⟨h.recorded.known, h.recorded.apart, fun client' n hat' => ?_⟩
      obtain ⟨rfl, -⟩ := Prod.mk.inj (Option.some.inj hat')
      exact h.recorded.closing client 1 (by rw [hat]; rfl)
    refine ⟨h.closeNothing hnone hrec, hhits (fun owner hget => ?_) (.inl rfl)⟩
    rw [(OrdMap.not_mem_iff_get _ _).mp hnone] at hget
    cases hget
  | @destroyIn client hat =>
    have hnone := hfree client hat
    have hrec : Recorded (s.destroyIfilebuf client).1 :=
      ⟨h.recorded.known, h.recorded.apart, nofun⟩
    refine ⟨h.closeNothing hnone hrec, hhits (fun owner hget => ?_) (.inr rfl)⟩
    rw [(OrdMap.not_mem_iff_get _ _).mp hnone] at hget
    cases hget

/-- A buffer whose destructor hits no other owner is destroyed while its number
is not open. -/
theorem numberFree_of_hitsOwn (h : TableRight s) (hmoved : DescrMoved s l s' es)
    (hhits : HitsOwn es) : numberFree s l := by
  -- the connection itself is no longer in the table
  have hgone : ∀ {client : RRFiles} {n fd : Nat}, s.sink.closing = some (client, n) →
      (∀ owner, s.table[fd]? = some owner → owner = .client client.conn) → fd ∉ s.table := by
    intro client n fd hclosing hown hmem
    obtain ⟨owner, hget⟩ := (OrdMap.mem_iff_get s.table fd).mp hmem
    obtain rfl := hown owner hget
    obtain ⟨client', hrecord, hconn⟩ := (h.clients fd client.conn).mp hget
    exact (h.recorded.closing client n hclosing).2.2 fd client' hrecord hconn
  cases hmoved with
  | @destroyOut client hat =>
    intro client' hat'
    obtain rfl := SinkPhase.deleting.inj (hat.symm.trans hat')
    refine hgone (n := 1) (by rw [hat]; rfl) fun owner hget =>
      hhits client.conn client.m_ofilebuf owner ?_
    rw [← hget]
    exact List.mem_cons_self
  | @destroyIn client hat =>
    intro client' hat'
    obtain rfl := SinkPhase.outClosed.inj (hat.symm.trans hat')
    refine hgone (n := 2) (by rw [hat]; rfl) fun owner hget =>
      hhits client.conn client.m_ifilebuf owner ?_
    rw [← hget]
    exact List.mem_cons_self
  | _ => trivial

/-- **No close hits another owner** exactly in the runs in which a buffer is
destroyed only while its number is not open. -/
theorem hitsOwn_iff {ts : List (Trans Descriptors DescrLabel DescrEvent)}
    (hr : Run descriptors Descriptors.init ts s) :
    HitsOwn (history ts) ↔ StepsMeet numberFree ts := by
  rw [Run.kept_iff (I := TableRight) (K := fun t => HitsOwn t.evts) TableRight.init ?_ ?_ hr]
  · constructor
    · intro h t ht conn fd owner hmem
      exact h conn fd owner (List.mem_flatMap.mpr ⟨t, ht, hmem⟩)
    · intro h conn fd owner hmem
      obtain ⟨t, ht, hin⟩ := List.mem_flatMap.mp hmem
      exact h t ht conn fd owner hin
  · intro u l v es hright hfree hstep
    exact tableRight_step hright hfree (descrMoved_of_step hstep)
  · intro u l v es hright hstep hhits
    exact numberFree_of_hitsOwn hright (descrMoved_of_step hstep) hhits

/-- The number of a record that is being deleted is not open. -/
def NumberClosed (s : Descriptors) : Prop :=
  ∀ client n, s.sink.closing = some (client, n) →
    client.m_ofilebuf ∉ s.table ∧ client.m_ifilebuf ∉ s.table

/-- Then no close of a buffer hits an open number. -/
theorem NumberClosed.numberFree (h : NumberClosed s) (l : DescrLabel) : numberFree s l := by
  cases l with
  | destroyOfilebuf =>
    intro client hat
    exact (h client 1 (by rw [hat]; rfl)).1
  | destroyIfilebuf =>
    intro client hat
    exact (h client 2 (by rw [hat]; rfl)).2
  | _ => trivial

/-- Only another thread could open it again, and it is handed other numbers. -/
theorem numberClosed_step (hrec : Recorded s) (h : NumberClosed s) (hnot : notHandedOut s l)
    (hmoved : DescrMoved s l s' es) : NumberClosed s' := by
  have herase : ∀ {fd fd' : Nat}, fd ∉ s.table → fd ∉ s.table.erase fd' :=
    fun hfree hmem => hfree (Std.ExtTreeMap.mem_of_mem_erase hmem)
  cases hmoved with
  | @otherOpen fd =>
    intro client n hclosing
    have hne := hnot client (SinkPhase.client_of_closing hclosing)
    obtain ⟨hout, hin⟩ := h client n hclosing
    have hinsert : ∀ {fd'}, fd ≠ fd' → fd' ∉ s.table → fd' ∉ (s.otherOpened fd).table := by
      intro fd' hne hfree hmem
      rcases Std.ExtTreeMap.mem_insert.mp hmem with heq | hmem
      · exact hne (compare_eq_iff_eq.mp heq)
      · exact hfree hmem
    exact ⟨hinsert hne.1 hout, hinsert hne.2 hin⟩
  | otherClose =>
    intro client n hclosing
    obtain ⟨hout, hin⟩ := h client n hclosing
    exact ⟨herase hout, herase hin⟩
  | accept hidle =>
    intro client n hclosing
    rw [show (Descriptors.accepted s _).sink = s.sink from rfl, hidle] at hclosing
    cases hclosing
  | unknown => exact h
  | @close fd client hidle hfound =>
    intro client' n hclosing
    obtain ⟨rfl, -⟩ := Prod.mk.inj (Option.some.inj hclosing)
    -- both buffers have the number that has just been closed
    have hnew := (hrec.known fd client hfound).1
    rw [hnew]
    have hgone : fd ∉ s.table.erase fd := by simp
    exact ⟨hgone, hgone⟩
  | @destroyOut client hat =>
    intro client' n hclosing
    obtain ⟨rfl, -⟩ := Prod.mk.inj (Option.some.inj hclosing)
    obtain ⟨hout, hin⟩ := h client 1 (by rw [hat]; rfl)
    exact ⟨herase hout, herase hin⟩
  | destroyIn => exact nofun

/-- **No other thread is in between**: then no close hits another owner. -/
theorem hitsOwn_of_notHandedOut {ts : List (Trans Descriptors DescrLabel DescrEvent)}
    (hr : Run descriptors Descriptors.init ts s) (hnot : StepsMeet notHandedOut ts) :
    HitsOwn (history ts) := by
  refine (Run.historyInvariant
    (P := fun es s => (TableRight s ∧ NumberClosed s) ∧ HitsOwn es)
    ⟨⟨TableRight.init, nofun⟩, nofun⟩ ?_ hr hnot).2
  intro es u l v es' h hmeets hstep
  obtain ⟨⟨hright, hclosed⟩, hhits⟩ := h
  have hmoved := descrMoved_of_step hstep
  obtain ⟨hright', hhits'⟩ := tableRight_step hright (hclosed.numberFree l) hmoved
  refine ⟨⟨hright', numberClosed_step hright.recorded hclosed hmeets hmoved⟩, ?_⟩
  intro conn fd owner hmem
  rcases List.mem_append.mp hmem with hbefore | hnow
  · exact hhits conn fd owner hbefore
  · exact hhits' conn fd owner hnow

/-! ## §5. The closes of one connection. -/

/-- A connection has been closed not at all, or once with effect and then
without. -/
def HitOnce (es : List DescrEvent) : Prop :=
  ∀ conn, closesOf conn es = [] ∨ ∃ n, closesOf conn es = some (.client conn) :: .replicate n none

/-- One more close of a connection: its first hits, the others do not. -/
theorem HitOnce.append {c fd : Nat} {hit : Option DescrOwner} (h : HitOnce es)
    (hes' : es' = [.closed c fd hit] ∨ es' = [.closed c fd hit, .ended c])
    (hhit : closesOf c es = [] ∧ hit = some (.client c) ∨ closesOf c es ≠ [] ∧ hit = none) :
    HitOnce (es ++ es') := by
  intro conn
  have hcloses : closesOf conn es' = if c = conn then [hit] else [] := by
    rcases hes' with rfl | rfl <;> simp
  rw [closesOf_append, hcloses]
  by_cases heq : c = conn
  · subst heq
    rw [if_pos rfl]
    rcases hhit with ⟨hempty, rfl⟩ | ⟨hsome, rfl⟩
    · exact .inr ⟨0, by rw [hempty]; rfl⟩
    · obtain ⟨n, hn⟩ := (h c).resolve_left hsome
      refine .inr ⟨n + 1, ?_⟩
      rw [hn, List.cons_append, List.replicate_succ']
  · rw [if_neg heq, List.append_nil]
    exact h conn

/-- The first close finds the record stored, and its number open; later ones find it
free. -/
theorem hitOnce_step (hcounted : Counted es s) (hright : TableRight s) (hfree : numberFree s l)
    (hmoved : DescrMoved s l s' es') (h : HitOnce es) : HitOnce (es ++ es') := by
  -- a record that is being deleted has been closed before
  have hbefore : ∀ {client n}, s.sink.closing = some (client, n + 1) →
      closesOf client.conn es ≠ [] := by
    intro client n hclosing hempty
    have hcount := (hcounted.closing client _ hclosing).1
    rw [hempty] at hcount
    cases hcount
  cases hmoved with
  | @close fd client hidle hfound =>
    have hown := (hright.clients fd client.conn).mpr ⟨client, hfound, rfl⟩
    exact h.append (.inl rfl) (.inl ⟨(hcounted.live fd client hfound).1, hown⟩)
  | @destroyOut client hat =>
    have hnone := (OrdMap.not_mem_iff_get _ _).mp (hfree client hat)
    exact h.append (.inl rfl) (.inr ⟨hbefore (n := 0) (by rw [hat]; rfl), hnone⟩)
  | @destroyIn client hat =>
    have hnone := (OrdMap.not_mem_iff_get _ _).mp (hfree client hat)
    exact h.append (.inr rfl) (.inr ⟨hbefore (n := 1) (by rw [hat]; rfl), hnone⟩)
  | _ =>
    rw [List.append_nil]
    exact h

/-- **Of the closes of a connection only the first has an effect**, in every run
without a hit. -/
theorem closesOf_ended {ts : List (Trans Descriptors DescrLabel DescrEvent)}
    (hr : Run descriptors Descriptors.init ts s) (hfree : StepsMeet numberFree ts) {conn : Nat}
    (hended : .ended conn ∈ history ts) :
    closesOf conn (history ts) = [some (.client conn), none, none] := by
  have honce : HitOnce (history ts) := by
    refine (Run.historyInvariant
      (P := fun es s => (Counted es s ∧ TableRight s) ∧ HitOnce es)
      ⟨⟨counted_run Run.nil, TableRight.init⟩, fun _ => .inl rfl⟩ ?_ hr hfree).2
    intro es u l v es' h hmeets hstep
    obtain ⟨⟨hcounted, hright⟩, honce⟩ := h
    have hmoved := descrMoved_of_step hstep
    exact ⟨⟨counted_step hcounted hmoved, (tableRight_step hright hmeets hmoved).1⟩,
      hitOnce_step hcounted hright hmeets hmoved honce⟩
  have hcount := (counted_run hr).finished conn hended
  rcases honce conn with hempty | ⟨n, hn⟩
  · rw [hempty] at hcount
    cases hcount
  · rw [hn] at hcount
    obtain rfl : n = 2 := by simpa using hcount
    exact hn

/-- A connection is closed a second time as soon as a buffer is destroyed. -/
theorem keepsBuffers_of_closedOnce {ts : List (Trans Descriptors DescrLabel DescrEvent)}
    (hr : Run descriptors Descriptors.init ts s) (honce : ClosedOnce (history ts)) :
    StepsMeet keepsBuffers ts := by
  intro t ht
  obtain ⟨ts₁, ts₂, rfl⟩ := List.append_of_mem ht
  obtain ⟨hpre, hstep⟩ := hr.split
  obtain ⟨u, l, es, v⟩ := t
  have hcounted := counted_run hpre
  -- `n + 1` closes before, and this one
  have htwice : ∀ {client : RRFiles} {n : Nat}, u.sink.closing = some (client, n + 1) →
      (closesOf client.conn es).length = 1 → False := by
    intro client n hclosing hone
    have hcount := (hcounted.closing client _ hclosing).1
    have hmost := (honce client.conn).1
    rw [history_append, show history (⟨u, l, es, v⟩ :: ts₂) = es ++ history ts₂ from rfl,
      closesOf_append, closesOf_append, List.length_append, List.length_append, hcount, hone]
      at hmost
    omega
  have hmoved : DescrMoved u l v es := descrMoved_of_step hstep
  cases hmoved with
  | @destroyOut client hat =>
    have hclosing : u.sink.closing = some (client, 1) := by rw [hat]; rfl
    exact htwice hclosing (by simp [Descriptors.destroyOfilebuf])
  | @destroyIn client hat =>
    have hclosing : u.sink.closing = some (client, 2) := by rw [hat]; rfl
    exact htwice hclosing (by simp [Descriptors.destroyIfilebuf])
  | _ => trivial

/-- As long as no buffer is destroyed, the first close is the only one. -/
theorem closedOnce_of_keepsBuffers {ts : List (Trans Descriptors DescrLabel DescrEvent)}
    (hr : Run descriptors Descriptors.init ts s) (hkeeps : StepsMeet keepsBuffers ts) :
    ClosedOnce (history ts) := by
  have hmost : ∀ conn, (closesOf conn (history ts)).length ≤ 1 ∧ .ended conn ∉ history ts := by
    refine (Run.historyInvariant
      (P := fun es s => Counted es s ∧
        ∀ conn, (closesOf conn es).length ≤ 1 ∧ .ended conn ∉ es)
      ⟨counted_run Run.nil, fun _ => ⟨Nat.zero_le _, nofun⟩⟩ ?_ hr hkeeps).2
    intro es u l v es' h hmeets hstep
    obtain ⟨hcounted, hmost⟩ := h
    have hmoved := descrMoved_of_step hstep
    refine ⟨counted_step hcounted hmoved, fun conn => ?_⟩
    cases hmoved with
    | @close fd client hidle hfound =>
      obtain ⟨hle, hended⟩ := hmost conn
      by_cases heq : client.conn = conn
      · subst heq
        simp [(hcounted.live fd client hfound).1, hended]
      · simp [heq, hle, hended]
    | destroyOut => exact hmeets.elim
    | destroyIn => exact hmeets.elim
    | _ =>
      rw [List.append_nil]
      exact hmost conn
  exact fun conn => ⟨(hmost conn).1, fun hended => absurd hended (hmost conn).2⟩

/-- **How often a connection is closed, and whom the closes hit.** Once, and only
its own descriptor, exactly in the runs in which no record is deleted: a
connection whose closing has ended has been closed three times.  That no close
hits another owner is exactly that each buffer is destroyed while its number is
not open; then the first of the three closes is the connection's own and the
others hit nothing.  So it is when no other thread is handed the number during
the deletion. -/
theorem closed_once_iff (ts : List (Trans Descriptors DescrLabel DescrEvent)) (s : Descriptors)
    (hr : Run descriptors Descriptors.init ts s) :
    (ClosedOnce (history ts) ∧ HitsOwn (history ts) ↔ StepsMeet keepsBuffers ts) ∧
    (∀ conn, .ended conn ∈ history ts → (closesOf conn (history ts)).length = 3) ∧
    (HitsOwn (history ts) ↔ StepsMeet numberFree ts) ∧
    (HitsOwn (history ts) → ∀ conn, .ended conn ∈ history ts →
      closesOf conn (history ts) = [some (.client conn), none, none]) ∧
    (StepsMeet notHandedOut ts → HitsOwn (history ts)) := by
  have hfree : StepsMeet keepsBuffers ts → StepsMeet numberFree ts := by
    intro hkeeps t ht
    have hkeep := hkeeps t ht
    cases hl : t.label with
    | destroyOfilebuf =>
      rw [hl] at hkeep
      exact hkeep.elim
    | destroyIfilebuf =>
      rw [hl] at hkeep
      exact hkeep.elim
    | _ => trivial
  refine ⟨⟨?_, ?_⟩, (counted_run hr).finished, hitsOwn_iff hr, ?_, hitsOwn_of_notHandedOut hr⟩
  · intro h
    exact keepsBuffers_of_closedOnce hr h.1
  · intro hkeeps
    exact ⟨closedOnce_of_keepsBuffers hr hkeeps, (hitsOwn_iff hr).mpr (hfree hkeeps)⟩
  · intro hhits conn hended
    exact closesOf_ended hr ((hitsOwn_iff hr).mp hhits) hended

end

/-! ### A session that is opened in time, and one that is not. -/

/-- Three descriptors are open before the first client comes. -/
def firstClient : List DescrLabel := [.otherOpen 0, .otherOpen 1, .otherOpen 2, .accept 3]

/-- A session is opened before the client is closed, another one after that. -/
def openedApart : List DescrLabel :=
  firstClient ++ [.otherOpen 4, .closeClientConnection 3, .destroyOfilebuf, .otherClose 3,
    .destroyIfilebuf, .otherOpen 3]

theorem closed_once_sample :
    ∃ ts s, Run descriptors Descriptors.init ts s ∧ s.table[3]? = some (.other 4) ∧
      HitsOwn (history ts) ∧ closesOf 0 (history ts) = [some (.client 0), none, none] := by
  obtain ⟨ts, s, hr, hp⟩ := Machine.exists_run_of_exec (M := descriptors) (s := Descriptors.init)
    (l := openedApart)
    (p := fun r => decide (r.2.table[3]? = some (DescrOwner.other 4) ∧
      DescrEvent.ended 0 ∈ history r.1 ∧
      ∀ t ∈ r.1, notHandedOut t.pre t.label))
    (by decide +kernel)
  obtain ⟨hopen, hended, hnot⟩ := of_decide_eq_true hp
  obtain ⟨-, -, -, hcloses, hhits⟩ := closed_once_iff ts s hr
  have hown := hhits hnot
  exact ⟨ts, s, hr, hopen, hown, hcloses hown 0 hended⟩

/-- The session is opened while the record of the client is deleted. -/
def openedBetween : List DescrLabel :=
  firstClient ++ [.closeClientConnection 3, .otherOpen 3, .destroyOfilebuf, .destroyIfilebuf]

/-- **It is given the number, and closed with the record.** -/
theorem session_closed :
    ∃ ts s, Run descriptors Descriptors.init ts s ∧ .ended 0 ∈ history ts ∧
      closesOf 0 (history ts) = [some (.client 0), some (.other 3), none] ∧
      s.others[3]? = some 3 ∧ s.table[3]? = none ∧
      ¬ClosedOnce (history ts) ∧ ¬HitsOwn (history ts) := by
  obtain ⟨ts, s, hr, hp⟩ := Machine.exists_run_of_exec (M := descriptors) (s := Descriptors.init)
    (l := openedBetween)
    (p := fun r => decide (DescrEvent.ended 0 ∈ history r.1 ∧
      closesOf 0 (history r.1) = [some (.client 0), some (.other 3), none] ∧
      r.2.others[3]? = some 3 ∧ r.2.table[3]? = none ∧
      DescrEvent.closed 0 3 (some (.other 3)) ∈ history r.1))
    (by decide +kernel)
  obtain ⟨hended, hcloses, hgiven, hgone, hhit⟩ := of_decide_eq_true hp
  refine ⟨ts, s, hr, hended, hcloses, hgiven, hgone, fun honce => ?_, fun hhits => ?_⟩
  · have hmost := (honce 0).1
    rw [hcloses] at hmost
    exact absurd hmost (by decide)
  · cases hhits 0 3 (.other 3) hhit

end HNodeMgmt.Scgi
