/-
  HNodeMgmt.Scgi.Delivery — how the bytes of a header arrive.

  A schedule is a list of calls of `recvData`; each call comes with the pieces
  that have arrived since the last one.  What a call leaves in the socket is
  there for the next one.

  Main results:
    * `deliver_reads` — along every schedule the record holds the state of the
      reader, and the socket what it has not read.
    * `delivery_independent` — two schedules of one stream end the same.
-/
import Mathlib.Tactic.Common
import HNodeMgmt.Scgi.Header

namespace HNodeMgmt.Scgi

open Lib HeaderState

/-! ## §1. Schedules. -/

/-- A call of `recvData` for each entry, behind the pieces that arrive. -/
def deliver : HNSCGIRR → Socket → List (List (List UInt8)) → HNSCGIRR × Socket
  | rr, sock, [] => (rr, sock)
  | rr, sock, arrived :: calls =>
    let (_, rr, sock) := rr.recvData { sock with pieces := sock.pieces ++ arrived }
    deliver rr sock calls

/-- A record just made, and a socket where a read that finds nothing returns
0. -/
def deliverFresh (fd : Nat) (calls : List (List (List UInt8))) : HNSCGIRR × Socket :=
  deliver (HNSCGIRR.new fd) { pieces := [], nonblocking := false } calls

/-- Everything that was delivered has been read, or the record reads no more. -/
def SettledAt (r : HNSCGIRR × Socket) : Prop :=
  r.2.bytes = [] ∨ r.1.rxState = .hdrDone ∨ r.1.rxState = .error

/-- The schedule delivers the stream, and the record has been called until
nothing more can be read. -/
structure Delivers (fd : Nat) (stream : List UInt8) (calls : List (List (List UInt8))) :
    Prop where
  called : calls ≠ []
  bytes : calls.flatten.flatten = stream
  settled : SettledAt (deliverFresh fd calls)

theorem deliver_append (calls : List (List (List UInt8))) :
    ∀ (rr : HNSCGIRR) (sock : Socket) (more : List (List (List UInt8))),
      deliver rr sock (calls ++ more) =
        deliver (deliver rr sock calls).1 (deliver rr sock calls).2 more := by
  induction calls with
  | nil => intro rr sock more; rfl
  | cons arrived calls ih => intro rr sock more; exact ih _ _ more

/-! ## §2. What one call preserves. -/

variable {fd : Nat} {rr : HNSCGIRR} {st : HeaderState} {sock : Socket} {stream : List UInt8}

/-- The record holds what the reader made of a front part of the stream; the
rest is in the socket. -/
structure Read (fd : Nat) (stream : List UInt8) (rr : HNSCGIRR) (sock : Socket)
    (st : HeaderState) : Prop where
  holds : Holds fd rr st
  reads : Reads headerReader (.len []) stream st sock.bytes
  waits : sock.nonblocking = false

/-- Bytes that arrive are behind the stream. -/
theorem Read.arrive (h : Read fd stream rr sock st) (arrived : List (List UInt8)) :
    Read fd (stream ++ arrived.flatten) rr { sock with pieces := sock.pieces ++ arrived } st := by
  refine ⟨h.holds, ?_, h.waits⟩
  have hbytes : Socket.bytes { sock with pieces := sock.pieces ++ arrived } =
      sock.bytes ++ arrived.flatten := List.flatten_append
  rw [hbytes]
  exact h.reads.append arrived.flatten

/-- **A call keeps the record a reading**: afterwards it is not fresh any more,
and it is settled or has used up a piece. -/
theorem Read.call (h : Read fd stream rr sock st) :
    ∃ st', Read fd stream (rr.recvData sock).2.1 (rr.recvData sock).2.2 st' ∧
      (rr.recvData sock).2.1 = st'.record fd ∧
      (SettledAt (rr.recvData sock).2 ∨
        (rr.recvData sock).2.2.pieces.length < sock.pieces.length) := by
  by_cases hfinal : st.final = true
  · -- nothing is read any more
    have hrecord : rr = st.record fd := by
      rcases h.holds with hrr | ⟨-, rfl⟩
      · exact hrr
      · cases hfinal
    have hstate := final_rxState fd hfinal
    rw [← hrecord] at hstate
    rw [recvData_stays hstate]
    exact ⟨st, h, hrecord, .inl (.inr hstate)⟩
  · have hopen : st.final = false := by simpa using hfinal
    obtain ⟨r, hout, heq⟩ := recvData_outcome h.holds hopen sock
    rw [heq]
    cases hout with
    | @waiting st' sock' reads follows drained notFinal fed =>
      refine ⟨st', ⟨.inl rfl, h.reads.trans reads, follows.nonblocking.trans h.waits⟩, rfl, ?_⟩
      rcases drained with hnil | hlt
      · exact .inl (.inl hnil)
      · exact .inr hlt
    | ready reads follows =>
      exact ⟨_, ⟨.inl rfl, h.reads.trans reads, follows.nonblocking.trans h.waits⟩, rfl,
        .inl (.inr (.inl rfl))⟩
    | bad reads follows =>
      exact ⟨_, ⟨.inl rfl, h.reads.trans reads, follows.nonblocking.trans h.waits⟩, rfl,
        .inl (.inr (.inr rfl))⟩
    | wouldBlock reads follows drained nonblocking =>
      rw [h.waits] at nonblocking
      cases nonblocking

/-! ## §3. Whole schedules. -/

/-- **Along every schedule** the record is a reading of what was delivered. -/
theorem deliver_reads (calls : List (List (List UInt8))) :
    ∀ {rr : HNSCGIRR} {sock : Socket} {st : HeaderState} {stream : List UInt8},
      Read fd stream rr sock st →
      ∃ st', Read fd (stream ++ calls.flatten.flatten) (deliver rr sock calls).1
          (deliver rr sock calls).2 st' ∧
        (calls ≠ [] → (deliver rr sock calls).1 = st'.record fd) := by
  induction calls with
  | nil =>
    intro rr sock st stream h
    refine ⟨st, ?_, fun hne => absurd rfl hne⟩
    simpa [deliver] using h
  | cons arrived calls ih =>
    intro rr sock st stream h
    obtain ⟨st₁, hread, hrecord, -⟩ := (h.arrive arrived).call
    obtain ⟨st', hrest, hlast⟩ := ih hread
    refine ⟨st', ?_, fun _ => ?_⟩
    · simpa [deliver] using hrest
    · by_cases hcalls : calls = []
      · -- the last call was this one
        subst hcalls
        rcases hrest.holds with hst | ⟨hnew, -⟩
        · exact hst
        · have hbad : st₁.record fd = HNSCGIRR.new fd := hrecord.symm.trans hnew
          cases st₁ <;> simp [HeaderState.record, HNSCGIRR.new] at hbad
      · exact hlast hcalls

/-- A fresh record has read nothing. -/
theorem read_fresh (fd : Nat) :
    Read fd [] (HNSCGIRR.new fd) { pieces := [], nonblocking := false } (.len []) :=
  ⟨.inr ⟨rfl, rfl⟩, Reads.refl, rfl⟩

/-- Calling again, with nothing new, reads what is left. -/
theorem settles (n : Nat) :
    ∀ {rr : HNSCGIRR} {sock : Socket} {st : HeaderState},
      Read fd stream rr sock st → sock.pieces.length < n →
      ∃ k, SettledAt (deliver rr sock (List.replicate (k + 1) [])) := by
  induction n with
  | zero => intro rr sock st _ h; exact absurd h (Nat.not_lt_zero _)
  | succ n ih =>
    intro rr sock st h hlen
    have hsame : ({ sock with pieces := sock.pieces ++ [] } : Socket) = sock := by
      rw [List.append_nil]
    obtain ⟨st', hread, -, hsettled | hlt⟩ := h.call
    · refine ⟨0, ?_⟩
      show SettledAt (rr.recvData { sock with pieces := sock.pieces ++ [] }).2
      rw [hsame]
      exact hsettled
    · obtain ⟨k, hk⟩ := ih hread (by omega)
      refine ⟨k + 1, ?_⟩
      have hfirst : deliver rr sock (List.replicate (k + 1 + 1) []) =
          deliver (rr.recvData { sock with pieces := sock.pieces ++ [] }).2.1
            (rr.recvData { sock with pieces := sock.pieces ++ [] }).2.2
            (List.replicate (k + 1) []) := rfl
      rw [hfirst, hsame]
      exact hk

/-- Every schedule delivers its bytes once the record is called often enough. -/
theorem delivers_eventually (fd : Nat) (calls : List (List (List UInt8))) :
    ∃ k, Delivers fd calls.flatten.flatten (calls ++ List.replicate (k + 1) []) := by
  obtain ⟨st, hread, -⟩ := deliver_reads calls (read_fresh fd)
  obtain ⟨k, hk⟩ := settles ((deliverFresh fd calls).2.pieces.length + 1) hread
    (Nat.lt_succ_self _)
  refine ⟨k, by simp, by simp, ?_⟩
  rw [deliverFresh, deliver_append]
  exact hk

/-- A delivered stream has been read as far as the reader goes. -/
theorem Delivers.reading {calls : List (List (List UInt8))} (h : Delivers fd stream calls) :
    ∃ st, (deliverFresh fd calls).1 = st.record fd ∧
      Reads headerReader (.len []) stream st (deliverFresh fd calls).2.bytes ∧
      headerReader.Settled st (deliverFresh fd calls).2.bytes := by
  obtain ⟨st, hread, hrecord⟩ := deliver_reads calls (read_fresh fd)
  have hrec : (deliverFresh fd calls).1 = st.record fd := hrecord h.called
  refine ⟨st, hrec, ?_, ?_⟩
  · rw [← h.bytes]
    exact hread.reads
  · rcases h.settled with hnil | hstate
    · exact .inl hnil
    · rw [hrec] at hstate
      exact .inr (rxState_final hstate)

/-- **The header does not depend on how its bytes arrive.**  Every schedule of
a stream delivers it once the record is called often enough, and any two that
do end with the same record, having left the same bytes of the stream. -/
theorem delivery_independent (fd : Nat) (stream : List UInt8) :
    (∀ calls : List (List (List UInt8)), calls.flatten.flatten = stream →
      ∃ k, Delivers fd stream (calls ++ List.replicate (k + 1) [])) ∧
    ∀ calls₁ calls₂ : List (List (List UInt8)),
      Delivers fd stream calls₁ → Delivers fd stream calls₂ →
      (deliverFresh fd calls₁).1 = (deliverFresh fd calls₂).1 ∧
      ∃ consumed, stream = consumed ++ (deliverFresh fd calls₁).2.bytes ∧
        stream = consumed ++ (deliverFresh fd calls₂).2.bytes := by
  refine ⟨?_, ?_⟩
  · rintro calls rfl
    exact delivers_eventually fd calls
  · intro calls₁ calls₂ h₁ h₂
    obtain ⟨st₁, hrec₁, hreads₁, hsettled₁⟩ := h₁.reading
    obtain ⟨st₂, hrec₂, hreads₂, hsettled₂⟩ := h₂.reading
    obtain ⟨rfl, hbytes⟩ := hreads₁.settled_unique hreads₂ hsettled₁ hsettled₂
    obtain ⟨consumed, hconsumed⟩ := hreads₁.suffix
    exact ⟨hrec₁.trans hrec₂.symm, consumed, hconsumed, hbytes ▸ hconsumed⟩

/-! ## §4. One stream, delivered twice. -/

/-- A header with the pair (A, b), and a byte of the body. -/
def sampleStream : List UInt8 := lit "4:A" ++ [0] ++ lit "b" ++ [0] ++ lit ",x"

/-- At once, and with cuts in the block and in front of the comma. -/
theorem delivery_independent_sample :
    (deliverFresh 7 [[sampleStream]]).1 =
      (deliverFresh 7 [[lit "4"], [lit ":A"], [[], [0] ++ lit "b", [0]], [lit ",x"], []]).1 ∧
    (deliverFresh 7 [[sampleStream]]).2.bytes = lit "x" := by
  refine ⟨((delivery_independent 7 sampleStream).2 _ _ ⟨by decide, by decide, ?_⟩
    ⟨by decide, by decide, ?_⟩).1, by decide +kernel⟩
  · exact .inr (.inl (by decide +kernel))
  · exact .inr (.inl (by decide +kernel))

end HNodeMgmt.Scgi
