/-
  HNodeMgmt.Scgi.HeaderBuffer — the memory the header is gathered in.

  The client declares a length, whatever it is; so many bytes are allocated,
  reads fill them from the front, the pairs are extracted, and the block is
  freed.  Here the calls of `readRequestHeaders` are taken with the block that
  `m_headerBuf` points to, each access to it checked, and with what happens to
  it noted down.  An access that does not lie inside has no step.

  Main results:
    * `bufferRight_step` — every call has a step, and keeps the books.
    * `header_buffer_safe` — the bound, the size, the writes and the extraction,
      in every run.
-/
import Mathlib.Tactic.Common
import HNodeMgmt.Lib.Block
import HNodeMgmt.Lib.Machine
import HNodeMgmt.Scgi.AnyRead

namespace HNodeMgmt.Scgi

open Lib

/-! ## §1. The parser and its memory. -/

/-- What is done to the memory. -/
inductive MemEvent where
  | malloc (size : Nat)
  /-- A `read` to the buffer at an offset: how many bytes it asked for at most,
  and those it wrote. -/
  | fill (offset count : Nat) (bytes : List UInt8)
  /-- The bytes the pair extraction read. -/
  | extract (bytes : List UInt8)
  | free
  deriving DecidableEq, Repr

/-- A record with the block its `m_headerBuf` points to. -/
structure Mem where
  rr : HNSCGIRR
  block : Option (Block UInt8)

/-- A call of `readRequestHeaders`, with its accesses to the block. -/
def Mem.step (m : Mem) (script : Script) : Option (Mem × List MemEvent) :=
  let rr' := (m.rr.readRequestHeaders script).2.1
  match m.rr.rxState with
  | .hdrNstrLen =>
    match m.rr.readNetStrStart script with
    | (.parseComplete, rr, _) =>
      some (⟨rr', some (Block.fresh rr.expHdrLen.toNat)⟩, [.malloc rr.expHdrLen.toNat])
    | _ => some (⟨rr', m.block⟩, [])
  | .hdrAccumulate =>
    let offset := m.rr.rcvHdrLen.toNat
    let bytesLeft := (m.rr.expHdrLen - m.rr.rcvHdrLen).toNat
    let bytes := (ReadEnd.read script bytesLeft).1.getD []
    m.block.bind fun block => (block.write offset bytes).map fun block =>
      (⟨rr', some block⟩, [.fill offset bytesLeft bytes])
  | .hdrExtractPairs =>
    m.block.bind fun block => (block.read m.rr.rcvHdrLen.toNat).map fun bytes =>
      (⟨rr', none⟩, [.extract bytes, .free])
  | _ => some (⟨rr', m.block⟩, [])

/-- Any calls of `readRequestHeaders`; a label is what answers the reads of one. -/
def headerMachine : Machine Mem Script MemEvent := { step := Mem.step }

/-- A new record.  The constructor leaves the counters as they are in memory. -/
def freshMem (fd : Nat) (exp rcv : UInt32) : Mem :=
  { rr := { HNSCGIRR.new fd with expHdrLen := exp, rcvHdrLen := rcv }, block := none }

/-! ## §2. What is right about the accesses. -/

/-- The size of the block that is allocated after some events. -/
def capacity (h : List MemEvent) : Option Nat :=
  h.foldl (fun size e =>
    match e with
    | .malloc n => some n
    | .free => none
    | _ => size) none

/-- The bytes that have been received since the block was allocated. -/
def received (h : List MemEvent) : List UInt8 :=
  h.foldl (fun got e =>
    match e with
    | .malloc _ => []
    | .fill _ _ bytes => got ++ bytes
    | _ => got) []

/-- What is right about an access, made after some others: a write starts where
the one before it ended, and asks for what is left of the block; the extraction
reads all of the block, and what was received. -/
def EventRight (h : List MemEvent) : MemEvent → Prop
  | .malloc _ => capacity h = none
  | .fill offset count bytes =>
    offset = (received h).length ∧ capacity h = some (offset + count) ∧ bytes.length ≤ count
  | .extract bytes => bytes = received h ∧ capacity h = some bytes.length
  | .free => (capacity h).isSome

/-- All accesses are right. -/
def AllRight (h : List MemEvent) : Prop := ∀ h₁ e h₂, h = h₁ ++ e :: h₂ → EventRight h₁ e

theorem allRight_nil : AllRight [] := by
  intro h₁ e h₂ heq
  have hlength := congrArg List.length heq
  simp at hlength

/-- One access more. -/
theorem AllRight.snoc {h : List MemEvent} {e : MemEvent} (hall : AllRight h)
    (he : EventRight h e) : AllRight (h ++ [e]) := by
  intro h₁ e' h₂ heq
  rcases List.eq_nil_or_concat h₂ with rfl | ⟨h₃, last, rfl⟩
  · obtain ⟨rfl, hlast⟩ := List.append_inj' heq rfl
    obtain rfl : e = e' := by simpa using hlast
    exact he
  · have hsplit : h ++ [e] = (h₁ ++ e' :: h₃) ++ [last] := by
      rw [heq]
      simp
    exact hall h₁ e' h₃ (List.append_inj' hsplit rfl).1

@[simp] theorem capacity_snoc (h : List MemEvent) (e : MemEvent) :
    capacity (h ++ [e]) = match e with
      | .malloc n => some n
      | .free => none
      | _ => capacity h := by
  rw [capacity, List.foldl_append]
  rfl

@[simp] theorem received_snoc (h : List MemEvent) (e : MemEvent) :
    received (h ++ [e]) = match e with
      | .malloc _ => []
      | .fill _ _ bytes => received h ++ bytes
      | _ => received h := by
  rw [received, List.foldl_append]
  rfl

/-- The books of a record and its block, in each state of the parser. -/
inductive BufferRight (rr₀ : HNSCGIRR) (h : List MemEvent) : Mem → Prop
  /-- Nothing has been called. -/
  | idle (state : rr₀.rxState = .idle) (unallocated : capacity h = none) :
      BufferRight rr₀ h ⟨rr₀, none⟩
  | length {rr : HNSCGIRR} (state : rr.rxState = .hdrNstrLen) (rcv : rr.rcvHdrLen = 0)
      (unallocated : capacity h = none) : BufferRight rr₀ h ⟨rr, none⟩
  /-- The front part of the block is what has been received; all of it, when the
  pairs are extracted. -/
  | holding {r : HNSCGIRR} (got : List UInt8)
      (state : r.rxState = .hdrAccumulate ∨
        r.rxState = .hdrExtractPairs ∧ r.rcvHdrLen = r.expHdrLen)
      (buf : r.headerBuf = some got) (len : got.length = r.rcvHdrLen.toNat)
      (le : r.rcvHdrLen ≤ r.expHdrLen) (bytes : received h = got)
      (size : capacity h = some r.expHdrLen.toNat) :
      BufferRight rr₀ h ⟨r, some (Block.filled r.expHdrLen.toNat got)⟩
  | released {rr : HNSCGIRR} (state : rr.rxState = .hdrNstrComma ∨ rr.rxState = .hdrDone)
      (rcv : rr.rcvHdrLen = 0) (unallocated : capacity h = none) : BufferRight rr₀ h ⟨rr, none⟩
  | failed {rr : HNSCGIRR} {block : Option (Block UInt8)} (state : rr.rxState = .error)
      (le : rr.rcvHdrLen ≤ rr.expHdrLen) : BufferRight rr₀ h ⟨rr, block⟩

/-! ## §3. One call. -/

/-- The length is read without touching anything else. -/
theorem netStr_frame :
    ∀ (fuel : Nat) (rr : HNSCGIRR) (script : Script),
      let r := rr.readNetStrLoop fuel script
      ∃ str exp, r.2.1 = { rr with expHdrLen := exp, partialStr := str } ∧
        (r.1 ≠ .parseComplete → exp = rr.expHdrLen)
  | 0, rr, _ => ⟨rr.partialStr, rr.expHdrLen, rfl, fun _ => rfl⟩
  | fuel + 1, rr, script => by
      show ∃ str exp, (rr.readNetStrLoop (fuel + 1) script).2.1 = _ ∧
        ((rr.readNetStrLoop (fuel + 1) script).1 ≠ _ → _)
      rw [HNSCGIRR.readNetStrLoop]
      cases hread : ReadEnd.read script 1 with
      | mk answer script' =>
        cases answer with
        | none => exact ⟨rr.partialStr, rr.expHdrLen, rfl, fun _ => rfl⟩
        | some bs =>
          cases bs with
          | nil => exact ⟨rr.partialStr, rr.expHdrLen, rfl, fun _ => rfl⟩
          | cons c cs =>
            simp only
            by_cases hquote : c = 34
            · rw [if_pos hquote]
              exact netStr_frame fuel rr script'
            by_cases hcolon : c = 58
            · rw [if_neg hquote, if_pos hcolon]
              exact ⟨_, _, rfl, fun hne => absurd rfl hne⟩
            · rw [if_neg hquote, if_neg hcolon]
              exact netStr_frame fuel { rr with partialStr := rr.partialStr ++ [c] } script'

variable {rr₀ rr : HNSCGIRR} {h : List MemEvent}

/-- In HDR_NSTR_LEN a call allocates as much as was declared, waits, or fails. -/
theorem length_step (hall : AllRight h) (hstate : rr.rxState = .hdrNstrLen)
    (hrcv : rr.rcvHdrLen = 0) (hnone : capacity h = none) (script : Script) :
    ∃ m' es, Mem.step ⟨rr, none⟩ script = some (m', es) ∧ AllRight (h ++ es) ∧
      BufferRight rr₀ (h ++ es) m' := by
  have hzero : ∀ {exp : UInt32}, rr.rcvHdrLen ≤ exp := by
    intro exp
    rw [hrcv, UInt32.le_iff_toNat_le]
    exact Nat.zero_le _
  obtain ⟨str, exp, hframe, hexp⟩ := netStr_frame (ReadEnd.patience script) rr script
  have hloop := hframe
  unfold Mem.step HNSCGIRR.readRequestHeaders
  simp only [hstate, HNSCGIRR.readNetStrStart]
  generalize rr.readNetStrLoop (ReadEnd.patience script) script = r at hloop hexp ⊢
  obtain ⟨result, rr', script'⟩ := r
  obtain rfl : rr' = { rr with expHdrLen := exp, partialStr := str } := hloop
  cases result with
  | parseComplete =>
    refine ⟨_, _, rfl, hall.snoc hnone, ?_⟩
    exact .holding (r := { rr with
        expHdrLen := exp, partialStr := str, headerBuf := some [], rcvHdrLen := 0
        rxState := .hdrAccumulate }) [] (.inl rfl) rfl rfl
      (by rw [UInt32.le_iff_toNat_le]; exact Nat.zero_le _) (by simp) (by simp)
  | parseErr =>
    refine ⟨_, _, rfl, by rwa [List.append_nil], ?_⟩
    exact .failed rfl hzero
  | _ =>
    refine ⟨_, _, rfl, by rwa [List.append_nil], ?_⟩
    rw [List.append_nil]
    exact .length hstate hrcv hnone

/-- The counter after a read of what is left, or less. -/
theorem rcv_after {rcv exp : UInt32} {n : Nat} (hle : rcv ≤ exp) (hn : n ≤ (exp - rcv).toNat) :
    (rcv + UInt32.ofNat n).toNat = rcv.toNat + n ∧ rcv + UInt32.ofNat n ≤ exp ∧
      exp.toNat = rcv.toNat + (exp - rcv).toNat := by
  have hleft : (exp - rcv).toNat = exp.toNat - rcv.toNat := UInt32.toNat_sub_of_le _ _ hle
  rw [UInt32.le_iff_toNat_le] at hle
  have hexp := exp.toNat_lt
  have hnat : (UInt32.ofNat n).toNat = n := by
    rw [UInt32.toNat_ofNat']
    exact Nat.mod_eq_of_lt (by omega)
  have hsum : (rcv + UInt32.ofNat n).toNat = rcv.toNat + n := by
    rw [UInt32.toNat_add, hnat]
    exact Nat.mod_eq_of_lt (by omega)
  refine ⟨hsum, ?_, by omega⟩
  rw [UInt32.le_iff_toNat_le, hsum]
  omega

/-- In HDR_ACCUMULATE a call writes behind what there is. -/
theorem accumulate_step_mem (hall : AllRight h) {got : List UInt8}
    (hstate : rr.rxState = .hdrAccumulate) (hbuf : rr.headerBuf = some got)
    (hlen : got.length = rr.rcvHdrLen.toNat) (hle : rr.rcvHdrLen ≤ rr.expHdrLen)
    (hbytes : received h = got) (hsize : capacity h = some rr.expHdrLen.toNat)
    (script : Script) :
    ∃ m' es, Mem.step ⟨rr, some (Block.filled rr.expHdrLen.toNat got)⟩ script = some (m', es) ∧
      AllRight (h ++ es) ∧ BufferRight rr₀ (h ++ es) m' := by
  obtain ⟨answer, script', hread, -, hanswer⟩ :=
    read_script script (rr.expHdrLen - rr.rcvHdrLen).toNat
  have hcount : (answer.getD []).length ≤ (rr.expHdrLen - rr.rcvHdrLen).toNat := by
    cases answer with
    | none => exact Nat.zero_le _
    | some bs => exact hanswer bs rfl
  obtain ⟨hsum, hle', hexp⟩ := rcv_after hle hcount
  have hwrite : (Block.filled rr.expHdrLen.toNat got).write rr.rcvHdrLen.toNat (answer.getD []) =
      some (Block.filled rr.expHdrLen.toNat (got ++ answer.getD [])) := by
    rw [← hlen]
    exact Block.write_filled (by omega)
  have hright : EventRight h (.fill rr.rcvHdrLen.toNat (rr.expHdrLen - rr.rcvHdrLen).toNat
      (answer.getD [])) := by
    refine ⟨?_, ?_, hcount⟩
    · rw [hbytes, hlen]
    · rw [hsize, hexp]
  unfold Mem.step HNSCGIRR.readRequestHeaders HNSCGIRR.fillRequestHeaderBuffer
  simp only [hstate, hread, hwrite, Option.bind_some, Option.map_some]
  cases answer with
  | none =>
    refine ⟨_, _, rfl, hall.snoc hright, ?_⟩
    exact .failed rfl hle
  | some bs =>
    have hput : rr.headerBuf.map (fun buf => writeAt buf rr.rcvHdrLen.toNat bs) =
        some (got ++ bs) := by
      rw [hbuf, Option.map_some, writeAt, ← hlen]
      simp
    have hlength : (got ++ bs).length = (rr.rcvHdrLen + UInt32.ofNat bs.length).toNat := by
      rw [List.length_append, hlen]
      exact hsum.symm
    -- the record with the bytes, in the state it is left in
    have hholding : ∀ state, state = RxState.hdrAccumulate ∨ state = .hdrExtractPairs ∧
          rr.rcvHdrLen + UInt32.ofNat bs.length = rr.expHdrLen →
        BufferRight rr₀ (h ++ [.fill rr.rcvHdrLen.toNat
            (rr.expHdrLen - rr.rcvHdrLen).toNat bs])
          ⟨{ rr with
              rcvHdrLen := rr.rcvHdrLen + UInt32.ofNat bs.length, headerBuf := some (got ++ bs)
              rxState := state },
            some (Block.filled rr.expHdrLen.toNat (got ++ bs))⟩ := by
      intro state hst
      exact .holding (r := { rr with
          rcvHdrLen := rr.rcvHdrLen + UInt32.ofNat bs.length, headerBuf := some (got ++ bs)
          rxState := state }) (got ++ bs) hst rfl hlength hle' (by simp [hbytes]) (by simp [hsize])
    simp only [hput]
    by_cases hfull : rr.rcvHdrLen + UInt32.ofNat bs.length = rr.expHdrLen
    · rw [if_pos hfull]
      refine ⟨_, _, rfl, hall.snoc hright, ?_⟩
      exact hholding .hdrExtractPairs (.inr ⟨rfl, hfull⟩)
    · rw [if_neg hfull]
      refine ⟨_, _, rfl, hall.snoc hright, ?_⟩
      exact hholding .hdrAccumulate (.inl rfl)

/-- In HDR_EXTRACT_PAIRS a call reads the block, all of it, and frees it. -/
theorem extract_step (hall : AllRight h) {got : List UInt8}
    (hstate : rr.rxState = .hdrExtractPairs) (hfull : rr.rcvHdrLen = rr.expHdrLen)
    (hlen : got.length = rr.rcvHdrLen.toNat) (hbytes : received h = got)
    (hsize : capacity h = some rr.expHdrLen.toNat) (script : Script) :
    ∃ m' es, Mem.step ⟨rr, some (Block.filled rr.expHdrLen.toNat got)⟩ script = some (m', es) ∧
      AllRight (h ++ es) ∧ BufferRight rr₀ (h ++ es) m' := by
  have hexp : rr.expHdrLen.toNat = got.length := by rw [hlen, hfull]
  have hread : (Block.filled rr.expHdrLen.toNat got).read rr.rcvHdrLen.toNat = some got := by
    rw [← hlen, hexp]
    exact Block.read_filled got
  have hextract : EventRight h (.extract got) := by
    refine ⟨hbytes.symm, ?_⟩
    rw [hsize, hexp]
  have hfree : EventRight (h ++ [.extract got]) .free := by
    show (capacity (h ++ [.extract got])).isSome = true
    rw [capacity_snoc]
    show (capacity h).isSome = true
    rw [hsize]
    rfl
  unfold Mem.step HNSCGIRR.readRequestHeaders HNSCGIRR.extractHeaderPairsFromBuffer
  simp only [hstate, hread, Option.bind_some, Option.map_some]
  have hsplit : h ++ [.extract got, .free] = h ++ [.extract got] ++ [.free] := by simp
  refine ⟨_, _, rfl, ?_, ?_⟩
  · rw [hsplit]
    exact (hall.snoc hextract).snoc hfree
  · rw [hsplit]
    exact .released (.inl rfl) rfl (by rw [capacity_snoc])

/-- **Every call has a step**, and keeps the books. -/
theorem bufferRight_step {m : Mem} (hall : AllRight h) (hm : BufferRight rr₀ h m)
    (script : Script) :
    ∃ m' es, m.step script = some (m', es) ∧ AllRight (h ++ es) ∧
      BufferRight rr₀ (h ++ es) m' := by
  cases hm with
  | idle state unallocated =>
    unfold Mem.step HNSCGIRR.readRequestHeaders
    simp only [state]
    refine ⟨_, _, rfl, by rwa [List.append_nil], ?_⟩
    rw [List.append_nil]
    exact .length rfl rfl unallocated
  | length state rcv unallocated => exact length_step hall state rcv unallocated script
  | holding got state buf len le bytes size =>
    rcases state with state | ⟨state, full⟩
    · exact accumulate_step_mem hall state buf len le bytes size script
    · exact extract_step hall state full len bytes size script
  | @released rr state rcv unallocated =>
    rcases state with state | state
    · unfold Mem.step HNSCGIRR.readRequestHeaders HNSCGIRR.consumeNetStrComma
      simp only [state]
      obtain ⟨answer, script', hread, -, hanswer⟩ := read_byte script
      rw [hread]
      rcases hanswer with rfl | rfl | ⟨c, rfl, -⟩
      · refine ⟨_, _, rfl, by rwa [List.append_nil], ?_⟩
        exact .failed rfl (by rw [rcv, UInt32.le_iff_toNat_le]; exact Nat.zero_le _)
      · refine ⟨_, _, rfl, by rwa [List.append_nil], ?_⟩
        rw [List.append_nil]
        exact .released (.inl state) rcv unallocated
      · simp only
        by_cases hc : c = 44
        · rw [if_pos hc]
          refine ⟨_, _, rfl, by rwa [List.append_nil], ?_⟩
          rw [List.append_nil]
          exact .released (.inr rfl) rcv unallocated
        · rw [if_neg hc]
          refine ⟨_, _, rfl, by rwa [List.append_nil], ?_⟩
          exact .failed rfl (by rw [rcv, UInt32.le_iff_toNat_le]; exact Nat.zero_le _)
    · unfold Mem.step HNSCGIRR.readRequestHeaders
      simp only [state]
      refine ⟨_, _, rfl, by rwa [List.append_nil], ?_⟩
      rw [List.append_nil]
      exact .released (.inr state) rcv unallocated
  | @failed rr block state le =>
    unfold Mem.step HNSCGIRR.readRequestHeaders
    simp only [state]
    refine ⟨_, _, rfl, by rwa [List.append_nil], ?_⟩
    exact .failed state le

/-! ## §4. All calls. -/

/-- The books of a run. -/
theorem bufferRight_run {fd : Nat} {exp rcv : UInt32} {ts : List (Trans Mem Script MemEvent)}
    {m : Mem} (hr : Run headerMachine (freshMem fd exp rcv) ts m) :
    AllRight (history ts) ∧ BufferRight (freshMem fd exp rcv).rr (history ts) m := by
  refine Run.historyInvariant (C := fun _ _ => True)
    (P := fun h m => AllRight h ∧ BufferRight (freshMem fd exp rcv).rr h m)
    ⟨allRight_nil, .idle rfl rfl⟩ ?_ hr fun _ _ => trivial
  intro h u script v es ⟨hall, hright⟩ _ hstep
  obtain ⟨m', es', hstep', hall', hright'⟩ := bufferRight_step hall hright script
  obtain ⟨rfl, rfl⟩ := Prod.mk.inj (Option.some.inj (hstep.symm.trans hstep'))
  exact ⟨hall', hright'⟩

/-- The record after a step is the one the code leaves. -/
theorem step_rr {m m' : Mem} {script : Script} {es : List MemEvent}
    (h : m.step script = some (m', es)) :
    m'.rr = (m.rr.readRequestHeaders script).2.1 := by
  unfold Mem.step at h
  cases hstate : m.rr.rxState <;> simp only [hstate] at h
  case hdrNstrLen =>
    split at h
    all_goals
      obtain ⟨rfl, -⟩ := Prod.mk.inj (Option.some.inj h)
      rfl
  case hdrAccumulate =>
    obtain ⟨block, -, h⟩ := Option.bind_eq_some_iff.mp h
    obtain ⟨block', -, h⟩ := Option.map_eq_some_iff.mp h
    obtain ⟨rfl, -⟩ := Prod.mk.inj h
    rfl
  case hdrExtractPairs =>
    obtain ⟨block, -, h⟩ := Option.bind_eq_some_iff.mp h
    obtain ⟨bytes, -, h⟩ := Option.map_eq_some_iff.mp h
    obtain ⟨rfl, -⟩ := Prod.mk.inj h
    rfl
  all_goals
    obtain ⟨rfl, -⟩ := Prod.mk.inj (Option.some.inj h)
    rfl

/-- The loop of `recvData` is a run of such calls. -/
theorem loop_run {rr₀ : HNSCGIRR} :
    ∀ (fuel : Nat) (h : List MemEvent) (m : Mem) (script : Script), AllRight h →
      BufferRight rr₀ h m →
      ∃ ts m', Run headerMachine m ts m' ∧
        m'.rr = (m.rr.readHeadersLoop fuel script).2.1
  | 0, _, m, _, _, _ => ⟨[], m, Run.nil, rfl⟩
  | fuel + 1, h, m, script, hall, hright => by
      obtain ⟨m₁, es, hstep, hall₁, hright₁⟩ := bufferRight_step hall hright script
      have hrr := step_rr hstep
      rw [HNSCGIRR.readHeadersLoop]
      generalize m.rr.readRequestHeaders script = r at hrr ⊢
      obtain ⟨result, rr₁, script₁⟩ := r
      obtain rfl : m₁.rr = rr₁ := hrr
      cases result with
      | parseContinue =>
        obtain ⟨ts, m', hr, hm'⟩ := loop_run fuel _ m₁ script₁ hall₁ hright₁
        exact ⟨_, m', Run.cons hstep hr, hm'⟩
      | _ => exact ⟨_, m₁, Run.snoc Run.nil hstep, rfl⟩

/-- A call of `recvData` as well. -/
theorem recvData_run {rr₀ : HNSCGIRR} {h : List MemEvent} {m : Mem} (hall : AllRight h)
    (hright : BufferRight rr₀ h m) (script : Script) :
    ∃ ts m', Run headerMachine m ts m' ∧ m'.rr = (m.rr.recvData script).2.1 := by
  unfold HNSCGIRR.recvData
  split
  next => exact ⟨[], m, Run.nil, rfl⟩
  next =>
    obtain ⟨ts, m', hr, hm'⟩ := loop_run 5 h m script hall hright
    refine ⟨ts, m', hr, hm'.trans ?_⟩
    generalize m.rr.readHeadersLoop 5 script = r
    obtain ⟨result, rr', script'⟩ := r
    cases result <;> rfl

/-- No more is received than was declared, once a call was made. -/
theorem BufferRight.within {rr₀ : HNSCGIRR} {h : List MemEvent} {m : Mem}
    (hright : BufferRight rr₀ h m) : m.rr = rr₀ ∨ m.rr.rcvHdrLen ≤ m.rr.expHdrLen := by
  -- a counter that has been reset
  have hreset : m.rr.rcvHdrLen = 0 → m.rr.rcvHdrLen ≤ m.rr.expHdrLen := by
    intro hzero
    rw [hzero, UInt32.le_iff_toNat_le]
    exact Nat.zero_le _
  cases hright with
  | idle state unallocated => exact .inl rfl
  | length state rcv unallocated => exact .inr (hreset rcv)
  | holding got state buf len le bytes size => exact .inr le
  | released state rcv unallocated => exact .inr (hreset rcv)
  | failed state le => exact .inr le

/-- While the header is received, and until its pairs have been extracted, the
block is there and has the declared size. -/
theorem BufferRight.allocated {rr₀ : HNSCGIRR} {h : List MemEvent} {m : Mem}
    (hright : BufferRight rr₀ h m)
    (hstate : m.rr.rxState = .hdrAccumulate ∨ m.rr.rxState = .hdrExtractPairs) :
    ∃ block : Block UInt8, m.block = some block ∧ block.length = m.rr.expHdrLen.toNat := by
  cases hright with
  | idle state unallocated => rcases hstate with hstate | hstate <;> cases state.symm.trans hstate
  | length state rcv unallocated =>
    rcases hstate with hstate | hstate <;> cases state.symm.trans hstate
  | holding got state buf len le bytes size =>
    refine ⟨_, rfl, Block.length_filled ?_⟩
    rw [len]
    exact UInt32.le_iff_toNat_le.mp le
  | released state rcv unallocated =>
    rcases state with state | state <;> rcases hstate with hstate | hstate <;>
      cases state.symm.trans hstate
  | failed state le => rcases hstate with hstate | hstate <;> cases state.symm.trans hstate

/-- The pairs are extracted from as many bytes as declared, and from those received. -/
theorem BufferRight.extracts {rr₀ : HNSCGIRR} {h : List MemEvent} {m : Mem}
    (hright : BufferRight rr₀ h m) (hstate : m.rr.rxState = .hdrExtractPairs) (script : Script) :
    (received h).length = m.rr.expHdrLen.toNat ∧
      (m.rr.readRequestHeaders script).2.1.request =
        extractPairs m.rr.request (received h) := by
  cases hright with
  | idle state unallocated => cases state.symm.trans hstate
  | length state rcv unallocated => cases state.symm.trans hstate
  | @holding rr got state buf len le bytes size =>
    rcases state with state | ⟨-, full⟩
    · cases state.symm.trans hstate
    refine ⟨?_, ?_⟩
    · rw [bytes, len]
      exact congrArg UInt32.toNat full
    · have htake : (rr.headerBuf.getD []).take rr.rcvHdrLen.toNat = got := by
        rw [buf, Option.getD_some, ← len, List.take_length]
      rw [bytes]
      show (rr.readRequestHeaders script).2.1.request = extractPairs rr.request got
      have hstate' : rr.rxState = .hdrExtractPairs := hstate
      simp only [HNSCGIRR.readRequestHeaders, hstate',
        HNSCGIRR.extractHeaderPairsFromBuffer, htake]
  | released state rcv unallocated =>
    rcases state with state | state <;> cases state.symm.trans hstate
  | failed state le => cases state.symm.trans hstate

/-- **The header buffer is never overrun.**  In every run of calls on a new
record, whatever its counters hold and its reads are answered: the bytes received
are no more than those declared, from the first call on; while the block is held
it has the declared size; all accesses are right, and each further call makes
only such; the extraction is of as many bytes as declared, and of those received.
The calls of `recvData` are runs of these. -/
theorem header_buffer_safe (fd : Nat) (exp rcv : UInt32) :
    ∀ (ts : List (Trans Mem Script MemEvent)) (m : Mem),
      Run headerMachine (freshMem fd exp rcv) ts m →
      (m.rr = (freshMem fd exp rcv).rr ∨ m.rr.rcvHdrLen ≤ m.rr.expHdrLen) ∧
        (m.rr.rxState = .hdrAccumulate ∨ m.rr.rxState = .hdrExtractPairs →
          ∃ block : Block UInt8, m.block = some block ∧ block.length = m.rr.expHdrLen.toNat) ∧
        AllRight (history ts) ∧
        (∀ script, ∃ m' es, headerMachine.step m script = some (m', es) ∧
          m'.rr = (m.rr.readRequestHeaders script).2.1 ∧
          AllRight (history ts ++ es)) ∧
        (m.rr.rxState = .hdrExtractPairs → ∀ script : Script,
          (received (history ts)).length = m.rr.expHdrLen.toNat ∧
            (m.rr.readRequestHeaders script).2.1.request =
              extractPairs m.rr.request (received (history ts))) ∧
        ∀ script : Script, ∃ us m', Run headerMachine m us m' ∧
          m'.rr = (m.rr.recvData script).2.1 := by
  intro ts m hr
  obtain ⟨hall, hright⟩ := bufferRight_run hr
  refine ⟨hright.within, hright.allocated, hall, fun script => ?_,
    fun hstate script => hright.extracts hstate script,
    fun script => recvData_run hall hright script⟩
  obtain ⟨m', es, hstep, hall', -⟩ := bufferRight_step hall hright script
  exact ⟨m', es, hstep, step_rr hstep, hall'⟩

/-- The calls on a record whose counters hold anything; the header comes in
pieces, with waits. -/
def sampleScripts : List Script :=
  [[], [some (lit "8")], [some (lit ":")], [some (lit "A\x00B\x00")], [some []],
    [some (lit "C\x00D\x00,")], [], [some (lit ",")]].map fun answers => { answers, made := [] }

theorem header_buffer_sample :
    ∃ ts m, Run headerMachine (freshMem 7 3 5) ts m ∧
      history ts = [.malloc 8, .fill 0 8 (lit "A\x00B\x00"), .fill 4 4 [],
        .fill 4 4 (lit "C\x00D\x00"), .extract (lit "A\x00B\x00C\x00D\x00"), .free] ∧
      AllRight (history ts) := by
  obtain ⟨ts, m, hr, hp⟩ := Machine.exists_run_of_exec (M := headerMachine) (s := freshMem 7 3 5)
    (l := sampleScripts) (p := fun r => history r.1 = [.malloc 8, .fill 0 8 (lit "A\x00B\x00"),
      .fill 4 4 [], .fill 4 4 (lit "C\x00D\x00"), .extract (lit "A\x00B\x00C\x00D\x00"),
      .free]) (by decide +kernel)
  exact ⟨ts, m, hr, by simpa using hp, (header_buffer_safe 7 3 5 ts m hr).2.2.1⟩

end HNodeMgmt.Scgi
