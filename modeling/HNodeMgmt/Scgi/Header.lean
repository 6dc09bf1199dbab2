/-
  HNodeMgmt.Scgi.Header — the request header as a reader of single bytes.

  What the parser is for: it makes its way through a netstring one byte at a
  time and keeps, between calls, exactly what it has read so far.  That reader
  is stated here in its own terms, and every call of `recvData` is shown to be
  a reading of it: the record is the reader's state, written into the
  record's fields.

  Main results:
    * `read_cases` — what a `read` takes from the socket.
    * `recvData_outcome` — a call reads a front part of the waiting bytes; on
      a non-blocking socket it fails where a read finds nothing.
-/
import Mathlib.Tactic.Common
import HNodeMgmt.Lib.Reader
import HNodeMgmt.Scgi.Parser

namespace HNodeMgmt.Scgi

open Lib

/-! ## §1. The reader. -/

/-- What has been made of the bytes so far.  A block that is being gathered is
short of its length. -/
inductive HeaderState where
  | len (digits : Str)
  | block (exp : UInt32) (got : List UInt8) (short : got.length < exp.toNat)
  | comma (exp : UInt32) (request : HNSCGIMsg)
  | done (exp : UInt32) (request : HNSCGIMsg)
  | bad (exp : UInt32) (request : HNSCGIMsg)

namespace HeaderState

/-- The state with these bytes of the block: the pairs are taken as soon as it
is complete. -/
def gather (exp : UInt32) (got : List UInt8) : HeaderState :=
  if short : got.length < exp.toNat then .block exp got short
  else .comma exp (extractPairs HNSCGIMsg.new got)

def step : HeaderState → UInt8 → HeaderState
  | .len digits, c =>
    if c = 34 then .len digits
    else if c = 58 then gather (narrow32 (strtol digits)) []
    else .len (digits ++ [c])
  | .block exp got _, c => gather exp (got ++ [c])
  | .comma exp request, c =>
    if c = 44 then .done exp (request.setHeaderDone true) else .bad exp request
  | st, _ => st

/-- Nothing is read any more. -/
def final : HeaderState → Bool
  | .done _ _ => true
  | .bad _ _ => true
  | _ => false

/-- A state in which the parser reads again before it returns. -/
def starved : HeaderState → Bool
  | .len _ => true
  | .block _ got _ => got.isEmpty
  | .comma _ _ => true
  | .done _ _ => false
  | .bad _ _ => false

/-- The record that holds the state. -/
def record (fd : Nat) : HeaderState → HNSCGIRR
  | .len digits => { HNSCGIRR.new fd with rxState := .hdrNstrLen, partialStr := digits }
  | .block exp got _ =>
    { HNSCGIRR.new fd with
      rxState := .hdrAccumulate, expHdrLen := exp, rcvHdrLen := UInt32.ofNat got.length
      headerBuf := some got }
  | .comma exp request =>
    { HNSCGIRR.new fd with rxState := .hdrNstrComma, expHdrLen := exp, request }
  | .done exp request =>
    { HNSCGIRR.new fd with rxState := .hdrDone, expHdrLen := exp, request }
  | .bad exp request =>
    { HNSCGIRR.new fd with rxState := .error, expHdrLen := exp, request }

theorem gather_short {exp : UInt32} {got : List UInt8} (h : got.length < exp.toNat) :
    gather exp got = .block exp got h := dif_pos h

theorem gather_full {exp : UInt32} {got : List UInt8} (h : ¬ got.length < exp.toNat) :
    gather exp got = .comma exp (extractPairs HNSCGIMsg.new got) := dif_neg h

theorem gather_not_final (exp : UInt32) (got : List UInt8) : (gather exp got).final = false := by
  unfold gather
  split <;> rfl

/-- Behind the block one byte decides. -/
theorem step_comma_final (exp : UInt32) (request : HNSCGIMsg) (c : UInt8) :
    (HeaderState.step (.comma exp request) c).final = true := by
  show (if c = 44 then HeaderState.done exp (request.setHeaderDone true)
    else .bad exp request).final = true
  split <;> rfl

end HeaderState

open HeaderState

/-- The reader of a request header. -/
def headerReader : Reader HeaderState UInt8 :=
  { step := HeaderState.step, final := HeaderState.final }

/-- Bytes that do not go beyond the block are gathered. -/
theorem reads_gather {exp : UInt32} :
    ∀ (bs : List UInt8) (got rest : List UInt8), got.length + bs.length ≤ exp.toNat →
      Reads headerReader (gather exp got) (bs ++ rest) (gather exp (got ++ bs)) rest
  | [], got, rest, _ => by
      rw [List.append_nil]
      exact Reads.refl
  | b :: bs, got, rest, h => by
      have hshort : got.length < exp.toNat := by
        rw [List.length_cons] at h
        omega
      have hle : (got ++ [b]).length + bs.length ≤ exp.toNat := by
        simp only [List.length_append, List.length_cons, List.length_nil] at h ⊢
        omega
      have ih := reads_gather bs (got ++ [b]) rest hle
      rw [gather_short hshort]
      refine Reads.step rfl ?_
      show Reads headerReader (gather exp (got ++ [b])) (bs ++ rest) _ rest
      rw [show got ++ b :: bs = got ++ [b] ++ bs from List.append_cons got b bs]
      exact ih

/-! ## §2. What a `read` takes. -/

variable {fd : Nat} {sock sock' sock₁ : Socket} {st st₁ : HeaderState}
  {σ : Type} [ReadEnd σ] {src src' : σ}

/-- The socket some reads later. -/
structure Socket.Follows (sock' sock : Socket) : Prop where
  pieces : sock'.pieces.length ≤ sock.pieces.length
  nonblocking : sock'.nonblocking = sock.nonblocking

/-- Everything is read, or a piece is used up. -/
def Socket.Drained (sock' sock : Socket) : Prop :=
  sock'.bytes = [] ∨ sock'.pieces.length < sock.pieces.length

theorem Socket.Follows.refl (sock : Socket) : sock.Follows sock := ⟨le_refl _, rfl⟩

theorem Socket.Follows.trans (h₁ : sock'.Follows sock₁) (h₂ : sock₁.Follows sock) :
    sock'.Follows sock :=
  ⟨h₁.pieces.trans h₂.pieces, h₁.nonblocking.trans h₂.nonblocking⟩

theorem Socket.Drained.of_follows (h₁ : sock'.Drained sock₁) (h₂ : sock₁.Follows sock) :
    sock'.Drained sock :=
  h₁.imp id fun hlt => lt_of_lt_of_le hlt h₂.pieces

/-- **What a `read` takes**: at least one byte and a front part of what waits,
or nothing.  Where it takes fewer bytes than asked for, a piece is used up. -/
theorem read_cases (sock : Socket) {count : Nat} (hcount : count ≠ 0) :
    (∃ bs sock', sock.read count = (some bs, sock') ∧ bs ≠ [] ∧ bs.length ≤ count ∧
      sock.bytes = bs ++ sock'.bytes ∧ sock'.Follows sock ∧
      (bs.length < count → sock'.Drained sock)) ∨
    (∃ sock', sock.read count = (sock.dry, sock') ∧ sock'.bytes = sock.bytes ∧
      sock'.Follows sock ∧ sock'.Drained sock) := by
  obtain ⟨pieces, nonblocking⟩ := sock
  cases pieces with
  | nil =>
    right
    exact ⟨⟨[], nonblocking⟩, by simp [Socket.read, hcount], rfl, Socket.Follows.refl _, .inl rfl⟩
  | cons piece rest =>
    cases piece with
    | nil =>
      right
      exact ⟨⟨rest, nonblocking⟩, by simp [Socket.read, hcount], by simp [Socket.bytes],
        ⟨by simp, rfl⟩, .inr (by simp)⟩
    | cons b bs =>
      left
      by_cases hshort : bs.length < count
      · -- the whole piece
        refine ⟨b :: bs, ⟨rest, nonblocking⟩, ?_, by simp, by simpa using hshort,
          by simp [Socket.bytes], ⟨by simp, rfl⟩, fun _ => .inr (by simp)⟩
        have htake : (b :: bs).take count = b :: bs :=
          List.take_of_length_le (by simpa using hshort)
        simp only [Socket.read, hcount, htake, hshort, if_true, if_false]
      · have hlen : ((b :: bs).take count).length = count := by
          rw [List.length_take, List.length_cons]
          omega
        refine ⟨(b :: bs).take count, ⟨(b :: bs).drop count :: rest, nonblocking⟩,
          by simp [Socket.read, hcount, hshort], ?_, le_of_eq hlen, ?_, ⟨by simp, rfl⟩, ?_⟩
        · intro hnil
          rw [hnil] at hlen
          exact hcount hlen.symm
        · simp [Socket.bytes, ← List.append_assoc]
        · intro hlt
          omega

/-! ## §3. One call of the parser. -/

/-- What a run of the state loop comes to. -/
inductive Outcome (fd : Nat) (sock : Socket) (st : HeaderState) :
    HNSSResult × HNSCGIRR × Socket → Prop
  /-- It waits for more; on a non-blocking socket the last read took bytes. -/
  | waiting {st' : HeaderState} {sock' : Socket}
      (reads : Reads headerReader st sock.bytes st' sock'.bytes) (follows : sock'.Follows sock)
      (drained : sock'.Drained sock) (notFinal : st'.final = false)
      (fed : sock.nonblocking = true → st'.starved = false) :
      Outcome fd sock st (.success, st'.record fd, sock')
  | ready {exp : UInt32} {request : HNSCGIMsg} {sock' : Socket}
      (reads : Reads headerReader st sock.bytes (.done exp request) sock'.bytes)
      (follows : sock'.Follows sock) :
      Outcome fd sock st (.requestReady, (HeaderState.done exp request).record fd, sock')
  | bad {exp : UInt32} {request : HNSCGIMsg} {sock' : Socket}
      (reads : Reads headerReader st sock.bytes (.bad exp request) sock'.bytes)
      (follows : sock'.Follows sock) :
      Outcome fd sock st (.parseErr, (HeaderState.bad exp request).record fd, sock')
  /-- A read was answered by -1. -/
  | wouldBlock {st' : HeaderState} {rr : HNSCGIRR} {sock' : Socket}
      (reads : Reads headerReader st sock.bytes st' sock'.bytes) (follows : sock'.Follows sock)
      (drained : sock'.Drained sock) (nonblocking : sock.nonblocking = true)
      (notFinal : st'.final = false) (error : rr.rxState = .error)
      (empty : st'.starved = true ∨ st' = st ∧ sock'.bytes = sock.bytes) :
      Outcome fd sock st (.parseErr, rr, sock')

theorem loop_continue {fuel : Nat} {rr rr' : HNSCGIRR}
    (h : rr.readRequestHeaders src = (.parseContinue, rr', src')) :
    rr.readHeadersLoop (fuel + 1) src = rr'.readHeadersLoop fuel src' := by
  rw [HNSCGIRR.readHeadersLoop, h]

theorem loop_stop {fuel : Nat} {rr rr' : HNSCGIRR} {result : HNSSResult}
    (h : rr.readRequestHeaders src = (result, rr', src')) (hne : result ≠ .parseContinue) :
    rr.readHeadersLoop (fuel + 1) src = (result, rr', src') := by
  rw [HNSCGIRR.readHeadersLoop, h]
  cases result with
  | parseContinue => exact absurd rfl hne
  | _ => rfl

/-- What is read in front of a run belongs to it. -/
theorem Outcome.prepend {r : HNSSResult × HNSCGIRR × Socket}
    (hreads : Reads headerReader st sock.bytes st₁ sock₁.bytes) (hfollows : sock₁.Follows sock)
    (hstarved : st₁.starved = true) (h : Outcome fd sock₁ st₁ r) : Outcome fd sock st r := by
  cases h with
  | waiting reads follows drained notFinal fed =>
    exact .waiting (hreads.trans reads) (follows.trans hfollows) (drained.of_follows hfollows)
      notFinal (hfollows.nonblocking ▸ fed)
  | ready reads follows => exact .ready (hreads.trans reads) (follows.trans hfollows)
  | bad reads follows => exact .bad (hreads.trans reads) (follows.trans hfollows)
  | wouldBlock reads follows drained nonblocking notFinal error empty =>
    refine .wouldBlock (hreads.trans reads) (follows.trans hfollows)
      (drained.of_follows hfollows) (hfollows.nonblocking ▸ nonblocking) notFinal error (.inl ?_)
    -- what found nothing was about to read
    rcases empty with hst | ⟨rfl, -⟩
    · exact hst
    · exact hstarved

/-- At the comma. -/
theorem comma_outcome (fuel : Nat) (exp : UInt32) (request : HNSCGIMsg) (sock : Socket) :
    Outcome fd sock (.comma exp request)
      (((HeaderState.comma exp request).record fd).readHeadersLoop (fuel + 1) sock) := by
  rcases read_cases sock one_ne_zero with
    ⟨bs, sock', hread, hne, hle, hbytes, hfollows, -⟩ | ⟨sock', hread, hbytes, hfollows, hdrained⟩
  · obtain ⟨c, rfl⟩ : ∃ c, bs = [c] := by
      cases bs with
      | nil => exact absurd rfl hne
      | cons c cs =>
        obtain rfl : cs = [] := by simpa using hle
        exact ⟨c, rfl⟩
    have hreads : Reads headerReader (.comma exp request) sock.bytes
        (HeaderState.step (.comma exp request) c) sock'.bytes := by
      rw [hbytes]
      exact Reads.single rfl
    by_cases hc : c = 44
    · subst hc
      have h : Outcome fd sock (.comma exp request) _ :=
        .ready (by simpa [HeaderState.step] using hreads) hfollows
      simpa [HNSCGIRR.readHeadersLoop, HNSCGIRR.readRequestHeaders, HNSCGIRR.consumeNetStrComma,
        hread, HeaderState.record, HNSCGIRR.new] using h
    · have h : Outcome fd sock (.comma exp request) _ :=
        .bad (by simpa [HeaderState.step, hc] using hreads) hfollows
      simpa [HNSCGIRR.readHeadersLoop, HNSCGIRR.readRequestHeaders, HNSCGIRR.consumeNetStrComma,
        hread, hc, HeaderState.record, HNSCGIRR.new] using h
  · have hreads : Reads headerReader (.comma exp request) sock.bytes (.comma exp request)
        sock'.bytes := by
      rw [hbytes]
      exact Reads.refl
    cases hnb : sock.nonblocking with
    | true =>
      have hdry : sock.dry = none := by simp [Socket.dry, hnb]
      simp only [HNSCGIRR.readHeadersLoop, HNSCGIRR.readRequestHeaders,
        HNSCGIRR.consumeNetStrComma, Socket.readEnd_read, hread, hdry, HeaderState.record]
      exact .wouldBlock hreads hfollows hdrained hnb rfl rfl (.inl rfl)
    | false =>
      have hdry : sock.dry = some [] := by simp [Socket.dry, hnb]
      simp only [HNSCGIRR.readHeadersLoop, HNSCGIRR.readRequestHeaders,
        HNSCGIRR.consumeNetStrComma, Socket.readEnd_read, hread, hdry, HeaderState.record]
      exact .waiting hreads hfollows hdrained rfl (by simp [hnb])

/-- The record while the block is gathered, or when it is complete. -/
def filling (fd : Nat) (exp : UInt32) (got : List UInt8) : HNSCGIRR :=
  { HNSCGIRR.new fd with
    rxState := .hdrAccumulate, expHdrLen := exp, rcvHdrLen := UInt32.ofNat got.length
    headerBuf := some got }

theorem record_gather (fd : Nat) {exp : UInt32} {got : List UInt8} (h : got.length < exp.toNat) :
    (gather exp got).record fd = filling fd exp got := by
  rw [gather_short h]
  rfl

theorem filling_toNat {exp : UInt32} {got : List UInt8} (h : got.length ≤ exp.toNat) :
    (UInt32.ofNat got.length).toNat = got.length := by
  rw [UInt32.toNat_ofNat']
  exact Nat.mod_eq_of_lt (lt_of_le_of_lt h exp.toNat_lt)

theorem bytesLeft_filling {exp : UInt32} {got : List UInt8} (h : got.length ≤ exp.toNat) :
    ((filling fd exp got).expHdrLen - (filling fd exp got).rcvHdrLen).toNat =
      exp.toNat - got.length := by
  have hle : UInt32.ofNat got.length ≤ exp := by
    rw [UInt32.le_iff_toNat_le, filling_toNat h]
    exact h
  show (exp - UInt32.ofNat got.length).toNat = _
  rw [UInt32.toNat_sub_of_le _ _ hle, filling_toNat h]

/-- What a read of the block leaves: the bytes behind those gathered. -/
theorem fill_of_read (fd : Nat) {exp : UInt32} {got bs : List UInt8} (h : got.length ≤ exp.toNat)
    (hread : ReadEnd.read src (exp.toNat - got.length) = (some bs, src')) :
    (filling fd exp got).fillRequestHeaderBuffer src =
      (if UInt32.ofNat (got ++ bs).length = exp then .parseComplete else .parseWait,
        filling fd exp (got ++ bs), src') := by
  have hwrite : writeAt got got.length bs = got ++ bs := by
    simp [writeAt]
  have hsum : UInt32.ofNat got.length + UInt32.ofNat bs.length =
      UInt32.ofNat (got ++ bs).length := by
    rw [List.length_append, UInt32.ofNat_add]
  simp only [HNSCGIRR.fillRequestHeaderBuffer]
  rw [bytesLeft_filling h, hread]
  simp only [filling, hsum, filling_toNat h, Option.map_some, hwrite]

/-- A complete block becomes the pairs of the request. -/
theorem block_extracted (fd : Nat) {exp : UInt32} {got : List UInt8}
    (hfull : got.length = exp.toNat) (src : σ) :
    ({ filling fd exp got with rxState := .hdrExtractPairs }).readRequestHeaders src =
      (.parseContinue, (gather exp got).record fd, src) := by
  have hgather : gather exp got = .comma exp (extractPairs HNSCGIMsg.new got) :=
    gather_full (by omega)
  have htake : got.take (UInt32.ofNat got.length).toNat = got := by
    rw [filling_toNat (le_of_eq hfull)]
    exact List.take_length
  simp only [HNSCGIRR.readRequestHeaders, HNSCGIRR.extractHeaderPairsFromBuffer, filling,
    Option.getD_some, htake, hgather, HeaderState.record, HNSCGIRR.new]

theorem extract_outcome (fuel : Nat) {exp : UInt32} {got : List UInt8}
    (hfull : got.length = exp.toNat) (sock : Socket) :
    Outcome fd sock (gather exp got)
      (({ filling fd exp got with rxState := .hdrExtractPairs }).readHeadersLoop
        (fuel + 2) sock) := by
  rw [loop_continue (block_extracted fd hfull sock), gather_full (by omega)]
  exact comma_outcome fuel exp _ sock

theorem accumulate_step {rr rr' : HNSCGIRR} {result : HNSSResult}
    (hstate : rr.rxState = .hdrAccumulate)
    (hfill : rr.fillRequestHeaderBuffer src = (result, rr', src')) :
    rr.readRequestHeaders src =
      match result with
      | .parseComplete => (.parseContinue, { rr' with rxState := .hdrExtractPairs }, src')
      | .parseErr => (.parseErr, { rr' with rxState := .error }, src')
      | _ => (.success, rr', src') := by
  simp only [HNSCGIRR.readRequestHeaders, hstate, hfill]
  cases result <;> rfl

/-- Gathering the block. -/
theorem fill_outcome (fuel : Nat) (exp : UInt32) {got : List UInt8}
    (hle : got.length ≤ exp.toNat) (sock : Socket) :
    Outcome fd sock (gather exp got)
      ((filling fd exp got).readHeadersLoop (fuel + 3) sock) := by
  -- a block that is complete is extracted in the same call
  have hcomplete : ∀ (bs : List UInt8) (sock' : Socket),
      sock.read (exp.toNat - got.length) = (some bs, sock') →
      (got ++ bs).length = exp.toNat →
      (filling fd exp got).readHeadersLoop (fuel + 3) sock =
        ({ filling fd exp (got ++ bs) with rxState := .hdrExtractPairs }).readHeadersLoop
          (fuel + 2) sock' := by
    intro bs sock' hread hfull
    have hnum : UInt32.ofNat (got ++ bs).length = exp := by rw [hfull, UInt32.ofNat_toNat]
    have hfill := fill_of_read (σ := Socket) fd hle hread
    rw [if_pos hnum] at hfill
    exact loop_continue (accumulate_step rfl hfill)
  by_cases hfull : got.length = exp.toNat
  · -- an empty block: nothing is asked for
    have hread : sock.read (exp.toNat - got.length) = (some [], sock) := by
      simp [Socket.read, hfull]
    rw [hcomplete [] sock hread (by simpa using hfull), List.append_nil]
    exact extract_outcome fuel hfull sock
  have hshort : got.length < exp.toNat := by omega
  have hrecord := record_gather fd hshort
  -- otherwise the call ends with this read
  have hwait : ∀ (bs : List UInt8) (sock' : Socket),
      sock.read (exp.toNat - got.length) = (some bs, sock') →
      (got ++ bs).length < exp.toNat →
      (filling fd exp got).readHeadersLoop (fuel + 3) sock =
        (.success, filling fd exp (got ++ bs), sock') := by
    intro bs sock' hread hlt
    have hnum : ¬ UInt32.ofNat (got ++ bs).length = exp := by
      intro heq
      have htoNat := filling_toNat (le_of_lt hlt)
      rw [heq] at htoNat
      omega
    have hfill := fill_of_read (σ := Socket) fd hle hread
    rw [if_neg hnum] at hfill
    exact loop_stop (accumulate_step rfl hfill) nofun
  have hcount : exp.toNat - got.length ≠ 0 := by omega
  rcases read_cases sock hcount with
    ⟨bs, sock', hread, hne, hlen, hbytes, hfollows, hdrained⟩ |
    ⟨sock', hread, hbytes, hfollows, hdrained⟩
  · have hreads : Reads headerReader (gather exp got) sock.bytes (gather exp (got ++ bs))
        sock'.bytes := by
      rw [hbytes]
      exact reads_gather bs got sock'.bytes (by omega)
    by_cases hall : (got ++ bs).length = exp.toNat
    · rw [hcomplete bs sock' hread hall]
      have hcomma : (gather exp (got ++ bs)).starved = true := by
        rw [gather_full (by omega)]
        rfl
      exact (extract_outcome fuel hall sock').prepend hreads hfollows hcomma
    · have hlt : (got ++ bs).length < exp.toNat := by
        rw [List.length_append] at hall ⊢
        omega
      rw [hwait bs sock' hread hlt, ← record_gather fd hlt]
      refine .waiting hreads hfollows (hdrained ?_) (gather_not_final _ _) fun _ => ?_
      · rw [List.length_append] at hlt
        omega
      · rw [gather_short hlt]
        simp [HeaderState.starved, hne]
  · have hreads : Reads headerReader (gather exp got) sock.bytes (gather exp got) sock'.bytes := by
      rw [hbytes]
      exact Reads.refl
    cases hnb : sock.nonblocking with
    | true =>
      have hdry : sock.dry = none := by simp [Socket.dry, hnb]
      rw [hdry] at hread
      have hfill : (filling fd exp got).fillRequestHeaderBuffer sock =
          (.parseErr, filling fd exp got, sock') := by
        simp only [HNSCGIRR.fillRequestHeaderBuffer]
        rw [bytesLeft_filling hle, Socket.readEnd_read, hread]
      rw [loop_stop (accumulate_step rfl hfill) nofun]
      exact .wouldBlock hreads hfollows hdrained hnb (gather_not_final _ _) rfl (.inr ⟨rfl, hbytes⟩)
    | false =>
      have hdry : sock.dry = some [] := by simp [Socket.dry, hnb]
      rw [hdry] at hread
      rw [hwait [] sock' hread (by simpa using hshort), List.append_nil, ← hrecord]
      exact .waiting hreads hfollows hdrained (gather_not_final _ _) (by simp [hnb])

/-- The characters of the length.  The induction is on the fuel, of which a
byte that waits takes one. -/
theorem len_outcome (fd fuel : Nat) :
    ∀ (n : Nat) (digits : Str) (sock : Socket), sock.bytes.length < n →
      Outcome fd sock (.len digits)
        (match HNSCGIRR.readNetStrLoop n ((HeaderState.len digits).record fd) sock with
        | (.parseComplete, rr, sock) =>
          ({ rr with
            headerBuf := some [], rcvHdrLen := 0, rxState := .hdrAccumulate }).readHeadersLoop
              (fuel + 3) sock
        | (.parseErr, rr, sock) => (.parseErr, { rr with rxState := .error }, sock)
        | (_, rr, sock) => (.success, rr, sock))
  | 0, _, _, h => absurd h (Nat.not_lt_zero _)
  | n + 1, digits, sock, h => by
      rcases read_cases sock one_ne_zero with
        ⟨bs, sock', hread, hne, hle, hbytes, hfollows, -⟩ |
        ⟨sock', hread, hbytes, hfollows, hdrained⟩
      · obtain ⟨c, rfl⟩ : ∃ c, bs = [c] := by
          cases bs with
          | nil => exact absurd rfl hne
          | cons c cs =>
            obtain rfl : cs = [] := by simpa using hle
            exact ⟨c, rfl⟩
        have hlt : sock'.bytes.length < n := by
          rw [hbytes, List.length_append, List.length_singleton] at h
          omega
        have hreads : Reads headerReader (.len digits) sock.bytes
            (HeaderState.step (.len digits) c) sock'.bytes := by
          rw [hbytes]
          exact Reads.single rfl
        rw [HNSCGIRR.readNetStrLoop, Socket.readEnd_read, hread]
        simp only
        -- a quote is skipped, the colon goes on to the block, any other character is kept
        by_cases hquote : c = 34
        · rw [if_pos hquote]
          rw [HeaderState.step, if_pos hquote] at hreads
          exact (len_outcome fd fuel n digits sock' hlt).prepend hreads hfollows rfl
        by_cases hcolon : c = 58
        · rw [if_neg hquote, if_pos hcolon]
          rw [HeaderState.step, if_neg hquote, if_pos hcolon] at hreads
          refine Outcome.prepend hreads hfollows ?_
            (fill_outcome fuel (narrow32 (strtol digits)) (Nat.zero_le _) sock')
          unfold gather
          split <;> rfl
        · rw [if_neg hquote, if_neg hcolon]
          rw [HeaderState.step, if_neg hquote, if_neg hcolon] at hreads
          exact (len_outcome fd fuel n (digits ++ [c]) sock' hlt).prepend hreads hfollows rfl
      · have hreads : Reads headerReader (.len digits) sock.bytes (.len digits) sock'.bytes := by
          rw [hbytes]
          exact Reads.refl
        -- nothing left: read() is -1 on a non-blocking socket, which the code takes for an error
        cases hnb : sock.nonblocking with
        | true =>
          have hdry : sock.dry = none := by simp [Socket.dry, hnb]
          rw [HNSCGIRR.readNetStrLoop, Socket.readEnd_read, hread, hdry]
          exact .wouldBlock hreads hfollows hdrained hnb rfl rfl (.inl rfl)
        | false =>
          have hdry : sock.dry = some [] := by simp [Socket.dry, hnb]
          rw [HNSCGIRR.readNetStrLoop, Socket.readEnd_read, hread, hdry]
          exact .waiting hreads hfollows hdrained rfl (by simp [hnb])

/-- The loop over the states, from any of them in which it reads. -/
theorem loop_outcome (fuel : Nat) (st : HeaderState) (hst : st.final = false) (sock : Socket) :
    Outcome fd sock st ((st.record fd).readHeadersLoop (fuel + 4) sock) := by
  cases st with
  | len digits =>
    have h := len_outcome fd fuel (sock.bytes.length + 1) digits sock (Nat.lt_succ_self _)
    have hfirst : ((HeaderState.len digits).record fd).rxState = .hdrNstrLen := rfl
    have hpatience : ReadEnd.patience sock = sock.bytes.length + 1 := rfl
    simp only [HNSCGIRR.readHeadersLoop, HNSCGIRR.readRequestHeaders, hfirst,
      HNSCGIRR.readNetStrStart, hpatience]
    generalize HNSCGIRR.readNetStrLoop (sock.bytes.length + 1)
      ((HeaderState.len digits).record fd) sock = r at h ⊢
    obtain ⟨result, rr, sock'⟩ := r
    cases result <;> exact h
  | block exp got short =>
    rw [← gather_short short, record_gather fd short]
    exact fill_outcome (fuel + 1) exp (le_of_lt short) sock
  | comma exp request => exact comma_outcome (fuel + 3) exp request sock
  | done exp request => cases hst
  | bad exp request => cases hst

/-! ## §4. The record as the reader's state. -/

/-- The record holds a state of the reader; one that is fresh has read
nothing. -/
def Holds (fd : Nat) (rr : HNSCGIRR) (st : HeaderState) : Prop :=
  rr = st.record fd ∨ rr = HNSCGIRR.new fd ∧ st = .len []

variable {rr : HNSCGIRR}

/-- The value `recvData` makes of the loop's. -/
def recvResult : HNSSResult → HNSSResult
  | .parseErr => .failure
  | .parseWait => .requestReady
  | .requestReady => .requestReady
  | _ => .success

theorem recvData_eq (hne : rr.rxState ≠ .hdrDone) (src : σ) :
    rr.recvData src =
      (recvResult (rr.readHeadersLoop 5 src).1, (rr.readHeadersLoop 5 src).2) := by
  unfold HNSCGIRR.recvData
  rw [if_neg hne]
  generalize rr.readHeadersLoop 5 src = r
  obtain ⟨result, rr', src'⟩ := r
  cases result <;> rfl

/-- **A call of `recvData` is a reading.** -/
theorem recvData_outcome (hholds : Holds fd rr st) (hst : st.final = false) (sock : Socket) :
    ∃ r, Outcome fd sock st r ∧ rr.recvData sock = (recvResult r.1, r.2) := by
  rcases hholds with rfl | ⟨rfl, rfl⟩
  · refine ⟨_, loop_outcome 1 st hst sock, recvData_eq ?_ sock⟩
    cases st with
    | done exp request => cases hst
    | _ => nofun
  · refine ⟨_, loop_outcome 0 (.len []) rfl sock, ?_⟩
    rw [recvData_eq (by nofun) sock]
    rfl

/-- A record that is done, or in error, reads nothing. -/
theorem recvData_stays (h : rr.rxState = .hdrDone ∨ rr.rxState = .error) (src : σ) :
    rr.recvData src = (.success, rr, src) := by
  rcases h with h | h
  · rw [HNSCGIRR.recvData, if_pos h]
  · have hloop : rr.readHeadersLoop 5 src = (.success, rr, src) := by
      refine loop_stop ?_ fun heq => by cases heq
      simp [HNSCGIRR.readRequestHeaders, h]
    rw [recvData_eq (by simp [h]), hloop]
    rfl

theorem final_rxState (fd : Nat) {st : HeaderState} (h : st.final = true) :
    (st.record fd).rxState = .hdrDone ∨ (st.record fd).rxState = .error := by
  cases st with
  | done exp request => exact .inl rfl
  | bad exp request => exact .inr rfl
  | _ => cases h

theorem rxState_final {st : HeaderState}
    (h : (st.record fd).rxState = .hdrDone ∨ (st.record fd).rxState = .error) :
    st.final = true := by
  cases st <;> first | rfl | simp [HeaderState.record] at h

/-! ## §5. Netstrings. -/

/-- A header block as a client sends it. -/
def netstring (block : List UInt8) : List UInt8 :=
  decimal block.length ++ 58 :: (block ++ [44])

/-- The length the parser takes a printed one for. -/
def parsedLen (n : Nat) : UInt32 := narrow32 (strtol (decimal n))

theorem parsedLen_toNat {n : Nat} (h : n < 2 ^ 32) : (parsedLen n).toNat = n := by
  have hlong : n < 2 ^ 63 := lt_of_lt_of_le h (by decide)
  rw [parsedLen, strtol_decimal hlong]
  exact narrow32_toNat h

/-- Characters other than a quote and a colon are kept. -/
theorem reads_digits :
    ∀ (ds digits rest : List UInt8), (∀ c ∈ ds, c ≠ 34 ∧ c ≠ 58) →
      Reads headerReader (.len digits) (ds ++ rest) (.len (digits ++ ds)) rest
  | [], digits, rest, _ => by
      rw [List.append_nil]
      exact Reads.refl
  | d :: ds, digits, rest, h => by
      obtain ⟨hquote, hcolon⟩ := h d (by simp)
      have ih := reads_digits ds (digits ++ [d]) rest fun c hc => h c (by simp [hc])
      refine Reads.step rfl ?_
      show Reads headerReader (HeaderState.step (.len digits) d) (ds ++ rest) _ rest
      rw [HeaderState.step, if_neg hquote, if_neg hcolon,
        show digits ++ d :: ds = digits ++ [d] ++ ds from List.append_cons digits d ds]
      exact ih

theorem decimal_plain {n : Nat} {c : UInt8} (hc : c ∈ decimal n) : c ≠ 34 ∧ c ≠ 58 := by
  obtain ⟨hlow, hhigh⟩ := decimal_digit hc
  constructor <;> (rintro rfl; revert hlow hhigh; decide)

/-- The length and the colon. -/
theorem reads_length (n : Nat) (rest : List UInt8) :
    Reads headerReader (.len []) (decimal n ++ 58 :: rest) (gather (parsedLen n) []) rest :=
  (reads_digits (decimal n) [] (58 :: rest) fun _ hc => decimal_plain hc).trans (Reads.single rfl)

/-- The length, the colon and a part of the block. -/
theorem reads_block (n : Nat) {got : List UInt8} (rest : List UInt8)
    (h : got.length ≤ (parsedLen n).toNat) :
    Reads headerReader (.len []) (decimal n ++ 58 :: (got ++ rest))
      (gather (parsedLen n) got) rest :=
  (reads_length n (got ++ rest)).trans (reads_gather got [] rest (by simpa using h))

/-- The request a netstring is read to. -/
def parsedRequest (block : List UInt8) : HNSCGIMsg :=
  (extractPairs HNSCGIMsg.new block).setHeaderDone true

/-- **A netstring is read to its end**, when its length fits the counter. -/
theorem reads_netstring {block : List UInt8} (h : block.length < 2 ^ 32) :
    Reads headerReader (.len []) (netstring block)
      (.done (parsedLen block.length) (parsedRequest block)) [] := by
  have hlen := parsedLen_toNat h
  have hblock := reads_block block.length [44] (le_of_eq hlen.symm)
  rw [gather_full (by omega)] at hblock
  exact hblock.trans (Reads.single rfl)

end HNodeMgmt.Scgi
