/-
  HNodeMgmt.Scgi.Parser — `HNSCGIRR` as the reader of a request header.

  A request begins with a netstring: a length, a colon, that many bytes of
  header pairs, a comma.  The record reads it from a non-blocking socket in
  six states.  Three places call `read`, and each of them sorts the result on
  its own: a negative one is an error, zero means wait.

  The parser takes what answers its reads as a parameter.  A socket is what
  `read` can return in a schedule: the bytes that wait, in the pieces the reads
  will find them in.
-/
import Mathlib.Tactic.Common
import HNodeMgmt.Lib.Streams
import HNodeMgmt.Scgi.Msg

namespace HNodeMgmt.Scgi

open Lib

/-! ## §1. `read`. -/

/-- What answers the calls of `read( fd, buf, count )`; -1 is `none`.  The patience
bounds the characters that can be read in one go. -/
class ReadEnd (σ : Type) where
  read : σ → Nat → Option (List UInt8) × σ
  patience : σ → Nat

/-- What is behind a descriptor.  A read never goes beyond a piece: a piece is
what has arrived by then, or as much of it as the kernel hands out.  An empty
piece is a read that finds nothing although something arrives later. -/
structure Socket where
  pieces : List (List UInt8)
  /-- Whether a read that finds nothing is answered by -1 (EAGAIN) or by 0. -/
  nonblocking : Bool
  deriving DecidableEq, Repr

namespace Socket

/-- The bytes nobody has read yet. -/
def bytes (sock : Socket) : List UInt8 := sock.pieces.flatten

/-- The answer to a read that finds nothing; `none` is -1. -/
def dry (sock : Socket) : Option (List UInt8) := if sock.nonblocking then none else some []

/-- A read of so many bytes. -/
def read (sock : Socket) (count : Nat) : Option (List UInt8) × Socket :=
  if count = 0 then (some [], sock)
  else
    match sock.pieces with
    | [] => (sock.dry, sock)
    | [] :: rest => (sock.dry, { sock with pieces := rest })
    | (b :: bs) :: rest =>
      (some ((b :: bs).take count),
        { sock with
          pieces := if bs.length < count then rest else (b :: bs).drop count :: rest })

instance : ReadEnd Socket := { read := Socket.read, patience := fun sock => sock.bytes.length + 1 }

@[simp] theorem readEnd_read (sock : Socket) (count : Nat) :
    ReadEnd.read sock count = sock.read count := rfl

end Socket

/-! ## §2. The record. -/

/-- `HNSS_RESULT_T`, the values the parser and the transfers return. -/
inductive HNSSResult where
  | success
  | failure
  | parseComplete
  | parseWait
  | parseContinue
  | parseErr
  | requestReady
  | msgContent
  | msgComplete
  deriving DecidableEq, Repr

/-- `HNSC_SS_T`. -/
inductive RxState where
  | idle
  | hdrNstrLen
  | hdrAccumulate
  | hdrExtractPairs
  | hdrNstrComma
  | hdrDone
  | error
  deriving DecidableEq, Repr

/-- A response in its record: the message, `m_contentMoved`, and the stream of its
content source, where one is set. -/
structure Response where
  msg : HNSCGIMsg
  contentMoved : UInt32
  source : Option IStream

def Response.new : Response := { msg := HNSCGIMsg.new, contentMoved := 0, source := none }

/-- `configAsNotFound`, with what else `clearHeaders` sets. -/
def Response.configAsNotFound (rsp : Response) : Response :=
  { rsp with msg := rsp.msg.configAsNotFound, contentMoved := 0 }

/-- `HNSCGIRR`.  The buffer is what has been written of it; no byte of it is
read before it is written. -/
structure HNSCGIRR where
  fd : Nat
  request : HNSCGIMsg
  response : Response
  rxState : RxState
  partialStr : Str
  expHdrLen : UInt32
  rcvHdrLen : UInt32
  headerBuf : Option (List UInt8)

/-- The constructor.  The counters are set by the first call of the parser. -/
def HNSCGIRR.new (fd : Nat) : HNSCGIRR :=
  { fd, request := HNSCGIMsg.new, response := .new, rxState := .idle, partialStr := []
    expHdrLen := 0, rcvHdrLen := 0, headerBuf := none }

/-- Write `bs` at an offset of a buffer. -/
def writeAt (buf : List UInt8) (offset : Nat) (bs : List UInt8) : List UInt8 :=
  buf.take offset ++ bs ++ buf.drop (offset + bs.length)

/-! ## §3. Header pairs. -/

/-- The local variables of the pair extraction. -/
structure PairScan where
  curHdrName : Str
  curHdrValue : Str
  parsingName : Bool
  request : HNSCGIMsg

/-- One turn of the loop over the buffer. -/
def PairScan.next (s : PairScan) (c : UInt8) : PairScan :=
  -- quote characters are ignored
  if c = 34 then s
  else if c = 0 then
    if s.parsingName then { s with parsingName := false }
    else
      { curHdrName := [], curHdrValue := [], parsingName := true
        request := s.request.addSCGIRequestHeader s.curHdrName s.curHdrValue }
  else if s.parsingName then { s with curHdrName := s.curHdrName ++ [c] }
  else { s with curHdrValue := s.curHdrValue ++ [c] }

/-- The request with the pairs of a header block. -/
def extractPairs (request : HNSCGIMsg) (block : List UInt8) : HNSCGIMsg :=
  (block.foldl PairScan.next
    { curHdrName := [], curHdrValue := [], parsingName := true, request }).request

/-! ## §4. The three reading places, and the loop over the states. -/

namespace HNSCGIRR

variable {σ : Type} [ReadEnd σ]

/-- The character loop of `readNetStrStart`.  The fuel bounds the characters
that wait; a reader is never out of it. -/
def readNetStrLoop : Nat → HNSCGIRR → σ → HNSSResult × HNSCGIRR × σ
  | 0, rr, src => (.failure, rr, src)
  | fuel + 1, rr, src =>
    match ReadEnd.read src 1 with
    | (none, src) => (.parseErr, rr, src)
    | (some [], src) => (.parseWait, rr, src)
    | (some (c :: _), src) =>
      if c = 34 then readNetStrLoop fuel rr src
      else if c = 58 then
        (.parseComplete,
          { rr with expHdrLen := narrow32 (strtol rr.partialStr), partialStr := [] }, src)
      else readNetStrLoop fuel { rr with partialStr := rr.partialStr ++ [c] } src

def readNetStrStart (rr : HNSCGIRR) (src : σ) : HNSSResult × HNSCGIRR × σ :=
  readNetStrLoop (ReadEnd.patience src) rr src

def fillRequestHeaderBuffer (rr : HNSCGIRR) (src : σ) : HNSSResult × HNSCGIRR × σ :=
  let bytesLeft := rr.expHdrLen - rr.rcvHdrLen
  match ReadEnd.read src bytesLeft.toNat with
  | (none, src) => (.parseErr, rr, src)
  | (some bs, src) =>
    let rcvHdrLen := rr.rcvHdrLen + UInt32.ofNat bs.length
    let headerBuf := rr.headerBuf.map fun buf => writeAt buf rr.rcvHdrLen.toNat bs
    (if rcvHdrLen = rr.expHdrLen then .parseComplete else .parseWait,
      { rr with rcvHdrLen, headerBuf }, src)

def extractHeaderPairsFromBuffer (rr : HNSCGIRR) : HNSSResult × HNSCGIRR :=
  let block := (rr.headerBuf.getD []).take rr.rcvHdrLen.toNat
  (.parseComplete, { rr with request := extractPairs rr.request block })

def consumeNetStrComma (rr : HNSCGIRR) (src : σ) : HNSSResult × HNSCGIRR × σ :=
  match ReadEnd.read src 1 with
  | (none, src) => (.parseErr, rr, src)
  | (some [], src) => (.parseWait, rr, src)
  | (some (c :: _), src) => (if c = 44 then .parseComplete else .parseErr, rr, src)

def readRequestHeaders (rr : HNSCGIRR) (src : σ) : HNSSResult × HNSCGIRR × σ :=
  match rr.rxState with
  | .idle =>
    (.parseContinue, { rr with expHdrLen := 0, rcvHdrLen := 0, rxState := .hdrNstrLen }, src)
  | .hdrNstrLen =>
    match rr.readNetStrStart src with
    | (.parseComplete, rr, src) =>
      (.parseContinue,
        { rr with headerBuf := some [], rcvHdrLen := 0, rxState := .hdrAccumulate }, src)
    | (.parseErr, rr, src) => (.parseErr, { rr with rxState := .error }, src)
    | (_, rr, src) => (.success, rr, src)
  | .hdrAccumulate =>
    match rr.fillRequestHeaderBuffer src with
    | (.parseComplete, rr, src) => (.parseContinue, { rr with rxState := .hdrExtractPairs }, src)
    | (.parseErr, rr, src) => (.parseErr, { rr with rxState := .error }, src)
    | (_, rr, src) => (.success, rr, src)
  | .hdrExtractPairs =>
    match rr.extractHeaderPairsFromBuffer with
    | (.parseComplete, rr) =>
      (.parseContinue,
        { rr with headerBuf := none, rcvHdrLen := 0, rxState := .hdrNstrComma }, src)
    | (.parseErr, rr) => (.parseErr, { rr with rxState := .error }, src)
    | (_, rr) => (.success, rr, src)
  | .hdrNstrComma =>
    match rr.consumeNetStrComma src with
    | (.parseComplete, rr, src) =>
      (.requestReady,
        { rr with request := rr.request.setHeaderDone true, rxState := .hdrDone }, src)
    | (.parseErr, rr, src) => (.parseErr, { rr with rxState := .error }, src)
    | (_, rr, src) => (.success, rr, src)
  | .hdrDone => (.success, rr, src)
  | .error => (.success, rr, src)

/-- `while( result == HNSS_RESULT_PARSE_CONTINUE )`. -/
def readHeadersLoop : Nat → HNSCGIRR → σ → HNSSResult × HNSCGIRR × σ
  | 0, rr, src => (.parseContinue, rr, src)
  | fuel + 1, rr, src =>
    match rr.readRequestHeaders src with
    | (.parseContinue, rr, src) => readHeadersLoop fuel rr src
    | r => r

/-- The loop goes through each of the five states in front of HDR_DONE at most
once. -/
def recvData (rr : HNSCGIRR) (src : σ) : HNSSResult × HNSCGIRR × σ :=
  if rr.rxState = .hdrDone then (.success, rr, src)
  else
    match rr.readHeadersLoop 5 src with
    | (.parseErr, rr, src) => (.failure, rr, src)
    -- the case for a wait falls through to the one for a request
    | (.parseWait, rr, src) => (.requestReady, rr, src)
    | (.requestReady, rr, src) => (.requestReady, rr, src)
    | (_, rr, src) => (.success, rr, src)

/-! ## §5. What a call keeps. -/

theorem readNetStrLoop_fd :
    ∀ (fuel : Nat) (rr : HNSCGIRR) (src : σ), (readNetStrLoop fuel rr src).2.1.fd = rr.fd
  | 0, _, _ => rfl
  | fuel + 1, rr, src => by
      rw [readNetStrLoop]
      split
      next => rfl
      next => rfl
      next =>
        split
        next => exact readNetStrLoop_fd fuel rr _
        next =>
          split
          next => rfl
          next => rw [readNetStrLoop_fd fuel]

theorem fillRequestHeaderBuffer_fd (rr : HNSCGIRR) (src : σ) :
    (rr.fillRequestHeaderBuffer src).2.1.fd = rr.fd := by
  unfold fillRequestHeaderBuffer
  simp only
  split <;> rfl

theorem consumeNetStrComma_fd (rr : HNSCGIRR) (src : σ) :
    (rr.consumeNetStrComma src).2.1.fd = rr.fd := by
  unfold consumeNetStrComma
  split <;> rfl

/-- A state keeps the descriptor, and reports a request when it is done. -/
theorem readRequestHeaders_keeps (rr : HNSCGIRR) (src : σ) :
    (rr.readRequestHeaders src).2.1.fd = rr.fd ∧
      ((rr.readRequestHeaders src).1 = .requestReady →
        (rr.readRequestHeaders src).2.1.rxState = .hdrDone) ∧
      (rr.readRequestHeaders src).1 ≠ .parseWait := by
  unfold readRequestHeaders
  cases rr.rxState with
  | idle => exact ⟨rfl, nofun, nofun⟩
  | hdrNstrLen =>
    have hfd := readNetStrLoop_fd (ReadEnd.patience src) rr src
    simp only [readNetStrStart]
    generalize readNetStrLoop (ReadEnd.patience src) rr src = r at hfd ⊢
    obtain ⟨result, rr', src'⟩ := r
    cases result <;> exact ⟨hfd, nofun, nofun⟩
  | hdrAccumulate =>
    have hfd := fillRequestHeaderBuffer_fd rr src
    simp only
    generalize rr.fillRequestHeaderBuffer src = r at hfd ⊢
    obtain ⟨result, rr', src'⟩ := r
    cases result <;> exact ⟨hfd, nofun, nofun⟩
  | hdrExtractPairs => exact ⟨rfl, nofun, nofun⟩
  | hdrNstrComma =>
    have hfd := consumeNetStrComma_fd rr src
    simp only
    generalize rr.consumeNetStrComma src = r at hfd ⊢
    obtain ⟨result, rr', src'⟩ := r
    cases result with
    | parseComplete => exact ⟨hfd, fun _ => rfl, nofun⟩
    | _ => exact ⟨hfd, nofun, nofun⟩
  | hdrDone => exact ⟨rfl, nofun, nofun⟩
  | error => exact ⟨rfl, nofun, nofun⟩

theorem readHeadersLoop_keeps :
    ∀ (fuel : Nat) (rr : HNSCGIRR) (src : σ),
      (rr.readHeadersLoop fuel src).2.1.fd = rr.fd ∧
        ((rr.readHeadersLoop fuel src).1 = .requestReady →
          (rr.readHeadersLoop fuel src).2.1.rxState = .hdrDone) ∧
        (rr.readHeadersLoop fuel src).1 ≠ .parseWait
  | 0, _, _ => ⟨rfl, nofun, nofun⟩
  | fuel + 1, rr, src => by
      have hkeeps := readRequestHeaders_keeps rr src
      rw [readHeadersLoop]
      generalize rr.readRequestHeaders src = r at hkeeps ⊢
      obtain ⟨result, rr', src'⟩ := r
      cases result with
      | parseContinue =>
        obtain ⟨hfd, hrest⟩ := readHeadersLoop_keeps fuel rr' src'
        exact ⟨hfd.trans hkeeps.1, hrest⟩
      | _ => exact hkeeps

/-- **A call keeps the descriptor**, leaves a record alone that is done, and
reports a request when it gets done. -/
theorem recvData_keeps (rr : HNSCGIRR) (src : σ) :
    (rr.recvData src).2.1.fd = rr.fd ∧
      (rr.rxState = .hdrDone → rr.recvData src = (.success, rr, src)) ∧
      ((rr.recvData src).1 = .requestReady → (rr.recvData src).2.1.rxState = .hdrDone) := by
  by_cases hdone : rr.rxState = .hdrDone
  · rw [recvData, if_pos hdone]
    exact ⟨rfl, fun _ => rfl, nofun⟩
  · have hkeeps := readHeadersLoop_keeps 5 rr src
    refine ⟨?_, fun h => absurd h hdone, ?_⟩
    all_goals
      rw [recvData, if_neg hdone]
      generalize rr.readHeadersLoop 5 src = r at hkeeps ⊢
      obtain ⟨result, rr', src'⟩ := r
    · cases result <;> exact hkeeps.1
    · cases result with
      | parseWait => exact absurd rfl hkeeps.2.2
      | requestReady => exact fun _ => hkeeps.2.1 rfl
      | _ => nofun

end HNSCGIRR

end HNodeMgmt.Scgi
