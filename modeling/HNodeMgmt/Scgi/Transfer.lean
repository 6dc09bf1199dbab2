/-
  HNodeMgmt.Scgi.Transfer — the content of a message, chunk by chunk.

  `xferContentChunk` moves at most one buffer of 4096 bytes from the source of
  a message to its sink, up to the announced length when the message has one,
  else to the end of the source.  Three loops call it for as long as it
  returns MSG_CONTENT: `readContentToLocal`, the transfer of a response in
  `runSCGILoop` and that of a request in `executeProxyRequest`.

  It goes by the count and by the end of the source only.  A source that fails
  without having ended is read again and again.  A sink that fails is not
  noticed: the bytes are read, counted and lost.

  Main results:
    * `transfer_copies_iff` — the announced content is copied, and nothing behind
      it is read, EXACTLY when the sink takes so many bytes.
    * `transfer_loses` — a client that does not read.
    * `transfer_ends_iff` — every call that asks for another makes progress, and
      the loop ends, EXACTLY when no read that it needs fails.
-/
import Mathlib.Tactic.Common
import HNodeMgmt.Lib.Streams
import HNodeMgmt.Lib.While
import HNodeMgmt.Scgi.Parser

namespace HNodeMgmt.Scgi

open Lib

/-! ## §1. A transfer. -/

/-- `hasHeader`. -/
def HNSCGIMsg.hasHeader (msg : HNSCGIMsg) (name : Str) : Bool := decide (name ∈ msg.paramMap)

/-- A message with `m_contentMoved` and the streams that its source and its sink
refer to, where set. -/
structure Transfer where
  msg : HNSCGIMsg
  contentMoved : UInt32
  source : Option IStream
  sink : Option OStream

/-- What a record keeps of a transfer to its client. -/
def Transfer.response (t : Transfer) : Response :=
  { msg := t.msg, contentMoved := t.contentMoved, source := t.source }

/-- The response of a record, to the stream of its client. -/
def Response.transfer (rsp : Response) (client : OStream) : Transfer :=
  { msg := rsp.msg, contentMoved := rsp.contentMoved, source := rsp.source, sink := some client }

namespace Transfer

/-- Read, write and count. -/
def move (t : Transfer) (is : IStream) (os : OStream) (bytesToMove : Nat) : Transfer :=
  let (bytes, is) := is.read bytesToMove
  { t with
    contentMoved := t.contentMoved + UInt32.ofNat bytes.length
    source := some is
    sink := some (os.write bytes) }

/-- The source has come to its end. -/
def sourceEof (t : Transfer) : Bool := (t.source.map IStream.eof).getD true

/-- `os->flush()`. -/
def flush (t : Transfer) : Transfer := { t with sink := t.sink.map OStream.flush }

/-- `xferContentChunk`.  The buffer has 4096 bytes, whatever the argument is. -/
def xferContentChunk (t : Transfer) : HNSSResult × Transfer :=
  match t.source, t.sink with
  | some is, some os =>
    let contentLength := t.msg.getContentLength
    if t.msg.hasHeader (lit "Content-Length") then
      -- a length of zero is answered before the streams are asked for
      if contentLength = 0 then (.msgComplete, t)
      else if contentLength ≤ t.contentMoved then (.msgComplete, t)
      else
        let bytesToMove := contentLength - t.contentMoved
        let t := t.move is os (if 4096 < bytesToMove then 4096 else bytesToMove).toNat
        if t.contentMoved < contentLength ∧ t.sourceEof = false then (.msgContent, t)
        else (.msgComplete, t.flush)
    else
      let t := t.move is os 4096
      if t.sourceEof = false then (.msgContent, t) else (.msgComplete, t.flush)
  | _, _ => (.failure, t)

/-- The status is MSG_CONTENT. -/
def hasContent (st : HNSSResult × Transfer) : Bool := st.1 == .msgContent

/-- `status = xferContentChunk( 4096 )`. -/
def nextChunk (st : HNSSResult × Transfer) : HNSSResult × Transfer := st.2.xferContentChunk

/-- The loop of the three callers, with the status it starts with. -/
def transferLoop (fuel : Nat) (st : HNSSResult × Transfer) : Option (HNSSResult × Transfer) :=
  whileLoop hasContent nextChunk fuel st

/-! ## §2. One chunk. -/

/-- What is announced and not moved yet; none for a message with no length. -/
def remaining (t : Transfer) : Option Nat :=
  if t.msg.hasHeader (lit "Content-Length") then
    some (t.msg.getContentLength.toNat - t.contentMoved.toNat)
  else none

/-- What a call asks the source for. -/
def chunkSize (remaining : Option Nat) : Nat := (remaining.map (min 4096)).getD 4096

/-- What remains after some bytes. -/
def lessBytes (remaining : Option Nat) (n : Nat) : Option Nat := remaining.map (· - n)

/-- A message without a length is never done. -/
theorem remaining_none {t : Transfer} (h : t.msg.hasHeader (lit "Content-Length") = false) :
    t.remaining = none := by
  rw [remaining, if_neg (by rw [h]; decide)]

/-- What is announced, less what was moved. -/
theorem remaining_some {t : Transfer} (h : t.msg.hasHeader (lit "Content-Length") = true) :
    t.remaining = some (t.msg.getContentLength.toNat - t.contentMoved.toNat) := by
  rw [remaining, if_pos h]

/-- A call that reads asks for at least one byte. -/
theorem chunkSize_pos {r : Option Nat} (h : r ≠ some 0) : 0 < chunkSize r := by
  cases r with
  | none => decide
  | some n =>
    have hpos : n ≠ 0 := fun h0 => h (congrArg some h0)
    show 0 < min 4096 n
    omega

/-- Nothing remains: the call returns at once. -/
theorem xfer_idle {t : Transfer} {is : IStream} {os : OStream} (hsource : t.source = some is)
    (hsink : t.sink = some os) (hremaining : t.remaining = some 0) :
    t.xferContentChunk = (.msgComplete, t) := by
  unfold remaining at hremaining
  unfold xferContentChunk
  rw [hsource, hsink]
  split at hremaining
  next hhas =>
    have hle : t.msg.getContentLength ≤ t.contentMoved := by
      rw [UInt32.le_iff_toNat_le]
      have := Option.some.inj hremaining
      omega
    simp only [hhas, hle, if_true, ite_self]
  next => cases hremaining

/-- What is read is written and counted. -/
theorem move_eq {t : Transfer} {is is' : IStream} {os : OStream} {n : Nat} {bytes : List UInt8}
    (hread : is.read n = (bytes, is')) :
    t.move is os n =
      { t with
        contentMoved := t.contentMoved + UInt32.ofNat bytes.length
        source := some is', sink := some (os.write bytes) } := by
  unfold move
  rw [hread]

section Announced

variable {t : Transfer} (hhas : t.msg.hasHeader (lit "Content-Length") = true)

include hhas

/-- As long as something remains, the count is below the length. -/
theorem moved_lt (hremaining : t.remaining ≠ some 0) :
    t.contentMoved < t.msg.getContentLength := by
  rw [UInt32.lt_iff_toNat_lt]
  by_contra hnot
  exact hremaining ((remaining_some hhas).trans (congrArg some (by omega)))

/-- The difference of the two counts does not wrap: a call asks for the whole
buffer, or for what remains. -/
theorem bytesToMove_toNat (hlt : t.contentMoved < t.msg.getContentLength) :
    (if 4096 < t.msg.getContentLength - t.contentMoved then 4096
      else t.msg.getContentLength - t.contentMoved).toNat = chunkSize t.remaining := by
  have hsub := UInt32.toNat_sub_of_le _ _ (UInt32.le_of_lt hlt)
  have h4096 : (4096 : UInt32).toNat = 4096 := rfl
  rw [remaining_some hhas]
  show _ = min 4096 (t.msg.getContentLength.toNat - t.contentMoved.toNat)
  split
  next h =>
    rw [UInt32.lt_iff_toNat_lt, hsub] at h
    omega
  next h =>
    rw [UInt32.lt_iff_toNat_lt, hsub] at h
    omega

/-- Nor does the counter, which stays within the length. -/
theorem moved_toNat (hlt : t.contentMoved < t.msg.getContentLength) {n : Nat}
    (hn : n ≤ chunkSize t.remaining) :
    (t.contentMoved + UInt32.ofNat n).toNat = t.contentMoved.toNat + n := by
  have hfit := t.msg.getContentLength.toNat_lt
  have hbound : n ≤ t.msg.getContentLength.toNat - t.contentMoved.toNat := by
    rw [remaining_some hhas] at hn
    exact hn.trans (Nat.min_le_right _ _)
  rw [UInt32.lt_iff_toNat_lt] at hlt
  rw [UInt32.toNat_add, UInt32.toNat_ofNat']
  omega

end Announced

/-- Else it moves a chunk, and asks for another unless that was the last. -/
theorem xfer_reading {t : Transfer} {is is' : IStream} {os : OStream} {bytes : List UInt8}
    (hsource : t.source = some is) (hsink : t.sink = some os) (hremaining : t.remaining ≠ some 0)
    (hread : is.read (chunkSize t.remaining) = (bytes, is')) :
    ∃ t', t'.msg = t.msg ∧ t'.source = some is' ∧ t'.sink = some (os.write bytes) ∧
      t'.contentMoved = t.contentMoved + UInt32.ofNat bytes.length ∧
      t'.remaining = lessBytes t.remaining bytes.length ∧
      t.xferContentChunk =
        if is'.eof = false ∧ t'.remaining ≠ some 0 then (.msgContent, t')
        else (.msgComplete, t'.flush) := by
  have hmove : t.move is os (chunkSize t.remaining) =
      { t with
        contentMoved := t.contentMoved + UInt32.ofNat bytes.length
        source := some is', sink := some (os.write bytes) } := move_eq hread
  have hlength : bytes.length ≤ chunkSize t.remaining := by
    have hread' := is.read_length_le (chunkSize t.remaining)
    rw [hread] at hread'
    exact hread'
  have hmoved : (t.move is os (chunkSize t.remaining)).contentMoved =
      t.contentMoved + UInt32.ofNat bytes.length := by rw [hmove]
  have hmsg : (t.move is os (chunkSize t.remaining)).msg = t.msg := by rw [hmove]
  have heof : (t.move is os (chunkSize t.remaining)).sourceEof = is'.eof := by
    rw [hmove]
    rfl
  refine ⟨t.move is os (chunkSize t.remaining), hmsg, by rw [hmove], by rw [hmove], hmoved, ?_⟩
  unfold xferContentChunk
  rw [hsource, hsink]
  cases hhas : t.msg.hasHeader (lit "Content-Length") with
  | false =>
    -- only the end of the source ends it
    have hnone := remaining_none hhas
    have hafter := remaining_none (t := t.move is os (chunkSize t.remaining)) (by rw [hmsg, hhas])
    refine ⟨by rw [hafter, hnone]; rfl, ?_⟩
    rw [hafter]
    rw [hnone] at heof ⊢
    have hchunk : chunkSize none = 4096 := rfl
    rw [hchunk] at heof ⊢
    simp [heof]
  | true =>
    -- both counts, as natural numbers
    have hlt := moved_lt hhas hremaining
    have hbuffer := bytesToMove_toNat hhas hlt
    have hcount := moved_toNat hhas hlt hlength
    have hafter := remaining_some (t := t.move is os (chunkSize t.remaining)) (by rw [hmsg, hhas])
    rw [hmsg, hmoved, hcount] at hafter
    refine ⟨?_, ?_⟩
    · rw [hafter, remaining_some hhas]
      show _ = some (t.msg.getContentLength.toNat - t.contentMoved.toNat - bytes.length)
      rw [Nat.sub_sub]
    · have hnotDone : ¬ t.msg.getContentLength ≤ t.contentMoved := UInt32.not_le.mpr hlt
      have hzero : t.msg.getContentLength ≠ 0 := by
        intro h0
        rw [h0, UInt32.lt_iff_toNat_lt] at hlt
        exact absurd hlt (by simp)
      have hmore : (t.move is os (chunkSize t.remaining)).contentMoved <
          t.msg.getContentLength ↔
          (t.move is os (chunkSize t.remaining)).remaining ≠ some 0 := by
        rw [hafter, hmoved, UInt32.lt_iff_toNat_lt, hcount, ne_eq, Option.some.injEq]
        omega
      simp only [if_true, if_neg hzero, if_neg hnotDone, hbuffer, heof, hmore, and_comm]

/-- **What one call does.**  Nothing remains; the source had ended; it fails; all
the bytes asked for are there; or it ends before them. -/
inductive ChunkTaken (t : Transfer) (is : IStream) (os : OStream) :
    HNSSResult × Transfer → Prop
  | idle : t.remaining = some 0 → ChunkTaken t is os (.msgComplete, t)
  | ended (t' : Transfer) : t.remaining ≠ some 0 → is.eof = true →
      ChunkTaken t is os (.msgComplete, t')
  | fails (t' : Transfer) (is' : IStream) (os' : OStream) : t.remaining ≠ some 0 →
      is.eof = false → (is.good = true → is.faults 0 ≠ none) →
      t'.source = some is' → t'.sink = some os' → t'.remaining = t.remaining →
      t'.contentMoved = t.contentMoved → is'.content = is.content → is'.eof = false →
      is'.good = false → ChunkTaken t is os (.msgContent, t')
  | full (t' : Transfer) : t.remaining ≠ some 0 → is.good = true → is.faults 0 = none →
      chunkSize t.remaining ≤ is.content.length →
      t'.source = some { is with
        content := is.content.drop (chunkSize t.remaining)
        faults := fun i => is.faults (i + 1) } →
      t'.sink = some (os.write (is.content.take (chunkSize t.remaining))) →
      t'.remaining = lessBytes t.remaining (chunkSize t.remaining) →
      ChunkTaken t is os (if t'.remaining = some 0 then (.msgComplete, t'.flush)
        else (.msgContent, t'))
  | short (t' : Transfer) (is' : IStream) : t.remaining ≠ some 0 → is.good = true →
      is.faults 0 = none → is.content.length < chunkSize t.remaining →
      t'.source = some is' → is'.content = [] → t'.sink = some (os.write is.content) →
      ChunkTaken t is os (.msgComplete, t'.flush)

/-- **Each call is one of these**, whatever state its streams are in. -/
theorem chunk_taken {t : Transfer} {is : IStream} {os : OStream} (hsource : t.source = some is)
    (hsink : t.sink = some os) : ChunkTaken t is os t.xferContentChunk := by
  by_cases hremaining : t.remaining = some 0
  · rw [xfer_idle hsource hsink hremaining]
    exact .idle hremaining
  -- a read that gives nothing leaves the count as it was
  have hnothing : ∀ r : Option Nat, lessBytes r 0 = r := by
    intro r
    cases r <;> rfl
  cases hgood : is.good with
  | false =>
    obtain ⟨t', -, hsource', hsink', hmoved, hless, hrun⟩ := xfer_reading hsource hsink hremaining
      (IStream.read_not_good hgood)
    rw [hrun]
    cases heof : is.eof with
    | true =>
      rw [if_neg fun h => by cases h.1]
      exact .ended _ hremaining heof
    | false =>
      rw [List.length_nil, hnothing] at hless
      rw [if_pos ⟨rfl, by rw [hless]; exact hremaining⟩]
      refine .fails t' _ _ hremaining heof (fun h => by rw [hgood] at h; cases h) hsource' hsink'
        hless ?_ rfl heof (by simp [IStream.good])
      rw [hmoved]
      exact UInt32.add_zero _
  | true =>
    obtain ⟨heof, -, -⟩ := IStream.good_iff.mp hgood
    cases hfault : is.faults 0 with
    | some fault =>
      obtain ⟨is', hread, hcontent, heof', hgood'⟩ :=
        IStream.read_fault (chunkSize t.remaining) hgood hfault
      obtain ⟨t', -, hsource', hsink', hmoved, hless, hrun⟩ :=
        xfer_reading hsource hsink hremaining hread
      rw [List.length_nil, hnothing] at hless
      rw [hrun, if_pos ⟨heof', by rw [hless]; exact hremaining⟩]
      refine .fails t' is' _ hremaining heof (fun _ h => by cases hfault.symm.trans h) hsource'
        hsink' hless ?_ hcontent heof' hgood'
      rw [hmoved]
      exact UInt32.add_zero _
    | none =>
      by_cases hcount : chunkSize t.remaining ≤ is.content.length
      · obtain ⟨t', -, hsource', hsink', -, hless, hrun⟩ := xfer_reading hsource hsink hremaining
          (IStream.read_full hgood hfault hcount)
        rw [List.length_take, Nat.min_eq_left hcount] at hless
        have hcase : ChunkTaken t is os _ :=
          .full t' hremaining hgood hfault hcount hsource' hsink' hless
        rw [hrun]
        by_cases hdone : t'.remaining = some 0
        · rw [if_pos hdone] at hcase
          rw [if_neg fun h => h.2 hdone]
          exact hcase
        · rw [if_neg hdone] at hcase
          rw [if_pos ⟨heof, hdone⟩]
          exact hcase
      · obtain ⟨t', -, hsource', hsink', -, -, hrun⟩ := xfer_reading hsource hsink hremaining
          (IStream.read_short hgood hfault (Nat.lt_of_not_le hcount))
        rw [hrun, if_neg fun h => by cases h.1]
        exact .short t' _ hremaining hgood hfault (Nat.lt_of_not_le hcount) hsource' rfl hsink'

/-! ## §3. How many reads are needed. -/

/-- The reads that get what remains, of a source with `n` bytes: one for each
buffer, and one more that finds the end when the source ends first. -/
def readsNeeded (remaining : Option Nat) (n : Nat) : Nat :=
  match remaining with
  | none => n / 4096 + 1
  | some r => if n < r then n / 4096 + 1 else (r + 4095) / 4096

/-- No read is needed only when nothing remains. -/
theorem readsNeeded_eq_zero {r : Option Nat} {n : Nat} : readsNeeded r n = 0 ↔ r = some 0 := by
  cases r with
  | none => exact iff_of_false (Nat.succ_ne_zero _) nofun
  | some r =>
    rw [Option.some.injEq]
    show (if n < r then n / 4096 + 1 else (r + 4095) / 4096) = 0 ↔ r = 0
    split <;> omega

/-- A buffer that is filled is one of them. -/
theorem readsNeeded_full {r : Option Nat} {n : Nat} (hr : r ≠ some 0) (h : chunkSize r ≤ n) :
    readsNeeded r n = readsNeeded (lessBytes r (chunkSize r)) (n - chunkSize r) + 1 := by
  cases r with
  | none =>
    have hchunk : chunkSize none = 4096 := rfl
    rw [hchunk] at h ⊢
    show n / 4096 + 1 = (n - 4096) / 4096 + 1 + 1
    omega
  | some r =>
    have hpos : r ≠ 0 := fun h0 => hr (congrArg some h0)
    have hchunk : chunkSize (some r) = min 4096 r := rfl
    rw [hchunk] at h ⊢
    show (if n < r then n / 4096 + 1 else (r + 4095) / 4096) =
      (if n - min 4096 r < r - min 4096 r then (n - min 4096 r) / 4096 + 1
        else (r - min 4096 r + 4095) / 4096) + 1
    split <;> split <;> omega

/-- A read that comes to the end is the last. -/
theorem readsNeeded_short {r : Option Nat} {n : Nat} (h : n < chunkSize r) :
    readsNeeded r n = 1 := by
  cases r with
  | none =>
    have hchunk : chunkSize none = 4096 := rfl
    rw [hchunk] at h
    show n / 4096 + 1 = 1
    omega
  | some r =>
    have hchunk : chunkSize (some r) = min 4096 r := rfl
    rw [hchunk] at h
    show (if n < r then n / 4096 + 1 else (r + 4095) / 4096) = 1
    rw [if_pos (by omega)]
    omega

/-- The bytes the source has left. -/
def sourceLeft (t : Transfer) : Nat := (t.source.map fun is => is.content.length).getD 0

/-- What is left to read is what the stream has. -/
theorem sourceLeft_eq {t : Transfer} {is : IStream} (h : t.source = some is) :
    t.sourceLeft = is.content.length := by
  rw [sourceLeft, h]
  rfl

/-- The reads a transfer still needs. -/
def readsLeft (t : Transfer) : Nat := readsNeeded t.remaining t.sourceLeft

/-- A buffer that is filled is one read less. -/
theorem readsLeft_full {t t' : Transfer} {is : IStream} (hsource : t.source = some is)
    (hremaining : t.remaining ≠ some 0) (hcount : chunkSize t.remaining ≤ is.content.length)
    (hsource' : t'.source = some { is with
      content := is.content.drop (chunkSize t.remaining)
      faults := fun i => is.faults (i + 1) })
    (hless : t'.remaining = lessBytes t.remaining (chunkSize t.remaining)) :
    t.readsLeft = t'.readsLeft + 1 := by
  unfold readsLeft
  rw [sourceLeft_eq hsource, sourceLeft_eq hsource', hless, List.length_drop,
    readsNeeded_full hremaining hcount]

@[simp] theorem flush_source (t : Transfer) : t.flush.source = t.source := rfl

@[simp] theorem flush_sink (t : Transfer) : t.flush.sink = t.sink.map OStream.flush := rfl

@[simp] theorem flush_remaining (t : Transfer) : t.flush.remaining = t.remaining := rfl

/-! ## §4. The content is copied. -/

/-- Of some bytes, those that are moved, and those that stay. -/
def wanted (remaining : Option Nat) (content : List UInt8) : List UInt8 :=
  (remaining.map content.take).getD content

def leftOver (remaining : Option Nat) (content : List UInt8) : List UInt8 :=
  (remaining.map content.drop).getD []

/-- A full buffer is the first part of what is wanted; what stays behind is the same. -/
theorem wanted_full {r : Option Nat} {content : List UInt8} (h : chunkSize r ≤ content.length) :
    content.take (chunkSize r) ++ wanted (lessBytes r (chunkSize r))
        (content.drop (chunkSize r)) = wanted r content ∧
      leftOver (lessBytes r (chunkSize r)) (content.drop (chunkSize r)) = leftOver r content := by
  cases r with
  | none => exact ⟨List.take_append_drop _ content, rfl⟩
  | some r =>
    have hchunk : chunkSize (some r) = min 4096 r := rfl
    have hsplit : r = min 4096 r + (r - min 4096 r) := by omega
    rw [hchunk]
    refine ⟨?_, ?_⟩
    · show content.take (min 4096 r) ++ (content.drop (min 4096 r)).take (r - min 4096 r) =
        content.take r
      conv_rhs => rw [hsplit, List.take_add]
    · show (content.drop (min 4096 r)).drop (r - min 4096 r) = content.drop r
      rw [List.drop_drop, ← hsplit]

/-- A source that ends within a buffer is wanted as a whole. -/
theorem wanted_short {r : Option Nat} {content : List UInt8} (h : content.length < chunkSize r) :
    wanted r content = content ∧ leftOver r content = [] := by
  cases r with
  | none => exact ⟨rfl, rfl⟩
  | some r =>
    have hchunk : chunkSize (some r) = min 4096 r := rfl
    rw [hchunk] at h
    exact ⟨List.take_of_length_le (by omega), List.drop_of_length_le (by omega)⟩

/-- What has been written and what is still wanted are `total`, and what is to
stay is `rest`; a loop that is through has written it all. -/
structure Copying (start : OStream) (total rest : List UInt8) (st : HNSSResult × Transfer) :
    Prop where
  streams : ∃ is os, st.2.source = some is ∧ st.2.sink = some os ∧
    (st.1 = .msgContent ∧ is.good = true ∧ (∀ i, is.faults i = none) ∧
        (∃ moved, os = start.write moved ∧ moved ++ wanted st.2.remaining is.content = total) ∧
        leftOver st.2.remaining is.content = rest ∨
      st.1 = .msgComplete ∧ os.written = (start.write total).written ∧ is.content = rest)

/-- One turn of the loop. -/
theorem copying_turn {start : OStream} {total rest : List UInt8} {st : HNSSResult × Transfer}
    (h : Copying start total rest st) (hguard : hasContent st = true) :
    Copying start total rest (nextChunk st) ∧
      (hasContent (nextChunk st) = true → (nextChunk st).2.readsLeft < st.2.readsLeft) := by
  obtain ⟨is, os, hsource, hsink, hstate⟩ := h.streams
  rcases hstate with ⟨-, hgood, hfaults, ⟨moved, rfl, htotal⟩, hrest⟩ | ⟨hdone, -, -⟩
  · have hcase := chunk_taken hsource hsink
    unfold nextChunk
    generalize st.2.xferContentChunk = next at hcase ⊢
    cases hcase with
    | idle hremaining =>
      rw [hremaining] at htotal hrest
      refine ⟨⟨is, _, hsource, hsink, .inr ⟨rfl, ?_, hrest⟩⟩, nofun⟩
      rw [← htotal]
      show _ = (start.write (moved ++ [])).written
      rw [List.append_nil]
    | ended t' _ heof => cases (IStream.good_iff.mp hgood).1.symm.trans heof
    | fails t' is' os' _ _ hfails => exact absurd (hfaults 0) (hfails hgood)
    | short t' is' _ _ _ hcount hsource' hempty hsink' =>
      -- the end of the source: all it had is written, and the loop ends here
      obtain ⟨hwanted, hleft⟩ := wanted_short hcount
      refine ⟨⟨is', ((start.write moved).write is.content).flush, hsource',
        by rw [flush_sink, hsink']; rfl, .inr ⟨rfl, ?_, ?_⟩⟩, nofun⟩
      · rw [OStream.flush_written, OStream.write_append, ← htotal, hwanted]
      · rw [hempty, ← hrest, hleft]
    | full t' hremaining _ _ hcount hsource' hsink' hless =>
      obtain ⟨hwanted, hleft⟩ := wanted_full hcount
      rw [← hless] at hwanted hleft
      rw [OStream.write_append] at hsink'
      by_cases hlast : t'.remaining = some 0
      · rw [if_pos hlast]
        rw [hlast] at hwanted hleft
        refine ⟨⟨_, _, hsource', by rw [flush_sink, hsink']; rfl, .inr ⟨rfl, ?_, ?_⟩⟩, nofun⟩
        · rw [OStream.flush_written, ← htotal, ← hwanted]
          show _ = (start.write (moved ++ (_ ++ []))).written
          rw [List.append_nil]
        · rw [← hrest, ← hleft]
          rfl
      -- bytes are still due: what has been moved grows by this buffer
      · rw [if_neg hlast]
        refine ⟨⟨_, _, hsource', hsink', .inl ⟨rfl, hgood, fun i => hfaults (i + 1),
          ⟨_, rfl, ?_⟩, ?_⟩⟩, ?_⟩
        · rw [← htotal, ← hwanted]
          exact List.append_assoc _ _ _
        · rw [← hrest, ← hleft]
        · intro _
          have hreads := readsLeft_full hsource hremaining hcount hsource' hless
          show t'.readsLeft < st.2.readsLeft
          omega
  · rw [hasContent, hdone] at hguard
    cases hguard

/-- The length a message announces, if it does. -/
def announced (msg : HNSCGIMsg) : Option Nat :=
  if msg.hasHeader (lit "Content-Length") then some msg.getContentLength.toNat else none

/-- A length below 2^32 is announced by its decimal digits. -/
theorem announced_decimal {msg : HNSCGIMsg} {L : Nat} (hL : L < 2 ^ 32)
    (hvalue : msg.paramMap[lit "Content-Length"]? = some (decimal L)) : announced msg = some L := by
  have hhas : msg.hasHeader (lit "Content-Length") = true :=
    decide_eq_true ((OrdMap.mem_iff_get _ _).mpr ⟨_, hvalue⟩)
  have hread : msg.getContentLength.toNat = L := by
    unfold HNSCGIMsg.getContentLength
    rw [hvalue]
    show (narrow32 (strtol (decimal L))).toNat = L
    rw [strtol_decimal (by omega), narrow32_toNat hL]
  rw [announced, if_pos hhas, hread]

/-- The loop ends, and has written what is announced of the source to the sink. -/
def Moves (t : Transfer) (is : IStream) (os : OStream) (length : Option Nat) : Prop :=
  ∃ fuel t' is' os', transferLoop fuel (.msgContent, t) = some (.msgComplete, t') ∧
    t'.source = some is' ∧ t'.sink = some os' ∧
    os'.written = (os.write (wanted length is.content)).written ∧
    is'.content = leftOver length is.content

/-- A transfer that has moved nothing yet has all to move that is announced. -/
theorem remaining_announced {t : Transfer} (h : t.contentMoved = 0) :
    t.remaining = announced t.msg := by
  unfold remaining announced
  rw [h]
  rfl

/-- What is announced is moved, from a source that is good and raises no error. -/
theorem moves_announced (t : Transfer) (is : IStream) (os : OStream)
    (hsource : t.source = some is) (hsink : t.sink = some os) (hmoved : t.contentMoved = 0)
    (hgood : is.good = true) (hfaults : ∀ i, is.faults i = none) :
    Moves t is os (announced t.msg) := by
  have hremaining := remaining_announced hmoved
  have hstart : Copying os (wanted (announced t.msg) is.content)
      (leftOver (announced t.msg) is.content) (.msgContent, t) :=
    ⟨is, os, hsource, hsink, .inl ⟨rfl, hgood, hfaults,
      ⟨[], (OStream.write_nil os).symm, by rw [hremaining]; rfl⟩, by rw [hremaining]⟩⟩
  have hturn : ∀ {start total rest} u, Copying start total rest u → hasContent u = true →
      Copying start total rest (nextChunk u) ∧
        (hasContent (nextChunk u) = true → (nextChunk u).2.readsLeft < u.2.readsLeft) :=
    fun u hu hguard => copying_turn hu hguard
  obtain ⟨fuel, st, hloop, hcopying, hdone⟩ :=
    whileLoop_total (fun st => st.2.readsLeft) hturn _ hstart
  obtain ⟨is', os', hsource', hsink', hstate⟩ := hcopying.streams
  rcases hstate with ⟨hcontent, -⟩ | ⟨hcomplete, hwritten, hrest⟩
  · rw [hasContent, hcontent] at hdone
    cases hdone
  · refine ⟨fuel, st.2, is', os', ?_, hsource', hsink', hwritten, hrest⟩
    rw [← hcomplete]
    exact hloop

/-- **Exactly the announced content is copied**: the loop ends with MSG_COMPLETE,
the sink has the first L bytes of the source behind what it had, or all of them
when no length is announced, and what lies behind them has not been read.  It is
so EXACTLY when the sink takes that many bytes. -/
theorem transfer_copies_iff (t : Transfer) (is : IStream) (os : OStream)
    (hsource : t.source = some is) (hsink : t.sink = some os) (hmoved : t.contentMoved = 0)
    (hgood : is.good = true) (hfaults : ∀ i, is.faults i = none) :
    ((∃ fuel t' is' os', transferLoop fuel (.msgContent, t) = some (.msgComplete, t') ∧
      t'.source = some is' ∧ t'.sink = some os' ∧
      match announced t.msg with
      | none => os'.written = os.written ++ is.content ∧ is'.content = []
      | some L => os'.written = os.written ++ is.content.take L ∧
          is'.content = is.content.drop L) ↔
      os.Takes (wanted (announced t.msg) is.content).length) ∧
    ∀ L < 2 ^ 32, t.msg.paramMap[lit "Content-Length"]? = some (decimal L) →
      announced t.msg = some L := by
  refine ⟨?_, fun L hL hvalue => announced_decimal hL hvalue⟩
  obtain ⟨fuel, t', is', os', hloop, hsource', hsink', hwritten, hrest⟩ :=
    moves_announced t is os hsource hsink hmoved hgood hfaults
  rw [← OStream.write_written_iff, ← hwritten]
  constructor
  · rintro ⟨fuel', t'', is'', os'', hloop', -, hsink'', hcopied⟩
    -- the loop has one end only, so this is the sink of the run above
    obtain rfl := (Prod.mk.inj (whileLoop_unique hloop hloop')).2
    obtain rfl := Option.some.inj (hsink'.symm.trans hsink'')
    cases hann : announced t.msg with
    | none =>
      rw [hann] at hcopied
      exact hcopied.1
    | some L =>
      rw [hann] at hcopied
      exact hcopied.1
  · intro hall
    refine ⟨fuel, t', is', os', hloop, hsource', hsink', ?_⟩
    cases hann : announced t.msg with
    | none =>
      rw [hann] at hall hrest
      exact ⟨hall, hrest⟩
    | some L =>
      rw [hann] at hall hrest
      exact ⟨hall, hrest⟩

/-- A body of six bytes, with the next request behind it. -/
def sampleBody : Transfer :=
  { msg := { HNSCGIMsg.new with
      paramMap := (∅ : StrMap Str).insertIfNew (lit "Content-Length") (lit "6") }
    contentMoved := 0, source := some (.ofBytes (lit "claim 70:")), sink := some .fresh }

theorem transfer_copies_sample :
    ∃ fuel t' is' os', transferLoop fuel (.msgContent, sampleBody) = some (.msgComplete, t') ∧
      t'.source = some is' ∧ t'.sink = some os' ∧
      os'.written = lit "claim " ∧ is'.content = lit "70:" := by
  obtain ⟨hcopies, hdecimal⟩ := transfer_copies_iff sampleBody (.ofBytes (lit "claim 70:")) .fresh
    rfl rfl rfl rfl fun _ => rfl
  obtain ⟨fuel, t', is', os', hloop, hsource, hsink, hcopied⟩ :=
    hcopies.mpr (OStream.TakesAll.fresh.takes _)
  rw [hdecimal 6 (by decide) (by decide +kernel)] at hcopied
  exact ⟨fuel, t', is', os', hloop, hsource, hsink, hcopied⟩

/-- The client does not read, and there is room for two bytes in the buffer of its
socket. -/
def sampleFull : OStream := { OStream.fresh with room := some 2 }

/-- **What a failing sink does not take is lost**: the transfer ends with
MSG_COMPLETE, four of the six bytes are nowhere, and no run of it copies them. -/
theorem transfer_loses :
    (∃ fuel t' is' os',
      transferLoop fuel (.msgContent, { sampleBody with sink := some sampleFull }) =
        some (.msgComplete, t') ∧
      t'.source = some is' ∧ is'.content = lit "70:" ∧
      t'.sink = some os' ∧ os'.written = lit "cl") ∧
    ¬ ∃ fuel t' os',
      transferLoop fuel (.msgContent, { sampleBody with sink := some sampleFull }) =
        some (.msgComplete, t') ∧
      t'.sink = some os' ∧ os'.written = sampleFull.written ++ lit "claim " := by
  have hannounced : announced sampleBody.msg = some 6 :=
    announced_decimal (by decide) (by decide +kernel)
  have htwo : (sampleFull.write ((lit "claim 70:").take 6)).written = lit "cl" ∧
      (lit "claim 70:").drop 6 = lit "70:" ∧ lit "cl" ≠ lit "claim " := by decide +kernel
  obtain ⟨fuel, t', is', os', hloop, hsource, hsink, hwritten, hrest⟩ :=
    moves_announced { sampleBody with sink := some sampleFull } (.ofBytes (lit "claim 70:"))
      sampleFull rfl rfl rfl rfl fun _ => rfl
  rw [hannounced] at hwritten hrest
  refine ⟨⟨fuel, t', is', os', hloop, hsource, hrest.trans htwo.2.1, hsink,
    hwritten.trans htwo.1⟩, ?_⟩
  rintro ⟨fuel', t'', os'', hloop', hsink', hall⟩
  obtain rfl := (Prod.mk.inj (whileLoop_unique hloop hloop')).2
  obtain rfl := Option.some.inj (hsink.symm.trans hsink')
  exact htwo.2.2 ((hwritten.trans htwo.1).symm.trans hall)

/-! ## §5. The loop ends. -/

/-- A call has counted bytes, or taken some from the source. -/
def Progress (t t' : Transfer) : Prop :=
  t.contentMoved < t'.contentMoved ∨ t'.sourceLeft < t.sourceLeft

/-- No read that is needed fails: none is needed, or the source has ended, or it
is good and the device raises no error in as many reads. -/
def ReadsThrough (t : Transfer) (is : IStream) : Prop :=
  t.readsLeft = 0 ∨ is.eof = true ∨
    (is.good = true ∧ ∀ i < t.readsLeft, is.faults i = none)

/-- A stream that is neither good nor at its end does not become so. -/
theorem not_readsThrough {t : Transfer} {is : IStream} (hremaining : t.remaining ≠ some 0)
    (heof : is.eof = false) (hgood : is.good = false) : ¬ ReadsThrough t is := by
  intro h
  rcases h with hnone | hended | ⟨hstill, -⟩
  · exact hremaining (readsNeeded_eq_zero.mp hnone)
  · cases heof.symm.trans hended
  · cases hgood.symm.trans hstill

/-- A buffer that is filled, and the reads after it. -/
theorem readsThrough_full {t t' : Transfer} {is : IStream} (hsource : t.source = some is)
    (hremaining : t.remaining ≠ some 0) (hgood : is.good = true) (hfault : is.faults 0 = none)
    (hcount : chunkSize t.remaining ≤ is.content.length)
    (hsource' : t'.source = some { is with
      content := is.content.drop (chunkSize t.remaining)
      faults := fun i => is.faults (i + 1) })
    (hless : t'.remaining = lessBytes t.remaining (chunkSize t.remaining)) :
    ReadsThrough t is ↔ ∀ i < t'.readsLeft, is.faults (i + 1) = none := by
  have hreads := readsLeft_full hsource hremaining hcount hsource' hless
  have heof := (IStream.good_iff.mp hgood).1
  constructor
  · intro h
    rcases h with hnone | hended | ⟨-, hfaults⟩
    · omega
    · cases heof.symm.trans hended
    · exact fun i hi => hfaults (i + 1) (by omega)
  · intro h
    refine .inr (.inr ⟨hgood, fun i hi => ?_⟩)
    cases i with
    | zero => exact hfault
    | succ i => exact h i (by omega)

/-- The streams are there, and the reads that are needed are through. -/
def Through (st : HNSSResult × Transfer) : Prop :=
  hasContent st = true → ∃ is os, st.2.source = some is ∧ st.2.sink = some os ∧
    ReadsThrough st.2 is

/-- One turn of a loop whose reads are through. -/
theorem through_turn {st : HNSSResult × Transfer} (h : Through st) (hguard : hasContent st = true) :
    Through (nextChunk st) ∧
      (hasContent (nextChunk st) = true → Progress st.2 (nextChunk st).2 ∧
        (nextChunk st).2.readsLeft < st.2.readsLeft) := by
  obtain ⟨is, os, hsource, hsink, hthrough⟩ := h hguard
  have hcase := chunk_taken hsource hsink
  unfold nextChunk
  generalize st.2.xferContentChunk = next at hcase ⊢
  cases hcase with
  | idle _ => exact ⟨nofun, nofun⟩
  | ended t' _ _ => exact ⟨nofun, nofun⟩
  | short t' is' _ _ _ _ _ _ _ => exact ⟨nofun, nofun⟩
  | fails t' is' os' hremaining heof hfails =>
    rcases hthrough with hnone | hended | ⟨hgood, hfaults⟩
    · exact absurd (readsNeeded_eq_zero.mp hnone) hremaining
    · cases heof.symm.trans hended
    · refine absurd (hfaults 0 (Nat.pos_of_ne_zero fun h0 => ?_)) (hfails hgood)
      exact hremaining (readsNeeded_eq_zero.mp h0)
  | full t' hremaining hgood hfault hcount hsource' hsink' hless =>
    have hrest := (readsThrough_full hsource hremaining hgood hfault hcount hsource' hless).mp
      hthrough
    have hreads := readsLeft_full hsource hremaining hcount hsource' hless
    by_cases hlast : t'.remaining = some 0
    · rw [if_pos hlast]
      exact ⟨nofun, nofun⟩
    · rw [if_neg hlast]
      refine ⟨fun _ => ⟨_, _, hsource', hsink', .inr (.inr ⟨hgood, hrest⟩)⟩, fun _ => ⟨.inr ?_, ?_⟩⟩
      · have hpos := chunkSize_pos hremaining
        rw [sourceLeft_eq hsource, sourceLeft_eq hsource', List.length_drop]
        omega
      · show t'.readsLeft < st.2.readsLeft
        omega

/-- Backwards: what is through after a call was through before it. -/
theorem through_of_turn {st : HNSSResult × Transfer} {is : IStream} {os : OStream}
    (hsource : st.2.source = some is) (hsink : st.2.sink = some os)
    (h : ∀ is' os', hasContent (nextChunk st) = true → (nextChunk st).2.source = some is' →
      (nextChunk st).2.sink = some os' → ReadsThrough (nextChunk st).2 is') :
    ReadsThrough st.2 is := by
  have hcase := chunk_taken hsource hsink
  unfold nextChunk at h
  generalize st.2.xferContentChunk = next at hcase h
  cases hcase with
  | idle hremaining => exact .inl (readsNeeded_eq_zero.mpr hremaining)
  | ended t' _ heof => exact .inr (.inl heof)
  | short t' is' _ hgood hfault hcount =>
    refine .inr (.inr ⟨hgood, fun i hi => ?_⟩)
    rw [readsLeft, sourceLeft_eq hsource, readsNeeded_short hcount] at hi
    obtain rfl : i = 0 := by omega
    exact hfault
  | fails t' is' os' hremaining _ _ hsource' hsink' hsame _ _ heof' hgood' =>
    -- the call after this one would fail as well
    exact absurd (h is' os' rfl hsource' hsink')
      (not_readsThrough (by rw [hsame]; exact hremaining) heof' hgood')
  | full t' hremaining hgood hfault hcount hsource' hsink' hless =>
    rw [readsThrough_full hsource hremaining hgood hfault hcount hsource' hless]
    by_cases hlast : t'.remaining = some 0
    · have hnone : t'.readsLeft = 0 := readsNeeded_eq_zero.mpr hlast
      exact fun i hi => absurd hi (by omega)
    · rw [if_neg hlast] at h
      rcases h _ _ rfl hsource' hsink' with hnone | hended | ⟨-, hfaults⟩
      · exact absurd (readsNeeded_eq_zero.mp hnone) hlast
      · cases (IStream.good_iff.mp hgood).1.symm.trans hended
      · exact hfaults

/-- **Every call that asks for another makes progress, and the loop ends**, EXACTLY
when no read that the transfer needs fails. -/
theorem transfer_ends_iff (t : Transfer) (is : IStream) (os : OStream)
    (hsource : t.source = some is) (hsink : t.sink = some os) :
    ((∀ st, Passes hasContent nextChunk (.msgContent, t) st → hasContent st = true →
        hasContent (nextChunk st) = true → Progress st.2 (nextChunk st).2) ∧
      ∃ fuel st, transferLoop fuel (.msgContent, t) = some st) ↔ ReadsThrough t is := by
  constructor
  · intro h
    obtain ⟨-, fuel, st, hloop⟩ := h
    exact whileLoop_backward
      (I := fun st => ∀ is os, hasContent st = true → st.2.source = some is →
        st.2.sink = some os → ReadsThrough st.2 is)
      (fun u hdone is os hguard => by cases hdone.symm.trans hguard)
      (fun u _ h is os _ hsource hsink => through_of_turn hsource hsink h)
      hloop is os rfl hsource hsink
  · intro hthrough
    have hstart : Through (.msgContent, t) := fun _ => ⟨is, os, hsource, hsink, hthrough⟩
    refine ⟨fun st hpasses hguard hagain => ?_, ?_⟩
    · have hhere := hpasses.invariant hstart fun u hu hguard => (through_turn hu hguard).1
      exact ((through_turn hhere hguard).2 hagain).1
    · have hturn : ∀ u, Through u → hasContent u = true → Through (nextChunk u) ∧
          (hasContent (nextChunk u) = true → (nextChunk u).2.readsLeft < u.2.readsLeft) :=
        fun u hu hguard => ⟨(through_turn hu hguard).1,
          fun hagain => ((through_turn hu hguard).2 hagain).2⟩
      obtain ⟨fuel, st, hloop, -⟩ := whileLoop_total (fun st => st.2.readsLeft) hturn _ hstart
      exact ⟨fuel, st, hloop⟩

/-- The sample body is there when it is read. -/
theorem transfer_ends_sample :
    (∀ st, Passes hasContent nextChunk (.msgContent, sampleBody) st → hasContent st = true →
        hasContent (nextChunk st) = true → Progress st.2 (nextChunk st).2) ∧
      ∃ fuel st, transferLoop fuel (.msgContent, sampleBody) = some st :=
  (transfer_ends_iff sampleBody (.ofBytes (lit "claim 70:")) .fresh rfl rfl).mpr
    (.inr (.inr ⟨rfl, fun _ _ => rfl⟩))

/-- Something remains, and the next read fails without an end. -/
def Stuck (st : HNSSResult × Transfer) : Prop :=
  hasContent st = true ∧ ∃ is os, st.2.source = some is ∧ st.2.sink = some os ∧
    st.2.remaining ≠ some 0 ∧ is.eof = false ∧ (is.good = true → is.faults 0 ≠ none)

/-- The call asks for another, has moved nothing, and the next one will fail too. -/
theorem stuck_turn {st : HNSSResult × Transfer} (h : Stuck st) :
    Stuck (nextChunk st) ∧ ¬ Progress st.2 (nextChunk st).2 := by
  obtain ⟨-, is, os, hsource, hsink, hremaining, heof, hfails⟩ := h
  have hcase := chunk_taken hsource hsink
  unfold nextChunk
  generalize st.2.xferContentChunk = next at hcase ⊢
  cases hcase with
  | idle hdone => exact absurd hdone hremaining
  | ended t' _ hended => cases heof.symm.trans hended
  | full t' _ hgood hfault => exact absurd hfault (hfails hgood)
  | short t' is' _ hgood hfault => exact absurd hfault (hfails hgood)
  | fails t' is' os' _ _ _ hsource' hsink' hsame hmoved hcontent heof' hgood' =>
    refine ⟨⟨rfl, is', os', hsource', hsink', by rw [hsame]; exact hremaining, heof', ?_⟩, ?_⟩
    · intro hgood
      cases hgood'.symm.trans hgood
    · intro hprogress
      rcases hprogress with hcounted | htaken
      · rw [hmoved] at hcounted
        exact absurd hcounted (UInt32.lt_irrefl _)
      · rw [sourceLeft_eq hsource, sourceLeft_eq hsource', hcontent] at htaken
        exact absurd htaken (Nat.lt_irrefl _)

/-- The body has been announced, and arrives only after the first read of the
client's socket, which would block. -/
def sampleWaiting : Transfer :=
  { sampleBody with source := some { IStream.ofBytes (lit "claim ") with
      faults := fun i => if i = 0 then some .bad else none } }

/-- **The transfer of a body that is not there yet never ends**, and its first call
makes no progress. -/
theorem transfer_never_ends :
    (∃ st, Passes hasContent nextChunk (.msgContent, sampleWaiting) st ∧
      hasContent st = true ∧ hasContent (nextChunk st) = true ∧
      ¬ Progress st.2 (nextChunk st).2) ∧
    ∀ fuel, transferLoop fuel (.msgContent, sampleWaiting) = none := by
  have hstuck : Stuck (.msgContent, sampleWaiting) :=
    ⟨rfl, _, _, rfl, rfl, by decide +kernel, rfl, fun _ => nofun⟩
  refine ⟨⟨_, .refl, rfl, (stuck_turn hstuck).1.1, (stuck_turn hstuck).2⟩, fun fuel => ?_⟩
  exact whileLoop_none (I := Stuck) (fun u hu => ⟨hu.1, (stuck_turn hu).1⟩) fuel hstuck

end Transfer

end HNodeMgmt.Scgi
