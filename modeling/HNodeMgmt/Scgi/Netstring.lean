/-
  HNodeMgmt.Scgi.Netstring — what the parser accepts.

  The reader gets to its done state along one kind of stream only: a text up
  to the first colon, as many bytes as `strtol` makes of that text, a comma.
  Quote characters in the text are dropped on purpose.  For a text that is a
  plain decimal number, what follows the colon is therefore a netstring's
  content, or the header is not accepted.

  Main results:
    * `reads_done_iff` — the streams along which a header is done.
    * `header_accepts` — what reaching HDR_DONE says about the bytes delivered.
    * `quoted_length_accepted` — a quoted length, which is no netstring's, is
      accepted.
-/
import Mathlib.Tactic.Common
import HNodeMgmt.Scgi.Decode

namespace HNodeMgmt.Scgi

open Lib HeaderState

/-! ## §1. The readings that end in the done state. -/

variable {exp exp' : UInt32} {request request' : HNSCGIMsg} {xs ys : List UInt8}

/-- From the comma on. -/
theorem reads_done_of_comma
    (h : Reads headerReader (.comma exp request) xs (.done exp' request') ys) :
    xs = 44 :: ys ∧ exp' = exp ∧ request' = request.setHeaderDone true := by
  obtain ⟨c, as, rfl, -, hrest⟩ := h.head (by nofun)
  by_cases hc : c = 44
  · subst hc
    have hstep : headerReader.step (.comma exp request) 44 =
        .done exp (request.setHeaderDone true) := rfl
    rw [hstep] at hrest
    cases hrest with
    | refl => exact ⟨rfl, rfl, rfl⟩
    | step hopen _ => cases hopen
  · -- an error is final
    have hstep : headerReader.step (.comma exp request) c = .bad exp request := if_neg hc
    rw [hstep] at hrest
    cases hrest with
    | step hopen _ => cases hopen

/-- From somewhere in the block on.  The induction is on the stream, of which
the block takes its part. -/
theorem reads_done_of_gather :
    ∀ (xs got : List UInt8), got.length ≤ exp.toNat →
      Reads headerReader (gather exp got) xs (.done exp' request') ys →
      ∃ more, xs = more ++ 44 :: ys ∧ (got ++ more).length = exp.toNat ∧ exp' = exp ∧
        request' = parsedRequest (got ++ more)
  | xs, got, hle, h => by
      by_cases hshort : got.length < exp.toNat
      · rw [gather_short hshort] at h
        obtain ⟨c, as, rfl, -, hrest⟩ := h.head (by nofun)
        have hle' : (got ++ [c]).length ≤ exp.toNat := by
          rw [List.length_append, List.length_singleton]
          omega
        obtain ⟨more, rfl, hlen, hexp, hreq⟩ := reads_done_of_gather as (got ++ [c]) hle' hrest
        rw [List.append_assoc, List.singleton_append] at hlen hreq
        exact ⟨c :: more, rfl, hlen, hexp, hreq⟩
      · rw [gather_full hshort] at h
        obtain ⟨rfl, hexp, hreq⟩ := reads_done_of_comma h
        refine ⟨[], rfl, ?_, hexp, ?_⟩
        · rw [List.append_nil]
          omega
        · rw [List.append_nil]
          exact hreq

/-- From somewhere in the length on. -/
theorem reads_done_of_len :
    ∀ (xs digits : List UInt8),
      Reads headerReader (.len digits) xs (.done exp' request') ys →
      ∃ text block, 58 ∉ text ∧ xs = text ++ 58 :: (block ++ 44 :: ys) ∧
        exp' = narrow32 (strtol (digits ++ unquoted text)) ∧ block.length = exp'.toNat ∧
        request' = parsedRequest block
  | xs, digits, h => by
      obtain ⟨c, as, rfl, -, hrest⟩ := h.head (by nofun)
      by_cases hquote : c = 34
      · -- dropped from the text
        subst hquote
        obtain ⟨text, block, hcolon, rfl, hexp, hlen, hreq⟩ := reads_done_of_len as digits hrest
        exact ⟨34 :: text, block, by simpa using hcolon, rfl, hexp, hlen, hreq⟩
      by_cases hc : c = 58
      · subst hc
        obtain ⟨block, rfl, hlen, rfl, hreq⟩ := reads_done_of_gather as [] (Nat.zero_le _) hrest
        exact ⟨[], block, by simp, rfl, by simp [unquoted], hlen, hreq⟩
      · have hstep : headerReader.step (.len digits) c = .len (digits ++ [c]) := by
          show HeaderState.step (.len digits) c = _
          rw [HeaderState.step, if_neg hquote, if_neg hc]
        rw [hstep] at hrest
        obtain ⟨text, block, hcolon, rfl, hexp, hlen, hreq⟩ :=
          reads_done_of_len as (digits ++ [c]) hrest
        refine ⟨c :: text, block, ?_, rfl, ?_, hlen, hreq⟩
        · rw [List.mem_cons, not_or]
          exact ⟨Ne.symm hc, hcolon⟩
        · have hkept : unquoted (c :: text) = c :: unquoted text := by simp [unquoted, hquote]
          rw [hexp, hkept, ← List.append_cons]

/-- A text without a colon is kept without its quotes. -/
theorem reads_text :
    ∀ (text digits rest : List UInt8), 58 ∉ text →
      Reads headerReader (.len digits) (text ++ rest) (.len (digits ++ unquoted text)) rest
  | [], digits, rest, _ => by
      rw [unquoted, List.filter_nil, List.append_nil]
      exact Reads.refl
  | c :: text, digits, rest, h => by
      obtain ⟨hc, htext⟩ : 58 ≠ c ∧ 58 ∉ text := by simpa using h
      refine Reads.step rfl ?_
      show Reads headerReader (HeaderState.step (.len digits) c) (text ++ rest) _ rest
      by_cases hquote : c = 34
      · subst hquote
        exact reads_text text digits rest htext
      · have hkept : unquoted (c :: text) = c :: unquoted text := by simp [unquoted, hquote]
        rw [HeaderState.step, if_neg hquote, if_neg (Ne.symm hc), hkept,
          List.append_cons digits c (unquoted text)]
        exact reads_text text (digits ++ [c]) rest htext

/-- **The streams along which a header is done**: a text, a colon, as many
bytes as the text is taken for, and a comma. -/
theorem reads_done_iff :
    Reads headerReader (.len []) xs (.done exp request) ys ↔
      ∃ text block, 58 ∉ text ∧ xs = text ++ 58 :: (block ++ 44 :: ys) ∧
        exp = narrow32 (strtol (unquoted text)) ∧ block.length = exp.toNat ∧
        request = parsedRequest block := by
  constructor
  · intro h
    obtain ⟨text, block, hcolon, hxs, hexp, hlen, hreq⟩ := reads_done_of_len xs [] h
    exact ⟨text, block, hcolon, hxs, hexp, hlen, hreq⟩
  · rintro ⟨text, block, hcolon, rfl, rfl, hlen, rfl⟩
    have htext := reads_text text [] (58 :: (block ++ 44 :: ys)) hcolon
    have hblock : Reads headerReader (gather (narrow32 (strtol (unquoted text))) [])
        (block ++ 44 :: ys) (gather (narrow32 (strtol (unquoted text))) ([] ++ block)) (44 :: ys) :=
      reads_gather block [] (44 :: ys) (by simpa using le_of_eq hlen)
    have hfull : ¬ ([] ++ block).length < (narrow32 (strtol (unquoted text))).toNat := by
      rw [List.nil_append]
      omega
    rw [gather_full hfull] at hblock
    exact (htext.trans (Reads.single rfl)).trans (hblock.trans (Reads.single rfl))

/-! ## §2. Delivery in full. -/

/-- What a fresh record and its socket are when the whole stream has been
delivered: by a schedule of calls, or waiting in one piece for the first
call, on either kind of socket. -/
inductive DeliveredInFull (fd : Nat) (stream : List UInt8) : HNSCGIRR × Socket → Prop
  | calls {calls : List (List (List UInt8))} (h : Delivers fd stream calls) :
      DeliveredInFull fd stream (deliverFresh fd calls)
  | atOnce (nonblocking : Bool) :
      DeliveredInFull fd stream ((HNSCGIRR.new fd).recvData { pieces := [stream], nonblocking }).2

variable {fd : Nat} {stream : List UInt8} {r : HNSCGIRR × Socket}

/-- A socket with one piece is drained when nothing waits any more. -/
theorem drained_atOnce {sock' : Socket} {nonblocking : Bool}
    (h : sock'.Drained { pieces := [stream], nonblocking }) : sock'.bytes = [] := by
  rcases h with hnil | hlt
  · exact hnil
  · have hpieces : sock'.pieces = [] := List.length_eq_zero_iff.mp (Nat.lt_one_iff.mp hlt)
    rw [Socket.bytes, hpieces, List.flatten_nil]

/-- **A stream delivered in full has been read as far as the reader goes.**  The
record holds the reader's state, or it failed where a read was answered by -1. -/
theorem DeliveredInFull.reading (h : DeliveredInFull fd stream r) :
    ∃ st, Reads headerReader (.len []) stream st r.2.bytes ∧ headerReader.Settled st r.2.bytes ∧
      (r.1 = st.record fd ∨ r.1.rxState = .error ∧ st.final = false) := by
  cases h with
  | calls hdelivers =>
    obtain ⟨st, hrecord, hreads, hsettled⟩ := hdelivers.reading
    exact ⟨st, hreads, hsettled, .inl hrecord⟩
  | atOnce nonblocking =>
    have hnew : Holds fd (HNSCGIRR.new fd) (.len []) := .inr ⟨rfl, rfl⟩
    obtain ⟨r, hout, heq⟩ := recvData_outcome hnew rfl { pieces := [stream], nonblocking }
    have hbytes : Socket.bytes { pieces := [stream], nonblocking } = stream := by
      simp [Socket.bytes]
    rw [heq]
    cases hout with
    | waiting reads follows drained notFinal fed =>
      exact ⟨_, hbytes ▸ reads, .inl (drained_atOnce drained), .inl rfl⟩
    | ready reads follows => exact ⟨_, hbytes ▸ reads, .inr rfl, .inl rfl⟩
    | bad reads follows => exact ⟨_, hbytes ▸ reads, .inr rfl, .inl rfl⟩
    | wouldBlock reads follows drained nonblocking notFinal error empty =>
      exact ⟨_, hbytes ▸ reads, .inl (drained_atOnce drained), .inr ⟨error, notFinal⟩⟩

/-- A record that is done has read a text, a block and a comma. -/
theorem DeliveredInFull.of_done (h : DeliveredInFull fd stream r)
    (hdone : r.1.rxState = .hdrDone) :
    ∃ text block, 58 ∉ text ∧ stream = text ++ 58 :: (block ++ 44 :: r.2.bytes) ∧
      block.length = (narrow32 (strtol (unquoted text))).toNat ∧
      r.1.request = parsedRequest block := by
  obtain ⟨st, hreads, -, hrecord | ⟨herror, -⟩⟩ := h.reading
  · rw [hrecord] at hdone
    cases st with
    | done exp request =>
      obtain ⟨text, block, hcolon, hstream, rfl, hlen, rfl⟩ := reads_done_iff.mp hreads
      exact ⟨text, block, hcolon, hstream, hlen, by rw [hrecord]; rfl⟩
    | _ => simp [HeaderState.record] at hdone
  · rw [herror] at hdone
    cases hdone

/-- A record is done when the reader gets done along the stream. -/
theorem DeliveredInFull.done (h : DeliveredInFull fd stream r) {exp : UInt32}
    {request : HNSCGIMsg} {ys : List UInt8}
    (hdone : Reads headerReader (.len []) stream (.done exp request) ys) :
    r.1.rxState = .hdrDone := by
  obtain ⟨st, hreads, hsettled, hrecord⟩ := h.reading
  obtain ⟨rfl, -⟩ := hreads.settled_unique hdone hsettled (.inr rfl)
  rcases hrecord with hrecord | ⟨-, hfinal⟩
  · rw [hrecord]
    rfl
  · cases hfinal

/-! ## §3. What is accepted. -/

/-- The first colon of a stream is in one place. -/
theorem colon_unique :
    ∀ {text text' after after' : List UInt8}, 58 ∉ text → 58 ∉ text' →
      text ++ 58 :: after = text' ++ 58 :: after' → text = text' ∧ after = after'
  | [], [], _, _, _, _, heq => ⟨rfl, (List.cons.inj heq).2⟩
  | [], c :: _, _, _, _, h', heq => by
      obtain ⟨rfl, -⟩ := List.cons.inj heq
      exact absurd List.mem_cons_self h'
  | c :: _, [], _, _, h, _, heq => by
      obtain ⟨rfl, -⟩ := List.cons.inj heq
      exact absurd List.mem_cons_self h
  | c :: text, c' :: text', after, after', h, h', heq => by
      obtain ⟨rfl, hrest⟩ := List.cons.inj heq
      have htext : 58 ∉ text := fun hmem => h (List.mem_cons_of_mem c hmem)
      have htext' : 58 ∉ text' := fun hmem => h' (List.mem_cons_of_mem c hmem)
      obtain ⟨rfl, hafter⟩ := colon_unique htext htext' hrest
      exact ⟨rfl, hafter⟩

/-- A text that is a number, quotes apart, holds no colon. -/
theorem no_colon {text : List UInt8} {n : Nat} (h : unquoted text = decimal n) : 58 ∉ text := by
  intro hmem
  have hkept : 58 ∈ unquoted text := List.mem_filter.mpr ⟨hmem, by decide⟩
  rw [h] at hkept
  exact (decimal_plain hkept).2 rfl

/-- **What the parser accepts.**  A header that gets to HDR_DONE was a text up
to the first colon, a block and a comma; the pairs are those of exactly that
block, and nothing behind the comma has been read.  Where the text is, quotes
apart, a plain decimal number that fits the length field, HDR_DONE is reached
if and only if that many bytes and a comma follow the colon, and the block is
these bytes. -/
theorem header_accepts (fd : Nat) (stream : List UInt8) (r : HNSCGIRR × Socket)
    (h : DeliveredInFull fd stream r) :
    (r.1.rxState = .hdrDone → ∃ text block, 58 ∉ text ∧
      stream = text ++ 58 :: (block ++ 44 :: r.2.bytes) ∧ r.1.request = parsedRequest block) ∧
    ∀ text n after, stream = text ++ 58 :: after → unquoted text = decimal n → n < 2 ^ 32 →
      (r.1.rxState = .hdrDone ↔ ∃ block rest, after = block ++ 44 :: rest ∧ block.length = n) ∧
      ∀ block rest, after = block ++ 44 :: rest → block.length = n →
        r.1.request = parsedRequest block ∧ r.2.bytes = rest := by
  have hlength : ∀ {text : List UInt8} {n : Nat}, unquoted text = decimal n → n < 2 ^ 32 →
      (narrow32 (strtol (unquoted text))).toNat = n := by
    intro text n htext hn
    rw [htext]
    exact parsedLen_toNat hn
  -- the part of the stream in front of the first colon is the text
  have hsplit : ∀ text n after, stream = text ++ 58 :: after → unquoted text = decimal n →
      n < 2 ^ 32 → r.1.rxState = .hdrDone →
      ∃ block, after = block ++ 44 :: r.2.bytes ∧ block.length = n ∧
        r.1.request = parsedRequest block := by
    intro text n after hstream htext hn hdone
    obtain ⟨text', block, hcolon, hstream', hlen, hreq⟩ := h.of_done hdone
    obtain ⟨rfl, rfl⟩ := colon_unique hcolon (no_colon htext) (hstream'.symm.trans hstream)
    exact ⟨block, rfl, hlen.trans (hlength htext hn), hreq⟩
  have hdone : ∀ text n block rest, stream = text ++ 58 :: (block ++ 44 :: rest) →
      unquoted text = decimal n → n < 2 ^ 32 → block.length = n → r.1.rxState = .hdrDone := by
    intro text n block rest hstream htext hn hlen
    exact h.done (reads_done_iff.mpr ⟨text, block, no_colon htext, hstream, rfl,
      hlen.trans (hlength htext hn).symm, rfl⟩)
  refine ⟨?_, ?_⟩
  · intro hstate
    obtain ⟨text, block, hcolon, hstream, -, hreq⟩ := h.of_done hstate
    exact ⟨text, block, hcolon, hstream, hreq⟩
  · intro text n after hstream htext hn
    refine ⟨⟨?_, ?_⟩, ?_⟩
    · intro hstate
      obtain ⟨block, hafter, hlen, -⟩ := hsplit text n after hstream htext hn hstate
      exact ⟨block, _, hafter, hlen⟩
    · rintro ⟨block, rest, rfl, hlen⟩
      exact hdone text n block rest hstream htext hn hlen
    · rintro block rest rfl hlen
      obtain ⟨block', hafter, hlen', hreq⟩ := hsplit text n _ hstream htext hn
        (hdone text n block rest hstream htext hn hlen)
      obtain ⟨rfl, hrest⟩ := List.append_inj hafter (hlen.trans hlen'.symm)
      exact ⟨hreq, ((List.cons.inj hrest).2).symm⟩

/-- A stream that waits on a non-blocking socket. -/
def waiting (stream : List UInt8) : Socket := { pieces := [stream], nonblocking := true }

/-- A header that is complete. -/
theorem header_accepts_sample :
    ((HNSCGIRR.new 7).recvData (waiting sampleStream)).2.1.rxState = .hdrDone ∧
      ((HNSCGIRR.new 7).recvData (waiting sampleStream)).2.2.bytes = lit "x" := by
  have haccepts := (header_accepts 7 sampleStream _ (.atOnce true)).2 (lit "4") 4
    (lit "A" ++ [0] ++ lit "b" ++ [0] ++ lit ",x") (by decide) (by decide +kernel) (by decide)
  exact ⟨haccepts.1.mpr ⟨lit "A" ++ [0] ++ lit "b" ++ [0], lit "x", by decide, by decide⟩,
    (haccepts.2 (lit "A" ++ [0] ++ lit "b" ++ [0]) (lit "x") (by decide) (by decide)).2⟩

/-! ## §4. What is no netstring. -/

/-- The number some decimal digits denote. -/
def denoted (digits : List UInt8) : Nat := digits.foldl (fun n c => n * 10 + (c.toNat - 48)) 0

/-- The stream begins with decimal digits, a colon, as many bytes as the digits
denote, and a comma. -/
def BeginsWithNetstring (stream block : List UInt8) : Prop :=
  ∃ digits rest, digits ≠ [] ∧ (∀ c ∈ digits, 48 ≤ c ∧ c ≤ 57) ∧
    stream = digits ++ 58 :: (block ++ 44 :: rest) ∧ block.length = denoted digits

/-- A length in quotes: the length 0, a colon and a comma. -/
def quotedLength : List UInt8 := [34, 48, 34, 58, 44]

/-- **A quoted length is accepted**, although no netstring begins with one. -/
theorem quoted_length_accepted :
    DeliveredInFull 7 quotedLength
        ((HNSCGIRR.new 7).recvData (waiting quotedLength)).2 ∧
      ¬ (((HNSCGIRR.new 7).recvData (waiting quotedLength)).2.1.rxState = .hdrDone ↔
        ∃ block, BeginsWithNetstring quotedLength block) := by
  refine ⟨.atOnce true, ?_⟩
  intro hiff
  obtain ⟨block, digits, rest, hne, hdigits, hstream, -⟩ := hiff.mp (by decide +kernel)
  cases digits with
  | nil => exact hne rfl
  | cons c cs =>
    -- the first byte is the quote
    obtain ⟨rfl, -⟩ := List.cons.inj hstream
    exact absurd (hdigits 34 (by simp)).1 (by decide)

end HNodeMgmt.Scgi
