/-
  HNodeMgmt.Scgi.Response — a response on its way to the client.

  `runSCGILoop` takes a record from its queue, writes the headers of the
  response to the client's stream, and moves the content chunk by chunk for as
  long as there is some.  What the client sees is what has been pushed to the
  socket: the headers at once, the content by a flush when the last chunk is
  moved, which is not the end of the source but the end of what is announced.

  Main results:
    * `readReply_text` — a response is read as it was written.
    * `moves_pushed` — nothing that was moved stays in the buffer.
    * `response_read` — the client reads the status, the reason, the fields and
      the announced content, and nothing else.
-/
import Mathlib.Tactic.Common
import HNodeMgmt.Scgi.ResponseHeaders
import HNodeMgmt.Scgi.Transfer

namespace HNodeMgmt.Scgi

open Lib

/-! ## §1. The loop of the sink. -/

/-- The lines of `runSCGILoop` for a response that is taken from the queue, up to
the end of its connection. -/
def Transfer.sendResponse (fuel : Nat) (t : Transfer) : Option (HNSSResult × Transfer) :=
  let (status, sink) := t.msg.sendSCGIResponseHeaders t.sink
  Transfer.transferLoop fuel (status, { t with sink })

/-! ## §2. The client. -/

/-- What a client gets to know. -/
structure Reply where
  status : Nat
  reason : Str
  fields : List (Str × Str)
  body : List UInt8
  deriving DecidableEq, Repr

/-- What stands behind the first empty line. -/
def readBody (text : List UInt8) : List UInt8 :=
  [10].intercalate (((text.splitOn 10).dropWhile (· ≠ [13])).drop 1)

/-- A client reads the header lines, of which the first is the Status: a number,
a blank, and the reason. -/
def readReply (text : List UInt8) : Option Reply :=
  match readHeaders text with
  | [] => none
  | (name, status) :: fields =>
    if name = lit "Status" then
      some
        { status := decimalValue (status.takeWhile (· ≠ 32))
          reason := (status.dropWhile (· ≠ 32)).drop 1
          fields, body := readBody text }
    else none

/-- A message whose reason and whose fields stand on one line each. -/
def PlainMsg (msg : HNSCGIMsg) : Prop :=
  10 ∉ msg.reason ∧ ∀ field ∈ msg.paramMap.toList, PlainField field

/-- The message, and this content. -/
def replyOf (msg : HNSCGIMsg) (body : List UInt8) : Reply :=
  { status := msg.statusCode.toNat, reason := msg.reason, fields := msg.paramMap.toList, body }

/-- The lines up to an empty one are not in the body, and everything behind it is. -/
theorem readBody_lines (rest : List UInt8) : ∀ {fields : List (Str × Str)},
    (∀ field ∈ fields, PlainField field) →
      readBody (fields.flatMap HNSCGIMsg.headerLine ++ 13 :: 10 :: rest) = rest
  | [], _ => by
      have hempty : ([13] ++ 10 :: rest).splitOn 10 = [13] :: rest.splitOn 10 :=
        List.splitOn_append_cons_self_of_not_mem (by decide) rest
      unfold readBody
      rw [List.flatMap_nil, List.nil_append, show 13 :: 10 :: rest = [13] ++ 10 :: rest from rfl,
        hempty, List.dropWhile_cons_of_neg (by decide)]
      exact List.intercalate_splitOn 10
  | field :: fields, h => by
      obtain ⟨-, hname, hvalue⟩ := h field List.mem_cons_self
      have hline : 10 ∉ lineText field := by
        simp [lineText, hname, hvalue]
      -- a line with a field is not empty
      have hlong : lineText field ≠ [13] := by
        intro heq
        have hlength := congrArg List.length heq
        simp only [lineText, List.length_append, List.length_cons, List.length_nil] at hlength
        omega
      have ih := readBody_lines rest fun field hfield => h field (List.mem_cons_of_mem _ hfield)
      unfold readBody at ih ⊢
      rw [List.flatMap_cons, headerLine_eq, List.append_assoc, List.append_assoc,
        List.singleton_append, List.splitOn_append_cons_self_of_not_mem hline,
        List.dropWhile_cons, if_pos (decide_eq_true hlong)]
      exact ih

/-- The number of a status and its reason. -/
theorem status_read (n : Nat) (reason : Str) :
    decimalValue ((decimal n ++ 32 :: reason).takeWhile (· ≠ 32)) = n ∧
      ((decimal n ++ 32 :: reason).dropWhile (· ≠ 32)).drop 1 = reason := by
  have hdigits : ∀ c ∈ decimal n, decide (c ≠ 32) = true := by
    intro c hc
    have hlow := (decimal_digit hc).1
    exact decide_eq_true fun heq => absurd (heq ▸ hlow) (by decide)
  rw [List.takeWhile_append_of_pos hdigits, List.dropWhile_append_of_pos hdigits,
    List.takeWhile_cons_of_neg (by decide), List.dropWhile_cons_of_neg (by decide),
    List.append_nil]
  exact ⟨decimalValue_decimal n, rfl⟩

/-- The Status line is plain when the reason is. -/
theorem responseFields_plain {msg : HNSCGIMsg} (hplain : PlainMsg msg) :
    ∀ field ∈ msg.responseFields, PlainField field := by
  have hstatus : 58 ∉ lit "Status" ∧ 10 ∉ lit "Status" := by decide +kernel
  intro field hmem
  rcases List.mem_cons.mp hmem with rfl | hmem
  · refine ⟨hstatus.1, hstatus.2, ?_⟩
    show 10 ∉ decimal msg.statusCode.toNat ++ 32 :: msg.reason
    simp [decimal_plain_line, hplain.1]
  · exact hplain.2 field hmem

/-- **A response is read as it was written.** -/
theorem readReply_text {msg : HNSCGIMsg} (hplain : PlainMsg msg) (body : List UInt8) :
    readReply (msg.responseFields.flatMap HNSCGIMsg.headerLine ++ 13 :: 10 :: body) =
      some (replyOf msg body) := by
  obtain ⟨hnumber, hreason⟩ := status_read msg.statusCode.toNat msg.reason
  unfold readReply
  rw [readHeaders_lines body (responseFields_plain hplain),
    readBody_lines body (responseFields_plain hplain)]
  show (if lit "Status" = lit "Status" then _ else _) = _
  rw [if_pos rfl, hnumber, hreason]
  rfl

/-! ## §3. What is moved is pushed on. -/

namespace Transfer

/-- The sink takes every byte, and a loop that is through, or has nothing left to
move, has left nothing in its buffer. -/
def Pushed (st : HNSSResult × Transfer) : Prop :=
  ∀ os, st.2.sink = some os → os.TakesAll ∧
    (st.1 = .msgComplete ∨ st.2.remaining = some 0 → os.flushed = os.written)

/-- What a turn ends with is flushed. -/
theorem pushed_flush {t : Transfer} {os : OStream} {bytes : List UInt8} (htakes : os.TakesAll)
    (hsink : t.sink = some (os.write bytes)) : Pushed (.msgComplete, t.flush) := by
  intro os' hflushed
  rw [flush_sink, hsink] at hflushed
  obtain rfl := Option.some.inj hflushed
  refine ⟨(htakes.write bytes).flush, fun _ => ?_⟩
  rw [OStream.flush_flushed (htakes.write bytes).good, OStream.flush_written]

/-- One turn of the loop, where the source is good. -/
theorem pushed_turn {start : OStream} {total rest : List UInt8} {st : HNSSResult × Transfer}
    (hcopying : Copying start total rest st) (hguard : hasContent st = true) (h : Pushed st) :
    Pushed (nextChunk st) := by
  obtain ⟨is, os, hsource, hsink, hstate⟩ := hcopying.streams
  obtain ⟨htakes, hpushed⟩ := h os hsink
  rcases hstate with ⟨-, hgood, hfaults, -, -⟩ | ⟨hdone, -, -⟩
  · have hcase := chunk_taken hsource hsink
    unfold nextChunk
    generalize st.2.xferContentChunk = next at hcase ⊢
    cases hcase with
    | idle hremaining =>
      -- there is no flush here, but then the header was all there is
      intro os' hsink'
      obtain rfl := Option.some.inj (hsink.symm.trans hsink')
      exact ⟨htakes, fun _ => hpushed (.inr hremaining)⟩
    | ended t' _ heof => cases (IStream.good_iff.mp hgood).1.symm.trans heof
    | fails t' is' os' _ _ hfails => exact absurd (hfaults 0) (hfails hgood)
    | short t' is' _ _ _ _ _ _ hsink' => exact pushed_flush htakes hsink'
    | full t' hremaining _ _ _ _ hsink' hless =>
      by_cases hlast : t'.remaining = some 0
      · rw [if_pos hlast]
        exact pushed_flush htakes hsink'
      · rw [if_neg hlast]
        intro os' hsome
        obtain rfl := Option.some.inj (hsink'.symm.trans hsome)
        refine ⟨htakes.write _, fun hdone => ?_⟩
        rcases hdone with hcomplete | hnone
        · cases hcomplete
        · exact absurd hnone hlast
  · rw [hasContent, hdone] at hguard
    cases hguard

/-- **What is announced is moved and pushed on**, to a sink that takes every byte and
has nothing in its buffer. -/
theorem moves_pushed (t : Transfer) (is : IStream) (os : OStream)
    (hsource : t.source = some is) (hsink : t.sink = some os) (hmoved : t.contentMoved = 0)
    (hgood : is.good = true) (hfaults : ∀ i, is.faults i = none) (htakes : os.TakesAll)
    (hflushed : os.flushed = os.written) :
    ∃ fuel t' os', transferLoop fuel (.msgContent, t) = some (.msgComplete, t') ∧
      t'.sink = some os' ∧ os'.flushed = os.written ++ wanted (announced t.msg) is.content := by
  have hremaining := remaining_announced hmoved
  have hstart : Copying os (wanted (announced t.msg) is.content)
      (leftOver (announced t.msg) is.content) (.msgContent, t) :=
    ⟨is, os, hsource, hsink, .inl ⟨rfl, hgood, hfaults,
      ⟨[], (OStream.write_nil os).symm, by rw [hremaining]; rfl⟩, by rw [hremaining]⟩⟩
  have hpushed : Pushed (.msgContent, t) := by
    intro os' hsink'
    obtain rfl := Option.some.inj (hsink.symm.trans hsink')
    exact ⟨htakes, fun _ => hflushed⟩
  have hturn : ∀ {start total rest} u, Copying start total rest u ∧ Pushed u →
      hasContent u = true → (Copying start total rest (nextChunk u) ∧ Pushed (nextChunk u)) ∧
        (hasContent (nextChunk u) = true → (nextChunk u).2.readsLeft < u.2.readsLeft) := by
    intro _ _ _ u hu hguard
    obtain ⟨hnext, hless⟩ := copying_turn hu.1 hguard
    exact ⟨⟨hnext, pushed_turn hu.1 hguard hu.2⟩, hless⟩
  obtain ⟨fuel, st, hloop, ⟨hcopying, hpushed⟩, hdone⟩ :=
    whileLoop_total (fun st : HNSSResult × Transfer => st.2.readsLeft) hturn _
      ⟨hstart, hpushed⟩
  obtain ⟨is', os', -, hsink', hstate⟩ := hcopying.streams
  rcases hstate with ⟨hcontent, -⟩ | ⟨hcomplete, hwritten, -⟩
  · rw [hasContent, hcontent] at hdone
    cases hdone
  · refine ⟨fuel, st.2, os', ?_, hsink', ?_⟩
    · rw [← hcomplete]
      exact hloop
    · rw [(hpushed os' hsink').2 (.inl hcomplete), hwritten, htakes.written]

end Transfer

/-! ## §4. What the client reads. -/

/-- The content of a response: what is announced of its source, or all of that
when nothing is announced, and nothing without a source. -/
def Transfer.content (t : Transfer) : List UInt8 :=
  (t.source.map fun is => Transfer.wanted (Transfer.announced t.msg) is.content).getD []

/-- There is no source, or one that delivers without an error. -/
def Transfer.SourceReady (t : Transfer) : Prop :=
  ∀ is, t.source = some is → is.good = true ∧ ∀ i, is.faults i = none

/-- The client of this stream gets a reply, behind what it had. -/
def Transfer.Gives (t : Transfer) (client : OStream) (reply : Reply) : Prop :=
  ∃ fuel st os text, t.sendResponse fuel = some st ∧ st.2.sink = some os ∧
    os.flushed = client.written ++ text ∧ readReply text = some reply

/-- Every client whose stream takes all that is written to it gets this reply. -/
def Response.Reads (rsp : Response) (reply : Reply) : Prop :=
  ∀ client : OStream, client.TakesAll → (rsp.transfer client).Gives client reply

/-- **The client reads the response**: the status, the reason, the fields of the
map and the content, each as it stands in the message, and nothing behind it.
Its stream has to take every byte. -/
theorem response_read {t : Transfer} {client : OStream} (hsink : t.sink = some client)
    (htakes : client.TakesAll) (hmoved : t.contentMoved = 0) (hplain : PlainMsg t.msg)
    (hready : t.SourceReady) :
    t.Gives client (replyOf t.msg t.content) := by
  -- the headers are pushed on before any content
  let header := t.msg.responseFields.flatMap HNSCGIMsg.headerLine ++ [13, 10]
  have hheader : t.msg.sendSCGIResponseHeaders t.sink =
      (.msgContent, some (client.write header).flush) := by
    rw [hsink]
    rfl
  have hwritten : (client.write header).flush.written = client.written ++ header := by
    rw [OStream.flush_written, htakes.written]
  have hflushed : (client.write header).flush.flushed = client.written ++ header := by
    rw [OStream.flush_flushed (htakes.write header).good, htakes.written]
  have htext : ∀ body : List UInt8, header ++ body =
      t.msg.responseFields.flatMap HNSCGIMsg.headerLine ++ 13 :: 10 :: body := by
    intro body
    exact List.append_assoc _ _ _
  cases hsource : t.source with
  | none =>
    -- the first chunk is refused, and that ends it
    have hrefused : Transfer.nextChunk
        (.msgContent, { t with sink := some (client.write header).flush }) =
        (.failure, { t with sink := some (client.write header).flush }) := by
      simp only [Transfer.nextChunk, Transfer.xferContentChunk, hsource]
    refine ⟨2, (.failure, { t with sink := some (client.write header).flush }),
      (client.write header).flush, header ++ [], ?_, rfl, ?_, ?_⟩
    · rw [Transfer.sendResponse, hheader]
      show Transfer.transferLoop 2 (.msgContent, { t with sink := _ }) = _
      rw [Transfer.transferLoop, whileLoop_turn rfl, hrefused]
      exact whileLoop_done rfl 0
    · rw [List.append_nil]
      exact hflushed
    · rw [htext, readReply_text hplain, Transfer.content, hsource]
      rfl
  | some is =>
    obtain ⟨hgood, hfaults⟩ := hready is hsource
    obtain ⟨fuel, t', os, hloop, hsink', hpushed⟩ := Transfer.moves_pushed
      { t with sink := some (client.write header).flush } is _ hsource rfl hmoved hgood hfaults
      (htakes.write header).flush (hflushed.trans hwritten.symm)
    refine ⟨fuel, (.msgComplete, t'), os, header ++ t.content, ?_, hsink', ?_, ?_⟩
    · rw [Transfer.sendResponse, hheader]
      exact hloop
    · rw [hpushed, hwritten, List.append_assoc, Transfer.content, hsource]
      rfl
    · rw [htext, readReply_text hplain]

/-- A response is read in one way only. -/
theorem Response.Reads.unique {rsp : Response} {reply reply' : Reply} (h : rsp.Reads reply)
    (h' : rsp.Reads reply') : reply = reply' := by
  obtain ⟨fuel, st, os, text, hsent, hsink, hflushed, hread⟩ := h .fresh .fresh
  obtain ⟨fuel', st', os', text', hsent', hsink', hflushed', hread'⟩ := h' .fresh .fresh
  obtain rfl := whileLoop_unique hsent hsent'
  obtain rfl := Option.some.inj (hsink.symm.trans hsink')
  obtain rfl := List.append_cancel_left (hflushed.symm.trans hflushed')
  exact Option.some.inj (hread.symm.trans hread')

end HNodeMgmt.Scgi
