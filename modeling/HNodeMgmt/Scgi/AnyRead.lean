/-
  HNodeMgmt.Scgi.AnyRead — the parser with any answers to its reads.

  A socket answers all the reads that find nothing in one way.  Here the parser
  reads from a script: its reads get the answers of a list, whatever these are,
  and every read that is made is noted down.

  Main results:
    * `call_outcome` — what a call can come to, with any answers.
-/
import Mathlib.Tactic.Common
import HNodeMgmt.Scgi.Decode

namespace HNodeMgmt.Scgi

open Lib HeaderState

/-! ## §1. Scripts. -/

/-- A read that was made: how many bytes it asked for, and its answer. -/
structure ReadCall where
  count : Nat
  answer : Option (List UInt8)
  deriving DecidableEq, Repr

/-- The bytes it got. -/
def ReadCall.bytes (call : ReadCall) : List UInt8 := call.answer.getD []

/-- It was answered by bytes, as long as it asked for any. -/
def ReadCall.Fed (call : ReadCall) : Prop :=
  ∃ bs, call.answer = some bs ∧ (0 < call.count → bs ≠ [])

/-- The answers the next reads get, and the reads that have been made. -/
structure Script where
  answers : List (Option (List UInt8))
  made : List ReadCall

/-- The next answer, of as many bytes as were asked for at most; when the
answers are used up, nothing is found. -/
def Script.read (script : Script) (count : Nat) : Option (List UInt8) × Script :=
  let answer := (script.answers.headD (some [])).map fun bs => bs.take count
  (answer, { answers := script.answers.tail, made := script.made ++ [ReadCall.mk count answer] })

instance : ReadEnd Script :=
  { read := Script.read, patience := fun script => script.answers.length + 1 }

/-! ## §2. What some reads do. -/

/-- The bytes some reads got. -/
def readBytes (calls : List ReadCall) : List UInt8 := calls.flatMap ReadCall.bytes

theorem readBytes_append (calls more : List ReadCall) :
    readBytes (calls ++ more) = readBytes calls ++ readBytes more := List.flatMap_append

/-- Reads that meet `p` take the reader from one state to another. -/
def Goes (p : ReadCall → Prop) (st : HeaderState) (script : Script) (st' : HeaderState)
    (script' : Script) : Prop :=
  ∃ calls, script'.made = script.made ++ calls ∧ (∀ call ∈ calls, p call) ∧
    Reads headerReader st (readBytes calls) st' []

variable {fd : Nat} {script script' script₁ : Script} {st st' st₁ : HeaderState}
  {p q : ReadCall → Prop}

theorem Goes.refl (p : ReadCall → Prop) (st : HeaderState) (script : Script) :
    Goes p st script st script :=
  ⟨[], (List.append_nil _).symm, fun _ h => absurd h List.not_mem_nil, Reads.refl⟩

theorem Goes.trans (h₁ : Goes p st script st₁ script₁) (h₂ : Goes p st₁ script₁ st' script') :
    Goes p st script st' script' := by
  obtain ⟨calls₁, hmade₁, hp₁, hreads₁⟩ := h₁
  obtain ⟨calls₂, hmade₂, hp₂, hreads₂⟩ := h₂
  refine ⟨calls₁ ++ calls₂, ?_, ?_, ?_⟩
  · rw [hmade₂, hmade₁, List.append_assoc]
  · intro call hcall
    rcases List.mem_append.mp hcall with hcall | hcall
    · exact hp₁ call hcall
    · exact hp₂ call hcall
  · rw [readBytes_append]
    exact (hreads₁.append (readBytes calls₂)).trans hreads₂

theorem Goes.mono (h : Goes p st script st' script') (hpq : ∀ call, p call → q call) :
    Goes q st script st' script' := by
  obtain ⟨calls, hmade, hp, hreads⟩ := h
  exact ⟨calls, hmade, fun call hcall => hpq call (hp call hcall), hreads⟩

/-- One read. -/
theorem Goes.single {count : Nat} {answer : Option (List UInt8)}
    (hmade : script'.made = script.made ++ [ReadCall.mk count answer])
    (hp : p (ReadCall.mk count answer))
    (hreads : Reads headerReader st (answer.getD []) st' []) : Goes p st script st' script' := by
  refine ⟨[ReadCall.mk count answer], hmade, ?_, ?_⟩
  · intro call hcall
    rwa [List.mem_singleton.mp hcall]
  · simpa [readBytes, ReadCall.bytes] using hreads

/-- A read is noted down, and gets as many bytes as it asked for at most. -/
theorem read_script (script : Script) (count : Nat) :
    ∃ answer script', ReadEnd.read script count = (answer, script') ∧
      script'.made = script.made ++ [ReadCall.mk count answer] ∧
      ∀ bs, answer = some bs → bs.length ≤ count := by
  refine ⟨_, _, rfl, rfl, ?_⟩
  intro bs hbs
  obtain ⟨all, -, rfl⟩ := Option.map_eq_some_iff.mp hbs
  exact List.length_take_le count all

/-- A read of one byte gets an error, nothing, or one byte, which was an answer
to come. -/
theorem read_byte (script : Script) :
    ∃ answer script', ReadEnd.read script 1 = (answer, script') ∧
      script'.made = script.made ++ [ReadCall.mk 1 answer] ∧
      (answer = none ∨ answer = some [] ∨
        ∃ c, answer = some [c] ∧ script'.answers.length < script.answers.length) := by
  obtain ⟨answers, made⟩ := script
  refine ⟨_, _, rfl, rfl, ?_⟩
  cases answers with
  | nil => exact .inr (.inl rfl)
  | cons answer answers =>
    cases answer with
    | none => exact .inl rfl
    | some bs =>
      cases bs with
      | nil => exact .inr (.inl rfl)
      | cons c cs => exact .inr (.inr ⟨c, rfl, Nat.lt_succ_self _⟩)

/-! ## §3. What a call does. -/

/-- What a run of the state loop comes to.  A request is ready only when every
read of the call was fed. -/
inductive CallOutcome (fd : Nat) (script : Script) (st : HeaderState) :
    HNSSResult × HNSCGIRR × Script → Prop
  | waiting {st' : HeaderState} {script' : Script}
      (goes : Goes (fun _ => True) st script st' script') (notFinal : st'.final = false) :
      CallOutcome fd script st (.success, st'.record fd, script')
  | ready {exp : UInt32} {request : HNSCGIMsg} {script' : Script}
      (goes : Goes ReadCall.Fed st script (.done exp request) script') :
      CallOutcome fd script st (.requestReady, (HeaderState.done exp request).record fd, script')
  | failed {rr : HNSCGIRR} {script' : Script} (error : rr.rxState = .error) :
      CallOutcome fd script st (.parseErr, rr, script')

theorem CallOutcome.prepend {r : HNSSResult × HNSCGIRR × Script}
    (hgoes : Goes ReadCall.Fed st script st₁ script₁) (h : CallOutcome fd script₁ st₁ r) :
    CallOutcome fd script st r := by
  cases h with
  | waiting goes notFinal => exact .waiting ((hgoes.mono fun _ _ => trivial).trans goes) notFinal
  | ready goes => exact .ready (hgoes.trans goes)
  | failed error => exact .failed error

/-- At the comma. -/
theorem comma_call (fuel : Nat) (exp : UInt32) (request : HNSCGIMsg) (script : Script) :
    CallOutcome fd script (.comma exp request)
      (((HeaderState.comma exp request).record fd).readHeadersLoop (fuel + 1)
        script) := by
  obtain ⟨answer, script', hread, hmade, hanswer⟩ := read_byte script
  rcases hanswer with rfl | rfl | ⟨c, rfl, -⟩
  · simp only [HNSCGIRR.readHeadersLoop, HNSCGIRR.readRequestHeaders,
      HNSCGIRR.consumeNetStrComma, hread, HeaderState.record]
    exact .failed rfl
  · have hgoes : Goes (fun _ => True) (.comma exp request) script (.comma exp request) script' :=
      Goes.single hmade trivial Reads.refl
    simp only [HNSCGIRR.readHeadersLoop, HNSCGIRR.readRequestHeaders,
      HNSCGIRR.consumeNetStrComma, hread, HeaderState.record]
    exact .waiting hgoes rfl
  · by_cases hc : c = 44
    · subst hc
      have hgoes : Goes ReadCall.Fed (.comma exp request) script
          (.done exp (request.setHeaderDone true)) script' :=
        Goes.single hmade ⟨[44], rfl, fun _ => List.cons_ne_nil _ _⟩ (Reads.single rfl)
      have h : CallOutcome fd script (.comma exp request) _ := .ready hgoes
      simpa [HNSCGIRR.readHeadersLoop, HNSCGIRR.readRequestHeaders,
        HNSCGIRR.consumeNetStrComma, hread, HeaderState.record, HNSCGIRR.new] using h
    · simp only [HNSCGIRR.readHeadersLoop, HNSCGIRR.readRequestHeaders,
        HNSCGIRR.consumeNetStrComma, hread, HeaderState.record, if_neg hc]
      exact .failed rfl

theorem extract_call (fuel : Nat) {exp : UInt32} {got : List UInt8}
    (hfull : got.length = exp.toNat) (script : Script) :
    CallOutcome fd script (gather exp got)
      (({ filling fd exp got with rxState := .hdrExtractPairs }).readHeadersLoop
        (fuel + 2) script) := by
  rw [loop_continue (block_extracted fd hfull script), gather_full (by omega)]
  exact comma_call fuel exp _ script

/-- Gathering the block, or what is left of it. -/
theorem fill_call (fuel : Nat) (exp : UInt32) {got : List UInt8} (hle : got.length ≤ exp.toNat)
    (script : Script) :
    CallOutcome fd script (gather exp got)
      ((filling fd exp got).readHeadersLoop (fuel + 3) script) := by
  obtain ⟨answer, script', hread, hmade, hlen⟩ := read_script script (exp.toNat - got.length)
  have hstate : (filling fd exp got).rxState = .hdrAccumulate := rfl
  cases answer with
  | none =>
    have hfill : (filling fd exp got).fillRequestHeaderBuffer script =
        (.parseErr, filling fd exp got, script') := by
      simp only [HNSCGIRR.fillRequestHeaderBuffer]
      rw [bytesLeft_filling hle, hread]
    simp only [HNSCGIRR.readHeadersLoop, HNSCGIRR.readRequestHeaders, hstate, hfill]
    exact .failed rfl
  | some bs =>
    have hbs := hlen bs rfl
    -- never more than was asked for, so the counter cannot pass the length
    have hsum : (got ++ bs).length ≤ exp.toNat := by
      rw [List.length_append]
      omega
    have hfill := fill_of_read fd hle hread
    have hreads : Reads headerReader (gather exp got) bs (gather exp (got ++ bs)) [] := by
      have hgather : Reads headerReader (gather exp got) (bs ++ []) (gather exp (got ++ bs)) [] :=
        reads_gather bs got [] (by rwa [← List.length_append])
      rwa [List.append_nil] at hgather
    by_cases hfull : (got ++ bs).length = exp.toNat
    · -- a read that completes the block was fed, or asked for nothing
      have hfed : ReadCall.Fed { count := exp.toNat - got.length, answer := some bs } := by
        refine ⟨bs, rfl, fun hpos hnil => ?_⟩
        rw [hnil, List.append_nil] at hfull
        have hzero : exp.toNat - got.length = 0 := by omega
        rw [hzero] at hpos
        exact absurd hpos (Nat.lt_irrefl 0)
      have hnum : UInt32.ofNat (got ++ bs).length = exp := by rw [hfull, UInt32.ofNat_toNat]
      rw [if_pos hnum] at hfill
      have hstep : (filling fd exp got).readRequestHeaders script =
          (.parseContinue, { filling fd exp (got ++ bs) with rxState := .hdrExtractPairs },
            script') := by
        simp only [HNSCGIRR.readRequestHeaders, hstate, hfill]
      rw [loop_continue hstep]
      exact (extract_call fuel hfull script').prepend (Goes.single hmade hfed hreads)
    · have hshort : (got ++ bs).length < exp.toNat := by omega
      have hnum : ¬ UInt32.ofNat (got ++ bs).length = exp := by
        intro heq
        have htoNat := filling_toNat hsum
        rw [heq] at htoNat
        omega
      rw [if_neg hnum] at hfill
      simp only [HNSCGIRR.readHeadersLoop, HNSCGIRR.readRequestHeaders, hstate, hfill]
      rw [← record_gather fd hshort]
      exact .waiting (Goes.single hmade trivial hreads) (gather_not_final _ _)

/-- The characters of the length.  The induction is on the fuel; a character
takes one of the answers. -/
theorem len_call (fd fuel : Nat) :
    ∀ (n : Nat) (digits : Str) (script : Script), script.answers.length < n →
      CallOutcome fd script (.len digits)
        (match HNSCGIRR.readNetStrLoop n ((HeaderState.len digits).record fd)
          script with
        | (.parseComplete, rr, script) =>
          ({ rr with
            headerBuf := some [], rcvHdrLen := 0
            rxState := .hdrAccumulate }).readHeadersLoop (fuel + 3) script
        | (.parseErr, rr, script) => (.parseErr, { rr with rxState := .error }, script)
        | (_, rr, script) => (.success, rr, script))
  | 0, _, _, h => absurd h (Nat.not_lt_zero _)
  | n + 1, digits, script, h => by
      obtain ⟨answer, script', hread, hmade, hanswer⟩ := read_byte script
      rw [HNSCGIRR.readNetStrLoop, hread]
      rcases hanswer with rfl | rfl | ⟨c, rfl, hlt⟩
      · exact .failed rfl
      · exact .waiting (Goes.single hmade trivial Reads.refl) rfl
      · have hgoes : Goes ReadCall.Fed (.len digits) script (HeaderState.step (.len digits) c)
            script' :=
          Goes.single hmade ⟨[c], rfl, fun _ => List.cons_ne_nil _ _⟩ (Reads.single rfl)
        have hless : script'.answers.length < n := by omega
        simp only
        by_cases hquote : c = 34
        · rw [if_pos hquote]
          rw [HeaderState.step, if_pos hquote] at hgoes
          exact (len_call fd fuel n digits script' hless).prepend hgoes
        by_cases hcolon : c = 58
        · rw [if_neg hquote, if_pos hcolon]
          rw [HeaderState.step, if_neg hquote, if_pos hcolon] at hgoes
          exact (fill_call fuel (narrow32 (strtol digits)) (Nat.zero_le _) script').prepend hgoes
        · rw [if_neg hquote, if_neg hcolon]
          rw [HeaderState.step, if_neg hquote, if_neg hcolon] at hgoes
          exact (len_call fd fuel n (digits ++ [c]) script' hless).prepend hgoes

/-- The loop over the states, from any of them in which it reads. -/
theorem loop_call (fuel : Nat) (st : HeaderState) (hst : st.final = false) (script : Script) :
    CallOutcome fd script st ((st.record fd).readHeadersLoop (fuel + 4) script) := by
  cases st with
  | len digits =>
    have h := len_call fd fuel (script.answers.length + 1) digits script (Nat.lt_succ_self _)
    have hfirst : ((HeaderState.len digits).record fd).rxState = .hdrNstrLen := rfl
    have hpatience : ReadEnd.patience script = script.answers.length + 1 := rfl
    simp only [HNSCGIRR.readHeadersLoop, HNSCGIRR.readRequestHeaders, hfirst,
      HNSCGIRR.readNetStrStart, hpatience]
    generalize HNSCGIRR.readNetStrLoop (script.answers.length + 1)
      ((HeaderState.len digits).record fd) script = r at h ⊢
    obtain ⟨result, rr, script'⟩ := r
    cases result <;> exact h
  | block exp got short =>
    rw [← gather_short short, record_gather fd short]
    exact fill_call (fuel + 1) exp (le_of_lt short) script
  | comma exp request => exact comma_call (fuel + 3) exp request script
  | done exp request => cases hst
  | bad exp request => cases hst

/-- **What a call comes to**, with any answers to its reads. -/
theorem call_outcome {rr : HNSCGIRR} (hholds : Holds fd rr st) (hst : st.final = false)
    (script : Script) :
    ∃ r, CallOutcome fd script st r ∧ rr.recvData script = (recvResult r.1, r.2) := by
  rcases hholds with rfl | ⟨rfl, rfl⟩
  · refine ⟨_, loop_call 1 st hst script, recvData_eq ?_ script⟩
    cases st with
    | done exp request => cases hst
    | _ => nofun
  · refine ⟨_, loop_call 0 (.len []) rfl script, ?_⟩
    rw [recvData_eq (by nofun) script]
    rfl

end HNodeMgmt.Scgi
