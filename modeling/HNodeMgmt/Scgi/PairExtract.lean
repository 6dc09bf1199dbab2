/-
  HNodeMgmt.Scgi.PairExtract — what the pair extractor makes of a buffer.

  `extractHeaderPairsFromBuffer` goes over the buffer once, byte by byte, with
  a name, a value and a flag that says which of them is being collected.  Its
  meaning has three stages: the quotes are deleted, the rest is cut into the
  strings that a NUL ends, and these are paired.

  Main results:
    * `extract_meaning` — on every buffer the pairs that are added are those of
      the three stages, in order.
-/
import Mathlib.Tactic.Common
import HNodeMgmt.Scgi.Parser

namespace HNodeMgmt.Scgi

open Lib

/-! ## §1. The three stages. -/

/-- The bytes of a string the parser keeps. -/
def unquoted (s : Str) : Str := s.filter (· != 34)

section Cut

variable {α : Type} [DecidableEq α]

/-- Something in front of the first of some strings, if there is one. -/
def prepend (front : List α) : List (List α) → List (List α)
  | [] => []
  | s :: rest => (front ++ s) :: rest

/-- The strings that are ended by a separator.  What comes after the last one is
dropped. -/
def cutAt (sep : α) : List α → List (List α)
  | [] => []
  | c :: cs => if c = sep then [] :: cutAt sep cs else prepend [c] (cutAt sep cs)

/-- Names and values in turn.  A last name without a value is dropped. -/
def pairUp : List α → List (α × α)
  | name :: value :: rest => (name, value) :: pairUp rest
  | _ => []

omit [DecidableEq α] in
theorem prepend_nil (strings : List (List α)) : prepend [] strings = strings := by
  cases strings <;> rfl

omit [DecidableEq α] in
theorem prepend_append (front more : List α) (strings : List (List α)) :
    prepend front (prepend more strings) = prepend (front ++ more) strings := by
  cases strings with
  | nil => rfl
  | cons s rest =>
    show (front ++ (more ++ s)) :: rest = (front ++ more ++ s) :: rest
    rw [List.append_assoc]

/-- A string with its separator is the first that is cut off. -/
theorem cutAt_append {sep : α} (rest : List α) :
    ∀ s : List α, sep ∉ s → cutAt sep (s ++ sep :: rest) = s :: cutAt sep rest
  | [], _ => if_pos rfl
  | c :: s, h => by
      have hc : c ≠ sep := fun heq => h (by simp [heq])
      have ih := cutAt_append rest s fun hmem => h (List.mem_cons_of_mem c hmem)
      rw [List.cons_append, cutAt, if_neg hc, ih]
      rfl

end Cut

/-! ## §2. The calls of the loop. -/

/-- The local variables of the loop, with the calls of `addSCGIRequestHeader`
it has made in place of the request. -/
structure PairCalls where
  curHdrName : Str
  curHdrValue : Str
  parsingName : Bool
  calls : List (Str × Str)

/-- One turn of the loop. -/
def PairCalls.next (s : PairCalls) (c : UInt8) : PairCalls :=
  if c = 34 then s
  else if c = 0 then
    if s.parsingName then { s with parsingName := false }
    else
      { curHdrName := [], curHdrValue := [], parsingName := true
        calls := s.calls ++ [(s.curHdrName, s.curHdrValue)] }
  else if s.parsingName then { s with curHdrName := s.curHdrName ++ [c] }
  else { s with curHdrValue := s.curHdrValue ++ [c] }

/-- The pairs the extractor passes to `addSCGIRequestHeader`, in order. -/
def extractCalls (block : List UInt8) : List (Str × Str) :=
  (block.foldl PairCalls.next
    { curHdrName := [], curHdrValue := [], parsingName := true, calls := [] }).calls

/-- All headers, one after the other. -/
def addHeaders (msg : HNSCGIMsg) (sent : List (Str × Str)) : HNSCGIMsg :=
  sent.foldl (fun msg p => msg.addSCGIRequestHeader p.1 p.2) msg

/-- The loop, which has made these calls on a request. -/
def PairCalls.scan (s : PairCalls) (request : HNSCGIMsg) : PairScan :=
  { curHdrName := s.curHdrName, curHdrValue := s.curHdrValue, parsingName := s.parsingName
    request := addHeaders request s.calls }

/-- A turn makes the call that is noted down. -/
theorem scan_next (request : HNSCGIMsg) (s : PairCalls) (c : UInt8) :
    (s.scan request).next c = (s.next c).scan request := by
  obtain ⟨name, value, parsingName, calls⟩ := s
  unfold PairScan.next PairCalls.next
  by_cases hquote : c = 34
  · rw [if_pos hquote, if_pos hquote]
  rw [if_neg hquote, if_neg hquote]
  by_cases hnul : c = 0
  · rw [if_pos hnul, if_pos hnul]
    cases parsingName with
    | true => rfl
    | false => simp [PairCalls.scan, addHeaders]
  · rw [if_neg hnul, if_neg hnul]
    cases parsingName <;> rfl

/-- The request of the code is the one these calls are made on. -/
theorem extractPairs_calls (request : HNSCGIMsg) (block : List UInt8) :
    extractPairs request block = addHeaders request (extractCalls block) := by
  have hfold : ∀ (block : List UInt8) (s : PairCalls),
      block.foldl PairScan.next (s.scan request) = (block.foldl PairCalls.next s).scan request := by
    intro block
    induction block with
    | nil => exact fun _ => rfl
    | cons c block ih =>
      intro s
      rw [List.foldl_cons, List.foldl_cons, scan_next, ih]
  exact congrArg PairScan.request
    (hfold block { curHdrName := [], curHdrValue := [], parsingName := true, calls := [] })

/-! ## §3. The loop and the stages. -/

/-- The strings that are open, in front of those that are still to come: a half
name, or a name and a half value. -/
def PairCalls.withOpen (s : PairCalls) (strings : List Str) : List Str :=
  if s.parsingName then prepend s.curHdrName strings
  else s.curHdrName :: prepend s.curHdrValue strings

/-- A value is collected only behind a name. -/
def PairCalls.Clean (s : PairCalls) : Prop := s.parsingName = true → s.curHdrValue = []

/-- **One turn**: what the calls and the open strings come to is unchanged. -/
theorem next_meaning {s : PairCalls} (h : s.Clean) (c : UInt8) (block : List UInt8) :
    (s.next c).Clean ∧
      (s.next c).calls ++ pairUp ((s.next c).withOpen (cutAt 0 (unquoted block))) =
        s.calls ++ pairUp (s.withOpen (cutAt 0 (unquoted (c :: block)))) := by
  obtain ⟨name, value, parsingName, calls⟩ := s
  unfold PairCalls.next
  by_cases hquote : c = 34
  · subst hquote
    rw [if_pos rfl]
    exact ⟨h, rfl⟩
  have hkeep : unquoted (c :: block) = c :: unquoted block :=
    List.filter_cons_of_pos (by simpa using hquote)
  rw [if_neg hquote, hkeep, cutAt]
  by_cases hnul : c = 0
  · rw [if_pos hnul, if_pos hnul]
    cases parsingName with
    | true =>
      -- the name is complete, and the value starts empty
      obtain rfl : value = [] := h rfl
      refine ⟨(fun hname => by cases hname), ?_⟩
      show calls ++ pairUp (name :: prepend [] _) = calls ++ pairUp ((name ++ []) :: _)
      rw [prepend_nil, List.append_nil]
    | false =>
      -- the pair is complete, and the next one starts empty
      refine ⟨fun _ => rfl, ?_⟩
      show calls ++ [(name, value)] ++ pairUp (prepend [] _) =
        calls ++ pairUp (name :: (value ++ []) :: _)
      rw [prepend_nil, List.append_nil, List.append_assoc]
      rfl
  · rw [if_neg hnul, if_neg hnul]
    cases parsingName with
    | true =>
      refine ⟨h, ?_⟩
      show calls ++ pairUp (prepend (name ++ [c]) _) =
        calls ++ pairUp (prepend name (prepend [c] _))
      rw [prepend_append]
    | false =>
      refine ⟨(fun hname => by cases hname), ?_⟩
      show calls ++ pairUp (name :: prepend (value ++ [c]) _) =
        calls ++ pairUp (name :: prepend value (prepend [c] _))
      rw [prepend_append]

/-- **All turns**, from any state of the loop. -/
theorem scan_meaning :
    ∀ (block : List UInt8) (s : PairCalls), s.Clean →
      (block.foldl PairCalls.next s).calls =
        s.calls ++ pairUp (s.withOpen (cutAt 0 (unquoted block)))
  | [], ⟨name, value, parsingName, calls⟩, _ => by
      cases parsingName <;> exact (List.append_nil calls).symm
  | c :: block, s, h => by
      obtain ⟨hclean, hmeaning⟩ := next_meaning h c block
      rw [List.foldl_cons, scan_meaning block (s.next c) hclean, hmeaning]

/-- What is passed on of a buffer. -/
theorem extractCalls_eq (block : List UInt8) :
    extractCalls block = pairUp (cutAt 0 (unquoted block)) := by
  have hscan := scan_meaning block
    { curHdrName := [], curHdrValue := [], parsingName := true, calls := [] } fun _ => rfl
  rw [extractCalls, hscan]
  show [] ++ pairUp (prepend [] _) = _
  rw [prepend_nil, List.nil_append]

/-- **The pair extractor on every buffer**: the pairs it passes to
`addSCGIRequestHeader` are the strings without quotes that a NUL ends, taken two
by two, and the request is what these calls make of it. -/
theorem extract_meaning :
    (∀ block : List UInt8, extractCalls block = pairUp (cutAt 0 (unquoted block))) ∧
      ∀ rr : HNSCGIRR, rr.extractHeaderPairsFromBuffer =
        (.parseComplete, { rr with
          request := addHeaders rr.request
            (extractCalls ((rr.headerBuf.getD []).take rr.rcvHdrLen.toNat)) }) := by
  refine ⟨extractCalls_eq, fun rr => ?_⟩
  show (_, { rr with request := extractPairs rr.request _ }) = _
  rw [extractPairs_calls]

/-- An empty name, an empty value, a quoted one, and a tail. -/
example : extractCalls (lit "\x00a\x00b\x00\x00\"c\"\x00d\"\x00e\x00f") =
    [(lit "", lit "a"), (lit "b", lit ""), (lit "c", lit "d")] := by decide +kernel

end HNodeMgmt.Scgi
