/-
  HNodeMgmt.Scgi.ContentLength — the content length of a message.

  Five writers put entries into the header map of a message: the pairs of the
  SCGI layer, plain headers, the two setters, and the configAs operations.  The
  map compares names byte for byte and keeps the first value of a name.  The
  transfer of the content and the proxy look for the one name "Content-Length".

  Main results:
    * `one_content_length` — whatever is done to a message, its map has at most
      one such key, spelled so, with the first length supplied since the last
      clear.
-/
import Mathlib.Tactic.Common
import HNodeMgmt.Scgi.Decode
import HNodeMgmt.Scgi.Transfer

namespace HNodeMgmt.Scgi

open Lib

/-! ## §1. What is done to the headers of a message. -/

/-- An operation on the headers, with its arguments. -/
inductive HdrOp where
  | addSCGIRequestHeader (name value : Str)
  | addHdrPair (name value : Str)
  | setContentLength (length : UInt32)
  | setContentType (typeStr : Str)
  | clearHeaders
  | configAsNotImplemented
  | configAsNotFound
  | configAsInternalServerError
  deriving DecidableEq, Repr

namespace HdrOp

/-- The call on a message. -/
def apply (msg : HNSCGIMsg) : HdrOp → HNSCGIMsg
  | addSCGIRequestHeader name value => msg.addSCGIRequestHeader name value
  | addHdrPair name value => msg.addHdrPair name value
  | setContentLength length => msg.setContentLength length
  | setContentType typeStr => msg.setContentType typeStr
  | clearHeaders => msg.clearHeaders
  | configAsNotImplemented => msg.configAsNotImplemented
  | configAsNotFound => msg.configAsNotFound
  | configAsInternalServerError => msg.configAsInternalServerError

/-- The calls on a new message, in order. -/
def run (ops : List HdrOp) : HNSCGIMsg := ops.foldl apply HNSCGIMsg.new

/-- The operation empties the map first. -/
def clears : HdrOp → Bool
  | clearHeaders => true
  | configAsNotImplemented => true
  | configAsNotFound => true
  | configAsInternalServerError => true
  | _ => false

/-- The content length the operation supplies: under either name, in any
capitals, when it comes from the SCGI layer. -/
def supplies : HdrOp → Option Str
  | addSCGIRequestHeader name value =>
    if icompareEq name (lit "Content-Length") || icompareEq name (lit "CONTENT_LENGTH")
    then some value else none
  | addHdrPair name value => if icompareEq name (lit "Content-Length") then some value else none
  | setContentLength length => some (decimal length.toNat)
  | setContentType _ => none
  | clearHeaders => none
  | configAsNotImplemented => some (lit "0")
  | configAsNotFound => some (lit "0")
  | configAsInternalServerError => some (lit "0")

/-- The operations from the last one that clears on. -/
def sinceClear : List HdrOp → List HdrOp
  | [] => []
  | op :: ops => if ops.any clears then sinceClear ops else op :: ops

/-- The first content length supplied since then. -/
def supplied (ops : List HdrOp) : Option Str := (sinceClear ops).findSome? supplies

/-! ## §2. One operation. -/

/-- The entry the operation inserts, after it has cleared. -/
def entry : HdrOp → Option (Str × Str)
  | addSCGIRequestHeader name value => headerOf (name, value)
  | addHdrPair name value =>
    some (if icompareEq name (lit "Content-Length") then lit "Content-Length" else name, value)
  | setContentLength length => some (lit "Content-Length", decimal length.toNat)
  | setContentType typeStr => some (lit "Content-Type", typeStr)
  | clearHeaders => none
  | configAsNotImplemented => some (lit "Content-Length", lit "0")
  | configAsNotFound => some (lit "Content-Length", lit "0")
  | configAsInternalServerError => some (lit "Content-Length", lit "0")

/-- The map an operation inserts into. -/
def base (msg : HNSCGIMsg) (op : HdrOp) : StrMap Str := if op.clears then ∅ else msg.paramMap

/-- **All that an operation does to the map.** -/
theorem apply_paramMap (msg : HNSCGIMsg) (op : HdrOp) :
    (op.apply msg).paramMap =
      match op.entry with
      | some e => (base msg op).insertIfNew e.1 e.2
      | none => base msg op := by
  cases op with
  | addSCGIRequestHeader name value =>
    show (msg.addSCGIRequestHeader name value).paramMap = _
    rw [addSCGIRequestHeader_eq]
    rfl
  | addHdrPair name value =>
    show (msg.addHdrPair name value).paramMap = _
    rw [addHdrPair_eq]
    rfl
  | setContentLength length => rfl
  | setContentType typeStr => rfl
  | clearHeaders => rfl
  | configAsNotImplemented => rfl
  | configAsNotFound => rfl
  | configAsInternalServerError => rfl

theorem contentType_other : ¬ icompareEq (lit "Content-Type") (lit "Content-Length") = true := by
  decide

/-- No header is inserted under another spelling. -/
theorem headerOf_spelled {p e : Str × Str} (h : headerOf p = some e)
    (hname : icompareEq e.1 (lit "Content-Length") = true) : e.1 = lit "Content-Length" := by
  unfold headerOf at h
  split at h
  next => cases h
  next =>
    split at h
    next =>
      -- a CGI variable: only two of them are translated
      split at h
      next =>
        obtain rfl := Option.some.inj h
        rfl
      next =>
        split at h
        next =>
          split at h
          next => cases h
          next =>
            obtain rfl := Option.some.inj h
            exact absurd hname contentType_other
        next => cases h
    next =>
      split at h
      next =>
        obtain rfl := Option.some.inj h
        rfl
      next hother =>
        obtain rfl := Option.some.inj h
        exact absurd hname hother

/-- No operation inserts a content length under another spelling. -/
theorem entry_spelled {op : HdrOp} {e : Str × Str} (h : op.entry = some e)
    (hname : icompareEq e.1 (lit "Content-Length") = true) : e.1 = lit "Content-Length" := by
  cases op with
  | addSCGIRequestHeader name value => exact headerOf_spelled h hname
  | addHdrPair name value =>
    obtain rfl := Option.some.inj h
    by_cases hcl : icompareEq name (lit "Content-Length") = true
    · exact if_pos hcl
    · rw [if_neg hcl] at hname
      exact absurd hname hcl
  | setContentType typeStr =>
    obtain rfl := Option.some.inj h
    exact absurd hname contentType_other
  | clearHeaders => cases h
  | _ =>
    obtain rfl := Option.some.inj h
    rfl

/-- What an operation supplies is what it inserts under that name. -/
theorem supplies_eq (op : HdrOp) :
    op.supplies = (op.entry.filter fun e => e.1 = lit "Content-Length").map Prod.snd := by
  cases op with
  | addSCGIRequestHeader name value =>
    have hname := headerOf_contentLength (name, value)
    show (if icompareEq name (lit "Content-Length") || icompareEq name (lit "CONTENT_LENGTH")
      then some value else none) = ((headerOf (name, value)).filter _).map Prod.snd
    rw [hname]
    cases h : headerOf (name, value) with
    | none => rfl
    | some e =>
      obtain ⟨key, _⟩ := e
      obtain rfl : _ = value := headerOf_value h
      by_cases hkey : key = lit "Content-Length"
      · simp [hkey]
      · simp [hkey]
  | addHdrPair name value =>
    by_cases hcl : icompareEq name (lit "Content-Length") = true
    · simp [supplies, entry, hcl]
    · have hne : name ≠ lit "Content-Length" := by
        intro h
        rw [h] at hcl
        exact hcl (by decide)
      simp [supplies, entry, hcl, hne]
  | setContentType typeStr =>
    have hne : lit "Content-Type" ≠ lit "Content-Length" := by decide
    simp [supplies, entry, hne]
  | clearHeaders => rfl
  | _ => simp [supplies, entry]

/-! ## §3. All operations. -/

/-- One operation more. -/
theorem sinceClear_snoc (op : HdrOp) :
    ∀ ops : List HdrOp,
      sinceClear (ops ++ [op]) = if op.clears then [op] else sinceClear ops ++ [op]
  | [] => by
      show (if ([] : List HdrOp).any clears then sinceClear [] else [op]) = _
      cases op.clears <;> rfl
  | first :: ops => by
      have ih := sinceClear_snoc op ops
      show (if (ops ++ [op]).any clears then sinceClear (ops ++ [op]) else first :: (ops ++ [op])) =
        _
      rw [ih, List.any_append]
      cases hop : op.clears with
      | true => simp [hop]
      | false =>
        cases hops : ops.any clears with
        | true => simp [sinceClear, hops]
        | false => simp [sinceClear, hops, hop]

/-- A length that was supplied stays until the map is cleared. -/
theorem supplied_snoc (ops : List HdrOp) (op : HdrOp) :
    supplied (ops ++ [op]) =
      if op.clears then op.supplies else (supplied ops).or op.supplies := by
  unfold supplied
  rw [sinceClear_snoc]
  cases op.clears with
  | true => simp
  | false => simp [List.findSome?_append]

/-- What holds of a message after some operations. -/
structure OneLength (ops : List HdrOp) (msg : HNSCGIMsg) : Prop where
  spelled : ∀ name ∈ msg.paramMap, icompareEq name (lit "Content-Length") = true →
    name = lit "Content-Length"
  value : msg.paramMap[lit "Content-Length"]? = supplied ops

/-- **Each operation keeps it.** -/
theorem oneLength_apply {ops : List HdrOp} {msg : HNSCGIMsg} (h : OneLength ops msg)
    (op : HdrOp) : OneLength (ops ++ [op]) (op.apply msg) := by
  -- the map that is inserted into: emptied, or as it was
  have hbase : ∀ name ∈ base msg op, icompareEq name (lit "Content-Length") = true →
      name = lit "Content-Length" := by
    unfold base
    split
    next => exact fun name hmem => absurd hmem Std.ExtTreeMap.not_mem_empty
    next => exact h.spelled
  have hvalue : (base msg op)[lit "Content-Length"]? =
      if op.clears then none else supplied ops := by
    unfold base
    split
    next => exact Std.ExtTreeMap.getElem?_empty
    next => exact h.value
  have hsupplied : supplied (ops ++ [op]) =
      ((base msg op)[lit "Content-Length"]?).or op.supplies := by
    rw [supplied_snoc, hvalue]
    cases op.clears <;> rfl
  have hmap := apply_paramMap msg op
  cases hentry : op.entry with
  | none =>
    rw [hentry] at hmap
    refine ⟨?_, ?_⟩
    · rw [hmap]
      exact hbase
    · rw [hmap, hsupplied, supplies_eq, hentry]
      exact (Option.or_none).symm
  | some e =>
    rw [hentry] at hmap
    refine ⟨?_, ?_⟩
    · intro name hmem hname
      rw [hmap, Std.ExtTreeMap.mem_insertIfNew] at hmem
      rcases hmem with heq | hmem
      · rw [Std.compare_eq_iff_eq] at heq
        subst heq
        exact entry_spelled hentry hname
      · exact hbase name hmem hname
    · rw [hmap, hsupplied, supplies_eq, hentry, OrdMap.get_insertIfNew]
      by_cases hkey : e.1 = lit "Content-Length"
      · by_cases hmem : e.1 ∈ base msg op
        · obtain ⟨v, hv⟩ := (OrdMap.mem_iff_get _ _).mp hmem
          rw [if_neg fun hc => hc.2 hmem, ← hkey, hv]
          rfl
        · have hnone := (OrdMap.not_mem_iff_get _ _).mp hmem
          rw [if_pos ⟨hkey, hmem⟩, ← hkey, hnone]
          simp
      · rw [if_neg fun hc => hkey hc.1]
        rw [Option.filter_some, if_neg (by simpa using hkey)]
        exact (Option.or_none).symm

/-- What holds after all of them. -/
theorem oneLength_run (ops : List HdrOp) : OneLength ops (run ops) := by
  induction ops using List.reverseRecOn with
  | nil => exact ⟨fun name hmem => absurd hmem Std.ExtTreeMap.not_mem_empty,
      Std.ExtTreeMap.getElem?_empty⟩
  | append_singleton ops op ih =>
    have hrun : run (ops ++ [op]) = op.apply (run ops) := by simp [run]
    rw [hrun]
    exact oneLength_apply ih op

/-- **There is one Content-Length and it is found.**  Of the keys of the map at
most one is equal to it in any capitals; it is spelled so, is there exactly when
a length was supplied since the last clear, and has the first one supplied.
`hasHeader` and `getContentLength` go by it. -/
theorem one_content_length (ops : List HdrOp) :
    (run ops).paramMap.keys.filter (icompareEq · (lit "Content-Length")) =
        (if (supplied ops).isSome then [lit "Content-Length"] else []) ∧
      (lit "Content-Length" ∈ (run ops).paramMap ↔
        ∃ op ∈ sinceClear ops, op.supplies.isSome = true) ∧
      (run ops).paramMap[lit "Content-Length"]? = supplied ops ∧
      (run ops).hasHeader (lit "Content-Length") = (supplied ops).isSome ∧
      (run ops).getContentLength =
        ((supplied ops).map fun value => narrow32 (strtol value)).getD 0 := by
  obtain ⟨hspelled, hvalue⟩ := oneLength_run ops
  have hmem : lit "Content-Length" ∈ (run ops).paramMap ↔ (supplied ops).isSome = true := by
    rw [OrdMap.mem_iff_get, hvalue, Option.isSome_iff_exists]
  refine ⟨?_, ?_, hvalue, ?_, ?_⟩
  · rw [← hvalue]
    exact OrdMap.filter_keys (p := (icompareEq · (lit "Content-Length"))) (by decide) hspelled
  · rw [hmem, supplied, List.findSome?_isSome_iff]
  · show decide (lit "Content-Length" ∈ (run ops).paramMap) = _
    cases hs : (supplied ops).isSome with
    | true => exact decide_eq_true (hmem.mpr hs)
    | false => exact decide_eq_false fun hin => by rw [hmem.mp hin] at hs; cases hs
  · unfold HNSCGIMsg.getContentLength
    rw [hvalue]
    cases supplied ops <;> rfl

end HdrOp

/-! ## §4. The length a client sends. -/

/-- The names of the header that is kept as the content length. -/
def isLength (p : Str × Str) : Bool :=
  icompareEq p.1 (lit "Content-Length") || icompareEq p.1 (lit "CONTENT_LENGTH")

/-- The value of the first of some headers that is kept as the content length. -/
def lengthAmong (pairs : List (Str × Str)) : Option Str := firstSent isLength (sentPairs pairs)

/-- `getContentLength` gives the number, and so many bytes are moved as the body. -/
def BodyLengthIs (msg : HNSCGIMsg) (n : Nat) : Prop :=
  msg.getContentLength.toNat = n ∧
    ∀ (t : Transfer) (is : IStream) (os : OStream), t.msg = msg → t.source = some is →
      t.sink = some os → t.contentMoved = 0 → is.good = true → (∀ i, is.faults i = none) →
      t.Moves is os (some n)

/-- When the digits are read as what they denote: they are the first length, and
no leading '0' makes them octal, unless that makes no difference; or an earlier
length says the same. -/
def ReadDecimally (before : List (Str × Str)) (value : Str) : Prop :=
  match lengthAmong before with
  | none => value.head? ≠ some 48 ∨ decimalValue value < 8
  | some earlier => (narrow32 (strtol earlier)).toNat = decimalValue value

/-- A string that is compared equal to one without quotes has none. -/
theorem unquoted_of_icompareEq {a b : Str} (h : icompareEq a b = true)
    (hb : b.contains 34 = false) : unquoted a = a := by
  have ha : a.contains 34 = false := by
    rw [contains_symbol (by decide) (by decide) h, hb]
  refine List.filter_eq_self.mpr fun c hc => ?_
  by_contra hquote
  obtain rfl : c = 34 := by simpa using hquote
  rw [List.contains_iff_mem.mpr hc] at ha
  cases ha

/-- Digits are kept as they are sent. -/
theorem unquoted_digits {value : Str} (h : ∀ c ∈ value, isDigit c = true) :
    unquoted value = value := by
  refine List.filter_eq_self.mpr fun c hc => ?_
  have hdigit := isDigit_iff.mp (h c hc)
  by_contra hquote
  obtain rfl : c = 34 := by simpa using hquote
  exact absurd hdigit.1 (by decide)

/-- The length a request has: an earlier one, or that of the header. -/
theorem parsed_length {before after : List (Str × Str)} {name value : Str}
    (hname : icompareEq name (lit "CONTENT_LENGTH") = true)
    (hdigits : ∀ c ∈ value, isDigit c = true)
    (hnul : NulFree (before ++ (name, value) :: after)) :
    (parsedRequest (encodePairs (before ++ (name, value) :: after))).paramMap[lit
      "Content-Length"]? = some ((lengthAmong before).getD value) := by
  have hsent : sentPairs (before ++ (name, value) :: after) =
      sentPairs before ++ (name, value) :: sentPairs after := by
    simp [sentPairs, unquoted_of_icompareEq hname (by decide), unquoted_digits hdigits]
  have hlength : isLength (name, value) = true := by
    show (_ || icompareEq name (lit "CONTENT_LENGTH")) = true
    rw [hname, Bool.or_true]
  have hdecoded := (addHeaders_decoded (sentPairs (before ++ (name, value) :: after))).contentLength
  rw [parsedRequest_encode _ hnul]
  refine hdecoded.trans ?_
  show firstSent isLength _ = _
  rw [hsent, firstSent, List.find?_append, List.find?_cons_of_pos hlength]
  unfold lengthAmong firstSent
  cases (sentPairs before).find? isLength <;> rfl

/-- A number below 2^32 is kept by the conversions. -/
theorem narrow32_eq_iff {v : Int} {n m : Nat} (hv : v = n) (hn : n < 2 ^ 32) :
    (narrow32 v).toNat = m ↔ n = m := by
  rw [hv, narrow32_toNat hn]

/-- Digits are converted to the number they denote exactly when a leading '0'
makes no difference. -/
theorem digits_read_iff {value : Str} (hvalue : value ≠ [])
    (hdigits : ∀ c ∈ value, isDigit c = true) (hlt : decimalValue value < 2 ^ 32) :
    (narrow32 (strtol value)).toNat = decimalValue value ↔
      value.head? ≠ some 48 ∨ decimalValue value < 8 := by
  by_cases hhead : value.head? = some 48
  · obtain ⟨cs, rfl⟩ : ∃ cs, value = 48 :: cs := by
      obtain ⟨c, cs, rfl⟩ := List.exists_cons_of_ne_nil hvalue
      exact ⟨cs, by rw [Option.some.inj hhead]⟩
    have hzero : decimalValue (48 :: cs) = decimalValue cs := by
      have hdigit : digitOf 48 = 0 := by decide +kernel
      rw [decimalValue, decimalFrom, hdigit]
      rfl
    rw [hzero] at hlt ⊢
    obtain ⟨n, hread, hle, hiff⟩ :=
      strtol_zero_iff (fun c hc => hdigits c (List.mem_cons_of_mem _ hc)) (by omega : _ < 2 ^ 63)
    rw [narrow32_eq_iff hread (by omega), hiff]
    constructor
    · exact fun h => .inr h
    · intro h
      rcases h with h | h
      · exact absurd hhead h
      · exact h
  · rw [narrow32_eq_iff (strtol_digits hvalue hdigits hhead (by omega)) hlt]
    exact ⟨fun _ => .inl hhead, fun _ => rfl⟩

/-- A message that has a length moves so much. -/
theorem bodyLengthIs_iff {msg : HNSCGIMsg} {value : Str} {n : Nat}
    (h : msg.paramMap[lit "Content-Length"]? = some value) :
    BodyLengthIs msg n ↔ (narrow32 (strtol value)).toNat = n := by
  have hlength : msg.getContentLength = narrow32 (strtol value) := by
    unfold HNSCGIMsg.getContentLength
    rw [h]
  have hhas : msg.hasHeader (lit "Content-Length") = true :=
    decide_eq_true ((OrdMap.mem_iff_get _ _).mpr ⟨_, h⟩)
  unfold BodyLengthIs
  rw [hlength]
  constructor
  · exact fun hbody => hbody.1
  · intro hn
    refine ⟨hn, ?_⟩
    intro t is os hmsg hsource hsink hmoved hgood hfaults
    have hmoves := Transfer.moves_announced t is os hsource hsink hmoved hgood hfaults
    have hannounced : Transfer.announced t.msg = some n := by
      rw [hmsg, Transfer.announced, if_pos hhas, hlength, hn]
    rwa [hannounced] at hmoves

/-- **The digits of a CONTENT_LENGTH are read as the decimal number they denote,
and so many bytes moved as the body, exactly when** they are the first length in
the header and a leading '0' makes no difference, or an earlier length is read as
the same number.  What `setContentLength` sets is always read back. -/
theorem decimal_length_iff (before after : List (Str × Str)) (name value : Str)
    (hname : icompareEq name (lit "CONTENT_LENGTH") = true) (hvalue : value ≠ [])
    (hdigits : ∀ c ∈ value, isDigit c = true) (hlt : decimalValue value < 2 ^ 32)
    (hnul : NulFree (before ++ (name, value) :: after)) :
    (BodyLengthIs (parsedRequest (encodePairs (before ++ (name, value) :: after)))
        (decimalValue value) ↔ ReadDecimally before value) ∧
      (∀ (fd : Nat) (body : List UInt8) (calls : List (List (List UInt8))),
        (encodePairs (before ++ (name, value) :: after)).length < 2 ^ 32 →
        Delivers fd (netstring (encodePairs (before ++ (name, value) :: after)) ++ body) calls →
        (deliverFresh fd calls).2.bytes = body ∧
          (deliverFresh fd calls).1.request =
            parsedRequest (encodePairs (before ++ (name, value) :: after))) ∧
      ∀ (msg : HNSCGIMsg) (length : UInt32), lit "Content-Length" ∉ msg.paramMap →
        (msg.setContentLength length).getContentLength = length := by
  refine ⟨?_, ?_, ?_⟩
  · rw [bodyLengthIs_iff (parsed_length hname hdigits hnul)]
    unfold ReadDecimally
    cases lengthAmong before with
    | none => exact digits_read_iff hvalue hdigits hlt
    | some earlier => exact Iff.rfl
  · intro fd body calls hlen h
    exact (delivered_request hlen h).2
  · intro msg length hnew
    have hset : (msg.setContentLength length).paramMap[lit "Content-Length"]? =
        some (decimal length.toNat) := by
      show (msg.paramMap.insertIfNew _ _)[_]? = _
      rw [OrdMap.get_insertIfNew, if_pos ⟨rfl, hnew⟩]
    have hread := strtol_decimal (show length.toNat < 2 ^ 63 by have := length.toNat_lt; omega)
    unfold HNSCGIMsg.getContentLength
    rw [hset]
    show narrow32 (strtol (decimal length.toNat)) = length
    rw [hread, ← UInt32.toNat_inj, narrow32_toNat length.toNat_lt]

/-- A page of memory, announced behind a cookie. -/
theorem decimal_length_sample :
    BodyLengthIs (parsedRequest (encodePairs ([(lit "Cookie", lit "a")] ++
      (lit "content_Length", lit "4096") :: [(lit "SCGI", lit "1")])))
        (decimalValue (lit "4096")) :=
  (decimal_length_iff [(lit "Cookie", lit "a")] [(lit "SCGI", lit "1")] (lit "content_Length")
    (lit "4096") (by decide) (by decide) (by decide +kernel) (by decide +kernel)
    (by unfold NulFree; decide +kernel)).1.mpr (by unfold ReadDecimally; exact .inl (by decide))

/-- **A body of 010 bytes**: eight of the ten are moved. -/
theorem octal_length :
    ¬ ∀ (before after : List (Str × Str)) (name value : Str),
      icompareEq name (lit "CONTENT_LENGTH") = true → (∀ p ∈ before ++ after, isLength p = false) →
      value ≠ [] → (∀ c ∈ value, isDigit c = true) → decimalValue value < 2 ^ 32 →
      NulFree (before ++ (name, value) :: after) →
      BodyLengthIs (parsedRequest (encodePairs (before ++ (name, value) :: after)))
        (decimalValue value) := by
  intro h
  have hbody := h [] [(lit "SCGI", lit "1")] (lit "CONTENT_LENGTH") (lit "010") (by decide)
    (by decide) (by decide) (by decide +kernel) (by decide +kernel)
    (by unfold NulFree; decide +kernel)
  exact absurd hbody.1 (by decide +kernel)

end HNodeMgmt.Scgi
