/-
  HNodeMgmt.Scgi.ResponseHeaders — the header fields of a proxied response.

  `waitForResponse` sets the Content-Length of the response from the number
  Poco reads, then adds the fields of the device one by one to a map: the first
  value of a name stays, names are compared byte for byte, and the capitals of
  Content-Length are made uniform.  `sendSCGIResponseHeaders` writes the map,
  behind a Status line.

  Main results:
    * `headers_kept_iff` — the client gets the fields of the device exactly when
      no name occurs twice, Content-Length in any capitals, and the
      Content-Length is the plain decimal number that is set.
    * `cookies_lost` — a device sets two cookies.
-/
import Mathlib.Tactic.Common
import HNodeMgmt.Lib.Streams
import HNodeMgmt.Scgi.Parser

namespace HNodeMgmt.Scgi

open Lib

/-! ## §1. From the device to the client. -/

/-- A name and a value that stand on one line. -/
def PlainField (field : Str × Str) : Prop := 58 ∉ field.1 ∧ 10 ∉ field.1 ∧ 10 ∉ field.2

/-- `Poco::Net::HTTPResponse`: what `waitForResponse` reads of it.  The fields
are in the order they are iterated in. -/
structure HTTPResponse where
  status : UInt32
  reason : Str
  fields : List (Str × Str)
  /-- The end of a line ends the reason and a value, and a colon a name. -/
  reason_plain : 10 ∉ reason
  fields_plain : ∀ field ∈ fields, PlainField field

namespace HNSCGIMsg

def setStatusCode (msg : HNSCGIMsg) (statusCode : UInt32) : HNSCGIMsg := { msg with statusCode }

def setReason (msg : HNSCGIMsg) (reason : Str) : HNSCGIMsg := { msg with reason }

/-- One line of a header. -/
def headerLine (field : Str × Str) : Str := field.1 ++ lit ": " ++ field.2 ++ [13, 10]

/-- The lines, the Status line first, in the order of the map. -/
def responseFields (msg : HNSCGIMsg) : List (Str × Str) :=
  (lit "Status", decimal msg.statusCode.toNat ++ 32 :: msg.reason) :: msg.paramMap.toList

/-- `sendSCGIResponseHeaders`, to the stream of the sink if one is set. -/
def sendSCGIResponseHeaders (msg : HNSCGIMsg) (outStream : Option OStream) :
    HNSSResult × Option OStream :=
  match outStream with
  | none => (.failure, none)
  | some os =>
    (.msgContent, some (os.write (msg.responseFields.flatMap headerLine ++ [13, 10])).flush)

end HNSCGIMsg

/-- `waitForResponse`, with the response that has been received.
`getContentLength` is Poco's: it reads the fields, -1 stands for no length and
`none` is its exception. -/
def waitForResponse (getContentLength : List (Str × Str) → Option Int) (rspMsg : HNSCGIMsg)
    (response : HTTPResponse) : Option (HNSSResult × HNSCGIMsg) :=
  (getContentLength response.fields).map fun length =>
    let rspMsg := (rspMsg.setStatusCode response.status).setReason response.reason
    let rspMsg := if length ≠ -1 then rspMsg.setContentLength (narrow32 length) else rspMsg
    -- a Content-Length among the fields comes second, and the first value stays
    let rspMsg := response.fields.foldl (fun msg field => msg.addHdrPair field.1 field.2) rspMsg
    (if 0 < rspMsg.getContentLength then .msgContent else .msgComplete, rspMsg)

/-! ## §2. The property. -/

/-- A client reads lines up to an empty one; a name ends at the first colon. -/
def readHeaders (text : Str) : List (Str × Str) :=
  ((text.splitOn 10).takeWhile (· ≠ [13])).map fun line =>
    (line.takeWhile (· ≠ 58), ((line.dropWhile (· ≠ 58)).drop 2).dropLast)

/-- A field with its name in small letters. -/
def lowerName (field : Str × Str) : Str × Str := (field.1.map toLower, field.2)

/-- The client reads the Status and the fields of the device, once each and no
others. -/
def KeepsFields (msg : HNSCGIMsg) (response : HTTPResponse) : Prop :=
  ∃ os status fields, msg.sendSCGIResponseHeaders (some .fresh) = (.msgContent, some os) ∧
    readHeaders os.flushed = (lit "Status", status) :: fields ∧
    (fields.map lowerName).Perm (response.fields.map lowerName)

/-- The name a field is stored under. -/
def storedName (name : Str) : Str :=
  if icompareEq name (lit "Content-Length") then lit "Content-Length" else name

/-- The length is read, no name is stored twice, and a length that is set is what
the field says. -/
def FieldsApart (getContentLength : List (Str × Str) → Option Int) (response : HTTPResponse) :
    Prop :=
  (response.fields.map fun field => storedName field.1).Nodup ∧
  ∃ length, getContentLength response.fields = some length ∧
    (length ≠ -1 → ∃ name, (name, decimal (narrow32 length).toNat) ∈ response.fields ∧
      icompareEq name (lit "Content-Length") = true)

/-! ## §3. What is written is read back. -/

/-- The text of a line, with the carriage return behind it. -/
def lineText (field : Str × Str) : Str := field.1 ++ 58 :: 32 :: (field.2 ++ [13])

/-- A line is its text and a line feed. -/
theorem headerLine_eq (field : Str × Str) :
    HNSCGIMsg.headerLine field = lineText field ++ [10] := by
  show field.1 ++ [58, 32] ++ field.2 ++ [13, 10] = _
  simp [lineText]

/-- The lines of a text up to an empty one. -/
theorem lines_read (rest : Str) : ∀ {fields : List (Str × Str)},
    (∀ field ∈ fields, PlainField field) →
      ((fields.flatMap HNSCGIMsg.headerLine ++ 13 :: 10 :: rest).splitOn 10).takeWhile (· ≠ [13]) =
        fields.map lineText
  | [], _ => by
      have hempty : ([13] ++ 10 :: rest).splitOn 10 = [13] :: rest.splitOn 10 :=
        List.splitOn_append_cons_self_of_not_mem (by decide) rest
      rw [List.flatMap_nil, List.nil_append, show 13 :: 10 :: rest = [13] ++ 10 :: rest from rfl,
        hempty]
      exact List.takeWhile_cons_of_neg (by decide)
  | field :: fields, h => by
      obtain ⟨-, hname, hvalue⟩ := h field List.mem_cons_self
      have hline : 10 ∉ lineText field := by
        simp [lineText, hname, hvalue]
      -- the line that ends a header is shorter than one with a field
      have hlong : lineText field ≠ [13] := by
        intro heq
        have hlength := congrArg List.length heq
        simp only [lineText, List.length_append, List.length_cons, List.length_nil] at hlength
        omega
      have ih := lines_read rest fun field hfield => h field (List.mem_cons_of_mem _ hfield)
      rw [List.flatMap_cons, headerLine_eq, List.append_assoc, List.append_assoc,
        List.singleton_append, List.splitOn_append_cons_self_of_not_mem hline,
        List.takeWhile_cons, if_pos (decide_eq_true hlong), ih]
      rfl

/-- The name and the value of a line. -/
theorem line_read {field : Str × Str} (h : 58 ∉ field.1) :
    ((lineText field).takeWhile (· ≠ 58),
      (((lineText field).dropWhile (· ≠ 58)).drop 2).dropLast) = field := by
  have hplain : ∀ c ∈ field.1, decide (c ≠ 58) = true := by
    intro c hc
    exact decide_eq_true fun heq => h (heq ▸ hc)
  have hend : (58 :: 32 :: (field.2 ++ [13])).takeWhile (· ≠ (58 : UInt8)) = [] := rfl
  unfold lineText
  rw [List.takeWhile_append_of_pos hplain, List.dropWhile_append_of_pos hplain, hend,
    List.append_nil]
  show (field.1, (field.2 ++ [13]).dropLast) = field
  rw [List.dropLast_concat]

/-- **Lines are read as they were written.** -/
theorem readHeaders_lines {fields : List (Str × Str)} (rest : Str)
    (h : ∀ field ∈ fields, PlainField field) :
    readHeaders (fields.flatMap HNSCGIMsg.headerLine ++ 13 :: 10 :: rest) = fields := by
  rw [readHeaders, lines_read rest h, List.map_map]
  conv_rhs => rw [← List.map_id fields]
  exact List.map_congr_left fun field hfield => line_read (h field hfield).1

/-! ## §4. What is in the map. -/

/-- The Content-Length that is set first, if one is. -/
def lengthMap (length : Int) : StrMap Str :=
  if length ≠ -1 then
    (∅ : StrMap Str).insertIfNew (lit "Content-Length") (decimal (narrow32 length).toNat)
  else ∅

/-- The fields with the names they are stored under. -/
def storedFields (fields : List (Str × Str)) : List (Str × Str) :=
  fields.map fun field => (storedName field.1, field.2)

/-- All fields, one after the other. -/
theorem addHdrPairs_eq (fields : List (Str × Str)) :
    ∀ msg : HNSCGIMsg, fields.foldl (fun msg field => msg.addHdrPair field.1 field.2) msg =
      { msg with paramMap := OrdMap.insertAll msg.paramMap (storedFields fields) } := by
  induction fields with
  | nil => intro msg; rfl
  | cons field fields ih =>
    intro msg
    rw [List.foldl_cons, ih, addHdrPair_eq]
    rfl

/-- A response that is filled in: the status, the reason, and the fields behind
the length. -/
def filledIn (response : HTTPResponse) (length : Int) : HNSCGIMsg :=
  { HNSCGIMsg.new with
    statusCode := response.status
    reason := response.reason
    paramMap := OrdMap.insertAll (lengthMap length) (storedFields response.fields) }

/-- What the message is filled in with, whatever the call returns. -/
theorem waitForResponse_eq {getContentLength : List (Str × Str) → Option Int}
    {response : HTTPResponse} {length : Int}
    (hlength : getContentLength response.fields = some length) :
    ∃ result, waitForResponse getContentLength HNSCGIMsg.new response =
      some (result, filledIn response length) := by
  unfold waitForResponse filledIn lengthMap
  rw [hlength, Option.map_some]
  by_cases hset : length ≠ -1
  · simp only [if_pos hset, addHdrPairs_eq]
    exact ⟨_, rfl⟩
  · simp only [if_neg hset, addHdrPairs_eq]
    exact ⟨_, rfl⟩

/-- Only a length that was read is there. -/
theorem lengthMap_get {length : Int} {name value : Str} :
    (lengthMap length)[name]? = some value ↔ length ≠ -1 ∧ name = lit "Content-Length" ∧
      value = decimal (narrow32 length).toNat := by
  unfold lengthMap
  by_cases hset : length ≠ -1
  · rw [if_pos hset, OrdMap.get_insertIfNew]
    by_cases hname : lit "Content-Length" = name
    · rw [if_pos ⟨hname, by simp⟩]
      simp [hset, hname, eq_comm]
    · rw [if_neg fun h => hname h.1]
      simp [hset, Ne.symm hname]
  · rw [if_neg hset]
    simp [hset]

/-- The stored name differs in its capitals only. -/
theorem storedName_lower (name : Str) : (storedName name).map toLower = name.map toLower := by
  unfold storedName
  by_cases h : icompareEq name (lit "Content-Length") = true
  · rw [if_pos h]
    exact (icompareEq_iff.mp h).symm
  · rw [if_neg h]

/-- Whatever is a Content-Length is stored as one. -/
theorem storedName_contentLength {name : Str}
    (h : (storedName name).map toLower = (lit "Content-Length").map toLower) :
    storedName name = lit "Content-Length" := by
  rw [storedName_lower] at h
  unfold storedName
  rw [if_pos (icompareEq_iff.mpr h)]

/-- Names are stored as they were, up to case. -/
theorem storedFields_lower (fields : List (Str × Str)) :
    (storedFields fields).map lowerName = fields.map lowerName := by
  rw [storedFields, List.map_map]
  refine List.map_congr_left fun field _ => ?_
  show ((storedName field.1).map toLower, field.2) = _
  rw [storedName_lower]
  rfl

/-- A number has no line feed in it. -/
theorem decimal_plain_line (n : Nat) : 10 ∉ decimal n := by
  intro hmem
  have hlow := (decimal_digit hmem).1
  exact absurd hlow (by decide)

/-- What is in the map stands on one line each. -/
theorem stored_plain (response : HTTPResponse) (length : Int) :
    ∀ field ∈ (OrdMap.insertAll (lengthMap length) (storedFields response.fields)).toList,
      PlainField field := by
  have hlengthName : 58 ∉ lit "Content-Length" ∧ 10 ∉ lit "Content-Length" := by decide +kernel
  intro ⟨name, value⟩ hmem
  rw [OrdMap.mem_toList_insertAll] at hmem
  -- it is the length that was set, or a field
  rcases Option.or_eq_some_iff.mp hmem with hlength | ⟨-, hfield⟩
  · obtain ⟨-, rfl, rfl⟩ := lengthMap_get.mp hlength
    exact ⟨hlengthName.1, hlengthName.2, decimal_plain_line _⟩
  · obtain ⟨stored, hfind, rfl⟩ := Option.map_eq_some_iff.mp hfield
    obtain rfl : stored.1 = name := by simpa using List.find?_some hfind
    obtain ⟨field, hin, rfl⟩ := List.mem_map.mp (List.mem_of_find?_eq_some hfind)
    obtain ⟨hcolon, hline, hvalue⟩ := response.fields_plain field hin
    refine ⟨?_, ?_, hvalue⟩
    · unfold storedName
      split
      next => exact hlengthName.1
      next => exact hcolon
    · unfold storedName
      split
      next => exact hlengthName.2
      next => exact hline

/-- **What the client reads** is the Status and the map. -/
theorem keepsFields_iff (response : HTTPResponse) (length : Int) :
    KeepsFields (filledIn response length) response ↔
      ((filledIn response length).paramMap.toList.map lowerName).Perm
        (response.fields.map lowerName) := by
  have hstatus : 58 ∉ lit "Status" ∧ 10 ∉ lit "Status" := by decide +kernel
  have hplain : ∀ field ∈ (filledIn response length).responseFields, PlainField field := by
    intro field hmem
    rcases List.mem_cons.mp hmem with rfl | hmem
    · refine ⟨hstatus.1, hstatus.2, ?_⟩
      show 10 ∉ decimal response.status.toNat ++ 32 :: response.reason
      simp [decimal_plain_line, response.reason_plain]
    · exact stored_plain response length field hmem
  have hread : readHeaders ((filledIn response length).responseFields.flatMap
      HNSCGIMsg.headerLine ++ [13, 10]) = (filledIn response length).responseFields :=
    readHeaders_lines [] hplain
  constructor
  · intro h
    obtain ⟨os, status, fields, hsend, hfields, hperm⟩ := h
    obtain rfl := Option.some.inj (Prod.mk.inj hsend).2
    obtain ⟨-, rfl⟩ := List.cons.inj (hread.symm.trans hfields)
    exact hperm
  · intro hperm
    exact ⟨_, _, _, rfl, hread, hperm⟩

/-- A length that is set is the value of a field. -/
theorem lengthMap_stored (fields : List (Str × Str)) (length : Int) :
    (∀ name value, (lengthMap length)[name]? = some value →
      (name, value) ∈ storedFields fields) ↔
    (length ≠ -1 → ∃ name, (name, decimal (narrow32 length).toNat) ∈ fields ∧
      icompareEq name (lit "Content-Length") = true) := by
  constructor
  · intro h hset
    have hmem := h _ _ (lengthMap_get.mpr ⟨hset, rfl, rfl⟩)
    obtain ⟨⟨name, value⟩, hin, heq⟩ := List.mem_map.mp hmem
    obtain ⟨hname, rfl⟩ := Prod.mk.inj heq
    refine ⟨name, hin, icompareEq_iff.mpr ?_⟩
    rw [← storedName_lower, hname]
  · intro h name value hget
    obtain ⟨hset, rfl, rfl⟩ := lengthMap_get.mp hget
    obtain ⟨name, hin, hname⟩ := h hset
    refine List.mem_map.mpr ⟨_, hin, ?_⟩
    rw [storedName, if_pos hname]

/-- **The fields of the device reach the client exactly when** the length can be
read, no name is stored twice, and a length that is set is that of a field. -/
theorem headers_kept_iff (getContentLength : List (Str × Str) → Option Int)
    (response : HTTPResponse) :
    (∃ result msg, waitForResponse getContentLength HNSCGIMsg.new response = some (result, msg) ∧
      KeepsFields msg response) ↔ FieldsApart getContentLength response := by
  cases hlength : getContentLength response.fields with
  | none =>
    have hraised : waitForResponse getContentLength HNSCGIMsg.new response = none := by
      rw [waitForResponse, hlength]
      rfl
    constructor
    · intro h
      obtain ⟨result, msg, hwait, -⟩ := h
      cases hraised.symm.trans hwait
    · intro h
      obtain ⟨-, length, hsome, -⟩ := h
      cases hlength.symm.trans hsome
  | some length =>
    obtain ⟨result, hwait⟩ := waitForResponse_eq hlength
    -- no field is taken for the length that is not stored as one
    have hapart : ∀ (name : Str) value, (lengthMap length)[name]? = some value →
        ∀ field ∈ storedFields response.fields,
          field.1.map toLower = name.map toLower → field.1 = name := by
      intro name value hget field hmem heq
      obtain ⟨-, rfl, -⟩ := lengthMap_get.mp hget
      obtain ⟨sent, -, rfl⟩ := List.mem_map.mp hmem
      exact storedName_contentLength heq
    have hkept := OrdMap.insertAll_perm_iff (List.map toLower) hapart
    rw [lengthMap_stored] at hkept
    have hkeeps := keepsFields_iff response length
    rw [← storedFields_lower response.fields] at hkeeps
    have hnames : (storedFields response.fields).map Prod.fst =
        response.fields.map fun field => storedName field.1 := List.map_map
    rw [hnames] at hkept
    constructor
    · intro h
      obtain ⟨result', msg, hwait', hfields⟩ := h
      obtain ⟨-, rfl⟩ := Prod.mk.inj (Option.some.inj (hwait.symm.trans hwait'))
      obtain ⟨hnodup, hset⟩ := hkept.mp (hkeeps.mp hfields)
      exact ⟨hnodup, length, hlength, hset⟩
    · intro h
      obtain ⟨hnodup, length', hlength', hset⟩ := h
      obtain rfl := Option.some.inj (hlength.symm.trans hlength')
      exact ⟨result, _, hwait, hkeeps.mpr (hkept.mpr ⟨hnodup, hset⟩)⟩

/-! ### One cookie, and two. -/

/-- The number in the first Content-Length, -1 without one. -/
def readLength (fields : List (Str × Str)) : Option Int :=
  match fields.find? fun field => icompareEq field.1 (lit "Content-Length") with
  | none => some (-1)
  | some field => if field.2.isEmpty then some (-1) else some (strtol field.2)

/-- A device gives a session. -/
def cookieResponse : HTTPResponse where
  status := 200
  reason := lit "OK"
  fields := [(lit "set-cookie", lit "session=7"), (lit "Vary", lit "Origin"),
    (lit "VARY", lit "Accept"), (lit "content-length", lit "2")]
  reason_plain := by decide +kernel
  fields_plain := by unfold PlainField; decide +kernel

theorem headers_kept_sample :
    ∃ result msg, waitForResponse readLength HNSCGIMsg.new cookieResponse = some (result, msg) ∧
      KeepsFields msg cookieResponse := by
  refine (headers_kept_iff readLength cookieResponse).mpr ⟨by decide +kernel, 2, ?_, fun _ => ?_⟩
  · decide +kernel
  · exact ⟨lit "content-length", by decide +kernel, by decide +kernel⟩

/-- A device gives a session and a language. -/
def cookiesResponse : HTTPResponse where
  status := 200
  reason := lit "OK"
  fields := [(lit "Set-Cookie", lit "session=7"), (lit "Set-Cookie", lit "lang=en"),
    (lit "content-length", lit "2")]
  reason_plain := by decide +kernel
  fields_plain := by unfold PlainField; decide +kernel

/-- **The second cookie is lost.** -/
theorem cookies_lost :
    (filledIn cookiesResponse 2).paramMap.toList =
      [(lit "Content-Length", lit "2"), (lit "Set-Cookie", lit "session=7")] ∧
    ¬∃ result msg, waitForResponse readLength HNSCGIMsg.new cookiesResponse =
      some (result, msg) ∧ KeepsFields msg cookiesResponse := by
  have hstored : (filledIn cookiesResponse 2).paramMap.toList =
      [(lit "Content-Length", lit "2"), (lit "Set-Cookie", lit "session=7")] := by
    decide +kernel
  refine ⟨hstored, ?_⟩
  intro h
  obtain ⟨result, msg, hwait, hkeeps⟩ := h
  have hread : readLength cookiesResponse.fields = some 2 := by decide +kernel
  obtain ⟨result', hfilled⟩ := waitForResponse_eq hread
  obtain ⟨-, rfl⟩ := Prod.mk.inj (Option.some.inj (hfilled.symm.trans hwait))
  have hlength := ((keepsFields_iff cookiesResponse 2).mp hkeeps).length_eq
  rw [hstored] at hlength
  exact absurd hlength (by decide +kernel)

end HNodeMgmt.Scgi
