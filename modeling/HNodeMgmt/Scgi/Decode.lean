/-
  HNodeMgmt.Scgi.Decode — what a header's pairs are decoded to.

  A client sends name and value pairs, each ended by a NUL.  The parser drops
  every quote character, routes the names with an underscore to the CGI
  variables and the others to the header map, and keeps the first value of a
  name.  The URI and the method are the last ones sent.

  Main results:
    * `extractPairs_encode` — the pairs come back, without their quotes.
    * `decode_delivered` — however it is delivered, a header ends in HDR_DONE
      with exactly the values sent.
    * `decode_drops_quote` — a value that holds a quote is not what was sent.
-/
import Mathlib.Tactic.Common
import HNodeMgmt.Scgi.Delivery
import HNodeMgmt.Scgi.PairExtract

namespace HNodeMgmt.Scgi

open Lib HeaderState

/-! ## §1. The encoding. -/

/-- 'name NUL value NUL'. -/
def encodePair (p : Str × Str) : List UInt8 := p.1 ++ 0 :: (p.2 ++ [0])

/-- The block of a header. -/
def encodePairs (pairs : List (Str × Str)) : List UInt8 := pairs.flatMap encodePair

/-- The pairs as they are kept. -/
def sentPairs (pairs : List (Str × Str)) : List (Str × Str) :=
  pairs.map fun p => (unquoted p.1, unquoted p.2)

/-- Neither names nor values hold a NUL. -/
def NulFree (pairs : List (Str × Str)) : Prop := ∀ p ∈ pairs, 0 ∉ p.1 ∧ 0 ∉ p.2

/-- A string without a NUL has none without its quotes. -/
theorem nul_not_mem_unquoted {s : Str} (h : 0 ∉ s) : 0 ∉ unquoted s :=
  fun hmem => h (List.mem_filter.mp hmem).1

/-- The strings of a block are the names and the values in turn. -/
theorem pairUp_encode :
    ∀ pairs : List (Str × Str), NulFree pairs →
      pairUp (cutAt 0 (unquoted (encodePairs pairs))) = sentPairs pairs
  | [], _ => rfl
  | p :: pairs, h => by
      obtain ⟨hname, hvalue⟩ := h p (by simp)
      have ih := pairUp_encode pairs fun q hq => h q (by simp [hq])
      have hblock : unquoted (encodePairs (p :: pairs)) =
          unquoted p.1 ++ 0 :: (unquoted p.2 ++ 0 :: unquoted (encodePairs pairs)) := by
        simp [encodePairs, encodePair, unquoted]
      rw [hblock, cutAt_append _ _ (nul_not_mem_unquoted hname),
        cutAt_append _ _ (nul_not_mem_unquoted hvalue)]
      show (unquoted p.1, unquoted p.2) :: pairUp _ = _
      rw [ih]
      rfl

/-- **The pairs come back** in order, without their quotes. -/
theorem extractPairs_encode (pairs : List (Str × Str)) (request : HNSCGIMsg)
    (h : NulFree pairs) :
    extractPairs request (encodePairs pairs) =
      (sentPairs pairs).foldl (fun msg p => msg.addSCGIRequestHeader p.1 p.2) request := by
  rw [extractPairs_calls, extractCalls_eq, pairUp_encode pairs h]
  rfl

/-! ## §2. Where a pair goes. -/

/-- The names that go to the CGI variables. -/
def isCgiVar (name : Str) : Bool := icompareEq name (lit "SCGI") || name.contains 95

/-- The entry of the header map a pair is for. -/
def headerOf (p : Str × Str) : Option (Str × Str) :=
  if icompareEq p.1 (lit "SCGI") then none
  else if p.1.contains 95 then
    if icompareEq p.1 (lit "CONTENT_LENGTH") then some (lit "Content-Length", p.2)
    else if icompareEq p.1 (lit "CONTENT_TYPE") then
      if p.2.isEmpty then none else some (lit "Content-Type", p.2)
    else none
  else if icompareEq p.1 (lit "Content-Length") then some (lit "Content-Length", p.2)
  else some p

/-- The CGI variable a pair is for. -/
def cgiVarOf (p : Str × Str) : Option (Str × Str) := if isCgiVar p.1 then some p else none

/-- Only a small letter can come from another byte. -/
theorem toLower_symbol {b c : UInt8} (hb : b.toNat < 97) (h : toLower c = b) : c = b := by
  unfold toLower at h
  split at h
  next hupper =>
    simp only [Bool.and_eq_true, decide_eq_true_eq, UInt8.le_iff_toNat_le] at hupper
    have hnat := congrArg UInt8.toNat h
    rw [UInt8.toNat_add] at hnat
    simp at hupper hnat
    omega
  next => exact h

/-- Comparing without case does not confuse what is no letter. -/
theorem contains_symbol {b : UInt8} (hb : b.toNat < 97) (hsame : toLower b = b) {name s : Str}
    (h : icompareEq name s = true) : name.contains b = s.contains b := by
  have hmap := icompareEq_iff.mp h
  have hiff : ∀ t : Str, t.contains b = (t.map toLower).contains b := by
    intro t
    rw [Bool.eq_iff_iff, List.contains_iff_mem, List.contains_iff_mem, List.mem_map]
    constructor
    · exact fun hmem => ⟨b, hmem, hsame⟩
    · rintro ⟨c, hc, hlower⟩
      exact toLower_symbol hb hlower ▸ hc
  rw [hiff name, hiff s, hmap]

/-- Comparing without case does not confuse underscores. -/
theorem contains_of_icompareEq {name : Str} {s : Str} (h : icompareEq name s = true) :
    name.contains 95 = s.contains 95 := contains_symbol (by decide) (by decide) h

/-- A name is equal, up to case, to one name at most. -/
theorem icompareEq_excl {name s t : Str} (hne : s.map toLower ≠ t.map toLower)
    (h : icompareEq name s = true) : icompareEq name t = false := by
  rw [← Bool.not_eq_true, icompareEq_iff]
  rw [icompareEq_iff] at h
  rwa [h]

/-- **What one header does to a message**, field by field. -/
theorem addSCGIRequestHeader_eq (msg : HNSCGIMsg) (name value : Str) :
    msg.addSCGIRequestHeader name value =
      { msg with
        cgiVarMap := if isCgiVar name then msg.cgiVarMap.insertIfNew name value else msg.cgiVarMap
        paramMap :=
          match headerOf (name, value) with
          | some entry => msg.paramMap.insertIfNew entry.1 entry.2
          | none => msg.paramMap
        uri := if icompareEq name (lit "REQUEST_URI") then value else msg.uri
        method := if icompareEq name (lit "REQUEST_METHOD") then value else msg.method } := by
  have hlength : icompareEq (lit "Content-Length") (lit "Content-Length") = true := by decide
  have htype : icompareEq (lit "Content-Type") (lit "Content-Length") = false := by decide
  unfold HNSCGIMsg.addSCGIRequestHeader
  by_cases hscgi : icompareEq name (lit "SCGI") = true
  · have huri : icompareEq name (lit "REQUEST_URI") = false := icompareEq_excl (by decide) hscgi
    have hmethod : icompareEq name (lit "REQUEST_METHOD") = false :=
      icompareEq_excl (by decide) hscgi
    simp [hscgi, huri, hmethod, isCgiVar, headerOf, HNSCGIMsg.addCGIVar]
  by_cases hvar : name.contains 95 = true
  · -- the names with a special handling exclude each other
    by_cases hcl : icompareEq name (lit "CONTENT_LENGTH") = true
    · have huri : icompareEq name (lit "REQUEST_URI") = false := icompareEq_excl (by decide) hcl
      have hmethod : icompareEq name (lit "REQUEST_METHOD") = false :=
        icompareEq_excl (by decide) hcl
      simp only [hscgi, hvar, hcl, huri, hmethod, isCgiVar, headerOf, addHdrPair_eq, hlength,
        HNSCGIMsg.addCGIVar, Bool.or_true, if_true, if_false, Bool.false_eq_true]
    by_cases hct : icompareEq name (lit "CONTENT_TYPE") = true
    · have huri : icompareEq name (lit "REQUEST_URI") = false := icompareEq_excl (by decide) hct
      have hmethod : icompareEq name (lit "REQUEST_METHOD") = false :=
        icompareEq_excl (by decide) hct
      cases hempty : value.isEmpty <;>
        simp only [hscgi, hvar, hcl, hct, huri, hmethod, isCgiVar, headerOf, addHdrPair_eq, htype,
          hempty, HNSCGIMsg.addCGIVar, Bool.or_true, if_true, if_false, Bool.false_eq_true]
    by_cases huri : icompareEq name (lit "REQUEST_URI") = true
    · have hmethod : icompareEq name (lit "REQUEST_METHOD") = false :=
        icompareEq_excl (by decide) huri
      simp only [hscgi, hvar, hcl, hct, huri, hmethod, isCgiVar, headerOf, HNSCGIMsg.addCGIVar,
        HNSCGIMsg.setURI, Bool.or_true, if_true, if_false, Bool.false_eq_true]
    by_cases hmethod : icompareEq name (lit "REQUEST_METHOD") = true
    · simp only [hscgi, hvar, hcl, hct, huri, hmethod, isCgiVar, headerOf, HNSCGIMsg.addCGIVar,
        HNSCGIMsg.setMethod, Bool.or_true, if_true, if_false, Bool.false_eq_true]
    · simp only [hscgi, hvar, hcl, hct, huri, hmethod, isCgiVar, headerOf, HNSCGIMsg.addCGIVar,
        Bool.or_true, if_true, if_false, Bool.false_eq_true]
  · have hnot : ∀ s : Str, s.contains 95 = true → icompareEq name s = false := by
      intro s hs
      by_contra h
      rw [Bool.not_eq_false] at h
      exact hvar (contains_of_icompareEq h ▸ hs)
    have huri := hnot (lit "REQUEST_URI") (by decide)
    have hmethod := hnot (lit "REQUEST_METHOD") (by decide)
    cases hcl : icompareEq name (lit "Content-Length") <;>
      simp only [hscgi, hvar, hcl, huri, hmethod, isCgiVar, headerOf, addHdrPair_eq,
        Bool.or_self, if_true, if_false, Bool.false_eq_true]

/-! ## §3. Where a list of pairs goes. -/

/-- The value of the first pair sent that meets a condition. -/
def firstSent (c : Str × Str → Bool) (sent : List (Str × Str)) : Option Str :=
  (sent.find? c).map Prod.snd

/-- The value of the last one. -/
def lastSent (c : Str × Str → Bool) (sent : List (Str × Str)) : Option Str :=
  firstSent c sent.reverse

/-- What a request holds of the pairs sent: of every name the first value, and
of the URI and the method the last. -/
structure Decoded (sent : List (Str × Str)) (request : HNSCGIMsg) : Prop where
  cgiVars : ∀ name, request.cgiVarMap[name]? =
    firstSent (fun p => p.1 == name && isCgiVar p.1) sent
  headers : ∀ name, name ≠ lit "Content-Length" → name ≠ lit "Content-Type" →
    request.paramMap[name]? = firstSent (fun p => p.1 == name && !isCgiVar p.1 &&
      !icompareEq p.1 (lit "Content-Length")) sent
  contentLength : request.paramMap[lit "Content-Length"]? =
    firstSent (fun p => icompareEq p.1 (lit "Content-Length") ||
      icompareEq p.1 (lit "CONTENT_LENGTH")) sent
  contentType : request.paramMap[lit "Content-Type"]? =
    firstSent (fun p => p.1 == lit "Content-Type" ||
      icompareEq p.1 (lit "CONTENT_TYPE") && !p.2.isEmpty) sent
  uri : request.uri = (lastSent (fun p => icompareEq p.1 (lit "REQUEST_URI")) sent).getD []
  method : request.method =
    (lastSent (fun p => icompareEq p.1 (lit "REQUEST_METHOD")) sent).getD []

/-- A map into which some headers are inserted. -/
theorem addHeaders_map (field : HNSCGIMsg → StrMap Str) (f : Str × Str → Option (Str × Str))
    (hfield : ∀ (msg : HNSCGIMsg) (p : Str × Str), field (msg.addSCGIRequestHeader p.1 p.2) =
      match f p with
      | some entry => (field msg).insertIfNew entry.1 entry.2
      | none => field msg) :
    ∀ (sent : List (Str × Str)) (msg : HNSCGIMsg),
      field (addHeaders msg sent) = OrdMap.insertAll (field msg) (sent.filterMap f)
  | [], _ => rfl
  | p :: sent, msg => by
      have ih := addHeaders_map field f hfield sent (msg.addSCGIRequestHeader p.1 p.2)
      rw [show addHeaders msg (p :: sent) =
        addHeaders (msg.addSCGIRequestHeader p.1 p.2) sent from rfl, ih, hfield]
      cases h : f p with
      | none => rw [List.filterMap_cons_none h]
      | some entry =>
        rw [List.filterMap_cons_some h]
        rfl

/-- A field that each matching header overwrites holds the last one. -/
theorem addHeaders_field (field : HNSCGIMsg → Str) (c : Str × Str → Bool)
    (hfield : ∀ (msg : HNSCGIMsg) (p : Str × Str),
      field (msg.addSCGIRequestHeader p.1 p.2) = if c p then p.2 else field msg)
    (sent : List (Str × Str)) (msg : HNSCGIMsg) :
    field (addHeaders msg sent) = (lastSent c sent).getD (field msg) := by
  induction sent using List.reverseRecOn with
  | nil => rfl
  | append_singleton sent p ih =>
    have hlast : addHeaders msg (sent ++ [p]) =
        (addHeaders msg sent).addSCGIRequestHeader p.1 p.2 := by
      simp [addHeaders]
    rw [hlast, hfield, ih]
    by_cases h : c p = true
    · simp [lastSent, firstSent, h]
    · simp [lastSent, firstSent, h]

/-- Looking a key up among the pairs some function picks. -/
theorem find_filterMap {f : Str × Str → Option (Str × Str)} {c : Str × Str → Bool} {key : Str}
    (hkey : ∀ p, c p = (f p).any fun q => q.1 = key)
    (hvalue : ∀ p q, f p = some q → q.2 = p.2) :
    ∀ sent : List (Str × Str),
      ((sent.filterMap f).find? fun q => q.1 = key).map Prod.snd = firstSent c sent
  | [] => rfl
  | p :: sent => by
      have ih := find_filterMap hkey hvalue sent
      have hp := hkey p
      cases hf : f p with
      | none =>
        have hc : c p = false := by rw [hp, hf]; rfl
        rw [List.filterMap_cons_none hf, ih]
        simp [firstSent, hc]
      | some q =>
        have hc : c p = decide (q.1 = key) := by rw [hp, hf]; rfl
        rw [List.filterMap_cons_some hf]
        by_cases hq : q.1 = key
        · simp [firstSent, hc, hq, hvalue p q hf]
        · rw [List.find?_cons_of_neg (by simpa using hq), ih]
          simp [firstSent, hc, hq]

/-- What is found in the CGI variables. -/
theorem cgiVarMap_get (sent : List (Str × Str)) (name : Str) :
    (addHeaders HNSCGIMsg.new sent).cgiVarMap[name]? =
      firstSent (fun p => p.1 == name && isCgiVar p.1) sent := by
  have hmap := addHeaders_map HNSCGIMsg.cgiVarMap cgiVarOf (by
    intro msg p
    rw [addSCGIRequestHeader_eq, cgiVarOf]
    cases isCgiVar p.1 <;> rfl) sent HNSCGIMsg.new
  have hfind : ((sent.filterMap cgiVarOf).find? fun q => q.1 = name).map Prod.snd =
      firstSent (fun p => p.1 == name && isCgiVar p.1) sent := by
    apply find_filterMap
    · intro p
      cases h : isCgiVar p.1 <;> simp [cgiVarOf, h, beq_eq_decide]
    · intro p q hq
      cases h : isCgiVar p.1 <;> simp [cgiVarOf, h] at hq
      rw [hq]
  rw [hmap, OrdMap.get_insertAll, hfind]
  simp [HNSCGIMsg.new]

/-- The value is passed on, whatever the name becomes. -/
theorem headerOf_value {p q : Str × Str} (h : headerOf p = some q) : q.2 = p.2 := by
  unfold headerOf at h
  repeat' split at h
  all_goals cases h
  all_goals rfl

/-- What is found in the header map. -/
theorem paramMap_get {c : Str × Str → Bool} {name : Str}
    (hc : ∀ p, c p = (headerOf p).any fun q => q.1 = name) (sent : List (Str × Str)) :
    (addHeaders HNSCGIMsg.new sent).paramMap[name]? = firstSent c sent := by
  have hmap := addHeaders_map HNSCGIMsg.paramMap headerOf (by
    intro msg p
    rw [addSCGIRequestHeader_eq]) sent HNSCGIMsg.new
  rw [hmap, OrdMap.get_insertAll, find_filterMap hc fun _ _ => headerOf_value]
  simp [HNSCGIMsg.new]

/-- A name without an underscore is none of the CGI names. -/
theorem icompareEq_of_plain {name s : Str} (hname : name.contains 95 = false)
    (hs : s.contains 95 = true) : icompareEq name s = false := by
  by_contra h
  rw [Bool.not_eq_false] at h
  rw [contains_of_icompareEq h, hs] at hname
  cases hname

/-- The names that become "Content-Length". -/
theorem headerOf_contentLength (p : Str × Str) :
    (icompareEq p.1 (lit "Content-Length") || icompareEq p.1 (lit "CONTENT_LENGTH")) =
      (headerOf p).any fun q => q.1 = lit "Content-Length" := by
  have htype : lit "Content-Type" ≠ lit "Content-Length" := by decide
  by_cases hscgi : icompareEq p.1 (lit "SCGI") = true
  · have hcl : icompareEq p.1 (lit "Content-Length") = false := icompareEq_excl (by decide) hscgi
    have hcgi : icompareEq p.1 (lit "CONTENT_LENGTH") = false := icompareEq_excl (by decide) hscgi
    simp [headerOf, hscgi, hcl, hcgi]
  by_cases hvar : p.1.contains 95 = true
  · have hcl : icompareEq p.1 (lit "Content-Length") = false := by
      by_contra h
      rw [Bool.not_eq_false] at h
      rw [contains_of_icompareEq h] at hvar
      exact absurd hvar (by decide)
    by_cases hcgi : icompareEq p.1 (lit "CONTENT_LENGTH") = true
    · simp only [headerOf, hscgi, hvar, hcgi, hcl]
      simp
    · simp only [headerOf, hscgi, hvar, hcgi, hcl]
      cases icompareEq p.1 (lit "CONTENT_TYPE") <;> cases p.2.isEmpty <;> simp [htype]
  · have hplain : p.1.contains 95 = false := by simpa using hvar
    have hcgi := icompareEq_of_plain (s := lit "CONTENT_LENGTH") hplain (by decide)
    by_cases hcl : icompareEq p.1 (lit "Content-Length") = true
    · simp only [headerOf, hscgi, hvar, hcgi, hcl]
      simp
    · have hne : p.1 ≠ lit "Content-Length" := by
        intro h
        rw [h] at hcl
        exact hcl (by decide)
      simp only [headerOf, hscgi, hvar, hcgi, hcl]
      simp [hne]

/-- The names that become "Content-Type". -/
theorem headerOf_contentType (p : Str × Str) :
    (p.1 == lit "Content-Type" || icompareEq p.1 (lit "CONTENT_TYPE") && !p.2.isEmpty) =
      (headerOf p).any fun q => q.1 = lit "Content-Type" := by
  have hlength : lit "Content-Length" ≠ lit "Content-Type" := by decide
  by_cases hname : p.1 = lit "Content-Type"
  · obtain ⟨name, value⟩ := p
    obtain rfl : name = lit "Content-Type" := hname
    have hscgi : icompareEq (lit "Content-Type") (lit "SCGI") = false := by decide
    have hvar : (lit "Content-Type").contains 95 = false := by decide
    have hcl : icompareEq (lit "Content-Type") (lit "Content-Length") = false := by decide
    simp only [headerOf, hscgi, hvar, hcl]
    simp
  have hbeq : (p.1 == lit "Content-Type") = false := by simpa using hname
  by_cases hscgi : icompareEq p.1 (lit "SCGI") = true
  · have hcgi : icompareEq p.1 (lit "CONTENT_TYPE") = false := icompareEq_excl (by decide) hscgi
    simp [headerOf, hscgi, hbeq, hcgi]
  by_cases hvar : p.1.contains 95 = true
  · by_cases hct : icompareEq p.1 (lit "CONTENT_TYPE") = true
    · have hcl : icompareEq p.1 (lit "CONTENT_LENGTH") = false := icompareEq_excl (by decide) hct
      simp only [headerOf, hscgi, hvar, hct, hcl, hbeq]
      cases p.2.isEmpty <;> simp
    · simp only [headerOf, hscgi, hvar, hct, hbeq]
      cases icompareEq p.1 (lit "CONTENT_LENGTH") <;> simp [hlength]
  · have hplain : p.1.contains 95 = false := by simpa using hvar
    have hct := icompareEq_of_plain (s := lit "CONTENT_TYPE") hplain (by decide)
    simp only [headerOf, hscgi, hvar, hct, hbeq]
    cases icompareEq p.1 (lit "Content-Length") <;> simp [hlength, hname]

/-- Every other name stays what it is. -/
theorem headerOf_other {name : Str} (hlength : name ≠ lit "Content-Length")
    (htype : name ≠ lit "Content-Type") (p : Str × Str) :
    (p.1 == name && !isCgiVar p.1 && !icompareEq p.1 (lit "Content-Length")) =
      (headerOf p).any fun q => q.1 = name := by
  have hlength' : lit "Content-Length" ≠ name := hlength.symm
  have htype' : lit "Content-Type" ≠ name := htype.symm
  simp only [headerOf, isCgiVar]
  cases icompareEq p.1 (lit "SCGI") <;> cases p.1.contains 95 <;>
    cases icompareEq p.1 (lit "CONTENT_LENGTH") <;> cases icompareEq p.1 (lit "CONTENT_TYPE") <;>
    cases p.2.isEmpty <;> cases icompareEq p.1 (lit "Content-Length") <;>
    simp [hlength', htype', beq_eq_decide]

/-- **What a request holds of the pairs sent.** -/
theorem addHeaders_decoded (sent : List (Str × Str)) :
    Decoded sent (addHeaders HNSCGIMsg.new sent) where
  cgiVars name := cgiVarMap_get sent name
  headers name hlength htype := paramMap_get (headerOf_other hlength htype) sent
  contentLength := paramMap_get headerOf_contentLength sent
  contentType := paramMap_get headerOf_contentType sent
  uri := addHeaders_field HNSCGIMsg.uri _ (by intro msg p; rw [addSCGIRequestHeader_eq]) sent _
  method :=
    addHeaders_field HNSCGIMsg.method _ (by intro msg p; rw [addSCGIRequestHeader_eq]) sent _

/-! ## §4. Headers that are delivered. -/

variable {fd : Nat} {stream : List UInt8} {calls : List (List (List UInt8))}

/-- What a delivered stream ends in, given the reader's way through it. -/
theorem delivered_record {st : HeaderState} {rest : List UInt8} (h : Delivers fd stream calls)
    (hreads : Reads headerReader (.len []) stream st rest) (hfinal : st.final = true) :
    (deliverFresh fd calls).1 = st.record fd ∧ (deliverFresh fd calls).2.bytes = rest := by
  obtain ⟨st', hrecord, hreads', hsettled⟩ := h.reading
  obtain ⟨rfl, hbytes⟩ := hreads'.settled_unique hreads hsettled (.inr hfinal)
  exact ⟨hrecord, hbytes⟩

/-- The request of a block of pairs. -/
theorem parsedRequest_encode (pairs : List (Str × Str)) (hnul : NulFree pairs) :
    parsedRequest (encodePairs pairs) =
      (addHeaders HNSCGIMsg.new (sentPairs pairs)).setHeaderDone true := by
  rw [parsedRequest, extractPairs_encode pairs HNSCGIMsg.new hnul]
  rfl

/-- However it is delivered, a block is parsed as a whole, and nothing behind it. -/
theorem delivered_request {fd : Nat} {block body : List UInt8} {calls : List (List (List UInt8))}
    (hlen : block.length < 2 ^ 32) (h : Delivers fd (netstring block ++ body) calls) :
    (deliverFresh fd calls).1.rxState = .hdrDone ∧ (deliverFresh fd calls).2.bytes = body ∧
      (deliverFresh fd calls).1.request = parsedRequest block := by
  have hreads := (reads_netstring hlen).append body
  rw [List.nil_append] at hreads
  obtain ⟨hrecord, hbytes⟩ := delivered_record h hreads rfl
  rw [hrecord]
  exact ⟨rfl, hbytes, rfl⟩

/-- **A header is decoded to the values sent**, without their quotes, however
it is delivered; what follows it is left for the body. -/
theorem decode_delivered (fd : Nat) (pairs : List (Str × Str)) (body : List UInt8)
    (calls : List (List (List UInt8))) (hnul : NulFree pairs)
    (hlen : (encodePairs pairs).length < 2 ^ 32)
    (h : Delivers fd (netstring (encodePairs pairs) ++ body) calls) :
    (deliverFresh fd calls).1.rxState = .hdrDone ∧
      (deliverFresh fd calls).2.bytes = body ∧
      Decoded (sentPairs pairs) (deliverFresh fd calls).1.request := by
  obtain ⟨hstate, hbytes, hrequest⟩ := delivered_request hlen h
  have hdecoded := addHeaders_decoded (sentPairs pairs)
  refine ⟨hstate, hbytes, ?_⟩
  rw [hrequest, parsedRequest_encode pairs hnul]
  -- the flag is none of the fields
  exact ⟨hdecoded.cgiVars, hdecoded.headers, hdecoded.contentLength, hdecoded.contentType,
    hdecoded.uri, hdecoded.method⟩

/-! ## §5. Two headers. -/

/-- A method, a length and a cookie in quotes. -/
def samplePairs : List (Str × Str) :=
  [(lit "CONTENT_LENGTH", lit "5"), (lit "REQUEST_METHOD", lit "POST"),
    (lit "Cookie", lit "a=\"b\"")]

theorem decode_delivered_sample :
    (deliverFresh 7 [[netstring (encodePairs samplePairs) ++ lit "hello"]]).2.bytes =
      lit "hello" ∧
    Decoded (sentPairs samplePairs)
      (deliverFresh 7 [[netstring (encodePairs samplePairs) ++ lit "hello"]]).1.request :=
  (decode_delivered 7 samplePairs (lit "hello") _ (by unfold NulFree; decide) (by decide)
    ⟨by decide, by simp, .inr (.inl (by decide +kernel))⟩).2

/-- What a request holds when every value is stored as it was sent. -/
structure DecodedAsSent (pairs : List (Str × Str)) (request : HNSCGIMsg) : Prop where
  cgiVars : ∀ p ∈ pairs, p.1 = lit "SCGI" ∨ 95 ∈ p.1 → request.cgiVarMap[p.1]? = some p.2
  headers : ∀ p ∈ pairs, ¬ (p.1 = lit "SCGI" ∨ 95 ∈ p.1) → request.paramMap[p.1]? = some p.2
  uri : ∀ p ∈ pairs, p.1 = lit "REQUEST_URI" → request.uri = p.2
  method : ∀ p ∈ pairs, p.1 = lit "REQUEST_METHOD" → request.method = p.2
  onlyVars : ∀ name ∈ request.cgiVarMap, ∃ p ∈ pairs, p.1 = name
  onlyHeaders : ∀ name ∈ request.paramMap,
    name = lit "Content-Length" ∨ name = lit "Content-Type" ∨ ∃ p ∈ pairs, p.1 = name

/-- **A quote is dropped**: the variable A_B, sent with the value '"', is
empty. -/
theorem decode_drops_quote :
    ¬ ∀ (pairs : List (Str × Str)) (calls : List (List (List UInt8))),
      (pairs.map Prod.fst).Nodup → NulFree pairs → (∀ p ∈ pairs, p.1 ≠ []) →
      Delivers 7 (netstring (encodePairs pairs)) calls →
      (deliverFresh 7 calls).1.rxState = .hdrDone ∧
        DecodedAsSent pairs (deliverFresh 7 calls).1.request := by
  intro h
  obtain ⟨-, hsent⟩ := h [(lit "A_B", [34])] [[netstring (encodePairs [(lit "A_B", [34])])]]
    (by decide) (by unfold NulFree; decide) (by decide)
    ⟨by decide, by simp, .inr (.inl (by decide +kernel))⟩
  have hvalue := hsent.cgiVars (lit "A_B", [34]) (by simp) (.inr (by decide))
  revert hvalue
  decide +kernel

end HNodeMgmt.Scgi
