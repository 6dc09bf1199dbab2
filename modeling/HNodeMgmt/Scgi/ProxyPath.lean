/-
  HNodeMgmt.Scgi.ProxyPath — the request target a proxied request is sent with.

  The URI of a request is parsed, which decodes its path; the segments behind
  the device are joined to a path again and this is SET in the URI of the new
  request, which decodes it a second time; the request target is that URI's
  path, encoded once.  A request for the device alone has no segments left, and
  an empty path.

  Main results:
    * `proxy_path_iff` — a request reaches the path it asks for exactly when it
      asks for at least one segment, and no segment, decoded, is empty or has a
      slash or a percent sign in it.
    * `proxy_path_misses` — the device alone, a percent sign, and a slash.
-/
import Mathlib.Tactic.Common
import Mathlib.Data.List.TakeWhile
import HNodeMgmt.Lib.Percent
import HNodeMgmt.RefPlatform
import HNodeMgmt.Scgi.Pipeline

namespace HNodeMgmt.Scgi

open Lib Arbiter

/-! ## §1. The request target. -/

/-- The setters of `Poco::URI` that the helper calls. -/
class URISetters [Platform] where
  /-- The default constructor. -/
  newURI : Platform.URI
  setScheme : Platform.URI → Str → Platform.URI
  setHost : Platform.URI → Str → Platform.URI
  setPort : Platform.URI → UInt16 → Platform.URI
  setRawQuery : Platform.URI → Str → Platform.URI
  /-- `none` is its exception. -/
  setPath : Platform.URI → Str → Option Platform.URI

/-- `HNProxyPocoHelper`: what `init` sets of it, the session and the request. -/
structure HNProxyPocoHelper [Platform] where
  uri : Platform.URI
  sessionHost : Str
  sessionPort : UInt16
  requestMethod : Str
  requestURI : Str

section

variable [Platform] [URISetters]

open URISetters

/-- `init`; `reqMsg` is the request of the ticket's record.  `none` is an
exception. -/
def HNProxyPocoHelper.init (reqTicket : HNProxyTicket) (reqMsg : HNSCGIMsg) :
    Option HNProxyPocoHelper :=
  let uri := setScheme newURI (lit "http")
  let uri := setHost uri reqTicket.address
  let uri := setPort uri reqTicket.port
  let uri := setRawQuery uri reqTicket.queryStr
  (setPath uri reqTicket.proxyPath).map fun uri =>
    { uri, sessionHost := Platform.uriHost uri, sessionPort := Platform.uriPort uri
      requestMethod := reqMsg.method, requestURI := Platform.uriPathAndQuery uri }

/-- The request target a request is sent on with: a ticket is made of it, and the
helper is set up from the ticket. -/
def proxyTarget (rr : Nat) (request : HNSCGIMsg) (connInfo : Option HNMDARAddress) : Option Str :=
  (checkForProxyRequest rr request connInfo).bind fun reqTicket =>
    reqTicket.bind fun reqTicket =>
      (HNProxyPocoHelper.init reqTicket request).map HNProxyPocoHelper.requestURI

/-- A query as it stands behind a path. -/
def queryPart : Option Str → Str
  | none => []
  | some query => 63 :: query

/-- What `Poco::URI` does: the constructor and `setPath` decode the path, the
segments are the parts of the decoded path that are not empty, and
`getPathAndQuery` encodes the path and leaves the query as it is. -/
structure DocumentedURI (escaped : UInt8 → Bool) : Prop where
  parsed : ∀ {path p : Str} {query : Option Str}, path.head? = some 47 → 63 ∉ path → 35 ∉ path →
    (∀ text ∈ query, 35 ∉ text) → percentDecode path = some p →
    ∃ uri, Platform.parseURI (path ++ queryPart query) = some uri ∧ Platform.uriPath uri = p ∧
      Platform.uriRawQuery uri = query.getD []
  segments : ∀ uri, Platform.uriPathSegments uri = segmentsOf 47 (Platform.uriPath uri)
  querySet : ∀ uri query, Platform.uriRawQuery (setRawQuery uri query) = query
  pathSet : ∀ uri path, (setPath uri path).map Platform.uriPath = percentDecode path
  pathSet_query : ∀ {uri path uri'}, setPath uri path = some uri' →
    Platform.uriRawQuery uri' = Platform.uriRawQuery uri
  pathAndQuery : ∀ uri, Platform.uriPathAndQuery uri =
    percentEncode escaped (Platform.uriPath uri) ++
      if (Platform.uriRawQuery uri).isEmpty then [] else 63 :: Platform.uriRawQuery uri
  escapes : escaped 37 = true ∧ escaped 63 = true ∧ escaped 47 = false

end

/-! ## §2. The property. -/

/-- A request URI `/hnode2/mgmt/device-proxy/{id}/s1/.../sn?q`, with what its
parts are decoded. -/
structure DeviceProxyURI where
  id : Str
  segments : List Str
  query : Option Str
  crc32ID : Str
  decoded : List Str
  id_decoded : percentDecode id = some crc32ID
  segments_decoded : segments.mapM percentDecode = some decoded
  /-- The characters that end a segment or the path are written as escapes. -/
  parts_plain : ∀ part ∈ id :: segments, 47 ∉ part ∧ 63 ∉ part ∧ 35 ∉ part
  query_plain : ∀ text ∈ query, 35 ∉ text
  /-- The key of a device is a hexadecimal number. -/
  known : crc32ID ≠ [] ∧ 47 ∉ crc32ID

namespace DeviceProxyURI

def path (r : DeviceProxyURI) : Str :=
  joined 47 (lit "hnode2" :: lit "mgmt" :: lit "device-proxy" :: r.id :: r.segments)

def text (r : DeviceProxyURI) : Str := r.path ++ queryPart r.query

end DeviceProxyURI

/-- The part of a request target in front of the query. -/
def targetPath (target : Str) : Str := target.takeWhile (· ≠ 63)

def targetQuery (target : Str) : Str := (target.dropWhile (· ≠ 63)).tail

/-- A path has these segments; "/" also stands for none. -/
def Spells (path : Str) (segments : List Str) : Prop :=
  path.head? = some 47 ∧ ((path.splitOn 47).tail = segments ∨ path = [47] ∧ segments = [])

/-- The target asks for the segments and the query of the URI. -/
def AsksFor (target : Str) (r : DeviceProxyURI) : Prop :=
  (∃ segments, Spells (targetPath target) segments ∧
    segments.mapM percentDecode = some r.decoded) ∧ targetQuery target = r.query.getD []

/-- The segments it asks for are those between the slashes, if there are any. -/
theorem AsksFor.parts {target : Str} {r : DeviceProxyURI} (h : AsksFor target r) :
    (targetPath target).head? = some 47 ∧
      (((targetPath target).splitOn 47).tail.mapM percentDecode = some r.decoded ∨
        r.decoded = []) := by
  obtain ⟨⟨segments, ⟨hhead, hparts⟩, hdecoded⟩, -⟩ := h
  refine ⟨hhead, ?_⟩
  rcases hparts with rfl | ⟨-, rfl⟩
  · exact .inl hdecoded
  · exact .inr (Option.some.inj hdecoded).symm

/-- At least one segment, and none that is empty or has a slash or a percent
sign in it. -/
def PlainSegments (segments : List Str) : Prop :=
  segments ≠ [] ∧ ∀ segment ∈ segments, segment ≠ [] ∧ 47 ∉ segment ∧ 37 ∉ segment

/-! ## §3. Decoded twice and encoded once. -/

/-- The path `q` keeps these segments. -/
def Keeps (segments : List Str) (q : Str) : Prop :=
  q.head? = some 47 ∧ (q.splitOn 47).tail = segments ∨ q = [47] ∧ segments = []

section

variable {escaped : UInt8 → Bool}

/-- What an encoded path spells, it spelled before it was encoded. -/
theorem spells_encoded (hpercent : escaped 37 = true) (hslash : escaped 47 = false)
    {q : Str} {decoded : List Str} :
    (∃ segments, Spells (percentEncode escaped q) segments ∧
      segments.mapM percentDecode = some decoded) ↔ Keeps decoded q := by
  have hhead := head?_percentEncode (by decide) hslash q
  have hroot : percentEncode escaped q = [47] ↔ q = [47] := by
    constructor
    · intro heq
      have hdecode := percentDecode_encode hpercent q
      rw [heq] at hdecode
      exact (Option.some.inj hdecode).symm
    · intro heq
      subst heq
      exact percentEncode_cons hslash []
  have hparts : ((percentEncode escaped q).splitOn 47).tail =
      (q.splitOn 47).tail.map (percentEncode escaped) := by
    rw [splitOn_percentEncode (by decide) hslash, List.map_tail]
  unfold Spells Keeps
  rw [hhead, hroot, hparts]
  constructor
  · intro h
    obtain ⟨segments, ⟨hslash', rfl | ⟨rfl, rfl⟩⟩, hdecoded⟩ := h
    · rw [mapM_percentDecode_encode hpercent] at hdecoded
      exact .inl ⟨hslash', Option.some.inj hdecoded⟩
    · exact .inr ⟨rfl, by simpa using hdecoded⟩
  · intro h
    rcases h with ⟨hslash', rfl⟩ | ⟨rfl, rfl⟩
    · exact ⟨_, ⟨hslash', .inl rfl⟩, mapM_percentDecode_encode hpercent _⟩
    · exact ⟨[], ⟨rfl, .inr ⟨rfl, rfl⟩⟩, rfl⟩

/-- The parts of a path that has these segments: there is one, and no slash in any. -/
theorem parts_of_keeps {segments : List Str} {q : Str} (hhead : q.head? = some 47)
    (hparts : (q.splitOn 47).tail = segments) :
    q = joined 47 segments ∧ segments ≠ [] ∧ ∀ segment ∈ segments, 47 ∉ segment := by
  obtain ⟨rest, rfl⟩ := List.head?_eq_some_iff.mp hhead
  rw [splitOn_cons_self, List.tail_cons] at hparts
  subst hparts
  refine ⟨(joined_splitOn rest).symm, List.splitOn_ne_nil 47 rest, ?_⟩
  intro segment hmem
  exact not_mem_of_mem_splitOn hmem

/-- **The second decoding keeps the segments exactly when they are plain.** -/
theorem keeps_iff (segments : List Str) :
    (∃ q, percentDecode (joined 47 (segments.flatMap (segmentsOf 47))) = some q ∧
      Keeps segments q) ↔ PlainSegments segments := by
  have hkept := percentDecode_filter_iff (c := 47) (by decide) segments
  constructor
  · intro h
    obtain ⟨q, hdecode, ⟨hhead, hparts⟩ | ⟨rfl, rfl⟩⟩ := h
    · obtain ⟨rfl, hne, hslash⟩ := parts_of_keeps hhead hparts
      rw [flatMap_segmentsOf hslash] at hdecode
      obtain ⟨hempty, hpercent⟩ := hkept.mp hdecode
      refine ⟨hne, fun segment hmem => ⟨?_, hslash segment hmem, hpercent segment hmem⟩⟩
      intro heq
      subst heq
      exact hempty hmem
    · -- nothing decodes to "/" when there are no segments
      cases hdecode
  · intro ⟨hne, hsegments⟩
    have hslash : ∀ segment ∈ segments, 47 ∉ segment :=
      fun segment hmem => (hsegments segment hmem).2.1
    have hdecode := hkept.mpr ⟨fun hmem => (hsegments [] hmem).1 rfl,
      fun segment hmem => (hsegments segment hmem).2.2⟩
    rw [flatMap_segmentsOf hslash]
    refine ⟨_, hdecode, .inl ⟨?_, ?_⟩⟩
    · obtain ⟨first, rest, rfl⟩ := List.exists_cons_of_ne_nil hne
      rfl
    · rw [splitOn_joined hslash, List.tail_cons]

end

/-- The path and the query of a request target are read back. -/
theorem target_parts {path : Str} (query : Str) (h : 63 ∉ path) :
    targetPath (path ++ if query.isEmpty then [] else 63 :: query) = path ∧
    targetQuery (path ++ if query.isEmpty then [] else 63 :: query) = query := by
  have hplain : ∀ c ∈ path, decide (c ≠ 63) = true := by
    intro c hc
    exact decide_eq_true fun heq => h (heq ▸ hc)
  unfold targetPath targetQuery
  rw [List.takeWhile_append_of_pos hplain, List.dropWhile_append_of_pos hplain]
  cases query with
  | nil => exact ⟨List.append_nil path, rfl⟩
  | cons c query => exact ⟨List.append_nil path, rfl⟩

/-! ## §4. Through the ticket. -/

section

variable [Platform] [URISetters] {escaped : UInt8 → Bool}

omit [Platform] [URISetters] in
/-- The path of the request decodes to the decoded parts. -/
theorem decoded_path (r : DeviceProxyURI) :
    percentDecode r.path = some (joined 47
      (lit "hnode2" :: lit "mgmt" :: lit "device-proxy" :: r.crc32ID :: r.decoded)) := by
  refine percentDecode_joined (by decide) ?_
  have hroot : percentDecode (lit "hnode2") = some (lit "hnode2") := by decide +kernel
  have hmgmt : percentDecode (lit "mgmt") = some (lit "mgmt") := by decide +kernel
  have hproxy : percentDecode (lit "device-proxy") = some (lit "device-proxy") := by decide +kernel
  simp only [List.mapM_cons, hroot, hmgmt, hproxy, r.id_decoded, r.segments_decoded]
  rfl

omit [Platform] [URISetters] in
/-- Neither a question mark nor a hash sign is in the path. -/
theorem path_plain (r : DeviceProxyURI) {c : UInt8} (hc : c = 63 ∨ c = 35) : c ∉ r.path := by
  intro hmem
  have hne : c ≠ 47 := by rcases hc with rfl | rfl <;> decide +kernel
  obtain ⟨part, hpart, hin⟩ := (mem_joined hne).mp hmem
  have hfixed : ∀ name ∈ [lit "hnode2", lit "mgmt", lit "device-proxy"], c ∉ name := by
    rcases hc with rfl | rfl <;> decide +kernel
  rcases List.mem_append.mp (show part ∈ [lit "hnode2", lit "mgmt", lit "device-proxy"] ++
    r.id :: r.segments from hpart) with hname | hpart
  · exact hfixed part hname hin
  · obtain ⟨-, hquestion, hhash⟩ := r.parts_plain part hpart
    rcases hc with rfl | rfl
    · exact hquestion hin
    · exact hhash hin

/-- **A ticket is made**, with the query as it is and the segments of the decoded
path behind the device. -/
theorem ticket_made (hpoco : DocumentedURI escaped) (rr : Nat) {request : HNSCGIMsg}
    (dcInfo : HNMDARAddress) {r : DeviceProxyURI} (huri : request.uri = r.text) :
    ∃ ticket, checkForProxyRequest rr request (some dcInfo) = some (some ticket) ∧
      ticket.queryStr = r.query.getD [] ∧
      ticket.proxyPath = joined 47 (r.decoded.flatMap (segmentsOf 47)) := by
  obtain ⟨uri, hparse, hpath, hquery⟩ := hpoco.parsed rfl (path_plain r (.inl rfl))
    (path_plain r (.inr rfl)) r.query_plain (decoded_path r)
  -- the fixed parts and the device are one segment each
  have hsegments : Platform.uriPathSegments uri = lit "hnode2" :: lit "mgmt" ::
      lit "device-proxy" :: r.crc32ID :: r.decoded.flatMap (segmentsOf 47) := by
    have hid : segmentsOf 47 r.crc32ID = [r.crc32ID] := by
      rw [segmentsOf_part r.known.2]
      cases hcrc : r.crc32ID with
      | nil => exact absurd hcrc r.known.1
      | cons => rfl
    have hroot : segmentsOf 47 (lit "hnode2") = [lit "hnode2"] := by decide +kernel
    have hmgmt : segmentsOf 47 (lit "mgmt") = [lit "mgmt"] := by decide +kernel
    have hproxy : segmentsOf 47 (lit "device-proxy") = [lit "device-proxy"] := by decide +kernel
    rw [hpoco.segments, hpath, ← List.nil_append (joined 47 _), segmentsOf_append_joined]
    simp only [List.flatMap_cons, hroot, hmgmt, hproxy, hid]
    rfl
  refine ⟨{ rr, crc32ID := r.crc32ID, address := dcInfo.address, port := dcInfo.port
            queryStr := Platform.uriRawQuery uri
            proxyPath := buildProxyPath (r.decoded.flatMap (segmentsOf 47)) }, ?_, hquery, rfl⟩
  unfold checkForProxyRequest
  rw [huri, show r.text = r.path ++ queryPart r.query from rfl, hparse, Option.map_some, hsegments]
  rfl

/-- The request target: the path decoded once more and encoded, and the query. -/
theorem requestURI_init (hpoco : DocumentedURI escaped) (ticket : HNProxyTicket)
    (reqMsg : HNSCGIMsg) : (HNProxyPocoHelper.init ticket reqMsg).map (·.requestURI) =
      (percentDecode ticket.proxyPath).map fun q => percentEncode escaped q ++
        if ticket.queryStr.isEmpty then [] else 63 :: ticket.queryStr := by
  have hinit : ∀ base, Platform.uriRawQuery base = ticket.queryStr →
      (URISetters.setPath base ticket.proxyPath).map Platform.uriPathAndQuery =
        (percentDecode ticket.proxyPath).map fun q => percentEncode escaped q ++
          if ticket.queryStr.isEmpty then [] else 63 :: ticket.queryStr := by
    intro base hbase
    rw [← hpoco.pathSet base ticket.proxyPath]
    cases hset : URISetters.setPath base ticket.proxyPath with
    | none => rfl
    | some uri =>
      have hquery := hpoco.pathSet_query hset
      rw [hbase] at hquery
      rw [Option.map_some, Option.map_some, Option.map_some, hpoco.pathAndQuery, hquery]
  unfold HNProxyPocoHelper.init
  rw [Option.map_map]
  exact hinit _ (hpoco.querySet _ _)

/-- **A proxied request reaches the path it asks for exactly when** it asks for a
segment behind the device, and none of its segments decodes to nothing or to
text with a slash or a percent sign. -/
theorem proxy_path_iff (hpoco : DocumentedURI escaped) (rr : Nat) (request : HNSCGIMsg)
    (dcInfo : HNMDARAddress) (r : DeviceProxyURI) (huri : request.uri = r.text) :
    (∃ target, proxyTarget rr request (some dcInfo) = some target ∧ AsksFor target r) ↔
      PlainSegments r.decoded := by
  obtain ⟨hpercent, hquestion, hslash⟩ := hpoco.escapes
  obtain ⟨ticket, hticket, hquery, hpath⟩ := ticket_made hpoco rr dcInfo huri
  have htarget : proxyTarget rr request (some dcInfo) =
      (percentDecode (joined 47 (r.decoded.flatMap (segmentsOf 47)))).map fun q =>
        percentEncode escaped q ++
          if (r.query.getD []).isEmpty then [] else 63 :: r.query.getD [] := by
    rw [← hpath, ← hquery, ← requestURI_init hpoco ticket request, proxyTarget, hticket]
    rfl
  -- what the target asks for is what the path decoded twice keeps
  have hasks : ∀ q, AsksFor (percentEncode escaped q ++
      if (r.query.getD []).isEmpty then [] else 63 :: r.query.getD []) r ↔ Keeps r.decoded q := by
    intro q
    obtain ⟨htp, htq⟩ := target_parts (r.query.getD [])
      (not_mem_percentEncode (c := 63) (by decide) hquestion q)
    unfold AsksFor
    rw [htp, htq, spells_encoded hpercent hslash]
    exact and_iff_left rfl
  rw [← keeps_iff, htarget]
  constructor
  · intro h
    obtain ⟨target, hsent, hreach⟩ := h
    obtain ⟨q, hdecode, rfl⟩ := Option.map_eq_some_iff.mp hsent
    exact ⟨q, hdecode, (hasks q).mp hreach⟩
  · intro h
    obtain ⟨q, hdecode, hkeeps⟩ := h
    rw [hdecode]
    exact ⟨_, rfl, (hasks q).mpr hkeeps⟩

end

/-! ## §5. URIs as Poco keeps them. -/

/-- A URI with its path decoded. -/
structure PocoURI where
  scheme : Str
  host : Str
  port : UInt16
  path : Str
  query : Str
  deriving DecidableEq, Repr

namespace PocoURI

/-- A path and a query. -/
def parsePathEtc (s : Str) : Option PocoURI :=
  (percentDecode (s.takeWhile (· ≠ 63))).map fun path =>
    { scheme := [], host := [], port := 0, path, query := (s.dropWhile (· ≠ 63)).tail }

/-- The constructor, for a URI that starts with its path; a fragment is dropped. -/
def parse (s : Str) : Option PocoURI := parsePathEtc (s.takeWhile (· ≠ 35))

/-- What is escaped in a path: control characters, what is not ASCII, and the
characters that are reserved or not allowed there. -/
def escaped (c : UInt8) : Bool :=
  c ≤ 32 || 127 ≤ c || [33, 34, 35, 36, 37, 39, 40, 41, 42, 44, 60, 62, 63, 91, 92, 93, 94, 96,
    123, 124, 125].contains c

def getPathAndQuery (uri : PocoURI) : Str :=
  percentEncode escaped uri.path ++ if uri.query.isEmpty then [] else 63 :: uri.query

scoped instance platform : Platform where
  HNodeID := RefPlatform.platform.HNodeID
  newHNodeID := RefPlatform.platform.newHNodeID
  setFromStr := RefPlatform.platform.setFromStr
  clear := RefPlatform.platform.clear
  getStr := RefPlatform.platform.getStr
  getCRC32 := RefPlatform.platform.getCRC32
  getCRC32AsHexStr := RefPlatform.platform.getCRC32AsHexStr
  parseIP := RefPlatform.platform.parseIP
  URI := PocoURI
  parseURI := parse
  httpURI host port path := { scheme := lit "http", host, port, path, query := [] }
  uriToString uri := uri.getPathAndQuery
  uriPath := PocoURI.path
  uriSetPath uri path := (percentDecode path).map fun path => { uri with path }
  uriHost := PocoURI.host
  uriPort := PocoURI.port
  uriPathAndQuery := getPathAndQuery
  uriPathSegments uri := segmentsOf 47 uri.path
  uriRawQuery := PocoURI.query
  Caches := Unit
  updateDeviceHealth c _ _ := (c, false)
  getUncachedStrRefList _ _ := some []
  updateStringDefinitions c _ _ := (c, false)

scoped instance setters : URISetters where
  newURI := ({ scheme := [], host := [], port := 0, path := [], query := [] } : PocoURI)
  setScheme uri scheme := ({ (uri : PocoURI) with scheme } : PocoURI)
  setHost uri host := ({ (uri : PocoURI) with host } : PocoURI)
  setPort uri port := ({ (uri : PocoURI) with port } : PocoURI)
  setRawQuery uri query := ({ (uri : PocoURI) with query } : PocoURI)
  setPath uri path := (percentDecode path).map fun path => ({ (uri : PocoURI) with path } : PocoURI)

/-- These are as documented. -/
theorem documented : DocumentedURI escaped where
  parsed := by
    intro path p query _ hquestion hhash hquery hdecode
    -- there is no fragment, and the first question mark is that of the query
    have hfront : (path ++ queryPart query).takeWhile (· ≠ 35) = path ++ queryPart query := by
      refine List.takeWhile_eq_self_iff.mpr ?_
      intro c hc
      refine decide_eq_true fun heq => ?_
      subst heq
      rcases List.mem_append.mp hc with hc | hc
      · exact hhash hc
      · cases query with
        | none => cases hc
        | some text =>
          rcases List.mem_cons.mp hc with heq | hc
          · cases heq
          · exact hquery text rfl hc
    have hplain : ∀ c ∈ path, decide (c ≠ 63) = true := by
      intro c hc
      exact decide_eq_true fun heq => hquestion (heq ▸ hc)
    show ∃ uri, parse (path ++ queryPart query) = some uri ∧ uri.path = p ∧
      uri.query = query.getD []
    rw [parse, hfront, parsePathEtc, List.takeWhile_append_of_pos hplain,
      List.dropWhile_append_of_pos hplain]
    cases query with
    | none =>
      rw [show path ++ (queryPart none).takeWhile (· ≠ 63) = path from List.append_nil path,
        hdecode]
      exact ⟨_, rfl, rfl, rfl⟩
    | some text =>
      rw [show path ++ (queryPart (some text)).takeWhile (· ≠ 63) = path from
        List.append_nil path, hdecode]
      exact ⟨_, rfl, rfl, rfl⟩
  segments uri := rfl
  querySet uri query := rfl
  pathSet uri path := by
    show Option.map _ (Option.map _ (percentDecode path)) = _
    rw [Option.map_map]
    exact Option.map_id'
  pathSet_query := by
    intro uri path uri' hset
    obtain ⟨p, -, rfl⟩ := Option.map_eq_some_iff.mp hset
    rfl
  pathAndQuery uri := rfl
  escapes := by decide +kernel

end PocoURI

/-! ### Four requests for a device. -/

section Sample

open scoped PocoURI

/-- The URI of a request for the device "2c1b21da", by the text of its segments
and what they decode to. -/
def deviceURI (segments decoded : List Str) (query : Option Str)
    (h : segments.mapM percentDecode = some decoded ∧
      (∀ part ∈ segments, 47 ∉ part ∧ 63 ∉ part ∧ 35 ∉ part) ∧ ∀ text ∈ query, 35 ∉ text) :
    DeviceProxyURI where
  id := lit "2c1b21da"
  segments := segments
  query := query
  crc32ID := lit "2c1b21da"
  decoded := decoded
  id_decoded := by decide +kernel
  segments_decoded := h.1
  parts_plain part hpart := by
    rcases List.mem_cons.mp hpart with rfl | hpart
    · decide +kernel
    · exact h.2.1 part hpart
  query_plain := h.2.2
  known := by decide +kernel

/-- A request with this URI. -/
def getRequest (r : DeviceProxyURI) : HNSCGIMsg :=
  { HNSCGIMsg.new with method := lit "GET", uri := r.text }

/-- Where the device is. -/
def deviceAddress : HNMDARAddress :=
  { type := .ipv4, dnsName := [], address := lit "192.168.1.20", port := 8080 }

def namedURI : DeviceProxyURI :=
  deviceURI [lit "hnode2", lit "n%61me"] [lit "hnode2", lit "name"] (some (lit "q=%2F"))
    (by decide +kernel)

theorem proxy_path_sample :
    ∃ target, proxyTarget 0 (getRequest namedURI) (some deviceAddress) = some target ∧
      AsksFor target namedURI := by
  have hplain : PlainSegments namedURI.decoded := by
    unfold PlainSegments
    decide +kernel
  exact (proxy_path_iff PocoURI.documented 0 (getRequest namedURI) deviceAddress namedURI rfl).mpr
    hplain

/-- The device alone; a segment "50%"; a segment "a/b"; a segment "%41". -/
def aloneURI : DeviceProxyURI := deviceURI [] [] none (by decide +kernel)

def percentURI : DeviceProxyURI :=
  deviceURI [lit "50%25"] [lit "50%"] none (by decide +kernel)

def slashURI : DeviceProxyURI := deviceURI [lit "a%2Fb"] [lit "a/b"] none (by decide +kernel)

def twiceURI : DeviceProxyURI := deviceURI [lit "%2541"] [lit "%41"] none (by decide +kernel)

/-- **None of them reaches its path**: the target is empty, there is none, it
has two segments, it has another segment. -/
theorem proxy_path_misses :
    proxyTarget 0 (getRequest aloneURI) (some deviceAddress) = some [] ∧
    proxyTarget 0 (getRequest percentURI) (some deviceAddress) = none ∧
    proxyTarget 0 (getRequest slashURI) (some deviceAddress) = some (lit "/a/b") ∧
    proxyTarget 0 (getRequest twiceURI) (some deviceAddress) = some (lit "/A") ∧
    ∀ r ∈ [aloneURI, percentURI, slashURI, twiceURI], ¬∃ target,
      proxyTarget 0 (getRequest r) (some deviceAddress) = some target ∧ AsksFor target r := by
  have halone : proxyTarget 0 (getRequest aloneURI) (some deviceAddress) = some [] := by
    decide +kernel
  have hpercent : proxyTarget 0 (getRequest percentURI) (some deviceAddress) = none := by
    decide +kernel
  have hslash : proxyTarget 0 (getRequest slashURI) (some deviceAddress) = some (lit "/a/b") := by
    decide +kernel
  have htwice : proxyTarget 0 (getRequest twiceURI) (some deviceAddress) = some (lit "/A") := by
    decide +kernel
  refine ⟨halone, hpercent, hslash, htwice, fun r hr => ?_⟩
  intro h
  obtain ⟨target, hsent, hasks⟩ := h
  obtain ⟨hhead, hparts⟩ := hasks.parts
  simp only [List.mem_cons, List.not_mem_nil, or_false] at hr
  rcases hr with rfl | rfl | rfl | rfl
  · obtain rfl := Option.some.inj (halone.symm.trans hsent)
    cases hhead
  · cases hpercent.symm.trans hsent
  · obtain rfl := Option.some.inj (hslash.symm.trans hsent)
    exact absurd hparts (by decide +kernel)
  · obtain rfl := Option.some.inj (htwice.symm.trans hsent)
    exact absurd hparts (by decide +kernel)

end Sample

end HNodeMgmt.Scgi
