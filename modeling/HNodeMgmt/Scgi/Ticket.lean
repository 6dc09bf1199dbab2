/-
  HNodeMgmt.Scgi.Ticket — who a request is proxied to.

  `checkForProxyRequest` breaks the URI of a request into segments, compares
  the first three, looks up the device the fourth one names, and joins the
  others to a path again.  The ticket it makes is all the proxy goes by.

  Main results:
    * `checkForProxyRequestOf_eq` — the check of the pipeline, with what the
      lookup finds.
    * `ticket_exact` — a ticket is made exactly for a known device with a plain
      IPv4 address, and asks it for the segments behind its ID.
-/
import Mathlib.Tactic.Common
import HNodeMgmt.Arbiter.Addresses
import HNodeMgmt.Lib.Percent
import HNodeMgmt.Scgi.Pipeline

namespace HNodeMgmt.Scgi

open Lib Arbiter

section

variable [Platform]

/-! ## §1. The check. -/

/-- The connection info the check declares. -/
def newAddress : HNMDARAddress := { type := .notset, dnsName := [], address := [], port := 0 }

/-- `checkForProxyRequest`, with the arbiter the device is looked up in; the
outer `none` is the exception of `Poco::URI`. -/
def checkForProxyRequestOf (a : HNManagedDeviceArbiter) (rr : Nat) (request : HNSCGIMsg) :
    Option (Option HNProxyTicket) :=
  (Platform.parseURI request.uri).map fun uri =>
    match Platform.uriPathSegments uri with
    | root :: mgmt :: proxy :: crc32ID :: rest =>
      if root ≠ lit "hnode2" || mgmt ≠ lit "mgmt" || proxy ≠ lit "device-proxy" then none
      else
        match a.lookupConnectionInfo crc32ID .ipv4 newAddress with
        | (dcInfo, .success) =>
          some
            { rr, crc32ID, address := dcInfo.address, port := dcInfo.port
              queryStr := Platform.uriRawQuery uri, proxyPath := buildProxyPath rest }
        | _ => none
    | _ => none

/-- What the lookup finds for a request. -/
def lookedUp (a : HNManagedDeviceArbiter) (request : HNSCGIMsg) : Option HNMDARAddress :=
  (Platform.parseURI request.uri).bind fun uri =>
    match (Platform.uriPathSegments uri)[3]? with
    | none => none
    | some crc32ID =>
      match a.lookupConnectionInfo crc32ID .ipv4 newAddress with
      | (dcInfo, .success) => some dcInfo
      | _ => none

variable {a : HNManagedDeviceArbiter} {rr : Nat} {request : HNSCGIMsg}

/-- The check that the pipeline makes is this one. -/
theorem checkForProxyRequestOf_eq (a : HNManagedDeviceArbiter) (rr : Nat)
    (request : HNSCGIMsg) :
    checkForProxyRequestOf a rr request =
      checkForProxyRequest rr request (lookedUp a request) := by
  unfold checkForProxyRequestOf checkForProxyRequest lookedUp
  cases Platform.parseURI request.uri with
  | none => rfl
  | some uri =>
    simp only [Option.map_some, Option.bind_some]
    rcases Platform.uriPathSegments uri with
      _ | ⟨root, _ | ⟨mgmt, _ | ⟨proxy, _ | ⟨crc32ID, rest⟩⟩⟩⟩
    -- fewer than four segments
    · rfl
    · rfl
    · rfl
    · rfl
    · by_cases hother : (root ≠ lit "hnode2" || mgmt ≠ lit "mgmt" || proxy ≠ lit "device-proxy") =
          true
      · simp only [if_pos hother]
      · simp only [if_neg hother]
        show some _ = some (Option.map _ (match a.lookupConnectionInfo crc32ID .ipv4 newAddress with
          | (dcInfo, .success) => some dcInfo
          | _ => none))
        generalize a.lookupConnectionInfo crc32ID .ipv4 newAddress = found
        obtain ⟨dcInfo, result⟩ := found
        cases result <;> rfl

/-- The segments of a URI for the proxy. -/
def proxySegments (id : Str) (rest : List Str) : List Str :=
  lit "hnode2" :: lit "mgmt" :: lit "device-proxy" :: id :: rest

/-- A request that is not for the proxy gets no ticket. -/
theorem check_other {uri : Platform.URI} (huri : Platform.parseURI request.uri = some uri)
    (hother : ∀ id rest, Platform.uriPathSegments uri ≠ proxySegments id rest) :
    checkForProxyRequestOf a rr request = some none := by
  unfold checkForProxyRequestOf
  rw [huri, Option.map_some]
  split
  next root mgmt proxy crc32ID rest hsegments =>
    rw [if_pos]
    by_contra hfixed
    simp only [Bool.or_eq_true, decide_eq_true_eq, not_or, not_not] at hfixed
    obtain ⟨⟨rfl, rfl⟩, rfl⟩ := hfixed
    exact hother crc32ID rest hsegments
  next => rfl

/-- One that is for it gets what the lookup allows. -/
theorem check_proxy {uri : Platform.URI} (huri : Platform.parseURI request.uri = some uri)
    {id : Str} {rest : List Str}
    (hsegments : Platform.uriPathSegments uri = proxySegments id rest) :
    checkForProxyRequestOf a rr request = some (
      match a.lookupConnectionInfo id .ipv4 newAddress with
      | (dcInfo, .success) =>
        some
          { rr, crc32ID := id, address := dcInfo.address, port := dcInfo.port
            queryStr := Platform.uriRawQuery uri, proxyPath := buildProxyPath rest }
      | _ => none) := by
  unfold checkForProxyRequestOf
  rw [huri, Option.map_some, hsegments]
  rfl

omit [Platform] in
/-- The path of parts that are not empty and have no slash has these parts. -/
theorem segmentsOf_buildProxyPath {segments : List Str}
    (h : ∀ segment ∈ segments, segment ≠ [] ∧ 47 ∉ segment) :
    segmentsOf 47 (buildProxyPath segments) = segments := by
  have hjoined : buildProxyPath segments = [] ++ joined 47 segments := rfl
  rw [hjoined, segmentsOf_append_joined, flatMap_segmentsOf fun part hpart => (h part hpart).2,
    filter_nonempty fun hmem => (h [] hmem).1 rfl]
  rfl

/-! ## §2. The ticket. -/

/-- The first address of a record that is classified as plain IPv4. -/
def FirstIPv4 (device : HNMDARecord) (addr : HNMDARAddress) : Prop :=
  ∃ before after, device.addrList = before ++ addr :: after ∧ addr.type = .ipv4 ∧
    ∀ other ∈ before, other.type ≠ .ipv4

/-- The ticket goes to the device its ID names: to its first plain address, with
the query of the URI, and with a path whose segments are those behind the ID. -/
def TicketFor (a : HNManagedDeviceArbiter) (rr : Nat) (uri : Platform.URI)
    (ticket : HNProxyTicket) : Prop :=
  ∃ (rest : List Str) (device : HNMDARecord) (addr : HNMDARAddress),
    Platform.uriPathSegments uri = proxySegments ticket.crc32ID rest ∧
    a.deviceMap[ticket.crc32ID]? = some device ∧ FirstIPv4 device addr ∧
    ticket.rr = rr ∧ ticket.address = addr.address ∧ ticket.port = addr.port ∧
    ticket.queryStr = Platform.uriRawQuery uri ∧ segmentsOf 47 ticket.proxyPath = rest

/-- The lookup succeeds for a known device that has a plain address, and gives
the first. -/
theorem lookup_ipv4 (a : HNManagedDeviceArbiter) (id : Str) :
    (a.lookupConnectionInfo id .ipv4 newAddress = (newAddress, .failure) ∧
      ¬ ∃ (device : HNMDARecord) (addr : HNMDARAddress), a.deviceMap[id]? = some device ∧
        addr ∈ device.addrList ∧ addr.type = .ipv4) ∨
    ∃ (device : HNMDARecord) (addr found : HNMDARAddress), a.deviceMap[id]? = some device ∧
      FirstIPv4 device addr ∧ a.lookupConnectionInfo id .ipv4 newAddress = (found, .success) ∧
      found.address = addr.address ∧ found.port = addr.port := by
  cases hfind : (addrsOf a id).find? fun addr => addr.type == .ipv4 with
  | none =>
    refine .inl ⟨lookup_none newAddress hfind, ?_⟩
    intro ⟨device, addr, hget, hmem, htype⟩
    rw [addrsOf_of_get hget] at hfind
    exact List.find?_eq_none.mp hfind addr hmem (beq_iff_eq.mpr htype)
  | some addr =>
    have hlookup := lookup_some newAddress hfind
    cases hget : a.deviceMap[id]? with
    | none =>
      rw [addrsOf, hget] at hfind
      cases hfind
    | some device =>
      rw [addrsOf_of_get hget] at hfind
      obtain ⟨htype, before, after, hlist, hbefore⟩ := List.find?_eq_some_iff_append.mp hfind
      refine .inr ⟨device, addr, _, rfl, ⟨before, after, hlist, beq_iff_eq.mp htype, ?_⟩, hlookup,
        rfl, rfl⟩
      intro other hother heq
      have hnot := hbefore other hother
      rw [heq] at hnot
      cases hnot

/-- **Proxying only targets announced devices.**  For every URI that is accepted
and every arbiter: a ticket is made exactly when the first three segments are
those of the proxy, and the fourth is the ID of a known record with a plain IPv4
address; and it is the ticket for that record.  Segments are assumed not to be
empty and to have no slash. -/
theorem ticket_exact
    (hpoco : ∀ (uri : Platform.URI), ∀ segment ∈ Platform.uriPathSegments uri,
      segment ≠ [] ∧ 47 ∉ segment)
    (a : HNManagedDeviceArbiter) (rr : Nat) (request : HNSCGIMsg) (uri : Platform.URI)
    (huri : Platform.parseURI request.uri = some uri) :
    ((∃ ticket, checkForProxyRequestOf a rr request = some (some ticket)) ↔
      ∃ (id : Str) (rest : List Str) (device : HNMDARecord) (addr : HNMDARAddress),
        Platform.uriPathSegments uri = proxySegments id rest ∧
        a.deviceMap[id]? = some device ∧ addr ∈ device.addrList ∧ addr.type = .ipv4) ∧
    (∀ ticket, checkForProxyRequestOf a rr request = some (some ticket) →
      TicketFor a rr uri ticket) ∧
    checkForProxyRequestOf a rr request ≠ none := by
  by_cases hproxy : ∃ id rest, Platform.uriPathSegments uri = proxySegments id rest
  · obtain ⟨id, rest, hsegments⟩ := hproxy
    have hrest : ∀ segment ∈ rest, segment ≠ [] ∧ 47 ∉ segment := by
      intro segment hmem
      refine hpoco uri segment ?_
      rw [hsegments]
      simp [proxySegments, hmem]
    rw [check_proxy huri hsegments]
    rcases lookup_ipv4 a id with ⟨hlookup, hnone⟩ | ⟨device, addr, found, hget, hfirst, hlookup,
      haddress, hport⟩
    · rw [hlookup]
      refine ⟨iff_of_false ?_ ?_, ?_, ?_⟩
      · intro ⟨ticket, hticket⟩
        cases hticket
      · intro ⟨id', rest', device, addr, hsegments', hget, hmem, htype⟩
        -- the same four segments
        obtain ⟨rfl, -⟩ : id = id' ∧ rest = rest' := by
          simpa [proxySegments] using (hsegments.symm.trans hsegments')
        exact hnone ⟨device, addr, hget, hmem, htype⟩
      · intro ticket hticket
        cases hticket
      · intro heq
        cases heq
    · rw [hlookup]
      have hfirst' := hfirst
      obtain ⟨before, after, hlist, htype, -⟩ := hfirst'
      refine ⟨iff_of_true ⟨_, rfl⟩ ⟨id, rest, device, addr, hsegments, hget, ?_, htype⟩, ?_, ?_⟩
      · rw [hlist]
        simp
      · intro ticket hticket
        obtain rfl := Option.some.inj (Option.some.inj hticket)
        exact ⟨rest, device, addr, hsegments, hget, hfirst, rfl, haddress, hport, rfl,
          segmentsOf_buildProxyPath hrest⟩
      · intro heq
        cases heq
  · have hnone : checkForProxyRequestOf a rr request = some none :=
      check_other huri fun id rest heq => hproxy ⟨id, rest, heq⟩
    refine ⟨iff_of_false ?_ ?_, ?_, ?_⟩
    · intro ⟨ticket, hticket⟩
      cases hnone.symm.trans hticket
    · intro ⟨id, rest, _, _, hsegments, _⟩
      exact hproxy ⟨id, rest, hsegments⟩
    · intro ticket hticket
      cases hnone.symm.trans hticket
    · rw [hnone]
      exact fun heq => by cases heq

end

/-! ### A device that was announced. -/

section Sample

open RefPlatform

/-- A request for a page of a device. -/
def sampleProxyRequest : HNSCGIMsg :=
  { HNSCGIMsg.new with uri := lit "/hnode2/mgmt/device-proxy/4900fb4e/status" }

/-- The request goes to the address that was announced. -/
theorem ticket_exact_sample :
    ∃ ts s uri ticket, Run system (Sys.init sampleManager ()) ts s ∧
      Platform.parseURI sampleProxyRequest.uri = some uri ∧
      checkForProxyRequestOf s.arbiter 0 sampleProxyRequest = some (some ticket) ∧
      TicketFor s.arbiter 0 uri ticket := by
  have hpoco : ∀ (uri : Platform.URI), ∀ segment ∈ Platform.uriPathSegments uri,
      segment ≠ [] ∧ 47 ∉ segment := by
    intro uri segment hmem
    obtain ⟨hpart, hfull⟩ := List.mem_filter.mp hmem
    exact ⟨by simpa using hfull, not_mem_of_mem_splitOn hpart⟩
  obtain ⟨ts, s, hr, hp⟩ := Machine.exists_run_of_exec (M := system)
    (s := Sys.init sampleManager ()) (l := [.notifyDiscoverAdd sampleDeviceFound])
    (p := fun r => (checkForProxyRequestOf r.2.arbiter 0 sampleProxyRequest).join.isSome)
    (by decide +kernel)
  obtain ⟨uri, huri⟩ : ∃ uri, Platform.parseURI sampleProxyRequest.uri = some uri :=
    Option.isSome_iff_exists.mp (by decide +kernel)
  obtain ⟨ticket, hticket⟩ := Option.isSome_iff_exists.mp hp
  have hmade := Option.join_eq_some_iff.mp hticket
  exact ⟨ts, s, uri, ticket, hr, huri, hmade,
    (ticket_exact hpoco s.arbiter 0 sampleProxyRequest uri huri).2.1 ticket hmade⟩

end Sample

end HNodeMgmt.Scgi
