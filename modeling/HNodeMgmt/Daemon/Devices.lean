/-
  HNodeMgmt.Daemon.Devices — requests for the paths of devices.

  A path below `device-proxy` names a device and goes on with a path of the
  device.  None of the paths that the manager's own document lists looks like
  this, so such a request is passed on to the device or not found at all; and
  whether it is depends on what had been announced when the main thread got to
  it, which may be long before the client reads the response.

  Main results:
    * `unlisted` — a device's path is none of the manager's own.
    * `device_answered` — what a client gets that asks for one.
-/
import Mathlib.Tactic.Common
import HNodeMgmt.Daemon.Api

namespace HNodeMgmt.Daemon

open Lib Arbiter Scgi

section Devices

variable [Platform] [RestPaths] {ι : Type} {envs : ι → LocalEnv} {request : HNSCGIMsg}
  {uri : Platform.URI} {id : Str} {rest : List Str}
  {ts : List (Trans (Mgmtd ι) (MgmtdLabel ι) MgmtdEvent)} {s : Mgmtd ι} {rr : Nat}
  {sameMethod : Str → Str → Bool}

/-! ## §1. Not one of the manager's own. -/

/-- **A device's path is none of the manager's own.** -/
theorem unlisted (hpaths : DocumentedRestPath sameMethod) (hplain : PlainPaths)
    (huri : Platform.parseURI request.uri = some uri)
    (hsegments : Platform.uriPathSegments uri = proxySegments id rest) :
    mappedTo (registered ownPathList) request = none := by
  rcases registered_cases hpaths hplain huri with ⟨hnone, -⟩ | ⟨-, -, e, hmem, values, hasked, -⟩
  · exact hnone
  · obtain ⟨-, text, htext, hpart⟩ := own_table.2 e hmem
    have hthird := hasked.path.fixed_get hpart
    rw [hsegments] at hthird
    obtain rfl : lit "device-proxy" = text := Option.some.inj hthird
    exact absurd htext (by decide +kernel)

/-! ## §2. What a client gets. -/

omit [Platform] [RestPaths] in
/-- A path names one device, with one rest. -/
theorem proxySegments_inj {id' : Str} {rest' : List Str}
    (h : proxySegments id rest = proxySegments id' rest') : id = id' ∧ rest = rest' := by
  unfold proxySegments at h
  obtain ⟨-, h⟩ := List.cons.inj h
  obtain ⟨-, h⟩ := List.cons.inj h
  obtain ⟨-, h⟩ := List.cons.inj h
  exact List.cons.inj h

omit [RestPaths] in
/-- Without an address there is no ticket. -/
theorem unannounced_of_lookup {mgmtDevice : HNodeDevice} {caches : Platform.Caches}
    {before : List (Trans Sys Label Event)} {sys : Sys}
    (hr : Run system (Sys.init mgmtDevice caches) before sys)
    (huri : Platform.parseURI request.uri = some uri)
    (hsegments : Platform.uriPathSegments uri = proxySegments id rest)
    (hnone : lookedUp sys.arbiter request = none) :
    ∀ e ∈ announced id before, addressType e.2.1 ≠ .ipv4 := by
  cases hfirst : (announced id before).find? fun e => addressType e.2.1 == .ipv4 with
  | none =>
    intro e hmem htype
    exact List.find?_eq_none.mp hfirst e hmem (beq_iff_eq.mpr htype)
  | some first =>
    obtain ⟨latest, -, hfound⟩ := lookup_of_first hr newAddress hfirst
    unfold lookedUp at hnone
    rw [huri, Option.bind_some, hsegments] at hnone
    simp only [proxySegments, List.getElem?_cons_succ, List.getElem?_cons_zero, hfound] at hnone
    cases hnone

omit [RestPaths] in
/-- A ticket for a device's path is made whenever there is an address. -/
theorem connInfo_none {connInfo : Option HNMDARAddress}
    (huri : Platform.parseURI request.uri = some uri)
    (hsegments : Platform.uriPathSegments uri = proxySegments id rest)
    (hown : checkForProxyRequest rr request connInfo = some none) : connInfo = none := by
  unfold checkForProxyRequest at hown
  rw [huri, Option.map_some, hsegments] at hown
  exact Option.map_eq_none_iff.mp (Option.some.inj hown)

omit [RestPaths] in
/-- The device was asked: the sequencer has carried out a ticket with this request, and
the ticket asks for the path behind the name, with the query, under an address that
had been announced when the main thread made it. -/
def PassedOn (envs : ι → LocalEnv) (handler : Str → List Str → Option HNOperationData)
    (ts : List (Trans (Mgmtd ι) (MgmtdLabel ι) MgmtdEvent)) (rr : Nat)
    (request : HNSCGIMsg) (uri : Platform.URI) (id : Str) (rest : List Str)
    (response : Response) : Prop :=
  ∃ before t after ticket o, ts = before ++ t :: after ∧
    (pipelinePart envs handler).label t.pre t.label = some (.execute o) ∧
    t.pre.pipe.seqHand = some ticket ∧ ticket.rr = rr ∧
    executeProxyRequest request o = .posted response ∧
    ticket.crc32ID = id ∧ ticket.proxyPath = buildProxyPath rest ∧
    ticket.queryStr = Platform.uriRawQuery uri ∧
    ∃ before₀ t₀ after₀, before = before₀ ++ t₀ :: after₀ ∧ t₀.pre.pipe.mainHand = some rr ∧
      AnnouncedAs (announced id ((arbiterPart envs handler).trace before₀))
        ticket.address ticket.port

omit [RestPaths] in
/-- The device was not to be asked: when the main thread had the request in its hand,
no plain IPv4 address had been announced for it. -/
def NotAnnounced (envs : ι → LocalEnv) (handler : Str → List Str → Option HNOperationData)
    (ts : List (Trans (Mgmtd ι) (MgmtdLabel ι) MgmtdEvent)) (rr : Nat) (id : Str) : Prop :=
  ∃ before t after, ts = before ++ t :: after ∧ t.pre.pipe.mainHand = some rr ∧
    ∀ e ∈ announced id ((arbiterPart envs handler).trace before), addressType e.2.1 ≠ .ipv4

/-- **What a client gets that asks for a device's path.**  When the sink sends the
response, it is to the client's connection, and either the sequencer has asked the
device and the response is the one that this has given, with its content, or no
address of the device had been announced in time, and the client reads Not
Found. -/
theorem device_answered (hpaths : DocumentedRestPath sameMethod) (hplain : PlainPaths)
    (envs : ι → LocalEnv) (mgmtDevice : HNodeDevice) (caches : Platform.Caches)
    (ts : List (Trans (Mgmtd ι) (MgmtdLabel ι) MgmtdEvent)) (s : Mgmtd ι)
    (hr : Run (hnmgmtd envs (registered ownPathList)) (Mgmtd.init mgmtDevice caches) ts s)
    (hbuffers : StepsMeet ownBuffers ((pipelinePart envs (registered ownPathList)).trace ts))
    (l : MgmtdLabel ι) (s' : Mgmtd ι) (es : List MgmtdEvent)
    (hstep : (hnmgmtd envs (registered ownPathList)).step s l = some (s', es)) (rr fd : Nat)
    (owner : Option DescrOwner) (hsent : MgmtdEvent.pipe (.sent rr fd owner) ∈ es)
    (request : HNSCGIMsg)
    (hrequest : request =
      requestRead fd rr ((pipelinePart envs (registered ownPathList)).trace ts))
    (uri : Platform.URI) (huri : Platform.parseURI request.uri = some uri) (id : Str)
    (rest : List Str) (hsegments : Platform.uriPathSegments uri = proxySegments id rest) :
    owner = some (.client rr) ∧
    ∃ client, s.pipe.heap[rr]? = some client ∧ client.rr.fd = fd ∧
      (PassedOn envs (registered ownPathList) ts rr request uri id rest client.rr.response ∨
        NotAnnounced envs (registered ownPathList) ts rr id ∧
          client.rr.response.Reads (.empty 404 (lit "Not Found"))) := by
  obtain ⟨howner, client, hget, hfd, hread, hanswered⟩ := sent_served hr hbuffers hstep hsent
  rw [← hrequest] at hread
  refine ⟨howner, client, hget, hfd, ?_⟩
  obtain ⟨before, t, after, l', m, rfl, hrun, hm, hpipe, hgave⟩ :=
    gave_of_answered hr hbuffers hget hanswered
  rw [hread] at hgave
  cases hgave with
  | @device o ticket connInfo label hand get made gives =>
    obtain rfl : l' = .execute o := label
    obtain ⟨client', hget', rfl⟩ := get
    have hrr : ticket.rr = rr := ticket_rr made
    subst hrr
    have hmem : ticket ∈ ticketsOf t.pre.pipe := by
      have hhand : t.pre.pipe.seqHand = some ticket := hand
      simp [ticketsOf, hhand]
    obtain ⟨uri', rest', huri', hsegments', hquery, hpath, hannounced⟩ :=
      (madeBy_run hrun hmem hget').names hrun
    obtain rfl := Option.some.inj (huri.symm.trans huri')
    obtain ⟨rfl, rfl⟩ := proxySegments_inj (hsegments.symm.trans hsegments')
    have hlabel : (pipelinePart envs (registered ownPathList)).label t.pre t.label =
        some (.execute o) := Option.bind_eq_some_iff.mpr ⟨m, hm, hpipe⟩
    exact .inl ⟨before, t, after, ticket, o, rfl, hlabel, hand, rfl, gives, rfl, hpath, hquery,
      hannounced⟩
  | @manager connInfo answer label hand get own gives =>
    obtain rfl : l' = .dispatch connInfo answer := label
    have hdispatch : m.pipe = some (.dispatch connInfo answer) := hpipe
    obtain ⟨client', hget', hsame⟩ := get
    have hrequest' : IsRequest t.pre rr request := ⟨client', hget', hsame⟩
    obtain rfl := connInfo_none huri hsegments own
    have hunlisted := unlisted hpaths hplain huri hsegments
    generalize t.label = label at hm
    cases moved_of_moves hm with
    | aside work undispatched => exact absurd hdispatch (undispatched none answer)
    | @passed env fuel req statusCode rr' connInfo idle hand' looked =>
      obtain rfl := Option.some.inj (hand'.symm.trans hand)
      obtain ⟨rfl, rfl⟩ := PipeLabel.dispatch.inj (Option.some.inj hdispatch)
      have hlooked : lookedUp t.pre.sys.arbiter request = none := (looked _ hrequest').1.symm
      have hsys := (arbiterPart envs (registered ownPathList)).run hrun
      have hnobody : mapProxyRequest request .noHandler = .noHandler := by
        rw [mapProxyRequest, huri]
      rcases gives with hhandled | ⟨-, hresponse⟩
      · cases hnobody.symm.trans hhandled
      · rw [hresponse]
        exact .inr ⟨⟨before, t, after, rfl, hand,
          unannounced_of_lookup hsys huri hsegments hlooked⟩, notFound_reads⟩
    | begun => cases hdispatch
    | accessed => cases hdispatch
    | @finished w c work done returns =>
      -- an operation of the manager is not below `device-proxy`
      obtain ⟨rr', hw⟩ := working_run hrun work
      obtain rfl := Option.some.inj (hw.hand.symm.trans hand)
      cases hunlisted.symm.trans (hw.mapped _ hrequest')

end Devices

/-! ### The status of the garden. -/

section Sample

open RefPlatform RefPath

/-- The garden answers, and that is what the client gets. -/
theorem device_answered_sample :
    ∃ ts s, Run (hnmgmtd sampleEnvs (registered ownPathList)) (Mgmtd.init sampleManager ()) ts s ∧
      ∃ request uri client, s.pipe.heap[0]? = some client ∧
        PassedOn sampleEnvs (registered ownPathList) ts 0 request uri (lit "4900fb4e")
          [lit "status"] client.rr.response := by
  obtain ⟨ts, s, hr, hp⟩ := Machine.exists_run_of_exec
    (M := hnmgmtd sampleEnvs (registered ownPathList)) (s := Mgmtd.init sampleManager ())
    (l := asked (lit "/hnode2/mgmt/device-proxy/4900fb4e/status") ++ [.others .takeTicket,
      .others (.execute { initiated := true, transferred := none, response := some .new }),
      .others .forward])
    (p := fun r =>
      buffersOwn ((pipelinePart sampleEnvs (registered ownPathList)).trace r.1) &&
      ((requestRead 5 0 ((pipelinePart sampleEnvs (registered ownPathList)).trace r.1)).uri ==
        lit "/hnode2/mgmt/device-proxy/4900fb4e/status" &&
      (((hnmgmtd sampleEnvs (registered ownPathList)).step r.2 (.others .respond)).any (fun r =>
          r.2.contains (.pipe (.sent 0 5 (some (.client 0))))) &&
        (List.range r.1.length).all fun n => r.1[n]?.all fun t =>
          t.pre.pipe.mainHand != some 0 ||
            (announced (lit "4900fb4e") ((arbiterPart sampleEnvs
              (registered ownPathList)).trace (r.1.take n))).any fun e =>
                addressType e.2.1 == .ipv4)))
    (by decide +kernel)
  obtain ⟨hown, hp⟩ := Bool.and_eq_true_iff.mp hp
  obtain ⟨huri, hp⟩ := Bool.and_eq_true_iff.mp hp
  obtain ⟨hp, hannounced⟩ := Bool.and_eq_true_iff.mp hp
  have hparsed : (Platform.parseURI (lit "/hnode2/mgmt/device-proxy/4900fb4e/status")).map
      Platform.uriPathSegments = some (proxySegments (lit "4900fb4e") [lit "status"]) := by
    decide +kernel
  obtain ⟨uri, hparse, hsegments⟩ := Option.map_eq_some_iff.mp hparsed
  cases hstep : (hnmgmtd sampleEnvs (registered ownPathList)).step s (.others .respond) with
  | none =>
    rw [hstep] at hp
    cases hp
  | some sent =>
    rw [hstep] at hp
    obtain ⟨-, client, hget, -, hcases⟩ :=
      device_answered documented plainPaths_ref sampleEnvs sampleManager () ts s hr
        (ownBuffers_of_decided hown) (.others .respond) sent.1 sent.2 hstep 0 5 _
        (List.contains_iff_mem.mp hp) _ rfl uri (by rw [beq_iff_eq.mp huri]; exact hparse) _ _
        hsegments
    rcases hcases with hpassed | ⟨⟨before, t, after, rfl, hhand, hnone⟩, -⟩
    · exact ⟨ts, s, hr, _, uri, client, hget, hpassed⟩
    · -- the address was there when the main thread had the request
      have hat := List.all_eq_true.mp hannounced before.length (by simp)
      simp only [List.getElem?_append_right (Nat.le_refl _), Nat.sub_self, List.getElem?_cons_zero,
        Option.all_some, hhand, bne_self_eq_false, Bool.false_or, List.take_left',
        List.any_eq_true, beq_iff_eq] at hat
      obtain ⟨e, hmem, htype⟩ := hat
      exact absurd htype (hnone e hmem)

end Sample

end HNodeMgmt.Daemon
