/-
  HNodeMgmt.Arbiter.ServiceURI — where the two polls send their requests.

  `getServiceProviderURI` returns the empty string for a service the record does
  not provide, and `getServiceProviderURIWithExtendedPath` makes a URI of it: the
  empty string parses, so the FAILURE that its callers look for never comes.  The
  monitor asks for the health source before it goes on to poll a device; for the
  string source nobody asks.

  Main results:
    * `gaveURI_run` — a URI that a record has for a service was in a reply of its
      device.
    * `pollsPublished_iff` — a poll is sound EXACTLY when there is a URI and
      nothing raises before the session.
    * `published_only_iff` — the same in every reachable state.
    * `polled_nowhere` — a string source that is polled and was never published.
-/
import Mathlib.Tactic.Common
import HNodeMgmt.Arbiter.LockDiscipline
import HNodeMgmt.Arbiter.Mapped
import HNodeMgmt.Arbiter.SrvEdits
import HNodeMgmt.Arbiter.HealthSource

namespace HNodeMgmt.Arbiter

open Lib

section ServiceURI

variable [Platform]

/-! ## §1. What a device has published. -/

/-- Some element gives this URI for the type. -/
def Lists (elems : List (Option JsonObject)) (srvType uri : Str) : Prop :=
  ∃ jsSrvObj, some jsSrvObj ∈ elems ∧ jsSrvObj.getString (lit "type") = some srvType ∧
    jsSrvObj.getString (lit "uri") = some uri

/-- The step is a reply of the device to the monitor's question for its services,
with this URI for the type. -/
def GaveURI (key srvType uri : Str) (t : Trans Sys Label Event) : Prop :=
  ∃ st o elems, t.pre.monitor = .waiting key st .updateDeviceServicesProvideInfo ∧
    t.label = .reply o ∧ o.receive = .ok (some (.array elems)) ∧ Lists elems srvType uri

omit [Platform] in
theorem mem_of_mem_reached {elem : Option JsonObject} :
    ∀ {elems : List (Option JsonObject)}, elem ∈ reached elems → elem ∈ elems
  | first :: elems, h => by
      unfold reached at h
      split at h
      next => exact List.mem_cons.mpr (.inl (List.mem_singleton.mp h))
      next =>
        rcases List.mem_cons.mp h with heq | hmem
        · exact List.mem_cons.mpr (.inl heq)
        · exact List.mem_cons.mpr (.inr (mem_of_mem_reached hmem))

omit [Platform] in
/-- The last URI given for a type is one that is listed. -/
theorem lists_of_latest {elems : List (Option JsonObject)} {t uri : Str}
    (h : latest SrvEdit.uri t (srvEdits elems) = some uri) : Lists elems t uri := by
  obtain ⟨edit, hedit, hgiven⟩ := List.mem_filterMap.mp (List.mem_of_getLast? h)
  obtain ⟨elem, helem, hmade⟩ := List.mem_filterMap.mp hedit
  unfold SrvEdit.givenFor at hgiven
  split at hgiven
  next htype =>
    cases elem with
    | none => cases hmade
    | some jsSrvObj =>
      obtain ⟨srvType, hget, rfl⟩ := Option.map_eq_some_iff.mp hmade
      refine ⟨jsSrvObj, mem_of_mem_reached helem, hget.trans (congrArg some htype), ?_⟩
      simp only at hgiven
      split at hgiven
      next => cases hgiven
      next => exact hgiven
  next => cases hgiven

omit [Platform] in
/-- **A reply** leaves under a type the URI that was there, one that it lists, or none. -/
theorem rootURI_applyServicesReply {m : SrvMap} {body : Body} {t : Str}
    {ep : HNMDServiceEndpoint} (hep : (applyServicesReply m body).1[t]? = some ep) :
    ep.rootURI = [] ∨ (∃ old, m[t]? = some old ∧ old.rootURI = ep.rootURI) ∨
      ∃ elems, body = some (.array elems) ∧ Lists elems t ep.rootURI := by
  have hstart : ∀ {ep : HNMDServiceEndpoint}, (startSrvUpdates m)[t]? = some ep →
      ∃ old, m[t]? = some old ∧ old.rootURI = ep.rootURI := by
    intro ep hep
    rw [start_get] at hep
    obtain ⟨old, hold, rfl⟩ := Option.map_eq_some_iff.mp hep
    exact ⟨old, hold, rfl⟩
  unfold applyServicesReply at hep
  split at hep
  next => exact .inr (.inl ⟨ep, hep, rfl⟩)
  next elems =>
    have hloop := updateSrvElements_get t elems (startSrvUpdates m, false)
    rw [foldl_editUnder] at hloop
    -- a sweep takes away, and changes nothing that stays
    have hswept : (leaves (elems.foldlM updateSrvElement (startSrvUpdates m, false)))[t]? =
        some ep := by
      cases hresult : elems.foldlM updateSrvElement (startSrvUpdates m, false) with
      | error m' =>
        rw [hresult] at hep
        exact hep
      | ok st =>
        rw [hresult] at hep
        have hfilter : (st.1.filter fun _ ep => ep.visited)[t]? = some ep := hep
        rw [OrdMap.get_filter] at hfilter
        exact (Option.filter_eq_some_iff.mp hfilter).1
    rw [hloop] at hswept
    split at hswept
    next =>
      obtain rfl := Option.some.inj hswept
      show (latest SrvEdit.uri t (srvEdits elems)).getD _ = [] ∨ _
      cases hlatest : latest SrvEdit.uri t (srvEdits elems) with
      | some uri =>
        refine .inr (.inr ⟨elems, rfl, ?_⟩)
        rw [overwritten, hlatest, Option.getD_some]
        exact lists_of_latest hlatest
      | none =>
        rw [overwritten, hlatest, Option.getD_none]
        cases hbefore : (startSrvUpdates m)[t]? with
        | none => exact .inl rfl
        | some marked =>
          obtain ⟨old, hold, huri⟩ := hstart hbefore
          exact .inr (.inl ⟨old, hold, huri⟩)
    next => exact .inr (.inl (hstart hswept))
  next => exact .inr (.inl (hstart hep))

/-! ## §2. What a record has was published. -/

/-- The manager's own record starts with its two sinks, every other with nothing. -/
theorem discovered_srvMapProvided (a : HNManagedDeviceArbiter) (event : DiscoverEvent) {t : Str}
    (ht : t ∈ (discovered a event.toRecord).srvMapProvided) :
    t = lit "hnsrv-health-sink" ∨ t = lit "hnsrv-log-sink" := by
  have hnone : ∀ {t : Str}, t ∉ event.toRecord.srvMapProvided := by
    intro t hmem
    rw [toRecord_srvMapProvided] at hmem
    exact Std.ExtTreeMap.not_mem_empty hmem
  unfold discovered at ht
  split at ht
  next =>
    rcases (mem_initMgmtDevice event.toRecord t).mp ht with (hkept | hhealth) | hlog
    · exact absurd (mem_startSrvUpdates.mp (mem_completeSrvUpdates hkept)) hnone
    · exact .inl hhealth
    · exact .inr hlog
  next => exact absurd ht hnone

/-- The record had the URI of a service before. -/
def HadURI (key t uri : Str) (u : Sys) : Prop :=
  ∃ (known : HNMDARecord) (old : HNMDServiceEndpoint), u.arbiter.deviceMap[key]? = some known ∧
    known.srvMapProvided[t]? = some old ∧ old.rootURI = uri

/-- **One step**: a URI that is not empty was there before, or has been given in it. -/
theorem gaveURI_step {u v : Sys} {l : Label} {es : List Event}
    (hstep : system.step u l = some (v, es)) {key t : Str}
    (hsink : t ≠ lit "hnsrv-health-sink" ∧ t ≠ lit "hnsrv-log-sink") {device : HNMDARecord}
    {ep : HNMDServiceEndpoint} (hget : v.arbiter.deviceMap[key]? = some device)
    (hep : device.srvMapProvided[t]? = some ep) (huri : ep.rootURI ≠ []) :
    HadURI key t ep.rootURI u ∨ GaveURI key t ep.rootURI ⟨u, l, es, v⟩ := by
  have htook := recordTook_of_took (took_of_step hstep) key
  by_cases hreply : ∃ o st, l = .reply o ∧
      u.monitor = .waiting key st .updateDeviceServicesProvideInfo
  · obtain ⟨o, st, rfl, hat⟩ := hreply
    cases htook with
    | away same moved quiet => exact .inl ⟨device, ep, same ▸ hget, hep, rfl⟩
    | @replied _ st' known op _ result hphase hknown hfinish after goes =>
      obtain ⟨-, rfl, rfl⟩ := MonitorPhase.waiting.inj (hphase.symm.trans hat)
      obtain rfl := Option.some.inj (after.symm.trans hget)
      unfold RestOp.deviceGiven at hep
      split at hep
      next body hok =>
        rcases rootURI_applyServicesReply hep with hnone | ⟨old, hold, heq⟩ | ⟨elems, rfl, hlists⟩
        · exact absurd hnone huri
        · exact .inl ⟨known, old, hknown, hold, heq⟩
        · exact .inr ⟨st', o, elems, hat, rfl, hok, hlists⟩
      next => exact .inl ⟨known, ep, hknown, hep, rfl⟩
  · -- no other step gives a record a URI
    cases hbefore : u.arbiter.deviceMap[key]? with
    | some known =>
      obtain ⟨device', hget', hprovided⟩ := htook.provided hbefore
        fun o st hl hat => hreply ⟨o, st, hl, hat⟩
      obtain rfl := Option.some.inj (hget'.symm.trans hget)
      exact .inl ⟨known, ep, hbefore, hprovided ▸ hep, rfl⟩
    | none =>
      cases htook with
      | away same moved quiet => cases (same.trans hbefore).symm.trans hget
      | @appeared event _ hid hnone after stays =>
        obtain rfl := Option.some.inj (after.symm.trans hget)
        rcases discovered_srvMapProvided u.arbiter event
          ((OrdMap.mem_iff_get _ _).mpr ⟨ep, hep⟩) with hhealth | hlog
        · exact absurd hhealth hsink.1
        · exact absurd hlog hsink.2
      | announced hid hd after stays | removed hid hd after stays | cmdSet hd after stays
      | cmdStarted hd after stays | read hphase hd hbusy after goes
      | alone hphase hd hop after goes | finished hphase hd hop hstart after goes
      | requested hphase hd hop hstart after goes | raised hphase hd hop hstart after goes
      | replied hphase hd hfinish after goes | written hphase hd after goes =>
        cases hbefore.symm.trans hd

/-- **What a record has for a service, its device has published**: in every run, a
URI of a type that is not one of the manager's sinks was in a reply to the monitor. -/
theorem gaveURI_run {mgmtDevice : HNodeDevice} {caches : Platform.Caches}
    {ts : List (Trans Sys Label Event)} {s : Sys}
    (hr : Run system (Sys.init mgmtDevice caches) ts s) (key : Str) {t : Str}
    (hsink : t ≠ lit "hnsrv-health-sink" ∧ t ≠ lit "hnsrv-log-sink") :
    ∀ (device : HNMDARecord) (ep : HNMDServiceEndpoint), s.arbiter.deviceMap[key]? = some device →
      device.srvMapProvided[t]? = some ep → ep.rootURI ≠ [] →
      ∃ tr ∈ ts, GaveURI key t ep.rootURI tr := by
  refine Run.traceInvariant (P := fun ts s => ∀ (device : HNMDARecord) (ep : HNMDServiceEndpoint),
    s.arbiter.deviceMap[key]? = some device → device.srvMapProvided[t]? = some ep →
    ep.rootURI ≠ [] → ∃ tr ∈ ts, GaveURI key t ep.rootURI tr) ?_ ?_ hr
  · intro device ep hget
    simp [Sys.init] at hget
  · intro us u l v es _ hinv hstep device ep hget hep huri
    rcases gaveURI_step hstep hsink hget hep huri with hbefore | hgave
    · obtain ⟨known, old, hknown, hold, heq⟩ := hbefore
      obtain ⟨tr, htr, hgave⟩ := hinv known old hknown hold (heq ▸ huri)
      exact ⟨tr, List.mem_append_left _ htr, heq ▸ hgave⟩
    · exact ⟨_, List.mem_append_right _ (List.mem_singleton.mpr rfl), hgave⟩

/-! ## §3. What a poll sends. -/

variable {gave : Str → Prop} {device : HNMDARecord} {srvType pathExt : Str}

/-- The record has a URI for the service. -/
def HasURI (device : HNMDARecord) (srvType : Str) : Prop :=
  ∃ ep, device.srvMapProvided[srvType]? = some ep ∧ ep.rootURI ≠ []

/-- The URI that the record has for the service, and that was given: with its path
extended, and its text parsed again. -/
def PublishedURI (gave : Str → Prop) (device : HNMDARecord) (srvType pathExt : Str)
    (uri : Platform.URI) : Prop :=
  ∃ ep uriStr, device.srvMapProvided[srvType]? = some ep ∧ ep.rootURI ≠ [] ∧ gave ep.rootURI ∧
    device.getServiceProviderURIWithExtendedPath srvType pathExt = some (some uriStr) ∧
    Platform.parseURI uriStr = some uri

/-- The poll opens one session, to a URI that was published; or it returns FAILURE
and opens none. -/
def PollsPublished (gave : Str → Prop) (device : HNMDARecord) (srvType pathExt : Str)
    (done : Done HttpRequest OpState HNMDLResult) : Prop :=
  (others done.acts = [] ∧ done.result = some .failure) ∨
  ∃ uri method payload, PublishedURI gave device srvType pathExt uri ∧
    others done.acts = [requestTo uri method payload]

/-- Nothing raises between the look-up and the session. -/
def Undisturbed (device : HNMDARecord) (srvType pathExt : Str) (listRaises : Bool) : Prop :=
  (Platform.parseURI (device.getServiceProviderURI srvType)).isSome →
    ¬ SetPathRaises device srvType pathExt ∧ Rereads device srvType pathExt ∧
    listRaises = false

/-- The look-up gives the empty string exactly where there is no URI. -/
theorem hasURI_iff : HasURI device srvType ↔ device.getServiceProviderURI srvType ≠ [] := by
  unfold HasURI HNMDARecord.getServiceProviderURI
  cases device.srvMapProvided[srvType]? with
  | none => simp
  | some ep => simp

/-- The helper returns SUCCESS. -/
def Succeeds (device : HNMDARecord) (srvType pathExt : Str) : Prop :=
  ∃ uriStr, device.getServiceProviderURIWithExtendedPath srvType pathExt = some (some uriStr)

/-- **The helper**: it returns SUCCESS for services that are not provided, when the
empty string parses, but for an exception of `setPath`. -/
theorem success_iff (hempty : (Platform.parseURI []).isSome) (device : HNMDARecord)
    (srvType pathExt : Str) :
    (Succeeds device srvType pathExt → srvType ∈ device.srvMapProvided) ↔
      srvType ∈ device.srvMapProvided ∨ SetPathRaises device srvType pathExt := by
  rw [← extendedPath_eq_none]
  constructor
  · intro h
    by_contra hneither
    obtain ⟨hnot, hraises⟩ := not_or.mp hneither
    have hparse : Platform.parseURI (device.getServiceProviderURI srvType) ≠ none := by
      rw [HNMDARecord.getServiceProviderURI, (OrdMap.not_mem_iff_get _ _).mp hnot]
      exact Option.ne_none_iff_isSome.mpr hempty
    obtain ⟨given, hgiven⟩ := Option.ne_none_iff_exists'.mp hraises
    cases given with
    | none => exact hparse ((extendedPath_eq_failure _ _ _).mp hgiven)
    | some uriStr => exact hnot (h ⟨uriStr, hgiven⟩)
  · rintro (hprovided | hraises) ⟨uriStr, hsuccess⟩
    · exact hprovided
    · cases hraises.symm.trans hsuccess

variable {o : OpOutcome} {s : OpState}

/-- What a poll does before its session: its requests, and its result. -/
theorem onPublishedURI_eq (s : OpState) (srvType pathExt : Str)
    (k : OpState → Platform.URI → DeviceOp HNMDLResult) :
    (others (onPublishedURI srvType pathExt k s).acts,
      (onPublishedURI srvType pathExt k s).result) =
      match s.device.getServiceProviderURIWithExtendedPath srvType pathExt with
      | none => ([], none)
      | some none => ([], some .failure)
      | some (some uriStr) =>
        match Platform.parseURI uriStr with
        | none => ([], none)
        | some uri => (others (k s uri s).acts, (k s uri s).result) := by
  have hboth := congrArg (fun d => (d.1, d.2.2)) (seen_onPublishedURI s srvType pathExt k)
  refine hboth.trans ?_
  cases s.device.getServiceProviderURIWithExtendedPath srvType pathExt with
  | none => rfl
  | some given =>
    cases given with
    | none => rfl
    | some uriStr =>
      simp only
      cases Platform.parseURI uriStr <;> rfl

/-- An exception is neither a session nor FAILURE. -/
theorem not_pollsPublished_of_raised {done : Done HttpRequest OpState HNMDLResult}
    (hraised : others done.acts = [] ∧ done.result = none) :
    ¬ PollsPublished gave device srvType pathExt done := by
  intro h
  rcases h with ⟨-, hfailure⟩ | ⟨uri, method, payload, -, hrequest⟩
  · cases hraised.2.symm.trans hfailure
  · cases hraised.1.symm.trans hrequest

/-- **When a poll is sound**: exactly when the record has a URI for the service and
nothing raises before the session, which is then the one request. -/
theorem pollsPublished_iff {k : OpState → Platform.URI → DeviceOp HNMDLResult}
    (method : HttpMethod) (payload : Option Payload) (hempty : (Platform.parseURI []).isSome)
    (hgave : ∀ ep, s.device.srvMapProvided[srvType]? = some ep → ep.rootURI ≠ [] →
      gave ep.rootURI)
    (hk : ∀ uri, payload.elim (others (k s uri s).acts = [] ∧ (k s uri s).result = none)
      fun payload => others (k s uri s).acts = [requestTo uri method payload]) :
    PollsPublished gave s.device srvType pathExt (onPublishedURI srvType pathExt k s) ↔
      HasURI s.device srvType ∧ Undisturbed s.device srvType pathExt payload.isNone := by
  have hdone := onPublishedURI_eq s srvType pathExt k
  have hfailure := extendedPath_eq_failure s.device srvType pathExt
  unfold Undisturbed Rereads
  rw [← extendedPath_eq_none]
  cases hstr : s.device.getServiceProviderURIWithExtendedPath srvType pathExt with
  | none =>
    rw [hstr] at hdone hfailure
    have hparsed := Option.ne_none_iff_isSome.mp fun h => nomatch hfailure.mpr h
    exact iff_of_false (not_pollsPublished_of_raised (Prod.mk.inj hdone))
      fun ⟨_, hquiet⟩ => (hquiet hparsed).1 rfl
  | some given =>
    cases given with
    | none =>
      rw [hstr] at hdone hfailure
      have hnone := hfailure.mp rfl
      -- the text of a URI that does not parse is not empty
      refine iff_of_true (.inl (Prod.mk.inj hdone))
        ⟨hasURI_iff.mpr fun hblank => ?_, fun hparse => ?_⟩
      · rw [hblank] at hnone
        rw [hnone] at hempty
        cases hempty
      · rw [hnone] at hparse
        cases hparse
    | some uriStr =>
      rw [hstr] at hdone hfailure
      have hparsed := Option.ne_none_iff_isSome.mp fun h => nomatch hfailure.mpr h
      cases hparse : Platform.parseURI uriStr with
      | none =>
        simp only [hparse] at hdone
        refine iff_of_false (not_pollsPublished_of_raised (Prod.mk.inj hdone)) fun ⟨_, hquiet⟩ => ?_
        have hreread := (hquiet hparsed).2.1 uriStr rfl
        rw [hparse] at hreread
        cases hreread
      | some uri =>
        simp only [hparse] at hdone
        obtain ⟨hacts, hresult⟩ := Prod.mk.inj hdone
        cases payload with
        | none =>
          refine iff_of_false (not_pollsPublished_of_raised ?_) fun ⟨_, hquiet⟩ => ?_
          · exact ⟨hacts.trans (hk uri).1, hresult.trans (hk uri).2⟩
          · cases (hquiet hparsed).2.2
        | some payload =>
          have hrequest := hacts.trans (hk uri)
          constructor
          · intro h
            rcases h with ⟨hnone, -⟩ | ⟨_, _, _, ⟨ep, _, hep, hne, -⟩, -⟩
            · cases hnone.symm.trans hrequest
            · refine ⟨⟨ep, hep, hne⟩, fun _ => ⟨nofun, fun uriStr' heq => ?_, rfl⟩⟩
              obtain rfl := Option.some.inj (Option.some.inj heq)
              rw [hparse]
              rfl
          · intro ⟨⟨ep, hep, hne⟩, _⟩
            exact .inr ⟨uri, method, payload,
              ⟨ep, uriStr, hep, hne, hgave ep hep hne, hstr, hparse⟩, hrequest⟩

/-! ## §4. The two polls. -/

/-- A session and the region behind it send the one request. -/
theorem others_polled {update : Body → DeviceOp Unit}
    (hupdate : ∀ body s, (update body s).acts = []) (req : HttpRequest) :
    others ((exchange o req >>= storeInCache update) s).acts = [req] := by
  have hstored : ∀ reply s, others (storeInCache update reply s).acts = [] := by
    intro reply s
    cases reply with
    | none => rfl
    | some body =>
      have hlock : storeInCache update (some body) s =
          Prog.andThen { acts := [.lock], state := s, result := some () }
            (update body >>= fun _ => do
              unlockForUpdate
              pure .success) := rfl
      rw [hlock]
      unfold Prog.andThen
      cases hresult : (update body s).result with
      | none =>
        rw [Prog.run_bind_raised hresult, hupdate]
        rfl
      | some _ =>
        rw [Prog.run_bind_some hresult]
        unfold Prog.andThen
        rw [hupdate]
        rfl
  have hsession := run_exchange (o := o) (s := s) req
  cases hreceived : o.rest.receive.result with
  | none => rw [Prog.run_bind_raised (by rw [hsession, hreceived]), hsession]; rfl
  | some reply =>
    rw [Prog.run_bind_some (by rw [hsession, hreceived]), hsession]
    show req :: others (storeInCache update reply (o.meanwhile s)).acts = [req]
    rw [hstored]

/-- The poll of the health source. -/
theorem health_polls_iff (hempty : (Platform.parseURI []).isSome)
    (hgave : ∀ ep, s.device.srvMapProvided[lit "hnsrv-health-source"]? = some ep →
      ep.rootURI ≠ [] → gave ep.rootURI) :
    PollsPublished gave s.device (lit "hnsrv-health-source") [] (updateDeviceHealthInfo o s) ↔
      HasURI s.device (lit "hnsrv-health-source") ∧
        Undisturbed s.device (lit "hnsrv-health-source") [] false := by
  have hupdate : ∀ body s, (updateDeviceHealth o body s).acts = [] := by
    intro body s
    unfold updateDeviceHealth
    cases o.rest.cached <;> rfl
  exact pollsPublished_iff .get (some .empty) hempty hgave fun uri =>
    others_polled hupdate (requestTo uri .get .empty)

/-- The poll of the string source. -/
theorem strings_poll_iff (hempty : (Platform.parseURI []).isSome)
    (hgave : ∀ ep, s.device.srvMapProvided[lit "hnsrv-string-source"]? = some ep →
      ep.rootURI ≠ [] → gave ep.rootURI) :
    PollsPublished gave s.device (lit "hnsrv-string-source") (lit "/format-strings")
        (updateDeviceStringReferences o s) ↔
      HasURI s.device (lit "hnsrv-string-source") ∧
        Undisturbed s.device (lit "hnsrv-string-source") (lit "/format-strings")
          (Platform.getUncachedStrRefList s.arbiter.caches s.device.getCRC32ID).isNone := by
  have hupdate : ∀ body s, (updateStringDefinitions o body s).acts = [] := by
    intro body s
    unfold updateStringDefinitions
    cases o.rest.cached <;> rfl
  have hlist := run_getUncachedStrRefList (s := s)
  rw [← Option.isNone_map (f := Payload.strRefs s.device.getCRC32IDStr)]
  refine pollsPublished_iff .put _ hempty hgave fun uri => ?_
  cases hcodes : Platform.getUncachedStrRefList s.arbiter.caches s.device.getCRC32ID with
  | none =>
    rw [hcodes] at hlist
    rw [Prog.run_bind_raised (by rw [hlist]), hlist]
    exact ⟨rfl, rfl⟩
  | some formatCodeList =>
    rw [hcodes] at hlist
    rw [Prog.run_bind_some (by rw [hlist]), hlist]
    exact others_polled hupdate _

/-- **A service the device does not provide is an error, not a request**: exactly
when the record has a URI for it.  Of every record the helper says SUCCESS for a
service that is missing, unless `setPath` raises; and in every reachable state the
two polls open a session only to a URI the device gave in a reply, or return
FAILURE, exactly when there is one and nothing raises before the session.  The empty
string is assumed to parse. -/
theorem published_only_iff (hempty : (Platform.parseURI []).isSome) :
    (∀ (device : HNMDARecord) (srvType pathExt : Str),
      (Succeeds device srvType pathExt → srvType ∈ device.srvMapProvided) ↔
        srvType ∈ device.srvMapProvided ∨ SetPathRaises device srvType pathExt) ∧
    ∀ (mgmtDevice : HNodeDevice) (caches : Platform.Caches) (ts : List (Trans Sys Label Event))
      (s : Sys), Run system (Sys.init mgmtDevice caches) ts s →
      ∀ (key : Str) (device : HNMDARecord) (o : OpOutcome),
        s.arbiter.deviceMap[key]? = some device →
        (s.monitor = .acting key .updateHealth →
          (PollsPublished (fun uri => ∃ t ∈ ts, GaveURI key (lit "hnsrv-health-source") uri t)
              device (lit "hnsrv-health-source") []
              (RestOp.updateDeviceHealthInfo.run key o ⟨s.arbiter, device⟩) ↔
            HasURI device (lit "hnsrv-health-source") ∧
              Undisturbed device (lit "hnsrv-health-source") [] false)) ∧
        (s.monitor = .acting key .updateStrref →
          (PollsPublished (fun uri => ∃ t ∈ ts, GaveURI key (lit "hnsrv-string-source") uri t)
              device (lit "hnsrv-string-source") (lit "/format-strings")
              (RestOp.updateDeviceStringReferences.run key o ⟨s.arbiter, device⟩) ↔
            HasURI device (lit "hnsrv-string-source") ∧
              Undisturbed device (lit "hnsrv-string-source") (lit "/format-strings")
                (Platform.getUncachedStrRefList s.arbiter.caches device.getCRC32ID).isNone)) := by
  refine ⟨success_iff hempty, fun mgmtDevice caches ts s hr key device o hget => ⟨fun _ => ?_,
    fun _ => ?_⟩⟩
  · exact health_polls_iff (s := ⟨s.arbiter, device⟩) hempty fun ep hep hne =>
      gaveURI_run hr key (by decide +kernel) device ep hget hep hne
  · exact strings_poll_iff (s := ⟨s.arbiter, device⟩) hempty fun ep hep hne =>
      gaveURI_run hr key (by decide +kernel) device ep hget hep hne

end ServiceURI

/-! ### A device without a string source. -/

section Sample

open RefPlatform

/-- The device answers the monitor's questions, with this element for its services:
the monitor goes on to poll it. -/
def pollRun (service : JsonObject) : List Label :=
  [.notifyDiscoverAdd sampleDeviceFound,
    .wakeup, .readState, .act, .writeState,
    .wakeup, .readState, .act, .reply (okReply (.object [])), .writeState,
    .wakeup, .readState, .act, .reply (okReply ownedByManager), .writeState,
    .wakeup, .readState, .act, .reply (okReply (.array [some service])), .writeState,
    .wakeup, .readState, .act, .reply (okReply (.array [])), .writeState,
    .wakeup, .readState, .act, .writeState,
    .wakeup, .readState]

/-- The health source and its URI. -/
def sampleHealthSource : JsonObject :=
  [(lit "type", stringField "hnsrv-health-source"),
    (lit "uri", stringField "http://192.168.1.10/hnode2/irrigation/health")]

/-- The health is asked for where the device said. -/
theorem published_only_sample :
    ∃ ts s device, Run system (Sys.init sampleManager ()) ts s ∧
      s.monitor = .acting (lit "4900fb4e") .updateHealth ∧
      s.arbiter.deviceMap[lit "4900fb4e"]? = some device ∧
      ∀ o, PollsPublished
        (fun uri => ∃ t ∈ ts, GaveURI (lit "4900fb4e") (lit "hnsrv-health-source") uri t) device
        (lit "hnsrv-health-source") []
        (RestOp.updateDeviceHealthInfo.run (lit "4900fb4e") o ⟨s.arbiter, device⟩) := by
  obtain ⟨ts, s, hr, hp⟩ := Machine.exists_run_of_exec (M := system)
    (s := Sys.init sampleManager ()) (l := pollRun sampleHealthSource)
    (p := fun r => r.2.monitor == .acting (lit "4900fb4e") .updateHealth &&
      (r.2.arbiter.deviceMap[lit "4900fb4e"]?).any fun d =>
        d.getServiceProviderURI (lit "hnsrv-health-source") != [] &&
          ((d.getServiceProviderURIWithExtendedPath (lit "hnsrv-health-source") []).bind id).all
            fun uriStr => (Platform.parseURI uriStr).isSome) (by decide +kernel)
  obtain ⟨hat, hany⟩ := Bool.and_eq_true_iff.mp hp
  obtain ⟨device, hget, hdevice⟩ := (Option.any_eq_true _ _).mp hany
  obtain ⟨huri, hreread⟩ := Bool.and_eq_true_iff.mp hdevice
  refine ⟨ts, s, device, hr, beq_iff_eq.mp hat, hget, fun o => ?_⟩
  refine (((published_only_iff rfl).2 sampleManager () ts s hr _ device o hget).1
    (beq_iff_eq.mp hat)).mpr ⟨hasURI_iff.mpr (bne_iff_ne.mp huri), fun _ => ⟨?_, ?_, rfl⟩⟩
  · rintro ⟨hpath, -⟩
    cases hpath
  · intro uriStr hstr
    rw [hstr] at hreread
    exact hreread

/-- **A request to nowhere**: the device provides its health and no strings.  After its
health it is asked for its strings, at an empty host. -/
theorem polled_nowhere :
    ∃ ts s device, Run system (Sys.init sampleManager ()) ts s ∧
      s.monitor = .acting (lit "4900fb4e") .updateStrref ∧
      s.arbiter.deviceMap[lit "4900fb4e"]? = some device ∧
      lit "hnsrv-string-source" ∉ device.srvMapProvided ∧
      Succeeds device (lit "hnsrv-string-source") (lit "/format-strings") ∧
      others (RestOp.updateDeviceStringReferences.run (lit "4900fb4e") sampleOutcome
        ⟨s.arbiter, device⟩).acts =
          [{ host := [], port := 0, method := .put, path := lit "/format-strings"
             payload := .strRefs (lit "4900fb4e") [] }] ∧
      ¬ PollsPublished
        (fun uri => ∃ t ∈ ts, GaveURI (lit "4900fb4e") (lit "hnsrv-string-source") uri t) device
        (lit "hnsrv-string-source") (lit "/format-strings")
        (RestOp.updateDeviceStringReferences.run (lit "4900fb4e") sampleOutcome
          ⟨s.arbiter, device⟩) := by
  obtain ⟨ts, s, hr, hp⟩ := Machine.exists_run_of_exec (M := system)
    (s := Sys.init sampleManager ())
    (l := pollRun sampleHealthSource ++
      [.act, .reply (okReply (.object [])), .writeState, .wakeup, .readState])
    (p := fun r => r.2.monitor == .acting (lit "4900fb4e") .updateStrref &&
      (r.2.arbiter.deviceMap[lit "4900fb4e"]?).any fun d =>
        !d.srvMapProvided.contains (lit "hnsrv-string-source") &&
          others (RestOp.updateDeviceStringReferences.run (lit "4900fb4e") sampleOutcome
            ⟨r.2.arbiter, d⟩).acts ==
              [{ host := [], port := 0, method := .put, path := lit "/format-strings"
                 payload := .strRefs (lit "4900fb4e") [] }]) (by decide +kernel)
  obtain ⟨hat, hany⟩ := Bool.and_eq_true_iff.mp hp
  obtain ⟨device, hget, hdevice⟩ := (Option.any_eq_true _ _).mp hany
  obtain ⟨hmissing, hrequest⟩ := Bool.and_eq_true_iff.mp hdevice
  have hnot : lit "hnsrv-string-source" ∉ device.srvMapProvided := by
    intro hmem
    rw [Std.ExtTreeMap.contains_iff_mem.mpr hmem] at hmissing
    cases hmissing
  have hnone : device.srvMapProvided[lit "hnsrv-string-source"]? = none :=
    (OrdMap.not_mem_iff_get _ _).mp hnot
  refine ⟨ts, s, device, hr, beq_iff_eq.mp hat, hget, hnot, ?_, beq_iff_eq.mp hrequest, ?_⟩
  · unfold Succeeds HNMDARecord.getServiceProviderURIWithExtendedPath
      HNMDARecord.getServiceProviderURI
    rw [hnone]
    exact ⟨lit "/format-strings", by decide +kernel⟩
  · intro hpolls
    rcases hpolls with ⟨hacts, -⟩ | ⟨_, _, _, ⟨ep, _, hep, -⟩, -⟩
    · cases hacts.symm.trans (beq_iff_eq.mp hrequest)
    · cases hnone.symm.trans hep

end Sample

end HNodeMgmt.Arbiter
