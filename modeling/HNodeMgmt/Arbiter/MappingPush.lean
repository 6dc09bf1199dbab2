/-
  HNodeMgmt.Arbiter.MappingPush — what executeDeviceServicesUpdateMapping sends.

  The TARGET of a service type is the URI under which the record of its default
  provider has it, or the empty string.  The operation walks the desired types
  of a device and queues those whose URI is not their target; one PUT carries
  the queue.

  Main results:
    * `mappingTarget_serviceTarget` — the lookups of the loop compute the target.
    * `mapping_push_exact` — the PUT is EXACTLY the difference, none is sent
      when there is none, the desired services stay, and after the device has
      reported what it was sent there is no difference any more.
-/
import Mathlib.Tactic.Common
import HNodeMgmt.Arbiter.Contact
import HNodeMgmt.Arbiter.DeviceOps
import HNodeMgmt.Arbiter.SrvEdits
import HNodeMgmt.Arbiter.CommandBody

namespace HNodeMgmt.Arbiter

open Lib

section Push

variable [Platform]

/-! ## §1. The difference. -/

/-- The URI under which the default provider's record has a service, or the empty
string. -/
def serviceTarget (a : HNManagedDeviceArbiter) (srvType : Str) : Str :=
  ((a.defaultProvider srvType).bind fun crc32ID =>
    (a.deviceMap[crc32ID]?).bind fun provider =>
      (provider.srvMapProvided[srvType]?).map HNMDServiceEndpoint.rootURI).getD []

/-- **The lookups compute the target.** -/
theorem mappingTarget_serviceTarget (a : HNManagedDeviceArbiter) (srvType : Str) :
    mappingTarget a srvType = serviceTarget a srvType := by
  unfold mappingTarget serviceTarget HNManagedDeviceArbiter.defaultProvider
  cases a.defaultMappings[srvType]? with
  | none => rfl
  | some ref =>
    show a.getDeviceServiceProviderURI ref.devCRC32ID srvType =
      ((a.deviceMap[ref.devCRC32ID]?).bind _).getD []
    unfold HNManagedDeviceArbiter.getDeviceServiceProviderURI
    cases a.deviceMap[ref.devCRC32ID]? with
    | none => rfl
    | some provider =>
      show provider.getServiceProviderURI srvType =
        ((provider.srvMapProvided[srvType]?).map _).getD []
      unfold HNMDARecord.getServiceProviderURI
      cases provider.srvMapProvided[srvType]? <;> rfl

/-- A desired type is mapped to something else than its target. -/
def Differs (a : HNManagedDeviceArbiter) (device : HNMDARecord) (srvType : Str) : Prop :=
  srvType ∈ device.srvMapDesired ∧ serviceTarget a srvType ≠ mappedURI device srvType

/-- One entry for each type that differs, with its target, and no other. -/
structure ExactDifference (a : HNManagedDeviceArbiter) (device : HNMDARecord)
    (entries : List (Str × Str)) : Prop where
  once : (entries.map Prod.fst).Nodup
  exact : ∀ srvType uri, (srvType, uri) ∈ entries ↔
    Differs a device srvType ∧ uri = serviceTarget a srvType

/-- The loop queues the difference. -/
theorem mappingChanges_exact (a : HNManagedDeviceArbiter) {device : HNMDARecord}
    (hkeyed : Keyed device.srvMapDesired) :
    ExactDifference a device (mappingChanges a device).2.toList := by
  refine ⟨?_, fun srvType uri => ?_⟩
  · exact OrdMap.nodup_fst_toList _
  · rw [Std.ExtTreeMap.mem_toList_iff_getElem?_eq_some, mappingChanges_get a hkeyed,
      mappingTarget_serviceTarget]
    unfold Differs
    split
    next hdiffers => simp [hdiffers, eq_comm]
    next hsame => simp [hsame]

/-! ## §2. What the loop leaves alone. -/

/-- The same services have the same URIs. -/
theorem SameServices.mappedURI {device device' : HNMDARecord}
    (h : SameServices device.srvMapDesired device'.srvMapDesired) (t : Str) :
    mappedURI device' t = mappedURI device t := by
  have huri := congrArg (Option.map HNMDServiceEndpoint.rootURI) (h t)
  rw [Option.map_map, Option.map_map] at huri
  exact congrArg (Option.getD · []) huri

/-- The walk over the desired types visits what is there. -/
theorem sameServices_visited {device : HNMDARecord} (hkeyed : Keyed device.srvMapDesired) :
    SameServices device.srvMapDesired (mappingVisited device).srvMapDesired := by
  have hloop : ∀ (ts : List Str) (d : HNMDARecord), (∀ t ∈ ts, t ∈ d.srvMapDesired) →
      SameServices d.srvMapDesired
        (ts.foldl (fun d t => (d.updateSrvMapping t).1) d).srvMapDesired := by
    intro ts
    induction ts with
    | nil => exact fun d _ => sameServices_refl _
    | cons t ts ih =>
      intro d hall
      have hhere : SameServices d.srvMapDesired (d.updateSrvMapping t).1.srvMapDesired :=
        sameServices_updateSrv (hall t List.mem_cons_self)
      refine hhere.trans (ih _ fun t' ht' => ?_)
      exact mem_updateSrv.mpr (Or.inl (hall t' (List.mem_cons_of_mem _ ht')))
  refine hloop _ device fun t ht => ?_
  rw [HNMDARecord.getSrvMappingTSList, srvTSList_eq_keys hkeyed, Std.ExtTreeMap.mem_keys] at ht
  exact ht

/-- A visit writes the desired mappings only. -/
theorem mappingVisited_eq (device : HNMDARecord) :
    mappingVisited device =
      { device with srvMapDesired := (mappingVisited device).srvMapDesired } := by
  obtain ⟨m, hm⟩ := mappingVisited_frame device
  rw [hm]

/-- So it leaves the addresses. -/
theorem mappingVisited_findPreferredConnection (device : HNMDARecord) (type : AddrType) :
    (mappingVisited device).findPreferredConnection type =
      device.findPreferredConnection type := by
  obtain ⟨m, hm⟩ := mappingVisited_frame device
  rw [hm]
  rfl

/-! ## §3. The operation. -/

/-- The PUT to a device. -/
def mappingPut (dcInfo : HNMDARAddress) (entries : List (Str × Str)) : HttpRequest :=
  requestTo (Platform.httpURI dcInfo.address dcInfo.port
    (lit "/hnode2/device/services/mappings")) .put (.mappings entries)

/-- The test for changes is that none is listed. -/
theorem mappingChanges_isEmpty_iff (a : HNManagedDeviceArbiter) (device : HNMDARecord) :
    (mappingChanges a device).2.isEmpty = true ↔ (mappingChanges a device).2.toList = [] := by
  rw [← Std.ExtTreeMap.isEmpty_toList, List.isEmpty_iff]

/-- With nothing queued, nothing is sent. -/
theorem seen_push_nothing {a : HNManagedDeviceArbiter} {id : Str} {device : HNMDARecord}
    {o : OpOutcome} (hnone : (mappingChanges a device).2.toList = []) :
    seen (RestOp.run id o .executeDeviceServicesUpdateMapping { arbiter := a, device }) =
      ([], a.setDevice id (mappingVisited device), some .success) := by
  have hrun : seen (RestOp.run id o .executeDeviceServicesUpdateMapping
      { arbiter := a, device }) =
      wholeCall .executeDeviceServicesUpdateMapping id o { arbiter := a, device } :=
    seen_executeDeviceServicesUpdateMapping
  have hempty := (mappingChanges_isEmpty_iff a device).mpr hnone
  rw [hrun]
  -- the operation ends before it looks for a connection
  unfold wholeCall RestOp.start
  simp only [hempty, if_true, mappingChanges_visited]
  rfl

/-- Else the queue is sent. -/
theorem seen_push_put {a : HNManagedDeviceArbiter} {id : Str} {device : HNMDARecord}
    {o : OpOutcome} {dcInfo : HNMDARAddress}
    (hconn : device.findPreferredConnection .ipv4 = some dcInfo)
    (hsome : (mappingChanges a device).2.toList ≠ []) :
    ∃ result, seen (RestOp.run id o .executeDeviceServicesUpdateMapping { arbiter := a, device }) =
      ([mappingPut dcInfo (mappingChanges a device).2.toList],
        (o.meanwhile { arbiter := a.setDevice id (mappingVisited device)
                       device := mappingVisited device }).arbiter, result) := by
  have hrun : seen (RestOp.run id o .executeDeviceServicesUpdateMapping
      { arbiter := a, device }) =
      wholeCall .executeDeviceServicesUpdateMapping id o { arbiter := a, device } :=
    seen_executeDeviceServicesUpdateMapping
  have hfalse : (mappingChanges a device).2.isEmpty = false :=
    Bool.eq_false_iff.mpr fun h => hsome ((mappingChanges_isEmpty_iff a device).mp h)
  rw [hrun]
  unfold wholeCall RestOp.start
  simp only [hfalse, if_false, Bool.false_eq_true, mappingChanges_visited, openRequest,
    mappingVisited_findPreferredConnection, hconn]
  refine ⟨_, Prod.ext rfl (Prod.ext ?_ rfl)⟩
  -- whatever is answered, the reply is not stored
  show (afterReply _ _ _ _).1 = _
  unfold afterReply
  simp only [RestOp.finish]
  cases o.rest.receiveRendered <;> rfl

/-! ## §4. The next execution. -/

/-- The default mappings and the services that are provided are the same. -/
structure SameProviders (a a' : HNManagedDeviceArbiter) : Prop where
  defaults : a'.defaultMappings = a.defaultMappings
  provided : ∀ id : Str, a'.deviceMap[id]?.map HNMDARecord.srvMapProvided =
    a.deviceMap[id]?.map HNMDARecord.srvMapProvided

/-- Where the providers are the same, a service leads to the same endpoint. -/
theorem SameProviders.serviceTarget {a a' : HNManagedDeviceArbiter} (h : SameProviders a a')
    (srvType : Str) : serviceTarget a' srvType = serviceTarget a srvType := by
  -- the record of the provider is only asked for what it provides
  have hasked : ∀ (a : HNManagedDeviceArbiter) (crc32ID : Str),
      ((a.deviceMap[crc32ID]?).bind fun provider =>
        (provider.srvMapProvided[srvType]?).map HNMDServiceEndpoint.rootURI) =
      (a.deviceMap[crc32ID]?.map HNMDARecord.srvMapProvided).bind fun provided =>
        (provided[srvType]?).map HNMDServiceEndpoint.rootURI := by
    intro a crc32ID
    cases a.deviceMap[crc32ID]? <;> rfl
  unfold Arbiter.serviceTarget HNManagedDeviceArbiter.defaultProvider
  simp only [h.defaults, hasked, h.provided]

/-- The default mappings are not part of a record. -/
theorem setDevice_defaultMappings (a : HNManagedDeviceArbiter) (id : Str)
    (device : HNMDARecord) : (a.setDevice id device).defaultMappings = a.defaultMappings := rfl

/-- A record that is written provides what it did. -/
theorem sameProviders_of_stores {a a' : HNManagedDeviceArbiter} {id : Str}
    {device device' : HNMDARecord} (hstores : Stores a a' id device')
    (hget : a.deviceMap[id]? = some device)
    (hprovided : device'.srvMapProvided = device.srvMapProvided)
    (hdefaults : a'.defaultMappings = a.defaultMappings) : SameProviders a a' := by
  refine ⟨hdefaults, fun key => ?_⟩
  by_cases heq : id = key
  · subst heq
    rw [hstores.get, hget, Option.map_some, Option.map_some, hprovided]
  · rw [hstores.get_ne heq]

/-- A mappings reply that reports what was pushed: the types are those that were
desired, with the pushed URI where one was pushed, and else with the URI that was
there, if any is given. -/
structure ReportsPushed (device : HNMDARecord) (entries : List (Str × Str))
    (elems : List (Option JsonObject)) : Prop where
  desired : ∀ elem ∈ elems, ∀ t, elemType elem = some t → t ∈ device.srvMapDesired
  pushed : ∀ t uri, (t, uri) ∈ entries → lastGiven (lit "uri") t elems = some uri
  others : ∀ t uri, t ∉ entries.map Prod.fst →
    lastGiven (lit "uri") t elems = some uri → uri = mappedURI device t

/-- The record after a mappings reply has been taken over. -/
theorem mappingInfo_stored {a a' : HNManagedDeviceArbiter} {id : Str}
    {device device' : HNMDARecord} {o : RestOutcome} {elems : List (Option JsonObject)}
    (hreply : o.receive = .ok (some (.array elems)))
    (hfinish : RestOp.finish a id device o .updateDeviceServicesMappingInfo = some (a', .success))
    (hget : a'.deviceMap[id]? = some device') :
    (∀ elem ∈ elems, elemRaises elem = false) ∧
      device'.srvMapDesired =
        (applyServicesReply device.srvMapDesired (some (.array elems))).1 := by
  have heq := SrvUpdate.finish_eq .desired a id device o
  rw [hreply] at heq
  have hstored := heq.symm.trans hfinish
  cases hflag : (applyServicesReply device.srvMapDesired (some (.array elems))).2 with
  | none =>
    simp only [store, SrvUpdate.services, hflag] at hstored
    cases congrArg Prod.snd (Option.some.inj hstored)
  | some changed =>
    refine ⟨read_of_success hflag, ?_⟩
    -- a rebuild of the index leaves the records alone
    have hmap : a'.deviceMap = (a.setDevice id (SrvUpdate.desired.updated device
        (some (.array elems)))).deviceMap := by
      simp only [store, SrvUpdate.services, hflag] at hstored
      obtain rfl : _ = a' := congrArg Prod.fst (Option.some.inj hstored)
      cases changed <;> rfl
    rw [hmap, setDevice_get, if_pos rfl] at hget
    obtain rfl := Option.some.inj hget
    rfl

/-- **After the device has reported what it was sent**, nothing differs. -/
theorem nothing_differs {a a' : HNManagedDeviceArbiter} {device device' reported : HNMDARecord}
    {entries : List (Str × Str)} {elems : List (Option JsonObject)}
    (hkeyed : Keyed device.srvMapDesired)
    (hentries : ExactDifference a device entries)
    (hsame : SameServices device.srvMapDesired device'.srvMapDesired)
    (hread : ∀ elem ∈ elems, elemRaises elem = false)
    (hreports : ReportsPushed device entries elems)
    (hreported : reported.srvMapDesired =
      (applyServicesReply device'.srvMapDesired (some (.array elems))).1)
    (hproviders : SameProviders a a') (t : Str) : ¬ Differs a' reported t := by
  intro hdiffers
  obtain ⟨hmem, hne⟩ := hdiffers
  obtain ⟨_, -, hinstalls, -⟩ := applyServicesReply_installs (hsame.keyed hkeyed) hread
  rw [← hreported] at hinstalls
  obtain ⟨elem, helem, htype⟩ := (hinstalls.types t).mp hmem
  have hdesired := hreports.desired elem helem t htype
  -- the URI afterwards is the one reported last, or the one that was there
  have huri : mappedURI reported t =
      (lastGiven (lit "uri") t elems).getD (mappedURI device t) := by
    obtain ⟨ep, hep⟩ := (OrdMap.mem_iff_get _ t).mp hmem
    have hprior := hinstalls.rootURI t ep hep
    have hhere : mappedURI reported t = ep.rootURI := by
      unfold mappedURI
      rw [hep]
      rfl
    rw [hhere, hprior, ← hsame.mappedURI t]
    rfl
  rw [hproviders.serviceTarget, huri] at hne
  by_cases hwas : Differs a device t
  · have hpushed := hreports.pushed t _ ((hentries.exact t _).mpr ⟨hwas, rfl⟩)
    rw [hpushed] at hne
    exact hne rfl
  · have htarget : serviceTarget a t = mappedURI device t := by
      by_contra hnot
      exact hwas ⟨hdesired, hnot⟩
    have hnotPushed : t ∉ entries.map Prod.fst := by
      intro hin
      obtain ⟨entry, hentry, rfl⟩ := List.mem_map.mp hin
      exact hwas ((hentries.exact entry.1 entry.2).mp hentry).1
    rw [htarget] at hne
    cases hlast : lastGiven (lit "uri") t elems with
    | none =>
      rw [hlast] at hne
      exact hne rfl
    | some uri =>
      rw [hlast, hreports.others t uri hnotPushed hlast] at hne
      exact hne rfl

/-- **The mapping push is the exact difference.**  Nothing is sent when no desired
type differs from its target; else one PUT carries each type that does, with its
target.  Either way the desired services stay as they are.  And once the device
has reported what it was sent, the next execution sends nothing, unless the
providers have changed. -/
theorem mapping_push_exact (a : HNManagedDeviceArbiter) (id : Str) (device : HNMDARecord)
    (dcInfo : HNMDARAddress) (o : OpOutcome) (hkeyed : Keyed device.srvMapDesired)
    (hconn : device.findPreferredConnection .ipv4 = some dcInfo) :
    ∃ device' entries,
      device' = { device with srvMapDesired := device'.srvMapDesired } ∧
      SameServices device.srvMapDesired device'.srvMapDesired ∧
      ExactDifference a device entries ∧
      (entries = [] →
        seen (RestOp.run id o .executeDeviceServicesUpdateMapping { arbiter := a, device }) =
          ([], a.setDevice id device', some .success)) ∧
      (entries ≠ [] → ∃ result,
        seen (RestOp.run id o .executeDeviceServicesUpdateMapping { arbiter := a, device }) =
          ([mappingPut dcInfo entries],
            (o.meanwhile { arbiter := a.setDevice id device', device := device' }).arbiter,
            result)) ∧
      ∀ (a₁ a₂ : HNManagedDeviceArbiter) (device₁ device₂ : HNMDARecord) (o₁ : RestOutcome)
        (o₂ : OpOutcome) (elems : List (Option JsonObject)),
        device₁.srvMapDesired = device'.srvMapDesired →
        o₁.receive = .ok (some (.array elems)) → ReportsPushed device entries elems →
        RestOp.finish a₁ id device₁ o₁ .updateDeviceServicesMappingInfo = some (a₂, .success) →
        a₂.deviceMap[id]? = some device₂ → SameProviders a a₂ →
        (seen (RestOp.run id o₂ .executeDeviceServicesUpdateMapping
          { arbiter := a₂, device := device₂ })).1 = [] ∧
        (seen (RestOp.run id o₂ .executeDeviceServicesUpdateMapping
          { arbiter := a₂, device := device₂ })).2.2 = some .success := by
  have hsame := sameServices_visited hkeyed
  have hentries := mappingChanges_exact a hkeyed
  refine ⟨mappingVisited device, (mappingChanges a device).2.toList, mappingVisited_eq device,
    hsame, hentries, seen_push_nothing, seen_push_put hconn, ?_⟩
  intro a₁ a₂ device₁ device₂ o₁ o₂ elems hbase hreply hreports hfinish hget hproviders
  obtain ⟨hread, hstored⟩ := mappingInfo_stored hreply hfinish hget
  rw [hbase] at hstored
  have hdiffers := nothing_differs hkeyed hentries hsame hread hreports hstored hproviders
  have hkeyed₂ : Keyed device₂.srvMapDesired := by
    rw [hstored]
    exact applyServicesReply_keyed (hsame.keyed hkeyed) _
  have hempty : (mappingChanges a₂ device₂).2.toList = [] := by
    rw [List.eq_nil_iff_forall_not_mem]
    intro entry hentry
    exact hdiffers entry.1
      (((mappingChanges_exact a₂ hkeyed₂).exact entry.1 entry.2).mp hentry).1
  rw [seen_push_nothing hempty]
  exact ⟨rfl, rfl⟩

end Push

section Sample

open RefPlatform

/-- A device that wants its health sent somewhere, and is mapped nowhere. -/
def sampleSource : HNMDARecord :=
  { HNMDARecord.new with
    addrList := [setAddressInfo (lit "garden.local") (lit "192.168.1.10") 8080]
    srvMapDesired := (updateSrv ∅ (lit "hnsrv-health-sink")).1 }

/-- The manager, which provides the sink by default, and the device. -/
def sampleMapped : HNManagedDeviceArbiter :=
  ((Sys.init sampleManager ()).arbiter.notifyDiscoverAdd sampleManagerFound.toRecord).setDevice
    (lit "4900fb4e") sampleSource

/-- The device reports the sink under the manager's URI. -/
def reportedSink : List (Option JsonObject) :=
  [servicesEntry (lit "hnsrv-health-sink") (lit "http://192.168.1.2/hnode2/mgmt/health-sink")]

/-- It reports what it has been sent. -/
theorem reportedSink_reports {entries : List (Str × Str)}
    (hentries : ExactDifference sampleMapped sampleSource entries) :
    (lit "hnsrv-health-sink", lit "http://192.168.1.2/hnode2/mgmt/health-sink") ∈ entries ∧
      ReportsPushed sampleSource entries reportedSink := by
  have htarget : serviceTarget sampleMapped (lit "hnsrv-health-sink") =
      lit "http://192.168.1.2/hnode2/mgmt/health-sink" := by decide +kernel
  have hdesired : ∀ t : Str, t ∈ sampleSource.srvMapDesired ↔ t = lit "hnsrv-health-sink" := by
    intro t
    show t ∈ (updateSrv ∅ (lit "hnsrv-health-sink")).1 ↔ _
    rw [mem_updateSrv]
    simp
  have hpushed : (lit "hnsrv-health-sink", lit "http://192.168.1.2/hnode2/mgmt/health-sink") ∈
      entries := by
    rw [hentries.exact]
    refine ⟨⟨(hdesired _).mpr rfl, ?_⟩, htarget.symm⟩
    rw [htarget]
    decide +kernel
  refine ⟨hpushed, ⟨?_, ?_, ?_⟩⟩
  · intro elem helem t htype
    obtain rfl := List.mem_singleton.mp helem
    rw [hdesired]
    exact (Option.some.inj htype).symm
  · intro t uri hmem
    obtain ⟨⟨hin, -⟩, huri⟩ := (hentries.exact t uri).mp hmem
    obtain rfl := (hdesired t).mp hin
    rw [huri, htarget]
    decide +kernel
  · intro t uri hnot hlast
    -- a type that is not the sink is given no URI
    by_cases heq : lit "hnsrv-health-sink" = t
    · exact absurd (List.mem_map_of_mem hpushed) (heq ▸ hnot)
    · have hnone : lastGiven (lit "uri") t reportedSink = none := by
        unfold lastGiven reportedSink
        have hgiven : elemGiven (lit "uri") t (servicesEntry (lit "hnsrv-health-sink")
            (lit "http://192.168.1.2/hnode2/mgmt/health-sink")) = none :=
          if_neg fun h => heq (Option.some.inj h)
        rw [List.filterMap_cons_none hgiven]
        rfl
      rw [hnone] at hlast
      cases hlast

/-- The sink is pushed, reported, and not pushed again. -/
theorem mapping_push_exact_sample :
    ∃ device' a₂ device₂,
      (seen (RestOp.run (lit "4900fb4e") sampleAnswer .executeDeviceServicesUpdateMapping
        { arbiter := sampleMapped, device := sampleSource })).1 ≠ [] ∧
      RestOp.finish (sampleMapped.setDevice (lit "4900fb4e") device') (lit "4900fb4e") device'
        (okReply (.array reportedSink)) .updateDeviceServicesMappingInfo = some (a₂, .success) ∧
      a₂.deviceMap[lit "4900fb4e"]? = some device₂ ∧
      (seen (RestOp.run (lit "4900fb4e") sampleAnswer .executeDeviceServicesUpdateMapping
        { arbiter := a₂, device := device₂ })).1 = [] := by
  have hkeyed : Keyed sampleSource.srvMapDesired := keyed_updateSrv keyed_empty _
  obtain ⟨device', entries, hdevice, hsame, hentries, -, hput, hnext⟩ :=
    mapping_push_exact sampleMapped (lit "4900fb4e") sampleSource
      (setAddressInfo (lit "garden.local") (lit "192.168.1.10") 8080) sampleAnswer hkeyed
      (by decide +kernel)
  obtain ⟨hpushed, hreports⟩ := reportedSink_reports hentries
  obtain ⟨result, hsent⟩ := hput (List.ne_nil_of_mem hpushed)
  have hread : ∀ elem ∈ reportedSink, elemRaises elem = false := by decide
  obtain ⟨changed, hflag, -, -⟩ := applyServicesReply_installs (hsame.keyed hkeyed) hread
  -- the device answers with its mappings, which are taken over
  have hget : sampleMapped.deviceMap[lit "4900fb4e"]? = some sampleSource :=
    setDevice_get.trans (if_pos rfl)
  have hwritten := stores_setDevice sampleMapped (lit "4900fb4e") device'
  have hfinish := SrvUpdate.finish_success .desired
    (sampleMapped.setDevice (lit "4900fb4e") device') (lit "4900fb4e")
    (o := okReply (.array reportedSink)) rfl hflag
  obtain ⟨hstores, -, hdefaults⟩ := finish_stores hwritten.get hfinish
  have hprovided : device'.srvMapProvided = sampleSource.srvMapProvided :=
    (congrArg HNMDARecord.srvMapProvided hdevice).trans rfl
  have hproviders := sameProviders_of_stores (hwritten.trans hstores) hget
    (((deviceGiven_frame _ _ _ _).provided (by decide)).trans hprovided)
    (hdefaults.trans (setDevice_defaultMappings _ _ _))
  refine ⟨device', _, _, ?_, hfinish, hstores.get, ?_⟩
  · rw [hsent]
    exact List.cons_ne_nil _ _
  · exact (hnext _ _ device' _ _ sampleAnswer reportedSink rfl rfl hreports hfinish hstores.get
      hproviders).1

end Sample

end HNodeMgmt.Arbiter
