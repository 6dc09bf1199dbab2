/-
  HNodeMgmt.Arbiter.Rebuild — the service indexes, rebuilt from the records.

  `rebuildSrvProviderMap` and `rebuildSrvMappings` empty an index, walk the
  device map, and push the ID of each record to the list of every type it has.
  What they leave is the inverse of the relation between the records and their
  types, and the report of it names every pair once.

  Main results:
    * `inverse_of_rebuilt` — the inverse, for any choice of the services.
    * `reported_once` — the report of an index that is one.
    * `rebuild_inverse` — both rebuilds and both reports.
-/
import Mathlib.Tactic.Common
import HNodeMgmt.Arbiter.Indexes

namespace HNodeMgmt.Arbiter

open Lib

section Rebuild

variable [Platform]

/-! ## §1. The inverse relation. -/

/-- The index is the inverse of the relation between the records and their
services: its keys are the types that some record has, and under each are the
IDs of the records with it, in the order of the device map, without duplicates. -/
structure InverseOf (services : HNMDARecord → SrvMap) (a : HNManagedDeviceArbiter)
    (index : StrMap (List Str)) : Prop where
  keys : ∀ t : Str, t ∈ index ↔ ∃ (key : Str) (device : HNMDARecord),
    a.deviceMap[key]? = some device ∧ t ∈ services device
  ids : ∀ (t : Str) (list : List Str), index[t]? = some list →
    list = (a.deviceMap.toList.filter fun it => t ∈ services it.2).map
      fun it => it.2.getCRC32IDStr
  nodup : ∀ (t : Str) (list : List Str), index[t]? = some list → list.Nodup

/-- The pairs of a service and a device that a report names. -/
def reportedPairs (infos : List HNMDServiceInfo) : List (Str × Str) :=
  infos.flatMap fun info => info.devRefList.map fun ref => (info.srvType, ref.crc32ID)

/-- The report is made, names every pair of a service and a known device that has
it, once, and each device by its name. -/
def NamesOnce (services : HNMDARecord → SrvMap) (a : HNManagedDeviceArbiter)
    (report : Option (List HNMDServiceInfo)) : Prop :=
  ∃ infos, report = some infos ∧ (reportedPairs infos).Nodup ∧
    (∀ t id : Str, (t, id) ∈ reportedPairs infos ↔
      ∃ device : HNMDARecord, a.deviceMap[id]? = some device ∧ t ∈ services device) ∧
    ∀ info ∈ infos, ∀ ref ∈ info.devRefList,
      ∃ device : HNMDARecord, a.deviceMap[ref.crc32ID]? = some device ∧ ref.name = device.name

variable {a : HNManagedDeviceArbiter} {services : HNMDARecord → SrvMap}
  {index : StrMap (List Str)}

/-- The IDs of some records of the map are all different. -/
theorem ids_nodup (hkeys : KeysAgree a) (p : Str × HNMDARecord → Bool) :
    ((a.deviceMap.toList.filter p).map fun it => it.2.getCRC32IDStr).Nodup := by
  have hsame : (a.deviceMap.toList.filter p).map (fun it => it.2.getCRC32IDStr) =
      (a.deviceMap.toList.filter p).map Prod.fst := by
    refine List.map_congr_left fun it hit => ?_
    have hmem := (List.mem_filter.mp hit).1
    exact (hkeys it.1 it.2 (Std.ExtTreeMap.mem_toList_iff_getElem?_eq_some.mp hmem)).1
  rw [hsame]
  exact (OrdMap.nodup_fst_toList a.deviceMap).sublist (List.filter_sublist.map Prod.fst)

/-- **What a rebuild leaves is the inverse**, whatever services it goes by. -/
theorem inverse_of_rebuilt (hkeys : KeysAgree a) {types : HNMDARecord → List Str}
    (htypes : ∀ (key : Str) (d : HNMDARecord), a.deviceMap[key]? = some d →
      types d = (services d).keys) :
    InverseOf services a
      (invert (a.deviceMap.toList.map fun it => (it.2.getCRC32IDStr, types it.2))) := by
  have hget : ∀ it ∈ a.deviceMap.toList, a.deviceMap[it.1]? = some it.2 :=
    fun it hit => Std.ExtTreeMap.mem_toList_iff_getElem?_eq_some.mp hit
  have hmem : ∀ it ∈ a.deviceMap.toList, ∀ t, t ∈ types it.2 ↔ t ∈ services it.2 := by
    intro it hit t
    rw [htypes it.1 it.2 (hget it hit), Std.ExtTreeMap.mem_keys]
  have hrows : ∀ row ∈ a.deviceMap.toList.map fun it => (it.2.getCRC32IDStr, types it.2),
      row.2.Nodup := by
    intro row hrow
    obtain ⟨it, hit, rfl⟩ := List.mem_map.mp hrow
    show (types it.2).Nodup
    rw [htypes it.1 it.2 (hget it hit)]
    exact (services it.2).nodup_keys
  have hids : ∀ (t : Str) (list : List Str),
      (invert (a.deviceMap.toList.map fun it => (it.2.getCRC32IDStr, types it.2)))[t]? =
        some list →
      list = (a.deviceMap.toList.filter fun it => t ∈ services it.2).map
        fun it => it.2.getCRC32IDStr := by
    intro t list hlist
    rw [invert_get hrows hlist, List.filter_map, List.map_map]
    show List.map (fun it : Str × HNMDARecord => it.2.getCRC32IDStr) _ = _
    refine congrArg _ (List.filter_congr fun it hit => ?_)
    exact decide_eq_decide.mpr (hmem it hit t)
  refine ⟨?_, hids, ?_⟩
  · intro t
    rw [mem_invert_keys]
    constructor
    · intro ⟨row, hrow, ht⟩
      obtain ⟨it, hit, rfl⟩ := List.mem_map.mp hrow
      exact ⟨it.1, it.2, hget it hit, (hmem it hit t).mp ht⟩
    · intro ⟨key, device, hdevice, ht⟩
      have hit : (key, device) ∈ a.deviceMap.toList :=
        Std.ExtTreeMap.mem_toList_iff_getElem?_eq_some.mpr hdevice
      exact ⟨_, List.mem_map_of_mem hit, (hmem _ hit t).mpr ht⟩
  · intro t list hlist
    rw [hids t list hlist]
    exact ids_nodup hkeys _

/-! ## §2. The report. -/

/-- What the report says of a listed ID. -/
def devRefOf (a : HNManagedDeviceArbiter) (id : Str) : HNMDServiceDevRef :=
  match a.deviceMap[id]? with
  | some device => { name := device.name, crc32ID := device.getCRC32IDStr }
  | none => { name := [], crc32ID := [] }

/-- An ID that is listed under a type is a known device with it. -/
theorem InverseOf.listed (h : InverseOf services a index) (hkeys : KeysAgree a) {t id : Str}
    {list : List Str} (hlist : index[t]? = some list) :
    id ∈ list ↔ ∃ device : HNMDARecord, a.deviceMap[id]? = some device ∧ t ∈ services device := by
  rw [h.ids t list hlist, List.mem_map]
  constructor
  · intro ⟨it, hit, hid⟩
    obtain ⟨hmem, ht⟩ := List.mem_filter.mp hit
    have hget := Std.ExtTreeMap.mem_toList_iff_getElem?_eq_some.mp hmem
    have hkey : it.1 = id := (hkeys it.1 it.2 hget).1.symm.trans hid
    exact ⟨it.2, hkey ▸ hget, of_decide_eq_true ht⟩
  · intro ⟨device, hget, ht⟩
    have hmem : (id, device) ∈ a.deviceMap.toList :=
      Std.ExtTreeMap.mem_toList_iff_getElem?_eq_some.mpr hget
    exact ⟨(id, device), List.mem_filter.mpr ⟨hmem, decide_eq_true ht⟩, (hkeys id device hget).1⟩

omit [Platform] in
theorem mapM_some {α β : Type} {f : α → Option β} {g : α → β} :
    ∀ {l : List α}, (∀ x ∈ l, f x = some (g x)) → l.mapM f = some (l.map g)
  | [], _ => rfl
  | x :: l, h => by
      have ih := mapM_some (l := l) fun y hy => h y (by simp [hy])
      rw [List.mapM_cons, h x (by simp), ih]
      rfl

/-- The report of an index of known devices. -/
theorem reportInfoList_eq (hknown : ∀ (t : Str) (list : List Str), index[t]? = some list →
      ∀ id ∈ list, ∃ device : HNMDARecord, a.deviceMap[id]? = some device) :
    a.reportInfoList index = some (index.toList.map fun it =>
      { srvType := it.1, devRefList := it.2.map (devRefOf a) }) := by
  unfold HNManagedDeviceArbiter.reportInfoList
  refine mapM_some fun it hit => ?_
  have hlist := Std.ExtTreeMap.mem_toList_iff_getElem?_eq_some.mp hit
  have hrefs : (it.2.mapM fun id => do
      let device ← a.deviceMap[id]?
      return ({ name := device.name, crc32ID := device.getCRC32IDStr } : HNMDServiceDevRef)) =
      some (it.2.map (devRefOf a)) := by
    refine mapM_some fun id hid => ?_
    obtain ⟨device, hget⟩ := hknown it.1 it.2 hlist id hid
    rw [devRefOf, hget]
    rfl
  rw [hrefs]
  rfl

/-- A listed device is named by its own ID. -/
theorem devRefOf_listed (h : InverseOf services a index) (hkeys : KeysAgree a) {t id : Str}
    {list : List Str} (hlist : index[t]? = some list) (hid : id ∈ list) :
    ∃ device : HNMDARecord, a.deviceMap[id]? = some device ∧
      devRefOf a id = { name := device.name, crc32ID := id } := by
  obtain ⟨device, hget, -⟩ := (h.listed hkeys hlist).mp hid
  refine ⟨device, hget, ?_⟩
  rw [devRefOf, hget]
  show ({ name := device.name, crc32ID := device.getCRC32IDStr } : HNMDServiceDevRef) = _
  rw [(hkeys id device hget).1]

/-- **The report of an inverse** names every pair once. -/
theorem reported_once (h : InverseOf services a index) (hkeys : KeysAgree a) :
    NamesOnce services a (a.reportInfoList index) := by
  have hlist : ∀ it ∈ index.toList, index[it.1]? = some it.2 :=
    fun it hit => Std.ExtTreeMap.mem_toList_iff_getElem?_eq_some.mp hit
  have hreport := reportInfoList_eq (a := a) fun t list ht id hid =>
    ((h.listed hkeys ht).mp hid).imp fun _ hdevice => hdevice.1
  have hpairs : reportedPairs (index.toList.map fun it =>
      { srvType := it.1, devRefList := it.2.map (devRefOf a) }) = indexPairs index := by
    rw [reportedPairs, List.flatMap_map]
    refine List.flatMap_congr fun it hit => ?_
    rw [List.map_map]
    refine List.map_congr_left fun id hid => ?_
    obtain ⟨device, -, hname⟩ := devRefOf_listed h hkeys (hlist it hit) hid
    show (it.1, (devRefOf a id).crc32ID) = (it.1, id)
    rw [hname]
  refine ⟨_, hreport, ?_, ?_, ?_⟩
  · rw [hpairs]
    exact nodup_indexPairs h.nodup
  · intro t id
    rw [hpairs, mem_indexPairs]
    constructor
    · intro hlisted
      obtain ⟨list, hget, hid⟩ := hlisted
      exact (h.listed hkeys hget).mp hid
    · intro hknown
      obtain ⟨list, hget⟩ := (OrdMap.mem_iff_get _ _).mp ((h.keys t).mpr ⟨id, hknown⟩)
      exact ⟨list, hget, (h.listed hkeys hget).mpr hknown⟩
  · intro info hinfo ref hrefmem
    obtain ⟨it, hit, rfl⟩ := List.mem_map.mp hinfo
    obtain ⟨id, hid, rfl⟩ := List.mem_map.mp hrefmem
    obtain ⟨device, hget, hname⟩ := devRefOf_listed h hkeys (hlist it hit) hid
    rw [hname]
    exact ⟨device, hget, rfl⟩

/-! ## §3. The two rebuilds. -/

/-- **Rebuilding computes the exact inverse**, of the provided and of the desired
services, whatever was in the index before; and the reports after it name each
pair of a service and a device exactly once. -/
theorem rebuild_inverse (a : HNManagedDeviceArbiter) (hkeys : KeysAgree a) :
    (InverseOf HNMDARecord.srvMapProvided a a.rebuildSrvProviderMap.providerMap ∧
        NamesOnce HNMDARecord.srvMapProvided a a.rebuildSrvProviderMap.reportSrvProviderInfoList) ∧
      InverseOf HNMDARecord.srvMapDesired a a.rebuildSrvMappings.servicesMap ∧
        NamesOnce HNMDARecord.srvMapDesired a a.rebuildSrvMappings.reportSrvMappingInfoList := by
  have hprovided : InverseOf HNMDARecord.srvMapProvided a a.rebuildSrvProviderMap.providerMap :=
    inverse_of_rebuilt hkeys fun key d hd => srvTSList_eq_keys (hkeys key d hd).2.1
  have hdesired : InverseOf HNMDARecord.srvMapDesired a a.rebuildSrvMappings.servicesMap :=
    inverse_of_rebuilt hkeys fun key d hd => srvTSList_eq_keys (hkeys key d hd).2.2
  -- a rebuild leaves the records
  exact ⟨⟨hprovided, reported_once hprovided hkeys⟩, hdesired, reported_once hdesired hkeys⟩

end Rebuild

/-! ### Two devices. -/

section Sample

open RefPlatform

/-- The manager has found a device, which provides the health source, and itself. -/
theorem rebuild_inverse_sample :
    ∃ ts s, Run system (Sys.init sampleManager ()) ts s ∧
      s.arbiter.rebuildSrvProviderMap.providerMap[lit "hnsrv-health-source"]? =
        some [lit "4900fb4e"] ∧
      InverseOf HNMDARecord.srvMapProvided s.arbiter
        s.arbiter.rebuildSrvProviderMap.providerMap ∧
      NamesOnce HNMDARecord.srvMapProvided s.arbiter
        s.arbiter.rebuildSrvProviderMap.reportSrvProviderInfoList := by
  obtain ⟨ts, s, hr, hp⟩ := Machine.exists_run_of_exec (M := system)
    (s := Sys.init sampleManager ()) (l := providedRun ++ [.notifyDiscoverAdd sampleManagerFound])
    (p := fun r => r.2.arbiter.rebuildSrvProviderMap.providerMap[lit "hnsrv-health-source"]? ==
      some [lit "4900fb4e"]) (by decide +kernel)
  have hkeys : KeysAgree s.arbiter := (indexInv_run crc32StrStable_ref hr).keys
  exact ⟨ts, s, hr, beq_iff_eq.mp hp, (rebuild_inverse s.arbiter hkeys).1⟩

end Sample

end HNodeMgmt.Arbiter
