/-
  HNodeMgmt.Arbiter.Addresses — where a device can be reached.

  A record keeps the addresses its device was announced with: a known address
  is rewritten where it stands, a new one goes to the end.  Nothing else
  touches the list, so a lookup answers from the announcements of a whole
  run, in whatever way they were interleaved.

  Main results:
    * `addrsOf_run` — along every run a record's addresses are the
      announcements for its ID, put one after the other.
    * `lookup_reflects_announcements` — what a lookup finds.
-/
import Mathlib.Tactic.Common
import Mathlib.Data.List.Find
import HNodeMgmt.Lib.Upsert
import HNodeMgmt.Arbiter.RecordSteps

namespace HNodeMgmt.Arbiter

open Lib

section Addresses

variable [Platform]

/-! ## §1. The lookup. -/

/-- `lookupConnectionInfo`, with the connection info the caller passes in. -/
def HNManagedDeviceArbiter.lookupConnectionInfo (a : HNManagedDeviceArbiter) (crc32ID : Str)
    (preferredType : AddrType) (connInfo : HNMDARAddress) : HNMDARAddress × HNMDLResult :=
  match a.deviceMap[crc32ID]? with
  | none => (connInfo, .failure)
  | some device =>
    match device.findPreferredConnection preferredType with
    | none => (connInfo, .failure)
    | some found => (found, .success)

/-- The addresses of a device, none for one that is not known. -/
def addrsOf (a : HNManagedDeviceArbiter) (crc32ID : Str) : List HNMDARAddress :=
  ((a.deviceMap[crc32ID]?).map HNMDARecord.addrList).getD []

/-- What an announced entry (host, address, port) is stored as. -/
def storedAddr (e : Str × Str × UInt16) : HNMDARAddress := setAddressInfo e.1 e.2.1 e.2.2

/-- The entries an event announces for an ID. -/
def announcedBy (crc32ID : Str) : Label → List (Str × Str × UInt16)
  | .notifyDiscoverAdd event =>
    if event.toRecord.getCRC32IDStr = crc32ID then event.addrs else []
  | _ => []

/-- The entries announced for an ID along a run, oldest first. -/
def announced (crc32ID : Str) (ts : List (Trans Sys Label Event)) : List (Str × Str × UInt16) :=
  ts.flatMap fun t => announcedBy crc32ID t.label

variable {a a' : HNManagedDeviceArbiter} {id : Str} {device device' : HNMDARecord}

theorem addrsOf_of_get (hget : a.deviceMap[id]? = some device) :
    addrsOf a id = device.addrList := by
  rw [addrsOf, hget]
  rfl

/-- A lookup without an address of the type leaves the connection info alone. -/
theorem lookup_none {preferredType : AddrType} (connInfo : HNMDARAddress)
    (h : (addrsOf a id).find? (fun addr => addr.type == preferredType) = none) :
    a.lookupConnectionInfo id preferredType connInfo = (connInfo, .failure) := by
  unfold HNManagedDeviceArbiter.lookupConnectionInfo
  cases hget : a.deviceMap[id]? with
  | none => rfl
  | some device =>
    rw [addrsOf_of_get hget] at h
    simp only [HNMDARecord.findPreferredConnection, h, Option.map_none]

/-- A lookup takes the first address of the type. -/
theorem lookup_some {preferredType : AddrType} {addr : HNMDARAddress} (connInfo : HNMDARAddress)
    (h : (addrsOf a id).find? (fun addr => addr.type == preferredType) = some addr) :
    a.lookupConnectionInfo id preferredType connInfo =
      (setAddressInfo addr.dnsName addr.address addr.port, .success) := by
  unfold HNManagedDeviceArbiter.lookupConnectionInfo
  cases hget : a.deviceMap[id]? with
  | none =>
    rw [addrsOf, hget] at h
    cases h
  | some device =>
    rw [addrsOf_of_get hget] at h
    simp only [HNMDARecord.findPreferredConnection, h, Option.map_some]

/-! ## §2. The lists of addresses. -/

/-- The loop of `addAddressInfo` updates a list of entries with keys. -/
theorem addToAddrList_eq (dnsName address : Str) (port : UInt16) :
    ∀ l : List HNMDARAddress, HNMDARecord.addToAddrList dnsName address port l =
      upsert HNMDARAddress.address (setAddressInfo dnsName address port) l
  | [] => rfl
  | a :: l => by
      have hkey : (setAddressInfo dnsName address port).address = address := rfl
      rw [HNMDARecord.addToAddrList, upsert, hkey, addToAddrList_eq dnsName address port l]

theorem foldl_addAddressInfo_addrList {ι : Type} (f : ι → Str × Str × UInt16) :
    ∀ (l : List ι) (r : HNMDARecord),
      (l.foldl (fun r i => r.addAddressInfo (f i).1 (f i).2.1 (f i).2.2) r).addrList =
        upsertAll HNMDARAddress.address r.addrList (l.map fun i => storedAddr (f i))
  | [], _ => rfl
  | i :: l, r => by
      rw [List.foldl_cons, foldl_addAddressInfo_addrList f l, List.map_cons, upsertAll_cons]
      congr 1
      exact addToAddrList_eq _ _ _ r.addrList

/-- The record of an event holds its entries, put one after the other. -/
theorem toRecord_addrList (event : DiscoverEvent) :
    event.toRecord.addrList =
      upsertAll HNMDARAddress.address [] (event.addrs.map storedAddr) := by
  rw [DiscoverEvent.toRecord]
  exact foldl_addAddressInfo_addrList (fun e => e) event.addrs _

/-- Storing the addresses of an event again changes nothing. -/
theorem storedAddr_again (event : DiscoverEvent) :
    event.toRecord.addrList.map (fun addr => storedAddr (addr.dnsName, addr.address, addr.port)) =
      event.toRecord.addrList := by
  refine (List.map_congr_left fun addr hmem => ?_).trans (List.map_id _)
  rw [toRecord_addrList] at hmem
  rcases mem_upsertAll _ hmem with hnil | hentry
  · exact absurd hnil List.not_mem_nil
  · obtain ⟨e, -, rfl⟩ := List.mem_map.mp hentry
    rfl

/-- **A rediscovery** puts the entries of its event after those that are there. -/
theorem updateRecord_addrList (known : HNMDARecord) (event : DiscoverEvent) :
    (known.updateRecord event.toRecord).addrList =
      upsertAll HNMDARAddress.address known.addrList (event.addrs.map storedAddr) := by
  have hmerge : (known.updateRecord event.toRecord).addrList =
      upsertAll HNMDARAddress.address known.addrList (event.toRecord.addrList.map fun addr =>
        storedAddr (addr.dnsName, addr.address, addr.port)) := by
    rw [HNMDARecord.updateRecord]
    exact foldl_addAddressInfo_addrList
      (fun addr : HNMDARAddress => (addr.dnsName, addr.address, addr.port))
      event.toRecord.addrList _
  rw [hmerge, storedAddr_again, toRecord_addrList, upsertAll_upsertAll]

/-- A discovered record keeps the addresses of its event. -/
theorem discovered_addrList (a : HNManagedDeviceArbiter) (record : HNMDARecord) :
    (discovered a record).addrList = record.addrList := by
  unfold discovered
  split
  next =>
    rw [initMgmtDevice_frame]
    rfl
  next => rfl

/-! ## §3. One step. -/

/-- **A discovery** puts the entries of its event after those of its ID. -/
theorem addrsOf_add (a : HNManagedDeviceArbiter) (event : DiscoverEvent) (key : Str) :
    addrsOf (a.notifyDiscoverAdd event.toRecord) key =
      upsertAll HNMDARAddress.address (addrsOf a key)
        ((announcedBy key (.notifyDiscoverAdd event)).map storedAddr) := by
  have hstores : ∃ device', Stores a (a.notifyDiscoverAdd event.toRecord)
      event.toRecord.getCRC32IDStr device' ∧
      device'.addrList = upsertAll HNMDARAddress.address
        (addrsOf a event.toRecord.getCRC32IDStr) (event.addrs.map storedAddr) := by
    cases hget : a.deviceMap[event.toRecord.getCRC32IDStr]? with
    | none =>
      refine ⟨_, notifyDiscoverAdd_new hget, ?_⟩
      rw [discovered_addrList, toRecord_addrList, addrsOf, hget]
      rfl
    | some known =>
      refine ⟨_, notifyDiscoverAdd_known hget, ?_⟩
      rw [updateRecord_addrList, addrsOf_of_get hget]
  obtain ⟨device', hstores, haddr⟩ := hstores
  by_cases heq : event.toRecord.getCRC32IDStr = key
  · rw [announcedBy, if_pos heq, ← heq, addrsOf_of_get hstores.get, haddr]
  · rw [announcedBy, if_neg heq, List.map_nil, upsertAll_nil, addrsOf, addrsOf,
      hstores.get_ne heq]

/-- What is not a discovery keeps the addresses. -/
theorem RecordTook.addrs {s s' : Sys} {key : Str} {l : Label} {es : List Event}
    (h : RecordTook s key l s' es) (hadd : ∀ event, l ≠ .notifyDiscoverAdd event) :
    addrsOf s'.arbiter key = addrsOf s.arbiter key := by
  cases h with
  | away same moved quiet => rw [addrsOf, addrsOf, same]
  | appeared hid hnone after stays | announced hid hget after stays => exact absurd rfl (hadd _)
  | removed hid hget after stays =>
    rw [addrsOf_of_get hget, addrsOf_of_get after]
    rfl
  | cmdSet hget after stays | cmdStarted hget after stays =>
    rw [addrsOf_of_get hget, addrsOf_of_get after]
    rfl
  | read hphase hget hbusy after goes => rw [addrsOf_of_get hget, addrsOf_of_get after]
  | @alone _ st device hphase hget hop after goes =>
    rw [addrsOf_of_get hget, addrsOf_of_get after]
    cases st <;> rfl
  | @finished _ st device op result hphase hget hop hstart after goes
  | @requested _ st device op req hphase hget hop hstart after goes
  | @raised _ st device op hphase hget hop hstart after goes =>
    obtain ⟨m, heq, -⟩ := start_device s.arbiter device op
    rw [addrsOf_of_get hget, addrsOf_of_get after, heq]
  | @replied _ st device op o result hphase hget hfinish after goes =>
    rw [addrsOf_of_get hget, addrsOf_of_get after]
    exact (deviceGiven_frame s.arbiter device o op).addrList
  | written hphase hget after goes =>
    rw [addrsOf_of_get hget, addrsOf_of_get after]
    rfl

/-- **What a step does to the addresses**: a discovery adds those it announces,
and nothing else touches them. -/
theorem addrsOf_of_took {s s' : Sys} {l : Label} {es : List Event} (htook : Took s l s' es)
    (key : Str) :
    addrsOf s'.arbiter key =
      upsertAll HNMDARAddress.address (addrsOf s.arbiter key)
        ((announcedBy key l).map storedAddr) := by
  cases l with
  | notifyDiscoverAdd event =>
    cases htook
    exact addrsOf_add s.arbiter event key
  | _ => exact (recordTook_of_took htook key).addrs fun _ h => by cases h

/-! ## §4. Whole runs. -/

/-- **A record's addresses are the announcements for its ID**, put one after
the other. -/
theorem addrsOf_run {mgmtDevice : HNodeDevice} {caches : Platform.Caches}
    {ts : List (Trans Sys Label Event)} {s : Sys}
    (hr : Run system (Sys.init mgmtDevice caches) ts s) (id : Str) :
    addrsOf s.arbiter id =
      upsertAll HNMDARAddress.address [] ((announced id ts).map storedAddr) := by
  refine Run.traceInvariant (P := fun ts s => addrsOf s.arbiter id =
    upsertAll HNMDARAddress.address [] ((announced id ts).map storedAddr)) ?_ ?_ hr
  · have hnone : (Sys.init mgmtDevice caches).arbiter.deviceMap[id]? = none := by simp [Sys.init]
    rw [addrsOf, hnone]
    rfl
  · intro us u l v es _ hu hstep
    have happ : announced id (us ++ [⟨u, l, es, v⟩]) = announced id us ++ announcedBy id l := by
      simp [announced]
    rw [happ, List.map_append, upsertAll_append, ← hu]
    exact addrsOf_of_took (took_of_step hstep) id

/-- The first address of a type is the first of that type that was announced. -/
theorem find_type (es : List (Str × Str × UInt16)) (preferredType : AddrType) :
    ((upsertAll HNMDARAddress.address [] (es.map storedAddr)).find?
        fun addr => addr.type == preferredType).map HNMDARAddress.address =
      (es.find? fun e => addressType e.2.1 == preferredType).map fun e => e.2.1 := by
  -- what is stored is classified by its address
  have htype : ∀ addr ∈ upsertAll HNMDARAddress.address [] (es.map storedAddr),
      (addr.type == preferredType) = (addressType addr.address == preferredType) := by
    intro addr hmem
    rcases mem_upsertAll _ hmem with hnil | hentry
    · exact absurd hnil List.not_mem_nil
    · obtain ⟨e, -, rfl⟩ := List.mem_map.mp hentry
      rfl
  have hfind := find?_keys_upsertAll HNMDARAddress.address
    (fun address => addressType address == preferredType) (es.map storedAddr) []
  rw [List.map_nil, List.nil_append, List.map_map, List.find?_map, List.find?_map] at hfind
  rw [List.find?_congr htype]
  exact hfind

/-- The entry under an address is what was last announced for it. -/
theorem find_latest (es : List (Str × Str × UInt16)) (address : Str) :
    (upsertAll HNMDARAddress.address [] (es.map storedAddr)).find?
        (fun addr => addr.address = address) =
      (es.reverse.find? fun e => e.2.1 = address).map storedAddr := by
  rw [find?_upsertAll, List.find?_nil, Option.or_none, ← List.map_reverse, List.find?_map]
  rfl

/-- Where no announced address has the type, the caller's connection info stays. -/
theorem lookup_of_none {mgmtDevice : HNodeDevice} {caches : Platform.Caches} {s : Sys}
    (hr : Run system (Sys.init mgmtDevice caches) ts s) {preferredType : AddrType}
    (connInfo : HNMDARAddress)
    (hfind : (announced id ts).find? (fun e => addressType e.2.1 == preferredType) = none) :
    s.arbiter.lookupConnectionInfo id preferredType connInfo = (connInfo, .failure) := by
  have htype := find_type (announced id ts) preferredType
  rw [← addrsOf_run hr id, hfind, Option.map_none, Option.map_eq_none_iff] at htype
  exact lookup_none connInfo htype

/-- The first announced address of the type is returned, as it was last announced. -/
theorem lookup_of_first {mgmtDevice : HNodeDevice} {caches : Platform.Caches} {s : Sys}
    (hr : Run system (Sys.init mgmtDevice caches) ts s) {preferredType : AddrType}
    (connInfo : HNMDARAddress) {first : Str × Str × UInt16}
    (hfind : (announced id ts).find? (fun e => addressType e.2.1 == preferredType) =
      some first) :
    ∃ latest, (announced id ts).reverse.find? (fun e => e.2.1 = first.2.1) = some latest ∧
      s.arbiter.lookupConnectionInfo id preferredType connInfo =
        ({ type := preferredType, dnsName := latest.1, address := first.2.1,
           port := latest.2.2 }, .success) := by
  have haddrs := addrsOf_run hr id
  have htype := find_type (announced id ts) preferredType
  rw [← haddrs, hfind, Option.map_some] at htype
  obtain ⟨addr, haddr, haddress⟩ := Option.map_eq_some_iff.mp htype
  -- it is the only entry with its address
  have honly : (addrsOf s.arbiter id).find? (fun b => b.address = first.2.1) = some addr := by
    rw [← haddress]
    refine find?_of_mem _ ?_ (List.mem_of_find?_eq_some haddr)
    rw [haddrs]
    exact nodup_upsertAll _ List.nodup_nil
  rw [haddrs, find_latest] at honly
  obtain ⟨latest, hlatest, rfl⟩ := Option.map_eq_some_iff.mp honly
  have hpreferred : (storedAddr latest).type = preferredType := by
    simpa using List.find?_some haddr
  refine ⟨latest, hlatest, ?_⟩
  rw [lookup_some connInfo haddr, ← haddress, ← hpreferred]
  rfl

/-- **What a lookup finds.**  Along every run, discoveries interleaved with
anything else: no record holds two entries with one address; no announced
address is dropped; and a lookup succeeds if and only if an address announced
for the ID has the type.  It returns, of these, the one announced first, with
what was last announced for it, and leaves the caller's connection info alone
where there is none. -/
theorem lookup_reflects_announcements (mgmtDevice : HNodeDevice) (caches : Platform.Caches)
    (ts : List (Trans Sys Label Event)) (s : Sys)
    (hr : Run system (Sys.init mgmtDevice caches) ts s) :
    (∀ (key : Str) (device : HNMDARecord), s.arbiter.deviceMap[key]? = some device →
      (device.addrList.map HNMDARAddress.address).Nodup) ∧
    (∀ (id : Str), ∀ e ∈ announced id ts, ∃ device : HNMDARecord,
      s.arbiter.deviceMap[id]? = some device ∧
        e.2.1 ∈ device.addrList.map HNMDARAddress.address) ∧
    ∀ (id : Str) (preferredType : AddrType) (connInfo : HNMDARAddress),
      ((s.arbiter.lookupConnectionInfo id preferredType connInfo).2 = .success ↔
        ∃ e ∈ announced id ts, addressType e.2.1 = preferredType) ∧
      ((announced id ts).find? (fun e => addressType e.2.1 == preferredType) = none →
        s.arbiter.lookupConnectionInfo id preferredType connInfo = (connInfo, .failure)) ∧
      ∀ first, (announced id ts).find? (fun e => addressType e.2.1 == preferredType) = some first →
        ∃ latest, (announced id ts).reverse.find? (fun e => e.2.1 = first.2.1) = some latest ∧
          s.arbiter.lookupConnectionInfo id preferredType connInfo =
            ({ type := preferredType, dnsName := latest.1, address := first.2.1,
               port := latest.2.2 }, .success) := by
  have haddrs := addrsOf_run hr
  -- what is announced is stored under its address
  have hkeys : ∀ es : List (Str × Str × UInt16),
      (es.map storedAddr).map HNMDARAddress.address = es.map fun e => e.2.1 := by
    intro es
    rw [List.map_map]
    rfl
  refine ⟨?_, ?_, fun id preferredType connInfo => ?_⟩
  · intro key device hget
    rw [← addrsOf_of_get hget, haddrs]
    exact nodup_upsertAll _ List.nodup_nil
  · intro id e he
    have hmem : e.2.1 ∈ (addrsOf s.arbiter id).map HNMDARAddress.address := by
      rw [haddrs, mem_keys_upsertAll, hkeys]
      exact .inr (List.mem_map.mpr ⟨e, he, rfl⟩)
    cases hget : s.arbiter.deviceMap[id]? with
    | none =>
      rw [addrsOf, hget] at hmem
      exact absurd hmem List.not_mem_nil
    | some device =>
      rw [addrsOf_of_get hget] at hmem
      exact ⟨device, rfl, hmem⟩
  · refine ⟨?_, lookup_of_none hr connInfo, fun first => lookup_of_first hr connInfo⟩
    cases hfind : (announced id ts).find? fun e => addressType e.2.1 == preferredType with
    | none =>
      rw [lookup_of_none hr connInfo hfind]
      have hnot := List.find?_eq_none.mp hfind
      refine iff_of_false (by nofun) ?_
      rintro ⟨e, he, htype⟩
      exact hnot e he (beq_iff_eq.mpr htype)
    | some first =>
      obtain ⟨latest, -, heq⟩ := lookup_of_first hr connInfo hfind
      rw [heq]
      have htype' : addressType first.2.1 = preferredType := by
        simpa using List.find?_some hfind
      exact iff_of_true rfl ⟨first, List.mem_of_find?_eq_some hfind, htype'⟩

end Addresses

/-! ## §5. A device that is announced twice. -/

section Sample

open RefPlatform

/-- The device has moved to another port, and has a second address. -/
def sampleDeviceMoved : DiscoverEvent :=
  { sampleDeviceFound with
    addrs := [(lit "garden.local", lit "10.0.0.7", 80),
      (lit "shed.local", lit "192.168.1.10", 8081)] }

/-- The address announced first is found, with the port announced last. -/
theorem lookup_reflects_announcements_sample :
    ∃ ts s, Run system (Sys.init sampleManager ()) ts s ∧
      s.arbiter.lookupConnectionInfo (lit "4900fb4e") .ipv4
          (setAddressInfo [] [] 0) =
        (setAddressInfo (lit "shed.local") (lit "192.168.1.10") 8081, .success) := by
  obtain ⟨ts, s, hr, hp⟩ := Machine.exists_run_of_exec (M := system)
    (s := Sys.init sampleManager ())
    (l := [.notifyDiscoverAdd sampleDeviceFound, .notifyDiscoverAdd sampleDeviceMoved])
    (p := fun r => announced (lit "4900fb4e") r.1 ==
      sampleDeviceFound.addrs ++ sampleDeviceMoved.addrs)
    (by decide +kernel)
  have hlookup := (lookup_reflects_announcements sampleManager () ts s hr).2.2 (lit "4900fb4e")
    .ipv4 (setAddressInfo [] [] 0)
  rw [beq_iff_eq.mp hp] at hlookup
  obtain ⟨latest, hlatest, heq⟩ := hlookup.2.2
    (lit "garden.local", lit "192.168.1.10", 8080) (by decide +kernel)
  obtain rfl : (lit "shed.local", lit "192.168.1.10", 8081) = latest :=
    Option.some.inj ((by decide +kernel : _ = _).symm.trans hlatest)
  exact ⟨ts, s, hr, heq⟩

end Sample

end HNodeMgmt.Arbiter
