/-
  HNodeMgmt.Arbiter.Rediscovery — a known device is announced again.

  `updateRecord` copies the fields of the main loop's record one by one.  That
  record is built from a discovery event, which tells no version: what the device
  has told of its version is overwritten with the empty string.  The texts that an
  event tells may be empty as well, when the announcement lacks them.

  Main results:
    * `keepsLearned_iff` — an announcement loses nothing EXACTLY when no version
      is known and no text that is known is announced empty.
    * `rediscovery_iff` — the same of every announcement of a run.
    * `version_lost` — a version that was learned and is gone.
-/
import Mathlib.Tactic.Common
import HNodeMgmt.Arbiter.RecordSteps

namespace HNodeMgmt.Arbiter

open Lib

/-! ## §1. The announcement. -/

/-- What the main loop takes from an ADD event. -/
structure Announcement where
  name : Str
  devType : Str
  hnodeID : Str
  txtName : Str
  hostname : Str
  address : Str
  port : UInt16
  deriving DecidableEq, Repr

/-- The event, with its one address. -/
def Announcement.event (n : Announcement) : DiscoverEvent :=
  { name := n.name, devType := n.devType, hnodeID := n.hnodeID, txtName := n.txtName
    addrs := [(n.hostname, n.address, n.port)] }

section Rediscovery

variable [Platform]

/-- The key of the record it is for. -/
def Announcement.crc32ID (n : Announcement) : Str := n.event.toRecord.getCRC32IDStr

/-! ## §2. What is to be kept. -/

/-- What the device and the operator have told stays. -/
structure SameLearned (device device' : HNMDARecord) : Prop where
  version : device'.devVersion = device.devVersion
  instanceName : device'.instanceName = device.instanceName
  mgmtState : device'.mgmtState = device.mgmtState
  ownerState : device'.ownerState = device.ownerState
  owner : device'.ownerHNodeID = device.ownerHNodeID
  provided : device'.srvMapProvided = device.srvMapProvided
  desired : device'.srvMapDesired = device.srvMapDesired
  command : device'.mgmtCmd = device.mgmtCmd

/-- An address entry keeps its texts. -/
def EntryKept (entry entry' : HNMDARAddress) : Prop :=
  (entry.dnsName ≠ [] → entry'.dnsName ≠ []) ∧ (entry.address ≠ [] → entry'.address ≠ [])

/-- No text of the record is replaced by an empty one. -/
structure NothingEmptied (device device' : HNMDARecord) : Prop where
  discID : device.discID ≠ [] → device'.discID ≠ []
  devType : device.devType ≠ [] → device'.devType ≠ []
  version : device.devVersion ≠ [] → device'.devVersion ≠ []
  instanceName : device.instanceName ≠ [] → device'.instanceName ≠ []
  name : device.name ≠ [] → device'.name ≠ []
  hnodeID : device.getHNodeIDStr ≠ [] → device'.getHNodeIDStr ≠ []
  addresses : ∀ (i : Nat) (entry : HNMDARAddress), device.addrList[i]? = some entry →
    ∃ entry', device'.addrList[i]? = some entry' ∧ EntryKept entry entry'

/-- From one arbiter to another the record under `id` loses nothing, and the other
records stay. -/
structure KeepsLearned (a a' : HNManagedDeviceArbiter) (id : Str) (device : HNMDARecord) :
    Prop where
  others : ∀ key, key ≠ id → a'.deviceMap[key]? = a.deviceMap[key]?
  record : ∃ device', a'.deviceMap[id]? = some device' ∧ SameLearned device device' ∧
    NothingEmptied device device'

/-- Nothing is known that the announcement does not tell: no version, and no text
that it leaves empty. -/
structure TellsEnough (n : Announcement) (device : HNMDARecord) : Prop where
  version : device.devVersion = []
  discID : n.name ≠ [] ∨ device.discID = []
  devType : n.devType ≠ [] ∨ device.devType = []
  name : n.txtName ≠ [] ∨ device.name = []
  hnodeID : Platform.getStr (Platform.setFromStr device.hnodeID n.event.toRecord.getHNodeIDStr) ≠
    [] ∨ device.getHNodeIDStr = []
  hostname : n.hostname ≠ [] ∨ ∀ entry, device.addrList.find? (·.address = n.address) =
    some entry → entry.dnsName = []

/-! ## §3. One announcement. -/

/-- The entries keep their places, and their texts exactly when the host name is
not empty where one is stored. -/
theorem entriesKept_iff (dnsName address : Str) (port : UInt16) :
    ∀ l : List HNMDARAddress,
      (∀ (i : Nat) (entry : HNMDARAddress), l[i]? = some entry →
        ∃ entry', (HNMDARecord.addToAddrList dnsName address port l)[i]? = some entry' ∧
          EntryKept entry entry') ↔
        (dnsName ≠ [] ∨ ∀ entry, l.find? (·.address = address) = some entry → entry.dnsName = [])
  | [] => by simp
  | first :: l => by
      have hsame : ∀ entry : HNMDARAddress, EntryKept entry entry := fun _ => ⟨id, id⟩
      by_cases haddr : first.address = address
      · -- the first entry is rewritten, and no other
        have hwritten : HNMDARecord.addToAddrList dnsName address port (first :: l) =
            setAddressInfo dnsName address port :: l := if_pos haddr
        have hfind : (first :: l).find? (·.address = address) = some first :=
          List.find?_cons_of_pos (by simpa using haddr)
        rw [hwritten, hfind]
        constructor
        · intro h
          obtain ⟨entry', hentry, hkept⟩ := h 0 first rfl
          obtain rfl := Option.some.inj hentry
          by_cases hempty : first.dnsName = []
          · exact .inr fun entry hentry => Option.some.inj hentry ▸ hempty
          · exact .inl (hkept.1 hempty)
        · intro h i entry hentry
          cases i with
          | zero =>
            obtain rfl := Option.some.inj hentry
            refine ⟨_, rfl, fun hname => ?_, fun hne => haddr ▸ hne⟩
            rcases h with hnew | hstored
            · exact hnew
            · exact absurd (hstored first rfl) hname
          | succ i => exact ⟨entry, hentry, hsame entry⟩
      · -- the first entry stays, and the others are looked at
        have hwritten : HNMDARecord.addToAddrList dnsName address port (first :: l) =
            first :: HNMDARecord.addToAddrList dnsName address port l := if_neg haddr
        have hfind : (first :: l).find? (·.address = address) = l.find? (·.address = address) :=
          List.find?_cons_of_neg (by simpa using haddr)
        rw [hwritten, hfind, ← entriesKept_iff dnsName address port l]
        constructor
        · intro h i entry hentry
          exact h (i + 1) entry hentry
        · intro h i entry hentry
          cases i with
          | zero => exact ⟨first, rfl, Option.some.inj hentry ▸ hsame first⟩
          | succ i => exact h i entry hentry

variable {a : HNManagedDeviceArbiter} {n : Announcement} {device : HNMDARecord}

/-- The record after an announcement. -/
theorem updateRecord_event (device : HNMDARecord) (n : Announcement) :
    device.updateRecord n.event.toRecord =
      { device with
        discID := n.name
        devType := n.devType
        devVersion := []
        hnodeID := Platform.setFromStr device.hnodeID n.event.toRecord.getHNodeIDStr
        name := n.txtName
        addrList := HNMDARecord.addToAddrList n.hostname n.address n.port device.addrList } := rfl

omit [Platform] in
/-- A text that is replaced stays, exactly when the new one is not empty where the
old one is not. -/
theorem kept_iff {old new : Str} : (old ≠ [] → new ≠ []) ↔ new ≠ [] ∨ old = [] := by
  rw [← or_iff_not_imp_left, or_comm]

/-- **One announcement loses nothing** exactly when it tells enough. -/
theorem keepsLearned_iff (hget : a.deviceMap[n.crc32ID]? = some device) :
    KeepsLearned a (a.notifyDiscoverAdd n.event.toRecord) n.crc32ID device ↔
      TellsEnough n device := by
  have hstores := notifyDiscoverAdd_known hget
  rw [updateRecord_event] at hstores
  have haddrs := entriesKept_iff n.hostname n.address n.port device.addrList
  constructor
  · intro ⟨_, device', hget', hsame, hempty⟩
    obtain rfl := Option.some.inj (hstores.get.symm.trans hget')
    exact ⟨hsame.version.symm, kept_iff.mp hempty.discID, kept_iff.mp hempty.devType,
      kept_iff.mp hempty.name, kept_iff.mp hempty.hnodeID, haddrs.mp hempty.addresses⟩
  · intro h
    refine ⟨fun key hne => hstores.get_ne hne.symm, _, hstores.get, ?_, ?_⟩
    · exact ⟨h.version.symm, rfl, rfl, rfl, rfl, rfl, rfl, rfl⟩
    · exact ⟨kept_iff.mpr h.discID, kept_iff.mpr h.devType, fun hne => absurd h.version hne, id,
        kept_iff.mpr h.name, kept_iff.mpr h.hnodeID, haddrs.mpr h.hostname⟩

/-! ## §4. The announcements of a run. -/

/-- An announcement of a known device tells enough. -/
def AnnouncedEnough (u : Sys) (l : Label) : Prop :=
  ∀ (n : Announcement) (device : HNMDARecord), l = .notifyDiscoverAdd n.event →
    u.arbiter.deviceMap[n.crc32ID]? = some device → TellsEnough n device

/-- An announcement of a known device loses nothing. -/
def AnnouncementKeeps (t : Trans Sys Label Event) : Prop :=
  ∀ (n : Announcement) (device : HNMDARecord), t.label = .notifyDiscoverAdd n.event →
    t.pre.arbiter.deviceMap[n.crc32ID]? = some device →
    KeepsLearned t.pre.arbiter t.post.arbiter n.crc32ID device

/-- **Rediscovery does not lose what was learned** exactly when there was nothing to
lose: in every reachable state, for every known device and every announcement; and so
the announcements of a run all keep what is known exactly when all tell enough. -/
theorem rediscovery_iff (mgmtDevice : HNodeDevice) (caches : Platform.Caches)
    (ts : List (Trans Sys Label Event)) (s : Sys)
    (hr : Run system (Sys.init mgmtDevice caches) ts s) :
    (∀ (n : Announcement) (device : HNMDARecord), s.arbiter.deviceMap[n.crc32ID]? = some device →
      (KeepsLearned s.arbiter (s.arbiter.notifyDiscoverAdd n.event.toRecord) n.crc32ID device ↔
        TellsEnough n device)) ∧
    (StepsMeet AnnouncedEnough ts ↔ ∀ t ∈ ts, AnnouncementKeeps t) := by
  refine ⟨fun n device hget => keepsLearned_iff hget, ?_⟩
  have hstep : ∀ {u v : Sys} {es : List Event} {n : Announcement},
      system.step u (.notifyDiscoverAdd n.event) = some (v, es) →
      v.arbiter = u.arbiter.notifyDiscoverAdd n.event.toRecord := by
    intro u v es n hs
    obtain ⟨rfl, -⟩ := Prod.mk.inj (Option.some.inj hs)
    rfl
  refine Run.kept_iff (I := fun _ => True) trivial ?_ ?_ hr
  · intro u l v es _ htells hs
    refine ⟨trivial, fun n device hl hget => ?_⟩
    obtain rfl : l = .notifyDiscoverAdd n.event := hl
    show KeepsLearned u.arbiter v.arbiter n.crc32ID device
    rw [hstep hs]
    exact (keepsLearned_iff hget).mpr (htells n device rfl hget)
  · intro u l v es _ hs hkeeps n device hl hget
    subst hl
    have hkept : KeepsLearned u.arbiter v.arbiter n.crc32ID device := hkeeps n device rfl hget
    rw [hstep hs] at hkept
    exact (keepsLearned_iff hget).mp hkept

end Rediscovery

/-! ### A device that is announced twice. -/

section Sample

open RefPlatform

/-- The device as the browser sees it. -/
def sampleAnnouncement : Announcement :=
  { name := lit "irrigation", devType := lit "hnode2-irrigation-device"
    hnodeID := lit "29:72:e2:ae:db:90:11:ec:89:a1:b8:27:eb:52:da:55", txtName := lit "garden"
    hostname := lit "garden.local", address := lit "192.168.1.10", port := 8080 }

/-- Before it is asked for its version, it may be announced again. -/
theorem rediscovery_iff_sample :
    ∃ ts s device, Run system (Sys.init sampleManager ()) ts s ∧
      s.arbiter.deviceMap[sampleAnnouncement.crc32ID]? = some device ∧
      KeepsLearned s.arbiter (s.arbiter.notifyDiscoverAdd sampleAnnouncement.event.toRecord)
        sampleAnnouncement.crc32ID device := by
  obtain ⟨ts, s, hr, hp⟩ := Machine.exists_run_of_exec (M := system)
    (s := Sys.init sampleManager ()) (l := [.notifyDiscoverAdd sampleAnnouncement.event])
    (p := fun r => (r.2.arbiter.deviceMap[sampleAnnouncement.crc32ID]?).any fun d =>
      d.devVersion == [] && Platform.getStr (Platform.setFromStr d.hnodeID
        sampleAnnouncement.event.toRecord.getHNodeIDStr) != []) (by decide +kernel)
  obtain ⟨device, hget, hboth⟩ := (Option.any_eq_true _ _).mp hp
  obtain ⟨hversion, hid⟩ := Bool.and_eq_true_iff.mp hboth
  refine ⟨ts, s, device, hr, hget, ((rediscovery_iff sampleManager () ts s hr).1
    sampleAnnouncement device hget).mpr ⟨beq_iff_eq.mp hversion, .inl ?_, .inl ?_, .inl ?_,
      .inl (bne_iff_ne.mp hid), .inl ?_⟩⟩
  all_goals decide +kernel

/-- **A version is lost**: the device has told it, and is announced again. -/
theorem version_lost :
    ∃ ts s device, Run system (Sys.init sampleManager ()) ts s ∧
      s.arbiter.deviceMap[sampleAnnouncement.crc32ID]? = some device ∧
      device.devVersion = lit "1.2.0" ∧
      ((s.arbiter.notifyDiscoverAdd sampleAnnouncement.event.toRecord).deviceMap[
        sampleAnnouncement.crc32ID]?).map HNMDARecord.devVersion = some [] ∧
      ¬ KeepsLearned s.arbiter (s.arbiter.notifyDiscoverAdd sampleAnnouncement.event.toRecord)
        sampleAnnouncement.crc32ID device := by
  obtain ⟨ts, s, hr, hp⟩ := Machine.exists_run_of_exec (M := system)
    (s := Sys.init sampleManager ())
    (l := [.notifyDiscoverAdd sampleAnnouncement.event, .wakeup, .readState, .act, .writeState,
      .wakeup, .readState, .act,
      .reply (okReply (.object [(lit "version", stringField "1.2.0")]))])
    (p := fun r => (r.2.arbiter.deviceMap[sampleAnnouncement.crc32ID]?).any fun d =>
      d.devVersion == lit "1.2.0") (by decide +kernel)
  obtain ⟨device, hget, hversion⟩ := (Option.any_eq_true _ _).mp hp
  have hlearned : device.devVersion = lit "1.2.0" := beq_iff_eq.mp hversion
  refine ⟨ts, s, device, hr, hget, hlearned, ?_, fun hkeeps => ?_⟩
  · have hafter := (notifyDiscoverAdd_known hget).get
    rw [updateRecord_event] at hafter
    exact congrArg (Option.map HNMDARecord.devVersion) hafter
  · have hnone := ((keepsLearned_iff hget).mp hkeeps).version
    rw [hlearned] at hnone
    exact absurd hnone (by decide +kernel)

end Sample

end HNodeMgmt.Arbiter
