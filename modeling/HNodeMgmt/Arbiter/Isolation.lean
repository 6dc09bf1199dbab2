/-
  HNodeMgmt.Arbiter.Isolation — what one device's failure does to the others.

  A pass should reach every device, leave a device that does not answer
  OFFLINE, and treat the others as if it had answered.  Three things stand
  against it: the exceptions of the session, of a published URI and of the
  caches are caught nowhere, three cases do not look at what the helper
  returned, and the mapping update reads the services of the default providers
  and the provider index, both of which an answer earlier in the same pass would
  have changed.

  The last is a comparison of two passes.  They are walked side by side from
  the failing device on; `Twin` is what they have in common.

  Main results:
    * `isolated_iff` — a pass isolates its failures EXACTLY under
      `IsolationCondition`.
-/
import Mathlib.Tactic.Common
import Mathlib.Logic.Function.Basic
import HNodeMgmt.Arbiter.Contact
import HNodeMgmt.Arbiter.Indexes

namespace HNodeMgmt.Arbiter

open Lib

section Isolation

variable [Platform]

/-! ## §1. What is asked of a pass, and when it is so. -/

/-- Every record is stored under the CRC32 string of its ID. -/
def StoredByID (a : HNManagedDeviceArbiter) : Prop :=
  ∀ (key : Str) (device : HNMDARecord), a.deviceMap[key]? = some device →
    device.getCRC32IDStr = key

/-- A pass isolates the devices that fail in it. -/
structure Isolated (o : Str → RestOutcome) (a : HNManagedDeviceArbiter) : Prop where
  /-- Every device has its turn, and the monitor goes back to sleep. -/
  visitsAll : (passTurns o a).map Turn.crc32ID = a.deviceMap.keys ∧
    (monitorPass o a).monitor = .idle
  /-- A device whose contact failed is OFFLINE afterwards. -/
  offline : ∀ t ∈ passTurns o a, t.fails (o t.crc32ID) = true →
    stateOf (monitorPass o a).arbiter t.crc32ID = some .offline
  /-- The others are where they would be had it answered, whatever the answer. -/
  others : ∀ t ∈ passTurns o a, t.fails (o t.crc32ID) = true →
    ∀ answer, t.fails answer = false → ∀ other, other ≠ t.crc32ID →
      stateOf (monitorPass (Function.update o t.crc32ID answer) a).arbiter other =
        stateOf (monitorPass o a).arbiter other

/-- The device desires a type that `crc32ID` provides by default. -/
def Turn.desiresFrom (t : Turn) (crc32ID : Str) : Bool :=
  t.device.getSrvMappingTSList.any fun srvType =>
    t.arbiter.defaultProvider srvType == some crc32ID

/-- A mapping PUT is due whatever `crc32ID` provides. -/
def Turn.dueWithout (t : Turn) (crc32ID : Str) : Bool :=
  t.device.getSrvMappingTSList.any fun srvType =>
    t.arbiter.defaultProvider srvType != some crc32ID &&
      mappingTarget t.arbiter srvType != mappedURI t.device srvType

/-- The provider index has the device as a health source when its record does. -/
def Turn.indexed (t : Turn) : Bool :=
  listed t.arbiter t.device.getCRC32IDStr ==
    t.device.getSrvProviderTSList.contains (lit "hnsrv-health-source")

/-- What keeps the mapping update of `t'` from depending on the services request
of `t`, when that one fails earlier in the pass. -/
def Independent (o : Str → RestOutcome) (t t' : Turn) : Prop :=
  t.fails (o t.crc32ID) = true → t.device.mgmtState = .srvProvideInfo →
    t'.device.mgmtState = .srvMapUpdate →
    (putAnswered t'.device (o t'.crc32ID) = false ∧ t'.dueWithout t.crc32ID = true) ∨
      ((putAnswered t'.device (o t'.crc32ID) = true ∨ t'.desiresFrom t.crc32ID = false) ∧
        t'.indexed = true)

instance (o : Str → RestOutcome) (t t' : Turn) : Decidable (Independent o t t') :=
  inferInstanceAs (Decidable (_ → _ → _ → _))

/-- When a pass isolates the devices that fail in it. -/
structure IsolationCondition (o : Str → RestOutcome) (a : HNManagedDeviceArbiter) : Prop where
  /-- No exception leaves a turn. -/
  returns : ∀ t ∈ passTurns o a, t.raises (o t.crc32ID) = false
  /-- Contacts fail in the states that look at the result only. -/
  looks : ∀ t ∈ passTurns o a, t.fails (o t.crc32ID) = true →
    offlineOnFailure t.device.mgmtState = true
  independent : (passTurns o a).Pairwise (Independent o)

/-- Every arbiter a run reaches stores its records so. -/
theorem storedByID_run (hstable : CRC32StrStable) {mgmtDevice : HNodeDevice}
    {caches : Platform.Caches} {ts : List (Trans Sys Label Event)} {s : Sys}
    (hr : Run system (Sys.init mgmtDevice caches) ts s) : StoredByID s.arbiter :=
  fun key device hget => ((indexInv_run hstable hr).keys key device hget).1

/-! ## §2. Walks, turn by turn. -/

/-- All keys of the list are in the map. -/
def Known (ids : List Str) (a : HNManagedDeviceArbiter) : Prop := ∀ id ∈ ids, id ∈ a.deviceMap

variable {o o' : Str → RestOutcome} {a : HNManagedDeviceArbiter} {id : Str} {ids : List Str}

theorem Known.get (h : Known (id :: ids) a) : ∃ device : HNMDARecord,
    a.deviceMap[id]? = some device :=
  (OrdMap.mem_iff_get _ _).mp (h id List.mem_cons_self)

theorem Known.visit (h : Known (id :: ids) a) (outcome : RestOutcome) :
    Known ids (visit outcome a id).arbiter := by
  obtain ⟨device, hget⟩ := h.get
  intro id' hmem
  rw [← Std.ExtTreeMap.mem_keys, visit_keys outcome hget, Std.ExtTreeMap.mem_keys]
  exact h id' (List.mem_cons_of_mem _ hmem)

theorem StoredByID.visit (h : StoredByID a) {device : HNMDARecord}
    (hget : a.deviceMap[id]? = some device) (outcome : RestOutcome) :
    StoredByID (visit outcome a id).arbiter := by
  obtain ⟨device', hstores, hnode, -⟩ := visit_frame outcome hget
  intro key d hd
  by_cases heq : id = key
  · subst heq
    obtain rfl : device' = d := Option.some.inj (hstores.get.symm.trans hd)
    have hcrc : device'.getCRC32IDStr = device.getCRC32IDStr :=
      congrArg Platform.getCRC32AsHexStr hnode
    rw [hcrc]
    exact h id device hget
  · rw [hstores.get_ne heq] at hd
    exact h key d hd

/-- A turn leaves the other records alone. -/
theorem visit_other {device : HNMDARecord} {key : Str} (hget : a.deviceMap[id]? = some device)
    (outcome : RestOutcome) (hne : id ≠ key) :
    (visit outcome a id).arbiter.deviceMap[key]? = a.deviceMap[key]? := by
  obtain ⟨_, hstores, -⟩ := visit_frame outcome hget
  exact hstores.get_ne hne

/-- A walk leaves the records of the devices it is not for alone. -/
theorem walk_other {key : Str} :
    ∀ {ids : List Str} {a : HNManagedDeviceArbiter}, Known ids a → key ∉ ids →
      (walk o ids a).1.deviceMap[key]? = a.deviceMap[key]?
  | [], _, _, _ => rfl
  | id :: ids, a, hknown, hkey => by
      obtain ⟨device, hget⟩ := hknown.get
      have hne : id ≠ key := fun heq => hkey (heq ▸ List.mem_cons_self)
      have hone := visit_other hget (o id) hne
      by_cases hdead : (visit (o id) a id).monitor = .dead
      · rw [walk_cons_dead hdead]
        exact hone
      · rw [walk_cons_live hdead,
          walk_other (hknown.visit (o id)) fun hmem => hkey (List.mem_cons_of_mem _ hmem)]
        exact hone

/-- Only the outcomes of the devices it is for matter to a walk. -/
theorem walk_congr :
    ∀ {ids : List Str} {a : HNManagedDeviceArbiter}, (∀ id ∈ ids, o id = o' id) →
      walk o ids a = walk o' ids a
  | [], _, _ => rfl
  | id :: ids, a, hsame => by
      have htail : ∀ b, walk o ids b = walk o' ids b := fun b =>
        walk_congr fun id' hmem => hsame id' (List.mem_cons_of_mem _ hmem)
      simp only [walk, hsame id List.mem_cons_self, htail]

/-- A turn of a walk is one of its devices', and is well formed. -/
theorem turns_mem {t : Turn} :
    ∀ {ids : List Str} {a : HNManagedDeviceArbiter}, t ∈ turns o ids a →
      t.crc32ID ∈ ids ∧ t.WellFormed
  | [], _, h => absurd h List.not_mem_nil
  | id :: ids, a, h => by
      unfold turns at h
      cases hget : a.deviceMap[id]? with
      | none =>
        rw [hget] at h
        cases h
      | some device =>
        simp only [hget] at h
        rcases List.mem_cons.mp h with rfl | htail
        · exact ⟨List.mem_cons_self, hget⟩
        · split at htail
          next => cases htail
          next =>
            obtain ⟨hmem, hwf⟩ := turns_mem htail
            exact ⟨List.mem_cons_of_mem _ hmem, hwf⟩

/-- **A walk comes to its end** exactly when no turn of it raises; every device
has then had its turn. -/
theorem walk_live_iff :
    ∀ {ids : List Str} {a : HNManagedDeviceArbiter}, Known ids a →
      ((walk o ids a).2 = true ↔ ∀ t ∈ turns o ids a, t.raises (o t.crc32ID) = false) ∧
      ((walk o ids a).2 = true → (turns o ids a).map Turn.crc32ID = ids)
  | [], _, _ => ⟨iff_of_true rfl fun _ h => absurd h List.not_mem_nil, fun _ => rfl⟩
  | id :: ids, a, hknown => by
      obtain ⟨device, hget⟩ := hknown.get
      have hdead_iff := visit_dead_iff (t := ⟨id, a, device⟩) (o := o id) hget
      by_cases hdead : (visit (o id) a id).monitor = .dead
      · rw [walk_cons_dead hdead, turns_cons_dead hget hdead]
        refine ⟨iff_of_false Bool.false_ne_true fun hall => ?_, nofun⟩
        have hno := hall _ List.mem_cons_self
        rw [hdead_iff.mp hdead] at hno
        cases hno
      · rw [walk_cons_live hdead, turns_cons_live hget hdead]
        obtain ⟨hiff, hmap⟩ := walk_live_iff (hknown.visit (o id))
        have hlive : Turn.raises ⟨id, a, device⟩ (o id) = false :=
          Bool.eq_false_iff.mpr fun hr => hdead (hdead_iff.mpr hr)
        refine ⟨?_, fun h => congrArg (id :: ·) (hmap h)⟩
        rw [hiff, List.forall_mem_cons]
        exact ⟨fun h => ⟨hlive, h⟩, fun h => h.2⟩

/-- A record is not written again after its turn. -/
theorem walk_turn {t : Turn} :
    ∀ {ids : List Str} {a : HNManagedDeviceArbiter}, Known ids a → ids.Nodup →
      (walk o ids a).2 = true → t ∈ turns o ids a →
      (walk o ids a).1.deviceMap[t.crc32ID]? =
        (t.after (o t.crc32ID)).arbiter.deviceMap[t.crc32ID]?
  | [], _, _, _, _, h => absurd h List.not_mem_nil
  | id :: ids, a, hknown, hnodup, hlive, h => by
      obtain ⟨device, hget⟩ := hknown.get
      obtain ⟨hnot, hnodup⟩ := List.nodup_cons.mp hnodup
      by_cases hdead : (visit (o id) a id).monitor = .dead
      · rw [walk_cons_dead hdead] at hlive
        cases hlive
      · rw [turns_cons_live hget hdead] at h
        rw [walk_cons_live hdead] at hlive ⊢
        rcases List.mem_cons.mp h with rfl | htail
        · exact walk_other (hknown.visit (o id)) hnot
        · exact walk_turn (hknown.visit (o id)) hnodup hlive htail

/-! ## §3. Two passes side by side. -/

/-- The index answers for the device as its record would. -/
def ExactFor (a : HNManagedDeviceArbiter) (id : Str) : Prop :=
  ∀ device : HNMDARecord, a.deviceMap[id]? = some device →
    (listed a id = true ↔ lit "hnsrv-health-source" ∈ device.getSrvProviderTSList)

/-- What two arbiters have in common after device `A` has answered differently:
all the other records, and the index for the devices `ids` still to come unless
one of the answers to the services request (`srv`) has rebuilt it. -/
structure Twin (A : Str) (srv : Prop) (ids : List Str) (b b' : HNManagedDeviceArbiter) : Prop where
  others : ∀ key : Str, key ≠ A → b'.deviceMap[key]? = b.deviceMap[key]?
  mgmtDevice : b'.mgmtDevice = b.mgmtDevice
  defaults : b'.defaultMappings = b.defaultMappings
  caches : b'.caches = b.caches
  stored : StoredByID b ∧ StoredByID b'
  provided : ¬ srv → ∀ srvType,
    b'.getDeviceServiceProviderURI A srvType = b.getDeviceServiceProviderURI A srvType
  index : (∀ id ∈ ids, listed b' id = listed b id) ∨ (srv ∧ ∀ id ∈ ids, ExactFor b' id)

variable {A : Str} {srv : Prop} {b b' : HNManagedDeviceArbiter}

theorem Twin.mono {ids' : List Str} (h : Twin A srv ids b b') (hsub : ∀ id ∈ ids', id ∈ ids) :
    Twin A srv ids' b b' :=
  { h with
    index := h.index.imp (fun hsame id hmem => hsame id (hsub id hmem))
      fun ⟨hsrv, hexact⟩ => ⟨hsrv, fun id hmem => hexact id (hsub id hmem)⟩ }

theorem ExactIndex.listed_iff (h : ExactIndex a) (hstored : StoredByID a) (id : Str) :
    listed a id = true ↔ ∃ device : HNMDARecord, a.deviceMap[id]? = some device ∧
      lit "hnsrv-health-source" ∈ device.getSrvProviderTSList := by
  unfold listed
  rw [doesDeviceProvideService_iff, h]
  constructor
  · rintro ⟨key, d, hd, hcrc, hmem⟩
    obtain rfl : key = id := (hstored key d hd).symm.trans hcrc
    exact ⟨d, hd, hmem⟩
  · rintro ⟨d, hd, hmem⟩
    exact ⟨id, d, hd, hstored id d hd, hmem⟩

theorem ExactIndex.exactFor (h : ExactIndex a) (hstored : StoredByID a) (id : Str) :
    ExactFor a id := by
  intro device hget
  rw [h.listed_iff hstored]
  constructor
  · rintro ⟨d, hd, hmem⟩
    obtain rfl : device = d := Option.some.inj (hget.symm.trans hd)
    exact hmem
  · exact fun hmem => ⟨device, hget, hmem⟩

theorem listed_congr {a' : HNManagedDeviceArbiter} (h : a'.providerMap = a.providerMap)
    (id : Str) : listed a' id = listed a id := by
  unfold listed HNManagedDeviceArbiter.doesDeviceProvideService
  rw [h]

/-- An index that is not touched goes on answering for a record that is not. -/
theorem ExactFor.keep (h : ExactFor a id) {a' : HNManagedDeviceArbiter}
    (hget : a'.deviceMap[id]? = a.deviceMap[id]?) (hindex : a'.providerMap = a.providerMap) :
    ExactFor a' id := by
  intro device hd
  rw [listed_congr hindex]
  exact h device (hget.symm.trans hd)

/-- The URI a type should be mapped to reads the default provider's record. -/
theorem Twin.mappingTarget (h : Twin A srv ids b b') {srvType : Str}
    (hdefault : ¬ srv ∨ b.defaultProvider srvType ≠ some A) :
    mappingTarget b' srvType = mappingTarget b srvType := by
  unfold Arbiter.mappingTarget
  rw [h.defaults]
  cases href : b.defaultMappings[srvType]? with
  | none => rfl
  | some ref =>
    simp only
    by_cases hself : ref.devCRC32ID = A
    · rcases hdefault with hno | hne
      · rw [hself]
        exact h.provided hno srvType
      · exact absurd (by simp only [HNManagedDeviceArbiter.defaultProvider, href,
          Option.map_some, hself]) hne
    · unfold HNManagedDeviceArbiter.getDeviceServiceProviderURI
      rw [h.others ref.devCRC32ID hself]

/-- **One turn on both sides.**  If it leaves the same record, the two arbiters go
on having the rest in common. -/
theorem Twin.step {device : HNMDARecord} (h : Twin A srv (id :: ids) b b') (hne : id ≠ A)
    (hnot : id ∉ ids) (hA : A ∉ ids) (hget : b.deviceMap[id]? = some device)
    (outcome : RestOutcome)
    (hsame : (visit outcome b' id).arbiter.deviceMap[id]? =
      (visit outcome b id).arbiter.deviceMap[id]?) :
    Twin A srv ids (visit outcome b id).arbiter (visit outcome b' id).arbiter := by
  have hget' : b'.deviceMap[id]? = some device := (h.others id hne).trans hget
  obtain ⟨_, hstores, -, -, hmgmt, hdefaults⟩ := visit_frame outcome hget
  obtain ⟨_, hstores', -, -, hmgmt', hdefaults'⟩ := visit_frame outcome hget'
  obtain ⟨hexact, hkept⟩ := visit_index (t := ⟨id, b, device⟩) hget outcome
  obtain ⟨hexact', hkept'⟩ := visit_index (t := ⟨id, b', device⟩) hget' outcome
  simp only [Turn.after] at hexact hkept hexact' hkept'
  have hstored := h.stored.1.visit hget outcome
  have hstored' := h.stored.2.visit hget' outcome
  have hothers : ∀ key : Str, key ≠ A →
      (visit outcome b' id).arbiter.deviceMap[key]? =
        (visit outcome b id).arbiter.deviceMap[key]? := by
    intro key hkey
    by_cases heq : id = key
    · rw [← heq]
      exact hsame
    · rw [hstores.get_ne heq, hstores'.get_ne heq]
      exact h.others key hkey
  have hcaches := visit_caches_congr ⟨id, b, device⟩ ⟨id, b', device⟩ hget hget' rfl h.mgmtDevice
    h.caches outcome
  refine ⟨hothers, hmgmt'.trans (h.mgmtDevice.trans hmgmt.symm),
    hdefaults'.trans (h.defaults.trans hdefaults.symm), hcaches, ⟨hstored, hstored'⟩, ?_, ?_⟩
  · intro hno srvType
    unfold HNManagedDeviceArbiter.getDeviceServiceProviderURI
    rw [hstores.get_ne hne, hstores'.get_ne hne]
    exact h.provided hno srvType
  · cases hrebuilds : rebuilds device outcome with
    | true =>
      -- both sides rebuild, over records that agree but for `A`'s
      refine Or.inl fun id' hmem => ?_
      have hA' : id' ≠ A := fun heq => hA (heq ▸ hmem)
      rw [Bool.eq_iff_iff, (hexact hrebuilds).listed_iff hstored,
        (hexact' hrebuilds).listed_iff hstored', hothers id' hA']
    | false =>
      refine h.index.imp (fun hlisted id' hmem => ?_) fun ⟨hsrv, hfor⟩ => ⟨hsrv, fun id' hmem => ?_⟩
      · rw [listed_congr (hkept hrebuilds), listed_congr (hkept' hrebuilds)]
        exact hlisted id' (List.mem_cons_of_mem _ hmem)
      · have hne' : id ≠ id' := fun heq => hnot (heq ▸ hmem)
        exact (hfor id' (List.mem_cons_of_mem _ hmem)).keep (hstores'.get_ne hne')
          (hkept' hrebuilds)

/-- Where the state a turn leaves is the same on both sides. -/
theorem mapUpdateNext_eq_iff {device : HNMDARecord} {outcome : RestOutcome}
    {due due' provides provides' : Bool}
    (hlive : mapUpdateNext device outcome due provides ≠ none) :
    mapUpdateNext device outcome due' provides' = mapUpdateNext device outcome due provides ↔
      if putAnswered device outcome then provides' = provides
      else due' = due ∧ (due = true ∨ provides' = provides) := by
  unfold mapUpdateNext putAnswered at *
  cases hconn : device.findPreferredConnection .ipv4 with
  | none =>
    simp only [hconn] at hlive ⊢
    cases due <;> cases due' <;> cases provides <;> cases provides' <;> simp [afterMapping]
  | some dcInfo =>
    simp only [hconn] at hlive ⊢
    cases hrec : outcome.receiveRendered with
    | raised =>
      simp only [hrec] at hlive ⊢
      cases due <;> cases due' <;> cases provides <;> cases provides' <;>
        simp [afterMapping] at hlive ⊢
    | failed =>
      simp only [hrec] at hlive ⊢
      cases due <;> cases due' <;> cases provides <;> cases provides' <;>
        simp [afterMapping] at hlive ⊢
    | ok body =>
      simp only [hrec] at hlive ⊢
      cases due <;> cases due' <;> cases provides <;> cases provides' <;>
        simp [afterMapping] at hlive ⊢

/-- Whether two turns of one device in SRV_MAP_UPDATE lead to one state. -/
def SameUpdate (t t' : Turn) (outcome : RestOutcome) : Prop :=
  if putAnswered t.device outcome then
    listed t'.arbiter t.device.getCRC32IDStr = listed t.arbiter t.device.getCRC32IDStr
  else
    mappingDue t'.arbiter t.device = mappingDue t.arbiter t.device ∧
      (mappingDue t.arbiter t.device = true ∨
        listed t'.arbiter t.device.getCRC32IDStr = listed t.arbiter t.device.getCRC32IDStr)

theorem mapUpdateNext_ne {device : HNMDARecord} {outcome : RestOutcome} {due provides : Bool} :
    mapUpdateNext device outcome due provides ≠ some .srvMapUpdate := by
  unfold mapUpdateNext afterMapping
  intro h
  split at h
  next =>
    split at h
    next => cases h
    next =>
      split at h
      next => cases h
      next => cases h
      next => split at h <;> cases h
  next => split at h <;> cases h

/-- **One turn on both sides**: the states left are the same exactly when a mapping
update, if it is one, finds the same; and with the states, the records. -/
theorem Twin.state_iff {device : HNMDARecord} (h : Twin A srv ids b b') (hne : id ≠ A)
    (hget : b.deviceMap[id]? = some device) {outcome : RestOutcome}
    (hlive : Turn.raises ⟨id, b, device⟩ outcome = false) :
    (stateOf (visit outcome b' id).arbiter id = stateOf (visit outcome b id).arbiter id ↔
      (device.mgmtState = .srvMapUpdate → SameUpdate ⟨id, b, device⟩ ⟨id, b', device⟩ outcome)) ∧
    (stateOf (visit outcome b' id).arbiter id = stateOf (visit outcome b id).arbiter id →
      (visit outcome b' id).arbiter.deviceMap[id]? = (visit outcome b id).arbiter.deviceMap[id]? ∧
        Turn.raises ⟨id, b', device⟩ outcome = false) := by
  have hget' : b'.deviceMap[id]? = some device := (h.others id hne).trans hget
  by_cases hst : device.mgmtState = .srvMapUpdate
  · obtain ⟨hleft, hraises⟩ := visit_mapUpdate (t := ⟨id, b, device⟩) (o := outcome) hget hst
    obtain ⟨hleft', hraises'⟩ := visit_mapUpdate (t := ⟨id, b', device⟩) (o := outcome) hget' hst
    simp only [Turn.after] at hleft hleft'
    have hnext : mapUpdateNext device outcome (mappingDue b device)
        (listed b device.getCRC32IDStr) ≠ none := by
      intro hnone
      rw [hraises.mpr hnone] at hlive
      cases hlive
    -- the state is never the one the case started in
    have hstate : stateOf (visit outcome b' id).arbiter id =
        stateOf (visit outcome b id).arbiter id ↔
        mapUpdateNext device outcome (mappingDue b' device) (listed b' device.getCRC32IDStr) =
          mapUpdateNext device outcome (mappingDue b device) (listed b device.getCRC32IDStr) := by
      unfold stateOf
      rw [hleft, hleft', Option.map_some, Option.map_some, Option.some.injEq]
      show Option.getD _ _ = Option.getD _ _ ↔ _
      refine ⟨fun heq => ?_, fun heq => by rw [heq]⟩
      obtain ⟨st, hsome⟩ := Option.ne_none_iff_exists'.mp hnext
      rw [hsome] at heq ⊢
      cases hsome' : mapUpdateNext device outcome (mappingDue b' device)
          (listed b' device.getCRC32IDStr) with
      | none =>
        rw [hsome'] at heq
        exact absurd (hsome.trans (congrArg some heq.symm)) mapUpdateNext_ne
      | some st' =>
        rw [hsome'] at heq
        exact congrArg some heq
    refine ⟨?_, fun heq => ?_⟩
    · rw [hstate, mapUpdateNext_eq_iff hnext]
      exact ⟨fun hsame _ => hsame, fun hsame => hsame hst⟩
    · have hsame := hstate.mp heq
      refine ⟨?_, ?_⟩
      · rw [hleft, hleft', hsame]
      · exact Bool.eq_false_iff.mpr fun hr => hnext (hsame.symm.trans (hraises'.mp hr))
  · obtain ⟨hleft, hraises⟩ := visit_congr ⟨id, b, device⟩ ⟨id, b', device⟩ hget hget' rfl rfl
      h.mgmtDevice h.caches hst outcome
    simp only [Turn.after] at hleft
    refine ⟨iff_of_true ?_ fun heq => absurd heq hst, fun _ => ⟨hleft, ?_⟩⟩
    · unfold stateOf
      rw [hleft]
    · rw [hraises]
      exact hlive

/-! ## §4. The rest of a walk on both sides. -/

theorem ExactFor.visit {id' : Str} {device : HNMDARecord} (h : ExactFor a id') (hne : id ≠ id')
    (hstored : StoredByID a) (hget : a.deviceMap[id]? = some device) (outcome : RestOutcome) :
    ExactFor (visit outcome a id).arbiter id' := by
  obtain ⟨hexact, hkept⟩ := visit_index (t := ⟨id, a, device⟩) hget outcome
  simp only [Turn.after] at hexact hkept
  cases hrebuilds : rebuilds device outcome with
  | true => exact (hexact hrebuilds).exactFor (hstored.visit hget outcome) id'
  | false => exact h.keep (visit_other hget outcome hne) (hkept hrebuilds)

theorem Twin.known (h : Twin A srv ids b b') (hknown : Known ids b) (hA : A ∉ ids) :
    Known ids b' := by
  intro id hmem
  rw [OrdMap.mem_iff_get, h.others id fun heq => hA (heq ▸ hmem), ← OrdMap.mem_iff_get]
  exact hknown id hmem

/-- After its turn a device is where its turn has left it, whatever becomes of the
walk. -/
theorem walk_head (hknown : Known (id :: ids) a) (hnot : id ∉ ids) :
    (walk o (id :: ids) a).1.deviceMap[id]? = (visit (o id) a id).arbiter.deviceMap[id]? := by
  by_cases hdead : (Arbiter.visit (o id) a id).monitor = .dead
  · rw [walk_cons_dead hdead]
  · rw [walk_cons_live hdead]
    exact walk_other (hknown.visit (o id)) hnot

theorem visit_live {device : HNMDARecord} {outcome : RestOutcome}
    (hget : a.deviceMap[id]? = some device)
    (h : Turn.raises ⟨id, a, device⟩ outcome = false) :
    (Arbiter.visit outcome a id).monitor ≠ .dead := by
  intro hdead
  rw [(visit_dead_iff (t := ⟨id, a, device⟩) hget).mp hdead] at h
  cases h

theorem turns_head {device : HNMDARecord} (hget : a.deviceMap[id]? = some device) :
    ⟨id, a, device⟩ ∈ turns o (id :: ids) a := by
  unfold turns
  simp only [hget]
  exact List.mem_cons_self

/-- **The turn at the head of two walks**, where it leaves the same state: both walks
go on, from arbiters that have the rest in common. -/
theorem Twin.head {device : HNMDARecord} (h : Twin A srv (id :: ids) b b') (hnot : id ∉ ids)
    (hA : A ∉ id :: ids) (hget : b.deviceMap[id]? = some device) {outcome : RestOutcome}
    (hlive : Turn.raises ⟨id, b, device⟩ outcome = false)
    (hstate : stateOf (visit outcome b' id).arbiter id =
      stateOf (visit outcome b id).arbiter id) :
    (visit outcome b id).monitor ≠ .dead ∧ (visit outcome b' id).monitor ≠ .dead ∧
      Twin A srv ids (visit outcome b id).arbiter (visit outcome b' id).arbiter := by
  have hne : id ≠ A := fun heq => hA (heq ▸ List.mem_cons_self)
  have hA' : A ∉ ids := fun hmem => hA (List.mem_cons_of_mem _ hmem)
  have hget' : b'.deviceMap[id]? = some device := (h.others id hne).trans hget
  obtain ⟨hequal, hlive'⟩ := (h.state_iff hne hget hlive).2 hstate
  exact ⟨visit_live hget hlive, visit_live hget' hlive', h.step hne hnot hA' hget outcome hequal⟩

theorem Twin.at_head (h : Twin A srv (id :: ids) b b') : Twin A srv [id] b b' :=
  h.mono fun _ hmem => List.mem_singleton.mp hmem ▸ List.mem_cons_self

/-- If every mapping update to come finds the same, the walks end the same. -/
theorem walk_same :
    ∀ {ids : List Str} {b b' : HNManagedDeviceArbiter}, Twin A srv ids b b' → Known ids b →
      ids.Nodup → A ∉ ids → (∀ t ∈ turns o ids b, t.raises (o t.crc32ID) = false) →
      (∀ t ∈ turns o ids b, t.device.mgmtState = .srvMapUpdate →
        ∀ c', Twin A srv [t.crc32ID] t.arbiter c' →
          SameUpdate t ⟨t.crc32ID, c', t.device⟩ (o t.crc32ID)) →
      ∀ id ∈ ids, stateOf (walk o ids b').1 id = stateOf (walk o ids b).1 id
  | [], _, _, _, _, _, _, _, _, _, hmem => absurd hmem List.not_mem_nil
  | id :: ids, b, b', htwin, hknown, hnodup, hA, hlive, hsame, id', hmem => by
      obtain ⟨device, hget⟩ := hknown.get
      obtain ⟨hnot, hnodup⟩ := List.nodup_cons.mp hnodup
      have hne : id ≠ A := fun heq => hA (heq ▸ List.mem_cons_self)
      have hone := hlive _ (turns_head hget)
      have hstate := (htwin.state_iff hne hget hone).1.mpr fun hst =>
        hsame _ (turns_head hget) hst b' htwin.at_head
      obtain ⟨hmonitor, hmonitor', hrest⟩ := htwin.head hnot hA hget hone hstate
      rw [turns_cons_live hget hmonitor] at hlive hsame
      rcases List.mem_cons.mp hmem with rfl | htail
      · unfold stateOf
        rw [walk_head hknown hnot, walk_head (htwin.known hknown hA) hnot]
        exact hstate
      · rw [walk_cons_live hmonitor, walk_cons_live hmonitor']
        exact walk_same hrest (hknown.visit _) hnodup (fun h => hA (List.mem_cons_of_mem _ h))
          (fun t ht => hlive t (List.mem_cons_of_mem _ ht))
          (fun t ht => hsame t (List.mem_cons_of_mem _ ht)) id' htail

/-- If the walks end the same, every mapping update on the way found the same. -/
theorem turn_same {t : Turn} :
    ∀ {ids : List Str} {b b' : HNManagedDeviceArbiter}, Twin A srv ids b b' → Known ids b →
      ids.Nodup → A ∉ ids → (∀ t ∈ turns o ids b, t.raises (o t.crc32ID) = false) →
      (∀ id ∈ ids, stateOf (walk o ids b').1 id = stateOf (walk o ids b).1 id) →
      t ∈ turns o ids b → ∃ c', Twin A srv [t.crc32ID] t.arbiter c' ∧
        c'.deviceMap[A]? = b'.deviceMap[A]? ∧
        ((∀ id ∈ ids, ExactFor b' id) → ExactFor c' t.crc32ID) ∧
        (t.device.mgmtState = .srvMapUpdate →
          SameUpdate t ⟨t.crc32ID, c', t.device⟩ (o t.crc32ID))
  | [], _, _, _, _, _, _, _, _, ht => absurd ht List.not_mem_nil
  | id :: ids, b, b', htwin, hknown, hnodup, hA, hlive, hsame, ht => by
      obtain ⟨device, hget⟩ := hknown.get
      obtain ⟨hnot, hnodup⟩ := List.nodup_cons.mp hnodup
      have hne : id ≠ A := fun heq => hA (heq ▸ List.mem_cons_self)
      have hget' : b'.deviceMap[id]? = some device := (htwin.others id hne).trans hget
      have hone := hlive _ (turns_head hget)
      have hstate : stateOf (Arbiter.visit (o id) b' id).arbiter id =
          stateOf (Arbiter.visit (o id) b id).arbiter id := by
        have hfirst := hsame id List.mem_cons_self
        unfold stateOf at hfirst ⊢
        rw [walk_head hknown hnot, walk_head (htwin.known hknown hA) hnot] at hfirst
        exact hfirst
      obtain ⟨hmonitor, hmonitor', hrest⟩ := htwin.head hnot hA hget hone hstate
      rw [turns_cons_live hget hmonitor] at hlive ht
      rcases List.mem_cons.mp ht with rfl | htail
      · exact ⟨b', htwin.at_head, rfl, fun hexact => hexact id List.mem_cons_self,
          (htwin.state_iff hne hget hone).1.mp hstate⟩
      · have hsame' : ∀ id' ∈ ids,
            stateOf (walk o ids (Arbiter.visit (o id) b' id).arbiter).1 id' =
              stateOf (walk o ids (Arbiter.visit (o id) b id).arbiter).1 id' := by
          intro id' hmem
          have hlater := hsame id' (List.mem_cons_of_mem _ hmem)
          rw [walk_cons_live hmonitor, walk_cons_live hmonitor'] at hlater
          exact hlater
        obtain ⟨c', htwin', hrec, hexact, hupdate⟩ := turn_same hrest (hknown.visit _) hnodup
          (fun h => hA (List.mem_cons_of_mem _ h))
          (fun t ht => hlive t (List.mem_cons_of_mem _ ht)) hsame' htail
        refine ⟨c', htwin', hrec.trans (visit_other hget' _ hne), fun h => hexact ?_, hupdate⟩
        intro id' hmem
        have hne' : id ≠ id' := fun heq => hnot (heq ▸ hmem)
        exact (h id' (List.mem_cons_of_mem _ hmem)).visit hne' htwin.stored.2 hget' _

/-! ## §5. The failing device. -/

variable {t t' : Turn} {outcome : RestOutcome}

/-- In SRV_PROVIDE_INFO the services request goes out if it can. -/
theorem contacts_provide (hst : t.device.mgmtState = .srvProvideInfo) :
    t.contacts = if (t.device.findPreferredConnection .ipv4).isSome then
      some .updateDeviceServicesProvideInfo else none := by
  unfold Turn.contacts
  rw [hst]
  simp only [caseOp, RestOp.start, openRequest]
  cases t.device.findPreferredConnection .ipv4 <;> rfl

/-- A turn that rebuilds the index has got its answer. -/
theorem fails_of_rebuilds (h : rebuilds t.device outcome = true) : t.fails outcome = false := by
  have hcontacts := contacts_provide (rebuilds_state h)
  unfold rebuilds at h
  rw [Bool.and_eq_true, Bool.and_eq_true] at h
  obtain ⟨⟨-, hconn⟩, hreply⟩ := h
  rw [hconn, if_pos rfl] at hcontacts
  unfold Turn.fails
  rw [hcontacts]
  simp only [RestOp.received, RestOp.understands]
  cases hrec : outcome.receive with
  | ok body =>
    rw [hrec] at hreply
    simp only at hreply ⊢
    rw [beq_iff_eq.mp hreply]
    rfl
  | failed => rw [hrec] at hreply; cases hreply
  | raised => rw [hrec] at hreply; cases hreply

/-- **The two sides** once the failing device has had its turn, with the failure on
one and an answer on the other. -/
theorem twin_start (ht : t.WellFormed) (hstored : StoredByID t.arbiter)
    (hfails : t.fails outcome = true) (hlooks : offlineOnFailure t.device.mgmtState = true)
    (answer : RestOutcome) (ids : List Str) :
    Twin t.crc32ID (t.device.mgmtState = .srvProvideInfo) ids (t.after outcome).arbiter
      (t.after answer).arbiter := by
  obtain ⟨d, hstores, -, hprovided, hmgmt, hdefaults⟩ := visit_frame outcome ht
  obtain ⟨d', hstores', -, hprovided', hmgmt', hdefaults'⟩ := visit_frame answer ht
  have hkept := (visit_index ht outcome).2 <| Bool.eq_false_iff.mpr fun hr => by
    rw [fails_of_rebuilds hr] at hfails
    cases hfails
  obtain ⟨hexact', hkept'⟩ := visit_index ht answer
  have hcaches := (visit_caches_of_looks ht hlooks answer).trans
    (visit_caches_of_looks ht hlooks outcome).symm
  refine ⟨?_, hmgmt'.trans hmgmt.symm, hdefaults'.trans hdefaults.symm, hcaches,
    ⟨hstored.visit ht outcome, hstored.visit ht answer⟩, ?_, ?_⟩
  · intro key hne
    exact (hstores'.get_ne hne.symm).trans (hstores.get_ne hne.symm).symm
  · intro hno srvType
    unfold HNManagedDeviceArbiter.getDeviceServiceProviderURI Turn.after
    rw [hstores.get, hstores'.get]
    unfold HNMDARecord.getServiceProviderURI
    simp only [hprovided hno, hprovided' hno]
  · cases hr : rebuilds t.device answer with
    | true =>
      exact Or.inr ⟨rebuilds_state hr, fun id _ =>
        (hexact' hr).exactFor (hstored.visit ht answer) id⟩
    | false =>
      exact Or.inl fun id _ => listed_congr ((hkept' hr).trans hkept.symm) id

/-- The mapping PUT is due on both sides or on neither, if the targets are the same. -/
theorem mappingDue_congr {c c' : HNManagedDeviceArbiter} {device : HNMDARecord}
    (h : ∀ srvType ∈ device.getSrvMappingTSList,
      mappingTarget c' srvType = mappingTarget c srvType) :
    mappingDue c' device = mappingDue c device := by
  unfold mappingDue
  rw [Bool.eq_iff_iff, List.any_eq_true, List.any_eq_true]
  refine exists_congr fun srvType => and_congr_right fun hmem => ?_
  rw [h srvType hmem]

theorem desiresFrom_eq_false {A : Str} : t.desiresFrom A = false ↔
    ∀ srvType ∈ t.device.getSrvMappingTSList, t.arbiter.defaultProvider srvType ≠ some A := by
  unfold Turn.desiresFrom
  rw [List.any_eq_false]
  simp only [beq_iff_eq]

/-- **Enough**: an independent mapping update finds the same on both sides. -/
theorem sameUpdate_of_independent {c' : HNManagedDeviceArbiter}
    (h : Twin t.crc32ID (t.device.mgmtState = .srvProvideInfo) [t'.crc32ID] t'.arbiter c')
    (ht' : t'.WellFormed) (hne : t'.crc32ID ≠ t.crc32ID) (hfails : t.fails (o t.crc32ID) = true)
    (hst : t'.device.mgmtState = .srvMapUpdate) (hind : Independent o t t') :
    SameUpdate t' ⟨t'.crc32ID, c', t'.device⟩ (o t'.crc32ID) := by
  have hid : t'.device.getCRC32IDStr = t'.crc32ID := h.stored.1 _ _ ht'
  unfold SameUpdate
  by_cases hsrv : t.device.mgmtState = .srvProvideInfo
  · rcases hind hfails hsrv hst with ⟨hput, hdue⟩ | ⟨hput, hindexed⟩
    · -- the PUT is due on both sides, and fails
      rw [hput, if_neg Bool.false_ne_true]
      obtain ⟨srvType, hmem, hcond⟩ := List.any_eq_true.mp hdue
      obtain ⟨hdefault, hdiff⟩ := (Bool.and_eq_true _ _).mp hcond
      have htarget := h.mappingTarget (Or.inr (bne_iff_ne.mp hdefault))
      have hleft : mappingDue t'.arbiter t'.device = true :=
        List.any_eq_true.mpr ⟨srvType, hmem, hdiff⟩
      have hright : mappingDue c' t'.device = true :=
        List.any_eq_true.mpr ⟨srvType, hmem, by rw [htarget]; exact hdiff⟩
      exact ⟨hright.trans hleft.symm, Or.inl hleft⟩
    · have hlisted : listed c' t'.device.getCRC32IDStr =
          listed t'.arbiter t'.device.getCRC32IDStr := by
        rw [hid]
        rcases h.index with hsame | ⟨-, hexact⟩
        · exact hsame _ List.mem_cons_self
        · have hc' : c'.deviceMap[t'.crc32ID]? = some t'.device := (h.others _ hne).trans ht'
          have hfor := hexact _ List.mem_cons_self t'.device hc'
          unfold Turn.indexed at hindexed
          rw [beq_iff_eq, hid] at hindexed
          rw [Bool.eq_iff_iff, hfor, hindexed, List.contains_iff_mem]
      rcases hput with hput | hput
      · rw [hput, if_pos rfl]
        exact hlisted
      · have hdue : mappingDue c' t'.device = mappingDue t'.arbiter t'.device :=
          mappingDue_congr fun srvType hmem =>
            h.mappingTarget (Or.inr (desiresFrom_eq_false.mp hput srvType hmem))
        split
        next => exact hlisted
        next => exact ⟨hdue, Or.inr hlisted⟩
  · -- the failing device's services are the same on both sides
    have hlisted : listed c' t'.device.getCRC32IDStr =
        listed t'.arbiter t'.device.getCRC32IDStr := by
      rw [hid]
      rcases h.index with hsame | ⟨hno, -⟩
      · exact hsame _ List.mem_cons_self
      · exact absurd hno hsrv
    have hdue : mappingDue c' t'.device = mappingDue t'.arbiter t'.device :=
      mappingDue_congr fun srvType _ => h.mappingTarget (Or.inl hsrv)
    split
    next => exact hlisted
    next => exact ⟨hdue, Or.inr hlisted⟩

/-! ## §6. The answers that tell the two sides apart. -/

/-- An answer to the services request. -/
def listing (uri : Str → Str) (types : List Str) : RestOutcome :=
  okReply (servicesReply uri types)

/-- Such an answer to a request that went out: no failure, and the record takes the
URIs over. -/
theorem listing_answers (ht : t.WellFormed) (hst : t.device.mgmtState = .srvProvideInfo)
    (hfails : t.fails outcome = true) (uri : Str → Str) (types : List Str) :
    t.fails (listing uri types) = false ∧
      (∀ srvType ∈ types,
        (t.after (listing uri types)).arbiter.getDeviceServiceProviderURI t.crc32ID srvType =
          uri srvType) ∧
      ((∃ srvType ∈ types, srvType ∉ t.device.srvMapProvided) →
        ExactIndex (t.after (listing uri types)).arbiter) := by
  obtain ⟨changed, hchanged, huris, hnew⟩ :=
    applyServicesReply_listing t.device.srvMapProvided uri types
  have hconn : (t.device.findPreferredConnection .ipv4).isSome = true := by
    obtain ⟨op, hop⟩ := contacts_of_fails hfails
    rw [contacts_provide hst] at hop
    by_contra hno
    rw [if_neg hno] at hop
    cases hop
  have hcontacts : t.contacts = some .updateDeviceServicesProvideInfo := by
    rw [contacts_provide hst, if_pos hconn]
  have hanswered : t.fails (listing uri types) = false := by
    unfold Turn.fails
    rw [hcontacts]
    show (!(applyServicesReply t.device.srvMapProvided (some (servicesReply uri types))).2.isSome)
      = false
    rw [hchanged]
    rfl
  have hbusy : idleState t.device.mgmtState = false := by rw [hst]; rfl
  obtain ⟨dcInfo, hdc⟩ := Option.isSome_iff_exists.mp hconn
  -- the record the case leaves
  have hdevice : (runCase (listing uri types) t.arbiter t.crc32ID t.device).device =
      { t.device with srvMapProvided :=
          (applyServicesReply t.device.srvMapProvided (some (servicesReply uri types))).1 } := by
    rw [runCase_device, hst]
    simp only [caseOp, RestOp.start, openRequest, hdc]
    rfl
  refine ⟨hanswered, fun srvType hmem => ?_, fun hfresh => ?_⟩
  · have hlive := raises_of_answered hcontacts hanswered
    obtain ⟨result, hresult⟩ : ∃ result,
        (runCase (listing uri types) t.arbiter t.crc32ID t.device).result = some result := by
      apply Option.ne_none_iff_exists'.mp
      intro hnone
      rw [Turn.raises_iff.mpr hnone] at hlive
      cases hlive
    unfold HNManagedDeviceArbiter.getDeviceServiceProviderURI
    rw [after_written ht hbusy hresult, hdevice]
    have huri := huris srvType hmem
    obtain ⟨ep, hep, hroot⟩ := Option.map_eq_some_iff.mp huri
    simp only [HNMDARecord.getServiceProviderURI, HNMDARecord.setManagementState, hep]
    exact hroot
  · rw [hnew hfresh] at hchanged
    apply (visit_index ht _).1
    unfold rebuilds
    rw [hst, hconn]
    show ((applyServicesReply t.device.srvMapProvided (some (servicesReply uri types))).2
      == some true) = true
    rw [hchanged]
    rfl

theorem mappingTarget_default {c : HNManagedDeviceArbiter} {srvType A : Str}
    (h : c.defaultProvider srvType = some A) :
    mappingTarget c srvType = c.getDeviceServiceProviderURI A srvType := by
  unfold HNManagedDeviceArbiter.defaultProvider at h
  obtain ⟨ref, href, hid⟩ := Option.map_eq_some_iff.mp h
  unfold mappingTarget
  rw [href]
  simp only
  rw [hid]

/-- The mapping update at `t'` finds what it would find had `t` been answered. -/
def FindsSame (o : Str → RestOutcome) (t t' : Turn) (answer : RestOutcome)
    (c' : HNManagedDeviceArbiter) : Prop :=
  Twin t.crc32ID (t.device.mgmtState = .srvProvideInfo) [t'.crc32ID] t'.arbiter c' ∧
    c'.deviceMap[t.crc32ID]? = (t.after answer).arbiter.deviceMap[t.crc32ID]? ∧
    (ExactIndex (t.after answer).arbiter → ExactFor c' t'.crc32ID) ∧
    SameUpdate t' ⟨t'.crc32ID, c', t'.device⟩ (o t'.crc32ID)

/-- The URI of a type that `t` provides by default, on the other side. -/
theorem FindsSame.mappingTarget {answer : RestOutcome} {c' : HNManagedDeviceArbiter}
    (h : FindsSame o t t' answer c') {srvType : Str}
    (hdefault : t'.arbiter.defaultProvider srvType = some t.crc32ID) :
    Arbiter.mappingTarget c' srvType =
      (t.after answer).arbiter.getDeviceServiceProviderURI t.crc32ID srvType := by
  obtain ⟨htwin, hrecord, -, -⟩ := h
  have hdefault' : c'.defaultProvider srvType = some t.crc32ID := by
    unfold HNManagedDeviceArbiter.defaultProvider
    rw [htwin.defaults]
    exact hdefault
  rw [mappingTarget_default hdefault']
  unfold HNManagedDeviceArbiter.getDeviceServiceProviderURI
  rw [hrecord]

/-- An answer with the URIs `t'` has already: no PUT is due. -/
theorem mappingDue_of_same (ht : t.WellFormed) (hsrv : t.device.mgmtState = .srvProvideInfo)
    (hfails : t.fails outcome = true) (hput : putAnswered t'.device (o t'.crc32ID) = false)
    (hrest : ∀ srvType ∈ t'.device.getSrvMappingTSList,
      t'.arbiter.defaultProvider srvType ≠ some t.crc32ID →
      mappingTarget t'.arbiter srvType = mappedURI t'.device srvType)
    (hsame : ∀ answer, t.fails answer = false → ∃ c', FindsSame o t t' answer c') :
    mappingDue t'.arbiter t'.device = false := by
  obtain ⟨hanswers, huris, -⟩ := listing_answers ht hsrv hfails (mappedURI t'.device)
    t'.device.getSrvMappingTSList
  obtain ⟨c', hfinds⟩ := hsame _ hanswers
  obtain ⟨htwin, -, -, hupdate⟩ := id hfinds
  unfold SameUpdate at hupdate
  rw [hput, if_neg Bool.false_ne_true] at hupdate
  rw [← hupdate.1]
  unfold mappingDue
  rw [List.any_eq_false]
  intro srvType hmem hdiff
  refine bne_iff_ne.mp hdiff ?_
  by_cases hdefault : t'.arbiter.defaultProvider srvType = some t.crc32ID
  · exact (hfinds.mappingTarget hdefault).trans (huris srvType hmem)
  · exact (htwin.mappingTarget (Or.inr hdefault)).trans (hrest srvType hmem hdefault)

/-- An answer with another URI for a type that `t` provides by default: one is. -/
theorem mappingDue_of_other (ht : t.WellFormed) (hsrv : t.device.mgmtState = .srvProvideInfo)
    (hfails : t.fails outcome = true) (hput : putAnswered t'.device (o t'.crc32ID) = false)
    {srvType : Str} (hmem : srvType ∈ t'.device.getSrvMappingTSList)
    (hdefault : t'.arbiter.defaultProvider srvType = some t.crc32ID)
    (hsame : ∀ answer, t.fails answer = false → ∃ c', FindsSame o t t' answer c') :
    mappingDue t'.arbiter t'.device = true := by
  obtain ⟨hanswers, huris, -⟩ := listing_answers ht hsrv hfails
    (fun s => mappedURI t'.device s ++ [0]) [srvType]
  obtain ⟨c', hfinds⟩ := hsame _ hanswers
  obtain ⟨-, -, -, hupdate⟩ := id hfinds
  unfold SameUpdate at hupdate
  rw [hput, if_neg Bool.false_ne_true] at hupdate
  rw [← hupdate.1]
  refine List.any_eq_true.mpr ⟨srvType, hmem, bne_iff_ne.mpr ?_⟩
  show Arbiter.mappingTarget c' srvType ≠ mappedURI t'.device srvType
  rw [hfinds.mappingTarget hdefault, huris srvType List.mem_cons_self]
  intro heq
  have hlen := congrArg List.length heq
  rw [List.length_append, List.length_singleton] at hlen
  omega

/-- **Needed**: a mapping update that finds the same whatever the answer is
independent. -/
theorem independent_of_same (ht : t.WellFormed) (ht' : t'.WellFormed)
    (hne : t'.crc32ID ≠ t.crc32ID)
    (hsame : ∀ answer, t.fails answer = false → ∃ c', FindsSame o t t' answer c') :
    Independent o t t' := by
  intro hfails hsrv _
  -- an answer with a new type has the index rebuilt
  obtain ⟨fresh, hfresh⟩ := exists_fresh t.device.srvMapProvided
  obtain ⟨hanswers, -, hexact⟩ := listing_answers ht hsrv hfails (fun _ => []) [fresh]
  obtain ⟨c', htwin, -, hfor, hupdate⟩ := hsame _ hanswers
  have hid : t'.device.getCRC32IDStr = t'.crc32ID := htwin.stored.1 _ _ ht'
  have hindexed : listed c' t'.device.getCRC32IDStr = listed t'.arbiter t'.device.getCRC32IDStr →
      t'.indexed = true := by
    intro hlisted
    have hiff := hfor (hexact ⟨fresh, List.mem_cons_self, hfresh⟩) t'.device
      ((htwin.others _ hne).trans ht')
    unfold Turn.indexed
    rw [beq_iff_eq, ← hlisted, hid, Bool.eq_iff_iff, hiff, List.contains_iff_mem]
  unfold SameUpdate at hupdate
  cases hput : putAnswered t'.device (o t'.crc32ID) with
  | true =>
    rw [hput, if_pos rfl] at hupdate
    exact Or.inr ⟨Or.inl rfl, hindexed hupdate⟩
  | false =>
    rw [hput, if_neg Bool.false_ne_true] at hupdate
    cases hwithout : t'.dueWithout t.crc32ID with
    | true => exact Or.inl ⟨rfl, rfl⟩
    | false =>
      -- what is not provided by `t` is mapped where it should be
      have hrest : ∀ srvType ∈ t'.device.getSrvMappingTSList,
          t'.arbiter.defaultProvider srvType ≠ some t.crc32ID →
          mappingTarget t'.arbiter srvType = mappedURI t'.device srvType := by
        intro srvType hmem hdefault
        by_contra hdiff
        have hno := List.any_eq_false.mp hwithout srvType hmem
        exact hno (by rw [Bool.and_eq_true, bne_iff_ne, bne_iff_ne]; exact ⟨hdefault, hdiff⟩)
      have hnone : t'.desiresFrom t.crc32ID = false := by
        rw [desiresFrom_eq_false]
        intro srvType₀ hmem₀ hdefault₀
        have hoff : mappingDue t'.arbiter t'.device = false :=
          mappingDue_of_same ht hsrv hfails hput hrest hsame
        have hon : mappingDue t'.arbiter t'.device = true :=
          mappingDue_of_other ht hsrv hfails hput hmem₀ hdefault₀ hsame
        rw [hoff] at hon
        cases hon
      have hoff : mappingDue t'.arbiter t'.device = false := by
        unfold mappingDue
        rw [List.any_eq_false]
        intro srvType hmem hdiff
        exact bne_iff_ne.mp hdiff (hrest srvType hmem (desiresFrom_eq_false.mp hnone srvType hmem))
      refine Or.inr ⟨Or.inr hnone, hindexed (hupdate.2.resolve_left ?_)⟩
      rw [hoff]
      exact Bool.false_ne_true

/-! ## §7. The exact condition. -/

/-- The rest of the pass does not notice a failure exactly when every mapping update
in it is independent. -/
theorem rest_same_iff (ht : t.WellFormed) (hstored : StoredByID t.arbiter)
    (hknown : Known ids (t.after (o t.crc32ID)).arbiter) (hnodup : ids.Nodup)
    (hA : t.crc32ID ∉ ids)
    (hlive : ∀ s ∈ turns o ids (t.after (o t.crc32ID)).arbiter, s.raises (o s.crc32ID) = false)
    (hlooks : t.fails (o t.crc32ID) = true → offlineOnFailure t.device.mgmtState = true) :
    (t.fails (o t.crc32ID) = true → ∀ answer, t.fails answer = false → ∀ id ∈ ids,
      stateOf (walk o ids (t.after answer).arbiter).1 id =
        stateOf (walk o ids (t.after (o t.crc32ID)).arbiter).1 id) ↔
    ∀ t' ∈ turns o ids (t.after (o t.crc32ID)).arbiter, Independent o t t' := by
  have hne : ∀ t' ∈ turns o ids (t.after (o t.crc32ID)).arbiter, t'.crc32ID ≠ t.crc32ID :=
    fun t' hmem heq => hA (heq ▸ (turns_mem hmem).1)
  constructor
  · intro hsame t' hmem hfails hsrv hst
    refine independent_of_same ht (turns_mem hmem).2 (hne t' hmem) ?_ hfails hsrv hst
    intro answer hanswer
    obtain ⟨c', htwin, hrecord, hexact, hupdate⟩ := turn_same
      (twin_start ht hstored hfails (hlooks hfails) answer ids) hknown hnodup hA hlive
      (hsame hfails answer hanswer) hmem
    refine ⟨c', htwin, hrecord, fun hindex => hexact fun id _ => ?_, hupdate hst⟩
    exact hindex.exactFor (hstored.visit ht answer) id
  · intro hind hfails answer _
    refine walk_same (twin_start ht hstored hfails (hlooks hfails) answer ids) hknown hnodup hA
      hlive ?_
    intro t' hmem hst c' htwin
    exact sameUpdate_of_independent htwin (turns_mem hmem).2 (hne t' hmem) hfails hst
      (hind t' hmem)

/-- The same of every failure in a walk. -/
theorem others_iff :
    ∀ {ids : List Str} {a : HNManagedDeviceArbiter}, Known ids a → StoredByID a → ids.Nodup →
      (∀ t ∈ turns o ids a, t.raises (o t.crc32ID) = false) →
      (∀ t ∈ turns o ids a, t.fails (o t.crc32ID) = true →
        offlineOnFailure t.device.mgmtState = true) →
      ((∀ t ∈ turns o ids a, t.fails (o t.crc32ID) = true → ∀ answer, t.fails answer = false →
          ∀ other, other ≠ t.crc32ID →
            stateOf (walk (Function.update o t.crc32ID answer) ids a).1 other =
              stateOf (walk o ids a).1 other) ↔
        (turns o ids a).Pairwise (Independent o))
  | [], _, _, _, _, _, _ => iff_of_true (fun _ h => absurd h List.not_mem_nil) List.Pairwise.nil
  | id :: ids, a, hknown, hstored, hnodup, hlive, hlooks => by
      obtain ⟨device, hget⟩ := hknown.get
      obtain ⟨hnot, hnodup⟩ := List.nodup_cons.mp hnodup
      have hmonitor := visit_live hget (hlive _ (turns_head hget))
      rw [turns_cons_live hget hmonitor] at hlive hlooks ⊢
      have hlive' := fun t ht => hlive t (List.mem_cons_of_mem _ ht)
      have hlooks' := fun t ht => hlooks t (List.mem_cons_of_mem _ ht)
      rw [List.pairwise_cons, List.forall_mem_cons]
      refine and_congr ?_ ?_
      · refine Iff.trans ?_ (rest_same_iff (t := ⟨id, a, device⟩) hget hstored
          (hknown.visit (o id)) hnodup hnot hlive' (hlooks _ List.mem_cons_self))
        refine imp_congr_right fun hfails => forall_congr' fun answer =>
          imp_congr_right fun hanswer => ?_
        show (∀ other, other ≠ id → stateOf (walk (Function.update o id answer) (id :: ids) a).1
            other = stateOf (walk o (id :: ids) a).1 other) ↔
          ∀ id' ∈ ids, stateOf (walk o ids (Arbiter.visit answer a id).arbiter).1 id' =
            stateOf (walk o ids (Arbiter.visit (o id) a id).arbiter).1 id'
        -- the walk with the answer, after the head's turn
        have hanswered : (Arbiter.visit answer a id).monitor ≠ .dead := by
          obtain ⟨op, hop⟩ := contacts_of_fails hfails
          exact visit_live hget (raises_of_answered hop hanswer)
        have hwalk : walk (Function.update o id answer) (id :: ids) a =
            walk o ids (Arbiter.visit answer a id).arbiter := by
          have hsame : Function.update o id answer id = answer := Function.update_self ..
          rw [walk_cons_live (by rw [hsame]; exact hanswered), hsame]
          refine walk_congr fun id' hmem => ?_
          have hne : id' ≠ id := fun heq => hnot (heq ▸ hmem)
          exact Function.update_of_ne hne ..
        rw [hwalk, walk_cons_live hmonitor]
        refine ⟨fun h id' hmem => ?_, fun h other hne => ?_⟩
        · have hne : id' ≠ id := fun heq => hnot (heq ▸ hmem)
          exact h id' hne
        by_cases hmem : other ∈ ids
        · exact h other hmem
        · unfold stateOf
          rw [walk_other (hknown.visit answer) hmem, walk_other (hknown.visit (o id)) hmem,
            visit_other hget answer (Ne.symm hne), visit_other hget (o id) (Ne.symm hne)]
      · rw [← others_iff (hknown.visit (o id)) (hstored.visit hget (o id)) hnodup hlive' hlooks']
        refine forall_congr' fun t => forall_congr' fun ht => imp_congr_right fun _ =>
          forall_congr' fun answer => imp_congr_right fun _ => forall_congr' fun other =>
            imp_congr_right fun _ => ?_
        have hne : id ≠ t.crc32ID := fun heq => hnot (heq ▸ (turns_mem ht).1)
        have hsame : Function.update o t.crc32ID answer id = o id := Function.update_of_ne hne ..
        rw [walk_cons_live hmonitor, walk_cons_live (by rw [hsame]; exact hmonitor), hsame]

/-- **A pass isolates the devices that fail in it** exactly when no exception leaves a
turn, contacts fail only where the result is looked at, and the mapping updates
after a failed services request are independent of it. -/
theorem isolated_iff (o : Str → RestOutcome) (a : HNManagedDeviceArbiter)
    (hstored : StoredByID a) : Isolated o a ↔ IsolationCondition o a := by
  have hknown : Known a.deviceMap.keys { a with monitorWaitTime := 10 } :=
    fun id hmem => Std.ExtTreeMap.mem_keys.mp hmem
  have hnodup : a.deviceMap.keys.Nodup := a.deviceMap.nodup_keys
  obtain ⟨hends, hmap⟩ := walk_live_iff (o := o) hknown
  have hidle : (monitorPass o a).monitor = .idle ↔
      (walk o a.deviceMap.keys { a with monitorWaitTime := 10 }).2 = true := by
    unfold monitorPass
    simp only
    split
    next h => exact iff_of_true rfl h
    next h => exact iff_of_false nofun h
  -- a failing device's state at the end of the pass is the one its turn left
  have hoffline : ∀ t ∈ passTurns o a, t.fails (o t.crc32ID) = true →
      (walk o a.deviceMap.keys { a with monitorWaitTime := 10 }).2 = true →
      (stateOf (monitorPass o a).arbiter t.crc32ID = some .offline ↔
        offlineOnFailure t.device.mgmtState = true) := by
    intro t ht hfails hlive
    rw [← visit_offline_iff (turns_mem ht).2 hfails (hends.mp hlive t ht)]
    unfold stateOf
    rw [← walk_turn hknown hnodup hlive ht]
    rfl
  constructor
  · intro h
    have hlive := hidle.mp h.visitsAll.2
    have hlooks : ∀ t ∈ passTurns o a, t.fails (o t.crc32ID) = true →
        offlineOnFailure t.device.mgmtState = true :=
      fun t ht hfails => (hoffline t ht hfails hlive).mp (h.offline t ht hfails)
    exact ⟨hends.mp hlive, hlooks,
      (others_iff hknown hstored hnodup (hends.mp hlive) hlooks).mp h.others⟩
  · intro h
    have hlive := hends.mpr h.returns
    exact ⟨⟨hmap hlive, hidle.mpr hlive⟩,
      fun t ht hfails => (hoffline t ht hfails hlive).mpr (h.looks t ht hfails),
      (others_iff hknown hstored hnodup h.returns h.looks).mpr h.independent⟩

end Isolation

/-! ## §8. A device that answers with an error, and one that is not reached. -/

section Sample

open RefPlatform

/-- A second device, which comes after the first in the map. -/
def secondDeviceFound : DiscoverEvent :=
  { sampleDeviceFound with
    hnodeID := lit "29:72:e2:ae:db:90:11:ec:89:a1:b8:27:eb:52:da:56"
    addrs := [(lit "garden2.local", lit "192.168.1.11", 8080)] }

/-- Both are discovered, and a pass goes over them: the next one asks for their info. -/
def discoveredRun : List Label :=
  [.notifyDiscoverAdd sampleDeviceFound, .notifyDiscoverAdd secondDeviceFound, .wakeup,
    .readState, .act, .writeState, .readState, .act, .writeState]

/-- One outcome for the first device, and an answer from the other. -/
def firstGets (outcome : RestOutcome) (crc32ID : Str) : RestOutcome :=
  if crc32ID = lit "4900fb4e" then outcome else okReply (.object [])

/-- `404 Not Found`. -/
def notFound : RestOutcome :=
  { send := true, render := true, response := some (404, none), cached := true }

/-- `sendRequest` raises. -/
def unreachable : RestOutcome :=
  { send := false, render := true, response := none, cached := true }

/-- The first device answers with an error: it goes OFFLINE, and the second goes on. -/
theorem isolated_sample :
    ∃ ts s, Run system (Sys.init sampleManager ()) ts s ∧
      stateOf (monitorPass (firstGets notFound) s.arbiter).arbiter (lit "4900fb4e") =
        some .offline ∧
      stateOf (monitorPass (firstGets notFound) s.arbiter).arbiter (lit "d009aaf4") =
        some .ownerInfo ∧
      Isolated (firstGets notFound) s.arbiter := by
  obtain ⟨ts, s, hr, hp⟩ := Machine.exists_run_of_exec (M := system)
    (s := Sys.init sampleManager ()) (l := discoveredRun)
    (p := fun r => let o := firstGets notFound
      let after := (monitorPass o r.2.arbiter).arbiter
      decide (stateOf after (lit "4900fb4e") = some .offline) &&
      (decide (stateOf after (lit "d009aaf4") = some .ownerInfo) &&
      (decide (∀ t ∈ passTurns o r.2.arbiter, t.raises (o t.crc32ID) = false) &&
      (decide (∀ t ∈ passTurns o r.2.arbiter, t.fails (o t.crc32ID) = true →
        offlineOnFailure t.device.mgmtState = true) &&
      decide ((passTurns o r.2.arbiter).Pairwise (Independent o)))))) (by decide +kernel)
  simp only [Bool.and_eq_true, decide_eq_true_eq] at hp
  obtain ⟨hoffline, hgoesOn, hreturns, hlooks, hindependent⟩ := hp
  exact ⟨ts, s, hr, hoffline, hgoesOn,
    (isolated_iff _ _ (storedByID_run crc32StrStable_ref hr)).mpr
      ⟨hreturns, hlooks, hindependent⟩⟩

/-- **The first device is not reached**: the second, which would answer, does not
have its turn, and the monitor has none after that. -/
theorem unreachable_not_isolated :
    ∃ ts s, Run system (Sys.init sampleManager ()) ts s ∧
      (passTurns (firstGets unreachable) s.arbiter).map Turn.crc32ID = [lit "4900fb4e"] ∧
      s.arbiter.deviceMap.keys = [lit "4900fb4e", lit "d009aaf4"] ∧
      ¬ Isolated (firstGets unreachable) s.arbiter := by
  obtain ⟨ts, s, hr, hp⟩ := Machine.exists_run_of_exec (M := system)
    (s := Sys.init sampleManager ()) (l := discoveredRun)
    (p := fun r =>
      decide ((passTurns (firstGets unreachable) r.2.arbiter).map Turn.crc32ID =
        [lit "4900fb4e"]) &&
      decide (r.2.arbiter.deviceMap.keys = [lit "4900fb4e", lit "d009aaf4"]))
    (by decide +kernel)
  simp only [Bool.and_eq_true, decide_eq_true_eq] at hp
  obtain ⟨hturns, hkeys⟩ := hp
  refine ⟨ts, s, hr, hturns, hkeys, fun hisolated => ?_⟩
  have hall := hisolated.visitsAll.1
  rw [hturns, hkeys] at hall
  cases hall

end Sample

end HNodeMgmt.Arbiter
