/-
  HNodeMgmt.Arbiter.Steps — what one step of the system can do.

  The step function read backwards: one constructor of `Took` for each thing a
  step can do, guards included, and for the REST helpers one lemma each on the
  two halves.  Every invariant of the arbiter is derived from these, and none
  of them unfolds the step function.

  Main results:
    * `took_of_step` — every step is one of the fifteen listed.
    * `finish_stores` — a helper's second half rewrites AT MOST the record it
      works for, by what its reply makes of it.
-/
import Mathlib.Tactic.Common
import HNodeMgmt.Arbiter.System

namespace HNodeMgmt.Arbiter

open Lib

variable [Platform]

/-! ## §1. One record is written. -/

/-- The device maps agree but for the record under `id`. -/
def Stores (a a' : HNManagedDeviceArbiter) (id : Str) (device : HNMDARecord) : Prop :=
  ∀ key : Str, a'.deviceMap[key]? = if id = key then some device else a.deviceMap[key]?

theorem Stores.get {a a' : HNManagedDeviceArbiter} {id : Str} {device : HNMDARecord}
    (h : Stores a a' id device) : a'.deviceMap[id]? = some device := by
  rw [h id, if_pos rfl]

theorem Stores.get_ne {a a' : HNManagedDeviceArbiter} {id key : Str} {device : HNMDARecord}
    (h : Stores a a' id device) (hne : id ≠ key) : a'.deviceMap[key]? = a.deviceMap[key]? := by
  rw [h key, if_neg hne]

/-- The record is written twice. -/
theorem Stores.trans {a a' a'' : HNManagedDeviceArbiter} {id : Str} {device device' : HNMDARecord}
    (h : Stores a a' id device) (h' : Stores a' a'' id device') : Stores a a'' id device' := by
  intro key
  rw [h' key]
  split
  next => rfl
  next hne => exact h.get_ne hne

/-- The keys stay. -/
theorem Stores.keys {a a' : HNManagedDeviceArbiter} {id : Str} {device device' : HNMDARecord}
    (h : Stores a a' id device') (hget : a.deviceMap[id]? = some device) :
    a'.deviceMap.keys = a.deviceMap.keys := by
  apply OrdMap.keys_eq_of_mem_iff
  intro key
  rw [OrdMap.mem_iff_get, OrdMap.mem_iff_get, h key]
  split
  next heq =>
    rw [← heq, hget]
    exact ⟨fun _ => ⟨device, rfl⟩, fun _ => ⟨device', rfl⟩⟩
  next => exact Iff.rfl

/-- Nothing is written. -/
theorem stores_refl {a : HNManagedDeviceArbiter} {id : Str} {device : HNMDARecord}
    (hget : a.deviceMap[id]? = some device) : Stores a a id device := by
  intro key
  split
  next heq => rw [← heq, hget]
  next => rfl

theorem stores_setDevice (a : HNManagedDeviceArbiter) (id : Str) (device : HNMDARecord) :
    Stores a (a.setDevice id device) id device := fun _ => setDevice_get

theorem stores_setNextMonitorState (a : HNManagedDeviceArbiter) (id : Str) (device : HNMDARecord)
    (st : MgmtState) (minValue : Nat) :
    Stores a (a.setNextMonitorState id device st minValue) id (device.setManagementState st) :=
  fun _ => setDevice_get

/-! ## §2. The calls of the main thread. -/

/-- The record `notifyDiscoverAdd` inserts for a new ID. -/
def discovered (a : HNManagedDeviceArbiter) (record : HNMDARecord) : HNMDARecord :=
  if record.getCRC32IDStr = a.getSelfCRC32IDStr then
    ((a.initMgmtDevice record).setManagementState .self).copy
  else (record.setManagementState .discovered).copy

/-- The built-in services are all that `initMgmtDevice` adds. -/
theorem initMgmtDevice_frame (a : HNManagedDeviceArbiter) (record : HNMDARecord) :
    a.initMgmtDevice record =
      { record with srvMapProvided := (a.initMgmtDevice record).srvMapProvided } := by
  simp only [HNManagedDeviceArbiter.initMgmtDevice,
    HNManagedDeviceArbiter.addMgmtDeviceProvidedSrv, HNMDARecord.completeSrvProviderUpdates,
    HNMDARecord.updateSrvProvider, HNMDARecord.startSrvProviderUpdates]

theorem initMgmtDevice_getCRC32IDStr (a : HNManagedDeviceArbiter) (record : HNMDARecord) :
    (a.initMgmtDevice record).getCRC32IDStr = record.getCRC32IDStr := by
  rw [initMgmtDevice_frame]
  unfold HNMDARecord.getCRC32IDStr
  rfl

/-- A discovery of an unknown ID. -/
theorem notifyDiscoverAdd_new {a : HNManagedDeviceArbiter} {record : HNMDARecord}
    (h : a.deviceMap[record.getCRC32IDStr]? = none) :
    Stores a (a.notifyDiscoverAdd record) record.getCRC32IDStr (discovered a record) := by
  intro key
  have hnot : record.getCRC32IDStr ∉ a.deviceMap := (OrdMap.not_mem_iff_get _ _).mpr h
  -- the record keeps its ID on the way into the map
  have hself : ((a.initMgmtDevice record).setManagementState .self).getCRC32IDStr =
      record.getCRC32IDStr := initMgmtDevice_getCRC32IDStr a record
  have hother : (record.setManagementState .discovered).getCRC32IDStr =
      record.getCRC32IDStr := rfl
  simp only [HNManagedDeviceArbiter.notifyDiscoverAdd, h, discovered]
  split
  next =>
    rw [hself, OrdMap.get_insertIfNew]
    simp only [hnot, not_false_eq_true, and_true]
  next =>
    rw [hother, OrdMap.get_insertIfNew]
    simp only [hnot, not_false_eq_true, and_true]

/-- A discovery of a known ID. -/
theorem notifyDiscoverAdd_known {a : HNManagedDeviceArbiter} {record known : HNMDARecord}
    (h : a.deviceMap[record.getCRC32IDStr]? = some known) :
    Stores a (a.notifyDiscoverAdd record) record.getCRC32IDStr (known.updateRecord record) := by
  simp only [HNManagedDeviceArbiter.notifyDiscoverAdd, h]
  exact stores_setDevice a _ _

/-- A discovery touches the device map only. -/
theorem notifyDiscoverAdd_rest (a : HNManagedDeviceArbiter) (record : HNMDARecord) :
    a.notifyDiscoverAdd record =
      { a with deviceMap := (a.notifyDiscoverAdd record).deviceMap } := by
  unfold HNManagedDeviceArbiter.notifyDiscoverAdd
  cases a.deviceMap[record.getCRC32IDStr]? <;> rfl

/-! ## §3. The helpers. -/

/-- What `mappingChanges` makes of the device: some of its desired endpoints are
marked as visited. -/
theorem mappingChanges_device (a : HNManagedDeviceArbiter) (device : HNMDARecord) :
    ∃ m, (mappingChanges a device).1 = { device with srvMapDesired := m } ∧
      (Keyed device.srvMapDesired → Keyed m ∧ ∀ t, t ∈ m ↔ t ∈ device.srvMapDesired) := by
  have hloop : ∀ (ts : List Str) (st : HNMDARecord × StrMap Str),
      ∃ m, (ts.foldl (mappingStep a) st).1 = { st.1 with srvMapDesired := m } ∧
        (Keyed st.1.srvMapDesired → Keyed m) ∧
        ((∀ t ∈ ts, t ∈ st.1.srvMapDesired) → ∀ t, t ∈ m ↔ t ∈ st.1.srvMapDesired) := by
    intro ts
    induction ts with
    | nil => exact fun st => ⟨st.1.srvMapDesired, rfl, id, fun _ _ => Iff.rfl⟩
    | cons t₀ ts ih =>
      intro st
      obtain ⟨m, heq, hkeyed, hmem⟩ := ih (mappingStep a st t₀)
      have hone : (mappingStep a st t₀).1 = (st.1.updateSrvMapping t₀).1 := by
        simp only [mappingStep]
        split <;> rfl
      rw [hone] at heq hkeyed hmem
      refine ⟨m, heq, fun h => hkeyed (keyed_updateSrv h t₀), fun hall t => ?_⟩
      have hvisit : ∀ t, t ∈ (st.1.updateSrvMapping t₀).1.srvMapDesired ↔
          t ∈ st.1.srvMapDesired := by
        intro t
        show t ∈ (updateSrv st.1.srvMapDesired t₀).1 ↔ _
        rw [mem_updateSrv]
        exact ⟨fun h => h.elim id fun heq => heq ▸ hall t₀ (by simp), Or.inl⟩
      rw [hmem (fun t ht => (hvisit t).mpr (hall t (by simp [ht]))), hvisit]
  obtain ⟨m, heq, hkeyed, hmem⟩ := hloop device.getSrvMappingTSList (device, ∅)
  refine ⟨m, heq, fun h => ⟨hkeyed h, hmem fun t ht => ?_⟩⟩
  rw [HNMDARecord.getSrvMappingTSList, srvTSList_eq_keys h, Std.ExtTreeMap.mem_keys] at ht
  exact ht

/-- The first half of a helper changes no more than the visited marks. -/
theorem start_device (a : HNManagedDeviceArbiter) (device : HNMDARecord) (op : RestOp) :
    ∃ m, (op.start a device).1 = { device with srvMapDesired := m } ∧
      (Keyed device.srvMapDesired → Keyed m ∧ ∀ t, t ∈ m ↔ t ∈ device.srvMapDesired) := by
  cases op with
  | executeDeviceServicesUpdateMapping =>
    simp only [RestOp.start]
    split <;> exact mappingChanges_device a device
  | _ => exact ⟨device.srvMapDesired, rfl, fun h => ⟨h, fun _ => Iff.rfl⟩⟩

/-- The requests on fixed paths are what their helpers make them. -/
theorem openRequest_eq {device : HNMDARecord} {method : HttpMethod} {path : Str}
    {payload : Payload} {req : HttpRequest}
    (h : openRequest device method path payload = .request req) :
    req.method = method ∧ req.payload = payload := by
  unfold openRequest at h
  split at h
  next => cases h
  next =>
    rw [← RestStart.request.inj h]
    exact ⟨rfl, rfl⟩

/-- So are those to a published URI. -/
theorem publishedRequest_eq {device : HNMDARecord} {srvType pathExt : Str} {method : HttpMethod}
    {payload : Option Payload} {req : HttpRequest}
    (h : publishedRequest device srvType pathExt method payload = .request req) :
    req.method = method ∧ payload = some req.payload := by
  unfold publishedRequest at h
  split at h
  next => cases h
  next => cases h
  next =>
    split at h
    next =>
      rw [← RestStart.request.inj h]
      exact ⟨rfl, rfl⟩
    next => cases h

/-- What the helpers on published URIs send: nothing, or the codes the cache is
without. -/
theorem start_published {a : HNManagedDeviceArbiter} {device : HNMDARecord} {op : RestOp}
    {req : HttpRequest} (hop : op.feedsCache = true)
    (h : (op.start a device).2 = .request req) :
    req.method ≠ .delete ∧ (req.payload = .empty ∨
      ∃ fmtCodes, req.payload = .strRefs device.getCRC32IDStr fmtCodes) := by
  cases op with
  | updateDeviceHealthInfo =>
    obtain ⟨hmethod, hpay⟩ := publishedRequest_eq h
    exact ⟨by rw [hmethod]; exact nofun, .inl (Option.some.inj hpay).symm⟩
  | updateDeviceStringReferences =>
    obtain ⟨hmethod, hpay⟩ := publishedRequest_eq h
    obtain ⟨fmtCodes, -, hcodes⟩ := Option.map_eq_some_iff.mp hpay
    exact ⟨by rw [hmethod]; exact nofun, .inr ⟨fmtCodes, hcodes.symm⟩⟩
  | _ => cases hop

/-- A device that differs in what the info reply tells, and nothing else. -/
def InfoFrame (device device' : HNMDARecord) : Prop :=
  ∃ devType instanceName name devVersion,
    device' = { device with devType, instanceName, name, devVersion }

private theorem InfoFrame.trans {d₁ d₂ d₃ : HNMDARecord} (h : InfoFrame d₁ d₂)
    (h' : InfoFrame d₂ d₃) : InfoFrame d₁ d₃ := by
  obtain ⟨_, _, _, _, rfl⟩ := h
  obtain ⟨t, i, n, v, rfl⟩ := h'
  exact ⟨t, i, n, v, rfl⟩

/-- Both ways out of a computation on the device. -/
private def KeepsFrame (device : HNMDARecord) (x : Except HNMDARecord HNMDARecord) : Prop :=
  ∃ d, (x = .ok d ∨ x = .error d) ∧ InfoFrame device d

private theorem KeepsFrame.bind {device : HNMDARecord} {x : Except HNMDARecord HNMDARecord}
    {f : HNMDARecord → Except HNMDARecord HNMDARecord} (hx : KeepsFrame device x)
    (hf : ∀ d, KeepsFrame d (f d)) : KeepsFrame device (x >>= f) := by
  obtain ⟨d, rfl | rfl, hd⟩ := hx
  · obtain ⟨d', hd', hframe⟩ := hf d
    exact ⟨d', hd', hd.trans hframe⟩
  · exact ⟨d, Or.inr rfl, hd⟩

private theorem keepsFrame_updateInfoField (jsRoot : JsonObject) (key : Str)
    {set : Str → HNMDARecord → HNMDARecord} (hset : ∀ v d, InfoFrame d (set v d))
    (device : HNMDARecord) : KeepsFrame device (updateInfoField jsRoot key set device) := by
  unfold updateInfoField
  split
  next =>
    split
    next => exact ⟨device, Or.inr rfl, _, _, _, _, rfl⟩
    next value _ => exact ⟨set value device, Or.inl rfl, hset value device⟩
  next => exact ⟨device, Or.inl rfl, _, _, _, _, rfl⟩

/-- The info reply: the announced fields, and at most the ownership is lost. -/
theorem applyInfoReply_frame (device : HNMDARecord) (body : Body) :
    ∃ d, InfoFrame device d ∧ ((applyInfoReply device body).1 = d ∨
      (applyInfoReply device body).1 = d.setOwnershipState .unknown) := by
  unfold applyInfoReply
  split
  next jsRoot =>
    have hall : KeepsFrame device (do
        let d ← updateInfoField jsRoot (lit "deviceType") (fun v d => { d with devType := v })
          device
        let d ← updateInfoField jsRoot (lit "instance") (fun v d => { d with instanceName := v }) d
        let d ← updateInfoField jsRoot (lit "name") (fun v d => { d with name := v }) d
        updateInfoField jsRoot (lit "version") (fun v d => { d with devVersion := v }) d) := by
      apply KeepsFrame.bind (keepsFrame_updateInfoField _ _ (fun v d => ⟨v, _, _, _, rfl⟩) _)
      intro d
      apply KeepsFrame.bind (keepsFrame_updateInfoField _ _ (fun v d => ⟨_, v, _, _, rfl⟩) _)
      intro d
      apply KeepsFrame.bind (keepsFrame_updateInfoField _ _ (fun v d => ⟨_, _, v, _, rfl⟩) _)
      intro d
      exact keepsFrame_updateInfoField _ _ (fun v d => ⟨_, _, _, v, rfl⟩) _
    obtain ⟨d, heq | heq, hframe⟩ := hall
    · exact ⟨d, hframe, Or.inl (by simp only [heq])⟩
    · exact ⟨d, hframe, Or.inr (by simp only [heq])⟩
  next => exact ⟨device, ⟨_, _, _, _, rfl⟩, Or.inr rfl⟩

/-- The owner reply: the ownership and the owner. -/
theorem applyOwnerReply_frame (selfCRC32ID : UInt32) (device : HNMDARecord) (body : Body) :
    ∃ ownerHNodeID ownerState, (applyOwnerReply selfCRC32ID device body).1 =
      { device with ownerHNodeID, ownerState } := by
  unfold applyOwnerReply
  split
  next => exact ⟨_, _, rfl⟩
  next =>
    split
    next => split <;> exact ⟨_, _, rfl⟩
    next => split <;> exact ⟨_, _, rfl⟩

/-- The device as an OK reply leaves it. -/
def RestOp.deviceAfter (a : HNManagedDeviceArbiter) (device : HNMDARecord) (body : Body) :
    RestOp → HNMDARecord
  | .updateDeviceOperationalInfo => (applyInfoReply device body).1
  | .updateDeviceOwnerInfo => (applyOwnerReply a.getSelfCRC32ID device body).1
  | .updateDeviceServicesProvideInfo =>
    { device with srvMapProvided := (applyServicesReply device.srvMapProvided body).1 }
  | .updateDeviceServicesMappingInfo =>
    { device with srvMapDesired := (applyServicesReply device.srvMapDesired body).1 }
  | _ => device

/-- What no reply changes, and which helper's reply changes the rest. -/
structure ReplyFrame (op : RestOp) (device device' : HNMDARecord) : Prop where
  mgmtState : device'.mgmtState = device.mgmtState
  mgmtCmd : device'.mgmtCmd = device.mgmtCmd
  hnodeID : device'.hnodeID = device.hnodeID
  addrList : device'.addrList = device.addrList
  ownerState : op ≠ .updateDeviceOwnerInfo → device'.ownerState = device.ownerState ∨
    (op = .updateDeviceOperationalInfo ∧ device'.ownerState = .unknown)
  provided : op ≠ .updateDeviceServicesProvideInfo →
    device'.srvMapProvided = device.srvMapProvided
  desired : op ≠ .updateDeviceServicesMappingInfo → device'.srvMapDesired = device.srvMapDesired

theorem replyFrame_refl (op : RestOp) (device : HNMDARecord) : ReplyFrame op device device :=
  ⟨rfl, rfl, rfl, rfl, fun _ => Or.inl rfl, fun _ => rfl, fun _ => rfl⟩

theorem deviceAfter_frame (a : HNManagedDeviceArbiter) (device : HNMDARecord) (body : Body)
    (op : RestOp) : ReplyFrame op device (op.deviceAfter a device body) := by
  cases op with
  | updateDeviceOperationalInfo =>
    obtain ⟨d, ⟨_, _, _, _, rfl⟩, heq | heq⟩ := applyInfoReply_frame device body
    · rw [RestOp.deviceAfter, heq]
      exact ⟨rfl, rfl, rfl, rfl, fun _ => Or.inl rfl, fun _ => rfl, fun _ => rfl⟩
    · rw [RestOp.deviceAfter, heq]
      exact ⟨rfl, rfl, rfl, rfl, fun _ => Or.inr ⟨rfl, rfl⟩, fun _ => rfl, fun _ => rfl⟩
  | updateDeviceOwnerInfo =>
    obtain ⟨ow, os, heq⟩ := applyOwnerReply_frame a.getSelfCRC32ID device body
    rw [RestOp.deviceAfter, heq]
    exact ⟨rfl, rfl, rfl, rfl, fun hne => absurd rfl hne, fun _ => rfl, fun _ => rfl⟩
  | updateDeviceServicesProvideInfo =>
    exact ⟨rfl, rfl, rfl, rfl, fun _ => Or.inl rfl, fun hne => absurd rfl hne, fun _ => rfl⟩
  | updateDeviceServicesMappingInfo =>
    exact ⟨rfl, rfl, rfl, rfl, fun _ => Or.inl rfl, fun _ => rfl, fun hne => absurd rfl hne⟩
  | _ => exact replyFrame_refl _ device

theorem stores_storeProvided (a : HNManagedDeviceArbiter) (id : Str) (device : HNMDARecord)
    (body : Body) :
    Stores a (storeProvided a id device body).1 id
      { device with srvMapProvided := (applyServicesReply device.srvMapProvided body).1 } := by
  simp only [storeProvided]
  cases (applyServicesReply device.srvMapProvided body).2 with
  | none => exact stores_setDevice a id _
  | some changed => cases changed <;> exact stores_setDevice a id _

theorem stores_storeDesired (a : HNManagedDeviceArbiter) (id : Str) (device : HNMDARecord)
    (body : Body) :
    Stores a (storeDesired a id device body).1 id
      { device with srvMapDesired := (applyServicesReply device.srvMapDesired body).1 } := by
  simp only [storeDesired]
  cases (applyServicesReply device.srvMapDesired body).2 with
  | none => exact stores_setDevice a id _
  | some changed => cases changed <;> exact stores_setDevice a id _

/-- The device as the session leaves it: changed by an OK reply only. -/
def RestOp.deviceGiven (a : HNManagedDeviceArbiter) (device : HNMDARecord) (o : RestOutcome)
    (op : RestOp) : HNMDARecord :=
  match o.receive with
  | .ok body => op.deviceAfter a device body
  | _ => device

theorem deviceGiven_ok {a : HNManagedDeviceArbiter} {device : HNMDARecord} {o : RestOutcome}
    {op : RestOp} {body : Body} (h : o.receive = .ok body) :
    op.deviceGiven a device o = op.deviceAfter a device body := by
  simp only [RestOp.deviceGiven, h]

theorem deviceGiven_not_ok {a : HNManagedDeviceArbiter} {device : HNMDARecord} {o : RestOutcome}
    {op : RestOp} (h : ∀ body, o.receive ≠ .ok body) : op.deviceGiven a device o = device := by
  unfold RestOp.deviceGiven
  split
  next body hok => exact absurd hok (h body)
  next => rfl

theorem deviceGiven_frame (a : HNManagedDeviceArbiter) (device : HNMDARecord) (o : RestOutcome)
    (op : RestOp) : ReplyFrame op device (op.deviceGiven a device o) := by
  unfold RestOp.deviceGiven
  split
  next body _ => exact deviceAfter_frame a device body op
  next => exact replyFrame_refl op device

/-- The arbiter as an OK reply leaves it. -/
def RestOp.arbiterAfter (a : HNManagedDeviceArbiter) (id : Str) (device : HNMDARecord)
    (body : Body) : RestOp → HNManagedDeviceArbiter
  | .updateDeviceOperationalInfo => a.setDevice id (applyInfoReply device body).1
  | .updateDeviceOwnerInfo =>
    a.setDevice id (applyOwnerReply a.getSelfCRC32ID device body).1
  | .updateDeviceServicesProvideInfo => (storeProvided a id device body).1
  | .updateDeviceServicesMappingInfo => (storeDesired a id device body).1
  | .updateDeviceHealthInfo =>
    { a with caches := (Platform.updateDeviceHealth a.caches device.getCRC32ID body).1 }
  | .updateDeviceStringReferences =>
    { a with
        caches := (Platform.updateStringDefinitions a.caches device.getCRC32IDStr body).1 }
  | _ => a

/-- A helper that returns has left the arbiter alone, or stored an OK reply. -/
theorem finish_cases {a a' : HNManagedDeviceArbiter} {id : Str} {device : HNMDARecord}
    {o : RestOutcome} {op : RestOp} {result : HNMDLResult}
    (h : op.finish a id device o = some (a', result)) :
    (a' = a ∧ ∀ body, o.receive = .ok body → op.arbiterAfter a id device body = a) ∨
      ∃ body, o.receive = .ok body ∧ a' = op.arbiterAfter a id device body := by
  have hack : ∀ received, acknowledged a received = some (a', result) → a' = a := by
    intro received hr
    cases received with
    | raised => cases hr
    | failed => exact ((Prod.mk.inj (Option.some.inj hr)).1).symm
    | ok body => exact ((Prod.mk.inj (Option.some.inj hr)).1).symm
  have hstore : ∀ (received : Received) (apply : Body → HNManagedDeviceArbiter × HNMDLResult),
      (received ≠ .raised → o.receive = received) →
      store a received apply = some (a', result) →
      (a' = a ∧ ∀ body, o.receive ≠ .ok body) ∨
        ∃ body, o.receive = .ok body ∧ a' = (apply body).1 := by
    intro received apply hsees hr
    cases received with
    | raised => cases hr
    | failed =>
      refine Or.inl ⟨((Prod.mk.inj (Option.some.inj hr)).1).symm, ?_⟩
      rw [hsees nofun]
      exact nofun
    | ok body =>
      refine Or.inr ⟨body, hsees nofun, ?_⟩
      rw [show apply body = (a', result) from Option.some.inj hr]
  cases op with
  | sendDeviceClaimRequest => exact Or.inl ⟨hack _ h, fun _ _ => rfl⟩
  | sendDeviceReleaseRequest => exact Or.inl ⟨hack _ h, fun _ _ => rfl⟩
  | sendDeviceSetParameters => exact Or.inl ⟨hack _ h, fun _ _ => rfl⟩
  | executeDeviceServicesUpdateMapping => exact Or.inl ⟨hack _ h, fun _ _ => rfl⟩
  | updateDeviceHealthInfo | updateDeviceStringReferences =>
    rcases hstore _ _ receive_of_receiveCached h with ⟨heq, hnot⟩ | hok
    · exact Or.inl ⟨heq, fun body hok => absurd hok (hnot body)⟩
    · exact Or.inr hok
  | _ =>
    rcases hstore _ _ (fun _ => rfl) h with ⟨heq, hnot⟩ | hok
    · exact Or.inl ⟨heq, fun body hok => absurd hok (hnot body)⟩
    · exact Or.inr hok

/-- An OK reply rewrites the record it is about, and no default. -/
theorem stores_arbiterAfter {a : HNManagedDeviceArbiter} {id : Str} {device : HNMDARecord}
    (hget : a.deviceMap[id]? = some device) (body : Body) (op : RestOp) :
    Stores a (op.arbiterAfter a id device body) id (op.deviceAfter a device body) ∧
      (op.arbiterAfter a id device body).mgmtDevice = a.mgmtDevice ∧
      (op.arbiterAfter a id device body).defaultMappings = a.defaultMappings := by
  cases op with
  | updateDeviceOperationalInfo => exact ⟨stores_setDevice a id _, rfl, rfl⟩
  | updateDeviceOwnerInfo => exact ⟨stores_setDevice a id _, rfl, rfl⟩
  | updateDeviceServicesProvideInfo =>
    refine ⟨stores_storeProvided a id device body, ?_, ?_⟩ <;>
    · simp only [RestOp.arbiterAfter, storeProvided]
      cases (applyServicesReply device.srvMapProvided body).2 with
      | none => rfl
      | some changed => cases changed <;> rfl
  | updateDeviceServicesMappingInfo =>
    refine ⟨stores_storeDesired a id device body, ?_, ?_⟩ <;>
    · simp only [RestOp.arbiterAfter, storeDesired]
      cases (applyServicesReply device.srvMapDesired body).2 with
      | none => rfl
      | some changed => cases changed <;> rfl
  | _ => exact ⟨stores_refl hget, rfl, rfl⟩

/-- **The second half of a helper** leaves the device as it is, or as its OK
reply makes it; no other record changes, nor do the defaults. -/
theorem finish_stores {a a' : HNManagedDeviceArbiter} {id : Str} {device : HNMDARecord}
    {o : RestOutcome} {op : RestOp} {result : HNMDLResult}
    (hget : a.deviceMap[id]? = some device)
    (h : op.finish a id device o = some (a', result)) :
    Stores a a' id (op.deviceGiven a device o) ∧
      a'.mgmtDevice = a.mgmtDevice ∧ a'.defaultMappings = a.defaultMappings := by
  rcases finish_cases h with ⟨heq, hsame⟩ | ⟨body, hok, heq⟩
  · rw [heq]
    refine ⟨?_, rfl, rfl⟩
    cases hrec : o.receive with
    | ok body =>
      have hstores := (stores_arbiterAfter hget body op).1
      rw [hsame body hrec] at hstores
      rw [deviceGiven_ok hrec]
      exact hstores
    | _ =>
      rw [deviceGiven_not_ok (by rw [hrec]; exact nofun)]
      exact stores_refl hget
  · rw [heq, deviceGiven_ok hok]
    exact stores_arbiterAfter hget body op

/-- A helper without a cache raises only when the session does. -/
theorem finish_raised {a : HNManagedDeviceArbiter} {id : Str} {device : HNMDARecord}
    {o : RestOutcome} {op : RestOp} (hop : op.feedsCache = false)
    (h : op.finish a id device o = none) : o.receive = .raised := by
  have hstore : ∀ received apply, store a received apply = none → received = .raised := by
    intro received apply hr
    cases received with
    | raised => rfl
    | failed => cases hr
    | ok body => cases hr
  have hack : ∀ received, acknowledged a received = none → received = .raised := by
    intro received hr
    cases received with
    | raised => rfl
    | failed => cases hr
    | ok body => cases hr
  cases op with
  | sendDeviceClaimRequest => exact receive_of_receiveRendered (hack _ h)
  | executeDeviceServicesUpdateMapping => exact receive_of_receiveRendered (hack _ h)
  | sendDeviceReleaseRequest => exact hack _ h
  | sendDeviceSetParameters => exact hack _ h
  | updateDeviceHealthInfo | updateDeviceStringReferences => cases hop
  | _ => exact hstore _ _ h

/-- A helper that raises leaves the device as it is. -/
theorem deviceGiven_raised {a a' : HNManagedDeviceArbiter} {id : Str} {device : HNMDARecord}
    {o : RestOutcome} {op : RestOp} (h : op.finish a id device o = none) :
    op.deviceGiven a' device o = device := by
  cases hop : op.feedsCache with
  | true =>
    unfold RestOp.deviceGiven
    split
    next => cases op <;> first | rfl | cases hop
    next => rfl
  | false => exact deviceGiven_not_ok (by rw [finish_raised hop h]; exact nofun)

/-! ## §4. The steps of the system. -/

/-- What a step can do.  `add` to `startCmd` are the main thread's calls, the
others move the monitor. -/
inductive Took (s : Sys) : Label → Sys → List Event → Prop
  | add (event : DiscoverEvent) :
      Took s (.notifyDiscoverAdd event)
        { s with arbiter := s.arbiter.notifyDiscoverAdd event.toRecord } []
  | remove (event : DiscoverEvent) :
      Took s (.notifyDiscoverRemove event)
        { s with arbiter := s.arbiter.notifyDiscoverRemove event.toRecord } []
  | setCmd (id : Str) (body : Body) :
      Took s (.setDeviceMgmtCmdFromJSON id body)
        { s with arbiter := (s.arbiter.setDeviceMgmtCmdFromJSON id body).1 } []
  | startCmd (id : Str) :
      Took s (.startDeviceMgmtCmd id)
        { s with arbiter := (s.arbiter.startDeviceMgmtCmd id).1 } []
  | wakeup (phase : MonitorPhase) (hphase : s.monitor = .idle)
      (hnext : phase = .idle ∨ ∃ id, phase = .atDevice id) :
      Took s .wakeup
        { arbiter := { s.arbiter with monitorWaitTime := 10 }, monitor := phase } []
  | skip (id : Str) (device : HNMDARecord) (hphase : s.monitor = .atDevice id)
      (hget : s.arbiter.deviceMap[id]? = some device) (hidle : idleState device.mgmtState = true) :
      Took s .readState { s with monitor := advance s.arbiter id } []
  | read (id : Str) (device : HNMDARecord) (hphase : s.monitor = .atDevice id)
      (hget : s.arbiter.deviceMap[id]? = some device)
      (hbusy : idleState device.mgmtState = false) :
      Took s .readState { s with monitor := .acting id device.mgmtState } []
  | actAlone (id : Str) (st : MgmtState) (device : HNMDARecord)
      (hphase : s.monitor = .acting id st) (hget : s.arbiter.deviceMap[id]? = some device)
      (hop : caseOp st device.mgmtCmd.cmdType = none) :
      Took s .act
        { arbiter := s.arbiter.setDevice id (caseOwnership st device)
          monitor := .writing id st (nextState
            (s.arbiter.setDevice id (caseOwnership st device)) (caseOwnership st device)
            st .failure) }
        (passedEvent id st device)
  | actFinished (id : Str) (st : MgmtState) (device : HNMDARecord) (op : RestOp)
      (result : HNMDLResult) (hphase : s.monitor = .acting id st)
      (hget : s.arbiter.deviceMap[id]? = some device)
      (hop : caseOp st device.mgmtCmd.cmdType = some op)
      (hstart : (op.start s.arbiter device).2 = .finished result) :
      Took s .act
        { arbiter := s.arbiter.setDevice id (op.start s.arbiter device).1
          monitor := .writing id st (nextState
            (s.arbiter.setDevice id (op.start s.arbiter device).1) (op.start s.arbiter device).1
            st result) }
        (passedEvent id st device)
  | actRequest (id : Str) (st : MgmtState) (device : HNMDARecord) (op : RestOp)
      (req : HttpRequest) (hphase : s.monitor = .acting id st)
      (hget : s.arbiter.deviceMap[id]? = some device)
      (hop : caseOp st device.mgmtCmd.cmdType = some op)
      (hstart : (op.start s.arbiter device).2 = .request req) :
      Took s .act
        { arbiter := s.arbiter.setDevice id (op.start s.arbiter device).1
          monitor := .waiting id st op }
        (passedEvent id st device ++ [.request id req])
  | actRaised (id : Str) (st : MgmtState) (device : HNMDARecord) (op : RestOp)
      (hphase : s.monitor = .acting id st) (hget : s.arbiter.deviceMap[id]? = some device)
      (hop : caseOp st device.mgmtCmd.cmdType = some op)
      (hstart : (op.start s.arbiter device).2 = .raised) :
      Took s .act
        { arbiter := s.arbiter.setDevice id (op.start s.arbiter device).1, monitor := .dead }
        (passedEvent id st device)
  | replyRaised (id : Str) (st : MgmtState) (op : RestOp) (device : HNMDARecord)
      (o : RestOutcome) (hphase : s.monitor = .waiting id st op)
      (hget : s.arbiter.deviceMap[id]? = some device)
      (hfinish : op.finish s.arbiter id device o = none) :
      Took s (.reply o) { s with monitor := .dead } (replyEvents id device op o)
  | replyDone (id : Str) (st : MgmtState) (op : RestOp) (device : HNMDARecord)
      (o : RestOutcome) (a' : HNManagedDeviceArbiter) (result : HNMDLResult)
      (hphase : s.monitor = .waiting id st op)
      (hget : s.arbiter.deviceMap[id]? = some device)
      (hfinish : op.finish s.arbiter id device o = some (a', result))
      (hstores : Stores s.arbiter a' id (op.deviceGiven s.arbiter device o)) :
      Took s (.reply o)
        { arbiter := a'
          monitor := .writing id st
            (nextState a' (op.deviceGiven s.arbiter device o) st result) }
        (replyEvents id device op o)
  | write (id : Str) (st : MgmtState) (next : MgmtState × Nat) (device : HNMDARecord)
      (hphase : s.monitor = .writing id st next)
      (hget : s.arbiter.deviceMap[id]? = some device) :
      Took s .writeState
        { arbiter := s.arbiter.setNextMonitorState id device next.1 next.2
          monitor := advance s.arbiter id } []

/-- The end of a case, once the record it works for is known. -/
theorem caseDone_eq {a : HNManagedDeviceArbiter} {id : Str} {device : HNMDARecord}
    (hget : a.deviceMap[id]? = some device) (st : MgmtState) (result : HNMDLResult) :
    caseDone a id st result =
      { arbiter := a, monitor := .writing id st (nextState a device st result) } := by
  simp only [caseDone, hget]

private theorem took_of_act {s : Sys} {id : Str} {st : MgmtState} {device : HNMDARecord}
    (hphase : s.monitor = .acting id st) (hget : s.arbiter.deviceMap[id]? = some device) :
    Took s .act (actStep s.arbiter id st device).1 (actStep s.arbiter id st device).2 := by
  unfold actStep
  cases hop : caseOp st device.mgmtCmd.cmdType with
  | none =>
    simp only
    rw [caseDone_eq (stores_setDevice s.arbiter id _).get]
    exact Took.actAlone id st device hphase hget hop
  | some op =>
    simp only
    cases hstart : (op.start s.arbiter device).2 with
    | finished result =>
      simp only
      rw [caseDone_eq (stores_setDevice s.arbiter id _).get]
      exact Took.actFinished id st device op result hphase hget hop hstart
    | request req => exact Took.actRequest id st device op req hphase hget hop hstart
    | raised => exact Took.actRaised id st device op hphase hget hop hstart

private theorem took_of_reply {s : Sys} {id : Str} {st : MgmtState} {op : RestOp}
    {device : HNMDARecord} (o : RestOutcome) (hphase : s.monitor = .waiting id st op)
    (hget : s.arbiter.deviceMap[id]? = some device) :
    Took s (.reply o) (replyStep s.arbiter id st op device o).1
      (replyStep s.arbiter id st op device o).2 := by
  unfold replyStep
  cases hfinish : op.finish s.arbiter id device o with
  | none =>
    simp only
    exact Took.replyRaised id st op device o hphase hget hfinish
  | some r =>
    obtain ⟨a', result⟩ := r
    obtain ⟨hstores, -, -⟩ := finish_stores hget hfinish
    simp only
    rw [caseDone_eq hstores.get]
    exact Took.replyDone id st op device o a' result hphase hget hfinish hstores

/-- **Every step is one of these.** -/
theorem took_of_step {s s' : Sys} {l : Label} {es : List Event}
    (h : system.step s l = some (s', es)) : Took s l s' es := by
  have hstep : s.step l = some (s', es) := h
  cases l with
  | notifyDiscoverAdd event =>
    obtain ⟨rfl, rfl⟩ := Prod.mk.inj (Option.some.inj hstep)
    exact Took.add event
  | notifyDiscoverRemove event =>
    obtain ⟨rfl, rfl⟩ := Prod.mk.inj (Option.some.inj hstep)
    exact Took.remove event
  | setDeviceMgmtCmdFromJSON id body =>
    obtain ⟨rfl, rfl⟩ := Prod.mk.inj (Option.some.inj hstep)
    exact Took.setCmd id body
  | startDeviceMgmtCmd id =>
    obtain ⟨rfl, rfl⟩ := Prod.mk.inj (Option.some.inj hstep)
    exact Took.startCmd id
  | wakeup =>
    simp only [Sys.step] at hstep
    split at hstep
    next hphase =>
      obtain ⟨rfl, rfl⟩ := Prod.mk.inj (Option.some.inj hstep)
      apply Took.wakeup _ hphase
      cases s.arbiter.deviceMap.keys.head? with
      | none => exact Or.inl rfl
      | some first => exact Or.inr ⟨first, rfl⟩
    next => cases hstep
  | readState =>
    simp only [Sys.step] at hstep
    split at hstep
    next id hphase =>
      obtain ⟨device, hget, heq⟩ := Option.map_eq_some_iff.mp hstep
      obtain ⟨rfl, rfl⟩ := Prod.mk.inj heq
      cases hidle : idleState device.mgmtState with
      | true => exact Took.skip id device hphase hget hidle
      | false => exact Took.read id device hphase hget hidle
    next => cases hstep
  | act =>
    simp only [Sys.step] at hstep
    split at hstep
    next id st hphase =>
      obtain ⟨device, hget, heq⟩ := Option.map_eq_some_iff.mp hstep
      have htook := took_of_act hphase hget
      rw [heq] at htook
      exact htook
    next => cases hstep
  | reply o =>
    simp only [Sys.step] at hstep
    split at hstep
    next id st op hphase =>
      obtain ⟨device, hget, heq⟩ := Option.map_eq_some_iff.mp hstep
      have htook := took_of_reply o hphase hget
      rw [heq] at htook
      exact htook
    next => cases hstep
  | writeState =>
    simp only [Sys.step] at hstep
    split at hstep
    next id st next hphase =>
      obtain ⟨device, hget, heq⟩ := Option.map_eq_some_iff.mp hstep
      obtain ⟨rfl, rfl⟩ := Prod.mk.inj heq
      exact Took.write id st next device hphase hget
    next => cases hstep

/-- The call of `executeDeviceMgmtCmd` is no request. -/
theorem request_not_mem_passedEvent (id : Str) (st : MgmtState) (device : HNMDARecord) (key : Str)
    (req : HttpRequest) : Event.request key req ∉ passedEvent id st device := by
  unfold passedEvent
  split <;> simp

/-- Nor is what is seen of a reply. -/
theorem request_not_mem_replyEvents (id : Str) (device : HNMDARecord) (op : RestOp)
    (o : RestOutcome) (key : Str) (req : HttpRequest) :
    Event.request key req ∉ replyEvents id device op o := by
  unfold replyEvents
  split
  next => simp
  next => split <;> simp
  next => simp

/-- The walk moves on to a device, or ends. -/
theorem advance_cases (a : HNManagedDeviceArbiter) (id : Str) :
    advance a id = .idle ∨ ∃ id', advance a id = .atDevice id' := by
  unfold advance
  cases OrdMap.next? a.deviceMap id with
  | none => exact Or.inl rfl
  | some id' => exact Or.inr ⟨id', rfl⟩

end HNodeMgmt.Arbiter
