/-
  HNodeMgmt.Arbiter.Contact — what a turn makes of its REST call.

  The helpers differ in what they read of a reply and in which part of the
  exchange stands in a `try` block.  Here each is reduced to its RESULT, and a
  turn to the state it writes, the record it leaves and what becomes of the
  provider index.

  Main results:
    * `visit_dead_iff` — exactly when an exception ends a turn.
    * `visit_offline_iff` — a contact that fails leaves the device OFFLINE in
      five of the eight states with a REST call, and in no other.
    * `visit_mapUpdate` — the mapping update depends on the other records
      through two bits: whether a PUT is due, and what the index says.
    * `visit_index` — a turn leaves the provider index alone or rebuilds it.
-/
import Mathlib.Tactic.Common
import HNodeMgmt.Arbiter.Pass

namespace HNodeMgmt.Arbiter

open Lib

section Contact

variable [Platform]

/-! ## §1. What a helper and its case come to. -/

/-- What the helper sees of the session: two of them give up where the body
they send does not render, and two let the exceptions of a cache pass. -/
def RestOp.received (o : RestOutcome) : RestOp → Received
  | .sendDeviceClaimRequest | .executeDeviceServicesUpdateMapping => o.receiveRendered
  | .updateDeviceHealthInfo | .updateDeviceStringReferences => o.receiveCached
  | _ => o.receive

/-- Whether the body of an OK reply parses, for the helpers that read one. -/
def RestOp.understands (selfCRC32ID : UInt32) (device : HNMDARecord) (body : Body) :
    RestOp → Bool
  | .updateDeviceOperationalInfo => (applyInfoReply device body).2 == .success
  | .updateDeviceOwnerInfo => (applyOwnerReply selfCRC32ID device body).2 == .success
  | .updateDeviceServicesProvideInfo => (applyServicesReply device.srvMapProvided body).2.isSome
  | .updateDeviceServicesMappingInfo => (applyServicesReply device.srvMapDesired body).2.isSome
  | .updateDeviceHealthInfo | .updateDeviceStringReferences => body.isSome
  | _ => true

/-- The result of a helper, `none` for an exception. -/
def RestOp.resultOf (selfCRC32ID : UInt32) (device : HNMDARecord) (o : RestOutcome)
    (op : RestOp) : Option HNMDLResult :=
  match op.received o with
  | .raised => none
  | .failed => some .failure
  | .ok body =>
    some (if op.feedsCache || op.understands selfCRC32ID device body then .success else .failure)

omit [Platform] in
private theorem result_of_beq {r : HNMDLResult} :
    r = if (r == .success) = true then .success else .failure := by
  cases r <;> rfl

private theorem storeProvided_result (a : HNManagedDeviceArbiter) (id : Str)
    (device : HNMDARecord) (body : Body) :
    (storeProvided a id device body).2 =
      if (applyServicesReply device.srvMapProvided body).2.isSome = true then .success
      else .failure := by
  simp only [storeProvided]
  cases (applyServicesReply device.srvMapProvided body).2 with
  | none => rfl
  | some changed => cases changed <;> rfl

private theorem storeDesired_result (a : HNManagedDeviceArbiter) (id : Str)
    (device : HNMDARecord) (body : Body) :
    (storeDesired a id device body).2 =
      if (applyServicesReply device.srvMapDesired body).2.isSome = true then .success
      else .failure := by
  simp only [storeDesired]
  cases (applyServicesReply device.srvMapDesired body).2 with
  | none => rfl
  | some changed => cases changed <;> rfl

/-- The second half of each helper has that result. -/
theorem finish_result (a : HNManagedDeviceArbiter) (id : Str) (device : HNMDARecord)
    (o : RestOutcome) (op : RestOp) :
    (op.finish a id device o).map Prod.snd = op.resultOf a.getSelfCRC32ID device o := by
  unfold RestOp.resultOf
  cases op with
  | sendDeviceClaimRequest | executeDeviceServicesUpdateMapping =>
    simp only [RestOp.finish, RestOp.received, RestOp.understands, Bool.or_true, if_true]
    cases o.receiveRendered <;> rfl
  | sendDeviceReleaseRequest | sendDeviceSetParameters =>
    simp only [RestOp.finish, RestOp.received, RestOp.understands, Bool.or_true, if_true]
    cases o.receive <;> rfl
  | updateDeviceOperationalInfo | updateDeviceOwnerInfo =>
    simp only [RestOp.finish, RestOp.received, RestOp.feedsCache, RestOp.understands,
      Bool.false_or]
    cases o.receive with
    | raised => rfl
    | failed => rfl
    | ok body => exact congrArg some result_of_beq
  | updateDeviceServicesProvideInfo =>
    simp only [RestOp.finish, RestOp.received, RestOp.feedsCache, RestOp.understands,
      Bool.false_or]
    cases o.receive with
    | raised => rfl
    | failed => rfl
    | ok body => exact congrArg some (storeProvided_result a id device body)
  | updateDeviceServicesMappingInfo =>
    simp only [RestOp.finish, RestOp.received, RestOp.feedsCache, RestOp.understands,
      Bool.false_or]
    cases o.receive with
    | raised => rfl
    | failed => rfl
    | ok body => exact congrArg some (storeDesired_result a id device body)
  | updateDeviceHealthInfo | updateDeviceStringReferences =>
    simp only [RestOp.finish, RestOp.received, RestOp.feedsCache, Bool.true_or, if_true]
    cases o.receiveCached <;> rfl

/-- The result of a case. -/
theorem runCase_result (o : RestOutcome) (a : HNManagedDeviceArbiter) (id : Str)
    (device : HNMDARecord) :
    (runCase o a id device).result =
      match caseOp device.mgmtState device.mgmtCmd.cmdType with
      | none => some .failure
      | some op =>
        match (op.start a device).2 with
        | .finished result => some result
        | .raised => none
        | .request _ => op.resultOf a.getSelfCRC32ID (op.start a device).1 o := by
  unfold runCase
  cases caseOp device.mgmtState device.mgmtCmd.cmdType with
  | none => rfl
  | some op =>
    simp only
    cases (op.start a device).2 with
    | finished result => rfl
    | raised => rfl
    | request req =>
      simp only
      have hresult := finish_result (a.setDevice id (op.start a device).1) id
        (op.start a device).1 o op
      rw [show a.getSelfCRC32ID = (a.setDevice id (op.start a device).1).getSelfCRC32ID from rfl,
        ← hresult]
      cases op.finish (a.setDevice id (op.start a device).1) id (op.start a device).1 o <;> rfl

/-- A reply is applied by the same rule in arbiters with the same manager. -/
theorem deviceGiven_congr {a a' : HNManagedDeviceArbiter} (hmgmt : a'.mgmtDevice = a.mgmtDevice)
    (device : HNMDARecord) (o : RestOutcome) (op : RestOp) :
    op.deviceGiven a' device o = op.deviceGiven a device o := by
  have hself : a'.getSelfCRC32ID = a.getSelfCRC32ID := by
    unfold HNManagedDeviceArbiter.getSelfCRC32ID
    rw [hmgmt]
  unfold RestOp.deviceGiven
  cases o.receive with
  | ok body =>
    cases op with
    | updateDeviceOwnerInfo =>
      show (applyOwnerReply a'.getSelfCRC32ID device body).1 = _
      rw [hself]
      rfl
    | _ => rfl
  | _ => rfl

/-- The device a case leaves. -/
theorem runCase_device (o : RestOutcome) (a : HNManagedDeviceArbiter) (id : Str)
    (device : HNMDARecord) :
    (runCase o a id device).device =
      match caseOp device.mgmtState device.mgmtCmd.cmdType with
      | none => caseOwnership device.mgmtState device
      | some op =>
        match (op.start a device).2 with
        | .request _ => op.deviceGiven a (op.start a device).1 o
        | _ => (op.start a device).1 := by
  unfold runCase
  cases caseOp device.mgmtState device.mgmtCmd.cmdType with
  | none => rfl
  | some op =>
    simp only
    cases (op.start a device).2 with
    | finished result => rfl
    | raised => rfl
    | request req =>
      simp only
      cases hfinish : op.finish (a.setDevice id (op.start a device).1) id
          (op.start a device).1 o with
      | none => exact (deviceGiven_raised hfinish).symm
      | some r => exact deviceGiven_congr rfl _ _ _

/-- The helpers that do not read the provided services keep the index. -/
theorem finish_providerMap {a a' : HNManagedDeviceArbiter} {id : Str} {device : HNMDARecord}
    {op : RestOp} {result : HNMDLResult} (hop : op ≠ .updateDeviceServicesProvideInfo)
    (h : op.finish a id device o = some (a', result)) : a'.providerMap = a.providerMap := by
  rcases finish_cases h with ⟨heq, -⟩ | ⟨body, -, heq⟩
  · rw [heq]
  · rw [heq]
    cases op with
    | updateDeviceServicesProvideInfo => exact absurd rfl hop
    | updateDeviceServicesMappingInfo =>
      simp only [RestOp.arbiterAfter, storeDesired]
      cases (applyServicesReply device.srvMapDesired body).2 with
      | none => rfl
      | some changed => cases changed <;> rfl
    | _ => rfl

/-! ## §2. Contacts that fail, and turns that raise. -/

/-- The helper whose request goes out in a turn, if one does. -/
def Turn.contacts (t : Turn) : Option RestOp :=
  match caseOp t.device.mgmtState t.device.mgmtCmd.cmdType with
  | none => none
  | some op =>
    match (op.start t.arbiter t.device).2 with
    | .request _ => some op
    | _ => none

/-- The contact with the device fails: there is one, and it does not end in a
reply with status OK that the helper can read. -/
def Turn.fails (t : Turn) (o : RestOutcome) : Bool :=
  match t.contacts with
  | none => false
  | some op =>
    match op.received o with
    | .ok body => !op.understands t.arbiter.getSelfCRC32ID t.device body
    | _ => true

/-- An exception leaves the turn: the session raises it, or the cache that is given
an OK reply; or, of a published URI that parses, `setPath`, the second parse of its
text, or the list of the codes to ask for. -/
def Turn.raises (t : Turn) (o : RestOutcome) : Bool :=
  match caseOp t.device.mgmtState t.device.mgmtCmd.cmdType with
  | none => false
  | some op =>
    match (op.start t.arbiter t.device).2 with
    | .finished _ => false
    | .raised => true
    | .request _ =>
      match op.received o with
      | .raised => true
      | _ => false

/-- The turn is a turn: its device is the one stored under its key. -/
def Turn.WellFormed (t : Turn) : Prop := t.arbiter.deviceMap[t.crc32ID]? = some t.device

/-- The arbiter and the monitor after the turn. -/
def Turn.after (t : Turn) (o : RestOutcome) : Sys := visit o t.arbiter t.crc32ID

variable {t : Turn} {o : RestOutcome}

omit [Platform] in
theorem caseOp_of_idle {st : MgmtState} (h : idleState st = true) (cmdType : CmdType) :
    caseOp st cmdType = none := by
  cases st <;> first | rfl | cases h

theorem resultOf_eq_none {selfCRC32ID : UInt32} {device : HNMDARecord} {op : RestOp} :
    op.resultOf selfCRC32ID device o = none ↔ op.received o = .raised := by
  unfold RestOp.resultOf
  cases op.received o <;> simp

theorem Turn.raises_iff : t.raises o = true ↔
    (runCase o t.arbiter t.crc32ID t.device).result = none := by
  rw [runCase_result]
  unfold Turn.raises
  cases caseOp t.device.mgmtState t.device.mgmtCmd.cmdType with
  | none => simp
  | some op =>
    simp only
    cases (op.start t.arbiter t.device).2 with
    | finished result => simp
    | raised => simp
    | request req =>
      simp only
      rw [resultOf_eq_none]
      cases op.received o <;> simp

/-- The monitor does not die between turns. -/
theorem advance_ne_dead (a : HNManagedDeviceArbiter) (id : Str) : advance a id ≠ .dead := by
  rcases advance_cases a id with h | ⟨_, h⟩ <;> rw [h] <;> nofun

/-- **An exception ends the turn** exactly when `raises` says so. -/
theorem visit_dead_iff (ht : t.WellFormed) :
    (t.after o).monitor = .dead ↔ t.raises o = true := by
  unfold Turn.after
  cases hidle : idleState t.device.mgmtState with
  | true =>
    rw [visit_idle ht hidle]
    unfold Turn.raises
    rw [caseOp_of_idle hidle]
    exact iff_of_false (advance_ne_dead _ _) Bool.false_ne_true
  | false =>
    rw [visit_case ht hidle, Turn.raises_iff]
    unfold CaseRun.written
    cases (runCase o t.arbiter t.crc32ID t.device).result with
    | none => exact iff_of_true rfl rfl
    | some result => exact iff_of_false (advance_ne_dead _ _) nofun

/-! ## §3. The state a failed contact leaves. -/

/-- The state stored for a device. -/
def stateOf (a : HNManagedDeviceArbiter) (crc32ID : Str) : Option MgmtState :=
  (a.deviceMap[crc32ID]?).map HNMDARecord.mgmtState

/-- The states whose case goes to OFFLINE when its helper does not succeed. -/
def offlineOnFailure : MgmtState → Bool
  | .optInfo | .ownerInfo | .srvProvideInfo | .srvMapUpdate | .execCmd => true
  | _ => false

/-- What a turn leaves when no exception ends it. -/
theorem after_written (ht : t.WellFormed) (hbusy : idleState t.device.mgmtState = false)
    {result : HNMDLResult}
    (hresult : (runCase o t.arbiter t.crc32ID t.device).result = some result) :
    (t.after o).arbiter.deviceMap[t.crc32ID]? =
      some ((runCase o t.arbiter t.crc32ID t.device).device.setManagementState
        (nextState (runCase o t.arbiter t.crc32ID t.device).arbiter
          (runCase o t.arbiter t.crc32ID t.device).device t.device.mgmtState result).1) := by
  unfold Turn.after
  rw [visit_case ht hbusy]
  simp only [CaseRun.written, hresult]
  exact (stores_setNextMonitorState _ _ _ _ _).get

/-- A request goes out where the case has a helper that opens one. -/
theorem request_of_contacts {op : RestOp} (hop : t.contacts = some op) :
    caseOp t.device.mgmtState t.device.mgmtCmd.cmdType = some op ∧
      ∃ req, (op.start t.arbiter t.device).2 = .request req := by
  unfold Turn.contacts at hop
  cases hcase : caseOp t.device.mgmtState t.device.mgmtCmd.cmdType with
  | none =>
    rw [hcase] at hop
    cases hop
  | some op' =>
    simp only [hcase] at hop
    cases hstart : (op'.start t.arbiter t.device).2 with
    | finished result => rw [hstart] at hop; cases hop
    | raised => rw [hstart] at hop; cases hop
    | request req =>
      rw [hstart] at hop
      obtain rfl : op' = op := Option.some.inj hop
      exact ⟨rfl, req, hstart⟩

theorem contacts_of_fails (h : t.fails o = true) : ∃ op, t.contacts = some op := by
  cases hop : t.contacts with
  | none =>
    unfold Turn.fails at h
    rw [hop] at h
    cases h
  | some op => exact ⟨op, rfl⟩

/-- A turn with a contact raises what the session raises. -/
theorem raises_of_contacts {op : RestOp} (hop : t.contacts = some op) :
    t.raises o = true ↔ op.received o = .raised := by
  obtain ⟨hcase, req, hstart⟩ := request_of_contacts hop
  unfold Turn.raises
  simp only [hcase, hstart]
  cases op.received o <;> simp

/-- A contact that is made and does not fail raises nothing. -/
theorem raises_of_answered {op : RestOp} (hop : t.contacts = some op)
    (h : t.fails o = false) : t.raises o = false := by
  refine Bool.eq_false_iff.mpr fun hraises => ?_
  unfold Turn.fails at h
  simp only [hop, (raises_of_contacts hop).mp hraises] at h
  cases h

/-- A failed contact is a failure to the case, but for the two cases that do not
look. -/
theorem result_of_fails {op : RestOp} (hop : t.contacts = some op) (hf : t.fails o = true)
    (hlive : t.raises o = false) :
    ∃ result, (runCase o t.arbiter t.crc32ID t.device).result = some result ∧
      (op.feedsCache = false → result = .failure) := by
  obtain ⟨hcase, req, hstart⟩ := request_of_contacts hop
  have hresult := runCase_result o t.arbiter t.crc32ID t.device
  simp only [hcase, hstart] at hresult
  rw [hresult]
  unfold RestOp.resultOf
  unfold Turn.fails at hf
  cases hrec : op.received o with
  | raised =>
    rw [(raises_of_contacts hop).mpr hrec] at hlive
    cases hlive
  | failed => exact ⟨.failure, rfl, fun _ => rfl⟩
  | ok body =>
    simp only [hop, hrec] at hf
    refine ⟨_, rfl, fun hcache => ?_⟩
    -- the first half of a helper does not touch what the second half parses into
    have hsame : op.understands t.arbiter.getSelfCRC32ID (op.start t.arbiter t.device).1 body =
        op.understands t.arbiter.getSelfCRC32ID t.device body := by
      cases op <;> rfl
    have hnot : op.understands t.arbiter.getSelfCRC32ID t.device body = false := by
      simpa using hf
    rw [hcache, hsame, hnot]
    rfl

/-- **Where a failed contact leads to OFFLINE**, in a turn that ends. -/
theorem visit_offline_iff (ht : t.WellFormed) (hf : t.fails o = true)
    (hlive : t.raises o = false) :
    stateOf (t.after o).arbiter t.crc32ID = some .offline ↔
      offlineOnFailure t.device.mgmtState = true := by
  obtain ⟨op, hop⟩ := contacts_of_fails hf
  obtain ⟨hcase, -⟩ := request_of_contacts hop
  obtain ⟨result, hresult, hfailure⟩ := result_of_fails hop hf hlive
  have hbusy : idleState t.device.mgmtState = false := by
    cases hidle : idleState t.device.mgmtState with
    | true =>
      rw [caseOp_of_idle hidle] at hcase
      cases hcase
    | false => rfl
  unfold stateOf
  rw [after_written ht hbusy hresult, Option.map_some, Option.some.injEq]
  show (nextState _ _ _ _).1 = MgmtState.offline ↔ _
  cases hst : t.device.mgmtState with
  | updateHealth => exact iff_of_false nofun Bool.false_ne_true
  | updateStrref => exact iff_of_false nofun Bool.false_ne_true
  | optInfo | ownerInfo | srvProvideInfo | srvMappingInfo | srvMapUpdate =>
    rw [hst] at hcase
    obtain rfl := Option.some.inj hcase
    rw [hfailure rfl]
    simp [nextState, offlineOnFailure]
  | execCmd =>
    have hcache : op.feedsCache = false := by
      rw [hst] at hcase
      cases hcmd : t.device.mgmtCmd.cmdType with
      | notset => rw [hcmd] at hcase; cases hcase
      | claimdev | releasedev | setdevparams =>
        rw [hcmd] at hcase
        obtain rfl := Option.some.inj hcase
        rfl
    rw [hfailure hcache]
    exact iff_of_true rfl rfl
  | _ =>
    rw [hst] at hcase
    cases hcase

/-! ## §4. The mapping update. -/

/-- The device a type is mapped to by default. -/
def HNManagedDeviceArbiter.defaultProvider (a : HNManagedDeviceArbiter) (srvType : Str) :
    Option Str :=
  (a.defaultMappings[srvType]?).map HNMDSrvRef.devCRC32ID

/-- The URI a device has been told for a type, by its own account. -/
def mappedURI (device : HNMDARecord) (srvType : Str) : Str :=
  ((device.srvMapDesired[srvType]?).map HNMDServiceEndpoint.rootURI).getD []

/-- A desired type is mapped elsewhere than it should be, so a PUT is due. -/
def mappingDue (a : HNManagedDeviceArbiter) (device : HNMDARecord) : Bool :=
  device.getSrvMappingTSList.any fun srvType => mappingTarget a srvType != mappedURI device srvType

/-- A visit does not move an endpoint, and a new one has the empty URI. -/
theorem mappedURI_updateSrvMapping (device : HNMDARecord) (srvType t' : Str) :
    mappedURI (device.updateSrvMapping srvType).1 t' = mappedURI device t' := by
  unfold mappedURI
  show (((updateSrv device.srvMapDesired srvType).1[t']?).map _).getD [] = _
  unfold updateSrv
  split
  next =>
    rw [OrdMap.get_modify]
    split
    next => cases device.srvMapDesired[t']? <;> rfl
    next => rfl
  next hnew =>
    rw [OrdMap.get_insertIfNew]
    split
    next heq =>
      rw [← heq.1, (OrdMap.not_mem_iff_get _ _).mp hnew]
      rfl
    next => rfl

/-- The loop over the desired types: the device it leaves does not depend on the
targets, and `uriMap` stays empty unless one of them differs. -/
theorem mappingLoop (a : HNManagedDeviceArbiter) :
    ∀ (ts : List Str) (st : HNMDARecord × StrMap Str),
      (ts.foldl (mappingStep a) st).1 = ts.foldl (fun d t => (d.updateSrvMapping t).1) st.1 ∧
      ((ts.foldl (mappingStep a) st).2.isEmpty =
        (st.2.isEmpty && !ts.any fun t => mappingTarget a t != mappedURI st.1 t))
  | [], st => ⟨rfl, by simp⟩
  | t :: ts, st => by
      obtain ⟨hdevice, hempty⟩ := mappingLoop a ts (mappingStep a st t)
      have hone : (mappingStep a st t).1 = (st.1.updateSrvMapping t).1 := by
        simp only [mappingStep]
        split <;> rfl
      have hsame : (fun t' => mappingTarget a t' != mappedURI (st.1.updateSrvMapping t).1 t') =
          fun t' => mappingTarget a t' != mappedURI st.1 t' :=
        funext fun t' => by rw [mappedURI_updateSrvMapping]
      rw [hone, hsame] at hempty
      rw [List.foldl_cons, List.foldl_cons]
      refine ⟨by rw [hdevice, hone], ?_⟩
      rw [hempty, List.any_cons]
      have hmapped := mappedURI_updateSrvMapping st.1 t t
      have huri : (mappingStep a st t).2.isEmpty =
          (st.2.isEmpty && !(mappingTarget a t != mappedURI st.1 t)) := by
        rw [← hmapped]
        by_cases hdiff : mappingTarget a t = mappedURI (st.1.updateSrvMapping t).1 t
        · have hstep : mappingStep a st t = ((st.1.updateSrvMapping t).1, st.2) :=
            if_neg (not_not.mpr hdiff)
          rw [hstep, hdiff, bne_self_eq_false]
          simp
        · have hstep : mappingStep a st t =
              ((st.1.updateSrvMapping t).1, st.2.insertIfNew t (mappingTarget a t)) := if_pos hdiff
          rw [hstep, bne_iff_ne.mpr hdiff]
          simp
      rw [huri, Bool.not_or, Bool.and_assoc]

theorem mappingChanges_isEmpty (a : HNManagedDeviceArbiter) (device : HNMDARecord) :
    (mappingChanges a device).2.isEmpty = !mappingDue a device := by
  have h := (mappingLoop a device.getSrvMappingTSList (device, ∅)).2
  rw [show mappingChanges a device =
    device.getSrvMappingTSList.foldl (mappingStep a) (device, ∅) from rfl, h]
  simp [mappingDue]

/-- `uriMap` after the loop: what was there, or the target of a type that is mapped
elsewhere. -/
theorem mappingLoop_get (a : HNManagedDeviceArbiter) (t' : Str) :
    ∀ (ts : List Str) (st : HNMDARecord × StrMap Str),
      (ts.foldl (mappingStep a) st).2[t']? = st.2[t']?.or
        (if t' ∈ ts ∧ mappingTarget a t' ≠ mappedURI st.1 t' then some (mappingTarget a t')
          else none)
  | [], st => by simp
  | t :: ts, st => by
      have hmapped := mappedURI_updateSrvMapping st.1 t
      have hone : (mappingStep a st t).1 = (st.1.updateSrvMapping t).1 := by
        simp only [mappingStep]
        split <;> rfl
      have huri : (mappingStep a st t).2 =
          if mappingTarget a t ≠ mappedURI st.1 t then st.2.insertIfNew t (mappingTarget a t)
          else st.2 := by
        rw [← hmapped t]
        exact apply_ite Prod.snd _ ((st.1.updateSrvMapping t).1, _)
          ((st.1.updateSrvMapping t).1, st.2)
      rw [List.foldl_cons, mappingLoop_get a t' ts, hone, huri, hmapped]
      by_cases heq : t = t'
      · subst heq
        by_cases hdiff : mappingTarget a t = mappedURI st.1 t
        · simp [hdiff]
        · rw [if_pos hdiff, OrdMap.get_insertIfNew]
          cases hget : st.2[t]? with
          | none =>
            have hnew := (OrdMap.not_mem_iff_get st.2 t).mpr hget
            simp [hnew, hdiff]
          | some uri =>
            have hold := (OrdMap.mem_iff_get st.2 t).mpr ⟨uri, hget⟩
            simp [hold]
      · have hrest : (if mappingTarget a t ≠ mappedURI st.1 t then
            st.2.insertIfNew t (mappingTarget a t) else st.2)[t']? = st.2[t']? := by
          split
          next => rw [OrdMap.get_insertIfNew, if_neg fun h => heq h.1]
          next => rfl
        rw [hrest]
        simp only [List.mem_cons, Ne.symm heq, false_or]

/-- **What the loop queues**: the target of each desired type that is mapped
elsewhere. -/
theorem mappingChanges_get (a : HNManagedDeviceArbiter) {device : HNMDARecord}
    (hkeyed : Keyed device.srvMapDesired) (t : Str) :
    (mappingChanges a device).2[t]? =
      if t ∈ device.srvMapDesired ∧ mappingTarget a t ≠ mappedURI device t then
        some (mappingTarget a t)
      else none := by
  have hmem : t ∈ device.getSrvMappingTSList ↔ t ∈ device.srvMapDesired := by
    rw [HNMDARecord.getSrvMappingTSList, srvTSList_eq_keys hkeyed, Std.ExtTreeMap.mem_keys]
  unfold mappingChanges
  rw [mappingLoop_get]
  simp only [hmem, Std.ExtTreeMap.getElem?_empty, Option.none_or]

/-- The device as `mappingChanges` leaves it. -/
def mappingVisited (device : HNMDARecord) : HNMDARecord :=
  device.getSrvMappingTSList.foldl (fun d t => (d.updateSrvMapping t).1) device

theorem mappingChanges_visited (a : HNManagedDeviceArbiter) (device : HNMDARecord) :
    (mappingChanges a device).1 = mappingVisited device :=
  (mappingLoop a device.getSrvMappingTSList (device, ∅)).1

/-- The mapping PUT can be sent and is answered. -/
def putAnswered (device : HNMDARecord) (o : RestOutcome) : Bool :=
  (device.findPreferredConnection .ipv4).isSome &&
    match o.receiveRendered with
    | .ok _ => true
    | _ => false

/-- Where a device goes whose mappings are up to date. -/
def afterMapping (provides : Bool) : MgmtState := if provides then .updateHealth else .active

/-- The state the SRV_MAP_UPDATE case writes, `none` for an exception, by whether a
PUT is due and whether the index has the device as a health source. -/
def mapUpdateNext (device : HNMDARecord) (o : RestOutcome) (due provides : Bool) :
    Option MgmtState :=
  if due then
    match device.findPreferredConnection .ipv4 with
    | none => some .offline
    | some _ =>
      match o.receiveRendered with
      | .raised => none
      | .failed => some .offline
      | .ok _ => some (afterMapping provides)
  else some (afterMapping provides)

/-- The device is listed as a health source. -/
def listed (a : HNManagedDeviceArbiter) (crc32ID : Str) : Bool :=
  a.doesDeviceProvideService crc32ID (lit "hnsrv-health-source")

theorem mappingVisited_frame (device : HNMDARecord) :
    ∃ m, mappingVisited device = { device with srvMapDesired := m } := by
  have hloop : ∀ (ts : List Str) (d : HNMDARecord),
      ∃ m, ts.foldl (fun d t => (d.updateSrvMapping t).1) d = { d with srvMapDesired := m } := by
    intro ts
    induction ts with
    | nil => exact fun d => ⟨d.srvMapDesired, rfl⟩
    | cons t ts ih =>
      intro d
      obtain ⟨m, hm⟩ := ih (d.updateSrvMapping t).1
      exact ⟨m, hm⟩
  exact hloop _ device

/-- What the SRV_MAP_UPDATE case comes to. -/
theorem runCase_mapUpdate (o : RestOutcome) (a : HNManagedDeviceArbiter) (id : Str)
    {device : HNMDARecord} (hst : device.mgmtState = .srvMapUpdate) :
    (runCase o a id device).device = mappingVisited device ∧
      (runCase o a id device).arbiter.providerMap = a.providerMap ∧
      (runCase o a id device).result =
        if mappingDue a device then
          if (device.findPreferredConnection .ipv4).isSome then
            RestOp.resultOf a.getSelfCRC32ID device o .executeDeviceServicesUpdateMapping
          else some .failure
        else some .success := by
  have hop : caseOp device.mgmtState device.mgmtCmd.cmdType =
      some .executeDeviceServicesUpdateMapping := by rw [hst]; rfl
  have hempty := mappingChanges_isEmpty a device
  have hdevice := mappingChanges_visited a device
  unfold runCase
  rw [hop]
  simp only
  cases hdue : mappingDue a device with
  | false =>
    rw [hdue] at hempty
    have hstart : RestOp.start a device .executeDeviceServicesUpdateMapping =
        (mappingVisited device, .finished .success) := by
      simp only [RestOp.start, hempty, hdevice, Bool.not_false, if_true]
    rw [hstart]
    exact ⟨rfl, rfl, rfl⟩
  | true =>
    rw [hdue] at hempty
    have hstart : RestOp.start a device .executeDeviceServicesUpdateMapping =
        (mappingVisited device, openRequest (mappingVisited device) .put
          (lit "/hnode2/device/services/mappings")
          (.mappings (mappingChanges a device).2.toList)) := by
      simp only [RestOp.start, hempty, hdevice, Bool.not_true, Bool.false_eq_true, if_false]
    obtain ⟨m, hvisited⟩ := mappingVisited_frame device
    have hfind : (mappingVisited device).findPreferredConnection .ipv4 =
        device.findPreferredConnection .ipv4 := by
      rw [hvisited]
      rfl
    rw [hstart]
    simp only [openRequest, hfind]
    cases device.findPreferredConnection .ipv4 with
    | none => exact ⟨rfl, rfl, rfl⟩
    | some dcInfo =>
      -- no reply to the PUT changes the record
      have hgiven : ∀ a' : HNManagedDeviceArbiter,
          RestOp.deviceGiven a' (mappingVisited device) o .executeDeviceServicesUpdateMapping =
            mappingVisited device := by
        intro a'
        unfold RestOp.deviceGiven
        split <;> rfl
      have hresult := finish_result (a.setDevice id (mappingVisited device)) id
        (mappingVisited device) o .executeDeviceServicesUpdateMapping
      simp only
      cases hfinish : RestOp.finish (a.setDevice id (mappingVisited device)) id
          (mappingVisited device) o .executeDeviceServicesUpdateMapping with
      | none =>
        rw [hfinish] at hresult
        exact ⟨rfl, rfl, hresult⟩
      | some r =>
        rw [hfinish] at hresult
        have hindex := finish_providerMap (fun heq => by cases heq) hfinish
        exact ⟨hgiven _, hindex, hresult⟩

/-- The state written, by the result. -/
theorem mapUpdateNext_eq (device : HNMDARecord) (o : RestOutcome) (selfCRC32ID : UInt32)
    (due provides : Bool) :
    mapUpdateNext device o due provides =
      (if due then
        if (device.findPreferredConnection .ipv4).isSome then
          RestOp.resultOf selfCRC32ID device o .executeDeviceServicesUpdateMapping
        else some .failure
      else some .success).map fun result =>
        if result = .success then afterMapping provides else .offline := by
  unfold mapUpdateNext
  cases due with
  | false => rfl
  | true =>
    cases device.findPreferredConnection .ipv4 with
    | none => rfl
    | some dcInfo =>
      unfold RestOp.resultOf
      simp only [RestOp.received, Option.isSome_some, if_true]
      cases o.receiveRendered <;> rfl

/-- **The mapping update** looks at the other records for two things only. -/
theorem visit_mapUpdate (ht : t.WellFormed) (hst : t.device.mgmtState = .srvMapUpdate) :
    (t.after o).arbiter.deviceMap[t.crc32ID]? =
      some ((mappingVisited t.device).setManagementState
        ((mapUpdateNext t.device o (mappingDue t.arbiter t.device)
          (listed t.arbiter t.device.getCRC32IDStr)).getD .srvMapUpdate)) ∧
    (t.raises o = true ↔ mapUpdateNext t.device o (mappingDue t.arbiter t.device)
      (listed t.arbiter t.device.getCRC32IDStr) = none) := by
  have hbusy : idleState t.device.mgmtState = false := by rw [hst]; rfl
  obtain ⟨hdevice, hindex, hresult⟩ := runCase_mapUpdate o t.arbiter t.crc32ID hst
  obtain ⟨m, hvisited⟩ := mappingVisited_frame t.device
  rw [mapUpdateNext_eq t.device o t.arbiter.getSelfCRC32ID, ← hresult, Turn.raises_iff,
    Option.map_eq_none_iff]
  refine ⟨?_, Iff.rfl⟩
  cases hres : (runCase o t.arbiter t.crc32ID t.device).result with
  | none =>
    -- the record is as the helper left it
    have hget := (runCase_stores o t.arbiter t.crc32ID t.device).1.get
    unfold Turn.after
    rw [visit_case ht hbusy]
    simp only [CaseRun.written, hres, Option.map_none, Option.getD_none]
    rw [hget, hdevice, hvisited, ← hst]
    rfl
  | some result =>
    rw [after_written ht hbusy hres, hdevice, hst, Option.map_some, Option.getD_some]
    have hcrc : (mappingVisited t.device).getCRC32IDStr = t.device.getCRC32IDStr := by
      rw [hvisited]
      rfl
    have hlisted : (runCase o t.arbiter t.crc32ID t.device).arbiter.doesDeviceProvideService
        (mappingVisited t.device).getCRC32IDStr (lit "hnsrv-health-source") =
        listed t.arbiter t.device.getCRC32IDStr := by
      rw [hcrc]
      unfold listed HNManagedDeviceArbiter.doesDeviceProvideService
      rw [hindex]
    cases result with
    | failure => rfl
    | success =>
      simp only [nextState, hlisted, afterMapping, if_true]
      cases listed t.arbiter t.device.getCRC32IDStr <;> rfl

/-! ## §5. Two turns of one device. -/

/-- The first half of a helper other than the mapping update looks at the device,
the manager and the caches only. -/
theorem start_congr {a a' : HNManagedDeviceArbiter} (hmgmt : a'.mgmtDevice = a.mgmtDevice)
    (hcaches : a'.caches = a.caches) (device : HNMDARecord) {op : RestOp}
    (hop : op ≠ .executeDeviceServicesUpdateMapping) :
    op.start a' device = op.start a device := by
  cases op with
  | executeDeviceServicesUpdateMapping => exact absurd rfl hop
  | sendDeviceClaimRequest =>
    simp only [RestOp.start, HNManagedDeviceArbiter.getSelfHNodeIDStr, hmgmt]
  | updateDeviceStringReferences => simp only [RestOp.start, hcaches]
  | _ => rfl

/-- Outside SRV_MAP_UPDATE a case does not look at the other records. -/
theorem runCase_congr {a a' : HNManagedDeviceArbiter} (hmgmt : a'.mgmtDevice = a.mgmtDevice)
    (hcaches : a'.caches = a.caches) {device : HNMDARecord}
    (hst : device.mgmtState ≠ .srvMapUpdate) (o : RestOutcome) (id : Str) :
    (runCase o a' id device).device = (runCase o a id device).device ∧
      (runCase o a' id device).result = (runCase o a id device).result := by
  have hself : a'.getSelfCRC32ID = a.getSelfCRC32ID := by
    unfold HNManagedDeviceArbiter.getSelfCRC32ID
    rw [hmgmt]
  rw [runCase_device, runCase_device, runCase_result, runCase_result]
  cases hop : caseOp device.mgmtState device.mgmtCmd.cmdType with
  | none => exact ⟨rfl, rfl⟩
  | some op =>
    simp only
    have hne : op ≠ .executeDeviceServicesUpdateMapping := by
      intro heq
      rw [heq] at hop
      exact hst (caseOp_updateMapping hop)
    rw [start_congr hmgmt hcaches device hne, hself, deviceGiven_congr hmgmt]
    exact ⟨rfl, rfl⟩

theorem nextState_congr {a a' : HNManagedDeviceArbiter} {device : HNMDARecord} {st : MgmtState}
    (hst : st ≠ .srvMapUpdate) (result : HNMDLResult) :
    nextState a' device st result = nextState a device st result := by
  cases st with
  | srvMapUpdate => exact absurd rfl hst
  | _ => cases result <;> rfl

/-- **Outside SRV_MAP_UPDATE** a turn leaves the same record whatever the other
devices have done. -/
theorem visit_congr (t t' : Turn) (ht : t.WellFormed) (ht' : t'.WellFormed)
    (hid : t'.crc32ID = t.crc32ID) (hdevice : t'.device = t.device)
    (hmgmt : t'.arbiter.mgmtDevice = t.arbiter.mgmtDevice)
    (hcaches : t'.arbiter.caches = t.arbiter.caches)
    (hst : t.device.mgmtState ≠ .srvMapUpdate) (o : RestOutcome) :
    (t'.after o).arbiter.deviceMap[t.crc32ID]? = (t.after o).arbiter.deviceMap[t.crc32ID]? ∧
      t'.raises o = t.raises o := by
  obtain ⟨hleft, hresult⟩ := runCase_congr hmgmt hcaches hst o t.crc32ID
  have hraises : t'.raises o = t.raises o := by
    rw [Bool.eq_iff_iff, Turn.raises_iff, Turn.raises_iff, hid, hdevice, hresult]
  have hhere : t'.arbiter.deviceMap[t.crc32ID]? = some t.device := by
    rw [← hid, ht', hdevice]
  refine ⟨?_, hraises⟩
  cases hidle : idleState t.device.mgmtState with
  | true =>
    unfold Turn.after
    rw [hid, visit_idle ht hidle, visit_idle hhere hidle]
    exact hhere.trans ht.symm
  | false =>
    unfold Turn.after
    rw [hid, visit_case ht hidle, visit_case hhere hidle]
    unfold CaseRun.written
    rw [hresult]
    cases (runCase o t.arbiter t.crc32ID t.device).result with
    | none =>
      have hstores := (runCase_stores o t.arbiter t.crc32ID t.device).1.get
      have hstores' := (runCase_stores o t'.arbiter t.crc32ID t.device).1.get
      exact hstores'.trans ((congrArg some hleft).trans hstores.symm)
    | some result =>
      simp only
      rw [(stores_setNextMonitorState _ _ _ _ _).get, (stores_setNextMonitorState _ _ _ _ _).get,
        hleft, nextState_congr hst]

/-! ## §6. The caches. -/

/-- The caches as a helper leaves them, whose request has gone out. -/
def RestOp.cachesGiven (caches : Platform.Caches) (device : HNMDARecord) (o : RestOutcome) :
    RestOp → Platform.Caches
  | .updateDeviceHealthInfo =>
    match o.receiveCached with
    | .ok body => (Platform.updateDeviceHealth caches device.getCRC32ID body).1
    | _ => caches
  | .updateDeviceStringReferences =>
    match o.receiveCached with
    | .ok body => (Platform.updateStringDefinitions caches device.getCRC32IDStr body).1
    | _ => caches
  | _ => caches

theorem cachesGiven_eq {op : RestOp} (hop : op.feedsCache = false) (caches : Platform.Caches)
    (device : HNMDARecord) : op.cachesGiven caches device o = caches := by
  cases op <;> first | rfl | cases hop

theorem finish_caches (a : HNManagedDeviceArbiter) (id : Str) (device : HNMDARecord)
    (o : RestOutcome) (op : RestOp) :
    match op.finish a id device o with
    | none => op.cachesGiven a.caches device o = a.caches
    | some r => r.1.caches = op.cachesGiven a.caches device o := by
  cases hop : op.feedsCache with
  | true =>
    cases op with
    | updateDeviceHealthInfo | updateDeviceStringReferences =>
      simp only [RestOp.finish, RestOp.cachesGiven, store]
      cases o.receiveCached <;> rfl
    | _ => cases hop
  | false =>
    rw [cachesGiven_eq hop]
    cases hfinish : op.finish a id device o with
    | none => rfl
    | some r =>
      rcases finish_cases hfinish with ⟨heq, -⟩ | ⟨body, -, heq⟩
      · exact congrArg HNManagedDeviceArbiter.caches heq
      · refine (congrArg HNManagedDeviceArbiter.caches heq).trans ?_
        cases op with
        | updateDeviceHealthInfo | updateDeviceStringReferences => cases hop
        | updateDeviceServicesProvideInfo =>
          simp only [RestOp.arbiterAfter, storeProvided]
          cases (applyServicesReply device.srvMapProvided body).2 with
          | none => rfl
          | some changed => cases changed <;> rfl
        | updateDeviceServicesMappingInfo =>
          simp only [RestOp.arbiterAfter, storeDesired]
          cases (applyServicesReply device.srvMapDesired body).2 with
          | none => rfl
          | some changed => cases changed <;> rfl
        | _ => rfl

/-- The caches a case leaves. -/
theorem runCase_caches (o : RestOutcome) (a : HNManagedDeviceArbiter) (id : Str)
    (device : HNMDARecord) :
    (runCase o a id device).arbiter.caches =
      match caseOp device.mgmtState device.mgmtCmd.cmdType with
      | none => a.caches
      | some op =>
        match (op.start a device).2 with
        | .request _ => op.cachesGiven a.caches (op.start a device).1 o
        | _ => a.caches := by
  unfold runCase
  cases caseOp device.mgmtState device.mgmtCmd.cmdType with
  | none => rfl
  | some op =>
    simp only
    cases (op.start a device).2 with
    | finished result => rfl
    | raised => rfl
    | request req =>
      simp only
      have hcaches := finish_caches (a.setDevice id (op.start a device).1) id
        (op.start a device).1 o op
      cases hfinish : op.finish (a.setDevice id (op.start a device).1) id
          (op.start a device).1 o with
      | none =>
        rw [hfinish] at hcaches
        exact hcaches.symm
      | some r =>
        rw [hfinish] at hcaches
        exact hcaches

/-- The caches after a turn, idle or not. -/
theorem visit_caches (ht : t.WellFormed) (o : RestOutcome) :
    (t.after o).arbiter.caches = (runCase o t.arbiter t.crc32ID t.device).arbiter.caches := by
  unfold Turn.after
  cases hidle : idleState t.device.mgmtState with
  | true =>
    rw [visit_idle ht hidle, runCase_caches, caseOp_of_idle hidle]
  | false =>
    rw [visit_case ht hidle]
    unfold CaseRun.written
    cases (runCase o t.arbiter t.crc32ID t.device).result <;> rfl

/-- **Two turns of one device** take equal caches to equal caches. -/
theorem visit_caches_congr (t t' : Turn) (ht : t.WellFormed) (ht' : t'.WellFormed)
    (hdevice : t'.device = t.device) (hmgmt : t'.arbiter.mgmtDevice = t.arbiter.mgmtDevice)
    (hcaches : t'.arbiter.caches = t.arbiter.caches) (o : RestOutcome) :
    (t'.after o).arbiter.caches = (t.after o).arbiter.caches := by
  rw [visit_caches ht, visit_caches ht', runCase_caches, runCase_caches, hdevice]
  cases caseOp t.device.mgmtState t.device.mgmtCmd.cmdType with
  | none => exact hcaches
  | some op =>
    simp only
    cases hop : op.feedsCache with
    | true =>
      have hne : op ≠ .executeDeviceServicesUpdateMapping := by
        rintro rfl
        cases hop
      rw [start_congr hmgmt hcaches t.device hne, hcaches]
    | false =>
      -- without a cache to feed they stay, whether a request goes out or not
      have hstay : ∀ (a : HNManagedDeviceArbiter), (match (op.start a t.device).2 with
          | .request _ => op.cachesGiven a.caches (op.start a t.device).1 o
          | _ => a.caches) = a.caches := by
        intro a
        split
        next => exact cachesGiven_eq hop _ _
        next => rfl
      rw [hstay, hstay, hcaches]

omit [Platform] in
/-- Where a failed contact leads to OFFLINE, no cache is fed. -/
theorem feedsCache_of_looks {st : MgmtState} {cmdType : CmdType} {op : RestOp}
    (hlooks : offlineOnFailure st = true) (hop : caseOp st cmdType = some op) :
    op.feedsCache = false := by
  cases st with
  | optInfo | ownerInfo | srvProvideInfo | srvMapUpdate =>
    obtain rfl := Option.some.inj hop
    rfl
  | execCmd => cases cmdType <;> first | (obtain rfl := Option.some.inj hop; rfl) | cases hop
  | _ => cases hlooks

theorem visit_caches_of_looks (ht : t.WellFormed)
    (hlooks : offlineOnFailure t.device.mgmtState = true) (o : RestOutcome) :
    (t.after o).arbiter.caches = t.arbiter.caches := by
  rw [visit_caches ht, runCase_caches]
  cases hop : caseOp t.device.mgmtState t.device.mgmtCmd.cmdType with
  | none => rfl
  | some op =>
    simp only
    split
    next => exact cachesGiven_eq (feedsCache_of_looks hlooks hop) _ _
    next => rfl

/-! ## §7. The provider index. -/

/-- The turn ends with a rebuilt provider index: a reply to the services request
that is read to its end and changes something. -/
def rebuilds (device : HNMDARecord) (o : RestOutcome) : Bool :=
  device.mgmtState == .srvProvideInfo && (device.findPreferredConnection .ipv4).isSome &&
    match o.receive with
    | .ok body => (applyServicesReply device.srvMapProvided body).2 == some true
    | _ => false

theorem rebuilds_state {device : HNMDARecord} (h : rebuilds device o = true) :
    device.mgmtState = .srvProvideInfo := by
  unfold rebuilds at h
  rw [Bool.and_eq_true, Bool.and_eq_true, beq_iff_eq] at h
  exact h.1.1

/-- The provider index lists what the records provide, and nothing else. -/
def ExactIndex (a : HNManagedDeviceArbiter) : Prop :=
  ∀ srvType id : Str, id ∈ listedUnder a.providerMap srvType ↔
    ∃ (key : Str) (device : HNMDARecord), a.deviceMap[key]? = some device ∧
      device.getCRC32IDStr = id ∧ srvType ∈ device.getSrvProviderTSList

/-- A management state does not matter to the index. -/
theorem ExactIndex.setNextMonitorState {a : HNManagedDeviceArbiter} {id : Str}
    {device : HNMDARecord} (h : ExactIndex a) (hget : a.deviceMap[id]? = some device)
    (st : MgmtState) (minValue : Nat) :
    ExactIndex (a.setNextMonitorState id device st minValue) := by
  intro srvType id'
  have hstores := stores_setNextMonitorState a id device st minValue
  rw [show (a.setNextMonitorState id device st minValue).providerMap = a.providerMap from rfl,
    h srvType id']
  constructor
  · rintro ⟨key, d, hd, hcrc, hmem⟩
    by_cases heq : id = key
    · obtain rfl : device = d := Option.some.inj (hget.symm.trans (heq ▸ hd))
      exact ⟨id, _, hstores.get, hcrc, hmem⟩
    · exact ⟨key, d, (hstores.get_ne heq).trans hd, hcrc, hmem⟩
  · rintro ⟨key, d, hd, hcrc, hmem⟩
    by_cases heq : id = key
    · obtain rfl : device.setManagementState st = d :=
        Option.some.inj (hstores.get.symm.trans (heq ▸ hd))
      exact ⟨id, device, hget, hcrc, hmem⟩
    · exact ⟨key, d, (hstores.get_ne heq).symm.trans hd, hcrc, hmem⟩

/-- What a case does to the provider index. -/
theorem runCase_index (o : RestOutcome) (a : HNManagedDeviceArbiter) (id : Str)
    (device : HNMDARecord) :
    (rebuilds device o = true → ExactIndex (runCase o a id device).arbiter) ∧
      (rebuilds device o = false →
        (runCase o a id device).arbiter.providerMap = a.providerMap) := by
  by_cases hst : device.mgmtState = .srvProvideInfo
  · have hop : caseOp device.mgmtState device.mgmtCmd.cmdType =
        some .updateDeviceServicesProvideInfo := by rw [hst]; rfl
    unfold runCase rebuilds
    rw [hop, hst]
    simp only [RestOp.start, openRequest, RestOp.finish]
    cases hconn : device.findPreferredConnection .ipv4 with
    | none => exact ⟨fun h => absurd h Bool.false_ne_true, fun _ => rfl⟩
    | some dcInfo =>
      simp only
      cases hrec : o.receive with
      | raised => exact ⟨fun h => absurd h Bool.false_ne_true, fun _ => rfl⟩
      | failed => exact ⟨fun h => absurd h Bool.false_ne_true, fun _ => rfl⟩
      | ok body =>
        simp only [store, storeProvided]
        -- only a body read to its end that changed something has the index rebuilt
        cases (applyServicesReply device.srvMapProvided body).2 with
        | none => exact ⟨fun h => absurd h Bool.false_ne_true, fun _ => rfl⟩
        | some changed =>
          cases changed with
          | true =>
            exact ⟨fun _ _ _ => rebuildSrvProviderMap_exact,
              fun h => absurd h.symm Bool.false_ne_true⟩
          | false => exact ⟨fun h => absurd h Bool.false_ne_true, fun _ => rfl⟩
  · refine ⟨fun hr => absurd (rebuilds_state hr) hst, fun _ => ?_⟩
    unfold runCase
    cases hop : caseOp device.mgmtState device.mgmtCmd.cmdType with
    | none => rfl
    | some op =>
      simp only
      cases (op.start a device).2 with
      | finished result => rfl
      | raised => rfl
      | request req =>
        simp only
        cases hfinish : op.finish (a.setDevice id (op.start a device).1) id
            (op.start a device).1 o with
        | none => rfl
        | some r =>
          obtain ⟨a', result⟩ := r
          have hne : op ≠ .updateDeviceServicesProvideInfo := by
            intro heq
            rw [heq] at hop
            exact hst (caseOp_provideInfo hop)
          exact (finish_providerMap hne hfinish).trans rfl

/-- **A turn** leaves the provider index alone, or rebuilds it. -/
theorem visit_index (ht : t.WellFormed) (o : RestOutcome) :
    (rebuilds t.device o = true → ExactIndex (t.after o).arbiter) ∧
      (rebuilds t.device o = false →
        (t.after o).arbiter.providerMap = t.arbiter.providerMap) := by
  unfold Turn.after
  cases hidle : idleState t.device.mgmtState with
  | true =>
    rw [visit_idle ht hidle]
    refine ⟨fun hr => ?_, fun _ => rfl⟩
    rw [rebuilds_state hr] at hidle
    cases hidle
  | false =>
    rw [visit_case ht hidle]
    obtain ⟨hexact, hsame⟩ := runCase_index o t.arbiter t.crc32ID t.device
    have hget := (runCase_stores o t.arbiter t.crc32ID t.device).1.get
    unfold CaseRun.written
    cases (runCase o t.arbiter t.crc32ID t.device).result with
    | none => exact ⟨hexact, hsame⟩
    | some result => exact ⟨fun hr => (hexact hr).setNextMonitorState hget _ _, hsame⟩

end Contact

end HNodeMgmt.Arbiter
