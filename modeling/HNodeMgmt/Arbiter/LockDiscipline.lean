/-
  HNodeMgmt.Arbiter.LockDiscipline — the device's mutex in the REST operations.

  Every operation locks the device to read it, unlocks it for the network, and
  the ones that store a reply lock it once more.  The discipline breaks in
  three of the ten: `executeDeviceServicesUpdateMapping` unlocks again when it
  has a mapping to send, and the two operations on published URIs call, while
  the device is locked, what may raise and is in no `try`.

  Main results:
    * `lock_discipline_iff` — the calls alternate, and the mutex is free at the
      end, exactly when no mapping is due and nothing raises in those parts.
    * `unlocked_twice` — a due mapping: the mutex is unlocked while it is free.
-/
import Mathlib.Tactic.Common
import HNodeMgmt.Arbiter.Contact
import HNodeMgmt.Arbiter.DeviceOps

namespace HNodeMgmt.Arbiter

open Lib

section Discipline

variable [Platform] {crc32ID : Str} {o : OpOutcome} {s : OpState}

/-! ## §1. The mutex through the operations. -/

/-- The opening is in order: what counts is the rest. -/
theorem held_onConnection (k : HNMDARAddress → DeviceOp HNMDLResult) :
    (onConnection k).held false s =
      match s.device.findPreferredConnection .ipv4 with
      | none => some false
      | some dcInfo => (k dcInfo).held false s := by
  unfold onConnection
  cases hfind : s.device.findPreferredConnection .ipv4 with
  | none =>
    simp only [lockForUpdate, unlockForUpdate, Prog.held_bind, Prog.run_act, Prog.run_get,
      Prog.held_lock, Prog.held_get, hfind, Prog.held_unlock, Prog.held_pure, Option.bind_some]
  | some dcInfo =>
    simp only [lockForUpdate, unlockForUpdate, Prog.held_bind, Prog.run_act, Prog.run_get,
      Prog.held_lock, Prog.held_get, hfind, Prog.held_unlock, Option.bind_some]

/-- A rest that is in order for every connection. -/
theorem held_onConnection_free {k : HNMDARAddress → DeviceOp HNMDLResult}
    (hk : ∀ dcInfo s, (k dcInfo).held false s = some false) :
    (onConnection k).held false s = some false := by
  rw [held_onConnection]
  cases s.device.findPreferredConnection .ipv4 with
  | none => rfl
  | some dcInfo => exact hk dcInfo s

/-- After a session the mutex is free until the reply is looked at. -/
theorem held_afterExchange {p : DeviceOp (Option Body)} {f : Option Body → DeviceOp HNMDLResult}
    (hp : Prog.Quiet p) (hf : ∀ reply s, (f reply).held false s = some false) :
    (p >>= f).held false s = some false := by
  rw [hp.held_bind]
  cases (p s).result with
  | none => rfl
  | some reply => exact hf reply _

theorem quiet_writeDevice (device : HNMDARecord) : Prog.Quiet (writeDevice crc32ID device) :=
  fun _ => rfl

theorem quiet_get : Prog.Quiet (Prog.get : DeviceOp OpState) := fun _ => rfl

theorem quiet_ownershipUnknown : Prog.Quiet (ownershipUnknown crc32ID) :=
  quiet_get.bind fun _ => quiet_writeDevice _

theorem quiet_readInfo (body : Body) : Prog.Quiet (readInfo crc32ID body) := by
  refine quiet_get.bind fun s => ?_
  cases infoFields s.device body with
  | error device => exact (quiet_writeDevice device).bind fun _ _ => rfl
  | ok device => exact quiet_writeDevice device

theorem quiet_readOwner (body : Body) : Prog.Quiet (readOwner crc32ID body) :=
  (Prog.quiet_orRaise _).bind fun _ => quiet_get.bind fun _ => quiet_writeDevice _

theorem quiet_readProvided (body : Body) : Prog.Quiet (readProvided crc32ID body) :=
  quiet_get.bind fun _ => (quiet_writeDevice _).bind fun _ => Prog.quiet_orRaise _

theorem quiet_readDesired (body : Body) : Prog.Quiet (readDesired crc32ID body) :=
  quiet_get.bind fun _ => (quiet_writeDevice _).bind fun _ => Prog.quiet_orRaise _

/-- The two `try` blocks that give up the ownership. -/
theorem held_tryOwnership {read : DeviceOp Unit} (hread : Prog.Quiet read) :
    (Prog.tryCatch
      (do
        lockForUpdate
        let _ ← read
        unlockForUpdate
        pure .success)
      (do
        ownershipUnknown crc32ID
        unlockForUpdate
        pure .failure) : DeviceOp HNMDLResult).held false s = some false := by
  have hhandler : Prog.Quiet (ownershipUnknown crc32ID) := quiet_ownershipUnknown
  have hreturns : ∀ s, (ownershipUnknown crc32ID s).result = some () := fun _ => rfl
  unfold lockForUpdate unlockForUpdate
  exact Prog.held_guarded hread hhandler hreturns (fun _ => HNMDLResult.success) .failure

/-- The two `try` blocks that take over services. -/
theorem held_storeServices {read : Body → DeviceOp Bool}
    (hread : ∀ body, Prog.Quiet (read body))
    (rebuild : HNManagedDeviceArbiter → HNManagedDeviceArbiter) (body : Body) :
    (storeServices read rebuild body).held false s = some false := by
  unfold storeServices
  have hguarded := Prog.held_guarded (s := s) (q := abandonSrvUpdates) (hread body)
    (fun _ => rfl) (fun _ => rfl) some none
  rw [Prog.held_bind]
  split
  next => exact hguarded
  next changed hres =>
    refine (congrArg (Option.bind · _) hguarded).trans ?_
    cases changed with
    | none => rfl
    | some changed => cases changed <;> rfl

/-- The rest of the operations on published URIs is in order unless the cache
raises on an OK reply. -/
theorem held_storeInCache {update : Body → DeviceOp Unit} {req : HttpRequest}
    (hquiet : ∀ body, Prog.Quiet (update body))
    (hraises : ∀ body s, (update body s).result = none ↔ o.rest.cached = false) :
    (do let reply ← exchange o req; storeInCache update reply : DeviceOp HNMDLResult).held false s =
        some false ↔
      ((∃ body, o.rest.receive = .ok body) → o.rest.cached = true) := by
  rw [(quiet_exchange req).held_bind, run_exchange]
  cases hreceive : o.rest.receive with
  | raised => simp [Received.result]
  | failed => simp [Received.result, storeInCache]
  | ok body =>
    have hlocked := Prog.held_locked (s := o.meanwhile s) (hquiet body) fun _ => HNMDLResult.success
    have hcache := hraises body (o.meanwhile s)
    show (storeInCache update (some body)).held false (o.meanwhile s) = some false ↔ _
    refine (Eq.congr_left hlocked).trans ?_
    simp only [hcache]
    cases o.rest.cached <;> simp

/-- The session ends with an OK status. -/
def Answered (o : OpOutcome) : Prop := ∃ body, o.rest.receive = .ok body

/-- The text of a published URI, with its path set, can be parsed again. -/
def Rereads (device : HNMDARecord) (srvType pathExt : Str) : Prop :=
  ∀ uriStr, device.getServiceProviderURIWithExtendedPath srvType pathExt = some (some uriStr) →
    (Platform.parseURI uriStr).isSome

/-- No mapping is due, and nothing raises in a locked part without a `try`. -/
def LockSafe (o : OpOutcome) (s : OpState) : RestOp → Prop
  | .executeDeviceServicesUpdateMapping => mappingDue s.arbiter s.device = false
  | .updateDeviceHealthInfo =>
    (Platform.parseURI (s.device.getServiceProviderURI (lit "hnsrv-health-source"))).isSome →
      Rereads s.device (lit "hnsrv-health-source") [] ∧ (Answered o → o.rest.cached = true)
  | .updateDeviceStringReferences =>
    (Platform.parseURI (s.device.getServiceProviderURI (lit "hnsrv-string-source"))).isSome →
      ¬ SetPathRaises s.device (lit "hnsrv-string-source") (lit "/format-strings") ∧
      Rereads s.device (lit "hnsrv-string-source") (lit "/format-strings") ∧
      (Platform.getUncachedStrRefList s.arbiter.caches s.device.getCRC32ID).isSome ∧
      (Answered o → o.rest.cached = true)
  | _ => True

theorem quiet_getUncachedStrRefList : Prog.Quiet getUncachedStrRefList := by
  intro s
  rw [run_getUncachedStrRefList]
  rfl

theorem quiet_updateDeviceHealth (body : Body) : Prog.Quiet (updateDeviceHealth o body) := by
  intro s
  unfold updateDeviceHealth
  cases o.rest.cached <;> rfl

theorem quiet_updateStringDefinitions (body : Body) :
    Prog.Quiet (updateStringDefinitions o body) := by
  intro s
  unfold updateStringDefinitions
  cases o.rest.cached <;> rfl

/-- The first locked region of the two: the URI is read, and parsed again. -/
theorem held_onPublishedURI {srvType pathExt : Str}
    {k : OpState → Platform.URI → DeviceOp HNMDLResult} :
    (onPublishedURI srvType pathExt k).held false s = some false ↔
      ((Platform.parseURI (s.device.getServiceProviderURI srvType)).isSome →
        ∃ uriStr uri, s.device.getServiceProviderURIWithExtendedPath srvType pathExt =
            some (some uriStr) ∧
          Platform.parseURI uriStr = some uri ∧ (k s uri).held true s = some false) := by
  have hfailure := extendedPath_eq_failure s.device srvType pathExt
  unfold onPublishedURI
  rw [Prog.held_bind]
  show (Prog.get >>= _).held true s = some false ↔ _
  rw [Prog.held_bind]
  show (Prog.orRaise _ >>= _).held true s = some false ↔ _
  rw [Prog.held_orRaise_bind]
  cases hstr : s.device.getServiceProviderURIWithExtendedPath srvType pathExt with
  | none =>
    -- an exception of setPath leaves the device locked
    rw [hstr] at hfailure
    have hparse := Option.ne_none_iff_isSome.mp fun h => nomatch hfailure.mpr h
    simp [hparse]
  | some given =>
    rw [hstr] at hfailure
    cases given with
    | none =>
      -- the catch block unlocks
      simp [hfailure.mp rfl, unlockForUpdate, Prog.held_bind]
    | some uriStr =>
      have hparse := Option.ne_none_iff_isSome.mp fun h => nomatch hfailure.mpr h
      show (Prog.orRaise (Platform.parseURI uriStr) >>= k s).held true s = some false ↔ _
      rw [Prog.held_orRaise_bind]
      cases hreread : Platform.parseURI uriStr <;> simp [hparse, hreread]

theorem exists_reread_iff {srvType pathExt : Str} {device : HNMDARecord} {P : Prop}
    (hparse : (Platform.parseURI (device.getServiceProviderURI srvType)).isSome) :
    (∃ uriStr uri, device.getServiceProviderURIWithExtendedPath srvType pathExt =
        some (some uriStr) ∧ Platform.parseURI uriStr = some uri ∧ P) ↔
      ¬ SetPathRaises device srvType pathExt ∧ Rereads device srvType pathExt ∧ P := by
  have hfailure := extendedPath_eq_failure device srvType pathExt
  rw [← extendedPath_eq_none]
  unfold Rereads
  cases hstr : device.getServiceProviderURIWithExtendedPath srvType pathExt with
  | none => simp
  | some given =>
    cases given with
    | none =>
      rw [hfailure.mp hstr] at hparse
      cases hparse
    | some uriStr => simp [Option.isSome_iff_exists]

theorem held_updateDeviceHealthInfo :
    (updateDeviceHealthInfo o).held false s = some false ↔
      LockSafe o s .updateDeviceHealthInfo := by
  have hrest : ∀ uri, (do
      unlockForUpdate
      let reply ← exchange o (requestTo uri .get .empty)
      storeInCache (updateDeviceHealth o) reply : DeviceOp HNMDLResult).held true s = some false ↔
        (Answered o → o.rest.cached = true) := fun uri =>
    held_storeInCache quiet_updateDeviceHealth fun body s => by
      unfold updateDeviceHealth
      cases o.rest.cached <;> simp
  unfold updateDeviceHealthInfo LockSafe
  rw [held_onPublishedURI]
  simp only [hrest]
  refine forall_congr' fun hparse => ?_
  rw [exists_reread_iff hparse]
  exact and_iff_right fun ⟨hpath, _⟩ => by cases hpath

theorem held_updateDeviceStringReferences :
    (updateDeviceStringReferences o).held false s = some false ↔
      LockSafe o s .updateDeviceStringReferences := by
  have hstore : ∀ req, (do
      let reply ← exchange o req
      storeInCache (updateStringDefinitions o) reply : DeviceOp HNMDLResult).held false s =
        some false ↔ (Answered o → o.rest.cached = true) := fun req =>
    held_storeInCache quiet_updateStringDefinitions fun body s => by
      unfold updateStringDefinitions
      cases o.rest.cached <;> simp
  -- the list of the codes is made while the device is locked
  have hrest : ∀ uri, (do
      let formatCodeList ← getUncachedStrRefList
      unlockForUpdate
      let reply ← exchange o
        (requestTo uri .put (.strRefs s.device.getCRC32IDStr formatCodeList))
      storeInCache (updateStringDefinitions o) reply : DeviceOp HNMDLResult).held true s =
        some false ↔
          (Platform.getUncachedStrRefList s.arbiter.caches s.device.getCRC32ID).isSome ∧
            (Answered o → o.rest.cached = true) := by
    intro uri
    rw [quiet_getUncachedStrRefList.held_bind, run_getUncachedStrRefList]
    cases Platform.getUncachedStrRefList s.arbiter.caches s.device.getCRC32ID with
    | none => simp
    | some formatCodeList => exact (hstore _).trans (and_iff_right rfl).symm
  unfold updateDeviceStringReferences LockSafe
  rw [held_onPublishedURI]
  simp only [hrest]
  exact forall_congr' fun hparse => exists_reread_iff hparse

/-- The update of the mappings is in order when no mapping is due. -/
theorem held_executeDeviceServicesUpdateMapping :
    (executeDeviceServicesUpdateMapping crc32ID o).held false s = some false ↔
      LockSafe o s .executeDeviceServicesUpdateMapping := by
  have hempty := mappingChanges_isEmpty s.arbiter s.device
  unfold executeDeviceServicesUpdateMapping LockSafe
  rw [Prog.held_bind]
  show (Prog.get >>= _).held true s = some false ↔ _
  rw [Prog.held_bind]
  show (writeDevice crc32ID _ >>= _).held true s = some false ↔ _
  rw [(quiet_writeDevice _).held_bind]
  cases hdue : mappingDue s.arbiter s.device with
  | false =>
    rw [hdue] at hempty
    simp [hempty, unlockForUpdate, writeDevice, Prog.held_bind]
  | true =>
    rw [hdue] at hempty
    -- the mutex is unlocked already
    cases hfind : (mappingChanges s.arbiter s.device).1.findPreferredConnection .ipv4 with
    | none => simp [hempty, unlockForUpdate, writeDevice, Prog.held_bind]
    | some dcInfo => simp [hempty, unlockForUpdate, writeDevice, Prog.held_bind]

/-- **The lock discipline.** In every operation, for every record and service
map, and whatever the session and the caches do, the calls on the mutex
alternate from a lock to an unlock exactly when the operation is `LockSafe`. -/
theorem lock_discipline_iff (op : RestOp) (crc32ID : Str) (o : OpOutcome) (s : OpState) :
    Alternating (op.run crc32ID o s).acts ↔ LockSafe o s op := by
  rw [alternating_iff]
  show (op.run crc32ID o).held false s = some false ↔ LockSafe o s op
  cases op with
  | updateDeviceOperationalInfo =>
    refine iff_of_true (held_onConnection_free fun dcInfo s => ?_) trivial
    refine held_afterExchange (quiet_exchange _) fun reply s => ?_
    cases reply with
    | none => rfl
    | some body => exact held_tryOwnership (quiet_readInfo body)
  | updateDeviceOwnerInfo =>
    refine iff_of_true (held_onConnection_free fun dcInfo s => ?_) trivial
    refine held_afterExchange (quiet_exchange _) fun reply s => ?_
    cases reply with
    | none => rfl
    | some body => exact held_tryOwnership (quiet_readOwner body)
  | sendDeviceClaimRequest =>
    refine iff_of_true (held_onConnection_free fun dcInfo s => ?_) trivial
    rw [quiet_get.held_bind]
    exact held_afterExchange (quiet_exchangeRendered _) fun _ _ => rfl
  | sendDeviceReleaseRequest | sendDeviceSetParameters =>
    refine iff_of_true (held_onConnection_free fun dcInfo s => ?_) trivial
    exact held_afterExchange (quiet_exchange _) fun _ _ => rfl
  | updateDeviceServicesProvideInfo =>
    refine iff_of_true (held_onConnection_free fun dcInfo s => ?_) trivial
    refine held_afterExchange (quiet_exchange _) fun reply s => ?_
    cases reply with
    | none => rfl
    | some body => exact held_storeServices quiet_readProvided _ body
  | updateDeviceServicesMappingInfo =>
    refine iff_of_true (held_onConnection_free fun dcInfo s => ?_) trivial
    refine held_afterExchange (quiet_exchange _) fun reply s => ?_
    cases reply with
    | none => rfl
    | some body => exact held_storeServices quiet_readDesired _ body
  | executeDeviceServicesUpdateMapping => exact held_executeDeviceServicesUpdateMapping
  | updateDeviceHealthInfo => exact held_updateDeviceHealthInfo
  | updateDeviceStringReferences => exact held_updateDeviceStringReferences

end Discipline

/-! ## §2. A mapping is due. -/

section Sample

open RefPlatform

/-- A device that desires the health sink, and has not been told where it is. -/
def sampleUnmapped : HNMDARecord :=
  { sampleDeviceFound.toRecord with
    srvMapDesired := (applyServicesReply ∅
      (some (.array [some [(lit "type", stringField "hnsrv-health-sink")]]))).1 }

/-- The arbiter that knows the manager and this device. -/
def sampleMapUpdate : OpState :=
  { arbiter := ((Sys.init sampleManager ()).arbiter.notifyDiscoverAdd
      sampleManagerFound.toRecord).setDevice sampleUnmapped.getCRC32IDStr sampleUnmapped
    device := sampleUnmapped }

/-- A session that is answered, with nothing in the way. -/
def sampleOutcome : OpOutcome :=
  { rest := okReply .other, meanwhile := id }

/-- **The mutex is unlocked twice**: the device is told its mapping with one lock
and two unlocks. -/
theorem unlocked_twice :
    lockCalls (RestOp.executeDeviceServicesUpdateMapping.run sampleUnmapped.getCRC32IDStr
        sampleOutcome sampleMapUpdate).acts = [.lock, .unlock, .unlock] ∧
      ¬ ∀ (op : RestOp) (crc32ID : Str) (o : OpOutcome) (s : OpState),
        Alternating (op.run crc32ID o s).acts := by
  have hcalls : lockCalls (RestOp.executeDeviceServicesUpdateMapping.run
      sampleUnmapped.getCRC32IDStr sampleOutcome sampleMapUpdate).acts =
      [.lock, .unlock, .unlock] := by decide +kernel
  refine ⟨hcalls, fun hall => ?_⟩
  have halt := alternating_iff.mp (hall .executeDeviceServicesUpdateMapping
    sampleUnmapped.getCRC32IDStr sampleOutcome sampleMapUpdate)
  rw [hcalls] at halt
  cases halt

end Sample

end HNodeMgmt.Arbiter
