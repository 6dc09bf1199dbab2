/-
  HNodeMgmt.Arbiter.RecordMutex — the update mutex of the records.

  A record makes its mutex the first time it is locked, and its destructor
  deletes it.  The copy constructor leaves the mutex out ("Do not copy over a
  mutex as they are unique to each object"), and the class has no assignment
  of its own, so `device = it->second` in `getDeviceCopy` is the compiler's,
  which copies every member.

  `Arbiter.Record` leaves the mutex out; here it stands beside the records, for
  those of the device map and for those of the callers.

  Main results:
    * `one_owner_iff` — every mutex has one owner, and the device map holds no
      deleted one, exactly in the runs in which `getDeviceCopy` finds only
      records that were never locked.
    * `copied_mutex_deleted` — the copy is destroyed, and the mutex of the
      record in the device map with it.
-/
import Mathlib.Tactic.Common
import HNodeMgmt.Lib.Machine
import HNodeMgmt.Lib.Handles
import HNodeMgmt.Arbiter.OwnRecord

namespace HNodeMgmt.Arbiter

open Lib

/-! ## §1. The record objects. -/

/-- Where a record object is: in the device map, or with a caller (a local
record or an element of a caller's list). -/
inductive RecordPlace where
  | inMap (crc32ID : Str)
  | caller (n : Nat)
  deriving DecidableEq

/-- All record objects; `mutexes.held` is their member `m_deviceMutex`, and a
mutex is known by whether it is locked.  The callers' records are numbered as
they are made. -/
structure Records [Platform] where
  arbiter : HNManagedDeviceArbiter
  callers : OrdMap Nat HNMDARecord
  nextCaller : Nat
  mutexes : Handles RecordPlace Bool

namespace Records

variable [Platform]

/-- No record yet. -/
def init (mgmtDevice : HNodeDevice) (caches : Platform.Caches) : Records :=
  { arbiter := (Sys.init mgmtDevice caches).arbiter, callers := ∅, nextCaller := 0,
    mutexes := Handles.none }

/-- The record at a place. -/
def record (s : Records) : RecordPlace → Option HNMDARecord
  | .inMap crc32ID => s.arbiter.deviceMap[crc32ID]?
  | .caller n => s.callers[n]?

def setRecord (s : Records) (p : RecordPlace) (r : HNMDARecord) : Records :=
  match p with
  | .inMap crc32ID => { s with arbiter := s.arbiter.setDevice crc32ID r }
  | .caller n => { s with callers := s.callers.insert n r }

def dropRecord (s : Records) : RecordPlace → Records
  | .inMap crc32ID =>
    { s with arbiter := { s.arbiter with deviceMap := s.arbiter.deviceMap.erase crc32ID } }
  | .caller n => { s with callers := s.callers.erase n }

/-! ## §2. The operations. -/

/-- A new record of a caller; both constructors set `m_deviceMutex` to NULL. -/
def construct (s : Records) (r : HNMDARecord) : Records :=
  { s with
    callers := s.callers.insert s.nextCaller r
    nextCaller := s.nextCaller + 1
    mutexes := s.mutexes.clear (.caller s.nextCaller) }

/-- `m_deviceMutex->lock()`: there is no step while the mutex is locked, and
none on a mutex that was deleted. -/
def lock (s : Records) (p : RecordPlace) : Option Records :=
  match s.mutexes.held p with
  | none => none
  | some m =>
    match s.mutexes.objects[m]? with
    | some false => some { s with mutexes := s.mutexes.write m true }
    | _ => none

/-- `lockForUpdate`. -/
def lockForUpdate (s : Records) (p : RecordPlace) : Option Records :=
  match s.record p with
  | none => none
  | some _ =>
    if s.mutexes.held p = none then { s with mutexes := s.mutexes.create p false }.lock p
    else s.lock p

/-- `unlockForUpdate`. -/
def unlockForUpdate (s : Records) (p : RecordPlace) : Option Records :=
  match s.record p with
  | none => none
  | some _ =>
    match s.mutexes.held p with
    | none => some s
    | some m =>
      if m ∈ s.mutexes.objects then some { s with mutexes := s.mutexes.write m false } else none

/-- The record as `notifyDiscoverAdd`, which takes it by reference, leaves it. -/
def afterDiscovery (a : HNManagedDeviceArbiter) (record : HNMDARecord) : HNMDARecord :=
  match a.deviceMap[record.getCRC32IDStr]? with
  | some _ => record
  | none =>
    if record.getCRC32IDStr = a.getSelfCRC32IDStr then
      (a.initMgmtDevice record).setManagementState .self
    else record.setManagementState .discovered

/-- `notifyDiscoverAdd` with a caller's record: a new ID is inserted by copy
construction, and `updateRecord` does not touch the mutex of a known one. -/
def notifyDiscoverAdd (s : Records) (n : Nat) : Option Records :=
  match s.callers[n]? with
  | none => none
  | some r =>
    some { s with
      arbiter := s.arbiter.notifyDiscoverAdd r
      callers := s.callers.insert n (afterDiscovery s.arbiter r)
      mutexes :=
        match s.arbiter.deviceMap[r.getCRC32IDStr]? with
        | none => s.mutexes.clear (.inMap r.getCRC32IDStr)
        | some _ => s.mutexes }

/-- `getDeviceListCopy` into a new list: every element is copy constructed. -/
def getDeviceListCopy (s : Records) : Records :=
  s.arbiter.getDeviceListCopy.foldl (fun s r => s.construct r) s

/-- `getDeviceCopy` into a caller's record.  The assignment is memberwise: the
fields, and the pointer to the mutex. -/
def getDeviceCopy (s : Records) (crc32ID : Str) (n : Nat) : Option (Records × HNMDLResult) :=
  match s.callers[n]? with
  | none => none
  | some _ =>
    match s.arbiter.deviceMap[crc32ID]? with
    | none => some (s, .failure)
    | some device =>
      some ({ s with
        callers := s.callers.insert n device
        mutexes := s.mutexes.assign (.caller n) (.inMap crc32ID) }, .success)

/-- The destructor. -/
def destroy (s : Records) (p : RecordPlace) : Option Records :=
  match s.record p with
  | none => none
  | some _ =>
    match s.mutexes.delete p with
    | none => none
    | some mutexes => some { s.dropRecord p with mutexes }

end Records

/-! ## §3. Sequences of operations. -/

/-- The operations on record objects.  `setFields` stands for the setters and
the update functions of a record, none of which touches the mutex. -/
inductive RecordOp [Platform] where
  | construct
  | setFields (p : RecordPlace) (r : HNMDARecord)
  | lockForUpdate (p : RecordPlace)
  | unlockForUpdate (p : RecordPlace)
  | notifyDiscoverAdd (n : Nat)
  | getDeviceListCopy
  | getDeviceCopy (crc32ID : Str) (n : Nat)
  | destroy (p : RecordPlace)

section Ownership

variable [Platform]

/-- One operation, and the results it returns. -/
def recordStep (s : Records) : RecordOp → Option (Records × List HNMDLResult)
  | .construct => some (s.construct HNMDARecord.new, [])
  | .setFields p r => (s.record p).map fun _ => (s.setRecord p r, [])
  | .lockForUpdate p => (s.lockForUpdate p).map fun s' => (s', [])
  | .unlockForUpdate p => (s.unlockForUpdate p).map fun s' => (s', [])
  | .notifyDiscoverAdd n => (s.notifyDiscoverAdd n).map fun s' => (s', [.success])
  | .getDeviceListCopy => some (s.getDeviceListCopy, [])
  | .getDeviceCopy crc32ID n => (s.getDeviceCopy crc32ID n).map fun r => (r.1, [r.2])
  | .destroy p => (s.destroy p).map fun s' => (s', [])

def recordMachine : Machine Records RecordOp HNMDLResult := { step := recordStep }

/-- There is a record at `p`, and its mutex is `m`. -/
def Records.Holds (s : Records) (p : RecordPlace) (m : Nat) : Prop :=
  (s.record p).isSome ∧ s.mutexes.held p = some m

/-- Every mutex has one owner, and no record of the device map holds a deleted
one. -/
structure MutexOwned (s : Records) : Prop where
  oneOwner : ∀ p q m, s.Holds p m → s.Holds q m → p = q
  mapLive : ∀ crc32ID m, s.Holds (.inMap crc32ID) m → m ∈ s.mutexes.objects

/-- `getDeviceCopy` finds no record that has a mutex. -/
def CopiesNoMutex (s : Records) : RecordOp → Prop
  | .getDeviceCopy crc32ID n =>
    (s.callers[n]?).isSome → (s.arbiter.deviceMap[crc32ID]?).isSome →
      s.mutexes.held (.inMap crc32ID) = none
  | _ => True

instance (s : Records) : ∀ op, Decidable (CopiesNoMutex s op)
  | .getDeviceCopy crc32ID n => inferInstanceAs (Decidable ((s.callers[n]?).isSome →
      (s.arbiter.deviceMap[crc32ID]?).isSome → s.mutexes.held (.inMap crc32ID) = none))
  | .construct | .setFields _ _ | .lockForUpdate _ | .unlockForUpdate _ | .notifyDiscoverAdd _
  | .getDeviceListCopy | .destroy _ => isTrue trivial

variable {s s' : Records}

theorem MutexOwned.of_oneOwner (hown : OneOwner s.mutexes) : MutexOwned s :=
  ⟨fun p q m hp hq => hown.unique p q m hp.2 hq.2,
    fun crc32ID m hholds => hown.live (.inMap crc32ID) m hholds.2⟩

/-- While every mutex has one owner, no destructor deletes a mutex again. -/
theorem exists_destroy {p : RecordPlace} (hown : OneOwner s.mutexes)
    (hrec : (s.record p).isSome) : ∃ s', s.destroy p = some s' := by
  obtain ⟨r, hr⟩ := Option.isSome_iff_exists.mp hrec
  obtain ⟨mutexes, hdel⟩ := hown.exists_delete p
  refine ⟨{ s.dropRecord p with mutexes }, ?_⟩
  unfold Records.destroy
  simp only [hr, hdel]

/-- And `lockForUpdate` waits at most for another thread. -/
theorem exists_lockForUpdate {p : RecordPlace} (hown : OneOwner s.mutexes)
    (hrec : (s.record p).isSome) :
    (∃ s', s.lockForUpdate p = some s') ∨
      ∃ m, s.mutexes.held p = some m ∧ s.mutexes.objects[m]? = some true := by
  obtain ⟨r, hr⟩ := Option.isSome_iff_exists.mp hrec
  unfold Records.lockForUpdate
  simp only [hr]
  cases hheld : s.mutexes.held p with
  | none =>
    refine Or.inl ⟨{ s with mutexes := (s.mutexes.create p false).write s.mutexes.next true }, ?_⟩
    simp [Records.lock, Handles.create]
  | some m =>
    obtain ⟨locked, hobj⟩ := (OrdMap.mem_iff_get _ m).mp (hown.live p m hheld)
    cases locked with
    | true => exact Or.inr ⟨m, rfl, hobj⟩
    | false =>
      refine Or.inl ⟨{ s with mutexes := s.mutexes.write m true }, ?_⟩
      simp [Records.lock, hheld, hobj]

/-! ### One operation. -/

theorem oneOwner_lock {p : RecordPlace} (hown : OneOwner s.mutexes) (h : s.lock p = some s') :
    OneOwner s'.mutexes := by
  unfold Records.lock at h
  cases hheld : s.mutexes.held p with
  | none =>
    rw [hheld] at h
    cases h
  | some m =>
    simp only [hheld] at h
    cases hobj : s.mutexes.objects[m]? with
    | none =>
      rw [hobj] at h
      cases h
    | some locked =>
      rw [hobj] at h
      cases locked with
      | true => cases h
      | false =>
        obtain rfl := Option.some.inj h
        exact hown.write (hown.live p m hheld) true

theorem oneOwner_lockForUpdate {p : RecordPlace} (hown : OneOwner s.mutexes)
    (h : s.lockForUpdate p = some s') : OneOwner s'.mutexes := by
  unfold Records.lockForUpdate at h
  cases hrec : s.record p with
  | none =>
    rw [hrec] at h
    cases h
  | some r =>
    simp only [hrec] at h
    split at h
    next =>
      have hnew : OneOwner { s with mutexes := s.mutexes.create p false }.mutexes :=
        hown.create p false
      exact oneOwner_lock hnew h
    next => exact oneOwner_lock hown h

theorem oneOwner_unlockForUpdate {p : RecordPlace} (hown : OneOwner s.mutexes)
    (h : s.unlockForUpdate p = some s') : OneOwner s'.mutexes := by
  unfold Records.unlockForUpdate at h
  cases hrec : s.record p with
  | none =>
    rw [hrec] at h
    cases h
  | some r =>
    simp only [hrec] at h
    cases hheld : s.mutexes.held p with
    | none =>
      rw [hheld] at h
      obtain rfl := Option.some.inj h
      exact hown
    | some m =>
      have hlive := hown.live p m hheld
      simp only [hheld, if_pos hlive] at h
      obtain rfl := Option.some.inj h
      exact hown.write hlive false

theorem oneOwner_notifyDiscoverAdd {n : Nat} (hown : OneOwner s.mutexes)
    (h : s.notifyDiscoverAdd n = some s') : OneOwner s'.mutexes := by
  unfold Records.notifyDiscoverAdd at h
  cases hcaller : s.callers[n]? with
  | none =>
    rw [hcaller] at h
    cases h
  | some r =>
    simp only [hcaller] at h
    obtain rfl := Option.some.inj h
    show OneOwner (match s.arbiter.deviceMap[r.getCRC32IDStr]? with
      | none => s.mutexes.clear (.inMap r.getCRC32IDStr)
      | some _ => s.mutexes)
    cases s.arbiter.deviceMap[r.getCRC32IDStr]? with
    | none => exact hown.clear _
    | some known => exact hown

theorem oneOwner_getDeviceListCopy (hown : OneOwner s.mutexes) :
    OneOwner s.getDeviceListCopy.mutexes := by
  have hloop : ∀ (l : List HNMDARecord) (s : Records), OneOwner s.mutexes →
      OneOwner (l.foldl (fun s r => s.construct r) s).mutexes := by
    intro l
    induction l with
    | nil => exact fun _ hown => hown
    | cons r l ih => exact fun s hown => ih (s.construct r) (hown.clear (.caller s.nextCaller))
  exact hloop _ s hown

theorem oneOwner_destroy {p : RecordPlace} (hown : OneOwner s.mutexes)
    (h : s.destroy p = some s') : OneOwner s'.mutexes := by
  unfold Records.destroy at h
  cases hrec : s.record p with
  | none =>
    rw [hrec] at h
    cases h
  | some r =>
    simp only [hrec] at h
    cases hdel : s.mutexes.delete p with
    | none =>
      rw [hdel] at h
      cases h
    | some mutexes =>
      simp only [hdel] at h
      obtain rfl := Option.some.inj h
      exact hown.delete hdel

/-- What `getDeviceCopy` does to the records and to the mutexes. -/
theorem getDeviceCopy_cases {crc32ID : Str} {n : Nat} {result : HNMDLResult}
    (h : s.getDeviceCopy crc32ID n = some (s', result)) :
    (s.callers[n]?).isSome = true ∧
      ((s.arbiter.deviceMap[crc32ID]? = none ∧ s' = s) ∨
        ((s.record (.inMap crc32ID)).isSome = true ∧ (s'.record (.inMap crc32ID)).isSome = true ∧
          (s'.record (.caller n)).isSome = true ∧
          s'.mutexes = s.mutexes.assign (.caller n) (.inMap crc32ID))) := by
  unfold Records.getDeviceCopy at h
  cases hcaller : s.callers[n]? with
  | none =>
    rw [hcaller] at h
    cases h
  | some r =>
    simp only [hcaller] at h
    refine ⟨rfl, ?_⟩
    cases hget : s.arbiter.deviceMap[crc32ID]? with
    | none =>
      rw [hget] at h
      exact Or.inl ⟨rfl, (Prod.mk.inj (Option.some.inj h)).1.symm⟩
    | some device =>
      rw [hget] at h
      obtain ⟨rfl, -⟩ := Prod.mk.inj (Option.some.inj h)
      have hrec : (s.record (.inMap crc32ID)).isSome = true := Option.isSome_of_eq_some hget
      have hcopy : (s.callers.insert n device)[n]? = some device := by
        rw [OrdMap.get_insert, if_pos rfl]
      exact Or.inr ⟨hrec, hrec, Option.isSome_of_eq_some hcopy, rfl⟩

/-- **One operation** that copies no mutex keeps one owner for each. -/
theorem oneOwner_step {op : RecordOp} {results : List HNMDLResult}
    (hown : OneOwner s.mutexes) (hcopies : CopiesNoMutex s op)
    (hstep : recordMachine.step s op = some (s', results)) : OneOwner s'.mutexes := by
  cases op with
  | construct =>
    obtain ⟨rfl, -⟩ := Prod.mk.inj (Option.some.inj hstep)
    exact hown.clear (.caller s.nextCaller)
  | setFields p r =>
    obtain ⟨_, -, heq⟩ := Option.map_eq_some_iff.mp hstep
    obtain ⟨rfl, -⟩ := Prod.mk.inj heq
    cases p with
    | inMap => exact hown
    | caller => exact hown
  | lockForUpdate p =>
    obtain ⟨_, hlock, heq⟩ := Option.map_eq_some_iff.mp hstep
    obtain ⟨rfl, -⟩ := Prod.mk.inj heq
    exact oneOwner_lockForUpdate hown hlock
  | unlockForUpdate p =>
    obtain ⟨_, hunlock, heq⟩ := Option.map_eq_some_iff.mp hstep
    obtain ⟨rfl, -⟩ := Prod.mk.inj heq
    exact oneOwner_unlockForUpdate hown hunlock
  | notifyDiscoverAdd n =>
    obtain ⟨_, hadd, heq⟩ := Option.map_eq_some_iff.mp hstep
    obtain ⟨rfl, -⟩ := Prod.mk.inj heq
    exact oneOwner_notifyDiscoverAdd hown hadd
  | getDeviceListCopy =>
    obtain ⟨rfl, -⟩ := Prod.mk.inj (Option.some.inj hstep)
    exact oneOwner_getDeviceListCopy hown
  | getDeviceCopy crc32ID n =>
    obtain ⟨_, hcopy, heq⟩ := Option.map_eq_some_iff.mp hstep
    obtain ⟨rfl, -⟩ := Prod.mk.inj heq
    obtain ⟨hcaller, ⟨-, hsame⟩ | ⟨hknown, -, -, hassign⟩⟩ := getDeviceCopy_cases hcopy
    · exact hsame ▸ hown
    · -- the assignment hands over the handle, of which the map's record has none
      rw [hassign]
      exact hown.assign (hcopies hcaller hknown)
  | destroy p =>
    obtain ⟨_, hdestroy, heq⟩ := Option.map_eq_some_iff.mp hstep
    obtain ⟨rfl, -⟩ := Prod.mk.inj heq
    exact oneOwner_destroy hown hdestroy

/-- An operation after which every mutex still has one owner has copied none. -/
theorem copiesNoMutex_of_owned {op : RecordOp} {results : List HNMDLResult}
    (hstep : recordMachine.step s op = some (s', results)) (howned : MutexOwned s') :
    CopiesNoMutex s op := by
  cases op with
  | getDeviceCopy crc32ID n =>
    intro hcaller hknown
    obtain ⟨r, hcopy, heq⟩ := Option.map_eq_some_iff.mp hstep
    obtain ⟨rfl, -⟩ := Prod.mk.inj heq
    obtain ⟨-, ⟨hnone, -⟩ | ⟨-, hmap, hlocal, hassign⟩⟩ := getDeviceCopy_cases hcopy
    · rw [hnone] at hknown
      cases hknown
    · cases hheld : s.mutexes.held (.inMap crc32ID) with
      | none => rfl
      | some m =>
        -- otherwise the caller's record and the map's hold one mutex
        obtain ⟨hp, hq⟩ := held_assign (p := RecordPlace.caller n) hheld
        rw [← hassign] at hp hq
        cases howned.oneOwner (.caller n) (.inMap crc32ID) m ⟨hlocal, hp⟩ ⟨hmap, hq⟩
  | _ => trivial

/-! ### Every sequence of operations. -/

/-- **Every mutex has one owner** exactly in the runs in which `getDeviceCopy`
finds no record with a mutex. -/
theorem one_owner_iff (mgmtDevice : HNodeDevice) (caches : Platform.Caches)
    (ts : List (Trans Records RecordOp HNMDLResult)) (s : Records)
    (hr : Run recordMachine (Records.init mgmtDevice caches) ts s) :
    (∀ t ∈ ts, MutexOwned t.post) ↔ StepsMeet CopiesNoMutex ts := by
  refine (Run.kept_iff (I := fun s => OneOwner s.mutexes) (K := fun t => MutexOwned t.post)
    OneOwner.none ?_ ?_ hr).symm
  · intro u op v results hown hcopies hstep
    have hown' := oneOwner_step hown hcopies hstep
    exact ⟨hown', MutexOwned.of_oneOwner hown'⟩
  · exact fun u op v results _ hstep howned => copiesNoMutex_of_owned hstep howned

end Ownership

/-! ## §4. A record is locked, copied and locked again. -/

section Sample

open RefPlatform

/-- The main loop's record of a node, put into the device map. -/
def discoveredOps : List RecordOp :=
  [.construct, .setFields (.caller 0) sampleDeviceFound.toRecord, .notifyDiscoverAdd 0,
    .destroy (.caller 0)]

/-- The place of that record. -/
def deviceInMap : RecordPlace := .inMap sampleDeviceFound.toRecord.getCRC32IDStr

/-- The device is asked for before it is locked; later it is listed. -/
def ownedOps : List RecordOp :=
  discoveredOps ++ [.construct, .getDeviceCopy sampleDeviceFound.toRecord.getCRC32IDStr 1,
    .lockForUpdate deviceInMap, .unlockForUpdate deviceInMap, .getDeviceListCopy,
    .lockForUpdate (.caller 1), .unlockForUpdate (.caller 1), .destroy (.caller 1),
    .destroy (.caller 2), .lockForUpdate deviceInMap]

/-- The record in the map keeps its mutex to itself. -/
theorem one_owner_sample :
    ∃ ts s, Run recordMachine (Records.init sampleManager ()) ts s ∧
      s.mutexes.held deviceInMap = some 0 ∧ ∀ t ∈ ts, MutexOwned t.post := by
  obtain ⟨ts, s, hr, hp⟩ := Machine.exists_run_of_exec (M := recordMachine)
    (s := Records.init sampleManager ()) (l := ownedOps)
    (p := fun r => decide (r.2.mutexes.held deviceInMap = some 0) &&
      r.1.all fun t => decide (CopiesNoMutex t.pre t.label))
    (by decide +kernel)
  obtain ⟨hheld, hall⟩ := Bool.and_eq_true_iff.mp hp
  refine ⟨ts, s, hr, of_decide_eq_true hheld,
    (one_owner_iff sampleManager () ts s hr).mpr fun t ht => ?_⟩
  exact of_decide_eq_true (List.all_eq_true.mp hall t ht)

/-- The status of a device that the monitor has locked is asked for. -/
def copiedOps : List RecordOp :=
  discoveredOps ++ [.lockForUpdate deviceInMap, .unlockForUpdate deviceInMap, .construct,
    .getDeviceCopy sampleDeviceFound.toRecord.getCRC32IDStr 1, .destroy (.caller 1)]

/-- **The copy takes the mutex with it**: the record in the device map is left
with a deleted mutex, and cannot be locked again. -/
theorem copied_mutex_deleted :
    ∃ ts s, Run recordMachine (Records.init sampleManager ()) ts s ∧
      s.Holds deviceInMap 0 ∧ 0 ∉ s.mutexes.objects ∧ (s.lockForUpdate deviceInMap).isNone ∧
      ¬ ∀ t ∈ ts, MutexOwned t.post := by
  obtain ⟨ts, s, hr, hp⟩ := Machine.exists_run_of_exec (M := recordMachine)
    (s := Records.init sampleManager ()) (l := copiedOps)
    (p := fun r => (decide ((r.2.record deviceInMap).isSome ∧
        r.2.mutexes.held deviceInMap = some 0 ∧ 0 ∉ r.2.mutexes.objects ∧
        (r.2.lockForUpdate deviceInMap).isNone)) &&
      r.1.any fun t => decide ((t.post.record deviceInMap).isSome ∧
        t.post.mutexes.held deviceInMap = some 0 ∧ 0 ∉ t.post.mutexes.objects))
    (by decide +kernel)
  obtain ⟨hend, hany⟩ := Bool.and_eq_true_iff.mp hp
  obtain ⟨hrec, hheld, hdeleted, hlock⟩ := of_decide_eq_true hend
  refine ⟨ts, s, hr, ⟨hrec, hheld⟩, hdeleted, hlock, fun hall => ?_⟩
  obtain ⟨t, ht, hdec⟩ := List.any_eq_true.mp hany
  obtain ⟨hrec', hheld', hdeleted'⟩ := of_decide_eq_true hdec
  exact hdeleted' ((hall t ht).mapLive _ 0 ⟨hrec', hheld'⟩)

end Sample

end HNodeMgmt.Arbiter
