/-
  HNodeMgmt.Arbiter.Fairness — every device has its turn in every pass.

  The monitor walks the device map with an iterator and holds no lock on the map
  while it walks, so that devices are discovered in the middle of a walk, before
  the iterator or behind it.  Records are not erased and an insertion
  leaves the iterator where it is: what it comes to next is the first key above
  the one it leaves, in the map as it then is.

  A turn that is still to come in this pass is a debt of the pass.  A wakeup
  takes one on for each device, and a device's turn pays it back.

  Main results:
    * `account_step` — what a step does to the debt of one device.
    * `fair_turns` — from idle to idle a known device has had as many turns as
      there were passes, and a device discovered on the way no more; at any
      moment it is at most one turn behind.
-/
import Mathlib.Tactic.Common
import HNodeMgmt.Lib.Budget
import HNodeMgmt.Arbiter.RecordSteps

namespace HNodeMgmt.Arbiter

open Lib

/-! ## §1. Turns and passes. -/

section Fairness

variable [Platform]

/-- A device's turn begins: the monitor reads its state. -/
def turnOf (id : Str) (t : Trans Sys Label Event) : Nat :=
  if t.label = .readState ∧ t.pre.monitor = .atDevice id then 1 else 0

/-- A pass begins. -/
def passOf (t : Trans Sys Label Event) : Nat :=
  if t.label = .wakeup then 1 else 0

omit [Platform] in
/-- The turn of the device is still to come in this pass: the walk has not come
to its key, or has and has not read its state. -/
def toCome (id : Str) : MonitorPhase → Nat
  | .idle | .dead => 0
  | .atDevice k => if compare k id = .gt then 0 else 1
  | .acting k _ | .waiting k _ _ | .writing k _ _ => if compare k id = .lt then 1 else 0

/-- The debt of the pass to the device. -/
def owed (id : Str) (s : Sys) : Nat := toCome id s.monitor

variable {u v s s' : Sys} {id : Str} {l : Label} {es : List Event}
  {ts : List (Trans Sys Label Event)}

omit [Platform] in
theorem toCome_le_one (phase : MonitorPhase) : toCome id phase ≤ 1 := by
  cases phase with
  | idle | dead => exact Nat.zero_le 1
  | atDevice k | acting k st | waiting k st op | writing k st next =>
    simp only [toCome]
    split <;> decide

/-! ## §2. The account of one step. -/

/-- The iterator moves on: it passes over no key of the map, and the turns to
come are those of the keys above. -/
theorem toCome_advance (a : HNManagedDeviceArbiter) (k id : Str) :
    toCome id (advance a k) ≤ (if compare k id = .lt then 1 else 0) ∧
      (id ∈ a.deviceMap →
        toCome id (advance a k) = if compare k id = .lt then 1 else 0) := by
  unfold advance
  rcases OrdMap.next?_cases a.deviceMap k with ⟨hnone, hall⟩ | ⟨k', hnext, hlt, hleast⟩
  · rw [hnone]
    refine ⟨Nat.zero_le _, fun hmem => ?_⟩
    rw [if_neg (hall id hmem)]
    rfl
  · rw [hnext]
    show (if compare k' id = .gt then 0 else 1) ≤ _ ∧
      (_ → (if compare k' id = .gt then 0 else 1) = _)
    -- a key that is not below the new one is above the old one
    have habove : compare k' id ≠ .gt → compare k id = .lt := by
      intro hle
      exact Std.TransCmp.lt_of_lt_of_isLE hlt (Ordering.isLE_iff_ne_gt.mpr hle)
    refine ⟨?_, fun hmem => ?_⟩
    · by_cases hle : compare k' id = .gt
      · rw [if_pos hle]
        exact Nat.zero_le _
      · rw [if_neg hle, if_pos (habove hle)]
    · by_cases hlt' : compare k id = .lt
      · rw [if_neg (hleast id hmem hlt'), if_pos hlt']
      · rw [if_neg hlt', if_pos (by_contra fun hle => hlt' (habove hle))]

/-- A wakeup begins the walk at the first key. -/
theorem wakeup_account (id : Str) (hstep : system.step u .wakeup = some (v, es)) :
    owed id u = 0 ∧ owed id v ≤ 1 ∧ (id ∈ u.arbiter.deviceMap → owed id v = 1) := by
  have hstep' : u.step .wakeup = some (v, es) := hstep
  simp only [Sys.step] at hstep'
  split at hstep'
  next hidle =>
    obtain ⟨rfl, rfl⟩ := Prod.mk.inj (Option.some.inj hstep')
    refine ⟨by rw [owed, hidle]; rfl, toCome_le_one _, fun hmem => ?_⟩
    unfold owed
    cases hfirst : u.arbiter.deviceMap.keys.head? with
    | none =>
      -- the device is known, so there is a first key
      have hnil := List.head?_eq_none_iff.mp hfirst
      rw [← Std.ExtTreeMap.mem_keys, hnil] at hmem
      cases hmem
    | some first =>
      show (if compare first id = .gt then 0 else 1) = 1
      rw [if_neg (OrdMap.head?_least hfirst id hmem)]
  next => cases hstep'

theorem turnOf_other (hlabel : l ≠ .readState) : turnOf id ⟨u, l, es, v⟩ = 0 :=
  if_neg fun h => hlabel h.1

theorem passOf_other (hlabel : l ≠ .wakeup) : passOf (⟨u, l, es, v⟩ : Trans Sys Label Event) = 0 :=
  if_neg hlabel

/-- What is owed to a device after a step, and the turn it has had in it, are no
more than what was owed and the pass begun; for a known device, while the
monitor lives, they are just that. -/
structure Account (id : Str) (t : Trans Sys Label Event) : Prop where
  bounded : turnOf id t + owed id t.post ≤ owed id t.pre + passOf t
  exact : id ∈ t.pre.arbiter.deviceMap → t.post.monitor ≠ .dead →
    turnOf id t + owed id t.post = owed id t.pre + passOf t

/-- The monitor stays with the device it is at. -/
theorem Account.stays {t : Trans Sys Label Event} (hturn : turnOf id t = 0) (hpass : passOf t = 0)
    (hphase : owed id t.post = owed id t.pre) : Account id t := by
  have heq : turnOf id t + owed id t.post = owed id t.pre + passOf t := by
    rw [hturn, hpass, hphase, Nat.zero_add, Nat.add_zero]
  exact ⟨Nat.le_of_eq heq, fun _ _ => heq⟩

/-- An exception ends the pass, and with it what it owes. -/
theorem Account.ends {t : Trans Sys Label Event} (hturn : turnOf id t = 0)
    (hdead : t.post.monitor = .dead) : Account id t := by
  refine ⟨?_, fun _ hlive => absurd hdead hlive⟩
  rw [hturn, owed, hdead]
  exact Nat.zero_le _

/-- The walk moves on from the device `k`, which has had its turn. -/
theorem Account.advances {t : Trans Sys Label Event} {k : Str} (hpass : passOf t = 0)
    (hpost : t.post.monitor = advance t.pre.arbiter k)
    (hturn : turnOf id t + (if compare k id = .lt then 1 else 0) = owed id t.pre) :
    Account id t := by
  obtain ⟨hle, heq⟩ := toCome_advance t.pre.arbiter k id
  have hpost' : owed id t.post = toCome id (advance t.pre.arbiter k) := by rw [owed, hpost]
  refine ⟨?_, fun hmem _ => ?_⟩
  · rw [hpost', hpass, ← hturn, Nat.add_zero]
    exact Nat.add_le_add_left hle _
  · rw [hpost', hpass, ← hturn, heq hmem, Nat.add_zero]

/-- A turn of `k` that begins is the turn of one device. -/
theorem turn_begins {k : Str} (hphase : u.monitor = .atDevice k) :
    turnOf id ⟨u, .readState, es, v⟩ + (if compare k id = .lt then 1 else 0) = owed id u := by
  rw [owed, hphase, turnOf]
  simp only [hphase, true_and, MonitorPhase.atDevice.injEq, toCome]
  cases hcmp : compare k id with
  | lt =>
    have hne : k ≠ id := fun heq => by
      rw [heq, Std.ReflOrd.compare_self] at hcmp
      cases hcmp
    rw [if_neg hne]
    rfl
  | eq =>
    rw [if_pos (Std.LawfulEqOrd.eq_of_compare hcmp)]
    rfl
  | gt =>
    have hne : k ≠ id := fun heq => by
      rw [heq, Std.ReflOrd.compare_self] at hcmp
      cases hcmp
    rw [if_neg hne]
    rfl

/-- **The account of one step.** -/
theorem account_step (hstep : system.step u l = some (v, es)) : Account id ⟨u, l, es, v⟩ := by
  cases took_of_step hstep with
  | add event | remove event | setCmd dev body | startCmd dev =>
    exact .stays (turnOf_other (by nofun)) (passOf_other (by nofun)) rfl
  | wakeup phase hphase hnext =>
    obtain ⟨hzero, hle, hone⟩ := wakeup_account id hstep
    have hpass : passOf (⟨u, .wakeup, [], ⟨{ u.arbiter with monitorWaitTime := 10 }, phase⟩⟩ :
        Trans Sys Label Event) = 1 := if_pos rfl
    refine ⟨?_, fun hmem _ => ?_⟩
    · rw [turnOf_other (by nofun), hpass, hzero, Nat.zero_add]
      exact hle
    · rw [turnOf_other (by nofun), hpass, hzero, Nat.zero_add]
      exact hone hmem
  | skip dev device hphase hget hidle =>
    exact .advances (passOf_other (by nofun)) rfl (turn_begins hphase)
  | read dev device hphase hget hbusy =>
    have heq : turnOf id ⟨u, .readState, [], ⟨u.arbiter, .acting dev device.mgmtState⟩⟩ +
        owed id ⟨u.arbiter, .acting dev device.mgmtState⟩ = owed id u + 0 := turn_begins hphase
    exact ⟨Nat.le_of_eq heq, fun _ _ => heq⟩
  | actAlone dev st device hphase hget hop =>
    refine .stays (turnOf_other (by nofun)) (passOf_other (by nofun)) ?_
    rw [owed, owed, hphase]
    rfl
  | actFinished dev st device op result hphase hget hop hstart =>
    refine .stays (turnOf_other (by nofun)) (passOf_other (by nofun)) ?_
    rw [owed, owed, hphase]
    rfl
  | actRequest dev st device op req hphase hget hop hstart =>
    refine .stays (turnOf_other (by nofun)) (passOf_other (by nofun)) ?_
    rw [owed, owed, hphase]
    rfl
  | actRaised dev st device op hphase hget hop hstart => exact .ends (turnOf_other (by nofun)) rfl
  | replyRaised dev st op device o hphase hget hfinish =>
    exact .ends (turnOf_other (by nofun)) rfl
  | replyDone dev st op device o a' result hphase hget hfinish hstores =>
    refine .stays (turnOf_other (by nofun)) (passOf_other (by nofun)) ?_
    rw [owed, owed, hphase]
    rfl
  | write dev st next device hphase hget =>
    refine .advances (k := dev) (passOf_other (by nofun)) rfl ?_
    rw [turnOf_other (by nofun), owed, hphase, Nat.zero_add]
    rfl

/-! ## §3. The account of a run. -/

/-- A known device stays known. -/
theorem known_step (hstep : system.step u l = some (v, es)) (hmem : id ∈ u.arbiter.deviceMap) :
    id ∈ v.arbiter.deviceMap := by
  obtain ⟨device, hget⟩ := (OrdMap.mem_iff_get _ _).mp hmem
  obtain ⟨device', hget', -⟩ := (recordTook_of_took (took_of_step hstep) id).stateChange hget
  exact (OrdMap.mem_iff_get _ _).mpr ⟨device', hget'⟩

/-- A monitor that an exception has ended stays so. -/
theorem dead_step (hstep : system.step u l = some (v, es)) (hdead : u.monitor = .dead) :
    v.monitor = .dead := by
  cases took_of_step hstep with
  | add event | remove event | setCmd dev body | startCmd dev => exact hdead
  | actRaised | replyRaised => rfl
  | wakeup _ hphase | skip _ _ hphase | read _ _ hphase | actAlone _ _ _ hphase
  | actFinished _ _ _ _ _ hphase | actRequest _ _ _ _ _ hphase
  | replyDone _ _ _ _ _ _ _ hphase | write _ _ _ _ hphase => cases hphase.symm.trans hdead

/-- The turns a device has had in a run, and the passes begun. -/
def turnsOf (id : Str) (ts : List (Trans Sys Label Event)) : Nat := total (turnOf id) ts

def passesOf (ts : List (Trans Sys Label Event)) : Nat := total passOf ts

/-- No device has more turns than there are passes, but for the one it was owed. -/
theorem turnsOf_le (id : Str) (hr : Run system s ts s') :
    turnsOf id ts + owed id s' ≤ owed id s + passesOf ts :=
  Run.budget (J := fun _ => True) trivial (fun _ _ _ _ _ _ => trivial)
    (fun _ _ _ _ _ hstep => (account_step hstep).bounded) hr

/-- A known device has as many. -/
theorem turnsOf_eq (hr : Run system s ts s') (hmem : id ∈ s.arbiter.deviceMap)
    (hlive : s'.monitor ≠ .dead) : turnsOf id ts + owed id s' = owed id s + passesOf ts :=
  Run.balance (J := fun u => id ∈ u.arbiter.deviceMap) (D := fun u => u.monitor = .dead) hmem
    (fun _ _ _ _ hmem hstep => known_step hstep hmem)
    (fun _ _ _ _ hdead hstep => dead_step hstep hdead)
    (fun _ _ _ _ hmem hlive hstep => (account_step hstep).exact hmem hlive) hr hlive

/-- From sleep to sleep it has exactly one turn in every pass. -/
theorem turnsOf_asleep (hr : Run system s ts s') (hidle : s.monitor = .idle)
    (hmem : id ∈ s.arbiter.deviceMap) (hend : s'.monitor = .idle) :
    turnsOf id ts = passesOf ts := by
  have heq := turnsOf_eq hr hmem fun hdead => by cases hend.symm.trans hdead
  have hstart : owed id s = 0 := by rw [owed, hidle]; rfl
  have hnone : owed id s' = 0 := by rw [owed, hend]; rfl
  omega

/-- **Every device has its turn.**  In a run that starts with the monitor
asleep, whatever the main thread does meanwhile: no device has had more turns
than there were passes; a device known from the start is at most one turn
behind, unless an exception has ended the monitor, and has had a turn in every
pass when the monitor is asleep again. -/
theorem fair_turns (hr : Run system s ts s') (hidle : s.monitor = .idle) :
    turnsOf id ts ≤ passesOf ts ∧
      (id ∈ s.arbiter.deviceMap → s'.monitor ≠ .dead → passesOf ts ≤ turnsOf id ts + 1) ∧
      (id ∈ s.arbiter.deviceMap → s'.monitor = .idle → turnsOf id ts = passesOf ts) := by
  have hstart : owed id s = 0 := by rw [owed, hidle]; rfl
  refine ⟨?_, fun hmem hlive => ?_, fun hmem hend => turnsOf_asleep hr hidle hmem hend⟩
  · have hle := turnsOf_le id hr
    omega
  · have heq := turnsOf_eq hr hmem hlive
    have hone : owed id s' ≤ 1 := toCome_le_one s'.monitor
    omega

end Fairness

/-! ### A walk with a discovery in its middle. -/

section Sample

open RefPlatform

/-- The device is known, the manager has yet to discover itself. -/
def sampleAlone : Sys :=
  { Sys.init sampleManager () with
    arbiter := (Sys.init sampleManager ()).arbiter.notifyDiscoverAdd sampleDeviceFound.toRecord }

/-- Two passes.  In the first the manager's own record comes behind the iterator. -/
def sampleWalks : List Label :=
  [.wakeup, .readState, .act, .notifyDiscoverAdd sampleManagerFound, .writeState] ++
  [.wakeup, .readState, .act, .writeState, .readState, .act, .reply (okReply (.object [])),
    .writeState]

/-- The device has its two turns, and the manager's record no more. -/
theorem fair_turns_sample :
    ∃ ts s', Run system sampleAlone ts s' ∧ passesOf ts = 2 ∧
      turnsOf sampleDeviceFound.toRecord.getCRC32IDStr ts = 2 ∧
      turnsOf sampleManagerFound.toRecord.getCRC32IDStr ts ≤ 2 := by
  obtain ⟨ts, s', hr, hp⟩ := Machine.exists_run_of_exec (M := system) (s := sampleAlone)
    (l := sampleWalks) (p := fun r => passesOf r.1 = 2 ∧ r.2.monitor = .idle)
    (by decide +kernel)
  obtain ⟨hpasses, hend⟩ := of_decide_eq_true hp
  have hknown : sampleDeviceFound.toRecord.getCRC32IDStr ∈ sampleAlone.arbiter.deviceMap := by
    decide +kernel
  refine ⟨ts, s', hr, hpasses, ?_, ?_⟩
  · exact ((fair_turns hr rfl).2.2 hknown hend).trans hpasses
  · exact (fair_turns hr rfl).1.trans_eq hpasses

end Sample

end HNodeMgmt.Arbiter
