/-
  HNodeMgmt.Arbiter.Settles — the set-up of a device comes to an end.

  A discovered device goes through the set-up states in order, one case each
  turn, and a failed contact only cuts this short.  What is ahead of a device
  is a list of states; it is the potential that pays for the contacts, and only
  an operator's command adds to it.  While the monitor is in a case, what is
  ahead is what IT will write: a state set by the main thread meanwhile is
  overwritten.

  Main results:
    * `ahead_nextState` — a case leaves no more ahead than was behind its state.
    * `exchanges_bounded` — in every run each set-up exchange is made with a
      device at most once, and once more for each command started.
    * `setup_ends` — six passes after the last command a device is at rest.
    * `transit_wait` — while a device is on its way the monitor does not sleep
      for longer than two seconds.
-/
import Mathlib.Data.List.Infix
import Mathlib.Tactic.Common
import HNodeMgmt.Arbiter.Fairness

namespace HNodeMgmt.Arbiter

open Lib

/-! ## §1. What is ahead of a device. -/

/-- The set-up states, in their order. -/
def setupStates : List MgmtState :=
  [.optInfo, .ownerInfo, .srvProvideInfo, .srvMappingInfo, .srvMapUpdate]

/-- The states whose cases are run for a device, from the one it is in, until it
is at rest. -/
def ahead (st : MgmtState) : List MgmtState :=
  match st with
  | .discovered | .recovered | .execCmd => st :: setupStates
  | _ => setupStates.dropWhile (· != st)

/-- The device is on its way through these states. -/
def inTransit (st : MgmtState) : Bool := !(ahead st).isEmpty

theorem ahead_length (st : MgmtState) : (ahead st).length ≤ 6 := by
  cases st <;> decide

theorem ahead_idle {st : MgmtState} (h : idleState st = true) : ahead st = [] := by
  cases st <;> first | rfl | cases h

/-- A state that has anything ahead is the first of it. -/
theorem ahead_cases (st : MgmtState) : ahead st = [] ∨ ∃ rest, ahead st = st :: rest := by
  cases st <;> first | exact .inl rfl | exact .inr ⟨_, rfl⟩

theorem ahead_nodup (st : MgmtState) : (ahead st).Nodup := by
  cases st <;> decide

/-- What is behind the first state of a list that has `st` ahead. -/
theorem count_ahead {st : MgmtState} (st' : MgmtState) (hst : ahead st ≠ []) :
    (if st' = st then 1 else 0) + (ahead st').tail.count st ≤ (ahead st').count st := by
  rcases ahead_cases st' with hnil | ⟨rest, hcons⟩
  · have hne : st' ≠ st := fun heq => hst (heq ▸ hnil)
    rw [hnil, if_neg hne]
    exact Nat.le_refl _
  · rw [hcons, List.tail_cons, List.count_cons]
    simp only [beq_iff_eq]
    omega

section Settles

variable [Platform]

/-- **A case ends with no more ahead** than is behind its state, whatever its
helper comes to. -/
theorem ahead_nextState (a : HNManagedDeviceArbiter) (device : HNMDARecord) (st : MgmtState)
    (result : HNMDLResult) : ahead (nextState a device st result).1 <:+ (ahead st).tail := by
  cases st with
  | ownerInfo =>
    cases result with
    | failure => exact List.nil_suffix
    | success =>
      simp only [nextState]
      cases device.ownerState <;> first | exact List.nil_suffix | exact List.suffix_refl _
  | srvMapUpdate =>
    cases result with
    | failure => exact List.nil_suffix
    | success =>
      simp only [nextState]
      split <;> exact List.nil_suffix
  | _ => cases result <;> first | exact List.nil_suffix | exact List.suffix_refl _

/-! ## §2. The potential of a device. -/

omit [Platform] in
/-- What is ahead of a device whose record is in this state, seen from where the
monitor is: what it will write counts, not what is stored. -/
def aheadAt (key : Str) (stored : List MgmtState) : MonitorPhase → List MgmtState
  | .idle | .atDevice _ => stored
  | .acting id st => if id = key then ahead st else stored
  | .waiting id st _ => if id = key then (ahead st).tail else stored
  | .writing id _ next => if id = key then ahead next.1 else stored
  -- nothing is done any more
  | .dead => []

/-- What is ahead by the record; a device that is not known may be discovered. -/
def storedAhead (key : Str) (a : HNManagedDeviceArbiter) : List MgmtState :=
  match a.deviceMap[key]? with
  | none => ahead .discovered
  | some device => ahead device.mgmtState

def remaining (key : Str) (s : Sys) : List MgmtState :=
  aheadAt key (storedAhead key s.arbiter) s.monitor

variable {u v s s' : Sys} {key : Str} {st : MgmtState} {l : Label} {es : List Event}
  {device : HNMDARecord} {ts : List (Trans Sys Label Event)}

theorem storedAhead_some {a : HNManagedDeviceArbiter} (hget : a.deviceMap[key]? = some device) :
    storedAhead key a = ahead device.mgmtState := by
  rw [storedAhead, hget]

theorem storedAhead_none {a : HNManagedDeviceArbiter} (hget : a.deviceMap[key]? = none) :
    storedAhead key a = ahead .discovered := by
  rw [storedAhead, hget]

omit [Platform] in
/-- Away from the device the record counts, while the monitor lives. -/
theorem aheadAt_free {stored : List MgmtState} {phase : MonitorPhase}
    (hfree : workingOn key phase = false) :
    aheadAt key stored phase = if phase = .dead then [] else stored := by
  cases phase with
  | idle | atDevice id | dead => rfl
  | acting id st | waiting id st op | writing id st next =>
    have hne : id ≠ key := by simpa [workingOn] using hfree
    simp [aheadAt, hne]

omit [Platform] in
/-- At the device it does not. -/
theorem aheadAt_working {phase : MonitorPhase} (hw : workingOn key phase = true)
    (stored stored' : List MgmtState) : aheadAt key stored phase = aheadAt key stored' phase := by
  cases phase with
  | acting id st | waiting id st op | writing id st next =>
    have heq : id = key := by simpa [workingOn] using hw
    simp [aheadAt, heq]
  | idle | atDevice id | dead => cases hw

/-- The main thread rewrites the record: what is ahead is a part of what was,
unless the new state has more ahead. -/
theorem remaining_main (key : Str) (stays : v.monitor = u.monitor) :
    remaining key v = remaining key u ∨
      (remaining key u = storedAhead key u.arbiter ∧
        remaining key v = storedAhead key v.arbiter) := by
  unfold remaining
  rw [stays]
  cases hw : workingOn key u.monitor with
  | true => exact .inl (aheadAt_working hw _ _)
  | false =>
    rw [aheadAt_free hw, aheadAt_free hw]
    split
    next => exact .inl rfl
    next => exact .inr ⟨rfl, rfl⟩

/-- A step elsewhere. -/
theorem remaining_away (same : v.arbiter.deviceMap[key]? = u.arbiter.deviceMap[key]?)
    (moved : MovedAway u v key) : remaining key v = remaining key u ∨ remaining key v = [] := by
  have hstored : storedAhead key v.arbiter = storedAhead key u.arbiter := by
    unfold storedAhead
    rw [same]
  unfold remaining
  rw [hstored]
  cases moved with
  | stays heq => rw [heq]; exact .inl rfl
  | ends hdead => rw [hdead]; exact .inr rfl
  | goesOn halive hfree hfree' =>
    rw [aheadAt_free hfree, aheadAt_free hfree', if_neg halive]
    split
    next => exact .inr rfl
    next => exact .inl rfl

/-! ## §3. What a step does to it. -/

omit [Platform] in
/-- The monitor is in the first half of the device's case. -/
def actingOn (key : Str) : MonitorPhase → Bool
  | .acting id _ => id == key
  | _ => false

omit [Platform] in
theorem actingOn_of_free {phase : MonitorPhase} (hfree : workingOn key phase = false) :
    actingOn key phase = false := by
  cases phase with
  | acting id st => exact hfree
  | _ => rfl

/-- What a step does to what is ahead of a device. -/
inductive Progress (u : Sys) (key : Str) : Label → Sys → List Event → Prop
  /-- Nothing comes to it, and the device is sent nothing. -/
  | less {l : Label} {v : Sys} {es : List Event} (hless : remaining key v <:+ remaining key u)
      (hphase : actingOn key v.monitor = actingOn key u.monitor ∨ remaining key v = [])
      (hturn : turnOf key ⟨u, l, es, v⟩ = 0 ∨ remaining key v = [])
      (hquiet : ∀ req, Event.request key req ∉ es) : Progress u key l v es
  /-- A case is begun. -/
  | began {v : Sys} {st : MgmtState} (hphase : u.monitor = .atDevice key)
      (hahead : remaining key u = ahead st) (goes : v.monitor = .acting key st) :
      Progress u key .readState v []
  /-- The first half of a case, which may be all of it. -/
  | acted {v : Sys} {es : List Event} {st : MgmtState} (hphase : u.monitor = .acting key st)
      (hless : remaining key v <:+ (ahead st).tail) (hdone : actingOn key v.monitor = false) :
      Progress u key .act v es
  /-- An operator's command. -/
  | commanded {v : Sys} (hmore : remaining key v = ahead .execCmd) :
      Progress u key (.startDeviceMgmtCmd key) v []

/-- A call of the main thread leaves the monitor where it is. -/
private theorem Progress.main (stays : v.monitor = u.monitor) (hlabel : l ≠ .readState)
    (hless : storedAhead key v.arbiter <:+ storedAhead key u.arbiter) : Progress u key l v [] := by
  refine .less ?_ (.inl (congrArg _ stays)) (.inl (turnOf_other hlabel))
    fun _ => List.not_mem_nil
  rcases remaining_main key stays with heq | ⟨hu, hv⟩
  · rw [heq]
  · rw [hu, hv]
    exact hless

/-- The end of a case is what is about to be written. -/
private theorem remaining_writing {next : MgmtState × Nat}
    (hphase : v.monitor = .writing key st next) : remaining key v = ahead next.1 := by
  rw [remaining, hphase]
  exact if_pos rfl

/-- The turn of a device in a state with an empty case, or the start of a case. -/
theorem turn_cases (hstep : system.step u .readState = some (v, es))
    (hphase : u.monitor = .atDevice key) :
    ∃ device, u.arbiter.deviceMap[key]? = some device ∧
      ((idleState device.mgmtState = true ∧ v.arbiter = u.arbiter ∧
          workingOn key v.monitor = false) ∨
        v = { u with monitor := .acting key device.mgmtState }) := by
  cases took_of_step hstep with
  | skip id device hphase' hget hidle =>
    obtain rfl : id = key := MonitorPhase.atDevice.inj (hphase'.symm.trans hphase)
    exact ⟨device, hget, .inl ⟨hidle, rfl, workingOn_advance _ _ _⟩⟩
  | read id device hphase' hget hbusy =>
    obtain rfl : id = key := MonitorPhase.atDevice.inj (hphase'.symm.trans hphase)
    exact ⟨device, hget, .inr rfl⟩

/-- **Every step, seen from what is ahead.** -/
theorem progress_step (key : Str) (hstep : system.step u l = some (v, es)) :
    Progress u key l v es := by
  have htook := recordTook_of_took (took_of_step hstep) key
  cases htook with
  | away same moved quiet =>
    have hturn : turnOf key ⟨u, l, es, v⟩ = 0 ∨ remaining key v = [] := by
      by_cases hread : l = .readState ∧ u.monitor = .atDevice key
      · -- the device is passed over, as its state has an empty case
        obtain ⟨rfl, hphase⟩ := hread
        obtain ⟨device, hget, ⟨hidle, harb, hfree⟩ | rfl⟩ := turn_cases hstep hphase
        · refine .inr ?_
          rw [remaining, aheadAt_free hfree, storedAhead_some (harb ▸ hget), ahead_idle hidle]
          split <;> rfl
        · refine .inl (absurd moved fun hmoved => ?_)
          rcases hmoved.free with hstay | hfree
          · cases hstay.trans hphase
          · simp [workingOn] at hfree
      · exact .inl (if_neg hread)
    have hphase : actingOn key v.monitor = actingOn key u.monitor ∨ remaining key v = [] := by
      cases moved with
      | stays heq => exact .inl (congrArg _ heq)
      | ends hdead => exact .inr (by rw [remaining, hdead]; rfl)
      | goesOn halive hfree hfree' =>
        exact .inl ((actingOn_of_free hfree').trans (actingOn_of_free hfree).symm)
    rcases remaining_away same moved with heq | hnil
    · exact .less (heq ▸ List.suffix_refl _) hphase hturn quiet
    · exact .less (hnil ▸ List.nil_suffix) hphase hturn quiet
  | appeared hid hnone after stays =>
    -- a new record is in SELF or DISCOVERED
    refine .main stays (fun h => by cases h) ?_
    rw [storedAhead_none hnone, storedAhead_some after]
    unfold discovered
    split
    next => exact List.nil_suffix
    next => exact List.suffix_refl _
  | announced hid hget after stays =>
    refine .main stays (fun h => by cases h) ?_
    rw [storedAhead_some hget, storedAhead_some after, updateRecord_mgmtState]
  | removed hid hget after stays =>
    refine .main stays (fun h => by cases h) ?_
    rw [storedAhead_some after]
    exact List.nil_suffix
  | cmdSet hget after stays =>
    refine .main stays (fun h => by cases h) ?_
    rw [storedAhead_some hget, storedAhead_some after]
    exact List.suffix_refl _
  | cmdStarted hget after stays =>
    rcases remaining_main key stays with heq | ⟨-, hv⟩
    · exact .less (heq ▸ List.suffix_refl _) (.inl (congrArg _ stays))
        (.inl (turnOf_other fun h => by cases h)) fun _ => List.not_mem_nil
    · exact .commanded (hv.trans (storedAhead_some after))
  | read hphase hget hbusy after goes =>
    refine .began hphase ?_ goes
    rw [remaining, hphase]
    exact storedAhead_some hget
  | alone hphase hget hop after goes | finished hphase hget hop hstart after goes =>
    refine .acted hphase ?_ (by rw [goes]; rfl)
    rw [remaining_writing goes]
    exact ahead_nextState _ _ _ _
  | requested hphase hget hop hstart after goes =>
    refine .acted hphase ?_ (by rw [goes]; rfl)
    rw [remaining, goes, aheadAt, if_pos rfl]
  | raised hphase hget hop hstart after goes =>
    refine .acted hphase ?_ (by rw [goes]; rfl)
    rw [remaining, goes]
    exact List.nil_suffix
  | replied hphase hget hfinish after goes =>
    refine .less ?_ (.inl (by rw [goes, hphase]; rfl)) (.inl (turnOf_other fun h => by cases h))
      (request_not_mem_replyEvents _ _ _ _ _)
    rw [remaining_writing goes, remaining, hphase, aheadAt, if_pos rfl]
    exact ahead_nextState _ _ _ _
  | written hphase hget after goes =>
    refine .less ?_ (.inl ?_) (.inl (turnOf_other fun h => by cases h)) fun _ => List.not_mem_nil
    · rw [remaining_writing hphase, remaining, aheadAt_free goes, storedAhead_some after]
      split
      next => exact List.nil_suffix
      next => exact List.suffix_refl _
    · rw [hphase]
      exact actingOn_of_free goes

/-! ## §4. Contacts are bounded. -/

omit [Platform] in
def isRequestTo (key : Str) : Event → Bool
  | .request id _ => id == key
  | _ => false

/-- The device is sent the request of this state's case. -/
def exchangeWith (key : Str) (st : MgmtState) (t : Trans Sys Label Event) : Nat :=
  if t.pre.monitor = .acting key st ∧ t.evts.any (isRequestTo key) = true then 1 else 0

/-- A command is started for the device. -/
def commandFor (key : Str) (t : Trans Sys Label Event) : Nat :=
  if t.label = .startDeviceMgmtCmd key then 1 else 0

def exchangesWith (key : Str) (st : MgmtState) (ts : List (Trans Sys Label Event)) : Nat :=
  total (exchangeWith key st) ts

def commandsFor (key : Str) (ts : List (Trans Sys Label Event)) : Nat := total (commandFor key) ts

theorem exchange_quiet (hquiet : ∀ req, Event.request key req ∉ es) :
    exchangeWith key st ⟨u, l, es, v⟩ = 0 := by
  refine if_neg fun h => ?_
  obtain ⟨e, hmem, he⟩ := List.any_eq_true.mp h.2
  cases e with
  | request id req =>
    obtain rfl : id = key := by simpa [isRequestTo] using he
    exact hquiet req hmem
  | _ => cases he

/-- **One step**: an exchange is paid for by what was ahead, or by a command. -/
theorem exchange_step (hst : inTransit st = true) (hstep : system.step u l = some (v, es)) :
    exchangeWith key st ⟨u, l, es, v⟩ + (remaining key v).count st ≤
      (remaining key u).count st + commandFor key ⟨u, l, es, v⟩ := by
  have hahead : ahead st ≠ [] := by
    intro hnil
    rw [inTransit, hnil] at hst
    cases hst
  cases progress_step key hstep with
  | less hless hphase hturn hquiet =>
    rw [exchange_quiet hquiet, Nat.zero_add]
    exact Nat.le_trans (hless.sublist.count_le st) (Nat.le_add_right _ _)
  | began hphase hbefore goes =>
    rw [exchange_quiet fun _ => List.not_mem_nil, Nat.zero_add, hbefore, remaining, goes, aheadAt,
      if_pos rfl]
    exact Nat.le_add_right _ _
  | @acted _ _ st' hphase hless hdone =>
    have hcost : exchangeWith key st ⟨u, .act, es, v⟩ ≤ if st' = st then 1 else 0 := by
      unfold exchangeWith
      by_cases heq : st' = st
      · rw [if_pos heq]
        split <;> decide
      · rw [if_neg heq, if_neg]
        intro h
        exact heq (MonitorPhase.acting.inj (hphase.symm.trans h.1)).2
    have hbefore : remaining key u = ahead st' := by
      rw [remaining, hphase]
      exact if_pos rfl
    have hrest := hless.sublist.count_le st
    have hcount := count_ahead st' hahead
    rw [hbefore]
    omega
  | commanded hmore =>
    have hone : (ahead .execCmd).count st ≤ 1 := List.nodup_iff_count_le_one.mp (ahead_nodup _) st
    have hcredit : commandFor key ⟨u, .startDeviceMgmtCmd key, [], v⟩ = 1 := if_pos rfl
    rw [exchange_quiet fun _ => List.not_mem_nil, hmore, hcredit, Nat.zero_add]
    omega

/-- From any state: what is made is what was ahead, and what is commanded. -/
theorem exchanges_le (key : Str) (hst : inTransit st = true) (hr : Run system s ts s') :
    exchangesWith key st ts + (remaining key s').count st ≤
      (remaining key s).count st + commandsFor key ts :=
  Run.budget (J := fun _ => True) trivial (fun _ _ _ _ _ _ => trivial)
    (fun _ _ _ _ _ hstep => exchange_step hst hstep) hr

/-- **Contacts are bounded.**  In every run, the exchange of a set-up state is
made with a device at most once and once more for each command started for it,
and the exchange of a command no more often than commands are started. -/
theorem exchanges_bounded (mgmtDevice : HNodeDevice) (caches : Platform.Caches)
    (ts : List (Trans Sys Label Event)) (s : Sys)
    (hr : Run system (Sys.init mgmtDevice caches) ts s) (key : Str) (st : MgmtState)
    (hst : inTransit st = true) :
    exchangesWith key st ts ≤ (if st = .execCmd then 0 else 1) + commandsFor key ts := by
  have hbound := exchanges_le key hst hr
  have hnone : (Sys.init mgmtDevice caches).arbiter.deviceMap[key]? = none := by simp [Sys.init]
  have hstart : (remaining key (Sys.init mgmtDevice caches)).count st ≤
      if st = .execCmd then 0 else 1 := by
    rw [show remaining key (Sys.init mgmtDevice caches) = ahead .discovered from
      storedAhead_none hnone]
    cases st <;> decide
  omega

/-! ## §5. A device comes to rest. -/

/-- The turns that are left for the device before it is at rest.  The turn of a
case that is begun is had. -/
def turnsLeft (key : Str) (s : Sys) : Nat :=
  (remaining key s).length - if actingOn key s.monitor = true then 1 else 0

/-- **One step** without a command: a turn is one less. -/
theorem turnsLeft_step (hcmd : l ≠ .startDeviceMgmtCmd key)
    (hstep : system.step u l = some (v, es)) :
    turnsLeft key v ≤ turnsLeft key u - turnOf key ⟨u, l, es, v⟩ := by
  unfold turnsLeft
  cases progress_step key hstep with
  | less hless hphase hturn hquiet =>
    have hlen := hless.length_le
    rcases hphase with hphase | hnil
    · rw [hphase]
      rcases hturn with hturn | hnil
      · rw [hturn]
        omega
      · rw [hnil]
        simp
    · rw [hnil]
      simp
  | @began _ st' hphase hbefore goes =>
    have hturn : turnOf key ⟨u, .readState, [], v⟩ = 1 := if_pos ⟨rfl, hphase⟩
    have hacting : actingOn key v.monitor = true := by
      rw [goes]
      simp [actingOn]
    have hnot : actingOn key u.monitor = false := by rw [hphase]; rfl
    have hafter : remaining key v = ahead st' := by
      rw [remaining, goes]
      exact if_pos rfl
    rw [hturn, hacting, hnot, hafter, hbefore]
    exact Nat.le_refl _
  | @acted _ _ st' hphase hless hdone =>
    have hturn : turnOf key ⟨u, .act, es, v⟩ = 0 := turnOf_other fun h => by cases h
    have hacting : actingOn key u.monitor = true := by
      rw [hphase]
      simp [actingOn]
    have hbefore : remaining key u = ahead st' := by
      rw [remaining, hphase]
      exact if_pos rfl
    have hlen := hless.length_le
    rw [List.length_tail] at hlen
    rw [hturn, hacting, hdone, hbefore]
    exact hlen
  | commanded hmore => exact absurd rfl hcmd

/-- Along a run without a command. -/
theorem turnsLeft_run (hr : Run system s ts s')
    (hcmd : StepsMeet (fun _ l => l ≠ .startDeviceMgmtCmd key) ts) :
    turnsLeft key s' ≤ turnsLeft key s - turnsOf key ts :=
  Run.drains (C := fun _ l => l ≠ .startDeviceMgmtCmd key) (J := fun _ => True) trivial
    (fun _ _ _ _ _ _ => trivial) (fun _ _ _ _ _ hc hstep => turnsLeft_step hc hstep) hr hcmd

/-- After six passes nothing is ahead of a device. -/
theorem nothing_ahead (hr : Run system s ts s') (hidle : s.monitor = .idle)
    (hget : s.arbiter.deviceMap[key]? = some device)
    (hcmd : StepsMeet (fun _ l => l ≠ .startDeviceMgmtCmd key) ts)
    (hpasses : 6 ≤ passesOf ts) (hend : s'.monitor = .idle) :
    ∃ device', s'.arbiter.deviceMap[key]? = some device' ∧ ahead device'.mgmtState = [] := by
  have hmem : key ∈ s.arbiter.deviceMap := (OrdMap.mem_iff_get _ _).mpr ⟨device, hget⟩
  have hturns := turnsOf_asleep hr hidle hmem hend
  have hleft := turnsLeft_run hr hcmd
  -- six turns are enough from any state
  have hstart : turnsLeft key s ≤ 6 := by
    rw [turnsLeft, remaining, hidle]
    show (storedAhead key s.arbiter).length - 0 ≤ 6
    rw [storedAhead_some hget]
    exact ahead_length _
  obtain ⟨device', hget'⟩ : ∃ device', s'.arbiter.deviceMap[key]? = some device' := by
    refine (OrdMap.mem_iff_get _ _).mp ?_
    exact Run.invariant (P := fun u => key ∈ u.arbiter.deviceMap) hmem
      (fun _ _ _ _ hmem hstep => known_step hstep hmem) hr
  have hstored : turnsLeft key s' = (ahead device'.mgmtState).length := by
    rw [turnsLeft, remaining, hend]
    show (storedAhead key s'.arbiter).length - 0 = _
    rw [storedAhead_some hget', Nat.sub_zero]
  exact ⟨device', hget', List.length_eq_zero_iff.mp (by omega)⟩

/-- **A device settles.**  From any state in which the monitor is asleep, for a
device that is known, and whatever is discovered, announced, said to be gone or
answered meanwhile: when no command is started for it, and the monitor has
gone to sleep again after six passes, the device is at rest. -/
theorem setup_ends (hr : Run system s ts s') (hidle : s.monitor = .idle)
    (hget : s.arbiter.deviceMap[key]? = some device)
    (hcmd : StepsMeet (fun _ l => l ≠ .startDeviceMgmtCmd key) ts)
    (hpasses : 6 ≤ passesOf ts) (hend : s'.monitor = .idle) :
    ∃ device', s'.arbiter.deviceMap[key]? = some device' ∧
      inTransit device'.mgmtState = false := by
  obtain ⟨device', hget', hnil⟩ := nothing_ahead hr hidle hget hcmd hpasses hend
  refine ⟨device', hget', ?_⟩
  rw [inTransit, hnil]
  rfl

/-! ## §6. The monitor does not oversleep. -/

omit [Platform] in
/-- On its way, and already seen by the monitor: what sets the state sets a short
wait with it.  A new device waits for the next pass. -/
def prompt (st : MgmtState) : Bool := inTransit st && st != .discovered

/-- A case that is not the last of the set-up asks for a short wait. -/
theorem nextState_wait {a : HNManagedDeviceArbiter} {result : HNMDLResult}
    (h : prompt (nextState a device st result).1 = true) :
    (nextState a device st result).2 ≤ 2 := by
  cases st with
  | ownerInfo =>
    cases result with
    | failure => cases h
    | success =>
      simp only [nextState] at h ⊢
      split at h <;> first | exact Nat.zero_le 2 | cases h
  | srvMapUpdate =>
    cases result with
    | failure => cases h
    | success =>
      simp only [nextState] at h
      split at h <;> cases h
  | _ => cases result <;> first | exact Nat.le_refl 2 | exact Nat.zero_le 2 | cases h

/-- No reply changes the wait. -/
theorem finish_wait {a a' : HNManagedDeviceArbiter} {id : Str} {o : RestOutcome} {op : RestOp}
    {result : HNMDLResult} (h : op.finish a id device o = some (a', result)) :
    a'.monitorWaitTime = a.monitorWaitTime := by
  rcases finish_cases h with ⟨heq, -⟩ | ⟨body, -, heq⟩
  · rw [heq]
  · rw [heq]
    cases op with
    | updateDeviceServicesProvideInfo =>
      simp only [RestOp.arbiterAfter, storeProvided]
      cases (applyServicesReply device.srvMapProvided body).2 with
      | none => rfl
      | some changed => cases changed <;> rfl
    | updateDeviceServicesMappingInfo =>
      simp only [RestOp.arbiterAfter, storeDesired]
      cases (applyServicesReply device.srvMapDesired body).2 with
      | none => rfl
      | some changed => cases changed <;> rfl
    | _ => rfl

/-- The monitor lives and is past the device in this pass. -/
structure Past (key : Str) (s : Sys) : Prop where
  live : s.monitor ≠ .dead
  free : workingOn key s.monitor = false
  had : owed key s = 0

/-- The wait is short while a device that has had its turn is on its way. -/
structure WaitInv (key : Str) (s : Sys) : Prop where
  writing : ∀ id st next, s.monitor = .writing id st next → prompt next.1 = true → next.2 ≤ 2
  past : ∀ device, s.arbiter.deviceMap[key]? = some device → prompt device.mgmtState = true →
    Past key s → s.arbiter.monitorWaitTime ≤ 2

/-- The monitor was past the device before, unless this is its turn. -/
private theorem past_before (hstep : system.step u l = some (v, es))
    (hget : u.arbiter.deviceMap[key]? = some device) (hfree : workingOn key u.monitor = false)
    (hturn : turnOf key ⟨u, l, es, v⟩ = 0) (hlabel : l ≠ .wakeup) (hpast : Past key v) :
    Past key u := by
  have hmem : key ∈ u.arbiter.deviceMap := (OrdMap.mem_iff_get _ _).mpr ⟨device, hget⟩
  have haccount : turnOf key ⟨u, l, es, v⟩ + owed key v =
      owed key u + passOf ⟨u, l, es, v⟩ := (account_step hstep).exact hmem hpast.live
  have hhad : owed key v = 0 := hpast.had
  have hpass : passOf (⟨u, l, es, v⟩ : Trans Sys Label Event) = 0 := passOf_other hlabel
  exact ⟨fun hdead => hpast.live (dead_step hstep hdead), hfree, by omega⟩

/-- Only a wakeup makes the wait longer. -/
private theorem wait_le (hstep : system.step u l = some (v, es)) (hlabel : l ≠ .wakeup) :
    v.arbiter.monitorWaitTime ≤ u.arbiter.monitorWaitTime := by
  have hmin : ∀ (a : HNManagedDeviceArbiter) id device st n,
      (a.setNextMonitorState id device st n).monitorWaitTime ≤ a.monitorWaitTime := by
    intro a id device st n
    simp only [HNManagedDeviceArbiter.setNextMonitorState]
    split <;> omega
  cases took_of_step hstep with
  | add event =>
    show (u.arbiter.notifyDiscoverAdd event.toRecord).monitorWaitTime ≤ _
    rw [notifyDiscoverAdd_rest]
  | remove event =>
    show (u.arbiter.notifyDiscoverRemove event.toRecord).monitorWaitTime ≤ _
    unfold HNManagedDeviceArbiter.notifyDiscoverRemove
    split <;> exact Nat.le_refl _
  | setCmd id body =>
    show (u.arbiter.setDeviceMgmtCmdFromJSON id body).1.monitorWaitTime ≤ _
    unfold HNManagedDeviceArbiter.setDeviceMgmtCmdFromJSON
    split <;> exact Nat.le_refl _
  | startCmd id =>
    show (u.arbiter.startDeviceMgmtCmd id).1.monitorWaitTime ≤ _
    unfold HNManagedDeviceArbiter.startDeviceMgmtCmd
    split
    next => exact Nat.le_refl _
    next => exact hmin _ _ _ _ _
  | wakeup => exact absurd rfl hlabel
  | replyDone id st op device o a' result hphase hget hfinish hstores =>
    exact Nat.le_of_eq (finish_wait hfinish)
  | write id st next device hphase hget => exact hmin _ _ _ _ _
  | _ => exact Nat.le_refl _

/-- A command and the end of a case set the wait. -/
private theorem wait_setNext (a : HNManagedDeviceArbiter) (id : Str) (device : HNMDARecord)
    (st : MgmtState) {n : Nat} (hn : n ≤ 2) :
    (a.setNextMonitorState id device st n).monitorWaitTime ≤ 2 := by
  simp only [HNManagedDeviceArbiter.setNextMonitorState]
  split <;> omega

private theorem writing_step (hinv : WaitInv key u) (hstep : system.step u l = some (v, es)) :
    ∀ id st next, v.monitor = .writing id st next → prompt next.1 = true → next.2 ≤ 2 := by
  have hadvance : ∀ {k id st next}, advance u.arbiter k ≠ .writing id st next := by
    intro k id st next h
    rcases advance_cases u.arbiter k with hn | ⟨_, hn⟩ <;> cases hn.symm.trans h
  have hcase : ∀ {a device st' result} {id : Str} {st next},
      (MonitorPhase.writing id st' (nextState a device st' result) : MonitorPhase) =
        .writing id st next → prompt next.1 = true → next.2 ≤ 2 := by
    intro a device st' result id st next h hprompt
    obtain ⟨-, -, rfl⟩ := MonitorPhase.writing.inj h
    exact nextState_wait hprompt
  intro id st next h hprompt
  cases took_of_step hstep with
  | add event | remove event | setCmd dev body | startCmd dev =>
    exact hinv.writing id st next h hprompt
  | wakeup phase hphase hnext => rcases hnext with rfl | ⟨_, rfl⟩ <;> cases h
  | skip dev device hphase hget hidle => exact absurd h hadvance
  | read | actRequest | actRaised | replyRaised => cases h
  | actAlone dev st' device hphase hget hop =>
    obtain ⟨rfl, -, -⟩ := MonitorPhase.writing.inj h
    exact hcase h hprompt
  | actFinished dev st' device op result hphase hget hop hstart =>
    obtain ⟨rfl, -, -⟩ := MonitorPhase.writing.inj h
    exact hcase h hprompt
  | replyDone dev st' op device o a' result hphase hget hfinish hstores =>
    obtain ⟨rfl, -, -⟩ := MonitorPhase.writing.inj h
    exact hcase h hprompt
  | write dev st' next' device hphase hget => exact absurd h hadvance

/-- **One step** keeps the wait short. -/
theorem waitInv_step (hinv : WaitInv key u) (hstep : system.step u l = some (v, es)) :
    WaitInv key v := by
  refine ⟨writing_step hinv hstep, fun device hget hprompt hpast => ?_⟩
  -- the record is one the monitor was past before, in the same state
  have hkept : ∀ {d : HNMDARecord}, u.arbiter.deviceMap[key]? = some d →
      prompt d.mgmtState = true → workingOn key u.monitor = false →
      turnOf key ⟨u, l, es, v⟩ = 0 → l ≠ .wakeup → v.arbiter.monitorWaitTime ≤ 2 := by
    intro d hd hp hfree hturn hlabel
    exact Nat.le_trans (wait_le hstep hlabel)
      (hinv.past d hd hp (past_before hstep hd hfree hturn hlabel hpast))
  have hworks : ∀ {phase : MonitorPhase}, v.monitor = phase → workingOn key phase = true →
      v.arbiter.monitorWaitTime ≤ 2 := by
    intro phase hphase hw
    have hfree := hpast.free
    rw [hphase, hw] at hfree
    cases hfree
  have hself : (key == key) = true := beq_self_eq_true key
  have htook := recordTook_of_took (took_of_step hstep) key
  cases htook with
  | away same moved quiet =>
    have hget' : u.arbiter.deviceMap[key]? = some device := same ▸ hget
    have hfree : workingOn key u.monitor = false := by
      cases moved with
      | stays heq => rw [← heq]; exact hpast.free
      | ends hdead => exact absurd hdead hpast.live
      | goesOn halive hfree hfree' => exact hfree
    by_cases hlabel : l = .wakeup
    · -- a pass has begun, and the device's turn is to come
      subst hlabel
      have hone := (wakeup_account key hstep).2.2
        ((OrdMap.mem_iff_get _ _).mpr ⟨device, hget'⟩)
      cases hone.symm.trans hpast.had
    · by_cases hread : l = .readState ∧ u.monitor = .atDevice key
      · obtain ⟨rfl, hphase⟩ := hread
        obtain ⟨d, hd, ⟨hidle, -, -⟩ | rfl⟩ := turn_cases hstep hphase
        · obtain rfl := Option.some.inj (hd.symm.trans hget')
          rw [prompt, inTransit, ahead_idle hidle] at hprompt
          cases hprompt
        · exact hworks rfl hself
      · exact hkept hget' hprompt hfree (if_neg hread) hlabel
  | appeared hid hnone after stays =>
    obtain rfl := Option.some.inj (after.symm.trans hget)
    unfold discovered at hprompt
    split at hprompt <;> cases hprompt
  | announced hid hd after stays =>
    obtain rfl := Option.some.inj (after.symm.trans hget)
    rw [updateRecord_mgmtState] at hprompt
    exact hkept hd hprompt (stays ▸ hpast.free) (turnOf_other fun h => by cases h)
      fun h => by cases h
  | removed hid hd after stays =>
    obtain rfl := Option.some.inj (after.symm.trans hget)
    cases hprompt
  | cmdSet hd after stays =>
    obtain rfl := Option.some.inj (after.symm.trans hget)
    exact hkept hd hprompt (stays ▸ hpast.free) (turnOf_other fun h => by cases h)
      fun h => by cases h
  | cmdStarted hd after stays =>
    cases took_of_step hstep
    show (u.arbiter.startDeviceMgmtCmd key).1.monitorWaitTime ≤ 2
    simp only [HNManagedDeviceArbiter.startDeviceMgmtCmd, hd]
    exact wait_setNext _ _ _ _ (Nat.zero_le 2)
  | read hphase hd hbusy after goes | alone hphase hd hbusy after goes => exact hworks goes hself
  | finished hphase hd hop hstart after goes | requested hphase hd hop hstart after goes =>
    exact hworks goes hself
  | raised hphase hd hop hstart after goes => exact absurd goes hpast.live
  | replied hphase hd hfinish after goes => exact hworks goes hself
  | written hphase hd after goes =>
    obtain rfl := Option.some.inj (after.symm.trans hget)
    have hshort := hinv.writing _ _ _ hphase hprompt
    cases took_of_step hstep with
    | write id st' next' device hphase' hget' =>
      obtain ⟨-, -, rfl⟩ := MonitorPhase.writing.inj (hphase.symm.trans hphase')
      exact wait_setNext _ _ _ _ hshort

/-- **The monitor does not oversleep.**  In every reachable state in which the
walk is at its end, the wait that is set is no longer than two seconds if a
device is in a state that a case or a command has put it in on its way.  What
is set when the walk ends is what the monitor sleeps. -/
theorem transit_wait (mgmtDevice : HNodeDevice) (caches : Platform.Caches)
    (ts : List (Trans Sys Label Event)) (s : Sys)
    (hr : Run system (Sys.init mgmtDevice caches) ts s) (hidle : s.monitor = .idle) (key : Str)
    (device : HNMDARecord) (hget : s.arbiter.deviceMap[key]? = some device)
    (hprompt : prompt device.mgmtState = true) : s.arbiter.monitorWaitTime ≤ 2 := by
  have hinv : WaitInv key s := by
    refine Run.invariant (P := WaitInv key) ⟨fun id st next h => ?_, fun d hd => ?_⟩
      (fun u l v es hinv hstep => waitInv_step hinv hstep) hr
    · cases h
    · simp [Sys.init] at hd
  refine hinv.past device hget hprompt ⟨?_, ?_, ?_⟩
  · rw [hidle]
    exact fun h => by cases h
  · rw [hidle]
    rfl
  · rw [owed, hidle]
    rfl

end Settles

/-! ### A device is set up. -/

section Sample

open RefPlatform

/-- A pass over the one device. -/
def sampleTurn (reply : List Label) : List Label :=
  [.wakeup, .readState, .act] ++ reply ++ [.writeState]

/-- Six passes: the device turns out to be owned, and nothing is to be mapped. -/
def sampleSetup : List Label :=
  sampleTurn [] ++ sampleTurn [.reply (okReply (.object []))] ++
  sampleTurn [.reply (okReply ownedByManager)] ++ sampleTurn [.reply (okReply (.array []))] ++
  sampleTurn [.reply (okReply (.array []))] ++ sampleTurn []

/-- The owner is asked once, as no command is started. -/
theorem exchanges_bounded_sample :
    ∃ ts s, Run system (Sys.init sampleManager ()) ts s ∧
      exchangesWith (lit "4900fb4e") .ownerInfo ts = 1 := by
  obtain ⟨ts, s, hr, hp⟩ := Machine.exists_run_of_exec (M := system)
    (s := Sys.init sampleManager ()) (l := .notifyDiscoverAdd sampleDeviceFound :: sampleSetup)
    (p := fun r => commandsFor (lit "4900fb4e") r.1 = 0 ∧
      1 ≤ exchangesWith (lit "4900fb4e") .ownerInfo r.1) (by decide +kernel)
  obtain ⟨hcommands, hone⟩ := of_decide_eq_true hp
  have hbound := exchanges_bounded sampleManager () ts s hr (lit "4900fb4e") .ownerInfo rfl
  rw [hcommands] at hbound
  exact ⟨ts, s, hr, Nat.le_antisymm hbound hone⟩

/-- After the six passes the device is at rest. -/
theorem setup_ends_sample :
    ∃ ts s', Run system sampleAlone ts s' ∧ passesOf ts = 6 ∧
      ∃ device', s'.arbiter.deviceMap[lit "4900fb4e"]? = some device' ∧
        inTransit device'.mgmtState = false := by
  have hknown : (sampleAlone.arbiter.deviceMap[lit "4900fb4e"]?).isSome = true := by
    decide +kernel
  obtain ⟨device, hget⟩ := Option.isSome_iff_exists.mp hknown
  obtain ⟨ts, s', hr, hp⟩ := Machine.exists_run_of_exec (M := system) (s := sampleAlone)
    (l := sampleSetup)
    (p := fun r => passesOf r.1 = 6 ∧ r.2.monitor = .idle ∧
      r.1.all fun t => t.label != .startDeviceMgmtCmd (lit "4900fb4e"))
    (by decide +kernel)
  obtain ⟨hpasses, hend, hall⟩ := of_decide_eq_true hp
  have hcmd : StepsMeet (fun _ l => l ≠ .startDeviceMgmtCmd (lit "4900fb4e")) ts := by
    intro t ht
    have hne := List.all_eq_true.mp hall t ht
    simpa using hne
  exact ⟨ts, s', hr, hpasses, setup_ends hr rfl hget hcmd (Nat.le_of_eq hpasses.symm) hend⟩

/-- After its first pass the device is on its way, and the monitor is soon back. -/
theorem transit_wait_sample :
    ∃ ts s, Run system (Sys.init sampleManager ()) ts s ∧ s.monitor = .idle ∧
      s.arbiter.monitorWaitTime ≤ 2 := by
  obtain ⟨ts, s, hr, hp⟩ := Machine.exists_run_of_exec (M := system)
    (s := Sys.init sampleManager ()) (l := .notifyDiscoverAdd sampleDeviceFound :: sampleTurn [])
    (p := fun r => r.2.monitor = .idle ∧
      (r.2.arbiter.deviceMap[lit "4900fb4e"]?).any (fun device => prompt device.mgmtState) = true)
    (by decide +kernel)
  obtain ⟨hidle, hdevice⟩ := of_decide_eq_true hp
  obtain ⟨device, hget, hprompt⟩ := (Option.any_eq_true _ _).mp hdevice
  exact ⟨ts, s, hr, hidle, transit_wait sampleManager () ts s hr hidle _ device hget hprompt⟩

end Sample

end HNodeMgmt.Arbiter
