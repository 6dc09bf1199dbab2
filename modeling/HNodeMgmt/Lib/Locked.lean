/-
  HNodeMgmt.Lib.Locked — programs with exceptions that lock and unlock a mutex.

  A program takes a state to the actions it took, the state it leaves and its
  result, where no result is an exception: the actions and the state stay what
  they are when one is raised.  An action locks the mutex, unlocks it, or is
  one of the program's own.

  `Prog.held` follows the mutex through a program: whether it is held at the
  end, and `none` when it was locked while held or unlocked while free.

  Main results:
    * `alternating_iff` — the calls alternate, beginning with a lock and ending
      with an unlock, exactly when the mutex is followed from free to free.
    * `held_bind`, `held_tryCatch` — how sequences and handlers are followed.
    * `held_locked`, `held_guarded` — lock, work and unlock, without and under a
      handler that unlocks.
-/
import Mathlib.Tactic.Common
import Mathlib.Data.List.Induction

namespace HNodeMgmt.Lib

variable {ε σ α β : Type}

/-! ## §1. Actions, and the discipline of a mutex. -/

inductive Action (ε : Type) where
  | lock
  | unlock
  | other (e : ε)
  deriving DecidableEq, Repr

inductive LockCall where
  | lock
  | unlock
  deriving DecidableEq, Repr

/-- The call an action makes on the mutex. -/
def Action.lockCall : Action ε → Option LockCall
  | .lock => some .lock
  | .unlock => some .unlock
  | .other _ => none

/-- The calls on the mutex, in order. -/
def lockCalls (acts : List (Action ε)) : List LockCall := acts.filterMap Action.lockCall

/-- The program's own actions, in order. -/
def others (acts : List (Action ε)) : List ε :=
  acts.filterMap fun
    | .other e => some e
    | _ => none

/-- The calls alternate strictly, the first is a lock and the last an unlock. -/
def Alternating (acts : List (Action ε)) : Prop :=
  ∃ n, lockCalls acts = (List.replicate n [LockCall.lock, LockCall.unlock]).flatten

/-- The mutex after some calls; `none` when one of them was not allowed. -/
def heldAfter : Bool → List LockCall → Option Bool
  | held, [] => some held
  | false, .lock :: calls => heldAfter true calls
  | true, .unlock :: calls => heldAfter false calls
  | true, .lock :: _ => none
  | false, .unlock :: _ => none

theorem heldAfter_append :
    ∀ (calls calls' : List LockCall) (held : Bool),
      heldAfter held (calls ++ calls') =
        (heldAfter held calls).bind fun held' => heldAfter held' calls'
  | [], _, held => by cases held <;> rfl
  | .lock :: calls, calls', held => by
      cases held with
      | false => exact heldAfter_append calls calls' true
      | true => rfl
  | .unlock :: calls, calls', held => by
      cases held with
      | false => rfl
      | true => exact heldAfter_append calls calls' false

/-- From free to free in pairs. -/
private theorem heldAfter_free :
    ∀ calls : List LockCall, heldAfter false calls = some false →
      ∃ n, calls = (List.replicate n [LockCall.lock, LockCall.unlock]).flatten
  | [], _ => ⟨0, rfl⟩
  | .unlock :: _, h => by cases h
  | [.lock], h => by cases h
  | .lock :: .lock :: _, h => by cases h
  | .lock :: .unlock :: calls, h => by
      obtain ⟨n, rfl⟩ := heldAfter_free calls h
      exact ⟨n + 1, by rw [List.replicate_succ, List.flatten_cons]; rfl⟩

/-- **The discipline, followed step by step.** -/
theorem alternating_iff {acts : List (Action ε)} :
    Alternating acts ↔ heldAfter false (lockCalls acts) = some false := by
  refine ⟨fun ⟨n, hn⟩ => ?_, heldAfter_free _⟩
  rw [hn]
  clear hn
  induction n with
  | zero => rfl
  | succ n ih =>
    rw [List.replicate_succ, List.flatten_cons]
    exact ih

/-! ## §2. Programs. -/

/-- What a program did. -/
structure Done (ε σ α : Type) where
  acts : List (Action ε)
  state : σ
  result : Option α

def Prog (ε σ α : Type) := σ → Done ε σ α

namespace Prog

/-- Go on from what was done. -/
def andThen (d : Done ε σ α) (p : Prog ε σ β) : Done ε σ β :=
  { p d.state with acts := d.acts ++ (p d.state).acts }

instance : Monad (Prog ε σ) where
  pure a := fun s => { acts := [], state := s, result := some a }
  bind p f := fun s =>
    match (p s).result with
    | none => { acts := (p s).acts, state := (p s).state, result := none }
    | some a => andThen (p s) (f a)

def raise : Prog ε σ α := fun s => { acts := [], state := s, result := none }

/-- Where there is no value, an exception was raised. -/
def orRaise : Option α → Prog ε σ α
  | none => raise
  | some a => pure a

def get : Prog ε σ σ := fun s => { acts := [], state := s, result := some s }

def modify (f : σ → σ) : Prog ε σ Unit := fun s => { acts := [], state := f s, result := some () }

def act (a : Action ε) : Prog ε σ Unit := fun s => { acts := [a], state := s, result := some () }

/-- `try` and `catch`, for a handler that does not look at the exception. -/
def tryCatch (p handler : Prog ε σ α) : Prog ε σ α := fun s =>
  match (p s).result with
  | none => andThen (p s) handler
  | some _ => p s

/-! ## §3. The mutex through a program. -/

/-- The mutex after the program, when it was `held` before. -/
def held (p : Prog ε σ α) (held : Bool) (s : σ) : Option Bool :=
  heldAfter held (lockCalls (p s).acts)

/-- The program makes no call on the mutex. -/
def Quiet (p : Prog ε σ α) : Prop := ∀ s, lockCalls (p s).acts = []

variable {h : Bool} {s : σ} {a : α} {p q : Prog ε σ α} {f : α → Prog ε σ β}

theorem lockCalls_append (acts acts' : List (Action ε)) :
    lockCalls (acts ++ acts') = lockCalls acts ++ lockCalls acts' := List.filterMap_append

@[simp] theorem run_pure : (pure a : Prog ε σ α) s = { acts := [], state := s, result := some a } :=
  rfl

@[simp] theorem run_get : (get : Prog ε σ σ) s = { acts := [], state := s, result := some s } := rfl

@[simp] theorem run_modify (g : σ → σ) :
    (modify g : Prog ε σ Unit) s = { acts := [], state := g s, result := some () } := rfl

@[simp] theorem run_act (x : Action ε) :
    (act x : Prog ε σ Unit) s = { acts := [x], state := s, result := some () } := rfl

@[simp] theorem run_raise : (raise : Prog ε σ α) s = { acts := [], state := s, result := none } :=
  rfl

theorem run_bind_raised (hres : (p s).result = none) :
    (p >>= f) s = { acts := (p s).acts, state := (p s).state, result := none } := by
  show (match (p s).result with
    | none => _
    | some a => _) = _
  rw [hres]

theorem run_bind_some (hres : (p s).result = some a) : (p >>= f) s = andThen (p s) (f a) := by
  show (match (p s).result with
    | none => _
    | some a => _) = _
  rw [hres]

theorem run_tryCatch_raised (hres : (p s).result = none) :
    tryCatch p q s = andThen (p s) q := by
  unfold tryCatch
  rw [hres]

theorem run_tryCatch_some (hres : (p s).result = some a) : tryCatch p q s = p s := by
  unfold tryCatch
  rw [hres]

@[simp] theorem held_pure : (pure a : Prog ε σ α).held h s = some h := by cases h <;> rfl

@[simp] theorem held_get : (get : Prog ε σ σ).held h s = some h := by cases h <;> rfl

@[simp] theorem held_modify (g : σ → σ) : (modify g : Prog ε σ Unit).held h s = some h := by
  cases h <;> rfl

@[simp] theorem held_raise : (raise : Prog ε σ α).held h s = some h := by cases h <;> rfl

@[simp] theorem held_lock : (act .lock : Prog ε σ Unit).held false s = some true := rfl

@[simp] theorem held_lock_held : (act .lock : Prog ε σ Unit).held true s = none := rfl

@[simp] theorem held_unlock : (act .unlock : Prog ε σ Unit).held true s = some false := rfl

@[simp] theorem held_unlock_free : (act .unlock : Prog ε σ Unit).held false s = none := rfl

theorem Quiet.held (hp : Quiet p) : p.held h s = some h := by
  unfold Prog.held
  rw [hp s]
  cases h <;> rfl

theorem held_andThen (d : Done ε σ α) (p : Prog ε σ β) :
    heldAfter h (lockCalls (andThen d p).acts) =
      (heldAfter h (lockCalls d.acts)).bind fun h' => p.held h' d.state := by
  show heldAfter h (lockCalls (d.acts ++ (p d.state).acts)) = _
  rw [lockCalls_append, heldAfter_append]
  rfl

/-- **A sequence** is followed through its first part, and then from there. -/
theorem held_bind : (p >>= f).held h s =
    match (p s).result with
    | none => p.held h s
    | some a => (p.held h s).bind fun h' => (f a).held h' (p s).state := by
  cases hres : (p s).result with
  | none =>
    unfold held
    rw [run_bind_raised hres]
  | some a =>
    unfold held
    rw [run_bind_some hres]
    exact held_andThen (p s) (f a)

/-- **A handler** goes on from where the exception was raised. -/
theorem held_tryCatch : (tryCatch p q).held h s =
    match (p s).result with
    | none => (p.held h s).bind fun h' => q.held h' (p s).state
    | some _ => p.held h s := by
  cases hres : (p s).result with
  | none =>
    unfold held
    rw [run_tryCatch_raised hres]
    exact held_andThen (p s) q
  | some a =>
    unfold held
    rw [run_tryCatch_some hres]

theorem quiet_orRaise (o : Option α) : Quiet (orRaise o : Prog ε σ α) := by
  intro s
  cases o <;> rfl

theorem Quiet.bind (hp : Quiet p) (hf : ∀ a, Quiet (f a)) : Quiet (p >>= f) := by
  intro s
  cases hres : (p s).result with
  | none =>
    rw [run_bind_raised hres]
    exact hp s
  | some a =>
    rw [run_bind_some hres]
    show lockCalls ((p s).acts ++ (f a (p s).state).acts) = []
    rw [lockCalls_append, hp s, hf a]
    rfl

theorem Quiet.tryCatch (hp : Quiet p) (hq : Quiet q) : Quiet (tryCatch p q) := by
  intro s
  cases hres : (p s).result with
  | none =>
    rw [run_tryCatch_raised hres]
    show lockCalls ((p s).acts ++ (q (p s).state).acts) = []
    rw [lockCalls_append, hp s, hq]
    rfl
  | some a =>
    rw [run_tryCatch_some hres]
    exact hp s

/-- After a quiet part the mutex is as before. -/
theorem Quiet.held_bind (hp : Quiet p) : (p >>= f).held h s =
    match (p s).result with
    | none => some h
    | some a => (f a).held h (p s).state := by
  rw [Prog.held_bind, hp.held]
  cases (p s).result <;> rfl

theorem held_orRaise_bind (o : Option α) : (orRaise o >>= f).held h s =
    match o with
    | none => some h
    | some a => (f a).held h s := by
  cases o with
  | none => exact held_raise
  | some a => rfl

/-- Lock, work, unlock: nothing is unlocked when the work raises. -/
theorem run_locked (p : Prog ε σ α) (g : α → β) (s : σ) :
    (do act .lock; let a ← p; act .unlock; pure (g a) : Prog ε σ β) s =
      match (p s).result with
      | none => { acts := .lock :: (p s).acts, state := (p s).state, result := none }
      | some a =>
        { acts := .lock :: ((p s).acts ++ [.unlock]), state := (p s).state,
          result := some (g a) } := by
  show andThen { acts := [.lock], state := s, result := some () }
    (p >>= fun a => act .unlock >>= fun _ => pure (g a)) = _
  cases hres : (p s).result with
  | none =>
    unfold andThen
    rw [run_bind_raised hres]
    rfl
  | some a =>
    unfold andThen
    rw [run_bind_some hres]
    rfl

/-- The same under a handler that tidies up and unlocks. -/
theorem run_guarded {q : Prog ε σ Unit} (hret : ∀ s, (q s).result = some ()) (g : α → β) (b : β) :
    (tryCatch (do act .lock; let a ← p; act .unlock; pure (g a))
      (do q; act .unlock; pure b) : Prog ε σ β) s =
      match (p s).result with
      | none =>
        { acts := .lock :: (p s).acts ++ ((q (p s).state).acts ++ [.unlock])
          state := (q (p s).state).state, result := some b }
      | some a =>
        { acts := .lock :: ((p s).acts ++ [.unlock]), state := (p s).state,
          result := some (g a) } := by
  have hwork := run_locked p g s
  cases hres : (p s).result with
  | none =>
    rw [hres] at hwork
    rw [run_tryCatch_raised (by rw [hwork]), hwork]
    unfold andThen
    rw [run_bind_some (hret _)]
    rfl
  | some a =>
    rw [hres] at hwork
    rw [run_tryCatch_some (by rw [hwork]), hwork]

/-- **Lock, work, unlock**: the mutex stays held when the work raises. -/
theorem held_locked (hp : Quiet p) (g : α → β) :
    (do act .lock; let a ← p; act .unlock; pure (g a) : Prog ε σ β).held false s =
      if (p s).result = none then some true else some false := by
  unfold held
  rw [run_locked]
  cases (p s).result with
  | none =>
    show heldAfter true (lockCalls (p s).acts) = _
    rw [hp s]
    rfl
  | some a =>
    show heldAfter true (lockCalls ((p s).acts ++ [.unlock])) = _
    rw [lockCalls_append, hp s]
    rfl

/-- **Lock, work and unlock under a handler** leave the mutex free. -/
theorem held_guarded {q : Prog ε σ Unit} (hp : Quiet p) (hq : Quiet q)
    (hret : ∀ s, (q s).result = some ()) (g : α → β) (b : β) :
    (tryCatch (do act .lock; let a ← p; act .unlock; pure (g a))
      (do q; act .unlock; pure b) : Prog ε σ β).held false s = some false := by
  have hwork := run_locked p g s
  rw [held_tryCatch, held_locked hp]
  cases hres : (p s).result with
  | none =>
    -- the handler starts with the mutex held
    rw [hres] at hwork
    rw [hwork, if_pos rfl]
    show (q >>= fun _ => act .unlock >>= fun _ => pure b).held true (p s).state = some false
    rw [hq.held_bind, hret]
    rfl
  | some a =>
    rw [hres] at hwork
    rw [hwork]
    rfl

end Prog

end HNodeMgmt.Lib
