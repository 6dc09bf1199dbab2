/-
  HNodeMgmt.Lib.Machine — labelled machines with outputs, and their runs.

  A machine is a PARTIAL step function on an explicit state: a label that
  cannot be taken in a state has no step there.  Every step emits a list of
  events, so that a property of a whole history ("the last reply said …",
  "every accepted command was executed") is a property of the list of events
  of a run, and nothing has to be added to the state for it.

  Main results:
    * `Run.historyInvariant` — what one step preserves, a whole run
      preserves; the steps may be restricted by a condition on the state and
      the label they are taken with.
    * `Run.invariant_iff` — when one step keeps a property EXACTLY under a
      condition, a run keeps it in every state exactly when all its steps
      meet that condition; `Run.kept_iff` is the same for a property of the
      transitions that needs an invariant beside it.
    * `Machine.run_of_exec` — a run from an executable list of labels.
-/
import Mathlib.Tactic.Common

namespace HNodeMgmt.Lib

variable {S L E : Type}

/-! ## §1. Machines and runs. -/

/-- A labelled machine: the step function and the events of a step. -/
structure Machine (S L E : Type) where
  step : S → L → Option (S × List E)

/-- One transition of a run. -/
structure Trans (S L E : Type) where
  pre : S
  label : L
  evts : List E
  post : S

/-- The transitions lead from the state `s₀` to the last state. -/
inductive Run (M : Machine S L E) (s₀ : S) : List (Trans S L E) → S → Prop
  | nil : Run M s₀ [] s₀
  | snoc {u v : S} {ts : List (Trans S L E)} {l : L} {es : List E} :
      Run M s₀ ts u → M.step u l = some (v, es) → Run M s₀ (ts ++ [⟨u, l, es, v⟩]) v

/-- The events of a run, oldest first. -/
def history (ts : List (Trans S L E)) : List E := ts.flatMap Trans.evts

@[simp] theorem history_nil : history ([] : List (Trans S L E)) = [] := rfl

@[simp] theorem history_append (ts us : List (Trans S L E)) :
    history (ts ++ us) = history ts ++ history us := by
  simp [history]

@[simp] theorem history_singleton (t : Trans S L E) : history [t] = t.evts := by
  simp [history]

/-- Every transition of a run satisfies `C` on its state and label. -/
def StepsMeet (C : S → L → Prop) (ts : List (Trans S L E)) : Prop :=
  ∀ t ∈ ts, C t.pre t.label

theorem stepsMeet_snoc {C : S → L → Prop} {ts : List (Trans S L E)} {t : Trans S L E} :
    StepsMeet C (ts ++ [t]) ↔ StepsMeet C ts ∧ C t.pre t.label := by
  simp [StepsMeet, or_imp, forall_and]

/-! ## §2. The invariant rules. -/

/-- **The run rule.** A property of the events so far and the state that holds
at the start, and that every step meeting `C` preserves, holds after every run
whose steps all meet `C`. -/
theorem Run.historyInvariant {M : Machine S L E} {C : S → L → Prop}
    {P : List E → S → Prop} {s₀ s : S} {ts : List (Trans S L E)}
    (h0 : P [] s₀)
    (hstep : ∀ h u l v es, P h u → C u l → M.step u l = some (v, es) → P (h ++ es) v)
    (hr : Run M s₀ ts s) (hc : StepsMeet C ts) : P (history ts) s := by
  induction hr with
  | nil => exact h0
  | snoc _ hs ih =>
    rw [stepsMeet_snoc] at hc
    rw [history_append, history_singleton]
    exact hstep _ _ _ _ _ (ih hc.1) hc.2 hs

/-- The run rule for a property of the state alone, with no condition. -/
theorem Run.invariant {M : Machine S L E} {P : S → Prop} {s₀ s : S}
    {ts : List (Trans S L E)} (h0 : P s₀)
    (hstep : ∀ u l v es, P u → M.step u l = some (v, es) → P v)
    (hr : Run M s₀ ts s) : P s :=
  Run.historyInvariant (P := fun _ => P) (C := fun _ _ => True) h0
    (fun _ u l v es hp _ hs => hstep u l v es hp hs) hr (fun _ _ => trivial)

/-- The run rule for a property of the transitions themselves, when a step may
use the run in front of it. -/
theorem Run.traceInvariant {M : Machine S L E} {P : List (Trans S L E) → S → Prop} {s₀ s : S}
    {ts : List (Trans S L E)} (h0 : P [] s₀)
    (hstep : ∀ us u l v es, Run M s₀ us u → P us u → M.step u l = some (v, es) →
      P (us ++ [⟨u, l, es, v⟩]) v)
    (hr : Run M s₀ ts s) : P ts s := by
  induction hr with
  | nil => exact h0
  | snoc hr hs ih => exact hstep _ _ _ _ _ hr ih hs

/-- Runs are put one after the other. -/
theorem Run.append {M : Machine S L E} {s₀ u v : S} {ts us : List (Trans S L E)}
    (hr : Run M s₀ ts u) (hr' : Run M u us v) : Run M s₀ (ts ++ us) v := by
  induction hr' with
  | nil =>
    rw [List.append_nil]
    exact hr
  | snoc _ hs ih =>
    rw [← List.append_assoc]
    exact Run.snoc ih hs

/-- Every transition of a run was taken from a state that a prefix of the run
reaches. -/
theorem Run.split {M : Machine S L E} {s₀ s : S} {ts₁ ts₂ : List (Trans S L E)}
    {t : Trans S L E} (hr : Run M s₀ (ts₁ ++ t :: ts₂) s) :
    Run M s₀ ts₁ t.pre ∧ M.step t.pre t.label = some (t.post, t.evts) := by
  generalize hts : ts₁ ++ t :: ts₂ = ts at hr
  induction hr generalizing ts₂ with
  | nil => simp at hts
  | @snoc u v ts l es hr hs ih =>
    rcases List.eq_nil_or_concat ts₂ with rfl | ⟨us, w, rfl⟩
    · obtain ⟨rfl, ht⟩ := List.append_inj' hts rfl
      obtain rfl : t = ⟨u, l, es, v⟩ := by simpa using ht
      exact ⟨hr, hs⟩
    · have hsplit : (ts₁ ++ t :: us) ++ [w] = ts ++ [⟨u, l, es, v⟩] := by
        simpa using hts
      exact ih (List.append_inj' hsplit rfl).1

/-- **The exact run rule.** Let `J` hold along every run.  If, from a state
with `I`, a step keeps `I` exactly when it meets `C`, then the steps of a run
all meet `C` exactly when `I` holds in every state of the run. -/
theorem Run.invariant_iff {M : Machine S L E} {C : S → L → Prop} {I J : S → Prop}
    {s₀ s : S} {ts : List (Trans S L E)} (hJ0 : J s₀) (hI0 : I s₀)
    (hJ : ∀ u l v es, J u → M.step u l = some (v, es) → J v)
    (hI : ∀ u l v es, J u → I u → M.step u l = some (v, es) → (I v ↔ C u l))
    (hr : Run M s₀ ts s) : StepsMeet C ts ↔ ∀ t ∈ ts, I t.post := by
  suffices h : (StepsMeet C ts ↔ ∀ t ∈ ts, I t.post) ∧ ((∀ t ∈ ts, I t.post) → I s) from h.1
  induction hr with
  | nil => simp [StepsMeet, hI0]
  | @snoc u v ts l es hr hs ih =>
    obtain ⟨hiff, hlast⟩ := ih
    have hJu : J u := Run.invariant hJ0 hJ hr
    simp only [stepsMeet_snoc, hiff, List.mem_append, List.mem_singleton, or_imp,
      forall_and, forall_eq]
    refine ⟨⟨fun ⟨hall, hC⟩ => ⟨hall, ?_⟩, fun ⟨hall, hv⟩ => ⟨hall, ?_⟩⟩, fun h => h.2⟩
    · exact (hI u l v es hJu (hlast hall) hs).mpr hC
    · exact (hI u l v es hJu (hlast hall) hs).mp hv

/-- **The exact run rule with an invariant of its own.** While every step meets
`C`, the invariant `I` is kept and every transition has the property `K`; and a
transition with `K` taken from `I` meets `C`.  Then the steps of a run all meet
`C` exactly when all its transitions have `K`. -/
theorem Run.kept_iff {M : Machine S L E} {C : S → L → Prop} {I : S → Prop}
    {K : Trans S L E → Prop} {s₀ s : S} {ts : List (Trans S L E)} (h0 : I s₀)
    (hkeep : ∀ u l v es, I u → C u l → M.step u l = some (v, es) → I v ∧ K ⟨u, l, es, v⟩)
    (hback : ∀ u l v es, I u → M.step u l = some (v, es) → K ⟨u, l, es, v⟩ → C u l)
    (hr : Run M s₀ ts s) : StepsMeet C ts ↔ ∀ t ∈ ts, K t := by
  suffices h : (StepsMeet C ts ↔ ∀ t ∈ ts, K t) ∧ (StepsMeet C ts → I s) from h.1
  induction hr with
  | nil => exact ⟨by simp [StepsMeet], fun _ => h0⟩
  | @snoc u v ts l es hr hs ih =>
    obtain ⟨hiff, hlast⟩ := ih
    have hmem : (∀ t ∈ ts ++ [⟨u, l, es, v⟩], K t) ↔ (∀ t ∈ ts, K t) ∧ K ⟨u, l, es, v⟩ := by
      rw [List.forall_mem_append, List.forall_mem_singleton]
    rw [stepsMeet_snoc, hmem, ← hiff]
    refine ⟨and_congr_right fun hall => ⟨fun hC => ?_, fun hK => ?_⟩, fun ⟨hall, hC⟩ => ?_⟩
    · exact (hkeep u l v es (hlast hall) hC hs).2
    · exact hback u l v es (hlast hall) hs hK
    · exact (hkeep u l v es (hlast hall) hC hs).1

/-! ## §3. Executable runs. -/

/-- Take the labels in order; `none` when one of them has no step. -/
def Machine.exec (M : Machine S L E) : S → List L → Option (List (Trans S L E) × S)
  | s, [] => some ([], s)
  | s, l :: ls => do
    let (u, es) ← M.step s l
    let (ts, v) ← M.exec u ls
    return (⟨s, l, es, u⟩ :: ts, v)

/-- A run may be extended at its front. -/
theorem Run.cons {M : Machine S L E} {s u v : S} {l : L} {es : List E}
    {ts : List (Trans S L E)} (hs : M.step s l = some (u, es)) (hr : Run M u ts v) :
    Run M s (⟨s, l, es, u⟩ :: ts) v := by
  induction hr with
  | nil => exact Run.snoc Run.nil hs
  | snoc _ hlast ih => exact Run.snoc ih hlast

/-- What `exec` computes is a run. -/
theorem Machine.run_of_exec {M : Machine S L E} :
    ∀ {s v : S} {ls : List L} {ts : List (Trans S L E)},
      M.exec s ls = some (ts, v) → Run M s ts v
  | s, v, [], ts, h => by
      obtain ⟨rfl, rfl⟩ : [] = ts ∧ s = v := by simpa [Machine.exec] using h
      exact Run.nil
  | s, v, l :: ls, ts, h => by
      simp only [Machine.exec, Option.bind_eq_bind, Option.bind_eq_some_iff, Option.pure_def,
        Option.some.injEq, Prod.mk.injEq, Prod.exists] at h
      obtain ⟨u, es, hs, ts', w, he, rfl, rfl⟩ := h
      exact Run.cons hs (Machine.run_of_exec he)

/-- A property of the outcome of `exec` holds of some run. -/
theorem Machine.exists_run_of_exec {M : Machine S L E} {s : S} {l : List L}
    {p : List (Trans S L E) × S → Bool} (h : (M.exec s l).any p = true) :
    ∃ ts v, Run M s ts v ∧ p (ts, v) = true := by
  cases hx : M.exec s l with
  | none => simp [hx] at h
  | some r =>
    obtain ⟨ts, v⟩ := r
    rw [hx] at h
    exact ⟨ts, v, Machine.run_of_exec hx, by simpa using h⟩

end HNodeMgmt.Lib
