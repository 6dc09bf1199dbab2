/-
  HNodeMgmt.Lib.While — the loop `while (guard) body`.

  The loop is run with fuel, so that one that does not end has no result for
  any fuel.  The rules say when it ends and what holds then, and when it never
  ends; a property of the states it passes is read off one turn.

  Main results:
    * `whileLoop_total` — an invariant and a measure that falls from turn to
      turn: the loop ends, and the invariant holds where it does.
    * `whileLoop_none` — a loop whose every turn leads to another never ends.
    * `whileLoop_backward` — what holds at the end, and before a turn whenever
      it holds after it, holds at the start.
-/
import Mathlib.Tactic.Common

namespace HNodeMgmt.Lib

variable {σ : Type}

/-! ## §1. The loop, and the states it passes. -/

/-- `while (guard) body`; `none` is a loop still running when the fuel is used up. -/
def whileLoop (guard : σ → Bool) (body : σ → σ) : Nat → σ → Option σ
  | 0, _ => none
  | fuel + 1, s => if guard s then whileLoop guard body fuel (body s) else some s

/-- The loop gets from `s` to `t`. -/
inductive Passes (guard : σ → Bool) (body : σ → σ) : σ → σ → Prop
  | refl {s : σ} : Passes guard body s s
  | turn {s t : σ} : guard s = true → Passes guard body (body s) t → Passes guard body s t

variable {guard : σ → Bool} {body : σ → σ} {s t : σ}

theorem whileLoop_turn (h : guard s = true) (fuel : Nat) :
    whileLoop guard body (fuel + 1) s = whileLoop guard body fuel (body s) := by
  rw [whileLoop, if_pos h]

theorem whileLoop_done (h : guard s = false) (fuel : Nat) :
    whileLoop guard body (fuel + 1) s = some s := by
  rw [whileLoop, if_neg (by rw [h]; decide)]

/-- More fuel changes nothing. -/
theorem whileLoop_mono :
    ∀ {fuel fuel' : Nat} {s : σ}, whileLoop guard body fuel s = some t → fuel ≤ fuel' →
      whileLoop guard body fuel' s = some t
  | 0, _, _, h, _ => by cases h
  | fuel + 1, 0, _, _, hle => absurd hle (Nat.not_succ_le_zero fuel)
  | fuel + 1, fuel' + 1, s, h, hle => by
      cases hguard : guard s with
      | true =>
        rw [whileLoop_turn hguard] at h ⊢
        exact whileLoop_mono h (Nat.le_of_succ_le_succ hle)
      | false =>
        rw [whileLoop_done hguard] at h ⊢
        exact h

/-- A loop ends in one state only. -/
theorem whileLoop_unique {fuel fuel' : Nat} {t' : σ} (h : whileLoop guard body fuel s = some t)
    (h' : whileLoop guard body fuel' s = some t') : t = t' := by
  rcases Nat.le_total fuel fuel' with hle | hle
  · exact Option.some.inj ((whileLoop_mono h hle).symm.trans h')
  · exact Option.some.inj (h.symm.trans (whileLoop_mono h' hle))

/-- An invariant of the turns holds in every state that is passed. -/
theorem Passes.invariant {I : σ → Prop} (h : Passes guard body s t) (h0 : I s)
    (hturn : ∀ u, I u → guard u = true → I (body u)) : I t := by
  induction h with
  | refl => exact h0
  | turn hguard _ ih => exact ih (hturn _ h0 hguard)

/-! ## §2. The rules. -/

/-- **A loop that ends.**  Each turn keeps the invariant, and the measure falls
unless it was the last. -/
theorem whileLoop_total {I : σ → Prop} (μ : σ → Nat)
    (hturn : ∀ u, I u → guard u = true →
      I (body u) ∧ (guard (body u) = true → μ (body u) < μ u)) :
    ∀ s, I s → ∃ fuel t, whileLoop guard body fuel s = some t ∧ I t ∧ guard t = false := by
  intro s h
  induction hm : μ s using Nat.strongRecOn generalizing s with
  | ind m ih =>
    cases hguard : guard s with
    | false => exact ⟨1, s, whileLoop_done hguard 0, h, hguard⟩
    | true =>
      obtain ⟨hbody, hless⟩ := hturn s h hguard
      cases hagain : guard (body s) with
      | false =>
        exact ⟨2, body s, by rw [whileLoop_turn hguard, whileLoop_done hagain], hbody, hagain⟩
      | true =>
        obtain ⟨fuel, t, hloop, ht⟩ := ih _ (hm ▸ hless hagain) (body s) hbody rfl
        exact ⟨fuel + 1, t, by rw [whileLoop_turn hguard, hloop], ht⟩

/-- **A loop that never ends.** -/
theorem whileLoop_none {I : σ → Prop} (hturn : ∀ u, I u → guard u = true ∧ I (body u)) :
    ∀ (fuel : Nat) {s : σ}, I s → whileLoop guard body fuel s = none
  | 0, _, _ => rfl
  | fuel + 1, s, h => by
      obtain ⟨hguard, hbody⟩ := hturn s h
      rw [whileLoop_turn hguard]
      exact whileLoop_none hturn fuel hbody

/-- **Backwards from the end.** -/
theorem whileLoop_backward {I : σ → Prop} (hdone : ∀ u, guard u = false → I u)
    (hturn : ∀ u, guard u = true → I (body u) → I u) :
    ∀ {fuel : Nat} {s : σ}, whileLoop guard body fuel s = some t → I s
  | 0, _, h => by cases h
  | fuel + 1, s, h => by
      cases hguard : guard s with
      | false => exact hdone s hguard
      | true =>
        rw [whileLoop_turn hguard] at h
        exact hturn s hguard (whileLoop_backward hdone hturn h)

end HNodeMgmt.Lib
