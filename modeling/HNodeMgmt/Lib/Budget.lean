/-
  HNodeMgmt.Lib.Budget — counting along the runs of a machine.

  A cost is charged to some of the transitions of a run, and a potential of the
  state pays for it: what a step costs and what it leaves is no more than what
  it found and was given.  The bound on a whole run is then the potential it
  starts with and the credit given on the way.

  Main results:
    * `Run.budget` — the amortized bound.
    * `Run.balance` — the same with equality, where a run can come to a state
      that it does not leave and the account is not kept there.
    * `Run.drains` — a potential that each cost takes from is used up.
-/
import Mathlib.Tactic.Common
import HNodeMgmt.Lib.Machine

namespace HNodeMgmt.Lib

variable {S L E : Type} {M : Machine S L E} {s₀ s : S} {ts us : List (Trans S L E)}

/-! ## §1. Totals. -/

/-- What the transitions of a run cost together. -/
def total (cost : Trans S L E → Nat) : List (Trans S L E) → Nat
  | [] => 0
  | t :: ts => cost t + total cost ts

@[simp] theorem total_nil (cost : Trans S L E → Nat) : total cost [] = 0 := rfl

@[simp] theorem total_append (cost : Trans S L E → Nat) (ts us : List (Trans S L E)) :
    total cost (ts ++ us) = total cost ts + total cost us := by
  induction ts with
  | nil => exact (Nat.zero_add _).symm
  | cons t ts ih =>
    show cost t + total cost (ts ++ us) = cost t + total cost ts + total cost us
    rw [ih, Nat.add_assoc]

@[simp] theorem total_singleton (cost : Trans S L E → Nat) (t : Trans S L E) :
    total cost [t] = cost t := rfl

@[simp] theorem total_zero (ts : List (Trans S L E)) : total (fun _ => 0) ts = 0 := by
  induction ts with
  | nil => rfl
  | cons t ts ih => exact (Nat.zero_add _).trans ih

/-- Two costs are charged one by one. -/
theorem total_add (c d : Trans S L E → Nat) (ts : List (Trans S L E)) :
    total (fun t => c t + d t) ts = total c ts + total d ts := by
  induction ts with
  | nil => rfl
  | cons t ts ih =>
    show c t + d t + total (fun t => c t + d t) ts = c t + total c ts + (d t + total d ts)
    rw [ih]
    omega

/-! ## §2. The rules. -/

/-- **The amortized bound.**  `J` holds along every run, and from it a step
costs no more than the potential it takes and the credit it is given. -/
theorem Run.budget {J : S → Prop} {Φ : S → Nat} {cost credit : Trans S L E → Nat}
    (h0 : J s₀) (hJ : ∀ u l v es, J u → M.step u l = some (v, es) → J v)
    (hstep : ∀ u l v es, J u → M.step u l = some (v, es) →
      cost ⟨u, l, es, v⟩ + Φ v ≤ Φ u + credit ⟨u, l, es, v⟩)
    (hr : Run M s₀ ts s) : total cost ts + Φ s ≤ Φ s₀ + total credit ts := by
  induction hr with
  | nil => simp
  | @snoc u v ts l es hr hs ih =>
    have hone := hstep u l v es (Run.invariant h0 hJ hr) hs
    rw [total_append, total_append, total_singleton, total_singleton]
    omega

/-- **The exact account**, which is kept until the run comes to a state that
satisfies `D`, and such a state is not left. -/
theorem Run.balance {J D : S → Prop} {Φ : S → Nat} {cost credit : Trans S L E → Nat}
    (h0 : J s₀) (hJ : ∀ u l v es, J u → M.step u l = some (v, es) → J v)
    (hD : ∀ u l v es, D u → M.step u l = some (v, es) → D v)
    (hstep : ∀ u l v es, J u → ¬ D v → M.step u l = some (v, es) →
      cost ⟨u, l, es, v⟩ + Φ v = Φ u + credit ⟨u, l, es, v⟩)
    (hr : Run M s₀ ts s) (hlive : ¬ D s) : total cost ts + Φ s = Φ s₀ + total credit ts := by
  induction hr with
  | nil => simp
  | @snoc u v ts l es hr hs ih =>
    have hone := hstep u l v es (Run.invariant h0 hJ hr) hlive hs
    have hall := ih fun hdead => hlive (hD u l v es hdead hs)
    rw [total_append, total_append, total_singleton, total_singleton]
    omega

/-- **A potential is used up.**  Each step that meets `C` takes what it costs
from the potential, as far as there is any left. -/
theorem Run.drains {C : S → L → Prop} {J : S → Prop} {Φ : S → Nat} {cost : Trans S L E → Nat}
    (h0 : J s₀) (hJ : ∀ u l v es, J u → M.step u l = some (v, es) → J v)
    (hstep : ∀ u l v es, J u → C u l → M.step u l = some (v, es) →
      Φ v ≤ Φ u - cost ⟨u, l, es, v⟩)
    (hr : Run M s₀ ts s) (hc : StepsMeet C ts) : Φ s ≤ Φ s₀ - total cost ts := by
  induction hr with
  | nil => simp
  | @snoc u v ts l es hr hs ih =>
    rw [stepsMeet_snoc] at hc
    have hone := hstep u l v es (Run.invariant h0 hJ hr) hc.2 hs
    have hall := ih hc.1
    rw [total_append, total_singleton]
    omega

end HNodeMgmt.Lib
