/-
  HNodeMgmt.Lib.Reader — machines that read one symbol at a time.

  A reader takes the symbols of a stream one after the other until it is in a
  final state, where it stops reading.  How the stream was cut into pieces is
  invisible to it, so two readings of one stream that both went on as long as
  they could end in the same state with the same rest.

  Main results:
    * `Reads.feed_eq` — a reading that is settled is the reading of the whole
      stream.
    * `Reads.settled_unique` — two settled readings of one stream agree.
-/
import Mathlib.Tactic.Common

namespace HNodeMgmt.Lib

variable {σ α : Type}

/-- What a reader does with a symbol, and where it stops. -/
structure Reader (σ α : Type) where
  step : σ → α → σ
  final : σ → Bool

/-- Read the symbols in order; the rest is what a final state leaves. -/
def Reader.feed (R : Reader σ α) : σ → List α → σ × List α
  | s, [] => (s, [])
  | s, a :: as => if R.final s then (s, a :: as) else R.feed (R.step s a) as

/-- From `s`, with `xs` to come, the reader gets to `t` with `ys` to come. -/
inductive Reads (R : Reader σ α) : σ → List α → σ → List α → Prop
  | refl {s : σ} {xs : List α} : Reads R s xs s xs
  | step {s t : σ} {a : α} {xs ys : List α} :
      R.final s = false → Reads R (R.step s a) xs t ys → Reads R s (a :: xs) t ys

variable {R : Reader σ α} {s t u : σ} {xs ys zs : List α}

/-- Nothing more can be read: the stream is used up, or the state is final. -/
def Reader.Settled (R : Reader σ α) (s : σ) (xs : List α) : Prop :=
  xs = [] ∨ R.final s = true

theorem Reads.single {a : α} (h : R.final s = false) : Reads R s (a :: xs) (R.step s a) xs :=
  Reads.step h Reads.refl

theorem Reads.trans (h₁ : Reads R s xs t ys) (h₂ : Reads R t ys u zs) : Reads R s xs u zs := by
  induction h₁ with
  | refl => exact h₂
  | step hs _ ih => exact Reads.step hs (ih h₂)

/-- More symbols behind the stream change nothing. -/
theorem Reads.append (h : Reads R s xs t ys) (zs : List α) :
    Reads R s (xs ++ zs) t (ys ++ zs) := by
  induction h with
  | refl => exact Reads.refl
  | step hs _ ih => exact Reads.step hs ih

/-- What was read is the front of the stream. -/
theorem Reads.suffix (h : Reads R s xs t ys) : ∃ cs, xs = cs ++ ys := by
  induction h with
  | refl => exact ⟨[], rfl⟩
  | step _ _ ih =>
    obtain ⟨cs, rfl⟩ := ih
    exact ⟨_ :: cs, rfl⟩

/-- A reading that changes the state takes a symbol first. -/
theorem Reads.head (h : Reads R s xs t ys) (hne : s ≠ t) :
    ∃ a as, xs = a :: as ∧ R.final s = false ∧ Reads R (R.step s a) as t ys := by
  cases h with
  | refl => exact absurd rfl hne
  | step hs hrest => exact ⟨_, _, rfl, hs, hrest⟩

/-- **A settled reading is the reading of the whole stream.** -/
theorem Reads.feed_eq (h : Reads R s xs t ys) (hsettled : R.Settled t ys) :
    R.feed s xs = (t, ys) := by
  induction h with
  | @refl s xs =>
    rcases hsettled with rfl | hfinal
    · rfl
    · cases xs with
      | nil => rfl
      | cons a as => simp [Reader.feed, hfinal]
  | step hs _ ih =>
    rw [Reader.feed, hs]
    exact ih hsettled

theorem Reader.feed_reads (R : Reader σ α) :
    ∀ (s : σ) (xs : List α), Reads R s xs (R.feed s xs).1 (R.feed s xs).2
  | s, [] => Reads.refl
  | s, a :: as => by
      rw [Reader.feed]
      cases h : R.final s with
      | true => exact Reads.refl
      | false => exact Reads.step h (R.feed_reads (R.step s a) as)

theorem Reader.feed_settled (R : Reader σ α) :
    ∀ (s : σ) (xs : List α), R.Settled (R.feed s xs).1 (R.feed s xs).2
  | s, [] => .inl rfl
  | s, a :: as => by
      rw [Reader.feed]
      cases h : R.final s with
      | true => exact .inr h
      | false => exact R.feed_settled (R.step s a) as

/-- **Two settled readings of one stream agree.** -/
theorem Reads.settled_unique {t₁ t₂ : σ} {ys₁ ys₂ : List α} (h₁ : Reads R s xs t₁ ys₁)
    (h₂ : Reads R s xs t₂ ys₂) (hs₁ : R.Settled t₁ ys₁) (hs₂ : R.Settled t₂ ys₂) :
    t₁ = t₂ ∧ ys₁ = ys₂ := by
  have heq : (t₁, ys₁) = (t₂, ys₂) := by rw [← h₁.feed_eq hs₁, ← h₂.feed_eq hs₂]
  exact Prod.mk.inj heq

end HNodeMgmt.Lib
