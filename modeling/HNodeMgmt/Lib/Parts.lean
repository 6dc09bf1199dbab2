/-
  HNodeMgmt.Lib.Parts — machines that are put together of others.

  A part of a machine is a machine that each step of the whole moves by one step
  or leaves where it is.  A run of the whole is then a run of the part, with the
  steps that do not concern it left out, and what is known of the runs of the
  part is known of the whole.

  Main results:
    * `Part.run` — a run of the whole is a run of the part.
    * `Part.exists_trans` — a transition of the part is one of the whole.
-/
import Mathlib.Tactic.Common
import HNodeMgmt.Lib.Machine

namespace HNodeMgmt.Lib

variable {S L E S' L' E' : Type} {M : Machine S L E} {N : Machine S' L' E'}

/-- A part of a machine: where it is in a state of the whole, the label of its
step in a step of the whole, and which events are its own. -/
structure Part (M : Machine S L E) (N : Machine S' L' E') where
  state : S → S'
  label : S → L → Option L'
  event : E → Option E'
  rests : ∀ u l v es, M.step u l = some (v, es) → label u l = none →
    state v = state u ∧ es.filterMap event = []
  moves : ∀ u l v es l', M.step u l = some (v, es) → label u l = some l' →
    N.step (state u) l' = some (state v, es.filterMap event)

namespace Part

/-- What the part does in a transition of the whole. -/
def trans (P : Part M N) (t : Trans S L E) : Option (Trans S' L' E') :=
  (P.label t.pre t.label).map fun l' =>
    ⟨P.state t.pre, l', t.evts.filterMap P.event, P.state t.post⟩

/-- What it does in a run. -/
def trace (P : Part M N) (ts : List (Trans S L E)) : List (Trans S' L' E') :=
  ts.filterMap P.trans

variable (P : Part M N) {s₀ s : S} {ts : List (Trans S L E)}

@[simp] theorem trace_nil : P.trace [] = [] := rfl

@[simp] theorem trace_append (ts us : List (Trans S L E)) :
    P.trace (ts ++ us) = P.trace ts ++ P.trace us :=
  List.filterMap_append

/-- **A run of the whole is a run of the part.** -/
theorem run (hr : Run M s₀ ts s) : Run N (P.state s₀) (P.trace ts) (P.state s) := by
  induction hr with
  | nil => exact Run.nil
  | @snoc u v ts l es _ hs ih =>
    rw [trace_append]
    cases hl : P.label u l with
    | none =>
      have hone : P.trace [⟨u, l, es, v⟩] = [] := by simp [trace, trans, hl]
      rw [hone, List.append_nil, (P.rests u l v es hs hl).1]
      exact ih
    | some l' =>
      have hone : P.trace [⟨u, l, es, v⟩] =
          [⟨P.state u, l', es.filterMap P.event, P.state v⟩] := by simp [trace, trans, hl]
      rw [hone]
      exact Run.snoc ih (P.moves u l v es l' hs hl)

/-- **A transition of the part is one of the whole.** -/
theorem exists_trans {t' : Trans S' L' E'} (h : t' ∈ P.trace ts) :
    ∃ before t after, ts = before ++ t :: after ∧ P.trans t = some t' := by
  obtain ⟨t, hmem, htrans⟩ := List.mem_filterMap.mp h
  obtain ⟨before, after, rfl⟩ := List.append_of_mem hmem
  exact ⟨before, t, after, rfl, htrans⟩

end Part

end HNodeMgmt.Lib
