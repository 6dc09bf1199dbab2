/-
  HNodeMgmt.Lib.Handles — owning pointers, and who holds which of them.

  Places hold handles to objects that they create and delete themselves.  An
  object has an identity, and the objects not yet deleted are kept, so that a
  handle held twice and a handle to a deleted object can be told.  Copying a
  handle from one place to another is the one operation that does not keep
  ownership; creating, writing, forgetting and deleting do.

  Main results:
    * `OneOwner.create`, `OneOwner.write`, `OneOwner.clear`, `OneOwner.delete`
      — what keeps one owner for each object.
    * `held_assign` — copying a handle makes two owners.
-/
import Mathlib.Tactic.Common
import Mathlib.Logic.Function.Basic
import HNodeMgmt.Lib.OrdMap

namespace HNodeMgmt.Lib

variable {π α : Type} [DecidableEq π]

/-! ## §1. Places, handles and objects. -/

/-- What each place holds, and the objects not yet deleted, numbered as they
were created. -/
structure Handles (π α : Type) where
  held : π → Option Nat
  objects : OrdMap Nat α
  next : Nat

namespace Handles

/-- No place holds anything. -/
def none : Handles π α := { held := fun _ => Option.none, objects := ∅, next := 0 }

/-- A new object, held by `p`. -/
def create (h : Handles π α) (p : π) (x : α) : Handles π α :=
  { held := Function.update h.held p (some h.next)
    objects := h.objects.insert h.next x
    next := h.next + 1 }

/-- Write the object `m`. -/
def write (h : Handles π α) (m : Nat) (x : α) : Handles π α :=
  { h with objects := h.objects.insert m x }

/-- `p` holds nothing from now on. -/
def clear (h : Handles π α) (p : π) : Handles π α :=
  { h with held := Function.update h.held p Option.none }

/-- `p` holds what `q` holds. -/
def assign (h : Handles π α) (p q : π) : Handles π α :=
  { h with held := Function.update h.held p (h.held q) }

/-- Delete what `p` holds; an object is not deleted twice. -/
def delete (h : Handles π α) (p : π) : Option (Handles π α) :=
  match h.held p with
  | Option.none => some h
  | some m => if m ∈ h.objects then some ({ h with objects := h.objects.erase m }.clear p)
      else Option.none

end Handles

/-! ## §2. One owner. -/

/-- No two places hold one object. -/
def Handles.Unique (h : Handles π α) : Prop :=
  ∀ p q m, h.held p = some m → h.held q = some m → p = q

/-- Each object that is held has one owner and is not deleted; new objects have
new numbers. -/
structure OneOwner (h : Handles π α) : Prop where
  unique : h.Unique
  live : ∀ p m, h.held p = some m → m ∈ h.objects
  fresh : ∀ m, m ∈ h.objects → m < h.next

variable {h h' : Handles π α}

omit [DecidableEq π] in
theorem OneOwner.none : OneOwner (Handles.none : Handles π α) := by
  refine ⟨fun p q m hp => ?_, fun p m hp => ?_, fun m hm => ?_⟩
  · cases hp
  · cases hp
  · exact absurd hm Std.ExtTreeMap.not_mem_empty

/-- What is held after one place is written. -/
theorem held_update {held : π → Option Nat} {p q : π} {o : Option Nat} {m : Nat}
    (hq : Function.update held p o q = some m) :
    (q = p ∧ o = some m) ∨ (q ≠ p ∧ held q = some m) := by
  by_cases heq : q = p
  · subst heq
    rw [Function.update_self] at hq
    exact Or.inl ⟨rfl, hq⟩
  · rw [Function.update_of_ne heq] at hq
    exact Or.inr ⟨heq, hq⟩

/-- **Creating** gives the new object one owner. -/
theorem OneOwner.create (hown : OneOwner h) (p : π) (x : α) : OneOwner (h.create p x) := by
  -- nothing that is held has the new number
  have hold : ∀ q, h.held q ≠ some h.next := fun q hq =>
    Nat.lt_irrefl _ (hown.fresh _ (hown.live q _ hq))
  have hmem : ∀ m, m ∈ (h.create p x).objects ↔ m = h.next ∨ m ∈ h.objects := by
    intro m
    simp only [Handles.create, Std.ExtTreeMap.mem_insert, compare_eq_iff_eq]
    exact or_congr_left eq_comm
  refine ⟨fun q r m hq hr => ?_, fun q m hq => ?_, fun m hm => ?_⟩
  · rcases held_update hq with ⟨hqp, hm⟩ | ⟨-, hq'⟩
    · rcases held_update hr with ⟨hrp, -⟩ | ⟨-, hr'⟩
      · exact hqp.trans hrp.symm
      · exact absurd (hr'.trans hm.symm) (hold r)
    · rcases held_update hr with ⟨-, hm⟩ | ⟨-, hr'⟩
      · exact absurd (hq'.trans hm.symm) (hold q)
      · exact hown.unique q r m hq' hr'
  · rw [hmem]
    rcases held_update hq with ⟨-, hm⟩ | ⟨-, hq⟩
    · exact Or.inl (Option.some.inj hm).symm
    · exact Or.inr (hown.live q m hq)
  · show m < h.next + 1
    rcases (hmem m).mp hm with rfl | hlt
    · exact Nat.lt_succ_self _
    · exact Nat.lt_succ_of_lt (hown.fresh m hlt)

omit [DecidableEq π] in
/-- **Writing** an object that is there changes no owner. -/
theorem OneOwner.write (hown : OneOwner h) {m : Nat} (hm : m ∈ h.objects) (x : α) :
    OneOwner (h.write m x) := by
  have hmem : ∀ m', m' ∈ (h.write m x).objects ↔ m' ∈ h.objects := by
    intro m'
    simp only [Handles.write, Std.ExtTreeMap.mem_insert, compare_eq_iff_eq]
    exact ⟨fun hor => hor.elim (fun heq => heq ▸ hm) id, Or.inr⟩
  exact ⟨hown.unique, fun p m' hp => (hmem m').mpr (hown.live p m' hp),
    fun m' hm' => hown.fresh m' ((hmem m').mp hm')⟩

/-- **Forgetting** a handle leaves the others as they are. -/
theorem OneOwner.clear (hown : OneOwner h) (p : π) : OneOwner (h.clear p) := by
  have hback : ∀ q m, (h.clear p).held q = some m → h.held q = some m := by
    intro q m hq
    rcases held_update hq with ⟨-, hm⟩ | ⟨-, hq⟩
    · cases hm
    · exact hq
  exact ⟨fun q r m hq hr => hown.unique q r m (hback q m hq) (hback r m hr),
    fun q m hq => hown.live q m (hback q m hq), hown.fresh⟩

/-- **Deleting** takes the object away from its only owner. -/
theorem OneOwner.delete (hown : OneOwner h) {p : π} (hdel : h.delete p = some h') :
    OneOwner h' := by
  unfold Handles.delete at hdel
  cases hheld : h.held p with
  | none =>
    rw [hheld] at hdel
    obtain rfl := Option.some.inj hdel
    exact hown
  | some m =>
    simp only [hheld, if_pos (hown.live p m hheld)] at hdel
    obtain rfl := Option.some.inj hdel
    have hclear := hown.clear p
    refine ⟨hclear.unique, fun q m' hq => ?_, fun m' hm' => ?_⟩
    · -- another place holds another object
      have hlive : m' ∈ h.objects := hclear.live q m' hq
      rcases held_update hq with ⟨-, hm'⟩ | ⟨hne, hq⟩
      · cases hm'
      · show m' ∈ h.objects.erase m
        simp only [Std.ExtTreeMap.mem_erase, ne_eq, compare_eq_iff_eq]
        refine ⟨?_, hlive⟩
        rintro rfl
        exact hne (hown.unique q p m hq hheld)
    · exact hown.fresh m' (Std.ExtTreeMap.mem_of_mem_erase hm')

/-- An owner's delete goes through. -/
theorem OneOwner.exists_delete (hown : OneOwner h) (p : π) : ∃ h', h.delete p = some h' := by
  unfold Handles.delete
  cases hheld : h.held p with
  | none => exact ⟨h, rfl⟩
  | some m =>
    simp only [if_pos (hown.live p m hheld)]
    exact ⟨_, rfl⟩

/-- Copying the handle of a place that holds nothing forgets one. -/
theorem OneOwner.assign (hown : OneOwner h) {p q : π} (hq : h.held q = Option.none) :
    OneOwner (h.assign p q) := by
  have heq : h.assign p q = h.clear p := by
    unfold Handles.assign Handles.clear
    rw [hq]
  rw [heq]
  exact hown.clear p

/-- **Copying a handle** makes two owners. -/
theorem held_assign {p q : π} {m : Nat} (hq : h.held q = some m) :
    (h.assign p q).held p = some m ∧ (h.assign p q).held q = some m := by
  have hp : Function.update h.held p (h.held q) p = some m := by rw [Function.update_self, hq]
  refine ⟨hp, ?_⟩
  show Function.update h.held p (h.held q) q = some m
  by_cases heq : q = p
  · rw [heq] at hq ⊢
    rw [Function.update_self, hq]
  · rw [Function.update_of_ne heq, hq]

end HNodeMgmt.Lib
