/-
  HNodeMgmt.Lib.PathTemplate — path templates, and tables of them.

  A template is a list of parts, each a fixed text or a named parameter.  It
  takes lists of segments of its own length in which the fixed parts stand where
  they are, and it gives every other segment to the parameter at its place.  A
  table is asked in order, and the first entry that takes the segments decides;
  the order is of no importance when no two entries can take the same ones.

  Main results:
    * `capture_iff` — what a template takes is what it spells.
    * `overlap_of_spells` — two templates with a common spelling differ in no
      fixed part.
    * `findSome?_iff_of_apart` — a table of entries that exclude each other is a
      set.
-/
import Mathlib.Tactic.Common

namespace HNodeMgmt.Lib

variable {κ α : Type}

/-! ## §1. Templates. -/

/-- A part of a template. -/
inductive PathPart (κ α : Type) where
  | fixed (text : α)
  | param (name : κ)
  deriving DecidableEq

/-- The name of a parameter. -/
def PathPart.name? : PathPart κ α → Option κ
  | .fixed _ => none
  | .param name => some name

/-- What a template makes of segments: the values of its parameters. -/
def capture [DecidableEq α] : List (PathPart κ α) → List α → Option (List (κ × α))
  | [], [] => some []
  | .fixed text :: parts, segment :: segments =>
    if text = segment then capture parts segments else none
  | .param name :: parts, segment :: segments =>
    (capture parts segments).map ((name, segment) :: ·)
  | _, _ => none

/-- With these values of its parameters a template spells these segments. -/
inductive Spells : List (PathPart κ α) → List (κ × α) → List α → Prop
  | nil : Spells [] [] []
  | fixed (text : α) {parts : List (PathPart κ α)} {values : List (κ × α)} {segments : List α}
      (rest : Spells parts values segments) :
      Spells (.fixed text :: parts) values (text :: segments)
  | param (name : κ) (value : α) {parts : List (PathPart κ α)} {values : List (κ × α)}
      {segments : List α} (rest : Spells parts values segments) :
      Spells (.param name :: parts) ((name, value) :: values) (value :: segments)

section Capture

variable [DecidableEq α]

theorem capture_of_spells {parts : List (PathPart κ α)} {values : List (κ × α)} {segments : List α}
    (h : Spells parts values segments) : capture parts segments = some values := by
  induction h with
  | nil => rfl
  | fixed text rest ih =>
    rw [capture, if_pos rfl]
    exact ih
  | param name value rest ih =>
    rw [capture, ih]
    rfl

/-- **What a template takes is what it spells.** -/
theorem capture_iff {parts : List (PathPart κ α)} {values : List (κ × α)} {segments : List α} :
    capture parts segments = some values ↔ Spells parts values segments := by
  refine ⟨fun h => ?_, capture_of_spells⟩
  induction parts, segments using capture.induct generalizing values with
  | case1 =>
    obtain rfl := Option.some.inj h
    exact .nil
  | case2 parts text segments ih =>
    rw [capture, if_pos rfl] at h
    exact .fixed text (ih h)
  | case3 text parts segment segments hne =>
    rw [capture, if_neg hne] at h
    cases h
  | case4 name parts segment segments ih =>
    obtain ⟨rest, hrest, rfl⟩ := Option.map_eq_some_iff.mp h
    exact .param name segment (ih hrest)
  | case5 parts segments =>
    rw [capture] at h
    · cases h
    all_goals assumption

end Capture

/-- The parameters come in the order of the template. -/
theorem Spells.names {parts : List (PathPart κ α)} {values : List (κ × α)} {segments : List α}
    (h : Spells parts values segments) : values.map Prod.fst = parts.filterMap PathPart.name? := by
  induction h with
  | nil => rfl
  | fixed text rest ih => exact ih
  | param name value rest ih => exact congrArg (name :: ·) ih

/-- A fixed part stands where it is. -/
theorem Spells.fixed_get {parts : List (PathPart κ α)} {values : List (κ × α)}
    {segments : List α} (h : Spells parts values segments) {i : Nat} {text : α}
    (hpart : parts[i]? = some (.fixed text)) : segments[i]? = some text := by
  induction h generalizing i with
  | nil => cases hpart
  | fixed text' rest ih =>
    cases i with
    | zero =>
      obtain rfl := PathPart.fixed.inj (Option.some.inj hpart)
      rfl
    | succ i => exact ih hpart
  | param name value rest ih =>
    cases i with
    | zero => cases Option.some.inj hpart
    | succ i => exact ih hpart

/-! ## §2. Two templates. -/

/-- One segment can stand at both parts. -/
def PathPart.meets [DecidableEq α] : PathPart κ α → PathPart κ α → Bool
  | .fixed text, .fixed text' => text = text'
  | _, _ => true

/-- No place tells the two templates apart. -/
def overlap [DecidableEq α] : List (PathPart κ α) → List (PathPart κ α) → Bool
  | [], [] => true
  | part :: parts, part' :: parts' => part.meets part' && overlap parts parts'
  | _, _ => false

/-- **Templates with a common spelling overlap.** -/
theorem overlap_of_spells [DecidableEq α] {parts parts' : List (PathPart κ α)}
    {values values' : List (κ × α)} {segments : List α} (h : Spells parts values segments)
    (h' : Spells parts' values' segments) : overlap parts parts' = true := by
  induction h generalizing parts' values' with
  | nil =>
    cases h'
    rfl
  | fixed text rest ih =>
    cases h' with
    | fixed _ rest' =>
      rw [overlap, ih rest', Bool.and_true]
      exact decide_eq_true rfl
    | param name _ rest' =>
      rw [overlap, ih rest']
      rfl
  | param name value rest ih =>
    cases h' with
    | fixed _ rest' =>
      rw [overlap, ih rest']
      rfl
    | param _ _ rest' =>
      rw [overlap, ih rest']
      rfl

/-! ## §3. Tables. -/

/-- **A table of entries that exclude each other is a set**: its first answer is the
answer of the one entry that has one. -/
theorem findSome?_iff_of_apart {ρ β : Type} {answer : ρ → Option β} {table : List ρ} {b : β}
    (hapart : table.Pairwise fun r r' => ∀ b b', answer r = some b → answer r' ≠ some b') :
    table.findSome? answer = some b ↔ ∃ r ∈ table, answer r = some b := by
  refine ⟨List.exists_of_findSome?_eq_some, ?_⟩
  intro ⟨r, hmem, hanswer⟩
  induction hapart with
  | nil => cases hmem
  | @cons first rest hfirst hrest ih =>
    rcases List.mem_cons.mp hmem with rfl | hmem
    · rw [List.findSome?_cons, hanswer]
    · rw [List.findSome?_cons]
      cases hnone : answer first with
      | none => exact ih hmem
      | some b' => exact absurd hanswer (hfirst r hmem b' b hnone)

end HNodeMgmt.Lib
