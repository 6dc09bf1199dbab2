/-
  HNodeMgmt.Lib.Block — a block of memory, with every access checked.

  A block has the size it was allocated with; a cell of it is empty until it is
  written.  A write that does not lie inside, and a read of more than there is
  or of a cell nobody has written, has no result.

  Main results:
    * `write_filled` — a block that is filled from its start is filled further.
    * `read_filled` — a full one is read back.
-/
import Mathlib.Tactic.Common

namespace HNodeMgmt.Lib

/-- A block of memory; `none` is a cell nobody has written. -/
abbrev Block (α : Type) := List (Option α)

namespace Block

variable {α : Type}

/-- `malloc( size )`. -/
def fresh (size : Nat) : Block α := List.replicate size none

/-- Write at an offset. -/
def write (block : Block α) (offset : Nat) (bs : List α) : Option (Block α) :=
  if offset + bs.length ≤ block.length then
    some (block.take offset ++ bs.map some ++ block.drop (offset + bs.length))
  else none

/-- The contents of cells that have all been written. -/
def contents : Block α → Option (List α)
  | [] => some []
  | none :: _ => none
  | some c :: cells => (contents cells).map (c :: ·)

/-- Read the first cells. -/
def read (block : Block α) (count : Nat) : Option (List α) :=
  if count ≤ block.length then contents (block.take count) else none

/-- A block of which a front part has been written. -/
def filled (size : Nat) (got : List α) : Block α :=
  got.map some ++ List.replicate (size - got.length) none

theorem length_filled {size : Nat} {got : List α} (h : got.length ≤ size) :
    (filled size got).length = size := by
  rw [filled, List.length_append, List.length_map, List.length_replicate]
  omega

/-- **A write behind the front part** lies inside and makes it longer. -/
theorem write_filled {size : Nat} {got bs : List α} (h : got.length + bs.length ≤ size) :
    (filled size got).write got.length bs = some (filled size (got ++ bs)) := by
  have hinside : got.length + bs.length ≤ (filled size got).length := by
    rw [length_filled (by omega)]
    exact h
  have htake : (filled size got).take got.length = got.map some := by
    rw [filled, List.take_left' (List.length_map some)]
  have hdrop : (filled size got).drop (got.length + bs.length) =
      List.replicate (size - (got ++ bs).length) none := by
    rw [filled, ← List.drop_drop, List.drop_left' (List.length_map some), List.drop_replicate,
      List.length_append, Nat.sub_sub]
  rw [write, if_pos hinside, htake, hdrop, filled, List.map_append]

theorem contents_map (got : List α) : contents (got.map some) = some got := by
  induction got with
  | nil => rfl
  | cons c got ih =>
    rw [List.map_cons, contents, ih]
    rfl

/-- **A full block** is read back. -/
theorem read_filled (got : List α) : (filled got.length got).read got.length = some got := by
  have hlength := length_filled (Nat.le_refl got.length)
  have htake : (filled got.length got).take got.length = got.map some := by
    rw [filled, List.take_left' (List.length_map some)]
  rw [read, if_pos (Nat.le_of_eq hlength.symm), htake, contents_map]

end Block

end HNodeMgmt.Lib
