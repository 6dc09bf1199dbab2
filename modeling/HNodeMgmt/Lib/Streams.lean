/-
  HNodeMgmt.Lib.Streams — the byte streams of C++.

  An input stream has the bytes its device will still deliver and the three
  bits of its state.  A read of a stream that is not good fails at once; one
  that comes to the end of the bytes sets the end and the failure bit; one
  whose device raises an error takes nothing and leaves the stream bad, or
  failed, without its end.  No bit is ever taken back.

  The device of an output stream may take only some bytes more.  A write that is
  not taken whole leaves the stream bad, and then nothing more is written.

  Main results:
    * `read_full`, `read_short`, `read_fault`, `read_not_good` — the four ways
      a read goes.
    * `write_append` — writes one after the other are one write.
    * `write_written_iff` — the bytes of a write all arrive EXACTLY when the
      stream takes so many.
-/
import Mathlib.Tactic.Common

namespace HNodeMgmt.Lib

/-- An error of the device in a read: the stream is left bad, or failed. -/
inductive ReadFault where
  | bad
  | failed
  deriving DecidableEq, Repr

/-- `std::istream`.  `faults i` is the error of the i-th read from now on, of
those that get to the device. -/
structure IStream where
  content : List UInt8
  faults : Nat → Option ReadFault
  eof : Bool
  fail : Bool
  bad : Bool

/-- `std::ostream`: what its device has taken of what was written, and what of that
has been pushed on.  `room` is how many bytes the device takes from now on; `none`
is a device that takes them all. -/
structure OStream where
  written : List UInt8
  flushed : List UInt8
  room : Option Nat
  bad : Bool
  deriving DecidableEq, Repr

namespace IStream

/-- `good()`. -/
def good (is : IStream) : Bool := !is.eof && !is.fail && !is.bad

/-- A stream of these bytes, with no errors to come. -/
def ofBytes (content : List UInt8) : IStream :=
  { content, faults := fun _ => none, eof := false, fail := false, bad := false }

/-- `read( buff, count )`: the bytes, `gcount()` many, and the stream after it. -/
def read (is : IStream) (count : Nat) : List UInt8 × IStream :=
  if is.good then
    match is.faults 0 with
    | some .bad => ([], { is with bad := true, faults := fun i => is.faults (i + 1) })
    | some .failed => ([], { is with fail := true, faults := fun i => is.faults (i + 1) })
    | none =>
      (is.content.take count,
        { is with
          content := is.content.drop count
          faults := fun i => is.faults (i + 1)
          eof := is.content.length < count
          fail := is.content.length < count })
  else ([], { is with fail := true })

variable {is : IStream} {count : Nat}

theorem good_iff : is.good = true ↔ is.eof = false ∧ is.fail = false ∧ is.bad = false := by
  unfold good
  cases is.eof <;> cases is.fail <;> cases is.bad <;> decide

/-- All the bytes that are asked for are there. -/
theorem read_full (hgood : is.good = true) (hfault : is.faults 0 = none)
    (hcount : count ≤ is.content.length) :
    is.read count = (is.content.take count,
      { is with content := is.content.drop count, faults := fun i => is.faults (i + 1) }) := by
  obtain ⟨heof, hfail, -⟩ := good_iff.mp hgood
  have hless : decide (is.content.length < count) = false := decide_eq_false (by omega)
  unfold read
  rw [if_pos hgood, hfault]
  simp only [hless, heof, hfail]

/-- The end comes first. -/
theorem read_short (hgood : is.good = true) (hfault : is.faults 0 = none)
    (hcount : is.content.length < count) :
    is.read count = (is.content,
      { is with
        content := [], faults := fun i => is.faults (i + 1), eof := true, fail := true }) := by
  have hless : decide (is.content.length < count) = true := decide_eq_true hcount
  unfold read
  rw [if_pos hgood, hfault]
  simp only [hless, List.take_of_length_le (Nat.le_of_lt hcount),
    List.drop_of_length_le (Nat.le_of_lt hcount)]

/-- The device raises an error. -/
theorem read_fault (count : Nat) {fault : ReadFault} (hgood : is.good = true)
    (hfault : is.faults 0 = some fault) :
    ∃ is', is.read count = ([], is') ∧ is'.content = is.content ∧ is'.eof = false ∧
      is'.good = false := by
  obtain ⟨heof, -, -⟩ := good_iff.mp hgood
  unfold read
  rw [if_pos hgood, hfault]
  cases fault with
  | bad => exact ⟨_, rfl, rfl, heof, by simp [good]⟩
  | failed => exact ⟨_, rfl, rfl, heof, by simp [good]⟩

/-- Nothing is read of a stream that is not good. -/
theorem read_not_good (h : is.good = false) : is.read count = ([], { is with fail := true }) := by
  unfold read
  rw [if_neg (by rw [h]; decide)]

/-- A read gives no more than is asked for. -/
theorem read_length_le (is : IStream) (count : Nat) : (is.read count).1.length ≤ count := by
  unfold read
  split
  next =>
    split
    next => exact Nat.zero_le _
    next => exact Nat.zero_le _
    next => exact List.length_take_le count is.content
  next => exact Nat.zero_le _

end IStream

namespace OStream

/-- A new stream, of a device that takes every byte. -/
def fresh : OStream := { written := [], flushed := [], room := none, bad := false }

/-- `write( buff, count )`. -/
def write (os : OStream) (bytes : List UInt8) : OStream :=
  if os.bad then os
  else
    match os.room with
    | none => { os with written := os.written ++ bytes }
    | some room =>
      { os with
        written := os.written ++ bytes.take room
        room := some (room - bytes.length)
        bad := decide (room < bytes.length) }

/-- `flush()`. -/
def flush (os : OStream) : OStream := if os.bad then os else { os with flushed := os.written }

/-- The stream takes this many bytes more. -/
def Takes (os : OStream) (n : Nat) : Prop :=
  n = 0 ∨ os.bad = false ∧ ∀ room, os.room = some room → n ≤ room

/-- The stream takes every byte that is written to it. -/
structure TakesAll (os : OStream) : Prop where
  good : os.bad = false
  endless : os.room = none

variable {os : OStream} {bytes : List UInt8}

/-- A bad stream stays as it is. -/
theorem write_bad (h : os.bad = true) : os.write bytes = os := by
  rw [write, if_pos h]

/-- A stream of a device that takes everything. -/
theorem write_endless (hgood : os.bad = false) (hroom : os.room = none) :
    os.write bytes = { os with written := os.written ++ bytes } := by
  rw [write, if_neg (by rw [hgood]; decide), hroom]

/-- A stream of a device that takes some bytes. -/
theorem write_room {room : Nat} (hgood : os.bad = false) (hroom : os.room = some room) :
    os.write bytes =
      { os with
        written := os.written ++ bytes.take room
        room := some (room - bytes.length)
        bad := decide (room < bytes.length) } := by
  rw [write, if_neg (by rw [hgood]; decide), hroom]

/-- **Writes one after the other are one write.** -/
theorem write_append (os : OStream) (bytes more : List UInt8) :
    (os.write bytes).write more = os.write (bytes ++ more) := by
  cases hbad : os.bad with
  | true => rw [write_bad hbad, write_bad hbad, write_bad hbad]
  | false =>
    cases hroom : os.room with
    | none =>
      have hnext : ({ os with written := os.written ++ bytes } : OStream).write more =
          { os with written := os.written ++ bytes ++ more } := write_endless hbad hroom
      rw [write_endless hbad hroom, hnext, write_endless hbad hroom, List.append_assoc]
    | some room =>
      rw [write_room hbad hroom, write_room hbad hroom]
      by_cases hfull : room < bytes.length
      · -- the second write finds the stream bad
        rw [write_bad (decide_eq_true hfull), List.take_append_of_le_length (Nat.le_of_lt hfull)]
        simp only [List.length_append]
        rw [decide_eq_true hfull, decide_eq_true (by omega : room < bytes.length + more.length),
          show room - (bytes.length + more.length) = room - bytes.length by omega]
      · rw [write_room (decide_eq_false hfull) rfl]
        simp only [List.length_append, List.append_assoc, List.take_append,
          List.take_of_length_le (Nat.le_of_not_lt hfull), Nat.sub_sub]
        congr 1
        exact decide_eq_decide.mpr (by omega)

/-- Nothing is written. -/
theorem write_nil (os : OStream) : os.write [] = os := by
  cases hbad : os.bad with
  | true => exact write_bad hbad
  | false =>
    cases hroom : os.room with
    | none => rw [write_endless hbad hroom, List.append_nil]
    | some room =>
      rw [write_room hbad hroom]
      simp [← hbad, ← hroom]

/-- **The bytes of a write all arrive** exactly when the stream takes so many. -/
theorem write_written_iff :
    (os.write bytes).written = os.written ++ bytes ↔ os.Takes bytes.length := by
  cases hbad : os.bad with
  | true =>
    rw [write_bad hbad, Takes, hbad]
    simp
  | false =>
    cases hroom : os.room with
    | none =>
      rw [write_endless hbad hroom, Takes, hbad, hroom]
      simp
    | some room =>
      rw [write_room hbad hroom, Takes, hbad, hroom]
      constructor
      · intro h
        refine .inr ⟨rfl, fun r hr => ?_⟩
        obtain rfl := Option.some.inj hr
        have hlength := congrArg List.length (List.append_cancel_left h)
        rw [List.length_take] at hlength
        omega
      · rintro (hnone | ⟨-, hfits⟩)
        · rw [List.length_eq_zero_iff.mp hnone, List.take_nil]
        · rw [List.take_of_length_le (hfits room rfl)]

/-- A flush changes nothing of what was written. -/
@[simp] theorem flush_written (os : OStream) : os.flush.written = os.written := by
  unfold flush
  split <;> rfl

/-- What is written to a good stream is pushed on. -/
theorem flush_flushed (h : os.bad = false) : os.flush.flushed = os.written := by
  rw [flush, if_neg (by rw [h]; decide)]

namespace TakesAll

theorem fresh : TakesAll fresh := ⟨rfl, rfl⟩

variable (h : os.TakesAll)

include h

/-- So many bytes too. -/
theorem takes (n : Nat) : os.Takes n :=
  .inr ⟨h.good, fun room hroom => by cases h.endless.symm.trans hroom⟩

/-- What is written arrives. -/
theorem written (bytes : List UInt8) : (os.write bytes).written = os.written ++ bytes :=
  write_written_iff.mpr (h.takes _)

/-- It takes every byte that is written after it. -/
theorem write (bytes : List UInt8) : (os.write bytes).TakesAll := by
  rw [write_endless h.good h.endless]
  exact ⟨h.good, h.endless⟩

theorem flush : os.flush.TakesAll := by
  rw [OStream.flush, if_neg (by rw [h.good]; decide)]
  exact ⟨h.good, h.endless⟩

end TakesAll

end OStream

end HNodeMgmt.Lib
