import Mathlib.Data.List.Basic

/-! Arrays in memory and the slices that refer to them. Several slices may show parts of
one array, so a write through one is seen through the others; an array made later shares
nothing with those before it. Slicing out of range is `none`. -/
namespace HmsClient

/-- A slice header: an array, where the slice starts in it, and its length. -/
structure SliceRef where
  addr : Nat
  off : Nat
  len : Nat
  deriving DecidableEq, Repr

/-- `s[lo:hi]`, within the length of `s`. -/
def SliceRef.sub (s : SliceRef) (lo hi : Nat) : Option SliceRef :=
  if lo ≤ hi ∧ hi ≤ s.len then some ⟨s.addr, s.off + lo, hi - lo⟩ else none

theorem SliceRef.sub_eq {s : SliceRef} {lo hi : Nat} (order : lo ≤ hi) (inside : hi ≤ s.len) :
    s.sub lo hi = some ⟨s.addr, s.off + lo, hi - lo⟩ :=
  if_pos ⟨order, inside⟩

/-- The arrays made so far, by address. -/
abbrev SliceMemory (α : Type) := List (List α)

namespace SliceMemory
variable {α : Type}

def array (memory : SliceMemory α) (addr : Nat) : List α := memory.getD addr []

/-- What a slice shows. -/
def read (memory : SliceMemory α) (s : SliceRef) : List α :=
  ((memory.array s.addr).drop s.off).take s.len

/-- The slice lies inside an array of the memory. -/
structure Holds (memory : SliceMemory α) (s : SliceRef) : Prop where
  made : s.addr < memory.length
  inside : s.off + s.len ≤ (memory.array s.addr).length

/-- `xs` with `ys` written over it from `off` on. -/
def overwrite (xs : List α) (off : Nat) (ys : List α) : List α :=
  xs.take off ++ ys ++ xs.drop (off + ys.length)

/-- Writes `ys` into the array under `s`, from the slice's start on. -/
def write (memory : SliceMemory α) (s : SliceRef) (ys : List α) : SliceMemory α :=
  memory.set s.addr (overwrite (memory.array s.addr) s.off ys)

/-- `make([]T, n)`, where `zero` is the zero value. -/
def make (memory : SliceMemory α) (zero : α) (n : Nat) : SliceRef × SliceMemory α :=
  (⟨memory.length, 0, n⟩, memory ++ [List.replicate n zero])

/-- `copy(dst, src)`: the shorter slice decides how much is copied. -/
def copy (memory : SliceMemory α) (dst src : SliceRef) : SliceMemory α :=
  memory.write dst ((memory.read src).take dst.len)

theorem length_read {memory : SliceMemory α} {s : SliceRef} (held : memory.Holds s) :
    (memory.read s).length = s.len := by
  have inside := held.inside
  simp only [read, List.length_take, List.length_drop]
  omega

/-- A part of a slice shows that part of what the slice shows. -/
theorem read_part (memory : SliceMemory α) (s : SliceRef) (lo n : Nat)
    (inside : lo + n ≤ s.len) :
    memory.read ⟨s.addr, s.off + lo, n⟩ = ((memory.read s).drop lo).take n := by
  simp only [read, List.drop_take, List.take_take, List.drop_drop]
  congr 1
  omega

section Newest
variable (memory : SliceMemory α) (xs : List α)

/-- A later array is not seen through an earlier slice. -/
theorem read_earlier {s : SliceRef} (made : s.addr < memory.length) :
    read (memory ++ [xs]) s = memory.read s := by
  simp [read, array, List.getElem?_append_left made]

theorem write_newest (off len : Nat) (ys : List α) :
    write (memory ++ [xs]) ⟨memory.length, off, len⟩ ys = memory ++ [overwrite xs off ys] := by
  simp [write, array]

theorem copy_newest (off len : Nat) {src : SliceRef} (made : src.addr < memory.length) :
    copy (memory ++ [xs]) ⟨memory.length, off, len⟩ src =
      memory ++ [overwrite xs off ((memory.read src).take len)] := by
  rw [copy, read_earlier memory xs made, write_newest]

theorem read_newest : read (memory ++ [xs]) ⟨memory.length, 0, xs.length⟩ = xs := by
  simp [read, array]

end Newest

theorem overwrite_middle (before old new after : List α) (same : old.length = new.length) :
    overwrite (before ++ (old ++ after)) before.length new = before ++ (new ++ after) := by
  simp [overwrite, ← same]

end SliceMemory

end HmsClient
