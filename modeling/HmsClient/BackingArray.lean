import Mathlib.Data.List.Basic
import Mathlib.Data.Nat.Find

/-! A slice over an array that others may hold too. Cutting an element out moves the rest
of the slice down in the array itself; whoever holds a longer slice of that array sees the
elements moved and its own length unchanged. -/
namespace HmsClient

/-- An array, and how much of it a slice shows. -/
structure BackingArray (α : Type) where
  array : List α
  len : Nat
  fits : len ≤ array.length

namespace BackingArray
variable {α : Type}

/-- The slice of a whole array. -/
def whole (xs : List α) : BackingArray α := ⟨xs, xs.length, Nat.le_refl _⟩

/-- What the slice shows. -/
def view (s : BackingArray α) : List α := s.array.take s.len

theorem length_view (s : BackingArray α) : s.view.length = s.len := by
  simp [view, s.fits]

/-- `append(s[:idx], s[idx+1:]...)`. The array has room for the result, so it is written
there. -/
def removeAt (s : BackingArray α) (idx : Nat) (inside : idx < s.len) : BackingArray α where
  array := s.view.eraseIdx idx ++ s.array.drop (s.len - 1)
  len := s.len - 1
  fits := by
    have room := s.fits
    simp [List.length_eraseIdx, length_view, inside]

@[simp] theorem view_whole (xs : List α) : (whole xs).view = xs := List.take_length

@[simp] theorem view_removeAt (s : BackingArray α) (idx : Nat) (inside : idx < s.len) :
    (s.removeAt idx inside).view = s.view.eraseIdx idx := by
  have shorter : (s.view.eraseIdx idx).length = s.len - 1 := by
    rw [List.length_eraseIdx_of_lt (by rwa [length_view]), length_view]
  rw [view, removeAt]
  exact List.take_left' shorter

@[simp] theorem length_array_removeAt (s : BackingArray α) (idx : Nat) (inside : idx < s.len) :
    (s.removeAt idx inside).array.length = s.array.length := by
  have room := s.fits
  simp [removeAt, List.length_eraseIdx, length_view, inside]
  omega

/-- Nothing gets into the array that was not there. -/
theorem mem_array_removeAt {s : BackingArray α} {idx : Nat} {inside : idx < s.len} {x : α}
    (inArray : x ∈ (s.removeAt idx inside).array) : x ∈ s.array := by
  rcases List.mem_append.mp inArray with moved | kept
  · exact List.mem_of_mem_take (List.mem_of_mem_eraseIdx moved)
  · exact List.mem_of_mem_drop kept

/-! ## What a cut does to the array -/

theorem getElem?_removeAt (s : BackingArray α) (idx : Nat) (inside : idx < s.len) (j : Nat) :
    (s.removeAt idx inside).array[j]? =
      if idx ≤ j ∧ j + 1 < s.len then s.array[j + 1]? else s.array[j]? := by
  have room := s.fits
  have shorter : (s.view.eraseIdx idx).length = s.len - 1 := by
    rw [List.length_eraseIdx_of_lt (by rwa [length_view]), length_view]
  by_cases before : j < s.len - 1
  · rw [removeAt, List.getElem?_append_left (by rwa [shorter]), List.getElem?_eraseIdx, view]
    by_cases ahead : j < idx
    · rw [if_pos ahead, if_neg (by omega), List.getElem?_take_of_lt (by omega)]
    · rw [if_neg ahead, if_pos (by omega), List.getElem?_take_of_lt (by omega)]
  · rw [removeAt, List.getElem?_append_right (by omega), shorter, List.getElem?_drop,
      if_neg (by omega)]
    congr 1
    omega

/-- Nothing moves if cutting the element out is as good as cutting off the last. -/
theorem array_removeAt_eq_iff (s : BackingArray α) (idx : Nat) (inside : idx < s.len) :
    (s.removeAt idx inside).array = s.array ↔ s.view.eraseIdx idx = s.view.dropLast := by
  have room := s.fits
  have front : s.view.dropLast = s.array.take (s.len - 1) := by
    rw [view, List.dropLast_eq_take, List.take_take, List.length_take]
    congr 1
    omega
  rw [removeAt, front]
  conv => lhs; rhs; rw [← List.take_append_drop (s.len - 1) s.array]
  rw [List.append_left_inj]

/-- From `m` on, up to one past the slice, the array holds nothing but `c`. -/
structure Ends (s : BackingArray α) (m : Nat) (c : α) : Prop where
  here : s.array[m]? = some c
  after : ∀ j, m ≤ j → j ≤ s.len → s.array[j]? = some c

theorem Ends.removeAt {s : BackingArray α} {m : Nat} {c : α} (ends : s.Ends m c) {idx : Nat}
    (inside : idx < s.len) : (s.removeAt idx inside).Ends m c := by
  have moved : ∀ j, m ≤ j → j ≤ s.len → (s.removeAt idx inside).array[j]? = some c := by
    intro j behind upTo
    rw [getElem?_removeAt]
    split
    · exact ends.after _ (by omega) (by omega)
    · exact ends.after _ behind upTo
  refine ⟨?_, fun j behind upTo => moved j behind (by change _ ≤ s.len - 1 at upTo; omega)⟩
  by_cases inView : m ≤ s.len
  · exact moved m (Nat.le_refl m) inView
  · rw [getElem?_removeAt, if_neg (by omega)]
    exact ends.here

open Classical in
private theorem exists_last {p : Nat → Prop} {low top : Nat} (some : ∃ j, low ≤ j ∧ j < top ∧ p j) :
    ∃ m, low ≤ m ∧ m < top ∧ p m ∧ ∀ j, m < j → j < top → ¬ p j := by
  obtain ⟨j, fromLow, below, holds⟩ := some
  let q := fun j => low ≤ j ∧ p j
  have found : q (Nat.findGreatest q (top - 1)) :=
    Nat.findGreatest_spec (m := j) (by omega) ⟨fromLow, holds⟩
  have within := Nat.findGreatest_le (P := q) (top - 1)
  refine ⟨_, found.1, by omega, found.2, fun j behind below holds => ?_⟩
  have fromLow := found.1
  exact Nat.findGreatest_is_greatest behind (by omega) ⟨by omega, holds⟩

/-- A cut that moves anything leaves a place wrong that no later cut puts right. -/
theorem ends_of_moved {s : BackingArray α} {idx : Nat} (inside : idx < s.len)
    (moved : (s.removeAt idx inside).array ≠ s.array) :
    ∃ m c, (s.removeAt idx inside).Ends m c ∧ s.array[m]? ≠ some c := by
  have room := s.fits
  obtain ⟨c, last⟩ : ∃ c, s.array[s.len - 1]? = some c :=
    ⟨_, List.getElem?_eq_getElem (by omega)⟩
  have differs : ∃ j, idx ≤ j ∧ j < s.len ∧ s.array[j]? ≠ some c := by
    by_contra none
    have same : ∀ j, idx ≤ j → j < s.len → s.array[j]? = some c :=
      fun j behind inView => by_contra fun differs => none ⟨j, behind, inView, differs⟩
    refine moved (List.ext_getElem? fun j => ?_)
    rw [getElem?_removeAt]
    split
    · next shifted => rw [same j shifted.1 (by omega), same (j + 1) (by omega) shifted.2]
    · rfl
  -- The last place that differs from `c`: the cut moves a `c` there.
  obtain ⟨m, behind, inView, wrong, rest⟩ := exists_last differs
  have later : ∀ j, m < j → j < s.len → s.array[j]? = some c :=
    fun j further inView => not_not.mp (rest j further inView)
  have notLast : m ≠ s.len - 1 := fun atEnd => wrong (atEnd ▸ last)
  have moved : ∀ j, m ≤ j → j ≤ s.len - 1 → (s.removeAt idx inside).array[j]? = some c := by
    intro j further upTo
    rw [getElem?_removeAt]
    split
    · exact later _ (by omega) (by omega)
    · exact later _ (by omega) (by omega)
  exact ⟨m, c, ⟨moved m (Nat.le_refl m) (by omega), moved⟩, wrong⟩

end BackingArray

end HmsClient
