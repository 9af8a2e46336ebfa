import Mathlib.Data.Nat.ModEq

/-! Scanning a ring of positions for the first one that a test admits. A ring
of `size` positions is walked forward from `start`, beginning `first` steps
after it and visiting every position once. -/
namespace HmsClient.RingScan

/-- The first admitted position met `first`, `first + 1`, ... steps after
`start`; nothing when a whole turn meets none. -/
def scan (admits : Nat → Bool) (size start first : Nat) : Option Nat :=
  ((List.range' first size).map fun step => (start + step) % size).find? admits

/-- How many forward steps lead from `source` to `target`. -/
def distance (size source target : Nat) : Nat := (target + (size - source % size)) % size

theorem distance_lt (source target : Nat) (positive : 0 < size) :
    distance size source target < size :=
  Nat.mod_lt _ positive

theorem distance_reaches (source : Nat) (bound : target < size) :
    (source + distance size source target) % size = target := by
  have below : source % size < size := Nat.mod_lt _ (by omega)
  have total : source % size + (target + (size - source % size)) = target + size := by omega
  calc (source + distance size source target) % size
      = (source % size + (target + (size - source % size))) % size := by
        simp only [distance, Nat.add_mod_mod, Nat.mod_add_mod]
    _ = target := by rw [total, Nat.add_mod_right, Nat.mod_eq_of_lt bound]

/-- Within one turn a position is reached by one number of steps only. -/
theorem steps_unique (first : Nat) (low : first ≤ i) (high : i < first + size)
    (low' : first ≤ j) (high' : j < first + size)
    (same : (start + i) % size = (start + j) % size) : i = j := by
  have cong : i ≡ j [MOD size] := Nat.ModEq.add_left_cancel' start same
  have shifted : i - first ≡ j - first [MOD size] := by
    apply Nat.ModEq.add_right_cancel' first
    rwa [Nat.sub_add_cancel low, Nat.sub_add_cancel low']
  have equal := Nat.ModEq.eq_of_lt_of_lt shifted (by omega) (by omega)
  omega

theorem scan_eq_some_iff :
    scan admits size start first = some position ↔
      ∃ step, first ≤ step ∧ step < first + size ∧ position = (start + step) % size ∧
        admits position = true ∧
        ∀ earlier, first ≤ earlier → earlier < step →
          admits ((start + earlier) % size) = false := by
  simp only [scan, List.find?_map, Option.map_eq_some_iff, List.find?_range'_eq_some,
    Function.comp_apply, List.mem_range'_1, Bool.not_eq_true']
  constructor
  · rintro ⟨step, ⟨admitted, ⟨low, high⟩, before⟩, rfl⟩
    exact ⟨step, low, high, rfl, admitted, before⟩
  · rintro ⟨step, low, high, rfl, admitted, before⟩
    exact ⟨step, ⟨admitted, ⟨low, high⟩, before⟩, rfl⟩

theorem scan_admits (found : scan admits size start first = some position) :
    admits position = true := by
  obtain ⟨_, _, _, _, admitted, _⟩ := scan_eq_some_iff.mp found
  exact admitted

theorem scan_lt (positive : 0 < size) (found : scan admits size start first = some position) :
    position < size := by
  obtain ⟨_, _, _, rfl, _, _⟩ := scan_eq_some_iff.mp found
  exact Nat.mod_lt _ positive

/-- A scan fails only when no position of the ring is admitted, wherever it
starts. -/
theorem scan_eq_none_iff (positive : 0 < size) :
    scan admits size start first = none ↔ ∀ position < size, admits position = false := by
  simp only [scan, List.find?_eq_none, List.mem_map, List.mem_range'_1, Bool.not_eq_true]
  constructor
  · intro none position bound
    apply none
    refine ⟨first + distance size (start + first) position, ⟨by omega, ?_⟩, ?_⟩
    · have short := distance_lt (start + first) position positive
      omega
    · rw [← Nat.add_assoc, distance_reaches _ bound]
  · rintro none _ ⟨step, _, rfl⟩
    exact none _ (Nat.mod_lt _ positive)

/-- A scan that starts on an admitted position stays there. -/
theorem scan_stays (bound : start < size) (admitted : admits start = true) :
    scan admits size start 0 = some start :=
  scan_eq_some_iff.mpr ⟨0, by omega, by omega, by simp [Nat.mod_eq_of_lt bound], admitted,
    by omega⟩

/-- A scan begun just after `start` stops at an admitted position exactly when
every position strictly between the two is refused. -/
theorem scan_finds_iff (inside : target < size) (startInside : start < size)
    (apart : target ≠ start) (admitted : admits target = true) :
    scan admits size start 1 = some target ↔
      ∀ step, 1 ≤ step → step < distance size start target →
        admits ((start + step) % size) = false := by
  have reaches := distance_reaches start inside
  have short := distance_lt start target (by omega : 0 < size)
  have positive : 1 ≤ distance size start target := by
    rcases Nat.eq_zero_or_pos (distance size start target) with zero | positive
    · rw [zero, Nat.add_zero, Nat.mod_eq_of_lt startInside] at reaches
      exact absurd reaches.symm apart
    · exact positive
  rw [scan_eq_some_iff]
  constructor
  · rintro ⟨step, low, high, here, _, before⟩
    have equal : step = distance size start target :=
      steps_unique 1 low high positive (by omega) (by rw [← here, reaches])
    exact equal ▸ before
  · intro before
    exact ⟨_, positive, by omega, reaches.symm, admitted, before⟩

end HmsClient.RingScan
