import Mathlib.Data.List.Basic

/-! A log that only grows, and a reader that keeps its place in it. Each time the reader takes
the next entries of interest, or the first few of them, and goes on behind the last one that it
took. What it has taken is what is of interest up to its place, in order and once. -/
namespace HmsClient.LogCursor

variable {α : Type} {p : α → Bool}

/-- The first `n` entries, or all of them. -/
def cut (n : Option Nat) (entries : List α) : List α :=
  match n with
  | none => entries
  | some n => entries.take n

/-- What a reader takes that has come as far as `k`. -/
def next (p : α → Bool) (n : Option Nat) (k : Nat) (log : List α) : List α :=
  cut n ((log.drop k).filter p)

/-- A reader that began behind the first `start` entries and has come as far as `k` has taken
these. -/
structure Reads (p : α → Bool) (log : List α) (start k : Nat) (taken : List α) : Prop where
  begun : start ≤ k
  within : k ≤ log.length
  taken : taken = ((log.take k).drop start).filter p

theorem reads_start {log : List α} {start : Nat} (within : start ≤ log.length) :
    Reads p log start start [] := by
  refine ⟨Nat.le_refl _, within, ?_⟩
  rw [List.drop_eq_nil_of_le (List.length_take_le _ _), List.filter_nil]

variable {log : List α} {start k : Nat} {taken : List α}

theorem Reads.grow (reads : Reads p log start k taken) (more : List α) :
    Reads p (log ++ more) start k taken := by
  refine ⟨reads.begun, ?_, ?_⟩
  · rw [List.length_append]
    exact Nat.le_add_right_of_le reads.within
  · rw [List.take_append_of_le_length reads.within]
    exact reads.taken

/-- Where the last of the first entries of interest is. -/
private theorem filter_take_of_cut (entries : List α) {n : Nat} (positive : 0 < n)
    (some : entries.filter p ≠ []) :
    ∃ j, j < entries.length ∧ entries[j]? = ((entries.filter p).take n).getLast? ∧
      (entries.take (j + 1)).filter p = (entries.filter p).take n := by
  induction entries generalizing n with
  | nil => exact absurd rfl some
  | cons e rest ih =>
    cases picked : p e with
    | false =>
      rw [List.filter_cons_of_neg (by rw [picked]; decide)] at some ⊢
      obtain ⟨j, inside, last, same⟩ := ih positive some
      refine ⟨j + 1, Nat.succ_lt_succ inside, last, ?_⟩
      rw [List.take_succ_cons, List.filter_cons_of_neg (by rw [picked]; decide)]
      exact same
    | true =>
      rw [List.filter_cons_of_pos picked]
      obtain ⟨m, rfl⟩ := Nat.exists_eq_succ_of_ne_zero (Nat.pos_iff_ne_zero.mp positive)
      rw [Nat.succ_eq_add_one, List.take_succ_cons]
      by_cases done : m = 0 ∨ rest.filter p = []
      · have nothing : (rest.filter p).take m = [] := by
          rcases done with rfl | nothing
          · exact List.take_zero
          · rw [nothing, List.take_nil]
        refine ⟨0, Nat.zero_lt_succ _, ?_, ?_⟩
        · rw [nothing]
          rfl
        · rw [nothing, List.take_succ_cons, List.take_zero, List.filter_cons_of_pos picked]
          rfl
      · obtain ⟨more, others⟩ := not_or.mp done
        obtain ⟨j, inside, last, same⟩ := ih (Nat.pos_of_ne_zero more) others
        refine ⟨j + 1, Nat.succ_lt_succ inside, ?_, ?_⟩
        · rw [List.getElem?_eq_getElem inside] at last
          rw [List.getElem?_cons_succ, List.getElem?_eq_getElem inside, List.getLast?_cons, ← last]
          rfl
        · rw [List.take_succ_cons, List.filter_cons_of_pos picked, same]

/-- A limit that lets something through. -/
def Lets (n : Option Nat) : Prop := ∀ m ∈ n, 0 < m

private theorem cut_eq_take {n : Option Nat} (lets : Lets n) (entries : List α) :
    ∃ m, 0 < m ∧ cut n entries = entries.take m := by
  cases n with
  | none =>
    refine ⟨entries.length + 1, Nat.zero_lt_succ _, ?_⟩
    rw [List.take_of_length_le (Nat.le_succ _)]
    rfl
  | some m => exact ⟨m, lets m rfl, rfl⟩

/-- What lies between two places. -/
private theorem filter_between (reads : Reads p log start k taken) {j : Nat} :
    ((log.take (k + j)).drop start).filter p = taken ++ ((log.drop k).take j).filter p := by
  rw [reads.taken, ← List.filter_append, List.take_add, List.drop_append_of_le_length]
  rw [List.length_take]
  exact Nat.le_min.mpr ⟨reads.begun, Nat.le_trans reads.begun reads.within⟩

/-- The reader goes on behind the last entry that it took. -/
theorem Reads.advance (reads : Reads p log start k taken) {n : Option Nat} (lets : Lets n)
    (some : next p n k log ≠ []) :
    ∃ j, log[j]? = (next p n k log).getLast? ∧
      Reads p log start (j + 1) (taken ++ next p n k log) := by
  obtain ⟨m, positive, same⟩ := cut_eq_take lets ((log.drop k).filter p)
  rw [next, same] at some ⊢
  have others : (log.drop k).filter p ≠ [] := by
    intro nothing
    rw [nothing, List.take_nil] at some
    exact some rfl
  obtain ⟨j, inside, last, upTo⟩ := filter_take_of_cut _ positive others
  rw [List.length_drop] at inside
  have begun := reads.begun
  refine ⟨k + j, ?_, by omega, by omega, ?_⟩
  · rw [← last, List.getElem?_drop]
  · rw [Nat.add_assoc, filter_between reads, upTo]

/-- A reader that takes nothing, though it may, has taken all. -/
theorem Reads.caught_up (reads : Reads p log start k taken) {n : Option Nat} (lets : Lets n)
    (nothing : next p n k log = []) : taken = (log.drop start).filter p := by
  obtain ⟨m, positive, same⟩ := cut_eq_take lets ((log.drop k).filter p)
  rw [next, same, List.take_eq_nil_iff] at nothing
  have left : (log.drop k).filter p = [] := nothing.resolve_left (by omega)
  have all := filter_between reads (j := log.length)
  rw [List.take_of_length_le (by omega), List.take_of_length_le (by simp), left,
    List.append_nil] at all
  exact all.symm

/-- A reader without a limit takes all that is left. -/
theorem Reads.take_all (reads : Reads p log start k taken) :
    taken ++ next p none k log = (log.drop start).filter p := by
  have all := filter_between reads (j := log.length)
  rw [List.take_of_length_le (by omega), List.take_of_length_le (by simp)] at all
  exact all.symm

end HmsClient.LogCursor
