import Mathlib.Algebra.BigOperators.Group.List.Basic
import Mathlib.Algebra.GroupWithZero.Nat

/-! Threads that take atomic steps on a shared state, in any order and in any
number. A program says what one thread may do from its own position; a run is
a list of scheduling decisions. Safety of every run reduces to what one step
preserves, and counting over the threads reduces to the one thread that moved. -/
namespace HmsClient.Interleaving

/-! ## Counting over a list in which one entry changes -/

/-- The total of a measure over the entries of a list. -/
def tally (measure : α → Nat) (entries : List α) : Nat := (entries.map measure).sum

@[simp] theorem tally_nil (measure : α → Nat) : tally measure [] = 0 := rfl

@[simp] theorem tally_cons (measure : α → Nat) (entry : α) (rest : List α) :
    tally measure (entry :: rest) = measure entry + tally measure rest := by
  simp [tally]

@[simp] theorem tally_append (measure : α → Nat) (front back : List α) :
    tally measure (front ++ back) = tally measure front + tally measure back := by
  simp [tally]

variable {entries : List α} {measure : α → Nat}

/-- Replacing one entry exchanges its measure and leaves the others counted. -/
theorem tally_set {i : Nat} (measure : α → Nat) (found : entries[i]? = some entry) (new : α) :
    tally measure (entries.set i new) + measure entry = tally measure entries + measure new := by
  induction entries generalizing i with
  | nil => simp at found
  | cons first rest ih =>
    cases i with
    | zero =>
      simp only [List.getElem?_cons_zero, Option.some.injEq] at found
      subst found
      simp only [List.set_cons_zero, tally_cons]
      omega
    | succ i =>
      have tail := ih (by simpa using found)
      simp only [List.set_cons_succ, tally_cons]
      omega

theorem le_tally {i : Nat} (measure : α → Nat) (found : entries[i]? = some entry) :
    measure entry ≤ tally measure entries := by
  induction entries generalizing i with
  | nil => simp at found
  | cons first rest ih =>
    cases i with
    | zero =>
      simp only [List.getElem?_cons_zero, Option.some.injEq] at found
      subst found
      simp only [tally_cons]
      omega
    | succ i =>
      have tail := ih (by simpa using found)
      simp only [tally_cons]
      omega

theorem tally_congr {measure' : α → Nat} (equal : ∀ entry ∈ entries, measure entry = measure' entry) :
    tally measure entries = tally measure' entries := by
  rw [tally, tally, List.map_congr_left equal]

theorem tally_le_tally {measure' : α → Nat} (le : ∀ entry, measure entry ≤ measure' entry)
    (entries : List α) : tally measure entries ≤ tally measure' entries := by
  induction entries with
  | nil => exact Nat.le_refl 0
  | cons first rest ih =>
    rw [tally_cons, tally_cons]
    exact Nat.add_le_add (le first) ih

theorem tally_add (measure measure' : α → Nat) (entries : List α) :
    tally (fun entry => measure entry + measure' entry) entries =
      tally measure entries + tally measure' entries := by
  induction entries with
  | nil => rfl
  | cons first rest ih =>
    simp only [tally_cons, ih]
    omega

theorem tally_eq_zero_iff (measure : α → Nat) (entries : List α) :
    tally measure entries = 0 ↔ ∀ entry ∈ entries, measure entry = 0 := by
  induction entries with
  | nil => simp
  | cons first rest ih => rw [tally_cons, Nat.add_eq_zero_iff, ih, List.forall_mem_cons]

/-- A positive total comes from some entry. -/
theorem exists_of_tally_pos (positive : 0 < tally measure entries) :
    ∃ entry ∈ entries, 0 < measure entry := by
  by_contra absent
  have zero := (tally_eq_zero_iff measure entries).mpr fun entry member =>
    Nat.eq_zero_of_not_pos fun pos => absent ⟨entry, member, pos⟩
  omega

/-- Entries that count are one and the same if the total is at most one. -/
theorem eq_of_tally_le_one (single : tally measure entries ≤ 1) (inFirst : first ∈ entries)
    (firstCounts : 0 < measure first) (inSecond : second ∈ entries)
    (secondCounts : 0 < measure second) : first = second := by
  induction entries with
  | nil => cases inFirst
  | cons entry rest ih =>
    rw [tally_cons] at single
    have other : ∀ e ∈ rest, 0 < measure e → 0 < tally measure rest := by
      intro e inRest counts
      obtain ⟨i, found⟩ := List.mem_iff_getElem?.mp inRest
      exact Nat.lt_of_lt_of_le counts (le_tally measure found)
    rcases List.mem_cons.mp inFirst with rfl | firstRest
    · rcases List.mem_cons.mp inSecond with rfl | secondRest
      · rfl
      · have := other second secondRest secondCounts
        omega
    · have := other first firstRest firstCounts
      rcases List.mem_cons.mp inSecond with rfl | secondRest
      · omega
      · exact ih (by omega) firstRest secondRest

/-! ## Runs -/

/-- A shared state and the position of every thread. -/
structure World (Shared Thread : Type) where
  shared : Shared
  threads : List Thread

/-- A scheduling decision: a thread starts, or an existing one takes the step
its choice selects. -/
inductive Action (Choice : Type) where
  | spawn
  | move (thread : Nat) (choice : Choice)

section Runs
variable {Shared Thread Choice : Type}
variable (program : Shared → Thread → Choice → Option (Shared × Thread)) (fresh : Thread)

/-- The state after one decision, when that thread can take that step. -/
def next (world : World Shared Thread) : Action Choice → Option (World Shared Thread)
  | .spawn => some { world with threads := world.threads ++ [fresh] }
  | .move i choice =>
    match world.threads[i]? with
    | none => none
    | some thread =>
      match program world.shared thread choice with
      | none => none
      | some (shared, moved) => some ⟨shared, world.threads.set i moved⟩

/-- The state after a whole list of decisions. -/
def run (world : World Shared Thread) : List (Action Choice) → Option (World Shared Thread)
  | [] => some world
  | action :: rest =>
    match next program fresh world action with
    | none => none
    | some after => run after rest

/-- Every state along a run, its first one included, has a property. -/
def Always (property : World Shared Thread → Prop) (world : World Shared Thread) :
    List (Action Choice) → Prop
  | [] => property world
  | action :: rest => property world ∧
    match next program fresh world action with
    | none => True
    | some after => Always property after rest

/-- Every step along a run is taken in a state that allows it. -/
def EveryStep (allowed : World Shared Thread → Action Choice → Prop)
    (world : World Shared Thread) : List (Action Choice) → Prop
  | [] => True
  | action :: rest =>
    match next program fresh world action with
    | none => True
    | some after => allowed world action ∧ EveryStep allowed after rest

instance decidableEveryStep (allowed : World Shared Thread → Action Choice → Prop)
    [∀ world action, Decidable (allowed world action)]
    (world : World Shared Thread) (actions : List (Action Choice)) :
    Decidable (EveryStep program fresh allowed world actions) :=
  match actions with
  | [] => isTrue trivial
  | action :: rest =>
    match moved : next program fresh world action with
    | none => isTrue (by simp [EveryStep, moved])
    | some after =>
      have := decidableEveryStep allowed after rest
      decidable_of_iff (allowed world action ∧ EveryStep program fresh allowed after rest)
        (by simp [EveryStep, moved])

/-- Decisions of one kind lead from one state to another. -/
def Reaches (allowed : Action Choice → Prop) (world after : World Shared Thread) : Prop :=
  ∃ actions, (∀ action ∈ actions, allowed action) ∧ run program fresh world actions = some after

variable {program fresh}

variable {world after : World Shared Thread} {property : World Shared Thread → Prop}

/-- What one decision can change: a new thread at the fresh position, or one
thread and the shared state as its program says. -/
theorem next_cases (moved : next program fresh world action = some after) :
    (action = .spawn ∧ after = { world with threads := world.threads ++ [fresh] }) ∨
    ∃ i choice thread thread', action = .move i choice ∧ world.threads[i]? = some thread ∧
      program world.shared thread choice = some (after.shared, thread') ∧
      after.threads = world.threads.set i thread' := by
  cases action with
  | spawn => exact Or.inl ⟨rfl, by simpa [next] using moved.symm⟩
  | move i choice =>
    right
    simp only [next] at moved
    split at moved
    · cases moved
    · next thread found =>
      split at moved
      · cases moved
      · next shared thread' stepped =>
        cases Option.some.inj moved
        exact ⟨i, choice, thread, thread', rfl, found, stepped, rfl⟩

theorem tally_moved (measure : Thread → Nat) (found : world.threads[i]? = some thread)
    (set : after.threads = world.threads.set i thread') :
    tally measure after.threads + measure thread =
      tally measure world.threads + measure thread' := by
  rw [set]
  exact tally_set measure found thread'

/-- A property that every step preserves holds in every state of every run. -/
theorem run_preserves
    (preserved : ∀ world action after, property world →
      next program fresh world action = some after → property after) (holds : property world)
    (ran : run program fresh world actions = some after) : property after := by
  induction actions generalizing world with
  | nil =>
    cases Option.some.inj ran
    exact holds
  | cons action rest ih =>
    simp only [run] at ran
    split at ran
    · cases ran
    · next middle moved =>
      exact ih (preserved world action middle holds moved) ran

/-- What holds of every thread holds after a step, if the step keeps it for the others and
its own thread has it then. -/
theorem all_threads_next {property : Shared → Thread → Prop}
    (all : ∀ thread ∈ world.threads, property world.shared thread)
    (born : property world.shared fresh)
    (kept : ∀ thread choice thread', thread ∈ world.threads →
      program world.shared thread choice = some (after.shared, thread') →
      property after.shared thread' ∧
        ∀ other ∈ world.threads, property world.shared other → property after.shared other)
    (moved : next program fresh world action = some after) :
    ∀ thread ∈ after.threads, property after.shared thread := by
  rcases next_cases moved with ⟨-, rfl⟩ | ⟨i, choice, thread, thread', -, found, stepped, set⟩
  · intro other inThreads
    rcases List.mem_append.mp inThreads with old | new
    · exact all other old
    · rw [List.mem_singleton.mp new]
      exact born
  · obtain ⟨own, others⟩ := kept thread choice thread' (List.mem_of_getElem? found) stepped
    intro other inThreads
    rw [set] at inThreads
    rcases List.mem_or_eq_of_mem_set inThreads with old | rfl
    · exact others other old (all other old)
    · exact own

/-- Decisions taken one list after the other. -/
theorem run_append {middle : World Shared Thread} {actions more : List (Action Choice)}
    (ran : run program fresh world actions = some middle)
    (ranOn : run program fresh middle more = some after) :
    run program fresh world (actions ++ more) = some after := by
  induction actions generalizing world with
  | nil =>
    cases Option.some.inj ran
    exact ranOn
  | cons action rest ih =>
    simp only [List.cons_append, run] at ran ⊢
    split at ran
    · cases ran
    · exact ih ran

/-- When each step keeps a property exactly if it is allowed, a whole run keeps
it exactly if all of its steps are allowed. -/
theorem always_iff_every_step {invariant : World Shared Thread → Prop}
    {allowed : World Shared Thread → Action Choice → Prop}
    (preserved : ∀ world action after, invariant world →
      next program fresh world action = some after → invariant after)
    (exact_step : ∀ world action after, invariant world → property world →
      next program fresh world action = some after → (property after ↔ allowed world action))
    (inv : invariant world) (holds : property world) (actions : List (Action Choice)) :
    Always program fresh property world actions ↔
      EveryStep program fresh allowed world actions := by
  induction actions generalizing world with
  | nil => simpa only [Always, EveryStep, iff_true] using holds
  | cons action rest ih =>
    simp only [Always, EveryStep, holds, true_and]
    split
    · exact Iff.rfl
    · next after moved =>
      have stepIff := exact_step world action after inv holds moved
      have restIff := fun kept => ih (preserved world action after inv moved) kept
      constructor
      · intro always
        have kept : property after := by
          cases rest with
          | nil => exact always
          | cons _ _ => exact always.1
        exact ⟨stepIff.mp kept, (restIff kept).mp always⟩
      · rintro ⟨allowedHere, others⟩
        exact (restIff (stepIff.mpr allowedHere)).mpr others

section Reaches
variable {allowed : Action Choice → Prop} {world middle after : World Shared Thread}

theorem reaches_refl : Reaches program fresh allowed world world :=
  ⟨[], fun _ none => absurd none List.not_mem_nil, rfl⟩

theorem Reaches.trans (first : Reaches program fresh allowed world middle)
    (second : Reaches program fresh allowed middle after) :
    Reaches program fresh allowed world after := by
  obtain ⟨actions, allowedFirst, ran⟩ := first
  obtain ⟨more, allowedSecond, ranOn⟩ := second
  refine ⟨actions ++ more, fun action inBoth => ?_, run_append ran ranOn⟩
  rcases List.mem_append.mp inBoth with inFirst | inSecond
  · exact allowedFirst action inFirst
  · exact allowedSecond action inSecond

theorem reaches_next {action : Action Choice} (may : allowed action)
    (moved : next program fresh world action = some after) :
    Reaches program fresh allowed world after := by
  refine ⟨[action], fun other inOne => ?_, ?_⟩
  · rwa [List.mem_singleton.mp inOne]
  · simp only [run, moved]

theorem reaches_move {i : Nat} {thread thread' : Thread} {choice : Choice} {shared : Shared}
    (may : allowed (.move i choice)) (found : world.threads[i]? = some thread)
    (stepped : program world.shared thread choice = some (shared, thread')) :
    Reaches program fresh allowed world ⟨shared, world.threads.set i thread'⟩ := by
  apply reaches_next may
  simp only [next, found, stepped]

/-- A property that every step preserves holds wherever one gets. -/
theorem Reaches.preserves {property : World Shared Thread → Prop}
    (reaches : Reaches program fresh allowed world after)
    (preserved : ∀ world action after, property world →
      next program fresh world action = some after → property after)
    (holds : property world) : property after := by
  obtain ⟨actions, -, ran⟩ := reaches
  exact run_preserves preserved holds ran

end Reaches

end Runs

end HmsClient.Interleaving
