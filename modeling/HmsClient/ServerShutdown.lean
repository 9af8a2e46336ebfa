import HmsClient.TestServer

/-! What holds of the fake metastore's goroutines in every order of their steps. A
connection is registered under the mutex that `Stop` marks the server stopped under, so
`Stop` waits for every handler there is and none starts later. Only the connection that
`serve` has just accepted may still be open when `Stop` returns. The counter of
`WithFailNext` is decremented by compare-and-swap, so no failure is lost or doubled. -/
namespace HmsClient.TestServer

open Interleaving

/-! ## What a goroutine stands for -/

namespace Goroutine

/-- One if the goroutine holds the mutex. -/
def locks : Goroutine → Nat
  | .serving (.check _) | .serving (.store _) | .serving (.spawn _) | .serving .unlock => 1
  | .serving (.reject _) | .stopping .check | .stopping .leave | .stopping .unlock => 1
  | _ => 0

/-- One if the goroutine is `serve`. -/
def serves : Goroutine → Nat
  | .serving _ => 1
  | _ => 0

/-- One if the goroutine is `serve` between its look at `stopped` and `wg.Go`. -/
def registers : Goroutine → Nat
  | .serving (.store _) | .serving (.spawn _) => 1
  | _ => 0

/-- One if the goroutine is the call of `Stop` that stops the server. -/
def stops : Goroutine → Nat
  | .stopping .unlock | .stopping .closeListener | .stopping .range => 1
  | .stopping (.ranging _ _) | .stopping .wait => 1
  | _ => 0

/-- One if the goroutine runs `handleConn`. -/
def handles : Goroutine → Nat
  | .handling _ _ _ => 1
  | _ => 0

/-- The connection that `serve` has accepted and not yet stored or closed. -/
def carried : Goroutine → Option Nat
  | .serving (.lock c) | .serving (.check c) | .serving (.store c) => some c
  | .serving (.reject c) | .serving (.close c) => some c
  | _ => none

/-- The stored connection that a goroutine is to handle, or has yet to delete. -/
def owned : Goroutine → Option Nat
  | .serving (.spawn c) => some c
  | .handling _ _ .done => none
  | .handling c _ _ => some c
  | _ => none

/-- What each goroutine may rely on. -/
def Relies (s : Shared) : Goroutine → Prop
  | .serving (.spawn c) => c ∈ s.conns ∨ c ∈ s.closed
  | .stopping (.ranging start visited) =>
    (∀ c ∈ s.conns, c ∈ start) ∧ ∀ c ∈ visited, c ∈ s.closed
  | .stopping .wait => ∀ c ∈ s.conns, c ∈ s.closed
  | .handling c _ .delete | .handling c _ .done => c ∈ s.closed
  | .handling c _ _ => c ∈ s.conns ∨ c ∈ s.closed
  | _ => True

end Goroutine

def carries (c : Nat) (g : Goroutine) : Nat := if g.carried = some c then 1 else 0

def owns (c : Nat) (g : Goroutine) : Nat := if g.owned = some c then 1 else 0

/-- What every run keeps. -/
structure Sound (w : World Shared Goroutine) : Prop where
  mutex : tally Goroutine.locks w.threads = w.shared.locked.toNat
  acceptor : tally Goroutine.serves w.threads ≤ 1
  first : tally Goroutine.stops w.threads + w.shared.stopReturned.toNat = w.shared.stopped.toNat
  shut : w.shared.stopped = true → tally Goroutine.registers w.threads = 0
  group : w.shared.wg = w.shared.started.length + tally Goroutine.handles w.threads
  registered : ∀ c ∈ w.shared.conns, 0 < tally (owns c) w.threads + w.shared.started.count c
  accounted : ∀ c < w.shared.accepted,
    c ∈ w.shared.closed ∨ c ∈ w.shared.conns ∨ 0 < tally (carries c) w.threads
  pending : ∀ c ∈ w.shared.started, c ∈ w.shared.conns ∨ c ∈ w.shared.closed
  relied : ∀ g ∈ w.threads, g.Relies w.shared
  ended : w.shared.stopReturned = true → w.shared.wg = 0

theorem newServer_sound (n : Int) : Sound (newServer n) where
  mutex := rfl
  acceptor := Nat.le_refl 1
  first := rfl
  shut stopped := absurd stopped Bool.false_ne_true
  group := rfl
  registered := fun _ inConns => absurd inConns List.not_mem_nil
  accounted := fun _ below => absurd below (Nat.not_lt_zero _)
  pending := fun _ inStarted => absurd inStarted List.not_mem_nil
  relied := fun _ inThreads => by
    rw [List.mem_singleton.mp inThreads]
    trivial
  ended returned := absurd returned Bool.false_ne_true

/-! ## What one step does -/

section Moves
variable {s s' : Shared} {g g' : Goroutine} {choice : Choice}

private theorem locks_moved (move : Move s g choice s' g')
    (held : 0 < g.locks → s.locked = true) :
    g'.locks + s.locked.toNat = g.locks + s'.locked.toNat := by
  cases move <;> simp_all [Goroutine.locks, Shared.close]

private theorem serves_moved (move : Move s g choice s' g') : g'.serves ≤ g.serves := by
  cases move <;> simp [Goroutine.serves]

private theorem stops_moved (move : Move s g choice s' g')
    (active : 0 < g.stops → s.stopReturned = false) :
    g'.stops + s'.stopReturned.toNat + s.stopped.toNat =
      g.stops + s.stopReturned.toNat + s'.stopped.toNat := by
  cases move with
  | first | returned => simp_all [Goroutine.stops, Nat.add_comm]
  | _ => simp [Goroutine.stops, Shared.close]

private theorem registers_moved (move : Move s g choice s' g') (stopped : s.stopped = true) :
    g'.registers ≤ g.registers := by
  cases move <;> simp_all [Goroutine.registers]

/-- Only `Stop` stops the server, and holds the mutex when it does. -/
private theorem stopped_moved (move : Move s g choice s' g') (stopped : s'.stopped = true) :
    s.stopped = true ∨ g = .stopping .check ∧ g' = .stopping .unlock := by
  cases move <;> simp_all [Shared.close]

private theorem group_moved (move : Move s g choice s' g') (counted : g.handles ≤ s.wg) :
    s'.wg + s.started.length + g.handles = s.wg + s'.started.length + g'.handles := by
  cases move with
  | start pending =>
    have := List.length_erase_of_mem pending
    have := List.length_pos_of_mem pending
    simp only [Goroutine.handles]
    omega
  | _ => simp_all [Goroutine.handles, Shared.close] <;> omega

private theorem wg_moved (move : Move s g choice s' g') : s'.wg ≤ s.wg ∨ 0 < g.registers := by
  cases move <;> simp [Goroutine.registers, Shared.close]

private theorem returned_moved (move : Move s g choice s' g') (returned : s'.stopReturned = true) :
    s.stopReturned = true ∨ s'.wg = 0 := by
  cases move <;> simp_all [Shared.close]

private theorem stopReturned_moved (move : Move s g choice s' g')
    (returned : s.stopReturned = true) : s'.stopReturned = true := by
  cases move with
  | returned => rfl
  | _ => exact returned

variable {c : Nat}

private theorem closed_moved (move : Move s g choice s' g') (closed : c ∈ s.closed) :
    c ∈ s'.closed := by
  cases move <;> simp_all [Shared.close]

private theorem conns_stored (move : Move s g choice s' g') (inConns : c ∈ s'.conns) :
    c ∈ s.conns ∨ g = .serving (.store c) := by
  cases move with
  | stored =>
    rcases List.mem_cons.mp inConns with rfl | old
    · exact .inr rfl
    · exact .inl old
  | deleted => exact .inl (List.mem_of_mem_filter inConns)
  | _ => exact .inl inConns

private theorem conns_deleted (move : Move s g choice s' g') (inConns : c ∈ s.conns) :
    c ∈ s'.conns ∨ ∃ ahead, g = .handling c ahead .delete := by
  cases move with
  | stored => exact .inl (.tail _ inConns)
  | @deleted d ahead =>
    by_cases same : c = d
    · exact .inr ⟨ahead, by rw [same]⟩
    · exact .inl (List.mem_filter.mpr ⟨inConns, by simpa using same⟩)
  | _ => exact .inl inConns

private theorem owned_moved (move : Move s g choice s' g') (inConns : c ∈ s'.conns) :
    c ∈ s.conns ∧ owns c g + s.started.count c ≤ owns c g' + s'.started.count c ∨
      0 < owns c g' := by
  cases move with
  | @start d pending =>
    by_cases same : d = c
    · exact .inr (by simp [owns, Goroutine.owned, same])
    · refine .inl ⟨inConns, ?_⟩
      simp [owns, Goroutine.owned, same, List.count_erase_of_ne (Ne.symm same)]
  | stored =>
    rcases List.mem_cons.mp inConns with rfl | old
    · exact .inr (by simp [owns, Goroutine.owned])
    · exact .inl ⟨old, by simp [owns, Goroutine.owned]⟩
  | @spawned d =>
    refine .inl ⟨inConns, ?_⟩
    by_cases same : d = c
    · simp [owns, Goroutine.owned, same, Nat.add_comm]
    · simp [owns, Goroutine.owned, same]
  | @deleted d ahead =>
    have other : d ≠ c := fun same => by simp [same] at inConns
    exact .inl ⟨List.mem_of_mem_filter inConns, by simp [owns, Goroutine.owned, other]⟩
  | _ => exact .inl ⟨inConns, by simp [owns, Goroutine.owned, Shared.close]⟩

private theorem carried_moved (move : Move s g choice s' g') (c : Nat) :
    carries c g ≤ carries c g' ∨ c ∈ s'.conns ∨ c ∈ s'.closed := by
  cases move with
  | @stored d =>
    by_cases same : d = c
    · exact .inr (.inl (by simp [same]))
    · exact .inl (by simp [carries, Goroutine.carried, same])
  | @refused d =>
    by_cases same : d = c
    · exact .inr (.inr (by simp [Shared.close, same]))
    · exact .inl (by simp [carries, Goroutine.carried, same])
  | _ => simp [carries, Goroutine.carried]

private theorem accepted_moved (move : Move s g choice s' g') (below : c < s'.accepted) :
    c < s.accepted ∨ 0 < carries c g' := by
  cases move with
  | accepted =>
    rcases Nat.lt_succ_iff_lt_or_eq.mp below with old | rfl
    · exact .inl old
    · exact .inr (by simp [carries, Goroutine.carried])
  | _ => exact .inl below

private theorem started_moved (move : Move s g choice s' g') (pending : c ∈ s'.started) :
    c ∈ s.started ∨ g = .serving (.spawn c) := by
  cases move with
  | start => exact .inl (List.mem_of_mem_erase pending)
  | spawned =>
    rcases List.mem_cons.mp pending with rfl | old
    · exact .inr rfl
    · exact .inl old
  | _ => exact .inl pending

private theorem handled_moved (move : Move s g choice s' g') :
    s'.handled = s.handled ∨ 0 < g.handles := by
  cases move <;> simp [Goroutine.handles, Shared.close]

/-- A stored connection goes only when it is closed. -/
private theorem stays_moved (move : Move s g choice s' g') (own : g.Relies s)
    (stored : c ∈ s.conns ∨ c ∈ s.closed) : c ∈ s'.conns ∨ c ∈ s'.closed := by
  rcases stored with inConns | closed
  · rcases conns_deleted move inConns with still | ⟨ahead, rfl⟩
    · exact .inl still
    · exact .inr (closed_moved move own)
  · exact .inr (closed_moved move closed)

/-- What a goroutine relies on stays so, since nothing is stored while `Stop` works. -/
private theorem relies_kept {other : Goroutine} (move : Move s g choice s' g')
    (own : g.Relies s) (idle : 0 < other.stops → g.registers = 0) (relies : other.Relies s) :
    other.Relies s' := by
  have noNew : 0 < other.stops → ∀ c ∈ s'.conns, c ∈ s.conns := by
    intro stops c inConns
    rcases conns_stored move inConns with old | rfl
    · exact old
    · cases idle stops
  cases other with
  | rest | exited => trivial
  | serving position =>
    cases position with
    | spawn c => exact stays_moved move own relies
    | _ => trivial
  | stopping position =>
    cases position with
    | ranging start visited =>
      exact ⟨fun c inConns => relies.1 c (noNew Nat.one_pos c inConns),
        fun c inVisited => closed_moved move (relies.2 c inVisited)⟩
    | wait => exact fun c inConns => closed_moved move (relies c (noNew Nat.one_pos c inConns))
    | _ => trivial
  | handling c ahead position =>
    cases position with
    | delete | done => exact closed_moved move relies
    | _ => exact stays_moved move own relies

private theorem relies_moved (move : Move s g choice s' g') (own : g.Relies s)
    (pending : ∀ c ∈ s.started, c ∈ s.conns ∨ c ∈ s.closed) : g'.Relies s' := by
  cases move with
  | start inStarted => exact pending _ inStarted
  | stored => exact .inl (.head _)
  | range => exact ⟨fun _ inConns => inConns, fun _ none => absurd none List.not_mem_nil⟩
  | @visited d start visited =>
    refine ⟨own.1, fun c inVisited => ?_⟩
    rcases List.mem_cons.mp inVisited with rfl | before
    · exact .head _
    · exact .tail _ (own.2 c before)
  | ranged all => exact fun c inConns => own.2 c (all c (own.1 c inConns) inConns)
  | dropped => exact own.imp_right (.tail _)
  | closed => exact .head _
  | deleted => exact own
  | _ => trivial

end Moves

/-! ## What a run keeps -/

section Runs
variable {w w' : World Shared Goroutine}

/-- While `Stop` looks at the flag nobody else holds the mutex. -/
private theorem alone_at_check (sound : Sound w) (inside : .stopping .check ∈ w.threads) :
    tally Goroutine.registers w.threads = 0 := by
  have within : ∀ g : Goroutine,
      g.registers + (if g = .stopping .check then 1 else 0) ≤ g.locks := by
    intro g
    cases g with
    | serving position => cases position <;> simp [Goroutine.registers, Goroutine.locks]
    | stopping position => cases position <;> simp [Goroutine.registers, Goroutine.locks]
    | _ => simp [Goroutine.registers, Goroutine.locks]
  obtain ⟨i, found⟩ := List.mem_iff_getElem?.mp inside
  have counted := le_tally (fun g : Goroutine => if g = .stopping .check then 1 else 0) found
  have both := tally_le_tally within w.threads
  rw [tally_add] at both
  have single := sound.mutex
  have := Bool.toNat_le w.shared.locked
  simp only [if_true] at counted
  omega

/-- A goroutine that rests changes nothing. -/
private theorem spawn_sound (sound : Sound w) :
    Sound { w with threads := w.threads ++ [.rest] } where
  mutex := by simpa [Goroutine.locks] using sound.mutex
  acceptor := by simpa [Goroutine.serves] using sound.acceptor
  first := by simpa [Goroutine.stops] using sound.first
  shut stopped := by simpa [Goroutine.registers] using sound.shut stopped
  group := by simpa [Goroutine.handles] using sound.group
  registered c inConns := by simpa [owns, Goroutine.owned] using sound.registered c inConns
  accounted c below := by simpa [carries, Goroutine.carried] using sound.accounted c below
  pending := sound.pending
  relied g inThreads := by
    rcases List.mem_append.mp inThreads with old | new
    · exact sound.relied g old
    · rw [List.mem_singleton.mp new]
      trivial
  ended := sound.ended

variable {g : Goroutine} {action : Action Choice}

/-- While `Stop` works or after it no connection is registered. -/
private theorem registers_zero (sound : Sound w) (stopped : w.shared.stopped = true)
    (inThreads : g ∈ w.threads) : g.registers = 0 :=
  (tally_eq_zero_iff _ _).mp (sound.shut stopped) g inThreads

private theorem stopped_of_stops (sound : Sound w) (inThreads : g ∈ w.threads) (stops : 0 < g.stops) :
    w.shared.stopped = true ∧ w.shared.stopReturned = false := by
  obtain ⟨i, found⟩ := List.mem_iff_getElem?.mp inThreads
  have counted := le_tally Goroutine.stops found
  have first := sound.first
  have := Bool.toNat_le w.shared.stopped
  constructor
  · rw [← Bool.toNat_eq_one]
    omega
  · rw [← Bool.toNat_eq_zero]
    omega

private theorem stopped_of_returned (sound : Sound w) (returned : w.shared.stopReturned = true) :
    w.shared.stopped = true := by
  have first := sound.first
  have := Bool.toNat_le w.shared.stopped
  rw [returned, Bool.toNat_true] at first
  rw [← Bool.toNat_eq_one]
  omega

private theorem relied_next (sound : Sound w) (moved : next step .rest w action = some w') :
    ∀ g ∈ w'.threads, g.Relies w'.shared := by
  have born : Goroutine.rest.Relies w.shared := trivial
  refine all_threads_next sound.relied born ?_ moved
  intro g choice g' inThreads stepped
  have move := step_move stepped
  have own := sound.relied g inThreads
  refine ⟨relies_moved move own sound.pending, fun other inOthers relies => ?_⟩
  refine relies_kept move own (fun stops => ?_) relies
  exact registers_zero sound (stopped_of_stops sound inOthers stops).1 inThreads

private theorem move_sound (sound : Sound w) {i : Nat} {g' : Goroutine} {choice : Choice}
    (found : w.threads[i]? = some g) (move : Move w.shared g choice w'.shared g')
    (set : w'.threads = w.threads.set i g') (relied : ∀ g ∈ w'.threads, g.Relies w'.shared) :
    Sound w' := by
  have inThreads := List.mem_of_getElem? found
  have counts : ∀ measure : Goroutine → Nat,
      tally measure w'.threads + measure g = tally measure w.threads + measure g' :=
    fun measure => tally_moved measure found set
  have own := sound.relied g inThreads
  refine ⟨?_, ?_, ?_, ?_, ?_, ?_, ?_, ?_, relied, ?_⟩
  · -- mutex
    have held : 0 < g.locks → w.shared.locked = true := by
      intro positive
      have counted := le_tally Goroutine.locks found
      rw [sound.mutex] at counted
      rw [← Bool.toNat_eq_one]
      have := Bool.toNat_le w.shared.locked
      omega
    have moved := locks_moved move held
    have count := counts Goroutine.locks
    have mutex := sound.mutex
    omega
  · -- acceptor
    have moved := serves_moved move
    have count := counts Goroutine.serves
    have acceptor := sound.acceptor
    omega
  · -- first
    have moved := stops_moved move fun stops => (stopped_of_stops sound inThreads stops).2
    have count := counts Goroutine.stops
    have first := sound.first
    omega
  · -- shut
    intro stopped
    have count := counts Goroutine.registers
    rcases stopped_moved move stopped with before | ⟨rfl, rfl⟩
    · have moved := registers_moved move before
      have shut := sound.shut before
      have := le_tally Goroutine.registers found
      omega
    · have shut := alone_at_check sound inThreads
      simp only [Goroutine.registers] at count
      omega
  · -- group
    have counted := le_tally Goroutine.handles found
    have group := sound.group
    have moved := group_moved move (by omega)
    have count := counts Goroutine.handles
    omega
  · -- registered
    intro c inConns
    have count := counts (owns c)
    have counted := le_tally (owns c) found
    rcases owned_moved move inConns with ⟨old, more⟩ | owner
    · have registered := sound.registered c old
      omega
    · omega
  · -- accounted
    intro c below
    have count := counts (carries c)
    have counted := le_tally (carries c) found
    rcases accepted_moved move below with old | carrier
    · rcases carried_moved move c with still | stored | closed
      · rcases sound.accounted c old with closed | stored | carrier
        · exact .inl (closed_moved move closed)
        · rcases stays_moved move own (.inl stored) with stored | closed
          · exact .inr (.inl stored)
          · exact .inl closed
        · exact .inr (.inr (by omega))
      · exact .inr (.inl stored)
      · exact .inl closed
    · exact .inr (.inr (by omega))
  · -- pending
    intro c inStarted
    rcases started_moved move inStarted with old | rfl
    · exact stays_moved move own (sound.pending c old)
    · exact stays_moved move own own
  · -- ended
    intro returned
    rcases returned_moved move returned with before | none
    · have none := sound.ended before
      have idle := registers_zero sound (stopped_of_returned sound before) inThreads
      rcases wg_moved move with fewer | registers
      · omega
      · omega
    · exact none

theorem next_sound (sound : Sound w) (moved : next step .rest w action = some w') : Sound w' := by
  have relied := relied_next sound moved
  rcases next_cases moved with ⟨-, rfl⟩ | ⟨i, choice, g, g', -, found, stepped, set⟩
  · exact spawn_sound sound
  · exact move_sound sound found (step_move stepped) set relied

theorem runs_sound (n : Int) {actions : List (Action Choice)}
    (ran : runs (newServer n) actions = some w) : Sound w :=
  run_preserves (fun _ _ _ sound moved => next_sound sound moved) (newServer_sound n) ran

/-! ## After Stop -/

/-- Nothing of the server runs any more, and the only connection that may still be open is
one that `serve` has accepted and holds. -/
structure Quiet (w : World Shared Goroutine) : Prop where
  idle : w.shared.wg = 0
  unregistered : w.shared.conns = []
  unstarted : w.shared.started = []
  unhandled : ∀ c ahead position, .handling c ahead position ∉ w.threads
  held : ∀ c < w.shared.accepted, c ∉ w.shared.closed → ∃ g ∈ w.threads, g.carried = some c
  oneOpen : ∀ c < w.shared.accepted, ∀ d < w.shared.accepted,
    c ∉ w.shared.closed → d ∉ w.shared.closed → c = d

private theorem owns_le (c : Nat) (g : Goroutine) : owns c g ≤ g.registers + g.handles := by
  have one : owns c g ≤ 1 := by
    unfold owns
    split <;> omega
  cases g with
  | serving position =>
    cases position with
    | spawn d => exact one
    | _ => exact Nat.zero_le _
  | handling d ahead position => exact one
  | _ => exact Nat.zero_le _

private theorem serves_of_carried {c : Nat} (carried : g.carried = some c) : 0 < g.serves := by
  cases g with
  | serving position => exact Nat.one_pos
  | _ => cases carried

private theorem quiet_of_returned (sound : Sound w) (returned : w.shared.stopReturned = true) :
    Quiet w := by
  have idle := sound.ended returned
  have group := sound.group
  have stopped := stopped_of_returned sound returned
  have unstarted : w.shared.started = [] := List.eq_nil_of_length_eq_zero (by omega)
  have none : tally Goroutine.handles w.threads = 0 := by omega
  have unregistered : w.shared.conns = [] := by
    apply List.eq_nil_iff_forall_not_mem.mpr
    intro c inConns
    have owner := sound.registered c inConns
    have few := tally_le_tally (owns_le c) w.threads
    rw [tally_add, sound.shut stopped, none] at few
    rw [unstarted, List.count_nil] at owner
    omega
  have held : ∀ c < w.shared.accepted, c ∉ w.shared.closed →
      ∃ g ∈ w.threads, g.carried = some c := by
    intro c below isOpen
    rcases sound.accounted c below with closed | stored | carrier
    · exact absurd closed isOpen
    · rw [unregistered] at stored
      cases stored
    · obtain ⟨g, inThreads, counts⟩ := exists_of_tally_pos carrier
      refine ⟨g, inThreads, ?_⟩
      by_contra other
      simp [carries, other] at counts
  refine ⟨idle, unregistered, unstarted, fun c ahead position inThreads => ?_, held, ?_⟩
  · have := (tally_eq_zero_iff _ _).mp none _ inThreads
    simp [Goroutine.handles] at this
  · intro c belowC d belowD openC openD
    obtain ⟨g, inThreads, carriesC⟩ := held c belowC openC
    obtain ⟨h, inThreads', carriesD⟩ := held d belowD openD
    have same := eq_of_tally_le_one sound.acceptor inThreads (serves_of_carried carriesC)
      inThreads' (serves_of_carried carriesD)
    rw [same, carriesD] at carriesC
    exact (Option.some.inj carriesC).symm

/-- Once `Stop` has returned, a step handles nothing. -/
private theorem next_returned (sound : Sound w) (returned : w.shared.stopReturned = true)
    (moved : next step .rest w action = some w') :
    w'.shared.stopReturned = true ∧ w'.shared.handled = w.shared.handled := by
  rcases next_cases moved with ⟨-, rfl⟩ | ⟨i, choice, g, g', -, found, stepped, -⟩
  · exact ⟨returned, rfl⟩
  · have move := step_move stepped
    refine ⟨stopReturned_moved move returned, ?_⟩
    rcases handled_moved move with same | handles
    · exact same
    · have counted := le_tally Goroutine.handles found
      have := sound.group
      have := sound.ended returned
      omega

/-- When the call of `Stop` that stopped the server has returned, no handler runs and no
connection is registered; at most one is open, which `serve` holds; and whatever happens
later, this stays so and no request is handled any more. -/
theorem stop_leaves_nothing_running (n : Int) (actions : List (Action Choice))
    (w : World Shared Goroutine) (ran : runs (newServer n) actions = some w)
    (returned : w.shared.stopReturned = true) :
    Quiet w ∧ ∀ more w', runs w more = some w' →
      Quiet w' ∧ w'.shared.handled = w.shared.handled := by
  have sound := runs_sound n ran
  refine ⟨quiet_of_returned sound returned, fun more w' ranOn => ?_⟩
  let property : World Shared Goroutine → Prop := fun v =>
    Sound v ∧ v.shared.stopReturned = true ∧ v.shared.handled = w.shared.handled
  have preserved : ∀ v action v', property v → next step .rest v action = some v' →
      property v' := by
    rintro v action v' ⟨sound, returned, same⟩ moved
    obtain ⟨still, handled⟩ := next_returned sound returned moved
    exact ⟨next_sound sound moved, still, handled.trans same⟩
  have later : property w' := run_preserves preserved ⟨sound, returned, rfl⟩ ranOn
  exact ⟨quiet_of_returned later.1 later.2.1, later.2.2⟩

end Runs

/-- A connection is handled; while `Stop` is between the flag and the listener another one
is accepted, and `Stop` returns before `serve` looks at it. -/
def lateAccept : List (Action Choice) :=
  [.move 0 .connect, .move 0 .go, .move 0 .go, .move 0 .go, .move 0 .go, .move 0 .go,
    .spawn, .move 1 (.start 0),
    .spawn, .move 2 .stop, .move 2 .go, .move 2 .go, .move 2 .go,
    .move 0 .connect,
    .move 2 .go, .move 2 .go, .move 2 (.visit 0), .move 2 .go,
    .move 1 .go, .move 1 .go, .move 1 .go, .move 1 .go,
    .move 2 .go]

theorem stop_returns_before_late_connection_is_closed :
    ∃ w, runs (newServer 0) lateAccept = some w ∧ w.shared.stopReturned = true ∧
      w.shared.accepted = 2 ∧ 1 ∉ w.shared.closed ∧ Quiet w :=
  ⟨_, rfl, rfl, rfl, by decide, (stop_leaves_nothing_running 0 lateAccept _ rfl rfl).1⟩

/-! ## Injected failures -/

/-- One if a request on this connection has passed the counter and its handler has yet to be
entered. -/
def dispatches (c : Nat) : Goroutine → Nat
  | .handling d _ (.dispatch _) => if d = c then 1 else 0
  | _ => 0

/-- A goroutine tries to swap only a value that it has seen positive. -/
def Goroutine.Spends : Goroutine → Prop
  | .handling _ _ (.swap _ cur) => 0 < cur
  | _ => True

/-- What the counter keeps from `n` failures on. -/
structure Metered (n : Nat) (w : World Shared Goroutine) : Prop where
  conserved : w.shared.injected.length + w.shared.failNext.toNat = n
  inOrder : w.shared.passed ≠ [] → w.shared.failNext ≤ 0
  entered : ∀ c, w.shared.handled.count c + tally (dispatches c) w.threads ≤ w.shared.passed.count c
  spends : ∀ g ∈ w.threads, g.Spends

section Meter
variable {s s' : Shared} {g g' : Goroutine} {choice : Choice} {w w' : World Shared Goroutine}

private theorem spends_moved (move : Move s g choice s' g') : g'.Spends := by
  cases move with
  | loaded left => exact left
  | _ => trivial

/-- The counter goes down by one with each injected failure and in no other way. -/
private theorem meter_moved (move : Move s g choice s' g') (spends : g.Spends) :
    s'.injected.length + s'.failNext.toNat = s.injected.length + s.failNext.toNat ∧
      s'.failNext ≤ s.failNext := by
  cases move with
  | swapped =>
    have positive : 0 < s.failNext := spends
    constructor
    · simp only [List.length_cons]
      omega
    · exact Int.sub_le_self _ Int.one_nonneg
  | _ => exact ⟨rfl, Int.le_refl _⟩

private theorem passed_moved (move : Move s g choice s' g') :
    s'.passed = s.passed ∨ s.failNext ≤ 0 := by
  cases move with
  | passed spent => exact .inr spent
  | _ => exact .inl rfl

private theorem entered_moved (move : Move s g choice s' g') (c : Nat) :
    s'.handled.count c + dispatches c g' + s.passed.count c ≤
      s.handled.count c + dispatches c g + s'.passed.count c := by
  cases move with
  | passed | handled | panicked =>
    simp only [dispatches, List.count_cons, beq_iff_eq]
    omega
  | _ => simp [dispatches, Shared.close]

private theorem next_metered {n : Nat} (metered : Metered n w) {action : Action Choice}
    (moved : next step .rest w action = some w') : Metered n w' := by
  rcases next_cases moved with ⟨-, rfl⟩ | ⟨i, choice, g, g', -, found, stepped, set⟩
  · refine ⟨metered.conserved, metered.inOrder, fun c => ?_, fun g inThreads => ?_⟩
    · simpa [dispatches] using metered.entered c
    · rcases List.mem_append.mp inThreads with old | new
      · exact metered.spends g old
      · rw [List.mem_singleton.mp new]
        trivial
  · have move := step_move stepped
    obtain ⟨conserved, falls⟩ := meter_moved move (metered.spends g (List.mem_of_getElem? found))
    refine ⟨conserved.trans metered.conserved, fun some => ?_, fun c => ?_,
      fun other inThreads => ?_⟩
    · rcases passed_moved move with same | spent
      · exact Int.le_trans falls (metered.inOrder (same ▸ some))
      · exact Int.le_trans falls spent
    · have count : tally (dispatches c) w'.threads + dispatches c g =
          tally (dispatches c) w.threads + dispatches c g' :=
        tally_moved (dispatches c) found set
      have entered := metered.entered c
      have := entered_moved move c
      omega
    · rw [set] at inThreads
      rcases List.mem_or_eq_of_mem_set inThreads with old | rfl
      · exact metered.spends other old
      · exact spends_moved move

end Meter

/-- `WithFailNext(n)` injects exactly `n` failures, clamped to the range of the counter, into
the first `n` message headers that reach the counter, however the connections take turns;
and on no connection are more requests handled than were let through on it. -/
theorem fail_next_hits_first_headers (n : Int) (actions : List (Action Choice))
    (w : World Shared Goroutine) (ran : runs (newServer n) actions = some w) :
    w.shared.injected.length =
        min (clampInt32 n).toNat (w.shared.injected.length + w.shared.passed.length) ∧
      w.shared.failNext.toNat = (clampInt32 n).toNat - w.shared.injected.length ∧
      ∀ c, w.shared.handled.count c ≤ w.shared.passed.count c := by
  have metered : Metered (clampInt32 n).toNat w := by
    apply run_preserves (fun _ _ _ metered moved => next_metered metered moved) ?_ ran
    refine ⟨Nat.zero_add _, fun none => absurd rfl none, fun c => Nat.le_refl 0, ?_⟩
    intro g inThreads
    rw [List.mem_singleton.mp inThreads]
    trivial
  have conserved := metered.conserved
  have inOrder := metered.inOrder
  refine ⟨?_, by omega, fun c => Nat.le_trans (Nat.le_add_right _ _) (metered.entered c)⟩
  cases passed : w.shared.passed with
  | nil =>
    rw [List.length_nil]
    omega
  | cons c rest =>
    have := inOrder (by rw [passed]; exact List.cons_ne_nil c rest)
    omega

/-- Two requests see the same last failure; one takes it and the other is handled. -/
def sharedFailure : List (Action Choice) :=
  [.move 0 .connect, .move 0 .go, .move 0 .go, .move 0 .go, .move 0 .go, .move 0 .go,
    .move 0 .connect, .move 0 .go, .move 0 .go, .move 0 .go, .move 0 .go, .move 0 .go,
    .spawn, .move 1 (.start 0), .spawn, .move 2 (.start 1),
    .move 1 (.receive .known []), .move 2 (.receive .known [.unknown]), .move 1 .go, .move 2 .go,
    .move 1 .go, .move 2 .go, .move 2 .go, .move 2 .go]

theorem fail_next_hits_one_of_two :
    ∃ w, runs (newServer 1) sharedFailure = some w ∧ w.shared.handled = [1] ∧
      w.shared.injected = [0] ∧
      w.shared.injected.length = min 1 (w.shared.injected.length + w.shared.passed.length) ∧
      ∀ c, w.shared.handled.count c ≤ w.shared.passed.count c := by
  obtain ⟨first, -, perConnection⟩ := fail_next_hits_first_headers 1 sharedFailure _ rfl
  exact ⟨_, rfl, rfl, rfl, first, perConnection⟩

end HmsClient.TestServer
