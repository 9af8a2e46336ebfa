import HmsClient.PoolGate

/-! What every run of the pools keeps, from the client `New` returns on: the
books balance, `mu` excludes, and a goroutine that tries to reserve capacity
has seen some. The conservation of connections, up to and after `Close`, is
drawn from it here. -/
namespace HmsClient.Pool

open Interleaving

/-- Everything a run keeps. -/
structure Sound (cfg : Config) (w : World Shared Goroutine) : Prop where
  sized : w.shared.pools.length = cfg.endpoints
  gate : Gate w
  accounts : Accounts w
  conserved : Conserved w
  swaps : ∀ (idx : Nat) (cur : Int), .acquiring idx (.swap cur) ∈ w.threads → cur < cfg.poolSize

/-! ## One step -/

private theorem swap_was_below {cur : Int}
    (moved : step cfg s g choice = some (s', .acquiring idx (.swap cur))) :
    cur < cfg.poolSize := by
  cases step_move moved with
  | below _ room => exact room

/-- Only the capacity check sends a goroutine into the final `select`. -/
theorem wait_was_load (moved : step cfg s g choice = some (s', .acquiring idx .wait)) :
    g = .acquiring idx .load ∧ choice = .go := by
  cases step_move moved with
  | atLimit => exact ⟨rfl, rfl⟩

private theorem ledger_sized (ledger : Ledger cfg s g s' g') :
    s'.pools.length = s.pools.length := by
  cases ledger <;> simp_all only [List.length_set]

/-- A drain implies the client is closed, so every step in a sound state is one
of the ledger's moves. -/
theorem Sound.ledger {w : World Shared Goroutine} {g : Goroutine} {i : Nat} (sound : Sound cfg w)
    (found : w.threads[i]? = some g) (moved : step cfg w.shared g choice = some (s', g')) :
    Ledger cfg w.shared g s' g' := by
  refine step_ledger moved ?_
  rintro idx rfl
  exact (sound.gate.of_drain found rfl).2.1

private theorem sound_spawn (sound : Sound cfg w) :
    Sound cfg { w with threads := w.threads ++ [.rest] } := by
  obtain ⟨sized, ⟨held, drainsClosed, sendsOpen, ahead, past, returned⟩, accounts, conserved,
    swaps⟩ := sound
  refine ⟨sized, ⟨?_, ?_, ?_, ?_, ?_, ?_⟩, ?_, ?_, ?_⟩
  · simpa [drainers, senders, Goroutine.phase, Phase.drains, Phase.sends] using held
  · simpa [drainers, Goroutine.phase, Phase.drains] using drainsClosed
  · simpa [senders, Goroutine.phase, Phase.sends] using sendsOpen
  · simpa [drainersBefore, Goroutine.phase, Phase.drainsBefore] using ahead
  · simpa [finishers, drainers, Goroutine.phase, Phase.finishes, Phase.drains] using past
  · simpa [drainers, Goroutine.phase, Phase.drains] using returned
  · simpa [Accounts, share, Goroutine.claim] using accounts
  · simpa [Conserved, places, owns, Goroutine.conn] using conserved
  · intro idx cur member
    refine swaps idx cur ?_
    simpa using member

theorem sound_next (sound : Sound cfg w) (moved : next (step cfg) .rest w action = some after) :
    Sound cfg after := by
  rcases next_cases moved with ⟨-, rfl⟩ | ⟨i, choice, g, g', -, found, stepped, set⟩
  · exact sound_spawn sound
  · have ledger := sound.ledger found stepped
    refine ⟨?_, gate_step sound.gate found set (step_passage stepped),
      accounts_step sound.accounts found set ledger,
      conserved_step sound.conserved found set ledger, ?_⟩
    · rw [ledger_sized ledger, sound.sized]
    · intro idx cur member
      rw [set] at member
      rcases List.mem_or_eq_of_mem_set member with old | rfl
      · exact sound.swaps idx cur old
      · exact swap_was_below stepped

/-! ## Whole runs -/

theorem pool_at_start {idx : Nat}
    (found : (start cfg first).shared.pools[idx]? = some p) :
    (first = idx ∧ p = ⟨[0], 1⟩) ∨ (first ≠ idx ∧ p = ⟨[], 0⟩) := by
  rcases pool_after_set found with ⟨here, rfl⟩ | ⟨other, empty⟩
  · exact .inl ⟨here, rfl⟩
  · exact .inr ⟨other, List.eq_of_mem_replicate (List.mem_of_getElem? empty)⟩

theorem sound_start (inRange : first < cfg.endpoints) : Sound cfg (start cfg first) := by
  refine ⟨by simp [start], ⟨rfl, ?_, ?_, ?_, ?_, ?_⟩, ?_, ?_, ?_⟩
  · exact fun draining => absurd draining (Nat.lt_irrefl 0)
  · exact fun _ => rfl
  · exact fun closed => absurd closed Bool.false_ne_true
  · exact fun finishing => absurd finishing (Nat.lt_irrefl 0)
  · exact fun returned => absurd returned Bool.false_ne_true
  · intro idx p found
    rcases pool_at_start found with ⟨-, rfl⟩ | ⟨-, rfl⟩ <;> rfl
  · intro cn
    have handed := count_after_set (p := ⟨[], 0⟩) cn
      (List.getElem?_replicate_of_lt inRange) ⟨[0], 1⟩
    have empty : tally (fun p => p.idle.count cn)
        (List.replicate cfg.endpoints (⟨[], 0⟩ : EndpointPool)) = 0 :=
      (tally_eq_zero_iff _ _).mpr fun p member => by rw [List.eq_of_mem_replicate member]; rfl
    have only : List.count cn [0] = if cn < 1 then 1 else 0 := by
      cases cn with
      | zero => rfl
      | succ cn => simp
    have fresh : tally (owns cn) (start cfg first).threads = 0 := rfl
    have unclosed : (start cfg first).shared.closes.count cn = 0 := rfl
    simp only [List.count_nil, Nat.add_zero, empty, Nat.zero_add, only] at handed
    rw [places, fresh, unclosed]
    exact handed
  · intro idx cur member
    simp [start] at member

/-- Every state of every run is sound. -/
theorem run_sound (inRange : first < cfg.endpoints)
    (ran : run (step cfg) .rest (start cfg first) actions = some w) : Sound cfg w :=
  run_preserves (fun _ _ _ sound moved => sound_next sound moved) (sound_start inRange) ran

/-! ## After Close -/

/-- Whether a goroutine has neither a loan to give back nor a probe to finish. -/
def Goroutine.settled : Goroutine → Bool
  | .holding _ _ | .releasing _ _ | .discarding _ _ | .discarded _ => false
  | .probeLoop | .probing _ _ => false
  | _ => true

/-- One if the goroutine is inside `acquire`, between the reservation of a unit
of pool `idx` and the return. -/
def reserves (idx : Nat) : Goroutine → Nat
  | .acquiring own .recheck | .acquiring own .dial | .acquiring own (.dialed _)
  | .acquiring own .undo => if own = idx then 1 else 0
  | _ => 0

/-- How many calls of `acquire` hold a reservation of pool `idx`. -/
def reservations (idx : Nat) (w : World Shared Goroutine) : Nat := tally (reserves idx) w.threads

/-- A call of `Close` has returned, the probe has exited, and every loan has
been released or discarded. -/
structure Quiet (w : World Shared Goroutine) : Prop where
  returned : w.shared.closeReturned = true
  exited : w.shared.probeDone = true
  settled : ∀ g ∈ w.threads, g.settled = true

/-- What is left in a quiet client: nothing but the reservations of calls of
`acquire` that have not returned yet. -/
structure Emptied (w : World Shared Goroutine) : Prop where
  idle : ∀ p ∈ w.shared.pools, p.idle = []
  closed : ∀ cn < w.shared.dialed, w.shared.closes.count cn = 1 ∨
    ∃ idx, .acquiring idx (.dialed (some cn)) ∈ w.threads
  live : ∀ (idx : Nat) (p : EndpointPool), w.shared.pools[idx]? = some p →
    p.live = reservations idx w
  finished : (∀ idx, reservations idx w = 0) →
    (∀ cn < w.shared.dialed, w.shared.closes.count cn = 1) ∧ ∀ p ∈ w.shared.pools, p.live = 0

private theorem drains_before_le (idx : Nat) (g : Goroutine) :
    g.phase.drainsBefore idx ≤ g.phase.drains := by
  cases g.phase with
  | drain own =>
    simp only [Phase.drainsBefore, Phase.drains]
    split <;> omega
  | outside | send | past => exact Nat.le_refl 0

private theorem idle_of_returned (gate : Gate w) (returned : w.shared.closeReturned = true) :
    ∀ p ∈ w.shared.pools, p.idle = [] := by
  intro p member
  obtain ⟨closed, noDrain⟩ := gate.returned returned
  obtain ⟨idx, found⟩ := List.getElem?_of_mem member
  by_contra filled
  have ahead := gate.ahead closed idx p found filled
  have bound : drainersBefore idx w ≤ drainers w := tally_le_tally (drains_before_le idx) w.threads
  omega

/-- In a goroutine that is settled and does not drain, only a reservation of
`acquire` accounts for a unit. -/
private theorem share_of_settled {g : Goroutine} (settled : g.settled = true)
    (noDrain : g.phase.drains = 0) (idx : Nat) : share idx g = reserves idx g := by
  cases g with
  | acquiring own position =>
    cases position with
    | dialed result => cases result <;> simp [share, reserves, Goroutine.claim]
    | check | poll | load | swap | recheck | dial | undo | wait =>
      simp [share, reserves, Goroutine.claim]
  | closing position =>
    cases position with
    | drainClose | drainCount => exact absurd noDrain Nat.one_ne_zero
    | lock | drain | cancel | awaitProbe | awaitDials | session => rfl
  | rest | exited => rfl
  | holding | releasing | discarding | discarded | probeLoop | probing =>
    exact absurd settled Bool.false_ne_true

private theorem owner_of_settled {g : Goroutine} (settled : g.settled = true)
    (noDrain : g.phase.drains = 0) (owned : g.conn = some cn) :
    ∃ idx, g = .acquiring idx (.dialed (some cn)) := by
  cases g with
  | acquiring own position =>
    cases position with
    | dialed result => exact ⟨own, by rw [show result = some cn from owned]⟩
    | check | poll | load | swap | recheck | dial | undo | wait => cases owned
  | closing position =>
    cases position with
    | drainClose => exact absurd noDrain Nat.one_ne_zero
    | drainCount | lock | drain | cancel | awaitProbe | awaitDials | session => cases owned
  | rest | exited => cases owned
  | holding | releasing | discarding | discarded | probeLoop | probing =>
    exact absurd settled Bool.false_ne_true

private theorem emptied_of_quiet {w : World Shared Goroutine} (sound : Sound cfg w)
    (quiet : Quiet w) : Emptied w := by
  have idle := idle_of_returned sound.gate quiet.returned
  have noDrain := (tally_eq_zero_iff _ _).mp (sound.gate.returned quiet.returned).2
  have closed : ∀ cn < w.shared.dialed, w.shared.closes.count cn = 1 ∨
      ∃ idx, .acquiring idx (.dialed (some cn)) ∈ w.threads := by
    intro cn dialed
    have placed := sound.conserved cn
    have unqueued : tally (fun p => p.idle.count cn) w.shared.pools = 0 :=
      (tally_eq_zero_iff _ _).mpr fun p member => by rw [idle p member]; rfl
    rw [places, unqueued, if_pos dialed] at placed
    by_cases once : w.shared.closes.count cn = 1
    · exact .inl once
    · have someOwner : 0 < tally (owns cn) w.threads := by omega
      obtain ⟨g, member, positive⟩ := exists_of_tally_pos someOwner
      have owned : g.conn = some cn := by
        by_contra other
        rw [owns, if_neg other] at positive
        omega
      obtain ⟨idx, rfl⟩ := owner_of_settled (quiet.settled g member) (noDrain g member) owned
      exact .inr ⟨idx, member⟩
  have live : ∀ (idx : Nat) (p : EndpointPool), w.shared.pools[idx]? = some p →
      p.live = reservations idx w := by
    intro idx p found
    have counted := sound.accounts idx p found
    have shares : tally (share idx) w.threads = reservations idx w := tally_congr
      fun g member => share_of_settled (quiet.settled g member) (noDrain g member) idx
    rw [idle p (List.mem_of_getElem? found), shares] at counted
    simpa using counted
  refine ⟨idle, closed, live, fun unreserved => ⟨fun cn dialed => ?_, fun p member => ?_⟩⟩
  · rcases closed cn dialed with once | ⟨idx, member⟩
    · exact once
    · have none := (tally_eq_zero_iff _ _).mp (unreserved idx) _ member
      simp [reserves] at none
  · obtain ⟨idx, found⟩ := List.getElem?_of_mem member
    rw [live idx p found, unreserved idx]
    rfl

/-- **Connections are conserved.** In every state of every run each connection
`newConn` has returned is in exactly one idle queue, in the hands of exactly
one goroutine, or closed exactly once; and a quiet client keeps only what calls
of `acquire` still on their way out hold. -/
theorem connections_are_conserved (cfg : Config) (first : Nat) (inRange : first < cfg.endpoints)
    (actions : List (Action Choice)) (w : World Shared Goroutine)
    (ran : run (step cfg) .rest (start cfg first) actions = some w) :
    Conserved w ∧ (Quiet w → Emptied w) :=
  ⟨(run_sound inRange ran).conserved, emptied_of_quiet (run_sound inRange ran)⟩

/-- The decisions that take one goroutine through the given choices. -/
def choosing (thread : Nat) (choices : List Choice) : List (Action Choice) :=
  choices.map (.move thread)

/-- One caller borrows the first connection and the client is closed while the
loan is out; the loan comes back afterwards. -/
private def closedDuringLoan : List (Action Choice) :=
  [.spawn, .spawn] ++ choosing 1 [.acquire 0, .go, .go] ++
    choosing 2 [.close, .go, .go, .go, .go] ++ choosing 0 [.exit] ++ choosing 2 [.go, .go, .go] ++
    choosing 1 [.release, .go, .go, .go]

theorem loan_returned_after_close_is_closed :
    ∃ w, run (step (.clamp 1 2)) .rest (start (.clamp 1 2) 0) closedDuringLoan = some w ∧
      Quiet w ∧ Conserved w ∧ Emptied w ∧ w.shared.closes = [0] ∧ liveCount 0 w.shared = 0 := by
  refine ⟨_, rfl, ⟨rfl, rfl, by decide⟩, ?_, ?_, rfl, rfl⟩
  · exact (connections_are_conserved (.clamp 1 2) 0 (by decide) closedDuringLoan _ rfl).1
  · exact (connections_are_conserved (.clamp 1 2) 0 (by decide) closedDuringLoan _ rfl).2
      ⟨rfl, rfl, by decide⟩

/-- A second caller has reserved capacity but not yet looked at `closed` again
when the client closes and the only loan comes back: `live` is still one. -/
theorem reservation_outlives_close :
    ∃ w, run (step (.clamp 1 2)) .rest (start (.clamp 1 2) 0)
        ([.spawn, .spawn, .spawn] ++ choosing 1 [.acquire 0, .go, .go] ++
          choosing 2 [.acquire 0, .go, .go, .go, .go] ++
          choosing 3 [.close, .go, .go, .go, .go] ++ choosing 0 [.exit] ++
          choosing 3 [.go, .go, .go] ++ choosing 1 [.release, .go, .go, .go]) = some w ∧
      Quiet w ∧ w.threads = [.exited, .rest, .acquiring 0 .recheck, .rest] ∧
      liveCount 0 w.shared = 1 :=
  ⟨_, rfl, ⟨rfl, rfl, by decide⟩, rfl, rfl⟩

end HmsClient.Pool
