import HmsClient.PoolLedger

/-! The mutex `mu` and the way the client closes. `Passage` lists how a step may
touch `mu`, `closed` and the idle queues of a closed client. From it follow
mutual exclusion of `Close`'s drain and the probe's hand-off, and that whatever
is still idle in a closed client lies ahead of the one goroutine draining it. -/
namespace HmsClient.Pool

open Interleaving

/-- What a goroutine does about `mu` and `closed`: nothing it must hold on to,
draining from some pool on, sending for the probe, or past its drain. -/
inductive Phase where
  | outside
  | drain (idx : Nat)
  | send
  | past
  deriving DecidableEq

def Goroutine.phase : Goroutine → Phase
  | .closing (.drain idx) | .closing (.drainClose idx _) | .closing (.drainCount idx) => .drain idx
  | .closing .cancel | .closing (.awaitProbe _) | .closing .awaitDials | .closing .session => .past
  | .probing _ (.send _ _) => .send
  | _ => .outside

/-- Idle queues may only get emptier. -/
def NoneFilled (s s' : Shared) : Prop :=
  ∀ (idx : Nat) (p' : EndpointPool), s'.pools[idx]? = some p' → p'.idle ≠ [] →
    ∃ p : EndpointPool, s.pools[idx]? = some p ∧ p.idle ≠ []

/-- The effect of a step on `mu`, `closed` and the idle queues. -/
inductive Passage (s : Shared) (g : Goroutine) (s' : Shared) (g' : Goroutine) : Prop where
  | stay (locked : s'.locked = s.locked) (closed : s'.closed = s.closed)
      (returned : s'.closeReturned = s.closeReturned) (phase : g'.phase = g.phase)
      (idle : s.closed = true → NoneFilled s s')
  | shut (free : s.locked = false) (isOpen : s.closed = false) (locked : s'.locked = true)
      (closed : s'.closed = true) (returned : s'.closeReturned = s.closeReturned)
      (before : g.phase = .outside) (after : g'.phase = .drain 0)
  | advance (idx : Nat) (same : s' = s)
      (empty : ∀ p, s.pools[idx]? = some p → p.idle = [])
      (before : g.phase = .drain idx) (after : g'.phase = .drain (idx + 1))
  | leave (idx : Nat) (done : s.pools[idx]? = none) (same : s' = { s with locked := false })
      (before : g.phase = .drain idx) (after : g'.phase = .past)
  | again (free : s.locked = false) (closed : s.closed = true) (same : s' = s)
      (before : g.phase = .outside) (after : g'.phase = .past)
  | enter (free : s.locked = false) (isOpen : s.closed = false) (locked : s'.locked = true)
      (closed : s'.closed = false) (returned : s'.closeReturned = s.closeReturned)
      (before : g.phase = .outside) (after : g'.phase = .send)
  | exit (locked : s'.locked = false) (closed : s'.closed = s.closed)
      (returned : s'.closeReturned = s.closeReturned)
      (before : g.phase = .send) (after : g'.phase = .outside)
  | finish (locked : s'.locked = s.locked) (closed : s'.closed = s.closed)
      (pools : s'.pools = s.pools) (before : g.phase = .past) (after : g'.phase = .outside)

private theorem none_filled_set (pool : s.pools[idx]? = some p)
    (emptier : new.idle ≠ [] → p.idle ≠ []) : NoneFilled s (s.setPool idx new) := by
  intro other p' found filled
  rcases pool_after_set found with ⟨rfl, rfl⟩ | ⟨-, found⟩
  · exact ⟨p, pool, emptier filled⟩
  · exact ⟨p', found, filled⟩

private theorem stay_of_pools (pools : s'.pools = s.pools) (locked : s'.locked = s.locked)
    (closed : s'.closed = s.closed) (returned : s'.closeReturned = s.closeReturned)
    (phase : g'.phase = g.phase) : Passage s g s' g' :=
  .stay locked closed returned phase fun _ _ p found filled => ⟨p, pools ▸ found, filled⟩

private theorem stay_of_set (pool : s.pools[idx]? = some p)
    (emptier : new.idle ≠ [] → p.idle ≠ []) (phase : g'.phase = g.phase) :
    Passage s g (s.setPool idx new) g' :=
  .stay rfl rfl rfl phase fun _ => none_filled_set pool emptier

private theorem stay_of_addLive (pool : s.pools[idx]? = some p) (delta : Int)
    (phase : g'.phase = g.phase) : Passage s g (s.addLive idx p delta) g' :=
  stay_of_set pool id phase

private theorem stay_of_receive (pool : s.pools[idx]? = some p) (head : p.idle = cn :: idle)
    (phase : g'.phase = g.phase) : Passage s g (s.receive idx p idle) g' :=
  stay_of_set pool (fun _ => by simp [head]) phase

/-- Every step is one of the passages. -/
theorem step_passage (moved : step cfg s g choice = some (s', g')) : Passage s g s' g' := by
  cases step_move moved with
  | acquire | close | probe | refused | admitted | noneIdle | atLimit | below | outrun | tooLate
  | register | dialed | undialed | connected | unconnected | woken | expired | release | discard
  | releasedLate | unwanted | closed | drainClosed | cancel | probeAwaited | dialsAwaited | tick
  | exit | next | swept | probed | probeDialed | probeUndialed | alive | dead | rejected
  | handOffLate | fullClosed => exact stay_of_pools rfl rfl rfl rfl rfl
  | polled pool head | received pool head | drain pool head => exact stay_of_receive pool head rfl
  | swapped pool => exact stay_of_addLive pool 1 rfl
  | undone pool | uncounted pool | drainCounted pool | fullUncounted pool =>
    exact stay_of_addLive pool (-1) rfl
  | released _ isOpen =>
    refine .stay rfl rfl rfl rfl fun closed => ?_
    exact absurd (isOpen.symm.trans closed) Bool.false_ne_true
  | closedBefore free closed => exact .again free closed rfl rfl rfl
  | shut free isOpen => exact .shut free isOpen rfl rfl rfl rfl rfl
  | drained past => exact .leave _ past rfl rfl rfl
  | drainedPool pool empty =>
    refine .advance _ rfl (fun q there => ?_) rfl rfl
    cases Option.some.inj (pool.symm.trans there)
    exact empty
  | returned | session => exact .finish rfl rfl rfl rfl rfl
  | handOff free isOpen => exact .enter free isOpen rfl isOpen rfl rfl rfl
  | sent | unsent => exact .exit rfl rfl rfl rfl rfl

/-! ## Mutual exclusion and what is left to drain -/

namespace Phase

def drains : Phase → Nat
  | .drain _ => 1
  | _ => 0

/-- One if the phase drains from pool `idx` or an earlier one on. -/
def drainsBefore (idx : Nat) : Phase → Nat
  | .drain own => if own ≤ idx then 1 else 0
  | _ => 0

def sends : Phase → Nat
  | .send => 1
  | _ => 0

def finishes : Phase → Nat
  | .past => 1
  | _ => 0

end Phase

def drainers (w : World Shared Goroutine) : Nat := tally (fun g => g.phase.drains) w.threads

def drainersBefore (idx : Nat) (w : World Shared Goroutine) : Nat :=
  tally (fun g => g.phase.drainsBefore idx) w.threads

def senders (w : World Shared Goroutine) : Nat := tally (fun g => g.phase.sends) w.threads

def finishers (w : World Shared Goroutine) : Nat := tally (fun g => g.phase.finishes) w.threads

/-- `mu` has at most one holder; a drain happens in a closed client and a
hand-off in an open one; what is idle in a closed client is ahead of the
drain; and once a call of `Close` is past its drain, nobody drains. -/
structure Gate (w : World Shared Goroutine) : Prop where
  held : drainers w + senders w = if w.shared.locked then 1 else 0
  drainsClosed : 0 < drainers w → w.shared.closed = true
  sendsOpen : 0 < senders w → w.shared.closed = false
  ahead : w.shared.closed = true → ∀ (idx : Nat) (p : EndpointPool),
    w.shared.pools[idx]? = some p → p.idle ≠ [] → 0 < drainersBefore idx w
  past : 0 < finishers w → w.shared.closed = true ∧ drainers w = 0
  returned : w.shared.closeReturned = true → w.shared.closed = true ∧ drainers w = 0

section Holders
variable {w : World Shared Goroutine} {g : Goroutine} {i : Nat}

theorem Gate.of_drain (gate : Gate w) (found : w.threads[i]? = some g)
    (phase : g.phase = .drain own) : w.shared.locked = true ∧ w.shared.closed = true ∧
      drainers w = 1 ∧ senders w = 0 := by
  have counted : g.phase.drains ≤ drainers w :=
    le_tally (fun g => g.phase.drains) found
  rw [phase] at counted
  replace counted : 0 < drainers w := counted
  have held := gate.held
  split at held
  · next locked =>
    exact ⟨locked, gate.drainsClosed counted, by omega, by omega⟩
  · omega

theorem Gate.of_send (gate : Gate w) (found : w.threads[i]? = some g)
    (phase : g.phase = .send) : w.shared.locked = true ∧ w.shared.closed = false ∧
      drainers w = 0 ∧ senders w = 1 := by
  have counted : g.phase.sends ≤ senders w :=
    le_tally (fun g => g.phase.sends) found
  rw [phase] at counted
  replace counted : 0 < senders w := counted
  have held := gate.held
  split at held
  · next locked =>
    exact ⟨locked, gate.sendsOpen counted, by omega, by omega⟩
  · omega

theorem Gate.of_past (gate : Gate w) (found : w.threads[i]? = some g)
    (phase : g.phase = .past) : w.shared.closed = true ∧ drainers w = 0 := by
  have counted : g.phase.finishes ≤ finishers w :=
    le_tally (fun g => g.phase.finishes) found
  rw [phase] at counted
  exact gate.past counted

theorem Gate.of_free (gate : Gate w) (free : w.shared.locked = false) :
    drainers w = 0 ∧ senders w = 0 := by
  have held := gate.held
  rw [free, if_neg Bool.false_ne_true] at held
  omega

/-- In an open client no call of `Close` is past its drain. -/
theorem Gate.of_open (gate : Gate w) (isOpen : w.shared.closed = false) :
    finishers w = 0 ∧ w.shared.closeReturned = false := by
  have notClosed : w.shared.closed ≠ true := Bool.eq_false_iff.mp isOpen
  refine ⟨Nat.eq_zero_of_not_pos fun finishing => notClosed (gate.past finishing).1, ?_⟩
  exact Bool.eq_false_iff.mpr fun returned => notClosed (gate.returned returned).1

end Holders

section Moves
variable {w after : World Shared Goroutine}

/-- A step after which as many goroutines hold `mu` as before keeps the gate, if what is
idle is still ahead of the drain and nobody gets past one too early. -/
private theorem Gate.of_same_holders (gate : Gate w) (locked : after.shared.locked = w.shared.locked)
    (closed : after.shared.closed = w.shared.closed) (drain : drainers after = drainers w)
    (send : senders after = senders w)
    (ahead : w.shared.closed = true → ∀ (idx : Nat) (p : EndpointPool),
      after.shared.pools[idx]? = some p → p.idle ≠ [] → 0 < drainersBefore idx after)
    (past : 0 < finishers after ∨ after.shared.closeReturned = true →
      w.shared.closed = true ∧ drainers w = 0) : Gate after := by
  rw [← closed] at ahead
  rw [← closed, ← drain] at past
  refine ⟨?_, ?_, ?_, ahead, fun finishing => past (.inl finishing),
    fun returned => past (.inr returned)⟩
  · rw [drain, send, locked, gate.held]
  · rw [drain, closed]
    exact gate.drainsClosed
  · rw [send, closed]
    exact gate.sendsOpen

/-- A closed client has its gate if `mu` is free. -/
private theorem gate_of_closed (closed : after.shared.closed = true)
    (free : after.shared.locked = false) (noDrain : drainers after = 0) (noSend : senders after = 0)
    (ahead : ∀ (idx : Nat) (p : EndpointPool),
      after.shared.pools[idx]? = some p → p.idle ≠ [] → 0 < drainersBefore idx after) :
    Gate after := by
  refine ⟨?_, fun _ => closed, ?_, fun _ => ahead, fun _ => ⟨closed, noDrain⟩,
    fun _ => ⟨closed, noDrain⟩⟩
  · rw [free, if_neg Bool.false_ne_true]
    omega
  · intro sending
    omega

/-- An open client has its gate if nobody drains it or is past a drain. -/
private theorem gate_of_open (isOpen : after.shared.closed = false)
    (held : senders after = if after.shared.locked then 1 else 0) (noDrain : drainers after = 0)
    (noFinish : finishers after = 0) (notReturned : after.shared.closeReturned = false) :
    Gate after := by
  refine ⟨?_, ?_, fun _ => isOpen, ?_, ?_, ?_⟩
  · rw [noDrain, Nat.zero_add, held]
  · intro draining
    omega
  · rw [isOpen]
    exact fun impossible => absurd impossible Bool.false_ne_true
  · intro finishing
    omega
  · rw [notReturned]
    exact fun impossible => absurd impossible Bool.false_ne_true

theorem gate_step (gate : Gate w) (found : w.threads[i]? = some g)
    (set : after.threads = w.threads.set i g') (passage : Passage w.shared g after.shared g') :
    Gate after := by
  have drain : drainers after + g.phase.drains = drainers w + g'.phase.drains :=
    tally_moved _ found set
  have send : senders after + g.phase.sends = senders w + g'.phase.sends :=
    tally_moved _ found set
  have finish : finishers after + g.phase.finishes = finishers w + g'.phase.finishes :=
    tally_moved _ found set
  have before (idx : Nat) : drainersBefore idx after + g.phase.drainsBefore idx =
      drainersBefore idx w + g'.phase.drainsBefore idx := tally_moved _ found set
  cases passage with
  | stay locked closed hasReturned phase idle =>
    simp only [phase, Nat.add_right_cancel_iff] at drain send finish before
    refine gate.of_same_holders locked closed drain send ?_ ?_
    · intro isClosed idx p' pool' filled
      obtain ⟨p, pool, wasFilled⟩ := idle isClosed idx p' pool' filled
      rw [before]
      exact gate.ahead isClosed idx p pool wasFilled
    · rw [finish, hasReturned]
      exact fun ends => ends.elim gate.past gate.returned
  | shut free isOpen locked closed hasReturned old new =>
    obtain ⟨noDrain, noSend⟩ := gate.of_free free
    obtain ⟨noFinish, notReturned⟩ := gate.of_open isOpen
    simp only [old, new, Phase.drains, Phase.sends, Phase.finishes] at drain send finish
    simp only [old, new, Phase.drainsBefore] at before
    refine ⟨?_, fun _ => closed, ?_, ?_, ?_, ?_⟩
    · rw [locked, if_pos rfl]
      omega
    · intro sending
      omega
    · intro _ idx p pool filled
      have moved := before idx
      rw [if_pos (Nat.zero_le idx)] at moved
      omega
    · intro finishing
      omega
    · rw [hasReturned, notReturned]
      exact fun impossible => absurd impossible Bool.false_ne_true
  | advance own same empty old new =>
    simp only [old, new, Phase.drains, Phase.sends, Phase.finishes, Phase.drainsBefore,
      Nat.add_zero, Nat.add_right_cancel_iff] at drain send finish before
    refine gate.of_same_holders (by rw [same]) (by rw [same]) drain send ?_ ?_
    · rw [same]
      intro isClosed idx p pool filled
      have elsewhere : own ≠ idx := by
        rintro rfl
        exact filled (empty p pool)
      have positive := gate.ahead isClosed idx p pool filled
      have moved := before idx
      split at moved <;> split at moved <;> omega
    · rw [finish, same]
      exact fun ends => ends.elim gate.past gate.returned
  | leave own done same old new =>
    obtain ⟨-, isClosed, oneDrain, noSend⟩ := gate.of_drain found old
    simp only [old, new, Phase.drains, Phase.sends] at drain send
    simp only [old, new, Phase.drainsBefore] at before
    refine gate_of_closed (by rw [same]; exact isClosed) (by rw [same]) (by omega) (by omega) ?_
    rw [same]
    intro idx p pool filled
    have beyond : w.shared.pools.length ≤ own := List.getElem?_eq_none_iff.mp done
    have inside : idx < w.shared.pools.length := (List.getElem?_eq_some_iff.mp pool).1
    have positive := gate.ahead isClosed idx p pool filled
    have moved := before idx
    rw [if_neg (by omega)] at moved
    omega
  | again free closed same old new =>
    obtain ⟨noDrain, noSend⟩ := gate.of_free free
    simp only [old, new, Phase.drains, Phase.sends, Phase.drainsBefore] at drain send before
    refine gate_of_closed (by rw [same]; exact closed) (by rw [same]; exact free) (by omega)
      (by omega) ?_
    rw [same]
    intro idx p pool filled
    have positive := gate.ahead closed idx p pool filled
    have moved := before idx
    omega
  | enter free isOpen locked closed hasReturned old new =>
    obtain ⟨noDrain, noSend⟩ := gate.of_free free
    obtain ⟨noFinish, notReturned⟩ := gate.of_open isOpen
    simp only [old, new, Phase.drains, Phase.sends, Phase.finishes] at drain send finish
    refine gate_of_open closed ?_ (by omega) (by omega) (hasReturned.trans notReturned)
    rw [locked, if_pos rfl]
    omega
  | exit locked closed hasReturned old new =>
    obtain ⟨-, isOpen, noDrain, oneSend⟩ := gate.of_send found old
    obtain ⟨noFinish, notReturned⟩ := gate.of_open isOpen
    simp only [old, new, Phase.drains, Phase.sends, Phase.finishes] at drain send finish
    refine gate_of_open (closed.trans isOpen) ?_ (by omega) (by omega)
      (hasReturned.trans notReturned)
    rw [locked, if_neg Bool.false_ne_true]
    omega
  | finish locked closed pools old new =>
    simp only [old, new, Phase.drains, Phase.sends, Nat.add_zero] at drain send
    simp only [old, new, Phase.drainsBefore, Nat.add_zero] at before
    refine gate.of_same_holders locked closed drain send ?_ fun _ => gate.of_past found old
    rw [pools]
    intro wasClosed idx p pool filled
    rw [before]
    exact gate.ahead wasClosed idx p pool filled

end Moves

end HmsClient.Pool
