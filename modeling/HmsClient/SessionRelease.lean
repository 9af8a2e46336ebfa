import HmsClient.PoolProofs

/-! When `Close` releases the Kerberos session that dials read. `Errand` lists what a
step does about dials, the probe and the one call of `Close` that does the closing. From
it follows that the release comes after every `newConn` call has returned, that no such
call starts later, and that there is one release. -/
namespace HmsClient.Pool

open Interleaving

/-- One atomic operation of one goroutine of the client, in which `probeCooling` is only
called by `recoveryProbe`. -/
def clientStep (cfg : Config) (s : Shared) : Goroutine → Choice → Option (Shared × Goroutine)
  | .rest, .probe _ => none
  | g, choice => step cfg s g choice

/-- Whether a goroutine is inside `newConn`, called by `acquire` or by `probeCooling`. -/
def Goroutine.inNewConn : Goroutine → Bool
  | .acquiring _ .dial | .probing _ (.dial _) => true
  | _ => false

/-- What a goroutine is to the session: nothing; a registered dial; the recovery probe,
or a probe from outside it; or the closing call, before it has waited for the probe,
while it waits for dials, and when it is about to release the session. -/
inductive Role where
  | none
  | dialing
  | probe
  | stray
  | closing
  | awaiting
  | releasing
  deriving DecidableEq

def Goroutine.role : Goroutine → Role
  | .acquiring _ .dial | .acquiring _ (.dialed _) => .dialing
  | .probeLoop => .probe
  | .probing sweep _ => if sweep.looping then .probe else .stray
  | .closing (.drain _) | .closing (.drainClose _ _) | .closing (.drainCount _)
  | .closing .cancel | .closing (.awaitProbe true) => .closing
  | .closing .awaitDials => .awaiting
  | .closing .session => .releasing
  | _ => .none

/-- Steps that leave alone what the release depends on. -/
structure Unmoved (s s' : Shared) : Prop where
  closed : s'.closed = s.closed
  dials : s'.inFlightDials = s.inFlightDials
  probeDone : s'.probeDone = s.probeDone
  sessionCloses : s'.sessionCloses = s.sessionCloses

/-- What a step does about dials, the probe and the release of the session. -/
inductive Errand (s : Shared) (g : Goroutine) (s' : Shared) (g' : Goroutine) : Prop where
  | other (same : Unmoved s s') (role : g'.role = g.role)
  | begin (isOpen : s.closed = false) (same : s' = { s with inFlightDials := s.inFlightDials + 1 })
      (before : g.role = .none) (after : g'.role = .dialing)
  | finish (same : s' = { s with inFlightDials := s.inFlightDials - 1 })
      (before : g.role = .dialing) (after : g'.role = .none)
  | shut (isOpen : s.closed = false) (same : s' = { s with locked := true, closed := true })
      (before : g.role = .none) (after : g'.role = .closing)
  | probed (done : s.probeDone = true) (same : s' = s)
      (before : g.role = .closing) (after : g'.role = .awaiting)
  | drained (none : s.inFlightDials = 0) (same : s' = s)
      (before : g.role = .awaiting) (after : g'.role = .releasing)
  | release (same : s' = { s with sessionCloses := s.sessionCloses + 1, closeReturned := true })
      (before : g.role = .releasing) (after : g'.role = .none)
  | exit (same : s' = { s with probeDone := true })
      (before : g.role = .probe) (after : g'.role = .none)

private theorem probe_role {sweep : Sweep} (looping : sweep.looping = true) (position : Probe) :
    (Goroutine.probing sweep position).role = .probe := if_pos looping

private theorem step_errand (inside : g.role ≠ .stray)
    (moved : clientStep cfg s g choice = some (s', g')) : Errand s g s' g' := by
  have moved' : step cfg s g choice = some (s', g') := by
    cases g with
    | rest =>
      cases choice with
      | probe => cases moved
      | _ => exact moved
    | _ => exact moved
  cases step_move moved' with
  | probe => cases moved
  | acquire | close | refused | admitted | noneIdle | polled | atLimit | below | swapped | outrun
  | tooLate | dialed | undialed | undone | received | woken | expired | release | discard
  | releasedLate | released | unwanted | closed | uncounted | closedBefore | drained | drainedPool
  | drain | drainClosed | drainCounted | cancel | returned | tick | next | probeDialed
  | probeUndialed | alive | dead | rejected | handOffLate | handOff | sent | unsent | fullClosed
  | fullUncounted => exact .other ⟨rfl, rfl, rfl, rfl⟩ rfl
  | swept _ looping => exact .other ⟨rfl, rfl, rfl, rfl⟩ (probe_role looping _).symm
  | probed _ alone => exact absurd (if_neg (by simp [alone])) inside
  | register _ isOpen => exact .begin isOpen rfl rfl rfl
  | connected | unconnected => exact .finish rfl rfl rfl
  | shut _ isOpen => exact .shut isOpen rfl rfl rfl
  | probeAwaited done => exact .probed done rfl rfl rfl
  | dialsAwaited none => exact .drained none rfl rfl rfl
  | session => exact .release rfl rfl rfl
  | exit => exact .exit rfl rfl rfl

/-! ## Custody of the session -/

/-- One if the goroutine has the role. -/
def plays (role : Role) (g : Goroutine) : Nat := if g.role = role then 1 else 0

/-- How many goroutines have a role. -/
def count (role : Role) (w : World Shared Goroutine) : Nat := tally (plays role) w.threads

/-- What every run keeps: the wait group counts the dials, the probe runs until it is
done, the closing call is one, and past its waits there is nobody left to wait for. -/
structure Custody (w : World Shared Goroutine) : Prop where
  inside : count .stray w = 0
  dials : w.shared.inFlightDials = count .dialing w
  probe : count .probe w + (if w.shared.probeDone then 1 else 0) = 1
  closer : count .closing w + count .awaiting w + count .releasing w + w.shared.sessionCloses =
    if w.shared.closed then 1 else 0
  awaits : 0 < count .awaiting w → w.shared.probeDone = true
  releases : 0 < count .releasing w + w.shared.sessionCloses →
    w.shared.probeDone = true ∧ w.shared.inFlightDials = 0

private theorem count_moved {w after : World Shared Goroutine} (role : Role)
    (found : w.threads[i]? = some g) (set : after.threads = w.threads.set i g') :
    count role after + plays role g = count role w + plays role g' :=
  tally_moved (plays role) found set

section Move

variable {w after : World Shared Goroutine} (found : w.threads[i]? = some g)
  (set : after.threads = w.threads.set i g') (errand : Errand w.shared g after.shared g')

include found set errand

private theorem stray_move (inside : count .stray w = 0) : count .stray after = 0 := by
  have strays := count_moved .stray found set
  cases errand
  case other same role =>
    simp only [plays, role, Nat.add_right_cancel_iff] at strays
    rw [strays, inside]
  case begin _ same before later | finish same before later | shut _ same before later
    | probed _ same before later | drained _ same before later | release same before later
    | exit same before later =>
    simp [plays, before, later] at strays
    rw [strays, inside]

private theorem dials_move (dials : w.shared.inFlightDials = count .dialing w) :
    after.shared.inFlightDials = count .dialing after := by
  have dialing := count_moved .dialing found set
  cases errand
  case other same role =>
    simp only [plays, role, Nat.add_right_cancel_iff] at dialing
    rw [same.dials, dialing, dials]
  case begin _ same before later | finish same before later | shut _ same before later
    | probed _ same before later | drained _ same before later | release same before later
    | exit same before later =>
    simp [plays, before, later] at dialing
    simp only [same]
    omega

private theorem probe_move (probe : count .probe w + (if w.shared.probeDone then 1 else 0) = 1) :
    count .probe after + (if after.shared.probeDone then 1 else 0) = 1 := by
  have probing := count_moved .probe found set
  cases errand
  case other same role =>
    simp only [plays, role, Nat.add_right_cancel_iff] at probing
    rw [same.probeDone, probing, probe]
  case exit same before later =>
    simp [plays, before, later] at probing
    simp only [same, if_true]
    split at probe <;> omega
  case begin _ same before later | finish same before later | shut _ same before later
    | probed _ same before later | drained _ same before later | release same before later =>
    simp [plays, before, later] at probing
    simp only [same, probing, probe]

/-- As soon as the client is closed, exactly one call is on its way to closing the session
or has closed it. -/
private theorem closer_move
    (closer : count .closing w + count .awaiting w + count .releasing w + w.shared.sessionCloses =
      if w.shared.closed then 1 else 0) :
    count .closing after + count .awaiting after + count .releasing after +
        after.shared.sessionCloses = if after.shared.closed then 1 else 0 := by
  have closing := count_moved .closing found set
  have awaiting := count_moved .awaiting found set
  have releasing := count_moved .releasing found set
  cases errand
  case other same role =>
    simp only [plays, role, Nat.add_right_cancel_iff] at closing awaiting releasing
    rw [same.closed, same.sessionCloses, closing, awaiting, releasing, closer]
  case shut isOpen same before later =>
    simp [plays, before, later] at closing awaiting releasing
    simp only [isOpen, Bool.false_eq_true, if_false] at closer
    simp only [same, if_true]
    omega
  case begin _ same before later | finish same before later | probed _ same before later
    | drained _ same before later | release same before later | exit same before later =>
    simp [plays, before, later] at closing awaiting releasing
    simp only [same]
    omega

private theorem awaits_move (awaits : 0 < count .awaiting w → w.shared.probeDone = true) :
    0 < count .awaiting after → after.shared.probeDone = true := by
  have awaiting := count_moved .awaiting found set
  cases errand
  case other same role =>
    simp only [plays, role, Nat.add_right_cancel_iff] at awaiting
    rwa [same.probeDone, awaiting]
  case probed done same before later =>
    intro _
    rw [same, done]
  case exit same before later =>
    intro _
    rw [same]
  case begin _ same before later | finish same before later | shut _ same before later
    | drained _ same before later | release same before later =>
    simp [plays, before, later] at awaiting
    simp only [same]
    intro some
    exact awaits (by omega)

/-- Past its waits the closing call has nobody left to wait for. -/
private theorem releases_move (custody : Custody w) :
    0 < count .releasing after + after.shared.sessionCloses →
      after.shared.probeDone = true ∧ after.shared.inFlightDials = 0 := by
  have releasing := count_moved .releasing found set
  have closer := custody.closer
  have releases := custody.releases
  cases errand
  case other same role =>
    simp only [plays, role, Nat.add_right_cancel_iff] at releasing
    rwa [same.probeDone, same.dials, same.sessionCloses, releasing]
  case begin isOpen same before later | shut isOpen same before later =>
    simp [plays, before, later] at releasing
    simp only [isOpen, Bool.false_eq_true, if_false] at closer
    simp only [same]
    omega
  case finish same before later =>
    have dialing : plays .dialing g ≤ count .dialing w := le_tally (plays .dialing) found
    simp [plays, before, later] at releasing dialing
    have dials := custody.dials
    simp only [same]
    intro some
    have none := (releases (by omega)).2
    omega
  case drained none same before later =>
    have awaiting : plays .awaiting g ≤ count .awaiting w := le_tally (plays .awaiting) found
    simp [plays, before] at awaiting
    intro _
    rw [same]
    exact ⟨custody.awaits (by omega), none⟩
  case probed _ same before later | release same before later | exit same before later =>
    simp [plays, before, later] at releasing
    simp only [same]
    intro some
    have past := releases (by omega)
    exact ⟨by simp [past.1], past.2⟩

end Move

private theorem custody_step {w after : World Shared Goroutine} (custody : Custody w)
    (found : w.threads[i]? = some g) (set : after.threads = w.threads.set i g')
    (errand : Errand w.shared g after.shared g') : Custody after where
  inside := stray_move found set errand custody.inside
  dials := dials_move found set errand custody.dials
  probe := probe_move found set errand custody.probe
  closer := closer_move found set errand custody.closer
  awaits := awaits_move found set errand custody.awaits
  releases := releases_move found set errand custody

private theorem count_spawn (role : Role) (other : role ≠ .none) (w : World Shared Goroutine) :
    count role { w with threads := w.threads ++ [.rest] } = count role w := by
  have fresh : plays role .rest = 0 := if_neg (Ne.symm other)
  rw [count, tally_append, tally_cons, tally_nil, fresh]
  rfl

private theorem plays_pos_iff {role : Role} : 0 < plays role g ↔ g.role = role := by
  unfold plays
  split <;> simp_all

private theorem count_eq_zero {role : Role} (none : count role w = 0) (member : g ∈ w.threads) :
    g.role ≠ role := by
  intro same
  have positive := plays_pos_iff.mpr same
  have zero := (tally_eq_zero_iff _ _).mp none g member
  omega

private theorem custody_next (custody : Custody w)
    (moved : next (clientStep cfg) .rest w action = some after) : Custody after := by
  rcases next_cases moved with ⟨-, rfl⟩ | ⟨i, choice, g, g', -, found, stepped, set⟩
  · obtain ⟨inside, dials, probe, closer, awaits, releases⟩ := custody
    have counts := fun role other => count_spawn role other w
    constructor <;> simp (disch := decide) only [counts] <;> assumption
  · have inside : g.role ≠ .stray := count_eq_zero custody.inside (List.mem_of_getElem? found)
    exact custody_step custody found set (step_errand inside stepped)

private theorem custody_start : Custody (start cfg first) :=
  ⟨rfl, rfl, rfl, rfl, fun awaiting => absurd awaiting (Nat.lt_irrefl 0), fun releasing =>
    absurd releasing (Nat.lt_irrefl 0)⟩

private theorem run_custody (ran : run (clientStep cfg) .rest (start cfg first) actions = some w) :
    Custody w :=
  run_preserves (fun _ _ _ custody moved => custody_next custody moved) custody_start ran

/-! ## The release -/

/-- The closing call is about to release the session, or has done so. -/
def Released (w : World Shared Goroutine) : Prop :=
  .closing .session ∈ w.threads ∨ 0 < w.shared.sessionCloses

private theorem released_counts (released : Released w) :
    0 < count .releasing w + w.shared.sessionCloses := by
  rcases released with member | closed
  · have some : count .releasing w ≠ 0 := fun none => count_eq_zero none member rfl
    omega
  · omega

/-- A client past the point where its session is released. -/
private structure Past (w : World Shared Goroutine) : Prop where
  custody : Custody w
  released : 0 < count .releasing w + w.shared.sessionCloses

private theorem past_next (past : Past w)
    (moved : next (clientStep cfg) .rest w action = some after) : Past after := by
  refine ⟨custody_next past.custody moved, ?_⟩
  have released := past.released
  rcases next_cases moved with ⟨-, rfl⟩ | ⟨i, choice, g, g', -, found, stepped, set⟩
  · rw [count_spawn .releasing (by decide) w]
    exact released
  · have inside : g.role ≠ .stray := count_eq_zero past.custody.inside (List.mem_of_getElem? found)
    have releasing := count_moved .releasing found set
    cases step_errand inside stepped
    case other same role =>
      have sessions := same.sessionCloses
      simp only [plays, role, Nat.add_right_cancel_iff] at releasing
      omega
    case begin _ same before later | finish same before later | shut _ same before later
      | probed _ same before later | drained _ same before later | release same before later
      | exit same before later =>
      have sessions := congrArg Shared.sessionCloses same
      simp [plays, before, later] at releasing sessions
      omega

private theorem no_dial_of_past (past : Past w) : ∀ g ∈ w.threads, g.inNewConn = false := by
  obtain ⟨custody, released⟩ := past
  obtain ⟨done, none⟩ := custody.releases released
  have dials : count .dialing w = 0 := custody.dials.symm.trans none
  have probes : count .probe w = 0 := by
    have one := custody.probe
    rw [if_pos done] at one
    omega
  intro g member
  have noDial := count_eq_zero dials member
  have noProbe := count_eq_zero probes member
  have noStray := count_eq_zero custody.inside member
  cases g with
  | acquiring idx position =>
    cases position with
    | dial => exact absurd rfl noDial
    | check | poll | load | swap | recheck | dialed | undo | wait => rfl
  | probing sweep position =>
    simp only [Goroutine.role] at noProbe noStray
    split at noProbe <;> simp_all
  | rest | holding | releasing | discarding | discarded | closing | probeLoop | exited => rfl

private theorem closer_is_closing {g : Goroutine}
    (role : g.role = .closing ∨ g.role = .awaiting ∨ g.role = .releasing) :
    ∃ position, g = .closing position := by
  cases g with
  | closing position => exact ⟨position, rfl⟩
  | acquiring idx position => cases position <;> simp [Goroutine.role] at role
  | probing sweep position =>
    simp only [Goroutine.role] at role
    split at role <;> simp at role
  | rest | holding | releasing | discarding | discarded | probeLoop | exited =>
    simp [Goroutine.role] at role

private theorem closed_by_one (custody : Custody w) (closed : w.shared.closed = true)
    (returned : ∀ position, .closing position ∉ w.threads) : w.shared.sessionCloses = 1 := by
  have gone : ∀ role, role = .closing ∨ role = .awaiting ∨ role = .releasing → count role w = 0 := by
    intro role kind
    refine (tally_eq_zero_iff _ _).mpr fun g member => if_neg fun same => ?_
    obtain ⟨position, rfl⟩ := closer_is_closing (same.symm ▸ kind)
    exact returned position member
  have one := custody.closer
  rw [gone .closing (by simp), gone .awaiting (by simp), gone .releasing (by simp), closed] at one
  simpa using one

/-- **The credentials outlive every dial.** In every state of every run, from the moment
the closing call is about to release the Kerberos session, no goroutine is inside
`newConn`, then and ever after; the session is released once at most, and has been
released once when the client is closed and no call of `Close` is under way. -/
theorem session_outlives_every_dial (cfg : Config) (first : Nat) (actions : List (Action Choice))
    (w : World Shared Goroutine)
    (ran : run (clientStep cfg) .rest (start cfg first) actions = some w) :
    (Released w → ∀ more w', run (clientStep cfg) .rest w more = some w' →
      ∀ g ∈ w'.threads, g.inNewConn = false) ∧
    w.shared.sessionCloses ≤ 1 ∧
    (w.shared.closed = true → (∀ position, .closing position ∉ w.threads) →
      w.shared.sessionCloses = 1) := by
  have custody := run_custody ran
  refine ⟨fun released more w' later => ?_, ?_, closed_by_one custody⟩
  · have past : Past w := ⟨custody, released_counts released⟩
    exact no_dial_of_past (run_preserves (fun _ _ _ past moved => past_next past moved) past later)
  · have one := custody.closer
    split at one <;> omega

/-- A caller holds the first connection and another one dials when the client is closed. -/
private def closedDuringDial : List (Action Choice) :=
  [.spawn, .spawn, .spawn] ++ choosing 1 [.acquire 0, .go, .go] ++
    choosing 2 [.acquire 0, .go, .go, .go, .go, .go] ++
    choosing 3 [.close, .go, .go, .go, .go] ++ [.move 0 .exit, .move 3 .go]

private def dialReturned : World Shared Goroutine where
  shared :=
    { pools := [⟨[], 2⟩], locked := false, closed := true, inFlightDials := 0
      probeCancelled := true, probeDone := true
      dialed := 2, closes := [], sessionCloses := 0, closeReturned := false }
  threads := [.exited, .holding 0 0, .holding 0 1, .closing .session]

/-- The closing call waits for the dial before it gets to the session. -/
theorem close_waits_for_dial :
    (∃ w, run (clientStep (.clamp 1 2)) .rest (start (.clamp 1 2) 0) closedDuringDial = some w ∧
      w.threads[2]? = some (.acquiring 0 .dial) ∧ w.threads[3]? = some (.closing .awaitDials) ∧
      clientStep (.clamp 1 2) w.shared (.closing .awaitDials) .go = none) ∧
    Released dialReturned ∧ ∀ g ∈ dialReturned.threads, g.inNewConn = false := by
  have ran : run (clientStep (.clamp 1 2)) .rest (start (.clamp 1 2) 0)
      (closedDuringDial ++ [.move 2 .succeed, .move 2 .go, .move 3 .go]) = some dialReturned := rfl
  have released : Released dialReturned := .inl (by decide)
  refine ⟨⟨_, rfl, rfl, rfl, rfl⟩, released, ?_⟩
  exact (session_outlives_every_dial (.clamp 1 2) 0 _ _ ran).1 released [] _ rfl

end HmsClient.Pool
