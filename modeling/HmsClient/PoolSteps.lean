import HmsClient.Pool

/-! The steps of a goroutine, one by one. `Move` has a constructor for every way from one
position of the code to the next, with what has to be so for it to be taken; the step
function takes no others. What a step does to connections, to `mu` or to the Kerberos
session is read off this list. -/
namespace HmsClient.Pool

/-- One atomic operation of a goroutine that stands at the first position and gets to the
second one. -/
inductive Move (cfg : Config) (s : Shared) : Goroutine → Choice → Shared → Goroutine → Prop where
  | acquire {idx : Nat} (known : idx < s.pools.length) :
      Move cfg s .rest (.acquire idx) s (.acquiring idx .check)
  | close : Move cfg s .rest .close s (.closing .lock)
  | probe {cooling : List Nat} (known : ∀ idx ∈ cooling, idx < s.pools.length) :
      Move cfg s .rest (.probe cooling) s (.probing ⟨false, cooling⟩ .next)
  -- acquire
  | refused (free : s.locked = false) (closed : s.closed = true) :
      Move cfg s (.acquiring idx .check) .go s .rest
  | admitted (free : s.locked = false) (isOpen : s.closed = false) :
      Move cfg s (.acquiring idx .check) .go s (.acquiring idx .poll)
  | noneIdle {idx : Nat} (pool : s.pools[idx]? = some p) (empty : p.idle = []) :
      Move cfg s (.acquiring idx .poll) .go s (.acquiring idx .load)
  | polled {idx : Nat} (pool : s.pools[idx]? = some p)
      (head : p.idle = cn :: idle) :
      Move cfg s (.acquiring idx .poll) .go (s.receive idx p idle) (.holding idx cn)
  | atLimit {idx : Nat} (pool : s.pools[idx]? = some p)
      (limit : cfg.poolSize ≤ p.live) :
      Move cfg s (.acquiring idx .load) .go s (.acquiring idx .wait)
  | below {idx : Nat} (pool : s.pools[idx]? = some p)
      (room : p.live < cfg.poolSize) :
      Move cfg s (.acquiring idx .load) .go s (.acquiring idx (.swap p.live))
  | swapped {idx : Nat} (pool : s.pools[idx]? = some p) :
      Move cfg s (.acquiring idx (.swap p.live)) .go (s.addLive idx p 1) (.acquiring idx .recheck)
  | outrun {idx : Nat} (pool : s.pools[idx]? = some p)
      (changed : p.live ≠ cur) :
      Move cfg s (.acquiring idx (.swap cur)) .go s (.acquiring idx .load)
  | tooLate (free : s.locked = false) (closed : s.closed = true) :
      Move cfg s (.acquiring idx .recheck) .go s (.acquiring idx .undo)
  | register (free : s.locked = false) (isOpen : s.closed = false) :
      Move cfg s (.acquiring idx .recheck) .go { s with inFlightDials := s.inFlightDials + 1 }
        (.acquiring idx .dial)
  | dialed :
      Move cfg s (.acquiring idx .dial) .succeed s.dial (.acquiring idx (.dialed (some s.dialed)))
  | undialed :
      Move cfg s (.acquiring idx .dial) .fail s (.acquiring idx (.dialed none))
  | connected :
      Move cfg s (.acquiring idx (.dialed (some cn))) .go
        { s with inFlightDials := s.inFlightDials - 1 } (.holding idx cn)
  | unconnected :
      Move cfg s (.acquiring idx (.dialed none)) .go
        { s with inFlightDials := s.inFlightDials - 1 } (.acquiring idx .undo)
  | undone {idx : Nat} (pool : s.pools[idx]? = some p) :
      Move cfg s (.acquiring idx .undo) .go (s.addLive idx p (-1)) .rest
  | received {idx : Nat} (pool : s.pools[idx]? = some p)
      (head : p.idle = cn :: idle) :
      Move cfg s (.acquiring idx .wait) .receive (s.receive idx p idle) (.holding idx cn)
  | woken (closed : s.closed = true) :
      Move cfg s (.acquiring idx .wait) .wake s .rest
  | expired : Move cfg s (.acquiring idx .wait) .expire s .rest
  -- release and discardWith
  | release : Move cfg s (.holding idx cn) .release s (.releasing idx cn)
  | discard : Move cfg s (.holding idx cn) .discard s (.discarding idx cn)
  | releasedLate (free : s.locked = false) (closed : s.closed = true) :
      Move cfg s (.releasing idx cn) .go s (.discarding idx cn)
  | released {idx : Nat} (free : s.locked = false) (isOpen : s.closed = false)
      (pool : s.pools[idx]? = some p) (room : p.idle.length < cfg.poolSize) :
      Move cfg s (.releasing idx cn) .go (s.send idx p cn) .rest
  | unwanted {idx : Nat} (free : s.locked = false) (isOpen : s.closed = false)
      (pool : s.pools[idx]? = some p) (noRoom : cfg.poolSize ≤ p.idle.length) :
      Move cfg s (.releasing idx cn) .go s (.discarding idx cn)
  | closed : Move cfg s (.discarding idx cn) .go (s.close cn) (.discarded idx)
  | uncounted {idx : Nat} (pool : s.pools[idx]? = some p) :
      Move cfg s (.discarded idx) .go (s.addLive idx p (-1)) .rest
  -- Close
  | closedBefore (free : s.locked = false) (closed : s.closed = true) :
      Move cfg s (.closing .lock) .go s (.closing (.awaitProbe false))
  | shut (free : s.locked = false) (isOpen : s.closed = false) :
      Move cfg s (.closing .lock) .go { s with locked := true, closed := true }
        (.closing (.drain 0))
  | drained {idx : Nat} (past : s.pools[idx]? = none) :
      Move cfg s (.closing (.drain idx)) .go { s with locked := false } (.closing .cancel)
  | drainedPool {idx : Nat} (pool : s.pools[idx]? = some p)
      (empty : p.idle = []) :
      Move cfg s (.closing (.drain idx)) .go s (.closing (.drain (idx + 1)))
  | drain {idx : Nat} (pool : s.pools[idx]? = some p)
      (head : p.idle = cn :: idle) :
      Move cfg s (.closing (.drain idx)) .go (s.receive idx p idle) (.closing (.drainClose idx cn))
  | drainClosed :
      Move cfg s (.closing (.drainClose idx cn)) .go (s.close cn) (.closing (.drainCount idx))
  | drainCounted {idx : Nat} (pool : s.pools[idx]? = some p) :
      Move cfg s (.closing (.drainCount idx)) .go (s.addLive idx p (-1)) (.closing (.drain idx))
  | cancel :
      Move cfg s (.closing .cancel) .go { s with probeCancelled := true }
        (.closing (.awaitProbe true))
  | probeAwaited (done : s.probeDone = true) :
      Move cfg s (.closing (.awaitProbe true)) .go s (.closing .awaitDials)
  | returned (done : s.probeDone = true) :
      Move cfg s (.closing (.awaitProbe false)) .go { s with closeReturned := true } .rest
  | dialsAwaited (none : s.inFlightDials = 0) :
      Move cfg s (.closing .awaitDials) .go s (.closing .session)
  | session :
      Move cfg s (.closing .session) .go
        { s with sessionCloses := s.sessionCloses + 1, closeReturned := true } .rest
  -- recoveryProbe and probeCooling
  | tick {cooling : List Nat} (known : ∀ idx ∈ cooling, idx < s.pools.length) :
      Move cfg s .probeLoop (.probe cooling) s (.probing ⟨true, cooling⟩ .next)
  | exit (cancelled : s.probeCancelled = true) :
      Move cfg s .probeLoop .exit { s with probeDone := true } .exited
  | next {sweep : Sweep} {rest : List Nat} (more : sweep.rest = idx :: rest) :
      Move cfg s (.probing sweep .next) .go s (.probing { sweep with rest } (.dial idx))
  | swept {sweep : Sweep} (ended : sweep.rest = []) (looping : sweep.looping = true) :
      Move cfg s (.probing sweep .next) .go s .probeLoop
  | probed {sweep : Sweep} (ended : sweep.rest = []) (alone : sweep.looping = false) :
      Move cfg s (.probing sweep .next) .go s .rest
  | probeDialed :
      Move cfg s (.probing sweep (.dial idx)) .succeed s.dial
        (.probing sweep (.status idx s.dialed))
  | probeUndialed :
      Move cfg s (.probing sweep (.dial idx)) .fail s (.probing sweep .next)
  | alive :
      Move cfg s (.probing sweep (.status idx cn)) .succeed s (.probing sweep (.handOff idx cn))
  | dead :
      Move cfg s (.probing sweep (.status idx cn)) .fail s (.probing sweep (.reject idx cn))
  | rejected :
      Move cfg s (.probing sweep (.reject idx cn)) .go (s.close cn) (.probing sweep .next)
  | handOffLate (free : s.locked = false)
      (closed : s.closed = true) :
      Move cfg s (.probing sweep (.handOff idx cn)) .go s (.probing sweep (.reject idx cn))
  | handOff {idx : Nat} (free : s.locked = false)
      (isOpen : s.closed = false) (pool : s.pools[idx]? = some p) :
      Move cfg s (.probing sweep (.handOff idx cn)) .go { s.addLive idx p 1 with locked := true }
        (.probing sweep (.send idx cn))
  | sent {idx : Nat} (pool : s.pools[idx]? = some p)
      (room : p.idle.length < cfg.poolSize) :
      Move cfg s (.probing sweep (.send idx cn)) .go { s.send idx p cn with locked := false }
        (.probing sweep .next)
  | unsent {idx : Nat} (pool : s.pools[idx]? = some p)
      (noRoom : cfg.poolSize ≤ p.idle.length) :
      Move cfg s (.probing sweep (.send idx cn)) .go { s with locked := false }
        (.probing sweep (.full idx cn))
  | fullClosed :
      Move cfg s (.probing sweep (.full idx cn)) .go (s.close cn) (.probing sweep (.uncount idx))
  | fullUncounted {idx : Nat} (pool : s.pools[idx]? = some p) :
      Move cfg s (.probing sweep (.uncount idx)) .go (s.addLive idx p (-1)) (.probing sweep .next)

/-- A section under `mu` waits until it is free, and then depends on `closed`. -/
private theorem under_mu {s : Shared} {late early : Option (Shared × Goroutine)}
    {reached : Shared × Goroutine}
    (moved : (if s.locked then none else if s.closed then late else early) = some reached) :
    s.locked = false ∧
      (s.closed = true ∧ late = some reached ∨ s.closed = false ∧ early = some reached) := by
  cases free : s.locked with
  | true => simp [free] at moved
  | false =>
    cases closed : s.closed with
    | true => simpa [free, closed] using moved
    | false => simpa [free, closed] using moved

private theorem acquireStep_move (moved : acquireStep cfg s idx position choice = some (s', g')) :
    Move cfg s (.acquiring idx position) choice s' g' := by
  cases position with
  | check =>
    cases choice with
    | go =>
      obtain ⟨free, ⟨closed, moved⟩ | ⟨isOpen, moved⟩⟩ := under_mu moved
      · cases moved
        exact .refused free closed
      · cases moved
        exact .admitted free isOpen
    | _ => cases moved
  | poll =>
    cases choice with
    | go =>
      obtain ⟨p, pool, moved⟩ := Option.bind_eq_some_iff.mp moved
      cases head : p.idle with
      | nil =>
        simp only [head] at moved
        cases moved
        exact .noneIdle pool head
      | cons cn idle =>
        simp only [head] at moved
        cases moved
        exact .polled pool head
    | _ => cases moved
  | load =>
    cases choice with
    | go =>
      obtain ⟨p, pool, moved⟩ := Option.bind_eq_some_iff.mp moved
      by_cases limit : p.live ≥ cfg.poolSize
      · rw [if_pos limit] at moved
        cases moved
        exact .atLimit pool limit
      · rw [if_neg limit] at moved
        cases moved
        exact .below pool (Int.lt_of_not_ge limit)
    | _ => cases moved
  | swap cur =>
    cases choice with
    | go =>
      obtain ⟨p, pool, moved⟩ := Option.bind_eq_some_iff.mp moved
      by_cases same : p.live = cur
      · rw [if_pos same] at moved
        cases moved
        cases same
        exact .swapped pool
      · rw [if_neg same] at moved
        cases moved
        exact .outrun pool same
    | _ => cases moved
  | recheck =>
    cases choice with
    | go =>
      obtain ⟨free, ⟨closed, moved⟩ | ⟨isOpen, moved⟩⟩ := under_mu moved
      · cases moved
        exact .tooLate free closed
      · cases moved
        exact .register free isOpen
    | _ => cases moved
  | dial =>
    cases choice with
    | succeed =>
      cases moved
      exact .dialed
    | fail =>
      cases moved
      exact .undialed
    | _ => cases moved
  | dialed cn =>
    cases choice with
    | go =>
      cases cn with
      | some cn =>
        cases moved
        exact .connected
      | none =>
        cases moved
        exact .unconnected
    | _ => cases cn <;> cases moved
  | undo =>
    cases choice with
    | go =>
      obtain ⟨p, pool, moved⟩ := Option.bind_eq_some_iff.mp moved
      cases moved
      exact .undone pool
    | _ => cases moved
  | wait =>
    cases choice with
    | receive =>
      obtain ⟨p, pool, moved⟩ := Option.bind_eq_some_iff.mp moved
      cases head : p.idle with
      | nil =>
        simp only [head] at moved
        cases moved
      | cons cn idle =>
        simp only [head] at moved
        cases moved
        exact .received pool head
    | wake =>
      cases closed : s.closed with
      | true =>
        simp only [acquireStep, closed, if_true] at moved
        cases moved
        exact .woken closed
      | false =>
        simp only [acquireStep, closed, Bool.false_eq_true, if_false] at moved
        cases moved
    | expire =>
      cases moved
      exact .expired
    | _ => cases moved

private theorem releaseStep_move (moved : releaseStep cfg s idx cn = some (s', g')) :
    Move cfg s (.releasing idx cn) .go s' g' := by
  obtain ⟨free, ⟨closed, moved⟩ | ⟨isOpen, moved⟩⟩ := under_mu moved
  · cases moved
    exact .releasedLate free closed
  · obtain ⟨p, pool, moved⟩ := Option.bind_eq_some_iff.mp moved
    by_cases room : p.idle.length < cfg.poolSize
    · rw [if_pos room] at moved
      cases moved
      exact .released free isOpen pool room
    · rw [if_neg room] at moved
      cases moved
      exact .unwanted free isOpen pool (Nat.le_of_not_lt room)

private theorem closeStep_move (moved : closeStep s position = some (s', g')) :
    Move cfg s (.closing position) .go s' g' := by
  cases position with
  | lock =>
    obtain ⟨free, ⟨closed, moved⟩ | ⟨isOpen, moved⟩⟩ := under_mu moved
    · cases moved
      exact .closedBefore free closed
    · cases moved
      exact .shut free isOpen
  | drain idx =>
    cases pool : s.pools[idx]? with
    | none =>
      simp only [closeStep, pool] at moved
      cases moved
      exact .drained pool
    | some p =>
      cases head : p.idle with
      | nil =>
        simp only [closeStep, pool, head] at moved
        cases moved
        exact .drainedPool pool head
      | cons cn idle =>
        simp only [closeStep, pool, head] at moved
        cases moved
        exact .drain pool head
  | drainClose idx cn =>
    cases moved
    exact .drainClosed
  | drainCount idx =>
    obtain ⟨p, pool, moved⟩ := Option.bind_eq_some_iff.mp moved
    cases moved
    exact .drainCounted pool
  | cancel =>
    cases moved
    exact .cancel
  | awaitProbe first =>
    cases done : s.probeDone with
    | false =>
      simp only [closeStep, done, Bool.false_eq_true, if_false] at moved
      cases moved
    | true =>
      rw [closeStep, if_pos done] at moved
      cases first with
      | true =>
        cases moved
        exact .probeAwaited done
      | false =>
        cases moved
        exact .returned done
  | awaitDials =>
    by_cases none : s.inFlightDials = 0
    · rw [closeStep, if_pos none] at moved
      cases moved
      exact .dialsAwaited none
    · rw [closeStep, if_neg none] at moved
      cases moved
  | session =>
    cases moved
    exact .session

private theorem probeStep_move (moved : probeStep cfg s sweep position choice = some (s', g')) :
    Move cfg s (.probing sweep position) choice s' g' := by
  cases position with
  | next =>
    cases choice with
    | go =>
      cases more : sweep.rest with
      | cons idx rest =>
        simp only [probeStep, more] at moved
        cases moved
        exact .next more
      | nil =>
        simp only [probeStep, more] at moved
        cases moved
        cases looping : sweep.looping with
        | true => exact .swept more looping
        | false => exact .probed more looping
    | _ => cases moved
  | dial idx =>
    cases choice with
    | succeed =>
      cases moved
      exact .probeDialed
    | fail =>
      cases moved
      exact .probeUndialed
    | _ => cases moved
  | status idx cn =>
    cases choice with
    | succeed =>
      cases moved
      exact .alive
    | fail =>
      cases moved
      exact .dead
    | _ => cases moved
  | reject idx cn =>
    cases choice with
    | go =>
      cases moved
      exact .rejected
    | _ => cases moved
  | handOff idx cn =>
    cases choice with
    | go =>
      obtain ⟨free, ⟨closed, moved⟩ | ⟨isOpen, moved⟩⟩ := under_mu moved
      · cases moved
        exact .handOffLate free closed
      · obtain ⟨p, pool, moved⟩ := Option.bind_eq_some_iff.mp moved
        cases moved
        exact .handOff free isOpen pool
    | _ => cases moved
  | send idx cn =>
    cases choice with
    | go =>
      obtain ⟨p, pool, moved⟩ := Option.bind_eq_some_iff.mp moved
      by_cases room : p.idle.length < cfg.poolSize
      · rw [if_pos room] at moved
        cases moved
        exact .sent pool room
      · rw [if_neg room] at moved
        cases moved
        exact .unsent pool (Nat.le_of_not_lt room)
    | _ => cases moved
  | full idx cn =>
    cases choice with
    | go =>
      cases moved
      exact .fullClosed
    | _ => cases moved
  | uncount idx =>
    cases choice with
    | go =>
      obtain ⟨p, pool, moved⟩ := Option.bind_eq_some_iff.mp moved
      cases moved
      exact .fullUncounted pool
    | _ => cases moved

/-- Every step is one of the moves. -/
theorem step_move (moved : step cfg s g choice = some (s', g')) : Move cfg s g choice s' g' := by
  cases g with
  | rest =>
    cases choice with
    | acquire idx =>
      by_cases known : idx < s.pools.length
      · rw [step, if_pos known] at moved
        cases moved
        exact .acquire known
      · rw [step, if_neg known] at moved
        cases moved
    | close =>
      cases moved
      exact .close
    | probe cooling =>
      by_cases known : ∀ idx ∈ cooling, idx < s.pools.length
      · rw [step, if_pos known] at moved
        cases moved
        exact .probe known
      · rw [step, if_neg known] at moved
        cases moved
    | _ => cases moved
  | acquiring idx position => exact acquireStep_move moved
  | holding idx cn =>
    cases choice with
    | release =>
      cases moved
      exact .release
    | discard =>
      cases moved
      exact .discard
    | _ => cases moved
  | releasing idx cn =>
    cases choice with
    | go => exact releaseStep_move moved
    | _ => cases moved
  | discarding idx cn =>
    cases choice with
    | go =>
      cases moved
      exact .closed
    | _ => cases moved
  | discarded idx =>
    cases choice with
    | go =>
      obtain ⟨p, pool, moved⟩ := Option.bind_eq_some_iff.mp moved
      cases moved
      exact .uncounted pool
    | _ => cases moved
  | closing position =>
    cases choice with
    | go => exact closeStep_move moved
    | _ => cases moved
  | probeLoop =>
    cases choice with
    | probe cooling =>
      by_cases known : ∀ idx ∈ cooling, idx < s.pools.length
      · rw [step, if_pos known] at moved
        cases moved
        exact .tick known
      · rw [step, if_neg known] at moved
        cases moved
    | exit =>
      cases cancelled : s.probeCancelled with
      | true =>
        rw [step, if_pos cancelled] at moved
        cases moved
        exact .exit cancelled
      | false =>
        simp only [step, cancelled, Bool.false_eq_true, if_false] at moved
        cases moved
    | _ => cases moved
  | probing sweep position => exact probeStep_move moved
  | exited => cases choice <;> cases moved

end HmsClient.Pool
