import HmsClient.Interleaving

/-! The Kerberos session that the connections of a client share. `Close` must leave
`Destroy` to the last ticket acquisition still running, which may have outlived the call
that started it. Every critical section, every `sync.Once` and the call of `Destroy` are
steps of their own, and any number of goroutines take them in any order. -/
namespace HmsClient.KerberosSession

open Interleaving

/-- A `sync.Once`: nobody has called `Do`, a caller is inside it, or it is over. -/
inductive Once where
  | fresh
  | running
  | done
  deriving DecidableEq, Repr

/-- The fields of a `KerberosSession` whose initiator has a `Destroy`, with the number of
calls of `Destroy` and whether some call of `Close` has returned. -/
structure Shared where
  once : Once
  closed : Bool
  pending : Int
  destroyOnce : Once
  destroys : Nat
  closeReturned : Bool
  deriving DecidableEq, Repr

/-- A position inside `destroy`: about to call `destroyOnce.Do`, or inside `Destroy`. -/
inductive Destroy where
  | enter
  | running
  deriving DecidableEq, Repr

/-- A position inside `Close`: about to call `once.Do`, about to mark the session closed,
in `destroy`, or about to leave `once.Do`. -/
inductive Close where
  | enter
  | mark
  | destroy (position : Destroy)
  | leave
  deriving DecidableEq, Repr

/-- A position of the goroutine of one ticket acquisition: its call of `begin`, inside
`ServiceTicket`, about to send what came of it, in `end`, and past `end`. -/
inductive Acquisition where
  | begin
  | running
  | deliver
  | finish
  | destroy (position : Destroy)
  | ended
  deriving DecidableEq, Repr

/-- Where a goroutine stands. An acquisition goes on when its caller has returned. -/
inductive Goroutine where
  | rest
  | refused
  | closing (position : Close)
  | acquiring (callerWaits : Bool) (position : Acquisition)
  deriving DecidableEq, Repr

/-- What the scheduler, the KDC and the callers decide. -/
inductive Choice where
  | close
  | acquire
  | go
  | panic
  | abandon
  | collect
  deriving DecidableEq, Repr

/-- `destroy`; the second component is where it stands then, or none if it has returned. -/
def destroyStep (s : Shared) : Destroy → Option (Shared × Option Destroy)
  | .enter =>
    match s.destroyOnce with
    | .fresh => some ({ s with destroyOnce := .running, destroys := s.destroys + 1 }, some .running)
    | .running => none
    | .done => some (s, none)
  | .running => some ({ s with destroyOnce := .done }, none)

def closeStep (s : Shared) : Close → Option (Shared × Goroutine)
  | .enter =>
    match s.once with
    | .fresh => some ({ s with once := .running }, .closing .mark)
    | .running => none
    | .done => some ({ s with closeReturned := true }, .rest)
  | .mark =>
    some ({ s with closed := true },
      .closing (if s.pending = 0 then .destroy .enter else .leave))
  | .destroy position =>
    (destroyStep s position).map fun (s, after) => (s, .closing (after.elim .leave .destroy))
  | .leave => some ({ s with once := .done, closeReturned := true }, .rest)

/-- The goroutine that `serviceTicket` starts, from the call of `begin` on. A panic of
`ServiceTicket` is recovered and sent like any other result. -/
def acquisitionStep (s : Shared) : Acquisition → Choice → Option (Shared × Option Acquisition)
  | .begin, .go =>
    if s.closed then some (s, none) else some ({ s with pending := s.pending + 1 }, some .running)
  | .running, .go | .running, .panic => some (s, some .deliver)
  | .deliver, .go => some (s, some .finish)
  | .finish, .go =>
    let s := { s with pending := s.pending - 1 }
    some (s, some (if s.closed ∧ s.pending = 0 then .destroy .enter else .ended))
  | .destroy position, .go =>
    (destroyStep s position).map fun (s, after) => (s, some (after.elim .ended .destroy))
  | _, _ => none

/-- Whether an acquisition has sent its result, so that its caller may receive it. -/
def Acquisition.delivered : Acquisition → Bool
  | .begin | .running | .deliver => false
  | .finish | .destroy _ | .ended => true

/-- One atomic operation of one goroutine. The caller of an acquisition returns with the
result, or without it when its context is done. -/
def step (s : Shared) : Goroutine → Choice → Option (Shared × Goroutine)
  | .rest, .close => some (s, .closing .enter)
  | .rest, .acquire => some (s, .acquiring true .begin)
  | .refused, .go => some (s, .rest)
  | .closing position, .go => closeStep s position
  | .acquiring true position, .abandon =>
    if position = .begin then none else some (s, .acquiring false position)
  | .acquiring true position, .collect =>
    if position.delivered then some (s, .acquiring false position) else none
  | .acquiring false .ended, .go => some (s, .rest)
  | .acquiring waits position, choice =>
    (acquisitionStep s position choice).map fun (s, after) =>
      (s, after.elim .refused (.acquiring waits))
  | _, _ => none

/-- A session as `NewKerberosSession` returns it. -/
def start : World Shared Goroutine where
  shared := ⟨.fresh, false, 0, .fresh, 0, false⟩
  threads := []

/-! ## What a step can do -/

/-- What a goroutine is to the session: nothing; an acquisition between `begin` and
`end`; the closing call before it has marked the session and when it is about to leave;
or the one that is to destroy the session, which may be either. -/
inductive Standing where
  | none
  | registered
  | marking
  | leaving
  | duty (closer : Bool) (position : Destroy)
  deriving DecidableEq

def Goroutine.standing : Goroutine → Standing
  | .acquiring _ .running | .acquiring _ .deliver | .acquiring _ .finish => .registered
  | .acquiring _ (.destroy position) => .duty false position
  | .closing .mark => .marking
  | .closing (.destroy position) => .duty true position
  | .closing .leave => .leaving
  | _ => .none

/-- Where `destroy` returns to. -/
def Standing.after (closer : Bool) : Standing := if closer then .leaving else .none

/-- What a step does to the session. -/
inductive Turn (s : Shared) (g : Goroutine) (s' : Shared) (g' : Goroutine) : Prop where
  | stay (same : s' = s) (standing : g'.standing = g.standing)
  | begin (isOpen : s.closed = false) (same : s' = { s with pending := s.pending + 1 })
      (before : g.standing = .none) (later : g'.standing = .registered)
  | finish (others : ¬(s.closed = true ∧ s.pending - 1 = 0))
      (same : s' = { s with pending := s.pending - 1 })
      (before : g.standing = .registered) (later : g'.standing = .none)
  | last (isLast : s.closed = true ∧ s.pending - 1 = 0)
      (same : s' = { s with pending := s.pending - 1 })
      (before : g.standing = .registered) (later : g'.standing = .duty false .enter)
  | enter (fresh : s.once = .fresh) (same : s' = { s with once := .running })
      (before : g.standing = .none) (later : g'.standing = .marking)
  | again (done : s.once = .done) (same : s' = { s with closeReturned := true })
      (before : g.standing = .none) (later : g'.standing = .none)
  | mark (idle : s.pending = 0) (same : s' = { s with closed := true })
      (before : g.standing = .marking) (later : g'.standing = .duty true .enter)
  | hand (busy : s.pending ≠ 0) (same : s' = { s with closed := true })
      (before : g.standing = .marking) (later : g'.standing = .leaving)
  | call (closer : Bool) (fresh : s.destroyOnce = .fresh)
      (same : s' = { s with destroyOnce := .running, destroys := s.destroys + 1 })
      (before : g.standing = .duty closer .enter) (later : g'.standing = .duty closer .running)
  | skip (closer : Bool) (done : s.destroyOnce = .done) (same : s' = s)
      (before : g.standing = .duty closer .enter) (later : g'.standing = .after closer)
  | destroyed (closer : Bool) (same : s' = { s with destroyOnce := .done })
      (before : g.standing = .duty closer .running) (later : g'.standing = .after closer)
  | leave (same : s' = { s with once := .done, closeReturned := true })
      (before : g.standing = .leaving) (later : g'.standing = .none)

private theorem stay_of_eq {g₁ : Goroutine} (moved : some (s, g₁) = some (s', g'))
    (standing : g₁.standing = g.standing) : Turn s g s' g' := by
  cases moved
  exact .stay rfl standing

/-- A step of `destroy`, called by the closing call or by the end of an acquisition. -/
private theorem destroyStep_turn {closer : Bool} {position : Destroy} {after : Option Destroy}
    (called : destroyStep s position = some (s', after)) (before : g.standing = .duty closer position)
    (later : g'.standing = after.elim (.after closer) (.duty closer)) : Turn s g s' g' := by
  cases position with
  | enter =>
    cases once : s.destroyOnce with
    | fresh =>
      simp only [destroyStep, once] at called
      cases called
      exact .call closer once rfl before later
    | running =>
      simp only [destroyStep, once] at called
      cases called
    | done =>
      simp only [destroyStep, once] at called
      cases called
      exact .skip closer once rfl before later
  | running =>
    cases called
    exact .destroyed closer rfl before later

private theorem closeStep_turn (moved : closeStep s position = some (s', g')) :
    Turn s (.closing position) s' g' := by
  cases position with
  | enter =>
    cases once : s.once with
    | fresh =>
      simp only [closeStep, once] at moved
      cases moved
      exact .enter once rfl rfl rfl
    | running =>
      simp only [closeStep, once] at moved
      cases moved
    | done =>
      simp only [closeStep, once] at moved
      cases moved
      exact .again once (by rw [once]) rfl rfl
  | mark =>
    cases moved
    by_cases idle : s.pending = 0
    · exact .mark idle rfl rfl (by rw [if_pos idle]; rfl)
    · exact .hand idle rfl rfl (by rw [if_neg idle]; rfl)
  | destroy position =>
    obtain ⟨⟨s₁, after⟩, called, same⟩ := Option.map_eq_some_iff.mp moved
    cases same
    exact destroyStep_turn called rfl (by cases after <;> rfl)
  | leave =>
    cases moved
    exact .leave rfl rfl rfl

private theorem acquisitionStep_turn {waits : Bool}
    (moved : (acquisitionStep s position choice).map (fun (s, after) =>
      (s, after.elim .refused (Goroutine.acquiring waits))) = some (s', g')) :
    Turn s (.acquiring waits position) s' g' := by
  obtain ⟨⟨s₁, after⟩, called, same⟩ := Option.map_eq_some_iff.mp moved
  cases same
  cases position with
  | begin =>
    cases choice with
    | go =>
      cases closed : s.closed with
      | true =>
        simp only [acquisitionStep, closed, if_true] at called
        cases called
        exact .stay rfl rfl
      | false =>
        simp only [acquisitionStep, closed, Bool.false_eq_true, if_false] at called
        cases called
        exact .begin closed (by rw [closed]) rfl rfl
    | close | acquire | panic | abandon | collect => cases called
  | running =>
    cases choice with
    | go | panic =>
      cases called
      exact .stay rfl rfl
    | close | acquire | abandon | collect => cases called
  | deliver =>
    cases choice with
    | go =>
      cases called
      exact .stay rfl rfl
    | close | acquire | panic | abandon | collect => cases called
  | finish =>
    cases choice with
    | go =>
      cases called
      by_cases isLast : s.closed = true ∧ s.pending - 1 = 0
      · exact .last isLast rfl rfl (by rw [if_pos isLast]; rfl)
      · exact .finish isLast rfl rfl (by rw [if_neg isLast]; rfl)
    | close | acquire | panic | abandon | collect => cases called
  | destroy position =>
    cases choice with
    | go =>
      obtain ⟨⟨s₂, last⟩, inside, same⟩ := Option.map_eq_some_iff.mp called
      cases same
      exact destroyStep_turn inside rfl (by cases last <;> rfl)
    | close | acquire | panic | abandon | collect => cases called
  | ended => cases choice <;> cases called

/-- A caller that is gone leaves the acquisition where it stands. -/
private theorem left_turn {waits : Bool} (position : Acquisition) :
    Turn s (.acquiring waits position) s (.acquiring false position) :=
  .stay rfl (by cases position <;> rfl)

private theorem acquiring_turn {waits : Bool}
    (moved : step s (.acquiring waits position) choice = some (s', g')) :
    Turn s (.acquiring waits position) s' g' := by
  cases waits with
  | true =>
    cases choice with
    | abandon =>
      by_cases unstarted : position = .begin
      · rw [step, if_pos unstarted] at moved
        cases moved
      · rw [step, if_neg unstarted] at moved
        cases moved
        exact left_turn position
    | collect =>
      cases delivered : position.delivered with
      | false =>
        simp only [step, delivered, Bool.false_eq_true, if_false] at moved
        cases moved
      | true =>
        simp only [step, delivered, if_true] at moved
        cases moved
        exact left_turn position
    | close | acquire | go | panic => exact acquisitionStep_turn moved
  | false =>
    by_cases atEnd : position = .ended ∧ choice = .go
    · obtain ⟨rfl, rfl⟩ := atEnd
      exact stay_of_eq moved rfl
    · have goesOn : step s (.acquiring false position) choice =
          (acquisitionStep s position choice).map fun (s, after) =>
            (s, after.elim .refused (.acquiring false)) := by
        cases position <;> cases choice <;> first | rfl | exact absurd ⟨rfl, rfl⟩ atEnd
      exact acquisitionStep_turn (goesOn.symm.trans moved)

/-- Every step is one of the turns. -/
private theorem step_turn (moved : step s g choice = some (s', g')) : Turn s g s' g' := by
  cases g with
  | rest =>
    cases choice with
    | close | acquire => exact stay_of_eq moved rfl
    | go | panic | abandon | collect => cases moved
  | refused =>
    cases choice with
    | go => exact stay_of_eq moved rfl
    | close | acquire | panic | abandon | collect => cases moved
  | closing position =>
    cases choice with
    | go => exact closeStep_turn moved
    | close | acquire | panic | abandon | collect => cases moved
  | acquiring waits position => exact acquiring_turn moved

/-! ## What a run keeps -/

/-- One if an acquisition is between `begin` and `end`. -/
def registered (g : Goroutine) : Nat := if g.standing = .registered then 1 else 0

/-- One if a goroutine is to destroy the session. -/
def responsible (g : Goroutine) : Nat :=
  match g.standing with
  | .duty _ _ => 1
  | _ => 0

/-- One if a goroutine is inside `Destroy`. -/
def destroying (g : Goroutine) : Nat :=
  match g.standing with
  | .duty _ .running => 1
  | _ => 0

/-- One if a goroutine is inside `once.Do` and has yet to mark the session closed. -/
def marking (g : Goroutine) : Nat := if g.standing = .marking then 1 else 0

/-- One if a goroutine is inside `once.Do`. -/
def closing (g : Goroutine) : Nat :=
  match g.standing with
  | .marking | .leaving | .duty true _ => 1
  | _ => 0

/-- One if the call inside `Do` has started. -/
def Once.begun (once : Once) : Nat := if once = .fresh then 0 else 1

/-- One if the call inside `Do` is over. -/
def Once.ended (once : Once) : Nat := if once = .done then 1 else 0

/-- What every run keeps. Once the session is closed and no acquisition is registered,
one goroutine has the duty to destroy it, until that is done. -/
structure Sound (w : World Shared Goroutine) : Prop where
  pending : w.shared.pending = tally registered w.threads
  duty : tally responsible w.threads + w.shared.destroyOnce.ended =
    if w.shared.closed = true ∧ w.shared.pending = 0 then 1 else 0
  inside : tally destroying w.threads + w.shared.destroyOnce.ended = w.shared.destroyOnce.begun
  destroys : w.shared.destroys = w.shared.destroyOnce.begun
  marked : tally marking w.threads + (if w.shared.closed then 1 else 0) = w.shared.once.begun
  closers : tally closing w.threads + w.shared.once.ended = w.shared.once.begun
  returned : w.shared.closeReturned = true → w.shared.once = .done

private theorem Once.begun_le_one (once : Once) : once.begun ≤ 1 := by
  unfold Once.begun
  split <;> omega

section Move

variable {w after : World Shared Goroutine} (found : w.threads[i]? = some g)
  (set : after.threads = w.threads.set i g') (turn : Turn w.shared g after.shared g')

include found set turn

private theorem pending_move (pending : w.shared.pending = tally registered w.threads) :
    after.shared.pending = tally registered after.threads := by
  have registers := tally_moved registered found set
  clear found set
  cases turn
  case stay same standing =>
    simp only [registered, standing] at registers
    rw [same]
    omega
  case call closer _ same before later | skip closer _ same before later
    | destroyed closer same before later =>
    cases closer <;>
    · simp [registered, before, later, Standing.after] at registers
      simp only [same]
      omega
  case begin _ same before later | finish _ same before later | last _ same before later
    | enter _ same before later | again _ same before later | mark _ same before later
    | hand _ same before later | leave same before later =>
    simp [registered, before, later] at registers
    simp only [same]
    omega

/-- The goroutines inside `Destroy` agree with `destroyOnce`. -/
private theorem inside_move
    (inside : tally destroying w.threads + w.shared.destroyOnce.ended = w.shared.destroyOnce.begun)
    (destroys : w.shared.destroys = w.shared.destroyOnce.begun) :
    tally destroying after.threads + after.shared.destroyOnce.ended =
        after.shared.destroyOnce.begun ∧
      after.shared.destroys = after.shared.destroyOnce.begun := by
  have destroyers := tally_moved destroying found set
  clear found set
  cases turn
  case stay same standing =>
    simp only [destroying, standing, Nat.add_right_cancel_iff] at destroyers
    rw [same, destroyers]
    exact ⟨inside, destroys⟩
  case call closer fresh same before later =>
    simp [destroying, before, later] at destroyers
    simp [fresh, Once.begun, Once.ended] at inside destroys
    simp [same, Once.begun, Once.ended, destroyers, inside, destroys]
  case skip closer done same before later =>
    cases closer <;>
    · simp [destroying, before, later, Standing.after] at destroyers
      rw [same, destroyers]
      exact ⟨inside, destroys⟩
  case destroyed closer same before later =>
    cases closer <;>
    · simp [destroying, before, later, Standing.after] at destroyers
      simp only [same]
      cases once : w.shared.destroyOnce <;>
        simp [once, Once.begun, Once.ended] at inside destroys ⊢ <;> omega
  case begin _ same before later | finish _ same before later | last _ same before later
    | enter _ same before later | again _ same before later | mark _ same before later
    | hand _ same before later | leave same before later =>
    simp [destroying, before, later] at destroyers
    simp only [same, destroyers]
    exact ⟨inside, destroys⟩

/-- The goroutines inside `once.Do` agree with `once`. -/
private theorem closers_move
    (marked : tally marking w.threads + (if w.shared.closed then 1 else 0) = w.shared.once.begun)
    (closers : tally closing w.threads + w.shared.once.ended = w.shared.once.begun)
    (returned : w.shared.closeReturned = true → w.shared.once = .done) :
    tally marking after.threads + (if after.shared.closed then 1 else 0) =
        after.shared.once.begun ∧
      tally closing after.threads + after.shared.once.ended = after.shared.once.begun ∧
      (after.shared.closeReturned = true → after.shared.once = .done) := by
  have markers := tally_moved marking found set
  have closes := tally_moved closing found set
  clear found set
  cases turn
  case stay same standing =>
    simp only [marking, closing, standing, Nat.add_right_cancel_iff] at markers closes
    rw [same, markers, closes]
    exact ⟨marked, closers, returned⟩
  case enter fresh same before later =>
    simp [marking, closing, before, later] at markers closes
    simp [fresh, Once.begun, Once.ended] at marked closers returned
    simp [same, Once.begun, Once.ended, markers, closes, marked, closers, returned]
  case again done same before later =>
    simp [marking, closing, before, later] at markers closes
    simp only [same, markers, closes]
    exact ⟨marked, closers, fun _ => done⟩
  case mark idle same before later | hand busy same before later =>
    simp [marking, closing, before, later] at markers closes
    simp only [same, closes]
    refine ⟨?_, closers, returned⟩
    have bound := w.shared.once.begun_le_one
    split at marked <;> simp <;> omega
  case leave same before later =>
    simp [marking, closing, before, later] at markers closes
    simp only [same, markers]
    cases once : w.shared.once <;>
      simp [once, Once.begun, Once.ended] at marked closers ⊢ <;> omega
  case call closer _ same before later | skip closer _ same before later
    | destroyed closer same before later =>
    cases closer <;>
    · simp [marking, closing, before, later, Standing.after] at markers closes
      simp only [same, markers, closes]
      exact ⟨marked, closers, returned⟩
  case begin _ same before later | finish _ same before later | last _ same before later =>
    simp [marking, closing, before, later] at markers closes
    simp only [same, markers, closes]
    exact ⟨marked, closers, returned⟩

/-- The duty to destroy the session begins when it is closed and idle. -/
private theorem duty_move
    (pending : w.shared.pending = tally registered w.threads)
    (duty : tally responsible w.threads + w.shared.destroyOnce.ended =
      if w.shared.closed = true ∧ w.shared.pending = 0 then 1 else 0)
    (unmarked : g.standing = .marking → w.shared.closed = false) :
    tally responsible after.threads + after.shared.destroyOnce.ended =
      if after.shared.closed = true ∧ after.shared.pending = 0 then 1 else 0 := by
  have registers := tally_moved registered found set
  have duties := tally_moved responsible found set
  clear found set
  cases turn
  case stay same standing =>
    simp only [responsible, standing, Nat.add_right_cancel_iff] at duties
    rw [same, duties]
    exact duty
  case begin isOpen same before later =>
    simp [responsible, before, later] at duties
    simp [isOpen] at duty
    simp [same, isOpen, duties, duty]
  case finish others same before later =>
    simp [registered, responsible, before, later] at registers duties
    have busy : ¬(w.shared.closed = true ∧ w.shared.pending = 0) := by omega
    rw [if_neg busy] at duty
    simp only [same, duties]
    rw [duty, if_neg others]
  case last isLast same before later =>
    simp [registered, responsible, before, later] at registers duties
    have busy : ¬(w.shared.closed = true ∧ w.shared.pending = 0) := by omega
    rw [if_neg busy] at duty
    simp only [same]
    rw [if_pos isLast]
    omega
  case mark idle same before later =>
    simp [responsible, before, later] at duties
    simp [unmarked before] at duty
    simp [same, idle, duties, duty]
  case hand busy same before later =>
    simp [responsible, before, later] at duties
    simp [unmarked before] at duty
    simp [same, busy, duties, duty]
  case call closer fresh same before later =>
    simp [responsible, before, later] at duties
    simp only [same, duties]
    simpa [fresh, Once.ended] using duty
  case skip closer done same before later =>
    cases closer <;>
    · simp [responsible, before, later, Standing.after] at duties
      simp [done, Once.ended] at duty
      split at duty <;> omega
  case destroyed closer same before later =>
    cases closer <;>
    · simp [responsible, before, later, Standing.after] at duties
      have unended : w.shared.destroyOnce.ended = 0 := by split at duty <;> omega
      simp only [same]
      rw [← duty, unended]
      simp [Once.ended, duties]
  case enter _ same before later | again _ same before later | leave same before later =>
    simp [responsible, before, later] at duties
    simp only [same, duties]
    exact duty

end Move

private theorem sound_move {w after : World Shared Goroutine} (sound : Sound w)
    (found : w.threads[i]? = some g) (set : after.threads = w.threads.set i g')
    (turn : Turn w.shared g after.shared g') : Sound after := by
  have unmarked : g.standing = .marking → w.shared.closed = false := by
    intro standing
    have here := le_tally marking found
    simp only [marking, standing, if_true] at here
    have marked := sound.marked
    have bound := w.shared.once.begun_le_one
    by_contra closed
    simp only [Bool.not_eq_false] at closed
    rw [if_pos closed] at marked
    omega
  obtain ⟨inside, destroys⟩ := inside_move found set turn sound.inside sound.destroys
  obtain ⟨marked, closers, returned⟩ :=
    closers_move found set turn sound.marked sound.closers sound.returned
  exact
    { pending := pending_move found set turn sound.pending
      duty := duty_move found set turn sound.pending sound.duty unmarked
      inside, destroys, marked, closers, returned }

private theorem tally_spawn (measure : Goroutine → Nat) (fresh : measure .rest = 0)
    (threads : List Goroutine) : tally measure (threads ++ [.rest]) = tally measure threads := by
  rw [tally_append, tally_cons, tally_nil, fresh]
  rfl

private theorem sound_next (sound : Sound w) (moved : next step .rest w action = some after) :
    Sound after := by
  rcases next_cases moved with ⟨-, rfl⟩ | ⟨i, choice, g, g', -, found, stepped, set⟩
  · obtain ⟨pending, duty, inside, destroys, marked, closers, returned⟩ := sound
    refine ⟨?_, ?_, ?_, destroys, ?_, ?_, returned⟩
    · rwa [tally_spawn registered rfl]
    · rwa [tally_spawn responsible rfl]
    · rwa [tally_spawn destroying rfl]
    · rwa [tally_spawn marking rfl]
    · rwa [tally_spawn closing rfl]
  · exact sound_move sound found set (step_turn stepped)

private theorem run_sound (ran : run step .rest start actions = some w) : Sound w := by
  refine run_preserves (fun _ _ _ sound moved => sound_next sound moved) ?_ ran
  exact ⟨rfl, rfl, rfl, rfl, rfl, rfl, fun returned => absurd returned Bool.false_ne_true⟩

/-- A session once closed stays closed. -/
private theorem closed_next (closed : w.shared.closed = true)
    (moved : next step .rest w action = some after) : after.shared.closed = true := by
  rcases next_cases moved with ⟨-, rfl⟩ | ⟨i, choice, g, g', -, -, stepped, -⟩
  · exact closed
  · cases step_turn stepped
    case stay same _ => simp [same, closed]
    case begin _ same _ _ | finish _ same _ _ | last _ same _ _ | enter _ same _ _
      | again _ same _ _ | mark _ same _ _ | hand _ same _ _ | call _ _ same _ _
      | skip _ _ same _ _ | destroyed _ same _ _ | leave same _ _ => simp [same, closed]

/-! ## The life of a session -/

/-- Whether an acquisition was started and its `end` has not returned. -/
def Goroutine.unfinished : Goroutine → Bool
  | .acquiring _ .running | .acquiring _ .deliver | .acquiring _ .finish
  | .acquiring _ (.destroy _) => true
  | _ => false

/-- A goroutine that is not in an unfinished acquisition is on duty only as the closer. -/
private theorem standing_of_finished {g : Goroutine} (finished : g.unfinished = false) :
    registered g = 0 ∧ responsible g ≤ closing g := by
  cases g with
  | acquiring waits position =>
    cases position with
    | begin | ended => exact ⟨rfl, Nat.le_refl 0⟩
    | running | deliver | finish | destroy => cases finished
  | closing position => cases position <;> simp [registered, responsible, closing, Goroutine.standing]
  | rest | refused => exact ⟨rfl, Nat.le_refl 0⟩

private theorem not_registered_of_destroyed (sound : Sound w) (begun : 0 < w.shared.destroys) :
    w.shared.closed = true ∧ ∀ g ∈ w.threads, registered g = 0 := by
  have onDuty : tally destroying w.threads ≤ tally responsible w.threads := by
    refine tally_le_tally (fun g => ?_) _
    unfold destroying responsible
    split <;> simp_all
  have inside := sound.inside
  have destroys := sound.destroys
  have duty := sound.duty
  have unused : w.shared.closed = true ∧ w.shared.pending = 0 := by
    by_contra used
    rw [if_neg used] at duty
    omega
  refine ⟨unused.1, (tally_eq_zero_iff _ _).mp ?_⟩
  have pending := sound.pending
  omega

private theorem destroyed_of_finished (sound : Sound w) (returned : w.shared.closeReturned = true)
    (finished : ∀ g ∈ w.threads, g.unfinished = false) :
    w.shared.destroyOnce = .done ∧ w.shared.destroys = 1 := by
  have done := sound.returned returned
  have closers : tally closing w.threads = 0 := by
    have counted := sound.closers
    simp only [done, Once.ended, Once.begun, if_true, reduceCtorEq, if_false] at counted
    omega
  have unmarked : tally marking w.threads ≤ tally closing w.threads := by
    refine tally_le_tally (fun g => ?_) _
    unfold marking closing
    split <;> simp_all
  have closed : w.shared.closed = true := by
    have marked := sound.marked
    by_contra isOpen
    simp [done, Once.begun, isOpen] at marked
    omega
  have unregistered : tally registered w.threads = 0 :=
    (tally_eq_zero_iff _ _).mpr fun g member => (standing_of_finished (finished g member)).1
  have free : tally responsible w.threads = 0 := by
    refine (tally_eq_zero_iff _ _).mpr fun g member => ?_
    have outside := (tally_eq_zero_iff _ _).mp closers g member
    have bound := (standing_of_finished (finished g member)).2
    omega
  have duty := sound.duty
  have pending := sound.pending
  have destroys := sound.destroys
  rw [if_pos ⟨closed, by omega⟩, free] at duty
  have ended : w.shared.destroyOnce = .done := by
    by_contra other
    simp [Once.ended, other] at duty
  exact ⟨ended, by rw [destroys, ended]; rfl⟩

/-- **A session is destroyed once, when nobody uses it.** In every state of every run
`Destroy` has been called once at most, and if so the session was closed by then and no
acquisition is between `begin` and `end`; `begin` refuses from the moment the session is
closed; and when `Close` has returned and every acquisition that was started has ended,
`Destroy` has run exactly once. -/
theorem session_is_destroyed_once (actions : List (Action Choice)) (w : World Shared Goroutine)
    (ran : run step .rest start actions = some w) :
    w.shared.destroys ≤ 1 ∧
    (0 < w.shared.destroys → w.shared.closed = true ∧ ∀ g ∈ w.threads, registered g = 0) ∧
    (w.shared.closed = true → ∀ more w', run step .rest w more = some w' → ∀ waits,
      step w'.shared (.acquiring waits .begin) .go = some (w'.shared, .refused)) ∧
    (w.shared.closeReturned = true → (∀ g ∈ w.threads, g.unfinished = false) →
      w.shared.destroyOnce = .done ∧ w.shared.destroys = 1) := by
  have sound := run_sound ran
  refine ⟨?_, not_registered_of_destroyed sound, ?_, destroyed_of_finished sound⟩
  · rw [sound.destroys]
    exact w.shared.destroyOnce.begun_le_one
  · intro closed more w' later waits
    have still : w'.shared.closed = true :=
      run_preserves (fun _ _ _ closed moved => closed_next closed moved) closed later
    cases waits <;> simp [step, acquisitionStep, still]

/-- An acquisition is abandoned, the session is closed, and then the acquisition ends. -/
private def closedMeanwhile : List (Action Choice) :=
  [.spawn, .spawn, .move 0 .acquire, .move 0 .go, .move 0 .abandon, .move 1 .close, .move 1 .go,
    .move 1 .go, .move 1 .go, .move 0 .panic, .move 0 .go, .move 0 .go, .move 0 .go, .move 0 .go]

/-- The end of the abandoned acquisition destroys the session. -/
theorem abandoned_acquisition_destroys_session :
    ∃ w, run step .rest start closedMeanwhile = some w ∧
      w.threads = [.acquiring false .ended, .rest] ∧ w.shared.destroys = 1 := by
  have ran : run step .rest start closedMeanwhile =
      some ⟨⟨.done, true, 0, .done, 1, true⟩, [.acquiring false .ended, .rest]⟩ := rfl
  refine ⟨_, ran, rfl, ?_⟩
  exact ((session_is_destroyed_once closedMeanwhile _ ran).2.2.2 rfl (by decide)).2

end HmsClient.KerberosSession
