import Mathlib.Data.List.Basic

/-! The deadline of a connection's socket, and the callbacks of `context.AfterFunc` that move
it. One goroutine owns the connection and runs the SASL handshake and then calls, one after
another; contexts are cancelled at any time, and a callback that was launched runs on a
goroutine of its own. A call waits for its callback before it returns; the handshake does
not. -/
namespace HmsClient.DeadlineCallbacks

/-! ## The connection -/

/-- Where `AfterFunc` is called: in `DialBinary` or in `ContextClient.Call`. -/
inductive Site where
  | handshake
  | call
deriving DecidableEq

/-- The callback of one operation. Once launched it moves the deadline and then, in a call,
closes `fired`. -/
inductive Callback where
  | waiting
  | stopped
  | launched
  | moved
  | closed
deriving DecidableEq

/-- `stop`, which does not reach a callback that was launched. -/
def Callback.stop : Callback → Callback
  | .waiting => .stopped
  | cb => cb

/-- The timeouts, and `ctx.Deadline()` of every context. -/
structure Config where
  connectTimeout : Nat
  timeout : Nat
  deadline : Nat → Option Nat

def Config.fallback (conf : Config) : Site → Nat
  | .handshake => conf.connectTimeout
  | .call => conf.timeout

/-- The deadline that an operation works out for itself. -/
def Config.deadlineAt (conf : Config) (site : Site) (ctx clock : Nat) : Option Nat :=
  match conf.deadline ctx with
  | some deadline => some deadline
  | none => if 0 < conf.fallback site then some (clock + conf.fallback site) else none

/-- What the goroutine that owns the connection does next, with the callback of the operation
it is in. -/
inductive Owner where
  | dialed (ctx : Nat)
  | setting (site : Site) (ctx : Nat) (deadline : Option Nat)
  | registering (site : Site) (ctx : Nat) (deadline : Option Nat)
  | io (site : Site) (ctx : Nat) (deadline : Option Nat) (cb : Callback)
  | stopping (site : Site) (ctx : Nat) (ok : Bool) (cb : Callback)
  | waiting (ctx : Nat) (cb : Callback)
  | clearing (ctx : Nat) (ok : Bool) (cb : Callback)
  | returning (ctx : Nat) (ok : Bool) (cb : Callback)
  | idle
  | closed
deriving DecidableEq

namespace Owner

def callback : Owner → Option (Nat × Callback)
  | .io _ ctx _ cb | .stopping _ ctx _ cb | .waiting ctx cb | .clearing ctx _ cb
  | .returning ctx _ cb => some (ctx, cb)
  | .dialed _ | .setting .. | .registering .. | .idle | .closed => none

def withCallback (cb : Callback) : Owner → Owner
  | .io site ctx deadline _ => .io site ctx deadline cb
  | .stopping site ctx ok _ => .stopping site ctx ok cb
  | .waiting ctx _ => .waiting ctx cb
  | .clearing ctx ok _ => .clearing ctx ok cb
  | .returning ctx ok _ => .returning ctx ok cb
  | owner => owner

/-- The handshake has not called `stop` yet. -/
def Handshaking : Owner → Prop
  | .dialed _ | .setting .handshake .. | .registering .handshake .. | .io .handshake ..
  | .stopping .handshake .. => True
  | _ => False

end Owner

/-- `earlier` has the callbacks of the operations that have returned, in their order, each
with its context. -/
structure State where
  clock : Nat
  done : Nat → Bool
  socket : Option Nat
  earlier : List (Nat × Callback)
  owner : Owner

/-- A connection that was dialed, whose handshake has a context if there is one. -/
def fresh (sasl : Option Nat) (clock : Nat) (done : Nat → Bool) : State :=
  ⟨clock, done, none, [], match sasl with | some ctx => .dialed ctx | none => .idle⟩

/-- The callback of the operation under way, or of one that has returned. -/
inductive Who where
  | current
  | earlier (k : Nat)
deriving DecidableEq

namespace State
variable (s : State)

def callback : Who → Option (Nat × Callback)
  | .current => s.owner.callback
  | .earlier k => s.earlier[k]?

def withCallback (ctx : Nat) (cb : Callback) : Who → State
  | .current => { s with owner := s.owner.withCallback cb }
  | .earlier k => { s with earlier := s.earlier.set k (ctx, cb) }

/-- `SetDeadline`, which fails on a connection that was closed. -/
def setDeadline (deadline : Option Nat) : State :=
  { s with socket := if s.owner = .closed then s.socket else deadline }

/-- The operation under way returns. -/
def finish (ctx : Nat) (cb : Callback) (owner : Owner) : State :=
  { s with earlier := s.earlier ++ [(ctx, cb)], owner := owner }

/-- The next step of the owner. `ok` tells how its I/O ended, where that is the step. -/
def proceed (conf : Config) (ok : Bool) : Option State :=
  match s.owner with
  | .dialed ctx =>
    some { s with owner := .setting .handshake ctx (conf.deadlineAt .handshake ctx s.clock) }
  | .setting .handshake ctx none => some { s with owner := .registering .handshake ctx none }
  | .setting site ctx deadline =>
    some { s.setDeadline deadline with owner := .registering site ctx deadline }
  | .registering site ctx deadline =>
    some { s with owner := .io site ctx deadline (if s.done ctx then .launched else .waiting) }
  | .io site ctx _ cb => some { s with owner := .stopping site ctx ok cb }
  | .stopping .call ctx _ .waiting => some (s.finish ctx .stopped .idle)
  | .stopping .call ctx _ cb => some { s with owner := .waiting ctx cb }
  | .waiting ctx .closed => some (s.finish ctx .closed .idle)
  | .waiting _ _ => none
  | .stopping .handshake ctx ok cb => some { s with owner := .clearing ctx ok cb.stop }
  | .clearing ctx ok cb => some { s.setDeadline none with owner := .returning ctx ok cb }
  | .returning ctx ok cb => some (s.finish ctx cb (if ok then .idle else .closed))
  | .idle | .closed => none

end State

inductive Event where
  | tick
  | cancel (ctx : Nat)
  | call (ctx : Nat)
  | proceed (ok : Bool)
  | launch (who : Who)
  | goroutine (who : Who)
deriving DecidableEq

/-- One step of the clock, of a context, of the owner or of a callback. -/
def step (conf : Config) (s : State) : Event → Option State
  | .tick => some { s with clock := s.clock + 1 }
  | .cancel ctx => some { s with done := fun other => s.done other || other = ctx }
  | .call ctx =>
    if s.owner = .idle then
      some { s with owner := .setting .call ctx (conf.deadlineAt .call ctx s.clock) }
    else none
  | .proceed ok => s.proceed conf ok
  | .launch who =>
    match s.callback who with
    | some (ctx, .waiting) => if s.done ctx then some (s.withCallback ctx .launched who) else none
    | _ => none
  | .goroutine who =>
    match s.callback who with
    | some (ctx, .launched) => some ((s.setDeadline (some s.clock)).withCallback ctx .moved who)
    | some (ctx, .moved) => some (s.withCallback ctx .closed who)
    | _ => none

/-- Steps one after another, in any order that is possible. -/
def run (conf : Config) (s : State) (events : List Event) : Option State :=
  events.foldlM (step conf) s

/-! ## Deadlines that stay with their operation -/

/-- A callback moves the socket's deadline to now with its next step. -/
def State.Moves (s : State) (who : Who) : Prop :=
  s.owner ≠ .closed ∧ ∃ ctx, s.callback who = some (ctx, .launched)

/-- No callback of an operation that has returned takes effect, and a call that does I/O is
under its own deadline, or under one that its own callback moved because its context was
cancelled. -/
structure Timely (s : State) : Prop where
  ended (k : Nat) : ¬s.Moves (.earlier k)
  governed {ctx : Nat} {deadline : Option Nat} {cb : Callback} :
    s.owner = .io .call ctx deadline cb →
      s.socket = deadline ∨
        ((cb = .moved ∨ cb = .closed) ∧ s.done ctx = true ∧ ∃ t ≤ s.clock, s.socket = some t)

/-- The handshake calls `stop` after it succeeded, while its callback is running and has not
moved the deadline yet. -/
def CallbackRunning (s : State) : Prop := ∃ ctx, s.owner = .stopping .handshake ctx true .launched

/-- The steps up to the handshake's `stop`, with the states before and after that; none, if
the connection has no handshake. -/
inductive Handover (conf : Config) (clock : Nat) (done : Nat → Bool) :
    Option Nat → List Event → State → State → Prop where
  | plain : Handover conf clock done none [] (fresh none clock done) (fresh none clock done)
  | stops {sasl ctx : Nat} {begun : List Event} {s s' : State} {ok ok' : Bool} {cb : Callback} :
      run conf (fresh (some sasl) clock done) begun = some s →
      s.owner = .stopping .handshake ctx ok cb → step conf s (.proceed ok') = some s' →
      Handover conf clock done (some sasl) (begun ++ [.proceed ok']) s s'

/-! ## One step -/

/-- What a step finds and what it leaves. -/
inductive Moved (conf : Config) (s : State) : Event → State → Prop where
  | tick : Moved conf s .tick { s with clock := s.clock + 1 }
  | cancel (ctx : Nat) :
      Moved conf s (.cancel ctx) { s with done := fun other => s.done other || other = ctx }
  | call (ctx : Nat) : s.owner = .idle → Moved conf s (.call ctx)
      { s with owner := .setting .call ctx (conf.deadlineAt .call ctx s.clock) }
  | dialed {ctx : Nat} {ok : Bool} : s.owner = .dialed ctx → Moved conf s (.proceed ok)
      { s with owner := .setting .handshake ctx (conf.deadlineAt .handshake ctx s.clock) }
  | unset {ctx : Nat} {ok : Bool} : s.owner = .setting .handshake ctx none →
      Moved conf s (.proceed ok) { s with owner := .registering .handshake ctx none }
  | set {site : Site} {ctx : Nat} {deadline : Option Nat} {ok : Bool} :
      s.owner = .setting site ctx deadline → Moved conf s (.proceed ok)
        { s.setDeadline deadline with owner := .registering site ctx deadline }
  | registered {site : Site} {ctx : Nat} {deadline : Option Nat} {ok : Bool} :
      s.owner = .registering site ctx deadline → Moved conf s (.proceed ok)
        { s with owner := .io site ctx deadline (if s.done ctx then .launched else .waiting) }
  | done {site : Site} {ctx : Nat} {deadline : Option Nat} {cb : Callback} {ok : Bool} :
      s.owner = .io site ctx deadline cb → Moved conf s (.proceed ok)
        { s with owner := .stopping site ctx ok cb }
  | stopped {ctx : Nat} {result ok : Bool} : s.owner = .stopping .call ctx result .waiting →
      Moved conf s (.proceed ok) (s.finish ctx .stopped .idle)
  | awaits {ctx : Nat} {result ok : Bool} {cb : Callback} :
      s.owner = .stopping .call ctx result cb →
        Moved conf s (.proceed ok) { s with owner := .waiting ctx cb }
  | awaited {ctx : Nat} {ok : Bool} : s.owner = .waiting ctx .closed →
      Moved conf s (.proceed ok) (s.finish ctx .closed .idle)
  | unawaited {ctx : Nat} {result ok : Bool} {cb : Callback} :
      s.owner = .stopping .handshake ctx result cb →
        Moved conf s (.proceed ok) { s with owner := .clearing ctx result cb.stop }
  | cleared {ctx : Nat} {result ok : Bool} {cb : Callback} : s.owner = .clearing ctx result cb →
      Moved conf s (.proceed ok) { s.setDeadline none with owner := .returning ctx result cb }
  | returned {ctx : Nat} {result ok : Bool} {cb : Callback} : s.owner = .returning ctx result cb →
      Moved conf s (.proceed ok) (s.finish ctx cb (if result then .idle else .closed))
  | launched {who : Who} {ctx : Nat} : s.callback who = some (ctx, .waiting) → s.done ctx = true →
      Moved conf s (.launch who) (s.withCallback ctx .launched who)
  | fired {who : Who} {ctx : Nat} : s.callback who = some (ctx, .launched) →
      Moved conf s (.goroutine who)
        ((s.setDeadline (some s.clock)).withCallback ctx .moved who)
  | closed {who : Who} {ctx : Nat} : s.callback who = some (ctx, .moved) →
      Moved conf s (.goroutine who) (s.withCallback ctx .closed who)

variable {s : State} {ctx clock : Nat} {cb : Callback} {done : Nat → Bool} {sasl : Option Nat}
  {begun : List Event}

private theorem proceed_moved (moved : s.proceed conf ok = some s') :
    Moved conf s (.proceed ok) s' := by
  unfold State.proceed at moved
  split at moved
  all_goals cases moved
  case h_1 owner => exact .dialed owner
  case h_2 owner => exact .unset owner
  case h_3 owner => exact .set owner
  case h_4 owner => exact .registered owner
  case h_5 owner => exact .done owner
  case h_6 owner => exact .stopped owner
  case h_7 owner => exact .awaits owner
  case h_8 owner => exact .awaited owner
  case h_10 owner => exact .unawaited owner
  case h_11 owner => exact .cleared owner
  case h_12 owner => exact .returned owner

theorem step_moved {conf : Config} {s' : State} {event : Event}
    (moved : step conf s event = some s') : Moved conf s event s' := by
  cases event with
  | proceed ok => exact proceed_moved moved
  | tick =>
    cases moved
    exact .tick
  | cancel ctx =>
    cases moved
    exact .cancel ctx
  | call ctx =>
    simp only [step] at moved
    split at moved
    · next idle =>
      cases moved
      exact .call ctx idle
    · cases moved
  | launch who =>
    simp only [step] at moved
    split at moved
    · next found =>
      split at moved
      · next cancelled =>
        cases moved
        exact .launched found cancelled
      · cases moved
    · cases moved
  | goroutine who =>
    simp only [step] at moved
    split at moved
    · next found =>
      cases moved
      exact .fired found
    · next found =>
      cases moved
      exact .closed found
    · cases moved

/-- The callback cannot move the deadline any more. -/
def Callback.Quiet (cb : Callback) : Prop := cb ≠ .waiting ∧ cb ≠ .launched

/-- What the socket's deadline is in a call, by how far its callback has come. -/
def Governs (s : State) (ctx : Nat) (deadline : Option Nat) : Callback → Prop
  | .waiting | .stopped => s.socket = deadline
  | .launched => s.done ctx = true ∧ s.socket = deadline
  | .moved | .closed => s.done ctx = true ∧ ∃ t ≤ s.clock, s.socket = some t

/-- What the state satisfies while the owner is at a position. -/
def Placed (s : State) : Owner → Prop
  | .registering .call _ deadline => s.socket = deadline
  | .io .call ctx deadline cb => Governs s ctx deadline cb
  | .clearing _ true cb | .returning _ true cb => cb.Quiet
  | _ => True

structure Sound (s : State) : Prop where
  quiet : s.owner ≠ .closed → ∀ entry ∈ s.earlier, entry.2.Quiet
  placed : Placed s s.owner

private theorem Sound.timely (sound : Sound s) : Timely s := by
  constructor
  · rintro k ⟨opened, ctx, found⟩
    exact (sound.quiet opened _ (List.mem_of_getElem? found)).2 rfl
  · intro ctx deadline cb doing
    have placed := sound.placed
    rw [doing] at placed
    cases cb with
    | waiting => exact .inl placed
    | stopped => exact .inl placed
    | launched => exact .inl placed.2
    | moved => exact .inr ⟨.inl rfl, placed⟩
    | closed => exact .inr ⟨.inr rfl, placed⟩

variable {conf : Config} {s s' : State} {event : Event}

/-- The clock and the contexts only go forward, and what holds of an owner's place stays. -/
private theorem Placed.later (placed : Placed s owner) (socket : s'.socket = s.socket)
    (clock : s.clock ≤ s'.clock) (done : ∀ ctx, s.done ctx = true → s'.done ctx = true) :
    Placed s' owner := by
  unfold Placed at placed ⊢
  split
  · exact socket.trans placed
  · next ctx deadline cb =>
    cases cb with
    | waiting => exact socket.trans placed
    | stopped => exact socket.trans placed
    | launched => exact ⟨done _ placed.1, socket.trans placed.2⟩
    | moved | closed =>
      obtain ⟨cancelled, t, past, same⟩ := placed
      exact ⟨done _ cancelled, t, Nat.le_trans past clock, socket.trans same⟩
  · exact placed
  · exact placed
  · trivial

private theorem quiet_concat (ended : cb.Quiet) (quiet : ∀ entry ∈ s.earlier, entry.2.Quiet) :
    ∀ entry ∈ s.earlier ++ [(ctx, cb)], entry.2.Quiet := by
  intro entry member
  rcases List.mem_append.mp member with member | member
  · exact quiet entry member
  · rw [List.mem_singleton.mp member]
    exact ended

private theorem closed_quiet : Callback.closed.Quiet := ⟨nofun, nofun⟩

private theorem Callback.stop_quiet (idle : cb ≠ .launched) : cb.stop.Quiet := by
  cases cb <;> first | exact absurd rfl idle | exact ⟨nofun, nofun⟩

/-- The owner takes a step within its operation. -/
private theorem owner_sound (sound : Sound s) (opened : s.owner ≠ .closed)
    (earlier : s'.earlier = s.earlier) (placed : Placed s' s'.owner) : Sound s' :=
  ⟨fun _ => earlier ▸ sound.quiet opened, placed⟩

/-- The owner ends its operation. -/
private theorem finish_sound (sound : Sound s) (opened : s.owner ≠ .closed)
    (ended : owner ≠ .closed → cb.Quiet) (placed : Placed (s.finish ctx cb owner) owner) :
    Sound (s.finish ctx cb owner) :=
  ⟨fun goesOn => quiet_concat (ended goesOn) (sound.quiet opened), placed⟩

private theorem sound_of_closed (closed : s.owner = .closed) : Sound s :=
  ⟨fun opened => absurd closed opened, closed ▸ trivial⟩

/-- A callback of an operation that has returned takes a step, if it can take one. -/
private theorem earlier_sound (sound : Sound s) (found : s.earlier[k]? = some (ctx, cb))
    (ends : cb.Quiet → cb'.Quiet) (set : s'.earlier = s.earlier.set k (ctx, cb'))
    (owner : s'.owner = s.owner) (socket : cb.Quiet → s' = s.withCallback ctx cb' (.earlier k)) :
    Sound s' := by
  by_cases closed : s.owner = .closed
  · exact sound_of_closed (owner.trans closed)
  have settled := sound.quiet closed _ (List.mem_of_getElem? found)
  constructor
  · intro _ entry member
    rw [set] at member
    rcases List.mem_or_eq_of_mem_set member with member | rfl
    · exact sound.quiet closed entry member
    · exact ends settled
  · rw [socket settled]
    exact sound.placed.later rfl (Nat.le_refl _) fun _ done => done

/-- The callback of the operation under way takes a step. -/
private theorem current_sound (sound : Sound s) (found : s.owner.callback = some (ctx, cb))
    (earlier : s'.earlier = s.earlier) (owner : s'.owner = s.owner.withCallback cb')
    (ends : cb.Quiet → cb'.Quiet)
    (governs : ∀ deadline, Governs s ctx deadline cb → Governs s' ctx deadline cb') : Sound s' := by
  obtain ⟨quiet, placed⟩ := sound
  have opened : s.owner ≠ .closed := by rintro closed; rw [closed] at found; cases found
  refine ⟨fun _ => earlier ▸ quiet opened, ?_⟩
  rw [owner]
  cases place : s.owner with
  | io site ctx deadline cb =>
    rw [place] at found placed
    cases found
    cases site with
    | handshake => trivial
    | call => exact governs deadline placed
  | stopping => trivial
  | waiting => trivial
  | clearing ctx ok cb =>
    rw [place] at found placed
    cases found
    cases ok with
    | false => trivial
    | true => exact ends placed
  | returning ctx ok cb =>
    rw [place] at found placed
    cases found
    cases ok with
    | false => trivial
    | true => exact ends placed
  | _ => rw [place] at found; cases found

private theorem step_sound (sound : Sound s)
    (calm : CallbackRunning s → ∀ ok, event ≠ .proceed ok) (moved : step conf s event = some s') :
    Sound s' := by
  have placed := sound.placed
  cases step_moved moved with
  | tick => exact ⟨sound.quiet, placed.later rfl (Nat.le_succ _) fun _ done => done⟩
  | cancel => exact ⟨sound.quiet, placed.later rfl (Nat.le_refl _) fun _ done => by simp [done]⟩
  | call _ owner | dialed owner | unset owner | done owner | awaits owner =>
    exact owner_sound sound (owner ▸ nofun) rfl trivial
  | @set site _ _ _ owner =>
    refine owner_sound sound (owner ▸ nofun) rfl ?_
    cases site with
    | handshake => trivial
    | call => exact if_neg (owner ▸ nofun)
  | @registered site ctx deadline _ owner =>
    refine owner_sound sound (owner ▸ nofun) rfl ?_
    rw [owner] at placed
    cases site with
    | handshake => trivial
    | call =>
      show Governs _ ctx deadline (if s.done ctx = true then .launched else .waiting)
      split
      · next cancelled => exact ⟨cancelled, placed⟩
      · exact placed
  | stopped owner | awaited owner =>
    exact finish_sound sound (owner ▸ nofun) (fun _ => ⟨nofun, nofun⟩) trivial
  | @unawaited ctx result _ _ owner =>
    refine owner_sound sound (owner ▸ nofun) rfl ?_
    cases result with
    | false => trivial
    | true =>
      -- the callback is not running, so `stop` settles it
      exact Callback.stop_quiet fun running => calm ⟨ctx, running ▸ owner⟩ _ rfl
  | @cleared _ result _ _ owner =>
    refine owner_sound sound (owner ▸ nofun) rfl ?_
    rw [owner] at placed
    cases result with
    | false => trivial
    | true => exact placed
  | @returned _ result _ _ owner =>
    rw [owner] at placed
    cases result with
    | false => exact finish_sound sound (owner ▸ nofun) (fun goesOn => absurd rfl goesOn) trivial
    | true => exact finish_sound sound (owner ▸ nofun) (fun _ => placed) trivial
  | @launched who _ found cancelled =>
    cases who with
    | current =>
      exact current_sound sound found rfl rfl (fun quiet => absurd rfl quiet.1)
        fun _ placed => ⟨cancelled, placed⟩
    | earlier k =>
      exact earlier_sound sound found (fun quiet => absurd rfl quiet.1) rfl rfl fun _ => rfl
  | @fired who _ found =>
    cases who with
    | current =>
      refine current_sound sound found rfl rfl (fun quiet => absurd rfl quiet.2) ?_
      rintro deadline ⟨cancelled, -⟩
      have opened : s.owner ≠ .closed := by
        rintro closed
        rw [State.callback, closed] at found
        cases found
      exact ⟨cancelled, s.clock, Nat.le_refl _, if_neg opened⟩
    | earlier k =>
      exact earlier_sound sound found (fun quiet => absurd rfl quiet.2) rfl rfl
        fun quiet => absurd rfl quiet.2
  | @closed who _ found =>
    cases who with
    | current =>
      exact current_sound sound found rfl rfl (fun _ => closed_quiet) fun _ placed => placed
    | earlier k =>
      exact earlier_sound sound found (fun _ => closed_quiet) rfl rfl fun _ => rfl

/-! ## Runs -/

private theorem withCallback_opened (opened : ¬s.owner.Handshaking) :
    ¬(s.withCallback ctx cb who).owner.Handshaking := by
  cases who with
  | earlier k => exact opened
  | current =>
    rw [State.withCallback]
    cases owner : s.owner with
    | io site | stopping site =>
      rw [owner] at opened
      cases site with
      | handshake => exact opened
      | call => exact id
    | _ =>
      rw [owner] at opened
      exact opened

private theorem step_opened (opened : ¬s.owner.Handshaking) (moved : step conf s event = some s') :
    ¬s'.owner.Handshaking := by
  cases step_moved moved with
  | tick | cancel => exact opened
  | call | stopped | awaits | awaited | unawaited | cleared => exact id
  | dialed owner | unset owner => exact absurd (owner ▸ trivial) opened
  | @set site _ _ _ owner | @registered site _ _ _ owner | @done site _ _ _ _ owner =>
    cases site with
    | handshake => exact absurd (owner ▸ trivial) opened
    | call => exact id
  | @returned _ result => cases result <;> exact id
  | launched | fired | closed => exact withCallback_opened opened

private theorem stop_handshake (stopping : s.owner = .stopping .handshake ctx result cb)
    (moved : step conf s (.proceed ok) = some s') :
    s' = { s with owner := .clearing ctx result cb.stop } := by
  rw [step, State.proceed, stopping] at moved
  exact (Option.some.inj moved).symm

private theorem run_cons (conf : Config) (s : State) (event : Event) (events : List Event) :
    run conf s (event :: events) = (step conf s event).bind (run conf · events) :=
  List.foldlM_cons

private theorem run_append (conf : Config) (s : State) (front back : List Event) :
    run conf s (front ++ back) = (run conf s front).bind (run conf · back) :=
  List.foldlM_append

private theorem run_opened (opened : ¬s.owner.Handshaking) (ran : run conf s events = some s') :
    ¬s'.owner.Handshaking := by
  induction events generalizing s with
  | nil =>
    cases Option.some.inj ran
    exact opened
  | cons event events ih =>
    rw [run_cons] at ran
    obtain ⟨middle, moved, ran⟩ := Option.bind_eq_some_iff.mp ran
    exact ih (step_opened opened moved) ran

/-- Once the handshake has called `stop`, every run stays sound. -/
private theorem run_sound (sound : Sound s) (opened : ¬s.owner.Handshaking)
    (ran : run conf s events = some s') : Sound s' := by
  induction events generalizing s with
  | nil =>
    cases Option.some.inj ran
    exact sound
  | cons event events ih =>
    rw [run_cons] at ran
    obtain ⟨middle, moved, ran⟩ := Option.bind_eq_some_iff.mp ran
    have calm : CallbackRunning s → ∀ ok, event ≠ .proceed ok := by
      rintro ⟨ctx, stopping⟩
      exact absurd (stopping ▸ trivial) opened
    exact ih (step_sound sound calm moved) (step_opened opened moved) ran

/-- Until the handshake calls `stop`, a run is sound. -/
private theorem early_sound (sound : Sound s) (ran : run conf s early = some middle)
    (goesOn : run conf middle later = some s') (handshaking : s'.owner.Handshaking) :
    Sound middle := by
  induction early generalizing s with
  | nil =>
    cases Option.some.inj ran
    exact sound
  | cons event early ih =>
    rw [run_cons] at ran
    obtain ⟨next, moved, rest⟩ := Option.bind_eq_some_iff.mp ran
    refine ih (step_sound sound ?_ moved) rest
    -- after `stop` the handshake would not be under way at the end
    rintro ⟨ctx, stopping⟩ ok rfl
    have opened : ¬next.owner.Handshaking := by
      rw [stop_handshake stopping moved]
      exact id
    exact run_opened (run_opened opened rest) goesOn handshaking

private theorem fresh_sound (sasl : Option Nat) (clock : Nat) (done : Nat → Bool) :
    Sound (fresh sasl clock done) := by
  cases sasl with
  | none => exact ⟨fun _ => nofun, trivial⟩
  | some ctx => exact ⟨fun _ => nofun, trivial⟩

private theorem Handover.run (handover : Handover conf clock done sasl begun s s') :
    run conf (fresh sasl clock done) begun = some s' := by
  cases handover with
  | plain => rfl
  | stops ran _ stopped =>
    rw [run_append, ran]
    exact (run_cons ..).trans (by rw [stopped]; rfl)

private theorem Handover.opened (handover : Handover conf clock done sasl begun s s') :
    ¬s'.owner.Handshaking := by
  cases handover with
  | plain => exact id
  | stops _ stopping stopped =>
    rw [stop_handshake stopping stopped]
    exact id

/-- Before the handshake's `stop` every state is sound, and the state after it is unless the
callback was running. -/
private theorem Handover.sound (handover : Handover conf clock done sasl begun s s')
    (calm : ¬CallbackRunning s) :
    Sound s' ∧ ∀ early middle, early <+: begun →
      DeadlineCallbacks.run conf (fresh sasl clock done) early = some middle → Sound middle := by
  cases handover with
  | plain =>
    refine ⟨fresh_sound .., fun early middle before ran => ?_⟩
    cases List.prefix_nil.mp before
    exact Option.some.inj ran ▸ fresh_sound ..
  | @stops sasl ctx begun s s' ok ok' cb begins stopping stopped =>
    have handshaking : s.owner.Handshaking := stopping ▸ trivial
    have after : Sound s' := by
      have stays : DeadlineCallbacks.run conf s [] = some s := rfl
      have before := early_sound (fresh_sound ..) begins stays handshaking
      exact step_sound before (fun running => absurd running calm) stopped
    refine ⟨after, fun early middle before ran => ?_⟩
    rcases List.prefix_concat_iff.mp before with rfl | ⟨later, rfl⟩
    · have reached := (Handover.stops begins stopping stopped).run
      cases Option.some.inj (reached.symm.trans ran)
      exact after
    · rw [run_append, ran] at begins
      exact early_sound (fresh_sound ..) ran begins handshaking

/-- If the callback was running, it may move the deadline after the handshake has returned. -/
private theorem Handover.late (handover : Handover conf clock done sasl begun s s')
    (running : CallbackRunning s) :
    ∃ t, DeadlineCallbacks.run conf s' [.proceed true, .proceed true] = some t ∧ ¬Timely t := by
  obtain ⟨ctx, stopping⟩ := running
  cases handover with
  | plain => cases stopping
  | stops _ _ stopped =>
    rw [stop_handshake stopping stopped]
    refine ⟨_, rfl, fun timely => ?_⟩
    refine timely.ended s.earlier.length ⟨nofun, ctx, ?_⟩
    exact List.getElem?_concat_length

/-- No callback takes effect after its operation has returned, whatever the interleaving, if
and only if the handshake's own is not running when the handshake calls `stop`. -/
theorem callbacks_end_with_their_operation_iff (conf : Config) (clock : Nat) (done : Nat → Bool)
    (sasl : Option Nat) (begun : List Event) (s s' : State)
    (handover : Handover conf clock done sasl begun s s') :
    (∀ events t, events <+: begun ∨ begun <+: events →
      run conf (fresh sasl clock done) events = some t → Timely t) ↔ ¬CallbackRunning s := by
  constructor
  · intro timely running
    obtain ⟨t, ran, late⟩ := handover.late running
    refine late (timely (begun ++ [.proceed true, .proceed true]) t (.inr (List.prefix_append _ _)) ?_)
    rw [run_append, handover.run]
    exact ran
  · intro calm events t agrees ran
    obtain ⟨sound, early⟩ := handover.sound calm
    rcases agrees with before | ⟨after, rfl⟩
    · exact (early events t before ran).timely
    · rw [run_append, handover.run] at ran
      exact (run_sound sound handover.opened ran).timely

/-- No timeouts, and contexts without a deadline. -/
def untimed : Config := ⟨0, 0, fun _ => none⟩

/-- A handshake whose context is not cancelled until it calls `stop` disturbs no call. -/
theorem calls_after_a_calm_handshake_are_timely : ∃ s,
    run untimed (fresh (some 0) 0 fun _ => false)
      [.proceed true, .proceed true, .proceed true, .proceed true] = some s ∧
    s.owner = .stopping .handshake 0 true .waiting ∧
    ∀ events t,
      events <+: [.proceed true, .proceed true, .proceed true, .proceed true] ++ [.proceed true] ∨
        [.proceed true, .proceed true, .proceed true, .proceed true] ++ [.proceed true] <+: events →
      run untimed (fresh (some 0) 0 fun _ => false) events = some t → Timely t := by
  refine ⟨_, rfl, rfl, ?_⟩
  refine (callbacks_end_with_their_operation_iff untimed 0 (fun _ => false) (some 0) _ _ _
    (.stops rfl rfl rfl)).mpr ?_
  rintro ⟨ctx, running⟩
  cases running

/-- A context cancelled while the handshake succeeds: its callback is launched before `stop`
and moves the deadline when the first call, whose context is not cancelled, does I/O. -/
theorem handshake_callback_cuts_the_next_call : ∃ t,
    run untimed (fresh (some 0) 0 fun _ => false)
      [.proceed true, .proceed true, .proceed true, .cancel 0, .launch .current, .proceed true,
        .proceed true, .proceed true, .proceed true, .call 1, .proceed true, .proceed true,
        .goroutine (.earlier 0)] = some t ∧
      t.owner = .io .call 1 none .waiting ∧ t.socket = some 0 ∧ t.done 1 = false ∧ ¬Timely t := by
  refine ⟨_, rfl, rfl, rfl, rfl, fun timely => ?_⟩
  rcases timely.governed rfl with same | ⟨-, cancelled, -⟩
  · cases same
  · cases cancelled

end HmsClient.DeadlineCallbacks
