import HmsClient.Errors

/-! The retry loop `do`, shared by `call` and `read`. Everything the loop asks or
tells the rest of the client is an operation of an environment with a state of
its own, so that the answers may be any sequence whatever; the loop records
what it did, in order, as events. -/
namespace HmsClient.RetryLoop

/-- What the loop reports to the observer. The duration is left out. -/
structure RPCInfo where
  method : String
  endpoint : Nat
  attempt : Nat
  err : Option Err

/-- What the loop uses: `cluster.Pick`, `acquire`, the closure `fn` and
`ctx.Err() != nil`, which answer, and what it only reports to. -/
structure Env (σ Conn : Type) where
  pick : σ → Option Nat × σ
  acquire : Nat → σ → Except Err Conn × σ
  fn : Conn → σ → Option Err × σ
  ctxErr : σ → Bool × σ
  observe : RPCInfo → σ → σ
  release : Nat → Conn → σ → σ
  discardWith : Nat → Conn → String → σ → σ
  markFailed : Nat → String → σ → σ
  markHealthy : Nat → String → σ → σ

/-- One operation of the loop, with the answer it got. -/
inductive Event (Conn : Type) where
  | pick (answer : Option Nat)
  | acquire (idx : Nat) (answer : Except Err Conn)
  | invoke (cn : Conn) (answer : Option Err)
  | ctxErr (done : Bool)
  | observe (info : RPCInfo)
  | release (idx : Nat) (cn : Conn)
  | discard (idx : Nat) (cn : Conn) (reason : String)
  | markFailed (idx : Nat) (reason : String)
  | markHealthy (idx : Nat) (reason : String)

/-- How a pass through the loop's body ends: with `continue`, or a return. -/
inductive Verdict where
  | again (last : Err)
  | stop (result : Option Err)

/-- A pass through the loop's body. -/
structure Round (σ Conn : Type) where
  events : List (Event Conn)
  verdict : Verdict
  state : σ

variable {σ Conn : Type}

def Round.after (events : List (Event Conn)) (round : Round σ Conn) : Round σ Conn :=
  { round with events := events ++ round.events }

/-- The body of the loop after `acquire` has failed. -/
def acquireFailed (env : Env σ Conn) (op : String) (idx rpcAttempt : Nat) (err : Err) (s : σ) :
    Round σ Conn :=
  let info : RPCInfo := ⟨op, idx, rpcAttempt, some err⟩
  let (done, s) := env.ctxErr (env.observe info s)
  if done || err.has (· = .errClosed) then
    ⟨[.observe info, .ctxErr done], .stop (some (wrapError op err)), s⟩
  else
    ⟨[.observe info, .ctxErr done, .markFailed idx "dial"], .again err,
      env.markFailed idx "dial" s⟩

/-- The body of the loop after `fn` has returned. -/
def fnReturned (env : Env σ Conn) (op : String) (idempotent : Bool) (idx rpcAttempt : Nat)
    (cn : Conn) (result : Option Err) (s : σ) : Round σ Conn :=
  let info : RPCInfo := ⟨op, idx, rpcAttempt, result⟩
  let s := env.observe info s
  match result with
  | none =>
    ⟨[.observe info, .release idx cn, .markHealthy idx op], .stop none,
      env.markHealthy idx op (env.release idx cn s)⟩
  | some err =>
    if classify err = .errUnavailable then
      let (done, s) := env.ctxErr (env.discardWith idx cn "unavailable" s)
      if done then
        ⟨[.observe info, .discard idx cn "unavailable", .ctxErr true],
          .stop (some (wrapError op err)), s⟩
      else
        ⟨[.observe info, .discard idx cn "unavailable", .ctxErr false, .markFailed idx op],
          if idempotent then .again err else .stop (some (wrapError op err)),
          env.markFailed idx op s⟩
    else if isProtocolError err then
      ⟨[.observe info, .discard idx cn "protocol error", .markHealthy idx op],
        .stop (some (wrapError op err)),
        env.markHealthy idx op (env.discardWith idx cn "protocol error" s)⟩
    else
      ⟨[.observe info, .release idx cn, .markHealthy idx op], .stop (some (wrapError op err)),
        env.markHealthy idx op (env.release idx cn s)⟩

/-- The body of the loop. -/
def attempt (env : Env σ Conn) (op : String) (idempotent : Bool) (last : Option Err)
    (rpcAttempt : Nat) (s : σ) : Round σ Conn :=
  match env.pick s with
  | (none, s) =>
    ⟨[.pick none], .stop (some (wrapError op (join .errUnavailable last))), s⟩
  | (some idx, s) =>
    match env.acquire idx s with
    | (.error err, s) =>
      (acquireFailed env op idx rpcAttempt err s).after
        [.pick (some idx), .acquire idx (.error err)]
    | (.ok cn, s) =>
      let (result, s) := env.fn cn s
      (fnReturned env op idempotent idx rpcAttempt cn result s).after
        [.pick (some idx), .acquire idx (.ok cn), .invoke cn result]

/-- What the loop returned, what it did and the state it left. -/
structure Outcome (σ Conn : Type) where
  result : Option Err
  trace : List (Event Conn)
  state : σ

/-- The loop with `remaining` attempts to go, `made` attempts made so far and
`last` the error of the latest one. -/
def loop (env : Env σ Conn) (op : String) (idempotent : Bool) :
    (remaining made : Nat) → (last : Option Err) → σ → Outcome σ Conn
  | 0, _, last, s => ⟨last.map (wrapError op), [], s⟩
  | remaining + 1, made, last, s =>
    let round := attempt env op idempotent last (made + 1) s
    match round.verdict with
    | .stop result => ⟨result, round.events, round.state⟩
    | .again err =>
      let rest := loop env op idempotent remaining (made + 1) (some err) round.state
      { rest with trace := round.events ++ rest.trace }

/-- `Client.do`. -/
def doRPC (env : Env σ Conn) (maxRetries : Nat) (op : String) (idempotent : Bool) (s : σ) :
    Outcome σ Conn :=
  loop env op idempotent maxRetries 0 none s

/-- `Client.call`. -/
def call (env : Env σ Conn) (maxRetries : Nat) (op : String) (s : σ) : Outcome σ Conn :=
  doRPC env maxRetries op false s

/-- `Client.read`. -/
def read (env : Env σ Conn) (maxRetries : Nat) (op : String) (s : σ) : Outcome σ Conn :=
  doRPC env maxRetries op true s

/-! ## Reading a trace -/

/-- Whether the loop asked for an answer, rather than only told something. -/
def Event.asks : Event Conn → Bool
  | .pick _ | .acquire _ _ | .invoke _ _ | .ctxErr _ => true
  | _ => false

/-- The endpoints attempts were made against. -/
def attempts (trace : List (Event Conn)) : List Nat :=
  trace.filterMap fun
    | .pick answer => answer
    | _ => none

/-- The connections `acquire` gave out, with their endpoints. -/
def acquired (trace : List (Event Conn)) : List (Nat × Conn) :=
  trace.filterMap fun
    | .acquire idx (.ok cn) => some (idx, cn)
    | _ => none

/-- The invocations of `fn`, with what they returned. -/
def invocations (trace : List (Event Conn)) : List (Conn × Option Err) :=
  trace.filterMap fun
    | .invoke cn answer => some (cn, answer)
    | _ => none

/-- The calls of the observer. -/
def observed (trace : List (Event Conn)) : List RPCInfo :=
  trace.filterMap fun
    | .observe info => some info
    | _ => none

/-- The connections given back, with their endpoints; `true` for a discard. -/
def disposed (trace : List (Event Conn)) : List ((Nat × Conn) × Bool) :=
  trace.filterMap fun
    | .release idx cn => some ((idx, cn), false)
    | .discard idx cn _ => some ((idx, cn), true)
    | _ => none

/-- What `do` does about an error of `fn`. -/
theorem fnReturned_failed (env : Env σ Conn) (op : String) (idempotent : Bool) (idx n : Nat)
    (cn : Conn) (err : Err) (s : σ) :
    ∃ done, done = (env.ctxErr (env.discardWith idx cn "unavailable"
        (env.observe ⟨op, idx, n, some err⟩ s))).1 ∧
      (fnReturned env op idempotent idx n cn (some err) s).events =
        .observe ⟨op, idx, n, some err⟩ ::
          if classify err = .errUnavailable then
            .discard idx cn "unavailable" :: .ctxErr done ::
              if done then [] else [.markFailed idx op]
          else
            [if isProtocolError err then .discard idx cn "protocol error" else .release idx cn,
              .markHealthy idx op] := by
  refine ⟨_, rfl, ?_⟩
  simp only [fnReturned]
  split
  · split
    · next done => simp [done]
    · next waiting => simp [waiting]
  · split
    · rfl
    · rfl

end HmsClient.RetryLoop
