import HmsClient.ConnectionHygiene
import HmsClient.PeerPlay

/-! Runs of `do` over the client's operations. The world around a call is a state that
everything the call does may change at will, other calls and probes included. A run of
`do` is a list of passes through its loop, and a pass that gets a connection plays the
operation's closure over it. -/
namespace HmsClient
open PeerScript

/-! ## The passes of the loop -/

namespace RetryLoop

variable {σ Conn : Type} (env : Env σ Conn) (op : String) (idempotent : Bool)

/-- The start of a pass: the latest error so far, the pass's number and the state. -/
structure Pass (σ : Type) where
  last : Option Err
  number : Nat
  state : σ

def Pass.round (pass : Pass σ) : Round σ Conn :=
  attempt env op idempotent pass.last pass.number pass.state

/-- The passes of `loop`. -/
def passes : (remaining made : Nat) → (last : Option Err) → σ → List (Pass σ)
  | 0, _, _, _ => []
  | remaining + 1, made, last, s =>
    ⟨last, made + 1, s⟩ ::
      match (attempt env op idempotent last (made + 1) s).verdict with
      | .stop _ => []
      | .again err =>
        passes remaining (made + 1) (some err) (attempt env op idempotent last (made + 1) s).state

/-- What the loop does is what its passes do. -/
theorem loop_trace_eq (remaining made : Nat) (last : Option Err) (s : σ) :
    (loop env op idempotent remaining made last s).trace =
      (passes env op idempotent remaining made last s).flatMap
        fun pass => (pass.round env op idempotent).events := by
  induction remaining generalizing made last s with
  | zero => rfl
  | succ remaining ih =>
    cases verdict : (attempt env op idempotent last (made + 1) s).verdict with
    | stop result => simp [loop, passes, Pass.round, verdict]
    | again err => simp [loop, passes, Pass.round, verdict, ih]

variable {env op idempotent} {pass : Pass σ} {idx : Nat} {mid start : σ} {cn : Conn} {err : Err}

/-- The pass picks an endpoint, in whose pool `acquire` then looks. -/
structure Pass.Acquires (env : Env σ Conn) (pass : Pass σ) (idx : Nat) (mid : σ)
    (answer : Except Err Conn) (start : σ) : Prop where
  picked : env.pick pass.state = (some idx, mid)
  acquired : env.acquire idx mid = (answer, start)

theorem Pass.Acquires.unique {idx' : Nat} {mid' start' : σ} {answer answer' : Except Err Conn}
    (one : pass.Acquires env idx mid answer start)
    (other : pass.Acquires env idx' mid' answer' start') :
    idx' = idx ∧ mid' = mid ∧ answer' = answer ∧ start' = start := by
  cases other.picked.symm.trans one.picked
  cases other.acquired.symm.trans one.acquired
  exact ⟨rfl, rfl, rfl, rfl⟩

theorem Pass.Acquires.round (gets : pass.Acquires env idx mid (.ok cn) start) :
    pass.round env op idempotent =
      (fnReturned env op idempotent idx pass.number cn (env.fn cn start).1 (env.fn cn start).2).after
        [.pick (some idx), .acquire idx (.ok cn), .invoke cn (env.fn cn start).1] := by
  simp only [Pass.round, attempt, gets.picked, gets.acquired]

theorem Pass.Acquires.failed_round (fails : pass.Acquires env idx mid (.error err) start) :
    pass.round env op idempotent =
      (acquireFailed env op idx pass.number err start).after
        [.pick (some idx), .acquire idx (.error err)] := by
  simp only [Pass.round, attempt, fails.picked, fails.acquired]

theorem Pass.round_of_unpicked (unpicked : env.pick pass.state = (none, mid)) :
    pass.round env op idempotent =
      ⟨[.pick none], .stop (some (wrapError op (join .errUnavailable pass.last))), mid⟩ := by
  simp only [Pass.round, attempt, unpicked]

/-- A pass finds no endpoint, or no connection, or gets one. -/
theorem Pass.cases (env : Env σ Conn) (pass : Pass σ) :
    (∃ mid, env.pick pass.state = (none, mid)) ∨
    (∃ idx mid err start, pass.Acquires env idx mid (.error err) start) ∨
    ∃ idx mid cn start, pass.Acquires env idx mid (.ok cn) start := by
  cases picked : env.pick pass.state with
  | mk answer mid =>
    cases answer with
    | none => exact .inl ⟨mid, rfl⟩
    | some idx =>
      cases acquired : env.acquire idx mid with
      | mk answer start =>
        cases answer with
        | error err => exact .inr (.inl ⟨idx, mid, err, start, picked, acquired⟩)
        | ok cn => exact .inr (.inr ⟨idx, mid, cn, start, picked, acquired⟩)

/-- How the loop goes on after a pass: it returns, or the rest of it is a loop with fewer
passes to go. -/
inductive GoesOn (env : Env σ Conn) (op : String) (idempotent : Bool) (pass : Pass σ)
    (after : List (Pass σ)) (whole : Outcome σ Conn) : Prop where
  | stops {result : Option Err} (verdict : (pass.round env op idempotent).verdict = .stop result)
      (last : after = []) (result_eq : whole.result = result)
      (state_eq : whole.state = (pass.round env op idempotent).state)
  | again {err : Err} {remaining : Nat}
      (verdict : (pass.round env op idempotent).verdict = .again err)
      (next : after = passes env op idempotent remaining pass.number (some err)
        (pass.round env op idempotent).state)
      (result_eq : whole.result = (loop env op idempotent remaining pass.number (some err)
        (pass.round env op idempotent).state).result)
      (state_eq : whole.state = (loop env op idempotent remaining pass.number (some err)
        (pass.round env op idempotent).state).state)

/-- What `do` returns if no pass follows. -/
def Verdict.returned (op : String) : Verdict → Option Err
  | .stop result => result
  | .again err => some (wrapError op err)

section Passes
variable {remaining made : Nat} {last : Option Err} {s : σ} {before after : List (Pass σ)}

theorem passes_goesOn
    (ran : passes env op idempotent remaining made last s = before ++ pass :: after) :
    GoesOn env op idempotent pass after (loop env op idempotent remaining made last s) := by
  induction remaining generalizing made last s before with
  | zero => simp [passes] at ran
  | succ remaining ih =>
    simp only [passes] at ran
    cases verdict : (attempt env op idempotent last (made + 1) s).verdict with
    | stop result =>
      rw [verdict] at ran
      cases before with
      | nil =>
        obtain ⟨rfl, rfl⟩ := List.cons.inj ran
        exact .stops verdict rfl (by simp [loop, verdict]) (by simp [loop, verdict, Pass.round])
      | cons first before => cases before <;> cases ran
    | again err =>
      rw [verdict] at ran
      cases before with
      | nil =>
        obtain ⟨rfl, rfl⟩ := List.cons.inj ran
        exact .again verdict rfl (by simp [loop, verdict, Pass.round])
          (by simp [loop, verdict, Pass.round])
      | cons first before =>
        have rest := ih (List.cons.inj ran).2
        cases rest with
        | stops stopped none result_eq state_eq =>
          exact .stops stopped none (by simpa [loop, verdict] using result_eq)
            (by simpa [loop, verdict] using state_eq)
        | again again next result_eq state_eq =>
          exact .again again next (by simpa [loop, verdict] using result_eq)
            (by simpa [loop, verdict] using state_eq)

/-- A pass whose verdict is to return is the last one. -/
theorem passes_stop (ran : passes env op idempotent remaining made last s = before ++ pass :: after)
    {result : Option Err} (stopped : (pass.round env op idempotent).verdict = .stop result) :
    after = [] := by
  cases passes_goesOn ran with
  | stops _ none => exact none
  | again verdict => cases stopped.symm.trans verdict

theorem passes_next {next : Pass σ}
    (ran : passes env op idempotent remaining made last s = before ++ pass :: next :: after) :
    ∃ err, (pass.round env op idempotent).verdict = .again err ∧ next.last = some err ∧
      next.state = (pass.round env op idempotent).state := by
  cases passes_goesOn ran with
  | stops _ none => cases none
  | @again err left verdict more =>
    refine ⟨err, verdict, ?_⟩
    cases left with
    | zero => cases more
    | succ left =>
      obtain ⟨rfl, -⟩ := List.cons.inj more
      exact ⟨rfl, rfl⟩

/-- What holds at the start and is kept by passes that another follows holds before every
pass; it may speak of the passes made so far. -/
theorem passes_history {P : List (Pass σ) → σ → Prop}
    (step : ∀ past pass err, P past pass.state →
      (pass.round env op idempotent).verdict = .again err →
      P (past ++ [pass]) (pass.round env op idempotent).state)
    (past : List (Pass σ)) (start : P past s)
    (ran : passes env op idempotent remaining made last s = before ++ pass :: after) :
    P (past ++ before) pass.state := by
  induction remaining generalizing made last s past before with
  | zero => simp [passes] at ran
  | succ remaining ih =>
    simp only [passes] at ran
    cases before with
    | nil =>
      obtain ⟨rfl, -⟩ := List.cons.inj ran
      rwa [List.append_nil]
    | cons first before =>
      obtain ⟨rfl, rest⟩ := List.cons.inj ran
      split at rest
      · cases before <;> cases rest
      · next err again =>
        rw [List.append_cons]
        exact ih _ (step past ⟨last, made + 1, s⟩ err start again) rest

/-- The loop ends as its last pass does. -/
theorem loop_of_last
    (ran : passes env op idempotent remaining made last s = before ++ [pass]) :
    (loop env op idempotent remaining made last s).state = (pass.round env op idempotent).state ∧
      (loop env op idempotent remaining made last s).result =
        (pass.round env op idempotent).verdict.returned op := by
  cases passes_goesOn ran with
  | stops verdict _ result_eq state_eq =>
    rw [verdict]
    exact ⟨state_eq, result_eq⟩
  | @again err left verdict spent result_eq state_eq =>
    rw [verdict]
    cases left with
    | zero => exact ⟨state_eq, result_eq⟩
    | succ left => cases spent

end Passes

end RetryLoop

/-! ## The world around a call -/

/-- What a connection and the client remember from one attempt to the next. -/
structure Caches where
  catalogs : CatalogSupport
  fallback : List String
  warehouseRoots : List (Text × Text)

variable {κ : Type}

def Caches.session (caches : Caches) (captured : κ) : Session κ :=
  ⟨caches.catalogs, caches.fallback, caches.warehouseRoots, captured⟩

def Session.caches (s : Session κ) : Caches := ⟨s.catalogs, s.fallback, s.warehouseRoots⟩

/-- Everything `do` and a closure deal with, apart from the captured variables. `answer`
is an RPC over a connection. -/
structure Surroundings (τ Conn : Type) where
  pick : τ → Option Nat × τ
  acquire : Nat → τ → Except Err Conn × τ
  ctxErr : τ → Bool × τ
  observe : RetryLoop.RPCInfo → τ → τ
  release : Nat → Conn → τ → τ
  discardWith : Nat → Conn → String → τ → τ
  markFailed : Nat → String → τ → τ
  markHealthy : Nat → String → τ → τ
  load : Conn → τ → Caches
  store : Conn → Caches → τ → τ
  answer : Conn → (call : Call) → τ → Except RpcErr call.Reply × τ

namespace Surroundings

variable {τ Conn : Type} (S : Surroundings τ Conn) (cfg : Config) (op : Operation)

/-- The closure of an operation, played over a connection. -/
def invocation (cn : Conn) (s : τ × op.Captured) :
    Played metastore τ (Except Err Unit × Session op.Captured) :=
  (op.closure cfg ((S.load cn s.1).session s.2)).play (S.answer cn) s.1

/-- What `do` finds when it runs the operation. -/
def env : RetryLoop.Env (τ × op.Captured) Conn where
  pick s := ((S.pick s.1).1, (S.pick s.1).2, s.2)
  acquire idx s := ((S.acquire idx s.1).1, (S.acquire idx s.1).2, s.2)
  fn cn s :=
    let played := S.invocation cfg op cn s
    (errorOf played.outcome.1, S.store cn played.outcome.2.caches played.state,
      played.outcome.2.captured)
  ctxErr s := ((S.ctxErr s.1).1, (S.ctxErr s.1).2, s.2)
  observe info s := (S.observe info s.1, s.2)
  release idx cn s := (S.release idx cn s.1, s.2)
  discardWith idx cn reason s := (S.discardWith idx cn reason s.1, s.2)
  markFailed idx reason s := (S.markFailed idx reason s.1, s.2)
  markHealthy idx reason s := (S.markHealthy idx reason s.1, s.2)

/-- The passes of a call of the operation. -/
def passes (maxRetries : Nat) (s : τ × op.Captured) : List (RetryLoop.Pass (τ × op.Captured)) :=
  RetryLoop.passes (S.env cfg op) op.method op.idempotent maxRetries 0 none s

/-- A pass of this operation through the body of the loop. -/
def round (pass : RetryLoop.Pass (τ × op.Captured)) : RetryLoop.Round (τ × op.Captured) Conn :=
  pass.round (S.env cfg op) op.method op.idempotent

/-- The exchanges of an invocation are those of a run of the closure. -/
theorem invocation_run (cn : Conn) (s : τ × op.Captured) :
    Run (op.closure cfg ((S.load cn s.1).session s.2))
      ((S.invocation cfg op cn s).log.map Sent.toExchange) (S.invocation cfg op cn s).outcome :=
  play_run _ _

end Surroundings

end HmsClient
