import HmsClient.RetryLoop

/-! What the retry loop does, for every sequence of answers. `Shape` lists the
ways one pass through the body can go and `Trace` strings them together; the
contract of the loop is then a property of traces, by induction on them. -/
namespace HmsClient.RetryLoop

variable {σ Conn : Type}

/-- The passes through the loop's body: what they did and how they ended. The
first three do not invoke `fn`. -/
inductive Shape (op : String) (idempotent : Bool) (number : Nat) :
    List (Event Conn) → Verdict → Prop where
  | exhausted (last : Option Err) :
      Shape op idempotent number [.pick none]
        (.stop (some (wrapError op (join .errUnavailable last))))
  | barred (idx : Nat) (err : Err) (done : Bool)
      (why : done = true ∨ err.has (· = .errClosed) = true) :
      Shape op idempotent number
        [.pick (some idx), .acquire idx (.error err), .observe ⟨op, idx, number, some err⟩,
          .ctxErr done]
        (.stop (some (wrapError op err)))
  | undialed (idx : Nat) (err : Err) :
      Shape op idempotent number
        [.pick (some idx), .acquire idx (.error err), .observe ⟨op, idx, number, some err⟩,
          .ctxErr false, .markFailed idx "dial"]
        (.again err)
  | succeeded (idx : Nat) (cn : Conn) :
      Shape op idempotent number
        [.pick (some idx), .acquire idx (.ok cn), .invoke cn none,
          .observe ⟨op, idx, number, none⟩, .release idx cn, .markHealthy idx op]
        (.stop none)
  | expired (idx : Nat) (cn : Conn) (err : Err) (unavailable : classify err = .errUnavailable) :
      Shape op idempotent number
        [.pick (some idx), .acquire idx (.ok cn), .invoke cn (some err),
          .observe ⟨op, idx, number, some err⟩, .discard idx cn "unavailable", .ctxErr true]
        (.stop (some (wrapError op err)))
  | lost (idx : Nat) (cn : Conn) (err : Err) (unavailable : classify err = .errUnavailable)
      (once : idempotent = false) :
      Shape op idempotent number
        [.pick (some idx), .acquire idx (.ok cn), .invoke cn (some err),
          .observe ⟨op, idx, number, some err⟩, .discard idx cn "unavailable", .ctxErr false,
          .markFailed idx op]
        (.stop (some (wrapError op err)))
  | retried (idx : Nat) (cn : Conn) (err : Err) (unavailable : classify err = .errUnavailable)
      (repeatable : idempotent = true) :
      Shape op idempotent number
        [.pick (some idx), .acquire idx (.ok cn), .invoke cn (some err),
          .observe ⟨op, idx, number, some err⟩, .discard idx cn "unavailable", .ctxErr false,
          .markFailed idx op]
        (.again err)
  | garbled (idx : Nat) (cn : Conn) (err : Err) (answered : classify err ≠ .errUnavailable)
      (protocol : isProtocolError err = true) :
      Shape op idempotent number
        [.pick (some idx), .acquire idx (.ok cn), .invoke cn (some err),
          .observe ⟨op, idx, number, some err⟩, .discard idx cn "protocol error",
          .markHealthy idx op]
        (.stop (some (wrapError op err)))
  | answered (idx : Nat) (cn : Conn) (err : Err) (answered : classify err ≠ .errUnavailable)
      (decoded : isProtocolError err = false) :
      Shape op idempotent number
        [.pick (some idx), .acquire idx (.ok cn), .invoke cn (some err),
          .observe ⟨op, idx, number, some err⟩, .release idx cn, .markHealthy idx op]
        (.stop (some (wrapError op err)))

/-- A run of the loop: passes that end in `continue`, then a return or the end
of the attempts. -/
inductive Trace (op : String) (idempotent : Bool) :
    (remaining made : Nat) → (last : Option Err) → List (Event Conn) → Option Err → Prop where
  | spent (made : Nat) (last : Option Err) :
      Trace op idempotent 0 made last [] (last.map (wrapError op))
  | stops (shape : Shape op idempotent (made + 1) events (.stop result)) :
      Trace op idempotent (remaining + 1) made last events result
  | continues (shape : Shape op idempotent (made + 1) events (.again err))
      (rest : Trace op idempotent remaining (made + 1) (some err) more result) :
      Trace op idempotent (remaining + 1) made last (events ++ more) result

theorem attempt_shape (env : Env σ Conn) (op : String) (idempotent : Bool)
    (last : Option Err) (number : Nat) (s : σ) :
    Shape op idempotent number (attempt env op idempotent last number s).events
      (attempt env op idempotent last number s).verdict := by
  unfold attempt
  split
  · exact .exhausted last
  · next idx s₁ _ =>
    split
    · next err s₂ _ =>
      simp only [Round.after, acquireFailed]
      split
      · next why =>
        exact .barred idx err _ (Bool.or_eq_true_iff.mp why)
      · next goOn =>
        have waiting : (env.ctxErr (env.observe ⟨op, idx, number, some err⟩ s₂)).1 = false := by
          simp_all
        rw [waiting]
        exact .undialed idx err
    · next cn s₂ _ =>
      simp only [Round.after, fnReturned]
      split
      · next nil =>
        rw [nil]
        exact .succeeded idx cn
      · next err failed =>
        rw [failed]
        split
        · next unavailable =>
          split
          · exact .expired idx cn err unavailable
          · split
            · next repeatable =>
              exact .retried idx cn err unavailable repeatable
            · next once =>
              exact .lost idx cn err unavailable (Bool.eq_false_iff.mpr once)
        · next answered =>
          split
          · next protocol =>
            exact .garbled idx cn err answered protocol
          · next decoded =>
            exact .answered idx cn err answered (Bool.eq_false_iff.mpr decoded)

theorem loop_trace (env : Env σ Conn) (op : String) (idempotent : Bool) (remaining made : Nat)
    (last : Option Err) (s : σ) :
    Trace op idempotent remaining made last
      (loop env op idempotent remaining made last s).trace
      (loop env op idempotent remaining made last s).result := by
  induction remaining generalizing made last s with
  | zero => exact .spent made last
  | succ remaining ih =>
    have shape := attempt_shape env op idempotent last (made + 1) s
    simp only [loop]
    split
    · next result stopped =>
      rw [stopped] at shape
      exact .stops shape
    · next err again =>
      rw [again] at shape
      exact .continues shape (ih (made + 1) (some err) _)

/-! ## Success -/

private theorem again_ends_with_ctxErr
    (shape : Shape op idempotent number (events : List (Event Conn)) (.again err)) :
    (events.filter Event.asks).getLast? = some (.ctxErr false) := by
  cases shape <;> rfl

private theorem stop_succeeds_iff
    (shape : Shape op idempotent number (events : List (Event Conn)) (.stop result)) :
    result = none ↔ ∃ cn, (events.filter Event.asks).getLast? = some (.invoke cn none) := by
  cases shape <;> simp [Event.asks]

private theorem trace_succeeds_iff
    (trace : Trace op idempotent remaining made last (events : List (Event Conn)) result)
    (started : remaining = 0 → last.isSome) :
    result = none ↔ ∃ cn, (events.filter Event.asks).getLast? = some (.invoke cn none) := by
  induction trace with
  | spent made last =>
    obtain ⟨err, rfl⟩ := Option.isSome_iff_exists.mp (started rfl)
    simp
  | stops shape => exact stop_succeeds_iff shape
  | continues shape rest ih =>
    rw [ih fun _ => rfl, List.filter_append, List.getLast?_append, again_ends_with_ctxErr shape]
    rename_i more _ _
    cases (more.filter Event.asks).getLast? <;> simp

/-! ## Invocations -/

private theorem at_most_one_invocation
    (trace : Trace op false remaining made last (events : List (Event Conn)) result) :
    (invocations events).length ≤ 1 := by
  induction trace with
  | spent => simp [invocations]
  | stops shape => cases shape <;> simp [invocations]
  | continues shape rest ih =>
    cases shape with
    | undialed => simpa [invocations] using ih
    | retried idx cn err unavailable repeatable => cases repeatable

/-- Every invocation that another one follows failed as unavailable, in an
idempotent call, and the next thing the loop asked was whether the context was
done, which it was not. -/
private def Justified (idempotent : Bool) : List (Event Conn) → Prop
  | [] => True
  | .invoke _ answer :: rest =>
    (invocations rest ≠ [] → ∃ err, answer = some err ∧ classify err = .errUnavailable ∧
      idempotent = true ∧ (rest.filter Event.asks).head? = some (.ctxErr false)) ∧
    Justified idempotent rest
  | _ :: rest => Justified idempotent rest

private theorem trace_justified
    (trace : Trace op idempotent remaining made last (events : List (Event Conn)) result) :
    Justified idempotent events := by
  induction trace with
  | spent => trivial
  | stops shape => cases shape <;> simp [Justified, invocations]
  | continues shape rest ih =>
    cases shape with
    | undialed => exact ih
    | retried idx cn err unavailable repeatable =>
      exact ⟨fun _ => ⟨_, rfl, unavailable, repeatable, rfl⟩, ih⟩

private theorem justified_at (justified : Justified idempotent (before ++ .invoke cn answer :: rest))
    (followed : invocations rest ≠ []) :
    ∃ err, answer = some err ∧ classify err = .errUnavailable ∧ idempotent = true ∧
      (rest.filter Event.asks).head? = some (.ctxErr false) := by
  induction before with
  | nil => exact justified.1 followed
  | cons event before ih =>
    cases event with
    | invoke => exact ih justified.2
    | pick | acquire | ctxErr | observe | release | discard | markFailed | markHealthy =>
      exact ih justified

/-! ## Attempts and connections -/

private theorem trace_observed
    (trace : Trace op idempotent remaining made last (events : List (Event Conn)) result) :
    (observed events).map RPCInfo.attempt = List.range' (made + 1) (attempts events).length ∧
      (observed events).map RPCInfo.endpoint = attempts events ∧
      (attempts events).length ≤ remaining := by
  induction trace with
  | spent => simp [observed, attempts]
  | stops shape => cases shape <;> simp [observed, attempts]
  | continues shape rest ih =>
    obtain ⟨numbers, endpoints, bound⟩ := ih
    simp only [observed, attempts] at numbers endpoints bound
    cases shape <;> simp [observed, attempts, List.range'_succ, numbers, endpoints, bound]

/-- Whether what an invocation returned leaves its connection unusable. -/
def breaks (answer : Option Err) : Bool := answer.any breaksConn

private theorem trace_disposed
    (trace : Trace op idempotent remaining made last (events : List (Event Conn)) result) :
    (acquired events).map Prod.snd = (invocations events).map Prod.fst ∧
      disposed events = List.zipWith (fun loan call => (loan, breaks call.2))
        (acquired events) (invocations events) := by
  induction trace with
  | spent => simp [acquired, invocations, disposed]
  | stops shape =>
    cases shape <;> simp [acquired, invocations, disposed, breaks, breaksConn, *]
  | continues shape rest ih =>
    simp only [acquired, invocations, disposed] at ih
    cases shape <;> simp [acquired, invocations, disposed, breaks, breaksConn, *]

/-- **The contract of the retry loop**, on what it returned and did. -/
structure Contract (maxRetries : Nat) (idempotent : Bool) (outcome : Outcome σ Conn) : Prop where
  /-- It returns nil exactly if the last thing it asked for was an invocation
  of `fn`, and that returned nil. -/
  success : outcome.result = none ↔
    ∃ cn, (outcome.trace.filter Event.asks).getLast? = some (.invoke cn none)
  /-- A call that is not idempotent invokes `fn` at most once. -/
  once : idempotent = false → (invocations outcome.trace).length ≤ 1
  /-- Whenever another invocation follows, the earlier one failed as
  unavailable, the call is idempotent, and the context was not done. -/
  repeats : ∀ before cn answer rest, outcome.trace = before ++ .invoke cn answer :: rest →
    invocations rest ≠ [] → ∃ err, answer = some err ∧ classify err = .errUnavailable ∧
      idempotent = true ∧ (rest.filter Event.asks).head? = some (.ctxErr false)
  /-- The observer is called once per attempt, with the attempt's endpoint, and
  the attempts are numbered from one. -/
  numbered : (observed outcome.trace).map RPCInfo.attempt =
    List.range' 1 (attempts outcome.trace).length
  observesEach : (observed outcome.trace).map RPCInfo.endpoint = attempts outcome.trace
  bounded : (attempts outcome.trace).length ≤ maxRetries
  /-- Every connection acquired is passed to `fn`, and given back once: to
  discard exactly if what `fn` returned breaks it, else to release. -/
  invokesEach : (acquired outcome.trace).map Prod.snd = (invocations outcome.trace).map Prod.fst
  disposesEach : disposed outcome.trace = List.zipWith (fun loan call => (loan, breaks call.2))
    (acquired outcome.trace) (invocations outcome.trace)

/-- Whatever the cluster, the pool, the closure and the context answer, `do`
keeps its contract. -/
theorem do_keeps_its_contract (env : Env σ Conn) (maxRetries : Nat) (clamped : 1 ≤ maxRetries)
    (op : String) (idempotent : Bool) (s : σ) :
    Contract maxRetries idempotent (doRPC env maxRetries op idempotent s) := by
  have trace := loop_trace env op idempotent maxRetries 0 none s
  obtain ⟨numbers, endpoints, bound⟩ := trace_observed trace
  obtain ⟨invoked, disposed⟩ := trace_disposed trace
  refine ⟨trace_succeeds_iff trace (by omega), ?_, ?_, numbers, endpoints, bound, invoked, disposed⟩
  · rintro rfl
    exact at_most_one_invocation trace
  · intro before cn answer rest split followed
    have justified := trace_justified trace
    rw [show (loop env op idempotent maxRetries 0 none s).trace = _ from split] at justified
    exact justified_at justified followed

/-- Two endpoints, the first of which drops the connection. -/
private def failover : Env Nat Nat where
  pick s := (some s, s)
  acquire idx s := (.ok idx, s)
  fn cn s := (if cn = 0 then some (.leaf .transport) else none, s + 1)
  ctxErr s := (false, s)
  observe _ s := s
  release _ _ s := s
  discardWith _ _ _ s := s
  markFailed _ _ s := s
  markHealthy _ _ s := s

theorem read_fails_over_within_contract :
    Contract 3 true (doRPC failover 3 "get_table" true 0) ∧
      (doRPC failover 3 "get_table" true 0).result = none ∧
      disposed (doRPC failover 3 "get_table" true 0).trace = [((0, 0), true), ((1, 1), false)] :=
  ⟨do_keeps_its_contract failover 3 (by decide) "get_table" true 0, rfl, rfl⟩

end HmsClient.RetryLoop
