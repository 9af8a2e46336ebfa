import HmsClient.RetryProofs

/-! What `do` returns when it never got a connection. The loop ends because no endpoint
is left to pick, and then it returns `ErrUnavailable` with the last error, or because the
attempts are used up, and then it classifies the last error alone. The theorem says when
a caller sees `ErrUnavailable`. -/
namespace HmsClient.RetryLoop

open CauseTree

variable {σ Conn : Type}

/-- The errors `acquire` returned, in order. -/
def dialErrors (trace : List (Event Conn)) : List Err :=
  trace.filterMap fun
    | .acquire _ (.error err) => some err
    | _ => none

/-- `fn` was never invoked, although the context was not done and the client not closed. -/
structure NeverConnected (trace : List (Event Conn)) : Prop where
  uninvoked : invocations trace = []
  waiting : .ctxErr true ∉ trace
  isOpen : ∀ err ∈ dialErrors trace, err.has (· = .errClosed) = false

/-- The package's own errors, which `wrapError` leaves as they are. -/
def isHmsError : Node → Bool
  | .hmsError _ => true
  | _ => false

/-- An error that is `ErrUnavailable` already, or that `wrapError` classifies so. -/
def ReadsUnavailable (err : Err) : Prop :=
  err.isSentinel .errUnavailable = true ∨
    err.has isHmsError = false ∧ classify err = .errUnavailable

theorem wrapAs_has (op : String) (sentinel : Sentinel) (err : Err) (test : Node → Bool) :
    (wrapAs op sentinel err).has test =
      (test (.hmsError op) || (test (.sentinel sentinel) || err.has test)) := by
  simp [wrapAs, Tree.has, Tree.nodes, Tree.nodes.nodesOf, Tree.leaf]

theorem wrapError_eq (op : String) (err : Err) :
    wrapError op err = if err.has isHmsError then err else wrapAs op (classify err) err :=
  rfl

private theorem wrapped_unavailable_iff (op : String) (err : Err) :
    (wrapError op err).isSentinel .errUnavailable = true ↔ ReadsUnavailable err := by
  rw [wrapError_eq, ReadsUnavailable]
  cases wrapped : err.has isHmsError with
  | true => simp
  | false =>
    rw [if_neg Bool.false_ne_true, Err.isSentinel, wrapAs_has]
    simp [Err.isSentinel, or_comm]

theorem joined_unavailable (op : String) (last : Option Err) :
    (wrapError op (join .errUnavailable last)).isSentinel .errUnavailable = true := by
  rw [wrapped_unavailable_iff]
  exact .inl rfl

private theorem never_rest {events more : List (Event Conn)} (never : NeverConnected (events ++ more)) :
    NeverConnected more where
  uninvoked := by
    have none := never.uninvoked
    simp only [invocations, List.filterMap_append, List.append_eq_nil_iff] at none
    exact none.2
  waiting done := never.waiting (List.mem_append_right _ done)
  isOpen err member := never.isOpen err (by simp [dialErrors] at member ⊢; exact .inr member)

/-- The loop ended at a pick, or with the last dial error. -/
private theorem trace_unconnected
    (trace : Trace op idempotent remaining made last (events : List (Event Conn)) result)
    (started : remaining = 0 → last.isSome) (never : NeverConnected events) :
    (.pick none ∈ events ∧
      ∃ last', result = some (wrapError op (join .errUnavailable last'))) ∨
    (.pick none ∉ events ∧
      ∃ err, (dialErrors events).getLast?.or last = some err ∧ result = some (wrapError op err)) := by
  induction trace with
  | spent made last =>
    obtain ⟨err, rfl⟩ := Option.isSome_iff_exists.mp (started rfl)
    exact .inr ⟨by simp, err, rfl, rfl⟩
  | stops shape =>
    cases shape with
    | exhausted last' => exact .inl ⟨.head _, last', rfl⟩
    | barred idx err done why =>
      have isOpen := never.isOpen err (by simp [dialErrors])
      rcases why with rfl | closed
      · exact absurd (by simp) never.waiting
      · exact absurd (isOpen.symm.trans closed) (by decide)
    | succeeded | expired | lost | garbled | answered =>
      exact absurd never.uninvoked (by simp [invocations])
  | @continues _ _ err _ more result last shape rest ih =>
    cases shape with
    | retried => exact absurd never.uninvoked (by simp [invocations])
    | undialed idx =>
      rcases ih (fun _ => rfl) (never_rest never) with ⟨picked, joined⟩ | ⟨picked, err', isLast, same⟩
      · exact .inl ⟨List.mem_append_right _ picked, joined⟩
      · refine .inr ⟨by simpa using picked, err', ?_, same⟩
        change (err :: dialErrors more).getLast?.or last = some err'
        rw [← isLast]
        simp [List.getLast?_cons]

/-- When `do` never got a connection, the error it returns is `ErrUnavailable` exactly if
it found no endpoint to pick or the last dial error reads as unavailable. -/
theorem unconnected_error_is_unavailable_iff (env : Env σ Conn) (maxRetries : Nat)
    (clamped : 1 ≤ maxRetries) (op : String) (idempotent : Bool) (s : σ)
    (never : NeverConnected (doRPC env maxRetries op idempotent s).trace) :
    (∃ err, (doRPC env maxRetries op idempotent s).result = some err ∧
        err.isSentinel .errUnavailable = true) ↔
      .pick none ∈ (doRPC env maxRetries op idempotent s).trace ∨
        ∃ last, (dialErrors (doRPC env maxRetries op idempotent s).trace).getLast? = some last ∧
          ReadsUnavailable last := by
  have trace := loop_trace env op idempotent maxRetries 0 none s
  rcases trace_unconnected trace (by omega) never with ⟨picked, last, same⟩ | ⟨picked, err, isLast, same⟩
  · exact iff_of_true ⟨_, same, joined_unavailable op last⟩ (.inl picked)
  · rw [Option.or_none] at isLast
    constructor
    · rintro ⟨err', same', unavailable⟩
      cases same'.symm.trans same
      exact .inr ⟨err, isLast, (wrapped_unavailable_iff op err).mp unavailable⟩
    · rintro (pick | ⟨last, isLast', reads⟩)
      · exact absurd pick picked
      · cases Option.some.inj (isLast.symm.trans isLast')
        exact ⟨_, same, (wrapped_unavailable_iff op err).mpr reads⟩

/-- One endpoint that every dial fails on with this error, and that cools for one pick. -/
private def undialable (err : Err) : Env Nat Unit where
  pick s := if s = 0 then (some 0, s) else (none, s)
  acquire _ s := (.error err, s)
  fn _ s := (none, s)
  ctxErr s := (false, s)
  observe _ s := s
  release _ _ s := s
  discardWith _ _ _ s := s
  markFailed _ _ _ := 1
  markHealthy _ _ s := s

/-- `OpenContext` failed: the server rejected the credentials. -/
private def saslRejection : Err := .leaf (.other "hms: sasl PLAIN rejected")

/-- A connection that is refused on the only attempt. -/
theorem refused_dial_is_unavailable :
    ∃ err, (doRPC (undialable (.leaf .net)) 1 "get_table" true 0).result = some err ∧
      err.isSentinel .errUnavailable = true := by
  have trace : (doRPC (undialable (.leaf .net)) 1 "get_table" true 0).trace =
      [.pick (some 0), .acquire 0 (.error (.leaf .net)),
        .observe ⟨"get_table", 0, 1, some (.leaf .net)⟩, .ctxErr false, .markFailed 0 "dial"] := rfl
  have never : NeverConnected (doRPC (undialable (.leaf .net)) 1 "get_table" true 0).trace :=
    ⟨rfl, by simp [trace], by decide⟩
  exact (unconnected_error_is_unavailable_iff (undialable (.leaf .net)) 1 (by decide) "get_table" true
    0 never).mpr (.inr ⟨.leaf .net, rfl, .inr ⟨rfl, rfl⟩⟩)

/-- A rejection of the only attempt is not `ErrUnavailable`; with one attempt more it is. -/
theorem rejected_dial_is_not_unavailable :
    (∃ err, (doRPC (undialable saslRejection) 1 "get_table" true 0).result = some err ∧
      err.isSentinel .errUnavailable = false ∧ err.isSentinel .errMeta = true) ∧
    ∃ err, (doRPC (undialable saslRejection) 2 "get_table" true 0).result = some err ∧
      err.isSentinel .errUnavailable = true :=
  ⟨⟨_, rfl, by decide, by decide⟩, _, rfl, by decide⟩

end HmsClient.RetryLoop
