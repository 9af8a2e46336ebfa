import HmsClient.Attempts
import HmsClient.RetryProofs

/-! Calls whose context has a deadline. The deadline takes effect twice, on the socket
and in the context, in either order, and `ContextClient.Call` and `do` each ask for the
context's error at a moment of their own. An RPC that the deadline cut short costs the
endpoint its health exactly if the context has not expired when `do` asks. -/
namespace HmsClient
open PeerScript CauseTree

variable {τ Conn : Type}

/-! ## The deadline -/

/-- The error of an RPC or a dial whose time ran out, with nothing of the server's in it. -/
structure TimedOut (err : Err) : Prop where
  timer : err.has (fun | .net | .deadlineExceeded => true | _ => false) = true
  unmade : err.has Node.made = false
  running : err.has (· = .errClosed) = false

/-- `context.DeadlineExceeded`. -/
def deadlineExceeded : RpcErr := ⟨.leaf .deadlineExceeded, by decide⟩

/-- `ContextClient.Call`, which reports a failure as the context's once that has expired. -/
def contextCall (inner : Conn → (call : Call) → τ → Except RpcErr call.Reply × τ)
    (ctxErr : τ → Bool × τ) (cn : Conn) (call : Call) (t : τ) : Except RpcErr call.Reply × τ :=
  match inner cn call t with
  | (.ok reply, t) => (.ok reply, t)
  | (.error err, t) =>
    match ctxErr t with
    | (true, t) => (.error deadlineExceeded, t)
    | (false, t) => (.error err, t)

/-- A deadline takes effect at two instants: from `socket` on, reads and writes fail, and
from `context` on, `ctx.Err()` is not nil. `inner` is the Thrift client below
`ContextClient`, which cannot get anything through a connection whose time is up. -/
structure Deadline (S : Surroundings τ Conn) where
  now : τ → Nat
  socket : Nat
  context : Nat
  inner : Conn → (call : Call) → τ → Except RpcErr call.Reply × τ
  answer_eq : ∀ cn call t, S.answer cn call t = contextCall inner S.ctxErr cn call t
  ctxErr_iff : ∀ t, (S.ctxErr t).1 = true ↔ context ≤ now t
  ctxErr_forward : ∀ t, now t ≤ now (S.ctxErr t).2
  inner_forward : ∀ cn call t, now t ≤ now (inner cn call t).2
  late : ∀ cn call t, socket ≤ now t ∨ context ≤ now t →
    ∃ fault t', inner cn call t = (.error fault, t') ∧ TimedOut fault.err

namespace Deadline

variable {S : Surroundings τ Conn} (D : Deadline S) (cfg : Config) (op : Operation)
  (pass : RetryLoop.Pass (τ × op.Captured))

/-- The deadline has taken effect, in the one way or the other. -/
def Passed (t : τ) : Prop := D.socket ≤ D.now t ∨ D.context ≤ D.now t

/-- The RPC failed because its time was up. -/
def Cuts (cn : Conn) (x : Sent metastore τ) : Prop :=
  ∃ fault t, D.inner cn x.op x.before = (.error fault, t) ∧ TimedOut fault.err ∧ D.Passed t

/-- An RPC of the pass failed because its time was up, or the dial and its `set_ugi` did. -/
def CutsPass : Prop :=
  (∃ idx mid err start, pass.Acquires (S.env cfg op) idx mid (.error err) start ∧ TimedOut err ∧
    D.Passed start.1) ∨
  ∃ idx mid cn start, pass.Acquires (S.env cfg op) idx mid (.ok cn) start ∧
    ∃ x ∈ (S.invocation cfg op cn start).log, D.Cuts cn x

end Deadline

/-- The states in which `do` asks for the context's error. -/
inductive AsksContext (S : Surroundings τ Conn) (cfg : Config) (op : Operation)
    (pass : RetryLoop.Pass (τ × op.Captured)) : τ → Prop where
  | undialed {idx : Nat} {mid start : τ × op.Captured} {err : Err} :
      pass.Acquires (S.env cfg op) idx mid (.error err) start →
      AsksContext S cfg op pass (S.observe ⟨op.method, idx, pass.number, some err⟩ start.1)
  | failed {idx : Nat} {mid start : τ × op.Captured} {cn : Conn} {err : Err} :
      pass.Acquires (S.env cfg op) idx mid (.ok cn) start →
      ((S.env cfg op).fn cn start).1 = some err → classify err = .errUnavailable →
      AsksContext S cfg op pass (S.discardWith idx cn "unavailable"
        (S.observe ⟨op.method, idx, pass.number, some err⟩ ((S.env cfg op).fn cn start).2.1))

/-- The operation is `DropDatabase`, and the drop itself failed, but not as unavailable. -/
def Operation.FailedDrop (op : Operation) (log : List (Sent metastore τ)) : Prop :=
  op.isDropDatabase = true ∧ ∃ x ∈ log, ∃ qname deleteData cascade dropped,
    x.toExchange = ⟨.dropDatabase qname deleteData cascade, .error dropped⟩ ∧
      classify dropped.err ≠ .errUnavailable

/-- In this pass the drop of a `DropDatabase` failed, but not as unavailable. -/
def DropFailed (S : Surroundings τ Conn) (cfg : Config) (op : Operation)
    (pass : RetryLoop.Pass (τ × op.Captured)) : Prop :=
  ∃ idx mid cn start, pass.Acquires (S.env cfg op) idx mid (.ok cn) start ∧
    op.FailedDrop (S.invocation cfg op cn start).log

/-! ## RPCs that are cut short -/

theorem TimedOut.unavailable {err : Err} (timedOut : TimedOut err) :
    classify err = .errUnavailable := by
  have noException : ∀ exception, err.isException exception = false := fun exception =>
    has_false_of_unmade timedOut.unmade fun node same => by
      rw [of_decide_eq_true same]
      rfl
  have noTypeId : err.typeId = none :=
    find_none_of_unmade timedOut.unmade fun node unmade => by
      cases node <;> first | rfl | cases unmade
  have fromConnection : isConnectionError err = true := by
    obtain ⟨node, inTree, timer⟩ := List.any_eq_true.mp timedOut.timer
    refine List.any_eq_true.mpr ⟨node, inTree, ?_⟩
    cases node <;> first | rfl | cases timer
  simp [classify, noException, isUnknownMethod, isDesyncError, noTypeId, fromConnection]

theorem deadlineExceeded_timedOut : TimedOut deadlineExceeded.err :=
  ⟨by decide, by decide, by decide⟩

namespace Deadline

variable {S : Surroundings τ Conn} {D : Deadline S} {cn : Conn} {t t' : τ}

theorem Passed.later (passed : D.Passed t) (forward : D.now t ≤ D.now t') : D.Passed t' :=
  passed.imp (Nat.le_trans · forward) (Nat.le_trans · forward)

private theorem answer_forward (D : Deadline S) (cn : Conn) (call : Call) (t : τ) :
    D.now t ≤ D.now (S.answer cn call t).2 := by
  rw [D.answer_eq, contextCall]
  have first := D.inner_forward cn call t
  split
  · next asked =>
    rw [asked] at first
    exact first
  · next err t₁ asked =>
    rw [asked] at first
    have second := D.ctxErr_forward t₁
    split <;> next sampled =>
      rw [sampled] at second
      exact Nat.le_trans first second

variable {x : Sent metastore τ}

/-- Whichever error `ContextClient.Call` makes of it, an RPC that was cut short fails with
one of a time that ran out. -/
private theorem Cuts.answer (cut : D.Cuts cn x)
    (answered : S.answer cn x.op x.before = (x.answer, x.after)) :
    ∃ fault, x.answer = .error fault ∧ TimedOut fault.err ∧ D.Passed x.after := by
  obtain ⟨fault, t, asked, timedOut, passed⟩ := cut
  have later := passed.later (D.ctxErr_forward t)
  rw [D.answer_eq, contextCall, asked] at answered
  cases sampled : S.ctxErr t with
  | mk done t₁ =>
    rw [sampled] at later
    simp only [sampled] at answered
    cases done with
    | true =>
      obtain ⟨same, after⟩ := Prod.mk.inj answered
      exact ⟨deadlineExceeded, same.symm, deadlineExceeded_timedOut, after ▸ later⟩
    | false =>
      obtain ⟨same, after⟩ := Prod.mk.inj answered
      exact ⟨fault, same.symm, timedOut, after ▸ later⟩

/-- Once the deadline has taken effect, every RPC is cut short. -/
private theorem Passed.cuts (passed : D.Passed x.before) : D.Cuts cn x := by
  obtain ⟨fault, t, asked, timedOut⟩ := D.late cn x.op x.before passed
  have forward := D.inner_forward cn x.op x.before
  rw [asked] at forward
  exact ⟨fault, t, asked, timedOut, passed.later forward⟩

variable {cfg : Config} {op : Operation} {start : τ × op.Captured}

/-- A closure one of whose RPCs was cut short fails as unavailable, or a drop that the RPC
followed up had failed. -/
private theorem Cuts.fails (inLog : x ∈ (S.invocation cfg op cn start).log) (cut : D.Cuts cn x) :
    ∃ err, (S.invocation cfg op cn start).outcome.1 = .error err ∧
      (classify err = .errUnavailable ∨ op.FailedDrop (S.invocation cfg op cn start).log) := by
  have ran := S.invocation_run cfg op cn start
  have sorted := play_sorted (D.answer_forward cn)
    (op.closure cfg ((S.load cn start.1).session start.2)) start.1
  change ((S.invocation cfg op cn start).log).Pairwise _ at sorted
  obtain ⟨fault, failed, timedOut, passed⟩ := cut.answer (play_answers inLog)
  have broken : breaksConn fault.err = true := by simp [breaksConn, timedOut.unavailable]
  obtain ⟨before, after, split⟩ := List.append_of_mem inLog
  rw [split] at sorted
  rw [split, List.map_append, List.map_cons] at ran
  have follows : AfterBreak op fault _ _ _ := run_after_break cfg op ran failed broken
  cases follows with
  | reported _ reported => exact ⟨fault.err, reported, .inl timedOut.unavailable⟩
  | asked qname answer only _ reported =>
    rcases reported with reported | ⟨gerr, rfl, missing⟩
    · exact ⟨fault.err, reported, .inl timedOut.unavailable⟩
    · -- the request for the database comes after the deadline, so it is cut short too
      obtain ⟨y, inAfter, same⟩ := List.mem_map.mp (only ▸ List.mem_singleton_self _)
      have later : D.now x.after ≤ D.now y.before :=
        (List.pairwise_cons.mp (List.pairwise_append.mp sorted).2.1).1 y inAfter
      have inLog : y ∈ (S.invocation cfg op cn start).log := by simp [split, inAfter]
      obtain ⟨fault', failed', timedOut', -⟩ :=
        Cuts.answer (passed.later later).cuts (play_answers inLog)
      rw [same] at failed'
      cases failed'
      cases missing.symm.trans timedOut'.unavailable
  | followed first qname deleteData cascade dropped isDrop drops _ reported =>
    refine ⟨dropped.err, reported, ?_⟩
    by_cases unavailable : classify dropped.err = .errUnavailable
    · exact .inl unavailable
    · obtain ⟨y, inBefore, same⟩ := List.mem_map.mp
        (drops ▸ List.mem_append_right first (List.mem_singleton_self _))
      refine .inr ⟨isDrop, y, by simp [split, inBefore], ?_⟩
      exact ⟨qname, deleteData, cascade, dropped, same, unavailable⟩

/-- A closure one of whose RPCs was cut short fails, as unavailable unless a drop failed
for another reason. -/
private theorem Cuts.result (inLog : x ∈ (S.invocation cfg op cn start).log) (cut : D.Cuts cn x) :
    ∃ err, (S.invocation cfg op cn start).outcome.1 = .error err ∧
      (classify err = .errUnavailable ↔ ¬op.FailedDrop (S.invocation cfg op cn start).log) := by
  obtain ⟨err, reported, why⟩ := cut.fails inLog
  refine ⟨err, reported, ?_, why.resolve_right⟩
  rintro unavailable ⟨isDrop, y, inLog', qname, deleteData, cascade, dropped, same, other⟩
  obtain ⟨fault, failed, timedOut, -⟩ := cut.answer (play_answers inLog)
  cases op with
  | dropDatabase name deleteData' cascade' ifExists opts =>
    have ran := S.invocation_run cfg (.dropDatabase name deleteData' cascade' ifExists opts) cn start
    have returned := drop_failure_reported ran (List.mem_map.mpr ⟨x, inLog, rfl⟩) failed
      timedOut.unavailable (List.mem_map.mpr ⟨y, inLog', same⟩) other
    cases reported.symm.trans returned
    exact other unavailable
  | _ => cases isDrop

end Deadline

/-! ## What `do` makes of it -/

section Pass
variable {S : Surroundings τ Conn} {cfg : Config} {op : Operation}
  {pass : RetryLoop.Pass (τ × op.Captured)}

/-- A pass that cools no endpoint is the last one. -/
private theorem spared_iff {maxRetries : Nat} {s : τ × op.Captured}
    {before after : List (RetryLoop.Pass (τ × op.Captured))}
    (ran : S.passes cfg op maxRetries s = before ++ pass :: after) :
    ((∀ idx reason, .markFailed idx reason ∉ (S.round cfg op pass).events) ∧ after = []) ↔
      ∀ idx reason, .markFailed idx reason ∉ (S.round cfg op pass).events := by
  refine ⟨And.left, fun spared => ⟨spared, ?_⟩⟩
  have stopped : ∃ result, (S.round cfg op pass).verdict = .stop result := by
    have shape := RetryLoop.attempt_shape (S.env cfg op) op.method op.idempotent pass.last
      pass.number pass.state
    change RetryLoop.Shape _ _ _ (S.round cfg op pass).events (S.round cfg op pass).verdict at shape
    generalize (S.round cfg op pass).events = events at shape spared
    generalize (S.round cfg op pass).verdict = verdict at shape ⊢
    cases shape with
    | undialed idx => exact absurd (by simp) (spared idx "dial")
    | retried idx => exact absurd (by simp) (spared idx op.method)
    | exhausted | barred | succeeded | expired | lost | garbled | answered => exact ⟨_, rfl⟩
  obtain ⟨result, stopped⟩ := stopped
  exact RetryLoop.passes_stop ran stopped

/-- After `fn`, the endpoint is cooled exactly if the error was an unavailable one and the
context had not expired. -/
private theorem cooled_iff (env : RetryLoop.Env τ Conn) (op : String) (idempotent : Bool)
    (idx n : Nat) (cn : Conn) (err : Err) (s : τ) :
    (∀ i reason, .markFailed i reason ∉
        (RetryLoop.fnReturned env op idempotent idx n cn (some err) s).events) ↔
      classify err = .errUnavailable → (env.ctxErr (env.discardWith idx cn "unavailable"
        (env.observe ⟨op, idx, n, some err⟩ s))).1 = true := by
  obtain ⟨done, asked, events⟩ := RetryLoop.fnReturned_failed env op idempotent idx n cn err s
  rw [events, ← asked]
  by_cases unavailable : classify err = .errUnavailable
  · cases done <;> simp [unavailable]
  · cases isProtocolError err <;> simp [unavailable]

variable {idx : Nat} {mid start : τ × op.Captured} {err : Err}

private theorem AsksContext.of_undialed {t : τ} (asks : AsksContext S cfg op pass t)
    (fails : pass.Acquires (S.env cfg op) idx mid (.error err) start) :
    t = S.observe ⟨op.method, idx, pass.number, some err⟩ start.1 := by
  cases asks with
  | undialed fails' =>
    obtain ⟨rfl, rfl, same, rfl⟩ := fails.unique fails'
    cases same
    rfl
  | failed gets => cases (fails.unique gets).2.2.1

private theorem AsksContext.of_failed {cn : Conn} {t : τ} (asks : AsksContext S cfg op pass t)
    (gets : pass.Acquires (S.env cfg op) idx mid (.ok cn) start)
    (returned : ((S.env cfg op).fn cn start).1 = some err) :
    classify err = .errUnavailable ∧ t = S.discardWith idx cn "unavailable"
      (S.observe ⟨op.method, idx, pass.number, some err⟩ ((S.env cfg op).fn cn start).2.1) := by
  cases asks with
  | undialed fails => cases (gets.unique fails).2.2.1
  | failed gets' returned' unavailable =>
    obtain ⟨rfl, rfl, same, rfl⟩ := gets.unique gets'
    cases same
    cases returned.symm.trans returned'
    exact ⟨unavailable, rfl⟩

private theorem undialed_spared_iff {D : Deadline S}
    (fails : pass.Acquires (S.env cfg op) idx mid (.error err) start) (timedOut : TimedOut err) :
    (∀ i reason, .markFailed i reason ∉ (S.round cfg op pass).events) ↔
      DropFailed S cfg op pass ∨ ∃ t, AsksContext S cfg op pass t ∧ D.context ≤ D.now t := by
  have expired := D.ctxErr_iff (S.observe ⟨op.method, idx, pass.number, some err⟩ start.1)
  have spared : (∀ i reason, .markFailed i reason ∉ (S.round cfg op pass).events) ↔
      (S.ctxErr (S.observe ⟨op.method, idx, pass.number, some err⟩ start.1)).1 = true := by
    rw [Surroundings.round, fails.failed_round]
    cases done : (S.ctxErr (S.observe ⟨op.method, idx, pass.number, some err⟩ start.1)).1 <;>
      simp [RetryLoop.acquireFailed, RetryLoop.Round.after, Surroundings.env, done, timedOut.running]
  rw [spared, expired]
  constructor
  · intro passed
    exact .inr ⟨_, .undialed fails, passed⟩
  · rintro (⟨idx', mid', cn, start', gets, -⟩ | ⟨t, asks, passed⟩)
    · cases (fails.unique gets).2.2.1
    · rw [asks.of_undialed fails] at passed
      exact passed

private theorem cut_spared_iff {D : Deadline S} {cn : Conn}
    (gets : pass.Acquires (S.env cfg op) idx mid (.ok cn) start) {x : Sent metastore τ}
    (inLog : x ∈ (S.invocation cfg op cn start).log) (cut : D.Cuts cn x) :
    (∀ i reason, .markFailed i reason ∉ (S.round cfg op pass).events) ↔
      DropFailed S cfg op pass ∨ ∃ t, AsksContext S cfg op pass t ∧ D.context ≤ D.now t := by
  obtain ⟨err, failed, why⟩ := cut.result inLog
  have returned : ((S.env cfg op).fn cn start).1 = some err := congrArg errorOf failed
  have expired := D.ctxErr_iff (S.discardWith idx cn "unavailable"
    (S.observe ⟨op.method, idx, pass.number, some err⟩ ((S.env cfg op).fn cn start).2.1))
  have spared : (∀ i reason, .markFailed i reason ∉ (S.round cfg op pass).events) ↔
      classify err = .errUnavailable → (S.ctxErr (S.discardWith idx cn "unavailable"
        (S.observe ⟨op.method, idx, pass.number, some err⟩ ((S.env cfg op).fn cn start).2.1))).1 =
          true := by
    rw [Surroundings.round, gets.round, returned]
    refine Iff.trans ?_ (cooled_iff (S.env cfg op) op.method op.idempotent idx pass.number cn err
      ((S.env cfg op).fn cn start).2)
    simp [RetryLoop.Round.after]
  rw [spared, expired]
  by_cases unavailable : classify err = .errUnavailable
  · constructor
    · intro passed
      exact .inr ⟨_, .failed gets returned unavailable, passed unavailable⟩
    · rintro (⟨idx', mid', cn', start', gets', drop⟩ | ⟨t, asks, passed⟩) -
      · obtain ⟨-, -, same, rfl⟩ := gets.unique gets'
        cases same
        exact absurd drop (why.mp unavailable)
      · rw [(asks.of_failed gets returned).2] at passed
        exact passed
  · refine iff_of_true (fun unavailable' => absurd unavailable' unavailable) (.inl ?_)
    refine ⟨idx, mid, cn, start, gets, ?_⟩
    by_contra undropped
    exact unavailable (why.mpr undropped)

end Pass

/-- In every call with a deadline, a pass one of whose RPCs the deadline cut short leaves
its endpoint's health alone and is the last one, exactly if the context has expired by
the time `do` asks, or if the drop of a `DropDatabase` had failed for another reason. -/
theorem deadline_spares_endpoint_iff (S : Surroundings τ Conn) (D : Deadline S) (cfg : Config)
    (op : Operation) (maxRetries : Nat) (s : τ × op.Captured)
    (before : List (RetryLoop.Pass (τ × op.Captured))) (pass : RetryLoop.Pass (τ × op.Captured))
    (after : List (RetryLoop.Pass (τ × op.Captured)))
    (ran : S.passes cfg op maxRetries s = before ++ pass :: after)
    (cut : D.CutsPass cfg op pass) :
    ((∀ idx reason, .markFailed idx reason ∉ (S.round cfg op pass).events) ∧ after = []) ↔
      DropFailed S cfg op pass ∨ ∃ t, AsksContext S cfg op pass t ∧ D.context ≤ D.now t := by
  rw [spared_iff ran]
  rcases cut with ⟨idx, mid, err, start, fails, timedOut, -⟩ | ⟨idx, mid, cn, start, gets, x, inLog, cut⟩
  · exact undialed_spared_iff fails timedOut
  · exact cut_spared_iff gets inLog cut

/-- What writing a request returns when the connection's deadline has passed. -/
private def unsent : RpcErr := ⟨.node .transport [.leaf .net], by decide⟩

/-- What reading a reply returns when the deadline passes behind the first of the bytes
asked for. -/
private def cutReply : RpcErr := ⟨.node .protocol [.node .transport [.leaf .net]], by decide⟩

/-- The Thrift client of a server that sends two of the four bytes with which a reply begins
and then stalls: the read has bytes, so it is not tried again, and ends with the socket's
deadline. After the deadline no request is sent. -/
private def stalling (_ : Unit) (call : Call) (t : Nat) : Except RpcErr call.Reply × Nat :=
  if t < 2 then (.error cutReply, 2) else (.error unsent, t)

/-- A world that is its clock. The context expires at the given instant, and asking for
its error takes one. -/
private def stallingServer (context : Nat) : Surroundings Nat Unit where
  pick t := (some 0, t)
  acquire _ t := (.ok (), t)
  ctxErr t := (decide (context ≤ t), t + 1)
  observe _ t := t
  release _ _ t := t
  discardWith _ _ _ t := t
  markFailed _ _ t := t
  markHealthy _ _ t := t
  load _ _ := ⟨.yes, [], []⟩
  store _ _ t := t
  answer := contextCall stalling fun t => (decide (context ≤ t), t + 1)

private theorem stalling_times_out (call : Call) (t : Nat) :
    ∃ fault t', stalling () call t = (.error fault, t') ∧ TimedOut fault.err ∧ t ≤ t' := by
  rcases Nat.lt_or_ge t 2 with early | late
  · exact ⟨cutReply, 2, if_pos early, ⟨by decide, by decide, by decide⟩, Nat.le_of_lt early⟩
  · exact ⟨unsent, t, if_neg (Nat.not_lt.mpr late), ⟨by decide, by decide, by decide⟩, Nat.le_refl t⟩

/-- The deadlines of a call to `stallingServer`, whose socket times out at 2. -/
private def atTwo (context : Nat) : Deadline (stallingServer context) where
  now t := t
  socket := 2
  context := context
  inner := stalling
  answer_eq _ _ _ := rfl
  ctxErr_iff t := by simp [stallingServer]
  ctxErr_forward t := Nat.le_succ t
  inner_forward _ call t := by
    obtain ⟨fault, t', cut, -, forward⟩ := stalling_times_out call t
    rw [cut]
    exact forward
  late _ call t _ := by
    obtain ⟨fault, t', cut, timedOut, -⟩ := stalling_times_out call t
    exact ⟨fault, t', cut, timedOut⟩

private abbrev firstPass : RetryLoop.Pass (Nat × Int64) := ⟨none, 1, 0, 0⟩

private theorem first_pass_cut (context : Nat) :
    (atTwo context).CutsPass plainConfig .currentNotificationID firstPass := by
  refine .inr ⟨0, (0, 0), (), (0, 0), ⟨rfl, rfl⟩, _, .head _, cutReply, 2, rfl,
    ⟨by decide, by decide, by decide⟩, .inl ?_⟩
  exact Nat.le_refl 2

/-- The context expires after `ContextClient.Call` has asked and before `do` does. -/
theorem expired_context_spares_endpoint :
    (stallingServer 3).passes plainConfig .currentNotificationID 2 (0, 0) = [firstPass] ∧
      (atTwo 3).CutsPass plainConfig .currentNotificationID firstPass ∧
      ∀ idx reason, .markFailed idx reason ∉
        ((stallingServer 3).round plainConfig .currentNotificationID firstPass).events := by
  have gets : firstPass.Acquires ((stallingServer 3).env plainConfig .currentNotificationID) 0 (0, 0)
      (.ok ()) (0, 0) := ⟨rfl, rfl⟩
  have spared := (deadline_spares_endpoint_iff (stallingServer 3) (atTwo 3) plainConfig
    .currentNotificationID 2 (0, 0) [] firstPass [] rfl (first_pass_cut 3)).mpr
    (.inr ⟨3, .failed gets rfl (by decide), Nat.le_refl 3⟩)
  exact ⟨rfl, first_pass_cut 3, spared.1⟩

/-- The socket's deadline takes effect behind the second byte of the reply, and the context
expires only after `do` has asked: the endpoint is cooled, and another attempt is made. -/
theorem socket_deadline_cools_endpoint :
    (stallingServer 4).passes plainConfig .currentNotificationID 2 (0, 0) =
        [firstPass, ⟨some cutReply.err, 2, 4, 0⟩] ∧
      (atTwo 4).CutsPass plainConfig .currentNotificationID firstPass ∧
      .markFailed 0 "get_current_notificationEventId" ∈
        ((stallingServer 4).round plainConfig .currentNotificationID firstPass).events := by
  refine ⟨rfl, first_pass_cut 4, ?_⟩
  exact .tail _ (.tail _ (.tail _ (.tail _ (.tail _ (.tail _ (.head _))))))

end HmsClient
