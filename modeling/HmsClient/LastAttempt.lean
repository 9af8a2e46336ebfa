import HmsClient.Attempts
import HmsClient.CatalogRouting
import HmsClient.ErrorWrapping

/-! Where the value of a read comes from. The closure of a read assigns variables that
outlive an attempt that fails, so that an attempt may find what an earlier one has left.
Every read returns what its last attempt would have returned alone, but for
`ServerVersion`, whose version may be that of another server. -/
namespace HmsClient
open PeerScript

/-! ## What a read returns -/

/-- What `GetConfigValue` returns for "hive.metastore.version" and "metastore.version". -/
structure Later where
  hive : Except Err Text
  metastore : Except Err Text

/-- The end of `ServerVersion`, once the version is as good as known. -/
def versionOf (vars : VersionVars) (later : Later) : Except Err HiveVersion := do
  let v ← if vars.v = [] then later.hive else .ok vars.v
  let v ← if v = [] then later.metastore else .ok v
  if v = [] then
    .error (.node (.other "hms: server reported no metastore version")
      [.leaf (.sentinel .errNotSupported)])
  else
    match parseHiveVersion v with
    | none => .error (.leaf (.other "hms: invalid Hive version"))
    | some hv =>
      if vars.haveCatalogs && hv.major < 4 then
        .ok (if vars.catalogs then ⟨3, 0, 0, hv.raw⟩ else ⟨2, 3, 0, hv.raw⟩)
      else .ok hv

/-- What `ServerVersion` returns, given its variables and what `read` returned. -/
def serverVersionResult (vars : VersionVars) (err : Option Err) (later : Later) :
    Except Err HiveVersion :=
  match err with
  | none => versionOf vars later
  | some err => if isUnknownMethod err then versionOf vars later else .error err

/-- The type of the value a method returns, the error apart; `ServerVersion` makes its own. -/
abbrev Operation.Value : Operation → Type
  | .serverVersion => Except Err HiveVersion
  | .getPartitionsByNames .. => List Partition
  | op => op.Captured

/-- The value a method returns, given its variables and what `read` or `call` returned. The
sequences yield nil with an error. -/
def Operation.value (later : Later) (err : Option Err) : (op : Operation) → op.Captured → op.Value
  | .serverVersion, vars => serverVersionResult vars err later
  | .getPartitionsByNames .., vars => vars.out
  | .getTablesSeqNames .., names | .getPartitionsSeqNames .., names =>
    if err.isSome then none else names
  | .getTablesSeqChunk .., tables => if err.isSome then none else tables
  | .getPartitionsSeqChunk .., parts => if err.isSome then none else parts
  | .getConfigValue .., out | .getCatalogs, out | .getCatalog .., out | .createCatalog .., out
  | .dropCatalog .., out | .getAllDatabases .., out | .getDatabase .., out
  | .createDatabase .., out | .alterDatabase .., out | .dropDatabase .., out
  | .getAllTables .., out | .getTable .., out | .getTables .., out | .createTable .., out
  | .alterTable .., out | .dropTable .., out | .getPartitions .., out | .getPartitionNames .., out
  | .addPartitions .., out | .alterPartitions .., out | .getPartitionsByFilter .., out
  | .getPartitionNamesByValues .., out | .dropPartition .., out | .dropPartitionsByNames .., out
  | .currentNotificationID, out | .getNextNotifications .., out
  | .getTableColumnStatistics .., out | .openTransaction .., out | .commitTransaction .., out
  | .abortTransaction .., out | .heartbeat .., out | .lock .., out | .checkLock .., out
  | .unlock .., out => out

/-- The captured variables before the first attempt. -/
def Operation.zero : (op : Operation) → op.Captured
  | .serverVersion => ⟨[], false, false⟩
  | .getPartitionsByNames .. => ⟨[], [], []⟩
  | .getConfigValue .. => ([] : Text)
  | .getTables .. => ([] : List Table)
  | .getPartitions .. | .getPartitionsByFilter .. => ([] : List Partition)
  | .getNextNotifications .. => ([] : List NotificationEvent)
  | .getCatalogs | .getAllDatabases .. | .getAllTables .. | .getTablesSeqNames ..
  | .getPartitionNames .. | .getPartitionsSeqNames .. | .getPartitionNamesByValues ..
  | .getCatalog .. | .getDatabase .. | .getTable .. | .getTablesSeqChunk ..
  | .getPartitionsSeqChunk .. | .getTableColumnStatistics .. => none
  | .currentNotificationID | .openTransaction .. => (0 : Int64)
  | .lock .. | .checkLock .. => (⟨0, 0, []⟩ : LockResponse)
  | .createCatalog .. | .dropCatalog .. | .createDatabase .. | .alterDatabase ..
  | .dropDatabase .. | .createTable .. | .alterTable .. | .dropTable .. | .addPartitions ..
  | .alterPartitions .. | .dropPartition .. | .dropPartitionsByNames .. | .commitTransaction ..
  | .abortTransaction .. | .heartbeat .. | .unlock .. => ()

namespace Surroundings

variable {τ Conn : Type} (S : Surroundings τ Conn) (cfg : Config) (op : Operation)

/-- The passes that find an endpoint to try. -/
def attempts (maxRetries : Nat) (s : τ × op.Captured) : List (RetryLoop.Pass (τ × op.Captured)) :=
  (S.passes cfg op maxRetries s).filter fun pass => (S.pick pass.state.1).1.isSome

/-- What `read` returns and leaves in the variables. -/
def outcome (maxRetries : Nat) (t : τ) : RetryLoop.Outcome (τ × op.Captured) Conn :=
  RetryLoop.doRPC (S.env cfg op) maxRetries op.method op.idempotent (t, op.zero)

/-- What a pass leaves in the variables if nothing came before it. -/
def alone (pass : RetryLoop.Pass (τ × op.Captured)) : op.Captured :=
  (S.round cfg op { pass with state := (pass.state.1, op.zero) }).state.2

/-- In this pass the server told its version. -/
def TellsVersion (pass : RetryLoop.Pass (τ × op.Captured)) : Prop :=
  ∃ idx mid cn start, pass.Acquires (S.env cfg op) idx mid (.ok cn) start ∧
    ∃ x ∈ (S.invocation cfg op cn start).log, ∃ v, x.toExchange = ⟨.getVersion, .ok v⟩

/-- In this pass the first request was for the version, and the server did not know the
method; or the dial failed that way. -/
def LacksVersion (pass : RetryLoop.Pass (τ × op.Captured)) : Prop :=
  (∃ idx mid err start, pass.Acquires (S.env cfg op) idx mid (.error err) start ∧
    isUnknownMethod err = true) ∨
  ∃ idx mid cn start, pass.Acquires (S.env cfg op) idx mid (.ok cn) start ∧
    ∃ x rest fault, (S.invocation cfg op cn start).log = x :: rest ∧
      x.toExchange = ⟨.getVersion, .error fault⟩ ∧ isUnknownMethod fault.err = true

end Surroundings

/-! ## What a failed attempt leaves -/

section Tidy
variable {κ α β : Type} {P : κ → Prop}

/-- The closure keeps a property of the captured variables. -/
private def Keeps (P : κ → Prop) (d : Closure κ α) : Prop :=
  Follows (fun _ s s' => P s.captured → P s'.captured) d

/-- The closure keeps a property of the captured variables when it fails. -/
private def Tidy (P : κ → Prop) (d : Closure κ α) : Prop :=
  ∀ s s' log err, Run (d s) log (.error err, s') → P s.captured → P s'.captured

private theorem keeps_composes :
    Composes (L := metastore) fun _ (s s' : Session κ) => P s.captured → P s'.captured :=
  ⟨fun _ => id, fun first second => second ∘ first⟩

private theorem keeps_rpc (call : Call) : Keeps P (rpc call : Closure κ call.Reply) :=
  follows_request (L := metastore) fun _ _ => id

private theorem keeps_modify {f : Session κ → Session κ}
    (kept : ∀ s, P s.captured → P (f s).captured) : Keeps P (Dialogue.modify f : Closure κ Unit) :=
  follows_modify (L := metastore) kept

private theorem keeps_supportsCatalogs : Keeps P (supportsCatalogs : Closure κ Bool) := by
  intro s s' log r ran
  obtain ⟨support, rfl, -⟩ := supportsCatalogs_run ran
  exact id

private theorem keeps_resolveCatFor (cfg : Config) (structCat : Text) (opts : CatalogOptions) :
    Keeps P (resolveCatFor cfg structCat opts : Closure κ (Option Text)) := by
  intro s s' log r ran
  obtain ⟨support, found, rfl, -, -⟩ := resolveCatFor_run ran
  exact id

private theorem Keeps.tidy (keeps : Keeps P d) : Tidy P d :=
  fun s s' log _ ran => keeps s s' log _ ran

private theorem tidy_modify (f : Session κ → Session κ) :
    Tidy P (Dialogue.modify f : Closure κ Unit) := by
  intro s s' log err ran
  cases (run_done ran).2

private theorem tidy_bind {d : Closure κ α} {f : α → Closure κ β} (first : Keeps P d)
    (second : ∀ a, Tidy P (f a)) : Tidy P (d >>= f) := by
  intro s s' log err ran kept
  rcases Dialogue.run_then ran with ⟨e, failed, -⟩ | ⟨log₁, a, mid, log₂, ok, rest, -⟩
  · exact first _ _ _ _ failed kept
  · exact second a _ _ _ _ rest (first _ _ _ _ ok kept)

private theorem tidy_fail (err : Err) : Tidy P (Dialogue.fail err : Closure κ α) :=
  Keeps.tidy (follows_fail (L := metastore) keeps_composes err)

private theorem tidy_result {d : Closure κ α} {f : Except Err α → Closure κ β} (first : Keeps P d)
    (second : ∀ r, Tidy P (f r)) : Tidy P (d.result >>= f) := by
  intro s s' log err ran kept
  obtain ⟨log₁, outcome, mid, log₂, ranFirst, rest, -⟩ := Dialogue.run_result ran
  exact second outcome _ _ _ _ rest (first _ _ _ _ ranFirst kept)

private theorem tidy_pure (a : α) : Tidy P (pure a : Closure κ α) := by
  intro s s' log err ran
  cases (run_done ran).2

private theorem rpc_captured {call : Call} {g : call.Reply → Session κ → Session κ} :
    Tidy P (rpc call >>= fun reply => Dialogue.modify (g reply) : Closure κ Unit) :=
  tidy_bind (keeps_rpc call) fun _ => tidy_modify _

private theorem tidy_tryReq {method : String} {req legacy : Closure κ Unit} (first : Tidy P req)
    (second : Tidy P legacy) : Tidy P (tryReq method req legacy) := by
  intro s s' log err ran kept
  rcases tryReq_run ran with ⟨-, old⟩ | ⟨-, request, -⟩ | ⟨_, mid, _, _, -, request, -, old, -⟩
  · exact second _ _ _ _ old kept
  · exact first _ _ _ _ request kept
  · exact second _ _ _ _ old (show P mid.captured from first _ _ _ _ request kept)

private theorem keeps_tryReq {method : String} {req legacy : Closure κ Unit} (first : Keeps P req)
    (second : Keeps P legacy) : Keeps P (tryReq method req legacy) :=
  tryReq_follows keeps_composes (fun _ => id) first second

private theorem tidy_assign {γ : Type} {P : Slice γ → Prop} {f : Closure (Slice γ) (Slice γ)}
    (nil : P none) : Tidy P (assign f) := by
  intro s s' log err ran kept
  obtain ⟨log₁, outcome, mid, log₂, -, rest, -⟩ := Dialogue.run_result ran
  cases outcome with
  | ok names => cases (run_done rest).2
  | error e =>
    obtain ⟨-, same⟩ := run_done rest
    cases same
    exact nil

end Tidy

/-- What failed attempts may leave in the captured variables of a read. -/
def Operation.Stale : (op : Operation) → op.Captured → Prop
  | .serverVersion, vars => vars.catalogs = false ∧ vars.haveCatalogs = false
  | .getPartitionsByNames .., vars => vars.out = []
  | op, vars => vars = op.zero

/-- A read that fails leaves its variables stale. -/
private theorem failed_read_is_tidy (cfg : Config) (op : Operation) (isRead : op.idempotent = true) :
    Tidy op.Stale (op.closure cfg) := by
  have resolved : ∀ {opts} {f : Option Text → Closure op.Captured Unit},
      (∀ cat, Tidy op.Stale (f cat)) → Tidy op.Stale (resolveCat cfg opts >>= f) :=
    tidy_bind (keeps_resolveCatFor cfg [] _)
  cases op with
  | getConfigValue | getCatalog | currentNotificationID | getNextNotifications =>
    exact rpc_captured
  | serverVersion =>
    refine tidy_bind (keeps_rpc _) fun v => tidy_bind (keeps_modify fun _ stale => stale) fun _ => ?_
    split
    · split
      · exact tidy_bind keeps_supportsCatalogs fun _ => tidy_modify _
      · exact tidy_pure ()
    · exact tidy_pure ()
  | getCatalogs =>
    refine tidy_result (keeps_rpc _) fun r => ?_
    cases r with
    | ok names => exact tidy_bind (keeps_modify fun _ => id) fun _ => tidy_modify _
    | error err =>
      dsimp only
      split
      · exact tidy_bind (keeps_modify fun _ => id) fun _ => tidy_fail err
      · exact tidy_fail err
  | getAllDatabases =>
    refine resolved fun cat => ?_
    cases cat with
    | none => exact rpc_captured
    | some name =>
      dsimp only
      split
      · exact rpc_captured
      · exact rpc_captured
  | getDatabase | getAllTables | getTable | getTablesSeqChunk | getPartitionNames
  | getPartitionsByFilter | getTableColumnStatistics => exact resolved fun _ => rpc_captured
  | getTables =>
    refine resolved fun _ => tidy_bind (follows_foldlM keeps_composes (fun _ _ => ?_) _ _) fun _ =>
      tidy_modify _
    exact follows_bind keeps_composes (keeps_rpc _) fun _ => follows_pure keeps_composes _
  | getTablesSeqNames | getPartitionsSeqNames => exact resolved fun _ => tidy_assign rfl
  | getPartitions | getPartitionsSeqChunk | getPartitionNamesByValues =>
    exact resolved fun _ => tidy_tryReq rpc_captured rpc_captured
  | getPartitionsByNames =>
    refine resolved fun _ => tidy_bind (keeps_modify fun _ stale => stale) fun _ =>
      tidy_bind (follows_forM keeps_composes (fun _ => ?_) _) fun _ => tidy_modify _
    exact keeps_tryReq
      (follows_bind keeps_composes (keeps_rpc _) fun _ => keeps_modify fun _ stale => stale)
      (follows_bind keeps_composes (keeps_rpc _) fun _ => keeps_modify fun _ stale => stale)
  | _ => cases isRead

/-! ## Attempts that find different variables -/

section Alike
variable {κ α : Type} {caches : Caches} {k k' : κ}

/-- The same outcome and the same caches; the variables are as they were. -/
private def Parallel (caches : Caches) (k k' : κ) (a b : Except Err α × Session κ) : Prop :=
  a.1 = b.1 ∧ ∃ support, a.2 = { caches.session k with catalogs := support } ∧
    b.2 = { caches.session k' with catalogs := support }

private theorem supportsCatalogs_alike :
    Alike (L := metastore) (Parallel caches k k') (supportsCatalogs (caches.session k))
      (supportsCatalogs (caches.session k')) := by
  obtain ⟨catalogs, fallback, roots⟩ := caches
  cases catalogs with
  | yes => exact .done ⟨rfl, .yes, rfl, rfl⟩
  | no => exact .done ⟨rfl, .no, rfl, rfl⟩
  | unknown =>
    refine .ask fun answer => ?_
    cases answer with
    | ok names => exact .done ⟨rfl, .yes, rfl, rfl⟩
    | error fault =>
      change Alike _ ((if isUnknownMethod fault.err then _ else _ : Closure κ Bool) _)
        ((if isUnknownMethod fault.err then _ else _ : Closure κ Bool) _)
      split
      · exact .done ⟨rfl, .no, rfl, rfl⟩
      · exact .done ⟨rfl, .unknown, rfl, rfl⟩

private theorem resolveCatFor_alike (cfg : Config) (structCat : Text) (opts : CatalogOptions) :
    Alike (L := metastore) (Parallel caches k k') (resolveCatFor cfg structCat opts (caches.session k))
      (resolveCatFor cfg structCat opts (caches.session k')) := by
  refine alike_bind supportsCatalogs_alike ?_
  rintro ⟨r, s⟩ ⟨r', t⟩ ⟨rfl, support, rfl, rfl⟩
  cases r with
  | error err => exact .done ⟨rfl, support, rfl, rfl⟩
  | ok known =>
    dsimp only
    split
    · exact .done ⟨rfl, support, rfl, rfl⟩
    · split
      · exact .done ⟨rfl, support, rfl, rfl⟩
      · exact .done ⟨rfl, support, rfl, rfl⟩

end Alike

/-- Whether an operation is `ServerVersion`. -/
def Operation.isServerVersion : Operation → Bool
  | .serverVersion => true
  | _ => false

/-- Stale variables make no difference to a read other than `ServerVersion`. -/
private theorem stale_alike (cfg : Config) (op : Operation) (other : op.isServerVersion = false)
    (caches : Caches) {k : op.Captured} (stale : op.Stale k) :
    Alike (L := metastore)
      (fun a b => a.1 = b.1 ∧ (a.1 = .ok () → ∀ later err,
        op.value later err a.2.captured = op.value later err b.2.captured))
      (op.closure cfg (caches.session k)) (op.closure cfg (caches.session op.zero)) := by
  cases op with
  | serverVersion => cases other
  | getPartitionsByNames dbName tableName names opts =>
    refine alike_bind (resolveCatFor_alike cfg [] opts) ?_
    rintro ⟨r, s⟩ ⟨r', t⟩ ⟨rfl, support, rfl, rfl⟩
    cases r with
    | error err => exact .done ⟨rfl, fun ok => nomatch ok⟩
    | ok cat =>
      -- the closure starts its list and its interner afresh, so the states are now the same
      obtain ⟨out, parts, cache⟩ := k
      cases stale
      exact alike_refl (fun a => ⟨rfl, fun _ _ _ => rfl⟩) _
  | _ =>
    cases stale
    exact alike_refl (fun a => ⟨rfl, fun _ _ _ => rfl⟩) _

/-- `ServerVersion` assigns the version it is told, or leaves its variables as they are. -/
private theorem serverVersion_alike (caches : Caches) {k : VersionVars}
    (stale : Operation.serverVersion.Stale k) :
    Alike (L := metastore)
      (fun a b => a.1 = b.1 ∧ (a.2.captured = b.2.captured ∨
        a.2.captured = k ∧ b.2.captured = Operation.serverVersion.zero))
      (serverVersion (caches.session k))
      (serverVersion (caches.session Operation.serverVersion.zero)) := by
  obtain ⟨v, catalogs, haveCatalogs⟩ := k
  obtain ⟨rfl, rfl⟩ := stale
  refine .ask fun answer => ?_
  cases answer with
  | error fault => exact .done ⟨rfl, .inr ⟨rfl, rfl⟩⟩
  | ok v => exact alike_refl (fun a => ⟨rfl, .inl rfl⟩) _

private theorem parse_empty : parseHiveVersion [] = none := by decide

/-- `ServerVersion` is told no version and leaves its variables alone; or it is told one,
which it does not lose if it fails then. -/
private theorem serverVersion_run (ran : Run (serverVersion s) log (r, s')) :
    (∃ fault, log = [⟨.getVersion, .error fault⟩] ∧ r = .error fault.err ∧
      s'.captured = s.captured) ∨
    ∃ v rest, log = ⟨.getVersion, .ok v⟩ :: rest ∧ s'.captured.v = v ∧
      ∀ err, r = .error err → v ≠ [] := by
  rcases Dialogue.run_request_then (L := metastore) ran with
    ⟨fault, rfl, rfl, rfl⟩ | ⟨v, rest, rfl, next⟩
  · exact .inl ⟨fault, rfl, rfl, rfl⟩
  · refine .inr ⟨v, rest, rfl, ?_⟩
    rw [Dialogue.modify_then] at next
    cases parsed : parseHiveVersion v with
    | none =>
      rw [parsed] at next
      obtain ⟨rfl, same⟩ := run_done next
      cases same
      exact ⟨rfl, fun _ failed => nomatch failed⟩
    | some hv =>
      have told : v ≠ [] := by
        rintro rfl
        cases parse_empty.symm.trans parsed
      rw [parsed] at next
      dsimp only at next
      split at next
      · rcases Dialogue.run_then next with ⟨e, failed, rfl⟩ | ⟨_, ok, mid, _, known, ended, -⟩
        · obtain ⟨support, rfl, -⟩ := supportsCatalogs_run failed
          exact ⟨rfl, fun _ _ => told⟩
        · obtain ⟨support, rfl, -⟩ := supportsCatalogs_run known
          obtain ⟨-, same⟩ := run_done ended
          cases same
          exact ⟨rfl, fun _ failed => nomatch failed⟩
      · obtain ⟨-, same⟩ := run_done next
        cases same
        exact ⟨rfl, fun _ failed => nomatch failed⟩

/-! ## Errors of attempts -/

private theorem unknown_of_joined (sentinel : Sentinel) (err : Err) :
    isUnknownMethod (join sentinel (some err)) = isUnknownMethod err := by
  simp [isUnknownMethod, Err.typeId, CauseTree.Tree.find, CauseTree.Tree.nodes,
    CauseTree.Tree.nodes.nodesOf, CauseTree.Tree.leaf, join]

section Pass
variable {τ Conn : Type} {S : Surroundings τ Conn} {cfg : Config} {op : Operation}
  {pass : RetryLoop.Pass (τ × op.Captured)} {idx : Nat} {mid start : τ × op.Captured} {cn : Conn}

/-- How a pass that failed with this error ends. -/
private def FailsWithError (S : Surroundings τ Conn) (cfg : Config) (op : Operation)
    (pass : RetryLoop.Pass (τ × op.Captured)) (err : Err) : Prop :=
  (S.round cfg op pass).verdict = .again err ∨
    (S.round cfg op pass).verdict = .stop (some (wrapError op.method err))

private theorem acquires_captured {answer : Except Err Conn}
    (acquires : pass.Acquires (S.env cfg op) idx mid answer start) : start.2 = pass.state.2 := by
  have picked : mid.2 = pass.state.2 := congrArg (·.2.2) acquires.picked.symm
  have acquired : start.2 = mid.2 := congrArg (·.2.2) acquires.acquired.symm
  exact acquired.trans picked

private theorem undialed_fails {err : Err}
    (fails : pass.Acquires (S.env cfg op) idx mid (.error err) start) :
    FailsWithError S cfg op pass err ∧ (S.round cfg op pass).state.2 = pass.state.2 := by
  have kept : start.2 = pass.state.2 := acquires_captured fails
  unfold FailsWithError
  rw [Surroundings.round, fails.failed_round]
  simp only [RetryLoop.acquireFailed, RetryLoop.Round.after]
  split
  · exact ⟨.inr rfl, kept⟩
  · exact ⟨.inl rfl, kept⟩

private theorem invoked_fails {err : Err}
    (gets : pass.Acquires (S.env cfg op) idx mid (.ok cn) start)
    (failed : (S.invocation cfg op cn start).outcome.1 = .error err) :
    FailsWithError S cfg op pass err := by
  have returned : ((S.env cfg op).fn cn start).1 = some err := congrArg errorOf failed
  unfold FailsWithError
  rw [Surroundings.round, gets.round, returned]
  simp only [RetryLoop.fnReturned, RetryLoop.Round.after]
  split
  · split
    · exact .inr rfl
    · split
      · exact .inl rfl
      · exact .inr rfl
  · split <;> exact .inr rfl

private theorem invoked_succeeds (gets : pass.Acquires (S.env cfg op) idx mid (.ok cn) start)
    (ok : (S.invocation cfg op cn start).outcome.1 = .ok ()) :
    (S.round cfg op pass).verdict = .stop none := by
  have returned : ((S.env cfg op).fn cn start).1 = none := congrArg errorOf ok
  rw [Surroundings.round, gets.round, returned]
  rfl

private theorem invoked_captured (gets : pass.Acquires (S.env cfg op) idx mid (.ok cn) start) :
    (S.round cfg op pass).state.2 = (S.invocation cfg op cn start).outcome.2.captured := by
  rw [Surroundings.round, gets.round]
  simp only [RetryLoop.fnReturned, RetryLoop.Round.after]
  split
  · rfl
  · split
    · split <;> rfl
    · split <;> rfl

/-- A pass that lets the call return without an error is one whose closure succeeded. -/
theorem round_succeeds (stopped : (S.round cfg op pass).verdict = .stop none) :
    ∃ idx mid cn start, pass.Acquires (S.env cfg op) idx mid (.ok cn) start ∧
      (S.invocation cfg op cn start).outcome.1 = .ok () ∧
      (S.round cfg op pass).state.2 = (S.invocation cfg op cn start).outcome.2.captured := by
  have unfailing : ∀ err, ¬FailsWithError S cfg op pass err := by
    rintro err (again | failed)
    · cases again.symm.trans stopped
    · cases failed.symm.trans stopped
  rcases pass.cases (S.env cfg op) with
    ⟨mid, unpicked⟩ | ⟨idx, mid, err, start, fails⟩ | ⟨idx, mid, cn, start, gets⟩
  · rw [Surroundings.round, RetryLoop.Pass.round_of_unpicked unpicked] at stopped
    cases stopped
  · exact absurd (undialed_fails fails).1 (unfailing err)
  · cases result : (S.invocation cfg op cn start).outcome.1 with
    | ok _ => exact ⟨idx, mid, cn, start, gets, result, invoked_captured gets⟩
    | error err => exact absurd (invoked_fails gets result) (unfailing err)

/-- The same pass with other variables picks and acquires as before. -/
private theorem acquires_with {answer : Except Err Conn} (k : op.Captured)
    (acquires : pass.Acquires (S.env cfg op) idx mid answer start) :
    RetryLoop.Pass.Acquires (S.env cfg op) { pass with state := (pass.state.1, k) } idx (mid.1, k)
      answer (start.1, k) := by
  have index : (S.pick pass.state.1).1 = some idx := congrArg (·.1) acquires.picked
  have between : (S.pick pass.state.1).2 = mid.1 := congrArg (·.2.1) acquires.picked
  have answered : (S.acquire idx mid.1).1 = answer := congrArg (·.1) acquires.acquired
  have after : (S.acquire idx mid.1).2 = start.1 := congrArg (·.2.1) acquires.acquired
  exact ⟨Prod.ext index (Prod.ext between rfl), Prod.ext answered (Prod.ext after rfl)⟩

/-- An attempt gets a connection or fails to. -/
private theorem attempt_cases (cfg : Config) (op : Operation)
    {pass : RetryLoop.Pass (τ × op.Captured)} (picks : (S.pick pass.state.1).1.isSome = true) :
    (∃ idx mid err start, pass.Acquires (S.env cfg op) idx mid (.error err) start) ∨
      ∃ idx mid cn start, pass.Acquires (S.env cfg op) idx mid (.ok cn) start := by
  rcases pass.cases (S.env cfg op) with ⟨mid, unpicked⟩ | acquires
  · rw [show (S.pick pass.state.1).1 = none from congrArg (·.1) unpicked] at picks
    cases picks
  · exact acquires

/-! ## The last attempt -/

/-- A list whose rejected elements come last, cut at the last accepted one. -/
private theorem filter_last {α : Type} {accepts : α → Bool} {l before : List α} {x : α}
    (ends : ∀ first y rest, l = first ++ y :: rest → accepts y = false → rest = [])
    (kept : l.filter accepts = before ++ [x]) :
    l = before ++ [x] ∨ ∃ y, l = before ++ [x, y] ∧ accepts y = false := by
  induction l generalizing before with
  | nil => simp at kept
  | cons y rest ih =>
    cases accepted : accepts y with
    | false =>
      have nothing := ends [] y rest rfl accepted
      simp [nothing, accepted] at kept
    | true =>
      rw [List.filter_cons_of_pos accepted] at kept
      cases before with
      | nil =>
        obtain ⟨rfl, none⟩ := List.cons.inj kept
        cases rest with
        | nil => exact .inl rfl
        | cons z rest =>
          have rejected : accepts z = false := by
            simpa using List.filter_eq_nil_iff.mp none z (.head _)
          cases ends [y] z rest rfl rejected
          exact .inr ⟨z, rfl, rejected⟩
      | cons first before =>
        obtain ⟨rfl, more⟩ := List.cons.inj kept
        have later := ih (fun first z rest' split => ends (y :: first) z rest' (by rw [split]; rfl)) more
        exact later.imp (congrArg _) fun ⟨z, split, rejected⟩ => ⟨z, congrArg _ split, rejected⟩

/-- The passes end with the last attempt, or with one that found no endpoint after it. -/
private theorem passes_of_attempts {maxRetries : Nat} {s : τ × op.Captured}
    {before : List (RetryLoop.Pass (τ × op.Captured))}
    (made : S.attempts cfg op maxRetries s = before ++ [pass]) :
    S.passes cfg op maxRetries s = before ++ [pass] ∨
      ∃ idle mid, S.passes cfg op maxRetries s = before ++ [pass, idle] ∧
        (S.env cfg op).pick idle.state = (none, mid) := by
  have unpicked : ∀ p : RetryLoop.Pass (τ × op.Captured), (S.pick p.state.1).1.isSome = false →
      (S.env cfg op).pick p.state = (none, (S.pick p.state.1).2, p.state.2) := fun p none =>
    Prod.ext (Option.isSome_eq_false_iff.mp none |> Option.isNone_iff_eq_none.mp) rfl
  have ends : ∀ first p rest, S.passes cfg op maxRetries s = first ++ p :: rest →
      (S.pick p.state.1).1.isSome = false → rest = [] := by
    intro first p rest split none
    exact RetryLoop.passes_stop split
      (congrArg RetryLoop.Round.verdict (RetryLoop.Pass.round_of_unpicked (unpicked p none)))
  rcases filter_last ends made with whole | ⟨idle, more, none⟩
  · exact .inl whole
  · exact .inr ⟨idle, _, more, unpicked idle none⟩

section Outcome
variable {maxRetries : Nat} {t : τ} {before : List (RetryLoop.Pass (τ × op.Captured))}
  (made : S.attempts cfg op maxRetries (t, op.zero) = before ++ [pass])
include made

/-- `read` ends as its last attempt does, or for want of another endpoint after it. -/
private theorem outcome_of_attempts :
    (S.outcome cfg op maxRetries t).state.2 = (S.round cfg op pass).state.2 ∧
      ((S.outcome cfg op maxRetries t).result = (S.round cfg op pass).verdict.returned op.method ∨
        ∃ err, (S.round cfg op pass).verdict = .again err ∧
          (S.outcome cfg op maxRetries t).result =
            some (wrapError op.method (join .errUnavailable (some err)))) := by
  rcases passes_of_attempts made with ran | ⟨idle, mid, ran, unpicked⟩
  · obtain ⟨state, result⟩ := RetryLoop.loop_of_last ran
    exact ⟨congrArg (·.2) state, .inl result⟩
  · obtain ⟨err, again, last, next⟩ := RetryLoop.passes_next ran
    have ran : S.passes cfg op maxRetries (t, op.zero) = (before ++ [pass]) ++ [idle] := by
      rw [ran, List.append_assoc]
      rfl
    obtain ⟨state, result⟩ := RetryLoop.loop_of_last ran
    rw [RetryLoop.Pass.round_of_unpicked unpicked] at state result
    have kept : mid.2 = idle.state.2 := congrArg (·.2.2) unpicked.symm
    refine ⟨?_, .inr ⟨err, again, ?_⟩⟩
    · exact (congrArg (·.2) state).trans (kept.trans (congrArg (·.2) next))
    · rw [last] at result
      exact result

private theorem outcome_of_error (fails : FailsWithError S cfg op pass err) :
    ∃ e, (S.outcome cfg op maxRetries t).result = some e ∧
      isUnknownMethod e = isUnknownMethod err := by
  rcases (outcome_of_attempts made).2 with returned | ⟨err', again, returned⟩
  · rw [returned]
    rcases fails with again | stopped
    · rw [again]
      exact ⟨_, rfl, isUnknownMethod_wrapError _ err⟩
    · rw [stopped]
      exact ⟨_, rfl, isUnknownMethod_wrapError _ err⟩
  · rw [returned]
    refine ⟨_, rfl, ?_⟩
    rcases fails with again' | stopped
    · cases again'.symm.trans again
      rw [isUnknownMethod_wrapError, unknown_of_joined]
    · cases stopped.symm.trans again

end Outcome

private theorem zero_stale (op : Operation) : op.Stale op.zero := by
  cases op with
  | serverVersion => exact ⟨rfl, rfl⟩
  | _ => rfl

private theorem invocation_stale (isRead : op.idempotent = true) (stale : op.Stale s.2)
    (failed : (S.invocation cfg op cn s).outcome.1 = .error err) :
    op.Stale (S.invocation cfg op cn s).outcome.2.captured := by
  have ran := S.invocation_run cfg op cn s
  rw [show (S.invocation cfg op cn s).outcome = (.error err, (S.invocation cfg op cn s).outcome.2)
    from Prod.ext failed rfl] at ran
  exact failed_read_is_tidy cfg op isRead _ _ _ _ ran stale

/-- An attempt that another follows leaves the variables stale. -/
private theorem round_stale (isRead : op.idempotent = true) (stale : op.Stale pass.state.2)
    (again : (S.round cfg op pass).verdict = .again err) :
    op.Stale (S.round cfg op pass).state.2 := by
  rcases pass.cases (S.env cfg op) with
    ⟨mid, unpicked⟩ | ⟨idx, mid, err', start, fails⟩ | ⟨idx, mid, cn, start, gets⟩
  · rw [Surroundings.round, RetryLoop.Pass.round_of_unpicked unpicked] at again
    cases again
  · rwa [(undialed_fails fails).2]
  · rw [invoked_captured gets]
    rw [← acquires_captured gets] at stale
    cases result : (S.invocation cfg op cn start).outcome.1 with
    | ok _ => cases (invoked_succeeds gets result).symm.trans again
    | error err' => exact invocation_stale isRead stale result

private theorem value_of_stale (other : op.isServerVersion = false) (stale : op.Stale k)
    (later : Later) (err : Option Err) : op.value later err k = op.value later err op.zero := by
  cases op with
  | serverVersion => cases other
  | getPartitionsByNames => exact stale
  | _ =>
    cases stale
    rfl

/-- Other reads than `ServerVersion` return what their last attempt returns alone. -/
private theorem round_value (isRead : op.idempotent = true) (other : op.isServerVersion = false)
    (picks : (S.pick pass.state.1).1.isSome = true) (stale : op.Stale pass.state.2) (later : Later)
    (err : Option Err) :
    op.value later err (S.round cfg op pass).state.2 =
      op.value later err (S.alone cfg op pass) := by
  rcases attempt_cases cfg op picks with ⟨idx, mid, err', start, fails⟩ | ⟨idx, mid, cn, start, gets⟩
  · rw [(undialed_fails fails).2, Surroundings.alone, (undialed_fails (acquires_with op.zero fails)).2]
    exact value_of_stale other stale later err
  · rw [invoked_captured gets, Surroundings.alone, invoked_captured (acquires_with op.zero gets)]
    rw [← acquires_captured gets] at stale
    obtain ⟨-, -, same, equal⟩ :=
      alike_play (stale_alike cfg op other (S.load cn start.1) stale) (S.answer cn) start.1
    change (S.invocation cfg op cn start).outcome.1 =
      (S.invocation cfg op cn (start.1, op.zero)).outcome.1 at same
    cases result : (S.invocation cfg op cn start).outcome.1 with
    | ok _ => exact equal result later err
    | error err' =>
      rw [value_of_stale other (invocation_stale isRead stale result),
        value_of_stale other (invocation_stale isRead (zero_stale op) (same.symm.trans result))]

end Pass

/-! ## The version of a server -/

section Version
variable {τ Conn : Type} {S : Surroundings τ Conn} {cfg : Config}
  {pass : RetryLoop.Pass (τ × Operation.serverVersion.Captured)}

/-- `ServerVersion` is told a version, which it keeps; or the server fails to tell it, and
the variables are left as they were. -/
private theorem version_of_runs {caches : Caches} (stale : Operation.serverVersion.Stale k)
    (ran : Run (serverVersion (caches.session k)) log (r, s))
    (ranAlone : Run (serverVersion (caches.session Operation.serverVersion.zero)) log (r', s'))
    (vars : s.captured = s'.captured ∨ s.captured = k ∧ s'.captured = Operation.serverVersion.zero) :
    ((∃ v rest, log = ⟨.getVersion, .ok v⟩ :: rest) ∧ s.captured = s'.captured ∧
      ∀ err, r = .error err → s.captured.v ≠ []) ∨
    (∃ fault, log = [⟨.getVersion, .error fault⟩] ∧ r = .error fault.err ∧ s.captured = k ∧
      s'.captured = Operation.serverVersion.zero) := by
  rcases serverVersion_run ran with ⟨fault, rfl, failed, kept⟩ | ⟨v, rest, rfl, told, fails⟩
  · rcases serverVersion_run ranAlone with ⟨-, -, -, keptAlone⟩ | ⟨v, rest, asked, -⟩
    · exact .inr ⟨fault, rfl, failed, kept, keptAlone⟩
    · cases asked
  · rcases serverVersion_run ranAlone with ⟨fault, asked, -⟩ | ⟨v', rest', same, toldAlone, -⟩
    · cases asked
    · cases same
      refine .inl ⟨⟨v, rest, rfl⟩, ?_, fun err failed => by rw [told]; exact fails err failed⟩
      rcases vars with equal | ⟨kept, keptAlone⟩
      · exact equal
      · -- the version it was told is the one it had, which is then the empty one
        obtain ⟨version, catalogs, haveCatalogs⟩ := k
        obtain ⟨rfl, rfl⟩ := stale
        rw [kept] at told ⊢
        rw [keptAlone] at toldAlone ⊢
        rw [show version = [] from told.trans toldAlone.symm]
        rfl

section Answers
variable {idx : Nat} {mid start : τ × Operation.serverVersion.Captured} {cn : Conn} {err : Err}

private theorem tells_iff (gets : pass.Acquires (S.env cfg .serverVersion) idx mid (.ok cn) start) :
    S.TellsVersion cfg .serverVersion pass ↔ ∃ v, ⟨.getVersion, .ok v⟩ ∈
      (S.invocation cfg .serverVersion cn start).log.map Sent.toExchange := by
  constructor
  · rintro ⟨idx', mid', cn', start', gets', x, inLog, v, told⟩
    obtain ⟨-, -, same, rfl⟩ := gets.unique gets'
    cases same
    exact ⟨v, List.mem_map.mpr ⟨x, inLog, told⟩⟩
  · rintro ⟨v, told⟩
    obtain ⟨x, inLog, told⟩ := List.mem_map.mp told
    exact ⟨idx, mid, cn, start, gets, x, inLog, v, told⟩

private theorem lacks_iff (gets : pass.Acquires (S.env cfg .serverVersion) idx mid (.ok cn) start) :
    S.LacksVersion cfg .serverVersion pass ↔ ∃ fault rest,
      (S.invocation cfg .serverVersion cn start).log.map Sent.toExchange =
        ⟨.getVersion, .error fault⟩ :: rest ∧ isUnknownMethod fault.err = true := by
  constructor
  · rintro (⟨idx', mid', err, start', fails, -⟩ |
      ⟨idx', mid', cn', start', gets', x, rest, fault, sent, asked, unknown⟩)
    · cases (gets.unique fails).2.2.1
    · obtain ⟨-, -, same, rfl⟩ := gets.unique gets'
      cases same
      exact ⟨fault, rest.map Sent.toExchange, by rw [sent, List.map_cons, asked], unknown⟩
  · rintro ⟨fault, rest, sent, unknown⟩
    obtain ⟨x, rest', whole, asked, -⟩ := List.map_eq_cons_iff.mp sent
    exact .inr ⟨idx, mid, cn, start, gets, x, rest', fault, whole, asked, unknown⟩

private theorem lacks_undialed_iff
    (fails : pass.Acquires (S.env cfg .serverVersion) idx mid (.error err) start) :
    S.LacksVersion cfg .serverVersion pass ↔ isUnknownMethod err = true := by
  constructor
  · rintro (⟨idx', mid', err', start', fails', unknown⟩ | ⟨idx', mid', cn, start', gets, -⟩)
    · obtain ⟨-, -, same, -⟩ := fails.unique fails'
      cases same
      exact unknown
    · cases (fails.unique gets).2.2.1
  · intro unknown
    exact .inl ⟨idx, mid, err, start, fails, unknown⟩

end Answers

/-- An attempt is told a version, which it keeps; or it fails, for an unknown method
exactly if the version is lacking, and leaves the variables as they were. -/
private theorem version_of_attempt (picks : (S.pick pass.state.1).1.isSome = true)
    (stale : Operation.serverVersion.Stale pass.state.2) :
    (S.TellsVersion cfg .serverVersion pass ∧ ¬S.LacksVersion cfg .serverVersion pass ∧
      (S.round cfg .serverVersion pass).state.2 = S.alone cfg .serverVersion pass ∧
      ((S.round cfg .serverVersion pass).verdict = .stop none ∨
        (S.round cfg .serverVersion pass).state.2.v ≠ [])) ∨
    (¬S.TellsVersion cfg .serverVersion pass ∧
      (S.round cfg .serverVersion pass).state.2 = pass.state.2 ∧
      S.alone cfg .serverVersion pass = Operation.serverVersion.zero ∧
      ∃ err, FailsWithError S cfg .serverVersion pass err ∧
        (isUnknownMethod err = true ↔ S.LacksVersion cfg .serverVersion pass)) := by
  rcases attempt_cases cfg .serverVersion picks with
    ⟨idx, mid, err, start, fails⟩ | ⟨idx, mid, cn, start, gets⟩
  · right
    refine ⟨?_, (undialed_fails fails).2, ?_, err, (undialed_fails fails).1,
      (lacks_undialed_iff fails).symm⟩
    · rintro ⟨idx', mid', cn, start', gets, -⟩
      cases (fails.unique gets).2.2.1
    · exact (undialed_fails (acquires_with Operation.serverVersion.zero fails)).2
  · rw [Surroundings.alone, invoked_captured gets,
      invoked_captured (acquires_with Operation.serverVersion.zero gets), tells_iff gets,
      lacks_iff gets]
    rw [← acquires_captured gets] at stale ⊢
    have ran := S.invocation_run cfg .serverVersion cn start
    have ranAlone := S.invocation_run cfg .serverVersion cn (start.1, Operation.serverVersion.zero)
    obtain ⟨logs, -, -, vars⟩ := alike_play
      (serverVersion_alike (S.load cn start.1) stale) (S.answer cn) start.1
    change (S.invocation cfg .serverVersion cn start).log =
      (S.invocation cfg .serverVersion cn (start.1, Operation.serverVersion.zero)).log at logs
    rw [← logs] at ranAlone
    rcases version_of_runs stale ran ranAlone vars with
      ⟨⟨v, rest, sent⟩, equal, keeps⟩ | ⟨fault, sent, failed, kept, keptAlone⟩
    · rw [sent]
      refine .inl ⟨⟨v, .head _⟩, ?_, equal, ?_⟩
      · rintro ⟨fault, rest', same, -⟩
        cases same
      · cases result : (S.invocation cfg .serverVersion cn start).outcome.1 with
        | ok _ => exact .inl (invoked_succeeds gets result)
        | error err => exact .inr (keeps err result)
    · rw [sent]
      refine .inr ⟨?_, kept, keptAlone, fault.err, invoked_fails gets failed, ?_⟩
      · rintro ⟨v, told⟩
        cases List.mem_singleton.mp told
      · constructor
        · intro unknown
          exact ⟨fault, [], rfl, unknown⟩
        · rintro ⟨fault', rest, same, unknown⟩
          cases same
          exact unknown

private theorem picks_of_acquires {pass : RetryLoop.Pass (τ × op.Captured)}
    (acquires : pass.Acquires (S.env cfg op) idx mid answer start) :
    (S.pick pass.state.1).1.isSome = true := by
  rw [show (S.pick pass.state.1).1 = some idx from congrArg (·.1) acquires.picked]
  rfl

private theorem again_picks {pass : RetryLoop.Pass (τ × op.Captured)}
    (again : (S.round cfg op pass).verdict = .again err) :
    (S.pick pass.state.1).1.isSome = true := by
  rcases pass.cases (S.env cfg op) with
    ⟨mid, unpicked⟩ | ⟨idx, mid, err, start, acquires⟩ | ⟨idx, mid, cn, start, acquires⟩
  · rw [Surroundings.round, RetryLoop.Pass.round_of_unpicked unpicked] at again
    cases again
  · exact picks_of_acquires acquires
  · exact picks_of_acquires acquires

/-- The variables are stale, and they hold a version exactly if an attempt was told one. -/
private def HoldsTold (S : Surroundings τ Conn) (cfg : Config)
    (past : List (RetryLoop.Pass (τ × Operation.serverVersion.Captured)))
    (s : τ × Operation.serverVersion.Captured) : Prop :=
  Operation.serverVersion.Stale s.2 ∧
    (s.2.v ≠ [] ↔ ∃ p ∈ past, S.TellsVersion cfg .serverVersion p)

private theorem holdsTold_step (holds : HoldsTold S cfg past pass.state)
    (again : (S.round cfg .serverVersion pass).verdict = .again err) :
    HoldsTold S cfg (past ++ [pass]) (S.round cfg .serverVersion pass).state := by
  obtain ⟨stale, had⟩ := holds
  refine ⟨round_stale rfl stale again, ?_⟩
  simp only [List.mem_append, List.mem_singleton]
  rcases version_of_attempt (again_picks again) stale with
    ⟨told, -, -, succeeded | version⟩ | ⟨untold, kept, -⟩
  · cases succeeded.symm.trans again
  · exact iff_of_true version ⟨pass, .inr rfl, told⟩
  · rw [kept, had]
    constructor
    · rintro ⟨p, inPast, told⟩
      exact ⟨p, .inl inPast, told⟩
    · rintro ⟨p, inPast | rfl, told⟩
      · exact ⟨p, inPast, told⟩
      · exact absurd told untold

private theorem holdsTold_before
    (ran : S.passes cfg .serverVersion maxRetries (t, Operation.serverVersion.zero) =
      before ++ pass :: after) : HoldsTold S cfg before pass.state := by
  have start : HoldsTold S cfg [] (t, Operation.serverVersion.zero) :=
    ⟨⟨rfl, rfl⟩, iff_of_false (fun told => told rfl) (by simp)⟩
  exact RetryLoop.passes_history (P := HoldsTold S cfg) (fun _ _ _ => holdsTold_step) [] start ran

/-- Variables that hold a version are told apart from those that hold none by what the
configuration says. -/
private theorem versionOf_eq_iff :
    (∀ later, versionOf ⟨v, false, false⟩ later = versionOf ⟨[], false, false⟩ later) ↔ v = [] := by
  constructor
  · intro equal
    by_contra told
    have deaf : ∀ later later', versionOf ⟨v, false, false⟩ later =
        versionOf ⟨v, false, false⟩ later' := fun later later' => by
      simp [versionOf, told, bind, Except.bind]
    -- with no version at hand "1.0" and "2.0" in the configuration make a difference
    have one : versionOf ⟨v, false, false⟩ ⟨.ok [49, 46, 48], .ok []⟩ =
      .ok ⟨1, 0, 0, [49, 46, 48]⟩ := equal _
    have two : versionOf ⟨v, false, false⟩ ⟨.ok [50, 46, 48], .ok []⟩ =
      .ok ⟨2, 0, 0, [50, 46, 48]⟩ := equal _
    cases one.symm.trans ((deaf _ _).trans two)
  · rintro rfl later
    rfl

private theorem serverVersionResult_eq_iff (stale : Operation.serverVersion.Stale k) (err : Err) :
    (∀ later, serverVersionResult k (some err) later =
        serverVersionResult Operation.serverVersion.zero (some err) later) ↔
      ¬(isUnknownMethod err = true ∧ k.v ≠ []) := by
  obtain ⟨v, catalogs, haveCatalogs⟩ := k
  obtain ⟨rfl, rfl⟩ := stale
  cases unknown : isUnknownMethod err with
  | false =>
    refine iff_of_true (fun later => ?_) fun held => Bool.false_ne_true held.1
    simp only [serverVersionResult, unknown, Bool.false_eq_true, if_false]
  | true =>
    simp only [serverVersionResult, unknown, if_true, true_and, ne_eq, not_not]
    exact versionOf_eq_iff

end Version

/-- Every read returns the value that its last attempt returns alone, whatever the earlier
ones were answered, exactly unless it is `ServerVersion`, an earlier attempt was told a
version, and the server of the last one does not know the method. -/
theorem value_is_of_last_attempt_iff {τ Conn : Type} (S : Surroundings τ Conn) (cfg : Config)
    (op : Operation) (isRead : op.idempotent = true) (maxRetries : Nat) (t : τ)
    (before : List (RetryLoop.Pass (τ × op.Captured))) (final : RetryLoop.Pass (τ × op.Captured))
    (made : S.attempts cfg op maxRetries (t, op.zero) = before ++ [final]) :
    (∀ later, op.value later (S.outcome cfg op maxRetries t).result
          (S.outcome cfg op maxRetries t).state.2 =
        op.value later (S.outcome cfg op maxRetries t).result (S.alone cfg op final)) ↔
      ¬(op = .serverVersion ∧ S.LacksVersion cfg op final ∧
        ∃ pass ∈ before, S.TellsVersion cfg op pass) := by
  have picks : (S.pick final.state.1).1.isSome = true := by
    have inMade : final ∈ S.attempts cfg op maxRetries (t, op.zero) := by simp [made]
    exact (List.mem_filter.mp inMade).2
  obtain ⟨after, ran⟩ : ∃ after, S.passes cfg op maxRetries (t, op.zero) = before ++ final :: after := by
    rcases passes_of_attempts made with ran | ⟨idle, mid, ran, -⟩
    · exact ⟨[], ran⟩
    · exact ⟨[idle], ran⟩
  rw [(outcome_of_attempts made).1]
  by_cases other : op.isServerVersion = false
  · have stale : op.Stale final.state.2 :=
      RetryLoop.passes_history (P := fun _ s => op.Stale s.2)
        (fun _ _ _ stale again => round_stale isRead stale again) [] (zero_stale op) ran
    refine iff_of_true (fun later => round_value isRead other picks stale later _) ?_
    rintro ⟨rfl, -⟩
    cases other
  · cases op with
    | serverVersion =>
      obtain ⟨stale, had⟩ := holdsTold_before ran
      rcases version_of_attempt picks stale with
        ⟨-, known, equal, -⟩ | ⟨-, kept, keptAlone, err, fails, lacking⟩
      · refine iff_of_true (fun later => by rw [equal]) ?_
        rintro ⟨-, lacks, -⟩
        exact known lacks
      · obtain ⟨e, result, same⟩ := outcome_of_error made fails
        rw [kept, keptAlone, result]
        refine (serverVersionResult_eq_iff stale e).trans (not_congr ?_)
        rw [had, same, lacking]
        simp
    | _ => exact absurd rfl other

/-- Two endpoints, of which the state counts those that have failed. The server of the
first tells that its version is "3.0" and hangs up on anything else; that of the second
does not know `getVersion`. -/
private def twoServers : Surroundings Nat Nat where
  pick t := (some t, t)
  acquire idx t := (.ok idx, t)
  ctxErr t := (false, t)
  observe _ t := t
  release _ _ t := t
  discardWith _ _ _ t := t
  markFailed _ _ t := t + 1
  markHealthy _ _ t := t
  load _ _ := ⟨.unknown, [], []⟩
  store _ _ t := t
  answer cn call t :=
    match call with
    | .getVersion =>
      (if cn = 0 then .ok [51, 46, 48] else .error unknownMethod, t)
    | .getCurrentNotificationEventId =>
      (if cn = 0 then .error hungUp else .ok 7, t)
    | _ => (.error hungUp, t)

/-- A read that fails over returns what the second server says. -/
theorem failover_returns_second_answer :
    twoServers.attempts plainConfig .currentNotificationID 2 (0, 0) =
        [⟨none, 1, 0, 0⟩, ⟨some (.leaf .eof), 2, 1, 0⟩] ∧
      ∀ later, Operation.currentNotificationID.value later
          (twoServers.outcome plainConfig .currentNotificationID 2 0).result
          (twoServers.outcome plainConfig .currentNotificationID 2 0).state.2 =
        Operation.currentNotificationID.value later
          (twoServers.outcome plainConfig .currentNotificationID 2 0).result
          (twoServers.alone plainConfig .currentNotificationID ⟨some (.leaf .eof), 2, 1, 0⟩) := by
  refine ⟨rfl, ?_⟩
  refine (value_is_of_last_attempt_iff twoServers plainConfig .currentNotificationID rfl 2 0
    [⟨none, 1, 0, 0⟩] ⟨some (.leaf .eof), 2, 1, 0⟩ rfl).mpr ?_
  rintro ⟨same, -⟩
  cases same

/-- The first attempt of `ServerVersion` is told "3.0" and then cut off, and the server of
the second does not know the method: "3.0" is returned, although that server's
configuration has the version "2.3". -/
theorem version_of_a_server_that_failed :
    twoServers.attempts plainConfig .serverVersion 2 (0, Operation.serverVersion.zero) =
        [⟨none, 1, 0, ⟨[], false, false⟩⟩,
          ⟨some (.leaf .eof), 2, 1, ⟨[51, 46, 48], false, false⟩⟩] ∧
      Operation.serverVersion.value ⟨.ok [50, 46, 51], .ok []⟩
          (twoServers.outcome plainConfig .serverVersion 2 0).result
          (twoServers.outcome plainConfig .serverVersion 2 0).state.2 =
        .ok ⟨3, 0, 0, [51, 46, 48]⟩ ∧
      Operation.serverVersion.value ⟨.ok [50, 46, 51], .ok []⟩
          (twoServers.outcome plainConfig .serverVersion 2 0).result
          (twoServers.alone plainConfig .serverVersion
            ⟨some (.leaf .eof), 2, 1, ⟨[51, 46, 48], false, false⟩⟩) =
        .ok ⟨2, 3, 0, [50, 46, 51]⟩ :=
  ⟨rfl, rfl, rfl⟩

end HmsClient
