import HmsClient.Operations
import HmsClient.RetryLoop

/-! What an attempt does with a connection that one of its RPCs has broken: it puts
nothing more to it, and `do` discards it. Every operation keeps to this, but for
`DropDatabase`, which may ask for the database after its drop has failed; the last
theorem says exactly when that goes wrong. -/
namespace HmsClient
open PeerScript CauseTree

/-! ## Errors that break a connection -/

variable {err : Err} {cfg : Config} {opts : CatalogOptions} {ifExists deleteData cascade : Bool}
  {qname : Text} {log before rest first after : List (Exchange metastore)} {r : Except Err Unit}
  {fault : RpcErr} {x : Exchange metastore}

theorem find_none_of_unmade {β : Type} {select : Node → Option β}
    (unmade : err.has Node.made = false) (onlyMade : ∀ node, node.made = false → select node = none) :
    err.find select = none := by
  refine List.findSome?_eq_none_iff.mpr fun node inTree => onlyMade node ?_
  exact Bool.eq_false_iff.mpr (List.any_eq_false.mp unmade node inTree)

theorem has_false_of_unmade {test : Node → Bool} (unmade : err.has Node.made = false)
    (onlyMade : ∀ node, test node = true → node.made = true) : err.has test = false := by
  refine List.any_eq_false.mpr fun node inTree passes => ?_
  exact List.any_eq_false.mp unmade node inTree (onlyMade node passes)

/-- A server that does not know a method has answered, and the answer was read. -/
theorem unknown_method_keeps_connection (fault : RpcErr) (broken : breaksConn fault.err = true) :
    isUnknownMethod fault.err = false := by
  rcases Bool.or_eq_true_iff.mp broken with unavailable | protocol
  · by_contra unknown
    have unknown : isUnknownMethod fault.err = true := by simpa using unknown
    have unavailable : classify fault.err = .errUnavailable := by simpa using unavailable
    unfold classify at unavailable
    grind
  · have none : fault.err.typeId = none :=
      find_none_of_unmade (fault.unmixed protocol) fun node unmade => by
        cases node <;> first | rfl | cases unmade
    rw [isUnknownMethod, none]
    rfl

/-- So has one that says an object does not exist. -/
theorem not_found_keeps_connection (fault : RpcErr) (broken : breaksConn fault.err = true) :
    classify fault.err ≠ .errNotFound := by
  rcases Bool.or_eq_true_iff.mp broken with unavailable | protocol
  · have unavailable : classify fault.err = .errUnavailable := by simpa using unavailable
    rw [unavailable]
    decide
  · have unmade := fault.unmixed protocol
    have noException : ∀ exception, fault.err.isException exception = false := fun exception =>
      has_false_of_unmade unmade fun node same => by
        rw [of_decide_eq_true same]
        rfl
    have noSentinel : fault.err.isSentinel .errNotFound = false :=
      has_false_of_unmade unmade fun node same => by
        rw [of_decide_eq_true same]
        rfl
    unfold classify
    simp only [noException, noSentinel]
    grind

/-! ## The parts of closures -/

variable {κ α : Type}

private theorem rpc_hygienic (call : Call) : Hygienic (rpc call : Closure κ call.Reply) :=
  hygienic_request (L := metastore) call

private theorem capture_hygienic (out : κ) : Hygienic (capture out) := hygienic_modify _

private theorem rpc_then {f : call.Reply → Closure κ α} (rest : ∀ reply, Hygienic (f reply)) :
    Hygienic (rpc call >>= f) :=
  hygienic_bind (rpc_hygienic call) rest

theorem tryReq_hygienic {method : String} {req legacy : Closure κ Unit} (first : Hygienic req)
    (second : Hygienic legacy) : Hygienic (tryReq method req legacy) := by
  refine hygienic_bind hygienic_get fun s => ?_
  split
  · exact second
  · refine hygienic_result first (fun r => ?_) fun fault broken => ?_
    · cases r with
      | ok _ => exact hygienic_pure ()
      | error err =>
        dsimp only
        split
        · exact hygienic_bind (hygienic_modify _) fun _ => second
        · exact hygienic_fail err
    · simp only [unknown_method_keeps_connection fault broken, Bool.false_eq_true, if_false]
      exact fail_failsWith _

theorem supportsCatalogs_hygienic : Hygienic (supportsCatalogs : Closure κ Bool) := by
  refine hygienic_bind hygienic_get fun s => ?_
  split
  · exact hygienic_pure true
  · exact hygienic_pure false
  · refine hygienic_result (rpc_hygienic _) (fun r => ?_) fun fault broken => ?_
    · cases r with
      | ok _ => exact hygienic_bind (hygienic_modify _) fun _ => hygienic_pure true
      | error err =>
        dsimp only
        split
        · exact hygienic_bind (hygienic_modify _) fun _ => hygienic_pure false
        · exact hygienic_fail err
    · simp only [unknown_method_keeps_connection fault broken, Bool.false_eq_true, if_false]
      exact fail_failsWith _

theorem resolveCatFor_hygienic (cfg : Config) (structCat : Text) (opts : CatalogOptions) :
    Hygienic (resolveCatFor cfg structCat opts : Closure κ (Option Text)) := by
  refine hygienic_bind supportsCatalogs_hygienic fun support => ?_
  split
  · exact hygienic_pure _
  · split
    · exact hygienic_pure _
    · exact hygienic_fail _

private theorem resolved {f : Option Text → Closure κ α} (rest : ∀ cat, Hygienic (f cat)) :
    Hygienic (resolveCatFor cfg structCat opts >>= f) :=
  hygienic_bind (resolveCatFor_hygienic cfg structCat opts) rest

theorem ifPresent_hygienic {drop : Closure Unit Unit} (first : Hygienic drop) :
    Hygienic (ifPresent ifExists drop) := by
  refine hygienic_result first (fun r => ?_) fun fault broken => ?_
  · cases r with
    | ok _ => exact hygienic_pure ()
    | error err =>
      dsimp only
      split
      · exact hygienic_pure ()
      · exact hygienic_fail err
  · simp only [not_found_keeps_connection fault broken, decide_false, Bool.and_false,
      Bool.false_eq_true, if_false]
    exact fail_failsWith _

private theorem assign_hygienic {β : Type} {f : Closure (Slice β) (Slice β)} (first : Hygienic f) :
    Hygienic (assign f) := by
  refine hygienic_result first (fun r => ?_) fun fault _ s => ⟨_, rfl⟩
  cases r with
  | ok names => exact capture_hygienic names
  | error err => exact hygienic_bind (capture_hygienic _) fun _ => hygienic_fail err

theorem warehouseRoot_hygienic (cat : Option Text) : Hygienic (warehouseRoot cat : Closure κ Text) := by
  refine hygienic_bind hygienic_get fun s => ?_
  split
  · exact hygienic_pure _
  · have store : ∀ base : Text, Hygienic (do
        if trimSlashes base ≠ [] then
          Dialogue.modify fun s =>
            { s with warehouseRoots := (cat.getD [], trimSlashes base) :: s.warehouseRoots }
        pure (trimSlashes base) : Closure κ Text) := by
      intro base
      split
      · exact hygienic_bind (hygienic_modify _) fun _ => hygienic_pure _
      · exact hygienic_pure _
    cases cat with
    | none => exact rpc_then store
    | some name => exact rpc_then fun _ => hygienic_bind (hygienic_pure _) store

/-! ## The operations -/

/-- Whether an operation is `DropDatabase`. -/
def Operation.isDropDatabase : Operation → Bool
  | .dropDatabase .. => true
  | _ => false

/-- Every operation but `DropDatabase` is done with a connection once it is broken. -/
theorem other_operations_hygienic (cfg : Config) (op : Operation)
    (other : op.isDropDatabase = false) : Hygienic (op.closure cfg) := by
  cases op with
  | dropDatabase => cases other
  | getConfigValue | getCatalog | currentNotificationID | getNextNotifications | lock | checkLock =>
    exact rpc_then fun _ => capture_hygienic _
  | serverVersion =>
    refine rpc_then fun v => hygienic_bind (hygienic_modify _) fun _ => ?_
    split
    · split
      · exact hygienic_bind supportsCatalogs_hygienic fun _ => hygienic_modify _
      · exact hygienic_pure ()
    · exact hygienic_pure ()
  | getCatalogs =>
    refine hygienic_result (rpc_hygienic _) (fun r => ?_) fun fault broken => ?_
    · cases r with
      | ok names => exact hygienic_bind (hygienic_modify _) fun _ => capture_hygienic _
      | error err =>
        dsimp only
        split
        · exact hygienic_bind (hygienic_modify _) fun _ => hygienic_fail err
        · exact hygienic_fail err
    · simp only [unknown_method_keeps_connection fault broken, Bool.false_eq_true, if_false]
      exact fail_failsWith _
  | createCatalog | commitTransaction | abortTransaction | heartbeat | unlock =>
    exact rpc_hygienic _
  | dropCatalog => exact ifPresent_hygienic (rpc_hygienic _)
  | getAllDatabases =>
    refine resolved fun cat => ?_
    cases cat with
    | none => exact rpc_then fun _ => capture_hygienic _
    | some name =>
      dsimp only
      split
      · exact rpc_then fun _ => capture_hygienic _
      · exact rpc_then fun _ => capture_hygienic _
  | getDatabase | getAllTables | getTable | getTablesSeqChunk | getPartitionNames
  | getPartitionsByFilter | getTableColumnStatistics =>
    exact resolved fun _ => rpc_then fun _ => capture_hygienic _
  | createDatabase db =>
    refine resolved fun cat => ?_
    split
    · refine hygienic_bind (warehouseRoot_hygienic cat) fun base => ?_
      split
      · exact hygienic_fail _
      · exact rpc_hygienic _
    · exact rpc_hygienic _
  | alterDatabase | createTable | alterTable => exact resolved fun _ => rpc_hygienic _
  | getTables =>
    refine resolved fun _ => hygienic_bind (hygienic_foldlM (fun _ _ => ?_) _ _) fun _ => ?_
    · exact rpc_then fun _ => hygienic_pure _
    · exact capture_hygienic _
  | getTablesSeqNames | getPartitionsSeqNames =>
    exact resolved fun _ => assign_hygienic (rpc_hygienic _)
  | dropTable => exact resolved fun _ => ifPresent_hygienic (rpc_hygienic _)
  | getPartitions | getPartitionsSeqChunk | getPartitionNamesByValues =>
    exact resolved fun _ => tryReq_hygienic (rpc_then fun _ => capture_hygienic _)
      (rpc_then fun _ => capture_hygienic _)
  | addPartitions => exact resolved fun _ => hygienic_forM (fun _ => rpc_hygienic _) _
  | alterPartitions =>
    exact resolved fun _ =>
      hygienic_forM (fun _ => tryReq_hygienic (rpc_hygienic _) (rpc_hygienic _)) _
  | getPartitionsByNames =>
    refine resolved fun _ => hygienic_bind (hygienic_modify _) fun _ =>
      hygienic_bind (hygienic_forM (fun _ => ?_) _) fun _ => hygienic_modify _
    exact tryReq_hygienic (rpc_then fun _ => hygienic_modify _) (rpc_then fun _ => hygienic_modify _)
  | dropPartition =>
    exact resolved fun _ => ifPresent_hygienic (rpc_then fun _ => hygienic_pure _)
  | dropPartitionsByNames =>
    exact resolved fun _ => hygienic_forM (fun _ => ifPresent_hygienic (rpc_hygienic _)) _
  | openTransaction =>
    refine rpc_then fun ids => ?_
    split
    · exact hygienic_fail _
    · exact capture_hygienic _

/-! ## What `do` makes of it -/

section Attempt
variable {τ Conn : Type} (env : RetryLoop.Env τ Conn)

/-- What a closure returns to `do`. -/
def errorOf (r : Except Err Unit) : Option Err :=
  match r with
  | .ok _ => none
  | .error err => some err

/-- `do` puts a connection back exactly when the closure's error does not break it. -/
theorem released_iff (op : String) (idempotent : Bool) (idx n : Nat) (cn : Conn)
    (result : Option Err) (s : τ) :
    .release idx cn ∈ (RetryLoop.fnReturned env op idempotent idx n cn result s).events ↔
      ∀ err ∈ result, breaksConn err = false := by
  cases result with
  | none => simp [RetryLoop.fnReturned]
  | some err =>
    obtain ⟨done, -, events⟩ := RetryLoop.fnReturned_failed env op idempotent idx n cn err s
    have breaks : breaksConn err = (decide (classify err = .errUnavailable) || isProtocolError err) :=
      rfl
    rw [events]
    by_cases unavailable : classify err = .errUnavailable
    · cases done <;> simp [breaks, unavailable]
    · cases protocol : isProtocolError err <;> simp [breaks, unavailable, protocol]

/-- In an attempt with these exchanges and this result, nothing is put to a connection
after an exchange that broke it, and `do` does not put it back. -/
def LeavesBroken (op : Operation) (idx n : Nat) (cn : Conn) (s : τ)
    (log : List (Exchange metastore)) (r : Except Err Unit) : Prop :=
  ∀ before x after, log = before ++ x :: after → x.Breaks →
    after = [] ∧ .release idx cn ∉
      (RetryLoop.fnReturned env op.method op.idempotent idx n cn (errorOf r) s).events

/-- If `drop_database` failed, then either the failure says all there is to know, or it
left the connection usable and so does the request for the database. -/
def Operation.FollowsUpSafely (op : Operation) (log : List (Exchange metastore)) : Prop :=
  op.isDropDatabase = true → ∀ qname deleteData cascade fault,
    ⟨.dropDatabase qname deleteData cascade, .error fault⟩ ∈ log →
      classify fault.err = .errNotFound ∨ isProtocolError fault.err = true ∨
        (classify fault.err ≠ .errUnavailable ∧
          ∀ x ∈ log, ∀ name, x.op = .getDatabase name → ¬x.Breaks)

private theorem leaves_of_clean (clean : Clean (L := metastore) log r) :
    LeavesBroken env op idx n cn s log r := by
  rintro before x after rfl ⟨fault, failed, broken⟩
  obtain ⟨last, rfl⟩ := clean.last failed broken
  refine ⟨last, fun released => ?_⟩
  have keeps := (released_iff env _ _ idx n cn _ s).mp released fault.err rfl
  exact Bool.false_ne_true (keeps.symm.trans broken)

end Attempt

/-! ## Dropping a database -/

private theorem supportsCatalogs_asks :
    Asks (L := metastore) (· = Call.getCatalogs) (supportsCatalogs : Closure κ Bool) := by
  refine asks_bind (asks_of_silent fun s => ⟨_, rfl⟩) fun s => ?_
  split
  · exact asks_of_silent fun s => ⟨_, rfl⟩
  · exact asks_of_silent fun s => ⟨_, rfl⟩
  · refine asks_result (asks_request (L := metastore) rfl) fun r => asks_of_silent fun s => ?_
    cases r with
    | ok _ => exact ⟨_, rfl⟩
    | error err =>
      dsimp only
      split
      · exact ⟨_, rfl⟩
      · exact ⟨_, rfl⟩

private theorem resolveCat_asks (cfg : Config) (opts : CatalogOptions) :
    Asks (L := metastore) (· = Call.getCatalogs) (resolveCat cfg opts : Closure κ (Option Text)) := by
  refine asks_bind supportsCatalogs_asks fun support => asks_of_silent fun s => ?_
  split
  · exact ⟨_, rfl⟩
  · split
    · exact ⟨_, rfl⟩
    · exact ⟨_, rfl⟩

/-- What `DropDatabase` returns once it has settled on an error. -/
private def settle (ifExists : Bool) (err : Err) : Except Err Unit :=
  if ifExists && classify err = .errNotFound then .ok () else .error err

/-- The error `DropDatabase` settles on, given the answer about the database. -/
private def betterError (err : Err) : Except RpcErr Wire.Database → Err
  | .error gerr => if classify gerr.err = .errNotFound then gerr.err else err
  | .ok _ => err

private theorem dropError_run {r : Except Err Err} (ran : Run (dropError qname err s) log (r, s')) :
    ((classify err = .errNotFound ∨ isProtocolError err = true) ∧ log = [] ∧ r = .ok err) ∨
      (classify err ≠ .errNotFound ∧ isProtocolError err = false ∧
        ∃ answer, log = [⟨.getDatabase qname, answer⟩] ∧ r = .ok (betterError err answer)) := by
  unfold dropError at ran
  split at ran
  · next asks =>
    simp only [Bool.and_eq_true, decide_eq_true_eq, Bool.not_eq_true'] at asks
    obtain ⟨first, outcome, mid, second, asked, rest, rfl⟩ := Dialogue.run_result ran
    obtain ⟨answer, rfl, rfl, rfl⟩ := Dialogue.run_request (L := metastore) asked
    refine .inr ⟨asks.1, asks.2, answer, ?_⟩
    cases answer with
    | ok d =>
      obtain ⟨rfl, same⟩ := run_done rest
      cases same
      exact ⟨rfl, rfl⟩
    | error gerr =>
      obtain ⟨rfl, same⟩ := run_done rest
      cases same
      exact ⟨rfl, rfl⟩
  · next told =>
    obtain ⟨rfl, same⟩ := run_done ran
    cases same
    refine .inl ⟨?_, rfl, rfl⟩
    simp only [Bool.and_eq_true, decide_eq_true_eq, Bool.not_eq_true', not_and] at told
    by_cases notFound : classify err = .errNotFound
    · exact .inl notFound
    · exact .inr (by simpa using told notFound)

/-- The rest of an attempt after the answer to `drop_database`. -/
private inductive Dropped (ifExists : Bool) (qname : Text) :
    Except RpcErr Unit → List (Exchange metastore) → Except Err Unit → Prop where
  | done : Dropped ifExists qname (.ok ()) [] (.ok ())
  | told {fault : RpcErr} :
      classify fault.err = .errNotFound ∨ isProtocolError fault.err = true →
      Dropped ifExists qname (.error fault) [] (settle ifExists fault.err)
  | asked {fault : RpcErr} {answer : Except RpcErr Wire.Database} :
      classify fault.err ≠ .errNotFound → isProtocolError fault.err = false →
      Dropped ifExists qname (.error fault) [⟨.getDatabase qname, answer⟩]
        (settle ifExists (betterError fault.err answer))

private theorem dropDatabase_run
    (ran : Run (dropDatabase cfg name deleteData cascade ifExists opts s) log (r, s')) :
    ((∀ x ∈ log, x.op = .getCatalogs) ∧ Clean log r) ∨
      ∃ first qname answer rest, (∀ x ∈ first, x.op = .getCatalogs ∧ ¬x.Breaks) ∧
        log = first ++ ⟨.dropDatabase qname deleteData cascade, answer⟩ :: rest ∧
        Dropped ifExists qname answer rest r := by
  rcases Dialogue.run_then ran with ⟨e, failed, rfl⟩ | ⟨first, cat, mid, second, ok, rest, rfl⟩
  · refine .inl ⟨resolveCat_asks cfg opts _ _ _ _ failed, ?_⟩
    exact (resolveCatFor_hygienic cfg [] opts _ _ _ _ failed).of_error
  · have unbroken := (resolveCatFor_hygienic cfg [] opts _ _ _ _ ok).unbroken_of_ok
    have catalogs := resolveCat_asks cfg opts _ _ _ _ ok
    obtain ⟨asked, outcome, mid, more, dropped, after, rfl⟩ := Dialogue.run_result rest
    obtain ⟨answer, rfl, rfl, rfl⟩ := Dialogue.run_request (L := metastore) dropped
    refine .inr ⟨first, qualifyDBName cat name, answer, more,
      fun x inFirst => ⟨catalogs x inFirst, unbroken x inFirst⟩, rfl, ?_⟩
    cases answer with
    | ok reply =>
      obtain ⟨rfl, same⟩ := run_done after
      cases same
      exact .done
    | error fault =>
      rcases Dialogue.run_then after with
        ⟨e, failed, rfl⟩ | ⟨asked, err, mid, last, settled, final, rfl⟩
      · rcases dropError_run failed with ⟨-, -, same⟩ | ⟨-, -, answer, -, same⟩
        · cases same
        · cases same
      · have result : last = [] ∧ r = settle ifExists err := by
          unfold settle
          split at final
          · next swallow =>
            obtain ⟨rfl, same⟩ := run_done final
            cases same
            exact ⟨rfl, (if_pos swallow).symm⟩
          · next keep =>
            obtain ⟨rfl, same⟩ := run_done final
            cases same
            exact ⟨rfl, (if_neg keep).symm⟩
        obtain ⟨rfl, rfl⟩ := result
        rcases dropError_run settled with ⟨told, rfl, same⟩ | ⟨found, readable, answer, rfl, same⟩
        · cases same
          exact .told told
        · cases same
          exact .asked found readable

/-- What can follow an exchange that broke the connection: nothing, the fault being
reported; or a request for the database that could not be dropped; or nothing, the
exchange having been that request. -/
inductive AfterBreak (op : Operation) (fault : RpcErr) (before after : List (Exchange metastore))
    (r : Except Err Unit) : Prop where
  | reported : after = [] → r = .error fault.err → AfterBreak op fault before after r
  | asked (qname : Text) (answer : Except RpcErr Wire.Database) :
      after = [⟨.getDatabase qname, answer⟩] → classify fault.err = .errUnavailable →
      (r = .error fault.err ∨ ∃ gerr, answer = .error gerr ∧ classify gerr.err = .errNotFound) →
      AfterBreak op fault before after r
  | followed (first : List (Exchange metastore)) (qname : Text) (deleteData cascade : Bool)
      (dropped : RpcErr) : op.isDropDatabase = true →
      before = first ++ [⟨.dropDatabase qname deleteData cascade, .error dropped⟩] → after = [] →
      r = .error dropped.err → AfterBreak op fault before after r

private theorem settle_of_found (found : classify err ≠ .errNotFound) :
    settle ifExists err = .error err :=
  if_neg (by simp [found])

/-- After an answer that broke the connection, the error of the drop stands. -/
private theorem settled_after_break (broken : breaksConn gerr.err = true)
    (found : classify err ≠ .errNotFound) :
    settle ifExists (betterError err (.error gerr)) = .error err := by
  rw [betterError, if_neg (not_found_keeps_connection gerr broken)]
  exact settle_of_found found

private theorem dropped_after_break (broken : breaksConn fault.err = true)
    (dropped : Dropped ifExists qname (.error fault) rest r) :
    AfterBreak op fault before rest r := by
  have found := not_found_keeps_connection fault broken
  cases dropped with
  | told => exact .reported rfl (settle_of_found found)
  | @asked _ answer _ readable =>
    refine .asked qname answer rfl ?_ ?_
    · simpa [breaksConn, readable] using broken
    · cases answer with
      | ok d => exact .inl (settle_of_found found)
      | error gerr =>
        by_cases missing : classify gerr.err = .errNotFound
        · exact .inr ⟨gerr, rfl, missing⟩
        · rw [betterError, if_neg missing]
          exact .inl (settle_of_found found)

/-- An exchange that broke the connection is past those that did not. -/
private theorem past_unbroken (unbroken : ∀ y ∈ first, ¬y.Breaks) (breaks : x.Breaks)
    (same : before ++ x :: after = first ++ rest) :
    ∃ mid, before = first ++ mid ∧ rest = mid ++ x :: after := by
  rcases List.append_eq_append_iff.mp same with ⟨skipped, rfl, rest'⟩ | ⟨skipped, rfl, rest'⟩
  · cases skipped with
    | nil => exact ⟨[], by simp, rest'.symm⟩
    | cons y skipped =>
      obtain ⟨rfl, -⟩ := List.cons.inj rest'
      exact absurd breaks (unbroken x (by simp))
  · exact ⟨skipped, rfl, rest'⟩

/-- Every attempt, once one of its exchanges has broken the connection. -/
theorem run_after_break (cfg : Config) (op : Operation) {s s' : Session op.Captured}
    (ran : Run (op.closure cfg s) (before ++ x :: after) (r, s')) (failed : x.answer = .error fault)
    (broken : breaksConn fault.err = true) : AfterBreak op fault before after r := by
  by_cases other : op.isDropDatabase = false
  · obtain ⟨last, reported⟩ := (other_operations_hygienic cfg op other _ _ _ _ ran).last failed broken
    exact .reported last reported
  · cases op with
    | dropDatabase name deleteData cascade ifExists opts =>
      rcases dropDatabase_run ran with ⟨-, clean⟩ | ⟨first, qname, answer, rest, early, same, dropped⟩
      · obtain ⟨last, reported⟩ := clean.last failed broken
        exact .reported last reported
      · -- the probe before the drop broke nothing, so the exchange is the drop or what follows
        obtain ⟨mid, rfl, split⟩ :=
          past_unbroken (fun y inFirst => (early y inFirst).2) ⟨fault, failed, broken⟩ same
        cases mid with
        | nil =>
          obtain ⟨rfl, rfl⟩ := List.cons.inj split
          change answer = .error fault at failed
          subst failed
          exact dropped_after_break broken dropped
        | cons y mid =>
          obtain ⟨rfl, tail⟩ := List.cons.inj split
          cases dropped with
          | done => cases mid <;> cases tail
          | told => cases mid <;> cases tail
          | @asked dropped answer found _ =>
            cases mid with
            | nil =>
              obtain ⟨rfl, rfl⟩ := List.cons.inj tail
              change answer = .error fault at failed
              subst failed
              exact .followed first qname deleteData cascade dropped rfl rfl rfl
                (settled_after_break broken found)
            | cons y mid => cases mid <;> cases tail
    | _ => exact absurd rfl other

/-- The drop of an attempt is the only one. -/
private theorem only_drop (rest : List (Exchange metastore))
    (early : ∀ x ∈ first, x.op = .getCatalogs) (late : ∀ x ∈ rest, x.op = .getDatabase qname)
    (inLog : ⟨.dropDatabase qname' deleteData' cascade', .error fault⟩ ∈
      first ++ ⟨.dropDatabase qname deleteData cascade, answer⟩ :: rest) :
    answer = .error fault := by
  rcases List.mem_append.mp inLog with inFirst | inRest
  · cases early _ inFirst
  · rcases List.mem_cons.mp inRest with same | inLast
    · cases same
      rfl
    · cases late _ inLast

/-- If an RPC of `DropDatabase` failed as unavailable and the drop did not, then the drop's
error is the one returned. -/
theorem drop_failure_reported {name : Text} {s s' : Session Unit}
    (ran : Run (dropDatabase cfg name deleteData cascade ifExists opts s) log (r, s'))
    (asked : x ∈ log) (failed : x.answer = .error fault)
    (unavailable : classify fault.err = .errUnavailable) {deleteData' cascade' : Bool}
    {dropped : RpcErr} (inLog : ⟨.dropDatabase qname deleteData' cascade', .error dropped⟩ ∈ log)
    (other : classify dropped.err ≠ .errUnavailable) : r = .error dropped.err := by
  obtain ⟨before, after, rfl⟩ := List.append_of_mem asked
  have broken : breaksConn fault.err = true := by simp [breaksConn, unavailable]
  rcases dropDatabase_run ran with ⟨catalogs, -⟩ | ⟨first, qname', answer, rest, early, same, how⟩
  · cases catalogs _ inLog
  · have late : ∀ y ∈ rest, y.op = .getDatabase qname' := by cases how <;> simp
    rw [same] at inLog
    cases only_drop rest (fun y inFirst => (early y inFirst).1) late inLog
    obtain ⟨mid, rfl, split⟩ :=
      past_unbroken (fun y inFirst => (early y inFirst).2) ⟨fault, failed, broken⟩ same
    cases mid with
    | nil =>
      obtain ⟨rfl, -⟩ := List.cons.inj split
      cases failed
      exact absurd unavailable other
    | cons y mid =>
      have tail := (List.cons.inj split).2
      cases how with
      | told => cases mid <;> cases tail
      | @asked _ answer found _ =>
        cases mid with
        | nil =>
          obtain ⟨rfl, -⟩ := List.cons.inj tail
          change answer = .error fault at failed
          subst failed
          exact settled_after_break broken found
        | cons y mid => cases mid <;> cases tail

section Attempt
variable {τ Conn : Type} {env : RetryLoop.Env τ Conn} {idx n : Nat} {cn : Conn} {t : τ}
  {op : Operation} {first : List (Exchange metastore)} {qname : Text}
  {deleteData cascade ifExists : Bool}

variable {fault : RpcErr} {answer : Except RpcErr Wire.Database}

private theorem not_breaks_iff :
    ¬(⟨call, .error fault⟩ : Exchange metastore).Breaks ↔ breaksConn fault.err = false := by
  constructor
  · intro usable
    by_contra broken
    exact usable ⟨fault, rfl, by simpa using broken⟩
  · rintro usable ⟨_, same, broken⟩
    cases same
    exact Bool.false_ne_true (usable.symm.trans broken)

private theorem told_clean (unbroken : ∀ x ∈ first, ¬x.Breaks) :
    Clean (first ++ [⟨.dropDatabase qname deleteData cascade, .error fault⟩])
      (settle ifExists fault.err) := by
  refine clean_after_unbroken unbroken ⟨fun fault' failed broken => ⟨rfl, ?_⟩, trivial⟩
  cases failed
  exact settle_of_found (not_found_keeps_connection fault broken)

/-- After a drop that failed for another reason, the attempt is in order exactly when
neither the drop nor the request that followed broke the connection. -/
private theorem asked_leaves_iff (unbroken : ∀ x ∈ first, ¬x.Breaks)
    (found : classify fault.err ≠ .errNotFound) (readable : isProtocolError fault.err = false) :
    LeavesBroken env op idx n cn t
        (first ++
          [⟨.dropDatabase qname deleteData cascade, .error fault⟩, ⟨.getDatabase qname, answer⟩])
        (settle ifExists (betterError fault.err answer)) ↔
      classify fault.err ≠ .errUnavailable ∧
        ¬(⟨.getDatabase qname, answer⟩ : Exchange metastore).Breaks := by
  have usable_iff : breaksConn fault.err = false ↔ classify fault.err ≠ .errUnavailable := by
    simp [breaksConn, readable]
  constructor
  · intro leaves
    have usable : classify fault.err ≠ .errUnavailable := by
      intro unavailable
      have broken : breaksConn fault.err = true := by simp [breaksConn, unavailable]
      exact List.cons_ne_nil _ _ (leaves first _ _ rfl ⟨fault, rfl, broken⟩).1
    refine ⟨usable, fun breaks => ?_⟩
    obtain ⟨gerr, failed, broken⟩ := breaks
    change answer = .error gerr at failed
    subst failed
    have returned : settle ifExists (betterError fault.err (.error gerr)) = .error fault.err :=
      settled_after_break broken found
    have kept := (leaves (first ++ [⟨.dropDatabase qname deleteData cascade, .error fault⟩])
      ⟨.getDatabase qname, .error gerr⟩ [] (by simp) ⟨gerr, rfl, broken⟩).2
    rw [returned] at kept
    refine kept ((released_iff env _ _ idx n cn _ t).mpr ?_)
    rintro err ⟨⟩
    exact usable_iff.mpr usable
  · rintro ⟨usable, follow⟩
    refine leaves_of_clean env (clean_of_unbroken fun x inLog => ?_)
    rcases List.mem_append.mp inLog with inFirst | inRest
    · exact unbroken x inFirst
    · rcases List.mem_cons.mp inRest with rfl | inLast
      · exact not_breaks_iff.mpr (usable_iff.mpr usable)
      · rw [List.mem_singleton.mp inLast]
        exact follow

private theorem asked_follows_iff (early : ∀ x ∈ first, x.op = .getCatalogs)
    (isDrop : op.isDropDatabase = true) (found : classify fault.err ≠ .errNotFound)
    (readable : isProtocolError fault.err = false) :
    op.FollowsUpSafely
        (first ++
          [⟨.dropDatabase qname deleteData cascade, .error fault⟩, ⟨.getDatabase qname, answer⟩]) ↔
      classify fault.err ≠ .errUnavailable ∧
        ¬(⟨.getDatabase qname, answer⟩ : Exchange metastore).Breaks := by
  constructor
  · intro safe
    rcases safe isDrop qname deleteData cascade fault (by simp) with
      notFound | protocol | ⟨usable, follow⟩
    · exact absurd notFound found
    · exact absurd (readable.symm.trans protocol) (by decide)
    · exact ⟨usable, follow _ (by simp) qname rfl⟩
  · rintro ⟨usable, follow⟩ - qname' deleteData' cascade' fault' inLog
    have same := only_drop [_] early (by simp) inLog
    cases same
    refine .inr (.inr ⟨usable, fun x inLog name asks => ?_⟩)
    rcases List.mem_append.mp inLog with inFirst | inRest
    · cases asks.symm.trans (early x inFirst)
    · rcases List.mem_cons.mp inRest with rfl | inLast
      · cases asks
      · rw [List.mem_singleton.mp inLast]
        exact follow

/-- Once an RPC has broken the connection of an attempt, no operation puts another one
to it and `do` discards it, exactly when `DropDatabase` follows up safely. -/
theorem broken_connection_is_left_alone_iff (cfg : Config) (op : Operation)
    {s s' : Session op.Captured} {log : List (Exchange metastore)} {r : Except Err Unit}
    (ran : Run (op.closure cfg s) log (r, s')) (env : RetryLoop.Env τ Conn) (idx n : Nat)
    (cn : Conn) (t : τ) :
    LeavesBroken env op idx n cn t log r ↔ op.FollowsUpSafely log := by
  by_cases other : op.isDropDatabase = false
  · have clean := other_operations_hygienic cfg op other _ _ _ _ ran
    refine iff_of_true (leaves_of_clean env clean) fun isDrop => ?_
    exact absurd (other.symm.trans isDrop) (by decide)
  · cases op with
    | dropDatabase name deleteData cascade ifExists opts =>
      rcases dropDatabase_run ran with ⟨catalogs, clean⟩ |
        ⟨first, qname, answer, rest, early, rfl, dropped⟩
      · refine iff_of_true (leaves_of_clean env clean) fun _ _ _ _ _ inLog => ?_
        cases catalogs _ inLog
      · have unbroken : ∀ x ∈ first, ¬x.Breaks := fun x inFirst => (early x inFirst).2
        have catalogs : ∀ x ∈ first, x.op = .getCatalogs := fun x inFirst => (early x inFirst).1
        cases dropped with
        | done =>
          refine iff_of_true (leaves_of_clean env ?_) fun _ _ _ _ _ inLog => ?_
          · exact clean_after_unbroken unbroken ⟨fun _ failed => (nomatch failed), trivial⟩
          · cases only_drop [] catalogs (by simp) inLog
        | told told =>
          refine iff_of_true (leaves_of_clean env (told_clean unbroken)) fun _ _ _ _ _ inLog => ?_
          cases only_drop [] catalogs (by simp) inLog
          exact told.imp id .inl
        | asked found readable =>
          exact (asked_leaves_iff unbroken found readable).trans
            (asked_follows_iff catalogs rfl found readable).symm
    | _ => exact absurd rfl other

end Attempt

/-- A `do` whose world has no state. -/
private def stillEnv : RetryLoop.Env Unit Unit where
  pick s := (some 0, s)
  acquire _ s := (.ok (), s)
  fn _ s := (none, s)
  ctxErr s := (false, s)
  observe _ s := s
  release _ _ s := s
  discardWith _ _ _ s := s
  markFailed _ _ s := s
  markHealthy _ _ s := s

/-- No catalog, chunks of one. -/
def plainConfig : Config := ⟨[], 1, 1, id, by decide, by decide⟩

/-- `DropDatabase` of the database "d", if it exists. -/
private abbrev dropD : Operation := .dropDatabase [100] false false true []

private abbrev noCatalogs : Session Unit := ⟨.no, [], [], ()⟩

private def refused : RpcErr := ⟨.leaf (.exception .metaException), by decide⟩

/-- The server closed the connection. -/
def hungUp : RpcErr := ⟨.leaf .eof, by decide⟩

/-- The drop with its answer, and then the request for the database with its answer. -/
private abbrev dropLog (dropped : RpcErr) (answer : Except RpcErr Wire.Database) :
    List (Exchange metastore) :=
  [⟨.dropDatabase [100] false false, .error dropped⟩, ⟨.getDatabase [100], answer⟩]

/-- The drop was refused and the database is there: both answers leave the connection
usable. -/
theorem refused_drop_leaves_connection_usable :
    LeavesBroken stillEnv dropD 0 1 () () (dropLog refused (.ok {})) (.error refused.err) := by
  have ran : Run (dropD.closure plainConfig noCatalogs) (dropLog refused (.ok {}))
      (.error refused.err, noCatalogs) := .ask (.ask (.done _))
  refine (broken_connection_is_left_alone_iff plainConfig dropD ran stillEnv 0 1 () ()).mpr ?_
  intro _ qname deleteData cascade fault inLog
  have early : ∀ x ∈ ([] : List (Exchange metastore)), x.op = .getCatalogs := by simp
  cases only_drop [_] early (by simp) inLog
  refine .inr (.inr ⟨by decide, fun x inLog name asks => ?_⟩)
  rcases List.mem_cons.mp inLog with rfl | inLast
  · cases asks
  · rw [List.mem_singleton.mp inLast]
    rintro ⟨_, failed, _⟩
    cases failed

/-- The server hangs up on the drop, and the database is asked for all the same; or it
hangs up on that request, and the connection goes back to the pool. -/
theorem drop_uses_a_broken_connection :
    (Run (dropD.closure plainConfig noCatalogs) (dropLog hungUp (.ok {}))
        (.error hungUp.err, noCatalogs) ∧
      ¬LeavesBroken stillEnv dropD 0 1 () () (dropLog hungUp (.ok {})) (.error hungUp.err)) ∧
    (Run (dropD.closure plainConfig noCatalogs) (dropLog refused (.error hungUp))
        (.error refused.err, noCatalogs) ∧
      ¬LeavesBroken stillEnv dropD 0 1 () () (dropLog refused (.error hungUp))
        (.error refused.err)) := by
  refine ⟨⟨.ask (.ask (.done _)), fun leaves => ?_⟩, ⟨.ask (.ask (.done _)), fun leaves => ?_⟩⟩
  · cases (leaves [] _ _ rfl ⟨hungUp, rfl, by decide⟩).1
  · have kept := (leaves [_] _ [] rfl ⟨hungUp, rfl, by decide⟩).2
    refine kept ((released_iff stillEnv _ _ 0 1 () _ ()).mpr ?_)
    rintro err ⟨⟩
    decide

end HmsClient
