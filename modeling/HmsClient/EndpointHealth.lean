import HmsClient.Attempts
import HmsClient.CatalogRouting

/-! What it takes for `do` to clear an endpoint's cooldown. An attempt that ends in
anything but an unavailable error marks its endpoint healthy, also when the operation
put no request to it: its list was empty, or the connection remembers that the server
has no catalogs. The last theorem says exactly when the mark is not owed to an answer. -/
namespace HmsClient
open PeerScript

variable {κ : Type}

/-! ## Closures that ask nothing -/

/-- The operation puts no request once its catalog is resolved: its list is empty, or
the root for its database is remembered as empty. -/
def Operation.asksNothing (caches : Caches) (cat : Option Text) : Operation → Prop
  | .getTables _ names _ | .getPartitionsByNames _ _ names _
  | .dropPartitionsByNames _ _ names _ _ _ => names = []
  | .addPartitions _ _ partitions _ _ | .alterPartitions _ _ partitions _ => partitions = []
  | .createDatabase db =>
    db.locationURI = [] ∧ caches.warehouseRoots.lookup (cat.getD []) = some []
  | _ => False

/-- The operation puts no request at all on a connection with these caches: its catalog
is resolved without one, and then it is refused or there is nothing to ask. -/
def Operation.finishesLocally (cfg : Config) (caches : Caches) (op : Operation) : Prop :=
  ∃ structCat opts, op.scope = some (structCat, opts) ∧
    match caches.catalogs with
    | .unknown => False
    | .yes => op.asksNothing caches (some (effectiveCatalog cfg structCat opts))
    | .no => effectiveCatalog cfg structCat opts ≠ defaultCatalog ∨ op.asksNothing caches none

/-- A run asks nothing exactly under this condition, and does not fail as unavailable then. -/
private def Decided (silent : Prop) (log : List (Exchange metastore)) (r : Except Err Unit) : Prop :=
  (log = [] ↔ silent) ∧ (log = [] → ∀ err, r = .error err → classify err ≠ .errUnavailable)

variable {silent : Prop} {log : List (Exchange metastore)} {r : Except Err Unit} {s s' : Session κ}

private theorem decided_of_asked (asked : log ≠ []) (speaks : ¬silent) : Decided silent log r :=
  ⟨iff_of_false asked speaks, fun empty => absurd empty asked⟩

private theorem decided_of_ok (ends : silent) : Decided silent [] (.ok ()) :=
  ⟨iff_of_true rfl ends, fun _ _ failed => (nomatch failed)⟩

private theorem decided_of_error (ends : silent) (other : classify err ≠ .errUnavailable) :
    Decided silent [] (.error err) :=
  ⟨iff_of_true rfl ends, fun _ _ failed => by cases failed; exact other⟩

section Resolved
variable {cfg : Config} {structCat : Text} {opts : CatalogOptions} {caches : Caches} {k : κ}
  {f : Option Text → Closure κ Unit} {silent : Option Text → Prop}

/-- What the closure puts after the catalog is resolved decides, unless the resolution
itself asks or fails. -/
private theorem resolved_decided
    (rest : ∀ cat support s' log r,
      Run (f cat { caches.session k with catalogs := support }) log (r, s') →
        Decided (silent cat) log r)
    (ran : Run ((resolveCatFor cfg structCat opts >>= f) (caches.session k)) log (r, s')) :
    Decided
      (match caches.catalogs with
      | .unknown => False
      | .yes => silent (some (effectiveCatalog cfg structCat opts))
      | .no => effectiveCatalog cfg structCat opts ≠ defaultCatalog ∨ silent none) log r := by
  rcases Dialogue.run_then ran with ⟨e, failed, rfl⟩ | ⟨first, cat, mid, second, ok, more, rfl⟩
  · obtain ⟨support, found, -, probed, refused⟩ := resolveCatFor_run failed
    change Probed caches.catalogs log found support at probed
    generalize caches.catalogs = known at probed ⊢
    cases probed with
    | yes => cases refused
    | no =>
      by_cases isDefault : effectiveCatalog cfg structCat opts = defaultCatalog
      · rw [resolution, if_pos isDefault] at refused
        cases refused
      · rw [resolution, if_neg isDefault] at refused
        cases refused
        exact decided_of_error (.inl isDefault) (by decide)
    | supported | unsupported | failed => exact decided_of_asked (by simp) id
  · obtain ⟨support, found, rfl, probed, resolved⟩ := resolveCatFor_run ok
    have decided := rest cat support _ _ _ more
    change Probed caches.catalogs first found support at probed
    generalize caches.catalogs = known at probed ⊢
    cases probed with
    | yes =>
      cases resolved
      exact decided
    | no =>
      by_cases isDefault : effectiveCatalog cfg structCat opts = defaultCatalog
      · rw [resolution, if_pos isDefault] at resolved
        cases resolved
        simpa [isDefault] using decided
      · rw [resolution, if_neg isDefault] at resolved
        cases resolved
    | supported | unsupported | failed => exact decided_of_asked (by simp) id

private theorem never_silent (speaks : ∀ cat, Speaks (f cat)) (cat : Option Text)
    (support : CatalogSupport) (s' : Session κ) (log : List (Exchange metastore))
    (r : Except Err Unit) (ran : Run (f cat { caches.session k with catalogs := support }) log (r, s')) :
    Decided False log r :=
  decided_of_asked (speaks cat _ _ _ _ ran) id

end Resolved

private theorem rpc_speaks (call : Call) : Speaks (rpc call : Closure κ call.Reply) :=
  speaks_request (L := metastore) call

private theorem tryReq_speaks (first : Speaks req) (second : Speaks legacy) :
    Speaks (tryReq method req legacy) := by
  refine speaks_get_then fun s => ?_
  split
  · exact second
  · exact speaks_result first

private theorem batches_speak (size : Nat) (x : α) (xs : List α)
    (speaks : ∀ chunk, Speaks (each chunk)) :
    Speaks ((batches size (x :: xs).length (x :: xs)).forM each) :=
  speaks_bind (speaks _)

private theorem decided_of_nil (ran : Run (.done (.ok (), s)) log (r, s')) :
    Decided (([] : List α) = []) log r := by
  obtain ⟨rfl, same⟩ := run_done ran
  cases same
  exact decided_of_ok rfl

private theorem decided_of_cons (asked : log ≠ []) : Decided (x :: xs = []) log r :=
  decided_of_asked asked (List.cons_ne_nil x xs)

/-- A remembered root is taken; else the server is asked for it. -/
private theorem warehouseRoot_run {r : Except Err Text}
    (ran : Run (warehouseRoot cat s) log (r, s')) :
    (s.warehouseRoots.lookup (cat.getD []) = none ∧ log ≠ []) ∨
      ∃ root, s.warehouseRoots.lookup (cat.getD []) = some root ∧ log = [] ∧ r = .ok root := by
  rw [warehouseRoot, Dialogue.get_then] at ran
  cases known : s.warehouseRoots.lookup (cat.getD []) with
  | some root =>
    rw [known] at ran
    obtain ⟨rfl, same⟩ := run_done ran
    cases same
    exact .inr ⟨root, rfl, rfl, rfl⟩
  | none =>
    rw [known] at ran
    refine .inl ⟨rfl, ?_⟩
    cases cat with
    | none => exact speaks_bind (rpc_speaks _) _ _ _ _ ran
    | some name => exact speaks_bind (rpc_speaks _) _ _ _ _ ran

private theorem rooted_decided (ran : Run ((warehouseRoot cat >>= f) s) log (r, s'))
    (unknown : ∀ s, ∃ err, f [] s = .done (.error err, s) ∧ classify err ≠ .errUnavailable)
    (speaks : ∀ base, base ≠ [] → Speaks (f base)) :
    Decided (s.warehouseRoots.lookup (cat.getD []) = some []) log r := by
  rcases Dialogue.run_then ran with ⟨e, failed, -⟩ | ⟨first, base, mid, second, ok, rest, rfl⟩
  · rcases warehouseRoot_run failed with ⟨forgotten, asked⟩ | ⟨root, -, -, same⟩
    · exact decided_of_asked asked (by simp [forgotten])
    · cases same
  · rcases warehouseRoot_run ok with ⟨forgotten, asked⟩ | ⟨root, known, rfl, same⟩
    · exact decided_of_asked (by simp [asked]) (by simp [forgotten])
    · cases same
      by_cases empty : base = []
      · subst empty
        obtain ⟨err, fails, other⟩ := unknown mid
        rw [fails] at rest
        obtain ⟨rfl, same⟩ := run_done rest
        cases same
        exact decided_of_error known other
      · exact decided_of_asked (speaks base empty _ _ _ _ rest) (by simp [known, empty])

/-- An attempt puts no request exactly when the operation finishes locally. -/
private theorem closure_decided (cfg : Config) (op : Operation) (caches : Caches) (k : op.Captured)
    {s' : Session op.Captured} (ran : Run (op.closure cfg (caches.session k)) log (r, s')) :
    Decided (op.finishesLocally cfg caches) log r := by
  -- an operation outside catalogs speaks; one within them is decided by what follows
  have outside : op.scope = none → Speaks (op.closure cfg) →
      Decided (op.finishesLocally cfg caches) log r := by
    intro unscoped speaks
    refine decided_of_asked (speaks _ _ _ _ ran) ?_
    rintro ⟨structCat, opts, scope, -⟩
    cases unscoped.symm.trans scope
  have within : ∀ {structCat opts} {f : Option Text → Closure op.Captured Unit},
      op.scope = some (structCat, opts) → op.closure cfg = resolveCatFor cfg structCat opts >>= f →
      (∀ cat support s' log r, Run (f cat { caches.session k with catalogs := support }) log (r, s') →
        Decided (op.asksNothing caches cat) log r) →
      Decided (op.finishesLocally cfg caches) log r := by
    intro structCat opts f scope shape rest
    rw [shape] at ran
    obtain ⟨unasked, other⟩ := resolved_decided rest ran
    refine ⟨unasked.trans ⟨fun silent => ⟨_, _, scope, silent⟩, ?_⟩, other⟩
    rintro ⟨_, _, same, silent⟩
    cases scope.symm.trans same
    exact silent
  cases op with
  | getConfigValue | serverVersion | getCatalog | currentNotificationID | getNextNotifications
  | openTransaction | lock | checkLock => exact outside rfl (speaks_bind (rpc_speaks _))
  | getCatalogs | dropCatalog => exact outside rfl (speaks_result (rpc_speaks _))
  | createCatalog | commitTransaction | abortTransaction | heartbeat | unlock =>
    exact outside rfl (rpc_speaks _)
  | getAllDatabases =>
    refine within rfl rfl (never_silent fun cat => ?_)
    cases cat with
    | none => exact speaks_bind (rpc_speaks _)
    | some name =>
      dsimp only
      split
      · exact speaks_bind (rpc_speaks _)
      · exact speaks_bind (rpc_speaks _)
  | getDatabase | getAllTables | getTable | getTablesSeqChunk | getPartitionNames
  | getPartitionsByFilter =>
    exact within rfl rfl (never_silent fun _ => speaks_bind (rpc_speaks _))
  | createDatabase db =>
    refine within rfl rfl fun cat support s' log r ran => ?_
    by_cases located : db.locationURI = []
    · rw [if_pos located] at ran
      have decided : Decided (caches.warehouseRoots.lookup (cat.getD []) = some []) log r :=
        rooted_decided ran (fun s => ⟨_, rfl, by decide⟩)
          fun base found => by simpa only [if_neg found] using rpc_speaks _
      simpa [Operation.asksNothing, located] using decided
    · rw [if_neg located] at ran
      exact decided_of_asked (rpc_speaks _ _ _ _ _ ran) fun silent => located silent.1
  | alterDatabase | createTable | alterTable =>
    exact within rfl rfl (never_silent fun _ => rpc_speaks _)
  | dropDatabase | getTablesSeqNames | dropTable | getPartitionsSeqNames =>
    exact within rfl rfl (never_silent fun _ => speaks_result (rpc_speaks _))
  | getTables dbName names opts =>
    refine within rfl rfl fun _ _ _ _ _ ran => ?_
    cases names with
    | nil => exact decided_of_nil ran
    | cons x xs =>
      exact decided_of_cons (speaks_bind (speaks_bind (speaks_bind (rpc_speaks _))) _ _ _ _ ran)
  | getPartitions | getPartitionsSeqChunk | getPartitionNamesByValues =>
    exact within rfl rfl (never_silent fun _ =>
      tryReq_speaks (speaks_bind (rpc_speaks _)) (speaks_bind (rpc_speaks _)))
  | addPartitions dbName tableName partitions ifNotExists opts =>
    refine within rfl rfl fun _ _ _ _ _ ran => ?_
    cases partitions with
    | nil => exact decided_of_nil ran
    | cons x xs => exact decided_of_cons (batches_speak _ x xs (fun _ => rpc_speaks _) _ _ _ _ ran)
  | alterPartitions dbName tableName partitions opts =>
    refine within rfl rfl fun _ _ _ _ _ ran => ?_
    cases partitions with
    | nil => exact decided_of_nil ran
    | cons x xs =>
      refine decided_of_cons (batches_speak _ x xs (fun _ => ?_) _ _ _ _ ran)
      exact tryReq_speaks (rpc_speaks _) (rpc_speaks _)
  | getPartitionsByNames dbName tableName names opts =>
    refine within rfl rfl fun _ _ _ _ _ ran => ?_
    cases names with
    | nil => exact decided_of_nil ran
    | cons x xs =>
      refine decided_of_cons
        (speaks_modify_then (speaks_bind (batches_speak _ x xs fun _ => ?_)) _ _ _ _ ran)
      exact tryReq_speaks (speaks_bind (rpc_speaks _)) (speaks_bind (rpc_speaks _))
  | dropPartition =>
    exact within rfl rfl (never_silent fun _ => speaks_result (speaks_bind (rpc_speaks _)))
  | dropPartitionsByNames dbName tableName names deleteData ifExists opts =>
    refine within rfl rfl fun _ _ _ _ _ ran => ?_
    cases names with
    | nil => exact decided_of_nil ran
    | cons x xs =>
      exact decided_of_cons (batches_speak _ x xs (fun _ => speaks_result (rpc_speaks _)) _ _ _ _ ran)
  | getTableColumnStatistics =>
    exact within rfl rfl (never_silent fun _ => speaks_bind (rpc_speaks _))

/-! ## Answers -/

section Health
variable {τ Conn : Type}

/-- `do` marks the endpoint healthy unless the closure's error is an unavailable one. -/
theorem marked_healthy_iff (env : RetryLoop.Env τ Conn) (op : String) (idempotent : Bool)
    (idx n : Nat) (cn : Conn) (result : Option Err) (s : τ) (i : Nat) :
    (∃ reason, .markHealthy i reason ∈
        (RetryLoop.fnReturned env op idempotent idx n cn result s).events) ↔
      i = idx ∧ ∀ err ∈ result, classify err ≠ .errUnavailable := by
  cases result with
  | none => simp [RetryLoop.fnReturned]
  | some err =>
    obtain ⟨done, -, events⟩ := RetryLoop.fnReturned_failed env op idempotent idx n cn err s
    rw [events]
    by_cases unavailable : classify err = .errUnavailable
    · cases done <;> simp [unavailable]
    · cases isProtocolError err <;> simp [unavailable]

/-- Which endpoints have answered. `heard` says of a request over a connection that a
reply came back, and `greeted` that an `acquire` dials and that the new connection's
`set_ugi` is answered. The Thrift library fails with anything but a transport or a
protocol error only out of a reply. -/
structure Hearing (τ Conn : Type) where
  heard : Conn → Sent metastore τ → Prop
  greeted : Nat → τ → Prop
  ok_heard : ∀ cn x reply, x.answer = .ok reply → heard cn x
  usable_heard : ∀ cn x fault, x.answer = .error fault → breaksConn fault.err = false → heard cn x

namespace Hearing

variable (H : Hearing τ Conn) (S : Surroundings τ Conn) (cfg : Config) (op : Operation)
  (pass : RetryLoop.Pass (τ × op.Captured))

/-- In this pass the endpoint answered a request. -/
def Answered (idx : Nat) : Prop :=
  ∃ mid cn start, pass.Acquires (S.env cfg op) idx mid (.ok cn) start ∧
    (H.greeted idx mid.1 ∨ ∃ x ∈ (S.invocation cfg op cn start).log, H.heard cn x)

/-- The first request of an attempt got no reply, and failed all the same with an error
that is not an unavailable one. -/
def LostFirst (cn : Conn) (log : List (Sent metastore τ)) : Prop :=
  ∃ x rest fault, log = x :: rest ∧ ¬H.heard cn x ∧ x.answer = .error fault ∧
    classify fault.err ≠ .errUnavailable

/-- This pass gets a connection that was not greeted in it, and the operation finishes
locally or loses its first request. -/
def Unanswered : Prop :=
  ∃ idx mid cn start, pass.Acquires (S.env cfg op) idx mid (.ok cn) start ∧
    ¬H.greeted idx mid.1 ∧
    (op.finishesLocally cfg (S.load cn start.1) ∨ H.LostFirst cn (S.invocation cfg op cn start).log)

end Hearing

section Pass
variable {H : Hearing τ Conn} {S : Surroundings τ Conn} {cfg : Config} {op : Operation}
  {pass : RetryLoop.Pass (τ × op.Captured)} {cn : Conn} {start : τ × op.Captured}

/-- A request without a reply broke the connection. -/
private theorem unheard_breaks (unheard : ¬H.heard cn x) :
    ∃ fault, x.answer = .error fault ∧ breaksConn fault.err = true := by
  cases answer : x.answer with
  | ok reply => exact absurd (H.ok_heard cn x reply answer) unheard
  | error fault =>
    refine ⟨fault, rfl, ?_⟩
    by_contra usable
    exact unheard (H.usable_heard cn x fault answer (by simpa using usable))

private theorem errorOf_eq_some (failed : errorOf r = some err) : r = .error err := by
  cases r with
  | ok _ => cases failed
  | error e =>
    cases failed
    rfl

private theorem silent_unheard
    (silent : op.finishesLocally cfg (S.load cn start.1) ∨
      H.LostFirst cn (S.invocation cfg op cn start).log) :
    ∀ x ∈ (S.invocation cfg op cn start).log, ¬H.heard cn x := by
  have ran := S.invocation_run cfg op cn start
  rcases silent with silent | ⟨x, rest, fault, sent, unheard, failed, answered⟩
  · have unasked := (closure_decided cfg op _ _ ran).1.mpr silent
    simp [List.map_eq_nil_iff.mp unasked]
  · obtain ⟨fault', failed', broken⟩ := unheard_breaks unheard
    cases failed.symm.trans failed'
    rw [sent] at ran ⊢
    have after : AfterBreak op fault [] (rest.map Sent.toExchange) _ :=
      run_after_break cfg op ran failed broken
    cases after with
    | reported last =>
      cases List.map_eq_nil_iff.mp last
      simpa using unheard
    | asked _ _ _ unavailable => exact absurd unavailable answered
    | followed first _ _ _ _ _ split => cases first <;> cases split

/-- If no request of an attempt was answered, then it ends as anything but unavailable
exactly when the operation finished locally or lost its first request. -/
private theorem unheard_result_iff
    (unheard : ∀ x ∈ (S.invocation cfg op cn start).log, ¬H.heard cn x) :
    (∀ err ∈ errorOf (S.invocation cfg op cn start).outcome.1, classify err ≠ .errUnavailable) ↔
      op.finishesLocally cfg (S.load cn start.1) ∨
        H.LostFirst cn (S.invocation cfg op cn start).log := by
  have ran := S.invocation_run cfg op cn start
  obtain ⟨unasked, other⟩ := closure_decided cfg op _ _ ran
  cases sent : (S.invocation cfg op cn start).log with
  | nil =>
    rw [sent] at unasked other
    refine iff_of_true (fun err failed => other rfl err (errorOf_eq_some failed)) (.inl ?_)
    exact unasked.mp rfl
  | cons x rest =>
    obtain ⟨fault, failed, broken⟩ := unheard_breaks (unheard x (by simp [sent]))
    rw [sent] at ran unasked
    have spoken : ¬op.finishesLocally cfg (S.load cn start.1) := fun silent => by
      cases unasked.mpr silent
    have reported : (S.invocation cfg op cn start).outcome.1 = .error fault.err := by
      have after : AfterBreak op fault [] (rest.map Sent.toExchange) _ :=
        run_after_break cfg op ran failed broken
      cases after with
      | reported _ reported => exact reported
      | asked qname answer only _ reported =>
        rcases reported with reported | ⟨gerr, rfl, missing⟩
        · exact reported
        · -- a reply that the database is missing would have been heard
          obtain ⟨y, inRest, same⟩ := List.mem_map.mp (only ▸ List.mem_singleton_self _)
          obtain ⟨fault', failed', broken'⟩ := unheard_breaks (unheard y (by simp [sent, inRest]))
          rw [same] at failed'
          cases failed'
          exact absurd missing (not_found_keeps_connection gerr broken')
      | followed first _ _ _ _ _ split => cases first <;> cases split
    rw [reported]
    constructor
    · intro answered
      exact .inr ⟨x, rest, fault, rfl, unheard x (by simp [sent]), failed, answered _ rfl⟩
    · rintro (silent | ⟨x', rest', fault', same, -, failed', answered⟩) err ⟨⟩
      · exact absurd silent spoken
      · cases same
        cases failed.symm.trans failed'
        exact answered

private theorem pass_marks_iff (idx : Nat) :
    (∃ reason, .markHealthy idx reason ∈ (S.round cfg op pass).events) ↔
      ∃ mid cn start, pass.Acquires (S.env cfg op) idx mid (.ok cn) start ∧
        ∀ err ∈ errorOf (S.invocation cfg op cn start).outcome.1, classify err ≠ .errUnavailable := by
  rcases pass.cases (S.env cfg op) with
    ⟨mid, unpicked⟩ | ⟨idx', mid, err, start, fails⟩ | ⟨idx', mid, cn, start, gets⟩
  · refine iff_of_false ?_ ?_
    · simp [Surroundings.round, RetryLoop.Pass.round_of_unpicked unpicked]
    · rintro ⟨mid', cn, start, gets, -⟩
      cases unpicked.symm.trans gets.picked
  · refine iff_of_false ?_ ?_
    · rw [Surroundings.round, fails.failed_round]
      simp only [RetryLoop.acquireFailed, RetryLoop.Round.after]
      split <;> simp
    · rintro ⟨mid', cn, start', gets, -⟩
      cases (fails.unique gets).2.2.1
  · have marked := marked_healthy_iff (S.env cfg op) op.method op.idempotent idx' pass.number cn
      ((S.env cfg op).fn cn start).1 ((S.env cfg op).fn cn start).2 idx
    rw [Surroundings.round, gets.round]
    simp only [RetryLoop.Round.after, List.mem_append, List.mem_cons, List.not_mem_nil,
      reduceCtorEq, or_false, false_or]
    refine marked.trans ⟨?_, ?_⟩
    · rintro ⟨rfl, answered⟩
      exact ⟨mid, cn, start, gets, answered⟩
    · rintro ⟨mid', cn', start', gets', answered⟩
      obtain ⟨rfl, rfl, same, rfl⟩ := gets.unique gets'
      cases same
      exact ⟨rfl, answered⟩

private theorem pass_marks_answered_iff :
    (∀ idx reason, .markHealthy idx reason ∈ (S.round cfg op pass).events →
        H.Answered S cfg op pass idx) ↔ ¬H.Unanswered S cfg op pass := by
  constructor
  · rintro owed ⟨idx, mid, cn, start, gets, ungreeted, silent⟩
    have unheard := silent_unheard silent
    have answered := (unheard_result_iff unheard).mpr silent
    obtain ⟨reason, marked⟩ := (pass_marks_iff idx).mpr ⟨mid, cn, start, gets, answered⟩
    obtain ⟨mid', cn', start', gets', greeted | ⟨x, inLog, heard⟩⟩ := owed idx reason marked
    · obtain ⟨-, rfl, -, -⟩ := gets.unique gets'
      exact ungreeted greeted
    · obtain ⟨-, -, same, rfl⟩ := gets.unique gets'
      cases same
      exact unheard x inLog heard
  · intro spoken idx reason marked
    obtain ⟨mid, cn, start, gets, answered⟩ := (pass_marks_iff idx).mp ⟨reason, marked⟩
    by_contra unanswered
    have ungreeted : ¬H.greeted idx mid.1 := fun greeted =>
      unanswered ⟨mid, cn, start, gets, .inl greeted⟩
    have unheard : ∀ x ∈ (S.invocation cfg op cn start).log, ¬H.heard cn x := fun x inLog heard =>
      unanswered ⟨mid, cn, start, gets, .inr ⟨x, inLog, heard⟩⟩
    exact spoken ⟨idx, mid, cn, start, gets, ungreeted, (unheard_result_iff unheard).mp answered⟩

end Pass

/-- In every call of every operation, whatever happens around it, `do` marks an endpoint
healthy only in attempts in which the endpoint answered, exactly when no attempt on a
pooled connection finishes locally or loses its first request. -/
theorem cleared_only_by_an_answer_iff (S : Surroundings τ Conn) (H : Hearing τ Conn)
    (cfg : Config) (op : Operation) (maxRetries : Nat) (s : τ × op.Captured) :
    (∀ pass ∈ S.passes cfg op maxRetries s, ∀ idx reason,
        .markHealthy idx reason ∈ (S.round cfg op pass).events → H.Answered S cfg op pass idx) ↔
      ∀ pass ∈ S.passes cfg op maxRetries s, ¬H.Unanswered S cfg op pass :=
  forall₂_congr fun _ _ => pass_marks_answered_iff

end Health

/-- One endpoint, whose pooled connection remembers whether its server has catalogs, and
whose server would hang up on any request. -/
private def pooled (catalogs : CatalogSupport) : Surroundings Unit Unit where
  pick s := (some 0, s)
  acquire _ s := (.ok (), s)
  ctxErr s := (false, s)
  observe _ s := s
  release _ _ s := s
  discardWith _ _ _ s := s
  markFailed _ _ s := s
  markHealthy _ _ s := s
  load _ _ := ⟨catalogs, [], []⟩
  store _ _ s := s
  answer _ _ s := (.error hungUp, s)

/-- Any request that is put counts as answered, but nothing is dialed. -/
private def anyRequest : Hearing Unit Unit := ⟨fun _ _ => True, fun _ _ => False, by simp, by simp⟩

/-- `GetTables` of no tables, and `GetAllTables` in the catalog "x" of a server without
catalogs, mark an endpoint healthy that was asked nothing. -/
theorem cleared_without_a_request :
    (∃ pass ∈ (pooled .yes).passes plainConfig (.getTables [100] [] []) 1 ((), []),
      .markHealthy 0 "get_table_objects_by_name_req" ∈
        ((pooled .yes).round plainConfig (.getTables [100] [] []) pass).events ∧
      ¬anyRequest.Answered (pooled .yes) plainConfig (.getTables [100] [] []) pass 0) ∧
    ∃ pass ∈ (pooled .no).passes plainConfig (.getAllTables [100] [[120]]) 1 ((), none),
      .markHealthy 0 "get_all_tables" ∈
        ((pooled .no).round plainConfig (.getAllTables [100] [[120]]) pass).events ∧
      ¬anyRequest.Answered (pooled .no) plainConfig (.getAllTables [100] [[120]]) pass 0 := by
  refine ⟨⟨⟨none, 1, (), []⟩, .head _, ?_, ?_⟩, ⟨none, 1, (), none⟩, .head _, ?_, ?_⟩
  · exact .tail _ (.tail _ (.tail _ (.tail _ (.tail _ (.head _)))))
  · rintro ⟨mid, cn, start, -, greeted | ⟨x, inLog, -⟩⟩
    · exact greeted
    · cases inLog
  · exact .tail _ (.tail _ (.tail _ (.tail _ (.tail _ (.head _)))))
  · rintro ⟨mid, cn, start, -, greeted | ⟨x, inLog, -⟩⟩
    · exact greeted
    · cases inLog

end HmsClient
