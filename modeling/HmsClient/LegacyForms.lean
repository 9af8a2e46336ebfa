import HmsClient.CatalogRouting

/-! The request forms of methods that older servers know only in a legacy form. A
connection that was told so once remembers it: however many operations run on it, it puts
a request form that the server does not know once at most, and goes straight to the legacy
form from then on. -/
namespace HmsClient
open PeerScript

variable {κ α : Type}

/-- The method under which a connection remembers that the server lacks a request. -/
def Call.requestForm : Call → Option String
  | .getPartitionsReq _ => some "get_partitions_req"
  | .getPartitionsByNamesReq _ => some "get_partitions_by_names_req"
  | .getPartitionNamesPsReq _ => some "get_partition_names_ps_req"
  | .alterPartitionsReq _ => some "alter_partitions_req"
  | _ => none

/-- The answer says that the server does not know the method. -/
def answeredUnknown (x : Exchange metastore) : Bool :=
  match x.answer with
  | .ok _ => false
  | .error fault => isUnknownMethod fault.err

/-- A request form of the method that the server does not know. -/
def Refuses (method : String) (x : Exchange metastore) : Prop :=
  x.op.requestForm = some method ∧ answeredUnknown x = true

/-- After a request form was refused the connection remembers it, and as long as it does
it puts none. -/
structure Switches (method : String) (log : List (Exchange metastore)) (s s' : Session κ) :
    Prop where
  kept : method ∈ s.fallback → method ∈ s'.fallback
  unasked : method ∈ s.fallback → ∀ x ∈ log, x.op.requestForm ≠ some method
  marked : ∀ x ∈ log, Refuses method x → method ∈ s'.fallback
  last : log.Pairwise fun x y => Refuses method x → y.op.requestForm ≠ some method

theorem switches_composes (method : String) : Composes (Switches (κ := κ) method) where
  nil s := ⟨id, by simp, by simp, .nil⟩
  append {log more s mid s'} first second := by
    refine ⟨second.kept ∘ first.kept, fun known x inLog => ?_, fun x inLog refused => ?_, ?_⟩
    · rcases List.mem_append.mp inLog with inFirst | inSecond
      · exact first.unasked known x inFirst
      · exact second.unasked (first.kept known) x inSecond
    · rcases List.mem_append.mp inLog with inFirst | inSecond
      · exact second.kept (first.marked x inFirst refused)
      · exact second.marked x inSecond refused
    · refine List.pairwise_append.mpr ⟨first.last, second.last, fun x inFirst y inSecond refused => ?_⟩
      exact second.unasked (first.marked x inFirst refused) y inSecond

/-! ## Single requests -/

/-- What a closure returns that ends with this exchange: its error, or none. -/
structure Ends (x : Exchange metastore) (r : Except Err α) : Prop where
  fails : ∀ fault, x.answer = .error fault → r = .error fault.err
  succeeds : ∀ reply, x.answer = .ok reply → ∃ a, r = .ok a

/-- The closure puts one request, fails if that does, and leaves `fallback` alone. -/
def PutsOne (call : Call) (d : Closure κ α) : Prop :=
  ∀ s s' log r, Run (d s) log (r, s') →
    s'.fallback = s.fallback ∧ ∃ answer, log = [⟨call, answer⟩] ∧ Ends ⟨call, answer⟩ r

private theorem ends_raised (answer : Except RpcErr call.Reply) :
    Ends ⟨call, answer⟩ (answer.mapError RpcErr.err) := by
  cases answer with
  | ok reply => exact ⟨nofun, fun _ _ => ⟨reply, rfl⟩⟩
  | error fault =>
    refine ⟨fun fault' same => ?_, nofun⟩
    cases same
    rfl

theorem rpc_putsOne (call : Call) : PutsOne call (rpc call : Closure κ call.Reply) := by
  intro s s' log r ran
  obtain ⟨answer, rfl, rfl, rfl⟩ := Dialogue.run_request (L := metastore) ran
  exact ⟨rfl, answer, rfl, ends_raised answer⟩

/-- What follows the reply asks nothing and does not fail. -/
theorem putsOne_then {call : Call} {f : call.Reply → Closure κ α}
    (silent : ∀ reply s, ∃ a s', f reply s = .done (.ok a, s') ∧ s'.fallback = s.fallback) :
    PutsOne call (rpc call >>= f) := by
  intro s s' log r ran
  rcases Dialogue.run_request_then (L := metastore) ran with
    ⟨fault, rfl, rfl, rfl⟩ | ⟨reply, rest, rfl, next⟩
  · refine ⟨rfl, .error fault, rfl, fun _ failed => ?_, nofun⟩
    cases failed
    rfl
  · obtain ⟨a, s'', ended, kept⟩ := silent reply s
    rw [ended] at next
    obtain ⟨rfl, done⟩ := run_done next
    cases done
    exact ⟨kept, .ok reply, rfl, nofun, fun _ _ => ⟨a, rfl⟩⟩

theorem putsOne_modify {call : Call} {g : call.Reply → Session κ → Session κ}
    (keeps : ∀ reply s, (g reply s).fallback = s.fallback) :
    PutsOne call (rpc call >>= fun reply => Dialogue.modify (g reply) : Closure κ Unit) :=
  putsOne_then fun reply s => ⟨(), g reply s, rfl, keeps reply s⟩

/-- How `tryReq` goes: straight to the legacy form, through a request form that the server
knows, or from one that it does not know on to the legacy form. -/
inductive Tried (method : String) (request old : Call) (s s' : Session κ) :
    List (Exchange metastore) → Except Err Unit → Prop where
  | legacy {r : Except Err Unit} {answer : Except RpcErr old.Reply} (known : method ∈ s.fallback)
      (same : s'.fallback = s.fallback) (ends : Ends ⟨old, answer⟩ r) :
      Tried method request old s s' [⟨old, answer⟩] r
  | request {r : Except Err Unit} {answer : Except RpcErr request.Reply}
      (fresh : method ∉ s.fallback) (same : s'.fallback = s.fallback)
      (known : answeredUnknown ⟨request, answer⟩ = false) (ends : Ends ⟨request, answer⟩ r) :
      Tried method request old s s' [⟨request, answer⟩] r
  | switch {r : Except Err Unit} {fault : RpcErr} {answer : Except RpcErr old.Reply}
      (fresh : method ∉ s.fallback) (marked : s'.fallback = method :: s.fallback)
      (unknown : isUnknownMethod fault.err = true) (ends : Ends ⟨old, answer⟩ r) :
      Tried method request old s s' [⟨request, .error fault⟩, ⟨old, answer⟩] r

theorem tryReq_tried {method : String} {request old : Call} {req legacy : Closure κ Unit}
    (first : PutsOne request req) (second : PutsOne old legacy) {s s' : Session κ}
    {log : List (Exchange metastore)} {r : Except Err Unit}
    (ran : Run (tryReq method req legacy s) log (r, s')) :
    Tried method request old s s' log r := by
  rcases tryReq_run ran with ⟨known, ranOld⟩ | ⟨fresh, ranRequest, served⟩ |
    ⟨_, mid, err, _, fresh, ranRequest, unknown, ranOld, rfl⟩
  · obtain ⟨same, answer, rfl, ends⟩ := second _ _ _ _ ranOld
    exact .legacy known same ends
  · obtain ⟨same, answer, rfl, ends⟩ := first _ _ _ _ ranRequest
    refine .request fresh same ?_ ends
    cases answer with
    | ok reply => rfl
    | error fault => exact served _ (ends.fails fault rfl)
  · obtain ⟨same, answer, rfl, ends⟩ := first _ _ _ _ ranRequest
    obtain ⟨same', answer', rfl, ends'⟩ := second _ _ _ _ ranOld
    cases answer with
    | ok reply =>
      obtain ⟨_, ok⟩ := ends.succeeds reply rfl
      cases ok
    | error fault =>
      cases ends.fails fault rfl
      exact .switch fresh (same'.trans (congrArg (method :: ·) same)) unknown ends'

/-! ## What every operation does -/

/-- A property of runs that every part of a closure has: requests without a legacy form,
`tryReq` between the two forms of a method, and changes of the state that leave `fallback`
alone. -/
structure PartsHave (P : (κ : Type) → List (Exchange metastore) → Session κ → Session κ → Prop) :
    Prop where
  composes (κ : Type) : Composes (P κ)
  update {κ : Type} {s s' : Session κ} : s'.fallback = s.fallback → P κ [] s s'
  request {κ : Type} (call : Call) :
    call.requestForm = none → Follows (P κ) (rpc call : Closure κ call.Reply)
  forms {κ : Type} {method : String} {request old : Call} {req legacy : Closure κ Unit} :
    PutsOne request req → PutsOne old legacy → request.requestForm = some method →
    old.requestForm = none → Follows (P κ) (tryReq method req legacy)

section Parts
variable {P : (κ : Type) → List (Exchange metastore) → Session κ → Session κ → Prop}
  (parts : PartsHave P)
include parts

private theorem parts_modify {g : Session κ → Session κ}
    (keeps : ∀ s, (g s).fallback = s.fallback) :
    Follows (P κ) (Dialogue.modify g : Closure κ Unit) :=
  follows_modify fun s => parts.update (keeps s)

private theorem parts_pure (a : α) : Follows (P κ) (pure a : Closure κ α) :=
  follows_pure (parts.composes κ) a

private theorem parts_fail (err : Err) : Follows (P κ) (Dialogue.fail err : Closure κ α) :=
  follows_fail (parts.composes κ) err

private theorem parts_bind {β : Type} {f : α → Closure κ β} (first : Follows (P κ) d)
    (second : ∀ a, Follows (P κ) (f a)) : Follows (P κ) (d >>= f) :=
  follows_bind (parts.composes κ) first second

private theorem parts_rpc_modify {g : call.Reply → Session κ → Session κ}
    (plain : call.requestForm = none) (keeps : ∀ reply s, (g reply s).fallback = s.fallback) :
    Follows (P κ) (rpc call >>= fun reply => Dialogue.modify (g reply) : Closure κ Unit) :=
  parts_bind parts (parts.request call plain) fun reply => parts_modify parts (keeps reply)

private theorem parts_supportsCatalogs : Follows (P κ) (supportsCatalogs : Closure κ Bool) := by
  refine follows_get_then fun s => ?_
  split
  · exact parts_pure parts true
  · exact parts_pure parts false
  · refine follows_result (parts.composes κ) (parts.request .getCatalogs rfl) fun r => ?_
    cases r with
    | ok _ => exact parts_bind parts (parts_modify parts fun _ => rfl) fun _ => parts_pure parts true
    | error err =>
      dsimp only
      split
      · exact parts_bind parts (parts_modify parts fun _ => rfl) fun _ => parts_pure parts false
      · exact parts_fail parts err

theorem parts_resolveCatFor (cfg : Config) (structCat : Text) (opts : CatalogOptions) :
    Follows (P κ) (resolveCatFor cfg structCat opts : Closure κ (Option Text)) := by
  refine parts_bind parts (parts_supportsCatalogs parts) fun support => ?_
  split
  · exact parts_pure parts _
  · split
    · exact parts_pure parts _
    · exact parts_fail parts _

private theorem parts_resolved {structCat : Text} (rest : ∀ cat, Follows (P κ) (f cat)) :
    Follows (P κ) (resolveCatFor cfg structCat opts >>= f) :=
  parts_bind parts (parts_resolveCatFor parts cfg structCat opts) rest

private theorem parts_ifPresent {drop : Closure Unit Unit} (first : Follows (P Unit) drop) :
    Follows (P Unit) (ifPresent ifExists drop) :=
  ifPresent_follows (parts.composes Unit) first

private theorem parts_assign {f : Closure (Slice α) (Slice α)} (first : Follows (P (Slice α)) f) :
    Follows (P (Slice α)) (assign f) :=
  assign_follows (parts.composes _) (fun _ _ => parts.update rfl) first

private theorem parts_warehouseRoot (cat : Option Text) :
    Follows (P κ) (warehouseRoot cat : Closure κ Text) :=
  warehouseRoot_follows (parts.composes κ) (fun _ _ => parts.update rfl)
    (fun _ _ => parts.request _ rfl) fun _ _ => parts.request _ rfl

private theorem parts_dropError (qname : Text) (err : Err) :
    Follows (P κ) (dropError qname err : Closure κ Err) :=
  dropError_follows (parts.composes κ) (parts.request _ rfl) err

/-- What the parts of closures have, every operation has. -/
theorem closure_follows (cfg : Config) (op : Operation) :
    Follows (P op.Captured) (op.closure cfg) := by
  cases op
  case getConfigValue | getCatalog | currentNotificationID | getNextNotifications | lock
      | checkLock => exact parts_rpc_modify parts rfl fun _ _ => rfl
  case serverVersion =>
    refine parts_bind parts (parts.request _ rfl) fun v => ?_
    refine parts_bind parts (parts_modify parts fun _ => rfl) fun _ => ?_
    split
    · split
      · exact parts_bind parts (parts_supportsCatalogs parts) fun _ =>
          parts_modify parts fun _ => rfl
      · exact parts_pure parts ()
    · exact parts_pure parts ()
  case getCatalogs =>
    refine follows_result (parts.composes _) (parts.request _ rfl) fun r => ?_
    cases r with
    | ok names =>
      exact parts_bind parts (parts_modify parts fun _ => rfl) fun _ => parts_modify parts fun _ => rfl
    | error err =>
      dsimp only
      split
      · exact parts_bind parts (parts_modify parts fun _ => rfl) fun _ => parts_fail parts err
      · exact parts_fail parts err
  case createCatalog | commitTransaction | abortTransaction | heartbeat | unlock =>
    exact parts.request _ rfl
  case dropCatalog => exact parts_ifPresent parts (parts.request _ rfl)
  case getAllDatabases =>
    refine parts_resolved parts fun cat => ?_
    dsimp only
    split
    · split
      · exact parts_rpc_modify parts rfl fun _ _ => rfl
      · exact parts_rpc_modify parts rfl fun _ _ => rfl
    · exact parts_rpc_modify parts rfl fun _ _ => rfl
  case getDatabase | getAllTables | getTable | getTablesSeqChunk =>
    exact parts_resolved parts fun _ => parts_rpc_modify parts rfl fun _ _ => rfl
  case createDatabase =>
    refine parts_resolved parts fun cat => ?_
    dsimp only
    split
    · refine parts_bind parts (parts_warehouseRoot parts cat) fun base => ?_
      split
      · exact parts_fail parts _
      · exact parts.request _ rfl
    · exact parts.request _ rfl
  case alterDatabase | createTable | alterTable =>
    exact parts_resolved parts fun _ => parts.request _ rfl
  case dropDatabase =>
    refine parts_resolved parts fun cat => ?_
    refine follows_result (parts.composes _) (parts.request _ rfl) fun r => ?_
    cases r with
    | ok _ => exact parts_pure parts ()
    | error err =>
      refine parts_bind parts (parts_dropError parts _ err) fun err => ?_
      split
      · exact parts_pure parts ()
      · exact parts_fail parts err
  case getTables =>
    refine parts_resolved parts fun cat => parts_bind parts ?_ fun _ => parts_modify parts fun _ => rfl
    refine follows_foldlM (parts.composes _) (fun _ _ => ?_) _ _
    exact parts_bind parts (parts.request _ rfl) fun _ => parts_pure parts _
  case getTablesSeqNames | getPartitionsSeqNames =>
    exact parts_resolved parts fun _ => parts_assign parts (parts.request _ rfl)
  case dropTable => exact parts_resolved parts fun _ => parts_ifPresent parts (parts.request _ rfl)
  case getPartitions | getPartitionsSeqChunk | getPartitionNamesByValues =>
    exact parts_resolved parts fun _ =>
      parts.forms (putsOne_modify fun _ _ => rfl) (putsOne_modify fun _ _ => rfl) rfl rfl
  case getPartitionNames | getPartitionsByFilter | getTableColumnStatistics =>
    exact parts_resolved parts fun _ => parts_rpc_modify parts rfl fun _ _ => rfl
  case addPartitions =>
    exact parts_resolved parts fun _ =>
      follows_forM (parts.composes _) (fun _ => parts.request _ rfl) _
  case alterPartitions =>
    exact parts_resolved parts fun _ => follows_forM (parts.composes _)
      (fun _ => parts.forms (rpc_putsOne _) (rpc_putsOne _) rfl rfl) _
  case getPartitionsByNames =>
    refine parts_resolved parts fun _ => parts_bind parts (parts_modify parts fun _ => rfl) fun _ => ?_
    refine parts_bind parts ?_ fun _ => parts_modify parts fun _ => rfl
    refine follows_forM (parts.composes _) (fun _ => ?_) _
    exact parts.forms (putsOne_then fun _ _ => ⟨(), _, rfl, rfl⟩)
      (putsOne_then fun _ _ => ⟨(), _, rfl, rfl⟩) rfl rfl
  case dropPartition =>
    exact parts_resolved parts fun _ => parts_ifPresent parts
      (parts_bind parts (parts.request _ rfl) fun _ => parts_pure parts ())
  case dropPartitionsByNames =>
    exact parts_resolved parts fun _ =>
      follows_forM (parts.composes _) (fun _ => parts_ifPresent parts (parts.request _ rfl)) _
  case openTransaction =>
    refine parts_bind parts (parts.request _ rfl) fun ids => ?_
    split
    · exact parts_fail parts _
    · exact parts_modify parts fun _ => rfl

end Parts

/-! ## One connection -/

private theorem switches_other (other : x.op.requestForm ≠ some method)
    (same : s'.fallback = s.fallback) :
    Switches method [x] s s' where
  kept known := same ▸ known
  unasked _ y inLog := by rwa [List.mem_singleton.mp inLog]
  marked y inLog refused := by
    rw [List.mem_singleton.mp inLog] at refused
    exact absurd refused.1 other
  last := List.pairwise_singleton _ _

private theorem tryReq_switches (first : PutsOne request req) (second : PutsOne old legacy)
    (form : request.requestForm = some key) (plain : old.requestForm = none) :
    Follows (Switches method) (tryReq key req legacy) := by
  intro s s' log r ran
  have oldOther : ∀ answer, (⟨old, answer⟩ : Exchange metastore).op.requestForm ≠ some method := by
    simp [plain]
  cases tryReq_tried first second ran with
  | legacy known same ends => exact switches_other (oldOther _) same
  | @request _ answer fresh same known ends =>
    by_cases mine : key = method
    · subst mine
      refine ⟨fun marked => same ▸ marked, fun marked => absurd marked fresh, ?_,
        List.pairwise_singleton _ _⟩
      intro x inLog refused
      rw [List.mem_singleton.mp inLog] at refused
      cases known.symm.trans refused.2
    · exact switches_other (by simpa [form] using mine) same
  | @switch _ fault answer fresh marked unknown ends =>
    have later : Switches method [⟨old, answer⟩] { s with fallback := s'.fallback } s' :=
      switches_other (oldOther answer) rfl
    have refused : Switches method [⟨request, .error fault⟩] s { s with fallback := s'.fallback } := by
      by_cases mine : key = method
      · subst mine
        refine ⟨fun _ => ?_, fun known => absurd known fresh, fun _ _ _ => ?_,
          List.pairwise_singleton _ _⟩
        · exact marked ▸ List.mem_cons_self
        · exact marked ▸ List.mem_cons_self
      · refine ⟨fun known => marked ▸ List.mem_cons_of_mem key known, fun known x inLog => ?_,
          fun x inLog refused => ?_, List.pairwise_singleton _ _⟩
        · rw [List.mem_singleton.mp inLog]
          simpa [form] using mine
        · rw [List.mem_singleton.mp inLog] at refused
          exact absurd (Option.some.inj (form.symm.trans refused.1)) mine
    exact (switches_composes method).append refused later

theorem closure_switches (cfg : Config) (op : Operation) (method : String) :
    Follows (Switches method) (op.closure cfg) := by
  refine closure_follows (P := fun κ => Switches (κ := κ) method) ⟨?_, ?_, ?_, ?_⟩ cfg op
  · exact fun κ => switches_composes method
  · exact fun same => ⟨fun known => same ▸ known, by simp, by simp, .nil⟩
  · exact fun call plain =>
      follows_request (L := metastore) fun _ _ => switches_other (by simp [plain]) rfl
  · exact tryReq_switches

/-- What a connection was told over its life that it does not know a method's request
form. -/
def refusals (method : String) (visits : List Visit) : List (Exchange metastore) :=
  (visits.flatMap Visit.log).filter fun x =>
    decide (x.op.requestForm = some method) && answeredUnknown x

private theorem refuses_iff :
    (decide (x.op.requestForm = some method) && answeredUnknown x) = true ↔ Refuses method x := by
  simp [Refuses]

/-- What remains true of a connection however many operations run on it. -/
private theorem visits_switch (made : Visits cfg catalogs fallback visits) (method : String) :
    (method ∈ fallback → ∀ x ∈ visits.flatMap Visit.log, x.op.requestForm ≠ some method) ∧
      (visits.flatMap Visit.log).Pairwise
        fun x y => Refuses method x → y.op.requestForm ≠ some method := by
  induction made with
  | nil => exact ⟨by simp, .nil⟩
  | @cons op s s' log r rest ran _ ih =>
    have switches := closure_switches cfg op method _ _ _ _ ran
    rw [List.flatMap_cons]
    refine ⟨fun known x inLog => ?_, List.pairwise_append.mpr ⟨switches.last, ih.2, ?_⟩⟩
    · rcases List.mem_append.mp inLog with inFirst | inRest
      · exact switches.unasked known x inFirst
      · exact ih.1 (switches.kept known) x inRest
    · intro x inFirst y inRest refused
      exact ih.1 (switches.marked x inFirst refused) y inRest

/-- However many operations run on a connection, it puts a request form that the server
does not know once at most for each method. -/
theorem refused_once {cfg : Config} {catalogs : CatalogSupport} {fallback : List String}
    {visits : List Visit} (made : Visits cfg catalogs fallback visits) (method : String) :
    (refusals method visits).length ≤ 1 := by
  have pairwise := ((visits_switch made method).2.filter fun x =>
    decide (x.op.requestForm = some method) && answeredUnknown x)
  change (refusals method visits).Pairwise _ at pairwise
  have refused : ∀ x ∈ refusals method visits, Refuses method x := fun x inLog =>
    refuses_iff.mp (List.mem_filter.mp inLog).2
  match list : refusals method visits with
  | [] => exact Nat.zero_le 1
  | [_] => exact Nat.le_refl 1
  | x :: y :: rest =>
    rw [list] at pairwise refused
    have first := refused x List.mem_cons_self
    have second := refused y (List.mem_cons_of_mem x List.mem_cons_self)
    exact absurd second.1 ((List.pairwise_cons.mp pairwise).1 y List.mem_cons_self first)

end HmsClient
