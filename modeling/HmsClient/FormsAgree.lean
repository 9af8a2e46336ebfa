import HmsClient.PartitionServer
import HmsClient.Batching

/-! The operations on partitions whose RPC has a request form and a legacy form. Each does
one thing with the store of a fake metastore, whichever form reaches the server and
wherever in a run of batches the connection switches to the other; so a server that knows
the request forms and one that does not cannot be told apart by results or by what is
stored. -/
namespace HmsClient.Hmstest
open PeerScript

def checkMaxParts (op : String) (maxParts : Int) : Except Err Int16 :=
  if maxParts > 32767 then
    let msg := "hms: maxParts " ++ toString maxParts ++ " exceeds Hive metastore limit of 32767 " ++
      "(math.MaxInt16); use -1 for all partitions"
    let msg := if op = "get_partitions_req" then msg ++ " or GetPartitionsSeq to stream" else msg
    .error (wrapAs op .errInvalidOperation (.leaf (.other msg)))
  else if maxParts < 0 then .ok (-1)
  else .ok (.ofInt maxParts)

/-- The methods whose RPC has two forms, as the client is called. -/
inductive TwoFormed where
  | getPartitions (dbName tableName : Text) (maxParts : Int)
  | getPartitionsByNames (dbName tableName : Text) (names : List Text)
  | getPartitionNamesByValues (dbName tableName : Text) (partialValues : Slice Text) (maxParts : Int)
  | alterPartitions (dbName tableName : Text) (partitions : List Partition)

def TwoFormed.dbName : TwoFormed → Text
  | .getPartitions dbName .. | .getPartitionsByNames dbName .. => dbName
  | .getPartitionNamesByValues dbName .. | .alterPartitions dbName .. => dbName

/-- The closure a method runs, once `checkMaxParts` has accepted a limit. -/
def TwoFormed.operation (opts : CatalogOptions) : TwoFormed → Except Err Operation
  | .getPartitions dbName tableName maxParts => do
    let mp ← checkMaxParts "get_partitions_req" maxParts
    pure (.getPartitions dbName tableName mp opts)
  | .getPartitionsByNames dbName tableName names =>
    .ok (.getPartitionsByNames dbName tableName names opts)
  | .getPartitionNamesByValues dbName tableName partialValues maxParts => do
    let mp ← checkMaxParts "get_partition_names_ps_req" maxParts
    pure (.getPartitionNamesByValues dbName tableName partialValues mp opts)
  | .alterPartitions dbName tableName partitions =>
    .ok (.alterPartitions dbName tableName partitions opts)

/-! ## What the operations do with a store -/

abbrev OnStore (κ α : Type) := Meaning Err κ Store α

/-- Read the store, with the exceptions a handler throws. -/
def readStore {κ α : Type} (f : Store → Except Thrown α) : OnStore κ α :=
  ExceptT.mk fun (k, store) => ((f store).mapError (RpcErr.err ∘ Thrown.rpcErr), (k, store))

def writeStore {κ α : Type} (f : Store → Handled α) : OnStore κ α :=
  ExceptT.mk fun (k, store) => ((f store).1.mapError (RpcErr.err ∘ Thrown.rpcErr), (k, (f store).2))

def captured {κ : Type} (f : κ → κ) : OnStore κ Unit := modify fun (k, store) => (f k, store)

section Reads
variable (catName db tbl : Text)

/-- The first partitions of a table. -/
def listed (mp : Int16) (store : Store) : Except Thrown (List Wire.Partition) := do
  let _ ← store.tableAt catName db tbl
  pure (truncateParts (store.partitionsAt (tblKey catName db tbl)) mp)

def named (names : List Text) (store : Store) : Except Thrown (List Wire.Partition) := do
  let table ← store.tableAt catName db tbl
  pure (partitionsMatchingNames table (store.partitionsAt (tblKey catName db tbl)) (some names))

def namesMatching (partialValues : Slice Text) (mp : Int16) (store : Store) :
    Except Thrown (List Text) := do
  let table ← store.tableAt catName db tbl
  let matched := truncateParts (partitionsMatchingPartialValues
    (store.partitionsAt (tblKey catName db tbl)) partialValues) mp
  pure (matched.map (partitionName table))

end Reads

/-! ## Rules -/

section Rules
variable {srv : Server} {κ α : Type}

/-- The connection may still use catalogs. -/
def Catalogued (s : Session κ) : Prop := s.catalogs ≠ .no

/-- A closure's meaning on the server. -/
def Does (srv : Server) (d : Closure κ α) (m : OnStore κ α) : Prop :=
  Means srv.serve Catalogued Session.captured d m

theorem does_resolveCat (newer : srv.v ≠ .hive23) (cfg : Config) (opts : CatalogOptions) :
    Does srv (resolveCat cfg opts : Closure κ (Option Text))
      (pure (some (effectiveCatalog cfg [] opts))) := by
  intro s store here
  obtain ⟨unchanged, kept, known, found, catalogs⟩ := resolveCatFor_served srv cfg [] opts s store
  obtain ⟨rfl, there⟩ := catalogs newer here
  refine ⟨there, ?_⟩
  change (Except.ok (some (effectiveCatalog cfg [] opts)), (s.captured, store)) = _
  exact congr (congrArg Prod.mk found.symm) (congr (congrArg Prod.mk kept.symm) unchanged.symm)

theorem does_modify {g : Session κ → Session κ} {h : κ → κ}
    (captures : ∀ s, (g s).captured = h s.captured) (keeps : ∀ s, (g s).catalogs = s.catalogs) :
    Does srv (Dialogue.modify g : Closure κ Unit) (captured h) :=
  means_modify (fun s here no => here ((keeps s).symm.trans no)) fun s _ => captures s

private theorem readStore_run (f : Store → Except Thrown α) (k : κ) (store : Store) :
    (readStore f : OnStore κ α).run.run (k, store) =
      ((f store).mapError (RpcErr.err ∘ Thrown.rpcErr), (k, store)) :=
  rfl

/-- A request whose handler reads the store, and what is made of the reply. -/
theorem does_read {call : Call} {f : Store → Except Thrown α} {reply : α → call.Reply}
    {g : call.Reply → Session κ → Session κ} {h : α → κ → κ}
    (answers : ∀ store, srv.serve call store = reading ((f store).map reply) store)
    (captures : ∀ a s, (g (reply a) s).captured = h a s.captured)
    (keeps : ∀ r s, (g r s).catalogs = s.catalogs) :
    Does srv (rpc call >>= fun r => Dialogue.modify (g r) : Closure κ Unit)
      (readStore f >>= fun a => captured (h a)) := by
  intro s store here
  have read := readStore_run f s.captured store
  have asked := ends_request (L := metastore) srv.serve call s store
  rw [answers store] at asked
  cases result : f store with
  | ok a =>
    rw [result] at asked read
    obtain ⟨outcome, state⟩ := Prod.mk.inj (ends_then (f := fun r => Dialogue.modify (g r)) asked)
    rw [Meaning.bind_ok read]
    simp only [rpc, outcome, state]
    refine ⟨?_, ?_⟩
    · exact fun no => here ((keeps (reply a) s).symm.trans no)
    · exact congrArg (fun k => (Except.ok (), (k, store))) (captures a s).symm
  | error e =>
    rw [result] at asked read
    obtain ⟨outcome, state⟩ := Prod.mk.inj (ends_failed (f := fun r => Dialogue.modify (g r)) asked)
    rw [Meaning.bind_error read]
    simp only [rpc, outcome, state]
    exact ⟨here, rfl⟩

private theorem thrown_known (e : Exception) : isUnknownMethod (thrown e).err = false := by
  cases e <;> rfl

/-- The server does not know the method of the closure's request. -/
def Unknown (srv : Server) (d : Closure κ Unit) : Prop :=
  ∀ s store, (d s).ends srv.serve store = ((.error unknownMethod.err, s), store)

/-- No error of the program says that a method is unknown. -/
def Understood (m : OnStore κ Unit) : Prop :=
  ∀ x e y, m.run.run x = (.error e, y) → isUnknownMethod e = false

/-- What `tryReq` does with the outcome of the request form. -/
private def settle (method : String) (legacy : Closure κ Unit) : Except Err Unit → Closure κ Unit
  | .ok _ => pure ()
  | .error err =>
    if isUnknownMethod err then do
      markLegacy method
      legacy
    else Dialogue.fail err

private theorem tryReq_eq (method : String) (req legacy : Closure κ Unit) (s : Session κ) :
    tryReq method req legacy s =
      if method ∈ s.fallback then legacy s else (req.result >>= settle method legacy) s := by
  change (if method ∈ s.fallback then legacy else _ : Closure κ Unit) s = _
  split <;> rfl

/-- Whether the server knows the request form or not, and whether the connection has
found out already, the legacy form's meaning is what is done. -/
theorem does_tryReq {method : String} {req legacy : Closure κ Unit} {m : OnStore κ Unit}
    (second : Does srv legacy m) (first : Unknown srv req ∨ Does srv req m ∧ Understood m) :
    Does srv (tryReq method req legacy) m := by
  intro s store here
  rw [tryReq_eq]
  split
  · exact second s store here
  · rcases ended : (req s).ends srv.serve store with ⟨⟨r, mid⟩, store'⟩
    obtain ⟨outcome, state⟩ := Prod.mk.inj (ends_result (f := settle method legacy) ended)
    simp only [outcome, state]
    rcases first with unknown | ⟨request, understood⟩
    · cases (unknown s store).symm.trans ended
      exact second { s with fallback := method :: s.fallback } store here
    · obtain ⟨there, same⟩ := request s store here
      obtain ⟨ended, left⟩ := Prod.mk.inj ended
      rw [ended, left] at same
      rw [ended] at there
      cases r with
      | ok _ => exact ⟨there, same⟩
      | error e =>
        have known := understood _ _ _ same
        simp only [settle, known]
        exact ⟨there, same⟩

private theorem request_unknown (lacks : removed srv.v call = true) (s : Session κ) (store : Store) :
    (rpc call s).ends srv.serve store = ((.error unknownMethod.err, s), store) := by
  have answer : srv.serve call store = (.error unknownMethod, store) := if_pos lacks
  have asked := ends_request (L := metastore) srv.serve call s store
  rw [answer] at asked
  exact asked

private theorem unknown_then (lacks : removed srv.v call = true) (f : call.Reply → Closure κ Unit) :
    Unknown srv (rpc call >>= f) :=
  fun s store => ends_failed (request_unknown lacks s store)

private theorem understood_read (f : Store → Except Thrown α) (h : α → κ → κ) :
    Understood (readStore f >>= fun a => captured (h a)) := by
  intro (k, store) e y failed
  have read := readStore_run f k store
  cases result : f store with
  | ok a =>
    rw [result] at read
    rw [Meaning.bind_ok read] at failed
    cases failed
  | error refusal =>
    rw [result] at read
    rw [Meaning.bind_error read] at failed
    cases failed
    exact thrown_known refusal.kind

private theorem understood_write (f : Store → Handled Unit) : Understood (writeStore (κ := κ) f) := by
  intro (k, store) e y failed
  change ((f store).1.mapError _, _) = _ at failed
  cases result : (f store).1 with
  | ok a =>
    rw [result] at failed
    cases failed
  | error refusal =>
    rw [result] at failed
    cases failed
    exact thrown_known refusal.kind

/-- The two forms of a read, either of which may reach the server. -/
theorem does_forms_read (newer : srv.v ≠ .hive23) {method : String} {request old : Call}
    {f : Store → Except Thrown α} (reply : α → request.Reply) (reply' : α → old.Reply)
    {g : request.Reply → Session κ → Session κ} {g' : old.Reply → Session κ → Session κ}
    {h : α → κ → κ} (lacks : removed .hive31 request = true)
    (answers : srv.v = .hive40 →
      ∀ store, srv.serve request store = reading ((f store).map reply) store)
    (answers' : ∀ store, srv.serve old store = reading ((f store).map reply') store)
    (captures : ∀ a s, (g (reply a) s).captured = h a s.captured)
    (captures' : ∀ a s, (g' (reply' a) s).captured = h a s.captured)
    (keeps : ∀ r s, (g r s).catalogs = s.catalogs)
    (keeps' : ∀ r s, (g' r s).catalogs = s.catalogs) :
    Does srv
      (tryReq method (rpc request >>= fun r => Dialogue.modify (g r))
        (rpc old >>= fun r => Dialogue.modify (g' r)))
      (readStore f >>= fun a => captured (h a)) := by
  refine does_tryReq (does_read answers' captures' keeps') ?_
  cases v : srv.v with
  | hive23 => exact absurd v newer
  | hive31 => exact .inl (unknown_then (v ▸ lacks) _)
  | hive40 => exact .inr ⟨does_read (answers v) captures keeps, understood_read f h⟩

/-- A request whose handler writes the store. -/
private theorem does_write (answers : ∀ store, srv.serve call store = writing (f store)) :
    Does srv (rpc call : Closure κ call.Reply) (writeStore f) := by
  intro s store here
  have asked := ends_request (L := metastore) srv.serve call s store
  rw [answers store] at asked
  obtain ⟨outcome, state⟩ := Prod.mk.inj asked
  simp only [rpc, outcome, state]
  refine ⟨here, ?_⟩
  change ((f store).1.mapError (RpcErr.err ∘ Thrown.rpcErr), _) =
    (((f store).1.mapError Thrown.rpcErr).mapError RpcErr.err, _)
  cases (f store).1 <;> rfl

end Rules

/-! ## The forms -/

section Forms
variable {srv : Server} {v : Version} {catName dbName : Text}

private theorem cat_named (newer : v ≠ .hive23) : cat v (some catName) = .ok catName :=
  if_neg newer

private theorem resolveDB_qualified (newer : v ≠ .hive23)
    (readable : splitCatDB (qualifyDBName (some catName) dbName) = (catName, dbName)) :
    resolveDB v (qualifyDBName (some catName) dbName) = .ok (catName, dbName) := by
  rw [resolveDB, readable]
  simp [newer]

private theorem served (kept : removed srv.v call = false) (store : Store) :
    srv.serve call store = srv.handle call store := by
  rw [Server.serve, kept]
  rfl

private theorem served_by_hive40 (v40 : srv.v = .hive40) (call : Call) (store : Store) :
    srv.serve call store = srv.handle call store := by
  refine served ?_ store
  rw [v40, removed]
  split <;> rfl

end Forms

/-- What one chunk of names adds to the variables. -/
private def withParts (parts : List Wire.Partition) (vars : PartsVars) : PartsVars :=
  let (more, cache) := partitionsFromThriftIntern parts vars.cache
  { vars with parts := vars.parts ++ more.map (·.value), cache := cache }

private theorem items_appended {α : Type} (xs : List α) : (appended xs).items = xs := by
  cases xs <;> rfl

section Operations
variable {srv : Server} (newer : srv.v ≠ .hive23) (cfg : Config) (opts : CatalogOptions)
  (dbName tableName : Text)
  (readable : splitCatDB (qualifyDBName (some (effectiveCatalog cfg [] opts)) dbName) =
    (effectiveCatalog cfg [] opts, dbName))
include newer readable

private theorem does_getPartitions (mp : Int16) :
    Does srv (HmsClient.getPartitions cfg dbName tableName mp opts)
      (readStore (listed (effectiveCatalog cfg [] opts) dbName tableName mp) >>=
        fun parts => captured fun _ => partitionsFromThrift (some parts)) := by
  refine means_value (does_resolveCat newer cfg opts) ?_
  refine does_forms_read newer some some rfl (fun v40 store => ?_)
    (fun store => ?_) (fun _ _ => rfl) (fun _ _ => rfl) (fun _ _ => rfl) (fun _ _ => rfl)
  · rw [served_by_hive40 v40, Server.handle, getPartitionsReq, cat_named newer]
    rfl
  · rw [served rfl, Server.handle, getPartitions, resolveDB_qualified newer readable]
    rfl

private theorem does_getPartitionNamesByValues (partialValues : Slice Text) (mp : Int16) :
    Does srv (HmsClient.getPartitionNamesByValues cfg dbName tableName partialValues mp opts)
      (readStore (namesMatching (effectiveCatalog cfg [] opts) dbName tableName partialValues mp) >>=
        fun names => captured fun _ => some names) := by
  refine means_value (does_resolveCat newer cfg opts) ?_
  refine does_forms_read newer some some rfl (fun v40 store => ?_)
    (fun store => ?_) (fun _ _ => rfl) (fun _ _ => rfl) (fun _ _ => rfl) (fun _ _ => rfl)
  · rw [served_by_hive40 v40, Server.handle, getPartitionNamesPsReq, cat_named newer]
    rfl
  · rw [served rfl, Server.handle, getPartitionNamesPs, resolveDB_qualified newer readable]
    rfl

private theorem does_getPartitionsByNames (names : List Text) :
    Does srv (HmsClient.getPartitionsByNames cfg dbName tableName names opts) (do
      captured fun vars => { vars with parts := [], cache := [] }
      (batches cfg.chunkSize names.length names).forM fun chunk => do
        let parts ← readStore
          (named (effectiveCatalog cfg [] opts) dbName tableName chunk)
        captured (withParts parts)
      captured fun vars => { vars with out := vars.parts }) := by
  refine means_value (does_resolveCat newer cfg opts) ?_
  refine means_bind ?_ fun _ => means_bind (means_forM (fun chunk => ?_) _) fun _ => ?_
  · exact does_modify (fun _ => rfl) fun _ => rfl
  rotate_left
  · exact does_modify (fun _ => rfl) fun _ => rfl
  refine does_forms_read newer some appended rfl (fun v40 store => ?_)
    (fun store => ?_) (fun _ _ => rfl) (fun parts s => ?_) (fun _ _ => rfl) (fun _ _ => rfl)
  · rw [served_by_hive40 v40, Server.handle, getPartitionsByNamesReq, newGetPartitionsByNamesRequest,
      resolveDB_qualified newer readable]
    rfl
  · rw [served rfl, Server.handle, getPartitionsByNames, resolveDB_qualified newer readable]
    rfl
  · rw [items_appended]
    rfl

private theorem does_alterPartitions (partitions : List Partition) :
    Does srv (HmsClient.alterPartitions cfg dbName tableName partitions opts)
      ((batches cfg.partitionBatchSize partitions.length partitions).forM fun chunk =>
        writeStore (applyAlterPartitions (effectiveCatalog cfg [] opts) dbName tableName
          (partitionsToThriftFrom (some chunk) (some (effectiveCatalog cfg [] opts)) dbName
            tableName))) := by
  refine means_value (does_resolveCat newer cfg opts) (means_forM (fun chunk => ?_) _)
  refine does_tryReq (does_write fun store => ?_) ?_
  · rw [served rfl, Server.handle, alterPartitions, resolveDB_qualified newer readable]
  · cases v : srv.v with
    | hive23 => exact absurd v newer
    | hive31 => exact .inl fun s store => request_unknown (by rw [v]; rfl) s store
    | hive40 =>
      refine .inr ⟨does_write fun store => ?_, understood_write _⟩
      rw [served_by_hive40 v, Server.handle, alterPartitionsReq, cat_named newer]

end Operations

/-- What an operation does, on any server with catalogs. -/
private theorem two_formed_means {request : TwoFormed} (accepted : request.operation opts = .ok op)
    (readable : splitCatDB (qualifyDBName (some (effectiveCatalog cfg [] opts)) request.dbName) =
      (effectiveCatalog cfg [] opts, request.dbName)) :
    ∃ m, ∀ srv : Server, srv.v ≠ .hive23 → Does srv (op.closure cfg) m := by
  cases request with
  | getPartitions dbName tableName maxParts =>
    cases checked : checkMaxParts "get_partitions_req" maxParts with
    | error e =>
      rw [TwoFormed.operation, checked] at accepted
      cases accepted
    | ok mp =>
      rw [TwoFormed.operation, checked] at accepted
      cases accepted
      exact ⟨_, fun srv newer => does_getPartitions newer cfg opts dbName tableName readable mp⟩
  | getPartitionsByNames dbName tableName names =>
    cases accepted
    exact ⟨_, fun srv newer =>
      does_getPartitionsByNames newer cfg opts dbName tableName readable names⟩
  | getPartitionNamesByValues dbName tableName partialValues maxParts =>
    cases checked : checkMaxParts "get_partition_names_ps_req" maxParts with
    | error e =>
      rw [TwoFormed.operation, checked] at accepted
      cases accepted
    | ok mp =>
      rw [TwoFormed.operation, checked] at accepted
      cases accepted
      exact ⟨_, fun srv newer =>
        does_getPartitionNamesByValues newer cfg opts dbName tableName readable partialValues mp⟩
  | alterPartitions dbName tableName partitions =>
    cases accepted
    exact ⟨_, fun srv newer =>
      does_alterPartitions newer cfg opts dbName tableName readable partitions⟩

/-- A server without the request forms and one that has them give the same result, assign
the same and are left with the same store. And on either of them a connection puts a
request form that the server does not know once at most for each method. -/
theorem request_and_legacy_forms_agree (cfg : Config) (opts : CatalogOptions) (request : TwoFormed)
    (op : Operation) (accepted : request.operation opts = .ok op)
    (readable : splitCatDB (qualifyDBName (some (effectiveCatalog cfg [] opts)) request.dbName) =
      (effectiveCatalog cfg [] opts, request.dbName))
    (older newer : Server) (lacks : older.v = .hive31) (has : newer.v = .hive40)
    (s s' : Session op.Captured) (same : s.captured = s'.captured)
    (probed : s.catalogs ≠ .no) (probed' : s'.catalogs ≠ .no) (store : Store) :
    let old := (op.closure cfg s).play older.serve store
    let new := (op.closure cfg s').play newer.serve store
    (old.outcome.1 = new.outcome.1 ∧ old.outcome.2.captured = new.outcome.2.captured ∧
        old.state = new.state) ∧
      ∀ catalogs fallback visits, Visits cfg catalogs fallback visits →
        ∀ method, (refusals method visits).length ≤ 1 := by
  intro old new
  obtain ⟨m, does⟩ := two_formed_means accepted readable
  have first := (does older (by rw [lacks]; nofun) s store probed).2
  have second := (does newer (by rw [has]; nofun) s' store probed').2
  rw [same] at first
  obtain ⟨results, rest⟩ := Prod.mk.inj (first.symm.trans second)
  obtain ⟨assigned, stores⟩ := Prod.mk.inj rest
  exact ⟨⟨results, assigned, stores⟩, fun _ _ _ made method => refused_once made method⟩

/-- A fresh connection is asked for "k=b" and "k=a", in a chunk each. -/
def findsTwo (v : Version) : Played metastore Store (Except Err Unit × Session PartsVars) :=
  (HmsClient.getPartitionsByNames (Config.clamp [] id 1 1) [100] [116]
      [[107, 61, 98], [107, 61, 97]] [] ⟨.unknown, [], [], ⟨[], [], []⟩⟩).play
    (partitionsOnly v).serve (storeOf [lettered 97, lettered 98, lettered 99])

/-- The older server is asked for the first name in both forms and for the second in the
legacy form alone. -/
theorem names_are_found_by_either_form :
    (findsTwo .hive31).log.length = 4 ∧ (findsTwo .hive40).log.length = 3 ∧
      (findsTwo .hive40).outcome.2.captured.out.length = 2 ∧
      (findsTwo .hive31).outcome.2.captured.out = (findsTwo .hive40).outcome.2.captured.out := by
  have agree := (request_and_legacy_forms_agree (Config.clamp [] id 1 1) []
    (.getPartitionsByNames [100] [116] [[107, 61, 98], [107, 61, 97]])
    (.getPartitionsByNames [100] [116] [[107, 61, 98], [107, 61, 97]] []) rfl rfl
    (partitionsOnly .hive31) (partitionsOnly .hive40) rfl rfl ⟨.unknown, [], [], ⟨[], [], []⟩⟩
    ⟨.unknown, [], [], ⟨[], [], []⟩⟩ rfl nofun nofun
    (storeOf [lettered 97, lettered 98, lettered 99])).1
  refine ⟨by decide +kernel, by decide +kernel, by decide +kernel, ?_⟩
  exact congrArg PartsVars.out agree.2.1

end HmsClient.Hmstest
