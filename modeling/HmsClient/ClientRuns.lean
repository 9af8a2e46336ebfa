import HmsClient.ClientNamespace

/-! Whole runs of the client's operations on databases and tables against the fake
metastore, on whatever connections. Reading shows what the operations before have made, and
the servers of all versions make the same of the same operations. -/
namespace HmsClient.Hmstest
open PeerScript

/-! ## Operations that read -/

/-- How an operation may end in a namespace, and the namespace afterwards. -/
inductive Ends (cfg : Config) (v : Version) (clock : Nat → Int32) (ns : Namespace) :
    (op : Operation) → Except Err Unit → op.Captured → Namespace → Prop
  | changed {op : Operation} {r : Except Err Unit} {out : op.Captured} {change : Change}
      (wants : changeOf cfg v clock op = some change)
      (outcome : r.mapError classify = verdict ns change (contentWithNone op)) :
      Ends cfg v clock ns op r out (ns.apply .hive40 change).2
  | database {name : Text} {opts : CatalogOptions} {id : DatabaseId} {db : Wire.Database}
      (named : DatabaseId.of (effectiveCatalog cfg [] opts) name = some id)
      (there : ns.databases id = some db) :
      Ends cfg v clock ns (.getDatabase name opts) (.ok ())
        (some (databaseFromThrift db (sent v (effectiveCatalog cfg [] opts)))) ns
  | noDatabase {name : Text} {opts : CatalogOptions} {id : DatabaseId} {err : Err}
      {out : Option Database} (named : DatabaseId.of (effectiveCatalog cfg [] opts) name = some id)
      (missing : ns.databases id = none) (told : classify err = .errNotFound) :
      Ends cfg v clock ns (.getDatabase name opts) (.error err) out ns
  | table {dbName tableName : Text} {opts : CatalogOptions} {id : TableId} {tbl : Wire.Table}
      (named : TableId.of (effectiveCatalog cfg [] opts) dbName tableName = some id)
      (there : ns.tables id = some tbl) :
      Ends cfg v clock ns (.getTable dbName tableName opts) (.ok ())
        (some (tableFromThrift tbl)) ns
  | noTable {dbName tableName : Text} {opts : CatalogOptions} {id : TableId} {err : Err}
      {out : Option Table}
      (named : TableId.of (effectiveCatalog cfg [] opts) dbName tableName = some id)
      (missing : ns.tables id = none) (told : classify err = .errNotFound) :
      Ends cfg v clock ns (.getTable dbName tableName opts) (.error err) out ns
  | tables {dbName : Text} {opts : CatalogOptions} {id : DatabaseId} {names : Slice Text}
      (named : DatabaseId.of (effectiveCatalog cfg [] opts) dbName = some id)
      (listing : Listing names.items fun name =>
        ∃ t, t.database = id ∧ t.name.text = name ∧ (ns.tables t).isSome) :
      Ends cfg v clock ns (.getAllTables dbName opts) (.ok ()) names ns
  | databases {opts : CatalogOptions} {names : Slice Text}
      (listing : Listing names.items fun name =>
        ∃ id, id.catalog.text = effectiveCatalog cfg [] opts ∧ id.name.text = name ∧
          (ns.databases id).isSome) :
      Ends cfg v clock ns (.getAllDatabases opts) (.ok ()) names ns

section Reads
variable {setup : Setup} {b : Backend} {κ : Type} {s : Session κ} {ns : Namespace} {cfg : Config}
  {opts : CatalogOptions}

/-- A request behind the catalog it is for, and what is captured of the answer. -/
private theorem asked_ends (complete : setup.without = []) (knows : Knows setup.v s) (b : Backend)
    (supports : Supports setup.v (effectiveCatalog cfg [] opts)) {α : Type}
    (ask : Option Text → Closure κ α) (out : Option Text → α → κ) {r : Except Err α}
    (asks : ∀ s n, ∃ n', (ask (sent setup.v (effectiveCatalog cfg [] opts)) s).ends setup.serve
      { b with handled := n } = ((r, s), { b with handled := n' })) :
    ∃ s' b', ((resolveCat cfg opts >>= fun cat => ask cat >>= fun a => capture (out cat a)) s).ends
        setup.serve b = ((r.map fun _ => (), s'), b') ∧
      (∀ a, r = .ok a → s'.captured = out (sent setup.v (effectiveCatalog cfg [] opts)) a) ∧
      Later b b' := by
  obtain ⟨mid, b', ended, kept, n, rfl⟩ := resolveCatFor_ends complete knows b cfg [] opts supports
  obtain ⟨n', asked⟩ := asks mid n
  cases r with
  | ok a =>
    refine ⟨_, _, (ends_then ended).trans ((ends_then asked).trans rfl), ?_, n', rfl⟩
    rintro a ⟨rfl⟩
    rfl
  | error err =>
    refine ⟨_, _, (ends_then ended).trans (ends_failed asked), ?_, n', rfl⟩
    rintro a same
    cases same

/-- A method that reads, on every version. -/
private theorem read_ends (complete : setup.without = []) (name : String)
    (named : method call = name)
    (everywhere : name ∉ removedRPCs .hive23 ∧ name ∉ removedRPCs .hive31)
    (handled : setup.handle { b with handled := n } call = (r, { b with handled := n }))
    (s : Session κ) :
    (rpc call s).ends setup.serve { b with handled := n } =
      ((r.mapError RpcErr.err, s), { b with handled := n + 1 }) := by
  rw [rpc_ends, serve_present complete name named everywhere, handled]

private theorem appended_items {α : Type} (xs : List α) : (appended xs).items = xs := by
  cases xs with
  | nil => rfl
  | cons x xs => rfl

variable {dbName : Text}

private theorem getTable_ends (complete : setup.without = []) {s : Session (Option Table)}
    (knows : Knows setup.v s) (represents : Represents b.toMetastore ns)
    (fits : Fits cfg setup.v (.getTable dbName tableName opts)) (clock : Nat → Int32) :
    ∃ r s' b', (HmsClient.getTable cfg dbName tableName opts s).ends setup.serve b =
        ((r, s'), b') ∧
      Ends cfg setup.v clock ns (.getTable dbName tableName opts) r s'.captured ns ∧
      Later b b' := by
  obtain ⟨names, named, tame⟩ := fits.named
  cases named
  obtain ⟨id, plain⟩ := tableId_of fits.tameCatalog (tame _ (.head _)) (tame _ (.tail _ (.head _)))
  have shows : Shows setup.toEmulation b.toMetastore ns := shows_of_represents represents
  have read := shows.getTableReq ⟨dbName, tableName, sent setup.v (effectiveCatalog cfg [] opts)⟩
    {} _ id (cat_sent fits.supports) plain rfl rfl
  obtain ⟨s', b', ran, captured, later⟩ := asked_ends complete knows b fits.supports
    (fun cat => rpc (.getTableReq ⟨dbName, tableName, cat⟩))
    (fun _ table => some (tableFromThrift table))
    (r := ((found (tableNotFound dbName tableName) (ns.tables id)).mapError
      Thrown.rpcErr).mapError RpcErr.err) fun s n => by
      rw [← read]
      exact ⟨n + 1, read_ends complete "get_table_req" rfl (by decide) rfl s⟩
  refine ⟨_, s', b', ran, ?_, later⟩
  cases there : ns.tables id with
  | none => exact .noTable plain there rfl
  | some tbl =>
    rw [there] at captured
    rw [captured tbl rfl]
    exact .table plain there

private theorem getDatabase_reads (complete : setup.without = []) {s : Session (Option Database)}
    (knows : Knows setup.v s) (represents : Represents b.toMetastore ns)
    (fits : Fits cfg setup.v (.getDatabase name opts)) (clock : Nat → Int32) :
    ∃ r s' b', (HmsClient.getDatabase cfg name opts s).ends setup.serve b = ((r, s'), b') ∧
      Ends cfg setup.v clock ns (.getDatabase name opts) r s'.captured ns ∧ Later b b' := by
  obtain ⟨names, named, tame⟩ := fits.named
  cases named
  have tameName := tame name (.head _)
  obtain ⟨id, plain⟩ := databaseId_of fits.tameCatalog tameName
  have shows : Shows setup.toEmulation b.toMetastore ns := shows_of_represents represents
  have read := shows.getDatabase _ _ _ id
    (resolveDB_sent fits.supports fits.tameCatalog tameName) plain
  obtain ⟨s', b', ran, captured, later⟩ := asked_ends complete knows b fits.supports
    (fun cat => rpc (.getDatabase (qualifyDBName cat name)))
    (fun cat db => some (databaseFromThrift db cat))
    (r := ((found (databaseNotFound name) (ns.databases id)).mapError
      Thrown.rpcErr).mapError RpcErr.err) fun s n => by
      rw [← read]
      exact ⟨n + 1, read_ends complete "get_database" rfl (by decide) rfl s⟩
  refine ⟨_, s', b', ran, ?_, later⟩
  cases there : ns.databases id with
  | none => exact .noDatabase plain there rfl
  | some db =>
    rw [there] at captured
    rw [captured db rfl]
    exact .database plain there

private theorem getAllTables_handled
    (read : getAllTables setup.toEmulation b.toMetastore dbName = .ok names) (n : Nat) :
    setup.handle { b with handled := n } (.getAllTables dbName) =
      (.ok (appended names), { b with handled := n }) := by
  have shown : setup.read { b with handled := n } (.getAllTables dbName) = .ok names :=
    congrArg (·.mapError Thrown.rpcErr) read
  rw [Setup.handle, shown]
  rfl

private theorem getAllTables_ends (complete : setup.without = []) {s : Session (Slice Text)}
    (knows : Knows setup.v s) (represents : Represents b.toMetastore ns)
    (fits : Fits cfg setup.v (.getAllTables dbName opts)) (clock : Nat → Int32) :
    ∃ r s' b', (HmsClient.getAllTables cfg dbName opts s).ends setup.serve b = ((r, s'), b') ∧
      Ends cfg setup.v clock ns (.getAllTables dbName opts) r s'.captured ns ∧ Later b b' := by
  obtain ⟨names, named, tame⟩ := fits.named
  cases named
  have tameName := tame dbName (.head _)
  obtain ⟨id, plain⟩ := databaseId_of fits.tameCatalog tameName
  have shows : Shows setup.toEmulation b.toMetastore ns := shows_of_represents represents
  obtain ⟨names, read, listing⟩ := shows.getAllTables _ _ _ id
    (resolveDB_sent fits.supports fits.tameCatalog tameName) plain
  obtain ⟨s', b', ran, captured, later⟩ := asked_ends complete knows b fits.supports
    (fun cat => rpc (.getAllTables (qualifyDBName cat dbName)))
    (fun _ list => list) (r := .ok (appended names)) fun s n =>
      ⟨n + 1, read_ends complete "get_all_tables" rfl (by decide) (getAllTables_handled read n) s⟩
  refine ⟨_, s', b', ran, ?_, later⟩
  rw [captured _ rfl]
  exact .tables plain (by rwa [appended_items])

private theorem getAllDatabases_handled (n : Nat) :
    setup.handle { b with handled := n } .getAllDatabases =
      (.ok (appended (getAllDatabases b.toMetastore)), { b with handled := n }) := rfl

private theorem getDatabases_handled
    (read : getDatabases setup.toEmulation b.toMetastore pattern = .ok names) (n : Nat) :
    setup.handle { b with handled := n } (.getDatabases pattern) =
      (.ok (appended names), { b with handled := n }) := by
  have shown : setup.read { b with handled := n } (.getDatabases pattern) = .ok names :=
    congrArg (·.mapError Thrown.rpcErr) read
  rw [Setup.handle, shown]
  rfl

/-- How `GetAllDatabases` asks. -/
private def askDatabases : Option Text → Closure (Slice Text) (Slice Text)
  | some name =>
    if name ≠ defaultCatalog then rpc (.getDatabases (qualifyDBName (some name) [42]))
    else rpc .getAllDatabases
  | none => rpc .getAllDatabases

private theorem askDatabases_ends (complete : setup.without = [])
    (represents : Represents b.toMetastore ns) (supports : Supports setup.v catName)
    (tame : Tame catName) :
    ∃ names : List Text,
      (Listing names fun name => ∃ id : DatabaseId, id.catalog.text = catName ∧
        id.name.text = name ∧ (ns.databases id).isSome) ∧
      ∀ s n, ∃ n', (askDatabases (sent setup.v catName) s).ends setup.serve
        { b with handled := n } = ((.ok (appended names), s), { b with handled := n' }) := by
  have shows : Shows setup.toEmulation b.toMetastore ns := shows_of_represents represents
  by_cases isDefault : catName = defaultCatalog
  · refine ⟨getAllDatabases b.toMetastore, by rw [isDefault]; exact shows.getAllDatabases,
      fun s n => ⟨n + 1, ?_⟩⟩
    have asks : askDatabases (sent setup.v catName) = rpc .getAllDatabases := by
      rw [isDefault, sent]
      split
      · rfl
      · rfl
    rw [asks]
    exact read_ends complete "get_all_databases" rfl (by decide) (getAllDatabases_handled n) s
  · have newer := supports.resolve_right isDefault
    have resolved : resolveDB setup.v (64 :: catName ++ 35 :: [42]) = .ok (catName, [42]) := by
      rw [resolveDB, split_at_first tame.2.1]
      simp [newer]
    have plain : PlainName.of catName = some ⟨catName, tame.1⟩ := dif_pos tame.1
    obtain ⟨names, read, listing⟩ := shows.getDatabases _ _ _ _ resolved plain
    have asks : askDatabases (sent setup.v catName) =
        rpc (.getDatabases (64 :: catName ++ 35 :: [42])) := by
      rw [sent, if_neg newer, askDatabases, if_pos isDefault, qualifyDBName, if_pos isDefault]
    refine ⟨names, ?_, fun s n => ⟨n + 1, ?_⟩⟩
    · simpa [← PlainName.text_inj] using listing
    · rw [asks]
      exact read_ends complete "get_databases" rfl (by decide) (getDatabases_handled read n) s

private theorem getAllDatabases_ends (complete : setup.without = []) {s : Session (Slice Text)}
    (knows : Knows setup.v s) (represents : Represents b.toMetastore ns)
    (fits : Fits cfg setup.v (.getAllDatabases opts)) (clock : Nat → Int32) :
    ∃ r s' b', (HmsClient.getAllDatabases cfg opts s).ends setup.serve b = ((r, s'), b') ∧
      Ends cfg setup.v clock ns (.getAllDatabases opts) r s'.captured ns ∧ Later b b' := by
  obtain ⟨names, listing, asks⟩ :=
    askDatabases_ends complete represents fits.supports fits.tameCatalog
  obtain ⟨s', b', ran, captured, later⟩ := asked_ends complete knows b fits.supports askDatabases
    (fun _ list => list) (r := .ok (appended names)) asks
  have unfolded : HmsClient.getAllDatabases cfg opts =
      (resolveCat cfg opts >>= fun cat => askDatabases cat >>= fun list => capture list) := by
    refine bind_congr fun cat => ?_
    cases cat with
    | none => rfl
    | some name =>
      dsimp only [askDatabases]
      split
      · rfl
      · rfl
  refine ⟨_, s', b', by rw [unfolded]; exact ran, ?_, later⟩
  rw [captured _ rfl]
  exact .databases (by rwa [appended_items])

/-- Every operation ends as the namespace has it, and leaves a store that keeps the
namespace it makes. -/
theorem operation_ends (complete : setup.without = []) {op : Operation}
    {s : Session op.Captured} (knows : Knows setup.v s) (represents : Represents b.toMetastore ns)
    (fits : Fits cfg setup.v op) :
    ∃ n ns', Ends cfg setup.v (setup.now n) ns op ((op.closure cfg s).ends setup.serve b).1.1
        ((op.closure cfg s).ends setup.serve b).1.2.captured ns' ∧
      Represents ((op.closure cfg s).ends setup.serve b).2.toMetastore ns' := by
  have changing : changesNames op = true →
      ∃ n ns', Ends cfg setup.v (setup.now n) ns op ((op.closure cfg s).ends setup.serve b).1.1
          ((op.closure cfg s).ends setup.serve b).1.2.captured ns' ∧
        Represents ((op.closure cfg s).ends setup.serve b).2.toMetastore ns' := by
    intro changes
    obtain ⟨n, change, wants, settles⟩ := changes_settle complete knows represents fits changes
    exact ⟨n, _, .changed wants settles.outcome, settles.left⟩
  have reading : (∃ r s' b', (op.closure cfg s).ends setup.serve b = ((r, s'), b') ∧
        Ends cfg setup.v (setup.now 0) ns op r s'.captured ns ∧ Later b b') →
      ∃ n ns', Ends cfg setup.v (setup.now n) ns op ((op.closure cfg s).ends setup.serve b).1.1
          ((op.closure cfg s).ends setup.serve b).1.2.captured ns' ∧
        Represents ((op.closure cfg s).ends setup.serve b).2.toMetastore ns' := by
    rintro ⟨r, s', b', ran, ends, n, rfl⟩
    refine ⟨0, ns, ?_, ?_⟩
    · rw [ran]
      exact ends
    · rw [ran]
      exact represents
  obtain ⟨names, named, -⟩ := id fits.named
  cases op with
  | createDatabase db | alterDatabase name db opts
  | dropDatabase name deleteData cascade ifExists opts | createTable table
  | alterTable dbName tableName newTable opts
  | dropTable dbName tableName deleteData ifExists opts => exact changing rfl
  | getDatabase name opts => exact reading (getDatabase_reads complete knows represents fits _)
  | getAllDatabases opts => exact reading (getAllDatabases_ends complete knows represents fits _)
  | getTable dbName tableName opts =>
    exact reading (getTable_ends complete knows represents fits _)
  | getAllTables dbName opts => exact reading (getAllTables_ends complete knows represents fits _)
  | _ => cases named

end Reads

/-! ## Runs -/

/-- An operation, on a connection. -/
structure Step where
  op : Operation
  session : Session op.Captured

def Step.run (setup : Setup) (cfg : Config) (step : Step) (b : Backend) :
    (Except Err Unit × Session step.op.Captured) × Backend :=
  (step.op.closure cfg step.session).ends setup.serve b

/-- What a step needs: names that the server reads as they are meant, and a connection that
is not wrong about the server. -/
def Step.Ready (cfg : Config) (v : Version) (step : Step) : Prop :=
  Fits cfg v step.op ∧ Knows v step.session

/-- Every step ends as the namespace has it that the steps before have made. -/
inductive Course (setup : Setup) (cfg : Config) : List Step → Backend → Namespace → Prop
  | nil (b : Backend) (ns : Namespace) : Course setup cfg [] b ns
  | cons {step : Step} {rest : List Step} {b : Backend} {ns ns' : Namespace} {n : Nat}
      (ended : Ends cfg setup.v (setup.now n) ns step.op (step.run setup cfg b).1.1
        (step.run setup cfg b).1.2.captured ns')
      (followed : Course setup cfg rest (step.run setup cfg b).2 ns') :
      Course setup cfg (step :: rest) b ns

variable {cfg : Config} {ns ms : Namespace}

private theorem course (complete : setup.without = [])
    (ready : ∀ step ∈ steps, step.Ready cfg setup.v) (represents : Represents b.toMetastore ns) :
    Course setup cfg steps b ns := by
  induction steps generalizing b ns with
  | nil => exact .nil b ns
  | cons step rest ih =>
    obtain ⟨fits, knows⟩ := ready step (.head _)
    obtain ⟨n, ns', ended, left⟩ := operation_ends complete knows represents fits
    exact .cons ended (ih (fun other inRest => ready other (.tail _ inRest)) left)

/-- Whatever operations on databases and tables are run against a fresh fake metastore of
any version, on whatever connections: they all see and change one namespace. -/
theorem operations_share_one_namespace (setup : Setup) (complete : setup.without = [])
    (cfg : Config) (steps : List Step) (ready : ∀ step ∈ steps, step.Ready cfg setup.v) :
    Course setup cfg steps (newBackend setup.v) (.empty (newBackend setup.v).catalogs) :=
  course complete ready (represents_empty rfl rfl)

/-! ## Versions -/

/-- The outcomes of steps, as what `errors.Is` tells apart. -/
def outcomes (setup : Setup) (cfg : Config) : List Step → Backend → List (Except Sentinel Unit)
  | [], _ => []
  | step :: rest, b =>
    let ended := step.run setup cfg b
    ended.1.1.mapError classify :: outcomes setup cfg rest ended.2

/-- The same names are taken. -/
private structure SameTaken (ns ms : Namespace) : Prop where
  databases : ∀ id, (ns.databases id).isSome = (ms.databases id).isSome
  tables : ∀ id, (ns.tables id).isSome = (ms.tables id).isSome

/-- The same change, but for what is stored. -/
private inductive SameChange : Change → Change → Prop
  | createDatabase (id : DatabaseId) (db db' : Wire.Database) :
      SameChange (.createDatabase id db) (.createDatabase id db')
  | alterDatabase (id : DatabaseId) (db db' : Wire.Database) :
      SameChange (.alterDatabase id db) (.alterDatabase id db')
  | dropDatabase (id : DatabaseId) (cascade : Bool) :
      SameChange (.dropDatabase id cascade) (.dropDatabase id cascade)
  | createTable (id : TableId) (tbl tbl' : Wire.Table) :
      SameChange (.createTable id tbl) (.createTable id tbl')
  | alterTable (id : TableId) (newName : PlainName) (tbl tbl' : Wire.Table) :
      SameChange (.alterTable id newName tbl) (.alterTable id newName tbl')
  | dropTable (id : TableId) : SameChange (.dropTable id) (.dropTable id)

private theorem sameChange_changeOf (wants : changeOf cfg v clock op = some change)
    (wants' : changeOf cfg v' clock' op = some change') : SameChange change change' := by
  cases op with
  | createDatabase db =>
    obtain ⟨id, plain, rfl⟩ := Option.map_eq_some_iff.mp wants
    obtain ⟨id', plain', rfl⟩ := Option.map_eq_some_iff.mp wants'
    cases Option.some.inj (plain.symm.trans plain')
    exact .createDatabase id _ _
  | alterDatabase name db opts =>
    obtain ⟨id, plain, rfl⟩ := Option.map_eq_some_iff.mp wants
    obtain ⟨id', plain', rfl⟩ := Option.map_eq_some_iff.mp wants'
    cases Option.some.inj (plain.symm.trans plain')
    exact .alterDatabase id _ _
  | dropDatabase name deleteData cascade ifExists opts =>
    obtain ⟨id, plain, rfl⟩ := Option.map_eq_some_iff.mp wants
    obtain ⟨id', plain', rfl⟩ := Option.map_eq_some_iff.mp wants'
    cases Option.some.inj (plain.symm.trans plain')
    exact .dropDatabase id cascade
  | createTable table =>
    obtain ⟨id, plain, rfl⟩ := Option.map_eq_some_iff.mp wants
    obtain ⟨id', plain', rfl⟩ := Option.map_eq_some_iff.mp wants'
    cases Option.some.inj (plain.symm.trans plain')
    exact .createTable id _ _
  | alterTable dbName tableName newTable opts =>
    obtain ⟨id, plain, renamed⟩ := Option.bind_eq_some_iff.mp wants
    obtain ⟨id', plain', renamed'⟩ := Option.bind_eq_some_iff.mp wants'
    obtain ⟨newName, newPlain, rfl⟩ := Option.map_eq_some_iff.mp renamed
    obtain ⟨newName', newPlain', rfl⟩ := Option.map_eq_some_iff.mp renamed'
    cases Option.some.inj (plain.symm.trans plain')
    cases Option.some.inj (newPlain.symm.trans newPlain')
    exact .alterTable id newName _ _
  | dropTable dbName tableName deleteData ifExists opts =>
    obtain ⟨id, plain, rfl⟩ := Option.map_eq_some_iff.mp wants
    obtain ⟨id', plain', rfl⟩ := Option.map_eq_some_iff.mp wants'
    cases Option.some.inj (plain.symm.trans plain')
    exact .dropTable id
  | _ => cases wants

private theorem isSome_update {ι β : Type} [DecidableEq ι] {f g : ι → Option β}
    (same : ∀ id, (f id).isSome = (g id).isSome) (id : ι) {x y : Option β}
    (both : x.isSome = y.isSome) (other : ι) :
    (Function.update f id x other).isSome = (Function.update g id y other).isSome := by
  by_cases here : other = id
  · rw [here, Function.update_self, Function.update_self, both]
  · rw [Function.update_of_ne here, Function.update_of_ne here, same]

private theorem unless_alike (taken : SameTaken ns ms) (taken' : SameTaken ns' ms')
    [Decidable fails] [Decidable fails'] (same : fails ↔ fails') (err : Exception) :
    (ns.unless fails err ns').1 = (ms.unless fails' err ms').1 ∧
      SameTaken (ns.unless fails err ns').2 (ms.unless fails' err ms').2 := by
  rw [Namespace.unless, Namespace.unless]
  by_cases check : fails
  · rw [if_pos check, if_pos (same.mp check)]
    exact ⟨rfl, taken⟩
  · rw [if_neg check, if_neg fun holds => check (same.mpr holds)]
    exact ⟨rfl, taken'⟩

/-- Which names are taken decides, and decides which are taken next. -/
private theorem apply_alike (taken : SameTaken ns ms) {change change' : Change}
    (same : SameChange change change') :
    (ns.apply .hive40 change).1 = (ms.apply .hive40 change').1 ∧
      SameTaken (ns.apply .hive40 change).2 (ms.apply .hive40 change').2 := by
  classical
  have databaseNone : ∀ id, (ns.databases id).isNone = (ms.databases id).isNone := by
    intro id
    rw [← Option.not_isSome, ← Option.not_isSome, taken.databases]
  have tableNone : ∀ id, (ns.tables id).isNone = (ms.tables id).isNone := by
    intro id
    rw [← Option.not_isSome, ← Option.not_isSome, taken.tables]
  cases same with
  | createDatabase id db db' =>
    apply unless_alike taken
    · exact ⟨isSome_update taken.databases id rfl, taken.tables⟩
    · rw [taken.databases]
  | alterDatabase id db db' =>
    apply unless_alike taken
    · exact ⟨isSome_update taken.databases id rfl, taken.tables⟩
    · rw [databaseNone]
  | dropDatabase id cascade =>
    rw [Namespace.apply, Namespace.apply, databaseNone]
    split
    · exact ⟨rfl, taken⟩
    · apply unless_alike taken
      · refine ⟨isSome_update taken.databases id rfl, fun t => ?_⟩
        dsimp only
        split
        · rfl
        · exact taken.tables t
      · simp only [taken.tables]
  | createTable id tbl tbl' =>
    apply unless_alike taken
    · exact ⟨taken.databases, isSome_update taken.tables id rfl⟩
    · rw [taken.tables]
  | alterTable id newName tbl tbl' =>
    apply unless_alike taken
    · exact ⟨taken.databases, isSome_update (isSome_update taken.tables id rfl) _ rfl⟩
    · rw [tableNone]
  | dropTable id =>
    apply unless_alike taken
    · exact ⟨taken.databases, isSome_update taken.tables id rfl⟩
    · rw [tableNone]

private theorem not_taken_and_missing {ι β : Type} {f g : ι → Option β}
    (same : ∀ id, (f id).isSome = (g id).isSome) {id : ι} {value : β} (there : f id = some value)
    (missing : g id = none) : False := by
  have both := same id
  rw [there, missing] at both
  cases both

private theorem ends_alike {v v' : Version} {ns' ms' : Namespace} (taken : SameTaken ns ms)
    (ended : Ends cfg v clock ns op r out ns') (ended' : Ends cfg v' clock' ms op r' out' ms') :
    r.mapError classify = r'.mapError classify ∧ SameTaken ns' ms' := by
  cases ended with
  | changed wants outcome =>
    cases ended' with
    | changed wants' outcome' =>
      obtain ⟨same, taken'⟩ := apply_alike taken (sameChange_changeOf wants wants')
      exact ⟨by rw [outcome, outcome', verdict, verdict, same], taken'⟩
    | _ => cases wants
  | database named there =>
    cases ended' with
    | changed wants' => cases wants'
    | database named' there' => exact ⟨rfl, taken⟩
    | noDatabase named' missing' told' =>
      cases Option.some.inj (named.symm.trans named')
      exact (not_taken_and_missing taken.databases there missing').elim
  | noDatabase named missing told =>
    cases ended' with
    | changed wants' => cases wants'
    | database named' there' =>
      cases Option.some.inj (named.symm.trans named')
      exact (not_taken_and_missing (fun id => (taken.databases id).symm) there' missing).elim
    | noDatabase named' missing' told' =>
      exact ⟨congrArg Except.error (told.trans told'.symm), taken⟩
  | table named there =>
    cases ended' with
    | changed wants' => cases wants'
    | table named' there' => exact ⟨rfl, taken⟩
    | noTable named' missing' told' =>
      cases Option.some.inj (named.symm.trans named')
      exact (not_taken_and_missing taken.tables there missing').elim
  | noTable named missing told =>
    cases ended' with
    | changed wants' => cases wants'
    | table named' there' =>
      cases Option.some.inj (named.symm.trans named')
      exact (not_taken_and_missing (fun id => (taken.tables id).symm) there' missing).elim
    | noTable named' missing' told' =>
      exact ⟨congrArg Except.error (told.trans told'.symm), taken⟩
  | tables named listing =>
    cases ended' with
    | changed wants' => cases wants'
    | tables named' listing' => exact ⟨rfl, taken⟩
  | databases listing =>
    cases ended' with
    | changed wants' => cases wants'
    | databases listing' => exact ⟨rfl, taken⟩

private theorem outcomes_alike (same : steps.map (·.op) = steps'.map (·.op))
    (taken : SameTaken ns ms) (ran : Course setup cfg steps b ns)
    (ran' : Course setup' cfg steps' b' ms) :
    outcomes setup cfg steps b = outcomes setup' cfg steps' b' := by
  induction ran generalizing steps' b' ms with
  | nil b ns =>
    cases steps' with
    | nil => rfl
    | cons step' rest' => cases same
  | @cons step rest b ns ns' n ended followed ih =>
    cases ran' with
    | nil => cases same
    | @cons step' rest' _ _ ms' n' ended' followed' =>
      obtain ⟨op, session⟩ := step
      obtain ⟨op', session'⟩ := step'
      obtain ⟨first, others⟩ := List.cons.inj same
      cases first
      obtain ⟨outcome, taken'⟩ := ends_alike taken ended ended'
      rw [outcomes, outcomes]
      exact congrArg₂ List.cons outcome (ih others taken' followed')

/-- The same operations on databases and tables have the same outcomes on a fresh server of
every version, whatever connections they run on. -/
theorem versions_agree_on_outcomes (setup setup' : Setup) (complete : setup.without = [])
    (complete' : setup'.without = []) (cfg : Config) (steps steps' : List Step)
    (same : steps.map (·.op) = steps'.map (·.op))
    (ready : ∀ step ∈ steps, step.Ready cfg setup.v)
    (ready' : ∀ step ∈ steps', step.Ready cfg setup'.v) :
    outcomes setup cfg steps (newBackend setup.v) =
      outcomes setup' cfg steps' (newBackend setup'.v) := by
  have taken : SameTaken (.empty (newBackend setup.v).catalogs)
      (.empty (newBackend setup'.v).catalogs) := ⟨fun _ => rfl, fun _ => rfl⟩
  apply outcomes_alike same taken
  · exact course complete ready (represents_empty rfl rfl)
  · exact course complete' ready' (represents_empty rfl rfl)

/-- A connection that knows nothing yet. -/
def newSession {κ : Type} (captured : κ) : Session κ := ⟨.unknown, [], [], captured⟩

/-- The database "d" gets the table "t" and cannot be dropped without it; the database "x" is
missing. -/
def shortCourse : List Step :=
  [⟨.createDatabase { name := [100], locationURI := [47] }, newSession ()⟩,
    ⟨.createTable { databaseName := [100], tableName := [116] }, newSession ()⟩,
    ⟨.dropDatabase [100] false false true [], newSession ()⟩,
    ⟨.dropDatabase [120] false false false [], newSession ()⟩,
    ⟨.dropDatabase [120] false false true [], newSession ()⟩,
    ⟨.getTable [100] [116] [], newSession none⟩]

theorem shortCourse_ready (v : Version) : ∀ step ∈ shortCourse, step.Ready plainConfig v := by
  have supports : Supports v defaultCatalog := .inr rfl
  have tame : Tame defaultCatalog := by decide
  intro step inCourse
  simp only [shortCourse, List.mem_cons, List.not_mem_nil, or_false] at inCourse
  rcases inCourse with rfl | rfl | rfl | rfl | rfl | rfl <;>
    exact ⟨⟨supports, tame, _, rfl, by decide⟩, .inl rfl⟩

/-- A server with all its methods, and a clock that stands still. -/
def standing (v : Version) : Setup := ⟨withoutPatterns v, [], fun _ _ => 1⟩

theorem short_course_on_hive31 :
    Course (standing .hive31) plainConfig shortCourse (newBackend .hive31)
      (.empty (newBackend .hive31).catalogs) :=
  operations_share_one_namespace (standing .hive31) rfl plainConfig shortCourse
    (shortCourse_ready .hive31)

theorem hive23_and_hive31_agree_on_short_course :
    outcomes (standing .hive31) plainConfig shortCourse (newBackend .hive31) =
        [.ok (), .ok (), .error .errInvalidOperation, .error .errNotFound, .ok (), .ok ()] ∧
      outcomes (standing .hive23) plainConfig shortCourse (newBackend .hive23) =
        outcomes (standing .hive31) plainConfig shortCourse (newBackend .hive31) :=
  ⟨by decide +kernel,
    versions_agree_on_outcomes (standing .hive23) (standing .hive31) rfl rfl plainConfig
      shortCourse shortCourse rfl (shortCourse_ready .hive23) (shortCourse_ready .hive31)⟩

end HmsClient.Hmstest
