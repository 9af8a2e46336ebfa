import HmsClient.FakeServer
import HmsClient.NamespaceRuns

/-! The client's operations on databases and tables against the fake metastore, whatever
version it emulates. An operation names its catalog in the form that the server takes, and
its outcome is what the namespace decides: the accidents of one version are hidden, and a
drop with `ifExists` is content with nothing. -/
namespace HmsClient.Hmstest
open PeerScript

/-! ## Names on the wire -/

/-- A name without the marks of keys and of qualified names. -/
def Tame (name : Text) : Prop := 46 ∉ name ∧ 35 ∉ name ∧ 64 ∉ name

instance (name : Text) : Decidable (Tame name) := inferInstanceAs (Decidable (_ ∧ _ ∧ _))

/-- The catalog in a request: a server without catalogs is sent none. -/
def sent (v : Version) (catName : Text) : Option Text :=
  if v = .hive23 then none else some catName

/-- A server without catalogs is good for the default one. -/
def Supports (v : Version) (catName : Text) : Prop := v ≠ .hive23 ∨ catName = defaultCatalog

variable {name catName : Text}

private theorem not_looksQualified (tame : Tame name) : ¬ LooksQualified name := by
  rintro ⟨catName, db, rfl⟩
  exact tame.2.2 (.head _)

private theorem resolveDB_bare (v : Version) (tame : Tame name) :
    resolveDB v name = .ok (defaultCatalog, name) := by
  have unmarked : name.head? ≠ some 64 := fun marked =>
    tame.2.2 (List.mem_of_mem_head? (Option.mem_def.mpr marked))
  simp [resolveDB, unmarked, split_plain (not_looksQualified tame)]

/-- The server reads the name as the client means it. -/
theorem resolveDB_sent {v : Version} (supports : Supports v catName) (tameCatalog : Tame catName)
    (tame : Tame name) :
    resolveDB v (qualifyDBName (sent v catName) name) = .ok (catName, name) := by
  by_cases old : v = .hive23
  · have isDefault := supports.resolve_left (not_not.mpr old)
    rw [sent, if_pos old, isDefault]
    exact resolveDB_bare v tame
  · rw [sent, if_neg old, qualifyDBName]
    by_cases isDefault : catName = defaultCatalog
    · rw [if_neg (not_not.mpr isDefault), isDefault]
      exact resolveDB_bare v tame
    · rw [if_pos isDefault, resolveDB, split_at_first tameCatalog.2.1]
      simp [old]

theorem cat_sent {v : Version} (supports : Supports v catName) :
    cat v (sent v catName) = .ok catName := by
  by_cases old : v = .hive23
  · rw [sent, if_pos old, supports.resolve_left (not_not.mpr old), cat]
  · simp [sent, old, cat]

theorem tableId_of {db : Text} (tameCatalog : Tame catName) (tameDb : Tame db) (tame : Tame name) :
    ∃ id, TableId.of catName db name = some id := by
  simp [TableId.of, DatabaseId.of, PlainName.of, tameCatalog.1, tameDb.1, tame.1]

theorem databaseId_of (tameCatalog : Tame catName) (tame : Tame name) :
    ∃ id, DatabaseId.of catName name = some id := by
  simp [DatabaseId.of, PlainName.of, tameCatalog.1, tame.1]

private theorem plainName_tame (tame : Tame name) : ∃ plain, PlainName.of name = some plain := by
  simp [PlainName.of, tame.1]

/-! ## What operations want -/

/-- The catalog that an operation is about. -/
def catalogOf (cfg : Config) : Operation → Text
  | .createDatabase db => effectiveCatalog cfg db.catalogName []
  | .alterDatabase _ db opts => effectiveCatalog cfg db.catalogName opts
  | .createTable table => effectiveCatalog cfg table.catalogName []
  | .alterTable _ _ newTable opts => effectiveCatalog cfg newTable.catalogName opts
  | .dropDatabase _ _ _ _ opts | .dropTable _ _ _ _ opts => effectiveCatalog cfg [] opts
  | .getDatabase _ opts | .getAllDatabases opts => effectiveCatalog cfg [] opts
  | .getTable _ _ opts | .getAllTables _ opts => effectiveCatalog cfg [] opts
  | _ => defaultCatalog

/-- The names in an operation on databases or tables. A database to be created has its
location: `warehouseRoot` is not asked for one. -/
def namesGiven : Operation → Option (List Text)
  | .createDatabase db => if db.locationURI = [] then none else some [db.name]
  | .alterDatabase name _ _ | .dropDatabase name _ _ _ _ | .getDatabase name _ => some [name]
  | .createTable table => some [table.databaseName, table.tableName]
  | .alterTable dbName tableName newTable _ => some [dbName, tableName, newTable.tableName]
  | .dropTable dbName tableName _ _ _ | .getTable dbName tableName _ => some [dbName, tableName]
  | .getAllTables dbName _ => some [dbName]
  | .getAllDatabases _ => some []
  | _ => none

/-- What an operation that changes something wants of the namespace. -/
def changeOf (cfg : Config) (v : Version) (clock : Nat → Int32) (op : Operation) : Option Change :=
  let catName := catalogOf cfg op
  match op with
  | .createDatabase db =>
    (DatabaseId.of catName db.name).map fun id =>
      .createDatabase id { databaseToThrift db (sent v catName) with createTime := some (clock 0) }
  | .alterDatabase name db _ =>
    (DatabaseId.of catName name).map fun id =>
      .alterDatabase id { databaseToThriftFrom db (sent v catName) with name := name }
  | .dropDatabase name _ cascade _ _ =>
    (DatabaseId.of catName name).map fun id => .dropDatabase id cascade
  | .createTable table =>
    let tbl := tableToThrift table (sent v catName)
    (TableId.of catName table.databaseName table.tableName).map fun id =>
      .createTable id (if tbl.createTime = 0 then { tbl with createTime := clock 0 } else tbl)
  | .alterTable dbName tableName newTable _ =>
    (TableId.of catName dbName tableName).bind fun id =>
      (PlainName.of newTable.tableName).map fun newName =>
        .alterTable id newName (tableToThriftFrom newTable (sent v catName))
  | .dropTable dbName tableName _ _ _ => (TableId.of catName dbName tableName).map .dropTable
  | _ => none

/-- Whether an operation is one of those. -/
def changesNames : Operation → Bool
  | .createDatabase _ | .alterDatabase _ _ _ | .dropDatabase _ _ _ _ _ => true
  | .createTable _ | .alterTable _ _ _ _ | .dropTable _ _ _ _ _ => true
  | _ => false

/-- Whether an operation is content with nothing to drop. -/
def contentWithNone : Operation → Bool
  | .dropDatabase _ _ _ ifExists _ | .dropTable _ _ _ ifExists _ => ifExists
  | _ => false

/-! ## Resolving a catalog -/

/-- What a connection has cached of the server is right. -/
def Knows {κ : Type} (v : Version) (s : Session κ) : Prop :=
  s.catalogs = .unknown ∨ s.catalogs = if v = .hive23 then .no else .yes

/-- The store has been sent requests that changed nothing. -/
def Later (b b' : Backend) : Prop := ∃ n, b' = { b with handled := n }

section Operations
variable {setup : Setup} {b : Backend} {κ : Type} {s : Session κ}

private theorem supportsCatalogs_ends (complete : setup.without = []) (knows : Knows setup.v s)
    (b : Backend) :
    ∃ s' b', (supportsCatalogs s).ends setup.serve b =
        ((.ok (decide (setup.v ≠ .hive23)), s'), b') ∧
      s'.captured = s.captured ∧ Later b b' := by
  obtain ⟨⟨v, pathMatch⟩, without, now⟩ := setup
  obtain ⟨catalogs, fallback, roots, captured⟩ := s
  cases complete
  cases catalogs with
  | unknown =>
    cases v with
    | hive23 => exact ⟨_, _, rfl, rfl, _, rfl⟩
    | hive31 => exact ⟨_, _, rfl, rfl, _, rfl⟩
    | hive40 => exact ⟨_, _, rfl, rfl, _, rfl⟩
  | yes =>
    refine ⟨_, b, ?_, rfl, b.handled, rfl⟩
    cases v with
    | hive23 => simp [Knows] at knows
    | hive31 => rfl
    | hive40 => rfl
  | no =>
    refine ⟨_, b, ?_, rfl, b.handled, rfl⟩
    cases v with
    | hive23 => rfl
    | hive31 => simp [Knows] at knows
    | hive40 => simp [Knows] at knows

theorem resolveCatFor_ends (complete : setup.without = []) (knows : Knows setup.v s)
    (b : Backend) (cfg : Config) (structCat : Text) (opts : CatalogOptions)
    (supports : Supports setup.v (effectiveCatalog cfg structCat opts)) :
    ∃ s' b', (resolveCatFor cfg structCat opts s).ends setup.serve b =
        ((.ok (sent setup.v (effectiveCatalog cfg structCat opts)), s'), b') ∧
      s'.captured = s.captured ∧ Later b b' := by
  obtain ⟨s', b', ended, kept, later⟩ := supportsCatalogs_ends complete knows b
  refine ⟨s', b', (ends_then ended).trans ?_, kept, later⟩
  by_cases old : setup.v = .hive23
  · have isDefault := supports.resolve_left (not_not.mpr old)
    simp only [isDefault, old, sent]
    rfl
  · have newer : decide (setup.v ≠ .hive23) = true := decide_eq_true old
    by_cases isDefault : effectiveCatalog cfg structCat opts = defaultCatalog
    · simp only [isDefault, newer, if_true, sent, if_neg old]
      rfl
    · simp only [if_neg isDefault, newer, if_true, sent, if_neg old]
      rfl

/-! ## Operations that change something -/

/-- The outcome of a request, as the client tells it. -/
def reported (ifExists : Bool) : Except Exception Unit → Except Sentinel Unit
  | .ok () => .ok ()
  | .error err =>
    let sentinel := classify (thrown err).err
    if ifExists && sentinel = .errNotFound then .ok () else .error sentinel

/-- What the namespace decides, as the client tells it. -/
noncomputable def verdict (ns : Namespace) (change : Change) (ifExists : Bool) :
    Except Sentinel Unit :=
  reported ifExists ((ns.apply .hive40 change).1.getD (.ok ()))

/-- A drop that is content with nothing. -/
private def forgiving (ifExists : Bool) : Except Err Unit → Except Err Unit
  | .ok () => .ok ()
  | .error err => if ifExists && classify err = .errNotFound then .ok () else .error err

/-- What the server makes of a request that writes. -/
private def written (setup : Setup) (b : Backend) (rpc : WriteRpc) : Except RpcErr Unit × Backend :=
  let answered := setup.write b rpc
  (answered.1, { answered.2 with handled := b.handled + 1 })

/-- A method that every version has. -/
theorem serve_present (complete : setup.without = []) {call : Call} (name : String)
    (named : method call = name)
    (everywhere : name ∉ removedRPCs .hive23 ∧ name ∉ removedRPCs .hive31) (b : Backend) :
    setup.serve call b =
      ((setup.handle b call).1, { (setup.handle b call).2 with handled := b.handled + 1 }) := by
  have served : setup.lacks call = false := by
    rw [Setup.lacks, complete, List.append_nil, named]
    simp only [List.contains_eq_mem, decide_eq_false_iff_not]
    cases setup.v with
    | hive23 => exact everywhere.1
    | hive31 => exact everywhere.2
    | hive40 => exact List.not_mem_nil
  rw [Setup.serve, served]
  rfl

/-- The client sees the kind of an exception. -/
private theorem rpcErr_of_kind {α : Type} (outcome : Except Thrown α) :
    outcome.mapError Thrown.rpcErr = (outcome.mapError Thrown.kind).mapError thrown := by
  cases outcome with
  | ok _ => rfl
  | error _ => rfl

variable {ns : Namespace} {change : Change} {ifExists : Bool} {d : Closure Unit Unit} {cfg : Config}
  {op : Operation} {catName qname name : Text} {s : Session Unit}

private theorem written_refines (represents : Represents b.toMetastore ns) {rpc : WriteRpc}
    (wants : rpc.change setup.toEmulation (setup.now b.handled) = some change) :
    Represents (written setup b rpc).2.toMetastore (ns.apply setup.v change).2 ∧
      ∀ outcome ∈ (ns.apply setup.v change).1,
        (written setup b rpc).1 = outcome.mapError thrown := by
  have refines := handleWrite_refines represents {} rpc wants
  refine ⟨refines.left, fun outcome told => ?_⟩
  rw [← refines.answer outcome told, ← rpcErr_of_kind]
  rfl

/-- How an operation ends that changes something: as is decided, and with the change made. -/
structure Settles (ns : Namespace) (change : Change) (ifExists : Bool)
    (ended : (Except Err Unit × Session κ) × Backend) : Prop where
  outcome : ended.1.1.mapError classify = verdict ns change ifExists
  left : Represents ended.2.toMetastore (ns.apply .hive40 change).2

private theorem told_unless (ns ns' : Namespace) (fails : Prop) [Decidable fails] (err : Exception) :
    ∃ outcome, (ns.unless fails err ns').1 = some outcome := by
  rw [Namespace.unless]
  split
  · exact ⟨_, rfl⟩
  · exact ⟨_, rfl⟩

/-- The changes that every version decides alike. -/
private inductive Steadfast : Change → Prop where
  | createDatabase (id : DatabaseId) (db : Wire.Database) : Steadfast (.createDatabase id db)
  | alterDatabase (id : DatabaseId) (db : Wire.Database) : Steadfast (.alterDatabase id db)
  | createTable (id : TableId) (tbl : Wire.Table) : Steadfast (.createTable id tbl)
  | alterTable (id : TableId) (newName : PlainName) (tbl : Wire.Table) :
      Steadfast (.alterTable id newName tbl)
  | dropTable (id : TableId) : Steadfast (.dropTable id)

private theorem Steadfast.told (steadfast : Steadfast change) (v : Version) (ns : Namespace) :
    ns.apply v change = ns.apply .hive40 change ∧
      ∃ outcome, (ns.apply .hive40 change).1 = some outcome := by
  cases steadfast with
  | createDatabase id db | alterDatabase id db | createTable id tbl | alterTable id newName tbl
  | dropTable id => exact ⟨rfl, told_unless _ _ _ _⟩

private theorem forgiving_thrown (ifExists : Bool) (outcome : Except Exception Unit) :
    (forgiving ifExists ((outcome.mapError thrown).mapError RpcErr.err)).mapError classify =
      reported ifExists outcome := by
  cases outcome with
  | ok _ => rfl
  | error err =>
    change (if ifExists && classify (thrown err).err = .errNotFound then .ok ()
      else .error (thrown err).err : Except Err Unit).mapError classify = _
    rw [reported]
    split
    · rfl
    · rfl

theorem rpc_ends (setup : Setup) (call : Call) (s : Session κ) (b : Backend) :
    (rpc call s).ends setup.serve b =
      (((setup.serve call b).1.mapError RpcErr.err, s), (setup.serve call b).2) :=
  ends_request (L := metastore) setup.serve call s b

/-- The closure makes this one request and returns what comes back. -/
private def Writes (setup : Setup) (ifExists : Bool) (d : Closure Unit Unit) (rpc : WriteRpc) :
    Prop :=
  ∀ s b, (d s).ends setup.serve b =
    ((forgiving ifExists ((written setup b rpc).1.mapError RpcErr.err), s), (written setup b rpc).2)

private theorem forgiving_false (r : Except Err Unit) : forgiving false r = r := by
  cases r with
  | ok _ => rfl
  | error err => rfl

private theorem writes_ifPresent {rpc : WriteRpc} (writes : Writes setup false d rpc) :
    Writes setup ifExists (ifPresent ifExists d) rpc := by
  intro s b
  have ended := writes s b
  rw [forgiving_false] at ended
  rw [ifPresent, ends_result ended]
  cases ((written setup b rpc).1.mapError RpcErr.err) with
  | ok _ => rfl
  | error err =>
    dsimp only [forgiving]
    split
    · rfl
    · rfl

private theorem writes_rpc {rpc : WriteRpc}
    (asks : ∀ s b, (d s).ends setup.serve b =
      (((written setup b rpc).1.mapError RpcErr.err, s), (written setup b rpc).2)) :
    Writes setup false d rpc := by
  intro s b
  rw [forgiving_false]
  exact asks s b

private def dropsDatabase : Operation → Bool
  | .dropDatabase _ _ _ _ _ => true
  | _ => false

private theorem steadfast_changeOf (wants : changeOf cfg v clock op = some change)
    (keeps : dropsDatabase op = false) : Steadfast change := by
  cases op with
  | createDatabase db =>
    obtain ⟨id, -, rfl⟩ := Option.map_eq_some_iff.mp wants
    exact .createDatabase _ _
  | alterDatabase name db opts =>
    obtain ⟨id, -, rfl⟩ := Option.map_eq_some_iff.mp wants
    exact .alterDatabase _ _
  | dropDatabase name deleteData cascade ifExists opts => cases keeps
  | createTable table =>
    obtain ⟨id, -, rfl⟩ := Option.map_eq_some_iff.mp wants
    exact .createTable _ _
  | alterTable dbName tableName newTable opts =>
    obtain ⟨id, -, renamed⟩ := Option.bind_eq_some_iff.mp wants
    obtain ⟨newName, -, rfl⟩ := Option.map_eq_some_iff.mp renamed
    exact .alterTable _ _ _
  | dropTable dbName tableName deleteData ifExists opts =>
    obtain ⟨id, -, rfl⟩ := Option.map_eq_some_iff.mp wants
    exact .dropTable _
  | _ => cases wants

/-! ### One request for each operation -/

/-- The request that an operation makes, in the catalog that it is about. -/
private def requestOf (cfg : Config) (v : Version) (op : Operation) : Option WriteRpc :=
  let cat := sent v (catalogOf cfg op)
  match op with
  | .createDatabase db => some (.createDatabase (databaseToThrift db cat))
  | .alterDatabase name db _ =>
    some (.alterDatabase (qualifyDBName cat name) (databaseToThriftFrom db cat))
  | .dropDatabase name deleteData cascade _ _ =>
    some (.dropDatabase (qualifyDBName cat name) deleteData cascade)
  | .createTable table => some (.createTable (tableToThrift table cat))
  | .alterTable dbName tableName newTable _ =>
    some (.alterTable (qualifyDBName cat dbName) tableName (tableToThriftFrom newTable cat))
  | .dropTable dbName tableName deleteData _ _ =>
    some (.dropTable (qualifyDBName cat dbName) tableName deleteData)
  | _ => none

/-- What an operation needs of its names and of the server. -/
structure Fits (cfg : Config) (v : Version) (op : Operation) : Prop where
  supports : Supports v (catalogOf cfg op)
  tameCatalog : Tame (catalogOf cfg op)
  named : ∃ names, namesGiven op = some names ∧ ∀ name ∈ names, Tame name

theorem effectiveCatalog_ne_nil (cfg : Config) (structCat : Text) (opts : CatalogOptions) :
    effectiveCatalog cfg structCat opts ≠ [] := by
  have filled : ∀ effective : Text,
      (if effective = [] then defaultCatalog else effective) ≠ [] := by
    intro effective
    split
    · decide
    · assumption
  exact filled _

/-- The field for the catalog, or what an empty one stands for. -/
private theorem sent_or_default (supports : Supports v catName) (filled : catName ≠ []) :
    (if (sent v catName).getD [] ≠ [] then (sent v catName).getD [] else defaultCatalog) =
      catName := by
  by_cases old : v = .hive23
  · rw [sent, if_pos old]
    exact (supports.resolve_left (not_not.mpr old)).symm
  · rw [sent, if_neg old]
    exact if_pos filled

/-- The server takes the request for what the operation wants. -/
private theorem wants_requestOf {rpc : WriteRpc} (fits : Fits cfg e.v op)
    (request : requestOf cfg e.v op = some rpc) (clock : Nat → Int32) :
    rpc.change e clock = changeOf cfg e.v clock op ∧ (changeOf cfg e.v clock op).isSome := by
  obtain ⟨supports, tameCatalog, names, named, tame⟩ := fits
  cases op with
  | createDatabase db =>
    have located : db.locationURI ≠ [] := by
      intro homeless
      simp [namesGiven, homeless] at named
    rw [namesGiven, if_neg located] at named
    cases request
    cases named
    have tameName := tame db.name (.head _)
    obtain ⟨id, plain⟩ := databaseId_of tameCatalog tameName
    have resolved : resolveDB e.v (databaseToThrift db
        (sent e.v (catalogOf cfg (.createDatabase db)))).name = .ok (defaultCatalog, db.name) :=
      resolveDB_bare e.v tameName
    have homed : (databaseToThrift db
        (sent e.v (catalogOf cfg (.createDatabase db)))).locationUri ≠ [] := located
    have catName : (if (databaseToThrift db
          (sent e.v (catalogOf cfg (.createDatabase db)))).catalogName.getD [] ≠ [] then
        (databaseToThrift db (sent e.v (catalogOf cfg (.createDatabase db)))).catalogName.getD []
        else defaultCatalog) = catalogOf cfg (.createDatabase db) :=
      sent_or_default supports (effectiveCatalog_ne_nil _ _ _)
    simp only [WriteRpc.change, if_neg homed, resolved, catName, changeOf, plain]
    exact ⟨rfl, rfl⟩
  | alterDatabase name db opts =>
    cases request
    cases named
    have tameName := tame name (.head _)
    obtain ⟨id, plain⟩ := databaseId_of tameCatalog tameName
    simp only [WriteRpc.change, resolveDB_sent supports tameCatalog tameName, changeOf, plain]
    exact ⟨trivial, rfl⟩
  | dropDatabase name deleteData cascade ifExists opts =>
    cases request
    cases named
    have tameName := tame name (.head _)
    obtain ⟨id, plain⟩ := databaseId_of tameCatalog tameName
    simp only [WriteRpc.change, resolveDB_sent supports tameCatalog tameName, changeOf, plain]
    exact ⟨trivial, rfl⟩
  | createTable table =>
    cases request
    cases named
    obtain ⟨id, plain⟩ := tableId_of tameCatalog (tame _ (.head _)) (tame _ (.tail _ (.head _)))
    have resolved : cat e.v (tableToThrift table
        (sent e.v (catalogOf cfg (.createTable table)))).catName = .ok _ := cat_sent supports
    have sameId : TableId.of (catalogOf cfg (.createTable table))
        (tableToThrift table (sent e.v (catalogOf cfg (.createTable table)))).dbName
        (tableToThrift table (sent e.v (catalogOf cfg (.createTable table)))).tableName = some id :=
      plain
    simp only [WriteRpc.change, resolved, changeOf, plain, sameId]
    exact ⟨trivial, rfl⟩
  | alterTable dbName tableName newTable opts =>
    cases request
    cases named
    have tameDb := tame dbName (.head _)
    obtain ⟨id, plain⟩ := tableId_of tameCatalog tameDb (tame _ (.tail _ (.head _)))
    obtain ⟨newName, newPlain⟩ := plainName_tame (tame _ (.tail _ (.tail _ (.head _))))
    simp only [WriteRpc.change, resolveDB_sent supports tameCatalog tameDb, changeOf, plain]
    have sameName : PlainName.of (tableToThriftFrom newTable
        (sent e.v (catalogOf cfg (.alterTable dbName tableName newTable opts)))).tableName =
          some newName := newPlain
    simp only [sameName, newPlain]
    exact ⟨trivial, rfl⟩
  | dropTable dbName tableName deleteData ifExists opts =>
    cases request
    cases named
    have tameDb := tame dbName (.head _)
    obtain ⟨id, plain⟩ := tableId_of tameCatalog tameDb (tame _ (.tail _ (.head _)))
    simp only [WriteRpc.change, resolveDB_sent supports tameCatalog tameDb, changeOf, plain]
    exact ⟨trivial, rfl⟩
  | _ => cases request

/-- The operation resolves its catalog, and makes the request in it. -/
private structure Behind (setup : Setup) (cfg : Config) (op : Operation) (rpc : WriteRpc)
    (d : Closure Unit Unit) : Prop where
  resolves : ∃ structCat opts next, d = (resolveCatFor cfg structCat opts >>= next) ∧
    effectiveCatalog cfg structCat opts = catalogOf cfg op ∧
    Writes setup (contentWithNone op) (next (sent setup.v (catalogOf cfg op))) rpc

private theorem settles_behind (complete : setup.without = []) (knows : Knows setup.v s)
    (represents : Represents b.toMetastore ns) (fits : Fits cfg setup.v op) {rpc : WriteRpc}
    (request : requestOf cfg setup.v op = some rpc) (keeps : dropsDatabase op = false)
    (behind : Behind setup cfg op rpc d) :
    ∃ n change, changeOf cfg setup.v (setup.now n) op = some change ∧
      Settles ns change (contentWithNone op) ((d s).ends setup.serve b) := by
  obtain ⟨structCat, opts, next, rfl, same, writes⟩ := behind
  have supports := fits.supports
  rw [← same] at supports writes
  obtain ⟨s', b', ended, -, n, rfl⟩ := resolveCatFor_ends complete knows b cfg structCat opts supports
  obtain ⟨wants, some⟩ := wants_requestOf fits request (setup.now n)
  obtain ⟨change, isWanted⟩ := Option.isSome_iff_exists.mp some
  obtain ⟨left, answer⟩ := written_refines (b := { b with handled := n }) represents
    (wants.trans isWanted)
  obtain ⟨alike, outcome, told⟩ := (steadfast_changeOf isWanted keeps).told setup.v ns
  rw [alike] at left answer
  refine ⟨n, change, isWanted, ?_, ?_⟩
  · rw [ends_then ended, writes, answer outcome told, forgiving_thrown, verdict, told]
    rfl
  · rw [ends_then ended, writes]
    exact left

private theorem behind_createDatabase (complete : setup.without = []) (cfg : Config)
    (located : db.locationURI ≠ []) :
    Behind setup cfg (.createDatabase db)
      (.createDatabase (databaseToThrift db (sent setup.v (catalogOf cfg (.createDatabase db)))))
      (HmsClient.createDatabase cfg db) := by
  refine ⟨_, _, _, rfl, rfl, ?_⟩
  simp only [if_neg located]
  refine writes_rpc fun s b => (rpc_ends setup _ s b).trans ?_
  rw [serve_present complete "create_database" rfl (by decide)]
  rfl

private theorem behind_alterDatabase (complete : setup.without = []) (cfg : Config) (name : Text)
    (db : Database) (opts : CatalogOptions) :
    Behind setup cfg (.alterDatabase name db opts)
      (.alterDatabase
        (qualifyDBName (sent setup.v (catalogOf cfg (.alterDatabase name db opts))) name)
        (databaseToThriftFrom db (sent setup.v (catalogOf cfg (.alterDatabase name db opts)))))
      (HmsClient.alterDatabase cfg name db opts) := by
  refine ⟨_, _, _, rfl, rfl, ?_⟩
  refine writes_rpc fun s b => (rpc_ends setup _ s b).trans ?_
  rw [serve_present complete "alter_database" rfl (by decide)]
  rfl

private theorem behind_createTable (complete : setup.without = []) (cfg : Config) (table : Table) :
    Behind setup cfg (.createTable table)
      (.createTable (tableToThrift table (sent setup.v (catalogOf cfg (.createTable table)))))
      (HmsClient.createTable cfg table) := by
  refine ⟨_, _, _, rfl, rfl, ?_⟩
  refine writes_rpc fun s b => (rpc_ends setup _ s b).trans ?_
  rw [serve_present complete "create_table" rfl (by decide)]
  rfl

private theorem behind_alterTable (complete : setup.without = []) (cfg : Config)
    (dbName tableName : Text) (newTable : Table) (opts : CatalogOptions) :
    Behind setup cfg (.alterTable dbName tableName newTable opts)
      (.alterTable
        (qualifyDBName
          (sent setup.v (catalogOf cfg (.alterTable dbName tableName newTable opts))) dbName)
        tableName (tableToThriftFrom newTable
          (sent setup.v (catalogOf cfg (.alterTable dbName tableName newTable opts)))))
      (HmsClient.alterTable cfg dbName tableName newTable opts) := by
  refine ⟨_, _, _, rfl, rfl, ?_⟩
  refine writes_rpc fun s b => (rpc_ends setup _ s b).trans ?_
  rw [serve_present complete "alter_table" rfl (by decide)]
  rfl

private theorem behind_dropTable (complete : setup.without = []) (cfg : Config)
    (dbName tableName : Text) (deleteData ifExists : Bool) (opts : CatalogOptions) :
    Behind setup cfg (.dropTable dbName tableName deleteData ifExists opts)
      (.dropTable
        (qualifyDBName
          (sent setup.v (catalogOf cfg (.dropTable dbName tableName deleteData ifExists opts)))
          dbName) tableName deleteData)
      (HmsClient.dropTable cfg dbName tableName deleteData ifExists opts) := by
  refine ⟨_, _, _, rfl, rfl, writes_ifPresent ?_⟩
  refine writes_rpc fun s b => (rpc_ends setup _ s b).trans ?_
  rw [serve_present complete "drop_table" rfl (by decide)]
  rfl

/-! ### A database to drop -/

private theorem getDatabase_ends (complete : setup.without = [])
    (represents : Represents b.toMetastore ns) {id : DatabaseId}
    (resolved : resolveDB setup.v qname = .ok (catName, name))
    (plain : DatabaseId.of catName name = some id) (s : Session κ) :
    (rpc (.getDatabase qname) s).ends setup.serve b =
      ((((found (databaseNotFound name) (ns.databases id)).mapError Thrown.rpcErr).mapError
          RpcErr.err, s), { b with handled := b.handled + 1 }) := by
  have shows : Shows setup.toEmulation b.toMetastore ns := shows_of_represents represents
  refine (rpc_ends setup _ s b).trans ?_
  rw [serve_present complete "get_database" rfl (by decide),
    ← shows.getDatabase _ _ _ _ resolved plain]
  rfl

/-- A database that is missing is told so by every version. -/
private theorem dropError_missing (complete : setup.without = [])
    (represents : Represents b.toMetastore ns) {id : DatabaseId}
    (resolved : resolveDB setup.v qname = .ok (catName, name))
    (plain : DatabaseId.of catName name = some id) (missing : ns.databases id = none)
    (s : Session κ) :
    ∃ b', (dropError qname
          (thrown (if setup.v = .hive31 then .metaException else .noSuchObject)).err s).ends
            setup.serve b = ((.ok (thrown .noSuchObject).err, s), b') ∧ Later b b' := by
  by_cases accident : setup.v = .hive31
  · have asked := getDatabase_ends complete represents resolved plain s
    rw [missing] at asked
    rw [if_pos accident]
    exact ⟨_, (ends_result asked).trans rfl, _, rfl⟩
  · rw [if_neg accident]
    exact ⟨b, rfl, b.handled, rfl⟩

/-- One that is there is refused for what the drop said. -/
private theorem dropError_refused (complete : setup.without = [])
    (represents : Represents b.toMetastore ns) {id : DatabaseId}
    (resolved : resolveDB setup.v qname = .ok (catName, name))
    (plain : DatabaseId.of catName name = some id) (present : ns.databases id = some db)
    (s : Session κ) :
    ∃ b', (dropError qname (thrown .invalidOperation).err s).ends setup.serve b =
      ((.ok (thrown .invalidOperation).err, s), b') ∧ Later b b' := by
  have asked := getDatabase_ends complete represents resolved plain s
  rw [present] at asked
  exact ⟨_, (ends_result asked).trans rfl, _, rfl⟩

/-- What the drop of a database is decided by. -/
private theorem apply_dropDatabase (v : Version) (ns : Namespace) (id : DatabaseId) (cascade : Bool) :
    (ns.databases id = none ∧ ns.apply .hive40 (.dropDatabase id cascade) =
        (some (.error .noSuchObject), ns) ∧
      ns.apply v (.dropDatabase id cascade) =
        (some (.error (if v = .hive31 then .metaException else .noSuchObject)), ns)) ∨
    (∃ db, ns.databases id = some db ∧ ns.apply .hive40 (.dropDatabase id cascade) =
        (some (.error .invalidOperation), ns) ∧
      ns.apply v (.dropDatabase id cascade) = (some (.error .invalidOperation), ns)) ∨
    ∃ ns', ns.apply .hive40 (.dropDatabase id cascade) = (some (.ok ()), ns') ∧
      ns.apply v (.dropDatabase id cascade) = (some (.ok ()), ns') := by
  cases there : ns.databases id with
  | none => exact .inl ⟨rfl, by simp [Namespace.apply, there], by simp [Namespace.apply, there]⟩
  | some db =>
    simp only [Namespace.apply, there, Namespace.unless]
    simp only [Option.isNone_some, Bool.false_eq_true, if_false]
    split
    · exact .inr (.inl ⟨db, rfl, rfl, rfl⟩)
    · exact .inr (.inr ⟨_, rfl, rfl⟩)

/-- What `DropDatabase` does with the answer. -/
private def afterDrop (ifExists : Bool) (qname : Text) : Except Err Unit → Closure Unit Unit
  | .ok _ => pure ()
  | .error err => do
    let err ← dropError qname err
    if ifExists && classify err = .errNotFound then pure () else Dialogue.fail err

private theorem afterDrop_ends
    (asked : (dropError qname err s).ends setup.serve b = ((.ok told, s), b')) :
    (afterDrop ifExists qname (.error err) s).ends setup.serve b =
      ((forgiving ifExists (.error told), s), b') := by
  rw [afterDrop, ends_then asked, forgiving]
  split
  · rfl
  · rfl

/-- The drop of a database and what follows it. -/
private theorem dropped_settles (complete : setup.without = [])
    (represents : Represents b.toMetastore ns) {id : DatabaseId}
    (resolved : resolveDB setup.v qname = .ok (catName, name))
    (plain : DatabaseId.of catName name = some id) (deleteData cascade ifExists : Bool)
    (s : Session Unit) :
    Settles ns (.dropDatabase id cascade) ifExists
      ((((rpc (.dropDatabase qname deleteData cascade)).result >>= afterDrop ifExists qname :
        Closure Unit Unit) s).ends setup.serve b) := by
  have wants : (WriteRpc.dropDatabase qname deleteData cascade).change setup.toEmulation
      (setup.now b.handled) = some (.dropDatabase id cascade) := by
    simp only [WriteRpc.change, resolved, plain]
    rfl
  obtain ⟨left, answer⟩ := written_refines represents wants
  have dropped : (rpc (.dropDatabase qname deleteData cascade) s).ends setup.serve b =
      (((written setup b (.dropDatabase qname deleteData cascade)).1.mapError RpcErr.err, s),
        (written setup b (.dropDatabase qname deleteData cascade)).2) := by
    refine (rpc_ends setup _ s b).trans ?_
    rw [serve_present complete "drop_database" rfl (by decide)]
    rfl
  rw [ends_result dropped]
  rcases apply_dropDatabase setup.v ns id cascade with
    ⟨missing, told, answered⟩ | ⟨db, present, told, answered⟩ | ⟨ns', told, answered⟩
  · rw [answered] at left answer
    rw [answer _ rfl]
    dsimp only [Except.mapError]
    obtain ⟨b', asked, n, rfl⟩ := dropError_missing complete left resolved plain missing s
    refine ⟨?_, ?_⟩
    · rw [afterDrop_ends asked, verdict, told]
      exact forgiving_thrown ifExists (.error .noSuchObject)
    · rw [afterDrop_ends asked, told]
      exact left
  · rw [answered] at left answer
    rw [answer _ rfl]
    dsimp only [Except.mapError]
    obtain ⟨b', asked, n, rfl⟩ := dropError_refused complete left resolved plain present s
    refine ⟨?_, ?_⟩
    · rw [afterDrop_ends asked, verdict, told]
      exact forgiving_thrown ifExists (.error .invalidOperation)
    · rw [afterDrop_ends asked, told]
      exact left
  · rw [answered] at left answer
    rw [answer _ rfl]
    refine ⟨?_, ?_⟩
    · rw [verdict, told]
      rfl
    · rw [told]
      exact left

private theorem dropDatabase_settles (complete : setup.without = []) (knows : Knows setup.v s)
    (represents : Represents b.toMetastore ns)
    (fits : Fits cfg setup.v (.dropDatabase name deleteData cascade ifExists opts)) :
    ∃ n change, changeOf cfg setup.v (setup.now n)
        (.dropDatabase name deleteData cascade ifExists opts) = some change ∧
      Settles ns change ifExists
        ((HmsClient.dropDatabase cfg name deleteData cascade ifExists opts s).ends
          setup.serve b) := by
  obtain ⟨names, named, tame⟩ := fits.named
  cases named
  have tameName := tame name (.head _)
  obtain ⟨id, plain⟩ := databaseId_of fits.tameCatalog tameName
  have resolved := resolveDB_sent fits.supports fits.tameCatalog tameName
  obtain ⟨s', b', ended, -, n, rfl⟩ := resolveCatFor_ends complete knows b cfg [] opts fits.supports
  have unfolded : HmsClient.dropDatabase cfg name deleteData cascade ifExists opts =
      (resolveCatFor cfg [] opts >>= fun cat =>
        (rpc (.dropDatabase (qualifyDBName cat name) deleteData cascade)).result >>=
          afterDrop ifExists (qualifyDBName cat name)) := by
    refine bind_congr fun cat => bind_congr fun r => ?_
    cases r with
    | ok _ => rfl
    | error err => rfl
  refine ⟨n, .dropDatabase id cascade, by simp only [changeOf, plain]; rfl, ?_⟩
  rw [unfolded, ends_then ended]
  exact dropped_settles (b := { b with handled := n }) complete represents resolved plain
    deleteData cascade ifExists s'

/-- Every operation that changes something ends as the namespace decides, on every
version. -/
theorem changes_settle (complete : setup.without = []) {s : Session op.Captured}
    (knows : Knows setup.v s) (represents : Represents b.toMetastore ns)
    (fits : Fits cfg setup.v op) (changes : changesNames op = true) :
    ∃ n change, changeOf cfg setup.v (setup.now n) op = some change ∧
      Settles ns change (contentWithNone op) ((op.closure cfg s).ends setup.serve b) := by
  cases op with
  | createDatabase db =>
    have located : db.locationURI ≠ [] := by
      intro homeless
      obtain ⟨names, named, -⟩ := fits.named
      simp [namesGiven, homeless] at named
    exact settles_behind complete knows represents fits rfl rfl
      (behind_createDatabase complete cfg located)
  | alterDatabase name db opts =>
    exact settles_behind complete knows represents fits rfl rfl
      (behind_alterDatabase complete cfg name db opts)
  | dropDatabase name deleteData cascade ifExists opts =>
    exact dropDatabase_settles complete knows represents fits
  | createTable table =>
    exact settles_behind complete knows represents fits rfl rfl
      (behind_createTable complete cfg table)
  | alterTable dbName tableName newTable opts =>
    exact settles_behind complete knows represents fits rfl rfl
      (behind_alterTable complete cfg dbName tableName newTable opts)
  | dropTable dbName tableName deleteData ifExists opts =>
    exact settles_behind complete knows represents fits rfl rfl
      (behind_dropTable complete cfg dbName tableName deleteData ifExists opts)
  | _ => cases changes

end Operations

end HmsClient.Hmstest
