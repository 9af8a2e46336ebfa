import HmsClient.PartitionFilter

/-! The catalogs, databases, tables and partitions of the fake metastore of `hmstest`, with
every RPC about them. Tables and partitions are two maps under the same keys; the handlers
of tables and the cascade of a database write to both. -/
namespace HmsClient.Hmstest

/-- `Store`, without what the other RPCs are about. -/
structure Metastore extends Store where
  databases : AList fun _ : Text => Wire.Database

/-- `NewStore`: nothing but the catalog "hive". -/
def newStore : Metastore where
  catalogs := AList.singleton defaultCatalog
    { name := defaultCatalog, locationUri := "/user/hive/warehouse".toUTF8.data.toList }
  tables := ∅
  partitions := ∅
  events := []
  databases := ∅

def dbKey (catName db : Text) : Text := catName ++ 46 :: db

/-- The fields of requests that this client leaves at their defaults. -/
structure OtherFields where
  engine : Text := defaultCatalog
  id : Int64 := -1
  writeId : Int64 := -1
  ignoreProtection : Option Bool := none
  environmentContext : Option Wire.Blob := none
  skipColumnSchemaForPartition : Option Bool := none
  partsSet : Bool := true
  exprs : List Wire.Blob := []
  deriving DecidableEq

/-- The first of the fields that a handler refuses, of those that are set. -/
def firstSet (fields : List (Bool × String)) : Option Thrown :=
  (fields.find? (·.1)).map fun field => unexpectedField field.2

/-- What `DropPartitionsReq` refuses, before it looks for the table. -/
def OtherFields.refusedByDrop (other : OtherFields) (needResult : Bool) : Option Thrown :=
  firstSet
    [(other.ignoreProtection.isSome, "IgnoreProtection"),
      (other.environmentContext.isSome, "EnvironmentContext"),
      (other.skipColumnSchemaForPartition.isSome, "SkipColumnSchemaForPartition"),
      (needResult, "NeedResult_"),
      (!other.partsSet || !other.exprs.isEmpty, "Parts.Exprs")]

inductive ReadRpc where
  | getCatalogs
  | getCatalog (name : Text)
  | getAllDatabases
  | getDatabases (pattern : Text)
  | getDatabase (name : Text)
  | getAllTables (dbName : Text)
  | getTableReq (req : Wire.GetTableRequest)
  | getTableObjectsByNameReq (req : Wire.GetTablesRequest)
  | getPartitions (dbName tblName : Text) (maxParts : Int16)
  | getPartitionsReq (req : Wire.PartitionsRequest)
  | getPartitionNames (dbName tblName : Text) (maxParts : Int16)
  | getPartitionsByNames (dbName tblName : Text) (names : Slice Text)
  | getPartitionsByNamesReq (req : Wire.GetPartitionsByNamesRequest)
  | getPartitionsByFilter (dbName tblName filter : Text) (maxParts : Int16)
  | getPartitionNamesPs (dbName tblName : Text) (partVals : Slice Text) (maxParts : Int16)
  | getPartitionNamesPsReq (req : Wire.GetPartitionNamesPsRequest)

inductive WriteRpc where
  | createCatalog (catalog : Wire.Catalog)
  | dropCatalog (name : Text)
  | createDatabase (db : Wire.Database)
  | alterDatabase (name : Text) (db : Wire.Database)
  | dropDatabase (name : Text) (deleteData cascade : Bool)
  | createTable (tbl : Wire.Table)
  | alterTable (dbName tblName : Text) (newTbl : Wire.Table)
  | dropTable (dbName name : Text) (deleteData : Bool)
  | addPartitionsReq (req : Wire.AddPartitionsRequest)
  | alterPartitions (dbName tblName : Text) (parts : Slice Wire.Partition)
  | alterPartitionsReq (req : Wire.AlterPartitionsRequest)
  | dropPartition (dbName tblName : Text) (partVals : Slice Text) (deleteData : Bool)
  | dropPartitionsReq (req : Wire.DropPartitionsRequest)

abbrev ReadRpc.Reply : ReadRpc → Type
  | .getCatalog _ => Wire.Catalog
  | .getDatabase _ => Wire.Database
  | .getTableReq _ => Wire.Table
  | .getTableObjectsByNameReq _ => List Wire.Table
  | .getPartitions _ _ _ | .getPartitionsReq _ => List Wire.Partition
  | .getPartitionsByNames _ _ _ | .getPartitionsByNamesReq _ => List Wire.Partition
  | .getPartitionsByFilter _ _ _ _ => List Wire.Partition
  | _ => List Text

/-- What the server is started with: its version, and `path.Match` with an error for no. -/
structure Emulation where
  v : Version
  pathMatch : Text → Text → Bool

def sorted (names : List Text) : List Text := names.mergeSort fun a b => decide (a ≤ b)

/-! ## Handlers that read -/

section Read
variable (e : Emulation) (m : Metastore)

def catalogNotFound (name : Text) : Text := text "catalog " ++ name ++ text " not found"

def databaseNotFound (db : Text) : Text := text "database " ++ db ++ text " not found"

def getCatalog (name : Text) : Except Thrown Wire.Catalog :=
  match m.catalogs.lookup name with
  | some c => .ok c
  | none => .error ⟨.noSuchObject, catalogNotFound name⟩

/-- The databases whose key starts with the catalog's name and a dot. -/
def databasesOf (catName : Text) : List Wire.Database :=
  (m.databases.entries.filter fun entry => (catName ++ [46]).isPrefixOf entry.1).map (·.2)

def getAllDatabases : List Text := sorted ((databasesOf m defaultCatalog).map (·.name))

def getDatabases (pattern : Text) : Except Thrown (List Text) := do
  let (catName, glob) ← resolveDB e.v pattern
  let kept := (databasesOf m catName).filter fun db =>
    glob = [] || glob = [42] || e.pathMatch glob db.name
  pure (sorted (kept.map (·.name)))

def getDatabase (name : Text) : Except Thrown Wire.Database := do
  let (catName, db) ← resolveDB e.v name
  match m.databases.lookup (dbKey catName db) with
  | some d => pure d
  | none => throw ⟨.noSuchObject, databaseNotFound db⟩

/-- The keys of the tables of a database. -/
def tableKeysOf (catName db : Text) : List Text :=
  m.tables.keys.filter fun key => (dbKey catName db ++ [46]).isPrefixOf key

def getAllTables (dbName : Text) : Except Thrown (List Text) := do
  let (catName, db) ← resolveDB e.v dbName
  let tables := m.tables.entries.filter fun entry =>
    (dbKey catName db ++ [46]).isPrefixOf entry.1
  pure (sorted (tables.map (·.2.tableName)))

def getTableReq (req : Wire.GetTableRequest) (other : OtherFields) : Except Thrown Wire.Table := do
  let catName ← cat e.v req.catName
  if other.engine ≠ defaultCatalog then throw (unexpectedField "Engine")
  if other.id ≠ -1 then throw (unexpectedField "ID")
  m.tableAt catName req.dbName req.tblName

def getTableObjectsByNameReq (req : Wire.GetTablesRequest) : Except Thrown (List Wire.Table) := do
  let catName ← cat e.v req.catName
  pure (req.tblNames.items.filterMap fun name => m.tables.lookup (tblKey catName req.dbName name))

/-- The check of fields that this client leaves alone, before what else a handler does. -/
def unlessSet {α : Type} (fields : List (Bool × String)) (outcome : Except Thrown α) :
    Except Thrown α :=
  match firstSet fields with
  | some refusal => .error refusal
  | none => outcome

def handleRead (other : OtherFields) : (rpc : ReadRpc) → Except Thrown rpc.Reply
  | .getCatalogs => .ok (getCatalogs m.toStore)
  | .getCatalog name => getCatalog m name
  | .getAllDatabases => .ok (getAllDatabases m)
  | .getDatabases pattern => getDatabases e m pattern
  | .getDatabase name => getDatabase e m name
  | .getAllTables dbName => getAllTables e m dbName
  | .getTableReq req => getTableReq e m req other
  | .getTableObjectsByNameReq req => getTableObjectsByNameReq e m req
  | .getPartitions dbName tblName maxParts => getPartitions e.v dbName tblName maxParts m.toStore
  | .getPartitionsReq req => do
    let _ ← cat e.v req.catName
    unlessSet [(other.id ≠ -1, "ID")] (getPartitionsReq e.v req m.toStore)
  | .getPartitionNames dbName tblName maxParts =>
    getPartitionNames e.v dbName tblName maxParts m.toStore
  | .getPartitionsByNames dbName tblName names =>
    getPartitionsByNames e.v dbName tblName names m.toStore
  | .getPartitionsByNamesReq req =>
    unlessSet [(other.engine ≠ defaultCatalog, "Engine"), (other.id ≠ -1, "ID")]
      (getPartitionsByNamesReq e.v req m.toStore)
  | .getPartitionsByFilter dbName tblName filter maxParts =>
    getPartitionsByFilter e.v dbName tblName filter maxParts m.toStore
  | .getPartitionNamesPs dbName tblName partVals maxParts =>
    getPartitionNamesPs e.v dbName tblName partVals maxParts m.toStore
  | .getPartitionNamesPsReq req => do
    let _ ← cat e.v req.catName
    unlessSet [(other.id ≠ -1, "ID")] (getPartitionNamesPsReq e.v req m.toStore)

end Read

/-! ## Handlers that write -/

/-- The outcome of a handler, and what it leaves. -/
abbrev Answered := Except Thrown Unit × Metastore

def Metastore.recordEvent (m : Metastore) (now : Int32) (eventType : String) (db tbl : Text) :
    Metastore :=
  { m with toStore := m.toStore.recordEvent now eventType.toUTF8.data.toList db tbl }

/-- A handler of partitions on the whole store. -/
def Metastore.answer {α : Type} (m : Metastore) (handled : Handled α) : Answered :=
  (handled.1.map fun _ => (), { m with toStore := handled.2 })

section Write
variable (e : Emulation) (clock : Nat → Int32) (m : Metastore)

def createCatalog (catalog : Wire.Catalog) : Answered :=
  if (m.catalogs.lookup catalog.name).isSome then
    (.error ⟨.alreadyExists, text "catalog " ++ catalog.name ++ text " already exists"⟩, m)
  else
    let stored := if catalog.createTime.getD 0 = 0 then { catalog with createTime := some (clock 0) }
      else catalog
    (.ok (), { m with catalogs := m.catalogs.insert catalog.name stored })

def dropCatalog (name : Text) : Answered :=
  if (m.catalogs.lookup name).isNone then (.error ⟨.noSuchObject, catalogNotFound name⟩, m)
  else (.ok (), { m with catalogs := m.catalogs.erase name })

/-- A catalog in its own field wins over one in the name. -/
def createDatabase (db : Wire.Database) : Answered :=
  if db.locationUri = [] then
    (.error ⟨.metaException, text ("java.lang.IllegalArgumentException: Can not create a Path " ++
      "from an empty string")⟩, m)
  else
    match resolveDB e.v db.name with
    | .error err => (.error err, m)
    | .ok (catName, name) =>
      let catName := if db.catalogName.getD [] ≠ [] then db.catalogName.getD [] else catName
      let key := dbKey catName name
      if (m.databases.lookup key).isSome then
        (.error ⟨.alreadyExists, text "database " ++ name ++ text " already exists"⟩, m)
      else
        let stored := { db with
          name := name
          createTime := if db.createTime.getD 0 = 0 then some (clock 0) else db.createTime }
        (.ok (), { m with databases := m.databases.insert key stored }.recordEvent (clock 1)
          "CREATE_DATABASE" name [])

def alterDatabase (name : Text) (db : Wire.Database) : Answered :=
  match resolveDB e.v name with
  | .error err => (.error err, m)
  | .ok (catName, dbName) =>
    let key := dbKey catName dbName
    if (m.databases.lookup key).isNone then (.error ⟨.noSuchObject, databaseNotFound dbName⟩, m)
    else (.ok (), { m with databases := m.databases.insert key { db with name := dbName } })

/-- A database that is missing makes a server of version 3.1 fail by accident. -/
def dropDatabase (name : Text) (cascade : Bool) : Answered :=
  match resolveDB e.v name with
  | .error err => (.error err, m)
  | .ok (catName, db) =>
    let key := dbKey catName db
    if (m.databases.lookup key).isNone then
      (.error (if e.v = .hive31 then ⟨.metaException, text "java.lang.NullPointerException"⟩
        else ⟨.noSuchObject, databaseNotFound db⟩), m)
    else
      let tblKeys := tableKeysOf m catName db
      if tblKeys ≠ [] ∧ cascade = false then
        (.error ⟨.invalidOperation, text "database " ++ db ++ text " is not empty"⟩, m)
      else
        (.ok (), { m with
          tables := tblKeys.foldl (fun tables tk => tables.erase tk) m.tables
          partitions := tblKeys.foldl (fun partitions tk => partitions.erase tk) m.partitions
          databases := m.databases.erase key }.recordEvent (clock 0) "DROP_DATABASE" db [])

def createTable (tbl : Wire.Table) : Answered :=
  match cat e.v tbl.catName with
  | .error err => (.error err, m)
  | .ok catName =>
    let key := tblKey catName tbl.dbName tbl.tableName
    if (m.tables.lookup key).isSome then
      (.error ⟨.alreadyExists, text "table " ++ tbl.tableName ++ text " already exists"⟩, m)
    else
      let stored := if tbl.createTime = 0 then { tbl with createTime := clock 0 } else tbl
      (.ok (), { m with tables := m.tables.insert key stored }.recordEvent (clock 1)
        "CREATE_TABLE" tbl.dbName tbl.tableName)

/-- A table that changes its name changes its key, and only among the tables. -/
def alterTable (dbName tblName : Text) (newTbl : Wire.Table) : Answered :=
  match resolveDB e.v dbName with
  | .error err => (.error err, m)
  | .ok (catName, db) =>
    let key := tblKey catName db tblName
    if (m.tables.lookup key).isNone then (.error ⟨.metaException, tableNotFound db tblName⟩, m)
    else
      (.ok (), { m with
        tables := (m.tables.erase key).insert (tblKey catName db newTbl.tableName) newTbl
        }.recordEvent (clock 0) "ALTER_TABLE" db newTbl.tableName)

def dropTable (dbName name : Text) : Answered :=
  match resolveDB e.v dbName with
  | .error err => (.error err, m)
  | .ok (catName, db) =>
    let key := tblKey catName db name
    if (m.tables.lookup key).isNone then (.error ⟨.noSuchObject, tableNotFound db name⟩, m)
    else
      (.ok (), { m with
        tables := m.tables.erase key
        partitions := m.partitions.erase key }.recordEvent (clock 0) "DROP_TABLE" db name)

/-- A request with a field that this client never sets is refused. -/
def refuseOthers (catName : Option Text) (refused : Option Thrown) (answered : Answered) :
    Answered :=
  match cat e.v catName with
  | .error err => (.error err, m)
  | .ok _ =>
    match refused with
    | some refusal => (.error refusal, m)
    | none => answered

def handleWrite (other : OtherFields) : WriteRpc → Answered
  | .createCatalog catalog => createCatalog clock m catalog
  | .dropCatalog name => dropCatalog m name
  | .createDatabase db => createDatabase e clock m db
  | .alterDatabase name db => alterDatabase e m name db
  | .dropDatabase name _ cascade => dropDatabase e clock m name cascade
  | .createTable tbl => createTable e clock m tbl
  | .alterTable dbName tblName newTbl => alterTable e clock m dbName tblName newTbl
  | .dropTable dbName name _ => dropTable e clock m dbName name
  | .addPartitionsReq req => m.answer (addPartitionsReq e.v (fun _ => clock) req m.toStore)
  | .alterPartitions dbName tblName parts =>
    m.answer (alterPartitions e.v dbName tblName parts m.toStore)
  | .alterPartitionsReq req =>
    refuseOthers e m req.catName (firstSet [(other.writeId ≠ -1, "WriteId")])
      (m.answer (alterPartitionsReq e.v req m.toStore))
  | .dropPartition dbName tblName partVals _ =>
    m.answer (dropPartition e.v (fun _ => clock) dbName tblName partVals m.toStore)
  | .dropPartitionsReq req =>
    refuseOthers e m req.catName (other.refusedByDrop req.needResult)
      (m.answer (dropPartitionsReq e.v (fun _ => clock) req m.toStore))

end Write

/-! ## Runs -/

/-- A request as the server receives it, with the clock while it is handled. -/
structure Request where
  rpc : ReadRpc ⊕ WriteRpc
  other : OtherFields := {}
  clock : Nat → Int32 := fun _ => 1

/-- Whether a request succeeds, and what it leaves. A request that reads leaves all. -/
def Metastore.handle (e : Emulation) (m : Metastore) (request : Request) : Answered :=
  match request.rpc with
  | .inl rpc => ((handleRead e m request.other rpc).map fun _ => (), m)
  | .inr rpc => handleWrite e request.clock m request.other rpc

/-- The store after a sequence of requests. -/
def Metastore.run (e : Emulation) (m : Metastore) (requests : List Request) : Metastore :=
  requests.foldl (fun m request => (m.handle e request).2) m

/-! ## What a request can do -/

/-- The values of the partitions of a list. -/
def valuesOf (parts : List Wire.Partition) : List (List Text) := parts.map (·.values.items)

/-- What most requests that succeed do to tables and to partitions. -/
inductive Steady (m m' : Metastore) : Prop where
  | elsewhere (tables : m'.tables = m.tables) (partitions : m'.partitions = m.partitions)
  | dropped (keys : List Text) (tables : m'.tables = keys.foldl (fun ts tk => ts.erase tk) m.tables)
      (partitions : m'.partitions = keys.foldl (fun ps tk => ps.erase tk) m.partitions)
  | listed (key : Text) (parts : List Wire.Partition) (tables : m'.tables = m.tables)
      (partitions : m'.partitions = m.partitions.insert key parts)
      (attached : parts ≠ [] → m.partitionsAt key ≠ [] ∨ key ∈ m.tables)
      (distinct : (valuesOf (m.partitionsAt key)).Nodup → (valuesOf parts).Nodup)

/-- Tables come and change under names of their own, without a look at partitions. -/
structure Created (e : Emulation) (m : Metastore) (tbl : Wire.Table) (m' : Metastore) : Prop where
  resolved : ∃ catName, cat e.v tbl.catName = .ok catName ∧
    tblKey catName tbl.dbName tbl.tableName ∉ m.tables ∧
    ∃ stored, m'.tables = m.tables.insert (tblKey catName tbl.dbName tbl.tableName) stored
  partitions : m'.partitions = m.partitions

@[inherit_doc Created]
structure Altered (e : Emulation) (m : Metastore) (dbName tblName : Text) (newTbl : Wire.Table)
    (m' : Metastore) : Prop where
  resolved : ∃ catName db, resolveDB e.v dbName = .ok (catName, db) ∧
    m'.tables = (m.tables.erase (tblKey catName db tblName)).insert
      (tblKey catName db newTbl.tableName) newTbl
  partitions : m'.partitions = m.partitions

/-- What a request that succeeds does to tables and to partitions. -/
def Effect (e : Emulation) (m : Metastore) : WriteRpc → Metastore → Prop
  | .createTable tbl, m' => Created e m tbl m'
  | .alterTable dbName tblName newTbl, m' => Altered e m dbName tblName newTbl m'
  | _, m' => Steady m m'

/-- A handler that looks before it writes: where it fails, all is as it was. -/
inductive LooksFirst (m : Metastore) (effect : Metastore → Prop) : Answered → Prop where
  | failed (err : Thrown) : LooksFirst m effect (.error err, m)
  | succeeded {m' : Metastore} (done : effect m') : LooksFirst m effect (.ok (), m')

/-- The table of a request to drop partitions by name that is refused for nothing else. -/
def Metastore.dropTarget (e : Emulation) (m : Metastore) (other : OtherFields)
    (req : Wire.DropPartitionsRequest) : Option (Text × Wire.Table) :=
  match cat e.v req.catName with
  | .error _ => none
  | .ok catName =>
    if (other.refusedByDrop req.needResult).isSome then none
    else
      let key := tblKey catName req.dbName req.tblName
      (m.tables.lookup key).map fun tbl => (key, tbl)

section Effects
variable {e : Emulation} {clock : Nat → Int32} {m : Metastore}

variable {key : Text} {effect : Metastore → Prop} {parts existing : List Wire.Partition}
  {other : OtherFields} {req : Wire.DropPartitionsRequest}

theorem mem_tables_of_lookup {tbl : Wire.Table} (found : m.tables.lookup key = some tbl) :
    key ∈ m.tables :=
  AList.lookup_isSome.mp (by rw [found]; rfl)

/-- A handler with one check. -/
private theorem looksFirst_ite [Decidable check] (done : ¬ check → effect m') :
    LooksFirst m effect (if check then (.error err, m) else (.ok (), m')) := by
  split
  · exact .failed err
  · next passed => exact .succeeded (done passed)

private theorem looksFirst_refuseOthers {refused : Option Thrown}
    (looksFirst : LooksFirst m effect answered) :
    LooksFirst m effect (refuseOthers e m catName refused answered) := by
  unfold refuseOthers
  split
  · exact .failed _
  · split
    · exact .failed _
    · exact looksFirst

private theorem createDatabase_looksFirst (db : Wire.Database) :
    LooksFirst m (Steady m) (createDatabase e clock m db) := by
  rw [createDatabase]
  split
  · exact .failed _
  · split
    · exact .failed _
    · exact looksFirst_ite fun _ => .elsewhere rfl rfl

private theorem alterDatabase_looksFirst (name : Text) (db : Wire.Database) :
    LooksFirst m (Steady m) (alterDatabase e m name db) := by
  rw [alterDatabase]
  split
  · exact .failed _
  · exact looksFirst_ite fun _ => .elsewhere rfl rfl

private theorem dropDatabase_looksFirst (name : Text) (cascade : Bool) :
    LooksFirst m (Steady m) (dropDatabase e clock m name cascade) := by
  rw [dropDatabase]
  split
  · exact .failed _
  · dsimp only
    split
    · exact .failed _
    · exact looksFirst_ite fun _ => .dropped _ rfl rfl

private theorem createTable_looksFirst (tbl : Wire.Table) :
    LooksFirst m (Created e m tbl) (createTable e clock m tbl) := by
  rw [createTable]
  split
  · exact .failed _
  · next catName resolved =>
    refine looksFirst_ite fun absent => ⟨⟨catName, resolved, ?_, _, rfl⟩, rfl⟩
    rwa [AList.lookup_isSome] at absent

private theorem alterTable_looksFirst (dbName tblName : Text) (newTbl : Wire.Table) :
    LooksFirst m (Altered e m dbName tblName newTbl) (alterTable e clock m dbName tblName newTbl) := by
  rw [alterTable]
  split
  · exact .failed _
  · next catName db resolved =>
    exact looksFirst_ite fun _ => ⟨⟨catName, db, resolved, rfl⟩, rfl⟩

private theorem dropTable_looksFirst (dbName name : Text) :
    LooksFirst m (Steady m) (dropTable e clock m dbName name) := by
  rw [dropTable]
  split
  · exact .failed _
  · exact looksFirst_ite fun _ => .dropped [_] rfl rfl

/-! ### Partitions -/

theorem findPartition_eq_none {values : Slice Text} (missing : findPartition parts values = none) :
    values.items ∉ valuesOf parts := by
  intro present
  obtain ⟨p, inParts, same⟩ := List.mem_map.mp present
  have differs := List.findIdx?_eq_none_iff.mp missing p inParts
  simp [same] at differs

theorem findPartition_eq_some {values : Slice Text} {idx : Nat}
    (found : findPartition parts values = some idx) :
    (valuesOf parts)[idx]? = some values.items := by
  obtain ⟨inside, same, -⟩ := List.findIdx?_eq_some_iff_getElem.mp found
  rw [valuesOf, List.getElem?_map, List.getElem?_eq_getElem inside]
  simpa using same

/-- A partition that is added has values that none had. -/
private theorem addLoop_distinct (ran : addLoop now ifNotExists parts existing added = .ok result)
    (distinct : (valuesOf existing).Nodup) : (valuesOf result.1).Nodup := by
  induction parts generalizing existing added with
  | nil =>
    cases ran
    exact distinct
  | cons p rest ih =>
    rw [addLoop] at ran
    split at ran
    · split at ran
      · exact ih ran distinct
      · cases ran
    · next missing =>
      refine ih ran ?_
      have sameValues : ∀ stored : Wire.Partition, stored.values = p.values →
          (valuesOf (existing ++ [stored])).Nodup := by
        intro stored same
        rw [valuesOf, List.map_append, List.map_singleton, same, ← List.concat_eq_append]
        exact distinct.concat (findPartition_eq_none missing)
      split
      · exact sameValues _ rfl
      · exact sameValues _ rfl

private theorem addPartitionsReq_looksFirst (req : Wire.AddPartitionsRequest) :
    LooksFirst m (Steady m) (m.answer (addPartitionsReq e.v (fun _ => clock) req m.toStore)) := by
  rw [addPartitionsReq]
  split
  · exact .failed _
  · dsimp only
    split
    · exact .failed _
    · next found =>
      split
      · exact .failed _
      · next existing added ran =>
        have inTables := mem_tables_of_lookup found
        have distinct := addLoop_distinct ran
        cases added with
        | false => exact .succeeded (.listed _ existing rfl rfl (fun _ => .inr inTables) distinct)
        | true => exact .succeeded (.listed _ existing rfl rfl (fun _ => .inr inTables) distinct)

/-- A partition takes the place of one with its values. -/
private theorem valuesOf_set (same : (valuesOf existing)[idx]? = some np.values.items) :
    valuesOf (existing.set idx np) = valuesOf existing := by
  obtain ⟨inside, there⟩ := List.getElem?_eq_some_iff.mp same
  rw [valuesOf, List.map_set, ← there]
  exact List.set_getElem_self inside

private theorem valuesOf_foldl_set {targets : List (Nat × Wire.Partition)}
    (same : ∀ target ∈ targets, (valuesOf existing)[target.1]? = some target.2.values.items) :
    valuesOf (targets.foldl (fun existing (idx, np) => existing.set idx np) existing) =
      valuesOf existing := by
  induction targets generalizing existing with
  | nil => rfl
  | cons target rest ih =>
    have kept := valuesOf_set (same target (.head _))
    rw [List.foldl_cons, ih, kept]
    intro other inRest
    rw [kept]
    exact same other (.tail _ inRest)

private theorem mapM_zip {α β : Type} {f : α → Option β} {xs : List α} {ys : List β}
    (mapped : xs.mapM f = some ys) : ∀ pair ∈ ys.zip xs, f pair.2 = some pair.1 := by
  induction xs generalizing ys with
  | nil => simp
  | cons x rest ih =>
    rw [List.mapM_cons] at mapped
    simp only [bind, Option.bind_eq_some_iff, pure, Option.some.injEq] at mapped
    obtain ⟨y, here, zs, there, rfl⟩ := mapped
    intro pair inZip
    rcases List.mem_cons.mp inZip with rfl | inRest
    · exact here
    · exact ih there pair inRest

private theorem applyAlterPartitions_looksFirst (catName db tbl : Text)
    (parts : Slice Wire.Partition) :
    LooksFirst m (Steady m) (m.answer (applyAlterPartitions catName db tbl parts m.toStore)) := by
  rw [applyAlterPartitions]
  dsimp only
  split
  · exact .failed _
  · next found =>
    split
    · exact .failed _
    · next idxs resolved =>
      refine .succeeded (.listed _ _ rfl rfl (fun _ => .inr (mem_tables_of_lookup found)) ?_)
      rw [valuesOf_foldl_set fun target inTargets =>
        findPartition_eq_some (mapM_zip resolved target inTargets)]
      exact id

private theorem alterPartitions_looksFirst (dbName tblName : Text)
    (parts : Slice Wire.Partition) :
    LooksFirst m (Steady m) (m.answer (alterPartitions e.v dbName tblName parts m.toStore)) := by
  rw [alterPartitions]
  split
  · exact .failed _
  · exact applyAlterPartitions_looksFirst _ _ _ _

private theorem alterPartitionsReq_looksFirst (req : Wire.AlterPartitionsRequest) :
    LooksFirst m (Steady m) (m.answer (alterPartitionsReq e.v req m.toStore)) := by
  rw [alterPartitionsReq]
  split
  · exact .failed _
  · exact applyAlterPartitions_looksFirst _ _ _ _

/-- Partitions that are dropped leave the others as they were. -/
private theorem Steady.of_sublist (sublist : kept.Sublist (m.partitionsAt key))
    (tables : m'.tables = m.tables) (partitions : m'.partitions = m.partitions.insert key kept) :
    Steady m m' := by
  refine .listed key kept tables partitions (fun left => .inl fun none => left ?_)
    fun distinct => distinct.sublist (sublist.map _)
  exact List.eq_nil_of_subset_nil (none ▸ sublist.subset)

private theorem dropPartition_looksFirst (dbName tblName : Text) (partVals : Slice Text) :
    LooksFirst m (Steady m)
      (m.answer (dropPartition e.v (fun _ => clock) dbName tblName partVals m.toStore)) := by
  rw [dropPartition]
  split
  · exact .failed _
  · dsimp only
    split
    · exact .failed _
    · exact .succeeded (.of_sublist (List.eraseIdx_sublist _ _) rfl rfl)

/-- Every handler looks before it writes, but the one that drops partitions by name. -/
theorem handleWrite_looksFirst (other : OtherFields) {rpc : WriteRpc}
    (unnamed : ∀ req, rpc ≠ .dropPartitionsReq req) :
    LooksFirst m (Effect e m rpc) (handleWrite e clock m other rpc) := by
  cases rpc with
  | createCatalog catalog => exact looksFirst_ite fun _ => .elsewhere rfl rfl
  | dropCatalog name => exact looksFirst_ite fun _ => .elsewhere rfl rfl
  | createDatabase db => exact createDatabase_looksFirst db
  | alterDatabase name db => exact alterDatabase_looksFirst name db
  | dropDatabase name deleteData cascade => exact dropDatabase_looksFirst name cascade
  | createTable tbl => exact createTable_looksFirst tbl
  | alterTable dbName tblName newTbl => exact alterTable_looksFirst dbName tblName newTbl
  | dropTable dbName name deleteData => exact dropTable_looksFirst dbName name
  | addPartitionsReq req => exact addPartitionsReq_looksFirst req
  | alterPartitions dbName tblName parts => exact alterPartitions_looksFirst dbName tblName parts
  | alterPartitionsReq req => exact looksFirst_refuseOthers (alterPartitionsReq_looksFirst req)
  | dropPartition dbName tblName partVals deleteData =>
    exact dropPartition_looksFirst dbName tblName partVals
  | dropPartitionsReq req => exact absurd rfl (unnamed req)

private theorem dropLoop_sublist (tbl : Wire.Table) (names : List Text)
    (existing : BackingArray Wire.Partition) :
    (dropLoop tbl names existing).2.view.Sublist existing.view := by
  induction names generalizing existing with
  | nil => exact .refl _
  | cons name rest ih =>
    rw [dropLoop]
    split
    · next inside =>
      refine (ih _).trans ?_
      rw [BackingArray.view_removeAt]
      exact List.eraseIdx_sublist _ _
    · exact .refl _

private theorem needResult_of_taken (taken : other.refusedByDrop needResult = none) :
    needResult = false := by
  rw [OtherFields.refusedByDrop, firstSet, Option.map_eq_none_iff] at taken
  have unset := List.find?_eq_none.mp taken (needResult, "NeedResult_") (by simp)
  simpa using unset

theorem dropPartitionsReq_refused (refused : m.dropTarget e other req = none) :
    ∃ err, handleWrite e clock m other (.dropPartitionsReq req) = (.error err, m) := by
  rw [Metastore.dropTarget] at refused
  rw [handleWrite]
  unfold refuseOthers
  cases named : cat e.v req.catName with
  | error err => exact ⟨err, rfl⟩
  | ok catName =>
    simp only [named] at refused
    cases taken : other.refusedByDrop req.needResult with
    | some refusal => exact ⟨refusal, rfl⟩
    | none =>
      have noResult : req.needResult = false := needResult_of_taken taken
      rw [taken, if_neg (by simp), Option.map_eq_none_iff] at refused
      simp only [dropPartitionsReq, named, noResult, Store.tableAt, refused]
      exact ⟨_, rfl⟩

theorem dropPartitionsReq_dropping {tbl : Wire.Table}
    (target : m.dropTarget e other req = some (key, tbl)) :
    handleWrite e clock m other (.dropPartitionsReq req) =
      let looped := dropLoop tbl req.names.items (.whole (m.partitionsAt key))
      if looped.1 then
        (.ok (), { m with toStore := m.toStore.setPartitions key looped.2.view }.recordEvent
          (clock 0) "DROP_PARTITION" req.dbName req.tblName)
      else
        (.error partitionsMissing,
          { m with toStore := m.toStore.setPartitions key looped.2.array }) := by
  unfold Metastore.dropTarget at target
  cases named : cat e.v req.catName with
  | error err =>
    simp only [named] at target
    cases target
  | ok catName =>
    simp only [named] at target
    cases taken : other.refusedByDrop req.needResult with
    | some refusal =>
      rw [taken, if_pos (by rfl)] at target
      cases target
    | none =>
      rw [taken, if_neg (by simp)] at target
      obtain ⟨tbl', found, same⟩ := Option.map_eq_some_iff.mp target
      cases same
      have noResult : req.needResult = false := needResult_of_taken taken
      rw [handleWrite]
      simp only [refuseOthers, named, taken]
      simp only [dropPartitionsReq, named, noResult, Store.tableAt, found, Bool.false_eq_true,
        if_false]
      split
      · rfl
      · rfl

private theorem dropPartitionsReq_steady
    (succeeds : (handleWrite e clock m other (.dropPartitionsReq req)).1 = .ok ()) :
    Steady m (handleWrite e clock m other (.dropPartitionsReq req)).2 := by
  cases target : m.dropTarget e other req with
  | none =>
    obtain ⟨err, fails⟩ : ∃ err, handleWrite e clock m other (.dropPartitionsReq req) =
      (.error err, m) := dropPartitionsReq_refused target
    rw [fails] at succeeds
    cases succeeds
  | some found =>
    obtain ⟨key, tbl⟩ := found
    have kept := dropLoop_sublist tbl req.names.items (.whole (m.partitionsAt key))
    rw [BackingArray.view_whole] at kept
    rw [dropPartitionsReq_dropping target] at succeeds ⊢
    dsimp only at succeeds ⊢
    split at succeeds
    · next all =>
      rw [if_pos all]
      exact .of_sublist kept rfl rfl
    · cases succeeds

private theorem LooksFirst.done (looksFirst : LooksFirst m effect answered)
    (succeeds : answered.1 = .ok ()) : effect answered.2 := by
  cases looksFirst with
  | failed err => cases succeeds
  | succeeded done => exact done

/-- What a request that succeeds does. -/
theorem handleWrite_effect {rpc : WriteRpc}
    (succeeds : (handleWrite e clock m other rpc).1 = .ok ()) :
    Effect e m rpc (handleWrite e clock m other rpc).2 := by
  by_cases byName : ∃ req, rpc = .dropPartitionsReq req
  · obtain ⟨req, rfl⟩ := byName
    exact dropPartitionsReq_steady succeeds
  · have unnamed : ∀ req, rpc ≠ .dropPartitionsReq req := fun req same => byName ⟨req, same⟩
    exact (handleWrite_looksFirst other unnamed).done succeeds

end Effects

/-! ## A small run -/

/-- A server that matches no pattern. -/
def withoutPatterns (v : Version) : Emulation := ⟨v, fun _ _ => false⟩

/-- The table "hive.d.t", partitioned by "k". -/
def tableT : Wire.Table := { keyed with dbName := [100], tableName := [116] }

/-- It is created and gets the partitions "k=a" and "k=b". -/
def twoPartitions : List Request :=
  [{ rpc := .inr (.createTable tableT) },
    { rpc := .inr (.addPartitionsReq
        { dbName := [100], tblName := [116], parts := some [lettered 97, lettered 98],
          ifNotExists := false, needResult := false, catName := none }) }]

end HmsClient.Hmstest
