import HmsClient.Requests
import HmsClient.ColumnIntern

/-! The client's operations, as the closures they hand to `call` and `read`. A closure
runs on one connection, whose catalog support and legacy methods it caches, and
assigns the variables it captures, which outlive an attempt that fails. -/
namespace HmsClient
open PeerScript

/-- The options that operations read, with sizes below 1 raised to 1 as `New` does.
`toLower` is `strings.ToLower`. -/
structure Config where
  catalog : Text
  chunkSize : Nat
  partitionBatchSize : Nat
  toLower : Text → Text
  chunkSize_pos : 0 < chunkSize
  partitionBatchSize_pos : 0 < partitionBatchSize

inductive CatalogSupport where
  | unknown
  | yes
  | no
deriving DecidableEq

/-- What a closure reads and writes besides RPCs: the connection's caches, the client's
`warehouseRoots`, and the captured variables. -/
structure Session (κ : Type) where
  catalogs : CatalogSupport
  fallback : List String
  warehouseRoots : List (Text × Text)
  captured : κ
deriving DecidableEq

/-- `func(ctx, cn) error` for `α = Unit`, and what such a function calls. -/
abbrev Closure (κ α : Type) := Dialogue metastore (Session κ) α

variable {κ : Type}

def rpc (call : Call) : Closure κ call.Reply := Dialogue.request (L := metastore) call

def capture (out : κ) : Closure κ Unit := Dialogue.modify fun s => { s with captured := out }

/-- `names, err = f()`, which assigns nil when `f` fails. -/
def assign (f : Closure (Slice α) (Slice α)) : Closure (Slice α) Unit := do
  match ← f.result with
  | .ok names => capture names
  | .error err => do
    capture none
    Dialogue.fail err

/-! ## The connection's caches -/

def markLegacy (method : String) : Closure κ Unit :=
  Dialogue.modify fun s => { s with fallback := method :: s.fallback }

def storeCatalogs (support : CatalogSupport) : Closure κ Unit :=
  Dialogue.modify fun s => { s with catalogs := support }

/-- The request form of a method, or its legacy form on a server that lacks it. -/
def tryReq (method : String) (req legacy : Closure κ Unit) : Closure κ Unit := do
  if method ∈ (← Dialogue.get).fallback then
    legacy
  else
    match ← req.result with
    | .ok _ => pure ()
    | .error err =>
      if isUnknownMethod err then do
        markLegacy method
        legacy
      else Dialogue.fail err

def supportsCatalogs : Closure κ Bool := do
  match (← Dialogue.get).catalogs with
  | .yes => pure true
  | .no => pure false
  | .unknown =>
    match ← (rpc .getCatalogs).result with
    | .ok _ => do
      storeCatalogs .yes
      pure true
    | .error err =>
      if isUnknownMethod err then do
        storeCatalogs .no
        pure false
      else Dialogue.fail err

/-! ## Catalogs -/

/-- The sentinel `ErrNotSupported`, returned as it is. -/
def errNotSupported : Err := .leaf (.sentinel .errNotSupported)

/-- The catalog options of a call, each of which names a catalog; the last one counts. -/
abbrev CatalogOptions := List Text

/-- The catalog a call is about: its option's, the struct's, the client's or "hive". -/
def effectiveCatalog (cfg : Config) (structCat : Text) (opts : CatalogOptions) : Text :=
  let effective := cfg.catalog
  let effective := if structCat ≠ [] then structCat else effective
  let option := opts.getLast?.getD []
  let effective := if option ≠ [] then option else effective
  if effective = [] then defaultCatalog else effective

def resolveCatFor (cfg : Config) (structCat : Text) (opts : CatalogOptions) :
    Closure κ (Option Text) := do
  let effective := effectiveCatalog cfg structCat opts
  let support ← supportsCatalogs
  if effective = defaultCatalog then
    pure (if support then some defaultCatalog else none)
  else if support then
    pure (some effective)
  else Dialogue.fail errNotSupported

def resolveCat (cfg : Config) (opts : CatalogOptions) : Closure κ (Option Text) :=
  resolveCatFor cfg [] opts

/-- A name in another catalog is `@catalog#name`. -/
def qualifyDBName (cat : Option Text) (name : Text) : Text :=
  match cat with
  | none => name
  | some cat => if cat ≠ defaultCatalog then 64 :: cat ++ 35 :: name else name

/-! ## Server -/

def getConfigValue (name defaultValue : Text) : Closure Text Unit := do
  let v ← rpc (.getConfigValue name defaultValue)
  capture v

structure HiveVersion where
  major : Int
  minor : Int
  patch : Int
  raw : Text
deriving DecidableEq

/-- The value of a string of digits. -/
def digits (s : Text) : Option Int :=
  if s = [] then none
  else s.foldlM (fun n c => if 48 ≤ c && c ≤ 57 then some (n * 10 + (c.toNat - 48)) else none) (0 : Int)

/-- `strconv.Atoi`. -/
def atoi (s : Text) : Option Int := do
  let n ← match s with
    | 45 :: rest => (digits rest).map (- ·)
    | 43 :: rest => digits rest
    | rest => digits rest
  if -9223372036854775808 ≤ n && n ≤ 9223372036854775807 then some n else none

def parseHiveVersion (s : Text) : Option HiveVersion :=
  let parts := (s.takeWhile (· ≠ 45)).splitOn 46
  match (parts.take 3).mapM atoi with
  | some [major, minor] => some ⟨major, minor, 0, s⟩
  | some [major, minor, patch] => some ⟨major, minor, patch, s⟩
  | _ => none

/-- The variables `v`, `catalogs` and `haveCatalogs` of `ServerVersion`. -/
structure VersionVars where
  v : Text
  catalogs : Bool
  haveCatalogs : Bool
deriving DecidableEq

/-- A server that reports a version before 4 is also asked for its catalogs. -/
def serverVersion : Closure VersionVars Unit := do
  let v ← rpc .getVersion
  Dialogue.modify fun s => { s with captured := { s.captured with v := v } }
  match parseHiveVersion v with
  | some hv =>
    if hv.major < 4 then do
      let ok ← supportsCatalogs
      Dialogue.modify fun s =>
        { s with captured := { s.captured with catalogs := ok, haveCatalogs := true } }
    else pure ()
  | none => pure ()

/-! ## Catalog operations -/

def getCatalogs : Closure (Slice Text) Unit := do
  match ← (rpc .getCatalogs).result with
  | .ok names => do
    storeCatalogs .yes
    capture names
  | .error err => do
    if isUnknownMethod err then storeCatalogs .no
    Dialogue.fail err

def getCatalog (name : Text) : Closure (Option Catalog) Unit := do
  let catalog ← rpc (.getCatalog name)
  capture (catalog.map catalogFromThrift)

def createCatalog (cat : Option Catalog) : Closure Unit Unit :=
  rpc (.createCatalog (cat.map catalogToThrift))

/-- A drop that is content when there is nothing to drop. -/
def ifPresent (ifExists : Bool) (drop : Closure Unit Unit) : Closure Unit Unit := do
  match ← drop.result with
  | .ok _ => pure ()
  | .error err => if ifExists && classify err = .errNotFound then pure () else Dialogue.fail err

def dropCatalog (name : Text) (ifExists : Bool) : Closure Unit Unit :=
  ifPresent ifExists (rpc (.dropCatalog name))

/-! ## Database operations -/

def getAllDatabases (cfg : Config) (opts : CatalogOptions) : Closure (Slice Text) Unit := do
  let cat ← resolveCat cfg opts
  let list ← match cat with
    | some name =>
      if name ≠ defaultCatalog then rpc (.getDatabases (qualifyDBName cat [42]))
      else rpc .getAllDatabases
    | none => rpc .getAllDatabases
  capture list

def getDatabase (cfg : Config) (name : Text) (opts : CatalogOptions) :
    Closure (Option Database) Unit := do
  let cat ← resolveCat cfg opts
  let d ← rpc (.getDatabase (qualifyDBName cat name))
  capture (some (databaseFromThrift d cat))

/-- `strings.TrimRight` of slashes. -/
def trimSlashes (s : Text) : Text := (s.reverse.dropWhile (· = 47)).reverse

/-- The configuration key "hive.metastore.warehouse.dir". -/
def warehouseDirKey : Text :=
  [104, 105, 118, 101, 46, 109, 101, 116, 97, 115, 116, 111, 114, 101, 46, 119, 97, 114, 101,
    104, 111, 117, 115, 101, 46, 100, 105, 114]

/-- The root is looked up once for each catalog, unless it is unknown. -/
def warehouseRoot (cat : Option Text) : Closure κ Text := do
  let key := cat.getD []
  match (← Dialogue.get).warehouseRoots.lookup key with
  | some root => pure root
  | none =>
    let base ← match cat with
      | some name => do
        let catalog ← rpc (.getCatalog name)
        pure ((catalog.map Wire.Catalog.locationUri).getD [])
      | none => rpc (.getConfigValue warehouseDirKey [])
    let base := trimSlashes base
    if base ≠ [] then
      Dialogue.modify fun s => { s with warehouseRoots := (key, base) :: s.warehouseRoots }
    pure base

def createDatabase (cfg : Config) (db : Database) : Closure Unit Unit := do
  let cat ← resolveCatFor cfg db.catalogName []
  if db.locationURI = [] then
    let base ← warehouseRoot cat
    if base = [] then
      Dialogue.fail (wrapAs "create_database" .errInvalidOperation (.leaf
        (.other "hms: LocationURI is empty and the metastore warehouse dir is unknown")))
    else
      let toCreate := { db with locationURI := base ++ 47 :: cfg.toLower db.name ++ [46, 100, 98] }
      rpc (.createDatabase (databaseToThrift toCreate cat))
  else
    rpc (.createDatabase (databaseToThrift db cat))

def alterDatabase (cfg : Config) (name : Text) (db : Database) (opts : CatalogOptions) :
    Closure Unit Unit := do
  let cat ← resolveCatFor cfg db.catalogName opts
  rpc (.alterDatabase (qualifyDBName cat name) (databaseToThriftFrom db cat))

/-- A server may report a missing database as another error, so unless the answer says
already that it is missing, or could not be read, the database is asked for. -/
def dropError (qname : Text) (err : Err) : Closure κ Err := do
  if classify err ≠ .errNotFound && !isProtocolError err then
    match ← (rpc (.getDatabase qname)).result with
    | .error gerr => pure (if classify gerr = .errNotFound then gerr else err)
    | .ok _ => pure err
  else pure err

def dropDatabase (cfg : Config) (name : Text) (deleteData cascade ifExists : Bool)
    (opts : CatalogOptions) : Closure Unit Unit := do
  let cat ← resolveCat cfg opts
  let qname := qualifyDBName cat name
  match ← (rpc (.dropDatabase qname deleteData cascade)).result with
  | .ok _ => pure ()
  | .error err => do
    let err ← dropError qname err
    if ifExists && classify err = .errNotFound then pure () else Dialogue.fail err

/-! ## Table operations -/

def getAllTables (cfg : Config) (dbName : Text) (opts : CatalogOptions) :
    Closure (Slice Text) Unit := do
  let cat ← resolveCat cfg opts
  let list ← rpc (.getAllTables (qualifyDBName cat dbName))
  capture list

def getTable (cfg : Config) (dbName tableName : Text) (opts : CatalogOptions) :
    Closure (Option Table) Unit := do
  let cat ← resolveCat cfg opts
  let table ← rpc (.getTableReq ⟨dbName, tableName, cat⟩)
  capture (some (tableFromThrift table))

/-- The loop that cuts a list into consecutive slices of `size` elements, the last one
maybe shorter. -/
def batches (size : Nat) : (fuel : Nat) → List α → List (List α)
  | 0, _ => []
  | _, [] => []
  | fuel + 1, xs => xs.take size :: batches size fuel (xs.drop size)

def getTables (cfg : Config) (dbName : Text) (tableNames : List Text) (opts : CatalogOptions) :
    Closure (List Table) Unit := do
  let cat ← resolveCat cfg opts
  let (tables, _) ← (batches cfg.chunkSize tableNames.length tableNames).foldlM
    (fun (tables, cache) chunk => do
      let res ← rpc (.getTableObjectsByNameReq ⟨dbName, some chunk, cat⟩)
      let (more, cache) := Interner.thread tableFromThriftIntern (Slice.items res) cache
      pure (tables ++ more.map (·.value), cache))
    (([], []) : List Table × ColumnIntern)
  capture tables

/-- The first read of `GetTablesSeq`. -/
def getTablesSeqNames (cfg : Config) (dbName : Text) (opts : CatalogOptions) :
    Closure (Slice Text) Unit := do
  let cat ← resolveCat cfg opts
  assign (rpc (.getAllTables (qualifyDBName cat dbName)))

/-- The read of one chunk of `GetTablesSeq`. -/
def getTablesSeqChunk (cfg : Config) (dbName : Text) (chunk : List Text) (opts : CatalogOptions) :
    Closure (Slice Wire.Table) Unit := do
  let cat ← resolveCat cfg opts
  let tables ← rpc (.getTableObjectsByNameReq ⟨dbName, some chunk, cat⟩)
  capture tables

def createTable (cfg : Config) (table : Table) : Closure Unit Unit := do
  let cat ← resolveCatFor cfg table.catalogName []
  rpc (.createTable (tableToThrift table cat))

def alterTable (cfg : Config) (dbName tableName : Text) (newTable : Table)
    (opts : CatalogOptions) : Closure Unit Unit := do
  let cat ← resolveCatFor cfg newTable.catalogName opts
  rpc (.alterTable (qualifyDBName cat dbName) tableName (tableToThriftFrom newTable cat))

def dropTable (cfg : Config) (dbName tableName : Text) (deleteData ifExists : Bool)
    (opts : CatalogOptions) : Closure Unit Unit := do
  let cat ← resolveCat cfg opts
  ifPresent ifExists (rpc (.dropTable (qualifyDBName cat dbName) tableName deleteData))

/-! ## Partition operations -/

/-- `partitionsFromThrift`: an interner for this one list. -/
def partitionsFromThrift (ps : Slice Wire.Partition) : List Partition :=
  (partitionsFromThriftIntern ps.items []).1.map (·.value)

def getPartitions (cfg : Config) (dbName tableName : Text) (mp : Int16) (opts : CatalogOptions) :
    Closure (List Partition) Unit := do
  let cat ← resolveCat cfg opts
  tryReq "get_partitions_req"
    (do
      let parts ← rpc (.getPartitionsReq ⟨cat, dbName, tableName, mp⟩)
      capture (partitionsFromThrift parts))
    (do
      let parts ← rpc (.getPartitions (qualifyDBName cat dbName) tableName mp)
      capture (partitionsFromThrift parts))

def getPartitionNames (cfg : Config) (dbName tableName : Text) (mp : Int16)
    (opts : CatalogOptions) : Closure (Slice Text) Unit := do
  let cat ← resolveCat cfg opts
  let names ← rpc (.getPartitionNames (qualifyDBName cat dbName) tableName mp)
  capture names

/-- The first read of `GetPartitionsSeq`. -/
def getPartitionsSeqNames (cfg : Config) (dbName tableName : Text) (opts : CatalogOptions) :
    Closure (Slice Text) Unit := do
  let cat ← resolveCat cfg opts
  assign (rpc (.getPartitionNames (qualifyDBName cat dbName) tableName (-1)))

/-- The database name is qualified, since the request has no catalog. -/
def newGetPartitionsByNamesRequest (dbName tableName : Text) (cat : Option Text)
    (names : List Text) : Wire.GetPartitionsByNamesRequest :=
  ⟨qualifyDBName cat dbName, tableName, some names⟩

/-- The read of one chunk of `GetPartitionsSeq`. -/
def getPartitionsSeqChunk (cfg : Config) (dbName tableName : Text) (chunk : List Text)
    (opts : CatalogOptions) : Closure (Slice Wire.Partition) Unit := do
  let cat ← resolveCat cfg opts
  tryReq "get_partitions_by_names_req"
    (do
      let parts ← rpc (.getPartitionsByNamesReq
        (newGetPartitionsByNamesRequest dbName tableName cat chunk))
      capture parts)
    (do
      let parts ← rpc (.getPartitionsByNames (qualifyDBName cat dbName) tableName (some chunk))
      capture parts)

def addPartitions (cfg : Config) (dbName tableName : Text) (partitions : List Partition)
    (ifNotExists : Bool) (opts : CatalogOptions) : Closure Unit Unit := do
  let cat ← resolveCat cfg opts
  (batches cfg.partitionBatchSize partitions.length partitions).forM fun chunk =>
    rpc (.addPartitionsReq
      { dbName := dbName
        tblName := tableName
        parts := partitionsToThrift (some chunk) cat dbName tableName
        ifNotExists := ifNotExists
        needResult := false
        catName := cat })

def alterPartitions (cfg : Config) (dbName tableName : Text) (partitions : List Partition)
    (opts : CatalogOptions) : Closure Unit Unit := do
  let cat ← resolveCat cfg opts
  (batches cfg.partitionBatchSize partitions.length partitions).forM fun chunk =>
    tryReq "alter_partitions_req"
      (rpc (.alterPartitionsReq
        ⟨cat, dbName, tableName, partitionsToThriftFrom (some chunk) cat dbName tableName⟩))
      (rpc (.alterPartitions (qualifyDBName cat dbName) tableName
        (partitionsToThriftFrom (some chunk) cat dbName tableName)))

/-- The variables of `GetPartitionsByNames`: `out`, and `parts` and the interner, which
each attempt starts afresh. -/
structure PartsVars where
  out : List Partition
  parts : List Partition
  cache : ColumnIntern

def appendParts (ps : Slice Wire.Partition) : Closure PartsVars Unit :=
  Dialogue.modify fun s =>
    let (more, cache) := partitionsFromThriftIntern ps.items s.captured.cache
    { s with captured :=
      { s.captured with parts := s.captured.parts ++ more.map (·.value), cache := cache } }

def getPartitionsByNames (cfg : Config) (dbName tableName : Text) (names : List Text)
    (opts : CatalogOptions) : Closure PartsVars Unit := do
  let cat ← resolveCat cfg opts
  Dialogue.modify fun s => { s with captured := { s.captured with parts := [], cache := [] } }
  (batches cfg.chunkSize names.length names).forM fun chunk =>
    tryReq "get_partitions_by_names_req"
      (do
        let parts ← rpc (.getPartitionsByNamesReq
          (newGetPartitionsByNamesRequest dbName tableName cat chunk))
        appendParts parts)
      (do
        let parts ← rpc (.getPartitionsByNames (qualifyDBName cat dbName) tableName (some chunk))
        appendParts parts)
  Dialogue.modify fun s => { s with captured := { s.captured with out := s.captured.parts } }

def getPartitionsByFilter (cfg : Config) (dbName tableName filter : Text) (mp : Int16)
    (opts : CatalogOptions) : Closure (List Partition) Unit := do
  let cat ← resolveCat cfg opts
  let parts ← rpc (.getPartitionsByFilter (qualifyDBName cat dbName) tableName filter mp)
  capture (partitionsFromThrift parts)

def getPartitionNamesByValues (cfg : Config) (dbName tableName : Text)
    (partialValues : Slice Text) (mp : Int16) (opts : CatalogOptions) :
    Closure (Slice Text) Unit := do
  let cat ← resolveCat cfg opts
  tryReq "get_partition_names_ps_req"
    (do
      let names ← rpc (.getPartitionNamesPsReq ⟨cat, dbName, tableName, partialValues, mp⟩)
      capture names)
    (do
      let names ← rpc (.getPartitionNamesPs (qualifyDBName cat dbName) tableName partialValues mp)
      capture names)

def dropPartition (cfg : Config) (dbName tableName : Text) (partVals : Slice Text)
    (deleteData ifExists : Bool) (opts : CatalogOptions) : Closure Unit Unit := do
  let cat ← resolveCat cfg opts
  ifPresent ifExists do
    let _ ← rpc (.dropPartition (qualifyDBName cat dbName) tableName partVals deleteData)

def dropPartitionsByNames (cfg : Config) (dbName tableName : Text) (names : List Text)
    (deleteData ifExists : Bool) (opts : CatalogOptions) : Closure Unit Unit := do
  let cat ← resolveCat cfg opts
  (batches cfg.partitionBatchSize names.length names).forM fun chunk =>
    ifPresent ifExists (rpc (.dropPartitionsReq
      { dbName := dbName
        tblName := tableName
        names := some chunk
        deleteData := some deleteData
        ifExists := ifExists
        needResult := false
        catName := cat }))

/-! ## Notifications -/

structure NotificationEvent where
  id : Int64
  time : Time
  type : Text
  catalogName : Text
  databaseName : Text
  tableName : Text
  message : Text
  messageFormat : Text
deriving DecidableEq

def notificationFromThrift (e : Wire.NotificationEvent) : NotificationEvent :=
  { id := e.eventId
    time := ⟨e.eventTime.toInt, 0⟩
    type := e.eventType
    databaseName := deref e.dbName
    tableName := deref e.tableName
    message := e.message
    messageFormat := deref e.messageFormat
    catalogName := e.catName.getD defaultCatalog }

/-- A limit above the int32 range is clamped; no limit and no types are left out. -/
def newNotificationEventRequest (lastEventID : Int64) (max : Int) (eventTypes : List Text) :
    Wire.NotificationEventRequest :=
  { lastEvent := lastEventID
    maxEvents := if max > 0 then some (.ofInt (if max > maxInt32 then maxInt32 else max)) else none
    eventTypeList := if eventTypes = [] then none else some eventTypes }

def currentNotificationID : Closure Int64 Unit := do
  let id ← rpc .getCurrentNotificationEventId
  capture id

/-- The event types are asked for and, as a server may not know of them, also kept apart
in the response. -/
def getNextNotifications (lastEventID : Int64) (max : Int) (eventTypes : List Text) :
    Closure (List NotificationEvent) Unit := do
  let events ← rpc (.getNextNotification (newNotificationEventRequest lastEventID max eventTypes))
  capture (((Slice.items events).map notificationFromThrift).filter fun ev =>
    eventTypes = [] || eventTypes.contains ev.type)

/-! ## Statistics -/

/-- The engine "hive" unless the caller names another. -/
def newTableStatsRequest (dbName tblName : Text) (cat : Option Text) (columns : List Text)
    (engine : Text) : Wire.TableStatsRequest :=
  ⟨dbName, tblName, some columns, cat, if engine ≠ [] then engine else [104, 105, 118, 101]⟩

def getTableColumnStatistics (cfg : Config) (db tbl : Text) (columns : List Text) (engine : Text)
    (opts : CatalogOptions) : Closure (Slice ColumnStatistics) Unit := do
  let cat ← resolveCat cfg opts
  let stats ← rpc (.getTableStatisticsReq (newTableStatsRequest db tbl cat columns engine))
  capture (columnStatisticsListFromThrift stats)

/-! ## Transactions and locks -/

/-- The agent "hms-client-go". -/
def agentInfo : Text := [104, 109, 115, 45, 99, 108, 105, 101, 110, 116, 45, 103, 111]

def openTransaction (user host : Text) : Closure Int64 Unit := do
  let ids ← rpc (.openTxns ⟨1, user, host, agentInfo⟩)
  match Slice.items ids with
  | [] => Dialogue.fail (.leaf (.other "hms: open_txns returned no transaction ids"))
  | id :: _ => capture id

def commitTransaction (txnID : Int64) : Closure Unit Unit := rpc (.commitTxn txnID)

def abortTransaction (txnID : Int64) : Closure Unit Unit := rpc (.abortTxn txnID)

def heartbeat (txnID lockID : Int64) : Closure Unit Unit :=
  rpc (.heartbeat
    { txnid := if txnID ≠ 0 then some txnID else none
      lockid := if lockID ≠ 0 then some lockID else none })

structure LockComponent where
  type : Int
  level : Int
  database : Text
  table : Text
  partition : Text

structure LockRequest where
  components : List LockComponent
  txnID : Int64
  user : Text
  host : Text

structure LockResponse where
  lockID : Int64
  state : Int
  errorMessage : Text

/-- SELECT for a shared read, INSERT for a shared write, UPDATE for an exclusive write,
and NO_TXN for the rest. -/
def lockOperationType (t : Int) : Int :=
  if t = 1 then 1 else if t = 2 then 2 else if t = 4 then 3 else 6

def newLockComponent (lc : LockComponent) : Wire.LockComponent :=
  { type := lc.type
    level := lc.level
    dbname := lc.database
    operationType := lockOperationType lc.type
    tablename := if lc.table ≠ [] then some lc.table else none
    partitionname := if lc.partition ≠ [] then some lc.partition else none }

/-- "Unknown", the `AgentInfo` of a fresh `NewLockRequest`. -/
def unknownAgent : Text := [85, 110, 107, 110, 111, 119, 110]

def newLockRequest (req : LockRequest) : Wire.LockRequest :=
  { component := req.components.map newLockComponent
    txnid := if req.txnID > 0 then some req.txnID else none
    user := req.user
    hostname := req.host
    agentInfo := unknownAgent }

def lockStateFromThrift (s : Int64) : Int := max minInt32 (min s.toInt maxInt32)

def lockResponseFromThrift (r : Wire.LockResponse) : LockResponse :=
  { lockID := r.lockid, state := lockStateFromThrift r.state, errorMessage := deref r.errorMessage }

def lock (req : LockRequest) : Closure LockResponse Unit := do
  let resp ← rpc (.lock (newLockRequest req))
  capture (lockResponseFromThrift resp)

def checkLock (lockID : Int64) : Closure LockResponse Unit := do
  let resp ← rpc (.checkLock lockID)
  capture (lockResponseFromThrift resp)

def unlock (lockID : Int64) : Closure Unit Unit := rpc (.unlock lockID)

/-! ## All of them -/

/-- The closures of the client's methods. `DropPartitions` runs those of `GetTable` and
`DropPartitionsByNames`, and `ServerVersion` may go on to `GetConfigValue`. -/
inductive Operation where
  | getConfigValue (name defaultValue : Text)
  | serverVersion
  | getCatalogs
  | getCatalog (name : Text)
  | createCatalog (cat : Option Catalog)
  | dropCatalog (name : Text) (ifExists : Bool)
  | getAllDatabases (opts : CatalogOptions)
  | getDatabase (name : Text) (opts : CatalogOptions)
  | createDatabase (db : Database)
  | alterDatabase (name : Text) (db : Database) (opts : CatalogOptions)
  | dropDatabase (name : Text) (deleteData cascade ifExists : Bool) (opts : CatalogOptions)
  | getAllTables (dbName : Text) (opts : CatalogOptions)
  | getTable (dbName tableName : Text) (opts : CatalogOptions)
  | getTables (dbName : Text) (tableNames : List Text) (opts : CatalogOptions)
  | getTablesSeqNames (dbName : Text) (opts : CatalogOptions)
  | getTablesSeqChunk (dbName : Text) (chunk : List Text) (opts : CatalogOptions)
  | createTable (table : Table)
  | alterTable (dbName tableName : Text) (newTable : Table) (opts : CatalogOptions)
  | dropTable (dbName tableName : Text) (deleteData ifExists : Bool) (opts : CatalogOptions)
  | getPartitions (dbName tableName : Text) (mp : Int16) (opts : CatalogOptions)
  | getPartitionNames (dbName tableName : Text) (mp : Int16) (opts : CatalogOptions)
  | getPartitionsSeqNames (dbName tableName : Text) (opts : CatalogOptions)
  | getPartitionsSeqChunk (dbName tableName : Text) (chunk : List Text) (opts : CatalogOptions)
  | addPartitions (dbName tableName : Text) (partitions : List Partition) (ifNotExists : Bool)
      (opts : CatalogOptions)
  | alterPartitions (dbName tableName : Text) (partitions : List Partition) (opts : CatalogOptions)
  | getPartitionsByNames (dbName tableName : Text) (names : List Text) (opts : CatalogOptions)
  | getPartitionsByFilter (dbName tableName filter : Text) (mp : Int16) (opts : CatalogOptions)
  | getPartitionNamesByValues (dbName tableName : Text) (partialValues : Slice Text) (mp : Int16)
      (opts : CatalogOptions)
  | dropPartition (dbName tableName : Text) (partVals : Slice Text) (deleteData ifExists : Bool)
      (opts : CatalogOptions)
  | dropPartitionsByNames (dbName tableName : Text) (names : List Text)
      (deleteData ifExists : Bool) (opts : CatalogOptions)
  | currentNotificationID
  | getNextNotifications (lastEventID : Int64) (max : Int) (eventTypes : List Text)
  | getTableColumnStatistics (db tbl : Text) (columns : List Text) (engine : Text)
      (opts : CatalogOptions)
  | openTransaction (user host : Text)
  | commitTransaction (txnID : Int64)
  | abortTransaction (txnID : Int64)
  | heartbeat (txnID lockID : Int64)
  | lock (req : LockRequest)
  | checkLock (lockID : Int64)
  | unlock (lockID : Int64)

/-- The variables an operation's closure captures. -/
abbrev Operation.Captured : Operation → Type
  | .getConfigValue .. => Text
  | .serverVersion => VersionVars
  | .getCatalogs | .getAllDatabases .. | .getAllTables .. | .getTablesSeqNames .. => Slice Text
  | .getPartitionNames .. | .getPartitionsSeqNames .. | .getPartitionNamesByValues .. => Slice Text
  | .getCatalog .. => Option Catalog
  | .getDatabase .. => Option Database
  | .getTable .. => Option Table
  | .getTables .. => List Table
  | .getTablesSeqChunk .. => Slice Wire.Table
  | .getPartitions .. | .getPartitionsByFilter .. => List Partition
  | .getPartitionsSeqChunk .. => Slice Wire.Partition
  | .getPartitionsByNames .. => PartsVars
  | .currentNotificationID | .openTransaction .. => Int64
  | .getNextNotifications .. => List NotificationEvent
  | .getTableColumnStatistics .. => Slice ColumnStatistics
  | .lock .. | .checkLock .. => LockResponse
  | _ => Unit

def Operation.closure (cfg : Config) : (op : Operation) → Closure op.Captured Unit
  | .getConfigValue name defaultValue => HmsClient.getConfigValue name defaultValue
  | .serverVersion => HmsClient.serverVersion
  | .getCatalogs => HmsClient.getCatalogs
  | .getCatalog name => HmsClient.getCatalog name
  | .createCatalog cat => HmsClient.createCatalog cat
  | .dropCatalog name ifExists => HmsClient.dropCatalog name ifExists
  | .getAllDatabases opts => HmsClient.getAllDatabases cfg opts
  | .getDatabase name opts => HmsClient.getDatabase cfg name opts
  | .createDatabase db => HmsClient.createDatabase cfg db
  | .alterDatabase name db opts => HmsClient.alterDatabase cfg name db opts
  | .dropDatabase name deleteData cascade ifExists opts =>
    HmsClient.dropDatabase cfg name deleteData cascade ifExists opts
  | .getAllTables dbName opts => HmsClient.getAllTables cfg dbName opts
  | .getTable dbName tableName opts => HmsClient.getTable cfg dbName tableName opts
  | .getTables dbName tableNames opts => HmsClient.getTables cfg dbName tableNames opts
  | .getTablesSeqNames dbName opts => HmsClient.getTablesSeqNames cfg dbName opts
  | .getTablesSeqChunk dbName chunk opts => HmsClient.getTablesSeqChunk cfg dbName chunk opts
  | .createTable table => HmsClient.createTable cfg table
  | .alterTable dbName tableName newTable opts =>
    HmsClient.alterTable cfg dbName tableName newTable opts
  | .dropTable dbName tableName deleteData ifExists opts =>
    HmsClient.dropTable cfg dbName tableName deleteData ifExists opts
  | .getPartitions dbName tableName mp opts => HmsClient.getPartitions cfg dbName tableName mp opts
  | .getPartitionNames dbName tableName mp opts =>
    HmsClient.getPartitionNames cfg dbName tableName mp opts
  | .getPartitionsSeqNames dbName tableName opts =>
    HmsClient.getPartitionsSeqNames cfg dbName tableName opts
  | .getPartitionsSeqChunk dbName tableName chunk opts =>
    HmsClient.getPartitionsSeqChunk cfg dbName tableName chunk opts
  | .addPartitions dbName tableName partitions ifNotExists opts =>
    HmsClient.addPartitions cfg dbName tableName partitions ifNotExists opts
  | .alterPartitions dbName tableName partitions opts =>
    HmsClient.alterPartitions cfg dbName tableName partitions opts
  | .getPartitionsByNames dbName tableName names opts =>
    HmsClient.getPartitionsByNames cfg dbName tableName names opts
  | .getPartitionsByFilter dbName tableName filter mp opts =>
    HmsClient.getPartitionsByFilter cfg dbName tableName filter mp opts
  | .getPartitionNamesByValues dbName tableName partialValues mp opts =>
    HmsClient.getPartitionNamesByValues cfg dbName tableName partialValues mp opts
  | .dropPartition dbName tableName partVals deleteData ifExists opts =>
    HmsClient.dropPartition cfg dbName tableName partVals deleteData ifExists opts
  | .dropPartitionsByNames dbName tableName names deleteData ifExists opts =>
    HmsClient.dropPartitionsByNames cfg dbName tableName names deleteData ifExists opts
  | .currentNotificationID => HmsClient.currentNotificationID
  | .getNextNotifications lastEventID max eventTypes =>
    HmsClient.getNextNotifications lastEventID max eventTypes
  | .getTableColumnStatistics db tbl columns engine opts =>
    HmsClient.getTableColumnStatistics cfg db tbl columns engine opts
  | .openTransaction user host => HmsClient.openTransaction user host
  | .commitTransaction txnID => HmsClient.commitTransaction txnID
  | .abortTransaction txnID => HmsClient.abortTransaction txnID
  | .heartbeat txnID lockID => HmsClient.heartbeat txnID lockID
  | .lock req => HmsClient.lock req
  | .checkLock lockID => HmsClient.checkLock lockID
  | .unlock lockID => HmsClient.unlock lockID

/-- The name an operation gives to `call` or `read`. -/
def Operation.method : Operation → String
  | .getConfigValue .. => "get_config_value"
  | .serverVersion => "getVersion"
  | .getCatalogs => "get_catalogs"
  | .getCatalog .. => "get_catalog"
  | .createCatalog .. => "create_catalog"
  | .dropCatalog .. => "drop_catalog"
  | .getAllDatabases .. => "get_all_databases"
  | .getDatabase .. => "get_database"
  | .createDatabase .. => "create_database"
  | .alterDatabase .. => "alter_database"
  | .dropDatabase .. => "drop_database"
  | .getAllTables .. | .getTablesSeqNames .. => "get_all_tables"
  | .getTable .. => "get_table_req"
  | .getTables .. | .getTablesSeqChunk .. => "get_table_objects_by_name_req"
  | .createTable .. => "create_table"
  | .alterTable .. => "alter_table"
  | .dropTable .. => "drop_table"
  | .getPartitions .. => "get_partitions_req"
  | .getPartitionNames .. | .getPartitionsSeqNames .. => "get_partition_names"
  | .getPartitionsByNames .. | .getPartitionsSeqChunk .. => "get_partitions_by_names_req"
  | .addPartitions .. => "add_partitions_req"
  | .alterPartitions .. => "alter_partitions_req"
  | .getPartitionsByFilter .. => "get_partitions_by_filter"
  | .getPartitionNamesByValues .. => "get_partition_names_ps_req"
  | .dropPartition .. => "drop_partition"
  | .dropPartitionsByNames .. => "drop_partitions_req"
  | .currentNotificationID => "get_current_notificationEventId"
  | .getNextNotifications .. => "get_next_notification"
  | .getTableColumnStatistics .. => "get_table_statistics_req"
  | .openTransaction .. => "open_txns"
  | .commitTransaction .. => "commit_txn"
  | .abortTransaction .. => "abort_txn"
  | .heartbeat .. => "heartbeat"
  | .lock .. => "lock"
  | .checkLock .. => "check_lock"
  | .unlock .. => "unlock"

/-- Whether an operation goes through `read`, which may repeat it, or through `call`. -/
def Operation.idempotent : Operation → Bool
  | .createCatalog .. | .dropCatalog .. | .createDatabase .. | .alterDatabase ..
  | .dropDatabase .. | .createTable .. | .alterTable .. | .dropTable .. | .addPartitions ..
  | .alterPartitions .. | .dropPartition .. | .dropPartitionsByNames .. | .openTransaction ..
  | .commitTransaction .. | .abortTransaction .. | .heartbeat .. | .lock .. | .checkLock ..
  | .unlock .. => false
  | _ => true

end HmsClient
