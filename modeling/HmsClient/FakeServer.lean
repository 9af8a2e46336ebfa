import HmsClient.FakeMetastore
import HmsClient.LockTable

/-! The fake metastore of `hmstest` as a peer of the client: what `NewServer` starts with,
and the answer and the effect of every RPC of the client. A handler's exception is declared
by its method, so it reaches the client as it is; any other error is an internal one, and a
handler that panics costs the connection. -/
namespace HmsClient.Hmstest
open PeerScript

/-- `Store`, and how many requests it has been sent. -/
structure Backend extends Metastore where
  columnStats : AList fun _ : Text => AList fun _ : Text => List Wire.ColumnStatisticsObj
  config : AList fun _ : Text => Text
  acid : AcidState
  handled : Nat

/-- What `NewServer` is called with, and the clock: what `now32` returns when it is called
again and again while a request is handled. -/
structure Setup extends Emulation where
  without : List String
  now : Nat → Nat → Int32

/-- The warehouse that `NewServer` sets up. -/
def seededWarehouse : Text := "file:///tmp/hms-warehouse".toUTF8.data.toList

/-- The store of `NewServer`: a server without catalogs has its warehouse in the
configuration, and another one in its catalog. -/
def newBackend (v : Version) : Backend :=
  { newStore with
    catalogs :=
      if v = .hive23 then newStore.catalogs
      else AList.singleton defaultCatalog { name := defaultCatalog, locationUri := seededWarehouse }
    columnStats := ∅
    config := if v = .hive23 then AList.singleton warehouseDirKey seededWarehouse else ∅
    acid := newAcidState
    handled := 0 }

def versionString : Version → Text
  | .hive23 | .hive31 => "3.0".toUTF8.data.toList
  | .hive40 => "4.0.1".toUTF8.data.toList

/-- The names of the methods on the wire. -/
def method : Call → String
  | .getCatalogs => "get_catalogs"
  | .getCatalog _ => "get_catalog"
  | .createCatalog _ => "create_catalog"
  | .dropCatalog _ => "drop_catalog"
  | .getAllDatabases => "get_all_databases"
  | .getDatabases _ => "get_databases"
  | .getDatabase _ => "get_database"
  | .createDatabase _ => "create_database"
  | .alterDatabase _ _ => "alter_database"
  | .dropDatabase _ _ _ => "drop_database"
  | .getAllTables _ => "get_all_tables"
  | .getTableReq _ => "get_table_req"
  | .getTableObjectsByNameReq _ => "get_table_objects_by_name_req"
  | .createTable _ => "create_table"
  | .alterTable _ _ _ => "alter_table"
  | .dropTable _ _ _ => "drop_table"
  | .getPartitions _ _ _ => "get_partitions"
  | .getPartitionsReq _ => "get_partitions_req"
  | .getPartitionNames _ _ _ => "get_partition_names"
  | .addPartitionsReq _ => "add_partitions_req"
  | .alterPartitions _ _ _ => "alter_partitions"
  | .alterPartitionsReq _ => "alter_partitions_req"
  | .dropPartition _ _ _ _ => "drop_partition"
  | .dropPartitionsReq _ => "drop_partitions_req"
  | .getPartitionsByNames _ _ _ => "get_partitions_by_names"
  | .getPartitionsByNamesReq _ => "get_partitions_by_names_req"
  | .getPartitionsByFilter _ _ _ _ => "get_partitions_by_filter"
  | .getPartitionNamesPs _ _ _ _ => "get_partition_names_ps"
  | .getPartitionNamesPsReq _ => "get_partition_names_ps_req"
  | .getConfigValue _ _ => "get_config_value"
  | .getVersion => "getVersion"
  | .getNextNotification _ => "get_next_notification"
  | .getCurrentNotificationEventId => "get_current_notificationEventId"
  | .getTableStatisticsReq _ => "get_table_statistics_req"
  | .openTxns _ => "open_txns"
  | .commitTxn _ => "commit_txn"
  | .abortTxn _ => "abort_txn"
  | .heartbeat _ => "heartbeat"
  | .lock _ => "lock"
  | .checkLock _ => "check_lock"
  | .unlock _ => "unlock"

/-! ## Handlers of other things than names and partitions -/

def configValue (b : Backend) (name defaultValue : Text) : Text :=
  (b.config.lookup name).getD defaultValue

def currentEventId (b : Backend) : Int64 := (b.events.getLast?.map (·.eventId)).getD 0

/-- Only a server of version 4 reads the engine of a request. -/
def getTableStatisticsReq (v : Version) (b : Backend) (other : OtherFields)
    (req : Wire.TableStatsRequest) : Except Thrown (List Wire.ColumnStatisticsObj) := do
  let catName ← cat v req.catName
  let engine := if v = .hive40 then req.engine else defaultCatalog
  if other.id ≠ -1 then throw (unexpectedField "ID")
  let key := tblKey catName req.dbName req.tblName
  let _ ← b.tableAt catName req.dbName req.tblName
  let stats := ((b.columnStats.lookup key).bind fun engines => engines.lookup engine).getD []
  pure (stats.filter fun o => req.colNames.items.contains o.colName)

/-- An error that is not declared. -/
def internalError : RpcErr := ⟨.leaf (.application 6), by decide⟩

def AcidError.toRpcErr : AcidError → RpcErr
  | .exception e => e.rpcErr
  | .internal _ => internalError

/-! ## The server -/

section Server
variable (setup : Setup) (b : Backend)

def Setup.read (rpc : ReadRpc) : Except RpcErr rpc.Reply :=
  (handleRead setup.toEmulation b.toMetastore {} rpc).mapError Thrown.rpcErr

def Setup.write (rpc : WriteRpc) : Except RpcErr Unit × Backend :=
  let answered := handleWrite setup.toEmulation (setup.now b.handled) b.toMetastore {} rpc
  (answered.1.mapError Thrown.rpcErr, { b with toMetastore := answered.2 })

/-- A handler of transactions and locks; one that fails changes nothing. -/
def Backend.acidAnswer {α : Type} (handled : Except AcidError (α × AcidState)) :
    Except RpcErr α × Backend :=
  match handled with
  | .ok (reply, acid) => (.ok reply, { b with acid := acid })
  | .error e => (.error e.toRpcErr, b)

/-- A slice that was cut to nothing is not nil, unlike one that nothing was put into. -/
def Setup.filtered (db tbl filter : Text) (max : Int16) :
    Except RpcErr (Slice Wire.Partition) := do
  let uncut ← setup.read b (.getPartitionsByFilter db tbl filter (-1))
  let parts ← setup.read b (.getPartitionsByFilter db tbl filter max)
  pure (if uncut = [] then none else some parts)

def Setup.handle : (call : Call) → Except RpcErr call.Reply × Backend
  | .getCatalogs => ((setup.read b .getCatalogs).map some, b)
  | .getCatalog name => ((setup.read b (.getCatalog name)).map some, b)
  | .createCatalog (some catalog) => setup.write b (.createCatalog catalog)
  -- the handler dereferences the catalog
  | .createCatalog none => (.error hungUp, b)
  | .dropCatalog name => setup.write b (.dropCatalog name)
  | .getAllDatabases => ((setup.read b .getAllDatabases).map appended, b)
  | .getDatabases pattern => ((setup.read b (.getDatabases pattern)).map appended, b)
  | .getDatabase name => (setup.read b (.getDatabase name), b)
  | .createDatabase db => setup.write b (.createDatabase db)
  | .alterDatabase name db => setup.write b (.alterDatabase name db)
  | .dropDatabase name deleteData cascade => setup.write b (.dropDatabase name deleteData cascade)
  | .getAllTables dbName => ((setup.read b (.getAllTables dbName)).map appended, b)
  | .getTableReq req => (setup.read b (.getTableReq req), b)
  | .getTableObjectsByNameReq req => ((setup.read b (.getTableObjectsByNameReq req)).map some, b)
  | .createTable tbl => setup.write b (.createTable tbl)
  | .alterTable dbName tblName newTbl => setup.write b (.alterTable dbName tblName newTbl)
  | .dropTable dbName name deleteData => setup.write b (.dropTable dbName name deleteData)
  | .getPartitions db tbl max => ((setup.read b (.getPartitions db tbl max)).map some, b)
  | .getPartitionsReq req => ((setup.read b (.getPartitionsReq req)).map some, b)
  | .getPartitionNames db tbl max => ((setup.read b (.getPartitionNames db tbl max)).map some, b)
  | .addPartitionsReq req => setup.write b (.addPartitionsReq req)
  | .alterPartitions db tbl parts => setup.write b (.alterPartitions db tbl parts)
  | .alterPartitionsReq req => setup.write b (.alterPartitionsReq req)
  | .dropPartition db tbl vals deleteData =>
    let answered := setup.write b (.dropPartition db tbl vals deleteData)
    (answered.1.map fun _ => true, answered.2)
  | .dropPartitionsReq req => setup.write b (.dropPartitionsReq req)
  | .getPartitionsByNames db tbl names =>
    ((setup.read b (.getPartitionsByNames db tbl names)).map appended, b)
  | .getPartitionsByNamesReq req => ((setup.read b (.getPartitionsByNamesReq req)).map some, b)
  | .getPartitionsByFilter db tbl filter max => (setup.filtered b db tbl filter max, b)
  | .getPartitionNamesPs db tbl vals max =>
    ((setup.read b (.getPartitionNamesPs db tbl vals max)).map some, b)
  | .getPartitionNamesPsReq req => ((setup.read b (.getPartitionNamesPsReq req)).map some, b)
  | .getConfigValue name defaultValue => (.ok (configValue b name defaultValue), b)
  | .getVersion => (.ok (versionString setup.v), b)
  | .getNextNotification req => (.ok (some (handleGetNextNotification setup.v b.events req)), b)
  | .getCurrentNotificationEventId => (.ok (currentEventId b), b)
  | .getTableStatisticsReq req =>
    (((getTableStatisticsReq setup.v b {} req).map some).mapError Thrown.rpcErr, b)
  | .openTxns req =>
    let (ids, acid) := openTxns req b.acid
    (.ok (some ids), { b with acid := acid })
  | .commitTxn txnid => b.acidAnswer ((commitTxn txnid b.acid).map ((), ·))
  | .abortTxn txnid => b.acidAnswer ((abortTxn txnid b.acid).map ((), ·))
  | .heartbeat req => b.acidAnswer ((heartbeat req b.acid).map (·, b.acid))
  | .lock req => b.acidAnswer (lock req b.acid)
  | .checkLock lockid => b.acidAnswer ((checkLock lockid b.acid).map (·, b.acid))
  | .unlock lockid => b.acidAnswer ((unlock lockid b.acid).map ((), ·))

/-- A method that was taken out of the processor's map is unknown. -/
def Setup.lacks (call : Call) : Bool :=
  (removedRPCs setup.v ++ setup.without).contains (method call)

def Setup.serve (call : Call) (b : Backend) : Except RpcErr call.Reply × Backend :=
  if setup.lacks call then (.error unknownMethod, { b with handled := b.handled + 1 })
  else
    let answered := setup.handle b call
    (answered.1, { answered.2 with handled := b.handled + 1 })

end Server

end HmsClient.Hmstest
