import HmsClient.Convert
import HmsClient.Statistics
import HmsClient.Errors
import HmsClient.PeerScript

/-! The RPCs of a connection: requests, replies and faults. A request struct has the
fields the client sets; the others keep the generated constructor's values. -/
namespace HmsClient

namespace Wire

structure GetTableRequest where
  dbName : Text
  tblName : Text
  catName : Option Text

structure GetTablesRequest where
  dbName : Text
  tblNames : Slice Text
  catName : Option Text

structure PartitionsRequest where
  catName : Option Text
  dbName : Text
  tblName : Text
  maxParts : Int16

structure AddPartitionsRequest where
  dbName : Text
  tblName : Text
  parts : Slice Partition
  ifNotExists : Bool
  needResult : Bool
  catName : Option Text

structure AlterPartitionsRequest where
  catName : Option Text
  dbName : Text
  tableName : Text
  partitions : Slice Partition

structure GetPartitionsByNamesRequest where
  dbName : Text
  tblName : Text
  names : Slice Text

structure GetPartitionNamesPsRequest where
  catName : Option Text
  dbName : Text
  tblName : Text
  partValues : Slice Text
  maxParts : Int16

structure DropPartitionsRequest where
  dbName : Text
  tblName : Text
  names : Slice Text
  deleteData : Option Bool
  ifExists : Bool
  needResult : Bool
  catName : Option Text

structure NotificationEventRequest where
  lastEvent : Int64
  maxEvents : Option Int32
  eventTypeList : Slice Text
deriving DecidableEq

structure NotificationEvent where
  eventId : Int64
  eventTime : Int32
  eventType : Text
  dbName : Option Text
  tableName : Option Text
  message : Text
  messageFormat : Option Text
  catName : Option Text
deriving DecidableEq

structure TableStatsRequest where
  dbName : Text
  tblName : Text
  colNames : Slice Text
  catName : Option Text
  engine : Text

structure OpenTxnRequest where
  numTxns : Int32
  user : Text
  hostname : Text
  agentInfo : Text

structure HeartbeatRequest where
  lockid : Option Int64
  txnid : Option Int64

structure LockComponent where
  type : Int
  level : Int
  dbname : Text
  tablename : Option Text
  partitionname : Option Text
  operationType : Int

structure LockRequest where
  component : List LockComponent
  txnid : Option Int64
  user : Text
  hostname : Text
  agentInfo : Text

structure LockResponse where
  lockid : Int64
  state : Int64
  errorMessage : Option Text

end Wire

/-- The methods of a connection that operations call. -/
inductive Call where
  | getCatalogs
  | getCatalog (name : Text)
  | createCatalog (catalog : Option Wire.Catalog)
  | dropCatalog (name : Text)
  | getAllDatabases
  | getDatabases (pattern : Text)
  | getDatabase (name : Text)
  | createDatabase (db : Wire.Database)
  | alterDatabase (dbname : Text) (db : Wire.Database)
  | dropDatabase (name : Text) (deleteData cascade : Bool)
  | getAllTables (dbName : Text)
  | getTableReq (req : Wire.GetTableRequest)
  | getTableObjectsByNameReq (req : Wire.GetTablesRequest)
  | createTable (tbl : Wire.Table)
  | alterTable (dbName tblName : Text) (newTbl : Wire.Table)
  | dropTable (dbName name : Text) (deleteData : Bool)
  | getPartitions (dbName tblName : Text) (maxParts : Int16)
  | getPartitionsReq (req : Wire.PartitionsRequest)
  | getPartitionNames (dbName tblName : Text) (maxParts : Int16)
  | addPartitionsReq (req : Wire.AddPartitionsRequest)
  | alterPartitions (dbName tblName : Text) (parts : Slice Wire.Partition)
  | alterPartitionsReq (req : Wire.AlterPartitionsRequest)
  | dropPartition (dbName tblName : Text) (partVals : Slice Text) (deleteData : Bool)
  | dropPartitionsReq (req : Wire.DropPartitionsRequest)
  | getPartitionsByNames (dbName tblName : Text) (names : Slice Text)
  | getPartitionsByNamesReq (req : Wire.GetPartitionsByNamesRequest)
  | getPartitionsByFilter (dbName tblName filter : Text) (maxParts : Int16)
  | getPartitionNamesPs (dbName tblName : Text) (partVals : Slice Text) (maxParts : Int16)
  | getPartitionNamesPsReq (req : Wire.GetPartitionNamesPsRequest)
  | getConfigValue (name defaultValue : Text)
  | getVersion
  | getNextNotification (req : Wire.NotificationEventRequest)
  | getCurrentNotificationEventId
  | getTableStatisticsReq (req : Wire.TableStatsRequest)
  | openTxns (req : Wire.OpenTxnRequest)
  | commitTxn (txnid : Int64)
  | abortTxn (txnid : Int64)
  | heartbeat (req : Wire.HeartbeatRequest)
  | lock (req : Wire.LockRequest)
  | checkLock (lockid : Int64)
  | unlock (lockid : Int64)

/-- What a method returns with a nil error, its response struct opened. -/
abbrev Call.Reply : Call → Type
  | .getCatalogs | .getAllDatabases | .getDatabases _ | .getAllTables _ => Slice Text
  | .getPartitionNames _ _ _ | .getPartitionNamesPs _ _ _ _ | .getPartitionNamesPsReq _ => Slice Text
  | .getCatalog _ => Option Wire.Catalog
  | .getDatabase _ => Wire.Database
  | .getTableReq _ => Wire.Table
  | .getTableObjectsByNameReq _ => Slice Wire.Table
  | .getPartitions _ _ _ | .getPartitionsReq _ => Slice Wire.Partition
  | .getPartitionsByNames _ _ _ | .getPartitionsByNamesReq _ => Slice Wire.Partition
  | .getPartitionsByFilter _ _ _ _ => Slice Wire.Partition
  | .dropPartition _ _ _ _ => Bool
  | .getConfigValue _ _ | .getVersion => Text
  | .getNextNotification _ => Slice Wire.NotificationEvent
  | .getCurrentNotificationEventId => Int64
  | .getTableStatisticsReq _ => Slice Wire.ColumnStatisticsObj
  | .openTxns _ => Slice Int64
  | .lock _ | .checkLock _ => Wire.LockResponse
  | _ => Unit

/-- The kinds of errors that the server or this package made, and not the reading of a
reply. -/
def Node.made : Node → Bool
  | .exception _ | .compiled | .application _ | .sentinel _ => true
  | _ => false

/-- The error of an RPC. The Thrift library turns what goes wrong while it reads a reply
into a protocol error, and returns by itself an exception that the reply holds, so no
protocol error wraps one. -/
structure RpcErr where
  err : Err
  unmixed : isProtocolError err = true → err.has Node.made = false

/-- A connection to a metastore; `do` discards one that an RPC has broken. -/
abbrev metastore : PeerScript.Link where
  Op := Call
  Reply := Call.Reply
  Fault := RpcErr
  Error := Err
  raise := RpcErr.err
  broken fault := breaksConn fault.err

end HmsClient
