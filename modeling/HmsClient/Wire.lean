import HmsClient.NilSlice

/-! The metastore's structs as the generated Thrift bindings declare them. A pointer
field is an `Option`, a string is its bytes, and the default of a field is Go's
zero value. A list of struct pointers holds the structs, since the Thrift reader
allocates every element; a struct that no converter opens is its encoding. -/
namespace HmsClient

abbrev Text := List UInt8

/-- A Go map, by its entries. -/
abbrev StringMap := Slice (Text × Text)

namespace Wire

/-- A struct that the client only carries along. -/
abbrev Blob := List UInt8

structure FieldSchema where
  name : Text := []
  type : Text := []
  comment : Text := []
deriving DecidableEq

structure Order where
  col : Text := []
  order : Int32 := 0
deriving DecidableEq

structure SerDeInfo where
  name : Text := []
  serializationLib : Text := []
  parameters : StringMap := none
  description : Option Text := none
  serializerClass : Option Text := none
  deserializerClass : Option Text := none
  serdeType : Option Int := none
deriving DecidableEq

/-- `thrift.MapEntry[[]string, string]`. -/
structure MapEntry where
  key : Slice Text := none
  value : Text := []
deriving DecidableEq

structure SkewedInfo where
  skewedColNames : Slice Text := none
  skewedColValues : Slice (Slice Text) := none
  skewedColValueLocationMaps : Slice MapEntry := none
deriving DecidableEq

structure StorageDescriptor where
  cols : Slice FieldSchema := none
  location : Text := []
  inputFormat : Text := []
  outputFormat : Text := []
  compressed : Bool := false
  numBuckets : Int32 := 0
  serdeInfo : Option SerDeInfo := none
  bucketCols : Slice Text := none
  sortCols : Slice Order := none
  parameters : StringMap := none
  skewedInfo : Option SkewedInfo := none
  storedAsSubDirectories : Option Bool := none
deriving DecidableEq

structure Table where
  tableName : Text := []
  dbName : Text := []
  owner : Text := []
  createTime : Int32 := 0
  lastAccessTime : Int32 := 0
  retention : Int32 := 0
  sd : Option StorageDescriptor := none
  partitionKeys : Slice FieldSchema := none
  parameters : StringMap := none
  viewOriginalText : Text := []
  viewExpandedText : Text := []
  tableType : Text := []
  privileges : Option Blob := none
  temporary : Bool := false
  rewriteEnabled : Option Bool := none
  creationMetadata : Option Blob := none
  catName : Option Text := none
  ownerType : Int := 0
  writeId : Int64 := 0
  isStatsCompliant : Option Bool := none
  colStats : Option Blob := none
  accessType : Option Int8 := none
  requiredReadCapabilities : Slice Text := none
  requiredWriteCapabilities : Slice Text := none
  id : Option Int64 := none
  fileMetadata : Option Blob := none
  dictionary : Option Blob := none
  txnId : Option Int64 := none
deriving DecidableEq

structure Partition where
  values : Slice Text := none
  dbName : Text := []
  tableName : Text := []
  createTime : Int32 := 0
  lastAccessTime : Int32 := 0
  sd : Option StorageDescriptor := none
  parameters : StringMap := none
  privileges : Option Blob := none
  catName : Option Text := none
  writeId : Int64 := 0
  isStatsCompliant : Option Bool := none
  colStats : Option Blob := none
  fileMetadata : Option Blob := none
deriving DecidableEq

structure Database where
  name : Text := []
  description : Text := []
  locationUri : Text := []
  parameters : StringMap := none
  privileges : Option Blob := none
  ownerName : Option Text := none
  ownerType : Option Int := none
  catalogName : Option Text := none
  createTime : Option Int32 := none
  managedLocationUri : Option Text := none
  type : Option Int := none
  connectorName : Option Text := none
  remoteDbname : Option Text := none
deriving DecidableEq

structure Catalog where
  name : Text := []
  description : Option Text := none
  locationUri : Text := []
  createTime : Option Int32 := none
  parameters : StringMap := none
deriving DecidableEq

/-- `NewTable`: unlike Go's zero value, USER and "no write id". -/
def newTable : Table := { ownerType := 1, writeId := -1 }

def newPartition : Partition := { writeId := -1 }

def newDatabase : Database := {}

end Wire
end HmsClient
