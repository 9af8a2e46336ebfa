import HmsClient.Wire

/-! The types the client exports. `Table`, `Partition` and `Database` model a part
of their wire struct and carry the whole of it, as it was read, in `raw`. -/
namespace HmsClient

/-- `time.Time`, by its distance from the Unix epoch. -/
structure Time where
  unix : Int
  nsec : Nat
deriving DecidableEq

/-- Go's zero time, the first instant of year 1. -/
def Time.zero : Time := ⟨-62135596800, 0⟩

def Time.isZero (t : Time) : Bool := t = .zero

/-- An owner kind: 1 is USER, 2 ROLE and 3 GROUP. -/
abbrev PrincipalType := Int

structure FieldSchema where
  name : Text := []
  type : Text := []
  comment : Text := []
deriving DecidableEq

structure SerDeInfo where
  name : Text := []
  serializationLib : Text := []
  parameters : StringMap := none
deriving DecidableEq

structure Order where
  column : Text := []
  order : Int32 := 0
deriving DecidableEq

structure SkewedLocation where
  values : Slice Text := none
  location : Text := []
deriving DecidableEq

structure SkewedInfo where
  columnNames : Slice Text := none
  columnValues : Slice (Slice Text) := none
  columnValueLocations : Slice SkewedLocation := none
deriving DecidableEq

structure StorageDescriptor where
  columns : Slice FieldSchema := none
  location : Text := []
  inputFormat : Text := []
  outputFormat : Text := []
  compressed : Bool := false
  numBuckets : Int32 := 0
  serDe : Option SerDeInfo := none
  bucketColumns : Slice Text := none
  sortColumns : Slice Order := none
  parameters : StringMap := none
  storedAsSubDirectories : Bool := false
  skewed : Option SkewedInfo := none
deriving DecidableEq

structure Table where
  catalogName : Text := []
  databaseName : Text := []
  tableName : Text := []
  owner : Text := []
  ownerType : PrincipalType := 0
  createTime : Time := .zero
  lastAccessTime : Time := .zero
  retention : Int32 := 0
  storage : Option StorageDescriptor := none
  partitionKeys : Slice FieldSchema := none
  parameters : StringMap := none
  viewOriginalText : Text := []
  viewExpandedText : Text := []
  tableType : Text := []
  raw : Option Wire.Table := none
deriving DecidableEq

structure Partition where
  catalogName : Text := []
  databaseName : Text := []
  tableName : Text := []
  values : Slice Text := none
  createTime : Time := .zero
  storage : Option StorageDescriptor := none
  parameters : StringMap := none
  raw : Option Wire.Partition := none
deriving DecidableEq

structure Database where
  catalogName : Text := []
  name : Text := []
  description : Text := []
  locationURI : Text := []
  parameters : StringMap := none
  ownerName : Text := []
  ownerType : PrincipalType := 0
  createTime : Time := .zero
  raw : Option Wire.Database := none
deriving DecidableEq

structure Catalog where
  name : Text := []
  description : Text := []
  locationURI : Text := []
deriving DecidableEq

end HmsClient
