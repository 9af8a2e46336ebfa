import HmsClient.Types

/-! The converters between the exported types and the wire structs. Each of them
answers nil with nil, which is `Option.map` where one is applied, and a copy
through Thrift's serialiser yields an equal struct. -/
namespace HmsClient

/-- The catalog "hive". -/
def defaultCatalog : Text := [104, 105, 118, 101]

def deref (p : Option Text) : Text := p.getD []

/-- The copy `deepCopyThrift` leaves in `dst`, which is its source again. -/
def deepCopyThrift (src : α) : α := src

def copyStringMap (m : StringMap) : StringMap := m.convert id

def copyStrings (s : Slice Text) : Slice Text := s.convert id

def copyStringSlices (s : Slice (Slice Text)) : Slice (Slice Text) := s.convert copyStrings

def skewedLocationsFromThrift (m : Slice Wire.MapEntry) : Slice SkewedLocation :=
  m.convert fun e => { values := copyStrings e.key, location := e.value }

def skewedLocationsToThrift (l : Slice SkewedLocation) : Slice Wire.MapEntry :=
  l.convert fun e => { key := copyStrings e.values, value := e.location }

def skewedInfoFromThrift (si : Wire.SkewedInfo) : SkewedInfo :=
  { columnNames := copyStrings si.skewedColNames
    columnValues := copyStringSlices si.skewedColValues
    columnValueLocations := skewedLocationsFromThrift si.skewedColValueLocationMaps }

def skewedInfoToThrift (si : SkewedInfo) : Wire.SkewedInfo :=
  { skewedColNames := copyStrings si.columnNames
    skewedColValues := copyStringSlices si.columnValues
    skewedColValueLocationMaps := skewedLocationsToThrift si.columnValueLocations }

def maxInt32 : Int := 2147483647

def minInt32 : Int := -2147483648

def timeFromUnix32 (s : Int32) : Time :=
  if s = 0 then .zero else ⟨s.toInt, 0⟩

def timeFromUnix32Ptr (p : Option Int32) : Time :=
  match p with
  | none => .zero
  | some s => timeFromUnix32 s

def unix32FromTime (t : Time) : Int32 :=
  if t.isZero then 0
  else if t.unix > maxInt32 then .ofInt maxInt32
  else if t.unix < minInt32 then .ofInt minInt32
  else .ofInt t.unix

def fieldSchemaFromThrift (f : Wire.FieldSchema) : FieldSchema :=
  { name := f.name, type := f.type, comment := f.comment }

def fieldSchemaToThrift (f : FieldSchema) : Wire.FieldSchema :=
  { name := f.name, type := f.type, comment := f.comment }

def fieldSchemasFromThrift (fs : Slice Wire.FieldSchema) : Slice FieldSchema :=
  fs.convert fieldSchemaFromThrift

def fieldSchemasToThrift (fs : Slice FieldSchema) : Slice Wire.FieldSchema :=
  fs.convert fieldSchemaToThrift

def serDeFromThrift (s : Wire.SerDeInfo) : SerDeInfo :=
  { name := s.name
    serializationLib := s.serializationLib
    parameters := copyStringMap s.parameters }

/-- The result starts from `base`, so what `SerDeInfo` does not model survives. -/
def serDeToThrift (s : SerDeInfo) (base : Option Wire.SerDeInfo) : Wire.SerDeInfo :=
  { base.getD {} with
    name := s.name
    serializationLib := s.serializationLib
    parameters := copyStringMap s.parameters }

def orderFromThrift (o : Wire.Order) : Order := { column := o.col, order := o.order }

def orderToThrift (o : Order) : Wire.Order := { col := o.column, order := o.order }

def ordersFromThrift (os : Slice Wire.Order) : Slice Order := os.convert orderFromThrift

def ordersToThrift (os : Slice Order) : Slice Wire.Order := os.convert orderToThrift

/-- `storageFromThriftIntern` once it has the columns, which come from the
interner or from `fieldSchemasFromThrift`. -/
def storageWithColumns (sd : Wire.StorageDescriptor) (cols : Slice FieldSchema) :
    StorageDescriptor :=
  { columns := cols
    location := sd.location
    inputFormat := sd.inputFormat
    outputFormat := sd.outputFormat
    compressed := sd.compressed
    numBuckets := sd.numBuckets
    serDe := sd.serdeInfo.map serDeFromThrift
    bucketColumns := copyStrings sd.bucketCols
    sortColumns := ordersFromThrift sd.sortCols
    parameters := copyStringMap sd.parameters
    storedAsSubDirectories := sd.storedAsSubDirectories.getD false
    skewed := sd.skewedInfo.map skewedInfoFromThrift }

/-- `storageFromThriftIntern` without an interner. -/
def storageFromThrift (sd : Wire.StorageDescriptor) : StorageDescriptor :=
  storageWithColumns sd (fieldSchemasFromThrift sd.cols)

/-- The result starts from `base`, whose serde seeds the serde. -/
def storageToThrift (sd : StorageDescriptor) (base : Option Wire.StorageDescriptor) :
    Wire.StorageDescriptor :=
  { base.getD {} with
    cols := fieldSchemasToThrift sd.columns
    location := sd.location
    inputFormat := sd.inputFormat
    outputFormat := sd.outputFormat
    compressed := sd.compressed
    numBuckets := sd.numBuckets
    serdeInfo := sd.serDe.map (serDeToThrift · (base.bind (·.serdeInfo)))
    bucketCols := copyStrings sd.bucketColumns
    sortCols := ordersToThrift sd.sortColumns
    parameters := copyStringMap sd.parameters
    storedAsSubDirectories := if sd.storedAsSubDirectories then some true else none
    skewedInfo := sd.skewed.map skewedInfoToThrift }

/-- `tableFromThriftIntern` once it has the storage descriptor. -/
def tableWithStorage (t : Wire.Table) (storage : Option StorageDescriptor) : Table :=
  { databaseName := t.dbName
    tableName := t.tableName
    owner := t.owner
    ownerType := t.ownerType
    createTime := timeFromUnix32 t.createTime
    lastAccessTime := timeFromUnix32 t.lastAccessTime
    retention := t.retention
    storage := storage
    partitionKeys := fieldSchemasFromThrift t.partitionKeys
    parameters := copyStringMap t.parameters
    viewOriginalText := t.viewOriginalText
    viewExpandedText := t.viewExpandedText
    tableType := t.tableType
    raw := some (deepCopyThrift t)
    catalogName := t.catName.getD defaultCatalog }

def tableFromThrift (t : Wire.Table) : Table :=
  tableWithStorage t (t.sd.map storageFromThrift)

/-- The start of an alter: the snapshot of the wire struct, or a new one. -/
def rawTableOrNew (raw : Option Wire.Table) : Wire.Table :=
  match raw with
  | none => Wire.newTable
  | some t => deepCopyThrift t

def fillTable (out : Wire.Table) (t : Table) (cat : Option Text) : Wire.Table :=
  { out with
    dbName := t.databaseName
    tableName := t.tableName
    owner := t.owner
    ownerType := if t.ownerType ≠ 0 then t.ownerType else 1
    createTime := unix32FromTime t.createTime
    lastAccessTime := unix32FromTime t.lastAccessTime
    retention := t.retention
    partitionKeys := fieldSchemasToThrift t.partitionKeys
    parameters := copyStringMap t.parameters
    viewOriginalText := t.viewOriginalText
    viewExpandedText := t.viewExpandedText
    tableType := t.tableType
    catName := cat
    sd := t.storage.map (storageToThrift · out.sd) }

def tableToThrift (t : Table) (cat : Option Text) : Wire.Table :=
  fillTable Wire.newTable t cat

def tableToThriftFrom (t : Table) (cat : Option Text) : Wire.Table :=
  fillTable (rawTableOrNew t.raw) t cat

/-- `partitionFromThriftIntern` once it has the storage descriptor. -/
def partitionWithStorage (p : Wire.Partition) (storage : Option StorageDescriptor) : Partition :=
  { databaseName := p.dbName
    tableName := p.tableName
    values := copyStrings p.values
    createTime := timeFromUnix32 p.createTime
    storage := storage
    parameters := copyStringMap p.parameters
    raw := some (deepCopyThrift p)
    catalogName := p.catName.getD defaultCatalog }

def partitionFromThrift (p : Wire.Partition) : Partition :=
  partitionWithStorage p (p.sd.map storageFromThrift)

def rawPartitionOrNew (raw : Option Wire.Partition) : Wire.Partition :=
  match raw with
  | none => Wire.newPartition
  | some p => deepCopyThrift p

/-- The database and table are the call's, whatever `p` carries. -/
def fillPartition (out : Wire.Partition) (p : Partition) (cat : Option Text)
    (dbName tableName : Text) : Wire.Partition :=
  { out with
    dbName := dbName
    tableName := tableName
    values := copyStrings p.values
    createTime := unix32FromTime p.createTime
    parameters := copyStringMap p.parameters
    catName := cat
    sd := p.storage.map (storageToThrift · out.sd) }

def partitionToThrift (p : Partition) (cat : Option Text) (dbName tableName : Text) :
    Wire.Partition :=
  fillPartition Wire.newPartition p cat dbName tableName

def partitionToThriftFrom (p : Partition) (cat : Option Text) (dbName tableName : Text) :
    Wire.Partition :=
  fillPartition (rawPartitionOrNew p.raw) p cat dbName tableName

/-- A catalog resolved for the call wins over the one on the wire. -/
def databaseFromThrift (d : Wire.Database) (cat : Option Text) : Database :=
  { name := d.name
    description := d.description
    locationURI := d.locationUri
    parameters := copyStringMap d.parameters
    ownerName := deref d.ownerName
    createTime := timeFromUnix32Ptr d.createTime
    raw := some (deepCopyThrift d)
    ownerType := d.ownerType.getD 0
    catalogName := (cat <|> d.catalogName).getD defaultCatalog }

def rawDatabaseOrNew (raw : Option Wire.Database) : Wire.Database :=
  match raw with
  | none => Wire.newDatabase
  | some d => deepCopyThrift d

/-- The creation time is the server's and stays as `out` has it. -/
def fillDatabase (out : Wire.Database) (db : Database) (cat : Option Text) : Wire.Database :=
  { out with
    name := db.name
    description := db.description
    locationUri := db.locationURI
    parameters := copyStringMap db.parameters
    catalogName := cat
    ownerName := if db.ownerName ≠ [] then some db.ownerName else none
    ownerType := if db.ownerType ≠ 0 then some db.ownerType else none }

def databaseToThrift (db : Database) (cat : Option Text) : Wire.Database :=
  fillDatabase Wire.newDatabase db cat

def databaseToThriftFrom (db : Database) (cat : Option Text) : Wire.Database :=
  fillDatabase (rawDatabaseOrNew db.raw) db cat

/-- `partitionsToThriftWith`, the loop of the two converters of a list. -/
def partitionsToThriftWith (conv : Partition → Option Text → Text → Text → Wire.Partition)
    (ps : Slice Partition) (cat : Option Text) (dbName tableName : Text) : Slice Wire.Partition :=
  ps.convert fun p => conv p cat dbName tableName

def partitionsToThrift (ps : Slice Partition) (cat : Option Text) (dbName tableName : Text) :
    Slice Wire.Partition :=
  partitionsToThriftWith partitionToThrift ps cat dbName tableName

def partitionsToThriftFrom (ps : Slice Partition) (cat : Option Text) (dbName tableName : Text) :
    Slice Wire.Partition :=
  partitionsToThriftWith partitionToThriftFrom ps cat dbName tableName

def catalogFromThrift (c : Wire.Catalog) : Catalog :=
  { name := c.name, description := deref c.description, locationURI := c.locationUri }

def catalogToThrift (cat : Catalog) : Wire.Catalog :=
  { name := cat.name
    locationUri := cat.locationURI
    description := if cat.description ≠ [] then some cat.description else none }

end HmsClient
