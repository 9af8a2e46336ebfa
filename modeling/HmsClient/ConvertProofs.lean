import HmsClient.Convert
import Mathlib.Data.Option.Basic

/-! An object that is read, edited and written back by an Alter call. What the
exported type models reaches the wire as edited; what it does not model comes back
as it was read, down to the serde inside the storage descriptor. -/
namespace HmsClient

/-- An edit of the modelled fields: the snapshot `raw` is out of a caller's reach. -/
structure Edit {α ρ : Type} (raw : α → ρ) where
  apply : α → α
  keepsRaw : ∀ x, raw (apply x) = raw x

/-! ## What it is for the wire to carry an exported value -/

/-- The wire holds a time in whole seconds, zero standing for the zero time, with the
nearest int32 for one that is out of range. -/
structure Stamps (s : Int32) (t : Time) : Prop where
  unset : t = .zero → s = 0
  inRange : t ≠ .zero → minInt32 ≤ t.unix → t.unix ≤ maxInt32 → s.toInt = t.unix
  late : maxInt32 < t.unix → s.toInt = maxInt32
  early : t ≠ .zero → t.unix < minInt32 → s.toInt = minInt32

structure CarriesField (f : Wire.FieldSchema) (x : FieldSchema) : Prop where
  name : f.name = x.name
  type : f.type = x.type
  comment : f.comment = x.comment

structure CarriesOrder (o : Wire.Order) (x : Order) : Prop where
  col : o.col = x.column
  order : o.order = x.order

structure CarriesLocation (e : Wire.MapEntry) (x : SkewedLocation) : Prop where
  key : Slice.Like Eq e.key x.values
  value : e.value = x.location

structure CarriesSkewed (s : Wire.SkewedInfo) (x : SkewedInfo) : Prop where
  names : Slice.Like Eq s.skewedColNames x.columnNames
  values : Slice.Like (Slice.Like Eq) s.skewedColValues x.columnValues
  locations : Slice.Like CarriesLocation s.skewedColValueLocationMaps x.columnValueLocations

structure CarriesSerDe (s : Wire.SerDeInfo) (x : SerDeInfo) : Prop where
  name : s.name = x.name
  serializationLib : s.serializationLib = x.serializationLib
  parameters : Slice.Like Eq s.parameters x.parameters

structure CarriesStorage (sd : Wire.StorageDescriptor) (x : StorageDescriptor) : Prop where
  cols : Slice.Like CarriesField sd.cols x.columns
  location : sd.location = x.location
  inputFormat : sd.inputFormat = x.inputFormat
  outputFormat : sd.outputFormat = x.outputFormat
  compressed : sd.compressed = x.compressed
  numBuckets : sd.numBuckets = x.numBuckets
  serde : Option.Rel CarriesSerDe sd.serdeInfo x.serDe
  bucketCols : Slice.Like Eq sd.bucketCols x.bucketColumns
  sortCols : Slice.Like CarriesOrder sd.sortCols x.sortColumns
  parameters : Slice.Like Eq sd.parameters x.parameters
  subDirectories : sd.storedAsSubDirectories = if x.storedAsSubDirectories then some true else none
  skewed : Option.Rel CarriesSkewed sd.skewedInfo x.skewed

structure CarriesTable (t : Wire.Table) (x : Table) : Prop where
  dbName : t.dbName = x.databaseName
  tableName : t.tableName = x.tableName
  owner : t.owner = x.owner
  ownerType : t.ownerType = if x.ownerType = 0 then 1 else x.ownerType
  createTime : Stamps t.createTime x.createTime
  lastAccessTime : Stamps t.lastAccessTime x.lastAccessTime
  retention : t.retention = x.retention
  sd : Option.Rel CarriesStorage t.sd x.storage
  partitionKeys : Slice.Like CarriesField t.partitionKeys x.partitionKeys
  parameters : Slice.Like Eq t.parameters x.parameters
  viewOriginalText : t.viewOriginalText = x.viewOriginalText
  viewExpandedText : t.viewExpandedText = x.viewExpandedText
  tableType : t.tableType = x.tableType

/-- The database and the table a partition is sent to are not its own but the call's. -/
structure CarriesPartition (p : Wire.Partition) (x : Partition) : Prop where
  values : Slice.Like Eq p.values x.values
  createTime : Stamps p.createTime x.createTime
  sd : Option.Rel CarriesStorage p.sd x.storage
  parameters : Slice.Like Eq p.parameters x.parameters

/-- An empty owner name and a zero owner type are absent from the wire. -/
structure CarriesDatabase (d : Wire.Database) (x : Database) : Prop where
  name : d.name = x.name
  description : d.description = x.description
  locationUri : d.locationUri = x.locationURI
  parameters : Slice.Like Eq d.parameters x.parameters
  ownerName : d.ownerName = if x.ownerName = [] then none else some x.ownerName
  ownerType : d.ownerType = if x.ownerType = 0 then none else some x.ownerType

/-! ## What the exported types do not model -/

structure KeepsSerDe (w out : Wire.SerDeInfo) : Prop where
  description : out.description = w.description
  serializerClass : out.serializerClass = w.serializerClass
  deserializerClass : out.deserializerClass = w.deserializerClass
  serdeType : out.serdeType = w.serdeType

/-- A storage descriptor is modelled whole, but for its serde. -/
def KeepsStorage (w out : Option Wire.StorageDescriptor) : Prop :=
  ∀ serde ∈ w.bind (·.serdeInfo), ∀ outSerde ∈ out.bind (·.serdeInfo), KeepsSerDe serde outSerde

structure KeepsTable (w out : Wire.Table) : Prop where
  serde : KeepsStorage w.sd out.sd
  privileges : out.privileges = w.privileges
  temporary : out.temporary = w.temporary
  rewriteEnabled : out.rewriteEnabled = w.rewriteEnabled
  creationMetadata : out.creationMetadata = w.creationMetadata
  writeId : out.writeId = w.writeId
  isStatsCompliant : out.isStatsCompliant = w.isStatsCompliant
  colStats : out.colStats = w.colStats
  accessType : out.accessType = w.accessType
  requiredReadCapabilities : out.requiredReadCapabilities = w.requiredReadCapabilities
  requiredWriteCapabilities : out.requiredWriteCapabilities = w.requiredWriteCapabilities
  id : out.id = w.id
  fileMetadata : out.fileMetadata = w.fileMetadata
  dictionary : out.dictionary = w.dictionary
  txnId : out.txnId = w.txnId

structure KeepsPartition (w out : Wire.Partition) : Prop where
  serde : KeepsStorage w.sd out.sd
  lastAccessTime : out.lastAccessTime = w.lastAccessTime
  privileges : out.privileges = w.privileges
  writeId : out.writeId = w.writeId
  isStatsCompliant : out.isStatsCompliant = w.isStatsCompliant
  colStats : out.colStats = w.colStats
  fileMetadata : out.fileMetadata = w.fileMetadata

structure KeepsDatabase (w out : Wire.Database) : Prop where
  createTime : out.createTime = w.createTime
  privileges : out.privileges = w.privileges
  managedLocationUri : out.managedLocationUri = w.managedLocationUri
  type : out.type = w.type
  connectorName : out.connectorName = w.connectorName
  remoteDbname : out.remoteDbname = w.remoteDbname

/-! ## The wire structs up to what an alter does not tell apart -/

namespace Wire

def MapEntry.tidied (e : MapEntry) : MapEntry := { e with key := e.key.tidy }

def SkewedInfo.tidied (s : SkewedInfo) : SkewedInfo :=
  { skewedColNames := s.skewedColNames.tidy
    skewedColValues := s.skewedColValues.convert Slice.tidy
    skewedColValueLocationMaps := s.skewedColValueLocationMaps.convert MapEntry.tidied }

def SerDeInfo.tidied (s : SerDeInfo) : SerDeInfo := { s with parameters := s.parameters.tidy }

def StorageDescriptor.tidied (sd : StorageDescriptor) : StorageDescriptor :=
  { sd with
    cols := sd.cols.tidy
    serdeInfo := sd.serdeInfo.map SerDeInfo.tidied
    bucketCols := sd.bucketCols.tidy
    sortCols := sd.sortCols.tidy
    parameters := sd.parameters.tidy
    skewedInfo := sd.skewedInfo.map SkewedInfo.tidied
    storedAsSubDirectories := sd.storedAsSubDirectories.filter id }

def Table.tidied (t : Table) : Table :=
  { t with
    ownerType := if t.ownerType = 0 then 1 else t.ownerType
    sd := t.sd.map StorageDescriptor.tidied
    partitionKeys := t.partitionKeys.tidy
    parameters := t.parameters.tidy }

def Partition.tidied (p : Partition) : Partition :=
  { p with
    values := p.values.tidy
    sd := p.sd.map StorageDescriptor.tidied
    parameters := p.parameters.tidy }

def Database.tidied (d : Database) : Database :=
  { d with
    parameters := d.parameters.tidy
    ownerName := d.ownerName.filter (· ≠ [])
    ownerType := d.ownerType.filter (· ≠ 0) }

end Wire

/-! ## The converters, one by one -/

private theorem stamps_unix32FromTime (t : Time) : Stamps (unix32FromTime t) t := by
  have zeroIsEarly : Time.zero.unix < minInt32 := by decide
  have bounds : minInt32 < maxInt32 := by decide
  constructor
  · rintro rfl
    rfl
  · intro set lower upper
    have unset : t.isZero = false := by simpa [Time.isZero] using set
    rw [unix32FromTime, unset, if_neg (by decide), if_neg (by omega), if_neg (by omega)]
    exact Int32.toInt_ofInt_of_le lower (by unfold maxInt32 at upper; omega)
  · intro late
    have unset : t.isZero = false := by
      simp only [Time.isZero, decide_eq_false_iff_not]
      rintro rfl
      omega
    rw [unix32FromTime, unset, if_neg (by decide), if_pos late]
    decide
  · intro set early
    have unset : t.isZero = false := by simpa [Time.isZero] using set
    rw [unix32FromTime, unset, if_neg (by decide), if_neg (by omega), if_pos early]
    decide

theorem unix32_round_trip (s : Int32) : unix32FromTime (timeFromUnix32 s) = s := by
  by_cases unset : s = 0
  · subst unset
    decide
  · have lower : minInt32 ≤ s.toInt := Int32.minValue_le_toInt s
    have upper : s.toInt ≤ maxInt32 := by
      have := s.toInt_lt
      unfold maxInt32
      omega
    have set : timeFromUnix32 s ≠ .zero := by
      intro zero
      rw [timeFromUnix32, if_neg unset] at zero
      have : s.toInt = -62135596800 := congrArg Time.unix zero
      unfold minInt32 at lower
      omega
    have stamp := (stamps_unix32FromTime (timeFromUnix32 s)).inRange set
    rw [timeFromUnix32, if_neg unset] at stamp ⊢
    exact Int32.toInt_inj.mp (stamp lower upper)

private theorem copied (s : Slice α) : Slice.Like Eq (s.convert id) s :=
  Slice.like_convert (fun _ => rfl) s

private theorem carries_skewed (x : SkewedInfo) : CarriesSkewed (skewedInfoToThrift x) x where
  names := copied _
  values := Slice.like_convert copied _
  locations := Slice.like_convert (fun l => ⟨copied l.values, rfl⟩) _

private theorem carries_serDe (x : SerDeInfo) (base : Option Wire.SerDeInfo) :
    CarriesSerDe (serDeToThrift x base) x :=
  ⟨rfl, rfl, copied _⟩

private theorem keeps_serDe (x : SerDeInfo) (base : Wire.SerDeInfo) :
    KeepsSerDe base (serDeToThrift x (some base)) :=
  ⟨rfl, rfl, rfl, rfl⟩

private theorem rel_map {R : β → α → Prop} {f : α → β} (related : ∀ a, R (f a) a)
    (o : Option α) : Option.Rel R (o.map f) o := by
  cases o with
  | none => exact .none
  | some a => exact .some (related a)

private theorem carries_storage (x : StorageDescriptor) (base : Option Wire.StorageDescriptor) :
    CarriesStorage (storageToThrift x base) x where
  cols := Slice.like_convert (fun _ => ⟨rfl, rfl, rfl⟩) _
  location := rfl
  inputFormat := rfl
  outputFormat := rfl
  compressed := rfl
  numBuckets := rfl
  serde := rel_map (fun s => carries_serDe s _) _
  bucketCols := copied _
  sortCols := Slice.like_convert (fun _ => ⟨rfl, rfl⟩) _
  parameters := copied _
  subDirectories := rfl
  skewed := rel_map carries_skewed _

private theorem keeps_storage (x : Option StorageDescriptor) (base : Option Wire.StorageDescriptor) :
    KeepsStorage base (x.map (storageToThrift · base)) := by
  intro serde inBase outSerde inOut
  obtain ⟨sd, rfl, inSd⟩ := Option.mem_bind_iff.mp inBase
  obtain ⟨outSd, fromStorage, inOutSd⟩ := Option.mem_bind_iff.mp inOut
  obtain ⟨storage, rfl, rfl⟩ := Option.map_eq_some_iff.mp fromStorage
  obtain ⟨serDe, -, rfl⟩ := Option.map_eq_some_iff.mp inOutSd
  have seeded : (some sd).bind (·.serdeInfo) = some serde := inSd
  rw [seeded]
  exact keeps_serDe serDe serde

theorem tidy_tidy (s : Slice α) : (s.convert id).convert id = s.tidy :=
  Slice.convert_convert id id s

private theorem skewed_round_trip (s : Wire.SkewedInfo) :
    skewedInfoToThrift (skewedInfoFromThrift s) = s.tidied := by
  simp only [skewedInfoToThrift, skewedInfoFromThrift, Wire.SkewedInfo.tidied,
    Wire.SkewedInfo.mk.injEq]
  refine ⟨tidy_tidy _, ?_, ?_⟩
  · refine (Slice.convert_convert _ _ _).trans (Slice.convert_congr (fun values => ?_) _)
    exact tidy_tidy values
  · refine (Slice.convert_convert _ _ _).trans (Slice.convert_congr (fun e => ?_) _)
    exact Wire.MapEntry.mk.injEq .. |>.mpr ⟨tidy_tidy e.key, rfl⟩

private theorem serDe_round_trip (s : Wire.SerDeInfo) :
    serDeToThrift (serDeFromThrift s) (some s) = s.tidied :=
  Wire.SerDeInfo.mk.injEq .. |>.mpr ⟨rfl, rfl, tidy_tidy s.parameters, rfl, rfl, rfl, rfl⟩

private theorem fields_round_trip (fs : Slice Wire.FieldSchema) :
    fieldSchemasToThrift (fieldSchemasFromThrift fs) = fs.tidy :=
  Slice.convert_convert fieldSchemaToThrift fieldSchemaFromThrift fs

private theorem orders_round_trip (os : Slice Wire.Order) :
    ordersToThrift (ordersFromThrift os) = os.tidy :=
  Slice.convert_convert orderToThrift orderFromThrift os

private theorem storage_round_trip (sd : Wire.StorageDescriptor) :
    storageToThrift (storageFromThrift sd) (some sd) = sd.tidied := by
  refine Wire.StorageDescriptor.mk.injEq .. |>.mpr ⟨fields_round_trip sd.cols, rfl, rfl, rfl, rfl,
    rfl, ?_, tidy_tidy _, orders_round_trip sd.sortCols, tidy_tidy _, ?_, ?_⟩
  · cases serde : sd.serdeInfo with
    | none => simp [storageFromThrift, storageWithColumns, serde]
    | some s => simp [storageFromThrift, storageWithColumns, serde, serDe_round_trip]
  · cases skewed : sd.skewedInfo with
    | none => simp [storageFromThrift, storageWithColumns, skewed]
    | some s => simp [storageFromThrift, storageWithColumns, skewed, skewed_round_trip]
  · cases stored : sd.storedAsSubDirectories with
    | none => simp [storageFromThrift, storageWithColumns, stored]
    | some b => cases b <;> simp [storageFromThrift, storageWithColumns, stored, Option.filter]

private theorem sd_round_trip (sd : Option Wire.StorageDescriptor) :
    (sd.map storageFromThrift).map (storageToThrift · sd) =
      sd.map Wire.StorageDescriptor.tidied := by
  cases sd with
  | none => rfl
  | some sd => exact congrArg some (storage_round_trip sd)

/-! ## The three alters -/

private theorem table_carried (out : Wire.Table) (x : Table) (cat : Option Text) :
    CarriesTable (fillTable out x cat) x where
  dbName := rfl
  tableName := rfl
  owner := rfl
  ownerType := ite_not ..
  createTime := stamps_unix32FromTime _
  lastAccessTime := stamps_unix32FromTime _
  retention := rfl
  sd := rel_map (fun s => carries_storage s _) _
  partitionKeys := Slice.like_convert (fun _ => ⟨rfl, rfl, rfl⟩) _
  parameters := copied _
  viewOriginalText := rfl
  viewExpandedText := rfl
  tableType := rfl

private theorem table_kept (out : Wire.Table) (x : Table) (cat : Option Text) :
    KeepsTable out (fillTable out x cat) :=
  ⟨keeps_storage _ _, rfl, rfl, rfl, rfl, rfl, rfl, rfl, rfl, rfl, rfl, rfl, rfl, rfl, rfl⟩

private theorem partition_carried (out : Wire.Partition) (x : Partition) (cat : Option Text)
    (dbName tableName : Text) : CarriesPartition (fillPartition out x cat dbName tableName) x where
  values := copied _
  createTime := stamps_unix32FromTime _
  sd := rel_map (fun s => carries_storage s _) _
  parameters := copied _

private theorem partition_kept (out : Wire.Partition) (x : Partition) (cat : Option Text)
    (dbName tableName : Text) : KeepsPartition out (fillPartition out x cat dbName tableName) :=
  ⟨keeps_storage _ _, rfl, rfl, rfl, rfl, rfl, rfl⟩

private theorem database_carried (out : Wire.Database) (x : Database) (cat : Option Text) :
    CarriesDatabase (fillDatabase out x cat) x :=
  ⟨rfl, rfl, rfl, copied _, ite_not .., ite_not ..⟩

private theorem database_kept (out : Wire.Database) (x : Database) (cat : Option Text) :
    KeepsDatabase out (fillDatabase out x cat) :=
  ⟨rfl, rfl, rfl, rfl, rfl, rfl⟩

private theorem table_round_trip (w : Wire.Table) (cat : Option Text) :
    tableToThriftFrom (tableFromThrift w) cat = { w.tidied with catName := cat } := by
  refine Wire.Table.mk.injEq .. |>.mpr ⟨rfl, rfl, rfl, unix32_round_trip _, unix32_round_trip _,
    rfl, sd_round_trip w.sd, fields_round_trip _, tidy_tidy _, rfl, rfl, rfl, rfl, rfl, rfl, rfl,
    rfl, ite_not .., rfl, rfl, rfl, rfl, rfl, rfl, rfl, rfl, rfl, rfl⟩

private theorem partition_round_trip (w : Wire.Partition) (cat : Option Text)
    (dbName tableName : Text) :
    partitionToThriftFrom (partitionFromThrift w) cat dbName tableName =
      { w.tidied with catName := cat, dbName := dbName, tableName := tableName } :=
  Wire.Partition.mk.injEq .. |>.mpr ⟨tidy_tidy _, rfl, rfl, unix32_round_trip _, rfl,
    sd_round_trip w.sd, tidy_tidy _, rfl, rfl, rfl, rfl, rfl, rfl⟩

private theorem filtered (p : α → Prop) [DecidablePred p] (o : Option α) (zero : α)
    (excluded : ¬p zero) :
    (if p (o.getD zero) then some (o.getD zero) else none) = o.filter (p ·) := by
  cases o with
  | none => simp [excluded]
  | some a => simp [Option.filter]

private theorem database_round_trip (w : Wire.Database) (known cat : Option Text) :
    databaseToThriftFrom (databaseFromThrift w known) cat =
      { w.tidied with catalogName := cat } :=
  Wire.Database.mk.injEq .. |>.mpr ⟨rfl, rfl, rfl, tidy_tidy _, rfl,
    filtered (· ≠ []) w.ownerName [] (by simp), filtered (· ≠ 0) w.ownerType 0 (by simp),
    rfl, rfl, rfl, rfl, rfl, rfl⟩

/-- Whatever a caller edits, an alter sends the object it read with the edited fields
and the call's catalog and table; with no edit, it sends back what was read. -/
theorem alter_keeps_what_it_does_not_model (cat : Option Text) :
    (∀ (w : Wire.Table) (edit : Edit Table.raw),
      let x := edit.apply (tableFromThrift w)
      let out := tableToThriftFrom x cat
      CarriesTable out x ∧ KeepsTable w out ∧ out.catName = cat) ∧
    (∀ (w : Wire.Partition) (edit : Edit Partition.raw) (dbName tableName : Text),
      let x := edit.apply (partitionFromThrift w)
      let out := partitionToThriftFrom x cat dbName tableName
      CarriesPartition out x ∧ KeepsPartition w out ∧ out.catName = cat ∧
        out.dbName = dbName ∧ out.tableName = tableName) ∧
    (∀ (w : Wire.Database) (known : Option Text) (edit : Edit Database.raw),
      let x := edit.apply (databaseFromThrift w known)
      let out := databaseToThriftFrom x cat
      CarriesDatabase out x ∧ KeepsDatabase w out ∧ out.catalogName = cat) ∧
    (∀ w : Wire.Table,
      tableToThriftFrom (tableFromThrift w) cat = { w.tidied with catName := cat }) ∧
    (∀ (w : Wire.Partition) (dbName tableName : Text),
      partitionToThriftFrom (partitionFromThrift w) cat dbName tableName =
        { w.tidied with catName := cat, dbName := dbName, tableName := tableName }) ∧
    (∀ (w : Wire.Database) (known : Option Text),
      databaseToThriftFrom (databaseFromThrift w known) cat =
        { w.tidied with catalogName := cat }) := by
  refine ⟨fun w edit => ?_, fun w edit dbName tableName => ?_, fun w known edit => ?_,
    fun w => table_round_trip w cat, fun w => partition_round_trip w cat,
    fun w known => database_round_trip w known cat⟩
  · have snapshot : rawTableOrNew (edit.apply (tableFromThrift w)).raw = w := by
      rw [edit.keepsRaw]
      rfl
    simp only [tableToThriftFrom, snapshot]
    exact ⟨table_carried w _ cat, table_kept w _ cat, rfl⟩
  · have snapshot : rawPartitionOrNew (edit.apply (partitionFromThrift w)).raw = w := by
      rw [edit.keepsRaw]
      rfl
    simp only [partitionToThriftFrom, snapshot]
    exact ⟨partition_carried w _ cat _ _, partition_kept w _ cat _ _, rfl, rfl, rfl⟩
  · have snapshot : rawDatabaseOrNew (edit.apply (databaseFromThrift w known)).raw = w := by
      rw [edit.keepsRaw]
      rfl
    simp only [databaseToThriftFrom, snapshot]
    exact ⟨database_carried w _ cat, database_kept w _ cat, rfl⟩

/-- The wire cannot tell a time after 2038 from the last second it has, and an owner
type of zero on the wire is gone after an alter that edits nothing. -/
theorem late_time_and_zero_owner_are_lost :
    let x := { tableFromThrift Wire.newTable with createTime := ⟨4102444800, 0⟩ }
    let w : Wire.Database := { ownerType := some 0 }
    timeFromUnix32 (tableToThriftFrom x none).createTime ≠ x.createTime ∧
      (databaseToThriftFrom (databaseFromThrift w none) none).ownerType ≠ w.ownerType := by
  decide

end HmsClient
