import HmsClient.ConvertProofs

/-! The create path as a codec. What a create sends and a later read returns is the value
that was given, in a normal form: no list or map is empty without being nil, the catalog
and a partition's table are the call's, an owner type is set, and times are the wire's. A
value in that form comes back as it is, and the snapshot a value carries is never sent. -/
namespace HmsClient

/-- Encoding and decoding a value yields its normal form, once and for all, and the
snapshot that a decoded value carries has no part in it. -/
structure NormalFormCodec {α ω ρ : Type} (encode : α → ω) (decode : ω → α)
    (setRaw : α → Option ρ → α) (normal : α → α) : Prop where
  decoded : ∀ x, setRaw (decode (encode x)) none = normal x
  idempotent : ∀ x, normal (normal x) = normal x
  settled : ∀ x, decode (encode (decode (encode x))) = decode (encode x)
  snapshotFree : ∀ x raw, encode (setRaw x raw) = encode x

/-- It is enough that a value and its normal form are encoded alike. -/
theorem NormalFormCodec.of_encode_normal {α ω ρ : Type} {encode : α → ω} {decode : ω → α}
    {setRaw : α → Option ρ → α} {normal : α → α}
    (decoded : ∀ x, setRaw (decode (encode x)) none = normal x)
    (snapshotFree : ∀ x raw, encode (setRaw x raw) = encode x)
    (encodeNormal : ∀ x, encode (normal x) = encode x) :
    NormalFormCodec encode decode setRaw normal where
  decoded := decoded
  idempotent x := by rw [← decoded (normal x), encodeNormal, decoded]
  settled x := by rw [← snapshotFree (decode (encode x)) none, decoded, encodeNormal]
  snapshotFree := snapshotFree

/-! ## Normal forms -/

/-- Whole seconds of the int32 range; the zero time and the epoch are both unset. -/
def Time.normal (t : Time) : Time :=
  if t.isZero then .zero
  else
    let seconds := max minInt32 (min maxInt32 t.unix)
    if seconds = 0 then .zero else ⟨seconds, 0⟩

def SkewedLocation.normal (l : SkewedLocation) : SkewedLocation := { l with values := l.values.tidy }

def SkewedInfo.normal (s : SkewedInfo) : SkewedInfo :=
  { columnNames := s.columnNames.tidy
    columnValues := s.columnValues.convert Slice.tidy
    columnValueLocations := s.columnValueLocations.convert SkewedLocation.normal }

def SerDeInfo.normal (s : SerDeInfo) : SerDeInfo := { s with parameters := s.parameters.tidy }

def StorageDescriptor.normal (sd : StorageDescriptor) : StorageDescriptor :=
  { sd with
    columns := sd.columns.tidy
    serDe := sd.serDe.map SerDeInfo.normal
    bucketColumns := sd.bucketColumns.tidy
    sortColumns := sd.sortColumns.tidy
    parameters := sd.parameters.tidy
    skewed := sd.skewed.map SkewedInfo.normal }

def Table.setRaw (t : Table) (raw : Option Wire.Table) : Table := { t with raw := raw }

def Table.normal (cat : Option Text) (t : Table) : Table :=
  { t with
    catalogName := cat.getD defaultCatalog
    ownerType := if t.ownerType = 0 then 1 else t.ownerType
    createTime := t.createTime.normal
    lastAccessTime := t.lastAccessTime.normal
    storage := t.storage.map StorageDescriptor.normal
    partitionKeys := t.partitionKeys.tidy
    parameters := t.parameters.tidy
    raw := none }

def Partition.setRaw (p : Partition) (raw : Option Wire.Partition) : Partition :=
  { p with raw := raw }

def Partition.normal (cat : Option Text) (dbName tableName : Text) (p : Partition) : Partition :=
  { catalogName := cat.getD defaultCatalog
    databaseName := dbName
    tableName := tableName
    values := p.values.tidy
    createTime := p.createTime.normal
    storage := p.storage.map StorageDescriptor.normal
    parameters := p.parameters.tidy
    raw := none }

def Database.setRaw (d : Database) (raw : Option Wire.Database) : Database := { d with raw := raw }

def Database.normal (cat : Option Text) (d : Database) : Database :=
  { d with
    catalogName := cat.getD defaultCatalog
    parameters := d.parameters.tidy
    createTime := .zero
    raw := none }

/-! ## Each converter and its inverse -/

private theorem convert_tidy (f : α → β) (s : Slice α) : s.tidy.convert f = s.convert f :=
  Slice.convert_convert f id s

private theorem isZero_iff (t : Time) : t.isZero = true ↔ t = .zero := by
  simp [Time.isZero]

private theorem clamp_toInt (t : Time) (set : t ≠ .zero) :
    (unix32FromTime t).toInt = max minInt32 (min maxInt32 t.unix) := by
  have unset : t.isZero = false := by simpa [Time.isZero] using set
  rw [unix32FromTime, unset, if_neg (by decide)]
  unfold maxInt32 minInt32
  split
  · rw [show (Int32.ofInt 2147483647).toInt = 2147483647 by decide]
    omega
  · split
    · rw [show (Int32.ofInt (-2147483648)).toInt = -2147483648 by decide]
      omega
    · rw [Int32.toInt_ofInt_of_le (by omega) (by omega)]
      omega

theorem timeFromUnix32_unix32FromTime (t : Time) :
    timeFromUnix32 (unix32FromTime t) = t.normal := by
  by_cases unset : t = .zero
  · subst unset
    decide
  · have seconds := clamp_toInt t unset
    have epoch : unix32FromTime t = 0 ↔ max minInt32 (min maxInt32 t.unix) = 0 := by
      rw [← Int32.toInt_inj, seconds, Int32.toInt_zero]
    rw [Time.normal, if_neg (by rwa [isZero_iff]), timeFromUnix32]
    simp only [epoch, seconds]

private theorem unix32FromTime_normal (t : Time) : unix32FromTime t.normal = unix32FromTime t := by
  rw [← timeFromUnix32_unix32FromTime, unix32_round_trip]

private theorem skewed_decoded (s : SkewedInfo) :
    skewedInfoFromThrift (skewedInfoToThrift s) = s.normal := by
  refine SkewedInfo.mk.injEq .. |>.mpr ⟨tidy_tidy _, ?_, ?_⟩
  · refine (Slice.convert_convert _ _ _).trans (Slice.convert_congr (fun values => ?_) _)
    exact tidy_tidy values
  · refine (Slice.convert_convert _ _ _).trans (Slice.convert_congr (fun l => ?_) _)
    exact SkewedLocation.mk.injEq .. |>.mpr ⟨tidy_tidy l.values, rfl⟩

private theorem skewed_encoded (s : SkewedInfo) :
    skewedInfoToThrift s.normal = skewedInfoToThrift s := by
  refine Wire.SkewedInfo.mk.injEq .. |>.mpr ⟨convert_tidy id _, ?_, ?_⟩
  · refine (Slice.convert_convert _ _ _).trans (Slice.convert_congr (fun values => ?_) _)
    exact convert_tidy id values
  · refine (Slice.convert_convert _ _ _).trans (Slice.convert_congr (fun l => ?_) _)
    exact Wire.MapEntry.mk.injEq .. |>.mpr ⟨convert_tidy id l.values, rfl⟩

private theorem serDe_decoded (s : SerDeInfo) (base : Option Wire.SerDeInfo) :
    serDeFromThrift (serDeToThrift s base) = s.normal :=
  SerDeInfo.mk.injEq .. |>.mpr ⟨rfl, rfl, tidy_tidy s.parameters⟩

private theorem serDe_encoded (s : SerDeInfo) (base : Option Wire.SerDeInfo) :
    serDeToThrift s.normal base = serDeToThrift s base := by
  unfold serDeToThrift
  rw [show copyStringMap s.normal.parameters = copyStringMap s.parameters from convert_tidy id _]
  rfl

private theorem map_map_eq {f : α → β} {g : β → γ} {h : α → γ} (same : ∀ a, g (f a) = h a)
    (o : Option α) : (o.map f).map g = o.map h := by
  cases o with
  | none => rfl
  | some a => exact congrArg some (same a)

theorem storage_decoded (sd : StorageDescriptor) (base : Option Wire.StorageDescriptor) :
    storageFromThrift (storageToThrift sd base) = sd.normal := by
  refine StorageDescriptor.mk.injEq .. |>.mpr ⟨?_, rfl, rfl, rfl, rfl, rfl, ?_, tidy_tidy _, ?_,
    tidy_tidy _, ?_, map_map_eq skewed_decoded sd.skewed⟩
  · exact Slice.convert_convert fieldSchemaFromThrift fieldSchemaToThrift sd.columns
  · exact map_map_eq (fun s => serDe_decoded s _) sd.serDe
  · exact Slice.convert_convert orderFromThrift orderToThrift sd.sortColumns
  · simp only [storageToThrift]
    cases sd.storedAsSubDirectories <;> rfl

private theorem storage_encoded (sd : StorageDescriptor) (base : Option Wire.StorageDescriptor) :
    storageToThrift sd.normal base = storageToThrift sd base := by
  refine Wire.StorageDescriptor.mk.injEq .. |>.mpr ⟨convert_tidy _ _, rfl, rfl, rfl, rfl, rfl, ?_,
    convert_tidy _ _, convert_tidy _ _, convert_tidy _ _, ?_, rfl⟩
  · exact map_map_eq (fun s => serDe_encoded s _) sd.serDe
  · exact map_map_eq skewed_encoded sd.skewed

private theorem storages_encoded (o : Option StorageDescriptor)
    (base : Option Wire.StorageDescriptor) :
    (o.map StorageDescriptor.normal).map (storageToThrift · base) = o.map (storageToThrift · base) :=
  map_map_eq (fun sd => storage_encoded sd base) o

private theorem fields_encoded (fs : Slice FieldSchema) :
    fieldSchemasToThrift fs.tidy = fieldSchemasToThrift fs :=
  convert_tidy fieldSchemaToThrift fs

private theorem stringMap_encoded (m : StringMap) : copyStringMap m.tidy = copyStringMap m :=
  convert_tidy id m

private theorem strings_encoded (s : Slice Text) : copyStrings s.tidy = copyStrings s :=
  convert_tidy id s

private theorem deref_nonempty (text : Text) :
    deref (if text ≠ [] then some text else none) = text := by
  by_cases empty : text = [] <;> simp [deref, empty]

/-! ## The four codecs -/

theorem table_codec (cat : Option Text) :
    NormalFormCodec (tableToThrift · cat) tableFromThrift Table.setRaw (Table.normal cat) := by
  apply NormalFormCodec.of_encode_normal
  · intro t
    refine Table.mk.injEq .. |>.mpr ⟨rfl, rfl, rfl, rfl, ite_not .., timeFromUnix32_unix32FromTime _,
      timeFromUnix32_unix32FromTime _, rfl, ?_, ?_, tidy_tidy _, rfl, rfl, rfl, rfl⟩
    · exact map_map_eq (fun sd => storage_decoded sd _) t.storage
    · exact Slice.convert_convert fieldSchemaFromThrift fieldSchemaToThrift t.partitionKeys
  · intro t raw
    rfl
  · intro t
    simp only [tableToThrift, fillTable, Table.normal, unix32FromTime_normal, storages_encoded,
      fields_encoded, stringMap_encoded]
    congr 1
    by_cases unset : t.ownerType = 0 <;> simp [unset]

private theorem partition_codec (cat : Option Text) (dbName tableName : Text) :
    NormalFormCodec (partitionToThrift · cat dbName tableName) partitionFromThrift Partition.setRaw
      (Partition.normal cat dbName tableName) := by
  apply NormalFormCodec.of_encode_normal
  · intro p
    refine Partition.mk.injEq .. |>.mpr ⟨rfl, rfl, rfl, tidy_tidy _,
      timeFromUnix32_unix32FromTime _, ?_, tidy_tidy _, rfl⟩
    exact map_map_eq (fun sd => storage_decoded sd _) p.storage
  · intro p raw
    rfl
  · intro p
    simp only [partitionToThrift, fillPartition, Partition.normal, unix32FromTime_normal,
      storages_encoded, strings_encoded, stringMap_encoded]

private theorem database_codec (cat : Option Text) :
    NormalFormCodec (databaseToThrift · cat) (databaseFromThrift · cat) Database.setRaw
      (Database.normal cat) := by
  apply NormalFormCodec.of_encode_normal
  · intro d
    refine Database.mk.injEq .. |>.mpr ⟨?_, rfl, rfl, rfl, tidy_tidy _, deref_nonempty _, ?_, rfl,
      rfl⟩
    · cases cat <;> rfl
    · simp only [databaseToThrift, fillDatabase, databaseFromThrift]
      by_cases unset : d.ownerType = 0 <;> simp [unset]
  · intro d raw
    rfl
  · intro d
    simp only [databaseToThrift, fillDatabase, Database.normal, stringMap_encoded]
    rfl

/-- The create path is a codec with a normal form for tables, partitions and databases,
and exact for catalogs. A nil among the columns, keys or sort orders stays one. -/
theorem create_path_is_normal_form_codec (cat : Option Text) (dbName tableName : Text) :
    NormalFormCodec (tableToThrift · cat) tableFromThrift Table.setRaw (Table.normal cat) ∧
      NormalFormCodec (partitionToThrift · cat dbName tableName) partitionFromThrift
        Partition.setRaw (Partition.normal cat dbName tableName) ∧
      NormalFormCodec (databaseToThrift · cat) (databaseFromThrift · cat) Database.setRaw
        (Database.normal cat) ∧
      (∀ c, catalogFromThrift (catalogToThrift c) = c) ∧
      (∀ fs : Slice (Option FieldSchema),
        (fs.convert (Option.map fieldSchemaToThrift)).convert (Option.map fieldSchemaFromThrift) =
          fs.tidy) ∧
      ∀ os : Slice (Option Order),
        (os.convert (Option.map orderToThrift)).convert (Option.map orderFromThrift) =
          os.tidy := by
  refine ⟨table_codec cat, partition_codec cat dbName tableName, database_codec cat, ?_, ?_, ?_⟩
  · intro c
    exact Catalog.mk.injEq .. |>.mpr ⟨rfl, deref_nonempty _, rfl⟩
  · intro fs
    refine (Slice.convert_convert _ _ _).trans (Slice.convert_congr (fun f => ?_) _)
    cases f <;> rfl
  · intro os
    refine (Slice.convert_convert _ _ _).trans (Slice.convert_congr (fun o => ?_) _)
    cases o <;> rfl

end HmsClient
