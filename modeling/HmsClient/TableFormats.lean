import HmsClient.CreateCodec
import HmsClient.NetUrl

/-! How an Iceberg table is registered, and how its parameters are moved on to new metadata. A
Go map is the slice of its entries, and assigning to a key keeps the place of an entry that is
there. -/
namespace HmsClient
open NetUrl (lit)

/-! ## Maps -/

/-- `m[key]`. -/
def StringMap.lookup (m : StringMap) (key : Text) : Option Text := m.items.lookup key

/-- `m[key] = value`. -/
def StringMap.assign (m : StringMap) (key value : Text) : StringMap :=
  some (if m.items.any (·.1 == key) then
      m.items.map fun entry => if entry.1 == key then (key, value) else entry
    else m.items ++ [(key, value)])

private theorem lookup_replaced (entries : List (Text × Text)) (key value : Text)
    (there : entries.any (·.1 == key) = true) :
    (entries.map fun entry => if entry.1 == key then (key, value) else entry).lookup key =
      some value := by
  induction entries with
  | nil => cases there
  | cons entry rest ih =>
    rw [List.map_cons]
    by_cases here : entry.1 == key
    · rw [if_pos here, List.lookup_cons_self]
    · have later : rest.any (·.1 == key) = true := by simpa [here] using there
      have other : (key == entry.1) = false := by
        rw [Bool.eq_false_iff]
        intro same
        exact here (by rw [beq_iff_eq] at same ⊢; exact same.symm)
      rw [if_neg here, List.lookup_cons, other]
      exact ih later

private theorem lookup_replaced_ne (entries : List (Text × Text)) {key other : Text} (value : Text)
    (differs : other ≠ key) :
    (entries.map fun entry => if entry.1 == key then (key, value) else entry).lookup other =
      entries.lookup other := by
  induction entries with
  | nil => rfl
  | cons entry rest ih =>
    obtain ⟨k, v⟩ := entry
    rw [List.map_cons, List.lookup_cons]
    by_cases here : k == key
    · have passed : (other == k) = false := by
        rw [beq_eq_false_iff_ne, beq_iff_eq.mp here]
        exact differs
      rw [if_pos here, List.lookup_cons, passed, beq_eq_false_iff_ne.mpr differs]
      exact ih
    · rw [if_neg here, List.lookup_cons, ih]

@[simp] theorem StringMap.lookup_assign (m : StringMap) (key value : Text) :
    (m.assign key value).lookup key = some value := by
  unfold StringMap.assign StringMap.lookup
  split
  · next there => exact lookup_replaced _ _ _ there
  · next missing =>
    have none : m.items.lookup key = none := by
      rw [List.lookup_eq_none_iff]
      intro entry listed
      simp only [List.any_eq_true, not_exists, not_and] at missing
      have other := missing entry listed
      rw [beq_iff_eq] at other
      simpa using Ne.symm other
    rw [Slice.items_some, List.lookup_append, none, List.lookup_cons_self]
    rfl

@[simp] theorem StringMap.lookup_assign_ne (m : StringMap) {key other : Text} (value : Text)
    (differs : other ≠ key) : (m.assign key value).lookup other = m.lookup other := by
  unfold StringMap.assign StringMap.lookup
  split
  · exact lookup_replaced_ne _ _ differs
  · rw [Slice.items_some, List.lookup_append, List.lookup_cons, beq_eq_false_iff_ne.mpr differs]
    exact Option.or_none

@[simp] theorem StringMap.lookup_tidy (m : StringMap) (key : Text) :
    StringMap.lookup m.tidy key = m.lookup key := by
  rw [StringMap.lookup, StringMap.lookup, Slice.tidy, Slice.items_convert, List.map_id]

/-! ## Class names and parameters -/

def icebergStorageHandler : Text := lit "org.apache.iceberg.mr.hive.HiveIcebergStorageHandler"
def icebergSerDe : Text := lit "org.apache.iceberg.mr.hive.HiveIcebergSerDe"
def icebergInputFormat : Text := lit "org.apache.iceberg.mr.hive.HiveIcebergInputFormat"
def icebergOutputFormat : Text := lit "org.apache.iceberg.mr.hive.HiveIcebergOutputFormat"
def paramMetadataLocation : Text := lit "metadata_location"
def paramPreviousMetadataLocation : Text := lit "previous_metadata_location"
def paramTableType : Text := lit "table_type"
def paramStorageHandler : Text := lit "storage_handler"
def paramIcebergCatalog : Text := lit "iceberg.catalog"
def paramExternal : Text := lit "EXTERNAL"
def tableTypeExternal : Text := lit "EXTERNAL_TABLE"

/-! ## Iceberg -/

def newIcebergTable (dbName tableName location metadataLocation : Text)
    (cols : Slice FieldSchema) : Table :=
  { databaseName := dbName
    tableName := tableName
    tableType := tableTypeExternal
    partitionKeys := some []
    storage := some
      { location := location
        columns := cols
        inputFormat := icebergInputFormat
        outputFormat := icebergOutputFormat
        serDe := some { serializationLib := icebergSerDe, parameters := some [] }
        parameters := some [] }
    parameters := some
      [(paramStorageHandler, icebergStorageHandler), (paramTableType, lit "ICEBERG"),
        (paramMetadataLocation, metadataLocation), (paramExternal, lit "TRUE"),
        (paramIcebergCatalog, lit "location_based_table")] }

/-- The table as it is left: the caller's own one is changed. -/
def setIcebergMetadataLocation (t : Table) (newLocation : Text) : Table :=
  let parameters : StringMap := if t.parameters = none then some [] else t.parameters
  let parameters :=
    match parameters.lookup paramMetadataLocation with
    | some current => parameters.assign paramPreviousMetadataLocation current
    | none => parameters
  { t with parameters := parameters.assign paramMetadataLocation newLocation }

/-- The parameters that `setIcebergMetadataLocation` leaves. -/
theorem lookup_setIcebergMetadataLocation (t : Table) (newLocation : Text) {current : Text}
    (had : t.parameters.lookup paramMetadataLocation = some current) :
    let moved := (setIcebergMetadataLocation t newLocation).parameters
    moved.lookup paramMetadataLocation = some newLocation ∧
      moved.lookup paramPreviousMetadataLocation = some current ∧
      ∀ key, key ≠ paramMetadataLocation → key ≠ paramPreviousMetadataLocation →
        moved.lookup key = t.parameters.lookup key := by
  have filled : t.parameters ≠ none := by
    intro nil
    rw [nil] at had
    cases had
  have differs : paramPreviousMetadataLocation ≠ paramMetadataLocation := by decide
  simp only [setIcebergMetadataLocation, if_neg filled, had]
  refine ⟨StringMap.lookup_assign .., ?_, fun key other other' => ?_⟩
  · rw [StringMap.lookup_assign_ne _ _ differs, StringMap.lookup_assign]
  · rw [StringMap.lookup_assign_ne _ _ other, StringMap.lookup_assign_ne _ _ other']

end HmsClient
