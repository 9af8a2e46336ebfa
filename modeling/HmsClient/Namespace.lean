import HmsClient.FakeMetastore
import HmsClient.KeyedMap

/-! What the databases and tables of the fake metastore are: a namespace, in which a name
stands for at most one object. The store keeps them in maps under texts that are joined from
names with dots, and finds the tables of a database by how their keys start. As long as no
name has a dot of its own, every request does to the store what it says about the
namespace, and is answered as the namespace tells. -/
namespace HmsClient.Hmstest
open KeyedMap

/-! ## Names -/

/-- A name without a dot. -/
structure PlainName where
  text : Text
  undotted : 46 ∉ text
  deriving DecidableEq

def PlainName.of (text : Text) : Option PlainName :=
  if undotted : 46 ∉ text then some ⟨text, undotted⟩ else none

structure DatabaseId where
  catalog : PlainName
  name : PlainName
  deriving DecidableEq

structure TableId where
  database : DatabaseId
  name : PlainName
  deriving DecidableEq

def DatabaseId.of (catName name : Text) : Option DatabaseId := do
  let catalog ← PlainName.of catName
  let name ← PlainName.of name
  pure ⟨catalog, name⟩

def TableId.of (catName db name : Text) : Option TableId := do
  let database ← DatabaseId.of catName db
  let name ← PlainName.of name
  pure ⟨database, name⟩

def DatabaseId.key (id : DatabaseId) : Text := dbKey id.catalog.text id.name.text

def TableId.key (id : TableId) : Text :=
  tblKey id.database.catalog.text id.database.name.text id.name.text

variable {a b : PlainName} {catName name db : Text}

@[simp] theorem PlainName.text_inj : a.text = b.text ↔ a = b := by
  cases a
  cases b
  simp

theorem PlainName.text_of {text : Text} {name : PlainName}
    (plain : PlainName.of text = some name) : name.text = text := by
  rw [PlainName.of] at plain
  split at plain
  · cases plain
    rfl
  · cases plain

theorem DatabaseId.key_of {id : DatabaseId} (plain : DatabaseId.of catName name = some id) :
    dbKey catName name = id.key := by
  simp only [DatabaseId.of, bind, Option.bind_eq_some_iff, pure, Option.some.injEq] at plain
  obtain ⟨catalog, plainCatalog, name, plainName, rfl⟩ := plain
  simp only [DatabaseId.key, PlainName.text_of plainCatalog, PlainName.text_of plainName]

theorem DatabaseId.name_of {id : DatabaseId} (plain : DatabaseId.of catName name = some id) :
    id.name.text = name := by
  simp only [DatabaseId.of, bind, Option.bind_eq_some_iff, pure, Option.some.injEq] at plain
  obtain ⟨catalog, -, name, plainName, rfl⟩ := plain
  exact PlainName.text_of plainName

theorem TableId.key_of {id : TableId} (plain : TableId.of catName db name = some id) :
    tblKey catName db name = id.key := by
  simp only [TableId.of, bind, Option.bind_eq_some_iff, pure, Option.some.injEq] at plain
  obtain ⟨database, plainDatabase, name, plainName, rfl⟩ := plain
  have front : dbKey catName db = database.key := DatabaseId.key_of plainDatabase
  rw [TableId.key, ← PlainName.text_of plainName]
  exact congrArg (· ++ 46 :: name.text) front

theorem TableId.name_of {id : TableId} (plain : TableId.of catName db name = some id) :
    id.name.text = name := by
  simp only [TableId.of, bind, Option.bind_eq_some_iff, pure, Option.some.injEq] at plain
  obtain ⟨database, -, name, plainName, rfl⟩ := plain
  exact PlainName.text_of plainName

theorem TableId.of_renamed {newName : Text} {id : TableId} {new : PlainName}
    (plain : TableId.of catName db name = some id) (newPlain : PlainName.of newName = some new) :
    TableId.of catName db newName = some ⟨id.database, new⟩ := by
  simp only [TableId.of, bind, Option.bind_eq_some_iff, pure, Option.some.injEq] at plain
  obtain ⟨database, plainDatabase, name, -, rfl⟩ := plain
  simp only [TableId.of, plainDatabase, newPlain, bind, Option.bind_some, pure]

/-- Two texts that end differently behind their first dots. -/
private theorem not_longer (longer : b.text = a.text ++ x :: c) : 46 :: r ≠ x :: c ++ 46 :: s := by
  intro same
  rw [List.cons_append, List.cons.injEq] at same
  refine b.undotted ?_
  rw [longer, ← same.1]
  exact List.mem_append_right _ (.head _)

/-- What is before the first dot, and what is behind it. -/
private theorem cut_inj : a.text ++ 46 :: r = b.text ++ 46 :: s ↔ a = b ∧ r = s := by
  refine ⟨fun same => ?_, fun ⟨left, right⟩ => by rw [left, right]⟩
  rcases List.append_eq_append_iff.mp same with ⟨c, longer, rest⟩ | ⟨c, longer, rest⟩
  · cases c with
    | nil => simp_all
    | cons x c => exact absurd rest (not_longer longer)
  · cases c with
    | nil => simp_all
    | cons x c => exact absurd rest (not_longer longer)

theorem DatabaseId.key_injective : DatabaseId.key.Injective := by
  intro a b same
  obtain ⟨catalogs, names⟩ := cut_inj.mp same
  cases a
  cases b
  simp_all

private theorem TableId.key_eq (id : TableId) :
    id.key = id.database.catalog.text ++ 46 :: (id.database.name.text ++ 46 :: id.name.text) := by
  simp [TableId.key, tblKey]

theorem TableId.key_injective : TableId.key.Injective := by
  intro a b same
  rw [TableId.key_eq, TableId.key_eq] at same
  obtain ⟨catalogs, rest⟩ := cut_inj.mp same
  obtain ⟨databases, names⟩ := cut_inj.mp rest
  obtain ⟨⟨_, _⟩, _⟩ := a
  obtain ⟨⟨_, _⟩, _⟩ := b
  simp_all

/-- The databases of a catalog, by their keys. -/
theorem catalog_of_key (catalog : PlainName) (id : DatabaseId) :
    (catalog.text ++ [46]).isPrefixOf id.key = true ↔ id.catalog = catalog := by
  rw [List.isPrefixOf_iff_prefix]
  constructor
  · rintro ⟨rest, same⟩
    rw [List.append_assoc, List.singleton_append] at same
    exact (cut_inj.mp same).1.symm
  · rintro rfl
    exact ⟨id.name.text, by simp [DatabaseId.key, dbKey]⟩

/-- The tables of a database, by their keys. -/
theorem database_of_key (database : DatabaseId) (id : TableId) :
    (database.key ++ [46]).isPrefixOf id.key = true ↔ id.database = database := by
  rw [List.isPrefixOf_iff_prefix]
  constructor
  · rintro ⟨rest, same⟩
    have front : database.catalog.text ++ 46 :: (database.name.text ++ 46 :: rest) = id.key := by
      rw [← same]
      simp [DatabaseId.key, dbKey]
    rw [TableId.key_eq] at front
    obtain ⟨catalogs, rest⟩ := cut_inj.mp front
    obtain ⟨names, -⟩ := cut_inj.mp rest
    obtain ⟨⟨_, _⟩, _⟩ := id
    cases database
    simp_all
  · rintro rfl
    exact ⟨id.name.text, by simp [DatabaseId.key, dbKey, TableId.key_eq]⟩

/-! ## The namespace -/

/-- At most one object under each name. -/
structure Namespace where
  catalogs : Text → Option Wire.Catalog
  databases : DatabaseId → Option Wire.Database
  tables : TableId → Option Wire.Table

/-- Catalogs without a database or a table. -/
def Namespace.empty (catalogs : AList fun _ : Text => Wire.Catalog) : Namespace where
  catalogs name := catalogs.lookup name
  databases _ := none
  tables _ := none

/-- What a request wants of the namespace. One that is about something else, or that is
refused whatever there is, wants nothing. -/
inductive Change where
  | createCatalog (catalog : Wire.Catalog)
  | dropCatalog (name : Text)
  | createDatabase (id : DatabaseId) (db : Wire.Database)
  | alterDatabase (id : DatabaseId) (db : Wire.Database)
  | dropDatabase (id : DatabaseId) (cascade : Bool)
  | createTable (id : TableId) (tbl : Wire.Table)
  | alterTable (id : TableId) (newName : PlainName) (tbl : Wire.Table)
  | dropTable (id : TableId)
  | refused (err : Exception)
  | elsewhere

/-- The answer, if the namespace decides it, and the namespace afterwards. -/
abbrev Told := Option (Except Exception Unit) × Namespace

/-- A change that one check stands before. -/
def Namespace.unless (ns : Namespace) (fails : Prop) [Decidable fails] (err : Exception)
    (ns' : Namespace) : Told :=
  if fails then (some (.error err), ns) else (some (.ok ()), ns')

open Classical in
/-- What a change does. The database of a table is asked for nowhere. -/
noncomputable def Namespace.apply (v : Version) (ns : Namespace) : Change → Told
  | .createCatalog catalog =>
    ns.unless (ns.catalogs catalog.name).isSome .alreadyExists
      { ns with catalogs := Function.update ns.catalogs catalog.name (some catalog) }
  | .dropCatalog name =>
    ns.unless (ns.catalogs name).isNone .noSuchObject
      { ns with catalogs := Function.update ns.catalogs name none }
  | .createDatabase id db =>
    ns.unless (ns.databases id).isSome .alreadyExists
      { ns with databases := Function.update ns.databases id (some db) }
  | .alterDatabase id db =>
    ns.unless (ns.databases id).isNone .noSuchObject
      { ns with databases := Function.update ns.databases id (some db) }
  | .dropDatabase id cascade =>
    if (ns.databases id).isNone then
      (some (.error (if v = .hive31 then .metaException else .noSuchObject)), ns)
    else
      ns.unless ((∃ t : TableId, t.database = id ∧ (ns.tables t).isSome) ∧ cascade = false)
        .invalidOperation
        { ns with
          databases := Function.update ns.databases id none
          tables := fun t => if t.database = id then none else ns.tables t }
  | .createTable id tbl =>
    ns.unless (ns.tables id).isSome .alreadyExists
      { ns with tables := Function.update ns.tables id (some tbl) }
  | .alterTable id newName tbl =>
    ns.unless (ns.tables id).isNone .metaException
      { ns with
        tables :=
          Function.update (Function.update ns.tables id none) ⟨id.database, newName⟩ (some tbl) }
  | .dropTable id =>
    ns.unless (ns.tables id).isNone .noSuchObject
      { ns with tables := Function.update ns.tables id none }
  | .refused err => (some (.error err), ns)
  | .elsewhere => (none, ns)

/-- What a request wants, unless a name in it has a dot. -/
def WriteRpc.change (e : Emulation) (clock : Nat → Int32) : WriteRpc → Option Change
  | .createCatalog catalog =>
    some (.createCatalog (if catalog.createTime.getD 0 = 0 then
      { catalog with createTime := some (clock 0) } else catalog))
  | .dropCatalog name => some (.dropCatalog name)
  | .createDatabase db =>
    if db.locationUri = [] then some (.refused .metaException)
    else
      match resolveDB e.v db.name with
      | .error err => some (.refused err.kind)
      | .ok (catName, name) =>
        (DatabaseId.of (if db.catalogName.getD [] ≠ [] then db.catalogName.getD [] else catName)
          name).map fun id => .createDatabase id { db with
            name := name
            createTime := if db.createTime.getD 0 = 0 then some (clock 0) else db.createTime }
  | .alterDatabase name db =>
    match resolveDB e.v name with
    | .error err => some (.refused err.kind)
    | .ok (catName, name) =>
      (DatabaseId.of catName name).map fun id => .alterDatabase id { db with name := name }
  | .dropDatabase name _ cascade =>
    match resolveDB e.v name with
    | .error err => some (.refused err.kind)
    | .ok (catName, name) => (DatabaseId.of catName name).map fun id => .dropDatabase id cascade
  | .createTable tbl =>
    match cat e.v tbl.catName with
    | .error err => some (.refused err.kind)
    | .ok catName =>
      (TableId.of catName tbl.dbName tbl.tableName).map fun id =>
        .createTable id (if tbl.createTime = 0 then { tbl with createTime := clock 0 } else tbl)
  | .alterTable dbName tblName newTbl =>
    match resolveDB e.v dbName with
    | .error err => some (.refused err.kind)
    | .ok (catName, db) =>
      (TableId.of catName db tblName).bind fun id =>
        (PlainName.of newTbl.tableName).map fun newName => .alterTable id newName newTbl
  | .dropTable dbName name _ =>
    match resolveDB e.v dbName with
    | .error err => some (.refused err.kind)
    | .ok (catName, db) => (TableId.of catName db name).map .dropTable
  | _ => some .elsewhere

@[inherit_doc WriteRpc.change]
def Request.change (e : Emulation) (request : Request) : Option Change :=
  match request.rpc with
  | .inl _ => some .elsewhere
  | .inr rpc => rpc.change e request.clock

/-! ## One request -/

/-- The store is a way to keep the namespace. -/
structure Represents (m : Metastore) (ns : Namespace) : Prop where
  catalogs : Holds id m.catalogs ns.catalogs
  databases : Holds DatabaseId.key m.databases ns.databases
  tables : Holds TableId.key m.tables ns.tables
  databaseNames : ∀ id db, ns.databases id = some db → db.name = id.name.text
  tableNames : ∀ id tbl, ns.tables id = some tbl → tbl.tableName = id.name.text

theorem represents_empty {m : Metastore} (noDatabases : m.databases = ∅)
    (noTables : m.tables = ∅) : Represents m (.empty m.catalogs) where
  catalogs := ⟨fun _ => rfl, fun k _ => ⟨k, rfl⟩⟩
  databases := by
    rw [noDatabases]
    exact holds_empty _
  tables := by
    rw [noTables]
    exact holds_empty _
  databaseNames _ _ found := nomatch found
  tableNames _ _ found := nomatch found

/-- A handler does what it is told: it answers so, where that is decided, and leaves so. The
texts of exceptions are its own. -/
structure Refines (answered : Answered) (told : Told) : Prop where
  answer : ∀ outcome ∈ told.1, answered.1.mapError Thrown.kind = outcome
  left : Represents answered.2 told.2

section Requests
variable {e : Emulation} {clock : Nat → Int32} {m m' : Metastore} {ns ns' : Namespace}

private theorem refines_failed (represents : Represents m ns) (err : Thrown) :
    Refines (.error err, m) (some (.error err.kind), ns) :=
  ⟨fun _ told => Option.some.inj told, represents⟩

private theorem refines_unless (represents : Represents m ns) {fails told : Prop} [Decidable fails]
    [Decidable told] {err : Thrown} (same : fails ↔ told)
    (done : Represents m' ns') :
    Refines (if fails then (.error err, m) else (.ok (), m')) (ns.unless told err.kind ns') := by
  rw [Namespace.unless]
  by_cases check : fails
  · rw [if_pos check, if_pos (same.mp check)]
    exact refines_failed represents err
  · rw [if_neg check, if_neg fun isTold => check (same.mpr isTold)]
    exact ⟨fun _ told => Option.some.inj told, done⟩

variable {ι β : Type} {contents : ι → Option β} {label : β → Text} {labelled : ι → Text}
  {change : Change}

/-- The object under a name has that name, also when one name has changed. -/
private theorem named_insert [DecidableEq ι]
    (named : ∀ id value, contents id = some value → label value = labelled id) {id : ι}
    (fits : label new = labelled id) :
    ∀ other value, Function.update contents id (some new) other = some value →
      label value = labelled other := by
  intro other value found
  by_cases same : other = id
  · rw [same, Function.update_self] at found
    rw [same, ← Option.some.inj found]
    exact fits
  · rw [Function.update_of_ne same] at found
    exact named other value found

private theorem named_erase [DecidableEq ι]
    (named : ∀ id value, contents id = some value → label value = labelled id) (id : ι) :
    ∀ other value, Function.update contents id none other = some value →
      label value = labelled other := by
  intro other value found
  by_cases same : other = id
  · rw [same, Function.update_self] at found
    cases found
  · rw [Function.update_of_ne same] at found
    exact named other value found

private theorem named_unless {gone : ι → Prop} [DecidablePred gone]
    (named : ∀ id value, contents id = some value → label value = labelled id) :
    ∀ id value, (if gone id then none else contents id) = some value →
      label value = labelled id := by
  intro id value found
  split at found
  · cases found
  · exact named id value found

private theorem createCatalog_refines (represents : Represents m ns) (catalog : Wire.Catalog)
    (plain : (WriteRpc.createCatalog catalog).change e clock = some change) :
    Refines (createCatalog clock m catalog) (ns.apply e.v change) := by
  cases plain
  have done : ∀ stored : Wire.Catalog, stored.name = catalog.name →
      Refines
        (if (m.catalogs.lookup catalog.name).isSome then
          (.error ⟨.alreadyExists, text "catalog " ++ catalog.name ++ text " already exists"⟩, m)
        else (.ok (), { m with catalogs := m.catalogs.insert catalog.name stored }))
        (ns.apply e.v (.createCatalog stored)) := by
    intro stored same
    rw [← same]
    have found : m.catalogs.lookup stored.name = ns.catalogs stored.name :=
      represents.catalogs.lookup stored.name
    exact refines_unless represents (by rw [found])
      ⟨represents.catalogs.insert Function.injective_id stored.name stored, represents.databases,
        represents.tables, represents.databaseNames, represents.tableNames⟩
  apply done
  split
  · rfl
  · rfl

private theorem dropCatalog_refines (represents : Represents m ns) (name : Text) :
    Refines (dropCatalog m name) (ns.apply e.v (.dropCatalog name)) := by
  have found : m.catalogs.lookup name = ns.catalogs name := represents.catalogs.lookup name
  rw [dropCatalog]
  exact refines_unless represents (by rw [found])
    ⟨represents.catalogs.erase Function.injective_id name, represents.databases,
      represents.tables, represents.databaseNames, represents.tableNames⟩

private theorem createDatabase_refines (represents : Represents m ns) (db : Wire.Database)
    (plain : (WriteRpc.createDatabase db).change e clock = some change) :
    Refines (createDatabase e clock m db) (ns.apply e.v change) := by
  rw [WriteRpc.change] at plain
  rw [createDatabase]
  by_cases homeless : db.locationUri = []
  · rw [if_pos homeless] at plain ⊢
    cases plain
    exact refines_failed represents _
  · rw [if_neg homeless] at plain ⊢
    cases resolved : resolveDB e.v db.name with
    | error err =>
      rw [resolved] at plain
      cases plain
      exact refines_failed represents err
    | ok names =>
      obtain ⟨catName, name⟩ := names
      rw [resolved] at plain
      obtain ⟨id, isPlain, rfl⟩ := Option.map_eq_some_iff.mp plain
      dsimp only
      rw [DatabaseId.key_of isPlain]
      refine refines_unless represents (by rw [represents.databases.lookup])
        ⟨represents.catalogs, represents.databases.insert DatabaseId.key_injective id _,
          represents.tables, named_insert represents.databaseNames ?_, represents.tableNames⟩
      exact (DatabaseId.name_of isPlain).symm

private theorem alterDatabase_refines (represents : Represents m ns) (name : Text)
    (db : Wire.Database) (plain : (WriteRpc.alterDatabase name db).change e clock = some change) :
    Refines (alterDatabase e m name db) (ns.apply e.v change) := by
  rw [WriteRpc.change] at plain
  rw [alterDatabase]
  cases resolved : resolveDB e.v name with
  | error err =>
    rw [resolved] at plain
    cases plain
    exact refines_failed represents err
  | ok names =>
    obtain ⟨catName, name⟩ := names
    rw [resolved] at plain
    obtain ⟨id, isPlain, rfl⟩ := Option.map_eq_some_iff.mp plain
    dsimp only
    rw [DatabaseId.key_of isPlain]
    refine refines_unless represents (by rw [represents.databases.lookup])
      ⟨represents.catalogs, represents.databases.insert DatabaseId.key_injective id _,
        represents.tables, named_insert represents.databaseNames ?_, represents.tableNames⟩
    exact (DatabaseId.name_of isPlain).symm

/-- The keys that the cascade goes through. -/
private theorem mem_tableKeysOf (represents : Represents m ns) {id : DatabaseId}
    (plain : DatabaseId.of catName name = some id) (t : TableId) :
    t.key ∈ tableKeysOf m catName name ↔ t.database = id ∧ (ns.tables t).isSome := by
  rw [tableKeysOf, List.mem_filter, DatabaseId.key_of plain, ← AList.mem_keys,
    represents.tables.mem_iff, database_of_key, and_comm]

private theorem tableKeysOf_ne_nil (represents : Represents m ns) {id : DatabaseId}
    (plain : DatabaseId.of catName name = some id) :
    tableKeysOf m catName name ≠ [] ↔ ∃ t : TableId, t.database = id ∧ (ns.tables t).isSome := by
  constructor
  · intro some
    obtain ⟨key, inKeys⟩ := List.exists_mem_of_ne_nil _ some
    have inTables : key ∈ m.tables := AList.mem_keys.mpr (List.mem_filter.mp inKeys).1
    obtain ⟨t, rfl⟩ := represents.tables.keyed key inTables
    exact ⟨t, (mem_tableKeysOf represents plain t).mp inKeys⟩
  · rintro ⟨t, inside⟩
    exact List.ne_nil_of_mem ((mem_tableKeysOf represents plain t).mpr inside)

private theorem dropDatabase_refines (represents : Represents m ns) (name : Text)
    (deleteData cascade : Bool)
    (plain : (WriteRpc.dropDatabase name deleteData cascade).change e clock = some change) :
    Refines (dropDatabase e clock m name cascade) (ns.apply e.v change) := by
  classical
  rw [WriteRpc.change] at plain
  rw [dropDatabase]
  cases resolved : resolveDB e.v name with
  | error err =>
    rw [resolved] at plain
    cases plain
    exact refines_failed represents err
  | ok names =>
    obtain ⟨catName, name⟩ := names
    rw [resolved] at plain
    obtain ⟨id, isPlain, rfl⟩ := Option.map_eq_some_iff.mp plain
    dsimp only [Namespace.apply]
    rw [DatabaseId.key_of isPlain, represents.databases.lookup]
    split
    · by_cases accident : e.v = .hive31
      · rw [if_pos accident, if_pos accident]
        exact refines_failed represents _
      · rw [if_neg accident, if_neg accident]
        exact refines_failed represents _
    · refine refines_unless represents (by rw [tableKeysOf_ne_nil represents isPlain])
        ⟨represents.catalogs, represents.databases.erase DatabaseId.key_injective id,
          represents.tables.erase_all fun t inside => ?_,
          named_erase represents.databaseNames id, named_unless represents.tableNames⟩
      rw [mem_tableKeysOf represents isPlain, ← represents.tables.mem_iff]
      exact and_iff_left inside

private theorem createTable_refines (represents : Represents m ns) (tbl : Wire.Table)
    (plain : (WriteRpc.createTable tbl).change e clock = some change) :
    Refines (createTable e clock m tbl) (ns.apply e.v change) := by
  rw [WriteRpc.change] at plain
  rw [createTable]
  cases resolved : cat e.v tbl.catName with
  | error err =>
    rw [resolved] at plain
    cases plain
    exact refines_failed represents err
  | ok catName =>
    rw [resolved] at plain
    obtain ⟨id, isPlain, rfl⟩ := Option.map_eq_some_iff.mp plain
    dsimp only
    rw [TableId.key_of isPlain]
    refine refines_unless represents (by rw [represents.tables.lookup])
      ⟨represents.catalogs, represents.databases,
        represents.tables.insert TableId.key_injective id _, represents.databaseNames,
        named_insert represents.tableNames ?_⟩
    rw [TableId.name_of isPlain]
    split
    · rfl
    · rfl

private theorem alterTable_refines (represents : Represents m ns) (dbName tblName : Text)
    (newTbl : Wire.Table)
    (plain : (WriteRpc.alterTable dbName tblName newTbl).change e clock = some change) :
    Refines (alterTable e clock m dbName tblName newTbl) (ns.apply e.v change) := by
  rw [WriteRpc.change] at plain
  rw [alterTable]
  cases resolved : resolveDB e.v dbName with
  | error err =>
    rw [resolved] at plain
    cases plain
    exact refines_failed represents err
  | ok names =>
    obtain ⟨catName, db⟩ := names
    rw [resolved] at plain
    obtain ⟨id, isPlain, renamed⟩ := Option.bind_eq_some_iff.mp plain
    obtain ⟨newName, newPlain, rfl⟩ := Option.map_eq_some_iff.mp renamed
    dsimp only
    rw [TableId.key_of isPlain, TableId.key_of (TableId.of_renamed isPlain newPlain)]
    refine refines_unless represents (by rw [represents.tables.lookup])
      ⟨represents.catalogs, represents.databases,
        (represents.tables.erase TableId.key_injective id).insert TableId.key_injective _ _,
        represents.databaseNames,
        named_insert (named_erase represents.tableNames id) ?_⟩
    exact (PlainName.text_of newPlain).symm

private theorem dropTable_refines (represents : Represents m ns) (dbName name : Text)
    (deleteData : Bool)
    (plain : (WriteRpc.dropTable dbName name deleteData).change e clock = some change) :
    Refines (dropTable e clock m dbName name) (ns.apply e.v change) := by
  rw [WriteRpc.change] at plain
  rw [dropTable]
  cases resolved : resolveDB e.v dbName with
  | error err =>
    rw [resolved] at plain
    cases plain
    exact refines_failed represents err
  | ok names =>
    obtain ⟨catName, db⟩ := names
    rw [resolved] at plain
    obtain ⟨id, isPlain, rfl⟩ := Option.map_eq_some_iff.mp plain
    dsimp only
    rw [TableId.key_of isPlain]
    exact refines_unless represents (by rw [represents.tables.lookup])
      ⟨represents.catalogs, represents.databases,
        represents.tables.erase TableId.key_injective id, represents.databaseNames,
        named_erase represents.tableNames id⟩

/-! ### Partitions -/

/-- A handler of partitions writes to neither. -/
private def SameNames (store store' : Store) : Prop :=
  store'.catalogs = store.catalogs ∧ store'.tables = store.tables

private theorem refines_answer {α : Type} (represents : Represents m ns) {handled : Handled α}
    (same : SameNames m.toStore handled.2) : Refines (m.answer handled) (none, ns) := by
  refine ⟨fun outcome told => absurd told (Option.not_mem_none outcome), ?_, represents.databases,
    ?_, represents.databaseNames, represents.tableNames⟩
  · have catalogs : (m.answer handled).2.catalogs = m.catalogs := same.1
    rw [catalogs]
    exact represents.catalogs
  · have tables : (m.answer handled).2.tables = m.tables := same.2
    rw [tables]
    exact represents.tables

private theorem refines_refuseOthers (represents : Represents m ns) {answered : Answered}
    (refines : Refines answered (none, ns)) (catName : Option Text) (refused : Option Thrown) :
    Refines (refuseOthers e m catName refused answered) (none, ns) := by
  have failed : ∀ err, Refines (.error err, m) (none, ns) := fun err =>
    ⟨fun outcome told => absurd told (Option.not_mem_none outcome), represents⟩
  unfold refuseOthers
  split
  · exact failed _
  · split
    · exact failed _
    · exact refines

private theorem addPartitionsReq_sameNames (now : Nat → Nat → Int32)
    (req : Wire.AddPartitionsRequest) (store : Store) :
    SameNames store (addPartitionsReq e.v now req store).2 := by
  rw [addPartitionsReq]
  split
  · exact ⟨rfl, rfl⟩
  · dsimp only
    split
    · exact ⟨rfl, rfl⟩
    · split
      · exact ⟨rfl, rfl⟩
      · next added _ =>
        cases added with
        | false => exact ⟨rfl, rfl⟩
        | true => exact ⟨rfl, rfl⟩

private theorem applyAlterPartitions_sameNames (catName db tbl : Text)
    (parts : Slice Wire.Partition) (store : Store) :
    SameNames store (applyAlterPartitions catName db tbl parts store).2 := by
  rw [applyAlterPartitions]
  dsimp only
  split
  · exact ⟨rfl, rfl⟩
  · split
    · exact ⟨rfl, rfl⟩
    · exact ⟨rfl, rfl⟩

private theorem alterPartitions_sameNames (dbName tblName : Text) (parts : Slice Wire.Partition)
    (store : Store) : SameNames store (alterPartitions e.v dbName tblName parts store).2 := by
  rw [alterPartitions]
  split
  · exact ⟨rfl, rfl⟩
  · exact applyAlterPartitions_sameNames _ _ _ _ _

private theorem alterPartitionsReq_sameNames (req : Wire.AlterPartitionsRequest) (store : Store) :
    SameNames store (alterPartitionsReq e.v req store).2 := by
  rw [alterPartitionsReq]
  split
  · exact ⟨rfl, rfl⟩
  · exact applyAlterPartitions_sameNames _ _ _ _ _

private theorem dropPartition_sameNames (now : Nat → Nat → Int32) (dbName tblName : Text)
    (partVals : Slice Text) (store : Store) :
    SameNames store (dropPartition e.v now dbName tblName partVals store).2 := by
  rw [dropPartition]
  split
  · exact ⟨rfl, rfl⟩
  · dsimp only
    split
    · exact ⟨rfl, rfl⟩
    · exact ⟨rfl, rfl⟩

private theorem dropPartitionsReq_sameNames (now : Nat → Nat → Int32)
    (req : Wire.DropPartitionsRequest) (store : Store) :
    SameNames store (dropPartitionsReq e.v now req store).2 := by
  rw [dropPartitionsReq]
  split
  · exact ⟨rfl, rfl⟩
  · split
    · exact ⟨rfl, rfl⟩
    · dsimp only
      split
      · exact ⟨rfl, rfl⟩
      · split
        · exact ⟨rfl, rfl⟩
        · exact ⟨rfl, rfl⟩

/-- A request about partitions wants nothing of the namespace, and leaves it. -/
theorem handleWrite_refines (represents : Represents m ns) (other : OtherFields) (rpc : WriteRpc)
    (plain : rpc.change e clock = some change) :
    Refines (handleWrite e clock m other rpc) (ns.apply e.v change) := by
  cases rpc with
  | createCatalog catalog => exact createCatalog_refines represents catalog plain
  | dropCatalog name =>
    cases plain
    exact dropCatalog_refines represents name
  | createDatabase db => exact createDatabase_refines represents db plain
  | alterDatabase name db => exact alterDatabase_refines represents name db plain
  | dropDatabase name deleteData cascade =>
    exact dropDatabase_refines represents name deleteData cascade plain
  | createTable tbl => exact createTable_refines represents tbl plain
  | alterTable dbName tblName newTbl =>
    exact alterTable_refines represents dbName tblName newTbl plain
  | dropTable dbName name deleteData =>
    exact dropTable_refines represents dbName name deleteData plain
  | addPartitionsReq req =>
    cases plain
    exact refines_answer represents (addPartitionsReq_sameNames _ req _)
  | alterPartitions dbName tblName parts =>
    cases plain
    exact refines_answer represents (alterPartitions_sameNames dbName tblName parts _)
  | alterPartitionsReq req =>
    cases plain
    exact refines_refuseOthers represents
      (refines_answer represents (alterPartitionsReq_sameNames req _)) _ _
  | dropPartition dbName tblName partVals deleteData =>
    cases plain
    exact refines_answer represents (dropPartition_sameNames _ dbName tblName partVals _)
  | dropPartitionsReq req =>
    cases plain
    exact refines_refuseOthers represents
      (refines_answer represents (dropPartitionsReq_sameNames _ req _)) _ _

/-- Every request does what it wants of the namespace. -/
theorem handle_refines (represents : Represents m ns) (request : Request)
    (plain : request.change e = some change) :
    Refines (m.handle e request) (ns.apply e.v change) := by
  rw [Request.change] at plain
  rw [Metastore.handle]
  split
  · next rpc reads =>
    rw [reads] at plain
    cases plain
    exact ⟨fun outcome told => absurd told (Option.not_mem_none outcome), represents⟩
  · next rpc writes =>
    rw [writes] at plain
    exact handleWrite_refines represents request.other rpc plain

end Requests

end HmsClient.Hmstest
