import HmsClient.Namespace

/-! The fake metastore over whole runs of requests. What it answers to requests that create,
change and drop is what the namespace decides, and what it answers to requests that read is
what the namespace holds: an object under its name, and sorted listings without gaps or
repetitions. -/
namespace HmsClient.Hmstest
open KeyedMap

/-! ## Runs -/

/-- The outcomes of a sequence of requests. -/
def Metastore.answers (e : Emulation) : Metastore → List Request → List (Except Thrown Unit)
  | _, [] => []
  | m, request :: rest =>
    let answered := m.handle e request
    answered.1 :: answered.2.answers e rest

/-- The namespace after a sequence of changes. -/
noncomputable def Namespace.run (v : Version) : Namespace → List Change → Namespace
  | ns, [] => ns
  | ns, change :: rest => (ns.apply v change).2.run v rest

/-- The outcomes, where the namespace decides them. -/
noncomputable def Namespace.answers (v : Version) :
    Namespace → List Change → List (Option (Except Exception Unit))
  | _, [] => []
  | ns, change :: rest =>
    let told := ns.apply v change
    told.1 :: told.2.answers v rest

private theorem run_refines (represents : Represents m ns)
    (plain : requests.mapM (Request.change e) = some changes) :
    Represents (m.run e requests) (ns.run e.v changes) ∧
      List.Forall₂ (fun outcome told => ∀ decided ∈ told, outcome.mapError Thrown.kind = decided)
        (m.answers e requests) (ns.answers e.v changes) := by
  induction requests generalizing m ns changes with
  | nil =>
    cases plain
    exact ⟨represents, .nil⟩
  | cons request rest ih =>
    rw [List.mapM_cons] at plain
    simp only [bind, Option.bind_eq_some_iff, pure, Option.some.injEq] at plain
    obtain ⟨change, first, changes, others, rfl⟩ := plain
    have refines := handle_refines represents request first
    obtain ⟨left, answers⟩ := ih refines.left others
    exact ⟨left, .cons refines.answer answers⟩

/-! ## Reading -/

/-- What a lookup answers. -/
def found {α : Type} (missing : Text) : Option α → Except Thrown α
  | some value => .ok value
  | none => .error ⟨.noSuchObject, missing⟩

/-- The names with a property, in order. -/
structure Listing (names : List Text) (inside : Text → Prop) : Prop where
  ordered : names.Pairwise (· < ·)
  mem_iff : ∀ name, name ∈ names ↔ inside name

/-- Requests that read show the namespace. -/
structure Shows (e : Emulation) (m : Metastore) (ns : Namespace) : Prop where
  getCatalog : ∀ name, getCatalog m name = found (catalogNotFound name) (ns.catalogs name)
  getCatalogs : Listing (getCatalogs m.toStore) fun name => (ns.catalogs name).isSome
  getDatabase : ∀ name catName db id, resolveDB e.v name = .ok (catName, db) →
    DatabaseId.of catName db = some id →
    getDatabase e m name = found (databaseNotFound db) (ns.databases id)
  getAllDatabases : Listing (getAllDatabases m) fun name =>
    ∃ id, id.catalog.text = defaultCatalog ∧ id.name.text = name ∧ (ns.databases id).isSome
  getDatabases : ∀ pattern catName glob catalog, resolveDB e.v pattern = .ok (catName, glob) →
    PlainName.of catName = some catalog →
    ∃ names, getDatabases e m pattern = .ok names ∧ Listing names fun name =>
      ∃ id, (id.catalog = catalog ∧ (glob = [] ∨ glob = [42] ∨ e.pathMatch glob id.name.text)) ∧
        id.name.text = name ∧ (ns.databases id).isSome
  getAllTables : ∀ name catName db id, resolveDB e.v name = .ok (catName, db) →
    DatabaseId.of catName db = some id →
    ∃ names, getAllTables e m name = .ok names ∧ Listing names fun name =>
      ∃ t, t.database = id ∧ t.name.text = name ∧ (ns.tables t).isSome
  getTableReq : ∀ (req : Wire.GetTableRequest) other catName id, cat e.v req.catName = .ok catName →
    TableId.of catName req.dbName req.tblName = some id → other.engine = defaultCatalog →
    other.id = -1 →
    getTableReq e m req other = found (tableNotFound req.dbName req.tblName) (ns.tables id)
  getTableObjectsByNameReq : ∀ (req : Wire.GetTablesRequest) catName ids,
    cat e.v req.catName = .ok catName →
    req.tblNames.items.mapM (TableId.of catName req.dbName) = some ids →
    getTableObjectsByNameReq e m req = .ok (ids.filterMap ns.tables)

section Reading
variable {e : Emulation} {m : Metastore} {ns : Namespace}

private theorem listing_sorted (nodup : names.Nodup) (mem_iff : ∀ name, name ∈ names ↔ inside name) :
    Listing (sorted names) inside := by
  have perm := List.mergeSort_perm names fun a b => decide (a ≤ b)
  have ordered : (sorted names).Pairwise fun a b => decide (a ≤ b) = true := by
    apply List.pairwise_mergeSort
    · intro a b c first second
      rw [decide_eq_true_iff] at first second ⊢
      exact List.le_trans first second
    · intro a b
      rw [Bool.or_eq_true, decide_eq_true_iff, decide_eq_true_iff]
      exact List.le_total a b
  refine ⟨?_, fun name => perm.mem_iff.trans (mem_iff name)⟩
  refine (ordered.and (perm.nodup_iff.mpr nodup)).imp fun {a b} ⟨le, ne⟩ => ?_
  rw [decide_eq_true_iff] at le
  rw [← List.not_le]
  exact fun ge => ne (List.le_antisymm le ge)

private theorem getCatalog_shown (represents : Represents m ns) (name : Text) :
    getCatalog m name = found (catalogNotFound name) (ns.catalogs name) := by
  have looked : m.catalogs.lookup name = ns.catalogs name := represents.catalogs.lookup name
  rw [getCatalog, looked]
  cases ns.catalogs name with
  | none => rfl
  | some catalog => rfl

private theorem getCatalogs_shown (represents : Represents m ns) :
    Listing (getCatalogs m.toStore) fun name => (ns.catalogs name).isSome := by
  refine listing_sorted m.catalogs.keys_nodup fun name => ?_
  rw [← AList.mem_keys]
  exact represents.catalogs.mem_iff name

private theorem getDatabase_shown (represents : Represents m ns) {id : DatabaseId}
    (resolved : resolveDB e.v name = .ok (catName, db)) (plain : DatabaseId.of catName db = some id) :
    getDatabase e m name = found (databaseNotFound db) (ns.databases id) := by
  simp only [getDatabase, resolved, bind, Except.bind]
  rw [DatabaseId.key_of plain, represents.databases.lookup]
  cases ns.databases id with
  | none => rfl
  | some db => rfl

/-- The databases of a catalog that pass a test on their names. -/
private theorem databases_listed (represents : Represents m ns) (catalog : PlainName)
    (test : Text → Bool) :
    Listing (sorted (((databasesOf m catalog.text).filter fun db => test db.name).map (·.name)))
      fun name => ∃ id : DatabaseId, (id.catalog = catalog ∧ test id.name.text = true) ∧
        id.name.text = name ∧ (ns.databases id).isSome := by
  have names : ((databasesOf m catalog.text).filter fun db => test db.name).map (·.name) =
      (m.databases.entries.filter fun entry =>
        (catalog.text ++ [46]).isPrefixOf entry.1 && test entry.2.name).map (·.2.name) := by
    simp only [databasesOf, List.filter_map, List.map_map, List.filter_filter, Function.comp_def,
      Bool.and_comm]
  have picks : ∀ id db, ns.databases id = some db →
      (((catalog.text ++ [46]).isPrefixOf id.key && test db.name) = true ↔
        id.catalog = catalog ∧ test id.name.text = true) := by
    intro id db there
    rw [Bool.and_eq_true, catalog_of_key, represents.databaseNames id db there]
  obtain ⟨nodup, mem_iff⟩ := represents.databases.listing
    (fun key db => (catalog.text ++ [46]).isPrefixOf key && test db.name)
    (fun id => id.catalog = catalog ∧ test id.name.text = true) picks represents.databaseNames
    fun a b inA inB same => by
      cases a
      cases b
      simp_all
  rw [names]
  exact listing_sorted nodup mem_iff

private theorem getAllTables_shown (represents : Represents m ns) {id : DatabaseId}
    (resolved : resolveDB e.v name = .ok (catName, db)) (plain : DatabaseId.of catName db = some id) :
    ∃ names, getAllTables e m name = .ok names ∧ Listing names fun name =>
      ∃ t, t.database = id ∧ t.name.text = name ∧ (ns.tables t).isSome := by
  simp only [getAllTables, resolved, bind, Except.bind]
  rw [DatabaseId.key_of plain]
  refine ⟨_, rfl, ?_⟩
  obtain ⟨nodup, mem_iff⟩ := represents.tables.listing
    (fun key _ => (id.key ++ [46]).isPrefixOf key) (·.database = id)
    (fun t _ _ => database_of_key id t) represents.tableNames fun a b inA inB same => by
      cases a
      cases b
      simp_all
  exact listing_sorted nodup mem_iff

private theorem getTableReq_shown (represents : Represents m ns) {other : OtherFields}
    {id : TableId} (resolved : cat e.v req.catName = .ok catName)
    (plain : TableId.of catName req.dbName req.tblName = some id)
    (engine : other.engine = defaultCatalog) (unset : other.id = -1) :
    getTableReq e m req other = found (tableNotFound req.dbName req.tblName) (ns.tables id) := by
  simp only [getTableReq, resolved, bind, Except.bind, engine, unset, ne_eq, not_true_eq_false,
    if_false]
  rw [Store.tableAt, TableId.key_of plain, represents.tables.lookup]
  cases ns.tables id with
  | none => rfl
  | some tbl => rfl

private theorem lookups_shown (represents : Represents m ns) {names : List Text}
    (plain : names.mapM (TableId.of catName db) = some ids) :
    names.filterMap (fun name => m.tables.lookup (tblKey catName db name)) =
      ids.filterMap ns.tables := by
  induction names generalizing ids with
  | nil =>
    cases plain
    rfl
  | cons name rest ih =>
    rw [List.mapM_cons] at plain
    simp only [bind, Option.bind_eq_some_iff, pure, Option.some.injEq] at plain
    obtain ⟨id, first, ids, others, rfl⟩ := plain
    rw [List.filterMap_cons, List.filterMap_cons, TableId.key_of first, represents.tables.lookup,
      ih others]

/-- A request that reads is answered from the namespace. -/
theorem shows_of_represents (represents : Represents m ns) : Shows e m ns where
  getCatalog := getCatalog_shown represents
  getCatalogs := getCatalogs_shown represents
  getDatabase _ _ _ _ resolved plain := getDatabase_shown represents resolved plain
  getAllDatabases := by
    have listing := databases_listed represents ⟨defaultCatalog, by decide⟩ fun _ => true
    simpa [getAllDatabases, ← PlainName.text_inj] using listing
  getDatabases pattern catName glob catalog resolved plain := by
    have listing := databases_listed represents catalog fun name =>
      glob = [] || glob = [42] || e.pathMatch glob name
    simp only [getDatabases, resolved, bind, Except.bind, ← PlainName.text_of plain]
    refine ⟨_, rfl, ?_⟩
    simpa [or_assoc] using listing
  getAllTables _ _ _ _ resolved plain := getAllTables_shown represents resolved plain
  getTableReq _ _ _ _ resolved plain engine unset :=
    getTableReq_shown represents resolved plain engine unset
  getTableObjectsByNameReq req catName ids resolved plain := by
    simp only [getTableObjectsByNameReq, resolved, bind, Except.bind]
    rw [lookups_shown represents plain]
    rfl

end Reading

/-- Whatever requests with plain names a fresh fake metastore is sent: each is answered as
the namespace decides, and reading shows the namespace they make. -/
theorem store_refines_namespace (e : Emulation) (requests : List Request) (changes : List Change)
    (plain : requests.mapM (Request.change e) = some changes) :
    Shows e (newStore.run e requests) ((Namespace.empty newStore.catalogs).run e.v changes) ∧
      List.Forall₂ (fun outcome told => ∀ decided ∈ told, outcome.mapError Thrown.kind = decided)
        (newStore.answers e requests)
        ((Namespace.empty newStore.catalogs).answers e.v changes) := by
  obtain ⟨represents, answers⟩ := run_refines (represents_empty (m := newStore) rfl rfl) plain
  exact ⟨shows_of_represents represents, answers⟩

/-- The database "d" gets the table "t", and is not dropped with it. -/
def keptDatabase : List Request :=
  [{ rpc := .inr (.createDatabase { name := [100], locationUri := [47] }) },
    { rpc := .inr (.createTable tableT) },
    { rpc := .inr (.dropDatabase [100] true false) }]

/-- The identifier of the database "d" in the default catalog. -/
def databaseD : DatabaseId := ⟨⟨defaultCatalog, by decide⟩, ⟨[100], by decide⟩⟩

theorem kept_database_refines_namespace :
    newStore.answers (withoutPatterns .hive40) keptDatabase =
        [.ok (), .ok (), .error ⟨.invalidOperation, text "database d is not empty"⟩] ∧
      ∃ changes, keptDatabase.mapM (Request.change (withoutPatterns .hive40)) = some changes ∧
        Shows (withoutPatterns .hive40) (newStore.run (withoutPatterns .hive40) keptDatabase)
          ((Namespace.empty newStore.catalogs).run .hive40 changes) := by
  refine ⟨by decide +kernel,
    [.createDatabase databaseD
        { name := [100], locationUri := [47], createTime := some 1 },
      .createTable ⟨databaseD, ⟨[116], by decide⟩⟩ { tableT with createTime := 1 },
      .dropDatabase databaseD false], rfl, ?_⟩
  exact (store_refines_namespace (withoutPatterns .hive40) keptDatabase _ rfl).1

end HmsClient.Hmstest
