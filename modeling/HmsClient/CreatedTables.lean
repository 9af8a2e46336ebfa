import HmsClient.ClientRuns
import HmsClient.CreateCodec

/-! What becomes of a table between the call that creates it and a call that reads it, with
other operations of other connections in between. As long as none of them is about the
table, it is read as it was given, in its normal form and with the server's creation time. -/
namespace HmsClient.Hmstest
open PeerScript

/-- The server after some operations. -/
def afterSteps (setup : Setup) (cfg : Config) : List Step → Backend → Backend
  | [], b => b
  | step :: rest, b => afterSteps setup cfg rest (step.run setup cfg b).2

/-! ## Changes to other things -/

/-- The change leaves a table that is there as it is. A table may be renamed over another
one, and a database with a table in it is dropped only with its tables. -/
def Change.Spares (id : TableId) : Change → Prop
  | .alterTable other newName _ => other ≠ id ∧ ⟨other.database, newName⟩ ≠ id
  | .dropTable other => other ≠ id
  | .dropDatabase database cascade => database ≠ id.database ∨ cascade = false
  | _ => True

def Step.Spares (cfg : Config) (v : Version) (id : TableId) (step : Step) : Prop :=
  ∀ clock change, changeOf cfg v clock step.op = some change → change.Spares id

section Spared
variable {ns ns' : Namespace} {id : TableId} {tbl : Wire.Table}

private theorem unless_spares (there : ns.tables id = some tbl) [Decidable fails] (err : Exception)
    (spared : ¬ fails → ns'.tables id = some tbl) :
    (ns.unless fails err ns').2.tables id = some tbl := by
  rw [Namespace.unless]
  by_cases check : fails
  · rw [if_pos check]
    exact there
  · rw [if_neg check]
    exact spared check

theorem apply_spares (v : Version) (there : ns.tables id = some tbl) {change : Change}
    (spares : change.Spares id) : (ns.apply v change).2.tables id = some tbl := by
  classical
  cases change with
  | createCatalog catalog | dropCatalog name | createDatabase other db | alterDatabase other db =>
    exact unless_spares there _ fun _ => there
  | dropDatabase database cascade =>
    rw [Namespace.apply]
    split
    · exact there
    · apply unless_spares there
      intro passes
      rcases spares with elsewhere | kept
      · exact (if_neg (Ne.symm elsewhere)).trans there
      · by_cases inside : id.database = database
        · exact absurd ⟨⟨id, inside, by rw [there]; rfl⟩, kept⟩ passes
        · exact (if_neg inside).trans there
  | createTable other new =>
    apply unless_spares there
    intro free
    have elsewhere : id ≠ other := by
      rintro rfl
      exact free (by rw [there]; rfl)
    exact (Function.update_of_ne elsewhere _ _).trans there
  | alterTable other newName new =>
    apply unless_spares there
    intro _
    exact (Function.update_of_ne (Ne.symm spares.2) _ _).trans
      ((Function.update_of_ne (Ne.symm spares.1) _ _).trans there)
  | dropTable other =>
    apply unless_spares there
    intro _
    exact (Function.update_of_ne (Ne.symm spares) _ _).trans there
  | refused err | elsewhere => exact there

variable {cfg : Config} {v : Version} {clock : Nat → Int32}

theorem Ends.spares {op : Operation} {r : Except Err Unit} {out : op.Captured}
    (ended : Ends cfg v clock ns op r out ns')
    (spares : ∀ change, changeOf cfg v clock op = some change → change.Spares id)
    (there : ns.tables id = some tbl) : ns'.tables id = some tbl := by
  cases ended with
  | changed wants outcome => exact apply_spares .hive40 there (spares _ wants)
  | _ => exact there

/-- What `GetTable` gets of a table that is there. -/
theorem Ends.gets {dbName tableName : Text} {opts : CatalogOptions} {r : Except Err Unit}
    {out : Option Table} (ended : Ends cfg v clock ns (.getTable dbName tableName opts) r out ns')
    (named : TableId.of (effectiveCatalog cfg [] opts) dbName tableName = some id)
    (there : ns.tables id = some tbl) :
    r = .ok () ∧ out = some (tableFromThrift tbl) ∧ ns' = ns := by
  cases ended with
  | changed wants outcome => cases wants
  | table named' there' =>
    cases Option.some.inj (named.symm.trans named')
    cases Option.some.inj (there.symm.trans there')
    exact ⟨rfl, rfl, rfl⟩
  | noTable named' missing told =>
    cases Option.some.inj (named.symm.trans named')
    cases there.symm.trans missing

/-- What the server stores for `CreateTable`. -/
def created (v : Version) (clock : Nat → Int32) (catName : Text) (table : Table) : Wire.Table :=
  let tbl := tableToThrift table (sent v catName)
  if tbl.createTime = 0 then { tbl with createTime := clock 0 } else tbl

/-- What a `CreateTable` that succeeds leaves. -/
theorem Ends.creates {table : Table} {out : Unit}
    (ended : Ends cfg v clock ns (.createTable table) (.ok ()) out ns')
    (named : TableId.of (effectiveCatalog cfg table.catalogName []) table.databaseName
      table.tableName = some id) :
    ns'.tables id = some (created v clock (effectiveCatalog cfg table.catalogName []) table) := by
  cases ended with
  | changed wants outcome =>
    obtain ⟨id', named', rfl⟩ := Option.map_eq_some_iff.mp wants
    cases Option.some.inj (named.symm.trans named')
    by_cases taken : (ns.tables id).isSome
    · rw [verdict, Namespace.apply, Namespace.unless, if_pos taken] at outcome
      cases outcome
    · rw [Namespace.apply, Namespace.unless, if_neg taken]
      exact Function.update_self ..

/-- What an `AlterTable` leaves of a table that is there and keeps its name. -/
theorem Ends.alters {dbName tableName : Text} {newTable : Table} {opts : CatalogOptions}
    {r : Except Err Unit} {out : Unit}
    (ended : Ends cfg v clock ns (.alterTable dbName tableName newTable opts) r out ns')
    (named : TableId.of (effectiveCatalog cfg newTable.catalogName opts) dbName tableName = some id)
    (sameName : newTable.tableName = tableName) (there : ns.tables id = some tbl) :
    ns'.tables id = some (tableToThriftFrom newTable
      (sent v (effectiveCatalog cfg newTable.catalogName opts))) := by
  cases ended with
  | changed wants outcome =>
    obtain ⟨id', named', wants'⟩ := Option.bind_eq_some_iff.mp wants
    obtain ⟨newName, plain, rfl⟩ := Option.map_eq_some_iff.mp wants'
    cases Option.some.inj (named.symm.trans named')
    have same : (⟨id.database, newName⟩ : TableId) = id := by
      have texts : newName.text = id.name.text :=
        (PlainName.text_of plain).trans (sameName.trans (TableId.name_of named).symm)
      rw [PlainName.text_inj.mp texts]
    have present : ¬ (ns.tables id).isNone := by
      rw [there]
      exact Bool.false_ne_true
    rw [Namespace.apply, Namespace.unless, if_neg present, same]
    exact Function.update_self ..

end Spared

/-! ## Runs -/

section Runs
variable {setup : Setup} {cfg : Config} {b : Backend} {ns : Namespace}

/-- Operations leave a store that keeps a namespace, with the tables they spare. -/
theorem afterSteps_represents (complete : setup.without = []) {steps : List Step}
    (ready : ∀ step ∈ steps, step.Ready cfg setup.v) (represents : Represents b.toMetastore ns) :
    ∃ ns', Represents (afterSteps setup cfg steps b).toMetastore ns' ∧
      ∀ id tbl, (∀ step ∈ steps, step.Spares cfg setup.v id) → ns.tables id = some tbl →
        ns'.tables id = some tbl := by
  induction steps generalizing b ns with
  | nil => exact ⟨ns, represents, fun _ _ _ there => there⟩
  | cons step rest ih =>
    obtain ⟨fits, knows⟩ := ready step (.head _)
    obtain ⟨n, mid, ended, left⟩ := operation_ends complete knows represents fits
    obtain ⟨ns', represents', kept⟩ := ih (fun other inRest => ready other (.tail _ inRest)) left
    refine ⟨ns', represents', fun id tbl spare there => ?_⟩
    apply kept id tbl fun other inRest => spare other (.tail _ inRest)
    exact ended.spares (fun change wants => spare step (.head _) _ change wants) there

/-- `GetTable` against a store that keeps the table. -/
theorem getTable_of_there (complete : setup.without = []) {dbName tableName : Text}
    {opts : CatalogOptions} {s : Session (Option Table)} {id : TableId} {tbl : Wire.Table}
    (ready : Step.Ready cfg setup.v ⟨.getTable dbName tableName opts, s⟩)
    (represents : Represents b.toMetastore ns)
    (named : TableId.of (effectiveCatalog cfg [] opts) dbName tableName = some id)
    (there : ns.tables id = some tbl) :
    let read := Step.run setup cfg ⟨.getTable dbName tableName opts, s⟩ b
    read.1.1 = .ok () ∧ read.1.2.captured = some (tableFromThrift tbl) ∧
      Represents read.2.toMetastore ns := by
  obtain ⟨n, ns', ended, left⟩ := operation_ends complete ready.2 represents ready.1
  obtain ⟨outcome, captured, rfl⟩ := ended.gets named there
  exact ⟨outcome, captured, left⟩

end Runs

/-- What is read of a created table: all that was given, in normal form. The creation time
is the server's unless one was given. -/
theorem created_normal (v : Version) (clock : Nat → Int32) (catName : Text)
    (table : Table) :
    (tableFromThrift (created v clock catName table)).setRaw none =
      { table.normal (sent v catName) with
        createTime := if unix32FromTime table.createTime = 0 then timeFromUnix32 (clock 0)
          else table.createTime.normal } := by
  have decoded := (table_codec (sent v catName)).decoded table
  rw [created]
  by_cases unset : unix32FromTime table.createTime = 0
  · rw [if_pos unset, if_pos (show (tableToThrift table (sent v catName)).createTime = 0 from unset),
      ← decoded]
    rfl
  · rw [if_neg unset, if_neg (show (tableToThrift table (sent v catName)).createTime ≠ 0 from unset),
      ← decoded]
    rw [← timeFromUnix32_unix32FromTime]
    rfl

/-- A table that was created is what is read of it, whoever reads it, on a server of any
version, as long as nobody altered it, dropped it or renamed another table over it. -/
theorem created_table_reads_back (setup : Setup) (complete : setup.without = []) (cfg : Config)
    (before between : List Step) (table : Table) (s : Session Unit) (opts : CatalogOptions)
    (s' : Session (Option Table)) (id : TableId)
    (ready : ∀ step ∈ before ++ ⟨.createTable table, s⟩ :: between ++
      [⟨.getTable table.databaseName table.tableName opts, s'⟩], step.Ready cfg setup.v)
    (named : TableId.of (effectiveCatalog cfg table.catalogName []) table.databaseName
      table.tableName = some id)
    (sameCatalog : effectiveCatalog cfg [] opts = effectiveCatalog cfg table.catalogName [])
    (spare : ∀ step ∈ between, step.Spares cfg setup.v id) :
    let b := afterSteps setup cfg before (newBackend setup.v)
    let create := Step.run setup cfg ⟨.createTable table, s⟩ b
    let read := Step.run setup cfg ⟨.getTable table.databaseName table.tableName opts, s'⟩
      (afterSteps setup cfg between create.2)
    create.1.1 = .ok () → read.1.1 = .ok () ∧ ∃ n, read.1.2.captured.map (·.setRaw none) =
      some { table.normal (sent setup.v (effectiveCatalog cfg table.catalogName [])) with
        createTime := if unix32FromTime table.createTime = 0 then timeFromUnix32 (setup.now n 0)
          else table.createTime.normal } := by
  intro b create read succeeds
  have parts := List.forall_mem_append.mp ready
  have parts' := List.forall_mem_append.mp parts.1
  obtain ⟨fits, knows⟩ := parts'.2 _ (.head _)
  obtain ⟨ns, represents, -⟩ := afterSteps_represents complete parts'.1
    (represents_empty (m := (newBackend setup.v).toMetastore) rfl rfl)
  obtain ⟨n, made, ended, left⟩ := operation_ends complete knows represents fits
  have there : made.tables id = _ := Ends.creates (succeeds ▸ ended) named
  obtain ⟨ns', represents', kept⟩ := afterSteps_represents complete
    (fun step inBetween => parts'.2 step (.tail _ inBetween)) left
  obtain ⟨outcome, captured, -⟩ := getTable_of_there complete (parts.2 _ (.head _)) represents'
    (sameCatalog ▸ named) (kept id _ spare there)
  refine ⟨outcome, n, (congrArg (Option.map (·.setRaw none)) captured).trans ?_⟩
  exact congrArg some (created_normal ..)

theorem ok_of_classified {r : Except Err Unit} (told : r.mapError classify = .ok ()) :
    r = .ok () := by
  cases r with
  | ok _ => rfl
  | error err => cases told

/-- The table "t" of the database "d", without partition keys. -/
def plainTable : Table :=
  { databaseName := [100], tableName := [116], partitionKeys := some [],
    parameters := some [([107], [118])] }

theorem plain_table_reads_back :
    let b := (Step.run (standing .hive31) plainConfig ⟨.createTable plainTable, newSession ()⟩
      (afterSteps (standing .hive31) plainConfig
        [⟨.createDatabase { name := [100], locationURI := [47] }, newSession ()⟩]
        (newBackend .hive31))).2
    let read := Step.run (standing .hive31) plainConfig ⟨.getTable [100] [116] [], newSession none⟩
      (afterSteps (standing .hive31) plainConfig
        [⟨.dropDatabase [100] false false false [], newSession ()⟩] b)
    read.1.2.captured.map (·.setRaw none) = some { plainTable with
      catalogName := defaultCatalog, ownerType := 1, createTime := ⟨1, 0⟩, partitionKeys := none } := by
  have supports : Supports .hive31 defaultCatalog := .inr rfl
  have tame : Tame defaultCatalog := by decide
  obtain ⟨-, n, told⟩ := created_table_reads_back (standing .hive31) rfl plainConfig
    [⟨.createDatabase { name := [100], locationURI := [47] }, newSession ()⟩]
    [⟨.dropDatabase [100] false false false [], newSession ()⟩] plainTable (newSession ()) []
    (newSession none) ⟨⟨⟨defaultCatalog, by decide⟩, ⟨[100], by decide⟩⟩, ⟨[116], by decide⟩⟩
    (by
      intro step inCourse
      simp only [List.cons_append, List.nil_append, List.mem_cons, List.not_mem_nil,
        or_false] at inCourse
      rcases inCourse with rfl | rfl | rfl | rfl <;>
        exact ⟨⟨supports, tame, _, rfl, by decide⟩, .inl rfl⟩)
    (by decide) rfl
    (by
      intro step inCourse clock change wants
      cases List.mem_singleton.mp inCourse
      have drops : (DatabaseId.of defaultCatalog [100]).map (.dropDatabase · false) =
        some change := wants
      obtain ⟨database, -, rfl⟩ := Option.map_eq_some_iff.mp drops
      exact .inr rfl)
    (ok_of_classified (by decide +kernel))
  exact told.trans rfl

end HmsClient.Hmstest
