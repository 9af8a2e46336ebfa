import HmsClient.CreatedTables
import HmsClient.TableFormats

/-! Writers of one Iceberg table that go through the metastore. A commit reads the table,
moves its metadata location with `SetIcebergMetadataLocation` and alters the table, and
nothing holds the server between the read and the alter. The table always carries the
location of the last commit, but the previous location is that of the writer's copy: the
commits that others made since are pointed at by nothing. -/
namespace HmsClient.Hmstest.Iceberg
open PeerScript

/-- A writer reads the table, or commits from its copy of it, or something else is done. -/
inductive Move where
  | look (writer : Nat) (s : Session (Option Table))
  | commit (writer : Nat) (location : Text) (s : Session Unit)
  | other (step : Step)

/-- The server, and the copies of the table that writers have. -/
structure Race where
  backend : Backend
  copies : Nat → Option Table

section Moves
variable (setup : Setup) (cfg : Config) (dbName tableName : Text)

/-- A writer's own copy is moved on with its commit. -/
def Race.move (r : Race) : Move → Race
  | .look writer s =>
    let read := Step.run setup cfg ⟨.getTable dbName tableName [], s⟩ r.backend
    let copy := match read.1.1 with
      | .ok () => read.1.2.captured
      | .error _ => r.copies writer
    { backend := read.2, copies := Function.update r.copies writer copy }
  | .commit writer location s =>
    match r.copies writer with
    | none => r
    | some copy =>
      let moved := setIcebergMetadataLocation copy location
      { backend := (Step.run setup cfg ⟨.alterTable dbName tableName moved [], s⟩ r.backend).2
        copies := Function.update r.copies writer (some moved) }
  | .other step => { r with backend := (step.run setup cfg r.backend).2 }

def Race.run (r : Race) (moves : List Move) : Race :=
  moves.foldl (Race.move setup cfg dbName tableName) r

end Moves

/-! ## Pointers -/

/-- The two locations in the table, and the location in every writer's copy. -/
structure Pointers where
  current : Text
  previous : Option Text
  seen : Nat → Option Text

def Pointers.move (p : Pointers) : Move → Pointers
  | .look writer _ => { p with seen := Function.update p.seen writer (some p.current) }
  | .commit writer location _ =>
    match p.seen writer with
    | none => p
    | some base =>
      { current := location
        previous := some base
        seen := Function.update p.seen writer (some location) }
  | .other _ => p

private theorem Pointers.move_commit {p : Pointers} (seen : p.seen writer = some base) :
    p.move (.commit writer location s) =
      ⟨location, some base, Function.update p.seen writer (some location)⟩ := by
  rw [Pointers.move, seen]

def Pointers.run (p : Pointers) (moves : List Move) : Pointers := moves.foldl Pointers.move p

/-- The pointers of a table that was just registered. -/
def registeredAt (metadataLocation : Text) : Pointers := ⟨metadataLocation, none, fun _ => none⟩

/-- Whether a move is the writer's. -/
def Move.IsBy (writer : Nat) : Move → Prop
  | .look w _ | .commit w _ _ => w = writer
  | .other _ => False

private theorem run_seen (others : ∀ move ∈ moves, ¬ move.IsBy writer) (p : Pointers) :
    (p.run moves).seen writer = p.seen writer := by
  induction moves generalizing p with
  | nil => rfl
  | cons move rest ih =>
    have notMine := others move (.head _)
    refine (ih (fun other inRest => others other (.tail _ inRest)) (p.move move)).trans ?_
    cases move with
    | look w s => exact Function.update_of_ne (Ne.symm notMine) _ _
    | commit w location s =>
      rw [Pointers.move]
      split
      · rfl
      · exact Function.update_of_ne (Ne.symm notMine) _ _
    | other step => rfl

/-- A commit points back to the metadata that was current when the writer looked. -/
private theorem run_commit {writer : Nat} (others : ∀ move ∈ between, ¬ move.IsBy writer)
    (before : List Move) (p : Pointers) (s : Session (Option Table)) (location : Text)
    (s' : Session Unit) :
    let q := p.run (before ++ .look writer s :: between ++ [.commit writer location s'])
    q.current = location ∧ q.previous = some (p.run before).current := by
  have split : p.run (before ++ .look writer s :: between ++ [.commit writer location s']) =
      (((p.run before).move (.look writer s)).run between).move (.commit writer location s') := by
    simp only [Pointers.run, List.foldl_append, List.foldl_cons, List.foldl_nil]
  have seen : (((p.run before).move (.look writer s)).run between).seen writer =
      some (p.run before).current :=
    (run_seen others ((p.run before).move (.look writer s))).trans (Function.update_self ..)
  dsimp only
  rw [split, Pointers.move_commit seen]
  exact ⟨rfl, rfl⟩

/-! ## The table and the copies -/

/-- The parameters of the table as registered, but for where the metadata is. -/
structure Carries (registered : Table) (m : StringMap) (location : Text) : Prop where
  current : m.lookup paramMetadataLocation = some location
  others : ∀ key, key ≠ paramMetadataLocation → key ≠ paramPreviousMetadataLocation →
    m.lookup key = registered.parameters.lookup key

/-- A writer's copy is of the table, at the location that it has seen. -/
inductive Copied (registered : Table) : Option Table → Option Text → Prop
  | none : Copied registered none none
  | some {copy : Table} {m : StringMap} {location : Text}
      (same : copy.setRaw none = { registered with parameters := m })
      (carries : Carries registered m location) : Copied registered (some copy) (some location)

/-- The server and the writers are where the pointers are. -/
structure Holds (registered : Table) (id : TableId) (ns : Namespace) (r : Race) (p : Pointers) :
    Prop where
  represents : Represents r.backend.toMetastore ns
  stored : ∃ tbl m, ns.tables id = some tbl ∧
    (tableFromThrift tbl).setRaw none = { registered with parameters := m } ∧
    Carries registered m p.current ∧ m.lookup paramPreviousMetadataLocation = p.previous
  copies : ∀ writer, Copied registered (r.copies writer) (p.seen writer)

/-- The table is found under its names, and its registration is in normal form. -/
structure Registered (cfg : Config) (v : Version) (dbName tableName : Text) (id : TableId)
    (registered : Table) : Prop where
  supports : Supports v (effectiveCatalog cfg [] [])
  tameCatalog : Tame (effectiveCatalog cfg [] [])
  tameDatabase : Tame dbName
  tame : Tame tableName
  named : TableId.of (effectiveCatalog cfg [] []) dbName tableName = some id
  catalogName : registered.catalogName = effectiveCatalog cfg [] []
  tableName_eq : registered.tableName = tableName
  normal : registered.normal (sent v (effectiveCatalog cfg [] [])) = registered

/-- What a move needs; what is done beside the commits is not about the table. -/
def Move.Ready (cfg : Config) (v : Version) (id : TableId) : Move → Prop
  | .look _ s => Knows v s
  | .commit _ _ s => Knows v s
  | .other step => step.Ready cfg v ∧ step.Spares cfg v id

/-- An alter is read back like a create. -/
private theorem altered_normal (t : Table) (cat : Option Text) :
    (tableFromThrift (tableToThriftFrom t cat)).setRaw none = t.normal cat := by
  refine Eq.trans ?_ ((table_codec cat).decoded t)
  refine Table.mk.injEq .. |>.mpr ⟨rfl, rfl, rfl, rfl, rfl, rfl, rfl, rfl, ?_, rfl, rfl, rfl, rfl,
    rfl, rfl⟩
  change (t.storage.map (storageToThrift · (rawTableOrNew t.raw).sd)).map storageFromThrift =
    (t.storage.map (storageToThrift · Wire.newTable.sd)).map storageFromThrift
  cases t.storage with
  | none => rfl
  | some sd => exact congrArg some ((storage_decoded sd _).trans (storage_decoded sd _).symm)

private theorem effectiveCatalog_own (cfg : Config) :
    effectiveCatalog cfg (effectiveCatalog cfg [] []) [] = effectiveCatalog cfg [] [] := by
  have filled := effectiveCatalog_ne_nil cfg [] []
  generalize effectiveCatalog cfg [] [] = catName at filled
  simp [effectiveCatalog, filled]

private theorem moved_same {registered copy : Table}
    (same : copy.setRaw none = { registered with parameters := m }) (location : Text) :
    (setIcebergMetadataLocation copy location).setRaw none = { registered with
      parameters := (setIcebergMetadataLocation copy location).parameters } :=
  congrArg (fun t : Table => { t with
    parameters := (setIcebergMetadataLocation copy location).parameters }) same

/-- What is stored of a moved copy. -/
private theorem moved_normal {registered copy : Table} {cat : Option Text}
    (normal : registered.normal cat = registered)
    (same : copy.setRaw none = { registered with parameters := m }) (location : Text) :
    (setIcebergMetadataLocation copy location).normal cat = { registered with
      parameters := (setIcebergMetadataLocation copy location).parameters.tidy } := by
  have moved := congrArg (Table.normal cat) (moved_same same location)
  conv_rhs => rw [← normal]
  exact moved

section Steps
variable {setup : Setup} {cfg : Config} {dbName tableName : Text} {id : TableId}
  {registered : Table} {ns : Namespace} {r : Race} {p : Pointers}

private theorem look_holds (complete : setup.without = [])
    (known : Registered cfg setup.v dbName tableName id registered)
    (holds : Holds registered id ns r p) (writer : Nat) (knows : Knows setup.v s) :
    Holds registered id ns (r.move setup cfg dbName tableName (.look writer s))
      (p.move (.look writer s)) := by
  obtain ⟨tbl, m, there, same, carries, previous⟩ := holds.stored
  have ready : Step.Ready cfg setup.v ⟨.getTable dbName tableName [], s⟩ :=
    ⟨⟨known.supports, known.tameCatalog, _, rfl, by
      simp [known.tameDatabase, known.tame]⟩, knows⟩
  obtain ⟨outcome, captured, left⟩ :=
    getTable_of_there complete ready holds.represents known.named there
  refine ⟨left, ⟨tbl, m, there, same, carries, previous⟩, fun other => ?_⟩
  simp only [Race.move, Pointers.move, outcome, captured]
  by_cases mine : other = writer
  · rw [mine, Function.update_self, Function.update_self]
    exact .some same carries
  · rw [Function.update_of_ne mine, Function.update_of_ne mine]
    exact holds.copies other

/-- A commit of a moved copy is what the pointers say of it. -/
private theorem moved_holds (complete : setup.without = [])
    (known : Registered cfg setup.v dbName tableName id registered)
    (holds : Holds registered id ns r p) (writer : Nat) (location : Text) (knows : Knows setup.v s)
    (same : copy.setRaw none = { registered with parameters := m })
    (carries : Carries registered m base) :
    let moved := setIcebergMetadataLocation copy location
    ∃ ns', Holds registered id ns'
      { backend := (Step.run setup cfg ⟨.alterTable dbName tableName moved [], s⟩ r.backend).2
        copies := Function.update r.copies writer (some moved) }
      { current := location
        previous := some base
        seen := Function.update p.seen writer (some location) } := by
  intro moved
  obtain ⟨tbl, _, there, -, -, -⟩ := holds.stored
  have catalogName : moved.catalogName = effectiveCatalog cfg [] [] :=
    (congrArg Table.catalogName same).trans known.catalogName
  have sameName : moved.tableName = tableName :=
    (congrArg Table.tableName same).trans known.tableName_eq
  have parameters : copy.parameters = m := congrArg Table.parameters same
  have inCatalog : effectiveCatalog cfg moved.catalogName [] = effectiveCatalog cfg [] [] := by
    rw [catalogName]
    exact effectiveCatalog_own cfg
  have ready : Step.Ready cfg setup.v ⟨.alterTable dbName tableName moved [], s⟩ := by
    refine ⟨⟨?_, ?_, _, rfl, ?_⟩, knows⟩
    · rw [catalogOf, inCatalog]
      exact known.supports
    · rw [catalogOf, inCatalog]
      exact known.tameCatalog
    · simp [known.tameDatabase, known.tame, sameName]
  obtain ⟨n, ns', ended, left⟩ := operation_ends complete ready.2 holds.represents ready.1
  have stored := ended.alters (inCatalog ▸ known.named) sameName there
  obtain ⟨current, previous, others⟩ :=
    lookup_setIcebergMetadataLocation copy location (parameters ▸ carries.current)
  have moves : Carries registered moved.parameters location := by
    refine ⟨current, fun key other other' => ?_⟩
    rw [others key other other', parameters, carries.others key other other']
  refine ⟨ns', left, ⟨_, moved.parameters.tidy, stored, ?_, ?_, ?_⟩, fun other => ?_⟩
  · rw [altered_normal, inCatalog]
    exact moved_normal known.normal same location
  · refine ⟨(StringMap.lookup_tidy ..).trans moves.current, fun key other other' => ?_⟩
    exact (StringMap.lookup_tidy ..).trans (moves.others key other other')
  · exact (StringMap.lookup_tidy ..).trans previous
  · dsimp only
    by_cases mine : other = writer
    · rw [mine, Function.update_self, Function.update_self]
      exact .some (moved_same same location) moves
    · rw [Function.update_of_ne mine, Function.update_of_ne mine]
      exact holds.copies other

private theorem commit_holds (complete : setup.without = [])
    (known : Registered cfg setup.v dbName tableName id registered)
    (holds : Holds registered id ns r p) (writer : Nat) (location : Text) (knows : Knows setup.v s) :
    ∃ ns', Holds registered id ns' (r.move setup cfg dbName tableName (.commit writer location s))
      (p.move (.commit writer location s)) := by
  have mine := holds.copies writer
  rw [Race.move, Pointers.move]
  cases copied : r.copies writer with
  | none =>
    rw [copied] at mine
    cases seen : p.seen writer with
    | none => exact ⟨ns, holds⟩
    | some base =>
      rw [seen] at mine
      cases mine
  | some copy =>
    rw [copied] at mine
    cases seen : p.seen writer with
    | none =>
      rw [seen] at mine
      cases mine
    | some base =>
      rw [seen] at mine
      cases mine with
      | some same carries =>
        exact moved_holds complete known holds writer location knows same carries

/-- What one move does, whoever makes it. -/
private theorem move_holds (complete : setup.without = [])
    (known : Registered cfg setup.v dbName tableName id registered)
    (holds : Holds registered id ns r p) (ready : move.Ready cfg setup.v id) :
    ∃ ns', Holds registered id ns' (r.move setup cfg dbName tableName move) (p.move move) := by
  cases move with
  | look writer s => exact ⟨ns, look_holds complete known holds writer ready⟩
  | commit writer location s => exact commit_holds complete known holds writer location ready
  | other step =>
    obtain ⟨⟨fits, knows⟩, spares⟩ := ready
    obtain ⟨tbl, m, there, shown⟩ := holds.stored
    obtain ⟨n, ns', ended, left⟩ := operation_ends complete knows holds.represents fits
    exact ⟨ns', left, ⟨tbl, m, ended.spares (spares _) there, shown⟩, holds.copies⟩

private theorem run_holds (complete : setup.without = [])
    (known : Registered cfg setup.v dbName tableName id registered)
    (holds : Holds registered id ns r p) (ready : ∀ move ∈ moves, move.Ready cfg setup.v id) :
    ∃ ns', Holds registered id ns' (r.run setup cfg dbName tableName moves) (p.run moves) := by
  induction moves generalizing ns r p with
  | nil => exact ⟨ns, holds⟩
  | cons move rest ih =>
    obtain ⟨mid, holds'⟩ := move_holds complete known holds (ready move (.head _))
    exact ih holds' fun other inRest => ready other (.tail _ inRest)

end Steps

/-! ## The race -/

section Registration
variable (dbName tableName location metadataLocation : Text) (cols : Slice FieldSchema)

/-- How a table is read that `NewIcebergTable` has built and `CreateTable` has registered. -/
def asRegistered (v : Version) (catName : Text) (time : Int32) : Table :=
  { (newIcebergTable dbName tableName location metadataLocation cols).normal (sent v catName) with
    createTime := timeFromUnix32 time }

private theorem asRegistered_known {id : TableId}
    (supports : Supports v (effectiveCatalog cfg [] []))
    (tameCatalog : Tame (effectiveCatalog cfg [] [])) (tameDatabase : Tame dbName)
    (tame : Tame tableName)
    (named : TableId.of (effectiveCatalog cfg [] []) dbName tableName = some id) (time : Int32) :
    Registered cfg v dbName tableName id
      (asRegistered dbName tableName location metadataLocation cols v
        (effectiveCatalog cfg [] []) time) := by
  refine ⟨supports, tameCatalog, tameDatabase, tame, named, ?_, rfl, ?_⟩
  · change (sent v (effectiveCatalog cfg [] [])).getD defaultCatalog = effectiveCatalog cfg [] []
    by_cases old : v = .hive23
    · rw [sent, if_pos old]
      exact (supports.resolve_left (not_not.mpr old)).symm
    · rw [sent, if_neg old]
      rfl
  · have settled := (table_codec (sent v (effectiveCatalog cfg [] []))).idempotent
      (newIcebergTable dbName tableName location metadataLocation cols)
    have timed : (timeFromUnix32 time).normal = timeFromUnix32 time := by
      rw [← timeFromUnix32_unix32FromTime, unix32_round_trip]
    have kept := congrArg (fun t : Table => { t with createTime := timeFromUnix32 time }) settled
    refine Eq.trans ?_ kept
    rw [asRegistered, Table.normal, timed]
    rfl

/-- The table as registered, before any writer has looked at it. -/
private theorem holds_registered {id : TableId} (represents : Represents b.toMetastore ns)
    (there : ns.tables id = some (created v clock catName
      (newIcebergTable dbName tableName location metadataLocation cols))) :
    Holds (asRegistered dbName tableName location metadataLocation cols v catName (clock 0)) id ns
      ⟨b, fun _ => none⟩ (registeredAt metadataLocation) := by
  let table := newIcebergTable dbName tableName location metadataLocation cols
  refine ⟨represents, ⟨_, _, there, created_normal .., ⟨?_, fun key _ _ => ?_⟩, ?_⟩, fun _ => .none⟩
  · exact (StringMap.lookup_tidy table.parameters _).trans rfl
  · rfl
  · exact (StringMap.lookup_tidy table.parameters _).trans rfl

end Registration

/-- However reads, commits and other operations of any number of writers interleave: the
table carries the location of the last commit and otherwise is as it was registered, and a
commit points back to what its writer had read, past all that was committed since. -/
theorem iceberg_commits_race (setup : Setup) (complete : setup.without = []) (cfg : Config)
    (dbName tableName location metadataLocation : Text) (cols : Slice FieldSchema)
    (before : List Step) (s : Session Unit) (moves : List Move) (s' : Session (Option Table))
    (id : TableId) (named : TableId.of (effectiveCatalog cfg [] []) dbName tableName = some id)
    (readyBefore : ∀ step ∈ before, step.Ready cfg setup.v)
    (ready : ∀ step ∈ [(⟨.createTable (newIcebergTable dbName tableName location metadataLocation
        cols), s⟩ : Step), ⟨.getTable dbName tableName [], s'⟩], step.Ready cfg setup.v)
    (readyMoves : ∀ move ∈ moves, move.Ready cfg setup.v id) :
    let table := newIcebergTable dbName tableName location metadataLocation cols
    let create := Step.run setup cfg ⟨.createTable table, s⟩
      (afterSteps setup cfg before (newBackend setup.v))
    let race := Race.run setup cfg dbName tableName ⟨create.2, fun _ => none⟩ moves
    let p := (registeredAt metadataLocation).run moves
    let read := Step.run setup cfg ⟨.getTable dbName tableName [], s'⟩ race.backend
    create.1.1 = .ok () → read.1.1 = .ok () ∧ ∃ t n, read.1.2.captured = some t ∧
      t.parameters.lookup paramMetadataLocation = some p.current ∧
      t.parameters.lookup paramPreviousMetadataLocation = p.previous ∧
      (∀ key, key ≠ paramMetadataLocation → key ≠ paramPreviousMetadataLocation →
        t.parameters.lookup key = table.parameters.lookup key) ∧
      { t with parameters := none, raw := none } =
        { asRegistered dbName tableName location metadataLocation cols setup.v
            (effectiveCatalog cfg [] []) (setup.now n 0) with parameters := none } ∧
      ∀ earlier writer look between current commit,
        moves = earlier ++ .look writer look :: between ++ [.commit writer current commit] →
        (∀ move ∈ between, ¬ move.IsBy writer) →
        p.current = current ∧
          p.previous = some ((registeredAt metadataLocation).run earlier).current := by
  intro table create race p read succeeds
  obtain ⟨fits, knows⟩ := ready _ (.head _)
  have readyRead := ready _ (.tail _ (.head _))
  obtain ⟨ns, represents, -⟩ :=
    afterSteps_represents complete readyBefore
      (represents_empty (m := (newBackend setup.v).toMetastore) rfl rfl)
  obtain ⟨n, made, ended, left⟩ := operation_ends complete knows represents fits
  have there : made.tables id = _ := Ends.creates (succeeds ▸ ended) named
  have names := fits.named
  obtain ⟨_, ⟨rfl⟩, tame⟩ := names
  have known : Registered cfg setup.v dbName tableName id
      (asRegistered dbName tableName location metadataLocation cols setup.v
        (effectiveCatalog cfg [] []) (setup.now n 0)) :=
    asRegistered_known _ _ _ _ _ fits.supports fits.tameCatalog (tame _ (.head _))
      (tame _ (.tail _ (.head _))) named _
  obtain ⟨ns', holds⟩ := run_holds complete known (holds_registered _ _ _ _ _ left there) readyMoves
  obtain ⟨tbl, m, there', same, carries, previous⟩ := holds.stored
  obtain ⟨outcome, captured, -⟩ :=
    getTable_of_there complete readyRead holds.represents named there'
  have parameters : (tableFromThrift tbl).parameters = m := congrArg Table.parameters same
  refine ⟨outcome, _, n, captured, ?_, ?_, ?_, ?_, ?_⟩
  · rw [parameters]
    exact carries.current
  · rw [parameters]
    exact previous
  · intro key other other'
    rw [parameters, carries.others key other other']
    exact StringMap.lookup_tidy table.parameters key
  · exact congrArg (fun t : Table => { t with parameters := none }) same
  · intro earlier writer look between current commit split others
    have pointed := run_commit others earlier (registeredAt metadataLocation) look current commit
    rw [← split] at pointed
    exact pointed

/-- Two writers read the table, and then both commit. -/
def twoWriters : List Move :=
  [.look 0 (newSession none), .look 1 (newSession none), .commit 0 [97] (newSession ()),
    .commit 1 [98] (newSession ())]

theorem overtaken_commit_is_skipped :
    let create := Step.run (standing .hive31) plainConfig
      ⟨.createTable (newIcebergTable [100] [116] [47] [109] none), newSession ()⟩
      (newBackend .hive31)
    let race := Race.run (standing .hive31) plainConfig [100] [116] ⟨create.2, fun _ => none⟩
      twoWriters
    let read := Step.run (standing .hive31) plainConfig ⟨.getTable [100] [116] [], newSession none⟩
      race.backend
    ∃ t, read.1.2.captured = some t ∧ t.parameters.lookup paramMetadataLocation = some [98] ∧
      t.parameters.lookup paramPreviousMetadataLocation = some [109] := by
  have supports : Supports .hive31 defaultCatalog := .inr rfl
  have tame : Tame defaultCatalog := by decide
  obtain ⟨-, t, -, captured, current, previous, -⟩ := iceberg_commits_race (standing .hive31) rfl
    plainConfig [100] [116] [47] [109] none [] (newSession ()) twoWriters (newSession none)
    ⟨⟨⟨defaultCatalog, by decide⟩, ⟨[100], by decide⟩⟩, ⟨[116], by decide⟩⟩ (by decide)
    (List.forall_mem_nil _)
    (by
      intro step listed
      simp only [List.mem_cons, List.not_mem_nil, or_false] at listed
      rcases listed with rfl | rfl
      · exact ⟨⟨supports, tame, _, rfl, by decide⟩, .inl rfl⟩
      · exact ⟨⟨supports, tame, _, rfl, by decide⟩, .inl rfl⟩)
    (by
      intro move listed
      simp only [twoWriters, List.mem_cons, List.not_mem_nil, or_false] at listed
      rcases listed with rfl | rfl | rfl | rfl
      · exact .inl rfl
      · exact .inl rfl
      · exact .inl rfl
      · exact .inl rfl)
    (ok_of_classified (by decide +kernel))
  exact ⟨t, captured, current, previous⟩

end HmsClient.Hmstest.Iceberg
