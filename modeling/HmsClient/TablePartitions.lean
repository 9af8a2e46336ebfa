import HmsClient.FakeMetastore

/-! Tables and their partitions over runs of requests that succeed. The two maps of the
fake metastore stay in step under every request but a rename: `AlterTable` moves a table to
its new key and leaves the partitions at the old one. -/
namespace HmsClient.Hmstest

/-- Every partition belongs to a table, and a table has no two with the same values. -/
structure Metastore.Sound (m : Metastore) : Prop where
  attached : ∀ key, m.partitionsAt key ≠ [] → key ∈ m.tables
  distinct : ∀ key, (valuesOf (m.partitionsAt key)).Nodup

/-- What a step of a run should be like: it ends in order, an altered table keeps its
partitions under the name it has then, and a new table starts without any. -/
structure Belongs (e : Emulation) (m : Metastore) (request : Request) (m' : Metastore) : Prop where
  sound : m'.Sound
  altered : ∀ dbName tblName newTbl catName db,
    request.rpc = .inr (.alterTable dbName tblName newTbl) →
    resolveDB e.v dbName = .ok (catName, db) →
    m'.partitionsAt (tblKey catName db newTbl.tableName) = m.partitionsAt (tblKey catName db tblName)
  created : ∀ tbl catName, request.rpc = .inr (.createTable tbl) →
    cat e.v tbl.catName = .ok catName →
    m'.partitionsAt (tblKey catName tbl.dbName tbl.tableName) = []

/-- A rename, if any, is of a table without partitions to a name without partitions. -/
def RenamesEmpty (e : Emulation) (m : Metastore) (request : Request) (_ : Metastore) : Prop :=
  ∀ dbName tblName newTbl catName db,
    request.rpc = .inr (.alterTable dbName tblName newTbl) →
    resolveDB e.v dbName = .ok (catName, db) → newTbl.tableName ≠ tblName →
    m.partitionsAt (tblKey catName db tblName) = [] ∧
      m.partitionsAt (tblKey catName db newTbl.tableName) = []

/-- All requests of a run succeed. -/
def Metastore.Succeeds (e : Emulation) : Metastore → List Request → Prop
  | _, [] => True
  | m, request :: rest => (m.handle e request).1 = .ok () ∧ (m.handle e request).2.Succeeds e rest

/-- A relation holds between the ends of every step of a run. -/
def Metastore.Along (e : Emulation) (step : Metastore → Request → Metastore → Prop) :
    Metastore → List Request → Prop
  | _, [] => True
  | m, request :: rest =>
    step m request (m.handle e request).2 ∧ (m.handle e request).2.Along e step rest

/-! ## One step -/

section Step
variable {e : Emulation} {m m' : Metastore}

theorem newStore_sound : newStore.Sound :=
  ⟨fun _ listed => absurd rfl listed, fun _ => List.nodup_nil⟩

private theorem partitionsAt_congr (same : m'.partitions = m.partitions) (key : Text) :
    m'.partitionsAt key = m.partitionsAt key := by
  rw [Store.partitionsAt, same]
  rfl

private theorem lookup_foldl_erase {β : Text → Type} (keys : List Text) (entries : AList β)
    (key : Text) : (keys.foldl (fun entries tk => entries.erase tk) entries).lookup key =
      if key ∈ keys then none else entries.lookup key := by
  induction keys generalizing entries with
  | nil => rfl
  | cons tk rest ih =>
    rw [List.foldl_cons, ih]
    by_cases same : key = tk
    · subst same
      simp
    · simp [same, AList.lookup_erase_ne same]

/-- Lists that stay, of tables that stay. -/
private theorem Metastore.Sound.of_partitions_eq (sound : m.Sound)
    (partitions : m'.partitions = m.partitions)
    (tables : ∀ key, m.partitionsAt key ≠ [] → key ∈ m.tables → key ∈ m'.tables) : m'.Sound := by
  refine ⟨fun key listed => ?_, fun key => ?_⟩
  · rw [partitionsAt_congr partitions] at listed
    exact tables key listed (sound.attached key listed)
  · rw [partitionsAt_congr partitions]
    exact sound.distinct key

private theorem Metastore.Sound.of_steady (sound : m.Sound) (steady : Steady m m') : m'.Sound := by
  cases steady with
  | elsewhere tables partitions =>
    exact sound.of_partitions_eq partitions fun key _ present => tables ▸ present
  | dropped keys tables partitions =>
    have listedAt : ∀ key, m'.partitionsAt key = if key ∈ keys then [] else m.partitionsAt key := by
      intro key
      rw [Store.partitionsAt, partitions, lookup_foldl_erase]
      split
      · rfl
      · rfl
    refine ⟨fun key listed => ?_, fun key => ?_⟩
    · rw [listedAt] at listed
      split at listed
      · exact absurd rfl listed
      · next kept =>
        have present := sound.attached key listed
        rw [← AList.lookup_isSome] at present ⊢
        rwa [tables, lookup_foldl_erase, if_neg kept]
    · rw [listedAt]
      split
      · exact List.nodup_nil
      · exact sound.distinct key
  | listed key parts tables partitions attached distinct =>
    have here : m'.partitionsAt key = parts := by
      rw [Store.partitionsAt, partitions, AList.lookup_insert]
      rfl
    have elsewhere : ∀ other, other ≠ key → m'.partitionsAt other = m.partitionsAt other := by
      intro other differs
      rw [Store.partitionsAt, partitions, AList.lookup_insert_ne differs]
      rfl
    refine ⟨fun other listed => ?_, fun other => ?_⟩
    · rw [tables]
      by_cases same : other = key
      · rw [same, here] at listed
        rw [same]
        rcases attached listed with before | present
        · exact sound.attached key before
        · exact present
      · rw [elsewhere other same] at listed
        exact sound.attached other listed
    · by_cases same : other = key
      · rw [same, here]
        exact distinct (sound.distinct key)
      · rw [elsewhere other same]
        exact sound.distinct other

private theorem tblKey_ne (differs : tbl ≠ tbl') :
    tblKey catName db tbl ≠ tblKey catName db tbl' := by
  intro same
  simp only [tblKey, List.append_cancel_left_eq, List.cons.injEq, true_and] at same
  exact differs same

private theorem renamesEmpty_of_other
    (alters : ∀ dbName tblName newTbl, request.rpc ≠ .inr (.alterTable dbName tblName newTbl)) :
    RenamesEmpty e m request m' :=
  fun dbName tblName newTbl _ _ called => absurd called (alters dbName tblName newTbl)

private theorem belongs_of_other (sound : m'.Sound)
    (alters : ∀ dbName tblName newTbl, request.rpc ≠ .inr (.alterTable dbName tblName newTbl))
    (creates : ∀ tbl, request.rpc ≠ .inr (.createTable tbl)) :
    Belongs e m request m' ↔ RenamesEmpty e m request m' := by
  refine iff_of_true ⟨sound, ?_, ?_⟩ (renamesEmpty_of_other alters)
  · exact fun dbName tblName newTbl _ _ called => absurd called (alters dbName tblName newTbl)
  · exact fun tbl _ called => absurd called (creates tbl)

private theorem belongs_of_created (sound : m.Sound)
    (called : request.rpc = .inr (.createTable tbl)) (done : Created e m tbl m') :
    Belongs e m request m' ↔ RenamesEmpty e m request m' := by
  obtain ⟨⟨catName, resolved, absent, stored, tables⟩, partitions⟩ := done
  refine iff_of_true ⟨sound.of_partitions_eq partitions fun key _ present => ?_, ?_, ?_⟩
    (renamesEmpty_of_other (by simp [called]))
  · rw [tables]
    exact (AList.mem_insert m.tables).mpr (.inr present)
  · intro dbName tblName newTbl _ _ called'
    cases called.symm.trans called'
  · intro tbl' catName' called' resolved'
    cases called.symm.trans called'
    cases resolved.symm.trans resolved'
    rw [partitionsAt_congr partitions]
    exact by_contra fun listed => absent (sound.attached _ listed)

private theorem belongs_of_altered_iff (sound : m.Sound)
    (called : request.rpc = .inr (.alterTable dbName tblName newTbl))
    (done : Altered e m dbName tblName newTbl m') :
    Belongs e m request m' ↔ RenamesEmpty e m request m' := by
  obtain ⟨⟨catName, db, resolved, tables⟩, partitions⟩ := done
  constructor
  · intro belongs dbName' tblName' newTbl' catName' db' called' resolved' renamed
    cases called.symm.trans called'
    cases resolved.symm.trans resolved'
    have moved := belongs.altered _ _ _ _ _ called resolved
    rw [partitionsAt_congr partitions] at moved
    -- A list that stays at the old key has no table there any more.
    have empty : m.partitionsAt (tblKey catName db tblName) = [] := by
      by_contra listed
      rw [← partitionsAt_congr partitions] at listed
      have present := belongs.sound.attached _ listed
      rw [tables, AList.mem_insert] at present
      rcases present with same | kept
      · exact tblKey_ne (Ne.symm renamed) same
      · exact (AList.mem_erase.mp kept).1 rfl
    exact ⟨empty, moved.trans empty⟩
  · intro renamesEmpty
    have here := renamesEmpty _ _ _ _ _ called resolved
    refine ⟨sound.of_partitions_eq partitions fun key listed present => ?_, ?_, ?_⟩
    · rw [tables, AList.mem_insert]
      by_cases old : key = tblKey catName db tblName
      · by_cases renamed : newTbl.tableName = tblName
        · exact .inl (renamed ▸ old)
        · exact absurd (here renamed).1 (old ▸ listed)
      · exact .inr (AList.mem_erase.mpr ⟨old, present⟩)
    · intro dbName' tblName' newTbl' catName' db' called' resolved'
      cases called.symm.trans called'
      cases resolved.symm.trans resolved'
      rw [partitionsAt_congr partitions]
      by_cases renamed : newTbl.tableName = tblName
      · rw [renamed]
      · rw [(here renamed).1, (here renamed).2]
    · intro tbl _ called'
      cases called.symm.trans called'

/-- A step that succeeds keeps partitions with their tables, unless it is a rename that
leaves partitions behind or finds some. -/
private theorem belongs_iff (sound : m.Sound) (succeeds : (m.handle e request).1 = .ok ()) :
    Belongs e m request (m.handle e request).2 ↔
      RenamesEmpty e m request (m.handle e request).2 := by
  obtain ⟨rpc, other, clock⟩ := request
  cases rpc with
  | inl rpc => exact belongs_of_other sound (by simp) (by simp)
  | inr rpc =>
    have effect := handleWrite_effect succeeds
    cases rpc with
    | createTable tbl => exact belongs_of_created sound rfl effect
    | alterTable dbName tblName newTbl => exact belongs_of_altered_iff sound rfl effect
    | _ => exact belongs_of_other (sound.of_steady effect) (by simp) (by simp)

end Step

/-! ## Runs -/

private theorem along_belongs_iff {m : Metastore} (sound : m.Sound)
    (succeed : m.Succeeds e requests) :
    m.Along e (Belongs e) requests ↔ m.Along e (RenamesEmpty e) requests := by
  induction requests generalizing m with
  | nil => exact Iff.rfl
  | cons request rest ih =>
    obtain ⟨succeeds, succeed⟩ := succeed
    have step := belongs_iff sound succeeds
    rw [Metastore.Along, Metastore.Along, ← step]
    exact and_congr_right fun belongs => ih belongs.sound succeed

/-- Over every run of requests that succeed, partitions stay with their tables exactly if
each table that is renamed has none, and takes a name that has none. -/
theorem partitions_stay_with_tables_iff (e : Emulation) (requests : List Request)
    (succeed : newStore.Succeeds e requests) :
    newStore.Sound ∧ newStore.Along e (Belongs e) requests ↔
      newStore.Along e (RenamesEmpty e) requests := by
  rw [along_belongs_iff newStore_sound succeed]
  exact and_iff_right newStore_sound

/-- The table is altered under its name, dropped, and created again. -/
def alteredInPlace : List Request :=
  twoPartitions ++
    [{ rpc := .inr (.alterTable [100] [116] { tableT with viewOriginalText := [118] }) },
      { rpc := .inr (.dropTable [100] [116] true) },
      { rpc := .inr (.createTable tableT) }]

theorem partitions_stay_with_altered_table :
    newStore.Succeeds (withoutPatterns .hive40) alteredInPlace ∧
      newStore.Sound ∧
        newStore.Along (withoutPatterns .hive40) (Belongs (withoutPatterns .hive40)) alteredInPlace := by
  have succeed : newStore.Succeeds (withoutPatterns .hive40) alteredInPlace :=
    ⟨rfl, rfl, rfl, rfl, rfl, trivial⟩
  refine ⟨succeed, (partitions_stay_with_tables_iff _ alteredInPlace succeed).mpr ?_⟩
  have sameName : ∀ m m', RenamesEmpty (withoutPatterns .hive40) m
      { rpc := .inr (.alterTable [100] [116] { tableT with viewOriginalText := [118] }) } m' := by
    intro m m' dbName tblName newTbl catName db called _ renamed
    cases called
    exact absurd rfl renamed
  exact ⟨renamesEmpty_of_other (by simp), renamesEmpty_of_other (by simp), sameName _ _,
    renamesEmpty_of_other (by simp), renamesEmpty_of_other (by simp), trivial⟩

/-- The table is renamed to "u" and created again. -/
def renamedAway : List Request :=
  twoPartitions ++
    [{ rpc := .inr (.alterTable [100] [116] { tableT with tableName := [117] }) },
      { rpc := .inr (.createTable tableT) }]

/-- The renamed table has no partitions, and the new one starts with those of the old. -/
theorem renamed_table_loses_partitions :
    let e := withoutPatterns .hive40
    let after := newStore.run e renamedAway
    newStore.Succeeds e renamedAway ∧
      after.partitionsAt (tblKey defaultCatalog [100] [117]) = [] ∧
      valuesOf (after.partitionsAt (tblKey defaultCatalog [100] [116])) = [[[97]], [[98]]] ∧
      ¬ (newStore.Sound ∧ newStore.Along e (Belongs e) renamedAway) := by
  intro e after
  refine ⟨⟨rfl, rfl, rfl, rfl, trivial⟩, rfl, by decide +kernel, ?_⟩
  rintro ⟨-, -, -, renamed, -⟩
  have moved := renamed.altered [100] [116] _ defaultCatalog [100] rfl rfl
  exact absurd (congrArg List.length moved) (by decide +kernel)

end HmsClient.Hmstest
