import HmsClient.FakeMetastore

/-! Requests that fail against the fake metastore. All handlers but one look before they
write. `DropPartitionsReq` cuts partitions out of the array that the store shows while it
still looks for names, so a missing name leaves the partitions behind the cuts moved. -/
namespace HmsClient.Hmstest

/-- What a request that failed should leave. Of the partitions a reader sees the lists. -/
structure Unchanged (m m' : Metastore) : Prop where
  catalogs : m'.catalogs = m.catalogs
  databases : m'.databases = m.databases
  tables : m'.tables = m.tables
  events : m'.events = m.events
  partitions : ∀ key, m'.partitionsAt key = m.partitionsAt key

/-- Whether a name is missing after a partition was cut out that others, unlike it, were
behind. -/
def movesThenFails (tbl : Wire.Table) : Bool → List Text → List Wire.Partition → Bool
  | _, [], _ => false
  | moved, name :: rest, parts =>
    let idx := parts.findIdx fun p => partitionName tbl p = name
    if idx < parts.length then
      movesThenFails tbl (moved || parts.eraseIdx idx ≠ parts.dropLast) rest (parts.eraseIdx idx)
    else moved

/-- A request to drop partitions by name that comes to drop some and then fails. -/
def Metastore.halfDrops (e : Emulation) (m : Metastore) (request : Request) : Bool :=
  match request.rpc with
  | .inr (.dropPartitionsReq req) =>
    match m.dropTarget e request.other req with
    | some (key, tbl) => movesThenFails tbl false req.names.items (m.partitionsAt key)
    | none => false
  | _ => false

/-! ## The loop -/

section Loop
variable {tbl : Wire.Table}

private theorem dropLoop_ends (ends : s.Ends m c) : (dropLoop tbl names s).2.Ends m c := by
  induction names generalizing s with
  | nil => exact ends
  | cons name rest ih =>
    rw [dropLoop]
    split
    · next inside => exact ih (ends.removeAt inside)
    · exact ends

private theorem movesThenFails_moved (names : List Text) (s : BackingArray Wire.Partition) :
    movesThenFails tbl true names s.view = true ↔ (dropLoop tbl names s).1 = false := by
  induction names generalizing s with
  | nil => simp [movesThenFails, dropLoop]
  | cons name rest ih =>
    simp only [movesThenFails, dropLoop, s.length_view, Bool.true_or]
    split
    · next inside => rw [← ih, BackingArray.view_removeAt]
    · simp

/-- The loop fails with the array changed. -/
private theorem movesThenFails_iff (tbl : Wire.Table) (names : List Text)
    (s : BackingArray Wire.Partition) :
    movesThenFails tbl false names s.view = true ↔
      (dropLoop tbl names s).1 = false ∧ (dropLoop tbl names s).2.array ≠ s.array := by
  induction names generalizing s with
  | nil => simp [movesThenFails, dropLoop]
  | cons name rest ih =>
    simp only [movesThenFails, dropLoop, s.length_view, Bool.false_or]
    split
    · next inside =>
      rw [← BackingArray.view_removeAt s _ inside]
      by_cases still : (s.removeAt _ inside).array = s.array
      · have cut := (s.array_removeAt_eq_iff _ inside).mp still
        rw [BackingArray.view_removeAt, decide_eq_false (not_not.mpr cut),
          ← BackingArray.view_removeAt s _ inside, ih, still]
      · have cut := mt (s.array_removeAt_eq_iff _ inside).mpr still
        rw [BackingArray.view_removeAt, decide_eq_true cut,
          ← BackingArray.view_removeAt s _ inside, movesThenFails_moved]
        refine ⟨fun fails => ⟨fails, fun same => ?_⟩, And.left⟩
        obtain ⟨m, c, ends, wrong⟩ := BackingArray.ends_of_moved inside still
        exact wrong (same ▸ (dropLoop_ends ends).here)
    · simp

end Loop

/-! ## Every request -/

private theorem unchanged_self (m : Metastore) : Unchanged m m := ⟨rfl, rfl, rfl, rfl, fun _ => rfl⟩

private theorem unchanged_setPartitions_iff (m : Metastore) (key : Text)
    (parts : List Wire.Partition) :
    Unchanged m { m with toStore := m.toStore.setPartitions key parts } ↔
      parts = m.partitionsAt key := by
  constructor
  · intro unchanged
    have here := unchanged.partitions key
    rwa [Store.partitionsAt, Store.setPartitions, AList.lookup_insert] at here
  · rintro rfl
    refine ⟨rfl, rfl, rfl, rfl, fun other => ?_⟩
    by_cases same : other = key
    · rw [same, Store.partitionsAt, Store.setPartitions, AList.lookup_insert]
      rfl
    · rw [Store.partitionsAt, Store.setPartitions, AList.lookup_insert_ne same]
      rfl

/-- Whatever looks first keeps all when it fails. -/
private theorem unchanged_of_looksFirst (looksFirst : LooksFirst m effect answered) (err : Thrown)
    (failed : answered.1 = .error err) : Unchanged m answered.2 := by
  cases looksFirst with
  | failed err => exact unchanged_self m
  | succeeded done => cases failed

private theorem dropping_unchanged_iff (target : m.dropTarget e other req = some (key, tbl)) :
    (∀ err, (handleWrite e clock m other (.dropPartitionsReq req)).1 = .error err →
        Unchanged m (handleWrite e clock m other (.dropPartitionsReq req)).2) ↔
      movesThenFails tbl false req.names.items (m.partitionsAt key) = false := by
  have moves := movesThenFails_iff tbl req.names.items (.whole (m.partitionsAt key))
  rw [BackingArray.view_whole] at moves
  rw [dropPartitionsReq_dropping target, ← Bool.not_eq_true, moves]
  dsimp only
  split
  · next all => simp [all]
  · next missing =>
    rw [unchanged_setPartitions_iff, and_iff_right (Bool.eq_false_iff.mpr missing), not_not]
    exact ⟨fun restored => restored _ rfl, fun restored _ _ => restored⟩

/-- A request that fails leaves all as it was, unless it drops partitions by name and comes
to a missing name after it cut out a partition with others behind it. -/
theorem failed_request_changes_nothing_iff (e : Emulation) (m : Metastore) (request : Request) :
    (∀ err, (m.handle e request).1 = .error err → Unchanged m (m.handle e request).2) ↔
      m.halfDrops e request = false := by
  obtain ⟨rpc, other, clock⟩ := request
  cases rpc with
  | inl rpc => exact iff_of_true (fun _ _ => unchanged_self m) rfl
  | inr rpc =>
    by_cases byName : ∃ req, rpc = .dropPartitionsReq req
    · obtain ⟨req, rfl⟩ := byName
      simp only [Metastore.handle, Metastore.halfDrops]
      cases target : m.dropTarget e other req with
      | none =>
        obtain ⟨err, fails⟩ : ∃ err, handleWrite e clock m other (.dropPartitionsReq req) =
          (.error err, m) := dropPartitionsReq_refused target
        rw [fails]
        exact iff_of_true (fun _ _ => unchanged_self m) rfl
      | some found => exact dropping_unchanged_iff target
    · have unnamed : ∀ req, rpc ≠ .dropPartitionsReq req := fun req same => byName ⟨req, same⟩
      have halfDrops : m.halfDrops e ⟨.inr rpc, other, clock⟩ = false := by
        cases rpc <;> first | rfl | exact absurd rfl (unnamed _)
      exact iff_of_true (unchanged_of_looksFirst (handleWrite_looksFirst other unnamed)) halfDrops

/-- A request to drop the first of two partitions and one that is missing. -/
def dropFirstAndMissing : Request where
  rpc := .inr (.dropPartitionsReq
    { dbName := [100], tblName := [116], names := some [[107, 61, 97], [107, 61, 122]],
      deleteData := none, ifExists := false, needResult := false, catName := none })

/-- The request fails, and the store shows the second partition twice. -/
theorem failed_drop_shifts_partitions :
    let e := withoutPatterns .hive40
    let m := newStore.run e twoPartitions
    let key := tblKey defaultCatalog [100] [116]
    (m.handle e dropFirstAndMissing).1 = .error partitionsMissing ∧
      valuesOf (m.partitionsAt key) = [[[97]], [[98]]] ∧
      valuesOf ((m.handle e dropFirstAndMissing).2.partitionsAt key) = [[[98]], [[98]]] ∧
      ¬ Unchanged m (m.handle e dropFirstAndMissing).2 := by
  intro e m key
  have before : valuesOf (m.partitionsAt key) = [[[97]], [[98]]] := by decide +kernel
  have after : valuesOf ((m.handle e dropFirstAndMissing).2.partitionsAt key) =
      [[[98]], [[98]]] := by decide +kernel
  refine ⟨by decide +kernel, before, after, fun unchanged => ?_⟩
  rw [unchanged.partitions key, before] at after
  revert after
  decide

end HmsClient.Hmstest
