import HmsClient.Batching
import HmsClient.FakeMetastore
import HmsClient.NetUrl
import HmsClient.PartitionNames

/-! The names that the client builds for partitions and those the fake metastore lists for
them. The client writes keys in lower case, escapes keys and values and has a stand-in for
what is empty, as a real metastore does; the fake one writes both as they are. So the two
agree where there is nothing to lower, to escape or to stand in for, and only there can a
partition be dropped by the values it was added with. -/
namespace HmsClient.Hmstest
open PeerScript

/-! ## Two builders of names -/

/-- A text that the client writes into a name as it is. -/
def Plain (s : Text) : Prop := s ≠ [] ∧ ∀ c ∈ s, needsPartitionPathEscaping c = false

/-- Keys in lower case and values, with nothing to escape in them and none of them empty. -/
def WrittenAsIs (toLower : Text → Text) (keys values : List Text) : Prop :=
  (∀ k ∈ keys, toLower k = k ∧ Plain k) ∧ ∀ v ∈ values, Plain v

/-- What one knows of `strings.ToLower`, which puts letters for letters and keeps what else
there is of ASCII. -/
def KeepsMarks (toLower : Text → Text) : Prop :=
  ∀ (s : Text) (c : UInt8), c < 128 → ¬(65 ≤ c ∧ c ≤ 90) → ¬(97 ≤ c ∧ c ≤ 122) →
    (toLower s).count c = s.count c

/-- Both builders give a partition with these values one name. -/
def NamesAgree (toLower : Text → Text) (keys values : List Text) : Prop :=
  ∀ (tbl : Wire.Table) (p : Wire.Partition), tbl.partitionKeys.items.map (·.name) = keys →
    p.values.items = values →
      HmsClient.partitionName toLower keys values = .ok (partitionName tbl p)

section Separated
variable {α : Type} [DecidableEq α] {sep : α} {xs ys : List (List α)}

private theorem length_le_count (nonempty : xs ≠ []) :
    xs.length ≤ ([sep].intercalate xs).count sep + 1 := by
  induction xs with
  | nil => exact absurd rfl nonempty
  | cons x xs ih =>
    cases xs with
    | nil => simp
    | cons x' xs =>
      have rest := ih nofun
      rw [List.intercalate_cons_cons, List.count_append, List.count_append]
      simp only [List.length_cons, List.count_singleton_self] at rest ⊢
      omega

/-- Joined texts hold the separator once for each gap, if none of them holds it. -/
private theorem count_joined_iff (nonempty : xs ≠ []) :
    ([sep].intercalate xs).count sep + 1 = xs.length ↔ ∀ x ∈ xs, sep ∉ x := by
  induction xs with
  | nil => exact absurd rfl nonempty
  | cons x xs ih =>
    cases xs with
    | nil => simp [List.count_eq_zero]
    | cons x' xs =>
      have rest := ih nofun
      have least : (x' :: xs).length ≤ ([sep].intercalate (x' :: xs)).count sep + 1 :=
        length_le_count nofun
      rw [List.forall_mem_cons, ← rest, ← List.count_eq_zero, List.intercalate_cons_cons,
        List.count_append, List.count_append]
      simp only [List.length_cons, List.count_singleton_self] at least ⊢
      omega

/-- So what equally many texts without it are joined to can be taken apart in one way. -/
private theorem joined_inj (same : xs.length = ys.length) (free : ∀ y ∈ ys, sep ∉ y)
    (equal : [sep].intercalate xs = [sep].intercalate ys) : xs = ys := by
  by_cases none : ys = []
  · rw [none, List.length_nil, List.length_eq_zero_iff] at same
    rw [none, same]
  · have some : xs ≠ [] := fun empty => none (by simpa [empty, eq_comm] using same)
    have counted := (count_joined_iff none).mpr free
    rw [← equal, ← same] at counted
    have splits := List.splitOn_intercalate sep ((count_joined_iff some).mp counted) some
    rw [equal, List.splitOn_intercalate sep free none] at splits
    exact splits.symm

end Separated

variable {toLower : Text → Text} {keys values : List Text}

/-- A text is its own escaped lower case if it is in lower case and plain. -/
private theorem escape_lower_iff (keeps : KeepsMarks toLower) (s : Text) :
    s = escapePartitionPathName (toLower s) ↔ toLower s = s ∧ Plain s := by
  constructor
  · intro fixed
    by_cases empty : toLower s = []
    · -- The stand-in holds underscores, which `toLower` would have kept.
      have named : s = defaultPartitionName := by
        rw [fixed, escapePartitionPathName, if_pos empty]
      have underscores := keeps s 95 (by decide) (by decide) (by decide)
      rw [empty, named] at underscores
      exact absurd underscores (by decide)
    · rw [escapePartitionPathName, if_neg empty] at fixed
      have unmarked := PercentCoding.unmarked_of_counts rfl rfl
        (by rw [← fixed, keeps s 37 (by decide) (by decide) (by decide)])
        (by rw [← fixed, keeps s 50 (by decide) (by decide) (by decide)])
      rw [PercentCoding.encode_unmarked unmarked] at fixed
      rw [← fixed] at unmarked empty ⊢
      exact ⟨rfl, empty, unmarked⟩
  · rintro ⟨lower, nonempty, plain⟩
    rw [lower, escapePartitionPathName, if_neg nonempty, PercentCoding.encode_unmarked plain]

private theorem escape_iff (s : Text) : s = escapePartitionPathName s ↔ Plain s :=
  (@escape_lower_iff id (fun _ _ _ _ _ => rfl) s).trans (and_iff_right rfl)

/-- A segment of a name that the server lists. -/
private def listedSegment (key value : Text) : Text := key ++ 61 :: value

private theorem partitionName_listed (same : values.length = keys.length)
    (keyed : tbl.partitionKeys.items.map (·.name) = keys) (valued : p.values.items = values) :
    partitionName tbl p = [47].intercalate (List.zipWith listedSegment keys values) := by
  subst keyed valued
  rw [List.length_map] at same
  rw [partitionName]
  congr 1
  refine List.ext_getElem (by simp [same]) fun i inside _ => ?_
  rw [List.length_mapIdx] at inside
  simp [listedSegment, same, inside]

private theorem segments_agree_iff (keeps : KeepsMarks toLower) (key value : Text) :
    listedSegment key value = segment toLower key value ↔
      (toLower key = key ∧ Plain key) ∧ Plain value := by
  rw [← escape_lower_iff keeps, ← escape_iff]
  constructor
  · intro equal
    have joined : [61].intercalate [key, value] = [61].intercalate
        [escapePartitionPathName (toLower key), escapePartitionPathName value] := by
      simpa [listedSegment, segment] using equal
    have free : ∀ s ∈ [escapePartitionPathName (toLower key), escapePartitionPathName value],
        61 ∉ s := by
      simp [equals_not_mem_escape]
    simpa using joined_inj (by simp) free joined
  · rintro ⟨keyFixed, valueFixed⟩
    rw [segment, ← keyFixed, ← valueFixed, listedSegment]

private theorem zipWith_agree_iff {P Q : Text → Prop} (each : ∀ k v, f k v = g k v ↔ P k ∧ Q v)
    (same : values.length = keys.length) :
    List.zipWith f keys values = List.zipWith g keys values ↔
      (∀ k ∈ keys, P k) ∧ ∀ v ∈ values, Q v := by
  induction keys generalizing values with
  | nil => simp [List.length_eq_zero_iff.mp same]
  | cons k keys ih =>
    obtain ⟨v, values, rfl⟩ := List.exists_cons_of_length_eq_add_one same
    rw [List.zipWith_cons_cons, List.zipWith_cons_cons, List.cons.injEq, each,
      ih (Nat.succ.inj same), List.forall_mem_cons, List.forall_mem_cons]
    exact and_and_and_comm

/-- The two names of a partition are one if all of it is written as it is. -/
private theorem listed_eq_iff (keeps : KeepsMarks toLower) (same : values.length = keys.length) :
    [47].intercalate (List.zipWith listedSegment keys values) =
        [47].intercalate (List.zipWith (segment toLower) keys values) ↔
      WrittenAsIs toLower keys values := by
  rw [WrittenAsIs, ← zipWith_agree_iff (segments_agree_iff keeps) same]
  constructor
  · exact joined_inj (by simp) (slash_not_mem_segments toLower keys values)
  · exact fun equal => congrArg _ equal

/-- A table with these partition keys. -/
def keyedBy (keys : List Text) : Wire.Table :=
  { partitionKeys := some (keys.map fun k => { name := k }) }

private theorem keyedBy_names (keys : List Text) :
    (keyedBy keys).partitionKeys.items.map (·.name) = keys := by
  simp [keyedBy, Function.comp_def]

private theorem names_agree_iff (keeps : KeepsMarks toLower) (same : values.length = keys.length) :
    NamesAgree toLower keys values ↔ WrittenAsIs toLower keys values := by
  rw [← listed_eq_iff keeps same]
  constructor
  · intro agree
    have named := agree (keyedBy keys) { values := some values } (keyedBy_names keys) rfl
    rw [partitionName_eq toLower same, partitionName_listed same (keyedBy_names keys) rfl] at named
    exact (Except.ok.inj named).symm
  · intro equal tbl p keyed valued
    rw [partitionName_eq toLower same, partitionName_listed same keyed valued, equal]

/-! ## Adding and dropping -/

end HmsClient.Hmstest

namespace HmsClient
open PeerScript

/-- `DropPartitions`. The connection that `GetTable` gets need not be the one that
`DropPartitionsByNames` gets. -/
def dropPartitions (cfg : Config) (dbName tableName : Text) (partVals : List (List Text))
    (deleteData ifExists : Bool) (opts : CatalogOptions) (asks : Session (Option Table))
    (drops : Session Unit) : Script metastore (Except Err Unit) :=
  (getTable cfg dbName tableName opts asks).bind fun (fetched, after) =>
    match fetched with
    | .error err => .done (.error err)
    | .ok () =>
      -- Without an error, `GetTable` has assigned the table that it returns.
      match (after.captured.map (dropPartitionsNames cfg.toLower · partVals)).getD (.ok []) with
      | .error err => .done (.error err)
      | .ok names =>
        (dropPartitionsByNames cfg dbName tableName names deleteData ifExists opts drops).bind
          fun (dropped, _) => .done dropped

end HmsClient

namespace HmsClient.Hmstest
open PeerScript

/-- The server with the handler of tables, which does not look at databases. -/
def Server.withTables (srv : Server) : Server where
  v := srv.v
  now := srv.now
  others
    | .getTableReq req, store =>
      reading (getTableReq ⟨srv.v, fun _ _ => false⟩ { store with databases := ∅ } req {}) store
    | call, store => srv.others call store

/-- What a connection has found out about catalogs is so. -/
def Informed (srv : Server) {κ : Type} (s : Session κ) : Prop :=
  s.catalogs = .unknown ∨ s.catalogs = if srv.v = .hive23 then .no else .yes

section Operations
variable {srv : Server} {κ α : Type} {cfg : Config} {opts : CatalogOptions} {store : Store}
  {s : Session κ}

private theorem supportsCatalogs_informed (informed : Informed srv s) (store : Store) :
    ∃ after, (supportsCatalogs s).ends srv.serve store =
      ((.ok (decide (srv.v ≠ .hive23)), after), store) := by
  obtain ⟨catalogs, fallback, roots, captured⟩ := s
  obtain ⟨v, now, others⟩ := srv
  rcases informed with rfl | known
  · cases v <;> exact ⟨_, rfl⟩
  · change catalogs = _ at known
    subst known
    cases v <;> exact ⟨_, rfl⟩

/-- The catalog that a call names on every connection to the server. -/
private def catSent (srv : Server) (cfg : Config) (opts : CatalogOptions) :
    Except Err (Option Text) :=
  resolution (effectiveCatalog cfg [] opts) (.ok (decide (srv.v ≠ .hive23)))

private theorem cat_of_sent {cat : Option Text} (sent : catSent srv cfg opts = .ok cat) :
    Hmstest.cat srv.v cat = .ok (effectiveCatalog cfg [] opts) := by
  obtain ⟨v, now, others⟩ := srv
  cases v with
  | hive23 =>
    change resolution _ (.ok false) = _ at sent
    rw [resolution] at sent
    split at sent
    · next isDefault =>
      cases sent
      exact isDefault ▸ rfl
    · cases sent
  | hive31 | hive40 =>
    cases sent
    rfl

private theorem resolveCat_informed (informed : Informed srv s) (cfg : Config)
    (opts : CatalogOptions) (store : Store) :
    ∃ mid, (resolveCat cfg opts s).ends srv.serve store = ((catSent srv cfg opts, mid), store) := by
  obtain ⟨mid, probed⟩ := supportsCatalogs_informed informed store
  exact ⟨mid, resolveCatFor_probed probed cfg [] opts⟩

/-- A call that names a catalog goes on with it. -/
private theorem resolveCat_then (informed : Informed srv s) {cat : Option Text}
    (sent : catSent srv cfg opts = .ok cat) (store : Store) (f : Option Text → Closure κ α) :
    ∃ mid, ((resolveCat cfg opts >>= f) s).ends srv.serve store =
      (f cat mid).ends srv.serve store := by
  obtain ⟨mid, resolved⟩ := resolveCat_informed informed cfg opts store
  rw [sent] at resolved
  exact ⟨mid, ends_then resolved⟩

/-- A call that returns without an error has named one. -/
private theorem catSent_of_returned (informed : Informed srv s)
    (returned : (((resolveCat cfg opts >>= f) s).play srv.serve store).outcome.1 = .ok a) :
    ∃ cat, catSent srv cfg opts = .ok cat := by
  obtain ⟨mid, resolved⟩ := resolveCat_informed informed cfg opts store
  cases sent : catSent srv cfg opts with
  | ok cat => exact ⟨cat, rfl⟩
  | error e =>
    rw [sent] at resolved
    cases (congrArg (·.1.1) (ends_failed (f := f) resolved)).symm.trans returned

end Operations

/-! ## The requests -/

section Requests
variable {v : Version} {now : Nat → Nat → Int32} {store : Store} {tbl : Wire.Table}
  {catName : Text}

private theorem addLoop_one {reading : Nat → Int32}
    (looped : addLoop reading ifNotExists [p] existing false = .ok (parts, added)) :
    (∃ q ∈ parts, q.values.items = p.values.items) ∧
      ∀ q ∈ parts, q ∈ existing ∨ q.values = p.values := by
  rw [addLoop] at looped
  split at looped
  · next idx found =>
    split at looped
    · cases looped
      obtain ⟨inside, same, -⟩ := List.findIdx?_eq_some_iff_getElem.mp found
      exact ⟨⟨existing[idx], List.getElem_mem inside, by simpa using same⟩, fun q here => .inl here⟩
    · cases looped
  · cases looped
    refine ⟨⟨_, List.mem_append_right _ (.head _), ?_⟩, fun q here => ?_⟩
    · split <;> rfl
    · rcases List.mem_append.mp here with old | new
      · exact .inl old
      · rw [List.mem_singleton.mp new]
        exact .inr (by split <;> rfl)

/-- After a request for one partition there is one with its values, and no other is new. -/
private theorem addPartitionsReq_one (resolved : cat v req.catName = .ok catName)
    (one : req.parts.items = [p]) (added : (addPartitionsReq v now req store).1 = .ok ()) :
    let key := tblKey catName req.dbName req.tblName
    let after := (addPartitionsReq v now req store).2
    after.tables = store.tables ∧
      (∃ q ∈ after.partitionsAt key, q.values.items = p.values.items) ∧
      ∀ q ∈ after.partitionsAt key, q ∈ store.partitionsAt key ∨ q.values = p.values := by
  simp only [addPartitionsReq, resolved, one] at added ⊢
  split at added
  · cases added
  · split at added
    · cases added
    · next existing new looped =>
      have parts : (if new = true then
          (store.setPartitions (tblKey catName req.dbName req.tblName) existing).recordEvent
            (now store.events.length existing.length) addPartitionEvent req.dbName req.tblName
          else store.setPartitions (tblKey catName req.dbName req.tblName) existing).partitionsAt
            (tblKey catName req.dbName req.tblName) = existing := by
        split <;> exact partitionsAt_setPartitions store _ existing
      simp only [*]
      refine ⟨by split <;> rfl, ?_⟩
      exact addLoop_one looped

/-- The store without the first partition that has this name, and with the event. -/
private def dropOne (now : Nat → Nat → Int32) (catName dbName tblName : Text) (tbl : Wire.Table)
    (name : Text) (store : Store) : Store :=
  let key := tblKey catName dbName tblName
  (store.setPartitions key ((store.partitionsAt key).eraseP fun p =>
    decide (partitionName tbl p = name))).recordEvent (now store.events.length 0)
    dropPartitionEvent dbName tblName

private theorem dropLoop_one (tbl : Wire.Table) (name : Text) (parts : List Wire.Partition) :
    (∃ p ∈ parts, partitionName tbl p = name) ∧
        (∃ left, dropLoop tbl [name] (.whole parts) = (true, left) ∧
          left.view = parts.eraseP fun p => decide (partitionName tbl p = name)) ∨
      (∀ p ∈ parts, partitionName tbl p ≠ name) ∧
        dropLoop tbl [name] (.whole parts) = (false, .whole parts) := by
  rw [dropLoop]
  simp only [BackingArray.view_whole]
  by_cases inside : (parts.findIdx fun p => partitionName tbl p = name) < parts.length
  · refine .inl ⟨by simpa using inside, _, dif_pos inside, ?_⟩
    rw [BackingArray.view_removeAt, BackingArray.view_whole, List.eraseP_eq_eraseIdx,
      List.findIdx?_eq_guard_findIdx_lt]
    simp [inside]
  · exact .inr ⟨by simpa using inside, dif_neg inside⟩

/-- The request `DropPartitionsByNames` makes of one slice of names, all of which there
should be. -/
private def dropNamed (dbName tableName : Text) (deleteData : Bool) (chunk : List Text)
    (cat : Option Text) : Wire.DropPartitionsRequest :=
  { dbName := dbName
    tblName := tableName
    names := some chunk
    deleteData := some deleteData
    ifExists := false
    needResult := false
    catName := cat }

/-- A request for one name succeeds if a partition has it. -/
private theorem dropNamed_handled (now : Nat → Nat → Int32) {cat : Option Text}
    (resolved : Hmstest.cat v cat = .ok catName) {dbName tableName : Text}
    (present : store.tables.lookup (tblKey catName dbName tableName) = some tbl)
    (deleteData : Bool) (name : Text) :
    let parts := store.partitionsAt (tblKey catName dbName tableName)
    let handled := dropPartitionsReq v now (dropNamed dbName tableName deleteData [name] cat) store
    ((∃ p ∈ parts, partitionName tbl p = name) ∧
        handled = (.ok (), dropOne now catName dbName tableName tbl name store)) ∨
      (∀ p ∈ parts, partitionName tbl p ≠ name) ∧ handled.1 = .error partitionsMissing := by
  have table : store.tableAt catName dbName tableName = .ok tbl := by
    rw [Store.tableAt, present]
  rcases dropLoop_one tbl name (store.partitionsAt (tblKey catName dbName tableName)) with
    ⟨named, left, looped, view⟩ | ⟨missing, looped⟩
  · refine .inl ⟨named, ?_⟩
    simp only [dropPartitionsReq, dropNamed, resolved, table, Slice.items_some, looped, view,
      dropOne, if_true, Bool.false_eq_true, if_false]
  · refine .inr ⟨missing, ?_⟩
    simp only [dropPartitionsReq, dropNamed, resolved, table, Slice.items_some, looped,
      Bool.false_eq_true, if_false]

end Requests

/-! ## The calls -/

section Calls
variable {srv : Server} {cfg : Config} {opts : CatalogOptions} {dbName tableName : Text}
  {store : Store} {tbl : Wire.Table}

variable {α : Type} {s : Session Unit} {cat : Option Text}

private theorem batches_one (positive : 0 < size) (x : α) :
    batches size [x].length [x] = [[x]] := by
  obtain ⟨size, rfl⟩ := Nat.exists_eq_add_one.mpr positive
  simp [batches]

/-- The request `AddPartitions` makes of one slice of partitions. -/
private def addRequest (dbName tableName : Text) (ifNotExists : Bool) (chunk : List Partition)
    (cat : Option Text) : Wire.AddPartitionsRequest :=
  { dbName := dbName
    tblName := tableName
    parts := partitionsToThrift (some chunk) cat dbName tableName
    ifNotExists := ifNotExists
    needResult := false
    catName := cat }

private theorem rpc_played (srv : Server) {κ : Type} (call : Call) (s : Session κ) (store : Store) :
    (rpc call s).ends srv.serve store =
      (((srv.serve call store).1.mapError RpcErr.err, s), (srv.serve call store).2) :=
  ends_request (L := metastore) srv.serve call s store

private theorem writing_raised (handled : Handled α) :
    (writing handled).1.mapError RpcErr.err = handled.1.mapError (RpcErr.err ∘ Thrown.rpcErr) := by
  obtain ⟨outcome, store⟩ := handled
  cases outcome <;> rfl

private theorem ifPresent_played (srv : Server) (d : Closure Unit Unit) (s : Session Unit)
    (store : Store) :
    (ifPresent false d s).ends srv.serve store = (d s).ends srv.serve store := by
  rcases ended : (d s).ends srv.serve store with ⟨⟨r, after⟩, store'⟩
  rw [ended]
  refine (ends_result ended).trans ?_
  cases r with
  | ok _ => rfl
  | error e => rfl

/-- A call about a single item puts one request for it. -/
private theorem one_batch_played (informed : Informed srv s) (sent : catSent srv cfg opts = .ok cat)
    (store : Store) (x : α) (f : Option Text → List α → Closure Unit Unit) :
    ∃ mid, ((resolveCat cfg opts >>= fun cat =>
        (batches cfg.partitionBatchSize [x].length [x]).forM (f cat)) s).ends srv.serve store =
      (f cat [x] mid).ends srv.serve store := by
  rw [batches_one cfg.partitionBatchSize_pos]
  obtain ⟨mid, resolved⟩ := resolveCat_then informed sent store fun cat => [[x]].forM (f cat)
  exact ⟨mid, resolved.trans (ends_forM_singleton (f cat) [x] mid store)⟩

private theorem addPartitions_played (informed : Informed srv s)
    (sent : catSent srv cfg opts = .ok cat) (store : Store) (dbName tableName : Text)
    (part : Partition) (ifNotExists : Bool) :
    let played := (addPartitions cfg dbName tableName [part] ifNotExists opts s).play srv.serve store
    let handled := addPartitionsReq srv.v srv.now
      (addRequest dbName tableName ifNotExists [part] cat) store
    played.outcome.1 = handled.1.mapError (RpcErr.err ∘ Thrown.rpcErr) ∧
      played.state = handled.2 := by
  intro played handled
  obtain ⟨mid, asked⟩ := one_batch_played informed sent store part fun cat chunk =>
    rpc (.addPartitionsReq (addRequest dbName tableName ifNotExists chunk cat))
  have ended := asked.trans (rpc_played srv
    (.addPartitionsReq (addRequest dbName tableName ifNotExists [part] cat)) mid store)
  exact ⟨(congrArg (·.1.1) ended).trans (writing_raised handled), congrArg Prod.snd ended⟩

private theorem ok_of_mapError {ε ε' : Type} {f : ε → ε'} {r : Except ε Unit}
    (returned : r.mapError f = .ok ()) : r = .ok () := by
  cases r with
  | ok => rfl
  | error e => cases returned

/-- What a call that adds one partition leaves. -/
private theorem addPartitions_one (informed : Informed srv s) {part : Partition}
    {ifNotExists : Bool}
    (returned : ((addPartitions cfg dbName tableName [part] ifNotExists opts s).play srv.serve
      store).outcome.1 = .ok ()) :
    let key := tblKey (effectiveCatalog cfg [] opts) dbName tableName
    let after := ((addPartitions cfg dbName tableName [part] ifNotExists opts s).play srv.serve
      store).state
    (∃ cat, catSent srv cfg opts = .ok cat) ∧ after.tables = store.tables ∧
      (∃ q ∈ after.partitionsAt key, q.values.items = part.values.items) ∧
      ∀ q ∈ after.partitionsAt key,
        q ∈ store.partitionsAt key ∨ q.values.items = part.values.items := by
  intro key after
  obtain ⟨cat, sent⟩ := catSent_of_returned informed returned
  obtain ⟨outcome, state⟩ :=
    addPartitions_played informed sent store dbName tableName part ifNotExists
  have added := ok_of_mapError (outcome.symm.trans returned)
  obtain ⟨tables, here, others⟩ := addPartitionsReq_one (cat_of_sent sent) rfl added
  have values : (partitionToThrift part cat dbName tableName).values.items =
      part.values.items := by
    simp [partitionToThrift, fillPartition, copyStrings]
  rw [← state] at tables here others
  refine ⟨⟨cat, sent⟩, tables, ?_, fun q inside => ?_⟩
  · obtain ⟨q, inside, valued⟩ := here
    exact ⟨q, inside, valued.trans values⟩
  · exact (others q inside).imp_right fun valued => (congrArg Slice.items valued).trans values

private theorem dropPartitionsByNames_played (informed : Informed srv s)
    (sent : catSent srv cfg opts = .ok cat) (store : Store) (dbName tableName name : Text)
    (deleteData : Bool) :
    let played := (dropPartitionsByNames cfg dbName tableName [name] deleteData false opts s).play
      srv.serve store
    let handled := dropPartitionsReq srv.v srv.now
      (dropNamed dbName tableName deleteData [name] cat) store
    played.outcome.1 = handled.1.mapError (RpcErr.err ∘ Thrown.rpcErr) ∧
      played.state = handled.2 := by
  intro played handled
  obtain ⟨mid, asked⟩ := one_batch_played informed sent store name fun cat chunk =>
    ifPresent false (rpc (.dropPartitionsReq (dropNamed dbName tableName deleteData chunk cat)))
  have ended := (asked.trans (ifPresent_played srv _ mid store)).trans (rpc_played srv
    (.dropPartitionsReq (dropNamed dbName tableName deleteData [name] cat)) mid store)
  exact ⟨(congrArg (·.1.1) ended).trans (writing_raised handled), congrArg Prod.snd ended⟩

/-- Asked for a table that there is, a call assigns it. -/
private theorem getTable_played {s : Session (Option Table)} (informed : Informed srv s)
    (sent : catSent srv cfg opts = .ok cat)
    (present : store.tables.lookup
      (tblKey (effectiveCatalog cfg [] opts) dbName tableName) = some tbl) :
    ∃ mid : Session (Option Table),
      (getTable cfg dbName tableName opts s).ends srv.withTables.serve store =
        ((.ok (), { mid with captured := some (tableFromThrift tbl) }), store) := by
  have handled : getTableReq ⟨srv.v, fun _ _ => false⟩ { store with databases := ∅ }
      ⟨dbName, tableName, cat⟩ {} = .ok tbl := by
    have found : store.tableAt (effectiveCatalog cfg [] opts) dbName tableName = .ok tbl := by
      rw [Store.tableAt, present]
    simp only [getTableReq]
    rw [cat_of_sent sent]
    exact found
  have answered : srv.withTables.serve (.getTableReq ⟨dbName, tableName, cat⟩) store =
      (.ok tbl, store) :=
    congrArg (reading · store) handled
  have informed : Informed srv.withTables s := informed
  obtain ⟨mid, resolved⟩ := resolveCat_then informed sent store fun cat => (do
    let table ← rpc (.getTableReq ⟨dbName, tableName, cat⟩)
    capture (some (tableFromThrift table)) : Closure (Option Table) Unit)
  have asked := rpc_played srv.withTables (.getTableReq ⟨dbName, tableName, cat⟩) mid store
  rw [answered] at asked
  exact ⟨mid, resolved.trans (ends_then asked)⟩

private theorem dropPartitionsNames_one (keyed : tbl.partitionKeys.items.map (·.name) = keys)
    (named : HmsClient.partitionName toLower keys values = .ok name) :
    dropPartitionsNames toLower (tableFromThrift tbl) [values] = .ok [name] := by
  have names : (tableFromThrift tbl).partitionKeys.items.map (·.name) = keys := by
    rw [← keyed]
    simp [tableFromThrift, tableWithStorage, fieldSchemasFromThrift, fieldSchemaFromThrift,
      Function.comp_def]
  simp only [dropPartitionsNames, names, List.mapM_cons, List.mapM_nil, named]
  rfl

/-- A call that drops one partition by its values puts the name that the client gives it. -/
private theorem dropPartitions_played {drops : Session Unit} (asking : Informed srv asks)
    (dropping : Informed srv drops) (sent : catSent srv cfg opts = .ok cat)
    (present : store.tables.lookup
      (tblKey (effectiveCatalog cfg [] opts) dbName tableName) = some tbl)
    (keyed : tbl.partitionKeys.items.map (·.name) = keys)
    (named : HmsClient.partitionName cfg.toLower keys values = .ok name) (deleteData : Bool) :
    let played := (dropPartitions cfg dbName tableName [values] deleteData false opts asks
      drops).play srv.withTables.serve store
    let handled := dropPartitionsReq srv.v srv.now
      (dropNamed dbName tableName deleteData [name] cat) store
    played.outcome = handled.1.mapError (RpcErr.err ∘ Thrown.rpcErr) ∧ played.state = handled.2 := by
  intro played handled
  obtain ⟨mid, fetched⟩ := getTable_played asking sent present
  have dropping : Informed srv.withTables drops := dropping
  obtain ⟨outcome, state⟩ :=
    dropPartitionsByNames_played dropping sent store dbName tableName name deleteData
  have ended : (dropPartitions cfg dbName tableName [values] deleteData false opts asks
      drops).ends srv.withTables.serve store =
        (handled.1.mapError (RpcErr.err ∘ Thrown.rpcErr), handled.2) := by
    simp only [dropPartitions, ends_bind, fetched, Option.map_some, Option.getD_some,
      dropPartitionsNames_one keyed named]
    exact Prod.ext outcome state
  exact Prod.mk.inj ended

end Calls

/-- Once a partition of these values has been added, by whatever connections, dropping it
by them succeeds, and takes out of the table the partition that has them and nothing else.
Whatever else the table holds has a value for each key as well. -/
def AddThenDrops (toLower : Text → Text) (keys values : List Text) : Prop :=
  ∀ (srv : Server) (cfg : Config) (opts : CatalogOptions) (dbName tableName : Text)
    (store : Store) (tbl : Wire.Table) (part : Partition) (ifNotExists deleteData : Bool)
    (adds : Session Unit) (asks : Session (Option Table)) (drops : Session Unit),
    let key := tblKey (effectiveCatalog cfg [] opts) dbName tableName
    let added := (addPartitions cfg dbName tableName [part] ifNotExists opts adds).play
      srv.withTables.serve store
    let dropped := (dropPartitions cfg dbName tableName [values] deleteData false opts asks
      drops).play srv.withTables.serve added.state
    cfg.toLower = toLower → Informed srv adds → Informed srv asks → Informed srv drops →
      store.tables.lookup key = some tbl → tbl.partitionKeys.items.map (·.name) = keys →
      (∀ p ∈ store.partitionsAt key, p.values.items.length = keys.length) →
      part.values.items = values → added.outcome.1 = .ok () →
        dropped.outcome = .ok () ∧
          (∃ p ∈ added.state.partitionsAt key, p.values.items = values) ∧
          ∃ now, dropped.state = (added.state.setPartitions key
            ((added.state.partitionsAt key).eraseP fun p => p.values.items = values)).recordEvent
              now dropPartitionEvent dbName tableName

private theorem eraseP_congr {α : Type} {p q : α → Bool} {xs : List α}
    (same : ∀ x ∈ xs, p x = q x) : xs.eraseP p = xs.eraseP q := by
  induction xs with
  | nil => rfl
  | cons x xs ih =>
    rw [List.eraseP_cons, List.eraseP_cons, same x (.head _),
      ih fun x member => same x (.tail _ member)]

private theorem values_of_segments (same : values.length = keys.length)
    (same' : values'.length = keys.length)
    (equal : List.zipWith listedSegment keys values' = List.zipWith listedSegment keys values) :
    values' = values := by
  induction keys generalizing values values' with
  | nil => rw [List.length_eq_zero_iff.mp same, List.length_eq_zero_iff.mp same']
  | cons k keys ih =>
    obtain ⟨v, values, rfl⟩ := List.exists_cons_of_length_eq_add_one same
    obtain ⟨v', values', rfl⟩ := List.exists_cons_of_length_eq_add_one same'
    simp only [List.zipWith_cons_cons, List.cons.injEq, listedSegment, List.append_cancel_left_eq,
      true_and] at equal
    rw [equal.1, ih (Nat.succ.inj same) (Nat.succ.inj same') equal.2]

section RoundTrip
variable {toLower : Text → Text} {keys values : List Text}

/-- A name written as it is belongs to the partition of these values alone. -/
private theorem named_iff_valued (keeps : KeepsMarks toLower) (same : values.length = keys.length)
    (asIs : WrittenAsIs toLower keys values) (keyed : tbl.partitionKeys.items.map (·.name) = keys)
    (valued : p.values.items.length = keys.length) :
    partitionName tbl p = [47].intercalate (List.zipWith (segment toLower) keys values) ↔
      p.values.items = values := by
  constructor
  · intro named
    rw [partitionName_listed valued keyed rfl] at named
    have segments := joined_inj (by simp [same, valued]) (slash_not_mem_segments toLower keys values)
      named
    rw [← (zipWith_agree_iff (segments_agree_iff keeps) same).mpr asIs] at segments
    exact values_of_segments same valued segments
  · intro equal
    rw [partitionName_listed (equal ▸ same) keyed equal, (listed_eq_iff keeps same).mpr asIs]

private theorem addThenDrops_of_asIs (keeps : KeepsMarks toLower)
    (same : values.length = keys.length) (asIs : WrittenAsIs toLower keys values) :
    AddThenDrops toLower keys values := by
  intro srv cfg opts dbName tableName store tbl part ifNotExists deleteData adds asks drops key
    added dropped lower adding asking dropping present keyed wellFormed valued returned
  subst lower valued
  have adding : Informed srv.withTables adds := adding
  obtain ⟨⟨cat, sent⟩, tables, here, others⟩ := addPartitions_one adding returned
  have resolved : Hmstest.cat srv.v cat = .ok (effectiveCatalog cfg [] opts) := cat_of_sent sent
  have present : added.state.tables.lookup key = some tbl := tables ▸ present
  have lengths : ∀ p ∈ added.state.partitionsAt key, p.values.items.length = keys.length := by
    intro p inside
    rcases others p inside with old | new
    · exact wellFormed p old
    · exact new ▸ same
  have named := partitionName_eq cfg.toLower same
  obtain ⟨outcome, state⟩ :=
    dropPartitions_played asking dropping sent present keyed named deleteData
  rcases dropNamed_handled srv.now resolved present deleteData
    ([47].intercalate (List.zipWith (segment cfg.toLower) keys part.values.items)) with
    ⟨-, handled⟩ | ⟨missing, -⟩
  · rw [handled] at outcome state
    have erased : (added.state.partitionsAt key).eraseP (fun p => decide (partitionName tbl p =
          [47].intercalate (List.zipWith (segment cfg.toLower) keys part.values.items))) =
        (added.state.partitionsAt key).eraseP fun p => p.values.items = part.values.items :=
      eraseP_congr fun p inside => decide_eq_decide.mpr
        (named_iff_valued keeps same asIs keyed (lengths p inside))
    rw [dropOne, erased] at state
    exact ⟨outcome, here, _, state⟩
  · obtain ⟨p, inside, valued⟩ := here
    exact absurd ((named_iff_valued keeps same asIs keyed (lengths p inside)).mpr valued)
      (missing p inside)

/-- A store with one table, "hive.d.t", that has these keys and no partitions. -/
def emptyTable (keys : List Text) : Store :=
  { catalogs := ∅
    tables := AList.singleton (tblKey defaultCatalog [100] [116]) (keyedBy keys)
    partitions := ∅
    events := [] }

/-- Dropped without an error, a partition was there under the client's name. -/
private theorem named_of_dropped (asking : Informed srv asks) (dropping : Informed srv drops)
    {cat : Option Text} (sent : catSent srv cfg opts = .ok cat)
    (present : store.tables.lookup
      (tblKey (effectiveCatalog cfg [] opts) dbName tableName) = some tbl)
    (keyed : tbl.partitionKeys.items.map (·.name) = keys)
    (named : HmsClient.partitionName cfg.toLower keys values = .ok name)
    (dropped : ((dropPartitions cfg dbName tableName [values] deleteData false opts asks
      drops).play srv.withTables.serve store).outcome = .ok ()) :
    ∃ p ∈ store.partitionsAt (tblKey (effectiveCatalog cfg [] opts) dbName tableName),
      partitionName tbl p = name := by
  rw [(dropPartitions_played asking dropping sent present keyed named deleteData).1] at dropped
  rcases dropNamed_handled srv.now (cat_of_sent sent) present deleteData name with
    ⟨here, -⟩ | ⟨-, missing⟩
  · exact here
  · rw [missing] at dropped
    cases dropped

private theorem asIs_of_addThenDrops (keeps : KeepsMarks toLower)
    (same : values.length = keys.length) (drops : AddThenDrops toLower keys values) :
    WrittenAsIs toLower keys values := by
  let cfg := Config.clamp [] toLower 0 0
  let srv := partitionsOnly .hive40
  have present : (emptyTable keys).tables.lookup
      (tblKey (effectiveCatalog cfg [] []) [100] [116]) = some (keyedBy keys) := rfl
  have noParts : (emptyTable keys).partitionsAt
      (tblKey (effectiveCatalog cfg [] []) [100] [116]) = [] := rfl
  have fresh : Informed srv (⟨.unknown, [], [], ()⟩ : Session Unit) := .inl rfl
  have asking : Informed srv (⟨.unknown, [], [], none⟩ : Session (Option Table)) := .inl rfl
  have adding : Informed srv.withTables (⟨.unknown, [], [], ()⟩ : Session Unit) := fresh
  have sent : catSent srv cfg [] = .ok (some defaultCatalog) := rfl
  have returned : ((addPartitions cfg [100] [116] [{ values := some values }] false []
      ⟨.unknown, [], [], ()⟩).play srv.withTables.serve (emptyTable keys)).outcome.1 = .ok () := by
    rw [(addPartitions_played adding sent (emptyTable keys) [100] [116] { values := some values }
      false).1]
    rfl
  obtain ⟨-, tables, -, others⟩ := addPartitions_one adding returned
  rw [noParts] at others
  have noneBefore : ∀ p ∈ (emptyTable keys).partitionsAt
      (tblKey (effectiveCatalog cfg [] []) [100] [116]), p.values.items.length = keys.length := by
    rw [noParts]
    exact fun p inside => absurd inside List.not_mem_nil
  have dropped := (drops srv cfg [] [100] [116] (emptyTable keys) (keyedBy keys)
    { values := some values } false false _ _ _ rfl fresh asking fresh present
    (keyedBy_names keys) noneBefore rfl returned).1
  rw [← tables] at present
  obtain ⟨p, inside, spelled⟩ := named_of_dropped asking fresh sent present
    (keyedBy_names keys) (partitionName_eq toLower same) dropped
  have valued : p.values.items = values := (others p inside).resolve_left List.not_mem_nil
  rw [partitionName_listed same (keyedBy_names keys) valued] at spelled
  exact (listed_eq_iff keeps same).mp spelled

end RoundTrip

/-- Two names for a partition are one, and it can be dropped by the values it was added with,
if and only if its keys are in lower case and neither in them nor in the values is anything
to escape, nor is one of them empty. -/
theorem names_agree_iff_written_as_is (toLower : Text → Text) (keeps : KeepsMarks toLower)
    (keys values : List Text) (same : values.length = keys.length) :
    (NamesAgree toLower keys values ↔ WrittenAsIs toLower keys values) ∧
      (AddThenDrops toLower keys values ↔ WrittenAsIs toLower keys values) :=
  ⟨names_agree_iff keeps same,
    asIs_of_addThenDrops keeps same, addThenDrops_of_asIs keeps same⟩

/-! ## A time of day -/

/-- `strings.ToLower` on a text of ASCII. -/
def asciiLower (s : Text) : Text := s.map NetUrl.toLower

private theorem lowered_mark (upper : ¬(65 ≤ c ∧ c ≤ 90)) (lower : ¬(97 ≤ c ∧ c ≤ 122)) :
    NetUrl.toLower b = c ↔ b = c := by
  unfold NetUrl.toLower
  split
  · next letter =>
    simp only [Bool.and_eq_true, decide_eq_true_eq, UInt8.le_iff_toNat_le] at letter upper lower
    simp only [UInt8.reduceToNat] at letter upper lower
    rw [← UInt8.toNat_inj, ← UInt8.toNat_inj, UInt8.toNat_add]
    simp only [UInt8.reduceToNat]
    omega
  · rfl

theorem asciiLower_keeps_marks : KeepsMarks asciiLower := by
  intro s c _ upper lower
  rw [asciiLower, List.count, List.countP_map]
  refine List.countP_congr fun b _ => ?_
  simp [lowered_mark upper lower]

/-- A table of "hive.d.t" after a partition was added to it and dropped, both by its values,
and what the two calls returned. -/
def addedAndDropped (keys values : List Text) :
    Except Err Unit × Except Err Unit × List (List Text) :=
  let cfg := Config.clamp [] asciiLower 0 0
  let srv := (partitionsOnly .hive40).withTables
  let added := (addPartitions cfg [100] [116] [{ values := some values }] false []
    ⟨.unknown, [], [], ()⟩).play srv.serve (emptyTable keys)
  let dropped := (dropPartitions cfg [100] [116] [values] false false []
    ⟨.unknown, [], [], none⟩ ⟨.unknown, [], [], ()⟩).play srv.serve added.state
  (added.outcome.1, dropped.outcome,
    (dropped.state.partitionsAt (tblKey defaultCatalog [100] [116])).map (·.values.items))

/-- "ts" is "10:30". The client calls this partition "ts=10%3A30" and the server calls it
"ts=10:30", so the server does not find the one that it has just added. -/
theorem colon_in_value_is_not_dropped :
    HmsClient.partitionName asciiLower [[116, 115]] [[49, 48, 58, 51, 48]] =
        .ok [116, 115, 61, 49, 48, 37, 51, 65, 51, 48] ∧
      partitionName (keyedBy [[116, 115]]) { values := some [[49, 48, 58, 51, 48]] } =
        [116, 115, 61, 49, 48, 58, 51, 48] ∧
      ¬NamesAgree asciiLower [[116, 115]] [[49, 48, 58, 51, 48]] ∧
      addedAndDropped [[116, 115]] [[49, 48, 58, 51, 48]] =
        (.ok (), .error (thrown .noSuchObject).err, [[[49, 48, 58, 51, 48]]]) := by
  refine ⟨rfl, rfl, fun agree => ?_, rfl⟩
  have named := agree (keyedBy [[116, 115]]) { values := some [[49, 48, 58, 51, 48]] } rfl rfl
  exact absurd (Except.ok.inj named) (by decide)

/-- A partition with "ds" equal to "2024" is added and dropped again. -/
theorem plain_value_is_dropped :
    KeepsMarks asciiLower ∧ WrittenAsIs asciiLower [[100, 115]] [[50, 48, 50, 52]] ∧
      NamesAgree asciiLower [[100, 115]] [[50, 48, 50, 52]] ∧
      AddThenDrops asciiLower [[100, 115]] [[50, 48, 50, 52]] := by
  have agree := names_agree_iff_written_as_is asciiLower asciiLower_keeps_marks [[100, 115]]
    [[50, 48, 50, 52]] rfl
  have asIs : WrittenAsIs asciiLower [[100, 115]] [[50, 48, 50, 52]] := by
    simp only [WrittenAsIs, Plain]
    decide +kernel
  exact ⟨asciiLower_keeps_marks, asIs, agree.1.mpr asIs, agree.2.mpr asIs⟩

end HmsClient.Hmstest
