import HmsClient.Batching
import HmsClient.ClientRuns

/-! `AddPartitions` with `ifNotExists`, called again and again over connections that lose
requests and answers. A call cuts its list into requests, so a call that fails may have added
some of the list; whoever repeats it until it succeeds has added every partition once, with
any batch size and after any number of failures. -/
namespace HmsClient.Hmstest
open PeerScript

/-! ## New keys of a list -/

section Fresh
variable {α κ : Type} [DecidableEq κ] (key : α → κ)

/-- The elements whose key is not taken, each key by its first element. -/
def fresh : List κ → List α → List α
  | _, [] => []
  | taken, x :: xs => if key x ∈ taken then fresh taken xs else x :: fresh (taken ++ [key x]) xs

variable {key} {taken : List κ} {xs ys : List α}

private theorem fresh_append :
    fresh key taken (xs ++ ys) =
      fresh key taken xs ++ fresh key (taken ++ (fresh key taken xs).map key) ys := by
  induction xs generalizing taken with
  | nil => simp [fresh]
  | cons x xs ih =>
    rw [List.cons_append, fresh, fresh]
    by_cases here : key x ∈ taken
    · rw [if_pos here, if_pos here, ih]
    · rw [if_neg here, if_neg here, ih, List.cons_append, List.map_cons, List.append_assoc]
      rfl

private theorem fresh_eq_nil (all : ∀ x ∈ xs, key x ∈ taken) : fresh key taken xs = [] := by
  induction xs with
  | nil => rfl
  | cons x xs ih =>
    rw [fresh, if_pos (all x (.head _))]
    exact ih fun other inRest => all other (.tail _ inRest)

/-- What was offered is taken afterwards. -/
private theorem key_mem_fresh (offered : x ∈ xs) :
    key x ∈ taken ++ (fresh key taken xs).map key := by
  induction xs generalizing taken with
  | nil => cases offered
  | cons y ys ih =>
    rw [fresh]
    by_cases here : key y ∈ taken
    · rw [if_pos here]
      rcases List.mem_cons.mp offered with rfl | later
      · exact List.mem_append_left _ here
      · exact ih later
    · rw [if_neg here, List.map_cons]
      rcases List.mem_cons.mp offered with rfl | later
      · exact List.mem_append_right _ (.head _)
      · have rest : key x ∈ (taken ++ [key y]) ++ (fresh key (taken ++ [key y]) ys).map key :=
          ih later
        rwa [List.append_assoc, List.singleton_append] at rest

/-- Offering a beginning of a list and then another one is offering the longer one. -/
private theorem fresh_overlap (key : α → κ) (taken : List κ) (first : xs <+: whole)
    (second : ys <+: whole) :
    ∃ longer, longer <+: whole ∧ fresh key taken (xs ++ ys) = fresh key taken longer ∧
      (ys = whole → longer = whole) ∧ (xs = whole → longer = whole) := by
  rcases List.prefix_or_prefix_of_prefix first second with shorter | shorter
  · obtain ⟨rest, rfl⟩ := shorter
    refine ⟨xs ++ rest, second, ?_, id, fun all => ?_⟩
    · rw [fresh_append, fresh_append, fresh_eq_nil fun x offered => key_mem_fresh offered,
        List.map_nil, List.append_nil, List.nil_append, ← fresh_append]
    · exact second.eq_of_length_le (by rw [all]; simp)
  · refine ⟨xs, first, ?_, fun all => ?_, id⟩
    · rw [fresh_append, fresh_eq_nil fun y offered => key_mem_fresh (shorter.mem offered),
        List.append_nil]
    · exact first.eq_of_length_le (all ▸ shorter.length_le)

end Fresh

/-! ## One request -/

/-- How a partition is stored: the server sets a creation time that is missing. -/
inductive Stored (w : Wire.Partition) : Wire.Partition → Prop
  | asGiven : Stored w w
  | timed (unset : w.createTime = 0) (time : Int32) : Stored w { w with createTime := time }

def valuesItems (p : Wire.Partition) : List Text := p.values.items

private theorem Stored.values (stored : Stored w p) : valuesItems p = valuesItems w := by
  cases stored with
  | asGiven => rfl
  | timed unset time => rfl

private theorem valuesOf_stored (stored : List.Forall₂ Stored ws more) :
    valuesOf more = ws.map valuesItems := by
  induction stored with
  | nil => rfl
  | cons first rest ih => exact congrArg₂ List.cons first.values ih

/-- The partitions of one table have been offered to a store; nothing else was touched. -/
structure Adds (key : Text) (b b' : Backend) (ws : List Wire.Partition) : Prop where
  added : ∃ more, b'.partitionsAt key = b.partitionsAt key ++ more ∧
    List.Forall₂ Stored (fresh valuesItems (valuesOf (b.partitionsAt key)) ws) more ∧
    (more = [] → b'.events = b.events)
  tables : b'.tables = b.tables
  others : ∀ other, other ≠ key → b'.partitionsAt other = b.partitionsAt other

section Adds
variable {key : Text} {b b' b'' : Backend} {ws ws' : List Wire.Partition}

private theorem Adds.refl (b : Backend) (n : Nat) : Adds key b { b with handled := n } [] :=
  ⟨⟨[], (List.append_nil _).symm, .nil, fun _ => rfl⟩, rfl, fun _ _ => rfl⟩

private theorem Adds.trans (first : Adds key b b' ws) (second : Adds key b' b'' ws') :
    Adds key b b'' (ws ++ ws') := by
  obtain ⟨more, grown, stored, quiet⟩ := first.added
  obtain ⟨more', grown', stored', quiet'⟩ := second.added
  refine ⟨⟨more ++ more', ?_, ?_, fun nothing => ?_⟩, second.tables.trans first.tables,
    fun other differs => (second.others other differs).trans (first.others other differs)⟩
  · rw [grown', grown, List.append_assoc]
  · rw [fresh_append]
    apply List.rel_append stored
    rw [grown, valuesOf, List.map_append] at stored'
    rw [← valuesOf_stored stored]
    exact stored'
  · obtain ⟨none, none'⟩ := List.append_eq_nil_iff.mp nothing
    exact (quiet' none').trans (quiet none)

private theorem Adds.overlap {whole : List Wire.Partition} (first : Adds key b b' ws)
    (second : Adds key b' b'' ws') (begins : ws <+: whole) (begins' : ws' <+: whole) :
    ∃ longer, longer <+: whole ∧ Adds key b b'' longer ∧ (ws' = whole → longer = whole) ∧
      (ws = whole → longer = whole) := by
  have both := first.trans second
  obtain ⟨more, grown, stored, quiet⟩ := both.added
  obtain ⟨longer, begins'', same, all, all'⟩ :=
    fresh_overlap valuesItems (valuesOf (b.partitionsAt key)) begins begins'
  exact ⟨longer, begins'', ⟨⟨more, grown, same ▸ stored, quiet⟩, both.tables, both.others⟩, all, all'⟩

end Adds

private theorem addLoop_adds (now : Nat → Int32) (ws existing : List Wire.Partition) (added : Bool) :
    ∃ more, addLoop now true ws existing added = .ok (existing ++ more, added || !more.isEmpty) ∧
      List.Forall₂ Stored (fresh valuesItems (valuesOf existing) ws) more := by
  induction ws generalizing existing added with
  | nil => exact ⟨[], by simp [addLoop], .nil⟩
  | cons w rest ih =>
    rw [addLoop, fresh]
    cases found : findPartition existing w.values with
    | some idx =>
      have there : valuesItems w ∈ valuesOf existing :=
        List.mem_of_getElem? (findPartition_eq_some found)
      rw [if_pos there]
      exact ih existing added
    | none =>
      have missing : valuesItems w ∉ valuesOf existing := findPartition_eq_none found
      have appends : ∀ p, Stored w p →
          ∃ more, addLoop now true rest (existing ++ [p]) true =
              .ok (existing ++ more, added || !more.isEmpty) ∧
            List.Forall₂ Stored
              (w :: fresh valuesItems (valuesOf existing ++ [valuesItems w]) rest) more := by
        intro p stored
        obtain ⟨more, ran, others⟩ := ih (existing ++ [p]) true
        have values : valuesOf (existing ++ [p]) = valuesOf existing ++ [valuesItems w] := by
          rw [valuesOf, List.map_append, List.map_singleton, ← stored.values]
          rfl
        refine ⟨p :: more, by simp [ran], .cons stored ?_⟩
        rw [← values]
        exact others
      rw [if_neg missing]
      by_cases unset : w.createTime = 0
      · simp only [if_pos unset]
        exact appends _ (.timed unset _)
      · simp only [if_neg unset]
        exact appends w .asGiven

private theorem partitionsAt_of_ne {store : Store} (differs : other ≠ key)
    (parts : List Wire.Partition) :
    (store.setPartitions key parts).partitionsAt other = store.partitionsAt other := by
  have kept : (store.partitions.insert key parts).lookup other = store.partitions.lookup other :=
    AList.lookup_insert_ne differs
  rw [Store.partitionsAt, Store.setPartitions, kept]
  rfl

/-- What a request with `ifNotExists` does when its table is there. -/
private theorem served_adds {setup : Setup} (complete : setup.without = [])
    (supports : Supports setup.v catName) (catalog : req.catName = sent setup.v catName)
    (lenient : req.ifNotExists = true)
    (there : (b.tables.lookup (tblKey catName req.dbName req.tblName)).isSome) :
    (setup.serve (.addPartitionsReq req) b).1 = .ok () ∧
      Adds (tblKey catName req.dbName req.tblName) b (setup.serve (.addPartitionsReq req) b).2
        req.parts.items := by
  obtain ⟨tbl, found⟩ := Option.isSome_iff_exists.mp there
  obtain ⟨more, ran, stored⟩ := addLoop_adds (setup.now b.handled) req.parts.items
    (b.partitionsAt (tblKey catName req.dbName req.tblName)) false
  let key := tblKey catName req.dbName req.tblName
  let store := b.toStore.setPartitions key (b.partitionsAt key ++ more)
  have handled : addPartitionsReq setup.v (fun _ => setup.now b.handled) req b.toStore =
      (.ok (), if !more.isEmpty then
        store.recordEvent (setup.now b.handled (b.partitionsAt key ++ more).length)
          addPartitionEvent req.dbName req.tblName else store) := by
    simp only [addPartitionsReq, catalog, cat_sent supports, found, lenient, ran, Bool.false_or]
    rfl
  have served : setup.handle b (.addPartitionsReq req) =
      (.ok (), { b with toStore := (addPartitionsReq setup.v (fun _ => setup.now b.handled) req
        b.toStore).2 }) := by
    rw [Setup.handle, Setup.write, handleWrite, Metastore.answer, handled]
    rfl
  rw [serve_present complete "add_partitions_req" rfl (by decide), served, handled]
  refine ⟨rfl, ⟨more, ?_, stored, ?_⟩, ?_, fun other differs => ?_⟩
  · cases more with
    | nil => exact partitionsAt_setPartitions ..
    | cons p rest => exact partitionsAt_setPartitions ..
  · rintro rfl
    rfl
  · cases more with
    | nil => rfl
    | cons p rest => rfl
  · cases more with
    | nil => exact partitionsAt_of_ne differs _
    | cons p rest => exact partitionsAt_of_ne differs _

/-! ## One call -/

/-- What becomes of a request: it is answered, it does not arrive, or its answer does not. -/
inductive Fate where
  | answered
  | lost
  | unanswered

/-- The server behind a connection on which the requests meet these fates, in order. -/
def carried (setup : Setup) (call : Call) :
    Backend × List Fate → Except RpcErr call.Reply × (Backend × List Fate)
  | (b, .lost :: fates) => (.error hungUp, (b, fates))
  | (b, .unanswered :: fates) => (.error hungUp, ((setup.serve call b).2, fates))
  | (b, fates) => ((setup.serve call b).1, ((setup.serve call b).2, fates.tail))

section Call
variable {setup : Setup} {κ : Type} {s : Session κ} {b : Backend} {fates : List Fate}

/-- A request is answered as the server answers it, or the connection breaks. In the second
case the server may have handled the request or not. -/
private theorem carried_cases (call : Call) (b : Backend) (fates : List Fate) :
    ∃ fates', carried setup call (b, fates) =
        ((setup.serve call b).1, ((setup.serve call b).2, fates')) ∨
      ∃ b', (b' = b ∨ b' = (setup.serve call b).2) ∧
        carried setup call (b, fates) = (.error hungUp, (b', fates')) := by
  cases fates with
  | nil => exact ⟨[], .inl rfl⟩
  | cons fate rest =>
    refine ⟨rest, ?_⟩
    cases fate with
    | answered => exact .inl rfl
    | lost => exact .inr ⟨b, .inl rfl, rfl⟩
    | unanswered => exact .inr ⟨_, .inr rfl, rfl⟩

/-- Asking whether the server has catalogs leaves the store as it is. If the question is
answered, the answer is right. -/
private theorem supportsCatalogs_carried (complete : setup.without = []) (knows : Knows setup.v s)
    (b : Backend) (fates : List Fate) :
    ∃ r s' n fates', (supportsCatalogs s).ends (carried setup) (b, fates) =
        ((r, s'), ({ b with handled := n }, fates')) ∧
      (r = .ok (decide (setup.v ≠ .hive23)) ∨ ∃ err, r = .error err) := by
  obtain ⟨⟨v, pathMatch⟩, without, now⟩ := setup
  obtain ⟨catalogs, fallback, roots, captured⟩ := s
  cases complete
  cases catalogs with
  | unknown =>
    cases fates with
    | nil => cases v <;> exact ⟨_, _, _, _, rfl, .inl rfl⟩
    | cons fate rest =>
      cases fate with
      | answered => cases v <;> exact ⟨_, _, _, _, rfl, .inl rfl⟩
      | lost => exact ⟨_, _, b.handled, _, rfl, .inr ⟨_, rfl⟩⟩
      | unanswered => cases v <;> exact ⟨_, _, _, _, rfl, .inr ⟨_, rfl⟩⟩
  | yes =>
    refine ⟨_, _, b.handled, fates, rfl, .inl ?_⟩
    cases v with
    | hive23 => simp [Knows] at knows
    | hive31 => rfl
    | hive40 => rfl
  | no =>
    refine ⟨_, _, b.handled, fates, rfl, .inl ?_⟩
    cases v with
    | hive23 => rfl
    | hive31 => simp [Knows] at knows
    | hive40 => simp [Knows] at knows

/-- Resolving the catalog of a call leaves the store as it is. If it does not fail, the call
goes on with the catalog that the server expects. -/
private theorem resolveCat_carried (complete : setup.without = []) (knows : Knows setup.v s)
    (cfg : Config) (opts : CatalogOptions)
    (supports : Supports setup.v (effectiveCatalog cfg [] opts)) (b : Backend) (fates : List Fate) :
    ∃ r s' n fates', (resolveCat cfg opts s).ends (carried setup) (b, fates) =
        ((r, s'), ({ b with handled := n }, fates')) ∧
      (r = .ok (sent setup.v (effectiveCatalog cfg [] opts)) ∨ ∃ err, r = .error err) := by
  obtain ⟨r, s', n, fates', probed, outcome⟩ := supportsCatalogs_carried complete knows b fates
  rcases outcome with rfl | ⟨err, rfl⟩
  · refine ⟨_, s', n, fates', (ends_then probed).trans ?_, .inl rfl⟩
    by_cases isDefault : effectiveCatalog cfg [] opts = defaultCatalog
    · by_cases old : setup.v = .hive23
      · simp only [isDefault, old, sent]
        rfl
      · have newer : decide (setup.v ≠ .hive23) = true := decide_eq_true old
        simp only [isDefault, newer, if_true, sent, if_neg old]
        rfl
    · have newer := supports.resolve_right isDefault
      simp only [if_neg isDefault, decide_eq_true newer, if_true, sent, if_neg newer]
      rfl
  · exact ⟨_, s', n, fates', ends_failed probed, .inr ⟨err, rfl⟩⟩

/-- The request that `AddPartitions` makes for one batch of partitions. -/
private def offering (cat : Option Text) (dbName tableName : Text) (chunk : List Partition) :
    Wire.AddPartitionsRequest :=
  { dbName := dbName
    tblName := tableName
    parts := partitionsToThrift (some chunk) cat dbName tableName
    ifNotExists := true
    needResult := false
    catName := cat }

private theorem items_offering (cat : Option Text) (dbName tableName : Text)
    (chunk : List Partition) : (offering cat dbName tableName chunk).parts.items =
      chunk.map (partitionToThrift · cat dbName tableName) :=
  Slice.items_convert _ (some chunk)

/-- The requests of one call, batch by batch. What the server gets of the partitions is an
initial part of the list, and all of the list if the call succeeds. -/
private theorem forM_adds (complete : setup.without = []) {catName dbName tableName : Text}
    (supports : Supports setup.v catName)
    (there : (b.tables.lookup (tblKey catName dbName tableName)).isSome)
    (chunks : List (List Partition)) (s : Session Unit) (fates : List Fate) :
    ∃ r s' b' fates', (chunks.forM (fun chunk => rpc (.addPartitionsReq
        (offering (sent setup.v catName) dbName tableName chunk))) s).ends (carried setup)
        (b, fates) = ((r, s'), (b', fates')) ∧
      ∃ done rest, chunks.flatten = done ++ rest ∧ (r = .ok () → rest = []) ∧
        Adds (tblKey catName dbName tableName) b b'
          (done.map (partitionToThrift · (sent setup.v catName) dbName tableName)) := by
  induction chunks generalizing b s fates with
  | nil => exact ⟨_, s, b, fates, rfl, [], [], rfl, fun _ => rfl, .refl b b.handled⟩
  | cons chunk others ih =>
    let call : Call := .addPartitionsReq (offering (sent setup.v catName) dbName tableName chunk)
    have asked : (rpc call s).ends (carried setup) (b, fates) =
        (((carried setup call (b, fates)).1.mapError RpcErr.err, s),
          (carried setup call (b, fates)).2) :=
      ends_request (L := metastore) (carried setup) call s (b, fates)
    obtain ⟨outcome, adds⟩ : (setup.serve call b).1 = .ok () ∧
        Adds (tblKey catName dbName tableName) b (setup.serve call b).2
          (offering (sent setup.v catName) dbName tableName chunk).parts.items :=
      served_adds complete supports rfl rfl there
    rw [items_offering] at adds
    rcases carried_cases call b fates with ⟨fates', way | ⟨b', reached, way⟩⟩
    · rw [way, outcome] at asked
      obtain ⟨r, s', b', fates'', ran, done, rest, split, all, adds'⟩ :=
        ih (adds.tables ▸ there) s fates'
      refine ⟨r, s', b', fates'', (ends_then asked).trans ran, chunk ++ done, rest, ?_, all, ?_⟩
      · rw [List.flatten_cons, split, List.append_assoc]
      · rw [List.map_append]
        exact adds.trans adds'
    · rw [way] at asked
      have stopped := ends_failed (f := fun _ => others.forM fun chunk =>
        rpc (.addPartitionsReq (offering (sent setup.v catName) dbName tableName chunk))) asked
      rcases reached with rfl | rfl
      · exact ⟨_, s, b', fates', stopped, [], _, rfl, nofun, .refl b' b'.handled⟩
      · exact ⟨_, s, _, fates', stopped, chunk, _, List.flatten_cons, nofun, adds⟩

end Call

/-- A call of `AddPartitions`: the client's configuration, and the connection it is made on. -/
structure Attempt where
  cfg : Config
  session : Session Unit
  fates : List Fate

section Attempts
variable (setup : Setup) (dbName tableName : Text) (ps : List Partition) (opts : CatalogOptions)

def Attempt.run (a : Attempt) (b : Backend) : Except Err Unit × Backend :=
  let ended := (addPartitions a.cfg dbName tableName ps true opts a.session).ends (carried setup)
    (b, a.fates)
  (ended.1.1, ended.2.1)

/-- The outcomes of calls, one after the other, and the store they leave. -/
def runAttempts : List Attempt → Backend → List (Except Err Unit) × Backend
  | [], b => ([], b)
  | a :: rest, b =>
    let first := a.run setup dbName tableName ps opts b
    let others := runAttempts rest first.2
    (first.1 :: others.1, others.2)

variable {setup dbName tableName ps opts}

private theorem attempt_adds (complete : setup.without = []) (supports : Supports setup.v catName)
    (there : (b.tables.lookup (tblKey catName dbName tableName)).isSome) {a : Attempt}
    (sameCatalog : effectiveCatalog a.cfg [] opts = catName) (knows : Knows setup.v a.session) :
    ∃ done, done <+: ps ∧ ((a.run setup dbName tableName ps opts b).1 = .ok () → done = ps) ∧
      Adds (tblKey catName dbName tableName) b (a.run setup dbName tableName ps opts b).2
        (done.map (partitionToThrift · (sent setup.v catName) dbName tableName)) := by
  subst sameCatalog
  obtain ⟨r, mid, n, fates, resolved, outcome⟩ :=
    resolveCat_carried complete knows a.cfg opts supports b a.fates
  rcases outcome with rfl | ⟨err, rfl⟩
  · let b₁ : Backend := { b with handled := n }
    have later : Adds (tblKey (effectiveCatalog a.cfg [] opts) dbName tableName) b b₁ [] :=
      .refl b n
    have there₁ : (b₁.tables.lookup (tblKey (effectiveCatalog a.cfg [] opts) dbName
      tableName)).isSome := there
    obtain ⟨r, s', b', fates', ran, done, rest, split, all, adds⟩ :=
      forM_adds complete supports there₁
        (batches a.cfg.partitionBatchSize ps.length ps) mid fates
    have ended : (addPartitions a.cfg dbName tableName ps true opts a.session).ends (carried setup)
        (b, a.fates) = ((r, s'), (b', fates')) := (ends_then resolved).trans ran
    rw [batches_flatten a.cfg.partitionBatchSize_pos _ _ (Nat.le_refl _)] at split
    rw [Attempt.run, ended]
    refine ⟨done, ⟨rest, split.symm⟩, fun succeeds => ?_, later.trans adds⟩
    rw [split, all succeeds, List.append_nil]
  · have ended : (addPartitions a.cfg dbName tableName ps true opts a.session).ends (carried setup)
        (b, a.fates) = ((.error err, mid), ({ b with handled := n }, fates)) :=
      ends_failed resolved
    rw [Attempt.run, ended]
    exact ⟨[], List.nil_prefix, nofun, .refl b n⟩

end Attempts

/-- Whatever happens to the requests of repeated calls with `ifNotExists`, and however each
call cuts the list: the table has got a beginning of the list, each partition once and behind
what it had, and all of the list once a call has succeeded. -/
theorem repeated_adds_add_once (setup : Setup) (complete : setup.without = [])
    (dbName tableName catName : Text) (ps : List Partition) (opts : CatalogOptions)
    (supports : Supports setup.v catName) (b : Backend)
    (there : (b.tables.lookup (tblKey catName dbName tableName)).isSome) (attempts : List Attempt)
    (sameCatalog : ∀ a ∈ attempts, effectiveCatalog a.cfg [] opts = catName)
    (know : ∀ a ∈ attempts, Knows setup.v a.session) :
    let ran := runAttempts setup dbName tableName ps opts attempts b
    let wires := ps.map (partitionToThrift · (sent setup.v catName) dbName tableName)
    ∃ done, done <+: wires ∧ Adds (tblKey catName dbName tableName) b ran.2 done ∧
      (.ok () ∈ ran.1 → done = wires) := by
  induction attempts generalizing b with
  | nil => exact ⟨[], List.nil_prefix, .refl b b.handled, nofun⟩
  | cons a rest ih =>
    obtain ⟨done, begins, all, adds⟩ := attempt_adds complete supports there
      (sameCatalog a (.head _)) (know a (.head _))
    obtain ⟨done', begins', adds', all'⟩ := ih _ (adds.tables ▸ there)
      (fun other inRest => sameCatalog other (.tail _ inRest))
      (fun other inRest => know other (.tail _ inRest))
    obtain ⟨longer, begins'', both, second, first⟩ :=
      adds.overlap adds' (begins.map _) begins'
    refine ⟨longer, begins'', both, fun succeeded => ?_⟩
    rcases List.mem_cons.mp succeeded with now | later
    · exact first (congrArg _ (all now.symm))
    · exact second (all' later)

/-- The table "t" of the database "d", with a partition key. -/
def partitioned : Backend :=
  { newBackend .hive31 with
    tables := AList.singleton (tblKey defaultCatalog [100] [116]) keyed }

/-- The first call breaks off at its first batch, of which the answer is lost. -/
def brokenOff : List Attempt :=
  [⟨.clamp [] id 0 1, newSession (), [.answered, .unanswered]⟩,
    ⟨.clamp [] id 0 2, newSession (), []⟩]

theorem broken_off_add_is_completed :
    let ps : List Partition := [{ values := some [[97]] }, { values := some [[98]] }]
    let ran := runAttempts (standing .hive31) [100] [116] ps [] brokenOff partitioned
    valuesOf (ran.2.partitionsAt (tblKey defaultCatalog [100] [116])) = [[[97]], [[98]]] ∧
      ∃ done, done <+: ps.map (partitionToThrift · (some defaultCatalog) [100] [116]) ∧
        Adds (tblKey defaultCatalog [100] [116]) partitioned ran.2 done := by
  refine ⟨by decide +kernel, ?_⟩
  obtain ⟨done, begins, adds, -⟩ := repeated_adds_add_once (standing .hive31) rfl [100] [116]
    defaultCatalog [{ values := some [[97]] }, { values := some [[98]] }] [] (.inr rfl) partitioned
    (by decide +kernel) brokenOff (by decide) (by
      intro a listed
      simp only [brokenOff, List.mem_cons, List.not_mem_nil, or_false] at listed
      rcases listed with rfl | rfl
      · exact .inl rfl
      · exact .inl rfl)
  exact ⟨done, begins, adds⟩

end HmsClient.Hmstest
