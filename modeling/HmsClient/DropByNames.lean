import HmsClient.Batching
import HmsClient.PartitionServer
import Mathlib.Data.List.Nodup
import Mathlib.Data.List.Perm.Basic

/-! `DropPartitionsByNames` that does not mind missing names, against the fake metastore.
The server stops at the first name of a request that is missing, with the array of the
partitions half moved, and the client goes on to the next request: so all is dropped that
was asked for, and nothing else disturbed, only if no request mixes names of partitions
with names of none. -/
namespace HmsClient.Hmstest
open PeerScript

/-- What a table is left with by a request for these names. -/
def afterRequest (tbl : Wire.Table) (parts : List Wire.Partition) (slice : List Text) :
    List Wire.Partition :=
  let looped := dropLoop tbl slice (.whole parts)
  if looped.1 then looped.2.view else looped.2.array

/-- The names of a table's partitions. -/
def namesOf (tbl : Wire.Table) (parts : List Wire.Partition) : List Text :=
  parts.map (partitionName tbl)

/-! ## One request -/

section Loop
variable {tbl : Wire.Table}

private theorem dropLoop_cons (tbl : Wire.Table) (name : Text) (rest : List Text)
    (existing : BackingArray Wire.Partition) :
    (∃ inside, dropLoop tbl (name :: rest) existing =
        dropLoop tbl rest
          (existing.removeAt (existing.view.findIdx fun p => partitionName tbl p = name) inside) ∧
        name ∈ namesOf tbl existing.view) ∨
      dropLoop tbl (name :: rest) existing = (false, existing) ∧
        name ∉ namesOf tbl existing.view := by
  rw [dropLoop]
  by_cases inside : (existing.view.findIdx fun p => partitionName tbl p = name) < existing.len
  · refine .inl ⟨inside, dif_pos inside, ?_⟩
    rw [← existing.length_view, List.findIdx_lt_length] at inside
    simpa [namesOf] using inside
  · refine .inr ⟨dif_neg inside, ?_⟩
    rw [← existing.length_view, List.findIdx_lt_length] at inside
    simpa [namesOf] using inside

private theorem dropLoop_length (slice : List Text) (existing : BackingArray Wire.Partition) :
    (dropLoop tbl slice existing).2.array.length = existing.array.length := by
  induction slice generalizing existing with
  | nil => rfl
  | cons name rest ih =>
    rcases dropLoop_cons tbl name rest existing with ⟨inside, same, -⟩ | ⟨same, -⟩
    · rw [same, ih, BackingArray.length_array_removeAt]
    · rw [same]

private theorem mem_dropLoop (inArray : p ∈ (dropLoop tbl slice existing).2.array) :
    p ∈ existing.array := by
  induction slice generalizing existing with
  | nil => exact inArray
  | cons name rest ih =>
    rcases dropLoop_cons tbl name rest existing with ⟨inside, same, -⟩ | ⟨same, -⟩
    · rw [same] at inArray
      exact BackingArray.mem_array_removeAt (ih inArray)
    · rwa [same] at inArray

/-- A loop that finds every name has cut out one partition for each. -/
private theorem dropLoop_found (found : (dropLoop tbl slice existing).1 = true) :
    (dropLoop tbl slice existing).2.len + slice.length = existing.len ∧
      ∀ name ∈ slice, name ∈ namesOf tbl existing.view := by
  induction slice generalizing existing with
  | nil => exact ⟨rfl, nofun⟩
  | cons name rest ih =>
    rcases dropLoop_cons tbl name rest existing with ⟨inside, same, here⟩ | ⟨same, -⟩
    · rw [same] at found ⊢
      obtain ⟨shorter, others⟩ := ih found
      refine ⟨?_, fun other inSlice => ?_⟩
      · rw [List.length_cons]
        change _ = existing.len - 1 at shorter
        omega
      · rcases List.mem_cons.mp inSlice with rfl | inRest
        · exact here
        · have remains := others other inRest
          rw [BackingArray.view_removeAt] at remains
          obtain ⟨p, inView, named⟩ := List.mem_map.mp remains
          exact List.mem_map.mpr ⟨p, List.mem_of_mem_eraseIdx inView, named⟩
    · rw [same] at found
      cases found

/-- Cutting out the one partition of a name leaves all of the others. -/
private theorem eraseIdx_named (distinct : (namesOf tbl parts).Nodup) (name : Text) :
    parts.eraseIdx (parts.findIdx fun p => partitionName tbl p = name) =
      parts.filter fun p => partitionName tbl p ≠ name := by
  induction parts with
  | nil => rfl
  | cons p rest ih =>
    obtain ⟨alone, distinct⟩ := List.nodup_cons.mp distinct
    by_cases named : partitionName tbl p = name
    · have others : rest.filter (fun q => decide (partitionName tbl q ≠ name)) = rest := by
        refine List.filter_eq_self.mpr fun q inRest => ?_
        have other : partitionName tbl q ≠ name := fun same =>
          alone (named ▸ same ▸ List.mem_map_of_mem inRest)
        simpa using other
      simpa [List.findIdx_cons, named] using others.symm
    · simp [List.findIdx_cons, named, ih distinct]

/-- A loop over names of partitions finds them all and cuts them out. -/
private theorem dropLoop_existing (existing : BackingArray Wire.Partition)
    (distinct : (namesOf tbl existing.view).Nodup) (once : slice.Nodup)
    (exist : ∀ name ∈ slice, name ∈ namesOf tbl existing.view) :
    (dropLoop tbl slice existing).1 = true ∧
      (dropLoop tbl slice existing).2.view =
        existing.view.filter fun p => partitionName tbl p ∉ slice := by
  induction slice generalizing existing with
  | nil => simp [dropLoop]
  | cons name rest ih =>
    obtain ⟨other, once⟩ := List.nodup_cons.mp once
    rcases dropLoop_cons tbl name rest existing with ⟨inside, same, -⟩ | ⟨-, missing⟩
    · have view := BackingArray.view_removeAt existing _ inside
      rw [eraseIdx_named distinct] at view
      have distinct' : (namesOf tbl (existing.removeAt _ inside).view).Nodup := by
        rw [view]
        exact distinct.sublist (List.filter_sublist.map _)
      obtain ⟨found, rest⟩ := ih _ distinct' once fun name' inRest => by
        obtain ⟨p, inView, named⟩ := List.mem_map.mp (exist name' (.tail _ inRest))
        rw [view]
        refine List.mem_map.mpr ⟨p, List.mem_filter.mpr ⟨inView, ?_⟩, named⟩
        have kept : partitionName tbl p ≠ name := fun same =>
          other (same.symm.trans named ▸ inRest)
        simpa using kept
      rw [same]
      refine ⟨found, ?_⟩
      rw [rest, view, List.filter_filter]
      refine List.filter_congr fun p _ => ?_
      simp [Bool.and_comm]
    · exact absurd (exist name (.head _)) missing

end Loop

section Request
variable {tbl : Wire.Table} {parts : List Wire.Partition} {slice : List Text}

private theorem mem_afterRequest (left : p ∈ afterRequest tbl parts slice) : p ∈ parts := by
  have inArray : p ∈ (dropLoop tbl slice (.whole parts)).2.array := by
    rw [afterRequest] at left
    split at left
    · exact List.mem_of_mem_take left
    · exact left
  exact mem_dropLoop inArray

/-- A request drops as many partitions as it names, all of which there are, or none. -/
private theorem length_afterRequest (tbl : Wire.Table) (parts : List Wire.Partition)
    (slice : List Text) :
    ((afterRequest tbl parts slice).length + slice.length = parts.length ∧
        ∀ name ∈ slice, name ∈ namesOf tbl parts) ∨
      (afterRequest tbl parts slice).length = parts.length := by
  rw [afterRequest]
  split
  · next found =>
    obtain ⟨shorter, exist⟩ := dropLoop_found found
    rw [BackingArray.view_whole] at exist
    rw [BackingArray.length_view]
    exact .inl ⟨shorter, exist⟩
  · exact .inr (dropLoop_length slice (.whole parts))

/-- The names are all names of partitions, or none of them is. -/
def Unmixed (tbl : Wire.Table) (parts : List Wire.Partition) (slice : List Text) : Prop :=
  (∀ name ∈ slice, name ∈ namesOf tbl parts) ∨ ∀ name ∈ slice, name ∉ namesOf tbl parts

instance : Decidable (Unmixed tbl parts slice) :=
  inferInstanceAs (Decidable (_ ∨ _))

private theorem afterRequest_unmixed (distinct : (namesOf tbl parts).Nodup) (once : slice.Nodup)
    (unmixed : Unmixed tbl parts slice) :
    afterRequest tbl parts slice = parts.filter fun p => partitionName tbl p ∉ slice := by
  rcases unmixed with exist | missing
  · obtain ⟨found, view⟩ := dropLoop_existing (.whole parts)
      (by rwa [BackingArray.view_whole]) once (by rwa [BackingArray.view_whole])
    rw [afterRequest, if_pos found, view, BackingArray.view_whole]
  · have others : parts.filter (fun p => decide (partitionName tbl p ∉ slice)) = parts := by
      refine List.filter_eq_self.mpr fun p inParts => ?_
      have other : partitionName tbl p ∉ slice := fun inSlice =>
        missing _ inSlice (List.mem_map_of_mem inParts)
      simpa using other
    rw [others]
    cases slice with
    | nil => simp [afterRequest, dropLoop]
    | cons name rest =>
      rcases dropLoop_cons tbl name rest (.whole parts) with ⟨_, _, here⟩ | ⟨same, _⟩
      · rw [BackingArray.view_whole] at here
        exact absurd here (missing name (.head _))
      · rw [afterRequest, same]
        rfl

end Request

/-! ## All requests -/

/-- No partition of these names remains, and every other one remains once. -/
def DropsExactly (tbl : Wire.Table) (names : List Text) (before after : List Wire.Partition) :
    Prop :=
  (∀ p ∈ after, partitionName tbl p ∉ names) ∧
    ∀ p ∈ before, partitionName tbl p ∉ names → after.count p = 1

section Requests
variable {tbl : Wire.Table} {parts left : List Wire.Partition} {slices : List (List Text)}

private theorem mem_afterRequests {p : Wire.Partition}
    (remains : p ∈ slices.foldl (afterRequest tbl) left) : p ∈ left := by
  induction slices generalizing left with
  | nil => exact remains
  | cons slice rest ih => exact mem_afterRequest (ih remains)

/-- At most as many are dropped as names of partitions were asked for, and only if none of
these names comes with one that is missing as many. -/
private theorem length_afterRequests (within : ∀ p ∈ left, p ∈ parts) :
    let dropped := slices.flatten.countP fun name => decide (name ∈ namesOf tbl parts)
    let remaining := (slices.foldl (afterRequest tbl) left).length
    left.length ≤ remaining + dropped ∧
      (left.length = remaining + dropped → ∀ slice ∈ slices, Unmixed tbl parts slice) := by
  induction slices generalizing left with
  | nil => exact ⟨Nat.le_refl _, nofun⟩
  | cons slice rest ih =>
    have within' : ∀ p ∈ afterRequest tbl left slice, p ∈ parts :=
      fun p remains => within p (mem_afterRequest remains)
    obtain ⟨bound, unmixed⟩ := ih within'
    simp only [List.flatten_cons, List.countP_append, List.foldl_cons, List.forall_mem_cons]
    rcases length_afterRequest tbl left slice with
      ⟨shorter, exist⟩ | same
    · have all : ∀ name ∈ slice, name ∈ namesOf tbl parts := by
        intro name inSlice
        obtain ⟨p, inLeft, named⟩ := List.mem_map.mp (exist name inSlice)
        exact List.mem_map.mpr ⟨p, within p inLeft, named⟩
      have counted : slice.countP (fun name => decide (name ∈ namesOf tbl parts)) = slice.length :=
        List.countP_eq_length.mpr (by simpa using all)
      exact ⟨by omega, fun equal => ⟨.inl all, unmixed (by omega)⟩⟩
    · refine ⟨by omega, fun equal => ⟨.inr ?_, unmixed (by omega)⟩⟩
      have none : slice.countP (fun name => decide (name ∈ namesOf tbl parts)) = 0 := by omega
      simpa using List.countP_eq_zero.mp none

private theorem mem_namesOf_filter {slice : List Text} :
    name ∈ namesOf tbl (left.filter fun p => partitionName tbl p ∉ slice) ↔
      name ∈ namesOf tbl left ∧ name ∉ slice := by
  constructor
  · intro remains
    obtain ⟨p, kept, rfl⟩ := List.mem_map.mp remains
    obtain ⟨inLeft, other⟩ := List.mem_filter.mp kept
    exact ⟨List.mem_map_of_mem inLeft, by simpa using other⟩
  · rintro ⟨here, other⟩
    obtain ⟨p, inLeft, rfl⟩ := List.mem_map.mp here
    exact List.mem_map.mpr ⟨p, List.mem_filter.mpr ⟨inLeft, by simpa using other⟩, rfl⟩

private theorem afterRequests_unmixed (distinct : (namesOf tbl left).Nodup)
    (once : slices.flatten.Nodup) (unmixed : ∀ slice ∈ slices, Unmixed tbl left slice) :
    slices.foldl (afterRequest tbl) left =
      left.filter fun p => partitionName tbl p ∉ slices.flatten := by
  induction slices generalizing left with
  | nil => simp
  | cons slice rest ih =>
    rw [List.flatten_cons, List.nodup_append'] at once
    obtain ⟨onceHere, onceRest, disjoint⟩ := once
    rw [List.foldl_cons, afterRequest_unmixed distinct onceHere (unmixed slice (.head _)), ih]
    · rw [List.filter_filter]
      refine List.filter_congr fun p _ => ?_
      simp [Bool.and_comm]
    · exact distinct.sublist (List.filter_sublist.map _)
    · exact onceRest
    · intro other inRest
      have apart : ∀ name ∈ other, name ∉ slice := fun name inOther inSlice =>
        disjoint inSlice (List.mem_flatten.mpr ⟨other, inRest, inOther⟩)
      rcases unmixed other (.tail _ inRest) with exist | missing
      · exact .inl fun name inOther =>
          mem_namesOf_filter.mpr ⟨exist name inOther, apart name inOther⟩
      · exact .inr fun name inOther here =>
          missing name inOther (mem_namesOf_filter.mp here).1

/-- The names that are asked for and the partitions that have one are equally many. -/
private theorem count_named {names : List Text} (distinct : (namesOf tbl parts).Nodup)
    (once : names.Nodup) :
    names.countP (fun name => decide (name ∈ namesOf tbl parts)) =
      parts.countP fun p => decide (partitionName tbl p ∈ names) := by
  have same : (names.filter fun name => decide (name ∈ namesOf tbl parts)).Perm
      ((namesOf tbl parts).filter fun name => decide (name ∈ names)) := by
    refine (List.perm_ext_iff_of_nodup (once.filter _) (distinct.filter _)).mpr fun name => ?_
    simp [and_comm]
  rw [List.countP_eq_length_filter, same.length_eq, ← List.countP_eq_length_filter, namesOf,
    List.countP_map]
  rfl

private theorem length_of_exact {names : List Text} (distinct : (namesOf tbl parts).Nodup)
    (within : ∀ p ∈ left, p ∈ parts) (exact : DropsExactly tbl names parts left) :
    left.length = parts.countP fun p => decide (partitionName tbl p ∉ names) := by
  have once : left.Nodup := List.nodup_iff_count_eq_one.mpr fun p remains =>
    exact.2 p (within p remains) (exact.1 p remains)
  have same : left.Perm (parts.filter fun p => decide (partitionName tbl p ∉ names)) := by
    refine (List.perm_ext_iff_of_nodup once (distinct.of_map.filter _)).mpr fun p => ?_
    rw [List.mem_filter, decide_eq_true_iff]
    refine ⟨fun remains => ⟨within p remains, exact.1 p remains⟩, fun ⟨here, other⟩ => ?_⟩
    exact List.count_pos_iff.mp (by rw [exact.2 p here other]; exact Nat.one_pos)
  rw [same.length_eq, List.countP_eq_length_filter]

private theorem exact_iff_unmixed (distinct : (namesOf tbl parts).Nodup)
    (once : slices.flatten.Nodup) :
    DropsExactly tbl slices.flatten parts (slices.foldl (afterRequest tbl) parts) ↔
      ∀ slice ∈ slices, Unmixed tbl parts slice := by
  constructor
  · intro exact
    have remaining := length_of_exact distinct (fun p remains => mem_afterRequests remains) exact
    have asked := count_named distinct once
    have all : parts.length =
        parts.countP (fun p => decide (partitionName tbl p ∈ slices.flatten)) +
          parts.countP fun p => decide (partitionName tbl p ∉ slices.flatten) := by
      simpa only [decide_eq_true_eq] using List.length_eq_countP_add_countP
        (fun p => decide (partitionName tbl p ∈ slices.flatten)) (l := parts)
    exact (length_afterRequests fun p inParts => inParts).2 (by omega)
  · intro unmixed
    rw [afterRequests_unmixed distinct once unmixed]
    refine ⟨fun p kept => by simpa using (List.mem_filter.mp kept).2, fun p here other => ?_⟩
    rw [List.count_filter (by simpa using other)]
    exact List.nodup_iff_count_eq_one.mp distinct.of_map p here

end Requests

/-! ## The operation -/

/-- The request `DropPartitionsByNames` makes of one slice of names. -/
def dropRequest (cat : Option Text) (dbName tableName : Text) (deleteData : Bool)
    (slice : List Text) : Wire.DropPartitionsRequest :=
  { dbName := dbName
    tblName := tableName
    names := some slice
    deleteData := some deleteData
    ifExists := true
    needResult := false
    catName := cat }

section Operation
variable {srv : Server} {s : Session Unit} {store : Store} {tbl : Wire.Table}
  {dbName tableName catName : Text} {deleteData : Bool} {cat : Option Text}

private theorem request_handled (now : Nat → Nat → Int32) (deleteData : Bool)
    (resolved : Hmstest.cat v cat = .ok catName)
    (present : store.tables.lookup (tblKey catName dbName tableName) = some tbl) (slice : List Text) :
    let handled := dropPartitionsReq v now (dropRequest cat dbName tableName deleteData slice) store
    (handled.1 = .ok () ∨ handled.1 = .error partitionsMissing) ∧ handled.2.tables = store.tables ∧
      handled.2.partitionsAt (tblKey catName dbName tableName) =
        afterRequest tbl (store.partitionsAt (tblKey catName dbName tableName)) slice := by
  have table : store.tableAt catName dbName tableName = .ok tbl := by
    rw [Store.tableAt, present]
  cases found : (dropLoop tbl slice
      (.whole (store.partitionsAt (tblKey catName dbName tableName)))).1 with
  | true =>
    simp only [dropPartitionsReq, dropRequest, resolved, table, Slice.items_some, afterRequest,
      found, Bool.false_eq_true, if_false, if_true]
    exact ⟨.inl trivial, rfl, partitionsAt_setPartitions store _ _⟩
  | false =>
    simp only [dropPartitionsReq, dropRequest, resolved, table, Slice.items_some, afterRequest,
      found, Bool.false_eq_true, if_false]
    exact ⟨.inr trivial, rfl, partitionsAt_setPartitions store _ _⟩

/-- The client makes nothing of a name that is missing. -/
private theorem request_served (deleteData : Bool) (resolved : Hmstest.cat srv.v cat = .ok catName)
    (present : store.tables.lookup (tblKey catName dbName tableName) = some tbl)
    (slice : List Text) :
    let played := (ifPresent true (rpc (.dropPartitionsReq
      (dropRequest cat dbName tableName deleteData slice))) s).play srv.serve store
    played.outcome = (.ok (), s) ∧ played.state.tables = store.tables ∧
      played.state.partitionsAt (tblKey catName dbName tableName) =
        afterRequest tbl (store.partitionsAt (tblKey catName dbName tableName)) slice := by
  obtain ⟨either, tables, parts⟩ :=
    request_handled srv.now deleteData resolved present slice
  have answered : srv.serve (.dropPartitionsReq (dropRequest cat dbName tableName deleteData slice))
      store = writing (dropPartitionsReq srv.v srv.now _ store) := rfl
  simp only [ifPresent, rpc, Dialogue.request, Dialogue.result, bind, Script.bind, Script.play,
    answered, writing]
  rcases either with found | missing
  · rw [found]
    exact ⟨rfl, tables, parts⟩
  · rw [missing]
    exact ⟨rfl, tables, parts⟩

private theorem requests_served (resolved : Hmstest.cat srv.v cat = .ok catName)
    (present : store.tables.lookup (tblKey catName dbName tableName) = some tbl)
    (slices : List (List Text)) :
    let played := (slices.forM (fun slice => ifPresent true (rpc (.dropPartitionsReq
      (dropRequest cat dbName tableName deleteData slice)))) s).play srv.serve store
    played.state.partitionsAt (tblKey catName dbName tableName) =
      slices.foldl (afterRequest tbl) (store.partitionsAt (tblKey catName dbName tableName)) := by
  induction slices generalizing store with
  | nil => rfl
  | cons slice rest ih =>
    obtain ⟨outcome, tables, parts⟩ :=
      request_served (s := s) deleteData resolved present slice
    have later := ih (tables ▸ present)
    rw [parts] at later
    have ended : (ifPresent true (rpc (.dropPartitionsReq
        (dropRequest cat dbName tableName deleteData slice))) s).ends srv.serve store =
        ((.ok (), s), _) := Prod.ext outcome rfl
    exact (congrArg (Store.partitionsAt · _) (Prod.mk.inj (ends_then ended)).2).trans later

/-- A server without catalogs refuses a request that names one. -/
private theorem requests_refused (refused : Hmstest.cat srv.v cat = .error unexpectedCatName)
    (slice : List Text) (rest : List (List Text)) :
    (((slice :: rest).forM (fun slice => ifPresent true (rpc (.dropPartitionsReq
      (dropRequest cat dbName tableName deleteData slice)))) s).play srv.serve store).outcome.1 =
      .error (thrown .metaException).err := by
  have handled : dropPartitionsReq srv.v srv.now
      (dropRequest cat dbName tableName deleteData slice) store =
        (.error unexpectedCatName, store) := by
    simp only [dropPartitionsReq, dropRequest, refused]
  have answered : srv.serve (.dropPartitionsReq (dropRequest cat dbName tableName deleteData slice))
      store = writing (dropPartitionsReq srv.v srv.now _ store) := rfl
  have failed : (ifPresent true (rpc (.dropPartitionsReq
      (dropRequest cat dbName tableName deleteData slice))) s).ends srv.serve store =
      ((.error (thrown .metaException).err, s), store) := by
    simp only [ifPresent, rpc, Dialogue.request, Dialogue.result, bind, Script.bind, Script.ends,
      Script.play, answered, writing, handled]
    rfl
  exact congrArg Prod.fst (Prod.mk.inj (ends_failed failed)).1

/-- The partitions are those of the table in the catalog the call is about. -/
private theorem cat_of_resolution (resolved : resolution effective (.ok known) = .ok cat) :
    Hmstest.cat v cat = .ok effective ∨ Hmstest.cat v cat = .error unexpectedCatName := by
  cases known with
  | true =>
    cases resolved
    cases v with
    | hive23 => exact .inr rfl
    | hive31 | hive40 => exact .inl rfl
  | false =>
    rw [resolution] at resolved
    split at resolved
    · next isDefault =>
      cases resolved
      exact .inl (isDefault ▸ rfl)
    · cases resolved

/-- A call without an error leaves what its requests leave, one after the other. -/
private theorem operation_served
    (present : store.tables.lookup
      (tblKey (effectiveCatalog cfg [] opts) dbName tableName) = some tbl)
    (returned : ((dropPartitionsByNames cfg dbName tableName names deleteData true opts s).play
      srv.serve store).outcome.1 = .ok ()) :
    let key := tblKey (effectiveCatalog cfg [] opts) dbName tableName
    ((dropPartitionsByNames cfg dbName tableName names deleteData true opts s).play srv.serve
        store).state.partitionsAt key =
      (batches cfg.partitionBatchSize names.length names).foldl (afterRequest tbl)
        (store.partitionsAt key) := by
  let requests (cat : Option Text) : Closure Unit Unit :=
    (batches cfg.partitionBatchSize names.length names).forM fun slice =>
      ifPresent true (rpc (.dropPartitionsReq (dropRequest cat dbName tableName deleteData slice)))
  obtain ⟨unchanged, -, known, found, -⟩ := resolveCatFor_served srv cfg [] opts s store
  rcases resolved : (resolveCatFor cfg [] opts s).ends srv.serve store with ⟨⟨r, mid⟩, store'⟩
  obtain ⟨ended, left⟩ := Prod.mk.inj resolved
  cases left.symm.trans unchanged
  rw [ended] at found
  cases r with
  | error e => cases (congrArg (·.1.1) (ends_failed (f := requests) resolved)).symm.trans returned
  | ok cat =>
    obtain ⟨outcome, state⟩ := Prod.mk.inj (ends_then (f := requests) resolved)
    refine (congrArg (Store.partitionsAt · _) state).trans ?_
    rcases cat_of_resolution found.symm with named | refused
    · exact requests_served named present _
    · have refusal := (congrArg Prod.fst outcome).symm.trans returned
      dsimp only [requests] at refusal ⊢
      cases slices : batches cfg.partitionBatchSize names.length names with
      | nil => rfl
      | cons slice rest =>
        rw [slices] at refusal
        cases (requests_refused refused slice rest).symm.trans refusal

end Operation

/-- With `ifExists`, and without an error, exactly what was asked for is dropped if and only
if every request is for names of partitions alone or for missing names alone. -/
theorem drops_exactly_iff_unmixed (srv : Server) (cfg : Config) (dbName tableName : Text)
    (names : List Text) (deleteData : Bool) (opts : CatalogOptions) (s : Session Unit)
    (store : Store) (tbl : Wire.Table)
    (present : store.tables.lookup
      (tblKey (effectiveCatalog cfg [] opts) dbName tableName) = some tbl)
    (distinct : (namesOf tbl
      (store.partitionsAt (tblKey (effectiveCatalog cfg [] opts) dbName tableName))).Nodup)
    (once : names.Nodup)
    (returned : ((dropPartitionsByNames cfg dbName tableName names deleteData true opts s).play
      srv.serve store).outcome.1 = .ok ()) :
    let key := tblKey (effectiveCatalog cfg [] opts) dbName tableName
    let after :=
      ((dropPartitionsByNames cfg dbName tableName names deleteData true opts s).play srv.serve
        store).state
    DropsExactly tbl names (store.partitionsAt key) (after.partitionsAt key) ↔
      ∀ slice ∈ batches cfg.partitionBatchSize names.length names,
        Unmixed tbl (store.partitionsAt key) slice := by
  have whole := batches_flatten cfg.partitionBatchSize_pos names.length names (Nat.le_refl _)
  have exact := exact_iff_unmixed distinct (whole.symm ▸ once)
  rw [whole] at exact
  intro key after
  rw [show after.partitionsAt key = _ from operation_served present returned]
  exact exact

/-- The partitions of a table "hive.d.t" after a call for these names. -/
def leftBy (batchSize : Int) (parts : List Wire.Partition) (names : List Text) :
    Except Err Unit × List Wire.Partition :=
  let played := (dropPartitionsByNames (Config.clamp [] id 0 batchSize) [100] [116] names false true
    [] ⟨.unknown, [], [], ()⟩).play (partitionsOnly .hive40).serve (storeOf parts)
  (played.outcome.1, played.state.partitionsAt (tblKey defaultCatalog [100] [116]))

/-- Asked in one request for "k=a", "k=z" and "k=b", of which the second is missing, the
server moves the partitions over "k=a" and gives up: there still is "k=b", and "k=c" is
there twice. The call reports no error. -/
theorem missing_name_spoils_its_request :
    leftBy 3 [lettered 97, lettered 98, lettered 99]
        [[107, 61, 97], [107, 61, 122], [107, 61, 98]] =
      (.ok (), [lettered 98, lettered 99, lettered 99]) ∧
    ¬DropsExactly keyed [[107, 61, 97], [107, 61, 122], [107, 61, 98]]
      [lettered 97, lettered 98, lettered 99] [lettered 98, lettered 99, lettered 99] := by
  refine ⟨rfl, fun exact => ?_⟩
  exact exact.1 (lettered 98) (by decide) (by decide)

/-- Two requests, one for "k=a" and "k=b" and one for "k=z". -/
theorem unmixed_requests_drop_exactly :
    (leftBy 2 [lettered 97, lettered 98, lettered 99]
        [[107, 61, 97], [107, 61, 98], [107, 61, 122]]).1 = .ok () ∧
      DropsExactly keyed [[107, 61, 97], [107, 61, 98], [107, 61, 122]]
        [lettered 97, lettered 98, lettered 99]
        (leftBy 2 [lettered 97, lettered 98, lettered 99]
          [[107, 61, 97], [107, 61, 98], [107, 61, 122]]).2 := by
  have returned : (leftBy 2 [lettered 97, lettered 98, lettered 99]
      [[107, 61, 97], [107, 61, 98], [107, 61, 122]]).1 = .ok () := rfl
  have exact := drops_exactly_iff_unmixed (partitionsOnly .hive40) (Config.clamp [] id 0 2) [100] [116]
    [[107, 61, 97], [107, 61, 98], [107, 61, 122]] false [] ⟨.unknown, [], [], ()⟩
    (storeOf [lettered 97, lettered 98, lettered 99]) keyed rfl (by decide) (by decide) returned
  exact ⟨returned, exact.mpr (by decide)⟩

end HmsClient.Hmstest
