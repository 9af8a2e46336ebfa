import HmsClient.BackingArray
import HmsClient.LegacyForms
import HmsClient.NotificationLog
import HmsClient.PeerPlay
import HmsClient.QualifiedName
import Mathlib.Data.List.AList

/-! The partitions of the fake metastore of `hmstest`. A handler answers and changes the
store; which methods a server has, and whether it takes a catalog, depends on the version
it emulates. The store keeps slices, and a handler that cuts partitions out of one works in
the array that the store still shows. -/
namespace HmsClient.Hmstest
open PeerScript

/-- `Store`, as far as the handlers of partitions read and write it. -/
structure Store where
  catalogs : AList fun _ : Text => Wire.Catalog
  tables : AList fun _ : Text => Wire.Table
  partitions : AList fun _ : Text => List Wire.Partition
  events : List Wire.NotificationEvent

def tblKey (catName db tbl : Text) : Text := catName ++ 46 :: db ++ 46 :: tbl

/-- A key without partitions has a nil slice. -/
def Store.partitionsAt (store : Store) (key : Text) : List Wire.Partition :=
  (store.partitions.lookup key).getD []

def Store.setPartitions (store : Store) (key : Text) (parts : List Wire.Partition) : Store :=
  { store with partitions := store.partitions.insert key parts }

theorem partitionsAt_setPartitions (store : Store) (key : Text) (parts : List Wire.Partition) :
    (store.setPartitions key parts).partitionsAt key = parts := by
  simp [Store.partitionsAt, Store.setPartitions]

/-- `now` is what `now32` returns. -/
def Store.recordEvent (store : Store) (now : Int32) (eventType db tbl : Text) : Store :=
  let table : Text := if tbl ≠ [] then ",\"table\":\"".toUTF8.data.toList ++ tbl ++ [34] else []
  let event : Wire.NotificationEvent :=
    { eventId := .ofNat (store.events.length + 1)
      eventTime := now
      eventType := eventType
      dbName := some db
      tableName := if tbl ≠ [] then some tbl else none
      message := "\x7b\"db\":\"".toUTF8.data.toList ++ db ++ [34] ++ table ++ [125]
      messageFormat := some "json-0.2".toUTF8.data.toList
      catName := none }
  { store with events := store.events ++ [event] }

/-! ## Exceptions -/

/-- An exception as a handler throws it. -/
structure Thrown where
  kind : Exception
  message : Text
  deriving DecidableEq

def text (s : String) : Text := s.toUTF8.data.toList

def tableNotFound (db tbl : Text) : Text := text "table " ++ db ++ 46 :: tbl ++ text " not found"

/-- The refusal of a field that this client leaves at its default. -/
def unexpectedField (field : String) : Thrown :=
  ⟨.metaException, text "unexpected non-default field " ++ text field⟩

def unexpectedCatName : Thrown := ⟨.metaException, text "unexpected catName"⟩

def partitionsMissing : Thrown := ⟨.noSuchObject, text "Some partitions to drop are missing"⟩

/-! ## Names -/

def cat (v : Version) (catName : Option Text) : Except Thrown Text :=
  match catName with
  | none => .ok defaultCatalog
  | some name => if v = .hive23 then .error unexpectedCatName else .ok name

def resolveDB (v : Version) (name : Text) : Except Thrown (Text × Text) :=
  if v = .hive23 && name.head? = some 64 then
    .error ⟨.metaException, text "unexpected catalog qualifier"⟩
  else .ok (splitCatDB name)

/-- The name of a partition: nothing is escaped, and a value that is missing is empty. -/
def partitionName (tbl : Wire.Table) (p : Wire.Partition) : Text :=
  [47].intercalate (tbl.partitionKeys.items.mapIdx fun i k =>
    k.name ++ 61 :: (p.values.items[i]?).getD [])

/-! ## Picking partitions -/

def findPartition (parts : List Wire.Partition) (values : Slice Text) : Option Nat :=
  parts.findIdx? fun p => p.values.items = values.items

/-- A negative limit is none. -/
def truncateParts (parts : List Wire.Partition) (maxParts : Int16) : List Wire.Partition :=
  if 0 ≤ maxParts.toInt && maxParts.toInt < parts.length then parts.take maxParts.toInt.toNat
  else parts

def partitionsMatchingNames (tbl : Wire.Table) (parts : List Wire.Partition) (names : Slice Text) :
    List Wire.Partition :=
  parts.filter fun p => names.items.contains (partitionName tbl p)

/-- An empty value matches any. -/
def partitionMatchesPartialValues (partialValues : Slice Text) (p : Wire.Partition) : Bool :=
  partialValues.items.zipIdx.all fun (v, i) => v = [] || p.values.items[i]? = some v

def partitionsMatchingPartialValues (parts : List Wire.Partition) (partialValues : Slice Text) :
    List Wire.Partition :=
  parts.filter (partitionMatchesPartialValues partialValues)

/-! ## Handlers that read -/

/-- The table of a request that reads or drops partitions. -/
def Store.tableAt (store : Store) (catName db tblName : Text) : Except Thrown Wire.Table :=
  match store.tables.lookup (tblKey catName db tblName) with
  | some tbl => .ok tbl
  | none => .error ⟨.noSuchObject, tableNotFound db tblName⟩

/-- `GetCatalogs`, which sorts the names. -/
def getCatalogs (store : Store) : List Text :=
  store.catalogs.keys.mergeSort fun a b => decide (a ≤ b)

def getPartitions (v : Version) (dbName tblName : Text) (maxParts : Int16) (store : Store) :
    Except Thrown (List Wire.Partition) := do
  let (catName, db) ← resolveDB v dbName
  let key := tblKey catName db tblName
  let _ ← store.tableAt catName db tblName
  pure (truncateParts (store.partitionsAt key) maxParts)

def getPartitionsReq (v : Version) (req : Wire.PartitionsRequest) (store : Store) :
    Except Thrown (List Wire.Partition) := do
  let catName ← cat v req.catName
  let key := tblKey catName req.dbName req.tblName
  let _ ← store.tableAt catName req.dbName req.tblName
  pure (truncateParts (store.partitionsAt key) req.maxParts)

def getPartitionNames (v : Version) (dbName tblName : Text) (maxParts : Int16) (store : Store) :
    Except Thrown (List Text) := do
  let (catName, db) ← resolveDB v dbName
  let key := tblKey catName db tblName
  let tbl ← store.tableAt catName db tblName
  pure ((truncateParts (store.partitionsAt key) maxParts).map (partitionName tbl))

def getPartitionsByNames (v : Version) (dbName tblName : Text) (names : Slice Text)
    (store : Store) : Except Thrown (List Wire.Partition) := do
  let (catName, db) ← resolveDB v dbName
  let key := tblKey catName db tblName
  let tbl ← store.tableAt catName db tblName
  pure (partitionsMatchingNames tbl (store.partitionsAt key) names)

/-- The request has no catalog, so the database's name carries it. -/
def getPartitionsByNamesReq (v : Version) (req : Wire.GetPartitionsByNamesRequest)
    (store : Store) : Except Thrown (List Wire.Partition) := do
  let (catName, db) ← resolveDB v req.dbName
  let key := tblKey catName db req.tblName
  let tbl ← store.tableAt catName db req.tblName
  pure (partitionsMatchingNames tbl (store.partitionsAt key) req.names)

def getPartitionNamesPs (v : Version) (dbName tblName : Text) (partVals : Slice Text)
    (maxParts : Int16) (store : Store) : Except Thrown (List Text) := do
  let (catName, db) ← resolveDB v dbName
  let key := tblKey catName db tblName
  let tbl ← store.tableAt catName db tblName
  let matched := truncateParts (partitionsMatchingPartialValues (store.partitionsAt key) partVals)
    maxParts
  pure (matched.map (partitionName tbl))

def getPartitionNamesPsReq (v : Version) (req : Wire.GetPartitionNamesPsRequest) (store : Store) :
    Except Thrown (List Text) := do
  let catName ← cat v req.catName
  let key := tblKey catName req.dbName req.tblName
  let tbl ← store.tableAt catName req.dbName req.tblName
  let matched := truncateParts
    (partitionsMatchingPartialValues (store.partitionsAt key) req.partValues) req.maxParts
  pure (matched.map (partitionName tbl))

/-! ## Handlers that write -/

/-- The outcome of a handler, and the store it leaves. -/
abbrev Handled (α : Type) := Except Thrown α × Store

/-- The loop of `AddPartitionsReq`: `existing`, and whether anything was added. -/
def addLoop (now : Nat → Int32) (ifNotExists : Bool) :
    List Wire.Partition → List Wire.Partition → Bool →
    Except Thrown (List Wire.Partition × Bool)
  | [], existing, added => .ok (existing, added)
  | p :: rest, existing, added =>
    match findPartition existing p.values with
    | some _ =>
      if ifNotExists then addLoop now ifNotExists rest existing added
      else .error ⟨.alreadyExists, text "partition already exists"⟩
    | none =>
      let stored := if p.createTime = 0 then { p with createTime := now existing.length } else p
      addLoop now ifNotExists rest (existing ++ [stored]) true

/-- The event types "ADD_PARTITION" and "DROP_PARTITION". -/
def addPartitionEvent : Text := "ADD_PARTITION".toUTF8.data.toList

@[inherit_doc addPartitionEvent]
def dropPartitionEvent : Text := "DROP_PARTITION".toUTF8.data.toList

def addPartitionsReq (v : Version) (now : Nat → Nat → Int32) (req : Wire.AddPartitionsRequest)
    (store : Store) : Handled Unit :=
  match cat v req.catName with
  | .error e => (.error e, store)
  | .ok catName =>
    let key := tblKey catName req.dbName req.tblName
    match store.tables.lookup key with
    | none => (.error ⟨.metaException, tableNotFound req.dbName req.tblName⟩, store)
    | some _ =>
      let reading := now store.events.length
      match addLoop reading req.ifNotExists req.parts.items (store.partitionsAt key) false with
      | .error e => (.error e, store)
      | .ok (existing, added) =>
        let store := store.setPartitions key existing
        (.ok (), if added then
          store.recordEvent (reading existing.length) addPartitionEvent req.dbName req.tblName
        else store)

/-- All places are looked up before the first is written. -/
def applyAlterPartitions (catName db tbl : Text) (parts : Slice Wire.Partition) (store : Store) :
    Handled Unit :=
  let key := tblKey catName db tbl
  match store.tables.lookup key with
  | none => (.error ⟨.metaException, tableNotFound db tbl⟩, store)
  | some _ =>
    let existing := store.partitionsAt key
    match parts.items.mapM fun np => findPartition existing np.values with
    | none => (.error ⟨.invalidOperation, text "partition not found"⟩, store)
    | some idxs =>
      (.ok (), store.setPartitions key
        ((idxs.zip parts.items).foldl (fun existing (idx, np) => existing.set idx np) existing))

def alterPartitions (v : Version) (dbName tblName : Text) (parts : Slice Wire.Partition)
    (store : Store) : Handled Unit :=
  match resolveDB v dbName with
  | .error e => (.error e, store)
  | .ok (catName, db) => applyAlterPartitions catName db tblName parts store

def alterPartitionsReq (v : Version) (req : Wire.AlterPartitionsRequest) (store : Store) :
    Handled Unit :=
  match cat v req.catName with
  | .error e => (.error e, store)
  | .ok catName => applyAlterPartitions catName req.dbName req.tableName req.partitions store

/-- Whether there is such a table is not asked. -/
def dropPartition (v : Version) (now : Nat → Nat → Int32) (dbName tblName : Text)
    (partVals : Slice Text) (store : Store) : Handled Bool :=
  match resolveDB v dbName with
  | .error e => (.error e, store)
  | .ok (catName, db) =>
    let key := tblKey catName db tblName
    match findPartition (store.partitionsAt key) partVals with
    | none => (.error ⟨.noSuchObject, text "partition not found"⟩, store)
    | some idx =>
      (.ok true, (store.setPartitions key ((store.partitionsAt key).eraseIdx idx)).recordEvent
        (now store.events.length 0) dropPartitionEvent db tblName)

/-- The loop of `DropPartitionsReq` over `existing`, up to the first name that is missing. -/
def dropLoop (tbl : Wire.Table) :
    List Text → BackingArray Wire.Partition → Bool × BackingArray Wire.Partition
  | [], existing => (true, existing)
  | name :: rest, existing =>
    let idx := existing.view.findIdx fun p => partitionName tbl p = name
    if inside : idx < existing.len then dropLoop tbl rest (existing.removeAt idx inside)
    else (false, existing)

/-- Whether a name may be missing (`ifExists`) is not asked. Only after the last name the
store gets the shorter slice; up to then it shows all of the array the loop works in. -/
def dropPartitionsReq (v : Version) (now : Nat → Nat → Int32) (req : Wire.DropPartitionsRequest)
    (store : Store) : Handled Unit :=
  match cat v req.catName with
  | .error e => (.error e, store)
  | .ok catName =>
    if req.needResult then (.error (unexpectedField "NeedResult_"), store)
    else
      let key := tblKey catName req.dbName req.tblName
      match store.tableAt catName req.dbName req.tblName with
      | .error e => (.error e, store)
      | .ok tbl =>
        let looped := dropLoop tbl req.names.items (.whole (store.partitionsAt key))
        if looped.1 then
          (.ok (), (store.setPartitions key looped.2.view).recordEvent
            (now store.events.length 0) dropPartitionEvent req.dbName req.tblName)
        else (.error partitionsMissing, store.setPartitions key looped.2.array)

/-! ## The server -/

/-- A server: its version, its clock by the number of events recorded and of readings
since, and what it does on requests that are not about partitions. -/
structure Server where
  v : Version
  now : Nat → Nat → Int32
  others : (call : Call) → Store → Except RpcErr call.Reply × Store

/-- The names on the wire of the methods that not every version has. -/
def removable : Call → Option String
  | .getCatalogs => some "get_catalogs"
  | .getCatalog _ => some "get_catalog"
  | .createCatalog _ => some "create_catalog"
  | .dropCatalog _ => some "drop_catalog"
  | call => call.requestForm

def removedRPCs : Version → List String
  | .hive23 =>
    ["get_catalogs", "get_catalog", "create_catalog", "drop_catalog", "alter_partitions_req",
      "get_partitions_req", "get_partitions_by_names_req", "get_partition_names_ps_req"]
  | .hive31 =>
    ["alter_partitions_req", "get_partitions_req", "get_partitions_by_names_req",
      "get_partition_names_ps_req"]
  | .hive40 => []

def removed (v : Version) (call : Call) : Bool :=
  match removable call with
  | some method => (removedRPCs v).contains method
  | none => false

/-- An exception that the method declares reaches the client as it is; the client reads its
type. -/
def thrown (e : Exception) : RpcErr :=
  ⟨.leaf (.exception e), by cases e <;> decide⟩

def Thrown.rpcErr (e : Thrown) : RpcErr := thrown e.kind

/-- The answer of a handler that leaves the store alone. -/
def reading {α : Type} (outcome : Except Thrown α) (store : Store) : Except RpcErr α × Store :=
  (outcome.mapError Thrown.rpcErr, store)

def writing {α : Type} (handled : Handled α) : Except RpcErr α × Store :=
  (handled.1.mapError Thrown.rpcErr, handled.2)

/-- A slice that was appended to, and is nil if it never was. -/
def appended {α : Type} (xs : List α) : Slice α := if xs.isEmpty then none else some xs

/-- Every exception that one of these handlers returns is declared by its method. -/
def Server.handle (srv : Server) : (call : Call) → Store → Except RpcErr call.Reply × Store
  | .getCatalogs, s => (.ok (some (getCatalogs s)), s)
  | .getPartitions db tbl max, s => reading ((getPartitions srv.v db tbl max s).map some) s
  | .getPartitionsReq req, s => reading ((getPartitionsReq srv.v req s).map some) s
  | .getPartitionNames db tbl max, s => reading ((getPartitionNames srv.v db tbl max s).map some) s
  | .addPartitionsReq req, s => writing (addPartitionsReq srv.v srv.now req s)
  | .alterPartitions db tbl parts, s => writing (alterPartitions srv.v db tbl parts s)
  | .alterPartitionsReq req, s => writing (alterPartitionsReq srv.v req s)
  | .dropPartition db tbl vals _, s => writing (dropPartition srv.v srv.now db tbl vals s)
  | .dropPartitionsReq req, s => writing (dropPartitionsReq srv.v srv.now req s)
  | .getPartitionsByNames db tbl names, s =>
    reading ((getPartitionsByNames srv.v db tbl names s).map appended) s
  | .getPartitionsByNamesReq req, s =>
    reading ((getPartitionsByNamesReq srv.v req s).map some) s
  | .getPartitionNamesPs db tbl vals max, s =>
    reading ((getPartitionNamesPs srv.v db tbl vals max s).map some) s
  | .getPartitionNamesPsReq req, s => reading ((getPartitionNamesPsReq srv.v req s).map some) s
  | call, s => srv.others call s

/-- A method that the version lacks is unknown. -/
def Server.serve (srv : Server) (call : Call) (store : Store) : Except RpcErr call.Reply × Store :=
  if removed srv.v call then (.error unknownMethod, store) else srv.handle call store

/-! ## Resolving a catalog against the server -/

/-- What resolving a catalog comes to: nothing changes but what the connection knows of
the server, which on a server with catalogs is that it has them. -/
structure Resolves (srv : Server) {κ α : Type} (s : Session κ) (store : Store) (value : Bool → α)
    (played : Played metastore Store (α × Session κ)) : Prop where
  unchanged : played.state = store
  captured : played.outcome.2.captured = s.captured
  found : ∃ known, played.outcome.1 = value known ∧
    (srv.v ≠ .hive23 → s.catalogs ≠ .no → known = true ∧ played.outcome.2.catalogs ≠ .no)

theorem supportsCatalogs_served (srv : Server) {κ : Type} (s : Session κ) (store : Store) :
    Resolves srv s store .ok ((supportsCatalogs s).play srv.serve store) := by
  obtain ⟨catalogs, fallback, roots, captured⟩ := s
  cases catalogs with
  | yes => exact ⟨rfl, rfl, true, rfl, fun _ _ => ⟨rfl, nofun⟩⟩
  | no => exact ⟨rfl, rfl, false, rfl, fun _ known => absurd rfl known⟩
  | unknown =>
    obtain ⟨v, now, others⟩ := srv
    cases v with
    | hive23 => exact ⟨rfl, rfl, false, rfl, fun newer => absurd rfl newer⟩
    | hive31 | hive40 => exact ⟨rfl, rfl, true, rfl, fun _ _ => ⟨rfl, nofun⟩⟩

private def pickCatalog {κ : Type} (effective : Text) (support : Bool) : Closure κ (Option Text) :=
  if effective = defaultCatalog then pure (if support then some defaultCatalog else none)
  else if support then pure (some effective)
  else Dialogue.fail errNotSupported

private theorem pickCatalog_eq {κ : Type} (effective : Text) (support : Bool) (s : Session κ) :
    pickCatalog effective support s = .done (resolution effective (.ok support), s) := by
  unfold pickCatalog
  split
  · next isDefault =>
    cases support with
    | true => rw [isDefault]; rfl
    | false =>
      rw [resolution, if_pos isDefault]
      rfl
  · next isOther =>
    cases support with
    | true => rfl
    | false =>
      rw [resolution, if_neg isOther]
      rfl

/-- What the probe found decides, and nothing else is asked. -/
theorem resolveCatFor_probed {srv : Server} {κ : Type} {s mid : Session κ} {store after : Store}
    {known : Bool} (probed : (supportsCatalogs s).ends srv.serve store = ((.ok known, mid), after))
    (cfg : Config) (structCat : Text) (opts : CatalogOptions) :
    (resolveCatFor cfg structCat opts s).ends srv.serve store =
      ((resolution (effectiveCatalog cfg structCat opts) (.ok known), mid), after) := by
  have ended := ends_then (f := pickCatalog (effectiveCatalog cfg structCat opts)) probed
  rw [pickCatalog_eq] at ended
  exact ended

theorem resolveCatFor_served (srv : Server) (cfg : Config) (structCat : Text)
    (opts : CatalogOptions) {κ : Type} (s : Session κ) (store : Store) :
    Resolves srv s store (fun known => resolution (effectiveCatalog cfg structCat opts) (.ok known))
      ((resolveCatFor cfg structCat opts s).play srv.serve store) := by
  obtain ⟨unchanged, kept, known, found, newer⟩ := supportsCatalogs_served srv s store
  rcases probed : (supportsCatalogs s).ends srv.serve store with ⟨⟨r, mid⟩, after⟩
  obtain ⟨ended, left⟩ := Prod.mk.inj probed
  rw [ended] at kept found newer
  cases found
  obtain ⟨outcome, state⟩ := Prod.mk.inj (resolveCatFor_probed probed cfg structCat opts)
  refine ⟨state.trans (left.symm.trans unchanged), (congrArg (·.2.captured) outcome).trans kept,
    known, congrArg Prod.fst outcome, fun catalogs cached => ⟨(newer catalogs cached).1, ?_⟩⟩
  exact fun same => (newer catalogs cached).2 ((congrArg (·.2.catalogs) outcome).symm.trans same)

/-! ## A small server -/

/-- A table partitioned by "k". -/
def keyed : Wire.Table := { partitionKeys := some [{ name := [107] }] }

/-- The partition "k=…" of a value of one letter. -/
def lettered (c : UInt8) : Wire.Partition := { values := some [[c]] }

/-- A store with that table, "hive.d.t". -/
def storeOf (parts : List Wire.Partition) : Store :=
  { catalogs := ∅
    tables := AList.singleton (tblKey defaultCatalog [100] [116]) keyed
    partitions := AList.singleton (tblKey defaultCatalog [100] [116]) parts
    events := [] }

/-- A server that knows nothing but partitions. -/
def partitionsOnly (v : Version) : Server :=
  ⟨v, fun _ _ => 0, fun _ store => (.error unknownMethod, store)⟩

end HmsClient.Hmstest
