import HmsClient.ConnectionHygiene
import Mathlib.Algebra.GroupWithZero.Nat

/-! Which catalog an operation's requests go to. A connection is asked once whether its
server knows catalogs; the catalog of a call is then its option's, its struct's, the
client's or the default one. A server without catalogs never sees one, and an object
that was read is written back to the catalog it came from unless it is a table whose
reply left its catalog out. -/
namespace HmsClient
open PeerScript

variable {κ : Type}

/-! ## The probe -/

/-- What `supportsCatalogs` asks, given what the connection remembers, what it finds and
what the connection remembers then. -/
inductive Probed : CatalogSupport → List (Exchange metastore) → Except Err Bool → CatalogSupport →
    Prop where
  | yes : Probed .yes [] (.ok true) .yes
  | no : Probed .no [] (.ok false) .no
  | supported (names : Slice Text) :
      Probed .unknown [⟨.getCatalogs, .ok names⟩] (.ok true) .yes
  | unsupported {fault : RpcErr} (unknown : isUnknownMethod fault.err = true) :
      Probed .unknown [⟨.getCatalogs, .error fault⟩] (.ok false) .no
  | failed {fault : RpcErr} (other : isUnknownMethod fault.err = false) :
      Probed .unknown [⟨.getCatalogs, .error fault⟩] (.error fault.err) .unknown

variable {s s' : Session κ} {log : List (Exchange metastore)} {cfg : Config} {structCat : Text}
  {opts : CatalogOptions} {r : Except Err Unit} {carried : Option Text}

theorem supportsCatalogs_run {r : Except Err Bool} (ran : Run (supportsCatalogs s) log (r, s')) :
    ∃ support, s' = { s with catalogs := support } ∧ Probed s.catalogs log r support := by
  obtain ⟨catalogs, fallback, roots, captured⟩ := s
  cases catalogs with
  | yes =>
    obtain ⟨rfl, same⟩ := run_done ran
    cases same
    exact ⟨.yes, rfl, .yes⟩
  | no =>
    obtain ⟨rfl, same⟩ := run_done ran
    cases same
    exact ⟨.no, rfl, .no⟩
  | unknown =>
    obtain ⟨first, outcome, mid, second, asked, rest, rfl⟩ := Dialogue.run_result ran
    obtain ⟨answer, rfl, rfl, rfl⟩ := Dialogue.run_request (L := metastore) asked
    cases answer with
    | ok names =>
      obtain ⟨rfl, same⟩ := run_done rest
      cases same
      exact ⟨.yes, rfl, .supported names⟩
    | error fault =>
      change Run ((if isUnknownMethod fault.err then _ else _ : Closure κ Bool) _) _ _ at rest
      cases unknown : isUnknownMethod fault.err with
      | true =>
        rw [if_pos unknown] at rest
        obtain ⟨rfl, same⟩ := run_done rest
        cases same
        exact ⟨.no, rfl, .unsupported unknown⟩
      | false =>
        rw [if_neg (Bool.eq_false_iff.mp unknown)] at rest
        obtain ⟨rfl, same⟩ := run_done rest
        cases same
        exact ⟨.unknown, rfl, .failed unknown⟩

/-- What `resolveCatFor` makes of the catalog a call is about and of what the probe found. -/
def resolution (effective : Text) : Except Err Bool → Except Err (Option Text)
  | .error err => .error err
  | .ok true => .ok (some effective)
  | .ok false => if effective = defaultCatalog then .ok none else .error errNotSupported

theorem resolveCatFor_run {r : Except Err (Option Text)}
    (ran : Run (resolveCatFor cfg structCat opts s) log (r, s')) :
    ∃ support found, s' = { s with catalogs := support } ∧ Probed s.catalogs log found support ∧
      r = resolution (effectiveCatalog cfg structCat opts) found := by
  rcases Dialogue.run_then ran with ⟨e, failed, rfl⟩ | ⟨first, known, mid, second, ok, rest, rfl⟩
  · obtain ⟨support, same, probed⟩ := supportsCatalogs_run failed
    exact ⟨support, _, same, probed, rfl⟩
  · obtain ⟨support, rfl, probed⟩ := supportsCatalogs_run ok
    have ended : second = [] ∧ r = resolution (effectiveCatalog cfg structCat opts) (.ok known) ∧
        s' = { s with catalogs := support } := by
      dsimp only at rest
      split at rest
      · next isDefault =>
        obtain ⟨rfl, same⟩ := run_done rest
        cases same
        cases known <;> simp [resolution, isDefault]
      · next isOther =>
        cases known with
        | true =>
          obtain ⟨rfl, same⟩ := run_done rest
          cases same
          simp [resolution]
        | false =>
          obtain ⟨rfl, same⟩ := run_done rest
          cases same
          simp [resolution, isOther]
    obtain ⟨rfl, rfl, rfl⟩ := ended
    exact ⟨support, .ok known, rfl, by rwa [List.append_nil], rfl⟩

/-! ## Rules for the parts of closures -/

/-- `tryReq` runs the legacy form of a method that is marked, and the request form of one that
is not, after which it marks the method and runs the legacy form if the server does not know
the method. -/
theorem tryReq_run {method : String} {req legacy : Closure κ Unit}
    (ran : Run (tryReq method req legacy s) log (r, s')) :
    (method ∈ s.fallback ∧ Run (legacy s) log (r, s')) ∨
    (method ∉ s.fallback ∧ Run (req s) log (r, s') ∧
      ∀ err, r = .error err → isUnknownMethod err = false) ∨
    ∃ first mid err rest, method ∉ s.fallback ∧ Run (req s) first (.error err, mid) ∧
      isUnknownMethod err = true ∧
      Run (legacy { mid with fallback := method :: mid.fallback }) rest (r, s') ∧
      log = first ++ rest := by
  change Run ((if method ∈ s.fallback then legacy else _ : Closure κ Unit) s) log _ at ran
  split at ran
  · next known => exact .inl ⟨known, ran⟩
  · next fresh =>
    obtain ⟨first, outcome, mid, second, asked, rest, rfl⟩ := Dialogue.run_result ran
    cases outcome with
    | ok _ =>
      obtain ⟨rfl, ended⟩ := run_done rest
      cases ended
      exact .inr (.inl ⟨fresh, by rwa [List.append_nil], nofun⟩)
    | error err =>
      change Run ((if isUnknownMethod err then _ else _ : Closure κ Unit) _) _ _ at rest
      cases unknown : isUnknownMethod err with
      | true =>
        rw [if_pos unknown] at rest
        exact .inr (.inr ⟨first, mid, err, second, fresh, asked, unknown, rest, rfl⟩)
      | false =>
        rw [if_neg (Bool.eq_false_iff.mp unknown)] at rest
        obtain ⟨rfl, ended⟩ := run_done rest
        cases ended
        refine .inr (.inl ⟨fresh, by rwa [List.append_nil], fun _ same => ?_⟩)
        cases same
        exact unknown

section Rules
variable {P : List (Exchange metastore) → Session κ → Session κ → Prop} (composes : Composes P)
include composes

/-- Whatever runs in sequence have, and marking a method as legacy has, `tryReq` has if both
forms do. -/
theorem tryReq_follows {method : String} {req legacy : Closure κ Unit}
    (marks : ∀ s, P [] s { s with fallback := method :: s.fallback }) (first : Follows P req)
    (second : Follows P legacy) : Follows P (tryReq method req legacy) := by
  refine follows_get_then fun s => ?_
  split
  · exact second
  · refine follows_result composes first fun r => ?_
    cases r with
    | ok _ => exact follows_pure composes ()
    | error err =>
      dsimp only
      split
      · exact follows_bind composes (follows_modify marks) fun _ => second
      · exact follows_fail composes err

theorem warehouseRoot_follows {cat : Option Text}
    (stores : ∀ roots s, P [] s { s with warehouseRoots := roots })
    (looked : ∀ name value, Follows P (rpc (.getConfigValue name value) : Closure κ Text))
    (asked : ∀ name, cat = some name →
      Follows P (rpc (.getCatalog name) : Closure κ (Option Wire.Catalog))) :
    Follows P (warehouseRoot cat : Closure κ Text) := by
  refine follows_get_then fun s => ?_
  split
  · exact follows_pure composes _
  · have remembered : ∀ base : Text, Follows P (do
        if trimSlashes base ≠ [] then
          Dialogue.modify fun s =>
            { s with warehouseRoots := (cat.getD [], trimSlashes base) :: s.warehouseRoots }
        pure (trimSlashes base) : Closure κ Text) := by
      intro base
      split
      · exact follows_bind composes (follows_modify fun s => stores _ s) fun _ =>
          follows_pure composes _
      · exact follows_pure composes _
    cases cat with
    | none => exact follows_bind composes (looked _ _) remembered
    | some name =>
      refine follows_bind composes (asked name rfl) fun catalog => ?_
      exact follows_bind composes (follows_pure composes _) remembered

theorem dropError_follows {name : Text}
    (asked : Follows P (rpc (.getDatabase name) : Closure κ Wire.Database)) (err : Err) :
    Follows P (dropError name err : Closure κ Err) := by
  unfold dropError
  split
  · refine follows_result composes asked fun r => ?_
    cases r with
    | ok _ => exact follows_pure composes _
    | error _ => exact follows_pure composes _
  · exact follows_pure composes _

end Rules

theorem ifPresent_follows {P : List (Exchange metastore) → Session Unit → Session Unit → Prop}
    (composes : Composes P) {ifExists : Bool} {drop : Closure Unit Unit} (first : Follows P drop) :
    Follows P (ifPresent ifExists drop) := by
  refine follows_result composes first fun r => ?_
  cases r with
  | ok _ => exact follows_pure composes ()
  | error err =>
    dsimp only
    split
    · exact follows_pure composes ()
    · exact follows_fail composes err

theorem assign_follows {α : Type}
    {P : List (Exchange metastore) → Session (Slice α) → Session (Slice α) → Prop}
    (composes : Composes P) (captures : ∀ out s, P [] s { s with captured := out })
    {f : Closure (Slice α) (Slice α)} (first : Follows P f) : Follows P (assign f) := by
  refine follows_result composes first fun r => ?_
  cases r with
  | ok names => exact follows_modify (captures names)
  | error err =>
    exact follows_bind composes (follows_modify (captures none)) fun _ => follows_fail composes err

/-! ## Servers without catalogs -/

/-- The struct's catalog and the catalog options of an operation within a catalog. -/
def Operation.scope : Operation → Option (Text × CatalogOptions)
  | .createDatabase db => some (db.catalogName, [])
  | .alterDatabase _ db opts => some (db.catalogName, opts)
  | .createTable table => some (table.catalogName, [])
  | .alterTable _ _ newTable opts => some (newTable.catalogName, opts)
  | .getAllDatabases opts | .getDatabase _ opts | .dropDatabase _ _ _ _ opts
  | .getAllTables _ opts | .getTable _ _ opts | .getTables _ _ opts | .getTablesSeqNames _ opts
  | .getTablesSeqChunk _ _ opts | .dropTable _ _ _ _ opts | .getPartitions _ _ _ opts
  | .getPartitionNames _ _ _ opts | .getPartitionsSeqNames _ _ opts
  | .getPartitionsSeqChunk _ _ _ opts | .addPartitions _ _ _ _ opts | .alterPartitions _ _ _ opts
  | .getPartitionsByNames _ _ _ opts | .getPartitionsByFilter _ _ _ _ opts
  | .getPartitionNamesByValues _ _ _ _ opts | .dropPartition _ _ _ _ _ opts
  | .dropPartitionsByNames _ _ _ _ _ opts | .getTableColumnStatistics _ _ _ _ opts => some ([], opts)
  | _ => none

/-- The database the caller of such an operation names. -/
def Operation.database : Operation → Text
  | .getDatabase name _ | .alterDatabase name _ _ | .dropDatabase name _ _ _ _ => name
  | .createDatabase db => db.name
  | .createTable table => table.databaseName
  | .getAllTables dbName _ | .getTable dbName _ _ | .getTables dbName _ _
  | .getTablesSeqNames dbName _ | .getTablesSeqChunk dbName _ _ | .alterTable dbName _ _ _
  | .dropTable dbName _ _ _ _ | .getPartitions dbName _ _ _ | .getPartitionNames dbName _ _ _
  | .getPartitionsSeqNames dbName _ _ | .getPartitionsSeqChunk dbName _ _ _
  | .addPartitions dbName _ _ _ _ | .alterPartitions dbName _ _ _ | .getPartitionsByNames dbName _ _ _
  | .getPartitionsByFilter dbName _ _ _ _ | .getPartitionNamesByValues dbName _ _ _ _
  | .dropPartition dbName _ _ _ _ _ | .dropPartitionsByNames dbName _ _ _ _ _
  | .getTableColumnStatistics dbName _ _ _ _ => dbName
  | _ => []

/-- A request that names this database, and no catalog, neither itself nor in a struct. -/
def Call.Uncatalogued (dbName : Text) : Call → Prop
  | .getAllDatabases | .getConfigValue _ _ => True
  | .getDatabase name | .dropDatabase name _ _ | .getAllTables name | .dropTable name _ _
  | .getPartitions name _ _ | .getPartitionNames name _ _ | .dropPartition name _ _ _
  | .getPartitionsByNames name _ _ | .getPartitionsByFilter name _ _ _
  | .getPartitionNamesPs name _ _ _ => name = dbName
  | .createDatabase db => db.name = dbName ∧ db.catalogName = none
  | .alterDatabase name db => name = dbName ∧ db.catalogName = none
  | .createTable tbl => tbl.dbName = dbName ∧ tbl.catName = none
  | .alterTable name _ tbl => name = dbName ∧ tbl.catName = none
  | .getTableReq req => req.dbName = dbName ∧ req.catName = none
  | .getTableObjectsByNameReq req => req.dbName = dbName ∧ req.catName = none
  | .getPartitionsReq req => req.dbName = dbName ∧ req.catName = none
  | .getPartitionsByNamesReq req => req.dbName = dbName
  | .getPartitionNamesPsReq req => req.dbName = dbName ∧ req.catName = none
  | .dropPartitionsReq req => req.dbName = dbName ∧ req.catName = none
  | .getTableStatisticsReq req => req.dbName = dbName ∧ req.catName = none
  | .addPartitionsReq req =>
    req.dbName = dbName ∧ req.catName = none ∧
      ∀ part ∈ req.parts.items, part.dbName = dbName ∧ part.catName = none
  | .alterPartitionsReq req =>
    req.dbName = dbName ∧ req.catName = none ∧
      ∀ part ∈ req.partitions.items, part.dbName = dbName ∧ part.catName = none
  | .alterPartitions name _ parts =>
    name = dbName ∧ ∀ part ∈ parts.items, part.dbName = dbName ∧ part.catName = none
  | _ => False

/-- Requests of one kind only, and what is known of the server's catalogs stays. -/
private def Sends (kind : Call → Prop) (log : List (Exchange metastore)) (s s' : Session κ) : Prop :=
  (∀ x ∈ log, kind x.op) ∧ s'.catalogs = s.catalogs

private theorem sends_composes (kind : Call → Prop) : Composes (Sends (κ := κ) kind) where
  nil s := ⟨by simp, rfl⟩
  append first second := by
    refine ⟨fun x inLog => ?_, second.2.trans first.2⟩
    rcases List.mem_append.mp inLog with inFirst | inSecond
    · exact first.1 x inFirst
    · exact second.1 x inSecond

section Sends
variable {kind : Call → Prop}

private theorem rpc_sends {call : Call} (asked : kind call) :
    Follows (Sends kind) (rpc call : Closure κ call.Reply) :=
  follows_request (L := metastore) fun _ _ => ⟨by simpa using asked, rfl⟩

private theorem capture_sends (out : κ) : Follows (Sends kind) (capture out) :=
  follows_modify fun _ => ⟨by simp, rfl⟩

private theorem rpc_capture_sends {out : call.Reply → κ} (asked : kind call) :
    Follows (Sends kind) (rpc call >>= fun reply => capture (out reply)) :=
  follows_bind (sends_composes kind) (rpc_sends asked) fun _ => capture_sends _

private theorem assign_sends {α : Type} {f : Closure (Slice α) (Slice α)}
    (first : Follows (Sends kind) f) : Follows (Sends kind) (assign f) :=
  assign_follows (sends_composes kind) (fun _ _ => ⟨by simp, rfl⟩) first

private theorem tryReq_sends {req legacy : Closure κ Unit} (first : Follows (Sends kind) req)
    (second : Follows (Sends kind) legacy) : Follows (Sends kind) (tryReq method req legacy) :=
  tryReq_follows (sends_composes kind) (fun _ => ⟨by simp, rfl⟩) first second

private theorem ifPresent_sends {drop : Closure Unit Unit} (first : Follows (Sends kind) drop) :
    Follows (Sends kind) (ifPresent ifExists drop) :=
  ifPresent_follows (sends_composes kind) first

private theorem warehouseRoot_sends (looked : ∀ name value, kind (.getConfigValue name value)) :
    Follows (Sends kind) (warehouseRoot none : Closure κ Text) :=
  warehouseRoot_follows (sends_composes kind) (fun _ _ => ⟨by simp, rfl⟩)
    (fun name value => rpc_sends (looked name value)) nofun

private theorem dropError_sends {name : Text} (gets : kind (.getDatabase name)) (err : Err) :
    Follows (Sends kind) (dropError name err : Closure κ Err) :=
  dropError_follows (sends_composes kind) (rpc_sends gets) err

private theorem appendParts_sends (ps : Slice Wire.Partition) :
    Follows (Sends kind) (appendParts ps) :=
  follows_modify fun _ => ⟨by simp, rfl⟩

end Sends

private theorem uncatalogued_parts (dbName tableName : Text)
    {conv : Partition → Option Text → Text → Text → Wire.Partition}
    (fills : ∀ p, ∃ out, conv p none dbName tableName = fillPartition out p none dbName tableName)
    (chunk : List Partition) :
    ∀ part ∈ Slice.items (partitionsToThriftWith conv (some chunk) none dbName tableName),
      part.dbName = dbName ∧ part.catName = none := by
  intro part inParts
  rw [partitionsToThriftWith, Slice.items_convert] at inParts
  obtain ⟨p, -, rfl⟩ := List.mem_map.mp inParts
  obtain ⟨out, filled⟩ := fills p
  rw [filled]
  exact ⟨rfl, rfl⟩

/-- An operation within a catalog resolves it first and, where there are no catalogs,
then sends requests that name none. -/
theorem scoped_operation_sends (cfg : Config) (op : Operation)
    (scope : op.scope = some (structCat, opts)) :
    ∃ f, op.closure cfg = (resolveCatFor cfg structCat opts >>= f) ∧
      Follows (Sends (Call.Uncatalogued op.database)) (f none) := by
  cases op <;> cases scope
  all_goals refine ⟨_, rfl, ?_⟩
  case getAllDatabases => exact rpc_capture_sends trivial
  case getDatabase | getAllTables | getPartitionNames | getPartitionsByFilter =>
    exact rpc_capture_sends rfl
  case createDatabase db =>
    dsimp only
    split
    · refine follows_bind (sends_composes _) (warehouseRoot_sends fun _ _ => trivial) fun base => ?_
      split
      · exact follows_fail (sends_composes _) _
      · exact rpc_sends ⟨rfl, rfl⟩
    · exact rpc_sends ⟨rfl, rfl⟩
  case alterDatabase | createTable | alterTable => exact rpc_sends ⟨rfl, rfl⟩
  case dropDatabase name _ _ _ =>
    have gets : Call.Uncatalogued name (.getDatabase name) := rfl
    refine follows_result (sends_composes _) (rpc_sends rfl) fun r => ?_
    cases r with
    | ok _ => exact follows_pure (sends_composes _) ()
    | error err =>
      refine follows_bind (sends_composes _) (dropError_sends gets err) fun err => ?_
      split
      · exact follows_pure (sends_composes _) ()
      · exact follows_fail (sends_composes _) err
  case getTable | getTablesSeqChunk | getTableColumnStatistics =>
    exact rpc_capture_sends ⟨rfl, rfl⟩
  case getTables =>
    refine follows_bind (sends_composes _) ?_ fun _ => capture_sends _
    refine follows_foldlM (sends_composes _) (fun _ _ => ?_) _ _
    exact follows_bind (sends_composes _) (rpc_sends ⟨rfl, rfl⟩) fun _ =>
      follows_pure (sends_composes _) _
  case getTablesSeqNames | getPartitionsSeqNames => exact assign_sends (rpc_sends rfl)
  case dropTable => exact ifPresent_sends (rpc_sends rfl)
  case getPartitions => exact tryReq_sends (rpc_capture_sends ⟨rfl, rfl⟩) (rpc_capture_sends rfl)
  case getPartitionsSeqChunk => exact tryReq_sends (rpc_capture_sends rfl) (rpc_capture_sends rfl)
  case addPartitions =>
    refine follows_forM (sends_composes _) (fun chunk => rpc_sends ⟨rfl, rfl, ?_⟩) _
    exact uncatalogued_parts _ _ (fun p => ⟨_, rfl⟩) chunk
  case alterPartitions dbName tableName _ =>
    refine follows_forM (sends_composes _) (fun chunk => ?_) _
    have parts := uncatalogued_parts dbName tableName (fun p => ⟨rawPartitionOrNew p.raw, rfl⟩) chunk
    exact tryReq_sends (rpc_sends ⟨rfl, rfl, parts⟩) (rpc_sends ⟨rfl, parts⟩)
  case getPartitionsByNames =>
    refine follows_bind (sends_composes _) (follows_modify fun _ => ⟨by simp, rfl⟩) fun _ => ?_
    refine follows_bind (sends_composes _) (follows_forM (sends_composes _) (fun _ => ?_) _)
      fun _ => follows_modify fun _ => ⟨by simp, rfl⟩
    exact tryReq_sends (follows_bind (sends_composes _) (rpc_sends rfl) appendParts_sends)
      (follows_bind (sends_composes _) (rpc_sends rfl) appendParts_sends)
  case getPartitionNamesByValues =>
    exact tryReq_sends (rpc_capture_sends ⟨rfl, rfl⟩) (rpc_capture_sends rfl)
  case dropPartition =>
    refine ifPresent_sends ?_
    exact follows_bind (sends_composes _) (rpc_sends rfl) fun _ => follows_pure (sends_composes _) ()
  case dropPartitionsByNames =>
    exact follows_forM (sends_composes _) (fun _ => ifPresent_sends (rpc_sends ⟨rfl, rfl⟩)) _

/-- The server answers `get_catalogs` by saying that it does not know the method. -/
def LacksCatalogs (log : List (Exchange metastore)) : Prop :=
  ∀ answer, ⟨Call.getCatalogs, answer⟩ ∈ log →
    ∃ fault, answer = .error fault ∧ isUnknownMethod fault.err = true

private def isProbe (x : Exchange metastore) : Bool :=
  match x.op with
  | .getCatalogs => true
  | _ => false

/-- How often a log asks for the catalogs. -/
def probes (log : List (Exchange metastore)) : Nat := log.countP isProbe

/-- How often a connection may still be probed. -/
private def CatalogSupport.unprobed : CatalogSupport → Nat
  | .unknown => 1
  | _ => 0

/-- What an attempt does on a connection to a server without catalogs: it learns no
catalogs, and probes only if it knew nothing. -/
private def Learns (log : List (Exchange metastore)) (s s' : Session κ) : Prop :=
  LacksCatalogs log → s.catalogs ≠ .yes →
    s'.catalogs ≠ .yes ∧ probes log + s'.catalogs.unprobed ≤ s.catalogs.unprobed

private theorem learns_composes : Composes (Learns (κ := κ)) where
  nil s _ unsupported := ⟨unsupported, by simp [probes]⟩
  append {log more s mid s'} first second lacks unsupported := by
    obtain ⟨middle, firstCount⟩ := first (fun answer inLog => lacks answer (by simp [inLog])) unsupported
    obtain ⟨last, secondCount⟩ := second (fun answer inLog => lacks answer (by simp [inLog])) middle
    refine ⟨last, ?_⟩
    simp only [probes, List.countP_append] at firstCount secondCount ⊢
    omega

private theorem probes_eq_zero {kind : Call → Prop} (others : ¬kind .getCatalogs)
    (requests : ∀ x ∈ log, kind x.op) : probes log = 0 := by
  refine List.countP_eq_zero.mpr fun x inLog probe => others ?_
  have asked := requests x inLog
  unfold isProbe at probe
  split at probe
  · next isGet => rwa [isGet] at asked
  · cases probe

private theorem learns_of_sends (others : ¬kind .getCatalogs) (sends : Follows (Sends kind) d) :
    Follows Learns d := by
  intro s s' log r ran _ unsupported
  obtain ⟨requests, same⟩ := sends _ _ _ _ ran
  rw [same, probes_eq_zero others requests]
  exact ⟨unsupported, by omega⟩

private theorem supportsCatalogs_learns : Follows Learns (supportsCatalogs : Closure κ Bool) := by
  intro s s' log r ran lacks unsupported
  obtain ⟨support, rfl, probed⟩ := supportsCatalogs_run ran
  generalize s.catalogs = known at probed unsupported ⊢
  cases probed with
  | yes => exact absurd rfl unsupported
  | no => exact ⟨unsupported, by simp [probes, CatalogSupport.unprobed]⟩
  | supported names =>
    obtain ⟨fault, same, -⟩ := lacks _ (List.mem_singleton.mpr rfl)
    cases same
  | unsupported =>
    exact ⟨by simp, by simp [probes, isProbe, CatalogSupport.unprobed]⟩
  | failed other =>
    obtain ⟨fault, same, unknown⟩ := lacks _ (List.mem_singleton.mpr rfl)
    cases same
    exact absurd (other.symm.trans unknown) (by decide)

/-- On a server without catalogs a catalog resolves to none or not at all, and the
connection is not probed again. -/
private theorem resolveCatFor_lacking {r : Except Err (Option Text)}
    (ran : Run (resolveCatFor cfg structCat opts s) log (r, s')) (lacks : LacksCatalogs log)
    (unsupported : s.catalogs ≠ .yes) :
    s'.catalogs = .no ∧ probes log = s.catalogs.unprobed ∧ (∀ x ∈ log, x.op = .getCatalogs) ∧
      r = if effectiveCatalog cfg structCat opts = defaultCatalog then .ok none
        else .error errNotSupported := by
  obtain ⟨support, found, rfl, probed, rfl⟩ := resolveCatFor_run ran
  generalize s.catalogs = known at probed unsupported ⊢
  cases probed with
  | yes => exact absurd rfl unsupported
  | no => simp [probes, CatalogSupport.unprobed, resolution]
  | supported names =>
    obtain ⟨fault, same, -⟩ := lacks _ (List.mem_singleton.mpr rfl)
    cases same
  | unsupported => simp [probes, isProbe, CatalogSupport.unprobed, resolution]
  | failed other =>
    obtain ⟨fault, same, unknown⟩ := lacks _ (List.mem_singleton.mpr rfl)
    cases same
    exact absurd (other.symm.trans unknown) (by decide)

/-- An attempt of an operation on a connection: its exchanges and its result. -/
structure Visit where
  op : Operation
  log : List (Exchange metastore)
  result : Except Err Unit

/-- Attempts made one after another on one connection. The variables are each
operation's own, and the client's `warehouseRoots` may change between attempts. -/
inductive Visits (cfg : Config) : CatalogSupport → List String → List Visit → Prop where
  | nil (catalogs : CatalogSupport) (fallback : List String) : Visits cfg catalogs fallback []
  | cons {op : Operation} {s s' : Session op.Captured} {log : List (Exchange metastore)}
      {r : Except Err Unit} {rest : List Visit} :
      Run (op.closure cfg s) log (r, s') → Visits cfg s'.catalogs s'.fallback rest →
      Visits cfg s.catalogs s.fallback (⟨op, log, r⟩ :: rest)

/-- An operation within a catalog kept to what a server without catalogs understands. -/
def Visit.Uncatalogued (cfg : Config) (visit : Visit) : Prop :=
  ∀ structCat opts, visit.op.scope = some (structCat, opts) →
    if effectiveCatalog cfg structCat opts = defaultCatalog then
      ∀ x ∈ visit.log, x.op = .getCatalogs ∨ x.op.Uncatalogued visit.op.database
    else visit.result = .error errNotSupported ∧
      (wrapError visit.op.method errNotSupported).isSentinel .errNotSupported = true ∧
      ∀ x ∈ visit.log, x.op = .getCatalogs

/-- Whether an operation is `GetCatalogs`, whose own request the probe's is. -/
def Operation.isGetCatalogs : Operation → Bool
  | .getCatalogs => true
  | _ => false

/-- How often the catalogs of a connection were asked for as a probe. -/
def probesOf (visits : List Visit) : Nat :=
  ((visits.filter fun visit => !visit.op.isGetCatalogs).map fun visit => probes visit.log).sum

private theorem scoped_visit (scope : op.scope = some (structCat, opts))
    {s s' : Session op.Captured} (ran : Run (op.closure cfg s) log (r, s'))
    (lacks : LacksCatalogs log) (unsupported : s.catalogs ≠ .yes) :
    Visit.Uncatalogued cfg ⟨op, log, r⟩ ∧ s'.catalogs = .no ∧ probes log = s.catalogs.unprobed := by
  obtain ⟨f, closure, sends⟩ := scoped_operation_sends cfg op scope
  rw [closure] at ran
  rcases Dialogue.run_then ran with ⟨e, failed, rfl⟩ | ⟨first, cat, mid, second, ok, rest, rfl⟩
  · obtain ⟨no, counted, catalogs, result⟩ := resolveCatFor_lacking failed lacks unsupported
    refine ⟨fun structCat' opts' scope' => ?_, no, counted⟩
    cases scope.symm.trans scope'
    split
    · exact fun x inLog => .inl (catalogs x inLog)
    · next other =>
      rw [if_neg other] at result
      cases result
      exact ⟨rfl, rfl, catalogs⟩
  · have lacksFirst : LacksCatalogs first := fun answer inFirst =>
      lacks answer (List.mem_append_left _ inFirst)
    obtain ⟨no, counted, catalogs, result⟩ := resolveCatFor_lacking ok lacksFirst unsupported
    by_cases isDefault : effectiveCatalog cfg structCat opts = defaultCatalog
    · rw [if_pos isDefault] at result
      cases result
      obtain ⟨requests, same⟩ := sends _ _ _ _ rest
      have none : probes second = 0 := probes_eq_zero not_false requests
      refine ⟨fun structCat' opts' scope' => ?_, same.trans no, ?_⟩
      · cases scope.symm.trans scope'
        rw [if_pos isDefault]
        intro x inLog
        rcases List.mem_append.mp inLog with inFirst | inSecond
        · exact .inl (catalogs x inFirst)
        · exact .inr (requests x inSecond)
      · rw [← counted]
        simp only [probes, List.countP_append] at none ⊢
        omega
    · rw [if_neg isDefault] at result
      cases result

variable {call : Call} {alter : Operation}

private theorem rpc_learns (other : call ≠ .getCatalogs) :
    Follows Learns (rpc call : Closure κ call.Reply) := by
  have sends : Follows (Sends (· ≠ Call.getCatalogs)) (rpc call : Closure κ call.Reply) :=
    rpc_sends other
  exact learns_of_sends (fun differs => differs rfl) sends

private theorem modify_learns {f : Session κ → Session κ} (same : ∀ s, (f s).catalogs = s.catalogs) :
    Follows Learns (Dialogue.modify f : Closure κ Unit) := by
  refine follows_modify fun s _ unsupported => ?_
  rw [same]
  exact ⟨unsupported, by simp [probes]⟩

private theorem rpc_capture_learns {out : call.Reply → κ} (other : call ≠ .getCatalogs) :
    Follows Learns (rpc call >>= fun reply => capture (out reply)) :=
  follows_bind learns_composes (rpc_learns other) fun _ => modify_learns fun _ => rfl

/-- An operation outside catalogs learns of them as the probe does, if at all. -/
private theorem unscoped_operation_learns (cfg : Config) (op : Operation) (scope : op.scope = none)
    (other : op.isGetCatalogs = false) : Follows Learns (op.closure cfg) := by
  cases op <;> cases scope
  case getCatalogs => cases other
  case serverVersion =>
    refine follows_bind learns_composes (rpc_learns (by simp)) fun v => ?_
    refine follows_bind learns_composes (modify_learns fun _ => rfl) fun _ => ?_
    split
    · split
      · exact follows_bind learns_composes supportsCatalogs_learns fun _ => modify_learns fun _ => rfl
      · exact follows_pure learns_composes ()
    · exact follows_pure learns_composes ()
  case dropCatalog => exact ifPresent_follows learns_composes (rpc_learns (by simp))
  case openTransaction =>
    refine follows_bind learns_composes (rpc_learns (by simp)) fun ids => ?_
    split
    · exact follows_fail learns_composes _
    · exact modify_learns fun _ => rfl
  case createCatalog | commitTransaction | abortTransaction | heartbeat | unlock =>
    exact rpc_learns (by simp)
  case getConfigValue | getCatalog | currentNotificationID | getNextNotifications | lock | checkLock =>
    exact rpc_capture_learns (by simp)

private theorem getCatalogs_visit {s s' : Session (Slice Text)}
    (ran : Run (getCatalogs s) log (r, s')) (lacks : LacksCatalogs log) : s'.catalogs = .no := by
  obtain ⟨first, outcome, mid, second, asked, rest, rfl⟩ := Dialogue.run_result ran
  obtain ⟨answer, rfl, rfl, rfl⟩ := Dialogue.run_request (L := metastore) asked
  obtain ⟨fault, rfl, unknown⟩ := lacks answer (by simp)
  have marked : Run ((do
      storeCatalogs .no
      Dialogue.fail fault.err : Closure (Slice Text) Unit) mid) second (r, s') := by
    change Run ((if isUnknownMethod fault.err then _ else _ : Closure (Slice Text) Unit) _) _ _ at rest
    rwa [if_pos unknown] at rest
  obtain ⟨-, same⟩ := run_done marked
  cases same
  rfl

/-- One attempt: no catalog is sent or learned, and a probe is the connection's first. -/
private theorem visit_step {s s' : Session op.Captured} (ran : Run (op.closure cfg s) log (r, s'))
    (lacks : LacksCatalogs log) (unsupported : s.catalogs ≠ .yes) :
    Visit.Uncatalogued cfg ⟨op, log, r⟩ ∧ s'.catalogs ≠ .yes ∧
      (if op.isGetCatalogs then 0 else probes log) + s'.catalogs.unprobed ≤ s.catalogs.unprobed := by
  cases scope : op.scope with
  | some scopeOf =>
    obtain ⟨plain, no, counted⟩ := scoped_visit scope ran lacks unsupported
    refine ⟨plain, by rw [no]; simp, ?_⟩
    rw [no, counted]
    split
    · exact Nat.zero_le _
    · exact Nat.le_refl _
  | none =>
    have unscoped : Visit.Uncatalogued cfg ⟨op, log, r⟩ := fun _ _ within =>
      absurd (scope.symm.trans within) (by simp)
    cases isGet : op.isGetCatalogs with
    | false =>
      obtain ⟨stays, counted⟩ :=
        unscoped_operation_learns cfg op scope isGet _ _ _ _ ran lacks unsupported
      exact ⟨unscoped, stays, counted⟩
    | true =>
      cases op with
      | getCatalogs =>
        have no := getCatalogs_visit ran lacks
        refine ⟨unscoped, by rw [no]; simp, ?_⟩
        rw [no]
        exact Nat.zero_le _
      | _ => cases isGet

private theorem visits_keep (made : Visits cfg catalogs fallback visits)
    (unsupported : catalogs ≠ .yes) (lacks : ∀ visit ∈ visits, LacksCatalogs visit.log) :
    (∀ visit ∈ visits, visit.Uncatalogued cfg) ∧ probesOf visits ≤ catalogs.unprobed := by
  induction made with
  | nil => simp [probesOf]
  | @cons op s s' log r rest ran _ ih =>
    obtain ⟨plain, stays, counted⟩ := visit_step ran (lacks _ (.head _)) unsupported
    obtain ⟨later, bound⟩ := ih stays fun visit inRest => lacks visit (.tail _ inRest)
    refine ⟨List.forall_mem_cons.mpr ⟨plain, later⟩, ?_⟩
    unfold probesOf at bound ⊢
    cases isGet : op.isGetCatalogs <;> simp [isGet] at counted ⊢ <;> omega

/-- However many operations run on a connection to a server without catalogs, none of
those within a catalog sends one: it names the caller's database as it is and no
catalog, or refuses another catalog after the probe, which is sent once at most. -/
theorem server_without_catalogs_sees_none (cfg : Config) {catalogs : CatalogSupport}
    {fallback : List String} {visits : List Visit} (made : Visits cfg catalogs fallback visits)
    (unsupported : catalogs ≠ .yes) (lacks : ∀ visit ∈ visits, LacksCatalogs visit.log) :
    (∀ visit ∈ visits, visit.Uncatalogued cfg) ∧ probesOf visits ≤ 1 := by
  obtain ⟨plain, bound⟩ := visits_keep made unsupported lacks
  refine ⟨plain, Nat.le_trans bound ?_⟩
  cases catalogs <;> simp [CatalogSupport.unprobed]

/-- The server does not know the method. -/
def unknownMethod : RpcErr := ⟨.leaf (.application 1), by decide⟩

/-- `GetDatabase` probes and asks by the bare name; `GetTable` in the catalog "x" is
then refused without a request. -/
theorem old_server_is_asked_by_bare_names :
    let visits : List Visit :=
      [⟨.getDatabase [100] [], [⟨.getCatalogs, .error unknownMethod⟩, ⟨.getDatabase [100], .ok {}⟩],
          .ok ()⟩,
        ⟨.getTable [100] [116] [[120]], [], .error errNotSupported⟩]
    Visits plainConfig .unknown [] visits ∧ (∀ visit ∈ visits, visit.Uncatalogued plainConfig) ∧
      probesOf visits ≤ 1 := by
  intro visits
  let fresh : Session (Option Database) := ⟨.unknown, [], [], none⟩
  let probed : Session (Option Table) := ⟨.no, [], [], none⟩
  have first : Run ((Operation.getDatabase [100] []).closure plainConfig fresh)
      [⟨.getCatalogs, .error unknownMethod⟩, ⟨.getDatabase [100], .ok {}⟩]
      (.ok (), { fresh with catalogs := .no, captured := some (databaseFromThrift {} none) }) :=
    .ask (.ask (.done _))
  have second : Run ((Operation.getTable [100] [116] [[120]]).closure plainConfig probed) []
      (.error errNotSupported, probed) := .done _
  have made : Visits plainConfig .unknown [] visits := .cons first (.cons second (.nil _ _))
  refine ⟨made, server_without_catalogs_sees_none plainConfig made (by decide) ?_⟩
  intro visit inVisits answer inLog
  rcases List.mem_cons.mp inVisits with rfl | inRest
  · rcases List.mem_cons.mp inLog with same | inLast
    · cases same
      exact ⟨unknownMethod, rfl, rfl⟩
    · cases List.mem_singleton.mp inLast
  · rw [List.mem_singleton.mp inRest] at inLog
    cases inLog

/-! ## Writing back what was read -/

/-- The server knows catalogs, and the connection knows it or finds it out. -/
def SupportsCatalogs (s : Session κ) (log : List (Exchange metastore)) : Prop :=
  s.catalogs = .yes ∨ s.catalogs = .unknown ∧
    ∀ answer, ⟨Call.getCatalogs, answer⟩ ∈ log → ∃ names, answer = .ok names

private theorem resolved_run (ran : Run ((resolveCatFor cfg structCat opts >>= f) s) log (r, s'))
    (supports : SupportsCatalogs s log) :
    ∃ first mid second,
      Run (resolveCatFor cfg structCat opts s) first
        (.ok (some (effectiveCatalog cfg structCat opts)), mid) ∧
      (∀ x ∈ first, x.op = .getCatalogs) ∧
      Run (f (some (effectiveCatalog cfg structCat opts)) mid) second (r, s') ∧
      log = first ++ second := by
  have resolves : ∀ {first : List (Exchange metastore)} {mid : Session κ} {r : Except Err (Option Text)},
      Run (resolveCatFor cfg structCat opts s) first (r, mid) → (∀ x ∈ first, x ∈ log) →
      r = .ok (some (effectiveCatalog cfg structCat opts)) ∧ ∀ x ∈ first, x.op = .getCatalogs := by
    intro first mid r ranFirst inLog
    obtain ⟨support, found, -, probed, rfl⟩ := resolveCatFor_run ranFirst
    unfold SupportsCatalogs at supports
    generalize s.catalogs = known at probed supports
    cases probed with
    | yes => simp [resolution]
    | no => simp at supports
    | supported names => simp [resolution]
    | unsupported | failed =>
      rcases supports with yes | ⟨-, answered⟩
      · cases yes
      · obtain ⟨names, same⟩ := answered _ (inLog _ (List.mem_singleton.mpr rfl))
        cases same
  rcases Dialogue.run_then ran with ⟨e, failed, rfl⟩ | ⟨first, cat, mid, second, ok, rest, rfl⟩
  · cases (resolves failed fun x inLog => inLog).1
  · obtain ⟨same, catalogs⟩ := resolves ok fun x inFirst => List.mem_append_left _ inFirst
    cases same
    exact ⟨first, mid, second, ok, catalogs, rest, rfl⟩

private theorem effectiveCatalog_ne_nil (cfg : Config) (structCat : Text) (opts : CatalogOptions) :
    effectiveCatalog cfg structCat opts ≠ [] := by
  have orDefault : ∀ name : Text, (if name = [] then defaultCatalog else name) ≠ [] := by
    intro name
    split
    · decide
    · assumption
  exact orDefault _

private theorem effectiveCatalog_of_struct (cfg : Config) (set : structCat ≠ []) :
    effectiveCatalog cfg structCat [] = structCat := by
  simp [effectiveCatalog, set]

/-- A database or a table read with these options on a connection with catalogs, the
operation that alters it without an option, and the catalog field of the reply. -/
inductive Fetched (cfg : Config) (opts : CatalogOptions) : Operation → Option Text → Prop where
  | database {name qname newName : Text} {s s' : Session (Option Database)}
      {log : List (Exchange metastore)} {d : Wire.Database} {db : Database}
      (ran : Run (getDatabase cfg name opts s) log (.ok (), s')) (supports : SupportsCatalogs s log)
      (replied : ⟨.getDatabase qname, .ok d⟩ ∈ log) (got : s'.captured = some db) :
      Fetched cfg opts (.alterDatabase newName db []) d.catalogName
  | table {dbName tableName newDb newName : Text} {req : Wire.GetTableRequest}
      {s s' : Session (Option Table)} {log : List (Exchange metastore)} {t : Wire.Table}
      {table : Table} (ran : Run (getTable cfg dbName tableName opts s) log (.ok (), s'))
      (supports : SupportsCatalogs s log) (replied : ⟨.getTableReq req, .ok t⟩ ∈ log)
      (got : s'.captured = some table) :
      Fetched cfg opts (.alterTable newDb newName table []) t.catName

/-- The request of an alter that names this catalog, by qualification and in its struct. -/
def Operation.Names (cat : Text) : Operation → Call → Prop
  | .alterDatabase name _ _, .alterDatabase dbname db =>
    dbname = qualifyDBName (some cat) name ∧ db.catalogName = some cat
  | .alterTable dbName _ _ _, .alterTable qname _ tbl =>
    qname = qualifyDBName (some cat) dbName ∧ tbl.catName = some cat
  | _, _ => False

/-- The alter resolved this catalog, and then sent its request to it. -/
def SentTo (cfg : Config) (cat : Text) (alter : Operation) (s : Session alter.Captured)
    (log : List (Exchange metastore)) : Prop :=
  ∃ structCat first mid call answer, alter.scope = some (structCat, []) ∧
    Run (resolveCatFor cfg structCat [] s) first (.ok (some cat), mid) ∧
    log = first ++ [⟨call, answer⟩] ∧ alter.Names cat call

/-- Whether an operation is `AlterDatabase`. -/
def Operation.isAlterDatabase : Operation → Bool
  | .alterDatabase .. => true
  | _ => false

private theorem names_unique (names : alter.Names cat call) (names' : alter.Names cat' call) :
    cat = cat' := by
  unfold Operation.Names at names names'
  split at names
  · exact Option.some.inj (names.2.symm.trans names'.2)
  · exact Option.some.inj (names.2.symm.trans names'.2)
  · cases names

/-- An alter sends one request, to the catalog of the struct if it has one. -/
private theorem alter_run (fetched : Fetched cfg opts alter carried)
    (scope : alter.scope = some (structCat, [])) {s s' : Session alter.Captured}
    (ran : Run (alter.closure cfg s) log (r, s')) (supports : SupportsCatalogs s log) :
    SentTo cfg (effectiveCatalog cfg structCat []) alter s log := by
  cases fetched with
  | database | table =>
    cases scope
    obtain ⟨first, mid, second, resolved, -, rest, rfl⟩ := resolved_run ran supports
    obtain ⟨answer, rfl, -, -⟩ := Dialogue.run_request (L := metastore) rest
    exact ⟨_, first, mid, _, answer, rfl, resolved, rfl, rfl, rfl⟩

private theorem sentTo_iff (fetched : Fetched cfg opts alter carried)
    (scope : alter.scope = some (structCat, [])) {s s' : Session alter.Captured}
    (ran : Run (alter.closure cfg s) log (r, s')) (supports : SupportsCatalogs s log) (cat : Text) :
    SentTo cfg cat alter s log ↔ cat = effectiveCatalog cfg structCat [] := by
  have sent := alter_run fetched scope ran supports
  constructor
  · rintro ⟨-, first, -, call, answer, -, -, shape, names⟩
    obtain ⟨-, first', -, call', answer', -, -, shape', names'⟩ := sent
    have last := (List.append_inj' (shape.symm.trans shape') rfl).2
    cases List.singleton_inj.mp last
    exact names_unique names names'
  · rintro rfl
    exact sent

/-- A table comes back with the catalog of its reply, or else the default one; a database
with the one it was asked for in. -/
private theorem fetched_scope (fetched : Fetched cfg opts alter carried) :
    alter.scope = some (if alter.isAlterDatabase then effectiveCatalog cfg [] opts
      else carried.getD defaultCatalog, []) := by
  cases fetched with
  | database ran supports replied got =>
    obtain ⟨first, mid, second, -, -, rest, rfl⟩ := resolved_run ran supports
    rcases Dialogue.run_then rest with ⟨e, -, failed⟩ | ⟨asked, d, mid, last, -, captured, -⟩
    · cases failed
    · obtain ⟨-, same⟩ := run_done captured
      cases same
      cases got
      rfl
  | table ran supports replied got =>
    obtain ⟨first, mid, second, -, catalogs, rest, rfl⟩ := resolved_run ran supports
    rcases Dialogue.run_then rest with ⟨e, -, failed⟩ | ⟨asked, t, mid, last, ok, captured, rfl⟩
    · cases failed
    · obtain ⟨rfl, same⟩ := run_done captured
      cases same
      cases got
      obtain ⟨answer, rfl, reply, -⟩ := Dialogue.run_request (L := metastore) ok
      rcases List.mem_append.mp replied with inFirst | inRest
      · cases catalogs _ inFirst
      · cases List.mem_singleton.mp inRest
        cases reply
        rfl

/-- An object read from a catalog is written back to that catalog exactly when it is a
database, or the reply named the table's catalog, or the catalog is the default one. -/
theorem written_back_to_its_catalog_iff (cfg : Config) (opts : CatalogOptions) {alter : Operation}
    {carried : Option Text} (fetched : Fetched cfg opts alter carried)
    (honest : carried = none ∨ carried = some (effectiveCatalog cfg [] opts))
    {s s' : Session alter.Captured} {log : List (Exchange metastore)} {r : Except Err Unit}
    (ran : Run (alter.closure cfg s) log (r, s')) (supports : SupportsCatalogs s log) :
    SentTo cfg (effectiveCatalog cfg [] opts) alter s log ↔
      alter.isAlterDatabase = true ∨ carried ≠ none ∨
        effectiveCatalog cfg [] opts = defaultCatalog := by
  rw [sentTo_iff fetched (fetched_scope fetched) ran supports]
  have named := effectiveCatalog_ne_nil cfg [] opts
  cases alter.isAlterDatabase with
  | true => simp [effectiveCatalog_of_struct cfg named]
  | false =>
    rcases honest with rfl | rfl
    · have bare : effectiveCatalog cfg defaultCatalog [] = defaultCatalog :=
        effectiveCatalog_of_struct cfg (by decide)
      simp [bare]
    · simp [effectiveCatalog_of_struct cfg named]

/-- The table "t" of the database "d", in a reply with this catalog. -/
private def replyOf (carried : Option Text) : Wire.Table :=
  { dbName := [100], tableName := [116], catName := carried }

private def alterOf (carried : Option Text) : Operation :=
  .alterTable [100] [116] (tableFromThrift (replyOf carried)) []

private theorem fetched_from_x (carried : Option Text) :
    Fetched plainConfig [[120]] (alterOf carried) (replyOf carried).catName := by
  let start : Session (Option Table) := ⟨.yes, [], [], none⟩
  have ran : Run (getTable plainConfig [100] [116] [[120]] start)
      [⟨.getTableReq ⟨[100], [116], some [120]⟩, .ok (replyOf carried)⟩]
      (.ok (), { start with captured := some (tableFromThrift (replyOf carried)) }) := .ask (.done _)
  exact .table ran (.inl rfl) (.head _) rfl

private def alterStart : Session Unit := ⟨.yes, [], [], ()⟩

/-- A table of the catalog "x" whose reply names its catalog goes back there. -/
theorem named_table_goes_back :
    ∃ log r s', Run ((alterOf (some [120])).closure plainConfig alterStart) log (r, s') ∧
      SentTo plainConfig [120] (alterOf (some [120])) alterStart log := by
  let request := tableToThriftFrom (tableFromThrift (replyOf (some [120]))) (some [120])
  have ran : Run ((alterOf (some [120])).closure plainConfig alterStart)
      [⟨.alterTable [64, 120, 35, 100] [116] request, .ok ()⟩] (.ok (), alterStart) := .ask (.done _)
  refine ⟨_, _, _, ran, ?_⟩
  apply (written_back_to_its_catalog_iff plainConfig [[120]] (fetched_from_x (some [120])) (.inr rfl)
    ran (.inl rfl)).mpr
  exact .inr (.inl (by simp [replyOf]))

/-- One whose reply leaves it out is written to the default catalog. -/
theorem unnamed_table_is_written_elsewhere :
    Fetched plainConfig [[120]] (alterOf none) none ∧
      ∃ request : Wire.Table, request.catName = some defaultCatalog ∧
        Run ((alterOf none).closure plainConfig alterStart)
          [⟨.alterTable [100] [116] request, .ok ()⟩] (.ok (), alterStart) ∧
        ¬SentTo plainConfig [120] (alterOf none) alterStart
          [⟨.alterTable [100] [116] request, .ok ()⟩] := by
  refine ⟨fetched_from_x none, tableToThriftFrom (tableFromThrift (replyOf none)) (some defaultCatalog),
    rfl, .ask (.done _), ?_⟩
  rintro ⟨-, first, -, call, answer, -, -, shape, names⟩
  have joined : ([] : List (Exchange metastore)) ++ [_] = first ++ [⟨call, answer⟩] := shape
  cases (List.append_inj' joined rfl).2
  exact absurd names.2 (by decide)

end HmsClient
