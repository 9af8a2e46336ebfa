import HmsClient.Convert
import HmsClient.Interner

/-! Column lists shared between the objects of one call. The interner caches a
converted list under a key built from the bytes of its columns, so whether an object
gets its own columns depends on whether that key tells the lists apart. -/
namespace HmsClient
open Interner

/-- The interner: the cached slices by key, in the order they were allocated. -/
abbrev ColumnIntern := Entries Text (List FieldSchema)

/-- An object whose storage may hold a cached slice of columns, and which one. -/
structure Converted (α : Type) where
  value : α
  slice : Option Nat
deriving DecidableEq

/-- Written to a builder, column after column. -/
def columnKey (fs : List Wire.FieldSchema) : Text :=
  fs.foldl (fun b f => b ++ f.name ++ [0] ++ f.type ++ [0] ++ f.comment ++ [1]) []

/-- `columnIntern.intern`; a list without columns is never cached. -/
def internColumns (fs : Slice Wire.FieldSchema) (cache : ColumnIntern) :
    Converted (Slice FieldSchema) × ColumnIntern :=
  if fs.items = [] then (⟨none, none⟩, cache)
  else
    let ((slot, cols), cache) :=
      intern columnKey (fun fs => fs.map fieldSchemaFromThrift) fs.items cache
    (⟨some cols, some slot⟩, cache)

/-- `storageFromThriftIntern` with an interner. -/
def storageFromThriftIntern (sd : Wire.StorageDescriptor) (cache : ColumnIntern) :
    Converted StorageDescriptor × ColumnIntern :=
  let (cols, cache) := internColumns sd.cols cache
  (⟨storageWithColumns sd cols.value, cols.slice⟩, cache)

def tableFromThriftIntern (t : Wire.Table) (cache : ColumnIntern) :
    Converted Table × ColumnIntern :=
  match t.sd with
  | none => (⟨tableWithStorage t none, none⟩, cache)
  | some sd =>
    let (storage, cache) := storageFromThriftIntern sd cache
    (⟨tableWithStorage t (some storage.value), storage.slice⟩, cache)

def partitionFromThriftIntern (p : Wire.Partition) (cache : ColumnIntern) :
    Converted Partition × ColumnIntern :=
  match p.sd with
  | none => (⟨partitionWithStorage p none, none⟩, cache)
  | some sd =>
    let (storage, cache) := storageFromThriftIntern sd cache
    (⟨partitionWithStorage p (some storage.value), storage.slice⟩, cache)

def partitionsFromThriftIntern (ps : List Wire.Partition) (cache : ColumnIntern) :
    List (Converted Partition) × ColumnIntern :=
  thread partitionFromThriftIntern ps cache

/-! ## When the key tells column lists apart -/

/-- The bytes of a column list, each column ending in SOH. -/
def spelling (fs : List Wire.FieldSchema) : Text :=
  fs.flatMap fun f => f.name ++ 0 :: f.type ++ 0 :: f.comment ++ [1]

/-- Different column lists are spelled differently. -/
def SpelledApart (lists : List (List Wire.FieldSchema)) : Prop :=
  ∀ a ∈ lists, ∀ b ∈ lists, spelling a = spelling b → a = b

private theorem spelling_cons (f : Wire.FieldSchema) (fs : List Wire.FieldSchema) :
    spelling (f :: fs) = f.name ++ 0 :: (f.type ++ 0 :: (f.comment ++ 1 :: spelling fs)) := by
  simp [spelling]

private theorem builder_appends (fs : List Wire.FieldSchema) (b : Text) :
    fs.foldl (fun b f => b ++ f.name ++ [0] ++ f.type ++ [0] ++ f.comment ++ [1]) b =
      b ++ spelling fs := by
  induction fs generalizing b with
  | nil => exact (List.append_nil b).symm
  | cons f fs ih =>
    rw [List.foldl_cons, ih, spelling_cons]
    simp only [List.append_assoc, List.cons_append, List.nil_append]

private theorem columnKey_eq_spelling (fs : List Wire.FieldSchema) : columnKey fs = spelling fs := by
  rw [columnKey, builder_appends, List.nil_append]

private theorem spelling_eq_nil (empty : spelling fs = []) : fs = [] := by
  cases fs with
  | nil => rfl
  | cons f fs => simp [spelling_cons] at empty

private theorem cut_at (inA : sep ∉ a) (inB : sep ∉ b) (same : a ++ sep :: rest = b ++ sep :: rest') :
    a = b ∧ rest = rest' := by
  induction a generalizing b with
  | nil =>
    cases b with
    | nil => exact ⟨rfl, (List.cons.inj same).2⟩
    | cons y ys => exact absurd (List.mem_cons.mpr (.inl (List.cons.inj same).1)) inB
  | cons x xs ih =>
    cases b with
    | nil => exact absurd (List.mem_cons.mpr (.inl (List.cons.inj same).1.symm)) inA
    | cons y ys =>
      obtain ⟨rfl, tails⟩ := List.cons.inj same
      obtain ⟨rfl, rests⟩ := ih (List.not_mem_of_not_mem_cons inA)
        (List.not_mem_of_not_mem_cons inB) tails
      exact ⟨rfl, rests⟩

/-- No separator occurs where it would end a text early. -/
structure Unambiguous (f : Wire.FieldSchema) : Prop where
  name : 0 ∉ f.name
  type : 0 ∉ f.type
  comment : 1 ∉ f.comment

private theorem spelling_injective (plainA : ∀ f ∈ as, Unambiguous f)
    (plainB : ∀ f ∈ bs, Unambiguous f) (same : spelling as = spelling bs) : as = bs := by
  induction as generalizing bs with
  | nil => exact (spelling_eq_nil same.symm).symm
  | cons f as ih =>
    cases bs with
    | nil => exact spelling_eq_nil same
    | cons g bs =>
      have plainF := plainA f (by simp)
      have plainG := plainB g (by simp)
      rw [spelling_cons, spelling_cons] at same
      obtain ⟨names, same⟩ := cut_at plainF.name plainG.name same
      obtain ⟨types, same⟩ := cut_at plainF.type plainG.type same
      obtain ⟨comments, same⟩ := cut_at plainF.comment plainG.comment same
      have rests := ih (fun f inAs => plainA f (List.mem_cons_of_mem _ inAs))
        (fun f inBs => plainB f (List.mem_cons_of_mem _ inBs)) same
      obtain ⟨name, type, comment⟩ := f
      obtain ⟨name', type', comment'⟩ := g
      simp only at names types comments
      rw [names, types, comments, rests]

/-- Names and types without NUL and comments without SOH never collide. -/
theorem unambiguous_columns_are_spelled_apart {lists : List (List Wire.FieldSchema)}
    (unambiguous : ∀ fs ∈ lists, ∀ f ∈ fs, Unambiguous f) : SpelledApart lists :=
  fun a inA b inB same => spelling_injective (unambiguous a inA) (unambiguous b inB) same

/-! ## A sequence of conversions -/

/-- Every object is as without an interner, and objects that share a slice have equal
column lists. -/
structure AsPlain (columns : W → Slice Wire.FieldSchema) (plain : W → X) (ws : List W)
    (xs : List (Converted X)) : Prop where
  equal : List.Forall₂ (fun w x => x.value = plain w) ws xs
  shared : ∀ v ∈ ws.zip xs, ∀ w ∈ ws.zip xs, v.2.slice ≠ none → v.2.slice = w.2.slice →
    (columns v.1).items = (columns w.1).items

def Wire.Table.columns (t : Wire.Table) : Slice Wire.FieldSchema := t.sd.bind (·.cols)

def Wire.Partition.columns (p : Wire.Partition) : Slice Wire.FieldSchema := p.sd.bind (·.cols)

section Kinds
variable {W X : Type} (columns : W → Slice Wire.FieldSchema) (make : W → Slice FieldSchema → X)

/-- What the conversions of tables and of partitions have in common. -/
private def convertWith (w : W) (cache : ColumnIntern) : Converted X × ColumnIntern :=
  let out := internColumns (columns w) cache
  (⟨make w out.1.value, out.1.slice⟩, out.2)

private abbrev convertList (fs : List Wire.FieldSchema) : List FieldSchema :=
  fs.map fieldSchemaFromThrift

private abbrev Cache := Tracks columnKey convertList

/-- The object has no columns, or those cached under its key. -/
private def Points (cache : ColumnIntern) (w : W) (x : Converted X) : Prop :=
  ((columns w).items = [] ∧ x = ⟨make w none, none⟩) ∨
    (columns w).items ≠ [] ∧ ∃ slot cols,
      cache[slot]? = some (columnKey (columns w).items, cols) ∧ x = ⟨make w (some cols), some slot⟩

variable {columns make}

private theorem Points.later (grown : before <+: after) (points : Points columns make before w x) :
    Points columns make after w x := by
  rcases points with empty | ⟨some, slot, cols, here, eq⟩
  · exact .inl empty
  · obtain ⟨inside, entry⟩ := List.getElem?_eq_some_iff.mp here
    have still := List.prefix_iff_getElem?.mp grown slot inside
    exact .inr ⟨some, slot, cols, still.trans (congrArg Option.some entry), eq⟩

variable (columns make)

variable {seen : List (List Wire.FieldSchema)} {cache : ColumnIntern} {ws : List W}
  {xs : List (Converted X)}

private theorem convert_points (tracks : Cache seen cache) (w : W) :
    let out := convertWith columns make w cache
    Points columns make out.2 w out.1 ∧ cache <+: out.2 ∧
      ∃ now, (∀ fs ∈ now, fs = (columns w).items) ∧ Cache (seen ++ now) out.2 := by
  by_cases empty : (columns w).items = []
  · have unused : internColumns (columns w) cache = (⟨none, none⟩, cache) := if_pos empty
    simp only [convertWith, unused]
    exact ⟨.inl ⟨empty, rfl⟩, List.prefix_rfl, [], by simp, by simpa using tracks⟩
  · have used : internColumns (columns w) cache =
        let out := intern columnKey convertList (columns w).items cache
        (⟨some out.1.2, some out.1.1⟩, out.2) := if_neg empty
    obtain ⟨here, grown, after⟩ := intern_spec tracks (columns w).items
    simp only [convertWith, used]
    exact ⟨.inr ⟨empty, _, _, here, rfl⟩, grown, _, by simp, after⟩

private theorem thread_points (tracks : Cache seen cache) (ws : List W) :
    let out := thread (convertWith columns make) ws cache
    List.Forall₂ (Points columns make out.2) ws out.1 ∧ cache <+: out.2 ∧
      ∃ now, (∀ fs ∈ now, fs ∈ ws.map fun w => (columns w).items) ∧ Cache (seen ++ now) out.2 := by
  induction ws generalizing seen cache with
  | nil =>
    refine ⟨.nil, List.prefix_rfl, [], by simp, ?_⟩
    rw [List.append_nil]
    exact tracks
  | cons w ws ih =>
    obtain ⟨points, grown, now, ofW, after⟩ := convert_points columns make tracks w
    obtain ⟨rest, later, more, ofWs, final⟩ := ih after
    refine ⟨.cons (points.later later) rest, grown.trans later, now ++ more, ?_, ?_⟩
    · intro fs member
      rcases List.mem_append.mp member with inNow | inMore
      · simp [ofW fs inNow]
      · exact List.mem_cons_of_mem _ (ofWs fs inMore)
    · rw [← List.append_assoc]
      exact final

variable {columns make}

private theorem zip_of_mem (same : ws.length = xs.length) (member : w ∈ ws) :
    ∃ x, (w, x) ∈ ws.zip xs := by
  rw [← List.map_fst_zip (Nat.le_of_eq same)] at member
  obtain ⟨⟨w, x⟩, inZip, rfl⟩ := List.mem_map.mp member
  exact ⟨x, inZip⟩

private theorem convertList_injective : Function.Injective convertList := by
  refine List.map_injective_iff.mpr ?_
  rintro ⟨name, type, comment⟩ ⟨name', type', comment'⟩ same
  cases same
  rfl

private theorem converted_some (some : fs.items ≠ []) :
    fieldSchemasFromThrift fs = Option.some (convertList fs.items) :=
  if_neg some

private theorem converted_none (empty : fs.items = []) : fieldSchemasFromThrift fs = none :=
  if_pos empty

private theorem plain_of_apart (tracks : Cache seen cache)
    (points : List.Forall₂ (Points columns make cache) ws xs)
    (known : ∀ fs ∈ seen, fs ∈ ws.map fun w => (columns w).items)
    (apart : SpelledApart (ws.map fun w => (columns w).items)) :
    AsPlain columns (fun w => make w (fieldSchemasFromThrift (columns w))) ws xs := by
  obtain ⟨same, each⟩ := List.forall₂_iff_zip.mp points
  have listed : ∀ {w x}, (w, x) ∈ ws.zip xs →
      (columns w).items ∈ ws.map fun w => (columns w).items := fun inZip =>
    List.mem_map_of_mem (List.of_mem_zip inZip).1
  constructor
  · refine List.forall₂_iff_zip.mpr ⟨same, fun {w x} inZip => ?_⟩
    rcases each inZip with ⟨empty, rfl⟩ | ⟨some, slot, cols, here, rfl⟩
    · rw [converted_none empty]
    · obtain ⟨fs, inSeen, entry⟩ := tracks.made _ (List.mem_of_getElem? here)
      obtain ⟨keys, made⟩ := Prod.mk.inj entry
      rw [columnKey_eq_spelling, columnKey_eq_spelling] at keys
      have own := apart _ (listed inZip) fs (known fs inSeen) keys
      rw [converted_some some, own, made]
  · rintro ⟨v, x⟩ inV ⟨w, y⟩ inW cached shared
    rcases each inV with ⟨-, rfl⟩ | ⟨-, slot, cols, here, rfl⟩
    · exact absurd rfl cached
    · rcases each inW with ⟨-, rfl⟩ | ⟨-, slot', cols', there, rfl⟩
      · cases shared
      · cases shared
        have keys := congrArg Prod.fst (Option.some.inj (here.symm.trans there))
        simp only [columnKey_eq_spelling] at keys
        exact apart _ (listed inV) _ (listed inW) keys

private theorem apart_of_plain (tracks : Cache seen cache)
    (points : List.Forall₂ (Points columns make cache) ws xs)
    (reads : ∀ w cols cols', (columns w).items ≠ [] → make w cols = make w cols' → cols = cols')
    (plain : AsPlain columns (fun w => make w (fieldSchemasFromThrift (columns w))) ws xs) :
    SpelledApart (ws.map fun w => (columns w).items) := by
  obtain ⟨same, each⟩ := List.forall₂_iff_zip.mp points
  obtain ⟨-, equal⟩ := List.forall₂_iff_zip.mp plain.equal
  have cached : ∀ w ∈ ws, (columns w).items ≠ [] → ∃ slot : Nat,
      cache[slot]? = some (spelling (columns w).items, convertList (columns w).items) := by
    intro w member some
    obtain ⟨x, inZip⟩ := zip_of_mem same member
    rcases each inZip with ⟨empty, -⟩ | ⟨-, slot, cols, here, rfl⟩
    · exact absurd empty some
    · have own := reads w _ _ some (equal inZip)
      rw [converted_some some, Option.some.injEq] at own
      exact ⟨slot, by rw [here, own, columnKey_eq_spelling]⟩
  intro a inA b inB spelled
  obtain ⟨v, inV, rfl⟩ := List.mem_map.mp inA
  obtain ⟨w, inW, rfl⟩ := List.mem_map.mp inB
  by_cases empty : (columns v).items = []
  · rw [empty] at spelled ⊢
    exact (spelling_eq_nil spelled.symm).symm
  · have some : (columns w).items ≠ [] := by
      intro none
      rw [none] at spelled
      exact empty (spelling_eq_nil spelled)
    obtain ⟨slot, here⟩ := cached v inV empty
    obtain ⟨slot', there⟩ := cached w inW some
    rw [spelled] at here
    exact convertList_injective (tracks.same_slot here there)

/-- A sequence of conversions through a new interner is as plain conversion exactly
when the key tells its column lists apart. -/
private theorem thread_plain_iff
    (reads : ∀ w cols cols', (columns w).items ≠ [] → make w cols = make w cols' → cols = cols')
    (ws : List W) :
    AsPlain columns (fun w => make w (fieldSchemasFromThrift (columns w))) ws
        (thread (convertWith columns make) ws []).1 ↔
      SpelledApart (ws.map fun w => (columns w).items) := by
  obtain ⟨points, -, now, known, tracks⟩ :=
    thread_points columns make (tracks_nil columnKey convertList) ws
  exact ⟨apart_of_plain tracks points reads, plain_of_apart tracks points (by simpa using known)⟩

end Kinds

private def tableWithColumns (t : Wire.Table) (cols : Slice FieldSchema) : Table :=
  tableWithStorage t (t.sd.map (storageWithColumns · cols))

private def partitionWithColumns (p : Wire.Partition) (cols : Slice FieldSchema) : Partition :=
  partitionWithStorage p (p.sd.map (storageWithColumns · cols))

variable {storage : Wire.StorageDescriptor}

private theorem table_columns {t : Wire.Table} (sd : t.sd = some storage) :
    t.columns = storage.cols := by
  rw [Wire.Table.columns, sd, Option.bind_some]

private theorem partition_columns {p : Wire.Partition} (sd : p.sd = some storage) :
    p.columns = storage.cols := by
  rw [Wire.Partition.columns, sd, Option.bind_some]

private theorem tableFromThriftIntern_eq :
    tableFromThriftIntern = convertWith Wire.Table.columns tableWithColumns := by
  funext t cache
  cases sd : t.sd with
  | none =>
    have cols : t.columns = none := by rw [Wire.Table.columns, sd]; rfl
    simp only [tableFromThriftIntern, convertWith, tableWithColumns, sd, cols]
    rfl
  | some storage =>
    simp only [tableFromThriftIntern, storageFromThriftIntern, convertWith, tableWithColumns, sd,
      table_columns sd]
    rfl

private theorem partitionFromThriftIntern_eq :
    partitionFromThriftIntern = convertWith Wire.Partition.columns partitionWithColumns := by
  funext p cache
  cases sd : p.sd with
  | none =>
    have cols : p.columns = none := by rw [Wire.Partition.columns, sd]; rfl
    simp only [partitionFromThriftIntern, convertWith, partitionWithColumns, sd, cols]
    rfl
  | some storage =>
    simp only [partitionFromThriftIntern, storageFromThriftIntern, convertWith,
      partitionWithColumns, sd, partition_columns sd]
    rfl

private theorem tableFromThrift_eq :
    tableFromThrift = fun t => tableWithColumns t (fieldSchemasFromThrift t.columns) := by
  funext t
  cases sd : t.sd with
  | none => simp only [tableFromThrift, tableWithColumns, sd, Option.map_none]
  | some storage =>
    simp only [tableFromThrift, tableWithColumns, sd, table_columns sd, Option.map_some,
      storageFromThrift]

private theorem partitionFromThrift_eq :
    partitionFromThrift = fun p => partitionWithColumns p (fieldSchemasFromThrift p.columns) := by
  funext p
  cases sd : p.sd with
  | none => simp only [partitionFromThrift, partitionWithColumns, sd, Option.map_none]
  | some storage =>
    simp only [partitionFromThrift, partitionWithColumns, sd, partition_columns sd,
      Option.map_some, storageFromThrift]

private theorem tableWithColumns_reads (t : Wire.Table) (cols cols' : Slice FieldSchema)
    (some : t.columns.items ≠ []) (same : tableWithColumns t cols = tableWithColumns t cols') :
    cols = cols' := by
  cases sd : t.sd with
  | none => simp [Wire.Table.columns, sd] at some
  | some storage =>
    have storages := congrArg Table.storage same
    simp only [tableWithColumns, tableWithStorage, sd, Option.map_some, Option.some.injEq] at storages
    exact congrArg StorageDescriptor.columns storages

private theorem partitionWithColumns_reads (p : Wire.Partition) (cols cols' : Slice FieldSchema)
    (some : p.columns.items ≠ [])
    (same : partitionWithColumns p cols = partitionWithColumns p cols') : cols = cols' := by
  cases sd : p.sd with
  | none => simp [Wire.Partition.columns, sd] at some
  | some storage =>
    have storages := congrArg Partition.storage same
    simp only [partitionWithColumns, partitionWithStorage, sd, Option.map_some,
      Option.some.injEq] at storages
    exact congrArg StorageDescriptor.columns storages

/-- However the objects of a call are cut into chunks, interning changes nothing but
the sharing of equal lists exactly when different lists are spelled differently. -/
theorem interned_conversion_is_plain_iff (partitions : List (List Wire.Partition))
    (tables : List (List Wire.Table)) :
    (AsPlain Wire.Partition.columns partitionFromThrift partitions.flatten
        (thread partitionsFromThriftIntern partitions []).1.flatten ↔
      SpelledApart (partitions.flatten.map fun p => p.columns.items)) ∧
    (AsPlain Wire.Table.columns tableFromThrift tables.flatten
        (thread (thread tableFromThriftIntern) tables []).1.flatten ↔
      SpelledApart (tables.flatten.map fun t => t.columns.items)) := by
  constructor
  · change AsPlain _ _ _ (thread (thread partitionFromThriftIntern) partitions []).1.flatten ↔ _
    rw [thread_flatten, partitionFromThriftIntern_eq, partitionFromThrift_eq]
    exact thread_plain_iff partitionWithColumns_reads partitions.flatten
  · rw [thread_flatten, tableFromThriftIntern_eq, tableFromThrift_eq]
    exact thread_plain_iff tableWithColumns_reads tables.flatten

/-- One column whose comment holds the separators is taken for two columns: the second
partition is given the schema of the first. -/
theorem comment_with_separators_is_taken_for_columns :
    let one : Wire.FieldSchema := ⟨[97], [98], [99, 1, 100, 0, 101, 0, 102]⟩
    let two : List Wire.FieldSchema := [⟨[97], [98], [99]⟩, ⟨[100], [101], [102]⟩]
    let p : Wire.Partition := { sd := some { cols := some [one] } }
    let q : Wire.Partition := { sd := some { cols := some two } }
    let out := (partitionsFromThriftIntern [p, q] []).1
    out.map (·.value) ≠ [p, q].map partitionFromThrift ∧ out.map (·.slice) = [some 0, some 0] := by
  decide

end HmsClient
