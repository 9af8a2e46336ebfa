import HmsClient.PercentCoding
import HmsClient.Errors
import HmsClient.Types

/-! The names `PartitionName` builds from the keys of a table and the values of a partition.
Slash and equals sign come from the joining alone, since both are escaped in keys and
values, so a name can be taken apart again and tells partitions apart, but for an empty
value and the text that stands for it. `DropPartitions` names what it drops this way. -/
namespace HmsClient

def defaultPartitionName : Text := "__HIVE_DEFAULT_PARTITION__".toUTF8.data.toList

/-- Control characters, DEL, and the characters that clash with paths. -/
def needsPartitionPathEscaping (c : UInt8) : Bool :=
  c < 32 || c == 127 ||
    [34, 35, 37, 39, 42, 47, 58, 61, 63, 92, 123, 91, 93, 94].contains c

def escapePartitionPathName (s : Text) : Text :=
  if s = [] then defaultPartitionName
  else PercentCoding.encode needsPartitionPathEscaping s

/-- `PartitionName`, where `toLower` is `strings.ToLower`. -/
def partitionName (toLower : Text → Text) (keys values : List Text) : Except Err Text :=
  if keys.length ≠ values.length then
    .error (.leaf (.other ("hms: PartitionName: " ++ toString keys.length ++ " keys but " ++
      toString values.length ++ " values")))
  else
    .ok ((keys.zip values).zipIdx.flatMap fun ((k, v), i) =>
      (if i > 0 then [47] else []) ++ escapePartitionPathName (toLower k) ++
        61 :: escapePartitionPathName v)

/-- The names `DropPartitions` hands to `DropPartitionsByNames`, once it has the table. -/
def dropPartitionsNames (toLower : Text → Text) (tbl : Table) (partVals : List (List Text)) :
    Except Err (List Text) :=
  let keys := tbl.partitionKeys.items.map (·.name)
  partVals.mapM fun vals =>
    match partitionName toLower keys vals with
    | .ok name => .ok name
    | .error err => .error (wrapAs "drop_partitions_req" .errInvalidOperation err)

/-! ## Escaping -/

/-- The text a key or value is written as: an empty one has a name of its own. -/
def orDefault (s : Text) : Text := if s = [] then defaultPartitionName else s

private theorem default_unescaped :
    ∀ c ∈ defaultPartitionName, needsPartitionPathEscaping c = false := by
  decide +kernel

private theorem escape_eq (s : Text) :
    escapePartitionPathName s =
      PercentCoding.encode needsPartitionPathEscaping (orDefault s) := by
  unfold escapePartitionPathName orDefault
  split
  · rw [PercentCoding.encode_unmarked default_unescaped]
  · rfl

private theorem decode_escape (s : Text) :
    PercentCoding.decode (escapePartitionPathName s) = orDefault s := by
  rw [escape_eq]
  exact PercentCoding.decode_encode rfl _

private theorem slash_not_mem_escape (s : Text) : 47 ∉ escapePartitionPathName s := by
  rw [escape_eq]
  exact PercentCoding.separator_not_mem_encode rfl (by decide) (by decide) _

theorem equals_not_mem_escape (s : Text) : 61 ∉ escapePartitionPathName s := by
  rw [escape_eq]
  exact PercentCoding.separator_not_mem_encode rfl (by decide) (by decide) _

/-! ## Segments -/

def segment (toLower : Text → Text) (key value : Text) : Text :=
  escapePartitionPathName (toLower key) ++ 61 :: escapePartitionPathName value

private theorem slash_not_mem_segment (toLower : Text → Text) (key value : Text) :
    47 ∉ segment toLower key value := by
  simp only [segment, List.mem_append, List.mem_cons, not_or]
  exact ⟨slash_not_mem_escape _, by decide, slash_not_mem_escape _⟩

theorem slash_not_mem_segments (toLower : Text → Text) (keys values : List Text) :
    ∀ s ∈ List.zipWith (segment toLower) keys values, 47 ∉ s := by
  intro s written
  rw [← List.map_uncurry_zip_eq_zipWith] at written
  obtain ⟨pair, -, rfl⟩ := List.mem_map.mp written
  exact slash_not_mem_segment toLower pair.1 pair.2

private theorem segment_splits (toLower : Text → Text) (key value : Text) :
    (segment toLower key value).splitOn 61 =
      [escapePartitionPathName (toLower key), escapePartitionPathName value] := by
  rw [segment, List.splitOn, List.splitOnP_append_cons _ _ (by decide)]
  have before := List.splitOn_eq_singleton (equals_not_mem_escape (toLower key))
  have after := List.splitOn_eq_singleton (equals_not_mem_escape value)
  rw [List.splitOn] at before after
  rw [before, after]
  rfl

private theorem segment_equals (toLower : Text → Text) (key value : Text) :
    (segment toLower key value).count 61 = 1 := by
  rw [segment, List.count_append, List.count_cons_self,
    List.count_eq_zero.mpr (equals_not_mem_escape _),
    List.count_eq_zero.mpr (equals_not_mem_escape _)]

/-- After the first segment, each one is written with a slash before it. -/
private theorem written_from (toLower : Text → Text) (pairs : List (Text × Text)) (first : 0 < i) :
    ((pairs.zipIdx i).flatMap fun ((k, v), i) =>
      (if i > 0 then [47] else []) ++ escapePartitionPathName (toLower k) ++
        61 :: escapePartitionPathName v) =
      pairs.flatMap fun pair => 47 :: segment toLower pair.1 pair.2 := by
  induction pairs generalizing i with
  | nil => rfl
  | cons pair rest ih =>
    rw [List.zipIdx_cons, List.flatMap_cons, List.flatMap_cons, ih (by omega)]
    simp [segment, first]

private theorem intercalate_cons (s : Text) (rest : List Text) :
    [47].intercalate (s :: rest) = s ++ rest.flatMap (47 :: ·) := by
  induction rest generalizing s with
  | nil => simp
  | cons s' rest ih =>
    rw [List.intercalate_cons_cons, ih]
    simp

variable {keys values values' : List Text}

/-- The name is the segments, joined by slashes. -/
theorem partitionName_eq (toLower : Text → Text) (same : values.length = keys.length) :
    partitionName toLower keys values =
      .ok ([47].intercalate (List.zipWith (segment toLower) keys values)) := by
  rw [partitionName, if_neg (by simp [same])]
  congr 1
  rw [← List.map_uncurry_zip_eq_zipWith]
  cases keys.zip values with
  | nil => rfl
  | cons pair rest =>
    rw [List.zipIdx_cons, List.flatMap_cons, written_from toLower rest (by omega), List.map_cons,
      intercalate_cons, List.flatMap_map]
    rfl

private theorem partitionName_splits (toLower : Text → Text) (keyed : keys ≠ [])
    (same : values.length = keys.length) :
    ([47].intercalate (List.zipWith (segment toLower) keys values)).splitOn 47 =
      List.zipWith (segment toLower) keys values := by
  apply List.splitOn_intercalate
  · exact slash_not_mem_segments toLower keys values
  · intro none
    have length := congrArg List.length none
    rw [List.length_zipWith, same, Nat.min_self] at length
    exact keyed (List.length_eq_zero_iff.mp length)

/-- The keys and values a name holds, decoded. -/
def parsePartitionName (name : Text) : List (List Text) :=
  (name.splitOn 47).map fun s => (s.splitOn 61).map PercentCoding.decode

private theorem parse_segments (toLower : Text → Text) (keys values : List Text) :
    (List.zipWith (segment toLower) keys values).map
        (fun s => (s.splitOn 61).map PercentCoding.decode) =
      List.zipWith (fun k v => [orDefault (toLower k), orDefault v]) keys values := by
  rw [List.map_zipWith]
  congr 1
  funext k v
  rw [segment_splits]
  simp only [List.map_cons, List.map_nil, decode_escape]

private theorem values_of_parsed (toLower : Text → Text) (same : values.length = keys.length)
    (same' : values'.length = keys.length)
    (parsed : List.zipWith (fun k v => [orDefault (toLower k), orDefault v]) keys values' =
      List.zipWith (fun k v => [orDefault (toLower k), orDefault v]) keys values) :
    values'.map orDefault = values.map orDefault := by
  induction keys generalizing values values' with
  | nil =>
    rw [List.length_eq_zero_iff.mp same, List.length_eq_zero_iff.mp same']
  | cons k keys ih =>
    obtain ⟨v, values, rfl⟩ := List.exists_cons_of_length_eq_add_one same
    obtain ⟨v', values', rfl⟩ := List.exists_cons_of_length_eq_add_one same'
    simp only [List.zipWith_cons_cons, List.cons.injEq, and_true, true_and] at parsed
    rw [List.map_cons, List.map_cons, parsed.1,
      ih (Nat.succ.inj same) (Nat.succ.inj same') parsed.2]

private theorem segments_of_values (toLower : Text → Text)
    (equal : values'.map orDefault = values.map orDefault) (keys : List Text) :
    List.zipWith (segment toLower) keys values' = List.zipWith (segment toLower) keys values := by
  have written : segment toLower = fun k v =>
      escapePartitionPathName (toLower k) ++
        61 :: PercentCoding.encode needsPartitionPathEscaping (orDefault v) := by
    funext k v
    rw [segment, escape_eq v]
  rw [written, ← List.zipWith_map_right (g := fun k w => escapePartitionPathName (toLower k) ++
    61 :: PercentCoding.encode needsPartitionPathEscaping w), equal, List.zipWith_map_right]

/-- Two lists of values have one name if they differ in empty values and their stand-ins
only. -/
theorem partitionName_eq_iff (toLower : Text → Text) (keyed : keys ≠ [])
    (same : values.length = keys.length) (same' : values'.length = keys.length) :
    partitionName toLower keys values = partitionName toLower keys values' ↔
      values.map orDefault = values'.map orDefault := by
  rw [partitionName_eq toLower same, partitionName_eq toLower same']
  constructor
  · intro named
    have parsed := congrArg parsePartitionName (Except.ok.inj named)
    rw [parsePartitionName, parsePartitionName, partitionName_splits toLower keyed same,
      partitionName_splits toLower keyed same', parse_segments, parse_segments] at parsed
    exact values_of_parsed toLower same' same parsed
  · intro equal
    rw [segments_of_values toLower equal]

/-- A name holds one segment for each key, with one equals sign, and decodes into the
lower-cased keys and the values, but for the empty text and its stand-in. So for the same
keys two lists of values have one name only if they are alike in this sense. -/
theorem partition_name_decodes (toLower : Text → Text) (keys values : List Text)
    (keyed : keys ≠ []) (same : values.length = keys.length) :
    ∃ name, partitionName toLower keys values = .ok name ∧
      (name.splitOn 47).length = keys.length ∧
      (∀ s ∈ name.splitOn 47, s.count 61 = 1) ∧
      parsePartitionName name =
        List.zipWith (fun k v => [orDefault (toLower k), orDefault v]) keys values ∧
      ∀ values', values'.length = keys.length →
        (partitionName toLower keys values' = .ok name ↔
          values'.map orDefault = values.map orDefault) := by
  have splits := partitionName_splits toLower keyed same
  refine ⟨_, partitionName_eq toLower same, ?_, ?_, ?_, ?_⟩
  · rw [splits, List.length_zipWith, same, Nat.min_self]
  · intro s written
    rw [splits, ← List.map_uncurry_zip_eq_zipWith] at written
    obtain ⟨pair, _, rfl⟩ := List.mem_map.mp written
    exact segment_equals toLower pair.1 pair.2
  · rw [parsePartitionName, splits, parse_segments]
  · intro values' same'
    rw [← partitionName_eq toLower same]
    exact partitionName_eq_iff toLower keyed same' same

/-- A value that holds a slash and an equals sign, and an empty one. -/
theorem slash_and_empty_value_decode :
    partitionName id [[100, 116], [114]] [[97, 47, 61], []] =
      .ok ([100, 116, 61, 97, 37, 50, 70, 37, 51, 68, 47, 114, 61] ++ defaultPartitionName) ∧
    ∃ name, partitionName id [[100, 116], [114]] [[97, 47, 61], []] = .ok name ∧
      parsePartitionName name = [[[100, 116], [97, 47, 61]], [[114], defaultPartitionName]] :=
  ⟨rfl,
    let ⟨name, named, _, _, parsed, _⟩ :=
      partition_name_decodes id [[100, 116], [114]] [[97, 47, 61], []] (by decide) rfl
    ⟨name, named, parsed⟩⟩

end HmsClient
