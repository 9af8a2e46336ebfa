import Mathlib.Data.List.AList
import Mathlib.Data.List.Dedup
import Mathlib.Logic.Function.Basic

/-! A map whose keys encode something else: identifiers are turned into keys, and the map
is read as a partial function on the identifiers. Inserting, erasing and listing entries by
their keys is then inserting, erasing and listing by what the keys stand for. -/
namespace KeyedMap

variable {κ ι β : Type} [DecidableEq κ]

/-- `entries` holds `contents`, each under its key, and nothing under other keys. -/
structure Holds (key : ι → κ) (entries : AList fun _ : κ => β) (contents : ι → Option β) :
    Prop where
  lookup : ∀ id, entries.lookup (key id) = contents id
  keyed : ∀ k ∈ entries, ∃ id, key id = k

section Holds
variable {key : ι → κ} {entries : AList fun _ : κ => β} {contents : ι → Option β}

theorem holds_empty (key : ι → κ) : Holds key (∅ : AList fun _ : κ => β) fun _ => none :=
  ⟨fun _ => AList.lookup_empty _, fun k inside => absurd inside (AList.notMem_empty k)⟩

theorem Holds.mem_iff (holds : Holds key entries contents) (id : ι) :
    key id ∈ entries ↔ (contents id).isSome := by
  rw [← holds.lookup, AList.lookup_isSome]

theorem Holds.insert [DecidableEq ι] (injective : key.Injective)
    (holds : Holds key entries contents) (id : ι) (value : β) :
    Holds key (entries.insert (key id) value) (Function.update contents id (some value)) := by
  refine ⟨fun other => ?_, fun k inside => ?_⟩
  · by_cases same : other = id
    · rw [same, AList.lookup_insert, Function.update_self]
    · rw [AList.lookup_insert_ne fun equal => same (injective equal), Function.update_of_ne same]
      exact holds.lookup other
  · rcases (AList.mem_insert _).mp inside with rfl | old
    · exact ⟨id, rfl⟩
    · exact holds.keyed k old

theorem Holds.erase [DecidableEq ι] (injective : key.Injective)
    (holds : Holds key entries contents) (id : ι) :
    Holds key (entries.erase (key id)) (Function.update contents id none) := by
  refine ⟨fun other => ?_, fun k inside => holds.keyed k (AList.mem_erase.mp inside).2⟩
  by_cases same : other = id
  · rw [same, AList.lookup_erase, Function.update_self]
  · rw [AList.lookup_erase_ne fun equal => same (injective equal), Function.update_of_ne same]
    exact holds.lookup other

theorem mem_foldl_erase {keys : List κ} {k : κ} :
    k ∈ keys.foldl (fun entries key => entries.erase key) entries ↔ k ∉ keys ∧ k ∈ entries := by
  induction keys generalizing entries with
  | nil => simp
  | cons first rest ih =>
    rw [List.foldl_cons, ih, AList.mem_erase, List.mem_cons]
    tauto

theorem lookup_foldl_erase (keys : List κ) (k : κ) :
    (keys.foldl (fun entries key => entries.erase key) entries).lookup k =
      if k ∈ keys then none else entries.lookup k := by
  induction keys generalizing entries with
  | nil => simp
  | cons first rest ih =>
    rw [List.foldl_cons, ih]
    by_cases same : k = first
    · subst same
      simp
    · simp [same, AList.lookup_erase_ne same]

/-- Erasing the keys of all identifiers with a property. -/
theorem Holds.erase_all {gone : ι → Prop} [DecidablePred gone] {keys : List κ}
    (holds : Holds key entries contents)
    (listed : ∀ id, key id ∈ entries → (key id ∈ keys ↔ gone id)) :
    Holds key (keys.foldl (fun entries key => entries.erase key) entries)
      fun id => if gone id then none else contents id := by
  refine ⟨fun id => ?_, fun k inside => holds.keyed k (mem_foldl_erase.mp inside).2⟩
  rw [lookup_foldl_erase]
  by_cases inside : key id ∈ entries
  · simp only [listed id inside, holds.lookup]
  · have absent := AList.lookup_eq_none.mpr inside
    rw [← holds.lookup, absent, ite_self, ite_self]

/-- The entries of the map are those of the function. -/
theorem Holds.mem_entries (holds : Holds key entries contents) (entry : Sigma fun _ : κ => β) :
    entry ∈ entries.entries ↔ ∃ id, key id = entry.1 ∧ contents id = some entry.2 := by
  have found : entry ∈ entries.entries ↔ entries.lookup entry.1 = some entry.2 :=
    AList.mem_lookup_iff.symm
  rw [found]
  refine ⟨fun looked => ?_, fun ⟨id, same, there⟩ => ?_⟩
  · obtain ⟨id, same⟩ := holds.keyed entry.1 (AList.lookup_isSome.mp (by rw [looked]; rfl))
    exact ⟨id, same, by rw [← holds.lookup, same, looked]⟩
  · rw [← same, holds.lookup, there]

/-- A listing of the entries that pass a test, by a label that tells them apart. -/
theorem Holds.listing {γ : Type} (holds : Holds key entries contents)
    (passes : κ → β → Bool) (listed : ι → Prop)
    (picks : ∀ id value, contents id = some value → (passes (key id) value = true ↔ listed id))
    {label : β → γ} {labelled : ι → γ}
    (named : ∀ id value, contents id = some value → label value = labelled id)
    (apart : ∀ a b, listed a → listed b → labelled a = labelled b → a = b) :
    let labels := (entries.entries.filter fun entry => passes entry.1 entry.2).map
      fun entry => label entry.2
    labels.Nodup ∧
      ∀ name, name ∈ labels ↔ ∃ id, listed id ∧ labelled id = name ∧ (contents id).isSome := by
  intro labels
  have member : ∀ entry, entry ∈ entries.entries.filter (fun entry => passes entry.1 entry.2) ↔
      ∃ id, key id = entry.1 ∧ contents id = some entry.2 ∧ listed id := by
    intro entry
    rw [List.mem_filter, holds.mem_entries]
    refine ⟨fun ⟨⟨id, same, there⟩, passed⟩ => ⟨id, same, there, ?_⟩,
      fun ⟨id, same, there, isListed⟩ => ⟨⟨id, same, there⟩, ?_⟩⟩
    · rwa [← picks id _ there, same]
    · rwa [← same, picks id _ there]
  refine ⟨?_, fun name => ?_⟩
  · refine List.Nodup.map_on (fun x inX y inY same => ?_) (entries.nodupKeys.nodup.filter _)
    obtain ⟨a, keyA, thereA, listedA⟩ := (member x).mp inX
    obtain ⟨b, keyB, thereB, listedB⟩ := (member y).mp inY
    rw [named a _ thereA, named b _ thereB] at same
    have equal := apart a b listedA listedB same
    subst equal
    rw [thereA] at thereB
    exact Sigma.ext (keyA.symm.trans keyB) (heq_of_eq (Option.some.inj thereB))
  · constructor
    · intro inside
      obtain ⟨entry, inEntries, rfl⟩ := List.mem_map.mp inside
      obtain ⟨id, -, there, isListed⟩ := (member entry).mp inEntries
      exact ⟨id, isListed, (named id _ there).symm, by rw [there]; rfl⟩
    · rintro ⟨id, isListed, rfl, present⟩
      obtain ⟨value, there⟩ := Option.isSome_iff_exists.mp present
      refine List.mem_map.mpr ⟨⟨key id, value⟩, (member _).mpr ⟨id, rfl, there, isListed⟩, ?_⟩
      exact named id value there

end Holds

end KeyedMap
