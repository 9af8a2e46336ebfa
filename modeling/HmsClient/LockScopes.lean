import HmsClient.LockTable
import Mathlib.Data.Set.Insert

/-! What a component of a lock request covers: a database with all its tables, a table
with all its partitions, or one partition. The server compares as many names as the
shallower of two components has, and that comes to asking whether the two cover a common
resource. -/
namespace HmsClient.Hmstest

/-- A partition, by the names of its database, its table and its own. -/
structure Resource where
  database : Text
  table : Text
  part : Text

/-- The names a component carries, an absent one read as empty. -/
def ownResource (c : Wire.LockComponent) : Resource :=
  ⟨c.dbname, lockName c.tablename, lockName c.partitionname⟩

/-- The resources under a component: of its database if its level is DB, of its table if
it is TABLE, and otherwise the one that it names. -/
def covered (c : Wire.LockComponent) : Set Resource :=
  if c.level = 1 then {r | r.database = c.dbname}
  else if c.level = 2 then {r | r.database = c.dbname ∧ r.table = lockName c.tablename}
  else {ownResource c}

/-- A component of depth `n` covers what agrees with it on the first `n` names. -/
private theorem mem_covered (c : Wire.LockComponent) (r : Resource) :
    r ∈ covered c ↔ r.database = c.dbname ∧ (2 ≤ lockDepth c → r.table = lockName c.tablename) ∧
      (3 ≤ lockDepth c → r.part = lockName c.partitionname) := by
  obtain ⟨database, table, part⟩ := r
  unfold covered lockDepth
  split
  · simp
  · split
    · simp
    · simp [ownResource]

private theorem ownResource_covered (c : Wire.LockComponent) : ownResource c ∈ covered c :=
  (mem_covered c _).mpr ⟨rfl, fun _ => rfl, fun _ => rfl⟩

private theorem lockOverlaps_iff (a b : Wire.LockComponent) :
    lockOverlaps a b = true ↔ a.dbname = b.dbname ∧
      (2 ≤ lockDepth a → 2 ≤ lockDepth b → lockName a.tablename = lockName b.tablename) ∧
      (3 ≤ lockDepth a → 3 ≤ lockDepth b →
        lockName a.partitionname = lockName b.partitionname) := by
  simp only [lockOverlaps, Nat.le_min]
  split
  · next different => simp [different]
  · next same =>
    split
    · next different => grind
    · split
      · grind
      · grind

theorem lockOverlaps_comm (a b : Wire.LockComponent) :
    lockOverlaps a b = lockOverlaps b a := by
  rw [Bool.eq_iff_iff, lockOverlaps_iff, lockOverlaps_iff]
  grind

/-- The deeper of two overlapping components names a resource that both cover. -/
private theorem deeper_covered {a b : Wire.LockComponent} (deeper : lockDepth a ≤ lockDepth b)
    (overlap : lockOverlaps a b = true) : ownResource b ∈ covered a := by
  obtain ⟨databases, tables, parts⟩ := (lockOverlaps_iff a b).mp overlap
  refine (mem_covered a _).mpr ⟨databases.symm, fun two => ?_, fun three => ?_⟩
  · exact (tables two (two.trans deeper)).symm
  · exact (parts three (three.trans deeper)).symm

theorem lockOverlaps_iff_meet (a b : Wire.LockComponent) :
    lockOverlaps a b = true ↔ (covered a ∩ covered b).Nonempty := by
  constructor
  · intro overlap
    rcases Nat.le_total (lockDepth a) (lockDepth b) with deeper | deeper
    · exact ⟨ownResource b, deeper_covered deeper overlap, ownResource_covered b⟩
    · rw [lockOverlaps_comm] at overlap
      exact ⟨ownResource a, ownResource_covered a, deeper_covered deeper overlap⟩
  · rintro ⟨r, inA, inB⟩
    obtain ⟨databaseA, tableA, partA⟩ := (mem_covered a r).mp inA
    obtain ⟨databaseB, tableB, partB⟩ := (mem_covered b r).mp inB
    refine (lockOverlaps_iff a b).mpr ⟨databaseA.symm.trans databaseB, ?_, ?_⟩
    · intro deepA deepB
      exact (tableA deepA).symm.trans (tableB deepB)
    · intro deepA deepB
      exact (partA deepA).symm.trans (partB deepB)

theorem hasExclusiveConflict_iff (a : AcidState) (comp : Wire.LockComponent) :
    hasExclusiveConflict a comp = true ↔ ∃ id entry, a.locks.lookup id = some entry ∧
      entry.state = .acquired ∧ ∃ existing ∈ entry.components, existing.type = exclusive ∧
        lockOverlaps existing comp = true := by
  simp only [hasExclusiveConflict, List.any_eq_true, Bool.and_eq_true, decide_eq_true_eq]
  constructor
  · rintro ⟨⟨id, entry⟩, held, found⟩
    exact ⟨id, entry, AList.mem_lookup_iff.mpr held, found⟩
  · rintro ⟨id, entry, registered, found⟩
    exact ⟨⟨id, entry⟩, AList.mem_lookup_iff.mp registered, found⟩

/-- Two components overlap when they cover a common resource, so every component overlaps
itself and the order of two does not matter; and a component is in conflict when an
acquired lock has an exclusive component that covers something it covers too. -/
theorem lock_overlap_is_scope_intersection :
    (∀ a b, lockOverlaps a b = true ↔ (covered a ∩ covered b).Nonempty) ∧
      (∀ a, lockOverlaps a a = true) ∧ (∀ a b, lockOverlaps a b = lockOverlaps b a) ∧
      ∀ (table : AcidState) comp, hasExclusiveConflict table comp = true ↔
        ∃ id entry, table.locks.lookup id = some entry ∧ entry.state = .acquired ∧
          ∃ existing ∈ entry.components, existing.type = exclusive ∧
            (covered existing ∩ covered comp).Nonempty := by
  refine ⟨lockOverlaps_iff_meet, fun a => ?_, lockOverlaps_comm, fun table comp => ?_⟩
  · rw [lockOverlaps_iff_meet, Set.inter_self]
    exact ⟨ownResource a, ownResource_covered a⟩
  · simp only [hasExclusiveConflict_iff, lockOverlaps_iff_meet]

end HmsClient.Hmstest
