import HmsClient.LockScopes

/-! Exclusion between the locks of the fake metastore. A request is looked at against the
exclusive components of the locks acquired before it, and not the other way round: an
exclusive lock is also acquired over shared ones that are held. What holds in every table
that requests lead to is that no two acquired locks have exclusive components with a common
resource, and that a shared one meets an exclusive one only if it was there first. -/
namespace HmsClient.Hmstest

/-- What a request does to the locks. -/
inductive LocksAfter (a : AcidState) (a' : AcidState) : Prop where
  | same (locks : a'.locks = a.locks) (next : a'.nextLock = a.nextLock)
  | issued (req : Wire.LockRequest) (next : a'.nextLock = a.nextLock + 1)
      (locks : a'.locks = a.locks.insert (a.nextLock + 1) ⟨req.component, stateFor a req⟩)
  | released (id : Int64) (next : a'.nextLock = a.nextLock) (locks : a'.locks = a.locks.erase id)

private theorem nextLock_openLoop (n : Nat) (a : AcidState) :
    (openLoop n a).2.nextLock = a.nextLock := by
  induction n generalizing a with
  | zero => rfl
  | succ n ih => exact ih _

private theorem locks_after (a : AcidState) (call : AcidCall) : LocksAfter a (a.after call) := by
  cases call with
  | openTxns req => exact .same (locks_openLoop _ a) (nextLock_openLoop _ a)
  | commitTxn txnid =>
    simp only [AcidState.after, commitTxn]
    split <;> exact .same rfl rfl
  | abortTxn txnid =>
    simp only [AcidState.after, abortTxn]
    split <;> exact .same rfl rfl
  | heartbeat req => exact .same rfl rfl
  | checkLock lockid => exact .same rfl rfl
  | lock req =>
    simp only [AcidState.after, lock]
    split
    · exact .same rfl rfl
    · exact .issued req rfl rfl
  | unlock lockid =>
    simp only [AcidState.after, unlock]
    split
    · exact .same rfl rfl
    · exact .released lockid rfl rfl

/-- Of two acquired locks no exclusive component of the earlier one overlaps a component of
the later one. At most `n` locks have been issued. -/
structure Ranked (n : Nat) (a : AcidState) : Prop where
  issued : 0 ≤ a.nextLock.toInt ∧ a.nextLock.toInt ≤ n
  below : ∀ id entry, a.locks.lookup id = some entry → id.toInt ≤ a.nextLock.toInt
  clear : ∀ i j early late, a.locks.lookup i = some early → a.locks.lookup j = some late →
    i.toInt < j.toInt → early.state = .acquired → late.state = .acquired →
    ∀ existing ∈ early.components, existing.type = exclusive →
      ∀ comp ∈ late.components, lockOverlaps existing comp = false

/-- A lock that is acquired found no exclusive component in its way. -/
private theorem clear_of_granted {a : AcidState} {req : Wire.LockRequest} {i : Int64}
    {early : LockEntry} (found : a.locks.lookup i = some early) (held : early.state = .acquired)
    (granted : stateFor a req = .acquired) :
    ∀ existing ∈ early.components, existing.type = exclusive →
      ∀ comp ∈ req.component, lockOverlaps existing comp = false := by
  intro existing inEarly isExclusive comp inReq
  have free := (stateFor_acquired_iff a req).mp granted comp inReq
  by_contra overlaps
  have conflict := (hasExclusiveConflict_iff a comp).mpr
    ⟨i, early, found, held, existing, inEarly, isExclusive, by simpa using overlaps⟩
  rw [free] at conflict
  cases conflict

private theorem ranked_after {n : Nat} {a : AcidState} (few : n + 1 < 9223372036854775808)
    (ranked : Ranked n a) (call : AcidCall) : Ranked (n + 1) (a.after call) := by
  obtain ⟨issued, below, clear⟩ := ranked
  rcases locks_after a call with ⟨locks, next⟩ | ⟨req, next, locks⟩ | ⟨id, next, locks⟩
  · rw [← next] at issued below
    rw [← locks] at below clear
    exact ⟨⟨issued.1, by omega⟩, below, clear⟩
  · have value := toInt_next issued.1 (by omega)
    refine ⟨?_, fun id entry found => ?_, fun i j early late foundI foundJ before heldI heldJ => ?_⟩
    · rw [next, value]
      omega
    · rw [locks] at found
      rw [next, value]
      by_cases new : id = a.nextLock + 1
      · rw [new, value]
      · rw [AList.lookup_insert_ne new] at found
        have := below id entry found
        omega
    · rw [locks] at foundI foundJ
      by_cases newI : i = a.nextLock + 1
      · -- nothing is issued after the lock that is issued now
        by_cases newJ : j = a.nextLock + 1
        · rw [newI, newJ] at before
          omega
        · rw [AList.lookup_insert_ne newJ] at foundJ
          have := below j late foundJ
          rw [newI, value] at before
          omega
      · rw [AList.lookup_insert_ne newI] at foundI
        by_cases newJ : j = a.nextLock + 1
        · rw [newJ, AList.lookup_insert] at foundJ
          cases foundJ
          exact clear_of_granted foundI heldI heldJ
        · rw [AList.lookup_insert_ne newJ] at foundJ
          exact clear i j early late foundI foundJ before heldI heldJ
  · have kept : ∀ k entry, (a.locks.erase id).lookup k = some entry →
        a.locks.lookup k = some entry := by
      intro k entry found
      by_cases same : k = id
      · rw [same, AList.lookup_erase] at found
        cases found
      · rwa [AList.lookup_erase_ne same] at found
    rw [← next] at issued below
    refine ⟨⟨issued.1, by omega⟩, fun k entry found => ?_, fun i j early late foundI foundJ => ?_⟩
    · rw [locks] at found
      exact below k entry (kept k entry found)
    · rw [locks] at foundI foundJ
      exact clear i j early late (kept i early foundI) (kept j late foundJ)

private theorem ranked_run {calls : List AcidCall} {n : Nat} {a : AcidState} (ranked : Ranked n a)
    (few : n + calls.length < 9223372036854775808) : Ranked (n + calls.length) (a.run calls) := by
  induction calls generalizing n a with
  | nil => exact ranked
  | cons call rest ih =>
    rw [List.length_cons] at few ⊢
    have first := ranked_after (by omega) ranked call
    have := ih first (by omega)
    rwa [Nat.add_assoc, Nat.add_comm 1] at this

private theorem ranked_newAcidState : Ranked 0 newAcidState := by
  refine ⟨⟨Int.le_refl 0, Int.le_refl 0⟩, fun id entry found => ?_, fun i j early late found => ?_⟩
  · simp [newAcidState] at found
  · simp [newAcidState] at found

/-- In every table that requests lead to, an acquired lock with an exclusive component
meets another acquired lock only in a component that is not exclusive and of a lock that was
issued before. -/
theorem acquired_exclusive_lock_meets_only_earlier_shared (calls : List AcidCall)
    (few : calls.length < 9223372036854775808) (i j : Int64) (ei ej : LockEntry)
    (foundI : (newAcidState.run calls).locks.lookup i = some ei)
    (foundJ : (newAcidState.run calls).locks.lookup j = some ej) (different : i ≠ j)
    (heldI : ei.state = .acquired) (heldJ : ej.state = .acquired)
    (existing : Wire.LockComponent) (inI : existing ∈ ei.components)
    (isExclusive : existing.type = exclusive) (comp : Wire.LockComponent) (inJ : comp ∈ ej.components)
    (meet : (covered existing ∩ covered comp).Nonempty) :
    j < i ∧ comp.type ≠ exclusive := by
  have ranked : Ranked (0 + calls.length) (newAcidState.run calls) :=
    ranked_run ranked_newAcidState (by omega)
  have overlaps := (lockOverlaps_iff_meet existing comp).mpr meet
  have apart : i.toInt ≠ j.toInt := fun same => different (Int64.toInt_inj.mp same)
  -- the exclusive component would have kept the later lock waiting
  have notFirst : ¬ i.toInt < j.toInt := by
    intro first
    have clear := ranked.clear i j ei ej foundI foundJ first heldI heldJ existing inI isExclusive
      comp inJ
    rw [clear] at overlaps
    cases overlaps
  refine ⟨Int64.lt_iff_toInt_lt.mpr (by omega), fun bothExclusive => ?_⟩
  have clear := ranked.clear j i ej ei foundJ foundI (by omega) heldJ heldI comp inJ bothExclusive
    existing inI
  rw [lockOverlaps_comm, clear] at overlaps
  cases overlaps

/-- An exclusive lock is acquired over a shared one that is held. -/
theorem exclusive_lock_acquired_over_shared :
    (1 : Int64) < 2 ∧ ∃ shared ∈ (lockOnTable 1).component, shared.type ≠ exclusive := by
  have met := acquired_exclusive_lock_meets_only_earlier_shared
    [.lock (lockOnTable 1), .lock (lockOnTable 3)] (by decide) 2 1
    ⟨(lockOnTable 3).component, .acquired⟩ ⟨(lockOnTable 1).component, .acquired⟩ (by decide)
    (by decide) (by decide) rfl rfl _ (.head _) rfl _ (.head _)
    ((lockOverlaps_iff_meet _ _).mp (by decide))
  exact ⟨met.1, _, .head _, met.2⟩

end HmsClient.Hmstest
