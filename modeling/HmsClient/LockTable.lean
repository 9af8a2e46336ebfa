import HmsClient.PartitionServer
import Mathlib.Data.List.Induction

/-! The transactions and locks of the fake metastore of `hmstest`. A lock request is
granted or queued as a whole, by the locks that are held when it arrives, and polling it
reports that decision: a queued lock stays queued after the locks in its way are gone. -/
namespace HmsClient.Hmstest

deriving instance DecidableEq for Wire.LockComponent, Wire.LockResponse

inductive TxnStatus where
  | opened
  | aborted
  deriving DecidableEq, Repr

/-- The states that this server gives a lock. -/
inductive LockState where
  | acquired
  | waiting
  deriving DecidableEq, Repr

def LockState.code : LockState → Int64
  | acquired => 1
  | waiting => 2

structure LockEntry where
  components : List Wire.LockComponent
  state : LockState
  deriving DecidableEq

/-- `acidState`. -/
structure AcidState where
  nextTxn : Int64
  nextLock : Int64
  txns : AList fun _ : Int64 => TxnStatus
  locks : AList fun _ : Int64 => LockEntry

def newAcidState : AcidState := ⟨0, 0, ∅, ∅⟩

/-- A declared exception, or an error that the server reports as an internal one. -/
inductive AcidError where
  | exception (exception : Thrown)
  | internal (message : Text)
  deriving DecidableEq

/-- The verb `%d`. -/
def decimal (id : Int64) : Text := text (toString id.toInt)

def noSuchTxn (id : Int64) : AcidError :=
  .exception ⟨.noSuchTxn, text "No such transaction " ++ decimal id⟩

def txnAborted (id : Int64) : AcidError :=
  .exception ⟨.txnAborted, text "Transaction " ++ decimal id ++ text " already aborted"⟩

def noSuchLock (id : Int64) : AcidError :=
  .exception ⟨.noSuchLock, text "No such lock " ++ decimal id⟩

/-- The next identifier, as long as the count fits. -/
theorem toInt_next {id : Int64} (counted : 0 ≤ id.toInt)
    (few : id.toInt + 1 < 9223372036854775808) : (id + 1).toInt = id.toInt + 1 := by
  have one : (1 : Int64).toInt = 1 := rfl
  rw [Int64.toInt_add, one]
  exact Int.bmod_eq_of_le (by omega) (by omega)

/-! ## Transactions -/

/-- The loop of `OpenTxns`. -/
def openLoop : Nat → AcidState → List Int64 × AcidState
  | 0, a => ([], a)
  | n + 1, a =>
    let id := a.nextTxn + 1
    let (ids, a) := openLoop n { a with nextTxn := id, txns := a.txns.insert id .opened }
    (id :: ids, a)

def openTxns (req : Wire.OpenTxnRequest) (a : AcidState) : List Int64 × AcidState :=
  let n := if req.numTxns < 1 then 1 else req.numTxns
  openLoop n.toInt.toNat a

def commitTxn (txnid : Int64) (a : AcidState) : Except AcidError AcidState :=
  match a.txns.lookup txnid with
  | none => .error (noSuchTxn txnid)
  | some .aborted => .error (txnAborted txnid)
  | some .opened => .ok { a with txns := a.txns.erase txnid }

def abortTxn (txnid : Int64) (a : AcidState) : Except AcidError AcidState :=
  match a.txns.lookup txnid with
  | none => .error (noSuchTxn txnid)
  | some _ => .ok { a with txns := a.txns.insert txnid .aborted }

def heartbeatTxn (txnid : Option Int64) (a : AcidState) : Except AcidError Unit :=
  match txnid with
  | none => .ok ()
  | some id =>
    match a.txns.lookup id with
    | none => .error (noSuchTxn id)
    | some .aborted => .error (txnAborted id)
    | some .opened => .ok ()

def heartbeatLock (lockid : Option Int64) (a : AcidState) : Except AcidError Unit :=
  match lockid with
  | none => .ok ()
  | some id => if (a.locks.lookup id).isNone then .error (noSuchLock id) else .ok ()

def heartbeat (req : Wire.HeartbeatRequest) (a : AcidState) : Except AcidError Unit := do
  heartbeatTxn req.txnid a
  heartbeatLock req.lockid a

/-! ## Locks -/

/-- `LockType_EXCLUSIVE`. -/
def exclusive : Int := 3

/-- `DataOperationType_UNSET`. -/
def operationUnset : Int := 5

def lockName (p : Option Text) : Text := p.getD []

/-- How many names a component's level compares: 1 is DB and 2 is TABLE. -/
def lockDepth (c : Wire.LockComponent) : Nat :=
  if c.level = 1 then 1 else if c.level = 2 then 2 else 3

def lockOverlaps (a b : Wire.LockComponent) : Bool :=
  if a.dbname ≠ b.dbname then false
  else
    let depth := min (lockDepth a) (lockDepth b)
    if 2 ≤ depth ∧ lockName a.tablename ≠ lockName b.tablename then false
    else if 3 ≤ depth ∧ lockName a.partitionname ≠ lockName b.partitionname then false
    else true

def hasExclusiveConflict (a : AcidState) (comp : Wire.LockComponent) : Bool :=
  a.locks.entries.any fun entry => entry.2.state = .acquired &&
    entry.2.components.any fun existing => existing.type = exclusive && lockOverlaps existing comp

/-- A component of a transaction's request names no operation. -/
def namesNoOperation (req : Wire.LockRequest) : Bool :=
  req.txnid.isSome && req.component.any fun comp => comp.operationType = operationUnset

/-- The state that a request gets, by the locks held when it arrives. -/
def stateFor (a : AcidState) (req : Wire.LockRequest) : LockState :=
  if req.component.any (hasExclusiveConflict a) then .waiting else .acquired

def lock (req : Wire.LockRequest) (a : AcidState) :
    Except AcidError (Wire.LockResponse × AcidState) :=
  if namesNoOperation req then
    .error (.internal (text "unexpected DataOperationType: UNSET agentInfo=" ++
      req.agentInfo ++ text " txnid:" ++ decimal (req.txnid.getD 0)))
  else
    let state := stateFor a req
    let id := a.nextLock + 1
    .ok (⟨id, state.code, none⟩,
      { a with nextLock := id, locks := a.locks.insert id ⟨req.component, state⟩ })

def checkLock (lockid : Int64) (a : AcidState) : Except AcidError Wire.LockResponse :=
  match a.locks.lookup lockid with
  | none => .error (noSuchLock lockid)
  | some entry => .ok ⟨lockid, entry.state.code, none⟩

def unlock (lockid : Int64) (a : AcidState) : Except AcidError AcidState :=
  match a.locks.lookup lockid with
  | none => .error (noSuchLock lockid)
  | some _ => .ok { a with locks := a.locks.erase lockid }

/-! ## Runs -/

inductive AcidCall where
  | openTxns (req : Wire.OpenTxnRequest)
  | commitTxn (txnid : Int64)
  | abortTxn (txnid : Int64)
  | heartbeat (req : Wire.HeartbeatRequest)
  | lock (req : Wire.LockRequest)
  | checkLock (lockid : Int64)
  | unlock (lockid : Int64)

/-- What a request leaves; one that fails leaves everything as it was. -/
def AcidState.after (a : AcidState) : AcidCall → AcidState
  | .openTxns req => (openTxns req a).2
  | .commitTxn txnid => (commitTxn txnid a).toOption.getD a
  | .abortTxn txnid => (abortTxn txnid a).toOption.getD a
  | .heartbeat _ => a
  | .lock req => ((lock req a).toOption.map Prod.snd).getD a
  | .checkLock _ => a
  | .unlock lockid => (unlock lockid a).toOption.getD a

/-- The table after a sequence of requests. -/
def AcidState.run (a : AcidState) (calls : List AcidCall) : AcidState := calls.foldl .after a

/-- The request gives the lock id `id` out or takes it back. -/
def AcidState.Touches (a : AcidState) (id : Int64) : AcidCall → Prop
  | .lock req => namesNoOperation req = false ∧ a.nextLock + 1 = id
  | .unlock lockid => lockid = id
  | _ => False

/-- None of the requests gives the lock id `id` out or takes it back. -/
def AcidState.Keeps (id : Int64) : AcidState → List AcidCall → Prop
  | _, [] => True
  | a, call :: rest => ¬ a.Touches id call ∧ Keeps id (a.after call) rest

/-- An acquired lock other than `id` has an exclusive component that overlaps one of
`entry`. -/
def AcidState.Blocks (a : AcidState) (id : Int64) (entry : LockEntry) : Prop :=
  ∃ other held, other ≠ id ∧ a.locks.lookup other = some held ∧ held.state = .acquired ∧
    ∃ existing ∈ held.components, existing.type = exclusive ∧
      ∃ comp ∈ entry.components, lockOverlaps existing comp = true

instance (a : AcidState) (id : Int64) (entry : LockEntry) : Decidable (a.Blocks id entry) :=
  decidable_of_iff (∃ lock ∈ a.locks.entries, lock.1 ≠ id ∧ lock.2.state = .acquired ∧
      ∃ existing ∈ lock.2.components, existing.type = exclusive ∧
        ∃ comp ∈ entry.components, lockOverlaps existing comp = true) <| by
    constructor
    · rintro ⟨⟨other, held⟩, listed, different, overlaps⟩
      exact ⟨other, held, different, AList.mem_lookup_iff.mpr listed, overlaps⟩
    · rintro ⟨other, held, different, found, overlaps⟩
      exact ⟨⟨other, held⟩, AList.mem_lookup_iff.mp found, different, overlaps⟩

/-- `id` was given out for `req` by the table `a`, and kept from then on. -/
structure IssuedAt (calls : List AcidCall) (id : Int64) (a : AcidState) (req : Wire.LockRequest) :
    Prop where
  history : ∃ before after, calls = before ++ .lock req :: after ∧ a = newAcidState.run before ∧
    AcidState.Keeps id (a.after (.lock req)) after
  accepted : namesNoOperation req = false
  issued : a.nextLock + 1 = id

theorem locks_openLoop (n : Nat) (a : AcidState) : (openLoop n a).2.locks = a.locks := by
  induction n generalizing a with
  | zero => rfl
  | succ n ih => exact ih _

variable {a : AcidState} {calls : List AcidCall}

/-- A request that does not touch a lock leaves its entry alone. -/
private theorem lookup_after {id : Int64} {call : AcidCall} (kept : ¬ a.Touches id call) :
    (a.after call).locks.lookup id = a.locks.lookup id := by
  cases call with
  | openTxns req => rw [AcidState.after, openTxns, locks_openLoop]
  | commitTxn txnid =>
    simp only [AcidState.after, commitTxn]
    split <;> rfl
  | abortTxn txnid =>
    simp only [AcidState.after, abortTxn]
    split <;> rfl
  | heartbeat req => rfl
  | checkLock lockid => rfl
  | lock req =>
    simp only [AcidState.after, lock]
    split
    · rfl
    · next accepted =>
      apply AList.lookup_insert_ne
      intro same
      exact kept ⟨by simpa using accepted, same.symm⟩
  | unlock lockid =>
    simp only [AcidState.after, unlock]
    split
    · rfl
    · apply AList.lookup_erase_ne
      intro same
      exact kept same.symm

/-- A run of such requests leaves the entry alone. -/
private theorem lookup_run {id : Int64} (kept : a.Keeps id calls) :
    (a.run calls).locks.lookup id = a.locks.lookup id := by
  induction calls generalizing a with
  | nil => rfl
  | cons call rest ih =>
    obtain ⟨first, later⟩ := kept
    exact (ih later).trans (lookup_after first)

/-- The entry of a lock is the one its request made. -/
private theorem lookup_issued {id : Int64} {req : Wire.LockRequest}
    (issued : IssuedAt calls id a req) :
    (newAcidState.run calls).locks.lookup id = some ⟨req.component, stateFor a req⟩ := by
  obtain ⟨⟨before, after, rfl, rfl, kept⟩, accepted, rfl⟩ := issued
  have run : newAcidState.run (before ++ .lock req :: after) =
      AcidState.run ((newAcidState.run before).after (.lock req)) after := by
    simp [AcidState.run]
  rw [run, lookup_run kept]
  simp [AcidState.after, lock, accepted, Except.toOption]

private theorem keeps_append {id : Int64} {call : AcidCall} (kept : a.Keeps id calls)
    (last : ¬ (a.run calls).Touches id call) : a.Keeps id (calls ++ [call]) := by
  induction calls generalizing a with
  | nil => exact ⟨last, trivial⟩
  | cons first rest ih => exact ⟨kept.1, ih kept.2 last⟩

private theorem run_append (a : AcidState) (calls : List AcidCall) (call : AcidCall) :
    a.run (calls ++ [call]) = (a.run calls).after call := by
  simp [AcidState.run]

/-- Every lock in the table was given out by a request of the run. -/
theorem exists_issued (calls : List AcidCall) (id : Int64) {entry : LockEntry}
    (registered : (newAcidState.run calls).locks.lookup id = some entry) :
    ∃ a req, IssuedAt calls id a req := by
  induction calls using List.reverseRecOn with
  | nil => simp [AcidState.run, newAcidState] at registered
  | append_singleton calls call ih =>
    rw [run_append] at registered
    by_cases touched : (newAcidState.run calls).Touches id call
    · cases call with
      | lock req => exact ⟨_, req, ⟨calls, [], rfl, rfl, trivial⟩, touched.1, touched.2⟩
      | unlock lockid =>
        subst touched
        simp only [AcidState.after, unlock] at registered
        split at registered
        · next missing =>
          rw [show (Except.error _ : Except AcidError AcidState).toOption = none from rfl,
            Option.getD_none, missing] at registered
          cases registered
        · simp [Except.toOption] at registered
      | _ => exact touched.elim
    · rw [lookup_after touched] at registered
      obtain ⟨a, req, ⟨before, after, rfl, rfl, kept⟩, accepted, issued⟩ := ih registered
      refine ⟨_, req, ⟨before, after ++ [call], by simp, rfl, keeps_append kept ?_⟩, accepted,
        issued⟩
      simpa [AcidState.run] using touched

/-- A queued lock is reported as queued for good, whatever else is requested. -/
theorem checkLock_waiting_forever {id : Int64} {entry : LockEntry}
    (registered : a.locks.lookup id = some entry) (queued : entry.state = .waiting)
    (calls : List AcidCall) (kept : a.Keeps id calls) :
    checkLock id (a.run calls) = .ok ⟨id, LockState.waiting.code, none⟩ := by
  rw [checkLock, lookup_run kept, registered]
  simp only [queued]

theorem stateFor_acquired_iff (a : AcidState) (req : Wire.LockRequest) :
    stateFor a req = .acquired ↔ ∀ comp ∈ req.component, hasExclusiveConflict a comp = false := by
  unfold stateFor
  split <;> simp_all

private theorem code_acquired_iff (state : LockState) :
    state.code = LockState.acquired.code ↔ state = .acquired := by
  cases state <;> decide

/-- In every table that requests can lead to and for every lock in it: that polling
reports the lock acquired when nothing blocks it comes to this, that it is still blocked
or was not when it was requested. -/
theorem polling_obtains_lock_iff (calls : List AcidCall) (id : Int64) (entry : LockEntry)
    (registered : (newAcidState.run calls).locks.lookup id = some entry) :
    (¬ (newAcidState.run calls).Blocks id entry →
        checkLock id (newAcidState.run calls) = .ok ⟨id, LockState.acquired.code, none⟩) ↔
      (newAcidState.run calls).Blocks id entry ∨
        ∃ a req, IssuedAt calls id a req ∧
          ∀ comp ∈ req.component, hasExclusiveConflict a comp = false := by
  have reported : checkLock id (newAcidState.run calls) =
      .ok ⟨id, LockState.acquired.code, none⟩ ↔ entry.state = .acquired := by
    rw [checkLock, registered]
    simp [code_acquired_iff]
  have granted : entry.state = .acquired ↔ ∃ a req, IssuedAt calls id a req ∧
      ∀ comp ∈ req.component, hasExclusiveConflict a comp = false := by
    constructor
    · intro acquired
      obtain ⟨a, req, issued⟩ := exists_issued calls id registered
      have made := lookup_issued issued
      rw [registered] at made
      cases made
      exact ⟨a, req, issued, (stateFor_acquired_iff a req).mp acquired⟩
    · rintro ⟨a, req, issued, clear⟩
      have made := lookup_issued issued
      rw [registered] at made
      cases made
      exact (stateFor_acquired_iff a req).mpr clear
  rw [reported, ← granted, or_iff_not_imp_left]

/-- An exclusive or shared-read lock on one table. -/
def lockOnTable (type : Int) : Wire.LockRequest :=
  { component := [⟨type, 2, [100], some [116], none, 6⟩]
    txnid := none
    user := []
    hostname := []
    agentInfo := unknownAgent }

/-- A shared lock on "t" waits for an exclusive one. That one is released, a third lock takes
its place, and a fourth is exclusive on another table. -/
def lockCourse : List AcidCall :=
  [.openTxns ⟨2, [], [], unknownAgent⟩, .lock (lockOnTable 3), .lock (lockOnTable 1), .unlock 1,
    .lock (lockOnTable 1),
    .lock { lockOnTable 3 with component := [⟨3, 2, [100], some [117], none, 6⟩] }]

/-- The third lock is reported acquired, and the second neither is nor ever was free. -/
theorem polling_obtains_free_lock :
    (∃ entry, (newAcidState.run lockCourse).locks.lookup 3 = some entry ∧
      ¬ (newAcidState.run lockCourse).Blocks 3 entry ∧
      checkLock 3 (newAcidState.run lockCourse) = .ok ⟨3, LockState.acquired.code, none⟩) ∧
    ∃ entry, (newAcidState.run lockCourse).locks.lookup 2 = some entry ∧
      ¬ ((newAcidState.run lockCourse).Blocks 2 entry ∨
        ∃ a req, IssuedAt lockCourse 2 a req ∧
          ∀ comp ∈ req.component, hasExclusiveConflict a comp = false) := by
  constructor
  · have issued : IssuedAt lockCourse 3 (newAcidState.run (lockCourse.take 4)) (lockOnTable 1) := by
      refine ⟨⟨lockCourse.take 4, lockCourse.drop 5, rfl, rfl, fun again => ?_, trivial⟩, rfl,
        by decide⟩
      exact absurd again.2 (by decide)
    have unblocked : ¬ (newAcidState.run lockCourse).Blocks 3
        ⟨(lockOnTable 1).component, .acquired⟩ := by decide
    have obtained := (polling_obtains_lock_iff lockCourse 3
      ⟨(lockOnTable 1).component, .acquired⟩ (by decide)).mpr (.inr ⟨_, _, issued, by decide⟩)
    exact ⟨_, by decide, unblocked, obtained unblocked⟩
  · refine ⟨⟨(lockOnTable 1).component, .waiting⟩, by decide, fun free => ?_⟩
    have obtained := (polling_obtains_lock_iff lockCourse 2
      ⟨(lockOnTable 1).component, .waiting⟩ (by decide)).mpr free (by decide)
    exact absurd obtained (by decide)

/-- The lock 2 waits for the lock 1. Once 1 is released nothing blocks it, and it is still
reported as waiting, whatever else is requested afterwards. -/
theorem polling_never_obtains_queued_lock :
    ∃ calls entry, (newAcidState.run calls).locks.lookup 2 = some entry ∧
      ¬ (newAcidState.run calls).Blocks 2 entry ∧
      checkLock 2 (newAcidState.run calls) = .ok ⟨2, LockState.waiting.code, none⟩ ∧
      ∀ later, (newAcidState.run calls).Keeps 2 later →
        checkLock 2 ((newAcidState.run calls).run later) =
          .ok ⟨2, LockState.waiting.code, none⟩ := by
  have registered : (newAcidState.run [.lock (lockOnTable 3), .lock (lockOnTable 1),
      .unlock 1]).locks.lookup 2 = some ⟨(lockOnTable 1).component, .waiting⟩ := by decide
  exact ⟨_, _, registered, by decide, by decide, checkLock_waiting_forever registered rfl⟩

end HmsClient.Hmstest
