import HmsClient.ClientRuns

/-! The client's methods for transactions and locks against the fake metastore, as a ledger:
an identifier is unborn until it is given out, and ends once. What a method returns is told
by the ledger alone, over whole runs and on every version of the server; a method that
checks its arguments fails without a request. -/
namespace HmsClient.Hmstest
open PeerScript

/-! ## The client's methods -/

inductive AcidMethod where
  | openTransaction (user host : Text)
  | commitTransaction (txnID : Int64)
  | abortTransaction (txnID : Int64)
  | heartbeat (txnID lockID : Int64)
  | lock (req : LockRequest)
  | checkLock (lockID : Int64)
  | unlock (lockID : Int64)

/-- What `call` gets to run. -/
abbrev AcidMethod.operation : AcidMethod → Operation
  | .openTransaction user host => .openTransaction user host
  | .commitTransaction txnID => .commitTransaction txnID
  | .abortTransaction txnID => .abortTransaction txnID
  | .heartbeat txnID lockID => .heartbeat txnID lockID
  | .lock req => .lock req
  | .checkLock lockID => .checkLock lockID
  | .unlock lockID => .unlock lockID

/-- `checkID`, with the error that it returns. -/
def checkID (op name : String) (id : Int64) : Option Err :=
  if id < 0 then
    some (wrapAs op .errInvalidOperation (.leaf (.other
      ("hms: " ++ name ++ " must not be negative, got " ++ toString id.toInt))))
  else none

/-- The error that a method returns before it makes a request. -/
def AcidMethod.refusal : AcidMethod → Option Err
  | .openTransaction _ _ => none
  | .commitTransaction txnID => checkID "commit_txn" "txnID" txnID
  | .abortTransaction txnID => checkID "abort_txn" "txnID" txnID
  | .heartbeat txnID lockID =>
    checkID "heartbeat" "txnID" txnID <|> checkID "heartbeat" "lockID" lockID <|>
      if txnID = 0 ∧ lockID = 0 then
        some (wrapAs "heartbeat" .errInvalidOperation (.leaf (.other
          "hms: txnID and lockID are both 0; nothing to heartbeat")))
      else none
  | .lock req => checkID "lock" "TxnID" req.txnID
  | .checkLock lockID => checkID "check_lock" "lockID" lockID
  | .unlock lockID => checkID "unlock" "lockID" lockID

/-- A client's call of a method, and the connection that it runs on. -/
structure AcidStep where
  cfg : Config
  method : AcidMethod
  session : Session method.operation.Captured

def AcidStep.run (setup : Setup) (step : AcidStep) (b : Backend) :
    (Except Err Unit × Session step.method.operation.Captured) × Backend :=
  match step.method.refusal with
  | some err => ((.error err, step.session), b)
  | none => (step.method.operation.closure step.cfg step.session).ends setup.serve b

/-- The server after calls of any clients, in the order that it served them. -/
def afterCalls (setup : Setup) (steps : List AcidStep) (b : Backend) : Backend :=
  steps.foldl (fun b step => (step.run setup b).2) b

/-! ## The ledger -/

inductive TxnFate where
  | unborn
  | opened
  | committed
  | aborted
  deriving DecidableEq

inductive LockFate where
  | unborn
  | held
  | released
  deriving DecidableEq

/-- What has become of every identifier, and how many have been given out. -/
structure Ledger where
  opens : Nat
  txns : Int64 → TxnFate
  grants : Nat
  locks : Int64 → LockFate

def newLedger : Ledger := ⟨0, fun _ => .unborn, 0, fun _ => .unborn⟩

def TxnFate.heartbeat : TxnFate → Except Sentinel Unit
  | .opened => .ok ()
  | .aborted => .error .errInvalidOperation
  | .unborn | .committed => .error .errNotFound

def LockFate.heartbeat : LockFate → Except Sentinel Unit
  | .held => .ok ()
  | .unborn | .released => .error .errNotFound

/-- Whether a transaction is open, where 0 names none. -/
def Ledger.heartbeatTxn (l : Ledger) (id : Int64) : Except Sentinel Unit :=
  if id ≠ 0 then (l.txns id).heartbeat else .ok ()

def Ledger.heartbeatLock (l : Ledger) (id : Int64) : Except Sentinel Unit :=
  if id ≠ 0 then (l.locks id).heartbeat else .ok ()

/-- The outcome of a method, and the ledger afterwards. -/
def Ledger.tell (l : Ledger) : AcidMethod → Except Sentinel Unit × Ledger
  | .openTransaction _ _ =>
    (.ok (), { l with
      opens := l.opens + 1
      txns := Function.update l.txns (.ofNat (l.opens + 1)) .opened })
  | .commitTransaction id =>
    if id < 0 then (.error .errInvalidOperation, l)
    else
      match l.txns id with
      | .opened => (.ok (), { l with txns := Function.update l.txns id .committed })
      | .aborted => (.error .errInvalidOperation, l)
      | .unborn | .committed => (.error .errNotFound, l)
  | .abortTransaction id =>
    if id < 0 then (.error .errInvalidOperation, l)
    else
      match l.txns id with
      | .opened | .aborted => (.ok (), { l with txns := Function.update l.txns id .aborted })
      | .unborn | .committed => (.error .errNotFound, l)
  | .heartbeat txnID lockID =>
    if txnID < 0 ∨ lockID < 0 ∨ txnID = 0 ∧ lockID = 0 then (.error .errInvalidOperation, l)
    else
      (do l.heartbeatTxn txnID; l.heartbeatLock lockID, l)
  | .lock req =>
    if req.txnID < 0 then (.error .errInvalidOperation, l)
    else
      (.ok (), { l with
        grants := l.grants + 1
        locks := Function.update l.locks (.ofNat (l.grants + 1)) .held })
  | .checkLock id =>
    (if id < 0 then .error .errInvalidOperation else (l.locks id).heartbeat, l)
  | .unlock id =>
    if id < 0 then (.error .errInvalidOperation, l)
    else
      match l.locks id with
      | .held => (.ok (), { l with locks := Function.update l.locks id .released })
      | .unborn | .released => (.error .errNotFound, l)

/-- The ledger after a run of methods. -/
def Ledger.after (l : Ledger) (methods : List AcidMethod) : Ledger :=
  methods.foldl (fun l method => (l.tell method).2) l

/-- What a method returns besides: identifiers that were never given out before, and locks
by their identifiers. -/
def Ledger.Returns (l : Ledger) : (method : AcidMethod) → method.operation.Captured → Prop
  | .openTransaction _ _, id => id.toInt = l.opens + 1 ∧ l.txns id = .unborn
  | .lock _, resp => resp.lockID.toInt = l.grants + 1 ∧ l.locks resp.lockID = .unborn
  | .checkLock lockID, resp => resp.lockID = lockID
  | _, _ => True

/-! ## One call -/

def TxnFate.status : TxnFate → Option TxnStatus
  | .opened => some .opened
  | .aborted => some .aborted
  | .unborn | .committed => none

/-- The server's table agrees with the ledger; what comes after the last identifier is
unborn. -/
structure Keeps (a : AcidState) (l : Ledger) : Prop where
  opens : a.nextTxn.toInt = l.opens
  grants : a.nextLock.toInt = l.grants
  txns : ∀ id, a.txns.lookup id = (l.txns id).status
  locks : ∀ id, (a.locks.lookup id).isSome = decide (l.locks id = .held)
  newTxns : ∀ id : Int64, l.opens < id.toInt → l.txns id = .unborn
  newLocks : ∀ id : Int64, l.grants < id.toInt → l.locks id = .unborn

section Calls
variable {setup : Setup} {b : Backend} {l : Ledger}

private theorem next_eq_ofNat {id : Int64} {n : Nat} (counted : id.toInt = n)
    (few : n + 1 < 9223372036854775808) : id + 1 = Int64.ofNat (n + 1) := by
  apply Int64.toInt_inj.mp
  rw [toInt_next (by omega) (by omega), counted, Int64.toInt_ofNat_of_lt few]
  rfl

section Tables
variable {txns : AList fun _ : Int64 => TxnStatus} {fates : Int64 → TxnFate}
  {locks : AList fun _ : Int64 => LockEntry} {lockFates : Int64 → LockFate}

private theorem lookup_insert_fate (same : ∀ id, txns.lookup id = (fates id).status) (k : Int64)
    {st : TxnStatus} {fate : TxnFate} (stored : fate.status = some st) (id : Int64) :
    (txns.insert k st).lookup id = (Function.update fates k fate id).status := by
  by_cases here : id = k
  · rw [here, AList.lookup_insert, Function.update_self, stored]
  · rw [AList.lookup_insert_ne here, Function.update_of_ne here, same]

private theorem lookup_erase_fate (same : ∀ id, txns.lookup id = (fates id).status) (k : Int64)
    {fate : TxnFate} (gone : fate.status = none) (id : Int64) :
    (txns.erase k).lookup id = (Function.update fates k fate id).status := by
  by_cases here : id = k
  · rw [here, AList.lookup_erase, Function.update_self, gone]
  · rw [AList.lookup_erase_ne here, Function.update_of_ne here, same]

private theorem held_insert (same : ∀ id, (locks.lookup id).isSome = decide (lockFates id = .held))
    (k : Int64) (entry : LockEntry) (id : Int64) :
    ((locks.insert k entry).lookup id).isSome =
      decide (Function.update lockFates k .held id = .held) := by
  by_cases here : id = k
  · rw [here, AList.lookup_insert, Function.update_self]
    rfl
  · rw [AList.lookup_insert_ne here, Function.update_of_ne here, same]

private theorem held_erase (same : ∀ id, (locks.lookup id).isSome = decide (lockFates id = .held))
    (k : Int64) (id : Int64) :
    ((locks.erase k).lookup id).isSome =
      decide (Function.update lockFates k .released id = .held) := by
  by_cases here : id = k
  · rw [here, AList.lookup_erase, Function.update_self]
    rfl
  · rw [AList.lookup_erase_ne here, Function.update_of_ne here, same]

/-- What is beyond the last identifier stays as it is. -/
private theorem unborn_update {F : Type} {f : Int64 → F} {unborn x : F} {n m : Nat}
    (beyond : ∀ id : Int64, n < id.toInt → f id = unborn) {k : Int64} (within : k.toInt ≤ m)
    (grown : n ≤ m) : ∀ id : Int64, m < id.toInt → Function.update f k x id = unborn := by
  intro id later
  have other : id ≠ k := by
    rintro rfl
    omega
  rw [Function.update_of_ne other]
  exact beyond id (by omega)

end Tables

/-- An identifier that something has become of was given out. -/
private theorem txn_within (keeps : Keeps b.acid l) {id : Int64} (born : l.txns id ≠ .unborn) :
    id.toInt ≤ l.opens := by
  by_contra beyond
  exact born (keeps.newTxns id (by omega))

private theorem lock_within (keeps : Keeps b.acid l) {id : Int64} (born : l.locks id ≠ .unborn) :
    id.toInt ≤ l.grants := by
  by_contra beyond
  exact born (keeps.newLocks id (by omega))

/-- How a call ends: as the ledger tells, with the ledger kept. -/
private structure Booked (l : Ledger) (method : AcidMethod)
    (ended : (Except Err Unit × Session method.operation.Captured) × Backend) : Prop where
  outcome : ended.1.1.mapError classify = (l.tell method).1
  returns : ended.1.1 = .ok () → l.Returns method ended.1.2.captured
  kept : Keeps ended.2.acid (l.tell method).2

private theorem booked_failed (keeps : Keeps b.acid l) {method : AcidMethod}
    {s : Session method.operation.Captured} {b' : Backend} {err : Err}
    (told : l.tell method = (.error (classify err), l)) (same : b'.acid = b.acid) :
    Booked l method ((.error err, s), b') := by
  refine ⟨?_, fun failed => ?_, ?_⟩
  · rw [told]
    rfl
  · cases failed
  · rw [told, same]
    exact keeps

/-- The server's answer to a request about transactions and locks. -/
private theorem acid_ends (complete : setup.without = []) (call : Call) (name : String)
    (named : method call = name)
    (everywhere : name ∉ removedRPCs .hive23 ∧ name ∉ removedRPCs .hive31)
    {handled : Except AcidError (call.Reply × AcidState)}
    (answers : setup.handle b call = b.acidAnswer handled) {κ : Type} (s : Session κ) :
    (rpc call s).ends setup.serve b =
      (((b.acidAnswer handled).1.mapError RpcErr.err, s),
        { (b.acidAnswer handled).2 with handled := b.handled + 1 }) := by
  rw [rpc_ends, serve_present complete name named everywhere, answers]

variable {txnID lockID : Int64}

private theorem commit_booked (complete : setup.without = []) (keeps : Keeps b.acid l)
    (given : ¬ txnID < 0) (s : Session Unit) :
    Booked l (.commitTransaction txnID)
      ((HmsClient.commitTransaction txnID s).ends setup.serve b) := by
  have ended := acid_ends (b := b) complete (.commitTxn txnID) "commit_txn" rfl (by decide) rfl s
  rw [HmsClient.commitTransaction, ended]
  have looked := keeps.txns txnID
  have told : l.tell (.commitTransaction txnID) = _ := if_neg given
  cases fate : l.txns txnID with
  | unborn | committed =>
    rw [fate] at looked told
    have answered : commitTxn txnID b.acid = .error (noSuchTxn txnID) := by
      rw [commitTxn, looked]
      rfl
    rw [answered]
    exact booked_failed keeps told rfl
  | aborted =>
    rw [fate] at looked told
    have answered : commitTxn txnID b.acid = .error (txnAborted txnID) := by
      rw [commitTxn, looked]
      rfl
    rw [answered]
    exact booked_failed keeps told rfl
  | opened =>
    rw [fate] at looked told
    have answered : commitTxn txnID b.acid =
        .ok { b.acid with txns := b.acid.txns.erase txnID } := by
      rw [commitTxn, looked]
      rfl
    rw [answered]
    refine ⟨by rw [told]; rfl, fun _ => trivial, ?_⟩
    rw [told]
    exact ⟨keeps.opens, keeps.grants, lookup_erase_fate keeps.txns txnID rfl, keeps.locks,
      unborn_update keeps.newTxns (txn_within keeps (by rw [fate]; decide)) (Nat.le_refl _),
      keeps.newLocks⟩

private theorem abort_booked (complete : setup.without = []) (keeps : Keeps b.acid l)
    (given : ¬ txnID < 0) (s : Session Unit) :
    Booked l (.abortTransaction txnID)
      ((HmsClient.abortTransaction txnID s).ends setup.serve b) := by
  have ended := acid_ends (b := b) complete (.abortTxn txnID) "abort_txn" rfl (by decide) rfl s
  rw [HmsClient.abortTransaction, ended]
  have looked := keeps.txns txnID
  have told : l.tell (.abortTransaction txnID) = _ := if_neg given
  cases fate : l.txns txnID with
  | unborn | committed =>
    rw [fate] at looked told
    have answered : abortTxn txnID b.acid = .error (noSuchTxn txnID) := by
      rw [abortTxn, looked]
      rfl
    rw [answered]
    exact booked_failed keeps told rfl
  | opened | aborted =>
    rw [fate] at looked told
    have answered : abortTxn txnID b.acid =
        .ok { b.acid with txns := b.acid.txns.insert txnID .aborted } := by
      rw [abortTxn, looked]
      rfl
    rw [answered]
    refine ⟨by rw [told]; rfl, fun _ => trivial, ?_⟩
    rw [told]
    exact ⟨keeps.opens, keeps.grants, lookup_insert_fate keeps.txns txnID rfl, keeps.locks,
      unborn_update keeps.newTxns (txn_within keeps (by rw [fate]; decide)) (Nat.le_refl _),
      keeps.newLocks⟩

private theorem open_booked (complete : setup.without = []) (keeps : Keeps b.acid l)
    (few : l.opens + 1 < 9223372036854775808) (user host : Text) (s : Session Int64) :
    Booked l (.openTransaction user host)
      ((HmsClient.openTransaction user host s).ends setup.serve b) := by
  have asked : (rpc (.openTxns ⟨1, user, host, agentInfo⟩) s).ends setup.serve b =
      ((.ok (some [b.acid.nextTxn + 1]), s),
        { b with
          acid := { b.acid with
            nextTxn := b.acid.nextTxn + 1
            txns := b.acid.txns.insert (b.acid.nextTxn + 1) .opened }
          handled := b.handled + 1 }) := by
    rw [rpc_ends, serve_present complete "open_txns" rfl (by decide)]
    rfl
  have opened := keeps.opens
  have next : (b.acid.nextTxn + 1).toInt = l.opens + 1 := by
    rw [toInt_next (by omega) (by omega), opened]
  have new : l.txns (b.acid.nextTxn + 1) = .unborn := keeps.newTxns _ (by omega)
  have ran : (HmsClient.openTransaction user host s).ends setup.serve b =
      ((.ok (), { s with captured := b.acid.nextTxn + 1 }), _) := (ends_then asked).trans rfl
  rw [ran]
  refine ⟨rfl, fun _ => ⟨next, new⟩, ?_⟩
  rw [Ledger.tell, ← next_eq_ofNat keeps.opens few]
  exact ⟨next, keeps.grants, lookup_insert_fate keeps.txns _ rfl, keeps.locks,
    unborn_update keeps.newTxns (Int.le_of_eq next) (Nat.le_succ _), keeps.newLocks⟩

/-- The client names an operation for every component. -/
private theorem lock_answered (req : LockRequest) (a : AcidState) :
    Hmstest.lock (newLockRequest req) a =
      .ok (⟨a.nextLock + 1, (stateFor a (newLockRequest req)).code, none⟩,
        { a with
          nextLock := a.nextLock + 1
          locks := a.locks.insert (a.nextLock + 1)
            ⟨(newLockRequest req).component, stateFor a (newLockRequest req)⟩ }) := by
  have operation : ∀ t, lockOperationType t ≠ operationUnset := by
    intro t
    unfold lockOperationType operationUnset
    split_ifs <;> decide
  have named : namesNoOperation (newLockRequest req) = false := by
    simp [namesNoOperation, newLockRequest, newLockComponent, operation]
  rw [Hmstest.lock, named]
  rfl

private theorem lock_booked (complete : setup.without = []) (keeps : Keeps b.acid l)
    (few : l.grants + 1 < 9223372036854775808) {req : LockRequest} (given : ¬ req.txnID < 0)
    (s : Session LockResponse) :
    Booked l (.lock req) ((HmsClient.lock req s).ends setup.serve b) := by
  have ended := acid_ends (b := b) complete (.lock (newLockRequest req)) "lock" rfl (by decide) rfl s
  rw [lock_answered] at ended
  have granted := keeps.grants
  have next : (b.acid.nextLock + 1).toInt = l.grants + 1 := by
    rw [toInt_next (by omega) (by omega), granted]
  have new : l.locks (b.acid.nextLock + 1) = .unborn := keeps.newLocks _ (by omega)
  have told : l.tell (.lock req) = _ := if_neg given
  have ran : (HmsClient.lock req s).ends setup.serve b =
      ((.ok (), { s with captured :=
        lockResponseFromThrift ⟨_, (stateFor b.acid (newLockRequest req)).code, none⟩ }), _) :=
    (ends_then ended).trans rfl
  rw [ran]
  refine ⟨by rw [told]; rfl, fun _ => ⟨next, new⟩, ?_⟩
  rw [told, ← next_eq_ofNat keeps.grants few]
  exact ⟨keeps.opens, next, keeps.txns, held_insert keeps.locks _ _, keeps.newTxns,
    unborn_update keeps.newLocks (Int.le_of_eq next) (Nat.le_succ _)⟩

/-- A lock is in the table exactly while it is held. -/
private theorem lookup_lock (keeps : Keeps b.acid l) (id : Int64) :
    (∃ entry, b.acid.locks.lookup id = some entry ∧ l.locks id = .held) ∨
      (b.acid.locks.lookup id = none ∧ (l.locks id = .unborn ∨ l.locks id = .released)) := by
  have there := keeps.locks id
  cases fate : l.locks id with
  | held =>
    rw [fate] at there
    obtain ⟨entry, found⟩ := Option.isSome_iff_exists.mp there
    exact .inl ⟨entry, found, rfl⟩
  | unborn =>
    rw [fate] at there
    exact .inr ⟨Option.not_isSome_iff_eq_none.mp (by rw [there]; decide), .inl rfl⟩
  | released =>
    rw [fate] at there
    exact .inr ⟨Option.not_isSome_iff_eq_none.mp (by rw [there]; decide), .inr rfl⟩

private theorem checkLock_booked (complete : setup.without = []) (keeps : Keeps b.acid l)
    (given : ¬ lockID < 0) (s : Session LockResponse) :
    Booked l (.checkLock lockID) ((HmsClient.checkLock lockID s).ends setup.serve b) := by
  have ended := acid_ends (b := b) complete (.checkLock lockID) "check_lock" rfl (by decide) rfl s
  have told : l.tell (.checkLock lockID) = ((l.locks lockID).heartbeat, l) := by
    rw [Ledger.tell, if_neg given]
  rcases lookup_lock keeps lockID with ⟨entry, found, held⟩ | ⟨missing, gone⟩
  · have answered : Hmstest.checkLock lockID b.acid = .ok ⟨lockID, entry.state.code, none⟩ := by
      rw [Hmstest.checkLock, found]
    rw [answered] at ended
    have ran : (HmsClient.checkLock lockID s).ends setup.serve b =
        ((.ok (), { s with captured :=
          lockResponseFromThrift ⟨lockID, entry.state.code, none⟩ }), _) :=
      (ends_then ended).trans rfl
    rw [ran]
    rw [held] at told
    refine ⟨by rw [told]; rfl, fun _ => rfl, ?_⟩
    rw [told]
    exact keeps
  · have answered : Hmstest.checkLock lockID b.acid = .error (noSuchLock lockID) := by
      rw [Hmstest.checkLock, missing]
    rw [answered] at ended
    have ran : (HmsClient.checkLock lockID s).ends setup.serve b =
        ((.error (thrown .noSuchLock).err, s), _) := ends_failed ended
    rw [ran]
    refine booked_failed keeps ?_ rfl
    rcases gone with unborn | released
    · rw [told, unborn]
      rfl
    · rw [told, released]
      rfl

private theorem unlock_booked (complete : setup.without = []) (keeps : Keeps b.acid l)
    (given : ¬ lockID < 0) (s : Session Unit) :
    Booked l (.unlock lockID) ((HmsClient.unlock lockID s).ends setup.serve b) := by
  have ended := acid_ends (b := b) complete (.unlock lockID) "unlock" rfl (by decide) rfl s
  have told : l.tell (.unlock lockID) = _ := if_neg given
  rw [HmsClient.unlock, ended]
  rcases lookup_lock keeps lockID with ⟨entry, found, held⟩ | ⟨missing, gone⟩
  · have answered : Hmstest.unlock lockID b.acid =
        .ok { b.acid with locks := b.acid.locks.erase lockID } := by
      rw [Hmstest.unlock, found]
    rw [answered]
    rw [held] at told
    refine ⟨by rw [told]; rfl, fun _ => trivial, ?_⟩
    rw [told]
    exact ⟨keeps.opens, keeps.grants, keeps.txns, held_erase keeps.locks lockID, keeps.newTxns,
      unborn_update keeps.newLocks (lock_within keeps (by rw [held]; decide)) (Nat.le_refl _)⟩
  · have answered : Hmstest.unlock lockID b.acid = .error (noSuchLock lockID) := by
      rw [Hmstest.unlock, missing]
    rw [answered]
    refine booked_failed keeps ?_ rfl
    rcases gone with unborn | released
    · rw [told, unborn]
      rfl
    · rw [told, released]
      rfl

/-- The sentinel that the client's error of a failed request wraps. -/
private def sentinelOf (e : AcidError) : Sentinel := classify e.toRpcErr.err

private theorem heartbeatTxn_told (keeps : Keeps b.acid l) (id : Int64) :
    (heartbeatTxn (if id ≠ 0 then some id else none) b.acid).mapError sentinelOf =
      l.heartbeatTxn id := by
  unfold Ledger.heartbeatTxn
  by_cases named : id ≠ 0
  · have looked := keeps.txns id
    rw [if_pos named, if_pos named]
    cases fate : l.txns id with
    | unborn | opened | committed | aborted =>
      rw [fate] at looked
      rw [heartbeatTxn, looked]
      rfl
  · rw [if_neg named, if_neg named]
    rfl

private theorem heartbeatLock_told (keeps : Keeps b.acid l) (id : Int64) :
    (heartbeatLock (if id ≠ 0 then some id else none) b.acid).mapError sentinelOf =
      l.heartbeatLock id := by
  unfold Ledger.heartbeatLock
  by_cases named : id ≠ 0
  · rw [if_pos named, if_pos named, heartbeatLock]
    rcases lookup_lock keeps id with ⟨entry, found, held⟩ | ⟨missing, unborn | released⟩
    · rw [found, held]
      rfl
    · rw [missing, unborn]
      rfl
    · rw [missing, released]
      rfl
  · rw [if_neg named, if_neg named]
    rfl

private theorem heartbeat_booked (complete : setup.without = []) (keeps : Keeps b.acid l)
    (given : ¬ (txnID < 0 ∨ lockID < 0 ∨ txnID = 0 ∧ lockID = 0)) (s : Session Unit) :
    Booked l (.heartbeat txnID lockID)
      ((HmsClient.heartbeat txnID lockID s).ends setup.serve b) := by
  have ended := acid_ends (b := b) complete
    (.heartbeat
      { txnid := if txnID ≠ 0 then some txnID else none
        lockid := if lockID ≠ 0 then some lockID else none })
    "heartbeat" rfl (by decide) rfl s
  have told : l.tell (.heartbeat txnID lockID) = _ := if_neg given
  rw [HmsClient.heartbeat, ended, Hmstest.heartbeat]
  rw [← heartbeatTxn_told keeps, ← heartbeatLock_told keeps] at told
  cases txn : heartbeatTxn (if txnID ≠ 0 then some txnID else none) b.acid with
  | error e =>
    rw [txn] at told
    exact booked_failed keeps told rfl
  | ok _ =>
    cases lock : heartbeatLock (if lockID ≠ 0 then some lockID else none) b.acid with
    | error e =>
      rw [txn, lock] at told
      exact booked_failed keeps told rfl
    | ok _ =>
      rw [txn, lock] at told
      refine ⟨by rw [told]; rfl, fun _ => trivial, ?_⟩
      rw [told]
      exact keeps

/-- A method refuses its arguments as an invalid operation. -/
private abbrev Refuses (method : AcidMethod) : Prop :=
  ∃ err, method.refusal = some err ∧ classify err = .errInvalidOperation

private theorem refuses_negative {method : AcidMethod} {op name : String} {id : Int64}
    (checked : method.refusal = checkID op name id) (negative : id < 0) : Refuses method := by
  rw [Refuses, checked, checkID, if_pos negative]
  exact ⟨_, rfl, rfl⟩

private theorem takes_others {method : AcidMethod} {op name : String} {id : Int64}
    (checked : method.refusal = checkID op name id) (given : ¬ id < 0) :
    method.refusal = none := by
  rw [checked, checkID, if_neg given]

/-- A call that is refused leaves the server as it was. -/
private theorem refused_booked (keeps : Keeps b.acid l) {cfg : Config} {method : AcidMethod}
    {s : Session method.operation.Captured} (refuses : Refuses method)
    (told : l.tell method = (.error .errInvalidOperation, l)) :
    Booked l method ((⟨cfg, method, s⟩ : AcidStep).run setup b) := by
  obtain ⟨err, refused, invalid⟩ := refuses
  have ran : (⟨cfg, method, s⟩ : AcidStep).run setup b = ((.error err, s), b) := by
    rw [AcidStep.run, refused]
  rw [ran]
  apply booked_failed keeps _ rfl
  rw [told, invalid]

private theorem run_sent {cfg : Config} {method : AcidMethod}
    {s : Session method.operation.Captured} (taken : method.refusal = none) :
    (⟨cfg, method, s⟩ : AcidStep).run setup b =
      (method.operation.closure cfg s).ends setup.serve b := by
  rw [AcidStep.run, taken]

private theorem heartbeat_step (complete : setup.without = []) (keeps : Keeps b.acid l)
    (cfg : Config) (txnID lockID : Int64) (s : Session Unit) :
    Booked l (.heartbeat txnID lockID)
      ((⟨cfg, .heartbeat txnID lockID, s⟩ : AcidStep).run setup b) := by
  by_cases invalid : txnID < 0 ∨ lockID < 0 ∨ txnID = 0 ∧ lockID = 0
  · have refuses : Refuses (.heartbeat txnID lockID) := by
      rw [Refuses, AcidMethod.refusal, checkID, checkID]
      by_cases txn : txnID < 0
      · rw [if_pos txn]
        exact ⟨_, rfl, rfl⟩
      by_cases lock : lockID < 0
      · rw [if_neg txn, if_pos lock]
        exact ⟨_, rfl, rfl⟩
      · have nothing := (invalid.resolve_left txn).resolve_left lock
        rw [if_neg txn, if_neg lock, if_pos nothing]
        exact ⟨_, rfl, rfl⟩
    exact refused_booked keeps refuses (if_pos invalid)
  · obtain ⟨txn, others⟩ := not_or.mp invalid
    obtain ⟨lock, nothing⟩ := not_or.mp others
    have taken : (AcidMethod.heartbeat txnID lockID).refusal = none := by
      rw [AcidMethod.refusal, checkID, checkID, if_neg txn, if_neg lock, if_neg nothing]
      rfl
    rw [run_sent taken]
    exact heartbeat_booked complete keeps invalid s

/-- One call returns what the ledger tells, and the server's table still agrees with it. -/
private theorem step_booked (complete : setup.without = []) (keeps : Keeps b.acid l)
    (opens : l.opens + 1 < 9223372036854775808) (grants : l.grants + 1 < 9223372036854775808)
    (step : AcidStep) : Booked l step.method (step.run setup b) := by
  obtain ⟨cfg, method, s⟩ := step
  cases method with
  | openTransaction user host =>
    rw [run_sent rfl]
    exact open_booked complete keeps opens user host s
  | heartbeat txnID lockID => exact heartbeat_step complete keeps cfg txnID lockID s
  | commitTransaction id =>
    by_cases negative : id < 0
    · exact refused_booked keeps (refuses_negative rfl negative) (if_pos negative)
    · rw [run_sent (takes_others rfl negative)]
      exact commit_booked complete keeps negative s
  | abortTransaction id =>
    by_cases negative : id < 0
    · exact refused_booked keeps (refuses_negative rfl negative) (if_pos negative)
    · rw [run_sent (takes_others rfl negative)]
      exact abort_booked complete keeps negative s
  | lock req =>
    by_cases negative : req.txnID < 0
    · exact refused_booked keeps (refuses_negative rfl negative) (if_pos negative)
    · rw [run_sent (takes_others rfl negative)]
      exact lock_booked complete keeps grants negative s
  | checkLock id =>
    by_cases negative : id < 0
    · apply refused_booked keeps (refuses_negative rfl negative)
      rw [Ledger.tell, if_pos negative]
    · rw [run_sent (takes_others rfl negative)]
      exact checkLock_booked complete keeps negative s
  | unlock id =>
    by_cases negative : id < 0
    · exact refused_booked keeps (refuses_negative rfl negative) (if_pos negative)
    · rw [run_sent (takes_others rfl negative)]
      exact unlock_booked complete keeps negative s

end Calls

/-! ## Runs -/

/-- A call gives out one identifier at most. -/
private theorem tell_grows (l : Ledger) (method : AcidMethod) :
    (l.tell method).2.opens ≤ l.opens + 1 ∧ (l.tell method).2.grants ≤ l.grants + 1 := by
  cases method with
  | openTransaction user host => exact ⟨Nat.le_refl _, Nat.le_succ _⟩
  | heartbeat txnID lockID =>
    rw [Ledger.tell]
    split <;> exact ⟨Nat.le_succ _, Nat.le_succ _⟩
  | checkLock id => exact ⟨Nat.le_succ _, Nat.le_succ _⟩
  | lock req =>
    rw [Ledger.tell]
    split
    · exact ⟨Nat.le_succ _, Nat.le_succ _⟩
    · exact ⟨Nat.le_succ _, Nat.le_refl _⟩
  | commitTransaction id | abortTransaction id | unlock id =>
    rw [Ledger.tell]
    split
    · exact ⟨Nat.le_succ _, Nat.le_succ _⟩
    · split <;> exact ⟨Nat.le_succ _, Nat.le_succ _⟩

private theorem keeps_after (complete : setup.without = []) (keeps : Keeps b.acid l)
    (opens : l.opens + steps.length < 9223372036854775808)
    (grants : l.grants + steps.length < 9223372036854775808) :
    Keeps (afterCalls setup steps b).acid (l.after (steps.map (·.method))) ∧
      (l.after (steps.map (·.method))).opens ≤ l.opens + steps.length ∧
      (l.after (steps.map (·.method))).grants ≤ l.grants + steps.length := by
  induction steps generalizing b l with
  | nil => exact ⟨keeps, Nat.le_refl _, Nat.le_refl _⟩
  | cons step rest ih =>
    rw [List.length_cons] at opens grants
    have booked := step_booked complete keeps (by omega) (by omega) step
    obtain ⟨moreOpens, moreGrants⟩ := tell_grows l step.method
    obtain ⟨kept, fewOpens, fewGrants⟩ := ih booked.kept (by omega) (by omega)
    refine ⟨kept, ?_, ?_⟩
    · rw [List.length_cons]
      exact Nat.le_trans fewOpens (by omega)
    · rw [List.length_cons]
      exact Nat.le_trans fewGrants (by omega)

private theorem keeps_new (v : Version) : Keeps (newBackend v).acid newLedger := by
  refine ⟨?_, ?_, fun _ => ?_, fun _ => ?_, fun _ _ => rfl, fun _ _ => rfl⟩
  · cases v <;> rfl
  · cases v <;> rfl
  · cases v <;> rfl
  · cases v <;> rfl

/-- Whatever clients call the methods for transactions and locks, in whatever order a fresh
server of any version serves them: each call has the outcome that the ledger tells, and
OpenTransaction and Lock return identifiers that were not given out before. -/
theorem acid_methods_follow_ledger (setup : Setup) (complete : setup.without = [])
    (steps : List AcidStep) (few : steps.length + 1 < 9223372036854775808) (step : AcidStep) :
    let l := newLedger.after (steps.map (·.method))
    let ended := step.run setup (afterCalls setup steps (newBackend setup.v))
    ended.1.1.mapError classify = (l.tell step.method).1 ∧
      (ended.1.1 = .ok () → l.Returns step.method ended.1.2.captured) := by
  have unopened : newLedger.opens = 0 := rfl
  have ungranted : newLedger.grants = 0 := rfl
  have fewOpens : newLedger.opens + steps.length < 9223372036854775808 := by omega
  have fewGrants : newLedger.grants + steps.length < 9223372036854775808 := by omega
  obtain ⟨kept, opens, grants⟩ := keeps_after complete (keeps_new setup.v) fewOpens fewGrants
  have booked := step_booked complete kept (by omega) (by omega) step
  exact ⟨booked.outcome, booked.returns⟩

/-- A transaction that is opened, aborted and committed by clients that know nothing yet. -/
def abortedCourse : List AcidStep :=
  [⟨plainConfig, .openTransaction [117] [104], newSession 0⟩,
    ⟨plainConfig, .abortTransaction 1, newSession ()⟩,
    ⟨plainConfig, .lock ⟨[⟨3, 1, [100], [], []⟩], 1, [117], [104]⟩, newSession ⟨0, 0, []⟩⟩]

theorem aborted_transaction_cannot_commit :
    ((⟨plainConfig, .commitTransaction 1, newSession ()⟩ : AcidStep).run (standing .hive31)
      (afterCalls (standing .hive31) abortedCourse (newBackend .hive31))).1.1.mapError classify =
      .error .errInvalidOperation :=
  (acid_methods_follow_ledger (standing .hive31) rfl abortedCourse (by decide)
    ⟨plainConfig, .commitTransaction 1, newSession ()⟩).1.trans (by decide +kernel)

end HmsClient.Hmstest
