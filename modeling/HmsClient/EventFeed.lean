import HmsClient.ClientRuns
import HmsClient.LogCursor

/-! Following the notifications of a fake metastore that others write to. A follower asks for
the current id once, and then again and again for the events after the last one that it saw.
Between its calls the server answers any requests of any clients. No event is lost or seen
twice, as long as no limit is put on events of chosen types that the server does not pick. -/
namespace HmsClient.Hmstest
open PeerScript LogCursor

/-! ## Events are numbered -/

/-- The events have the ids 1, 2, 3 and so on. -/
def Numbered (events : List Wire.NotificationEvent) : Prop :=
  ∀ (i : Nat) (e : Wire.NotificationEvent), events[i]? = some e → e.eventId = .ofNat (i + 1)

/-- At most one event is recorded, under the next id. -/
inductive Records (events : List Wire.NotificationEvent) : List Wire.NotificationEvent → Prop where
  | nothing : Records events events
  | event (e : Wire.NotificationEvent) (id : e.eventId = .ofNat (events.length + 1)) :
      Records events (events ++ [e])

theorem Records.numbered {events events' : List Wire.NotificationEvent} (numbered : Numbered events)
    (records : Records events events') : Numbered events' := by
  cases records with
  | nothing => exact numbered
  | event e id =>
    intro i e' found
    rcases Nat.lt_trichotomy i events.length with before | rfl | beyond
    · rw [List.getElem?_append_left before] at found
      exact numbered i e' found
    · rw [List.getElem?_concat_length] at found
      cases found
      exact id
    · rw [List.getElem?_eq_none (by rw [List.length_append, List.length_singleton]; omega)] at found
      cases found

section Handlers
variable {e : Emulation} {clock : Nat → Int32} {m : Metastore}

/-- A handler with one check. -/
private theorem records_ite [Decidable check] (recorded : Records m.events m'.events) :
    Records m.events (if check then ((.error err, m) : Answered) else (.ok (), m')).2.events := by
  split
  · exact .nothing
  · exact recorded

private theorem createDatabase_records (db : Wire.Database) :
    Records m.events (createDatabase e clock m db).2.events := by
  rw [createDatabase]
  split
  · exact .nothing
  · split
    · exact .nothing
    · exact records_ite (.event _ rfl)

private theorem alterDatabase_records (name : Text) (db : Wire.Database) :
    Records m.events (alterDatabase e m name db).2.events := by
  rw [alterDatabase]
  split
  · exact .nothing
  · exact records_ite .nothing

private theorem dropDatabase_records (name : Text) (cascade : Bool) :
    Records m.events (dropDatabase e clock m name cascade).2.events := by
  rw [dropDatabase]
  split
  · exact .nothing
  · dsimp only
    split
    · exact .nothing
    · exact records_ite (.event _ rfl)

private theorem createTable_records (tbl : Wire.Table) :
    Records m.events (createTable e clock m tbl).2.events := by
  rw [createTable]
  split
  · exact .nothing
  · exact records_ite (.event _ rfl)

private theorem alterTable_records (dbName tblName : Text) (newTbl : Wire.Table) :
    Records m.events (alterTable e clock m dbName tblName newTbl).2.events := by
  rw [alterTable]
  split
  · exact .nothing
  · exact records_ite (.event _ rfl)

private theorem dropTable_records (dbName name : Text) :
    Records m.events (dropTable e clock m dbName name).2.events := by
  rw [dropTable]
  split
  · exact .nothing
  · exact records_ite (.event _ rfl)

private theorem addPartitionsReq_records (v : Version) (now : Nat → Nat → Int32)
    (req : Wire.AddPartitionsRequest) (store : Store) :
    Records store.events (addPartitionsReq v now req store).2.events := by
  rw [addPartitionsReq]
  split
  · exact .nothing
  · dsimp only
    split
    · exact .nothing
    · split
      · exact .nothing
      · dsimp only
        split
        · exact .event _ rfl
        · exact .nothing

private theorem applyAlterPartitions_records (catName db tbl : Text) (parts : Slice Wire.Partition)
    (store : Store) :
    Records store.events (applyAlterPartitions catName db tbl parts store).2.events := by
  rw [applyAlterPartitions]
  dsimp only
  split
  · exact .nothing
  · split
    · exact .nothing
    · exact .nothing

private theorem dropPartition_records (v : Version) (now : Nat → Nat → Int32) (db tbl : Text)
    (vals : Slice Text) (store : Store) :
    Records store.events (dropPartition v now db tbl vals store).2.events := by
  rw [dropPartition]
  split
  · exact .nothing
  · dsimp only
    split
    · exact .nothing
    · exact .event _ rfl

private theorem dropPartitionsReq_records (v : Version) (now : Nat → Nat → Int32)
    (req : Wire.DropPartitionsRequest) (store : Store) :
    Records store.events (dropPartitionsReq v now req store).2.events := by
  rw [dropPartitionsReq]
  split
  · exact .nothing
  · split
    · exact .nothing
    · dsimp only
      split
      · exact .nothing
      · split
        · exact .event _ rfl
        · exact .nothing

private theorem refuseOthers_records {refused : Option Thrown}
    (recorded : Records m.events answered.2.events) :
    Records m.events (refuseOthers e m catName refused answered).2.events := by
  unfold refuseOthers
  split
  · exact .nothing
  · split
    · exact .nothing
    · exact recorded

private theorem handleWrite_records (other : OtherFields) (rpc : WriteRpc) :
    Records m.events (handleWrite e clock m other rpc).2.events := by
  cases rpc with
  | createCatalog catalog => exact records_ite .nothing
  | dropCatalog name => exact records_ite .nothing
  | createDatabase db => exact createDatabase_records db
  | alterDatabase name db => exact alterDatabase_records name db
  | dropDatabase name deleteData cascade => exact dropDatabase_records name cascade
  | createTable tbl => exact createTable_records tbl
  | alterTable dbName tblName newTbl => exact alterTable_records dbName tblName newTbl
  | dropTable dbName name deleteData => exact dropTable_records dbName name
  | addPartitionsReq req => exact addPartitionsReq_records _ _ req m.toStore
  | alterPartitions dbName tblName parts =>
    rw [handleWrite, Metastore.answer, alterPartitions]
    split
    · exact .nothing
    · exact applyAlterPartitions_records _ _ _ parts m.toStore
  | alterPartitionsReq req =>
    apply refuseOthers_records
    rw [Metastore.answer, alterPartitionsReq]
    split
    · exact .nothing
    · exact applyAlterPartitions_records _ _ _ _ m.toStore
  | dropPartition dbName tblName partVals deleteData =>
    exact dropPartition_records _ _ dbName tblName partVals m.toStore
  | dropPartitionsReq req =>
    apply refuseOthers_records
    exact dropPartitionsReq_records _ _ req m.toStore

end Handlers

/-! ## The server -/

section Server
variable {setup : Setup} {b : Backend}

private theorem records_write (rpc : WriteRpc) : Records b.events (setup.write b rpc).2.events :=
  handleWrite_records _ rpc

private theorem records_acid {α : Type} (handled : Except AcidError (α × AcidState)) :
    Records b.events (b.acidAnswer handled).2.events := by
  cases handled with
  | error e => exact .nothing
  | ok answered => exact .nothing

private theorem handle_records (call : Call) : Records b.events (setup.handle b call).2.events := by
  cases call
  case createCatalog catalog =>
    cases catalog with
    | none => exact .nothing
    | some catalog => exact records_write (.createCatalog catalog)
  case dropCatalog | createDatabase | alterDatabase | dropDatabase | createTable | alterTable
      | dropTable | addPartitionsReq | alterPartitions | alterPartitionsReq | dropPartition
      | dropPartitionsReq => exact records_write _
  case commitTxn | abortTxn | heartbeat | lock | checkLock | unlock => exact records_acid _
  all_goals exact .nothing

/-- Whatever it is asked, the server records one event at most, under the next id. -/
theorem serve_records (setup : Setup) (call : Call) (b : Backend) :
    Records b.events (setup.serve call b).2.events := by
  rw [Setup.serve]
  split
  · exact .nothing
  · exact handle_records call

end Server

/-! ## The follower -/

/-- A server, and a client that follows its events: the last id that it saw, and the events. -/
structure Feed where
  backend : Backend
  since : Int64
  seen : List NotificationEvent

/-- `CurrentNotificationID`. -/
def Feed.start (setup : Setup) (b : Backend) (s : Session Int64) : Feed :=
  let ended := (currentNotificationID s).ends setup.serve b
  ⟨ended.2, ended.1.2.captured, []⟩

/-- `GetNextNotifications` after the last id. -/
def Feed.poll (setup : Setup) (types : List Text) (f : Feed) (max : Int)
    (s : Session (List NotificationEvent)) : Feed :=
  let ended := (getNextNotifications f.since max types s).ends setup.serve f.backend
  let events := ended.1.2.captured
  match ended.1.1 with
  | .error _ => { f with backend := ended.2 }
  | .ok () =>
    { backend := ended.2
      since := (events.getLast?.map (·.id)).getD f.since
      seen := f.seen ++ events }

/-- A request of any client, or a call of the follower on a connection. -/
inductive Move where
  | serve (call : Call)
  | poll (max : Int) (s : Session (List NotificationEvent))

def Feed.move (setup : Setup) (types : List Text) (f : Feed) : Move → Feed
  | .serve call => { f with backend := (setup.serve call f.backend).2 }
  | .poll max s => f.poll setup types max s

def Feed.run (setup : Setup) (types : List Text) (f : Feed) (moves : List Move) : Feed :=
  moves.foldl (Feed.move setup types) f

/-- The server after requests. -/
def backendAfter (setup : Setup) (calls : List Call) (b : Backend) : Backend :=
  calls.foldl (fun b call => (setup.serve call b).2) b

/-- A limit on events of some types is one on such events only where the server picks them. -/
def Move.Honoured (v : Version) (types : List Text) : Move → Prop
  | .serve _ => True
  | .poll max _ => max ≤ 0 ∨ types = [] ∨ v = .hive40

def limitOf (max : Int) : Option Nat := if max > 0 then some (limit max) else none

/-- The follower has seen the events up to its place, from where it began. -/
structure Follows (types : List Text) (start : Nat) (f : Feed) (k : Nat)
    (taken : List Wire.NotificationEvent) : Prop where
  numbered : Numbered f.backend.events
  few : f.backend.events.length < 9223372036854775808
  since : f.since = .ofNat k
  seen : f.seen = taken.map notificationFromThrift
  reads : Reads (wanted types) f.backend.events start k taken

section Following
variable {setup : Setup} {types : List Text} {f : Feed} {start k : Nat}
  {taken : List Wire.NotificationEvent}

private theorem ofNat_lt (few : a < 9223372036854775808) (few' : b < 9223372036854775808) :
    Int64.ofNat a < Int64.ofNat b ↔ a < b := by
  rw [Int64.lt_iff_toInt_lt, Int64.toInt_ofNat_of_lt few, Int64.toInt_ofNat_of_lt few']
  exact Int.ofNat_lt

variable {events events' : List Wire.NotificationEvent} {max : Int} {b : Backend}

/-- The events after an id are those behind its place. -/
private theorem filter_after
    (numbered : ∀ (i : Nat) (e : Wire.NotificationEvent), events[i]? = some e →
      e.eventId = .ofNat (n + i + 1)) (few : n + events.length < 9223372036854775808)
    (within : k < 9223372036854775808) :
    (events.filter fun e => Int64.ofNat k < e.eventId) = events.drop (k - n) := by
  induction events generalizing n with
  | nil => simp
  | cons e rest ih =>
    rw [List.length_cons] at few
    have first : e.eventId = .ofNat (n + 1) := numbered 0 e rfl
    have others := ih (n := n + 1) (fun i e' found => by
      rw [numbered (i + 1) e' found]
      congr 1
      omega) (by omega)
    rw [List.filter_cons, first, others]
    by_cases later : k < n + 1
    · have gone : k - n = 0 := by omega
      have gone' : k - (n + 1) = 0 := by omega
      rw [gone, gone', if_pos (decide_eq_true ((ofNat_lt within (by omega)).mpr later))]
      rfl
    · have more : k - n = (k - (n + 1)) + 1 := by omega
      rw [more, List.drop_succ_cons, if_neg]
      intro less
      exact later ((ofNat_lt within (by omega)).mp (of_decide_eq_true less))

/-- The events of a log are in order. -/
def eventLog (events : List Wire.NotificationEvent) (numbered : Numbered events)
    (few : events.length < 9223372036854775808) : EventLog where
  events := events
  increasing := by
    apply List.pairwise_iff_getElem.mpr
    intro i j inside inside' less
    rw [numbered i _ (List.getElem?_eq_getElem inside), numbered j _ (List.getElem?_eq_getElem inside')]
    exact (ofNat_lt (by omega) (by omega)).mpr (by omega)

/-- What the follower gets out of the server's answer. -/
private theorem handle_next (honoured : max ≤ 0 ∨ types = [] ∨ setup.v = .hive40)
    (follows : Follows types start f k taken) :
    (handleGetNextNotification setup.v f.backend.events
        (newNotificationEventRequest f.since max types)).filter (wanted types) =
      next (wanted types) (limitOf max) k f.backend.events := by
  have within := Nat.lt_of_le_of_lt follows.reads.within follows.few
  have numbered : ∀ (i : Nat) (e : Wire.NotificationEvent), f.backend.events[i]? = some e →
      e.eventId = .ofNat (0 + i + 1) := by
    intro i e found
    rw [Nat.zero_add]
    exact follows.numbered i e found
  have after : (eventLog f.backend.events follows.numbered follows.few).after f.since =
      f.backend.events.drop k := by
    rw [follows.since]
    exact filter_after numbered (by have := follows.few; omega) within
  have picked := handle_honours honoured
    (eventLog f.backend.events follows.numbered follows.few) f.since
  rw [after] at picked
  refine picked.trans ?_
  rw [next, limitOf]
  split <;> rfl

private theorem poll_ends (complete : setup.without = [])
    (honoured : max ≤ 0 ∨ types = [] ∨ setup.v = .hive40) (follows : Follows types start f k taken)
    (s : Session (List NotificationEvent)) :
    (getNextNotifications f.since max types s).ends setup.serve f.backend =
      ((.ok (), { s with captured :=
        (next (wanted types) (limitOf max) k f.backend.events).map notificationFromThrift }),
        { f.backend with handled := f.backend.handled + 1 }) := by
  have asked : (rpc (.getNextNotification (newNotificationEventRequest f.since max types)) s).ends
      setup.serve f.backend = ((.ok (some (handleGetNextNotification setup.v f.backend.events
        (newNotificationEventRequest f.since max types))), s),
          { f.backend with handled := f.backend.handled + 1 }) := by
    rw [rpc_ends, serve_present complete "get_next_notification" rfl (by decide)]
    rfl
  have picked : ∀ events : List Wire.NotificationEvent,
      (events.map notificationFromThrift).filter
          (fun ev => types = [] || types.contains ev.type) =
        (events.filter (wanted types)).map notificationFromThrift := fun events =>
    List.filter_map
  rw [← handle_next honoured follows, ← picked]
  exact (ends_then asked).trans rfl

private theorem lets_limitOf (max : Int) : Lets (limitOf max) := by
  intro m limited
  rw [limitOf] at limited
  split at limited
  · next positive =>
    cases limited
    unfold limit maxInt32
    omega
  · cases limited

/-- After a poll the follower has read on, up to a later place of the log. -/
private theorem poll_follows (complete : setup.without = [])
    (honoured : max ≤ 0 ∨ types = [] ∨ setup.v = .hive40) (follows : Follows types start f k taken)
    (s : Session (List NotificationEvent)) :
    ∃ k', Follows types start (f.poll setup types max s) k'
      (taken ++ next (wanted types) (limitOf max) k f.backend.events) := by
  have polled : f.poll setup types max s =
      { backend := { f.backend with handled := f.backend.handled + 1 }
        since := (((next (wanted types) (limitOf max) k f.backend.events).map
          notificationFromThrift).getLast?.map (·.id)).getD f.since
        seen := f.seen ++ (next (wanted types) (limitOf max) k f.backend.events).map
          notificationFromThrift } := by
    rw [Feed.poll, poll_ends complete honoured follows]
  rw [polled]
  have seen : f.seen ++ (next (wanted types) (limitOf max) k f.backend.events).map
      notificationFromThrift = (taken ++ next (wanted types) (limitOf max) k f.backend.events).map
        notificationFromThrift := by
    rw [List.map_append, follows.seen]
  by_cases nothing : next (wanted types) (limitOf max) k f.backend.events = []
  · refine ⟨k, follows.numbered, follows.few, ?_, seen, ?_⟩
    · rw [nothing]
      exact follows.since
    · rw [nothing, List.append_nil]
      exact follows.reads
  · obtain ⟨j, last, reads⟩ := follows.reads.advance (lets_limitOf max) nothing
    refine ⟨j + 1, follows.numbered, follows.few, ?_, seen, reads⟩
    have inside : j < f.backend.events.length := reads.within
    rw [List.getElem?_eq_getElem inside] at last
    rw [List.getLast?_map, ← last]
    exact follows.numbered j _ (List.getElem?_eq_getElem inside)

private theorem Records.grows (records : Records events events') :
    ∃ more, events' = events ++ more := by
  cases records with
  | nothing => exact ⟨[], (List.append_nil _).symm⟩
  | event e id => exact ⟨[e], rfl⟩

private theorem Records.length_le (records : Records events events') :
    events'.length ≤ events.length + 1 := by
  cases records with
  | nothing => exact Nat.le_succ _
  | event e id => rw [List.length_append, List.length_singleton]

/-- What one move does to the follower's place. -/
private theorem move_follows (complete : setup.without = [])
    (honoured : move.Honoured setup.v types) (follows : Follows types start f k taken)
    (room : f.backend.events.length + 1 < 9223372036854775808) :
    (∃ k' taken', Follows types start (f.move setup types move) k' taken') ∧
      (f.move setup types move).backend.events.length ≤ f.backend.events.length + 1 := by
  cases move with
  | serve call =>
    have records := serve_records setup call f.backend
    refine ⟨⟨k, taken, records.numbered follows.numbered, ?_, follows.since, follows.seen, ?_⟩,
      records.length_le⟩
    · exact Nat.lt_of_le_of_lt records.length_le room
    · obtain ⟨more, grown⟩ := records.grows
      rw [Feed.move, grown]
      exact follows.reads.grow more
  | poll max s =>
    obtain ⟨k', follows'⟩ := poll_follows complete honoured follows s
    refine ⟨⟨k', _, follows'⟩, ?_⟩
    rw [Feed.move, Feed.poll, poll_ends complete honoured follows]
    exact Nat.le_succ _

/-- After any moves the follower has read the log up to some place. -/
private theorem run_follows (complete : setup.without = [])
    (honoured : ∀ move ∈ moves, move.Honoured setup.v types)
    (follows : Follows types start f k taken)
    (room : f.backend.events.length + moves.length < 9223372036854775808) :
    ∃ k' taken', Follows types start (f.run setup types moves) k' taken' := by
  induction moves generalizing f k taken with
  | nil => exact ⟨k, taken, follows⟩
  | cons move rest ih =>
    rw [List.length_cons] at room
    obtain ⟨⟨k', taken', follows'⟩, longer⟩ :=
      move_follows complete (honoured move (.head _)) follows (by omega)
    exact ih (fun other inRest => honoured other (.tail _ inRest)) follows' (by omega)

private theorem served_numbered (setup : Setup) (calls : List Call) (numbered : Numbered b.events) :
    Numbered (backendAfter setup calls b).events ∧
      (backendAfter setup calls b).events.length ≤ b.events.length + calls.length := by
  induction calls generalizing b with
  | nil => exact ⟨numbered, Nat.le_refl _⟩
  | cons call rest ih =>
    have records := serve_records setup call b
    obtain ⟨numbered', longer⟩ := ih (records.numbered numbered)
    refine ⟨numbered', Nat.le_trans longer ?_⟩
    have one := records.length_le
    rw [List.length_cons]
    omega

private theorem currentEventId_eq (numbered : Numbered b.events) :
    currentEventId b = .ofNat b.events.length := by
  rw [currentEventId, List.getLast?_eq_getElem?]
  cases found : b.events[b.events.length - 1]? with
  | none =>
    have empty : b.events.length = 0 := by
      have := List.getElem?_eq_none_iff.mp found
      omega
    rw [empty]
    rfl
  | some e =>
    have inside : b.events.length - 1 < b.events.length := (List.getElem?_eq_some_iff.mp found).1
    have id := numbered _ e found
    rw [Nat.sub_add_cancel (by omega)] at id
    exact id

private theorem newBackend_numbered (v : Version) : Numbered (newBackend v).events := by
  intro i e found
  cases v <;> cases found

private theorem start_follows (complete : setup.without = []) (numbered : Numbered b.events)
    (few : b.events.length < 9223372036854775808) (s : Session Int64) :
    Follows types b.events.length (Feed.start setup b s) b.events.length [] ∧
      (Feed.start setup b s).backend.events = b.events := by
  have asked : (rpc .getCurrentNotificationEventId s).ends setup.serve b =
      ((.ok (currentEventId b), s), { b with handled := b.handled + 1 }) := by
    rw [rpc_ends, serve_present complete "get_current_notificationEventId" rfl (by decide)]
    rfl
  have started : Feed.start setup b s =
      ⟨{ b with handled := b.handled + 1 }, currentEventId b, []⟩ := by
    rw [Feed.start, currentNotificationID, ends_then asked]
    rfl
  rw [started]
  exact ⟨⟨numbered, few, currentEventId_eq numbered, rfl, reads_start (Nat.le_refl _)⟩, rfl⟩

end Following

/-- Whoever writes to the server between the follower's calls: it has seen the events of its
types that were recorded since it began, in order, each once and none left out; and when a call
brings nothing, or has no limit, it has seen all of them. -/
theorem follower_misses_nothing (setup : Setup) (complete : setup.without = [])
    (before : List Call) (s : Session Int64) (types : List Text) (moves : List Move)
    (honoured : ∀ move ∈ moves, move.Honoured setup.v types)
    (few : before.length + moves.length < 9223372036854775808) :
    let b := backendAfter setup before (newBackend setup.v)
    let f := (Feed.start setup b s).run setup types moves
    let recorded := f.backend.events.drop b.events.length
    (∃ k, f.seen = ((recorded.take k).filter (wanted types)).map notificationFromThrift) ∧
      ∀ max s', (Move.poll max s').Honoured setup.v types →
        ((f.poll setup types max s').seen = f.seen →
          f.seen = (recorded.filter (wanted types)).map notificationFromThrift) ∧
        (max ≤ 0 → (f.poll setup types max s').seen =
          (recorded.filter (wanted types)).map notificationFromThrift) := by
  intro b f recorded
  obtain ⟨numbered, longest⟩ := served_numbered setup before (newBackend_numbered setup.v)
  have none : (newBackend setup.v).events.length = 0 := by cases setup.v <;> rfl
  have length : b.events.length ≤ before.length := by
    rw [none, Nat.zero_add] at longest
    exact longest
  have begun : Follows types b.events.length (Feed.start setup b s) b.events.length [] ∧
      (Feed.start setup b s).backend.events = b.events :=
    start_follows complete numbered (by omega) s
  obtain ⟨k, taken, follows⟩ := run_follows complete honoured begun.1 (by rw [begun.2]; omega)
  refine ⟨⟨k - b.events.length, ?_⟩, fun max s' honoured' => ?_⟩
  · rw [follows.seen, follows.reads.taken, List.drop_take]
  obtain ⟨k', follows'⟩ := poll_follows complete honoured' follows s'
  rw [follows'.seen, follows.seen]
  constructor
  · intro same
    have nothing : next (wanted types) (limitOf max) k f.backend.events = [] := by
      rw [List.map_append, List.append_right_eq_self] at same
      exact List.map_eq_nil_iff.mp same
    rw [follows.reads.caught_up (lets_limitOf max) nothing]
  · intro unlimited
    have limit : limitOf max = Option.none := if_neg (by omega)
    rw [limit, follows.reads.take_all]

/-- A table is created and dropped while the calls have a limit of one event. -/
def tableComesAndGoes : List Move :=
  [.serve (.createTable { dbName := [100], tableName := [116] }), .poll 1 (newSession []),
    .serve (.dropTable [100] [116] false), .poll 1 (newSession [])]

theorem follower_sees_table_come_and_go :
    let b := backendAfter (standing .hive31) [.createDatabase { name := [100], locationUri := [47] }]
      (newBackend .hive31)
    let f := (Feed.start (standing .hive31) b (newSession 0)).run (standing .hive31) []
      tableComesAndGoes
    f.seen.map (·.id) = [2, 3] ∧ (f.poll (standing .hive31) [] 0 (newSession [])).seen =
      ((f.backend.events.drop b.events.length).filter (wanted [])).map notificationFromThrift := by
  have honoured : ∀ move ∈ tableComesAndGoes, move.Honoured .hive31 [] := by
    intro move listed
    cases move with
    | serve call => trivial
    | poll max s => exact .inr (.inl rfl)
  refine ⟨by decide +kernel, ?_⟩
  exact ((follower_misses_nothing (standing .hive31) rfl
    [.createDatabase { name := [100], locationUri := [47] }] (newSession 0) [] tableComesAndGoes
    honoured (by decide)).2 0 (newSession []) (.inr (.inl rfl))).2 (by decide)

end HmsClient.Hmstest
