import HmsClient.Interleaving

/-! The connections of the fake metastore of `hmstest`, at the grain its goroutines can
observe: `serve` accepts them, `handleConn` answers on each, with the failures that
`WithFailNext` injects, and `Stop` closes them and waits. Every operation on the mutex, the
map, the wait group, the counter or a socket is one step of one goroutine. -/
namespace HmsClient.TestServer

open Interleaving

/-- `clampInt32`. -/
def clampInt32 (n : Int) : Int :=
  let n := if n > 2147483647 then 2147483647 else n
  if n < -2147483648 then -2147483648 else n

/-- What the goroutines of one `Server` share. A connection is its number among the
accepted ones. `started` are the connections whose goroutine `wg.Go` has started and that
has yet to run; `closed` lists the calls of `Close`, `handled` the requests that reached
their handler. `passed` and `injected` list the message headers that the counter let
through and that it did not, each by its connection, and `stopReturned` records that the
call of `Stop` that stopped the server has returned. -/
structure Shared where
  listening : Bool
  failNext : Int
  conns : List Nat
  wg : Nat
  locked : Bool
  stopped : Bool
  accepted : Nat
  started : List Nat
  closed : List Nat
  handled : List Nat
  passed : List Nat
  injected : List Nat
  panics : Nat
  stopReturned : Bool
  deriving DecidableEq, Repr

/-- `conn.Close()`. -/
def Shared.close (s : Shared) (c : Nat) : Shared := { s with closed := c :: s.closed }

/-- A position inside `serve`, named after the operation to come. -/
inductive Serve where
  | accept
  | lock (c : Nat)
  | check (c : Nat)
  | store (c : Nat)
  | spawn (c : Nat)
  | unlock
  | reject (c : Nat)
  | close (c : Nat)
  deriving DecidableEq, Repr

/-- A position inside `Stop`. A call of `Range` knows the keys it started with and those
it has visited. -/
inductive Stop where
  | lock
  | check
  | leave
  | unlock
  | closeListener
  | range
  | ranging (start visited : List Nat)
  | wait
  deriving DecidableEq, Repr

/-- A message whose header has come. `known` has a method of the processor map and arguments
that can be read, and its handler returns; of `panics` the handler panics, of `garbled` the
arguments cannot be read, and of `cut` they have not come yet. -/
inductive Message where
  | known
  | panics
  | unknown
  | garbled
  | cut (known : Bool)
  deriving DecidableEq, Repr

/-- A position inside `handleConn`; `load`, `swap` and `drop` are in `ReadMessageBegin`,
and `recover` to `done` are the deferred calls. -/
inductive Handle where
  | read
  | load (m : Message)
  | swap (m : Message) (cur : Int)
  | drop
  | dispatch (m : Message)
  | reply
  | recover
  | close
  | delete
  | done
  deriving DecidableEq, Repr

/-- Where a goroutine stands. A handler has the messages `ahead` in the buffer of its
transport. -/
inductive Goroutine where
  | rest
  | serving (position : Serve)
  | stopping (position : Stop)
  | handling (c : Nat) (ahead : List Message) (position : Handle)
  | exited
  deriving DecidableEq, Repr

/-- What the scheduler, the peers and the callers decide. -/
inductive Choice where
  | stop
  | start (c : Nat)
  | go
  | visit (c : Nat)
  | connect
  | receive (m : Message) (more : List Message)
  | fail
  deriving DecidableEq, Repr

def serveStep (s : Shared) : Serve → Choice → Option (Shared × Goroutine)
  | .accept, .connect =>
    if s.listening then
      some ({ s with accepted := s.accepted + 1 }, .serving (.lock s.accepted))
    else none
  | .accept, .go => if s.listening then none else some (s, .exited)
  | .accept, .fail => some (s, .exited)
  | .lock c, .go =>
    if s.locked then none else some ({ s with locked := true }, .serving (.check c))
  | .check c, .go => some (s, .serving (if s.stopped then .reject c else .store c))
  | .store c, .go => some ({ s with conns := c :: s.conns }, .serving (.spawn c))
  | .spawn c, .go =>
    some ({ s with wg := s.wg + 1, started := c :: s.started }, .serving .unlock)
  | .unlock, .go => some ({ s with locked := false }, .serving .accept)
  | .reject c, .go => some ({ s with locked := false }, .serving (.close c))
  | .close c, .go => some (s.close c, .exited)
  | _, _ => none

/-- `Range` visits no key twice and every key that is there throughout; one that comes or
goes meanwhile it may visit or not. -/
def stopStep (s : Shared) : Stop → Choice → Option (Shared × Goroutine)
  | .lock, .go => if s.locked then none else some ({ s with locked := true }, .stopping .check)
  | .check, .go =>
    if s.stopped then some (s, .stopping .leave)
    else some ({ s with stopped := true }, .stopping .unlock)
  | .leave, .go => some ({ s with locked := false }, .rest)
  | .unlock, .go => some ({ s with locked := false }, .stopping .closeListener)
  | .closeListener, .go => some ({ s with listening := false }, .stopping .range)
  | .range, .go => some (s, .stopping (.ranging s.conns []))
  | .ranging start visited, .visit c =>
    if c ∉ visited ∧ (c ∈ start ∨ c ∈ s.conns) then
      some (s.close c, .stopping (.ranging start (c :: visited)))
    else none
  | .ranging start visited, .go =>
    if ∀ c ∈ start, c ∈ s.conns → c ∈ visited then some (s, .stopping .wait) else none
  | .wait, .go => if s.wg = 0 then some ({ s with stopReturned := true }, .rest) else none
  | _, _ => none

/-- The generated `Process`, once it has the header. The answer to a method that is not in
the processor map is written without a look at the outcome, even if its arguments could not
be skipped, and `handleConn` goes on to the next message. -/
def dispatchStep (s : Shared) (c : Nat) (ahead : List Message) :
    Message → Choice → Option (Shared × Goroutine)
  | .known, .go => some ({ s with handled := c :: s.handled }, .handling c ahead .reply)
  | .panics, .go => some ({ s with handled := c :: s.handled }, .handling c ahead .recover)
  | .unknown, .go => some (s, .handling c ahead .read)
  | .garbled, .go => some (s, .handling c ahead .close)
  | .cut _, .receive m more =>
    if ahead = [] ∧ c ∉ s.closed then some (s, .handling c more (.dispatch m)) else none
  | .cut known, .go =>
    if c ∈ s.closed then some (s, .handling c ahead (if known then .close else .read)) else none
  | .cut known, .fail => some (s, .handling c ahead (if known then .close else .read))
  | _, _ => none

/-- A read of a connection that is closed fails, except from the buffer, and so does the
writing of a reply. -/
def handleStep (s : Shared) (c : Nat) (ahead : List Message) :
    Handle → Choice → Option (Shared × Goroutine)
  | .read, .receive m more =>
    if ahead = [] ∧ c ∉ s.closed then some (s, .handling c more (.load m)) else none
  | .read, .go =>
    match ahead with
    | m :: rest => some (s, .handling c rest (.load m))
    | [] => if c ∈ s.closed then some (s, .handling c [] .close) else none
  | .read, .fail => some (s, .handling c ahead .close)
  | .load m, .go =>
    if s.failNext ≤ 0 then
      some ({ s with passed := c :: s.passed }, .handling c ahead (.dispatch m))
    else some (s, .handling c ahead (.swap m s.failNext))
  | .swap m cur, .go =>
    if s.failNext = cur then
      some ({ s with failNext := cur - 1, injected := c :: s.injected }, .handling c ahead .drop)
    else some (s, .handling c ahead (.load m))
  | .drop, .go => some (s.close c, .handling c ahead .close)
  | .dispatch m, choice => dispatchStep s c ahead m choice
  | .reply, .go => some (s, .handling c ahead (if c ∈ s.closed then .close else .read))
  | .reply, .fail => some (s, .handling c ahead .close)
  | .recover, .go => some ({ s with panics := s.panics + 1 }, .handling c ahead .close)
  | .close, .go => some (s.close c, .handling c ahead .delete)
  | .delete, .go =>
    some ({ s with conns := s.conns.filter (· ≠ c) }, .handling c ahead .done)
  | .done, .go => some ({ s with wg := s.wg - 1 }, .exited)
  | _, _ => none

/-- One atomic operation of one goroutine. One that rests may call `Stop`, or be the one
that runs a function which `wg.Go` has started. -/
def step (s : Shared) : Goroutine → Choice → Option (Shared × Goroutine)
  | .rest, .stop => some (s, .stopping .lock)
  | .rest, .start c =>
    if c ∈ s.started then some ({ s with started := s.started.erase c }, .handling c [] .read)
    else none
  | .serving position, choice => serveStep s position choice
  | .stopping position, choice => stopStep s position choice
  | .handling c ahead position, choice => handleStep s c ahead position choice
  | _, _ => none

/-- The server as `NewServer` returns it, with `serve` started. -/
def newServer (failNext : Int) : World Shared Goroutine where
  shared :=
    { listening := true, failNext := clampInt32 failNext, conns := [], wg := 0
      locked := false, stopped := false, accepted := 0, started := [], closed := []
      handled := [], passed := [], injected := [], panics := 0, stopReturned := false }
  threads := [.serving .accept]

/-- The state after a list of scheduling decisions. -/
abbrev runs (w : World Shared Goroutine) (actions : List (Action Choice)) :
    Option (World Shared Goroutine) :=
  run step .rest w actions

/-! ## The steps, one by one -/

/-- One atomic operation of a goroutine that stands at the first position and gets to the
second one. -/
inductive Move (s : Shared) : Goroutine → Choice → Shared → Goroutine → Prop where
  | stop : Move s .rest .stop s (.stopping .lock)
  | start {c : Nat} (pending : c ∈ s.started) :
      Move s .rest (.start c) { s with started := s.started.erase c } (.handling c [] .read)
  -- serve
  | accepted (isOpen : s.listening = true) :
      Move s (.serving .accept) .connect { s with accepted := s.accepted + 1 }
        (.serving (.lock s.accepted))
  | unaccepted {choice : Choice} : Move s (.serving .accept) choice s .exited
  | served {c : Nat} (free : s.locked = false) :
      Move s (.serving (.lock c)) .go { s with locked := true } (.serving (.check c))
  | tooLate {c : Nat} (stopped : s.stopped = true) :
      Move s (.serving (.check c)) .go s (.serving (.reject c))
  | admitted {c : Nat} (runs : s.stopped = false) :
      Move s (.serving (.check c)) .go s (.serving (.store c))
  | stored {c : Nat} :
      Move s (.serving (.store c)) .go { s with conns := c :: s.conns } (.serving (.spawn c))
  | spawned {c : Nat} :
      Move s (.serving (.spawn c)) .go { s with wg := s.wg + 1, started := c :: s.started }
        (.serving .unlock)
  | unlocked : Move s (.serving .unlock) .go { s with locked := false } (.serving .accept)
  | rejected {c : Nat} :
      Move s (.serving (.reject c)) .go { s with locked := false } (.serving (.close c))
  | refused {c : Nat} : Move s (.serving (.close c)) .go (s.close c) .exited
  -- Stop
  | locked (free : s.locked = false) :
      Move s (.stopping .lock) .go { s with locked := true } (.stopping .check)
  | again (stopped : s.stopped = true) : Move s (.stopping .check) .go s (.stopping .leave)
  | first (runs : s.stopped = false) :
      Move s (.stopping .check) .go { s with stopped := true } (.stopping .unlock)
  | left : Move s (.stopping .leave) .go { s with locked := false } .rest
  | marked : Move s (.stopping .unlock) .go { s with locked := false } (.stopping .closeListener)
  | deaf : Move s (.stopping .closeListener) .go { s with listening := false } (.stopping .range)
  | range : Move s (.stopping .range) .go s (.stopping (.ranging s.conns []))
  | visited {c : Nat} {start visited : List Nat} :
      Move s (.stopping (.ranging start visited)) (.visit c) (s.close c)
        (.stopping (.ranging start (c :: visited)))
  | ranged {start visited : List Nat} (all : ∀ c ∈ start, c ∈ s.conns → c ∈ visited) :
      Move s (.stopping (.ranging start visited)) .go s (.stopping .wait)
  | returned (none : s.wg = 0) :
      Move s (.stopping .wait) .go { s with stopReturned := true } .rest
  -- handleConn
  | received {c : Nat} {m : Message} {more : List Message} (isOpen : c ∉ s.closed) :
      Move s (.handling c [] .read) (.receive m more) s (.handling c more (.load m))
  | buffered {c : Nat} {m : Message} {rest : List Message} :
      Move s (.handling c (m :: rest) .read) .go s (.handling c rest (.load m))
  | unread {c : Nat} {ahead : List Message} {choice : Choice} :
      Move s (.handling c ahead .read) choice s (.handling c ahead .close)
  | passed {c : Nat} {ahead : List Message} {m : Message} (spent : s.failNext ≤ 0) :
      Move s (.handling c ahead (.load m)) .go { s with passed := c :: s.passed }
        (.handling c ahead (.dispatch m))
  | loaded {c : Nat} {ahead : List Message} {m : Message} (left : 0 < s.failNext) :
      Move s (.handling c ahead (.load m)) .go s (.handling c ahead (.swap m s.failNext))
  | swapped {c : Nat} {ahead : List Message} {m : Message} :
      Move s (.handling c ahead (.swap m s.failNext)) .go
        { s with failNext := s.failNext - 1, injected := c :: s.injected } (.handling c ahead .drop)
  | outrun {c : Nat} {ahead : List Message} {m : Message} {cur : Int} (changed : s.failNext ≠ cur) :
      Move s (.handling c ahead (.swap m cur)) .go s (.handling c ahead (.load m))
  | dropped {c : Nat} {ahead : List Message} :
      Move s (.handling c ahead .drop) .go (s.close c) (.handling c ahead .close)
  | handled {c : Nat} {ahead : List Message} :
      Move s (.handling c ahead (.dispatch .known)) .go { s with handled := c :: s.handled }
        (.handling c ahead .reply)
  | panicked {c : Nat} {ahead : List Message} :
      Move s (.handling c ahead (.dispatch .panics)) .go { s with handled := c :: s.handled }
        (.handling c ahead .recover)
  | unknown {c : Nat} {ahead : List Message} :
      Move s (.handling c ahead (.dispatch .unknown)) .go s (.handling c ahead .read)
  | garbled {c : Nat} {ahead : List Message} :
      Move s (.handling c ahead (.dispatch .garbled)) .go s (.handling c ahead .close)
  | completed {c : Nat} {m : Message} {known : Bool} {more : List Message} (isOpen : c ∉ s.closed) :
      Move s (.handling c [] (.dispatch (.cut known))) (.receive m more) s
        (.handling c more (.dispatch m))
  | unfinished {c : Nat} {ahead : List Message} {choice : Choice} :
      Move s (.handling c ahead (.dispatch (.cut true))) choice s (.handling c ahead .close)
  | unskipped {c : Nat} {ahead : List Message} {choice : Choice} :
      Move s (.handling c ahead (.dispatch (.cut false))) choice s (.handling c ahead .read)
  | replied {c : Nat} {ahead : List Message} (isOpen : c ∉ s.closed) :
      Move s (.handling c ahead .reply) .go s (.handling c ahead .read)
  | unreplied {c : Nat} {ahead : List Message} {choice : Choice} :
      Move s (.handling c ahead .reply) choice s (.handling c ahead .close)
  | recovered {c : Nat} {ahead : List Message} :
      Move s (.handling c ahead .recover) .go { s with panics := s.panics + 1 }
        (.handling c ahead .close)
  | closed {c : Nat} {ahead : List Message} :
      Move s (.handling c ahead .close) .go (s.close c) (.handling c ahead .delete)
  | deleted {c : Nat} {ahead : List Message} :
      Move s (.handling c ahead .delete) .go { s with conns := s.conns.filter (· ≠ c) }
        (.handling c ahead .done)
  | done {c : Nat} {ahead : List Message} :
      Move s (.handling c ahead .done) .go { s with wg := s.wg - 1 } .exited

variable {s s' : Shared} {choice : Choice} {g' : Goroutine} {c : Nat} {ahead : List Message}

private theorem serveStep_move {position : Serve}
    (moved : serveStep s position choice = some (s', g')) :
    Move s (.serving position) choice s' g' := by
  unfold serveStep at moved
  split at moved
  · split at moved
    · next isOpen =>
      cases moved
      exact .accepted isOpen
    · cases moved
  · split at moved
    · cases moved
    · cases moved
      exact .unaccepted
  · cases moved
    exact .unaccepted
  · split at moved
    · cases moved
    · next free =>
      cases moved
      exact .served (Bool.eq_false_iff.mpr free)
  · cases moved
    split
    · next stopped => exact .tooLate stopped
    · next runs => exact .admitted (Bool.eq_false_iff.mpr runs)
  · cases moved
    exact .stored
  · cases moved
    exact .spawned
  · cases moved
    exact .unlocked
  · cases moved
    exact .rejected
  · cases moved
    exact .refused
  · cases moved

private theorem stopStep_move {position : Stop} (moved : stopStep s position choice = some (s', g')) :
    Move s (.stopping position) choice s' g' := by
  unfold stopStep at moved
  split at moved
  · split at moved
    · cases moved
    · next free =>
      cases moved
      exact .locked (Bool.eq_false_iff.mpr free)
  · split at moved
    · next stopped =>
      cases moved
      exact .again stopped
    · next runs =>
      cases moved
      exact .first (Bool.eq_false_iff.mpr runs)
  · cases moved
    exact .left
  · cases moved
    exact .marked
  · cases moved
    exact .deaf
  · cases moved
    exact .range
  · split at moved
    · cases moved
      exact .visited
    · cases moved
  · split at moved
    · next all =>
      cases moved
      exact .ranged all
    · cases moved
  · split at moved
    · next none =>
      cases moved
      exact .returned none
    · cases moved
  · cases moved

private theorem cut_move (s : Shared) (c : Nat) (ahead : List Message) (known : Bool)
    (choice : Choice) :
    Move s (.handling c ahead (.dispatch (.cut known))) choice s
      (.handling c ahead (if known then .close else .read)) := by
  cases known with
  | true => exact .unfinished
  | false => exact .unskipped

private theorem dispatchStep_move {m : Message}
    (moved : dispatchStep s c ahead m choice = some (s', g')) :
    Move s (.handling c ahead (.dispatch m)) choice s' g' := by
  unfold dispatchStep at moved
  split at moved
  · cases moved
    exact .handled
  · cases moved
    exact .panicked
  · cases moved
    exact .unknown
  · cases moved
    exact .garbled
  · split at moved
    · next ready =>
      obtain ⟨rfl, isOpen⟩ := ready
      cases moved
      exact .completed isOpen
    · cases moved
  · split at moved
    · cases moved
      exact cut_move ..
    · cases moved
  · cases moved
    exact cut_move ..
  · cases moved

private theorem readStep_move (moved : handleStep s c ahead .read .go = some (s', g')) :
    Move s (.handling c ahead .read) .go s' g' := by
  cases ahead with
  | nil =>
    simp only [handleStep] at moved
    split at moved
    · cases moved
      exact .unread
    · cases moved
  | cons m rest =>
    cases moved
    exact .buffered

private theorem handleStep_move {position : Handle}
    (moved : handleStep s c ahead position choice = some (s', g')) :
    Move s (.handling c ahead position) choice s' g' := by
  unfold handleStep at moved
  split at moved
  · split at moved
    · next ready =>
      obtain ⟨rfl, isOpen⟩ := ready
      cases moved
      exact .received isOpen
    · cases moved
  · exact readStep_move moved
  · cases moved
    exact .unread
  · split at moved
    · next spent =>
      cases moved
      exact .passed spent
    · next left =>
      cases moved
      exact .loaded (Int.lt_of_not_ge left)
  · split at moved
    · next same =>
      subst same
      cases moved
      exact .swapped
    · next changed =>
      cases moved
      exact .outrun changed
  · cases moved
    exact .dropped
  · exact dispatchStep_move moved
  · cases moved
    split
    · exact .unreplied
    · next isOpen => exact .replied isOpen
  · cases moved
    exact .unreplied
  · cases moved
    exact .recovered
  · cases moved
    exact .closed
  · cases moved
    exact .deleted
  · cases moved
    exact .done
  · cases moved

/-- Every step is one of the moves. -/
theorem step_move {g : Goroutine} (moved : step s g choice = some (s', g')) :
    Move s g choice s' g' := by
  unfold step at moved
  split at moved
  · cases moved
    exact .stop
  · split at moved
    · next pending =>
      cases moved
      exact .start pending
    · cases moved
  · exact serveStep_move moved
  · exact stopStep_move moved
  · exact handleStep_move moved
  · cases moved

end HmsClient.TestServer
