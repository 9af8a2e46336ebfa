import HmsClient.ReadAhead
import HmsClient.StreamParser
import HmsClient.Types
import Mathlib.Data.List.AList

/-! The proxy `hmsrecord`. What the client sends is written to the server as it is read,
before it is parsed, and each message is recorded; where parsing fails the rest is copied.
The parser is Thrift's and stays a parameter. It reads ahead through a buffer, and the
bytes read since the last message are counted below that buffer: so the end of the stream
inside a message is taken for the client hanging up if the beginning of the message came
with the end of another. -/
namespace HmsClient.Hmsrecord
open ReadAhead StreamParser

/-- What Thrift returns of the header of a message. -/
structure Header where
  name : Text
  type : Int32
  seqID : Int32
deriving DecidableEq

/-- `call`. -/
structure Call where
  time : Int
  client : Text
  method : Text := []
  type : String := ""
  seqID : Int32 := 0
  note : String := ""
deriving DecidableEq

def messageType (t : Int32) : String :=
  if t = 1 then "call"
  else if t = 4 then "oneway"
  else if t = 2 then "reply"
  else if t = 3 then "exception"
  else "type-" ++ toString t.toInt

/-- `recorder`, with the lines that it has written. -/
structure Recorder where
  counts : AList fun _ : Text => Nat
  lines : List Call

/-- `recorder.record`. -/
def Recorder.record (r : Recorder) (c : Call) : Recorder where
  counts :=
    if c.method ≠ [] then r.counts.insert c.method ((r.counts.lookup c.method).getD 0 + 1)
    else r.counts
  lines := r.lines ++ [c]

/-- What happens on a connection from the client to the server. -/
inductive Event where
  | received (bytes : Bytes)
  | sent (bytes : Bytes)
  | recorded (c : Call)
deriving DecidableEq

def received (log : List Event) : List Bytes :=
  log.filterMap fun
    | .received bytes => some bytes
    | _ => none

def sent (log : List Event) : Bytes :=
  log.flatMap fun
    | .sent bytes => bytes
    | _ => []

def recorded (log : List Event) : List Call :=
  log.filterMap fun
    | .recorded c => some c
    | _ => none

/-- The client's address, the clock by the number of calls recorded, and the text of the
error that Thrift makes of the end of the stream. -/
structure Connection where
  addr : Text
  now : Nat → Int
  endText : String

/-- Why a message could not be read. -/
inductive ReadError where
  | ended
  | malformed (text : String)

def isEOF : ReadError → Bool
  | .ended => true
  | .malformed _ => false

def ReadError.text (conn : Connection) : ReadError → String
  | .ended => conn.endText
  | .malformed text => text

def callOf (conn : Connection) (i : Nat) (h : Header) : Call :=
  { time := conn.now i
    client := conn.addr
    method := h.name
    type := messageType h.type
    seqID := h.seqID }

def noteOf (conn : Connection) (i : Nat) (err : ReadError) : Call :=
  { time := conn.now i
    client := conn.addr
    note := "not TBinaryProtocol, proxying unrecorded: " ++ err.text conn }

/-- The size of a `bufio.Reader` and of the buffer of `io.Copy`. -/
def bufferSize : Nat := 4096

@[inherit_doc bufferSize]
def copySize : Nat := 32768

/-- A read through `io.TeeReader`, which writes what it reads. -/
def relayed (bytes : Bytes) : List Event :=
  if bytes = [] then [] else [.received bytes, .sent bytes]

variable {σ : Type} {src : Arrivals σ}

/-- The variables of `record`: the transport, the counter `in.n`, and what has happened. -/
structure Recording (src : Arrivals σ) where
  input : Buffered src
  n : Nat
  log : List Event

/-- The branch of `record` for an error. -/
def Recording.failed (conn : Connection) (r : Recording src) (err : ReadError) : List Event :=
  if r.n > 0 || !isEOF err then
    r.log ++ .recorded (noteOf conn (recorded r.log).length err) ::
      (src.copied (show 0 < copySize by decide) r.input.below).flatMap relayed
  else r.log

/-- A read of the parser, which the counter and the tee below the buffer see. -/
def Recording.read (r : Recording src) (room : Nat) : Recording src where
  input := (r.input.read bufferSize room).after
  n := r.n + (r.input.read bufferSize room).fetched.length
  log := r.log ++ relayed (r.input.read bufferSize room).fetched

/-- What is left for the parser. -/
def Recording.left (r : Recording src) : Nat :=
  r.input.buffer.length + (src.rest r.input.below).length

theorem Recording.left_read (r : Recording src) {room : Nat} (roomy : 0 < room) :
    (r.read room).left + (r.input.read bufferSize room).bytes.length = r.left := by
  have serves := read_serves (show 0 < bufferSize by decide) roomy r.input
  have handed := congrArg List.length serves.handed
  have next := congrArg List.length serves.next
  rw [List.length_append, List.length_append] at handed
  rw [List.length_append] at next
  unfold Recording.left Recording.read
  dsimp only
  omega

def ofEnd : AtEnd Header String → Except ReadError Header
  | .complete h => .ok h
  | .ended => .error .ended
  | .malformed text => .error (.malformed text)

/-- `ReadMessageBegin`, `Skip` and `ReadMessageEnd`, from inside a message on. An error that
comes with enough bytes is not looked at, as `io.ReadFull` does not; it comes again. -/
def readMessage (P : Parser Header String) (r : Recording src) (s : P.State) :
    Except ReadError Header × Recording src :=
  let got := r.input.read bufferSize (P.room s)
  match feedAll P.feed s got.bytes with
  | .complete h => (.ok h, r.read (P.room s))
  | .malformed text => (.error (.malformed text), r.read (P.room s))
  | .more s' =>
    if _ : got.err ≠ none ∧ got.bytes.length < P.room s then
      (ofEnd (P.atEnd s'), r.read (P.room s))
    else readMessage P (r.read (P.room s)) s'
termination_by r.left
decreasing_by
  have serves := read_serves (show 0 < bufferSize by decide) (P.roomy s) r.input
  have some := List.length_pos_iff.mpr (serves.nonempty (P.roomy s) ‹_›)
  have left := r.left_read (P.roomy s)
  omega

theorem readMessage_left (P : Parser Header String) (r : Recording src) (s : P.State) :
    (readMessage P r s).2.left ≤ r.left := by
  fun_induction readMessage P r s with
  | case1 r s got h fed => exact Nat.le_of_add_right_le (Nat.le_of_eq (r.left_read (P.roomy s)))
  | case2 r s got text fed =>
    exact Nat.le_of_add_right_le (Nat.le_of_eq (r.left_read (P.roomy s)))
  | case3 r s got s' fed ended =>
    exact Nat.le_of_add_right_le (Nat.le_of_eq (r.left_read (P.roomy s)))
  | case4 r s got s' fed going ih =>
    have left := r.left_read (P.roomy s)
    omega

/-- A message that is read takes a byte at least, since before it the end of the stream is
an error. -/
theorem readMessage_shrinks {P : Parser Header String} {r r' : Recording src} {h : Header}
    (read : readMessage P r P.start = (.ok h, r')) : r'.left < r.left := by
  have left := r.left_read (P.roomy P.start)
  cases bytes : (r.input.read bufferSize (P.room P.start)).bytes with
  | nil =>
    have serves := read_serves (show 0 < bufferSize by decide) (P.roomy P.start) r.input
    have ended : (r.input.read bufferSize (P.room P.start)).err ≠ none ∧
        (r.input.read bufferSize (P.room P.start)).bytes.length < P.room P.start := by
      by_contra going
      exact serves.nonempty (P.roomy P.start) going bytes
    rw [readMessage] at read
    simp only [bytes, feedAll] at read
    rw [bytes] at ended
    rw [dif_pos ended, P.atEnd_start] at read
    cases read
  | cons b more =>
    rw [bytes, List.length_cons] at left
    rw [readMessage] at read
    split at read
    · cases read
      omega
    · cases read
    · next s' fed =>
      split at read
      · cases (Prod.mk.inj read).2
        omega
      · have rest := readMessage_left P (r.read (P.room P.start)) s'
        rw [read] at rest
        dsimp only at rest
        omega

/-- The loop of `record`. -/
def loop (P : Parser Header String) (conn : Connection) (r : Recording src) : List Event :=
  match _ : readMessage P { r with n := 0 } P.start with
  | (.error err, r') => r'.failed conn err
  | (.ok h, r') =>
    loop P conn { r' with
      log := r'.log ++ [.recorded (callOf conn (recorded r'.log).length h)] }
termination_by r.left
decreasing_by
  have shrinks := readMessage_shrinks ‹_›
  exact shrinks

/-- `record`, with all that happens until it returns. -/
def record (P : Parser Header String) (conn : Connection) (src : Arrivals σ) (s : σ) :
    List Event :=
  loop P conn ⟨.new src s, 0, []⟩

/-! ## Relaying -/

/-- Every read that brings bytes is followed at once by the write of these bytes, and
nothing else is written. -/
inductive Relayed : List Event → Prop where
  | nil : Relayed []
  | relay {bytes : Bytes} {rest : List Event} (nonempty : bytes ≠ []) :
      Relayed rest → Relayed (.received bytes :: .sent bytes :: rest)
  | recorded {c : Call} {rest : List Event} : Relayed rest → Relayed (.recorded c :: rest)

variable {log : List Event}

theorem Relayed.append {log' : List Event} (first : Relayed log) (second : Relayed log') :
    Relayed (log ++ log') := by
  induction first with
  | nil => exact second
  | relay nonempty _ ih => exact .relay nonempty ih
  | recorded _ ih => exact .recorded ih

theorem Relayed.sent_eq (relays : Relayed log) : sent log = (received log).flatten := by
  induction relays with
  | nil => rfl
  | @relay bytes rest _ _ ih => exact congrArg (bytes ++ ·) ih
  | recorded _ ih => exact ih

theorem Relayed.nonempty (relays : Relayed log) : [] ∉ received log := by
  induction relays with
  | nil => exact List.not_mem_nil
  | @relay bytes rest nonempty _ ih =>
    change [] ∉ bytes :: received rest
    rw [List.mem_cons, not_or]
    exact ⟨nonempty.symm, ih⟩
  | recorded _ ih => exact ih

theorem received_append (log log' : List Event) :
    received (log ++ log') = received log ++ received log' :=
  List.filterMap_append

private theorem recorded_append (log log' : List Event) :
    recorded (log ++ log') = recorded log ++ recorded log' :=
  List.filterMap_append

theorem relayed_cases (bytes : Bytes) :
    (bytes = [] ∧ relayed bytes = []) ∨
      (bytes ≠ [] ∧ relayed bytes = [.received bytes, .sent bytes]) := by
  unfold relayed
  split
  · next empty => exact .inl ⟨empty, rfl⟩
  · next some => exact .inr ⟨some, rfl⟩

private theorem relayed_relays (bytes : Bytes) : Relayed (relayed bytes) := by
  rcases relayed_cases bytes with ⟨-, none⟩ | ⟨some, both⟩
  · rw [none]
    exact .nil
  · rw [both]
    exact .relay some .nil

private theorem recorded_relayed (bytes : Bytes) : recorded (relayed bytes) = [] := by
  rcases relayed_cases bytes with ⟨-, none⟩ | ⟨-, both⟩
  · rw [none]
    rfl
  · rw [both]
    rfl

/-- Pieces relayed one after the other. -/
theorem relayed_pieces {pieces : List Bytes} (nonempty : [] ∉ pieces) :
    Relayed (pieces.flatMap relayed) ∧ received (pieces.flatMap relayed) = pieces ∧
      recorded (pieces.flatMap relayed) = [] := by
  induction pieces with
  | nil => exact ⟨.nil, rfl, rfl⟩
  | cons piece rest ih =>
    rw [List.mem_cons, not_or] at nonempty
    obtain ⟨here, later⟩ := nonempty
    obtain ⟨relays, read, noted⟩ := ih later
    have both : relayed piece = [.received piece, .sent piece] := if_neg (Ne.symm here)
    rw [List.flatMap_cons, received_append, recorded_append, both, read, noted]
    exact ⟨.relay (Ne.symm here) relays, rfl, rfl⟩

/-! ## Runs -/

section Runs
variable {P : Parser Header String} {conn : Connection} {stream : Bytes} {log : List Event}
  {n : Nat} {consumed ahead rest : Bytes}

/-- The messages of the bytes that were read before the last read. -/
def beforeLast (P : Parser Header String) (reads : List Bytes) : Nat :=
  (parse P reads.dropLast.flatten).messages.length

/-- A message ends within the last read. -/
def LastCompletes (P : Parser Header String) (reads : List Bytes) : Prop :=
  beforeLast P reads < (parse P reads.flatten).messages.length

/-- A stream that is parsed up to `consumed` and read up to `ahead`: what was read was
relayed, each message was recorded, and the counter stands at zero if one was completed
after the last read. -/
structure Along (P : Parser Header String) (conn : Connection) (stream : Bytes)
    (log : List Event) (n : Nat) (consumed ahead rest : Bytes) : Prop where
  whole : stream = consumed ++ ahead ++ rest
  seen : (received log).flatten = consumed ++ ahead
  relays : Relayed log
  calls : recorded log = (parse P consumed).messages.mapIdx (callOf conn)
  behind : (received log).dropLast.flatten <+: consumed
  counted : n = 0 ↔
    received log = [] ∨ beforeLast P (received log) < (parse P consumed).messages.length

/-- The buffer is filled only when all that was read is parsed. -/
private theorem Along.fetch (along : Along P conn stream log n consumed ahead (fetched ++ rest))
    (empty : fetched ≠ [] → ahead = []) :
    Along P conn stream (log ++ relayed fetched) (n + fetched.length) consumed
      (ahead ++ fetched) rest := by
  rcases relayed_cases fetched with ⟨rfl, none⟩ | ⟨some, both⟩
  · rw [none, List.append_nil, List.append_nil]
    exact along
  · have drained : ahead = [] := empty some
    subst drained
    have reads : received (log ++ relayed fetched) = received log ++ [fetched] := by
      rw [received_append, both]
      rfl
    have earlier : (received log).flatten = consumed := by rw [along.seen, List.append_nil]
    refine ⟨?_, ?_, along.relays.append (relayed_relays fetched), ?_, ?_, ?_⟩
    · rw [along.whole]
      simp
    · rw [reads, List.flatten_append, earlier]
      simp
    · rw [recorded_append, recorded_relayed, List.append_nil, along.calls]
    · exact ⟨[], by rw [List.append_nil, reads, List.dropLast_concat, earlier]⟩
    · rw [beforeLast, reads, List.dropLast_concat, earlier]
      have longer := List.length_pos_iff.mpr some
      refine ⟨fun zero => by omega, fun reset => ?_⟩
      rcases reset with none | less
      · exact absurd none (List.append_ne_nil_of_right_ne_nil _ (List.cons_ne_nil _ _))
      · exact absurd less (Nat.lt_irrefl _)

private theorem Along.undecided (along : Along P conn stream log n consumed (bytes ++ ahead) rest)
    (same : (parse P (consumed ++ bytes)).messages = (parse P consumed).messages) :
    Along P conn stream log n (consumed ++ bytes) ahead rest where
  whole := by
    rw [along.whole]
    simp
  seen := by
    rw [along.seen]
    simp
  relays := along.relays
  calls := by rw [same, along.calls]
  behind := along.behind.trans (List.prefix_append _ _)
  counted := by rw [same, along.counted]

private theorem Along.completed (along : Along P conn stream log n consumed (bytes ++ ahead) rest)
    (longer : (parse P (consumed ++ bytes)).messages = (parse P consumed).messages ++ [h]) :
    Along P conn stream (log ++ [.recorded (callOf conn (recorded log).length h)]) 0
      (consumed ++ bytes) ahead rest := by
  have reads : received (log ++ [.recorded (callOf conn (recorded log).length h)]) =
      received log := by
    rw [received_append]
    exact List.append_nil _
  have fewer : beforeLast P (received log) ≤ (parse P consumed).messages.length := by
    obtain ⟨more, same⟩ := along.behind
    rw [← same, parse_append]
    exact (messages_grow _ more).length_le
  refine ⟨?_, ?_, along.relays.append (.recorded .nil), ?_, ?_, ?_⟩
  · rw [along.whole]
    simp
  · rw [reads, along.seen]
    simp
  · have index : (recorded log).length = (parse P consumed).messages.length := by
      rw [along.calls, List.length_mapIdx]
    rw [recorded_append, longer, List.mapIdx_append, ← along.calls, ← index]
    simp [recorded]
  · rw [reads]
    exact along.behind.trans (List.prefix_append _ _)
  · rw [reads, longer, List.length_append, List.length_singleton]
    exact ⟨fun _ => .inr (by omega), fun _ => rfl⟩

/-- What is recorded after the calls. If the parser reports the end of the stream, that is
nothing as long as the counter stands at zero. -/
def lastLines (conn : Connection) (i : Nat) (quiet : Prop) [Decidable quiet] :
    AtEnd Header String → List Call
  | .complete h => [callOf conn i h]
  | .malformed text => [noteOf conn i (.malformed text)]
  | .ended => if quiet then [] else [noteOf conn i .ended]

/-- The counter stands at zero when the stream ends. -/
abbrev Uncounted (P : Parser Header String) (reads : List Bytes) : Prop :=
  reads = [] ∨ LastCompletes P reads

instance (P : Parser Header String) (reads : List Bytes) : Decidable (LastCompletes P reads) :=
  Nat.decLt _ _

/-- What a run leaves. -/
structure Outcome (P : Parser Header String) (conn : Connection) (stream : Bytes)
    (log : List Event) : Prop where
  relays : Relayed log
  whole : (received log).flatten = stream
  ended : recorded log = (parse P stream).messages.mapIdx (callOf conn) ++
    lastLines conn (parse P stream).messages.length (Uncounted P (received log))
      (parse P stream).atEnd

variable {r : Recording src} {s : P.State}

/-- A note, and the rest of the stream copied after it. -/
private theorem noted (conn : Connection) (relays : Relayed r.log) (err : ReadError)
    (noting : (r.n > 0 || !isEOF err) = true) :
    Relayed (r.failed conn err) ∧
      (∃ copied, copied.flatten = src.rest r.input.below ∧ [] ∉ copied ∧
        received (r.failed conn err) = received r.log ++ copied) ∧
      recorded (r.failed conn err) =
        recorded r.log ++ [noteOf conn (recorded r.log).length err] := by
  obtain ⟨whole, nonempty⟩ := copied_spec (show 0 < copySize by decide) r.input.below
  obtain ⟨copies, read, silent⟩ := relayed_pieces nonempty
  rw [Recording.failed, if_pos noting, received_append, recorded_append]
  refine ⟨relays.append (.recorded copies), ⟨_, whole, nonempty, ?_⟩, ?_⟩
  · exact congrArg (received r.log ++ ·) read
  · exact congrArg (recorded r.log ++ _ :: ·) silent

private theorem eq_nil_of_flatten {pieces : List Bytes} (nonempty : [] ∉ pieces)
    (nothing : pieces.flatten = []) : pieces = [] := by
  cases pieces with
  | nil => rfl
  | cons piece rest =>
    rw [List.flatten_cons, List.append_eq_nil_iff] at nothing
    exact absurd (nothing.1 ▸ List.mem_cons_self) nonempty

section Ended
variable {r : Recording src} {s : P.State}
  (along : Along P conn stream r.log r.n stream [] []) (empty : src.rest r.input.below = [])
  (here : (parse P stream).state = some s)
include along empty here

/-- The outcome of a run that takes a note when the stream is used up. -/
private theorem outcome_noted {err : ReadError} (noting : (r.n > 0 || !isEOF err) = true)
    (line : lastLines conn (parse P stream).messages.length (Uncounted P (received r.log))
      (P.atEnd s) = [noteOf conn (parse P stream).messages.length err]) :
    Outcome P conn stream (r.failed conn err) := by
  obtain ⟨relays, ⟨copied, nothing, nonempty, reads⟩, calls⟩ := noted conn along.relays err noting
  rw [eq_nil_of_flatten nonempty (nothing.trans empty), List.append_nil] at reads
  refine ⟨relays, ?_, ?_⟩
  · rw [reads, along.seen, List.append_nil]
  · have index : (recorded r.log).length = (parse P stream).messages.length := by
      rw [along.calls, List.length_mapIdx]
    rw [reads, atEnd_of_state here, line, calls, index, along.calls]

/-- Reading a message ends with the stream. -/
private theorem outcome_ended (failed : ofEnd (P.atEnd s) = .error err) :
    Outcome P conn stream (r.failed conn err) := by
  have seen : (received r.log).flatten = stream := by rw [along.seen, List.append_nil]
  have counted : r.n = 0 ↔ Uncounted P (received r.log) := by
    rw [along.counted, Uncounted, LastCompletes, seen]
  cases atEnd : P.atEnd s with
  | complete h =>
    rw [atEnd] at failed
    cases failed
  | malformed text =>
    rw [atEnd] at failed
    cases failed
    refine outcome_noted along empty here (Bool.or_true _) ?_
    rw [atEnd, lastLines]
  | ended =>
    rw [atEnd] at failed
    cases failed
    by_cases quiet : r.n = 0
    · have log : r.failed conn .ended = r.log := by
        rw [Recording.failed, quiet]
        rfl
      rw [log]
      refine ⟨along.relays, seen, ?_⟩
      rw [atEnd_of_state here, atEnd, lastLines, if_pos (counted.mp quiet), List.append_nil]
      exact along.calls
    · refine outcome_noted along empty here (by simp [Nat.pos_of_ne_zero quiet]) ?_
      rw [atEnd, lastLines, if_neg fun uncounted => quiet (counted.mpr uncounted)]

end Ended

/-- The outcome of a run that meets a message it cannot parse. -/
private theorem outcome_malformed
    (along : Along P conn stream r.log r.n consumed ahead (src.rest r.input.below))
    (here : (parse P consumed).phase = .failed text) :
    Outcome P conn stream (r.failed conn (.malformed text)) := by
  have noting : (r.n > 0 || !isEOF (.malformed text)) = true := Bool.or_true _
  have same : parse P stream = parse P consumed := by
    rw [along.whole, List.append_assoc, parse_append]
    exact absorb_failed here _
  obtain ⟨relays, ⟨copied, copies, -, reads⟩, calls⟩ :=
    noted conn along.relays (.malformed text) noting
  have atEnd : (parse P stream).atEnd = .malformed text := by
    rw [same, Progress.atEnd, here]
  refine ⟨relays, ?_, ?_⟩
  · rw [reads, List.flatten_append, along.seen, copies, along.whole]
  · rw [atEnd, lastLines, calls, along.calls, same, List.length_mapIdx]

private theorem reads_serve (P : Parser Header String) (r : Recording src) (s : P.State) :
    Serves r.input (P.room s) (r.input.read bufferSize (P.room s)) :=
  read_serves (by decide) (P.roomy s) r.input

/-- A read through the buffer moves bytes from the input to what is ahead of the parser. -/
private theorem Along.read
    (along : Along P conn stream r.log r.n consumed r.input.buffer (src.rest r.input.below))
    (s : P.State) :
    let got := r.input.read bufferSize (P.room s)
    Along P conn stream (r.read (P.room s)).log (r.read (P.room s)).n consumed
      (got.bytes ++ got.after.buffer) (src.rest got.after.below) := by
  have serves := reads_serve P r s
  rw [serves.next] at along
  have fetched := along.fetch serves.ahead
  rwa [serves.handed] at fetched

/-- Bytes that decide something are parsed as they are fed. -/
private theorem parse_decided (here : (parse P consumed).state = some s)
    (fed : feedAll P.feed s (r.input.read bufferSize (P.room s)).bytes = decided)
    (decides : ∀ s', decided ≠ .more s') :
    parse P (consumed ++ (r.input.read bufferSize (P.room s)).bytes) =
      settle (parse P consumed).messages decided := by
  have nonempty : (r.input.read bufferSize (P.room s)).bytes ≠ [] := by
    intro nothing
    rw [nothing] at fed
    exact decides s fed.symm
  rw [parse_append, ← fed]
  exact absorb_fed here nonempty (reads_serve P r s).fits

/-- What comes of reading a message, by how it ends. -/
inductive MessageRead (P : Parser Header String) (conn : Connection) (stream : Bytes)
    (r : Recording src) : Except ReadError Header → Prop where
  | complete {consumed : Bytes} {h : Header} :
      Along P conn stream (r.log ++ [.recorded (callOf conn (recorded r.log).length h)]) 0
        consumed r.input.buffer (src.rest r.input.below) →
      (parse P consumed).state = some P.start → MessageRead P conn stream r (.ok h)
  | malformed {consumed : Bytes} {text : String} :
      Along P conn stream r.log r.n consumed r.input.buffer (src.rest r.input.below) →
      (parse P consumed).phase = .failed text →
      MessageRead P conn stream r (.error (.malformed text))
  | ended {s : P.State} :
      Along P conn stream r.log r.n stream [] [] → r.input.buffer = [] →
      src.rest r.input.below = [] → (parse P stream).state = some s →
      MessageRead P conn stream r (ofEnd (P.atEnd s))

/-- By induction on the reads, with what `Along` says after each of them. -/
private theorem readMessage_reads
    (along : Along P conn stream r.log r.n consumed r.input.buffer (src.rest r.input.below))
    (here : (parse P consumed).state = some s) :
    MessageRead P conn stream (readMessage P r s).2 (readMessage P r s).1 := by
  fun_induction readMessage P r s generalizing consumed
  case case1 r s got h fed =>
    have parsed := parse_decided here fed nofun
    have longer : (parse P (consumed ++ _)).messages = _ := congrArg Progress.messages parsed
    have there : (parse P (consumed ++ _)).state = _ := congrArg Progress.state parsed
    exact .complete ((along.read s).completed longer) there
  case case2 r s got text fed =>
    have parsed := parse_decided here fed nofun
    have same : (parse P (consumed ++ _)).messages = _ := congrArg Progress.messages parsed
    have there : (parse P (consumed ++ _)).phase = _ := congrArg Progress.phase parsed
    exact .malformed ((along.read s).undecided same) there
  case case3 r s got s' fed ended =>
    -- The bytes short of what was wanted are parsed too, but they decide nothing.
    obtain ⟨drained, finished⟩ := (reads_serve P r s).ends ended.1
    obtain ⟨same, there⟩ := absorb_undecided here fed
    rw [← parse_append] at same there
    have read := (along.read s).undecided same
    rw [drained, finished] at read
    have whole : stream = consumed ++ got.bytes := by
      rw [read.whole, List.append_nil, List.append_nil]
    rw [← whole] at there
    change Along P conn stream _ _ (consumed ++ got.bytes) [] [] at read
    rw [← whole] at read
    exact .ended read drained finished there
  case case4 r s got s' fed going ih =>
    obtain ⟨same, there⟩ := absorb_undecided here fed
    rw [← parse_append] at same there
    exact ih ((along.read s).undecided same) there

/-- At the end of the stream, and between two messages, nothing happens any more. -/
private theorem loop_drained (P : Parser Header String) (conn : Connection)
    (drained : r.input.buffer = []) (finished : src.rest r.input.below = []) :
    loop P conn r = r.log := by
  have serves := reads_serve P { r with n := 0 } P.start
  have nothing : (r.input.read bufferSize (P.room P.start)).fetched = [] ∧
      (r.input.read bufferSize (P.room P.start)).bytes = [] := by
    have next := serves.next
    have handed := serves.handed
    dsimp only at next handed
    rw [finished, eq_comm, List.append_eq_nil_iff] at next
    rw [drained, next.1, List.append_nil, eq_comm, List.append_eq_nil_iff] at handed
    exact ⟨next.1, handed.1⟩
  have ended : (r.input.read bufferSize (P.room P.start)).err ≠ none ∧
      ([] : Bytes).length < P.room P.start := by
    refine ⟨fun going => ?_, P.roomy P.start⟩
    exact serves.waits going nothing.2
  have read : readMessage P { r with n := 0 } P.start =
      (.error .ended, Recording.read { r with n := 0 } (P.room P.start)) := by
    rw [readMessage]
    simp only [nothing.2, feedAll]
    rw [dif_pos ended, P.atEnd_start]
    rfl
  rw [loop, read]
  simp [Recording.failed, Recording.read, nothing.1, relayed, isEOF]

/-- The message that the end of the stream was taken for. -/
private theorem outcome_taken (along : Along P conn stream r.log r.n stream [] [])
    (here : (parse P stream).state = some s) (taken : P.atEnd s = .complete h) :
    Outcome P conn stream (r.log ++ [.recorded (callOf conn (recorded r.log).length h)]) := by
  have reads : received (r.log ++ [.recorded (callOf conn (recorded r.log).length h)]) =
      received r.log := by
    rw [received_append]
    exact List.append_nil _
  have index : (recorded r.log).length = (parse P stream).messages.length := by
    rw [along.calls, List.length_mapIdx]
  refine ⟨along.relays.append (.recorded .nil), ?_, ?_⟩
  · rw [reads, along.seen, List.append_nil]
  · rw [atEnd_of_state here, taken, lastLines, recorded_append, index, along.calls]
    rfl

/-- The outcome of the loop from a message boundary on, by induction on the messages. -/
theorem loop_outcome
    (along : Along P conn stream r.log 0 consumed r.input.buffer (src.rest r.input.below))
    (here : (parse P consumed).state = some P.start) : Outcome P conn stream (loop P conn r) := by
  fun_induction loop P conn r generalizing consumed with
  | case1 r err r' read =>
    have reads := readMessage_reads (r := { r with n := 0 }) along here
    rw [read] at reads
    dsimp only at reads
    generalize result : Except.error err = outcome at reads
    cases reads with
    | complete => cases result
    | malformed along failed =>
      cases result
      exact outcome_malformed along failed
    | ended along drained finished there => exact outcome_ended along finished there result.symm
  | case2 r h r' read ih =>
    have reads := readMessage_reads (r := { r with n := 0 }) along here
    rw [read] at reads
    dsimp only at reads
    generalize result : Except.ok h = outcome at reads
    cases reads with
    | complete along there =>
      cases result
      exact ih along there
    | malformed => cases result
    | @ended s along drained finished there =>
      have taken : P.atEnd s = .complete h := by
        cases atEnd : P.atEnd s <;> rw [atEnd] at result <;> cases result
        rfl
      have rest := loop_drained P conn (r := { r' with
        log := r'.log ++ [.recorded (callOf conn (recorded r'.log).length h)] }) drained finished
      rw [rest]
      exact outcome_taken along there taken

theorem record_outcome (P : Parser Header String) (conn : Connection) (src : Arrivals σ) (s : σ) :
    Outcome P conn (src.rest s) (record P conn src s) := by
  have start : Along P conn (src.rest s) [] 0 [] [] (src.rest s) :=
    ⟨rfl, rfl, .nil, rfl, List.nil_prefix, ⟨fun _ => .inl rfl, fun _ => rfl⟩⟩
  exact loop_outcome start rfl

end Runs

/-! ## Recording -/

/-- The recorder after what happened on a connection. -/
def Recorder.after (r : Recorder) (log : List Event) : Recorder :=
  (recorded log).foldl Recorder.record r

private theorem lines_recorded (r : Recorder) (calls : List Call) :
    (calls.foldl Recorder.record r).lines = r.lines ++ calls := by
  induction calls generalizing r with
  | nil => exact (List.append_nil _).symm
  | cons c rest ih =>
    rw [List.foldl_cons, ih]
    simp [Recorder.record]

theorem noteOf_note (conn : Connection) (i : Nat) (err : ReadError) :
    (noteOf conn i err).note ≠ "" := by
  simp [noteOf]

/-- What is recorded after the calls is a note, if it is not a call. -/
private theorem lastLines_notes (conn : Connection) (i : Nat) (quiet : Prop) [Decidable quiet]
    (untaken : ∀ h, atEnd ≠ .complete h) :
    (lastLines conn i quiet atEnd).length ≤ 1 ∧
      ∀ c ∈ lastLines conn i quiet atEnd, c.note ≠ "" := by
  cases atEnd with
  | complete h => exact absurd rfl (untaken h)
  | malformed text =>
    refine ⟨Nat.le_refl 1, fun c one => ?_⟩
    rw [List.mem_singleton.mp one]
    exact noteOf_note conn i _
  | ended =>
    rw [lastLines]
    split
    · exact ⟨Nat.zero_le 1, nofun⟩
    · refine ⟨Nat.le_refl 1, fun c one => ?_⟩
      rw [List.mem_singleton.mp one]
      exact noteOf_note conn i _

/-- The bytes pass: each read is followed by the write of what it brought, and all of the
stream is written. -/
structure Proxied (stream : Bytes) (log : List Event) : Prop where
  relays : Relayed log
  read : (received log).flatten = stream
  written : sent log = stream

/-- The recorder gets one line for each message that is complete before parsing fails, in
order, and after them at most a note. -/
structure CallsRecorded (P : Parser Header String) (conn : Connection) (stream : Bytes)
    (before after : Recorder) (notes : List Call) : Prop where
  lines : after.lines = before.lines ++ (parse P stream).messages.mapIdx (callOf conn) ++ notes
  once : notes.length ≤ 1
  noted : ∀ c ∈ notes, c.note ≠ ""

/-- The stream ends inside a message, which the parser then takes for complete. -/
def EndTaken (P : Parser Header String) (stream : Bytes) : Prop :=
  ∃ h, (parse P stream).atEnd = .complete h

/-- The calls of the stream are recorded, followed by notes only, unless the parser takes the
end of the stream for the end of a message: that call is one too many. -/
theorem callsRecorded_iff {P : Parser Header String} {conn : Connection} {stream : Bytes}
    (outcome : Outcome P conn stream log) (rec : Recorder) :
    (∃ notes, CallsRecorded P conn stream rec (rec.after log) notes) ↔ ¬EndTaken P stream := by
  have lines : (rec.after log).lines = rec.lines ++
      ((parse P stream).messages.mapIdx (callOf conn) ++
        lastLines conn (parse P stream).messages.length (Uncounted P (received log))
          (parse P stream).atEnd) := by
    rw [Recorder.after, lines_recorded, outcome.ended]
  constructor
  · rintro ⟨notes, recorded⟩ ⟨h, taken⟩
    have same := recorded.lines
    rw [lines, taken, lastLines, List.append_assoc, List.append_cancel_left_eq,
      List.append_cancel_left_eq] at same
    exact recorded.noted _ (same ▸ List.mem_singleton_self _) rfl
  · intro untaken
    have notes := lastLines_notes conn (parse P stream).messages.length
      (Uncounted P (received log)) fun h taken => untaken ⟨h, taken⟩
    exact ⟨_, lines.trans (List.append_assoc _ _ _).symm, notes.1, notes.2⟩

/-- Whatever the client sends and however it comes in pieces, the bytes pass. The calls are
recorded exactly if the parser does not take the end of the stream for that of a message. -/
theorem proxy_is_transparent_iff (P : Parser Header String) (conn : Connection)
    (src : Arrivals σ) (s : σ) (rec : Recorder) :
    let log := record P conn src s
    Proxied (src.rest s) log ∧
      ((∃ notes, CallsRecorded P conn (src.rest s) rec (rec.after log) notes) ↔
        ¬EndTaken P (src.rest s)) := by
  have outcome := record_outcome P conn src s
  have passed : Proxied (src.rest s) (record P conn src s) :=
    ⟨outcome.relays, outcome.whole, outcome.relays.sent_eq.trans outcome.whole⟩
  exact ⟨passed, callsRecorded_iff outcome rec⟩

/-! ## Calls without arguments -/

/-- What an item of a call is read for. -/
inductive CallItem where
  | version
  | nameSize (type : Int32)
  | name (type : Int32)
  | seqID (type : Int32) (name : Text)
  | field (h : Header)

private def bigEndian (bytes : Bytes) : Nat := bytes.foldl (fun n b => n * 256 + b.toNat) 0

private def finishItem : CallItem → Bytes → Next CallItem Header String
  | .version, bytes =>
    if bytes.take 3 = [0x80, 1, 0] then .item 3 (.nameSize (.ofNat (bigEndian (bytes.drop 3))))
    else .malformed "Bad version in ReadMessageBegin"
  | .nameSize type, bytes =>
    match bigEndian bytes with
    | 0 => .item 3 (.seqID type [])
    | more + 1 => .item more (.name type)
  | .name type, bytes => .item 3 (.seqID type bytes)
  | .seqID type name, bytes => .item 0 (.field ⟨name, type, .ofNat (bigEndian bytes)⟩)
  | .field h, bytes => if bytes = [0] then .complete h else .malformed "Unknown data type"

/-- `Skip` drops the error of `ReadFieldBegin`, and what that returns with it is a stop. -/
private def callEnd : CallItem → AtEnd Header String
  | .field h => .complete h
  | _ => .ended

/-- Thrift's parser, as far as calls without arguments and their beginnings go. -/
def emptyCalls : Parser Header String :=
  .ofItems ⟨3, [], .version⟩ finishItem callEnd rfl

def hangingUp : Connection := ⟨[], fun _ => 0, "EOF"⟩

/-- A call of `a`, up to where its arguments begin. -/
def headOfA : Bytes := [0x80, 1, 0, 1, 0, 0, 0, 1, 97, 0, 0, 0, 7]

private theorem parse_headOfA :
    parse emptyCalls headOfA = ⟨[], .inside ⟨0, [], .field ⟨[97], 1, 7⟩⟩⟩ := rfl

/-- A call that ends before its arguments is recorded, though it is not complete. -/
theorem cut_call_is_recorded :
    let log := record emptyCalls hangingUp (pieces false) [headOfA]
    (parse emptyCalls headOfA).messages = [] ∧
      recorded log = [⟨0, [], [97], "call", 7, ""⟩] ∧
      ∀ rec notes, ¬CallsRecorded emptyCalls hangingUp headOfA rec (rec.after log) notes := by
  have taken : EndTaken emptyCalls headOfA := ⟨⟨[97], 1, 7⟩, by rw [parse_headOfA]; rfl⟩
  refine ⟨by rw [parse_headOfA], by decide +kernel, fun rec notes right => ?_⟩
  have outcome := record_outcome emptyCalls hangingUp (pieces false) [headOfA]
  exact (callsRecorded_iff outcome rec).mp ⟨notes, right⟩ taken

end HmsClient.Hmsrecord
