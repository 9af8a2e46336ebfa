import HmsClient.CallRecorder

/-! When the proxy notes that a stream does not end with a message. A malformed message is
always noted. A message that is cut off is not if the parser takes the end of the stream
for the message's, nor if another message ends within the last read: then the beginning of
the cut message was in the buffer when the counter of bytes was reset, and the end of the
stream is taken for the client hanging up. -/
namespace HmsClient.Hmsrecord
open ReadAhead StreamParser

/-- A note was recorded. -/
def Noted (log : List Event) : Prop := ∃ c ∈ recorded log, c.note ≠ ""

/-- The stream ends inside a message. -/
def CutOff (P : Parser Header String) (stream : Bytes) : Prop :=
  ∃ s, (parse P stream).phase = .inside s

/-- A stream cut into reads, none of them larger than the buffer. -/
structure Splitting where
  reads : List Bytes
  fit : FitIn bufferSize reads

section Reads
variable {together : Bool} {P : Parser Header String} {conn : Connection}

private theorem received_fetch {r : Recording (pieces together)}
    (fit : FitIn bufferSize r.input.below) (room : Nat) :
    let got := r.input.read bufferSize room
    received (r.log ++ relayed got.fetched) ++ got.after.below = received r.log ++ r.input.below ∧
      FitIn bufferSize got.after.below := by
  intro got
  rw [received_append]
  have fetched : (got.fetched = [] ∧ got.after.below = r.input.below) ∨
      got.fetched ≠ [] ∧ r.input.below = got.fetched :: got.after.below := fetched_pieces fit
  rcases fetched with ⟨none, same⟩ | ⟨some, filled⟩
  · rw [none, same]
    exact ⟨congrArg (· ++ _) (List.append_nil _), fit⟩
  · rw [filled] at fit ⊢
    rw [relayed, if_neg some]
    exact ⟨List.append_assoc _ _ _, fit.tail⟩

private theorem received_failed {r : Recording (pieces together)}
    (fit : FitIn bufferSize r.input.below) (err : ReadError)
    (finished : isEOF err = true → r.input.below = []) :
    received (r.failed conn err) = received r.log ++ r.input.below := by
  unfold Recording.failed
  split
  · have copied := copied_pieces together (show 0 < copySize by decide) (fit.mono (by decide))
    have nonempty : [] ∉ r.input.below := fun mem => (fit [] mem).1 rfl
    rw [received_append, copied]
    exact congrArg (received r.log ++ ·) (relayed_pieces nonempty).2.1
  · next quiet =>
    simp only [Bool.or_eq_true, Bool.not_eq_true', not_or, Bool.not_eq_false] at quiet
    rw [finished quiet.2, List.append_nil]

/-- Reading a message leaves the pieces that are still to be read. -/
private theorem received_readMessage {r : Recording (pieces together)} {s : P.State}
    (fit : FitIn bufferSize r.input.below) :
    let read := readMessage P r s
    received read.2.log ++ read.2.input.below = received r.log ++ r.input.below ∧
      FitIn bufferSize read.2.input.below ∧
      (read.1 = .error .ended → read.2.input.below = []) := by
  fun_induction readMessage P r s
  case case1 r s got h fed | case2 r s got text fed =>
    obtain ⟨fetched, rest⟩ := received_fetch fit (P.room s)
    exact ⟨fetched, rest, fun failed => by cases failed⟩
  case case3 r s got s' fed ended =>
    obtain ⟨fetched, rest⟩ := received_fetch fit (P.room s)
    have serves : Serves r.input (P.room s) got := read_serves (by decide) (P.roomy s) r.input
    exact ⟨fetched, rest, fun _ => rest.eq_nil (serves.ends ended.1).2⟩
  case case4 r s got s' fed going ih =>
    obtain ⟨fetched, rest⟩ := received_fetch fit (P.room s)
    obtain ⟨same, left, finished⟩ := ih rest
    exact ⟨same.trans fetched, left, finished⟩

/-- The reads that the proxy makes are the pieces. -/
private theorem received_loop {r : Recording (pieces together)}
    (fit : FitIn bufferSize r.input.below) :
    received (loop P conn r) = received r.log ++ r.input.below := by
  fun_induction loop P conn r
  case case1 r err r' read =>
    obtain ⟨same, rest, finished⟩ := received_readMessage (P := P) (r := { r with n := 0 })
      (s := P.start) fit
    rw [read] at same rest finished
    refine (received_failed rest err fun eof => finished ?_).trans same
    cases err with
    | ended => rfl
    | malformed text => cases eof
  case case2 r h r' read ih =>
    obtain ⟨same, rest, -⟩ := received_readMessage (P := P) (r := { r with n := 0 })
      (s := P.start) fit
    rw [read] at same rest
    rw [ih rest, received_append]
    exact (congrArg (· ++ r'.input.below) (List.append_nil _)).trans same

end Reads

section Notes
variable {σ : Type} {P : Parser Header String} {conn : Connection} {stream : Bytes}
  {log : List Event}

variable (conn) in
private theorem calls_unnoted (messages : List Header) :
    ∀ c ∈ messages.mapIdx (callOf conn), c.note = "" := by
  intro c mem
  obtain ⟨i, _, rfl⟩ := List.mem_mapIdx.mp mem
  rfl

/-- What decides whether there is a note. -/
private theorem noted_iff (outcome : Outcome P conn stream log) :
    Noted log ↔ (∃ text, (parse P stream).atEnd = .malformed text) ∨
      (parse P stream).atEnd = .ended ∧ ¬Uncounted P (received log) := by
  have unnoted := calls_unnoted conn (parse P stream).messages
  rw [Noted, outcome.ended]
  simp only [List.mem_append, or_and_right, exists_or]
  refine (or_iff_right ?_).trans ?_
  · rintro ⟨c, mem, noted⟩
    exact noted (unnoted c mem)
  cases (parse P stream).atEnd with
  | complete h => simp [lastLines, callOf]
  | malformed text => simp [lastLines, noteOf_note]
  | ended =>
    by_cases quiet : Uncounted P (received log)
    · simp [lastLines, quiet]
    · simp [lastLines, quiet, noteOf_note]

/-- A stream that ends between two messages ends with the last of them. -/
private theorem completed_of_between (outcome : Outcome P conn stream log)
    (between : (parse P stream).phase = .between) :
    received log = [] ∨ LastCompletes P (received log) := by
  rcases List.eq_nil_or_concat' (received log) with none | ⟨earlier, last, reads⟩
  · exact .inl none
  · have some : last ≠ [] := by
      intro empty
      refine outcome.relays.nonempty ?_
      rw [reads, empty]
      simp
    have whole := outcome.whole
    rw [reads, List.flatten_concat] at whole
    rw [← whole, parse_append] at between
    refine .inr ?_
    rw [LastCompletes, beforeLast, reads, List.dropLast_concat, List.flatten_concat, parse_append]
    exact messages_lt_of_between some between

/-- The end of the stream inside a message is overlooked: the parser takes it for the end of
the message, or it reports it when the counter of bytes stands at zero. -/
def Overlooked (P : Parser Header String) (stream : Bytes) (reads : List Bytes) : Prop :=
  EndTaken P stream ∨
    CutOff P stream ∧ (parse P stream).atEnd = .ended ∧ LastCompletes P reads

/-- A run leaves a note as it should, but for messages whose end is overlooked. -/
private theorem note_is_right_iff (outcome : Outcome P conn stream log) :
    (Noted log ↔ (parse P stream).phase ≠ .between) ↔
      ¬Overlooked P stream (received log) := by
  rw [noted_iff outcome, Overlooked, EndTaken, CutOff]
  cases phase : (parse P stream).phase with
  | between =>
    have atEnd : (parse P stream).atEnd = .ended := by
      rw [Progress.atEnd, phase]
      exact P.atEnd_start
    have completed := completed_of_between outcome phase
    simp [atEnd, completed]
  | inside s =>
    have some : received log ≠ [] := by
      intro none
      have whole := outcome.whole
      rw [none] at whole
      rw [← whole] at phase
      cases phase
    cases (parse P stream).atEnd with
    | complete h => simp
    | malformed text => simp
    | ended => simp [some]
  | failed e =>
    have atEnd : (parse P stream).atEnd = .malformed e := by
      rw [Progress.atEnd, phase]
    simp [atEnd]

end Notes

/-- Whatever the client sends and however it comes in pieces: there is a note just if the
stream does not end with a message, except where its end is overlooked. Pieces that the
buffer holds are the reads; in any case these are the stream. -/
theorem truncation_is_noted_iff (P : Parser Header String) (conn : Connection) :
    (∀ (together : Bool) (cut : Splitting),
      (Noted (record P conn (pieces together) cut.reads) ↔
          (parse P cut.reads.flatten).phase ≠ .between) ↔
        ¬Overlooked P cut.reads.flatten cut.reads) ∧
    ∀ {σ : Type} (src : Arrivals σ) (s : σ),
      let log := record P conn src s
      (received log).flatten = src.rest s ∧
        ((Noted log ↔ (parse P (src.rest s)).phase ≠ .between) ↔
          ¬Overlooked P (src.rest s) (received log)) := by
  refine ⟨fun together cut => ?_, fun src s => ?_⟩
  · have outcome := record_outcome P conn (pieces together) cut.reads
    have reads : received (record P conn (pieces together) cut.reads) = cut.reads :=
      received_loop cut.fit
    have iff := note_is_right_iff outcome
    rw [reads] at iff
    exact iff
  · have outcome := record_outcome P conn src s
    exact ⟨outcome.whole, note_is_right_iff outcome⟩

/-- The version word that a call starts with. -/
private def versioned : Bytes := [0x80, 1, 0, 1]

/-- A call and the version of another one: a note is due, and there is none if both come in
one read. -/
theorem cut_behind_a_call_is_not_noted :
    let log := record emptyCalls hangingUp (pieces false) [headOfA ++ [0] ++ versioned]
    ¬(Noted log ↔ (parse emptyCalls (headOfA ++ [0] ++ versioned)).phase ≠ .between) ∧
      recorded log = [⟨0, [], [97], "call", 7, ""⟩] ∧
      recorded (record emptyCalls hangingUp (pieces false) [headOfA ++ [0], versioned]) =
        [⟨0, [], [97], "call", 7, ""⟩,
          ⟨0, [], [], "", 0, "not TBinaryProtocol, proxying unrecorded: EOF"⟩] := by
  intro log
  have calls : recorded log = [⟨0, [], [97], "call", 7, ""⟩] := by decide +kernel
  refine ⟨fun iff => ?_, calls, by decide +kernel⟩
  have parsed : parse emptyCalls (headOfA ++ [0] ++ versioned) =
      ⟨[⟨[97], 1, 7⟩], .inside ⟨3, [], .nameSize 1⟩⟩ := rfl
  have due : (parse emptyCalls (headOfA ++ [0] ++ versioned)).phase ≠ .between := by
    rw [parsed]
    nofun
  obtain ⟨c, mem, noted⟩ := iff.mpr due
  rw [calls, List.mem_singleton] at mem
  exact noted (congrArg Call.note mem)

end HmsClient.Hmsrecord
