import HmsClient.Interner

/-! A sequence that is fetched chunk by chunk and handed to a consumer item by item, as an
`iter.Seq2` hands it to the body of a loop. Whatever the fetches and the consumer do, what
happens is a trace of a simple grammar; from the grammar it follows that the consumer sees
the converted replies in order, that one error ends them at most, and that nothing happens
after the last pair. -/
namespace HmsClient.ChunkStream
open Interner (thread thread_append)

/-- What a sequence is made of. `start` answers with the chunks there are; a conversion has a
state that lives as long as the sequence. -/
structure Env (χ ρ ι γ ε τ : Type) where
  start : τ → Except ε (List χ) × τ
  ctxErr : τ → Option ε × τ
  fetch : χ → τ → Except ε (List ρ) × τ
  convert : ρ → γ → ι × γ
  yield : Option ι → Option ε → τ → Bool × τ

inductive Event (χ ρ ι ε : Type) where
  | start (answer : Except ε (List χ))
  | ctxErr (answer : Option ε)
  | fetch (chunk : χ) (answer : Except ε (List ρ))
  | yield (item : Option ι) (err : Option ε) (more : Bool)

section Sequence
variable {χ ρ ι γ ε τ : Type} (env : Env χ ρ ι γ ε τ)

/-- `yield(nil, err)` and return. -/
def failWith (err : ε) (t : τ) : List (Event χ ρ ι ε) × τ :=
  ([.yield none (some err) (env.yield none (some err) t).1], (env.yield none (some err) t).2)

/-- The items of one reply; without a state of the conversion if the consumer stopped. -/
def yieldAll : List ρ → γ → τ → List (Event χ ρ ι ε) × Option γ × τ
  | [], g, t => ([], some g, t)
  | raw :: rest, g, t =>
    let converted := env.convert raw g
    match env.yield (some converted.1) none t with
    | (true, t) =>
      let others := yieldAll rest converted.2 t
      (.yield (some converted.1) none true :: others.1, others.2)
    | (false, t) => ([.yield (some converted.1) none false], none, t)

/-- The loop over the chunks. -/
def streamChunks : List χ → γ → τ → List (Event χ ρ ι ε) × τ
  | [], _, t => ([], t)
  | chunk :: rest, g, t =>
    match env.ctxErr t with
    | (some err, t) =>
      let failed := failWith env err t
      (.ctxErr (some err) :: failed.1, failed.2)
    | (none, t) =>
      match env.fetch chunk t with
      | (.error err, t) =>
        let failed := failWith env err t
        (.ctxErr none :: .fetch chunk (.error err) :: failed.1, failed.2)
      | (.ok raw, t) =>
        match yieldAll env raw g t with
        | (yielded, none, t) => (.ctxErr none :: .fetch chunk (.ok raw) :: yielded, t)
        | (yielded, some g, t) =>
          let others := streamChunks rest g t
          (.ctxErr none :: .fetch chunk (.ok raw) :: (yielded ++ others.1), others.2)

/-- The whole sequence. -/
def stream (g : γ) (t : τ) : List (Event χ ρ ι ε) × τ :=
  match env.start t with
  | (.error err, t) =>
    let failed := failWith env err t
    (.start (.error err) :: failed.1, failed.2)
  | (.ok chunks, t) =>
    let streamed := streamChunks env chunks g t
    (.start (.ok chunks) :: streamed.1, streamed.2)

end Sequence

/-! ## Reading a trace -/

section Trace
variable {χ ρ ι γ ε τ : Type}

/-- The pairs passed to `yield`. -/
def pairs (events : List (Event χ ρ ι ε)) : List (Option ι × Option ε) :=
  events.filterMap fun
    | .yield item err _ => some (item, err)
    | _ => none

/-- The replies that were fetched. -/
def replies (events : List (Event χ ρ ι ε)) : List (List ρ) :=
  events.filterMap fun
    | .fetch _ (.ok raw) => some raw
    | _ => none

/-- The chunks that were asked for. -/
def requested (events : List (Event χ ρ ι ε)) : List χ :=
  events.filterMap fun
    | .fetch chunk _ => some chunk
    | _ => none

/-- The errors that were met: by a fetch, or by the context before one. -/
def failures (events : List (Event χ ρ ι ε)) : List ε :=
  events.filterMap fun
    | .start (.error err) | .ctxErr (some err) | .fetch _ (.error err) => some err
    | _ => none

/-- The consumer stopped, or was handed an error. -/
def Event.Final : Event χ ρ ι ε → Prop
  | .yield _ (some _) _ => True
  | .yield _ none more => more = false
  | _ => False

/-- The consumer never stopped. -/
def Unstopped (events : List (Event χ ρ ι ε)) : Prop :=
  ∀ item err, .yield item err false ∉ events

/-- The pairs a list of items is handed out in. -/
def handed (items : List ι) : List (Option ι × Option ε) := items.map fun item => (some item, none)

/-- What a consumer may rely on. -/
structure Protocol (convert : ρ → γ → ι × γ) (g : γ) (chunks : List χ)
    (events : List (Event χ ρ ι ε)) : Prop where
  /-- Items of the replies in order, and then the error that was met, if one was. -/
  pairs_eq : ∃ n, pairs events =
    handed ((thread convert (replies events).flatten g).1.take n) ++
      (failures events).map fun err => (none, some err)
  /-- All items, unless the consumer stopped. -/
  whole : Unstopped events → pairs events =
    handed (thread convert (replies events).flatten g).1 ++
      (failures events).map fun err => (none, some err)
  once : (failures events).length ≤ 1
  /-- Nothing happens after a pair with an error or after the consumer stopped. -/
  final : events.Pairwise fun event _ => ¬event.Final
  inOrder : requested events <+: chunks
  complete : Unstopped events → failures events = [] →
    requested events = chunks ∧ (replies events).length = chunks.length

/-! ## The grammar -/

/-- The pairs of one reply. -/
inductive Yields (convert : ρ → γ → ι × γ) :
    List ρ → γ → List (Event χ ρ ι ε) → Option γ → Prop where
  | done {g : γ} : Yields convert [] g [] (some g)
  | more {raw : ρ} {rest : List ρ} {g : γ} {events : List (Event χ ρ ι ε)} {left : Option γ} :
      Yields convert rest (convert raw g).2 events left →
      Yields convert (raw :: rest) g (.yield (some (convert raw g).1) none true :: events) left
  | stop {raw : ρ} {rest : List ρ} {g : γ} :
      Yields convert (raw :: rest) g [.yield (some (convert raw g).1) none false] none

/-- The loop over the chunks, one constructor for each way a turn of it goes. -/
inductive Streams (convert : ρ → γ → ι × γ) : List χ → γ → List (Event χ ρ ι ε) → Prop where
  | done {g : γ} : Streams convert [] g []
  | cancelled {chunk : χ} {rest : List χ} {g : γ} {err : ε} {more : Bool} :
      Streams convert (chunk :: rest) g [.ctxErr (some err), .yield none (some err) more]
  | failed {chunk : χ} {rest : List χ} {g : γ} {err : ε} {more : Bool} :
      Streams convert (chunk :: rest) g
        [.ctxErr none, .fetch chunk (.error err), .yield none (some err) more]
  | stopped {chunk : χ} {rest : List χ} {g : γ} {raw : List ρ} {yielded : List (Event χ ρ ι ε)} :
      Yields convert raw g yielded none →
      Streams convert (chunk :: rest) g (.ctxErr none :: .fetch chunk (.ok raw) :: yielded)
  | next {chunk : χ} {rest : List χ} {g g' : γ} {raw : List ρ}
      {yielded others : List (Event χ ρ ι ε)} :
      Yields convert raw g yielded (some g') → Streams convert rest g' others →
      Streams convert (chunk :: rest) g
        (.ctxErr none :: .fetch chunk (.ok raw) :: (yielded ++ others))

variable (env : Env χ ρ ι γ ε τ)

theorem yieldAll_yields (raws : List ρ) (g : γ) (t : τ) :
    Yields env.convert raws g (yieldAll env raws g t).1 (yieldAll env raws g t).2.1 := by
  induction raws generalizing g t with
  | nil => exact .done
  | cons raw rest ih =>
    rw [yieldAll]
    dsimp only
    split
    · exact .more (ih _ _)
    · exact .stop

theorem streamChunks_streams (chunks : List χ) (g : γ) (t : τ) :
    Streams env.convert chunks g (streamChunks env chunks g t).1 := by
  induction chunks generalizing g t with
  | nil => exact .done
  | cons chunk rest ih =>
    rw [streamChunks]
    split
    · exact .cancelled
    · split
      · exact .failed
      · next raw t _ =>
        have yields := yieldAll_yields env raw g t
        split
        · next same =>
          rw [same] at yields
          exact .stopped yields
        · next same =>
          rw [same] at yields
          exact .next yields (ih _ _)

/-! ## What follows from it -/

variable {convert : ρ → γ → ι × γ} {raws : List ρ} {chunks : List χ} {g : γ}
  {events : List (Event χ ρ ι ε)} {left : Option γ}

private theorem pairs_append (front back : List (Event χ ρ ι ε)) :
    pairs (front ++ back) = pairs front ++ pairs back :=
  List.filterMap_append

/-- Between two fetches there are only items. -/
private theorem Yields.only (yields : Yields convert raws g events left) :
    replies events = [] ∧ requested events = [] ∧ failures events = [] := by
  induction yields with
  | done => exact ⟨rfl, rfl, rfl⟩
  | more _ ih => exact ih
  | stop => exact ⟨rfl, rfl, rfl⟩

private theorem Yields.fetches_nothing (yields : Yields convert raws g events left) {chunk : χ}
    {answer : Except ε (List ρ)} : .fetch chunk answer ∉ events := by
  intro fetched
  have asked : chunk ∈ requested events := List.mem_filterMap.mpr ⟨_, fetched, rfl⟩
  rw [yields.only.2.1] at asked
  cases asked

/-- What was fetched is an answer of `fetch`. -/
private theorem fetched_of_mem_chunks {chunk : χ} {answer : Except ε (List ρ)} {g : γ} {t : τ}
    (inTrace : .fetch chunk answer ∈ (streamChunks env chunks g t).1) :
    ∃ t', answer = (env.fetch chunk t').1 := by
  induction chunks generalizing g t with
  | nil => cases inTrace
  | cons first rest ih =>
    rw [streamChunks] at inTrace
    split at inTrace
    · simp [failWith] at inTrace
    · split at inTrace
      · next fetched =>
        simp only [failWith, List.mem_cons, reduceCtorEq, Event.fetch.injEq, List.not_mem_nil, or_false,
          false_or] at inTrace
        obtain ⟨rfl, rfl⟩ := inTrace
        exact ⟨_, by rw [fetched]⟩
      · next raw t₂ fetched =>
        have yields := yieldAll_yields env raw g t₂
        split at inTrace
        · next same =>
          rw [same] at yields
          simp only [List.mem_cons, reduceCtorEq, Event.fetch.injEq, yields.fetches_nothing, or_false,
            false_or] at inTrace
          obtain ⟨rfl, rfl⟩ := inTrace
          exact ⟨_, by rw [fetched]⟩
        · next same =>
          rw [same] at yields
          simp only [List.mem_cons, List.mem_append, reduceCtorEq, Event.fetch.injEq,
            yields.fetches_nothing, false_or] at inTrace
          rcases inTrace with ⟨rfl, rfl⟩ | later
          · exact ⟨_, by rw [fetched]⟩
          · exact ih later

theorem fetched_of_mem {chunk : χ} {answer : Except ε (List ρ)} {g : γ} {t : τ}
    (inTrace : .fetch chunk answer ∈ (stream env g t).1) : ∃ t', answer = (env.fetch chunk t').1 := by
  rw [stream] at inTrace
  split at inTrace
  · simp [failWith] at inTrace
  · exact fetched_of_mem_chunks env (by simpa using inTrace)

private theorem Yields.pairs (yields : Yields convert raws g events left) :
    ∃ n, pairs events = handed ((thread convert raws g).1.take n) := by
  induction yields with
  | done => exact ⟨0, rfl⟩
  | more _ ih =>
    obtain ⟨n, same⟩ := ih
    exact ⟨n + 1, congrArg _ same⟩
  | stop => exact ⟨1, rfl⟩

private theorem Yields.whole (yields : Yields convert raws g events left) {g' : γ}
    (goesOn : left = some g') :
    ChunkStream.pairs events = handed (thread convert raws g).1 ∧ g' = (thread convert raws g).2 ∧
      ∀ event ∈ events, ¬event.Final := by
  induction yields with
  | done =>
    cases goesOn
    exact ⟨rfl, rfl, by simp⟩
  | more _ ih =>
    obtain ⟨same, kept, calm⟩ := ih goesOn
    exact ⟨congrArg _ same, kept, List.forall_mem_cons.mpr ⟨by simp [Event.Final], calm⟩⟩
  | stop => cases goesOn

private theorem Yields.stopped (yields : Yields convert raws g events left)
    (stops : left = none) : ¬Unstopped events := by
  induction yields with
  | done => cases stops
  | more _ ih =>
    exact fun unstopped => ih stops fun item err inRest => unstopped item err (.tail _ inRest)
  | stop => exact fun unstopped => unstopped _ _ (.head _)

private theorem Yields.final (yields : Yields convert raws g events left) :
    events.Pairwise fun event _ => ¬event.Final := by
  induction yields with
  | done => exact .nil
  | more _ ih => exact .cons (fun _ _ => by simp [Event.Final]) ih
  | stop => exact List.pairwise_singleton ..

section Turn
variable {chunk : χ} {rest : List χ} {raw : List ρ} {yielded others : List (Event χ ρ ι ε)}

/-- A turn of the loop that gets a reply, and what comes after it. -/
private def turn (chunk : χ) (raw : List ρ) (yielded others : List (Event χ ρ ι ε)) :
    List (Event χ ρ ι ε) :=
  .ctxErr none :: .fetch chunk (.ok raw) :: (yielded ++ others)

variable (chunk others) in
private theorem turn_reads (yields : Yields convert raw g yielded left) :
    pairs (turn chunk raw yielded others) = pairs yielded ++ pairs others ∧
      replies (turn chunk raw yielded others) = raw :: replies others ∧
      requested (turn chunk raw yielded others) = chunk :: requested others ∧
      failures (turn chunk raw yielded others) = failures others := by
  obtain ⟨noReply, noRequest, noFailure⟩ := yields.only
  have replied : replies (turn chunk raw yielded others) = raw :: replies (yielded ++ others) := rfl
  have asked : requested (turn chunk raw yielded others) = chunk :: requested (yielded ++ others) :=
    rfl
  have failed : failures (turn chunk raw yielded others) = failures (yielded ++ others) := rfl
  refine ⟨pairs_append yielded others, ?_, ?_, ?_⟩
  · rw [replied, replies, List.filterMap_append, ← replies, noReply]
    rfl
  · rw [asked, requested, List.filterMap_append, ← requested, noRequest]
    rfl
  · rw [failed, failures, List.filterMap_append, ← failures, noFailure]
    rfl

private theorem unstopped_turn (unstopped : Unstopped (turn chunk raw yielded others)) :
    Unstopped yielded ∧ Unstopped others :=
  ⟨fun item err here => unstopped item err (by simp [turn, here]),
    fun item err here => unstopped item err (by simp [turn, here])⟩

private theorem final_turn (final : (yielded ++ others).Pairwise fun event _ => ¬event.Final) :
    (turn chunk raw yielded others).Pairwise fun event _ => ¬event.Final :=
  .cons (fun _ _ => id) (.cons (fun _ _ => id) final)

variable (chunk rest) in
private theorem protocol_stopped (yields : Yields convert raw g yielded none) :
    Protocol convert g (chunk :: rest) (turn chunk raw yielded []) := by
  obtain ⟨handedOut, replied, asked, failed⟩ := turn_reads chunk [] yields
  have stopped : ¬Unstopped (turn chunk raw yielded []) := fun unstopped =>
    yields.stopped rfl (unstopped_turn unstopped).1
  obtain ⟨n, same⟩ := yields.pairs
  constructor
  case pairs_eq =>
    refine ⟨n, ?_⟩
    rw [handedOut, replied, failed, same]
    simp [replies, failures, pairs]
  case whole => exact fun unstopped => absurd unstopped stopped
  case once => rw [failed]; exact Nat.zero_le 1
  case final =>
    refine final_turn ?_
    rw [List.append_nil]
    exact yields.final
  case inOrder => rw [asked]; exact List.cons_prefix_cons.mpr ⟨rfl, List.nil_prefix⟩
  case complete => exact fun unstopped => absurd unstopped stopped

private theorem protocol_next {g' : γ} (yields : Yields convert raw g yielded (some g'))
    (after : Protocol convert g' rest others) :
    Protocol convert g (chunk :: rest) (turn chunk raw yielded others) := by
  obtain ⟨handedOut, replied, asked, failed⟩ := turn_reads chunk others yields
  obtain ⟨same, rfl, calm⟩ := yields.whole rfl
  have converted : (thread convert (replies (turn chunk raw yielded others)).flatten g).1 =
      (thread convert raw g).1 ++
        (thread convert (replies others).flatten (thread convert raw g).2).1 := by
    rw [replied, List.flatten_cons, thread_append]
  constructor
  case pairs_eq =>
    obtain ⟨n, rest⟩ := after.pairs_eq
    refine ⟨(thread convert raw g).1.length + n, ?_⟩
    rw [handedOut, same, rest, converted, failed, List.take_length_add_append, handed, handed,
      handed, List.map_append, List.append_assoc]
  case whole =>
    intro unstopped
    rw [handedOut, same, after.whole (unstopped_turn unstopped).2, converted, failed, handed, handed,
      handed, List.map_append, List.append_assoc]
  case once => rw [failed]; exact after.once
  case final =>
    refine final_turn (List.pairwise_append.mpr ⟨yields.final, after.final, ?_⟩)
    exact fun event inYielded _ _ => calm event inYielded
  case inOrder => rw [asked]; exact List.cons_prefix_cons.mpr ⟨rfl, after.inOrder⟩
  case complete =>
    intro unstopped unfailing
    rw [failed] at unfailing
    obtain ⟨all, counted⟩ := after.complete (unstopped_turn unstopped).2 unfailing
    rw [asked, all, replied, List.length_cons, counted]
    exact ⟨rfl, rfl⟩

end Turn

theorem Streams.protocol (streams : Streams convert chunks g events) :
    Protocol convert g chunks events := by
  induction streams with
  | done =>
    exact ⟨⟨0, rfl⟩, fun _ => rfl, Nat.zero_le 1, .nil, List.prefix_rfl, fun _ _ => ⟨rfl, rfl⟩⟩
  | cancelled =>
    exact ⟨⟨0, rfl⟩, fun _ => rfl, Nat.le_refl 1, by simp [Event.Final], List.nil_prefix,
      fun _ => nofun⟩
  | failed =>
    exact ⟨⟨0, rfl⟩, fun _ => rfl, Nat.le_refl 1, by simp [Event.Final], by simp [requested],
      fun _ => nofun⟩
  | @stopped chunk rest g raw yielded yields =>
    have turned := protocol_stopped chunk rest yields
    rwa [turn, List.append_nil] at turned
  | next yields _ ih => exact protocol_next yields ih

/-- A sequence keeps the protocol, whatever its parts answer. -/
theorem stream_protocol (g : γ) (t : τ) :
    Protocol env.convert g ((env.start t).1.toOption.getD []) (stream env g t).1 := by
  rw [stream]
  split
  · next err t' started =>
    rw [started]
    exact ⟨⟨0, rfl⟩, fun _ => rfl, Nat.le_refl 1, by simp [failWith, Event.Final], List.nil_prefix,
      fun _ => nofun⟩
  · next chunks t' started =>
    rw [started]
    obtain ⟨pairs_eq, whole, once, final, inOrder, complete⟩ :=
      (streamChunks_streams env chunks g t').protocol
    have later : Unstopped (.start (.ok chunks) :: (streamChunks env chunks g t').1) →
        Unstopped (streamChunks env chunks g t').1 :=
      fun unstopped item err here => unstopped item err (.tail _ here)
    exact ⟨pairs_eq, fun unstopped => whole (later unstopped), once, .cons (fun _ _ => id) final,
      inOrder, fun unstopped => complete (later unstopped)⟩

end Trace

end HmsClient.ChunkStream
