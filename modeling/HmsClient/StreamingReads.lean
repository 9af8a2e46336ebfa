import HmsClient.ChunkStream
import HmsClient.LastAttempt
import HmsClient.CatalogRouting

/-! `GetPartitionsSeq` and `GetTablesSeq`. The names and every chunk are reads of their own,
with their own attempts, and the items of a chunk are yielded after its read has returned,
out of one reply of one attempt. With the same replies, a sequence that nobody cuts short
yields what `GetPartitionsByNames` or `GetTables` returns for all names. -/
namespace HmsClient
open PeerScript ChunkStream Interner

variable {τ Conn : Type}

/-! ## The sequences -/

/-- `ctx.Err()`, and the body of the loop that ranges over the sequence. -/
structure Consumer (τ ι : Type) where
  ctxErr : τ → Option Err × τ
  yield : Option ι → Option Err → τ → Bool × τ

/-- A read with the variables it leaves, if it does not fail. -/
def Surroundings.readResult (S : Surroundings τ Conn) (cfg : Config) (op : Operation)
    (maxRetries : Nat) (t : τ) : Except Err op.Captured × τ :=
  let outcome := S.outcome cfg op maxRetries t
  match outcome.result with
  | some err => (.error err, outcome.state.1)
  | none => (.ok outcome.state.2, outcome.state.1)

/-- A conversion that only returns the value. -/
def valued {ρ ι : Type} (convert : ρ → ColumnIntern → Converted ι × ColumnIntern) (raw : ρ)
    (cache : ColumnIntern) : ι × ColumnIntern :=
  ((convert raw cache).1.value, (convert raw cache).2)

/-- The chunks of the names that were read. -/
def chunksOf (cfg : Config) : Except Err (Slice Text) → Except Err (List (List Text))
  | .ok names => .ok (batches cfg.chunkSize names.items.length names.items)
  | .error err => .error err

def getPartitionsSeq (S : Surroundings τ Conn) (cfg : Config) (maxRetries : Nat)
    (consumer : Consumer τ Partition) (dbName tableName : Text) (opts : CatalogOptions) :
    ChunkStream.Env (List Text) Wire.Partition Partition ColumnIntern Err τ where
  start t :=
    let names := S.readResult cfg (.getPartitionsSeqNames dbName tableName opts) maxRetries t
    (chunksOf cfg names.1, names.2)
  ctxErr t :=
    ((consumer.ctxErr t).1.map (wrapError "get_partitions_by_names_req"), (consumer.ctxErr t).2)
  fetch chunk t :=
    let raw := S.readResult cfg (.getPartitionsSeqChunk dbName tableName chunk opts) maxRetries t
    (raw.1.map Slice.items, raw.2)
  convert := valued partitionFromThriftIntern
  yield := consumer.yield

def getTablesSeq (S : Surroundings τ Conn) (cfg : Config) (maxRetries : Nat)
    (consumer : Consumer τ Table) (dbName : Text) (opts : CatalogOptions) :
    ChunkStream.Env (List Text) Wire.Table Table ColumnIntern Err τ where
  start t :=
    let names := S.readResult cfg (.getTablesSeqNames dbName opts) maxRetries t
    (chunksOf cfg names.1, names.2)
  ctxErr t :=
    ((consumer.ctxErr t).1.map (wrapError "get_table_objects_by_name_req"), (consumer.ctxErr t).2)
  fetch chunk t :=
    let tables := S.readResult cfg (.getTablesSeqChunk dbName chunk opts) maxRetries t
    (tables.1.map Slice.items, tables.2)
  convert := valued tableFromThriftIntern
  yield := consumer.yield

/-! ## Replies -/

/-- The partitions that an exchange brought. -/
def partsOf : Exchange metastore → Option (List Wire.Partition)
  | ⟨.getPartitionsByNamesReq _, .ok parts⟩ => some (Slice.items parts)
  | ⟨.getPartitionsByNames _ _ _, .ok parts⟩ => some (Slice.items parts)
  | _ => none

/-- The tables that an exchange brought. -/
def tablesOf : Exchange metastore → Option (List Wire.Table)
  | ⟨.getTableObjectsByNameReq _, .ok tables⟩ => some (Slice.items tables)
  | _ => none

/-- The last attempt of a read succeeded and was brought this reply and no other. -/
def Surroundings.LastBrings {ρ : Type} (S : Surroundings τ Conn) (cfg : Config) (op : Operation)
    (maxRetries : Nat) (t : τ) (brings : Exchange metastore → Option ρ) (reply : ρ) : Prop :=
  ∃ before pass idx mid cn start, S.passes cfg op maxRetries (t, op.zero) = before ++ [pass] ∧
    pass.Acquires (S.env cfg op) idx mid (.ok cn) start ∧
    (S.invocation cfg op cn start).outcome.1 = .ok () ∧
    ((S.invocation cfg op cn start).log.map Sent.toExchange).filterMap brings = [reply]

/-- What a consumer of a sequence may rely on. `LastAttempt` says what the last attempt of a
chunk's read was brought, and `Whole` what the replies to all chunks become in one call. -/
structure Relays {ρ ι : Type} (env : ChunkStream.Env (List Text) ρ ι ColumnIntern Err τ) (cfg : Config)
    (names : Except Err (Slice Text)) (t : τ) (LastAttempt : τ → List Text → List ρ → Prop)
    (Whole : List Text → List (List ρ) → List ι → Prop) : Prop where
  protocol : Protocol env.convert [] ((chunksOf cfg names).toOption.getD []) (stream env [] t).1
  attempted {chunk : List Text} {raw : List ρ} :
    .fetch chunk (.ok raw) ∈ (stream env [] t).1 → ∃ t', LastAttempt t' chunk raw
  same {list : Slice Text} {items : List ι} : names = .ok list → Unstopped (stream env [] t).1 →
    failures (stream env [] t).1 = [] → Whole list.items (replies (stream env [] t).1) items →
    pairs (stream env [] t).1 = handed items

/-! ## Reads that succeed -/

section Reads
variable {S : Surroundings τ Conn} {cfg : Config} {op : Operation} {maxRetries : Nat} {t : τ}

/-- What a read leaves in its variables was left there by the closure of its last attempt. -/
private theorem readResult_run (clamped : 1 ≤ maxRetries)
    (ok : (S.readResult cfg op maxRetries t).1 = .ok k) :
    ∃ before pass idx mid cn start, S.passes cfg op maxRetries (t, op.zero) = before ++ [pass] ∧
      pass.Acquires (S.env cfg op) idx mid (.ok cn) start ∧
      (S.invocation cfg op cn start).outcome.1 = .ok () ∧ ∃ s s', s'.captured = k ∧
        Run (op.closure cfg s) ((S.invocation cfg op cn start).log.map Sent.toExchange)
          (.ok (), s') := by
  obtain ⟨result, left⟩ : (S.outcome cfg op maxRetries t).result = none ∧
      (S.outcome cfg op maxRetries t).state.2 = k := by
    unfold Surroundings.readResult at ok
    dsimp only at ok
    split at ok
    · cases ok
    · next result => exact ⟨result, Except.ok.inj ok⟩
  obtain ⟨before, pass, ran⟩ : ∃ before pass,
      S.passes cfg op maxRetries (t, op.zero) = before ++ [pass] := by
    obtain ⟨remaining, rfl⟩ := Nat.exists_eq_add_of_le' clamped
    rcases List.eq_nil_or_concat (S.passes cfg op (remaining + 1) (t, op.zero)) with none | ⟨_, _, some⟩
    · cases none
    · exact ⟨_, _, some.trans List.concat_eq_append⟩
  obtain ⟨state, returned⟩ := RetryLoop.loop_of_last ran
  have stopped : (S.round cfg op pass).verdict = .stop none := by
    replace returned := returned.symm.trans result
    cases verdict : (S.round cfg op pass).verdict with
    | stop answer =>
      rw [show (pass.round (S.env cfg op) op.method op.idempotent).verdict = _ from verdict] at returned
      rw [show answer = none from returned]
    | again err =>
      rw [show (pass.round (S.env cfg op) op.method op.idempotent).verdict = _ from verdict] at returned
      cases returned
  obtain ⟨idx, mid, cn, start, gets, succeeded, captured⟩ := round_succeeds stopped
  have invoked := S.invocation_run cfg op cn start
  rw [show (S.invocation cfg op cn start).outcome = (.ok (), _) from Prod.ext succeeded rfl] at invoked
  refine ⟨before, pass, idx, mid, cn, start, ran, gets, succeeded, _, _, ?_, invoked⟩
  rw [← captured, ← left]
  exact congrArg Prod.snd state.symm

end Reads

/-! ## What closures bring -/

section Brings
variable {κ ρ : Type} {brings : Exchange metastore → Option (List ρ)} {look : κ → List ρ}

private theorem resolveCat_brings (blind : ∀ answer, brings ⟨.getCatalogs, answer⟩ = none)
    (ran : Run (resolveCat cfg opts s) log (r, s')) :
    log.filterMap brings = [] ∧ s'.captured = s.captured := by
  obtain ⟨support, found, rfl, probed, -⟩ := resolveCatFor_run ran
  refine ⟨?_, rfl⟩
  generalize s.catalogs = known at probed
  cases probed <;> simp [blind]

/-- A run of the closure captures the one reply it was brought, or fails and was brought
none. -/
private def Captures (brings : Exchange metastore → Option (List ρ)) (look : κ → List ρ)
    (d : Closure κ Unit) : Prop :=
  ∀ s s' log r, Run (d s) log (r, s') →
    (r = .ok () → log.filterMap brings = [look s'.captured]) ∧
      ∀ err, r = .error err → log.filterMap brings = []

private theorem captures_reply {f : call.Reply → κ}
    (ok : ∀ reply, brings ⟨call, .ok reply⟩ = some (look (f reply)))
    (fails : ∀ fault, brings ⟨call, .error fault⟩ = none) :
    Captures brings look (rpc call >>= fun reply => capture (f reply)) := by
  intro s s' log r ran
  rcases Dialogue.run_request_then (L := metastore) ran with
    ⟨fault, rfl, rfl, -⟩ | ⟨reply, rest, rfl, next⟩
  · exact ⟨nofun, fun _ _ => by simp [fails]⟩
  · obtain ⟨rfl, ended⟩ := run_done next
    cases ended
    exact ⟨fun _ => by simp [ok], nofun⟩

private theorem captures_tryReq (first : Captures brings look req)
    (second : Captures brings look legacy) : Captures brings look (tryReq method req legacy) := by
  intro s s' log r ran
  rcases tryReq_run ran with ⟨-, old⟩ | ⟨-, request, -⟩ | ⟨_, mid, err, _, -, request, -, old, rfl⟩
  · exact second _ _ _ _ old
  · exact first _ _ _ _ request
  · rw [List.filterMap_append, (first _ _ _ _ request).2 err rfl, List.nil_append]
    exact second _ _ _ _ old

private theorem captures_resolved (blind : ∀ answer, brings ⟨.getCatalogs, answer⟩ = none)
    (rest : ∀ cat, Captures brings look (f cat)) :
    Captures brings look (resolveCat cfg opts >>= f) := by
  intro s s' log r ran
  rcases Dialogue.run_then ran with ⟨e, failed, rfl⟩ | ⟨first, cat, mid, second, asked, next, rfl⟩
  · exact ⟨nofun, fun _ _ => (resolveCat_brings blind failed).1⟩
  · rw [List.filterMap_append, (resolveCat_brings blind asked).1, List.nil_append]
    exact rest cat _ _ _ _ next

private theorem getPartitionsSeqChunk_captures (cfg : Config) (dbName tableName : Text)
    (chunk : List Text) (opts : CatalogOptions) :
    Captures partsOf Slice.items (getPartitionsSeqChunk cfg dbName tableName chunk opts) :=
  captures_resolved (fun _ => rfl) fun _ =>
    captures_tryReq (captures_reply (fun _ => rfl) fun _ => rfl)
      (captures_reply (fun _ => rfl) fun _ => rfl)

private theorem getTablesSeqChunk_captures (cfg : Config) (dbName : Text) (chunk : List Text)
    (opts : CatalogOptions) :
    Captures tablesOf Slice.items (getTablesSeqChunk cfg dbName chunk opts) :=
  captures_resolved (fun _ => rfl) fun _ => captures_reply (fun _ => rfl) fun _ => rfl

end Brings

/-! ## One call for all names -/

/-- The variables of `GetPartitionsByNames` take in the partitions that were brought. -/
private def Collects (log : List (Exchange metastore)) (s s' : Session PartsVars) : Prop :=
  (s'.captured.parts, s'.captured.cache) =
    (s.captured.parts ++ (thread (valued partitionFromThriftIntern) (log.filterMap partsOf).flatten
        s.captured.cache).1,
      (thread (valued partitionFromThriftIntern) (log.filterMap partsOf).flatten
        s.captured.cache).2)

private theorem collects_composes : Composes Collects where
  nil s := by simp [Collects, thread]
  append {log more s mid s'} first second := by
    obtain ⟨parts, cache⟩ := Prod.mk.inj first
    unfold Collects at second ⊢
    rw [second, parts, cache, List.filterMap_append, List.flatten_append, thread_append,
      List.append_assoc]

variable {ρ : Type} {cfg : Config} {dbName : Text} {log : List (Exchange metastore)}

private theorem thread_valued {ι : Type} (convert : ρ → ColumnIntern → Converted ι × ColumnIntern)
    (raws : List ρ) (cache : ColumnIntern) :
    thread (valued convert) raws cache =
      ((thread convert raws cache).1.map (·.value), (thread convert raws cache).2) := by
  induction raws generalizing cache with
  | nil => rfl
  | cons raw raws ih => simp only [thread, valued, ih, List.map_cons]

private theorem collects_reply {f : call.Reply → Slice Wire.Partition}
    (ok : ∀ reply, partsOf ⟨call, .ok reply⟩ = some (f reply).items)
    (fails : ∀ fault, partsOf ⟨call, .error fault⟩ = none) :
    Follows Collects (rpc call >>= fun reply => appendParts (f reply)) := by
  intro s s' log r ran
  rcases Dialogue.run_request_then (L := metastore) ran with
    ⟨fault, rfl, -, rfl⟩ | ⟨reply, rest, rfl, next⟩
  · simp [Collects, fails, thread]
  · obtain ⟨rfl, ended⟩ := run_done next
    cases ended
    simp [Collects, ok, thread_valued, partitionsFromThriftIntern]

private theorem getPartitionsByNames_collects (dbName tableName : Text) (cat : Option Text)
    (chunk : List Text) :
    Follows Collects (tryReq "get_partitions_by_names_req"
      (do
        let parts ← rpc (.getPartitionsByNamesReq
          (newGetPartitionsByNamesRequest dbName tableName cat chunk))
        appendParts parts)
      (do
        let parts ← rpc (.getPartitionsByNames (qualifyDBName cat dbName) tableName (some chunk))
        appendParts parts)) :=
  tryReq_follows collects_composes (fun _ => by simp [Collects, thread])
    (collects_reply (fun _ => rfl) fun _ => rfl) (collects_reply (fun _ => rfl) fun _ => rfl)

private theorem getPartitionsByNames_returns {tableName : Text}
    (ran : Run (getPartitionsByNames cfg dbName tableName names opts s) log (.ok (), s')) :
    s'.captured.out =
      (thread (valued partitionFromThriftIntern) (log.filterMap partsOf).flatten []).1 := by
  rcases Dialogue.run_then ran with ⟨_, _, same⟩ | ⟨probe, cat, mid, rest, resolved, next, rfl⟩
  · cases same
  rw [Dialogue.modify_then] at next
  rcases Dialogue.run_then next with ⟨_, _, same⟩ | ⟨looped, _, last, none, chunks, ended, rfl⟩
  · cases same
  obtain ⟨rfl, same⟩ := run_done ended
  cases same
  have collected := follows_forM collects_composes
    (getPartitionsByNames_collects dbName tableName cat) _ _ _ _ _ chunks
  rw [List.append_nil, List.filterMap_append, (resolveCat_brings (fun _ => rfl) resolved).1]
  exact (Prod.mk.inj collected).1

private theorem getTables_loop {chunks : List (List Text)}
    (ran : Run (chunks.foldlM (fun (tables, cache) chunk => do
        let res ← rpc (.getTableObjectsByNameReq ⟨dbName, some chunk, cat⟩)
        let (more, cache) := Interner.thread tableFromThriftIntern (Slice.items res) cache
        pure (tables ++ more.map (·.value), cache) :
          List Table × ColumnIntern → List Text → Closure (List Table) (List Table × ColumnIntern))
        acc s) log (.ok acc', s')) :
    acc' = (acc.1 ++ (thread (valued tableFromThriftIntern) (log.filterMap tablesOf).flatten acc.2).1,
      (thread (valued tableFromThriftIntern) (log.filterMap tablesOf).flatten acc.2).2) := by
  induction chunks generalizing acc s log with
  | nil =>
    obtain ⟨rfl, same⟩ := run_done ran
    cases same
    simp [thread]
  | cons chunk chunks ih =>
    rw [List.foldlM_cons] at ran
    rcases Dialogue.run_then ran with ⟨_, _, same⟩ | ⟨first, next, mid, rest, turn, others, rfl⟩
    · cases same
    rcases Dialogue.run_request_then (L := metastore) turn with
      ⟨_, _, same, _⟩ | ⟨res, none, rfl, ended⟩
    · cases same
    obtain ⟨rfl, done⟩ := run_done ended
    cases done
    have brought : [(⟨.getTableObjectsByNameReq ⟨dbName, some chunk, cat⟩, .ok res⟩ :
        Exchange metastore)].filterMap tablesOf = [Slice.items res] := rfl
    rw [ih others, List.filterMap_append, List.flatten_append, brought, List.flatten_singleton,
      thread_append, thread_valued tableFromThriftIntern (Slice.items res), List.append_assoc]

private theorem getTables_returns {names : List Text} {opts : CatalogOptions}
    (ran : Run (getTables cfg dbName names opts s) log (.ok (), s')) :
    s'.captured = (thread (valued tableFromThriftIntern) (log.filterMap tablesOf).flatten []).1 := by
  rcases Dialogue.run_then ran with ⟨_, _, same⟩ | ⟨probe, cat, mid, rest, resolved, next, rfl⟩
  · cases same
  rcases Dialogue.run_then next with ⟨_, _, same⟩ | ⟨looped, folded, last, none, chunks, ended, rfl⟩
  · cases same
  obtain ⟨rfl, same⟩ := run_done ended
  cases same
  rw [List.append_nil, List.filterMap_append, (resolveCat_brings (fun _ => rfl) resolved).1]
  exact congrArg Prod.fst (getTables_loop chunks)

/-! ## The sequences and the calls -/

private theorem relays_of {ι : Type} {env : ChunkStream.Env (List Text) ρ ι ColumnIntern Err τ}
    {Whole : List Text → List (List ρ) → List ι → Prop}
    (starts : (env.start t).1 = chunksOf cfg names)
    (attempts : ∀ chunk t raw, (env.fetch chunk t).1 = .ok raw → LastAttempt t chunk raw)
    (whole : ∀ list replies items, Whole list replies items →
      items = (thread env.convert replies.flatten []).1) :
    Relays env cfg names t LastAttempt Whole := by
  have protocol := stream_protocol env [] t
  rw [starts] at protocol
  constructor
  case protocol => exact protocol
  case attempted =>
    intro chunk raw inTrace
    obtain ⟨t', fetched⟩ := fetched_of_mem env inTrace
    exact ⟨t', attempts chunk t' raw fetched.symm⟩
  case same =>
    intro list items _ unstopped unfailing returned
    rw [protocol.whole unstopped, unfailing, whole _ _ _ returned]
    exact List.append_nil _

/-- What a chunk's read returns was brought by its last attempt. -/
private theorem fetched_brings {S : Surroundings τ Conn} (op : Operation) (clamped : 1 ≤ maxRetries)
    {brings : Exchange metastore → Option (List ρ)} {look : op.Captured → List ρ}
    (captures : Captures brings look (op.closure cfg))
    (fetched : (S.readResult cfg op maxRetries t).1.map look = .ok raw) :
    S.LastBrings cfg op maxRetries t brings raw := by
  cases read : (S.readResult cfg op maxRetries t).1 with
  | error err =>
    rw [read] at fetched
    cases fetched
  | ok k =>
    rw [read] at fetched
    cases fetched
    obtain ⟨before, pass, idx, mid, cn, start, last, gets, succeeded, s, s', rfl, ran⟩ :=
      readResult_run clamped read
    exact ⟨before, pass, idx, mid, cn, start, last, gets, succeeded, (captures _ _ _ _ ran).1 rfl⟩

/-- A sequence of partitions or of tables keeps the protocol of a sequence, whatever the
reads, the context and the consumer do. The items of a chunk were brought by a single
attempt of its read, and with the same replies one call for all names returns the items of a
sequence that is not cut short. -/
theorem streams_relay_each_chunk_once (S : Surroundings τ Conn) (cfg : Config) (maxRetries : Nat)
    (clamped : 1 ≤ maxRetries) (dbName : Text) (opts : CatalogOptions) (t : τ) :
    (∀ (tableName : Text) (consumer : Consumer τ Partition),
      Relays (getPartitionsSeq S cfg maxRetries consumer dbName tableName opts) cfg
        (S.readResult cfg (.getPartitionsSeqNames dbName tableName opts) maxRetries t).1 t
        (fun t chunk raw => S.LastBrings cfg (.getPartitionsSeqChunk dbName tableName chunk opts)
          maxRetries t partsOf raw)
        (fun names replies items => ∃ s s' log,
          Run (getPartitionsByNames cfg dbName tableName names opts s) log (.ok (), s') ∧
            log.filterMap partsOf = replies ∧ s'.captured.out = items)) ∧
    ∀ consumer : Consumer τ Table,
      Relays (getTablesSeq S cfg maxRetries consumer dbName opts) cfg
        (S.readResult cfg (.getTablesSeqNames dbName opts) maxRetries t).1 t
        (fun t chunk raw => S.LastBrings cfg (.getTablesSeqChunk dbName chunk opts) maxRetries t
          tablesOf raw)
        (fun names replies items => ∃ s s' log,
          Run (getTables cfg dbName names opts s) log (.ok (), s') ∧
            log.filterMap tablesOf = replies ∧ s'.captured = items) := by
  constructor
  · intro tableName consumer
    refine relays_of rfl (fun chunk t raw fetched => ?_) ?_
    · exact fetched_brings (.getPartitionsSeqChunk dbName tableName chunk opts) clamped
        (getPartitionsSeqChunk_captures cfg dbName tableName chunk opts) fetched
    · rintro names _ _ ⟨s, s', log, ran, rfl, rfl⟩
      exact getPartitionsByNames_returns ran
  · intro consumer
    refine relays_of rfl (fun chunk t raw fetched => ?_) ?_
    · exact fetched_brings (.getTablesSeqChunk dbName chunk opts) clamped
        (getTablesSeqChunk_captures cfg dbName chunk opts) fetched
    · rintro names _ _ ⟨s, s', log, ran, rfl, rfl⟩
      exact getTables_returns ran

/-- A server with two partitions that hangs up on the first request for one. The state
counts the requests for partitions. -/
private def hangsUpOnce : Surroundings Nat Unit where
  pick t := (some 0, t)
  acquire _ t := (.ok (), t)
  ctxErr t := (false, t)
  observe _ t := t
  release _ _ t := t
  discardWith _ _ _ t := t
  markFailed _ _ t := t
  markHealthy _ _ t := t
  load _ _ := ⟨.no, [], []⟩
  store _ _ t := t
  answer _ call t :=
    match call with
    | .getPartitionNames .. => (.ok (some [[97], [98]]), t)
    | .getPartitionsByNamesReq req =>
      (if t = 0 then .error hungUp else .ok (some [{ values := req.names }]), t + 1)
    | _ => (.error hungUp, t)

private def willing : Consumer Nat Partition := ⟨fun t => (none, t), fun _ _ t => (true, t)⟩

/-- The first chunk is read twice and its partition is yielded once. -/
theorem retried_chunk_is_yielded_once :
    (pairs (stream (getPartitionsSeq hangsUpOnce plainConfig 2 willing [100] [116] []) [] 0).1).map
        (fun pair => (pair.1.map (·.values), pair.2.isSome)) =
      [(some (some [[97]]), false), (some (some [[98]]), false)] ∧
    (stream (getPartitionsSeq hangsUpOnce plainConfig 2 willing [100] [116] []) [] 0).2 = 3 ∧
    ∀ chunk raw, .fetch chunk (.ok raw) ∈
        (stream (getPartitionsSeq hangsUpOnce plainConfig 2 willing [100] [116] []) [] 0).1 →
      ∃ t, hangsUpOnce.LastBrings plainConfig (.getPartitionsSeqChunk [100] [116] chunk []) 2 t
        partsOf raw := by
  refine ⟨rfl, rfl, fun chunk raw fetched => ?_⟩
  exact ((streams_relay_each_chunk_once hangsUpOnce plainConfig 2 (by decide) [100] [] 0).1 [116]
    willing).attempted fetched

end HmsClient
