import Mathlib.Data.List.Basic

/-! Parsers that take a stream of messages in byte by byte. What a stream holds is said by
folding over its bytes: the messages that are complete, and whether it ends between two of
them, inside one, or beyond a place where parsing failed. A parser asks for some bytes at
a time and decides nothing before it has them, so feeding it what it asks for comes to the
same, however the stream is cut. What it makes of the end of the stream is its own affair. -/
namespace HmsClient.StreamParser

abbrev Bytes := List UInt8

/-- What a parser makes of a byte. -/
inductive Fed (σ μ ε : Type) where
  | more (s : σ)
  | complete (m : μ)
  | malformed (e : ε)

/-- Feed bytes until something is decided. -/
def feedAll {σ μ ε : Type} (feed : σ → UInt8 → Fed σ μ ε) : σ → Bytes → Fed σ μ ε
  | s, [] => .more s
  | s, b :: rest =>
    match feed s b with
    | .more s => feedAll feed s rest
    | .complete m => .complete m
    | .malformed e => .malformed e

/-- What a parser makes of the end of the stream: it may take the message for complete,
report the end, or fail in another way. -/
inductive AtEnd (μ ε : Type) where
  | complete (m : μ)
  | ended
  | malformed (e : ε)

/-- A parser of one message, which has room for some bytes at a time and does not decide
before the last of them. Before a message it reports the end of the stream as such. -/
structure Parser (μ ε : Type) where
  State : Type
  start : State
  room : State → Nat
  feed : State → UInt8 → Fed State μ ε
  atEnd : State → AtEnd μ ε
  roomy (s : State) : 0 < room s
  patient {s : State} {bytes : Bytes} : bytes.length < room s →
    ∃ s', feedAll feed s bytes = .more s'
  atEnd_start : atEnd start = .ended

variable {μ ε : Type}

/-! ## What a stream holds -/

/-- Where a stream ends. -/
inductive Phase (σ ε : Type) where
  | between
  | inside (s : σ)
  | failed (e : ε)

/-- The messages of a stream, and where it ends. -/
structure Progress (P : Parser μ ε) where
  messages : List μ
  phase : Phase P.State ε

/-- The state that the next byte is fed to. -/
def Progress.state {P : Parser μ ε} (p : Progress P) : Option P.State :=
  match p.phase with
  | .between => some P.start
  | .inside s => some s
  | .failed _ => none

/-- What the parser makes of the end of the stream. -/
def Progress.atEnd {P : Parser μ ε} (p : Progress P) : AtEnd μ ε :=
  match p.phase with
  | .between => P.atEnd P.start
  | .inside s => P.atEnd s
  | .failed e => .malformed e

def settle {P : Parser μ ε} (messages : List μ) : Fed P.State μ ε → Progress P
  | .more s => ⟨messages, .inside s⟩
  | .complete m => ⟨messages ++ [m], .between⟩
  | .malformed e => ⟨messages, .failed e⟩

def Progress.absorb {P : Parser μ ε} (p : Progress P) (b : UInt8) : Progress P :=
  match p.state with
  | some s => settle p.messages (P.feed s b)
  | none => p

def parse (P : Parser μ ε) (stream : Bytes) : Progress P :=
  stream.foldl Progress.absorb ⟨[], .between⟩

section Laws
variable {P : Parser μ ε}

theorem parse_append (a b : Bytes) :
    parse P (a ++ b) = b.foldl Progress.absorb (parse P a) :=
  List.foldl_append

variable {p : Progress P} {s : P.State} {bytes : Bytes}

theorem atEnd_of_state (here : p.state = some s) : p.atEnd = P.atEnd s := by
  unfold Progress.state at here
  unfold Progress.atEnd
  cases phase : p.phase with
  | between =>
    rw [phase] at here
    cases here
    rfl
  | inside s =>
    rw [phase] at here
    cases here
    rfl
  | failed e =>
    rw [phase] at here
    cases here

theorem feedAll_append (s : P.State) (a b : Bytes) {s' : P.State}
    (before : feedAll P.feed s a = .more s') :
    feedAll P.feed s (a ++ b) = feedAll P.feed s' b := by
  induction a generalizing s with
  | nil =>
    cases before
    rfl
  | cons c rest ih =>
    rw [feedAll] at before
    rw [List.cons_append, feedAll]
    cases fed : P.feed s c with
    | more next =>
      rw [fed] at before
      exact ih next before
    | complete m =>
      rw [fed] at before
      cases before
    | malformed e =>
      rw [fed] at before
      cases before

/-- Bytes that decide nothing leave the messages as they are. -/
theorem absorb_undecided {s' : P.State} (here : p.state = some s)
    (undecided : feedAll P.feed s bytes = .more s') :
    (bytes.foldl Progress.absorb p).messages = p.messages ∧
      (bytes.foldl Progress.absorb p).state = some s' := by
  induction bytes generalizing p s with
  | nil =>
    cases undecided
    exact ⟨rfl, here⟩
  | cons b rest ih =>
    rw [feedAll] at undecided
    have stepped : p.absorb b = settle p.messages (P.feed s b) := by
      rw [Progress.absorb, here]
    rw [List.foldl_cons, stepped]
    cases fed : P.feed s b with
    | more next =>
      rw [fed] at undecided
      exact ih rfl undecided
    | complete m =>
      rw [fed] at undecided
      cases undecided
    | malformed e =>
      rw [fed] at undecided
      cases undecided

/-- What the parser has room for is settled by feeding it. -/
theorem absorb_fed (here : p.state = some s) (nonempty : bytes ≠ [])
    (fits : bytes.length ≤ P.room s) :
    bytes.foldl Progress.absorb p = settle p.messages (feedAll P.feed s bytes) := by
  obtain ⟨front, last, rfl⟩ : ∃ front last, bytes = front ++ [last] :=
    ⟨_, _, (List.dropLast_append_getLast nonempty).symm⟩
  rw [List.length_append, List.length_singleton] at fits
  obtain ⟨s', undecided⟩ := P.patient (show front.length < P.room s by omega)
  obtain ⟨messages, state⟩ := absorb_undecided here undecided
  have lastFed : feedAll P.feed s' [last] = P.feed s' last := by
    rw [feedAll]
    cases P.feed s' last <;> rfl
  rw [List.foldl_append, List.foldl_cons, List.foldl_nil, Progress.absorb, state, messages,
    feedAll_append s front [last] undecided, lastFed]

/-- A byte completes a message, or it adds none and the stream does not end between two. -/
theorem absorb_cases (p : Progress P) (b : UInt8) :
    (∃ m, (p.absorb b).messages = p.messages ++ [m]) ∨
      (p.absorb b).messages = p.messages ∧ (p.absorb b).phase ≠ .between := by
  rw [Progress.absorb]
  cases here : p.state with
  | none =>
    refine .inr ⟨rfl, fun between => ?_⟩
    rw [Progress.state, between] at here
    cases here
  | some s =>
    dsimp only
    cases P.feed s b with
    | more s' => exact .inr ⟨rfl, nofun⟩
    | complete m => exact .inl ⟨m, rfl⟩
    | malformed e => exact .inr ⟨rfl, nofun⟩

theorem messages_grow (p : Progress P) (bytes : Bytes) :
    p.messages <+: (bytes.foldl Progress.absorb p).messages := by
  induction bytes generalizing p with
  | nil => exact List.prefix_rfl
  | cons b rest ih =>
    refine List.IsPrefix.trans ?_ (ih (p.absorb b))
    rcases absorb_cases p b with ⟨m, longer⟩ | ⟨same, -⟩
    · rw [longer]
      exact List.prefix_append _ _
    · exact ⟨[], by rw [List.append_nil, same]⟩

/-- Bytes after which a stream ends between two messages have completed one. -/
theorem messages_lt_of_between (nonempty : bytes ≠ [])
    (between : (bytes.foldl Progress.absorb p).phase = .between) :
    p.messages.length < (bytes.foldl Progress.absorb p).messages.length := by
  obtain ⟨front, last, rfl⟩ : ∃ front last, bytes = front ++ [last] :=
    ⟨_, _, (List.dropLast_append_getLast nonempty).symm⟩
  rw [List.foldl_append, List.foldl_cons, List.foldl_nil] at between ⊢
  have before := (messages_grow p front).length_le
  rcases absorb_cases (front.foldl Progress.absorb p) last with ⟨m, longer⟩ | ⟨-, elsewhere⟩
  · rw [longer, List.length_append, List.length_singleton]
    omega
  · exact absurd between elsewhere

/-- Nothing is parsed after a failure. -/
theorem absorb_failed {e : ε} (failed : p.phase = .failed e) (bytes : Bytes) :
    bytes.foldl Progress.absorb p = p := by
  induction bytes with
  | nil => rfl
  | cons b rest ih =>
    have stays : p.absorb b = p := by
      rw [Progress.absorb, Progress.state, failed]
    rw [List.foldl_cons, stays, ih]

end Laws

/-! ## Parsers that read item by item -/

/-- What follows an item: another one, of `more + 1` bytes, or the end. -/
inductive Next (γ μ ε : Type) where
  | item (more : Nat) (goal : γ)
  | complete (m : μ)
  | malformed (e : ε)

/-- An item that is being read: how many bytes it lacks beside the next one, those it has,
and what it is for. -/
structure Item (γ : Type) where
  more : Nat
  got : Bytes
  goal : γ

variable {γ : Type}

def Next.fed : Next γ μ ε → Fed (Item γ) μ ε
  | .item more goal => .more ⟨more, [], goal⟩
  | .complete m => .complete m
  | .malformed e => .malformed e

def Item.feed (finish : γ → Bytes → Next γ μ ε) (item : Item γ) (b : UInt8) :
    Fed (Item γ) μ ε :=
  match item.more with
  | 0 => (finish item.goal (item.got ++ [b])).fed
  | more + 1 => .more { item with more := more, got := item.got ++ [b] }

private theorem feedAll_item (finish : γ → Bytes → Next γ μ ε) {item : Item γ} {bytes : Bytes}
    (short : bytes.length < item.more + 1) :
    ∃ item', feedAll (Item.feed finish) item bytes = .more item' := by
  induction bytes generalizing item with
  | nil => exact ⟨item, rfl⟩
  | cons b rest ih =>
    rw [List.length_cons] at short
    obtain ⟨more, enough⟩ := Nat.exists_eq_add_one.mpr (show 0 < item.more by omega)
    have fed : item.feed finish b = .more { item with more := more, got := item.got ++ [b] } := by
      rw [Item.feed, enough]
    rw [feedAll, fed]
    exact ih (show rest.length < more + 1 by omega)

/-- A parser that knows the length of an item when it begins to read it. At the end of the
stream it goes by what the item is for. -/
def Parser.ofItems (first : Item γ) (finish : γ → Bytes → Next γ μ ε) (atEnd : γ → AtEnd μ ε)
    (ended : atEnd first.goal = .ended) : Parser μ ε where
  State := Item γ
  start := first
  room item := item.more + 1
  feed := Item.feed finish
  atEnd item := atEnd item.goal
  roomy _ := Nat.succ_pos _
  patient := feedAll_item finish
  atEnd_start := ended

end HmsClient.StreamParser
