/-! Programs that put requests to one peer over one connection. An answer is a reply
or a fault, and some faults leave the connection unusable. A hygienic dialogue is done
with the connection after such a fault and reports that very fault; the rules say how
dialogues put together from hygienic ones are hygienic. -/
namespace HmsClient.PeerScript

/-- What is asked over a connection, what may come back, and which faults break it. -/
structure Link where
  Op : Type
  Reply : Op → Type
  Fault : Type
  Error : Type
  raise : Fault → Error
  broken : Fault → Bool

/-- A request with its answer. -/
structure Exchange (L : Link) where
  op : L.Op
  answer : Except L.Fault (L.Reply op)

/-- A program whose next request may depend on the answers so far. -/
inductive Script (L : Link) (α : Type) where
  | done (a : α)
  | ask (op : L.Op) (next : Except L.Fault (L.Reply op) → Script L α)

variable {L : Link} {α β σ : Type}

def Script.bind : Script L α → (α → Script L β) → Script L β
  | .done a, f => f a
  | .ask op next, f => .ask op fun answer => (next answer).bind f

/-- The outcome against a peer that answers a request always alike. -/
def Script.answeredBy (peer : (op : L.Op) → Except L.Fault (L.Reply op)) : Script L α → α
  | .done a => a
  | .ask op next => (next (peer op)).answeredBy peer

/-- The exchanges and the outcome of one run. -/
inductive Run : Script L α → List (Exchange L) → α → Prop where
  | done (a : α) : Run (.done a) [] a
  | ask {op : L.Op} {next : Except L.Fault (L.Reply op) → Script L α}
      {answer : Except L.Fault (L.Reply op)} {log : List (Exchange L)} {a : α} :
      Run (next answer) log a → Run (.ask op next) (⟨op, answer⟩ :: log) a

variable {log : List (Exchange L)} {r : Except L.Error α} {P : List (Exchange L) → σ → σ → Prop}

theorem run_done {a b : α} (ran : Run (.done a) log b) : log = [] ∧ b = a := by
  cases ran
  exact ⟨rfl, rfl⟩

/-- A run of two programs in sequence is a run of the first and then of the second. -/
theorem run_bind {p : Script L α} {f : α → Script L β} {b : β} (ran : Run (p.bind f) log b) :
    ∃ first a second, Run p first a ∧ Run (f a) second b ∧ log = first ++ second := by
  induction p generalizing log with
  | done a => exact ⟨[], a, log, .done a, ran, rfl⟩
  | ask op next ih =>
    cases ran with
    | ask rest =>
      obtain ⟨first, a, second, ranFirst, ranSecond, rfl⟩ := ih _ rest
      exact ⟨_ :: first, a, second, .ask ranFirst, ranSecond, rfl⟩

/-! ## Dialogues -/

/-- A program with a state that may fail; the state outlives the failure. -/
def Dialogue (L : Link) (σ α : Type) := σ → Script L (Except L.Error α × σ)

namespace Dialogue

instance : Monad (Dialogue L σ) where
  pure a := fun s => .done (.ok a, s)
  bind d f := fun s => (d s).bind fun
    | (.ok a, s) => f a s
    | (.error e, s) => .done (.error e, s)

def fail (e : L.Error) : Dialogue L σ α := fun s => .done (.error e, s)

/-- Run a dialogue and go on with its outcome, whatever it is. -/
def result (d : Dialogue L σ α) : Dialogue L σ (Except L.Error α) := fun s =>
  (d s).bind fun (r, s) => .done (.ok r, s)

def get : Dialogue L σ σ := fun s => .done (.ok s, s)

def modify (f : σ → σ) : Dialogue L σ Unit := fun s => .done (.ok (), f s)

/-- One request; a fault fails the dialogue. -/
def request (op : L.Op) : Dialogue L σ (L.Reply op) := fun s =>
  .ask op fun
    | .ok reply => .done (.ok reply, s)
    | .error fault => .done (.error (L.raise fault), s)

theorem get_then (f : σ → Dialogue L σ β) (s : σ) : (get >>= f) s = f s s := rfl

theorem modify_then (g : σ → σ) (f : Unit → Dialogue L σ β) (s : σ) :
    (modify g >>= f) s = f () (g s) := rfl

variable {s s' : σ} {log : List (Exchange L)} {r : Except L.Error β}

/-- A run of a sequence stops at the first part if that fails. -/
theorem run_then {d : Dialogue L σ α} {f : α → Dialogue L σ β} (ran : Run ((d >>= f) s) log (r, s')) :
    (∃ e, Run (d s) log (.error e, s') ∧ r = .error e) ∨
      ∃ first a mid second, Run (d s) first (.ok a, mid) ∧ Run (f a mid) second (r, s') ∧
        log = first ++ second := by
  obtain ⟨first, ⟨outcome, mid⟩, second, ranFirst, ranSecond, rfl⟩ := run_bind ran
  cases outcome with
  | ok a => exact .inr ⟨first, a, mid, second, ranFirst, ranSecond, rfl⟩
  | error e =>
    obtain ⟨rfl, same⟩ := run_done ranSecond
    cases same
    exact .inl ⟨e, by rwa [List.append_nil], rfl⟩

/-- A run that looks at an outcome runs the first part and then what follows from it. -/
theorem run_result {d : Dialogue L σ α} {f : Except L.Error α → Dialogue L σ β}
    (ran : Run ((d.result >>= f) s) log (r, s')) :
    ∃ first outcome mid second, Run (d s) first (outcome, mid) ∧
      Run (f outcome mid) second (r, s') ∧ log = first ++ second := by
  obtain ⟨first, ⟨outcome, mid⟩, second, ranFirst, ranSecond, rfl⟩ := run_bind ran
  obtain ⟨asked, ⟨inner, state⟩, none, ranInner, ended, rfl⟩ := run_bind ranFirst
  obtain ⟨rfl, same⟩ := run_done ended
  cases same
  exact ⟨asked, inner, _, second, ranInner, ranSecond, by rw [List.append_nil]⟩

theorem run_request {op : L.Op} {r : Except L.Error (L.Reply op)}
    (ran : Run (request op s) log (r, s')) :
    ∃ answer, log = [⟨op, answer⟩] ∧ r = answer.mapError L.raise ∧ s' = s := by
  cases ran with
  | @ask _ _ answer _ _ ended =>
    cases answer with
    | ok reply =>
      obtain ⟨rfl, same⟩ := run_done ended
      cases same
      exact ⟨.ok reply, rfl, rfl, rfl⟩
    | error fault =>
      obtain ⟨rfl, same⟩ := run_done ended
      cases same
      exact ⟨.error fault, rfl, rfl, rfl⟩

/-- A request that fails ends the sequence, and its reply is what the rest goes on with. -/
theorem run_request_then {op : L.Op} {f : L.Reply op → Dialogue L σ β}
    (ran : Run ((request op >>= f) s) log (r, s')) :
    (∃ fault, log = [⟨op, .error fault⟩] ∧ r = .error (L.raise fault) ∧ s' = s) ∨
      ∃ reply rest, log = ⟨op, .ok reply⟩ :: rest ∧ Run (f reply s) rest (r, s') := by
  rcases run_then ran with ⟨e, failed, rfl⟩ | ⟨first, reply, mid, rest, asked, next, rfl⟩
  · obtain ⟨answer, rfl, same, rfl⟩ := run_request failed
    cases answer with
    | ok _ => cases same
    | error fault =>
      cases same
      exact .inl ⟨fault, rfl, rfl, rfl⟩
  · obtain ⟨answer, rfl, same, rfl⟩ := run_request asked
    cases answer with
    | ok _ =>
      cases same
      exact .inr ⟨reply, rest, rfl, next⟩
    | error _ => cases same

end Dialogue

/-! ## Hygiene -/

/-- The exchange left the connection unusable. -/
def Exchange.Breaks (x : Exchange L) : Prop := ∃ fault, x.answer = .error fault ∧ L.broken fault

/-- An exchange that breaks the connection is the last one, and its fault the outcome. -/
def Clean : List (Exchange L) → Except L.Error α → Prop
  | [], _ => True
  | x :: rest, r =>
    (∀ fault, x.answer = .error fault → L.broken fault → rest = [] ∧ r = .error (L.raise fault)) ∧
      Clean rest r

/-- Every run of the dialogue is clean. -/
def Hygienic (d : Dialogue L σ α) : Prop := ∀ s s' log r, Run (d s) log (r, s') → Clean log r

theorem clean_after_unbroken {more : List (Exchange L)} (unbroken : ∀ x ∈ log, ¬x.Breaks)
    (clean : Clean more r) : Clean (log ++ more) r := by
  induction log with
  | nil => exact clean
  | cons x rest ih =>
    refine ⟨fun fault failed broken => ?_, ih fun y inRest => unbroken y (.tail _ inRest)⟩
    exact absurd ⟨fault, failed, broken⟩ (unbroken x (.head _))

theorem clean_of_unbroken (unbroken : ∀ x ∈ log, ¬x.Breaks) : Clean log r := by
  rw [← List.append_nil log]
  exact clean_after_unbroken unbroken trivial

/-- A clean run breaks nothing, or fails with the fault that broke the connection. -/
theorem Clean.unbroken_or (clean : Clean log r) :
    (∀ x ∈ log, ¬x.Breaks) ∨ ∃ fault, L.broken fault ∧ r = .error (L.raise fault) := by
  induction log with
  | nil => exact .inl (by simp)
  | cons x rest ih =>
    rcases ih clean.2 with unbroken | broken
    · by_cases breaks : x.Breaks
      · obtain ⟨fault, failed, broken⟩ := breaks
        exact .inr ⟨fault, broken, (clean.1 fault failed broken).2⟩
      · refine .inl fun y inLog => ?_
        cases inLog with
        | head => exact breaks
        | tail _ inRest => exact unbroken y inRest
    · exact .inr broken

theorem Clean.unbroken_of_ok {a : α} (clean : Clean log (.ok a)) : ∀ x ∈ log, ¬x.Breaks := by
  rcases clean.unbroken_or with unbroken | ⟨fault, -, failed⟩
  · exact unbroken
  · cases failed

theorem Clean.of_error {e : L.Error} (clean : Clean log (.error e : Except _ α)) :
    Clean log (.error e : Except _ β) := by
  induction log with
  | nil => trivial
  | cons x rest ih =>
    refine ⟨fun fault failed broken => ?_, ih clean.2⟩
    obtain ⟨last, same⟩ := clean.1 fault failed broken
    exact ⟨last, by rw [Except.error.injEq] at same ⊢; exact same⟩

/-- In a clean run nothing follows an exchange that breaks the connection. -/
theorem Clean.last {before after : List (Exchange L)} {x : Exchange L}
    (clean : Clean (before ++ x :: after) r) {fault : L.Fault} (failed : x.answer = .error fault)
    (broken : L.broken fault) : after = [] ∧ r = .error (L.raise fault) := by
  induction before with
  | nil => exact clean.1 fault failed broken
  | cons y before ih => exact ih clean.2

/-! ### Rules -/

variable {d : Dialogue L σ α} {f : Except L.Error α → Dialogue L σ β}

private theorem run_silent (silent : ∀ s, ∃ out, d s = .done out) (ran : Run (d s) log out) :
    log = [] := by
  obtain ⟨out, here⟩ := silent s
  rw [here] at ran
  exact (run_done ran).1

theorem hygienic_of_silent (silent : ∀ s, ∃ out, d s = .done out) : Hygienic d := by
  intro s s' log r ran
  rw [run_silent silent ran]
  trivial

theorem hygienic_pure (a : α) : Hygienic (pure a : Dialogue L σ α) :=
  hygienic_of_silent fun s => ⟨(.ok a, s), rfl⟩

theorem hygienic_fail (e : L.Error) : Hygienic (Dialogue.fail e : Dialogue L σ α) :=
  hygienic_of_silent fun s => ⟨(.error e, s), rfl⟩

theorem hygienic_get : Hygienic (Dialogue.get : Dialogue L σ σ) :=
  hygienic_of_silent fun s => ⟨(.ok s, s), rfl⟩

theorem hygienic_modify (f : σ → σ) : Hygienic (Dialogue.modify f : Dialogue L σ Unit) :=
  hygienic_of_silent fun s => ⟨(.ok (), f s), rfl⟩

theorem hygienic_request (op : L.Op) : Hygienic (Dialogue.request op : Dialogue L σ (L.Reply op)) := by
  intro s s' log r ran
  obtain ⟨answer, rfl, rfl, -⟩ := Dialogue.run_request ran
  refine ⟨fun fault failed _ => ⟨rfl, ?_⟩, trivial⟩
  change answer = .error fault at failed
  rw [failed]
  rfl

theorem hygienic_bind {f : α → Dialogue L σ β} (first : Hygienic d) (second : ∀ a, Hygienic (f a)) :
    Hygienic (d >>= f) := by
  intro s s' log r ran
  rcases Dialogue.run_then ran with ⟨e, failed, rfl⟩ | ⟨log₁, a, mid, log₂, ok, rest, rfl⟩
  · exact (first _ _ _ _ failed).of_error
  · exact clean_after_unbroken (first _ _ _ _ ok).unbroken_of_ok (second a _ _ _ _ rest)

/-- The dialogue asks nothing more and fails. -/
def FailsWith (d : Dialogue L σ α) (e : L.Error) : Prop := ∀ s, ∃ s', d s = .done (.error e, s')

theorem fail_failsWith (e : L.Error) : FailsWith (Dialogue.fail e : Dialogue L σ α) e :=
  fun s => ⟨s, rfl⟩

/-- A dialogue that looks at an outcome must report a fault that broke the connection. -/
theorem hygienic_result (first : Hygienic d) (second : ∀ r, Hygienic (f r))
    (reports : ∀ fault, L.broken fault → FailsWith (f (.error (L.raise fault))) (L.raise fault)) :
    Hygienic (d.result >>= f) := by
  intro s s' log r ran
  obtain ⟨log₁, outcome, mid, log₂, ranFirst, rest, rfl⟩ := Dialogue.run_result ran
  have clean := first _ _ _ _ ranFirst
  rcases clean.unbroken_or with unbroken | ⟨fault, broken, rfl⟩
  · exact clean_after_unbroken unbroken (second outcome _ _ _ _ rest)
  · obtain ⟨after, reported⟩ := reports fault broken mid
    rw [reported] at rest
    obtain ⟨rfl, same⟩ := run_done rest
    cases same
    rw [List.append_nil]
    exact clean.of_error

theorem hygienic_forM {f : α → Dialogue L σ Unit} (each : ∀ a, Hygienic (f a)) (as : List α) :
    Hygienic (as.forM f) := by
  induction as with
  | nil => exact hygienic_pure ()
  | cons a as ih => exact hygienic_bind (each a) fun _ => ih

theorem hygienic_foldlM {f : β → α → Dialogue L σ β} (each : ∀ b a, Hygienic (f b a)) (as : List α)
    (b : β) : Hygienic (as.foldlM f b) := by
  induction as generalizing b with
  | nil => exact hygienic_pure b
  | cons a as ih => exact hygienic_bind (each b a) ih

/-! ## What is asked -/

/-- Every request of every run is of one kind. -/
def Asks (kind : L.Op → Prop) (d : Dialogue L σ α) : Prop :=
  ∀ s s' log r, Run (d s) log (r, s') → ∀ x ∈ log, kind x.op

variable {kind : L.Op → Prop}

theorem asks_of_silent (silent : ∀ s, ∃ out, d s = .done out) : Asks kind d := by
  intro s s' log r ran
  rw [run_silent silent ran]
  simp

theorem asks_request {op : L.Op} (asked : kind op) :
    Asks kind (Dialogue.request op : Dialogue L σ (L.Reply op)) := by
  intro s s' log r ran
  obtain ⟨answer, rfl, -, -⟩ := Dialogue.run_request ran
  simpa using asked

theorem asks_bind {f : α → Dialogue L σ β} (first : Asks kind d) (second : ∀ a, Asks kind (f a)) :
    Asks kind (d >>= f) := by
  intro s s' log r ran x inLog
  rcases Dialogue.run_then ran with ⟨e, failed, -⟩ | ⟨log₁, a, mid, log₂, ok, rest, rfl⟩
  · exact first _ _ _ _ failed x inLog
  · rcases List.mem_append.mp inLog with inFirst | inSecond
    · exact first _ _ _ _ ok x inFirst
    · exact second a _ _ _ _ rest x inSecond

theorem asks_result (first : Asks kind d) (second : ∀ r, Asks kind (f r)) :
    Asks kind (d.result >>= f) := by
  intro s s' log r ran x inLog
  obtain ⟨log₁, outcome, mid, log₂, ranFirst, rest, rfl⟩ := Dialogue.run_result ran
  rcases List.mem_append.mp inLog with inFirst | inSecond
  · exact first _ _ _ _ ranFirst x inFirst
  · exact second outcome _ _ _ _ rest x inSecond

/-! ## What runs do -/

/-- A property of exchanges and of the states around them that runs in sequence have
when each of them has it. -/
structure Composes (P : List (Exchange L) → σ → σ → Prop) : Prop where
  nil (s : σ) : P [] s s
  append {log more : List (Exchange L)} {s mid s' : σ} :
    P log s mid → P more mid s' → P (log ++ more) s s'

/-- Every run of the dialogue has the property. -/
def Follows (P : List (Exchange L) → σ → σ → Prop) (d : Dialogue L σ α) : Prop :=
  ∀ s s' log r, Run (d s) log (r, s') → P log s s'

section Follows
variable {P : List (Exchange L) → σ → σ → Prop} (composes : Composes P)
include composes

theorem follows_pure (a : α) : Follows P (pure a : Dialogue L σ α) := by
  intro s s' log r ran
  obtain ⟨rfl, same⟩ := run_done ran
  cases same
  exact composes.nil s

theorem follows_fail (e : L.Error) : Follows P (Dialogue.fail e : Dialogue L σ α) := by
  intro s s' log r ran
  obtain ⟨rfl, same⟩ := run_done ran
  cases same
  exact composes.nil s

theorem follows_bind {d : Dialogue L σ α} {f : α → Dialogue L σ β} (first : Follows P d)
    (second : ∀ a, Follows P (f a)) : Follows P (d >>= f) := by
  intro s s' log r ran
  rcases Dialogue.run_then ran with ⟨e, failed, -⟩ | ⟨log₁, a, mid, log₂, ok, rest, rfl⟩
  · exact first _ _ _ _ failed
  · exact composes.append (first _ _ _ _ ok) (second a _ _ _ _ rest)

theorem follows_result {d : Dialogue L σ α} {f : Except L.Error α → Dialogue L σ β}
    (first : Follows P d) (second : ∀ r, Follows P (f r)) : Follows P (d.result >>= f) := by
  intro s s' log r ran
  obtain ⟨log₁, outcome, mid, log₂, ranFirst, rest, rfl⟩ := Dialogue.run_result ran
  exact composes.append (first _ _ _ _ ranFirst) (second outcome _ _ _ _ rest)

theorem follows_forM {f : α → Dialogue L σ Unit} (each : ∀ a, Follows P (f a)) (as : List α) :
    Follows P (as.forM f) := by
  induction as with
  | nil => exact follows_pure composes ()
  | cons a as ih => exact follows_bind composes (each a) fun _ => ih

theorem follows_foldlM {f : β → α → Dialogue L σ β} (each : ∀ b a, Follows P (f b a))
    (as : List α) (b : β) : Follows P (as.foldlM f b) := by
  induction as generalizing b with
  | nil => exact follows_pure composes b
  | cons a as ih => exact follows_bind composes (each b a) ih

end Follows

theorem follows_get_then {f : σ → Dialogue L σ β} (rest : ∀ s, Follows P (f s)) :
    Follows P (Dialogue.get >>= f) :=
  fun s s' log r ran => rest s s s' log r ran

theorem follows_modify {f : σ → σ} (changes : ∀ s, P [] s (f s)) :
    Follows P (Dialogue.modify f : Dialogue L σ Unit) := by
  intro s s' log r ran
  obtain ⟨rfl, same⟩ := run_done ran
  cases same
  exact changes s

theorem follows_request {op : L.Op} (asks : ∀ s answer, P [⟨op, answer⟩] s s) :
    Follows P (Dialogue.request op : Dialogue L σ (L.Reply op)) := by
  intro s s' log r ran
  obtain ⟨answer, rfl, -, rfl⟩ := Dialogue.run_request ran
  exact asks _ answer

end HmsClient.PeerScript
