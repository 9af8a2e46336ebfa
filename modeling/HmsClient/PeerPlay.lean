import HmsClient.PeerScript

/-! Programs that run against a peer with a state of its own, which may be the whole
world around the program. Such a run is one of the program's runs, and its answers are
the peer's. What a program means to a peer is its outcome as a function of the peer's state,
which may leave out how it asked. Programs that ask alike cannot be told apart by any
peer. -/
namespace HmsClient.PeerScript

variable {L : Link} {α β σ τ : Type}

/-- An exchange, and the states of the peer before and after it. -/
structure Sent (L : Link) (τ : Type) extends Exchange L where
  before : τ
  after : τ

/-- What was exchanged with such a peer, the outcome and the state it left. -/
structure Played (L : Link) (τ α : Type) where
  log : List (Sent L τ)
  outcome : α
  state : τ

def Script.play (peer : (op : L.Op) → τ → Except L.Fault (L.Reply op) × τ) :
    Script L α → τ → Played L τ α
  | .done a, t => ⟨[], a, t⟩
  | .ask op next, t =>
    let answered := peer op t
    let rest := (next answered.1).play peer answered.2
    { rest with log := ⟨⟨op, answered.1⟩, t, answered.2⟩ :: rest.log }

section Play
variable {peer : (op : L.Op) → τ → Except L.Fault (L.Reply op) × τ}

/-- What is played is one of the program's runs. -/
theorem play_run (p : Script L α) (t : τ) :
    Run p ((p.play peer t).log.map Sent.toExchange) (p.play peer t).outcome := by
  induction p generalizing t with
  | done a => exact .done a
  | ask op next ih => exact .ask (ih _ _)

variable {t t' : τ} {d : Dialogue L σ α} {f : α → Dialogue L σ β} {s mid : σ}

theorem play_answers {p : Script L α} {x : Sent L τ} (inLog : x ∈ (p.play peer t).log) :
    peer x.op x.before = (x.answer, x.after) := by
  induction p generalizing t with
  | done a => cases inLog
  | ask op next ih =>
    cases inLog with
    | head => rfl
    | tail _ inRest => exact ih _ inRest

/-- An exchange starts no earlier than the run, by a measure that no answer lowers. -/
theorem play_before_ge {f : τ → Nat} (mono : ∀ op t, f t ≤ f (peer op t).2) {p : Script L α}
    {x : Sent L τ} (inLog : x ∈ (p.play peer t).log) : f t ≤ f x.before := by
  induction p generalizing t with
  | done a => cases inLog
  | ask op next ih =>
    cases inLog with
    | head => exact Nat.le_refl _
    | tail _ inRest => exact Nat.le_trans (mono op t) (ih _ inRest)

/-- Of two exchanges of a run the later one starts no earlier than the other ended. -/
theorem play_sorted {f : τ → Nat} (mono : ∀ op t, f t ≤ f (peer op t).2) (p : Script L α) (t : τ) :
    (p.play peer t).log.Pairwise fun x y => f x.after ≤ f y.before := by
  induction p generalizing t with
  | done a => exact .nil
  | ask op next ih => exact .cons (fun y inRest => play_before_ge mono inRest) (ih _ _)

/-- What is played in sequence is played one after the other. -/
theorem play_bind (p : Script L α) (f : α → Script L β) (t : τ) :
    (p.bind f).play peer t =
      let first := p.play peer t
      let rest := (f first.outcome).play peer first.state
      { rest with log := first.log ++ rest.log } := by
  induction p generalizing t with
  | done a => rfl
  | ask op next ih =>
    simp only [Script.bind, Script.play, ih]
    rfl

/-- How a program ends against a peer: its outcome, and the state that the peer is left in. -/
def Script.ends (peer : (op : L.Op) → τ → Except L.Fault (L.Reply op) × τ) (p : Script L α) (t : τ) :
    α × τ :=
  ((p.play peer t).outcome, (p.play peer t).state)

theorem ends_bind (p : Script L α) (f : α → Script L β) (t : τ) :
    (p.bind f).ends peer t = (f (p.ends peer t).1).ends peer (p.ends peer t).2 := by
  simp only [Script.ends, play_bind]

theorem ends_request (peer : (op : L.Op) → τ → Except L.Fault (L.Reply op) × τ) (op : L.Op) (s : σ)
    (t : τ) :
    (Dialogue.request op s : Script L _).ends peer t =
      (((peer op t).1.mapError L.raise, s), (peer op t).2) := by
  simp only [Script.ends, Dialogue.request, Script.play]
  cases (peer op t).1 with
  | ok reply => rfl
  | error fault => rfl

theorem ends_then {a : α} (first : (d s).ends peer t = ((.ok a, mid), t')) :
    ((d >>= f) s).ends peer t = (f a mid).ends peer t' := by
  simp only [bind, ends_bind, first]

theorem ends_failed {e : L.Error} (first : (d s).ends peer t = ((.error e, mid), t')) :
    ((d >>= f) s).ends peer t = ((.error e, mid), t') := by
  simp only [bind, ends_bind, first]
  rfl

theorem ends_result {f : Except L.Error α → Dialogue L σ β} {r : Except L.Error α}
    (first : (d s).ends peer t = ((r, mid), t')) :
    ((d.result >>= f) s).ends peer t = (f r mid).ends peer t' := by
  have caught : (d.result s).ends peer t = ((.ok r, mid), t') := by
    simp only [Dialogue.result, ends_bind, first]
    rfl
  exact ends_then caught

theorem ends_forM_singleton (f : α → Dialogue L σ Unit) (a : α) (s : σ) (t : τ) :
    (([a] : List α).forM f s).ends peer t = (f a s).ends peer t := by
  change ((f a >>= fun _ => pure ()) s).ends peer t = _
  rcases ended : (f a s).ends peer t with ⟨⟨r, mid⟩, t'⟩
  cases r with
  | ok _ => exact ends_then ended
  | error e => exact ends_failed ended

end Play

/-! ## Dialogues that ask something -/

/-- Every run of the dialogue puts a request. -/
def Speaks (d : Dialogue L σ α) : Prop := ∀ s s' log r, Run (d s) log (r, s') → log ≠ []

theorem speaks_request (op : L.Op) : Speaks (Dialogue.request op : Dialogue L σ (L.Reply op)) := by
  intro s s' log r ran
  obtain ⟨answer, rfl, -, -⟩ := Dialogue.run_request ran
  simp

theorem speaks_bind {d : Dialogue L σ α} {f : α → Dialogue L σ β} (first : Speaks d) :
    Speaks (d >>= f) := by
  intro s s' log r ran
  rcases Dialogue.run_then ran with ⟨e, failed, -⟩ | ⟨log₁, a, mid, log₂, ok, -, rfl⟩
  · exact first _ _ _ _ failed
  · simp [first _ _ _ _ ok]

theorem speaks_result {d : Dialogue L σ α} {f : Except L.Error α → Dialogue L σ β}
    (first : Speaks d) : Speaks (d.result >>= f) := by
  intro s s' log r ran
  obtain ⟨log₁, outcome, mid, log₂, ranFirst, -, rfl⟩ := Dialogue.run_result ran
  simp [first _ _ _ _ ranFirst]

theorem speaks_get_then {f : σ → Dialogue L σ β} (rest : ∀ s, Speaks (f s)) :
    Speaks (Dialogue.get >>= f) :=
  fun s s' log r ran => rest s s s' log r ran

theorem speaks_modify_then {g : σ → σ} {f : Unit → Dialogue L σ β} (rest : Speaks (f ())) :
    Speaks (Dialogue.modify g >>= f) :=
  fun s s' log r ran => rest (g s) s' log r ran

/-! ## What a dialogue means to its peer -/

/-- A program over what dialogues have captured and over the peer's state, without requests. -/
abbrev Meaning (ε κ τ α : Type) := ExceptT ε (StateM (κ × τ)) α

/-- Played against the peer from a good state, the dialogue returns what the program does,
with the same effect on the part of the state that one looks at and on the peer. -/
def Means (peer : (op : L.Op) → τ → Except L.Fault (L.Reply op) × τ) (good : σ → Prop)
    (look : σ → κ) (d : Dialogue L σ α) (m : Meaning L.Error κ τ α) : Prop :=
  ∀ s t, good s →
    let played := (d s).play peer t
    good played.outcome.2 ∧
      m.run.run (look s, t) = (played.outcome.1, look played.outcome.2, played.state)

section Means
variable {κ : Type} {peer : (op : L.Op) → τ → Except L.Fault (L.Reply op) × τ} {good : σ → Prop}
  {look : σ → κ}

theorem means_pure (a : α) : Means peer good look (pure a : Dialogue L σ α) (pure a) :=
  fun _ _ here => ⟨here, rfl⟩

theorem means_modify {g : σ → σ} {h : κ → κ} (keeps : ∀ s, good s → good (g s))
    (same : ∀ s, good s → look (g s) = h (look s)) :
    Means peer good look (Dialogue.modify g : Dialogue L σ Unit)
      (modify fun (k, t) => (h k, t)) := by
  intro s t here
  refine ⟨keeps s here, ?_⟩
  change (Except.ok (), (h (look s), t)) = _
  rw [← same s here]
  rfl

theorem Meaning.bind_ok {ε : Type} {m : Meaning ε κ τ α} {g : α → Meaning ε κ τ β} {a : α}
    {x y : κ × τ} (ran : m.run.run x = (.ok a, y)) : (m >>= g).run.run x = (g a).run.run y := by
  simp only [ExceptT.run_bind, StateT.run_bind]
  rw [ran]
  rfl

theorem Meaning.bind_error {ε : Type} {m : Meaning ε κ τ α} {g : α → Meaning ε κ τ β} {e : ε}
    {x y : κ × τ} (ran : m.run.run x = (.error e, y)) :
    (m >>= g).run.run x = (.error e, y) := by
  simp only [ExceptT.run_bind, StateT.run_bind]
  rw [ran]
  rfl

theorem means_bind {d : Dialogue L σ α} {f : α → Dialogue L σ β} {m : Meaning L.Error κ τ α}
    {g : α → Meaning L.Error κ τ β} (first : Means peer good look d m)
    (second : ∀ a, Means peer good look (f a) (g a)) :
    Means peer good look (d >>= f) (m >>= g) := by
  intro s t here
  obtain ⟨there, same⟩ := first s t here
  rcases ended : (d s).ends peer t with ⟨⟨r, mid⟩, t'⟩
  obtain ⟨outcome, state⟩ := Prod.mk.inj ended
  rw [outcome, state] at same
  rw [outcome] at there
  cases r with
  | ok a =>
    obtain ⟨outcome', state'⟩ := Prod.mk.inj (ends_then (f := f) ended)
    simp only [outcome', state']
    obtain ⟨after, rest⟩ := second a mid t' there
    exact ⟨after, (Meaning.bind_ok same).trans rest⟩
  | error e =>
    obtain ⟨outcome', state'⟩ := Prod.mk.inj (ends_failed (f := f) ended)
    simp only [outcome', state']
    exact ⟨there, Meaning.bind_error same⟩

/-- A dialogue that only finds out a value goes on with it. -/
theorem means_value {d : Dialogue L σ α} {f : α → Dialogue L σ β} {m : Meaning L.Error κ τ β}
    {a : α} (first : Means peer good look d (pure a)) (second : Means peer good look (f a) m) :
    Means peer good look (d >>= f) m := by
  intro s t here
  obtain ⟨there, same⟩ := first s t here
  rcases ended : (d s).ends peer t with ⟨⟨r, mid⟩, t'⟩
  obtain ⟨outcome, state⟩ := Prod.mk.inj ended
  rw [outcome, state] at same
  rw [outcome] at there
  change (Except.ok a, (look s, t)) = (r, (look mid, t')) at same
  obtain ⟨rfl, kept⟩ := Prod.mk.inj same
  obtain ⟨looks, rfl⟩ := Prod.mk.inj kept
  obtain ⟨outcome', state'⟩ := Prod.mk.inj (ends_then (f := f) ended)
  simp only [outcome', state']
  obtain ⟨after, rest⟩ := second mid t there
  exact ⟨after, by rw [looks]; exact rest⟩

theorem means_forM {f : α → Dialogue L σ Unit} {g : α → Meaning L.Error κ τ Unit}
    (each : ∀ a, Means peer good look (f a) (g a)) (as : List α) :
    Means peer good look (as.forM f) (as.forM g) := by
  induction as with
  | nil => exact means_pure ()
  | cons a as ih => exact means_bind (each a) fun _ => ih

end Means

/-! ## Programs that ask alike -/

/-- The programs put the same requests, whatever is answered, and their outcomes are
related. -/
inductive Alike (Q : α → β → Prop) : Script L α → Script L β → Prop where
  | done {a : α} {b : β} : Q a b → Alike Q (.done a) (.done b)
  | ask {op : L.Op} {next : Except L.Fault (L.Reply op) → Script L α}
      {next' : Except L.Fault (L.Reply op) → Script L β} :
      (∀ answer, Alike Q (next answer) (next' answer)) → Alike Q (.ask op next) (.ask op next')

theorem alike_refl {Q : α → α → Prop} (refl : ∀ a, Q a a) (p : Script L α) : Alike Q p p := by
  induction p with
  | done a => exact .done (refl a)
  | ask op next ih => exact .ask ih

theorem alike_bind {α' β' : Type} {Q : α → β → Prop} {Q' : α' → β' → Prop} {p : Script L α}
    {p' : Script L β} {f : α → Script L α'} {f' : β → Script L β'} (first : Alike Q p p')
    (second : ∀ a b, Q a b → Alike Q' (f a) (f' b)) : Alike Q' (p.bind f) (p'.bind f') := by
  induction first with
  | done related => exact second _ _ related
  | ask _ ih => exact .ask ih

/-- No peer tells programs apart that ask alike. -/
theorem alike_play {Q : α → β → Prop} {p : Script L α} {p' : Script L β} (alike : Alike Q p p')
    (peer : (op : L.Op) → τ → Except L.Fault (L.Reply op) × τ) (t : τ) :
    (p.play peer t).log = (p'.play peer t).log ∧ (p.play peer t).state = (p'.play peer t).state ∧
      Q (p.play peer t).outcome (p'.play peer t).outcome := by
  induction alike generalizing t with
  | done related => exact ⟨rfl, rfl, related⟩
  | ask _ ih =>
    obtain ⟨logs, states, related⟩ := ih (peer _ t).1 (peer _ t).2
    exact ⟨congrArg _ logs, states, related⟩

end HmsClient.PeerScript
