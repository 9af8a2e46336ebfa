import HmsClient.PoolProofs

/-! How many connections a pool may have and who is left waiting for one. Both
results give the exact condition on the steps of a run: the size limit holds as
long as the probe hands off only into a pool with room for one more, and nobody
waits in vain as long as the last connection is not given up under a waiter. -/
namespace HmsClient.Pool

open Interleaving

/-! ## Counting one pool through one step -/

private theorem holds_none (h : g.claim = none) : holds idx kind g = 0 := by simp [holds, h]

private theorem holds_some (h : g.claim = some (own, kind')) :
    holds idx kind g = if own = idx ∧ kind' = kind then 1 else 0 := by simp [holds, h]

private theorem holds_congr (h : g'.claim = g.claim) : holds idx kind g' = holds idx kind g := by
  rw [holds, holds, h]

theorem idleCount_of_pool {s : Shared} {idx : Nat} (pool : s.pools[idx]? = some p) :
    idleCount idx s = p.idle.length := by
  rw [idleCount, pool]
  rfl

theorem liveCount_of_pool {s : Shared} {idx : Nat} (pool : s.pools[idx]? = some p) :
    liveCount idx s = p.live := by
  rw [liveCount, pool]
  rfl

private theorem idleCount_congr (pools : s'.pools = s.pools) :
    idleCount idx s' = idleCount idx s := by
  rw [idleCount, idleCount, pools]

private theorem idleCount_set {s s' : Shared} {own : Nat} (idx : Nat)
    (pool : s.pools[own]? = some p)
    (pools : s'.pools = s.pools.set own new) :
    idleCount idx s' = if own = idx then new.idle.length else idleCount idx s := by
  rw [idleCount, idleCount, pools]
  split
  · next same =>
    subst same
    rw [List.getElem?_set_self (List.getElem?_eq_some_iff.mp pool).1]
    rfl
  · next other =>
    rw [List.getElem?_set_ne other]

private theorem idleCount_set_same {s s' : Shared} {own : Nat} (idx : Nat)
    (pool : s.pools[own]? = some p) (pools : s'.pools = s.pools.set own new)
    (idle : new.idle = p.idle) : idleCount idx s' = idleCount idx s := by
  rw [idleCount_set idx pool pools]
  split
  · next here =>
    rw [← here, idleCount_of_pool pool, idle]
  · rfl

/-- The part of `pooled` one goroutine's step can change. -/
def part (idx : Nat) (s : Shared) (g : Goroutine) : Nat :=
  idleCount idx s + holds idx .loan g + holds idx .dial g

/-- What a step does to one pool: to its idle connections, loans and dials
(`part`) and to the connections on their way from the probe. -/
inductive Shift (cfg : Config) (idx : Nat) (s : Shared) (g : Goroutine) (s' : Shared)
    (g' : Goroutine) : Prop where
  | level (pooled : part idx s' g' = part idx s g)
      (handed : holds idx .handOff g' = holds idx .handOff g)
  | drained (closed : s.closed = true) (pooled : part idx s' g' + 1 = part idx s g)
  | reserved (p : EndpointPool) (pool : s.pools[idx]? = some p)
      (before : g = .acquiring idx (.swap p.live)) (pooled : part idx s' g' = part idx s g + 1)
      (handed : holds idx .handOff g' = holds idx .handOff g)
  | aborted (before : g = .acquiring idx .dial) (after : g'.claim = some (idx, .stale))
      (pooled : part idx s' g' + 1 = part idx s g)
      (handed : holds idx .handOff g' = holds idx .handOff g)
  | forfeited (cn : Nat) (before : g = .discarding idx cn)
      (pooled : part idx s' g' + 1 = part idx s g)
      (handed : holds idx .handOff g' = holds idx .handOff g)
  | announced (pooled : part idx s' g' = part idx s g)
      (handed : holds idx .handOff g' = holds idx .handOff g + 1)
  | delivered (sweep : Sweep) (cn : Nat) (before : g = .probing sweep (.send idx cn))
      (room : idleCount idx s < cfg.poolSize) (pooled : part idx s' g' = part idx s g + 1)
      (handed : holds idx .handOff g' + 1 = holds idx .handOff g)
  | refused (noRoom : cfg.poolSize ≤ idleCount idx s') (pooled : part idx s' g' = part idx s g)

private theorem level_elsewhere (idle : idleCount idx s' = idleCount idx s)
    (before : ∀ kind, holds idx kind g = 0) (after : ∀ kind, holds idx kind g' = 0) :
    Shift cfg idx s g s' g' :=
  .level (by simp only [part, idle, before, after]) (by rw [before, after])

private theorem holds_elsewhere (other : own ≠ idx) (h : g.claim = some (own, kind')) :
    ∀ kind, holds idx kind g = 0 := by
  intro kind
  rw [holds_some h, if_neg fun both => other both.1]

/-- Every move of the ledger shifts each pool in one of these ways. -/
theorem ledger_shift (ledger : Ledger cfg s g s' g') (idx : Nat) : Shift cfg idx s g s' g' := by
  cases ledger with
  | quiet pools dialed closes conn claim | drop cn pools dialed closes conn claim =>
    refine .level ?_ (holds_congr claim)
    simp only [part, idleCount_congr pools, holds_congr claim]
  | take own p cn idle pool head pools dialed closes before conn claim =>
    have idleAfter := idleCount_set idx pool pools
    by_cases here : own = idx
    · subst here
      have idleBefore := idleCount_of_pool pool
      rw [if_pos rfl] at idleAfter
      rw [head, List.length_cons] at idleBefore
      rcases claim with claim | ⟨closed, claim⟩
      · refine .level ?_ ?_
        · simp [part, idleBefore, idleAfter, holds_none before.2, holds_some claim]
        · simp [holds_none before.2, holds_some claim]
      · refine .drained closed ?_
        simp [part, idleBefore, idleAfter, holds_none before.2, holds_some claim]
    · rw [if_neg here] at idleAfter
      refine level_elsewhere idleAfter (fun _ => holds_none before.2) ?_
      rcases claim with claim | ⟨-, claim⟩ <;> exact holds_elsewhere here claim
  | put own p cn pool room pools dialed closes conn claim after =>
    have idleAfter := idleCount_set idx pool pools
    by_cases here : own = idx
    · subst here
      have idleBefore := idleCount_of_pool pool
      rw [if_pos rfl, List.length_append] at idleAfter
      rcases claim with claim | ⟨sweep, rfl⟩
      · refine .level ?_ ?_
        · simp [part, idleBefore, idleAfter, holds_none after.2, holds_some claim]
        · simp [holds_none after.2, holds_some claim]
      · have handing : (Goroutine.probing sweep (.send own cn)).claim = some (own, .handOff) := rfl
        refine .delivered sweep cn rfl (by omega) ?_ ?_
        · simp [part, idleBefore, idleAfter, holds_none after.2, holds_some handing]
        · simp [holds_none after.2, holds_some handing]
    · rw [if_neg here] at idleAfter
      refine level_elsewhere idleAfter ?_ fun _ => holds_none after.2
      rcases claim with claim | ⟨sweep, rfl⟩
      · exact holds_elsewhere here claim
      · exact holds_elsewhere here rfl
  | reserve own p pool pools dialed closes before after =>
    have sameIdle := idleCount_set_same idx pool pools rfl
    have unclaimed : g.claim = none := by rw [before]; rfl
    by_cases here : own = idx
    · subst here
      refine .reserved p pool before ?_ ?_
      · simp [part, sameIdle, holds_none unclaimed, holds_some after.2]
      · simp [holds_none unclaimed, holds_some after.2]
    · exact level_elsewhere sameIdle (fun _ => holds_none unclaimed) (holds_elsewhere here after.2)
  | dial pools dialed closes before conn claim =>
    rcases claim with ⟨old, new⟩ | ⟨own, old, new⟩
    · exact level_elsewhere (idleCount_congr pools) (fun _ => holds_none old)
        fun _ => holds_none new
    · refine .level ?_ ?_
      · simp [part, idleCount_congr pools, holds_some old, holds_some new]
      · simp [holds_some old, holds_some new]
  | abort own pools dialed closes conn claim cause =>
    by_cases here : own = idx
    · subst here
      have fewer : part own s' g' + 1 = part own s g := by
        simp [part, idleCount_congr pools, holds_some claim.1, holds_some claim.2]
      rcases cause with before | closed
      · refine .aborted before claim.2 fewer ?_
        simp [holds_some claim.1, holds_some claim.2]
      · exact .drained closed fewer
    · exact level_elsewhere (idleCount_congr pools) (holds_elsewhere here claim.1)
        (holds_elsewhere here claim.2)
  | forfeit own cn pools dialed closes before after =>
    have loan : g.claim = some (own, .loan) := by rw [before]; rfl
    by_cases here : own = idx
    · subst here
      refine .forfeited cn before ?_ ?_
      · simp [part, idleCount_congr pools, holds_some loan, holds_some after.2]
      · simp [holds_some loan, holds_some after.2]
    · exact level_elsewhere (idleCount_congr pools) (holds_elsewhere here loan)
        (holds_elsewhere here after.2)
  | count own p pool pools dialed closes conn claim =>
    have sameIdle := idleCount_set_same idx pool pools rfl
    by_cases here : own = idx
    · subst here
      refine .announced ?_ ?_
      · simp [part, sameIdle, holds_none claim.1, holds_some claim.2]
      · simp [holds_none claim.1, holds_some claim.2]
    · exact level_elsewhere sameIdle (fun _ => holds_none claim.1) (holds_elsewhere here claim.2)
  | uncount own p pool pools dialed closes conn claim =>
    have sameIdle := idleCount_set_same idx pool pools rfl
    refine .level ?_ ?_
    · simp [part, sameIdle, holds_some claim.1, holds_none claim.2]
    · simp [holds_some claim.1, holds_none claim.2]
  | full own p pool noRoom pools dialed closes conn claim =>
    by_cases here : own = idx
    · subst here
      refine .refused ?_ ?_
      · rw [idleCount_congr pools, idleCount_of_pool pool]
        exact noRoom
      · simp [part, idleCount_congr pools, holds_some claim.1, holds_some claim.2]
    · exact level_elsewhere (idleCount_congr pools) (holds_elsewhere here claim.1)
        (holds_elsewhere here claim.2)

section Moves
variable {w after : World Shared Goroutine} {g g' : Goroutine} {i : Nat}

private theorem pooled_moved (idx : Nat) (found : w.threads[i]? = some g)
    (set : after.threads = w.threads.set i g') :
    pooled idx after + part idx w.shared g = pooled idx w + part idx after.shared g' := by
  have loans := tally_moved (holds idx .loan) found set
  have dials := tally_moved (holds idx .dial) found set
  simp only [pooled, part, claims]
  omega

private theorem available_moved (idx : Nat) (found : w.threads[i]? = some g)
    (set : after.threads = w.threads.set i g') :
    available idx after + (part idx w.shared g + holds idx .handOff g) =
      available idx w + (part idx after.shared g' + holds idx .handOff g') := by
  have pool := pooled_moved idx found set
  have handed := tally_moved (holds idx .handOff) found set
  simp only [available, claims]
  omega

private theorem waiters_moved (idx : Nat) (found : w.threads[i]? = some g)
    (set : after.threads = w.threads.set i g') :
    waiters idx after + waits idx g = waiters idx w + waits idx g' :=
  tally_moved (waits idx) found set

private theorem pooled_spawn (idx : Nat) :
    pooled idx { w with threads := w.threads ++ [.rest] } = pooled idx w := by
  simp [pooled, claims, holds, Goroutine.claim]

private theorem available_spawn (idx : Nat) :
    available idx { w with threads := w.threads ++ [.rest] } = available idx w := by
  simp [available, pooled, claims, holds, Goroutine.claim]

private theorem waiters_spawn (idx : Nat) :
    waiters idx { w with threads := w.threads ++ [.rest] } = waiters idx w := by
  simp [waiters, waits]

/-- `live` never falls below the connections pooled. -/
private theorem pooled_le_live {p : EndpointPool} (accounts : Accounts w)
    (pool : w.shared.pools[idx]? = some p) : pooled idx w ≤ p.live := by
  have counted := accounts idx p pool
  have bound : claims idx .loan w + claims idx .dial w ≤ tally (share idx) w.threads := by
    rw [claims, claims, ← tally_add]
    refine tally_le_tally (fun g => ?_) w.threads
    cases claim : g.claim with
    | none => simp [holds, claim]
    | some unit =>
      obtain ⟨own, kind⟩ := unit
      by_cases here : own = idx <;> cases kind <;> simp [holds, share, claim, here]
  rw [pooled, idleCount_of_pool pool]
  omega

end Moves

/-! ## The size limit -/

/-- No endpoint has more pooled connections than `poolSize`. -/
def WithinSize (cfg : Config) (w : World Shared Goroutine) : Prop :=
  ∀ idx < cfg.endpoints, pooled idx w ≤ cfg.poolSize

/-- Whether the probe is about to send a connection into pool `idx`. -/
def sendsTo (idx : Nat) : Goroutine → Bool
  | .probing _ (.send own _) => own == idx
  | _ => false

/-- When the probe finds room in the idle channel, the pool as a whole has room
for one more connection. -/
def HandsOffWithin (cfg : Config) (w : World Shared Goroutine) : Action Choice → Prop
  | .spawn => True
  | .move i _ => ∀ g ∈ w.threads[i]?, ∀ idx < cfg.endpoints,
      sendsTo idx g → idleCount idx w.shared < cfg.poolSize → pooled idx w < cfg.poolSize

instance : DecidablePred (WithinSize cfg) := fun _ => Nat.decidableBallLT _ _

instance : (action : Action Choice) → Decidable (HandsOffWithin cfg w action)
  | .spawn => isTrue trivial
  | .move i _ => inferInstanceAs (Decidable (∀ g ∈ w.threads[i]?, ∀ idx < cfg.endpoints,
      sendsTo idx g → idleCount idx w.shared < cfg.poolSize → pooled idx w < cfg.poolSize))

private theorem sendsTo_cases (sending : sendsTo idx g = true) :
    ∃ sweep cn, g = .probing sweep (.send idx cn) := by
  unfold sendsTo at sending
  split at sending
  · next sweep own cn =>
    exact ⟨sweep, cn, by rw [beq_iff_eq.mp sending]⟩
  · cases sending

/-- A hand-off that finds room in the channel adds a connection to the pool. -/
private theorem send_adds (moved : step cfg s (.probing sweep (.send idx cn)) choice = some (s', g'))
    (room : idleCount idx s < cfg.poolSize) :
    part idx s' g' = part idx s (.probing sweep (.send idx cn)) + 1 := by
  cases choice with
  | go =>
    obtain ⟨p, pool, sent⟩ := Option.bind_eq_some_iff.mp moved
    have idleBefore := idleCount_of_pool pool
    rw [if_pos (by omega)] at sent
    cases sent
    have idleAfter : idleCount idx { s.send idx p cn with locked := false } = p.idle.length + 1 := by
      rw [idleCount_set idx pool rfl, if_pos rfl, List.length_append]
      rfl
    simp [part, idleBefore, idleAfter, holds, Goroutine.claim]
  | acquire | close | probe | succeed | fail | release | discard | receive | wake | expire | exit =>
    cases moved

private theorem size_step (sound : Sound cfg w) (within : WithinSize cfg w)
    (moved : next (step cfg) .rest w action = some after) :
    WithinSize cfg after ↔ HandsOffWithin cfg w action := by
  rcases next_cases moved with ⟨rfl, rfl⟩ | ⟨i, choice, g, g', rfl, found, stepped, set⟩
  · simp only [WithinSize, pooled_spawn, HandsOffWithin, iff_true]
    exact within
  · have ledger := sound.ledger found stepped
    simp only [WithinSize, HandsOffWithin, found, Option.mem_def, Option.some.injEq,
      forall_eq']
    refine forall_congr' fun idx => forall_congr' fun inRange => ?_
    have change := pooled_moved idx found set
    have before := within idx inRange
    constructor
    · intro kept sending room
      obtain ⟨sweep, cn, rfl⟩ := sendsTo_cases sending
      have gained := send_adds stepped room
      omega
    · intro allowed
      cases ledger_shift ledger idx with
      | level pooled handed => omega
      | drained closed pooled => omega
      | reserved p pool swapping pooled handed =>
        have live := pooled_le_live sound.accounts pool
        have below := sound.swaps idx p.live (swapping ▸ List.mem_of_getElem? found)
        omega
      | aborted dialing after pooled handed => omega
      | forfeited cn discarding pooled handed => omega
      | announced pooled handed => omega
      | delivered sweep cn sending room pooled handed =>
        have roomy := allowed (by simp [sending, sendsTo]) room
        omega
      | refused noRoom pooled => omega

private theorem no_claims_at_start (idx : Nat) (kind : Claim) :
    claims idx kind (start cfg first) = 0 := rfl

private theorem within_start : WithinSize cfg (start cfg first) := by
  intro idx _
  have idle : idleCount idx (start cfg first).shared ≤ 1 := by
    cases found : (start cfg first).shared.pools[idx]? with
    | none => simp [idleCount, found]
    | some p =>
      rw [idleCount_of_pool found]
      rcases pool_at_start found with ⟨-, rfl⟩ | ⟨-, rfl⟩ <;> simp
  have clamped := cfg.clamped
  rw [pooled, no_claims_at_start, no_claims_at_start]
  omega

/-- **The size limit.** The pools stay within `poolSize` throughout a run
exactly if every hand-off of the probe that finds room in the idle channel
finds room in the whole pool. -/
theorem size_limit_holds_iff (cfg : Config) (first : Nat) (inRange : first < cfg.endpoints)
    (actions : List (Action Choice)) :
    Always (step cfg) .rest (WithinSize cfg) (start cfg first) actions ↔
      EveryStep (step cfg) .rest (HandsOffWithin cfg) (start cfg first) actions :=
  always_iff_every_step (fun _ _ _ sound moved => sound_next sound moved)
    (fun _ _ _ sound within moved => size_step sound within moved)
    (sound_start inRange) within_start actions

/-- With nothing on loan, a hand-off into a pool of two keeps to the limit. -/
theorem hand_off_into_idle_pool_keeps_limit :
    Always (step (.clamp 1 2)) .rest (WithinSize (.clamp 1 2)) (start (.clamp 1 2) 0)
      (choosing 0 [.probe [0], .go, .succeed, .succeed, .go, .go]) :=
  (size_limit_holds_iff (.clamp 1 2) 0 (by decide) _).mpr (by decide)

/-- A caller discards the only connection of a pool of one and a second caller
dials a new one; the probe then hands off another, and the pool has two. -/
theorem hand_off_exceeds_limit :
    ∃ w, run (step (.clamp 1 1)) .rest (start (.clamp 1 1) 0)
        ([.spawn, .spawn] ++ choosing 1 [.acquire 0, .go, .go, .discard, .go, .go] ++
          choosing 2 [.acquire 0, .go, .go, .go, .go, .go, .succeed, .go] ++
          choosing 0 [.probe [0], .go, .succeed, .succeed, .go, .go]) = some w ∧
      w.threads = [.probing ⟨true, []⟩ .next, .rest, .holding 0 1] ∧
      w.shared.pools = [⟨[2], 2⟩] ∧ pooled 0 w = 2 ∧ ¬ WithinSize (.clamp 1 1) w :=
  ⟨_, rfl, rfl, rfl, rfl, by decide⟩

/-! ## Waiting callers -/

/-- While the client is open, whoever waits for a connection of some pool waits
for one that is idle, on loan, being dialed or about to be handed off. -/
def ServesWaiters (cfg : Config) (w : World Shared Goroutine) : Prop :=
  w.shared.closed = false → ∀ idx < cfg.endpoints, 0 < waiters idx w → 0 < available idx w

/-- Whether a step gives up a connection of pool `idx`, or a dial for it,
without sending anything into the idle channel. -/
def givesUp (idx : Nat) : Goroutine → Choice → Bool
  | .discarding own _, .go => own == idx
  | .acquiring own .dial, .fail => own == idx
  | _, _ => false

/-- Whether a step is the capacity check of `acquire` for pool `idx`. -/
def checksCapacity (idx : Nat) : Goroutine → Choice → Bool
  | .acquiring own .load, .go => own == idx
  | _, _ => false

/-- While the client is open, the last connection of a pool is not given up
under a waiter, and `acquire` does not go waiting on the strength of units of
`live` that are all about to be given back. -/
def Considerate (cfg : Config) (w : World Shared Goroutine) : Action Choice → Prop
  | .spawn => True
  | .move i choice => w.shared.closed = false → ∀ g ∈ w.threads[i]?, ∀ idx < cfg.endpoints,
      (givesUp idx g choice → 0 < waiters idx w → 1 < available idx w) ∧
      (checksCapacity idx g choice → cfg.poolSize ≤ liveCount idx w.shared → 0 < available idx w)

instance : DecidablePred (ServesWaiters cfg) := fun w =>
  inferInstanceAs (Decidable (w.shared.closed = false →
    ∀ idx < cfg.endpoints, 0 < waiters idx w → 0 < available idx w))

instance : (action : Action Choice) → Decidable (Considerate cfg w action)
  | .spawn => isTrue trivial
  | .move i choice => inferInstanceAs (Decidable (w.shared.closed = false →
      ∀ g ∈ w.threads[i]?, ∀ idx < cfg.endpoints,
        (givesUp idx g choice → 0 < waiters idx w → 1 < available idx w) ∧
        (checksCapacity idx g choice → cfg.poolSize ≤ liveCount idx w.shared →
          0 < available idx w)))

private theorem givesUp_cases (giving : givesUp idx g choice = true) :
    (∃ cn, g = .discarding idx cn ∧ choice = .go) ∨ g = .acquiring idx .dial ∧ choice = .fail := by
  unfold givesUp at giving
  split at giving
  · next own cn =>
    exact .inl ⟨cn, by rw [beq_iff_eq.mp giving], rfl⟩
  · rw [beq_iff_eq.mp giving]
    exact .inr ⟨rfl, rfl⟩
  · cases giving

/-- A step that gives up a connection leaves one fewer and nobody new waiting. -/
private theorem given_up (giving : givesUp idx g choice = true)
    (moved : step cfg s g choice = some (s', g')) :
    s'.closed = s.closed ∧ waits idx g = 0 ∧ waits idx g' = 0 ∧
      part idx s' g' + holds idx .handOff g' + 1 = part idx s g + holds idx .handOff g := by
  rcases givesUp_cases giving with ⟨cn, rfl, rfl⟩ | ⟨rfl, rfl⟩
  · cases moved
    refine ⟨rfl, rfl, rfl, ?_⟩
    simp [part, idleCount, Shared.close, holds, Goroutine.claim]
  · cases moved
    refine ⟨rfl, by simp [waits], by simp [waits], ?_⟩
    simp [part, holds, Goroutine.claim]

/-- The capacity check changes nothing but its own position, and goes waiting
exactly when `live` is at the limit. -/
private theorem capacity_checked (checking : checksCapacity idx g choice = true)
    (moved : step cfg s g choice = some (s', g')) :
    s' = s ∧ g.claim = none ∧ g'.claim = none ∧ waits idx g = 0 ∧
      waits idx g' = if (cfg.poolSize : Int) ≤ liveCount idx s then 1 else 0 := by
  unfold checksCapacity at checking
  split at checking
  · next own =>
    rw [beq_iff_eq.mp checking] at moved ⊢
    obtain ⟨p, pool, moved⟩ := Option.bind_eq_some_iff.mp moved
    rw [liveCount_of_pool pool]
    split at moved
    · next full =>
      cases moved
      exact ⟨rfl, rfl, rfl, by simp [waits], by simp [waits, full]⟩
    · next below =>
      cases moved
      exact ⟨rfl, rfl, rfl, by simp [waits], by simp [waits, below]⟩
  · cases checking

private theorem closed_stays (passage : Passage s g s' g') (closed : s.closed = true) :
    s'.closed = true := by
  cases passage with
  | stay locked same | advance idx same | again free isClosed same | exit locked same
  | finish locked same => rw [same, closed]
  | shut free isOpen | enter free isOpen => rw [isOpen] at closed; cases closed
  | leave idx done same => rw [same]; exact closed

private theorem dial_aborts_by_failing
    (moved : step cfg s (.acquiring idx .dial) choice = some (s', g'))
    (stale : g'.claim = some (idx, .stale)) : choice = .fail := by
  cases choice with
  | fail => rfl
  | succeed =>
    cases moved
    cases stale
  | acquire | close | probe | go | release | discard | receive | wake | expire | exit => cases moved

private theorem discards_by_going
    (moved : step cfg s (.discarding idx cn) choice = some (s', g')) : choice = .go := by
  cases choice with
  | go => rfl
  | acquire | close | probe | succeed | fail | release | discard | receive | wake | expire | exit =>
    cases moved

/-- An open step that neither gives up a connection of the pool nor checks its
capacity leaves its waiters served. -/
private theorem other_step_serves {w after : World Shared Goroutine} {g g' : Goroutine} {i : Nat}
    (ledger : Ledger cfg w.shared g after.shared g')
    (isOpen : w.shared.closed = false) (found : w.threads[i]? = some g)
    (set : after.threads = w.threads.set i g')
    (stepped : step cfg w.shared g choice = some (after.shared, g'))
    (serves : 0 < waiters idx w → 0 < available idx w)
    (keeps : ¬ givesUp idx g choice = true) (unchecked : ¬ checksCapacity idx g choice = true) :
    0 < waiters idx after → 0 < available idx after := by
  intro waiting
  have arrives : waits idx g' = 0 := by
    rw [waits, if_neg]
    rintro rfl
    obtain ⟨rfl, rfl⟩ := wait_was_load stepped
    exact unchecked (by simp [checksCapacity])
  have waiterChange := waiters_moved idx found set
  have served := serves (by omega)
  have change := available_moved idx found set
  cases ledger_shift ledger idx with
  | level pooled handed => omega
  | drained closed pooled => rw [isOpen] at closed; cases closed
  | reserved p pool swapping pooled handed => omega
  | aborted dialing stale pooled handed =>
    subst dialing
    cases dial_aborts_by_failing stepped stale
    exact absurd (by simp [givesUp]) keeps
  | forfeited cn discarding pooled handed =>
    subst discarding
    cases discards_by_going stepped
    exact absurd (by simp [givesUp]) keeps
  | announced pooled handed => omega
  | delivered sweep cn sending room pooled handed => omega
  | refused noRoom pooled =>
    have clamped := cfg.clamped
    simp only [available, Pool.pooled]
    omega

private theorem served_step (sound : Sound cfg w) (serves : ServesWaiters cfg w)
    (moved : next (step cfg) .rest w action = some after) :
    ServesWaiters cfg after ↔ Considerate cfg w action := by
  rcases next_cases moved with ⟨rfl, rfl⟩ | ⟨i, choice, g, g', rfl, found, stepped, set⟩
  · simp only [ServesWaiters, waiters_spawn, available_spawn, Considerate, iff_true]
    exact serves
  · simp only [Considerate, found, Option.mem_def, Option.some.injEq, forall_eq']
    cases open' : w.shared.closed with
    | true =>
      have closed := closed_stays (step_passage stepped) open'
      simp [ServesWaiters, closed]
    | false =>
      have ledger := sound.ledger found stepped
      constructor
      · intro kept _ idx inRange
        have waiterChange := waiters_moved idx found set
        have change := available_moved idx found set
        constructor
        · intro giving waiting
          obtain ⟨same, here, there, fewer⟩ := given_up giving stepped
          have left := kept (same.trans open') idx inRange (by omega)
          omega
        · intro checking full
          obtain ⟨same, unclaimed, unclaimed', here, there⟩ := capacity_checked checking stepped
          rw [if_pos full] at there
          have left := kept (by rw [same, open']) idx inRange (by omega)
          simp only [same, part, holds_none unclaimed, holds_none unclaimed'] at change
          omega
      · intro considerate _ idx inRange
        obtain ⟨kindly, honestly⟩ := considerate rfl idx inRange
        have before := serves open' idx inRange
        have waiterChange := waiters_moved idx found set
        have change := available_moved idx found set
        by_cases giving : givesUp idx g choice = true
        · obtain ⟨-, here, there, fewer⟩ := given_up giving stepped
          intro waiting
          have spare := kindly giving (by omega)
          omega
        · by_cases checking : checksCapacity idx g choice = true
          · obtain ⟨same, unclaimed, unclaimed', here, there⟩ := capacity_checked checking stepped
            simp only [same, part, holds_none unclaimed, holds_none unclaimed'] at change
            intro waiting
            split at there
            · next full =>
              have some := honestly checking full
              omega
            · have some := before (by omega)
              omega
          · exact other_step_serves ledger open' found set stepped before giving checking

/-- **Waiting callers.** Nobody waits in vain in any state of a run of an open
client exactly if every step that gives up a connection or a dial leaves
another when somebody waits, and every capacity check that fails has a
connection to wait for. -/
theorem waiters_served_iff (cfg : Config) (first : Nat) (inRange : first < cfg.endpoints)
    (actions : List (Action Choice)) :
    Always (step cfg) .rest (ServesWaiters cfg) (start cfg first) actions ↔
      EveryStep (step cfg) .rest (Considerate cfg) (start cfg first) actions := by
  have served : ServesWaiters cfg (start cfg first) := by
    intro _ idx _ waiting
    exact absurd waiting (Nat.lt_irrefl 0)
  exact always_iff_every_step (fun _ _ _ sound moved => sound_next sound moved)
    (fun _ _ _ sound serves moved => served_step sound serves moved)
    (sound_start inRange) served actions

/-- A second caller waits for the only connection and gets it on release. -/
theorem release_serves_the_waiter :
    Always (step (.clamp 1 1)) .rest (ServesWaiters (.clamp 1 1)) (start (.clamp 1 1) 0)
      ([.spawn, .spawn] ++ choosing 1 [.acquire 0, .go, .go] ++
        choosing 2 [.acquire 0, .go, .go, .go] ++ choosing 1 [.release, .go] ++
        choosing 2 [.receive]) :=
  (waiters_served_iff (.clamp 1 1) 0 (by decide) _).mpr (by decide)

/-- The same, but the connection turns out broken and is discarded: the second
caller is left waiting in an open client whose pool is empty, with no goroutine
under way that could ever send to it. -/
theorem discard_strands_the_waiter :
    ∃ w, run (step (.clamp 1 1)) .rest (start (.clamp 1 1) 0)
        ([.spawn, .spawn] ++ choosing 1 [.acquire 0, .go, .go] ++
          choosing 2 [.acquire 0, .go, .go, .go] ++ choosing 1 [.discard, .go, .go]) = some w ∧
      w.threads = [.probeLoop, .rest, .acquiring 0 .wait] ∧ w.shared.closed = false ∧
      w.shared.pools = [⟨[], 0⟩] ∧ available 0 w = 0 ∧ ¬ ServesWaiters (.clamp 1 1) w :=
  ⟨_, rfl, rfl, rfl, rfl, rfl, by decide⟩

end HmsClient.Pool
