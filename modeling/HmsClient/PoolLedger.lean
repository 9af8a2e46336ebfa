import HmsClient.PoolSteps

/-! The books a pool keeps. A step of a goroutine moves at most one connection
and at most one unit of a `live` count; `Ledger` lists the moves there are and
every step of the model is one of them. Conservation of connections and the
meaning of `live` are read off the list. -/
namespace HmsClient.Pool

open Interleaving

/-- The effect of a step on connections and `live` counts: what becomes of the
shared books, and what the goroutine owns and accounts for before and after. -/
inductive Ledger (cfg : Config) (s : Shared) (g : Goroutine) (s' : Shared) (g' : Goroutine) :
    Prop where
  | quiet (pools : s'.pools = s.pools) (dialed : s'.dialed = s.dialed)
      (closes : s'.closes = s.closes) (conn : g'.conn = g.conn) (claim : g'.claim = g.claim)
  | take (idx : Nat) (p : EndpointPool) (cn : Nat) (idle : List Nat)
      (pool : s.pools[idx]? = some p) (head : p.idle = cn :: idle)
      (pools : s'.pools = s.pools.set idx { p with idle := idle })
      (dialed : s'.dialed = s.dialed) (closes : s'.closes = s.closes)
      (before : g.conn = none ∧ g.claim = none) (conn : g'.conn = some cn)
      (claim : g'.claim = some (idx, .loan) ∨ s.closed = true ∧ g'.claim = some (idx, .stale))
  | put (idx : Nat) (p : EndpointPool) (cn : Nat)
      (pool : s.pools[idx]? = some p) (room : p.idle.length < cfg.poolSize)
      (pools : s'.pools = s.pools.set idx { p with idle := p.idle ++ [cn] })
      (dialed : s'.dialed = s.dialed) (closes : s'.closes = s.closes)
      (conn : g.conn = some cn)
      (claim : g.claim = some (idx, .loan) ∨ ∃ sweep, g = .probing sweep (.send idx cn))
      (after : g'.conn = none ∧ g'.claim = none)
  | reserve (idx : Nat) (p : EndpointPool)
      (pool : s.pools[idx]? = some p)
      (pools : s'.pools = s.pools.set idx { p with live := p.live + 1 })
      (dialed : s'.dialed = s.dialed) (closes : s'.closes = s.closes)
      (before : g = .acquiring idx (.swap p.live))
      (after : g'.conn = none ∧ g'.claim = some (idx, .dial))
  | dial (pools : s'.pools = s.pools) (dialed : s'.dialed = s.dialed + 1)
      (closes : s'.closes = s.closes) (before : g.conn = none) (conn : g'.conn = some s.dialed)
      (claim : (g.claim = none ∧ g'.claim = none) ∨
        ∃ idx, g.claim = some (idx, .dial) ∧ g'.claim = some (idx, .loan))
  | abort (idx : Nat) (pools : s'.pools = s.pools) (dialed : s'.dialed = s.dialed)
      (closes : s'.closes = s.closes) (conn : g.conn = none ∧ g'.conn = none)
      (claim : g.claim = some (idx, .dial) ∧ g'.claim = some (idx, .stale))
      (cause : g = .acquiring idx .dial ∨ s.closed = true)
  | forfeit (idx cn : Nat) (pools : s'.pools = s.pools) (dialed : s'.dialed = s.dialed)
      (closes : s'.closes = s.closes ++ [cn]) (before : g = .discarding idx cn)
      (after : g'.conn = none ∧ g'.claim = some (idx, .stale))
  | drop (cn : Nat) (pools : s'.pools = s.pools) (dialed : s'.dialed = s.dialed)
      (closes : s'.closes = s.closes ++ [cn]) (conn : g.conn = some cn ∧ g'.conn = none)
      (claim : g'.claim = g.claim)
  | count (idx : Nat) (p : EndpointPool) (pool : s.pools[idx]? = some p)
      (pools : s'.pools = s.pools.set idx { p with live := p.live + 1 })
      (dialed : s'.dialed = s.dialed) (closes : s'.closes = s.closes)
      (conn : g'.conn = g.conn) (claim : g.claim = none ∧ g'.claim = some (idx, .handOff))
  | uncount (idx : Nat) (p : EndpointPool) (pool : s.pools[idx]? = some p)
      (pools : s'.pools = s.pools.set idx { p with live := p.live - 1 })
      (dialed : s'.dialed = s.dialed) (closes : s'.closes = s.closes)
      (conn : g.conn = none ∧ g'.conn = none)
      (claim : g.claim = some (idx, .stale) ∧ g'.claim = none)
  | full (idx : Nat) (p : EndpointPool) (pool : s.pools[idx]? = some p)
      (noRoom : cfg.poolSize ≤ p.idle.length)
      (pools : s'.pools = s.pools) (dialed : s'.dialed = s.dialed)
      (closes : s'.closes = s.closes) (conn : g'.conn = g.conn)
      (claim : g.claim = some (idx, .handOff) ∧ g'.claim = some (idx, .stale))

/-- Every step is one of the moves of the ledger; only `Close` drains, and it has set
`closed` before it does. -/
theorem step_ledger (moved : step cfg s g choice = some (s', g'))
    (shut : ∀ idx, g = .closing (.drain idx) → s.closed = true) : Ledger cfg s g s' g' := by
  cases step_move moved with
  | acquire | close | probe | refused | admitted | noneIdle | atLimit | below | outrun | register
  | connected | unconnected | woken | expired | release | discard | releasedLate | unwanted
  | closedBefore | shut | drained | drainedPool | cancel | probeAwaited | returned | dialsAwaited
  | session | tick | exit | next | swept | probed | probeUndialed | alive | dead
  | handOffLate => exact .quiet rfl rfl rfl rfl rfl
  | polled pool head | received pool head =>
    exact .take _ _ _ _ pool head rfl rfl rfl ⟨rfl, rfl⟩ rfl (.inl rfl)
  | drain pool head =>
    exact .take _ _ _ _ pool head rfl rfl rfl ⟨rfl, rfl⟩ rfl (.inr ⟨shut _ rfl, rfl⟩)
  | released _ _ pool room => exact .put _ _ _ pool room rfl rfl rfl rfl (.inl rfl) ⟨rfl, rfl⟩
  | sent pool room => exact .put _ _ _ pool room rfl rfl rfl rfl (.inr ⟨_, rfl⟩) ⟨rfl, rfl⟩
  | swapped pool => exact .reserve _ _ pool rfl rfl rfl rfl ⟨rfl, rfl⟩
  | dialed => exact .dial rfl rfl rfl rfl rfl (.inr ⟨_, rfl, rfl⟩)
  | probeDialed => exact .dial rfl rfl rfl rfl rfl (.inl ⟨rfl, rfl⟩)
  | tooLate _ closed => exact .abort _ rfl rfl rfl ⟨rfl, rfl⟩ ⟨rfl, rfl⟩ (.inr closed)
  | undialed => exact .abort _ rfl rfl rfl ⟨rfl, rfl⟩ ⟨rfl, rfl⟩ (.inl rfl)
  | closed => exact .forfeit _ _ rfl rfl rfl rfl ⟨rfl, rfl⟩
  | drainClosed | rejected | fullClosed => exact .drop _ rfl rfl rfl ⟨rfl, rfl⟩ rfl
  | handOff _ _ pool => exact .count _ _ pool rfl rfl rfl rfl ⟨rfl, rfl⟩
  | undone pool | uncounted pool | drainCounted pool | fullUncounted pool =>
    exact .uncount _ _ pool rfl rfl rfl ⟨rfl, rfl⟩ ⟨rfl, rfl⟩
  | unsent pool noRoom => exact .full _ _ pool noRoom rfl rfl rfl rfl ⟨rfl, rfl⟩

/-! ## Accounting -/

/-- A goroutine's own share of the `live` count of pool `idx`. -/
def share (idx : Nat) (g : Goroutine) : Nat := if g.claim.map Prod.fst = some idx then 1 else 0

/-- One if the goroutine owns connection `cn`. -/
def owns (cn : Nat) (g : Goroutine) : Nat := if g.conn = some cn then 1 else 0

/-- `live` counts the idle connections and the goroutines that account for a
unit: it is exact at every moment, not only between calls. -/
def Accounts (w : World Shared Goroutine) : Prop :=
  ∀ idx p, w.shared.pools[idx]? = some p →
    p.live = (p.idle.length : Int) + tally (share idx) w.threads

/-- How often connection `cn` occurs: in the idle queues, in the hands of
goroutines and among the connections closed. -/
def places (cn : Nat) (w : World Shared Goroutine) : Nat :=
  tally (fun p => p.idle.count cn) w.shared.pools + tally (owns cn) w.threads +
    w.shared.closes.count cn

/-- Every connection `newConn` has returned is in exactly one place, and no
other connection is anywhere. -/
def Conserved (w : World Shared Goroutine) : Prop :=
  ∀ cn, places cn w = if cn < w.shared.dialed then 1 else 0

private theorem share_none (h : g.claim = none) : share idx g = 0 := by simp [share, h]

private theorem share_some (h : g.claim = some (own, kind)) :
    share idx g = if own = idx then 1 else 0 := by simp [share, h]

private theorem share_congr (h : g'.claim = g.claim) : share idx g' = share idx g := by
  rw [share, share, h]

private theorem owns_none (h : g.conn = none) : owns cn g = 0 := by simp [owns, h]

private theorem owns_some (h : g.conn = some own) : owns cn g = if own = cn then 1 else 0 := by
  simp [owns, h]

private theorem owns_congr (h : g'.conn = g.conn) : owns cn g' = owns cn g := by
  rw [owns, owns, h]

/-- After one pool is replaced, a pool is that replacement or was there before. -/
theorem pool_after_set {pools : List EndpointPool} {idx own : Nat}
    (found : (pools.set own new)[idx]? = some p) :
    (own = idx ∧ p = new) ∨ (own ≠ idx ∧ pools[idx]? = some p) := by
  by_cases same : own = idx
  · subst same
    rw [List.getElem?_set_self' ] at found
    cases there : pools[own]? <;> simp_all
  · rw [List.getElem?_set_ne same] at found
    exact .inr ⟨same, found⟩

/-- The part of `live` that is not in the idle queue. -/
private def EndpointPool.excess (p : EndpointPool) : Int := p.live - p.idle.length

/-- What a pool's `live` count exceeds its idle queue by changes exactly as the
goroutine's own share does. -/
private theorem balance {p' : EndpointPool} (ledger : Ledger cfg s g s' g')
    (found : s'.pools[idx]? = some p') : ∃ p, s.pools[idx]? = some p ∧
      p'.excess + share idx g = p.excess + share idx g' := by
  have unset (pools : s'.pools = s.pools) (equal : share idx g = share idx g') :
      ∃ p, s.pools[idx]? = some p ∧ p'.excess + share idx g = p.excess + share idx g' :=
    ⟨p', pools ▸ found, by rw [equal]⟩
  cases ledger with
  | quiet pools dialed closes conn claim | drop cn pools dialed closes conn claim =>
    exact unset pools (share_congr claim).symm
  | take own p cn idle pool head pools dialed closes before conn claim =>
    have gained : share idx g' = if own = idx then 1 else 0 := by
      rcases claim with claim | ⟨-, claim⟩ <;> exact share_some claim
    rw [pools] at found
    rw [share_none before.2, gained]
    rcases pool_after_set found with ⟨rfl, rfl⟩ | ⟨other, found⟩
    · exact ⟨p, pool, by simp [EndpointPool.excess, head]; omega⟩
    · exact ⟨p', found, by simp [other]⟩
  | put own p cn pool room pools dialed closes conn claim after =>
    have lost : share idx g = if own = idx then 1 else 0 := by
      rcases claim with claim | ⟨sweep, rfl⟩
      · exact share_some claim
      · exact share_some rfl
    rw [pools] at found
    rw [share_none after.2, lost]
    rcases pool_after_set found with ⟨rfl, rfl⟩ | ⟨other, found⟩
    · exact ⟨p, pool, by simp [EndpointPool.excess]; omega⟩
    · exact ⟨p', found, by simp [other]⟩
  | reserve own p pool pools dialed closes before after =>
    rw [pools] at found
    rw [share_some after.2, share_none (g := g) (by rw [before]; rfl)]
    rcases pool_after_set found with ⟨rfl, rfl⟩ | ⟨other, found⟩
    · exact ⟨p, pool, by simp [EndpointPool.excess]; omega⟩
    · exact ⟨p', found, by simp [other]⟩
  | dial pools dialed closes before conn claim =>
    refine unset pools ?_
    rcases claim with ⟨old, new⟩ | ⟨own, old, new⟩
    · rw [share_none old, share_none new]
    · rw [share_some old, share_some new]
  | abort own pools dialed closes conn claim cause
  | full own p pool noRoom pools dialed closes conn claim =>
    exact unset pools (by rw [share_some claim.1, share_some claim.2])
  | forfeit own cn pools dialed closes before after =>
    exact unset pools (by rw [share_some after.2, before]; exact share_some rfl)
  | count own p pool pools dialed closes conn claim =>
    rw [pools] at found
    rw [share_none claim.1, share_some claim.2]
    rcases pool_after_set found with ⟨rfl, rfl⟩ | ⟨other, found⟩
    · exact ⟨p, pool, by simp [EndpointPool.excess]; omega⟩
    · exact ⟨p', found, by simp [other]⟩
  | uncount own p pool pools dialed closes conn claim =>
    rw [pools] at found
    rw [share_some claim.1, share_none claim.2]
    rcases pool_after_set found with ⟨rfl, rfl⟩ | ⟨other, found⟩
    · exact ⟨p, pool, by simp [EndpointPool.excess]; omega⟩
    · exact ⟨p', found, by simp [other]⟩

theorem accounts_step {w after : World Shared Goroutine} (accounts : Accounts w)
    (found : w.threads[i]? = some g) (set : after.threads = w.threads.set i g')
    (ledger : Ledger cfg w.shared g after.shared g') : Accounts after := by
  intro idx p' pool'
  obtain ⟨p, pool, change⟩ := balance ledger pool'
  have old := accounts idx p pool
  have moved := tally_moved (share idx) found set
  simp only [EndpointPool.excess] at change
  omega

theorem count_after_set {pools : List EndpointPool} (cn : Nat)
    (pool : pools[own]? = some p) (new : EndpointPool) :
    tally (fun p => p.idle.count cn) (pools.set own new) + p.idle.count cn =
      tally (fun p => p.idle.count cn) pools + new.idle.count cn :=
  tally_set _ pool new

/-- A step moves a connection from one place to another, or adds the one it has
just dialed. -/
private theorem relocation (ledger : Ledger cfg s g s' g') (cn : Nat) :
    tally (fun p => p.idle.count cn) s'.pools + s'.closes.count cn + owns cn g' +
        (if cn < s.dialed then 1 else 0) =
      tally (fun p => p.idle.count cn) s.pools + s.closes.count cn + owns cn g +
        (if cn < s'.dialed then 1 else 0) := by
  cases ledger with
  | quiet pools dialed closes conn claim => rw [pools, dialed, closes, owns_congr conn]
  | take own p moved idle pool head pools dialed closes before conn claim =>
    have change := count_after_set cn pool { p with idle := idle }
    simp only [head, List.count_cons, beq_iff_eq] at change
    rw [pools, dialed, closes, owns_none before.1, owns_some conn]
    omega
  | put own p moved pool room pools dialed closes conn claim after =>
    have change := count_after_set cn pool { p with idle := p.idle ++ [moved] }
    simp only [List.count_append, List.count_cons, List.count_nil, beq_iff_eq] at change
    rw [pools, dialed, closes, owns_none after.1, owns_some conn]
    omega
  | reserve own p pool pools dialed closes before after =>
    have change := count_after_set cn pool { p with live := p.live + 1 }
    rw [pools, dialed, closes, owns_none after.1, before, owns_none rfl]
    simp only at change
    omega
  | dial pools dialed closes before conn claim =>
    rw [pools, dialed, closes, owns_none before, owns_some conn]
    split <;> split <;> split <;> omega
  | abort own pools dialed closes conn claim cause =>
    rw [pools, dialed, closes, owns_none conn.1, owns_none conn.2]
  | forfeit own moved pools dialed closes before after =>
    have held : g.conn = some moved := by rw [before]; rfl
    rw [pools, dialed, closes, owns_some held, owns_none after.1, List.count_append]
    simp only [List.count_cons, List.count_nil, beq_iff_eq]
    omega
  | drop moved pools dialed closes conn claim =>
    rw [pools, dialed, closes, owns_some conn.1, owns_none conn.2, List.count_append]
    simp only [List.count_cons, List.count_nil, beq_iff_eq]
    omega
  | count own p pool pools dialed closes conn claim =>
    have change := count_after_set cn pool { p with live := p.live + 1 }
    rw [pools, dialed, closes, owns_congr conn]
    simp only at change
    omega
  | uncount own p pool pools dialed closes conn claim =>
    have change := count_after_set cn pool { p with live := p.live - 1 }
    rw [pools, dialed, closes, owns_none conn.1, owns_none conn.2]
    simp only at change
    omega
  | full own p pool noRoom pools dialed closes conn claim =>
    rw [pools, dialed, closes, owns_congr conn]

theorem conserved_step {w after : World Shared Goroutine} (conserved : Conserved w)
    (found : w.threads[i]? = some g) (set : after.threads = w.threads.set i g')
    (ledger : Ledger cfg w.shared g after.shared g') : Conserved after := by
  intro cn
  have old := conserved cn
  have change := relocation ledger cn
  have moved := tally_moved (owns cn) found set
  simp only [places] at old ⊢
  omega

end HmsClient.Pool
