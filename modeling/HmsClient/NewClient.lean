import HmsClient.StickyEndpoint
import HmsClient.DialErrors
import HmsClient.Pool

/-! How `New` finds its first connection, once the endpoints are parsed and the options
accepted. It walks the pick order by asking the cluster again after every failed dial, so
that each endpoint is tried once rests on where a failure leaves the cursor and on nothing
else: cooldowns may end at any time. The clock, the jitter and the dials answer as they
like. -/
namespace HmsClient.NewClient
open Cluster ClusterProofs StickyEndpoint

/-- What `New` does not decide: the clock's readings, in order, and for each attempt the
jitter of its failure and what `newConn` returns for an endpoint, nil for a connection. -/
structure Surroundings where
  clock : Nat → Int
  jitter : Nat → Int
  newConn : (attempt idx : Nat) → Option Err

/-- The variables of the loop, and the endpoints dialed so far. `answered` is the endpoint
of the connection in the pools, set together with `dialed`. -/
structure Dialing where
  cluster : Cluster
  pools : List Pool.EndpointPool
  lastErr : Option Err
  answered : Option Nat
  dials : List Nat

/-- `pools[idx].live.Add(1)` and `pools[idx].idle <- cn`, for the first connection. -/
def addFirst (pools : List Pool.EndpointPool) (idx : Nat) : List Pool.EndpointPool :=
  pools.modify idx fun p => { idle := p.idle ++ [0], live := p.live + 1 }

/-- The loop of `New` with `remaining` attempts to go. `Pick` and `MarkFailed` read the
clock once each. -/
def dialLoop (env : Surroundings) : (remaining attempt : Nat) → Dialing → Dialing
  | 0, _, d => d
  | remaining + 1, attempt, d =>
    match d.cluster.pick (env.clock (2 * attempt)) with
    | (cluster, none) => { d with cluster := cluster }
    | (cluster, some idx) =>
      match env.newConn attempt idx with
      | some err =>
        dialLoop env remaining (attempt + 1)
          { d with
            cluster := (cluster.markFailed (env.clock (2 * attempt + 1)) (env.jitter attempt) idx).1
            lastErr := some err
            dials := d.dials ++ [idx] }
      | none =>
        { d with
          cluster := cluster
          pools := addFirst d.pools idx
          answered := some idx
          dials := d.dials ++ [idx] }

def initial (cfg : Pool.Config) (random : Bool) (draw : Nat → Nat) : Dialing where
  cluster := .new cfg.endpoints random draw
  pools := List.replicate cfg.endpoints ⟨[], 0⟩
  lastErr := none
  answered := none
  dials := []

/-- What `New` returns, and the endpoints it dialed, in order. -/
structure Outcome where
  result : Except Err (Interleaving.World Pool.Shared Pool.Goroutine)
  dials : List Nat

/-- `New` from the making of the cluster on. A client starts with its probe running. -/
def newClient (cfg : Pool.Config) (random : Bool) (draw : Nat → Nat) (env : Surroundings) :
    Outcome :=
  let d := dialLoop env cfg.endpoints 0 (initial cfg random draw)
  match d.answered with
  | none => ⟨.error (wrapError "New" (join .errUnavailable d.lastErr)), d.dials⟩
  | some _ =>
    ⟨.ok
      { shared :=
          { pools := d.pools, locked := false, closed := false, inFlightDials := 0
            probeCancelled := false, probeDone := false, dialed := 1, closes := []
            sessionCloses := 0, closeReturned := false }
        threads := [.probeLoop] }, d.dials⟩

/-! ## The cursor -/

/-- The first `k` endpoints of the order have failed. The cursor is on the next one, and
from there on nothing has ever cooled. -/
structure Walking (n k : Nat) (c : Cluster) : Prop where
  represents : Represents n c
  cursor : k < n → c.pos = k
  fresh : ∀ p, k ≤ p → p < n → c.coolUntil.getD (c.order.getD p 0) 0 = 0

private theorem not_cooling {c : Cluster} (zero : c.coolUntil.getD idx 0 = 0) (now : Int) :
    c.coolingAt idx now = false := by
  rw [coolingAt, zero]
  rfl

private theorem Walking.pick_eq (walking : Walking n k c) (inside : k < n) (now : Int) :
    c.pick now = (c, some (c.order.getD k 0)) := by
  have rep := walking.represents
  have here := walking.cursor inside
  have usable : c.available now c.pos = true := by
    rw [available, here, not_cooling (walking.fresh k le_rfl inside)]
    rfl
  unfold pick
  rw [rep.order_length, RingScan.scan_stays rep.pos_lt usable]
  change (c, some (c.order.getD c.pos 0)) = (c, some (c.order.getD k 0))
  rw [here]

private theorem order_injective (rep : Represents n c) (first : p < n) (second : q < n)
    (same : c.order.getD p 0 = c.order.getD q 0) : p = q := by
  rw [← rep.posOf_order p first, same, rep.posOf_order q second]

private theorem Walking.markFailed_eq (walking : Walking n k c) (inside : k + 1 < n)
    (now jitter : Int) :
    (c.markFailed now jitter (c.order.getD k 0)).1 =
      { c.cool now jitter (c.order.getD k 0) with pos := k + 1 } := by
  have rep := walking.represents
  have other : c.order.getD (k + 1) 0 ≠ c.order.getD k 0 := fun same => by
    have := order_injective rep inside (by omega) same
    omega
  have usable : (c.cool now jitter (c.order.getD k 0)).available now (k + 1) = true := by
    have cooled := cool_elsewhere c now jitter now other
    rw [not_cooling (walking.fresh (k + 1) (by omega) inside)] at cooled
    rw [available, show (c.cool now jitter (c.order.getD k 0)).order = c.order from rfl, cooled]
    rfl
  have next : RingScan.scan ((c.cool now jitter (c.order.getD k 0)).available now) n k 1 =
      some (k + 1) :=
    RingScan.scan_eq_some_iff.mpr
      ⟨1, by omega, by omega, (Nat.mod_eq_of_lt inside).symm, usable, fun _ _ _ => by omega⟩
  unfold markFailed
  rw [rep.order_length, rep.posOf_order k (by omega)]
  dsimp only
  rw [next]

private theorem Walking.failed (walking : Walking n k c) (inside : k < n) (now jitter : Int) :
    Walking n (k + 1) (c.markFailed now jitter (c.order.getD k 0)).1 ∧
      (c.markFailed now jitter (c.order.getD k 0)).1.order = c.order := by
  have rep := walking.represents
  have after := step_represents rep ⟨now, .markFailed (c.order.getD k 0) jitter⟩
  obtain ⟨p, _, moved⟩ := markFailed_cases rep now jitter (c.order.getD k 0)
  refine ⟨⟨after, ?_, ?_⟩, by rw [moved]; rfl⟩
  · intro more
    rw [walking.markFailed_eq more]
  · intro q later bound
    have other : c.order.getD q 0 ≠ c.order.getD k 0 := fun same => by
      have := order_injective rep bound inside same
      omega
    rw [moved]
    change (c.coolUntil.set (c.order.getD k 0) (now + jitter)).getD (c.order.getD q 0) 0 = 0
    rw [List.getD_eq_getElem?_getD, List.getElem?_set_ne other.symm, ← List.getD_eq_getElem?_getD]
    exact walking.fresh q (by omega) bound

private theorem new_walking (positive : 0 < n) (draws : ∀ i, draw i ≤ i) :
    Walking n 0 (.new n random draw) := by
  refine ⟨new_represents positive draws, fun _ => rfl, fun p _ bound => ?_⟩
  change (List.replicate n (0 : Int)).getD _ 0 = 0
  simp [List.getD_eq_getElem?_getD]

/-! ## The walk -/

/-- What the loop has done when it ends: it dialed the first endpoints of the order, all of
which failed but the last one, if that one answered. -/
structure Walked (order : List Nat) (env : Surroundings) (pools : List Pool.EndpointPool)
    (d : Dialing) : Prop where
  dials : ∃ made ≤ order.length, d.dials = order.take made ∧
    match d.answered with
    | none => made = order.length ∧ ∀ j < made, env.newConn j (order.getD j 0) ≠ none
    | some idx => ∃ j, made = j + 1 ∧ idx = order.getD j 0 ∧ env.newConn j idx = none ∧
      (∀ i < j, env.newConn i (order.getD i 0) ≠ none) ∧ d.pools = addFirst pools idx

/-- The invariant of the loop: `k` attempts were made, and all of them failed. -/
private theorem dialLoop_walks (env : Surroundings) {d : Dialing}
    (walking : Walking n k d.cluster) (order : d.cluster.order = l) (counted : remaining + k = n)
    (made : d.dials = l.take k) (unanswered : d.answered = none) (pools : d.pools = empty)
    (failed : ∀ j < k, env.newConn j (l.getD j 0) ≠ none) :
    Walked l env empty (dialLoop env remaining k d) := by
  have length : l.length = n := by rw [← order, walking.represents.order_length]
  induction remaining generalizing k d with
  | zero =>
    refine ⟨k, by omega, made, ?_⟩
    rw [show dialLoop env 0 k d = d from rfl, unanswered]
    exact ⟨by omega, failed⟩
  | succ remaining ih =>
    have inside : k < n := by omega
    have taken : l.take k ++ [l.getD k 0] = l.take (k + 1) := by
      rw [List.take_succ_eq_append_getElem (by omega), List.getD_eq_getElem _ _ (by omega)]
    rw [dialLoop, walking.pick_eq inside, order]
    dsimp only
    cases answer : env.newConn k (l.getD k 0) with
    | some err =>
      have next := walking.failed inside (env.clock (2 * k + 1)) (env.jitter k)
      rw [order] at next
      refine ih next.1 next.2 (by omega) (by rw [made]; exact taken) unanswered pools ?_
      intro j below
      rcases Nat.lt_succ_iff_lt_or_eq.mp below with earlier | rfl
      · exact failed j earlier
      · rw [answer]
        exact Option.some_ne_none err
    | none =>
      exact ⟨k + 1, by omega, by rw [← taken, ← made],
        k, rfl, rfl, answer, failed, by rw [← pools]⟩

private theorem newClient_walks (cfg : Pool.Config) (random : Bool) (env : Surroundings)
    (draws : ∀ i, draw i ≤ i) :
    Walked (Cluster.new cfg.endpoints random draw).order env
      (List.replicate cfg.endpoints ⟨[], 0⟩)
      (dialLoop env cfg.endpoints 0 (initial cfg random draw)) := by
  rcases Nat.eq_zero_or_pos cfg.endpoints with none | positive
  · rw [initial, none]
    cases random with
    | false => exact ⟨0, le_rfl, rfl, rfl, nofun⟩
    | true => exact ⟨0, le_rfl, rfl, rfl, nofun⟩
  · exact dialLoop_walks env (new_walking positive draws) rfl (Nat.add_zero _) rfl rfl rfl nofun

private theorem new_order_perm (n : Nat) (random : Bool) (draws : ∀ i, draw i ≤ i) :
    (Cluster.new n random draw).order.Perm (List.range n) := by
  rcases Nat.eq_zero_or_pos n with rfl | positive
  · cases random with
    | false => exact List.Perm.refl _
    | true => exact List.Perm.refl _
  · exact (new_represents positive draws).order_perm

/-- The connection of an endpoint is the one the client's pools start with. -/
private theorem addFirst_eq_start (cfg : Pool.Config) (inside : idx < cfg.endpoints) :
    addFirst (List.replicate cfg.endpoints ⟨[], 0⟩) idx =
      (Pool.start cfg idx).shared.pools := by
  have found : idx < (List.replicate cfg.endpoints (⟨[], 0⟩ : Pool.EndpointPool)).length := by
    rwa [List.length_replicate]
  rw [addFirst, List.modify_eq_set_getElem?, List.getElem?_eq_getElem found,
    List.getElem_replicate]
  rfl

/-- `New` dials the endpoints in pick order, each once at most, up to the first one that
answers. It fails only if all of them were dialed and failed, and then with an error that
is `ErrUnavailable`; otherwise the client starts with one connection, in the pool of the
endpoint that answered. -/
theorem new_tries_every_endpoint (cfg : Pool.Config) (random : Bool) (draw : Nat → Nat)
    (env : Surroundings) (draws : ∀ i, draw i ≤ i) :
    let order := (Cluster.new cfg.endpoints random draw).order
    let outcome := newClient cfg random draw env
    order.Perm (List.range cfg.endpoints) ∧ outcome.dials.Nodup ∧
    ∃ made ≤ cfg.endpoints, outcome.dials = order.take made ∧
      match outcome.result with
      | .error err => outcome.dials = order ∧
          (∀ j < cfg.endpoints, env.newConn j (order.getD j 0) ≠ none) ∧
          err.isSentinel .errUnavailable = true
      | .ok client => ∃ j idx, made = j + 1 ∧ idx = order.getD j 0 ∧ env.newConn j idx = none ∧
          (∀ i < j, env.newConn i (order.getD i 0) ≠ none) ∧ client = Pool.start cfg idx := by
  intro order outcome
  have perm : order.Perm (List.range cfg.endpoints) := new_order_perm _ random draws
  have length : order.length = cfg.endpoints := by rw [perm.length_eq, List.length_range]
  obtain ⟨made, within, dials, ending⟩ := (newClient_walks cfg random env draws).dials
  rw [show (Cluster.new cfg.endpoints random draw).order.length = cfg.endpoints from length] at within
  generalize ended : dialLoop env cfg.endpoints 0 (initial cfg random draw) = d at dials ending
  have distinct : (order.take made).Nodup :=
    (perm.nodup_iff.mpr List.nodup_range).sublist (List.take_sublist _ _)
  cases answer : d.answered with
  | none =>
    rw [answer] at ending
    obtain ⟨rfl, failed⟩ := ending
    have failing : outcome = ⟨.error (wrapError "New" (join .errUnavailable d.lastErr)), d.dials⟩ := by
      simp only [outcome, newClient, ended, answer]
    rw [failing]
    refine ⟨perm, by rw [dials]; exact distinct, order.length, within, dials, ?_, ?_, ?_⟩
    · rw [dials, List.take_length]
    · rwa [← length]
    · exact RetryLoop.joined_unavailable "New" d.lastErr
  | some idx =>
    rw [answer] at ending
    obtain ⟨j, rfl, named, answered, failed, pools⟩ := ending
    have inside : idx < cfg.endpoints := by
      have reached : j < order.length := by rw [length]; exact within
      have member : idx ∈ order := by
        rw [named, List.getD_eq_getElem _ _ reached]
        exact List.getElem_mem reached
      exact List.mem_range.mp (perm.mem_iff.mp member)
    rw [addFirst_eq_start cfg inside] at pools
    have started : outcome = ⟨.ok (Pool.start cfg idx), d.dials⟩ := by
      simp only [outcome, newClient, ended, answer, pools]
      rfl
    rw [started]
    exact ⟨perm, by rw [dials]; exact distinct, j + 1, by omega, dials, j, idx, rfl, named,
      answered, failed, rfl⟩

/-- Endpoints of which at most one answers. The cooldowns are short and the clock goes on, so
that one that failed is usable again when the next is picked. -/
def onlyUp (up : Option Nat) : Surroundings where
  clock reading := 10 * reading
  jitter attempt := attempt
  newConn _ idx := if up = some idx then none else some (.leaf .net)

/-- Five endpoints in the order 4, 0, 3, 1, 2. If only the last of them answers it gets the
connection, and if none does `New` has dialed each of them and is unavailable. -/
theorem last_endpoint_answers :
    ((newClient ⟨5, 2, by decide⟩ true (· / 2) (onlyUp (some 2))).dials = [4, 0, 3, 1, 2] ∧
      (newClient ⟨5, 2, by decide⟩ true (· / 2) (onlyUp (some 2))).result =
        .ok (Pool.start ⟨5, 2, by decide⟩ 2)) ∧
    (newClient ⟨5, 2, by decide⟩ true (· / 2) (onlyUp none)).dials = [4, 0, 3, 1, 2] ∧
      ∃ err, (newClient ⟨5, 2, by decide⟩ true (· / 2) (onlyUp none)).result = .error err ∧
        err.isSentinel .errUnavailable = true := by
  have draws : ∀ i, i / 2 ≤ i := fun i => Nat.div_le_self i 2
  constructor
  · refine ⟨by decide, ?_⟩
    obtain ⟨-, -, made, -, -, ending⟩ :=
      new_tries_every_endpoint ⟨5, 2, by decide⟩ true (· / 2) (onlyUp (some 2)) draws
    cases answer : (newClient ⟨5, 2, by decide⟩ true (· / 2) (onlyUp (some 2))).result with
    | error err =>
      rw [answer] at ending
      exact absurd rfl (ending.2.1 4 (by decide))
    | ok client =>
      rw [answer] at ending
      obtain ⟨j, idx, -, -, answered, -, rfl⟩ := ending
      by_cases last : 2 = idx
      · subst last
        rfl
      · exact absurd answered (by simp [onlyUp, last])
  · refine ⟨by decide, ?_⟩
    obtain ⟨-, -, made, -, -, ending⟩ :=
      new_tries_every_endpoint ⟨5, 2, by decide⟩ true (· / 2) (onlyUp none) draws
    cases answer : (newClient ⟨5, 2, by decide⟩ true (· / 2) (onlyUp none)).result with
    | error err =>
      rw [answer] at ending
      exact ⟨err, rfl, ending.2.2⟩
    | ok client =>
      rw [answer] at ending
      obtain ⟨j, idx, -, -, answered, -, -⟩ := ending
      cases answered

end HmsClient.NewClient
