import HmsClient.Interleaving

/-! The connection pools of one client, at the grain its goroutines can observe.
Every channel, atomic and wait-group operation of `acquire`, `release`,
`discardWith`, `Close`, `drainPool`, `recoveryProbe` and `probeCooling` is one
step of one goroutine. A section under `mu` that touches a single object other
goroutines reach without `mu` is one step that needs `mu` free; `Close` and the
probe's hand-off touch several, and hold `mu` between steps. -/
namespace HmsClient.Pool

open Interleaving

/-- What the pools read of `config`, after `clamp`. -/
structure Config where
  endpoints : Nat
  poolSize : Nat
  clamped : 1 ≤ poolSize

/-- `config.clamp` on the requested pool size. -/
def Config.clamp (endpoints : Nat) (requested : Int) : Config where
  endpoints := endpoints
  poolSize := if requested < 1 then 1 else requested.toNat
  clamped := by split <;> omega

/-- `endpointPool`: the queue behind the `idle` channel, and the `live` count.
A connection is the number of the `newConn` call that returned it. -/
structure EndpointPool where
  idle : List Nat
  live : Int
  deriving DecidableEq, Repr

/-- What the goroutines of one `Client` share. `closed` stands for the flag and
for `closeCh`, which `Close` sets together under `mu`. `dialed` counts the
`newConn` calls that succeeded and `closes` lists the connections closed, in
order; `closeReturned` records that some call of `Close` has returned. -/
structure Shared where
  pools : List EndpointPool
  locked : Bool
  closed : Bool
  inFlightDials : Nat
  probeCancelled : Bool
  probeDone : Bool
  dialed : Nat
  closes : List Nat
  sessionCloses : Nat
  closeReturned : Bool
  deriving DecidableEq, Repr

/-- The endpoints one call of `probeCooling` has yet to probe, and whether
`recoveryProbe` made the call. -/
structure Sweep where
  looping : Bool
  rest : List Nat
  deriving DecidableEq, Repr

/-- A position inside `acquire`, named after the operation to come. -/
inductive Acquire where
  | check
  | poll
  | load
  | swap (cur : Int)
  | recheck
  | dial
  | dialed (result : Option Nat)
  | undo
  | wait
  deriving DecidableEq, Repr

/-- A position inside `Close`; `drain`, `drainClose` and `drainCount` are the
loop of `drainPool`. -/
inductive Close where
  | lock
  | drain (idx : Nat)
  | drainClose (idx cn : Nat)
  | drainCount (idx : Nat)
  | cancel
  | awaitProbe (first : Bool)
  | awaitDials
  | session
  deriving DecidableEq, Repr

/-- A position inside `probeCooling`. -/
inductive Probe where
  | next
  | dial (idx : Nat)
  | status (idx cn : Nat)
  | reject (idx cn : Nat)
  | handOff (idx cn : Nat)
  | send (idx cn : Nat)
  | full (idx cn : Nat)
  | uncount (idx : Nat)
  deriving DecidableEq, Repr

/-- Where a goroutine stands: outside the client, in a call, holding a loan or
giving it back (`discarding` is about to close its connection, `discarded` to
lower `live`), or in the loop of `recoveryProbe`. -/
inductive Goroutine where
  | rest
  | acquiring (idx : Nat) (position : Acquire)
  | holding (idx cn : Nat)
  | releasing (idx cn : Nat)
  | discarding (idx cn : Nat)
  | discarded (idx : Nat)
  | closing (position : Close)
  | probeLoop
  | probing (sweep : Sweep) (position : Probe)
  | exited
  deriving DecidableEq, Repr

/-- What the scheduler, the network and the callers decide: the call a resting
goroutine makes (for `probe`, the answer of `Cooling`), how a dial or a status
call ends, what becomes of a loan, and which ready case a `select` takes. -/
inductive Choice where
  | acquire (idx : Nat)
  | close
  | probe (cooling : List Nat)
  | go
  | succeed
  | fail
  | release
  | discard
  | receive
  | wake
  | expire
  | exit
  deriving DecidableEq, Repr

namespace Shared

def setPool (s : Shared) (idx : Nat) (p : EndpointPool) : Shared :=
  { s with pools := s.pools.set idx p }

/-- `live.Add(delta)` on a pool read as `p`. -/
def addLive (s : Shared) (idx : Nat) (p : EndpointPool) (delta : Int) : Shared :=
  s.setPool idx { p with live := p.live + delta }

/-- A send into the idle channel of a pool read as `p`. -/
def send (s : Shared) (idx : Nat) (p : EndpointPool) (cn : Nat) : Shared :=
  s.setPool idx { p with idle := p.idle ++ [cn] }

/-- A receive that leaves `idle` in the channel of a pool read as `p`. -/
def receive (s : Shared) (idx : Nat) (p : EndpointPool) (idle : List Nat) : Shared :=
  s.setPool idx { p with idle := idle }

/-- `newConn` returned a connection, the one numbered `s.dialed`. -/
def dial (s : Shared) : Shared := { s with dialed := s.dialed + 1 }

/-- `cn.close()`. -/
def close (s : Shared) (cn : Nat) : Shared := { s with closes := s.closes ++ [cn] }

end Shared

/-- `acquire`. -/
def acquireStep (cfg : Config) (s : Shared) (idx : Nat) :
    Acquire → Choice → Option (Shared × Goroutine)
  | .check, .go =>
    if s.locked then none
    else if s.closed then some (s, .rest)
    else some (s, .acquiring idx .poll)
  | .poll, .go =>
    (s.pools[idx]?).bind fun p =>
      match p.idle with
      | [] => some (s, .acquiring idx .load)
      | cn :: idle => some (s.receive idx p idle, .holding idx cn)
  | .load, .go =>
    (s.pools[idx]?).bind fun p =>
      if p.live ≥ cfg.poolSize then some (s, .acquiring idx .wait)
      else some (s, .acquiring idx (.swap p.live))
  | .swap cur, .go =>
    (s.pools[idx]?).bind fun p =>
      if p.live = cur then some (s.addLive idx p 1, .acquiring idx .recheck)
      else some (s, .acquiring idx .load)
  | .recheck, .go =>
    if s.locked then none
    else if s.closed then some (s, .acquiring idx .undo)
    else some ({ s with inFlightDials := s.inFlightDials + 1 }, .acquiring idx .dial)
  | .dial, .succeed => some (s.dial, .acquiring idx (.dialed (some s.dialed)))
  | .dial, .fail => some (s, .acquiring idx (.dialed none))
  | .dialed (some cn), .go =>
    some ({ s with inFlightDials := s.inFlightDials - 1 }, .holding idx cn)
  | .dialed none, .go =>
    some ({ s with inFlightDials := s.inFlightDials - 1 }, .acquiring idx .undo)
  | .undo, .go => (s.pools[idx]?).bind fun p => some (s.addLive idx p (-1), .rest)
  | .wait, .receive =>
    (s.pools[idx]?).bind fun p =>
      match p.idle with
      | [] => none
      | cn :: idle => some (s.receive idx p idle, .holding idx cn)
  | .wait, .wake => if s.closed then some (s, .rest) else none
  | .wait, .expire => some (s, .rest)
  | _, _ => none

/-- `release` up to the point where it either has sent its connection or goes
on to close it as `discardWith` does. -/
def releaseStep (cfg : Config) (s : Shared) (idx cn : Nat) : Option (Shared × Goroutine) :=
  if s.locked then none
  else if s.closed then some (s, .discarding idx cn)
  else (s.pools[idx]?).bind fun p =>
    if p.idle.length < cfg.poolSize then some (s.send idx p cn, .rest)
    else some (s, .discarding idx cn)

/-- `Close`, with `drainPool` on each pool in turn. -/
def closeStep (s : Shared) : Close → Option (Shared × Goroutine)
  | .lock =>
    if s.locked then none
    else if s.closed then some (s, .closing (.awaitProbe false))
    else some ({ s with locked := true, closed := true }, .closing (.drain 0))
  | .drain idx =>
    match s.pools[idx]? with
    | none => some ({ s with locked := false }, .closing .cancel)
    | some p =>
      match p.idle with
      | [] => some (s, .closing (.drain (idx + 1)))
      | cn :: idle => some (s.receive idx p idle, .closing (.drainClose idx cn))
  | .drainClose idx cn => some (s.close cn, .closing (.drainCount idx))
  | .drainCount idx =>
    (s.pools[idx]?).bind fun p => some (s.addLive idx p (-1), .closing (.drain idx))
  | .cancel => some ({ s with probeCancelled := true }, .closing (.awaitProbe true))
  | .awaitProbe first =>
    if s.probeDone then
      if first then some (s, .closing .awaitDials)
      else some ({ s with closeReturned := true }, .rest)
    else none
  | .awaitDials => if s.inFlightDials = 0 then some (s, .closing .session) else none
  | .session =>
    some ({ s with sessionCloses := s.sessionCloses + 1, closeReturned := true }, .rest)

/-- `probeCooling`. -/
def probeStep (cfg : Config) (s : Shared) (sweep : Sweep) :
    Probe → Choice → Option (Shared × Goroutine)
  | .next, .go =>
    match sweep.rest with
    | idx :: rest => some (s, .probing { sweep with rest } (.dial idx))
    | [] => some (s, if sweep.looping then .probeLoop else .rest)
  | .dial idx, .succeed => some (s.dial, .probing sweep (.status idx s.dialed))
  | .dial _, .fail => some (s, .probing sweep .next)
  | .status idx cn, .succeed => some (s, .probing sweep (.handOff idx cn))
  | .status idx cn, .fail => some (s, .probing sweep (.reject idx cn))
  | .reject _ cn, .go => some (s.close cn, .probing sweep .next)
  | .handOff idx cn, .go =>
    if s.locked then none
    else if s.closed then some (s, .probing sweep (.reject idx cn))
    else (s.pools[idx]?).bind fun p =>
      some ({ s.addLive idx p 1 with locked := true }, .probing sweep (.send idx cn))
  | .send idx cn, .go =>
    (s.pools[idx]?).bind fun p =>
      if p.idle.length < cfg.poolSize then
        some ({ s.send idx p cn with locked := false }, .probing sweep .next)
      else some ({ s with locked := false }, .probing sweep (.full idx cn))
  | .full idx cn, .go => some (s.close cn, .probing sweep (.uncount idx))
  | .uncount idx, .go =>
    (s.pools[idx]?).bind fun p => some (s.addLive idx p (-1), .probing sweep .next)
  | _, _ => none

/-- One atomic operation of one goroutine. -/
def step (cfg : Config) (s : Shared) : Goroutine → Choice → Option (Shared × Goroutine)
  | .rest, .acquire idx =>
    if idx < s.pools.length then some (s, .acquiring idx .check) else none
  | .rest, .close => some (s, .closing .lock)
  | .rest, .probe cooling =>
    if ∀ idx ∈ cooling, idx < s.pools.length then some (s, .probing ⟨false, cooling⟩ .next)
    else none
  | .acquiring idx position, choice => acquireStep cfg s idx position choice
  | .holding idx cn, .release => some (s, .releasing idx cn)
  | .holding idx cn, .discard => some (s, .discarding idx cn)
  | .releasing idx cn, .go => releaseStep cfg s idx cn
  | .discarding idx cn, .go => some (s.close cn, .discarded idx)
  | .discarded idx, .go => (s.pools[idx]?).bind fun p => some (s.addLive idx p (-1), .rest)
  | .closing position, .go => closeStep s position
  | .probeLoop, .probe cooling =>
    if ∀ idx ∈ cooling, idx < s.pools.length then some (s, .probing ⟨true, cooling⟩ .next)
    else none
  | .probeLoop, .exit =>
    if s.probeCancelled then some ({ s with probeDone := true }, .exited) else none
  | .probing sweep position, choice => probeStep cfg s sweep position choice
  | _, _ => none

/-- The client as `New` returns it: its first connection handed to the pool of
endpoint `first`, every other pool empty, and the recovery probe started. -/
def start (cfg : Config) (first : Nat) : World Shared Goroutine where
  shared :=
    { pools := (List.replicate cfg.endpoints ⟨[], 0⟩).set first ⟨[0], 1⟩
      locked := false, closed := false, inFlightDials := 0
      probeCancelled := false, probeDone := false
      dialed := 1, closes := [], sessionCloses := 0, closeReturned := false }
  threads := [.probeLoop]

/-! ## What a goroutine holds -/

/-- In what form a goroutine accounts for one unit of a pool's `live` count: a
connection on loan, a dial under way, the probe's connection on its way into
the idle channel, or a unit it still has to give back. -/
inductive Claim where
  | loan
  | dial
  | handOff
  | stale
  deriving DecidableEq, Repr

namespace Goroutine

/-- The connection a goroutine owns. -/
def conn : Goroutine → Option Nat
  | .acquiring _ (.dialed result) => result
  | .holding _ cn | .releasing _ cn | .discarding _ cn | .closing (.drainClose _ cn) => some cn
  | .probing _ (.status _ cn) | .probing _ (.reject _ cn) | .probing _ (.handOff _ cn)
  | .probing _ (.send _ cn) | .probing _ (.full _ cn) => some cn
  | _ => none

/-- The unit of some pool's `live` count a goroutine accounts for. -/
def claim : Goroutine → Option (Nat × Claim)
  | .acquiring idx (.dialed (some _)) | .holding idx _ | .releasing idx _
  | .discarding idx _ => some (idx, .loan)
  | .acquiring idx .recheck | .acquiring idx .dial => some (idx, .dial)
  | .probing _ (.send idx _) => some (idx, .handOff)
  | .acquiring idx (.dialed none) | .acquiring idx .undo | .discarded idx
  | .closing (.drainClose idx _) | .closing (.drainCount idx)
  | .probing _ (.full idx _) | .probing _ (.uncount idx) => some (idx, .stale)
  | _ => none

end Goroutine

/-- One if the goroutine accounts for a unit of pool `idx` in the given form. -/
def holds (idx : Nat) (kind : Claim) (g : Goroutine) : Nat :=
  if g.claim = some (idx, kind) then 1 else 0

/-- One if the goroutine is blocked in the final `select` of `acquire` for a
connection of pool `idx`. -/
def waits (idx : Nat) (g : Goroutine) : Nat := if g = .acquiring idx .wait then 1 else 0

/-- How many goroutines account for a unit of pool `idx` in a given form. -/
def claims (idx : Nat) (kind : Claim) (w : World Shared Goroutine) : Nat :=
  tally (holds idx kind) w.threads

/-- How many connections of pool `idx` are idle. -/
def idleCount (idx : Nat) (s : Shared) : Nat := (s.pools[idx]?).elim 0 fun p => p.idle.length

/-- The `live` count of pool `idx`. -/
def liveCount (idx : Nat) (s : Shared) : Int := (s.pools[idx]?).elim 0 EndpointPool.live

/-- How many goroutines wait for a connection of pool `idx`. -/
def waiters (idx : Nat) (w : World Shared Goroutine) : Nat := tally (waits idx) w.threads

/-- The connections of pool `idx` that are idle or on loan, and the dials under
way for it inside `acquire`. -/
def pooled (idx : Nat) (w : World Shared Goroutine) : Nat :=
  idleCount idx w.shared + claims idx .loan w + claims idx .dial w

/-- The connections of pool `idx` a waiting goroutine may yet receive: the
pooled ones and those the probe is about to send. -/
def available (idx : Nat) (w : World Shared Goroutine) : Nat :=
  pooled idx w + claims idx .handOff w

end HmsClient.Pool
