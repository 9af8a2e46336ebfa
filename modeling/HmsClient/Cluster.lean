import Mathlib.Data.List.Sort
import HmsClient.RingScan

/-! The endpoint selector of `internal/ha/cluster.go`: a sticky active
endpoint, exponential backoff with full jitter, and recovery bookkeeping.
Every method runs under the cluster's mutex, so a history of calls is a list
of events, each with the clock reading its call obtained. Random draws are
arguments; `Admissible` says which of them `cryptoRandInt63n` can return. -/
namespace HmsClient

/-- `time.Second` in nanoseconds, the unit of every duration here. An instant
is a number of nanoseconds since the zero `time.Time`. -/
def second : Int := 1000000000

structure Cluster where
  order : List Nat
  posOf : List Nat
  pos : Nat
  coolUntil : List Int
  level : List Int
  deriving DecidableEq, Repr

namespace Cluster

def minBackoff : Int := second

def maxBackoff : Int := 30 * second

def swap (order : List Nat) (i j : Nat) : List Nat :=
  (order.set i (order.getD j 0)).set j (order.getD i 0)

/-- The Fisher-Yates loop of `New` from index `i` down to 1, drawing
`draw i` at index `i`. -/
def shuffle (draw : Nat → Nat) : Nat → List Nat → List Nat
  | 0, order => order
  | i + 1, order => shuffle draw i (swap order (i + 1) (draw (i + 1)))

/-- The loop of `New` that fills `posOf` from `order`. -/
def invert (order : List Nat) : List Nat :=
  order.zipIdx.foldl (fun posOf entry => posOf.set entry.1 entry.2)
    (List.replicate order.length 0)

def new (n : Nat) (random : Bool) (draw : Nat → Nat) : Cluster :=
  let order := if random then shuffle draw (n - 1) (List.range n) else List.range n
  { order := order
    posOf := invert order
    pos := 0
    coolUntil := List.replicate n 0
    level := List.replicate n 0 }

def coolingAt (c : Cluster) (idx : Nat) (now : Int) : Bool :=
  let u := c.coolUntil.getD idx 0
  u != 0 && decide (now < u)

/-- The endpoint at a position of the pick order is not cooling. -/
def available (c : Cluster) (now : Int) (p : Nat) : Bool :=
  !c.coolingAt (c.order.getD p 0) now

def pick (c : Cluster) (now : Int) : Cluster × Option Nat :=
  match RingScan.scan (c.available now) c.order.length c.pos 0 with
  | some p => ({ c with pos := p }, some (c.order.getD p 0))
  | none => (c, none)

/-- The ceiling `MarkFailed` draws its jitter under, from the level left by
the previous failure. -/
def ceiling (level : Int) : Int :=
  if level ≤ 0 then minBackoff
  else if maxBackoff < level * 2 then maxBackoff
  else level * 2

/-- `MarkFailed` up to its repositioning loop: the doubled ceiling and the
jittered cooldown. -/
def cool (c : Cluster) (now : Int) (jitter : Int) (idx : Nat) : Cluster :=
  { c with
    level := c.level.set idx (ceiling (c.level.getD idx 0))
    coolUntil := c.coolUntil.set idx (now + jitter) }

def markFailed (c : Cluster) (now : Int) (jitter : Int) (idx : Nat) : Cluster × Bool :=
  let transitioned := !c.coolingAt idx now
  let cooled := c.cool now jitter idx
  match RingScan.scan (cooled.available now) c.order.length (c.posOf.getD idx 0) 1 with
  | some p => ({ cooled with pos := p }, transitioned)
  | none => (cooled, transitioned)

def markHealthy (c : Cluster) (now : Int) (idx : Nat) : Cluster × Bool :=
  ({ c with coolUntil := c.coolUntil.set idx 0, level := c.level.set idx 0 },
    c.coolingAt idx now)

def cooling (c : Cluster) (now : Int) : List Nat :=
  ((List.range c.coolUntil.length).filter fun idx => c.coolingAt idx now).mergeSort

/-- One call of a history; the jitter is the draw of that `MarkFailed`. -/
inductive Op where
  | pick
  | markFailed (idx : Nat) (jitter : Int)
  | markHealthy (idx : Nat)
  | cooling
  deriving DecidableEq, Repr

structure Event where
  now : Int
  op : Op
  deriving DecidableEq, Repr

def step (c : Cluster) (event : Event) : Cluster :=
  match event.op with
  | .pick => (c.pick event.now).1
  | .markFailed idx jitter => (c.markFailed event.now jitter idx).1
  | .markHealthy idx => (c.markHealthy event.now idx).1
  | .cooling => c

def run (c : Cluster) (events : List Event) : Cluster := events.foldl step c

/-- An event the code can see: it names an endpoint of the cluster, and its
jitter lies in the range the generator draws from. -/
def Admissible (c : Cluster) (event : Event) : Prop :=
  match event.op with
  | .markFailed idx jitter =>
    idx < c.order.length ∧ 0 ≤ jitter ∧ jitter < ceiling (c.level.getD idx 0)
  | .markHealthy idx => idx < c.order.length
  | .pick => True
  | .cooling => True

instance (c : Cluster) (event : Event) : Decidable (Admissible c event) :=
  match event with
  | ⟨_, .markFailed idx jitter⟩ =>
    inferInstanceAs (Decidable (idx < c.order.length ∧ 0 ≤ jitter ∧
      jitter < ceiling (c.level.getD idx 0)))
  | ⟨_, .markHealthy idx⟩ => inferInstanceAs (Decidable (idx < c.order.length))
  | ⟨_, .pick⟩ => isTrue trivial
  | ⟨_, .cooling⟩ => isTrue trivial

/-- Every event of a history is admissible in the state it meets. -/
def Legal : Cluster → List Event → Prop
  | _, [] => True
  | c, event :: rest => Admissible c event ∧ Legal (c.step event) rest

end Cluster

end HmsClient
