import HmsClient.ClusterProofs

/-! The active endpoint is meant to move only when it fails itself. Recording
the failure of another endpoint repositions the shared cursor after that other
endpoint, so the active one survives exactly when everything strictly between
the two in pick order is cooling at that moment. -/
namespace HmsClient.StickyEndpoint
open Cluster ClusterProofs RingScan

/-- The clock readings of successive calls never decrease, starting at `now`. -/
def Clocked : Int → List Event → Prop
  | _, [] => True
  | now, event :: rest => now ≤ event.now ∧ Clocked event.now rest

instance : (now : Int) → (events : List Event) → Decidable (Clocked now events)
  | _, [] => isTrue trivial
  | now, event :: rest =>
    have := instDecidableClocked event.now rest
    inferInstanceAs (Decidable (now ≤ event.now ∧ Clocked event.now rest))

/-- The call records a failure of endpoint `idx`. -/
def Fails (idx : Nat) (event : Event) : Prop := ∃ jitter, event.op = .markFailed idx jitter

/-- The endpoints strictly between two endpoints in pick order, walking forward
from the first, are all cooling. -/
def CoolingBetween (c : Cluster) (now : Int) (source target : Nat) : Prop :=
  ∀ offset, 1 ≤ offset →
    offset < distance c.order.length (c.posOf.getD source 0) (c.posOf.getD target 0) →
      c.coolingAt (c.order.getD ((c.posOf.getD source 0 + offset) % c.order.length) 0) now = true

/-- A call that cannot take the cursor away from `active`: any call but a
failure of an endpoint with a usable endpoint between it and `active`. -/
def Undisturbing (c : Cluster) (active : Nat) (event : Event) : Prop :=
  match event.op with
  | .markFailed other _ => CoolingBetween c event.now other active
  | _ => True

/-- Every call of a sequence is undisturbing in the state it meets. -/
def AllUndisturbing : Cluster → Nat → List Event → Prop
  | _, _, [] => True
  | c, active, event :: rest =>
    Undisturbing c active event ∧ AllUndisturbing (c.step event) active rest

/-- The cursor is on `active`, which has no cooldown left from `now` on. -/
structure Active (n active : Nat) (now : Int) (c : Cluster) : Prop where
  represents : Represents n c
  inside : active < n
  pos_eq : c.pos = c.posOf.getD active 0
  usable : ∀ later, now ≤ later → c.coolingAt active later = false

private theorem coolingAt_later {c : Cluster} (ended : c.coolingAt idx now = false)
    (later : now ≤ time) :
    c.coolingAt idx time = false := by
  simp only [coolingAt, Bool.and_eq_false_iff, bne_eq_false_iff_eq,
    decide_eq_false_iff_not] at ended ⊢
  omega

theorem Active.later (holds : Active n active now c) (later : now ≤ time) : Active n active time c :=
  { holds with usable := fun last after => holds.usable last (by omega) }

/-- While the cursor is on a usable endpoint, picks return it and move nothing. -/
theorem Active.pick_eq (holds : Active n active now c) (later : now ≤ time) :
    c.pick time = (c, some active) := by
  have rep := holds.represents
  have named := (rep.order_posOf active holds.inside).2
  rw [← holds.pos_eq] at named
  have usable : c.available time c.pos = true := by
    simp only [available, named, holds.usable time later, Bool.not_false]
  unfold pick
  rw [rep.order_length, scan_stays rep.pos_lt usable]
  simp only [named]

/-- Returning an endpoint makes it active. -/
theorem picked_is_active (rep : Represents n c) (picked : c.pick now = (after, some idx)) :
    Active n idx now after := by
  have positive : 0 < n := Nat.zero_lt_of_lt rep.pos_lt
  rcases pick_cases rep now with ⟨k, _, moved, here, _⟩ | ⟨stayed, _⟩
  · rw [moved] at picked
    obtain ⟨rfl, named⟩ := Prod.mk.inj picked
    cases Option.some.inj named
    have turned := Nat.mod_lt (c.pos + k) positive
    exact
      { represents := { rep with pos_lt := turned }
        inside := rep.order_lt turned
        pos_eq := (rep.posOf_order _ turned).symm
        usable := fun later after => coolingAt_later here after }
  · simp [stayed] at picked

theorem cool_elsewhere (c : Cluster) (now jitter time : Int) (different : idx ≠ failed) :
    (c.cool now jitter failed).coolingAt idx time = c.coolingAt idx time := by
  simp only [coolingAt, cool, List.getD_eq_getElem?_getD,
    List.getElem?_set_ne (Ne.symm different)]

/-- Positions strictly between two endpoints do not hold the first of them. -/
private theorem between_ne (rep : Represents n c) (inside : source < n) (targetInside : target < n)
    (low : 1 ≤ offset)
    (high : offset < distance n (c.posOf.getD source 0) (c.posOf.getD target 0)) :
    c.order.getD ((c.posOf.getD source 0 + offset) % n) 0 ≠ source := by
  have positive : 0 < n := by omega
  have short := distance_lt (c.posOf.getD source 0) (c.posOf.getD target 0) positive
  intro same
  have position := rep.posOf_order _ (Nat.mod_lt (c.posOf.getD source 0 + offset) positive)
  have start := (rep.order_posOf source inside).1
  have here : (c.posOf.getD source 0 + offset) % n = (c.posOf.getD source 0 + 0) % n := by
    rw [Nat.add_zero, Nat.mod_eq_of_lt start, ← position, same]
  have zero := steps_unique 0 (Nat.zero_le offset) (by omega) (Nat.le_refl 0) (by omega) here
  omega

/-- The cursor stays on the active endpoint through another endpoint's failure
exactly when everything between them is cooling. -/
theorem failure_keeps_cursor_iff (holds : Active n active now c) (later : now ≤ time)
    (inside : failed < n) (different : active ≠ failed) (jitter : Int) :
    (c.markFailed time jitter failed).1.pos = c.posOf.getD active 0 ↔
      CoolingBetween c time failed active := by
  have rep := holds.represents
  have positive : 0 < n := by omega
  obtain ⟨targetInside, named⟩ := rep.order_posOf active holds.inside
  obtain ⟨startInside, startNamed⟩ := rep.order_posOf failed inside
  have apart : c.posOf.getD active 0 ≠ c.posOf.getD failed 0 := by
    intro same
    rw [same, startNamed] at named
    exact different named.symm
  have orderSame : (c.cool time jitter failed).order = c.order := rfl
  have usable : (c.cool time jitter failed).available time (c.posOf.getD active 0) = true := by
    simp only [available, orderSame, named, cool_elsewhere c time jitter time different,
      holds.usable time later, Bool.not_false]
  have finds := scan_finds_iff targetInside startInside apart usable
  have cursor : (c.markFailed time jitter failed).1.pos = c.posOf.getD active 0 ↔
      scan ((c.cool time jitter failed).available time) n (c.posOf.getD failed 0) 1 =
        some (c.posOf.getD active 0) := by
    unfold markFailed
    rw [rep.order_length]
    dsimp only
    cases found : scan ((c.cool time jitter failed).available time) n (c.posOf.getD failed 0) 1 with
    | some p => simp
    | none =>
      have refused := (scan_eq_none_iff positive).mp found _ targetInside
      rw [usable] at refused
      cases refused
  rw [cursor, finds, CoolingBetween, rep.order_length]
  refine forall_congr' fun offset => forall_congr' fun low => forall_congr' fun high => ?_
  simp only [available, orderSame, Bool.not_eq_false',
    cool_elsewhere c time jitter time (between_ne rep inside holds.inside low high)]

/-! ## One call, then a whole sequence -/

private theorem healthy_usable {c : Cluster} (usable : c.coolingAt active later = false) :
    (c.markHealthy time healthy).1.coolingAt active later = false := by
  simp only [coolingAt, markHealthy, List.getD_eq_getElem?_getD, List.getElem?_set] at usable ⊢
  by_cases same : healthy = active
  · simp only [same, ↓reduceIte]
    split <;> rfl
  · simpa only [same, ↓reduceIte] using usable

/-- An admissible call that does not fail the active endpoint leaves it active
exactly when it is undisturbing. -/
theorem step_active_iff (holds : Active n active now c) (admissible : Admissible c event)
    (later : now ≤ event.now) (spared : ¬ Fails active event) :
    Active n active event.now (c.step event) ↔ Undisturbing c active event := by
  obtain ⟨time, op⟩ := event
  have rep := holds.represents
  cases op with
  | pick =>
    simp only [step, holds.pick_eq later, Undisturbing, iff_true]
    exact holds.later later
  | cooling => simpa only [step, Undisturbing, iff_true] using holds.later later
  | markHealthy healthy =>
    simp only [Undisturbing, iff_true]
    exact
      { represents := step_represents rep _
        inside := holds.inside
        pos_eq := holds.pos_eq
        usable := fun last after => healthy_usable ((holds.later later).usable last after) }
  | markFailed failed jitter =>
    have inside : failed < n := by rw [← rep.order_length]; exact admissible.1
    have different : active ≠ failed := fun same => spared ⟨jitter, by rw [same]⟩
    have keeps := failure_keeps_cursor_iff holds later inside different jitter
    obtain ⟨p, _, moved⟩ := markFailed_cases rep time jitter failed
    have posOfSame : (c.step ⟨time, .markFailed failed jitter⟩).posOf = c.posOf := by
      simp only [step, moved, cool]
    constructor
    · intro after
      have cursor := after.pos_eq
      rw [posOfSame] at cursor
      exact keeps.mp cursor
    · intro undisturbed
      refine ⟨step_represents rep _, holds.inside, ?_, ?_⟩
      · rw [posOfSame]
        exact keeps.mpr undisturbed
      · intro last after
        have unaffected := cool_elsewhere c time jitter last different
        rw [(holds.later later).usable last after] at unaffected
        simpa only [step, moved, coolingAt] using unaffected

/-- After a failure is recorded while some endpoint is usable, the cursor is on
a usable endpoint, so a pick at that moment returns the endpoint under it. -/
private theorem pick_after_failure (holds : Active n active now c) (later : now ≤ time)
    (inside : failed < n) (different : active ≠ failed) (jitter : Int) :
    ((c.markFailed time jitter failed).1.pick time).2 =
      some (c.order.getD (c.markFailed time jitter failed).1.pos 0) := by
  have rep := holds.represents
  have positive : 0 < n := by omega
  obtain ⟨targetInside, named⟩ := rep.order_posOf active holds.inside
  have usable : (c.cool time jitter failed).available time (c.posOf.getD active 0) = true := by
    have orderSame : (c.cool time jitter failed).order = c.order := rfl
    simp only [available, orderSame, named, cool_elsewhere c time jitter time different,
      holds.usable time later, Bool.not_false]
  unfold markFailed
  rw [rep.order_length]
  dsimp only
  cases found : scan ((c.cool time jitter failed).available time) n (c.posOf.getD failed 0) 1 with
  | some p =>
    have bound : p < (c.cool time jitter failed).order.length := by
      simpa only [cool, rep.order_length] using scan_lt positive found
    have stays := scan_stays bound (scan_admits found)
    unfold pick
    dsimp only
    rw [show ({ c.cool time jitter failed with pos := p } : Cluster).available time =
      (c.cool time jitter failed).available time from rfl, stays]
    rfl
  | none =>
    have refused := (scan_eq_none_iff positive).mp found _ targetInside
    rw [usable] at refused
    cases refused

/-- A pick right after a call returns the active endpoint only if the call left
it active. -/
theorem active_of_pick (holds : Active n active now c) (admissible : Admissible c event)
    (later : now ≤ event.now) (spared : ¬ Fails active event)
    (picked : ((c.step event).pick event.now).2 = some active) :
    Active n active event.now (c.step event) := by
  obtain ⟨time, op⟩ := event
  have rep := holds.represents
  cases op with
  | markFailed failed jitter =>
    have inside : failed < n := by rw [← rep.order_length]; exact admissible.1
    have different : active ≠ failed := fun same => spared ⟨jitter, by rw [same]⟩
    obtain ⟨p, bound, moved⟩ := markFailed_cases rep time jitter failed
    have here := (pick_after_failure holds later inside different jitter).symm.trans picked
    have cursor : p = c.posOf.getD active 0 := by
      rw [moved] at here
      rw [← Option.some.inj here, rep.posOf_order p bound]
    apply (step_active_iff holds admissible later spared).mpr
    exact (failure_keeps_cursor_iff holds later inside different jitter).mp (by rw [moved]; exact cursor)
  | pick | cooling | markHealthy healthy =>
    exact (step_active_iff holds admissible later spared).mpr trivial

/-- Every pick made during a sequence of calls returns `active`. -/
def AlwaysPicks (active : Nat) (now : Int) (c : Cluster) (events : List Event) : Prop :=
  ∀ before after time, events = before ++ after → Clocked now (before ++ [⟨time, .pick⟩]) →
    ((c.run before).pick time).2 = some active

private theorem always_picks_cons (holds : Active n active now c) (later : now ≤ event.now) :
    AlwaysPicks active now c (event :: rest) ↔ AlwaysPicks active event.now (c.step event) rest := by
  constructor
  · intro always before after time split clock
    exact always (event :: before) after time (by rw [split]; rfl) ⟨later, clock⟩
  · intro always before after time split clock
    cases before with
    | nil => rw [run, List.foldl_nil, holds.pick_eq clock.1]
    | cons first before =>
      obtain ⟨rfl, rfl⟩ := List.cons.inj split
      exact always before after time rfl clock.2

/-- Over a sequence of calls that never fails the active endpoint, every pick
returns it exactly when every call is undisturbing. -/
theorem always_picks_iff (holds : Active n active now c) (legal : Legal c events)
    (clock : Clocked now events) (spared : ∀ event ∈ events, ¬ Fails active event) :
    AlwaysPicks active now c events ↔ AllUndisturbing c active events := by
  induction events generalizing c now with
  | nil =>
    simp only [AllUndisturbing, iff_true]
    intro before after time split clocked
    obtain ⟨rfl, rfl⟩ := List.append_eq_nil_iff.mp split.symm
    rw [run, List.foldl_nil, holds.pick_eq clocked.1]
  | cons event rest ih =>
    have spare := spared event (by simp)
    have spareRest := fun other member => spared other (List.mem_cons_of_mem event member)
    have stepIff := step_active_iff holds legal.1 clock.1 spare
    rw [always_picks_cons holds clock.1, AllUndisturbing]
    constructor
    · intro always
      have picked := always [] rest event.now rfl ⟨Int.le_refl _, trivial⟩
      have next := active_of_pick holds legal.1 clock.1 spare picked
      exact ⟨stepIff.mp next, (ih next legal.2 clock.2 spareRest).mp always⟩
    · rintro ⟨undisturbed, others⟩
      exact (ih (stepIff.mpr undisturbed) legal.2 clock.2 spareRest).mpr others

/-- Once a pick of any reachable cluster has returned an endpoint, later picks
keep returning it, until it fails itself, exactly when no other endpoint's
failure is recorded with a usable endpoint between that one and the active. -/
theorem active_endpoint_stays_iff (n : Nat) (random : Bool) (draw : Nat → Nat)
    (history events : List Event) (now : Int) (active : Nat) (c : Cluster)
    (positive : 0 < n) (draws : ∀ i, draw i ≤ i) (legal : Legal (new n random draw) history)
    (picked : ((new n random draw).run history).pick now = (c, some active))
    (later : Legal c events) (clock : Clocked now events)
    (spared : ∀ event ∈ events, ¬ Fails active event) :
    AlwaysPicks active now c events ↔ AllUndisturbing c active events :=
  always_picks_iff
    (picked_is_active (run_tracks history (new_tracks positive draws) legal).represents picked)
    later clock spared

/-- Endpoint 2's failure wraps around to the active endpoint 0. -/
theorem neighbour_failure_keeps_active_endpoint :
    AlwaysPicks 0 1 (new 3 false id) [⟨2, .markFailed 2 5⟩] := by
  refine (active_endpoint_stays_iff 3 false id [] [⟨2, .markFailed 2 5⟩] 1 0 (new 3 false id)
    (by decide) (fun i => Nat.le_refl i) trivial (by decide) ⟨by decide, trivial⟩ (by decide)
    ?_).mpr ⟨?_, trivial⟩
  · rintro event member ⟨jitter, fails⟩
    cases List.mem_singleton.mp member
    cases fails
  · intro offset low high
    have short : distance 3 2 0 = 1 := by decide
    change offset < distance 3 2 0 at high
    omega

/-- The active endpoint does not always stay until it fails: with three healthy
endpoints and endpoint 0 active, a recorded failure of endpoint 1 makes endpoint
2 active. -/
theorem other_failure_moves_active_endpoint :
    ¬ ∀ (n : Nat) (random : Bool) (draw : Nat → Nat) (history events : List Event) (now : Int)
      (active : Nat) (c : Cluster), 0 < n → (∀ i, draw i ≤ i) →
      Legal (new n random draw) history →
      ((new n random draw).run history).pick now = (c, some active) →
      Legal c events → Clocked now events → (∀ event ∈ events, ¬ Fails active event) →
      AlwaysPicks active now c events := by
  intro claim
  have stays := claim 3 false id [] [⟨2, .markFailed 1 5⟩] 1 0 (new 3 false id) (by decide)
    (fun i => Nat.le_refl i) trivial (by decide) ⟨by decide, trivial⟩ (by decide) ?_
  · have picked := stays [⟨2, .markFailed 1 5⟩] [] 3 rfl (by decide)
    have moved : (((new 3 false id).run [⟨2, .markFailed 1 5⟩]).pick 3).2 = some 2 := by decide
    rw [moved] at picked
    cases picked
  · rintro event member ⟨jitter, fails⟩
    cases List.mem_singleton.mp member
    cases fails

end HmsClient.StickyEndpoint
