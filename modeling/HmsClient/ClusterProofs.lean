import Mathlib.Data.List.Perm.Basic
import Mathlib.Data.List.Nodup
import Mathlib.Data.List.GetD
import Mathlib.Tactic.Positivity
import HmsClient.Cluster

/-! What every history of cluster calls preserves: the pick order and its
inverse stay a permutation, each backoff level is a function of the failures
since the last recovery, and the methods report exactly the cooling state
they met. -/
namespace HmsClient.ClusterProofs
open Cluster

/-! ## The pick order and its inverse -/

private theorem swap_perm (order : List Nat) (first : i < order.length) (second : j < order.length) :
    (swap order i j).Perm order := by
  have perm := List.set_set_perm first second
  simpa only [swap, List.getD_eq_getElem _ _ first, List.getD_eq_getElem _ _ second] using perm

/-- The shuffle only rearranges, whatever indices the generator returns. -/
theorem shuffle_perm (draws : ∀ i, draw i ≤ i) (i : Nat) (order : List Nat)
    (bound : order = [] ∨ i < order.length) : (shuffle draw i order).Perm order := by
  induction i generalizing order with
  | zero => exact List.Perm.refl _
  | succ i ih =>
    rcases bound with rfl | bound
    · have empty : swap [] (i + 1) (draw (i + 1)) = [] := by simp [swap]
      rw [shuffle, empty]
      exact ih [] (Or.inl rfl)
    · have drawn := draws (i + 1)
      have swapped := swap_perm order bound (by omega : draw (i + 1) < order.length)
      exact (ih _ (Or.inr (by rw [swapped.length_eq]; omega))).trans swapped

private theorem foldl_set_length (entries : List (Nat × Nat)) (table : List Nat) :
    (entries.foldl (fun posOf entry => posOf.set entry.1 entry.2) table).length = table.length := by
  induction entries generalizing table with
  | nil => rfl
  | cons entry rest ih => rw [List.foldl_cons, ih, List.length_set]

private theorem foldl_set_untouched (entries : List (Nat × Nat)) (table : List Nat)
    (absent : idx ∉ entries.map Prod.fst) :
    (entries.foldl (fun posOf entry => posOf.set entry.1 entry.2) table).getD idx 0 =
      table.getD idx 0 := by
  induction entries generalizing table with
  | nil => rfl
  | cons entry rest ih =>
    simp only [List.map_cons, List.mem_cons, not_or] at absent
    rw [List.foldl_cons, ih _ absent.2]
    simp only [List.getD_eq_getElem?_getD, List.getElem?_set_ne (Ne.symm absent.1)]

private theorem foldl_set_written (entries : List (Nat × Nat)) (table : List Nat)
    (distinct : (entries.map Prod.fst).Nodup) (inside : ∀ entry ∈ entries, entry.1 < table.length)
    (member : (idx, position) ∈ entries) :
    (entries.foldl (fun posOf entry => posOf.set entry.1 entry.2) table).getD idx 0 = position := by
  induction entries generalizing table with
  | nil => simp at member
  | cons entry rest ih =>
    simp only [List.map_cons, List.nodup_cons] at distinct
    rw [List.foldl_cons]
    rcases List.mem_cons.mp member with rfl | member
    · rw [foldl_set_untouched _ _ distinct.1]
      have bound : idx < table.length := inside (idx, position) (by simp)
      simp only [List.getD_eq_getElem?_getD, List.getElem?_set_self bound, Option.getD_some]
    · exact ih _ distinct.2 (fun entry held => by
        rw [List.length_set]; exact inside entry (List.mem_cons_of_mem _ held)) member

/-- The order is a permutation of the endpoints, `posOf` its inverse, and every
table covers exactly the endpoints. -/
structure Represents (n : Nat) (c : Cluster) : Prop where
  order_perm : c.order.Perm (List.range n)
  posOf_length : c.posOf.length = n
  posOf_order : ∀ p < n, c.posOf.getD (c.order.getD p 0) 0 = p
  order_posOf : ∀ idx < n, c.posOf.getD idx 0 < n ∧ c.order.getD (c.posOf.getD idx 0) 0 = idx
  pos_lt : c.pos < n
  coolUntil_length : c.coolUntil.length = n
  level_length : c.level.length = n

theorem Represents.order_length (rep : Represents n c) : c.order.length = n := by
  rw [rep.order_perm.length_eq, List.length_range]

theorem Represents.order_lt (rep : Represents n c) (bound : p < n) : c.order.getD p 0 < n := by
  have inside : p < c.order.length := by rw [rep.order_length]; exact bound
  have member : c.order.getD p 0 ∈ c.order := by
    rw [List.getD_eq_getElem _ _ inside]; exact List.getElem_mem inside
  exact List.mem_range.mp (rep.order_perm.mem_iff.mp member)

/-- Filling `posOf` from any permutation inverts it. -/
theorem invert_inverts {order : List Nat} (perm : order.Perm (List.range n)) :
    (invert order).length = n ∧
      (∀ p < n, (invert order).getD (order.getD p 0) 0 = p) ∧
      ∀ idx < n, (invert order).getD idx 0 < n ∧ order.getD ((invert order).getD idx 0) 0 = idx := by
  have length : order.length = n := by rw [perm.length_eq, List.length_range]
  have distinct : (order.zipIdx.map Prod.fst).Nodup := by
    rw [List.zipIdx_map_fst]
    exact perm.nodup_iff.mpr List.nodup_range
  have inside : ∀ entry ∈ order.zipIdx, entry.1 < (List.replicate order.length 0).length := by
    intro entry member
    rw [List.length_replicate, length]
    exact List.mem_range.mp (perm.mem_iff.mp (List.fst_mem_of_mem_zipIdx member))
  have inverts : ∀ p < n, (invert order).getD (order.getD p 0) 0 = p := by
    intro p bound
    have within : p < order.length := by omega
    apply foldl_set_written _ _ distinct inside
    rw [List.getD_eq_getElem _ _ within]
    exact List.mk_mem_zipIdx_iff_getElem?.mpr (List.getElem?_eq_getElem within)
  refine ⟨by rw [invert, foldl_set_length, List.length_replicate, length], inverts, ?_⟩
  intro idx bound
  obtain ⟨p, within, rfl⟩ := List.getElem_of_mem (perm.mem_iff.mpr (List.mem_range.mpr bound))
  have found := inverts p (by omega)
  rw [List.getD_eq_getElem _ _ within] at found
  rw [found]
  exact ⟨by omega, List.getD_eq_getElem _ _ within⟩

theorem new_represents (positive : 0 < n) (draws : ∀ i, draw i ≤ i) :
    Represents n (new n random draw) := by
  have perm : (new n random draw).order.Perm (List.range n) := by
    unfold new
    cases random with
    | false => exact List.Perm.refl _
    | true => exact shuffle_perm draws _ _ (Or.inr (by rw [List.length_range]; omega))
  obtain ⟨length, posOf, order⟩ := invert_inverts perm
  exact ⟨perm, length, posOf, order, positive, List.length_replicate, List.length_replicate⟩

/-! ## What one call does -/

/-- A pick either advances to the first endpoint that is not cooling, or finds
every endpoint cooling and changes nothing. -/
theorem pick_cases (rep : Represents n c) (now : Int) :
    (∃ k < n, pick c now =
        ({ c with pos := (c.pos + k) % n }, some (c.order.getD ((c.pos + k) % n) 0)) ∧
      c.coolingAt (c.order.getD ((c.pos + k) % n) 0) now = false ∧
      ∀ j < k, c.coolingAt (c.order.getD ((c.pos + j) % n) 0) now = true) ∨
    (pick c now = (c, none) ∧ ∀ idx < n, c.coolingAt idx now = true) := by
  have positive : 0 < n := Nat.zero_lt_of_lt rep.pos_lt
  unfold pick
  rw [rep.order_length]
  cases found : RingScan.scan (c.available now) n c.pos 0 with
  | some p =>
    obtain ⟨k, _, bound, rfl, here, before⟩ := RingScan.scan_eq_some_iff.mp found
    refine Or.inl ⟨k, by omega, rfl, by simpa [available] using here, ?_⟩
    intro j less
    simpa [available] using before j (Nat.zero_le _) less
  | none =>
    refine Or.inr ⟨rfl, ?_⟩
    intro idx bound
    obtain ⟨inside, named⟩ := rep.order_posOf idx bound
    have cooling := (RingScan.scan_eq_none_iff positive).mp found _ inside
    simpa only [available, named, Bool.not_eq_false'] using cooling

/-- Recording a failure cools the endpoint and moves nothing but the cursor. -/
theorem markFailed_cases (rep : Represents n c) (now : Int) (jitter : Int) (idx : Nat) :
    ∃ p < n, (markFailed c now jitter idx).1 = { c.cool now jitter idx with pos := p } := by
  have positive : 0 < n := Nat.zero_lt_of_lt rep.pos_lt
  unfold markFailed
  rw [rep.order_length]
  dsimp only
  cases found : RingScan.scan ((c.cool now jitter idx).available now) n (c.posOf.getD idx 0) 1 with
  | some p => exact ⟨p, RingScan.scan_lt positive found, rfl⟩
  | none => exact ⟨c.pos, rep.pos_lt, rfl⟩

theorem step_represents (rep : Represents n c) (event : Event) : Represents n (c.step event) := by
  obtain ⟨now, op⟩ := event
  cases op with
  | pick =>
    have positive : 0 < n := Nat.zero_lt_of_lt rep.pos_lt
    rcases pick_cases rep now with ⟨k, _, moved, _, _⟩ | ⟨stayed, _⟩
    · simp only [step, moved]
      exact { rep with pos_lt := Nat.mod_lt _ positive }
    · simpa only [step, stayed] using rep
  | markFailed idx jitter =>
    obtain ⟨p, bound, moved⟩ := markFailed_cases rep now jitter idx
    simp only [step, moved]
    exact { rep with
      pos_lt := bound
      coolUntil_length := by simpa [cool] using rep.coolUntil_length
      level_length := by simpa [cool] using rep.level_length }
  | markHealthy idx =>
    exact { rep with
      coolUntil_length := by simpa [step, markHealthy] using rep.coolUntil_length
      level_length := by simpa [step, markHealthy] using rep.level_length }
  | cooling => exact rep

/-! ## Backoff as a function of the history -/

/-- Failures of an endpoint since its last recovery, one call later. -/
def countFailure (idx count : Nat) (event : Event) : Nat :=
  match event.op with
  | .markFailed failed _ => if failed = idx then count + 1 else count
  | .markHealthy healthy => if healthy = idx then 0 else count
  | _ => count

def failures (idx : Nat) (history : List Event) : Nat := history.foldl (countFailure idx) 0

/-- The clock reading of an endpoint's last failure, one call later. -/
def noteFailure (idx : Nat) (last : Option Int) (event : Event) : Option Int :=
  match event.op with
  | .markFailed failed _ => if failed = idx then some event.now else last
  | _ => last

def lastFailed (idx : Nat) (history : List Event) : Option Int :=
  history.foldl (noteFailure idx) none

@[simp] theorem failures_snoc (idx : Nat) (history : List Event) (event : Event) :
    failures idx (history ++ [event]) = countFailure idx (failures idx history) event := by
  simp [failures]

@[simp] theorem lastFailed_snoc (idx : Nat) (history : List Event) (event : Event) :
    lastFailed idx (history ++ [event]) = noteFailure idx (lastFailed idx history) event := by
  simp [lastFailed]

/-- The backoff ceiling after `count` failures without a recovery. -/
def backoff (count : Nat) : Int :=
  if count = 0 then 0 else min (2 ^ (count - 1) * second) (30 * second)

theorem ceiling_backoff (count : Nat) : ceiling (backoff count) = backoff (count + 1) := by
  unfold ceiling backoff maxBackoff minBackoff second
  cases count with
  | zero => decide
  | succ count =>
    have positive : (0 : Int) < 2 ^ count := by positivity
    rw [if_neg (by omega : count + 1 ≠ 0), if_neg (by omega : count + 1 + 1 ≠ 0)]
    simp only [Nat.add_sub_cancel, pow_succ]
    split
    · omega
    · split <;> omega

/-- The whole representation invariant of a cluster with its history. -/
structure Tracks (n : Nat) (history : List Event) (c : Cluster) : Prop where
  represents : Represents n c
  level_eq : ∀ idx < n, c.level.getD idx 0 = backoff (failures idx history)
  unfailed : ∀ idx < n, lastFailed idx history = none → c.coolUntil.getD idx 0 = 0
  cooldown : ∀ idx < n, ∀ failed, lastFailed idx history = some failed →
    c.coolUntil.getD idx 0 = 0 ∨ c.coolUntil.getD idx 0 ≤ failed + c.level.getD idx 0

private theorem getD_set (table : List Int) (value : Int) (bound : idx < table.length) :
    (table.set idx value).getD other 0 = if other = idx then value else table.getD other 0 := by
  simp only [List.getD_eq_getElem?_getD, List.getElem?_set]
  by_cases same : idx = other
  · subst same
    simp [bound]
  · simp [same, Ne.symm same]

theorem new_tracks (positive : 0 < n) (draws : ∀ i, draw i ≤ i) :
    Tracks n [] (new n random draw) := by
  have empty : ∀ idx < n, (List.replicate n (0 : Int)).getD idx 0 = 0 := by
    intro idx bound
    simp [List.getD_eq_getElem?_getD, bound]
  exact ⟨new_represents positive draws, empty, fun idx bound _ => empty idx bound,
    fun _ _ _ none => by simp [lastFailed] at none⟩

private theorem step_untouched (rep : Represents n c) (now : Int) :
    (c.step ⟨now, .pick⟩).level = c.level ∧ (c.step ⟨now, .pick⟩).coolUntil = c.coolUntil := by
  rcases pick_cases rep now with ⟨k, _, moved, _, _⟩ | ⟨stayed, _⟩
  · simp only [step, moved, and_self]
  · simp only [step, stayed, and_self]

private theorem step_cools (rep : Represents n c) (now jitter : Int) (idx : Nat) :
    (c.step ⟨now, .markFailed idx jitter⟩).level = (c.cool now jitter idx).level ∧
      (c.step ⟨now, .markFailed idx jitter⟩).coolUntil = (c.cool now jitter idx).coolUntil := by
  obtain ⟨p, _, moved⟩ := markFailed_cases rep now jitter idx
  simp only [step, moved, and_self]

private theorem failed_tracks (tracks : Tracks n history c)
    (admissible : Admissible c ⟨now, .markFailed failed jitter⟩) :
    Tracks n (history ++ [⟨now, .markFailed failed jitter⟩])
      (c.step ⟨now, .markFailed failed jitter⟩) := by
  have rep := tracks.represents
  obtain ⟨level, coolUntil⟩ := step_cools rep now jitter failed
  obtain ⟨inside, _, below⟩ := admissible
  rw [rep.order_length] at inside
  have levelBound : failed < c.level.length := by rw [rep.level_length]; exact inside
  have coolBound : failed < c.coolUntil.length := by rw [rep.coolUntil_length]; exact inside
  refine ⟨step_represents rep _, ?_, ?_, ?_⟩
  · intro idx bound
    simp only [level, cool, getD_set _ _ levelBound, failures_snoc, countFailure]
    by_cases same : idx = failed
    · subst same
      simp only [↓reduceIte, tracks.level_eq idx bound, ceiling_backoff]
    · simp only [same, Ne.symm same, ↓reduceIte, tracks.level_eq idx bound]
  · intro idx bound
    simp only [coolUntil, cool, getD_set _ _ coolBound, lastFailed_snoc, noteFailure]
    by_cases same : idx = failed
    · simp [same]
    · simpa only [same, Ne.symm same, ↓reduceIte] using tracks.unfailed idx bound
  · intro idx bound last
    simp only [level, coolUntil, cool, getD_set _ _ coolBound, getD_set _ _ levelBound,
      lastFailed_snoc, noteFailure]
    by_cases same : idx = failed
    · subst same
      simp only [↓reduceIte, Option.some.injEq]
      rintro rfl
      exact Or.inr (by omega)
    · simpa only [same, Ne.symm same, ↓reduceIte] using tracks.cooldown idx bound last

private theorem healthy_tracks (tracks : Tracks n history c)
    (admissible : Admissible c ⟨now, .markHealthy healthy⟩) :
    Tracks n (history ++ [⟨now, .markHealthy healthy⟩]) (c.step ⟨now, .markHealthy healthy⟩) := by
  have rep := tracks.represents
  have inside : healthy < n := by rw [← rep.order_length]; exact admissible
  have levelBound : healthy < c.level.length := by rw [rep.level_length]; exact inside
  have coolBound : healthy < c.coolUntil.length := by rw [rep.coolUntil_length]; exact inside
  refine ⟨step_represents rep _, ?_, ?_, ?_⟩
  · intro idx bound
    simp only [step, markHealthy, getD_set _ _ levelBound, failures_snoc, countFailure]
    by_cases same : idx = healthy
    · simp [same, backoff]
    · simp only [same, Ne.symm same, ↓reduceIte, tracks.level_eq idx bound]
  · intro idx bound last
    simp only [step, markHealthy, getD_set _ _ coolBound]
    split
    · rfl
    · exact tracks.unfailed idx bound (by simpa [noteFailure] using last)
  · intro idx bound last found
    simp only [step, markHealthy, getD_set _ _ coolBound, getD_set _ _ levelBound]
    by_cases same : idx = healthy
    · simp [same]
    · simpa only [same, ↓reduceIte] using
        tracks.cooldown idx bound last (by simpa [noteFailure] using found)

/-- One admissible call keeps the invariant, with the call added to the
history. -/
theorem step_tracks (tracks : Tracks n history c) (admissible : Admissible c event) :
    Tracks n (history ++ [event]) (c.step event) := by
  have rep := tracks.represents
  obtain ⟨now, op⟩ := event
  cases op with
  | pick =>
    obtain ⟨level, coolUntil⟩ := step_untouched rep now
    refine ⟨step_represents rep _, ?_, ?_, ?_⟩
    · simpa only [level, failures_snoc, countFailure] using tracks.level_eq
    · simpa only [coolUntil, lastFailed_snoc, noteFailure] using tracks.unfailed
    · simpa only [level, coolUntil, lastFailed_snoc, noteFailure] using tracks.cooldown
  | cooling =>
    refine ⟨rep, ?_, ?_, ?_⟩
    · simpa only [step, failures_snoc, countFailure] using tracks.level_eq
    · simpa only [step, lastFailed_snoc, noteFailure] using tracks.unfailed
    · simpa only [step, lastFailed_snoc, noteFailure] using tracks.cooldown
  | markFailed failed jitter => exact failed_tracks tracks admissible
  | markHealthy healthy => exact healthy_tracks tracks admissible

/-- Every legal history keeps the invariant. -/
theorem run_tracks (events : List Event) (tracks : Tracks n history c) (legal : Legal c events) :
    Tracks n (history ++ events) (c.run events) := by
  induction events generalizing c history with
  | nil => simpa [run] using tracks
  | cons event rest ih =>
    have next := ih (step_tracks tracks legal.1) legal.2
    simpa [run] using next

/-! ## What the methods report -/

private theorem cooling_eq_filter (c : Cluster) (now : Int) :
    c.cooling now = (List.range c.coolUntil.length).filter fun idx => c.coolingAt idx now := by
  apply List.mergeSort_of_pairwise
  have ascending : (List.range c.coolUntil.length).Pairwise (fun a b => a ≤ b) :=
    List.pairwise_lt_range.imp Nat.le_of_lt
  simpa using ascending.filter _

/-- Every state of a cluster with its history: the representation, the backoff
levels, the end of every cooldown, and what a call at any clock reading
answers. -/
structure Contract (n : Nat) (history : List Event) (c : Cluster) : Prop extends
    Represents n c where
  level_eq : ∀ idx < n, c.level.getD idx 0 =
    if failures idx history = 0 then 0
    else min (2 ^ (failures idx history - 1) * second) (30 * second)
  cooldown_ends : ∀ idx < n, ∀ now,
    (∀ failed, lastFailed idx history = some failed → failed + c.level.getD idx 0 ≤ now) →
      c.coolingAt idx now = false
  pick_first : ∀ now idx after, c.pick now = (after, some idx) →
    c.coolingAt idx now = false ∧ ∃ k < n, idx = c.order.getD ((c.pos + k) % n) 0 ∧
      after = { c with pos := (c.pos + k) % n } ∧
      ∀ j < k, c.coolingAt (c.order.getD ((c.pos + j) % n) 0) now = true
  pick_refuses : ∀ now, (c.pick now).2 = none ↔ ∀ idx < n, c.coolingAt idx now = true
  pick_refusal_stays : ∀ now, (c.pick now).2 = none → (c.pick now).1 = c
  cooling_lists : ∀ now idx, idx ∈ c.cooling now ↔ idx < n ∧ c.coolingAt idx now = true
  cooling_ascends : ∀ now, (c.cooling now).Pairwise (· < ·)
  failed_transition : ∀ now jitter idx,
    (c.markFailed now jitter idx).2 = true ↔ c.coolingAt idx now = false
  healthy_transition : ∀ now idx, (c.markHealthy now idx).2 = true ↔ c.coolingAt idx now = true

private theorem coolingAt_eq_false {c : Cluster}
    (ended : c.coolUntil.getD idx 0 = 0 ∨ c.coolUntil.getD idx 0 ≤ now) :
    c.coolingAt idx now = false := by
  simp only [coolingAt, Bool.and_eq_false_iff, bne_eq_false_iff_eq, decide_eq_false_iff_not]
  omega

private theorem Tracks.cooldown_ends (tracks : Tracks n history c) (bound : idx < n)
    (late : ∀ failed, lastFailed idx history = some failed → failed + c.level.getD idx 0 ≤ now) :
    c.coolingAt idx now = false := by
  apply coolingAt_eq_false
  cases last : lastFailed idx history with
  | none => exact Or.inl (tracks.unfailed idx bound last)
  | some failed =>
    have ends := tracks.cooldown idx bound failed last
    have after := late failed last
    omega

theorem Tracks.contract (tracks : Tracks n history c) : Contract n history c := by
  have rep := tracks.represents
  have positive : 0 < n := Nat.zero_lt_of_lt rep.pos_lt
  refine
    { rep with
      level_eq := tracks.level_eq
      cooldown_ends := fun idx bound now late => tracks.cooldown_ends bound late
      pick_first := ?_
      pick_refuses := ?_
      pick_refusal_stays := ?_
      cooling_lists := ?_
      cooling_ascends := ?_
      failed_transition := ?_
      healthy_transition := fun _ _ => Iff.rfl }
  · intro now idx after picked
    rcases pick_cases rep now with ⟨k, bound, moved, here, before⟩ | ⟨stayed, _⟩
    · rw [moved] at picked
      obtain ⟨rfl, named⟩ := Prod.mk.inj picked
      cases Option.some.inj named
      exact ⟨here, k, bound, rfl, rfl, before⟩
    · simp [stayed] at picked
  · intro now
    rcases pick_cases rep now with ⟨k, bound, moved, here, _⟩ | ⟨stayed, all⟩
    · have inside := rep.order_lt (Nat.mod_lt (c.pos + k) positive)
      simp only [moved, reduceCtorEq, false_iff]
      intro all
      rw [all _ inside] at here
      cases here
    · simpa [stayed] using all
  · intro now refused
    rcases pick_cases rep now with ⟨k, _, moved, _, _⟩ | ⟨stayed, _⟩
    · simp [moved] at refused
    · rw [stayed]
  · intro now idx
    simp [cooling_eq_filter, rep.coolUntil_length]
  · intro now
    rw [cooling_eq_filter]
    exact List.pairwise_lt_range.filter _
  · intro now jitter idx
    unfold markFailed
    dsimp only
    split <;> simp

/-- After any finite sequence of calls the cluster meets its contract, for any
number of endpoints, either pick order, any draws in range and any clock. -/
theorem every_history_meets_the_contract (n : Nat) (random : Bool) (draw : Nat → Nat)
    (history : List Event) (positive : 0 < n) (draws : ∀ i, draw i ≤ i)
    (legal : Legal (new n random draw) history) :
    Contract n history ((new n random draw).run history) :=
  (run_tracks history (new_tracks positive draws) legal).contract

/-- Three endpoints in a shuffled order, two failures of one and a recovery of
another. -/
theorem shuffled_history_meets_the_contract :
    Contract 3
      [⟨5, .markFailed 1 7⟩, ⟨6, .pick⟩, ⟨9, .markFailed 1 1999999999⟩, ⟨11, .markHealthy 0⟩]
      ((new 3 true fun i => i / 2).run
        [⟨5, .markFailed 1 7⟩, ⟨6, .pick⟩, ⟨9, .markFailed 1 1999999999⟩, ⟨11, .markHealthy 0⟩]) :=
  every_history_meets_the_contract 3 true (fun i => i / 2) _ (by decide)
    (fun i => Nat.div_le_self i 2)
    ⟨by decide, by decide, by decide, by decide, trivial⟩

end HmsClient.ClusterProofs
