import HmsClient.ServerShutdown

/-! `Stop` of the fake metastore never hangs. From wherever a run has got to, the server's
own goroutines can bring a call of `Stop` to its end, without a word from any client: who
holds the mutex gives it back, and a handler whose connection is closed runs out, be it
in the middle of a request. -/
namespace HmsClient.TestServer

open Interleaving

/-- A step that no client and no network has to make possible. -/
def Choice.own : Choice → Prop
  | .go | .start _ | .visit _ => True
  | _ => False

/-- What the scheduler may do by itself. -/
def Own : Action Choice → Prop
  | .spawn => True
  | .move _ choice => choice.own

/-- The server's goroutines can get there by themselves. -/
abbrev Gets (w w' : World Shared Goroutine) : Prop := Reaches step .rest Own w w'

section Gets
variable {w w' : World Shared Goroutine} {i j : Nat}

private theorem gets_sound (gets : Gets w w') (sound : Sound w) : Sound w' :=
  gets.preserves (fun _ _ _ sound moved => next_sound sound moved) sound

/-- The goroutine `j` takes one step and no other goroutine moves. -/
private theorem gets_move (choice : Choice) (own : choice.own) (found : w.threads[j]? = some g)
    (stepped : step w.shared g choice = some (s, g')) :
    Gets w ⟨s, w.threads.set j g'⟩ ∧ (w.threads.set j g')[j]? = some g' ∧
      ∀ i ≠ j, (w.threads.set j g')[i]? = w.threads[i]? := by
  refine ⟨reaches_move own found stepped, ?_, fun i other => ?_⟩
  · exact List.getElem?_set_self (List.getElem?_eq_some_iff.mp found).1
  · exact List.getElem?_set_ne (Ne.symm other)

/-! ## A handler runs out -/

/-- The goroutine `j` can come to the end of its handler, and no other goroutine moves. -/
private def Ends (w : World Shared Goroutine) (j : Nat) : Prop :=
  ∃ w', Gets w w' ∧ w'.shared.wg = w.shared.wg - 1 ∧ ∀ i ≠ j, w'.threads[i]? = w.threads[i]?

/-- One step of the handler, and the rest. -/
private theorem ends_step (found : w.threads[j]? = some (.handling c ahead position))
    (stepped : handleStep w.shared c ahead position .go = some (s, .handling c ahead' position'))
    (same : s.wg = w.shared.wg)
    (rest : ∀ v : World Shared Goroutine, v.shared = s →
      v.threads[j]? = some (.handling c ahead' position') → Ends v j) : Ends w j := by
  obtain ⟨gets, here, others⟩ := gets_move .go trivial found stepped
  obtain ⟨w', further, count, still⟩ := rest ⟨s, w.threads.set j _⟩ rfl here
  refine ⟨w', gets.trans further, count.trans (by rw [same]), fun i other => ?_⟩
  exact (still i other).trans (others i other)

section Handler
variable {c : Nat} {ahead : List Message} {m : Message}

private theorem ends_done (found : w.threads[j]? = some (.handling c ahead .done)) : Ends w j := by
  obtain ⟨gets, -, others⟩ := gets_move .go trivial found rfl
  exact ⟨_, gets, rfl, others⟩

/-- A handler that has only its deferred calls to make gets to its end. -/
private theorem ends_close (found : w.threads[j]? = some (.handling c ahead .close)) :
    Ends w j := by
  refine ends_step found rfl rfl fun v _ found => ?_
  refine ends_step found rfl rfl fun v _ found => ?_
  exact ends_done found

private theorem ends_drop (found : w.threads[j]? = some (.handling c ahead .drop)) : Ends w j :=
  ends_step found rfl rfl fun _ _ found => ends_close found

private theorem ends_recover (found : w.threads[j]? = some (.handling c ahead .recover)) :
    Ends w j :=
  ends_step found rfl rfl fun _ _ found => ends_close found

/-- A reply to a closed connection cannot be written. -/
private theorem ends_reply (closed : c ∈ w.shared.closed)
    (found : w.threads[j]? = some (.handling c ahead .reply)) : Ends w j := by
  have stepped : handleStep w.shared c ahead .reply .go =
      some (w.shared, .handling c ahead .close) := by
    simp [handleStep, closed]
  exact ends_step found stepped rfl fun _ _ found => ends_close found

/-- A handler that reads from this buffer comes to its end. -/
private def EndsReading (c : Nat) (ahead : List Message) : Prop :=
  ∀ (w : World Shared Goroutine) (j : Nat), c ∈ w.shared.closed →
    w.threads[j]? = some (.handling c ahead .read) → Ends w j

private theorem ends_cut (reading : EndsReading c ahead) (closed : c ∈ w.shared.closed)
    (found : w.threads[j]? = some (.handling c ahead (.dispatch (.cut known)))) : Ends w j := by
  have stepped : handleStep w.shared c ahead (.dispatch (.cut known)) .go =
      some (w.shared, .handling c ahead (if known then .close else .read)) := if_pos closed
  refine ends_step found stepped rfl fun v same found => ?_
  cases known with
  | true => exact ends_close found
  | false => exact reading v j (by rw [same]; exact closed) found

/-- What becomes of a message is settled by the message. -/
private theorem ends_dispatch (reading : EndsReading c ahead) (closed : c ∈ w.shared.closed)
    (found : w.threads[j]? = some (.handling c ahead (.dispatch m))) : Ends w j := by
  cases m with
  | known =>
    refine ends_step found rfl rfl fun v same found => ?_
    exact ends_reply (by rw [same]; exact closed) found
  | panics => exact ends_step found rfl rfl fun _ _ found => ends_recover found
  | unknown =>
    refine ends_step found rfl rfl fun v same found => ?_
    exact reading v j (by rw [same]; exact closed) found
  | garbled => exact ends_step found rfl rfl fun _ _ found => ends_close found
  | cut known => exact ends_cut reading closed found

private theorem ends_load (reading : EndsReading c ahead) (closed : c ∈ w.shared.closed)
    (found : w.threads[j]? = some (.handling c ahead (.load m))) : Ends w j := by
  by_cases spent : w.shared.failNext ≤ 0
  · refine ends_step found (if_pos spent) rfl fun v same found => ?_
    exact ends_dispatch reading (by rw [same]; exact closed) found
  · refine ends_step found (if_neg spent) rfl fun v same found => ?_
    refine ends_step found (if_pos (by rw [same])) rfl fun _ _ found => ends_drop found

/-- The buffer runs out: each message in it ends the handler or leaves fewer. -/
private theorem ends_read (c : Nat) (ahead : List Message) : EndsReading c ahead := by
  induction ahead with
  | nil =>
    intro w j closed found
    have stepped : handleStep w.shared c [] .read .go = some (w.shared, .handling c [] .close) :=
      if_pos closed
    exact ends_step found stepped rfl fun _ _ found => ends_close found
  | cons m rest ih =>
    intro w j closed found
    refine ends_step found rfl rfl fun v same found => ?_
    exact ends_load ih (by rw [same]; exact closed) found

/-- A handler whose connection is closed comes to its end from every position. -/
private theorem handler_ends (closed : c ∈ w.shared.closed)
    (found : w.threads[j]? = some (.handling c ahead position)) : Ends w j := by
  have reading := ends_read c ahead
  cases position with
  | read => exact reading w j closed found
  | load m => exact ends_load reading closed found
  | swap m cur =>
    by_cases unchanged : w.shared.failNext = cur
    · exact ends_step found (if_pos unchanged) rfl fun _ _ found => ends_drop found
    · refine ends_step found (if_neg unchanged) rfl fun v same found => ?_
      exact ends_load reading (by rw [same]; exact closed) found
  | drop => exact ends_drop found
  | dispatch m => exact ends_dispatch reading closed found
  | reply => exact ends_reply closed found
  | recover => exact ends_recover found
  | close => exact ends_close found
  | delete => exact ends_step found rfl rfl fun _ _ found => ends_done found
  | done => exact ends_done found

end Handler

/-! ## Stop comes to its end -/

/-- The goroutine `i`, which is in a call, can return from it. -/
private def Returns (w : World Shared Goroutine) (i : Nat) : Prop :=
  ∃ w', Gets w w' ∧ w'.threads[i]? = some .rest

private theorem returns_after (gets : Gets w w') (rest : Returns w' i) : Returns w i := by
  obtain ⟨v, further, here⟩ := rest
  exact ⟨v, gets.trans further, here⟩

/-- A goroutine other than `i` runs a handler, or one that has been started can. -/
private theorem handler_exists (sound : Sound w) (busy : w.shared.wg ≠ 0)
    (found : w.threads[i]? = some (.stopping .wait)) :
    ∃ w' j c ahead position, Gets w w' ∧ w'.shared.wg = w.shared.wg ∧ j ≠ i ∧
      w'.threads[i]? = some (.stopping .wait) ∧
      w'.threads[j]? = some (.handling c ahead position) := by
  cases pending : w.shared.started with
  | nil =>
    have group := sound.group
    rw [pending, List.length_nil] at group
    have some_handle : 0 < tally Goroutine.handles w.threads := by omega
    obtain ⟨g, inThreads, counts⟩ := exists_of_tally_pos some_handle
    obtain ⟨j, there⟩ := List.mem_iff_getElem?.mp inThreads
    cases g with
    | handling c ahead position =>
      refine ⟨w, j, c, ahead, position, reaches_refl, rfl, ?_, found, there⟩
      rintro rfl
      rw [found] at there
      cases there
    | _ => cases counts
  | cons c more =>
    have inside := (List.getElem?_eq_some_iff.mp found).1
    have spawned : Gets w { w with threads := w.threads ++ [.rest] } := by
      have may : Own .spawn := trivial
      exact reaches_next may rfl
    have last : (w.threads ++ [Goroutine.rest])[w.threads.length]? = some .rest := by simp
    have still : (w.threads ++ [Goroutine.rest])[i]? = some (.stopping .wait) := by
      rw [List.getElem?_append_left inside]
      exact found
    obtain ⟨gets, here, others⟩ := gets_move
      (w := { w with threads := w.threads ++ [.rest] }) (.start c) trivial last
      (if_pos (by rw [pending]; exact .head _))
    have other : i ≠ w.threads.length := Nat.ne_of_lt inside
    exact ⟨_, w.threads.length, c, [], .read, spawned.trans gets, rfl, other.symm,
      (others i other).trans still, here⟩

/-- `Stop` waits only for handlers that can come to their end. -/
private theorem returns_wait (n : Nat) (sound : Sound w) (count : w.shared.wg = n)
    (found : w.threads[i]? = some (.stopping .wait)) : Returns w i := by
  induction n generalizing w with
  | zero =>
    obtain ⟨gets, here, -⟩ := gets_move .go trivial found (if_pos count)
    exact ⟨_, gets, here⟩
  | succ n ih =>
    obtain ⟨v, j, c, ahead, position, gets, same, other, waiting, handler⟩ :=
      handler_exists sound (by omega) found
    have soundV := gets_sound gets sound
    have closed : c ∈ v.shared.closed := by
      have all : ∀ c ∈ v.shared.conns, c ∈ v.shared.closed :=
        soundV.relied _ (List.mem_of_getElem? waiting)
      have relies := soundV.relied _ (List.mem_of_getElem? handler)
      cases position with
      | delete | done => exact relies
      | _ => exact relies.elim (all c) id
    obtain ⟨w', further, fewer, still⟩ := handler_ends closed handler
    refine returns_after (gets.trans further) (ih (gets_sound further soundV) (by omega) ?_)
    rw [still i other.symm]
    exact waiting

private theorem fewer_unvisited {start visited : List Nat} (inStart : c ∈ start) (new : c ∉ visited) :
    (start.filter (· ∉ c :: visited)).length < (start.filter (· ∉ visited)).length := by
  have split : start.filter (· ∉ c :: visited) =
      (start.filter (· ∉ visited)).filter (· ≠ c) := by
    rw [List.filter_filter]
    apply List.filter_congr
    intro d _
    simp [List.mem_cons]
  rw [split, List.length_filter_lt_length_iff_exists]
  exact ⟨c, List.mem_filter.mpr ⟨inStart, by simpa using new⟩, by simp⟩

/-- The loop of `Range` visits what it has not visited. -/
private theorem returns_ranging (n : Nat) {start visited : List Nat} (sound : Sound w)
    (count : (start.filter (· ∉ visited)).length = n)
    (found : w.threads[i]? = some (.stopping (.ranging start visited))) : Returns w i := by
  induction n using Nat.strongRecOn generalizing w visited with
  | _ n ih =>
    by_cases all : ∀ c ∈ start, c ∈ w.shared.conns → c ∈ visited
    · obtain ⟨gets, here, -⟩ := gets_move .go trivial found (if_pos all)
      exact returns_after gets (returns_wait _ (gets_sound gets sound) rfl here)
    · push Not at all
      obtain ⟨c, inStart, -, new⟩ := all
      obtain ⟨gets, here, -⟩ := gets_move (.visit c) trivial found
        (if_pos ⟨new, .inl inStart⟩)
      have fewer := fewer_unvisited inStart new
      exact returns_after gets (ih _ (by omega) (gets_sound gets sound) rfl here)

private theorem returns_range (sound : Sound w)
    (found : w.threads[i]? = some (.stopping .range)) : Returns w i := by
  obtain ⟨gets, here, -⟩ := gets_move .go trivial found rfl
  exact returns_after gets (returns_ranging _ (gets_sound gets sound) rfl here)

private theorem returns_closeListener (sound : Sound w)
    (found : w.threads[i]? = some (.stopping .closeListener)) : Returns w i := by
  obtain ⟨gets, here, -⟩ := gets_move .go trivial found rfl
  exact returns_after gets (returns_range (gets_sound gets sound) here)

private theorem returns_unlock (sound : Sound w)
    (found : w.threads[i]? = some (.stopping .unlock)) : Returns w i := by
  obtain ⟨gets, here, -⟩ := gets_move .go trivial found rfl
  exact returns_after gets (returns_closeListener (gets_sound gets sound) here)

private theorem returns_leave (found : w.threads[i]? = some (.stopping .leave)) : Returns w i := by
  obtain ⟨gets, here, -⟩ := gets_move .go trivial found rfl
  exact ⟨_, gets, here⟩

private theorem returns_check (sound : Sound w)
    (found : w.threads[i]? = some (.stopping .check)) : Returns w i := by
  by_cases stopped : w.shared.stopped = true
  · obtain ⟨gets, here, -⟩ := gets_move .go trivial found (if_pos stopped)
    exact returns_after gets (returns_leave here)
  · obtain ⟨gets, here, -⟩ := gets_move .go trivial found (if_neg stopped)
    exact returns_after gets (returns_unlock (gets_sound gets sound) here)

/-- Who holds the mutex gives it back, and no other goroutine moves. -/
private def Frees (w : World Shared Goroutine) (j : Nat) : Prop :=
  ∃ w', Gets w w' ∧ w'.shared.locked = false ∧ ∀ i ≠ j, w'.threads[i]? = w.threads[i]?

private theorem frees_step (found : w.threads[j]? = some g)
    (stepped : step w.shared g .go = some (s, g'))
    (rest : ∀ v : World Shared Goroutine, v.shared = s → v.threads[j]? = some g' → Frees v j) :
    Frees w j := by
  obtain ⟨gets, here, others⟩ := gets_move .go trivial found stepped
  obtain ⟨w', further, free, still⟩ := rest ⟨s, w.threads.set j _⟩ rfl here
  exact ⟨w', gets.trans further, free, fun i other => (still i other).trans (others i other)⟩

/-- A goroutine whose next step unlocks frees the mutex. -/
private theorem frees_now (found : w.threads[j]? = some g)
    (stepped : step w.shared g .go = some ({ w.shared with locked := false }, g')) : Frees w j := by
  obtain ⟨gets, -, others⟩ := gets_move .go trivial found stepped
  exact ⟨_, gets, rfl, others⟩

private theorem holder_frees (holds : 0 < g.locks) (found : w.threads[j]? = some g) :
    Frees w j := by
  cases g with
  | serving position =>
    cases position with
    | check c =>
      refine frees_step found rfl fun v _ found => ?_
      split at found
      · exact frees_now found rfl
      · refine frees_step found rfl fun v _ found => ?_
        refine frees_step found rfl fun v _ found => ?_
        exact frees_now found rfl
    | store c =>
      refine frees_step found rfl fun v _ found => ?_
      refine frees_step found rfl fun v _ found => ?_
      exact frees_now found rfl
    | spawn c => exact frees_step found rfl fun v _ found => frees_now found rfl
    | unlock | reject _ => exact frees_now found rfl
    | _ => cases holds
  | stopping position =>
    cases position with
    | check =>
      by_cases stopped : w.shared.stopped = true
      · exact frees_step found (if_pos stopped) fun v _ found => frees_now found rfl
      · exact frees_step found (if_neg stopped) fun v _ found => frees_now found rfl
    | leave | unlock => exact frees_now found rfl
    | _ => cases holds
  | _ => cases holds

/-- The mutex is free, or its holder gives it back. -/
private theorem returns_lock (sound : Sound w)
    (found : w.threads[i]? = some (.stopping .lock)) : Returns w i := by
  have admitted : ∀ v : World Shared Goroutine, Sound v → v.shared.locked = false →
      v.threads[i]? = some (.stopping .lock) → Returns v i := by
    intro v sound free found
    obtain ⟨gets, here, -⟩ := gets_move .go trivial found
      (if_neg (by rw [free]; exact Bool.false_ne_true))
    exact returns_after gets (returns_check (gets_sound gets sound) here)
  cases locked : w.shared.locked with
  | false => exact admitted w sound locked found
  | true =>
    have mutex := sound.mutex
    rw [locked, Bool.toNat_true] at mutex
    have some_holder : 0 < tally Goroutine.locks w.threads := by omega
    obtain ⟨g, inThreads, holds⟩ := exists_of_tally_pos some_holder
    obtain ⟨j, there⟩ := List.mem_iff_getElem?.mp inThreads
    obtain ⟨v, gets, free, still⟩ := holder_frees holds there
    have other : i ≠ j := by
      rintro rfl
      rw [found] at there
      cases there
      cases holds
    exact returns_after gets (admitted v (gets_sound gets sound) free ((still i other).trans found))

end Gets

/-- From wherever a run has got to, a call of `Stop` can be brought to its end by steps of
the server's own goroutines alone. -/
theorem stop_can_always_return (n : Int) (actions : List (Action Choice))
    (w : World Shared Goroutine) (ran : runs (newServer n) actions = some w) (i : Nat)
    (position : Stop) (calling : w.threads[i]? = some (.stopping position)) :
    ∃ w', Gets w w' ∧ w'.threads[i]? = some .rest := by
  have sound := runs_sound n ran
  cases position with
  | lock => exact returns_lock sound calling
  | check => exact returns_check sound calling
  | leave => exact returns_leave calling
  | unlock => exact returns_unlock sound calling
  | closeListener => exact returns_closeListener sound calling
  | range => exact returns_range sound calling
  | ranging start visited => exact returns_ranging _ sound rfl calling
  | wait => exact returns_wait _ sound rfl calling

/-- A handler has read the header of a method it does not know, with a request behind it,
when `Stop` starts to wait. -/
def busyHandler : List (Action Choice) :=
  [.move 0 .connect, .move 0 .go, .move 0 .go, .move 0 .go, .move 0 .go, .move 0 .go,
    .spawn, .move 1 (.start 0), .move 1 (.receive .unknown [.known]), .move 1 .go,
    .spawn, .move 2 .stop, .move 2 .go, .move 2 .go, .move 2 .go, .move 2 .go, .move 2 .go,
    .move 2 (.visit 0), .move 2 .go]

theorem stop_returns_after_busy_handler :
    ∃ w, runs (newServer 0) busyHandler = some w ∧ w.shared.wg = 1 ∧
      ∃ w', Gets w w' ∧ w'.threads[2]? = some .rest :=
  ⟨_, rfl, rfl, stop_can_always_return 0 busyHandler _ rfl 2 .wait rfl⟩

end HmsClient.TestServer
