import HmsClient.LegacyForms

/-! Operations that cut a list into slices and put one request for each. The slices cover
the list, and a run puts them in order up to the first failure the loop does not tolerate,
each of them once, apart from a request form that the server does not know. The loop of
the source runs over machine integers; its sums stay in range because a list that fits in
memory is far shorter than the largest `int`. -/
namespace HmsClient
open PeerScript

variable {κ α : Type}

/-- `config.clamp` on the sizes that were asked for. -/
def Config.clamp (catalog : Text) (toLower : Text → Text) (chunkSize partitionBatchSize : Int) :
    Config where
  catalog := catalog
  toLower := toLower
  chunkSize := if chunkSize < 1 then 1 else chunkSize.toNat
  partitionBatchSize := if partitionBatchSize < 1 then 1 else partitionBatchSize.toNat
  chunkSize_pos := by split <;> omega
  partitionBatchSize_pos := by split <;> omega

/-! ## Slices -/

theorem batches_cons (size fuel : Nat) (x : α) (xs : List α) :
    batches size (fuel + 1) (x :: xs) =
      (x :: xs).take size :: batches size fuel ((x :: xs).drop size) :=
  rfl

theorem batches_flatten (positive : 0 < size) (fuel : Nat) (xs : List α)
    (enough : xs.length ≤ fuel) : (batches size fuel xs).flatten = xs := by
  induction fuel generalizing xs with
  | zero =>
    rw [List.length_eq_zero_iff.mp (by omega : xs.length = 0)]
    rfl
  | succ fuel ih =>
    cases xs with
    | nil => rfl
    | cons x xs =>
      rw [List.length_cons] at enough
      rw [batches_cons, List.flatten_cons, ih _ (by rw [List.length_drop, List.length_cons]; omega),
        List.take_append_drop]

private theorem batches_sized (positive : 0 < size) (fuel : Nat) (xs : List α)
    (cut : slice ∈ batches size fuel xs) : 1 ≤ slice.length ∧ slice.length ≤ size := by
  induction fuel generalizing xs with
  | zero => cases cut
  | succ fuel ih =>
    cases xs with
    | nil => cases cut
    | cons x xs =>
      rw [batches_cons] at cut
      rcases List.mem_cons.mp cut with rfl | later
      · rw [List.length_take, List.length_cons]
        omega
      · exact ih _ later

private theorem ceil_step (positive : 0 < size) (n : Nat) :
    (n + 1 - size + size - 1) / size + 1 = (n + 1 + size - 1) / size := by
  rw [show n + 1 + size - 1 = n + size by omega, Nat.add_div_right _ positive]
  rcases Nat.lt_or_ge n size with less | more
  · rw [Nat.div_eq_of_lt (by omega), Nat.div_eq_of_lt less]
  · rw [show n + 1 - size + size - 1 = n by omega]

private theorem batches_count (positive : 0 < size) (fuel : Nat) (xs : List α)
    (enough : xs.length ≤ fuel) :
    (batches size fuel xs).length = (xs.length + size - 1) / size := by
  induction fuel generalizing xs with
  | zero =>
    rw [List.length_eq_zero_iff.mp (by omega : xs.length = 0)]
    exact (Nat.div_eq_of_lt (by simp; omega)).symm
  | succ fuel ih =>
    cases xs with
    | nil => exact (Nat.div_eq_of_lt (by simp; omega)).symm
    | cons x xs =>
      rw [List.length_cons] at enough
      rw [batches_cons, List.length_cons,
        ih _ (by rw [List.length_drop, List.length_cons]; omega), List.length_drop,
        List.length_cons]
      exact ceil_step positive xs.length

theorem batches_map {β : Type} (f : α → β) (size fuel : Nat) (xs : List α) :
    batches size fuel (xs.map f) = (batches size fuel xs).map (List.map f) := by
  induction fuel generalizing xs with
  | zero => rfl
  | succ fuel ih =>
    cases xs with
    | nil => rfl
    | cons x xs =>
      have whole : f x :: xs.map f = (x :: xs).map f := rfl
      rw [List.map_cons, batches_cons, batches_cons, whole, ← List.map_take, ← List.map_drop, ih]
      rfl

/-! ## The loop over machine integers -/

/-- The largest `int`. -/
def maxInt : Nat := 9223372036854775807

/-- `for i := 0; i < len(xs); i += size`, with sums that wrap: the bounds of the slices,
or nothing if the loop goes on after so many turns. -/
def sliceLoop (len size : Int64) : (turns : Nat) → (i : Int64) → Option (List (Int64 × Int64))
  | 0, _ => none
  | turns + 1, i =>
    if i < len then
      let stop := i + size
      let stop := if stop > len then len else stop
      (sliceLoop len size turns (i + size)).map ((i, stop) :: ·)
    else some []

/-- `xs[i:stop]`. -/
def cutSlice (xs : List α) (bounds : Int64 × Int64) : List α :=
  (xs.take bounds.2.toNatClampNeg).drop bounds.1.toNatClampNeg

/-- A list that a Go program can hold: an element takes eight bytes at least. -/
def FitsInMemory (xs : List α) : Prop := 8 * xs.length ≤ maxInt

private theorem ofNat_lt (first : a ≤ maxInt) (second : b ≤ maxInt) :
    Int64.ofNat a < Int64.ofNat b ↔ a < b :=
  Int64.ofNat_lt_iff_lt (by unfold maxInt at first; omega) (by unfold maxInt at second; omega)

private theorem toNat_ofNat (fits : a ≤ maxInt) : (Int64.ofNat a).toNatClampNeg = a :=
  Int64.toNatClampNeg_ofNat_of_lt (by unfold maxInt at fits; omega)

private theorem cutSlice_eq (xs : List α) (first : i ≤ maxInt) (second : stop ≤ maxInt) :
    cutSlice xs (.ofNat i, .ofNat stop) = (xs.drop i).take (stop - i) := by
  rw [cutSlice, toNat_ofNat first, toNat_ofNat second, List.drop_take]

/-- From any index the loop reaches it cuts the rest of the list into slices, and no sum it
computes leaves the range of an `int`. -/
private theorem sliceLoop_cuts (positive : 0 < size) (representable : size ≤ maxInt)
    (fits : FitsInMemory xs) (turns i : Nat) (reached : i = 0 ∨ size ≤ i) (inRange : i ≤ maxInt)
    (enough : xs.length - i ≤ turns) :
    ∃ bounds, sliceLoop (.ofNat xs.length) (.ofNat size) (turns + 1) (.ofNat i) = some bounds ∧
      bounds.map (cutSlice xs) = batches size turns (xs.drop i) ∧
      ∀ bound ∈ bounds, bound.1.toInt + size ≤ maxInt := by
  unfold FitsInMemory at fits
  induction turns generalizing i with
  | zero =>
    have past : ¬i < xs.length := by omega
    refine ⟨[], ?_, rfl, nofun⟩
    rw [sliceLoop, if_neg (by rwa [ofNat_lt inRange (by omega)])]
  | succ turns ih =>
    rw [sliceLoop]
    by_cases inside : i < xs.length
    · have sum : i + size ≤ maxInt := by omega
      obtain ⟨bounds, looped, cut, small⟩ := ih (i + size) (.inr (by omega)) sum (by omega)
      have stops : (if Int64.ofNat (i + size) > .ofNat xs.length then .ofNat xs.length
          else Int64.ofNat (i + size)) = .ofNat (min (i + size) xs.length) := by
        by_cases past : xs.length < i + size
        · rw [if_pos ((ofNat_lt (by omega) sum).mpr past), Nat.min_eq_right (by omega)]
        · rw [if_neg (by rwa [gt_iff_lt, ofNat_lt (by omega) sum]), Nat.min_eq_left (by omega)]
      rw [if_pos ((ofNat_lt inRange (by omega)).mpr inside), ← Int64.ofNat_add, looped]
      dsimp only
      rw [stops]
      refine ⟨_, rfl, ?_, ?_⟩
      · rw [List.map_cons, cut, cutSlice_eq xs inRange (by omega), batches, List.drop_drop]
        · congr 1
          rcases Nat.le_total (i + size) xs.length with short | long
          · rw [Nat.min_eq_left short, Nat.add_sub_cancel_left]
          · rw [Nat.min_eq_right long, List.take_of_length_le (by simp),
              List.take_of_length_le (by simp; omega)]
        · intro none
          have empty := congrArg List.length none
          rw [List.length_drop, List.length_nil] at empty
          omega
      · intro bound listed
        rcases List.mem_cons.mp listed with rfl | later
        · rw [Int64.toInt_ofNat_of_lt (by unfold maxInt at inRange; omega)]
          omega
        · exact small bound later
    · refine ⟨[], if_neg (by rwa [ofNat_lt inRange (by omega)]), ?_, nofun⟩
      rw [List.drop_eq_nil_of_le (by omega)]
      rfl

/-! ## What a run puts -/

/-- An element of a list, as a request carries it. -/
inductive Item where
  | name (name : Text)
  | partition (partition : Wire.Partition)

/-- The slice that a request carries. -/
def Call.slice : Call → Option (List Item)
  | .addPartitionsReq req => some (req.parts.items.map .partition)
  | .alterPartitionsReq req => some (req.partitions.items.map .partition)
  | .alterPartitions _ _ parts => some (parts.items.map .partition)
  | .dropPartitionsReq req => some (req.names.items.map .name)
  | .getTableObjectsByNameReq req => some (req.tblNames.items.map .name)
  | .getPartitionsByNamesReq req => some (req.names.items.map .name)
  | .getPartitionsByNames _ _ names => some (names.items.map .name)
  | _ => none

/-- A request form that the server does not know, which its legacy form then replaces. -/
def superseded (x : Exchange metastore) : Bool := x.op.requestForm.isSome && answeredUnknown x

def accepted (x : Exchange metastore) : Bool :=
  match x.answer with
  | .ok _ => true
  | .error _ => false

/-- The exchanges that decide about a slice. -/
def decisive (log : List (Exchange metastore)) : List (Exchange metastore) :=
  log.filter fun x => !superseded x

/-- The loop goes on after the exchange. -/
def Passes (tolerates : Err → Bool) (x : Exchange metastore) : Prop :=
  ∀ fault, x.answer = .error fault → tolerates fault.err = true

/-- The exchanges put these slices, in order and each of them once, up to the first error
that is not tolerated. -/
structure Delivers (tolerates : Err → Bool) (slices : List (List Item))
    (log : List (Exchange metastore)) (r : Except Err α) : Prop where
  inOrder : (decisive log).map (·.op.slice) = (slices.take (decisive log).length).map some
  complete : ∀ a, r = .ok a →
    (decisive log).length = slices.length ∧ ∀ x ∈ decisive log, Passes tolerates x
  stopped : ∀ err, r = .error err → (decisive log).length ≤ slices.length ∧
    ∃ done last fault, log = done ++ [last] ∧ superseded last = false ∧
      last.answer = .error fault ∧ fault.err = err ∧ tolerates err = false ∧
      ∀ x ∈ decisive done, Passes tolerates x

section Delivers
variable {tolerates : Err → Bool}

private theorem delivers_nil (a : α) : Delivers tolerates [] [] (.ok a : Except Err α) :=
  ⟨rfl, fun _ _ => ⟨rfl, by simp [decisive]⟩, nofun⟩

variable {r : Except Err α} {slices first : List (List Item)} {log : List (Exchange metastore)}
  {β : Type} {d : Closure κ α} {f : α → Closure κ β}

/-- One exchange that decides about its slice. -/
private theorem delivers_one (carries : x.op.slice = some slice) (decides : superseded x = false)
    (passes : ∀ a, r = .ok a → Passes tolerates x)
    (fails : ∀ err, r = .error err →
      ∃ fault, x.answer = .error fault ∧ fault.err = err ∧ tolerates err = false) :
    Delivers tolerates [slice] [x] r := by
  have single : decisive [x] = [x] := by simp [decisive, decides]
  refine ⟨by simp [single, carries], fun a ok => ?_, fun err failed => ?_⟩
  · rw [single]
    exact ⟨rfl, by simpa using passes a ok⟩
  · obtain ⟨fault, answered, same, hard⟩ := fails err failed
    exact ⟨by simp [single], [], x, fault, rfl, decides, answered, same, hard, by simp [decisive]⟩

/-- A request form that is superseded leaves the slice to the legacy form. -/
private theorem delivers_after_superseded (skipped : superseded x = true)
    (rest : Delivers tolerates slices log r) : Delivers tolerates slices (x :: log) r := by
  have same : decisive (x :: log) = decisive log := by simp [decisive, skipped]
  refine ⟨by rw [same]; exact rest.inOrder, by rw [same]; exact rest.complete, fun err failed => ?_⟩
  obtain ⟨bound, done, last, fault, rfl, decides, answered, equal, hard, passed⟩ :=
    rest.stopped err failed
  refine ⟨by rw [same]; exact bound, x :: done, last, fault, rfl, decides, answered, equal, hard, ?_⟩
  have shorter : decisive (x :: done) = decisive done := by simp [decisive, skipped]
  rw [shorter]
  exact passed

private theorem delivers_append (done : Delivers tolerates first log (.ok a : Except Err β))
    (next : Delivers tolerates rest more r) :
    Delivers tolerates (first ++ rest) (log ++ more) r := by
  obtain ⟨counted, passed⟩ := done.complete a rfl
  have whole : decisive (log ++ more) = decisive log ++ decisive more := List.filter_append ..
  have order := done.inOrder
  rw [counted, List.take_length] at order
  refine ⟨?_, fun b ok => ?_, fun err failed => ?_⟩
  · rw [whole, List.map_append, order, next.inOrder, List.length_append, counted,
      List.take_length_add_append, List.map_append]
  · obtain ⟨counted', passed'⟩ := next.complete b ok
    rw [whole, List.length_append, List.length_append, counted, counted']
    exact ⟨rfl, fun x inLog => (List.mem_append.mp inLog).elim (passed x) (passed' x)⟩
  · obtain ⟨bound, before, last, fault, rfl, decides, answered, same, hard, passed'⟩ :=
      next.stopped err failed
    refine ⟨?_, log ++ before, last, fault, by simp, decides, answered, same, hard, ?_⟩
    · rw [whole, List.length_append, List.length_append]
      omega
    · intro x inLog
      rw [decisive, List.filter_append] at inLog
      exact (List.mem_append.mp inLog).elim (passed x) (passed' x)

private theorem delivers_failed (failed : Delivers tolerates first log (.error err : Except Err β))
    (rest : List (List Item)) :
    Delivers tolerates (first ++ rest) log (.error err : Except Err α) := by
  obtain ⟨bound, stops⟩ := failed.stopped err rfl
  refine ⟨?_, nofun, fun err' same => ?_⟩
  · rw [List.take_append_of_le_length bound]
    exact failed.inOrder
  · cases same
    refine ⟨?_, stops⟩
    rw [List.length_append]
    omega

/-- Every run of the closure puts the slices. -/
def Puts (tolerates : Err → Bool) (slices : List (List Item)) (d : Closure κ α) : Prop :=
  ∀ s s' log r, Run (d s) log (r, s') → Delivers tolerates slices log r

private theorem puts_bind (starts : Puts tolerates first d)
    (goesOn : ∀ a, Puts tolerates rest (f a)) : Puts tolerates (first ++ rest) (d >>= f) := by
  intro s s' log r ran
  rcases Dialogue.run_then ran with ⟨e, failed, rfl⟩ | ⟨log₁, a, mid, log₂, ok, next, rfl⟩
  · exact delivers_failed (starts _ _ _ _ failed) rest
  · exact delivers_append (starts _ _ _ _ ok) (goesOn a _ _ _ _ next)

private theorem puts_silent (silent : ∀ s, ∃ a s', d s = .done (.ok a, s')) :
    Puts tolerates [] d := by
  intro s s' log r ran
  obtain ⟨a, s'', ended⟩ := silent s
  rw [ended] at ran
  obtain ⟨rfl, same⟩ := run_done ran
  cases same
  exact delivers_nil a

private theorem puts_then_silent (puts : Puts tolerates slices d)
    (silent : ∀ a s, ∃ b s', f a s = .done (.ok b, s')) : Puts tolerates slices (d >>= f) := by
  rw [← List.append_nil slices]
  exact puts_bind puts fun a => puts_silent (silent a)

private theorem puts_after_silent (silent : ∀ s, ∃ a s', d s = .done (.ok a, s'))
    (puts : ∀ a, Puts tolerates slices (f a)) : Puts tolerates slices (d >>= f) :=
  puts_bind (puts_silent silent) puts

private theorem puts_forM (puts : ∀ chunk, Puts tolerates [slice chunk] (each chunk))
    (chunks : List β) : Puts tolerates (chunks.map slice) (chunks.forM each) := by
  induction chunks with
  | nil => exact puts_silent fun s => ⟨(), s, rfl⟩
  | cons chunk chunks ih => exact puts_bind (puts chunk) fun _ => ih

private theorem puts_foldlM (puts : ∀ a chunk, Puts tolerates [slice chunk] (each a chunk))
    (chunks : List β) (a : α) : Puts tolerates (chunks.map slice) (chunks.foldlM each a) := by
  induction chunks generalizing a with
  | nil => exact puts_silent fun s => ⟨a, s, rfl⟩
  | cons chunk chunks ih => exact puts_bind (puts a chunk) ih

end Delivers

/-! ## The operations -/

variable {x : Exchange metastore} {r : Except Err α} {slice : List Item} {call : Call}
  {log : List (Exchange metastore)}

private theorem passes_of_ok (ends : Ends x r) (ok : r = .ok a) : Passes tolerates x := by
  intro fault failed
  cases ok.symm.trans (ends.fails fault failed)

private theorem fault_of_error (ends : Ends x r) (failed : r = .error err) :
    ∃ fault, x.answer = .error fault ∧ fault.err = err := by
  cases answered : x.answer with
  | ok reply =>
    obtain ⟨a, ok⟩ := ends.succeeds reply answered
    cases ok.symm.trans failed
  | error fault =>
    have same := failed.symm.trans (ends.fails fault answered)
    exact ⟨fault, rfl, (Except.error.inj same).symm⟩

/-- An exchange that a closure ends with, if nothing is tolerated. -/
private theorem delivers_end (carries : x.op.slice = some slice) (decides : superseded x = false)
    (ends : Ends x r) : Delivers (fun _ => false) [slice] [x] r := by
  refine delivers_one carries decides (fun a ok => passes_of_ok ends ok) fun err failed => ?_
  obtain ⟨fault, answered, same⟩ := fault_of_error ends failed
  exact ⟨fault, answered, same, rfl⟩

private theorem plain_decides (plain : call.requestForm = none) (answer : Except RpcErr call.Reply) :
    superseded ⟨call, answer⟩ = false := by
  simp [superseded, plain]

private theorem putsOne_puts (one : PutsOne call d) (carries : call.slice = some slice)
    (plain : call.requestForm = none) : Puts (fun _ => false) [slice] d := by
  intro s s' log r ran
  obtain ⟨-, answer, rfl, ends⟩ := one _ _ _ _ ran
  exact delivers_end carries (plain_decides plain answer) ends

private theorem tryReq_puts (first : PutsOne request req) (second : PutsOne old legacy)
    (carries : request.slice = some slice) (carriesOld : old.slice = some slice)
    (form : request.requestForm = some method) (plain : old.requestForm = none) :
    Puts (fun _ => false) [slice] (tryReq method req legacy) := by
  intro s s' log r ran
  cases tryReq_tried first second ran with
  | legacy _ _ ends => exact delivers_end carriesOld (plain_decides plain _) ends
  | request _ _ known ends => exact delivers_end carries (by simp [superseded, known]) ends
  | switch _ _ unknown ends =>
    refine delivers_after_superseded ?_ (delivers_end carriesOld (plain_decides plain _) ends)
    simp [superseded, form, answeredUnknown, unknown]

/-- What a drop tolerates. -/
def missing (ifExists : Bool) (err : Err) : Bool :=
  ifExists && decide (classify err = .errNotFound)

private theorem ifPresent_puts (one : PutsOne call drop) (carries : call.slice = some slice)
    (plain : call.requestForm = none) :
    Puts (missing ifExists) [slice] (ifPresent ifExists drop) := by
  intro s s' log r ran
  obtain ⟨log₁, outcome, mid, log₂, asked, rest, rfl⟩ := Dialogue.run_result ran
  obtain ⟨-, answer, rfl, ends⟩ := one _ _ _ _ asked
  cases outcome with
  | ok _ =>
    obtain ⟨rfl, same⟩ := run_done rest
    cases same
    exact delivers_one carries (plain_decides plain answer) (fun _ _ => passes_of_ok ends rfl) nofun
  | error err =>
    obtain ⟨fault, answered, rfl⟩ := fault_of_error ends rfl
    change Run ((if missing ifExists fault.err then _ else _ : Closure Unit Unit) _) _ _ at rest
    cases tolerated : missing ifExists fault.err with
    | true =>
      rw [if_pos tolerated] at rest
      obtain ⟨rfl, same⟩ := run_done rest
      cases same
      refine delivers_one carries (plain_decides plain answer) (fun _ _ fault' answered' => ?_) nofun
      cases answered.symm.trans answered'
      exact tolerated
    | false =>
      rw [if_neg (by simp [tolerated])] at rest
      obtain ⟨rfl, same⟩ := run_done rest
      cases same
      refine delivers_one carries (plain_decides plain answer) nofun fun err failed => ?_
      cases failed
      exact ⟨fault, answered, rfl, tolerated⟩

/-- The operations that cut a list into slices, with the size of a slice, the elements of
the list as requests carry them in a catalog, and the errors the loop goes on after. -/
structure Cut where
  opts : CatalogOptions
  size : Nat
  items : Option Text → List Item
  tolerates : Err → Bool

def Operation.cut (cfg : Config) : Operation → Option Cut
  | .addPartitions db tbl ps _ opts => some
      ⟨opts, cfg.partitionBatchSize,
        fun cat => ps.map fun p => .partition (partitionToThrift p cat db tbl), fun _ => false⟩
  | .alterPartitions db tbl ps opts => some
      ⟨opts, cfg.partitionBatchSize,
        fun cat => ps.map fun p => .partition (partitionToThriftFrom p cat db tbl), fun _ => false⟩
  | .dropPartitionsByNames _ _ names _ ifExists opts => some
      ⟨opts, cfg.partitionBatchSize, fun _ => names.map .name, missing ifExists⟩
  | .getTables _ names opts => some
      ⟨opts, cfg.chunkSize, fun _ => names.map .name, fun _ => false⟩
  | .getPartitionsByNames _ _ names opts => some
      ⟨opts, cfg.chunkSize, fun _ => names.map .name, fun _ => false⟩
  | _ => none

/-- The slices of the list. -/
def Cut.slices (cut : Cut) (cat : Option Text) : List (List Item) :=
  batches cut.size (cut.items cat).length (cut.items cat)

variable {cut : Cut}

private theorem slices_map {xs : List α} (mapped : cut.items cat = xs.map f) :
    cut.slices cat = (batches cut.size xs.length xs).map (List.map f) := by
  rw [Cut.slices, mapped, List.length_map, batches_map]

private theorem carried_partitions (conv : Partition → Option Text → Text → Text → Wire.Partition)
    (chunk : List Partition) (cat : Option Text) (db tbl : Text) :
    (Slice.items (partitionsToThriftWith conv (some chunk) cat db tbl)).map Item.partition =
      chunk.map fun p => .partition (conv p cat db tbl) := by
  rw [partitionsToThriftWith, Slice.items_convert, List.map_map]
  rfl

/-- After the catalog is resolved, such an operation puts the slices of its list. -/
private theorem closure_puts (cfg : Config) (op : Operation) (cuts : op.cut cfg = some cut) :
    ∃ f, op.closure cfg = (resolveCat cfg cut.opts >>= f) ∧
      ∀ cat, Puts cut.tolerates (cut.slices cat) (f cat) := by
  cases op <;> cases cuts
  all_goals refine ⟨_, rfl, fun cat => ?_⟩
  all_goals rw [slices_map rfl]
  case addPartitions db tbl ps ifNotExists opts =>
    refine puts_forM (fun chunk => putsOne_puts (rpc_putsOne _) ?_ rfl) _
    exact congrArg some (carried_partitions partitionToThrift chunk cat db tbl)
  case alterPartitions db tbl ps opts =>
    refine puts_forM (fun chunk => ?_) _
    have carried := congrArg some (carried_partitions partitionToThriftFrom chunk cat db tbl)
    exact tryReq_puts (rpc_putsOne _) (rpc_putsOne _) carried carried rfl rfl
  case dropPartitionsByNames =>
    exact puts_forM (fun chunk => ifPresent_puts (rpc_putsOne _) rfl rfl) _
  case getTables =>
    refine puts_then_silent (puts_foldlM (fun _ chunk => ?_) _ _) fun _ _ => ⟨(), _, rfl⟩
    exact putsOne_puts (putsOne_then fun _ s => ⟨_, s, rfl, rfl⟩) rfl rfl
  case getPartitionsByNames =>
    refine puts_after_silent (fun _ => ⟨(), _, rfl⟩) fun _ => ?_
    refine puts_then_silent (puts_forM (fun chunk => ?_) _) fun _ _ => ⟨(), _, rfl⟩
    exact tryReq_puts (putsOne_then fun _ _ => ⟨(), _, rfl, rfl⟩)
      (putsOne_then fun _ _ => ⟨(), _, rfl, rfl⟩) rfl rfl rfl rfl

private theorem cut_size_pos (cfg : Config) {op : Operation} (cuts : op.cut cfg = some cut) :
    0 < cut.size := by
  cases op <;> cases cuts
  case addPartitions | alterPartitions | dropPartitionsByNames => exact cfg.partitionBatchSize_pos
  case getTables | getPartitionsByNames => exact cfg.chunkSize_pos

private theorem probed_gets (probed : Probed catalogs log found support) :
    ∀ x ∈ log, x.op = .getCatalogs := by
  cases probed <;> simp

/-- What is decided without an error is accepted, and nothing else is. -/
private theorem filter_accepted (unfailing : ∀ x ∈ decisive log, accepted x = true) :
    log.filter accepted = decisive log := by
  refine List.filter_congr fun x inLog => ?_
  cases skipped : superseded x with
  | true =>
    have unknown : answeredUnknown x = true := (Bool.and_eq_true_iff.mp skipped).2
    unfold answeredUnknown at unknown
    unfold accepted
    cases answered : x.answer with
    | ok reply => simp [answered] at unknown
    | error fault => rfl
  | false => exact unfailing x (List.mem_filter.mpr ⟨inLog, by simp [skipped]⟩)

/-- The slices make up the list, each of at most the batch size, in ⌈n/b⌉ of them. -/
structure Cut.Covers (cut : Cut) (cat : Option Text) : Prop where
  whole : (cut.slices cat).flatten = cut.items cat
  sized : ∀ slice ∈ cut.slices cat, 1 ≤ slice.length ∧ slice.length ≤ cut.size
  counted : (cut.slices cat).length = ((cut.items cat).length + cut.size - 1) / cut.size
  /-- The loop of the source cuts the same slices and stays in the range of its integers. -/
  looped : ∃ bounds, sliceLoop (.ofNat (cut.items cat).length) (.ofNat cut.size)
      ((cut.items cat).length + 1) 0 = some bounds ∧
    bounds.map (cutSlice (cut.items cat)) = cut.slices cat ∧
    ∀ bound ∈ bounds, bound.1.toInt + cut.size ≤ maxInt

private theorem Cut.covers (positive : 0 < cut.size) (representable : cut.size ≤ maxInt)
    (fits : FitsInMemory (cut.items cat)) : cut.Covers cat where
  whole := batches_flatten positive _ _ (Nat.le_refl _)
  sized _ member := batches_sized positive _ _ member
  counted := batches_count positive _ _ (Nat.le_refl _)
  looped := sliceLoop_cuts positive representable fits _ 0 (.inl rfl) (Nat.zero_le _) (by omega)

private theorem all_accepted {r : Except Err Unit} (delivers : Delivers tolerates slices log r)
    (unfailing : ∀ x ∈ decisive log, accepted x = true) :
    r = .ok () ∧ (log.filter accepted).map (·.op.slice) = slices.map some := by
  have done : r = .ok () := by
    cases r with
    | ok _ => rfl
    | error err =>
      obtain ⟨_, done, last, fault, rfl, decides, answered, _⟩ := delivers.stopped err rfl
      have member : last ∈ decisive (done ++ [last]) :=
        List.mem_filter.mpr ⟨by simp, by simp [decides]⟩
      have impossible := unfailing last member
      simp [accepted, answered] at impossible
  refine ⟨done, ?_⟩
  rw [filter_accepted unfailing, delivers.inOrder, (delivers.complete () done).1, List.take_length]

/-- What a run that cuts a list sends. It asks for the server's catalogs if it must, and
then puts the slices of the list up to the first failure that is not tolerated; a slice is
decided by one of its two forms. -/
inductive PutsSlices (cfg : Config) (cut : Cut) (s s' : Session κ) :
    List (Exchange metastore) → Except Err Unit → Prop
  | unresolved {probe : List (Exchange metastore)} {err : Err}
      (asks : ∀ x ∈ probe, x.op = .getCatalogs)
      (failed : Run (resolveCat cfg cut.opts s) probe (.error err, s')) :
      PutsSlices cfg cut s s' probe (.error err)
  | delivered {probe rest : List (Exchange metastore)} {cat : Option Text} {mid : Session κ}
      {r : Except Err Unit} (asks : ∀ x ∈ probe, x.op = .getCatalogs)
      (resolved : Run (resolveCat cfg cut.opts s) probe (.ok cat, mid)) (covers : cut.Covers cat)
      (delivers : Delivers cut.tolerates (cut.slices cat) rest r)
      (unfailing : (∀ x ∈ decisive rest, accepted x = true) →
        r = .ok () ∧ (rest.filter accepted).map (·.op.slice) = (cut.slices cat).map some) :
      PutsSlices cfg cut s s' (probe ++ rest) r

/-- A run of an operation that cuts a list puts all of it, or stops at a failure and
returns it. -/
structure Batched (cfg : Config) (cut : Cut) (s s' : Session κ) (log : List (Exchange metastore))
    (r : Except Err Unit) : Prop where
  puts : PutsSlices cfg cut s s' log r
  /-- On a connection that was told that the server lacks the request form no later slice
  is put in it. -/
  switches : ∀ method, Switches method log s s'

/-- No operation that cuts a list loses an element, puts one twice or goes on after a
failure that it returns. -/
theorem batching_loses_nothing (cfg : Config) (op : Operation) (cut : Cut)
    (cuts : op.cut cfg = some cut) (representable : cut.size ≤ maxInt)
    (fits : ∀ cat, FitsInMemory (cut.items cat)) {s s' : Session op.Captured}
    {log : List (Exchange metastore)} {r : Except Err Unit}
    (ran : Run (op.closure cfg s) log (r, s')) : Batched cfg cut s s' log r := by
  refine ⟨?_, fun method => closure_switches cfg op method _ _ _ _ ran⟩
  obtain ⟨f, resolves, puts⟩ := closure_puts cfg op cuts
  rw [resolves] at ran
  rcases Dialogue.run_then ran with ⟨err, failed, rfl⟩ | ⟨probe, cat, mid, rest, ok, next, rfl⟩
  · obtain ⟨_, _, _, probed, _⟩ := resolveCatFor_run failed
    exact .unresolved (probed_gets probed) failed
  · obtain ⟨_, _, _, probed, _⟩ := resolveCatFor_run ok
    have delivers := puts cat _ _ _ _ next
    exact .delivered (probed_gets probed) ok
      (Cut.covers (cut_size_pos cfg cuts) representable (fits cat)) delivers (all_accepted delivers)

/-- Five names two at a time, on a server that lacks the request form: all of them are put
in three requests, and the request form is tried for the first two only. -/
theorem names_are_cut_on_an_old_server :
    let cfg : Config := .clamp [] id 2 0
    let op : Operation := .getPartitionsByNames [100] [116] [[97], [98], [99], [100], [101]] []
    let s : Session PartsVars := ⟨.no, [], [], ⟨[], [], []⟩⟩
    let log : List (Exchange metastore) :=
      [⟨.getPartitionsByNamesReq ⟨[100], [116], some [[97], [98]]⟩, .error unknownMethod⟩,
        ⟨.getPartitionsByNames [100] [116] (some [[97], [98]]), .ok none⟩,
        ⟨.getPartitionsByNames [100] [116] (some [[99], [100]]), .ok none⟩,
        ⟨.getPartitionsByNames [100] [116] (some [[101]]), .ok none⟩]
    ∃ cut s', op.cut cfg = some cut ∧ Run (op.closure cfg s) log (.ok (), s') ∧
      Batched cfg cut s s' log (.ok ()) ∧ (log.filter accepted).map (·.op.slice) =
        [some [.name [97], .name [98]], some [.name [99], .name [100]], some [.name [101]]] := by
  intro cfg op s log
  have ran : Run (op.closure cfg s) log
      (.ok (), { s with fallback := ["get_partitions_by_names_req"] }) :=
    .ask (.ask (.ask (.ask (.done _))))
  exact ⟨_, _, rfl, ran, batching_loses_nothing cfg op _ rfl (by decide)
    (fun _ => by change 8 * 5 ≤ maxInt; decide) ran, rfl⟩

end HmsClient
