import HmsClient.ByteReader

/-! Reading ahead through a buffer, as `bufio.Reader` does. The buffer is filled by one read
of the stream below, and only when it is empty; a read that wants as much as it holds goes
past it. So whoever reads from the buffer is behind the stream by what the last read
brought, at most. -/
namespace HmsClient.ReadAhead
open ByteReader

/-- A reader that waits: what it returns is bytes, or the end of the stream. -/
structure Arrivals (σ : Type) extends Source Unit σ where
  waits {len : Nat} {s : σ} : 0 < len → (read len s).1.err = none → (read len s).1.bytes ≠ []

variable {σ : Type} {src : Arrivals σ}

theorem Arrivals.rest_shorter {len : Nat} {s : σ} (room : 0 < len)
    (going : (src.read len s).1.err = none) :
    (src.rest (src.read len s).2).length < (src.rest s).length := by
  have whole := congrArg List.length (src.next len s)
  have some := List.length_pos_iff.mpr (src.waits room going)
  rw [List.length_append] at whole
  omega

/-! ## The buffer -/

/-- What has been read and not been handed out, and an error that came with it. -/
structure Buffered (src : Arrivals σ) where
  below : σ
  buffer : Bytes
  err : Option Unit
  finished : err ≠ none → src.rest below = []

/-- What a read through the buffer returns, and what it read below. -/
structure Served (src : Arrivals σ) where
  bytes : Bytes
  err : Option Unit
  fetched : Bytes
  after : Buffered src

def Buffered.new (src : Arrivals σ) (s : σ) : Buffered src := ⟨s, [], none, nofun⟩

/-- `Read` with a buffer of `size` bytes into `room` bytes. -/
def Buffered.read (size room : Nat) (b : Buffered src) : Served src :=
  if b.buffer ≠ [] then
    ⟨b.buffer.take room, none, [], { b with buffer := b.buffer.drop room }⟩
  else if b.err ≠ none then ⟨[], b.err, [], .new src b.below⟩
  else if size ≤ room then
    let got := src.read room b.below
    ⟨got.1.bytes, got.1.err, got.1.bytes, .new src got.2⟩
  else
    let got := src.read size b.below
    if got.1.bytes = [] then ⟨[], got.1.err, [], .new src got.2⟩
    else
      ⟨got.1.bytes.take room, none, got.1.bytes,
        ⟨got.2, got.1.bytes.drop room, got.1.err, fun failed =>
          have ⟨_, error⟩ := Option.ne_none_iff_exists'.mp failed
          src.fails error⟩⟩

/-- What a read does, whether it goes through the buffer or past it. -/
structure Serves (b : Buffered src) (room : Nat) (got : Served src) : Prop where
  handed : b.buffer ++ got.fetched = got.bytes ++ got.after.buffer
  next : src.rest b.below = got.fetched ++ src.rest got.after.below
  fits : got.bytes.length ≤ room
  waits : got.err = none → got.bytes ≠ []
  ends : got.err ≠ none → got.after.buffer = [] ∧ src.rest got.after.below = []
  ahead : got.fetched ≠ [] → b.buffer = []

theorem read_serves {size room : Nat} (sized : 0 < size) (roomy : 0 < room) (b : Buffered src) :
    Serves b room (b.read size room) := by
  unfold Buffered.read
  split
  · next ahead =>
    refine ⟨?_, rfl, List.length_take_le room b.buffer, fun _ => ?_, nofun, nofun⟩
    · rw [List.append_nil, List.take_append_drop]
    · simp [ahead, Nat.ne_of_gt roomy]
  · next empty =>
    have empty : b.buffer = [] := not_not.mp empty
    split
    · next finished =>
      exact ⟨by simp [empty, Buffered.new], rfl, Nat.zero_le room, fun none => absurd none finished,
        fun _ => ⟨rfl, b.finished finished⟩, fun _ => empty⟩
    · split
      · refine ⟨by simp [empty, Buffered.new], src.next room b.below, src.fits room b.below,
          fun going => src.waits roomy going, fun failed => ⟨rfl, ?_⟩, fun _ => empty⟩
        obtain ⟨e, failed⟩ := Option.ne_none_iff_exists'.mp failed
        exact src.fails failed
      · dsimp only
        split
        · next nothing =>
          refine ⟨by simp [empty, Buffered.new], ?_, Nat.zero_le room,
            fun going => absurd nothing (src.waits sized going), fun failed => ⟨rfl, ?_⟩,
            fun _ => empty⟩
          · exact (src.next size b.below).trans (by rw [nothing]; rfl)
          · obtain ⟨e, failed⟩ := Option.ne_none_iff_exists'.mp failed
            exact src.fails failed
        · next some =>
          refine ⟨?_, src.next size b.below, List.length_take_le room _, fun _ => ?_, nofun,
            fun _ => empty⟩
          · rw [empty, List.nil_append, List.take_append_drop]
          · simp [some, Nat.ne_of_gt roomy]

/-- A read that does not end short of what was wanted brings something. -/
theorem Serves.nonempty {b : Buffered src} {room : Nat} {got : Served src}
    (serves : Serves b room got) (roomy : 0 < room)
    (going : ¬(got.err ≠ none ∧ got.bytes.length < room)) : got.bytes ≠ [] := by
  by_cases fine : got.err = none
  · exact serves.waits fine
  · intro nothing
    exact going ⟨fine, by rwa [nothing]⟩

/-! ## Copying -/

/-- What `io.Copy` writes, one piece for each read into `room` bytes. -/
def Arrivals.copied (src : Arrivals σ) {room : Nat} (roomy : 0 < room) (s : σ) : List Bytes :=
  let got := src.read room s
  let written := if got.1.bytes = [] then [] else [got.1.bytes]
  match _ : got.1.err with
  | some _ => written
  | none => written ++ src.copied roomy got.2
termination_by (src.rest s).length
decreasing_by exact Arrivals.rest_shorter roomy ‹_›

private theorem written_flatten : (if bytes = [] then [] else [bytes]).flatten = bytes := by
  split
  · next empty => exact empty.symm
  · simp

private theorem written_nonempty : [] ∉ if bytes = [] then [] else [bytes] := by
  split
  · exact List.not_mem_nil
  · next some => simpa [eq_comm] using some

/-- It writes the rest of the stream, and no empty piece. -/
theorem copied_spec {room : Nat} (roomy : 0 < room) (s : σ) :
    (src.copied roomy s).flatten = src.rest s ∧ [] ∉ src.copied roomy s := by
  fun_induction src.copied roomy s with
  | case1 s got written e failed =>
    have next : src.rest s = got.1.bytes ++ src.rest got.2 := src.next room s
    rw [src.fails failed, List.append_nil] at next
    exact ⟨written_flatten.trans next.symm, written_nonempty⟩
  | case2 s got written going ih =>
    have next : src.rest s = got.1.bytes ++ src.rest got.2 := src.next room s
    rw [List.flatten_append, ih.1, next, List.mem_append, not_or]
    exact ⟨congrArg (· ++ _) written_flatten, written_nonempty, ih.2⟩

/-! ## A stream in pieces -/

/-- The end comes with the last piece if `together`. -/
def readPiece (together : Bool) (len : Nat) : List Bytes → Chunk Unit × List Bytes
  | [] => (⟨[], some ()⟩, [])
  | piece :: rest =>
    if piece = [] then readPiece together len rest
    else if piece.length ≤ len then
      (⟨piece, if together && rest.flatten.isEmpty then some () else none⟩, rest)
    else (⟨piece.take len, none⟩, piece.drop len :: rest)

section Pieces
variable {together : Bool} {len : Nat}

private theorem readPiece_next (s : List Bytes) :
    s.flatten = (readPiece together len s).1.bytes ++ (readPiece together len s).2.flatten := by
  induction s with
  | nil => rfl
  | cons piece rest ih =>
    rw [readPiece]
    split
    · next empty =>
      rw [List.flatten_cons, empty, List.nil_append]
      exact ih
    · split
      · rfl
      · rw [List.flatten_cons, List.flatten_cons, ← List.append_assoc, List.take_append_drop]

private theorem readPiece_fits (s : List Bytes) :
    (readPiece together len s).1.bytes.length ≤ len := by
  induction s with
  | nil => exact Nat.zero_le len
  | cons piece rest ih =>
    rw [readPiece]
    split
    · exact ih
    · split
      · assumption
      · exact List.length_take_le len piece

private theorem readPiece_fails (failed : (readPiece together len s).1.err = some e) :
    (readPiece together len s).2.flatten = [] := by
  induction s with
  | nil => rfl
  | cons piece rest ih =>
    rw [readPiece] at failed ⊢
    split at failed
    · next empty =>
      rw [if_pos empty]
      exact ih failed
    · next some =>
      rw [if_neg some]
      split at failed
      · next fits =>
        rw [if_pos fits]
        dsimp only at failed ⊢
        split at failed
        · next last => simpa using (Bool.and_eq_true_iff.mp last).2
        · cases failed
      · cases failed

private theorem readPiece_waits (room : 0 < len) (going : (readPiece together len s).1.err = none) :
    (readPiece together len s).1.bytes ≠ [] := by
  induction s with
  | nil => cases going
  | cons piece rest ih =>
    rw [readPiece] at going ⊢
    split at going
    · next empty =>
      rw [if_pos empty]
      exact ih going
    · next some =>
      rw [if_neg some]
      split
      · exact some
      · simp [some, Nat.ne_of_gt room]

end Pieces

/-- A stream that arrives in pieces, which a read may cut but does not join. -/
def pieces (together : Bool) : Arrivals (List Bytes) where
  read := readPiece together
  isEOF _ := true
  rest := List.flatten
  patience _ := 0
  fits _ s := readPiece_fits s
  next _ s := readPiece_next s
  fails failed := readPiece_fails failed
  progress room going nothing := absurd nothing (readPiece_waits room going)
  waits room going := readPiece_waits room going

/-- Pieces that can be read one at a time into `size` bytes. -/
def FitIn (size : Nat) (reads : List Bytes) : Prop :=
  ∀ piece ∈ reads, piece ≠ [] ∧ piece.length ≤ size

section Fitting
variable {together : Bool} {size room : Nat} {reads : List Bytes}

theorem FitIn.mono (fit : FitIn size reads) (larger : size ≤ room) : FitIn room reads :=
  fun piece mem => ⟨(fit piece mem).1, Nat.le_trans (fit piece mem).2 larger⟩

theorem FitIn.tail {piece : Bytes} (fit : FitIn size (piece :: reads)) : FitIn size reads :=
  fun later mem => fit later (List.mem_cons_of_mem piece mem)

theorem FitIn.eq_nil (fit : FitIn size reads) (empty : reads.flatten = []) : reads = [] :=
  List.eq_nil_iff_forall_not_mem.mpr fun piece mem =>
    (fit piece mem).1 (List.flatten_eq_nil_iff.mp empty piece mem)

private theorem readPiece_cases (together : Bool) (fit : FitIn room reads) :
    ((readPiece together room reads).1.bytes = [] ∧ (readPiece together room reads).2 = reads) ∨
      (readPiece together room reads).1.bytes ≠ [] ∧
        reads = (readPiece together room reads).1.bytes :: (readPiece together room reads).2 := by
  cases reads with
  | nil => exact .inl ⟨rfl, rfl⟩
  | cons piece rest =>
    obtain ⟨some, short⟩ := fit piece List.mem_cons_self
    rw [readPiece, if_neg some, if_pos short]
    exact .inr ⟨some, rfl⟩

/-- The buffer is filled with one piece at a time. -/
theorem fetched_pieces {b : Buffered (pieces together)} (fit : FitIn size b.below) :
    let got := b.read size room
    (got.fetched = [] ∧ got.after.below = b.below) ∨
      got.fetched ≠ [] ∧ b.below = got.fetched :: got.after.below := by
  unfold Buffered.read
  split
  · exact .inl ⟨rfl, rfl⟩
  · split
    · exact .inl ⟨rfl, rfl⟩
    · split
      · next past => exact readPiece_cases together (fit.mono past)
      · have read := readPiece_cases together fit
        dsimp only
        split
        · next nothing =>
          rcases read with ⟨-, same⟩ | ⟨some, -⟩
          · exact .inl ⟨rfl, same⟩
          · exact absurd nothing some
        · next some =>
          rcases read with ⟨nothing, -⟩ | filled
          · exact absurd nothing some
          · exact .inr filled

theorem copied_pieces (together : Bool) (roomy : 0 < room) (fit : FitIn room reads) :
    (pieces together).copied roomy reads = reads := by
  fun_induction (pieces together).copied roomy reads with
  | case1 reads got written e failed =>
    have finished : got.2.flatten = [] := (pieces together).fails failed
    rcases readPiece_cases together fit with ⟨nothing, same⟩ | ⟨some, filled⟩
    · rw [FitIn.eq_nil fit (same ▸ finished)]
      exact if_pos nothing
    · rw [filled] at fit ⊢
      rw [fit.tail.eq_nil finished]
      exact if_neg some
  | case2 reads got written going ih =>
    rcases readPiece_cases together fit with ⟨nothing, -⟩ | ⟨some, filled⟩
    · exact absurd nothing (readPiece_waits roomy going)
    · have rest : FitIn room got.2 := FitIn.tail (filled ▸ fit)
      rw [ih rest]
      exact (congrArg (· ++ got.2) (if_neg some)).trans filled.symm

end Fitting

end HmsClient.ReadAhead
