import Mathlib.Data.List.Basic
import Mathlib.Data.Prod.Lex

/-! Readers of a stream of bytes, as `io.Reader` has them: a read may return fewer bytes
than there is room for, none at all now and then, and an error together with the last bytes
or after them. Reading until a buffer is full does not depend on how the stream comes in
pieces. Reading until the end under a limit does: it drops bytes that come with an error,
unless the error is the end of the stream. -/
namespace HmsClient.ByteReader

abbrev Bytes := List UInt8

/-- What one read returns. -/
structure Chunk (ε : Type) where
  bytes : Bytes
  err : Option ε

/-- A reader of a stream that ends. `rest` is what it has not handed out yet; `patience`
bounds how often in a row it may hand out nothing. -/
structure Source (ε σ : Type) where
  read : Nat → σ → Chunk ε × σ
  isEOF : ε → Bool
  rest : σ → Bytes
  patience : σ → Nat
  fits (len : Nat) (s : σ) : (read len s).1.bytes.length ≤ len
  next (len : Nat) (s : σ) : rest s = (read len s).1.bytes ++ rest (read len s).2
  fails {len : Nat} {s : σ} {e : ε} : (read len s).1.err = some e → rest (read len s).2 = []
  progress {len : Nat} {s : σ} : 0 < len → (read len s).1.err = none →
    (read len s).1.bytes = [] → patience (read len s).2 < patience s

variable {ε σ : Type} (src : Source ε σ)

/-- How much is left to be done before the stream ends. -/
def Source.measure (s : σ) : Nat ×ₗ Nat := toLex ((src.rest s).length, src.patience s)

variable {s : σ} {need limit : Nat} {got bytes : Bytes}

theorem Source.measure_lt {len : Nat} (room : 0 < len) (going : (src.read len s).1.err = none) :
    src.measure (src.read len s).2 < src.measure s := by
  have whole := congrArg List.length (src.next len s)
  rw [List.length_append] at whole
  refine Prod.Lex.toLex_lt_toLex.mpr ?_
  cases here : (src.read len s).1.bytes with
  | nil =>
    rw [here, List.length_nil, Nat.zero_add] at whole
    exact .inr ⟨whole.symm, src.progress room going here⟩
  | cons c more =>
    rw [here, List.length_cons] at whole
    exact .inl (by show (src.rest _).length < (src.rest s).length; omega)

/-- `io.ReadFull` into what is left of a buffer, after it got some bytes. -/
def readFull (unexpectedEOF : ε) (need : Nat) (got : Bytes) (s : σ) : Except ε Bytes × σ :=
  if _ : need = 0 then (.ok got, s)
  else
    let chunk := (src.read need s).1
    let after := (src.read need s).2
    if need ≤ chunk.bytes.length then (.ok (got ++ chunk.bytes), after)
    else
      match _ : chunk.err with
      | some e =>
        (.error (if got ++ chunk.bytes ≠ [] ∧ src.isEOF e then unexpectedEOF else e), after)
      | none => readFull unexpectedEOF (need - chunk.bytes.length) (got ++ chunk.bytes) after
termination_by src.measure s
decreasing_by exact src.measure_lt (Nat.pos_of_ne_zero ‹_›) ‹_›

/-- `io.ReadAll` of an `io.LimitReader`, after it got some bytes. `room` is the free part of
its buffer, by how much it holds. -/
def readAll (room : Nat → Nat) (roomy : ∀ n, 0 < room n) (limit : Nat) (got : Bytes) (s : σ) :
    Except ε Bytes × σ :=
  if _ : limit = 0 then (.ok got, s)
  else
    let chunk := (src.read (min (room got.length) limit) s).1
    let after := (src.read (min (room got.length) limit) s).2
    match _ : chunk.err with
    | some e => (if src.isEOF e then .ok (got ++ chunk.bytes) else .error e, after)
    | none => readAll room roomy (limit - chunk.bytes.length) (got ++ chunk.bytes) after
termination_by src.measure s
decreasing_by exact src.measure_lt (Nat.lt_min.mpr ⟨roomy _, Nat.pos_of_ne_zero ‹_›⟩) ‹_›

variable {src}

section Laws
variable {len n : Nat} {s : σ}

private theorem rest_length (len : Nat) (s : σ) :
    (src.rest s).length =
      (src.read len s).1.bytes.length + (src.rest (src.read len s).2).length := by
  rw [← List.length_append, ← src.next]

private theorem take_rest (within : (src.read len s).1.bytes.length ≤ n) :
    (src.rest s).take n = (src.read len s).1.bytes ++
      (src.rest (src.read len s).2).take (n - (src.read len s).1.bytes.length) := by
  rw [src.next len s, List.take_append, List.take_of_length_le within]

private theorem drop_rest (within : (src.read len s).1.bytes.length ≤ n) :
    (src.rest s).drop n =
      (src.rest (src.read len s).2).drop (n - (src.read len s).1.bytes.length) := by
  rw [src.next len s, List.drop_append, List.drop_eq_nil_of_le within, List.nil_append]

end Laws

/-- A buffer is filled with the next bytes, if there are enough of them. -/
theorem readFull_enough (unexpectedEOF : ε) (got : Bytes) (enough : need ≤ (src.rest s).length) :
    (readFull src unexpectedEOF need got s).1 = .ok (got ++ (src.rest s).take need) ∧
      src.rest (readFull src unexpectedEOF need got s).2 = (src.rest s).drop need := by
  fun_induction readFull src unexpectedEOF need got s with
  | case1 got s => simp
  | case2 need got s room chunk after full =>
    have exactly : chunk.bytes.length = need := Nat.le_antisymm (src.fits need s) full
    rw [take_rest (Nat.le_of_eq exactly), drop_rest (Nat.le_of_eq exactly)]
    simp [chunk, after, exactly]
  | case3 need got s room chunk after partly e failed =>
    have ended : src.rest after = [] := src.fails failed
    have whole : (src.rest s).length = chunk.bytes.length + (src.rest after).length :=
      rest_length _ s
    rw [ended, List.length_nil] at whole
    omega
  | case4 need got s room chunk after partly going ih =>
    have whole : (src.rest s).length = chunk.bytes.length + (src.rest after).length :=
      rest_length _ s
    obtain ⟨filled, left⟩ := ih (by omega)
    have within : chunk.bytes.length ≤ need := Nat.le_of_not_le partly
    rw [take_rest within, drop_rest within, ← List.append_assoc]
    exact ⟨filled, left⟩

/-- If there are not enough, the stream is read to its end and the buffer is not filled. -/
theorem readFull_short (unexpectedEOF : ε) (got : Bytes) (short : (src.rest s).length < need) :
    (∃ e, (readFull src unexpectedEOF need got s).1 = .error e) ∧
      src.rest (readFull src unexpectedEOF need got s).2 = [] := by
  fun_induction readFull src unexpectedEOF need got s with
  | case1 got s => cases short
  | case2 need got s room chunk after full =>
    have whole : (src.rest s).length = chunk.bytes.length + (src.rest after).length :=
      rest_length _ s
    omega
  | case3 need got s room chunk after partly e failed => exact ⟨⟨_, rfl⟩, src.fails failed⟩
  | case4 need got s room chunk after partly going ih =>
    have whole : (src.rest s).length = chunk.bytes.length + (src.rest after).length :=
      rest_length _ s
    exact ih (by omega)

theorem readFull_length (unexpectedEOF : ε)
    (read : (readFull src unexpectedEOF need got s).1 = .ok bytes) :
    bytes.length = got.length + need := by
  by_cases enough : need ≤ (src.rest s).length
  · rw [(readFull_enough unexpectedEOF got enough).1] at read
    cases read
    rw [List.length_append, List.length_take_of_le enough]
  · obtain ⟨⟨e, failed⟩, -⟩ := readFull_short unexpectedEOF got (Nat.lt_of_not_le enough)
    cases failed.symm.trans read

variable (room : Nat → Nat) (roomy : ∀ n, 0 < room n)

/-- All bytes up to the limit are read, if there are so many and the reading succeeds. -/
theorem readAll_enough (enough : limit ≤ (src.rest s).length)
    (read : (readAll src room roomy limit got s).1 = .ok bytes) :
    bytes = got ++ (src.rest s).take limit ∧
      src.rest (readAll src room roomy limit got s).2 = (src.rest s).drop limit := by
  fun_induction readAll src room roomy limit got s with
  | case1 got s =>
    cases read
    simp
  | case2 limit got s full chunk after e failed =>
    have ended : src.rest after = [] := src.fails failed
    have within : chunk.bytes.length ≤ limit :=
      Nat.le_trans (src.fits _ s) (Nat.min_le_right _ _)
    rw [take_rest within, drop_rest within]
    change bytes = got ++ (chunk.bytes ++ (src.rest after).take _) ∧
      src.rest after = (src.rest after).drop _
    rw [ended]
    dsimp only at read
    split at read
    · cases read
      simp
    · cases read
  | case3 limit got s full chunk after going ih =>
    have whole : (src.rest s).length = chunk.bytes.length + (src.rest after).length :=
      rest_length _ s
    have within : chunk.bytes.length ≤ limit :=
      Nat.le_trans (src.fits _ s) (Nat.min_le_right _ _)
    obtain ⟨filled, left⟩ := ih (by omega) read
    rw [take_rest within, drop_rest within, ← List.append_assoc]
    exact ⟨filled, left⟩

/-- If there are not so many, fewer bytes are read or the read fails. -/
theorem readAll_short (got : Bytes) (short : (src.rest s).length < limit) :
    (∀ bytes, (readAll src room roomy limit got s).1 = .ok bytes →
        bytes.length < got.length + limit) ∧
      src.rest (readAll src room roomy limit got s).2 = [] := by
  fun_induction readAll src room roomy limit got s with
  | case1 got s => cases short
  | case2 limit got s full chunk after e failed =>
    have ended : src.rest after = [] := src.fails failed
    have whole : (src.rest s).length = chunk.bytes.length + (src.rest after).length :=
      rest_length _ s
    refine ⟨fun bytes read => ?_, ended⟩
    dsimp only at read
    split at read
    · cases read
      rw [List.length_append]
      omega
    · cases read
  | case3 limit got s full chunk after going ih =>
    have whole : (src.rest s).length = chunk.bytes.length + (src.rest after).length :=
      rest_length _ s
    have within : chunk.bytes.length ≤ limit :=
      Nat.le_trans (src.fits _ s) (Nat.min_le_right _ _)
    obtain ⟨fewer, ended⟩ := ih (by omega)
    refine ⟨fun bytes read => ?_, ended⟩
    have bound := fewer bytes read
    rw [List.length_append] at bound
    omega

/-- If the reading fails, nothing is left, and there were no bytes beyond the limit. -/
theorem readAll_failed {e : ε} (failed : (readAll src room roomy limit got s).1 = .error e) :
    src.rest (readAll src room roomy limit got s).2 = [] ∧ (src.rest s).length ≤ limit := by
  fun_induction readAll src room roomy limit got s with
  | case1 got s => cases failed
  | case2 limit got s full chunk after e' failed' =>
    have ended : src.rest after = [] := src.fails failed'
    have whole : (src.rest s).length = chunk.bytes.length + (src.rest after).length :=
      rest_length _ s
    have within : chunk.bytes.length ≤ limit :=
      Nat.le_trans (src.fits _ s) (Nat.min_le_right _ _)
    refine ⟨ended, ?_⟩
    rw [whole, ended, List.length_nil]
    exact within
  | case3 limit got s full chunk after going ih =>
    have whole : (src.rest s).length = chunk.bytes.length + (src.rest after).length :=
      rest_length _ s
    have within : chunk.bytes.length ≤ limit :=
      Nat.le_trans (src.fits _ s) (Nat.min_le_right _ _)
    obtain ⟨ended, few⟩ := ih failed
    exact ⟨ended, by omega⟩

theorem readAll_length (read : (readAll src room roomy limit got s).1 = .ok bytes) :
    bytes.length ≤ got.length + limit := by
  by_cases enough : limit ≤ (src.rest s).length
  · rw [(readAll_enough room roomy enough read).1, List.length_append,
      List.length_take_of_le enough]
  · exact Nat.le_of_lt ((readAll_short room roomy got (Nat.lt_of_not_le enough)).1 bytes read)

/-! ## What the reads returned -/

/-- Bytes together with an error that is not the end of the stream. -/
def Chunk.Spoiled (isEOF : ε → Bool) (chunk : Chunk ε) : Prop :=
  chunk.bytes ≠ [] ∧ ∃ e, chunk.err = some e ∧ isEOF e = false

/-- A reader that keeps what its reads returned. -/
structure Logged (ε σ : Type) extends Source ε σ where
  log : σ → List (Chunk ε)
  logs (len : Nat) (s : σ) : log (read len s).2 = log s ++ [(read len s).1]

/-- A reader made to keep what its reads returned. -/
def Source.logging (src : Source ε σ) : Logged ε (σ × List (Chunk ε)) where
  read len s := ((src.read len s.1).1, (src.read len s.1).2, s.2 ++ [(src.read len s.1).1])
  isEOF := src.isEOF
  rest s := src.rest s.1
  patience s := src.patience s.1
  fits len s := src.fits len s.1
  next len s := src.next len s.1
  fails := src.fails
  progress := src.progress
  log s := s.2
  logs _ _ := rfl

/-- What the reads between two states returned. -/
def Logged.since (src : Logged ε σ) (s after : σ) : List (Chunk ε) :=
  (src.log after).drop (src.log s).length

/-- The reads between two states. Nothing is left after a spoiled one. -/
structure Goes (src : Logged ε σ) (s after : σ) (chunks : List (Chunk ε)) : Prop where
  logged : src.log after = src.log s ++ chunks
  taken : src.rest s = chunks.flatMap Chunk.bytes ++ src.rest after
  spoiled : ∀ chunk ∈ chunks, chunk.Spoiled src.isEOF → src.rest after = []

namespace Goes
variable {src : Logged ε σ} {s mid after : σ} {chunks chunks' : List (Chunk ε)}

theorem refl (s : σ) : Goes src s s [] := ⟨(List.append_nil _).symm, rfl, nofun⟩

theorem read (src : Logged ε σ) (len : Nat) (s : σ) :
    Goes src s (src.read len s).2 [(src.read len s).1] where
  logged := src.logs len s
  taken := by
    rw [List.flatMap_singleton]
    exact src.next len s
  spoiled := by
    intro chunk one ⟨_, e, failed, _⟩
    rw [List.mem_singleton.mp one] at failed
    exact src.fails failed

theorem trans (first : Goes src s mid chunks) (second : Goes src mid after chunks') :
    Goes src s after (chunks ++ chunks') where
  logged := by rw [second.logged, first.logged, List.append_assoc]
  taken := by rw [first.taken, second.taken, List.flatMap_append, List.append_assoc]
  spoiled := by
    intro chunk inBoth spoiled
    rcases List.mem_append.mp inBoth with inFirst | inSecond
    · have none := first.spoiled chunk inFirst spoiled
      rw [second.taken, List.append_eq_nil_iff] at none
      exact none.2
    · exact second.spoiled chunk inSecond spoiled

theorem since_eq (goes : Goes src s after chunks) : src.since s after = chunks := by
  rw [Logged.since, goes.logged, List.drop_left]

/-- No read is spoiled where nothing is left. -/
theorem unspoiled_of_nil (goes : Goes src s after chunks) (none : src.rest s = []) :
    ∀ chunk ∈ chunks, ¬chunk.Spoiled src.isEOF := by
  intro chunk inChunks spoiled
  have taken := goes.taken
  rw [none, eq_comm, List.append_eq_nil_iff, List.flatMap_eq_nil_iff] at taken
  exact spoiled.1 (taken.1 chunk inChunks)

end Goes

section Logged
variable (src : Logged ε σ)

theorem readFull_goes (unexpectedEOF : ε) (need : Nat) (got : Bytes) (s : σ) :
    ∃ chunks, Goes src s (readFull src.toSource unexpectedEOF need got s).2 chunks := by
  fun_induction readFull src.toSource unexpectedEOF need got s with
  | case1 got s => exact ⟨[], .refl s⟩
  | case2 need got s room chunk after full => exact ⟨_, .read src need s⟩
  | case3 need got s room chunk after partly e failed => exact ⟨_, .read src need s⟩
  | case4 need got s room chunk after partly going ih =>
    obtain ⟨chunks, goes⟩ := ih
    exact ⟨_, (Goes.read src need s).trans goes⟩

/-- Reading up to a limit succeeds without a spoiled read, and with enough bytes it fails
only for one. -/
theorem readAll_goes (limit : Nat) (got : Bytes) (s : σ) :
    ∃ chunks, Goes src s (readAll src.toSource room roomy limit got s).2 chunks ∧
      (∀ bytes, (readAll src.toSource room roomy limit got s).1 = .ok bytes →
        ∀ chunk ∈ chunks, ¬chunk.Spoiled src.isEOF) ∧
      (limit ≤ (src.rest s).length →
        ∀ e, (readAll src.toSource room roomy limit got s).1 = .error e →
          ∃ chunk ∈ chunks, chunk.Spoiled src.isEOF) := by
  fun_induction readAll src.toSource room roomy limit got s with
  | case1 got s => exact ⟨[], .refl s, nofun, nofun⟩
  | case2 limit got s full chunk after e failed =>
    have whole : (src.rest s).length = chunk.bytes.length + (src.rest after).length :=
      rest_length _ s
    have ended : src.rest after = [] := src.fails failed
    refine ⟨[chunk], .read src _ s, fun bytes read other one spoiled => ?_, fun enough e' read => ?_⟩
    · obtain ⟨-, e', failed', other⟩ := spoiled
      rw [List.mem_singleton.mp one, failed] at failed'
      cases failed'
      dsimp only at read
      rw [other, if_neg Bool.false_ne_true] at read
      cases read
    · refine ⟨chunk, List.mem_singleton_self _, fun empty => ?_, e, failed, ?_⟩
      · rw [empty, ended, List.length_nil] at whole
        omega
      · by_contra eof
        dsimp only at read
        rw [if_pos (Bool.not_eq_false _ ▸ eof)] at read
        cases read
  | case3 limit got s full chunk after going ih =>
    have whole : (src.rest s).length = chunk.bytes.length + (src.rest after).length :=
      rest_length _ s
    have fine : ¬chunk.Spoiled src.isEOF := fun ⟨_, e, failed, _⟩ => nomatch going.symm.trans failed
    obtain ⟨chunks, goes, succeeds, fails⟩ := ih
    refine ⟨chunk :: chunks, (Goes.read src _ s).trans goes, fun bytes read other inChunks => ?_,
      fun enough e read => ?_⟩
    · rcases List.mem_cons.mp inChunks with rfl | later
      · exact fine
      · exact succeeds bytes read other later
    · obtain ⟨other, inChunks, spoiled⟩ := fails (by omega) e read
      exact ⟨other, .tail _ inChunks, spoiled⟩

end Logged

/-! ## A limit -/

section Limit
variable (src : Source ε σ) (len : Nat) (s : σ × Nat)

/-- `Read` of an `io.LimitReader`, with what it may still read beside the state. -/
def limitedRead (eof : ε) : Chunk ε × σ × Nat :=
  if s.2 = 0 then (⟨[], some eof⟩, s)
  else
    ((src.read (min len s.2) s.1).1, (src.read (min len s.2) s.1).2,
      s.2 - (src.read (min len s.2) s.1).1.bytes.length)

variable (eof : ε)

theorem limitedRead_fits : (limitedRead src len s eof).1.bytes.length ≤ min len s.2 := by
  unfold limitedRead
  split
  · exact Nat.zero_le _
  · exact src.fits _ s.1

/-- What a limited read hands out comes off the stream and off the limit. -/
theorem limitedRead_next :
    src.rest s.1 = (limitedRead src len s eof).1.bytes ++ src.rest (limitedRead src len s eof).2.1 ∧
      s.2 = (limitedRead src len s eof).1.bytes.length + (limitedRead src len s eof).2.2 := by
  have within := Nat.le_trans (limitedRead_fits src len s eof) (Nat.min_le_right _ _)
  unfold limitedRead at within ⊢
  split at within
  · next ended => simp [ended]
  · next going =>
    rw [if_neg going]
    exact ⟨src.next _ s.1, (Nat.add_sub_of_le within).symm⟩

/-- It fails at the limit or at the end of the stream. -/
theorem limitedRead_fails (failed : (limitedRead src len s eof).1.err ≠ none) :
    s.2 = 0 ∨ src.rest (limitedRead src len s eof).2.1 = [] := by
  unfold limitedRead at failed ⊢
  split at failed
  · next ended => exact .inl ended
  · next going =>
    obtain ⟨e, failed⟩ := Option.ne_none_iff_exists'.mp failed
    rw [if_neg going]
    exact .inr (src.fails failed)

theorem limitedRead_progress (room : 0 < len) (going : (limitedRead src len s eof).1.err = none) :
    src.measure (limitedRead src len s eof).2.1 < src.measure s.1 := by
  unfold limitedRead at going ⊢
  split at going
  · cases going
  · next unspent =>
    rw [if_neg unspent]
    exact src.measure_lt (Nat.lt_min.mpr ⟨room, Nat.pos_of_ne_zero unspent⟩) going

end Limit

/-- A stream held in memory, which ends with its last bytes. -/
def inMemory (eof : ε) (isEOF : ε → Bool) : Source ε Bytes where
  read len s := (⟨s.take len, if s.length ≤ len then some eof else none⟩, s.drop len)
  isEOF := isEOF
  rest := id
  patience _ := 0
  fits len s := List.length_take_le len s
  next len s := (List.take_append_drop len s).symm
  fails {len s e} failed := by
    dsimp only at failed
    split at failed
    · next short =>
      cases failed
      exact List.drop_eq_nil_of_le short
    · cases failed
  progress {len s} room going none := by
    dsimp only at going none
    split at going
    · cases going
    · next long =>
      rcases List.take_eq_nil_iff.mp none with zero | empty
      · omega
      · exact absurd (by simp [empty]) long

end HmsClient.ByteReader
