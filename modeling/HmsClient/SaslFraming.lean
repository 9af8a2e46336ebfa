import HmsClient.ByteReader
import HmsClient.SaslHandshake

/-! The data frames of a SASL transport. What is written goes out as one frame on the next
flush; what is read comes out of frames, whatever pieces the inner transport reads them
in. A stream that is cut yields the frames that are whole and then an error. The last
frame is lost, though, if its last bytes come with an error other than the end of the
stream, as those of a TLS connection that is being closed do. -/
namespace HmsClient.Sasl
open ByteReader (Source Logged Goes)

/-- The buffers of `saslTransport`: what is not flushed yet, and what is unread of the
current frame. -/
structure Buffers where
  wbuf : Bytes
  rbuf : Bytes

/-- `binary.BigEndian.Uint32` of the header of a data frame. -/
def frameLength (hdr : Vector UInt8 4) : Nat :=
  ((hdr[0].toNat * 256 + hdr[1].toNat) * 256 + hdr[2].toNat) * 256 + hdr[3].toNat

/-! ## Writing -/

def write (p : Bytes) (t : Buffers) : Buffers := { t with wbuf := t.wbuf ++ p }

/-- An empty buffer only flushes the inner transport. -/
def flush {σ : Type} (io : Inner σ) (t : Buffers) (s : σ) : Option Err × Buffers × σ :=
  if t.wbuf.length > saslMaxFrame then (some frameTooLarge, t, s)
  else if t.wbuf.length = 0 then ((io.flush s).1, t, (io.flush s).2)
  else
    match io.write (putUint32 t.wbuf.length) s with
    | (some err, s) => (some err, t, s)
    | (none, s) =>
      match io.write t.wbuf s with
      | (some err, s) => (some err, t, s)
      | (none, s) => ((io.flush s).1, { t with wbuf := [] }, (io.flush s).2)

/-! ## Reading -/

section Reading
variable {σ : Type} (base : Inner σ) (src : Source Err σ) (room : Nat → Nat)
  (roomy : ∀ n, 0 < room n)

/-- The inner transport when it reads from a stream; `room` is how `io.ReadAll` grows its
buffer. -/
def readingFrom : Inner σ :=
  { base with
    readFull := fun n s =>
      let result := ByteReader.readFull src (.leaf .unexpectedEOF) n [] s
      match read : result.1 with
      | .error err => (.error err, result.2)
      | .ok bytes =>
        (.ok ⟨bytes.toArray, by simpa using ByteReader.readFull_length _ read⟩, result.2)
    readAll := fun limit s =>
      let result := ByteReader.readAll src room roomy limit [] s
      match read : result.1 with
      | .error err => (.error err, result.2)
      | .ok bytes => (.ok ⟨bytes, by simpa using ByteReader.readAll_length room roomy read⟩, result.2) }

variable {n : Nat} {s : σ}

private theorem full_enough (enough : n ≤ (src.rest s).length) :
    ∃ hdr after, (readingFrom base src room roomy).readFull n s = (.ok hdr, after) ∧
      hdr.toList = (src.rest s).take n ∧ src.rest after = (src.rest s).drop n := by
  obtain ⟨read, left⟩ := ByteReader.readFull_enough (.leaf .unexpectedEOF) [] enough
  unfold readingFrom
  dsimp only
  split
  · next failed => cases failed.symm.trans read
  · next filled =>
    cases filled.symm.trans read
    exact ⟨_, _, rfl, by simp, left⟩

private theorem full_short (short : (src.rest s).length < n) :
    ∃ err after, (readingFrom base src room roomy).readFull n s = (.error err, after) ∧
      src.rest after = [] := by
  obtain ⟨⟨err, read⟩, left⟩ :=
    ByteReader.readFull_short (.leaf .unexpectedEOF) [] short
  unfold readingFrom
  dsimp only
  split
  · exact ⟨_, _, rfl, left⟩
  · next filled => cases filled.symm.trans read

private theorem all_cases (n : Nat) (s : σ) :
    (∃ err, (ByteReader.readAll src room roomy n [] s).1 = .error err ∧
        (readingFrom base src room roomy).readAll n s =
          (.error err, (ByteReader.readAll src room roomy n [] s).2)) ∨
      ∃ bytes within, (ByteReader.readAll src room roomy n [] s).1 = .ok bytes ∧
        (readingFrom base src room roomy).readAll n s =
          (.ok ⟨bytes, within⟩, (ByteReader.readAll src room roomy n [] s).2) := by
  unfold readingFrom
  dsimp only
  split
  · next failed => exact .inl ⟨_, failed, rfl⟩
  · next all =>
    refine .inr ⟨_, ?_, all, rfl⟩
    simpa using ByteReader.readAll_length room roomy all

/-- A frame is what `io.ReadAll` read, if that is enough. -/
private theorem readFrame_cases (n : Nat) (s : σ) :
    (∃ err, (ByteReader.readAll src room roomy n [] s).1 = .error err ∧
        readFrame (readingFrom base src room roomy) n s =
          (.error err, (ByteReader.readAll src room roomy n [] s).2)) ∨
      ∃ bytes, (ByteReader.readAll src room roomy n [] s).1 = .ok bytes ∧
        readFrame (readingFrom base src room roomy) n s =
          (if bytes.length < n then .error (.leaf .unexpectedEOF) else .ok bytes,
            (ByteReader.readAll src room roomy n [] s).2) := by
  unfold readFrame
  rcases all_cases base src room roomy n s with ⟨err, failed, got⟩ | ⟨bytes, within, all, got⟩
  · rw [got]
    exact .inl ⟨err, failed, rfl⟩
  · rw [got]
    refine .inr ⟨bytes, all, ?_⟩
    dsimp only
    split
    · rfl
    · rfl

variable {payload : Bytes} {after : σ}

private theorem frame_ok (enough : n ≤ (src.rest s).length)
    (read : readFrame (readingFrom base src room roomy) n s = (.ok payload, after)) :
    payload = (src.rest s).take n ∧ src.rest after = (src.rest s).drop n := by
  rcases readFrame_cases base src room roomy n s with ⟨err, -, failed⟩ | ⟨bytes, all, got⟩
  · cases failed.symm.trans read
  · rw [got] at read
    split at read
    · cases read
    · cases read
      exact ByteReader.readAll_enough room roomy enough all

private theorem frame_short (short : (src.rest s).length < n) :
    ∃ err after, readFrame (readingFrom base src room roomy) n s = (.error err, after) ∧
      src.rest after = [] := by
  obtain ⟨fewer, left⟩ := ByteReader.readAll_short room roomy [] short
  rcases readFrame_cases base src room roomy n s with ⟨err, -, failed⟩ | ⟨bytes, all, got⟩
  · exact ⟨err, _, failed, left⟩
  · rw [if_pos (by simpa using fewer bytes all)] at got
    exact ⟨_, _, got, left⟩

private theorem header_shrinks
    (read : (readingFrom base src room roomy).readFull n s = (.ok hdr, after)) :
    (src.rest after).length + n = (src.rest s).length := by
  rcases Nat.lt_or_ge (src.rest s).length n with short | enough
  · obtain ⟨err, after', failed, -⟩ :=
      full_short base src room roomy short
    cases failed.symm.trans read
  · obtain ⟨hdr', after', read', -, left⟩ :=
      full_enough base src room roomy enough
    cases read'.symm.trans read
    rw [left, List.length_drop]
    omega

private theorem frame_shrinks
    (read : readFrame (readingFrom base src room roomy) n s = (.ok payload, after)) :
    (src.rest after).length ≤ (src.rest s).length := by
  rcases Nat.lt_or_ge (src.rest s).length n with short | enough
  · obtain ⟨err, after', failed, -⟩ :=
      frame_short base src room roomy short
    cases failed.symm.trans read
  · rw [(frame_ok base src room roomy enough read).2, List.length_drop]
    omega

/-- The loop of `Read`, which fetches the next frame that is not empty. -/
def fetch (s : σ) : Except Err Bytes × σ :=
  match _ : (readingFrom base src room roomy).readFull 4 s with
  | (.error err, after) => (.error err, after)
  | (.ok hdr, after) =>
    if frameLength hdr > saslMaxFrame then (.error frameTooLarge, after)
    else
      match _ : readFrame (readingFrom base src room roomy) (frameLength hdr) after with
      | (.error err, later) => (.error err, later)
      | (.ok frame, later) => if frameLength hdr > 0 then (.ok frame, later) else fetch later
termination_by (src.rest s).length
decreasing_by
  have first := header_shrinks base src room roomy ‹_›
  have second := frame_shrinks base src room roomy ‹_›
  omega

/-- `Read` into a buffer of some length. -/
def read (len : Nat) (t : Buffers) (s : σ) : Except Err Bytes × Buffers × σ :=
  if len = 0 then (.ok [], t, s)
  else if t.rbuf ≠ [] then (.ok (t.rbuf.take len), { t with rbuf := t.rbuf.drop len }, s)
  else
    match fetch base src room roomy s with
    | (.error err, s) => (.error err, t, s)
    | (.ok frame, s) => (.ok (frame.take len), { t with rbuf := frame.drop len }, s)

/-- One `Read` after another, whatever they return, and what they leave of the inner
transport. -/
def reads : List Nat → Buffers → σ → List (Except Err Bytes) × σ
  | [], _, s => ([], s)
  | len :: lens, t, s =>
    let result := read base src room roomy len t s
    let rest := reads lens result.2.1 result.2.2
    (result.1 :: rest.1, rest.2)

/-! ### What the loop does with a header -/

private theorem fetch_failed
    (header : (readingFrom base src room roomy).readFull 4 s = (.error err, after)) :
    fetch base src room roomy s = (.error err, after) := by
  rw [fetch]
  split
  · next same =>
    cases same.symm.trans header
    rfl
  · next same => cases same.symm.trans header

private theorem fetch_cut
    (header : (readingFrom base src room roomy).readFull 4 s = (.ok hdr, after))
    (small : frameLength hdr ≤ saslMaxFrame)
    (body : readFrame (readingFrom base src room roomy) (frameLength hdr) after =
      (.error err, later)) : fetch base src room roomy s = (.error err, later) := by
  rw [fetch]
  split
  · next same => cases same.symm.trans header
  · next same =>
    cases same.symm.trans header
    rw [if_neg (Nat.not_lt.mpr small)]
    split
    · next same =>
      cases same.symm.trans body
      rfl
    · next same => cases same.symm.trans body

private theorem fetch_whole
    (header : (readingFrom base src room roomy).readFull 4 s = (.ok hdr, after))
    (small : frameLength hdr ≤ saslMaxFrame)
    (body : readFrame (readingFrom base src room roomy) (frameLength hdr) after =
      (.ok payload, later)) :
    fetch base src room roomy s =
      if frameLength hdr > 0 then (.ok payload, later) else fetch base src room roomy later := by
  rw [fetch]
  split
  · next same => cases same.symm.trans header
  · next same =>
    cases same.symm.trans header
    rw [if_neg (Nat.not_lt.mpr small)]
    split
    · next same => cases same.symm.trans body
    · next same =>
      cases same.symm.trans body
      rfl

end Reading

/-! ## The stream -/

/-- A frame on the wire. -/
def frame (payload : Bytes) : Bytes := putUint32 payload.length ++ payload

def wire (payloads : List Bytes) : Bytes := payloads.flatMap frame

/-- The payloads of the frames that are whole within the first bytes of the stream. -/
def wholeWithin : Nat → List Bytes → List Bytes
  | _, [] => []
  | k, p :: rest =>
    if 4 + p.length ≤ k then p :: wholeWithin (k - (4 + p.length)) rest else []

/-- The stream, cut after so many bytes, ends with a frame that has data. -/
def EndsWithData (k : Nat) (stream : List Bytes) : Prop :=
  (wire stream).take k = wire (wholeWithin k stream) ∧
    ∃ p ∈ (wholeWithin k stream).getLast?, p ≠ []

theorem length_frame (payload : Bytes) : (frame payload).length = 4 + payload.length := by
  rw [frame, List.length_append]
  rfl

/-- Frames of at most 64 MiB have their length in the header. -/
theorem frameLength_header {hdr : Vector UInt8 4} {n : Nat} (same : hdr.toList = putUint32 n)
    (small : n ≤ saslMaxFrame) : frameLength hdr = n := by
  obtain ⟨array, size⟩ := hdr
  obtain rfl : array = (putUint32 n).toArray := by
    rw [← same]
    simp
  rw [saslMaxFrame] at small
  simp only [frameLength, putUint32, Vector.getElem_mk, List.getElem_toArray,
    List.getElem_cons_zero, List.getElem_cons_succ, UInt8.toNat_ofNat']
  omega

/-! ## The end of a stream -/

section Ends
variable {p : Bytes} {rest stream : List Bytes} {k : Nat}

private theorem wire_take_cons (whole : 4 + p.length ≤ k) :
    (wire (p :: rest)).take k = frame p ++ (wire rest).take (k - (4 + p.length)) := by
  have shape : wire (p :: rest) = frame p ++ wire rest := rfl
  rw [shape, List.take_append, length_frame, List.take_of_length_le]
  rw [length_frame]
  exact whole

private theorem wholeWithin_eq_nil (none : (wire stream).take k = []) :
    wholeWithin k stream = [] := by
  cases stream with
  | nil => rfl
  | cons q rest =>
    rw [wholeWithin, if_neg]
    intro whole
    rw [wire_take_cons whole, List.append_eq_nil_iff] at none
    exact nomatch none.1

private theorem not_ends_of_cut (cut : ¬4 + p.length ≤ k) : ¬EndsWithData k (p :: rest) := by
  rintro ⟨-, q, last, -⟩
  rw [wholeWithin, if_neg cut] at last
  cases last

/-- Where more follows a frame, the stream ends as that does. -/
private theorem ends_cons_more (whole : 4 + p.length ≤ k)
    (more : (wire rest).take (k - (4 + p.length)) ≠ []) :
    EndsWithData k (p :: rest) ↔ EndsWithData (k - (4 + p.length)) rest := by
  unfold EndsWithData
  rw [wire_take_cons whole, wholeWithin, if_pos whole]
  have shape : ∀ others : List Bytes, wire (p :: others) = frame p ++ wire others := fun _ => rfl
  rw [shape, List.append_cancel_left_eq]
  refine and_congr_right fun same => ?_
  cases within : wholeWithin (k - (4 + p.length)) rest with
  | nil =>
    rw [within] at same
    exact absurd same more
  | cons q others => rw [List.getLast?_cons_cons]

private theorem ends_cons_last (whole : 4 + p.length ≤ k)
    (none : (wire rest).take (k - (4 + p.length)) = []) :
    EndsWithData k (p :: rest) ↔ p ≠ [] := by
  unfold EndsWithData
  rw [wire_take_cons whole, wholeWithin, if_pos whole, none, wholeWithin_eq_nil none]
  simp [wire]

end Ends

/-! ## What is read from a stream -/

section Pending
variable {σ : Type} {base : Inner σ} {src : Logged Err σ} {room : Nat → Nat}
  {roomy : ∀ n, 0 < room n} {s after : σ} {data : Bytes} {ends : Prop}
  {chunks : List (ByteReader.Chunk Err)}

/-- The reader is at a frame of a stream that may be cut, and the frames that are whole
hold this data. `ends` says whether the stream ends with a frame that has data. -/
def Pending (src : Logged Err σ) (s : σ) (data : Bytes) (ends : Prop) : Prop :=
  ∃ payloads k, (∀ p ∈ payloads, p.length ≤ saslMaxFrame) ∧
    src.rest s = (wire payloads).take k ∧ (wholeWithin k payloads).flatten = data ∧
    (src.rest s ≠ [] → (ends ↔ EndsWithData k payloads))

private theorem pending_nothing (ended : src.rest s = []) : Pending src s [] ends :=
  ⟨[], 0, nofun, ended, rfl, fun some => absurd ended some⟩

/-- No read among these brought bytes with an error that is not `io.EOF`. -/
abbrev Unspoiled (src : Logged Err σ) (chunks : List (ByteReader.Chunk Err)) : Prop :=
  ∀ chunk ∈ chunks, ¬chunk.Spoiled src.isEOF

variable {chunks' : List (ByteReader.Chunk Err)} {len : Nat} {lens : List Nat}
  {results : List (Except Err Bytes)} {err : Err}

private theorem Unspoiled.append (first : Unspoiled src chunks) (second : Unspoiled src chunks') :
    Unspoiled src (chunks ++ chunks') := by
  intro chunk inBoth
  rcases List.mem_append.mp inBoth with inFirst | inSecond
  · exact first chunk inFirst
  · exact second chunk inSecond

variable (base src room roomy) in
private theorem header_goes (n : Nat) (s : σ) :
    ∃ chunks, Goes src s ((readingFrom base src.toSource room roomy).readFull n s).2 chunks := by
  obtain ⟨chunks, goes⟩ := ByteReader.readFull_goes src (.leaf .unexpectedEOF) n [] s
  refine ⟨chunks, ?_⟩
  unfold readingFrom
  dsimp only
  split
  · exact goes
  · exact goes

variable (base src room roomy) in
/-- A frame of which all bytes are there is read, unless a read is spoiled. -/
private theorem frame_goes (n : Nat) (s : σ) :
    ∃ chunks, Goes src s (readFrame (readingFrom base src.toSource room roomy) n s).2 chunks ∧
      (∀ payload, (readFrame (readingFrom base src.toSource room roomy) n s).1 = .ok payload →
        Unspoiled src chunks) ∧
      (n ≤ (src.rest s).length →
        ∀ err, (readFrame (readingFrom base src.toSource room roomy) n s).1 = .error err →
          (src.rest s).length ≤ n ∧ ∃ chunk ∈ chunks, chunk.Spoiled src.isEOF) := by
  obtain ⟨chunks, goes, succeeds, fails⟩ :=
    ByteReader.readAll_goes room roomy src n [] s
  refine ⟨chunks, ?_⟩
  rcases readFrame_cases base src.toSource room roomy n s with ⟨err, failed, got⟩ | ⟨bytes, all, got⟩
  · rw [got]
    refine ⟨goes, nofun, fun enough err' _ => ⟨?_, fails enough err failed⟩⟩
    exact (ByteReader.readAll_failed room roomy failed).2
  · rw [got]
    refine ⟨goes, fun _ _ => succeeds bytes all, fun enough err' short => ?_⟩
    obtain ⟨rfl, -⟩ := ByteReader.readAll_enough room roomy enough all
    rw [List.nil_append, List.length_take_of_le enough, if_neg (Nat.lt_irrefl n)] at short
    cases short

/-- What comes of fetching a frame. -/
inductive Fetched (src : Logged Err σ) (data : Bytes) (ends : Prop)
    (chunks : List (ByteReader.Chunk Err)) (after : σ) : Except Err Bytes → Prop where
  | nothing {err : Err} : data = [] → (ends → Unspoiled src chunks) →
      Pending src after [] ends → Fetched src data ends chunks after (.error err)
  | frame {payload more : Bytes} : payload ≠ [] → data = payload ++ more →
      (ends → Unspoiled src chunks) → Pending src after more ends →
      Fetched src data ends chunks after (.ok payload)
  | lost {err : Err} : data ≠ [] → ends → (∃ chunk ∈ chunks, chunk.Spoiled src.isEOF) →
      Pending src after [] ends → Fetched src data ends chunks after (.error err)

section Frame
variable {p : Bytes} {rest : List Bytes} {k : Nat} (small : p.length ≤ saslMaxFrame)
  (here : src.rest s = (wire (p :: rest)).take k)
include small here

variable (base room roomy) in
private theorem header_of_frame (pastHeader : 4 ≤ k) : ∃ hdr after chunks,
    (readingFrom base src.toSource room roomy).readFull 4 s = (.ok hdr, after) ∧
      Goes src s after chunks ∧ frameLength hdr = p.length ∧
      src.rest after = (p ++ wire rest).take (k - 4) := by
  have shape : wire (p :: rest) = putUint32 p.length ++ (p ++ wire rest) := by
    simp [wire, frame]
  have headed : (putUint32 p.length).length = 4 := rfl
  rw [shape] at here
  have available : 4 ≤ (src.rest s).length := by
    rw [here, List.length_take, List.length_append, headed]
    omega
  obtain ⟨hdr, after, header, taken, left⟩ := full_enough base src.toSource room roomy available
  obtain ⟨chunks, goes⟩ := header_goes base src room roomy 4 s
  rw [header] at goes
  refine ⟨hdr, after, chunks, header, goes, frameLength_header ?_ small, ?_⟩
  · rw [taken, here, List.take_take, Nat.min_eq_left pastHeader, ← headed, List.take_left]
  · rw [left, here, List.drop_take, ← headed, List.drop_left]

variable (base room roomy) in
/-- At a frame that is cut the loop fails, and nothing is left. -/
private theorem fetch_cut_frame (cut : ¬4 + p.length ≤ k) : ∃ err later chunks,
    fetch base src.toSource room roomy s = (.error err, later) ∧ Goes src s later chunks ∧
      src.rest later = [] := by
  rcases Nat.lt_or_ge k 4 with cutHeader | pastHeader
  · have short : (src.rest s).length < 4 := by
      rw [here, List.length_take]
      omega
    obtain ⟨err, after, failed, ended⟩ := full_short base src.toSource room roomy short
    obtain ⟨chunks, goes⟩ := header_goes base src room roomy 4 s
    rw [failed] at goes
    exact ⟨err, after, chunks, fetch_failed base src.toSource room roomy failed, goes, ended⟩
  · obtain ⟨hdr, after, chunks, header, goes, length, body⟩ :=
      header_of_frame base room roomy small here pastHeader
    have short : (src.rest after).length < frameLength hdr := by
      rw [body, List.length_take, length]
      omega
    obtain ⟨err, later, failed, ended⟩ := frame_short base src.toSource room roomy short
    obtain ⟨chunks', goes', -⟩ := frame_goes base src room roomy (frameLength hdr) after
    rw [failed] at goes'
    rw [← length] at small
    exact ⟨err, later, chunks ++ chunks',
      fetch_cut base src.toSource room roomy header small failed, goes.trans goes', ended⟩

variable (base room roomy) in
/-- A frame that is whole is fetched, or passed over if it is empty, or it is lost. -/
private theorem fetch_frame (whole : 4 + p.length ≤ k) : ∃ later chunks,
    Goes src s later chunks ∧
      ((fetch base src.toSource room roomy s =
          (if p.length > 0 then (.ok p, later) else fetch base src.toSource room roomy later) ∧
        src.rest later = (wire rest).take (k - (4 + p.length)) ∧
        (p ≠ [] ∨ src.rest later ≠ [] → Unspoiled src chunks)) ∨
      (∃ err, fetch base src.toSource room roomy s = (.error err, later)) ∧ p ≠ [] ∧
        (wire rest).take (k - (4 + p.length)) = [] ∧ src.rest later = [] ∧
        ∃ chunk ∈ chunks, chunk.Spoiled src.isEOF) := by
  obtain ⟨hdr, after, chunks, header, goes, length, body⟩ :=
    header_of_frame base room roomy small here (by omega)
  have left : src.rest after = p ++ (wire rest).take (k - (4 + p.length)) := by
    rw [body, List.take_append, List.take_of_length_le (by omega), Nat.sub_sub]
  have available : p.length ≤ (src.rest after).length := by
    rw [left, List.length_append]
    omega
  obtain ⟨chunks', goes', succeeds, fails⟩ := frame_goes base src room roomy p.length after
  rw [← length] at small
  cases read : readFrame (readingFrom base src.toSource room roomy) p.length after with
  | mk result later =>
    rw [read] at goes' succeeds fails
    rw [← length] at read
    refine ⟨later, chunks ++ chunks', goes.trans goes', ?_⟩
    cases result with
    | error err =>
      obtain ⟨few, chunk, inChunks, spoiled⟩ := fails available err rfl
      have none : (wire rest).take (k - (4 + p.length)) = [] := by
        rw [left, List.length_append] at few
        exact List.eq_nil_of_length_eq_zero (by omega)
      refine .inr ⟨⟨err, fetch_cut base src.toSource room roomy header small read⟩, ?_, none,
        goes'.spoiled chunk inChunks spoiled, chunk, List.mem_append_right _ inChunks, spoiled⟩
      rintro rfl
      rw [none, List.append_nil] at left
      exact goes'.unspoiled_of_nil left chunk inChunks spoiled
    | ok payload =>
      have got := frame_ok base src.toSource room roomy (by rw [length]; exact available) read
      rw [length, left, List.take_left, List.drop_left] at got
      obtain ⟨rfl, remaining⟩ := got
      refine .inl ⟨?_, remaining, fun some => Unspoiled.append ?_ (succeeds payload rfl)⟩
      · rw [fetch_whole base src.toSource room roomy header small read, length]
      · -- After a spoiled header nothing is left, so the frame would be empty and the last.
        intro chunk inChunks spoiled
        have none := goes.spoiled chunk inChunks spoiled
        rw [left, List.append_eq_nil_iff, ← remaining] at none
        rcases some with some | some
        · exact some none.1
        · exact some none.2

end Frame

variable (base room roomy) in
/-- A frame is fetched, or there is none that is whole and has data, or it is lost. -/
private theorem fetch_pending (pending : Pending src s data ends) : ∃ chunks,
    Goes src s (fetch base src.toSource room roomy s).2 chunks ∧
      Fetched src data ends chunks (fetch base src.toSource room roomy s).2
        (fetch base src.toSource room roomy s).1 := by
  obtain ⟨payloads, k, small, here, rfl, endsWith⟩ := pending
  -- The induction is on the frames of the stream, of which empty ones are passed over.
  induction payloads generalizing s k with
  | nil =>
    have none : src.rest s = [] := by simp [here, wire]
    have short : (src.rest s).length < 4 := by simp [none]
    obtain ⟨err, after, failed, ended⟩ := full_short base src.toSource room roomy short
    obtain ⟨chunks, goes⟩ := header_goes base src room roomy 4 s
    rw [failed] at goes
    rw [fetch_failed base src.toSource room roomy failed]
    exact ⟨chunks, goes, .nothing rfl (fun _ => goes.unspoiled_of_nil none) (pending_nothing ended)⟩
  | cons p rest ih =>
    have smallHere := small p (.head _)
    have others : ∀ q ∈ rest, q.length ≤ saslMaxFrame := fun q inRest => small q (.tail _ inRest)
    by_cases whole : 4 + p.length ≤ k
    · have some : src.rest s ≠ [] := by
        rw [here, wire_take_cons whole]
        exact nofun
      rw [wholeWithin, if_pos whole, List.flatten_cons]
      obtain ⟨later, chunks, goes, ⟨fetched, remaining, unspoiled⟩ |
        ⟨⟨err, failed⟩, nonempty, none, ended, spoiled⟩⟩ :=
      fetch_frame base room roomy smallHere here whole
      · have endsLater : src.rest later ≠ [] → (ends ↔ EndsWithData (k - (4 + p.length)) rest) := by
          intro more
          rw [remaining] at more
          rw [endsWith some, ends_cons_more whole more]
        cases p with
        | nil =>
          obtain ⟨chunks', goes', outcome⟩ := ih _ others remaining endsLater
          have unspoiled : ends → Unspoiled src chunks := by
            intro isEnd
            refine unspoiled (.inr fun none => ?_)
            rw [endsWith some, ends_cons_last whole (remaining ▸ none)] at isEnd
            exact isEnd rfl
          have same : fetch base src.toSource room roomy s =
              fetch base src.toSource room roomy later := fetched
          rw [same, List.nil_append]
          refine ⟨chunks ++ chunks', goes.trans goes', ?_⟩
          generalize fetch base src.toSource room roomy later = got at outcome ⊢
          obtain ⟨result, after⟩ := got
          cases outcome with
          | nothing none fine pending =>
            exact .nothing none (fun isEnd => (unspoiled isEnd).append (fine isEnd)) pending
          | frame nonempty split fine pending =>
            exact .frame nonempty split (fun isEnd => (unspoiled isEnd).append (fine isEnd)) pending
          | lost lost isEnd spoiled pending =>
            obtain ⟨chunk, inChunks, spoiled⟩ := spoiled
            exact .lost lost isEnd ⟨chunk, List.mem_append_right _ inChunks, spoiled⟩ pending
        | cons c cs =>
          have same : fetch base src.toSource room roomy s = (.ok (c :: cs), later) := fetched
          rw [same]
          exact ⟨chunks, goes, .frame nofun rfl (fun _ => unspoiled (.inl nofun))
            ⟨rest, _, others, remaining, rfl, endsLater⟩⟩
      · rw [failed]
        refine ⟨chunks, goes, .lost (List.append_ne_nil_of_left_ne_nil nonempty _) ?_ spoiled
          (pending_nothing ended)⟩
        rw [endsWith some, ends_cons_last whole none]
        exact nonempty
    · obtain ⟨err, later, chunks, failed, goes, ended⟩ :=
        fetch_cut_frame base room roomy smallHere here whole
      rw [failed, wholeWithin, if_neg whole]
      refine ⟨chunks, goes, .nothing rfl (fun isEnd => ?_) (pending_nothing ended)⟩
      by_cases none : src.rest s = []
      · exact goes.unspoiled_of_nil none
      · exact absurd ((endsWith none).mp isEnd) (not_ends_of_cut whole)

private theorem take_piece (positive : 0 < len) (nonempty : buffer ≠ []) :
    buffer.take len ≠ [] ∧ (buffer.take len).length ≤ len := by
  refine ⟨fun none => ?_, List.length_take_le len buffer⟩
  rcases List.take_eq_nil_iff.mp none with zero | empty
  · omega
  · exact nonempty empty

/-- What comes of one read, with what is unread of the current frame before and after. -/
inductive Handed (src : Logged Err σ) (len : Nat) (unread data : Bytes) (ends : Prop)
    (chunks : List (ByteReader.Chunk Err)) (unread' : Bytes) (after : σ) :
    Except Err Bytes → Prop where
  | nothing {err : Err} : unread ++ data = [] → (ends → Unspoiled src chunks) → unread' = [] →
      Pending src after [] ends → Handed src len unread data ends chunks unread' after (.error err)
  | piece {out more : Bytes} : out ≠ [] → out.length ≤ len →
      unread ++ data = out ++ (unread' ++ more) → (ends → Unspoiled src chunks) →
      Pending src after more ends → Handed src len unread data ends chunks unread' after (.ok out)
  | lost {err : Err} : unread ++ data ≠ [] → ends → (∃ chunk ∈ chunks, chunk.Spoiled src.isEOF) →
      Pending src after [] ends → Handed src len unread data ends chunks unread' after (.error err)

variable (base room roomy) in
/-- One read hands out a piece of what is pending, unless the last frame is lost. -/
private theorem read_pending (positive : 0 < len) (t : Buffers) (pending : Pending src s data ends) :
    ∃ chunks,
    Goes src s (read base src.toSource room roomy len t s).2.2 chunks ∧
      Handed src len t.rbuf data ends chunks (read base src.toSource room roomy len t s).2.1.rbuf
        (read base src.toSource room roomy len t s).2.2
        (read base src.toSource room roomy len t s).1 := by
  rw [read, if_neg (Nat.ne_of_gt positive)]
  by_cases empty : t.rbuf = []
  · rw [if_neg (not_not.mpr empty)]
    obtain ⟨chunks, goes, outcome⟩ := fetch_pending base room roomy pending
    refine ⟨chunks, ?_⟩
    generalize fetch base src.toSource room roomy s = got at goes outcome
    obtain ⟨result, after⟩ := got
    dsimp only at goes outcome
    cases outcome with
    | nothing none fine pending =>
      refine ⟨goes, .nothing ?_ fine empty pending⟩
      rw [empty, none, List.append_nil]
    | frame nonempty split fine pending =>
      obtain ⟨some, fits⟩ := take_piece positive nonempty
      refine ⟨goes, .piece some fits ?_ fine pending⟩
      dsimp only
      rw [empty, split, List.nil_append, ← List.append_assoc, List.take_append_drop]
    | lost lost isEnd spoiled pending =>
      refine ⟨goes, .lost ?_ isEnd spoiled pending⟩
      rw [empty]
      exact lost
  · rw [if_pos empty]
    obtain ⟨some, fits⟩ := take_piece positive empty
    refine ⟨[], .refl s, .piece some fits ?_ (fun _ => nofun) pending⟩
    rw [← List.append_assoc, List.take_append_drop]

/-- Reads hand out the data in pieces that fit their buffers, none of them empty, and fail
exactly when none is left. -/
inductive HandsOut : Bytes → List Nat → List (Except Err Bytes) → Prop where
  | nil (data : Bytes) : HandsOut data [] []
  | piece {len : Nat} {lens : List Nat} {out data : Bytes} {results : List (Except Err Bytes)} :
      out ≠ [] → out.length ≤ len → HandsOut data lens results →
      HandsOut (out ++ data) (len :: lens) (.ok out :: results)
  | ended {len : Nat} {lens : List Nat} {err : Err} {results : List (Except Err Bytes)} :
      HandsOut [] lens results → HandsOut [] (len :: lens) (.error err :: results)

/-- The bytes that reads returned. -/
def returned (results : List (Except Err Bytes)) : Bytes :=
  results.flatMap fun r => r.toOption.getD []

theorem HandsOut.returned_prefix (hands : HandsOut data lens results) :
    returned results <+: data := by
  induction hands with
  | nil data => exact List.nil_prefix
  | piece nonempty fits rest ih => exact (List.prefix_append_right_inj _).mpr ih
  | ended rest ih => exact ih

theorem HandsOut.returned_all (hands : HandsOut data lens results) (failed : .error err ∈ results) :
    returned results = data := by
  induction hands with
  | nil data => cases failed
  | @piece _ _ out _ _ nonempty fits rest ih =>
    cases failed with
    | tail _ later => exact congrArg (out ++ ·) (ih later)
  | ended rest ih => exact List.prefix_nil.mp rest.returned_prefix

private theorem handsOut_piece_iff (nonempty : out ≠ []) (fits : out.length ≤ len) :
    HandsOut (out ++ data) (len :: lens) (.ok out :: results) ↔ HandsOut data lens results := by
  refine ⟨fun hands => ?_, .piece nonempty fits⟩
  generalize whole : out ++ data = both at hands
  cases hands with
  | piece _ _ rest =>
    rw [List.append_cancel_left whole]
    exact rest

private theorem handsOut_ended_iff :
    HandsOut [] (len :: lens) (.error err :: results) ↔ HandsOut [] lens results := by
  refine ⟨fun hands => ?_, .ended⟩
  generalize none : ([] : Bytes) = data at hands
  cases hands with
  | ended rest => exact rest

private theorem not_handsOut_lost (some : data ≠ []) :
    ¬HandsOut data (len :: lens) (.error err :: results) := by
  intro hands
  cases hands
  exact some rfl

private theorem spoils_append (fine : ends → Unspoiled src chunks) :
    (ends ∧ ∃ chunk ∈ chunks ++ chunks', chunk.Spoiled src.isEOF) ↔
      ends ∧ ∃ chunk ∈ chunks', chunk.Spoiled src.isEOF := by
  refine and_congr_right fun isEnd => ⟨fun ⟨chunk, inBoth, spoiled⟩ => ?_,
    fun ⟨chunk, inChunks, spoiled⟩ => ⟨chunk, List.mem_append_right _ inChunks, spoiled⟩⟩
  rcases List.mem_append.mp inBoth with inFirst | inSecond
  · exact absurd spoiled (fine isEnd chunk inFirst)
  · exact ⟨chunk, inSecond, spoiled⟩

variable (base room roomy) in
/-- Reads hand out what is unread of the current frame and the data of those to come,
unless the stream ends with data and a read is spoiled. -/
private theorem reads_pending (t : Buffers) (roomFor : ∀ len ∈ lens, 0 < len)
    (pending : Pending src s data ends) : ∃ chunks,
    Goes src s (reads base src.toSource room roomy lens t s).2 chunks ∧
      (HandsOut (t.rbuf ++ data) lens (reads base src.toSource room roomy lens t s).1 ↔
        ¬(ends ∧ ∃ chunk ∈ chunks, chunk.Spoiled src.isEOF)) := by
  induction lens generalizing t s data with
  | nil => exact ⟨[], .refl s, ⟨fun _ ⟨_, _, inNone, _⟩ => (nomatch inNone), fun _ => .nil _⟩⟩
  | cons len lens ih =>
    have others : ∀ len ∈ lens, 0 < len := fun len inLens => roomFor len (.tail _ inLens)
    obtain ⟨chunks, goes, outcome⟩ :=
      read_pending base room roomy (roomFor len (.head _)) t pending
    rw [reads]
    dsimp only
    generalize read base src.toSource room roomy len t s = got at goes outcome
    obtain ⟨result, t', after⟩ := got
    dsimp only at goes outcome ⊢
    cases outcome with
    | nothing none fine empty pending =>
      obtain ⟨chunks', goes', later⟩ := ih t' others pending
      rw [empty, List.nil_append] at later
      refine ⟨chunks ++ chunks', goes.trans goes', ?_⟩
      rw [none, handsOut_ended_iff, later, spoils_append fine]
    | piece nonempty fits split fine pending =>
      obtain ⟨chunks', goes', later⟩ := ih t' others pending
      refine ⟨chunks ++ chunks', goes.trans goes', ?_⟩
      rw [split, handsOut_piece_iff nonempty fits, later, spoils_append fine]
    | lost lost isEnd spoiled pending =>
      obtain ⟨chunk, inChunks, spoiled⟩ := spoiled
      obtain ⟨chunks', goes', -⟩ := ih t' others pending
      refine ⟨chunks ++ chunks', goes.trans goes',
        fun hands => absurd hands (not_handsOut_lost lost), fun none => ?_⟩
      exact absurd ⟨isEnd, chunk, List.mem_append_left _ inChunks, spoiled⟩ none

end Pending

/-! ## What is written -/

inductive WriteOp where
  | write (p : Bytes)
  | flush

/-- One call after another, with what they return and what they leave. -/
def writes {σ : Type} (io : Inner σ) : List WriteOp → Buffers → σ → List (Option Err) × Buffers × σ
  | [], t, s => ([], t, s)
  | .write p :: ops, t, s =>
    let rest := writes io ops (write p t) s
    (none :: rest.1, rest.2)
  | .flush :: ops, t, s =>
    let result := flush io t s
    let rest := writes io ops result.2.1 result.2.2
    (result.1 :: rest.1, rest.2)

/-- What is pending at each flush that has something to send. -/
def payloads (pending : Bytes) : List WriteOp → List Bytes
  | [] => []
  | .write p :: ops => payloads (pending ++ p) ops
  | .flush :: ops => if pending = [] then payloads [] ops else pending :: payloads [] ops

/-- The bytes written before the last flush, of those after some that are pending. -/
def flushed (pending : Bytes) : List WriteOp → Bytes
  | [] => []
  | .write p :: ops => flushed (pending ++ p) ops
  | .flush :: ops => pending ++ flushed [] ops

/-- An inner transport that takes what it is given. `sent` is all that it was given. -/
structure Sink {σ : Type} (io : Inner σ) (sent : σ → Bytes) : Prop where
  write (p : Bytes) (s : σ) : (io.write p s).1 = none ∧ sent (io.write p s).2 = sent s ++ p
  flush (s : σ) : (io.flush s).1 = none ∧ sent (io.flush s).2 = sent s

section Writing
variable {σ : Type} {io : Inner σ} {sent : σ → Bytes}

private theorem payloads_flatten (pending : Bytes) (ops : List WriteOp) :
    (payloads pending ops).flatten = flushed pending ops := by
  induction ops generalizing pending with
  | nil => rfl
  | cons op ops ih =>
    cases op with
    | write p => exact ih _
    | flush =>
      rw [payloads, flushed, ← ih]
      split
      · next none => rw [none, List.nil_append]
      · rfl

private theorem payloads_nonempty (emitted : p ∈ payloads pending ops) : p ≠ [] := by
  induction ops generalizing pending with
  | nil => cases emitted
  | cons op ops ih =>
    cases op with
    | write q => exact ih emitted
    | flush =>
      rw [payloads] at emitted
      split at emitted
      · exact ih emitted
      · next some =>
        rcases List.mem_cons.mp emitted with rfl | later
        · exact some
        · exact ih later

/-- A buffer that is not too large goes out as one frame, if it holds anything. -/
private theorem flush_sent (sink : Sink io sent) (s : σ) (small : t.wbuf.length ≤ saslMaxFrame) :
    ∃ after, flush io t s = (none, { t with wbuf := [] }, after) ∧
      sent after = sent s ++ if t.wbuf = [] then [] else frame t.wbuf := by
  rw [flush, if_neg (Nat.not_lt.mpr small)]
  obtain ⟨wbuf, rbuf⟩ := t
  cases wbuf with
  | nil =>
    obtain ⟨ok, same⟩ := sink.flush s
    refine ⟨(io.flush s).2, ?_, by rw [same, if_pos rfl, List.append_nil]⟩
    change ((io.flush s).1, Buffers.mk [] rbuf, (io.flush s).2) = _
    rw [ok]
  | cons c cs =>
    obtain ⟨ok₁, sent₁⟩ := sink.write (putUint32 (c :: cs).length) s
    cases header : io.write (putUint32 (c :: cs).length) s with
    | mk r₁ s₁ =>
      rw [header] at ok₁ sent₁
      obtain ⟨ok₂, sent₂⟩ := sink.write (c :: cs) s₁
      cases body : io.write (c :: cs) s₁ with
      | mk r₂ s₂ =>
        rw [body] at ok₂ sent₂
        obtain ⟨ok₃, sent₃⟩ := sink.flush s₂
        subst ok₁ ok₂
        refine ⟨(io.flush s₂).2, ?_, ?_⟩
        · rw [if_neg nofun]
          dsimp only
          rw [body]
          dsimp only
          rw [ok₃]
        · rw [sent₃, sent₂, sent₁, if_neg nofun, frame, List.append_assoc]

private theorem writes_sent (sink : Sink io sent)
    (small : ∀ p ∈ payloads t.wbuf ops, p.length ≤ saslMaxFrame) :
    (∀ r ∈ (writes io ops t s).1, r = none) ∧
      sent (writes io ops t s).2.2 = sent s ++ wire (payloads t.wbuf ops) := by
  induction ops generalizing t s with
  | nil => exact ⟨nofun, (List.append_nil _).symm⟩
  | cons op ops ih =>
    cases op with
    | write p =>
      obtain ⟨ok, all⟩ := ih (t := write p t) (s := s) small
      exact ⟨List.forall_mem_cons.mpr ⟨rfl, ok⟩, all⟩
    | flush =>
      rw [payloads] at small ⊢
      have smallHere : t.wbuf.length ≤ saslMaxFrame := by
        by_cases none : t.wbuf = []
        · rw [none]
          exact Nat.zero_le _
        · rw [if_neg none] at small
          exact small _ (.head _)
      obtain ⟨after, here, sentHere⟩ := flush_sent sink s smallHere
      have smallLater : ∀ p ∈ payloads [] ops, p.length ≤ saslMaxFrame := by
        intro p emitted
        refine small p ?_
        split
        · exact emitted
        · exact .tail _ emitted
      obtain ⟨ok, all⟩ := ih (t := { t with wbuf := [] }) (s := after) smallLater
      rw [writes, here]
      refine ⟨List.forall_mem_cons.mpr ⟨rfl, ok⟩, ?_⟩
      dsimp only
      rw [all, sentHere, List.append_assoc]
      split
      · rfl
      · rfl

end Writing

/-! ## Both sides -/

private theorem wholeWithin_all (all : (wire stream).length ≤ k) :
    wholeWithin k stream = stream := by
  induction stream generalizing k with
  | nil => rfl
  | cons p rest ih =>
    have length : (wire (p :: rest)).length = 4 + p.length + (wire rest).length := by
      rw [← length_frame, ← List.length_append]
      rfl
    rw [wholeWithin, if_pos (by omega), ih (by omega)]

private theorem flatten_nonempty (stream : List Bytes) :
    (stream.filter fun p => decide (p ≠ [])).flatten = stream.flatten := by
  induction stream with
  | nil => rfl
  | cons p rest ih =>
    cases p with
    | nil => exact ih
    | cons c cs => exact congrArg ((c :: cs) ++ ·) ih

section BothSides
variable {σ τ : Type}

/-- What was written before the last flush is on the wire, in frames that are not empty.
A flush of too much sends nothing. -/
structure SentWhole (io : Inner σ) (sent : σ → Bytes) (ops : List WriteOp) (s : σ) : Prop where
  accepted : ∀ r ∈ (writes io ops ⟨[], []⟩ s).1, r = none
  framed : sent (writes io ops ⟨[], []⟩ s).2.2 = sent s ++ wire (payloads [] ops)
  nonempty : ∀ p ∈ payloads [] ops, p ≠ []
  refused : ∀ (other : Inner σ) (t : Buffers) (s : σ), t.wbuf.length > saslMaxFrame →
    flush other t s = (some frameTooLarge, t, s)

/-- What is read of a stream that is cut after `k` bytes: the frames that are whole and
then nothing but errors. If nothing is cut off, it is what was written. -/
structure ReadBack (ops : List WriteOp) (stream : List Bytes) (k : Nat) (lens : List Nat)
    (results : List (Except Err Bytes)) : Prop where
  handsOut : HandsOut (wholeWithin k stream).flatten lens results
  whole : (wire stream).length ≤ k → HandsOut (flushed [] ops) lens results ∧
    ∀ err, .error err ∈ results → returned results = flushed [] ops

/-- The frame at the end of the stream comes with an error that is not its end. -/
def LosesLast (src : Logged Err τ) (stream : List Bytes) (k : Nat) (start final : τ) : Prop :=
  EndsWithData k stream ∧ ∃ chunk ∈ src.since start final, chunk.Spoiled src.isEOF

variable {ops : List WriteOp} {stream : List Bytes} {k : Nat} {lens : List Nat}
  {results : List (Except Err Bytes)}

private theorem readBack_iff
    (interposed : (stream.filter fun p => decide (p ≠ [])) = payloads [] ops) :
    ReadBack ops stream k lens results ↔ HandsOut (wholeWithin k stream).flatten lens results := by
  refine ⟨fun back => back.handsOut, fun hands => ⟨hands, fun uncut => ?_⟩⟩
  rw [wholeWithin_all uncut, ← flatten_nonempty, interposed, payloads_flatten] at hands
  exact ⟨hands, fun err failed => hands.returned_all failed⟩

private theorem reads_back_iff (base : Inner τ) (src : Logged Err τ) (room : Nat → Nat)
    (roomy : ∀ n, 0 < room n) (small : ∀ p ∈ payloads [] ops, p.length ≤ saslMaxFrame)
    (roomFor : ∀ len ∈ lens, 0 < len)
    (interposed : (stream.filter fun p => decide (p ≠ [])) = payloads [] ops)
    (here : src.rest start = (wire stream).take k) :
    ReadBack ops stream k lens (reads base src.toSource room roomy lens ⟨[], []⟩ start).1 ↔
      ¬LosesLast src stream k start
        (reads base src.toSource room roomy lens ⟨[], []⟩ start).2 := by
  have smallStream : ∀ p ∈ stream, p.length ≤ saslMaxFrame := by
    intro p inStream
    by_cases none : p = []
    · rw [none]
      exact Nat.zero_le _
    · exact small p (interposed ▸ List.mem_filter.mpr ⟨inStream, by simpa using none⟩)
  obtain ⟨chunks, goes, hands⟩ := reads_pending base room roomy ⟨[], []⟩ roomFor
    ⟨stream, k, smallStream, here, rfl, fun _ => Iff.rfl⟩
  rw [readBack_iff interposed, LosesLast, goes.since_eq]
  exact hands

/-- What was written before the last flush is on the wire, and the other side reads it:
piece by piece, whatever empty frames come in between, however the stream is read and
whatever the buffers are. Only a frame with data at the end of the stream is lost, if its
bytes come with an error that is not the end of the stream. -/
theorem data_frames_carry_the_stream_iff (io : Inner σ) (sent : σ → Bytes) (sink : Sink io sent)
    (ops : List WriteOp) (s : σ) (small : ∀ p ∈ payloads [] ops, p.length ≤ saslMaxFrame)
    (base : Inner τ) (src : Logged Err τ) (room : Nat → Nat) (roomy : ∀ n, 0 < room n) (start : τ)
    (lens : List Nat) (roomFor : ∀ len ∈ lens, 0 < len) (stream : List Bytes)
    (interposed : (stream.filter fun p => decide (p ≠ [])) = payloads [] ops) (k : Nat)
    (here : src.rest start = (wire stream).take k) :
    SentWhole io sent ops s ∧
      (ReadBack ops stream k lens (reads base src.toSource room roomy lens ⟨[], []⟩ start).1 ↔
        ¬LosesLast src stream k start
          (reads base src.toSource room roomy lens ⟨[], []⟩ start).2) := by
  obtain ⟨ok, onWire⟩ := writes_sent sink (t := ⟨[], []⟩) (s := s) small
  exact ⟨⟨ok, onWire, fun p emitted => payloads_nonempty emitted,
    fun other t s tooMuch => if_pos tooMuch⟩,
    reads_back_iff base src room roomy small roomFor interposed here⟩

end BothSides

/-- `io.EOF` itself, and no error that wraps it. -/
def isEOF : Err → Bool
  | .node .eof [] => true
  | _ => false

/-- A stream that is read as far as there is room, and ends with an error together with the
last bytes. -/
def eager (err : Err) : Logged Err (Bytes × List (ByteReader.Chunk Err)) :=
  (ByteReader.inMemory err isEOF).logging

/-- A transport that keeps what it is given and reads nothing. -/
def keeper (σ : Type) : Inner (Bytes × σ) where
  isOpen _ := true
  openInner s := (none, s)
  write p s := (none, s.1 ++ p, s.2)
  flush s := (none, s)
  readFull _ s := (.error (.leaf .eof), s)
  readAll _ s := (.error (.leaf .eof), s)

/-- The stream is cut before the last byte of its third frame, and what comes last comes with
an error: the frames before are read. -/
theorem cut_stream_is_read_to_the_cut :
    let ops : List WriteOp := [.write [1, 2], .write [3], .flush, .flush, .write [4, 5], .flush]
    SentWhole (keeper Unit) Prod.fst ops ([], ()) ∧
      ReadBack ops [[], [1, 2, 3], [4, 5]] 16 [2, 2, 5]
        (reads (keeper _) (eager (.node .transport [.leaf .eof])).toSource (fun _ => 512)
          (fun _ => by decide) [2, 2, 5] ⟨[], []⟩
          ([0, 0, 0, 0, 0, 0, 0, 3, 1, 2, 3, 0, 0, 0, 2, 4], [])).1 := by
  intro ops
  obtain ⟨sent, back⟩ := data_frames_carry_the_stream_iff (keeper Unit) Prod.fst
    ⟨fun _ _ => ⟨rfl, rfl⟩, fun _ => ⟨rfl, rfl⟩⟩ ops ([], ()) (by decide) (keeper _)
    (eager (.node .transport [.leaf .eof])) (fun _ => 512) (fun _ => by decide)
    ([0, 0, 0, 0, 0, 0, 0, 3, 1, 2, 3, 0, 0, 0, 2, 4], []) [2, 2, 5] (by decide)
    [[], [1, 2, 3], [4, 5]] rfl 16 rfl
  exact ⟨sent, back.mpr fun loses => absurd loses.1.1 (by decide)⟩

/-- A frame whose last bytes come with an error that wraps `io.EOF`, as those of a TLS
connection that the peer closes do, is whole and is not read. -/
theorem frame_with_an_error_is_lost :
    ¬ReadBack [.write [1, 2], .write [3], .flush] [[1, 2, 3]] 7 [5]
      (reads (keeper _) (eager (.node .transport [.leaf .eof])).toSource (fun _ => 512)
        (fun _ => by decide) [5] ⟨[], []⟩ ([0, 0, 0, 3, 1, 2, 3], [])).1 := by
  let src := (eager (.node .transport [.leaf .eof])).toSource
  let start : Bytes × List (ByteReader.Chunk Err) := ([0, 0, 0, 3, 1, 2, 3], [])
  obtain ⟨hdr, ⟨bytes, log⟩, header, taken, rfl⟩ := full_enough (keeper _) src (fun _ => 512)
    (fun _ => by decide) (n := 4) (s := start) (by decide)
  have length : frameLength hdr = 3 := frameLength_header taken (by decide)
  have fails : ∃ err, (readFrame (readingFrom (keeper _) src (fun _ => 512) (fun _ => by decide))
      (frameLength hdr) ((src.rest start).drop 4, log)).1 = .error err := by
    rcases readFrame_cases (keeper _) src (fun _ => 512) (fun _ => by decide) (frameLength hdr)
      ((src.rest start).drop 4, log) with ⟨err, -, got⟩ | ⟨bytes, all, -⟩
    · exact ⟨err, congrArg Prod.fst got⟩
    · rw [length, ByteReader.readAll] at all
      cases all
  obtain ⟨err, fails⟩ := fails
  intro back
  have hands := back.handsOut
  rw [reads, read, fetch_cut (keeper _) src (fun _ => 512) (fun _ => by decide) header
    (length ▸ by decide) (Prod.ext fails rfl)] at hands
  exact not_handsOut_lost (by decide) hands

end HmsClient.Sasl
