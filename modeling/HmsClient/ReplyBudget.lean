import HmsClient.ByteReader
import HmsClient.Errors
import Mathlib.Data.List.DropRight
import Mathlib.Order.WellFounded

/-! The budget of bytes for one reply. The transport that protocols read through counts what
it hands out since the last flush and reads no further than its limit, whatever the
transport below returns. Over HTTP the body is capped as well, one byte further, so that a
reply which is too long is reported by the budget and never ends like a whole one. -/
namespace HmsClient.ReplyBudget
open ByteReader (Bytes Chunk Source)

def defaultMaxResponseBytes : Int64 := 104857600

/-- An error of a read: `errTooLarge`, of the type `SIZE_LIMIT`, or one of the transport
below. -/
inductive Fault where
  | sizeLimit (limit : Int64)
  | inner (err : Err)

def Fault.err : Fault → Err
  | .sizeLimit limit => .node .protocol [.leaf (.other ("hms: response exceeds " ++
      toString limit.toInt ++ " bytes (see WithMaxResponseBytes)"))]
  | .inner err => err

/-- The wrapped transport. `given` is what its reads have returned so far; a `ReadByte` of
its own returns a byte or consumes none. -/
structure Inner (σ : Type) where
  read : Nat → σ → Chunk Err × σ
  readByte : Option (σ → Except Err UInt8 × σ)
  flush : σ → Option Err × σ
  remainingBytes : σ → UInt64
  given : σ → Bytes
  fits (len : Nat) (s : σ) : (read len s).1.bytes.length ≤ len
  read_given (len : Nat) (s : σ) : given (read len s).2 = given s ++ (read len s).1.bytes
  readByte_given {own : σ → Except Err UInt8 × σ} (s : σ) : readByte = some own →
    given (own s).2 = given s ++ (own s).1.toOption.toList
  flush_given (s : σ) : given (flush s).2 = given s

/-! ## The count -/

/-- `limit` and `read` of a `budgetTransport`. -/
structure Budget where
  limit : Int64
  read : Int64
  positive : 0 < limit.toInt
  counted : 0 ≤ read.toInt
  within : read.toInt ≤ limit.toInt

namespace Budget

private theorem zero_toInt : (0 : Int64).toInt = 0 := rfl

private theorem default_positive : 0 < defaultMaxResponseBytes.toInt := by decide

/-- The limit a transport gets, of which none is the default. -/
def effective (limit : Int64) : Int64 := if limit ≤ 0 then defaultMaxResponseBytes else limit

theorem effective_positive (limit : Int64) : 0 < (effective limit).toInt := by
  unfold effective
  split
  · exact default_positive
  · next positive => exact Int64.lt_iff_toInt_lt.mp (Int64.not_le.mp positive)

/-- `newBudgetTransport`. -/
def new (limit : Int64) : Budget where
  limit := effective limit
  read := 0
  positive := effective_positive limit
  counted := Int.le_of_eq zero_toInt.symm
  within := zero_toInt ▸ Int.le_of_lt (effective_positive limit)

def left (b : Budget) : Int64 := b.limit - b.read

theorem left_toInt (b : Budget) : b.left.toInt = b.limit.toInt - b.read.toInt := by
  have bound := b.limit.toInt_lt
  have counted := b.counted
  have within := b.within
  rw [left, Int64.toInt_sub]
  exact Int.bmod_eq_of_le (by omega) (by omega)

private theorem read_add (b : Budget) {n : Nat} (room : n ≤ b.left.toInt) :
    (b.read + .ofNat n).toInt = b.read.toInt + n := by
  have bound := b.limit.toInt_lt
  have counted := b.counted
  have left := b.left_toInt
  rw [Int64.toInt_add, Int64.toInt_ofNat_of_lt (by omega)]
  exact Int.bmod_eq_of_le (by omega) (by omega)

/-- `b.read += int64(n)`. -/
def charge (b : Budget) (n : Nat) (room : n ≤ b.left.toInt) : Budget where
  limit := b.limit
  read := b.read + .ofNat n
  positive := b.positive
  counted := by
    have counted := b.counted
    rw [b.read_add room]
    omega
  within := by
    have left := b.left_toInt
    rw [b.read_add room]
    omega

/-- `b.read = 0`. -/
def reset (b : Budget) : Budget where
  limit := b.limit
  read := 0
  positive := b.positive
  counted := Int.le_of_eq zero_toInt.symm
  within := zero_toInt ▸ Int.le_of_lt b.positive

/-- How many bytes were handed out of the budget. -/
def spent (b : Budget) : Nat := b.read.toInt.toNat

/-- How many bytes the budget has in all. -/
def size (b : Budget) : Nat := b.limit.toInt.toNat

theorem spent_le (b : Budget) : b.spent ≤ b.size := Int.toNat_le_toNat b.within

theorem left_eq (b : Budget) : b.left.toInt = (b.size - b.spent : Nat) := by
  have counted := b.counted
  have within := b.within
  rw [left_toInt, size, spent]
  omega

/-- `p[:left]`, if the buffer is longer than that. -/
def clip (b : Budget) (len : Nat) : Nat :=
  if (len : Int) > b.left.toInt then b.left.toInt.toNat else len

theorem clip_le (b : Budget) (len : Nat) : (b.clip len : Int) ≤ b.left.toInt := by
  have left := b.left_eq
  unfold clip
  split <;> omega

@[simp] theorem spent_charge (b : Budget) (n : Nat) (room : n ≤ b.left.toInt) :
    (b.charge n room).spent = b.spent + n := by
  have counted := b.counted
  rw [spent, charge, b.read_add room, spent]
  omega

end Budget

/-! ## The calls -/

section Calls
variable {σ : Type} (io : Inner σ)

private theorem clipped (b : Budget) (len : Nat) (s : σ) :
    ((io.read (b.clip len) s).1.bytes.length : Int) ≤ b.left.toInt :=
  Int.le_trans (Int.ofNat_le.mpr (io.fits _ s)) (b.clip_le len)

/-- `Read` into a buffer of some length. -/
def read (len : Nat) (b : Budget) (s : σ) : (Bytes × Option Fault) × Budget × σ :=
  if b.left ≤ 0 then (([], some (.sizeLimit b.limit)), b, s)
  else
    let chunk := (io.read (b.clip len) s).1
    ((chunk.bytes, chunk.err.map .inner), b.charge chunk.bytes.length (clipped io b len s),
      (io.read (b.clip len) s).2)

/-- `io.ReadFull` of a buffer for one byte, which reads until it gets the byte or an
error. -/
inductive FullByte : σ → Except Err UInt8 → σ → Prop where
  | got {s : σ} {c : UInt8} : (io.read 1 s).1.bytes = [c] → FullByte s (.ok c) (io.read 1 s).2
  | failed {s : σ} {err : Err} : (io.read 1 s).1.bytes = [] → (io.read 1 s).1.err = some err →
      FullByte s (.error err) (io.read 1 s).2
  | again {s s' : σ} {r : Except Err UInt8} : (io.read 1 s).1.bytes = [] →
      (io.read 1 s).1.err = none → FullByte (io.read 1 s).2 r s' → FullByte s r s'

/-- A byte from the transport below: by its own `ReadByte`, if it has one. -/
inductive InnerByte : σ → Except Err UInt8 → σ → Prop where
  | own {own : σ → Except Err UInt8 × σ} {s : σ} : io.readByte = some own →
      InnerByte s (own s).1 (own s).2
  | full {s s' : σ} {r : Except Err UInt8} : io.readByte = none → FullByte io s r s' →
      InnerByte s r s'

/-- `ReadByte`. -/
inductive ReadByte (b : Budget) (s : σ) : Except Fault UInt8 → Budget → σ → Prop where
  | refused : b.limit ≤ b.read → ReadByte b s (.error (.sizeLimit b.limit)) b s
  | byte {c : UInt8} {s' : σ} (room : ((1 : Nat) : Int) ≤ b.left.toInt) : ¬b.limit ≤ b.read →
      InnerByte io s (.ok c) s' → ReadByte b s (.ok c) (b.charge 1 room) s'
  | failed {err : Err} {s' : σ} : ¬b.limit ≤ b.read → InnerByte io s (.error err) s' →
      ReadByte b s (.error (.inner err)) b s'

def flush (b : Budget) (s : σ) : Option Err × Budget × σ :=
  ((io.flush s).1, b.reset, (io.flush s).2)

def remainingBytes (b : Budget) (s : σ) : UInt64 :=
  min (max b.left 0).toUInt64 (io.remainingBytes s)

/-! ## Runs -/

inductive Op where
  | read (len : Nat)
  | readByte
  | flush
  | remainingBytes
deriving DecidableEq

inductive Outcome where
  | read (bytes : Bytes) (fault : Option Fault)
  | byte (r : Except Fault UInt8)
  | flushed (err : Option Err)
  | remaining (n : UInt64)

/-- The bytes a call hands out. -/
def Outcome.delivered : Outcome → Bytes
  | .read bytes _ => bytes
  | .byte r => r.toOption.toList
  | .flushed _ | .remaining _ => []

/-- The fault a call to read ends in. -/
def Outcome.fault : Outcome → Option Fault
  | .read _ fault => fault
  | .byte (.error fault) => some fault
  | .byte (.ok _) | .flushed _ | .remaining _ => none

/-- One call, what it returns and what it leaves. -/
inductive Step (b : Budget) (s : σ) : Op → Outcome → Budget → σ → Prop where
  | read (len : Nat) : Step b s (.read len)
      (.read (read io len b s).1.1 (read io len b s).1.2) (read io len b s).2.1 (read io len b s).2.2
  | readByte {r : Except Fault UInt8} {b' : Budget} {s' : σ} : ReadByte io b s r b' s' →
      Step b s .readByte (.byte r) b' s'
  | flush : Step b s .flush (.flushed (flush io b s).1) (flush io b s).2.1 (flush io b s).2.2
  | remainingBytes : Step b s .remainingBytes (.remaining (remainingBytes io b s)) b s

abbrev Log := List (Op × Outcome)

/-- Calls one after another, in the order of the log. -/
inductive Runs (b : Budget) (s : σ) : Log → Budget → σ → Prop where
  | nil : Runs b s [] b s
  | snoc {log : Log} {op : Op} {out : Outcome} {b' b'' : Budget} {s' s'' : σ} :
      Runs b s log b' s' → Step io b' s' op out b'' s'' → Runs b s (log ++ [(op, out)]) b'' s''

/-- All bytes handed out. -/
def delivered (log : Log) : Bytes := log.flatMap fun call => call.2.delivered

/-- The bytes handed out since the last flush. -/
def sinceFlush (log : Log) : Bytes :=
  delivered (log.rtakeWhile fun call => call.1 ≠ .flush)

variable {io} {b b' : Budget} {s s' : σ} {op : Op} {out : Outcome}

/-! ### What one call does -/

private theorem fullByte_given (ran : FullByte io s r s') :
    io.given s' = io.given s ++ r.toOption.toList := by
  induction ran with
  | got one => rw [io.read_given, one]; rfl
  | failed none => rw [io.read_given, none]; rfl
  | again none _ _ ih => rw [ih, io.read_given, none, List.append_nil]

private theorem innerByte_given (ran : InnerByte io s r s') :
    io.given s' = io.given s ++ r.toOption.toList := by
  cases ran with
  | own has => exact io.readByte_given s has
  | full _ ran => exact fullByte_given ran

/-- A call hands out what the transport below returned, and the budget counts it. -/
private theorem step_counts (step : Step io b s op out b' s') :
    io.given s' = io.given s ++ out.delivered ∧ b'.limit = b.limit ∧
      b'.spent = if op = .flush then 0 else b.spent + out.delivered.length := by
  cases step with
  | read len =>
    rw [if_neg nofun]
    unfold read
    split
    · exact ⟨(List.append_nil _).symm, rfl, rfl⟩
    · exact ⟨io.read_given _ s, rfl, Budget.spent_charge b _ (clipped io b len s)⟩
  | readByte ran =>
    rw [if_neg nofun]
    cases ran with
    | refused => exact ⟨(List.append_nil _).symm, rfl, rfl⟩
    | byte room _ ran => exact ⟨innerByte_given ran, rfl, Budget.spent_charge b 1 room⟩
    | failed _ ran => exact ⟨innerByte_given ran, rfl, rfl⟩
  | flush => exact ⟨by rw [flush, io.flush_given]; exact (List.append_nil _).symm, rfl, rfl⟩
  | remainingBytes => exact ⟨(List.append_nil _).symm, rfl, rfl⟩

private theorem delivered_concat (log : Log) (call : Op × Outcome) :
    delivered (log ++ [call]) = delivered log ++ call.2.delivered := by
  simp [delivered]

private theorem sinceFlush_concat (log : Log) (op : Op) (out : Outcome) :
    sinceFlush (log ++ [(op, out)]) =
      if op = .flush then [] else sinceFlush log ++ out.delivered := by
  unfold sinceFlush
  rw [List.rtakeWhile_concat]
  by_cases flushes : op = .flush
  · simp [flushes, delivered]
  · simp [flushes, delivered]

private theorem runs_count {log : Log} (ran : Runs io b s log b' s') (fresh : b.spent = 0) :
    io.given s' = io.given s ++ delivered log ∧ b'.limit = b.limit ∧
      b'.spent = (sinceFlush log).length := by
  induction ran with
  | nil => exact ⟨(List.append_nil _).symm, rfl, fresh⟩
  | @snoc log op out _ _ _ _ _ step ih =>
    obtain ⟨given, limit, spent⟩ := ih
    obtain ⟨given', limit', spent'⟩ := step_counts step
    refine ⟨?_, limit'.trans limit, ?_⟩
    · rw [given', given, delivered_concat, List.append_assoc]
    · rw [spent', sinceFlush_concat]
      split
      · rfl
      · rw [List.length_append, spent]

/-! ### When the budget is used up -/

namespace Budget

theorem left_le_iff (b : Budget) : b.left ≤ 0 ↔ b.spent = b.size := by
  have left := b.left_eq
  have most := b.spent_le
  rw [Int64.le_iff_toInt_le, zero_toInt]
  omega

theorem limit_le_iff (b : Budget) : b.limit ≤ b.read ↔ b.spent = b.size := by
  have left := b.left_eq
  have whole := b.left_toInt
  have most := b.spent_le
  rw [Int64.le_iff_toInt_le]
  omega

theorem clip_pos (b : Budget) {len : Nat} (room : 0 < len) (unspent : ¬b.left ≤ 0) :
    0 < b.clip len := by
  have left := b.left_eq
  have most := b.spent_le
  have unspent := mt b.left_le_iff.mpr unspent
  unfold clip
  split <;> omega

end Budget

/-- A call that asks for bytes. -/
def Op.Demands : Op → Prop
  | .read len => 0 < len
  | .readByte => True
  | .flush | .remainingBytes => False

/-- How a call ends once the budget is used up. -/
def Op.refusal (limit : Int64) : Op → Option Outcome
  | .read _ => some (.read [] (some (.sizeLimit limit)))
  | .readByte => some (.byte (.error (.sizeLimit limit)))
  | .flush | .remainingBytes => none

private theorem step_refused (full : b.spent = b.size) (reads : op.refusal b.limit = some refusal) :
    Step io b s op out b' s' ↔ out = refusal ∧ b' = b ∧ s' = s := by
  cases op with
  | read len =>
    cases reads
    have refused : read io len b s = (([], some (.sizeLimit b.limit)), b, s) :=
      if_pos (b.left_le_iff.mpr full)
    have only : Step io b s (.read len) (.read [] (some (.sizeLimit b.limit))) b s := by
      have step : Step io b s (.read len) _ _ _ := .read len
      rwa [refused] at step
    constructor
    · intro step
      cases step
      rw [refused]
      exact ⟨rfl, rfl, rfl⟩
    · rintro ⟨rfl, rfl, rfl⟩
      exact only
  | readByte =>
    cases reads
    have full := b.limit_le_iff.mpr full
    constructor
    · intro step
      cases step with
      | readByte ran =>
        cases ran with
        | refused => exact ⟨rfl, rfl, rfl⟩
        | byte _ room => exact absurd full room
        | failed room => exact absurd full room
    · rintro ⟨rfl, rfl, rfl⟩
      exact .readByte (.refused full)
  | flush => cases reads
  | remainingBytes => cases reads

private theorem remainingBytes_toNat (b : Budget) (s : σ) :
    (remainingBytes io b s).toNat = min (b.size - b.spent) (io.remainingBytes s).toNat := by
  have positive : 0 ≤ b.left := Int64.le_iff_toInt_le.mpr (by simp [b.left_eq])
  have most : max b.left 0 = b.left := by
    show (if b.left ≤ 0 then 0 else b.left) = b.left
    split
    · next used => exact Int64.le_antisymm positive used
    · rfl
  have left : b.left.toNatClampNeg = b.size - b.spent := by
    rw [← Int64.toNat_toInt, b.left_eq, Int.toNat_natCast]
  rw [remainingBytes, UInt64.toNat_min, most, Int64.toNat_toUInt64_of_le positive, left]

/-- What a run leaves: the bytes handed out were the next ones of the transport below, those
since the last flush are charged to the budget one by one, a budget which is used up refuses
to read on, and what remains is told exactly. -/
structure Accounted (io : Inner σ) (limit : Int64) (s : σ) (log : Log) (b : Budget) (s' : σ) :
    Prop where
  ordered : io.given s' = io.given s ++ delivered log
  charged : b.spent = (sinceFlush log).length
  bounded : (sinceFlush log).length ≤ limit.toInt.toNat
  refuses {op : Op} {refusal : Outcome} : (sinceFlush log).length = limit.toInt.toNat →
    op.refusal limit = some refusal → ∀ {out : Outcome} {b' : Budget} {s'' : σ},
      Step io b s' op out b' s'' ↔ out = refusal ∧ b' = b ∧ s'' = s'
  remains : (remainingBytes io b s').toNat =
    min (limit.toInt.toNat - (sinceFlush log).length) (io.remainingBytes s').toNat

private theorem runs_accounted {log : Log} (ran : Runs io (.new limit) s log b s') :
    Accounted io (Budget.effective limit) s log b s' := by
  obtain ⟨ordered, same, charged⟩ := runs_count ran rfl
  have size : (Budget.effective limit).toInt.toNat = b.size := by rw [Budget.size, same]; rfl
  constructor
  case ordered => exact ordered
  case charged => exact charged
  case bounded => rw [size, ← charged]; exact b.spent_le
  case refuses =>
    intro op refusal full reads out b' s''
    rw [size, ← charged] at full
    exact step_refused full (same ▸ reads)
  case remains => rw [size, ← charged]; exact remainingBytes_toNat b s'

end Calls

/-! ## Over HTTP -/

/-- `responseCap`. -/
def responseCap (limit : Int64) : Int64 :=
  if Budget.effective limit = Int64.maxValue then Budget.effective limit
  else Budget.effective limit + 1

private theorem responseCap_ge (limit : Int64) :
    (Budget.effective limit).toInt ≤ (responseCap limit).toInt := by
  unfold responseCap
  split
  · exact Int.le_refl _
  · next less =>
    have below := (Budget.effective limit).toInt_lt
    have positive := Budget.effective_positive limit
    have most : (Budget.effective limit).toInt ≠ 2 ^ 63 - 1 := fun same =>
      less (Int64.toInt_inj.mp same)
    have one : (1 : Int64).toInt = 1 := rfl
    rw [Int64.toInt_add, one, Int.bmod_eq_of_le (by omega) (by omega)]
    omega

/-- A transport that reads the bodies of replies as `capBody` leaves them: `body` is the body
of the last reply and what its limit still allows. It fails only where the body does, though
not where the body had bytes for it, and its own `ReadByte` reads one byte. -/
structure Carrier {σ : Type} (limit : Int64) (src : Source Err σ) (τ : Type) where
  io : Inner τ
  body : τ → σ × Nat
  read_bytes (len : Nat) (t : τ) : (io.read len t).1.bytes =
    (ByteReader.limitedRead src len (body t) (.leaf .eof)).1.bytes
  read_body (len : Nat) (t : τ) : body (io.read len t).2 =
    (ByteReader.limitedRead src len (body t) (.leaf .eof)).2
  fails {len : Nat} {t : τ} : (io.read len t).1.err ≠ none →
    (ByteReader.limitedRead src len (body t) (.leaf .eof)).1.err ≠ none
  ends {len : Nat} {t : τ} : (io.read len t).1.err = none → (io.read len t).1.bytes = [] →
    (ByteReader.limitedRead src len (body t) (.leaf .eof)).1.err = none
  readByte_reads {own : τ → Except Err UInt8 × τ} (t : τ) : io.readByte = some own →
    ∃ r, FullByte io t r (own t).2 ∧ r.toOption = (own t).1.toOption
  flushed {t : τ} : (io.flush t).1 = none →
    (body (io.flush t).2).2 = (responseCap limit).toInt.toNat

namespace Carrier
variable {σ τ : Type} {limit : Int64} {src : Source Err σ} (http : Carrier limit src τ)

/-- What the body of the last reply still has, whatever its limit allows. -/
def content (t : τ) : Bytes := src.rest (http.body t).1

variable {http} {t t' : τ} {b b' : Budget} {op : Op} {out : Outcome}

variable (http) in
private theorem read_next (len : Nat) (t : τ) :
    http.content t = (http.io.read len t).1.bytes ++ http.content (http.io.read len t).2 ∧
      (http.body t).2 =
        (http.io.read len t).1.bytes.length + (http.body (http.io.read len t).2).2 := by
  rw [content, content, http.read_bytes, http.read_body]
  exact ByteReader.limitedRead_next src len (http.body t) _

private theorem read_fails (failed : (http.io.read len t).1.err ≠ none) :
    (http.body t).2 = 0 ∨ http.content (http.io.read len t).2 = [] := by
  rw [content, http.read_body]
  exact ByteReader.limitedRead_fails src len (http.body t) _ (http.fails failed)

private theorem measure_lt_of_byte (whole : http.content t = (c :: more) ++ http.content t') :
    src.measure (http.body t').1 < src.measure (http.body t).1 := by
  have whole := congrArg List.length whole
  rw [List.length_append, List.length_cons, content, content] at whole
  exact Prod.Lex.toLex_lt_toLex.mpr (.inl (by show (src.rest _).length < _; omega))

/-- Reading goes on towards the end of the body. -/
private theorem read_progress (room : 0 < len) (going : (http.io.read len t).1.err = none) :
    src.measure (http.body (http.io.read len t).2).1 < src.measure (http.body t).1 := by
  cases here : (http.io.read len t).1.bytes with
  | nil =>
    rw [http.read_body]
    exact ByteReader.limitedRead_progress src len (http.body t) _ room (http.ends going here)
  | cons c more => exact measure_lt_of_byte (here ▸ (read_next http len t).1)

variable (http) in
private theorem fullByte_returns (t : τ) : ∃ r t', FullByte http.io t r t' := by
  cases here : (http.io.read 1 t).1.bytes with
  | cons c more =>
    have fits := http.io.fits 1 t
    rw [here, List.length_cons] at fits
    have alone : more = [] := List.length_eq_zero_iff.mp (by omega)
    exact ⟨_, _, .got (here.trans (by rw [alone]))⟩
  | nil =>
    cases going : (http.io.read 1 t).1.err with
    | some err => exact ⟨_, _, .failed here going⟩
    | none =>
      obtain ⟨r, t', ran⟩ := fullByte_returns (http.io.read 1 t).2
      exact ⟨r, t', .again here going ran⟩
termination_by src.measure (http.body t).1
decreasing_by exact read_progress Nat.one_pos going

private theorem fullByte_next (ran : FullByte http.io t r t') :
    http.content t = r.toOption.toList ++ http.content t' ∧
      (http.body t).2 = r.toOption.toList.length + (http.body t').2 := by
  induction ran with
  | @got t c one =>
    have next := read_next http 1 t
    rwa [one] at next
  | @failed t _ none =>
    have next := read_next http 1 t
    rwa [none] at next
  | @again t _ _ none _ _ ih =>
    obtain ⟨content, limit⟩ := read_next http 1 t
    rw [none] at content limit
    rw [content, limit, ih.1, ih.2]
    simp

private theorem fullByte_fails (ran : FullByte http.io t r t') (failed : r.toOption = none) :
    (http.body t).2 = 0 ∨ http.content t' = [] := by
  induction ran with
  | got => cases failed
  | failed _ err => exact read_fails (by rw [err]; exact nofun)
  | @again t _ _ none _ _ ih =>
    have same := (read_next http 1 t).2
    rw [none, List.length_nil, Nat.zero_add] at same
    rw [same]
    exact ih failed

private theorem innerByte_full (ran : InnerByte http.io t r t') :
    ∃ r', FullByte http.io t r' t' ∧ r'.toOption = r.toOption := by
  cases ran with
  | own has => exact http.readByte_reads t has
  | full _ ran => exact ⟨r, ran, rfl⟩

private theorem innerByte_next (ran : InnerByte http.io t r t') :
    http.content t = r.toOption.toList ++ http.content t' ∧
      (http.body t).2 = r.toOption.toList.length + (http.body t').2 := by
  obtain ⟨r', full, same⟩ := innerByte_full ran
  exact same ▸ fullByte_next full

/-! ### What one call does -/

private theorem step_returns (b : Budget) (t : τ) (op : Op) :
    ∃ out b' t', Step http.io b t op out b' t' := by
  cases op with
  | read len => exact ⟨_, _, _, .read len⟩
  | flush => exact ⟨_, _, _, .flush⟩
  | remainingBytes => exact ⟨_, _, _, .remainingBytes⟩
  | readByte =>
    have inner : ∃ r t', InnerByte http.io t r t' := by
      cases has : http.io.readByte with
      | some own => exact ⟨_, _, .own has⟩
      | none =>
        obtain ⟨r, t', ran⟩ := fullByte_returns http t
        exact ⟨r, t', .full has ran⟩
    obtain ⟨r, t', ran⟩ := inner
    by_cases full : b.limit ≤ b.read
    · exact ⟨_, _, _, .readByte (.refused full)⟩
    cases r with
    | error err => exact ⟨_, _, _, .readByte (.failed full ran)⟩
    | ok c =>
      have room : ((1 : Nat) : Int) ≤ b.left.toInt := by
        have most := b.spent_le
        have unspent := mt b.limit_le_iff.mpr full
        rw [b.left_eq]
        omega
      exact ⟨_, _, _, .readByte (.byte room full ran)⟩

/-- A call that is no flush takes what it hands out off the body and off its limit. -/
private theorem step_next (step : Step http.io b t op out b' t') (calm : op ≠ .flush) :
    http.content t = out.delivered ++ http.content t' ∧
      (http.body t).2 = out.delivered.length + (http.body t').2 := by
  cases step with
  | read len =>
    unfold read
    split
    · exact ⟨rfl, (Nat.zero_add _).symm⟩
    · exact read_next http _ t
  | readByte ran =>
    cases ran with
    | refused => exact ⟨rfl, (Nat.zero_add _).symm⟩
    | byte _ _ ran => exact innerByte_next ran
    | failed _ ran => exact innerByte_next ran
  | flush => exact absurd rfl calm
  | remainingBytes => exact ⟨rfl, (Nat.zero_add _).symm⟩

/-- A call fails because the budget is used up, or at the end of the body. -/
private theorem step_fails (step : Step http.io b t op out b' t') (failed : out.fault = some fault) :
    (fault = .sizeLimit b.limit ∧ b.spent = b.size ∧ out.delivered = []) ∨
      (b.spent ≠ b.size ∧ ((http.body t).2 = 0 ∨ http.content t' = [])) := by
  cases step with
  | read len =>
    unfold read at failed ⊢
    split at failed
    · next full =>
      cases failed
      rw [if_pos full]
      exact .inl ⟨rfl, b.left_le_iff.mp full, rfl⟩
    · next unspent =>
      rw [if_neg unspent]
      refine .inr ⟨mt b.left_le_iff.mpr unspent, read_fails ?_⟩
      intro going
      dsimp only [Outcome.fault] at failed
      rw [going] at failed
      cases failed
  | readByte ran =>
    cases ran with
    | refused full =>
      cases failed
      exact .inl ⟨rfl, b.limit_le_iff.mp full, rfl⟩
    | byte => cases failed
    | failed unspent ran =>
      obtain ⟨r', full, same⟩ := innerByte_full ran
      exact .inr ⟨mt b.limit_le_iff.mpr unspent, fullByte_fails full same⟩
  | flush => cases failed
  | remainingBytes => cases failed

/-- Without an error, a call that asks for bytes brings the end of the body closer. -/
private theorem step_progress (step : Step http.io b t op out b' t') (demands : op.Demands)
    (going : out.fault = none) :
    src.measure (http.body t').1 < src.measure (http.body t).1 := by
  cases step with
  | read len =>
    unfold read at going ⊢
    split at going
    · cases going
    · next unspent =>
      rw [if_neg unspent]
      refine read_progress (b.clip_pos demands unspent) ?_
      exact Option.map_eq_none_iff.mp going
  | readByte ran =>
    cases ran with
    | refused => cases going
    | byte _ _ ran => exact measure_lt_of_byte (innerByte_next ran).1
    | failed => cases going
  | flush => exact demands.elim
  | remainingBytes => exact demands.elim

/-! ### Reading a reply -/

private theorem runs_next (ran : Runs http.io b t reply b' t') (fresh : b.spent = 0)
    (calm : ∀ call ∈ reply, call.1 ≠ .flush) :
    http.content t = delivered reply ++ http.content t' ∧
      (http.body t).2 = (delivered reply).length + (http.body t').2 ∧
      b'.limit = b.limit ∧ b'.spent = (delivered reply).length := by
  induction ran with
  | nil => exact ⟨rfl, (Nat.zero_add _).symm, rfl, fresh⟩
  | @snoc reply op out _ _ _ _ _ step ih =>
    obtain ⟨content, allowed, limit, spent⟩ := ih fun call member =>
      calm call (List.mem_append_left _ member)
    have still : op ≠ .flush := calm (op, out) (List.mem_append_right _ (List.mem_singleton_self _))
    obtain ⟨content', allowed'⟩ := step_next step still
    obtain ⟨-, limit', spent'⟩ := step_counts step
    rw [if_neg still] at spent'
    rw [delivered_concat, List.length_append, content, content', allowed, allowed', spent', spent]
    exact ⟨(List.append_assoc _ _ _).symm, (Nat.add_assoc _ _ _).symm, limit'.trans limit, rfl⟩

/-- From the flush on, a reply is handed out as far as the limit goes before any call fails,
and a call fails with the budget's error if the body goes further. Every call returns, and
calls that ask for bytes come to an error in the end. -/
structure HandsOut (http : Carrier limit src τ) (b : Budget) (t : τ) : Prop where
  fails {reply : Log} {b' b'' : Budget} {t' t'' : τ} {op : Op} {out : Outcome} {fault : Fault} :
    Runs http.io b t reply b' t' → (∀ call ∈ reply, call.1 ≠ .flush) →
    Step http.io b' t' op out b'' t'' → out.fault = some fault →
      delivered (reply ++ [(op, out)]) =
        (http.content t).take (Budget.effective limit).toInt.toNat ∧
      ((Budget.effective limit).toInt.toNat < (http.content t).length →
        fault = .sizeLimit (Budget.effective limit))
  returns (b' : Budget) (t' : τ) (op : Op) : ∃ out b'' t'', Step http.io b' t' op out b'' t''
  ends {path : Nat → Budget × τ} {calls : Nat → Op × Outcome} : path 0 = (b, t) →
    (∀ n, Step http.io (path n).1 (path n).2 (calls n).1 (calls n).2
      (path (n + 1)).1 (path (n + 1)).2) →
    (∀ n, (calls n).1.Demands) → ∃ n fault, (calls n).2.fault = some fault

private theorem fails_after {b'' : Budget} (ran : Runs http.io b t reply b' t')
    (fresh : b.spent = 0) (limited : b.limit = Budget.effective limit)
    (allowed : (http.body t).2 = (responseCap limit).toInt.toNat)
    (calm : ∀ call ∈ reply, call.1 ≠ .flush) (step : Step http.io b' t' op out b'' t'')
    (failed : out.fault = some fault) :
    delivered (reply ++ [(op, out)]) =
        (http.content t).take (Budget.effective limit).toInt.toNat ∧
      ((Budget.effective limit).toInt.toNat < (http.content t).length →
        fault = .sizeLimit (Budget.effective limit)) := by
  obtain ⟨content, taken, same, spent⟩ := runs_next ran fresh calm
  have size : (Budget.effective limit).toInt.toNat = b'.size := by
    rw [Budget.size, same, limited]
  have wide : b'.size ≤ (responseCap limit).toInt.toNat :=
    size ▸ Int.toNat_le_toNat (responseCap_ge limit)
  rw [size]
  rcases step_fails step failed with ⟨refused, full, none⟩ | ⟨unspent, ended⟩
  · rw [delivered_concat, none, List.append_nil, content, ← full, spent, List.take_left]
    exact ⟨rfl, fun _ => by rw [refused, same, limited]⟩
  · have still : op ≠ .flush := by rintro rfl; cases step; cases failed
    obtain ⟨whole, -, same', spent'⟩ := runs_next (.snoc ran step) fresh
      (List.forall_mem_append.mpr ⟨calm, List.forall_mem_singleton.mpr still⟩)
    have most : b''.spent ≤ b'.size := by
      have most := b''.spent_le
      rwa [Budget.size, same', ← same] at most
    have least := b'.spent_le
    rcases ended with closed | ended
    · omega
    · rw [ended, List.append_nil] at whole
      rw [whole, List.take_of_length_le (spent' ▸ most)]
      exact ⟨rfl, fun longer => absurd longer (Nat.not_lt.mpr (spent' ▸ most))⟩

private theorem ends_in_fault {path : Nat → Budget × τ} {calls : Nat → Op × Outcome}
    (steps : ∀ n, Step http.io (path n).1 (path n).2 (calls n).1 (calls n).2
      (path (n + 1)).1 (path (n + 1)).2)
    (demands : ∀ n, (calls n).1.Demands) : ∃ n fault, (calls n).2.fault = some fault := by
  -- otherwise the bodies left by the calls would descend forever
  obtain ⟨n, stuck⟩ := WellFounded.not_rel_apply_succ (r := (· < ·))
    fun n => src.measure (http.body (path n).2).1
  have failed := mt (step_progress (steps n) (demands n)) stuck
  exact ⟨n, Option.ne_none_iff_exists'.mp failed⟩

end Carrier

/-- A budget of any limit, over any transport and any calls, is charged one by one for the
bytes since the last flush, which are the next ones of the transport, and refuses to go
further. Over HTTP a reply is handed out as far as the limit goes and ends in the budget's
error if it is longer. -/
theorem reply_stays_within_its_budget (limit : Int64) :
    (∀ {σ : Type} (io : Inner σ) {s s' : σ} {log : Log} {b : Budget},
      Runs io (.new limit) s log b s' → Accounted io (Budget.effective limit) s log b s') ∧
    ∀ {σ τ : Type} {src : Source Err σ} (http : Carrier limit src τ) {s t : τ} {log : Log}
      {b : Budget}, Runs http.io (.new limit) s log b t → (http.io.flush t).1 = none →
        http.HandsOut (flush http.io b t).2.1 (flush http.io b t).2.2 := by
  refine ⟨fun io _ _ _ _ ran => runs_accounted ran, ?_⟩
  intro σ τ src http s t log b ran sent
  obtain ⟨-, same, -⟩ := runs_count ran rfl
  exact {
    fails := fun ran calm step failed =>
      Carrier.fails_after ran rfl same (http.flushed sent) calm step failed
    returns := Carrier.step_returns
    ends := fun _ steps demands => Carrier.ends_in_fault steps demands }

/-- A transport without a `ReadByte` of its own, over which every request is answered by the
same reply. -/
def answering {σ : Type} (limit : Int64) (src : Source Err σ) (reply : σ) :
    Carrier limit src ((σ × Nat) × Bytes) where
  io := {
    read := fun len t =>
      let chunk := ByteReader.limitedRead src len t.1 (.leaf .eof)
      (chunk.1, chunk.2, t.2 ++ chunk.1.bytes)
    readByte := none
    flush := fun t => (none, (reply, (responseCap limit).toInt.toNat), t.2)
    remainingBytes := fun _ => 18446744073709551615
    given := Prod.snd
    fits := fun len t => Nat.le_trans (ByteReader.limitedRead_fits src len t.1 _) (Nat.min_le_left _ _)
    read_given := fun _ _ => rfl
    readByte_given := nofun
    flush_given := fun _ => rfl }
  body := Prod.fst
  read_bytes _ _ := rfl
  read_body _ _ := rfl
  fails failed := failed
  ends going _ := going
  readByte_reads := nofun
  flushed _ := rfl

/-- Replies of three bytes under a limit of two. -/
def threeBytes : Carrier 2 (ByteReader.inMemory (.leaf .eof) (fun _ => true))
    ((Bytes × Nat) × Bytes) :=
  answering 2 _ [1, 2, 3]

/-- Two bytes are handed out, the third is refused. -/
theorem third_byte_is_refused : ∃ b t,
    Runs threeBytes.io (.new 2) (([], 0), [])
      [(.flush, .flushed none), (.read 5, .read [1, 2] none)] b t ∧
    (∀ {out b' t'}, Step threeBytes.io b t .readByte out b' t' ↔
      out = .byte (.error (.sizeLimit 2)) ∧ b' = b ∧ t' = t) ∧
    threeBytes.HandsOut (flush threeBytes.io (.new 2) (([], 0), [])).2.1
      (flush threeBytes.io (.new 2) (([], 0), [])).2.2 := by
  have start : Runs threeBytes.io (.new 2) (([], 0), []) [] _ _ := .nil
  have ran := (start.snoc .flush).snoc (.read 5)
  have accounted := (reply_stays_within_its_budget 2).1 _ ran
  exact ⟨_, _, ran, accounted.refuses rfl rfl,
    (reply_stays_within_its_budget 2).2 threeBytes .nil rfl⟩

end HmsClient.ReplyBudget
