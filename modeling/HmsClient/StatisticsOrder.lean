import HmsClient.Statistics
import Mathlib.Tactic.NormNum

/-! The order of date and timestamp bounds. A count is scaled to seconds and shifted to
year 1 in 64 bits, so an instant is the true one only up to the number of times that sum
wraps. Within a range of counts the order survives exactly when both ends wrap equally
often. -/
namespace HmsClient

/-- `time.Time.Before` on instants without a monotonic reading. -/
def Time.Before (t u : Time) : Prop :=
  t.unix < u.unix ∨ t.unix = u.unix ∧ t.nsec < u.nsec

instance (t u : Time) : Decidable (t.Before u) :=
  inferInstanceAs (Decidable (_ ∨ _))

/-- The two kinds of bound that are counts on the wire and instants in the API. -/
inductive BoundKind where
  | date
  | timestamp
  deriving DecidableEq

namespace BoundKind

def instant : BoundKind → Int64 → Time
  | date, count => dateFromThrift ⟨count⟩
  | timestamp, count => timestampFromThrift ⟨count⟩

/-- Seconds per unit of the count. -/
def scale : BoundKind → Int
  | date => 86400
  | timestamp => 1

/-- The second that `count` stands for, counted from year 1 without a bound. -/
def second (kind : BoundKind) (count : Int) : Int := count * kind.scale + 62135596800

/-- How often that second goes round the 64 bits it is kept in. -/
def wraps (kind : BoundKind) (count : Int) : Int :=
  (kind.second count + 9223372036854775808) / 18446744073709551616

end BoundKind

private theorem bmod_eq_sub_wraps (x : Int) :
    x.bmod 18446744073709551616 =
      x - (x + 9223372036854775808) / 18446744073709551616 * 18446744073709551616 := by
  rw [Int.bmod_eq_emod]
  split <;> omega

private theorem ofUnix_unix (sec : Int64) :
    (Time.ofUnix sec).unix + 62135596800 =
      (sec.toInt + 62135596800).bmod 18446744073709551616 := by
  have epoch : (62135596800 : Int64).toInt = 62135596800 := by decide
  simp only [Time.ofUnix, Int64.toInt_add, epoch]
  norm_num

/-- An instant is the second its count stands for, less the wraps. -/
theorem instant_unix (kind : BoundKind) (count : Int64) :
    (kind.instant count).unix + 62135596800 =
      kind.second count.toInt - kind.wraps count.toInt * 18446744073709551616 := by
  unfold BoundKind.wraps
  rw [← bmod_eq_sub_wraps]
  cases kind with
  | date =>
    have day : secondsPerDay.toInt = 86400 := by decide
    simp only [BoundKind.instant, dateFromThrift, ofUnix_unix, BoundKind.second, BoundKind.scale,
      Int64.toInt_mul, day]
    norm_num
  | timestamp =>
    simp [BoundKind.instant, timestampFromThrift, ofUnix_unix, BoundKind.second, BoundKind.scale]

private theorem instant_nsec (kind : BoundKind) (count : Int64) :
    (kind.instant count).nsec = 0 := by
  cases kind <;> rfl

/-- A count becomes the instant it stands for exactly when its second does not wrap. -/
theorem instant_exact_iff (kind : BoundKind) (count : Int64) :
    (kind.instant count).unix = count.toInt * kind.scale ↔ kind.wraps count.toInt = 0 := by
  have unix := instant_unix kind count
  unfold BoundKind.second at unix
  omega

private theorem before_iff (kind : BoundKind) (a b : Int64) :
    (kind.instant a).Before (kind.instant b) ↔
      kind.second a.toInt - kind.wraps a.toInt * 18446744073709551616 <
        kind.second b.toInt - kind.wraps b.toInt * 18446744073709551616 := by
  have unixA := instant_unix kind a
  have unixB := instant_unix kind b
  unfold Time.Before
  rw [instant_nsec, instant_nsec]
  omega

private theorem second_lt (kind : BoundKind) {a b : Int} (lt : a < b) :
    kind.second a < kind.second b := by
  cases kind <;> simp only [BoundKind.second, BoundKind.scale] <;> omega

private theorem wraps_le (kind : BoundKind) {a b : Int} (le : a ≤ b) :
    kind.wraps a ≤ kind.wraps b := by
  cases kind <;> simp only [BoundKind.wraps, BoundKind.second, BoundKind.scale] <;> omega

/-- One unit is less than a turn, so a wrap between neighbours reverses them. -/
private theorem reversed_at_wrap (kind : BoundKind) (a : Int)
    (wrap : kind.wraps a < kind.wraps (a + 1)) :
    kind.second (a + 1) - kind.wraps (a + 1) * 18446744073709551616 <
      kind.second a - kind.wraps a * 18446744073709551616 := by
  cases kind <;> simp only [BoundKind.wraps, BoundKind.second, BoundKind.scale] at wrap ⊢ <;> omega

/-- Where the ends wrap differently, some neighbours between them do. -/
private theorem exists_wrap (kind : BoundKind) (lo : Int) (n : Nat)
    (wrap : kind.wraps lo < kind.wraps (lo + n)) :
    ∃ m : Nat, m < n ∧ kind.wraps (lo + m) < kind.wraps (lo + m + 1) := by
  induction n with
  | zero => simp at wrap
  | succ n ih =>
    by_cases last : kind.wraps (lo + n) < kind.wraps (lo + n + 1)
    · exact ⟨n, by omega, last⟩
    · have same : lo + ((n + 1 : Nat) : Int) = lo + n + 1 := by push_cast; omega
      obtain ⟨m, lt, found⟩ := ih (by rw [same] at wrap; omega)
      exact ⟨m, by omega, found⟩

/-- Counts between `lo` and `hi` keep their order as instants exactly when the seconds of
`lo` and `hi` go round the 64 bits equally often. -/
theorem bounds_keep_order_iff (kind : BoundKind) (lo hi : Int64) (le : lo ≤ hi) :
    (∀ a b : Int64, lo ≤ a → a < b → b ≤ hi → (kind.instant a).Before (kind.instant b)) ↔
      kind.wraps lo.toInt = kind.wraps hi.toInt := by
  rw [Int64.le_iff_toInt_le] at le
  constructor
  · intro ordered
    apply Int.le_antisymm (wraps_le kind le)
    apply Int.not_lt.mp
    intro wrap
    obtain ⟨n, span⟩ := Int.le.dest le
    obtain ⟨m, lt, found⟩ := exists_wrap kind lo.toInt n (by rw [span]; exact wrap)
    have low := lo.le_toInt
    have high := hi.toInt_lt
    have atM : (Int64.ofInt (lo.toInt + m)).toInt = lo.toInt + m :=
      Int64.toInt_ofInt_of_le (by omega) (by omega)
    have atNext : (Int64.ofInt (lo.toInt + m + 1)).toInt = lo.toInt + m + 1 :=
      Int64.toInt_ofInt_of_le (by omega) (by omega)
    have before := ordered (Int64.ofInt (lo.toInt + m)) (Int64.ofInt (lo.toInt + m + 1))
      (by rw [Int64.le_iff_toInt_le, atM]; omega)
      (by rw [Int64.lt_iff_toInt_lt, atM, atNext]; omega)
      (by rw [Int64.le_iff_toInt_le, atNext]; omega)
    rw [before_iff, atM, atNext] at before
    exact absurd before (Int.not_lt.mpr (Int.le_of_lt (reversed_at_wrap kind _ found)))
  · intro same a b loA ab bHi
    rw [Int64.le_iff_toInt_le] at loA bHi
    rw [Int64.lt_iff_toInt_lt] at ab
    have first := wraps_le kind loA
    have middle := wraps_le kind (Int.le_of_lt ab)
    have final := wraps_le kind bHi
    have lt := second_lt kind ab
    rw [before_iff]
    have equal : kind.wraps a.toInt = kind.wraps b.toInt := by omega
    rw [equal]
    omega

/-- The years 1 to 9999 as day counts. -/
theorem bounds_keep_order_calendar :
    (-719162 : Int64) ≤ 2932896 ∧
      ∀ a b : Int64, -719162 ≤ a → a < b → b ≤ 2932896 →
        (BoundKind.date.instant a).Before (BoundKind.date.instant b) :=
  ⟨by decide, (bounds_keep_order_iff .date (-719162) 2932896 (by decide)).mpr (by decide)⟩

/-- A day count of `2 ^ 57` reads as the first of January 1970, and the second count just
past the year range reads as an instant before it. -/
theorem bounds_lose_order :
    (0 : Int64) < 144115188075855872 ∧
      dateFromThrift ⟨144115188075855872⟩ = dateFromThrift ⟨0⟩ ∧
      (9223371974719179007 : Int64) < 9223371974719179008 ∧
      (timestampFromThrift ⟨9223371974719179008⟩).Before
        (timestampFromThrift ⟨9223371974719179007⟩) := by
  decide

end HmsClient
