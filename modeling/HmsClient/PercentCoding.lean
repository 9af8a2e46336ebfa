import Mathlib.Data.List.Basic

/-! Percent-encoding of byte strings. Bytes that a test marks are written as a percent sign
and two hexadecimal digits, the others as they are. If the percent sign is marked itself,
decoding is the inverse, and a marked byte other than the percent sign and the digits
cannot occur in what is written, so it is free to separate encoded strings. -/
namespace HmsClient.PercentCoding

abbrev Bytes := List UInt8

/-- The upper-case digit of a number below 16. -/
def hexDigit (n : Nat) : UInt8 := if n < 10 then .ofNat (48 + n) else .ofNat (55 + n)

/-- The number of a digit of either case. -/
def unhex (b : UInt8) : Option Nat :=
  if 48 ≤ b && b ≤ 57 then some (b.toNat - 48)
  else if 65 ≤ b && b ≤ 70 then some (b.toNat - 55)
  else if 97 ≤ b && b ≤ 102 then some (b.toNat - 87)
  else none

def encodeByte (marked : UInt8 → Bool) (b : UInt8) : Bytes :=
  if marked b then [37, hexDigit (b.toNat / 16), hexDigit (b.toNat % 16)] else [b]

def encode (marked : UInt8 → Bool) (s : Bytes) : Bytes := s.flatMap (encodeByte marked)

/-- A percent sign without two digits after it stands for itself. -/
def decode : Bytes → Bytes
  | [] => []
  | b :: [] => [b]
  | b :: b' :: [] => [b, b']
  | b :: high :: low :: rest =>
    if b = 37 then
      match unhex high, unhex low with
      | some h, some l => .ofNat (h * 16 + l) :: decode rest
      | _, _ => b :: decode (high :: low :: rest)
    else b :: decode (high :: low :: rest)

@[simp] theorem unhex_hexDigit (below : n < 16) : unhex (hexDigit n) = some n := by
  have all : ∀ n < 16, unhex (hexDigit n) = some n := by decide
  exact all n below

@[simp] theorem decode_escaped (b : UInt8) (rest : Bytes) :
    decode (37 :: hexDigit (b.toNat / 16) :: hexDigit (b.toNat % 16) :: rest) =
      b :: decode rest := by
  have bound : b.toNat < 256 := b.toNat_lt
  have whole : b.toNat / 16 * 16 + b.toNat % 16 = b.toNat := by omega
  rw [decode, if_pos rfl, unhex_hexDigit (by omega), unhex_hexDigit (by omega)]
  simp only [whole, UInt8.ofNat_toNat]

@[simp] theorem decode_plain (plain : b ≠ 37) (rest : Bytes) :
    decode (b :: rest) = b :: decode rest := by
  match rest with
  | [] => rfl
  | [_] => rfl
  | _ :: _ :: _ => rw [decode, if_neg plain]

theorem decode_encodeByte (percent : marked 37 = true) (b : UInt8) (rest : Bytes) :
    decode (encodeByte marked b ++ rest) = b :: decode rest := by
  unfold encodeByte
  cases escaped : marked b with
  | true => exact decode_escaped b rest
  | false =>
    have plain : b ≠ 37 := fun same => by simp [same, percent] at escaped
    exact decode_plain plain rest

/-- Decoding undoes encoding. -/
theorem decode_encode (percent : marked 37 = true) (s : Bytes) :
    decode (encode marked s) = s := by
  induction s with
  | nil => rfl
  | cons b rest ih =>
    rw [encode, List.flatMap_cons, decode_encodeByte percent]
    exact congrArg (b :: ·) ih

theorem hexDigit_ne (notDigit : unhex sep = none) (below : n < 16) : hexDigit n ≠ sep :=
  fun same => by simp [← same, below] at notDigit

/-- A marked byte that is neither the percent sign nor a digit is not written. -/
theorem separator_not_mem_encode (separates : marked sep = true) (notPercent : sep ≠ 37)
    (notDigit : unhex sep = none) (s : Bytes) : sep ∉ encode marked s := by
  rw [encode, List.mem_flatMap]
  rintro ⟨b, _, written⟩
  have bound : b.toNat < 256 := b.toNat_lt
  unfold encodeByte at written
  cases escaped : marked b with
  | true =>
    rw [escaped, if_pos rfl] at written
    simp only [List.mem_cons, List.not_mem_nil, or_false] at written
    rcases written with percent | high | low
    · exact notPercent percent
    · exact hexDigit_ne notDigit (by omega) high.symm
    · exact hexDigit_ne notDigit (by omega) low.symm
  | false =>
    rw [escaped, if_neg Bool.false_ne_true, List.mem_singleton] at written
    rw [← written, separates] at escaped
    cases escaped

/-- A string that holds no marked byte is written as it is. -/
theorem encode_unmarked (unmarked : ∀ b ∈ s, marked b = false) : encode marked s = s := by
  induction s with
  | nil => rfl
  | cons b rest ih =>
    have head : encodeByte marked b = [b] := by
      rw [encodeByte, unmarked b List.mem_cons_self, if_neg Bool.false_ne_true]
    have tail := ih fun b' member => unmarked b' (List.mem_cons_of_mem _ member)
    rw [encode, List.flatMap_cons, head]
    exact congrArg (b :: ·) tail

/-- Each marked byte is written with one percent sign. -/
theorem count_percent_encode (percent : marked 37 = true) (s : Bytes) :
    (encode marked s).count 37 = s.countP marked := by
  induction s with
  | nil => rfl
  | cons b rest ih =>
    have head : (encodeByte marked b).count 37 = if marked b then 1 else 0 := by
      have bound : b.toNat < 256 := b.toNat_lt
      unfold encodeByte
      split
      · have high : hexDigit (b.toNat / 16) ≠ 37 := hexDigit_ne rfl (by omega)
        have low : hexDigit (b.toNat % 16) ≠ 37 := hexDigit_ne rfl (by omega)
        simp [high, low]
      · next unmarked =>
        have plain : b ≠ 37 := fun same => unmarked (same ▸ percent)
        simp [plain]
    rw [encode, List.flatMap_cons, List.count_append, List.countP_cons, head]
    exact (Nat.add_comm _ _).trans (congrArg (· + _) ih)

/-- A percent sign is written as "%25", so there are that many digits 2 more at least. -/
theorem count_two_encode (percent : marked 37 = true) (digit : marked 50 = false) (s : Bytes) :
    s.count 50 + s.count 37 ≤ (encode marked s).count 50 := by
  induction s with
  | nil => exact Nat.le_refl 0
  | cons b rest ih =>
    have head : [b].count 50 + [b].count 37 ≤ (encodeByte marked b).count 50 := by
      by_cases isTwo : b = 50
      · subst isTwo
        simp [encodeByte, digit]
      · by_cases isPercent : b = 37
        · subst isPercent
          rw [encodeByte, if_pos percent]
          decide
        · simp [isTwo, isPercent]
    rw [encode, List.flatMap_cons, List.count_append, List.count_cons, List.count_cons]
    rw [List.count_singleton, List.count_singleton] at head
    rw [encode] at ih
    omega

/-- Encoding that changes neither the number of percent signs nor that of digits 2 has
nothing to mark. -/
theorem unmarked_of_counts (percent : marked 37 = true) (digit : marked 50 = false)
    (percents : (encode marked s).count 37 = s.count 37)
    (twos : (encode marked s).count 50 = s.count 50) : ∀ b ∈ s, marked b = false := by
  have written := count_percent_encode percent s
  have more := count_two_encode percent digit s
  have none : s.countP marked = 0 := by omega
  intro b member
  simpa using List.countP_eq_zero.mp none b member

end HmsClient.PercentCoding
