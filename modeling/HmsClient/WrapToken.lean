import HmsClient.SliceMemory
import Mathlib.Data.List.Rotate

/-! The rotation of a wrap token's data. The server may send payload and checksum rotated
right by the count in the RRC field of the header; `unrotateWrapToken` turns them back in
a copy, by two copies that overlap the two parts of the received data. -/
namespace HmsClient.Gssapi

open SliceMemory

/-- `gssapi.HdrLen`. -/
def hdrLen : Nat := 16

/-- `binary.BigEndian.Uint16`. -/
def bigEndianUint16 (b : List UInt8) : UInt16 :=
  (b.getD 1 0).toUInt16 ||| ((b.getD 0 0).toUInt16 <<< 8)

/-- The octets that `binary.BigEndian.PutUint16` writes. -/
def putUint16 (v : UInt16) : List UInt8 := [(v >>> 8).toUInt8, v.toUInt8]

/-- A slicing out of range, which would panic, is `none`. -/
def unrotateWrapToken (b : SliceRef) (memory : SliceMemory UInt8) :
    Option (Except String SliceRef × SliceMemory UInt8) :=
  if b.len < hdrLen then
    some (.error "hms: kerberos: wrap token shorter than its header", memory)
  else do
    let data ← b.sub hdrLen b.len
    let (out, memory) := memory.make 0 b.len
    let memory := memory.copy out b
    let memory := memory.write (← out.sub 6 8) (putUint16 0)
    if data.len = 0 then
      return (.ok out, memory)
    let rrc := (bigEndianUint16 (memory.read (← b.sub 6 8))).toNat % data.len
    let memory := memory.copy (← out.sub hdrLen out.len) (← data.sub rrc data.len)
    let memory := memory.copy (← out.sub (hdrLen + data.len - rrc) out.len) (← data.sub 0 rrc)
    return (.ok out, memory)

/-- The RRC field of a token. -/
def rrcOf (token : List UInt8) : Nat := (bigEndianUint16 ((token.drop 6).take 2)).toNat

/-- A header with its RRC field set. -/
def setRRC (header : List UInt8) (rrc : UInt16) : List UInt8 :=
  header.take 6 ++ (putUint16 rrc ++ header.drop 8)

/-- What a sender makes of a token when it rotates the data right by `rrc`. Right by `n` is
left by the length less `n`. -/
def rotateWrapToken (header data : List UInt8) (rrc : UInt16) : List UInt8 :=
  setRRC header rrc ++ data.rotate (data.length - rrc.toNat % data.length)

/-- The token without its rotation. -/
def unrotated (token : List UInt8) : List UInt8 :=
  setRRC (token.take hdrLen) 0 ++ (token.drop hdrLen).rotate (rrcOf token)

theorem bigEndianUint16_put (v : UInt16) : bigEndianUint16 (putUint16 v) = v := by
  apply UInt16.toNat_inj.mp
  have small := v.toNat_lt
  have low : v.toNat % 2 ^ 8 < 2 ^ 8 := Nat.mod_lt _ (by decide)
  have high : (v.toNat >>> 8 % 2 ^ 8) <<< 8 % 2 ^ 16 = 2 ^ 8 * (v.toNat / 2 ^ 8) := by
    rw [Nat.shiftRight_eq_div_pow, Nat.shiftLeft_eq]
    omega
  have eight : UInt16.toNat 8 % 16 = 8 := rfl
  simp only [bigEndianUint16, putUint16, List.getD_cons_succ, List.getD_cons_zero,
    UInt16.toNat_or, UInt8.toNat_toUInt16, UInt16.toNat_toUInt8, UInt16.toNat_shiftLeft,
    UInt16.toNat_shiftRight, eight]
  rw [high, Nat.or_comm, ← Nat.two_pow_add_eq_or_of_lt low]
  omega

private theorem overwrite_fresh (n : Nat) (token : List UInt8) (same : token.length = n) :
    overwrite (List.replicate n 0) 0 (token.take n) = token := by
  simp [overwrite, ← same]

private theorem overwrite_rrc (token : List UInt8) (long : 16 ≤ token.length) :
    overwrite token 6 (putUint16 0) = setRRC (token.take 16) 0 ++ token.drop 16 := by
  have rest : (token.take 16).drop 8 ++ token.drop 16 = token.drop 8 := by
    rw [← List.drop_append_of_le_length (by simp; omega), List.take_append_drop]
  have first : (token.take 16).take 6 = token.take 6 := by simp [List.take_take]
  simp only [overwrite, setRRC, first, List.append_assoc, rest]
  rfl

private theorem length_setRRC (header : List UInt8) (rrc : UInt16) (full : header.length = 16) :
    (setRRC header rrc).length = 16 := by
  simp [setRRC, putUint16, full]

/-- The two copies lay the parts of the data down in the other order. -/
private theorem two_copies (header data : List UInt8) (n : Nat) (le : n ≤ data.length) :
    overwrite (overwrite (header ++ data) header.length (data.drop n))
        (header.length + data.length - n) (data.take n) =
      header ++ (data.drop n ++ data.take n) := by
  have cut : data = data.take (data.length - n) ++ data.drop (data.length - n) :=
    (List.take_append_drop _ _).symm
  have first : overwrite (header ++ data) header.length (data.drop n) =
      header ++ (data.drop n ++ data.drop (data.length - n)) := by
    nth_rewrite 1 [cut]
    apply overwrite_middle
    simp
  have second := overwrite_middle (header ++ data.drop n) (data.drop (data.length - n))
    (data.take n) [] (by simp; omega)
  have position : header.length + data.length - n = (header ++ data.drop n).length := by
    simp only [List.length_append, List.length_drop]
    omega
  rw [first, position]
  simpa only [List.append_nil, List.append_assoc] using second

/-- A token that is long enough is written unrotated to a new array; the others stay. -/
theorem unrotateWrapToken_run (memory : SliceMemory UInt8) (b : SliceRef)
    (held : memory.Holds b) (long : hdrLen ≤ b.len) :
    unrotateWrapToken b memory =
      some (.ok ⟨memory.length, 0, b.len⟩, memory ++ [unrotated (memory.read b)]) := by
  unfold hdrLen at long
  have length := length_read held
  have made := held.made
  have lengthData : ((memory.read b).drop 16).length = b.len - 16 := by simp [length]
  have lengthHead := length_setRRC ((memory.read b).take 16) 0 (by simp [length, long])
  rw [unrotateWrapToken, if_neg (by unfold hdrLen; omega)]
  simp only [hdrLen, SliceRef.sub_eq long (Nat.le_refl _), make, Option.bind_eq_bind,
    Option.bind_some, copy_newest memory _ _ _ made, overwrite_fresh _ _ length]
  rw [SliceRef.sub_eq (by decide) (by simp only; omega),
    SliceRef.sub_eq (show 6 ≤ 8 by decide) (show 8 ≤ b.len by omega)]
  simp only [Option.bind_some, Nat.zero_add, write_newest,
    overwrite_rrc _ (show 16 ≤ (memory.read b).length by omega)]
  by_cases empty : b.len - 16 = 0
  · have none : (memory.read b).drop 16 = [] := List.length_eq_zero_iff.mp (by omega)
    rw [if_pos empty]
    simp [unrotated, hdrLen, none]
  · have count (xs : List UInt8) :
        (bigEndianUint16 (read (memory ++ [xs]) ⟨b.addr, b.off + 6, 8 - 6⟩)).toNat =
          rrcOf (memory.read b) := by
      rw [read_earlier memory xs (by exact made), read_part memory b 6 (8 - 6) (by omega), rrcOf]
    have position := Nat.mod_lt (rrcOf (memory.read b)) (Nat.pos_of_ne_zero empty)
    rw [if_neg empty, unrotated, hdrLen, List.rotate_eq_drop_append_take_mod, lengthData]
    simp only [count]
    generalize rrcOf (memory.read b) % (b.len - 16) = n at position ⊢
    rw [SliceRef.sub_eq (by exact long) (by simp only; omega),
      SliceRef.sub_eq (by omega) (by simp only; omega),
      SliceRef.sub_eq (by omega) (by simp only; omega),
      SliceRef.sub_eq (Nat.zero_le _) (by simp only; omega)]
    have tail : (memory.read ⟨b.addr, b.off + (16 + n), b.len - 16 - n⟩).take (b.len - 16) =
        ((memory.read b).drop 16).drop n := by
      rw [read_part memory b _ _ (by omega), List.drop_drop, List.take_take, List.take_of_length_le]
      simp only [List.length_drop, length]
      omega
    have front : (memory.read ⟨b.addr, b.off + 16, n⟩).take (b.len - (16 + (b.len - 16) - n)) =
        ((memory.read b).drop 16).take n := by
      rw [read_part memory b _ _ (by omega), List.take_take, Nat.min_eq_right (by omega)]
    have copies := two_copies (setRRC ((memory.read b).take 16) 0) ((memory.read b).drop 16) n
      (by omega)
    rw [lengthHead, lengthData] at copies
    simp only [Option.bind_some, Nat.zero_add, Nat.add_assoc, Nat.add_zero, Nat.sub_zero]
    rw [copy_newest memory _ _ _ (by exact made), copy_newest memory _ _ _ (by exact made), tail,
      front, copies]
    rfl

private theorem setRRC_setRRC (header : List UInt8) (rrc : UInt16) (full : header.length = 16)
    (cleared : (header.drop 6).take 2 = [0, 0]) : setRRC (setRRC header rrc) 0 = header := by
  have six : (header.take 6).length = 6 := by simp [full]
  have front : (setRRC header rrc).take 6 = header.take 6 := List.take_left' six
  have rest : (setRRC header rrc).drop 8 = header.drop 8 := by
    have eight : (header.take 6 ++ putUint16 rrc).length = 8 := by simp [putUint16, full]
    rw [setRRC, ← List.append_assoc, List.drop_left' eight]
  calc setRRC (setRRC header rrc) 0
      = header.take 6 ++ ((header.drop 6).take 2 ++ header.drop 8) := by
        rw [setRRC, front, rest, cleared]
        rfl
    _ = header.take 6 ++ header.drop 6 := by
        rw [show header.drop 8 = (header.drop 6).drop 2 by rw [List.drop_drop],
          List.take_append_drop]
    _ = header := List.take_append_drop 6 header

private theorem rotate_back (data : List UInt8) (n : Nat) :
    (data.rotate (data.length - n % data.length)).rotate n = data := by
  rw [List.rotate_rotate]
  rcases Nat.eq_zero_or_pos data.length with none | some
  · rw [List.length_eq_zero_iff.mp none, List.rotate_nil]
  · have turns : data.length - n % data.length + n = data.length * (n / data.length + 1) := by
      have division := Nat.div_add_mod n data.length
      have rest := Nat.mod_lt n some
      rw [Nat.mul_add]
      omega
    rw [turns, List.rotate_length_mul]

/-- Turning the data back by the count that the sender used restores the token. -/
theorem unrotated_rotateWrapToken (header data : List UInt8) (rrc : UInt16)
    (full : header.length = hdrLen) (cleared : (header.drop 6).take 2 = [0, 0]) :
    unrotated (rotateWrapToken header data rrc) = header ++ data := by
  have lengthHead := length_setRRC header rrc full
  have lengthSix : (header.take 6).length = 6 := by simp [full, hdrLen]
  have field : ((rotateWrapToken header data rrc).drop 6).take 2 = putUint16 rrc := by
    rw [rotateWrapToken, setRRC, List.append_assoc, List.drop_left' lengthSix]
    rfl
  rw [unrotated, rrcOf, field, bigEndianUint16_put, rotateWrapToken, hdrLen,
    List.take_left' lengthHead, List.drop_left' lengthHead, setRRC_setRRC _ _ full cleared,
    rotate_back]

private theorem unrotated_parts (token : List UInt8) (long : hdrLen ≤ token.length) :
    (unrotated token).length = token.length ∧
      (unrotated token).take hdrLen = setRRC (token.take hdrLen) 0 ∧
      (token.drop hdrLen).IsRotated ((unrotated token).drop hdrLen) := by
  have lengthHead := length_setRRC (token.take hdrLen) 0 (by simp [hdrLen] at long ⊢; omega)
  refine ⟨?_, List.take_left' lengthHead, rrcOf token, (List.drop_left' lengthHead).symm⟩
  rw [unrotated, List.length_append, lengthHead, List.length_rotate, List.length_drop]
  unfold hdrLen at long ⊢
  omega

/-- Unrotation of whatever the slice `b` shows. Too short a token is refused. Any other
gives a new token of the same length, with the header's RRC octets cleared and the data
rotated, and the original one if a sender rotated that. No slice of the memory shows
anything else afterwards. -/
theorem unrotateWrapToken_undoes_rotation (memory : SliceMemory UInt8) (b : SliceRef)
    (held : memory.Holds b) :
    (b.len < hdrLen → unrotateWrapToken b memory =
        some (.error "hms: kerberos: wrap token shorter than its header", memory)) ∧
      (hdrLen ≤ b.len → ∃ out after, unrotateWrapToken b memory = some (.ok out, after) ∧
        (∀ s, memory.Holds s → after.read s = memory.read s) ∧
        (after.read out).length = b.len ∧
        (after.read out).take hdrLen = setRRC ((memory.read b).take hdrLen) 0 ∧
        ((memory.read b).drop hdrLen).IsRotated ((after.read out).drop hdrLen) ∧
        ∀ header data rrc, header.length = hdrLen → (header.drop 6).take 2 = [0, 0] →
          memory.read b = rotateWrapToken header data rrc → after.read out = header ++ data) := by
  have length := length_read held
  refine ⟨fun short => if_pos short, fun long => ?_⟩
  obtain ⟨same, head, rotated⟩ := unrotated_parts (memory.read b) (by rw [length]; exact long)
  rw [length] at same
  have shown : read (memory ++ [unrotated (memory.read b)]) ⟨memory.length, 0, b.len⟩ =
      unrotated (memory.read b) := by
    have newest := read_newest memory (unrotated (memory.read b))
    rwa [same] at newest
  refine ⟨_, _, unrotateWrapToken_run memory b held long, ?_, ?_⟩
  · intro s other
    exact read_earlier memory _ other.made
  · rw [shown]
    refine ⟨same, head, rotated, ?_⟩
    intro header data rrc full cleared sent
    rw [sent]
    exact unrotated_rotateWrapToken header data rrc full cleared

/-- A token of two octets of data, rotated by three. -/
theorem unrotateWrapToken_undoes_three :
    ∃ out after, unrotateWrapToken ⟨0, 0, 18⟩
        [rotateWrapToken (List.replicate 16 0) [1, 2] 3] = some (.ok out, after) ∧
      after.read out = List.replicate 16 0 ++ [1, 2] := by
  obtain ⟨out, after, run, -, -, -, -, restored⟩ :=
    (unrotateWrapToken_undoes_rotation [rotateWrapToken (List.replicate 16 0) [1, 2] 3] ⟨0, 0, 18⟩
      ⟨by decide, by decide⟩).2 (by decide)
  exact ⟨out, after, run, restored _ _ 3 (by decide) (by decide) (by decide)⟩

end HmsClient.Gssapi
