import HmsClient.Errors
import Mathlib.Data.Nat.Digits.Defs
import Mathlib.Data.Nat.Digits.Lemmas

/-! GSS-API context tokens: a Kerberos message wrapped in a DER element, and the parser of
what the peer sends. The encoders are the library's and may do anything; what is read back
assumes what they document. Lengths are Go's `int`, of 32 or of 64 bits, so the length
octets of the peer may add up to a negative number; slicing and indexing out of range
panic. -/
namespace HmsClient.Gssapi

/-- The widths of Go's `int`. -/
inductive IntWidth where
  | bits32
  | bits64
  deriving DecidableEq, Repr

def IntWidth.bits : IntWidth → Nat
  | bits32 => 32
  | bits64 => 64

/-- One more than the largest `int`. -/
def IntWidth.half : IntWidth → Nat
  | bits32 => 2147483648
  | bits64 => 9223372036854775808

/-- The length of a slice is an `int`. -/
def Fits (w : IntWidth) (b : List UInt8) : Prop := b.length < w.half

/-- How a call ends other than with a value. -/
inductive Failure where
  | error (err : Err)
  | panic

def index (b : List UInt8) (i : Int) : Except Failure UInt8 :=
  if 0 ≤ i ∧ i < b.length then .ok (b.getD i.toNat 0) else .error .panic

/-- `b[lo:hi]`. -/
def slice (b : List UInt8) (lo hi : Int) : Except Failure (List UInt8) :=
  if 0 ≤ lo ∧ lo ≤ hi ∧ hi ≤ b.length then .ok ((b.drop lo.toNat).take (hi - lo).toNat)
  else .error .panic

section Width
variable (w : IntWidth)

/-- `len(b)`. -/
def len (b : List UInt8) : BitVec w.bits := .ofNat _ b.length

/-- `int(c)`. -/
def toInt (c : UInt8) : BitVec w.bits := .ofNat _ c.toNat

/-- The loop over the length octets. -/
def accumulate (octets : List UInt8) : BitVec w.bits :=
  octets.foldl (fun length c => length <<< 8 ||| toInt w c) 0

def malformed : Failure := .error (plainError "hms: kerberos: malformed GSS-API token")

def derContent (b : List UInt8) : Except Failure (List UInt8) :=
  if (len w b).toInt < 2 then throw malformed
  else do
    let length := toInt w (← index b 1)
    let (length, start) ←
      if 0x7F < length.toInt then
        let n := length &&& 0x7F
        if n = 0 ∨ 4 < n.toInt ∨ (len w b).toInt < (2 + n).toInt then throw malformed
        else do
          let octets ← slice b 2 (2 + n).toInt
          pure (accumulate w octets, 2 + n)
      else pure (length, 2)
    if length.toInt < 0 ∨ (len w b - start).toInt < length.toInt then throw malformed
    else slice b start.toInt (start + length).toInt

def asn1AppTag0 : UInt8 := 0x60

def notContextToken : Failure :=
  .error (plainError "hms: kerberos: the server did not return a GSS-API context token")

def notKerberos : Failure :=
  .error (plainError "hms: kerberos: the server's token is not a Kerberos 5 mechanism token")

/-- The encoders that both functions call. -/
structure Encoders where
  /-- `asn1.Marshal` on the object identifier of the Kerberos mechanism. -/
  marshalOID : Except Err (List UInt8)
  /-- `asn1tools.AddASNAppTag`. -/
  addASNAppTag : List UInt8 → (tag : Nat) → List UInt8

def unmarshalled (err : Err) : Err :=
  wrapping "hms: kerberos: marshalling the KRB5 mechanism OID" err

def krb5Token (enc : Encoders) (tokID : UInt8 × UInt8) (msg : List UInt8) :
    Except Err (List UInt8) :=
  match enc.marshalOID with
  | .error err => .error (unmarshalled err)
  | .ok oid => .ok (enc.addASNAppTag (oid ++ ([tokID.1, tokID.2] ++ msg)) 0)

def parseKrb5Token (enc : Encoders) (b : List UInt8) :
    Except Failure ((UInt8 × UInt8) × List UInt8) :=
  if b.length < 2 then throw notContextToken
  else do
    if (← index b 0) ≠ asn1AppTag0 then throw notContextToken
    else do
      let body ← derContent w b
      match enc.marshalOID with
      | .error err => throw (.error (unmarshalled err))
      | .ok oid =>
        if body.length < oid.length + 2 then throw notKerberos
        else do
          if (← slice body 0 oid.length) ≠ oid then throw notKerberos
          else do
            let tokID ← slice body oid.length (oid.length + 2)
            let msg ← slice body (oid.length + 2) body.length
            return ((tokID.getD 0 0, tokID.getD 1 0), msg)

end Width

/-- The definite length of `n` content octets, in its minimal form. -/
def derLength (n : Nat) : List UInt8 :=
  if n ≤ 127 then [.ofNat n]
  else
    let octets := (Nat.digits 256 n).reverse.map UInt8.ofNat
    .ofNat (128 + octets.length) :: octets

/-- The DER element `[APPLICATION 0]` with the content `c`. -/
def derElement (c : List UInt8) : List UInt8 := asn1AppTag0 :: (derLength c.length ++ c)

/-- Encoders that do what they document: the identifier has a fixed encoding, of the short
form, and the tag is put in front with a minimal definite length. -/
structure Encoders.Documented (enc : Encoders) (oid : List UInt8) : Prop where
  marshals : enc.marshalOID = .ok oid
  short : oid.length ≤ 129
  tags : ∀ c, enc.addASNAppTag c 0 = derElement c

/-- The value of big-endian octets, without a bound. -/
def bigEndian (octets : List UInt8) : Nat := octets.foldl (fun n c => n * 256 + c.toNat) 0

/-- The first length octet of an element. -/
def lengthOctet (b : List UInt8) : Nat := (b.getD 1 0).toNat

/-- The octets before the content: the identifier, the first length octet and, in the long
form, as many as its low seven bits say. -/
def headerSize (b : List UInt8) : Nat := 2 + (lengthOctet b - 128)

/-- The length that an element declares. -/
def declaredLength (b : List UInt8) : Nat :=
  if lengthOctet b ≤ 127 then lengthOctet b else bigEndian ((b.drop 2).take (lengthOctet b - 128))

private theorem bigEndian_append (octets : List UInt8) (c : UInt8) :
    bigEndian (octets ++ [c]) = bigEndian octets * 256 + c.toNat := by
  simp [bigEndian]

private theorem bigEndian_lt (octets : List UInt8) : bigEndian octets < 256 ^ octets.length := by
  induction octets using List.reverseRecOn with
  | nil => simp [bigEndian]
  | append_singleton octets c ih =>
    have digit := c.toNat_lt
    rw [bigEndian_append, List.length_append, List.length_singleton, Nat.pow_succ]
    omega

private theorem accumulate_append (w : IntWidth) (octets : List UInt8) (c : UInt8) :
    accumulate w (octets ++ [c]) = accumulate w octets <<< 8 ||| toInt w c := by
  simp [accumulate]

private theorem toNat_shift_or (w : IntWidth) (x : BitVec w.bits) (c : UInt8) :
    (x <<< 8 ||| toInt w c).toNat = (x.toNat * 256 + c.toNat) % 2 ^ w.bits := by
  have digit : c.toNat < 2 ^ 8 := c.toNat_lt
  have shifted : x.toNat <<< 8 % 2 ^ w.bits = 2 ^ 8 * (x.toNat % 2 ^ (w.bits - 8)) := by
    cases w <;> simp only [IntWidth.bits, Nat.shiftLeft_eq] <;> omega
  rw [BitVec.toNat_or, BitVec.toNat_shiftLeft, toInt, BitVec.toNat_ofNat, shifted,
    Nat.mod_eq_of_lt (show c.toNat < 2 ^ w.bits by cases w <;> simp only [IntWidth.bits] <;> omega),
    ← Nat.two_pow_add_eq_or_of_lt digit]
  cases w <;> simp only [IntWidth.bits] <;> omega

private theorem toNat_accumulate (w : IntWidth) (octets : List UInt8) :
    (accumulate w octets).toNat = bigEndian octets % 2 ^ w.bits := by
  induction octets using List.reverseRecOn with
  | nil => simp [accumulate, bigEndian]
  | append_singleton octets c ih =>
    rw [accumulate_append, toNat_shift_or, ih, bigEndian_append]
    cases w <;> simp only [IntWidth.bits] <;> omega

private theorem accumulate_eq (w : IntWidth) (octets : List UInt8) :
    accumulate w octets = .ofNat _ (bigEndian octets) := by
  apply BitVec.eq_of_toNat_eq
  rw [toNat_accumulate, BitVec.toNat_ofNat]

variable {w : IntWidth} {n : Nat} {b : List UInt8}

private theorem toInt_ofNat (small : n < w.half) : (BitVec.ofNat w.bits n).toInt = n := by
  rw [BitVec.toInt_ofNat']
  apply Int.bmod_eq_of_le <;> cases w <;> simp only [IntWidth.bits, IntWidth.half] at small ⊢ <;>
    omega

private theorem toInt_len (fits : Fits w b) :
    (len w b).toInt = b.length := toInt_ofNat fits

/-- Four octets fill 32 bits: a length that is no `int` comes out negative. -/
private theorem toInt_ofNat_neg (large : w.half ≤ n) (four : n < 4294967296) :
    (BitVec.ofNat w.bits n).toInt < 0 := by
  cases w with
  | bits32 =>
    simp only [IntWidth.half, IntWidth.bits] at large ⊢
    rw [BitVec.toInt_ofNat', Int.bmod_eq_emod]
    split <;> omega
  | bits64 =>
    simp only [IntWidth.half] at large
    omega

private theorem slice_eq {lo : Nat} (inside : lo + n ≤ b.length) :
    slice b lo ((lo + n : Nat) : Int) = .ok ((b.drop lo).take n) := by
  rw [slice, if_pos (by omega)]
  congr 2
  omega

/-- The last check, once the header is read: the content lies inside `b` or the token is
refused, and nothing on the way overflows. -/
private theorem cut_content (fits : Fits w b) {start length : Nat} (header : start ≤ b.length)
    (four : length < 4294967296) :
    (if (BitVec.ofNat w.bits length).toInt < 0 ∨
        (len w b - BitVec.ofNat _ start).toInt < (BitVec.ofNat w.bits length).toInt then
      throw malformed
    else slice b (BitVec.ofNat w.bits start).toInt
      (BitVec.ofNat w.bits start + BitVec.ofNat _ length).toInt) =
    if start + length ≤ b.length then .ok ((b.drop start).take length) else .error malformed := by
  unfold Fits at fits
  have rest : len w b - BitVec.ofNat _ start = .ofNat _ (b.length - start) := by
    apply BitVec.ofNat_sub_ofNat_of_le _ _ _ header
    cases w <;> simp only [IntWidth.half, IntWidth.bits] at fits ⊢ <;> omega
  rcases Nat.lt_or_ge length w.half with small | large
  · rw [rest, ← BitVec.ofNat_add, toInt_ofNat small,
      toInt_ofNat (show b.length - start < w.half by omega)]
    by_cases inside : start + length ≤ b.length
    · rw [if_pos inside, if_neg (by omega), toInt_ofNat (by omega), toInt_ofNat (by omega),
        slice_eq inside]
    · rw [if_neg inside, if_pos (by omega)]
      rfl
  · rw [if_pos (.inl (toInt_ofNat_neg large four)), if_neg (by omega)]
    rfl

/-- The octet that announces a long form, and its low seven bits. -/
private theorem low_seven (w : IntWidth) (c : UInt8) (long : 127 < c.toNat) :
    toInt w c &&& 0x7F = .ofNat _ (c.toNat - 128) := by
  have digit := c.toNat_lt
  apply BitVec.eq_of_toNat_eq
  have mask : (0x7F : BitVec w.bits).toNat = 2 ^ 7 - 1 := by cases w <;> rfl
  rw [BitVec.toNat_and, mask, Nat.and_two_pow_sub_one_eq_mod, toInt, BitVec.toNat_ofNat,
    BitVec.toNat_ofNat]
  cases w <;> simp only [IntWidth.bits] <;> omega

private theorem ok_bind {α β : Type} (x : α) (f : α → Except Failure β) :
    (Except.ok x >>= f) = f x := rfl

/-- What `derContent` accepts, in unbounded numbers. -/
def Accepted (b : List UInt8) : Prop :=
  2 ≤ b.length ∧ (lengthOctet b ≤ 127 ∨ 128 < lengthOctet b ∧ lengthOctet b ≤ 132) ∧
    headerSize b + declaredLength b ≤ b.length

instance (b : List UInt8) : Decidable (Accepted b) := inferInstanceAs (Decidable (_ ∧ _ ∧ _))

private theorem derContent_long (fits : Fits w b) (two : 2 ≤ b.length) (long : 127 < lengthOctet b) :
    derContent w b =
      if Accepted b then .ok ((b.drop (headerSize b)).take (declaredLength b))
      else .error malformed := by
  have bound : b.length < w.half := fits
  have wide : 256 ≤ w.half := by cases w <;> decide
  have digit : lengthOctet b < 256 := (b.getD 1 0).toNat_lt
  have octet : (toInt w (b.getD 1 0)).toInt = lengthOctet b :=
    toInt_ofNat (by rw [← lengthOctet]; omega)
  have count : (BitVec.ofNat w.bits (lengthOctet b - 128)).toInt = (lengthOctet b - 128 : Nat) :=
    toInt_ofNat (by omega)
  have start : (2 : BitVec w.bits) + .ofNat _ (lengthOctet b - 128) = .ofNat _ (headerSize b) :=
    (BitVec.ofNat_add _ _).symm
  have header : (BitVec.ofNat w.bits (headerSize b)).toInt = headerSize b :=
    toInt_ofNat (by unfold headerSize; omega)
  have none : BitVec.ofNat w.bits (lengthOctet b - 128) = 0 ↔ lengthOctet b = 128 := by
    rw [← BitVec.toInt_inj, count, show (0 : BitVec w.bits).toInt = 0 from BitVec.toInt_zero]
    omega
  rw [derContent, toInt_len fits, if_neg (by omega), index,
    if_pos (by omega)]
  simp only [ok_bind, show (1 : Int).toNat = 1 from rfl, octet]
  rw [if_pos (by omega), low_seven w _ long, ← lengthOctet, start, header, count]
  by_cases refused : lengthOctet b = 128 ∨ 132 < lengthOctet b ∨ b.length < headerSize b
  · rw [if_pos (by rw [none]; omega), if_neg (by unfold Accepted; omega)]
    rfl
  · have accepted : Accepted b ↔ headerSize b + declaredLength b ≤ b.length := by
      unfold Accepted
      omega
    have four : declaredLength b < 4294967296 := by
      rw [declaredLength, if_neg (by omega)]
      apply Nat.lt_of_lt_of_le (bigEndian_lt _)
      apply Nat.pow_le_pow_right (n := 256) (j := 4) (by decide)
      simp only [List.length_take]
      omega
    have octets : slice b 2 (headerSize b) = .ok ((b.drop 2).take (lengthOctet b - 128)) :=
      slice_eq (show 2 + (lengthOctet b - 128) ≤ b.length by unfold headerSize at refused; omega)
    rw [if_neg (by rw [none]; omega), octets, ok_bind, pure_bind, accumulate_eq,
      ← show declaredLength b = _ from if_neg (by omega)]
    exact (cut_content fits (show headerSize b ≤ b.length by omega) four).trans
      (by simp only [accepted])

theorem derContent_eq (w : IntWidth) (b : List UInt8) (fits : Fits w b) :
    derContent w b =
      if Accepted b then .ok ((b.drop (headerSize b)).take (declaredLength b))
      else .error malformed := by
  have bound : b.length < w.half := fits
  have wide : 256 ≤ w.half := by cases w <;> decide
  by_cases tiny : b.length < 2
  · rw [derContent, toInt_len fits, if_pos (by omega),
      if_neg (by unfold Accepted; omega)]
    rfl
  by_cases long : 127 < lengthOctet b
  · exact derContent_long fits (by omega) long
  · have octet : (BitVec.ofNat w.bits (lengthOctet b)).toInt = lengthOctet b :=
      toInt_ofNat (by omega)
    have size : headerSize b = 2 := by unfold headerSize; omega
    have declared : declaredLength b = lengthOctet b := if_pos (by omega)
    have accepted : Accepted b ↔ 2 + lengthOctet b ≤ b.length := by
      unfold Accepted
      omega
    rw [derContent, toInt_len fits, if_neg (by omega),
      index, if_pos (by omega), ok_bind,
      show toInt w (b.getD (1 : Int).toNat 0) = .ofNat _ (lengthOctet b) from rfl]
    simp only []
    rw [if_neg (by omega), pure_bind]
    exact (cut_content fits (show 2 ≤ b.length by omega) (by omega)).trans
      (by simp only [accepted, size, declared])

private theorem bigEndian_digits (digits : List Nat) (small : ∀ d ∈ digits, d < 256) :
    bigEndian (digits.reverse.map UInt8.ofNat) = Nat.ofDigits 256 digits := by
  induction digits with
  | nil => rfl
  | cons d rest ih =>
    have digit := small d (by simp)
    rw [List.reverse_cons, List.map_append, List.map_singleton, bigEndian_append,
      ih (fun d' inside => small d' (by simp [inside])), Nat.ofDigits_cons, UInt8.toNat_ofNat']
    omega

/-- The header of an element is read back as it was meant. -/
private theorem header_derElement (c : List UInt8) (four : c.length < 4294967296) :
    (lengthOctet (derElement c) ≤ 127 ∨
        128 < lengthOctet (derElement c) ∧ lengthOctet (derElement c) ≤ 132) ∧
      headerSize (derElement c) = 1 + (derLength c.length).length ∧
      declaredLength (derElement c) = c.length := by
  by_cases short : c.length ≤ 127
  · have octet : lengthOctet (derElement c) = c.length := by
      rw [lengthOctet, derElement, derLength, if_pos short]
      exact UInt8.toNat_ofNat_of_lt' (by rw [UInt8.size]; omega)
    have one : (derLength c.length).length = 1 := by
      rw [derLength, if_pos short, List.length_singleton]
    refine ⟨.inl (by omega), ?_, ?_⟩
    · unfold headerSize
      omega
    · rw [declaredLength, if_pos (by omega), octet]
  · have form : derLength c.length =
        .ofNat (128 + (Nat.digits 256 c.length).length) ::
          (Nat.digits 256 c.length).reverse.map UInt8.ofNat := by
      rw [derLength, if_neg short]
      simp only [List.length_map, List.length_reverse]
    have most : (Nat.digits 256 c.length).length ≤ 4 :=
      (Nat.digits_length_le_iff (by decide) _).mpr four
    have least : 0 < (Nat.digits 256 c.length).length :=
      List.length_pos_of_ne_nil (Nat.digits_ne_nil_iff_ne_zero.mpr (by omega))
    have octet : lengthOctet (derElement c) = 128 + (Nat.digits 256 c.length).length := by
      rw [lengthOctet, derElement, form]
      exact UInt8.toNat_ofNat_of_lt' (by rw [UInt8.size]; omega)
    have octets : ((derElement c).drop 2).take (Nat.digits 256 c.length).length =
        (Nat.digits 256 c.length).reverse.map UInt8.ofNat := by
      rw [derElement, form]
      exact List.take_left' (by simp)
    have length : (derLength c.length).length = 1 + (Nat.digits 256 c.length).length := by
      rw [form, List.length_cons, List.length_map, List.length_reverse, Nat.add_comm]
    refine ⟨.inr (by omega), ?_, ?_⟩
    · unfold headerSize
      omega
    · rw [declaredLength, if_neg (by omega), octet, Nat.add_sub_cancel_left, octets,
        bigEndian_digits _ (fun d inside => Nat.digits_lt_base (by decide) inside),
        Nat.ofDigits_digits]

theorem derContent_derElement (w : IntWidth) (c : List UInt8) (four : c.length < 4294967296)
    (fits : Fits w (derElement c)) : derContent w (derElement c) = .ok c := by
  obtain ⟨form, size, declared⟩ := header_derElement c four
  have length : (derElement c).length = 1 + (derLength c.length).length + c.length := by
    simp [derElement]
    omega
  have accepted : Accepted (derElement c) := by
    refine ⟨?_, form, ?_⟩
    · have octets : 2 ≤ headerSize (derElement c) := Nat.le_add_right _ _
      omega
    · omega
  have content : (derElement c).drop (1 + (derLength c.length).length) = c := by
    rw [derElement, Nat.add_comm, List.drop_succ_cons, List.drop_left]
  rw [derContent_eq w _ fits, if_pos accepted, size, declared, content, List.take_length]

/-- What `parseKrb5Token` makes of the content of the outer element. -/
private theorem parse_content {enc : Encoders} {oid body : List UInt8}
    (marshals : enc.marshalOID = .ok oid) (two : 2 ≤ b.length) (tag : b.getD 0 0 = asn1AppTag0)
    (content : derContent w b = .ok body) :
    parseKrb5Token w enc b =
      if body.length < oid.length + 2 ∨ body.take oid.length ≠ oid then .error notKerberos
      else .ok ((body.getD oid.length 0, body.getD (oid.length + 1) 0),
        body.drop (oid.length + 2)) := by
  have first : index b 0 = .ok (b.getD 0 0) := if_pos (by omega)
  rw [parseKrb5Token, if_neg (by omega), first, ok_bind, if_neg (fun other => other tag), content,
    ok_bind]
  simp only [marshals]
  generalize oid.length = n at *
  by_cases short : body.length < n + 2
  · rw [if_pos short, if_pos (.inl short)]
    rfl
  have front : slice body 0 n = .ok (body.take n) := by
    have inside := slice_eq (show 0 + n ≤ body.length by omega)
    simpa using inside
  rw [if_neg (by omega), front, ok_bind]
  by_cases other : body.take n ≠ oid
  · rw [if_pos other, if_pos (.inr other)]
    rfl
  have identifier : slice body n (n + 2) = .ok ((body.drop n).take 2) :=
    slice_eq (show n + 2 ≤ body.length by omega)
  have message : slice body (n + 2) body.length = .ok (body.drop (n + 2)) := by
    have inside := slice_eq (show n + 2 + (body.length - (n + 2)) ≤ body.length by omega)
    rw [show n + 2 + (body.length - (n + 2)) = body.length by omega,
      List.take_of_length_le (by simp)] at inside
    exact inside
  have octet (i : Nat) (inside : i < 2) :
      ((body.drop n).take 2).getD i 0 = body.getD (n + i) 0 := by
    simp [List.getD_eq_getElem?_getD, inside]
  rw [if_neg other, if_neg (by simp [short, other]), identifier, ok_bind, message, ok_bind,
    octet 0 (by decide), octet 1 (by decide)]
  rfl

theorem parse_not_panic (w : IntWidth) (enc : Encoders) (b : List UInt8) (fits : Fits w b) :
    parseKrb5Token w enc b ≠ .error .panic := by
  by_cases tiny : b.length < 2
  · rw [parseKrb5Token, if_pos tiny]
    intro panics
    cases panics
  have first : index b 0 = .ok (b.getD 0 0) := if_pos (by omega)
  by_cases tag : b.getD 0 0 = asn1AppTag0
  · have content := derContent_eq w b fits
    by_cases accepted : Accepted b
    · rw [if_pos accepted] at content
      cases marshals : enc.marshalOID with
      | ok oid =>
        rw [parse_content marshals (by omega) tag content]
        split <;> simp [notKerberos]
      | error err =>
        rw [parseKrb5Token, if_neg tiny, first, ok_bind, if_neg (fun other => other tag), content,
          ok_bind]
        simp only [marshals]
        intro panics
        cases panics
    · rw [if_neg accepted] at content
      rw [parseKrb5Token, if_neg tiny, first, ok_bind, if_neg (fun other => other tag), content]
      intro panics
      cases panics
  · rw [parseKrb5Token, if_neg tiny, first, ok_bind, if_pos tag]
    intro panics
    cases panics

section Documented
variable {enc : Encoders} {oid : List UInt8} (documented : enc.Documented oid)
include documented

/-- What is wrapped, if the encoders do what they document. -/
theorem Encoders.Documented.krb5Token_eq (tokID : UInt8 × UInt8) (msg : List UInt8) :
    krb5Token enc tokID msg = .ok (derElement (oid ++ ([tokID.1, tokID.2] ++ msg))) := by
  simp only [krb5Token, documented.marshals, documented.tags]

variable {tokID : UInt8 × UInt8} {msg token : List UInt8}

theorem Encoders.Documented.length_le (wrapped : krb5Token enc tokID msg = .ok token) :
    msg.length ≤ token.length := by
  rw [documented.krb5Token_eq] at wrapped
  cases wrapped
  simp only [derElement, List.length_cons, List.length_append]
  omega

theorem Encoders.Documented.parse_krb5Token (w : IntWidth)
    (wrapped : krb5Token enc tokID msg = .ok token) (short : msg.length < 2147483648)
    (fits : Fits w token) : parseKrb5Token w enc token = .ok (tokID, msg) := by
  rw [documented.krb5Token_eq] at wrapped
  cases wrapped
  have small := documented.short
  have length : (oid ++ ([tokID.1, tokID.2] ++ msg)).length = oid.length + 2 + msg.length := by
    simp only [List.length_append, List.length_cons, List.length_nil]
    omega
  have content := derContent_derElement w _ (by omega) fits
  have two : 2 ≤ (derElement (oid ++ ([tokID.1, tokID.2] ++ msg))).length := by
    simp only [derElement, List.length_cons, List.length_append]
    omega
  rw [parse_content documented.marshals two rfl content, if_neg]
  · simp [List.getD_eq_getElem?_getD, List.drop_append]
  · rw [length, List.take_left]
    simp

theorem Encoders.Documented.fits_krb5Token (wrapped : krb5Token enc tokID msg = .ok token)
    (short : msg.length < 2147483648) : Fits .bits64 token := by
  rw [documented.krb5Token_eq] at wrapped
  cases wrapped
  have small := documented.short
  have length : (oid ++ ([tokID.1, tokID.2] ++ msg)).length = oid.length + 2 + msg.length := by
    simp only [List.length_append, List.length_cons, List.length_nil]
    omega
  obtain ⟨form, size, -⟩ := header_derElement (oid ++ ([tokID.1, tokID.2] ++ msg)) (by omega)
  unfold headerSize at size
  rw [Fits, IntWidth.half, derElement, List.length_cons, List.length_append]
  omega

end Documented

/-- Token formats, for either width of `int`. With encoders that do what they document, a
token that was wrapped is parsed back to its identifier and message; a 32-bit build must be
able to hold it. From any input the content is the slice that the header declares, in
unbounded numbers and inside the input, or the token is refused; and no input makes the
parser panic, whatever the encoders do. -/
theorem gssapi_tokens_exact_and_in_bounds (w : IntWidth) (enc : Encoders) :
    (∀ oid, enc.Documented oid → ∀ tokID msg, msg.length < 2147483648 →
        ∃ token, krb5Token enc tokID msg = .ok token ∧
          ((w = .bits64 ∨ token.length < 2147483648) →
            parseKrb5Token w enc token = .ok (tokID, msg))) ∧
      (∀ b, Fits w b → derContent w b = .error malformed ∨
        headerSize b + declaredLength b ≤ b.length ∧
          derContent w b = .ok ((b.drop (headerSize b)).take (declaredLength b))) ∧
      ∀ b, Fits w b → parseKrb5Token w enc b ≠ .error .panic := by
  refine ⟨?_, ?_, parse_not_panic w enc⟩
  · intro oid documented tokID msg short
    have wrapped := documented.krb5Token_eq tokID msg
    refine ⟨_, wrapped, ?_⟩
    intro holds
    apply documented.parse_krb5Token w wrapped short
    cases w with
    | bits32 => exact holds.resolve_left (by decide)
    | bits64 => exact documented.fits_krb5Token wrapped short
  · intro b fits
    rw [derContent_eq w b fits]
    by_cases accepted : Accepted b
    · exact .inr ⟨accepted.2.2, if_pos accepted⟩
    · exact .inl (if_neg accepted)

/-- The encoding of the object identifier `1.2.840.113554.1.2.2`. -/
def krb5OID : List UInt8 := [0x06, 0x09, 0x2A, 0x86, 0x48, 0x86, 0xF7, 0x12, 0x01, 0x02, 0x02]

/-- Encoders that do what they document. -/
def derEncoders : Encoders := ⟨.ok krb5OID, fun c _ => derElement c⟩

theorem derEncoders_documented : derEncoders.Documented krb5OID := ⟨rfl, by decide, fun _ => rfl⟩

/-- A token with a length in the long form on a 32-bit build, and one whose length is
negative there. -/
theorem gssapi_tokens_exact_short :
    (∃ token, krb5Token derEncoders (2, 0) (List.replicate 300 7) = .ok token ∧
      token.take 4 = [0x60, 0x82, 0x01, 0x39] ∧
      parseKrb5Token .bits32 derEncoders token = .ok ((2, 0), List.replicate 300 7)) ∧
    parseKrb5Token .bits32 derEncoders [0x60, 0x84, 0xFF, 0xFF, 0xFF, 0xFF] ≠ .error .panic := by
  obtain ⟨exact, -, inBounds⟩ := gssapi_tokens_exact_and_in_bounds .bits32 derEncoders
  refine ⟨?_, inBounds _ (show 6 < 2147483648 by decide)⟩
  obtain ⟨token, wrapped, parsed⟩ := exact krb5OID derEncoders_documented (2, 0)
    (List.replicate 300 7) (by rw [List.length_replicate]; decide)
  refine ⟨token, wrapped, ?_⟩
  cases wrapped
  exact ⟨by decide +kernel, parsed (.inr (by decide +kernel))⟩

end HmsClient.Gssapi
