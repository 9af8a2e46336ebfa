import HmsClient.GssToken
import HmsClient.SaslHandshake
import HmsClient.WrapToken

/-! The rounds of the GSSAPI mechanism: the AP_REQ, the check of the server's AP_REP, and
the choice of a security layer in wrap tokens. Encryption, checksums and the messages are
those of the Kerberos library, which is a parameter and may do anything. A transport opens
only after a peer has shown the session key of the ticket. -/
namespace HmsClient.Gssapi
open Sasl

/-! ## The Kerberos library -/

structure EncryptionKey where
  keyType : Int32 := 0
  keyValue : Bytes := []
  deriving DecidableEq

/-- The sizes of an encryption type: of the confounder in bytes, of the HMAC in bits. -/
structure EType where
  confounderByteSize : Int
  hmacBitLength : Int

structure EncryptedData where
  etype : Int32
  kvno : Int
  cipher : Bytes
  deriving DecidableEq

/-- Times are in nanoseconds. -/
structure EncAPRepPart where
  ctime : Int
  cusec : Int
  subkey : EncryptionKey := {}
  deriving DecidableEq

structure Checksum where
  cksumType : Int32 := 0
  checksum : Bytes := []
  deriving DecidableEq

/-- The authenticator of an AP_REQ, apart from the client's name. -/
structure Authenticator where
  ctime : Int := 0
  cusec : Int := 0
  seqNumber : Int64 := 0
  cksum : Checksum := {}
  deriving DecidableEq

/-- `gssapi.WrapToken`. -/
structure WrapToken where
  flags : UInt8
  ec : UInt16
  rrc : UInt16
  sndSeqNum : UInt64
  payload : Bytes
  checkSum : Bytes := []

inductive KeyUsage where
  | apRepEncPart
  | acceptorSeal
  | initiatorSeal
  deriving DecidableEq

/-- How `crypto.DecryptEncPart` may end other than with the plain text. -/
inductive Undecrypted where
  | error (err : Err)
  | panic (value : String)

/-- What both sides call of the library. -/
structure Krb5 extends Encoders where
  getEtype : Int32 → Except Err EType
  decryptEncPart : EncryptedData → EncryptionKey → KeyUsage → Except Undecrypted Bytes
  /-- The text of a KRB-ERROR. -/
  unmarshalKRBError : Bytes → Except Err String
  /-- The encrypted part of an AP_REP. -/
  unmarshalAPRep : Bytes → Except Err EncryptedData
  unmarshalEncAPRepPart : Bytes → Except Err EncAPRepPart
  setCheckSum : WrapToken → EncryptionKey → KeyUsage → Except Err WrapToken
  marshalToken : WrapToken → Except Err Bytes
  unmarshalToken : Bytes → (expectFromAcceptor : Bool) → Except Err WrapToken
  verifyToken : WrapToken → EncryptionKey → KeyUsage → Except Err Bool

/-- How `select` finds the exchange with the KDC: it ended, or the context did. -/
inductive Exchange (τ : Type) where
  | acquired (ticket : τ) (key : EncryptionKey)
  | failed (err : Err)
  | panicked (value : String)
  | abandoned (err : Err)

/-- Where the AP_REQ comes from. -/
structure Initiator (τ ρ : Type) where
  spn : String
  /-- What `begin` of the session returned. -/
  begun : Bool
  exchange : Exchange τ
  newAuthenticator : Except Err Authenticator
  newAPReq : τ → EncryptionKey → Authenticator → Except Err ρ
  setMutualRequired : ρ → ρ
  marshal : ρ → Except Err Bytes

/-! ## The mechanism -/

def tokIDAPReq : UInt8 × UInt8 := (0x01, 0x00)
def tokIDAPRep : UInt8 × UInt8 := (0x02, 0x00)
def tokIDKRBError : UInt8 × UInt8 := (0x03, 0x00)

def qopAuth : UInt8 := 1

def wrapFlagSentByAcceptor : UInt8 := 1
def wrapFlagSealed : UInt8 := 2
def wrapFlagAcceptorSubkey : UInt8 := 4

/-- `binary.LittleEndian.PutUint32`. -/
def putUint32LE (v : UInt32) : Bytes :=
  [v.toUInt8, (v >>> 8).toUInt8, (v >>> 16).toUInt8, (v >>> 24).toUInt8]

/-- `gssapi.ContextFlagMutual` and `gssapi.ContextFlagInteg`. -/
def gssContextFlags : List UInt32 := [2, 32]

def gssChecksum (contextFlags : List UInt32) : Bytes :=
  putUint32LE 16 ++ (List.replicate 16 0 ++ putUint32LE (contextFlags.foldl (· ||| ·) 0))

/-- `chksumtype.GSSAPI`. -/
def chksumtypeGSSAPI : Int32 := 0x8003

/-- `Truncate(time.Second)`. -/
def truncateSecond (t : Int) : Int := t - t % 1000000000

/-- The fields of `gssapiMech` that its rounds read and write. -/
structure Keys where
  auth : Authenticator := {}
  sessionKey : EncryptionKey := {}
  ctxKey : EncryptionKey := {}
  acceptorSubkey : Bool := false
  sendSeq : UInt64 := 0

section Request
variable {τ ρ : Type} (enc : Encoders) (initiator : Initiator τ ρ)

def serviceTicket : Except Err (τ × EncryptionKey) :=
  if initiator.begun then
    match initiator.exchange with
    | .acquired ticket key => .ok (ticket, key)
    | .failed err =>
      .error (wrapping ("hms: kerberos: no service ticket for " ++ initiator.spn) err)
    | .panicked value =>
      .error (wrapping ("hms: kerberos: no service ticket for " ++ initiator.spn)
        (plainError ("hms: kerberos: malformed reply from the KDC: " ++ value)))
    | .abandoned err => .error err
  else .error (plainError "hms: kerberos: the client is closed")

/-- The authenticator that goes into the AP_REQ. -/
def prepared (auth : Authenticator) : Authenticator :=
  { auth with
    cksum := ⟨chksumtypeGSSAPI, gssChecksum gssContextFlags⟩
    ctime := truncateSecond auth.ctime }

def initialToken (m : Keys) : Except Err Bytes × Keys :=
  match serviceTicket initiator with
  | .error err => (.error err, m)
  | .ok (ticket, key) =>
    let m := { m with sessionKey := key }
    match initiator.newAuthenticator with
    | .error err => (.error (wrapping "hms: kerberos: building the authenticator" err), m)
    | .ok auth =>
      let auth := prepared auth
      match initiator.newAPReq ticket key auth with
      | .error err => (.error (wrapping "hms: kerberos: building the AP_REQ" err), m)
      | .ok apReq =>
        let apReq := initiator.setMutualRequired apReq
        if auth.seqNumber < 0 then
          (.error (plainError "hms: kerberos: negative authenticator sequence number"), m)
        else
          let m := { m with auth := auth, sendSeq := auth.seqNumber.toUInt64 }
          match initiator.marshal apReq with
          | .error err => (.error (wrapping "hms: kerberos: marshalling the AP_REQ" err), m)
          | .ok b => (krb5Token enc tokIDAPReq b, m)

end Request

section Library
variable (lib : Krb5)

/-- A ciphertext that the library would slice out of range is refused first, and any other
panic is recovered. -/
def decryptEncPart (ed : EncryptedData) (key : EncryptionKey) (usage : KeyUsage) :
    Except Err Bytes :=
  match lib.getEtype key.keyType with
  | .error err =>
    .error (wrapping ("hms: kerberos: unsupported encryption type " ++ toString key.keyType) err)
  | .ok et =>
    let minLen := et.confounderByteSize + et.hmacBitLength.tdiv 8
    if (ed.cipher.length : Int) < minLen then
      .error (plainError ("hms: kerberos: ciphertext of " ++ toString ed.cipher.length ++
        " bytes is shorter than encryption type " ++ toString key.keyType ++ "'s minimum of " ++
        toString minLen))
    else
      match lib.decryptEncPart ed key usage with
      | .ok plain => .ok plain
      | .error (.error err) => .error err
      | .error (.panic value) =>
        .error (plainError ("hms: kerberos: malformed ciphertext: " ++ value))

/-- The verb `%02x`. -/
def hex2 (c : UInt8) : String :=
  String.ofList [Nat.digitChar (c.toNat / 16), Nat.digitChar (c.toNat % 16)]

/-- A failure as an error. No slice makes the parser panic (`parse_not_panic`), nor
`unrotateWrapToken` (`unrotateWrapToken_run`), so the text of a panic never shows. -/
def Failure.err : Failure → Err
  | .error err => err
  | .panic => plainError "runtime error: slice bounds out of range"

/-- The key of the context: the server's subkey if it sent one, else the session key. -/
def Keys.establish (m : Keys) (enc : EncAPRepPart) : Keys :=
  let m := { m with ctxKey := m.sessionKey }
  if enc.subkey.keyType ≠ 0 ∧ 0 < enc.subkey.keyValue.length then
    { m with ctxKey := enc.subkey, acceptorSubkey := true }
  else m

/-- The part of `verifyAPRep` that reads what an AP_REP holds. -/
def readAPRep (m : Keys) (msg : Bytes) : Except Err EncAPRepPart :=
  match lib.unmarshalAPRep msg with
  | .error err => .error (wrapping "hms: kerberos: could not parse the AP_REP" err)
  | .ok ed =>
    match decryptEncPart lib ed m.sessionKey .apRepEncPart with
    | .error err => .error (wrapping "hms: kerberos: could not decrypt the AP_REP" err)
    | .ok plain =>
      match lib.unmarshalEncAPRepPart plain with
      | .error err => .error (wrapping "hms: kerberos: could not parse the AP_REP" err)
      | .ok enc => .ok enc

def verifyAPRep (w : IntWidth) (quote : String → String) (token : Bytes) (m : Keys) :
    Except Err Unit × Keys :=
  match parseKrb5Token w lib.toEncoders token with
  | .error failure => (.error failure.err, m)
  | .ok (tokID, msg) =>
    if tokID = tokIDKRBError then
      match lib.unmarshalKRBError msg with
      | .error err => (.error (wrapping
          "hms: kerberos: the server rejected the AP_REQ with an unreadable error" err), m)
      | .ok text =>
        (.error (plainError ("hms: kerberos: the server rejected the AP_REQ: " ++ quote text)), m)
    else if tokID = tokIDAPRep then
      match readAPRep lib m msg with
      | .error err => (.error err, m)
      | .ok enc =>
        if enc.ctime ≠ m.auth.ctime ∨ enc.cusec ≠ m.auth.cusec then
          (.error (plainError ("hms: kerberos: mutual authentication failed: the AP_REP " ++
            "does not echo the authenticator's timestamp")), m)
        else (.ok (), m.establish enc)
    else
      (.error (plainError ("hms: kerberos: expected an AP_REP from the server, got token 0x" ++
        hex2 tokID.1 ++ hex2 tokID.2)), m)

def checksumLen (key : EncryptionKey) : Except Err UInt16 :=
  match lib.getEtype key.keyType with
  | .error err =>
    .error (wrapping ("hms: kerberos: unsupported encryption type " ++ toString key.keyType) err)
  | .ok et =>
    let bits := et.hmacBitLength
    if bits < 0 ∨ 0xFFFF < bits.tdiv 8 then
      .error (plainError ("hms: kerberos: implausible checksum length " ++ toString bits ++
        " bits"))
    else .ok (.ofNat (bits.tdiv 8).toNat)

/-- The token that `wrap` signs. -/
def unsigned (m : Keys) (sumLen : UInt16) (payload : Bytes) : WrapToken :=
  { flags := if m.acceptorSubkey then wrapFlagAcceptorSubkey else 0
    ec := sumLen
    rrc := 0
    sndSeqNum := m.sendSeq
    payload := payload }

def wrap (payload : Bytes) (m : Keys) : Except Err Bytes × Keys :=
  match checksumLen lib m.ctxKey with
  | .error err => (.error err, m)
  | .ok sumLen =>
    match lib.setCheckSum (unsigned m sumLen payload) m.ctxKey .initiatorSeal with
    | .error err => (.error (wrapping "hms: kerberos: signing a wrap token" err), m)
    | .ok token =>
      let m := { m with sendSeq := m.sendSeq + 1 }
      match lib.marshalToken token with
      | .error err => (.error (wrapping "hms: kerberos: marshalling a wrap token" err), m)
      | .ok b => (.ok b, m)

/-- `unrotateWrapToken` of a slice that shows `b`. -/
def unrotateBytes (b : Bytes) : Except Err Bytes :=
  match unrotateWrapToken ⟨0, 0, b.length⟩ [b] with
  | some (.ok out, memory) => .ok (memory.read out)
  | some (.error text, _) => .error (plainError text)
  | none => .error Failure.panic.err

def unwrap (b : Bytes) (m : Keys) : Except Err Bytes :=
  match unrotateBytes b with
  | .error err => .error err
  | .ok normalized =>
    match lib.unmarshalToken normalized true with
    | .error err =>
      .error (wrapping "hms: kerberos: the server sent a malformed wrap token" err)
    | .ok token =>
      if token.flags &&& wrapFlagSentByAcceptor = 0 then
        .error (plainError
          "hms: kerberos: the server sent a wrap token marked as coming from the initiator")
      else if token.flags &&& wrapFlagSealed ≠ 0 then
        .error (plainError ("hms: kerberos: the server sent an encrypted wrap token; only " ++
          "integrity protection is supported"))
      else
        match lib.verifyToken token m.ctxKey .acceptorSeal with
        | .error err =>
          .error (wrapping "hms: kerberos: the server's wrap token failed verification" err)
        | .ok false =>
          .error (plainError "hms: kerberos: the server's wrap token failed verification")
        | .ok true => .ok token.payload

def selectSecurityLayer (challenge : Bytes) (m : Keys) : Except Err Bytes × Keys :=
  match unwrap lib challenge m with
  | .error err => (.error err, m)
  | .ok offer =>
    if offer.length ≠ 4 then
      (.error (plainError ("hms: kerberos: security layer offer is " ++ toString offer.length ++
        " bytes, want 4")), m)
    else if offer.getD 0 0 &&& qopAuth = 0 then
      (.error (plainError ("hms: kerberos: the server offers security layers 0x" ++
        hex2 (offer.getD 0 0) ++ " but not auth; set the metastore's hadoop.rpc.protection to " ++
        "authentication")), m)
    else wrap lib [qopAuth, 0, 0, 0] m

/-- The rounds of `gssapiMech`. -/
def gssTokens {τ ρ : Type} (w : IntWidth) (quote : String → String) (initiator : Initiator τ ρ) :
    Tokens Keys where
  initialToken := initialToken lib.toEncoders initiator
  verifyAPRep := verifyAPRep lib w quote
  selectSecurityLayer := selectSecurityLayer lib

/-! ## What the rounds accept -/

/-- The AP_REQ with which the mechanism goes on with the keys `m`. -/
structure Requested {τ ρ : Type} (enc : Encoders) (initiator : Initiator τ ρ) (before : Keys)
    (token : Bytes) (m : Keys) : Prop where
  request : ∃ ticket key auth apReq b,
    serviceTicket initiator = .ok (ticket, key) ∧
    initiator.newAuthenticator = .ok auth ∧
    initiator.newAPReq ticket key (prepared auth) = .ok apReq ∧
    initiator.marshal (initiator.setMutualRequired apReq) = .ok b ∧
    0 ≤ auth.seqNumber ∧
    krb5Token enc tokIDAPReq b = .ok token ∧
    m = { before with
      sessionKey := key
      auth := prepared auth
      sendSeq := auth.seqNumber.toUInt64 }

/-- The server's proof: an AP_REP that decrypts under the session key and echoes the time
of the authenticator. -/
structure Proves (w : IntWidth) (m : Keys) (token : Bytes) (enc : EncAPRepPart) : Prop where
  decrypts : ∃ msg ed plain,
    parseKrb5Token w lib.toEncoders token = .ok (tokIDAPRep, msg) ∧
    lib.unmarshalAPRep msg = .ok ed ∧
    decryptEncPart lib ed m.sessionKey .apRepEncPart = .ok plain ∧
    lib.unmarshalEncAPRepPart plain = .ok enc
  ctime : enc.ctime = m.auth.ctime
  cusec : enc.cusec = m.auth.cusec

/-- An offer of layers that the acceptor signed with the key of the context. -/
structure Offers (m : Keys) (challenge : Bytes) (token : WrapToken) : Prop where
  long : hdrLen ≤ challenge.length
  unmarshals : lib.unmarshalToken (unrotated challenge) true = .ok token
  fromAcceptor : token.flags &&& wrapFlagSentByAcceptor ≠ 0
  unsealed : token.flags &&& wrapFlagSealed = 0
  signed : lib.verifyToken token m.ctxKey .acceptorSeal = .ok true
  four : token.payload.length = 4
  auth : token.payload.getD 0 0 &&& qopAuth ≠ 0

/-- The client's choice of no layer, signed with the key of the context. -/
structure Selects (m : Keys) (b : Bytes) : Prop where
  signed : ∃ sumLen token,
    checksumLen lib m.ctxKey = .ok sumLen ∧
    lib.setCheckSum (unsigned m sumLen [qopAuth, 0, 0, 0]) m.ctxKey .initiatorSeal = .ok token ∧
    lib.marshalToken token = .ok b

theorem initialToken_ok {τ ρ : Type} {enc : Encoders} {initiator : Initiator τ ρ}
    {before m : Keys} {token : Bytes} (ran : initialToken enc initiator before = (.ok token, m)) :
    Requested enc initiator before token m := by
  unfold initialToken at ran
  cases acquired : serviceTicket initiator with
  | error err => simp only [acquired] at ran; cases ran
  | ok ticketKey =>
    obtain ⟨ticket, key⟩ := ticketKey
    simp only [acquired] at ran
    cases made : initiator.newAuthenticator with
    | error err => simp only [made] at ran; cases ran
    | ok auth =>
      simp only [made] at ran
      cases built : initiator.newAPReq ticket key (prepared auth) with
      | error err => simp only [built] at ran; cases ran
      | ok apReq =>
        simp only [built] at ran
        by_cases negative : (prepared auth).seqNumber < 0
        · rw [if_pos negative] at ran
          cases ran
        rw [if_neg negative] at ran
        cases marshalled : initiator.marshal (initiator.setMutualRequired apReq) with
        | error err => simp only [marshalled] at ran; cases ran
        | ok b =>
          simp only [marshalled, Prod.mk.injEq] at ran
          obtain ⟨wrapped, rfl⟩ := ran
          exact ⟨ticket, key, auth, apReq, b, acquired, made, built, marshalled,
            Int64.not_lt.mp negative, wrapped, rfl⟩

theorem decryptEncPart_ok {ed : EncryptedData} {key : EncryptionKey} {usage : KeyUsage}
    {plain : Bytes} (ran : decryptEncPart lib ed key usage = .ok plain) :
    lib.decryptEncPart ed key usage = .ok plain := by
  unfold decryptEncPart at ran
  cases known : lib.getEtype key.keyType with
  | error err => simp only [known] at ran; cases ran
  | ok et =>
    simp only [known] at ran
    by_cases short : (ed.cipher.length : Int) < et.confounderByteSize + et.hmacBitLength.tdiv 8
    · rw [if_pos short] at ran
      cases ran
    rw [if_neg short] at ran
    cases decrypted : lib.decryptEncPart ed key usage with
    | ok plain' =>
      simp only [decrypted, Except.ok.injEq] at ran
      rw [ran]
    | error undecrypted => cases undecrypted <;> simp only [decrypted] at ran <;> cases ran

theorem readAPRep_ok {m : Keys} {msg : Bytes} {enc : EncAPRepPart}
    (ran : readAPRep lib m msg = .ok enc) :
    ∃ ed plain, lib.unmarshalAPRep msg = .ok ed ∧
      decryptEncPart lib ed m.sessionKey .apRepEncPart = .ok plain ∧
      lib.unmarshalEncAPRepPart plain = .ok enc := by
  unfold readAPRep at ran
  cases parsed : lib.unmarshalAPRep msg with
  | error err => simp only [parsed] at ran; cases ran
  | ok ed =>
    simp only [parsed] at ran
    cases decrypted : decryptEncPart lib ed m.sessionKey .apRepEncPart with
    | error err => simp only [decrypted] at ran; cases ran
    | ok plain =>
      simp only [decrypted] at ran
      cases read : lib.unmarshalEncAPRepPart plain with
      | error err => simp only [read] at ran; cases ran
      | ok enc' =>
      simp only [read] at ran
      exact ⟨ed, plain, rfl, decrypted, read.trans ran⟩

theorem verifyAPRep_ok {w : IntWidth} {quote : String → String} {token : Bytes} {m m' : Keys}
    (ran : verifyAPRep lib w quote token m = (.ok (), m')) :
    ∃ enc, Proves lib w m token enc ∧ m' = m.establish enc := by
  unfold verifyAPRep at ran
  cases parsed : parseKrb5Token w lib.toEncoders token with
  | error failure => simp only [parsed] at ran; cases ran
  | ok found =>
    obtain ⟨tokID, msg⟩ := found
    simp only [parsed] at ran
    by_cases krbError : tokID = tokIDKRBError
    · rw [if_pos krbError] at ran
      cases text : lib.unmarshalKRBError msg <;> simp only [text] at ran <;> cases ran
    rw [if_neg krbError] at ran
    by_cases foreign : ¬ tokID = tokIDAPRep
    · rw [if_neg foreign] at ran
      cases ran
    have reply := not_not.mp foreign
    rw [if_pos reply] at ran
    cases read : readAPRep lib m msg with
    | error err => simp only [read] at ran; cases ran
    | ok enc =>
      simp only [read] at ran
      by_cases differs : enc.ctime ≠ m.auth.ctime ∨ enc.cusec ≠ m.auth.cusec
      · rw [if_pos differs] at ran
        cases ran
      rw [if_neg differs] at ran
      cases ran
      obtain ⟨ctime, cusec⟩ := not_or.mp differs
      obtain ⟨ed, plain, unmarshalled, decrypted, decoded⟩ := readAPRep_ok lib read
      rw [reply] at parsed
      exact ⟨enc, ⟨⟨msg, ed, plain, parsed, unmarshalled, decrypted, decoded⟩,
        not_not.mp ctime, not_not.mp cusec⟩, rfl⟩

/-- The slice is turned back, or refused as too short. -/
theorem unrotateBytes_eq (b : Bytes) :
    unrotateBytes b = if hdrLen ≤ b.length then .ok (unrotated b)
      else .error (plainError "hms: kerberos: wrap token shorter than its header") := by
  have shown : SliceMemory.read [b] ⟨0, 0, b.length⟩ = b := SliceMemory.read_newest [] b
  have held : SliceMemory.Holds [b] ⟨0, 0, b.length⟩ := ⟨by simp, by simp [SliceMemory.array]⟩
  by_cases long : hdrLen ≤ b.length
  · have same : (unrotated b).length = b.length := by
      simp [unrotated, setRRC, putUint16, hdrLen] at long ⊢
      omega
    have back := SliceMemory.read_newest [b] (unrotated b)
    rw [same] at back
    rw [unrotateBytes, unrotateWrapToken_run [b] _ held long, shown, if_pos long]
    exact congrArg Except.ok back
  · rw [unrotateBytes, unrotateWrapToken, if_pos (show b.length < hdrLen by omega), if_neg long]

theorem unwrap_ok {b payload : Bytes} {m : Keys} (ran : unwrap lib b m = .ok payload) :
    hdrLen ≤ b.length ∧ ∃ token, lib.unmarshalToken (unrotated b) true = .ok token ∧
      token.flags &&& wrapFlagSentByAcceptor ≠ 0 ∧ token.flags &&& wrapFlagSealed = 0 ∧
      lib.verifyToken token m.ctxKey .acceptorSeal = .ok true ∧ token.payload = payload := by
  rw [unwrap, unrotateBytes_eq] at ran
  by_cases short : ¬ hdrLen ≤ b.length
  · rw [if_neg short] at ran
    cases ran
  have long := not_not.mp short
  rw [if_pos long] at ran
  cases unmarshalled : lib.unmarshalToken (unrotated b) true with
  | error err => simp only [unmarshalled] at ran; cases ran
  | ok token =>
    simp only [unmarshalled] at ran
    by_cases initiator : token.flags &&& wrapFlagSentByAcceptor = 0
    · rw [if_pos initiator] at ran
      cases ran
    rw [if_neg initiator] at ran
    by_cases encrypted : token.flags &&& wrapFlagSealed ≠ 0
    · rw [if_pos encrypted] at ran
      cases ran
    rw [if_neg encrypted] at ran
    cases verified : lib.verifyToken token m.ctxKey .acceptorSeal with
    | error err => simp only [verified] at ran; cases ran
    | ok valid =>
      cases valid with
      | false => simp only [verified] at ran; cases ran
      | true =>
        simp only [verified] at ran
        cases ran
        exact ⟨long, token, rfl, initiator, not_not.mp encrypted, verified, rfl⟩

theorem wrap_ok {payload b : Bytes} {m m' : Keys} (ran : wrap lib payload m = (.ok b, m')) :
    (∃ sumLen token, checksumLen lib m.ctxKey = .ok sumLen ∧
      lib.setCheckSum (unsigned m sumLen payload) m.ctxKey .initiatorSeal = .ok token ∧
      lib.marshalToken token = .ok b) ∧ m' = { m with sendSeq := m.sendSeq + 1 } := by
  unfold wrap at ran
  cases sized : checksumLen lib m.ctxKey with
  | error err => simp only [sized] at ran; cases ran
  | ok sumLen =>
    simp only [sized] at ran
    cases signed : lib.setCheckSum (unsigned m sumLen payload) m.ctxKey .initiatorSeal with
    | error err => simp only [signed] at ran; cases ran
    | ok token =>
      simp only [signed] at ran
      cases marshalled : lib.marshalToken token with
      | error err => simp only [marshalled] at ran; cases ran
      | ok b' =>
      simp only [marshalled] at ran
      cases ran
      exact ⟨⟨sumLen, token, rfl, signed, marshalled⟩, rfl⟩

theorem selectSecurityLayer_ok {challenge b : Bytes} {m m' : Keys}
    (ran : selectSecurityLayer lib challenge m = (.ok b, m')) :
    (∃ token, Offers lib m challenge token) ∧ Selects lib m b ∧
      m' = { m with sendSeq := m.sendSeq + 1 } := by
  unfold selectSecurityLayer at ran
  cases opened : unwrap lib challenge m with
  | error err => simp only [opened] at ran; cases ran
  | ok offer =>
    simp only [opened] at ran
    by_cases sized : offer.length ≠ 4
    · rw [if_pos sized] at ran
      cases ran
    rw [if_neg sized] at ran
    by_cases unoffered : offer.getD 0 0 &&& qopAuth = 0
    · rw [if_pos unoffered] at ran
      cases ran
    rw [if_neg unoffered] at ran
    obtain ⟨long, token, unmarshals, acceptor, plain, signed, rfl⟩ := unwrap_ok lib opened
    obtain ⟨selected, advanced⟩ := wrap_ok lib ran
    exact ⟨⟨token, long, unmarshals, acceptor, plain, signed, not_not.mp sized, unoffered⟩,
      ⟨selected⟩, advanced⟩

/-! ## Opening -/

/-- The frames of a handshake in which the server proved itself: the request, the proof,
the offer under the key that the proof established, and the choice of no layer. -/
def Authenticated {τ ρ : Type} (w : IntWidth) (initiator : Initiator τ ρ) (before : Keys)
    (events : List Event) : Prop :=
  ∃ token m proof enc offer wrapped last payload,
    Requested lib.toEncoders initiator before token m ∧
    Proves lib w m proof enc ∧
    Offers lib (m.establish enc) offer wrapped ∧
    Selects lib (m.establish enc) last ∧
    events =
      [.sent (startFrame "GSSAPI"), .sent ⟨saslOK, token⟩,
        .received ⟨saslOK, proof⟩, .sent ⟨saslOK, []⟩,
        .received ⟨saslOK, offer⟩, .sent ⟨saslComplete, last⟩,
        .received ⟨saslComplete, payload⟩]

/-- **A server must prove itself.** Against any peer, any inner transport and any behaviour
of the Kerberos library, `OpenContext` returns, and returns nil exactly if the transport is
open. Then the peer's first challenge decrypted under the session key of the service ticket
and echoed the authenticator, its second was an offer of no layer signed with the key that
the first established, and the client's last token was its choice, signed with that key. -/
theorem gssapi_opens_only_for_proven_server {σ τ ρ : Type} (io : Inner σ)
    (quote : Bytes → String) (w : IntWidth) (quoteText : String → String)
    (initiator : Initiator τ ρ) (before : Keys) (rounds : Nat) (s : σ) :
    ∃ outcome,
      openContext io (gssapiMech (gssTokens lib w quoteText initiator)) quote (rounds + 3)
        (fresh s ⟨.apReq, before⟩) = some outcome ∧
      (outcome.result = none ↔ outcome.transport.opened = true) ∧
      (outcome.result = none →
        Authenticated lib w initiator before outcome.transport.events) := by
  obtain ⟨outcome, ran, safe⟩ := gssapi_is_safe io quote (gssTokens lib w quoteText initiator)
    before rounds s
  refine ⟨outcome, ran, safe.opens, ?_⟩
  intro returned
  obtain ⟨token, m, proof, m₂, offer, last, m₃, payload, requested, verified, selected, frames⟩ :=
    safe.accepted returned
  obtain ⟨enc, proves, rfl⟩ := verifyAPRep_ok lib verified
  obtain ⟨⟨wrapped, offers⟩, selects, -⟩ := selectSecurityLayer_ok lib selected
  exact ⟨token, m, proof, enc, offer, wrapped, last, payload, initialToken_ok requested, proves,
    offers, selects, frames⟩

end Library

end HmsClient.Gssapi
