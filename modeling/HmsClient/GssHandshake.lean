import HmsClient.GssMechanism

/-! The GSSAPI handshake between the client and an acceptor, over a connection that carries
their frames as bytes. The acceptor is the one of the package's tests: it checks the AP_REQ,
answers it, offers its security layers and reads the client's choice, and each of its fields
bends one of these steps. -/
namespace HmsClient.Gssapi
open Sasl

/-! ## A peer at the other end -/

section Peer
variable {π : Type}

/-- The bytes of a frame. -/
def encode (frame : Frame) : Bytes :=
  frame.status :: (putUint32 frame.payload.length ++ frame.payload)

/-- A connection: the bytes under way in each direction, and the peer. -/
structure Wire (π : Type) where
  toServer : Bytes
  toClient : Bytes
  peer : π

private theorem size_taken (n : Nat) (s : Bytes) (enough : n ≤ s.length) :
    (s.take n).toArray.size = n :=
  List.size_toArray.trans (List.length_take_of_le enough)

/-- A reader of bytes that have arrived. -/
def arrived : Inner Bytes where
  isOpen _ := true
  openInner s := (none, s)
  write _ s := (none, s)
  flush s := (none, s)
  readFull n s :=
    if enough : n ≤ s.length then
      (.ok ⟨(s.take n).toArray, size_taken n s enough⟩, s.drop n)
    else (.error (.leaf .eof), [])
  readAll limit s := (.ok ⟨s.take limit, List.length_take_le _ _⟩, s.drop limit)

/-- The peer takes a frame when it is flushed, and sends one frame at most in answer. The
client reads only once it has sent a token, which every peer that goes on answers; so a read
that finds nothing under way meets a peer whose run is over, and the end of the stream. -/
def Wire.deliver (receive : Frame → π → Option Frame × π) (wire : Wire π) : Wire π :=
  match recvNegotiate arrived wire.toServer with
  | (.error _, _) => wire
  | (.ok frame, rest) =>
    let (reply, peer) := receive frame wire.peer
    ⟨rest, wire.toClient ++ reply.elim [] encode, peer⟩

/-- The client's end of the connection. -/
def talking (receive : Frame → π → Option Frame × π) : Inner (Wire π) where
  isOpen _ := true
  openInner wire := (none, wire)
  write b wire := (none, { wire with toServer := wire.toServer ++ b })
  flush wire := (none, wire.deliver receive)
  readFull n wire :=
    let (got, rest) := arrived.readFull n wire.toClient
    (got, { wire with toClient := rest })
  readAll limit wire :=
    let (got, rest) := arrived.readAll limit wire.toClient
    (got, { wire with toClient := rest })

/-- A connection on which the client's frames have been read, and one reply may wait. -/
def waiting (reply : Option Frame) (peer : π) : Wire π := ⟨[], reply.elim [] encode, peer⟩

def Short (b : Bytes) : Prop := b.length ≤ saslMaxFrame

instance (b : Bytes) : Decidable (Short b) := inferInstanceAs (Decidable (_ ≤ _))

private theorem lengthOf_putUint32 (small : n ≤ saslMaxFrame) (status : UInt8)
    (hdr : Vector UInt8 5) (read : hdr.toList = status :: putUint32 n) : lengthOf hdr = n := by
  unfold saslMaxFrame at small
  obtain ⟨⟨octets⟩, size⟩ := hdr
  simp only [Vector.toList_mk] at read
  subst read
  simp only [lengthOf, putUint32, Vector.getElem_mk, List.getElem_toArray, List.getElem_cons_succ,
    List.getElem_cons_zero, UInt8.toNat_ofNat']
  omega

/-- A frame is read back from its bytes, and no byte after it is. -/
private theorem recvNegotiate_encode (frame : Frame) (rest : Bytes) (short : Short frame.payload) :
    recvNegotiate arrived (encode frame ++ rest) = (.ok frame, rest) := by
  obtain ⟨status, payload⟩ := frame
  have split : encode ⟨status, payload⟩ ++ rest =
      (status :: putUint32 payload.length) ++ (payload ++ rest) := by simp [encode]
  have five : (status :: putUint32 payload.length).length = 5 := rfl
  have enough : 5 ≤ (encode ⟨status, payload⟩ ++ rest).length := by
    rw [split, List.length_append, five]
    omega
  have header : (encode ⟨status, payload⟩ ++ rest).take 5 = status :: putUint32 payload.length := by
    rw [split, List.take_left' five]
  have body : (encode ⟨status, payload⟩ ++ rest).drop 5 = payload ++ rest := by
    rw [split, List.drop_left' five]
  have hdr : arrived.readFull 5 (encode ⟨status, payload⟩ ++ rest) =
      (.ok ⟨(status :: putUint32 payload.length).toArray, rfl⟩, payload ++ rest) := by
    simp only [arrived, dif_pos enough, header, body]
  have size : lengthOf ⟨(status :: putUint32 payload.length).toArray, rfl⟩ = payload.length :=
    lengthOf_putUint32 short status _ rfl
  have all : readFrame arrived payload.length (payload ++ rest) = (.ok payload, rest) := by
    simp [readFrame, arrived]
  rw [recvNegotiate, hdr]
  dsimp only
  rw [size, if_neg (Nat.not_lt.mpr short), all]
  rfl

section Client
variable (receive : Frame → π → Option Frame × π)

private theorem readFrame_talking (n : Nat) (wire : Wire π) :
    readFrame (talking receive) n wire =
      ((readFrame arrived n wire.toClient).1,
        { wire with toClient := (readFrame arrived n wire.toClient).2 }) := by
  simp only [readFrame, talking, arrived]
  split <;> rfl

private theorem recvNegotiate_talking (wire : Wire π) :
    recvNegotiate (talking receive) wire =
      ((recvNegotiate arrived wire.toClient).1,
        { wire with toClient := (recvNegotiate arrived wire.toClient).2 }) := by
  have first : (talking receive).readFull 5 wire =
      ((arrived.readFull 5 wire.toClient).1,
        { wire with toClient := (arrived.readFull 5 wire.toClient).2 }) := rfl
  rw [recvNegotiate, recvNegotiate, first]
  rcases arrived.readFull 5 wire.toClient with ⟨got, rest⟩
  cases got with
  | error err => rfl
  | ok hdr =>
    dsimp only
    by_cases large : lengthOf hdr > saslMaxFrame
    · rw [if_pos large, if_pos large]
    · rw [if_neg large, if_neg large, readFrame_talking]
      rcases readFrame arrived (lengthOf hdr) rest with ⟨body, rest'⟩
      cases body <;> rfl

private theorem recv_waiting (frame : Frame) (peer : π) (short : Short frame.payload) :
    recvNegotiate (talking receive) (waiting (some frame) peer) =
      (.ok frame, waiting none peer) := by
  have read := recvNegotiate_encode frame [] short
  rw [List.append_nil] at read
  rw [recvNegotiate_talking, waiting, Option.elim_some, read]
  rfl

private theorem recv_closed (peer : π) :
    recvNegotiate (talking receive) (waiting none peer) =
      (.error (.leaf .eof), waiting none peer) := by
  rw [recvNegotiate_talking]
  rfl

/-- A frame that may be sent reaches the peer, whose reply waits then. -/
private theorem send_waiting (frame : Frame) (peer : π) (short : Short frame.payload) :
    sendNegotiate (talking receive) frame (waiting none peer) =
      (none, waiting (receive frame peer).1 (receive frame peer).2) := by
  have read := recvNegotiate_encode frame [] short
  rw [List.append_nil] at read
  have sent : frame.status :: putUint32 frame.payload.length ++ frame.payload = encode frame := rfl
  rw [sendNegotiate, if_neg (Nat.not_lt.mpr short)]
  simp only [talking, waiting, Option.elim_none, Wire.deliver, sent, read, List.nil_append]

private theorem send_long (frame : Frame) (wire : Wire π) (long : ¬ Short frame.payload) :
    sendNegotiate (talking receive) frame wire = (some frameTooLarge, wire) :=
  if_pos (Nat.lt_of_not_le long)

/-- A handshake that failed when the peer stood at `peer`. -/
structure Stops {μ : Type} (peer : π) (outcome : Outcome (Wire π) μ) : Prop where
  error : outcome.result ≠ none
  stands : outcome.transport.inner.peer = peer

variable {μ : Type} (mech : Mech μ) (quote : Bytes → String) (rounds : Nat) {peer : π} {m : μ}
  {opened : Bool} {events : List Event}

private theorem negotiate_closed (done : Bool) :
    ∃ outcome, negotiate (talking receive) mech quote (rounds + 1) done
      ⟨waiting none peer, m, opened, events⟩ = some outcome ∧ Stops peer outcome := by
  simp only [negotiate, Sasl.round, recv_closed]
  exact ⟨_, rfl, by simp, rfl⟩

private theorem negotiate_refused (frame : Frame) (short : Short frame.payload)
    (bad : frame.status = saslBad) (done : Bool) :
    ∃ outcome, negotiate (talking receive) mech quote (rounds + 1) done
      ⟨waiting (some frame) peer, m, opened, events⟩ = some outcome ∧ Stops peer outcome := by
  simp only [negotiate, Sasl.round, recv_waiting receive frame peer short, bad]
  exact ⟨_, rfl, by simp, rfl⟩

private theorem negotiate_early (frame : Frame) (short : Short frame.payload)
    (completes : frame.status = saslComplete) (unfinished : mech.complete m = false)
    (done : Bool) :
    ∃ outcome, negotiate (talking receive) mech quote (rounds + 1) done
      ⟨waiting (some frame) peer, m, opened, events⟩ = some outcome ∧ Stops peer outcome := by
  simp only [negotiate, Sasl.round, recv_waiting receive frame peer short, completes, unfinished]
  exact ⟨_, rfl, by simp, rfl⟩

private theorem negotiate_complete (frame : Frame) (short : Short frame.payload)
    (completes : frame.status = saslComplete) (finished : mech.complete m = true) (done : Bool) :
    negotiate (talking receive) mech quote (rounds + 1) done
      ⟨waiting (some frame) peer, m, opened, events⟩ =
        some ⟨none, ⟨waiting none peer, m, true, events ++ [.received frame]⟩⟩ := by
  simp only [negotiate, Sasl.round, recv_waiting receive frame peer short, completes, finished]
  rfl

/-- A challenge is answered as the mechanism says. -/
private theorem negotiate_challenge (short : Short c) :
    negotiate (talking receive) mech quote (rounds + 1) false
      ⟨waiting (some ⟨saslOK, c⟩) peer, m, opened, events⟩ =
      resume (talking receive) mech quote rounds
        (respond (talking receive) mech (some c)
          ⟨waiting none peer, m, opened, events ++ [.received ⟨saslOK, c⟩]⟩) := by
  simp only [negotiate, Sasl.round, recv_waiting receive ⟨saslOK, c⟩ peer short]
  rfl

variable {challenge : Option Bytes} {m' : μ}

private theorem respond_fails (stepped : mech.step m challenge = (.error err, m')) :
    ∃ outcome, resume (talking receive) mech quote rounds
      (respond (talking receive) mech challenge ⟨waiting none peer, m, opened, events⟩) =
        some outcome ∧ Stops peer outcome := by
  simp only [respond, stepped]
  exact ⟨_, rfl, by simp, rfl⟩

private theorem respond_long (stepped : mech.step m challenge = (.ok (resp, done), m'))
    (long : ¬ Short resp) :
    ∃ outcome, resume (talking receive) mech quote rounds
      (respond (talking receive) mech challenge ⟨waiting none peer, m, opened, events⟩) =
        some outcome ∧ Stops peer outcome := by
  simp only [respond, stepped, send_long receive ⟨statusFor done, resp⟩ _ long]
  exact ⟨_, rfl, by simp, rfl⟩

private theorem respond_sends (stepped : mech.step m challenge = (.ok (resp, done), m'))
    (short : Short resp) (received : receive ⟨statusFor done, resp⟩ peer = (reply, peer')) :
    resume (talking receive) mech quote rounds
      (respond (talking receive) mech challenge ⟨waiting none peer, m, opened, events⟩) =
        negotiate (talking receive) mech quote rounds done
          ⟨waiting reply peer', m', opened, events ++ [.sent ⟨statusFor done, resp⟩]⟩ := by
  simp only [respond, stepped, send_waiting receive ⟨statusFor done, resp⟩ peer short, received]
  rfl

end Client

end Peer

/-! ## The acceptor -/

/-- What only the acceptor calls of the library, with its keytab. -/
structure Service (ρ : Type) where
  unmarshalAPReq : Bytes → Except Err ρ
  mutualRequired : ρ → Bool
  /-- The session key of the ticket and the authenticator, if the request is valid. -/
  verifyAPREQ : ρ → Except Err (Option (EncryptionKey × Authenticator))
  marshalKRBError : ρ → Except Err Bytes
  marshalEncAPRepPart : EncAPRepPart → Except Err Bytes
  getEncryptedData : Bytes → EncryptionKey → KeyUsage → (kvno : Int) → Except Err EncryptedData
  marshalAPRep : EncryptedData → Except Err Bytes

/-- The fields of `gssAcceptor`, each of which bends a step, and its source of random bytes. -/
structure Acceptor where
  rejectWith : Bytes := []
  apRepKey : Option EncryptionKey := none
  apRepSkew : Int := 0
  subkey : Bool := false
  layers : UInt8
  rrc : UInt16 := 0
  corruptOffer : Bool := false
  completeAfterAPReq : Bool := false
  krbError : Bool := false
  random : (n : Nat) → Vector UInt8 n

/-- Where `run` stands: which frame it waits for, or what it returned. -/
inductive Stage where
  | start
  | apReq
  | established
  | offered
  | ended (result : Option Err)

/-- `run` between two frames, with its variable `ctxKey`. -/
structure Party where
  stage : Stage := .start
  ctxKey : EncryptionKey := {}
  selected : UInt8 := 0

def uint32LE (b : Bytes) : UInt32 :=
  b.foldr (fun c v => v <<< 8 ||| c.toUInt32) 0

/-- The verb `%08x`. -/
def hex8 (v : UInt32) : String :=
  hex2 (v >>> 24).toUInt8 ++ hex2 (v >>> 16).toUInt8 ++ hex2 (v >>> 8).toUInt8 ++ hex2 v.toUInt8

def checkGSSChecksum (sum : Checksum) : Except Err Unit :=
  if sum.cksumType ≠ chksumtypeGSSAPI then
    .error (plainError ("authenticator checksum type is " ++ toString sum.cksumType ++ ", want " ++
      toString chksumtypeGSSAPI ++ " (GSSAPI)"))
  else if sum.checksum.length ≠ 24 then
    .error (plainError ("authenticator checksum is " ++ toString sum.checksum.length ++
      " bytes, want 24"))
  else if uint32LE (sum.checksum.take 4) ≠ 16 then
    .error (plainError ("checksum length field is " ++
      toString (uint32LE (sum.checksum.take 4)) ++ ", want 16"))
  else
    match ((sum.checksum.drop 4).take 16).zipIdx.find? (·.1 ≠ 0) with
    | some (b, i) =>
      .error (plainError ("channel binding octet " ++ toString i ++ " is 0x" ++ hex2 b ++
        ", want 0"))
    | none =>
      let want := gssContextFlags.foldl (· ||| ·) 0
      if uint32LE (sum.checksum.drop 20) ≠ want then
        .error (plainError ("context flags are 0x" ++ hex8 (uint32LE (sum.checksum.drop 20)) ++
          ", want 0x" ++ hex8 want))
      else .ok ()

section Acceptor
variable {ρ : Type} (lib : Krb5) (svc : Service ρ) (w : IntWidth) (a : Acceptor)

def verifyAPReq (token : Bytes) : Except Err (ρ × EncryptionKey × Authenticator) :=
  match parseKrb5Token w lib.toEncoders token with
  | .error failure => .error failure.err
  | .ok (tokID, msg) =>
    if tokID ≠ tokIDAPReq then
      .error (plainError ("expected an AP_REQ, got token 0x" ++ hex2 tokID.1 ++ hex2 tokID.2))
    else
      match svc.unmarshalAPReq msg with
      | .error err => .error err
      | .ok apReq =>
        if svc.mutualRequired apReq then
          match svc.verifyAPREQ apReq with
          | .error err => .error (wrapping "AP_REQ verification failed" err)
          | .ok none => .error (plainError "AP_REQ verification failed")
          | .ok (some (sessionKey, auth)) =>
            match checkGSSChecksum auth.cksum with
            | .error err => .error err
            | .ok () => .ok (apReq, sessionKey, auth)
        else .error (plainError "the client did not request mutual authentication")

/-- The subkey of an AP_REP, empty if the acceptor sends none. -/
def Acceptor.subkeyFor (sessionKey : EncryptionKey) : EncryptionKey :=
  if a.subkey then ⟨sessionKey.keyType, (a.random sessionKey.keyValue.length).toList⟩ else {}

/-- The acceptor's key of the context. -/
def Acceptor.ctxKeyFor (sessionKey : EncryptionKey) : EncryptionKey :=
  if a.subkey then a.subkeyFor sessionKey else sessionKey

def Acceptor.apRepToken (auth : Authenticator) (sessionKey : EncryptionKey) : Except Err Bytes :=
  match svc.marshalEncAPRepPart
      ⟨auth.ctime + a.apRepSkew, auth.cusec, a.subkeyFor sessionKey⟩ with
  | .error err => .error err
  | .ok plain =>
    match svc.getEncryptedData plain (a.apRepKey.getD sessionKey) .apRepEncPart 0 with
    | .error err => .error err
    | .ok ed =>
      match svc.marshalAPRep ed with
      | .error err => .error err
      | .ok b => krb5Token lib.toEncoders tokIDAPRep b

def krbErrorToken (apReq : ρ) : Except Err Bytes :=
  match svc.marshalKRBError apReq with
  | .error err => .error err
  | .ok b => krb5Token lib.toEncoders tokIDKRBError b

/-- The token that the acceptor signs. -/
def Acceptor.unsigned (sumLen : UInt16) (payload : Bytes) : WrapToken :=
  { flags := if a.subkey then wrapFlagSentByAcceptor ||| wrapFlagAcceptorSubkey
      else wrapFlagSentByAcceptor
    ec := sumLen
    rrc := 0
    sndSeqNum := 0
    payload := payload }

/-- `rotateWrapToken` of the package's tests. -/
def Acceptor.rotate (b : Bytes) : Bytes :=
  if (b.drop hdrLen).length = 0 then b
  else rotateWrapToken (b.take hdrLen) (b.drop hdrLen) a.rrc

def Acceptor.wrap (key : EncryptionKey) (payload : Bytes) : Except Err Bytes :=
  match checksumLen lib key with
  | .error err => .error err
  | .ok sumLen =>
    match lib.setCheckSum (a.unsigned sumLen payload) key .acceptorSeal with
    | .error err => .error err
    | .ok token =>
      match lib.marshalToken token with
      | .error err => .error err
      | .ok b => .ok (a.rotate (if a.corruptOffer then b.modify hdrLen (· ^^^ 0xFF) else b))

def Acceptor.unwrap (key : EncryptionKey) (b : Bytes) : Except Err Bytes :=
  match lib.unmarshalToken b false with
  | .error err => .error err
  | .ok token =>
    match lib.verifyToken token key .initiatorSeal with
    | .error err => .error err
    | .ok false => .error (plainError "the client's wrap token failed verification")
    | .ok true => .ok token.payload

/-- The layers on offer, and the largest message. -/
def Acceptor.offer : Bytes := [a.layers, 0xFF, 0xFF, 0xFF]

/-- `run` returns an error; the connection is closed. -/
def Party.fails (p : Party) (err : Err) : Option Frame × Party :=
  (none, { p with stage := .ended (some err) })

/-- `sendNegotiate` of the acceptor, after which it stands at `next`. -/
def Party.sends (p : Party) (frame : Frame) (next : Stage) : Option Frame × Party :=
  if Short frame.payload then (some frame, { p with stage := next }) else p.fails frameTooLarge

/-- What `run` does with a frame; `quote` is the verb `%q`. -/
def Party.receive (quote : Bytes → String) (frame : Frame) (p : Party) : Option Frame × Party :=
  match p.stage with
  | .start =>
    if frame.status ≠ saslStart then
      p.fails (plainError ("expected START, got status " ++ toString frame.status))
    else if frame.payload ≠ (startFrame "GSSAPI").payload then
      p.fails (plainError ("expected mechanism GSSAPI, got " ++ quote frame.payload))
    else (none, { p with stage := .apReq })
  | .apReq =>
    if frame.status ≠ saslOK then
      p.fails (plainError ("expected OK with the initial response, got status " ++
        toString frame.status))
    else
      match verifyAPReq lib svc w frame.payload with
      | .error err => p.fails err
      | .ok (apReq, sessionKey, auth) =>
        if a.rejectWith ≠ [] then p.sends ⟨saslBad, a.rejectWith⟩ (.ended none)
        else if a.completeAfterAPReq then p.sends ⟨saslComplete, []⟩ (.ended none)
        else if a.krbError then
          match krbErrorToken lib svc apReq with
          | .error err => p.fails err
          | .ok token => p.sends ⟨saslOK, token⟩ (.ended none)
        else
          match a.apRepToken lib svc auth sessionKey with
          | .error err => p.fails err
          | .ok token =>
            { p with ctxKey := a.ctxKeyFor sessionKey }.sends ⟨saslOK, token⟩ .established
  | .established =>
    if frame.status ≠ saslOK ∨ frame.payload.length ≠ 0 then
      p.fails (plainError ("expected an empty OK after the AP_REP, got status " ++
        toString frame.status ++ " with " ++ toString frame.payload.length ++ " bytes"))
    else
      match a.wrap lib p.ctxKey a.offer with
      | .error err => p.fails err
      | .ok offer => p.sends ⟨saslOK, offer⟩ .offered
  | .offered =>
    if frame.status ≠ saslComplete then
      p.fails (plainError ("expected COMPLETE with the layer selection, got status " ++
        toString frame.status))
    else
      match Acceptor.unwrap lib p.ctxKey frame.payload with
      | .error err => p.fails err
      | .ok selection =>
        if selection.length ≠ 4 then
          p.fails (plainError ("layer selection is " ++ toString selection.length ++
            " bytes, want 4"))
        else
          { p with selected := selection.getD 0 0 }.sends ⟨saslComplete, []⟩ (.ended none)
  | .ended _ => (none, p)

/-! ## The run -/

variable {τ : Type} (quote : Bytes → String) (quoteText : String → String)
  (initiator : Initiator τ ρ)

/-- The calls of a handshake that runs to its end, in their order. -/
structure Reached (before : Keys) (token proof offer last selection : Bytes) (apReq : ρ)
    (auth : Authenticator) (sessionKey : EncryptionKey) (m₁ m₂ m₃ : Keys) : Prop where
  initial : initialToken lib.toEncoders initiator before = (.ok token, m₁)
  tokenShort : Short token
  accepted : verifyAPReq lib svc w token = .ok (apReq, sessionKey, auth)
  unrejected : a.rejectWith = []
  uncompleted : a.completeAfterAPReq = false
  noError : a.krbError = false
  answered : a.apRepToken lib svc auth sessionKey = .ok proof
  proofShort : Short proof
  verified : verifyAPRep lib w quoteText proof m₁ = (.ok (), m₂)
  wrapped : a.wrap lib (a.ctxKeyFor sessionKey) a.offer = .ok offer
  offerShort : Short offer
  selected : selectSecurityLayer lib offer m₂ = (.ok last, m₃)
  lastShort : Short last
  unwrapped : Acceptor.unwrap lib (a.ctxKeyFor sessionKey) last = .ok selection
  four : selection.length = 4

/-- `OpenContext` against the acceptor. -/
def handshake (rounds : Nat) (before : Keys) :
    Option (Outcome (Wire Party) (GssapiMech Keys)) :=
  openContext (talking (Party.receive lib svc w a quote))
    (gssapiMech (gssTokens lib w quoteText initiator)) quote (rounds + 3)
    (fresh (waiting none {}) ⟨.apReq, before⟩)

/-- The acceptor at the end of a handshake that succeeded. -/
def settled (ctxKey : EncryptionKey) (selection : Bytes) : Party :=
  ⟨.ended none, ctxKey, selection.getD 0 0⟩

private theorem short_nil : Short [] := Nat.zero_le _

private theorem sends_short {p : Party} {frame : Frame} (next : Stage) (short : Short frame.payload) :
    p.sends frame next = (some frame, { p with stage := next }) :=
  if_pos short

variable {oid token : Bytes} {before m m' : Keys}

/-- What a frame carries is parsed back on either width of `int`. -/
private theorem parse_short (documented : enc.Documented oid)
    (wrapped : krb5Token enc tokID msg = .ok token) (short : Short token) :
    parseKrb5Token w enc token = .ok (tokID, msg) := by
  have holds := documented.length_le wrapped
  have bound : token.length ≤ 67108864 := short
  apply documented.parse_krb5Token w wrapped (by omega)
  rw [Fits]
  cases w <;> simp only [IntWidth.half] <;> omega

/-- The mechanism's name is sent, and the acceptor waits for the AP_REQ. -/
private theorem handshake_starts (rounds : Nat) (before : Keys) :
    handshake lib svc w a quote quoteText initiator rounds before =
      resume (talking (Party.receive lib svc w a quote))
        (gssapiMech (gssTokens lib w quoteText initiator)) quote (rounds + 3)
        (respond (talking (Party.receive lib svc w a quote))
          (gssapiMech (gssTokens lib w quoteText initiator)) none
          ⟨waiting none { stage := .apReq }, ⟨.apReq, before⟩, false,
            [.sent (startFrame "GSSAPI")]⟩) := by
  have short : Short (startFrame "GSSAPI").payload := by decide
  have sent := send_waiting (Party.receive lib svc w a quote) (startFrame "GSSAPI") {} short
  have named : Party.receive lib svc w a quote (startFrame "GSSAPI") {} =
      (none, { stage := .apReq }) := rfl
  rw [named] at sent
  unfold handshake openContext
  simp only [fresh, talking, gssapiMech, if_true]
  simp only [talking] at sent
  rw [sent]
  rfl

/-- The ways the acceptor may answer the AP_REQ. All but the last leave it without a
selection, and end its run. -/
inductive Answers (token : Bytes) : Option Frame × Party → Prop where
  | closes (p : Party) (unselected : p.selected = 0) : Answers token (none, p)
  | rejects (p : Party) (unselected : p.selected = 0) (payload : Bytes) (short : Short payload) :
      Answers token (some ⟨saslBad, payload⟩, p)
  | completes (p : Party) (unselected : p.selected = 0) :
      Answers token (some ⟨saslComplete, []⟩, p)
  | reports (p : Party) (unselected : p.selected = 0) (b report : Bytes)
      (wrapped : krb5Token lib.toEncoders tokIDKRBError b = .ok report) (short : Short report) :
      Answers token (some ⟨saslOK, report⟩, p)
  | proves (apReq : ρ) (sessionKey : EncryptionKey) (auth : Authenticator) (proof : Bytes)
      (accepted : verifyAPReq lib svc w token = .ok (apReq, sessionKey, auth))
      (unrejected : a.rejectWith = []) (uncompleted : a.completeAfterAPReq = false)
      (noError : a.krbError = false) (answered : a.apRepToken lib svc auth sessionKey = .ok proof)
      (short : Short proof) :
      Answers token (some ⟨saslOK, proof⟩, ⟨.established, a.ctxKeyFor sessionKey, 0⟩)

private theorem krbErrorToken_ok {apReq : ρ} (ran : krbErrorToken lib svc apReq = .ok report) :
    ∃ b, krb5Token lib.toEncoders tokIDKRBError b = .ok report := by
  unfold krbErrorToken at ran
  cases marshalled : svc.marshalKRBError apReq with
  | error err => simp only [marshalled] at ran; cases ran
  | ok b => exact ⟨b, by simpa only [marshalled] using ran⟩

private theorem receive_request (token : Bytes) :
    Answers lib svc w a token
      (Party.receive lib svc w a quote ⟨saslOK, token⟩ { stage := .apReq }) := by
  simp only [Party.receive, ne_eq, not_true_eq_false, if_false]
  cases accepted : verifyAPReq lib svc w token with
  | error err => exact .closes _ rfl
  | ok found =>
    obtain ⟨apReq, sessionKey, auth⟩ := found
    dsimp only
    by_cases unrejected : a.rejectWith = []
    · rw [if_neg (not_not.mpr unrejected)]
      cases uncompleted : a.completeAfterAPReq with
      | true =>
        rw [if_pos rfl, sends_short _ short_nil]
        exact .completes _ rfl
      | false =>
        rw [if_neg Bool.false_ne_true]
        cases noError : a.krbError with
        | true =>
          rw [if_pos rfl]
          cases made : krbErrorToken lib svc apReq with
          | error err => exact .closes _ rfl
          | ok report =>
            obtain ⟨b, wrapped⟩ := krbErrorToken_ok lib svc made
            by_cases short : Short report
            · dsimp only
              rw [sends_short _ short]
              exact .reports _ rfl b report wrapped short
            · dsimp only
              rw [Party.sends, if_neg short]
              exact .closes _ rfl
        | false =>
          rw [if_neg Bool.false_ne_true]
          cases answered : a.apRepToken lib svc auth sessionKey with
          | error err => exact .closes _ rfl
          | ok proof =>
            by_cases short : Short proof
            · dsimp only
              rw [sends_short _ short]
              exact .proves apReq sessionKey auth proof accepted unrejected uncompleted noError
                answered short
            · dsimp only
              rw [Party.sends, if_neg short]
              exact .closes _ rfl
    · rw [if_pos unrejected]
      by_cases short : Short a.rejectWith
      · rw [sends_short _ short]
        exact .rejects _ rfl _ short
      · rw [Party.sends, if_neg short]
        exact .closes _ rfl

/-- The empty answer to the AP_REP gets the offer, or the connection is closed. -/
private theorem receive_empty (ctxKey : EncryptionKey) :
    (∃ p, p.selected = 0 ∧ Party.receive lib svc w a quote ⟨saslOK, []⟩
        ⟨.established, ctxKey, 0⟩ = (none, p)) ∨
      ∃ offer, a.wrap lib ctxKey a.offer = .ok offer ∧ Short offer ∧
        Party.receive lib svc w a quote ⟨saslOK, []⟩ ⟨.established, ctxKey, 0⟩ =
          (some ⟨saslOK, offer⟩, ⟨.offered, ctxKey, 0⟩) := by
  have status : ¬ (saslOK ≠ saslOK ∨ ([] : Bytes).length ≠ 0) := by simp
  simp only [Party.receive, if_neg status]
  cases made : a.wrap lib ctxKey a.offer with
  | error err => exact .inl ⟨_, rfl, rfl⟩
  | ok offer =>
    by_cases short : Short offer
    · exact .inr ⟨offer, rfl, short, sends_short _ short⟩
    · exact .inl ⟨_, rfl, if_neg short⟩

/-- The client's selection is read and completed, or the connection is closed. -/
private theorem receive_selection (ctxKey : EncryptionKey) (last : Bytes) :
    (∃ p, p.selected = 0 ∧ Party.receive lib svc w a quote ⟨saslComplete, last⟩
        ⟨.offered, ctxKey, 0⟩ = (none, p)) ∨
      ∃ selection, Acceptor.unwrap lib ctxKey last = .ok selection ∧ selection.length = 4 ∧
        Party.receive lib svc w a quote ⟨saslComplete, last⟩ ⟨.offered, ctxKey, 0⟩ =
          (some ⟨saslComplete, []⟩, settled ctxKey selection) := by
  simp only [Party.receive, ne_eq, not_true_eq_false, if_false]
  cases opened : Acceptor.unwrap lib ctxKey last with
  | error err => exact .inl ⟨_, rfl, rfl⟩
  | ok selection =>
    by_cases four : selection.length = 4
    · refine .inr ⟨selection, rfl, four, ?_⟩
      simp only [four, not_true_eq_false, if_false]
      exact sends_short _ short_nil
    · exact .inl ⟨_, rfl, if_pos four⟩

/-- A KRB-ERROR is never taken for a proof. -/
private theorem verifyAPRep_krbError (documented : lib.Documented oid)
    (wrapped : krb5Token lib.toEncoders tokIDKRBError b = .ok report) (short : Short report)
    (m : Keys) : ∃ err, verifyAPRep lib w quoteText report m = (.error err, m) := by
  rw [verifyAPRep, parse_short w documented wrapped short]
  dsimp only
  rw [if_pos rfl]
  cases lib.unmarshalKRBError b with
  | error err => exact ⟨_, rfl⟩
  | ok text => exact ⟨_, rfl⟩

/-- A step of the mechanism, by what its round made. -/
def advance (stage next : GssStage) (done : Bool) (m : Keys) :
    Except Err Bytes → Except Err (Bytes × Bool) × GssapiMech Keys
  | .error err => (.error err, ⟨stage, m⟩)
  | .ok resp => (.ok (resp, done), ⟨next, m⟩)

private theorem step_request (initial : initialToken lib.toEncoders initiator before = (made, m)) :
    (gssapiMech (gssTokens lib w quoteText initiator)).step ⟨.apReq, before⟩ none =
      advance .apReq .apRep false m made := by
  cases made <;> simp only [gssapiMech, gssTokens, initial, advance]

private theorem step_proof (verified : verifyAPRep lib w quoteText proof m = (checked, m')) :
    (gssapiMech (gssTokens lib w quoteText initiator)).step ⟨.apRep, m⟩ (some proof) =
      advance .apRep .secLayer false m' (checked.map fun _ => []) := by
  cases checked <;>
    simp only [gssapiMech, gssTokens, Option.getD_some, verified, advance, Except.map]

private theorem step_layer (selected : selectSecurityLayer lib offer m = (made, m')) :
    (gssapiMech (gssTokens lib w quoteText initiator)).step ⟨.secLayer, m⟩ (some offer) =
      advance .secLayer .done true m' made := by
  cases made <;> simp only [gssapiMech, gssTokens, Option.getD_some, selected, advance]

section Rounds
variable (rounds : Nat)

/-- The offer of layers, once the client has it. -/
private theorem offer_cases (ctxKey : EncryptionKey) (offer : Bytes) (short : Short offer)
    (m : Keys) (events : List Event) :
    (∃ outcome p, negotiate (talking (Party.receive lib svc w a quote))
        (gssapiMech (gssTokens lib w quoteText initiator)) quote (rounds + 2) false
        ⟨waiting (some ⟨saslOK, offer⟩) ⟨.offered, ctxKey, 0⟩, ⟨.secLayer, m⟩, false, events⟩ =
          some outcome ∧ Stops p outcome ∧ p.selected = 0) ∨
      ∃ last m' selection, selectSecurityLayer lib offer m = (.ok last, m') ∧ Short last ∧
        Acceptor.unwrap lib ctxKey last = .ok selection ∧ selection.length = 4 := by
  rw [negotiate_challenge _ _ quote (rounds + 1) short]
  rcases selected : selectSecurityLayer lib offer m with ⟨made, m'⟩
  have stepped := step_layer lib w quoteText initiator selected
  cases made with
  | error err =>
    obtain ⟨outcome, ran, stops⟩ := respond_fails _ _ quote (rounds + 1) stepped
    exact .inl ⟨outcome, _, ran, stops, rfl⟩
  | ok last =>
    by_cases lastShort : Short last
    · rcases receive_selection lib svc w a quote ctxKey last with
        ⟨p, unselected, received⟩ | ⟨selection, unwrapped, four, -⟩
      · rw [respond_sends _ _ quote (rounds + 1) stepped lastShort received]
        obtain ⟨outcome, ran, stops⟩ := negotiate_closed _ _ quote rounds true
        exact .inl ⟨outcome, p, ran, stops, unselected⟩
      · exact .inr ⟨last, m', selection, rfl, lastShort, unwrapped, four⟩
    · obtain ⟨outcome, ran, stops⟩ := respond_long _ _ quote (rounds + 1) stepped lastShort
      exact .inl ⟨outcome, _, ran, stops, rfl⟩

/-- The acceptor's proof, once the client has it. -/
private theorem proof_cases (ctxKey : EncryptionKey) (proof : Bytes) (short : Short proof)
    (m : Keys) (events : List Event) :
    (∃ outcome p, negotiate (talking (Party.receive lib svc w a quote))
        (gssapiMech (gssTokens lib w quoteText initiator)) quote (rounds + 3) false
        ⟨waiting (some ⟨saslOK, proof⟩) ⟨.established, ctxKey, 0⟩, ⟨.apRep, m⟩, false, events⟩ =
          some outcome ∧ Stops p outcome ∧ p.selected = 0) ∨
      ∃ m₂ offer last m₃ selection, verifyAPRep lib w quoteText proof m = (.ok (), m₂) ∧
        a.wrap lib ctxKey a.offer = .ok offer ∧ Short offer ∧
        selectSecurityLayer lib offer m₂ = (.ok last, m₃) ∧ Short last ∧
        Acceptor.unwrap lib ctxKey last = .ok selection ∧ selection.length = 4 := by
  rw [negotiate_challenge _ _ quote (rounds + 2) short]
  rcases verified : verifyAPRep lib w quoteText proof m with ⟨checked, m₂⟩
  have stepped := step_proof lib w quoteText initiator verified
  cases checked with
  | error err =>
    obtain ⟨outcome, ran, stops⟩ := respond_fails _ _ quote (rounds + 2) stepped
    exact .inl ⟨outcome, _, ran, stops, rfl⟩
  | ok done =>
    rcases receive_empty lib svc w a quote ctxKey with
      ⟨p, unselected, received⟩ | ⟨offer, wrapped, offerShort, received⟩
    · rw [respond_sends _ _ quote (rounds + 2) stepped short_nil received]
      obtain ⟨outcome, ran, stops⟩ := negotiate_closed _ _ quote (rounds + 1) false
      exact .inl ⟨outcome, p, ran, stops, unselected⟩
    · rw [respond_sends _ _ quote (rounds + 2) stepped short_nil received]
      rcases offer_cases lib svc w a quote quoteText initiator rounds ctxKey offer offerShort m₂ _
        with fails | ⟨last, m₃, selection, selected, lastShort, unwrapped, four⟩
      · exact .inl fails
      · exact .inr ⟨m₂, offer, last, m₃, selection, rfl, wrapped, offerShort, selected, lastShort,
          unwrapped, four⟩

/-- A handshake fails and leaves the acceptor without a selection, or every call of it
succeeded. -/
private theorem handshake_cases (documented : lib.Documented oid) (before : Keys) :
    (∃ outcome p, handshake lib svc w a quote quoteText initiator rounds before = some outcome ∧
      Stops p outcome ∧ p.selected = 0) ∨
      ∃ token proof offer last selection apReq auth sessionKey m₁ m₂ m₃,
        Reached lib svc w a quoteText initiator before token proof offer last selection apReq auth
          sessionKey m₁ m₂ m₃ := by
  rw [handshake_starts]
  rcases initial : initialToken lib.toEncoders initiator before with ⟨made, m₁⟩
  have stepped := step_request lib w quoteText initiator initial
  cases made with
  | error err =>
    obtain ⟨outcome, ran, stops⟩ := respond_fails _ _ quote (rounds + 3) stepped
    exact .inl ⟨outcome, _, ran, stops, rfl⟩
  | ok token =>
    by_cases tokenShort : Short token
    · have answers := receive_request lib svc w a quote token
      rcases received : Party.receive lib svc w a quote ⟨saslOK, token⟩ { stage := .apReq } with
        ⟨reply, p⟩
      rw [respond_sends _ _ quote (rounds + 3) stepped tokenShort received]
      rw [received] at answers
      cases answers with
      | closes _ unselected =>
        obtain ⟨outcome, ran, stops⟩ := negotiate_closed _ _ quote (rounds + 2) false
        exact .inl ⟨outcome, p, ran, stops, unselected⟩
      | rejects _ unselected payload short =>
        obtain ⟨outcome, ran, stops⟩ := negotiate_refused _ _ quote (rounds + 2)
          ⟨saslBad, payload⟩ short rfl false
        exact .inl ⟨outcome, p, ran, stops, unselected⟩
      | completes _ unselected =>
        obtain ⟨outcome, ran, stops⟩ := negotiate_early (Party.receive lib svc w a quote)
          (gssapiMech (gssTokens lib w quoteText initiator)) quote (rounds + 2) (m := ⟨.apRep, m₁⟩)
          ⟨saslComplete, []⟩ short_nil rfl rfl false
        exact .inl ⟨outcome, p, ran, stops, unselected⟩
      | reports _ unselected b report wrapped short =>
        obtain ⟨err, refused⟩ := verifyAPRep_krbError lib w quoteText documented wrapped short m₁
        rw [negotiate_challenge _ _ quote (rounds + 2) short]
        obtain ⟨outcome, ran, stops⟩ := respond_fails _ _ quote (rounds + 2)
          (step_proof lib w quoteText initiator refused)
        exact .inl ⟨outcome, p, ran, stops, unselected⟩
      | proves apReq sessionKey auth proof accepted unrejected uncompleted noError answered short =>
        rcases proof_cases lib svc w a quote quoteText initiator rounds _ proof short m₁ _ with
          fails | ⟨m₂, offer, last, m₃, selection, verified, wrapped, offerShort, selected,
            lastShort, unwrapped, four⟩
        · exact .inl fails
        · exact .inr ⟨token, proof, offer, last, selection, apReq, auth, sessionKey, m₁, m₂, m₃,
            { initial, tokenShort, accepted, unrejected, uncompleted, noError, answered,
              proofShort := short, verified, wrapped, offerShort, selected, lastShort, unwrapped,
              four }⟩
    · obtain ⟨outcome, ran, stops⟩ := respond_long _ _ quote (rounds + 3) stepped tokenShort
      exact .inl ⟨outcome, _, ran, stops, rfl⟩

/-- Where every call succeeds the transport opens, and the acceptor has read the selection. -/
private theorem reached_opens {before : Keys}
    (reached : Reached lib svc w a quoteText initiator before token proof offer last selection
      apReq auth sessionKey m₁ m₂ m₃) :
    ∃ outcome, handshake lib svc w a quote quoteText initiator rounds before = some outcome ∧
      outcome.result = none ∧ outcome.transport.mech = ⟨.done, m₃⟩ ∧
      outcome.transport.inner.peer = settled (a.ctxKeyFor sessionKey) selection := by
  have request : Party.receive lib svc w a quote ⟨saslOK, token⟩ { stage := .apReq } =
      (some ⟨saslOK, proof⟩, ⟨.established, a.ctxKeyFor sessionKey, 0⟩) := by
    simp only [Party.receive, reached.accepted, reached.unrejected, reached.uncompleted,
      reached.noError, reached.answered, ne_eq, not_true_eq_false, if_false, Bool.false_eq_true]
    exact sends_short _ reached.proofShort
  have empty : Party.receive lib svc w a quote ⟨saslOK, []⟩
      ⟨.established, a.ctxKeyFor sessionKey, 0⟩ =
        (some ⟨saslOK, offer⟩, ⟨.offered, a.ctxKeyFor sessionKey, 0⟩) := by
    simp only [Party.receive, reached.wrapped, ne_eq, not_true_eq_false, List.length_nil, or_self,
      if_false]
    exact sends_short _ reached.offerShort
  have selects : Party.receive lib svc w a quote ⟨saslComplete, last⟩
      ⟨.offered, a.ctxKeyFor sessionKey, 0⟩ =
        (some ⟨saslComplete, []⟩, settled (a.ctxKeyFor sessionKey) selection) := by
    simp only [Party.receive, reached.unwrapped, reached.four, ne_eq, not_true_eq_false, if_false]
    exact sends_short _ short_nil
  rw [handshake_starts,
    respond_sends _ _ quote (rounds + 3) (step_request lib w quoteText initiator reached.initial)
      reached.tokenShort request,
    negotiate_challenge _ _ quote (rounds + 2) reached.proofShort,
    respond_sends _ _ quote (rounds + 2) (step_proof lib w quoteText initiator reached.verified)
      short_nil empty,
    negotiate_challenge _ _ quote (rounds + 1) reached.offerShort,
    respond_sends _ _ quote (rounds + 1) (step_layer lib w quoteText initiator reached.selected)
      reached.lastShort selects,
    negotiate_complete _ _ quote rounds ⟨saslComplete, []⟩ short_nil rfl rfl true]
  exact ⟨_, rfl, rfl, rfl, rfl⟩

end Rounds

/-! ## Agreement -/

/-- An ideal library. Its encoders do what they document; what is encrypted decrypts under its
key only, and a checksum is that of one payload and one key. A token is a header, the payload
and the checksum, and times are sent in whole seconds. -/
structure Ideal : Prop where
  documented : ∃ oid, lib.Documented oid
  unassigned : ∀ et, lib.getEtype 0 ≠ .ok et
  sealing : ∀ plain key usage kvno ed, svc.getEncryptedData plain key usage kvno = .ok ed →
    (∃ et, lib.getEtype key.keyType = .ok et ∧
      et.confounderByteSize + et.hmacBitLength.tdiv 8 ≤ ed.cipher.length) ∧
    ∀ key' plain', lib.decryptEncPart ed key' usage = .ok plain' ↔ key' = key ∧ plain' = plain
  part : ∀ enc b, svc.marshalEncAPRepPart enc = .ok b →
    lib.unmarshalEncAPRepPart b = .ok { enc with ctime := truncateSecond enc.ctime }
  apRep : ∀ ed b, svc.marshalAPRep ed = .ok b → lib.unmarshalAPRep b = .ok ed
  signing : ∀ token key usage sumLen signed, checksumLen lib key = .ok sumLen →
    lib.setCheckSum token key usage = .ok signed →
    signed = { token with checkSum := signed.checkSum } ∧
    signed.checkSum.length = sumLen.toNat ∧
    ∀ key' payload, payload.length = token.payload.length →
      (lib.verifyToken { signed with payload := payload } key' usage = .ok true ↔
        key' = key ∧ payload = token.payload)
  layout : ∀ token b, token.checkSum.length = token.ec.toNat → token.rrc = 0 →
    lib.marshalToken token = .ok b →
    ∃ header, header.length = hdrLen ∧ (header.drop 6).take 2 = [0, 0] ∧
      b = header ++ (token.payload ++ token.checkSum) ∧
      ∀ payload, payload.length = token.payload.length →
        lib.unmarshalToken (header ++ (payload ++ token.checkSum))
          (token.flags &&& wrapFlagSentByAcceptor ≠ 0) = .ok { token with payload := payload }

/-- A request that the service finds valid holds the key and the authenticator of the
client that built it. -/
def Tied : Prop :=
  ∀ ticket key auth apReq b apReq' key' auth',
    initiator.newAPReq ticket key auth = .ok apReq →
    initiator.marshal (initiator.setMutualRequired apReq) = .ok b →
    svc.unmarshalAPReq b = .ok apReq' →
    svc.verifyAPREQ apReq' = .ok (some (key', auth')) →
    key' = key ∧ auth' = auth

/-- An acceptor none of whose bends breaks the handshake. It may rotate its offer by any
count, send a subkey or none, and skew the time by less than the second that is sent. -/
structure Fair (sessionKey : EncryptionKey) : Prop where
  unrejected : a.rejectWith = []
  uncompleted : a.completeAfterAPReq = false
  noError : a.krbError = false
  key : a.apRepKey.getD sessionKey = sessionKey
  early : 0 ≤ a.apRepSkew
  late : a.apRepSkew < 1000000000
  auth : a.layers &&& qopAuth ≠ 0
  uncorrupted : a.corruptOffer = false

/-- The keys after an honest AP_REP. -/
def Acceptor.established (m : Keys) : Keys :=
  m.establish ⟨m.auth.ctime, m.auth.cusec, a.subkeyFor m.sessionKey⟩

/-- The calls of the library that both sides need succeed, and no token is too long for a
frame. -/
structure Served (token : Bytes) (m : Keys) : Prop where
  tokenShort : Short token
  accepted : ∃ b apReq, krb5Token lib.toEncoders tokIDAPReq b = .ok token ∧
    svc.unmarshalAPReq b = .ok apReq ∧ svc.mutualRequired apReq = true ∧
    ∃ found, svc.verifyAPREQ apReq = .ok (some found)
  answered : ∃ proof, a.apRepToken lib svc m.auth m.sessionKey = .ok proof ∧ Short proof
  offered : ∃ offer, a.wrap lib (a.ctxKeyFor m.sessionKey) a.offer = .ok offer ∧ Short offer
  selected : ∃ last m', wrap lib [qopAuth, 0, 0, 0] (a.established m) = (.ok last, m') ∧
    Short last

/-- The payload that the offer shows. -/
def Acceptor.shown : Bytes :=
  if a.corruptOffer then a.offer.modify 0 (· ^^^ 0xFF) else a.offer

private theorem shown_eq_offer : a.shown = a.offer ↔ a.corruptOffer = false := by
  have flips (c : UInt8) : c ^^^ 0xFF ≠ c := by
    intro same
    have cancelled := congrArg (c ^^^ ·) same
    simp only [← UInt8.xor_assoc, UInt8.xor_self, UInt8.zero_xor] at cancelled
    cases cancelled
  unfold Acceptor.shown
  cases a.corruptOffer with
  | false => simp
  | true => simp [Acceptor.offer, flips]

private theorem length_shown : a.shown.length = a.offer.length := by
  unfold Acceptor.shown
  split <;> simp

private theorem modify_after (header data : Bytes) (f : UInt8 → UInt8) :
    (header ++ data).modify header.length f = header ++ data.modify 0 f := by
  induction header with
  | nil => rfl
  | cons c rest ih => simp [ih]

private theorem unrotated_rotate (header data : Bytes) (full : header.length = hdrLen)
    (cleared : (header.drop 6).take 2 = [0, 0]) (some : data ≠ []) :
    hdrLen ≤ (a.rotate (header ++ data)).length ∧
      unrotated (a.rotate (header ++ data)) = header ++ data := by
  have taken : (header ++ data).take hdrLen = header := List.take_left' full
  have dropped : (header ++ data).drop hdrLen = data := List.drop_left' full
  rw [Acceptor.rotate, taken, dropped, if_neg (by simpa using some)]
  refine ⟨?_, unrotated_rotateWrapToken header data a.rrc full cleared⟩
  have six : header.length = 16 := full
  simp only [rotateWrapToken, setRRC, putUint16, hdrLen, List.length_append, List.length_take,
    List.length_drop, List.length_cons, List.length_nil, six]
  omega

private theorem truncateSecond_skewed (whole : truncateSecond ctime = ctime) :
    truncateSecond (ctime + skew) = ctime ↔ 0 ≤ skew ∧ skew < 1000000000 := by
  unfold truncateSecond at whole ⊢
  omega

private theorem prepared_passes (auth : Authenticator) :
    checkGSSChecksum (prepared auth).cksum = .ok () := by
  have checked : checkGSSChecksum ⟨chksumtypeGSSAPI, gssChecksum gssContextFlags⟩ = .ok () := rfl
  exact checked

private theorem initialToken_whole {enc : Encoders} {initiator : Initiator τ ρ}
    (initial : initialToken enc initiator before = (.ok token, m)) :
    truncateSecond m.auth.ctime = m.auth.ctime := by
  obtain ⟨_, _, auth, _, _, _, _, _, _, _, _, rfl⟩ := (initialToken_ok initial).request
  simp only [prepared, truncateSecond]
  omega

private theorem verifyAPReq_ok (ran : verifyAPReq lib svc w token = .ok (apReq, key, auth)) :
    ∃ msg, parseKrb5Token w lib.toEncoders token = .ok (tokIDAPReq, msg) ∧
      svc.unmarshalAPReq msg = .ok apReq ∧ svc.mutualRequired apReq = true ∧
      svc.verifyAPREQ apReq = .ok (some (key, auth)) := by
  unfold verifyAPReq at ran
  cases parsed : parseKrb5Token w lib.toEncoders token with
  | error failure => simp only [parsed] at ran; cases ran
  | ok found =>
    obtain ⟨tokID, msg⟩ := found
    simp only [parsed] at ran
    by_cases foreign : tokID ≠ tokIDAPReq
    · rw [if_pos foreign] at ran
      cases ran
    rw [if_neg foreign] at ran
    cases unmarshals : svc.unmarshalAPReq msg with
    | error err => simp only [unmarshals] at ran; cases ran
    | ok apReq' =>
      simp only [unmarshals] at ran
      cases required : svc.mutualRequired apReq' with
      | false =>
        rw [required, if_neg Bool.false_ne_true] at ran
        cases ran
      | true =>
        rw [required, if_pos rfl] at ran
        cases valid : svc.verifyAPREQ apReq' with
        | error err => simp only [valid] at ran; cases ran
        | ok answer =>
          cases answer with
          | none => simp only [valid] at ran; cases ran
          | some keyAuth =>
            obtain ⟨key', auth'⟩ := keyAuth
            simp only [valid] at ran
            cases checked : checkGSSChecksum auth'.cksum with
            | error err => simp only [checked] at ran; cases ran
            | ok passed =>
              simp only [checked] at ran
              cases ran
              exact ⟨msg, by rw [not_not.mp foreign], unmarshals, required, valid⟩

/-- The acceptor takes the client's AP_REQ exactly if the service does, and then has the
client's key and authenticator. -/
private theorem verifyAPReq_request {lib : Krb5} (documented : lib.Documented oid) {svc : Service ρ}
    {initiator : Initiator τ ρ} (tied : Tied svc initiator) (short : Short token)
    (initial : initialToken lib.toEncoders initiator before = (.ok token, m)) (apReq : ρ)
    (key : EncryptionKey) (auth : Authenticator) :
    verifyAPReq lib svc w token = .ok (apReq, key, auth) ↔
      key = m.sessionKey ∧ auth = m.auth ∧
        ∃ b, krb5Token lib.toEncoders tokIDAPReq b = .ok token ∧
          svc.unmarshalAPReq b = .ok apReq ∧ svc.mutualRequired apReq = true ∧
          ∃ found, svc.verifyAPREQ apReq = .ok (some found) := by
  obtain ⟨ticket, key', auth', apReq', b, -, -, built, marshalled, -, wrapped, rfl⟩ :=
    (initialToken_ok initial).request
  have parsed := parse_short w documented wrapped short
  constructor
  · intro ran
    obtain ⟨msg, parsed', unmarshals, required, valid⟩ := verifyAPReq_ok lib svc w ran
    cases parsed.symm.trans parsed'
    obtain ⟨sameKey, sameAuth⟩ := tied _ _ _ _ _ _ _ _ built marshalled unmarshals valid
    exact ⟨sameKey, sameAuth, b, wrapped, unmarshals, required, _, valid⟩
  · rintro ⟨rfl, rfl, msg, wrapped', unmarshals, required, ⟨foundKey, foundAuth⟩, valid⟩
    cases parsed.symm.trans (parse_short w documented wrapped' short)
    obtain ⟨rfl, rfl⟩ := tied _ _ _ _ _ _ _ _ built marshalled unmarshals valid
    simp only [verifyAPReq, parsed, ne_eq, not_true_eq_false, if_false, unmarshals, required,
      if_true, valid, prepared_passes]

/-- What the acceptor's offer is made of. -/
private theorem Acceptor.wrap_ok {payload offer : Bytes}
    (wrapped : a.wrap lib key payload = .ok offer) :
    ∃ sumLen signed b, checksumLen lib key = .ok sumLen ∧
      lib.setCheckSum (a.unsigned sumLen payload) key .acceptorSeal = .ok signed ∧
      lib.marshalToken signed = .ok b ∧
      a.rotate (if a.corruptOffer then b.modify hdrLen (· ^^^ 0xFF) else b) = offer := by
  unfold Acceptor.wrap at wrapped
  cases sized : checksumLen lib key with
  | error err => simp only [sized] at wrapped; cases wrapped
  | ok sumLen =>
    simp only [sized] at wrapped
    cases made : lib.setCheckSum (a.unsigned sumLen payload) key .acceptorSeal with
    | error err => simp only [made] at wrapped; cases wrapped
    | ok signed =>
      simp only [made] at wrapped
      cases marshalled : lib.marshalToken signed with
      | error err => simp only [marshalled] at wrapped; cases wrapped
      | ok b =>
        simp only [marshalled] at wrapped
        exact ⟨sumLen, signed, b, rfl, made, marshalled, Except.ok.inj wrapped⟩

/-- What the acceptor's AP_REP is made of. -/
private theorem Acceptor.apRepToken_ok (answered : a.apRepToken lib svc auth sessionKey = .ok proof) :
    ∃ plain ed b,
      svc.marshalEncAPRepPart ⟨auth.ctime + a.apRepSkew, auth.cusec, a.subkeyFor sessionKey⟩ =
        .ok plain ∧
      svc.getEncryptedData plain (a.apRepKey.getD sessionKey) .apRepEncPart 0 = .ok ed ∧
      svc.marshalAPRep ed = .ok b ∧ krb5Token lib.toEncoders tokIDAPRep b = .ok proof := by
  unfold Acceptor.apRepToken at answered
  cases encoded : svc.marshalEncAPRepPart
      ⟨auth.ctime + a.apRepSkew, auth.cusec, a.subkeyFor sessionKey⟩ with
  | error err => simp only [encoded] at answered; cases answered
  | ok plain =>
    simp only [encoded] at answered
    cases encrypted : svc.getEncryptedData plain (a.apRepKey.getD sessionKey) .apRepEncPart 0 with
    | error err => simp only [encrypted] at answered; cases answered
    | ok ed =>
      simp only [encrypted] at answered
      cases marshalled : svc.marshalAPRep ed with
      | error err => simp only [marshalled] at answered; cases answered
      | ok b =>
        simp only [marshalled] at answered
        exact ⟨plain, ed, b, rfl, encrypted, marshalled, answered⟩

private theorem wrap_ctxKey {payload b : Bytes} (ran : wrap lib payload m = (.ok b, m')) :
    m'.ctxKey = m.ctxKey := by
  obtain ⟨-, rfl⟩ := wrap_ok lib ran
  rfl

section Laws
variable {lib svc} (ideal : Ideal lib svc)
include ideal

variable {key : EncryptionKey} {offer : Bytes} {m : Keys}

/-- The bytes of a signed token: whatever payload of the same length stands in it is read
back, and verifies only if it is the one that was signed. -/
private theorem signed_bytes {token signed : WrapToken} (ec : token.ec = sumLen)
    (unrotated : token.rrc = 0) (sized : checksumLen lib key = .ok sumLen)
    (made : lib.setCheckSum token key usage = .ok signed)
    (marshalled : lib.marshalToken signed = .ok b) :
    signed.flags = token.flags ∧ ∃ header, header.length = hdrLen ∧
      (header.drop 6).take 2 = [0, 0] ∧ b = header ++ (token.payload ++ signed.checkSum) ∧
      ∀ payload, payload.length = token.payload.length →
        lib.unmarshalToken (header ++ (payload ++ signed.checkSum))
          (signed.flags &&& wrapFlagSentByAcceptor ≠ 0) =
            .ok { signed with payload := payload } ∧
        ∀ key', lib.verifyToken { signed with payload := payload } key' usage = .ok true ↔
          key' = key ∧ payload = token.payload := by
  obtain ⟨same, length, verifies⟩ := ideal.signing _ _ _ _ _ sized made
  have fields : signed.flags = token.flags ∧ signed.payload = token.payload ∧
      signed.ec = sumLen ∧ signed.rrc = 0 := by
    rw [same]
    exact ⟨rfl, rfl, ec, unrotated⟩
  obtain ⟨flags, held, sum, rrc⟩ := fields
  obtain ⟨header, full, cleared, bytes, unmarshals⟩ :=
    ideal.layout signed b (by rw [length, sum]) rrc marshalled
  rw [held] at bytes unmarshals
  refine ⟨flags, header, full, cleared, bytes, ?_⟩
  intro payload long
  exact ⟨unmarshals payload long, fun key' => verifies key' payload long⟩

/-- The client finds the payload that the offer shows, under the checksum of the offer. -/
private theorem wrap_offer (wrapped : a.wrap lib key a.offer = .ok offer) :
    hdrLen ≤ offer.length ∧ ∃ token : WrapToken,
      lib.unmarshalToken (unrotated offer) true = .ok token ∧ token.payload = a.shown ∧
      token.flags &&& wrapFlagSentByAcceptor ≠ 0 ∧ token.flags &&& wrapFlagSealed = 0 ∧
      ∀ key', lib.verifyToken token key' .acceptorSeal = .ok true ↔
        key' = key ∧ a.corruptOffer = false := by
  obtain ⟨sumLen, signed, b, sized, made, marshalled, rotated⟩ := Acceptor.wrap_ok lib a wrapped
  obtain ⟨flags, header, full, cleared, rfl, reads⟩ :=
    signed_bytes ideal rfl rfl sized made marshalled
  have flagged : signed.flags &&& wrapFlagSentByAcceptor ≠ 0 ∧
      signed.flags &&& wrapFlagSealed = 0 := by
    rw [flags, Acceptor.unsigned]
    dsimp only
    cases a.subkey <;> decide
  have sent : (if a.corruptOffer then
      (header ++ (a.offer ++ signed.checkSum)).modify hdrLen (· ^^^ 0xFF)
      else header ++ (a.offer ++ signed.checkSum)) =
        header ++ (a.shown ++ signed.checkSum) := by
    rw [Acceptor.shown]
    split
    · rw [← full, modify_after]
      rfl
    · rfl
  cases (congrArg a.rotate sent).symm.trans rotated
  obtain ⟨long, back⟩ := unrotated_rotate a header (a.shown ++ signed.checkSum) full cleared
    (by simp [← List.length_pos_iff, length_shown, Acceptor.offer])
  obtain ⟨unmarshals, verifies⟩ := reads a.shown (length_shown a)
  rw [decide_eq_true flagged.1, ← back] at unmarshals
  refine ⟨long, _, unmarshals, rfl, flagged.1, flagged.2, ?_⟩
  intro key'
  rw [← shown_eq_offer a]
  exact verifies key'

/-- The offer is taken exactly under the acceptor's key, uncorrupted and with auth in it. -/
private theorem select_offer (wrapped : a.wrap lib key a.offer = .ok offer) (m : Keys)
    (last : Bytes) (m' : Keys) :
    selectSecurityLayer lib offer m = (.ok last, m') ↔
      m.ctxKey = key ∧ a.corruptOffer = false ∧ a.layers &&& qopAuth ≠ 0 ∧
        wrap lib [qopAuth, 0, 0, 0] m = (.ok last, m') := by
  obtain ⟨long, token, unmarshals, payload, acceptor, unsealed, verifies⟩ :=
    wrap_offer a ideal wrapped
  have opened (same : m.ctxKey = key) (uncorrupted : a.corruptOffer = false) :
      unwrap lib offer m = .ok a.offer := by
    rw [unwrap, unrotateBytes_eq, if_pos long]
    simp only [unmarshals, acceptor, unsealed, (verifies m.ctxKey).mpr ⟨same, uncorrupted⟩,
      ne_eq, not_true_eq_false, if_false]
    rw [payload, (shown_eq_offer a).mpr uncorrupted]
  have goesOn (same : m.ctxKey = key) (uncorrupted : a.corruptOffer = false)
      (auth : a.layers &&& qopAuth ≠ 0) :
      selectSecurityLayer lib offer m = wrap lib [qopAuth, 0, 0, 0] m := by
    have first : ¬ a.offer.getD 0 0 &&& qopAuth = 0 := auth
    rw [selectSecurityLayer, opened same uncorrupted]
    dsimp only
    rw [if_neg (fun other => other rfl), if_neg first]
  constructor
  · intro ran
    obtain ⟨⟨token', offers⟩, -, -⟩ := selectSecurityLayer_ok lib ran
    cases unmarshals.symm.trans offers.unmarshals
    obtain ⟨same, uncorrupted⟩ := (verifies m.ctxKey).mp offers.signed
    have auth := offers.auth
    rw [payload, (shown_eq_offer a).mpr uncorrupted] at auth
    exact ⟨same, uncorrupted, auth, (goesOn same uncorrupted auth).symm.trans ran⟩
  · rintro ⟨same, uncorrupted, auth, selects⟩
    exact (goesOn same uncorrupted auth).trans selects

/-- The acceptor reads what the client wrapped under their common key. -/
private theorem unwrap_wrap {payload b : Bytes} {m' : Keys} (ran : wrap lib payload m = (.ok b, m')) :
    Acceptor.unwrap lib m.ctxKey b = .ok payload := by
  obtain ⟨⟨sumLen, signed, sized, made, marshalled⟩, -⟩ := wrap_ok lib ran
  obtain ⟨flags, header, -, -, rfl, reads⟩ := signed_bytes ideal rfl rfl sized made marshalled
  obtain ⟨unmarshals, verifies⟩ := reads payload rfl
  have initiator : ¬ signed.flags &&& wrapFlagSentByAcceptor ≠ 0 := by
    rw [flags, unsigned]
    dsimp only
    cases m.acceptorSubkey <;> decide
  rw [decide_eq_false initiator] at unmarshals
  have verified := (verifies m.ctxKey).mpr ⟨rfl, rfl⟩
  rw [Acceptor.unwrap]
  simp only [unsigned, unmarshals, verified]

/-- The client takes the acceptor's AP_REP exactly if it is encrypted with the session key
and shows the time of the authenticator. -/
private theorem verify_proof {m' : Keys} {proof : Bytes}
    (answered : a.apRepToken lib svc m.auth m.sessionKey = .ok proof) (short : Short proof)
    (whole : truncateSecond m.auth.ctime = m.auth.ctime) :
    verifyAPRep lib w quoteText proof m = (.ok (), m') ↔
      a.apRepKey.getD m.sessionKey = m.sessionKey ∧
        (0 ≤ a.apRepSkew ∧ a.apRepSkew < 1000000000) ∧ m' = a.established m := by
  obtain ⟨oid, documented⟩ := ideal.documented
  obtain ⟨plain, ed, b, encoded, encrypted, marshalled, wrapped⟩ :=
    Acceptor.apRepToken_ok lib svc a answered
  obtain ⟨⟨et, known, long⟩, decrypts⟩ := ideal.sealing _ _ _ _ _ encrypted
  have unmarshals := ideal.apRep ed b marshalled
  have parsed := parse_short w documented wrapped short
  have part := ideal.part _ plain encoded
  constructor
  · intro ran
    obtain ⟨enc, ⟨⟨msg, ed', plain', parsed', unmarshals', decrypted, decoded⟩, ctime, -⟩,
      rfl⟩ := verifyAPRep_ok lib ran
    cases parsed.symm.trans parsed'
    cases unmarshals.symm.trans unmarshals'
    obtain ⟨same, rfl⟩ := (decrypts _ _).mp (decryptEncPart_ok lib decrypted)
    cases part.symm.trans decoded
    have skewed := (truncateSecond_skewed whole).mp ctime
    exact ⟨same.symm, skewed,
      congrArg (fun t => m.establish ⟨t, m.auth.cusec, a.subkeyFor m.sessionKey⟩) ctime⟩
  · rintro ⟨same, skewed, rfl⟩
    have plainText : decryptEncPart lib ed m.sessionKey .apRepEncPart = .ok plain := by
      rw [same] at known
      rw [decryptEncPart, known]
      dsimp only
      rw [if_neg (Int.not_lt.mpr long), (decrypts m.sessionKey plain).mpr ⟨same.symm, rfl⟩]
    have echoes := (truncateSecond_skewed whole).mpr skewed
    have read : readAPRep lib m b =
        .ok ⟨m.auth.ctime, m.auth.cusec, a.subkeyFor m.sessionKey⟩ := by
      simp only [readAPRep, unmarshals, plainText, part, echoes]
    rw [verifyAPRep, parsed]
    dsimp only
    rw [if_neg (by decide), if_pos rfl, read]
    simp only [ne_eq, not_true_eq_false, or_self, if_false]
    rfl

/-- Both sides have one key of the context, if its encryption type is a known one. -/
private theorem ctxKey_established (sized : checksumLen lib (a.ctxKeyFor m.sessionKey) = .ok sumLen) :
    (a.established m).ctxKey = a.ctxKeyFor m.sessionKey := by
  have assigned : (a.ctxKeyFor m.sessionKey).keyType ≠ 0 := by
    intro zero
    rw [checksumLen, zero] at sized
    cases known : lib.getEtype 0 with
    | error err => simp only [known] at sized; cases sized
    | ok et => exact ideal.unassigned et known
  cases subkey : a.subkey with
  | false =>
    simp [Acceptor.established, Keys.establish, Acceptor.subkeyFor, Acceptor.ctxKeyFor, subkey]
  | true =>
    simp only [Acceptor.ctxKeyFor, Acceptor.subkeyFor, subkey, if_true] at assigned
    simp only [Acceptor.established, Keys.establish, Acceptor.subkeyFor, Acceptor.ctxKeyFor, subkey,
      if_true, ne_eq, assigned, not_false_eq_true, true_and, Vector.length_toList]
    by_cases empty : 0 < m.sessionKey.keyValue.length
    · rw [if_pos empty]
    · have value : (a.random m.sessionKey.keyValue.length).toList = m.sessionKey.keyValue := by
        rw [List.length_eq_zero_iff.mp (Nat.eq_zero_of_not_pos empty)]
        exact List.length_eq_zero_iff.mp (by simp)
      rw [if_neg empty, value]

variable {initiator} (tied : Tied svc initiator)
include tied

/-- What a handshake that ran to its end says about the acceptor. -/
private theorem reached_fair {before : Keys} {token proof last selection : Bytes} {apReq : ρ}
    {auth : Authenticator} {sessionKey : EncryptionKey} {m₁ m₂ m₃ : Keys}
    (reached : Reached lib svc w a quoteText initiator before token proof offer last selection
      apReq auth sessionKey m₁ m₂ m₃) :
    Fair a m₁.sessionKey ∧ Served lib svc a token m₁ ∧ selection = [qopAuth, 0, 0, 0] ∧
      m₃.ctxKey = a.ctxKeyFor sessionKey := by
  obtain ⟨oid, documented⟩ := ideal.documented
  obtain ⟨rfl, rfl, accepted⟩ := (verifyAPReq_request w documented tied reached.tokenShort
    reached.initial apReq sessionKey auth).mp reached.accepted
  have whole := initialToken_whole reached.initial
  obtain ⟨key, ⟨early, late⟩, rfl⟩ :=
    (verify_proof w a quoteText ideal reached.answered reached.proofShort whole).mp
      reached.verified
  obtain ⟨same, uncorrupted, authBit, selects⟩ :=
    (select_offer a ideal reached.wrapped _ last m₃).mp reached.selected
  have read := unwrap_wrap ideal selects
  rw [same, reached.unwrapped] at read
  cases read
  obtain ⟨b, wrapped, unmarshals, required, found⟩ := accepted
  refine ⟨⟨reached.unrejected, reached.uncompleted, reached.noError, key, early, late, authBit,
    uncorrupted⟩, ?_, rfl, (wrap_ctxKey lib selects).trans same⟩
  exact
    { tokenShort := reached.tokenShort
      accepted := ⟨b, apReq, wrapped, unmarshals, required, found⟩
      answered := ⟨proof, reached.answered, reached.proofShort⟩
      offered := ⟨offer, reached.wrapped, reached.offerShort⟩
      selected := ⟨last, m₃, selects, reached.lastShort⟩ }

/-- A fair acceptor whose calls succeed is met to the end. -/
private theorem fair_reached {before : Keys} {token : Bytes}
    (initial : initialToken lib.toEncoders initiator before = (.ok token, m))
    (fair : Fair a m.sessionKey) (served : Served lib svc a token m) :
    ∃ proof offer last selection apReq m₃,
      Reached lib svc w a quoteText initiator before token proof offer last selection apReq m.auth
        m.sessionKey m (a.established m) m₃ := by
  obtain ⟨b, apReq, same, unmarshals, required, found⟩ := served.accepted
  obtain ⟨proof, answered, proofShort⟩ := served.answered
  obtain ⟨offer, wrapped, offerShort⟩ := served.offered
  obtain ⟨last, m₃, selects, lastShort⟩ := served.selected
  obtain ⟨oid, documented⟩ := ideal.documented
  obtain ⟨sumLen, -, -, sized, -⟩ := Acceptor.wrap_ok lib a wrapped
  have whole := initialToken_whole initial
  have common := ctxKey_established a ideal sized
  have read := unwrap_wrap ideal selects
  rw [common] at read
  exact ⟨proof, offer, last, _, apReq, m₃,
    { initial
      tokenShort := served.tokenShort
      accepted := (verifyAPReq_request w documented tied served.tokenShort initial apReq _ _).mpr
        ⟨rfl, rfl, b, same, unmarshals, required, found⟩
      unrejected := fair.unrejected
      uncompleted := fair.uncompleted
      noError := fair.noError
      answered
      proofShort
      verified := (verify_proof w a quoteText ideal answered proofShort whole).mpr
        ⟨fair.key, ⟨fair.early, fair.late⟩, rfl⟩
      wrapped
      offerShort
      selected := (select_offer a ideal wrapped _ last m₃).mpr
        ⟨common, fair.uncorrupted, fair.auth, selects⟩
      lastShort
      unwrapped := read
      four := rfl }⟩

/-- **The two sides agree.** Against the acceptor with any of its bends, and with an ideal
library, `OpenContext` returns. It returns nil exactly if the acceptor is fair and the calls
of both sides succeed, and exactly if the acceptor has recorded that the client chose no
security layer; both have the same key of the context then. -/
theorem gssapi_sides_agree (rounds : Nat) (before : Keys) :
    ∃ outcome, handshake lib svc w a quote quoteText initiator rounds before = some outcome ∧
      (outcome.result = none ↔ ∃ token m,
        initialToken lib.toEncoders initiator before = (.ok token, m) ∧
        Fair a m.sessionKey ∧ Served lib svc a token m) ∧
      (outcome.result = none ↔ outcome.transport.inner.peer.selected = qopAuth) ∧
      (outcome.result = none →
        outcome.transport.mech.keys.ctxKey = outcome.transport.inner.peer.ctxKey) := by
  obtain ⟨oid, documented⟩ := ideal.documented
  rcases handshake_cases lib svc w a quote quoteText initiator rounds documented before with
    ⟨outcome, p, ran, stops, unselected⟩ |
    ⟨token, proof, offer, last, selection, apReq, auth, sessionKey, m₁, m₂, m₃, reached⟩
  · refine ⟨outcome, ran, ?_, ?_, fun opened => absurd opened stops.error⟩
    · refine ⟨fun opened => absurd opened stops.error, ?_⟩
      rintro ⟨token, m, initial, fair, served⟩
      obtain ⟨proof, offer, last, selection, apReq, m₃, reached⟩ :=
        fair_reached w a quoteText ideal tied initial fair served
      obtain ⟨outcome', ran', opened, -, -⟩ :=
        reached_opens lib svc w a quote quoteText initiator rounds reached
      cases ran.symm.trans ran'
      exact opened
    · rw [stops.stands, unselected]
      exact ⟨fun opened => absurd opened stops.error, fun zero => absurd zero (by decide)⟩
  · obtain ⟨outcome, ran, opened, mech, peer⟩ :=
      reached_opens lib svc w a quote quoteText initiator rounds reached
    obtain ⟨fair, served, selects, common⟩ := reached_fair w a quoteText ideal tied reached
    refine ⟨outcome, ran, ⟨fun _ => ⟨token, m₁, reached.initial, fair, served⟩, fun _ => opened⟩,
      ⟨fun _ => ?_, fun _ => opened⟩, fun _ => ?_⟩
    · rw [peer, selects]
      rfl
    · rw [mech, peer]
      exact common

end Laws

end Acceptor

/-! ## A transparent library

What is sealed with a key shows the key: a ciphertext is the key, a confounder and the plain
text, and a checksum is the key and the payload. Keys have 32 bytes, and nothing is sent that
would not be read back. -/

private def unsupported : Err := plainError "unsupported"

private theorem ok_of_ite {ε α : Type} [Decidable c] {x y : α} {err : ε}
    (ran : (if c then Except.ok x else .error err) = .ok y) : c ∧ x = y := by
  by_cases holds : c
  · rw [if_pos holds] at ran
    exact ⟨holds, Except.ok.inj ran⟩
  · rw [if_neg holds] at ran
    cases ran

/-- A number in `k` octets, the lowest first. -/
private def octets : Nat → Nat → Bytes
  | 0, _ => []
  | k + 1, n => .ofNat n :: octets k (n / 256)

private def number : Bytes → Nat
  | [] => 0
  | c :: rest => c.toNat + 256 * number rest

private def Usable (key : EncryptionKey) : Prop := key.keyType = 18 ∧ key.keyValue.length = 32

private instance (key : EncryptionKey) : Decidable (Usable key) :=
  inferInstanceAs (Decidable (_ ∧ _))

private theorem Usable.ext {key key' : EncryptionKey} (usable : Usable key) (usable' : Usable key')
    (value : key.keyValue = key'.keyValue) : key = key' := by
  obtain ⟨keyType, keyValue⟩ := key
  obtain ⟨rfl, -⟩ := usable
  obtain ⟨keyType', keyValue'⟩ := key'
  obtain ⟨rfl, -⟩ := usable'
  cases value
  rfl

/-- A time in seconds and its microseconds. -/
private def timeOctets (ctime cusec : Int) : Bytes :=
  octets 4 (ctime / 1000000000).toNat ++ octets 4 cusec.toNat

private def timeOf (b : Bytes) : Int × Int :=
  (number (b.take 4) * 1000000000, number ((b.drop 4).take 4))

private def partOctets (part : EncAPRepPart) : Bytes :=
  timeOctets part.ctime part.cusec ++ part.subkey.keyValue

private def partOf (b : Bytes) : EncAPRepPart :=
  ⟨(timeOf b).1, (timeOf b).2, if b.drop 8 = [] then {} else ⟨18, b.drop 8⟩⟩

/-- The first 16 octets of a wrap token. -/
private def headerOf (token : WrapToken) : Bytes :=
  [5, 4, token.flags, 0xFF] ++ (octets 2 token.ec.toNat ++ ([0, 0] ++
    octets 8 token.sndSeqNum.toNat))

private def fieldsOf (header : Bytes) : UInt8 × UInt16 × UInt64 :=
  (header.getD 2 0, .ofNat (number ((header.drop 4).take 2)), .ofNat (number (header.drop 8)))

private def tokenOf (b : Bytes) : WrapToken :=
  let (flags, ec, sndSeqNum) := fieldsOf (b.take 16)
  let data := b.drop 16
  { flags, ec, rrc := 0, sndSeqNum
    payload := data.take (data.length - ec.toNat)
    checkSum := data.drop (data.length - ec.toNat) }

private theorem tokenOf_headerOf (token : WrapToken) (payload : Bytes) (rrc : token.rrc = 0)
    (fields : fieldsOf (headerOf token) = (token.flags, token.ec, token.sndSeqNum))
    (sized : token.checkSum.length = token.ec.toNat) :
    tokenOf (headerOf token ++ (payload ++ token.checkSum)) = { token with payload := payload } := by
  have cut : (payload ++ token.checkSum).length - token.ec.toNat = payload.length := by
    rw [List.length_append]
    omega
  have full : (headerOf token).length = 16 := rfl
  rw [tokenOf, List.take_left' full, fields]
  simp only [List.drop_left' full, cut, List.take_left, List.drop_left, rrc]

private def openLib : Krb5 where
  toEncoders := derEncoders
  getEtype keyType := if keyType = 18 then .ok ⟨16, 288⟩ else .error unsupported
  decryptEncPart ed key _ :=
    if Usable key ∧ ed.cipher.take 32 = key.keyValue then .ok (ed.cipher.drop 52)
    else .error (.error unsupported)
  unmarshalKRBError _ := .error unsupported
  unmarshalAPRep b := .ok ⟨18, 0, b⟩
  unmarshalEncAPRepPart b := .ok (partOf b)
  setCheckSum token key _ :=
    if Usable key ∧ token.payload.length = 4 then
      .ok { token with checkSum := key.keyValue ++ token.payload }
    else .error unsupported
  marshalToken token :=
    if fieldsOf (headerOf token) = (token.flags, token.ec, token.sndSeqNum) then
      .ok (headerOf token ++ (token.payload ++ token.checkSum))
    else .error unsupported
  unmarshalToken b fromAcceptor :=
    if decide ((tokenOf b).flags &&& wrapFlagSentByAcceptor ≠ 0) = fromAcceptor then
      .ok (tokenOf b)
    else .error unsupported
  verifyToken token key _ := .ok (Usable key ∧ token.checkSum = key.keyValue ++ token.payload)

/-- An AP_REQ: the key in the ticket, the key that the authenticator is sealed with, and the
authenticator. -/
private structure OpenAPReq where
  ticketKey : EncryptionKey
  sealedWith : EncryptionKey
  demandsMutual : Bool
  auth : Authenticator
  deriving DecidableEq

private def requestOctets (apReq : OpenAPReq) : Bytes :=
  apReq.ticketKey.keyValue ++ (apReq.sealedWith.keyValue ++
    ((if apReq.demandsMutual then 1 else 0) :: (timeOctets apReq.auth.ctime apReq.auth.cusec ++
      octets 8 apReq.auth.seqNumber.toUInt64.toNat)))

private def requestOf (b : Bytes) : OpenAPReq where
  ticketKey := ⟨18, b.take 32⟩
  sealedWith := ⟨18, (b.drop 32).take 32⟩
  demandsMutual := ((b.drop 32).drop 32).head? = some 1
  auth :=
    let rest := ((b.drop 32).drop 32).drop 1
    { ctime := (timeOf rest).1
      cusec := (timeOf rest).2
      seqNumber := (UInt64.ofNat (number (rest.drop 8))).toInt64
      cksum := ⟨chksumtypeGSSAPI, gssChecksum gssContextFlags⟩ }

private def openService : Service OpenAPReq where
  unmarshalAPReq b := .ok (requestOf b)
  mutualRequired := OpenAPReq.demandsMutual
  verifyAPREQ apReq :=
    .ok (if apReq.sealedWith = apReq.ticketKey then some (apReq.ticketKey, apReq.auth) else none)
  marshalKRBError _ := .error unsupported
  marshalEncAPRepPart part :=
    if partOf (partOctets part) = { part with ctime := truncateSecond part.ctime } then
      .ok (partOctets part)
    else .error unsupported
  getEncryptedData plain key _ kvno :=
    if Usable key then .ok ⟨18, kvno, key.keyValue ++ (List.replicate 20 0 ++ plain)⟩
    else .error unsupported
  marshalAPRep ed := if ed.etype = 18 ∧ ed.kvno = 0 then .ok ed.cipher else .error unsupported

/-- A client whose ticket holds `key`. -/
private def openInitiator (key : EncryptionKey) : Initiator EncryptionKey OpenAPReq where
  spn := "hive/metastore"
  begun := true
  exchange := .acquired key key
  newAuthenticator := .ok { ctime := 1700000000500000000, cusec := 500000, seqNumber := 123456 }
  newAPReq ticket key auth := .ok ⟨ticket, key, false, auth⟩
  setMutualRequired apReq := { apReq with demandsMutual := true }
  marshal apReq :=
    if requestOf (requestOctets apReq) = apReq then .ok (requestOctets apReq)
    else .error unsupported

private theorem open_ideal : Ideal openLib openService where
  documented := ⟨krb5OID, derEncoders_documented⟩
  unassigned et known := by cases known
  sealing plain key usage kvno ed encrypted := by
    obtain ⟨usable, rfl⟩ := ok_of_ite encrypted
    have front : (key.keyValue ++ (List.replicate 20 0 ++ plain)).take 32 = key.keyValue :=
      List.take_left' usable.2
    have behind : (key.keyValue ++ (List.replicate 20 0 ++ plain)).drop 52 = plain := by
      rw [← List.append_assoc]
      exact List.drop_left' (by rw [List.length_append, usable.2, List.length_replicate])
    refine ⟨⟨⟨16, 288⟩, if_pos usable.1, ?_⟩, ?_⟩
    · simp only [List.length_append, List.length_replicate, usable.2,
        show Int.tdiv 288 8 = 36 from rfl]
      omega
    · intro key' plain'
      constructor
      · intro decrypted
        obtain ⟨⟨usable', value⟩, rfl⟩ := ok_of_ite decrypted
        exact ⟨usable'.ext usable (value.symm.trans front), behind⟩
      · rintro ⟨rfl, rfl⟩
        exact (if_pos ⟨usable, front⟩).trans (congrArg Except.ok behind)
  part enc b encoded := by
    obtain ⟨read, rfl⟩ := ok_of_ite encoded
    exact congrArg Except.ok read
  apRep ed b marshalled := by
    obtain ⟨etype, kvno, cipher⟩ := ed
    obtain ⟨⟨rfl, rfl⟩, rfl⟩ := ok_of_ite marshalled
    rfl
  signing token key usage sumLen signed sized made := by
    obtain ⟨⟨usable, four⟩, rfl⟩ := ok_of_ite made
    have length : sumLen = 36 := by
      rw [checksumLen, show openLib.getEtype key.keyType = .ok ⟨16, 288⟩ from if_pos usable.1] at sized
      cases sized
      rfl
    refine ⟨rfl, ?_, ?_⟩
    · rw [length, List.length_append, usable.2, four]
      rfl
    · intro key' payload _
      have verdict : openLib.verifyToken { token with
          checkSum := key.keyValue ++ token.payload, payload := payload } key' usage = .ok true ↔
          Usable key' ∧ key.keyValue ++ token.payload = key'.keyValue ++ payload := by
        simp [openLib]
      rw [verdict]
      constructor
      · rintro ⟨usable', shown⟩
        obtain ⟨value, paid⟩ := List.append_inj shown (usable.2.trans usable'.2.symm)
        exact ⟨usable'.ext usable value.symm, paid.symm⟩
      · rintro ⟨rfl, rfl⟩
        exact ⟨usable, rfl⟩
  layout token b length rrc marshalled := by
    obtain ⟨fields, rfl⟩ := ok_of_ite marshalled
    refine ⟨headerOf token, rfl, rfl, rfl, ?_⟩
    intro payload _
    simp only [openLib, tokenOf_headerOf token payload rrc fields length, if_true]

private theorem open_tied (key : EncryptionKey) : Tied openService (openInitiator key) := by
  intro ticket key auth apReq b apReq' key' auth' built marshalled unmarshalled valid
  cases built
  obtain ⟨read, rfl⟩ := ok_of_ite marshalled
  cases unmarshalled
  rw [read] at valid
  simp only [openService, openInitiator, Except.ok.injEq] at valid
  by_cases same : key = ticket
  · rw [if_pos same] at valid
    cases valid
    exact ⟨same.symm, rfl⟩
  · rw [if_neg same] at valid
    cases valid

private def openKey : EncryptionKey := ⟨18, List.replicate 32 7⟩

/-- An acceptor that sends a subkey, skews the time within the second and rotates its
offer. -/
private def rotating : Acceptor :=
  { layers := 7, rrc := 28, subkey := true, apRepSkew := 999999999
    random := fun n => Vector.replicate n 9 }

/-- The rotated offer is read back and the subkey is the key of both sides; an AP_REP under
another key than the ticket's is no proof. -/
theorem rotated_offer_is_agreed_on :
    (∃ outcome, handshake openLib openService .bits64 rotating (fun _ => "") id
        (openInitiator openKey) 0 {} = some outcome ∧ outcome.result = none ∧
      outcome.transport.inner.peer.selected = qopAuth ∧
      outcome.transport.mech.keys.ctxKey = outcome.transport.inner.peer.ctxKey) ∧
    ∃ outcome, handshake openLib openService .bits64
        { rotating with apRepKey := some ⟨18, List.replicate 32 8⟩ } (fun _ => "") id
        (openInitiator openKey) 0 {} = some outcome ∧ outcome.result ≠ none ∧
      outcome.transport.inner.peer.selected ≠ qopAuth := by
  constructor
  · obtain ⟨outcome, ran, opens, agrees, common⟩ := gssapi_sides_agree .bits64 rotating
      (fun _ => "") id open_ideal (open_tied openKey) 0 {}
    have opened : outcome.result = none := by
      apply opens.mpr
      refine ⟨_, _, rfl, ⟨rfl, rfl, rfl, rfl, by decide, by decide, by decide, rfl⟩, ?_⟩
      exact
        { tokenShort := by decide +kernel
          accepted := ⟨_, _, rfl, rfl, rfl, _, rfl⟩
          answered := ⟨_, rfl, by decide +kernel⟩
          offered := ⟨_, rfl, by decide +kernel⟩
          selected := ⟨_, _, rfl, by decide +kernel⟩ }
    exact ⟨outcome, ran, opened, agrees.mp opened, common opened⟩
  · obtain ⟨outcome, ran, opens, agrees, -⟩ := gssapi_sides_agree .bits64
      { rotating with apRepKey := some ⟨18, List.replicate 32 8⟩ } (fun _ => "") id open_ideal
      (open_tied openKey) 0 {}
    have refused : outcome.result ≠ none := by
      intro opened
      obtain ⟨token, m, initial, fair, -⟩ := opens.mp opened
      obtain ⟨_, _, _, _, _, acquired, _, _, _, _, _, rfl⟩ := (initialToken_ok initial).request
      cases acquired
      have other : (⟨18, List.replicate 32 8⟩ : EncryptionKey) = openKey := fair.key
      exact absurd other (by decide)
    exact ⟨outcome, ran, refused, fun selected => refused (agrees.mpr selected)⟩

end HmsClient.Gssapi
