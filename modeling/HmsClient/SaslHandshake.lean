import HmsClient.Errors

/-! The SASL handshake that opens a transport, against any peer. What the inner transport
reads and whether it writes are answers of an environment with a state of its own, so the
peer may send any frames whatever, and the tokens of Kerberos are functions that succeed
or fail as they like. A transport is open only if its mechanism ran to its end. -/
namespace HmsClient.Sasl

abbrev Bytes := List UInt8

/-! ## Frames -/

def saslStart : UInt8 := 1
def saslOK : UInt8 := 2
def saslBad : UInt8 := 3
def saslError : UInt8 := 4
def saslComplete : UInt8 := 5

def saslMaxFrame : Nat := 67108864

/-- The inner transport: `IsOpen`, `Open`, `Write` and `Flush`, `io.ReadFull` of a buffer
and `io.ReadAll` up to a limit. -/
structure Inner (σ : Type) where
  isOpen : σ → Bool
  openInner : σ → Option Err × σ
  write : Bytes → σ → Option Err × σ
  flush : σ → Option Err × σ
  readFull : (n : Nat) → σ → Except Err (Vector UInt8 n) × σ
  readAll : (limit : Nat) → σ → Except Err { bs : Bytes // bs.length ≤ limit } × σ

/-- A negotiation frame. -/
structure Frame where
  status : UInt8
  payload : Bytes
  deriving DecidableEq

def frameTooLarge : Err := plainError "hms: sasl frame too large"

/-- `binary.BigEndian.PutUint32`. -/
def putUint32 (n : Nat) : Bytes :=
  [.ofNat (n / 16777216), .ofNat (n / 65536), .ofNat (n / 256), .ofNat n]

/-- `binary.BigEndian.Uint32` of the last four bytes of a header. -/
def lengthOf (hdr : Vector UInt8 5) : Nat :=
  ((hdr[1].toNat * 256 + hdr[2].toNat) * 256 + hdr[3].toNat) * 256 + hdr[4].toNat

section Transport
variable {σ μ : Type} (io : Inner σ)

def sendNegotiate (frame : Frame) (s : σ) : Option Err × σ :=
  if frame.payload.length > saslMaxFrame then (some frameTooLarge, s)
  else
    match io.write (frame.status :: putUint32 frame.payload.length) s with
    | (some err, s) => (some err, s)
    | (none, s) =>
      match io.write frame.payload s with
      | (some err, s) => (some err, s)
      | (none, s) => io.flush s

/-- The body of a frame, which is never nil. -/
def readFrame (n : Nat) (s : σ) : Except Err Bytes × σ :=
  match io.readAll n s with
  | (.error err, s) => (.error err, s)
  | (.ok b, s) => if b.val.length < n then (.error (.leaf .unexpectedEOF), s) else (.ok b.val, s)

def recvNegotiate (s : σ) : Except Err Frame × σ :=
  match io.readFull 5 s with
  | (.error err, s) => (.error err, s)
  | (.ok hdr, s) =>
    if lengthOf hdr > saslMaxFrame then (.error frameTooLarge, s)
    else
      match readFrame io (lengthOf hdr) s with
      | (.error err, s) => (.error err, s)
      | (.ok payload, s) => (.ok ⟨hdr[0], payload⟩, s)

/-! ## Mechanisms -/

/-- `saslMech`. A nil challenge is `none`. -/
structure Mech (μ : Type) where
  name : String
  step : μ → Option Bytes → Except Err (Bytes × Bool) × μ
  complete : μ → Bool

structure PlainMech where
  user : Bytes
  password : Bytes
  sent : Bool

def plainMech : Mech PlainMech where
  name := "PLAIN"
  step m challenge :=
    match challenge with
    | some _ => (.error (plainError "hms: sasl plain: unexpected challenge from the server"), m)
    | none => (.ok (0 :: m.user ++ 0 :: m.password, false), { m with sent := true })
  complete m := m.sent

inductive GssStage where
  | apReq
  | apRep
  | secLayer
  | done
  deriving DecidableEq

/-- What the rounds of GSSAPI compute, on the mechanism's keys and sequence numbers. -/
structure Tokens (κ : Type) where
  initialToken : κ → Except Err Bytes × κ
  verifyAPRep : Bytes → κ → Except Err Unit × κ
  selectSecurityLayer : Bytes → κ → Except Err Bytes × κ

structure GssapiMech (κ : Type) where
  stage : GssStage
  keys : κ

def gssapiMech {κ : Type} (tokens : Tokens κ) : Mech (GssapiMech κ) where
  name := "GSSAPI"
  step m challenge :=
    match m.stage with
    | .apReq =>
      match tokens.initialToken m.keys with
      | (.error err, keys) => (.error err, { m with keys })
      | (.ok token, keys) => (.ok (token, false), ⟨.apRep, keys⟩)
    | .apRep =>
      match tokens.verifyAPRep (challenge.getD []) m.keys with
      | (.error err, keys) => (.error err, { m with keys })
      | (.ok _, keys) => (.ok ([], false), ⟨.secLayer, keys⟩)
    | .secLayer =>
      match tokens.selectSecurityLayer (challenge.getD []) m.keys with
      | (.error err, keys) => (.error err, { m with keys })
      | (.ok token, keys) => (.ok (token, true), ⟨.done, keys⟩)
    | .done =>
      (.error (plainError "hms: sasl gssapi: unexpected challenge after the handshake completed"), m)
  complete m := m.stage = .done

/-! ## The handshake -/

/-- A frame sent or received in full. -/
inductive Event where
  | sent (frame : Frame)
  | received (frame : Frame)
  deriving DecidableEq

/-- A `saslTransport`, with the frames exchanged so far. -/
structure Transport (σ μ : Type) where
  inner : σ
  mech : μ
  opened : Bool
  events : List Event

/-- `IsOpen`. -/
def Transport.isOpen (t : Transport σ μ) : Bool := t.opened && io.isOpen t.inner

/-- How a round of the loop ends: `OpenContext` returns, or the loop goes on. -/
inductive Round (σ μ : Type) where
  | returns (result : Option Err) (t : Transport σ μ)
  | goesOn (done : Bool) (t : Transport σ μ)

def statusFor (done : Bool) : UInt8 := if done then saslComplete else saslOK

variable (mech : Mech μ) (quote : Bytes → String)

/-- A step of the mechanism, and the frame that carries its response. -/
def respond (challenge : Option Bytes) (t : Transport σ μ) : Round σ μ :=
  match mech.step t.mech challenge with
  | (.error err, m) => .returns (some err) { t with mech := m }
  | (.ok (resp, done), m) =>
    match sendNegotiate io ⟨statusFor done, resp⟩ t.inner with
    | (some err, s) => .returns (some err) { t with mech := m, inner := s }
    | (none, s) =>
      .goesOn done
        { t with mech := m, inner := s, events := t.events ++ [.sent ⟨statusFor done, resp⟩] }

/-- The body of the loop of `OpenContext`; `quote` is the verb `%q`. -/
def round (done : Bool) (t : Transport σ μ) : Round σ μ :=
  match recvNegotiate io t.inner with
  | (.error err, s) => .returns (some err) { t with inner := s }
  | (.ok frame, s) =>
    let t := { t with inner := s, events := t.events ++ [.received frame] }
    if frame.status = saslComplete then
      if mech.complete t.mech then .returns none { t with opened := true }
      else
        .returns (some (plainError
          ("hms: sasl " ++ mech.name ++ ": server completed before the mechanism finished"))) t
    else if frame.status = saslBad ∨ frame.status = saslError then
      .returns (some (plainError
        ("hms: sasl " ++ mech.name ++ " rejected: " ++ quote frame.payload))) t
    else if frame.status = saslOK then
      if done then
        .returns (some (plainError ("hms: sasl " ++ mech.name ++
          ": server sent a challenge after the mechanism completed"))) t
      else respond io mech (some frame.payload) t
    else
      .returns (some (plainError ("hms: unexpected sasl status " ++ toString frame.status.toNat))) t

/-- What `OpenContext` returned, and the transport it left. -/
structure Outcome (σ μ : Type) where
  result : Option Err
  transport : Transport σ μ

/-- The loop of `OpenContext`, for at most `rounds` rounds. -/
def negotiate : (rounds : Nat) → (done : Bool) → Transport σ μ → Option (Outcome σ μ)
  | 0, _, _ => none
  | rounds + 1, done, t =>
    match round io mech quote done t with
    | .returns result t => some ⟨result, t⟩
    | .goesOn done t => negotiate rounds done t

/-- `OpenContext` from the end of a round on. -/
def resume (rounds : Nat) : Round σ μ → Option (Outcome σ μ)
  | .returns result t => some ⟨result, t⟩
  | .goesOn done t => negotiate io mech quote rounds done t

/-- The frame that names the mechanism. -/
def startFrame (name : String) : Frame := ⟨saslStart, name.toUTF8.data.toList⟩

def openContext (rounds : Nat) (t : Transport σ μ) : Option (Outcome σ μ) :=
  let (failed, s) := if io.isOpen t.inner then (none, t.inner) else io.openInner t.inner
  match failed with
  | some err => some ⟨some err, { t with inner := s }⟩
  | none =>
    let start := startFrame mech.name
    match sendNegotiate io start s with
    | (some err, s) => some ⟨some err, { t with inner := s }⟩
    | (none, s) =>
      resume io mech quote rounds
        (respond io mech none { t with inner := s, events := t.events ++ [.sent start] })

/-! ## What a round can do -/

/-- The frames the server sent. -/
def received (events : List Event) : List Frame :=
  events.filterMap fun
    | .received frame => some frame
    | .sent _ => none

/-- A handshake that stops with an error after one more frame at most. -/
structure Fails (t : Transport σ μ) (outcome : Outcome σ μ) : Prop where
  error : outcome.result ≠ none
  opened : outcome.transport.opened = t.opened
  frames : (received outcome.transport.events).length ≤ (received t.events).length + 1

/-- The ways a round can go: it fails, the server's COMPLETE is believed, or its
challenge is answered. -/
inductive Rounded (done : Bool) (t : Transport σ μ) : Round σ μ → Prop where
  | fails {result : Option Err} {t' : Transport σ μ} (fails : Fails t ⟨result, t'⟩) :
      Rounded done t (.returns result t')
  | completes (s : σ) (payload : Bytes) (complete : mech.complete t.mech = true) :
      Rounded done t (.returns none
        { t with
          inner := s
          opened := true
          events := t.events ++ [.received ⟨saslComplete, payload⟩] })
  | answers (s : σ) (challenge resp : Bytes) (done' : Bool) (m : μ) (more : done = false)
      (stepped : mech.step t.mech (some challenge) = (.ok (resp, done'), m)) :
      Rounded done t (.goesOn done'
        { t with
          inner := s
          mech := m
          events := t.events ++ [.received ⟨saslOK, challenge⟩, .sent ⟨statusFor done', resp⟩] })

private theorem received_append (events : List Event) (frame : Frame) :
    (received (events ++ [.received frame])).length = (received events).length + 1 := by
  simp [received]

/-- A response either fails the handshake or is sent as the mechanism made it. -/
private theorem respond_cases (challenge : Option Bytes) (t : Transport σ μ) :
    (∃ err s m, respond io mech challenge t = .returns (some err) { t with inner := s, mech := m }) ∨
      ∃ resp done m s, mech.step t.mech challenge = (.ok (resp, done), m) ∧
        respond io mech challenge t = .goesOn done
          { t with mech := m, inner := s, events := t.events ++ [.sent ⟨statusFor done, resp⟩] } := by
  unfold respond
  split
  · exact .inl ⟨_, t.inner, _, rfl⟩
  · next resp done m stepped =>
    split
    · exact .inl ⟨_, _, m, rfl⟩
    · exact .inr ⟨resp, done, m, _, stepped, rfl⟩

private theorem round_cases (done : Bool) (t : Transport σ μ) :
    Rounded mech done t (round io mech quote done t) := by
  unfold round
  split
  · exact .fails ⟨by simp, rfl, Nat.le_succ _⟩
  · next frame s _ =>
    obtain ⟨status, payload⟩ := frame
    have counted := received_append t.events ⟨status, payload⟩
    dsimp only
    split
    · next complete =>
      split
      · next finished =>
        cases complete
        exact .completes s payload finished
      · exact .fails ⟨by simp, rfl, Nat.le_of_eq counted⟩
    · split
      · exact .fails ⟨by simp, rfl, Nat.le_of_eq counted⟩
      · split
        · next ok =>
          cases ok
          split
          · exact .fails ⟨by simp, rfl, Nat.le_of_eq counted⟩
          · next more =>
            rcases respond_cases io mech (some payload)
              { t with inner := s, events := t.events ++ [.received ⟨saslOK, payload⟩] } with
              ⟨err, s', m, failed⟩ | ⟨resp, done', m, s', stepped, answered⟩
            · rw [failed]
              exact .fails ⟨by simp, rfl, Nat.le_of_eq counted⟩
            · rw [answered, List.append_assoc]
              exact .answers s' payload resp done' m (by simpa using more) stepped
        · exact .fails ⟨by simp, rfl, Nat.le_of_eq counted⟩

/-! ## Handshakes -/

/-- A transport as `NewSaslPlain` and `NewSaslGSSAPI` return it. -/
def fresh (s : σ) (m : μ) : Transport σ μ := ⟨s, m, false, []⟩

/-- A handshake is open exactly if it returned nil, and then its frames are ones that
are accepted; it is not open after an error, and took three frames at most. -/
structure Safe (accepts : List Event → Prop) (outcome : Outcome σ μ) : Prop where
  opens : outcome.result = none ↔ outcome.transport.opened = true
  accepted : outcome.result = none → accepts outcome.transport.events
  closed : outcome.result ≠ none → outcome.transport.isOpen io = false
  bounded : (received outcome.transport.events).length ≤ 3

variable {accepts : List Event → Prop} {t : Transport σ μ} {done : Bool} {resp : Bytes}

private theorem safe_of_error {outcome : Outcome σ μ} (error : outcome.result ≠ none)
    (unopened : outcome.transport.opened = false)
    (bounded : (received outcome.transport.events).length ≤ 3) : Safe io accepts outcome where
  opens := ⟨fun nil => absurd nil error, fun opened => absurd (unopened.symm.trans opened) (by decide)⟩
  accepted nil := absurd nil error
  closed _ := by simp [Transport.isOpen, unopened]
  bounded := bounded

private theorem safe_of_fails {outcome : Outcome σ μ} (unopened : t.opened = false)
    (few : (received t.events).length ≤ 2) (fails : Fails t outcome) : Safe io accepts outcome :=
  safe_of_error io fails.error (fails.opened.trans unopened) (Nat.le_trans fails.frames (by omega))

private theorem safe_of_complete {s : σ} {payload : Bytes} (few : (received t.events).length ≤ 2)
    (accepted : accepts (t.events ++ [.received ⟨saslComplete, payload⟩])) :
    Safe io accepts ⟨none, { t with
      inner := s
      opened := true
      events := t.events ++ [.received ⟨saslComplete, payload⟩] }⟩ where
  opens := by simp
  accepted _ := accepted
  closed error := absurd rfl error
  bounded := by rw [received_append]; omega

/-- The handshake fails before the loop, or gets there with the frames of the mechanism's
name and of its initial response sent. -/
private theorem openContext_cases (accepts : List Event → Prop) (rounds : Nat) (s : σ) (m : μ) :
    (∃ outcome, openContext io mech quote rounds (fresh s m) = some outcome ∧
      Safe io accepts outcome) ∨
      ∃ resp done m' s', mech.step m none = (.ok (resp, done), m') ∧
        openContext io mech quote rounds (fresh s m) = negotiate io mech quote rounds done
          ⟨s', m', false, [.sent (startFrame mech.name), .sent ⟨statusFor done, resp⟩]⟩ := by
  unfold openContext
  dsimp only [fresh]
  split
  · exact .inl ⟨_, rfl, safe_of_error io (by simp) rfl (by simp [received])⟩
  · split
    · exact .inl ⟨_, rfl, safe_of_error io (by simp) rfl (by simp [received])⟩
    · next s' _ =>
      rcases respond_cases io mech none ⟨s', m, false, [.sent (startFrame mech.name)]⟩ with
        ⟨err, s'', m', failed⟩ | ⟨resp, done, m', s'', stepped, answered⟩
      · refine .inl ⟨⟨some err, ⟨s'', m', false, [.sent (startFrame mech.name)]⟩⟩, ?_, ?_⟩
        · exact congrArg (resume io mech quote rounds) failed
        · exact safe_of_error io (by simp) rfl (by simp [received])
      · exact .inr ⟨resp, done, m', s'', stepped, congrArg (resume io mech quote rounds) answered⟩

/-- The rule for one more round: what is to be shown if the server's COMPLETE is believed,
and if its challenge is answered. -/
private theorem negotiate_succ_safe {rounds : Nat} (unopened : t.opened = false)
    (few : (received t.events).length ≤ 2)
    (completes : mech.complete t.mech = true →
      ∀ payload, accepts (t.events ++ [.received ⟨saslComplete, payload⟩]))
    (answers : done = false → ∀ s challenge resp done' m,
      mech.step t.mech (some challenge) = (.ok (resp, done'), m) →
      ∃ outcome, negotiate io mech quote rounds done'
        ⟨s, m, false,
          t.events ++ [.received ⟨saslOK, challenge⟩, .sent ⟨statusFor done', resp⟩]⟩ =
            some outcome ∧ Safe io accepts outcome) :
    ∃ outcome, negotiate io mech quote (rounds + 1) done t = some outcome ∧
      Safe io accepts outcome := by
  have rounded := round_cases io mech quote done t
  rw [negotiate]
  generalize round io mech quote done t = ended at rounded
  cases rounded with
  | fails fails => exact ⟨_, rfl, safe_of_fails io unopened few fails⟩
  | completes s payload complete =>
    exact ⟨_, rfl, safe_of_complete io few (completes complete payload)⟩
  | answers s challenge resp done' m more stepped =>
    rw [unopened]
    exact answers more s challenge resp done' m stepped

/-! ### PLAIN -/

/-- The mechanism's name and one response were sent, and the server's first frame was
COMPLETE. -/
def PlainAccepted (user password : Bytes) (events : List Event) : Prop :=
  ∃ payload, events =
    [.sent (startFrame "PLAIN"), .sent ⟨saslOK, 0 :: user ++ 0 :: password⟩,
      .received ⟨saslComplete, payload⟩]

private theorem plain_is_safe (user password : Bytes) (rounds : Nat) (s : σ) :
    ∃ outcome, openContext io plainMech quote (rounds + 1) (fresh s ⟨user, password, false⟩) =
      some outcome ∧ Safe io (PlainAccepted user password) outcome := by
  rcases openContext_cases io plainMech quote (PlainAccepted user password) (rounds + 1) s
    ⟨user, password, false⟩ with safe | ⟨resp, done, m, s', stepped, loops⟩
  · exact safe
  · cases stepped
    rw [loops]
    refine negotiate_succ_safe io plainMech quote rfl (by simp [received]) ?_ ?_
    · intro _ payload
      exact ⟨payload, rfl⟩
    · intro _ s challenge resp done' m stepped
      cases stepped

/-! ### GSSAPI -/

variable {κ : Type} (tokens : Tokens κ)

/-- The server's frames were OK, OK and COMPLETE; the first challenge verified as the
AP_REP, and with what that left the second one yielded the last token. -/
def GssapiAccepted (keys : κ) (events : List Event) : Prop :=
  ∃ token keys₁ c₁ keys₂ c₂ last keys₃ payload,
    tokens.initialToken keys = (.ok token, keys₁) ∧
    tokens.verifyAPRep c₁ keys₁ = (.ok (), keys₂) ∧
    tokens.selectSecurityLayer c₂ keys₂ = (.ok last, keys₃) ∧
    events =
      [.sent (startFrame "GSSAPI"), .sent ⟨saslOK, token⟩,
        .received ⟨saslOK, c₁⟩, .sent ⟨saslOK, []⟩,
        .received ⟨saslOK, c₂⟩, .sent ⟨saslComplete, last⟩,
        .received ⟨saslComplete, payload⟩]

variable {keys : κ} {m : GssapiMech κ}

private theorem step_apReq {challenge : Option Bytes}
    (stepped : (gssapiMech tokens).step ⟨.apReq, keys⟩ challenge = (.ok (resp, done), m)) :
    ∃ keys', tokens.initialToken keys = (.ok resp, keys') ∧ done = false ∧ m = ⟨.apRep, keys'⟩ := by
  simp only [gssapiMech] at stepped
  split at stepped
  · cases stepped
  · next token keys' verified =>
    cases stepped
    exact ⟨keys', verified, rfl, rfl⟩

private theorem step_apRep {challenge : Bytes}
    (stepped : (gssapiMech tokens).step ⟨.apRep, keys⟩ (some challenge) = (.ok (resp, done), m)) :
    ∃ keys', tokens.verifyAPRep challenge keys = (.ok (), keys') ∧ resp = [] ∧ done = false ∧
      m = ⟨.secLayer, keys'⟩ := by
  simp only [gssapiMech, Option.getD_some] at stepped
  split at stepped
  · cases stepped
  · next keys' verified =>
    cases stepped
    exact ⟨keys', verified, rfl, rfl, rfl⟩

private theorem step_secLayer {challenge : Bytes}
    (stepped : (gssapiMech tokens).step ⟨.secLayer, keys⟩ (some challenge) = (.ok (resp, done), m)) :
    ∃ keys', tokens.selectSecurityLayer challenge keys = (.ok resp, keys') ∧ done = true ∧
      m = ⟨.done, keys'⟩ := by
  simp only [gssapiMech, Option.getD_some] at stepped
  split at stepped
  · cases stepped
  · next token keys' selected =>
    cases stepped
    exact ⟨keys', selected, rfl, rfl⟩

theorem gssapi_is_safe (keys : κ) (rounds : Nat) (s : σ) :
    ∃ outcome, openContext io (gssapiMech tokens) quote (rounds + 3) (fresh s ⟨.apReq, keys⟩) =
      some outcome ∧ Safe io (GssapiAccepted tokens keys) outcome := by
  rcases openContext_cases io (gssapiMech tokens) quote (GssapiAccepted tokens keys) (rounds + 3) s
    ⟨.apReq, keys⟩ with safe | ⟨token, done, m, s', stepped, loops⟩
  · exact safe
  · obtain ⟨keys₁, initial, rfl, rfl⟩ := step_apReq tokens stepped
    rw [loops]
    refine negotiate_succ_safe io _ quote rfl (by simp [received]) (fun early => ?_) ?_
    · cases early
    · intro _ s₁ c₁ resp done m stepped
      obtain ⟨keys₂, verified, rfl, rfl, rfl⟩ := step_apRep tokens stepped
      refine negotiate_succ_safe io _ quote rfl (by simp [received]) (fun early => ?_) ?_
      · cases early
      · intro _ s₂ c₂ last done m stepped
        obtain ⟨keys₃, selected, rfl, rfl⟩ := step_secLayer tokens stepped
        refine negotiate_succ_safe io _ quote rfl (by simp [received]) ?_ (fun more => ?_)
        · intro _ payload
          exact ⟨token, keys₁, c₁, keys₂, c₂, last, keys₃, payload, initial, verified, selected, rfl⟩
        · cases more

/-- **The handshake is safe against any peer.** Whatever frames come in and whatever the
inner transport and the token functions do, `OpenContext` returns after three of the
server's frames at most, is open exactly if it returns nil, and does so only after the
whole of the mechanism's exchange. -/
theorem handshake_is_safe (s : σ) (rounds : Nat) :
    (∀ user password, ∃ outcome,
      openContext io plainMech quote (rounds + 3) (fresh s ⟨user, password, false⟩) = some outcome ∧
        Safe io (PlainAccepted user password) outcome) ∧
    (∀ keys, ∃ outcome,
      openContext io (gssapiMech tokens) quote (rounds + 3) (fresh s ⟨.apReq, keys⟩) = some outcome ∧
        Safe io (GssapiAccepted tokens keys) outcome) :=
  ⟨fun user password => plain_is_safe io quote user password (rounds + 2) s,
    fun keys => gssapi_is_safe io quote tokens keys rounds s⟩

end Transport

end HmsClient.Sasl
