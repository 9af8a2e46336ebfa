import HmsClient.ClientOptions
import HmsClient.PeerScript
import HmsClient.ReplyBudget
import Mathlib.Data.List.AList

/-! How a connection is made: `newConn` of `conn.go`, and `DialBinary` and `NewHTTP` below it,
as programs that put requests to the network. Whatever the network answers, a socket that was
opened is closed again unless the connection is returned, a connection claims one identity at
most, and the claim goes over TLS where the settings ask for TLS. -/
namespace HmsClient.Dialing
open NetUrl Transport PeerScript

/-- What a claim or a request is sent through. -/
inductive Channel where
  | clear
  | tls (cfg : TlsConfig)
  | callersClient
  deriving DecidableEq

inductive Identity where
  | plain (user password : Text)
  | gssapi (spn : Text)
  | ugi (user : Text) (groups : List Text)
  deriving DecidableEq

/-- The steps of a dial that are not the client's own: the network answers them, `crypto/tls`
answers `handshake`, and `contextErr` asks whether the context has ended. `negotiate` is the
SASL handshake. -/
inductive Act where
  | dial (hostPort : Text) (timeout : Int)
  | handshake (cfg : TlsConfig)
  | negotiate (through : Channel) (who : Identity)
  | contextErr
  | setUgi (through : Channel) (who : Identity)
  | close

def Act.Reply : Act → Type
  | .contextErr => Option Err
  | _ => Unit

abbrev network : Link where
  Op := Act
  Reply := Act.Reply
  Fault := Err
  Error := Err
  raise := id
  broken _ := false

abbrev Setup (α : Type) := Dialogue network Unit α

/-! ## Over TCP -/

structure BinaryConfig where
  connectTimeout : Int
  tls : Option TlsConfig
  plainUser : Text
  plainPassword : Text
  kerberos : Option KerberosConfig

/-- The host that `SplitHostPort` finds, or the whole address. -/
def hostOf (hostPort : Text) : Text :=
  match splitHostPort hostPort with
  | some (host, _) => host
  | none => hostPort

def servicePrincipal (hostPort override : Text) : Except Err Text :=
  if override ≠ [] then .ok override
  else if hostOf hostPort = [] then
    .error (.leaf (.other "hms: kerberos: no endpoint host to build the service principal from"))
  else .ok (lit "hive" ++ lit "/" ++ hostOf hostPort)

def newSaslGSSAPI (hostPort : Text) (cfg : KerberosConfig) : Except Err Identity :=
  match servicePrincipal hostPort cfg.servicePrincipal with
  | .error err => .error err
  | .ok spn =>
    if cfg.session then .ok (.gssapi spn)
    else .error (.leaf (.other ("hms: kerberos: no session; build one with NewKerberosSession " ++
      "and set KerberosConfig.Session")))

/-- The mechanism of the SASL handshake, if there is one. -/
def mechanism (hostPort : Text) (cfg : BinaryConfig) : Except Err (Option Identity) :=
  match cfg.kerberos with
  | some krb => (newSaslGSSAPI hostPort krb).map some
  | none => .ok (if cfg.plainUser ≠ [] then some (.plain cfg.plainUser cfg.plainPassword) else none)

/-- The server's name is the host's where the caller gives none and has it verified. -/
def serverNamed (hostPort : Text) (cfg : TlsConfig) : TlsConfig :=
  if cfg.serverName = [] ∧ !cfg.insecureSkipVerify then
    { cfg with serverName := hostOf hostPort }
  else cfg

/-- `conn.Close()` on the way out, whose own error is dropped. -/
def closeSocket : Setup Unit := do
  let _ ← (Dialogue.request (L := network) .close).result
  pure ()

/-- The socket is closed before an error is returned. -/
def orClose {α : Type} (d : Setup α) : Setup α := do
  match ← d.result with
  | .ok a => pure a
  | .error err => do
    closeSocket
    Dialogue.fail err

def throughTLS (hostPort : Text) : Option TlsConfig → Setup Channel
  | none => pure .clear
  | some cfg => do
    orClose (Dialogue.request (L := network) (.handshake (serverNamed hostPort cfg)))
    pure (.tls (serverNamed hostPort cfg))

/-- An error after the context has ended is the context's. -/
def saslError (err : Err) : Except Err (Option Err) → Setup Unit
  | .ok (some ended) => Dialogue.fail ended
  | _ => Dialogue.fail err

def openSasl (through : Channel) (who : Identity) : Setup Unit := do
  match ← (Dialogue.request (L := network) (.negotiate through who)).result with
  | .ok _ => pure ()
  | .error err => do
    closeSocket
    (Dialogue.request (L := network) .contextErr).result >>= saslError err

/-- The part of `DialBinary` after TLS. -/
def authenticate (hostPort : Text) (cfg : BinaryConfig) (through : Channel) : Setup Channel :=
  match mechanism hostPort cfg with
  | .error err => do
    closeSocket
    Dialogue.fail err
  | .ok none => pure through
  | .ok (some who) => do
    openSasl through who
    pure through

def dialBinary (hostPort : Text) (cfg : BinaryConfig) : Setup Channel := do
  if cfg.plainUser ≠ [] ∧ cfg.kerberos.isSome then Dialogue.fail mutuallyExclusive
  else do
    Dialogue.request (L := network) (.dial hostPort cfg.connectTimeout)
    let through ← throughTLS hostPort cfg.tls
    authenticate hostPort cfg through

/-! ## Over HTTP -/

abbrev Header := AList fun _ : Text => List Text

/-- The characters of a token. -/
def validHeaderFieldByte (c : UInt8) : Bool :=
  (48 ≤ c && c ≤ 57) || (65 ≤ c && c ≤ 90) || (97 ≤ c && c ≤ 122) ||
    (lit "!#$%&'*+-.^_`|~").contains c

def lower (c : UInt8) : UInt8 := if 65 ≤ c && c ≤ 90 then c + 32 else c

/-- A letter is upper case at the start and after a hyphen, and lower case elsewhere. -/
def canonicalLetters (start : Bool) : Text → Text
  | [] => []
  | c :: rest => (if start then upper c else lower c) :: canonicalLetters (c = 45) rest

def canonicalMIMEHeaderKey (k : Text) : Text :=
  if k.all validHeaderFieldByte then canonicalLetters true k else k

/-- `Header.Add`. -/
def Header.add (h : Header) (k v : Text) : Header :=
  AList.insert (canonicalMIMEHeaderKey k)
    ((AList.lookup (canonicalMIMEHeaderKey k) h).getD [] ++ [v]) h

/-- `Header.Del`. -/
def Header.del (h : Header) (k : Text) : Header := AList.erase (canonicalMIMEHeaderKey k) h

def setHeader (h : Header) (k v : Text) : Header := (Header.del h k).add k v

/-- `userOrDefault`. -/
def userOrDefault (current u : Text) : Text := if u ≠ [] then u else defaultOSUser current

def contentType : Text := lit "Content-Type"
def accept : Text := lit "Accept"
def userAgentHeader : Text := lit "User-Agent"
def authorization : Text := lit "Authorization"
def actorUsername : Text := lit "x-actor-username"
def xThrift : Text := lit "application/x-thrift"

/-- The headers before those of the caller. A `THttpClient` starts with a content type. -/
def libraryHeaders (m : Machine) (cfg : Settings) : Header :=
  let h := setHeader (AList.singleton contentType [xThrift]) contentType xThrift
  let h := setHeader h accept xThrift
  let h := if m.userAgent ≠ [] then setHeader h userAgentHeader m.userAgent else h
  if cfg.bearerToken ≠ [] then setHeader h authorization (lit "Bearer " ++ cfg.bearerToken)
  else setHeader h actorUsername (userOrDefault m.current cfg.user)

def requestHeaders (m : Machine) (cfg : Settings) : Header :=
  cfg.httpHeaders.foldl (fun h kv => setHeader h kv.1 kv.2) (libraryHeaders m cfg)

/-- What `hardenClient` makes of a client, or of none. -/
structure Hardened where
  timeout : Int
  through : Channel
  refusesRedirects : Bool
  cap : Int64

/-- A client without TLS settings verifies the host's name. -/
def hardenClient (cfg : Settings) : Hardened :=
  let cap := ReplyBudget.responseCap cfg.maxResponseBytes
  match cfg.httpClient with
  | some hc => ⟨hc.timeout, .callersClient, !hc.redirects, cap⟩
  | none => ⟨cfg.timeout, .tls (cfg.tlsConfig.getD ⟨[], false⟩), true, cap⟩

structure HttpConn where
  url : Text
  through : Channel
  client : Hardened
  headers : Header

/-- Only https goes over TLS. -/
def newHTTP (m : Machine) (cfg : Settings) (ep : Endpoint) : Except Err HttpConn :=
  match parse m.lib ep.url with
  | .error cause =>
    .error (.leaf (.other (shown (lit "parse " ++ quote m.lib ep.url ++ lit ": " ++
      cause.text m.lib))))
  | .ok _ =>
    .ok
      { url := ep.url
        through := if ep.scheme = schemeHTTPS then (hardenClient cfg).through else .clear
        client := hardenClient cfg
        headers := requestHeaders m cfg }

/-! ## Either way -/

inductive Conn where
  | binary (through : Channel)
  | http (conn : HttpConn)

def Settings.binary (cfg : Settings) : BinaryConfig :=
  ⟨cfg.connectTimeout, cfg.tlsConfig, cfg.plainUser, cfg.plainPassword, cfg.krbConfig⟩

/-- The part of `newConn` after the dial of a binary endpoint. -/
def claimUgi (cfg : Settings) (through : Channel) : Setup Conn :=
  if cfg.wantsSetUgi then do
    orClose (Dialogue.request (L := network) (.setUgi through (.ugi cfg.ugiUser cfg.userGroups)))
    pure (.binary through)
  else pure (.binary through)

def newConn (m : Machine) (cfg : Settings) (ep : Endpoint) : Setup Conn :=
  if ep.scheme = schemeThrift then do
    let through ← dialBinary ep.host cfg.binary
    claimUgi cfg through
  else
    match newHTTP m cfg ep with
    | .error err => Dialogue.fail err
    | .ok conn => pure (.http conn)

/-! ## Runs -/

/-- The identities that were claimed, and through what. -/
def claims (log : List (Exchange network)) : List (Channel × Identity) :=
  log.filterMap fun x =>
    match x.op with
    | .negotiate through who | .setUgi through who => some (through, who)
    | _ => none

/-- The errors that the steps of a dial reported, each with its step, and that of the context.
The error of a `Close` is not looked at. -/
def faults (log : List (Exchange network)) : List (Act × Err) :=
  log.filterMap fun x =>
    match x with
    | ⟨.close, _⟩ => none
    | ⟨act, .error err⟩ => some (act, err)
    | ⟨.contextErr, .ok ended⟩ => ended.map fun err => (.contextErr, err)
    | _ => none

/-- An error that some step of a dial reported. -/
def Told (log : List (Exchange network)) (err : Err) : Prop := ∃ act, (act, err) ∈ faults log

/-- The sockets that were opened. -/
def opened (log : List (Exchange network)) : Nat :=
  log.countP fun x =>
    match x with
    | ⟨.dial _ _, .ok _⟩ => true
    | _ => false

def closed (log : List (Exchange network)) : Nat :=
  log.countP fun x =>
    match x.op with
    | .close => true
    | _ => false

/-- What a part of a dial does to the socket, and what it claims. -/
structure Does (log : List (Exchange network)) (opens closes : Nat)
    (said : List (Channel × Identity)) : Prop where
  opened : opened log = opens
  closed : closed log = closes
  said : claims log = said

variable {log : List (Exchange network)}

theorem Does.append {more : List (Exchange network)} {o c o' c' : Nat}
    {said said' : List (Channel × Identity)} (first : Does log o c said)
    (second : Does more o' c' said') : Does (log ++ more) (o + o') (c + c') (said ++ said') := by
  refine ⟨?_, ?_, ?_⟩
  · rw [Dialing.opened, List.countP_append]
    exact congrArg₂ (· + ·) first.opened second.opened
  · rw [Dialing.closed, List.countP_append]
    exact congrArg₂ (· + ·) first.closed second.closed
  · rw [claims, List.filterMap_append]
    exact congrArg₂ (· ++ ·) first.said second.said

theorem does_nil : Does [] 0 0 [] := ⟨rfl, rfl, rfl⟩

theorem Told.before {err : Err} (told : Told log err) (more : List (Exchange network)) :
    Told (log ++ more) err := by
  obtain ⟨act, inFaults⟩ := told
  refine ⟨act, ?_⟩
  rw [faults, List.filterMap_append]
  exact List.mem_append_left _ inFaults

theorem Told.behind {err : Err} (told : Told log err) (earlier : List (Exchange network)) :
    Told (earlier ++ log) err := by
  obtain ⟨act, inFaults⟩ := told
  refine ⟨act, ?_⟩
  rw [faults, List.filterMap_append]
  exact List.mem_append_right _ inFaults

/-- A dial either returns a connection that has claimed what it should, on a socket that is
open, or fails with every socket closed that it opened. The error is one that it was told, or
one of its own. -/
inductive Dialed {α : Type} (conn : α) (said : List (Channel × Identity)) (own : Err → Prop)
    (log : List (Exchange network)) : Except Err α → Prop where
  | returned : Does log 1 0 said → Dialed conn said own log (.ok conn)
  | undialed {err : Err} : Told log err ∨ own err → Does log 0 0 [] →
      Dialed conn said own log (.error err)
  | silent {err : Err} : Told log err ∨ own err → Does log 1 1 [] →
      Dialed conn said own log (.error err)
  | claimed {err : Err} : Told log err ∨ own err → Does log 1 1 said →
      Dialed conn said own log (.error err)

section Runs
variable {α : Type} {log : List (Exchange network)} {s s' : Unit}

variable {r : Except Err Unit} {err : Err} {said : List (Channel × Identity)} {hostPort : Text}
  {before : List (Exchange network)} {cfg : Settings}

private theorem run_closeSocket (ran : Run (closeSocket s) log (r, s')) :
    Does log 0 1 [] ∧ r = .ok () := by
  obtain ⟨first, outcome, mid, second, asked, rest, rfl⟩ := Dialogue.run_result ran
  obtain ⟨answer, rfl, -, -⟩ := Dialogue.run_request asked
  obtain ⟨rfl, same⟩ := run_done rest
  cases same
  exact ⟨⟨rfl, rfl, rfl⟩, rfl⟩

/-- Closing the socket and failing. -/
private theorem run_close_fail {r : Except Err α}
    (ran : Run ((closeSocket >>= fun _ => Dialogue.fail err) s) log (r, s')) :
    Does log 0 1 [] ∧ r = .error err := by
  rcases Dialogue.run_then ran with ⟨e, failed, rfl⟩ | ⟨first, a, mid, second, ok, rest, rfl⟩
  · obtain ⟨-, none⟩ := run_closeSocket failed
    cases none
  · obtain ⟨does, -⟩ := run_closeSocket ok
    obtain ⟨rfl, same⟩ := run_done rest
    cases same
    rw [List.append_nil]
    exact ⟨does, rfl⟩

private theorem told_of_failed {op : Act} {answer : Except Err (Act.Reply op)} (heard : op ≠ .close)
    (failed : .error err = answer.mapError id) : Told [⟨op, answer⟩] err := by
  cases answer with
  | ok _ => cases failed
  | error err' =>
    cases failed
    refine ⟨op, ?_⟩
    cases op with
    | close => exact absurd rfl heard
    | _ => exact .head _

/-- A request that is one claim, or none, and opens and closes nothing. -/
private theorem run_orClose_request {op : Act} (heard : op ≠ .close)
    (does : ∀ answer, Does [⟨op, answer⟩] 0 0 said) {r : Except Err (Act.Reply op)}
    (ran : Run (orClose (Dialogue.request (L := network) op) s) log (r, s')) :
    (∃ a, r = .ok a ∧ Does log 0 0 said) ∨
      ∃ err, r = .error err ∧ Told log err ∧ Does log 0 1 said := by
  obtain ⟨first, outcome, mid, second, asked, rest, rfl⟩ := Dialogue.run_result ran
  obtain ⟨answer, rfl, answered, -⟩ := Dialogue.run_request asked
  cases outcome with
  | ok a =>
    obtain ⟨rfl, same⟩ := run_done rest
    cases same
    refine .inl ⟨a, rfl, ?_⟩
    rw [List.append_nil]
    exact does answer
  | error err =>
    obtain ⟨closes, rfl⟩ := run_close_fail rest
    have both := (does answer).append closes
    rw [List.append_nil] at both
    exact .inr ⟨err, rfl, (told_of_failed heard answered).before _, both⟩

/-- What a binary connection goes through. -/
def channelFor (hostPort : Text) : Option TlsConfig → Channel
  | none => .clear
  | some cfg => .tls (serverNamed hostPort cfg)

private theorem run_throughTLS {r : Except Err Channel}
    (ran : Run (throughTLS hostPort tls s) log (r, s')) :
    (r = .ok (channelFor hostPort tls) ∧ Does log 0 0 []) ∨
      ∃ err, r = .error err ∧ Told log err ∧ Does log 0 1 [] := by
  cases tls with
  | none =>
    obtain ⟨rfl, same⟩ := run_done ran
    cases same
    exact .inl ⟨rfl, does_nil⟩
  | some cfg =>
    rcases Dialogue.run_then ran with ⟨e, failed, rfl⟩ | ⟨first, a, mid, second, ok, rest, rfl⟩
    · rcases run_orClose_request (by nofun) (fun _ => ⟨rfl, rfl, rfl⟩) failed with
        ⟨a, none, -⟩ | ⟨err, same, told, does⟩
      · cases none
      · cases same
        exact .inr ⟨e, rfl, told, does⟩
    · obtain ⟨rfl, same⟩ := run_done rest
      cases same
      rcases run_orClose_request (by nofun) (fun _ => ⟨rfl, rfl, rfl⟩) ok with
        ⟨a, -, does⟩ | ⟨err, none, -⟩
      · refine .inl ⟨rfl, ?_⟩
        rwa [List.append_nil]
      · cases none

private theorem run_saslError (ran : Run (saslError err context s) log (r, s')) :
    log = [] ∧ r = .error ((context.toOption.join).getD err) := by
  cases context with
  | error err' =>
    obtain ⟨rfl, same⟩ := run_done ran
    cases same
    exact ⟨rfl, rfl⟩
  | ok ended =>
    cases ended with
    | none | some err' =>
      obtain ⟨rfl, same⟩ := run_done ran
      cases same
      exact ⟨rfl, rfl⟩

/-- The error of a handshake, or of the context that ended it. -/
private theorem run_contextErr
    (ran : Run (((Dialogue.request (L := network) .contextErr).result >>= saslError err) s) log
      (r, s')) : Does log 0 0 [] ∧ ∃ err', r = .error err' ∧ (err' = err ∨ Told log err') := by
  obtain ⟨first, context, mid, last, looked, fails, rfl⟩ := Dialogue.run_result ran
  obtain ⟨answer, rfl, answered, -⟩ := Dialogue.run_request looked
  obtain ⟨rfl, rfl⟩ := run_saslError fails
  refine ⟨⟨rfl, rfl, rfl⟩, _, rfl, ?_⟩
  cases answer with
  | error err' =>
    cases answered
    exact .inl rfl
  | ok ended =>
    cases answered
    cases ended with
    | none => exact .inl rfl
    | some err' => exact .inr ⟨.contextErr, .head _⟩

private theorem run_openSasl {through : Channel} {who : Identity}
    (ran : Run (openSasl through who s) log (r, s')) :
    (r = .ok () ∧ Does log 0 0 [(through, who)]) ∨
      ∃ err, r = .error err ∧ Told log err ∧ Does log 0 1 [(through, who)] := by
  obtain ⟨first, outcome, mid, second, asked, rest, rfl⟩ := Dialogue.run_result ran
  obtain ⟨answer, rfl, answered, -⟩ := Dialogue.run_request asked
  have said : Does [⟨.negotiate through who, answer⟩] 0 0 [(through, who)] := ⟨rfl, rfl, rfl⟩
  cases outcome with
  | ok _ =>
    obtain ⟨rfl, same⟩ := run_done rest
    cases same
    refine .inl ⟨rfl, ?_⟩
    rwa [List.append_nil]
  | error err =>
    have told : Told [⟨.negotiate through who, answer⟩] err := told_of_failed nofun answered
    rcases Dialogue.run_then rest with ⟨e, failed, -⟩ | ⟨closing, a, mid', last, ok, ended, rfl⟩
    · obtain ⟨-, none⟩ := run_closeSocket failed
      cases none
    · obtain ⟨closes, -⟩ := run_closeSocket ok
      obtain ⟨looks, err', rfl, blamed⟩ := run_contextErr ended
      refine .inr ⟨err', rfl, ?_, said.append (closes.append looks)⟩
      rcases blamed with rfl | there
      · exact told.before _
      · exact (there.behind _).behind _

/-- The claim of a SASL handshake. -/
def saslClaim (hostPort : Text) (cfg : BinaryConfig) : List (Channel × Identity) :=
  match mechanism hostPort cfg with
  | .ok (some who) => [(channelFor hostPort cfg.tls, who)]
  | _ => []

/-- The errors that a dial of a binary endpoint does not get from one of its steps. -/
def OwnError (hostPort : Text) (cfg : BinaryConfig) (err : Err) : Prop :=
  (cfg.plainUser ≠ [] ∧ cfg.kerberos.isSome) ∨ mechanism hostPort cfg = .error err

private theorem run_authenticate {cfg : BinaryConfig} {r : Except Err Channel}
    (dialed : Does before 1 0 [])
    (ran : Run (authenticate hostPort cfg (channelFor hostPort cfg.tls) s) log (r, s')) :
    Dialed (channelFor hostPort cfg.tls) (saslClaim hostPort cfg) (OwnError hostPort cfg)
      (before ++ log) r := by
  unfold authenticate at ran
  unfold saslClaim
  rcases chosen : mechanism hostPort cfg with err | _ | who
  · rw [chosen] at ran
    obtain ⟨closes, rfl⟩ := run_close_fail ran
    exact .silent (.inr (.inr chosen)) (dialed.append closes)
  · rw [chosen] at ran
    obtain ⟨rfl, same⟩ := run_done ran
    cases same
    rw [List.append_nil]
    exact .returned dialed
  · rw [chosen] at ran
    rcases Dialogue.run_then ran with ⟨e, failed, rfl⟩ | ⟨first, a, mid, last, ok, ended, rfl⟩
    · rcases run_openSasl failed with ⟨none, -⟩ | ⟨err, same, told, does⟩
      · cases none
      · cases same
        exact .claimed (.inl (told.behind _)) (dialed.append does)
    · obtain ⟨rfl, same⟩ := run_done ended
      cases same
      rcases run_openSasl ok with ⟨-, does⟩ | ⟨err, none, -⟩
      · rw [List.append_nil]
        exact .returned (dialed.append does)
      · cases none

private theorem run_dialBinary {cfg : BinaryConfig} {r : Except Err Channel}
    (ran : Run (dialBinary hostPort cfg s) log (r, s')) :
    Dialed (channelFor hostPort cfg.tls) (saslClaim hostPort cfg) (OwnError hostPort cfg) log r := by
  rw [dialBinary] at ran
  split at ran
  · next both =>
    obtain ⟨rfl, same⟩ := run_done ran
    cases same
    exact .undialed (.inr (.inl both)) does_nil
  · rcases Dialogue.run_request_then ran with ⟨err, rfl, rfl, -⟩ | ⟨reply, rest, rfl, after⟩
    · exact .undialed (.inl ⟨_, .head _⟩) ⟨rfl, rfl, rfl⟩
    have dial : Does [⟨.dial hostPort cfg.connectTimeout, .ok reply⟩] 1 0 [] := ⟨rfl, rfl, rfl⟩
    rw [← List.singleton_append]
    rcases Dialogue.run_then after with ⟨e, failed, rfl⟩ | ⟨shaken, a, mid, last, ok, ended, rfl⟩
    · rcases run_throughTLS failed with ⟨none, -⟩ | ⟨err, same, told, does⟩
      · cases none
      · cases same
        exact .silent (.inl (told.behind _)) (dial.append does)
    rcases run_throughTLS ok with ⟨same, does⟩ | ⟨err, none, -⟩
    · cases same
      rw [← List.append_assoc]
      exact run_authenticate (dial.append does) ended
    · cases none

/-- What a connection claims: an identity of its own is claimed only where SASL claims
none. -/
def claimsOf (cfg : Settings) (hostPort : Text) : List (Channel × Identity) :=
  if cfg.wantsSetUgi then [(channelFor hostPort cfg.tlsConfig, .ugi cfg.ugiUser cfg.userGroups)]
  else saslClaim hostPort cfg.binary

private theorem saslClaim_of_wantsSetUgi (wants : cfg.wantsSetUgi = true) (hostPort : Text) :
    saslClaim hostPort cfg.binary = [] := by
  simp only [Settings.wantsSetUgi, Bool.and_eq_true, Bool.not_eq_true', beq_iff_eq] at wants
  obtain ⟨⟨-, plain⟩, kerberos⟩ := wants
  have none : mechanism hostPort cfg.binary = .ok none := by
    simp [mechanism, Settings.binary, Settings.krbConfig, kerberos, plain]
  rw [saslClaim, none]

private theorem Dialed.of_failed {α β : Type} {a : α} {b : β} {said' : List (Channel × Identity)}
    {own : Err → Prop} (failed : Dialed a said own log (.error err))
    (within : said = [] ∨ said = said') : Dialed b said' own log (.error err) := by
  cases failed with
  | undialed why does => exact .undialed why does
  | silent why does => exact .silent why does
  | claimed why does =>
    rcases within with rfl | rfl
    · exact .silent why does
    · exact .claimed why does

private theorem saslClaim_within (cfg : Settings) (hostPort : Text) :
    saslClaim hostPort cfg.binary = [] ∨ saslClaim hostPort cfg.binary = claimsOf cfg hostPort := by
  cases wants : cfg.wantsSetUgi with
  | true => exact .inl (saslClaim_of_wantsSetUgi wants hostPort)
  | false =>
    refine .inr ?_
    rw [claimsOf, wants]
    rfl

private theorem run_claimUgi {r : Except Err Conn}
    (dialed : Does before 1 0 (saslClaim hostPort cfg.binary))
    (ran : Run (claimUgi cfg (channelFor hostPort cfg.tlsConfig) s) log (r, s')) :
    Dialed (.binary (channelFor hostPort cfg.tlsConfig)) (claimsOf cfg hostPort)
      (OwnError hostPort cfg.binary) (before ++ log) r := by
  cases wants : cfg.wantsSetUgi with
  | false =>
    rw [claimUgi, wants] at ran
    obtain ⟨rfl, same⟩ := run_done ran
    cases same
    rw [claimsOf, wants, List.append_nil]
    exact .returned dialed
  | true =>
    rw [claimUgi, wants] at ran
    rw [saslClaim_of_wantsSetUgi wants] at dialed
    rw [claimsOf, wants]
    rcases Dialogue.run_then ran with ⟨e, failed, rfl⟩ | ⟨first, a, mid, last, ok, ended, rfl⟩
    · rcases run_orClose_request (by nofun) (fun _ => ⟨rfl, rfl, rfl⟩) failed with
        ⟨a, none, -⟩ | ⟨err, same, told, does⟩
      · cases none
      · cases same
        exact .claimed (.inl (told.behind _)) (dialed.append does)
    · obtain ⟨rfl, same⟩ := run_done ended
      cases same
      rcases run_orClose_request (by nofun) (fun _ => ⟨rfl, rfl, rfl⟩) ok with
        ⟨a, -, does⟩ | ⟨err, none, -⟩
      · rw [List.append_nil]
        exact .returned (dialed.append does)
      · cases none

/-- The dial of a binary endpoint. -/
theorem run_newConn_binary {m : Machine} {ep : Endpoint} {r : Except Err Conn}
    (binary : ep.scheme = schemeThrift) (ran : Run (newConn m cfg ep s) log (r, s')) :
    Dialed (.binary (channelFor ep.host cfg.tlsConfig)) (claimsOf cfg ep.host)
      (OwnError ep.host cfg.binary) log r := by
  rw [newConn, if_pos binary] at ran
  rcases Dialogue.run_then ran with ⟨e, failed, rfl⟩ | ⟨first, through, mid, last, ok, ended, rfl⟩
  · exact (run_dialBinary failed).of_failed (saslClaim_within cfg ep.host)
  · cases run_dialBinary ok with
    | returned does => exact run_claimUgi does ended

/-- Over HTTP nothing is dialed until there is a request. -/
theorem run_newConn_http {m : Machine} {ep : Endpoint} {r : Except Err Conn}
    (http : ep.scheme ≠ schemeThrift) (ran : Run (newConn m cfg ep s) log (r, s')) :
    log = [] ∧ r = (newHTTP m cfg ep).map .http := by
  rw [newConn, if_neg http] at ran
  cases made : newHTTP m cfg ep with
  | error err | ok conn =>
    rw [made] at ran
    obtain ⟨rfl, same⟩ := run_done ran
    cases same
    exact ⟨rfl, rfl⟩

end Runs

end HmsClient.Dialing
