import HmsClient.ConnectionSetup
import HmsClient.NewClient
import HmsClient.PeerPlay

/-! What becomes of credentials and sockets when `New` has accepted its arguments. All endpoints
have one scheme, so that the warning about the first speaks for all of them; a dial that fails
has the error of one of its steps, since `New` has made its own checks before; and `New` leaves
open the socket of the connection that it keeps, and no other. -/
namespace HmsClient.Dialing
open NetUrl Transport PeerScript GoStrings

/-! ## What was accepted -/

private def OneScheme (eps : List Endpoint) : Prop := ∀ a ∈ eps, ∀ b ∈ eps, a.scheme = b.scheme

private def Known (ep : Endpoint) : Prop :=
  ep.scheme = schemeThrift ∨ ep.scheme = schemeHTTP ∨ ep.scheme = schemeHTTPS

private theorem endpointOf_known (made : endpointOf u = some ep) : Known ep := by
  rw [endpointOf] at made
  split at made
  · next thrift =>
    split at made <;> cases made <;> exact .inl thrift
  · split at made
    · next http =>
      cases made
      simp only [Bool.or_eq_true, decide_eq_true_eq] at http
      exact .inr http
    · cases made

private theorem addEndpoint_keeps (added : addEndpoint u out = .ok next) (one : OneScheme out)
    (known : ∀ ep ∈ out, Known ep) : OneScheme next ∧ ∀ ep ∈ next, Known ep := by
  rw [addEndpoint] at added
  split at added
  · cases added
  · next ep made =>
    have all : ∀ ep' ∈ out ++ [ep], Known ep' := by
      intro ep' listed
      rcases List.mem_append.mp listed with before | new
      · exact known ep' before
      · rw [List.mem_singleton.mp new]
        exact endpointOf_known made
    split at added
    · next empty =>
      cases added
      rw [List.head?_eq_none_iff.mp empty]
      refine ⟨?_, fun ep' listed => all ep' (List.mem_append_right _ listed)⟩
      intro a listed b listed'
      rw [List.mem_singleton.mp listed, List.mem_singleton.mp listed']
    · next first head =>
      split at added
      · cases added
      · next same =>
        cases added
        refine ⟨?_, all⟩
        have here : ∀ a ∈ out ++ [ep], a.scheme = ep.scheme := by
          intro a listed
          rcases List.mem_append.mp listed with before | new
          · rw [one a before first (List.mem_of_head? head)]
            exact not_not.mp same
          · rw [List.mem_singleton.mp new]
        intro a listed b listed'
        rw [here a listed, here b listed']

private theorem endpointLoop_keeps (accepted : endpointLoop lib i raws out = .ok eps)
    (one : OneScheme out) (known : ∀ ep ∈ out, Known ep) :
    OneScheme eps ∧ ∀ ep ∈ eps, Known ep := by
  induction raws generalizing i out with
  | nil =>
    rw [endpointLoop] at accepted
    split at accepted
    · cases accepted
    · cases accepted
      exact ⟨one, known⟩
  | cons raw rest ih =>
    rw [endpointLoop] at accepted
    cases stepped : endpointStep lib i raw out with
    | error err =>
      rw [stepped] at accepted
      cases accepted
    | ok next =>
      rw [stepped] at accepted
      rw [endpointStep] at stepped
      split at stepped
      · cases stepped
        exact ih accepted one known
      · split at stepped
        · cases stepped
        · obtain ⟨one', known'⟩ := addEndpoint_keeps stepped one known
          exact ih accepted one' known'

/-- What `prepare` has made sure of. -/
structure Accepted (m : Machine) (p : Prepared) : Prop where
  oneScheme : ∀ a ∈ p.endpoints, ∀ b ∈ p.endpoints, a.scheme = b.scheme
  known : ∀ ep ∈ p.endpoints, ep.scheme = schemeThrift ∨ ep.scheme = schemeHTTP ∨
    ep.scheme = schemeHTTPS
  warnings : p.warnings = warnCleartext p.cfg p.endpoints
  exclusive : hasBinaryEndpoint p.endpoints → ¬ (p.cfg.plainUser ≠ [] ∧ p.cfg.kerberos)
  transport : validateTransport p.cfg p.endpoints = none
  session : hasBinaryEndpoint p.endpoints → p.cfg.kerberos → p.cfg.krbSession

private theorem session_loaded (loaded : newKerberosSession f cfg eps = .ok session)
    (binary : hasBinaryEndpoint eps) (kerberos : cfg.kerberos) : session := by
  rw [newKerberosSession, Settings.krbConfig, if_pos kerberos] at loaded
  simp only [binary, Bool.not_true, Bool.false_eq_true, if_false] at loaded
  split at loaded
  · cases loaded
  · cases loaded
    rfl

theorem prepare_accepted {m : Machine} {uris : Text} {opts : List ClientOption} {p : Prepared}
    (accepted : prepare m uris opts = .ok p) : Accepted m p := by
  simp only [prepare] at accepted
  split at accepted
  · cases accepted
  next eps parsed =>
  split at accepted
  · cases accepted
  next auth =>
  split at accepted
  · cases accepted
  next transport =>
  split at accepted
  · cases accepted
  next session loaded =>
  cases accepted
  obtain ⟨one, known⟩ := endpointLoop_keeps parsed (List.forall_mem_nil _) (List.forall_mem_nil _)
  refine ⟨one, known, rfl, fun binary both => ?_, transport, fun binary kerberos => ?_⟩
  · rw [validateAuth, if_neg (by simpa using binary), if_pos both] at auth
    cases auth
  · exact session_loaded loaded binary kerberos

/-! ## Dials -/

/-- What `New` does not decide; the network answers each attempt in its own way. -/
structure Surroundings where
  clock : Nat → Int
  jitter : Nat → Int
  draw : Nat → Nat
  answers : Nat → (act : Act) → Except Err act.Reply

abbrev Dial := Played network Unit (Except Err Conn × Unit)

def Dial.exchanges (d : Dial) : List (Exchange network) := d.log.map Sent.toExchange

/-- An attempt's dial. `Pick` returns an index of the list. -/
def dialAttempt (m : Machine) (p : Prepared) (env : Surroundings) (attempt idx : Nat) : Dial :=
  (newConn m p.cfg (p.endpoints.getD idx ⟨[], [], []⟩) ()).play
    (fun act _ => (env.answers attempt act, ())) ()

private theorem attempt_run (m : Machine) (p : Prepared) (env : Surroundings) (attempt idx : Nat) :
    Run (newConn m p.cfg (p.endpoints.getD idx ⟨[], [], []⟩) ())
      (dialAttempt m p env attempt idx).exchanges
      ((dialAttempt m p env attempt idx).outcome.1, ()) := play_run _ _

/-- Nobody is logged in, and there are no files of interest. -/
def bareMachine : Machine :=
  ⟨plainLibrary, [], [], fun _ => ⟨fun _ => [], 0, fun _ => .ok [], fun _ => none, fun _ => none,
    fun _ => none⟩⟩

def passwordOptions : List ClientOption := [.withPlainAuth [117] [112]]

def passwordClient : Prepared where
  cfg := settings [] passwordOptions
  endpoints := [⟨schemeThrift, lit "h:1", []⟩]
  warnings := [.passwordWithoutTLS]
  usable := settings_usable [] passwordOptions

theorem passwordClient_prepared :
    prepare bareMachine (lit "thrift://h:1") passwordOptions = .ok passwordClient := by
  have parsed : parseEndpoints bareMachine.lib (lit "thrift://h:1") =
      .ok [⟨schemeThrift, lit "h:1", []⟩] := by decide +kernel
  rw [prepare]
  simp only [parsed]
  rfl

/-- A network that answers every dial alike. -/
def alike (answers : (act : Act) → Except Err act.Reply) : Surroundings :=
  ⟨fun _ => 0, fun _ => 0, fun _ => 0, fun _ => answers⟩

def willing : (act : Act) → Except Err act.Reply
  | .contextErr => .ok none
  | .dial _ _ | .handshake _ | .negotiate _ _ | .setUgi _ _ | .close => .ok ()

/-! ## Claims -/

section Dials
variable {m : Machine} {p : Prepared} {ep : Endpoint} {log : List (Exchange network)}
  {r : Except Err Conn}

end Dials

/-- A dial of a binary endpoint has no error of its own, except that a service principal needs
a host. -/
private theorem ownError_host (accepted : Accepted m p) (listed : ep ∈ p.endpoints)
    (binary : ep.scheme = schemeThrift) (own : OwnError ep.host p.cfg.binary err) :
    p.cfg.kerberos ∧ p.cfg.krbService = [] ∧ hostOf ep.host = [] := by
  have some : hasBinaryEndpoint p.endpoints :=
    List.any_eq_true.mpr ⟨ep, listed, by simpa using binary⟩
  cases kerberos : p.cfg.kerberos with
  | false =>
    rcases own with ⟨-, both⟩ | failed
    · simp [Settings.binary, Settings.krbConfig, kerberos] at both
    · simp [mechanism, Settings.binary, Settings.krbConfig, kerberos] at failed
  | true =>
    rcases own with ⟨plain, -⟩ | failed
    · exact absurd ⟨plain, kerberos⟩ (accepted.exclusive some)
    · have loaded := accepted.session some kerberos
      simp only [mechanism, Settings.binary, Settings.krbConfig, kerberos, if_true,
        newSaslGSSAPI, loaded] at failed
      by_cases given : p.cfg.krbService ≠ []
      · rw [servicePrincipal, if_pos given] at failed
        cases failed
      · by_cases host : hostOf ep.host = []
        · exact ⟨rfl, not_not.mp given, host⟩
        · rw [servicePrincipal, if_neg given, if_neg host] at failed
          cases failed

/-- After its checks `New` has no error of its own left: a dial fails with one that a step of it
reported, unless a service principal is to be made for an endpoint without a host, or a URL is
not one. -/
theorem dial_fails_as_a_step_did (m : Machine) (uris : Text) (opts : List ClientOption)
    (p : Prepared) (accepted : prepare m uris opts = .ok p) (ep : Endpoint)
    (listed : ep ∈ p.endpoints) (log : List (Exchange network)) (err : Err)
    (ran : Run (newConn m p.cfg ep ()) log (.error err, ())) :
    Told log err ∨ (p.cfg.kerberos ∧ p.cfg.krbService = [] ∧ hostOf ep.host = []) ∨
      (ep.scheme ≠ schemeThrift ∧ ∃ cause, parse m.lib ep.url = .error cause) := by
  by_cases binary : ep.scheme = schemeThrift
  · have why : Told log err ∨ OwnError ep.host p.cfg.binary err := by
      cases run_newConn_binary binary ran with
      | undialed why _ => exact why
      | silent why _ => exact why
      | claimed why _ => exact why
    rcases why with told | own
    · exact .inl told
    · exact .inr (.inl (ownError_host (prepare_accepted accepted) listed binary own))
  · obtain ⟨-, failed⟩ := run_newConn_http binary ran
    refine .inr (.inr ⟨binary, ?_⟩)
    cases parsed : parse m.lib ep.url with
    | error cause => exact ⟨cause, rfl⟩
    | ok u =>
      rw [newHTTP, parsed] at failed
      cases failed

/-- A server that takes the connection and refuses the password. -/
def refusing : (act : Act) → Except Err act.Reply
  | .contextErr => .ok none
  | .negotiate _ _ => .error (.leaf (.other "SASL handshake failed"))
  | .dial _ _ | .handshake _ | .setUgi _ _ | .close => .ok ()

theorem refused_password_fails_as_the_handshake_did :
    Told (dialAttempt bareMachine passwordClient (alike refusing) 0 0).exchanges
      (.leaf (.other "SASL handshake failed")) := by
  rcases dial_fails_as_a_step_did bareMachine (lit "thrift://h:1") passwordOptions passwordClient
    passwordClient_prepared ⟨schemeThrift, lit "h:1", []⟩ (.head _) _ _
    (attempt_run bareMachine passwordClient (alike refusing) 0 0) with
    told | ⟨-, -, noHost⟩ | ⟨other, -⟩
  · exact told
  · exact absurd noHost (by decide +kernel)
  · exact absurd rfl other

/-! ## The whole of `New` -/

def errorOf {α : Type} : Except Err α → Option Err
  | .error err => some err
  | .ok _ => none

/-- What `New` returns, the dials it made, and the Kerberos sessions it loaded to keep and
closed. -/
structure Made where
  result : Except Err (Interleaving.World Pool.Shared Pool.Goroutine)
  dials : List Dial
  sessionsLoaded : Nat
  sessionsClosed : Nat

/-- What `New` finds when it dials. -/
def answering (m : Machine) (p : Prepared) (env : Surroundings) : NewClient.Surroundings :=
  ⟨env.clock, env.jitter, fun attempt idx => errorOf (dialAttempt m p env attempt idx).outcome.1⟩

/-- `New` from the making of the cluster on. The session is closed when no dial succeeds. -/
def connect (m : Machine) (p : Prepared) (env : Surroundings) : Made :=
  let out := NewClient.newClient p.pool p.cfg.randomOrder env.draw (answering m p env)
  { result := out.result
    dials := out.dials.zipIdx.map fun d => dialAttempt m p env d.2 d.1
    sessionsLoaded := if p.cfg.krbSession then 1 else 0
    sessionsClosed := if p.cfg.krbSession && !out.result.isOk then 1 else 0 }

def new (m : Machine) (uris : Text) (opts : List ClientOption) (env : Surroundings) : Made :=
  match prepare m uris opts with
  | .error err => ⟨.error err, [], 0, 0⟩
  | .ok p => connect m p env

/-- Every dial of the loop failed but the last one, which is the one that was answered. -/
private theorem dialLoop_dials (env : NewClient.Surroundings) (remaining attempt : Nat)
    (d : NewClient.Dialing) (unanswered : d.answered = none) :
    ∃ failed, (∀ x ∈ failed.zipIdx attempt, (env.newConn x.2 x.1).isSome) ∧
      (((NewClient.dialLoop env remaining attempt d).answered = none ∧
          (NewClient.dialLoop env remaining attempt d).dials = d.dials ++ failed) ∨
        ∃ last, (NewClient.dialLoop env remaining attempt d).answered = some last ∧
          (NewClient.dialLoop env remaining attempt d).dials = d.dials ++ failed ++ [last] ∧
          env.newConn (attempt + failed.length) last = none) := by
  induction remaining generalizing attempt d with
  | zero => exact ⟨[], List.forall_mem_nil _, .inl ⟨unanswered, (List.append_nil _).symm⟩⟩
  | succ remaining ih =>
    rw [NewClient.dialLoop]
    rcases d.cluster.pick (env.clock (2 * attempt)) with ⟨cluster, _ | idx⟩
    · exact ⟨[], List.forall_mem_nil _, .inl ⟨unanswered, (List.append_nil _).symm⟩⟩
    · cases dialed : env.newConn attempt idx with
      | none =>
        simp only [dialed]
        exact ⟨[], List.forall_mem_nil _, .inr ⟨idx, rfl, by rw [List.append_nil], dialed⟩⟩
      | some err =>
        simp only [dialed]
        obtain ⟨failed, all, ended⟩ := ih (attempt + 1)
          { d with
            cluster := (cluster.markFailed (env.clock (2 * attempt + 1)) (env.jitter attempt) idx).1
            lastErr := some err
            dials := d.dials ++ [idx] } unanswered
        refine ⟨idx :: failed, ?_, ?_⟩
        · intro x inside
          rw [List.zipIdx_cons] at inside
          cases inside with
          | head => rw [dialed]; rfl
          | tail _ later => exact all x later
        · simpa [Nat.add_assoc, Nat.add_comm 1] using ended

section Sockets
variable {m : Machine} {p : Prepared} {env : Surroundings} {attempt idx : Nat}

private theorem failed_closes
    (failed : (errorOf (dialAttempt m p env attempt idx).outcome.1).isSome) :
    closed (dialAttempt m p env attempt idx).exchanges =
      opened (dialAttempt m p env attempt idx).exchanges := by
  have ran := attempt_run m p env attempt idx
  cases ended : (dialAttempt m p env attempt idx).outcome.1 with
  | ok conn =>
    rw [ended] at failed
    cases failed
  | error err =>
    rw [ended] at ran
    by_cases binary : (p.endpoints.getD idx ⟨[], [], []⟩).scheme = schemeThrift
    · cases run_newConn_binary binary ran with
      | undialed _ does | silent _ does | claimed _ does => rw [does.opened, does.closed]
    · rw [(run_newConn_http binary ran).1]
      rfl

/-- A dial that returned a connection has it on a socket that is open, if it is a binary one. -/
def Dial.Stands (d : Dial) : Prop :=
  closed d.exchanges = 0 ∧
    ((∃ through, d.outcome.1 = .ok (.binary through) ∧ opened d.exchanges = 1) ∨
      ∃ conn, d.outcome.1 = .ok (.http conn) ∧ opened d.exchanges = 0)

private theorem answered_stands (answered : errorOf (dialAttempt m p env attempt idx).outcome.1 = none) :
    (dialAttempt m p env attempt idx).Stands := by
  have ran := attempt_run m p env attempt idx
  cases ended : (dialAttempt m p env attempt idx).outcome.1 with
  | error err =>
    rw [ended] at answered
    cases answered
  | ok conn =>
    rw [ended] at ran
    rw [Dial.Stands, ended]
    by_cases binary : (p.endpoints.getD idx ⟨[], [], []⟩).scheme = schemeThrift
    · cases run_newConn_binary binary ran with
      | returned does => exact ⟨does.closed, .inl ⟨_, rfl, does.opened⟩⟩
    · obtain ⟨nothing, made⟩ := run_newConn_http binary ran
      cases http : newHTTP m p.cfg (p.endpoints.getD idx ⟨[], [], []⟩) with
      | error err =>
        rw [http] at made
        cases made
      | ok conn' =>
        rw [http] at made
        cases made
        rw [nothing]
        exact ⟨rfl, .inr ⟨conn', rfl, rfl⟩⟩

end Sockets

private theorem newClient_dials (cfg : Pool.Config) (random : Bool) (draw : Nat → Nat)
    (env : NewClient.Surroundings) :
    ∃ failed, (∀ x ∈ failed.zipIdx, (env.newConn x.2 x.1).isSome) ∧
      ((∃ err, (NewClient.newClient cfg random draw env).result = .error err ∧
          (NewClient.newClient cfg random draw env).dials = failed) ∨
        ∃ world last, (NewClient.newClient cfg random draw env).result = .ok world ∧
          (NewClient.newClient cfg random draw env).dials = failed ++ [last] ∧
          env.newConn failed.length last = none) := by
  obtain ⟨failed, all, ended⟩ := dialLoop_dials env cfg.endpoints 0
    (NewClient.initial cfg random draw) rfl
  refine ⟨failed, all, ?_⟩
  rw [NewClient.newClient]
  rcases ended with ⟨unanswered, dials⟩ | ⟨last, answered, dials, dialed⟩
  · simp only [unanswered]
    exact .inl ⟨_, rfl, dials⟩
  · simp only [answered]
    rw [Nat.zero_add] at dialed
    exact .inr ⟨_, last, rfl, dials, dialed⟩

/-- What is left open when `New` returns. -/
structure Made.LeavesOnlyConnection (made : Made) : Prop where
  failed : ∀ err, made.result = .error err → made.sessionsClosed = made.sessionsLoaded ∧
    ∀ d ∈ made.dials, closed d.exchanges = opened d.exchanges
  connected : ∀ world, made.result = .ok world → made.sessionsClosed = 0 ∧
    ∃ failed last, made.dials = failed ++ [last] ∧ last.Stands ∧
      ∀ d ∈ failed, closed d.exchanges = opened d.exchanges

private theorem connect_leaves (m : Machine) (p : Prepared) (env : Surroundings) :
    (connect m p env).LeavesOnlyConnection := by
  obtain ⟨failed, all, ended⟩ := newClient_dials p.pool p.cfg.randomOrder env.draw (answering m p env)
  have closes : ∀ d ∈ failed.zipIdx.map fun d => dialAttempt m p env d.2 d.1,
      closed d.exchanges = opened d.exchanges := by
    intro d dialed
    obtain ⟨x, inside, rfl⟩ := List.mem_map.mp dialed
    exact failed_closes (all x inside)
  rcases ended with ⟨err, result, dials⟩ | ⟨world, last, result, dials, dialed⟩
  · refine ⟨fun err' _ => ⟨?_, ?_⟩, fun world same => ?_⟩
    · simp [connect, result, Except.isOk, Except.toBool]
    · simp only [connect, dials]
      exact closes
    · rw [connect, result] at same
      cases same
  · refine ⟨fun err same => ?_, fun world' _ => ⟨?_, ?_⟩⟩
    · rw [connect, result] at same
      cases same
    · simp [connect, result, Except.isOk, Except.toBool]
    · refine ⟨_, dialAttempt m p env failed.length last, ?_, answered_stands dialed, closes⟩
      simp only [connect, dials, List.zipIdx_append, List.map_append, Nat.zero_add]
      rfl

/-- However the network answers, `New` closes what it opened: a client keeps the connection of
the last dial and the Kerberos session, and an error leaves nothing open. -/
theorem new_leaves_only_its_connection_open (m : Machine) (uris : Text) (opts : List ClientOption)
    (env : Surroundings) : (new m uris opts env).LeavesOnlyConnection := by
  rw [new]
  cases prepare m uris opts with
  | error err =>
    exact ⟨fun _ _ => ⟨rfl, List.forall_mem_nil _⟩, fun _ none => by cases none⟩
  | ok p => exact connect_leaves m p env

end HmsClient.Dialing
