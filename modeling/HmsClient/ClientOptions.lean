import HmsClient.Endpoints
import HmsClient.Errors
import HmsClient.Operations
import HmsClient.Pool

/-! The options of a client, and what `New` checks before it dials. A mistake in the
configuration is an invalid operation and not an outage; a credential that will cross the
network in clear is accepted with a warning. The Kerberos files are read twice, once to check
them and once to keep them, and may have changed in between. -/
namespace HmsClient.Dialing
open NetUrl Transport

/-- What is read of `tls.Config`. -/
structure TlsConfig where
  serverName : Text
  insecureSkipVerify : Bool
  deriving DecidableEq

/-- What is read of `http.Client`: its `CheckRedirect` and `Transport` may be nil. -/
structure HttpClient where
  timeout : Int
  redirects : Bool
  transport : Bool
  deriving DecidableEq

/-- `config`, without the logger and the observer. Durations are in nanoseconds. A map is
listed in the order that a loop meets its entries. -/
structure Settings where
  catalog : Text
  timeout : Int
  connectTimeout : Int
  maxRetries : Int
  randomOrder : Bool
  poolSize : Int
  probeInterval : Int
  chunkSize : Int
  partitionBatchSize : Int
  maxResponseBytes : Int64
  httpClient : Option HttpClient
  httpHeaders : List (Text × Text)
  bearerToken : Text
  user : Text
  userGroups : List Text
  withoutUGI : Bool
  ugiUser : Text
  plainUser : Text
  plainPassword : Text
  kerberos : Bool
  krbPrincipal : Text
  krbKeytab : Text
  krbCCache : Text
  krbService : Text
  krbConf : Text
  krbSession : Bool
  tlsConfig : Option TlsConfig

def newConfig : Settings where
  catalog := lit "hive"
  timeout := 30000000000
  connectTimeout := 0
  maxRetries := 3
  randomOrder := false
  poolSize := 4
  probeInterval := 30000000000
  chunkSize := 1000
  partitionBatchSize := 1000
  maxResponseBytes := 0
  httpClient := none
  httpHeaders := []
  bearerToken := []
  user := []
  userGroups := []
  withoutUGI := false
  ugiUser := []
  plainUser := []
  plainPassword := []
  kerberos := false
  krbPrincipal := []
  krbKeytab := []
  krbCCache := []
  krbService := []
  krbConf := []
  krbSession := false
  tlsConfig := none

/-! ## Options -/

inductive ClientOption where
  | withCatalog (name : Text)
  | withTimeout (d : Int)
  | withConnectTimeout (d : Int)
  | withMaxRetries (n : Int)
  | withRandomEndpointOrder
  | withPoolSize (n : Int)
  | withProbeInterval (d : Int)
  | withChunkSize (n : Int)
  | withPartitionBatchSize (n : Int)
  | withMaxResponseBytes (n : Int64)
  | withHTTPClient (hc : Option HttpClient)
  | withHTTPHeaders (h : List (Text × Text))
  | withBearerToken (token : Text)
  | withUser (name : Text)
  | withoutUGI
  | withUserGroups (groups : List Text)
  | withPlainAuth (user password : Text)
  | withKerberos (principal : Text) (keytabOrCCache : List Text)
  | withKerberosServicePrincipal (spn : Text)
  | withKrb5Config (path : Text)
  | withTLS (cfg : Option TlsConfig)

/-- Only the first path counts; one that ends in ".keytab" is a keytab, and any other a
credential cache. -/
def withKerberos (principal : Text) (keytabOrCCache : List Text) (c : Settings) : Settings :=
  let named := keytabOrCCache.headD []
  let isKeytab := (lit ".keytab").isSuffixOf named
  { c with
    kerberos := true
    krbPrincipal := principal
    krbKeytab := if isKeytab then named else []
    krbCCache := if isKeytab then [] else named }

def ClientOption.apply : ClientOption → Settings → Settings
  | .withCatalog name, c => { c with catalog := name }
  | .withTimeout d, c => { c with timeout := d }
  | .withConnectTimeout d, c => { c with connectTimeout := d }
  | .withMaxRetries n, c => { c with maxRetries := n }
  | .withRandomEndpointOrder, c => { c with randomOrder := true }
  | .withPoolSize n, c => { c with poolSize := n }
  | .withProbeInterval d, c => { c with probeInterval := d }
  | .withChunkSize n, c => { c with chunkSize := n }
  | .withPartitionBatchSize n, c => { c with partitionBatchSize := n }
  | .withMaxResponseBytes n, c => { c with maxResponseBytes := n }
  | .withHTTPClient hc, c => { c with httpClient := hc }
  | .withHTTPHeaders h, c => { c with httpHeaders := h }
  | .withBearerToken token, c => { c with bearerToken := token }
  | .withUser name, c => { c with user := name }
  | .withoutUGI, c => { c with withoutUGI := true }
  | .withUserGroups groups, c => { c with userGroups := c.userGroups ++ groups }
  | .withPlainAuth user password, c => { c with plainUser := user, plainPassword := password }
  | .withKerberos principal paths, c => Dialing.withKerberos principal paths c
  | .withKerberosServicePrincipal spn, c => { c with krbService := spn }
  | .withKrb5Config path, c => { c with krbConf := path }
  | .withTLS cfg, c => { c with tlsConfig := cfg }

/-- A millisecond. -/
def minProbeInterval : Int := 1000000

def Settings.clamp (cfg : Settings) : Settings :=
  { cfg with
    poolSize := if cfg.poolSize < 1 then 1 else cfg.poolSize
    maxRetries := if cfg.maxRetries < 1 then 1 else cfg.maxRetries
    probeInterval :=
      if cfg.probeInterval < minProbeInterval then minProbeInterval else cfg.probeInterval
    chunkSize := if cfg.chunkSize < 1 then 1 else cfg.chunkSize
    partitionBatchSize := if cfg.partitionBatchSize < 1 then 1 else cfg.partitionBatchSize
    connectTimeout := if cfg.connectTimeout = 0 then cfg.timeout else cfg.connectTimeout }

/-- The name of `user.Current`, which is empty when there is none. -/
def defaultOSUser (current : Text) : Text :=
  if current ≠ [] then current else lit "hms-client-go"

def Settings.resolveUgiUser (current : Text) (cfg : Settings) : Settings :=
  { cfg with ugiUser := if cfg.user ≠ [] then cfg.user else defaultOSUser current }

def Settings.wantsSetUgi (cfg : Settings) : Bool :=
  !cfg.withoutUGI && cfg.plainUser == [] && !cfg.kerberos

/-! ## Kerberos credentials -/

structure KerberosConfig where
  principal : Text
  keytab : Text
  ccache : Text
  servicePrincipal : Text
  krb5Conf : Text
  session : Bool

def Settings.krbConfig (cfg : Settings) : Option KerberosConfig :=
  if cfg.kerberos then
    some ⟨cfg.krbPrincipal, cfg.krbKeytab, cfg.krbCCache, cfg.krbService, cfg.krbConf,
      cfg.krbSession⟩
  else none

/-- What a process finds when it reads its environment and its files. A configuration file
has a default realm. -/
structure Files where
  getenv : String → Text
  getuid : Int
  loadConfig : Text → Except Err Text
  loadKeytab : Text → Option Err
  loadCCache : Text → Option Err
  newFromCCache : Text → Option Err

/-- A path in an error, with a character for each byte. -/
def shown (path : Text) : String := String.ofList (path.map fun c => Char.ofNat c.toNat)

/-- `user@REALM`, with the default realm where none is given. -/
def splitPrincipal (principal defaultRealm : Text) : Text × Text :=
  let user := principal.takeWhile (· ≠ 64)
  let realm := (principal.dropWhile (· ≠ 64)).drop 1
  (user, if realm = [] then defaultRealm else realm)

def isCCacheType (s : Text) : Bool :=
  s ≠ [] && s.all fun c => (97 ≤ c && c ≤ 122) || (65 ≤ c && c ≤ 90)

def upper (c : UInt8) : UInt8 := if 97 ≤ c && c ≤ 122 then c - 32 else c

/-- `KRB5CCNAME` may name a type before the path, of which only files can be read. -/
def defaultCCachePath (f : Files) : Except Err Text :=
  let v := f.getenv "KRB5CCNAME"
  if v = [] then .ok (lit "/tmp/krb5cc_" ++ lit (toString f.getuid))
  else
    let kind := v.takeWhile (· ≠ colon)
    let rest := v.dropWhile (· ≠ colon)
    if rest = [] ∨ !isCCacheType kind then .ok v
    else if kind.map upper ≠ lit "FILE" then
      .error (.leaf (.other ("hms: kerberos: KRB5CCNAME names credential cache type \"" ++
        shown kind ++ "\", which this client cannot read; use a FILE: cache, or name one with " ++
        "WithKerberos")))
    else .ok (rest.drop 1)

/-- The path of the configuration file. -/
def confPath (f : Files) (cfg : KerberosConfig) : Text :=
  if cfg.krb5Conf ≠ [] then cfg.krb5Conf
  else if f.getenv "KRB5_CONFIG" ≠ [] then f.getenv "KRB5_CONFIG"
  else lit "/etc/krb5.conf"

def loadKeytab (f : Files) (cfg : KerberosConfig) (defaultRealm : Text) : Option Err :=
  match f.loadKeytab cfg.keytab with
  | some err => some (wrapping ("hms: kerberos: loading keytab " ++ shown cfg.keytab) err)
  | none =>
    if (splitPrincipal cfg.principal defaultRealm).1 = [] then
      some (.leaf (.other "hms: kerberos: a client principal is required when a keytab is used"))
    else none

def loadCCache (f : Files) (path : Text) : Option Err :=
  match f.loadCCache path with
  | some err => some (wrapping ("hms: kerberos: loading credential cache " ++ shown path) err)
  | none =>
    (f.newFromCCache path).map
      (wrapping ("hms: kerberos: reading credential cache " ++ shown path))

/-- The error of `newKrbClient`, or none when there is a client. -/
def newKrbClient (f : Files) (cfg : KerberosConfig) : Option Err :=
  match f.loadConfig (confPath f cfg) with
  | .error err => some (wrapping ("hms: kerberos: loading " ++ shown (confPath f cfg)) err)
  | .ok realm =>
    if cfg.keytab ≠ [] then loadKeytab f cfg realm
    else
      match (if cfg.ccache = [] then defaultCCachePath f else .ok cfg.ccache) with
      | .error err => some err
      | .ok path => loadCCache f path

/-- `Validate`: a session is loaded and closed again. -/
def KerberosConfig.validate (f : Files) (cfg : KerberosConfig) : Option Err := newKrbClient f cfg

/-! ## What `New` checks -/

def hasBinaryEndpoint (eps : List Endpoint) : Bool := eps.any (·.scheme == schemeThrift)

def mutuallyExclusive : Err :=
  .leaf (.other "hms: WithPlainAuth and WithKerberos are mutually exclusive")

def validateAuth (f : Files) (cfg : Settings) (eps : List Endpoint) : Option Err :=
  if !hasBinaryEndpoint eps then none
  else if cfg.plainUser ≠ [] ∧ cfg.kerberos then some mutuallyExclusive
  else cfg.krbConfig.bind (·.validate f)

def validateTransport (cfg : Settings) (eps : List Endpoint) : Option Err :=
  if cfg.tlsConfig.isNone ∨ cfg.httpClient.isNone then none
  else if eps.any (·.scheme == schemeHTTPS) then
    some (.leaf (.other ("hms: WithTLS cannot be combined with WithHTTPClient; " ++
      "set TLSClientConfig on the supplied client's Transport instead")))
  else none

inductive Warning where
  | passwordWithoutTLS
  | tokenWithoutTLS
  deriving DecidableEq

def Warning.text : Warning → String
  | .passwordWithoutTLS =>
    "WithPlainAuth sends the password without TLS; set WithTLS to encrypt it"
  | .tokenWithoutTLS =>
    "WithBearerToken sends the token over http://; use an https:// endpoint to encrypt it"

/-- Warns of credentials sent in the clear, going by the scheme of the first endpoint. -/
def warnCleartext (cfg : Settings) (eps : List Endpoint) : List Warning :=
  match eps.head? with
  | none => []
  | some ep =>
    if ep.scheme = schemeThrift then
      if cfg.plainUser ≠ [] ∧ cfg.tlsConfig.isNone then [.passwordWithoutTLS] else []
    else if ep.scheme = schemeHTTP then
      if cfg.bearerToken ≠ [] then [.tokenWithoutTLS] else []
    else []

/-- Whether there is a session now, or why it could not be loaded. -/
def newKerberosSession (f : Files) (cfg : Settings) (eps : List Endpoint) : Except Err Bool :=
  match cfg.krbConfig with
  | none => .ok false
  | some krb =>
    if !hasBinaryEndpoint eps then .ok false
    else
      match newKrbClient f krb with
      | some err => .error err
      | none => .ok true

/-- What `clamp` makes sure of. -/
structure Settings.Usable (cfg : Settings) : Prop where
  poolSize : 1 ≤ cfg.poolSize
  maxRetries : 1 ≤ cfg.maxRetries
  chunkSize : 1 ≤ cfg.chunkSize
  partitionBatchSize : 1 ≤ cfg.partitionBatchSize
  probeInterval : 0 < cfg.probeInterval

/-- What `New` has found out when it starts to dial. -/
structure Prepared where
  cfg : Settings
  endpoints : List Endpoint
  warnings : List Warning
  usable : cfg.Usable

/-- What the pools read of the settings. -/
def Prepared.pool (p : Prepared) : Pool.Config where
  endpoints := p.endpoints.length
  poolSize := p.cfg.poolSize.toNat
  clamped := by
    have := p.usable.poolSize
    omega

/-- The settings after the options. -/
def settings (current : Text) (opts : List ClientOption) : Settings :=
  (opts.foldl (fun c o => o.apply c) newConfig).clamp.resolveUgiUser current

theorem clamp_usable (cfg : Settings) : cfg.clamp.Usable := by
  unfold Settings.clamp minProbeInterval
  constructor <;> simp only <;> split <;> omega

theorem settings_usable (current : Text) (opts : List ClientOption) :
    (settings current opts).Usable := by
  obtain ⟨pool, retries, chunk, batch, interval⟩ :=
    clamp_usable (opts.foldl (fun c o => o.apply c) newConfig)
  exact ⟨pool, retries, chunk, batch, interval⟩

/-- What `New` finds around it: the current user, and the files at each reading. -/
structure Machine where
  lib : Library
  current : Text
  userAgent : Text
  files : Nat → Files

/-- The errors of `New` before it dials. -/
def invalid (err : Err) : Err := wrapAs "New" .errInvalidOperation err

/-- `New` up to the making of the cluster. -/
def prepare (m : Machine) (uris : Text) (opts : List ClientOption) : Except Err Prepared :=
  let cfg := settings m.current opts
  match parseEndpoints m.lib uris with
  | .error e => .error (invalid (.leaf (.other (shown (e.text m.lib)))))
  | .ok eps =>
    match validateAuth (m.files 0) cfg eps with
    | some err => .error (invalid err)
    | none =>
      match validateTransport cfg eps with
      | some err => .error (invalid err)
      | none =>
        match newKerberosSession (m.files 1) cfg eps with
        | .error err => .error (invalid err)
        | .ok session =>
          .ok
            { cfg := { cfg with krbSession := session }
              endpoints := eps
              warnings := warnCleartext cfg eps
              usable :=
                have usable := settings_usable m.current opts
                ⟨usable.poolSize, usable.maxRetries, usable.chunkSize, usable.partitionBatchSize,
                  usable.probeInterval⟩ }

end HmsClient.Dialing
