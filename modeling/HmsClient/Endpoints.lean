import HmsClient.GoStrings
import HmsClient.NetUrl
import HmsClient.Types
import Mathlib.Data.Nat.Digits.Defs

/-! `ParseEndpoints` of `internal/transport/uri.go`: a list of metastore URIs, all of one
scheme. An address of a thrift endpoint gets the default port where `SplitHostPort` finds
none, and `JoinHostPort` then puts brackets around a host that has some already. -/
namespace HmsClient.Transport
open NetUrl GoStrings

def schemeThrift : Text := lit "thrift"
def schemeHTTP : Text := lit "http"
def schemeHTTPS : Text := lit "https"

def defaultBinaryPort : Text := lit "9083"
def defaultHTTPPath : Text := lit "/metastore"

structure Endpoint where
  scheme : Text
  host : Text
  url : Text := []
  deriving DecidableEq

/-- What `ParseEndpoints` returns an error for. -/
inductive EndpointError where
  | unparseable (position : Nat) (cause : Cause)
  | unsupported (scheme redacted : Text)
  | mixed (first other : Text)
  | emptyList
  deriving DecidableEq

/-- The verb `%d` of a position, which is not 0. -/
def decimal (n : Nat) : Text := (Nat.digits 10 n).reverse.map fun d => .ofNat (48 + d)

def EndpointError.text (lib : Library) : EndpointError → Text
  | .unparseable position cause =>
    lit "hms: parse endpoint #" ++ decimal position ++ lit ": " ++ cause.text lib
  | .unsupported scheme redacted =>
    lit "hms: unsupported scheme " ++ quote lib scheme ++ lit " in " ++ quote lib redacted
  | .mixed first other =>
    lit "hms: mixed schemes in endpoint list (" ++ first ++ lit " and " ++ other ++ lit ")"
  | .emptyList => lit "hms: empty endpoint list"

/-- The switch on the scheme. -/
def endpointOf (u : URL) : Option Endpoint :=
  if u.scheme = schemeThrift then
    match splitHostPort u.host with
    | some _ => some { scheme := u.scheme, host := u.host }
    | none => some { scheme := u.scheme, host := joinHostPort u.host defaultBinaryPort }
  else if u.scheme = schemeHTTP || u.scheme = schemeHTTPS then
    let path := if u.path = [] || u.path = [slash] then defaultHTTPPath else u.path
    some { scheme := u.scheme, host := u.host, url := { u with path := path }.string }
  else none

/-- All endpoints must have the scheme of the first. -/
def addEndpoint (u : URL) (out : List Endpoint) : Except EndpointError (List Endpoint) :=
  match endpointOf u with
  | none => .error (.unsupported u.scheme u.redacted)
  | some ep =>
    match out.head? with
    | none => .ok (out ++ [ep])
    | some first =>
      if first.scheme ≠ ep.scheme then .error (.mixed first.scheme ep.scheme) else .ok (out ++ [ep])

/-- The body of the loop of `ParseEndpoints`, at index `i`. -/
def endpointStep (lib : Library) (i : Nat) (raw : Text) (out : List Endpoint) :
    Except EndpointError (List Endpoint) :=
  if trimSpace raw = [] then .ok out
  else
    match parse lib (trimSpace raw) with
    | .error cause => .error (.unparseable (i + 1) cause)
    | .ok u => addEndpoint u out

/-- The loop from index `i` on, and what follows it. -/
def endpointLoop (lib : Library) : Nat → List Text → List Endpoint →
    Except EndpointError (List Endpoint)
  | _, [], out => if out = [] then .error .emptyList else .ok out
  | i, raw :: rest, out => (endpointStep lib i raw out).bind (endpointLoop lib (i + 1) rest)

def parseEndpoints (lib : Library) (uris : Text) : Except EndpointError (List Endpoint) :=
  endpointLoop lib 0 (uris.splitOn 44) []

/-- The URIs of a list: its segments that are not blank. -/
def segmentsOf (uris : Text) : List Text := ((uris.splitOn 44).map trimSpace).filter (· ≠ [])

/-! ## The loop -/

private theorem addEndpoint_ok (accepted : addEndpoint u out = .ok next) :
    ∃ ep, endpointOf u = some ep ∧ next = out ++ [ep] := by
  rw [addEndpoint] at accepted
  split at accepted
  · cases accepted
  · next ep endpoint =>
    refine ⟨ep, endpoint, ?_⟩
    split at accepted
    · cases accepted
      rfl
    · split at accepted
      · cases accepted
      · cases accepted
        rfl

/-- A segment that is not blank yields its endpoint. -/
private theorem endpointStep_ok (accepted : endpointStep lib i raw out = .ok next) :
    (trimSpace raw = [] ∧ next = out) ∨
      trimSpace raw ≠ [] ∧ ∃ u ep, parse lib (trimSpace raw) = .ok u ∧ endpointOf u = some ep ∧
        next = out ++ [ep] := by
  rw [endpointStep] at accepted
  split at accepted
  · next blank =>
    cases accepted
    exact .inl ⟨blank, rfl⟩
  · next listed =>
    split at accepted
    · cases accepted
    · next u parsed =>
      obtain ⟨ep, endpoint, rfl⟩ := addEndpoint_ok accepted
      exact .inr ⟨listed, u, ep, parsed, endpoint, rfl⟩

/-- Each segment yields its endpoint, in order. -/
private theorem endpointLoop_ok (accepted : endpointLoop lib i raws out = .ok eps) :
    ∃ added, eps = out ++ added ∧
      List.Forall₂ (fun raw ep => ∃ u, parse lib raw = .ok u ∧ endpointOf u = some ep)
        ((raws.map trimSpace).filter (· ≠ [])) added := by
  induction raws generalizing i out with
  | nil =>
    rw [endpointLoop] at accepted
    split at accepted
    · cases accepted
    · cases accepted
      exact ⟨[], by simp, .nil⟩
  | cons raw rest ih =>
    rw [endpointLoop] at accepted
    rw [List.map_cons]
    cases stepped : endpointStep lib i raw out with
    | error err =>
      rw [stepped] at accepted
      cases accepted
    | ok next =>
      rw [stepped] at accepted
      obtain ⟨added, all, others⟩ := ih accepted
      rcases endpointStep_ok stepped with ⟨blank, rfl⟩ | ⟨listed, u, ep, parsed, endpoint, rfl⟩
      · rw [List.filter_cons_of_neg (by simpa using blank)]
        exact ⟨added, all, others⟩
      · rw [List.filter_cons_of_pos (by simpa using listed)]
        exact ⟨ep :: added, by simpa using all, .cons ⟨u, parsed, endpoint⟩ others⟩

/-! ## Addresses of thrift endpoints -/

/-- The host of a URI: a registered name or IPv4 address, or an IPv6 address in brackets;
with or without a port. -/
structure Address where
  host : Text
  bracketed : Bool
  port : Option Text
  named : bracketed = false → Plain host
  literal : bracketed = true → colon ∈ host ∧ openBracket ∉ host ∧ closeBracket ∉ host
  digits : ∀ p ∈ port, p.all isDigit

namespace Address

/-- The address as it stands in the URI. -/
def text (a : Address) : Text :=
  (if a.bracketed then openBracket :: a.host ++ [closeBracket] else a.host) ++
    a.port.elim [] (colon :: ·)

/-- What dialing it needs: `SplitHostPort` gives the host, and the port or the default one. -/
def Dialable (a : Address) (hostport : Text) : Prop :=
  splitHostPort hostport = some (a.host, a.port.getD defaultBinaryPort)

end Address

private theorem plain_of_digits (digits : p.all isDigit = true) : Plain p := by
  have not : ∀ b, isDigit b = false → b ∉ p := by
    intro b other inside
    rw [List.all_eq_true.mp digits b inside] at other
    cases other
  exact ⟨not _ (by decide), not _ (by decide), not _ (by decide)⟩

/-- The address of the endpoint of a thrift URL. -/
def thriftHost (host : Text) : Text :=
  match splitHostPort host with
  | some _ => host
  | none => joinHostPort host defaultBinaryPort

private theorem endpointOf_thrift (thrift : u.scheme = schemeThrift)
    (endpoint : endpointOf u = some ep) : ep.host = thriftHost u.host := by
  rw [endpointOf, if_pos thrift] at endpoint
  rw [thriftHost]
  split at endpoint
  · cases endpoint
    rfl
  · cases endpoint
    rfl

/-- Of a URI without a port, a host in brackets gets them twice. -/
private theorem dialable_thriftHost_iff (a : Address) :
    a.Dialable (thriftHost a.text) ↔ (a.bracketed = true → a.port.isSome) := by
  obtain ⟨host, bracketed, port, named, literal, digits⟩ := a
  have defaultPlain : Plain defaultBinaryPort := plain_of_digits (by decide +kernel)
  cases bracketed with
  | false =>
    have plain := named rfl
    refine iff_of_true ?_ nofun
    cases port with
    | none =>
      have unsplit : splitHostPort host = none := splitHostPort_no_colon plain.noColon
      have joined : thriftHost (host ++ []) = host ++ colon :: defaultBinaryPort := by
        rw [List.append_nil, thriftHost, unsplit]
        exact if_neg plain.noColon
      exact (congrArg splitHostPort joined).trans (splitHostPort_plain plain defaultPlain)
    | some p =>
      have split := splitHostPort_plain plain (plain_of_digits (digits p rfl))
      have kept : thriftHost (host ++ colon :: p) = host ++ colon :: p := by
        rw [thriftHost, split]
      exact (congrArg splitHostPort kept).trans split
  | true =>
    obtain ⟨hasColon, noOpen, noClose⟩ := literal rfl
    cases port with
    | none =>
      have unsplit := splitHostPort_no_port hasColon noClose
      have joined : thriftHost (openBracket :: host ++ [closeBracket] ++ []) =
          openBracket :: (openBracket :: host ++ [closeBracket]) ++
            closeBracket :: colon :: defaultBinaryPort := by
        rw [List.append_nil, thriftHost, unsplit]
        exact if_pos (by simp [hasColon])
      refine iff_of_false (fun dialable => ?_) (fun ported => nomatch ported rfl)
      have failed := (congrArg splitHostPort joined).trans
        (splitHostPort_twice_bracketed noClose defaultPlain.noColon)
      exact nomatch failed.symm.trans dialable
    | some p =>
      have split := splitHostPort_bracketed noOpen noClose (plain_of_digits (digits p rfl))
      refine iff_of_true ?_ fun _ => rfl
      have shape : openBracket :: host ++ [closeBracket] ++ colon :: p =
          openBracket :: host ++ closeBracket :: colon :: p := by simp
      have kept : thriftHost (openBracket :: host ++ [closeBracket] ++ colon :: p) =
          openBracket :: host ++ closeBracket :: colon :: p := by
        rw [shape, thriftHost, split]
      exact (congrArg splitHostPort kept).trans split

/-- A segment is a thrift URI with this address. -/
def ThriftURI (lib : Library) (raw : Text) (a : Address) : Prop :=
  ∃ u, parse lib raw = .ok u ∧ u.scheme = schemeThrift ∧ u.host = a.text

private theorem hosts_of_addresses (thrift : List.Forall₂ (ThriftURI lib) raws addresses)
    (parsed : List.Forall₂ (fun raw ep => ∃ u, parse lib raw = .ok u ∧ endpointOf u = some ep)
      raws eps) : List.Forall₂ (fun a ep => ep.host = thriftHost a.text) addresses eps := by
  induction thrift generalizing eps with
  | nil =>
    cases parsed
    exact .nil
  | cons uri _ ih =>
    cases parsed with
    | cons here others =>
      obtain ⟨u, parsed, scheme, host⟩ := uri
      obtain ⟨u', parsed', endpoint⟩ := here
      cases parsed.symm.trans parsed'
      exact .cons (host ▸ endpointOf_thrift scheme endpoint) (ih others)

private theorem dialable_iff {eps : List Endpoint}
    (hosts : List.Forall₂ (fun a ep => ep.host = thriftHost a.text) addresses eps) :
    List.Forall₂ (fun a ep => Address.Dialable a ep.host) addresses eps ↔
      ∀ a ∈ addresses, a.bracketed = true → a.port.isSome := by
  induction hosts with
  | nil => exact iff_of_true .nil nofun
  | cons here _ ih =>
    rw [List.forall₂_cons, ih, here, dialable_thriftHost_iff, List.forall_mem_cons]

/-- Every endpoint of an accepted list of thrift URIs has the address of its URI exactly if
each URI with a host in brackets has a port. -/
theorem thrift_endpoints_dialable_iff (lib : Library) (uris : Text) (eps : List Endpoint)
    (addresses : List Address) (accepted : parseEndpoints lib uris = .ok eps)
    (thrift : List.Forall₂ (ThriftURI lib) (segmentsOf uris) addresses) :
    List.Forall₂ (fun a ep => Address.Dialable a ep.host) addresses eps ↔
      ∀ a ∈ addresses, a.bracketed = true → a.port.isSome := by
  obtain ⟨added, all, parsed⟩ := endpointLoop_ok accepted
  rw [List.nil_append] at all
  subst all
  exact dialable_iff (hosts_of_addresses thrift parsed)

/-- A library that takes a host in brackets as it is, and prints all characters. -/
def plainLibrary : Library := ⟨.ok, fun _ => true⟩

/-- "hms1", without a port. -/
def hms1 : Address :=
  ⟨lit "hms1", false, none, fun _ => ⟨by decide +kernel, by decide +kernel, by decide +kernel⟩,
    nofun, nofun⟩

/-- "[::1]", with or without a port. -/
def loopback (port : Option Text) (digits : ∀ p ∈ port, p.all isDigit) : Address :=
  ⟨lit "::1", true, port, nofun, fun _ => by decide +kernel, digits⟩

theorem thrift_endpoints_dialable_with_port :
    ∃ uris eps addresses, uris = lit "thrift://hms1, thrift://[::1]:9084" ∧
      parseEndpoints plainLibrary uris = .ok eps ∧ eps.length = 2 ∧
      List.Forall₂ (fun a ep => Address.Dialable a ep.host) addresses eps := by
  let addresses : List Address := [hms1, loopback (some (lit "9084")) (by decide +kernel)]
  let eps : List Endpoint :=
    [{ scheme := lit "thrift", host := lit "hms1:9083" },
      { scheme := lit "thrift", host := lit "[::1]:9084" }]
  have accepted : parseEndpoints plainLibrary (lit "thrift://hms1, thrift://[::1]:9084") =
      .ok eps := by decide +kernel
  have segments : segmentsOf (lit "thrift://hms1, thrift://[::1]:9084") =
      [lit "thrift://hms1", lit "thrift://[::1]:9084"] := by decide +kernel
  have thrift : List.Forall₂ (ThriftURI plainLibrary)
      (segmentsOf (lit "thrift://hms1, thrift://[::1]:9084")) addresses := by
    rw [segments]
    refine .cons ⟨{ scheme := lit "thrift", host := lit "hms1" }, ?_⟩
      (.cons ⟨{ scheme := lit "thrift", host := lit "[::1]:9084" }, ?_⟩ .nil)
    · decide +kernel
    · decide +kernel
  refine ⟨_, eps, addresses, rfl, accepted, rfl, ?_⟩
  exact (thrift_endpoints_dialable_iff plainLibrary _ eps addresses accepted thrift).mpr
    (by decide +kernel)

/-- The address of the endpoint of "thrift://[::1]" is no address. -/
theorem bracketed_host_undialable :
    let ep : Endpoint := { scheme := lit "thrift", host := lit "[[::1]]:9083" }
    parseEndpoints plainLibrary (lit "thrift://[::1]") = .ok [ep] ∧
      List.Forall₂ (ThriftURI plainLibrary) (segmentsOf (lit "thrift://[::1]"))
        [loopback none nofun] ∧
      splitHostPort ep.host = none ∧ ¬ (loopback none nofun).Dialable ep.host := by
  have segments : segmentsOf (lit "thrift://[::1]") = [lit "thrift://[::1]"] := by decide +kernel
  have unsplit : splitHostPort (lit "[[::1]]:9083") = none := by decide +kernel
  refine ⟨by decide +kernel, ?_, unsplit, fun dialable => nomatch unsplit.symm.trans dialable⟩
  rw [segments]
  refine .cons ⟨{ scheme := lit "thrift", host := lit "[::1]" }, ?_⟩ .nil
  decide +kernel

end HmsClient.Transport
