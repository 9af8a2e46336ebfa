import HmsClient.Endpoints
import HmsClient.UrlPasswords

/-! What the errors of `ParseEndpoints` tell of a password. `Redacted` masks the password
that `url.Parse` has read, and the cause of an error is passed on as it is. So a message is
the same for all passwords as long as the parser takes the whole of the password for one.
Where a comma or the end of the authority cuts the password, it depends on the piece of the
list that is refused first: the message quotes what it found there. -/
namespace HmsClient.Transport
open NetUrl GoStrings

/-- A list of URIs one segment of which has a user and a password, without the password. -/
structure Login where
  front : Option Text
  lead : List Text
  scheme : Text
  user : Text
  rest : Text
  blank : lead ⊆ spaces
  valid : ValidScheme scheme

namespace Login

/-- What is before the password: other segments with a comma after them, white space, the
scheme and the user. -/
def before (l : Login) : Text :=
  l.front.elim [] (· ++ [44]) ++ l.lead.flatten ++ l.scheme ++ lit "://" ++ l.user ++ [colon]

/-- What is after it: the host, and all that follows. -/
def after (l : Login) : Text := atSign :: l.rest

def uris (l : Login) (pw : Text) : Text := l.before ++ pw ++ l.after

end Login

/-- The fixed texts of the messages, with a position in the list. -/
def fixedTexts (position : Nat) : List Text :=
  let parse := lit "hms: parse endpoint #" ++ decimal position ++ lit ": "
  [parse ++ lit "net/url: invalid control character in URL", parse ++ lit "missing protocol scheme",
    parse ++ lit "first path segment in URL cannot contain colon",
    parse ++ lit "net/url: invalid userinfo", parse ++ lit "invalid port ", lit " after host",
    parse ++ lit "invalid URL escape ", parse ++ lit "invalid character ", lit " in host name",
    lit "hms: unsupported scheme ", lit " in ", lit "hms: mixed schemes in endpoint list (",
    lit " and ", lit ")", lit "hms: empty endpoint list"]

/-- A text is in the message about the list whatever the password is, of letters. -/
def SaidAnyway (lib : Library) (l : Login) (t : Text) : Prop :=
  ∀ pw, pw.all isAlpha → ∃ err, parseEndpoints lib (l.uris pw) = .error err ∧ t <:+: err.text lib

/-- A text is in the rest of the list, or in what the message says otherwise. -/
def Elsewhere (lib : Library) (l : Login) (t : Text) : Prop :=
  t <:+: l.before ∨ t <:+: l.after ∨ (∃ position, ∃ text ∈ fixedTexts position, t <:+: text) ∨
    SaidAnyway lib l t

/-- A text has no four bytes or more of the password that are not elsewhere. -/
def Silent (lib : Library) (l : Login) (pw text : Text) : Prop :=
  ∀ t, t <:+: pw → 4 ≤ t.length → t <:+: text → Elsewhere lib l t

def supported : List Text := [schemeThrift, schemeHTTP, schemeHTTPS]

/-- The pieces of a list are blank or URLs of one supported scheme, which is none if all
are blank. -/
def Passed (lib : Library) (pieces : List Text) : Option Text → Prop
  | none => ∀ raw ∈ pieces, trimSpace raw = []
  | some scheme => scheme ∈ supported ∧ (∃ raw ∈ pieces, trimSpace raw ≠ []) ∧
      ∀ raw ∈ pieces, trimSpace raw ≠ [] →
        ∃ u, parse lib (trimSpace raw) = .ok u ∧ u.scheme = scheme

/-- Why a piece is refused that comes after URLs of some scheme. -/
inductive Refused (lib : Library) (position : Nat) (scheme : Option Text) (raw : Text) :
    EndpointError → Prop where
  | unparseable {cause : Cause} (listed : trimSpace raw ≠ [])
      (read : parse lib (trimSpace raw) = .error cause) :
      Refused lib position scheme raw (.unparseable position cause)
  | unsupported {u : URL} (listed : trimSpace raw ≠ []) (read : parse lib (trimSpace raw) = .ok u)
      (unknown : u.scheme ∉ supported) :
      Refused lib position scheme raw (.unsupported u.scheme u.redacted)
  | mixed {u : URL} {first : Text} (listed : trimSpace raw ≠ [])
      (read : parse lib (trimSpace raw) = .ok u) (known : u.scheme ∈ supported)
      (behind : scheme = some first) (differs : first ≠ u.scheme) :
      Refused lib position scheme raw (.mixed first u.scheme)

/-- What a piece may be without a word of the password in the message: blank, a URL that is
taken, one that `url.Parse` refuses without quoting any of it, or one about which the
message has nothing of the password. -/
inductive Discreet (lib : Library) (l : Login) (pw : Text) (position : Nat) (scheme : Option Text)
    (raw : Text) : Prop where
  | blank (empty : trimSpace raw = [])
  | taken {u : URL} (read : parse lib (trimSpace raw) = .ok u) (known : u.scheme ∈ supported)
      (alike : ∀ first ∈ scheme, first = u.scheme)
  | unquoted {cause : Cause} (read : parse lib (trimSpace raw) = .error cause)
      (plain : cause ∈ [.controlCharacter, .missingScheme, .colonInFirstSegment, .invalidUserinfo])
  | spared (silent : ∀ err, Refused lib position scheme raw err → Silent lib l pw (err.text lib))

section Refused
variable {lib : Library} {out next : List Endpoint} {raw : Text} {i : Nat} {err : EndpointError}
  {pieces later : List Text} {scheme : Option Text}

/-- The scheme that the endpoints of a list have, if there are any. -/
private abbrev schemeOf (out : List Endpoint) : Option Text := out.head?.map (·.scheme)

/-- Whether a URL gets an endpoint, and of which scheme, is a matter of its scheme. -/
private theorem endpointOf_scheme (u : URL) :
    (endpointOf u).map (·.scheme) = if u.scheme ∈ supported then some u.scheme else none := by
  simp only [supported, List.mem_cons, List.not_mem_nil, or_false]
  rw [endpointOf]
  by_cases thrift : u.scheme = schemeThrift
  · rw [if_pos thrift, if_pos (.inl thrift)]
    split
    · rfl
    · rfl
  · rw [if_neg thrift]
    simp only [thrift, false_or, Bool.or_eq_true, decide_eq_true_eq]
    by_cases http : u.scheme = schemeHTTP ∨ u.scheme = schemeHTTPS
    · rw [if_pos http, if_pos http]
      rfl
    · rw [if_neg http, if_neg http]
      rfl

variable {u : URL} {position : Nat}

private theorem endpointOf_unknown (unknown : u.scheme ∉ supported) : endpointOf u = none := by
  have scheme := endpointOf_scheme u
  rw [if_neg unknown, Option.map_eq_none_iff] at scheme
  exact scheme

private theorem endpointOf_known (known : u.scheme ∈ supported) :
    ∃ ep, endpointOf u = some ep ∧ ep.scheme = u.scheme := by
  have scheme := endpointOf_scheme u
  rw [if_pos known, Option.map_eq_some_iff] at scheme
  exact scheme

/-- A piece is refused, or it is blank, or a URL of the scheme of those before it. -/
private inductive Stepped (lib : Library) (i : Nat) (raw : Text) (out : List Endpoint) :
    Except EndpointError (List Endpoint) → Prop where
  | blank (empty : trimSpace raw = []) : Stepped lib i raw out (.ok out)
  | taken {u : URL} {ep : Endpoint} (listed : trimSpace raw ≠ [])
      (read : parse lib (trimSpace raw) = .ok u) (known : u.scheme ∈ supported)
      (alike : ∀ first ∈ schemeOf out, first = u.scheme) (same : ep.scheme = u.scheme) :
      Stepped lib i raw out (.ok (out ++ [ep]))
  | refused {err : EndpointError} (refused : Refused lib (i + 1) (schemeOf out) raw err) :
      Stepped lib i raw out (.error err)

private theorem endpointStep_stepped (lib : Library) (i : Nat) (raw : Text) (out : List Endpoint) :
    Stepped lib i raw out (endpointStep lib i raw out) := by
  rw [endpointStep]
  by_cases empty : trimSpace raw = []
  · rw [if_pos empty]
    exact .blank empty
  · rw [if_neg empty]
    cases read : parse lib (trimSpace raw) with
    | error cause => exact .refused (.unparseable empty read)
    | ok u =>
      dsimp only
      rw [addEndpoint]
      by_cases known : u.scheme ∈ supported
      · obtain ⟨ep, endpoint, same⟩ := endpointOf_known known
        rw [endpoint]
        cases head : out.head? with
        | none => exact .taken empty read known (by simp [schemeOf, head]) same
        | some first =>
          dsimp only
          rw [same]
          split
          · next differs =>
            exact .refused (.mixed empty read known (by simp [schemeOf, head]) differs)
          · next alike =>
            refine .taken empty read known ?_ same
            simpa [schemeOf, head] using alike
      · rw [endpointOf_unknown known]
        exact .refused (.unsupported empty read known)

private theorem Refused.unique (refused : Refused lib position scheme raw err)
    (refused' : Refused lib position scheme raw err') : err = err' := by
  cases refused with
  | unparseable listed read =>
    cases refused' with
    | unparseable listed' read' =>
      cases read.symm.trans read'
      rfl
    | unsupported listed' read' => cases read.symm.trans read'
    | mixed listed' read' => cases read.symm.trans read'
  | unsupported listed read unknown =>
    cases refused' with
    | unparseable listed' read' => cases read.symm.trans read'
    | unsupported listed' read' =>
      cases read.symm.trans read'
      rfl
    | mixed listed' read' known =>
      cases read.symm.trans read'
      exact absurd known unknown
  | mixed listed read known behind differs =>
    cases refused' with
    | unparseable listed' read' => cases read.symm.trans read'
    | unsupported listed' read' unknown =>
      cases read.symm.trans read'
      exact absurd known unknown
    | mixed listed' read' known' behind' differs' =>
      cases read.symm.trans read'
      cases behind.symm.trans behind'
      rfl

private theorem Refused.listed (refused : Refused lib position scheme raw err) :
    trimSpace raw ≠ [] := by
  cases refused with
  | unparseable listed => exact listed
  | unsupported listed => exact listed
  | mixed listed => exact listed

private theorem Refused.not_taken (refused : Refused lib position scheme raw err)
    (read : parse lib (trimSpace raw) = .ok u) (known : u.scheme ∈ supported)
    (alike : ∀ first ∈ scheme, first = u.scheme) : False := by
  cases refused with
  | unparseable listed read' => cases read.symm.trans read'
  | unsupported listed read' unknown =>
    cases read.symm.trans read'
    exact unknown known
  | mixed listed read' known' behind differs =>
    cases read.symm.trans read'
    exact differs (alike _ behind)

private theorem Refused.step (refused : Refused lib (i + 1) (schemeOf out) raw err) :
    endpointStep lib i raw out = .error err := by
  have stepped := endpointStep_stepped lib i raw out
  generalize endpointStep lib i raw out = outcome at stepped
  cases stepped with
  | blank empty => exact absurd empty refused.listed
  | taken listed read known alike => exact (refused.not_taken read known alike).elim
  | refused refused' => rw [refused.unique refused']

namespace Passed

private theorem append_blank (passed : Passed lib pieces scheme) (empty : trimSpace raw = []) :
    Passed lib (pieces ++ [raw]) scheme := by
  have last : ∀ p ∈ [raw], trimSpace p = [] := by simpa using empty
  cases scheme with
  | none => exact List.forall_mem_append.mpr ⟨passed, last⟩
  | some scheme =>
    obtain ⟨known, ⟨p, inPieces, listed⟩, all⟩ := passed
    refine ⟨known, ⟨p, List.mem_append_left _ inPieces, listed⟩,
      List.forall_mem_append.mpr ⟨all, fun p isRaw listed => absurd (last p isRaw) listed⟩⟩

private theorem append_taken (passed : Passed lib pieces scheme) (listed : trimSpace raw ≠ [])
    (read : parse lib (trimSpace raw) = .ok u) (known : u.scheme ∈ supported)
    (alike : ∀ first ∈ scheme, first = u.scheme) :
    Passed lib (pieces ++ [raw]) (some u.scheme) := by
  refine ⟨known, ⟨raw, by simp, listed⟩, List.forall_mem_append.mpr ⟨?_, ?_⟩⟩
  · intro p inPieces listed'
    cases scheme with
    | none => exact absurd (passed p inPieces) listed'
    | some first =>
      obtain ⟨v, read', same⟩ := passed.2.2 p inPieces listed'
      exact ⟨v, read', same.trans (alike first rfl)⟩
  · intro p isRaw _
    rw [List.mem_singleton.mp isRaw]
    exact ⟨u, read, rfl⟩

private theorem step (passed : Passed lib pieces (schemeOf out))
    (accepted : endpointStep lib i raw out = .ok next) :
    Passed lib (pieces ++ [raw]) (schemeOf next) := by
  have stepped := endpointStep_stepped lib i raw out
  rw [accepted] at stepped
  cases stepped with
  | blank empty => exact passed.append_blank empty
  | @taken u ep listed read known alike same =>
    have scheme : schemeOf (out ++ [ep]) = some u.scheme := by
      cases out with
      | nil => exact congrArg some same
      | cons first rest => exact congrArg some (alike first.scheme rfl)
    rw [scheme]
    exact passed.append_taken listed read known alike

private theorem unique (passed : Passed lib pieces scheme) (passed' : Passed lib pieces scheme') :
    scheme = scheme' := by
  cases scheme with
  | none =>
    cases scheme' with
    | none => rfl
    | some s =>
      obtain ⟨-, ⟨p, inPieces, listed⟩, -⟩ := passed'
      exact absurd (passed p inPieces) listed
  | some s =>
    obtain ⟨-, ⟨p, inPieces, listed⟩, all⟩ := passed
    cases scheme' with
    | none => exact absurd (passed' p inPieces) listed
    | some s' =>
      obtain ⟨u, read, rfl⟩ := all p inPieces listed
      obtain ⟨u', read', rfl⟩ := passed'.2.2 p inPieces listed
      cases read.symm.trans read'
      rfl

end Passed

end Refused

/-! ## The list -/

section List
variable {l : Login} {pw pw' : Text}

variable {lib : Library} {raw raw' : Text} {scheme : Option Text} {err : EndpointError}

/-- A piece with a password, and with another one. -/
private structure AlikePieces (lib : Library) (pw raw raw' : Text) : Prop where
  listed : trimSpace raw ≠ []
  listed' : trimSpace raw' ≠ []
  alike : Alike (OwnFault pw) SameButPassword (parse lib (trimSpace raw)) (parse lib (trimSpace raw'))

private theorem Passed.alike (pieces : AlikePieces lib pw raw raw')
    (passed : Passed lib (a ++ raw :: b) scheme) : Passed lib (a ++ raw' :: b) scheme := by
  obtain ⟨listed, listed', alike⟩ := pieces
  cases scheme with
  | none => exact absurd (passed raw (by simp)) listed
  | some scheme =>
    obtain ⟨known, -, all⟩ := passed
    obtain ⟨u, read, rfl⟩ := all raw (by simp) listed
    rw [read] at alike
    have here : ∃ u', parse lib (trimSpace raw') = .ok u' ∧ u'.scheme = u.scheme := by
      generalize parse lib (trimSpace raw') = outcome at alike
      cases alike with
      | both same => exact ⟨_, rfl, same.scheme_eq.symm⟩
    refine ⟨known, ⟨raw', by simp, listed'⟩, fun p inside listed'' => ?_⟩
    rcases List.mem_append.mp inside with inA | inRest
    · exact all p (List.mem_append_left _ inA) listed''
    · rcases List.mem_cons.mp inRest with rfl | inB
      · exact here
      · exact all p (List.mem_append_right _ (.tail _ inB)) listed''

private theorem Refused.alike (pieces : AlikePieces lib pw raw raw')
    (refused : Refused lib position scheme raw err) :
    (∃ cause, OwnFault pw cause ∧ err = .unparseable position cause) ∨
      Refused lib position scheme raw' err := by
  obtain ⟨-, listed', alike⟩ := pieces
  generalize read' : parse lib (trimSpace raw') = outcome at alike
  cases refused with
  | unparseable listed read =>
    rw [read] at alike
    cases alike with
    | own fault => exact .inl ⟨_, fault, rfl⟩
    | same cause => exact .inr (.unparseable listed' read')
  | unsupported listed read unknown =>
    rw [read] at alike
    cases alike with
    | both same =>
      rw [same.scheme_eq] at unknown ⊢
      rw [same.redacted_eq]
      exact .inr (.unsupported listed' read' unknown)
  | mixed listed read known behind differs =>
    rw [read] at alike
    cases alike with
    | both same =>
      rw [same.scheme_eq] at known differs ⊢
      exact .inr (.mixed listed' read' known behind differs)

end List

/-! ## A password that is cut -/

variable {l : Login} {pw : Text} {lib : Library}

private theorem unquoted_text (lib : Library) (position : Nat)
    (plain : cause ∈ [.controlCharacter, .missingScheme, .colonInFirstSegment, .invalidUserinfo]) :
    (EndpointError.unparseable position cause).text lib ∈ fixedTexts position := by
  simp only [List.mem_cons, List.not_mem_nil, or_false] at plain
  rcases plain with rfl | rfl | rfl | rfl
  · exact .head _
  · exact .tail _ (.head _)
  · exact .tail _ (.tail _ (.head _))
  · exact .tail _ (.tail _ (.tail _ (.head _)))

private theorem Discreet.silent (discreet : Discreet lib l pw position scheme raw)
    (refused : Refused lib position scheme raw err) : Silent lib l pw (err.text lib) := by
  cases discreet with
  | blank empty => exact absurd empty refused.listed
  | taken read known alike => exact (refused.not_taken read known alike).elim
  | unquoted read plain =>
    intro t _ _ shown
    cases refused with
    | unparseable listed read' =>
      cases read.symm.trans read'
      exact .inr (.inr (.inl ⟨position, _, unquoted_text lib position plain, shown⟩))
    | unsupported listed read' => cases read.symm.trans read'
    | mixed listed read' => cases read.symm.trans read'
  | spared silent => exact silent err refused

end HmsClient.Transport
