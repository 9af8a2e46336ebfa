import HmsClient.PercentCoding

/-! Go's `net/url`, as far as a URL is read and written, and the addresses of package `net`.
What a host in brackets may be differs between versions of Go, so reading one is a
parameter, and so is which characters `strconv.Quote` takes for printable. -/
namespace HmsClient.NetUrl
open PercentCoding

/-- The bytes of a string constant. -/
def lit (s : String) : Bytes := s.toUTF8.data.toList

abbrev slash : UInt8 := 47
abbrev colon : UInt8 := 58
abbrev atSign : UInt8 := 64
abbrev question : UInt8 := 63
abbrev hash : UInt8 := 35
abbrev percent : UInt8 := 37
abbrev openBracket : UInt8 := 91
abbrev closeBracket : UInt8 := 93

def isAlpha (b : UInt8) : Bool := (97 ≤ b && b ≤ 122) || (65 ≤ b && b ≤ 90)
def isDigit (b : UInt8) : Bool := 48 ≤ b && b ≤ 57

/-- Why a URL is refused. The errors with an argument quote it. -/
inductive Cause where
  | controlCharacter
  | missingScheme
  | colonInFirstSegment
  | invalidUserinfo
  | invalidPort (colonPort : Bytes)
  | escape (s : Bytes)
  | invalidHost (s : Bytes)
  | ipLiteral (text : Bytes)
  deriving DecidableEq

structure Library where
  /-- Reads a host that has an opening bracket, with the port after it. -/
  ipLiteral : Bytes → Except Cause Bytes
  /-- `unicode.IsPrint`, asked only outside of ASCII. -/
  isPrint : Char → Bool

/-! ## Quoting -/

def lowerHex (n : Nat) : UInt8 := if n < 10 then .ofNat (48 + n) else .ofNat (87 + n)

/-- The hexadecimal digits of a number, as many as asked for. -/
def hexDigits : Nat → Nat → Bytes
  | 0, _ => []
  | count + 1, n => hexDigits count (n / 16) ++ [lowerHex (n % 16)]

def quoteASCII (b : UInt8) : Bytes :=
  if b = 34 || b = 92 then [92, b]
  else if 32 ≤ b && b ≤ 126 then [b]
  else
    match b.toNat with
    | 7 => lit "\\a"
    | 8 => lit "\\b"
    | 9 => lit "\\t"
    | 10 => lit "\\n"
    | 11 => lit "\\v"
    | 12 => lit "\\f"
    | 13 => lit "\\r"
    | n => lit "\\x" ++ hexDigits 2 n

def quoteRune (lib : Library) (c : Char) : Bytes :=
  if lib.isPrint c then lit c.toString
  else if c.toNat < 65536 then lit "\\u" ++ hexDigits 4 c.toNat
  else lit "\\U" ++ hexDigits 8 c.toNat

def quoteLoop (lib : Library) : Nat → Bytes → Bytes
  | 0, _ => []
  | _, [] => []
  | fuel + 1, b :: rest =>
    if b < 128 then quoteASCII b ++ quoteLoop lib fuel rest
    else
      match (ByteArray.mk (b :: rest).toArray).utf8DecodeChar? 0 with
      | some c => quoteRune lib c ++ quoteLoop lib fuel ((b :: rest).drop c.utf8Size)
      | none => lit "\\x" ++ hexDigits 2 b.toNat ++ quoteLoop lib fuel rest

/-- `strconv.Quote`, which is the verb `%q`. -/
def quote (lib : Library) (s : Bytes) : Bytes := 34 :: quoteLoop lib s.length s ++ [34]

def Cause.text (lib : Library) : Cause → Bytes
  | .controlCharacter => lit "net/url: invalid control character in URL"
  | .missingScheme => lit "missing protocol scheme"
  | .colonInFirstSegment => lit "first path segment in URL cannot contain colon"
  | .invalidUserinfo => lit "net/url: invalid userinfo"
  | .invalidPort colonPort => lit "invalid port " ++ quote lib colonPort ++ lit " after host"
  | .escape s => lit "invalid URL escape " ++ quote lib s
  | .invalidHost s => lit "invalid character " ++ quote lib s ++ lit " in host name"
  | .ipLiteral text => text

/-! ## Escapes -/

/-- The parts of a URL that are escaped in their own ways. -/
inductive Mode where
  | path
  | userPassword
  | host
  | fragment
  deriving DecidableEq

/-- `shouldEscape`. -/
def shouldEscape (mode : Mode) (b : UInt8) : Bool :=
  if isAlpha b || isDigit b then false
  else if mode = .host && (lit "!$&'()*+,;=:[]<>\"").contains b then false
  else if (lit "-_.~").contains b then false
  else if (lit "$&+,/:;=?@").contains b && mode ≠ .host then
    match mode with
    | .path => b = question
    | .userPassword => b = atSign || b = slash || b = question || b = colon
    | _ => false
  else if mode = .fragment && (lit "!()*").contains b then false
  else true

def escape (mode : Mode) (s : Bytes) : Bytes := encode (shouldEscape mode) s

/-- The first pass of `unescape`. In a host only bytes beyond ASCII may be escaped, and the
percent sign. -/
def badEscape (mode : Mode) : Bytes → Option Cause
  | [] => none
  | b :: rest =>
    if b = percent then
      match rest with
      | high :: low :: rest =>
        if (unhex high).isSome && (unhex low).isSome then
          if mode = .host && (unhex high).any (· < 8) && [high, low] ≠ lit "25" then
            some (.escape [b, high, low])
          else badEscape mode rest
        else some (.escape [b, high, low])
      | _ => some (.escape (b :: rest))
    else if mode = .host && b < 128 && shouldEscape .host b then some (.invalidHost [b])
    else badEscape mode rest

def unescape (mode : Mode) (s : Bytes) : Except Cause Bytes :=
  match badEscape mode s with
  | some cause => .error cause
  | none => .ok (decode s)

def validEncoded (mode : Mode) (s : Bytes) : Bool :=
  s.all fun b => (lit "!$&'()*+,;=:@[]%").contains b || !shouldEscape mode b

/-! ## Reading a URL -/

structure Userinfo where
  username : Bytes
  password : Option Bytes
  deriving DecidableEq

structure URL where
  scheme : Bytes := []
  opaquePart : Bytes := []
  user : Option Userinfo := none
  host : Bytes := []
  path : Bytes := []
  rawPath : Bytes := []
  omitHost : Bool := false
  forceQuery : Bool := false
  rawQuery : Bytes := []
  fragment : Bytes := []
  rawFragment : Bytes := []
  deriving DecidableEq

/-- `strings.Cut` by a byte: without it, all is before it. -/
def cut (sep : UInt8) (s : Bytes) : Bytes × Bytes :=
  (s.takeWhile (· ≠ sep), (s.dropWhile (· ≠ sep)).drop 1)

/-- What is before and after the last of a byte. -/
def cutLast (sep : UInt8) (s : Bytes) : Option (Bytes × Bytes) :=
  if sep ∈ s then
    some (((s.reverse.dropWhile (· ≠ sep)).drop 1).reverse, (s.reverse.takeWhile (· ≠ sep)).reverse)
  else none

variable {sep b : UInt8} {x s port inner scheme : Bytes}

theorem takeWhile_ne_append (absent : sep ∉ x) (y : Bytes) :
    (x ++ sep :: y).takeWhile (· ≠ sep) = x := by
  rw [List.takeWhile_append_of_pos fun b inX => by simpa using ne_of_mem_of_not_mem inX absent]
  simp

theorem dropWhile_ne_append (absent : sep ∉ x) (y : Bytes) :
    (x ++ sep :: y).dropWhile (· ≠ sep) = sep :: y := by
  rw [List.dropWhile_append_of_pos fun b inX => by simpa using ne_of_mem_of_not_mem inX absent]
  simp

theorem cutLast_append (x : Bytes) {y : Bytes} (absent : sep ∉ y) :
    cutLast sep (x ++ sep :: y) = some (x, y) := by
  have reversed : (x ++ sep :: y).reverse = y.reverse ++ sep :: x.reverse := by simp
  have absent' : sep ∉ y.reverse := by simpa using absent
  rw [cutLast, if_pos (by simp), reversed, takeWhile_ne_append absent', dropWhile_ne_append absent']
  simp

theorem cutLast_of_not_mem (absent : sep ∉ s) : cutLast sep s = none :=
  if_neg absent

private theorem exists_last_of_mem (present : b ∈ s) :
    ∃ front back, s = front ++ b :: back ∧ b ∉ back := by
  obtain ⟨back, front, reversed, last⟩ := List.eq_append_cons_of_mem (List.mem_reverse.mpr present)
  refine ⟨front.reverse, back.reverse, ?_, by simpa using last⟩
  rw [← s.reverse_reverse, reversed]
  simp

def isCTL (b : UInt8) : Bool := b < 32 || b = 127

/-- The loop of `getScheme` at index `i`. -/
def schemeLoop (raw : Bytes) : Nat → Bytes → Except Cause (Bytes × Bytes)
  | _, [] => .ok ([], raw)
  | i, c :: rest =>
    if isAlpha c then schemeLoop raw (i + 1) rest
    else if isDigit c || (lit "+-.").contains c then
      if i = 0 then .ok ([], raw) else schemeLoop raw (i + 1) rest
    else if c = colon then
      if i = 0 then .error .missingScheme else .ok (raw.take i, rest)
    else .ok ([], raw)

/-- A text without a scheme is all path. -/
def getScheme (raw : Bytes) : Except Cause (Bytes × Bytes) := schemeLoop raw 0 raw

def toLower (b : UInt8) : UInt8 := if 65 ≤ b && b ≤ 90 then b + 32 else b

/-- The path, the query, and whether an empty one was marked. -/
def splitQuery (rest : Bytes) : Bytes × Bytes × Bool :=
  if rest.getLast? = some question && rest.count question = 1 then (rest.dropLast, [], true)
  else ((cut question rest).1, (cut question rest).2, false)

def validUserinfo (s : Bytes) : Bool :=
  s.all fun b => isAlpha b || isDigit b || (lit "-._:~!$&'()*+,;=%@").contains b

/-- A colon and digits, or nothing. -/
def validOptionalPort (port : Bytes) : Bool :=
  match port with
  | [] => true
  | c :: digits => c = colon && digits.all isDigit

/-- The port of a host without brackets starts at its first colon. -/
def parseHost (lib : Library) (host : Bytes) : Except Cause Bytes :=
  if openBracket ∈ host then lib.ipLiteral host
  else
    let colonPort := host.dropWhile (· ≠ colon)
    if validOptionalPort colonPort then unescape .host host else .error (.invalidPort colonPort)

def parseUserinfo (userinfo : Bytes) : Except Cause Userinfo :=
  if !validUserinfo userinfo then .error .invalidUserinfo
  else if colon ∉ userinfo then
    (unescape .userPassword userinfo).map fun username => ⟨username, none⟩
  else
    match unescape .userPassword (cut colon userinfo).1 with
    | .error cause => .error cause
    | .ok username =>
      (unescape .userPassword (cut colon userinfo).2).map fun password => ⟨username, some password⟩

def parseAuthority (lib : Library) (authority : Bytes) : Except Cause (Option Userinfo × Bytes) :=
  match cutLast atSign authority with
  | none => (parseHost lib authority).map fun host => (none, host)
  | some (userinfo, host) =>
    match parseHost lib host with
    | .error cause => .error cause
    | .ok host => (parseUserinfo userinfo).map fun user => (some user, host)

def URL.setPath (u : URL) (p : Bytes) : Except Cause URL :=
  (unescape .path p).map fun path =>
    { u with path := path, rawPath := if p = escape .path path then [] else p }

def URL.setFragment (u : URL) (f : Bytes) : Except Cause URL :=
  (unescape .fragment f).map fun fragment =>
    { u with fragment := fragment, rawFragment := if f = escape .fragment fragment then [] else f }

/-- What follows the scheme, without query and fragment. -/
def parseRest (lib : Library) (u : URL) (rest : Bytes) : Except Cause URL :=
  if rest.head? ≠ some slash && u.scheme ≠ [] then .ok { u with opaquePart := rest }
  else if rest.head? ≠ some slash && (cut slash rest).1.contains colon then
    .error .colonInFirstSegment
  else if (u.scheme ≠ [] || !(lit "///").isPrefixOf rest) && (lit "//").isPrefixOf rest then
    match parseAuthority lib ((rest.drop 2).takeWhile (· ≠ slash)) with
    | .error cause => .error cause
    | .ok (user, host) =>
      { u with user := user, host := host }.setPath ((rest.drop 2).dropWhile (· ≠ slash))
  else { u with omitHost := decide (u.scheme ≠ []) && rest.head? = some slash }.setPath rest

/-- `parse`, not via a request. -/
def parseURL (lib : Library) (raw : Bytes) : Except Cause URL :=
  if raw.any isCTL then .error .controlCharacter
  else if raw = [42] then .ok { path := [42] }
  else
    match getScheme raw with
    | .error cause => .error cause
    | .ok (scheme, rest) =>
      let (rest, rawQuery, forceQuery) := splitQuery rest
      parseRest lib
        { scheme := scheme.map toLower, rawQuery := rawQuery, forceQuery := forceQuery } rest

/-- `Parse`, with the cause of its error. -/
def parse (lib : Library) (rawURL : Bytes) : Except Cause URL :=
  match parseURL lib (cut hash rawURL).1 with
  | .error cause => .error cause
  | .ok u => if (cut hash rawURL).2 = [] then .ok u else u.setFragment (cut hash rawURL).2

/-! ## Writing a URL -/

/-- The raw form of a part, if it stands for the part, else the part escaped. -/
def escapedPart (mode : Mode) (part raw : Bytes) : Bytes :=
  if raw ≠ [] && validEncoded mode raw && badEscape mode raw = none && decode raw = part then raw
  else if mode = .path && part = [42] then [42]
  else escape mode part

/-- `Userinfo.String`. -/
def Userinfo.string (ui : Userinfo) : Bytes :=
  if ui.username = [] && ui.password.getD [] = [] then []
  else
    escape .userPassword ui.username ++
      ui.password.elim [] fun password => colon :: escape .userPassword password

/-- The part of `URL.String` between scheme and path. -/
def URL.authority (u : URL) : Bytes :=
  if u.scheme = [] && u.host = [] && u.user = none then []
  else if u.omitHost && u.host = [] && u.user = none then []
  else
    (if u.host ≠ [] || u.path ≠ [] || u.user ≠ none then lit "//" else []) ++
      (u.user.elim [] fun ui => ui.string ++ [atSign]) ++ escape .host u.host

/-- `URL.String`. -/
def URL.string (u : URL) : Bytes :=
  let scheme := if u.scheme = [] then [] else u.scheme ++ [colon]
  let hierarchy :=
    if u.opaquePart ≠ [] then u.opaquePart
    else
      let path := escapedPart .path u.path u.rawPath
      let front := u.authority ++
        if path ≠ [] && path.head? ≠ some slash && u.host ≠ [] then [slash] else []
      let relative := scheme = [] && front = [] && (cut slash path).1.contains colon
      front ++ (if relative then lit "./" else []) ++ path
  scheme ++ hierarchy ++ (if u.forceQuery || u.rawQuery ≠ [] then question :: u.rawQuery else []) ++
    if u.fragment = [] then [] else hash :: escapedPart .fragment u.fragment u.rawFragment

/-- `URL.Redacted`: the password is `xxxxx`. -/
def URL.redacted (u : URL) : Bytes :=
  URL.string { u with
    user := u.user.map fun ui => { ui with password := ui.password.map fun _ => lit "xxxxx" } }

/-! ## Addresses -/

/-- `net.JoinHostPort`: a host with a colon is taken for an IPv6 address. -/
def joinHostPort (host port : Bytes) : Bytes :=
  if colon ∈ host then openBracket :: host ++ closeBracket :: colon :: port
  else host ++ colon :: port

/-- `net.SplitHostPort`, and `none` where that fails. The port starts after the last colon;
of a host in brackets the first closing one stands right before it. -/
def splitHostPort (hostport : Bytes) : Option (Bytes × Bytes) :=
  match cutLast colon hostport with
  | none => none
  | some (host, port) =>
    if hostport.head? = some openBracket then
      let inner := (host.drop 1).takeWhile (· ≠ closeBracket)
      if host = openBracket :: inner ++ [closeBracket] && !(inner ++ port).contains openBracket &&
          !port.contains closeBracket then
        some (inner, port)
      else none
    else if host.contains colon || hostport.contains openBracket || hostport.contains closeBracket then
      none
    else some (host, port)

/-- A text without colons and brackets. -/
structure Plain (s : Bytes) : Prop where
  noColon : colon ∉ s
  noOpen : openBracket ∉ s
  noClose : closeBracket ∉ s

theorem splitHostPort_no_colon (noColon : colon ∉ s) : splitHostPort s = none := by
  rw [splitHostPort, cutLast_of_not_mem noColon]

private theorem not_mem_hostPort {host : Bytes} (differs : b ≠ colon) (inHost : b ∉ host)
    (inPort : b ∉ port) : b ∉ host ++ colon :: port := by
  rintro inside
  rcases List.mem_append.mp inside with left | right
  · exact inHost left
  · rcases List.mem_cons.mp right with same | right
    · exact differs same
    · exact inPort right

theorem splitHostPort_plain {host : Bytes} (plainHost : Plain host) (plainPort : Plain port) :
    splitHostPort (host ++ colon :: port) = some (host, port) := by
  have noOpen := not_mem_hostPort (by decide) plainHost.noOpen plainPort.noOpen
  have noClose := not_mem_hostPort (by decide) plainHost.noClose plainPort.noClose
  have unbracketed : (host ++ colon :: port).head? ≠ some openBracket :=
    fun starts => noOpen (List.mem_of_mem_head? starts)
  rw [splitHostPort, cutLast_append host plainPort.noColon]
  dsimp only
  rw [if_neg unbracketed, if_neg]
  simp only [List.contains_iff_mem, Bool.or_eq_true, not_or]
  exact ⟨⟨plainHost.noColon, noOpen⟩, noClose⟩

/-- A host in brackets, and what stands between them. -/
theorem splitHostPort_bracketed (noOpen : openBracket ∉ inner) (noClose : closeBracket ∉ inner)
    (plainPort : Plain port) :
    splitHostPort (openBracket :: inner ++ closeBracket :: colon :: port) = some (inner, port) := by
  have shape : openBracket :: inner ++ closeBracket :: colon :: port =
      (openBracket :: inner ++ [closeBracket]) ++ colon :: port := by simp
  have starts : ((openBracket :: inner ++ [closeBracket]) ++ colon :: port).head? =
      some openBracket := rfl
  have between : ((openBracket :: inner ++ [closeBracket]).drop 1).takeWhile (· ≠ closeBracket) =
      inner := takeWhile_ne_append noClose []
  rw [splitHostPort, shape, cutLast_append _ plainPort.noColon]
  dsimp only
  rw [between, if_pos starts, if_pos]
  simp [noOpen, plainPort.noOpen, plainPort.noClose]

/-- Brackets with nothing after them. -/
theorem splitHostPort_no_port (hasColon : colon ∈ inner) (noClose : closeBracket ∉ inner) :
    splitHostPort (openBracket :: inner ++ [closeBracket]) = none := by
  obtain ⟨front, back, rfl, last⟩ := exists_last_of_mem hasColon
  have shape : openBracket :: (front ++ colon :: back) ++ [closeBracket] =
      (openBracket :: front) ++ colon :: (back ++ [closeBracket]) := by simp
  have starts : ((openBracket :: front) ++ colon :: (back ++ [closeBracket])).head? =
      some openBracket := rfl
  have last' : colon ∉ back ++ [closeBracket] := by
    intro present
    rcases List.mem_append.mp present with inBack | atEnd
    · exact last inBack
    · exact absurd (List.mem_singleton.mp atEnd) (by decide)
  -- The host before the last colon does not end in a bracket.
  have open' : ∀ inner, openBracket :: front ≠ openBracket :: inner ++ [closeBracket] := by
    intro inner same
    refine noClose (List.mem_append_left _ ?_)
    rw [(List.cons.inj same).2]
    simp
  rw [splitHostPort, shape, cutLast_append _ last']
  dsimp only
  rw [if_pos starts, if_neg]
  simp only [decide_eq_false (open' _), Bool.false_and]
  exact Bool.false_ne_true

/-- Brackets around a host that has brackets. -/
theorem splitHostPort_twice_bracketed (noClose : closeBracket ∉ inner) (noColon : colon ∉ port) :
    splitHostPort (openBracket :: (openBracket :: inner ++ [closeBracket]) ++
      closeBracket :: colon :: port) = none := by
  have shape : openBracket :: (openBracket :: inner ++ [closeBracket]) ++
      closeBracket :: colon :: port =
      (openBracket :: openBracket :: inner ++ [closeBracket, closeBracket]) ++ colon :: port := by simp
  have starts : ((openBracket :: openBracket :: inner ++ [closeBracket, closeBracket]) ++
      colon :: port).head? = some openBracket := rfl
  have noClose' : closeBracket ∉ openBracket :: inner :=
    fun present => noClose ((List.mem_cons.mp present).resolve_left (by decide))
  have between : ((openBracket :: openBracket :: inner ++ [closeBracket, closeBracket]).drop 1).takeWhile
      (· ≠ closeBracket) = openBracket :: inner := takeWhile_ne_append noClose' [closeBracket]
  rw [splitHostPort, shape, cutLast_append _ noColon]
  dsimp only
  rw [between, if_pos starts, if_neg]
  simp

/-! ## Texts put together -/

/-- The bytes of a scheme. -/
def isSchemeByte (b : UInt8) : Bool := isAlpha b || isDigit b || (lit "+-.").contains b

/-- A letter, and letters, digits and `+-.`. -/
structure ValidScheme (scheme : Bytes) : Prop where
  letter : scheme.head?.any isAlpha
  bytes : scheme.all isSchemeByte

end HmsClient.NetUrl
