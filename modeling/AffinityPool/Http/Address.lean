/-
Module: AffinityPool.Http.Address
Purpose: Addresses taken apart and written in normal form.
Main exports:
  Address, Address.Fault, Address.read, Address.shown
-/
import AffinityPool.HostName
import AffinityPool.Http.Escape
import AffinityPool.Http.NumericHost
import AffinityPool.Text.Integer

namespace AffinityPool.Http

/-!
An address is taken apart at its first colon, slashes, question mark and number
sign; the parts are then checked one by one and written in normal form: schemes
and hosts in lower case, default ports left out, dot segments resolved, and
characters that may not stand in their part replaced by percent escapes.  Every
part may be missing.
-/

/-- An address in normal form.  What is missing of the first four parts is empty
or nothing. -/
structure Address where
  scheme : String
  user : String
  host : String
  port : Option Int
  path : String
  query : Option String
  fragment : Option String
deriving Repr, DecidableEq

namespace Address

/-- Why a text is no address. -/
inductive Fault where
  | tooLong
  | control (c : Char) (position : Nat)
  | dottedHost (host : String)
  | colonHost (host : String)
  | hostName (host : String)
  | badPort (port : String)
  /-- A path behind a host does not begin with a slash. -/
  | pathBehindHost
  | pathWithTwoSlashes
  | pathWithColon
deriving Repr, DecidableEq

/-- The text of a fault. -/
def Fault.message : Fault → String
  | .tooLong => "URL too long"
  | .control c position =>
      let shown := Text.quoted (String.singleton c)
      s!"Invalid non-printable ASCII character in URL, {shown} at position {position}."
  | .dottedHost host => "Invalid IPv4 address: " ++ Text.quoted host
  | .colonHost host => "Invalid IPv6 address: " ++ Text.quoted host
  | .hostName host => "Invalid IDNA hostname: " ++ Text.quoted host
  | .badPort port => "Invalid port: " ++ Text.quoted port
  | .pathBehindHost => "For absolute URLs, path must be empty or begin with '/'"
  | .pathWithTwoSlashes => "Relative URLs cannot have a path starting with '//'"
  | .pathWithColon => "Relative URLs cannot have a path starting with ':'"

/-- The longest address that is taken apart. -/
def maxLength : Nat := 65536

/-- Resolve one segment of a path against those before it, the last one
first. -/
def resolveSegment (before : List (List Char)) (segment : List Char) : List (List Char) :=
  if segment = ['.'] then before
  else if segment = ['.', '.'] then (if before = [[]] then before else before.drop 1)
  else segment :: before

/-- Resolve the dot segments of a path. -/
def resolvePath (path : List Char) : List Char :=
  let segments := Text.pieces '/' path
  if segments.contains ['.'] || segments.contains ['.', '.'] then
    Text.joined '/' (segments.foldl resolveSegment []).reverse
  else path

/-- A host in normal form. -/
def normalHost (host : List Char) : Except Fault (List Char) :=
  let shown := String.ofList host
  if host.isEmpty then .ok []
  else if NumericHost.looksDotted host then
    if NumericHost.isDotted host then .ok host else .error (.dottedHost shown)
  else if host.head? = some '[' && host.getLast? = some ']' then
    let inner := (host.drop 1).dropLast
    if NumericHost.isColonAddress inner then .ok inner else .error (.colonHost shown)
  else if host.all fun c => c.toNat < 0x80 then
    .ok (Escape.escaped Escape.isHostSafe (host.map Char.toLower))
  else
    match HostName.ascii? host with
    | some name => .ok name
    | none => .error (.hostName shown)

/-- The port that need not be written. -/
def defaultPort? (scheme : String) : Option Int :=
  match scheme with
  | "http" | "ws" => some 80
  | "https" | "wss" => some 443
  | "ftp" => some 21
  | _ => none

/-- A port in normal form: a number, and not the default one. -/
def normalPort (scheme : String) (port : List Char) : Except Fault (Option Int) :=
  if port.isEmpty then .ok none
  else
    match Text.integer? port with
    | some value => .ok (if some value = defaultPort? scheme then none else some value)
    | none => .error (.badPort (String.ofList port))

/-- Whether a path may stand in an address. -/
def checkPath (hasScheme hasHost : Bool) (path : List Char) : Except Fault Unit :=
  if hasHost then
    if path.isEmpty || path.head? = some '/' then .ok () else .error .pathBehindHost
  else if hasScheme then .ok ()
  else if ['/', '/'].isPrefixOf path then .error .pathWithTwoSlashes
  else if path.head? = some ':' then .error .pathWithColon
  else .ok ()

/-- The part in front of the last separator, if there is one, and the rest. -/
def splitLast (separator : Char) (chars : List Char) : Option (List Char) × List Char :=
  let rest := (chars.reverse.takeWhile (· ≠ separator)).reverse
  if rest.length = chars.length then (none, chars)
  else (some (chars.take (chars.length - rest.length - 1)), rest)

/-- Whether a character may stand in a scheme. -/
def isSchemeChar (c : Char) : Bool := c.isAlphanum || c = '+' || c = '.' || c = '-'

/-- The scheme of an address and the rest.  A colon at the start ends an empty
scheme. -/
def splitScheme (chars : List Char) : List Char × List Char :=
  let name := chars.takeWhile isSchemeChar
  match chars.drop name.length with
  | ':' :: rest => if name.isEmpty || name.head?.any (·.isAlpha) then (name, rest) else ([], chars)
  | _ => ([], chars)

/-- What stands between two slashes and the path, and the rest. -/
def splitAuthority (chars : List Char) : List Char × List Char :=
  match chars with
  | '/' :: '/' :: rest =>
      let ends : Char → Bool := fun c => c = '/' || c = '?' || c = '#'
      (rest.takeWhile fun c => !ends c, rest.dropWhile fun c => !ends c)
  | chars => ([], chars)

/-- The host of what stands between the slashes, and the rest. -/
def splitHost (chars : List Char) : List Char × List Char :=
  let plain := (chars.takeWhile (· ≠ ':'), chars.dropWhile (· ≠ ':'))
  match chars with
  | '[' :: _ =>
      match splitLast ']' chars with
      | (some inner, rest) => (inner ++ [']'], rest)
      | (none, _) => plain
  | _ => plain

/-- The parts of an address as they are written. -/
structure Written where
  scheme : List Char
  user : List Char
  host : List Char
  port : List Char
  path : List Char
  query : Option (List Char)
  fragment : Option (List Char)

/-- Take a text apart.  Every text has parts. -/
def Written.ofChars (chars : List Char) : Written :=
  let (scheme, rest) := splitScheme chars
  let (authority, rest) := splitAuthority rest
  let path := rest.takeWhile fun c => c ≠ '?' && c ≠ '#'
  let rest := rest.drop path.length
  let (user, hostAndPort) := splitLast '@' authority
  let (host, port) := splitHost hostAndPort
  { scheme := scheme
    user := user.getD []
    host := host
    port := if port.head? = some ':' then port.drop 1 else port
    path := path
    query := match rest with
      | '?' :: rest => some (rest.takeWhile (· ≠ '#'))
      | _ => none
    fragment := match rest.dropWhile (· ≠ '#') with
      | '#' :: fragment => some fragment
      | _ => none }

/-- An address from its parts.  The host is checked before the port, and the
port before the path. -/
def ofWritten (written : Written) : Except Fault Address := do
  let scheme := String.ofList written.scheme
  let user := String.ofList (Escape.escaped Escape.isUserSafe written.user)
  let host ← normalHost written.host
  let port ← normalPort scheme written.port
  let hasScheme := !written.scheme.isEmpty
  let hasHost := !written.user.isEmpty || !host.isEmpty || port.isSome
  checkPath hasScheme hasHost written.path
  let path := if hasScheme || hasHost then resolvePath written.path else written.path
  .ok
    { scheme := scheme.toLower
      user := user
      host := String.ofList host
      port := port
      path := String.ofList (Escape.escaped Escape.isPathSafe path)
      query := written.query.map fun query =>
        String.ofList (Escape.escaped Escape.isQuerySafe query)
      fragment := written.fragment.map fun fragment =>
        String.ofList (Escape.escaped Escape.isFragmentSafe fragment) }

/-- Whether a character may not stand anywhere in an address. -/
def isControl (c : Char) : Bool := c.toNat < 0x20 || c.toNat = 0x7F

/-- Read an address. -/
def read (text : String) : Except Fault Address :=
  let chars := text.toList
  if maxLength < chars.length then .error .tooLong
  else
    match chars.dropWhile fun c => !isControl c with
    | c :: rest => .error (.control c (chars.length - rest.length - 1))
    | [] => ofWritten (.ofChars chars)

/-- What stands between the slashes. -/
def authority (address : Address) : String :=
  let user := if address.user.isEmpty then "" else address.user ++ "@"
  let host :=
    if address.host.toList.contains ':' then "[" ++ address.host ++ "]" else address.host
  let port := match address.port with
    | some port => ":" ++ toString port
    | none => ""
  user ++ host ++ port

/-- An optional part behind its mark. -/
def marked (mark : String) : Option String → String
  | some part => mark ++ part
  | none => ""

/-- An address that requests go to, as text.  Without a host only the way on it
is left, which starts with a slash. -/
def shown (address : Address) : String :=
  let query := marked "?" address.query
  if address.host.isEmpty then
    "/" ++ String.ofList (address.path.toList.dropWhile (· = '/')) ++ query
  else
    address.scheme ++ "://" ++ address.authority ++ address.path ++ query ++
      marked "#" address.fragment

end Address

end AffinityPool.Http
