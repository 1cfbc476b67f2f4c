/-
Module: AffinityPool.Http.Cookie
Purpose: Cookies as answers set them.
Main exports:
  Visit, Visit.ofAddress, Cookie, Cookie.Setting, Cookie.settings, Cookie.isFit,
  Cookie.isFor, Cookie.shown
-/
import AffinityPool.Http.Address
import AffinityPool.Http.Date

namespace AffinityPool.Http

/-!
A header sets one cookie: its name and value first, then attributes, with
semicolons between them.  What an attribute does not say is taken from the
request.  A cookie with a fault is left out, but a few faults spoil all cookies
of an answer.
-/

/-- What cookies see of a request. -/
structure Visit where
  /-- What stands between the slashes of the address, without a port. -/
  host : String
  /-- The host, made local if it has no dot. -/
  fullHost : String
  path : String
  port : String
  isSecure : Bool

namespace Visit

/-- Marks that stand for themselves in the paths of cookies. -/
def pathMarks : List Char := "%/;:@&=+$,!~*'()_.-".toList

/-- Escapes with capital letters. -/
def withCapitalEscapes : List Char → List Char
  | '%' :: a :: b :: rest =>
      if (Escape.octet? a b).isSome then '%' :: a.toUpper :: b.toUpper :: withCapitalEscapes rest
      else '%' :: withCapitalEscapes (a :: b :: rest)
  | c :: rest => c :: withCapitalEscapes rest
  | [] => []

/-- A path as cookies compare it. -/
def plainPath (path : String) : String :=
  String.ofList <| withCapitalEscapes <| path.toList.flatMap fun c =>
    if c.isAlphanum || pathMarks.contains c then [c] else Escape.escapedChar c

/-- Whether a text ends in a dot and a number. -/
def endsInNumber (text : List Char) : Bool :=
  let rest := text.reverse.dropWhile (·.isDigit)
  rest.length < text.length && rest.head? = some '.'

/-- What stands between the slashes, without a number behind the last colon. -/
def withoutPort (authority : List Char) : List Char :=
  let rest := authority.reverse.dropWhile (·.isDigit)
  if rest.length < authority.length && rest.head? = some ':' then (rest.drop 1).reverse
  else authority

/-- The port behind the first colon, if it is a number. -/
def portOf (authority : List Char) : String :=
  match Escape.unescaped authority |>.dropWhile (· ≠ ':') with
  | _ :: port => if (Text.integer? port).isSome then String.ofList port else "80"
  | [] => "80"

/-- What cookies see of a request to an address. -/
def ofAddress (address : Address) : Visit :=
  let authority := address.authority.toList
  let host := (withoutPort authority).map Char.toLower
  let isLocal := !host.contains '.' && !endsInNumber host
  let path := plainPath address.path
  { host := String.ofList host
    fullHost := String.ofList host ++ (if isLocal then ".local" else "")
    path := if path.startsWith "/" then path else "/" ++ path
    port := portOf authority
    isSecure := address.scheme = "https" || address.scheme = "wss" }

end Visit

/-- A cookie.  The domain has a dot in front if an attribute gave it. -/
structure Cookie where
  version : Int
  name : String
  value : Option String
  port : Option String
  portIsGiven : Bool
  domain : String
  domainIsGiven : Bool
  path : String
  isSecure : Bool
deriving Repr, DecidableEq

namespace Cookie

/-- A cookie as it is written: its name, its value, and its attributes, each
perhaps with a value. -/
structure Written where
  name : String
  value : Option String
  attributes : List (String × Option String)

/-- A text without blanks around it. -/
def trimmed (chars : List Char) : List Char := Text.trimmed Text.isSpacing chars

/-- A text without a quotation mark at either end. -/
def withoutMarks (text : List Char) : List Char :=
  let text := if text.head? = some '"' then text.drop 1 else text
  if text.getLast? = some '"' then text.dropLast else text

/-- A name and what stands behind its equals sign, if there is one. -/
def partOf (part : List Char) : List Char × Option (List Char) :=
  let part := trimmed part
  let name := part.takeWhile (· ≠ '=')
  (trimmed name,
    if name.length < part.length then some (trimmed (part.drop (name.length + 1))) else none)

/-- A cookie as a header writes it, and nothing if the header begins without a
name.  Attributes without a name are passed over. -/
def Written.ofHeader? (header : String) : Option Written :=
  match (Text.pieces ';' header.toList).map partOf with
  | [] => none
  | (name, value) :: attributes =>
      if name.isEmpty then none
      else
        some
          { name := String.ofList name
            value := value.map String.ofList
            attributes := (attributes.filter fun part => !part.1.isEmpty).map fun part =>
              ((String.ofList part.1).toLower, part.2.map String.ofList) }

/-- Why a cookie is not set. -/
inductive Fault where
  /-- The cookie is left out. -/
  | cookie
  /-- All cookies of the answer are left out. -/
  | answer
deriving Repr, DecidableEq

/-- The attributes that have been understood. -/
structure Attributes where
  version : Option String := none
  expires : Option Int := none
  domain : Option String := none
  path : Option String := none
  /-- The ports, or an attribute without any. -/
  port : Option (Option String) := none
  isSecure : Option Bool := none
  hasMaxAge : Bool := false

/-- Take in an attribute.  The first of several counts, except that a given age
goes before a given date and the last age counts. -/
def Attributes.add (now : Int) (attributes : Attributes) (name : String)
    (value : Option String) : Except Fault Attributes :=
  match name, value with
  | "secure", value =>
      if attributes.isSecure.isSome then .ok attributes
      else .ok { attributes with isSecure := some (value ≠ some "") }
  | "port", value =>
      if attributes.port.isSome then .ok attributes else .ok { attributes with port := some value }
  | "expires", value =>
      if attributes.expires.isSome || attributes.hasMaxAge then .ok attributes
      else
        match value.map fun value => Date.read now (withoutMarks value.toList) with
        | some (.moment moment) => .ok { attributes with expires := some moment }
        | _ => .ok attributes
  | "max-age", none => .error .answer
  | "max-age", some value =>
      match Text.integer? value.toList with
      | some age => .ok { attributes with hasMaxAge := true, expires := some (now + age) }
      | none => .error .cookie
  | "domain", value =>
      if attributes.domain.isSome then .ok attributes
      else
        match value with
        | some value => .ok { attributes with domain := some value.toLower }
        | none => .error .cookie
  | "path", value =>
      if attributes.path.isSome then .ok attributes
      else
        match value with
        | some value => .ok { attributes with path := some value }
        | none => .error .cookie
  | "version", value =>
      if attributes.version.isSome then .ok attributes
      else
        match value with
        | some value =>
            .ok { attributes with version := some (String.ofList (withoutMarks value.toList)) }
        | none => .error .cookie
  | _, _ => .ok attributes

/-- Take in attributes up to the first fault. -/
def Attributes.addAll (now : Int) :
    Attributes → List (String × Option String) → Except Fault Attributes
  | attributes, [] => .ok attributes
  | attributes, (name, value) :: rest => do
      let attributes ← attributes.add now name value
      attributes.addAll now rest

/-- What a header does to the cookies that are kept. -/
inductive Setting where
  | keep (cookie : Cookie)
  | forget (domain path name : String)

/-- The path of a cookie that names none: the path of the request up to its last
slash. -/
def defaultPath (version : Int) (visit : Visit) : String :=
  let rest := visit.path.toList.reverse.dropWhile (· ≠ '/')
  let path := if version = 0 then rest.drop 1 else rest
  if path.isEmpty then "/" else String.ofList path.reverse

/-- The largest age that can be kept. -/
def maxMoment : Int := .ofNat (Nat.pow 2 1024 - Nat.pow 2 970)

/-- What a cookie with its attributes does.  A cookie that is over is
forgotten. -/
def settingOf (now : Int) (visit : Visit) (written : Written) (attributes : Attributes) :
    Except Fault Setting := do
  let version ← match Text.integer? (attributes.version.getD "0").toList with
    | some version => .ok version
    | none => .error .cookie
  let path := match attributes.path with
    | some path => if path.isEmpty then defaultPath version visit else Visit.plainPath path
    | none => defaultPath version visit
  let domain := match attributes.domain with
    | some domain => if domain.startsWith "." then domain else "." ++ domain
    | none => visit.fullHost
  if attributes.expires.any (· ≤ now) then .ok (.forget domain path written.name)
  else if attributes.expires.any (maxMoment ≤ ·) then .error .answer
  else
    let port := match attributes.port with
      | none => none
      | some none => some visit.port
      | some (some port) =>
          some (String.ofList (port.toList.filter fun c => !Text.isSpacing c))
    .ok <| .keep
      { version := if version = 1 then 0 else version
        name := written.name
        value := written.value
        port := port
        portIsGiven := attributes.port.any (·.isSome)
        domain := domain
        domainIsGiven := attributes.domain.isSome
        path := path
        isSecure := attributes.isSecure.getD false }

/-- Whether a date among the attributes spoils everything. -/
def hasBrokenDate (now : Int) (written : Written) : Bool :=
  written.attributes.any fun (name, value) =>
    name = "expires" &&
      match value with
      | some value => Date.read now (withoutMarks value.toList) = .broken
      | none => false

/-- The cookies with their attributes, up to a fault that spoils all of them. -/
def understood (now : Int) : List Written → Except Fault (List (Written × Attributes))
  | [] => .ok []
  | written :: rest => do
      let others ← understood now rest
      match Attributes.addAll now {} written.attributes with
      | .ok attributes => .ok ((written, attributes) :: others)
      | .error .cookie => .ok others
      | .error .answer => .error .answer

/-- What cookies with their attributes do, one after the other.  If a fault
spoils all of them, what was to be forgotten before it is still forgotten. -/
def settingsOf (now : Int) (visit : Visit) : List (Written × Attributes) → List Setting × Bool
  | [] => ([], true)
  | (written, attributes) :: rest =>
      match settingOf now visit written attributes with
      | .ok setting =>
          let (others, isSound) := settingsOf now visit rest
          (setting :: others, isSound)
      | .error .cookie => settingsOf now visit rest
      | .error .answer => ([], false)

/-- Whether a setting forgets a cookie. -/
def Setting.forgets : Setting → Bool
  | .forget .. => true
  | .keep _ => false

/-- What the headers of an answer do, in order, except that all forgetting comes
first. -/
def settings (now : Int) (visit : Visit) (headers : List String) : List Setting :=
  let written := headers.filterMap Written.ofHeader?
  if written.any (hasBrokenDate now) then []
  else
    match understood now written with
    | .error _ => []
    | .ok cookies =>
        let (settings, isSound) := settingsOf now visit cookies
        let forgetting := settings.filter Setting.forgets
        if isSound then forgetting ++ settings.filter fun setting => !setting.forgets
        else forgetting

/-- Whether one text ends with another one. -/
def endsWith (text ending : String) : Bool := ending.toList.isSuffixOf text.toList

/-- Whether a cookie's domain fits the request it came with. -/
def domainFits (visit : Visit) (cookie : Cookie) : Bool :=
  if !cookie.domainIsGiven then true
  else
    let bare := String.ofList (cookie.domain.toList.drop 1)
    let isLocal := endsWith visit.fullHost ".local"
    let hasDots := bare.toList.contains '.'
    let reaches :=
      endsWith visit.fullHost cookie.domain || endsWith visit.fullHost (bare ++ ".local") ||
        visit.fullHost.startsWith "." || endsWith ("." ++ visit.fullHost) cookie.domain
    (hasDots || isLocal) && (cookie.version ≠ 0 || reaches)

/-- Whether a cookie's ports are numbers up to that of the request it came
with. -/
def portFits (visit : Visit) : List (List Char) → Bool
  | [] => false
  | port :: rest =>
      (Text.integer? port).isSome && (String.ofList port = visit.port || portFits visit rest)

/-- Whether a cookie may be kept. -/
def isFit (visit : Visit) (cookie : Cookie) : Bool :=
  cookie.version ≤ 0 && domainFits visit cookie &&
    (!cookie.portIsGiven || portFits visit (Text.pieces ',' (cookie.port.getD "").toList))

/-- Whether a path lies under another one. -/
def isUnder (path root : String) : Bool :=
  path = root ||
    (path.startsWith root &&
      (endsWith root "/" || (path.toList.drop root.length).head? = some '/'))

/-- A domain with a dot in front. -/
def dotted (domain : String) : String :=
  if domain.isEmpty || domain.startsWith "." then domain else "." ++ domain

/-- Whether a cookie goes along with a request. -/
def isFor (visit : Visit) (cookie : Cookie) : Bool :=
  let domain := dotted cookie.domain
  (endsWith (dotted visit.host) domain || endsWith (dotted visit.fullHost) domain) &&
    isUnder visit.path cookie.path && (!cookie.isSecure || visit.isSecure) &&
    (match cookie.port with
      | some port => port.isEmpty || (Text.pieces ',' port.toList).contains visit.port.toList
      | none => true) &&
    (cookie.version ≠ 0 || endsWith ("." ++ visit.fullHost) domain)

/-- A cookie as it is sent. -/
def shown (cookie : Cookie) : String :=
  match cookie.value with
  | some value => cookie.name ++ "=" ++ value
  | none => cookie.name

end Cookie

end AffinityPool.Http
