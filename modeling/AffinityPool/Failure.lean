/-
Module: AffinityPool.Failure
Purpose: Every way an operation can fail, by its cause.
Main exports:
  RaisedKind, LimitName, SystemError, Failure, Failure.isConfiguration, Failure.message
-/
import AffinityPool.HostName
import AffinityPool.Json.Reader
import AffinityPool.KeyPath.Resolve
import AffinityPool.Settings.Issue
import AffinityPool.Text.Ascii
import AffinityPool.Text.Decoder
import AffinityPool.Text.FileName

namespace AffinityPool

/-!
Failures are causes; the wording is in one function.  What a transport or a
caller's own code raises is never wrapped, so those failures are carried as
they came, with their kind and their text.
-/

/-- The kinds of failure that a transport or a caller's code may raise. -/
inductive RaisedKind where
  | connection
  | value
  | timeout
  | runtime
  | lookup
  | system
deriving Repr, DecidableEq

/-- The two limits of a pool. -/
inductive LimitName where
  | maxSize
  | ceiling
deriving Repr, DecidableEq

/-- The name of a limit inside texts. -/
def LimitName.shown : LimitName → String
  | .maxSize => "max_size"
  | .ceiling => "max_concurrent_calls_per_channel"

/-- An error of the operating system, by the text it shows itself with. -/
structure SystemError where
  text : String
deriving Repr, DecidableEq

/-- A failure by its cause. -/
inductive Failure where
  /-- A message has no affinity key at a path. -/
  | keyNotFound (path : String) (absence : Absence)
  /-- A part of a message claims to answer for its fields and cannot. -/
  | unansweredField
  /-- A key is bound to another channel than the one that served a bind. -/
  | bindingConflict (key : String) (bound serving : Int)
  | negativeCalls (slot : Int)
  | negativeKeys (slot : Int)
  | deadBinding (key : String) (refcount : Int)
  | poolClosed
  | badLimit (limit : LimitName) (value : Int)
  | duplicateRule (method : String)
  | faultyRule (method : String) (fault : KeyPath.Fault)
  | noRule (method : String)
  | faultyPath (fault : KeyPath.Fault)
  | unreadableSettings (path : Text.LooseText) (error : SystemError)
  /-- A path has halves in it that no name of a file can have. -/
  | unencodablePath (run : Text.Unencodable)
  | nulInPath
  | undecodableText
  | invalidSettings (issues : List Settings.Issue)
  /-- The remote side answered a call with an error object. -/
  | remote (code message data : Json)
  /-- A failure raised outside, as it came. -/
  | raised (kind : RaisedKind) (text : String)
  | cancelled
  /-- A time so long that it is no number of a clock. -/
  | timeTooLong
  /-- An endpoint that is no HTTP address. -/
  | notAnEndpoint
  /-- An address that requests cannot go to, although it looks like one. -/
  | unusableEndpoint
  /-- A host name holds something that is no label. -/
  | faultyHost (fault : HostName.CodeFault)
  /-- A header that cannot be written. -/
  | notAscii (run : Text.Unwritable)
  /-- The value of a header is no text. -/
  | headerNotText
  /-- The parameters of a content type are numbered in part only. -/
  | mixedParts
  /-- The text of a body is refused. -/
  | unreadableText (refusal : Text.Refusal)
  | linkClosed (endpoint : String)
  | requestFailed (endpoint method cause : String)
  | streamFailed (endpoint method cause : String)
  | badStatus (status : Int)
  | malformedJson
  | tooManyDigits (count : Nat)
  /-- A response nests deeper than a reader's stack allows. -/
  | tooDeep (container : Json.Container)
  | notAResponse (payload : Json)
  | noResult (payload : Json)
  /-- The error member of a response is neither blank nor an object. -/
  | errorNotAnObject
  /-- A request has no JSON form. -/
  | notSerialisable
  /-- A record holds a value of a class without a document form. -/
  | unknownClass
  /-- A request holds a number that JSON cannot write. -/
  | notANumber
deriving Repr, BEq

/-- Whether a failure is one of settings: what they say, or that they cannot be had. -/
def Failure.isConfiguration : Failure → Bool
  | .badLimit .. | .duplicateRule _ | .faultyRule .. | .unreadableSettings .. |
    .invalidSettings _ => true
  | _ => false

/-- The failure that a search for a key at a path ends with. -/
def Failure.ofMiss (path : String) : Miss → Failure
  | .absent absence => .keyNotFound path absence
  | .unanswered => .unansweredField

/-- The word for a container inside texts. -/
def containerWord : Json.Container → String
  | .array => "array"
  | .object => "object"

/-- The text of a settings failure, up to the list of issues. -/
def settingsMessage (issues : List Settings.Issue) : String :=
  let count := issues.length
  let noun := if count = 1 then "error" else "errors"
  s!"Invalid API config: {count} validation {noun} for ApiConfig"

/-- The text of a failure.  Failures whose text belongs to a library are given
a short text of their own here. -/
def Failure.message : Failure → String
  | .keyNotFound path absence =>
      let reason := absence.message
      s!"Affinity key '{path}' not found: {reason}"
  | .unansweredField => "the field cannot be asked for"
  | .bindingConflict key bound serving =>
      s!"Affinity key '{key}' is bound to channel {bound} " ++
        s!"but was bound again from channel {serving}"
  | .negativeCalls slot => s!"Active call count of channel {slot} would go negative"
  | .negativeKeys slot => s!"Affinity count of channel {slot} would go negative"
  | .deadBinding key refcount => s!"Affinity entry '{key}' has refcount {refcount}"
  | .poolClosed => "Managed channel is shut down"
  | .badLimit limit value =>
      let name := limit.shown
      s!"{name} must be at least 1, got {value}"
  | .duplicateRule method => s!"Duplicate affinity rule for method '{method}'"
  | .faultyRule method fault =>
      let reason := fault.message
      s!"Invalid key path for '{method}': {reason}"
  | .noRule method => Text.quoted method
  | .faultyPath fault => fault.message
  | .unreadableSettings path error =>
      let path := path.toString
      let error := error.text
      s!"Cannot read API config {path}: {error}"
  | .unencodablePath run => run.message
  | .nulInPath => "embedded null byte"
  | .undecodableText => "the octets are not UTF-8"
  | .invalidSettings issues => settingsMessage issues
  | .remote code message _ =>
      let code := code.shown
      let message := message.shown
      s!"RPC error {code}: {message}"
  | .raised .lookup text => Text.quoted text
  | .raised _ text => text
  | .cancelled => ""
  | .timeTooLong => "int too large to convert to float"
  | .notAnEndpoint => "'endpoint' must be a valid HTTP URL"
  | .unusableEndpoint => "the endpoint cannot be taken apart"
  | .faultyHost fault => fault.message
  | .notAscii run => run.message
  | .headerNotText => "the value of the header is no text"
  | .mixedParts => "only some parts of the parameter are numbered"
  | .unreadableText refusal => refusal.message
  | .linkClosed endpoint => s!"HTTP channel to {endpoint} is closed"
  | .requestFailed endpoint method cause =>
      s!"HTTP request to {endpoint} failed for {method}: {cause}"
  | .streamFailed endpoint method cause =>
      s!"HTTP stream from {endpoint} failed for {method}: {cause}"
  | .badStatus status => s!"the answer has status {status}"
  | .malformedJson => "the text is not JSON"
  | .tooManyDigits count => KeyPath.digitLimitMessage count
  | .tooDeep container =>
      let container := containerWord container
      s!"maximum recursion depth exceeded while decoding a JSON {container} " ++
        "from a unicode string"
  | .notAResponse payload =>
      let payload := payload.quoted
      s!"Invalid JSON-RPC response: {payload}"
  | .noResult payload =>
      let payload := payload.shown
      s!"JSON-RPC response has neither result nor error: {payload}"
  | .errorNotAnObject => "the error member is not an object"
  | .notSerialisable => "the request has no JSON form"
  | .unknownClass => "the record holds a value of an unknown class"
  | .notANumber => "Out of range float values are not JSON compliant"

end AffinityPool
