/-
Module: AffinityPool.Rpc.Call
Purpose: The JSON-RPC documents of requests and responses.
Main exports:
  Rpc.request, Rpc.unwrap, Rpc.readResponse
-/
import AffinityPool.Failure
import AffinityPool.Json.Reader

namespace AffinityPool.Rpc

/-- The document of a request.  Null parameters are left out. -/
def request (id : Nat) (method : String) (params : Json) : Json :=
  let head : Json.Members :=
    [("jsonrpc", .text "2.0"), ("id", .int id), ("method", .text method)]
  match params with
  | .null => .object head
  | params => .object (head.set "params" params)

/-- The failure that an error object stands for.  What it does not say is zero,
empty and null. -/
def failureOf (members : Json.Members) : Failure :=
  .remote ((members.get? "code").getD (.int 0)) ((members.get? "message").getD (.text ""))
    ((members.get? "data").getD .null)

/-- The result that a response carries.  An error member goes before a result,
even if it is blank. -/
def unwrap (response : Json) : Except Failure Json :=
  match response with
  | .object members =>
      match Json.Members.get? members "error" with
      | some error =>
          if error.isBlank then .error (failureOf [])
          else
            match error with
            | .object detail => .error (failureOf detail)
            | _ => .error .errorNotAnObject
      | none =>
          match Json.Members.get? members "result" with
          | some result => .ok result
          | none => .error (.noResult response)
  | _ => .error (.notAResponse response)

/-- Responses may hold halves of surrogate pairs and fractional numbers of any
length.  How deep they may nest is up to the stack of their reader. -/
def dialect (maxDepth : Nat) : Json.Dialect :=
  { maxDepth := maxDepth, countsEmpty := true, loneSurrogates := true, longFractions := true }

/-- The failure that stands for an error of the reader. -/
def readFailure : Json.ReadError → Failure
  | .malformed => .malformedJson
  | .tooManyDigits count => .tooManyDigits count
  | .tooDeep container => .tooDeep container

/-- The result that the text of a response carries. -/
def readResponse (maxDepth : Nat) (letters : List Text.Letter) : Except Failure Json :=
  match Json.readLetters (dialect maxDepth) letters with
  | .ok response => unwrap response
  | .error error => .error (readFailure error)

end AffinityPool.Rpc
