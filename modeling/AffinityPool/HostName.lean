/-
Module: AffinityPool.HostName
Purpose: Host names beyond ASCII, and the form in which they are looked up.
Main exports:
  HostName.ascii?, HostName.fault?
-/
import AffinityPool.HostName.Casing
import AffinityPool.HostName.Label
import AffinityPool.Text.Split

namespace AffinityPool.HostName

/-- The full stops that separate labels. -/
def stops : List Char := ['.', '\u3002', '\uFF0E', '\uFF61']

/-- The longest host name, with a stop at its end or without one. -/
def maxLength (endsWithStop : Bool) : Nat := if endsWithStop then 254 else 253

/-- The ASCII form of a host name: its labels in small letters, each in its own
ASCII form.  One stop may stand at the end. -/
def ascii? (host : List Char) : Option (List Char) := do
  let host := (lowered host).map fun c => if stops.contains c then '.' else c
  if maxLength true < host.length then none
  let labels := Text.pieces '.' host
  let endsWithStop := 1 < labels.length && labels.getLast? = some []
  let labels := if endsWithStop then labels.dropLast else labels
  let forms ← labels.mapM asciiLabel?
  let name := Text.joined '.' forms ++ (if endsWithStop then ['.'] else [])
  if name.length ≤ maxLength endsWithStop then some name else none

/-- The first fault in the labels of a host name in ASCII that begins with a
code.  One stop may stand at the end. -/
def fault? (host : List Char) : Option CodeFault :=
  if codeMark.isPrefixOf host then
    let labels := Text.pieces '.' host
    let labels := if labels.getLast? = some [] then labels.dropLast else labels
    labels.findSome? codeFault?
  else none

end AffinityPool.HostName
