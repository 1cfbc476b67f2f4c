/-
Module: AffinityPool.Http.NumericHost
Purpose: Hosts that are written as numbers: four with dots, or eight with colons.
Main exports:
  NumericHost.looksDotted, NumericHost.isDotted, NumericHost.isColonAddress
-/
import AffinityPool.Http.Escape
import AffinityPool.Text.Digit
import AffinityPool.Text.Split

namespace AffinityPool.Http.NumericHost

/-- Whether a text is four runs of digits with dots between them. -/
def looksDotted (host : List Char) : Bool :=
  let parts := Text.pieces '.' host
  parts.length = 4 && parts.all fun part => !part.isEmpty && part.all (·.isDigit)

/-- Whether a text is one number of a dotted address: one to three digits, no
zero in front, at most 255. -/
def isOctet (digits : List Char) : Bool :=
  !digits.isEmpty && digits.all (·.isDigit) && digits.length ≤ 3 &&
    (digits.length = 1 || digits.head? ≠ some '0') && Text.decimalNumber digits ≤ 255

/-- Whether a text is an address of four numbers. -/
def isDotted (host : List Char) : Bool :=
  let parts := Text.pieces '.' host
  parts.length = 4 && parts.all isOctet

/-- Whether a text is one group of a colon address. -/
def isGroup (digits : List Char) : Bool :=
  !digits.isEmpty && digits.length ≤ 4 && digits.all fun c => (Escape.hexValue? c).isSome

/-- Whether groups, with at most one gap among them, make a colon address.  An
empty group at an end is part of a gap there. -/
def areGroups (parts : List (List Char)) : Bool :=
  let inner := (parts.drop 1).dropLast
  let gaps := (inner.filter (·.isEmpty)).length
  if parts.length < 3 || 9 < parts.length || 1 < gaps then false
  else if gaps = 1 then
    let leadingOk := !(parts.headD []).isEmpty || (inner.headD ['0']).isEmpty
    let trailingOk := !(parts.getLastD []).isEmpty || (inner.getLastD ['0']).isEmpty
    let groups := parts.filter fun part => !part.isEmpty
    leadingOk && trailingOk && groups.all isGroup && groups.length < 8
  else parts.length = 8 && parts.all isGroup

/-- Whether a text is a colon address, with four numbers at its end or without,
and perhaps with a zone. -/
def isColonAddress (host : List Char) : Bool :=
  let address := host.takeWhile (· ≠ '%')
  let zone := host.drop address.length
  let zoneOk := zone.isEmpty || (1 < zone.length && !(zone.drop 1).contains '%')
  let parts := Text.pieces ':' address
  let last := parts.getLastD []
  let parts :=
    if last.contains '.' then
      if isDotted last then parts.dropLast ++ [['0'], ['0']] else [[]]
    else parts
  zoneOk && areGroups parts

end AffinityPool.Http.NumericHost
