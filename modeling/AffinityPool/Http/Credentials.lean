/-
Module: AffinityPool.Http.Credentials
Purpose: The user name and password of an address, as a header carries them.
Main exports:
  base64, Credentials, Credentials.ofAddress?, Credentials.header
-/
import AffinityPool.Http.Address

namespace AffinityPool.Http

/-- The character of six bits. -/
def base64Char (value : Nat) : Char :=
  if value < 26 then Char.ofNat (value + 'A'.toNat)
  else if value < 52 then Char.ofNat (value - 26 + 'a'.toNat)
  else if value < 62 then Char.ofNat (value - 52 + '0'.toNat)
  else if value = 62 then '+'
  else '/'

/-- Octets in characters of six bits each.  Three octets are four characters, and
equals signs fill up what the last octets leave open. -/
def base64 : List UInt8 → List Char
  | a :: b :: c :: rest =>
      let value := a.toNat * 0x10000 + b.toNat * 0x100 + c.toNat
      base64Char (value / 0x40000) :: base64Char (value / 0x1000 % 0x40) ::
        base64Char (value / 0x40 % 0x40) :: base64Char (value % 0x40) :: base64 rest
  | [a, b] =>
      let value := a.toNat * 0x100 + b.toNat
      [base64Char (value / 0x400), base64Char (value / 0x10 % 0x40),
        base64Char (value % 0x10 * 4), '=']
  | [a] => [base64Char (a.toNat / 4), base64Char (a.toNat % 4 * 0x10), '=', '=']
  | [] => []

/-- A user name and a password. -/
structure Credentials where
  name : List Char
  password : List Char
deriving Repr, DecidableEq

namespace Credentials

/-- The name and the password in front of a host, without percent escapes.  A
colon separates the two, and both may be missing. -/
def ofAddress? (address : Address) : Option Credentials :=
  let user := address.user.toList
  let name := user.takeWhile (· ≠ ':')
  let password := user.drop (name.length + 1)
  if address.host.isEmpty || (name.isEmpty && password.isEmpty) then none
  else some ⟨Escape.unescaped name, Escape.unescaped password⟩

/-- The value of the header that carries a name and a password. -/
def header (credentials : Credentials) : String :=
  let text := String.ofList (credentials.name ++ ':' :: credentials.password)
  "Basic " ++ String.ofList (base64 text.toUTF8.toList)

end Credentials

end AffinityPool.Http
