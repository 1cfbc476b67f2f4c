/-
Module: AffinityPool.Http.CookieJar
Purpose: The cookies that a channel keeps between its requests.
Main exports:
  CookieJar, CookieJar.empty, CookieJar.absorb, CookieJar.header?
-/
import AffinityPool.Http.Cookie

namespace AffinityPool.Http

/-- Things by name, each name once, in the order of first writing. -/
abbrev Shelf (α : Type) := List (String × α)

namespace Shelf

variable {α : Type}

/-- Change what a name stands for.  A new name goes to the end and is changed
from a given start. -/
def update (start : α) (change : α → α) (name : String) : Shelf α → Shelf α
  | [] => [(name, change start)]
  | (first, held) :: rest =>
      if first = name then (first, change held) :: rest
      else (first, held) :: update start change name rest

end Shelf

/-- Cookies by domain, path and name.  A domain or a path whose last cookie is
forgotten keeps its place. -/
structure CookieJar where
  domains : Shelf (Shelf (Shelf Cookie))

namespace CookieJar

/-- A jar without cookies. -/
def empty : CookieJar := ⟨[]⟩

/-- All cookies of a jar in order. -/
def cookies (jar : CookieJar) : List Cookie :=
  jar.domains.flatMap fun domain => domain.2.flatMap fun path => path.2.map (·.2)

/-- Keep a cookie, in place of one of the same domain, path and name. -/
def keep (jar : CookieJar) (cookie : Cookie) : CookieJar :=
  ⟨jar.domains.update [] (Shelf.update [] (Shelf.update cookie (fun _ => cookie) cookie.name)
    cookie.path) cookie.domain⟩

/-- Forget a cookie. -/
def forget (jar : CookieJar) (domain path name : String) : CookieJar :=
  ⟨jar.domains.map fun entry =>
    if entry.1 = domain then
      (entry.1, entry.2.map fun entry =>
        if entry.1 = path then (entry.1, entry.2.filter (·.1 ≠ name)) else entry)
    else entry⟩

/-- Let a setting happen. -/
def apply (visit : Visit) (jar : CookieJar) : Cookie.Setting → CookieJar
  | .keep cookie => if cookie.isFit visit then jar.keep cookie else jar
  | .forget domain path name => jar.forget domain path name

/-- Take in the cookies that headers of an answer set. -/
def absorb (now : Int) (visit : Visit) (jar : CookieJar) (headers : List String) : CookieJar :=
  (Cookie.settings now visit headers).foldl (apply visit) jar

/-- The header with the cookies that go along with a request: those of the longest
paths first. -/
def header? (visit : Visit) (jar : CookieJar) : Option String :=
  let fitting := jar.cookies.filter (Cookie.isFor visit)
  let ordered := fitting.mergeSort fun a b => b.path.length ≤ a.path.length
  if ordered.isEmpty then none
  else some (String.intercalate "; " (ordered.map Cookie.shown))

end CookieJar

end AffinityPool.Http
