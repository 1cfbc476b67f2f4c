/-
Module: AffinityPool.Http.Date
Purpose: Dates in headers, as seconds since the start of 1970.
Main exports:
  Date.Reading, Date.read
-/
import AffinityPool.Text.Blank
import AffinityPool.Text.Integer

namespace AffinityPool.Http.Date

/-!
One form is fixed to the letter: weekday, day, month, year, time and `GMT`.  Any
other text is read loosely: a weekday may stand in front, a time and a zone may
follow, and a year of fewer than four digits is the nearest one.
-/

/-- What a text says as a date. -/
inductive Reading where
  | moment (seconds : Int)
  | unreadable
  /-- The fixed form with a month that does not exist, or a year without end. -/
  | broken
deriving Repr, DecidableEq

/-- The names of the months. -/
def monthNames : List String :=
  ["jan", "feb", "mar", "apr", "may", "jun", "jul", "aug", "sep", "oct", "nov", "dec"]

/-- The number of a month by its name. -/
def monthOfName? (name : List Char) : Option Nat :=
  (monthNames.idxOf? (String.ofList (name.map Char.toLower))).map (· + 1)

/-- The number of days before a year, from the year 1 on. -/
def daysBeforeYear (year : Int) : Int :=
  let y := year - 1
  y * 365 + y / 4 - y / 100 + y / 400

/-- Whether a year has a day more. -/
def isLeap (year : Int) : Bool := year % 4 = 0 && (year % 100 ≠ 0 || year % 400 = 0)

/-- The number of days before a month of a year. -/
def daysBeforeMonth (year : Int) (month : Nat) : Int :=
  let lengths : List Int := [31, if isLeap year then 29 else 28, 31, 30, 31, 30, 31, 31, 30, 31, 30]
  (lengths.take (month - 1)).foldl (· + ·) 0

/-- A date and a time of day. -/
structure Fields where
  year : Int
  month : Nat
  day : Nat
  hour : Nat
  minute : Nat
  second : Nat

/-- The moment of a date and a time, if they are in range.  Days beyond the end
of a short month run on into the next one. -/
def Fields.moment? (fields : Fields) : Option Int :=
  if 1970 ≤ fields.year ∧ 1 ≤ fields.month ∧ fields.month ≤ 12 ∧ 1 ≤ fields.day ∧
      fields.day ≤ 31 ∧ fields.hour ≤ 24 ∧ fields.minute ≤ 59 ∧ fields.second ≤ 61 then
    let days := daysBeforeYear fields.year - daysBeforeYear 1970 +
      daysBeforeMonth fields.year fields.month + fields.day - 1
    some (((days * 24 + fields.hour) * 60 + fields.minute) * 60 + fields.second)
  else none

/-- The value of ASCII digits. -/
def value (digits : List Char) : Nat := Text.decimalNumber digits

/-- The year of a moment. -/
def yearOf (seconds : Int) : Int :=
  let days := seconds / 86400
  let guess := 1970 + days / 366
  let start (year : Int) := daysBeforeYear year - daysBeforeYear 1970
  ((List.range 60).foldl (fun year _ => if start (year + 1) ≤ days then year + 1 else year) guess)

/-- A text in the fixed form: its day, month, year and time. -/
def fixed? (chars : List Char) :
    Option (List Char × List Char × List Char × List Char × List Char × List Char) :=
  match chars with
  | [w, a, b, ',', ' ', d1, d2, ' ', m1, m2, m3, ' ', y1, y2, y3, y4, ' ', h1, h2, ':', n1, n2,
      ':', s1, s2, ' ', 'G', 'M', 'T'] =>
      if "SMTWF".toList.contains w && a.isLower && b.isLower &&
          "JFMASOND".toList.contains m1 && m2.isLower && m3.isLower &&
          [d1, d2, y1, y2, y3, y4, h1, h2, n1, n2, s1, s2].all (·.isDigit) then
        some ([d1, d2], [m1, m2, m3], [y1, y2, y3, y4], [h1, h2], [n1, n2], [s1, s2])
      else none
  | _ => none

/-- Whether a character is an ASCII blank. -/
def isSpace (c : Char) : Bool := c = ' ' || (0x09 ≤ c.toNat && c.toNat ≤ 0x0D)

/-- Whether a character is an ASCII letter, a digit or an underscore. -/
def isWord (c : Char) : Bool := c.isAlphanum || c = '_'

/-- The longest run of characters of a kind at the start, and the rest. -/
def span (kind : Char → Bool) (chars : List Char) : List Char × List Char :=
  (chars.takeWhile kind, chars.dropWhile kind)

/-- Blanks, or one of two marks, between the parts of a date. -/
def separator? (chars : List Char) : Option (List Char) :=
  match chars with
  | '-' :: rest | '/' :: rest => some rest
  | c :: rest => if isSpace c then some (rest.dropWhile isSpace) else none
  | [] => none

/-- A text without the name of a weekday in front. -/
def withoutWeekday (chars : List Char) : List Char :=
  let name := String.ofList ((chars.take 3).map Char.toLower)
  if ["sun", "mon", "tue", "wed", "thu", "fri", "sat"].contains name then
    let rest := (chars.drop 3).dropWhile (·.isAlpha)
    (match rest with
      | ',' :: rest => rest
      | rest => rest).dropWhile isSpace
  else chars

/-- The time of day in front of a text: hour, minute and perhaps second. -/
def clock? (chars : List Char) :
    Option ((List Char × List Char × List Char) × List Char) := do
  let rest ← match chars with
    | ':' :: rest => some rest
    | c :: rest => if isSpace c then some (rest.dropWhile isSpace) else none
    | [] => none
  let (hour, rest) := span (·.isDigit) rest
  if hour.isEmpty || 2 < hour.length then none
  match rest with
  | ':' :: m1 :: m2 :: rest =>
      if m1.isDigit && m2.isDigit then
        match rest with
        | ':' :: s1 :: s2 :: after =>
            if s1.isDigit && s2.isDigit then some ((hour, [m1, m2], [s1, s2]), after)
            else some ((hour, [m1, m2], ['0']), rest)
        | _ => some ((hour, [m1, m2], ['0']), rest)
      else none
  | _ => none

/-- Whether a text begins with one of the marks of half a day as a word. -/
def startsWithHalfDay (chars : List Char) : Bool :=
  match chars with
  | a :: m :: rest =>
      "APap".toList.contains a && "Mm".toList.contains m && !(rest.head?.any isWord)
  | _ => false

/-- The zone in front of a text, if there is one, and the rest. -/
def zonePart (chars : List Char) : Option (List Char) × List Char :=
  let (sign, rest) := match chars with
    | '-' :: rest => (['-'], rest)
    | '+' :: rest => (['+'], rest)
    | rest => ([], rest)
  let digits := (rest.takeWhile (·.isDigit)).take 4
  if 2 ≤ digits.length then (some (sign ++ digits), rest.drop digits.length)
  else
    let letters := chars.takeWhile (·.isAlpha)
    if letters.isEmpty || startsWithHalfDay chars then (none, chars)
    else (some letters, chars.drop letters.length)

/-- Whether nothing stands at the end of a date but a remark in parentheses. -/
def isRemark (chars : List Char) : Bool :=
  match chars with
  | [] => true
  | '(' :: rest =>
      let (word, rest) := span isWord rest
      !word.isEmpty &&
        match rest with
        | ')' :: rest => rest.all isSpace
        | _ => false
  | _ => false

/-- The distance of a zone from the standard one, in seconds. -/
def offset? (zone : List Char) : Option Int :=
  if ["GMT", "UTC", "UT", "Z"].contains (String.ofList (zone.map Char.toUpper)) then some 0
  else
    let digits := zone.filter (·.isDigit)
    if digits.isEmpty then none
    else
      let hours := if digits.length = 3 then digits.take 1 else digits.take 2
      let seconds : Int := 3600 * value hours + 60 * value (digits.drop hours.length)
      some (if zone.head? = some '-' then -seconds else seconds)

/-- The full year of one that is written short: the nearest one to now. -/
def fullYear (thisYear year : Int) : Int :=
  if 1000 ≤ year then year
  else
    let distance := thisYear % 100 - year
    let near := year + thisYear - thisYear % 100
    if 50 < distance then near + 100 else if distance < -50 then near - 100 else near

/-- The number of a month by its name or as a number. -/
def month? (text : List Char) : Option Nat :=
  match monthOfName? text with
  | some month => some month
  | none =>
      match Text.integer? text with
      | some n => if 1 ≤ n ∧ n ≤ 12 then some n.toNat else none
      | none => none

/-- Read a date loosely. -/
def readLoosely (now : Int) (chars : List Char) : Reading :=
  let found : Option (Nat × List Char × List Char × List Char) := do
    let (day, rest) := span (·.isDigit) (withoutWeekday (chars.dropWhile Text.isSpacing))
    if day.isEmpty || 2 < day.length then none
    let rest ← separator? rest
    let (month, rest) := span isWord rest
    if month.isEmpty then none
    let rest ← separator? rest
    let (year, rest) := span (·.isDigit) rest
    if year.isEmpty then none
    some (value day, month, year, rest)
  match found with
  | none => .unreadable
  | some (day, month, year, rest) =>
      let ((hour, minute, second), rest) := (clock? rest).getD ((['0'], ['0'], ['0']), rest)
      let (zone, rest) := zonePart (rest.dropWhile isSpace)
      if !isRemark (rest.dropWhile isSpace) then .unreadable
      else if Text.maxIntegerDigits < year.length then .broken
      else if 9999 < value year then .unreadable
      else
        let moment := do
          let month ← month? month
          let moment ← Fields.moment?
            { year := fullYear (yearOf now) (value year)
              month := month
              day := day
              hour := value hour
              minute := value minute
              second := value second }
          let offset ← offset? (zone.getD ['Z'])
          some (moment - offset)
        match moment with
        | some moment => .moment moment
        | none => .unreadable

/-- Read a date.  `now` is the moment of reading. -/
def read (now : Int) (chars : List Char) : Reading :=
  match fixed? chars with
  | some (day, month, year, hour, minute, second) =>
      match monthOfName? month with
      | none => .broken
      | some month =>
          match Fields.moment? ⟨value year, month, value day, value hour, value minute,
              value second⟩ with
          | some moment => .moment moment
          | none => .unreadable
  | none => readLoosely now chars

end AffinityPool.Http.Date
