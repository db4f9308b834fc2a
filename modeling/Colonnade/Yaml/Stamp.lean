import Colonnade.Yaml.Fault

/-!
# Time stamps

A time stamp is a date, and perhaps a time of day after the letter `T` or some blanks.  The time
may have a fraction of a second and a zone, which is the letter `Z` or an offset.
-/

namespace Colonnade.Yaml

/-- A time of day as it is written. -/
structure StampTime where
  hour : Nat
  minute : Nat
  second : Nat
  fraction : List Char
  zone : Option Document.Zone

/-- A time stamp as it is written.  A date is padded if its month and day have two digits. -/
structure Stamp where
  year : Nat
  month : Nat
  day : Nat
  isPadded : Bool
  time : Option StampTime

namespace Stamp

/-- The number that decimal digits write. -/
def number (digits : List Char) : Nat :=
  digits.foldl (fun value d => value * 10 + (d.toNat - 48)) 0

/-- Between `least` and `most` digits, and what follows them. -/
def digits? (least most : Nat) (text : List Char) : Option (List Char × List Char) :=
  let found := (text.take most).takeWhile Char.isDigit
  if found.length < least then none else some (found, text.drop found.length)

/-- What follows a character. -/
def after? (c : Char) : List Char → Option (List Char)
  | [] => none
  | d :: rest => if d = c then some rest else none

/-- Whether a character is a space or a tab. -/
def isBlankChar (c : Char) : Bool := c = ' ' || c = '\t'

/-- An offset after its sign, in minutes. -/
def offset? (text : List Char) : Option Nat := do
  let (hours, rest) ← digits? 1 2 text
  match rest with
  | [] => some (number hours * 60)
  | _ => do
    let rest ← after? ':' rest
    let (minutes, rest) ← digits? 2 2 rest
    if rest.isEmpty then some (number hours * 60 + number minutes) else none

/-- How far the zone with a name is ahead, in minutes. -/
def minutes? : List Char → Option Int
  | ['Z'] => some 0
  | '+' :: rest => (offset? rest).map Int.ofNat
  | '-' :: rest => (offset? rest).map fun minutes => -(minutes : Int)
  | _ => none

/-- A zone, or nothing.  A zone is named as it is written. -/
def zone? (text : List Char) : Option (Option Document.Zone) :=
  if text.isEmpty then some none
  else
    let name := text.dropWhile isBlankChar
    (minutes? name).map fun minutes => some ⟨minutes, String.ofList name⟩

/-- A time of day with everything that follows it. -/
def time? (text : List Char) : Option StampTime := do
  let (hour, rest) ← digits? 1 2 text
  let rest ← after? ':' rest
  let (minute, rest) ← digits? 2 2 rest
  let rest ← after? ':' rest
  let (second, rest) ← digits? 2 2 rest
  let (fraction, rest) :=
    match rest with
    | '.' :: rest => (rest.takeWhile Char.isDigit, rest.dropWhile Char.isDigit)
    | rest => ([], rest)
  let zone ← zone? rest
  some ⟨number hour, number minute, number second, fraction, zone⟩

/-- What separates a date from a time, taken off. -/
def afterSeparator? : List Char → Option (List Char)
  | 'T' :: rest => some rest
  | 't' :: rest => some rest
  | text =>
    let rest := text.dropWhile isBlankChar
    if rest.length < text.length then some rest else none

/-- A time stamp. -/
def read (text : List Char) : Option Stamp := do
  let (year, rest) ← digits? 4 4 text
  let rest ← after? '-' rest
  let (month, rest) ← digits? 1 2 rest
  let rest ← after? '-' rest
  let (day, rest) ← digits? 1 2 rest
  let isPadded := month.length = 2 && day.length = 2
  if rest.isEmpty then some ⟨number year, number month, number day, isPadded, none⟩
  else
    let rest ← afterSeparator? rest
    let time ← time? rest
    some ⟨number year, number month, number day, isPadded, some time⟩

/-- Whether a plain scalar is taken for a time stamp: a date alone must be padded. -/
def isPlain (s : Stamp) : Bool := s.isPadded || s.time.isSome

/-- Microseconds of a fraction, a seventh digit above four counting up. -/
def micros (fraction : List Char) : Nat :=
  let digits := fraction.take 6
  let whole := number (digits ++ List.replicate (6 - digits.length) '0')
  match fraction[6]? with
  | some d => if '4' < d then whole + 1 else whole
  | none => whole

/-- The date or moment of a time stamp. -/
def resolve (s : Stamp) : Except Document.DateFault (Document.Date ⊕ Document.Moment) :=
  match s.time with
  | none => (Document.Date.make s.year s.month s.day).map .inl
  | some t => do
    let micro := micros t.fraction
    let carry := decide (999999 < micro)
    let moment ← Document.Moment.make s.year s.month s.day t.hour t.minute t.second
      (if carry then 0 else micro) t.zone
    if carry then moment.nextSecond.map .inr else pure (.inr moment)

end Stamp

end Colonnade.Yaml
