import Colonnade.Yaml.Stamp

/-!
# Tags

A tag says what a node is.  Plain scalars without a tag are given one by their spelling, under
older or newer rules as the version of the document says.
-/

namespace Colonnade.Yaml

/-- What a node is. -/
inductive Tag where
  | null
  | bool
  | int
  | float
  | timestamp
  | binary
  | string
  | sequence
  | pairs
  | mapping
  | set
  | orderedMapping
  | merge
  | value
  | unknown (name : String)
  deriving DecidableEq, Repr

namespace Tag

/-- The tags that have a meaning, by the ends of their names. -/
def known : List (String × Tag) := [
  ("null", .null), ("bool", .bool), ("int", .int), ("float", .float),
  ("timestamp", .timestamp), ("binary", .binary), ("str", .string), ("seq", .sequence),
  ("pairs", .pairs), ("map", .mapping), ("set", .set), ("omap", .orderedMapping),
  ("merge", .merge), ("value", .value)]

/-- What the names of known tags start with. -/
def family : String := "tag:yaml.org,2002:"

/-- The tag with a full name. -/
def ofName (name : String) : Tag :=
  match known.find? fun (short, _) => family ++ short == name with
  | some (_, tag) => tag
  | none => .unknown name

/-! ## Spellings -/

/-- A text without one sign before it. -/
def unsigned : List Char → List Char
  | '+' :: rest => rest
  | '-' :: rest => rest
  | text => text

/-- Whether a text is not empty and all its characters are of a class. -/
def isRun (p : Char → Bool) (text : List Char) : Bool :=
  !text.isEmpty && text.all p

/-- A digit below a limit, or an underscore. -/
def isDigitBelow (limit : Nat) (c : Char) : Bool :=
  c = '_' || (c.isDigit && c.toNat < 48 + limit)

/-- A digit in base sixteen, or an underscore. -/
def isHexOrLine (c : Char) : Bool :=
  isDigitBelow 10 c || ('a' ≤ c && c ≤ 'f') || ('A' ≤ c && c ≤ 'F')

/-- Digits of an integer in base sixty after its first part: a colon and one or two digits each
time. -/
def isSixtieth : List Char → Bool
  | [] => true
  | ':' :: a :: b :: rest =>
    if b = ':' then a.isDigit && isSixtieth (b :: rest)
    else isDigitBelow 6 a && a ≠ '_' && b.isDigit && isSixtieth rest
  | [':', a] => a.isDigit
  | _ => false

/-- A digit, then digits and underscores. -/
def isNumeral (first : Char → Bool) : List Char → Bool
  | [] => false
  | c :: rest => first c && rest.all (isDigitBelow 10)

/-- An integer in base sixty, in at least two parts. -/
def isSixtyInteger (text : List Char) : Bool :=
  let first := text.takeWhile (· ≠ ':')
  let rest := text.dropWhile (· ≠ ':')
  isNumeral (fun c => c.isDigit && c ≠ '0') first && !rest.isEmpty && isSixtieth rest

/-- Whether a text is spelled like an integer without its sign. -/
def isUnsignedInteger (legacy : Bool) (digits : List Char) : Bool :=
  match digits with
  | '0' :: 'b' :: rest => isRun (isDigitBelow 2) rest
  | '0' :: 'x' :: rest => isRun isHexOrLine rest
  | '0' :: 'o' :: rest => !legacy && isRun (isDigitBelow 8) rest
  | _ =>
    if legacy then
      isRun (isDigitBelow 8) digits || isNumeral (fun c => c.isDigit && c ≠ '0') digits ||
        isSixtyInteger digits
    else isRun (isDigitBelow 10) digits

/-- Whether a text is spelled like an integer.  It starts with a sign or a digit. -/
def isInteger (legacy : Bool) (text : List Char) : Bool :=
  text.head? ≠ some '_' && isUnsignedInteger legacy (unsigned text)

/-- Whether a text is the exponent of a float: a mark, a sign and digits. -/
def isExponent (signRequired : Bool) : List Char → Bool
  | mark :: rest =>
    let digits := unsigned rest
    (mark = 'e' || mark = 'E') && isRun Char.isDigit digits &&
      (!signRequired || digits.length < rest.length)
  | [] => false

/-- Whether a text is an exponent or nothing. -/
def isExponentOrNone (signRequired : Bool) (text : List Char) : Bool :=
  text.isEmpty || isExponent signRequired text

/-- Whether a text is spelled like a float with digits before the point. -/
def isFloatWithWhole (text : List Char) : Bool :=
  let whole := text.takeWhile (isDigitBelow 10)
  isNumeral Char.isDigit whole &&
    match text.drop whole.length with
    | '.' :: rest => isExponentOrNone false (rest.dropWhile (isDigitBelow 10))
    | rest => isExponent false rest

/-- Whether a text is spelled like a float that starts with its point. -/
def isFloatWithoutWhole : List Char → Bool
  | '.' :: rest =>
    !(rest.takeWhile (isDigitBelow 10)).isEmpty &&
      isExponentOrNone true (rest.dropWhile (isDigitBelow 10))
  | _ => false

/-- A float in base sixty: an integer of at least two parts, a point and digits. -/
def isSixtyFloat (text : List Char) : Bool :=
  let whole := text.takeWhile (· ≠ '.')
  let first := whole.takeWhile (· ≠ ':')
  let rest := whole.dropWhile (· ≠ ':')
  whole.length < text.length && isNumeral Char.isDigit first && !rest.isEmpty &&
    isSixtieth rest && (text.drop (whole.length + 1)).all (isDigitBelow 10)

/-- Whether a text is spelled like a float. -/
def isFloat (legacy : Bool) (text : List Char) : Bool :=
  let digits := unsigned text
  isFloatWithWhole digits ||
    isFloatWithoutWhole (if legacy then text else digits) ||
    (legacy && isSixtyFloat digits) ||
    [".inf", ".Inf", ".INF"].contains (String.ofList digits) ||
    [".nan", ".NaN", ".NAN"].contains (String.ofList text)

/-- The spellings of truth values. -/
def truthWords (legacy : Bool) : List String :=
  ["true", "True", "TRUE", "false", "False", "FALSE"] ++
    if legacy then
      ["y", "Y", "yes", "Yes", "YES", "n", "N", "no", "No", "NO", "on", "On", "ON", "off", "Off",
        "OFF"]
    else []

/-! ## Resolution -/

/-- A text without one line feed at its end. -/
def withoutFinalBreak (text : List Char) : List Char :=
  if text.getLast? = some '\n' then text.dropLast else text

/-- The tag of a scalar by its spelling.  One line feed at its end means nothing, but a line feed
alone is no empty text. -/
def ofSpelling (legacy : Bool) (spelled : List Char) : Tag :=
  let text := withoutFinalBreak spelled
  let word := String.ofList text
  if (truthWords legacy).contains word then .bool
  else if isFloat legacy text then .float
  else if isInteger legacy text then .int
  else if word = "<<" then .merge
  else if spelled.isEmpty || ["~", "null", "Null", "NULL"].contains word then .null
  else if (Stamp.read text).any Stamp.isPlain then .timestamp
  else if word = "=" then .value
  else if ["!", "&", "*"].contains word then .unknown (family ++ "yaml")
  else .string

/-- The tag of a scalar by its spelling; a text with surrogates is spelled like nothing else. -/
def resolve (legacy : Bool) (text : Text.Loose) : Tag :=
  match text.chars? with
  | some chars => ofSpelling legacy chars
  | none => .string

end Tag

end Colonnade.Yaml
