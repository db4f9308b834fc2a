import Colonnade.Document.Date
import Colonnade.Number.Integer

/-!
# Faults of YAML documents

Most faults make a text no YAML document; these are told apart by the level at which they are
found, from single characters up to values.  The others are values that a tag promises and that
do not exist, such as the thirtieth of February.
-/

namespace Colonnade.Yaml

/-- The level at which a text is found to be no document. -/
inductive Level where
  /-- A character that no document may hold. -/
  | character
  /-- Characters that form no token. -/
  | token
  /-- Tokens that form no tree. -/
  | tree
  /-- A reference to an anchor that is not there, or a second document. -/
  | reference
  /-- A node that its tag does not fit. -/
  | value
  /-- A key that occurs twice in one mapping. -/
  | repeatedKey
  deriving DecidableEq, Repr

/-- Why a text has no value. -/
inductive Fault where
  | malformed (level : Level)
  | integer (cause : Number.IntegerFault)
  | floatText (text : Text.Loose)
  | floatSize
  | exponents
  | noDigits
  | date (cause : Document.DateFault)
  | truthWord (word : Text.Loose)
  | version (major minor : Nat)
  | unhashable (kind : String)
  | repeatedPair
  | codePoint
  | hugeCodePoint
  deriving DecidableEq, Repr

/-- The wording of a level. -/
def Level.message : Level → String
  | .character => "a character that no document may hold"
  | .token => "characters that form no token"
  | .tree => "tokens out of place"
  | .reference => "an unknown alias or a second document"
  | .value => "a value that does not fit its tag"
  | .repeatedKey => "a repeated key"

/-- The wording of a fault. -/
def Fault.message : Fault → String
  | .malformed level => level.message
  | .integer cause => cause.message
  | .floatText text => "could not convert string to float: " ++ text.quoted
  | .floatSize => "int too large to convert to float"
  | .exponents => "too many values to unpack (expected 2)"
  | .noDigits => "string index out of range"
  | .date cause => cause.message
  | .truthWord word => String.ofList word.joined
  | .version major minor =>
    "version minor part can only be 2 or 1, got (" ++ toString major ++ ", " ++ toString minor ++ ")"
  | .unhashable kind => "unhashable type: '" ++ kind ++ "'"
  | .repeatedPair => ""
  | .codePoint => "chr() arg not in range(0x110000)"
  | .hugeCodePoint => "Python int too large to convert to C int"

/-- A text that is malformed at a level. -/
def malformed {α : Type} (level : Level) : Except Fault α := .error (.malformed level)

end Colonnade.Yaml
