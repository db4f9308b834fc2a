import Colonnade.Spec.Reading
import Colonnade.Spec.Version
import Colonnade.Yaml.Load

/-!
# Loading specifications

A specification document is a mapping with a supported version; only then is the schema applied
to it.  Loading does not check what a specification means.
-/

namespace Colonnade

open Document (Content Value)
open Schema (Problem)

/-- Why a document is not a specification. -/
inductive LoadFault where
  | yaml (cause : Yaml.Fault)
  | notAMapping
  | noVersion
  | version (cause : Version.Fault)
  | tooLarge
  | fieldName
  | schema (problems : List Problem)
  deriving DecidableEq, Repr

namespace LoadFault

/-- The name of a place in a path. -/
def placeText : Schema.Place → String
  | .field name => name
  | .item position => toString position

/-- One line for a problem. -/
def problemLine (p : Problem) : String :=
  ".".intercalate (p.path.map placeText) ++ ": " ++ p.cause.message

/-- The opening words of a fault. -/
def heading : LoadFault → String
  | .yaml (.malformed _) => "Invalid YAML"
  | .yaml cause => cause.message
  | .notAMapping => "Top-level YAML value must be a mapping"
  | .noVersion => "Missing required field: version"
  | .version cause => cause.message
  | .tooLarge => Number.IntegerFault.message .tooLarge
  | .fieldName => "keywords must be strings"
  | .schema _ => "Schema validation failed:"

/-- The wording of a fault, with what is known about it. -/
def message (f : LoadFault) : String :=
  match f with
  | .yaml (.malformed level) => f.heading ++ ": " ++ level.message
  | .schema problems => "\n".intercalate (f.heading :: problems.map problemLine)
  | _ => f.heading

end LoadFault

namespace Spec

/-- Whether a value can be the name of a field. -/
def isFieldName : Value → Bool
  | .text _ => true
  | _ => false

/-- Checks the version of a document. -/
def checkVersion (version : Value) : Except LoadFault Unit :=
  if version.holdsTooLarge then .error .tooLarge
  else (Version.check version.plainText).mapError .version

/-- Accepts a document that is a mapping with a supported version. -/
def checkContent (c : Content) : Except LoadFault Unit :=
  match c.pairs? with
  | none => .error .notAMapping
  | some pairs =>
    match Document.Member.lookup? (.scalar 0 (.text "version")) pairs with
    | none => .error .noVersion
    | some (.scalar _ .null) => .error .noVersion
    | some version => checkVersion (c.written version)

/-- The content that a text writes, if it is a mapping with a supported version. -/
def loadContent (text : List Char) : Except LoadFault Content := do
  let content ← (Yaml.load text).mapError .yaml
  checkContent content
  pure content

/-- The schema looks at collections down to this depth and no further. -/
def schemaDepth : Nat := 8

/-- The fields of a document that is a mapping. -/
def fieldsOf (c : Content) : Schema.Reader.Pairs :=
  ((c.unrolled schemaDepth).pairs?).getD []

/-- The specification with given fields. -/
def ofFields (pairs : Schema.Reader.Pairs) : Except LoadFault Spec :=
  if pairs.all fun pair => isFieldName pair.1 then
    match readFields pairs with
    | .ok spec => .ok spec
    | .error problems => .error (.schema problems)
  else .error .fieldName

/-- The specification that a text writes. -/
def load (text : List Char) : Except LoadFault Spec := do
  let content ← loadContent text
  ofFields (fieldsOf content)

/-- What loads is read from the fields of the text. -/
theorem load_eq_ok_iff (text : List Char) (s : Spec) :
    load text = .ok s ↔ ∃ c, loadContent text = .ok c ∧ ofFields (fieldsOf c) = .ok s := by
  unfold load
  cases loadContent text <;> simp [bind, Except.bind]

end Spec

end Colonnade
