import Colonnade.Text.Blank
import Colonnade.Text.Quoted
import Colonnade.Text.Split

/-!
# Warning codes

Every recoverable problem with a pillar's geometry has a short code and a stable name.  Users
select warnings by either: a list of codes is text with commas between tokens, a token being a
code spelled exactly or a name in any letter case.
-/

namespace Colonnade

/-- The kinds of warning. -/
inductive Code where
  /-- Fewer than three points; the pillar's mesh is empty. -/
  | degenerateGeometry
  /-- A later rule for a symbol is ignored. -/
  | duplicateRuleSymbol
  /-- A point lies on the origin; its wall has no thickness. -/
  | originPoint
  deriving DecidableEq, Repr

namespace Code

/-- Every code, in rising order of text. -/
def all : List Code := [.degenerateGeometry, .duplicateRuleSymbol, .originPoint]

theorem mem_all (c : Code) : c ∈ all := by
  cases c <;> decide

/-- The short code. -/
def text : Code → String
  | .degenerateGeometry => "W01"
  | .duplicateRuleSymbol => "W02"
  | .originPoint => "W03"

/-- The stable name. -/
def name : Code → String
  | .degenerateGeometry => "DegenerateGeometry"
  | .duplicateRuleSymbol => "DuplicateRuleSymbol"
  | .originPoint => "OriginPoint"

theorem text_injective {c d : Code} (h : c.text = d.text) : c = d := by
  cases c <;> cases d <;> first | rfl | (revert h; decide)

/-- The code with a given short text. -/
def ofText? (text : String) : Option Code :=
  all.find? fun c => c.text == text

@[simp] theorem ofText?_text (c : Code) : ofText? c.text = some c := by
  cases c <;> decide

/-- Names are compared by their letters in lower case.  They are ASCII, and no character outside
ASCII has one of their letters as its lower case. -/
def lowered (text : String) : List Char :=
  text.toList.map Char.toLower

/-- The code that one token of a list selects. -/
def ofToken? (token : String) : Option Code :=
  match ofText? token with
  | some c => some c
  | none => all.find? fun c => lowered c.name == lowered token

/-- The codes with their names, for messages. -/
def catalogue : String :=
  ", ".intercalate (all.map fun c => c.text ++ " (" ++ c.name ++ ")")

end Code

/-- A token that selects no warning. -/
structure UnknownCode where
  token : String
  deriving DecidableEq, Repr

/-- The wording of an unknown token. -/
def UnknownCode.message (u : UnknownCode) : String :=
  "Unknown warning code: " ++ Text.quoted u.token ++ " (known: " ++ Code.catalogue ++ ")"

namespace Code

/-- The codes selected by the tokens of a list, in order of the tokens; blank tokens select
nothing, and the first unknown one is an error. -/
def ofTokens : List String → Except UnknownCode (List Code)
  | [] => .ok []
  | token :: rest =>
    if token = "" then ofTokens rest
    else
      match ofToken? token with
      | none => .error ⟨token⟩
      | some c => (ofTokens rest).map (c :: ·)

/-- The tokens of a list: its pieces without white space at their ends. -/
def tokens (raw : String) : List String :=
  (Text.split ',' raw.toList).map fun piece => String.ofList (Text.trim Text.isSpacing piece)

/-- The set of codes that a list selects, in rising order and each once. -/
def parseList (raw : String) : Except UnknownCode (List Code) :=
  (ofTokens (tokens raw)).map fun found => all.filter (found.contains ·)

end Code

/-- A text that was meant as the code of a warning and is none. -/
structure UnregisteredCode where
  code : String
  deriving DecidableEq, Repr

/-- The wording of a text that is no code. -/
def UnregisteredCode.message (u : UnregisteredCode) : String :=
  "Unregistered warning code: " ++ Text.quoted u.code

/-- A warning: what kind it is and what it says. -/
structure Warning where
  code : Code
  message : String
  deriving DecidableEq, Repr

/-- The text of a warning, code first. -/
def Warning.text (w : Warning) : String :=
  "[" ++ w.code.text ++ "] " ++ w.message

end Colonnade
