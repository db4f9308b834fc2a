import Colonnade.Text.Loose
import Colonnade.Warning.Report

/-!
# Production rules

A rule replaces one symbol by a text.  Rules are written as a list; a table keeps the first rule
for every symbol, in order, and each later one is ignored with a warning.  Any code point may be a
symbol, also one that is no character.
-/

namespace Colonnade.Production

open Text (CodePoint Loose)

/-- A rule as it is written.  Only a symbol of one code point is ever replaced. -/
structure Rule where
  symbol : Loose
  replacement : Loose := []
  deriving DecidableEq, Repr

/-- Replacements by symbol, in order of first definition. -/
structure Table where
  entries : List (Loose × Loose) := []
  deriving DecidableEq, Repr

namespace Table

/-- The table without rules. -/
def empty : Table := {}

/-- The replacement of a symbol. -/
def get? (t : Table) (symbol : Loose) : Option Loose :=
  t.entries.lookup symbol

/-- What a code point becomes: its replacement, or itself when it has none. -/
def image (t : Table) (c : CodePoint) : Loose :=
  match t.get? [c] with
  | some replacement => replacement
  | none => [c]

/-- A table with one more rule at its end. -/
def push (t : Table) (rule : Rule) : Table :=
  ⟨t.entries ++ [(rule.symbol, rule.replacement)]⟩

@[simp] theorem image_empty (c : CodePoint) : empty.image c = [c] := rfl

/-- The warning for a rule whose symbol has a replacement already. -/
def repeated (rule : Rule) (kept : Loose) : Warning :=
  ⟨.duplicateRuleSymbol,
    "Duplicate rule for symbol " ++ rule.symbol.quoted ++ " ignored (keeping " ++ kept.quoted ++
      ", dropping " ++ rule.replacement.quoted ++ ")"⟩

/-- Adds rules to a table; the first rule for a symbol wins. -/
def extend {ε : Type} (t : Table) : List Rule → Report ε Table
  | [] => pure t
  | rule :: rest =>
    match t.get? rule.symbol with
    | some kept => do
      Report.warn (repeated rule kept)
      t.extend rest
    | none => (t.push rule).extend rest

/-- The table of a list of rules. -/
def ofRules {ε : Type} (rules : List Rule) : Report ε Table :=
  empty.extend rules

end Table

end Colonnade.Production
