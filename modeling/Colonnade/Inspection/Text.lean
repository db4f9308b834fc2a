import Colonnade.Document.Value
import Colonnade.Inspection.Basic
import Colonnade.Number.Places

/-!
# Inspection text

The text of an inspection for human readers.  It is made from the document of the inspection,
which may also come from elsewhere: members that are not needed are ignored, and the first needed
one that is missing is an error.
-/

namespace Colonnade

namespace Json

mutual

/-- A document as a value of the kind that messages show. -/
def toValue : Json → Document.Value
  | .null => .null
  | .bool b => .bool b
  | .int n => .int n
  | .float x => .float x
  | .text s => .text s
  | .list items => .list (toValues items)
  | .object members => .map (toPairs members)

/-- The members of a list as values. -/
def toValues : List Json → List Document.Value
  | [] => []
  | item :: rest => toValue item :: toValues rest

/-- The members of an object as pairs. -/
def toPairs : List (String × Json) → List (Document.Value × Document.Value)
  | [] => []
  | (name, value) :: rest => (.text name, toValue value) :: toPairs rest

end

/-- Whether a document counts as true: it is not null, false, zero or empty. -/
def holds : Json → Bool
  | .null => false
  | .bool b => b
  | .int n => n != 0
  | .float x => x != 0.0
  | .text s => !s.isEmpty
  | .list items => !items.isEmpty
  | .object members => !members.isEmpty

/-- The members of a list; nothing else has any. -/
def items : Json → List Json
  | .list items => items
  | _ => []

end Json

namespace Inspection

open Text (Loose)

/-- Why a document has no text. -/
inductive RenderFault where
  /-- A member that is needed is missing. -/
  | missing (name : String)
  /-- An integer is too large to be written. -/
  | tooLarge
  deriving DecidableEq, Repr

/-- The wording of a fault. -/
def RenderFault.message : RenderFault → String
  | .missing name => name
  | .tooLarge => Number.IntegerFault.message .tooLarge

/-- A needed member. -/
def member (name : String) (j : Json) : Except RenderFault Json :=
  match j.get? name with
  | some value => .ok value
  | none => .error (.missing name)

/-- A document as text inside a line. -/
def inlineText (j : Json) : Except RenderFault Loose :=
  if j.toValue.holdsTooLarge then .error .tooLarge
  else .ok j.toValue.plainText

/-- Documents as texts inside a line, if all of them can be written. -/
def inlineTexts (items : List Json) : Except RenderFault (List Loose) :=
  if items.any fun j => j.toValue.holdsTooLarge then .error .tooLarge
  else .ok (items.map fun j => j.toValue.plainText)

/-- A line for a document, after its name and some indentation. -/
def namedLine (indent name : String) (j : Json) : Except RenderFault Loose :=
  (inlineText j).map fun text => Loose.ofText (indent ++ name ++ ": ") ++ text

/-- A line for a needed member, after some indentation. -/
def memberLine (indent name : String) (j : Json) : Except RenderFault Loose := do
  let value ← member name j
  namedLine indent name value

/-- Coordinates have six places. -/
def coordinateText : Json → Except RenderFault Loose
  | .float x => .ok (Number.fixedText 6 x)
  | .int n => .ok (Number.fixedText 6 ((Number.floatOfInt? n).getD (Number.infiniteFloat (n < 0))))
  | other => inlineText other

/-- The texts of documents, one after the other. -/
def textsOf (text : Json → Except RenderFault Loose) : List Json → Except RenderFault (List Loose)
  | [] => .ok []
  | item :: rest => do
    let first ← text item
    let more ← textsOf text rest
    pure (first :: more)

/-- A vector in brackets. -/
def vectorText (j : Json) : Except RenderFault Loose :=
  (textsOf coordinateText j.items).map fun texts =>
    Loose.ofText "[" ++ List.intercalate (Loose.ofText ", ") texts ++ Loose.ofText "]"

/-- A line for one corner of the bounds. -/
def boundLine (name : String) (entry : Json) : Except RenderFault Loose := do
  let bounds ← member "bounds" entry
  let corner ← member name bounds
  let text ← vectorText corner
  pure (Loose.ofText ("    bounds." ++ name ++ ": ") ++ text)

/-- The lines for a mesh. -/
def meshLines (entry : Json) : Except RenderFault (List Loose) := do
  let vertices ← memberLine "    " "vertex_count" entry
  let triangles ← memberLine "    " "triangle_count" entry
  let empty ← member "empty" entry
  if empty.holds then pure [vertices, triangles, "    empty: true"]
  else do
    let low ← boundLine "min" entry
    let high ← boundLine "max" entry
    pure [vertices, triangles, low, high]

/-- The line for the growth of an L-system, if there is one. -/
def growthLines (entry : Json) : Except RenderFault (List Loose) :=
  match entry.get? "expansion_lengths" with
  | none => .ok []
  | some lengths =>
    (inlineTexts lengths.items).map fun texts =>
      [Loose.ofText "    expansion_lengths: " ++ List.intercalate (Loose.ofText " -> ") texts]

/-- The line for the number of points, if there is one. -/
def pointLines (entry : Json) : Except RenderFault (List Loose) :=
  match entry.get? "cross_section_points" with
  | none => .ok []
  | some points => (namedLine "    " "cross_section_points" points).map ([·])

/-- The lines for what was built of a pillar. -/
def detailLines (entry : Json) : Except RenderFault (List Loose) :=
  match (entry.get? "mesh_skipped").map Json.holds with
  | some true => .ok ["    mesh_skipped: true"]
  | _ => do
    let points ← pointLines entry
    let mesh ← meshLines entry
    pure (points ++ mesh)

/-- The lines for one pillar. -/
def entryLines (entry : Json) : Except RenderFault (List Loose) := do
  let id ← namedLine "  - " "id" (← member "id" entry)
  let label ← memberLine "    " "type" entry
  let growth ← growthLines entry
  let detail ← detailLines entry
  pure ([id, label] ++ growth ++ detail)

/-- The lines for all pillars. -/
def entriesLines : List Json → Except RenderFault (List Loose)
  | [] => .ok []
  | entry :: rest => do
    let lines ← entryLines entry
    let more ← entriesLines rest
    pure (lines ++ more)

/-- The line for the number of pillars that were skipped, if there are any. -/
def skippedLines (skipped : Json) : Except RenderFault (List Loose) :=
  if skipped.holds then (namedLine "  " "skipped_count" skipped).map ([·]) else .ok []

/-- The lines for the totals. -/
def summaryLines (summary : Json) : Except RenderFault (List Loose) := do
  let version ← memberLine "  " "spec_version" summary
  let pillars ← memberLine "  " "pillar_count" summary
  let vertices ← memberLine "  " "vertex_count" summary
  let triangles ← memberLine "  " "triangle_count" summary
  let skipped ← skippedLines (← member "skipped_count" summary)
  pure ([version, pillars, vertices, triangles] ++ skipped)

/-- All lines of an inspection. -/
def lines (payload : Json) : Except RenderFault (List Loose) := do
  let schema ← memberLine "" "inspect_schema_version" payload
  let summary ← member "summary" payload
  let totals ← summaryLines summary
  let entries := ((payload.get? "pillars").map Json.items).getD []
  let blocks ← entriesLines entries
  pure ([schema, Loose.ofText "summary:"] ++ totals ++ [Loose.ofText "pillars:"] ++
    (if entries.isEmpty then [Loose.ofText "  (none)"] else []) ++ blocks)

/-- The document of an inspection as text for other programs, a line for every member. -/
def documentText (i : Inspection) : Except RenderFault String :=
  if i.entries.any fun e => e.detail.lengths.any fun n => Number.isTooLarge n then .error .tooLarge
  else .ok i.toJson.indentedText

/-- The text of an inspection, given as a document. -/
def render (payload : Json) : Except RenderFault Loose :=
  (lines payload).map fun lines => (lines.map fun line => line ++ Loose.ofText "\n").flatten

end Inspection

end Colonnade
