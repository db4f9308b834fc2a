import Colonnade.Cli.Switch
import Colonnade.Text.Split

/-!
# Help pages

A help page has a line on usage, a sentence, and lists of names with what they mean.  A list has
two columns; the second one is filled with words, as many on a line as fit.
-/

namespace Colonnade.Cli.Help

/-- How wide a page is. -/
def pageWidth : Nat := 80

/-! ## Filling -/

/-- A word, with how many spaces set it off from the word before. -/
structure Word where
  gap : Nat := 1
  text : String
  deriving DecidableEq, Repr

/-- The words of a text. -/
def wordsOf (text : String) : List Word :=
  (Text.split ' ' text.toList).map fun piece => { text := String.ofList piece }

/-- Words, the first of them after two spaces. -/
def setApart : List Word → List Word
  | [] => []
  | word :: rest => { word with gap := 2 } :: rest

/-- Spaces. -/
def spaces (count : Nat) : String := String.ofList (List.replicate count ' ')

/-- Lines that start with a given one and go on with words.  A word goes on the next line if it
does not fit on this one. -/
def fillFrom (width : Nat) (line : String) : List Word → List String
  | [] => [line]
  | word :: rest =>
    let longer := line ++ spaces word.gap ++ word.text
    if longer.length ≤ width then fillFrom width longer rest
    else line :: fillFrom width word.text rest

/-- The lines of words. -/
def fill (width : Nat) : List Word → List String
  | [] => []
  | word :: rest => fillFrom width word.text rest

/-- No line is wider than asked for, unless a single word is. -/
theorem length_le_of_mem_fillFrom {width : Nat} {line : String} {words : List Word}
    (hline : line.length ≤ width) (hwords : ∀ w ∈ words, w.text.length ≤ width) :
    ∀ l ∈ fillFrom width line words, l.length ≤ width := by
  induction words generalizing line with
  | nil => simpa [fillFrom] using hline
  | cons word rest ih =>
    have hrest : ∀ w ∈ rest, w.text.length ≤ width := fun w hw =>
      hwords w (List.mem_cons_of_mem _ hw)
    unfold fillFrom
    simp only
    split
    · rename_i hfits
      exact ih hfits hrest
    · intro l hl
      rcases List.mem_cons.1 hl with rfl | hl
      · exact hline
      · exact ih (hwords word List.mem_cons_self) hrest l hl

/-! ## Columns -/

/-- A name with what it means. -/
structure Row where
  name : String
  meaning : List Word
  deriving DecidableEq, Repr

/-- The width of the longest name. -/
def nameWidth (rows : List Row) : Nat :=
  rows.foldl (fun width row => max width row.name.length) 0

/-- The lines of one row; lines after the first are indented to the second column. -/
def Row.lines (first : Nat) (row : Row) : List String :=
  match fill (pageWidth - first - 2) row.meaning with
  | [] => ["  " ++ row.name]
  | line :: more =>
    ("  " ++ row.name ++ spaces (first - row.name.length) ++ line) ::
      more.map (spaces (first + 2) ++ ·)

/-- The lines of a list under a heading, after an empty line. -/
def sectionLines (heading : String) (rows : List Row) : List String :=
  ["", heading ++ ":"] ++ rows.flatMap (Row.lines (nameWidth rows + 2))

/-! ## Options -/

/-- What a value is called. -/
def valueName : Taking → String
  | .text => "TEXT"
  | .path => "PATH"
  | .word choices => "[" ++ "|".intercalate choices ++ "]"
  | .count => "INTEGER RANGE"

/-- What is known about a value, in brackets. -/
def notes (s : Switch) : List String :=
  (s.usual.map ("default: " ++ ·)).toList ++
    (match s.taking with
      | some .count => ["x>=0"]
      | _ => []) ++
    if s.needed then ["required"] else []

/-- The words for what is known about a value. -/
def noteWords (s : Switch) : List Word :=
  if (notes s).isEmpty then []
  else setApart (wordsOf ("[" ++ "; ".intercalate (notes s) ++ "]"))

/-- The row of an option. -/
def switchRow (s : Switch) : Row where
  name := ", ".intercalate s.spellings ++ ((s.taking.map fun t => " " ++ valueName t).getD "")
  meaning := wordsOf s.summary ++ noteWords s

/-- The section with options. -/
def switchLines (switches : List Switch) : List String :=
  sectionLines "Options" (switches.map switchRow)

/-- A page: its usage, its sentence and its sections. -/
def page (usage summary : String) (sections : List (List String)) : String :=
  String.join (([usage, "", "  " ++ summary] ++ sections.flatten).map (· ++ "\n"))

end Colonnade.Cli.Help
