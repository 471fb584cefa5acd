import MtaCheck.Yaml.Cursor
import MtaCheck.Yaml.Token

/-!
# Block scalars

A literal or folded scalar takes the lines below its header that are indented
deeper than the collection around it.  The header may say how deep they are and
what becomes of the line breaks at the end; otherwise the first line that is not
empty sets the depth, and one break stays.
-/

namespace MtaCheck.Yaml.Scan

/-- What becomes of the line breaks at the end of a block scalar. -/
inductive Chomping
  | strip
  | clip
  | keep
deriving DecidableEq

/-! ## The header -/

/-- The sign for chomping, if it comes next. -/
def chompingSign? : Scan (Option Chomping) := do
  match ← peek with
  | some '+' => advance 1; return some .keep
  | some '-' => advance 1; return some .strip
  | _ => return none

/-- The digit for indentation, if it comes next. -/
def indentationDigit? (began : Mark) : Scan (Option Nat) := do
  match (← peek).filter Char.isDigit with
  | none => return none
  | some '0' => fail .blockScalar began .zeroIndentation
  | some digit => advance 1; return some (digit.toNat - '0'.toNat)

/-- The two indicators of a header, in either order. -/
def blockHeader (began : Mark) : Scan (Chomping × Option Nat) := do
  require 1
  match ← chompingSign? with
  | some chomping =>
      require 1
      return (chomping, ← indentationDigit? began)
  | none =>
      let increment ← indentationDigit? began
      if increment.isSome then require 1
      let chomping ← if increment.isSome then chompingSign? else pure none
      return (chomping.getD .clip, increment)

/-! ## Empty lines -/

/-- What a pass over empty lines finds: their breaks, newest first, where the
last of them ends, and the largest column that was reached. -/
structure EmptyLines where
  breaks : List Char
  stop : Mark
  deepest : Nat

/-- Passes lines that hold nothing but indentation.  With a known depth no more
spaces than that are passed on each line. -/
def emptyLinesFrom (began : Mark) (depth : Option Nat) : Nat → EmptyLines → Scan EmptyLines
  | 0, lines => return lines
  | steps + 1, lines => do
      require 1
      let column := (← mark).column
      let spaces := (← get).rest.takeWhile (· == ' ')
      advance (depth.elim spaces.length fun depth => min spaces.length (depth - column))
      require 1
      let column := (← mark).column
      let lines := { lines with deepest := max lines.deepest column }
      if (← startsWith '\t') && depth.all (column < ·) then
        fail .blockScalar began .tabAsIndentation
      if (← peek).any isBreak then
        require 2
        let break' ← lineBreak
        emptyLinesFrom began depth steps
          { lines with breaks := break'.reverse ++ lines.breaks, stop := ← mark }
      else return lines

/-- Passes empty lines from here. -/
def emptyLines (began : Mark) (depth : Option Nat) : Scan EmptyLines := do
  emptyLinesFrom began depth (← bound) ⟨[], ← mark, 0⟩

/-! ## The lines -/

/-- What joins two lines of a folded scalar, or of any scalar that is folded:
the break itself where it is not a line feed or more breaks follow, else a space. -/
def foldedBreak (first more : List Char) : List Char :=
  if first.head? == some '\n' then (if more.isEmpty then [' '] else more)
  else first ++ more

/-- A block scalar being read: the text so far, newest first, the break that
ends its last line, the breaks of the empty lines behind it, whether that line
begins with a blank, and where the scalar ends. -/
structure BlockText where
  reversed : List Char
  lastBreak : List Char
  moreBreaks : List Char
  startsBlank : Bool
  stop : Mark

/-- What stands between the last line and the next one.  A folded scalar keeps
the break only beside a line that begins with a blank. -/
def BlockText.join (block : BlockText) (folded nextStartsBlank : Bool) : List Char :=
  if folded && block.lastBreak.head? == some '\n' && !block.startsBlank && !nextStartsBlank then
    foldedBreak block.lastBreak block.moreBreaks
  else
    block.lastBreak ++ block.moreBreaks

/-- Reads the lines that begin at the given depth. -/
def blockLines (began : Mark) (folded : Bool) (depth : Nat) : Nat → BlockText → Scan BlockText
  | 0, block => return block
  | steps + 1, block => do
      require 1
      let ahead ← peek
      if (← mark).column == depth && ahead.isSome then
        let startsBlank := ahead.any isBlank
        let join := block.join folded startsBlank
        let line ← runOf (!isBreak ·)
        require 2
        let lastBreak ← lineBreak
        let lines ← emptyLines began (some depth)
        blockLines began folded depth steps
          ⟨line.reverse ++ (join.reverse ++ block.reversed), lastBreak, lines.breaks.reverse,
            startsBlank, lines.stop⟩
      else return block

/-- A block scalar below a collection whose entries begin at column `indent`,
none at the top. -/
def blockScalarToken (folded : Bool) (indent : Option Nat) : Scan Token := do
  let began ← mark
  advance 1
  let (chomping, increment) ← blockHeader began
  require 1
  skipBlanks
  skipComment
  unless isBreakOrEnd (← peek) do
    fail .blockScalar began .missingLineEnd
  require 2
  let _ ← lineBreak
  let fixed := increment.map (indent.getD 0 + ·)
  let leading ← emptyLines began fixed
  let least := indent.elim 1 (· + 1)
  let depth := fixed.getD (max leading.deepest least)
  let block ← blockLines began folded depth (← bound)
    ⟨[], [], leading.breaks.reverse, false, leading.stop⟩
  let text := block.reversed.reverse ++ match chomping with
    | .strip => []
    | .clip => block.lastBreak
    | .keep => block.lastBreak ++ block.moreBreaks
  return ⟨.scalar (String.ofList text) (if folded then .folded else .literal), began, block.stop⟩

end MtaCheck.Yaml.Scan
