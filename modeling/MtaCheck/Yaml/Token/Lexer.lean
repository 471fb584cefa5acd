import MtaCheck.Yaml.Token.Directive
import MtaCheck.Yaml.Token.FlowScalar

/-!
# From characters to tokens

The lexer turns the characters of a text into tokens.  Two things make that more
than a concatenation of the rules for single tokens.

* **Indentation.**  Outside flow collections a deeper column opens a block
  collection and a shallower one closes it; `indents` holds the columns of the
  open ones.
* **Simple keys.**  `a: b` shows only at the colon that `a` was a key.  Every
  token that could be one is remembered in `keys`, one for each level of flow
  collections, and the colon inserts the key token in front of it.

`Lexer.release` says which tokens are settled: those in front of every token that
may still turn out to be a key.  If the text breaks off with an error, exactly
the settled tokens come before the error.
-/

namespace MtaCheck.Yaml

/-- A token that may turn out to be a key: how many tokens come before it, where
it stands, and whether it must be a key. -/
structure PossibleKey where
  position : Nat
  mark : Mark
  required : Bool

/-- A text on its way into tokens. -/
structure Lexer where
  cursor : Cursor
  /-- The tokens so far, newest first. -/
  tokens : List Token
  /-- How many tokens there are so far. -/
  count : Nat
  /-- The columns of the open block collections, innermost first. -/
  indents : List Nat
  /-- The possible key of the innermost flow collection, or outside of all. -/
  key : Option PossibleKey
  /-- The possible keys of the collections around it, innermost first. -/
  outerKeys : List (Option PossibleKey)
  /-- Whether a key without a question mark may begin here. -/
  keyAllowed : Bool
  /-- Whether the end of the text has been reached. -/
  finished : Bool

/-- The tokens of a text up to its end, or up to the error that stands behind
them. -/
structure TokenStream where
  tokens : List Token
  failure : Option SyntaxError

/-- Actions of the lexer. -/
abbrev Lex := StateT Lexer (Except SyntaxError)

/-- The longest simple key, in octets. -/
def simpleKeyLimit : Nat := 1024

namespace Lexer

/-- The lexer at the beginning of a text. -/
def ofSource (source : Source) : Lexer :=
  ⟨.ofSource source, [⟨.streamStart, .start, .start⟩], 1, [], none, [], true, false⟩

/-- Where the lexer stands. -/
def mark (lexer : Lexer) : Mark := lexer.cursor.mark

/-- Whether the lexer is inside a flow collection. -/
def inFlow (lexer : Lexer) : Bool := !lexer.outerKeys.isEmpty

/-- Appends a token. -/
def push (lexer : Lexer) (token : Token) : Lexer :=
  { lexer with tokens := token :: lexer.tokens, count := lexer.count + 1 }

/-- Inserts a token in front of the token at `position`. -/
def insertAt (lexer : Lexer) (position : Nat) (token : Token) : Lexer :=
  { lexer with
    tokens := lexer.tokens.insertIdx (lexer.count - position) token
    count := lexer.count + 1 }

/-! ## Simple keys -/

/-- The error of a key whose colon is missing. -/
def missingColon (lexer : Lexer) (key : PossibleKey) : SyntaxError :=
  .within .simpleKey key.mark .missingColon lexer.mark

/-- Whether a token can no longer be a key: a key stands on one line and is not
too long. -/
def isStale (lexer : Lexer) (key : PossibleKey) : Bool :=
  key.mark.line < lexer.mark.line || key.mark.index + simpleKeyLimit < lexer.mark.index

/-- A possible key, unless it has become stale. -/
def refreshKey (lexer : Lexer) : Option PossibleKey → Except SyntaxError (Option PossibleKey)
  | none => .ok none
  | some key =>
      if lexer.isStale key then
        if key.required then .error (lexer.missingColon key) else .ok none
      else .ok (some key)

/-- Forgets the stale keys of all levels, the outermost first. -/
def dropStaleKeys (lexer : Lexer) : Except SyntaxError Lexer := do
  let outer ← lexer.outerKeys.reverse.mapM lexer.refreshKey
  let key ← lexer.refreshKey lexer.key
  return { lexer with key := key, outerKeys := outer.reverse }

/-- Forgets the possible key of this level, which must not be a required one. -/
def dropKey (lexer : Lexer) : Except SyntaxError Lexer :=
  match lexer.key with
  | some key =>
      if key.required then .error (lexer.missingColon key) else .ok { lexer with key := none }
  | none => .ok lexer

/-- Remembers that the next token may be a key.  Outside flow collections a token
at the column of the innermost block collection has to be one. -/
def saveKey (lexer : Lexer) : Except SyntaxError Lexer := do
  if lexer.keyAllowed then
    let required := !lexer.inFlow && lexer.indents.head? == some lexer.mark.column
    let lexer ← lexer.dropKey
    return { lexer with key := some ⟨lexer.count, lexer.mark, required⟩ }
  else return lexer

/-- How many tokens are settled. -/
def settled (lexer : Lexer) : Nat :=
  (lexer.key :: lexer.outerKeys).foldl (fun least key =>
    key.elim least (fun key => min least key.position)) lexer.count

/-- The settled tokens in their order. -/
def release (lexer : Lexer) : List Token :=
  (lexer.tokens.drop (lexer.count - lexer.settled)).reverse

/-! ## Indentation -/

/-- Opens a block collection at `column` unless one is open there already.  Its
token goes in front of the token at `position`, or to the end. -/
def openBlock (lexer : Lexer) (column : Nat) (position : Option Nat) (kind : TokenKind)
    (mark : Mark) : Lexer :=
  if lexer.inFlow || lexer.indents.head?.any (column ≤ ·) then lexer
  else
    let lexer := { lexer with indents := column :: lexer.indents }
    match position with
    | none => lexer.push ⟨kind, mark, mark⟩
    | some position => lexer.insertAt position ⟨kind, mark, mark⟩

/-- Closes the block collections that are indented deeper than `column`, or all
of them. -/
def closeBlocks (lexer : Lexer) (column : Option Nat) : Lexer :=
  if lexer.inFlow then lexer
  else
    let closed := lexer.indents.takeWhile fun indent => column.all (· < indent)
    let lexer := closed.foldl (fun lexer _ => lexer.push ⟨.blockEnd, lexer.mark, lexer.mark⟩) lexer
    { lexer with indents := lexer.indents.drop closed.length }

end Lexer

namespace Lex

/-! ## Parts of an action -/

/-- Runs a pure step that may fail. -/
def step (change : Lexer → Except SyntaxError Lexer) : Lex Unit := do
  set (← change (← get))

/-- Runs a scan at the place of the lexer. -/
def scan {α : Type} (action : Scan α) : Lex α := do
  let lexer ← get
  let (result, cursor) ← action.run lexer.cursor
  set { lexer with cursor := cursor }
  return result

/-- Says whether a simple key may begin behind this token. -/
def allowKey (allowed : Bool) : Lex Unit :=
  modify ({ · with keyAllowed := allowed })

/-- Appends a token that takes the next `width` characters. -/
def indicator (kind : TokenKind) (width : Nat) : Lex Unit := do
  let began := (← get).mark
  scan (Scan.advance width)
  modify fun lexer => lexer.push ⟨kind, began, lexer.mark⟩

/-- Stops because a token is not allowed here. -/
def refuse (problem : GrammarProblem) : Lex Unit := do
  throw (.grammar problem (← get).mark none)

/-! ## The kinds of tokens -/

/-- The end of the text, which counts as a new line. -/
def streamEnd : Lex Unit := do
  modify fun lexer =>
    if lexer.mark.column == 0 then lexer
    else
      let mark := lexer.mark
      { lexer with cursor := { lexer.cursor with mark := ⟨mark.index, mark.line + 1, 0⟩ } }
  modify (·.closeBlocks none)
  step Lexer.dropKey
  allowKey false
  modify fun lexer =>
    { lexer.push ⟨.streamEnd, lexer.mark, lexer.mark⟩ with finished := true }

/-- A directive. -/
def directive : Lex Unit := do
  modify (·.closeBlocks none)
  step Lexer.dropKey
  allowKey false
  let token ← scan Scan.directiveToken
  modify (·.push token)

/-- Three hyphens or three dots. -/
def documentIndicator (kind : TokenKind) : Lex Unit := do
  modify (·.closeBlocks none)
  step Lexer.dropKey
  allowKey false
  indicator kind 3

/-- An opening bracket or brace: what it opens may be a key. -/
def openFlow (kind : TokenKind) : Lex Unit := do
  step Lexer.saveKey
  modify fun lexer => { lexer with key := none, outerKeys := lexer.key :: lexer.outerKeys }
  allowKey true
  indicator kind 1

/-- A closing bracket or brace. -/
def closeFlow (kind : TokenKind) : Lex Unit := do
  step Lexer.dropKey
  modify fun lexer =>
    match lexer.outerKeys with
    | [] => lexer
    | key :: outer => { lexer with key := key, outerKeys := outer }
  allowKey false
  indicator kind 1

/-- A comma. -/
def flowEntry : Lex Unit := do
  step Lexer.dropKey
  allowKey true
  indicator .flowEntry 1

/-- A hyphen.  In a flow collection it is a token all the same, and wrong there. -/
def blockEntry : Lex Unit := do
  let lexer ← get
  unless lexer.inFlow do
    unless lexer.keyAllowed do refuse .entryNotAllowed
    modify fun lexer => lexer.openBlock lexer.mark.column none .blockSequenceStart lexer.mark
  step Lexer.dropKey
  allowKey true
  indicator .blockEntry 1

/-- A question mark. -/
def explicitKey : Lex Unit := do
  let lexer ← get
  unless lexer.inFlow do
    unless lexer.keyAllowed do refuse .keyNotAllowed
    modify fun lexer => lexer.openBlock lexer.mark.column none .blockMappingStart lexer.mark
  step Lexer.dropKey
  allowKey (!lexer.inFlow)
  indicator .key 1

/-- A colon.  It makes a key of the possible key, if there is one. -/
def mappingValue : Lex Unit := do
  let lexer ← get
  match lexer.key with
  | some key =>
      let lexer := lexer.insertAt key.position ⟨.key, key.mark, key.mark⟩
      let lexer := lexer.openBlock key.mark.column (some key.position) .blockMappingStart key.mark
      set { lexer with key := none }
      allowKey false
  | none =>
      unless lexer.inFlow do
        unless lexer.keyAllowed do refuse .valueNotAllowed
        modify fun lexer => lexer.openBlock lexer.mark.column none .blockMappingStart lexer.mark
      allowKey (!lexer.inFlow)
  indicator .value 1

/-- A name behind `&` or `*`. -/
def anchor (activity : Activity) (kind : String → TokenKind) : Lex Unit := do
  step Lexer.saveKey
  allowKey false
  let began := (← get).mark
  let name ← scan (Scan.anchorName activity)
  modify fun lexer => lexer.push ⟨kind name, began, lexer.mark⟩

/-- A tag. -/
def tag : Lex Unit := do
  step Lexer.saveKey
  allowKey false
  let lexer ← get
  let kind ← scan (Scan.tagToken lexer.inFlow)
  modify fun after => after.push ⟨kind, lexer.mark, after.mark⟩

/-- A literal or folded scalar. -/
def blockScalar (folded : Bool) : Lex Unit := do
  step Lexer.dropKey
  allowKey true
  let token ← scan (Scan.blockScalarToken folded (← get).indents.head?)
  modify (·.push token)

/-- A quoted scalar. -/
def quotedScalar (single : Bool) : Lex Unit := do
  step Lexer.saveKey
  allowKey false
  let token ← scan (Scan.quotedScalarToken single)
  modify (·.push token)

/-- A plain scalar.  Behind a line break a key may begin again. -/
def plainScalar : Lex Unit := do
  step Lexer.saveKey
  allowKey false
  let lexer ← get
  let (token, broken) ← scan (Scan.plainScalarToken lexer.inFlow lexer.indents.head?)
  if broken then allowKey true
  modify (·.push token)

/-! ## The next token -/

/-- Passes blanks, comments and line breaks.  A tab at a place where a key may
begin is not passed.  A byte order mark at the beginning of the text is. -/
def skipToToken : Nat → Lex Unit
  | 0 => pure ()
  | steps + 1 => do
      scan (Scan.require 1)
      let lexer ← get
      if lexer.mark.index == 0 && (← scan (Scan.startsWith '\ufeff')) then
        scan (Scan.advance 1)
      let passesTabs := lexer.inFlow || !lexer.keyAllowed
      scan do
        let _ ← Scan.runOf fun char => char == ' ' || (passesTabs && char == '\t')
        Scan.skipComment
      if (← scan Scan.peek).any isBreak then
        scan do
          Scan.require 2
          let _ ← Scan.lineBreak
        unless lexer.inFlow do allowKey true
        skipToToken steps

/-- Whether a plain scalar may begin with `char`, before `next`. -/
def startsPlain (inFlow : Bool) (char : Char) (next : Option Char) : Bool :=
  !(isBlank char || isBreak char || "-?:,[]\x7b\x7d#&*!|>'\"%@\x60".toList.contains char)
    || (char == '-' && !next.any isBlank)
    || (!inFlow && (char == '?' || char == ':') && !isBlankOrEnd next)

/-- The token that begins with `char` where the lexer stands. -/
def tokenAt (char : Char) : Lex Unit := do
  let lexer ← get
  let next ← scan (Scan.peekAt 1)
  let inFlow := lexer.inFlow
  let spaced := isBlankOrEnd next
  if lexer.mark.column == 0 && char == '%' then directive
  else if ← scan Scan.atDocumentIndicator then
    documentIndicator (if char == '-' then .documentStart else .documentEnd)
  else if char == '[' then openFlow .flowSequenceStart
  else if char == '\x7b' then openFlow .flowMappingStart
  else if char == ']' then closeFlow .flowSequenceEnd
  else if char == '\x7d' then closeFlow .flowMappingEnd
  else if char == ',' then flowEntry
  else if char == '-' && spaced then blockEntry
  else if char == '?' && (inFlow || spaced) then explicitKey
  else if char == ':' && (inFlow || spaced) then mappingValue
  else if char == '*' then anchor .reference .reference
  else if char == '&' then anchor .anchor .anchor
  else if char == '!' then tag
  else if char == '|' && !inFlow then blockScalar false
  else if char == '>' && !inFlow then blockScalar true
  else if char == '\'' then quotedScalar true
  else if char == '"' then quotedScalar false
  else if startsPlain inFlow char next then plainScalar
  else scan (Scan.fail .nextToken lexer.mark .noTokenStart)

/-- Reads the next token and what comes before it. -/
def nextToken : Lex Unit := do
  skipToToken (← get).cursor.bound
  step Lexer.dropStaleKeys
  modify fun lexer => lexer.closeBlocks (some lexer.mark.column)
  scan (Scan.require 4)
  match ← scan Scan.peek with
  | none => streamEnd
  | some char => tokenAt char
  step Lexer.dropStaleKeys

end Lex

namespace Lexer

/-- Reads on until the text ends or breaks off.  The first argument bounds the
number of tokens. -/
def run : Nat → Lexer → TokenStream
  | 0, lexer => ⟨lexer.release, none⟩
  | steps + 1, lexer =>
      if lexer.finished then ⟨lexer.release, none⟩
      else match Lex.nextToken.run lexer with
        | .error failure => ⟨lexer.release, some failure⟩
        | .ok (_, lexer) => run steps lexer

end Lexer

/-- The tokens of a text. -/
def TokenStream.ofSource (source : Source) : TokenStream :=
  Lexer.run (source.characters.length + 2) (.ofSource source)

end MtaCheck.Yaml
