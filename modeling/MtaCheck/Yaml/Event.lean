import MtaCheck.Yaml.Token.Lexer

/-!
# From tokens to events

The tokens of a text are arranged into events: values in the order in which they
begin, with the ends of sequences and mappings.  The grammar is a stack of
productions still to be completed; `Grammar.step` completes the innermost one up
to its next event.

A missing value is an event too: an empty plain scalar at the place where the
value would begin.
-/

namespace MtaCheck.Yaml

/-- A scalar as it is written. -/
structure Scalar where
  text : String
  style : ScalarStyle
  tag : Option TagOctets

/-- What an event is.  A value may carry an anchor, by which references to it
are made. -/
inductive EventKind
  | streamStart
  | streamEnd
  | documentStart
  | documentEnd
  | reference (name : String)
  | scalar (anchor : Option String) (scalar : Scalar)
  | sequenceStart (anchor : Option String) (tag : Option TagOctets)
  | sequenceEnd
  | mappingStart (anchor : Option String) (tag : Option TagOctets)
  | mappingEnd

/-- An event and the place where it begins. -/
structure Event where
  kind : EventKind
  mark : Mark

/-- The events of a text up to its end, or up to the error that stands behind
them. -/
structure EventStream where
  events : List Event
  failure : Option SyntaxError

/-! ## Productions -/

/-- A part of the grammar that is still to be completed.  `first` marks the part
of a collection right behind its opening token. -/
inductive Production
  | stream
  | document (implicit : Bool)
  | documentContent
  | documentEnd
  | blockNode
  | blockSequenceEntry (first : Bool)
  | indentlessSequenceEntry
  | blockMappingKey (first : Bool)
  | blockMappingValue
  | flowSequenceEntry (first : Bool)
  | flowPairKey
  | flowPairValue
  | flowPairEnd
  | flowMappingKey (first : Bool)
  | flowMappingValue (empty : Bool)
  | done

/-- The state of the arrangement: the tokens ahead and the error behind the last
of them, the production in work and those around it, the places where the open
collections begin, and the tag handles of the document. -/
structure Grammar where
  tokens : List Token
  failure : Option SyntaxError
  production : Production
  outer : List Production
  marks : List Mark
  handles : List (String × TagOctets)

/-- Actions of the grammar. -/
abbrev Arrange := StateT Grammar (Except SyntaxError)

/-- The octets of a text. -/
def tagOctets (text : String) : TagOctets := text.toUTF8.data.toList

/-- The handles that every document knows. -/
def standardHandles : List (String × TagOctets) :=
  [("!", tagOctets "!"), ("!!", tagOctets "tag:yaml.org,2002:")]

namespace Arrange

/-! ## Parts of an action -/

/-- The next token. -/
def peek : Arrange Token := do
  let grammar ← get
  match grammar.tokens with
  | token :: _ => return token
  | [] => throw (grammar.failure.getD (.grammar .missingStreamStart .start none))

/-- Passes the next token. -/
def pass : Arrange Unit :=
  modify fun grammar => { grammar with tokens := grammar.tokens.tail }

/-- Goes on with a production. -/
def continueWith (production : Production) : Arrange Unit :=
  modify ({ · with production := production })

/-- Puts a production behind the one that comes next. -/
def defer (production : Production) : Arrange Unit :=
  modify fun grammar => { grammar with outer := production :: grammar.outer }

/-- Goes on with the production around this one. -/
def resume : Arrange Unit :=
  modify fun grammar =>
    { grammar with production := grammar.outer.head?.getD .done, outer := grammar.outer.tail }

/-- Remembers where a collection begins. -/
def enter (mark : Mark) : Arrange Unit :=
  modify fun grammar => { grammar with marks := mark :: grammar.marks }

/-- Forgets where the innermost collection begins. -/
def leave : Arrange Unit :=
  modify fun grammar => { grammar with marks := grammar.marks.tail }

/-- Stops with a problem at `mark`, inside the innermost collection. -/
def failInside (activity : Activity) (problem : GrammarProblem) (mark : Mark) : Arrange Event := do
  throw (.within activity ((← get).marks.head?.getD .start) problem mark)

/-- The event of a missing value. -/
def missingValue (mark : Mark) : Arrange Event :=
  return ⟨.scalar none ⟨"", .plain, none⟩, mark⟩

/-- Ends the innermost collection, whose last token comes next. -/
def closeWith (kind : EventKind) : Arrange Event := do
  let token ← peek
  resume
  leave
  pass
  return ⟨kind, token.start⟩

/-! ## Values -/

/-- What stands in front of a value. -/
structure Properties where
  anchor : Option String
  tag : Option (Mark × String × TagOctets)
  start : Mark

/-- Reads an anchor, if one comes next. -/
def anchor? : Arrange (Option String) := do
  match (← peek).kind with
  | .anchor name => pass; return some name
  | _ => return none

/-- Reads a tag, if one comes next. -/
def tag? : Arrange (Option (Mark × String × TagOctets)) := do
  let token ← peek
  match token.kind with
  | .tag handle suffix => pass; return some (token.start, handle, suffix)
  | _ => return none

/-- Reads an anchor and a tag in either order. -/
def properties : Arrange Properties := do
  let start := (← peek).start
  match ← anchor? with
  | some name => return ⟨some name, ← tag?, start⟩
  | none =>
      match ← tag? with
      | some tag => return ⟨← anchor?, some tag, start⟩
      | none => return ⟨none, none, start⟩

/-- The octets of a tag, whose handle must be known. -/
def resolveTag (start : Mark) : Option (Mark × String × TagOctets) → Arrange (Option TagOctets)
  | none => return none
  | some (mark, handle, suffix) => do
      if handle.isEmpty then return some suffix
      match (← get).handles.lookup handle with
      | some expansion => return some (expansion ++ suffix)
      | none => throw (.within .node start .unknownTagHandle mark)

/-- The tag of a scalar: an exclamation mark alone says no more than none. -/
def scalarTag (tag : Option TagOctets) : Option TagOctets :=
  tag.filter (· != tagOctets "!")

/-- A value: a reference, a scalar, or the beginning of a collection.  Block
collections are allowed only where `block` says so, and a block sequence that is
not indented only as the value of a mapping. -/
def node (block indentless : Bool) : Arrange Event := do
  let token ← peek
  match token.kind with
  | .reference name =>
      resume
      pass
      return ⟨.reference name, token.start⟩
  | _ =>
      let found ← properties
      let token ← peek
      let tag ← resolveTag found.start found.tag
      let start := found.start
      match token.kind, indentless, block with
      | .blockEntry, true, _ =>
          continueWith .indentlessSequenceEntry
          return ⟨.sequenceStart found.anchor tag, start⟩
      | .scalar text style, _, _ =>
          resume
          pass
          return ⟨.scalar found.anchor ⟨text, style, scalarTag tag⟩, start⟩
      | .flowSequenceStart, _, _ =>
          continueWith (.flowSequenceEntry true)
          return ⟨.sequenceStart found.anchor tag, start⟩
      | .flowMappingStart, _, _ =>
          continueWith (.flowMappingKey true)
          return ⟨.mappingStart found.anchor tag, start⟩
      | .blockSequenceStart, _, true =>
          continueWith (.blockSequenceEntry true)
          return ⟨.sequenceStart found.anchor tag, start⟩
      | .blockMappingStart, _, true =>
          continueWith (.blockMappingKey true)
          return ⟨.mappingStart found.anchor tag, start⟩
      | _, _, _ =>
          if found.anchor.isSome || tag.isSome then
            resume
            return ⟨.scalar found.anchor ⟨"", .plain, tag⟩, start⟩
          else
            throw (.within (if block then .blockNode else .flowNode) start .missingNode token.start)

/-! ## Documents -/

/-- Adds a tag handle of a directive, which must be new. -/
def addHandle (mark : Mark) (handle : String) (expansion : TagOctets) : Arrange Unit := do
  let grammar ← get
  if (grammar.handles.lookup handle).isSome then
    throw (.grammar .duplicateTagHandle mark none)
  set { grammar with handles := grammar.handles ++ [(handle, expansion)] }

/-- Adds the standard handles that no directive has changed. -/
def addStandardHandles : Arrange Unit :=
  modify fun grammar =>
    let missing := standardHandles.filter fun entry => (grammar.handles.lookup entry.1).isNone
    { grammar with handles := grammar.handles ++ missing }

/-- Reads the directives of a document.  `versioned` says whether a version has
been given already; versions 1.1 and 1.2 are known. -/
def directives : Nat → (versioned : Bool) → Arrange Unit
  | 0, _ => pure ()
  | steps + 1, versioned => do
      let token ← peek
      match token.kind with
      | .versionDirective major minor =>
          if versioned then
            throw (.grammar .duplicateVersion token.start none)
          if major != 1 || (minor != 1 && minor != 2) then
            throw (.grammar .unsupportedVersion token.start none)
          pass
          directives steps true
      | .tagDirective handle expansion =>
          addHandle token.start handle expansion
          pass
          directives steps versioned
      | _ => pure ()

/-- Passes the ends of documents that come before another one. -/
def passDocumentEnds : Nat → Arrange Unit
  | 0 => pure ()
  | steps + 1 => do
      match (← peek).kind with
      | .documentEnd => pass; passDocumentEnds steps
      | _ => pure ()

/-- Whether a token can only stand in front of a document or behind it. -/
def endsDocument : TokenKind → Bool
  | .versionDirective _ _ | .tagDirective _ _ | .documentStart | .documentEnd | .streamEnd => true
  | _ => false

/-- The beginning of a document, or the end of the stream.  Only the first
document may come without a marker. -/
def document (implicit : Bool) : Arrange Event := do
  unless implicit do
    passDocumentEnds (← get).tokens.length
  let token ← peek
  match token.kind with
  | .streamEnd =>
      continueWith .done
      pass
      return ⟨.streamEnd, token.start⟩
  | kind =>
      if implicit && (!endsDocument kind || kind == .documentEnd) then
        addStandardHandles
        defer .documentEnd
        continueWith .blockNode
        return ⟨.documentStart, token.start⟩
      else
        directives (← get).tokens.length false
        addStandardHandles
        let opening ← peek
        if opening.kind != .documentStart then
          throw (.grammar .missingDocumentStart opening.start none)
        defer .documentEnd
        continueWith .documentContent
        pass
        return ⟨.documentStart, token.start⟩

/-- The contents of a document behind its marker. -/
def documentContent : Arrange Event := do
  let token ← peek
  if endsDocument token.kind then
    resume
    missingValue token.start
  else node true false

/-- The end of a document, with or without a marker.  Its tag handles are
forgotten. -/
def documentEnd : Arrange Event := do
  let token ← peek
  if token.kind == .documentEnd then pass
  modify ({ · with handles := [] })
  continueWith (.document false)
  return ⟨.documentEnd, token.start⟩

/-! ## Block collections -/

/-- Reads what follows an indicator that ends at `mark`: a value, or nothing if
the next token is one of `ends`. -/
def valueOrMissing (ends : List TokenKind) (mark : Mark) (next : Production)
    (value : Arrange Event) : Arrange Event := do
  if ends.contains (← peek).kind then
    continueWith next
    missingValue mark
  else
    defer next
    value

/-- An entry of a block sequence, or its end. -/
def blockSequenceEntry (first : Bool) : Arrange Event := do
  if first then
    enter (← peek).start
    pass
  let token ← peek
  match token.kind with
  | .blockEntry =>
      pass
      valueOrMissing [.blockEntry, .blockEnd] token.stop (.blockSequenceEntry false)
        (node true false)
  | .blockEnd => closeWith .sequenceEnd
  | _ => failInside .blockCollection .missingBlockEntry token.start

/-- An entry of a block sequence that is not indented, or its end. -/
def indentlessSequenceEntry : Arrange Event := do
  let token ← peek
  match token.kind with
  | .blockEntry =>
      pass
      valueOrMissing [.blockEntry, .key, .value, .blockEnd] token.stop .indentlessSequenceEntry
        (node true false)
  | _ =>
      resume
      return ⟨.sequenceEnd, token.start⟩

/-- A key of a block mapping, or its end. -/
def blockMappingKey (first : Bool) : Arrange Event := do
  if first then
    enter (← peek).start
    pass
  let token ← peek
  match token.kind with
  | .key =>
      pass
      valueOrMissing [.key, .value, .blockEnd] token.stop .blockMappingValue (node true true)
  | .blockEnd => closeWith .mappingEnd
  | _ => failInside .blockMapping .missingBlockKey token.start

/-- The value of a key of a block mapping. -/
def blockMappingValue : Arrange Event := do
  let token ← peek
  match token.kind with
  | .value =>
      pass
      valueOrMissing [.key, .value, .blockEnd] token.stop (.blockMappingKey false)
        (node true true)
  | _ =>
      continueWith (.blockMappingKey false)
      missingValue token.start

/-! ## Flow collections -/

/-- Passes the comma in front of an entry that is not the first. -/
def separator (first : Bool) (close : TokenKind) (activity : Activity)
    (problem : GrammarProblem) : Arrange Unit := do
  let token ← peek
  unless first || token.kind == close do
    if token.kind == .flowEntry then pass
    else let _ ← failInside activity problem token.start

/-- An entry of a flow sequence, or its end.  An entry that begins with a key is
a mapping of one pair. -/
def flowSequenceEntry (first : Bool) : Arrange Event := do
  if first then
    enter (← peek).start
    pass
  separator first .flowSequenceEnd .flowSequence .missingFlowSequenceSeparator
  let token ← peek
  match token.kind with
  | .flowSequenceEnd => closeWith .sequenceEnd
  | .key =>
      continueWith .flowPairKey
      pass
      return ⟨.mappingStart none none, token.start⟩
  | _ =>
      defer (.flowSequenceEntry false)
      node false false

/-- The key of a pair in a flow sequence.  Where it is missing, the token in its
place is passed. -/
def flowPairKey : Arrange Event := do
  let token ← peek
  if [TokenKind.value, .flowEntry, .flowSequenceEnd].contains token.kind then
    pass
    continueWith .flowPairValue
    missingValue token.stop
  else
    defer .flowPairValue
    node false false

/-- The value of a pair in a flow sequence. -/
def flowPairValue : Arrange Event := do
  let token ← peek
  if token.kind == .value then
    pass
    valueOrMissing [.flowEntry, .flowSequenceEnd] (← peek).start .flowPairEnd (node false false)
  else
    continueWith .flowPairEnd
    missingValue token.start

/-- The end of a pair in a flow sequence. -/
def flowPairEnd : Arrange Event := do
  let token ← peek
  continueWith (.flowSequenceEntry false)
  return ⟨.mappingEnd, token.start⟩

/-- A key of a flow mapping, or its end.  An entry without an indicator is a key
without a value. -/
def flowMappingKey (first : Bool) : Arrange Event := do
  if first then
    enter (← peek).start
    pass
  separator first .flowMappingEnd .flowMapping .missingFlowMappingSeparator
  let token ← peek
  match token.kind with
  | .flowMappingEnd => closeWith .mappingEnd
  | .key =>
      pass
      valueOrMissing [.value, .flowEntry, .flowMappingEnd] (← peek).start (.flowMappingValue false)
        (node false false)
  | _ =>
      defer (.flowMappingValue true)
      node false false

/-- The value of a key of a flow mapping. -/
def flowMappingValue (empty : Bool) : Arrange Event := do
  let token ← peek
  if !empty && token.kind == .value then
    pass
    valueOrMissing [.flowEntry, .flowMappingEnd] (← peek).start (.flowMappingKey false)
      (node false false)
  else
    continueWith (.flowMappingKey false)
    missingValue token.start

end Arrange

namespace Grammar

/-! ## The next event -/

/-- Completes the production in work up to its next event. -/
def step (production : Production) : Arrange Event :=
  match production with
  | .stream => do
      let token ← Arrange.peek
      Arrange.continueWith (.document true)
      Arrange.pass
      return ⟨.streamStart, token.start⟩
  | .document implicit => Arrange.document implicit
  | .documentContent => Arrange.documentContent
  | .documentEnd => Arrange.documentEnd
  | .blockNode => Arrange.node true false
  | .blockSequenceEntry first => Arrange.blockSequenceEntry first
  | .indentlessSequenceEntry => Arrange.indentlessSequenceEntry
  | .blockMappingKey first => Arrange.blockMappingKey first
  | .blockMappingValue => Arrange.blockMappingValue
  | .flowSequenceEntry first => Arrange.flowSequenceEntry first
  | .flowPairKey => Arrange.flowPairKey
  | .flowPairValue => Arrange.flowPairValue
  | .flowPairEnd => Arrange.flowPairEnd
  | .flowMappingKey first => Arrange.flowMappingKey first
  | .flowMappingValue empty => Arrange.flowMappingValue empty
  | .done => throw (.grammar .missingStreamStart .start none)

/-- The events from here on.  The first argument bounds their number. -/
def run : Nat → Grammar → EventStream
  | 0, _ => ⟨[], none⟩
  | steps + 1, grammar =>
      match grammar.production with
      | .done => ⟨[], none⟩
      | production =>
          match (step production).run grammar with
          | .error failure => ⟨[], some failure⟩
          | .ok (event, grammar) =>
              let following := run steps grammar
              ⟨event :: following.events, following.failure⟩

end Grammar

/-- The events of a text.  A token gives rise to at most three of them. -/
def EventStream.ofTokens (stream : TokenStream) : EventStream :=
  Grammar.run (4 * stream.tokens.length + 4)
    ⟨stream.tokens, stream.failure, .stream, [], [], []⟩

end MtaCheck.Yaml
