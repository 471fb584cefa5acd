import MtaCheck.Yaml.Mark

/-!
# Why a text is no YAML

A text fails either because its octets are no UTF-8 text of allowed characters
(`EncodingProblem`) or because its characters break a rule of the grammar
(`GrammarProblem`).  The second kind may name the construct that was being read
and where that construct began.
-/

namespace MtaCheck.Yaml

/-! ## The causes -/

/-- What is wrong with the octets of a text. -/
inductive EncodingProblem
  | leadingOctet
  | trailingOctet
  | incompleteSequence
  | overlongSequence
  | notACharacter
  | controlCharacter
deriving DecidableEq

/-- The wording of an encoding problem. -/
def EncodingProblem.message : EncodingProblem → String
  | .leadingOctet => "invalid leading UTF-8 octet"
  | .trailingOctet => "invalid trailing UTF-8 octet"
  | .incompleteSequence => "incomplete UTF-8 octet sequence"
  | .overlongSequence => "invalid length of a UTF-8 sequence"
  | .notACharacter => "invalid Unicode character"
  | .controlCharacter => "control characters are not allowed"

/-- What is wrong with the characters of a text. -/
inductive GrammarProblem
  -- between tokens
  | noTokenStart
  | missingColon
  | entryNotAllowed
  | keyNotAllowed
  | valueNotAllowed
  -- directives
  | unknownDirective
  | missingDirectiveName
  | badDirectiveName
  | missingLineEnd
  | missingVersionDot
  | longVersionNumber
  | missingVersionNumber
  | missingWhitespace
  | missingWhitespaceOrBreak
  -- anchors and tags
  | badAnchorName
  | missingTagBang
  | unclosedVerbatimTag
  | missingTagUri
  | badUriEscape
  | badUriLeadingOctet
  | badUriTrailingOctet
  -- scalars
  | zeroIndentation
  | tabAsIndentation
  | tabInIndentation
  | documentIndicatorInScalar
  | unclosedScalar
  | unknownEscape
  | badHexadecimal
  | badEscapedCharacter
  | unexpectedColon
  -- the arrangement of tokens
  | missingStreamStart
  | missingDocumentStart
  | duplicateVersion
  | unsupportedVersion
  | duplicateTagHandle
  | unknownTagHandle
  | missingNode
  | missingBlockEntry
  | missingBlockKey
  | missingFlowSequenceSeparator
  | missingFlowMappingSeparator
deriving DecidableEq

/-- The wording of a grammar problem. -/
def GrammarProblem.message : GrammarProblem → String
  | .noTokenStart => "found character that cannot start any token"
  | .missingColon => "could not find expected ':'"
  | .entryNotAllowed => "block sequence entries are not allowed in this context"
  | .keyNotAllowed => "mapping keys are not allowed in this context"
  | .valueNotAllowed => "mapping values are not allowed in this context"
  | .unknownDirective => "found unknown directive name"
  | .missingDirectiveName => "could not find expected directive name"
  | .badDirectiveName => "found unexpected non-alphabetical character"
  | .missingLineEnd => "did not find expected comment or line break"
  | .missingVersionDot => "did not find expected digit or '.' character"
  | .longVersionNumber => "found extremely long version number"
  | .missingVersionNumber => "did not find expected version number"
  | .missingWhitespace => "did not find expected whitespace"
  | .missingWhitespaceOrBreak => "did not find expected whitespace or line break"
  | .badAnchorName => "did not find expected alphabetic or numeric character"
  | .missingTagBang => "did not find expected '!'"
  | .unclosedVerbatimTag => "did not find the expected '>'"
  | .missingTagUri => "did not find expected tag URI"
  | .badUriEscape => "did not find URI escaped octet"
  | .badUriLeadingOctet => "found an incorrect leading UTF-8 octet"
  | .badUriTrailingOctet => "found an incorrect trailing UTF-8 octet"
  | .zeroIndentation => "found an indentation indicator equal to 0"
  | .tabAsIndentation => "found a tab character where an indentation space is expected"
  | .tabInIndentation => "found a tab character that violates indentation"
  | .documentIndicatorInScalar => "found unexpected document indicator"
  | .unclosedScalar => "found unexpected end of stream"
  | .unknownEscape => "found unknown escape character"
  | .badHexadecimal => "did not find expected hexadecimal number"
  | .badEscapedCharacter => "found invalid Unicode character escape code"
  | .unexpectedColon => "found unexpected ':'"
  | .missingStreamStart => "did not find expected <stream-start>"
  | .missingDocumentStart => "did not find expected <document start>"
  | .duplicateVersion => "found duplicate %YAML directive"
  | .unsupportedVersion => "found incompatible YAML document"
  | .duplicateTagHandle => "found duplicate %TAG directive"
  | .unknownTagHandle => "found undefined tag handle"
  | .missingNode => "did not find expected node content"
  | .missingBlockEntry => "did not find expected '-' indicator"
  | .missingBlockKey => "did not find expected key"
  | .missingFlowSequenceSeparator => "did not find expected ',' or ']'"
  | .missingFlowMappingSeparator => "did not find expected ',' or '\x7d'"

/-- The construct that was being read when a problem came up. -/
inductive Activity
  | nextToken
  | simpleKey
  | directive
  | versionDirective
  | tagDirective
  | tagDirectiveHandle
  | tagDirectiveName
  | tagDirectiveUri
  | anchor
  | reference
  | tag
  | tagUri
  | blockScalar
  | quotedScalar
  | quotedEscape
  | plainScalar
  | node
  | blockNode
  | flowNode
  | blockCollection
  | blockMapping
  | flowSequence
  | flowMapping
deriving DecidableEq

/-- The wording of an activity. -/
def Activity.message : Activity → String
  | .nextToken => "while scanning for the next token"
  | .simpleKey => "while scanning a simple key"
  | .directive => "while scanning a directive"
  | .versionDirective => "while scanning a %YAML directive"
  | .tagDirective => "while scanning a %TAG directive"
  | .tagDirectiveHandle => "while scanning a tag directive"
  | .tagDirectiveName => "while parsing a tag directive"
  | .tagDirectiveUri => "while parsing a %TAG directive"
  | .anchor => "while scanning an anchor"
  | .reference => "while scanning an alias"
  | .tag => "while scanning a tag"
  | .tagUri => "while parsing a tag"
  | .blockScalar => "while scanning a block scalar"
  | .quotedScalar => "while scanning a quoted scalar"
  | .quotedEscape => "while parsing a quoted scalar"
  | .plainScalar => "while scanning a plain scalar"
  | .node => "while parsing a node"
  | .blockNode => "while parsing a block node"
  | .flowNode => "while parsing a flow node"
  | .blockCollection => "while parsing a block collection"
  | .blockMapping => "while parsing a block mapping"
  | .flowSequence => "while parsing a flow sequence"
  | .flowMapping => "while parsing a flow mapping"

/-! ## The errors -/

/-- The construct that was being read, and where it began. -/
structure Context where
  activity : Activity
  began : Mark
deriving DecidableEq

/-- Why a text is no YAML, and where. -/
inductive SyntaxError
  | encoding (problem : EncodingProblem) (offset : Nat)
  | grammar (problem : GrammarProblem) (mark : Mark) (context : Option Context)
deriving DecidableEq

/-- The words for a context: its beginning is named only where it differs from
the place of the problem. -/
def Context.suffix (problemMark : Mark) (context : Context) : String :=
  let place := if context.began.line == problemMark.line
      && context.began.column == problemMark.column then "" else context.began.suffix
  s!", {context.activity.message}{place}"

/-- The text of a syntax error: the problem, its place, and the context.  The
place of an encoding problem is an offset in octets, shown unless it is zero. -/
def SyntaxError.message : SyntaxError → String
  | .encoding problem offset =>
      if offset == 0 then problem.message else s!"{problem.message} at position {offset}"
  | .grammar problem mark context =>
      problem.message ++ mark.suffix ++ (context.elim "" (Context.suffix mark))

/-- An error inside the construct `activity` that began at `began`. -/
def SyntaxError.within (activity : Activity) (began : Mark) (problem : GrammarProblem)
    (mark : Mark) : SyntaxError :=
  .grammar problem mark (some ⟨activity, began⟩)

end MtaCheck.Yaml
