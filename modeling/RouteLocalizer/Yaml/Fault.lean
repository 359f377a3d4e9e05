/-
  Why a text is NO YAML, and where.

  A fault is a reason and a PLACE: how many characters stand in front of it, its line, counted from
  one, and how many characters stand in front of it on that line.  The first of the numbers is
  called bytes by the message.
-/
import RouteLocalizer.Text.Basic

namespace RouteLocalizer.Yaml

open Text

/-- A place in a text. -/
structure Place where
  index : Nat := 0
  line : Nat := 1
  column : Nat := 0
deriving DecidableEq, Repr

/-- What is wrong with a text that should be YAML. -/
inductive Reason where
  -- white space and indentation
  | tabIndentation
  | tab
  | missingSpace
  | commentSpace
  | indentation
  | bracketIndentation
  -- keys and values
  | keyWithoutColon
  | missingKeyToken
  | key
  | value
  | colonLine
  | colonSpace
  | colonBracket
  -- items
  | dash
  | dashInBrackets
  | dashSpace
  | anchorIndentation
  | tooDeep
  -- directives
  | directiveName
  | directiveLetter
  | directiveEnd
  | versionPoint
  | versionLong
  | versionNumber
  -- tags and anchors
  | tagMark
  | tagDirectiveMark
  | globalTag
  | tagDirectiveEnd
  | verbatimEnd
  | tagName
  | tagEnd
  | octet
  | leadingOctet
  | trailingOctet
  | tagCode
  | anchorName
  -- scalars
  | unexpectedChar (char : Char)
  | zeroIndentation
  | blockHeader
  | blockTab
  | blockLine
  | quotedDocument
  | quotedEnd
  | quotedIndentation
  | quotedTab
  | behindQuote
  | unknownEscape
  | escapeDigits
  | escapeCode
  | plainDash
  | plainTab
  | plainEnd
  -- documents and nodes
  | behindDocument
  | documentStart
  | documentEnd
  | secondVersion
  | unknownHandle
  | unknownAnchor
  | missingNode
  | missingKey
  | missingDash
  | missingBrace
  | missingBracket
  | endOfTokens
  /-- A key, as a message shows it, stands in a mapping for the second time. -/
  | secondKey (shown : Text)
deriving DecidableEq, Repr

/-- What a reason says. -/
def Reason.message : Reason → Text
  | .tabIndentation => "tabs disallowed within this context (block indentation)"
  | .tab => "tabs disallowed in this context"
  | .missingSpace => "expected whitespace"
  | .commentSpace => "comments must be separated from other tokens by whitespace"
  | .indentation => "invalid indentation"
  | .bracketIndentation => "invalid indentation in flow construct"
  | .keyWithoutColon => "simple key expect ':'"
  | .missingKeyToken => "simple key expected"
  | .key => "mapping keys are not allowed in this context"
  | .value => "mapping values are not allowed in this context"
  | .colonLine => "illegal placement of ':' indicator"
  | .colonSpace => "':' must be followed by a valid YAML whitespace"
  | .colonBracket => "':' may not precede any of \x60[\x7b\x60 in flow mapping"
  | .dash => "block sequence entries are not allowed in this context"
  | .dashInBrackets => "\"-\" is only valid inside a block"
  | .dashSpace => "'-' must be followed by a valid YAML whitespace"
  | .anchorIndentation => "invalid indentation for anchor"
  | .tooDeep => "recursion limit exceeded"
  | .directiveName => "while scanning a directive, could not find expected directive name"
  | .directiveLetter =>
    "while scanning a directive, found unexpected non-alphabetical character"
  | .directiveEnd => "while scanning a directive, did not find expected comment or line break"
  | .versionPoint =>
    "while scanning a YAML directive, did not find expected digit or '.' character"
  | .versionLong => "while scanning a YAML directive, found extremely long version number"
  | .versionNumber => "while scanning a YAML directive, did not find expected version number"
  | .tagMark => "while scanning a tag, did not find expected '!'"
  | .tagDirectiveMark => "while parsing a tag directive, did not find expected '!'"
  | .globalTag => "invalid global tag character"
  | .tagDirectiveEnd => "while scanning TAG, did not find expected whitespace or line break"
  | .verbatimEnd => "while scanning a verbatim tag, did not find the expected '>'"
  | .tagName => "while parsing a tag, did not find expected tag URI"
  | .tagEnd => "while scanning a tag, did not find expected whitespace or line break"
  | .octet => "while parsing a tag, did not find URI escaped octet"
  | .leadingOctet => "while parsing a tag, found an incorrect leading UTF-8 octet"
  | .trailingOctet => "while parsing a tag, found an incorrect trailing UTF-8 octet"
  | .tagCode => "while parsing a tag, found an invalid UTF-8 codepoint"
  | .anchorName =>
    "while scanning an anchor or alias, did not find expected alphabetic or numeric character"
  | .unexpectedChar c => "unexpected character: \x60" ++ [c] ++ "'"
  | .zeroIndentation =>
    "while scanning a block scalar, found an indentation indicator equal to 0"
  | .blockHeader => "while scanning a block scalar, did not find expected comment or line break"
  | .blockTab => "a block scalar content cannot start with a tab"
  | .blockLine => "wrongly indented line in block scalar"
  | .quotedDocument => "while scanning a quoted scalar, found unexpected document indicator"
  | .quotedEnd => "while scanning a quoted scalar, found unexpected end of stream"
  | .quotedIndentation => "invalid indentation in quoted scalar"
  | .quotedTab => "tab cannot be used as indentation"
  | .behindQuote => "invalid trailing content after double-quoted scalar"
  | .unknownEscape => "while parsing a quoted scalar, found unknown escape character"
  | .escapeDigits => "while parsing a quoted scalar, did not find expected hexadecimal number"
  | .escapeCode =>
    "while parsing a quoted scalar, found invalid Unicode character escape code"
  | .plainDash => "plain scalar cannot start with '-' followed by ,[]\x7b\x7d"
  | .plainTab => "while scanning a plain scalar, found a tab"
  | .plainEnd => "unexpected end of plain scalar"
  | .behindDocument => "invalid content after document end marker"
  | .documentStart => "did not find expected <document start>"
  | .documentEnd => "missing explicit document end marker before directive"
  | .secondVersion => "duplicate version directive"
  | .unknownHandle => "the handle wasn't declared"
  | .unknownAnchor => "while parsing node, found unknown anchor"
  | .missingNode => "while parsing a node, did not find expected node content"
  | .missingKey => "while parsing a block mapping, did not find expected key"
  | .missingDash => "while parsing a block collection, did not find expected '-' indicator"
  | .missingBrace => "while parsing a flow mapping, did not find expected ',' or '\x7d'"
  | .missingBracket => "while parsing a flow sequence, expected ',' or ']'"
  | .endOfTokens => "unexpected eof"
  | .secondKey shown => shown ++ ": duplicated key in mapping"

/-- A reason and a place. -/
structure Fault where
  reason : Reason
  place : Place
deriving DecidableEq, Repr

/-- The message about a fault. -/
def Fault.message (f : Fault) : Text :=
  f.reason.message ++ " at byte " ++ ofNat f.place.index ++ " line " ++ ofNat f.place.line ++
    " column " ++ ofNat (f.place.column + 1)

end RouteLocalizer.Yaml
