/-
  The TOKENS of YAML: the marks of a text, with the marks that its indentation stands for, and the
  scalars between them.

  In BLOCKS indentation says where a sequence or a mapping starts and ends; tokens that no character
  stands for say so.  Between BRACKETS it is the brackets that say so, and a mapping that is one
  pair in a sequence has tokens as if there were braces around it.
-/
import RouteLocalizer.Yaml.Fault

namespace RouteLocalizer.Yaml

/-- A token. -/
inductive Token where
  | streamEnd
  | versionDirective
  /-- A directive that gives tags with a handle another start.  A directive of an unknown kind is
      one without a handle. -/
  | tagDirective (handle start : Text)
  | documentStart
  | documentEnd
  | blockSequenceStart
  | blockMappingStart
  | blockEnd
  | blockEntry
  | sequenceStart
  | sequenceEnd
  | mappingStart
  | mappingEnd
  | entry
  | key
  | value
  | alias (name : Text)
  | anchor (name : Text)
  | tag (handle suffix : Text)
  /-- A scalar, which is plain or else a string. -/
  | scalar (isPlain : Bool) (text : Text)
deriving DecidableEq, Repr

/-- A token and the place where it starts. -/
structure Placed where
  place : Place
  token : Token
deriving DecidableEq, Repr

end RouteLocalizer.Yaml
