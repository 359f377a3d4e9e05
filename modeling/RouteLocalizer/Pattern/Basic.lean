/-
  PATTERNS: the regular expressions that a log filter may compare the fields of a span with.

  Nothing is ever matched against a pattern here; all that matters is whether one can be used.  So a
  pattern is a tree that keeps what the rules on patterns ask for, and every part of it knows the
  SPAN of the text that it was read from, for the messages about what is wrong.
-/
import RouteLocalizer.Text.Basic

namespace RouteLocalizer

namespace Pattern

/-- A place in a text: its line and its column, both counted from one. -/
structure Position where
  line : Nat := 1
  column : Nat := 1
deriving DecidableEq, Repr

/-- The place behind a character that stands at a place. -/
def Position.behind (p : Position) (c : Char) : Position :=
  if c = '\n' then ⟨p.line + 1, 1⟩ else ⟨p.line, p.column + 1⟩

/-- A stretch of a text, from its first place to the place behind it. -/
structure Span where
  start : Position
  stop : Position
deriving DecidableEq, Repr

/-- The empty stretch at a place. -/
def Position.span (p : Position) : Span := ⟨p, p⟩

/-- A character that stands for itself, or that an escape stands for. -/
structure Literal where
  span : Span
  char : Char
  /-- Whether it is written as the code of a byte. -/
  isByte : Bool := false
deriving DecidableEq, Repr

/-- What stands in brackets. -/
inductive ClassItem where
  | empty (span : Span)
  | literal (literal : Literal)
  | range (first last : Literal)
  /-- An ASCII class by its name. -/
  | named (span : Span) (negated : Bool)
  /-- A class that has an escape of its own: digits, blanks, word characters. -/
  | shorthand (span : Span) (negated : Bool)
  /-- A Unicode property by its letter. -/
  | property (span : Span) (letter : Char)
  | bracketed (span : Span) (negated : Bool) (inner : ClassItem)
  | union (span : Span) (items : List ClassItem)
  /-- An intersection or a difference. -/
  | operation (span : Span) (left right : ClassItem)

/-- Where an item of a class stands. -/
def ClassItem.span : ClassItem → Span
  | .empty span => span
  | .literal l => l.span
  | .range first last => ⟨first.span.start, last.span.stop⟩
  | .named span _ => span
  | .shorthand span _ => span
  | .property span _ => span
  | .bracketed span _ _ => span
  | .union span _ => span
  | .operation span _ _ => span

/-- A letter of a list of flags, or the dash in front of the flags that are taken away. -/
structure FlagItem where
  span : Span
  letter : Char
deriving DecidableEq, Repr

/-- What a list of flags makes of a flag, if it says anything about it. -/
def flagState (flag : Char) : List FlagItem → Option Bool
  | [] => none
  | item :: rest =>
    if item.letter = flag then some true
    else if item.letter = '-' then
      if rest.any fun item => item.letter = flag then some false else none
    else flagState flag rest

end Pattern

/-- A regular expression. -/
inductive Pattern where
  | empty (span : Pattern.Span)
  /-- Flags for all that follows in the group. -/
  | flags (span : Pattern.Span) (items : List Pattern.FlagItem)
  | literal (literal : Pattern.Literal)
  | dot (span : Pattern.Span)
  /-- A condition on a place, and whether it is about words. -/
  | assertion (span : Pattern.Span) (isOnWords : Bool)
  /-- A class that has an escape of its own: digits, blanks, word characters. -/
  | shorthand (span : Pattern.Span) (negated : Bool)
  /-- A Unicode property by its letter. -/
  | property (span : Pattern.Span) (letter : Char)
  | bracketed (span : Pattern.Span) (negated : Bool) (inner : Pattern.ClassItem)
  | repetition (span : Pattern.Span) (inner : Pattern)
  | group (span : Pattern.Span) (flags : List Pattern.FlagItem) (inner : Pattern)
  | alternation (span : Pattern.Span) (branches : List Pattern)
  | concatenation (span : Pattern.Span) (parts : List Pattern)

namespace Pattern

/-- Where a pattern stands. -/
def span : Pattern → Span
  | .empty span => span
  | .flags span _ => span
  | .literal l => l.span
  | .dot span => span
  | .assertion span _ => span
  | .shorthand span _ => span
  | .property span _ => span
  | .bracketed span _ _ => span
  | .repetition span _ => span
  | .group span _ _ => span
  | .alternation span _ => span
  | .concatenation span _ => span

end Pattern

end RouteLocalizer
