import MetricBoard.Yaml.Source

/-!
# Tokens

The smallest meaningful parts of a text. Besides what is written there are tokens for what
indentation says: where a block sequence or mapping opens and where a block ends.
-/

namespace MetricBoard.Yaml

/-- Octets of a tag. They are not characters, because an escape can name any octet. -/
abbrev Octets := List UInt8

inductive ScalarStyle where
  | plain
  | singleQuoted
  | doubleQuoted
  | literal
  | folded
  deriving DecidableEq, Repr

inductive TokenKind where
  | streamEnd
  | version (major minor : Nat)
  | tagHandle (handle lead : Octets)
  | documentStart
  | documentEnd
  | blockSequence
  | blockMapping
  | blockEnd
  | openBracket
  | closeBracket
  | openBrace
  | closeBrace
  | dash
  | comma
  | key
  | value
  | alias (name : List Char)
  | anchor (name : List Char)
  | tag (handle suffix : Octets)
  | scalar (style : ScalarStyle) (text : String)
  deriving DecidableEq, Repr

structure Token where
  kind : TokenKind
  start : Mark
  stop : Mark
  deriving DecidableEq, Repr

def Token.at (kind : TokenKind) (mark : Mark) : Token := ⟨kind, mark, mark⟩

end MetricBoard.Yaml
