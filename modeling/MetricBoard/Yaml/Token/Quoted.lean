import MetricBoard.Number.Digits
import MetricBoard.Yaml.Malformed
import MetricBoard.Yaml.Token.Gap

/-!
# Quoted scalars

Between single quotes a quote is written twice and nothing else is special. Between double
quotes a backslash starts an escape: of one character, of a code point in hexadecimal digits,
or of a line break, which then contributes nothing.
-/

namespace MetricBoard.Yaml

structure QuotedScalar where
  text : List Char
  rest : List Spot

def singleQuote : Char := '\x27'

def doubleQuote : Char := '\x22'

/-- The rest of a single-quoted scalar of which `text` has been read, latest first. -/
def singleQuotedFrom (text : List Char) (gap : Gap) : List Spot → Except Malformed QuotedScalar
  | [] => .error ⟨.scalarNotClosed, .start⟩
  | spot :: rest =>
      if spot.char == endOfText then .error ⟨.scalarNotClosed, spot.mark⟩
      else if isDocumentMarker (spot :: rest) then .error ⟨.markerInScalar, spot.mark⟩
      else if isBlank spot.char || isBreak spot.char then
        singleQuotedFrom text (gap.push spot.char) rest
      else if spot.char == singleQuote then
        match rest with
        | [] => .ok ⟨(gap.text.reverse ++ text).reverse, []⟩
        | next :: rest =>
            if next.char == singleQuote then
              singleQuotedFrom (singleQuote :: (gap.text.reverse ++ text)) .empty rest
            else .ok ⟨(gap.text.reverse ++ text).reverse, next :: rest⟩
      else singleQuotedFrom (spot.char :: (gap.text.reverse ++ text)) .empty rest

def namedEscape (c : Char) : Option Char :=
  match c with
  | '0' => some '\x00'
  | 'a' => some '\x07'
  | 'b' => some '\x08'
  | 't' | '\t' => some '\t'
  | 'n' => some '\n'
  | 'v' => some '\x0b'
  | 'f' => some '\x0c'
  | 'r' => some '\r'
  | 'e' => some '\x1b'
  | ' ' => some ' '
  | '/' => some '/'
  | '\\' => some '\\'
  | 'N' => some '\u0085'
  | '_' => some '\u00a0'
  | 'L' => some '\u2028'
  | 'P' => some '\u2029'
  | _ => if c == doubleQuote then some c else none

/-- How many hexadecimal digits an escape of a code point has. -/
def codePointDigits (c : Char) : Option Nat :=
  match c with
  | 'x' => some 2
  | 'u' => some 4
  | 'U' => some 8
  | _ => none

/-- The character of a code point that is one. -/
def characterOf (n : Nat) : Option Char :=
  if h : n.isValidChar then some (Char.ofNatAux n h) else none

/-- Where a reader stands inside a double-quoted scalar. -/
inductive Escape where
  | none
  | started
  /-- So many digits are still to come; the value of those read. -/
  | code (digits value : Nat)

/-- The rest of a double-quoted scalar of which `text` has been read, latest first. -/
def doubleQuotedFrom (text : List Char) (gap : Gap) (escape : Escape) :
    List Spot → Except Malformed QuotedScalar
  | [] => .error ⟨.scalarNotClosed, .start⟩
  | spot :: rest =>
      match escape with
      | .started =>
          if isBreak spot.char then doubleQuotedFrom text (.broken none []) .none rest
          else
            match namedEscape spot.char, codePointDigits spot.char with
            | some c, _ => doubleQuotedFrom (c :: text) .empty .none rest
            | _, some digits => doubleQuotedFrom text .empty (.code digits 0) rest
            | _, _ => .error ⟨.unknownEscape, spot.mark⟩
      | .code digits value =>
          match Number.digitIn 16 spot.char with
          | some digit =>
              let value := value * 16 + digit
              if 1 < digits then doubleQuotedFrom text .empty (.code (digits - 1) value) rest
              else
                match characterOf value with
                | some c => doubleQuotedFrom (c :: text) .empty .none rest
                | _ => .error ⟨.invalidCodePoint, spot.mark⟩
          | _ => .error ⟨.unknownEscape, spot.mark⟩
      | .none =>
          if spot.char == endOfText then .error ⟨.scalarNotClosed, spot.mark⟩
          else if isDocumentMarker (spot :: rest) then .error ⟨.markerInScalar, spot.mark⟩
          else if isBlank spot.char || isBreak spot.char then
            doubleQuotedFrom text (gap.push spot.char) .none rest
          else if spot.char == doubleQuote then
            .ok ⟨(gap.text.reverse ++ text).reverse, rest⟩
          else if spot.char == '\\' then
            doubleQuotedFrom (gap.text.reverse ++ text) .empty .started rest
          else doubleQuotedFrom (spot.char :: (gap.text.reverse ++ text)) .empty .none rest

/-- The single-quoted scalar whose opening quote is at the front. -/
def singleQuoted (spots : List Spot) : Except Malformed QuotedScalar :=
  singleQuotedFrom [] .empty (spots.drop 1)

/-- The double-quoted scalar whose opening quote is at the front. -/
def doubleQuoted (spots : List Spot) : Except Malformed QuotedScalar :=
  doubleQuotedFrom [] .empty .none (spots.drop 1)

end MetricBoard.Yaml
