import MetricBoard.Yaml.Malformed
import MetricBoard.Yaml.Token.Gap

/-!
# Plain scalars

A plain scalar has no quotes. It ends before a comment, before a colon that a gap follows,
before a document marker, and where the text is less indented than its block; inside brackets
it also ends before a comma or a bracket.
-/

namespace MetricBoard.Yaml

/-- A scalar read up to its end. `crossed` says that a line break came after its last
character and before `rest`. -/
structure PlainScalar where
  text : List Char
  stop : Mark
  crossed : Bool
  rest : List Spot

def isFlowEnd (c : Char) : Bool :=
  c == ',' || c == '[' || c == ']' || c == '{' || c == '}'

/-- A plain scalar that has the gap behind it does not go on at these spots. -/
def plainEnds (inFlow : Bool) (margin : Nat) (gap : Gap) (spots : List Spot) : Bool :=
  let c := front spots
  c == endOfText || isDocumentMarker spots ||
    (!gap.isEmpty && (c == '#' || (!inFlow && (here spots).column < margin))) ||
    (c == ':' && isGap (second spots)) ||
    (inFlow && isFlowEnd c)

/-- The rest of a plain scalar of which `text` has been read, latest character first. -/
def plainFrom (inFlow : Bool) (margin : Nat) (text : List Char) (stop : Mark) (gap : Gap) :
    List Spot → Except Malformed PlainScalar
  | [] => .ok ⟨text.reverse, stop, gap.isBroken, []⟩
  | spot :: rest =>
      if isBreak spot.char then plainFrom inFlow margin text stop (gap.push spot.char) rest
      else if isBlank spot.char then
        if gap.isBroken && spot.mark.column < margin && spot.char == '\t' then
          .error ⟨.tabInIndentation, spot.mark⟩
        else plainFrom inFlow margin text stop (gap.push spot.char) rest
      else if plainEnds inFlow margin gap (spot :: rest) then
        .ok ⟨text.reverse, stop, gap.isBroken, spot :: rest⟩
      else if inFlow && spot.char == ':' && (front rest == '?' || isFlowEnd (front rest)) then
        .error ⟨.colonInFlow, spot.mark⟩
      else
        plainFrom inFlow margin (spot.char :: (gap.text.reverse ++ text))
          (spot.mark.nextColumn spot.char.utf8Size) .empty rest

/-- The plain scalar at the front. Its further lines stand at the margin or beyond. -/
def plain (inFlow : Bool) (margin : Nat) (spots : List Spot) : Except Malformed PlainScalar :=
  plainFrom inFlow margin [] (here spots) .empty spots

end MetricBoard.Yaml
