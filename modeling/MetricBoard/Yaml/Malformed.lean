import MetricBoard.Yaml.Source

/-!
# Texts that are not one well-formed document

The causes for which a text is refused before anything is read from it.
-/

namespace MetricBoard.Yaml

inductive Flaw where
  | characterNotAdmitted
  | noTokenStarts
  | keyWithoutValue
  | itemNotAllowed
  | keyNotAllowed
  | valueNotAllowed
  | tabInIndentation
  | colonInFlow
  | markerInScalar
  | scalarNotClosed
  | unknownEscape
  | invalidCodePoint
  | indentationOfZero
  | textAfterHeader
  | anchorWithoutName
  | invalidTag
  | unknownTagHandle
  | invalidDirective
  | repeatedDirective
  | unsupportedVersion
  | unexpectedToken
  | unknownAnchor
  | severalDocuments
  | unfinished
  deriving DecidableEq, Repr

/-- A flaw and the place where it shows. -/
structure Malformed where
  flaw : Flaw
  mark : Mark
  deriving DecidableEq, Repr

end MetricBoard.Yaml
