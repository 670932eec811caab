import MetricBoard.Yaml.Token.Tag

/-!
# Directives

A line that starts with a percent sign states the version of the format or defines a handle for
tags.
-/

namespace MetricBoard.Yaml

def versionNumber (spots : List Spot) : Except Malformed (Nat × List Spot) :=
  let (digits, rest) := span Char.isDigit spots
  match if digits.length ≤ 9 then Number.natural? 10 digits else none with
  | some n => .ok (n, rest)
  | none => .error ⟨.invalidDirective, here spots⟩

/-- The two numbers of a version, with a point between them. -/
def versionDirective (spots : List Spot) : Except Malformed (TokenKind × List Spot) := do
  let (major, rest) ← versionNumber (skipBlanks spots)
  if front rest != '.' then .error ⟨.invalidDirective, here rest⟩
  else
    let (minor, rest) ← versionNumber (rest.drop 1)
    pure (.version major minor, rest)

/-- A handle and the octets that it stands for. -/
def tagDirective (spots : List Spot) : Except Malformed (TokenKind × List Spot) := do
  let spots := skipBlanks spots
  let (handle, rest) := tagHandleAt spots
  if front spots != '!' || !(handle.length == 1 || handle.getLast? == some '!') then
    .error ⟨.invalidDirective, here spots⟩
  else if !isBlank (front rest) then .error ⟨.invalidDirective, here rest⟩
  else
    let (lead, rest) ← tagOctets true (skipBlanks rest)
    if isGap (front rest) then pure (.tagHandle (handle.map octetOf) lead, rest)
    else .error ⟨.invalidDirective, here rest⟩

def directive (spots : List Spot) : Except Malformed (Token × List Spot) := do
  let (name, rest) := span isWordCharacter (spots.drop 1)
  let (kind, rest) ←
    if !isGap (front rest) then .error ⟨.invalidDirective, here rest⟩
    else if name == "YAML".toList then versionDirective rest
    else if name == "TAG".toList then tagDirective rest
    else .error ⟨.invalidDirective, here spots⟩
  match restOfLine? rest with
  | some after => pure (⟨kind, here spots, here rest⟩, after)
  | none => .error ⟨.textAfterHeader, here rest⟩

end MetricBoard.Yaml
