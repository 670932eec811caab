import MetricBoard.Number.Digits
import MetricBoard.Yaml.Malformed
import MetricBoard.Yaml.Token

/-!
# Tags and anchors

A tag names the kind of a node: in full between angle brackets, or by a handle that a directive
defines and a suffix. An anchor gives a node a name and an alias refers to it.
-/

namespace MetricBoard.Yaml

def isWordCharacter (c : Char) : Bool :=
  c.isAlphanum || c == '_' || c == '-'

/-- The characters of a tag besides escapes. Between angle brackets the comma and the square
brackets belong to them. -/
def isTagCharacter (verbatim : Bool) (c : Char) : Bool :=
  isWordCharacter c || ";/?:@&=+$.!~*()".toList.contains c || c == '\x27' ||
    (verbatim && (c == ',' || c == '[' || c == ']'))

def octetOf (c : Char) : UInt8 := c.toNat.toUInt8

/-- How many octets a UTF-8 sequence with this first octet has; zero where none starts so. -/
def sequenceLength (octet : Nat) : Nat :=
  if octet < 0x80 then 1
  else if octet < 0xC0 then 0
  else if octet < 0xE0 then 2
  else if octet < 0xF0 then 3
  else if octet < 0xF8 then 4
  else 0

/-- The octets of a tag from the front on, after those in `octets`, latest first. Escapes come
in whole sequences, of which `owed` octets are still to come. -/
def tagOctetsFrom (verbatim : Bool) (octets : Octets) (owed : Nat) :
    List Spot → Except Malformed (Octets × List Spot)
  | [] => .ok (octets.reverse, [])
  | spot :: rest =>
      if spot.char == '%' then
        match rest with
        | first :: second :: rest =>
            match Number.digitIn 16 first.char, Number.digitIn 16 second.char with
            | some high, some low =>
                let octet := high * 16 + low
                let octets := octet.toUInt8 :: octets
                if owed == 0 then
                  match sequenceLength octet with
                  | 0 => .error ⟨.invalidTag, spot.mark⟩
                  | length + 1 => tagOctetsFrom verbatim octets length rest
                else if octet < 0x80 || 0xC0 ≤ octet then .error ⟨.invalidTag, spot.mark⟩
                else tagOctetsFrom verbatim octets (owed - 1) rest
            | _, _ => .error ⟨.invalidTag, spot.mark⟩
        | _ => .error ⟨.invalidTag, spot.mark⟩
      else if owed != 0 then .error ⟨.invalidTag, spot.mark⟩
      else if isTagCharacter verbatim spot.char then
        tagOctetsFrom verbatim (octetOf spot.char :: octets) 0 rest
      else .ok (octets.reverse, spot :: rest)

def untilZero (octets : Octets) : Octets :=
  octets.takeWhile (· != 0)

def tagOctets (verbatim : Bool) (spots : List Spot) : Except Malformed (Octets × List Spot) := do
  let (octets, rest) ← tagOctetsFrom verbatim [] 0 spots
  if octets.isEmpty then .error ⟨.invalidTag, here spots⟩
  else pure (untilZero octets, rest)

/-- The handle at the front: an exclamation mark, a word, and perhaps a second mark. -/
def tagHandleAt (spots : List Spot) : List Char × List Spot :=
  let (word, rest) := span isWordCharacter (spots.drop 1)
  if front rest == '!' then ('!' :: word ++ ['!'], rest.drop 1) else ('!' :: word, rest)

/-- The handle and the suffix of the tag at the front. The lone exclamation mark is a tag
without a handle. -/
def tagParts (spots : List Spot) : Except Malformed (Octets × Octets × List Spot) := do
  if second spots == '<' then
    let (name, rest) ← tagOctets true (spots.drop 2)
    if front rest == '>' then pure ([], name, rest.drop 1)
    else .error ⟨.invalidTag, here rest⟩
  else
    let (handle, rest) := tagHandleAt spots
    if 2 ≤ handle.length && handle.getLast? == some '!' then
      let (suffix, rest) ← tagOctets false rest
      pure (handle.map octetOf, suffix, rest)
    else
      let (octets, rest) ← tagOctetsFrom false (handle.drop 1 |>.map octetOf).reverse 0 rest
      let suffix := untilZero octets
      if suffix.isEmpty then pure ([], [octetOf '!'], rest)
      else pure ([octetOf '!'], suffix, rest)

/-- The tag at the front. A gap follows it, or a comma inside brackets. -/
def tag (inFlow : Bool) (spots : List Spot) : Except Malformed (Token × List Spot) := do
  let (handle, suffix, rest) ← tagParts spots
  if isGap (front rest) || (inFlow && front rest == ',') then
    pure (⟨.tag handle suffix, here spots, here rest⟩, rest)
  else .error ⟨.invalidTag, here rest⟩

def anchorName (spots : List Spot) : Except Malformed (List Char × List Spot) :=
  let (name, rest) := span isWordCharacter (spots.drop 1)
  let c := front rest
  if name.isEmpty || !(isGap c || "?:,]\x7d%@\x60".toList.contains c) then
    .error ⟨.anchorWithoutName, here rest⟩
  else .ok (name, rest)

end MetricBoard.Yaml
