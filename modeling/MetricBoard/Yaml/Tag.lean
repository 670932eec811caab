import MetricBoard.Yaml.Token

/-!
# Tags

The tag of a node in full. A tag that starts with an exclamation mark is local and has a name;
the others are global, and a few of those force a scalar to one kind of value.
-/

namespace MetricBoard.Yaml

structure Tag where
  octets : Octets
  deriving DecidableEq, Repr

namespace Tag

def octetsOf (text : String) : Octets := text.toList.map fun c => c.toNat.toUInt8

def ofText (text : String) : Tag := ⟨octetsOf text⟩

def coreLead : String := "tag:yaml.org,2002:"

def core (kind : String) : Tag := ofText (coreLead ++ kind)

/-- A local tag starts with an exclamation mark. -/
def isLocal (tag : Tag) : Bool :=
  tag.octets.head? == some 0x21

/-- The name of a local tag: what follows the mark, or the mark where nothing does. A name
whose octets are no text is none. -/
def localName? (tag : Tag) : Option String :=
  match tag.octets with
  | mark :: rest =>
      if mark == 0x21 then
        String.fromUTF8? ⟨(if rest.isEmpty then [mark] else rest).toArray⟩
      else none
  | [] => none

end Tag

end MetricBoard.Yaml
