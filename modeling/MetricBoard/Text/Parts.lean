/-!
# Parts of texts

Trimming a text at both ends, cutting it at a separator, joining pieces again, and looking for a
part of a text. Blank is what has the Unicode property White_Space, which is wider than the ASCII
blanks and leaves out the zero-width characters. A separator is found from left to right and
occurrences do not overlap.
-/

namespace MetricBoard.Text

/-! ## Blanks -/

/-- The ranges of the property White_Space, ends included. -/
def blankRanges : List (Nat × Nat) :=
  [(0x09, 0x0D), (0x20, 0x20), (0x85, 0x85), (0xA0, 0xA0), (0x1680, 0x1680),
   (0x2000, 0x200A), (0x2028, 0x2029), (0x202F, 0x202F), (0x205F, 0x205F), (0x3000, 0x3000)]

/-- A blank is a character with the property White_Space. -/
def isBlank (c : Char) : Bool :=
  blankRanges.any fun range => range.1 ≤ c.toNat && c.toNat ≤ range.2

def trimStart (text : List Char) : List Char :=
  text.dropWhile isBlank

def trimEnd (text : List Char) : List Char :=
  (text.reverse.dropWhile isBlank).reverse

/-- Blanks are removed from both ends and kept in between. -/
def trim (text : List Char) : List Char :=
  trimEnd (trimStart text)

def trimmed (text : String) : List Char :=
  trim text.toList

/-- A text is blank when trimming leaves nothing of it. -/
def isBlankText (text : String) : Bool :=
  text.toList.all isBlank

/-! ## Pieces -/

/-- The character is put in front of the first piece. -/
def ontoFirst (c : Char) : List (List Char) → List (List Char)
  | [] => [[c]]
  | piece :: pieces => (c :: piece) :: pieces

/-- The pieces between occurrences of the separator, after the first `skip` characters,
which belong to an occurrence already found. -/
def piecesAfter (separator : List Char) : Nat → List Char → List (List Char)
  | _, [] => [[]]
  | skip + 1, _ :: rest => piecesAfter separator skip rest
  | 0, c :: rest =>
      if separator.isPrefixOf (c :: rest) then
        [] :: piecesAfter separator (separator.length - 1) rest
      else ontoFirst c (piecesAfter separator 0 rest)

/-- The pieces between occurrences of the separator. The empty separator stands
between any two characters. -/
def pieces (separator text : List Char) : List (List Char) :=
  if separator.isEmpty then text.map ([·]) else piecesAfter separator 0 text

/-- The pieces with the separator between each two of them. -/
def joined (separator : String) (pieces : List String) : String :=
  String.ofList (List.intercalate separator.toList (pieces.map String.toList))

def contains (part : List Char) : List Char → Bool
  | [] => part.isEmpty
  | c :: rest => part.isPrefixOf (c :: rest) || contains part rest

end MetricBoard.Text
