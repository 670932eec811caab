/-!
# Source text

A YAML text as characters that know where they stand. Line breaks of every kind are brought
to one form, the characters that may not occur at all are refused, and a sentinel marks the
end, so that the last position has a mark too.
-/

namespace MetricBoard.Yaml

/-- A place in a text, counted from zero: in octets of its UTF-8 form, in lines, and in
characters from the start of the line. -/
structure Mark where
  offset : Nat
  line : Nat
  column : Nat
  deriving DecidableEq, Repr

namespace Mark

/-- Where a text begins. -/
def start : Mark := ⟨0, 0, 0⟩

/-- The place after one more character of the line, which is `width` octets long. -/
def nextColumn (mark : Mark) (width : Nat) : Mark :=
  ⟨mark.offset + width, mark.line, mark.column + 1⟩

/-- The start of the next line, after a break of `width` octets. -/
def nextLine (mark : Mark) (width : Nat) : Mark :=
  ⟨mark.offset + width, mark.line + 1, 0⟩

def isStart (mark : Mark) : Bool :=
  mark.line == 0 && mark.column == 0

/-- The place in words, with lines and columns counted from one. -/
def text (mark : Mark) : String :=
  "line " ++ toString (mark.line + 1) ++ " column " ++ toString (mark.column + 1)

end Mark

structure Spot where
  char : Char
  mark : Mark
  deriving DecidableEq, Repr

/-- The sentinel after the last character; no text contains it. -/
def endOfText : Char := '\x00'

def byteOrderMark : Char := '\ufeff'

/-- The line separator and the paragraph separator stay themselves inside scalars. -/
def isSeparatorBreak (c : Char) : Bool :=
  c == '\u2028' || c == '\u2029'

/-- A line break, in the form that source texts have. -/
def isBreak (c : Char) : Bool :=
  c == '\n' || isSeparatorBreak c

def isBlank (c : Char) : Bool :=
  c == ' ' || c == '\t'

/-- A blank, a break or the end. -/
def isGap (c : Char) : Bool :=
  isBlank c || isBreak c || c == endOfText

def isLineEnd (c : Char) : Bool :=
  isBreak c || c == endOfText

/-- The characters that may occur in a text. -/
def isAdmitted (c : Char) : Bool :=
  let n := c.toNat
  n == 0x09 || n == 0x0A || n == 0x0D || (0x20 ≤ n && n ≤ 0x7E) || n == 0x85 ||
    (0xA0 ≤ n && n ≤ 0xD7FF) || (0xE000 ≤ n && n ≤ 0xFFFD) || 0x10000 ≤ n

/-- The spots of the characters from a place on. A carriage return, alone or before a line
feed, and the next-line character become a line feed. -/
def spotsFrom : Mark → List Char → List Spot
  | mark, [] => [⟨endOfText, mark⟩]
  | mark, '\r' :: '\n' :: rest => ⟨'\n', mark⟩ :: spotsFrom (mark.nextLine 2) rest
  | mark, c :: rest =>
      if c == '\r' || c == '\u0085' then
        ⟨'\n', mark⟩ :: spotsFrom (mark.nextLine c.utf8Size) rest
      else if isBreak c then ⟨c, mark⟩ :: spotsFrom (mark.nextLine c.utf8Size) rest
      else ⟨c, mark⟩ :: spotsFrom (mark.nextColumn c.utf8Size) rest

/-- The spots of a text, unless it has a character that may not occur. -/
def spots? (text : String) : Option (List Spot) :=
  if text.toList.all isAdmitted then some (spotsFrom .start text.toList) else none

/-- The character at the front; the sentinel where there is none. -/
def front (spots : List Spot) : Char :=
  (spots.head?.map (·.char)).getD endOfText

def here (spots : List Spot) : Mark :=
  (spots.head?.map (·.mark)).getD .start

def second (spots : List Spot) : Char :=
  front (spots.drop 1)

/-- The front is a document marker made of three times `c`: at the start of a line, with a
gap behind it. -/
def isMarkerOf (c : Char) (spots : List Spot) : Bool :=
  (here spots).column == 0 && (spots.take 3).map (·.char) == [c, c, c] &&
    isGap (front (spots.drop 3))

/-- The front is a marker that starts or ends a document. -/
def isDocumentMarker (spots : List Spot) : Bool :=
  isMarkerOf '-' spots || isMarkerOf '.' spots

/-- The spots up to the end of the line are left out. -/
def skipLine (spots : List Spot) : List Spot :=
  spots.dropWhile fun spot => !isLineEnd spot.char

def skipBlanks (spots : List Spot) : List Spot :=
  spots.dropWhile fun spot => isBlank spot.char

/-- The characters in front for which the test holds, and what follows them. -/
def span (test : Char → Bool) (spots : List Spot) : List Char × List Spot :=
  ((spots.takeWhile fun spot => test spot.char).map (·.char),
    spots.dropWhile fun spot => test spot.char)

/-- The rest of a line that may hold blanks and a comment only, with its break. -/
def restOfLine? (spots : List Spot) : Option (List Spot) :=
  let spots := skipBlanks spots
  let spots := if front spots == '#' then skipLine spots else spots
  if isBreak (front spots) then some (spots.drop 1)
  else if front spots == endOfText then some spots
  else none

end MetricBoard.Yaml
