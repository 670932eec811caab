import MetricBoard.Error

/-!
# A folder

A working folder as far as reading one file in it goes: it is empty, or a file has been stored
under one path. Any other path leads nowhere or to a folder above, and why it does is decided
name by name.
-/

namespace MetricBoard

/-- The file that has been stored, with its path as it was written. -/
structure Folder where
  stored : Option (String × ByteArray)

namespace Folder

/-- The longest name of a file or folder, in octets. -/
def longestName : Nat := 255

/-- Paths are shorter than this, in octets. -/
def pathBound : Nat := 4096

def names : List Char → List (List Char)
  | [] => [[]]
  | c :: rest =>
      if c == '/' then [] :: names rest
      else
        match names rest with
        | [] => [[c]]
        | name :: others => (c :: name) :: others

/-- What names lead to where no file is known: the empty name and points stay among folders,
and any other name is not found. -/
def walk : List (List Char) → FileFault
  | [] => .isFolder
  | name :: names =>
      if name == [] || name == ['.'] || name == ['.', '.'] then walk names
      else if longestName < (String.ofList name).utf8ByteSize then .nameTooLong
      else .notFound

def faultAt (path : String) : FileFault :=
  if path.isEmpty then .notFound else walk (names path.toList)

def read (folder : Folder) (path : String) : Except FileFault ByteArray :=
  if path.toList.contains '\x00' then .error .zeroInName
  else if pathBound ≤ path.utf8ByteSize then .error .nameTooLong
  else
    match folder.stored with
    | some (name, octets) => if name == path then .ok octets else .error (faultAt path)
    | none => .error (faultAt path)

end Folder

end MetricBoard
