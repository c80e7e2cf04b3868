import ContractReview.Text.Search
import ContractReview.Text.Utf8

/-!
Files as the program reads them: their texts, their paths, and folders of them held in memory.
-/

namespace ContractReview

open Text

/-- The text of a file, or what keeps it from being one. -/
abbrev FileText := Except Malformed String

namespace FileText

/-- A line ends with a newline, whichever way the file marks its ends. -/
def newlines : List Char → List Char
  | '\r' :: '\n' :: rest => '\n' :: newlines rest
  | '\r' :: rest => '\n' :: newlines rest
  | c :: rest => c :: newlines rest
  | [] => []

def ofOctets (octets : List Nat) : FileText :=
  (decode? octets).map fun text => String.ofList (newlines text.toList)

def ofString (text : String) : FileText := .ok (String.ofList (newlines text.toList))

end FileText

namespace FilePath

/-- The parts of a path, without those that stay where they are. -/
def parts (path : String) : List String :=
  (splitAt '/' path).filter fun part => part ≠ "" ∧ part ≠ "."

/-- A path in its shortest spelling. -/
def shortest (path : String) : String :=
  let start :=
    if startsWith path "//" && !startsWith path "///" then "//"
    else if startsWith path "/" then "/"
    else ""
  let rest := joined "/" (parts path)
  if start = "" ∧ rest = "" then "." else start ++ rest

/-- The last part of a path. -/
def name (path : String) : String := ((parts path).getLast?).getD ""

/-- The paths of a file in a folder and in every folder above it, the nearest first. -/
def upwards (folder file : String) : List String :=
  let parts := parts folder
  (List.range (parts.length + 1)).reverse.map fun n => "/" ++ joined "/" (parts.take n ++ [file])

example : upwards "/home/ann" ".env" = ["/home/ann/.env", "/home/.env", "/.env"] := by
  decide +kernel

end FilePath

/-- Files by their paths in a folder. -/
abbrev Folder := List (String × FileText)

namespace Folder

def file? (f : Folder) (place : List String) : Option FileText := f.lookup (joined "/" place)

/-- There is a file below the place. -/
def isFolder (f : Folder) (place : List String) : Bool :=
  place.isEmpty || f.any fun (path, _) =>
    let parts := splitAt '/' path
    place.length < parts.length && place.isPrefixOf parts

/-- Walks from a place along the parts of a path; every part but the last has to be a folder. -/
def walk (f : Folder) (place : List String) : List String → Option (List String)
  | [] => some place
  | part :: rest =>
      if !f.isFolder place then none
      else if part = "" ∨ part = "." then walk f place rest
      else if part = ".." then if place.isEmpty then none else walk f place.dropLast rest
      else walk f (place ++ [part]) rest

/-- The file at a path that stays within the folder. -/
def read? (f : Folder) (path : String) : Option FileText :=
  if path = "" ∨ startsWith path "/" then none
  else (f.walk [] (splitAt '/' path)).bind f.file?

/-- A file may be written there: its folder exists, and it is none itself. -/
def canWrite (f : Folder) (path : String) : Bool :=
  match f.walk [] (splitAt '/' path) with
  | some place => f.isFolder place.dropLast && !f.isFolder place
  | none => false

end Folder

end ContractReview
