import ContractReview.Folder

/-!
The folders and programs of the host that tools run on, and what a path on it leads to. They stand
for a system's files as far as the start of a tool depends on them.
-/

namespace ContractReview.Volume

open Text

/-- What stands at a path. `blocked` is a path that goes on behind a file. -/
inductive Entry
  | folder
  | file
  | program (name : String)
  | missing
  | blocked
  | tooLong
deriving DecidableEq, Repr

/-- Places that are reached by a second path. -/
def links : List (String × List String) :=
  [("bin", ["usr", "bin"]), ("sbin", ["usr", "sbin"]), ("lib", ["usr", "lib"])]

def folders : List String :=
  ["usr", "usr/bin", "usr/sbin", "usr/lib", "usr/local", "usr/local/bin", "usr/local/sbin",
    "usr/share", "etc", "tmp", "var", "var/tmp", "var/log", "root", "home", "opt", "dev", "proc",
    "sys", "run", "srv", "mnt", "media", "boot"]

def files : List String :=
  ["etc/passwd", "etc/group", "etc/hosts", "etc/hostname", "etc/resolv.conf", "etc/os-release",
    "etc/profile", "dev/null", "dev/zero", "dev/full"]

def shells : List String := ["sh", "dash", "bash"]

def programs : List String :=
  shells ++ ["sleep", "echo", "printf", "true", "false", "cat", "pwd", "env", "printenv", "seq",
    "test", "[", "head", "wc"]

/-- Where programs are looked for when nothing else is said. -/
def searchPath : List String :=
  ["/usr/local/sbin", "/usr/local/bin", "/usr/sbin", "/usr/bin", "/sbin", "/bin"]

def entryAt (place : List String) : Entry :=
  let path := joined "/" place
  if place.isEmpty || folders.contains path then .folder
  else if files.contains path then .file
  else
    match place with
    | ["usr", "bin", name] => if programs.contains name then .program name else .missing
    | _ => .missing

/-- Walks from a folder along the parts of a path; ends at a place and what stands there. -/
def walk (place : List String) : List String → List String × Entry
  | [] => (place, entryAt place)
  | part :: rest =>
      match entryAt place with
      | .folder =>
          if (octetsOf part).length > 255 then (place, .tooLong)
          else if part = "" ∨ part = "." then walk place rest
          else if part = ".." then walk place.dropLast rest
          else
            match place, links.lookup part with
            | [], some goal => walk goal rest
            | _, _ => walk (place ++ [part]) rest
      | .missing => (place, .missing)
      | _ => (place, .blocked)

/-- The place that a path leads to from a folder. An empty path leads nowhere. -/
def find (start : List String) (path : String) : List String × Entry :=
  if path = "" then (start, .missing)
  else walk (if startsWith path "/" then [] else start) (splitAt '/' path)

def pathOf (place : List String) : String := "/" ++ joined "/" place

/-- The paths that a command may mean. -/
def candidates (search : List String) (command : String) : List String :=
  if contains command "/" then [command]
  else search.map fun folder => if folder = "" then command else folder ++ "/" ++ command

/-- The program that a command means; without one, what was found in its stead. A path that cannot
be used outweighs those that lead nowhere. -/
def program? (start : List String) (search : List String) (command : String) :
    Except Entry String :=
  let found := (candidates search command).map fun path => (find start path).2
  match found.findSome? fun | .program name => some name | _ => none with
  | some name => .ok name
  | none => .error ((found.find? fun e => e ≠ .missing ∧ e ≠ .blocked).getD
      (found.getLast?.getD .missing))

/-- Where programs start when nothing else is said. -/
def home : List String := ["tmp"]

/-- The machine has a program for the command. -/
def has (command : String) : Bool := (program? home searchPath command).isOk

example : find [] "/bin/../etc/./passwd" = (["usr", "etc"], .missing) := by decide +kernel
example : has "sleep" = true ∧ has "/bin/sh" = true ∧ has "/etc/passwd" = false := by decide +kernel
example : (find [] "/etc/passwd/x").2 = .blocked := by decide +kernel

end ContractReview.Volume
