import ContractReview.App
import ContractReview.Display.Plain
import ContractReview.Process.Course

/-!
The program for the command line. It reads the settings and the files that are named, runs the
command and prints the outcome. Tools and models lie beyond it: every tool counts as missing, and no
model answers, so that a review rests on the program's own rules.
-/

namespace ContractReview.Main

/-- Tools of which none is there. -/
def noTools : Tools Unit :=
  { run := fun call => throw (call.hindered .missing)
    available := fun _ _ => false
    scratch := ⟨"scratch", "scratch"⟩ }

def noModels : Models Unit :=
  { ask := fun _ _ _ => (.fault (.provider .connection "Connection error."), ())
    permit := fun _ s => s
    pause := fun _ s => s }

/-- The text of a file; none where it cannot be read. -/
def fileText? (path : String) : IO (Option FileText) := do
  try
    let octets ← IO.FS.readBinFile path
    return some (.ofOctets (octets.toList.map UInt8.toNat))
  catch _ => return none

/-- The variables of the environment that settings are taken from. -/
def environment : IO (List (String × String)) :=
  (Settings.names.map Settings.variableName).filterMapM fun name => do
    return (← IO.getEnv name).map fun text => (name, text)

/-- The settings file in the user's own folder. -/
def settingsText : IO (Option FileText) := do
  match ← IO.getEnv "HOME" with
  | some home => fileText? (home ++ "/.chainaudit/config.yaml")
  | none => return none

/-- The file of variables in the current folder, else in the nearest folder above that has one. -/
def variablesText : IO (Option FileText) := do
  (FilePath.upwards (← IO.currentDir).toString ".env").findSomeM? fileText?

end ContractReview.Main

open ContractReview in
def main (args : List String) : IO UInt32 := do
  let texts ← args.filterMapM fun path => do
    return (← Main.fileText? path).map fun text => (path, text)
  let site : Site := {
    settingsText := ← Main.settingsText
    variablesText := ← Main.variablesText
    file? := fun path => texts.lookup path }
  let settings : Settings := { environment := ← Main.environment }
  let done := (App.run settings site Main.noTools Main.noModels (fun _ s => s) args ()).1
  for line in done.shown.flatMap Display.Item.lines do
    IO.println line
  if let some complaint := done.complaint then
    IO.eprintln complaint
  return UInt32.ofNat done.exitCode
