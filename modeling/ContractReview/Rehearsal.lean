import ContractReview.Opinion.Ensemble
import ContractReview.Review.Tool

/-!
Reviews rehearsed with tools and models that answer from a script, while everything that is asked of
them is written down.
-/

namespace ContractReview

/-- A tool's answer to a call for a platform. -/
abbrev ToolReply := String → Except Fault ToolOutput

structure Rehearsal where
  tools : List (String × List ToolReply) := []
  available : List String := []
  models : List (String × List Reply) := []
  calls : List ToolCall := []
  requests : List Request := []
  /-- The pauses between the calls of one provider, and all others. -/
  pauses : List (Bool × Number) := []

namespace Rehearsal

/-- The next of the replies for a name. The last one is given again and again. -/
def draw {α : Type} (name : String) (script : List (String × List α)) :
    Option α × List (String × List α) :=
  match script.lookup name with
  | none | some [] => (none, script)
  | some [reply] => (some reply, script)
  | some (reply :: rest) =>
      (some reply, script.map fun (n, replies) => if n = name then (n, rest) else (n, replies))

/-- What a call is known by in the script: the command with its first argument, else the command. -/
def key (r : Rehearsal) (call : ToolCall) : String :=
  match call.args with
  | [] => call.command
  | first :: _ =>
      let long := call.command ++ " " ++ first
      if (r.tools.lookup long).isSome then long else call.command

/-- A tool that is not in the script is missing. -/
def missing (call : ToolCall) : Fault :=
  .platform (Fault.ofTool call.command call.platform [] (.raised .fileNotFound ""))

def run (call : ToolCall) : Act Rehearsal ToolOutput := fun r =>
  let r := { r with calls := r.calls ++ [call] }
  match draw (r.key call) r.tools with
  | (some reply, tools) => (reply call.platform, { r with tools })
  | (none, _) => (.error (missing call), r)

def scriptedTools : Tools Rehearsal :=
  { run
    available := fun command r => r.available.contains command
    scratch := ⟨"<scratch>", "<scratch>"⟩ }

/-- A model that is not in the script answers with an empty object. -/
def scriptedModels : Models Rehearsal :=
  { ask := fun member request r =>
      let r := { r with requests := r.requests ++ [request] }
      match draw member.model r.models with
      | (some reply, models) => (reply, { r with models })
      | (none, _) => (.content "\x7b\x7d", r)
    permit := fun _ r => r
    pause := fun time r => { r with pauses := r.pauses ++ [(true, time)] } }

/-- A pause of the review itself. -/
def rest (time : Number) (r : Rehearsal) : Rehearsal :=
  { r with pauses := r.pauses ++ [(false, time)] }

/-- Nothing written down yet, the rest of the script as it is. -/
def turnPage (r : Rehearsal) : Rehearsal := { r with calls := [], requests := [], pauses := [] }

end Rehearsal

end ContractReview
