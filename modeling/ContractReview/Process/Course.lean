import ContractReview.Review.Tool
import ContractReview.Text.Utf8

/-!
The course that a call of a tool takes on a machine, and what it says about the tool. Three courses
are failures of the platform: the program is missing, the machine will not start it, or it overruns
its time. A program that ends is an answer, whatever its exit code.
-/

namespace ContractReview

/-- How a program ended: by itself, or by a signal. -/
inductive Ending
  | exited (code : Nat)
  | killed (signal : Nat)
deriving DecidableEq, Repr

/-- The exit code by which a caller knows the ending. -/
def Ending.code : Ending → Int
  | .exited code => code
  | .killed signal => -signal

/-- What keeps a program from being started. `place` is the path that the machine refuses. -/
inductive Hindrance
  | missing
  | refused (number : Nat) (reason place : String)
  | nullByte
  | badVariable
deriving DecidableEq, Repr

inductive Course
  | hindered (why : Hindrance)
  | overran
  | ended (output errors : List Nat) (ending : Ending)
deriving DecidableEq, Repr

namespace ToolCall

def hindered (call : ToolCall) : Hindrance → Fault
  | .missing =>
      .platform (Fault.ofTool call.command call.platform [("command", .str call.command)]
        (.raised .fileNotFound ""))
  | .refused number reason place =>
      .platform
        { code := .toolFailed
          message := "Failed to start " ++ call.command ++ ": [Errno " ++ toString number ++ "] " ++
            reason ++ ": " ++ Text.quoted place
          platform := call.platform
          context := [("tool", .str call.command),
            ("command", .str (Text.joined " " (call.command :: call.args)))] }
  | .nullByte => .nullByte
  | .badVariable => .raised .value "illegal environment variable name"

def overran (call : ToolCall) : Fault :=
  .platform
    { code := .toolTimeout
      message := call.command ++ " timed out after " ++ call.timeout.text ++ "s"
      platform := call.platform
      context := [("tool", .str call.command), ("timeout", .num call.timeout),
        ("contracts", .arr (call.contracts.map .str))] }

/-- The answer to a call whose course is known. Octets that are not text are replaced. -/
def settle (call : ToolCall) : Course → Except Fault ToolOutput
  | .hindered why => .error (call.hindered why)
  | .overran => .error call.overran
  | .ended output errors ending =>
      .ok { stdout := Text.decode output, stderr := Text.decode errors, exitCode := ending.code }

end ToolCall

end ContractReview
