import ContractReview.Json.Access
import ContractReview.Json.Reader
import ContractReview.Report

/-!
HLint: its hints, and the project in which a contract is linted.
-/

namespace ContractReview.Hlint

open Text

def levels : Severity.Labels := [("error", .high), ("warning", .medium), ("suggestion", .low)]

def confidence : Float := 0.8

def project : String :=
  "cabal-version:      2.4\nname:               contract-analysis\n" ++
  "version:            0.1.0.0\nbuild-type:         Simple\n\nexecutable contract-analysis\n" ++
  "    main-is:          Main.hs\n    hs-source-dirs:   src\n    build-depends:    base\n" ++
  "    default-language: Haskell2010\n"

/-- The hints of an output; a value other than a list has none. -/
def hints (platform file stdout : String) : Except Fault (List Json) :=
  match Json.read stdout with
  | .ok (.arr items) => .ok items
  | .ok _ => .ok []
  | .error (.tooLong digits) => .error (.misread (.tooLong digits))
  | .error stop =>
      .error (.platform {
        code := .toolFailed
        message := "Could not parse HLint output for " ++ file ++ ": " ++
          stop.describe stdout.toList
        platform
        context := [("tool", .str "hlint")] })

def finding (platform file : String) (hint : Json) : Except Fault Finding := do
  let text := (← hint.fieldOr "hint" (.str "HLint suggestion")).shown
  let column ← ((← hint.fieldOf "startColumn").orElse (.num 1)).whole
  let stop ← hint.fieldOf "endColumn"
  let replacement ← hint.fieldOf "to"
  let replaced ← hint.fieldOf "from"
  let note ← hint.fieldOf "note"
  let line ← ((← hint.fieldOf "startLine").orElse (.num 1)).whole
  let length ← stop.lengthTo column
  return Finding.create platform (.text ("hlint-" ++ replaceChar ' ' '-' (lower text)))
    (Severity.ofLabel levels (← hint.fieldOf "severity")) text
    ("HLint: " ++ text ++ (if note.isFilled then " (" ++ note.shown ++ ")" else ""))
    { file, line, column, length }
    (if replacement.isFilled then
      "Replace '" ++ replaced.shown ++ "' with '" ++ replacement.shown ++ "'."
    else text)
    confidence .static
    (.obj [("module", ← hint.fieldOf "module"), ("decl", ← hint.fieldOf "decl"),
      ("from", replaced)])

/-- The findings of an output; hints that are no objects are left out. -/
def findings (platform file stdout : String) : Except Fault (List Finding) := do
  let found ← hints platform file stdout
  (found.filter (·.kind = .dict)).mapM (finding platform file)

end ContractReview.Hlint
