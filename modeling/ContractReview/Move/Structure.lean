import ContractReview.Code.Delimiters
import ContractReview.Code.Rule
import ContractReview.Report

/-!
The structure of Move source, whatever the dialect: its modules, resource structs and functions.
-/

namespace ContractReview.Move

open Text Text.Pattern

/-- Text before an opening brace, and the brace. -/
def toBrace : Pattern := .both (.many 0 (· ≠ '\x7b')) (.one (· = '\x7b'))

def moduleHeader : Pattern :=
  inOrder [.boundary, literal "module", someBlanks, .group (.many 1 fun c => isWord c || c = ':')]

def structHeader : Pattern :=
  inOrder [.boundary, literal "struct", someBlanks, .group name, toBrace]

def abilityList : Pattern :=
  inOrder [.boundary, literal "has", someBlanks,
    .group (.many 1 fun c => isWord c || isBlank c || c = ',')]

def functionHeader : Pattern :=
  inOrder [.boundary, literal "public",
    optional (inOrder [literal "(", .many 0 (· ≠ ')'), literal ")"]), someBlanks,
    optional (.both (literal "entry") someBlanks), literal "fun", someBlanks, .group name, toBrace]

def globalBorrow : Pattern :=
  inOrder [.boundary, literal "borrow_global", optional (literal "_mut"), blanks, literal "<"]

/-- The text that a pattern's group kept. -/
def keptText (found : Match) : String := String.ofList (found.kept.headD [])

def moduleNames (code : String) : List String :=
  (moduleHeader.matchesIn (Code.plain code.toList)).map keptText

def between (code : List Char) (start stop : Nat) : List Char :=
  (code.drop start).take (stop - start)

/-- The abilities that a struct's header names. -/
def abilities (header : List Char) : List (List Char) :=
  match abilityList.firstIn? header with
  | some found => (pieces ',' (found.kept.headD [])).map trim
  | none => []

/-- A warning about a struct that is called a resource just before its header and has no `key`. -/
def structWarning? (code : List Char) (found : Match) : Option String :=
  let header := between code found.start found.stop
  if occurs "resource".toList (between code (found.start - 10) found.start) &&
      !(abilities header).contains "key".toList then
    some ("Resource struct '" ++ keptText found ++ "' has no 'key' ability for storage")
  else none

/-- A warning about a function that borrows global storage and does not say so in its header. -/
def functionWarning? (code : List Char) (found : Match) : Option String :=
  let body := between code found.stop (Code.blockEnd code found.stop)
  let header := between code found.start found.stop
  if globalBorrow.foundIn body && !occurs "acquires".toList header then
    some ("Function '" ++ keptText found ++ "' borrows global storage without 'acquires'")
  else none

/-- What every dialect of Move is checked for. -/
def check (source : String) : Validation :=
  let code := Code.plain source.toList
  { errors := Code.delimiterErrors source [Code.braces]
    warnings :=
      (if moduleHeader.foundIn code then [] else ["No Move module declaration found"]) ++
      (structHeader.matchesIn code).filterMap (structWarning? code) ++
      (functionHeader.matchesIn code).filterMap (functionWarning? code) }

/-- A feature that should not be used without another. -/
structure Usage where
  uses : String
  expects : String
  message : String

def Usage.misused (usage : Usage) (code : String) : Bool :=
  contains code usage.uses && !contains code usage.expects

def usageWarnings (usages : List Usage) (code : String) : List String :=
  (usages.filter (·.misused code)).map (·.message)

def aptosUsages : List Usage :=
  [⟨"aptos_framework::", "use aptos_framework::",
    "Consider using explicit imports for Aptos framework modules"⟩,
   ⟨"coin::", "coin::is_account_registered",
    "Coin operations should check if account is registered"⟩,
   ⟨"event::", "event::emit", "Event modules should emit events for important state changes"⟩,
   ⟨"public entry fun", "&signer", "Entry functions typically require a signer parameter"⟩]

def suiUsages : List Usage :=
  [⟨"sui::", "use sui::", "Consider using explicit imports for Sui framework modules"⟩,
   ⟨"object::", "object::uid", "Objects should have proper UID management"⟩,
   ⟨"transfer::", "transfer::public_transfer",
    "Consider using appropriate transfer functions for object ownership"⟩,
   ⟨"dynamic_field::", "dynamic_field::exists_",
    "Dynamic field operations should check existence before access"⟩,
   ⟨"clock::", "clock::timestamp_ms", "Clock operations should use proper timestamp functions"⟩]

/-- Counts over some sources. -/
structure Statistics where
  contracts : Nat
  modules : List String
  lines : Nat
deriving DecidableEq, Repr

def statistics (contracts : List Contract) : Statistics :=
  { contracts := contracts.length
    modules := contracts.flatMap fun c => moduleNames c.code
    lines := total (contracts.map fun c => countFilledLines c.code) }

def Statistics.fields (s : Statistics) : List (String × Json) :=
  [("contracts_analyzed", s.contracts), ("modules", .ofStrings s.modules),
   ("total_lines_of_code", s.lines)]

/-- An Aptos module with its address. -/
def aptosModule : Pattern :=
  inOrder [.boundary, literal "module", someBlanks,
    .either (.both (literal "0x") (.many 1 Code.isHex)) (.both (optional (literal "@")) name),
    literal "::", name]

def suiModule : Pattern :=
  inOrder [.boundary, literal "module", someBlanks, name, literal "::", name]

/-- A struct that is an object: it has the ability `key`. -/
def objectHeader : Pattern :=
  inOrder [.boundary, literal "struct", someBlanks, name, .many 0 (· ≠ '\x7b'), .boundary,
    literal "has", .boundary, .many 0 (· ≠ '\x7b'), .boundary, literal "key", .boundary]

def aptosCheck (source : String) : Validation :=
  (check source).warnIf
    (contains source "module " && !aptosModule.foundIn source.toList)
    "Aptos modules should use proper address format (0x...)"

def suiCheck (source : String) : Validation :=
  (((check source).warnIf
    (contains source "module " && !suiModule.foundIn source.toList)
    "Sui modules should use proper naming format (package::module)").warnIf
    (contains source "struct " && contains source "has key" && !contains source "id: UID")
    "Sui objects with 'key' ability should have an 'id: UID' field").warnIf
    (contains source "public entry fun" && !contains source "TxContext")
    "Entry functions should typically include TxContext parameter"

end ContractReview.Move
