import ContractReview.Code.Rule

/-!
The line rules of each platform.
-/

namespace ContractReview.Rule

open Text Text.Pattern

/-- Text that stops before a character. -/
def upTo (stop : Char) : Pattern := .many 0 (· ≠ stop)

def solana : List Rule := [
  { id := "unchecked-arithmetic"
    pattern := inOrder [name, blanks, anyOf [literal "+", literal "-", literal "*"], literal "=",
      blanks, name]
    severity := .medium
    title := "Unchecked arithmetic"
    description := "Compound arithmetic on account balances can overflow in release builds."
    recommendation := "Use checked_add/checked_sub/checked_mul and handle the None case."
    confidence := 0.45 },
  { id := "anchor-missing-signer"
    pattern := .both .boundary (literal "Context<")
    severity := .high
    title := "Missing Signer Validation"
    description := "Instruction context never requires a Signer account."
    recommendation := "Add a Signer<'info> account to the accounts struct."
    confidence := 0.6
    unless? := some (.either (word "Signer") (literal "is_signer")) },
  { id := "missing-owner-validation"
    pattern := word "AccountInfo"
    severity := .medium
    title := "Missing Account Owner Validation"
    description := "Account usage without proper owner validation."
    recommendation := "Validate account ownership before processing."
    confidence := 0.5
    unless? := some (word "owner") },
  { id := "insecure-pda-derivation"
    pattern := inOrder [literal "find_program_address(", upTo '\n',
      .either (literal "user.key()") (literal ".as_ref()")]
    severity := .high
    title := "Insecure PDA Derivation"
    description := "PDA seeds are derived from caller-controlled keys without a stored bump."
    recommendation := "Store and verify the canonical bump and include a static seed prefix."
    confidence := 0.5
    unless? := some (word "bump") }]

def cardano : List Rule := [
  { id := "unsafe-datum-decoding"
    pattern := word "unsafeFromBuiltinData"
    severity := .medium
    title := "Unchecked datum/redeemer decoding"
    description :=
      "unsafeFromBuiltinData fails the script with an opaque error on malformed input."
    recommendation :=
      "Decode with fromBuiltinData and reject malformed data with a traced error."
    confidence := 0.6 },
  { id := "partial-function"
    pattern := .either
      (inOrder [.boundary, anyOf [literal "head", literal "tail", literal "fromJust"], .boundary])
      (literal "!!")
    severity := .low
    title := "Partial function in on-chain code"
    description :=
      "Partial functions abort without a meaningful error when their input is empty."
    recommendation := "Pattern match explicitly and fail with traceError."
    confidence := 0.5 },
  { id := "missing-signature-check"
    pattern := .either (word "mkValidator")
      (inOrder [.boundary, literal "validator", blanks, literal "::"])
    severity := .high
    title := "Validator without signature check"
    description :=
      "The validator never checks txSignedBy, so any party can spend the locked output."
    recommendation := "Require the expected public key hash with txSignedBy in the validator."
    confidence := 0.55
    unless? := some (word "txSignedBy") },
  { id := "missing-deadline-check"
    pattern := word "deadline"
    severity := .medium
    title := "Deadline referenced without validity range check"
    description := "A deadline is used but the transaction validity range is never inspected."
    recommendation :=
      "Compare the deadline against txInfoValidRange using contains/before/after."
    confidence := 0.5
    unless? := some (word "txInfoValidRange") }]

/-- The rules for every dialect of Move. -/
def move : List Rule := [
  { id := "magic-abort-code"
    pattern := .either
      (inOrder [.boundary, literal "abort", someBlanks, digits])
      (inOrder [literal "assert!(", upTo ';', literal ",", blanks, digits, blanks, literal ")"])
    severity := .informational
    title := "Numeric abort code"
    description := "Abort codes written as literals are hard to map back to error conditions."
    recommendation :=
      "Declare named error constants (const E_...: u64) and use them in abort/assert!."
    confidence := 0.7 },
  { id := "mutable-global-borrow"
    pattern := inOrder [.boundary, literal "borrow_global_mut", blanks, literal "<"]
    severity := .low
    title := "Mutable borrow of global storage"
    description :=
      "The function mutates a global resource; make sure only authorised signers reach it."
    recommendation := "Check the signer's address before borrowing global state mutably."
    confidence := 0.5 },
  { id := "unrestricted-entry"
    pattern := inOrder [.boundary, literal "public", someBlanks, literal "entry", someBlanks,
      literal "fun", someBlanks, name, blanks, literal "(", blanks, literal ")"]
    severity := .medium
    title := "Entry function without parameters"
    description := "An entry function takes no signer or arguments and can be called by anyone."
    recommendation := "Accept a &signer and check the caller if the function changes state."
    confidence := 0.5 }]

def aptos : List Rule := [
  { id := "unregistered-coin-transfer"
    pattern := inOrder [.boundary, literal "coin::",
      .either (literal "transfer") (literal "deposit"), .boundary]
    severity := .medium
    title := "Coin transfer without registration check"
    description :=
      "Depositing into an account that never registered the coin type aborts the transaction."
    recommendation :=
      "Check coin::is_account_registered before transferring or depositing coins."
    confidence := 0.5
    unless? := some (literal "coin::is_account_registered") },
  { id := "timestamp-dependence"
    pattern := inOrder [.boundary, literal "timestamp::now_",
      .either (literal "seconds") (literal "microseconds"), .boundary]
    severity := .low
    title := "Block timestamp dependence"
    description := "Validators influence block timestamps within a tolerance window."
    recommendation := "Avoid using the timestamp for randomness or tight deadlines."
    confidence := 0.4 },
  { id := "resource-account-signer"
    pattern := .either (word "create_resource_account")
      (.both .boundary (literal "resource_account::"))
    severity := .high
    title := "Resource account without signer validation"
    description :=
      "Resource account capabilities are used but no signer address is ever checked."
    recommendation :=
      "Validate signer::address_of(account) before using resource account capabilities."
    confidence := 0.55
    unless? := some (literal "signer::address_of") }]

def sui : List Rule := [
  { id := "shared-object"
    pattern := inOrder [.boundary, literal "transfer::", optional (literal "public_"),
      literal "share_object", .boundary]
    severity := .medium
    title := "Shared object"
    description := "Shared objects can be accessed by any transaction and go through consensus."
    recommendation :=
      "Guard every mutating function on the shared object with a capability check."
    confidence := 0.5 },
  { id := "unchecked-dynamic-field"
    pattern := inOrder [.boundary, literal "dynamic_", optional (literal "object_"),
      literal "field::", anyOf [literal "borrow", literal "borrow_mut", literal "remove"],
      .boundary]
    severity := .medium
    title := "Dynamic field access without existence check"
    description := "Borrowing or removing a missing dynamic field aborts the transaction."
    recommendation := "Call dynamic_field::exists_ before borrowing or removing the field."
    confidence := 0.55
    unless? := some (inOrder [literal "dynamic_", optional (literal "object_"),
      literal "field::exists_"]) },
  { id := "clock-dependence"
    pattern := word "clock::timestamp_ms"
    severity := .low
    title := "Clock timestamp dependence"
    description := "Logic depends on the on-chain clock, which has coarse granularity."
    recommendation := "Allow for clock granularity when comparing deadlines."
    confidence := 0.4 }]

end ContractReview.Rule
