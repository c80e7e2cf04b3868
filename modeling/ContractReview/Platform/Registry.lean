import ContractReview.Fault
import ContractReview.Text.CaseMapping

/-!
The platforms that contracts are written for, which of them are active, and which one a file name
speaks for.
-/

namespace ContractReview

structure Platform where
  id : String
  name : String
  displayName : String
  languages : List String
  extensions : List String
  isActive : Bool := true
  analyzers : List String := []
  focusAreas : List String := []
deriving DecidableEq, Repr

namespace Platform

def evmFocus : List String :=
  ["solidity-security", "evm-patterns", "gas-optimization", "reentrancy"]

def moveFocus : List String := ["move-security", "resource-patterns", "capability-security"]

def generalFocus : List String := ["general-security", "best-practices"]

def evm (id displayName : String) : Platform :=
  { id, name := id, displayName, languages := ["solidity"], extensions := [".sol"]
    analyzers := ["slither"], focusAreas := evmFocus }

def move (id displayName : String) : Platform :=
  { id, name := id, displayName, languages := ["move"], extensions := [".move"]
    analyzers := [id], focusAreas := moveFocus }

def known : List Platform :=
  [evm "ethereum" "Ethereum", evm "bsc" "BNB Smart Chain", evm "polygon" "Polygon",
   { id := "solana", name := "solana", displayName := "Solana", languages := ["rust"]
     extensions := [".rs"], analyzers := ["clippy"]
     focusAreas := ["rust-security", "anchor-patterns", "pda-validation", "account-model"] },
   { id := "cardano", name := "cardano", displayName := "Cardano"
     languages := ["haskell", "plutus"]
     extensions := [".hs", ".plutus"], analyzers := ["ghc", "cabal", "hlint"]
     focusAreas := ["haskell-security", "plutus-patterns", "utxo-model", "datum-validation"] },
   move "aptos" "Aptos", move "sui" "Sui"]

end Platform

/-- Platforms in the order of their registration, one for each id. -/
structure Registry where
  platforms : List Platform
deriving DecidableEq, Repr

namespace Registry

/-- Registers a platform: one of a known id takes the old one's place. -/
def register (p : Platform) : List Platform → List Platform
  | [] => [p]
  | q :: rest => if q.id = p.id then p :: rest else q :: register p rest

def ofList (platforms : List Platform) : Registry :=
  ⟨platforms.foldl (fun all p => register p all) []⟩

def standard : Registry := ofList Platform.known

def find? (r : Registry) (id : String) : Option Platform := r.platforms.find? (·.id = id)

def active (r : Registry) : List Platform := r.platforms.filter (·.isActive)

def isActive (r : Registry) (id : String) : Bool :=
  match r.find? id with
  | some p => p.isActive
  | none => false

/-- Switches a platform on or off; an unknown one is a fault. -/
def setActive (r : Registry) (id : String) (isActive : Bool) : Except Fault Registry :=
  match r.find? id with
  | none => .error (.unknownPlatform id)
  | some _ =>
      .ok ⟨r.platforms.map fun p => if p.id = id then { p with isActive } else p⟩

/-- The extension of a path with its point; points that begin the name do not count. -/
def extension (path : List Char) : List Char :=
  let name := (path.reverse.takeWhile (· ≠ '/')).reverse
  let visible := name.dropWhile (· = '.')
  let tail := (visible.reverse.takeWhile (· ≠ '.')).reverse
  if visible.contains '.' then '.' :: tail else []

/-- The first active platform that a file's extension speaks for. -/
def detect (r : Registry) (filename : String) : Option String :=
  let ending := Text.lower (String.ofList (extension filename.toList))
  (r.active.find? fun p => p.extensions.contains ending).map (·.id)

def focusAreas (r : Registry) (id : String) : List String :=
  match r.find? id with
  | some p => if p.focusAreas.isEmpty then Platform.generalFocus else p.focusAreas
  | none => Platform.generalFocus

end Registry

example : Registry.extension "a/b.tar.sol".toList = ".sol".toList := by decide
example : Registry.extension "a.b/..sol".toList = [] := by decide

end ContractReview
