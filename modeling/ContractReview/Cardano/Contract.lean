import ContractReview.Text.Search

/-!
Plutus contracts: how they are recognised.
-/

namespace ContractReview.Cardano

def marks : List String :=
  ["import Plutus.", "import PlutusTx", "validator", "BuiltinData", "ScriptContext"]

def isPlutus (code : String) : Bool := marks.any (Text.contains code)

end ContractReview.Cardano
