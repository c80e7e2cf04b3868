import ContractReview.Cardano.Review
import ContractReview.Evm.Review
import ContractReview.Move.Review
import ContractReview.Platform.Stock
import ContractReview.Solana.Review

/-!
Platforms whose contracts are reviewed in the same way, and the analyzers that the known platforms
have by default.
-/

namespace ContractReview

inductive Family
  | evm | solana | cardano | aptos | sui
deriving DecidableEq, Repr

namespace Family

variable {σ : Type}

/-- The platforms that have an analyzer. -/
def members : List (String × Family) :=
  Evm.platforms.map (·, .evm) ++
  [("cardano", .cardano), ("solana", .solana), ("aptos", .aptos), ("sui", .sui)]

def stages (f : Family) (tools : Tools σ) (platform : String) (options : ReviewOptions)
    (evm : Evm.Options := {}) : Stages σ :=
  match f with
  | .evm => Evm.stages tools platform options evm
  | .solana => Solana.stages tools platform options
  | .cardano => Cardano.stages tools platform options
  | .aptos => Move.stages tools .aptos platform options
  | .sui => Move.stages tools .sui platform options

def pipeline (f : Family) (tools : Tools σ) (models : Models σ) (platform : String)
    (options : ReviewOptions) (evm : Evm.Options := {}) : Pipeline σ :=
  { platform, options, models, stages := f.stages tools platform options evm }

end Family

namespace Workshop

variable {σ : Type}

/-- Analyzers of every family; each is told what its platform's reviews look out for. -/
def standard (tools : Tools σ) (models : Models σ) (options : ReviewOptions) :
    Workshop σ (Pipeline σ) :=
  { builders := Family.members.map fun (id, family) =>
      (id, fun platform => pure
        (family.pipeline tools models platform.id
          { options with focusAreas := platform.focusAreas }))
    health := fun p => p.stages.health }

end Workshop

end ContractReview
