import ContractReview.Platform.Family
import ContractReview.Proofs.Outcome
import ContractReview.Proofs.Review.Act

/-!
What the static stage finds, contract by contract. The findings of its report are the shares of the
contracts one after the other, each share is what the tool's answer and the rules come to on one
contract, and all findings of a share are about that contract's file, with the id that belongs to
them.
-/

namespace ContractReview

variable {σ : Type}

open Outcome

/-- The findings are about a file. -/
def Finding.AllIn (file : String) (findings : List Finding) : Prop :=
  ∀ f ∈ findings, f.location.file = file

/-- The finding carries the id that it has on a platform. -/
def Finding.Identified (platform : String) (f : Finding) : Prop :=
  f.id = idOf platform f.category f.location f.description

/-- The finding is about a file, and carries the id that it has on a platform. -/
structure Finding.Made (platform file : String) (f : Finding) : Prop where
  file : f.location.file = file
  identified : f.Identified platform

open Finding (AllIn Made)

namespace Rule

theorem onLines_made (rule : Rule) (c : Contract) (platform : String) (number : Nat)
    (lines : List (List Char)) :
    ∀ f ∈ rule.onLines c platform number lines, f.Made platform c.filename := by
  induction lines generalizing number with
  | nil => simp [onLines]
  | cons line rest ih =>
      unfold onLines
      cases hfound : rule.onLine? c platform number line with
      | none => exact ih (number + 1)
      | some found =>
          obtain ⟨span, -, rfl⟩ := Option.map_eq_some_iff.mp hfound
          exact List.forall_mem_cons.mpr ⟨⟨rfl, rfl⟩, ih (number + 1)⟩

theorem applyAll_made (rules : List Rule) (c : Contract) (platform : String) :
    ∀ f ∈ applyAll rules c platform, f.Made platform c.filename := by
  intro f hf
  obtain ⟨rule, -, hf⟩ := List.mem_flatMap.mp hf
  unfold apply at hf
  split at hf
  · cases hf
  · exact rule.onLines_made c platform 1 _ f hf

end Rule

/-! ## Tools -/

section Tools

variable (platform file : String)

namespace Slither

theorem gives_entryFinding (entry : Json) :
    Gives (entryFinding platform file entry) (Made platform file) := by
  unfold entryFinding
  repeat' refine .bind fun _ => ?_
  exact .ok ⟨rfl, rfl⟩

theorem gives_findings (report : Json) :
    Gives (findings platform file report) fun found => ∀ f ∈ found, f.Made platform file := by
  unfold findings
  repeat' refine .bind fun _ => ?_
  exact .mapM (gives_entryFinding platform file) _

theorem gives_lineFinding? (line : List Char) :
    Gives (lineFinding? platform file line) fun found => ∀ f ∈ found, f.Made platform file := by
  unfold lineFinding?
  split
  · exact .ok (by simp)
  · split
    · exact .ok (by simp)
    · refine .map fun number _ => ?_
      rintro f ⟨⟩
      exact ⟨rfl, rfl⟩

theorem gives_textFindings (output : String) :
    Gives (textFindings platform file output) fun found =>
      ∀ f ∈ found, f.Made platform file := by
  unfold textFindings
  refine .bindWith (.mapM (gives_lineFinding? platform file) _) fun found hfound => .ok ?_
  intro f hf
  obtain ⟨line, hline, hf⟩ := List.mem_filterMap.mp hf
  exact hfound line hline f hf

end Slither

theorem Evm.gives_findingsOf (output : ToolOutput) :
    Gives (findingsOf platform file output) fun found => ∀ f ∈ found, f.Made platform file := by
  unfold findingsOf
  refine .bind fun report => ?_
  split
  · split
    · exact .error
    · exact Slither.gives_findings platform file _
  · refine .bindWith (Slither.gives_textFindings platform file _) fun found hfound => ?_
    split
    · exact .error
    · exact .ok hfound

namespace Clippy

theorem gives_finding? (message code : Json) :
    Gives (finding? platform file message code) fun found =>
      ∀ f ∈ found, f.Made platform file := by
  unfold finding?
  refine .bind fun spans => ?_
  dsimp only
  split
  · exact .ok (by simp)
  · repeat' refine .bind fun _ => ?_
    refine .ok ?_
    rintro f ⟨⟩
    exact ⟨rfl, rfl⟩

/-- What an entry comes to is no finding, or one made for the file. -/
theorem gives_ofEntry (entry : Json) :
    Gives (ofEntry platform file entry) fun outcome =>
      ∀ f, outcome = .finding f → f.Made platform file := by
  unfold ofEntry
  refine .bind fun reason => ?_
  split
  · exact .ok (by simp)
  refine .bind fun message => .bind fun entry => .bind fun code => ?_
  split
  · exact .bind fun text => .ok (by simp)
  refine .bindWith (gives_finding? platform file _ _) fun found hfound => ?_
  cases found with
  | none => exact .ok (by simp)
  | some f =>
      refine .ok ?_
      rintro g ⟨⟩
      exact hfound f rfl

theorem gives_ofLine (line : List Char) :
    Gives (ofLine platform file line) fun outcome =>
      ∀ f, outcome = .finding f → f.Made platform file := by
  unfold ofLine
  split
  · split
    · exact gives_ofEntry platform file _
    · exact .error
    · exact .ok (by simp)
  · exact .ok (by simp)

theorem gives_messages (stdout : String) :
    Gives (messages platform file stdout) fun found =>
      ∀ f ∈ found.findings, f.Made platform file := by
  unfold messages
  refine .bindWith (.mapM (gives_ofLine platform file) _) fun outcomes houtcomes => .ok ?_
  intro f hf
  obtain ⟨outcome, hmem, hf⟩ := List.mem_filterMap.mp hf
  refine houtcomes outcome hmem f ?_
  split at hf
  · cases hf
    rfl
  · cases hf

end Clippy

theorem Solana.gives_messagesOf (output : ToolOutput) :
    Gives (messagesOf platform file output) fun found =>
      ∀ f ∈ found.findings, f.Made platform file := by
  unfold messagesOf
  refine .bindWith (Clippy.gives_messages platform file _) fun found hfound => ?_
  split
  · exact .error
  · exact .ok hfound

namespace Hlint

theorem gives_finding (hint : Json) :
    Gives (finding platform file hint) (Made platform file) := by
  unfold finding
  repeat' refine .bind fun _ => ?_
  exact .ok ⟨rfl, rfl⟩

theorem gives_findings (stdout : String) :
    Gives (findings platform file stdout) fun found => ∀ f ∈ found, f.Made platform file := by
  unfold findings
  exact .bind fun found => .mapM (gives_finding platform file) _

end Hlint

theorem Cardano.gives_findingsOf (output : ToolOutput) :
    Gives (findingsOf platform file output) fun found => ∀ f ∈ found, f.Made platform file := by
  unfold findingsOf
  split
  · split
    · exact .ok (by simp)
    · exact .error
  · exact Hlint.gives_findings platform file _

end Tools

/-! ## Shares -/

open Act

section Shares

variable (tools : Tools σ) (platform : String) (review : ReviewOptions) (names : List String)

/-- What Slither's answer on one contract comes to. -/
def Evm.Finds (options : Evm.Options) (c : Contract) (share : List Finding) : Prop :=
  ∃ output,
    Yields (runOn tools platform c options.selection.args review.timeout names) output ∧
      findingsOf platform c.filename output = .ok share

/-- What the rules find in one contract, and Clippy's answer on it behind that. -/
def Solana.Finds (c : Contract) (share : List Finding) : Prop :=
  ∃ messages, Yields (runClippy tools platform review c names) messages ∧
    share = Rule.applyAll Rule.solana c platform ++ messages.findings

/-- What the rules find in one contract, and HLint's answer on it behind that, if it is there. -/
def Cardano.Finds (c : Contract) (share : List Finding) : Prop :=
  ∃ hints, (hints = [] ∨ Yields (runHlint tools platform review c names) hints) ∧
    share = Rule.applyAll Rule.cardano c platform ++ hints

/-- What the rules find in one module. -/
def Move.Finds (dialect : Move.Dialect) (c : Contract) (share : List Finding) : Prop :=
  share = Rule.applyAll (Rule.move ++ dialect.rules) c platform

/-- What the static stage of a family finds in one of the contracts of those names. -/
def Family.Finds (f : Family) (evm : Evm.Options) (c : Contract) (share : List Finding) : Prop :=
  match f with
  | .evm => Evm.Finds tools platform review names evm c share
  | .solana => Solana.Finds tools platform review names c share
  | .cardano => Cardano.Finds tools platform review names c share
  | .aptos => Move.Finds platform .aptos c share
  | .sui => Move.Finds platform .sui c share

variable {tools platform review names}

/-- Every finding in a contract's share is made for its file. -/
theorem Family.Finds.made {f : Family} {evm : Evm.Options} {c : Contract} {share : List Finding}
    (h : f.Finds tools platform review names evm c share) :
    ∀ found ∈ share, found.Made platform c.filename := by
  cases f with
  | evm =>
      obtain ⟨output, -, hshare⟩ := h
      exact Evm.gives_findingsOf platform c.filename output share hshare
  | solana =>
      obtain ⟨messages, hmessages, rfl⟩ := h
      obtain ⟨output, -, houtput⟩ := hmessages.of_bind
      exact List.forall_mem_append.mpr ⟨Rule.applyAll_made _ c platform,
        Solana.gives_messagesOf platform c.filename output messages houtput.of_lift⟩
  | cardano =>
      obtain ⟨hints, rfl | hhints, rfl⟩ := h
      · exact List.forall_mem_append.mpr ⟨Rule.applyAll_made _ c platform, by simp⟩
      · obtain ⟨output, -, houtput⟩ := hhints.of_bind
        exact List.forall_mem_append.mpr ⟨Rule.applyAll_made _ c platform,
          Cardano.gives_findingsOf platform c.filename output hints houtput.of_lift⟩
  | aptos =>
      cases h
      exact Rule.applyAll_made _ c platform
  | sui =>
      cases h
      exact Rule.applyAll_made _ c platform

/-- Every finding in a contract's share is about its file. -/
theorem Family.Finds.allIn {f : Family} {evm : Evm.Options} {c : Contract} {share : List Finding}
    (h : f.Finds tools platform review names evm c share) : AllIn c.filename share :=
  fun found hfound => (h.made found hfound).file

/-- A report whose findings are shares of the contracts, and which has taken no time. -/
structure Report.SharedBy (report : Report) (contracts : List Contract)
    (Finds : Contract → List Finding → Prop) : Prop where
  findings : ∃ shares, List.Forall₂ Finds contracts shares ∧ report.findings = shares.flatten
  executionTime : report.executionTime = .float 0.0

variable {contracts : List Contract} {report : Report}

theorem Evm.sharedBy_static {options : Evm.Options}
    (h : Yields (Evm.static tools platform review options contracts) report) :
    report.SharedBy contracts
      (Evm.Finds tools platform review (contracts.map (·.filename)) options) := by
  unfold Evm.static at h
  obtain ⟨parts, hparts, h⟩ := h.of_bind
  cases h.of_pure
  refine ⟨⟨parts.map (·.1), ?_, (List.flatMap_def ..)⟩, rfl⟩
  rw [List.forall₂_map_right_iff]
  refine (Yields.of_mapM hparts).imp fun c part hpart => ?_
  obtain ⟨output, houtput, hpart⟩ := hpart.of_bind
  obtain ⟨found, hfound, hpart⟩ := hpart.of_bind
  cases hpart.of_pure
  exact ⟨output, houtput, hfound.of_lift⟩

theorem Solana.sharedBy_static
    (h : Yields (Solana.static tools platform review contracts) report) :
    report.SharedBy contracts
      (Solana.Finds tools platform review (contracts.map (·.filename))) := by
  unfold Solana.static at h
  obtain ⟨found, -, h⟩ := h.of_bind
  obtain ⟨-, h⟩ := h.of_guard
  obtain ⟨-, h⟩ := h.of_guard
  obtain ⟨parts, hparts, h⟩ := h.of_bind
  cases h.of_pure
  refine ⟨⟨parts.map (·.1), ?_, List.flatMap_def ..⟩, rfl⟩
  rw [List.forall₂_map_right_iff]
  refine (Yields.of_mapM hparts).imp fun c part hpart => ?_
  obtain ⟨messages, hmessages, hpart⟩ := hpart.of_bind
  cases hpart.of_pure
  exact ⟨messages, hmessages, rfl⟩

theorem Cardano.sharedBy_static
    (h : Yields (Cardano.static tools platform review contracts) report) :
    report.SharedBy contracts
      (Cardano.Finds tools platform review (contracts.map (·.filename))) := by
  unfold Cardano.static at h
  obtain ⟨found, -, h⟩ := h.of_bind
  obtain ⟨-, h⟩ := h.of_guard
  obtain ⟨-, h⟩ := h.of_guard
  obtain ⟨shares, hshares, h⟩ := h.of_bind
  cases h.of_pure
  refine ⟨⟨shares, ?_, rfl⟩, rfl⟩
  refine (Yields.of_mapM hshares).imp fun c share hshare => ?_
  dsimp only at hshare
  split at hshare
  · obtain ⟨hints, hhints, hshare⟩ := hshare.of_bind
    cases hshare.of_pure
    exact ⟨hints, .inr hhints, rfl⟩
  · obtain ⟨hints, hhints, hshare⟩ := hshare.of_bind
    cases hshare.of_pure
    exact ⟨hints, .inl hhints.of_pure.symm, rfl⟩

theorem Move.sharedBy_static {dialect : Move.Dialect}
    (h : Yields (Move.static tools dialect platform review contracts) report) :
    report.SharedBy contracts (Move.Finds platform dialect) := by
  unfold Move.static at h
  obtain ⟨found, -, h⟩ := h.of_bind
  obtain ⟨-, h⟩ := h.of_guard
  cases h.of_pure
  refine ⟨⟨contracts.map fun c => Rule.applyAll (Rule.move ++ dialect.rules) c platform, ?_,
    List.flatMap_def ..⟩, rfl⟩
  rw [List.forall₂_map_right_iff]
  exact List.forall₂_same.mpr fun c _ => rfl

/-- The findings of what the static stage returns are shares of the contracts. -/
theorem Family.sharedBy_static {f : Family} {evm : Evm.Options}
    (h : Yields ((f.stages tools platform review evm).static contracts) report) :
    report.SharedBy contracts
      (f.Finds tools platform review (contracts.map (·.filename)) evm) := by
  cases f with
  | evm => exact Evm.sharedBy_static h
  | solana => exact Solana.sharedBy_static h
  | cardano => exact Cardano.sharedBy_static h
  | aptos => exact Move.sharedBy_static h
  | sui => exact Move.sharedBy_static h

end Shares

end ContractReview
