import ContractReview.Evm.Review
import ContractReview.Folder
import ContractReview.Proofs.Platform.Validation
import ContractReview.Proofs.Review.Act
import ContractReview.Proofs.Text.Search

/-!
Where the sources of contracts are written for Slither. The name of a contract is one part of a path
whatever its file is called, and with its ending it is neither of the two parts that lead elsewhere.
So every call of Slither finds its source in the scratch directory itself.
-/

namespace ContractReview

open Text

/-! ## Names -/

/-- The text can be the name of an entry of a directory: it is one part of a path, whichever slash
separates them, and leads neither back nor nowhere. -/
structure FilePath.IsPart (name : String) : Prop where
  filled : name ≠ ""
  noSlash : '/' ∉ name.toList
  noBackslash : '\\' ∉ name.toList
  notHere : name ≠ "."
  notUp : name ≠ ".."

theorem FilePath.parts_of_not_mem {name : String} (hempty : name ≠ "") (hhere : name ≠ ".")
    (hslash : '/' ∉ name.toList) : parts name = [name] := by
  unfold parts splitAt
  rw [pieces_of_not_mem hslash]
  simp [hempty, hhere]

/-- Behind a slash such a name is one more part. -/
theorem FilePath.IsPart.parts_append {name : String} (h : IsPart name) (folder : String) :
    parts (folder ++ "/" ++ name) = parts folder ++ [name] := by
  have hsplit : splitAt '/' (folder ++ "/" ++ name) = splitAt '/' folder ++ splitAt '/' name := by
    have htext : (folder ++ "/" ++ name).toList = folder.toList ++ '/' :: name.toList := by simp
    unfold splitAt
    rw [htext, pieces_append_cons, List.map_append]
  unfold parts
  rw [hsplit, List.filter_append]
  exact congrArg _ (parts_of_not_mem h.filled h.notHere h.noSlash)

namespace Contract

theorem not_mem_baseName {path : List Char} {c : Char} (hc : c = '/' ∨ c = '\\') :
    c ∉ baseName path := by
  intro hmem
  have hpart := List.mem_takeWhile_imp (List.mem_reverse.mp hmem)
  rw [decide_eq_true_eq] at hpart
  exact hc.elim hpart.1 hpart.2

theorem mem_of_cutLast? {mark c : Char} {cs before behind : List Char}
    (h : cutLast? mark cs = some (before, behind)) (hc : c ∈ before) : c ∈ cs := by
  unfold cutLast? at h
  dsimp only at h
  split at h
  · cases h
  next d left hleft =>
    cases h
    have hmem : c ∈ cs.reverse.dropWhile (· ≠ mark) := by
      rw [hleft]
      exact List.mem_cons_of_mem _ (List.mem_reverse.mp hc)
    exact List.mem_reverse.mp (List.dropWhile_sublist _ |>.subset hmem)

/-- What the stem of a name consists of stands in the name, unless there is no stem. -/
theorem mem_stem {base : List Char} {c : Char} (hc : c ∈ stem base) :
    c ∈ base ∨ c ∈ "Contract".toList := by
  unfold stem at hc
  dsimp only at hc
  split at hc
  · exact .inr hc
  · cases hcut : cutLast? '.' base with
    | none =>
        rw [hcut] at hc
        exact .inl hc
    | some found =>
        rw [hcut] at hc
        exact .inl (mem_of_cutLast? hcut hc)

theorem stem_ne_nil (base : List Char) : stem base ≠ [] := by
  unfold stem
  dsimp only
  split
  next => decide
  next hfilled => simpa using hfilled

/-- Neither slash is in the name of a contract. -/
theorem not_mem_name (contract : Contract) {c : Char} (hc : c = '/' ∨ c = '\\') :
    c ∉ contract.name.toList := by
  intro hmem
  rw [name, String.toList_ofList] at hmem
  rcases mem_stem hmem with hbase | hdefault
  · exact not_mem_baseName hc hbase
  · rcases hc with rfl | rfl
    · exact absurd hdefault (by decide)
    · exact absurd hdefault (by decide)

theorem name_ne_empty (contract : Contract) : contract.name ≠ "" := by
  intro hempty
  refine stem_ne_nil (baseName contract.filename.toList) ?_
  rw [← String.toList_ofList (l := stem _)]
  exact congrArg String.toList hempty

end Contract

namespace Evm

/-- The name that a source is written under is that of an entry of a directory. -/
theorem isPart_sourceName (c : Contract) : FilePath.IsPart (sourceName c) := by
  have htext : (sourceName c).toList = c.name.toList ++ ".sol".toList := String.toList_append
  have hlength : 4 ≤ (sourceName c).toList.length := by
    rw [htext, List.length_append]
    exact Nat.le_add_left 4 _
  have hslash (d : Char) (hd : d = '/' ∨ d = '\\') : d ∉ (sourceName c).toList := by
    rw [htext, List.mem_append, not_or]
    refine ⟨c.not_mem_name hd, ?_⟩
    rcases hd with rfl | rfl <;> decide
  have hlonger (name : String) (hname : name.toList.length < 4) : sourceName c ≠ name := by
    rintro rfl
    omega
  exact {
    filled := hlonger "" (by decide)
    noSlash := hslash '/' (.inl rfl)
    noBackslash := hslash '\\' (.inr rfl)
    notHere := hlonger "." (by decide)
    notUp := hlonger ".." (by decide) }

/-! ## Calls -/

variable {σ : Type}

/-- The call is given one source, which is the contract's file in the scratch directory. -/
structure Reads (scratch : Scratch) (c : Contract) (call : ToolCall) : Prop where
  files : call.files = some [(sourceName c, c.code)]
  path : call.args.head? = some (scratch.path ++ "/" ++ sourceName c)

end Evm

/-- The tools with a log of their calls. -/
def Tools.watched {σ : Type} (tools : Tools σ) : Tools (σ × List ToolCall) :=
  { run := fun call now =>
      let done := (tools.run call).run now.1
      (done.1, (done.2, now.2 ++ [call]))
    available := fun command now => tools.available command now.1
    scratch := tools.scratch }

/-- All calls in the log are of a kind. -/
def Logs {σ : Type} (P : ToolCall → Prop) (now : σ × List ToolCall) : Prop := ∀ call ∈ now.2, P call

namespace Evm

section Calls

variable {σ : Type} (tools : Tools σ) (platform : String) (review : ReviewOptions)
variable (options : Options) {P : ToolCall → Prop}

open Act

theorem preserves_runOn {c : Contract} {args : String → List String}
    (hargs : ∀ path, (args path).head? = some path)
    (hreads : ∀ call, Reads tools.scratch c call → P call) (timeout : Number)
    (names : List String) :
    Preserves (runOn tools.watched platform c args timeout names) (Logs P) := by
  unfold runOn
  split
  · exact .throw _
  · intro now hnow call hcall
    rcases List.mem_append.mp hcall with hold | hnew
    · exact hnow call hold
    · rw [List.mem_singleton.mp hnew]
      exact hreads _ ⟨rfl, hargs _⟩

theorem preserves_static {contracts : List Contract}
    (hreads : ∀ c ∈ contracts, ∀ call, Reads tools.scratch c call → P call) :
    Preserves (static tools.watched platform review options contracts) (Logs P) := by
  unfold static
  refine .bind (.mapM fun c hc => ?_) fun parts => .pure _
  refine .bind ?_ fun output => .bind (.lift _) fun found => .pure _
  exact preserves_runOn tools platform (fun path => rfl) (hreads c hc) _ _

theorem logs_syntaxCheck {c : Contract} (hreads : ∀ call, Reads tools.scratch c call → P call)
    (v : Validation) {now : σ × List ToolCall} (hnow : Logs P now) :
    Logs P (syntaxCheck tools.watched platform review options c v now).2 := by
  have hprobe : Preserves (syntaxProbe tools.watched platform review options c) (Logs P) :=
    preserves_runOn tools platform (fun _ => rfl) hreads _ _
  have hbehind := hprobe now hnow
  rw [syntaxCheck_eq]
  split
  · split
    next hrun =>
      rw [hrun] at hbehind
      exact hbehind
    next hrun =>
      rw [hrun] at hbehind
      exact hbehind
  · exact hnow

/-- Whatever its file is called, a contract has a name that is one part of a path and no more, and
both stages that run Slither do so on a source that is written right into the scratch directory. -/
theorem sources_in_scratch (s : σ) :
    (∀ c : Contract, c.name ≠ "" ∧ '/' ∉ c.name.toList ∧ '\\' ∉ c.name.toList ∧
      FilePath.IsPart (sourceName c) ∧
      ∀ folder, FilePath.parts (folder ++ "/" ++ sourceName c) =
        FilePath.parts folder ++ [sourceName c]) ∧
    (∀ contracts,
      ∀ call ∈ ((static tools.watched platform review options contracts).run (s, [])).2.2,
        ∃ c ∈ contracts, Reads tools.scratch c call) ∧
    ∀ c v, ∀ call ∈ (syntaxCheck tools.watched platform review options c v (s, [])).2.2,
      Reads tools.scratch c call := by
  refine ⟨fun c => ?_, fun contracts => ?_, fun c v => ?_⟩
  · have hpart := isPart_sourceName c
    exact ⟨c.name_ne_empty, c.not_mem_name (.inl rfl), c.not_mem_name (.inr rfl), hpart,
      hpart.parts_append⟩
  · refine preserves_static (P := fun call => ∃ c ∈ contracts, Reads tools.scratch c call) tools
      platform review options ?_ (s, []) (List.forall_mem_nil _)
    exact fun c hc call hcall => ⟨c, hc, hcall⟩
  · exact logs_syntaxCheck tools platform review options (fun _ hcall => hcall) v
      (List.forall_mem_nil _)

end Calls

example : sourceName { filename := "../..\\..", code := "", platform := "ethereum" } = "..sol" := by
  decide +kernel

end Evm

end ContractReview
