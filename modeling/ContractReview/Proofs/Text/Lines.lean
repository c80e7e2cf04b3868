import ContractReview.Text.Lines

/-!
Lines of texts that are joined from others: a newline ends the line before it, and a text in which
nothing breaks a line is one line.
-/

namespace ContractReview.Text

theorem linesFrom_of_not_break {c : Char} (hc : isLineBreak c = false) (line rest : List Char) :
    linesFrom line (c :: rest) = linesFrom (c :: line) rest := by
  have hreturn : c ≠ '\r' := by
    rintro rfl
    cases hc
  rw [linesFrom.eq_3 line c rest fun _ h => absurd h hreturn, hc]
  rfl

theorem linesFrom_of_break {c : Char} (hc : isLineBreak c = true) {line rest : List Char}
    (hpair : ∀ more, c = '\r' → rest = '\n' :: more → False) :
    linesFrom line (c :: rest) = line.reverse :: linesFrom [] rest := by
  rw [linesFrom.eq_3 line c rest hpair, hc]
  rfl

theorem linesFrom_of_unbroken {cs : List Char} (h : ∀ c ∈ cs, isLineBreak c = false)
    (line : List Char) : linesFrom line cs = linesFrom (cs.reverse ++ line) [] := by
  induction cs generalizing line with
  | nil => rfl
  | cons c cs ih =>
      obtain ⟨hc, hcs⟩ := List.forall_mem_cons.mp h
      rw [linesFrom_of_not_break hc, ih hcs, List.reverse_cons, List.append_assoc,
        List.singleton_append]

theorem linesOf_of_unbroken {cs : List Char} (h : ∀ c ∈ cs, isLineBreak c = false)
    (hne : cs ≠ []) : linesOf cs = [cs] := by
  rw [linesOf, linesFrom_of_unbroken h, linesFrom, List.append_nil, List.reverse_reverse,
    if_neg (by simp [hne])]

/-- Where two texts are joined by a newline, so are their lines, up to an empty one between them:
the newline ends a line that may be empty, or belongs to a carriage return before it. -/
theorem exists_linesFrom_append (line cs more : List Char) :
    ∃ gap, (∀ piece ∈ gap, piece = []) ∧
      linesFrom line (cs ++ '\n' :: more) = linesFrom line cs ++ (gap ++ linesOf more) := by
  fun_induction linesFrom line cs with
  | case1 line hline =>
      rw [List.isEmpty_iff.mp hline]
      exact ⟨[[]], by simp, rfl⟩
  | case2 => exact ⟨[], by simp, rfl⟩
  | case3 line rest ih =>
      obtain ⟨gap, hgap, heq⟩ := ih
      exact ⟨gap, hgap, by simp [linesFrom, heq]⟩
  | case4 line c rest hpair hbreak ih =>
      by_cases hreturn : c = '\r' ∧ rest = []
      · obtain ⟨rfl, rfl⟩ := hreturn
        exact ⟨[], by simp, rfl⟩
      · obtain ⟨gap, hgap, heq⟩ := ih
        refine ⟨gap, hgap, ?_⟩
        have hnext : ∀ more', c = '\r' → rest ++ '\n' :: more = '\n' :: more' → False := by
          intro more' hc hnewline
          cases rest with
          | nil => exact hreturn ⟨hc, rfl⟩
          | cons d rest =>
              obtain rfl := (List.cons.inj hnewline).1
              exact hpair rest hc rfl
        rw [List.cons_append, linesFrom_of_break hbreak hnext, heq, List.cons_append]
  | case5 line c rest hpair hbreak ih =>
      obtain ⟨gap, hgap, heq⟩ := ih
      rw [Bool.not_eq_true] at hbreak
      exact ⟨gap, hgap, by rw [List.cons_append, linesFrom_of_not_break hbreak, heq]⟩

end ContractReview.Text
