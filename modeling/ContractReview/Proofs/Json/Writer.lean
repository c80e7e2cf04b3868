import ContractReview.Json.Writer
import ContractReview.Proofs.Json.Writing

/-!
What the writer makes of a value: it is written on one line, in ASCII, and an object is read again
as it was.
-/

namespace ContractReview.Json

/-! ## Escapes -/

theorem hexValue?_digitChar {n : Nat} (h : n < 16) : hexValue? (Nat.digitChar n) = some n := by
  interval_cases n <;> rfl

theorem exists_escapedUnit {n : Nat} (h : n < 0x10000) :
    ∃ x y z w, escapedUnit n = ['\\', 'u', x, y, z, w] ∧ hexFour? x y z w = some n := by
  refine ⟨_, _, _, _, rfl, ?_⟩
  simp only [hexFour?, hexValue?_digitChar (Nat.mod_lt _ (by decide : 0 < 16))]
  simp only [Option.bind_eq_bind, Option.bind_some, Option.pure_def, Option.some.injEq]
  omega

theorem characterWritten_escaped (c : Char) : CharacterWritten c (escaped c) := by
  simp only [escaped]
  split
  next hc =>
    subst hc
    exact .escape rfl
  split
  next hc =>
    subst hc
    exact .escape rfl
  split
  next hquote hback hc => exact .bare hquote hback hc.1
  split
  next hc =>
    obtain ⟨x, y, z, w, heq, hcode⟩ := exists_escapedUnit hc
    rw [heq]
    exact .unit hcode
  next hc =>
    have hvalid : c.toNat < 0xD800 ∨ 0xDFFF < c.toNat ∧ c.toNat < 0x110000 := c.valid
    obtain ⟨x, y, z, w, heq, hcode⟩ :=
      exists_escapedUnit (n := 0xD800 + (c.toNat - 0x10000) / 0x400) (by omega)
    obtain ⟨x', y', z', w', heq', hcode'⟩ :=
      exists_escapedUnit (n := 0xDC00 + (c.toNat - 0x10000) % 0x400) (by omega)
    rw [heq, heq']
    refine .pair hcode ?_ hcode' ?_ ?_
    · simp [isHigh]; omega
    · simp [isLow]; omega
    · omega

theorem textWritten_flatMap (text : List Char) : TextWritten text (text.flatMap escaped) := by
  induction text with
  | nil => exact .nil
  | cons c text ih => exact .cons (characterWritten_escaped c) ih

/-! ## Values -/

mutual

/-- Without doubles, with no whole number too long to be read, and no two fields of one name. -/
def Plain : Json → Prop
  | .num (.float _) => False
  | .num (.int i) => i.natAbs < 10 ^ Numeral.digitLimit
  | .arr items => PlainItems items
  | .obj fields => (fields.map Prod.fst).Nodup ∧ PlainFields fields
  | _ => True

def PlainItems : List Json → Prop
  | [] => True
  | v :: rest => Plain v ∧ PlainItems rest

def PlainFields : List (String × Json) → Prop
  | [] => True
  | (_, v) :: rest => Plain v ∧ PlainFields rest

end

theorem spacing_nil : Spacing [] := fun _ h => nomatch h

theorem fieldWritten_mk (name : String) {v : Json} {cs : List Char} (h : Written v cs) :
    FieldWritten (name, v) (writtenText name ++ ':' :: cs) :=
  .mk (textWritten_flatMap _) spacing_nil spacing_nil h

mutual

theorem Plain.written : (v : Json) → Plain v → Written v (Json.written v)
  | .null, _ => .null
  | .bool true, _ => .yes
  | .bool false, _ => .no
  | .num (.int _), h => .whole h
  | .str s, _ => .text (textWritten_flatMap s.toList)
  | .arr [], _ => .nothing spacing_nil
  | .arr (v :: items), h =>
      @Written.list [] _ _ spacing_nil (PlainItems.written (v :: items) (List.cons_ne_nil _ _) h)
  | .obj [], _ => .blank spacing_nil
  | .obj (field :: fields), h => @Written.object [] _ _ spacing_nil h.1
      (PlainFields.written (field :: fields) (List.cons_ne_nil _ _) h.2)

theorem PlainItems.written : (items : List Json) → items ≠ [] → PlainItems items →
    ItemsWritten items (separated (writtenItems items) ++ [']'])
  | [], hne, _ => absurd rfl hne
  | [v], _, h => .last (Plain.written v h.1) spacing_nil
  | v :: next :: items, _, h => by
      have hrest := PlainItems.written (next :: items) (List.cons_ne_nil _ _) h.2
      have hall := ItemsWritten.next (Plain.written v h.1) spacing_nil spacing_nil hrest
      simpa [separated, writtenItems] using hall

theorem PlainFields.written : (fields : List (String × Json)) → fields ≠ [] → PlainFields fields →
    FieldsWritten fields (separated (writtenFields fields) ++ ['\x7d'])
  | [], hne, _ => absurd rfl hne
  | [(name, v)], _, h => .last (fieldWritten_mk name (Plain.written v h.1)) spacing_nil
  | (name, v) :: next :: fields, _, h => by
      have hrest := PlainFields.written (next :: fields) (List.cons_ne_nil _ _) h.2
      have hall := FieldsWritten.next (fieldWritten_mk name (Plain.written v h.1)) spacing_nil
        spacing_nil hrest
      simpa [separated, writtenFields] using hall

end

/-- What the writer makes of an object is read as that object. -/
theorem readAll_written {fields : List (String × Json)} (h : Plain (.obj fields)) :
    readAll (written (.obj fields)) = .ok (.obj fields) := (Plain.written _ h).readAll_eq

/-! ## ASCII -/

/-- Every character is of ASCII. -/
def Ascii (cs : List Char) : Prop := ∀ c ∈ cs, c.toNat < 128

theorem Ascii.append {cs ds : List Char} (h : Ascii cs) (h' : Ascii ds) : Ascii (cs ++ ds) :=
  List.forall_mem_append.mpr ⟨h, h'⟩

theorem Ascii.mark {cs : List Char} (h : Ascii cs) {mark : Char} (hmark : mark.toNat < 128) :
    Ascii (mark :: cs) := List.forall_mem_cons.mpr ⟨hmark, h⟩

theorem ascii_nil : Ascii [] := fun _ h => nomatch h

theorem ascii_escapedUnit (n : Nat) : Ascii (escapedUnit n) := by
  have hdigit : ∀ m, (Nat.digitChar (m % 16)).toNat < 128 := fun m => by
    have hm : m % 16 < 16 := Nat.mod_lt _ (by decide)
    generalize m % 16 = d at hm
    interval_cases d <;> decide
  simp [Ascii, escapedUnit, Text.hexDigits, hdigit]

theorem ascii_escaped (c : Char) : Ascii (escaped c) := by
  simp only [escaped]
  split
  · exact (ascii_nil.mark (by decide)).mark (by decide)
  split
  · exact (ascii_nil.mark (by decide)).mark (by decide)
  split
  next hc => exact ascii_nil.mark (by omega)
  split
  · exact ascii_escapedUnit _
  · exact (ascii_escapedUnit _).append (ascii_escapedUnit _)

theorem ascii_writtenText (s : String) : Ascii (writtenText s) := by
  have htext : Ascii (s.toList.flatMap escaped) := fun c hc => by
    obtain ⟨d, -, hd⟩ := List.mem_flatMap.mp hc
    exact ascii_escaped d c hd
  exact (htext.append (ascii_nil.mark (by decide))).mark (by decide)

theorem ascii_separated {parts : List (List Char)} (h : ∀ part ∈ parts, Ascii part) :
    Ascii (separated parts) := by
  fun_induction separated parts with
  | case1 => exact ascii_nil
  | case2 part => exact h part List.mem_cons_self
  | case3 part rest _ ih =>
      obtain ⟨hpart, hrest⟩ := List.forall_mem_cons.mp h
      exact hpart.append ((ih hrest).mark (by decide))

theorem ascii_intText (i : Int) : Ascii (Double.intText i) := by
  rw [intText_eq]
  refine forall_numeral (fun c hc => ?_) (by simp) _ _ .none .none
  simp only [isAsciiDigit, Bool.and_eq_true, decide_eq_true_eq] at hc
  omega

mutual

theorem Plain.ascii : (v : Json) → Plain v → Ascii v.written
  | .null, _ => show Ascii ['n', 'u', 'l', 'l'] by simp [Ascii]
  | .bool true, _ => show Ascii ['t', 'r', 'u', 'e'] by simp [Ascii]
  | .bool false, _ => show Ascii ['f', 'a', 'l', 's', 'e'] by simp [Ascii]
  | .num (.int i), _ => ascii_intText i
  | .str s, _ => ascii_writtenText s
  | .arr items, h => ((ascii_separated (PlainItems.ascii items h)).append
      (ascii_nil.mark (by decide))).mark (by decide)
  | .obj fields, h => ((ascii_separated (PlainFields.ascii fields h.2)).append
      (ascii_nil.mark (by decide))).mark (by decide)

theorem PlainItems.ascii : (items : List Json) → PlainItems items →
    ∀ part ∈ writtenItems items, Ascii part
  | [], _ => fun _ h => nomatch h
  | v :: items, h => List.forall_mem_cons.mpr ⟨Plain.ascii v h.1, PlainItems.ascii items h.2⟩

theorem PlainFields.ascii : (fields : List (String × Json)) → PlainFields fields →
    ∀ part ∈ writtenFields fields, Ascii part
  | [], _ => fun _ h => nomatch h
  | (name, v) :: fields, h => List.forall_mem_cons.mpr
      ⟨(ascii_writtenText name).append ((Plain.ascii v h.1).mark (by decide)),
        PlainFields.ascii fields h.2⟩

end

end ContractReview.Json
