import FilterQuery.Proofs.LongestSymbol
import FilterQuery.Proofs.RoundTrip

/-!
# Values without a separator

A value that is written with its own escapes right behind an operator is read back, whatever it
says, unless its first character makes the symbol of the operator longer. Then the filter is read
as one with the longer operator and the rest of the value.

## Key results

- `parse_unseparated`: where the value does not make the operator longer, it is read back
- `exists_parse_of_extends`: where it does, the filter is read with another operator
- `parse_unseparated_iff`: which values need no separator
-/

namespace FilterQuery

/-- A comparison as it is written with no more than the escapes of its value. -/
def writtenUnseparated (name : String) (op : Operator) (raw : String) (ignoreCase : Bool) :
    List Char :=
  name.toList ++ (op.symbol.toList ++ (escapeValue raw.toList ++ writtenMark ignoreCase))

variable {name : String} {op : Operator} {raw : String}

/-- A value that does not make the operator longer has no separator in front of it. -/
theorem print_eq_writtenUnseparated
    (hraw : ∀ c ∈ raw.toList.head?, op.mayExtendBy isFieldChar c = false) (name : String)
    (ignoreCase : Bool) :
    (Expr.comparison (.field name none) op (.value raw ignoreCase)).print =
      writtenUnseparated name op raw ignoreCase := by
  have hseparator : separator op (.value raw ignoreCase) = [] := by
    unfold separator
    cases h : raw.toList with
    | nil => simp [h]
    | cons c cs => simp [h, hraw c (by simp [h])]
  simp [Expr.print, hseparator, writtenUnseparated, writtenMark]

/-- A value that does not make the operator longer is read back. -/
theorem parse_unseparated (hne : name ≠ "") (hname : ∀ c ∈ name.toList, isFieldChar c = true)
    (hop : op ∈ Operator.builtin)
    (hraw : ∀ c ∈ raw.toList.head?, op.mayExtendBy isFieldChar c = false) (ignoreCase : Bool) :
    parse [] (String.ofList (writtenUnseparated name op raw ignoreCase)) =
      ⟨.comparison (.field name none) op (.value raw ignoreCase), []⟩ := by
  rw [← print_eq_writtenUnseparated hraw]
  exact parse_text (by simp)
    (.operand (.comparison (.primary (.field hne hname)) rfl (.inl hop)))

/-- A value that makes the operator longer is read without its first character, behind another
operator. -/
theorem exists_parse_of_extends (hne : name ≠ "")
    (hname : ∀ c ∈ name.toList, isFieldChar c = true) (hop : op ∈ Operator.builtin) {c : Char}
    {cs : List Char} (hraw : raw.toList = c :: cs) (hc : op.mayExtendBy isFieldChar c = true)
    (ignoreCase : Bool) :
    ∃ longer ≠ op, parse [] (String.ofList (writtenUnseparated name op raw ignoreCase)) =
      ⟨.comparison (.field name none) longer (.value (String.ofList cs) ignoreCase), []⟩ := by
  obtain ⟨longer, hlonger, hsymbol, hlast⟩ := exists_longer_of_mayExtendBy hop hc
  have hnot : longer ≠ op := by
    rintro rfl
    simp at hsymbol
  -- The first character stands without an escape, right behind the symbol.
  have hwritten : writtenUnseparated name op raw ignoreCase =
      writtenUnseparated name longer (String.ofList cs) ignoreCase := by
    simp [writtenUnseparated, hraw, hsymbol, escapeValue_of_mayExtendBy hc]
  refine ⟨longer, hnot, ?_⟩
  rw [hwritten]
  exact parse_unseparated hne hname hlonger (fun d _ => hlast d) ignoreCase

/-- Which first characters of a value make a built-in operator longer. -/
theorem exists_mayExtendBy_iff (hop : op ∈ Operator.builtin) {first : Option Char} :
    (∃ c ∈ first, op.mayExtendBy isFieldChar c = true) ↔
      op = .equal ∧ first = some '*' ∨ (op = .greater ∨ op = .less) ∧ first = some '=' := by
  cases op with
  | custom name => simp [Operator.builtin] at hop
  | _ => simp [Operator.mayExtendBy]

/-- A value with its own escapes is read back from right behind a built-in operator iff it does not
begin with `*` behind `=`, and not with `=` behind `>` or `<`. -/
theorem parse_unseparated_iff (hne : name ≠ "")
    (hname : ∀ c ∈ name.toList, isFieldChar c = true) (hop : op ∈ Operator.builtin) (raw : String)
    (ignoreCase : Bool) :
    parse [] (String.ofList (writtenUnseparated name op raw ignoreCase)) =
        ⟨.comparison (.field name none) op (.value raw ignoreCase), []⟩ ↔
      ¬(op = .equal ∧ raw.toList.head? = some '*' ∨
        (op = .greater ∨ op = .less) ∧ raw.toList.head? = some '=') := by
  rw [← exists_mayExtendBy_iff hop]
  constructor
  · rintro hread ⟨c, hc, hextends⟩
    obtain ⟨cs, hraw⟩ := List.head?_eq_some_iff.1 hc
    obtain ⟨longer, hnot, hother⟩ := exists_parse_of_extends hne hname hop hraw hextends ignoreCase
    rw [hread] at hother
    cases hother
    exact hnot rfl
  · intro hnot
    refine parse_unseparated hne hname hop (fun c hc => ?_) ignoreCase
    exact Bool.eq_false_iff.2 fun hextends => hnot ⟨c, hc, hextends⟩

/-- A value with an escape, a mark and a delimiter of its own is read back, and the slash at its end
is not taken for a part of the mark behind it. A value that begins with `=` is not read back from
behind `>`. -/
theorem parse_unseparated_iff_size :
    "size" ≠ "" ∧ (∀ c ∈ "size".toList, isFieldChar c = true) ∧
      Operator.equal ∈ Operator.builtin ∧ Operator.greater ∈ Operator.builtin ∧
      parse [] (String.ofList (writtenUnseparated "size" .equal "a\\/i,/" true)) =
        ⟨.comparison (.field "size" none) .equal (.value "a\\/i,/" true), []⟩ ∧
      parse [] (String.ofList (writtenUnseparated "size" .greater "=5" false)) ≠
        ⟨.comparison (.field "size" none) .greater (.value "=5" false), []⟩ := by
  have hne : "size" ≠ "" := by decide
  have hname : ∀ c ∈ "size".toList, isFieldChar c = true :=
    List.all_eq_true.1 (by decide : "size".toList.all isFieldChar = true)
  have hequal : Operator.equal ∈ Operator.builtin := by decide
  have hgreater : Operator.greater ∈ Operator.builtin := by decide
  refine ⟨hne, hname, hequal, hgreater, ?_, ?_⟩
  · exact (parse_unseparated_iff hne hname hequal _ _).2 (by decide)
  · exact fun hread => (parse_unseparated_iff hne hname hgreater _ _).1 hread (by decide)

end FilterQuery
