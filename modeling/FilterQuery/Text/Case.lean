import FilterQuery.Text.Case.Context
import FilterQuery.Text.Case.Lower

/-! # Lower case of a text

`lower` puts a whole text into lower case.  It works character by character with `lowerChar`,
except for the capital sigma, which becomes a final sigma at the end of a word and a plain one
elsewhere.  `lowerEach` is the same without regard to words. -/

namespace FilterQuery.Text

/-- Lower case of each character by itself. -/
def lowerEach (cs : List Char) : List Char := cs.flatMap lowerChar

/-- Whether the first character that is not case-ignorable is cased. -/
def meetsCased (cs : List Char) : Bool := ((cs.dropWhile isCaseIgnorable).head?.map isCased).getD false

/-- Lower case of the text `rest` that stands after the reversed text `before`. -/
def lowerAfter (before : List Char) : List Char → List Char
  | [] => []
  | c :: rest =>
    (if c = 'Σ' then [if meetsCased before && !meetsCased rest then 'ς' else 'σ'] else lowerChar c) ++
      lowerAfter (c :: before) rest

/-- Lower case of a text. -/
def lower (cs : List Char) : List Char := lowerAfter [] cs

theorem lowerAfter_eq_lowerEach {cs : List Char} (h : 'Σ' ∉ cs) (before : List Char) :
    lowerAfter before cs = lowerEach cs := by
  induction cs generalizing before with
  | nil => rfl
  | cons c cs ih =>
    -- Neither the first character nor the others are the one that looks at its context.
    have hc : c ≠ 'Σ' := fun e => h (by simp [e])
    have hcs : 'Σ' ∉ cs := fun e => h (by simp [e])
    simp [lowerAfter, lowerEach, hc, ih hcs]

/-- Without a capital sigma the context plays no part. -/
theorem lower_eq_lowerEach {cs : List Char} (h : 'Σ' ∉ cs) : lower cs = lowerEach cs :=
  lowerAfter_eq_lowerEach h []

end FilterQuery.Text
