import FilterQuery.Declaration.Statement

/-! # Readers for nested parts

The readers of the parts are tied together: the grammar for one more level of nesting reads its
parts with the grammar for the levels below.  At most two levels are entered before a lexeme is read
or a group is entered, so with twice as many levels as there are lexemes no part is refused for its
depth.

## Key results

* `entriesOf_nil`: an attribute without arguments has no entries -/

namespace FilterQuery.Declaration

namespace Grammar

/-- The grammar that reads nothing. -/
def refusing : Grammar where
  path := Reader.fail .segment
  type := fun _ => Reader.fail .type
  operand := fun _ => Reader.fail .expression
  extend := fun _ _ _ => Reader.fail .expression
  early := Reader.fail .expression
  statements := Reader.fail .expression
  pattern := Reader.fail .pattern

/-- The grammar for one more level of nesting than `g` reads. -/
def deepen (g : Grammar) : Grammar where
  path := readPath g true
  type := readType g
  operand := readOperand g
  extend := readExtension g
  early := readEarly g
  statements := readStatements g
  pattern := readPattern g

/-- The grammar for so many levels of nesting. -/
def atDepth : Nat → Grammar
  | 0 => refusing
  | depth + 1 => (atDepth depth).deepen

/-- The grammar with levels enough for the given trees. -/
def forTrees (trees : List Tree) : Grammar := atDepth (2 * (lexemesOf trees).length + 2)

end Grammar

/-- Reads the arguments of an attribute as entries. -/
def entriesOf (arguments : List Tree) : Except FormProblem (List Entry) :=
  ((readEntries (.forTrees arguments)).run ⟨arguments, true⟩).map (·.1)

/-- An attribute without arguments has no entries. -/
@[simp] theorem entriesOf_nil : entriesOf [] = .ok [] := by
  unfold entriesOf readEntries
  rw [Reader.run_terminated_nil]
  rfl

end FilterQuery.Declaration
