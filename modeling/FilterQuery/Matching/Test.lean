import FilterQuery.Operators
import FilterQuery.Value.Order

/-! # Tests of a single value

A `Test` is the condition that a comparison puts on one value of one field: a built-in comparison
with a literal, a test for absence, or a custom operator.

## Key results

* `isInfix_iff`: `isInfix` is containment of texts
* `accepts_compare_negated`: a negated operator matches exactly where its positive form does not -/

namespace FilterQuery

/-- A condition on a single value. -/
inductive Test where
  /-- A built-in comparison with a literal. -/
  | compare (op : Operator) (literal : Value) (ignoreCase : Bool)
  /-- The value is absent, or is set if `negated`. -/
  | null (negated : Bool)
  /-- A custom operator with the text of its literal. -/
  | custom (op : CustomOperator) (literal : String)

/-- Whether one text occurs in another. -/
def isInfix (needle haystack : List Char) : Bool :=
  match haystack with
  | [] => needle.isEmpty
  | c :: rest => needle.isPrefixOf (c :: rest) || isInfix needle rest

/-- `isInfix` decides whether the needle is a contiguous part of the haystack. -/
theorem isInfix_iff {needle haystack : List Char} :
    isInfix needle haystack = true ↔ needle <:+: haystack := by
  induction haystack with
  | nil => simp [isInfix]
  | cons c rest ih => simp [isInfix, ih, List.infix_cons_iff]

/-- Whether an operator on text holds between the text of a value and the text of a literal. -/
def Operator.holdsOfTexts (op : Operator) (haystack needle : List Char) : Bool :=
  match op with
  | .contains => isInfix needle haystack
  | .startsWith => needle.isPrefixOf haystack
  | .endsWith => needle.isSuffixOf haystack
  | _ => false

/-- Whether a positive operator holds between a value and a literal.  None holds of a missing
value, nor between values that cannot be compared. -/
def holdsPositive (op : Operator) (value literal : Value) (ignoreCase : Bool) : Bool :=
  if value.isAbsent then false
  else if op.isText then
    match value.print?, literal.print? with
    | some haystack, some needle =>
      if ignoreCase then op.holdsOfTexts (Text.lower haystack) (Text.lower needle)
      else op.holdsOfTexts haystack needle
    | _, _ => false
  else
    match value.compareSet? ignoreCase literal with
    | some ordering => op.admits ordering
    | none => false

/-- Whether the value satisfies the condition.  A negated operator is the exact negation of its
positive form, so it holds of missing values. -/
def Test.accepts : Test → Value → Bool
  | null negated, value => value.isAbsent != negated
  | custom op literal, value => op.predicate value literal
  | compare op literal ignoreCase, value =>
    if op.isNegated then !holdsPositive op.positive value literal ignoreCase
    else holdsPositive op value literal ignoreCase

/-- A negated operator matches exactly where its positive form does not. -/
theorem Test.accepts_compare_negated {op : Operator} (h : op.isNegated = true)
    (value literal : Value) (ignoreCase : Bool) :
    (Test.compare op literal ignoreCase).accepts value =
      !(Test.compare op.positive literal ignoreCase).accepts value := by
  simp [Test.accepts, h, Operator.isNegated_positive]

end FilterQuery
