import FilterQuery.Declaration.Tree

/-! # Problems with the form of declarations

What keeps a text from being a declaration, and how it is put in words. -/

namespace FilterQuery.Declaration

/-- What is expected at some place. -/
inductive Expected where
  | identifier
  /-- A further word of a path. -/
  | segment
  /-- The name or the position of a member. -/
  | member
  | lifetime
  | literal
  | symbol (text : String)
  | word (text : String)
  | group (delimiter : Delimiter)
  /-- A group of any sort. -/
  | anyGroup
  | type
  | pattern
  | expression
  /-- A block, or a loop. -/
  | blockOrLoop
  /-- The end of a range. -/
  | upperBound
  /-- What stands behind the first element of a list. -/
  | separator
deriving DecidableEq, Repr

/-- The delimiters in words. -/
def Delimiter.describe : Delimiter → String
  | paren => "parentheses"
  | bracket => "square brackets"
  | brace => "curly braces"

/-- The expectation in words. -/
def Expected.describe : Expected → String
  | identifier => "expected identifier"
  | segment => "expected path segment after `::`"
  | member => "expected identifier or integer"
  | lifetime => "expected lifetime"
  | literal => "expected literal"
  | symbol text => "expected `" ++ text ++ "`"
  | word text => "expected `" ++ text ++ "`"
  | group kind => "expected " ++ kind.describe
  | anyGroup => "expected delimiter"
  | type =>
    "expected one of: `for`, parentheses, `fn`, `unsafe`, `extern`, identifier, `::`, `<`, `dyn`, " ++
      "square brackets, `*`, `&`, `!`, `impl`, `_`, lifetime"
  | pattern =>
    "expected one of: identifier, `::`, `<`, `_`, literal, `const`, `ref`, `mut`, `&`, " ++
      "parentheses, square brackets, `..`"
  | expression => "expected an expression"
  | blockOrLoop => "expected loop or block expression"
  | upperBound => "expected range upper bound"
  | separator => "expected `,` or `;`"

/-- What stands where it may not, although its parts are all right. -/
inductive Misplaced where
  /-- An attribute as the value of an attribute. -/
  | attributeOfAttribute
  /-- An attribute in front of a range without lower bound. -/
  | attributeOfRange
  /-- A comparison as the left side of a comparison. -/
  | comparison
  /-- Something that goes on from a conversion. -/
  | behindCast (what : String)
  /-- A range without a bound among the patterns for the members of a list. -/
  | openRange
  /-- A loop with a label as the value of a loop that is left. -/
  | labeledLoop
  /-- Captured parameters where there are none. -/
  | capture
  /-- Only lifetimes in place of the bounds of a type. -/
  | lifetimes
  /-- Something behind a statement that does not end. -/
  | statement
deriving DecidableEq, Repr

/-- The problem in words. -/
def Misplaced.describe : Misplaced → String
  | attributeOfAttribute => "unexpected attribute inside of attribute"
  | attributeOfRange => "attributes are not allowed on range expressions starting with `..`"
  | comparison => "comparison operators cannot be chained"
  | behindCast what => "casts cannot be followed by " ++ what
  | openRange => "range pattern is not allowed unparenthesized inside slice pattern"
  | labeledLoop => "parentheses required"
  | capture => "`use<...>` precise capturing syntax is not allowed here"
  | lifetimes => "at least one trait is required for an object type"
  | statement => "unexpected token, expected `;`"

/-- What can be wrong with the form of a declaration. -/
inductive FormProblem where
  /-- A text that consists of no lexemes, or whose delimiters do not match. -/
  | unreadable
  /-- Something else than expected; `atEnd` tells that nothing is left. -/
  | missing (expected : Expected) (atEnd : Bool)
  /-- A keyword in place of an identifier. -/
  | keyword (word : String)
  | misplaced (what : Misplaced)
  /-- Something behind what should be the end. -/
  | leftover
deriving DecidableEq, Repr

/-- The problem in words.  A missing symbol is reported in the same way everywhere. -/
def FormProblem.message : FormProblem → String
  | unreadable => "cannot parse string into token stream"
  | missing (.symbol text) _ => (Expected.symbol text).describe
  | missing expected atEnd =>
    (if atEnd then "unexpected end of input, " else "") ++ expected.describe
  | keyword word => "expected identifier, found keyword `" ++ word ++ "`"
  | misplaced what => what.describe
  | leftover => "unexpected token"

end FilterQuery.Declaration
