import FilterQuery.Text.Case.Upper
import FilterQuery.Text.Identifier

/-! # Names of constants

The name of a field is turned into the name of a constant in capitals, with `_` between words:
`createdAt` and `created-at` become `CREATED_AT`. -/

namespace FilterQuery.Declaration

/-- The name of a constant, character by character; the flag tells that the character in front
belongs to a word and is not a capital. -/
def constantChars (inWord : Bool) : List Char → List Char
  | [] => []
  | c :: rest =>
    if Text.isUppercase c then
      if inWord then '_' :: c :: constantChars false rest else c :: constantChars false rest
    else if c == '_' || c == '-' || c == '.' then '_' :: constantChars false rest
    else c.toUpper :: constantChars true rest

/-- The name of the constant for a field. -/
def constantName (field : String) : String := String.ofList (constantChars false field.toList)

/-- Whether the constant for a field has a name that is an identifier. -/
def hasConstant (field : String) : Bool := Text.isIdentifier (constantName field).toList

end FilterQuery.Declaration
