/-! # Escapes in filter texts

Inside a value or an index a backslash makes the next character literal.  `unescape` resolves the
escapes; `escapeValue` and `escapeIndex` write a text so that it is read back unchanged. -/

namespace FilterQuery

/-- The text with its escapes resolved; a backslash at the very end is read as `lone`. -/
def unescape (lone : List Char) : List Char → List Char
  | [] => []
  | ['\\'] => lone
  | '\\' :: c :: rest => c :: unescape lone rest
  | c :: rest => c :: unescape lone rest

/-- Characters that always end a value when they are not escaped. -/
def isValueDelimiter (c : Char) : Bool := c == ',' || c == '|' || c == '(' || c == ')'

/-- Whether the text begins with the mark that ends a value and makes it case-insensitive. -/
def startsIgnoreCase : List Char → Bool
  | '/' :: 'i' :: _ => true
  | _ => false

/-- Writes the text of a value: a backslash goes before each delimiter, each backslash, and each
slash that would begin the mark `/i`. -/
def escapeValue : List Char → List Char
  | [] => []
  | c :: rest =>
    if c == '\\' || isValueDelimiter c || startsIgnoreCase (c :: rest) then
      '\\' :: c :: escapeValue rest
    else c :: escapeValue rest

/-- Writes the key of an index: a backslash goes before each closing bracket and each backslash. -/
def escapeIndex (cs : List Char) : List Char :=
  cs.flatMap fun c => if c == ']' || c == '\\' then ['\\', c] else [c]

theorem unescape_backslash (lone : List Char) (c : Char) (rest : List Char) :
    unescape lone ('\\' :: c :: rest) = c :: unescape lone rest := rfl

theorem unescape_cons {lone : List Char} {c : Char} (h : c ≠ '\\') (rest : List Char) :
    unescape lone (c :: rest) = c :: unescape lone rest := by
  rw [unescape] <;> simp_all

/-- Escaped text of a value is read back unchanged. -/
theorem unescape_escapeValue (lone cs : List Char) : unescape lone (escapeValue cs) = cs := by
  induction cs with
  | nil => rfl
  | cons c rest ih =>
    unfold escapeValue
    split
    · rw [unescape_backslash, ih]
    · rename_i h
      -- A character that is not escaped is no backslash, so it stands for itself.
      have hc : c ≠ '\\' := fun e => h (by simp [e])
      rw [unescape_cons hc, ih]

/-- The escaped key of an index is read back unchanged. -/
theorem unescape_escapeIndex (lone cs : List Char) : unescape lone (escapeIndex cs) = cs := by
  induction cs with
  | nil => rfl
  | cons c rest ih =>
    rw [escapeIndex, List.flatMap_cons, ← escapeIndex]
    split
    · rw [List.cons_append, List.cons_append, List.nil_append, unescape_backslash, ih]
    · rename_i h
      have hc : c ≠ '\\' := fun e => h (by simp [e])
      rw [List.cons_append, List.nil_append, unescape_cons hc, ih]

end FilterQuery
