import FilterQuery.Calendar.Reading
import FilterQuery.Value

/-! # Reading literals

The text of a literal is read as a value of the kind of the field it is compared with.  Except for
strings, white space around the text does not count. -/

namespace FilterQuery

/-- Reads `true`, `false` in any case, `1` or `0`. -/
def readBool? (cs : List Char) : Option Bool :=
  let word := cs.map Char.toLower
  if word = "true".toList ∨ cs = ['1'] then some true
  else if word = "false".toList ∨ cs = ['0'] then some false
  else none

namespace Value

/-- Reads the text of a literal as a value of the given kind.  Timestamps without a zone are taken at
the given offset in seconds. -/
def read? (kind : FieldKind) (offset : Int) (raw : String) : Option Value :=
  let cs := Text.trim raw.toList
  match kind with
  | .string => some (string raw)
  | .number => (Number.read? cs).map number
  | .bool => (readBool? cs).map bool
  | .timestamp => (Timestamp.read? offset cs).map timestamp
  | .uuid => (Uuid.read? cs).map uuid

/-- A literal that can be read has the kind it was read as. -/
theorem kind?_of_read? {kind : FieldKind} {offset : Int} {raw : String} {v : Value}
    (h : read? kind offset raw = some v) : v.kind? = some kind := by
  cases kind <;> simp only [read?, Option.map_eq_some_iff, Option.some.injEq] at h
  · subst h; rfl
  all_goals obtain ⟨_, _, rfl⟩ := h; rfl

end Value

end FilterQuery
