import FilterQuery.Declaration.FormProblem

/-! # Readers of trees

A `Reader` takes trees from the front of a `Source`.  Readers of the parts of a declaration are
made from the few readers of this module.

## Key results

* `run_symbol?`, `run_word?`: a symbol or a word is taken exactly if it is there
* `run_inside`: what a group holds is read without the trees behind the group
* `run_repeatStep_some`, `run_repeatStep_none`: a step that gives something goes on, one that gives
  nothing ends a repetition
* `run_terminated_nil`: a list may be empty -/

namespace FilterQuery.Declaration

/-- What is left to read. -/
structure Source where
  trees : List Tree
  /-- Whether groups that have been read so far were read up to their end. -/
  whole : Bool

/-- A reader of a part of a declaration. -/
abbrev Reader := StateT Source (Except FormProblem)

namespace Reader

/-- The trees that are left. -/
def ahead : Reader (List Tree) := return (← get).trees

/-- Leaves out trees at the front. -/
def advance (count : Nat) : Reader Unit :=
  modify fun source => { source with trees := source.trees.drop count }

/-- Reports that something else was expected. -/
def fail (expected : Expected) : Reader α := do throw (.missing expected (← ahead).isEmpty)

/-! ## Single trees -/

/-- Reads a symbol if it is there, and tells whether it is. -/
def symbol? (symbol : String) : Reader Bool := do
  if atSymbol symbol (← ahead) then
    advance symbol.length
    return true
  return false

/-- Reads a symbol. -/
def symbol (symbol : String) : Reader Unit := do
  unless ← symbol? symbol do fail (.symbol symbol)

/-- Reads a word if it is there, and tells whether it is. -/
def word? (word : String) : Reader Bool := do
  if atWord word (← ahead) then
    advance 1
    return true
  return false

/-- Reads a word. -/
def word (word : String) : Reader Unit := do
  unless ← word? word do fail (.word word)

/-- Reads a word, which may be a keyword. -/
def anyWord : Reader String := do
  match ← ahead with
  | .leaf (.word word) :: _ =>
    advance 1
    return word
  | _ => fail .identifier

/-- Reads a word that is no keyword. -/
def identifier : Reader String := do
  match ← ahead with
  | .leaf (.word word) :: _ =>
    if keywords.contains word then throw (.keyword word)
    advance 1
    return word
  | _ => fail .identifier

/-- Reads a lifetime. -/
def lifetime : Reader Unit := do
  unless atLifetime (← ahead) do fail .lifetime
  advance 1

/-- Reads a literal. -/
def literal : Reader Unit := do
  let size := literalSize (← ahead)
  if size = 0 then fail .literal
  advance size

/-- Reads what a group holds; something may be left of it, which the source keeps in mind. -/
def inside (delimiter : Delimiter) (content : Reader α) : Reader α := do
  match ← get with
  | ⟨.group first trees :: rest, whole⟩ =>
    if first = delimiter then
      let (a, after) ← (content.run ⟨trees, whole⟩ : Except FormProblem (α × Source))
      set (⟨rest, after.whole && after.trees.isEmpty⟩ : Source)
      return a
    else fail (.group delimiter)
  | _ => fail (.group delimiter)

/-! What the readers do to a source is stated by `run` lemmas, which follow the steps of a reader. -/

/-- A value is passed on to the next step. -/
@[simp] theorem ok_bind (a : α) (f : α → Except FormProblem β) : (.ok a >>= f) = f a := rfl

@[simp] theorem run_ahead (source : Source) : ahead.run source = .ok (source.trees, source) := rfl

@[simp] theorem run_advance (count : Nat) (source : Source) :
    (advance count).run source = .ok ((), { source with trees := source.trees.drop count }) := rfl

/-- A symbol is taken exactly if it is there. -/
theorem run_symbol? (text : String) (source : Source) :
    (symbol? text).run source =
      if atSymbol text source.trees then
        .ok (true, { source with trees := source.trees.drop text.length })
      else .ok (false, source) := by
  simp only [symbol?, StateT.run_bind, run_ahead, ok_bind]
  split <;> rfl

/-- A word is taken exactly if it is there. -/
theorem run_word? (text : String) (source : Source) :
    (word? text).run source =
      if atWord text source.trees then .ok (true, { source with trees := source.trees.drop 1 })
      else .ok (false, source) := by
  simp only [word?, StateT.run_bind, run_ahead, ok_bind]
  split <;> rfl

/-- A word is taken. -/
theorem run_anyWord (word : String) (rest : List Tree) (whole : Bool) :
    anyWord.run ⟨.leaf (.word word) :: rest, whole⟩ = .ok (word, ⟨rest, whole⟩) := rfl

/-- What a group holds is read without the trees behind the group. -/
theorem run_inside {content : Reader α} {a : α} {delimiter : Delimiter} {trees : List Tree}
    {whole : Bool} {after : Source} (rest : List Tree)
    (h : content.run ⟨trees, whole⟩ = .ok (a, after)) :
    (inside delimiter content).run ⟨.group delimiter trees :: rest, whole⟩ =
      .ok (a, ⟨rest, after.whole && after.trees.isEmpty⟩) := by
  simp only [inside, StateT.run_bind, StateT.run_get, pure_bind, ↓reduceIte,
    StateT.run_monadLift, monadLift_self, h]
  rfl

/-! ## Repetition -/

/-- Repeats a step as long as it gives something, at most `limit` times. -/
def repeatStep (step : α → Reader (Option α)) : (limit : Nat) → α → Reader α
  | 0, a => return a
  | limit + 1, a => do
    match ← step a with
    | some a => repeatStep step limit a
    | none => return a

/-- Repeats a step that takes a tree each time, as long as it gives something. -/
def iterate (step : α → Reader (Option α)) (a : α) : Reader α := do
  repeatStep step ((← ahead).length + 1) a

/-- A step that gives something is followed by further ones. -/
theorem run_repeatStep_some {step : α → Reader (Option α)} {source after : Source} {a b : α}
    (h : (step a).run source = .ok (some b, after)) (limit : Nat) :
    (repeatStep step (limit + 1) a).run source = (repeatStep step limit b).run after := by
  simp only [repeatStep, StateT.run_bind, h, ok_bind]

/-- A step that gives nothing ends a repetition. -/
theorem run_repeatStep_none {step : α → Reader (Option α)} {source after : Source} {a : α}
    (h : (step a).run source = .ok (none, after)) (limit : Nat) :
    (repeatStep step (limit + 1) a).run source = .ok (a, after) := by
  simp only [repeatStep, StateT.run_bind, h, ok_bind]
  rfl

theorem run_iterate {step : α → Reader (Option α)} {source after : Source} {a : α}
    (h : (step a).run source = .ok (none, after)) :
    (iterate step a).run source = .ok (a, after) := by
  simp only [iterate, StateT.run_bind, run_ahead, ok_bind, run_repeatStep_none h]

/-- Reads one more item if the trees ahead go on; the last item comes first. -/
def oneMore (goesOn : List Tree → Bool) (item : Reader α) (items : List α) :
    Reader (Option (List α)) := do
  if goesOn (← ahead) then return some ((← item) :: items) else return none

/-- Reads items while the trees ahead go on, which is to be true only if there is an item. -/
def many (goesOn : List Tree → Bool) (item : Reader α) : Reader (List α) := do
  return (← iterate (oneMore goesOn item) []).reverse

/-- Reads an item, and the comma behind it unless there is a stop. -/
def commaItem (stop : List Tree → Bool) (item : Reader α) : Reader α := do
  let a ← item
  unless stop (← ahead) do symbol ","
  return a

/-- Reads items with commas between them, and perhaps one behind the last, up to a stop. -/
def commaList (stop : List Tree → Bool) (item : Reader α) : Reader (List α) :=
  many (fun trees => !stop trees) (commaItem stop item)

/-- Reads items with commas between them up to the end. -/
def terminated (item : Reader α) : Reader (List α) := commaList List.isEmpty item

/-- Where trees go on, one more item is read. -/
theorem run_oneMore {goesOn : List Tree → Bool} {item : Reader α} {source after : Source} {a : α}
    (hgoes : goesOn source.trees = true) (h : item.run source = .ok (a, after)) (items : List α) :
    (oneMore goesOn item items).run source = .ok (some (a :: items), after) := by
  simp only [oneMore, StateT.run_bind, run_ahead, ok_bind, hgoes, if_true, h]
  rfl

/-- At a stop, no comma is read behind an item. -/
theorem run_commaItem_stop {stop : List Tree → Bool} {item : Reader α} {source after : Source} {a : α}
    (h : item.run source = .ok (a, after)) (hstop : stop after.trees = true) :
    (commaItem stop item).run source = .ok (a, after) := by
  simp only [commaItem, StateT.run_bind, h, ok_bind, run_ahead, hstop, if_true]
  rfl

/-- A comma that follows an item is read with it. -/
theorem run_commaItem_comma {stop : List Tree → Bool} {item : Reader α} {source after : Source}
    {a : α} (h : item.run source = .ok (a, after)) (hstop : stop after.trees = false)
    (hcomma : atSymbol "," after.trees = true) :
    (commaItem stop item).run source = .ok (a, { after with trees := after.trees.drop 1 }) := by
  simp only [commaItem, StateT.run_bind, h, ok_bind, run_ahead, hstop, symbol, run_symbol?, hcomma,
    Bool.false_eq_true, if_false, if_true]
  rfl

/-- Where nothing goes on, there are no items. -/
theorem run_many_of_not {goesOn : List Tree → Bool} {item : Reader α} {source : Source}
    (h : goesOn source.trees = false) : (many goesOn item).run source = .ok ([], source) := by
  have hstep : (oneMore goesOn item []).run source = .ok (none, source) := by
    simp only [oneMore, StateT.run_bind, run_ahead, ok_bind, h]
    rfl
  simp only [many, StateT.run_bind, run_iterate hstep, ok_bind]
  rfl

/-- A list may be empty. -/
theorem run_terminated_nil (item : Reader α) (whole : Bool) :
    (terminated item).run ⟨[], whole⟩ = .ok ([], ⟨[], whole⟩) :=
  run_many_of_not rfl

/-- Reads items with a symbol between them, and perhaps one behind the last, up to a stop or to an
item with no symbol behind it. -/
def separated (separator : String) (stop : List Tree → Bool) (item : Reader α) :
    Reader (List α) := do
  let step := fun (items, goesOn) => do
    if !goesOn || stop (← ahead) then return none
    let a ← item
    return some (a :: items, ← symbol? separator)
  return (← iterate step ([], true)).1.reverse

end Reader

end FilterQuery.Declaration
