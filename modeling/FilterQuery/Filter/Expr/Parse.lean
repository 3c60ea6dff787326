import FilterQuery.Filter.Expr
import FilterQuery.Filter.Token.Scan

/-! # Reading filter expressions

The grammar over the tokens of a text, blanks and bad tokens left out:

    filter  := operand (conjunction operand)*
    operand := primary (operator value)*
    primary := '(' filter ')' | field index?
    value   := text '/i'?

Both conjunctions bind equally and associate to the left.  Reading goes token by token through a
`Reading` state and never fails: a token that does not fit is recorded as a diagnostic, an empty
field or value stands in for what is missing, and a group that is not closed ends the reading. -/

namespace FilterQuery

/-- A left operand and the conjunction behind it, waiting for the right operand. -/
abbrev Pending := Option (Expr × Conjunction)

/-- Joins an operand to what was waiting for it. -/
def Pending.join : Pending → Expr → Expr
  | none, e => e
  | some (left, c), e => .logical left c e

/-- What has been read of the operand at hand. -/
inductive Focus where
  /-- Nothing: an operand has to begin. -/
  | operand
  /-- The name of a field, which an index may follow. -/
  | named (name : String)
  /-- A complete operand, which operators may still extend. -/
  | complete (e : Expr)
  /-- An operator, behind which a value has to follow. -/
  | compared (left : Expr) (op : Operator)
  /-- A value, which the mark `/i` may follow. -/
  | valued (left : Expr) (op : Operator) (raw : String)
deriving DecidableEq, Repr

/-- State of reading an expression. -/
structure Reading where
  /-- What waits outside each open group, innermost group first. -/
  outer : List Pending := []
  /-- What waits inside the innermost open group. -/
  pending : Pending := none
  focus : Focus := .operand
  diagnostics : List Diagnostic := []
deriving DecidableEq, Repr

namespace Reading

/-- Records that the token is not what was expected. -/
def report (s : Reading) (t : Token) (expected : Expectation) : Reading :=
  { s with diagnostics := s.diagnostics ++ [⟨.unexpected t.kind expected, t.position⟩] }

/-- Ends the reading at token `t` behind the complete operand `e`: every open group lacks its
closing parenthesis, and the text should end here. -/
def stop (t : Token) (diagnostics : List Diagnostic) :
    List Pending → Pending → Expr → FilterTree
  | [], pending, e =>
    ⟨pending.join e, if t.kind = .finish then diagnostics
      else diagnostics ++ [⟨.unexpected t.kind .finish, t.position⟩]⟩
  | outside :: outer, pending, e =>
    stop t (diagnostics ++ [⟨.unexpected t.kind .closeParen, t.position⟩]) outer outside
      (.group (pending.join e))

/-- Takes the token behind a complete operand. -/
def afterOperand (s : Reading) (e : Expr) (t : Token) : Reading ⊕ FilterTree :=
  match t.kind with
  | .operator op => .inl { s with focus := .compared e op }
  | .conjunction c => .inl { s with pending := some (s.pending.join e, c), focus := .operand }
  | .closeParen =>
    match s.outer with
    | outside :: outer =>
      .inl { s with
        outer := outer, pending := outside, focus := .complete (.group (s.pending.join e)) }
    -- A parenthesis that closes nothing ends the reading.
    | [] => .inr (stop t s.diagnostics s.outer s.pending e)
  | _ => .inr (stop t s.diagnostics s.outer s.pending e)

/-- Takes the token behind a value. -/
def afterValue (s : Reading) (left : Expr) (op : Operator) (raw : String) (t : Token) :
    Reading ⊕ FilterTree :=
  match t.kind with
  | .ignoreCase => .inl { s with focus := .complete (.comparison left op (.value raw true)) }
  | _ => s.afterOperand (.comparison left op (.value raw false)) t

/-- Takes one token: the reading goes on, or the filter is complete. -/
def step (s : Reading) (t : Token) : Reading ⊕ FilterTree :=
  match s.focus with
  | .operand =>
    match t.kind with
    | .openParen => .inl { s with outer := s.pending :: s.outer, pending := none }
    | .field => .inl { s with focus := .named t.text }
    | _ => (s.report t .operand).afterOperand (.field "" none) t
  | .named name =>
    match t.kind with
    | .index => .inl { s with focus := .complete (.field name (some t.text)) }
    | _ => s.afterOperand (.field name none) t
  | .complete e => s.afterOperand e t
  | .compared left op =>
    match t.kind with
    | .value => .inl { s with focus := .valued left op t.text }
    | _ => (s.report t .value).afterValue left op "" t
  | .valued left op raw => s.afterValue left op raw t

/-- Takes the tokens one by one.  A missing last token counts as the end of the text. -/
def run (s : Reading) : List Token → FilterTree
  | [] =>
    match s.step ⟨.finish, 0, ""⟩ with
    | .inl s => ⟨(s.pending.join (.field "" none)), s.diagnostics⟩
    | .inr tree => tree
  | t :: ts =>
    match s.step t with
    | .inl s => s.run ts
    | .inr tree => tree

end Reading

/-- Tokens that play no part in the grammar. -/
def TokenKind.isSkipped : TokenKind → Bool
  | .blank | .bad => true
  | _ => false

/-- Reads a filter, with the names of the custom operators that it may use. -/
def parse (customs : List String) (text : String) : FilterTree :=
  let (tokens, diagnostics) := scan customs text
  Reading.run { diagnostics } (tokens.filter fun t => !t.kind.isSkipped)

end FilterQuery
