import SqlFront.Syntax
/-!
# The parser

A recursive-descent parser from terminals to a `Program`, with one terminal of look-ahead. Its
grammar, by precedence from loosest to tightest in the conditions:

```text
program    := (stmt [;])*
stmt       := CREATE TABLE id ( coldef (, coldef)* )
            | INSERT INTO id VALUES ( val (, val)* )
            | SELECT (* | id (, id)*) FROM id [WHERE cond]
            | UPDATE id SET id = val (, id = val)* [WHERE cond]
            | DELETE FROM id [WHERE cond]
coldef     := id (INT | FLOAT | TEXT | id)
val        := NUMBER | FLOAT | STRING | NULL
cond       := conj (OR conj)*
conj       := neg (AND neg)*
neg        := NOT cmp | cmp
cmp        := expr [(= | != | < | > | <= | >=) expr]
expr       := term ((+ | -) term)*
term       := factor ((* | /) factor)*
factor     := ( cond ) | id | NUMBER | FLOAT | STRING
```

Chains of one precedence nest to the left.

## Errors and recovery

A syntax error names what was expected and the token found instead, and the parser then
*recovers*: it skips tokens up to the next semicolon, statement keyword or end, and goes on
from there with the part that failed left out. A missing operand is the one exception: after
recovering, the parser also skips the token it stopped at, and puts a placeholder literal in
the operand's place.

Past the last terminal the parser sees the end marker, a terminal of kind `EOF` at line and
column `-1`; a terminal of that kind inside the list also ends the program. An error shows the
line, column and lexeme of the terminal found in their written forms (`Datum.written`).

## Kinds that are no names

A terminal made by hand may have a kind that is no text. It is of no kind, so the parser passes
it only after looking its kind up among kinds: while recovering, or while looking for a value or
an operator. A kind that cannot be looked up (a list or a map) then stops the parse with a fault,
at the first such terminal the parse passes (`lookupFault?`). The parse passes the terminals up
to where its statement loop stops (`Parser.passed`): the end, or a terminal of kind `EOF` at the
start of a statement. A terminal of kind `EOF` elsewhere can be passed, as the token skipped
after a missing operand, and the parse then reads on.

## Totality

Every parsing function returns the tokens it left (`Parsed.rest`) together with a proof that
they are no more than it was given. The condition functions are one mutual recursion on the
number of tokens and the precedence level: a function either calls one of a tighter level on the
same tokens, or consumes a token first. Each step of the statement loop consumes at least one
token, so the loop is given one step per token, and one more to see the end.
-/

namespace SqlFront

/-- What a syntax error expected. -/
inductive Expectation where
  /-- A token of the given kind. -/
  | kind (k : TokenKind)
  /-- A semicolon or the start of another statement, after a statement. -/
  | terminator
  /-- The keyword of a statement. -/
  | statement
  /-- A column definition in `CREATE TABLE`. -/
  | columnDef
  /-- A value in a list of values. -/
  | value
  /-- A list of values in `INSERT`. -/
  | valueList
  /-- A column or a star in `SELECT`. -/
  | selectItem
  /-- The value of an assignment in `UPDATE`. -/
  | assignedValue
  /-- An operand of a condition. -/
  | operand
  deriving DecidableEq, Repr

/-- The words of what was expected. -/
def Expectation.describe : Expectation → String
  | kind k => "Expected '" ++ k.name ++ "'"
  | terminator => "Expected ';' or next statement"
  | statement => "Expected statement (CREATE/INSERT/SELECT/UPDATE/DELETE)"
  | columnDef => "Expected column definition"
  | value => "Expected value"
  | valueList => "Expected values list"
  | selectItem => "Expected column or '*'"
  | assignedValue => "Expected value in assignment"
  | operand => "Expected identifier, number, string or '('"

/-- A syntax error: what was expected, and the token found instead. -/
structure SyntaxError where
  expected : Expectation
  found : Terminal
  deriving Repr

/-- The report of a syntax error. -/
def SyntaxError.message (e : SyntaxError) : Str :=
  "Syntax Error: " ++ e.expected.describe ++ " at line " ++ e.found.line.written ++
    ", position " ++ e.found.column.written ++ "; found '" ++ e.found.lexeme.written ++ "'"

namespace Parser

/-- The token the parser looks at: the first of `ts`, or the end marker. -/
def current : List Terminal → Terminal
  | [] => Terminal.endMarker
  | t :: _ => t

/-- A parse of a prefix of `ts`: a value, the syntax errors met in order, and the tokens left,
never more than `ts`. -/
structure Parsed (ts : List Terminal) (α : Type) where
  value : α
  errors : List SyntaxError
  rest : List Terminal
  rest_le : rest.length ≤ ts.length

/-- `v`, taking no tokens. -/
def Parsed.done (ts : List Terminal) (v : α) : Parsed ts α := ⟨v, [], ts, Nat.le_refl _⟩

/-- The same parse, with its value changed by `f`. -/
def Parsed.map (p : Parsed ts α) (f : α → β) : Parsed ts β :=
  ⟨f p.value, p.errors, p.rest, p.rest_le⟩

/-- The parse `q` of what `p` left, as a parse of `ts`: its errors come after those of `p`. -/
def Parsed.andThen (p : Parsed ts α) (q : α → (r : List Terminal) → Parsed r β) : Parsed ts β :=
  let n := q p.value p.rest
  ⟨n.value, p.errors ++ n.errors, n.rest, Nat.le_trans n.rest_le p.rest_le⟩

/-- A parse `q` of some suffix `r` of what `p` left, as a parse of `ts`, after the errors of
`p`. -/
def Parsed.extend (p : Parsed ts α) {r : List Terminal} (h : r.length ≤ p.rest.length)
    (q : Parsed r β) : Parsed ts β :=
  ⟨q.value, p.errors ++ q.errors, q.rest, Nat.le_trans q.rest_le (Nat.le_trans h p.rest_le)⟩

/-- The tokens from the first one at which recovery stops. -/
def recover (ts : List Terminal) : List Terminal :=
  ts.dropWhile fun t => !t.kindIs TokenKind.synchronizes

theorem length_recover_le (ts : List Terminal) : (recover ts).length ≤ ts.length :=
  (List.dropWhile_sublist _).length_le

/-- Report that `e` was expected where `ts` begins, and recover. -/
def fail (e : Expectation) (ts : List Terminal) : Parsed ts Unit :=
  ⟨(), [⟨e, current ts⟩], recover ts, length_recover_le ts⟩

/-- A token of kind `k`, which is taken; or, failing that, an error and recovery. -/
def expect (k : TokenKind) (ts : List Terminal) : Parsed ts (Option Terminal) :=
  if (current ts).hasKind k then ⟨some (current ts), [], ts.tail, by simp⟩
  else (fail (.kind k) ts).map fun _ => none

/-- The tokens after the first, if it has kind `k`. -/
def accept (k : TokenKind) : (ts : List Terminal) → Option { r : List Terminal // r.length < ts.length }
  | t :: r => if t.hasKind k then some ⟨r, by simp⟩ else none
  | [] => none

/-- The placeholder for a missing operand: an error at the current token, recovery, and one
more token skipped. -/
def missingOperand (ts : List Terminal) : Parsed ts Cond :=
  ⟨.literal .none (current ts).place, [⟨.operand, current ts⟩], (recover ts).tail,
    Nat.le_trans (by simp) (length_recover_le ts)⟩

mutual

/-- `conj (OR conj)*`. -/
def disjunction (ts : List Terminal) : Parsed ts Cond :=
  match conjunction ts with
  | ⟨l, e₁, r₁, h₁⟩ =>
    match disjunctionTail l r₁ with
    | ⟨v, e₂, r₂, h₂⟩ => ⟨v, e₁ ++ e₂, r₂, Nat.le_trans h₂ h₁⟩
termination_by ts.length * 16 + 11
decreasing_by all_goals omega

/-- The rest of a disjunction, after its operands so far, nested to the left in `acc`. -/
def disjunctionTail (acc : Cond) (ts : List Terminal) : Parsed ts Cond :=
  match ts with
  | t :: r =>
    if t.hasKind .or then
      match conjunction r with
      | ⟨rhs, e₁, r₁, h₁⟩ =>
        match disjunctionTail (.binary t.lexeme acc rhs t.place) r₁ with
        | ⟨v, e₂, r₂, h₂⟩ => ⟨v, e₁ ++ e₂, r₂, by simp only [List.length_cons]; omega⟩
    else .done _ acc
  | [] => .done _ acc
termination_by ts.length * 16 + 10
decreasing_by all_goals (simp only [List.length_cons]; omega)

/-- `neg (AND neg)*`. -/
def conjunction (ts : List Terminal) : Parsed ts Cond :=
  match negation ts with
  | ⟨l, e₁, r₁, h₁⟩ =>
    match conjunctionTail l r₁ with
    | ⟨v, e₂, r₂, h₂⟩ => ⟨v, e₁ ++ e₂, r₂, Nat.le_trans h₂ h₁⟩
termination_by ts.length * 16 + 9
decreasing_by all_goals omega

/-- The rest of a conjunction, after its operands so far, nested to the left in `acc`. -/
def conjunctionTail (acc : Cond) (ts : List Terminal) : Parsed ts Cond :=
  match ts with
  | t :: r =>
    if t.hasKind .and then
      match negation r with
      | ⟨rhs, e₁, r₁, h₁⟩ =>
        match conjunctionTail (.binary t.lexeme acc rhs t.place) r₁ with
        | ⟨v, e₂, r₂, h₂⟩ => ⟨v, e₁ ++ e₂, r₂, by simp only [List.length_cons]; omega⟩
    else .done _ acc
  | [] => .done _ acc
termination_by ts.length * 16 + 8
decreasing_by all_goals (simp only [List.length_cons]; omega)

/-- `NOT cmp | cmp`. -/
def negation (ts : List Terminal) : Parsed ts Cond :=
  match ts with
  | t :: r =>
    if t.hasKind .not then
      match comparison r with
      | ⟨c, e, r₁, h₁⟩ => ⟨.not c, e, r₁, by simp only [List.length_cons]; omega⟩
    else comparison (t :: r)
  | [] => comparison []
termination_by ts.length * 16 + 7
decreasing_by all_goals ((try simp only [List.length_cons]); omega)

/-- `expr [op expr]`, with at most one comparison operator. -/
def comparison (ts : List Terminal) : Parsed ts Cond :=
  match expression ts with
  | ⟨l, e₁, r₁, h₁⟩ =>
    match r₁, h₁ with
    | t :: r, h₁ =>
      if t.kindIs TokenKind.isComparison then
        match expression r with
        | ⟨rhs, e₂, r₂, h₂⟩ =>
          ⟨.binary t.lexeme l rhs t.place, e₁ ++ e₂, r₂, by simp only [List.length_cons] at h₁; omega⟩
      else ⟨l, e₁, t :: r, h₁⟩
    | [], h₁ => ⟨l, e₁, [], h₁⟩
termination_by ts.length * 16 + 6
decreasing_by all_goals ((try simp only [List.length_cons] at *); omega)

/-- `term ((+ | -) term)*`. -/
def expression (ts : List Terminal) : Parsed ts Cond :=
  match term ts with
  | ⟨l, e₁, r₁, h₁⟩ =>
    match expressionTail l r₁ with
    | ⟨v, e₂, r₂, h₂⟩ => ⟨v, e₁ ++ e₂, r₂, Nat.le_trans h₂ h₁⟩
termination_by ts.length * 16 + 5
decreasing_by all_goals omega

/-- The rest of a sum, after its operands so far, nested to the left in `acc`. -/
def expressionTail (acc : Cond) (ts : List Terminal) : Parsed ts Cond :=
  match ts with
  | t :: r =>
    if t.kindIs TokenKind.isAdditive then
      match term r with
      | ⟨rhs, e₁, r₁, h₁⟩ =>
        match expressionTail (.binary t.lexeme acc rhs t.place) r₁ with
        | ⟨v, e₂, r₂, h₂⟩ => ⟨v, e₁ ++ e₂, r₂, by simp only [List.length_cons]; omega⟩
    else .done _ acc
  | [] => .done _ acc
termination_by ts.length * 16 + 4
decreasing_by all_goals (simp only [List.length_cons]; omega)

/-- `factor ((* | /) factor)*`. -/
def term (ts : List Terminal) : Parsed ts Cond :=
  match factor ts with
  | ⟨l, e₁, r₁, h₁⟩ =>
    match termTail l r₁ with
    | ⟨v, e₂, r₂, h₂⟩ => ⟨v, e₁ ++ e₂, r₂, Nat.le_trans h₂ h₁⟩
termination_by ts.length * 16 + 3
decreasing_by all_goals omega

/-- The rest of a product, after its operands so far, nested to the left in `acc`. -/
def termTail (acc : Cond) (ts : List Terminal) : Parsed ts Cond :=
  match ts with
  | t :: r =>
    if t.kindIs TokenKind.isMultiplicative then
      match factor r with
      | ⟨rhs, e₁, r₁, h₁⟩ =>
        match termTail (.binary t.lexeme acc rhs t.place) r₁ with
        | ⟨v, e₂, r₂, h₂⟩ => ⟨v, e₁ ++ e₂, r₂, by simp only [List.length_cons]; omega⟩
    else .done _ acc
  | [] => .done _ acc
termination_by ts.length * 16 + 2
decreasing_by all_goals (simp only [List.length_cons]; omega)

/-- `( cond ) | id | NUMBER | FLOAT | STRING`. -/
def factor (ts : List Terminal) : Parsed ts Cond :=
  match ts with
  | t :: r =>
    if t.hasKind .leftParen then
      match disjunction r with
      | ⟨c, e₁, r₁, h₁⟩ =>
        let close := expect .rightParen r₁
        ⟨c, e₁ ++ close.errors, close.rest, by
          have := close.rest_le; simp only [List.length_cons]; omega⟩
    else if t.hasKind .identifier then ⟨.column t.lexeme t.place, [], r, by simp⟩
    else if t.kindIs TokenKind.isLiteral then ⟨.literal t.lexeme t.place, [], r, by simp⟩
    else missingOperand (t :: r)
  | [] => missingOperand []
termination_by ts.length * 16 + 1
decreasing_by all_goals (simp only [List.length_cons]; omega)

end

/-- A condition. -/
def condition (ts : List Terminal) : Parsed ts Cond := disjunction ts

/-- A `WHERE` clause, if the next token begins one. -/
def filter (ts : List Terminal) : Parsed ts (Option Cond) :=
  match ts with
  | t :: r =>
    if t.hasKind .where then
      let c := condition r
      ⟨some c.value, c.errors, c.rest, Nat.le_trans c.rest_le (by simp)⟩
    else .done _ none
  | [] => .done _ none

/-- The lexeme of a terminal that was read, and nothing for one that was not. -/
def lexemeOf : Option Terminal → Datum
  | some t => t.lexeme
  | none => .none

/-- A column definition: a name, then a type word or a name. -/
def columnDef (ts : List Terminal) : Parsed ts (Datum × Datum) :=
  (expect .identifier ts).andThen fun name ts =>
    match ts with
    | t :: r =>
      if t.kindIs TokenKind.isTypeWord then ⟨(lexemeOf name, t.lexeme), [], r, by simp⟩
      else (expect .identifier (t :: r)).map fun ty => (lexemeOf name, lexemeOf ty)
    | [] => (expect .identifier []).map fun ty => (lexemeOf name, lexemeOf ty)

/-- Column definitions separated by commas, after those in `acc`. -/
def columnDefsFrom (acc : Array (Datum × Datum)) (ts : List Terminal) :
    Parsed ts (List (Datum × Datum)) :=
  let c := columnDef ts
  match accept .comma c.rest with
  | some r => c.extend (Nat.le_of_lt r.2) (columnDefsFrom (acc.push c.value) r.1)
  | none => c.map fun v => (acc.push v).toList
termination_by ts.length
decreasing_by have := c.rest_le; have := r.2; omega

/-- The column definitions of `CREATE TABLE`, of which there must be one at least. -/
def columnDefs (ts : List Terminal) : Parsed ts (List (Datum × Datum)) :=
  if (current ts).hasKind .identifier then columnDefsFrom #[] ts
  else (fail .columnDef ts).map fun _ => []

/-- Values separated by commas, after those in `acc`. -/
def valuesFrom (acc : Array Datum) (ts : List Terminal) : Parsed ts (List Datum) :=
  match ts with
  | t :: r =>
    if t.kindIs TokenKind.isValue then
      match accept .comma r with
      | some r' =>
        let more := valuesFrom (acc.push t.lexeme) r'.1
        ⟨more.value, more.errors, more.rest, by
          have := more.rest_le; have := r'.2; simp only [List.length_cons]; omega⟩
      | none => ⟨(acc.push t.lexeme).toList, [], r, by simp⟩
    else (fail .value (t :: r)).map fun _ => acc.toList
  | [] => (fail .value []).map fun _ => acc.toList
termination_by ts.length
decreasing_by simp only [List.length_cons]; have := r'.2; omega

/-- The values of `INSERT`, of which there must be one at least. -/
def valueList (ts : List Terminal) : Parsed ts (List Datum) :=
  if (current ts).kindIs TokenKind.isValue then valuesFrom #[] ts
  else (fail .valueList ts).map fun _ => []

/-- Further selected columns, each after a comma, after those in `acc`. -/
def selectItemsFrom (acc : Array Datum) (ts : List Terminal) : Parsed ts (List Datum) :=
  match accept .comma ts with
  | some r =>
    match expect .identifier r.1 with
    | ⟨item, e₁, r₁, h₁⟩ =>
      let acc := match item with
        | some t => acc.push t.lexeme
        | none => acc
      match selectItemsFrom acc r₁ with
      | ⟨v, e₂, r₂, h₂⟩ => ⟨v, e₁ ++ e₂, r₂, by have := r.2; omega⟩
  | none => .done _ acc.toList
termination_by ts.length
decreasing_by have := r.2; omega

/-- The selected columns: a star, or one column name at least. -/
def selectItems (ts : List Terminal) : Parsed ts (List Datum) :=
  match accept .multiply ts with
  | some r => ⟨[.str "*"], [], r.1, Nat.le_of_lt r.2⟩
  | none =>
    (expect .identifier ts).andThen fun first ts =>
      match first with
      | some t => selectItemsFrom #[t.lexeme] ts
      | none => (fail .selectItem ts).map fun _ => []

/-- One assignment `col = value`; without a value, an error and no assignment. -/
def assignment (ts : List Terminal) : Parsed ts (Option (Datum × Datum)) :=
  (expect .identifier ts).andThen fun name ts =>
    (expect .equal ts).andThen fun _ ts =>
      match ts with
      | t :: r =>
        if t.kindIs TokenKind.isValue then ⟨some (lexemeOf name, t.lexeme), [], r, by simp⟩
        else (fail .assignedValue (t :: r)).map fun _ => none
      | [] => (fail .assignedValue []).map fun _ => none

/-- Assignments separated by commas, after those in `acc`. -/
def assignmentsFrom (acc : Array (Datum × Datum)) (ts : List Terminal) :
    Parsed ts (List (Datum × Datum)) :=
  let a := assignment ts
  let acc := match a.value with
    | some x => acc.push x
    | none => acc
  match accept .comma a.rest with
  | some r => a.extend (Nat.le_of_lt r.2) (assignmentsFrom acc r.1)
  | none => a.map fun _ => acc.toList
termination_by ts.length
decreasing_by have := a.rest_le; have := r.2; omega

/-- `CREATE TABLE name (coldefs)`, from the keyword on. -/
def create (ts : List Terminal) : Parsed ts Stmt :=
  (expect .create ts).andThen fun _ ts =>
  (expect .table ts).andThen fun _ ts =>
  (expect .identifier ts).andThen fun name ts =>
  (expect .leftParen ts).andThen fun _ ts =>
  (columnDefs ts).andThen fun cols ts =>
  (expect .rightParen ts).map fun _ => .create (name.map fun t => (t.lexeme, t.place)) cols

/-- `INSERT INTO name VALUES (values)`, after the keyword `kw`. -/
def insert (kw : Terminal) (ts : List Terminal) : Parsed ts Stmt :=
  (expect .into ts).andThen fun _ ts =>
  (expect .identifier ts).andThen fun table ts =>
  (expect .values ts).andThen fun _ ts =>
  (expect .leftParen ts).andThen fun _ ts =>
  (valueList ts).andThen fun vals ts =>
  (expect .rightParen ts).map fun _ => .insert (lexemeOf table) vals kw.place

/-- `SELECT items FROM name [WHERE cond]`, after the keyword `kw`. -/
def select (kw : Terminal) (ts : List Terminal) : Parsed ts Stmt :=
  (selectItems ts).andThen fun items ts =>
  (expect .from ts).andThen fun _ ts =>
  (expect .identifier ts).andThen fun table ts =>
  (filter ts).map fun cond => .select items (lexemeOf table) cond kw.place

/-- `UPDATE name SET assignments [WHERE cond]`, after the keyword `kw`. -/
def update (kw : Terminal) (ts : List Terminal) : Parsed ts Stmt :=
  (expect .identifier ts).andThen fun table ts =>
  (expect .set ts).andThen fun _ ts =>
  (assignmentsFrom #[] ts).andThen fun assigns ts =>
  (filter ts).map fun cond => .update (lexemeOf table) assigns cond kw.place

/-- `DELETE FROM name [WHERE cond]`, after the keyword `kw`. -/
def delete (kw : Terminal) (ts : List Terminal) : Parsed ts Stmt :=
  (expect .from ts).andThen fun _ ts =>
  (expect .identifier ts).andThen fun table ts =>
  (filter ts).map fun cond => .delete (lexemeOf table) cond kw.place

/-- A statement, chosen by its keyword; without one, an error and no statement. -/
def statement (ts : List Terminal) : Parsed ts (Option Stmt) :=
  match ts with
  | t :: r =>
    let sub (p : Parsed r Stmt) : Parsed (t :: r) (Option Stmt) :=
      ⟨some p.value, p.errors, p.rest, Nat.le_trans p.rest_le (by simp)⟩
    match t.kind? with
    | some .create => (create (t :: r)).map some
    | some .insert => sub (insert t r)
    | some .select => sub (select t r)
    | some .update => sub (update t r)
    | some .delete => sub (delete t r)
    | _ => (fail .statement (t :: r)).map fun _ => none
  | [] => (fail .statement []).map fun _ => none

/-- What follows a statement: a semicolon, which is taken; the start of another statement or
the end, which is left; or anything else, which is an error, after which a semicolon is taken
as well. -/
def terminator (ts : List Terminal) : Parsed ts Unit :=
  match ts with
  | t :: r =>
    if t.hasKind .semicolon then ⟨(), [], r, by simp⟩
    else if t.hasKind .eof || t.kindIs TokenKind.startsStatement then .done _ ()
    else
      let f := fail .terminator (t :: r)
      match accept .semicolon f.rest with
      | some r' => ⟨(), f.errors, r'.1, Nat.le_trans (Nat.le_of_lt r'.2) f.rest_le⟩
      | none => f
  | [] => .done _ ()

/-- The statements of `ts`, after those in `acc`, up to the end, reading at most `fuel`
statements. A statement and its terminator always take at least one token, so one more than
the number of tokens is enough fuel to reach the end. -/
def programFrom (fuel : Nat) (acc : Array Stmt) (ts : List Terminal) : Parsed ts Program :=
  match fuel with
  | 0 => .done _ acc.toList
  | fuel + 1 =>
    if (current ts).hasKind .eof then .done _ acc.toList
    else
      let s := statement ts
      let acc := match s.value with
        | some st => acc.push st
        | none => acc
      let t := terminator s.rest
      let more := programFrom fuel acc t.rest
      ⟨more.value, s.errors ++ t.errors ++ more.errors, more.rest,
        Nat.le_trans more.rest_le (Nat.le_trans t.rest_le s.rest_le)⟩

/-- The terminals the parse of `ts` passes: those in front of where its statement loop stops. -/
def passed (ts : List Terminal) : List Terminal :=
  ts.take (ts.length - (programFrom (ts.length + 1) #[] ts).rest.length)

end Parser

/-- The result of parsing a token list: the program and the syntax errors, in order. -/
structure Parse where
  program : Program
  errors : List SyntaxError

/-- Parse a list of terminals into a program. -/
def parse (ts : List Terminal) : Parse :=
  let p := Parser.programFrom (ts.length + 1) #[] ts
  ⟨p.value, p.errors⟩

/-- Parse the tokens of a scan. -/
def parseTokens (ts : List Token) : Parse := parse (ts.map Token.toTerminal)

/-- The fault of the first terminal the parse passes whose kind cannot be a key. -/
def lookupFault? (ts : List Terminal) : Option Fault :=
  ((Parser.passed ts).find? fun t => t.kind.key?.isNone).map fun t => .unhashable t.kind.typeName

/-- Parse a list of terminals made by hand. The parser passes a terminal that is of no kind
only after looking its kind up among kinds (where recovery stops, of values, of operators), and
it looks the terminals up in the order it reaches them; so the first terminal it passes whose
kind cannot be a key (a list or a map) stops the parse with a fault. -/
def parseTerminals (ts : List Terminal) : Except Fault Parse :=
  match lookupFault? ts with
  | some f => .error f
  | none => .ok (parse ts)

end SqlFront
