import SqlFront.Node
import SqlFront.Catalog
/-!
# Semantic analysis

The analysis walks a tree, checks each statement against the catalog of the tables created
before it, registers the tables that `CREATE` statements create, and annotates every column and
literal of a condition with its type.

## The checks

* `CREATE`: every declared type is `INT`, `FLOAT` or `TEXT`; no table of that name exists yet;
  no column is defined twice. The table is registered before its columns are added, so a
  duplicate column leaves the table registered with the columns before it.
* `INSERT`: the table exists; there is one value per column; each value's type is accepted by
  its column (`SqlType.accepts`).
* `SELECT`: the table exists and, unless the selection is a star, every selected column exists.
* `UPDATE`: the table exists; every assigned column exists and accepts its value.
* `DELETE`: the table exists.
* A condition of `SELECT`, `UPDATE` or `DELETE` is read in the *scope* of the statement's table:
  a column must be a column of that table, and outside any scope a column is an error. Every
  operation, comparison and connective alike, has the type of its left operand, and its two
  operands must have the same type unless one of them has none (the placeholder literal).

## Errors and stops

A failed check is a `SemanticError`, placed at the statement (or operation, or column) it
belongs to. A program reports the error of each statement and goes on with the next one; after
each statement the scope is cleared. Outside a program, an error ends the analysis unreported.

Some trees cannot be checked at all: a node without its place where an error or a lookup needs
it, a name that cannot be a key, a value that is not a text, data of the wrong shape, or an
object that is no node. There the analysis *halts*: it stops silently, keeping the tables and
errors found so far, and the annotations made so far.

## Main definitions

* `visit` — one node, from one analyzer state: the annotated node, the new state, and how the
  visit ended.
* `analyze` — a whole tree, from a given state (a fresh one by default): the new state and the
  annotated tree. Analyses that share a state accumulate tables and errors.
-/

namespace SqlFront

/-- What a statement was found to do wrong. -/
inductive Problem where
  | invalidType (type : Datum)
  | tableExists (table : Datum)
  | duplicateColumn (column table : Datum)
  | noTable (table : Datum)
  | noColumn (column table : Datum)
  | countMismatch (table : Datum) (expected provided : Nat)
  | valueMismatch (column : Datum) (expected found : SqlType) (value : Str)
  | assignmentMismatch (column : Datum) (expected found : SqlType) (value : Str)
  | operandMismatch (left right : SqlType)
  | outOfContext (column : Datum)
  deriving Repr

/-- The words of a problem. -/
def Problem.message : Problem → Str
  | invalidType ty => "Invalid column type '" ++ ty.written ++ "'. Allowed: INT, FLOAT, TEXT"
  | tableExists t => "Table '" ++ t.written ++ "' already exists."
  | duplicateColumn c t => "Duplicate column '" ++ c.written ++ "' in table '" ++ t.written ++ "'."
  | noTable t => "Table '" ++ t.written ++ "' does not exist."
  | noColumn c t => "Column '" ++ c.written ++ "' does not exist in table '" ++ t.written ++ "'."
  | countMismatch t e p => "Column count mismatch. Table '" ++ t.written ++ "' has " ++
      toString e ++ " columns, but " ++ toString p ++ " values were provided."
  | valueMismatch c e f v => "Type mismatch for column '" ++ c.written ++ "'. Expected " ++
      e.name ++ ", got " ++ f.name ++ " ('" ++ v ++ "')"
  | assignmentMismatch c e f v => "Type mismatch in assignment for '" ++ c.written ++
      "'. Expected " ++ e.name ++ ", got " ++ f.name ++ " ('" ++ v ++ "')"
  | operandMismatch l r => "Type mismatch in comparison/operation. Cannot compare " ++ l.name ++
      " with " ++ r.name ++ "."
  | outOfContext c => "Column '" ++ c.written ++ "' used out of context (no table specified)."

/-- A problem, at the place of the node it belongs to. -/
structure SemanticError where
  problem : Problem
  line : Datum
  column : Datum
  deriving Repr

/-- The report of a semantic error. -/
def SemanticError.message (e : SemanticError) : Str :=
  "Semantic Error: " ++ e.problem.message ++ " at line " ++ e.line.written ++ ", position " ++
    e.column.written ++ "."

/-- How a check ends early. -/
inductive Stop where
  /-- The statement is wrong. -/
  | error (e : SemanticError)
  /-- The tree cannot be checked further; the analysis ends silently. -/
  | halt
  deriving Repr

/-- The state of an analysis. -/
structure Analyzer where
  /-- The tables created so far. -/
  catalog : Catalog := {}
  /-- The errors reported so far, in order. -/
  errors : Array SemanticError := #[]
  /-- The table in whose scope columns are read; nothing outside a statement. -/
  scope : Datum := .none
  deriving Repr

/-- A check: it reads and changes the analyzer's state, and may end early. Changes made before
it ends stay. -/
abbrev Check := ExceptT Stop (StateM Analyzer)

namespace Check

/-- Run a check from a state. -/
def exec (c : Check α) (st : Analyzer) : Except Stop α × Analyzer :=
  (ExceptT.run c).run st

/-- End the analysis. -/
def halt : Check α := throw .halt

/-- Both coordinates of a place, which the node must have. -/
def place (s : Site) : Check (Datum × Datum) :=
  match s.get? with
  | some p => pure p
  | none => halt

/-- Report `p` at the place `s`. -/
def raise (s : Site) (p : Problem) : Check α := do
  let (l, c) ← place s
  throw (.error ⟨p, l, c⟩)

/-- The key of a name, which must have one. -/
def key (d : Datum) : Check Key :=
  match d.key? with
  | some k => pure k
  | none => halt

/-- The result of an operation on data, which must succeed. -/
def ofExcept (r : Except Fault α) : Check α :=
  match r with
  | .ok a => pure a
  | .error _ => halt

/-- The table named `name`, which must exist; a missing one is reported at line `l`,
column `c`. -/
def table (name l c : Datum) : Check Table := do
  let k ← key name
  match (← get).catalog.find? k with
  | some t => pure t
  | none => throw (.error ⟨.noTable name, l, c⟩)

/-- The type of the column `col` of the table `name`, which must both exist. -/
def columnType (name col l c : Datum) : Check SqlType := do
  let t ← table name l c
  let k ← key col
  match t.columnType? k with
  | some ty => pure ty
  | none => throw (.error ⟨.noColumn col name, l, c⟩)

/-- The type of a value, which must be a text. -/
def valueType : Datum → Check SqlType
  | .str s => pure (SqlType.ofLiteral s)
  | _ => halt

/-- The declared type of a column definition, which must be one of the three. -/
def declaredType (s : Site) (ty : Datum) : Check SqlType := do
  match ← key ty with
  | .str name =>
    match (Str.toString? name).bind SqlType.ofDeclared? with
    | some t => pure t
    | none => raise s (.invalidType ty)
  | _ => raise s (.invalidType ty)

/-- `CREATE TABLE t (cols)` at `s`. -/
def create (t cols : Datum) (s : Site) : Check Unit := do
  let defs ← (← ofExcept cols.items).mapM fun d => do
    let (n, ty) ← ofExcept d.pair
    return (n, ← declaredType s ty)
  let (l, c) ← place s
  let k ← key t
  if ((← get).catalog.find? k).isSome then throw (.error ⟨.tableExists t, l, c⟩)
  modify fun st => { st with catalog := st.catalog.register t }
  for (n, ty) in defs do
    let kn ← key n
    let known := ((← get).catalog.tables.getLast?.map (·.hasColumn kn)).getD false
    if known then throw (.error ⟨.duplicateColumn n t, l, c⟩)
    modify fun st => { st with catalog := st.catalog.addColumn n ty }

/-- `INSERT INTO t VALUES (vals)` at `s`. -/
def insert (t vals : Datum) (s : Site) : Check Unit := do
  let (l, c) ← place s
  let tbl ← table t l c
  let provided ← ofExcept vals.size
  if provided ≠ tbl.columns.length then
    throw (.error ⟨.countMismatch t tbl.columns.length provided, l, c⟩)
  for (v, (cn, ct)) in (← ofExcept vals.items).zip tbl.columns do
    let vt ← valueType v
    if !ct.accepts vt then throw (.error ⟨.valueMismatch cn ct vt v.written, l, c⟩)

/-- Whether a selection is the star alone. -/
def isStar : Datum → Bool
  | .list [.str s] => s == Str.ofString "*"
  | _ => false

/-- `SELECT items FROM t` at `s`, before its condition. -/
def select (items t : Datum) (s : Site) : Check Unit := do
  let (l, c) ← place s
  let _ ← table t l c
  modify fun st => { st with scope := t }
  if !isStar items then
    for col in ← ofExcept items.items do
      let _ ← columnType t col l c

/-- `UPDATE t SET assigns` at `s`, before its condition. -/
def update (t assigns : Datum) (s : Site) : Check Unit := do
  let (l, c) ← place s
  let _ ← table t l c
  modify fun st => { st with scope := t }
  for a in ← ofExcept assigns.items do
    let (cn, v) ← ofExcept a.pair
    let ct ← columnType t cn l c
    let vt ← valueType v
    if !ct.accepts vt then throw (.error ⟨.assignmentMismatch cn ct vt v.written, l, c⟩)

/-- `DELETE FROM t` at `s`, before its condition. -/
def delete (t : Datum) (s : Site) : Check Unit := do
  let (l, c) ← place s
  let _ ← table t l c
  modify fun st => { st with scope := t }

/-- A column of the table in scope. -/
def column (name : Datum) (s : Site) : Check SqlType := do
  let scope := (← get).scope
  if !scope.truthy then raise s (.outOfContext name)
  let (l, c) ← place s
  columnType scope name l c

/-- The two operands of an operation at `s` have the same type, unless one has none. -/
def operands (lt rt : Option SqlType) (s : Site) : Check Unit :=
  match lt, rt with
  | some a, some b => if a ≠ b then raise s (.operandMismatch a b) else pure ()
  | _, _ => pure ()

end Check

/-- The end of a visit: the node as annotated, the state after it, and either the type of the
node (if it has one) or how the visit stopped. -/
structure Visit where
  node : Node
  state : Analyzer
  outcome : Except Stop (Option SqlType)

/-- The visit of a node that is not changed, by a check with no type. -/
def Visit.ofCheck (n : Node) (c : Check Unit) (st : Analyzer) : Visit :=
  let (o, st') := c.exec st
  ⟨n, st', o.map fun _ => none⟩

mutual

/-- Visit a node from the state `st`. -/
def visit : Node → Analyzer → Visit
  | .query stmts site, st =>
    let (nodes, st', stop) := visitStatements stmts st
    ⟨.query nodes site, st', match stop with
      | some s => .error s
      | none => .ok none⟩
  | .create t cols site, st => .ofCheck (.create t cols site) (Check.create t cols site) st
  | .insert t vals site, st => .ofCheck (.insert t vals site) (Check.insert t vals site) st
  | .select items t f site, st =>
    let (o, st₁) := (Check.select items t site).exec st
    match o with
    | .error s => ⟨.select items t f site, st₁, .error s⟩
    | .ok _ =>
      let v := visitFilter f st₁
      ⟨.select items t v.node site, v.state, v.outcome⟩
  | .update t assigns f site, st =>
    let (o, st₁) := (Check.update t assigns site).exec st
    match o with
    | .error s => ⟨.update t assigns f site, st₁, .error s⟩
    | .ok _ =>
      let v := visitFilter f st₁
      ⟨.update t assigns v.node site, v.state, v.outcome⟩
  | .delete t f site, st =>
    let (o, st₁) := (Check.delete t site).exec st
    match o with
    | .error s => ⟨.delete t f site, st₁, .error s⟩
    | .ok _ =>
      let v := visitFilter f st₁
      ⟨.delete t v.node site, v.state, v.outcome⟩
  | .binary op l r site, st =>
    let vl := visit l st
    match vl.outcome with
    | .error s => ⟨.binary op vl.node r site, vl.state, .error s⟩
    | .ok lt =>
      let vr := visit r vl.state
      let n := Node.binary op vl.node vr.node site
      match vr.outcome with
      | .error s => ⟨n, vr.state, .error s⟩
      | .ok rt =>
        let (o, st') := (Check.operands lt rt site).exec vr.state
        ⟨n, st', o.map fun _ => lt⟩
  | .negation c site, st =>
    let v := visit c st
    ⟨.negation v.node site, v.state, v.outcome⟩
  | .column name site ty, st =>
    let (o, st') := (Check.column name site).exec st
    match o with
    | .ok t => ⟨.column name site (some t), st', .ok (some t)⟩
    | .error s => ⟨.column name site ty, st', .error s⟩
  | .literal v site ty, st =>
    match v with
    | .none => ⟨.literal v site ty, st, .ok none⟩
    | .str s =>
      let t := SqlType.ofLiteral s
      ⟨.literal v site (some t), st, .ok (some t)⟩
    | _ => ⟨.literal v site ty, st, .error .halt⟩
  | .foreign, st => ⟨.foreign, st, .error .halt⟩
  | .absent, st => ⟨.absent, st, .error .halt⟩

/-- Visit the `WHERE` clause of a statement, if it has one; the statement has no type. -/
def visitFilter : Node → Analyzer → Visit
  | .absent, st => ⟨.absent, st, .ok none⟩
  | n, st =>
    let v := visit n st
    ⟨v.node, v.state, v.outcome.map fun _ => none⟩

/-- Visit the statements of a program in order: the error of a statement is reported and the
scope cleared after it; a halt ends the program, leaving the statements after it as they are. -/
def visitStatements : List Node → Analyzer → List Node × Analyzer × Option Stop
  | [], st => ([], st, none)
  | n :: rest, st =>
    let v := visit n st
    match v.outcome with
    | .error .halt => (v.node :: rest, v.state, some .halt)
    | .error (.error e) =>
      let (ns, st', stop) :=
        visitStatements rest { v.state with errors := v.state.errors.push e, scope := .none }
      (v.node :: ns, st', stop)
    | .ok _ =>
      let (ns, st', stop) := visitStatements rest { v.state with scope := .none }
      (v.node :: ns, st', stop)

end

/-- Analyze a tree from the state `st`: the state after it, and the annotated tree. -/
def analyze (root : Node) (st : Analyzer := {}) : Analyzer × Node :=
  let v := visit root st
  (v.state, v.node)

end SqlFront
