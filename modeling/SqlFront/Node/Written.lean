import SqlFront.Node
/-!
# Trees written by hand

A tree can be written by hand as a datum: each node a map whose entry `node` names its class
(`QueryNode`, `CreateNode`, …, `LiteralNode`) and whose other entries hold its parts, and
nothing where a node may be missing. `Node.ofDatum` reads such a datum, building each node from
its entries as its class would:

* a missing entry is nothing, and an entry that is false (nothing, zero, empty) where a list
  is expected is the empty list;
* the statements of a program and the values of an `INSERT` are the items of their entry, and
  each column definition of a `CREATE` and each assignment of an `UPDATE` is the tuple of the
  items of its entry;
* a `SELECT` takes its selected columns from the entry `table` as it is, and its table from
  the items of the entry `select_list`;
* `line` and `column` are set only when the map has them;
* a map whose `node` is a text that names no class, or a key that is no text, is an object of
  no node class.

Reading fails when a node is not a map with a `node` entry (`ReadError.notANode`), and with a
fault of the data when an entry that must have items has none, or when the name of a class is
a list or a map, which cannot be looked up among the names of the classes.
-/

namespace SqlFront

/-- Why a datum is not a tree. -/
inductive ReadError where
  /-- A node that is not a map with a `node` entry. -/
  | notANode
  /-- A fault of the data inside a node. -/
  | fault (f : Fault)
  deriving Repr

namespace Written

/-- A fault of the data, as an error of reading. -/
def lift (r : Except Fault α) : Except ReadError α :=
  r.mapError .fault

/-- The entry `k` of a map, or nothing when it is missing. -/
def entry (es : List (Str × Datum)) (k : Str) : Datum :=
  (es.lookup k).getD .none

/-- The items of the entry `k`, which is the empty list when it is false. -/
def itemsOf (es : List (Str × Datum)) (k : Str) : Except ReadError (List Datum) :=
  lift ((entry es k).orElse (.list [])).items

/-- The entry `k` as a list of tuples, one tuple of the items of each of its items. -/
def tuplesOf (es : List (Str × Datum)) (k : Str) : Except ReadError Datum := do
  let rows ← itemsOf es k
  return .list (← rows.mapM fun r => return .tuple (← lift r.items))

/-- The place a map gives a node: its `line` and `column` entries, where it has them. -/
def siteOf (es : List (Str × Datum)) : Site :=
  ⟨es.lookup (Str.ofString "line"), es.lookup (Str.ofString "column")⟩

/-- The classes of nodes, by name. -/
inductive NodeClass where
  | query | create | insert | select | update | delete | binary | negation | column | literal
  deriving DecidableEq, Repr

/-- The class named `s`, if it is one. -/
def NodeClass.ofName? : String → Option NodeClass
  | "QueryNode" => some .query
  | "CreateNode" => some .create
  | "InsertNode" => some .insert
  | "SelectNode" => some .select
  | "UpdateNode" => some .update
  | "DeleteNode" => some .delete
  | "BinaryOpNode" => some .binary
  | "NotNode" => some .negation
  | "ColumnNode" => some .column
  | "LiteralNode" => some .literal
  | _ => none

end Written

/-- An entry of a map is smaller than the map. -/
theorem sizeOf_lookup_lt {es : List (Str × Datum)} {k : Str} {d : Datum}
    (h : es.lookup k = some d) : sizeOf d < sizeOf es := by
  induction es with
  | nil => simp at h
  | cons e es ih =>
    obtain ⟨k', d'⟩ := e
    rw [List.lookup_cons] at h
    split at h
    · cases h; simp; omega
    · have := ih h; simp; omega

open Written in
/-- Read a tree written by hand. -/
def Node.ofDatum (d : Datum) : Except ReadError Node :=
  match d with
  | .none => .ok .absent
  | .dict es =>
    match es.lookup (Str.ofString "node") with
    | none => .error .notANode
    | some name => do
      let _ ← lift name.key
      let site := siteOf es
      -- the node in the entry `k`
      let sub (k : Str) : Except ReadError Node :=
        match _h : es.lookup k with
        | some d => Node.ofDatum d
        | none => .ok .absent
      -- the nodes that are the items of the entry `k`
      let subs (k : Str) : Except ReadError (List Node) :=
        match _h : es.lookup k with
        | some (.list xs) => xs.attach.mapM fun ⟨x, _⟩ => Node.ofDatum x
        | some (.tuple xs) => xs.attach.mapM fun ⟨x, _⟩ => Node.ofDatum x
        | some e => do
          -- the items of anything else are texts, and a text is no node
          let xs ← lift (e.orElse (.list [])).items
          xs.mapM fun _ => throw .notANode
        | none => .ok []
      match name with
      | .str s =>
        match (Str.toString? s).bind NodeClass.ofName? with
        | some .query => return .query (← subs "statements") site
        | some .create => return .create (entry es "table") (← tuplesOf es "columns") site
        | some .insert => return .insert (entry es "table") (.list (← itemsOf es "values")) site
        | some .select => do
          let table ← itemsOf es "select_list"
          return .select (entry es "table") (.list table) (← sub "where") site
        | some .update => do
          let assigns ← tuplesOf es "assignments"
          return .update (entry es "table") assigns (← sub "where") site
        | some .delete => return .delete (entry es "table") (← sub "where") site
        | some .binary => return .binary (entry es "op") (← sub "left") (← sub "right") site
        | some .negation => return .negation (← sub "operand") site
        | some .column => return .column (entry es "name") site none
        | some .literal => return .literal (entry es "value") site none
        | none => return .foreign
      | _ => return .foreign
  | _ => .error .notANode
termination_by sizeOf d
decreasing_by
  all_goals
    have := sizeOf_lookup_lt ‹_›
    first
      | simp; omega
      | (have hm := List.sizeOf_lt_of_mem (by assumption); simp at *; omega)

end SqlFront
