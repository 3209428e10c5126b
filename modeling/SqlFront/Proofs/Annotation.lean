import SqlFront.Proofs.CleanParse
import SqlFront.Proofs.Conditions
import SqlFront.Proofs.Drawing
import SqlFront.Proofs.Evaluation
import SqlFront.Pipeline
import SqlFront.Console.Commands
/-!
# The types a successful analysis shows

The analysis annotates each column and literal of a condition with its type when it checks it:
a column with its declared type in the table in scope, a literal with the type of its text. A
visit that stops leaves the nodes after it as they were; so the annotations are complete only
when nothing stopped.

An annotated condition is related to the condition it annotates by `Node.Annotation`, said
node class by node class without the analysis; a statement by `Node.StatementAnnotation`, whose
condition is annotated over the table that the statement names (`Node.FilterAnnotation`).

The proof runs along the analysis:

* a condition whose visit returns leaves the state as it was and is annotated over the table in
  scope (`Cond.visit_annotated`); both operands of an operation are visited, in the one scope;
* a statement whose visit returns is annotated (`Stmt.visit_annotated`); its check put its
  table in scope, and found it;
* a program with no errors has had every statement's visit return, since a parsed statement
  never halts unless its `CREATE` misses a name (`Stmt.settled`), which a parse without syntax
  errors excludes (`parseTokens_complete`), and a statement that fails reports its error
  (`visitStatements_annotated`); the catalog only grows, so each statement's table is the one
  of the final catalog.

The drawing of such a tree shows the types (`Node.Annotation.outline`): every entry whose label
begins with `ColumnRef: ` or `Literal: ` ends with ` <Type: T>`. The main statement,
`clean_compile_annotations`, says this of the tree that the compiler prints. A printed *line*
need not end so: the label of a literal holds its text, and a string literal may hold a line
feed, which ends the printed line inside the entry (`compile_literal_line_feed`).
-/

namespace SqlFront

open Check

/-! ### Annotated trees -/

/-- `n'` is the condition `n` annotated over the table `tbl`: each column with its declared
type in `tbl`, and each literal, a text, with the type of its text. -/
inductive Node.Annotation (tbl : Table) : Node → Node → Prop
  | binary {op : Datum} {l r l' r' : Node} {site : Site} :
      Annotation tbl l l' → Annotation tbl r r' →
      Annotation tbl (.binary op l r site) (.binary op l' r' site)
  | negation {c c' : Node} {site : Site} :
      Annotation tbl c c' → Annotation tbl (.negation c site) (.negation c' site)
  | column {name : Datum} {site : Site} {ty : Option SqlType} {k : Key} {τ : SqlType} :
      name.key? = some k → tbl.columnType? k = some τ →
      Annotation tbl (.column name site ty) (.column name site (some τ))
  | literal {s : Str} {site : Site} {ty : Option SqlType} :
      Annotation tbl (.literal (.str s) site ty)
        (.literal (.str s) site (some (SqlType.ofLiteral s)))

/-- `f'` is the `WHERE` clause `f` of a statement of the table named `t`, annotated over that
table of the catalog `cat` if the clause is present. -/
inductive Node.FilterAnnotation (cat : Catalog) (t : Datum) : Node → Node → Prop
  | absent : FilterAnnotation cat t .absent .absent
  | present {f f' : Node} {k : Key} {tbl : Table} :
      t.key? = some k → cat.find? k = some tbl → f.Annotation tbl f' →
      FilterAnnotation cat t f f'

/-- `n'` is the statement `n` with its `WHERE` clause annotated over the statement's table of
the catalog `cat`; a statement without one is left as it is. -/
inductive Node.StatementAnnotation (cat : Catalog) : Node → Node → Prop
  | create {t cols : Datum} {site : Site} :
      StatementAnnotation cat (.create t cols site) (.create t cols site)
  | insert {t vals : Datum} {site : Site} :
      StatementAnnotation cat (.insert t vals site) (.insert t vals site)
  | select {items t : Datum} {f f' : Node} {site : Site} :
      Node.FilterAnnotation cat t f f' →
      StatementAnnotation cat (.select items t f site) (.select items t f' site)
  | update {t assigns : Datum} {f f' : Node} {site : Site} :
      Node.FilterAnnotation cat t f f' →
      StatementAnnotation cat (.update t assigns f site) (.update t assigns f' site)
  | delete {t : Datum} {f f' : Node} {site : Site} :
      Node.FilterAnnotation cat t f f' →
      StatementAnnotation cat (.delete t f site) (.delete t f' site)

/-- A table found in a catalog is found the same in a catalog with more tables after it. -/
theorem Catalog.find?_of_tables_append {cat cat' : Catalog} {added : List Table}
    (h : cat'.tables = cat.tables ++ added) {k : Key} {tbl : Table}
    (hk : cat.find? k = some tbl) : cat'.find? k = some tbl := by
  unfold Catalog.find? at hk ⊢
  rw [h, List.find?_append, hk, Option.some_or]

section Growth

variable {cat cat' : Catalog} {added : List Table}

theorem Node.FilterAnnotation.mono (h : cat'.tables = cat.tables ++ added) {t : Datum}
    {f f' : Node} (hf : Node.FilterAnnotation cat t f f') : Node.FilterAnnotation cat' t f f' := by
  cases hf with
  | absent => exact .absent
  | present hk htbl ha => exact .present hk (Catalog.find?_of_tables_append h htbl) ha

/-- An annotation over a catalog holds over any catalog with more tables after its own. -/
theorem Node.StatementAnnotation.mono (h : cat'.tables = cat.tables ++ added) {n n' : Node}
    (hs : Node.StatementAnnotation cat n n') : Node.StatementAnnotation cat' n n' := by
  cases hs with
  | create => exact .create
  | insert => exact .insert
  | select hf => exact .select (hf.mono h)
  | update hf => exact .update (hf.mono h)
  | delete hf => exact .delete (hf.mono h)

end Growth

/-! ### Checks that return -/

namespace Check

/-- A bind that returns ran its first check to a result, and the rest from there. -/
theorem exec_bind_ok {x : Check α} {f : α → Check β} {st st' : Analyzer} {b : β}
    (h : (x >>= f).exec st = (.ok b, st')) :
    ∃ a st₁, x.exec st = (.ok a, st₁) ∧ (f a).exec st₁ = (.ok b, st') := by
  rw [exec_bind] at h
  revert h
  rcases x.exec st with ⟨_ | a, st₁⟩
  · exact fun h => by cases h
  · exact fun h => ⟨a, st₁, rfl, h⟩

/-- A table lookup that returns found the table under the key of its name. -/
theorem exec_table_ok {name l c : Datum} {st st' : Analyzer} {tbl : Table}
    (h : (table name l c).exec st = (.ok tbl, st')) :
    st' = st ∧ ∃ k, name.key? = some k ∧ st.catalog.find? k = some tbl := by
  rcases hk : name.key? with _ | k
  · simp [table, key, halt, hk] at h
  rcases hf : st.catalog.find? k with _ | t
  · simp [table, key, exec_bind, hk, hf] at h
  · simp [table, key, exec_bind, hk, hf] at h
    obtain ⟨rfl, rfl⟩ := h
    exact ⟨rfl, k, rfl, hf⟩

/-- A column read that returns, in the scope of a table of the catalog, found the column in
that table, with its declared type. -/
theorem exec_column_ok {name : Datum} {s : Site} {st st' : Analyzer} {τ : SqlType}
    (h : (column name s).exec st = (.ok τ, st')) {k : Key} {tbl : Table}
    (hk : st.scope.key? = some k) (htbl : st.catalog.find? k = some tbl) :
    st' = st ∧ ∃ kn, name.key? = some kn ∧ tbl.columnType? kn = some τ := by
  -- outside a scope, without a place, or with no such column, the read ends early
  rcases ht : st.scope.truthy with _ | _
  · simp [column, raise, place, halt, exec_bind, ht] at h
    split at h <;> simp at h
  rcases hp : s.get? with _ | ⟨l, c⟩
  · simp [column, place, halt, exec_bind, ht, hp] at h
  rcases hn : name.key? with _ | kn
  · simp [column, columnType, table, key, place, halt, exec_bind, ht, hp, hn, hk, htbl] at h
  rcases hτ : tbl.columnType? kn with _ | τ'
  · simp [column, columnType, table, key, place, exec_bind, ht, hp, hn, hk, htbl, hτ] at h
  · simp [column, columnType, table, key, place, exec_bind, ht, hp, hn, hk, htbl, hτ] at h
    obtain ⟨rfl, rfl⟩ := h
    exact ⟨rfl, kn, rfl, hτ⟩

/-- Reading a place leaves the state as it was. -/
theorem exec_place_state {s : Site} {st st' : Analyzer} {r : Except Stop (Datum × Datum)}
    (h : (place s).exec st = (r, st')) : st' = st := by
  have hst := (still_place s).exec_state st
  rw [h] at hst
  exact hst

/-- Comparing the types of two operands leaves the state as it was. -/
theorem still_operands (lt rt : Option SqlType) (s : Site) : Still (operands lt rt s) := by
  unfold operands
  split
  · split
    · exact still_raise _ _
    · exact Still.pure _
  · exact Still.pure _

end Check

/-- The check of a `SELECT`, `UPDATE` or `DELETE` reads its place, then its table: a check that
returns found the table. -/
theorem Node.Filters.table_found {n f : Node} {t : Datum} {c : Check Unit} (h : n.Filters t f c)
    {st st₁ : Analyzer} {u : Unit} (hc : c.exec st = (.ok u, st₁)) :
    ∃ k tbl, t.key? = some k ∧ st.catalog.find? k = some tbl := by
  -- each of the three checks reads its place, which leaves the state as it was, then its table
  obtain ⟨l, c', tbl, st₂, htable⟩ : ∃ l c' tbl st₂, (table t l c').exec st = (.ok tbl, st₂) := by
    cases h <;> simp only [Check.select, Check.update, Check.delete] at hc
    all_goals
      obtain ⟨⟨l, c'⟩, st₂, hplace, hc⟩ := exec_bind_ok hc
      obtain ⟨tbl, st₃, htable, -⟩ := exec_bind_ok hc
      exact ⟨l, c', tbl, st₃, exec_place_state hplace ▸ htable⟩
  obtain ⟨-, k, hk, htbl⟩ := exec_table_ok htable
  exact ⟨k, tbl, hk, htbl⟩

/-! ### Visits that return -/

section Visits

variable {st st₁ : Analyzer}

theorem visit_negation (c : Node) (site : Site) (st : Analyzer) :
    visit (.negation c site) st =
      ⟨.negation (visit c st).node site, (visit c st).state, (visit c st).outcome⟩ := by
  rw [visit]

/-- An operation whose left operand returned has the visits of both operands as its operands,
the right one from the state the left one left. -/
theorem visit_binary_node {l r : Node} (op : Datum) (site : Site) {lt : Option SqlType}
    (hl : (visit l st).outcome = .ok lt) (hsl : (visit l st).state = st₁) :
    (visit (.binary op l r site) st).node =
      .binary op (visit l st).node (visit r st₁).node site := by
  simp only [visit, hl, hsl]
  split <;> rfl

theorem Visit.ofCheck_node (n : Node) (c : Check Unit) (st : Analyzer) :
    (Visit.ofCheck n c st).node = n := by
  unfold Visit.ofCheck
  rcases c.exec st with ⟨o, st'⟩
  rfl

/-- **A condition whose visit returns is annotated.** Read in the scope of a table of the
catalog, a complete condition whose visit returns leaves the state as it was, and its tree is
annotated over that table. -/
theorem Cond.visit_annotated {c : Cond} (hc : c.Complete) {k : Key} {tbl : Table}
    (hk : st.scope.key? = some k) (htbl : st.catalog.find? k = some tbl) {a : Option SqlType}
    (hok : (visit c.toNode st).outcome = .ok a) :
    (visit c.toNode st).state = st ∧ c.toNode.Annotation tbl (visit c.toNode st).node := by
  induction c generalizing a with
  | binary op l r p ihl ihr =>
    -- both operands returned, each from the state the analysis started in
    rcases hl : (visit l.toNode st).outcome with sl | lt
    · rw [Cond.toNode, (visit_binary_of_left op r.toNode (.ofPlace p) hl).2] at hok
      cases hok
    obtain ⟨hsl, hnl⟩ := ihl hc.1 hl
    rcases hr : (visit r.toNode st).outcome with sr | rt
    · rw [Cond.toNode, (visit_binary_of_right op (.ofPlace p) hl hsl hr).2] at hok
      cases hok
    obtain ⟨hsr, hnr⟩ := ihr hc.2 hr
    have hv := visit_binary_of_ok op (.ofPlace p) hl hsl hr
    refine ⟨?_, ?_⟩
    · rw [Cond.toNode, hv.1, hsr, (still_operands lt rt _).exec_state]
    · rw [Cond.toNode, visit_binary_node op (.ofPlace p) hl hsl]
      exact .binary hnl hnr
  | not c ih =>
    rw [Cond.toNode, visit_negation] at hok ⊢
    obtain ⟨hs, hn⟩ := ih hc hok
    exact ⟨hs, .negation hn⟩
  | column name p =>
    rcases hcol : (Check.column name (.ofPlace p)).exec st with ⟨_ | τ, st'⟩
    · simp [Cond.toNode, visit, hcol] at hok
    · obtain ⟨rfl, kn, hkn, hτ⟩ := exec_column_ok hcol hk htbl
      simp only [Cond.toNode, visit, hcol, true_and]
      exact .column hkn hτ
  | literal v p =>
    -- a complete literal is a text
    obtain ⟨s, rfl⟩ := hc
    simp only [Cond.toNode, visit, true_and]
    exact .literal

/-- The `WHERE` clause of a statement whose check passed, and whose visit returns, is annotated
over the statement's table. -/
theorem visitFilter_annotated {f : Option Cond} (hf : ∀ c ∈ f, c.Complete) {n : Node}
    {t : Datum} {c : Check Unit} (hn : n.Filters t (Cond.toFilter f) c) {u : Unit}
    (hc : c.exec st = (.ok u, st₁)) {a : Option SqlType}
    (hok : (visitFilter (Cond.toFilter f) st₁).outcome = .ok a) :
    Node.FilterAnnotation st.catalog t (Cond.toFilter f)
      (visitFilter (Cond.toFilter f) st₁).node := by
  -- the check put its table in scope, and found it
  have hst₁ : st₁ = { st with scope := t } := by
    have h := hn.triple_check st st rfl
    rw [hc] at h
    exact h
  obtain ⟨k, tbl, hk, htbl⟩ := hn.table_found hc
  cases f with
  | none =>
    rw [Cond.toFilter, visitFilter]
    exact .absent
  | some c =>
    rw [Cond.toFilter, visitFilter.eq_2 _ _ (Cond.toNode_ne_absent c)] at hok ⊢
    obtain ⟨a', hok'⟩ : ∃ a', (visit c.toNode st₁).outcome = .ok a' := by
      revert hok
      cases (visit c.toNode st₁).outcome <;> simp [Except.map]
    have hk₁ : st₁.scope.key? = some k := by rw [hst₁]; exact hk
    have htbl₁ : st₁.catalog.find? k = some tbl := by rw [hst₁]; exact htbl
    exact .present hk htbl (Cond.visit_annotated (hf c rfl) hk₁ htbl₁ hok').2

/-- **A statement whose visit returns is annotated**, over the catalog it was visited with. -/
theorem Stmt.visit_annotated {x : Stmt} (hx : x.Complete) {a : Option SqlType}
    (hok : (visit x.toNode st).outcome = .ok a) :
    Node.StatementAnnotation st.catalog x.toNode (visit x.toNode st).node := by
  cases x with
  | create t cols =>
    obtain ⟨⟨name, p⟩, rfl⟩ := Option.isSome_iff_exists.1 hx
    simp only [Stmt.toNode, visit, Visit.ofCheck_node]
    exact .create
  | insert t vals p =>
    simp only [Stmt.toNode, visit, Visit.ofCheck_node]
    exact .insert
  -- the other three statements passed their check, or their visit would have stopped with it
  | select items t f p =>
    rcases hc : (Check.select (.list items) t (.ofPlace p)).exec st with ⟨_ | u, st₁⟩
    · simp [Stmt.toNode, visit, hc] at hok
    simp only [Stmt.toNode, visit, hc] at hok ⊢
    exact .select (visitFilter_annotated hx (.select _ _ _ _) hc hok)
  | update t assigns f p =>
    -- the assignments' datum plays no part: name it
    obtain ⟨d, hd⟩ : ∃ d, (Stmt.update t assigns f p).toNode =
        .update t d (Cond.toFilter f) (.ofPlace p) := ⟨_, rfl⟩
    rw [hd] at hok ⊢
    rcases hc : (Check.update t d (.ofPlace p)).exec st with ⟨_ | u, st₁⟩
    · simp [visit, hc] at hok
    simp only [visit, hc] at hok ⊢
    exact .update (visitFilter_annotated hx (.update _ _ _ _) hc hok)
  | delete t f p =>
    rcases hc : (Check.delete t (.ofPlace p)).exec st with ⟨_ | u, st₁⟩
    · simp [Stmt.toNode, visit, hc] at hok
    simp only [Stmt.toNode, visit, hc] at hok ⊢
    exact .delete (visitFilter_annotated hx (.delete _ _ _) hc hok)

/-- **A program that reports no error is annotated.** The statements of a textual and complete
program, visited from a state with no errors to a state with none, all return: each visited
statement is its statement annotated over the final catalog. -/
theorem visitStatements_annotated {prog : Program} (hp : ∀ x ∈ prog, x.Textual ∧ x.Complete)
    (st : Analyzer) (he : (visitStatements (prog.map Stmt.toNode) st).2.1.errors = #[]) :
    List.Forall₂ (fun x n => Node.StatementAnnotation
        (visitStatements (prog.map Stmt.toNode) st).2.1.catalog x.toNode n)
      prog (visitStatements (prog.map Stmt.toNode) st).1 := by
  induction prog generalizing st with
  | nil =>
    rw [List.map_nil, visitStatements]
    exact .nil
  | cons x rest ih =>
    obtain ⟨hxt, hxc⟩ := hp x List.mem_cons_self
    -- the statement does not halt: its `CREATE` has a name
    have hs := Stmt.settled hxt (fun cols hx => by subst hx; cases hxc) st
    have hext := visitStatements_extends (rest.map Stmt.toNode) (visit x.toNode st).following
    rw [List.map_cons, visitStatements_cons hs] at he ⊢
    dsimp only at he ⊢
    -- it reported no error, so it returned
    obtain ⟨a, ha⟩ : ∃ a, (visit x.toNode st).outcome = .ok a := by
      obtain ⟨added, hgrow, -⟩ := hext
      have hnil := hgrow.errors
      rw [he, errors_following_visit] at hnil
      rcases hv : (visit x.toNode st).outcome with (e | _) | a
      · simp [Visit.reported, hv] at hnil
      · exact absurd hv hs
      · exact ⟨a, rfl⟩
    -- its table is in the final catalog, which only added tables after it
    obtain ⟨added₁, hgrow₁, -⟩ := visit_extends x.toNode st
    obtain ⟨added₂, hgrow₂, -⟩ := hext
    have htables :
        (visitStatements (rest.map Stmt.toNode) (visit x.toNode st).following).2.1.catalog.tables =
        st.catalog.tables ++ (added₁ ++ added₂) := by
      rw [hgrow₂.tables, ← List.append_assoc, ← hgrow₁.tables]
      unfold Visit.following
      split <;> rfl
    exact .cons ((Stmt.visit_annotated hxc ha).mono htables)
      (ih (fun y hy => hp y (List.mem_cons_of_mem x hy)) _ he)

end Visits

/-- The analyzer and the tree of a run are what the analysis of its parsed program gives. -/
theorem Run.analyzer_of (s : Str) (st : Analyzer) :
    (Run.of s st).analyzer = (analyze (parseTokens (scan s).tokens).program.toNode st).1 := rfl

theorem Run.tree_of (s : Str) (st : Analyzer) :
    (Run.of s st).tree = (analyze (parseTokens (scan s).tokens).program.toNode st).2 := rfl

/-- **The annotated tree of a source with no errors.** For a source whose scan, parse and
analysis report no errors, the analysis returns the program's statements annotated over the
final catalog, one for each. -/
theorem run_annotated {s : Str} (hparse : (Run.of s).parsed.errors = [])
    (hsem : (Run.of s).analyzer.errors = #[]) :
    ∃ ns, (Run.of s).tree = .query ns {} ∧
      List.Forall₂ (fun x n => Node.StatementAnnotation (Run.of s).analyzer.catalog x.toNode n)
        (Run.of s).parsed.program ns := by
  have hp : ∀ x ∈ (Run.of s).parsed.program, x.Textual ∧ x.Complete := fun x hx =>
    ⟨parse_textual (Parser.lexical_toTerminal _) x hx, parseTokens_complete hparse x hx⟩
  rw [Run.analyzer_of, analyze_toNode] at hsem ⊢
  rw [Run.tree_of, analyze_toNode]
  exact ⟨_, rfl, visitStatements_annotated hp {} hsem⟩

/-! ### Drawings that show the types -/

namespace Render

/-- A label that names a column or a literal ends with the annotation of a type. -/
def ShowsType (label : Str) : Prop :=
  (Str.ofString "ColumnRef: " <+: label ∨ Str.ofString "Literal: " <+: label) →
    ∃ τ : SqlType, Str.ofString (" <Type: " ++ τ.name ++ ">") <:+ label

/-- A label that begins with a text which neither begins `ColumnRef: ` or `Literal: ` nor is
begun by it names no column or literal. -/
theorem showsType_of_prefix {p label : Str} (h : p <+: label)
    (hc : ¬ (Str.ofString "ColumnRef: " <+: p ∨ p <+: Str.ofString "ColumnRef: "))
    (hl : ¬ (Str.ofString "Literal: " <+: p ∨ p <+: Str.ofString "Literal: ")) :
    ShowsType label := by
  rintro (h' | h')
  · exact absurd (List.prefix_or_prefix_of_prefix h' h) hc
  · exact absurd (List.prefix_or_prefix_of_prefix h' h) hl

theorem showsType_append {p : Str} (w : Str)
    (hc : ¬ (Str.ofString "ColumnRef: " <+: p ∨ p <+: Str.ofString "ColumnRef: "))
    (hl : ¬ (Str.ofString "Literal: " <+: p ∨ p <+: Str.ofString "Literal: ")) :
    ShowsType (p ++ w) :=
  showsType_of_prefix (List.prefix_append p w) hc hl

theorem showsType_annotated (label : Str) (τ : SqlType) :
    ShowsType (label ++ Str.ofString (" <Type: " ++ τ.name ++ ">")) :=
  fun _ => ⟨τ, List.suffix_append _ _⟩

end Render

namespace Outline

/-- Every label of the outline satisfies `P`. -/
inductive Labels (P : Str → Prop) : Outline → Prop
  | entry {label : Str} {children : List Outline} :
      P label → (∀ o ∈ children, Labels P o) → Labels P (.entry label children)

theorem labels_leaves {P : Str → Prop} {texts : List Str} (h : ∀ t ∈ texts, P t) :
    ∀ o ∈ texts.map leaf, o.Labels P := by
  intro o ho
  obtain ⟨t, ht, rfl⟩ := List.mem_map.1 ho
  exact .entry (h t ht) nofun

/-- An entry under a list of children is an entry of one of them. -/
theorem mem_childEntries {ancestors : List Bool} : ∀ {cs : List Outline} {e : Entry},
    e ∈ childEntries ancestors cs → ∃ c ∈ cs, ∃ l, e ∈ c.entries ancestors l
  | [], e, h => by simp at h
  | [c], e, h => ⟨c, List.mem_singleton_self c, true, by simpa using h⟩
  | c :: c' :: cs, e, h => by
    rw [childEntries_cons_cons, List.mem_append] at h
    rcases h with h | h
    · exact ⟨c, List.mem_cons_self, false, h⟩
    · obtain ⟨d, hd, l, he⟩ := mem_childEntries h
      exact ⟨d, List.mem_cons_of_mem c hd, l, he⟩

/-- Every entry of an outline whose labels satisfy `P` has a label satisfying `P`. -/
theorem Labels.entries {P : Str → Prop} {o : Outline} (h : o.Labels P) :
    ∀ ancestors last, ∀ e ∈ o.entries ancestors last, P e.label := by
  induction h with
  | entry hlabel _ ih =>
    intro ancestors last e he
    rw [entries_entry, List.mem_cons] at he
    rcases he with rfl | he
    · exact hlabel
    · obtain ⟨c, hc, l, he⟩ := mem_childEntries he
      exact ih c hc _ l e he

end Outline

/-- The results of a map in `Except` that returns are each a result of one of its steps. -/
theorem forall_of_mapM_eq_ok {xs : List α} {f : α → Except ε β} {P : β → Prop}
    (hf : ∀ x y, f x = .ok y → P y) {ys : List β} (h : xs.mapM f = .ok ys) : ∀ y ∈ ys, P y := by
  induction xs generalizing ys with
  | nil =>
    obtain rfl : ys = [] := (Except.ok.inj h).symm
    exact nofun
  | cons x xs ih =>
    rw [List.mapM_cons] at h
    rcases hx : f x with e | y
    · rw [hx] at h
      cases h
    rcases hxs : xs.mapM f with e | ys'
    · rw [hx, hxs] at h
      cases h
    rw [hx, hxs] at h
    cases h
    intro y' hy'
    rcases List.mem_cons.1 hy' with rfl | hy'
    · exact hf x _ hx
    · exact ih hxs y' hy'

namespace Render

/-- The entries of a `CREATE` are column definitions. -/
theorem prefix_columnEntries {cols : Datum} {es : List Str} (h : columnEntries cols = .ok es) :
    ∀ e ∈ es, Str.ofString "Column: " <+: e := by
  unfold columnEntries at h
  rcases hcols : cols.items with _ | items
  · rw [hcols] at h
    cases h
  rw [hcols] at h
  refine forall_of_mapM_eq_ok (fun c e he => ?_) h
  rcases h0 : c.index 0 with _ | a
  · rw [h0] at he
    cases he
  rcases h1 : c.index 1 with _ | b
  · rw [h0, h1] at he
    cases he
  rw [h0, h1] at he
  cases he
  exact ((List.prefix_append _ _).trans (List.prefix_append _ _)).trans (List.prefix_append _ _)

/-- The entries of an `UPDATE` are assignments. -/
theorem prefix_assignmentEntries {assigns : Datum} {es : List Str}
    (h : assignmentEntries assigns = .ok es) : ∀ e ∈ es, Str.ofString "Set: " <+: e := by
  unfold assignmentEntries at h
  rcases has : assigns.items with _ | items
  · rw [has] at h
    cases h
  rw [has] at h
  refine forall_of_mapM_eq_ok (fun a e he => ?_) h
  rcases hp : a.pair with _ | ⟨c, v⟩
  · rw [hp] at he
    cases he
  rw [hp] at he
  cases he
  exact ((List.prefix_append _ _).trans (List.prefix_append _ _)).trans (List.prefix_append _ _)

end Render

/-! ### The drawing of an annotated tree -/

/-- An annotated condition has an outline, and its labels show their types. -/
theorem Node.Annotation.outline {tbl : Table} {n n' : Node} (h : n.Annotation tbl n') :
    ∃ o, n'.outline = .ok o ∧ o.Labels Render.ShowsType := by
  induction h with
  | @binary op l r l' r' site _ _ ihl ihr =>
    obtain ⟨lo, hlo, hl⟩ := ihl
    obtain ⟨ro, hro, hr⟩ := ihr
    refine ⟨.entry ("BinaryOp: " ++ op.written) [lo, ro], by rw [Node.outline, hlo, hro]; rfl,
      .entry (Render.showsType_append _ (by decide) (by decide)) ?_⟩
    intro o ho
    simp only [List.mem_cons, List.not_mem_nil, or_false] at ho
    rcases ho with rfl | rfl
    · exact hl
    · exact hr
  | @negation c c' site _ ih =>
    obtain ⟨o, ho, hlo⟩ := ih
    refine ⟨.entry "NOT" [o], by rw [Node.outline, ho]; rfl,
      .entry (Render.showsType_of_prefix (List.prefix_refl _) (by decide) (by decide)) ?_⟩
    intro o' ho'
    rw [List.mem_singleton] at ho'
    exact ho' ▸ hlo
  | @column name site ty k τ _ _ =>
    exact ⟨.leaf ("ColumnRef: " ++ name.written ++ Render.annotation (some τ)),
      by rw [Node.outline]; rfl, .entry (Render.showsType_annotated _ _) nofun⟩
  | @literal s site ty =>
    exact ⟨.leaf ("Literal: " ++ Datum.written (.str s) ++
        Render.annotation (some (SqlType.ofLiteral s))),
      by rw [Node.outline]; rfl, .entry (Render.showsType_annotated _ _) nofun⟩

/-- The `WHERE` clause of an annotated statement adds children whose labels show their types. -/
theorem Node.FilterAnnotation.filterChildren {cat : Catalog} {t : Datum} {f f' : Node}
    (h : Node.FilterAnnotation cat t f f') :
    ∃ os, Node.filterChildren f' f'.outline = .ok os ∧ ∀ o ∈ os, o.Labels Render.ShowsType := by
  cases h with
  | absent => exact ⟨[], rfl, nofun⟩
  | present _ _ ha =>
    obtain ⟨o, ho, hlo⟩ := ha.outline
    -- an annotated condition is present
    have hp : Render.Node.isPresent f' = true := by cases ha <;> rfl
    refine ⟨[o], by rw [Node.filterChildren_of_isPresent hp, ho]; rfl, ?_⟩
    intro o' ho'
    rw [List.mem_singleton] at ho'
    exact ho' ▸ hlo

/-- An annotated statement whose tree has an outline has one itself, and its labels show their
types. -/
theorem Node.StatementAnnotation.outline {cat : Catalog} {n n' : Node}
    (h : Node.StatementAnnotation cat n n') (hn : ∃ o, n.outline = .ok o) :
    ∃ o, n'.outline = .ok o ∧ o.Labels Render.ShowsType := by
  obtain ⟨o, ho⟩ := hn
  cases h with
  | @create t cols site =>
    rcases hes : Render.columnEntries cols with e | es
    · rw [Node.outline, hes] at ho
      cases ho
    refine ⟨.entry ("Create Table: " ++ t.written) (es.map .leaf), by rw [Node.outline, hes]; rfl,
      .entry (Render.showsType_append _ (by decide) (by decide))
        (Outline.labels_leaves fun e he => ?_)⟩
    exact Render.showsType_of_prefix (Render.prefix_columnEntries hes e he) (by decide) (by decide)
  | @insert t vals site =>
    rcases hes : vals.items with e | es
    · rw [Node.outline, hes] at ho
      cases ho
    refine ⟨.entry ("Insert into: " ++ t.written)
        ((es.map fun v => ("Value: " : Str) ++ v.written).map .leaf),
      by rw [Node.outline, hes]; rfl,
      .entry (Render.showsType_append _ (by decide) (by decide))
        (Outline.labels_leaves fun e he => ?_)⟩
    obtain ⟨v, -, rfl⟩ := List.mem_map.1 he
    exact Render.showsType_append _ (by decide) (by decide)
  | @select items t f f' site hf =>
    rcases hes : items.items with e | es
    · rw [Node.outline, hes] at ho
      cases ho
    obtain ⟨os, hos, hlos⟩ := hf.filterChildren
    refine ⟨.entry ("Select from: " ++ t.written)
        ((es.map fun c => ("Column: " : Str) ++ c.written).map .leaf ++ os),
      by rw [Node.outline, hes, hos]; rfl,
      .entry (Render.showsType_append _ (by decide) (by decide))
        (List.forall_mem_append.2 ⟨Outline.labels_leaves fun e he => ?_, hlos⟩)⟩
    obtain ⟨c, -, rfl⟩ := List.mem_map.1 he
    exact Render.showsType_append _ (by decide) (by decide)
  | @update t assigns f f' site hf =>
    rcases hes : Render.assignmentEntries assigns with e | es
    · rw [Node.outline, hes] at ho
      cases ho
    obtain ⟨os, hos, hlos⟩ := hf.filterChildren
    refine ⟨.entry ("Update: " ++ t.written) (es.map .leaf ++ os),
      by rw [Node.outline, hes, hos]; rfl,
      .entry (Render.showsType_append _ (by decide) (by decide))
        (List.forall_mem_append.2 ⟨Outline.labels_leaves fun e he => ?_, hlos⟩)⟩
    exact Render.showsType_of_prefix (Render.prefix_assignmentEntries hes e he) (by decide)
      (by decide)
  | @delete t f f' site hf =>
    obtain ⟨os, hos, hlos⟩ := hf.filterChildren
    exact ⟨.entry ("Delete from: " ++ t.written) os, by rw [Node.outline, hos]; rfl,
      .entry (Render.showsType_append _ (by decide) (by decide)) hlos⟩

/-- The program of annotated statements has an outline, and its labels show their types. -/
theorem outline_query_annotated {cat : Catalog} {prog : Program} {ns : List Node}
    (h : List.Forall₂ (fun x n => Node.StatementAnnotation cat x.toNode n) prog ns) (site : Site) :
    ∃ o, (Node.query ns site).outline = .ok o ∧ o.Labels Render.ShowsType := by
  have houtlines : ∃ os, Node.outlines ns = .ok os ∧ ∀ o ∈ os, o.Labels Render.ShowsType := by
    induction h with
    | nil => exact ⟨[], by rw [Node.outlines]; rfl, nofun⟩
    | cons hx _ ih =>
      obtain ⟨o, ho, hlo⟩ := hx.outline (Stmt.outline_toNode _)
      obtain ⟨os, hos, hlos⟩ := ih
      exact ⟨o :: os, by rw [Node.outlines, ho, hos]; rfl, List.forall_mem_cons.2 ⟨hlo, hlos⟩⟩
  obtain ⟨os, hos, hlos⟩ := houtlines
  exact ⟨.entry "Query" os, by rw [Node.outline, hos]; rfl,
    .entry (Render.showsType_of_prefix (List.prefix_refl _) (by decide) (by decide)) hlos⟩

/-- **What the compiler prints for a source with no errors**: seven lines of header, the
success line and the catalog among them, then the drawing of the annotated tree, then a closing
rule. -/
theorem compileReport_clean {s : Str} (hlex : (Run.of s).lexed.errors = [])
    (hparse : (Run.of s).parsed.errors = []) (hsem : (Run.of s).analyzer.errors = #[])
    {drawing : List Str} (hdraw : (Run.of s).tree.render = .ok drawing) :
    ∃ pre : List Str, pre.length = 7 ∧
      Console.compileReport s = .ok (pre ++ drawing ++ [Text.rule 60 '=']) := by
  -- the catalog of a parsed program prints
  obtain ⟨catalog, hcat⟩ : ∃ out,
      (analyze (parseTokens (scan s).tokens).program.toNode).1.catalog.render = .ok out :=
    Catalog.render_ok (analyze_wellFormed (Parser.lexical_toTerminal (scan s).tokens)
      (show ({} : Analyzer).catalog.WellFormed from nofun))
  have hlex' : (scan s).errors = [] := hlex
  have hparse' : (parseTokens (scan s).tokens).errors = [] := hparse
  rcases ha : analyze (parseTokens (scan s).tokens).program.toNode with ⟨st, tree⟩
  simp only [Run.analyzer_of, ha] at hsem
  simp only [Run.tree_of, ha] at hdraw
  rw [ha] at hcat
  refine ⟨[Str.ofString "Semantic Analysis Successful. Query is valid.", [], catalog, [],
    Text.rule 60 '=', "ANNOTATED PARSE TREE", Text.rule 60 '='], rfl, ?_⟩
  simp only [Console.compileReport, hlex', hparse', ha, hsem, hcat, hdraw]
  rfl

theorem Entry.label_suffix_line (e : Entry) : e.label <:+ e.line := List.suffix_append _ _

/-- **The types a successful compilation shows.** For a source whose scan, parse and analysis
report no errors, the analysis returns one annotated statement for each parsed statement: each
column of the condition of a `SELECT`, `UPDATE` or `DELETE` with its declared type in the table
that the statement names, and each literal with the type of its text. The compiler prints seven
lines of header, the drawing of that tree and a closing rule; and every entry of the drawing
whose label begins with `ColumnRef: ` or `Literal: ` is drawn as a line that ends with the
annotation of a type. -/
theorem clean_compile_annotations (s : Str) (hlex : (Run.of s).lexed.errors = [])
    (hparse : (Run.of s).parsed.errors = []) (hsem : (Run.of s).analyzer.errors = #[]) :
    ∃ ns, (Run.of s).tree = .query ns {} ∧
      List.Forall₂ (fun x n => Node.StatementAnnotation (Run.of s).analyzer.catalog x.toNode n)
        (Run.of s).parsed.program ns ∧
      ∃ o pre, (Run.of s).tree.outline = .ok o ∧ pre.length = 7 ∧
        Console.compileReport s =
          .ok (pre ++ (o.entries [] true).map Entry.line ++ [Text.rule 60 '=']) ∧
        ∀ e ∈ o.entries [] true,
          (Str.ofString "ColumnRef: " <+: e.label ∨ Str.ofString "Literal: " <+: e.label) →
            ∃ τ : SqlType, Str.ofString (" <Type: " ++ τ.name ++ ">") <:+ e.line := by
  obtain ⟨ns, htree, hann⟩ := run_annotated hparse hsem
  obtain ⟨o, ho, hlabels⟩ := outline_query_annotated hann {}
  rw [← htree] at ho
  have hdraw : (Run.of s).tree.render = .ok ((o.entries [] true).map Entry.line) := by
    rw [Node.render_outline, ho]
    rfl
  obtain ⟨pre, hpre, hreport⟩ := compileReport_clean hlex hparse hsem hdraw
  refine ⟨ns, htree, hann, o, pre, ho, hpre, hreport, fun e he hname => ?_⟩
  -- the label ends with the annotation, and the line with the label
  obtain ⟨τ, hτ⟩ := hlabels.entries [] true e he hname
  exact ⟨τ, hτ.trans e.label_suffix_line⟩

/-- `CREATE TABLE t (a TEXT); DELETE FROM t WHERE a = 'x'` compiles with no error. -/
theorem clean_compile_annotations_deleteText :
    (Run.of "CREATE TABLE t (a TEXT); DELETE FROM t WHERE a = 'x'").lexed.errors = [] ∧
      (Run.of "CREATE TABLE t (a TEXT); DELETE FROM t WHERE a = 'x'").parsed.errors = [] ∧
      (Run.of "CREATE TABLE t (a TEXT); DELETE FROM t WHERE a = 'x'").analyzer.errors = #[] ∧
      ∃ ns, (Run.of "CREATE TABLE t (a TEXT); DELETE FROM t WHERE a = 'x'").tree = .query ns {} ∧
        List.Forall₂ (fun x n => Node.StatementAnnotation
            (Run.of "CREATE TABLE t (a TEXT); DELETE FROM t WHERE a = 'x'").analyzer.catalog
            x.toNode n)
          (Run.of "CREATE TABLE t (a TEXT); DELETE FROM t WHERE a = 'x'").parsed.program ns ∧
        ∃ o pre,
          (Run.of "CREATE TABLE t (a TEXT); DELETE FROM t WHERE a = 'x'").tree.outline = .ok o ∧
          pre.length = 7 ∧
          Console.compileReport "CREATE TABLE t (a TEXT); DELETE FROM t WHERE a = 'x'" =
            .ok (pre ++ (o.entries [] true).map Entry.line ++ [Text.rule 60 '=']) ∧
          ∀ e ∈ o.entries [] true,
            (Str.ofString "ColumnRef: " <+: e.label ∨ Str.ofString "Literal: " <+: e.label) →
              ∃ τ : SqlType, Str.ofString (" <Type: " ++ τ.name ++ ">") <:+ e.line := by
  -- the analysis is evaluated through its structural twin
  obtain ⟨hlex, hparse, hsem⟩ :
      (Run.of "CREATE TABLE t (a TEXT); DELETE FROM t WHERE a = 'x'").lexed.errors = [] ∧
      (Run.of "CREATE TABLE t (a TEXT); DELETE FROM t WHERE a = 'x'").parsed.errors = [] ∧
      (Run.of "CREATE TABLE t (a TEXT); DELETE FROM t WHERE a = 'x'").analyzer.errors = #[] := by
    simp only [Run.of, analyze_eq_visitRec]
    decide +kernel
  exact ⟨hlex, hparse, hsem, clean_compile_annotations _ hlex hparse hsem⟩

/-- A literal whose text holds a line feed is printed over two lines, and the first shows no
type: `CREATE TABLE t (a TEXT); DELETE FROM t WHERE a = 'x`, a line feed, then `y'`, compiles
with no error, and its output holds the line of the literal's entry up to the line feed. -/
theorem compile_literal_line_feed :
    (Run.of "CREATE TABLE t (a TEXT); DELETE FROM t WHERE a = 'x\ny'").lexed.errors = [] ∧
      (Run.of "CREATE TABLE t (a TEXT); DELETE FROM t WHERE a = 'x\ny'").parsed.errors = [] ∧
      (Run.of "CREATE TABLE t (a TEXT); DELETE FROM t WHERE a = 'x\ny'").analyzer.errors = #[] ∧
      (Console.compileReport "CREATE TABLE t (a TEXT); DELETE FROM t WHERE a = 'x\ny'").toOption.map
        (fun out => decide (Str.ofString "            └── Literal: 'x" ∈
          (Text.unlines out).splitOn (.char '\n'))) = some true ∧
      ∀ τ : SqlType,
        ¬ Str.ofString (" <Type: " ++ τ.name ++ ">") <:+
          Str.ofString "            └── Literal: 'x" := by
  refine ⟨?_, ?_, ?_, ?_, fun τ => by cases τ <;> decide⟩
  -- the analysis is evaluated through its structural twin, the drawing through the outline
  all_goals simp only [Run.of, Console.compileReport, analyze_eq_visitRec, Node.render_outline]
  all_goals decide +kernel

end SqlFront
