import SqlFront.Proofs.Settling
/-!
# The catalog and the errors only grow

Whatever tree it is given and whatever state it starts from, the analysis keeps every table of
the catalog, in order and with its columns, and adds new tables after them; it keeps the errors
reported so far and adds new ones after them (`analyze_extends`). Only a `CREATE` node adds a
table, and at most one: the names of the tables added, in order, are among those of the
`CREATE` nodes of the tree, in the order the analysis visits them (`Node.creates`).

A check may end three ways: it returns, it reports an error, or it halts the analysis. What a
check does to the state whatever its ending is said by a triple with two postconditions,
`Check.Triple P c Q E`: from a state satisfying `P`, a return leaves one satisfying `Q`, and an
ending by `e` one satisfying `E e`. Every check but that of `CREATE` only reads the catalog and
moves the scope, so it leaves the catalog and the errors as they were (`Check.Frozen`). The
check of `CREATE` registers its table, then adds its columns to the last table, which is the
new one; if it stops before registering, nothing has changed (`create_extends`).

The visit of a tree is then one case per kind of node (`visit_extends`), with the relation
`Analyzer.Extends` composed along the visit, as the run of each node follows from the runs of
its children. The errors are reported only between statements, where they are pushed after the
others.

Of one statement more is said (`statement_catalog`): a statement other than `CREATE` leaves the
tables as they were, and a `CREATE` either leaves them or appends its own table. A `CREATE`
that fails is not undone: its check registers the table before it looks for duplicate columns,
so a duplicate column is reported with the table left registered, holding the columns read
before it.
-/

namespace SqlFront

open scoped List

/-! ### Extending a state -/

/-- The state `st'` keeps the tables of `st`, in order and with their columns, followed by the
tables `added`; and the errors of `st` begin the errors of `st'`. -/
structure Analyzer.Extends (st : Analyzer) (added : List Table) (st' : Analyzer) : Prop where
  tables : st'.catalog.tables = st.catalog.tables ++ added
  errors : st.errors.toList <+: st'.errors.toList

namespace Analyzer.Extends

theorem refl (st : Analyzer) : st.Extends [] st :=
  ⟨(List.append_nil _).symm, List.prefix_refl _⟩

theorem trans {st st' st'' : Analyzer} {added added' : List Table} (h : st.Extends added st')
    (h' : st'.Extends added' st'') : st.Extends (added ++ added') st'' :=
  ⟨by rw [h'.tables, h.tables, List.append_assoc], h.errors.trans h'.errors⟩

/-- A state with the same catalog and errors. -/
theorem of_eq {st st' : Analyzer} (hc : st'.catalog = st.catalog) (he : st'.errors = st.errors) :
    st.Extends [] st' :=
  ⟨by rw [hc, List.append_nil], he ▸ List.prefix_refl _⟩

/-- Moving the scope changes nothing else. -/
theorem scope {st st' : Analyzer} {added : List Table} (h : st.Extends added st') (d : Datum) :
    st.Extends added { st' with scope := d } :=
  ⟨h.tables, h.errors⟩

/-- Reporting an error puts it after the others. -/
theorem push {st st' : Analyzer} {added : List Table} (h : st.Extends added st')
    (e : SemanticError) (d : Datum) :
    st.Extends added { st' with errors := st'.errors.push e, scope := d } :=
  ⟨h.tables, h.errors.trans (by simp)⟩

end Analyzer.Extends

/-- The state records the catalog `cat` and the errors `errs`, whatever its scope. -/
def Analyzer.Records (cat : Catalog) (errs : Array SemanticError) (st : Analyzer) : Prop :=
  st.catalog = cat ∧ st.errors = errs

namespace Check

/-! ### The triple -/

/-- Run from a state satisfying `P`, the check `c` leaves a state satisfying `Q` when it returns,
and one satisfying `E e` when it ends by `e`. -/
def Triple (P : Analyzer → Prop) (c : Check α) (Q : Analyzer → Prop)
    (E : Stop → Analyzer → Prop) : Prop :=
  ∀ st, P st → match c.exec st with
    | (.ok _, st') => Q st'
    | (.error e, st') => E e st'

namespace Triple

variable {P P' Q Q' R I : Analyzer → Prop} {E E' : Stop → Analyzer → Prop}

theorem pure (h : ∀ st, P st → Q st) (a : α) : Triple P (pure a) Q E := h

theorem throw {e : Stop} (h : ∀ st, P st → E e st) : Triple P (throw e : Check α) Q E := h

theorem get (h : ∀ st, P st → Q st) : Triple P get Q E := h

theorem modify {f : Analyzer → Analyzer} (h : ∀ st, P st → Q (f st)) :
    Triple P (modify f) Q E :=
  h

/-- **Composition.** -/
theorem bind {x : Check α} {f : α → Check β} (hx : Triple P x R E)
    (hf : ∀ a, Triple R (f a) Q E) : Triple P (x >>= f) Q E := by
  intro st hst
  have h := hx st hst
  rw [exec_bind]
  revert h
  rcases x.exec st with ⟨_ | a, st'⟩
  · exact id
  · exact hf a st'

/-- **Consequence.** -/
theorem mono {c : Check α} (h : Triple P c Q E) (hP : ∀ st, P' st → P st)
    (hQ : ∀ st, Q st → Q' st) (hE : ∀ e st, E e st → E' e st) : Triple P' c Q' E' := by
  intro st hst
  have h := h st (hP st hst)
  revert h
  rcases c.exec st with ⟨_ | a, st'⟩
  · exact hE _ st'
  · exact hQ st'

/-- **Loops.** A loop keeps `I` when each of its steps, on a member of the list, does. -/
theorem forIn {xs : List α} {f : α → β → Check (ForInStep β)}
    (h : ∀ x ∈ xs, ∀ b, Triple I (f x b) I E) (b : β) : Triple I (forIn xs b f) I E := by
  induction xs generalizing b with
  | nil => exact Triple.pure (fun _ h => h) b
  | cons x xs ih =>
    rw [List.forIn_cons]
    refine (h x List.mem_cons_self b).bind fun r => ?_
    cases r with
    | done b' => exact Triple.pure (fun _ h => h) b'
    | yield b' => exact ih (fun y hy => h y (List.mem_cons_of_mem _ hy)) b'

/-- **Maps.** A map keeps `I` when each of its steps does. -/
theorem mapM {xs : List α} {f : α → Check β} (h : ∀ x ∈ xs, Triple I (f x) I E) :
    Triple I (xs.mapM f) I E := by
  induction xs with
  | nil => exact Triple.pure (fun _ h => h) _
  | cons x xs ih =>
    rw [List.mapM_cons]
    exact (h x List.mem_cons_self).bind fun _ =>
      (ih fun y hy => h y (List.mem_cons_of_mem _ hy)).bind fun _ => Triple.pure (fun _ h => h) _

end Triple

/-! ### Checks that leave the catalog and the errors -/

/-- Whatever its ending, the check leaves the catalog and the errors as they were. -/
def Frozen (c : Check α) : Prop :=
  ∀ cat errs, Triple (Analyzer.Records cat errs) c (Analyzer.Records cat errs)
    fun _ => Analyzer.Records cat errs

namespace Frozen

theorem pure (a : α) : Frozen (pure a : Check α) := fun _ _ => Triple.pure (fun _ h => h) a

theorem throw (e : Stop) : Frozen (throw e : Check α) := fun _ _ => Triple.throw fun _ h => h

theorem get : Frozen (get : Check Analyzer) := fun _ _ => Triple.get fun _ h => h

/-- Moving the scope. -/
theorem scope (d : Datum) : Frozen (modify fun st : Analyzer => { st with scope := d }) :=
  fun _ _ => Triple.modify fun _ h => h

theorem bind {x : Check α} {f : α → Check β} (hx : Frozen x) (hf : ∀ a, Frozen (f a)) :
    Frozen (x >>= f) :=
  fun cat errs => (hx cat errs).bind fun a => hf a cat errs

theorem forIn {xs : List α} {f : α → β → Check (ForInStep β)} (h : ∀ x ∈ xs, ∀ b, Frozen (f x b))
    (b : β) : Frozen (forIn xs b f) :=
  fun cat errs => Triple.forIn (fun x hx b => h x hx b cat errs) b

theorem mapM {xs : List α} {f : α → Check β} (h : ∀ x ∈ xs, Frozen (f x)) : Frozen (xs.mapM f) :=
  fun cat errs => Triple.mapM fun x hx => h x hx cat errs

/-- A frozen check extends its state by no table. -/
theorem extends_exec {c : Check α} (h : Frozen c) (st : Analyzer) :
    st.Extends [] (c.exec st).2 := by
  have h := h st.catalog st.errors st ⟨rfl, rfl⟩
  revert h
  rcases c.exec st with ⟨_ | a, st'⟩ <;> exact fun h => .of_eq h.1 h.2

end Frozen

/-! ### The checks that only read the catalog -/

section Frozen

theorem frozen_place (s : Site) : Frozen (place s) := by
  unfold place
  split
  · exact Frozen.pure _
  · exact Frozen.throw _

theorem frozen_raise (s : Site) (p : Problem) : Frozen (raise s p : Check α) :=
  (frozen_place s).bind fun _ => Frozen.throw _

theorem frozen_key (d : Datum) : Frozen (key d) := by
  unfold key
  split
  · exact Frozen.pure _
  · exact Frozen.throw _

theorem frozen_ofExcept (r : Except Fault α) : Frozen (ofExcept r) := by
  unfold ofExcept
  split
  · exact Frozen.pure _
  · exact Frozen.throw _

theorem frozen_table (name l c : Datum) : Frozen (table name l c) := by
  unfold table
  refine (frozen_key name).bind fun k => Frozen.get.bind fun st => ?_
  split
  · exact Frozen.pure _
  · exact Frozen.throw _

theorem frozen_columnType (name col l c : Datum) : Frozen (columnType name col l c) := by
  unfold columnType
  refine (frozen_table name l c).bind fun t => (frozen_key col).bind fun k => ?_
  split
  · exact Frozen.pure _
  · exact Frozen.throw _

theorem frozen_valueType (v : Datum) : Frozen (valueType v) := by
  unfold valueType
  split
  · exact Frozen.pure _
  · exact Frozen.throw _

theorem frozen_declaredType (s : Site) (ty : Datum) : Frozen (declaredType s ty) := by
  unfold declaredType
  refine (frozen_key ty).bind fun k => ?_
  split
  · split
    · exact Frozen.pure _
    · exact frozen_raise s _
  · exact frozen_raise s _

theorem frozen_insert (t vals : Datum) (s : Site) : Frozen (insert t vals s) := by
  unfold insert
  refine (frozen_place s).bind fun ⟨l, c⟩ => ?_
  refine (frozen_table t l c).bind fun tbl => (frozen_ofExcept _).bind fun provided => ?_
  dsimp only
  -- a wrong count stops before the values, which are read in either case
  split <;> try refine (Frozen.throw _).bind fun _ => ?_
  all_goals
    refine (frozen_ofExcept _).bind fun items =>
      (Frozen.forIn (fun x _ b => ?_) _).bind fun _ => Frozen.pure _
    refine (frozen_valueType x.1).bind fun vt => ?_
    split
    · exact (Frozen.throw _).bind fun _ => Frozen.pure _
    · exact Frozen.pure _

theorem frozen_select (items t : Datum) (s : Site) : Frozen (select items t s) := by
  unfold select
  refine (frozen_place s).bind fun ⟨l, c⟩ => ?_
  refine (frozen_table t l c).bind fun _ => (Frozen.scope t).bind fun _ => ?_
  split
  · refine (frozen_ofExcept _).bind fun cols =>
      (Frozen.forIn (fun col _ b => ?_) _).bind fun _ => Frozen.pure _
    exact (frozen_columnType t col l c).bind fun _ => Frozen.pure _
  · exact Frozen.pure _

theorem frozen_update (t assigns : Datum) (s : Site) : Frozen (update t assigns s) := by
  unfold update
  refine (frozen_place s).bind fun ⟨l, c⟩ => ?_
  refine (frozen_table t l c).bind fun _ => (Frozen.scope t).bind fun _ => ?_
  refine (frozen_ofExcept _).bind fun as =>
    (Frozen.forIn (fun a _ b => ?_) _).bind fun _ => Frozen.pure _
  refine (frozen_ofExcept _).bind fun ⟨cn, v⟩ => ?_
  refine (frozen_columnType t cn l c).bind fun ct => (frozen_valueType v).bind fun vt => ?_
  split
  · exact (Frozen.throw _).bind fun _ => Frozen.pure _
  · exact Frozen.pure _

theorem frozen_delete (t : Datum) (s : Site) : Frozen (delete t s) := by
  unfold delete
  exact (frozen_place s).bind fun ⟨l, c⟩ => (frozen_table t l c).bind fun _ => Frozen.scope t

theorem frozen_column (name : Datum) (s : Site) : Frozen (column name s) := by
  unfold column
  refine Frozen.get.bind fun st => ?_
  dsimp only
  split <;> try refine (frozen_raise s _).bind fun _ => ?_
  all_goals exact (frozen_place s).bind fun ⟨l, c⟩ => frozen_columnType _ name l c

theorem frozen_operands (lt rt : Option SqlType) (s : Site) : Frozen (operands lt rt s) := by
  unfold operands
  split
  · split
    · exact frozen_raise s _
    · exact Frozen.pure _
  · exact Frozen.pure _

end Frozen

end Check

/-! ### The check of `CREATE` -/

/-- The catalog is `cat` with one more table after its others, named `t`, and the errors are
`errs`. -/
def Analyzer.Registers (cat : Catalog) (errs : Array SemanticError) (t : Datum) (st : Analyzer) :
    Prop :=
  st.errors = errs ∧ ∃ cols, st.catalog.tables = cat.tables ++ [⟨t, cols⟩]

/-- How a `CREATE` run from the catalog `cat` and the errors `errs` may end by `e`: with both
as they were, or with its table registered and the analysis halted or a duplicate column of
the table reported. -/
def Analyzer.CreateEnds (cat : Catalog) (errs : Array SemanticError) (t : Datum) (e : Stop)
    (st : Analyzer) : Prop :=
  Analyzer.Records cat errs st ∨ (Analyzer.Registers cat errs t st ∧
    (e = .halt ∨ ∃ n l c, e = .error ⟨.duplicateColumn n t, l, c⟩))

/-- A column is added to the last table. -/
theorem Catalog.tables_addColumn {c : Catalog} {ts : List Table} {tb : Table}
    (h : c.tables = ts ++ [tb]) (n : Datum) (ty : SqlType) :
    (c.addColumn n ty).tables = ts ++ [{ tb with columns := tb.columns ++ [(n, ty)] }] := by
  unfold Catalog.addColumn
  rw [h, List.getLast?_concat]
  simp

namespace Check

/-- A key is found, or the analysis halts. -/
theorem triple_key (d : Datum) {P : Analyzer → Prop} {E : Stop → Analyzer → Prop}
    (h : ∀ st, P st → E .halt st) : Triple P (key d) P E := by
  unfold key
  split
  · exact Triple.pure (fun _ h => h) _
  · exact Triple.throw h

/-- A column added to the last table keeps it registered. -/
theorem triple_addColumn {cat : Catalog} {errs : Array SemanticError} {t : Datum}
    {E : Stop → Analyzer → Prop} (n : Datum) (ty : SqlType) :
    Triple (Analyzer.Registers cat errs t)
      (modify fun st => { st with catalog := st.catalog.addColumn n ty })
      (Analyzer.Registers cat errs t) E := by
  refine Triple.modify fun st h => ?_
  obtain ⟨he, cols, hc⟩ := h
  exact ⟨he, _, Catalog.tables_addColumn hc n ty⟩

/-- **`CREATE`.** Until the table is registered nothing changes, and an ending leaves the
catalog and the errors as they were. Once it is registered, each column is added to it; an
ending then leaves it registered, and is a halt or a duplicate column. -/
theorem triple_create (t cols : Datum) (s : Site) (cat : Catalog) (errs : Array SemanticError) :
    Triple (Analyzer.Records cat errs) (create t cols s) (Analyzer.Registers cat errs t)
      (Analyzer.CreateEnds cat errs t) := by
  -- a frozen step before the table is registered
  have hpre : ∀ {β} {x : Check β}, Frozen x → Triple (Analyzer.Records cat errs) x
      (Analyzer.Records cat errs) (Analyzer.CreateEnds cat errs t) :=
    fun h => (h cat errs).mono (fun _ h => h) (fun _ h => h) fun _ _ h => .inl h
  unfold create
  refine (hpre (frozen_ofExcept _)).bind fun items => (hpre (Frozen.mapM fun d _ => ?_)).bind
    fun defs => ?_
  · exact (frozen_ofExcept _).bind fun ⟨n, ty⟩ =>
      (frozen_declaredType s ty).bind fun _ => Frozen.pure _
  refine (hpre (frozen_place s)).bind fun ⟨l, c⟩ => (hpre (frozen_key t)).bind fun k =>
    (hpre Frozen.get).bind fun st => ?_
  dsimp only
  -- a table of that name stops the check; the table is registered otherwise
  split <;> try refine (hpre (Frozen.throw _)).bind fun _ => ?_
  all_goals
    refine (Triple.modify (Q := Analyzer.Registers cat errs t)
      fun st h => ⟨h.2, [], by rw [h.1]; rfl⟩).bind fun _ => ?_
    refine (Triple.forIn (fun d _ b => ?_) _).bind fun _ => Triple.pure (fun _ h => h) _
    -- each column is added to the new table, unless it is there already
    refine (triple_key d.1 fun st h => .inr ⟨h, .inl rfl⟩).bind fun kn =>
      (Triple.get fun _ h => h).bind fun st' => ?_
    split
    · refine (Triple.throw ?_).bind fun _ =>
        (triple_addColumn d.1 d.2).bind fun _ => Triple.pure (fun _ h => h) _
      exact fun _ h => .inr ⟨h, .inr ⟨d.1, l, c, rfl⟩⟩
    · exact (triple_addColumn d.1 d.2).bind fun _ => Triple.pure (fun _ h => h) _


/-- A `CREATE` adds at most its own table. -/
theorem create_extends (t cols : Datum) (s : Site) (st : Analyzer) :
    ∃ added, st.Extends added ((create t cols s).exec st).2 ∧ added.map Table.name <+ [t] := by
  -- the table registered, with the columns added so far
  have hreg : ∀ st', Analyzer.Registers st.catalog st.errors t st' →
      ∃ added, st.Extends added st' ∧ added.map Table.name <+ [t] := by
    rintro st' ⟨he, cols, hc⟩
    exact ⟨[⟨t, cols⟩], ⟨hc, he ▸ List.prefix_refl _⟩, List.Sublist.refl _⟩
  have h := triple_create t cols s st.catalog st.errors st ⟨rfl, rfl⟩
  revert h
  rcases (create t cols s).exec st with ⟨_ | _, st'⟩
  · rintro (h | ⟨h, -⟩)
    · exact ⟨[], .of_eq h.1 h.2, List.nil_sublist _⟩
    · exact hreg st' h
  · exact hreg st'

end Check

/-! ### Visits -/

mutual

/-- The tables of the `CREATE` nodes of a tree, in the order the analysis visits them. -/
def Node.creates : Node → List Datum
  | .query stmts _ => Node.createsAll stmts
  | .create t _ _ => [t]
  | .select _ _ f _ => f.creates
  | .update _ _ f _ => f.creates
  | .delete _ f _ => f.creates
  | .binary _ l r _ => l.creates ++ r.creates
  | .negation c _ => c.creates
  | .insert .. | .column .. | .literal .. | .foreign | .absent => []

/-- The tables of the `CREATE` nodes of the trees, in order. -/
def Node.createsAll : List Node → List Datum
  | [] => []
  | n :: ns => n.creates ++ Node.createsAll ns

end

theorem Visit.ofCheck_state (n : Node) (c : Check Unit) (st : Analyzer) :
    (Visit.ofCheck n c st).state = (c.exec st).2 := by
  unfold Visit.ofCheck
  rcases c.exec st with ⟨o, st'⟩
  rfl

open Check

/-- A `WHERE` clause is visited as its tree, if it has one. -/
theorem visitFilter_extends_of {n : Node}
    (h : ∀ st : Analyzer, ∃ added : List Table,
      st.Extends added (visit n st).state ∧ added.map Table.name <+ n.creates)
    (st : Analyzer) :
    ∃ added, st.Extends added (visitFilter n st).state ∧ added.map Table.name <+ n.creates := by
  by_cases hn : n = .absent
  · subst hn
    exact ⟨[], by simpa [visitFilter] using Analyzer.Extends.refl st, List.nil_sublist _⟩
  · rw [visitFilter.eq_2 _ _ hn]
    exact h st

mutual

/-- **A visit extends the state.** Visited from any state, a tree keeps the tables and the
errors and adds tables after them, named by its `CREATE` nodes in order. -/
theorem visit_extends : ∀ (n : Node) (st : Analyzer),
    ∃ added, st.Extends added (visit n st).state ∧ added.map Table.name <+ n.creates
  | .query stmts _, st => by
    simpa [visit, Node.creates] using visitStatements_extends stmts st
  | .create t cols site, st => by
    simpa [visit, Node.creates, Visit.ofCheck_state] using create_extends t cols site st
  | .insert t vals site, st => by
    simpa [visit, Node.creates, Visit.ofCheck_state] using
      (frozen_insert t vals site).extends_exec st
  | .select items t f site, st => by
    simp only [visit]
    have h₁ := (frozen_select items t site).extends_exec st
    revert h₁
    rcases (Check.select items t site).exec st with ⟨_ | _, st₁⟩ <;> intro h₁
    · exact ⟨[], h₁, List.nil_sublist _⟩
    · obtain ⟨added, h₂, hn⟩ := visitFilter_extends_of (visit_extends f) st₁
      exact ⟨added, h₁.trans h₂, by simpa [Node.creates] using hn⟩
  | .update t assigns f site, st => by
    simp only [visit]
    have h₁ := (frozen_update t assigns site).extends_exec st
    revert h₁
    rcases (Check.update t assigns site).exec st with ⟨_ | _, st₁⟩ <;> intro h₁
    · exact ⟨[], h₁, List.nil_sublist _⟩
    · obtain ⟨added, h₂, hn⟩ := visitFilter_extends_of (visit_extends f) st₁
      exact ⟨added, h₁.trans h₂, by simpa [Node.creates] using hn⟩
  | .delete t f site, st => by
    simp only [visit]
    have h₁ := (frozen_delete t site).extends_exec st
    revert h₁
    rcases (Check.delete t site).exec st with ⟨_ | _, st₁⟩ <;> intro h₁
    · exact ⟨[], h₁, List.nil_sublist _⟩
    · obtain ⟨added, h₂, hn⟩ := visitFilter_extends_of (visit_extends f) st₁
      exact ⟨added, h₁.trans h₂, by simpa [Node.creates] using hn⟩
  | .binary op l r site, st => by
    -- the left operand, then the right one from the state it leaves, then their types
    simp only [visit]
    obtain ⟨al, hl, hnl⟩ := visit_extends l st
    revert hl
    generalize visit l st = vl
    rcases vl with ⟨nl, stl, _ | lt⟩ <;> intro hl <;> dsimp only
    · exact ⟨al, hl, hnl.trans (List.sublist_append_left _ _)⟩
    obtain ⟨ar, hr, hnr⟩ := visit_extends r stl
    revert hr
    generalize visit r stl = vr
    rcases vr with ⟨nr, str, _ | rt⟩ <;> intro hr <;> dsimp only
    · exact ⟨al ++ ar, hl.trans hr, by simpa [Node.creates] using hnl.append hnr⟩
    · exact ⟨al ++ ar ++ [], (hl.trans hr).trans ((frozen_operands lt rt site).extends_exec str),
        by simpa [Node.creates] using hnl.append hnr⟩
  | .negation c _, st => by
    simpa [visit, Node.creates] using visit_extends c st
  | .column name site ty, st => by
    simp only [visit]
    have h := (frozen_column name site).extends_exec st
    revert h
    rcases (Check.column name site).exec st with ⟨_ | _, st'⟩ <;>
      exact fun h => ⟨[], h, List.nil_sublist _⟩
  | .literal v site ty, st => by
    cases v <;> exact ⟨[], by simpa [visit] using Analyzer.Extends.refl st, List.nil_sublist _⟩
  | .foreign, st => ⟨[], by simpa [visit] using Analyzer.Extends.refl st, List.nil_sublist _⟩
  | .absent, st => ⟨[], by simpa [visit] using Analyzer.Extends.refl st, List.nil_sublist _⟩

/-- The statements of a program extend the state one after another; an error is reported after
the others. -/
theorem visitStatements_extends : ∀ (ns : List Node) (st : Analyzer),
    ∃ added, st.Extends added (visitStatements ns st).2.1 ∧
      added.map Table.name <+ Node.createsAll ns
  | [], st => ⟨[], by simpa [visitStatements] using Analyzer.Extends.refl st, List.nil_sublist _⟩
  | n :: rest, st => by
    simp only [visitStatements]
    obtain ⟨a₁, h₁, hn₁⟩ := visit_extends n st
    revert h₁
    generalize visit n st = v
    rcases v with ⟨node, st₁, (e | _) | _⟩ <;> intro h₁
    · obtain ⟨a₂, h₂, hn₂⟩ := visitStatements_extends rest
        { st₁ with errors := st₁.errors.push e, scope := .none }
      exact ⟨a₁ ++ a₂, (h₁.push e .none).trans h₂, by simpa [Node.createsAll] using hn₁.append hn₂⟩
    · exact ⟨a₁, h₁, by simpa [Node.createsAll] using hn₁.trans (List.sublist_append_left _ _)⟩
    · obtain ⟨a₂, h₂, hn₂⟩ := visitStatements_extends rest { st₁ with scope := .none }
      exact ⟨a₁ ++ a₂, (h₁.scope .none).trans h₂, by simpa [Node.createsAll] using hn₁.append hn₂⟩

end

/-- **The catalog and the errors only grow.** Whatever tree it is given and whatever state it
starts from, the analysis keeps every table, in order and with its columns, and every error,
and adds tables after the others only for `CREATE` nodes, at most one each. -/
theorem analyze_extends (root : Node) (st : Analyzer) :
    ∃ added : List Table, (analyze root st).1.catalog.tables = st.catalog.tables ++ added ∧
      added.map Table.name <+ root.creates ∧ st.errors.toList <+: (analyze root st).1.errors.toList := by
  obtain ⟨added, h, hn⟩ := visit_extends root st
  exact ⟨added, h.tables, hn, h.errors⟩

/-! ### What a statement does to the catalog -/

theorem Cond.creates_toNode (c : Cond) : c.toNode.creates = [] := by
  induction c with
  | binary _ l r _ ihl ihr => simp [Cond.toNode, Node.creates, ihl, ihr]
  | not c ih => simpa [Cond.toNode, Node.creates] using ih
  | column => rfl
  | literal => rfl

theorem Cond.creates_toFilter (f : Option Cond) : (Cond.toFilter f).creates = [] := by
  cases f with
  | none => rfl
  | some c => exact c.creates_toNode

/-- A tree with no `CREATE` node keeps the tables as they were. -/
theorem visit_tables_of_creates {n : Node} (hn : n.creates = []) (st : Analyzer) :
    (visit n st).state.catalog.tables = st.catalog.tables := by
  obtain ⟨added, h, hadded⟩ := visit_extends n st
  rw [hn, List.sublist_nil, List.map_eq_nil_iff] at hadded
  rw [h.tables, hadded, List.append_nil]

/-- **What a statement does to the catalog.** A statement leaves the tables as they were, but a
`CREATE`, which registers its table after them. A `CREATE` that reports an error after
registering its table keeps it registered, and the error is a duplicate column. -/
theorem statement_catalog (x : Stmt) (st : Analyzer) :
    (visit x.toNode st).state.catalog.tables = st.catalog.tables ∨
      ∃ name cols site kept, x.toNode = .create name cols site ∧
        (visit x.toNode st).state.catalog.tables = st.catalog.tables ++ [⟨name, kept⟩] ∧
        ∀ e, (visit x.toNode st).outcome = .error (.error e) →
          ∃ col, e.problem = .duplicateColumn col name := by
  -- the statements other than `CREATE` hold no `CREATE` node
  cases x with
  | insert t vals p => exact .inl (visit_tables_of_creates rfl st)
  | select items t f p =>
    exact .inl (visit_tables_of_creates (by exact Cond.creates_toFilter f) st)
  | update t assigns f p =>
    exact .inl (visit_tables_of_creates (by exact Cond.creates_toFilter f) st)
  | delete t f p =>
    exact .inl (visit_tables_of_creates (by exact Cond.creates_toFilter f) st)
  | create t cols =>
    obtain ⟨name, colsD, site, hx⟩ : ∃ name colsD site,
        (Stmt.create t cols).toNode = .create name colsD site := by
      rcases t with _ | ⟨name, p⟩ <;> exact ⟨_, _, _, rfl⟩
    rw [hx]
    have h := triple_create name colsD site st.catalog st.errors st ⟨rfl, rfl⟩
    simp only [visit, Visit.ofCheck_state]
    unfold Visit.ofCheck
    revert h
    rcases (create name colsD site).exec st with ⟨_ | _, st'⟩
    · rintro (h | ⟨⟨-, kept, hkept⟩, hstop⟩)
      · exact .inl (congrArg Catalog.tables h.1)
      · refine .inr ⟨name, colsD, site, kept, rfl, hkept, fun e he => ?_⟩
        -- the check ended by a duplicate column, not by a halt
        simp only [Except.map, Except.error.injEq] at he
        subst he
        rcases hstop with hstop | ⟨col, l, c, hstop⟩
        · cases hstop
        · cases hstop
          exact ⟨col, rfl⟩
    · rintro ⟨-, kept, hkept⟩
      exact .inr ⟨name, colsD, site, kept, rfl, hkept, fun e he => by cases he⟩

end SqlFront
