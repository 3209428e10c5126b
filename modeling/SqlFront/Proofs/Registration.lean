import SqlFront.Proofs.Reporting
import SqlFront.Proofs.Completeness
/-!
# The catalog of parsed programs can be printed

A catalog is *well formed* (`Catalog.WellFormed`) when every table name and every column name in
it is a text, and every column has one of the three declarable types. The printed catalog lays
out each name in a column of twenty characters, which fails only for a name that is no number
or text; so a well-formed catalog always prints (`Catalog.render_ok`).

Every catalog that one analyzer builds from programs the parser read off terminals with text
lexemes is well formed (`catalog_wellFormed_of_parsed`). Only a `CREATE` adds to the catalog, and
three facts keep what it adds well formed, each from a different stage:

* the parser gives a `CREATE` a table name only when it read one, and a column definition whose
  name is missing has no type either: recovery stops at a semicolon, a statement keyword or the
  end, where neither a type word nor a name can follow (`Stmt.Registrable`, `parse_registrable`);
* the check of `CREATE` reads every declared type before it registers anything, and accepts only
  the three declarable types, so a definition without a type stops it first;
* a `CREATE` without a table name has no place, and halts before it registers its table
  (`Check.exec_create_placeless`).

The invariant is carried by the triple of `SqlFront.Proofs.Growth` with the same condition after
a return and after any ending (`Check.wellFormed_exec_create`), then along the statements of a
program (`visitStatements_wellFormed`) and along the programs (`analyze_wellFormed`).
-/

namespace SqlFront

open Check

/-! ### Well-formed catalogs -/

/-- A table that can be printed and that the analysis can register: its name and the names of
its columns are texts, and its columns have declarable types. -/
def Table.WellFormed (t : Table) : Prop :=
  t.name.IsText ∧ ∀ c ∈ t.columns, c.1.IsText ∧ c.2.isDeclarable

/-- Every table of the catalog is well formed. -/
def Catalog.WellFormed (c : Catalog) : Prop := ∀ t ∈ c.tables, t.WellFormed

namespace Catalog

theorem WellFormed.of_tables_eq {c c' : Catalog} (h : c.WellFormed) (he : c'.tables = c.tables) :
    c'.WellFormed := by
  intro t ht
  exact h t (he ▸ ht)

theorem WellFormed.register {c : Catalog} (h : c.WellFormed) {name : Datum} (hn : name.IsText) :
    (c.register name).WellFormed := by
  intro t ht
  rcases List.mem_append.1 ht with ht | ht
  · exact h t ht
  · rw [List.mem_singleton.1 ht]
    exact ⟨hn, nofun⟩

theorem WellFormed.addColumn {c : Catalog} (h : c.WellFormed) {n : Datum} (hn : n.IsText)
    {ty : SqlType} (hty : ty.isDeclarable) : (c.addColumn n ty).WellFormed := by
  unfold Catalog.addColumn
  split
  · next last hlast =>
    -- the last table, which is well formed, gets one more column
    have hlast' : last.WellFormed := h last (List.mem_of_getLast? hlast)
    intro t ht
    rcases List.mem_append.1 ht with ht | ht
    · exact h t (List.dropLast_subset _ ht)
    · rw [List.mem_singleton.1 ht]
      refine ⟨hlast'.1, fun col hcol => ?_⟩
      rcases List.mem_append.1 hcol with hcol | hcol
      · exact hlast'.2 col hcol
      · rw [List.mem_singleton.1 hcol]
        exact ⟨hn, hty⟩
  · exact h

/-- A map in `Except` returns when each of its steps does. -/
theorem exists_mapM_ok {xs : List α} {f : α → Except ε β} (h : ∀ x ∈ xs, ∃ y, f x = .ok y) :
    ∃ ys, xs.mapM f = .ok ys := by
  induction xs with
  | nil => exact ⟨[], rfl⟩
  | cons x xs ih =>
    obtain ⟨y, hy⟩ := h x List.mem_cons_self
    obtain ⟨ys, hys⟩ := ih fun x' hx' => h x' (List.mem_cons_of_mem x hx')
    exact ⟨y :: ys, by rw [List.mapM_cons, hy, hys]; rfl⟩

theorem exists_mapM_bind_ok {xs : List α} {f : α → Except ε β} {g : List β → Except ε γ}
    (h : ∀ x ∈ xs, ∃ y, f x = .ok y) (hg : ∀ ys, ∃ z, g ys = .ok z) :
    ∃ z, (xs.mapM f >>= g) = .ok z := by
  obtain ⟨ys, hys⟩ := exists_mapM_ok h
  obtain ⟨z, hz⟩ := hg ys
  exact ⟨z, by rw [hys]; exact hz⟩

/-- **A well-formed catalog prints.** Every name it lays out is a text. -/
theorem render_ok {c : Catalog} (h : c.WellFormed) : ∃ out, c.render = .ok out := by
  unfold render
  refine exists_mapM_bind_ok (fun x hx => ?_) fun _ => ⟨_, rfl⟩
  -- each row lays out a table name and a column name
  obtain ⟨t, ht, hx⟩ := List.mem_flatMap.1 hx
  obtain ⟨⟨cn, ty⟩, hcol, rfl⟩ := List.mem_map.1 hx
  obtain ⟨⟨tn, htn⟩, hcols⟩ := h t ht
  obtain ⟨⟨cn', hcn⟩, -⟩ := hcols _ hcol
  dsimp only at hcn ⊢
  rw [htn, hcn]
  exact ⟨_, rfl⟩

end Catalog

/-! ### What the parser gives `CREATE` -/

/-- The names a `CREATE` may register: a table name it carries is a text, and a column
definition whose name was not read has no type either. -/
def Stmt.Registrable : Stmt → Prop
  | .create t cols => (∀ p ∈ t, p.1.IsText) ∧ ∀ c ∈ cols, c.1 = .none → c.2 = .none
  | _ => True

namespace Parser

theorem atBoundary_recover (ts : List Terminal) : AtBoundary (recover ts) := by
  induction ts with
  | nil =>
    rw [recover_nil, AtBoundary, current_nil, Terminal.kindIs_of_kind? Terminal.kind?_endMarker]
    rfl
  | cons t r ih =>
    rw [recover_cons]
    split
    · next h => exact h
    · exact ih

/-- The name of a column definition is what `expect` read. -/
theorem columnDef_name (ts : List Terminal) :
    (columnDef ts).value.1 = lexemeOf (expect .identifier ts).value := by
  unfold columnDef
  rw [Parsed.andThen_value]
  generalize (expect .identifier ts).rest = r
  cases r with
  | nil => rfl
  | cons t r =>
    dsimp only
    split <;> rfl

/-- Without a name, a column definition has no type either: recovery stopped at a terminal that
is neither a type word nor a name. -/
theorem columnDef_type_of_unnamed {ts : List Terminal}
    (hid : (current ts).hasKind .identifier = false) : (columnDef ts).value.2 = .none := by
  have htype : StopsAt TokenKind.isTypeWord (recover ts) :=
    (atBoundary_recover ts).stopsAt fun k hk => by
      cases k <;> simp_all [TokenKind.synchronizes, TokenKind.startsStatement,
        TokenKind.isTypeWord]
  have hname : StopsAt (· == .identifier) (recover ts) := (atBoundary_recover ts).stopsAt_beq rfl
  unfold columnDef
  rw [Parsed.andThen_value, expect_of_not_kind hid, Parsed.map_rest, fail_rest]
  generalize recover ts = r at htype hname ⊢
  cases r with
  | nil =>
    rw [Parsed.map_value, expect_of_not_kind (by simp [Terminal.hasKind_of_kind?])]
    rfl
  | cons t r =>
    dsimp only
    rw [if_neg (by simp [htype.kindIs fun _ => id]), Parsed.map_value,
      expect_of_not_kind (by simpa using hname.hasKind (by simp))]
    rfl

/-- A column definition whose name is missing has no type. -/
theorem columnDef_paired {ts : List Terminal} (h : Every TextLexeme ts) :
    (columnDef ts).value.1 = .none → (columnDef ts).value.2 = .none := by
  cases hid : (current ts).hasKind .identifier
  · exact fun _ => columnDef_type_of_unnamed hid
  · -- the name was read, and a text lexeme is never nothing
    rw [columnDef_name]
    cases ts with
    | nil => simp [Terminal.hasKind_of_kind?] at hid
    | cons t r =>
      rw [current_cons] at hid
      rw [expect_of_kind r hid]
      obtain ⟨s, hs⟩ := h.head
      simp [lexemeOf, hs]

theorem yields_columnDef_paired (ts : List Terminal) (h : Every TextLexeme ts) :
    (columnDef ts).Yields TextLexeme fun c => c.1 = .none → c.2 = .none :=
  ⟨(yields_columnDef ts h).1, columnDef_paired h⟩

theorem yields_create_registrable (ts : List Terminal) (h : Every TextLexeme ts) :
    (create ts).Yields TextLexeme Stmt.Registrable := by
  unfold create
  refine (yields_expect _ h).andThen fun _ _ hr => (yields_expect _ hr).andThen fun _ _ hr =>
    (yields_expect _ hr).andThen fun name hname hr => (yields_expect _ hr).andThen fun _ _ hr =>
    (yields_columnDefs_of yields_columnDef_paired _ hr).andThen fun cols hcols hr =>
    (yields_expect _ hr).map fun _ _ => ⟨?_, hcols⟩
  intro p hp
  obtain ⟨t, ht, rfl⟩ := Option.map_eq_some_iff.1 hp
  exact hname t ht

/-- The statements other than `CREATE` register nothing. -/
theorem yields_statement_registrable (ts : List Terminal) (h : Every TextLexeme ts) :
    (statement ts).Yields TextLexeme fun o => ∀ x ∈ o, x.Registrable :=
  yields_statement_of yields_create_registrable
    (fun kw ts h => ⟨(yields_insert kw ts h).1, by simp [insert, Stmt.Registrable]⟩)
    (fun kw ts h => ⟨(yields_select kw ts h).1, by simp [select, Stmt.Registrable]⟩)
    (fun kw ts h => ⟨(yields_update kw ts h).1, by simp [update, Stmt.Registrable]⟩)
    (fun kw ts h => ⟨(yields_delete kw ts h).1, by simp [delete, Stmt.Registrable]⟩) ts h

end Parser

/-- Parsed from terminals with text lexemes, every `CREATE` registers texts only. -/
theorem parse_registrable {ts : List Terminal} (h : Parser.Lexical ts) :
    ∀ x ∈ (parse ts).program, x.Registrable :=
  parse_of_yields Parser.yields_statement_registrable ⟨[], rfl⟩ h

/-! ### The analysis keeps the catalog well formed -/

namespace Check

/-- A check that leaves the catalog keeps any property of it, however it ends. -/
theorem Frozen.triple_catalog {c : Check α} (h : Frozen c) (I : Catalog → Prop) :
    Triple (fun st => I st.catalog) c (fun st => I st.catalog) fun _ st => I st.catalog := by
  intro st hst
  have h := h st.catalog st.errors st ⟨rfl, rfl⟩
  revert h
  rcases c.exec st with ⟨_ | _, st'⟩ <;> exact fun h => (h.1 ▸ hst : I st'.catalog)

/-- An invariant kept by a check through every ending holds after its run. -/
theorem Triple.exec_of {P I : Analyzer → Prop} {c : Check α} (h : Triple P c I fun _ => I)
    {st : Analyzer} (hst : P st) : I (c.exec st).2 := by
  have h := h st hst
  revert h
  rcases c.exec st with ⟨_ | _, st'⟩ <;> exact id

/-- **Composition with what was returned.** A fact `S` about every result of the first check
may be used in the second. -/
theorem Triple.bind_of_results {P Q R : Analyzer → Prop} {E : Stop → Analyzer → Prop}
    {x : Check α} {f : α → Check β} {S : α → Prop} (hx : Triple P x R E)
    (hs : ∀ st a st', x.exec st = (.ok a, st') → S a) (hf : ∀ a, S a → Triple R (f a) Q E) :
    Triple P (x >>= f) Q E := by
  intro st hst
  have h := hx st hst
  have hs := hs st
  rw [exec_bind]
  revert h hs
  rcases x.exec st with ⟨_ | a, st'⟩
  · exact fun h _ => h
  · exact fun h hs => hf a (hs a st' rfl) st' h

/-- A map that returns has results each of which one of its steps returned. -/
theorem forall_of_exec_mapM {xs : List α} {f : α → Check β} {S : β → Prop}
    (h : ∀ x ∈ xs, ∀ st b st', (f x).exec st = (.ok b, st') → S b) {st st' : Analyzer}
    {bs : List β} (hbs : (xs.mapM f).exec st = (.ok bs, st')) : ∀ b ∈ bs, S b := by
  induction xs generalizing st st' bs with
  | nil =>
    simp only [List.mapM_nil, exec_pure, Prod.mk.injEq, Except.ok.injEq] at hbs
    rw [← hbs.1]
    exact nofun
  | cons x xs ih =>
    rw [List.mapM_cons, exec_bind] at hbs
    rcases hx : (f x).exec st with ⟨_ | b, st₁⟩ <;> rw [hx] at hbs
    · cases hbs
    dsimp only at hbs
    rw [exec_bind] at hbs
    rcases hxs : (xs.mapM f).exec st₁ with ⟨_ | bs', st₂⟩ <;> rw [hxs] at hbs
    · cases hbs
    simp only [exec_pure, Prod.mk.injEq, Except.ok.injEq] at hbs
    rw [← hbs.1]
    intro b' hb'
    rcases List.mem_cons.1 hb' with rfl | hb'
    · exact h x List.mem_cons_self _ _ _ hx
    · exact ih (fun y hy => h y (List.mem_cons_of_mem x hy)) hxs b' hb'

theorem exec_raise_ne_ok (s : Site) (p : Problem) (st : Analyzer) {a : α} {st' : Analyzer} :
    (raise s p : Check α).exec st ≠ (.ok a, st') := by
  unfold raise place halt
  split <;> simp

/-- A declared type that is read is declarable, and was not written as nothing. -/
theorem declaredType_ok {s : Site} {ty : Datum} {st st' : Analyzer} {τ : SqlType}
    (h : (declaredType s ty).exec st = (.ok τ, st')) : τ.isDeclarable ∧ ty ≠ .none := by
  unfold declaredType key at h
  rcases hk : ty.key? with _ | k
  · simp [hk, halt] at h
  simp only [hk, pure_bind] at h
  cases k with
  | str name =>
    refine ⟨?_, fun hty => by simp [hty, Datum.key?] at hk⟩
    dsimp only at h
    split at h
    · next τ' hτ =>
      cases h
      obtain ⟨s', -, hs'⟩ := Option.bind_eq_some_iff.1 hτ
      exact SqlType.isDeclarable_of_ofDeclared? hs'
    · exact absurd h (exec_raise_ne_ok _ _ _)
  | _ => exact absurd h (exec_raise_ne_ok _ _ _)

/-- Each definition that `CREATE` reads is a text name with a declarable type. -/
theorem exec_columnDef_ok {n ty : Datum} (hn : n.IsName ∧ (n = .none → ty = .none)) (s : Site)
    {st st' : Analyzer} {d : Datum × SqlType}
    (h : (do
      let (n, ty) ← ofExcept (Datum.tuple [n, ty]).pair
      return (n, ← declaredType s ty) : Check (Datum × SqlType)).exec st = (.ok d, st')) :
    d.1.IsText ∧ d.2.isDeclarable := by
  simp only [Datum.pair, Datum.items, ofExcept_ok, pure_bind] at h
  rw [exec_bind] at h
  rcases hτ : (declaredType s ty).exec st with ⟨_ | τ, st₁⟩ <;> rw [hτ] at h
  · cases h
  simp only [exec_pure, Prod.mk.injEq, Except.ok.injEq] at h
  rw [← h.1]
  obtain ⟨hdecl, hty⟩ := declaredType_ok hτ
  rcases hn.1 with hnone | htext
  · exact absurd (hn.2 hnone) hty
  · exact ⟨htext, hdecl⟩

variable {t : Datum} {cols : List (Datum × Datum)}

/-- **`CREATE` keeps the catalog well formed.** A table named by a text, whose column
definitions have texts or nothing for names and no type where the name is missing, registers
only texts and declarable types, however its check ends. -/
theorem triple_create_wellFormed (ht : t.IsText)
    (hcols : ∀ c ∈ cols, c.1.IsName ∧ (c.1 = .none → c.2 = .none)) (s : Site) :
    Triple (fun st => st.catalog.WellFormed)
      (create t (.list (cols.map fun (n, ty) => .tuple [n, ty])) s)
      (fun st => st.catalog.WellFormed) fun _ st => st.catalog.WellFormed := by
  have hpre : ∀ {β} {x : Check β}, Frozen x → Triple (fun st => st.catalog.WellFormed) x
      (fun st => st.catalog.WellFormed) fun _ st => st.catalog.WellFormed :=
    fun h => h.triple_catalog _
  unfold create
  simp only [Datum.items, ofExcept_ok, pure_bind]
  -- the definitions are read first, without changing anything, and are all well formed
  refine (hpre (Frozen.mapM fun d _ => ?_)).bind_of_results
    (S := fun defs => ∀ d ∈ defs, d.1.IsText ∧ d.2.isDeclarable) (fun _ _ _ h =>
      forall_of_exec_mapM (fun x hx _ _ _ hb => ?_) h) fun defs hdefs => ?_
  · refine (frozen_ofExcept _).bind fun nt => ?_
    obtain ⟨n, ty⟩ := nt
    exact (frozen_declaredType s ty).bind fun _ => Frozen.pure _
  · obtain ⟨⟨n, ty⟩, hc, rfl⟩ := List.mem_map.1 hx
    exact exec_columnDef_ok (hcols _ hc) s hb
  -- then the table is registered, and its columns are added one by one
  refine (hpre (frozen_place s)).bind fun lc => ?_
  obtain ⟨l, c⟩ := lc
  refine (hpre (frozen_key t)).bind fun k => (hpre Frozen.get).bind fun st => ?_
  dsimp only
  split <;> try refine (hpre (Frozen.throw _)).bind fun _ => ?_
  all_goals
    refine (Triple.modify (Q := fun st => st.catalog.WellFormed)
      fun st h => h.register ht).bind fun _ => ?_
    refine (Triple.forIn (fun d hd b => ?_) _).bind fun _ => Triple.pure (fun _ h => h) _
    have hadd : Triple (fun st => st.catalog.WellFormed)
        (modify fun st => { st with catalog := st.catalog.addColumn d.1 d.2 })
        (fun st => st.catalog.WellFormed) fun _ st => st.catalog.WellFormed :=
      Triple.modify fun st h => h.addColumn (hdefs d hd).1 (hdefs d hd).2
    refine (hpre (frozen_key d.1)).bind fun kn => (hpre Frozen.get).bind fun st' => ?_
    split
    · exact (hpre (Frozen.throw _)).bind fun _ => hadd.bind fun _ => Triple.pure (fun _ h => h) _
    · exact hadd.bind fun _ => Triple.pure (fun _ h => h) _

end Check

@[simp] theorem Visit.catalog_following (v : Visit) : v.following.catalog = v.state.catalog := by
  unfold Visit.following
  split <;> rfl

/-- A parsed statement keeps the catalog well formed, however its check ends. -/
theorem Stmt.visit_wellFormed {x : Stmt} (hx : x.Textual) (hr : x.Registrable) {st : Analyzer}
    (hst : st.catalog.WellFormed) : (visit x.toNode st).state.catalog.WellFormed := by
  cases x with
  | create t cols =>
    cases t with
    | none => rw [(Stmt.visit_nameless cols st).2]; exact hst
    | some np =>
      obtain ⟨name, p⟩ := np
      simp only [Stmt.toNode, visit, Visit.ofCheck_state]
      exact (triple_create_wellFormed (hr.1 _ rfl) (fun c hc => ⟨(hx.2 c hc).1, hr.2 c hc⟩)
        _).exec_of hst
  -- the other statements hold no `CREATE`, and leave the tables as they were
  | insert t vals p => exact hst.of_tables_eq (visit_tables_of_creates rfl st)
  | select items t f p =>
    exact hst.of_tables_eq (visit_tables_of_creates (by exact Cond.creates_toFilter f) st)
  | update t assigns f p =>
    exact hst.of_tables_eq (visit_tables_of_creates (by exact Cond.creates_toFilter f) st)
  | delete t f p =>
    exact hst.of_tables_eq (visit_tables_of_creates (by exact Cond.creates_toFilter f) st)

/-- The statements of a parsed program keep the catalog well formed, one after another. -/
theorem visitStatements_wellFormed {prog : Program} (hp : ∀ x ∈ prog, x.Textual ∧ x.Registrable)
    {st : Analyzer} (hst : st.catalog.WellFormed) :
    (visitStatements (prog.map Stmt.toNode) st).2.1.catalog.WellFormed := by
  induction prog generalizing st with
  | nil => simpa only [List.map_nil, visitStatements] using hst
  | cons x rest ih =>
    have hx := Stmt.visit_wellFormed (hp x List.mem_cons_self).1 (hp x List.mem_cons_self).2 hst
    have hrest : ∀ y ∈ rest, y.Textual ∧ y.Registrable :=
      fun y hy => hp y (List.mem_cons_of_mem x hy)
    -- a halt keeps the state of the statement; otherwise the next one starts from it
    by_cases hh : (visit x.toNode st).outcome = .error .halt
    · simp only [List.map_cons, visitStatements, hh]
      exact hx
    · rw [List.map_cons, visitStatements_cons hh]
      exact ih hrest (by rw [Visit.catalog_following]; exact hx)

/-- Analysing a parsed program keeps the catalog well formed. -/
theorem analyze_wellFormed {ts : List Terminal} (hts : Parser.Lexical ts) {st : Analyzer}
    (hst : st.catalog.WellFormed) :
    (analyze (Program.toNode (parse ts).program) st).1.catalog.WellFormed := by
  rw [analyze_toNode]
  exact visitStatements_wellFormed
    (fun x hx => ⟨parse_textual hts x hx, parse_registrable hts x hx⟩) hst

/-- **The catalog of parsed programs can be printed.** Programs parsed from terminals with text
lexemes and analysed in turn by one analyzer leave a catalog whose table and column names are
texts and whose columns have the types `INT`, `FLOAT` or `TEXT`; so it prints without fault. -/
theorem catalog_wellFormed_of_parsed (tss : List (List Terminal))
    (h : ∀ ts ∈ tss, Parser.Lexical ts) :
    (tss.foldl (fun st ts => (analyze (Program.toNode (parse ts).program) st).1)
        {}).catalog.WellFormed ∧
      ∃ out, (tss.foldl (fun st ts => (analyze (Program.toNode (parse ts).program) st).1)
        {}).catalog.render = .ok out := by
  -- the invariant holds from any well-formed start, by induction on the programs
  have hwf : ∀ st : Analyzer, st.catalog.WellFormed →
      (tss.foldl (fun st ts => (analyze (Program.toNode (parse ts).program) st).1)
        st).catalog.WellFormed := by
    induction tss with
    | nil => exact fun _ h => h
    | cons ts tss ih =>
      intro st hst
      exact ih (fun ts' hts' => h ts' (List.mem_cons_of_mem ts hts'))
        _ (analyze_wellFormed (h ts List.mem_cons_self) hst)
  have hfresh := hwf {} nofun
  exact ⟨hfresh, Catalog.render_ok hfresh⟩

/-- Two scanned sources, the second with a column definition that recovery cut short and a
`CREATE` without a table name, analysed in turn. -/
theorem catalog_wellFormed_of_parsed_recovered :
    (∀ ts ∈ [(scan "CREATE TABLE t (a INT, b TEXT)").tokens.map Token.toTerminal,
        (scan "CREATE TABLE u (c 1.5, , d); CREATE TABLE (x INT)").tokens.map Token.toTerminal],
        Parser.Lexical ts) ∧
      ([(scan "CREATE TABLE t (a INT, b TEXT)").tokens.map Token.toTerminal,
          (scan "CREATE TABLE u (c 1.5, , d); CREATE TABLE (x INT)").tokens.map
            Token.toTerminal].foldl
          (fun st ts => (analyze (Program.toNode (parse ts).program) st).1) {}).catalog.WellFormed ∧
        ∃ out, ([(scan "CREATE TABLE t (a INT, b TEXT)").tokens.map Token.toTerminal,
          (scan "CREATE TABLE u (c 1.5, , d); CREATE TABLE (x INT)").tokens.map
            Token.toTerminal].foldl
          (fun st ts => (analyze (Program.toNode (parse ts).program) st).1) {}).catalog.render =
            .ok out := by
  have h : ∀ ts ∈ [(scan "CREATE TABLE t (a INT, b TEXT)").tokens.map Token.toTerminal,
      (scan "CREATE TABLE u (c 1.5, , d); CREATE TABLE (x INT)").tokens.map Token.toTerminal],
      Parser.Lexical ts := by
    intro ts hts
    simp only [List.mem_cons, List.not_mem_nil, or_false] at hts
    rcases hts with rfl | rfl <;> exact Parser.lexical_toTerminal _
  exact ⟨h, catalog_wellFormed_of_parsed _ h⟩

end SqlFront
