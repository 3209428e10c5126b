import SqlFront.Proofs.Settling
/-!
# Analysing a program in parts

`analyze` takes the state to start from, so one analyzer may check several programs one after
another, accumulating tables and errors. Checking a parsed program and then another one is the
same as checking the two joined (`analyze_append`): the same tables, the same errors, and the
annotated statements of the two runs joined. Between the two runs the scope is cleared, so no
column of the second is read in a table of the first.

Joining is sound only because the first program never halts the analysis: a halt would leave
the statements after it unchecked in the joined run. A statement read by the parser from
terminals with text lexemes never halts, unless it is a `CREATE` without a table name, whose
place is unknown (`Stmt.settled`). The proof carries two invariants of the state, one inside a
statement and one between statements:

* while a condition is visited, the scope is a name (`Cond.visit_settles`), set by the
  statement's own check (`Check.settles_select` and its siblings);
* after every statement the scope is cleared (`Visit.following`, `visitStatements_scope`).

## Main statements

* `Stmt.settled` — parsed statements do not halt the analysis.
* `visitStatements_append` — the statements of a joined list are visited as the first part, then
  the second from the state the first left.
* `analyze_append` — the analysis of a joined program is that of its parts with a shared
  analyzer.
-/

namespace SqlFront

open Check

/-- A visit that did not halt, and that left a state satisfying `I` if it returned. -/
def Visit.Settles (I : Analyzer → Prop) (v : Visit) : Prop :=
  match v.outcome with
  | .ok _ => I v.state
  | .error e => e ≠ .halt

theorem Visit.Settles.ne_halt {I : Analyzer → Prop} {v : Visit} (h : v.Settles I) :
    v.outcome ≠ .error .halt := by
  unfold Visit.Settles at h
  intro hv
  rw [hv] at h
  exact h rfl

/-- The analysis of a node never halts, whatever state it starts from. -/
def Node.Settled (n : Node) : Prop := ∀ st, (visit n st).outcome ≠ .error .halt

/-! ### Conditions -/

theorem Cond.toNode_ne_absent (c : Cond) : c.toNode ≠ .absent := by
  cases c <;> (intro h; cases h)

/-- A textual condition read in the scope of a name never halts, and keeps the scope a name. -/
theorem Cond.visit_settles {c : Cond} (hc : c.Textual) {st : Analyzer} (hst : st.scope.IsName) :
    (visit c.toNode st).Settles fun st => st.scope.IsName := by
  induction c generalizing st with
  | binary op l r p ihl ihr =>
    -- the left operand, then the right one from the state it leaves, then their types
    have hl := ihl hc.1 hst
    simp only [Cond.toNode, visit]
    revert hl
    generalize visit l.toNode st = vl
    rcases vl with ⟨nl, stl, _ | lt⟩
    · exact id
    intro hl
    have hr := ihr hc.2 hl
    revert hr
    generalize visit r.toNode stl = vr
    rcases vr with ⟨nr, str, _ | rt⟩
    · exact id
    intro hr
    dsimp only
    have ho := settles_operands (P := fun st => st.scope.IsName) lt rt p str hr
    revert ho
    rcases (Check.operands lt rt (.ofPlace p)).exec str with ⟨_ | _, st'⟩ <;> exact id
  | not c ih =>
    simp only [Cond.toNode, visit]
    exact ih hc hst
  | column n p =>
    simp only [Cond.toNode, visit]
    have ho := settles_column p hc st hst
    revert ho
    rcases (Check.column n (.ofPlace p)).exec st with ⟨_ | _, st'⟩ <;> exact id
  | literal v p =>
    rcases hc with rfl | ⟨s, rfl⟩ <;> simp only [Cond.toNode, visit] <;> exact hst

/-- The `WHERE` clause of a textual statement, read in the scope of a name, never halts. -/
theorem visitFilter_ne_halt {f : Option Cond} (hf : ∀ c ∈ f, c.Textual) {st : Analyzer}
    (hst : st.scope.IsName) : (visitFilter (Cond.toFilter f) st).outcome ≠ .error .halt := by
  cases f with
  | none => simp [Cond.toFilter, visitFilter]
  | some c =>
    rw [Cond.toFilter, visitFilter.eq_2 _ _ (Cond.toNode_ne_absent c)]
    have h := (Cond.visit_settles (hf c rfl) hst).ne_halt
    revert h
    cases (visit c.toNode st).outcome <;> simp [Except.map]

/-! ### Statements -/

/-- A check that never halts makes a visit that never halts. -/
theorem Visit.ofCheck_ne_halt {c : Check Unit} (hc : Check.Settles (fun _ => True) c fun _ _ => True)
    (n : Node) (st : Analyzer) : (Visit.ofCheck n c st).outcome ≠ .error .halt := by
  have h := hc st trivial
  revert h
  unfold Visit.ofCheck
  rcases c.exec st with ⟨_ | _, st'⟩ <;> simp [Except.map]

/-- A statement's check that leaves a name in scope, then its `WHERE` clause: neither halts. -/
theorem scoped_ne_halt {c : Check Unit} {t : Datum} {f : Option Cond}
    (hc : Settles (fun _ => True) c fun _ st => st.scope = t) (ht : t.IsName)
    (hf : ∀ c ∈ f, c.Textual) (st : Analyzer) :
    match c.exec st with
    | (.error s, _) => s ≠ .halt
    | (.ok _, st₁) => (visitFilter (Cond.toFilter f) st₁).outcome ≠ .error .halt := by
  have h := hc st trivial
  revert h
  rcases c.exec st with ⟨_ | _, st₁⟩
  · exact id
  · intro h
    exact visitFilter_ne_halt hf (h ▸ ht)

/-- A `CREATE` whose table name was not read. -/
def Stmt.isNameless : Stmt → Bool
  | .create none _ => true
  | _ => false

/-- A textual statement never halts the analysis, unless it is a `CREATE` without a table name. -/
theorem Stmt.settled {s : Stmt} (hs : s.Textual) (hnamed : ∀ cols, s ≠ .create none cols) :
    s.toNode.Settled := by
  intro st
  cases s with
  | create t cols =>
    obtain ⟨⟨name, p⟩, rfl⟩ := Option.ne_none_iff_exists'.1 fun h => hnamed cols (h ▸ rfl)
    simp only [Stmt.toNode, visit]
    exact Visit.ofCheck_ne_halt (settles_create p (hs.1 _ rfl) hs.2) _ st
  | insert t vals p =>
    simp only [Stmt.toNode, visit]
    exact Visit.ofCheck_ne_halt (settles_insert p hs.1 hs.2) _ st
  -- the other three statements check their table, then read their condition in its scope
  | select items t f p =>
    simp only [Stmt.toNode, visit]
    have h := scoped_ne_halt (settles_select p hs.1 hs.2.1) hs.2.1 hs.2.2 st
    revert h
    rcases (Check.select _ t _).exec st with ⟨_ | _, st₁⟩ <;> intro h <;> simpa using h
  | update t assigns f p =>
    simp only [Stmt.toNode, visit]
    have h := scoped_ne_halt (settles_update p hs.1 hs.2.1) hs.1 hs.2.2 st
    revert h
    rcases (Check.update t _ _).exec st with ⟨_ | _, st₁⟩ <;> intro h <;> simpa using h
  | delete t f p =>
    simp only [Stmt.toNode, visit]
    have h := scoped_ne_halt (settles_delete p hs.1) hs.1 hs.2 st
    revert h
    rcases (Check.delete t _).exec st with ⟨_ | _, st₁⟩ <;> intro h <;> simpa using h

/-! ### Programs -/

/-- The state the statement after a visit starts from: the visit's error reported, if it
has one, and the scope cleared. -/
def Visit.following (v : Visit) : Analyzer :=
  match v.outcome with
  | .error (.error e) => { v.state with errors := v.state.errors.push e, scope := .none }
  | _ => { v.state with scope := .none }

@[simp] theorem Visit.scope_following (v : Visit) : v.following.scope = .none := by
  unfold following
  split <;> rfl

/-- A statement that does not halt is followed by the rest of the program, from the state it
leaves. -/
theorem visitStatements_cons {n : Node} {st : Analyzer} (h : (visit n st).outcome ≠ .error .halt)
    (rest : List Node) :
    visitStatements (n :: rest) st =
      ((visit n st).node :: (visitStatements rest (visit n st).following).1,
        (visitStatements rest (visit n st).following).2) := by
  rcases hv : (visit n st).outcome with (e | _) | a
  · simp only [visitStatements, Visit.following, hv]
  · exact absurd hv h
  · simp only [visitStatements, Visit.following, hv]

/-- The analysis of a program visits its statements in order. -/
theorem analyze_toNode (prog : Program) (st : Analyzer) :
    analyze prog.toNode st =
      ((visitStatements (prog.map Stmt.toNode) st).2.1,
        .query (visitStatements (prog.map Stmt.toNode) st).1 {}) := by
  simp only [analyze, Program.toNode, visit]

section Run

variable {ns : List Node}

/-- Between statements the scope is cleared. -/
theorem visitStatements_scope (h : ∀ n ∈ ns, n.Settled) {st : Analyzer}
    (hst : st.scope = .none) : (visitStatements ns st).2.1.scope = .none := by
  induction ns generalizing st with
  | nil => simpa only [visitStatements] using hst
  | cons n ns ih =>
    rw [visitStatements_cons (h n List.mem_cons_self st)]
    exact ih (fun m hm => h m (List.mem_cons_of_mem n hm)) (Visit.scope_following _)

/-- **Sequencing.** The statements of a joined list are visited as the first part, then the
second from the state the first left. -/
theorem visitStatements_append (h : ∀ n ∈ ns, n.Settled) (ms : List Node) (st : Analyzer) :
    visitStatements (ns ++ ms) st =
      ((visitStatements ns st).1 ++ (visitStatements ms (visitStatements ns st).2.1).1,
        (visitStatements ms (visitStatements ns st).2.1).2) := by
  induction ns generalizing st with
  | nil => simp [visitStatements]
  | cons n ns ih =>
    have hn := h n List.mem_cons_self st
    simp only [List.cons_append, visitStatements_cons hn,
      ih (fun m hm => h m (List.mem_cons_of_mem n hm))]

end Run

/-- **A shared analyzer.** Analysing a parsed program, then any program from the state it leaves,
is analysing the two joined: the same state at the end, and the annotated statements of the two
runs joined. Between the two runs the scope is cleared. -/
theorem analyze_append {ts : List Terminal} (hts : Parser.Lexical ts)
    (hnamed : ∀ cols, Stmt.create none cols ∉ (parse ts).program) (s : Program) :
    ∃ st₁ ns₁ st₂ ns₂, analyze (Program.toNode (parse ts).program) = (st₁, .query ns₁ {}) ∧
      st₁.scope = .none ∧ analyze (Program.toNode s) st₁ = (st₂, .query ns₂ {}) ∧
      analyze (Program.toNode ((parse ts).program ++ s)) = (st₂, .query (ns₁ ++ ns₂) {}) := by
  have hs : ∀ n ∈ (parse ts).program.map Stmt.toNode, n.Settled := by
    intro n hn
    obtain ⟨x, hx, rfl⟩ := List.mem_map.1 hn
    exact Stmt.settled (parse_textual hts x hx) fun cols h => hnamed cols (h ▸ hx)
  simp only [analyze_toNode, List.map_append, visitStatements_append hs]
  exact ⟨_, _, _, _, rfl, visitStatements_scope hs rfl, rfl, rfl⟩

/-- `CREATE TABLE t (a INT)` has a named table, so its analysis may be shared with that of a
program after it, here `SELECT a FROM t`. -/
theorem analyze_append_createTable :
    Parser.Lexical [Token.toTerminal ⟨.create, "CREATE", 1, 1⟩,
        Token.toTerminal ⟨.table, "TABLE", 1, 8⟩, Token.toTerminal ⟨.identifier, "t", 1, 14⟩,
        Token.toTerminal ⟨.leftParen, "(", 1, 16⟩, Token.toTerminal ⟨.identifier, "a", 1, 17⟩,
        Token.toTerminal ⟨.int, "INT", 1, 19⟩, Token.toTerminal ⟨.rightParen, ")", 1, 22⟩] ∧
      (∀ cols, Stmt.create none cols ∉ (parse [Token.toTerminal ⟨.create, "CREATE", 1, 1⟩,
        Token.toTerminal ⟨.table, "TABLE", 1, 8⟩, Token.toTerminal ⟨.identifier, "t", 1, 14⟩,
        Token.toTerminal ⟨.leftParen, "(", 1, 16⟩, Token.toTerminal ⟨.identifier, "a", 1, 17⟩,
        Token.toTerminal ⟨.int, "INT", 1, 19⟩, Token.toTerminal ⟨.rightParen, ")", 1, 22⟩]).program) ∧
      ∃ st₁ ns₁ st₂ ns₂, analyze (Program.toNode (parse [Token.toTerminal ⟨.create, "CREATE", 1, 1⟩,
        Token.toTerminal ⟨.table, "TABLE", 1, 8⟩, Token.toTerminal ⟨.identifier, "t", 1, 14⟩,
        Token.toTerminal ⟨.leftParen, "(", 1, 16⟩, Token.toTerminal ⟨.identifier, "a", 1, 17⟩,
        Token.toTerminal ⟨.int, "INT", 1, 19⟩, Token.toTerminal ⟨.rightParen, ")", 1, 22⟩]).program) = (st₁, .query ns₁ {}) ∧
        st₁.scope = .none ∧
        analyze (Program.toNode [.select [.str "a"] (.str "t") none ⟨.int 2, .int 1⟩]) st₁ =
          (st₂, .query ns₂ {}) ∧
        analyze (Program.toNode ((parse [Token.toTerminal ⟨.create, "CREATE", 1, 1⟩,
        Token.toTerminal ⟨.table, "TABLE", 1, 8⟩, Token.toTerminal ⟨.identifier, "t", 1, 14⟩,
        Token.toTerminal ⟨.leftParen, "(", 1, 16⟩, Token.toTerminal ⟨.identifier, "a", 1, 17⟩,
        Token.toTerminal ⟨.int, "INT", 1, 19⟩, Token.toTerminal ⟨.rightParen, ")", 1, 22⟩]).program ++
          [.select [.str "a"] (.str "t") none ⟨.int 2, .int 1⟩])) =
          (st₂, .query (ns₁ ++ ns₂) {}) := by
  refine ⟨?lexical, ?named, analyze_append ?lexical ?named [.select [.str "a"] (.str "t") none ⟨.int 2, .int 1⟩]⟩
  case lexical => simp [Parser.Lexical, Datum.IsText, Token.toTerminal]
  case named =>
    -- the program is computed, and none of its statements is a `CREATE` without a name
    intro cols hc
    have h := List.all_eq_true.1 (?_ : List.all _ (fun s => !s.isNameless) = true) _ hc
    · simp [Stmt.isNameless] at h
    · decide +kernel

end SqlFront
