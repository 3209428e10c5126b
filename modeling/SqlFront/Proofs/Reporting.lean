import Mathlib.Data.List.TakeWhile
import SqlFront.Proofs.Sequencing
import SqlFront.Proofs.Growth
import SqlFront.Token.Scanner
/-!
# What the analysis reports of a parsed program

The check of a statement ends in one of three ways: the statement passes, it fails with one
semantic error, or it halts the analysis. Of the statements the parser builds from terminals with
text lexemes only one kind halts: a `CREATE` whose table name was not read (`Stmt.isNameless`).
Such a statement has no place, and its check halts before it changes anything, whether it meets
a type it must reject or comes to register the table (`Check.exec_create_placeless`). Every other
parsed statement settles (`Stmt.settled`).

The analysis of a parsed program, from any state (`analyze_parsed_program`):

* halts exactly when the program holds a `CREATE` without a name, and then at the first one,
  leaving the state that the statements before it left (`Program.beforeNameless`): those are
  checked to the end, and nothing after them is;
* reports, for each statement it checks, the error of that statement if it failed, one error and
  after the errors before it (`Visit.reported`). A statement's own visit adds no error
  (`Stmt.visit_errors`): errors are reported only between the statements of a program;
* so reports no more errors than there are statements.

The run lemma `visitStatements_parsed` gives the end state and the stop of the whole run, and the
step lemma `visitStatements_snoc` what one more statement adds.
-/

namespace SqlFront

open Check

/-! ### The statement that halts -/

/-- The statements of a program before its first `CREATE` without a table name: all of them if
it has none. -/
def Program.beforeNameless (prog : Program) : Program :=
  prog.takeWhile fun x => !x.isNameless

theorem Stmt.ne_create_none {x : Stmt} (h : x.isNameless = false) (cols : List (Datum × Datum)) :
    x ≠ .create none cols := by
  rintro rfl
  simp [Stmt.isNameless] at h

namespace Check

/-- A check whose steps only read: each returns and keeps the state, or halts. -/
abbrev Halts (st : Analyzer) : Stop → Analyzer → Prop := fun e st' => e = .halt ∧ st' = st

theorem triple_ofExcept_halts (st : Analyzer) (r : Except Fault α) :
    Triple (· = st) (ofExcept r) (· = st) (Halts st) := by
  unfold ofExcept
  split
  · exact Triple.pure (fun _ h => h) _
  · exact Triple.throw fun _ h => ⟨rfl, h⟩

/-- A place that is missing halts the check. -/
theorem triple_place_empty (st : Analyzer) {Q : Analyzer → Prop} :
    Triple (· = st) (place {} : Check (Datum × Datum)) Q (Halts st) :=
  Triple.throw fun _ h => ⟨rfl, h⟩

/-- Without a place, the check of a `CREATE` halts before it changes anything: a type it must
reject cannot be reported, and the table cannot be registered. -/
theorem exec_create_placeless (t cols : Datum) (st : Analyzer) :
    (create t cols {}).exec st = (.error .halt, st) := by
  have h : Triple (· = st) (create t cols {}) (fun _ => False) (Halts st) := by
    unfold create
    refine (triple_ofExcept_halts st _).bind fun items =>
      (Triple.mapM fun d _ => ?_).bind fun defs =>
        (triple_place_empty st (Q := fun _ => False)).bind fun _ _ h => h.elim
    -- a column definition is taken apart and its type read; a rejected type needs the place
    refine (triple_ofExcept_halts st _).bind fun ⟨n, ty⟩ => ?_
    refine Triple.bind (R := (· = st)) ?_ fun _ => Triple.pure (fun _ h => h) _
    unfold declaredType
    refine (triple_key ty fun _ h => ⟨rfl, h⟩).bind fun k => ?_
    split
    · split
      · exact Triple.pure (fun _ h => h) _
      · exact (triple_place_empty st (Q := fun _ => False)).bind fun _ _ h => h.elim
    · exact (triple_place_empty st (Q := fun _ => False)).bind fun _ _ h => h.elim
  have h := h st rfl
  revert h
  rcases (create t cols {}).exec st with ⟨_ | _, st'⟩
  · rintro ⟨rfl, rfl⟩
    rfl
  · exact False.elim

/-- A frozen check keeps the errors. -/
theorem Frozen.errors_exec {c : Check α} (h : Frozen c) (st : Analyzer) :
    (c.exec st).2.errors = st.errors := by
  have h := h st.catalog st.errors st ⟨rfl, rfl⟩
  revert h
  rcases c.exec st with ⟨_ | _, st'⟩ <;> exact fun h => h.2

/-- A `CREATE` changes the catalog only, however it ends. -/
theorem errors_exec_create (t cols : Datum) (s : Site) (st : Analyzer) :
    ((create t cols s).exec st).2.errors = st.errors := by
  have h := triple_create t cols s st.catalog st.errors st ⟨rfl, rfl⟩
  revert h
  rcases (create t cols s).exec st with ⟨_ | _, st'⟩
  · rintro (h | ⟨h, -⟩)
    · exact h.2
    · exact h.1
  · exact fun h => h.1

end Check

/-- A `CREATE` without a table name halts the analysis and leaves the state as it was. -/
theorem Stmt.visit_nameless (cols : List (Datum × Datum)) (st : Analyzer) :
    (visit (Stmt.create none cols).toNode st).outcome = .error .halt ∧
      (visit (Stmt.create none cols).toNode st).state = st := by
  simp [Stmt.toNode, visit, Visit.ofCheck, exec_create_placeless, Except.map]

/-! ### A statement reports no error of its own -/

theorem Cond.visit_errors (c : Cond) (st : Analyzer) :
    (visit c.toNode st).state.errors = st.errors := by
  induction c generalizing st with
  | binary op l r p ihl ihr =>
    -- the left operand, then the right one from the state it leaves, then their types
    simp only [Cond.toNode, visit]
    have hl := ihl st
    revert hl
    generalize visit l.toNode st = vl
    rcases vl with ⟨nl, stl, _ | lt⟩ <;> intro hl
    · exact hl
    have hr := ihr stl
    revert hr
    generalize visit r.toNode stl = vr
    rcases vr with ⟨nr, str, _ | rt⟩ <;> intro hr
    · exact hr.trans hl
    dsimp only
    have ho := (frozen_operands lt rt (.ofPlace p)).errors_exec str
    revert ho
    rcases (Check.operands lt rt (.ofPlace p)).exec str with ⟨_ | _, st'⟩ <;>
      exact fun ho => ho.trans (hr.trans hl)
  | not c ih => simpa only [Cond.toNode, visit] using ih st
  | column n p =>
    simp only [Cond.toNode, visit]
    have h := (frozen_column n (.ofPlace p)).errors_exec st
    revert h
    rcases (Check.column n (.ofPlace p)).exec st with ⟨_ | _, st'⟩ <;> exact id
  | literal v p => cases v <;> simp only [Cond.toNode, visit]

theorem visitFilter_errors (f : Option Cond) (st : Analyzer) :
    (visitFilter (Cond.toFilter f) st).state.errors = st.errors := by
  cases f with
  | none => simp [Cond.toFilter, visitFilter]
  | some c =>
    rw [Cond.toFilter, visitFilter.eq_2 _ _ (Cond.toNode_ne_absent c)]
    exact c.visit_errors st

/-- **A statement reports no error of its own.** Its visit may change the catalog and the
scope, but the errors are reported by the program around it. -/
theorem Stmt.visit_errors (x : Stmt) (st : Analyzer) :
    (visit x.toNode st).state.errors = st.errors := by
  cases x with
  | create t cols =>
    rcases t with _ | ⟨name, p⟩ <;>
      simpa only [Stmt.toNode, visit, Visit.ofCheck_state] using errors_exec_create _ _ _ st
  | insert t vals p =>
    simpa only [Stmt.toNode, visit, Visit.ofCheck_state] using
      (frozen_insert _ _ _).errors_exec st
  -- the other three statements check their head, then their condition
  | select items t f p =>
    simp only [Stmt.toNode, visit]
    split
    · exact (frozen_select _ _ _).errors_exec st
    · exact (visitFilter_errors f _).trans ((frozen_select _ _ _).errors_exec st)
  | update t assigns f p =>
    simp only [Stmt.toNode, visit]
    split
    · exact (frozen_update _ _ _).errors_exec st
    · exact (visitFilter_errors f _).trans ((frozen_update _ _ _).errors_exec st)
  | delete t f p =>
    simp only [Stmt.toNode, visit]
    split
    · exact (frozen_delete _ _).errors_exec st
    · exact (visitFilter_errors f _).trans ((frozen_delete _ _).errors_exec st)

/-! ### The errors a statement adds -/

/-- The errors a program reports for a visited statement: the error its check ended with, if it
ended with one. -/
def Visit.reported (v : Visit) : List SemanticError :=
  match v.outcome with
  | .error (.error e) => [e]
  | _ => []

theorem Visit.length_reported_le (v : Visit) : v.reported.length ≤ 1 := by
  unfold reported
  split <;> simp

theorem Visit.errors_following (v : Visit) :
    v.following.errors.toList = v.state.errors.toList ++ v.reported := by
  rcases h : v.outcome with (e | _) | _ <;> simp [following, reported, h]

/-- After a statement that does not add errors of its own, the program has reported exactly the
statement's error, if it failed, after the others. -/
theorem errors_following_visit (x : Stmt) (st : Analyzer) :
    (visit x.toNode st).following.errors.toList =
      st.errors.toList ++ (visit x.toNode st).reported := by
  rw [Visit.errors_following, x.visit_errors]

/-! ### Runs -/

section Run

variable {prog : Program}

theorem settled_of_beforeNameless (hp : ∀ x ∈ prog, x.Textual) :
    ∀ n ∈ prog.beforeNameless.map Stmt.toNode, n.Settled := by
  intro n hn
  obtain ⟨x, hx, rfl⟩ := List.mem_map.1 hn
  have hnamed := List.mem_takeWhile_imp hx
  exact Stmt.settled (hp x (List.takeWhile_subset _ hx))
    (Stmt.ne_create_none (by simpa using hnamed))

/-- **The run.** The statements of a parsed program are checked up to the first `CREATE` without
a name, which halts the analysis; the run ends in the state the statements before it left. -/
theorem visitStatements_parsed (hp : ∀ x ∈ prog, x.Textual) (st : Analyzer) :
    (visitStatements (prog.map Stmt.toNode) st).2 =
      ((visitStatements (prog.beforeNameless.map Stmt.toNode) st).2.1,
        if prog.any Stmt.isNameless then some .halt else none) := by
  induction prog generalizing st with
  | nil => simp [Program.beforeNameless, visitStatements]
  | cons x rest ih =>
    have hrest : ∀ y ∈ rest, y.Textual := fun y hy => hp y (List.mem_cons_of_mem x hy)
    cases hx : x.isNameless
    · -- a statement that settles is followed by the rest, from the state it leaves
      have hs := Stmt.settled (hp x List.mem_cons_self) (Stmt.ne_create_none hx) st
      simp only [Program.beforeNameless, List.takeWhile_cons, hx, Bool.not_false, ↓reduceIte,
        List.map_cons, List.any_cons, Bool.false_or, visitStatements_cons hs] at ih ⊢
      exact ih hrest _
    · -- the first `CREATE` without a name halts, keeping the state
      obtain ⟨cols, rfl⟩ : ∃ cols, x = .create none cols := by
        cases x with
        | create t cols => cases t <;> simp_all [Stmt.isNameless]
        | _ => simp [Stmt.isNameless] at hx
      obtain ⟨hhalt, hstate⟩ := Stmt.visit_nameless cols st
      simp [Program.beforeNameless, Stmt.isNameless, visitStatements, hhalt, hstate]

/-- **The step.** One more statement, after statements that settle, adds its own error if it
fails, after the errors before it. -/
theorem visitStatements_snoc {p₁ : Program} (hp₁ : ∀ n ∈ p₁.map Stmt.toNode, n.Settled)
    (x : Stmt) (st : Analyzer) :
    (visitStatements ((p₁ ++ [x]).map Stmt.toNode) st).2.1.errors.toList =
      (visitStatements (p₁.map Stmt.toNode) st).2.1.errors.toList ++
        (visit x.toNode (visitStatements (p₁.map Stmt.toNode) st).2.1).reported := by
  rw [List.map_append, visitStatements_append hp₁]
  rw [← errors_following_visit]
  rcases hv : (visit x.toNode (visitStatements (p₁.map Stmt.toNode) st).2.1).outcome with
    (e | _) | _ <;> simp [visitStatements, Visit.following, hv]

/-- Statements that settle report at most one error each. -/
theorem size_errors_visitStatements (hp : ∀ n ∈ prog.map Stmt.toNode, n.Settled) (st : Analyzer) :
    (visitStatements (prog.map Stmt.toNode) st).2.1.errors.size ≤ st.errors.size + prog.length := by
  induction prog generalizing st with
  | nil => simp [visitStatements]
  | cons x rest ih =>
    have hx := hp x.toNode List.mem_cons_self st
    rw [List.map_cons, visitStatements_cons hx]
    have hrest := ih (fun n hn => hp n (List.mem_cons_of_mem _ hn)) (visit x.toNode st).following
    -- the statement itself reports at most one error
    have hone : (visit x.toNode st).following.errors.size ≤ st.errors.size + 1 := by
      have h := congrArg List.length (errors_following_visit x st)
      simp only [Array.length_toList, List.length_append] at h
      have := (visit x.toNode st).length_reported_le
      omega
    simp only [List.length_cons]
    omega

end Run

/-- **What the analysis reports of a parsed program.** Parsed from terminals with text lexemes
and analysed from any state, a program halts the analysis exactly when it holds a `CREATE`
without a table name, and then ends in the state that the statements before the first such
`CREATE` left. Each of those statements is visited without halting, and adds exactly its own
error if its check fails, after the errors before it; so no more errors are added than there
are statements before the first `CREATE` without a name. -/
theorem analyze_parsed_program {ts : List Terminal} (hts : Parser.Lexical ts) (st : Analyzer) :
    (visit (Program.toNode (parse ts).program) st).outcome =
        (if (parse ts).program.any Stmt.isNameless then .error .halt else .ok none) ∧
      (analyze (Program.toNode (parse ts).program) st).1 =
        (analyze (Program.toNode (parse ts).program.beforeNameless) st).1 ∧
      (∀ p₁ x p₂, (parse ts).program.beforeNameless = p₁ ++ x :: p₂ →
        (visit x.toNode (analyze (Program.toNode p₁) st).1).outcome ≠ .error .halt ∧
        (analyze (Program.toNode (p₁ ++ [x])) st).1.errors.toList =
          (analyze (Program.toNode p₁) st).1.errors.toList ++
            (visit x.toNode (analyze (Program.toNode p₁) st).1).reported) ∧
      (analyze (Program.toNode (parse ts).program) st).1.errors.size ≤
        st.errors.size + (parse ts).program.beforeNameless.length := by
  have hp := parse_textual hts
  have hrun := visitStatements_parsed hp st
  have hsettled := settled_of_beforeNameless hp
  refine ⟨?halts, ?state, ?steps, ?count⟩
  case halts =>
    simp only [Program.toNode, visit]
    rw [show (visitStatements _ st).2.2 = _ from congrArg Prod.snd hrun]
    cases (parse ts).program.any Stmt.isNameless <;> rfl
  case state =>
    rw [analyze_toNode, analyze_toNode]
    dsimp only
    rw [hrun]
  case steps =>
    intro p₁ x p₂ hsplit
    -- the statements up to `x` are among those before the first `CREATE` without a name
    have hp₁ : ∀ n ∈ p₁.map Stmt.toNode, n.Settled := fun n hn =>
      hsettled n (by rw [hsplit]; exact List.map_subset _ (List.subset_append_left _ _) hn)
    have hx : x.toNode.Settled :=
      hsettled _ (List.mem_map_of_mem (by rw [hsplit]; simp))
    refine ⟨hx _, ?_⟩
    simp only [analyze_toNode]
    exact visitStatements_snoc hp₁ x st
  case count =>
    simp only [analyze_toNode]
    rw [show (visitStatements _ st).2.1 = _ from congrArg Prod.fst hrun]
    exact size_errors_visitStatements hsettled st

/-- `DELETE FROM t CREATE TABLE` is scanned into terminals with text lexemes, and parsed into a
`DELETE` and a `CREATE` without a table name. -/
theorem analyze_parsed_program_deleteCreate :
    Parser.Lexical ((scan "DELETE FROM t CREATE TABLE").tokens.map Token.toTerminal) ∧
      (visit (Program.toNode (parse ((scan "DELETE FROM t CREATE TABLE").tokens.map
          Token.toTerminal)).program) {}).outcome =
        (if (parse ((scan "DELETE FROM t CREATE TABLE").tokens.map
          Token.toTerminal)).program.any Stmt.isNameless then .error .halt else .ok none) ∧
      (analyze (Program.toNode (parse ((scan "DELETE FROM t CREATE TABLE").tokens.map
          Token.toTerminal)).program) {}).1 =
        (analyze (Program.toNode (parse ((scan "DELETE FROM t CREATE TABLE").tokens.map
          Token.toTerminal)).program.beforeNameless) {}).1 ∧
      (∀ p₁ x p₂, (parse ((scan "DELETE FROM t CREATE TABLE").tokens.map
          Token.toTerminal)).program.beforeNameless = p₁ ++ x :: p₂ →
        (visit x.toNode (analyze (Program.toNode p₁) {}).1).outcome ≠ .error .halt ∧
        (analyze (Program.toNode (p₁ ++ [x])) {}).1.errors.toList =
          (analyze (Program.toNode p₁) {}).1.errors.toList ++
            (visit x.toNode (analyze (Program.toNode p₁) {}).1).reported) ∧
      (analyze (Program.toNode (parse ((scan "DELETE FROM t CREATE TABLE").tokens.map
          Token.toTerminal)).program) {}).1.errors.size ≤
        (({} : Analyzer).errors.size + (parse ((scan "DELETE FROM t CREATE TABLE").tokens.map
          Token.toTerminal)).program.beforeNameless.length) :=
  ⟨Parser.lexical_toTerminal _, analyze_parsed_program (Parser.lexical_toTerminal _) {}⟩

end SqlFront
