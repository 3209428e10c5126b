import SqlFront.Analysis
/-!
# The analysis by structural recursion

`visit` reaches the condition of a `SELECT`, `UPDATE` or `DELETE` through `visitFilter`, which
calls `visit` again on a tree that is not a subterm of the call's argument as Lean sees it: the
mutual block is therefore well-founded, and its equations hold only as propositions. The kernel
does not unfold such definitions, so a closed fact about one analysis, such as the errors of a
given program, cannot be decided by evaluation.

`visitRec` is the same analysis with the condition of a statement visited as the statement's
own subtree, and the step that `visitFilter` adds after it made a separate function
(`Visit.ofFilter`). It is structurally recursive, and the bridge `visit_eq_visitRec` proves it
equal to `visit`, node class by node class. Closed facts about an analysis are then evaluated
through `visitRec`.
-/

namespace SqlFront

/-- The visit of a `WHERE` clause `f` from `st`, given the visit `v` of the tree `f` itself from
`st`: an absent clause is not visited, and a present one gives the statement no type. -/
def Visit.ofFilter (f : Node) (v : Visit) (st : Analyzer) : Visit :=
  match f with
  | .absent => ⟨.absent, st, .ok none⟩
  | _ => ⟨v.node, v.state, v.outcome.map fun _ => none⟩

mutual

/-- `visit`, with the condition of a statement visited as its subtree. -/
def visitRec : Node → Analyzer → Visit
  | .query stmts site, st =>
    let (nodes, st', stop) := visitStatementsRec stmts st
    ⟨.query nodes site, st', match stop with
      | some s => .error s
      | none => .ok none⟩
  | .create t cols site, st => .ofCheck (.create t cols site) (Check.create t cols site) st
  | .insert t vals site, st => .ofCheck (.insert t vals site) (Check.insert t vals site) st
  | .select items t f site, st =>
    let (o, st₁) := (Check.select items t site).exec st
    match o with
    | .error s => ⟨.select items t f site, st₁, .error s⟩
    | .ok _ =>
      let v := Visit.ofFilter f (visitRec f st₁) st₁
      ⟨.select items t v.node site, v.state, v.outcome⟩
  | .update t assigns f site, st =>
    let (o, st₁) := (Check.update t assigns site).exec st
    match o with
    | .error s => ⟨.update t assigns f site, st₁, .error s⟩
    | .ok _ =>
      let v := Visit.ofFilter f (visitRec f st₁) st₁
      ⟨.update t assigns v.node site, v.state, v.outcome⟩
  | .delete t f site, st =>
    let (o, st₁) := (Check.delete t site).exec st
    match o with
    | .error s => ⟨.delete t f site, st₁, .error s⟩
    | .ok _ =>
      let v := Visit.ofFilter f (visitRec f st₁) st₁
      ⟨.delete t v.node site, v.state, v.outcome⟩
  | .binary op l r site, st =>
    let vl := visitRec l st
    match vl.outcome with
    | .error s => ⟨.binary op vl.node r site, vl.state, .error s⟩
    | .ok lt =>
      let vr := visitRec r vl.state
      let n := Node.binary op vl.node vr.node site
      match vr.outcome with
      | .error s => ⟨n, vr.state, .error s⟩
      | .ok rt =>
        let (o, st') := (Check.operands lt rt site).exec vr.state
        ⟨n, st', o.map fun _ => lt⟩
  | .negation c site, st =>
    let v := visitRec c st
    ⟨.negation v.node site, v.state, v.outcome⟩
  | .column name site ty, st =>
    let (o, st') := (Check.column name site).exec st
    match o with
    | .ok t => ⟨.column name site (some t), st', .ok (some t)⟩
    | .error s => ⟨.column name site ty, st', .error s⟩
  | .literal v site ty, st =>
    match v with
    | .none => ⟨.literal v site ty, st, .ok none⟩
    | .str s =>
      let t := SqlType.ofLiteral s
      ⟨.literal v site (some t), st, .ok (some t)⟩
    | _ => ⟨.literal v site ty, st, .error .halt⟩
  | .foreign, st => ⟨.foreign, st, .error .halt⟩
  | .absent, st => ⟨.absent, st, .error .halt⟩

/-- `visitStatements`, over `visitRec`. -/
def visitStatementsRec : List Node → Analyzer → List Node × Analyzer × Option Stop
  | [], st => ([], st, none)
  | n :: rest, st =>
    let v := visitRec n st
    match v.outcome with
    | .error .halt => (v.node :: rest, v.state, some .halt)
    | .error (.error e) =>
      let (ns, st', stop) :=
        visitStatementsRec rest { v.state with errors := v.state.errors.push e, scope := .none }
      (v.node :: ns, st', stop)
    | .ok _ =>
      let (ns, st', stop) := visitStatementsRec rest { v.state with scope := .none }
      (v.node :: ns, st', stop)

end

/-- `visitFilter` is the visit of the clause's own tree, then `Visit.ofFilter`. -/
theorem visitFilter_eq_ofFilter (f : Node) :
    visitFilter f = fun st => Visit.ofFilter f (visit f st) st := by
  funext st
  cases f with
  | absent => rw [visitFilter]; rfl
  | _ =>
    rw [visitFilter]
    · rfl
    · intro h
      cases h

-- Each case unfolds both definitions once and rewrites the visits of the subtrees; what is
-- left differs at most in the names of the two definitions' matchers, which `rfl` unfolds.
-- It is `rewrite` and not `rw`: where Lean reuses the matchers of `visit` for `visitRec`, the
-- two sides are already equal, and the closing `rfl` must not depend on that.
mutual

/-- **The bridge.** The structural analysis is the analysis. -/
theorem visit_eq_visitRec : ∀ n : Node, visit n = visitRec n
  | .query stmts site => by
    funext st
    rewrite [visit, visitRec, visitStatements_eq_visitStatementsRec stmts]
    rfl
  | .create t cols site => by funext st; rw [visit, visitRec]
  | .insert t vals site => by funext st; rw [visit, visitRec]
  | .select items t f site => by
    funext st
    rewrite [visit, visitRec, visitFilter_eq_ofFilter f, visit_eq_visitRec f]
    rfl
  | .update t assigns f site => by
    funext st
    rewrite [visit, visitRec, visitFilter_eq_ofFilter f, visit_eq_visitRec f]
    rfl
  | .delete t f site => by
    funext st
    rewrite [visit, visitRec, visitFilter_eq_ofFilter f, visit_eq_visitRec f]
    rfl
  | .binary op l r site => by
    funext st
    rewrite [visit, visitRec, visit_eq_visitRec l, visit_eq_visitRec r]
    rfl
  | .negation c site => by
    funext st
    rw [visit, visitRec, visit_eq_visitRec c]
  | .column name site ty => by
    funext st
    rewrite [visit, visitRec]
    rfl
  -- the equations of a literal are split by the class of its value
  | .literal v site ty => by funext st; cases v <;> rw [visit, visitRec] <;> nofun
  | .foreign => by funext st; rw [visit, visitRec]
  | .absent => by funext st; rw [visit, visitRec]

theorem visitStatements_eq_visitStatementsRec : ∀ ns : List Node,
    visitStatements ns = visitStatementsRec ns
  | [] => by funext st; rw [visitStatements, visitStatementsRec]
  | n :: rest => by
    funext st
    rewrite [visitStatements, visitStatementsRec, visit_eq_visitRec n,
      visitStatements_eq_visitStatementsRec rest]
    rfl

end

/-- The analysis of a tree, through the structural visit. -/
theorem analyze_eq_visitRec (root : Node) (st : Analyzer) :
    analyze root st = ((visitRec root st).state, (visitRec root st).node) := by
  rw [analyze, visit_eq_visitRec]

end SqlFront
