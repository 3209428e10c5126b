import SqlFront.Syntax.Parser
/-!
# One step of the parser at a time

Each parsing function, opened by one equation into the combinators of `Parsed`: a function is
`andThen` of the parse of its first part and the parse of the rest, `map` of a parse whose value
it rebuilds, `after t` of the parse of what follows a terminal `t` that it took, or `done` when it
takes nothing. Later proofs rewrite with these equations and the field lemmas of the combinators,
and never unfold a parsing function.

The one combinator that the parser does not name is `Parsed.after`: the same parse, read as a
parse of one more terminal at the front. Where the parser reads an optional comparison after the
left operand, the equation names the part after the operand `comparisonRest`.

The module ends with the facts about recovery that every proof about errors uses: `fail` reports
exactly one error, `recover` stops at the first terminal at which recovery stops, and a statement
with the terminator after it always takes a terminal, so the fuel of `programFrom` is enough.
-/

namespace SqlFront

namespace Parser

variable {ts : List Terminal} {α β : Type}

/-! ### Kinds -/

theorem Terminal.hasKind_iff {k : TokenKind} {t : Terminal} :
    t.hasKind k = true ↔ t.kind? = some k := by
  simp [Terminal.hasKind]

theorem Terminal.kindIs_iff {p : TokenKind → Bool} {t : Terminal} :
    t.kindIs p = true ↔ ∃ k, t.kind? = some k ∧ p k = true := by
  simp [Terminal.kindIs, Option.any_eq_true]

theorem Terminal.kindIs_of_kind? {p : TokenKind → Bool} {t : Terminal} {k : TokenKind}
    (h : t.kind? = some k) : t.kindIs p = p k := by
  simp [Terminal.kindIs, h]

theorem Terminal.hasKind_of_kind? {k k' : TokenKind} {t : Terminal} (h : t.kind? = some k) :
    t.hasKind k' = (k == k') := by
  simp [Terminal.hasKind, h]

@[simp] theorem Terminal.kind?_endMarker : Terminal.endMarker.kind? = some .eof := by decide

theorem TokenKind.startsStatement_iff {k : TokenKind} :
    k.startsStatement = true ↔
      k = .create ∨ k = .insert ∨ k = .select ∨ k = .update ∨ k = .delete := by
  cases k <;> simp [TokenKind.startsStatement]

/-! ### The combinators -/

/-- The parse `q` of what follows `t`, as a parse of `t` and what follows. -/
def Parsed.after (t : Terminal) {r : List Terminal} (q : Parsed r α) : Parsed (t :: r) α :=
  ⟨q.value, q.errors, q.rest, Nat.le_trans q.rest_le (by simp)⟩

namespace Parsed

@[simp] theorem done_value (v : α) : (done ts v).value = v := rfl
@[simp] theorem done_errors (v : α) : (done ts v).errors = [] := rfl
@[simp] theorem done_rest (v : α) : (done ts v).rest = ts := rfl

@[simp] theorem map_value (p : Parsed ts α) (f : α → β) : (p.map f).value = f p.value := rfl
@[simp] theorem map_errors (p : Parsed ts α) (f : α → β) : (p.map f).errors = p.errors := rfl
@[simp] theorem map_rest (p : Parsed ts α) (f : α → β) : (p.map f).rest = p.rest := rfl

@[simp] theorem andThen_value (p : Parsed ts α) (q : α → (r : List Terminal) → Parsed r β) :
    (p.andThen q).value = (q p.value p.rest).value := rfl
@[simp] theorem andThen_errors (p : Parsed ts α) (q : α → (r : List Terminal) → Parsed r β) :
    (p.andThen q).errors = p.errors ++ (q p.value p.rest).errors := rfl
@[simp] theorem andThen_rest (p : Parsed ts α) (q : α → (r : List Terminal) → Parsed r β) :
    (p.andThen q).rest = (q p.value p.rest).rest := rfl

@[simp] theorem extend_value (p : Parsed ts α) {r : List Terminal} (h : r.length ≤ p.rest.length)
    (q : Parsed r β) : (p.extend h q).value = q.value := rfl
@[simp] theorem extend_errors (p : Parsed ts α) {r : List Terminal}
    (h : r.length ≤ p.rest.length) (q : Parsed r β) :
    (p.extend h q).errors = p.errors ++ q.errors := rfl
@[simp] theorem extend_rest (p : Parsed ts α) {r : List Terminal} (h : r.length ≤ p.rest.length)
    (q : Parsed r β) : (p.extend h q).rest = q.rest := rfl

@[simp] theorem after_value (t : Terminal) {r : List Terminal} (q : Parsed r α) :
    (q.after t).value = q.value := rfl
@[simp] theorem after_errors (t : Terminal) {r : List Terminal} (q : Parsed r α) :
    (q.after t).errors = q.errors := rfl
@[simp] theorem after_rest (t : Terminal) {r : List Terminal} (q : Parsed r α) :
    (q.after t).rest = q.rest := rfl

/-- Two parses of the same terminals are the same when their values, errors and rests are. -/
@[ext] theorem ext {p q : Parsed ts α} (hv : p.value = q.value) (he : p.errors = q.errors)
    (hr : p.rest = q.rest) : p = q := by
  cases p
  cases q
  cases hv
  cases he
  cases hr
  rfl

theorem andThen_rest_length_le (p : Parsed ts α) (q : α → (r : List Terminal) → Parsed r β) :
    (p.andThen q).rest.length ≤ p.rest.length :=
  (q p.value p.rest).rest_le

end Parsed

/-! ### Looking, recovering and failing -/

@[simp] theorem current_nil : current [] = Terminal.endMarker := rfl
@[simp] theorem current_cons (t : Terminal) (r : List Terminal) : current (t :: r) = t := rfl

@[simp] theorem recover_nil : recover [] = [] := rfl

theorem recover_cons (t : Terminal) (r : List Terminal) :
    recover (t :: r) = if t.kindIs TokenKind.synchronizes then t :: r else recover r := by
  unfold recover
  rw [List.dropWhile_cons]
  by_cases h : t.kindIs TokenKind.synchronizes <;> simp [h]

/-- Recovery skips a prefix of the terminals. -/
theorem recover_suffix (ts : List Terminal) : ∃ pre, ts = pre ++ recover ts :=
  ⟨ts.takeWhile _, (List.takeWhile_append_dropWhile).symm⟩

@[simp] theorem fail_errors (e : Expectation) (ts : List Terminal) :
    (fail e ts).errors = [⟨e, current ts⟩] := rfl
@[simp] theorem fail_rest (e : Expectation) (ts : List Terminal) :
    (fail e ts).rest = recover ts := rfl

theorem expect_of_kind {k : TokenKind} {t : Terminal} (r : List Terminal) (h : t.hasKind k) :
    expect k (t :: r) = ⟨some t, [], r, Nat.le_succ r.length⟩ := by
  simp [expect, h]

theorem expect_of_not_kind {k : TokenKind} {ts : List Terminal}
    (h : (current ts).hasKind k = false) : expect k ts = (fail (.kind k) ts).map fun _ => none := by
  simp [expect, h]

@[simp] theorem accept_nil (k : TokenKind) : accept k [] = none := rfl

theorem accept_cons (k : TokenKind) (t : Terminal) (r : List Terminal) :
    (accept k (t :: r)).map Subtype.val = if t.hasKind k then some r else none := by
  simp only [accept]
  split <;> rfl

theorem accept_of_kind {k : TokenKind} {t : Terminal} (r : List Terminal) (h : t.hasKind k) :
    accept k (t :: r) = some ⟨r, Nat.lt_succ_self r.length⟩ := by
  simp [accept, h]

/-- `accept` passes exactly one terminal, of the kind it accepts. -/
theorem eq_cons_of_accept {k : TokenKind} {ts : List Terminal} {r}
    (h : accept k ts = some r) : ∃ t, ts = t :: r.1 ∧ t.kind? = some k := by
  cases ts with
  | nil => simp at h
  | cons t rr =>
    simp only [accept] at h
    split at h
    · next hk =>
      cases h
      exact ⟨t, rfl, Terminal.hasKind_iff.1 hk⟩
    · cases h

theorem hasKind_of_accept_eq_none {k : TokenKind} {t : Terminal} {r : List Terminal}
    (h : accept k (t :: r) = none) : t.hasKind k = false := by
  simp only [accept] at h
  split at h
  · cases h
  · next hk => simpa using hk

@[simp] theorem missingOperand_errors (ts : List Terminal) :
    (missingOperand ts).errors = [⟨.operand, current ts⟩] := rfl
@[simp] theorem missingOperand_rest (ts : List Terminal) :
    (missingOperand ts).rest = (recover ts).tail := rfl

/-! ### The conditions -/

theorem disjunction_eq (ts : List Terminal) :
    disjunction ts = (conjunction ts).andThen disjunctionTail := by
  rw [disjunction]; rfl

@[simp] theorem disjunctionTail_nil (acc : Cond) : disjunctionTail acc [] = .done _ acc := by
  rw [disjunctionTail]

theorem disjunctionTail_cons (acc : Cond) (t : Terminal) (r : List Terminal) :
    disjunctionTail acc (t :: r) =
      if t.hasKind .or then
        ((conjunction r).andThen fun rhs => disjunctionTail (.binary t.lexeme acc rhs t.place)).after t
      else .done _ acc := by
  rw [disjunctionTail]; split <;> rfl

theorem conjunction_eq (ts : List Terminal) :
    conjunction ts = (negation ts).andThen conjunctionTail := by
  rw [conjunction]; rfl

@[simp] theorem conjunctionTail_nil (acc : Cond) : conjunctionTail acc [] = .done _ acc := by
  rw [conjunctionTail]

theorem conjunctionTail_cons (acc : Cond) (t : Terminal) (r : List Terminal) :
    conjunctionTail acc (t :: r) =
      if t.hasKind .and then
        ((negation r).andThen fun rhs => conjunctionTail (.binary t.lexeme acc rhs t.place)).after t
      else .done _ acc := by
  rw [conjunctionTail]; split <;> rfl

@[simp] theorem negation_nil : negation [] = comparison [] := by
  rw [negation]

theorem negation_cons (t : Terminal) (r : List Terminal) :
    negation (t :: r) =
      if t.hasKind .not then ((comparison r).map Cond.not).after t else comparison (t :: r) := by
  rw [negation]; split <;> rfl

/-- What follows the left operand of a comparison: a comparison operator and the right operand,
or nothing. -/
def comparisonRest (l : Cond) : (ts : List Terminal) → Parsed ts Cond
  | t :: r =>
    if t.kindIs TokenKind.isComparison then
      ((expression r).map fun rhs => Cond.binary t.lexeme l rhs t.place).after t
    else .done _ l
  | [] => .done _ l

theorem comparison_eq (ts : List Terminal) :
    comparison ts = (expression ts).andThen comparisonRest := by
  rw [comparison]
  rcases expression ts with ⟨l, e, r, hr⟩
  cases r with
  | nil => simp [Parsed.andThen, comparisonRest]
  | cons t r =>
    simp only [Parsed.andThen, comparisonRest]
    split
    · rfl
    · simp

theorem expression_eq (ts : List Terminal) :
    expression ts = (term ts).andThen expressionTail := by
  rw [expression]; rfl

@[simp] theorem expressionTail_nil (acc : Cond) : expressionTail acc [] = .done _ acc := by
  rw [expressionTail]

theorem expressionTail_cons (acc : Cond) (t : Terminal) (r : List Terminal) :
    expressionTail acc (t :: r) =
      if t.kindIs TokenKind.isAdditive then
        ((term r).andThen fun rhs => expressionTail (.binary t.lexeme acc rhs t.place)).after t
      else .done _ acc := by
  rw [expressionTail]; split <;> rfl

theorem term_eq (ts : List Terminal) : term ts = (factor ts).andThen termTail := by
  rw [term]; rfl

@[simp] theorem termTail_nil (acc : Cond) : termTail acc [] = .done _ acc := by
  rw [termTail]

theorem termTail_cons (acc : Cond) (t : Terminal) (r : List Terminal) :
    termTail acc (t :: r) =
      if t.kindIs TokenKind.isMultiplicative then
        ((factor r).andThen fun rhs => termTail (.binary t.lexeme acc rhs t.place)).after t
      else .done _ acc := by
  rw [termTail]; split <;> rfl

@[simp] theorem factor_nil : factor [] = missingOperand [] := by
  rw [factor]

theorem factor_cons (t : Terminal) (r : List Terminal) :
    factor (t :: r) =
      if t.hasKind .leftParen then
        ((disjunction r).andThen fun c r₁ => (expect .rightParen r₁).map fun _ => c).after t
      else if t.hasKind .identifier then (Parsed.done r (.column t.lexeme t.place)).after t
      else if t.kindIs TokenKind.isLiteral then (Parsed.done r (.literal t.lexeme t.place)).after t
      else missingOperand (t :: r) := by
  rw [factor]
  split
  · rfl
  · rfl

/-! ### The statements -/

theorem condition_eq (ts : List Terminal) : condition ts = disjunction ts := rfl

@[simp] theorem filter_nil : filter [] = .done _ none := rfl

theorem filter_cons (t : Terminal) (r : List Terminal) :
    filter (t :: r) = if t.hasKind .where then ((condition r).map some).after t else .done _ none := by
  simp only [filter]
  split <;> rfl

theorem statement_of_create {t : Terminal} (r : List Terminal) (h : t.kind? = some .create) :
    statement (t :: r) = (create (t :: r)).map some := by
  simp [statement, h]

theorem statement_of_insert {t : Terminal} (r : List Terminal) (h : t.kind? = some .insert) :
    statement (t :: r) = ((insert t r).map some).after t := by
  simp [statement, h]; rfl

theorem statement_of_select {t : Terminal} (r : List Terminal) (h : t.kind? = some .select) :
    statement (t :: r) = ((select t r).map some).after t := by
  simp [statement, h]; rfl

theorem statement_of_update {t : Terminal} (r : List Terminal) (h : t.kind? = some .update) :
    statement (t :: r) = ((update t r).map some).after t := by
  simp [statement, h]; rfl

theorem statement_of_delete {t : Terminal} (r : List Terminal) (h : t.kind? = some .delete) :
    statement (t :: r) = ((delete t r).map some).after t := by
  simp [statement, h]; rfl

/-- Without a keyword, a statement is an error and recovery. -/
theorem statement_of_not_startsStatement {ts : List Terminal}
    (h : (current ts).kindIs TokenKind.startsStatement = false) :
    statement ts = (fail .statement ts).map fun _ => none := by
  cases ts with
  | nil => rfl
  | cons t r =>
    simp only [current_cons, Terminal.kindIs] at h
    simp only [statement]
    split <;> simp_all [Option.any, TokenKind.startsStatement]

@[simp] theorem terminator_nil : terminator [] = .done _ () := rfl

theorem terminator_of_semicolon {t : Terminal} (r : List Terminal) (h : t.hasKind .semicolon) :
    terminator (t :: r) = (Parsed.done r ()).after t := by
  simp [terminator, h]; rfl

theorem terminator_of_boundary {t : Terminal} (r : List Terminal)
    (h₁ : t.hasKind .semicolon = false)
    (h₂ : (t.hasKind .eof || t.kindIs TokenKind.startsStatement) = true) :
    terminator (t :: r) = .done _ () := by
  simp [terminator, h₁, h₂]

/-- The terminals after a semicolon at their front, or all of them. -/
def skipSemicolon : List Terminal → List Terminal
  | s :: r => if s.hasKind .semicolon then r else s :: r
  | [] => []

/-- After anything else, a terminator is an error and recovery, and a semicolon at which the
recovery stops is taken. -/
theorem terminator_of_other {t : Terminal} (r : List Terminal) (h₁ : t.hasKind .semicolon = false)
    (h₂ : (t.hasKind .eof || t.kindIs TokenKind.startsStatement) = false) :
    (terminator (t :: r)).errors = [⟨.terminator, t⟩] ∧
      (terminator (t :: r)).rest = skipSemicolon (recover (t :: r)) := by
  simp only [terminator, h₁, h₂, Bool.false_eq_true, if_false]
  rcases h : accept .semicolon (fail .terminator (t :: r)).rest with _ | ⟨r', hr'⟩
  · refine ⟨rfl, ?_⟩
    show recover (t :: r) = _
    simp only [fail_rest] at h
    revert h
    generalize recover (t :: r) = rr
    cases rr with
    | nil => intro _; rfl
    | cons s rr =>
      simp only [accept, skipSemicolon]
      split <;> simp_all
  · refine ⟨rfl, ?_⟩
    show r' = _
    simp only [fail_rest] at h hr'
    revert h hr'
    generalize recover (t :: r) = rr
    cases rr with
    | nil => intro _ h; simp [accept] at h
    | cons s rr =>
      intro _ h
      simp only [accept, skipSemicolon] at h ⊢
      split at h <;> simp_all

/-- The statements read so far, with `s` after them if it is one. -/
def pushSome (acc : Array Stmt) : Option Stmt → Array Stmt
  | some st => acc.push st
  | none => acc

@[simp] theorem programFrom_zero (acc : Array Stmt) (ts : List Terminal) :
    programFrom 0 acc ts = .done _ acc.toList := rfl

theorem programFrom_succ (n : Nat) (acc : Array Stmt) (ts : List Terminal) :
    programFrom (n + 1) acc ts =
      if (current ts).hasKind .eof then .done _ acc.toList
      else (statement ts).andThen fun s r => (terminator r).andThen fun _ r' =>
        programFrom n (pushSome acc s) r' := by
  simp only [programFrom]
  split
  · rfl
  · refine Parsed.ext ?_ ?_ ?_ <;>
      simp only [Parsed.andThen_value, Parsed.andThen_errors, Parsed.andThen_rest,
        List.append_assoc] <;>
      rcases (statement ts).value with _ | st <;> rfl

/-! ### Progress, and enough fuel -/

/-- A statement that begins with its keyword takes the keyword. -/
theorem length_statement_rest_lt {t : Terminal} (r : List Terminal)
    (h : t.kindIs TokenKind.startsStatement) : (statement (t :: r)).rest.length ≤ r.length := by
  obtain ⟨k, hk, hs⟩ := Terminal.kindIs_iff.1 h
  rcases TokenKind.startsStatement_iff.1 hs with rfl | rfl | rfl | rfl | rfl
  · rw [statement_of_create r hk, Parsed.map_rest]
    refine Nat.le_trans (Parsed.andThen_rest_length_le _ _) (Nat.le_of_eq ?_)
    rw [expect_of_kind r (by simp [Terminal.hasKind, hk])]
  · rw [statement_of_insert r hk]; exact (insert t r).rest_le
  · rw [statement_of_select r hk]; exact (select t r).rest_le
  · rw [statement_of_update r hk]; exact (update t r).rest_le
  · rw [statement_of_delete r hk]; exact (delete t r).rest_le

/-- **Progress.** A statement and the terminator after it take at least one terminal, unless the
terminals begin with the end: a keyword is taken by its statement, a terminal at which recovery
does not stop is skipped by recovery, and one at which it stops is a semicolon, which the
terminator takes. -/
theorem length_terminator_statement_lt {ts : List Terminal}
    (h : (current ts).hasKind .eof = false) :
    (terminator (statement ts).rest).rest.length < ts.length := by
  cases ts with
  | nil => simp [Terminal.hasKind] at h
  | cons t r =>
    have hle := (terminator (statement (t :: r)).rest).rest_le
    by_cases hk : t.kindIs TokenKind.startsStatement
    · have := length_statement_rest_lt r hk
      simp only [List.length_cons]
      omega
    · rw [statement_of_not_startsStatement (by simpa using hk), Parsed.map_rest, fail_rest]
      by_cases hs : t.kindIs TokenKind.synchronizes
      · -- recovery stops at `t`, which is neither the end nor a keyword: a semicolon
        obtain ⟨k, hk', hsk⟩ := Terminal.kindIs_iff.1 hs
        have hsemi : t.hasKind .semicolon := by
          rw [Terminal.hasKind_of_kind? hk']
          rw [Terminal.kindIs_of_kind? hk'] at hk
          rw [current_cons, Terminal.hasKind_of_kind? hk'] at h
          cases k <;> simp_all [TokenKind.synchronizes, TokenKind.startsStatement]
        rw [recover_cons, if_pos hs, terminator_of_semicolon r hsemi]
        simp
      · rw [recover_cons, if_neg hs]
        have h₁ := (terminator (recover r)).rest_le
        have h₂ := length_recover_le r
        simp only [List.length_cons]
        omega

/-- With more fuel than terminals, the statement loop stops only at the end. -/
theorem programFrom_rest_end (n : Nat) (acc : Array Stmt) (ts : List Terminal)
    (h : ts.length < n) : (current (programFrom n acc ts).rest).hasKind .eof := by
  induction n generalizing acc ts with
  | zero => omega
  | succ n ih =>
    rw [programFrom_succ]
    split
    · next heof => exact heof
    · next heof =>
      have hlt := length_terminator_statement_lt (by simpa using heof)
      simp only [Parsed.andThen_rest]
      exact ih _ _ (by omega)

/-- Any fuel beyond the number of terminals gives the same run. -/
theorem programFrom_fuel {n m : Nat} (acc : Array Stmt) (ts : List Terminal)
    (hn : ts.length < n) (hm : ts.length < m) : programFrom n acc ts = programFrom m acc ts := by
  induction n generalizing m acc ts with
  | zero => omega
  | succ n ih =>
    obtain ⟨m, rfl⟩ : ∃ m', m = m' + 1 := ⟨m - 1, by omega⟩
    rw [programFrom_succ, programFrom_succ]
    split
    · rfl
    · next heof =>
      have hlt := length_terminator_statement_lt (by simpa using heof)
      have key := ih (m := m) (pushSome acc (statement ts).value)
        (terminator (statement ts).rest).rest (by omega) (by omega)
      exact Parsed.ext (by simp only [Parsed.andThen_value, key])
        (by simp only [Parsed.andThen_errors, key]) (by simp only [Parsed.andThen_rest, key])

/-- The statements read before do not change what the loop reads after them. -/
theorem programFrom_value (n : Nat) (acc : Array Stmt) (ts : List Terminal) :
    (programFrom n acc ts).value = acc.toList ++ (programFrom n #[] ts).value := by
  induction n generalizing acc ts with
  | zero => simp
  | succ n ih =>
    rw [programFrom_succ, programFrom_succ]
    split
    · simp
    · simp only [Parsed.andThen_value]
      rw [ih, ih (pushSome #[] (statement ts).value)]
      cases (statement ts).value <;> simp [pushSome]

theorem programFrom_errors (n : Nat) (acc acc' : Array Stmt) (ts : List Terminal) :
    (programFrom n acc ts).errors = (programFrom n acc' ts).errors := by
  induction n generalizing acc acc' ts with
  | zero => rfl
  | succ n ih =>
    rw [programFrom_succ, programFrom_succ]
    split
    · rfl
    · simp only [Parsed.andThen_errors]
      rw [ih]

theorem programFrom_rest (n : Nat) (acc acc' : Array Stmt) (ts : List Terminal) :
    (programFrom n acc ts).rest = (programFrom n acc' ts).rest := by
  induction n generalizing acc acc' ts with
  | zero => rfl
  | succ n ih =>
    rw [programFrom_succ, programFrom_succ]
    split
    · rfl
    · simp only [Parsed.andThen_rest]
      rw [ih]

end Parser

end SqlFront
