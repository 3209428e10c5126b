import SqlFront.Proofs.Acceptance
/-!
# The parser reads to the end

Every parsing function is total: each is a structural or well-founded recursion that takes a
terminal before it calls itself again at the same level, and a condition function calls one of
a tighter level on the same terminals. The statement loop alone runs on a bound, one step per
terminal and one to see the end (`Parser.programFrom`). What is shown here is that the bound is
never what stops it: the loop ends because it has come to the end of its input.

## Taking from the front

Every parsing function leaves a suffix of the terminals it was given (`Parsed.Suffix`): it takes
terminals from the front, by `expect`, `accept`, recovery and the placeholder of a missing
operand, and never puts one back. So a parse stands at a position in its input, the number of
terminals it has taken, and its rest is the input from that position on. One lemma per parsing
function carries this, in the order of the parser: the conditions as one mutual block with the
parser's own measure, then the lists and statements of a program, then the loop
(`suffix_programFrom`).

## The end

A statement and the terminator after it take at least one terminal
(`length_terminator_statement_lt`), so within its bound the loop stops only where it sees the end
marker or a terminal of kind `EOF` (`programFrom_rest_end`), and a larger bound gives the same
run (`programFrom_fuel`). With the suffix lemma this is the main statement,
`parseTerminals_reads_to_end`: terminals whose kinds are texts are parsed without a fault, and the
loop stops at a place where the kind `EOF` is seen; with no terminal of that kind, after the last
terminal.

## What the parse passes

The terminals the parse passes (`Parser.passed`), where a fault is looked for, are those in front
of the rest of the loop: the two make up the input (`passed_append_rest`), and with no terminal
of kind `EOF` the parse passes them all (`passed_of_no_eof`).
-/

namespace SqlFront

/-- Terminals whose kinds are texts are parsed without a fault: a text is a key. -/
theorem lookupFault?_eq_none_of_texts {ts : List Terminal}
    (h : ∀ t ∈ ts, ∃ s, t.kind = .str s) : lookupFault? ts = none := by
  refine lookupFault?_eq_none_of_keys fun t ht => ?_
  obtain ⟨s, hs⟩ := h t ht
  simp [hs, Datum.key?]

namespace Parser

variable {ts : List Terminal} {α β : Type}

/-! ### Taking from the front -/

/-- The parse leaves a suffix of the terminals it was given. -/
def Parsed.Suffix (p : Parsed ts α) : Prop := p.rest <:+ ts

namespace Parsed.Suffix

theorem done (v : α) : (Parsed.done ts v).Suffix := List.suffix_refl ts

theorem map {p : Parsed ts α} (h : p.Suffix) (f : α → β) : (p.map f).Suffix := h

/-- The continuation is read at what `p` left. -/
theorem andThen {p : Parsed ts α} {q : α → (r : List Terminal) → Parsed r β} (hp : p.Suffix)
    (hq : ∀ a, (q a p.rest).Suffix) : (p.andThen q).Suffix :=
  (hq p.value).trans hp

theorem extend {p : Parsed ts α} {r : List Terminal} {h : r.length ≤ p.rest.length}
    {q : Parsed r β} (hp : p.Suffix) (hr : r <:+ p.rest) (hq : q.Suffix) : (p.extend h q).Suffix :=
  hq.trans (hr.trans hp)

theorem after (t : Terminal) {r : List Terminal} {q : Parsed r α} (hq : q.Suffix) :
    (q.after t).Suffix :=
  hq.trans (List.suffix_cons t r)

end Parsed.Suffix

theorem suffix_recover (ts : List Terminal) : recover ts <:+ ts := List.dropWhile_suffix _

theorem suffix_fail (e : Expectation) (ts : List Terminal) : (fail e ts).Suffix :=
  suffix_recover ts

theorem suffix_expect (k : TokenKind) (ts : List Terminal) : (expect k ts).Suffix := by
  unfold expect
  split
  · exact List.tail_suffix ts
  · exact (suffix_fail _ ts).map _

theorem suffix_accept {k : TokenKind} {r : { r : List Terminal // r.length < ts.length }}
    (h : accept k ts = some r) : r.1 <:+ ts := by
  obtain ⟨t, hts, -⟩ := eq_cons_of_accept h
  exact ⟨[t], hts.symm⟩

/-- The placeholder of a missing operand skips one more terminal after recovering. -/
theorem suffix_missingOperand (ts : List Terminal) : (missingOperand ts).Suffix :=
  (List.tail_suffix _).trans (suffix_recover ts)

/-! ### Conditions -/

mutual

theorem suffix_disjunction (ts : List Terminal) : (disjunction ts).Suffix := by
  rw [disjunction_eq]
  have := (conjunction ts).rest_le
  exact (suffix_conjunction ts).andThen fun c => suffix_disjunctionTail c _
termination_by ts.length * 16 + 12
decreasing_by all_goals omega

theorem suffix_disjunctionTail (acc : Cond) (ts : List Terminal) :
    (disjunctionTail acc ts).Suffix := by
  match ts with
  | [] => rw [disjunctionTail_nil]; exact .done acc
  | t :: r =>
    rw [disjunctionTail_cons]
    split
    · have := (conjunction r).rest_le
      exact ((suffix_conjunction r).andThen fun c => suffix_disjunctionTail _ _).after t
    · exact .done acc
termination_by ts.length * 16 + 11
decreasing_by all_goals (try simp only [List.length_cons]); omega

theorem suffix_conjunction (ts : List Terminal) : (conjunction ts).Suffix := by
  rw [conjunction_eq]
  have := (negation ts).rest_le
  exact (suffix_negation ts).andThen fun c => suffix_conjunctionTail c _
termination_by ts.length * 16 + 10
decreasing_by all_goals omega

theorem suffix_conjunctionTail (acc : Cond) (ts : List Terminal) :
    (conjunctionTail acc ts).Suffix := by
  match ts with
  | [] => rw [conjunctionTail_nil]; exact .done acc
  | t :: r =>
    rw [conjunctionTail_cons]
    split
    · have := (negation r).rest_le
      exact ((suffix_negation r).andThen fun c => suffix_conjunctionTail _ _).after t
    · exact .done acc
termination_by ts.length * 16 + 9
decreasing_by all_goals (try simp only [List.length_cons]); omega

theorem suffix_negation (ts : List Terminal) : (negation ts).Suffix := by
  match ts with
  | [] => rw [negation_nil]; exact suffix_comparison []
  | t :: r =>
    rw [negation_cons]
    split
    · exact ((suffix_comparison r).map _).after t
    · exact suffix_comparison (t :: r)
termination_by ts.length * 16 + 8
decreasing_by all_goals (try simp only [List.length_cons]); omega

theorem suffix_comparison (ts : List Terminal) : (comparison ts).Suffix := by
  rw [comparison_eq]
  have := (expression ts).rest_le
  exact (suffix_expression ts).andThen fun l => suffix_comparisonRest l _
termination_by ts.length * 16 + 7
decreasing_by all_goals omega

theorem suffix_comparisonRest (l : Cond) (ts : List Terminal) : (comparisonRest l ts).Suffix := by
  match ts with
  | [] => exact .done l
  | t :: r =>
    simp only [comparisonRest]
    split
    · exact ((suffix_expression r).map _).after t
    · exact .done l
termination_by ts.length * 16 + 6
decreasing_by all_goals (try simp only [List.length_cons]); omega

theorem suffix_expression (ts : List Terminal) : (expression ts).Suffix := by
  rw [expression_eq]
  have := (term ts).rest_le
  exact (suffix_term ts).andThen fun c => suffix_expressionTail c _
termination_by ts.length * 16 + 5
decreasing_by all_goals omega

theorem suffix_expressionTail (acc : Cond) (ts : List Terminal) :
    (expressionTail acc ts).Suffix := by
  match ts with
  | [] => rw [expressionTail_nil]; exact .done acc
  | t :: r =>
    rw [expressionTail_cons]
    split
    · have := (term r).rest_le
      exact ((suffix_term r).andThen fun c => suffix_expressionTail _ _).after t
    · exact .done acc
termination_by ts.length * 16 + 4
decreasing_by all_goals (try simp only [List.length_cons]); omega

theorem suffix_term (ts : List Terminal) : (term ts).Suffix := by
  rw [term_eq]
  have := (factor ts).rest_le
  exact (suffix_factor ts).andThen fun c => suffix_termTail c _
termination_by ts.length * 16 + 3
decreasing_by all_goals omega

theorem suffix_termTail (acc : Cond) (ts : List Terminal) : (termTail acc ts).Suffix := by
  match ts with
  | [] => rw [termTail_nil]; exact .done acc
  | t :: r =>
    rw [termTail_cons]
    split
    · have := (factor r).rest_le
      exact ((suffix_factor r).andThen fun c => suffix_termTail _ _).after t
    · exact .done acc
termination_by ts.length * 16 + 2
decreasing_by all_goals (try simp only [List.length_cons]); omega

/-- A parenthesised condition is read after its parenthesis, and its closing one is expected
after it; a column or a literal takes its terminal. -/
theorem suffix_factor (ts : List Terminal) : (factor ts).Suffix := by
  match ts with
  | [] => rw [factor_nil]; exact suffix_missingOperand []
  | t :: r =>
    rw [factor_cons]
    split
    · have := (disjunction r).rest_le
      exact ((suffix_disjunction r).andThen fun c => (suffix_expect _ _).map fun _ => c).after t
    split
    · exact (Parsed.Suffix.done _).after t
    split
    · exact (Parsed.Suffix.done _).after t
    · exact suffix_missingOperand (t :: r)
termination_by ts.length * 16 + 1
decreasing_by all_goals (try simp only [List.length_cons]); omega

end

/-! ### Statements -/

theorem suffix_filter (ts : List Terminal) : (filter ts).Suffix := by
  cases ts with
  | nil => exact .done none
  | cons t r =>
    rw [filter_cons]
    split
    · exact ((suffix_disjunction r).map _).after t
    · exact .done none

theorem suffix_columnDef (ts : List Terminal) : (columnDef ts).Suffix := by
  unfold columnDef
  refine (suffix_expect _ ts).andThen fun name => ?_
  -- the type is a type word, which is taken, or a name, which is expected
  generalize (expect .identifier ts).rest = r
  cases r with
  | nil => exact (suffix_expect _ _).map _
  | cons t r =>
    dsimp only
    split
    · exact List.suffix_cons t r
    · exact (suffix_expect _ _).map _

theorem suffix_columnDefsFrom (acc : Array (Datum × Datum)) (ts : List Terminal) :
    (columnDefsFrom acc ts).Suffix := by
  rw [columnDefsFrom]
  have hle := (columnDef ts).rest_le
  rcases ha : accept .comma (columnDef ts).rest with _ | ⟨r, hr⟩
  · exact (suffix_columnDef ts).map _
  · exact .extend (suffix_columnDef ts) (suffix_accept ha) (suffix_columnDefsFrom _ r)
termination_by ts.length
decreasing_by omega

theorem suffix_columnDefs (ts : List Terminal) : (columnDefs ts).Suffix := by
  unfold columnDefs
  split
  · exact suffix_columnDefsFrom _ ts
  · exact (suffix_fail _ ts).map _

theorem suffix_valuesFrom (acc : Array Datum) (ts : List Terminal) :
    (valuesFrom acc ts).Suffix := by
  match ts with
  | [] =>
    rw [valuesFrom]
    exact (suffix_fail _ _).map _
  | t :: r =>
    rw [valuesFrom]
    split
    · rcases ha : accept .comma r with _ | ⟨r', hr'⟩
      · exact List.suffix_cons t r
      · exact (suffix_valuesFrom _ r').trans ((suffix_accept ha).trans (List.suffix_cons t r))
    · exact (suffix_fail _ _).map _
termination_by ts.length
decreasing_by simp only [List.length_cons]; omega

theorem suffix_valueList (ts : List Terminal) : (valueList ts).Suffix := by
  unfold valueList
  split
  · exact suffix_valuesFrom _ ts
  · exact (suffix_fail _ ts).map _

theorem suffix_selectItemsFrom (acc : Array Datum) (ts : List Terminal) :
    (selectItemsFrom acc ts).Suffix := by
  rw [selectItemsFrom]
  rcases ha : accept .comma ts with _ | ⟨r, hr⟩
  · exact .done _
  · dsimp only
    have hi := suffix_expect .identifier r
    rcases he : expect .identifier r with ⟨item, e₁, r₁, h₁'⟩
    rw [he] at hi
    dsimp only
    -- the rest is that of the loop on the further items, read after the item
    generalize hp : selectItemsFrom _ r₁ = p
    rcases p with ⟨v, e₂, r₂, h₂⟩
    have hr₂ := congrArg Parsed.rest hp
    dsimp only at hr₂
    show r₂ <:+ ts
    rw [← hr₂]
    exact (suffix_selectItemsFrom _ r₁).trans (hi.trans (suffix_accept ha))
termination_by ts.length
decreasing_by
  have : r₁.length ≤ r.length := by
    have := (expect .identifier r).rest_le
    rw [he] at this
    exact this
  omega

theorem suffix_selectItems (ts : List Terminal) : (selectItems ts).Suffix := by
  unfold selectItems
  rcases ha : accept .multiply ts with _ | ⟨r, hr⟩
  · refine (suffix_expect _ ts).andThen fun first => ?_
    cases first with
    | some t => exact suffix_selectItemsFrom _ _
    | none => exact (suffix_fail _ _).map _
  · exact suffix_accept ha

theorem suffix_assignment (ts : List Terminal) : (assignment ts).Suffix := by
  unfold assignment
  refine (suffix_expect _ ts).andThen fun name => (suffix_expect _ _).andThen fun _ => ?_
  -- the value is taken, or an error is reported
  generalize (expect .equal (expect .identifier ts).rest).rest = r
  cases r with
  | nil => exact (suffix_fail _ _).map _
  | cons t r =>
    dsimp only
    split
    · exact List.suffix_cons t r
    · exact (suffix_fail _ _).map _

theorem suffix_assignmentsFrom (acc : Array (Datum × Datum)) (ts : List Terminal) :
    (assignmentsFrom acc ts).Suffix := by
  rw [assignmentsFrom]
  have hle := (assignment ts).rest_le
  rcases hc : accept .comma (assignment ts).rest with _ | ⟨r, hr⟩
  · exact (suffix_assignment ts).map _
  · exact .extend (suffix_assignment ts) (suffix_accept hc) (suffix_assignmentsFrom _ r)
termination_by ts.length
decreasing_by omega

theorem suffix_create (ts : List Terminal) : (create ts).Suffix := by
  unfold create
  exact (suffix_expect _ ts).andThen fun _ => (suffix_expect _ _).andThen fun _ =>
    (suffix_expect _ _).andThen fun _ => (suffix_expect _ _).andThen fun _ =>
    (suffix_columnDefs _).andThen fun _ => (suffix_expect _ _).map _

theorem suffix_insert (kw : Terminal) (ts : List Terminal) : (insert kw ts).Suffix := by
  unfold insert
  exact (suffix_expect _ ts).andThen fun _ => (suffix_expect _ _).andThen fun _ =>
    (suffix_expect _ _).andThen fun _ => (suffix_expect _ _).andThen fun _ =>
    (suffix_valueList _).andThen fun _ => (suffix_expect _ _).map _

theorem suffix_select (kw : Terminal) (ts : List Terminal) : (select kw ts).Suffix := by
  unfold select
  exact (suffix_selectItems ts).andThen fun _ => (suffix_expect _ _).andThen fun _ =>
    (suffix_expect _ _).andThen fun _ => (suffix_filter _).map _

theorem suffix_update (kw : Terminal) (ts : List Terminal) : (update kw ts).Suffix := by
  unfold update
  exact (suffix_expect _ ts).andThen fun _ => (suffix_expect _ _).andThen fun _ =>
    (suffix_assignmentsFrom _ _).andThen fun _ => (suffix_filter _).map _

theorem suffix_delete (kw : Terminal) (ts : List Terminal) : (delete kw ts).Suffix := by
  unfold delete
  exact (suffix_expect _ ts).andThen fun _ => (suffix_expect _ _).andThen fun _ =>
    (suffix_filter _).map _

/-- A statement is read by the function of its keyword, after the keyword; without one, it is an
error and recovery. -/
theorem suffix_statement (ts : List Terminal) : (statement ts).Suffix := by
  cases ts with
  | nil =>
    rw [statement_of_not_startsStatement rfl]
    exact (suffix_fail _ _).map _
  | cons t r =>
    by_cases hk : t.kindIs TokenKind.startsStatement
    · obtain ⟨k, hk', hsk⟩ := Terminal.kindIs_iff.1 hk
      rcases TokenKind.startsStatement_iff.1 hsk with rfl | rfl | rfl | rfl | rfl
      · rw [statement_of_create r hk']; exact (suffix_create _).map _
      · rw [statement_of_insert r hk']; exact ((suffix_insert t r).map _).after t
      · rw [statement_of_select r hk']; exact ((suffix_select t r).map _).after t
      · rw [statement_of_update r hk']; exact ((suffix_update t r).map _).after t
      · rw [statement_of_delete r hk']; exact ((suffix_delete t r).map _).after t
    · rw [statement_of_not_startsStatement (by simpa using hk)]
      exact (suffix_fail _ _).map _

theorem suffix_terminator (ts : List Terminal) : (terminator ts).Suffix := by
  cases ts with
  | nil => exact .done ()
  | cons t r =>
    dsimp only [terminator]
    split
    · exact List.suffix_cons t r
    split
    · exact .done ()
    · rcases ha : accept .semicolon (fail .terminator (t :: r)).rest with _ | ⟨r', hr'⟩
      · exact suffix_fail _ _
      · exact (suffix_accept ha).trans (suffix_fail _ _)

/-- **The loop takes from the front.** Whatever its bound, the statement loop leaves a suffix of
its terminals. -/
theorem suffix_programFrom (n : Nat) (acc : Array Stmt) (ts : List Terminal) :
    (programFrom n acc ts).Suffix := by
  induction n generalizing acc ts with
  | zero => exact .done _
  | succ n ih =>
    rw [programFrom_succ]
    split
    · exact .done _
    · exact (suffix_statement ts).andThen fun _ => (suffix_terminator _).andThen fun _ => ih _ _

/-! ### What the parse passes -/

/-- The parse passes `w` when `w` is what stands in front of the rest of its loop. -/
theorem passed_eq {ts w : List Terminal} (h : w ++ (programFrom (ts.length + 1) #[] ts).rest = ts) :
    passed ts = w := by
  unfold passed
  generalize (programFrom (ts.length + 1) #[] ts).rest = r at h ⊢
  subst h
  rw [List.length_append, Nat.add_sub_cancel, List.take_left]

/-- What the parse passes and what its loop leaves make up its input. -/
theorem passed_append_rest (ts : List Terminal) :
    passed ts ++ (programFrom (ts.length + 1) #[] ts).rest = ts := by
  obtain ⟨w, hw⟩ := suffix_programFrom (ts.length + 1) #[] ts
  rw [passed_eq hw, hw]

/-- With no terminal of kind `EOF`, the loop runs to the end and the parse passes every terminal. -/
theorem passed_of_no_eof {ts : List Terminal} (h : ∀ t ∈ ts, t.hasKind .eof = false) :
    passed ts = ts := by
  have hend := programFrom_rest_end (ts.length + 1) #[] ts (Nat.lt_succ_self _)
  apply passed_eq
  rw [eq_nil_of_current_eof h (passed_append_rest ts).symm hend, List.append_nil]

-- A terminal of kind `EOF` where an operand is missing is skipped after the error, so the
-- terminal after it is passed, and its kind looked up.
example : lookupFault? [Token.toTerminal ⟨.select, "SELECT", 1, 1⟩,
    Token.toTerminal ⟨.multiply, "*", 1, 8⟩, Token.toTerminal ⟨.from, "FROM", 1, 10⟩,
    Token.toTerminal ⟨.identifier, "t", 1, 15⟩, Token.toTerminal ⟨.where, "WHERE", 1, 17⟩,
    Terminal.endMarker, ⟨.list [.str "x"], .str "x", .int 1, .int 23⟩] =
    some (.unhashable (Datum.list [.str "x"]).typeName) := by
  decide +kernel

end Parser

/-- **The parser reads to the end.** Take terminals whose kinds are texts. They are parsed
without a fault, and the statement loop ends on its own: run with any bound beyond the number of
terminals it is the same run. It stops at a position in the terminals (what it leaves is what
follows the terminals it took), and there it sees the kind `EOF`, in a terminal of that kind or
in the end marker past the last terminal. So when no terminal is of kind `EOF`, it stops after
the last one. -/
theorem parseTerminals_reads_to_end (ts : List Terminal)
    (hts : ∀ t ∈ ts, ∃ s, t.kind = .str s) :
    parseTerminals ts = .ok (parse ts) ∧
      (∀ n, ts.length < n →
        Parser.programFrom n #[] ts = Parser.programFrom (ts.length + 1) #[] ts) ∧
      (∃ taken, ts = taken ++ (Parser.programFrom (ts.length + 1) #[] ts).rest) ∧
      (Parser.current (Parser.programFrom (ts.length + 1) #[] ts).rest).hasKind .eof ∧
      ((∀ t ∈ ts, t.hasKind .eof = false) →
        (Parser.programFrom (ts.length + 1) #[] ts).rest = []) := by
  have hend := Parser.programFrom_rest_end (ts.length + 1) #[] ts (Nat.lt_succ_self _)
  obtain ⟨taken, htaken⟩ := Parser.suffix_programFrom (ts.length + 1) #[] ts
  refine ⟨?_, fun n hn => Parser.programFrom_fuel #[] ts hn (Nat.lt_succ_self _),
    ⟨taken, htaken.symm⟩, hend,
    fun heof => Parser.eq_nil_of_current_eof heof htaken.symm hend⟩
  rw [parseTerminals, lookupFault?_eq_none_of_texts hts]

/-- The tokens of `DELETE FROM t`, ended by a terminal of kind `EOF`: the loop stops at that
terminal. -/
theorem parseTerminals_reads_to_end_deleteEnd :
    (∀ t ∈ (scan "DELETE FROM t").tokens.map Token.toTerminal ++ [Terminal.endMarker],
        ∃ s, t.kind = .str s) ∧
      parseTerminals ((scan "DELETE FROM t").tokens.map Token.toTerminal ++ [Terminal.endMarker]) =
        .ok (parse ((scan "DELETE FROM t").tokens.map Token.toTerminal ++
          [Terminal.endMarker])) ∧
      (∀ n, ((scan "DELETE FROM t").tokens.map Token.toTerminal ++
          [Terminal.endMarker]).length < n →
        Parser.programFrom n #[]
            ((scan "DELETE FROM t").tokens.map Token.toTerminal ++ [Terminal.endMarker]) =
          Parser.programFrom (((scan "DELETE FROM t").tokens.map Token.toTerminal ++
            [Terminal.endMarker]).length + 1) #[]
            ((scan "DELETE FROM t").tokens.map Token.toTerminal ++ [Terminal.endMarker])) ∧
      (∃ taken, (scan "DELETE FROM t").tokens.map Token.toTerminal ++ [Terminal.endMarker] =
        taken ++ (Parser.programFrom (((scan "DELETE FROM t").tokens.map Token.toTerminal ++
          [Terminal.endMarker]).length + 1) #[]
          ((scan "DELETE FROM t").tokens.map Token.toTerminal ++ [Terminal.endMarker])).rest) ∧
      (Parser.current (Parser.programFrom (((scan "DELETE FROM t").tokens.map Token.toTerminal ++
          [Terminal.endMarker]).length + 1) #[]
          ((scan "DELETE FROM t").tokens.map Token.toTerminal ++
            [Terminal.endMarker])).rest).hasKind .eof ∧
      ((∀ t ∈ (scan "DELETE FROM t").tokens.map Token.toTerminal ++ [Terminal.endMarker],
          t.hasKind .eof = false) →
        (Parser.programFrom (((scan "DELETE FROM t").tokens.map Token.toTerminal ++
          [Terminal.endMarker]).length + 1) #[]
          ((scan "DELETE FROM t").tokens.map Token.toTerminal ++ [Terminal.endMarker])).rest =
          []) := by
  have hts : ∀ t ∈ (scan "DELETE FROM t").tokens.map Token.toTerminal ++ [Terminal.endMarker],
      ∃ s, t.kind = .str s := by
    simp only [List.mem_append, List.mem_map, List.mem_singleton]
    rintro t (⟨tok, -, rfl⟩ | rfl) <;> exact ⟨_, rfl⟩
  exact ⟨hts, parseTerminals_reads_to_end _ hts⟩

end SqlFront
