import SqlFront.Proofs.Grammar
import SqlFront.Proofs.Derivation
import SqlFront.Proofs.ParseSteps
/-!
# What the grammar derives, the parser builds

A derivation of a grammar rule (`SqlFront.Proofs.Derivation`), followed by any terminals that
cannot continue it, is parsed by the rule's function with no error into the derivation's tree,
and the function stops exactly before those terminals (`Parsed.Gives`). The parser looks one
terminal ahead and never goes back, so this is the grammar being LL(1) as the parser codes it.
Two facts about words carry the proof:

* *what a word begins with* (`Grammar.Cmp.exists_cons`, `Grammar.Summands.head` and the like):
  every operand begins with `(`, a name or a literal, never with `NOT`, and each repetition
  begins with its operator;
* *what may follow it* (`StopsAt`): after a product comes no `*` or `/`, after a sum also no
  `+` or `-`, after a comparison also no comparison operator, after a conjunction also no
  `AND`, after a condition also no `OR`; after a statement comes a semicolon, the keyword of
  another statement, or the end.

The condition lemmas are one mutual induction on the derivation; each case follows the parsing
function's equation. For the four chains the accumulator carries the part of the chain already
nested, and the tail function finishes it: `disjunctionTail acc` over the rest of a chain builds
`acc.chain ps`. Forgetting the tree, a program of the grammar is read to its end with no error
(`leaves_programFrom`).
-/

namespace SqlFront

namespace TokenKind

/-- The kinds at which a product goes on. -/
def continuesTerm (k : TokenKind) : Bool := k.isMultiplicative

/-- The kinds at which a sum goes on. -/
def continuesExpr (k : TokenKind) : Bool := k.continuesTerm || k.isAdditive

/-- The kinds at which a comparison goes on. -/
def continuesCmp (k : TokenKind) : Bool := k.continuesExpr || k.isComparison

/-- The kinds at which a conjunction goes on. -/
def continuesConj (k : TokenKind) : Bool := k.continuesCmp || k == .and

/-- The kinds at which a condition goes on. -/
def continuesCond (k : TokenKind) : Bool := k.continuesConj || k == .or

/-- The kinds at which an operand begins. -/
def startsOperand (k : TokenKind) : Bool := k == .leftParen || k == .identifier || k.isLiteral

theorem continuesExpr_of_isComparison {k : TokenKind} (h : k.isComparison) :
    k.continuesExpr = false := by
  cases k <;> simp_all [continuesExpr, continuesTerm, isComparison, isAdditive, isMultiplicative]

theorem continuesTerm_of_isAdditive {k : TokenKind} (h : k.isAdditive) :
    k.continuesTerm = false := by
  cases k <;> simp_all [continuesTerm, isAdditive, isMultiplicative]

theorem ne_not_of_startsOperand {k : TokenKind} (h : k.startsOperand) : k ≠ .not := by
  rintro rfl
  exact absurd h (by decide)

theorem ne_leftParen_of_isLiteral {k : TokenKind} (h : k.isLiteral) : k ≠ .leftParen := by
  rintro rfl
  exact absurd h (by decide)

theorem ne_identifier_of_isLiteral {k : TokenKind} (h : k.isLiteral) : k ≠ .identifier := by
  rintro rfl
  exact absurd h (by decide)

end TokenKind

namespace Parser

variable {ts : List Terminal} {α β : Type}

/-- The parse reported nothing and left exactly `rest`. -/
def Parsed.Leaves (p : Parsed ts α) (rest : List Terminal) : Prop :=
  p.errors = [] ∧ p.rest = rest

/-- The terminals `rest` do not begin with a kind of `p`; the end is of kind `EOF`. -/
def StopsAt (p : TokenKind → Bool) (rest : List Terminal) : Prop :=
  ∀ k, (current rest).kind? = some k → p k = false

namespace Parsed.Leaves

theorem done (v : α) : (Parsed.done ts v).Leaves ts := ⟨rfl, rfl⟩

theorem map {p : Parsed ts α} {r : List Terminal} (h : p.Leaves r) (f : α → β) :
    (p.map f).Leaves r := h

theorem after (t : Terminal) {r rest : List Terminal} {q : Parsed r α} (h : q.Leaves rest) :
    (q.after t).Leaves rest := h

/-- The second parse may depend on the value of the first. -/
theorem andThen_value {p : Parsed ts α} {q : α → (r : List Terminal) → Parsed r β}
    {r r' : List Terminal} (hp : p.Leaves r) (hq : (q p.value r).Leaves r') :
    (p.andThen q).Leaves r' := by
  obtain ⟨value, errors, rest, hle⟩ := p
  obtain ⟨he, hr⟩ := hp
  dsimp only at he hr hq
  subst he hr
  exact ⟨by simpa using hq.1, hq.2⟩

theorem andThen {p : Parsed ts α} {q : α → (r : List Terminal) → Parsed r β} {r r' : List Terminal}
    (hp : p.Leaves r) (hq : ∀ v, (q v r).Leaves r') : (p.andThen q).Leaves r' :=
  hp.andThen_value (hq _)

end Parsed.Leaves

theorem Parsed.Leaves.extend {p : Parsed ts α} {r r' : List Terminal} {h : r.length ≤ p.rest.length}
    {q : Parsed r β} (hp : p.errors = []) (hq : q.Leaves r') : (p.extend h q).Leaves r' :=
  ⟨by simp [hp, hq.1], hq.2⟩


/-- The parse reported nothing, left exactly `rest`, and built `v`. -/
def Parsed.Gives (p : Parsed ts α) (v : α) (rest : List Terminal) : Prop :=
  p.Leaves rest ∧ p.value = v

namespace Parsed.Gives

theorem done (v : α) : (Parsed.done ts v).Gives v ts := ⟨.done v, rfl⟩

theorem map {p : Parsed ts α} {v : α} {r : List Terminal} (h : p.Gives v r) (f : α → β) :
    (p.map f).Gives (f v) r :=
  ⟨h.1.map f, by rw [map_value, h.2]⟩

theorem after (t : Terminal) {r rest : List Terminal} {q : Parsed r α} {v : α}
    (h : q.Gives v rest) : (q.after t).Gives v rest :=
  ⟨h.1.after t, h.2⟩

/-- The second parse is given the value the first built. -/
theorem andThen {p : Parsed ts α} {q : α → (r : List Terminal) → Parsed r β} {v : α} {v' : β}
    {r r' : List Terminal} (hp : p.Gives v r) (hq : (q v r).Gives v' r') :
    (p.andThen q).Gives v' r' := by
  obtain ⟨hl, rfl⟩ := hp
  refine ⟨hl.andThen_value hq.1, ?_⟩
  rw [Parsed.andThen_value, hl.2]
  exact hq.2

theorem extend {p : Parsed ts α} {r r' : List Terminal} {h : r.length ≤ p.rest.length}
    {q : Parsed r β} {v : β} (hp : p.errors = []) (hq : q.Gives v r') :
    (p.extend h q).Gives v r' :=
  ⟨.extend hp hq.1, hq.2⟩

end Parsed.Gives

theorem gives_expect {k : TokenKind} {t : Terminal} (ht : t.kind? = some k) (r : List Terminal) :
    (expect k (t :: r)).Gives (some t) r := by
  rw [expect_of_kind r (Terminal.hasKind_iff.2 ht)]
  exact ⟨⟨rfl, rfl⟩, rfl⟩
/-! ### What may follow -/

namespace StopsAt

variable {p q : TokenKind → Bool}

theorem mono {rest : List Terminal} (h : StopsAt q rest) (hpq : ∀ k, p k = true → q k = true) :
    StopsAt p rest := by
  intro k hk
  have := h k hk
  cases hp : p k
  · rfl
  · simp [hpq k hp] at this

theorem nil (hp : p .eof = false) : StopsAt p [] := by
  intro k hk
  simp only [current_nil, Terminal.kind?_endMarker, Option.some.injEq] at hk
  exact hk ▸ hp

theorem cons {t : Terminal} {k : TokenKind} (ht : t.kind? = some k) (r : List Terminal)
    (hk : p k = false) : StopsAt p (t :: r) := by
  intro k' hk'
  rw [current_cons, ht, Option.some.injEq] at hk'
  exact hk' ▸ hk

/-- A word that begins with no kind of `p`, followed by terminals that begin with none. -/
theorem append {w rest : List Terminal} {u : List TokenKind} (hs : Spells w u)
    (hu : ∀ k ∈ u.head?, p k = false) (hr : StopsAt p rest) : StopsAt p (w ++ rest) := by
  cases w with
  | nil => exact hr
  | cons t w =>
    obtain ⟨k, u', rfl, ht, -⟩ := hs.kind?_head
    exact cons ht _ (hu k rfl)

theorem hasKind {t : Terminal} {r : List Terminal} {k : TokenKind} (h : StopsAt p (t :: r))
    (hk : p k = true) : t.hasKind k = false := by
  cases ht : t.kind? with
  | none => simp [Terminal.hasKind, ht]
  | some k' =>
    rw [Terminal.hasKind_of_kind? ht]
    have := h k' (by simpa using ht)
    cases hkk : (k' == k)
    · rfl
    · simp only [beq_iff_eq] at hkk
      subst hkk
      simp [hk] at this

theorem kindIs {t : Terminal} {r : List Terminal} {q : TokenKind → Bool} (h : StopsAt p (t :: r))
    (hqp : ∀ k, q k = true → p k = true) : t.kindIs q = false := by
  cases ht : t.kind? with
  | none => simp [Terminal.kindIs, ht]
  | some k =>
    rw [Terminal.kindIs_of_kind? ht]
    have := h k (by simpa using ht)
    cases hq : q k
    · rfl
    · simp [hqp k hq] at this

end StopsAt

end Parser

/-! ### What a word begins with -/

namespace Grammar

theorem Factor.exists_cons {u : List TokenKind} (h : Factor u) :
    ∃ k v, u = k :: v ∧ k.startsOperand := by
  cases h with
  | paren _ => exact ⟨_, _, rfl, by decide⟩
  | column => exact ⟨_, _, rfl, by decide⟩
  | literal hk => exact ⟨_, _, rfl, by simp [TokenKind.startsOperand, hk]⟩

theorem Term.exists_cons {u : List TokenKind} (h : Term u) :
    ∃ k v, u = k :: v ∧ k.startsOperand := by
  obtain ⟨hf, _⟩ := h
  obtain ⟨k, v, rfl, hk⟩ := hf.exists_cons
  exact ⟨k, _, rfl, hk⟩

theorem Expr.exists_cons {u : List TokenKind} (h : Expr u) :
    ∃ k v, u = k :: v ∧ k.startsOperand := by
  obtain ⟨ht, _⟩ := h
  obtain ⟨k, v, rfl, hk⟩ := ht.exists_cons
  exact ⟨k, _, rfl, hk⟩

theorem Cmp.exists_cons {u : List TokenKind} (h : Cmp u) :
    ∃ k v, u = k :: v ∧ k.startsOperand := by
  cases h with
  | single he => exact he.exists_cons
  | compare he _ _ =>
    obtain ⟨k, v, rfl, hk⟩ := he.exists_cons
    exact ⟨k, _, rfl, hk⟩

theorem ColDefs.exists_cons {u : List TokenKind} (h : ColDefs u) :
    ∃ u', u = .identifier :: u' := by
  cases h with
  | last hc => cases hc <;> exact ⟨_, rfl⟩
  | cons hc _ => cases hc <;> exact ⟨_, rfl⟩

theorem Summands.head {u : List TokenKind} (h : Summands u) : ∀ k ∈ u.head?, k.isAdditive := by
  cases h with
  | nil => simp
  | cons hk _ _ => simpa using hk

theorem Conjuncts.head {u : List TokenKind} (h : Conjuncts u) : ∀ k ∈ u.head?, k = .and := by
  cases h with
  | nil => simp
  | cons _ _ => simp

theorem Disjuncts.head {u : List TokenKind} (h : Disjuncts u) : ∀ k ∈ u.head?, k = .or := by
  cases h with
  | nil => simp
  | cons _ _ => simp

theorem Filter.head {u : List TokenKind} (h : Filter u) : ∀ k ∈ u.head?, k = .where := by
  cases h with
  | none => simp
  | some _ => simp

theorem Stmt.exists_cons {u : List TokenKind} (h : Stmt u) :
    ∃ k v, u = k :: v ∧ k.startsStatement := by
  cases h <;> exact ⟨_, _, rfl, rfl⟩

theorem Program.head {u : List TokenKind} (h : Program u) : ∀ k ∈ u.head?, k.startsStatement := by
  cases h with
  | nil => simp
  | stmt hs _ | stmtSemicolon hs _ =>
    obtain ⟨k, v, rfl, hk⟩ := hs.exists_cons
    simpa using hk

end Grammar

namespace Parser

/-! ### The ends of the chains -/

theorem gives_disjunctionTail_of_stopsAt {rest : List Terminal}
    (hr : StopsAt TokenKind.continuesCond rest) (acc : Cond) :
    (disjunctionTail acc rest).Gives acc rest := by
  cases rest with
  | nil => rw [disjunctionTail_nil]; exact .done _
  | cons t r =>
    rw [disjunctionTail_cons, if_neg (by simp [hr.hasKind (k := .or) (by decide)])]
    exact .done _

theorem gives_conjunctionTail_of_stopsAt {rest : List Terminal}
    (hr : StopsAt TokenKind.continuesConj rest) (acc : Cond) :
    (conjunctionTail acc rest).Gives acc rest := by
  cases rest with
  | nil => rw [conjunctionTail_nil]; exact .done _
  | cons t r =>
    rw [conjunctionTail_cons, if_neg (by simp [hr.hasKind (k := .and) (by decide)])]
    exact .done _

theorem gives_comparisonRest_of_stopsAt {rest : List Terminal}
    (hr : StopsAt TokenKind.continuesCmp rest) (l : Cond) :
    (comparisonRest l rest).Gives l rest := by
  cases rest with
  | nil => exact .done _
  | cons t r =>
    have : t.kindIs TokenKind.isComparison = false :=
      hr.kindIs fun k hk => by simp [TokenKind.continuesCmp, hk]
    simp only [comparisonRest, this, Bool.false_eq_true, if_false]
    exact .done _

theorem gives_expressionTail_of_stopsAt {rest : List Terminal}
    (hr : StopsAt TokenKind.continuesExpr rest) (acc : Cond) :
    (expressionTail acc rest).Gives acc rest := by
  cases rest with
  | nil => rw [expressionTail_nil]; exact .done _
  | cons t r =>
    have : t.kindIs TokenKind.isAdditive = false :=
      hr.kindIs fun k hk => by simp [TokenKind.continuesExpr, hk]
    rw [expressionTail_cons, this]
    exact .done _

theorem gives_termTail_of_stopsAt {rest : List Terminal}
    (hr : StopsAt TokenKind.continuesTerm rest) (acc : Cond) :
    (termTail acc rest).Gives acc rest := by
  cases rest with
  | nil => rw [termTail_nil]; exact .done _
  | cons t r =>
    have : t.kindIs TokenKind.isMultiplicative = false :=
      hr.kindIs fun k hk => by simp [TokenKind.continuesTerm, hk]
    rw [termTail_cons, this]
    exact .done _
/-- A word that begins with an operator of a looser level does not continue a tighter one. -/
theorem stopsAt_of_head {p q : TokenKind → Bool} {u : List TokenKind} {w rest : List Terminal}
    (hs : Spells w u) (hu : ∀ k ∈ u.head?, p k = false) (hr : StopsAt q rest)
    (hpq : ∀ k, p k = true → q k = true) : StopsAt p (w ++ rest) :=
  StopsAt.append hs hu (hr.mono hpq)

end Parser

/-! ### What a derivation begins with, and what may follow it -/

namespace Derivation

theorem Disjuncts.stopsAt {w rest : List Terminal} {ps : List (Terminal × SqlFront.Cond)}
    (h : Disjuncts w ps) (hr : Parser.StopsAt TokenKind.continuesCond rest) :
    Parser.StopsAt TokenKind.continuesConj (w ++ rest) := by
  obtain ⟨u, hs, hu⟩ := h.spells
  exact Parser.stopsAt_of_head hs (fun k hk => by rw [hu.head k hk]; decide) hr
    fun k hk => by simp [TokenKind.continuesCond, hk]

theorem Conjuncts.stopsAt {w rest : List Terminal} {ps : List (Terminal × SqlFront.Cond)}
    (h : Conjuncts w ps) (hr : Parser.StopsAt TokenKind.continuesConj rest) :
    Parser.StopsAt TokenKind.continuesCmp (w ++ rest) := by
  obtain ⟨u, hs, hu⟩ := h.spells
  exact Parser.stopsAt_of_head hs (fun k hk => by rw [hu.head k hk]; decide) hr
    fun k hk => by simp [TokenKind.continuesConj, hk]

theorem Summands.stopsAt {w rest : List Terminal} {ps : List (Terminal × SqlFront.Cond)}
    (h : Summands w ps) (hr : Parser.StopsAt TokenKind.continuesExpr rest) :
    Parser.StopsAt TokenKind.continuesTerm (w ++ rest) := by
  obtain ⟨u, hs, hu⟩ := h.spells
  exact Parser.stopsAt_of_head hs
    (fun k hk => TokenKind.continuesTerm_of_isAdditive (hu.head k hk)) hr
    fun k hk => by simp [TokenKind.continuesExpr, hk]

/-- A comparison begins with an operand, so with no `NOT`. -/
theorem Cmp.exists_cons {w : List Terminal} {c : SqlFront.Cond} (h : Cmp w c) :
    ∃ t w' k, w = t :: w' ∧ t.kind? = some k ∧ k.startsOperand := by
  obtain ⟨u, hs, hu⟩ := h.spells
  obtain ⟨k, v, rfl, hk⟩ := hu.exists_cons
  obtain ⟨t, w', rfl, ht, -⟩ := hs.cons_right
  exact ⟨t, w', k, rfl, ht, hk⟩

theorem ColDefs.exists_cons {w : List Terminal} {cs : List (Datum × Datum)} (h : ColDefs w cs) :
    ∃ t w', w = t :: w' ∧ t.kind? = some .identifier := by
  obtain ⟨u, hs, hu⟩ := h.spells
  obtain ⟨u', rfl⟩ := hu.exists_cons
  obtain ⟨t, w', rfl, ht, -⟩ := hs.cons_right
  exact ⟨t, w', rfl, ht⟩

theorem Values.exists_cons {w : List Terminal} {vs : List Datum} (h : Values w vs) :
    ∃ t w' k, w = t :: w' ∧ t.kind? = some k ∧ k.isValue := by
  cases h with
  | last ht hk | cons ht hk _ _ => exact ⟨_, _, _, rfl, ht, hk⟩

/-- A statement begins with its keyword. -/
theorem Stmt.exists_cons {w : List Terminal} {s : SqlFront.Stmt} (h : Stmt w s) :
    ∃ t w' k, w = t :: w' ∧ t.kind? = some k ∧ k.startsStatement := by
  obtain ⟨u, hs, hu⟩ := h.spells
  obtain ⟨k, v, rfl, hk⟩ := hu.exists_cons
  obtain ⟨t, w', rfl, ht, -⟩ := hs.cons_right
  exact ⟨t, w', k, rfl, ht, hk⟩
end Derivation

/-! ### Conditions -/

namespace Parser

mutual

theorem gives_disjunction {w : List Terminal} {c : Cond} (h : Derivation.Cond w c)
    {rest : List Terminal} (hr : StopsAt TokenKind.continuesCond rest) :
    (disjunction (w ++ rest)).Gives c rest := by
  match h with
  | .mk hc hd =>
    rw [List.append_assoc, disjunction_eq]
    exact (gives_conjunction hc (hd.stopsAt hr)).andThen (gives_disjunctionTail hd hr _)
termination_by structural h

/-- The accumulator holds the disjunction so far; the tail nests the rest onto it. -/
theorem gives_disjunctionTail {w : List Terminal} {ps : List (Terminal × Cond)}
    (h : Derivation.Disjuncts w ps) {rest : List Terminal}
    (hr : StopsAt TokenKind.continuesCond rest) (acc : Cond) :
    (disjunctionTail acc (w ++ rest)).Gives (acc.chain ps) rest := by
  match h with
  | .nil => exact gives_disjunctionTail_of_stopsAt hr acc
  | .cons ht hc hd =>
    rw [List.append_assoc, List.cons_append, disjunctionTail_cons,
      if_pos (Terminal.hasKind_iff.2 ht)]
    exact ((gives_conjunction hc (hd.stopsAt hr)).andThen
      (gives_disjunctionTail hd hr (.binary _ acc _ _))).after _
termination_by structural h

theorem gives_conjunction {w : List Terminal} {c : Cond} (h : Derivation.Conj w c)
    {rest : List Terminal} (hr : StopsAt TokenKind.continuesConj rest) :
    (conjunction (w ++ rest)).Gives c rest := by
  match h with
  | .mk hn hc =>
    rw [List.append_assoc, conjunction_eq]
    exact (gives_negation hn (hc.stopsAt hr)).andThen (gives_conjunctionTail hc hr _)
termination_by structural h

theorem gives_conjunctionTail {w : List Terminal} {ps : List (Terminal × Cond)}
    (h : Derivation.Conjuncts w ps) {rest : List Terminal}
    (hr : StopsAt TokenKind.continuesConj rest) (acc : Cond) :
    (conjunctionTail acc (w ++ rest)).Gives (acc.chain ps) rest := by
  match h with
  | .nil => exact gives_conjunctionTail_of_stopsAt hr acc
  | .cons ht hn hc =>
    rw [List.append_assoc, List.cons_append, conjunctionTail_cons,
      if_pos (Terminal.hasKind_iff.2 ht)]
    exact ((gives_negation hn (hc.stopsAt hr)).andThen
      (gives_conjunctionTail hc hr (.binary _ acc _ _))).after _
termination_by structural h

theorem gives_negation {w : List Terminal} {c : Cond} (h : Derivation.Neg w c)
    {rest : List Terminal} (hr : StopsAt TokenKind.continuesCmp rest) :
    (negation (w ++ rest)).Gives c rest := by
  match h with
  | .not ht hc =>
    rw [List.cons_append, negation_cons, if_pos (Terminal.hasKind_iff.2 ht)]
    exact ((gives_comparison hc hr).map _).after _
  | .cmp hc =>
    -- the comparison is not taken apart here: its first terminal is only read, so that the
    -- recursive call stays on `hc` itself
    obtain ⟨t, w', k, hw, ht, hk⟩ := hc.exists_cons
    have hnot : t.hasKind .not = false := by
      rw [Terminal.hasKind_of_kind? ht]
      simpa using TokenKind.ne_not_of_startsOperand hk
    rw [hw, List.cons_append, negation_cons, if_neg (by simp [hnot]), ← List.cons_append, ← hw]
    exact gives_comparison hc hr
termination_by structural h

theorem gives_comparison {w : List Terminal} {c : Cond} (h : Derivation.Cmp w c)
    {rest : List Terminal} (hr : StopsAt TokenKind.continuesCmp rest) :
    (comparison (w ++ rest)).Gives c rest := by
  match h with
  | .single he =>
    rw [comparison_eq]
    exact (gives_expression he (hr.mono fun k hk => by simp [TokenKind.continuesCmp, hk])).andThen
      (gives_comparisonRest_of_stopsAt hr _)
  | .compare he ht hk he' =>
    rw [List.append_assoc, List.cons_append, comparison_eq]
    refine (gives_expression he
      (StopsAt.cons ht _ (TokenKind.continuesExpr_of_isComparison hk))).andThen ?_
    rw [comparisonRest, Terminal.kindIs_of_kind? ht, hk, if_pos rfl]
    exact ((gives_expression he' (hr.mono fun k hk => by simp [TokenKind.continuesCmp, hk])).map
      _).after _
termination_by structural h

theorem gives_expression {w : List Terminal} {c : Cond} (h : Derivation.Expr w c)
    {rest : List Terminal} (hr : StopsAt TokenKind.continuesExpr rest) :
    (expression (w ++ rest)).Gives c rest := by
  match h with
  | .mk ht hs =>
    rw [List.append_assoc, expression_eq]
    exact (gives_term ht (hs.stopsAt hr)).andThen (gives_expressionTail hs hr _)
termination_by structural h

theorem gives_expressionTail {w : List Terminal} {ps : List (Terminal × Cond)}
    (h : Derivation.Summands w ps) {rest : List Terminal}
    (hr : StopsAt TokenKind.continuesExpr rest) (acc : Cond) :
    (expressionTail acc (w ++ rest)).Gives (acc.chain ps) rest := by
  match h with
  | .nil => exact gives_expressionTail_of_stopsAt hr acc
  | .cons ht hk htm hs =>
    rw [List.append_assoc, List.cons_append, expressionTail_cons, Terminal.kindIs_of_kind? ht,
      hk, if_pos rfl]
    exact ((gives_term htm (hs.stopsAt hr)).andThen
      (gives_expressionTail hs hr (.binary _ acc _ _))).after _
termination_by structural h

theorem gives_term {w : List Terminal} {c : Cond} (h : Derivation.Term w c)
    {rest : List Terminal} (hr : StopsAt TokenKind.continuesTerm rest) :
    (term (w ++ rest)).Gives c rest := by
  match h with
  | .mk hf hfs =>
    rw [List.append_assoc, term_eq]
    exact (gives_factor hf _).andThen (gives_termTail hfs hr _)
termination_by structural h

theorem gives_termTail {w : List Terminal} {ps : List (Terminal × Cond)}
    (h : Derivation.Factors w ps) {rest : List Terminal}
    (hr : StopsAt TokenKind.continuesTerm rest) (acc : Cond) :
    (termTail acc (w ++ rest)).Gives (acc.chain ps) rest := by
  match h with
  | .nil => exact gives_termTail_of_stopsAt hr acc
  | .cons ht hk hf hfs =>
    rw [List.append_assoc, List.cons_append, termTail_cons, Terminal.kindIs_of_kind? ht, hk,
      if_pos rfl]
    exact ((gives_factor hf _).andThen (gives_termTail hfs hr (.binary _ acc _ _))).after _
termination_by structural h

/-- A factor is read to its end whatever follows it; a parenthesised condition is the
condition. -/
theorem gives_factor {w : List Terminal} {c : Cond} (h : Derivation.Factor w c)
    (rest : List Terminal) : (factor (w ++ rest)).Gives c rest := by
  match h with
  | .paren ht hc ht' =>
    rw [List.append_assoc, List.cons_append, List.singleton_append, factor_cons,
      if_pos (Terminal.hasKind_iff.2 ht)]
    exact ((gives_disjunction hc (StopsAt.cons ht' rest (by decide))).andThen
      ((gives_expect ht' rest).map _)).after _
  | .column ht =>
    rw [List.singleton_append, factor_cons, Terminal.hasKind_of_kind? ht,
      Terminal.hasKind_of_kind? ht]
    exact (Parsed.Gives.done _).after _
  | @Derivation.Factor.literal t k ht hk =>
    have h₁ : (k == .leftParen) = false := by simpa using TokenKind.ne_leftParen_of_isLiteral hk
    have h₂ : (k == .identifier) = false := by simpa using TokenKind.ne_identifier_of_isLiteral hk
    rw [List.singleton_append, factor_cons, Terminal.hasKind_of_kind? ht,
      Terminal.hasKind_of_kind? ht, h₁, h₂, Terminal.kindIs_of_kind? ht, hk]
    exact (Parsed.Gives.done _).after _
termination_by structural h

end

/-! ### Clauses and lists -/

/-- The terminals `rest` begin where a statement may end: at a semicolon, at the keyword of a
statement, or at the end. -/
def AtBoundary (rest : List Terminal) : Prop := (current rest).kindIs TokenKind.synchronizes

theorem AtBoundary.stopsAt {p : TokenKind → Bool} {rest : List Terminal} (h : AtBoundary rest)
    (hp : ∀ k, k.synchronizes = true → p k = false) : StopsAt p rest := by
  obtain ⟨k, hk, hs⟩ := Terminal.kindIs_iff.1 h
  intro k' hk'
  rw [hk, Option.some.injEq] at hk'
  exact hk' ▸ hp k hs

theorem AtBoundary.stopsAt_continuesCond {rest : List Terminal} (h : AtBoundary rest) :
    StopsAt TokenKind.continuesCond rest :=
  h.stopsAt fun k hk => by
    cases k <;> simp_all [TokenKind.synchronizes, TokenKind.startsStatement,
      TokenKind.continuesCond, TokenKind.continuesConj, TokenKind.continuesCmp,
      TokenKind.continuesExpr, TokenKind.continuesTerm, TokenKind.isComparison,
      TokenKind.isAdditive, TokenKind.isMultiplicative]

theorem AtBoundary.stopsAt_beq {rest : List Terminal} (h : AtBoundary rest) {c : TokenKind}
    (hc : c.synchronizes = false) : StopsAt (· == c) rest :=
  h.stopsAt fun k hk => by
    cases hkc : (k == c)
    · rfl
    · simp only [beq_iff_eq] at hkc
      subst hkc
      simp [hk] at hc
theorem gives_filter {w : List Terminal} {f : Option Cond} (h : Derivation.Filter w f)
    {rest : List Terminal} (hr : AtBoundary rest) : (filter (w ++ rest)).Gives f rest := by
  cases h with
  | none =>
    rw [List.nil_append]
    cases rest with
    | nil => exact .done _
    | cons t r =>
      have hw : t.hasKind .where = false :=
        (hr.stopsAt_beq (c := .where) rfl).hasKind (k := .where) (by simp)
      rw [filter_cons, if_neg (by simp [hw])]
      exact .done _
  | some ht hc =>
    rw [List.cons_append, filter_cons, if_pos (Terminal.hasKind_iff.2 ht)]
    exact ((gives_disjunction hc hr.stopsAt_continuesCond).map _).after _

theorem gives_columnDef {w : List Terminal} {c : Datum × Datum} (h : Derivation.ColDef w c)
    (rest : List Terminal) : (columnDef (w ++ rest)).Gives c rest := by
  unfold columnDef
  cases h with
  | typed ht₁ ht₂ hk =>
    rw [List.cons_append, List.cons_append, List.nil_append]
    refine (gives_expect ht₁ _).andThen ?_
    dsimp only
    rw [Terminal.kindIs_of_kind? ht₂, hk, if_pos rfl]
    exact ⟨⟨rfl, rfl⟩, rfl⟩
  | named ht₁ ht₂ =>
    rw [List.cons_append, List.cons_append, List.nil_append]
    refine (gives_expect ht₁ _).andThen ?_
    dsimp only
    rw [Terminal.kindIs_of_kind? ht₂, if_neg (by decide)]
    exact (gives_expect ht₂ _).map _

/-- After a list that cannot go on, `accept` of its separator finds nothing. -/
theorem accept_of_stopsAt {k : TokenKind} {rest : List Terminal} (hr : StopsAt (· == k) rest) :
    accept k rest = none := by
  cases rest with
  | nil => rfl
  | cons t r =>
    simp only [accept, hr.hasKind (k := k) (by simp), Bool.false_eq_true, if_false]

theorem accept_rest_of_stopsAt {p : Parsed ts α} {k : TokenKind} {rest : List Terminal}
    (hp : p.Leaves rest) (hr : StopsAt (· == k) rest) : accept k p.rest = none := by
  rw [hp.2]
  exact accept_of_stopsAt hr

/-- After a parse that stops before a separator, `accept` takes the separator. -/
theorem accept_rest_of_leaves {p : Parsed ts α} {k : TokenKind} {t : Terminal} {r : List Terminal}
    (hp : p.Leaves (t :: r)) (ht : t.kind? = some k) :
    ∃ h, accept k p.rest = some ⟨r, h⟩ := by
  have hrest := hp.2
  generalize p.rest = pr at hrest ⊢
  subst hrest
  exact ⟨by simp, accept_of_kind r (Terminal.hasKind_iff.2 ht)⟩
/-- The accumulator holds the definitions read so far. -/
theorem gives_columnDefsFrom {w : List Terminal} {cs : List (Datum × Datum)}
    (h : Derivation.ColDefs w cs) {rest : List Terminal} (hr : StopsAt (· == .comma) rest)
    (acc : Array (Datum × Datum)) :
    (columnDefsFrom acc (w ++ rest)).Gives (acc.toList ++ cs) rest := by
  induction h generalizing acc with
  | last hc =>
    have hc' := gives_columnDef hc rest
    rw [columnDefsFrom, accept_rest_of_stopsAt hc'.1 hr, ← Array.toList_push]
    exact hc'.map fun v => (acc.push v).toList
  | @cons w v t c cs hc ht _ ih =>
    rw [List.append_assoc, List.cons_append]
    have hc' := gives_columnDef hc (t :: (v ++ rest))
    obtain ⟨hlt, hacc⟩ := accept_rest_of_leaves hc'.1 ht
    rw [columnDefsFrom, hacc]
    refine Parsed.Gives.extend hc'.1.1 ?_
    rw [hc'.2, show acc.toList ++ c :: cs = (acc.push c).toList ++ cs by simp]
    exact ih _

theorem gives_columnDefs {w : List Terminal} {cs : List (Datum × Datum)}
    (h : Derivation.ColDefs w cs) {rest : List Terminal} (hr : StopsAt (· == .comma) rest) :
    (columnDefs (w ++ rest)).Gives cs rest := by
  obtain ⟨t, w', hw, ht⟩ := h.exists_cons
  unfold columnDefs
  rw [if_pos (by rw [hw, List.cons_append, current_cons, Terminal.hasKind_iff, ht])]
  exact gives_columnDefsFrom h hr #[]

theorem gives_valuesFrom {w : List Terminal} {vs : List Datum} (h : Derivation.Values w vs)
    {rest : List Terminal} (hr : StopsAt (· == .comma) rest) (acc : Array Datum) :
    (valuesFrom acc (w ++ rest)).Gives (acc.toList ++ vs) rest := by
  induction h generalizing acc with
  | last ht hk =>
    rw [List.singleton_append, valuesFrom, if_pos (by rw [Terminal.kindIs_of_kind? ht, hk]),
      accept_of_stopsAt hr, ← Array.toList_push]
    exact ⟨⟨rfl, rfl⟩, rfl⟩
  | @cons t c k v vs ht hk hc _ ih =>
    rw [List.cons_append, List.cons_append, valuesFrom,
      if_pos (by rw [Terminal.kindIs_of_kind? ht, hk]),
      accept_of_kind _ (Terminal.hasKind_iff.2 hc),
      show acc.toList ++ t.lexeme :: vs = (acc.push t.lexeme).toList ++ vs by simp]
    exact ih _

theorem gives_valueList {w : List Terminal} {vs : List Datum} (h : Derivation.Values w vs)
    {rest : List Terminal} (hr : StopsAt (· == .comma) rest) :
    (valueList (w ++ rest)).Gives vs rest := by
  obtain ⟨t, w', k, hw, ht, hk⟩ := h.exists_cons
  unfold valueList
  rw [if_pos (by rw [hw, List.cons_append, current_cons, Terminal.kindIs_of_kind? ht, hk])]
  exact gives_valuesFrom h hr #[]

theorem gives_selectItemsFrom {w : List Terminal} {ns : List Datum}
    (h : Derivation.MoreNames w ns) {rest : List Terminal} (hr : StopsAt (· == .comma) rest)
    (acc : Array Datum) : (selectItemsFrom acc (w ++ rest)).Gives (acc.toList ++ ns) rest := by
  induction h generalizing acc with
  | nil =>
    rw [List.nil_append, selectItemsFrom, accept_of_stopsAt hr, List.append_nil]
    exact .done _
  | @cons c t v ns hc ht _ ih =>
    rw [List.cons_append, List.cons_append, selectItemsFrom,
      accept_of_kind _ (Terminal.hasKind_iff.2 hc)]
    dsimp only
    rw [expect_of_kind _ (Terminal.hasKind_iff.2 ht)]
    dsimp only
    -- the loop goes on with the name pushed; its errors come after none
    have hq := ih (acc.push t.lexeme)
    rw [show acc.toList ++ t.lexeme :: ns = (acc.push t.lexeme).toList ++ ns by simp]
    revert hq
    generalize selectItemsFrom (acc.push t.lexeme) (v ++ rest) = q
    rintro ⟨⟨he, hrest⟩, hv⟩
    obtain ⟨v, e, r, hle⟩ := q
    exact ⟨⟨by simpa using he, hrest⟩, hv⟩

theorem gives_selectItems {w : List Terminal} {items : List Datum} (h : Derivation.Items w items)
    {rest : List Terminal} (hr : StopsAt (· == .comma) rest) :
    (selectItems (w ++ rest)).Gives items rest := by
  unfold selectItems
  cases h with
  | star ht =>
    rw [List.singleton_append, accept_of_kind _ (Terminal.hasKind_iff.2 ht)]
    exact ⟨⟨rfl, rfl⟩, rfl⟩
  | @names t v ns ht hm =>
    have hstar : accept .multiply (t :: (v ++ rest)) = none := by
      simp [accept, Terminal.hasKind_of_kind? ht]
    rw [List.cons_append, hstar]
    exact (gives_expect ht _).andThen (gives_selectItemsFrom hm hr _)

theorem gives_assignment {t₁ t₂ t₃ : Terminal} {k : TokenKind} (ht₁ : t₁.kind? = some .identifier)
    (ht₂ : t₂.kind? = some .equal) (ht₃ : t₃.kind? = some k) (hk : k.isValue)
    (rest : List Terminal) :
    (assignment (t₁ :: t₂ :: t₃ :: rest)).Gives (some (t₁.lexeme, t₃.lexeme)) rest := by
  unfold assignment
  refine (gives_expect ht₁ _).andThen ((gives_expect ht₂ _).andThen ?_)
  dsimp only
  rw [if_pos (by rw [Terminal.kindIs_of_kind? ht₃, hk])]
  exact ⟨⟨rfl, rfl⟩, rfl⟩

theorem gives_assignmentsFrom {w : List Terminal} {as : List (Datum × Datum)}
    (h : Derivation.Assignments w as) {rest : List Terminal} (hr : StopsAt (· == .comma) rest)
    (acc : Array (Datum × Datum)) :
    (assignmentsFrom acc (w ++ rest)).Gives (acc.toList ++ as) rest := by
  induction h generalizing acc with
  | @last t₁ t₂ t₃ k ht₁ ht₂ ht₃ hk =>
    have ha := gives_assignment ht₁ ht₂ ht₃ hk rest
    rw [show [t₁, t₂, t₃] ++ rest = t₁ :: t₂ :: t₃ :: rest from rfl, assignmentsFrom,
      accept_rest_of_stopsAt ha.1 hr]
    dsimp only
    rw [ha.2, ← Array.toList_push]
    exact ha.map _
  | @cons t₁ t₂ t₃ c k v as ht₁ ht₂ ht₃ hk hc _ ih =>
    have ha := gives_assignment ht₁ ht₂ ht₃ hk (c :: (v ++ rest))
    obtain ⟨hlt, hacc⟩ := accept_rest_of_leaves ha.1 hc
    rw [show t₁ :: t₂ :: t₃ :: c :: v ++ rest = t₁ :: t₂ :: t₃ :: c :: (v ++ rest) from rfl,
      assignmentsFrom, hacc]
    refine Parsed.Gives.extend ha.1.1 ?_
    dsimp only
    rw [ha.2, show acc.toList ++ (t₁.lexeme, t₃.lexeme) :: as =
      (acc.push (t₁.lexeme, t₃.lexeme)).toList ++ as by simp]
    exact ih _

/-! ### Statements -/

/-- What follows a statement's optional filter: the filter, when there is one, begins with
`WHERE`, which no list goes on at. -/
theorem stopsAt_comma_of_filter {v : List TokenKind} (h : Grammar.Filter v) {w rest : List Terminal}
    (hs : Spells w v) (hr : AtBoundary rest) : StopsAt (· == .comma) (w ++ rest) :=
  StopsAt.append hs (fun k hk => by rw [h.head k hk]; rfl) (hr.stopsAt_beq rfl)

/-- A statement is read, from its keyword, as the statement its derivation builds. -/
theorem gives_statement {w : List Terminal} {s : Stmt} (h : Derivation.Stmt w s)
    {rest : List Terminal} (hr : AtBoundary rest) :
    (statement (w ++ rest)).Gives (some s) rest := by
  cases h with
  | create hkw ht₁ ht₂ ht₃ hc ht₄ =>
    rw [List.append_assoc, List.singleton_append, List.cons_append, List.cons_append,
      List.cons_append, List.cons_append, statement_of_create _ hkw]
    unfold create
    exact ((gives_expect hkw _).andThen <| (gives_expect ht₁ _).andThen <|
      (gives_expect ht₂ _).andThen <| (gives_expect ht₃ _).andThen <|
      (gives_columnDefs hc (StopsAt.cons ht₄ _ rfl)).andThen <| (gives_expect ht₄ _).map _).map
      some
  | insert hkw ht₁ ht₂ ht₃ ht₄ hv ht₅ =>
    rw [List.append_assoc, List.singleton_append, List.cons_append, List.cons_append,
      List.cons_append, List.cons_append, List.cons_append, statement_of_insert _ hkw]
    unfold insert
    exact (((gives_expect ht₁ _).andThen <| (gives_expect ht₂ _).andThen <|
      (gives_expect ht₃ _).andThen <| (gives_expect ht₄ _).andThen <|
      (gives_valueList hv (StopsAt.cons ht₅ _ rfl)).andThen <| (gives_expect ht₅ _).map _).map
      some).after _
  | select hkw hi ht₁ ht₂ hf =>
    rw [List.append_assoc, List.cons_append, List.cons_append, List.cons_append,
      statement_of_select _ hkw]
    unfold select
    exact (((gives_selectItems hi (StopsAt.cons ht₁ _ rfl)).andThen <|
      (gives_expect ht₁ _).andThen <| (gives_expect ht₂ _).andThen <|
      (gives_filter hf hr).map _).map some).after _
  | update hkw ht₁ ht₂ ha hf =>
    obtain ⟨u, hs, hu⟩ := hf.spells
    rw [List.append_assoc, List.cons_append, List.cons_append, List.cons_append,
      statement_of_update _ hkw]
    unfold update
    exact (((gives_expect ht₁ _).andThen <| (gives_expect ht₂ _).andThen <|
      (gives_assignmentsFrom ha (stopsAt_comma_of_filter hu hs hr) #[]).andThen <|
      (gives_filter hf hr).map _).map some).after _
  | delete hkw ht₁ ht₂ hf =>
    rw [List.cons_append, List.cons_append, List.cons_append, statement_of_delete _ hkw]
    unfold delete
    exact (((gives_expect ht₁ _).andThen <| (gives_expect ht₂ _).andThen <|
      (gives_filter hf hr).map _).map some).after _

/-! ### Programs -/

/-- What follows a statement in a program: the rest of the program begins with a keyword, or
is empty. -/
theorem atBoundary_of_program {v : List TokenKind} (h : Grammar.Program v) {w : List Terminal}
    (hs : Spells w v) : AtBoundary w := by
  cases w with
  | nil => rfl
  | cons t w =>
    obtain ⟨k, v', rfl, ht, -⟩ := hs.kind?_head
    have hk := h.head k rfl
    unfold AtBoundary
    rw [current_cons, Terminal.kindIs_of_kind? ht]
    simp [TokenKind.synchronizes, hk]

/-- A keyword of a statement is neither a semicolon nor the end. -/
theorem hasKind_of_startsStatement {t : Terminal} {k c : TokenKind} (ht : t.kind? = some k)
    (hk : k.startsStatement) (hc : c.startsStatement = false) : t.hasKind c = false := by
  rw [Terminal.hasKind_of_kind? ht]
  cases hkc : (k == c)
  · rfl
  · rw [beq_iff_eq] at hkc
    rw [hkc, hc] at hk
    cases hk

theorem leaves_terminator_of_program {v : List TokenKind} (h : Grammar.Program v)
    {w : List Terminal} (hs : Spells w v) : (terminator w).Leaves w := by
  cases w with
  | nil => exact .done _
  | cons t w =>
    obtain ⟨k, v', rfl, ht, -⟩ := hs.kind?_head
    have hk := h.head k rfl
    rw [terminator_of_boundary _ (hasKind_of_startsStatement ht hk rfl)
      (by simp [Terminal.kindIs_of_kind? ht, hk])]
    exact .done _

/-- The statement loop, with fuel for each terminal and one more, reads a program to its end
and returns its statements after those in `acc`. -/
theorem gives_programFrom {w : List Terminal} {p : Program} (h : Derivation.Program w p)
    {n : Nat} (hn : w.length < n) (acc : Array Stmt) :
    (programFrom n acc w).Gives (acc.toList ++ p) [] := by
  induction h generalizing n acc with
  | nil =>
    obtain ⟨m, rfl⟩ : ∃ m, n = m + 1 := Nat.exists_eq_add_one.2 (by omega)
    rw [programFrom_succ, if_pos (by decide), List.append_nil]
    exact .done _
  | @stmt w v s p hs hp ih =>
    obtain ⟨m, rfl⟩ : ∃ m, n = m + 1 := Nat.exists_eq_add_one.2 (by omega)
    obtain ⟨t, w', k, rfl, ht, hk⟩ := hs.exists_cons
    have hlen : v.length < m := by simp at hn; omega
    rw [programFrom_succ, if_neg (by simp [hasKind_of_startsStatement (c := .eof) ht hk rfl]),
      show acc.toList ++ s :: p = (pushSome acc (some s)).toList ++ p by simp [pushSome]]
    -- the next statement, or the end, is where this one stops and what its terminator leaves
    obtain ⟨u, hs', hu⟩ := hp.spells
    have hterm : (terminator v).Gives () v := ⟨leaves_terminator_of_program hu hs', rfl⟩
    exact (gives_statement hs (atBoundary_of_program hu hs')).andThen <|
      hterm.andThen (ih hlen _)
  | @stmtSemicolon w v c s p hs hc hp ih =>
    obtain ⟨m, rfl⟩ : ∃ m, n = m + 1 := Nat.exists_eq_add_one.2 (by omega)
    obtain ⟨t, w', k, rfl, ht, hk⟩ := hs.exists_cons
    have hlen : v.length < m := by simp at hn; omega
    have hsemi : AtBoundary (c :: v) := by
      unfold AtBoundary
      rw [current_cons, Terminal.kindIs_of_kind? hc]
      rfl
    rw [programFrom_succ, if_neg (by simp [hasKind_of_startsStatement (c := .eof) ht hk rfl]),
      show acc.toList ++ s :: p = (pushSome acc (some s)).toList ++ p by simp [pushSome]]
    refine (gives_statement hs hsemi).andThen ?_
    rw [terminator_of_semicolon _ (Terminal.hasKind_iff.2 hc)]
    exact ((Parsed.Gives.done ()).after c).andThen (ih hlen _)

/-- A program, with fuel for each of its terminals and one more, is read to its end with no
error. -/
theorem leaves_programFrom {u : List TokenKind} (h : Grammar.Program u) {w : List Terminal}
    (hs : Spells w u) {n : Nat} (hn : w.length < n) (acc : Array Stmt) :
    (programFrom n acc w).Leaves [] := by
  obtain ⟨p, hp⟩ := h.derivation hs
  exact (gives_programFrom hp hn acc).1

end Parser

end SqlFront
