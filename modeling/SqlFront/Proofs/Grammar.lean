import SqlFront.Syntax.Parser
/-!
# The grammar of programs

The language of the parser, as a grammar over token kinds:

```
program := (stmt [SEMICOLON])*
stmt    := CREATE TABLE IDENTIFIER LEFT_PAREN coldef (COMMA coldef)* RIGHT_PAREN
         | INSERT INTO IDENTIFIER VALUES LEFT_PAREN val (COMMA val)* RIGHT_PAREN
         | SELECT (MULTIPLY | IDENTIFIER (COMMA IDENTIFIER)*) FROM IDENTIFIER [WHERE cond]
         | UPDATE IDENTIFIER SET IDENTIFIER EQUAL val (COMMA IDENTIFIER EQUAL val)* [WHERE cond]
         | DELETE FROM IDENTIFIER [WHERE cond]
coldef  := IDENTIFIER (INT | FLOAT | TEXT | IDENTIFIER)
val     := NUMBER | FLOAT | STRING | NULL
cond    := conj (OR conj)*
conj    := neg (AND neg)*
neg     := NOT cmp | cmp
cmp     := expr [(EQUAL | NOT_EQUAL | LESS | GREATER | LESS_EQUAL | GREATER_EQUAL) expr]
expr    := term ((PLUS | MINUS) term)*
term    := factor ((MULTIPLY | DIVIDE) factor)*
factor  := LEFT_PAREN cond RIGHT_PAREN | IDENTIFIER | NUMBER | FLOAT | STRING
```

Each rule is an inductive predicate on words of kinds. A repetition `(x y)*` is a predicate of
its own, read from the left: the empty word, or one `x y` followed by more. So the rules for
`cond` are `Cond` with `Disjuncts` for `(OR conj)*`, and likewise down to `factor`; at the
level of statements `ColDefs`, `Values`, `MoreNames` and `Assignments` are the lists.

A list of terminals *spells* a word when its terminals are, one by one, of the word's kinds
(`Spells`). A terminal whose kind is no text is of no kind and spells nothing. A list of
terminals is a `Sentence` when it spells a program.
-/

namespace SqlFront

namespace Grammar

/-! ### Conditions -/

mutual

/-- `cond := conj (OR conj)*`. -/
inductive Cond : List TokenKind → Prop
  | mk {u v : List TokenKind} : Conj u → Disjuncts v → Cond (u ++ v)

/-- `(OR conj)*`. -/
inductive Disjuncts : List TokenKind → Prop
  | nil : Disjuncts []
  | cons {u v : List TokenKind} : Conj u → Disjuncts v → Disjuncts (.or :: u ++ v)

/-- `conj := neg (AND neg)*`. -/
inductive Conj : List TokenKind → Prop
  | mk {u v : List TokenKind} : Neg u → Conjuncts v → Conj (u ++ v)

/-- `(AND neg)*`. -/
inductive Conjuncts : List TokenKind → Prop
  | nil : Conjuncts []
  | cons {u v : List TokenKind} : Neg u → Conjuncts v → Conjuncts (.and :: u ++ v)

/-- `neg := NOT cmp | cmp`. -/
inductive Neg : List TokenKind → Prop
  | not {u : List TokenKind} : Cmp u → Neg (.not :: u)
  | cmp {u : List TokenKind} : Cmp u → Neg u

/-- `cmp := expr [op expr]`, with `op` a comparison. -/
inductive Cmp : List TokenKind → Prop
  | single {u : List TokenKind} : Expr u → Cmp u
  | compare {u v : List TokenKind} {k : TokenKind} :
      Expr u → k.isComparison → Expr v → Cmp (u ++ k :: v)

/-- `expr := term ((PLUS | MINUS) term)*`. -/
inductive Expr : List TokenKind → Prop
  | mk {u v : List TokenKind} : Term u → Summands v → Expr (u ++ v)

/-- `((PLUS | MINUS) term)*`. -/
inductive Summands : List TokenKind → Prop
  | nil : Summands []
  | cons {u v : List TokenKind} {k : TokenKind} :
      k.isAdditive → Term u → Summands v → Summands (k :: u ++ v)

/-- `term := factor ((MULTIPLY | DIVIDE) factor)*`. -/
inductive Term : List TokenKind → Prop
  | mk {u v : List TokenKind} : Factor u → Factors v → Term (u ++ v)

/-- `((MULTIPLY | DIVIDE) factor)*`. -/
inductive Factors : List TokenKind → Prop
  | nil : Factors []
  | cons {u v : List TokenKind} {k : TokenKind} :
      k.isMultiplicative → Factor u → Factors v → Factors (k :: u ++ v)

/-- `factor := LEFT_PAREN cond RIGHT_PAREN | IDENTIFIER | NUMBER | FLOAT | STRING`. -/
inductive Factor : List TokenKind → Prop
  | paren {u : List TokenKind} : Cond u → Factor (.leftParen :: u ++ [.rightParen])
  | column : Factor [.identifier]
  | literal {k : TokenKind} : k.isLiteral → Factor [k]

end

/-! ### Statements -/

/-- `coldef := IDENTIFIER (INT | FLOAT | TEXT | IDENTIFIER)`. -/
inductive ColDef : List TokenKind → Prop
  | typed {k : TokenKind} : k.isTypeWord → ColDef [.identifier, k]
  | named : ColDef [.identifier, .identifier]

/-- `coldef (COMMA coldef)*`. -/
inductive ColDefs : List TokenKind → Prop
  | last {u : List TokenKind} : ColDef u → ColDefs u
  | cons {u v : List TokenKind} : ColDef u → ColDefs v → ColDefs (u ++ .comma :: v)

/-- `val (COMMA val)*`, with `val := NUMBER | FLOAT | STRING | NULL`. -/
inductive Values : List TokenKind → Prop
  | last {k : TokenKind} : k.isValue → Values [k]
  | cons {k : TokenKind} {v : List TokenKind} : k.isValue → Values v → Values (k :: .comma :: v)

/-- `(COMMA IDENTIFIER)*`. -/
inductive MoreNames : List TokenKind → Prop
  | nil : MoreNames []
  | cons {v : List TokenKind} : MoreNames v → MoreNames (.comma :: .identifier :: v)

/-- `MULTIPLY | IDENTIFIER (COMMA IDENTIFIER)*`. -/
inductive Items : List TokenKind → Prop
  | star : Items [.multiply]
  | names {v : List TokenKind} : MoreNames v → Items (.identifier :: v)

/-- `IDENTIFIER EQUAL val (COMMA IDENTIFIER EQUAL val)*`. -/
inductive Assignments : List TokenKind → Prop
  | last {k : TokenKind} : k.isValue → Assignments [.identifier, .equal, k]
  | cons {k : TokenKind} {v : List TokenKind} :
      k.isValue → Assignments v → Assignments (.identifier :: .equal :: k :: .comma :: v)

/-- `[WHERE cond]`. -/
inductive Filter : List TokenKind → Prop
  | none : Filter []
  | some {u : List TokenKind} : Cond u → Filter (.where :: u)

/-- `stmt`, by its keyword. -/
inductive Stmt : List TokenKind → Prop
  | create {u : List TokenKind} : ColDefs u →
      Stmt (.create :: .table :: .identifier :: .leftParen :: u ++ [.rightParen])
  | insert {u : List TokenKind} : Values u →
      Stmt (.insert :: .into :: .identifier :: .values :: .leftParen :: u ++ [.rightParen])
  | select {u v : List TokenKind} : Items u → Filter v →
      Stmt (.select :: u ++ .from :: .identifier :: v)
  | update {u v : List TokenKind} : Assignments u → Filter v →
      Stmt (.update :: .identifier :: .set :: u ++ v)
  | delete {v : List TokenKind} : Filter v → Stmt (.delete :: .from :: .identifier :: v)

/-- `program := (stmt [SEMICOLON])*`. -/
inductive Program : List TokenKind → Prop
  | nil : Program []
  | stmt {u v : List TokenKind} : Stmt u → Program v → Program (u ++ v)
  | stmtSemicolon {u v : List TokenKind} : Stmt u → Program v →
      Program (u ++ .semicolon :: v)

end Grammar

/-! ### Spelling a word -/

/-- The terminals `ts` are, one by one, of the kinds `u`. -/
def Spells (ts : List Terminal) (u : List TokenKind) : Prop :=
  ts.map Terminal.kind? = u.map some

/-- The kinds of the terminals form a program. -/
def Sentence (ts : List Terminal) : Prop :=
  ∃ u, Spells ts u ∧ Grammar.Program u

namespace Spells

@[simp] theorem nil_left {u : List TokenKind} : Spells [] u ↔ u = [] := by
  unfold Spells
  rw [List.map_nil, eq_comm, List.map_eq_nil_iff]

theorem nil : Spells [] [] := rfl

@[simp] theorem nil_right {ts : List Terminal} : Spells ts [] ↔ ts = [] := by
  unfold Spells
  rw [List.map_nil, List.map_eq_nil_iff]

theorem cons {t : Terminal} {ts : List Terminal} {k : TokenKind} {u : List TokenKind}
    (ht : t.kind? = some k) (h : Spells ts u) : Spells (t :: ts) (k :: u) := by
  unfold Spells at h ⊢
  rw [List.map_cons, List.map_cons, ht, h]

theorem append {ts ts' : List Terminal} {u u' : List TokenKind} (h : Spells ts u)
    (h' : Spells ts' u') : Spells (ts ++ ts') (u ++ u') := by
  simp only [Spells, List.map_append] at h h' ⊢
  rw [h, h']

theorem singleton {t : Terminal} {k : TokenKind} (ht : t.kind? = some k) : Spells [t] [k] :=
  cons ht nil

/-- The first of the terminals is of the first kind. -/
theorem kind?_head {t : Terminal} {ts : List Terminal} {u : List TokenKind} :
    Spells (t :: ts) u → ∃ k u', u = k :: u' ∧ t.kind? = some k ∧ Spells ts u' := by
  intro h
  cases u with
  | nil => simp [Spells] at h
  | cons k u' =>
    simp only [Spells, List.map_cons, List.cons.injEq] at h
    exact ⟨k, u', rfl, h.1, h.2⟩

/-- The terminals that spell a word of one kind and more begin with a terminal of that kind. -/
theorem cons_right {ts : List Terminal} {k : TokenKind} {u : List TokenKind}
    (h : Spells ts (k :: u)) : ∃ t ts', ts = t :: ts' ∧ t.kind? = some k ∧ Spells ts' u := by
  cases ts with
  | nil => simp [Spells] at h
  | cons t ts' =>
    simp only [Spells, List.map_cons, List.cons.injEq] at h
    exact ⟨t, ts', rfl, h.1, h.2⟩

/-- A spelling of a word made of two parts splits the terminals at the same place. -/
theorem split {ts : List Terminal} {u v : List TokenKind} (h : Spells ts (u ++ v)) :
    ∃ ws ws', ts = ws ++ ws' ∧ Spells ws u ∧ Spells ws' v := by
  induction u generalizing ts with
  | nil => exact ⟨[], ts, rfl, nil, by simpa using h⟩
  | cons k u ih =>
    cases ts with
    | nil => simp [Spells] at h
    | cons t ts =>
      obtain ⟨k', u', hu, ht, hts⟩ := kind?_head h
      simp only [List.cons_append, List.cons.injEq] at hu
      obtain ⟨rfl, rfl⟩ := hu
      obtain ⟨ws, ws', rfl, hws, hws'⟩ := ih hts
      exact ⟨t :: ws, ws', rfl, cons ht hws, hws'⟩

theorem length_eq {ts : List Terminal} {u : List TokenKind} (h : Spells ts u) :
    ts.length = u.length := by
  simpa using congrArg List.length h

end Spells

end SqlFront
