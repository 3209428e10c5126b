import SqlFront.Proofs.Grammar
/-!
# Derivations and the trees they build

A derivation of the grammar of `SqlFront.Proofs.Grammar`, read over terminals instead of kinds,
together with the tree it stands for. Each rule is an inductive predicate `Derivation.R w v`: the
terminals `w` derive the tree `v` by the rule `R`. The tree is the intended one:

* a chain of one precedence level, `a op₁ b op₂ c`, is nested to the left, each operation with
  its operator's lexeme and place (`Cond.chain`); the chains are those of `OR`, of `AND`, of `+`
  and `-`, and of `*` and `/`;
* `NOT` applies to one comparison, and a comparison has at most one comparison operator;
* a parenthesised condition is the condition itself;
* a `CREATE` carries its table name with the name's place, every other statement the place of
  its keyword; names, types and values are the lexemes of their terminals, and the items of
  `SELECT *` are the text `*`.

Erasing the trees gives back the grammar (`Derivation.Program.spells`), and every word of the
grammar has a derivation over any terminals that spell it (`Grammar.Program.derivation`); so the
terminals that have a derivation are exactly the sentences (`sentence_iff_derivation`).
-/

namespace SqlFront

/-- Operands joined to the left: `first op₁ c₁ op₂ c₂` is `(first op₁ c₁) op₂ c₂`, each operation
with its operator's lexeme and place. -/
def Cond.chain (first : Cond) (rest : List (Terminal × Cond)) : Cond :=
  rest.foldl (fun acc p => .binary p.1.lexeme acc p.2 p.1.place) first

@[simp] theorem Cond.chain_nil (first : Cond) : first.chain [] = first := rfl

@[simp] theorem Cond.chain_cons (first : Cond) (t : Terminal) (c : Cond)
    (rest : List (Terminal × Cond)) :
    first.chain ((t, c) :: rest) = (Cond.binary t.lexeme first c t.place).chain rest := rfl

namespace Derivation

/-! ### Conditions -/

mutual

/-- `cond := conj (OR conj)*`: the conjunctions, joined to the left by their `OR`s. -/
inductive Cond : List Terminal → SqlFront.Cond → Prop
  | mk {w v : List Terminal} {c : SqlFront.Cond} {ps : List (Terminal × SqlFront.Cond)} :
      Conj w c → Disjuncts v ps → Cond (w ++ v) (c.chain ps)

/-- `(OR conj)*`: each `OR` with the conjunction after it. -/
inductive Disjuncts : List Terminal → List (Terminal × SqlFront.Cond) → Prop
  | nil : Disjuncts [] []
  | cons {t : Terminal} {w v : List Terminal} {c : SqlFront.Cond}
      {ps : List (Terminal × SqlFront.Cond)} :
      t.kind? = some .or → Conj w c → Disjuncts v ps → Disjuncts (t :: w ++ v) ((t, c) :: ps)

/-- `conj := neg (AND neg)*`: the negations, joined to the left by their `AND`s. -/
inductive Conj : List Terminal → SqlFront.Cond → Prop
  | mk {w v : List Terminal} {c : SqlFront.Cond} {ps : List (Terminal × SqlFront.Cond)} :
      Neg w c → Conjuncts v ps → Conj (w ++ v) (c.chain ps)

/-- `(AND neg)*`: each `AND` with the negation after it. -/
inductive Conjuncts : List Terminal → List (Terminal × SqlFront.Cond) → Prop
  | nil : Conjuncts [] []
  | cons {t : Terminal} {w v : List Terminal} {c : SqlFront.Cond}
      {ps : List (Terminal × SqlFront.Cond)} :
      t.kind? = some .and → Neg w c → Conjuncts v ps → Conjuncts (t :: w ++ v) ((t, c) :: ps)

/-- `neg := NOT cmp | cmp`: `NOT` negates one comparison. -/
inductive Neg : List Terminal → SqlFront.Cond → Prop
  | not {t : Terminal} {w : List Terminal} {c : SqlFront.Cond} :
      t.kind? = some .not → Cmp w c → Neg (t :: w) (.not c)
  | cmp {w : List Terminal} {c : SqlFront.Cond} : Cmp w c → Neg w c

/-- `cmp := expr [op expr]`: at most one comparison operator. -/
inductive Cmp : List Terminal → SqlFront.Cond → Prop
  | single {w : List Terminal} {c : SqlFront.Cond} : Expr w c → Cmp w c
  | compare {w v : List Terminal} {t : Terminal} {k : TokenKind} {l r : SqlFront.Cond} :
      Expr w l → t.kind? = some k → k.isComparison → Expr v r →
      Cmp (w ++ t :: v) (.binary t.lexeme l r t.place)

/-- `expr := term ((PLUS | MINUS) term)*`: the terms, joined to the left. -/
inductive Expr : List Terminal → SqlFront.Cond → Prop
  | mk {w v : List Terminal} {c : SqlFront.Cond} {ps : List (Terminal × SqlFront.Cond)} :
      Term w c → Summands v ps → Expr (w ++ v) (c.chain ps)

/-- `((PLUS | MINUS) term)*`: each operator with the term after it. -/
inductive Summands : List Terminal → List (Terminal × SqlFront.Cond) → Prop
  | nil : Summands [] []
  | cons {t : Terminal} {k : TokenKind} {w v : List Terminal} {c : SqlFront.Cond}
      {ps : List (Terminal × SqlFront.Cond)} :
      t.kind? = some k → k.isAdditive → Term w c → Summands v ps →
      Summands (t :: w ++ v) ((t, c) :: ps)

/-- `term := factor ((MULTIPLY | DIVIDE) factor)*`: the factors, joined to the left. -/
inductive Term : List Terminal → SqlFront.Cond → Prop
  | mk {w v : List Terminal} {c : SqlFront.Cond} {ps : List (Terminal × SqlFront.Cond)} :
      Factor w c → Factors v ps → Term (w ++ v) (c.chain ps)

/-- `((MULTIPLY | DIVIDE) factor)*`: each operator with the factor after it. -/
inductive Factors : List Terminal → List (Terminal × SqlFront.Cond) → Prop
  | nil : Factors [] []
  | cons {t : Terminal} {k : TokenKind} {w v : List Terminal} {c : SqlFront.Cond}
      {ps : List (Terminal × SqlFront.Cond)} :
      t.kind? = some k → k.isMultiplicative → Factor w c → Factors v ps →
      Factors (t :: w ++ v) ((t, c) :: ps)

/-- `factor := LEFT_PAREN cond RIGHT_PAREN | IDENTIFIER | NUMBER | FLOAT | STRING`. -/
inductive Factor : List Terminal → SqlFront.Cond → Prop
  | paren {t t' : Terminal} {w : List Terminal} {c : SqlFront.Cond} :
      t.kind? = some .leftParen → Cond w c → t'.kind? = some .rightParen →
      Factor (t :: w ++ [t']) c
  | column {t : Terminal} : t.kind? = some .identifier → Factor [t] (.column t.lexeme t.place)
  | literal {t : Terminal} {k : TokenKind} :
      t.kind? = some k → k.isLiteral → Factor [t] (.literal t.lexeme t.place)

end

/-! ### Statements -/

/-- `coldef := IDENTIFIER (INT | FLOAT | TEXT | IDENTIFIER)`: the name and the type as read. -/
inductive ColDef : List Terminal → Datum × Datum → Prop
  | typed {t t' : Terminal} {k : TokenKind} :
      t.kind? = some .identifier → t'.kind? = some k → k.isTypeWord →
      ColDef [t, t'] (t.lexeme, t'.lexeme)
  | named {t t' : Terminal} :
      t.kind? = some .identifier → t'.kind? = some .identifier →
      ColDef [t, t'] (t.lexeme, t'.lexeme)

/-- `coldef (COMMA coldef)*`. -/
inductive ColDefs : List Terminal → List (Datum × Datum) → Prop
  | last {w : List Terminal} {c : Datum × Datum} : ColDef w c → ColDefs w [c]
  | cons {w v : List Terminal} {t : Terminal} {c : Datum × Datum} {cs : List (Datum × Datum)} :
      ColDef w c → t.kind? = some .comma → ColDefs v cs → ColDefs (w ++ t :: v) (c :: cs)

/-- `val (COMMA val)*`: the lexemes of the values. -/
inductive Values : List Terminal → List Datum → Prop
  | last {t : Terminal} {k : TokenKind} : t.kind? = some k → k.isValue → Values [t] [t.lexeme]
  | cons {t c : Terminal} {k : TokenKind} {v : List Terminal} {vs : List Datum} :
      t.kind? = some k → k.isValue → c.kind? = some .comma → Values v vs →
      Values (t :: c :: v) (t.lexeme :: vs)

/-- `(COMMA IDENTIFIER)*`: the lexemes of the names. -/
inductive MoreNames : List Terminal → List Datum → Prop
  | nil : MoreNames [] []
  | cons {c t : Terminal} {v : List Terminal} {ns : List Datum} :
      c.kind? = some .comma → t.kind? = some .identifier → MoreNames v ns →
      MoreNames (c :: t :: v) (t.lexeme :: ns)

/-- `MULTIPLY | IDENTIFIER (COMMA IDENTIFIER)*`: a star is the text `*`. -/
inductive Items : List Terminal → List Datum → Prop
  | star {t : Terminal} : t.kind? = some .multiply → Items [t] [.str "*"]
  | names {t : Terminal} {v : List Terminal} {ns : List Datum} :
      t.kind? = some .identifier → MoreNames v ns → Items (t :: v) (t.lexeme :: ns)

/-- `IDENTIFIER EQUAL val (COMMA IDENTIFIER EQUAL val)*`: each column with its value. -/
inductive Assignments : List Terminal → List (Datum × Datum) → Prop
  | last {t₁ t₂ t₃ : Terminal} {k : TokenKind} :
      t₁.kind? = some .identifier → t₂.kind? = some .equal → t₃.kind? = some k → k.isValue →
      Assignments [t₁, t₂, t₃] [(t₁.lexeme, t₃.lexeme)]
  | cons {t₁ t₂ t₃ c : Terminal} {k : TokenKind} {v : List Terminal} {as : List (Datum × Datum)} :
      t₁.kind? = some .identifier → t₂.kind? = some .equal → t₃.kind? = some k → k.isValue →
      c.kind? = some .comma → Assignments v as →
      Assignments (t₁ :: t₂ :: t₃ :: c :: v) ((t₁.lexeme, t₃.lexeme) :: as)

/-- `[WHERE cond]`. -/
inductive Filter : List Terminal → Option SqlFront.Cond → Prop
  | none : Filter [] none
  | some {t : Terminal} {w : List Terminal} {c : SqlFront.Cond} :
      t.kind? = some .where → Cond w c → Filter (t :: w) (some c)

/-- `stmt`, by its keyword. -/
inductive Stmt : List Terminal → SqlFront.Stmt → Prop
  | create {kw t₁ t₂ t₃ t₄ : Terminal} {w : List Terminal} {cols : List (Datum × Datum)} :
      kw.kind? = some .create → t₁.kind? = some .table → t₂.kind? = some .identifier →
      t₃.kind? = some .leftParen → ColDefs w cols → t₄.kind? = some .rightParen →
      Stmt (kw :: t₁ :: t₂ :: t₃ :: w ++ [t₄]) (.create (some (t₂.lexeme, t₂.place)) cols)
  | insert {kw t₁ t₂ t₃ t₄ t₅ : Terminal} {w : List Terminal} {vals : List Datum} :
      kw.kind? = some .insert → t₁.kind? = some .into → t₂.kind? = some .identifier →
      t₃.kind? = some .values → t₄.kind? = some .leftParen → Values w vals →
      t₅.kind? = some .rightParen →
      Stmt (kw :: t₁ :: t₂ :: t₃ :: t₄ :: w ++ [t₅]) (.insert t₂.lexeme vals kw.place)
  | select {kw t₁ t₂ : Terminal} {w v : List Terminal} {items : List Datum}
      {f : Option SqlFront.Cond} :
      kw.kind? = some .select → Items w items → t₁.kind? = some .from →
      t₂.kind? = some .identifier → Filter v f →
      Stmt (kw :: w ++ t₁ :: t₂ :: v) (.select items t₂.lexeme f kw.place)
  | update {kw t₁ t₂ : Terminal} {w v : List Terminal} {as : List (Datum × Datum)}
      {f : Option SqlFront.Cond} :
      kw.kind? = some .update → t₁.kind? = some .identifier → t₂.kind? = some .set →
      Assignments w as → Filter v f →
      Stmt (kw :: t₁ :: t₂ :: w ++ v) (.update t₁.lexeme as f kw.place)
  | delete {kw t₁ t₂ : Terminal} {v : List Terminal} {f : Option SqlFront.Cond} :
      kw.kind? = some .delete → t₁.kind? = some .from → t₂.kind? = some .identifier →
      Filter v f → Stmt (kw :: t₁ :: t₂ :: v) (.delete t₂.lexeme f kw.place)

/-- `program := (stmt [SEMICOLON])*`: the statements in order. -/
inductive Program : List Terminal → SqlFront.Program → Prop
  | nil : Program [] []
  | stmt {w v : List Terminal} {s : SqlFront.Stmt} {p : SqlFront.Program} :
      Stmt w s → Program v p → Program (w ++ v) (s :: p)
  | stmtSemicolon {w v : List Terminal} {t : Terminal} {s : SqlFront.Stmt}
      {p : SqlFront.Program} :
      Stmt w s → t.kind? = some .semicolon → Program v p → Program (w ++ t :: v) (s :: p)

/-! ### Erasing the trees -/

mutual

theorem Cond.spells {w : List Terminal} {c : SqlFront.Cond} (h : Cond w c) :
    ∃ u, Spells w u ∧ Grammar.Cond u := by
  match h with
  | .mk hc hd =>
    obtain ⟨u, hs, hu⟩ := hc.spells
    obtain ⟨v, hs', hv⟩ := hd.spells
    exact ⟨_, hs.append hs', .mk hu hv⟩
termination_by structural h

theorem Disjuncts.spells {w : List Terminal} {ps : List (Terminal × SqlFront.Cond)}
    (h : Disjuncts w ps) : ∃ u, Spells w u ∧ Grammar.Disjuncts u := by
  match h with
  | .nil => exact ⟨[], Spells.nil, .nil⟩
  | .cons ht hc hd =>
    obtain ⟨u, hs, hu⟩ := hc.spells
    obtain ⟨v, hs', hv⟩ := hd.spells
    exact ⟨_, Spells.cons ht (hs.append hs'), .cons hu hv⟩
termination_by structural h

theorem Conj.spells {w : List Terminal} {c : SqlFront.Cond} (h : Conj w c) :
    ∃ u, Spells w u ∧ Grammar.Conj u := by
  match h with
  | .mk hn hc =>
    obtain ⟨u, hs, hu⟩ := hn.spells
    obtain ⟨v, hs', hv⟩ := hc.spells
    exact ⟨_, hs.append hs', .mk hu hv⟩
termination_by structural h

theorem Conjuncts.spells {w : List Terminal} {ps : List (Terminal × SqlFront.Cond)}
    (h : Conjuncts w ps) : ∃ u, Spells w u ∧ Grammar.Conjuncts u := by
  match h with
  | .nil => exact ⟨[], Spells.nil, .nil⟩
  | .cons ht hn hc =>
    obtain ⟨u, hs, hu⟩ := hn.spells
    obtain ⟨v, hs', hv⟩ := hc.spells
    exact ⟨_, Spells.cons ht (hs.append hs'), .cons hu hv⟩
termination_by structural h

theorem Neg.spells {w : List Terminal} {c : SqlFront.Cond} (h : Neg w c) :
    ∃ u, Spells w u ∧ Grammar.Neg u := by
  match h with
  | .not ht hc =>
    obtain ⟨u, hs, hu⟩ := hc.spells
    exact ⟨_, Spells.cons ht hs, .not hu⟩
  | .cmp hc =>
    obtain ⟨u, hs, hu⟩ := hc.spells
    exact ⟨_, hs, .cmp hu⟩
termination_by structural h

theorem Cmp.spells {w : List Terminal} {c : SqlFront.Cond} (h : Cmp w c) :
    ∃ u, Spells w u ∧ Grammar.Cmp u := by
  match h with
  | .single he =>
    obtain ⟨u, hs, hu⟩ := he.spells
    exact ⟨_, hs, .single hu⟩
  | .compare he ht hk he' =>
    obtain ⟨u, hs, hu⟩ := he.spells
    obtain ⟨v, hs', hv⟩ := he'.spells
    exact ⟨_, hs.append (Spells.cons ht hs'), .compare hu hk hv⟩
termination_by structural h

theorem Expr.spells {w : List Terminal} {c : SqlFront.Cond} (h : Expr w c) :
    ∃ u, Spells w u ∧ Grammar.Expr u := by
  match h with
  | .mk ht hs =>
    obtain ⟨u, hw, hu⟩ := ht.spells
    obtain ⟨v, hw', hv⟩ := hs.spells
    exact ⟨_, hw.append hw', .mk hu hv⟩
termination_by structural h

theorem Summands.spells {w : List Terminal} {ps : List (Terminal × SqlFront.Cond)}
    (h : Summands w ps) : ∃ u, Spells w u ∧ Grammar.Summands u := by
  match h with
  | .nil => exact ⟨[], Spells.nil, .nil⟩
  | .cons ht hk htm hs =>
    obtain ⟨u, hw, hu⟩ := htm.spells
    obtain ⟨v, hw', hv⟩ := hs.spells
    exact ⟨_, Spells.cons ht (hw.append hw'), .cons hk hu hv⟩
termination_by structural h

theorem Term.spells {w : List Terminal} {c : SqlFront.Cond} (h : Term w c) :
    ∃ u, Spells w u ∧ Grammar.Term u := by
  match h with
  | .mk hf hfs =>
    obtain ⟨u, hw, hu⟩ := hf.spells
    obtain ⟨v, hw', hv⟩ := hfs.spells
    exact ⟨_, hw.append hw', .mk hu hv⟩
termination_by structural h

theorem Factors.spells {w : List Terminal} {ps : List (Terminal × SqlFront.Cond)}
    (h : Factors w ps) : ∃ u, Spells w u ∧ Grammar.Factors u := by
  match h with
  | .nil => exact ⟨[], Spells.nil, .nil⟩
  | .cons ht hk hf hfs =>
    obtain ⟨u, hw, hu⟩ := hf.spells
    obtain ⟨v, hw', hv⟩ := hfs.spells
    exact ⟨_, Spells.cons ht (hw.append hw'), .cons hk hu hv⟩
termination_by structural h

theorem Factor.spells {w : List Terminal} {c : SqlFront.Cond} (h : Factor w c) :
    ∃ u, Spells w u ∧ Grammar.Factor u := by
  match h with
  | .paren ht hc ht' =>
    obtain ⟨u, hw, hu⟩ := hc.spells
    exact ⟨_, Spells.cons ht (hw.append (Spells.singleton ht')), .paren hu⟩
  | .column ht => exact ⟨_, Spells.singleton ht, .column⟩
  | .literal ht hk => exact ⟨_, Spells.singleton ht, .literal hk⟩
termination_by structural h

end

theorem ColDef.spells {w : List Terminal} {c : Datum × Datum} (h : ColDef w c) :
    ∃ u, Spells w u ∧ Grammar.ColDef u := by
  cases h with
  | typed ht ht' hk => exact ⟨_, Spells.cons ht (Spells.singleton ht'), .typed hk⟩
  | named ht ht' => exact ⟨_, Spells.cons ht (Spells.singleton ht'), .named⟩

theorem ColDefs.spells {w : List Terminal} {cs : List (Datum × Datum)} (h : ColDefs w cs) :
    ∃ u, Spells w u ∧ Grammar.ColDefs u := by
  induction h with
  | last hc =>
    obtain ⟨u, hs, hu⟩ := hc.spells
    exact ⟨u, hs, .last hu⟩
  | cons hc ht _ ih =>
    obtain ⟨u, hs, hu⟩ := hc.spells
    obtain ⟨v, hs', hv⟩ := ih
    exact ⟨_, hs.append (Spells.cons ht hs'), .cons hu hv⟩

theorem Values.spells {w : List Terminal} {vs : List Datum} (h : Values w vs) :
    ∃ u, Spells w u ∧ Grammar.Values u := by
  induction h with
  | last ht hk => exact ⟨_, Spells.singleton ht, .last hk⟩
  | cons ht hk hc _ ih =>
    obtain ⟨v, hs, hv⟩ := ih
    exact ⟨_, Spells.cons ht (Spells.cons hc hs), .cons hk hv⟩

theorem MoreNames.spells {w : List Terminal} {ns : List Datum} (h : MoreNames w ns) :
    ∃ u, Spells w u ∧ Grammar.MoreNames u := by
  induction h with
  | nil => exact ⟨[], Spells.nil, .nil⟩
  | cons hc ht _ ih =>
    obtain ⟨v, hs, hv⟩ := ih
    exact ⟨_, Spells.cons hc (Spells.cons ht hs), .cons hv⟩

theorem Items.spells {w : List Terminal} {items : List Datum} (h : Items w items) :
    ∃ u, Spells w u ∧ Grammar.Items u := by
  cases h with
  | star ht => exact ⟨_, Spells.singleton ht, .star⟩
  | names ht hm =>
    obtain ⟨v, hs, hv⟩ := hm.spells
    exact ⟨_, Spells.cons ht hs, .names hv⟩

theorem Assignments.spells {w : List Terminal} {as : List (Datum × Datum)}
    (h : Assignments w as) : ∃ u, Spells w u ∧ Grammar.Assignments u := by
  induction h with
  | last ht₁ ht₂ ht₃ hk =>
    exact ⟨_, Spells.cons ht₁ (Spells.cons ht₂ (Spells.singleton ht₃)), .last hk⟩
  | cons ht₁ ht₂ ht₃ hk hc _ ih =>
    obtain ⟨v, hs, hv⟩ := ih
    exact ⟨_, Spells.cons ht₁ (Spells.cons ht₂ (Spells.cons ht₃ (Spells.cons hc hs))), .cons hk hv⟩

theorem Filter.spells {w : List Terminal} {f : Option SqlFront.Cond} (h : Filter w f) :
    ∃ u, Spells w u ∧ Grammar.Filter u := by
  cases h with
  | none => exact ⟨[], Spells.nil, .none⟩
  | some ht hc =>
    obtain ⟨u, hs, hu⟩ := hc.spells
    exact ⟨_, Spells.cons ht hs, .some hu⟩

theorem Stmt.spells {w : List Terminal} {s : SqlFront.Stmt} (h : Stmt w s) :
    ∃ u, Spells w u ∧ Grammar.Stmt u := by
  cases h with
  | create hkw ht₁ ht₂ ht₃ hc ht₄ =>
    obtain ⟨u, hs, hu⟩ := hc.spells
    exact ⟨_, Spells.cons hkw (Spells.cons ht₁ (Spells.cons ht₂ (Spells.cons ht₃
      (hs.append (Spells.singleton ht₄))))), .create hu⟩
  | insert hkw ht₁ ht₂ ht₃ ht₄ hv ht₅ =>
    obtain ⟨u, hs, hu⟩ := hv.spells
    exact ⟨_, Spells.cons hkw (Spells.cons ht₁ (Spells.cons ht₂ (Spells.cons ht₃ (Spells.cons ht₄
      (hs.append (Spells.singleton ht₅)))))), .insert hu⟩
  | select hkw hi ht₁ ht₂ hf =>
    obtain ⟨u, hs, hu⟩ := hi.spells
    obtain ⟨v, hs', hv⟩ := hf.spells
    exact ⟨_, Spells.cons hkw (hs.append (Spells.cons ht₁ (Spells.cons ht₂ hs'))), .select hu hv⟩
  | update hkw ht₁ ht₂ ha hf =>
    obtain ⟨u, hs, hu⟩ := ha.spells
    obtain ⟨v, hs', hv⟩ := hf.spells
    exact ⟨_, Spells.cons hkw (Spells.cons ht₁ (Spells.cons ht₂ (hs.append hs'))), .update hu hv⟩
  | delete hkw ht₁ ht₂ hf =>
    obtain ⟨v, hs, hv⟩ := hf.spells
    exact ⟨_, Spells.cons hkw (Spells.cons ht₁ (Spells.cons ht₂ hs)), .delete hv⟩

/-- Erasing the tree of a derivation leaves a program of the grammar. -/
theorem Program.spells {w : List Terminal} {p : SqlFront.Program} (h : Program w p) :
    ∃ u, Spells w u ∧ Grammar.Program u := by
  induction h with
  | nil => exact ⟨[], Spells.nil, .nil⟩
  | stmt hs _ ih =>
    obtain ⟨u, hw, hu⟩ := hs.spells
    obtain ⟨v, hw', hv⟩ := ih
    exact ⟨_, hw.append hw', .stmt hu hv⟩
  | stmtSemicolon hs ht _ ih =>
    obtain ⟨u, hw, hu⟩ := hs.spells
    obtain ⟨v, hw', hv⟩ := ih
    exact ⟨_, hw.append (Spells.cons ht hw'), .stmtSemicolon hu hv⟩

end Derivation

/-! ### Deriving the words of the grammar -/

namespace Grammar

mutual

theorem Cond.derivation {u : List TokenKind} (h : Cond u) {w : List Terminal} (hs : Spells w u) :
    ∃ c, Derivation.Cond w c := by
  match h, hs with
  | .mk hc hd, hs =>
    obtain ⟨w₁, w₂, rfl, hs₁, hs₂⟩ := hs.split
    obtain ⟨c, hc'⟩ := hc.derivation hs₁
    obtain ⟨ps, hd'⟩ := hd.derivation hs₂
    exact ⟨_, .mk hc' hd'⟩
termination_by structural h

theorem Disjuncts.derivation {u : List TokenKind} (h : Disjuncts u) {w : List Terminal}
    (hs : Spells w u) : ∃ ps, Derivation.Disjuncts w ps := by
  match h, hs with
  | .nil, hs =>
    obtain rfl := Spells.nil_right.1 hs
    exact ⟨[], .nil⟩
  | .cons hc hd, hs =>
    obtain ⟨t, w', rfl, ht, hs'⟩ := hs.cons_right
    obtain ⟨w₁, w₂, rfl, hs₁, hs₂⟩ := hs'.split
    obtain ⟨c, hc'⟩ := hc.derivation hs₁
    obtain ⟨ps, hd'⟩ := hd.derivation hs₂
    exact ⟨_, .cons ht hc' hd'⟩
termination_by structural h

theorem Conj.derivation {u : List TokenKind} (h : Conj u) {w : List Terminal} (hs : Spells w u) :
    ∃ c, Derivation.Conj w c := by
  match h, hs with
  | .mk hn hc, hs =>
    obtain ⟨w₁, w₂, rfl, hs₁, hs₂⟩ := hs.split
    obtain ⟨c, hn'⟩ := hn.derivation hs₁
    obtain ⟨ps, hc'⟩ := hc.derivation hs₂
    exact ⟨_, .mk hn' hc'⟩
termination_by structural h

theorem Conjuncts.derivation {u : List TokenKind} (h : Conjuncts u) {w : List Terminal}
    (hs : Spells w u) : ∃ ps, Derivation.Conjuncts w ps := by
  match h, hs with
  | .nil, hs =>
    obtain rfl := Spells.nil_right.1 hs
    exact ⟨[], .nil⟩
  | .cons hn hc, hs =>
    obtain ⟨t, w', rfl, ht, hs'⟩ := hs.cons_right
    obtain ⟨w₁, w₂, rfl, hs₁, hs₂⟩ := hs'.split
    obtain ⟨c, hn'⟩ := hn.derivation hs₁
    obtain ⟨ps, hc'⟩ := hc.derivation hs₂
    exact ⟨_, .cons ht hn' hc'⟩
termination_by structural h

theorem Neg.derivation {u : List TokenKind} (h : Neg u) {w : List Terminal} (hs : Spells w u) :
    ∃ c, Derivation.Neg w c := by
  match h, hs with
  | .not hc, hs =>
    obtain ⟨t, w', rfl, ht, hs'⟩ := hs.cons_right
    obtain ⟨c, hc'⟩ := hc.derivation hs'
    exact ⟨_, .not ht hc'⟩
  | .cmp hc, hs =>
    obtain ⟨c, hc'⟩ := hc.derivation hs
    exact ⟨_, .cmp hc'⟩
termination_by structural h

theorem Cmp.derivation {u : List TokenKind} (h : Cmp u) {w : List Terminal} (hs : Spells w u) :
    ∃ c, Derivation.Cmp w c := by
  match h, hs with
  | .single he, hs =>
    obtain ⟨c, he'⟩ := he.derivation hs
    exact ⟨_, .single he'⟩
  | .compare he hk he', hs =>
    obtain ⟨w₁, w₂', rfl, hs₁, hs₂'⟩ := hs.split
    obtain ⟨t, w₂, rfl, ht, hs₂⟩ := hs₂'.cons_right
    obtain ⟨l, hl⟩ := he.derivation hs₁
    obtain ⟨r, hr⟩ := he'.derivation hs₂
    exact ⟨_, .compare hl ht hk hr⟩
termination_by structural h

theorem Expr.derivation {u : List TokenKind} (h : Expr u) {w : List Terminal} (hs : Spells w u) :
    ∃ c, Derivation.Expr w c := by
  match h, hs with
  | .mk ht hsum, hs =>
    obtain ⟨w₁, w₂, rfl, hs₁, hs₂⟩ := hs.split
    obtain ⟨c, ht'⟩ := ht.derivation hs₁
    obtain ⟨ps, hsum'⟩ := hsum.derivation hs₂
    exact ⟨_, .mk ht' hsum'⟩
termination_by structural h

theorem Summands.derivation {u : List TokenKind} (h : Summands u) {w : List Terminal}
    (hs : Spells w u) : ∃ ps, Derivation.Summands w ps := by
  match h, hs with
  | .nil, hs =>
    obtain rfl := Spells.nil_right.1 hs
    exact ⟨[], .nil⟩
  | .cons hk ht hsum, hs =>
    obtain ⟨t, w', rfl, ht', hs'⟩ := hs.cons_right
    obtain ⟨w₁, w₂, rfl, hs₁, hs₂⟩ := hs'.split
    obtain ⟨c, ht''⟩ := ht.derivation hs₁
    obtain ⟨ps, hsum'⟩ := hsum.derivation hs₂
    exact ⟨_, .cons ht' hk ht'' hsum'⟩
termination_by structural h

theorem Term.derivation {u : List TokenKind} (h : Term u) {w : List Terminal} (hs : Spells w u) :
    ∃ c, Derivation.Term w c := by
  match h, hs with
  | .mk hf hfs, hs =>
    obtain ⟨w₁, w₂, rfl, hs₁, hs₂⟩ := hs.split
    obtain ⟨c, hf'⟩ := hf.derivation hs₁
    obtain ⟨ps, hfs'⟩ := hfs.derivation hs₂
    exact ⟨_, .mk hf' hfs'⟩
termination_by structural h

theorem Factors.derivation {u : List TokenKind} (h : Factors u) {w : List Terminal}
    (hs : Spells w u) : ∃ ps, Derivation.Factors w ps := by
  match h, hs with
  | .nil, hs =>
    obtain rfl := Spells.nil_right.1 hs
    exact ⟨[], .nil⟩
  | .cons hk hf hfs, hs =>
    obtain ⟨t, w', rfl, ht, hs'⟩ := hs.cons_right
    obtain ⟨w₁, w₂, rfl, hs₁, hs₂⟩ := hs'.split
    obtain ⟨c, hf'⟩ := hf.derivation hs₁
    obtain ⟨ps, hfs'⟩ := hfs.derivation hs₂
    exact ⟨_, .cons ht hk hf' hfs'⟩
termination_by structural h

theorem Factor.derivation {u : List TokenKind} (h : Factor u) {w : List Terminal}
    (hs : Spells w u) : ∃ c, Derivation.Factor w c := by
  match h, hs with
  | .paren hc, hs =>
    obtain ⟨t, w', rfl, ht, hs'⟩ := hs.cons_right
    obtain ⟨w₁, w₂, rfl, hs₁, hs₂⟩ := hs'.split
    obtain ⟨t', w₃, rfl, ht', hs₃⟩ := hs₂.cons_right
    obtain rfl := Spells.nil_right.1 hs₃
    obtain ⟨c, hc'⟩ := hc.derivation hs₁
    exact ⟨_, .paren ht hc' ht'⟩
  | .column, hs =>
    obtain ⟨t, w', rfl, ht, hs'⟩ := hs.cons_right
    obtain rfl := Spells.nil_right.1 hs'
    exact ⟨_, .column ht⟩
  | .literal hk, hs =>
    obtain ⟨t, w', rfl, ht, hs'⟩ := hs.cons_right
    obtain rfl := Spells.nil_right.1 hs'
    exact ⟨_, .literal ht hk⟩
termination_by structural h

end

theorem ColDef.derivation {u : List TokenKind} (h : ColDef u) {w : List Terminal}
    (hs : Spells w u) : ∃ c, Derivation.ColDef w c := by
  cases h with
  | typed hk =>
    obtain ⟨t, w', rfl, ht, hs'⟩ := hs.cons_right
    obtain ⟨t', w'', rfl, ht', hs''⟩ := hs'.cons_right
    obtain rfl := Spells.nil_right.1 hs''
    exact ⟨_, .typed ht ht' hk⟩
  | named =>
    obtain ⟨t, w', rfl, ht, hs'⟩ := hs.cons_right
    obtain ⟨t', w'', rfl, ht', hs''⟩ := hs'.cons_right
    obtain rfl := Spells.nil_right.1 hs''
    exact ⟨_, .named ht ht'⟩

theorem ColDefs.derivation {u : List TokenKind} (h : ColDefs u) {w : List Terminal}
    (hs : Spells w u) : ∃ cs, Derivation.ColDefs w cs := by
  induction h generalizing w with
  | last hc =>
    obtain ⟨c, hc'⟩ := hc.derivation hs
    exact ⟨_, .last hc'⟩
  | cons hc _ ih =>
    obtain ⟨w₁, w₂', rfl, hs₁, hs₂'⟩ := hs.split
    obtain ⟨t, w₂, rfl, ht, hs₂⟩ := hs₂'.cons_right
    obtain ⟨c, hc'⟩ := hc.derivation hs₁
    obtain ⟨cs, hd⟩ := ih hs₂
    exact ⟨_, .cons hc' ht hd⟩

theorem Values.derivation {u : List TokenKind} (h : Values u) {w : List Terminal}
    (hs : Spells w u) : ∃ vs, Derivation.Values w vs := by
  induction h generalizing w with
  | last hk =>
    obtain ⟨t, w', rfl, ht, hs'⟩ := hs.cons_right
    obtain rfl := Spells.nil_right.1 hs'
    exact ⟨_, .last ht hk⟩
  | cons hk _ ih =>
    obtain ⟨t, w', rfl, ht, hs'⟩ := hs.cons_right
    obtain ⟨c, w'', rfl, hc, hs''⟩ := hs'.cons_right
    obtain ⟨vs, hv⟩ := ih hs''
    exact ⟨_, .cons ht hk hc hv⟩

theorem MoreNames.derivation {u : List TokenKind} (h : MoreNames u) {w : List Terminal}
    (hs : Spells w u) : ∃ ns, Derivation.MoreNames w ns := by
  induction h generalizing w with
  | nil =>
    obtain rfl := Spells.nil_right.1 hs
    exact ⟨[], .nil⟩
  | cons _ ih =>
    obtain ⟨c, w', rfl, hc, hs'⟩ := hs.cons_right
    obtain ⟨t, w'', rfl, ht, hs''⟩ := hs'.cons_right
    obtain ⟨ns, hm⟩ := ih hs''
    exact ⟨_, .cons hc ht hm⟩

theorem Items.derivation {u : List TokenKind} (h : Items u) {w : List Terminal}
    (hs : Spells w u) : ∃ items, Derivation.Items w items := by
  cases h with
  | star =>
    obtain ⟨t, w', rfl, ht, hs'⟩ := hs.cons_right
    obtain rfl := Spells.nil_right.1 hs'
    exact ⟨_, .star ht⟩
  | names hm =>
    obtain ⟨t, w', rfl, ht, hs'⟩ := hs.cons_right
    obtain ⟨ns, hm'⟩ := hm.derivation hs'
    exact ⟨_, .names ht hm'⟩

theorem Assignments.derivation {u : List TokenKind} (h : Assignments u) {w : List Terminal}
    (hs : Spells w u) : ∃ as, Derivation.Assignments w as := by
  induction h generalizing w with
  | last hk =>
    obtain ⟨t₁, w₁, rfl, ht₁, hs₁⟩ := hs.cons_right
    obtain ⟨t₂, w₂, rfl, ht₂, hs₂⟩ := hs₁.cons_right
    obtain ⟨t₃, w₃, rfl, ht₃, hs₃⟩ := hs₂.cons_right
    obtain rfl := Spells.nil_right.1 hs₃
    exact ⟨_, .last ht₁ ht₂ ht₃ hk⟩
  | cons hk _ ih =>
    obtain ⟨t₁, w₁, rfl, ht₁, hs₁⟩ := hs.cons_right
    obtain ⟨t₂, w₂, rfl, ht₂, hs₂⟩ := hs₁.cons_right
    obtain ⟨t₃, w₃, rfl, ht₃, hs₃⟩ := hs₂.cons_right
    obtain ⟨c, w₄, rfl, hc, hs₄⟩ := hs₃.cons_right
    obtain ⟨as, ha⟩ := ih hs₄
    exact ⟨_, .cons ht₁ ht₂ ht₃ hk hc ha⟩

theorem Filter.derivation {u : List TokenKind} (h : Filter u) {w : List Terminal}
    (hs : Spells w u) : ∃ f, Derivation.Filter w f := by
  cases h with
  | none =>
    obtain rfl := Spells.nil_right.1 hs
    exact ⟨_, .none⟩
  | some hc =>
    obtain ⟨t, w', rfl, ht, hs'⟩ := hs.cons_right
    obtain ⟨c, hc'⟩ := hc.derivation hs'
    exact ⟨_, .some ht hc'⟩

theorem Stmt.derivation {u : List TokenKind} (h : Stmt u) {w : List Terminal}
    (hs : Spells w u) : ∃ s, Derivation.Stmt w s := by
  cases h with
  | create hc =>
    obtain ⟨kw, w₁, rfl, hkw, hs₁⟩ := hs.cons_right
    obtain ⟨t₁, w₂, rfl, ht₁, hs₂⟩ := hs₁.cons_right
    obtain ⟨t₂, w₃, rfl, ht₂, hs₃⟩ := hs₂.cons_right
    obtain ⟨t₃, w₄, rfl, ht₃, hs₄⟩ := hs₃.cons_right
    obtain ⟨w₅, w₆, rfl, hs₅, hs₆⟩ := hs₄.split
    obtain ⟨t₄, w₇, rfl, ht₄, hs₇⟩ := hs₆.cons_right
    obtain rfl := Spells.nil_right.1 hs₇
    obtain ⟨cols, hc'⟩ := hc.derivation hs₅
    exact ⟨_, .create hkw ht₁ ht₂ ht₃ hc' ht₄⟩
  | insert hv =>
    obtain ⟨kw, w₁, rfl, hkw, hs₁⟩ := hs.cons_right
    obtain ⟨t₁, w₂, rfl, ht₁, hs₂⟩ := hs₁.cons_right
    obtain ⟨t₂, w₃, rfl, ht₂, hs₃⟩ := hs₂.cons_right
    obtain ⟨t₃, w₄, rfl, ht₃, hs₄⟩ := hs₃.cons_right
    obtain ⟨t₄, w₅, rfl, ht₄, hs₅⟩ := hs₄.cons_right
    obtain ⟨w₆, w₇, rfl, hs₆, hs₇⟩ := hs₅.split
    obtain ⟨t₅, w₈, rfl, ht₅, hs₈⟩ := hs₇.cons_right
    obtain rfl := Spells.nil_right.1 hs₈
    obtain ⟨vals, hv'⟩ := hv.derivation hs₆
    exact ⟨_, .insert hkw ht₁ ht₂ ht₃ ht₄ hv' ht₅⟩
  | select hi hf =>
    obtain ⟨kw, w₁, rfl, hkw, hs₁⟩ := hs.cons_right
    obtain ⟨w₂, w₃, rfl, hs₂, hs₃⟩ := hs₁.split
    obtain ⟨t₁, w₄, rfl, ht₁, hs₄⟩ := hs₃.cons_right
    obtain ⟨t₂, w₅, rfl, ht₂, hs₅⟩ := hs₄.cons_right
    obtain ⟨items, hi'⟩ := hi.derivation hs₂
    obtain ⟨f, hf'⟩ := hf.derivation hs₅
    exact ⟨_, .select hkw hi' ht₁ ht₂ hf'⟩
  | update ha hf =>
    obtain ⟨kw, w₁, rfl, hkw, hs₁⟩ := hs.cons_right
    obtain ⟨t₁, w₂, rfl, ht₁, hs₂⟩ := hs₁.cons_right
    obtain ⟨t₂, w₃, rfl, ht₂, hs₃⟩ := hs₂.cons_right
    obtain ⟨w₄, w₅, rfl, hs₄, hs₅⟩ := hs₃.split
    obtain ⟨as, ha'⟩ := ha.derivation hs₄
    obtain ⟨f, hf'⟩ := hf.derivation hs₅
    exact ⟨_, .update hkw ht₁ ht₂ ha' hf'⟩
  | delete hf =>
    obtain ⟨kw, w₁, rfl, hkw, hs₁⟩ := hs.cons_right
    obtain ⟨t₁, w₂, rfl, ht₁, hs₂⟩ := hs₁.cons_right
    obtain ⟨t₂, w₃, rfl, ht₂, hs₃⟩ := hs₂.cons_right
    obtain ⟨f, hf'⟩ := hf.derivation hs₃
    exact ⟨_, .delete hkw ht₁ ht₂ hf'⟩

/-- A program of the grammar has a derivation over any terminals that spell it. -/
theorem Program.derivation {u : List TokenKind} (h : Program u) {w : List Terminal}
    (hs : Spells w u) : ∃ p, Derivation.Program w p := by
  induction h generalizing w with
  | nil =>
    obtain rfl := Spells.nil_right.1 hs
    exact ⟨_, .nil⟩
  | stmt hu _ ih =>
    obtain ⟨w₁, w₂, rfl, hs₁, hs₂⟩ := hs.split
    obtain ⟨s, hs'⟩ := hu.derivation hs₁
    obtain ⟨p, hp⟩ := ih hs₂
    exact ⟨_, .stmt hs' hp⟩
  | stmtSemicolon hu _ ih =>
    obtain ⟨w₁, w₂', rfl, hs₁, hs₂'⟩ := hs.split
    obtain ⟨t, w₂, rfl, ht, hs₂⟩ := hs₂'.cons_right
    obtain ⟨s, hs'⟩ := hu.derivation hs₁
    obtain ⟨p, hp⟩ := ih hs₂
    exact ⟨_, .stmtSemicolon hs' ht hp⟩

end Grammar

/-- **The sentences are the terminals with a derivation.** -/
theorem sentence_iff_derivation {ts : List Terminal} :
    Sentence ts ↔ ∃ prog, Derivation.Program ts prog := by
  constructor
  · rintro ⟨u, hs, hu⟩
    exact hu.derivation hs
  · rintro ⟨prog, h⟩
    exact h.spells

end SqlFront
