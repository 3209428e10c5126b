import SqlFront.Proofs.Acceptance
import SqlFront.Proofs.Literals
/-!
# A parse without syntax errors has no placeholders

Where a piece of a statement is missing, the parser reports a syntax error and puts a
placeholder in the piece's place: the literal nothing (`Datum.none`) for a missing operand of a
condition, and no name for a `CREATE` whose table name is missing. A statement with neither is
*complete* (`Stmt.Complete`).

A parse of scanned tokens that reports no syntax error is complete (`parseTokens_complete`).
The scanner makes no token of kind `EOF` (`Scanner.Lexeme.ne_eof`), so such a parse is the
parse of a sentence, whose program is the tree of its derivation (`SqlFront.Proofs.Acceptance`);
and a derivation builds a literal only from a terminal of a literal kind, whose lexeme is a
text, and a `CREATE` only with its name (`Derivation.Program.complete`).
-/

namespace SqlFront

/-- A condition with no placeholder: its literals are texts. -/
def Cond.Complete : Cond → Prop
  | .binary _ l r _ => l.Complete ∧ r.Complete
  | .not c => c.Complete
  | .column _ _ => True
  | .literal v _ => v.IsText

/-- A statement with no placeholder: a `CREATE` has its table's name, and the condition of a
`SELECT`, `UPDATE` or `DELETE` is complete. -/
def Stmt.Complete : Stmt → Prop
  | .create t _ => t.isSome
  | .insert .. => True
  | .select _ _ f _ | .update _ _ f _ | .delete _ f _ => ∀ c ∈ f, c.Complete

/-- Operands joined to the left are complete when each is. -/
theorem Cond.complete_chain {first : Cond} (hfirst : first.Complete)
    {rest : List (Terminal × Cond)} (hrest : ∀ p ∈ rest, p.2.Complete) :
    (first.chain rest).Complete := by
  induction rest generalizing first with
  | nil => exact hfirst
  | cons p rest ih =>
    rw [Cond.chain]
    exact ih ⟨hfirst, hrest p List.mem_cons_self⟩ fun q hq => hrest q (List.mem_cons_of_mem _ hq)

namespace Parser.Lexical

variable {w v : List Terminal}

theorem of_append (h : Lexical (w ++ v)) : Lexical w ∧ Lexical v := List.forall_mem_append.1 h

theorem of_cons {t : Terminal} (h : Lexical (t :: w)) : t.lexeme.IsText ∧ Lexical w :=
  List.forall_mem_cons.1 h

end Parser.Lexical

/-! ### Derivations build complete trees -/

namespace Derivation

open SqlFront.Parser (Lexical)

-- One lemma per rule, by structural recursion on the derivation, as for `Cond.spells`; a
-- list of operations gives the condition after each operator.
mutual

theorem Cond.complete {w : List Terminal} {c : SqlFront.Cond} (h : Cond w c) (hw : Lexical w) :
    c.Complete := by
  match h with
  | .mk hc hd =>
    have hw := hw.of_append
    exact Cond.complete_chain (hc.complete hw.1) (hd.complete hw.2)
termination_by structural h

theorem Disjuncts.complete {w : List Terminal} {ps : List (Terminal × SqlFront.Cond)}
    (h : Disjuncts w ps) (hw : Lexical w) : ∀ p ∈ ps, p.2.Complete := by
  match h with
  | .nil => exact fun _ hp => nomatch hp
  | .cons _ hc hd =>
    have hw := hw.of_append
    exact List.forall_mem_cons.2 ⟨hc.complete hw.1.of_cons.2, hd.complete hw.2⟩
termination_by structural h

theorem Conj.complete {w : List Terminal} {c : SqlFront.Cond} (h : Conj w c) (hw : Lexical w) :
    c.Complete := by
  match h with
  | .mk hn hc =>
    have hw := hw.of_append
    exact Cond.complete_chain (hn.complete hw.1) (hc.complete hw.2)
termination_by structural h

theorem Conjuncts.complete {w : List Terminal} {ps : List (Terminal × SqlFront.Cond)}
    (h : Conjuncts w ps) (hw : Lexical w) : ∀ p ∈ ps, p.2.Complete := by
  match h with
  | .nil => exact fun _ hp => nomatch hp
  | .cons _ hn hc =>
    have hw := hw.of_append
    exact List.forall_mem_cons.2 ⟨hn.complete hw.1.of_cons.2, hc.complete hw.2⟩
termination_by structural h

theorem Neg.complete {w : List Terminal} {c : SqlFront.Cond} (h : Neg w c) (hw : Lexical w) :
    c.Complete := by
  match h with
  | .not _ hc => exact hc.complete hw.of_cons.2
  | .cmp hc => exact hc.complete hw
termination_by structural h

theorem Cmp.complete {w : List Terminal} {c : SqlFront.Cond} (h : Cmp w c) (hw : Lexical w) :
    c.Complete := by
  match h with
  | .single he => exact he.complete hw
  | .compare he _ _ he' =>
    have hw := hw.of_append
    exact ⟨he.complete hw.1, he'.complete hw.2.of_cons.2⟩
termination_by structural h

theorem Expr.complete {w : List Terminal} {c : SqlFront.Cond} (h : Expr w c) (hw : Lexical w) :
    c.Complete := by
  match h with
  | .mk ht hs =>
    have hw := hw.of_append
    exact Cond.complete_chain (ht.complete hw.1) (hs.complete hw.2)
termination_by structural h

theorem Summands.complete {w : List Terminal} {ps : List (Terminal × SqlFront.Cond)}
    (h : Summands w ps) (hw : Lexical w) : ∀ p ∈ ps, p.2.Complete := by
  match h with
  | .nil => exact fun _ hp => nomatch hp
  | .cons _ _ ht hs =>
    have hw := hw.of_append
    exact List.forall_mem_cons.2 ⟨ht.complete hw.1.of_cons.2, hs.complete hw.2⟩
termination_by structural h

theorem Term.complete {w : List Terminal} {c : SqlFront.Cond} (h : Term w c) (hw : Lexical w) :
    c.Complete := by
  match h with
  | .mk hf hfs =>
    have hw := hw.of_append
    exact Cond.complete_chain (hf.complete hw.1) (hfs.complete hw.2)
termination_by structural h

theorem Factors.complete {w : List Terminal} {ps : List (Terminal × SqlFront.Cond)}
    (h : Factors w ps) (hw : Lexical w) : ∀ p ∈ ps, p.2.Complete := by
  match h with
  | .nil => exact fun _ hp => nomatch hp
  | .cons _ _ hf hfs =>
    have hw := hw.of_append
    exact List.forall_mem_cons.2 ⟨hf.complete hw.1.of_cons.2, hfs.complete hw.2⟩
termination_by structural h

/-- A literal is the lexeme of its terminal. -/
theorem Factor.complete {w : List Terminal} {c : SqlFront.Cond} (h : Factor w c)
    (hw : Lexical w) : c.Complete := by
  match h with
  | .paren _ hc _ => exact hc.complete hw.of_append.1.of_cons.2
  | .column _ => trivial
  | .literal _ _ => exact hw.of_cons.1
termination_by structural h

end

theorem Filter.complete {w : List Terminal} {f : Option SqlFront.Cond} (h : Filter w f)
    (hw : Lexical w) : ∀ c ∈ f, c.Complete := by
  cases h with
  | none => exact fun _ hc => nomatch hc
  | some _ hc =>
    intro c' hc'
    cases hc'
    exact hc.complete hw.of_cons.2

/-- A `CREATE` carries its name. -/
theorem Stmt.complete {w : List Terminal} {x : SqlFront.Stmt} (h : Stmt w x) (hw : Lexical w) :
    x.Complete := by
  cases h with
  | create => rfl
  | insert => trivial
  | select _ _ _ _ hf => exact hf.complete (hw.of_cons.2.of_append.2.of_cons.2.of_cons.2)
  | update _ _ _ _ hf => exact hf.complete hw.of_append.2
  | delete _ _ _ hf => exact hf.complete (hw.of_cons.2.of_cons.2.of_cons.2)

theorem Program.complete {w : List Terminal} {p : SqlFront.Program} (h : Program w p)
    (hw : Lexical w) : ∀ x ∈ p, x.Complete := by
  induction h with
  | nil => exact fun _ hx => nomatch hx
  | stmt hs _ ih =>
    have hw := hw.of_append
    exact List.forall_mem_cons.2 ⟨hs.complete hw.1, ih hw.2⟩
  | stmtSemicolon hs _ _ ih =>
    have hw := hw.of_append
    exact List.forall_mem_cons.2 ⟨hs.complete hw.1, ih hw.2.of_cons.2⟩

end Derivation

/-! ### Scanned tokens -/

/-- The scanner makes no token of kind `EOF`. -/
theorem Scanner.Lexeme.ne_eof {k : TokenKind} {lex : Str} (h : Lexeme k lex) : k ≠ .eof := by
  cases h with
  | string | number | decimal => nofun
  | @word c ws =>
    intro hk
    have hmem := Scanner.wordKind_mem (Str.toString? (c :: ws))
    rw [hk] at hmem
    exact absurd hmem (by decide)
  | pair hp =>
    unfold pairKind? at hp
    split at hp <;> cases hp <;> nofun
  | single hp =>
    unfold singleKind? at hp
    split at hp <;> cases hp <;> nofun

theorem Scan.hasKind_eof (s : Str) :
    ∀ t ∈ (scan s).tokens.map Token.toTerminal, t.hasKind .eof = false := by
  intro t ht
  obtain ⟨u, hu, rfl⟩ := List.mem_map.1 ht
  have hlex := Scan.lexeme_of_mem_tokens s u hu
  simp [Terminal.hasKind, Token.kind?_toTerminal hlex.mem_named, hlex.ne_eof]

/-- **A parse without syntax errors is complete.** Every statement of a program parsed from
the tokens of a scan with no syntax error is complete. -/
theorem parseTokens_complete {s : Str} (h : (parseTokens (scan s).tokens).errors = []) :
    ∀ x ∈ (parseTokens (scan s).tokens).program, x.Complete := by
  have hs := (parse_errors_eq_nil_iff (Scan.hasKind_eof s)).1 h
  obtain ⟨prog, hd⟩ := sentence_iff_derivation.1 hs
  rw [parseTokens, parse_of_derivation hd]
  exact hd.complete (Parser.lexical_toTerminal _)

end SqlFront
