import SqlFront.Proofs.Soundness
import SqlFront.Proofs.Completeness
import SqlFront.Token.Scanner
/-!
# The parser accepts exactly its grammar

A list of terminals in which no terminal is of kind `EOF` parses with no syntax error exactly
when its kinds form a program of the grammar (`Sentence`, in `SqlFront.Proofs.Grammar`).

The two directions are the two halves of the parser's theory:

* *soundness* (`reads_programFrom`): a parse with no error has read a program, from the front
  of the terminals up to where the statement loop stopped. The loop stops only at a terminal of
  kind `EOF` or at the end (`programFrom_rest_end`); without such a terminal it read all of
  them.
* *completeness* (`leaves_programFrom`): a program is read to its end with no error.

A list of terminals made by hand may hold a kind that is no text. Such a terminal spells no
word, and the parse of a list that holds one before its end stops with a fault
(`parseTerminals`); so for lists made by hand the statement is that the parse returns a result
with no syntax error exactly for the sentences.

On a sentence the parser returns the tree of the sentence's derivation
(`parseTerminals_derivation_tree`), which is the only one: every derivation's tree is what the
parser builds (`parse_of_derivation`), so two derivations of the same terminals build the same
tree (`Derivation.Program.tree_unique`).
-/

namespace SqlFront

/-- Every terminal of a sentence is of some kind. -/
theorem Sentence.isSome_kind? {ts : List Terminal} (h : Sentence ts) :
    ∀ t ∈ ts, t.kind?.isSome := by
  obtain ⟨u, hs, -⟩ := h
  intro t ht
  have : t.kind? ∈ u.map some := by
    rw [← hs]
    exact List.mem_map_of_mem ht
  obtain ⟨k, -, hk⟩ := List.mem_map.1 this
  rw [← hk]
  rfl

/-- A terminal of some kind has a text for its kind, which can be a key. -/
theorem Terminal.isSome_key?_of_isSome_kind? {t : Terminal} (h : t.kind?.isSome) :
    t.kind.key?.isSome := by
  unfold Terminal.kind? at h
  split at h
  · next s hs => rw [hs]; rfl
  · cases h

/-- Terminals whose kinds can all be keys are parsed without a fault: whatever part of them the
parse passes, it looks up no kind that cannot be a key. -/
theorem lookupFault?_eq_none_of_keys {ts : List Terminal} (h : ∀ t ∈ ts, t.kind.key?.isSome) :
    lookupFault? ts = none := by
  unfold lookupFault? Parser.passed
  rw [Option.map_eq_none_iff, List.find?_eq_none]
  intro t ht
  rw [Bool.not_eq_true, Option.isNone_eq_false_iff]
  exact h t (List.mem_of_mem_take ht)

/-- A list of terminals that are all of some kind is parsed without a fault. -/
theorem lookupFault?_eq_none {ts : List Terminal} (h : ∀ t ∈ ts, t.kind?.isSome) :
    lookupFault? ts = none :=
  lookupFault?_eq_none_of_keys fun t ht => Terminal.isSome_key?_of_isSome_kind? (h t ht)

namespace Parser

/-- In terminals none of which is of kind `EOF`, a part that begins at the end or at a terminal
of kind `EOF` is empty. -/
theorem eq_nil_of_current_eof {ts w r : List Terminal} (h : ∀ t ∈ ts, t.hasKind .eof = false)
    (hts : ts = w ++ r) (hend : (current r).hasKind .eof) : r = [] := by
  cases r with
  | nil => rfl
  | cons t r =>
    rw [current_cons, h t (by rw [hts]; simp)] at hend
    cases hend

end Parser

/-- Without a terminal of kind `EOF`, a parse reports no error exactly when the terminals
spell a program. -/
theorem parse_errors_eq_nil_iff {ts : List Terminal} (h : ∀ t ∈ ts, t.hasKind .eof = false) :
    (parse ts).errors = [] ↔ Sentence ts := by
  show (Parser.programFrom (ts.length + 1) #[] ts).errors = [] ↔ Sentence ts
  constructor
  · intro he
    obtain ⟨w, u, hts, hs, hu⟩ := Parser.reads_programFrom (ts.length + 1) #[] ts he
    have hrest := Parser.eq_nil_of_current_eof h hts
      (Parser.programFrom_rest_end (ts.length + 1) #[] ts (Nat.lt_succ_self _))
    rw [hrest, List.append_nil] at hts
    exact ⟨u, hts ▸ hs, hu⟩
  · rintro ⟨u, hs, hu⟩
    exact (Parser.leaves_programFrom hu hs (Nat.lt_succ_self _) #[]).1

/-- A list of terminals none of which is of kind `EOF` parses, with no fault and no syntax
error, exactly when it spells a program of the grammar. -/
theorem parseTerminals_accepts_iff_sentence {ts : List Terminal}
    (h : ∀ t ∈ ts, t.hasKind .eof = false) :
    (∃ p, parseTerminals ts = .ok p ∧ p.errors = []) ↔ Sentence ts := by
  constructor
  · rintro ⟨p, hp, he⟩
    unfold parseTerminals at hp
    split at hp
    · cases hp
    · cases hp
      exact (parse_errors_eq_nil_iff h).1 he
  · intro hs
    refine ⟨parse ts, ?_, (parse_errors_eq_nil_iff h).2 hs⟩
    rw [parseTerminals, lookupFault?_eq_none hs.isSome_kind?]

theorem parseTerminals_accepts_iff_sentence_deleteFrom :
    (∀ t ∈ [Token.toTerminal ⟨.delete, "DELETE", 1, 1⟩, Token.toTerminal ⟨.from, "FROM", 1, 8⟩,
        Token.toTerminal ⟨.identifier, "t", 1, 13⟩], t.hasKind .eof = false) ∧
      ((∃ p, parseTerminals [Token.toTerminal ⟨.delete, "DELETE", 1, 1⟩,
          Token.toTerminal ⟨.from, "FROM", 1, 8⟩, Token.toTerminal ⟨.identifier, "t", 1, 13⟩] =
            .ok p ∧ p.errors = []) ↔
        Sentence [Token.toTerminal ⟨.delete, "DELETE", 1, 1⟩, Token.toTerminal ⟨.from, "FROM", 1, 8⟩,
          Token.toTerminal ⟨.identifier, "t", 1, 13⟩]) :=
  ⟨by decide, parseTerminals_accepts_iff_sentence (by decide)⟩

/-! ### The tree the parser builds -/

/-- The tree of a derivation is what the parser builds from its terminals, with no error. -/
theorem parse_of_derivation {ts : List Terminal} {prog : Program}
    (h : Derivation.Program ts prog) : parse ts = ⟨prog, []⟩ := by
  have hg := Parser.gives_programFrom h (Nat.lt_succ_self _) #[]
  show (⟨(Parser.programFrom (ts.length + 1) #[] ts).value,
    (Parser.programFrom (ts.length + 1) #[] ts).errors⟩ : Parse) = ⟨prog, []⟩
  rw [hg.2, hg.1.1]
  rfl

/-- **The grammar is unambiguous**: terminals have at most one derivation tree. -/
theorem Derivation.Program.tree_unique {ts : List Terminal} {p₁ p₂ : SqlFront.Program}
    (h₁ : Derivation.Program ts p₁) (h₂ : Derivation.Program ts p₂) : p₁ = p₂ := by
  have h := (parse_of_derivation h₁).symm.trans (parse_of_derivation h₂)
  exact congrArg Parse.program h

/-- **The parser builds the tree of the one derivation.** A sentence of the grammar has exactly
one derivation tree, and the parser returns it with no fault and no syntax error: statements in
order, each chain of one precedence nested to the left with its operators' lexemes and places,
and names, types and values as their lexemes. -/
theorem parseTerminals_derivation_tree {ts : List Terminal} (h : Sentence ts) :
    ∃ prog, (∀ prog', Derivation.Program ts prog' ↔ prog' = prog) ∧
      parseTerminals ts = .ok ⟨prog, []⟩ := by
  obtain ⟨prog, hd⟩ := sentence_iff_derivation.1 h
  refine ⟨prog, fun prog' => ⟨fun hd' => hd'.tree_unique hd, fun he => he ▸ hd⟩, ?_⟩
  rw [parseTerminals, lookupFault?_eq_none h.isSome_kind?, parse_of_derivation hd]

theorem parseTerminals_derivation_tree_delete :
    Sentence ((scan "DELETE FROM t WHERE a OR b AND NOT c = 1 - 2 - 3").tokens.map
        Token.toTerminal) ∧
      ∃ prog, (∀ prog', Derivation.Program ((scan "DELETE FROM t WHERE a OR b AND NOT c = 1 - 2 - 3"
          ).tokens.map Token.toTerminal) prog' ↔ prog' = prog) ∧
        parseTerminals ((scan "DELETE FROM t WHERE a OR b AND NOT c = 1 - 2 - 3").tokens.map
          Token.toTerminal) = .ok ⟨prog, []⟩ := by
  have hs : Sentence ((scan "DELETE FROM t WHERE a OR b AND NOT c = 1 - 2 - 3").tokens.map
      Token.toTerminal) :=
    (parse_errors_eq_nil_iff (by decide +kernel)).1 (List.isEmpty_iff.1 (by decide +kernel))
  exact ⟨hs, parseTerminals_derivation_tree hs⟩

end SqlFront
