import SqlFront.Proofs.ParseSteps
/-!
# The parser's names and values are lexemes

Every name and every value in a parsed program is the lexeme of a terminal it read, or nothing
where a name was missing (`lexemeOf none`, and the placeholder literal of a missing operand).
The values it inserts or assigns are read off terminals of a value kind, and the literals of its
conditions off terminals of a literal kind. So for any class `R` of terminals, a program parsed
from terminals of the class reads its names and values from terminals of the class
(`Stmt.ReadFrom`, `parse_readFrom`).

Two classes are used. When the lexemes of the terminals are texts (`Parser.Lexical`), the
program is *textual* (`Stmt.Textual`): its names are texts or nothing (`Datum.IsName`), and the
values it inserts or assigns are texts (`Datum.IsText`). This is what the analysis needs of a
tree to check it to the end: a name that is a text or nothing is a key, and the type of a value
is read off a text. When the terminals are the tokens of a scan, each value of the program is
the lexeme of a scanned token of a value kind, which is what the types of literals rest on.

The proof follows the parser function by function, like the soundness proof: a parse of
terminals of the class stops at terminals of the class, and its value reads from the class
(`Parsed.Yields`). What a parse leaves is a suffix of what it was given, but no lemma says so
for all functions at once; the invariant carries it instead.
-/

namespace SqlFront

/-- A datum read off a text lexeme. -/
def Datum.IsText (d : Datum) : Prop := ∃ s, d = .str s

/-- A name the parser reads: a text, or nothing where the name is missing. -/
def Datum.IsName (d : Datum) : Prop := d = .none ∨ d.IsText

theorem Datum.IsText.isName {d : Datum} (h : d.IsText) : d.IsName := .inr h

/-- The columns and literals of a condition are names. -/
def Cond.Textual : Cond → Prop
  | .binary _ l r _ => l.Textual ∧ r.Textual
  | .not c => c.Textual
  | .column n _ => n.IsName
  | .literal v _ => v.IsName

/-- The names of a statement are names, and the values it inserts or assigns are texts. -/
def Stmt.Textual : Stmt → Prop
  | .create t cols => (∀ p ∈ t, p.1.IsName) ∧ ∀ c ∈ cols, c.1.IsName ∧ c.2.IsName
  | .insert t vals _ => t.IsName ∧ ∀ v ∈ vals, v.IsText
  | .select items t f _ => (∀ i ∈ items, i.IsName) ∧ t.IsName ∧ ∀ c ∈ f, c.Textual
  | .update t assigns f _ => t.IsName ∧ (∀ a ∈ assigns, a.1.IsName ∧ a.2.IsText) ∧ ∀ c ∈ f, c.Textual
  | .delete t f _ => t.IsName ∧ ∀ c ∈ f, c.Textual

/-! ### Reading from a class of terminals -/

section Classes

variable (R : Terminal → Prop)

/-- The datum is the lexeme of a terminal of the class `R`. -/
def Datum.ReadFrom (d : Datum) : Prop := ∃ t, R t ∧ t.lexeme = d

/-- A name read off a terminal of the class `R`, or nothing where the name is missing. -/
def Datum.NameFrom (d : Datum) : Prop := d = .none ∨ d.ReadFrom R

/-- A value read off a terminal of the class `R` of a value kind. -/
def Datum.ValueFrom (d : Datum) : Prop :=
  d.ReadFrom fun t => R t ∧ t.kindIs TokenKind.isValue

/-- The columns of a condition are names read from `R`, and its literals are read from
terminals of `R` of a literal kind, but for the placeholder of a missing operand. -/
def Cond.ReadFrom : Cond → Prop
  | .binary _ l r _ => l.ReadFrom ∧ r.ReadFrom
  | .not c => c.ReadFrom
  | .column n _ => n.NameFrom R
  | .literal v _ => v = .none ∨ v.ReadFrom fun t => R t ∧ t.kindIs TokenKind.isLiteral

/-- The names of a statement are read from `R` (a selected item may also be the star), and the
values it inserts or assigns are values read from `R`. -/
def Stmt.ReadFrom : Stmt → Prop
  | .create t cols => (∀ p ∈ t, p.1.NameFrom R) ∧ ∀ c ∈ cols, c.1.NameFrom R ∧ c.2.NameFrom R
  | .insert t vals _ => t.NameFrom R ∧ ∀ v ∈ vals, v.ValueFrom R
  | .select items t f _ =>
    (∀ i ∈ items, i = .str "*" ∨ i.ReadFrom R) ∧ t.NameFrom R ∧ ∀ c ∈ f, c.ReadFrom R
  | .update t assigns f _ =>
    t.NameFrom R ∧ (∀ a ∈ assigns, a.1.NameFrom R ∧ a.2.ValueFrom R) ∧ ∀ c ∈ f, c.ReadFrom R
  | .delete t f _ => t.NameFrom R ∧ ∀ c ∈ f, c.ReadFrom R

end Classes

/-! ### Text lexemes make textual programs -/

section Text

/-- The terminals whose lexemes are texts. -/
abbrev TextLexeme (t : Terminal) : Prop := t.lexeme.IsText

theorem Datum.ReadFrom.isText {d : Datum} {R : Terminal → Prop} (h : d.ReadFrom R)
    (hR : ∀ t, R t → TextLexeme t) : d.IsText := by
  obtain ⟨t, ht, rfl⟩ := h
  exact hR t ht

theorem Datum.NameFrom.isName {d : Datum} (h : d.NameFrom TextLexeme) : d.IsName :=
  h.imp id fun h => h.isText fun _ => id

theorem Cond.ReadFrom.textual {c : Cond} (h : c.ReadFrom TextLexeme) : c.Textual := by
  induction c with
  | binary _ l r _ ihl ihr => exact ⟨ihl h.1, ihr h.2⟩
  | not c ih => exact ih h
  | column n _ => exact Datum.NameFrom.isName h
  | literal v _ => exact h.imp id fun h => h.isText fun _ ht => ht.1

theorem Stmt.ReadFrom.textual {x : Stmt} (h : x.ReadFrom TextLexeme) : x.Textual := by
  cases x with
  | create t cols =>
    exact ⟨fun p hp => (h.1 p hp).isName, fun c hc => ⟨(h.2 c hc).1.isName, (h.2 c hc).2.isName⟩⟩
  | insert t vals _ => exact ⟨h.1.isName, fun v hv => (h.2 v hv).isText fun _ ht => ht.1⟩
  | select items t f _ =>
    refine ⟨fun i hi => ?_, h.2.1.isName, fun c hc => (h.2.2 c hc).textual⟩
    rcases h.1 i hi with rfl | hi
    · exact Datum.IsText.isName ⟨_, rfl⟩
    · exact (hi.isText fun _ => id).isName
  | update t assigns f _ =>
    exact ⟨h.1.isName, fun a ha => ⟨(h.2.1 a ha).1.isName,
      (h.2.1 a ha).2.isText fun _ ht => ht.1⟩, fun c hc => (h.2.2 c hc).textual⟩
  | delete t f _ => exact ⟨h.1.isName, fun c hc => (h.2 c hc).textual⟩

end Text

namespace Parser

/-- Terminals whose lexemes are texts. -/
def Lexical (ts : List Terminal) : Prop := ∀ t ∈ ts, t.lexeme.IsText

/-- The terminals of scanned tokens have text lexemes. -/
theorem lexical_toTerminal (ts : List Token) : Lexical (ts.map Token.toTerminal) := by
  intro t ht
  obtain ⟨tok, -, rfl⟩ := List.mem_map.1 ht
  exact ⟨_, rfl⟩

section Invariant

variable {R : Terminal → Prop}

/-- Every terminal the parser may look at in `ts` is of the class `R`: the terminals of `ts`, and
the end marker past them. -/
def Every (R : Terminal → Prop) (ts : List Terminal) : Prop :=
  R Terminal.endMarker ∧ ∀ t ∈ ts, R t

theorem Every.current {ts : List Terminal} (h : Every R ts) : R (current ts) := by
  cases ts with
  | nil => exact h.1
  | cons t r => exact h.2 t List.mem_cons_self

theorem Every.head {t : Terminal} {r : List Terminal} (h : Every R (t :: r)) : R t :=
  h.current

theorem Every.tail {ts : List Terminal} (h : Every R ts) : Every R ts.tail :=
  ⟨h.1, fun u hu => h.2 u (List.mem_of_mem_tail hu)⟩

theorem Every.recover {ts : List Terminal} (h : Every R ts) : Every R (recover ts) := by
  obtain ⟨pre, hpre⟩ := recover_suffix ts
  refine ⟨h.1, fun t ht => h.2 t ?_⟩
  rw [hpre]
  exact List.mem_append_right _ ht

theorem Every.accept {ts : List Terminal} {k : TokenKind}
    {r : { r : List Terminal // r.length < ts.length }} (h : Every R ts)
    (hacc : accept k ts = some r) : Every R r.1 := by
  obtain ⟨t, hts, -⟩ := eq_cons_of_accept hacc
  rw [hts] at h
  exact h.tail

/-- A parse of terminals of the class `R` stops at terminals of the class, and its value
satisfies `P`. -/
def Parsed.Yields {ts : List Terminal} (R : Terminal → Prop) (P : α → Prop) (p : Parsed ts α) :
    Prop :=
  Every R p.rest ∧ P p.value

namespace Parsed.Yields

variable {ts : List Terminal} {P : α → Prop} {Q : β → Prop}

theorem done (h : Every R ts) {v : α} (hv : P v) : (Parsed.done ts v).Yields R P := ⟨h, hv⟩

theorem map {p : Parsed ts α} (h : p.Yields R P) {f : α → β} (hf : ∀ a, P a → Q (f a)) :
    (p.map f).Yields R Q :=
  ⟨h.1, hf _ h.2⟩

theorem imp {p : Parsed ts α} (h : p.Yields R P) {Q : α → Prop} (hPQ : ∀ a, P a → Q a) :
    p.Yields R Q :=
  ⟨h.1, hPQ _ h.2⟩

/-- The continuation is read at what `p` left, which is of the class. -/
theorem andThen {p : Parsed ts α} {q : α → (r : List Terminal) → Parsed r β} (hp : p.Yields R P)
    (hq : ∀ a, P a → Every R p.rest → (q a p.rest).Yields R Q) : (p.andThen q).Yields R Q :=
  hq _ hp.2 hp.1

theorem extend {p : Parsed ts α} {r : List Terminal} {h : r.length ≤ p.rest.length}
    {q : Parsed r β} (hq : q.Yields R Q) : (p.extend h q).Yields R Q :=
  hq

theorem after (t : Terminal) {r : List Terminal} {q : Parsed r α} (hq : q.Yields R P) :
    (q.after t).Yields R P :=
  hq

end Parsed.Yields

open Parsed (Yields)

theorem yields_fail (e : Expectation) {ts : List Terminal} (h : Every R ts) :
    (fail e ts).Yields R fun _ => True :=
  ⟨h.recover, trivial⟩

/-- An `expect` reads the terminal it looks at, or none. -/
theorem yields_expect (k : TokenKind) {ts : List Terminal} (h : Every R ts) :
    (expect k ts).Yields R fun o => ∀ t ∈ o, R t := by
  unfold expect
  split
  · exact ⟨h.tail, fun t ht => by cases ht; exact h.current⟩
  · exact (yields_fail _ h).map fun _ _ u hu => by cases hu

theorem lexemeOf_nameFrom {o : Option Terminal} (h : ∀ t ∈ o, R t) : (lexemeOf o).NameFrom R := by
  cases o with
  | none => exact .inl rfl
  | some t => exact .inr ⟨t, h t rfl, rfl⟩

theorem yields_missingOperand {ts : List Terminal} (h : Every R ts) :
    (missingOperand ts).Yields R (Cond.ReadFrom R) := by
  refine ⟨?_, .inl rfl⟩
  rw [missingOperand_rest]
  exact h.recover.tail

/-! ### Conditions -/

mutual

theorem yields_disjunction (ts : List Terminal) (h : Every R ts) :
    (disjunction ts).Yields R (Cond.ReadFrom R) := by
  rw [disjunction_eq]
  have := (conjunction ts).rest_le
  exact (yields_conjunction ts h).andThen fun c hc hr => yields_disjunctionTail c _ hc hr
termination_by ts.length * 16 + 12
decreasing_by all_goals omega

theorem yields_disjunctionTail (acc : Cond) (ts : List Terminal) (hacc : acc.ReadFrom R)
    (h : Every R ts) : (disjunctionTail acc ts).Yields R (Cond.ReadFrom R) := by
  match ts, h with
  | [], h => rw [disjunctionTail_nil]; exact .done h hacc
  | t :: r, h =>
    rw [disjunctionTail_cons]
    split
    · have := (conjunction r).rest_le
      exact ((yields_conjunction r h.tail).andThen fun c hc hr =>
        yields_disjunctionTail (.binary t.lexeme acc c t.place) _ ⟨hacc, hc⟩ hr).after t
    · exact .done h hacc
termination_by ts.length * 16 + 11
decreasing_by all_goals (try simp only [List.length_cons]); omega

theorem yields_conjunction (ts : List Terminal) (h : Every R ts) :
    (conjunction ts).Yields R (Cond.ReadFrom R) := by
  rw [conjunction_eq]
  have := (negation ts).rest_le
  exact (yields_negation ts h).andThen fun c hc hr => yields_conjunctionTail c _ hc hr
termination_by ts.length * 16 + 10
decreasing_by all_goals omega

theorem yields_conjunctionTail (acc : Cond) (ts : List Terminal) (hacc : acc.ReadFrom R)
    (h : Every R ts) : (conjunctionTail acc ts).Yields R (Cond.ReadFrom R) := by
  match ts, h with
  | [], h => rw [conjunctionTail_nil]; exact .done h hacc
  | t :: r, h =>
    rw [conjunctionTail_cons]
    split
    · have := (negation r).rest_le
      exact ((yields_negation r h.tail).andThen fun c hc hr =>
        yields_conjunctionTail (.binary t.lexeme acc c t.place) _ ⟨hacc, hc⟩ hr).after t
    · exact .done h hacc
termination_by ts.length * 16 + 9
decreasing_by all_goals (try simp only [List.length_cons]); omega

theorem yields_negation (ts : List Terminal) (h : Every R ts) :
    (negation ts).Yields R (Cond.ReadFrom R) := by
  match ts, h with
  | [], h => rw [negation_nil]; exact yields_comparison [] h
  | t :: r, h =>
    rw [negation_cons]
    split
    · exact ((yields_comparison r h.tail).map fun _ hc => hc).after t
    · exact yields_comparison (t :: r) h
termination_by ts.length * 16 + 8
decreasing_by all_goals (try simp only [List.length_cons]); omega

theorem yields_comparison (ts : List Terminal) (h : Every R ts) :
    (comparison ts).Yields R (Cond.ReadFrom R) := by
  rw [comparison_eq]
  have := (expression ts).rest_le
  exact (yields_expression ts h).andThen fun l hl hr => yields_comparisonRest l _ hl hr
termination_by ts.length * 16 + 7
decreasing_by all_goals omega

theorem yields_comparisonRest (l : Cond) (ts : List Terminal) (hl : l.ReadFrom R)
    (h : Every R ts) : (comparisonRest l ts).Yields R (Cond.ReadFrom R) := by
  match ts, h with
  | [], h => exact .done h hl
  | t :: r, h =>
    simp only [comparisonRest]
    split
    · exact ((yields_expression r h.tail).map fun _ hc => ⟨hl, hc⟩).after t
    · exact .done h hl
termination_by ts.length * 16 + 6
decreasing_by all_goals (try simp only [List.length_cons]); omega

theorem yields_expression (ts : List Terminal) (h : Every R ts) :
    (expression ts).Yields R (Cond.ReadFrom R) := by
  rw [expression_eq]
  have := (term ts).rest_le
  exact (yields_term ts h).andThen fun c hc hr => yields_expressionTail c _ hc hr
termination_by ts.length * 16 + 5
decreasing_by all_goals omega

theorem yields_expressionTail (acc : Cond) (ts : List Terminal) (hacc : acc.ReadFrom R)
    (h : Every R ts) : (expressionTail acc ts).Yields R (Cond.ReadFrom R) := by
  match ts, h with
  | [], h => rw [expressionTail_nil]; exact .done h hacc
  | t :: r, h =>
    rw [expressionTail_cons]
    split
    · have := (term r).rest_le
      exact ((yields_term r h.tail).andThen fun c hc hr =>
        yields_expressionTail (.binary t.lexeme acc c t.place) _ ⟨hacc, hc⟩ hr).after t
    · exact .done h hacc
termination_by ts.length * 16 + 4
decreasing_by all_goals (try simp only [List.length_cons]); omega

theorem yields_term (ts : List Terminal) (h : Every R ts) :
    (term ts).Yields R (Cond.ReadFrom R) := by
  rw [term_eq]
  have := (factor ts).rest_le
  exact (yields_factor ts h).andThen fun c hc hr => yields_termTail c _ hc hr
termination_by ts.length * 16 + 3
decreasing_by all_goals omega

theorem yields_termTail (acc : Cond) (ts : List Terminal) (hacc : acc.ReadFrom R)
    (h : Every R ts) : (termTail acc ts).Yields R (Cond.ReadFrom R) := by
  match ts, h with
  | [], h => rw [termTail_nil]; exact .done h hacc
  | t :: r, h =>
    rw [termTail_cons]
    split
    · have := (factor r).rest_le
      exact ((yields_factor r h.tail).andThen fun c hc hr =>
        yields_termTail (.binary t.lexeme acc c t.place) _ ⟨hacc, hc⟩ hr).after t
    · exact .done h hacc
termination_by ts.length * 16 + 2
decreasing_by all_goals (try simp only [List.length_cons]); omega

/-- A column is read off a name, and a literal off a terminal of a literal kind. -/
theorem yields_factor (ts : List Terminal) (h : Every R ts) :
    (factor ts).Yields R (Cond.ReadFrom R) := by
  match ts, h with
  | [], h => rw [factor_nil]; exact yields_missingOperand h
  | t :: r, h =>
    rw [factor_cons]
    split
    · have := (disjunction r).rest_le
      exact ((yields_disjunction r h.tail).andThen fun c hc hr =>
        (yields_expect _ hr).map fun _ _ => hc).after t
    split
    · exact (Parsed.Yields.done h.tail (.inr ⟨t, h.head, rfl⟩)).after t
    split
    · next hlit => exact (Parsed.Yields.done h.tail (.inr ⟨t, ⟨h.head, hlit⟩, rfl⟩)).after t
    · exact yields_missingOperand h
termination_by ts.length * 16 + 1
decreasing_by all_goals (try simp only [List.length_cons]); omega

end

/-! ### Statements -/

theorem yields_filter (ts : List Terminal) (h : Every R ts) :
    (filter ts).Yields R fun o => ∀ c ∈ o, c.ReadFrom R := by
  cases ts with
  | nil => exact .done h nofun
  | cons t r =>
    rw [filter_cons]
    split
    · exact ((yields_disjunction r h.tail).map fun _ hc c hc' => by cases hc'; exact hc).after t
    · exact .done h nofun

theorem yields_columnDef (ts : List Terminal) (h : Every R ts) :
    (columnDef ts).Yields R fun c => c.1.NameFrom R ∧ c.2.NameFrom R := by
  unfold columnDef
  refine (yields_expect _ h).andThen fun name hname hr => ?_
  -- the type is a type word, read as it is, or a name
  generalize (expect .identifier ts).rest = r at hr ⊢
  cases r with
  | nil =>
    exact (yields_expect _ hr).map fun _ hty => ⟨lexemeOf_nameFrom hname, lexemeOf_nameFrom hty⟩
  | cons t r =>
    dsimp only
    split
    · exact ⟨hr.tail, lexemeOf_nameFrom hname, .inr ⟨t, hr.head, rfl⟩⟩
    · exact (yields_expect _ hr).map fun _ hty => ⟨lexemeOf_nameFrom hname, lexemeOf_nameFrom hty⟩

/-- The definitions of `CREATE` keep any property `Q` that a single definition yields. -/
theorem yields_columnDefsFrom_of {Q : Datum × Datum → Prop}
    (hdef : ∀ ts, Every R ts → (columnDef ts).Yields R Q) (acc : Array (Datum × Datum))
    (ts : List Terminal) (hacc : ∀ c ∈ acc, Q c) (h : Every R ts) :
    (columnDefsFrom acc ts).Yields R fun cs => ∀ c ∈ cs, Q c := by
  rw [columnDefsFrom]
  have hc := hdef ts h
  have hacc' : ∀ c ∈ acc.push (columnDef ts).value, Q c := Array.forall_mem_push.2 ⟨hc.2, hacc⟩
  have hle := (columnDef ts).rest_le
  rcases ha : accept .comma (columnDef ts).rest with _ | ⟨r, hr⟩
  · exact ⟨hc.1, fun c hc' => hacc' c (Array.mem_toList_iff.1 hc')⟩
  · exact .extend (yields_columnDefsFrom_of hdef _ r hacc' (hc.1.accept ha))
termination_by ts.length
decreasing_by omega

theorem yields_columnDefs_of {Q : Datum × Datum → Prop}
    (hdef : ∀ ts, Every R ts → (columnDef ts).Yields R Q) (ts : List Terminal) (h : Every R ts) :
    (columnDefs ts).Yields R fun cs => ∀ c ∈ cs, Q c := by
  unfold columnDefs
  split
  · exact yields_columnDefsFrom_of hdef _ ts (by simp) h
  · exact (yields_fail _ h).map fun _ _ => nofun

theorem yields_columnDefs (ts : List Terminal) (h : Every R ts) :
    (columnDefs ts).Yields R fun cs => ∀ c ∈ cs, c.1.NameFrom R ∧ c.2.NameFrom R :=
  yields_columnDefs_of yields_columnDef ts h

/-- A value is read off a terminal of a value kind. -/
theorem yields_valuesFrom (acc : Array Datum) (ts : List Terminal)
    (hacc : ∀ v ∈ acc, v.ValueFrom R) (h : Every R ts) :
    (valuesFrom acc ts).Yields R fun vs => ∀ v ∈ vs, v.ValueFrom R := by
  match ts, h with
  | [], h =>
    rw [valuesFrom]
    exact (yields_fail _ h).map fun _ _ v hv => hacc v (Array.mem_toList_iff.1 hv)
  | t :: r, h =>
    rw [valuesFrom]
    split
    · next hval =>
      have hacc' : ∀ v ∈ acc.push t.lexeme, v.ValueFrom R :=
        Array.forall_mem_push.2 ⟨⟨t, ⟨h.head, hval⟩, rfl⟩, hacc⟩
      rcases ha : accept .comma r with _ | ⟨r', hr'⟩
      · exact ⟨h.tail, fun v hv => hacc' v (Array.mem_toList_iff.1 hv)⟩
      · exact yields_valuesFrom _ r' hacc' (h.tail.accept ha)
    · exact (yields_fail _ h).map fun _ _ v hv => hacc v (Array.mem_toList_iff.1 hv)
termination_by ts.length
decreasing_by simp only [List.length_cons]; omega

theorem yields_valueList (ts : List Terminal) (h : Every R ts) :
    (valueList ts).Yields R fun vs => ∀ v ∈ vs, v.ValueFrom R := by
  unfold valueList
  split
  · exact yields_valuesFrom _ ts (by simp) h
  · exact (yields_fail _ h).map fun _ _ => nofun

theorem yields_selectItemsFrom (acc : Array Datum) (ts : List Terminal)
    (hacc : ∀ i ∈ acc, i.ReadFrom R) (h : Every R ts) :
    (selectItemsFrom acc ts).Yields R fun is => ∀ i ∈ is, i.ReadFrom R := by
  rw [selectItemsFrom]
  rcases ha : accept .comma ts with _ | ⟨r, hr⟩
  · exact ⟨h, fun i hi => hacc i (Array.mem_toList_iff.1 hi)⟩
  · dsimp only
    have hi := yields_expect .identifier (h.accept ha)
    rcases he : expect .identifier r with ⟨item, e₁, r₁, h₁'⟩
    rw [he] at hi
    dsimp only
    -- the value and the rest are those of the loop on the further items
    generalize hp : selectItemsFrom _ r₁ = p
    rcases p with ⟨v, e₂, r₂, h₂⟩
    have hv := congrArg Parsed.value hp
    have hr₂ := congrArg Parsed.rest hp
    dsimp only at hv hr₂
    show Every R r₂ ∧ ∀ i ∈ v, i.ReadFrom R
    rw [← hv, ← hr₂]
    refine yields_selectItemsFrom _ r₁ ?_ hi.1
    cases item with
    | none => exact hacc
    | some t => exact Array.forall_mem_push.2 ⟨⟨t, hi.2 t rfl, rfl⟩, hacc⟩
termination_by ts.length
decreasing_by
  have : r₁.length ≤ r.length := by
    have := (expect .identifier r).rest_le
    rw [he] at this
    exact this
  omega

theorem yields_selectItems (ts : List Terminal) (h : Every R ts) :
    (selectItems ts).Yields R fun is => ∀ i ∈ is, i = .str "*" ∨ i.ReadFrom R := by
  unfold selectItems
  rcases ha : accept .multiply ts with _ | ⟨r, hr⟩
  · refine (yields_expect _ h).andThen fun first hfirst hr => ?_
    cases first with
    | some t =>
      have hacc : ∀ i ∈ #[t.lexeme], i.ReadFrom R := by simpa using ⟨t, hfirst t rfl, rfl⟩
      exact (yields_selectItemsFrom _ _ hacc hr).imp fun _ his i hi => .inr (his i hi)
    | none => exact (yields_fail _ hr).map fun _ _ => nofun
  · refine ⟨h.accept ha, ?_⟩
    simp

/-- An assigned value is read off a terminal of a value kind. -/
theorem yields_assignment (ts : List Terminal) (h : Every R ts) :
    (assignment ts).Yields R fun o => ∀ a ∈ o, a.1.NameFrom R ∧ a.2.ValueFrom R := by
  unfold assignment
  refine (yields_expect _ h).andThen fun name hname hr =>
    (yields_expect _ hr).andThen fun _ _ hr => ?_
  -- the value is read as it is
  generalize (expect .equal (expect .identifier ts).rest).rest = r at hr ⊢
  cases r with
  | nil => exact (yields_fail _ hr).map fun _ _ => nofun
  | cons t r =>
    dsimp only
    split
    · next hval =>
      refine ⟨hr.tail, ?_⟩
      rintro a ⟨⟩
      exact ⟨lexemeOf_nameFrom hname, t, ⟨hr.head, hval⟩, rfl⟩
    · exact (yields_fail _ hr).map fun _ _ => nofun

/-- The items read so far, with the one just read if there is one. -/
theorem forall_mem_pushSome {P : Datum × Datum → Prop} {acc : Array (Datum × Datum)}
    (hacc : ∀ a ∈ acc, P a) : ∀ {o : Option (Datum × Datum)}, (∀ a ∈ o, P a) →
      ∀ a ∈ (match o with | some x => acc.push x | none => acc), P a
  | none, _ => hacc
  | some x, ho => Array.forall_mem_push.2 ⟨ho x rfl, hacc⟩

theorem yields_assignmentsFrom (acc : Array (Datum × Datum)) (ts : List Terminal)
    (hacc : ∀ a ∈ acc, a.1.NameFrom R ∧ a.2.ValueFrom R) (h : Every R ts) :
    (assignmentsFrom acc ts).Yields R fun as => ∀ a ∈ as, a.1.NameFrom R ∧ a.2.ValueFrom R := by
  rw [assignmentsFrom]
  have ha := yields_assignment ts h
  -- the assignments so far, with the one just read if it has a value
  have hacc' := forall_mem_pushSome hacc ha.2
  have hle := (assignment ts).rest_le
  rcases hc : accept .comma (assignment ts).rest with _ | ⟨r, hr⟩
  · exact ha.map fun _ _ a ha' => hacc' a (Array.mem_toList_iff.1 ha')
  · exact .extend (yields_assignmentsFrom _ r hacc' (ha.1.accept hc))
termination_by ts.length
decreasing_by omega

theorem yields_create (ts : List Terminal) (h : Every R ts) :
    (create ts).Yields R (Stmt.ReadFrom R) := by
  unfold create
  refine (yields_expect _ h).andThen fun _ _ hr => (yields_expect _ hr).andThen fun _ _ hr =>
    (yields_expect _ hr).andThen fun name hname hr => (yields_expect _ hr).andThen fun _ _ hr =>
    (yields_columnDefs _ hr).andThen fun cols hcols hr => (yields_expect _ hr).map fun _ _ => ?_
  refine ⟨?_, hcols⟩
  intro p hp
  obtain ⟨t, ht, rfl⟩ := Option.map_eq_some_iff.1 hp
  exact .inr ⟨t, hname t ht, rfl⟩

theorem yields_insert (kw : Terminal) (ts : List Terminal) (h : Every R ts) :
    (insert kw ts).Yields R (Stmt.ReadFrom R) := by
  unfold insert
  exact (yields_expect _ h).andThen fun _ _ hr => (yields_expect _ hr).andThen fun _ htable hr =>
    (yields_expect _ hr).andThen fun _ _ hr => (yields_expect _ hr).andThen fun _ _ hr =>
    (yields_valueList _ hr).andThen fun _ hvals hr => (yields_expect _ hr).map fun _ _ =>
      ⟨lexemeOf_nameFrom htable, hvals⟩

theorem yields_select (kw : Terminal) (ts : List Terminal) (h : Every R ts) :
    (select kw ts).Yields R (Stmt.ReadFrom R) := by
  unfold select
  exact (yields_selectItems _ h).andThen fun _ hitems hr =>
    (yields_expect _ hr).andThen fun _ _ hr => (yields_expect _ hr).andThen fun _ htable hr =>
    (yields_filter _ hr).map fun _ hcond => ⟨hitems, lexemeOf_nameFrom htable, hcond⟩

theorem yields_update (kw : Terminal) (ts : List Terminal) (h : Every R ts) :
    (update kw ts).Yields R (Stmt.ReadFrom R) := by
  unfold update
  exact (yields_expect _ h).andThen fun _ htable hr => (yields_expect _ hr).andThen fun _ _ hr =>
    (yields_assignmentsFrom _ _ (by simp) hr).andThen fun _ hassigns hr =>
    (yields_filter _ hr).map fun _ hcond => ⟨lexemeOf_nameFrom htable, hassigns, hcond⟩

theorem yields_delete (kw : Terminal) (ts : List Terminal) (h : Every R ts) :
    (delete kw ts).Yields R (Stmt.ReadFrom R) := by
  unfold delete
  exact (yields_expect _ h).andThen fun _ _ hr => (yields_expect _ hr).andThen fun _ htable hr =>
    (yields_filter _ hr).map fun _ hcond => ⟨lexemeOf_nameFrom htable, hcond⟩

/-- A property of statements that the function of each keyword yields is yielded by the
statement function. -/
theorem yields_statement_of {P : Stmt → Prop}
    (hcreate : ∀ ts, Every R ts → (create ts).Yields R P)
    (hinsert : ∀ kw ts, Every R ts → (insert kw ts).Yields R P)
    (hselect : ∀ kw ts, Every R ts → (select kw ts).Yields R P)
    (hupdate : ∀ kw ts, Every R ts → (update kw ts).Yields R P)
    (hdelete : ∀ kw ts, Every R ts → (delete kw ts).Yields R P) (ts : List Terminal)
    (h : Every R ts) : (statement ts).Yields R fun o => ∀ x ∈ o, P x := by
  cases ts with
  | nil =>
    rw [statement_of_not_startsStatement rfl]
    exact (yields_fail _ h).map fun _ _ => nofun
  | cons t r =>
    have hsome : ∀ {r' : List Terminal} {p : Parsed r' Stmt}, p.Yields R P →
        (p.map some).Yields R fun o => ∀ x ∈ o, P x :=
      fun hp => hp.map fun _ hx _ hx' => by cases hx'; exact hx
    by_cases hk : t.kindIs TokenKind.startsStatement
    · obtain ⟨k, hk', hsk⟩ := Terminal.kindIs_iff.1 hk
      rcases TokenKind.startsStatement_iff.1 hsk with rfl | rfl | rfl | rfl | rfl
      · rw [statement_of_create r hk']; exact hsome (hcreate _ h)
      · rw [statement_of_insert r hk']; exact (hsome (hinsert t r h.tail)).after t
      · rw [statement_of_select r hk']; exact (hsome (hselect t r h.tail)).after t
      · rw [statement_of_update r hk']; exact (hsome (hupdate t r h.tail)).after t
      · rw [statement_of_delete r hk']; exact (hsome (hdelete t r h.tail)).after t
    · rw [statement_of_not_startsStatement (by simpa using hk)]
      exact (yields_fail _ h).map fun _ _ => nofun

theorem yields_statement (ts : List Terminal) (h : Every R ts) :
    (statement ts).Yields R fun o => ∀ x ∈ o, x.ReadFrom R :=
  yields_statement_of yields_create yields_insert yields_select yields_update yields_delete ts h

theorem yields_terminator (ts : List Terminal) (h : Every R ts) :
    (terminator ts).Yields R fun _ => True := by
  cases ts with
  | nil => exact .done h trivial
  | cons t r =>
    dsimp only [terminator]
    split
    · exact ⟨h.tail, trivial⟩
    split
    · exact .done h trivial
    · have hf := yields_fail .terminator h
      rcases ha : accept .semicolon (fail .terminator (t :: r)).rest with _ | ⟨r', hr'⟩
      · exact hf
      · exact ⟨hf.1.accept ha, trivial⟩

/-- The statement loop keeps any property of statements that the statement function yields. -/
theorem yields_programFrom_of {P : Stmt → Prop}
    (hstmt : ∀ ts, Every R ts → (statement ts).Yields R fun o => ∀ x ∈ o, P x) (n : Nat)
    (acc : Array Stmt) (ts : List Terminal) (hacc : ∀ x ∈ acc, P x) (h : Every R ts) :
    (programFrom n acc ts).Yields R fun xs => ∀ x ∈ xs, P x := by
  induction n generalizing acc ts with
  | zero => exact .done h fun x hx => hacc x (Array.mem_toList_iff.1 hx)
  | succ n ih =>
    rw [programFrom_succ]
    split
    · exact .done h fun x hx => hacc x (Array.mem_toList_iff.1 hx)
    · refine (hstmt ts h).andThen fun o ho hr =>
        (yields_terminator _ hr).andThen fun _ _ hr => ih _ _ ?_ hr
      cases o with
      | none => exact hacc
      | some x => exact Array.forall_mem_push.2 ⟨ho x rfl, hacc⟩

end Invariant

end Parser

/-- A property of statements that the statement function yields from terminals of a class that
takes in the end marker holds of every statement parsed from terminals of the class. -/
theorem parse_of_yields {R : Terminal → Prop} {P : Stmt → Prop}
    (hstmt : ∀ ts, Parser.Every R ts → (Parser.statement ts).Yields R fun o => ∀ x ∈ o, P x)
    {ts : List Terminal} (hend : R Terminal.endMarker) (h : ∀ t ∈ ts, R t) :
    ∀ x ∈ (parse ts).program, P x :=
  (Parser.yields_programFrom_of hstmt _ #[] ts (by simp) ⟨hend, h⟩).2

/-- **The parser's names and values are lexemes.** Parsed from terminals of a class that takes
in the end marker, a program reads its names and values from terminals of the class. -/
theorem parse_readFrom {R : Terminal → Prop} {ts : List Terminal} (hend : R Terminal.endMarker)
    (h : ∀ t ∈ ts, R t) : ∀ x ∈ (parse ts).program, x.ReadFrom R :=
  parse_of_yields Parser.yields_statement hend h

/-- Parsed from terminals whose lexemes are texts, a program is textual. -/
theorem parse_textual {ts : List Terminal} (h : Parser.Lexical ts) :
    ∀ x ∈ (parse ts).program, x.Textual :=
  fun x hx => (@parse_readFrom TextLexeme ts ⟨[], rfl⟩ h x hx).textual

end SqlFront
