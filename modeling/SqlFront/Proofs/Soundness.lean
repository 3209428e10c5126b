import SqlFront.Proofs.Grammar
import SqlFront.Proofs.ParseSteps
/-!
# What the parser accepts is in the grammar

A parse that reports no error has read, from the front of its terminals, a list that spells a
word of the grammar rule it parses (`Parsed.Reads`). The reason is that the parser passes a
terminal without reporting only when it matches: `expect`, `accept` and the look-ahead tests take
exactly the kinds the rule names, and every other way forward, recovery included, reports an
error first.

`Reads` is carried through the combinators (`Reads.andThen`, `Reads.after`, `Reads.map`), so each
parsing function's lemma follows the function's equation, and the words built at each step are
put together by the grammar's constructors. The condition functions are one mutual recursion, and
so are their lemmas, on the same measure.
-/

namespace SqlFront

namespace Parser

variable {ts : List Terminal} {α β : Type}

/-- A parse that reported no error read, from the front of `ts`, terminals that spell a word
of `L`. -/
def Parsed.Reads (p : Parsed ts α) (L : List TokenKind → Prop) : Prop :=
  p.errors = [] → ∃ w u, ts = w ++ p.rest ∧ Spells w u ∧ L u

namespace Parsed.Reads

variable {L M : List TokenKind → Prop}

theorem mono {p : Parsed ts α} (h : p.Reads L) (hLM : ∀ u, L u → M u) : p.Reads M := by
  intro he
  obtain ⟨w, u, hw, hs, hu⟩ := h he
  exact ⟨w, u, hw, hs, hLM u hu⟩

/-- A parse that reported an error reads anything. -/
theorem of_errors_ne_nil {p : Parsed ts α} (h : p.errors ≠ []) : p.Reads L :=
  fun he => absurd he h

theorem done (h : L []) (v : α) : (Parsed.done ts v).Reads L :=
  fun _ => ⟨[], [], rfl, Spells.nil, h⟩

theorem map {p : Parsed ts α} (h : p.Reads L) (f : α → β) : (p.map f).Reads L := h

theorem after {t : Terminal} {k : TokenKind} {r : List Terminal} {q : Parsed r α}
    (ht : t.kind? = some k) (h : q.Reads L) :
    (q.after t).Reads fun u => ∃ u', u = k :: u' ∧ L u' := by
  intro he
  obtain ⟨w, u, hw, hs, hu⟩ := h he
  exact ⟨t :: w, k :: u, by simp [hw], Spells.cons ht hs, u, rfl, hu⟩

theorem andThen {p : Parsed ts α} {q : α → (r : List Terminal) → Parsed r β} (hp : p.Reads L)
    (hq : ∀ v, (q v p.rest).Reads M) :
    (p.andThen q).Reads fun u => ∃ u₁ u₂, u = u₁ ++ u₂ ∧ L u₁ ∧ M u₂ := by
  intro he
  simp only [Parsed.andThen_errors, List.append_eq_nil_iff] at he
  obtain ⟨w₁, u₁, hw₁, hs₁, hu₁⟩ := hp he.1
  obtain ⟨w₂, u₂, hw₂, hs₂, hu₂⟩ := hq p.value he.2
  refine ⟨w₁ ++ w₂, u₁ ++ u₂, ?_, hs₁.append hs₂, u₁, u₂, rfl, hu₁, hu₂⟩
  rw [Parsed.andThen_rest, List.append_assoc, ← hw₂]
  exact hw₁

/-- The continuation of `andThen` may be shown to read `M` wherever it starts. -/
theorem andThen_all {p : Parsed ts α} {q : α → (r : List Terminal) → Parsed r β}
    (hp : p.Reads L) (hq : ∀ v r, (q v r).Reads M) :
    (p.andThen q).Reads fun u => ∃ u₁ u₂, u = u₁ ++ u₂ ∧ L u₁ ∧ M u₂ :=
  hp.andThen fun v => hq v _

/-- A parse `q` of what follows a terminal of kind `k` left by `p` reads the word of `p`, then
`k`, then the word of `q`. -/
theorem extend {p : Parsed ts α} {r : List Terminal} {t : Terminal} {k : TokenKind}
    (hp : p.Reads L) (hr : p.rest = t :: r) (ht : t.kind? = some k) {q : Parsed r β}
    (h : r.length ≤ p.rest.length) (hq : q.Reads M) :
    (p.extend h q).Reads fun u => ∃ u₁ u₂, u = u₁ ++ k :: u₂ ∧ L u₁ ∧ M u₂ := by
  intro he
  simp only [Parsed.extend_errors, List.append_eq_nil_iff] at he
  obtain ⟨w₁, u₁, hw₁, hs₁, hu₁⟩ := hp he.1
  obtain ⟨w₂, u₂, hw₂, hs₂, hu₂⟩ := hq he.2
  refine ⟨w₁ ++ t :: w₂, u₁ ++ k :: u₂, ?_, hs₁.append (Spells.cons ht hs₂), u₁, u₂, rfl, hu₁, hu₂⟩
  rw [Parsed.extend_rest, List.append_assoc, List.cons_append, ← hw₂, ← hr]
  exact hw₁

end Parsed.Reads

open Parsed.Reads

theorem reads_fail (e : Expectation) (ts : List Terminal) (L : List TokenKind → Prop) :
    (fail e ts).Reads L :=
  of_errors_ne_nil (by simp)

/-- `expect` reads one terminal of the kind it expects. The end marker is never expected, so it
is not mistaken for a terminal. -/
theorem reads_expect {k : TokenKind} (hk : k ≠ .eof) (ts : List Terminal) :
    (expect k ts).Reads (· = [k]) := by
  cases ts with
  | nil =>
    rw [expect_of_not_kind (by simpa [Terminal.hasKind] using hk.symm)]
    exact (reads_fail _ _ _).map _
  | cons t r =>
    by_cases h : t.hasKind k
    · rw [expect_of_kind r h]
      exact fun _ => ⟨[t], [k], rfl, Spells.singleton (Terminal.hasKind_iff.1 h), rfl⟩
    · rw [expect_of_not_kind (by simpa using h)]
      exact (reads_fail _ _ _).map _

theorem reads_missingOperand (ts : List Terminal) (L : List TokenKind → Prop) :
    (missingOperand ts).Reads L :=
  of_errors_ne_nil (by simp)

/-! ### Conditions -/

mutual

theorem reads_disjunction (ts : List Terminal) : (disjunction ts).Reads Grammar.Cond := by
  rw [disjunction_eq]
  have := (conjunction ts).rest_le
  refine ((reads_conjunction ts).andThen fun v => reads_disjunctionTail v _).mono ?_
  rintro _ ⟨u₁, u₂, rfl, h₁, h₂⟩
  exact .mk h₁ h₂
termination_by ts.length * 16 + 12
decreasing_by all_goals omega

theorem reads_disjunctionTail (acc : Cond) (ts : List Terminal) :
    (disjunctionTail acc ts).Reads Grammar.Disjuncts := by
  cases ts with
  | nil => rw [disjunctionTail_nil]; exact Parsed.Reads.done .nil _
  | cons t r =>
    rw [disjunctionTail_cons]
    split
    · next hk =>
      have := (conjunction r).rest_le
      refine (((reads_conjunction r).andThen fun v => reads_disjunctionTail _ _).after
        (Terminal.hasKind_iff.1 hk)).mono ?_
      rintro _ ⟨_, rfl, u₁, u₂, rfl, h₁, h₂⟩
      exact .cons h₁ h₂
    · exact Parsed.Reads.done .nil _
termination_by ts.length * 16 + 11
decreasing_by all_goals (try simp only [List.length_cons]); omega

theorem reads_conjunction (ts : List Terminal) : (conjunction ts).Reads Grammar.Conj := by
  rw [conjunction_eq]
  have := (negation ts).rest_le
  refine ((reads_negation ts).andThen fun v => reads_conjunctionTail v _).mono ?_
  rintro _ ⟨u₁, u₂, rfl, h₁, h₂⟩
  exact .mk h₁ h₂
termination_by ts.length * 16 + 10
decreasing_by all_goals omega

theorem reads_conjunctionTail (acc : Cond) (ts : List Terminal) :
    (conjunctionTail acc ts).Reads Grammar.Conjuncts := by
  cases ts with
  | nil => rw [conjunctionTail_nil]; exact Parsed.Reads.done .nil _
  | cons t r =>
    rw [conjunctionTail_cons]
    split
    · next hk =>
      have := (negation r).rest_le
      refine (((reads_negation r).andThen fun v => reads_conjunctionTail _ _).after
        (Terminal.hasKind_iff.1 hk)).mono ?_
      rintro _ ⟨_, rfl, u₁, u₂, rfl, h₁, h₂⟩
      exact .cons h₁ h₂
    · exact Parsed.Reads.done .nil _
termination_by ts.length * 16 + 9
decreasing_by all_goals (try simp only [List.length_cons]); omega

theorem reads_negation (ts : List Terminal) : (negation ts).Reads Grammar.Neg := by
  cases ts with
  | nil => rw [negation_nil]; exact (reads_comparison []).mono fun _ h => .cmp h
  | cons t r =>
    rw [negation_cons]
    split
    · next hk =>
      refine (((reads_comparison r).map _).after (Terminal.hasKind_iff.1 hk)).mono ?_
      rintro _ ⟨u, rfl, h⟩
      exact .not h
    · exact (reads_comparison (t :: r)).mono fun _ h => .cmp h
termination_by ts.length * 16 + 8
decreasing_by all_goals (try simp only [List.length_cons]); omega

theorem reads_comparison (ts : List Terminal) : (comparison ts).Reads Grammar.Cmp := by
  rw [comparison_eq]
  have := (expression ts).rest_le
  refine ((reads_expression ts).andThen fun l => reads_comparisonRest l _).mono ?_
  rintro _ ⟨u₁, u₂, rfl, h₁, h₂ | ⟨k, u, rfl, hk, h₂⟩⟩
  · rw [h₂, List.append_nil]
    exact .single h₁
  · exact .compare h₁ hk h₂
termination_by ts.length * 16 + 7
decreasing_by all_goals omega

/-- What follows the left operand reads nothing, or a comparison operator and an operand. -/
theorem reads_comparisonRest (l : Cond) (ts : List Terminal) :
    (comparisonRest l ts).Reads fun u =>
      u = [] ∨ ∃ k v, u = k :: v ∧ k.isComparison ∧ Grammar.Expr v := by
  cases ts with
  | nil => exact Parsed.Reads.done (L := fun u => u = [] ∨ _) (.inl rfl) _
  | cons t r =>
    simp only [comparisonRest]
    split
    · next hk =>
      obtain ⟨k, hk', hc⟩ := Terminal.kindIs_iff.1 hk
      refine (((reads_expression r).map _).after hk').mono ?_
      rintro _ ⟨u, rfl, h⟩
      exact .inr ⟨k, u, rfl, hc, h⟩
    · exact Parsed.Reads.done (.inl rfl) _
termination_by ts.length * 16 + 6
decreasing_by all_goals (try simp only [List.length_cons]); omega

theorem reads_expression (ts : List Terminal) : (expression ts).Reads Grammar.Expr := by
  rw [expression_eq]
  have := (term ts).rest_le
  refine ((reads_term ts).andThen fun v => reads_expressionTail v _).mono ?_
  rintro _ ⟨u₁, u₂, rfl, h₁, h₂⟩
  exact .mk h₁ h₂
termination_by ts.length * 16 + 5
decreasing_by all_goals omega

theorem reads_expressionTail (acc : Cond) (ts : List Terminal) :
    (expressionTail acc ts).Reads Grammar.Summands := by
  cases ts with
  | nil => rw [expressionTail_nil]; exact Parsed.Reads.done .nil _
  | cons t r =>
    rw [expressionTail_cons]
    split
    · next hk =>
      obtain ⟨k, hk', hc⟩ := Terminal.kindIs_iff.1 hk
      have := (term r).rest_le
      refine (((reads_term r).andThen fun v => reads_expressionTail _ _).after hk').mono ?_
      rintro _ ⟨_, rfl, u₁, u₂, rfl, h₁, h₂⟩
      exact .cons hc h₁ h₂
    · exact Parsed.Reads.done .nil _
termination_by ts.length * 16 + 4
decreasing_by all_goals (try simp only [List.length_cons]); omega

theorem reads_term (ts : List Terminal) : (term ts).Reads Grammar.Term := by
  rw [term_eq]
  have := (factor ts).rest_le
  refine ((reads_factor ts).andThen fun v => reads_termTail v _).mono ?_
  rintro _ ⟨u₁, u₂, rfl, h₁, h₂⟩
  exact .mk h₁ h₂
termination_by ts.length * 16 + 3
decreasing_by all_goals omega

theorem reads_termTail (acc : Cond) (ts : List Terminal) :
    (termTail acc ts).Reads Grammar.Factors := by
  cases ts with
  | nil => rw [termTail_nil]; exact Parsed.Reads.done .nil _
  | cons t r =>
    rw [termTail_cons]
    split
    · next hk =>
      obtain ⟨k, hk', hc⟩ := Terminal.kindIs_iff.1 hk
      have := (factor r).rest_le
      refine (((reads_factor r).andThen fun v => reads_termTail _ _).after hk').mono ?_
      rintro _ ⟨_, rfl, u₁, u₂, rfl, h₁, h₂⟩
      exact .cons hc h₁ h₂
    · exact Parsed.Reads.done .nil _
termination_by ts.length * 16 + 2
decreasing_by all_goals (try simp only [List.length_cons]); omega

theorem reads_factor (ts : List Terminal) : (factor ts).Reads Grammar.Factor := by
  cases ts with
  | nil => rw [factor_nil]; exact reads_missingOperand _ _
  | cons t r =>
    rw [factor_cons]
    split
    · next hk =>
      refine (((reads_disjunction r).andThen fun c =>
        (reads_expect (by decide) _).map fun _ => c).after
        (Terminal.hasKind_iff.1 hk)).mono ?_
      rintro _ ⟨_, rfl, u₁, u₂, rfl, h₁, rfl⟩
      exact .paren h₁
    split
    · next hk =>
      refine ((Parsed.Reads.done (L := (· = [])) rfl _).after (Terminal.hasKind_iff.1 hk)).mono ?_
      rintro _ ⟨_, rfl, rfl⟩
      exact .column
    split
    · next hk =>
      obtain ⟨k, hk', hc⟩ := Terminal.kindIs_iff.1 hk
      refine ((Parsed.Reads.done (L := (· = [])) rfl _).after hk').mono ?_
      rintro _ ⟨_, rfl, rfl⟩
      exact .literal hc
    · exact reads_missingOperand _ _
termination_by ts.length * 16 + 1
decreasing_by all_goals (try simp only [List.length_cons]); omega

end

/-! ### Statements -/

theorem reads_filter (ts : List Terminal) : (filter ts).Reads Grammar.Filter := by
  cases ts with
  | nil => rw [filter_nil]; exact Parsed.Reads.done .none _
  | cons t r =>
    rw [filter_cons]
    split
    · next hk =>
      refine (((reads_disjunction r).map _).after (Terminal.hasKind_iff.1 hk)).mono ?_
      rintro _ ⟨u, rfl, h⟩
      exact .some h
    · exact Parsed.Reads.done .none _

theorem reads_columnDef (ts : List Terminal) : (columnDef ts).Reads Grammar.ColDef := by
  unfold columnDef
  refine ((reads_expect (by decide) ts).andThen_all
    (M := fun u => ∃ k, u = [k] ∧ (k.isTypeWord ∨ k = .identifier)) fun name r => ?_).mono ?_
  · cases r with
    | nil => exact ((reads_expect (by decide) _).map _).mono fun _ h => ⟨_, h, .inr rfl⟩
    | cons t r =>
      dsimp only
      split
      · next hk =>
        obtain ⟨k, hk', hc⟩ := Terminal.kindIs_iff.1 hk
        exact fun _ => ⟨[t], [k], rfl, Spells.singleton hk', k, rfl, .inl hc⟩
      · exact ((reads_expect (by decide) _).map _).mono fun _ h => ⟨_, h, .inr rfl⟩
  · rintro _ ⟨_, _, rfl, rfl, k, rfl, hk | rfl⟩
    · exact .typed hk
    · exact .named

theorem reads_columnDefsFrom (acc : Array (Datum × Datum)) (ts : List Terminal) :
    (columnDefsFrom acc ts).Reads Grammar.ColDefs := by
  rw [columnDefsFrom]
  have hle := (columnDef ts).rest_le
  rcases h : accept .comma (columnDef ts).rest with _ | ⟨r, hr⟩
  · exact ((reads_columnDef ts).map _).mono fun _ h => .last h
  · obtain ⟨t, ht, hk⟩ := eq_cons_of_accept h
    refine ((reads_columnDef ts).extend ht hk _ (reads_columnDefsFrom _ r)).mono ?_
    rintro _ ⟨u₁, u₂, rfl, h₁, h₂⟩
    exact .cons h₁ h₂
termination_by ts.length
decreasing_by omega

theorem reads_columnDefs (ts : List Terminal) : (columnDefs ts).Reads Grammar.ColDefs := by
  unfold columnDefs
  split
  · exact reads_columnDefsFrom _ _
  · exact (reads_fail _ _ _).map _

theorem reads_valuesFrom (acc : Array Datum) (ts : List Terminal) :
    (valuesFrom acc ts).Reads Grammar.Values := by
  cases ts with
  | nil => rw [valuesFrom]; exact (reads_fail _ _ _).map _
  | cons t r =>
    rw [valuesFrom]
    split
    · next hv =>
      obtain ⟨k, hk, hc⟩ := Terminal.kindIs_iff.1 hv
      rcases h : accept .comma r with _ | ⟨r', hr'⟩
      · exact fun _ => ⟨[t], [k], rfl, Spells.singleton hk, .last hc⟩
      · obtain ⟨c, hrc, hcomma⟩ := eq_cons_of_accept h
        dsimp only
        intro he
        obtain ⟨w, u, hw, hs, hu⟩ := reads_valuesFrom _ r' he
        exact ⟨t :: c :: w, k :: .comma :: u, by simp [hrc, hw],
          Spells.cons hk (Spells.cons hcomma hs), .cons hc hu⟩
    · exact (reads_fail _ _ _).map _
termination_by ts.length
decreasing_by simp only [List.length_cons]; omega

theorem reads_valueList (ts : List Terminal) : (valueList ts).Reads Grammar.Values := by
  unfold valueList
  split
  · exact reads_valuesFrom _ _
  · exact (reads_fail _ _ _).map _

theorem reads_selectItemsFrom (acc : Array Datum) (ts : List Terminal) :
    (selectItemsFrom acc ts).Reads Grammar.MoreNames := by
  rw [selectItemsFrom]
  rcases h : accept .comma ts with _ | ⟨r, hr⟩
  · exact Parsed.Reads.done .nil _
  · obtain ⟨c, hts, hcomma⟩ := eq_cons_of_accept h
    dsimp only
    rcases he : expect .identifier r with ⟨item, e₁, r₁, h₁⟩
    dsimp only
    intro herr
    simp only [List.append_eq_nil_iff] at herr
    obtain ⟨w₁, u₁, hw₁, hs₁, rfl⟩ :=
      reads_expect (k := .identifier) (by decide) r (by rw [he]; exact herr.1)
    rw [he] at hw₁
    obtain ⟨w₂, u₂, hw₂, hs₂, hu₂⟩ := reads_selectItemsFrom _ r₁ herr.2
    refine ⟨c :: w₁ ++ w₂, .comma :: .identifier :: u₂, ?_, ?_, .cons hu₂⟩
    · simp [hts, hw₁, hw₂]
    · exact Spells.cons hcomma (hs₁.append hs₂)
termination_by ts.length
decreasing_by
  have : r₁.length ≤ r.length := by
    have := (expect .identifier r).rest_le
    rw [he] at this
    exact this
  omega

theorem reads_selectItems (ts : List Terminal) : (selectItems ts).Reads Grammar.Items := by
  unfold selectItems
  rcases h : accept .multiply ts with _ | ⟨r, hr⟩
  · refine ((reads_expect (by decide) ts).andThen_all (M := Grammar.MoreNames)
      fun first r => ?_).mono ?_
    · cases first with
      | some t => exact reads_selectItemsFrom _ _
      | none => exact (reads_fail _ _ _).map _
    · rintro _ ⟨_, u, rfl, rfl, hu⟩
      exact .names hu
  · obtain ⟨t, hts, hk⟩ := eq_cons_of_accept h
    dsimp only
    exact fun _ => ⟨[t], [.multiply], by simp [hts], Spells.singleton hk, .star⟩

/-- One assignment reads `IDENTIFIER EQUAL val`. -/
theorem reads_assignment (ts : List Terminal) :
    (assignment ts).Reads fun u => ∃ k, u = [.identifier, .equal, k] ∧ k.isValue := by
  unfold assignment
  refine ((reads_expect (by decide) ts).andThen_all fun name r =>
    (reads_expect (by decide) r).andThen_all (M := fun u => ∃ k, u = [k] ∧ k.isValue)
      fun _ r' => ?_).mono ?_
  · cases r' with
    | nil => exact (reads_fail _ _ _).map _
    | cons t r' =>
      dsimp only
      split
      · next hv =>
        obtain ⟨k, hk, hc⟩ := Terminal.kindIs_iff.1 hv
        exact fun _ => ⟨[t], [k], rfl, Spells.singleton hk, k, rfl, hc⟩
      · exact (reads_fail _ _ _).map _
  · rintro _ ⟨_, _, rfl, rfl, _, _, rfl, rfl, k, rfl, hk⟩
    exact ⟨k, rfl, hk⟩

theorem reads_assignmentsFrom (acc : Array (Datum × Datum)) (ts : List Terminal) :
    (assignmentsFrom acc ts).Reads Grammar.Assignments := by
  rw [assignmentsFrom]
  have hle := (assignment ts).rest_le
  rcases h : accept .comma (assignment ts).rest with _ | ⟨r, hr⟩
  · refine ((reads_assignment ts).map _).mono ?_
    rintro _ ⟨k, rfl, hk⟩
    exact .last hk
  · obtain ⟨t, ht, hk⟩ := eq_cons_of_accept h
    refine ((reads_assignment ts).extend ht hk _ (reads_assignmentsFrom _ r)).mono ?_
    rintro _ ⟨_, u₂, rfl, ⟨k, rfl, hv⟩, h₂⟩
    exact .cons hv h₂
termination_by ts.length
decreasing_by omega

theorem reads_create (ts : List Terminal) : (create ts).Reads Grammar.Stmt := by
  unfold create
  refine ((reads_expect (by decide) ts).andThen_all fun _ r₁ =>
    (reads_expect (by decide) r₁).andThen_all fun _ r₂ =>
    (reads_expect (by decide) r₂).andThen_all fun _ r₃ =>
    (reads_expect (by decide) r₃).andThen_all fun _ r₄ =>
    (reads_columnDefs r₄).andThen_all fun _ r₅ =>
    (reads_expect (by decide) r₅).map _).mono ?_
  rintro _ ⟨_, _, rfl, rfl, _, _, rfl, rfl, _, _, rfl, rfl, _, _, rfl, rfl, u, _, rfl, hu, rfl⟩
  exact .create hu

theorem reads_insert (kw : Terminal) (ts : List Terminal) :
    (insert kw ts).Reads fun u => Grammar.Stmt (.insert :: u) := by
  unfold insert
  refine ((reads_expect (by decide) ts).andThen_all fun _ r₁ =>
    (reads_expect (by decide) r₁).andThen_all fun _ r₂ =>
    (reads_expect (by decide) r₂).andThen_all fun _ r₃ =>
    (reads_expect (by decide) r₃).andThen_all fun _ r₄ =>
    (reads_valueList r₄).andThen_all fun _ r₅ =>
    (reads_expect (by decide) r₅).map _).mono ?_
  rintro _ ⟨_, _, rfl, rfl, _, _, rfl, rfl, _, _, rfl, rfl, _, _, rfl, rfl, u, _, rfl, hu, rfl⟩
  exact .insert hu

theorem reads_select (kw : Terminal) (ts : List Terminal) :
    (select kw ts).Reads fun u => Grammar.Stmt (.select :: u) := by
  unfold select
  refine ((reads_selectItems ts).andThen_all fun _ r₁ =>
    (reads_expect (by decide) r₁).andThen_all fun _ r₂ =>
    (reads_expect (by decide) r₂).andThen_all fun _ r₃ =>
    (reads_filter r₃).map _).mono ?_
  rintro _ ⟨u, _, rfl, hu, _, _, rfl, rfl, _, v, rfl, rfl, hv⟩
  exact .select hu hv

theorem reads_update (kw : Terminal) (ts : List Terminal) :
    (update kw ts).Reads fun u => Grammar.Stmt (.update :: u) := by
  unfold update
  refine ((reads_expect (by decide) ts).andThen_all fun _ r₁ =>
    (reads_expect (by decide) r₁).andThen_all fun _ r₂ =>
    (reads_assignmentsFrom _ r₂).andThen_all fun _ r₃ =>
    (reads_filter r₃).map _).mono ?_
  rintro _ ⟨_, _, rfl, rfl, _, _, rfl, rfl, u, v, rfl, hu, hv⟩
  simpa using Grammar.Stmt.update hu hv

theorem reads_delete (kw : Terminal) (ts : List Terminal) :
    (delete kw ts).Reads fun u => Grammar.Stmt (.delete :: u) := by
  unfold delete
  refine ((reads_expect (by decide) ts).andThen_all fun _ r₁ =>
    (reads_expect (by decide) r₁).andThen_all fun _ r₂ =>
    (reads_filter r₂).map _).mono ?_
  rintro _ ⟨_, _, rfl, rfl, _, v, rfl, rfl, hv⟩
  exact .delete hv

theorem reads_statement (ts : List Terminal) : (statement ts).Reads Grammar.Stmt := by
  by_cases hk : (current ts).kindIs TokenKind.startsStatement
  · cases ts with
    | nil => simp [Terminal.kindIs_of_kind? Terminal.kind?_endMarker, TokenKind.startsStatement] at hk
    | cons t r =>
      rw [current_cons] at hk
      obtain ⟨k, hk', hs⟩ := Terminal.kindIs_iff.1 hk
      rcases TokenKind.startsStatement_iff.1 hs with rfl | rfl | rfl | rfl | rfl
      · rw [statement_of_create r hk']; exact (reads_create _).map _
      · rw [statement_of_insert r hk']
        refine (((reads_insert t r).map _).after hk').mono ?_
        rintro _ ⟨u, rfl, h⟩; exact h
      · rw [statement_of_select r hk']
        refine (((reads_select t r).map _).after hk').mono ?_
        rintro _ ⟨u, rfl, h⟩; exact h
      · rw [statement_of_update r hk']
        refine (((reads_update t r).map _).after hk').mono ?_
        rintro _ ⟨u, rfl, h⟩; exact h
      · rw [statement_of_delete r hk']
        refine (((reads_delete t r).map _).after hk').mono ?_
        rintro _ ⟨u, rfl, h⟩; exact h
  · rw [statement_of_not_startsStatement (by simpa using hk)]
    exact (reads_fail _ _ _).map _

/-- A terminator that reports nothing reads a semicolon or nothing. -/
theorem reads_terminator (ts : List Terminal) :
    (terminator ts).Reads fun u => u = [] ∨ u = [.semicolon] := by
  cases ts with
  | nil => rw [terminator_nil]; exact Parsed.Reads.done (.inl rfl) _
  | cons t r =>
    by_cases h₁ : t.hasKind .semicolon
    · rw [terminator_of_semicolon r h₁]
      exact ((Parsed.Reads.done (L := (· = [])) rfl _).after (Terminal.hasKind_iff.1 h₁)).mono
        fun _ ⟨_, hu, hnil⟩ => .inr (by rw [hu, hnil])
    · by_cases h₂ : (t.hasKind .eof || t.kindIs TokenKind.startsStatement)
      · rw [terminator_of_boundary r (by simpa using h₁) h₂]
        exact Parsed.Reads.done (.inl rfl) _
      · exact of_errors_ne_nil (by
          rw [(terminator_of_other r (by simpa using h₁) (by simpa using h₂)).1]
          simp)

/-- The statement loop that reports nothing reads a program. -/
theorem reads_programFrom (n : Nat) (acc : Array Stmt) (ts : List Terminal) :
    (programFrom n acc ts).Reads Grammar.Program := by
  induction n generalizing acc ts with
  | zero => exact Parsed.Reads.done .nil _
  | succ n ih =>
    rw [programFrom_succ]
    split
    · exact Parsed.Reads.done .nil _
    · refine ((reads_statement ts).andThen_all fun s r =>
        (reads_terminator r).andThen_all fun _ r' => ih _ r').mono ?_
      rintro _ ⟨u, _, rfl, hu, _, v, rfl, rfl | rfl, hv⟩
      · exact .stmt hu hv
      · exact .stmtSemicolon hu hv

end Parser

end SqlFront
