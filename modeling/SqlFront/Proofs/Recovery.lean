import SqlFront.Proofs.Progress
/-!
# Recovery stops at a semicolon

After a syntax error the parser skips to the next terminal at which recovery stops: a
semicolon, the keyword of a statement, or the end. Take terminals `A ++ s :: B`, where `s` is a
semicolon and `B` is empty or begins with a keyword (`OpensStatement`). However malformed `A`
is, the parser reaches `B` exactly at the start of a statement, and from there it reads `B` as
it reads `B` alone (`parse_after_semicolon`).

The invariant is a property of places (`Within`): a place either still holds `s` in front of
`B` (`Before`), or is `B` itself. Every parsing function keeps it:

* a function that reads an operand (`disjunction` down to `factor`) is only ever called at a
  place before `s`, and returns a place within;
* a function that reads what may follow (the tails, the lists of a statement, a filter, the
  terminator) is called at a place within, and returns one: at `B` it finds neither an
  operator nor a separator, and a failing `expect` does not move past a keyword.

The one step that passes over `s` in the middle of a statement is the placeholder for a missing
operand, which skips the terminal at which recovery stopped. It can take `s`, but never the
keyword after it: no operand is read at `B`, since an operand is read only after an operator,
and `B` begins with none.

Having reached `B`, the loop stops where the loop on `B` alone stops, so the parse passes `A`,
`s` and what it passes of `B` (`passed_after_semicolon`). A list made by hand therefore faults
at a terminal of `A` or where `B` alone faults (`parseTerminals_after_semicolon`).
-/

namespace SqlFront

namespace Parser

/-- The terminals are empty or begin with the keyword of a statement. -/
def OpensStatement (B : List Terminal) : Prop :=
  ∀ t ∈ B.head?, t.kindIs TokenKind.startsStatement = true

instance : DecidablePred OpensStatement := fun B =>
  inferInstanceAs (Decidable (∀ t ∈ B.head?, t.kindIs TokenKind.startsStatement = true))

/-- The terminals `r` still hold the semicolon `s` in front of `B`, and none of those before `s`
is of kind `EOF`. -/
def Before (s : Terminal) (B r : List Terminal) : Prop :=
  ∃ A, r = A ++ s :: B ∧ ∀ t ∈ A, t.hasKind .eof = false

/-- The terminals `r` still hold `s` in front of `B`, or are `B`. -/
def Within (s : Terminal) (B r : List Terminal) : Prop := Before s B r ∨ r = B

section Places

variable {s : Terminal} {B : List Terminal}

theorem Before.within {r : List Terminal} (h : Before s B r) : Within s B r := .inl h

theorem Before.ne_nil (h : Before s B []) : False := by
  obtain ⟨A, hA, -⟩ := h
  cases A <;> cases hA

/-- A terminal other than `s` taken at a place before `s` leaves a place before `s`. -/
theorem Before.tail {t : Terminal} {r : List Terminal} (h : Before s B (t :: r))
    (hs : s.hasKind .semicolon) (ht : t.hasKind .semicolon = false) : Before s B r := by
  obtain ⟨A, hA, heof⟩ := h
  cases A with
  | nil =>
    obtain ⟨rfl, -⟩ := List.cons.inj hA
    rw [hs] at ht
    cases ht
  | cons a A =>
    obtain ⟨-, rfl⟩ := List.cons.inj hA
    exact ⟨A, rfl, fun u hu => heof u (List.mem_cons_of_mem _ hu)⟩

/-- A terminal other than a keyword, taken at a place within, leaves a place within. -/
theorem Within.tail {t : Terminal} {r : List Terminal} (h : Within s B (t :: r))
    (hB : OpensStatement B) (ht : t.kindIs TokenKind.startsStatement = false) : Within s B r := by
  rcases h with ⟨A, hA, heof⟩ | hB'
  · cases A with
    | nil =>
      obtain ⟨-, rfl⟩ := List.cons.inj hA
      exact .inr rfl
    | cons a A =>
      obtain ⟨-, rfl⟩ := List.cons.inj hA
      exact .inl ⟨A, rfl, fun u hu => heof u (List.mem_cons_of_mem _ hu)⟩
  · have := hB t (by rw [← hB']; rfl)
    rw [ht] at this
    cases this

/-- A terminal that is neither a semicolon nor a keyword, taken at a place within, leaves a
place before `s`: it was no terminal of `B`, and it was not `s`. -/
theorem Within.before_tail {t : Terminal} {r : List Terminal} (h : Within s B (t :: r))
    (hs : s.hasKind .semicolon) (hB : OpensStatement B) (ht₁ : t.hasKind .semicolon = false)
    (ht₂ : t.kindIs TokenKind.startsStatement = false) : Before s B r := by
  rcases h with hb | hB'
  · exact hb.tail hs ht₁
  · have := hB t (by rw [← hB']; rfl)
    rw [ht₂] at this
    cases this

theorem Before.tail_of_kind {t : Terminal} {r : List Terminal} (h : Before s B (t :: r))
    (hs : s.hasKind .semicolon) {k : TokenKind} (hk : t.kind? = some k) (hk₁ : k ≠ .semicolon) :
    Before s B r := by
  refine h.tail hs ?_
  rw [Terminal.hasKind_of_kind? hk]
  simpa using hk₁

/-- A terminal of a kind that is neither the semicolon nor a keyword (an operator, a separator,
a name or a value), taken at a place within, leaves a place before `s`. -/
theorem Within.before_tail_of_kind {t : Terminal} {r : List Terminal} (h : Within s B (t :: r))
    (hs : s.hasKind .semicolon) (hB : OpensStatement B) {k : TokenKind} (hk : t.kind? = some k)
    (hk' : k ≠ .semicolon ∧ k.startsStatement = false) : Before s B r := by
  refine h.before_tail hs hB ?_ ?_
  · rw [Terminal.hasKind_of_kind? hk]
    simpa using hk'.1
  · rw [Terminal.kindIs_of_kind? hk, hk'.2]

/-- Recovery stops at `s` at the latest. -/
theorem recover_before (hs : s.hasKind .semicolon) {r : List Terminal} (h : Before s B r) :
    Before s B (recover r) := by
  obtain ⟨A, rfl, heof⟩ := h
  induction A with
  | nil =>
    refine ⟨[], ?_, by simp⟩
    rw [List.nil_append, recover_cons, if_pos]
    rw [Terminal.kindIs_of_kind? (Terminal.hasKind_iff.1 hs)]
    rfl
  | cons t A ih =>
    rw [List.cons_append, recover_cons]
    split
    · exact ⟨t :: A, rfl, heof⟩
    · exact ih fun u hu => heof u (List.mem_cons_of_mem _ hu)

/-- Recovery does not move at the keyword of a statement, nor at the end. -/
theorem recover_opensStatement (hB : OpensStatement B) : recover B = B := by
  cases B with
  | nil => rfl
  | cons t r =>
    rw [recover_cons, if_pos]
    obtain ⟨k, hk, hsk⟩ := Terminal.kindIs_iff.1 (hB t rfl)
    rw [Terminal.kindIs_of_kind? hk]
    simp [TokenKind.synchronizes, hsk]

theorem recover_within (hs : s.hasKind .semicolon) (hB : OpensStatement B) {r : List Terminal}
    (h : Within s B r) : Within s B (recover r) := by
  rcases h with hb | rfl
  · exact (recover_before hs hb).within
  · rw [recover_opensStatement hB]
    exact .inr rfl

/-- The placeholder for a missing operand may take `s`, and then stands at `B`. -/
theorem missingOperand_within (hs : s.hasKind .semicolon) {r : List Terminal}
    (h : Before s B r) : Within s B (missingOperand r).rest := by
  rw [missingOperand_rest]
  obtain ⟨A, hA, heof⟩ := recover_before hs h
  rw [hA]
  cases A with
  | nil => exact .inr rfl
  | cons a A => exact .inl ⟨A, rfl, fun u hu => heof u (List.mem_cons_of_mem _ hu)⟩

@[simp] theorem expect_nil_rest (k : TokenKind) : (expect k []).rest = [] := by
  unfold expect
  split <;> rfl

/-- An `expect` of a kind that is no keyword keeps the place within. -/
theorem expect_within (hs : s.hasKind .semicolon) (hB : OpensStatement B) {k : TokenKind}
    (hk : k.startsStatement = false) {r : List Terminal} (h : Within s B r) :
    Within s B (expect k r).rest := by
  by_cases hc : (current r).hasKind k
  · cases r with
    | nil => rwa [expect_nil_rest]
    | cons t r =>
      rw [current_cons] at hc
      rw [expect_of_kind r hc]
      refine h.tail hB ?_
      rw [Terminal.kindIs_of_kind? (Terminal.hasKind_iff.1 hc), hk]
  · rw [expect_of_not_kind (by simpa using hc), Parsed.map_rest, fail_rest]
    exact recover_within hs hB h

/-- An `expect` at a place before `s` of any kind but the semicolon's keeps the place within. -/
theorem expect_before (hs : s.hasKind .semicolon) {k : TokenKind} (hk : k ≠ .semicolon)
    {r : List Terminal} (h : Before s B r) : Within s B (expect k r).rest := by
  by_cases hc : (current r).hasKind k
  · cases r with
    | nil => exact absurd h Before.ne_nil
    | cons t r =>
      rw [current_cons] at hc
      rw [expect_of_kind r hc]
      refine (h.tail hs ?_).within
      rw [Terminal.hasKind_of_kind? (Terminal.hasKind_iff.1 hc)]
      simpa using hk
  · rw [expect_of_not_kind (by simpa using hc), Parsed.map_rest, fail_rest]
    exact (recover_before hs h).within

/-- An `accept` of a kind that is no keyword keeps the place within. -/
theorem accept_within (hB : OpensStatement B) {k : TokenKind} (hk : k.startsStatement = false)
    {r : List Terminal} {r' : { r' : List Terminal // r'.length < r.length }}
    (hacc : accept k r = some r') (h : Within s B r) : Within s B r'.1 := by
  obtain ⟨t, hr, ht⟩ := eq_cons_of_accept hacc
  rw [hr] at h
  refine h.tail hB ?_
  rw [Terminal.kindIs_of_kind? ht, hk]

end Places

/-- Operators, type words and values are neither the semicolon nor a keyword. -/
theorem TokenKind.passable_of_class {k : TokenKind}
    (h : (k.isComparison || k.isAdditive || k.isMultiplicative || k.isTypeWord ||
      k.isValue) = true) :
    k ≠ .semicolon ∧ k.startsStatement = false := by
  cases k <;> simp_all [TokenKind.isComparison, TokenKind.isAdditive, TokenKind.isMultiplicative,
    TokenKind.isTypeWord, TokenKind.isValue, TokenKind.startsStatement]

/-! ### Conditions -/

section Conditions

variable {s : Terminal} {B : List Terminal}

mutual

theorem within_disjunction (hs : s.hasKind .semicolon) (hB : OpensStatement B)
    (ts : List Terminal) (h : Before s B ts) :
    Within s B (disjunction ts).rest := by
  rw [disjunction_eq, Parsed.andThen_rest]
  have := (conjunction ts).rest_le
  exact within_disjunctionTail hs hB _ _ (within_conjunction hs hB ts h)
termination_by ts.length * 16 + 12
decreasing_by all_goals omega

theorem within_disjunctionTail (hs : s.hasKind .semicolon) (hB : OpensStatement B)
    (acc : Cond) (ts : List Terminal) (h : Within s B ts) :
    Within s B (disjunctionTail acc ts).rest := by
  match ts, h with
  | [], h => rw [disjunctionTail_nil]; exact h
  | t :: r, h =>
    rw [disjunctionTail_cons]
    split
    · next hk =>
      have hr := h.before_tail_of_kind hs hB (Terminal.hasKind_iff.1 hk) ⟨by decide, rfl⟩
      have := (conjunction r).rest_le
      rw [Parsed.after_rest, Parsed.andThen_rest]
      exact within_disjunctionTail hs hB _ _ (within_conjunction hs hB r hr)
    · exact h
termination_by ts.length * 16 + 11
decreasing_by all_goals (try simp only [List.length_cons]); omega

theorem within_conjunction (hs : s.hasKind .semicolon) (hB : OpensStatement B)
    (ts : List Terminal) (h : Before s B ts) :
    Within s B (conjunction ts).rest := by
  rw [conjunction_eq, Parsed.andThen_rest]
  have := (negation ts).rest_le
  exact within_conjunctionTail hs hB _ _ (within_negation hs hB ts h)
termination_by ts.length * 16 + 10
decreasing_by all_goals omega

theorem within_conjunctionTail (hs : s.hasKind .semicolon) (hB : OpensStatement B)
    (acc : Cond) (ts : List Terminal) (h : Within s B ts) :
    Within s B (conjunctionTail acc ts).rest := by
  match ts, h with
  | [], h => rw [conjunctionTail_nil]; exact h
  | t :: r, h =>
    rw [conjunctionTail_cons]
    split
    · next hk =>
      have hr := h.before_tail_of_kind hs hB (Terminal.hasKind_iff.1 hk) ⟨by decide, rfl⟩
      have := (negation r).rest_le
      rw [Parsed.after_rest, Parsed.andThen_rest]
      exact within_conjunctionTail hs hB _ _ (within_negation hs hB r hr)
    · exact h
termination_by ts.length * 16 + 9
decreasing_by all_goals (try simp only [List.length_cons]); omega

theorem within_negation (hs : s.hasKind .semicolon) (hB : OpensStatement B)
    (ts : List Terminal) (h : Before s B ts) :
    Within s B (negation ts).rest := by
  match ts, h with
  | [], h => exact absurd h Before.ne_nil
  | t :: r, h =>
    rw [negation_cons]
    split
    · next hk =>
      rw [Parsed.after_rest, Parsed.map_rest]
      exact within_comparison hs hB r (h.tail_of_kind hs (Terminal.hasKind_iff.1 hk) (by decide))
    · exact within_comparison hs hB (t :: r) h
termination_by ts.length * 16 + 8
decreasing_by all_goals (try simp only [List.length_cons]); omega

theorem within_comparison (hs : s.hasKind .semicolon) (hB : OpensStatement B)
    (ts : List Terminal) (h : Before s B ts) :
    Within s B (comparison ts).rest := by
  rw [comparison_eq, Parsed.andThen_rest]
  have := (expression ts).rest_le
  exact within_comparisonRest hs hB _ _ (within_expression hs hB ts h)
termination_by ts.length * 16 + 7
decreasing_by all_goals omega

theorem within_comparisonRest (hs : s.hasKind .semicolon) (hB : OpensStatement B)
    (l : Cond) (ts : List Terminal) (h : Within s B ts) :
    Within s B (comparisonRest l ts).rest := by
  match ts, h with
  | [], h => exact h
  | t :: r, h =>
    simp only [comparisonRest]
    split
    · next hk =>
      obtain ⟨k, hk', hc⟩ := Terminal.kindIs_iff.1 hk
      rw [Parsed.after_rest, Parsed.map_rest]
      exact within_expression hs hB r
        (h.before_tail_of_kind hs hB hk' (TokenKind.passable_of_class (by simp [hc])))
    · exact h
termination_by ts.length * 16 + 6
decreasing_by all_goals (try simp only [List.length_cons]); omega

theorem within_expression (hs : s.hasKind .semicolon) (hB : OpensStatement B)
    (ts : List Terminal) (h : Before s B ts) :
    Within s B (expression ts).rest := by
  rw [expression_eq, Parsed.andThen_rest]
  have := (term ts).rest_le
  exact within_expressionTail hs hB _ _ (within_term hs hB ts h)
termination_by ts.length * 16 + 5
decreasing_by all_goals omega

theorem within_expressionTail (hs : s.hasKind .semicolon) (hB : OpensStatement B)
    (acc : Cond) (ts : List Terminal) (h : Within s B ts) :
    Within s B (expressionTail acc ts).rest := by
  match ts, h with
  | [], h => rw [expressionTail_nil]; exact h
  | t :: r, h =>
    rw [expressionTail_cons]
    split
    · next hk =>
      obtain ⟨k, hk', hc⟩ := Terminal.kindIs_iff.1 hk
      have hr := h.before_tail_of_kind hs hB hk' (TokenKind.passable_of_class (by simp [hc]))
      have := (term r).rest_le
      rw [Parsed.after_rest, Parsed.andThen_rest]
      exact within_expressionTail hs hB _ _ (within_term hs hB r hr)
    · exact h
termination_by ts.length * 16 + 4
decreasing_by all_goals (try simp only [List.length_cons]); omega

theorem within_term (hs : s.hasKind .semicolon) (hB : OpensStatement B)
    (ts : List Terminal) (h : Before s B ts) : Within s B (term ts).rest := by
  rw [term_eq, Parsed.andThen_rest]
  have := (factor ts).rest_le
  exact within_termTail hs hB _ _ (within_factor hs hB ts h)
termination_by ts.length * 16 + 3
decreasing_by all_goals omega

theorem within_termTail (hs : s.hasKind .semicolon) (hB : OpensStatement B)
    (acc : Cond) (ts : List Terminal) (h : Within s B ts) :
    Within s B (termTail acc ts).rest := by
  match ts, h with
  | [], h => rw [termTail_nil]; exact h
  | t :: r, h =>
    rw [termTail_cons]
    split
    · next hk =>
      obtain ⟨k, hk', hc⟩ := Terminal.kindIs_iff.1 hk
      have hr := h.before_tail_of_kind hs hB hk' (TokenKind.passable_of_class (by simp [hc]))
      have := (factor r).rest_le
      rw [Parsed.after_rest, Parsed.andThen_rest]
      exact within_termTail hs hB _ _ (within_factor hs hB r hr)
    · exact h
termination_by ts.length * 16 + 2
decreasing_by all_goals (try simp only [List.length_cons]); omega

theorem within_factor (hs : s.hasKind .semicolon) (hB : OpensStatement B)
    (ts : List Terminal) (h : Before s B ts) : Within s B (factor ts).rest := by
  match ts, h with
  | [], h => exact absurd h Before.ne_nil
  | t :: r, h =>
    rw [factor_cons]
    split
    · next hk =>
      have hr := h.tail_of_kind hs (Terminal.hasKind_iff.1 hk) (by decide)
      rw [Parsed.after_rest, Parsed.andThen_rest, Parsed.map_rest]
      exact expect_within hs hB rfl (within_disjunction hs hB r hr)
    split
    · next hk => exact (h.tail_of_kind hs (Terminal.hasKind_iff.1 hk) (by decide)).within
    split
    · next hk =>
      obtain ⟨k, hk', hc⟩ := Terminal.kindIs_iff.1 hk
      refine (h.tail_of_kind hs hk' ?_).within
      rintro rfl
      cases hc
    · exact missingOperand_within hs h
termination_by ts.length * 16 + 1
decreasing_by all_goals (try simp only [List.length_cons]); omega

end

end Conditions

/-! ### Statements -/

section Statements

variable {s : Terminal} {B : List Terminal}

/-- A parse whose continuation keeps the place within, after a parse that stops within, stops
within. -/
theorem Within.andThen {ts : List Terminal} {p : Parsed ts α}
    {q : α → (r : List Terminal) → Parsed r β} (hp : Within s B p.rest)
    (hq : ∀ a r, Within s B r → Within s B (q a r).rest) : Within s B (p.andThen q).rest := by
  rw [Parsed.andThen_rest]
  exact hq _ _ hp

theorem fail_within (hs : s.hasKind .semicolon) (hB : OpensStatement B) (e : Expectation)
    {ts : List Terminal} (h : Within s B ts) : Within s B (fail e ts).rest :=
  recover_within hs hB h

theorem within_filter (hs : s.hasKind .semicolon) (hB : OpensStatement B) (ts : List Terminal)
    (h : Within s B ts) : Within s B (filter ts).rest := by
  cases ts with
  | nil => exact h
  | cons t r =>
    rw [filter_cons]
    split
    · next hk =>
      rw [Parsed.after_rest, Parsed.map_rest, condition_eq]
      exact within_disjunction hs hB r
        (h.before_tail_of_kind hs hB (Terminal.hasKind_iff.1 hk) ⟨by decide, rfl⟩)
    · exact h

theorem within_columnDef (hs : s.hasKind .semicolon) (hB : OpensStatement B) (ts : List Terminal)
    (h : Within s B ts) : Within s B (columnDef ts).rest := by
  unfold columnDef
  refine (expect_within hs hB rfl h).andThen fun _ r hr => ?_
  cases r with
  | nil => rwa [Parsed.map_rest, expect_nil_rest]
  | cons t r =>
    dsimp only
    split
    · next hk =>
      obtain ⟨k, hk', hc⟩ := Terminal.kindIs_iff.1 hk
      exact (hr.before_tail_of_kind hs hB hk' (TokenKind.passable_of_class (by simp [hc]))).within
    · exact expect_within hs hB rfl hr

theorem within_columnDefsFrom (hs : s.hasKind .semicolon) (hB : OpensStatement B)
    (acc : Array (Datum × Datum)) (ts : List Terminal) (h : Within s B ts) :
    Within s B (columnDefsFrom acc ts).rest := by
  rw [columnDefsFrom]
  have hc := within_columnDef hs hB ts h
  have hle := (columnDef ts).rest_le
  rcases ha : accept .comma (columnDef ts).rest with _ | ⟨r, hr⟩
  · exact hc
  · rw [Parsed.extend_rest]
    exact within_columnDefsFrom hs hB _ r (accept_within hB rfl ha hc)
termination_by ts.length
decreasing_by omega

theorem within_columnDefs (hs : s.hasKind .semicolon) (hB : OpensStatement B) (ts : List Terminal)
    (h : Within s B ts) : Within s B (columnDefs ts).rest := by
  unfold columnDefs
  split
  · exact within_columnDefsFrom hs hB _ ts h
  · exact fail_within hs hB .columnDef h

theorem within_valuesFrom (hs : s.hasKind .semicolon) (hB : OpensStatement B)
    (acc : Array Datum) (ts : List Terminal) (h : Within s B ts) :
    Within s B (valuesFrom acc ts).rest := by
  match ts, h with
  | [], h => rw [valuesFrom]; exact h
  | t :: r, h =>
    rw [valuesFrom]
    split
    · next hv =>
      obtain ⟨k, hk, hc⟩ := Terminal.kindIs_iff.1 hv
      have hr := (h.before_tail_of_kind hs hB hk (TokenKind.passable_of_class (by simp [hc]))).within
      rcases ha : accept .comma r with _ | ⟨r', hr'⟩
      · exact hr
      · exact within_valuesFrom hs hB _ r' (accept_within hB rfl ha hr)
    · exact fail_within hs hB .value h
termination_by ts.length
decreasing_by simp only [List.length_cons]; omega

theorem within_valueList (hs : s.hasKind .semicolon) (hB : OpensStatement B) (ts : List Terminal)
    (h : Within s B ts) : Within s B (valueList ts).rest := by
  unfold valueList
  split
  · exact within_valuesFrom hs hB _ ts h
  · exact fail_within hs hB .valueList h

theorem within_selectItemsFrom (hs : s.hasKind .semicolon) (hB : OpensStatement B)
    (acc : Array Datum) (ts : List Terminal) (h : Within s B ts) :
    Within s B (selectItemsFrom acc ts).rest := by
  rw [selectItemsFrom]
  rcases ha : accept .comma ts with _ | ⟨r, hr⟩
  · exact h
  · dsimp only
    have h₁ := expect_within hs hB (k := .identifier) rfl (accept_within hB rfl ha h)
    rcases he : expect .identifier r with ⟨item, e₁, r₁, h₁'⟩
    rw [he] at h₁
    dsimp only
    -- the rest is that of the loop on the further items, whatever was collected
    generalize hp : selectItemsFrom _ r₁ = p
    rcases p with ⟨v, e₂, r₂, h₂⟩
    have hr₂ := congrArg Parsed.rest hp
    dsimp only at hr₂ ⊢
    rw [← hr₂]
    exact within_selectItemsFrom hs hB _ r₁ h₁
termination_by ts.length
decreasing_by
  have : r₁.length ≤ r.length := by
    have := (expect .identifier r).rest_le
    rw [he] at this
    exact this
  omega

theorem within_selectItems (hs : s.hasKind .semicolon) (hB : OpensStatement B)
    (ts : List Terminal) (h : Within s B ts) : Within s B (selectItems ts).rest := by
  unfold selectItems
  rcases ha : accept .multiply ts with _ | ⟨r, hr⟩
  · refine (expect_within hs hB rfl h).andThen fun first r hr => ?_
    cases first with
    | some t => exact within_selectItemsFrom hs hB _ r hr
    | none => exact fail_within hs hB .selectItem hr
  · exact accept_within hB rfl ha h

theorem within_assignment (hs : s.hasKind .semicolon) (hB : OpensStatement B)
    (ts : List Terminal) (h : Within s B ts) : Within s B (assignment ts).rest := by
  unfold assignment
  refine (expect_within hs hB rfl h).andThen fun _ r hr =>
    (expect_within hs hB rfl hr).andThen fun _ r hr => ?_
  cases r with
  | nil => exact hr
  | cons t r =>
    dsimp only
    split
    · next hv =>
      obtain ⟨k, hk, hc⟩ := Terminal.kindIs_iff.1 hv
      exact (hr.before_tail_of_kind hs hB hk (TokenKind.passable_of_class (by simp [hc]))).within
    · exact fail_within hs hB .assignedValue hr

theorem within_assignmentsFrom (hs : s.hasKind .semicolon) (hB : OpensStatement B)
    (acc : Array (Datum × Datum)) (ts : List Terminal) (h : Within s B ts) :
    Within s B (assignmentsFrom acc ts).rest := by
  rw [assignmentsFrom]
  have ha := within_assignment hs hB ts h
  have hle := (assignment ts).rest_le
  rcases hc : accept .comma (assignment ts).rest with _ | ⟨r, hr⟩
  · exact ha
  · rw [Parsed.extend_rest]
    exact within_assignmentsFrom hs hB _ r (accept_within hB rfl hc ha)
termination_by ts.length
decreasing_by omega

/-- `CREATE` is read from its keyword, so it starts before `s`. -/
theorem within_create (hs : s.hasKind .semicolon) (hB : OpensStatement B) (ts : List Terminal)
    (h : Before s B ts) : Within s B (create ts).rest := by
  unfold create
  exact (expect_before hs (by decide) h).andThen fun _ r hr =>
    (expect_within hs hB rfl hr).andThen fun _ r hr =>
    (expect_within hs hB rfl hr).andThen fun _ r hr =>
    (expect_within hs hB rfl hr).andThen fun _ r hr =>
    (within_columnDefs hs hB r hr).andThen fun _ r hr => expect_within hs hB rfl hr

theorem within_insert (hs : s.hasKind .semicolon) (hB : OpensStatement B) (kw : Terminal)
    (ts : List Terminal) (h : Within s B ts) : Within s B (insert kw ts).rest := by
  unfold insert
  exact (expect_within hs hB rfl h).andThen fun _ r hr =>
    (expect_within hs hB rfl hr).andThen fun _ r hr =>
    (expect_within hs hB rfl hr).andThen fun _ r hr =>
    (expect_within hs hB rfl hr).andThen fun _ r hr =>
    (within_valueList hs hB r hr).andThen fun _ r hr => expect_within hs hB rfl hr

theorem within_select (hs : s.hasKind .semicolon) (hB : OpensStatement B) (kw : Terminal)
    (ts : List Terminal) (h : Within s B ts) : Within s B (select kw ts).rest := by
  unfold select
  exact (within_selectItems hs hB ts h).andThen fun _ r hr =>
    (expect_within hs hB rfl hr).andThen fun _ r hr =>
    (expect_within hs hB rfl hr).andThen fun _ r hr => within_filter hs hB r hr

theorem within_update (hs : s.hasKind .semicolon) (hB : OpensStatement B) (kw : Terminal)
    (ts : List Terminal) (h : Within s B ts) : Within s B (update kw ts).rest := by
  unfold update
  exact (expect_within hs hB rfl h).andThen fun _ r hr =>
    (expect_within hs hB rfl hr).andThen fun _ r hr =>
    (within_assignmentsFrom hs hB _ r hr).andThen fun _ r hr => within_filter hs hB r hr

theorem within_delete (hs : s.hasKind .semicolon) (hB : OpensStatement B) (kw : Terminal)
    (ts : List Terminal) (h : Within s B ts) : Within s B (delete kw ts).rest := by
  unfold delete
  exact (expect_within hs hB rfl h).andThen fun _ r hr =>
    (expect_within hs hB rfl hr).andThen fun _ r hr => within_filter hs hB r hr

/-- A statement begins before `s`: its keyword, if it has one, is not `s`, and without one the
statement is recovery, which stops at `s` at the latest. -/
theorem within_statement (hs : s.hasKind .semicolon) (hB : OpensStatement B) (ts : List Terminal)
    (h : Before s B ts) : Within s B (statement ts).rest := by
  cases ts with
  | nil => exact absurd h Before.ne_nil
  | cons t r =>
    by_cases hk : t.kindIs TokenKind.startsStatement
    · obtain ⟨k, hk', hsk⟩ := Terminal.kindIs_iff.1 hk
      have hr : Within s B r := (h.tail_of_kind hs hk' (by rintro rfl; cases hsk)).within
      rcases TokenKind.startsStatement_iff.1 hsk with rfl | rfl | rfl | rfl | rfl
      · rw [statement_of_create r hk', Parsed.map_rest]
        exact within_create hs hB _ h
      · rw [statement_of_insert r hk', Parsed.after_rest, Parsed.map_rest]
        exact within_insert hs hB t r hr
      · rw [statement_of_select r hk', Parsed.after_rest, Parsed.map_rest]
        exact within_select hs hB t r hr
      · rw [statement_of_update r hk', Parsed.after_rest, Parsed.map_rest]
        exact within_update hs hB t r hr
      · rw [statement_of_delete r hk', Parsed.after_rest, Parsed.map_rest]
        exact within_delete hs hB t r hr
    · rw [statement_of_not_startsStatement (by simpa using hk)]
      exact (recover_before hs h).within

theorem within_terminator (hs : s.hasKind .semicolon) (hB : OpensStatement B)
    (ts : List Terminal) (h : Within s B ts) : Within s B (terminator ts).rest := by
  cases ts with
  | nil => exact h
  | cons t r =>
    dsimp only [terminator]
    split
    · next ht => exact accept_within hB rfl (accept_of_kind r ht) h
    split
    · exact h
    · have hf := fail_within hs hB .terminator h
      rcases ha : accept .semicolon (fail .terminator (t :: r)).rest with _ | ⟨r', hr'⟩
      · exact hf
      · exact accept_within hB rfl ha hf

end Statements

/-! ### The statement loop -/

section Loop

variable {s : Terminal} {B : List Terminal}

/-- The loop does not stop before `s`: no terminal in front of `B` is of kind `EOF`. -/
theorem Before.current_not_eof (hs : s.hasKind .semicolon) {r : List Terminal}
    (h : Before s B r) : (current r).hasKind .eof = false := by
  obtain ⟨A, rfl, heof⟩ := h
  cases A with
  | nil =>
    rw [List.nil_append, current_cons, Terminal.hasKind_of_kind? (Terminal.hasKind_iff.1 hs)]
    rfl
  | cons t A => exact heof t List.mem_cons_self

/-- **The loop reaches `B`.** Run with enough fuel from a place before `s`, the statement loop
comes to `B` itself with enough fuel left, having read some statements and reported some errors
on the way; from there on it is the loop on `B`, and it stops where that loop stops. -/
theorem programFrom_reaches (hs : s.hasKind .semicolon) (hB : OpensStatement B) (n : Nat)
    (acc : Array Stmt) (r : List Terminal) (h : Before s B r) (hn : r.length < n) :
    ∃ m acc' E, B.length < m ∧ (programFrom n acc r).value = (programFrom m acc' B).value ∧
      (programFrom n acc r).errors = E ++ (programFrom m acc' B).errors ∧
      (programFrom n acc r).rest = (programFrom m acc' B).rest := by
  induction n generalizing acc r with
  | zero => omega
  | succ n ih =>
    have heof := h.current_not_eof hs
    rw [programFrom_succ, if_neg (by simp [heof])]
    simp only [Parsed.andThen_value, Parsed.andThen_errors, Parsed.andThen_rest]
    -- a statement and its terminator take a terminal at least, and stop within
    have hlt := length_terminator_statement_lt heof
    rcases within_terminator hs hB _ (within_statement hs hB r h) with hb | hr
    · obtain ⟨m, acc', E, hm, hv, he, hrest⟩ := ih _ _ hb (by omega)
      exact ⟨m, acc', _ ++ _ ++ E, hm, hv, by rw [he, List.append_assoc, List.append_assoc], hrest⟩
    · rw [hr] at hlt ⊢
      exact ⟨n, _, _ ++ _, by omega, rfl, (List.append_assoc _ _ _).symm, rfl⟩

end Loop

/-- **Recovery never crosses a semicolon.** In terminals `A ++ s :: B`, where `s` is a semicolon,
none of `A` is of kind `EOF`, and `B` is empty or begins with a keyword, the statements and the
errors of the parse end with those of the parse of `B` alone, however malformed `A` is. -/
theorem parse_after_semicolon {A B : List Terminal} {s : Terminal}
    (hA : ∀ t ∈ A, t.hasKind .eof = false) (hs : s.hasKind .semicolon) (hB : OpensStatement B) :
    ∃ S E, parse (A ++ s :: B) = ⟨S ++ (parse B).program, E ++ (parse B).errors⟩ := by
  obtain ⟨m, acc, E, hm, hv, he, -⟩ :=
    programFrom_reaches hs hB _ #[] (A ++ s :: B) ⟨A, rfl, hA⟩ (Nat.lt_succ_self _)
  refine ⟨acc.toList, E, ?_⟩
  have hfuel := programFrom_fuel #[] B hm (Nat.lt_succ_self B.length)
  show Parse.mk (programFrom _ #[] (A ++ s :: B)).value (programFrom _ #[] (A ++ s :: B)).errors = _
  rw [hv, he, programFrom_value m acc B, programFrom_errors m acc #[] B, hfuel]
  rfl

/-- In terminals `A ++ s :: B` as in `parse_after_semicolon`, the parse passes all of `A` and
`s`, and then what it passes of `B` alone: from `B` on it is the loop on `B`, which stops where
that loop stops. -/
theorem passed_after_semicolon {A B : List Terminal} {s : Terminal}
    (hA : ∀ t ∈ A, t.hasKind .eof = false) (hs : s.hasKind .semicolon) (hB : OpensStatement B) :
    passed (A ++ s :: B) = A ++ s :: passed B := by
  obtain ⟨m, acc, E, hm, -, -, hrest⟩ :=
    programFrom_reaches hs hB _ #[] (A ++ s :: B) ⟨A, rfl, hA⟩ (Nat.lt_succ_self _)
  apply passed_eq
  rw [hrest, programFrom_rest m acc #[] B, programFrom_fuel #[] B hm (Nat.lt_succ_self B.length),
    List.append_assoc, List.cons_append, passed_append_rest]

end Parser

/-- In terminals `A ++ s :: B` as in `Parser.parse_after_semicolon`, the parse faults at the first
terminal of `A` whose kind cannot be a key; without one, where the parse of `B` alone faults. The
semicolon between them is a key. -/
theorem lookupFault?_after_semicolon {A B : List Terminal} {s : Terminal}
    (hA : ∀ t ∈ A, t.hasKind .eof = false) (hs : s.hasKind .semicolon)
    (hB : Parser.OpensStatement B) :
    lookupFault? (A ++ s :: B) = (lookupFault? A).or (lookupFault? B) := by
  have hkey : ¬ s.kind.key?.isNone = true := by
    rw [Bool.not_eq_true, Option.isNone_eq_false_iff]
    exact Terminal.isSome_key?_of_isSome_kind? (by rw [Parser.Terminal.hasKind_iff.1 hs]; rfl)
  unfold lookupFault?
  rw [Parser.passed_after_semicolon hA hs hB, Parser.passed_of_no_eof hA, List.find?_append,
    List.find?_cons_of_neg (p := fun t : Terminal => t.kind.key?.isNone) hkey]
  cases A.find? (fun t => t.kind.key?.isNone) <;> rfl

/-- In terminals `A ++ s :: B` as in `Parser.parse_after_semicolon`, the parse of a list made by
hand faults at the first terminal of `A` whose kind cannot be a key; without one, it is the parse
of `B`, faulting where that faults, and otherwise ending with its statements and errors. -/
theorem parseTerminals_after_semicolon {A B : List Terminal} {s : Terminal}
    (hA : ∀ t ∈ A, t.hasKind .eof = false) (hs : s.hasKind .semicolon)
    (hB : Parser.OpensStatement B) :
    ∃ S E, parseTerminals (A ++ s :: B) = match lookupFault? A with
      | some f => .error f
      | none => (parseTerminals B).map fun q => ⟨S ++ q.program, E ++ q.errors⟩ := by
  obtain ⟨S, E, hp⟩ := Parser.parse_after_semicolon hA hs hB
  refine ⟨S, E, ?_⟩
  unfold parseTerminals
  rw [lookupFault?_after_semicolon hA hs hB]
  cases lookupFault? A with
  | some f => rfl
  | none =>
    cases lookupFault? B with
    | some f => rfl
    | none => rw [Option.or_none, hp]; rfl

theorem parseTerminals_after_semicolon_select :
    (∀ t ∈ [Token.toTerminal ⟨.select, "SELECT", 1, 1⟩], t.hasKind .eof = false) ∧
      (Token.toTerminal ⟨.semicolon, ";", 1, 7⟩).hasKind .semicolon ∧
      Parser.OpensStatement [Token.toTerminal ⟨.delete, "DELETE", 1, 9⟩,
        Token.toTerminal ⟨.from, "FROM", 1, 16⟩, Token.toTerminal ⟨.identifier, "t", 1, 21⟩] ∧
      ∃ S E, parseTerminals ([Token.toTerminal ⟨.select, "SELECT", 1, 1⟩] ++
          Token.toTerminal ⟨.semicolon, ";", 1, 7⟩ :: [Token.toTerminal ⟨.delete, "DELETE", 1, 9⟩,
            Token.toTerminal ⟨.from, "FROM", 1, 16⟩, Token.toTerminal ⟨.identifier, "t", 1, 21⟩]) =
        match lookupFault? [Token.toTerminal ⟨.select, "SELECT", 1, 1⟩] with
        | some f => .error f
        | none => (parseTerminals [Token.toTerminal ⟨.delete, "DELETE", 1, 9⟩,
            Token.toTerminal ⟨.from, "FROM", 1, 16⟩,
            Token.toTerminal ⟨.identifier, "t", 1, 21⟩]).map
              fun q => ⟨S ++ q.program, E ++ q.errors⟩ :=
  ⟨by decide, by decide, by decide, parseTerminals_after_semicolon (by decide) (by decide) (by decide)⟩

/-- A terminal whose kind is a list, in front of the semicolon, stops the parse with a fault, so
the parse does not end with that of what follows the semicolon. -/
theorem parseTerminals_list_kind_before_semicolon :
    ¬ ∃ S E, parseTerminals [⟨.list [.str "x"], .str "a", .int 1, .int 1⟩,
        Token.toTerminal ⟨.semicolon, ";", 1, 2⟩] =
      .ok ⟨S ++ (parse []).program, E ++ (parse []).errors⟩ := by
  rintro ⟨S, E, h⟩
  -- no terminal is of kind `EOF`, so the parse passes both, the list first
  have hf : lookupFault? [⟨.list [.str "x"], .str "a", .int 1, .int 1⟩,
      Token.toTerminal ⟨.semicolon, ";", 1, 2⟩] = some (.unhashable (Datum.list [.str "x"]).typeName) := by
    unfold lookupFault?
    rw [Parser.passed_of_no_eof (by decide)]
    rfl
  rw [parseTerminals, hf] at h
  cases h

end SqlFront
