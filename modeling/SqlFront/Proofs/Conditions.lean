import SqlFront.Proofs.Sequencing
import SqlFront.Proofs.Growth
/-!
# The types of a condition

The analysis gives every operation of a condition the type of its left operand, and asks of
every operation, comparison and connective alike, that its two operands have one type. So
`AND`, `OR` and `NOT` do impose a type: the type of a condition is the type of its leftmost
column or literal, and an `AND` of a comparison of numbers with a comparison of texts is a type
mismatch although each comparison is well typed (`analyze_mixed_connective`).

What does hold is a statement about the sides alone. Over a table in scope, a condition built
with operations and negations from columns of the table and literals written as texts
(`Node.Combines`) passes exactly when all its sides have one type; otherwise it reports one
type mismatch, at the first operation whose operands differ. It never changes the state
(`Node.Combines.visit`). A `SELECT`, `UPDATE` or `DELETE` whose own check passes therefore
appends no error for such a condition, or one type mismatch (`analyze_filtered`).
-/

namespace SqlFront

open Check

/-! ### Conditions over a table -/

/-- A side of a comparison over the table `tbl`, with the type the analysis gives it: a column
of the table at a place, or a literal written as a text. -/
inductive Node.Side (tbl : Table) : Node → SqlType → Prop
  | column {name : Datum} {k : Key} {τ : SqlType} {site : Site} {p : Datum × Datum}
      {ty : Option SqlType} (hk : name.key? = some k) (hτ : tbl.columnType? k = some τ)
      (hp : site.get? = some p) : Side tbl (.column name site ty) τ
  | literal {s : Str} {site : Site} {ty : Option SqlType} :
      Side tbl (.literal (.str s) site ty) (SqlType.ofLiteral s)

/-- A condition over `tbl` built with operations and negations from sides, with the type of its
leftmost side and the types of all its sides from left to right. -/
inductive Node.Combines (tbl : Table) : Node → SqlType → List SqlType → Prop
  | side {n : Node} {τ : SqlType} : Side tbl n τ → Combines tbl n τ [τ]
  | binary {op : Datum} {l r : Node} {site : Site} {p : Datum × Datum} {τ ρ : SqlType}
      {ls rs : List SqlType} : Combines tbl l τ ls → Combines tbl r ρ rs → site.get? = some p →
      Combines tbl (.binary op l r site) τ (ls ++ rs)
  | negation {c : Node} {site : Site} {τ : SqlType} {cs : List SqlType} :
      Combines tbl c τ cs → Combines tbl (.negation c site) τ cs

/-- The state reads the table `tbl` as the one in scope. -/
def Analyzer.Scopes (tbl : Table) (st : Analyzer) : Prop :=
  st.scope.truthy ∧ ∃ k, st.scope.key? = some k ∧ st.catalog.find? k = some tbl

namespace Node.Combines

variable {tbl : Table} {n : Node} {τ : SqlType} {tys : List SqlType}

/-- The leftmost side is a side. -/
theorem mem_left (h : n.Combines tbl τ tys) : τ ∈ tys := by
  induction h with
  | side => exact List.mem_singleton_self _
  | binary _ _ _ ihl => exact List.mem_append_left _ ihl
  | negation _ ih => exact ih

theorem ne_absent (h : n.Combines tbl τ tys) : n ≠ .absent := by
  cases h with
  | side hs => cases hs <;> (intro h; cases h)
  | binary => intro h; cases h
  | negation => intro h; cases h

end Node.Combines

/-! ### Checks that leave the state -/

namespace Check

/-- Whatever its ending, the check leaves the state as it was. -/
def Still (c : Check α) : Prop := ∀ st, Triple (· = st) c (· = st) fun _ => (· = st)

namespace Still

theorem pure (a : α) : Still (pure a : Check α) := fun _ => Triple.pure (fun _ h => h) a

theorem throw (e : Stop) : Still (throw e : Check α) := fun _ => Triple.throw fun _ h => h

theorem get : Still (get : Check Analyzer) := fun _ => Triple.get fun _ h => h

theorem bind {x : Check α} {f : α → Check β} (hx : Still x) (hf : ∀ a, Still (f a)) :
    Still (x >>= f) :=
  fun st => (hx st).bind fun a => hf a st

theorem forIn {xs : List α} {f : α → β → Check (ForInStep β)} (h : ∀ x ∈ xs, ∀ b, Still (f x b))
    (b : β) : Still (forIn xs b f) :=
  fun st => Triple.forIn (fun x hx b => h x hx b st) b

/-- A check that leaves the state returns or ends in the state it started from. -/
theorem exec_state {c : Check α} (h : Still c) (st : Analyzer) : (c.exec st).2 = st := by
  have h := h st st rfl
  revert h
  rcases c.exec st with ⟨_ | _, st'⟩ <;> exact id

end Still

theorem still_place (s : Site) : Still (place s) := by
  unfold place
  split
  · exact Still.pure _
  · exact Still.throw _

theorem still_raise (s : Site) (p : Problem) : Still (raise s p : Check α) :=
  (still_place s).bind fun _ => Still.throw _

theorem still_key (d : Datum) : Still (key d) := by
  unfold key
  split
  · exact Still.pure _
  · exact Still.throw _

theorem still_ofExcept (r : Except Fault α) : Still (ofExcept r) := by
  unfold ofExcept
  split
  · exact Still.pure _
  · exact Still.throw _

theorem still_table (name l c : Datum) : Still (table name l c) := by
  unfold table
  refine (still_key name).bind fun k => Still.get.bind fun st => ?_
  split
  · exact Still.pure _
  · exact Still.throw _

theorem still_columnType (name col l c : Datum) : Still (columnType name col l c) := by
  unfold columnType
  refine (still_table name l c).bind fun t => (still_key col).bind fun k => ?_
  split
  · exact Still.pure _
  · exact Still.throw _

theorem still_valueType (v : Datum) : Still (valueType v) := by
  unfold valueType
  split
  · exact Still.pure _
  · exact Still.throw _

/-! ### The checks of a condition's sides and operations -/

/-- A column of the table in scope is read with its declared type. -/
theorem exec_column {tbl : Table} {st : Analyzer} (hst : st.Scopes tbl) {name : Datum} {k : Key}
    {τ : SqlType} (hk : name.key? = some k) (hτ : tbl.columnType? k = some τ) {site : Site}
    {p : Datum × Datum} (hp : site.get? = some p) : (column name site).exec st = (.ok τ, st) := by
  obtain ⟨htruthy, kt, hkt, hfind⟩ := hst
  simp [column, columnType, table, key, place, exec_bind, htruthy, hkt, hfind, hk, hτ, hp]

/-- Two operand types at a place pass when they are equal, and are a mismatch otherwise. -/
theorem exec_operands (a b : SqlType) {site : Site} {p : Datum × Datum} (hp : site.get? = some p)
    (st : Analyzer) :
    (operands (some a) (some b) site).exec st =
      if a = b then (.ok (), st) else (.error (.error ⟨.operandMismatch a b, p.1, p.2⟩), st) := by
  by_cases hab : a = b <;> simp [operands, raise, place, hp, hab]

end Check

/-! ### Visiting a condition -/

section Binary

variable {l r : Node} {st st₁ : Analyzer}

/-- An operation whose left operand stops stops with it. -/
theorem visit_binary_of_left (op : Datum) (r : Node) (site : Site) {s : Stop}
    (hl : (visit l st).outcome = .error s) :
    (visit (.binary op l r site) st).state = (visit l st).state ∧
      (visit (.binary op l r site) st).outcome = .error s := by
  simp only [visit, hl, and_self]

/-- An operation whose right operand stops, after a left operand that returned, stops with it. -/
theorem visit_binary_of_right (op : Datum) (site : Site) {lt : Option SqlType} {s : Stop}
    (hl : (visit l st).outcome = .ok lt) (hsl : (visit l st).state = st₁)
    (hr : (visit r st₁).outcome = .error s) :
    (visit (.binary op l r site) st).state = (visit r st₁).state ∧
      (visit (.binary op l r site) st).outcome = .error s := by
  simp only [visit, hl, hsl, hr, and_self]

/-- An operation whose operands both returned checks that their types agree, and has the type
of its left operand. -/
theorem visit_binary_of_ok (op : Datum) (site : Site) {lt rt : Option SqlType}
    (hl : (visit l st).outcome = .ok lt) (hsl : (visit l st).state = st₁)
    (hr : (visit r st₁).outcome = .ok rt) :
    (visit (.binary op l r site) st).state =
        ((operands lt rt site).exec (visit r st₁).state).2 ∧
      (visit (.binary op l r site) st).outcome =
        ((operands lt rt site).exec (visit r st₁).state).1.map fun _ => lt := by
  simp only [visit, hl, hsl, hr, and_self]

end Binary

/-- How the visit of a condition ends: with the type `τ` of its leftmost side when all the types
`tys` of its sides are `τ`, and with a type mismatch when one is not. -/
def Visit.Typed (v : Visit) (τ : SqlType) (tys : List SqlType) : Prop :=
  (∀ σ ∈ tys, σ = τ) ∧ v.outcome = .ok (some τ) ∨
    (∃ σ ∈ tys, σ ≠ τ) ∧
      ∃ a b l c, a ≠ b ∧ v.outcome = .error (.error ⟨.operandMismatch a b, l, c⟩)

variable {tbl : Table} {st : Analyzer}

/-- A side is read with its type, and changes nothing. -/
theorem Node.Side.visit_typed {n : Node} {τ : SqlType} (h : n.Side tbl τ) (hst : st.Scopes tbl) :
    (visit n st).state = st ∧ (visit n st).Typed τ [τ] := by
  cases h with
  | column hk hτ hp =>
    simp only [visit, exec_column hst hk hτ hp, true_and]
    exact .inl ⟨by simp, rfl⟩
  | literal =>
    simp only [visit, true_and]
    exact .inl ⟨by simp, rfl⟩

/-- **The types of a condition.** Over the table in scope, a condition built from sides passes
with the type of its leftmost side exactly when all its sides have that type, and otherwise
ends in a type mismatch; either way it changes nothing. -/
theorem Node.Combines.visit_typed {n : Node} {τ : SqlType} {tys : List SqlType}
    (h : n.Combines tbl τ tys) (hst : st.Scopes tbl) :
    (visit n st).state = st ∧ (visit n st).Typed τ tys := by
  induction h with
  | side hs => exact hs.visit_typed hst
  | @binary op l r site p τ ρ ls rs _ hr hp ihl ihr =>
    obtain ⟨hsl, hvl⟩ := ihl
    obtain ⟨hsr, hvr⟩ := ihr
    rcases hvl with ⟨hls, hol⟩ | ⟨⟨σ, hσ, hστ⟩, hol⟩
    · rcases hvr with ⟨hrs, hor⟩ | ⟨⟨σ, hσ, hσρ⟩, a, b, l', c', hab, hor⟩
      · -- both operands pass: the operation compares their types
        have hv := visit_binary_of_ok op site hol hsl hor
        rw [hsr, exec_operands τ ρ hp] at hv
        by_cases hτρ : τ = ρ
        · rw [if_pos hτρ] at hv
          refine ⟨hv.1, .inl ⟨fun σ hσ => ?_, hv.2⟩⟩
          rcases List.mem_append.1 hσ with hσ | hσ
          · exact hls σ hσ
          · exact (hrs σ hσ).trans hτρ.symm
        · rw [if_neg hτρ] at hv
          exact ⟨hv.1, .inr ⟨⟨ρ, List.mem_append_right _ hr.mem_left, Ne.symm hτρ⟩,
            τ, ρ, p.1, p.2, hτρ, hv.2⟩⟩
      · -- the right operand has a mismatch of its own, or a type other than the left's
        have hv := visit_binary_of_right op site hol hsl hor
        rw [hsr] at hv
        refine ⟨hv.1, .inr ⟨?_, a, b, l', c', hab, hv.2⟩⟩
        by_cases hρτ : ρ = τ
        · exact ⟨σ, List.mem_append_right _ hσ, hρτ ▸ hσρ⟩
        · exact ⟨ρ, List.mem_append_right _ hr.mem_left, hρτ⟩
    · obtain ⟨a, b, l', c', hab, hol⟩ := hol
      have hv := visit_binary_of_left op r site hol
      rw [hsl] at hv
      exact ⟨hv.1, .inr ⟨⟨σ, List.mem_append_left _ hσ, hστ⟩, a, b, l', c', hab, hv.2⟩⟩
  | negation _ ih =>
    simp only [visit]
    exact ih

/-- A condition whose sides all have the type of its leftmost side passes with that type. -/
theorem Node.Combines.visit_of_uniform {n : Node} {τ : SqlType} {tys : List SqlType}
    (h : n.Combines tbl τ tys) (hst : st.Scopes tbl) (hall : ∀ σ ∈ tys, σ = τ) :
    (visit n st).state = st ∧ (visit n st).outcome = .ok (some τ) := by
  obtain ⟨hs, hv⟩ := h.visit_typed hst
  rcases hv with ⟨-, ho⟩ | ⟨⟨σ, hσ, hστ⟩, -⟩
  · exact ⟨hs, ho⟩
  · exact absurd (hall σ hσ) hστ

/-- An operation on two conditions, each with sides of one type, reports the mismatch of the
two types at its place when they differ. -/
theorem Node.Combines.visit_binary_mismatch (op : Datum) {l r : Node} {site : Site}
    {p : Datum × Datum} {τ ρ : SqlType} {ls rs : List SqlType} (hl : l.Combines tbl τ ls)
    (hr : r.Combines tbl ρ rs) (hls : ∀ σ ∈ ls, σ = τ) (hrs : ∀ σ ∈ rs, σ = ρ)
    (hp : site.get? = some p) (hτρ : τ ≠ ρ) (hst : st.Scopes tbl) :
    (visit (.binary op l r site) st).state = st ∧
      (visit (.binary op l r site) st).outcome =
        .error (.error ⟨.operandMismatch τ ρ, p.1, p.2⟩) := by
  obtain ⟨hsl, hol⟩ := hl.visit_of_uniform hst hls
  obtain ⟨hsr, hor⟩ := hr.visit_of_uniform hst hrs
  have hv := visit_binary_of_ok op site hol hsl hor
  rw [hsr, exec_operands τ ρ hp, if_neg hτρ] at hv
  exact hv

/-! ### Statements with a condition -/

/-- `n` is a `SELECT`, `UPDATE` or `DELETE` of the table `t` with the condition `f`, and `c` is
its check before the condition. -/
inductive Node.Filters : Node → Datum → Node → Check Unit → Prop
  | select (items t : Datum) (f : Node) (site : Site) :
      Filters (.select items t f site) t f (Check.select items t site)
  | update (t assigns : Datum) (f : Node) (site : Site) :
      Filters (.update t assigns f site) t f (Check.update t assigns site)
  | delete (t : Datum) (f : Node) (site : Site) :
      Filters (.delete t f site) t f (Check.delete t site)

namespace Node.Filters

variable {t : Datum} {f n : Node} {c : Check Unit}

/-- The check of a statement before its condition puts its table in scope, and changes nothing
else. -/
theorem triple_check (h : n.Filters t f c) (st : Analyzer) :
    Triple (· = st) c (· = { st with scope := t }) fun _ _ => True := by
  have hstill : ∀ {β} {x : Check β} {s : Analyzer}, Still x →
      Triple (· = s) x (· = s) fun _ _ => True :=
    fun h => (h _).mono (fun _ h => h) (fun _ h => h) fun _ _ _ => trivial
  have hscope : Triple (· = st) (modify fun st' : Analyzer => { st' with scope := t })
      (· = { st with scope := t }) fun _ _ => True :=
    Triple.modify fun _ h => h ▸ rfl
  cases h with
  | select items t f site =>
    unfold Check.select
    refine (hstill (still_place site)).bind fun ⟨l, c⟩ =>
      (hstill (still_table t l c)).bind fun _ => hscope.bind fun _ => hstill ?_
    split
    · exact (still_ofExcept _).bind fun cols => (Still.forIn (fun col _ _ =>
        (still_columnType t col l c).bind fun _ => Still.pure _) _).bind fun _ => Still.pure _
    · exact Still.pure _
  | update t assigns f site =>
    unfold Check.update
    refine (hstill (still_place site)).bind fun ⟨l, c⟩ =>
      (hstill (still_table t l c)).bind fun _ => hscope.bind fun _ => hstill ?_
    refine (still_ofExcept _).bind fun as =>
      (Still.forIn (fun a _ _ => ?_) _).bind fun _ => Still.pure _
    refine (still_ofExcept _).bind fun ⟨cn, v⟩ => (still_columnType t cn l c).bind fun ct =>
      (still_valueType v).bind fun vt => ?_
    split
    · exact (Still.throw _).bind fun _ => Still.pure _
    · exact Still.pure _
  | delete t f site =>
    unfold Check.delete
    exact (hstill (still_place site)).bind fun ⟨l, c⟩ =>
      (hstill (still_table t l c)).bind fun _ => hscope

/-- A statement whose check passes visits its condition from there, and takes its ending. -/
theorem visit_of_check (h : n.Filters t f c) {st st₁ : Analyzer} {u : Unit}
    (hc : c.exec st = (.ok u, st₁)) (hf : f ≠ .absent) :
    (visit n st).state = (visit f st₁).state ∧
      (visit n st).outcome = (visit f st₁).outcome.map fun _ => none := by
  cases h <;> simp only [visit, hc, visitFilter.eq_2 _ _ hf, and_self]

end Node.Filters

/-- A program of one statement that does not halt reports what the statement reports. -/
theorem errors_analyze_singleton {n : Node} (hn : (visit n st).outcome ≠ .error .halt) (q : Site) :
    (analyze (.query [n] q) st).1.errors = (visit n st).following.errors := by
  simp only [analyze, visit, visitStatements_cons hn, visitStatements]

/-- A statement whose check passes reports, as a program, what its condition reports. -/
theorem Node.Filters.errors_analyze {t : Datum} {f n : Node} {c : Check Unit} {st₁ : Analyzer}
    (h : n.Filters t f c) (hc : c.exec st = (.ok (), st₁)) (hf : f ≠ .absent)
    (ho : (visit f st₁).outcome ≠ .error .halt) (q : Site) :
    (analyze (.query [n] q) st).1.errors = (visit f st₁).following.errors := by
  obtain ⟨hns, hno⟩ := h.visit_of_check hc hf
  have hn : (visit n st).outcome ≠ .error .halt := by
    rw [hno]
    revert ho
    cases (visit f st₁).outcome <;> simp [Except.map]
  rw [errors_analyze_singleton hn q]
  simp only [Visit.following, hns, hno]
  cases (visit f st₁).outcome <;> rfl

/-- **What a condition reports.** Take a `SELECT`, `UPDATE` or `DELETE` whose check before the
condition passes, of a table `tbl` named by a datum that counts as true, with a condition built
with operations and negations from columns of `tbl` and literals written as texts. Analysed as
a program, it reports no error if all the sides of its condition have one type, and otherwise
exactly one error, a mismatch of two different types. Connectives count as operations: the
sides of an `AND` must agree as well as those of each comparison. -/
theorem analyze_filtered {t : Datum} {f n : Node} {c : Check Unit} {k : Key} {τ : SqlType}
    {tys : List SqlType} (hn : n.Filters t f c) (hc : (c.exec st).1 = .ok ())
    (ht : t.truthy) (hk : t.key? = some k) (htbl : st.catalog.find? k = some tbl)
    (hf : f.Combines tbl τ tys) (q : Site) :
    (∀ σ ∈ tys, σ = τ) ∧ (analyze (.query [n] q) st).1.errors = st.errors ∨
      (∃ σ ∈ tys, σ ≠ τ) ∧ ∃ a b l c, a ≠ b ∧
        (analyze (.query [n] q) st).1.errors = st.errors.push ⟨.operandMismatch a b, l, c⟩ := by
  -- the check leaves the state with the table in scope
  have hc' : c.exec st = (.ok (), { st with scope := t }) := by
    have h := hn.triple_check st st rfl
    revert h hc
    rcases c.exec st with ⟨_ | _, st₁⟩
    · intro h
      cases h
    · exact fun _ h => h ▸ rfl
  have hscopes : Analyzer.Scopes tbl { st with scope := t } := ⟨ht, k, hk, htbl⟩
  obtain ⟨hs, hv⟩ := hf.visit_typed hscopes
  -- the statement reports what its condition reports
  rcases hv with ⟨hall, ho⟩ | ⟨hsome, a, b, l, c', hab, ho⟩
  · refine .inl ⟨hall, ?_⟩
    rw [hn.errors_analyze hc' hf.ne_absent (by rw [ho]; intro h; cases h)]
    simp [Visit.following, ho, hs]
  · refine .inr ⟨hsome, a, b, l, c', hab, ?_⟩
    rw [hn.errors_analyze hc' hf.ne_absent (by rw [ho]; intro h; cases h)]
    simp [Visit.following, ho, hs]

/-- `DELETE FROM t WHERE a = a` over a table `t` with a column `a` of `INT`. -/
theorem analyze_filtered_deleteSame :
    Node.Filters (.delete (.str "t") (.binary (.str "=")
          (.column (.str "a") (.ofPlace ⟨.int 1, .int 21⟩) none)
          (.column (.str "a") (.ofPlace ⟨.int 1, .int 25⟩) none) (.ofPlace ⟨.int 1, .int 23⟩))
        (.ofPlace ⟨.int 1, .int 1⟩)) (.str "t")
        (.binary (.str "=") (.column (.str "a") (.ofPlace ⟨.int 1, .int 21⟩) none)
          (.column (.str "a") (.ofPlace ⟨.int 1, .int 25⟩) none) (.ofPlace ⟨.int 1, .int 23⟩))
        (Check.delete (.str "t") (.ofPlace ⟨.int 1, .int 1⟩)) ∧
      ((Check.delete (.str "t") (.ofPlace ⟨.int 1, .int 1⟩)).exec
        { catalog := ⟨[⟨.str "t", [(.str "a", .int)]⟩]⟩ }).1 = .ok () ∧
      (Datum.str "t").truthy ∧ (Datum.str "t").key? = some (.str "t") ∧
      Catalog.find? ⟨[⟨.str "t", [(.str "a", .int)]⟩]⟩ (.str "t") =
        some ⟨.str "t", [(.str "a", .int)]⟩ ∧
      Node.Combines ⟨.str "t", [(.str "a", .int)]⟩
        (.binary (.str "=") (.column (.str "a") (.ofPlace ⟨.int 1, .int 21⟩) none)
          (.column (.str "a") (.ofPlace ⟨.int 1, .int 25⟩) none) (.ofPlace ⟨.int 1, .int 23⟩))
        .int [.int, .int] ∧
      ((∀ σ ∈ [SqlType.int, .int], σ = .int) ∧
          (analyze (.query [.delete (.str "t") (.binary (.str "=")
            (.column (.str "a") (.ofPlace ⟨.int 1, .int 21⟩) none)
            (.column (.str "a") (.ofPlace ⟨.int 1, .int 25⟩) none) (.ofPlace ⟨.int 1, .int 23⟩))
            (.ofPlace ⟨.int 1, .int 1⟩)] {})
            { catalog := ⟨[⟨.str "t", [(.str "a", .int)]⟩]⟩ }).1.errors = #[] ∨
        (∃ σ ∈ [SqlType.int, .int], σ ≠ .int) ∧ ∃ a b l c, a ≠ b ∧
          (analyze (.query [.delete (.str "t") (.binary (.str "=")
            (.column (.str "a") (.ofPlace ⟨.int 1, .int 21⟩) none)
            (.column (.str "a") (.ofPlace ⟨.int 1, .int 25⟩) none) (.ofPlace ⟨.int 1, .int 23⟩))
            (.ofPlace ⟨.int 1, .int 1⟩)] {})
            { catalog := ⟨[⟨.str "t", [(.str "a", .int)]⟩]⟩ }).1.errors =
            #[⟨.operandMismatch a b, l, c⟩]) := by
  have hkey : (Key.str "t" == Key.str "t") = true := by decide +kernel
  have hc : ((Check.delete (.str "t") (.ofPlace ⟨.int 1, .int 1⟩)).exec
      { catalog := ⟨[⟨.str "t", [(.str "a", .int)]⟩]⟩ }).1 = .ok () := by
    simp [Check.delete, Check.table, Check.key, exec_bind, Datum.key?, Catalog.find?, hkey]
  have ht : (Datum.str "t").truthy := by decide +kernel
  refine ⟨.delete _ _ _, hc, ht, rfl, rfl, ?cond,
    analyze_filtered (.delete _ _ _) hc ht rfl rfl ?cond {}⟩
  exact .binary (.side (.column rfl rfl rfl)) (.side (.column rfl rfl rfl)) rfl

/-- `SELECT * FROM t WHERE a = 1 AND b = 'x'` over a table `t` with a column `a` of `INT` and a
column `b` of `TEXT`: each comparison has sides of one type, and the `AND` reports a mismatch of
`INT` with `TEXT` at its own place. -/
theorem analyze_mixed_connective :
    (analyze (.query [.select (.list [.str "*"]) (.str "t")
        (.binary (.str "AND")
          (.binary (.str "=") (.column (.str "a") (.ofPlace ⟨.int 1, .int 55⟩) none)
            (.literal (.str "1") (.ofPlace ⟨.int 1, .int 59⟩) none) (.ofPlace ⟨.int 1, .int 57⟩))
          (.binary (.str "=") (.column (.str "b") (.ofPlace ⟨.int 1, .int 65⟩) none)
            (.literal (.str "'x'") (.ofPlace ⟨.int 1, .int 69⟩) none) (.ofPlace ⟨.int 1, .int 67⟩))
          (.ofPlace ⟨.int 1, .int 61⟩))
        (.ofPlace ⟨.int 1, .int 33⟩)] {})
      { catalog := ⟨[⟨.str "t", [(.str "a", .int), (.str "b", .text)]⟩]⟩ }).1.errors =
      #[⟨.operandMismatch .int .text, .int 1, .int 61⟩] := by
  have hkey : (Key.str "t" == Key.str "t") = true := by decide +kernel
  have hstar : isStar (.list [.str "*"]) = true := by decide +kernel
  -- the check puts the table in scope
  have hc : (Check.select (.list [.str "*"]) (.str "t") (.ofPlace ⟨.int 1, .int 33⟩)).exec
      { catalog := ⟨[⟨.str "t", [(.str "a", .int), (.str "b", .text)]⟩]⟩ } =
      (.ok (),
        { catalog := ⟨[⟨.str "t", [(.str "a", .int), (.str "b", .text)]⟩]⟩
          scope := .str "t" }) := by
    simp [Check.select, Check.table, Check.key, exec_bind, Datum.key?, Catalog.find?, hkey, hstar]
  have hscopes : Analyzer.Scopes ⟨.str "t", [(.str "a", .int), (.str "b", .text)]⟩
      { catalog := ⟨[⟨.str "t", [(.str "a", .int), (.str "b", .text)]⟩]⟩, scope := .str "t" } :=
    ⟨by decide +kernel, _, rfl, rfl⟩
  -- the comparisons have sides of one type each: `INT` on the left, `TEXT` on the right
  have hl : Node.Combines ⟨.str "t", [(.str "a", .int), (.str "b", .text)]⟩
      (.binary (.str "=") (.column (.str "a") (.ofPlace ⟨.int 1, .int 55⟩) none)
        (.literal (.str "1") (.ofPlace ⟨.int 1, .int 59⟩) none) (.ofPlace ⟨.int 1, .int 57⟩))
      .int [.int, SqlType.ofLiteral "1"] :=
    .binary (.side (.column rfl rfl rfl)) (.side .literal) rfl
  have hr : Node.Combines ⟨.str "t", [(.str "a", .int), (.str "b", .text)]⟩
      (.binary (.str "=") (.column (.str "b") (.ofPlace ⟨.int 1, .int 65⟩) none)
        (.literal (.str "'x'") (.ofPlace ⟨.int 1, .int 69⟩) none) (.ofPlace ⟨.int 1, .int 67⟩))
      .text [.text, SqlType.ofLiteral "'x'"] :=
    .binary (.side (.column rfl rfl rfl)) (.side .literal) rfl
  have h1 : SqlType.ofLiteral "1" = .int := by decide +kernel
  have hx : SqlType.ofLiteral "'x'" = .text := by decide +kernel
  obtain ⟨hs, ho⟩ := hl.visit_binary_mismatch (.str "AND") hr (by simp [h1]) (by simp [hx])
    (show Site.get? (.ofPlace ⟨.int 1, .int 61⟩) = some (.int 1, .int 61) from rfl) (by decide)
    hscopes
  rw [(Node.Filters.select _ _ _ _).errors_analyze hc ?present ?settled]
  · simp [Visit.following, ho, hs]
  · intro h
    cases h
  · rw [ho]
    intro h
    cases h

end SqlFront
