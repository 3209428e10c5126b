import SqlFront.Analysis
import SqlFront.Proofs.Lexemes
/-!
# Checks that settle

A check of the analysis ends in one of three ways: it returns, it reports a semantic error, or
it *halts* (`Stop.halt`), ending the whole analysis. A check *settles* when it never halts.
`Check.Settles P c Q` is a Hoare triple for this: run from a state satisfying `P`, the check
`c` does not halt, and when it returns `a` it leaves a state satisfying `Q a`. The structural
rules (`Settles.bind`, `Settles.forIn`, `Settles.mapM`, consequence and frame) let each check be
read off its `do` block step by step.

The checks of a statement settle on textual data (`SqlFront.Proofs.Lexemes`): a name that is a
text or nothing is a key, a value that is a text has a type, and the place of a statement read
by the parser has both coordinates. `SELECT`, `UPDATE` and `DELETE` leave their table in scope,
and a column settles when the scope is a name.
-/

namespace SqlFront

theorem Datum.IsName.isSome_key? {d : Datum} (h : d.IsName) : d.key?.isSome := by
  rcases h with rfl | ⟨s, rfl⟩ <;> rfl

namespace Check

/-! ### Running a check -/

@[simp] theorem exec_pure (a : α) (st : Analyzer) : (pure a : Check α).exec st = (.ok a, st) :=
  rfl

theorem exec_bind (x : Check α) (f : α → Check β) (st : Analyzer) :
    (x >>= f).exec st = match x.exec st with
      | (.ok a, st') => (f a).exec st'
      | (.error e, st') => (.error e, st') := by
  simp only [exec, ExceptT.run_bind]
  show (StateT.bind _ _).run st = _
  simp only [StateT.run, StateT.bind]
  rcases (ExceptT.run x) st with ⟨_ | a, st'⟩ <;> rfl

@[simp] theorem exec_throw (e : Stop) (st : Analyzer) :
    (throw e : Check α).exec st = (.error e, st) :=
  rfl

@[simp] theorem exec_get (st : Analyzer) : (get : Check Analyzer).exec st = (.ok st, st) := rfl

@[simp] theorem exec_modify (f : Analyzer → Analyzer) (st : Analyzer) :
    (modify f : Check Unit).exec st = (.ok (), f st) :=
  rfl

@[simp] theorem place_ofPlace (p : Place) : place (.ofPlace p) = pure (p.line, p.column) := rfl

@[simp] theorem ofExcept_ok (a : α) : ofExcept (.ok a : Except Fault α) = pure a := rfl

/-! ### The triple -/

/-- Run from a state satisfying `P`, the check `c` does not halt, and a result `a` leaves a
state satisfying `Q a`. -/
def Settles (P : Analyzer → Prop) (c : Check α) (Q : α → Analyzer → Prop) : Prop :=
  ∀ st, P st → match c.exec st with
    | (.ok a, st') => Q a st'
    | (.error e, _) => e ≠ .halt

namespace Settles

variable {P P' : Analyzer → Prop} {Q Q' R : α → Analyzer → Prop}

theorem pure {a : α} (h : ∀ st, P st → Q a st) : Settles P (pure a) Q := h

theorem throw {e : Stop} (he : e ≠ .halt) : Settles P (throw e : Check α) Q := fun _ _ => he

theorem get {Q : Analyzer → Analyzer → Prop} (h : ∀ st, P st → Q st st) : Settles P get Q := h

theorem modify {f : Analyzer → Analyzer} {Q : Unit → Analyzer → Prop}
    (h : ∀ st, P st → Q () (f st)) : Settles P (modify f) Q :=
  h

/-- **Composition.** -/
theorem bind {x : Check α} {f : α → Check β} {Q : β → Analyzer → Prop} (hx : Settles P x R)
    (hf : ∀ a, Settles (R a) (f a) Q) : Settles P (x >>= f) Q := by
  intro st hst
  have h := hx st hst
  rw [exec_bind]
  revert h
  rcases x.exec st with ⟨_ | a, st'⟩
  · exact id
  · exact hf a st'

/-- **Consequence.** -/
theorem mono {c : Check α} (h : Settles P c Q) (hP : ∀ st, P' st → P st)
    (hQ : ∀ a st, Q a st → Q' a st) : Settles P' c Q' := by
  intro st hst
  have h := h st (hP st hst)
  revert h
  rcases c.exec st with ⟨_ | a, st'⟩
  · exact id
  · exact hQ a st'

/-- **Frame.** A fact that does not depend on the state holds after as before. -/
theorem frame {c : Check α} {F : Prop} (h : Settles P c Q) :
    Settles (fun st => F ∧ P st) c fun a st => F ∧ Q a st := by
  intro st ⟨hF, hst⟩
  have h := h st hst
  revert h
  rcases c.exec st with ⟨_ | a, st'⟩
  · exact id
  · exact fun h => ⟨hF, h⟩

/-- A check that never returns ends the check, whatever would follow it. -/
theorem bind_of_stops {x : Check α} {f : α → Check β} {Q : β → Analyzer → Prop}
    (hx : Settles P x fun _ _ => False) : Settles P (x >>= f) Q :=
  hx.bind fun _ _ h => h.elim

theorem throw_bind {e : Stop} {f : α → Check β} {Q : β → Analyzer → Prop} (he : e ≠ .halt) :
    Settles P (MonadExcept.throw e >>= f) Q :=
  bind_of_stops (Settles.throw he)

/-- A fact that does not depend on the state may be assumed. -/
theorem of_pure {c : Check α} {F : Prop} (h : F → Settles P c Q) :
    Settles (fun st => F ∧ P st) c Q :=
  fun st ⟨hF, hst⟩ => h hF st hst

/-- **Loops.** A loop keeps `I` and settles when each of its steps, on a member of the list,
does. -/
theorem forIn {xs : List α} {f : α → β → Check (ForInStep β)} {I : Analyzer → Prop}
    (h : ∀ x ∈ xs, ∀ b, Settles I (f x b) fun _ => I) (b : β) :
    Settles I (forIn xs b f) fun _ => I := by
  induction xs generalizing b with
  | nil => exact Settles.pure fun _ h => h
  | cons x xs ih =>
    rw [List.forIn_cons]
    refine (h x List.mem_cons_self b).bind fun r => ?_
    cases r with
    | done b' => exact Settles.pure fun _ h => h
    | yield b' => exact ih (fun y hy => h y (List.mem_cons_of_mem _ hy)) b'

/-- **Maps.** A map keeps `I` and settles when each of its steps does, and each of the results
satisfies `S` when each step's result does. -/
theorem mapM {xs : List α} {f : α → Check β} {I : Analyzer → Prop} {S : β → Prop}
    (h : ∀ x ∈ xs, Settles I (f x) fun b st => S b ∧ I st) :
    Settles I (xs.mapM f) fun bs st => (∀ b ∈ bs, S b) ∧ I st := by
  induction xs with
  | nil => exact Settles.pure fun _ h => ⟨nofun, h⟩
  | cons x xs ih =>
    rw [List.mapM_cons]
    refine (h x List.mem_cons_self).bind fun b => ?_
    -- the result of the first step is carried past the rest of the map
    refine (ih fun y hy => h y (List.mem_cons_of_mem _ hy)).frame.bind fun bs => ?_
    refine Settles.pure fun _ ⟨hb, hbs, hst⟩ => ⟨?_, hst⟩
    intro b' hb'
    rcases List.mem_cons.1 hb' with rfl | hb'
    · exact hb
    · exact hbs b' hb'

end Settles

/-! ### The checks the statements are made of -/

section Primitives

variable {P : Analyzer → Prop}

theorem settles_key {d : Datum} (h : d.IsName) : Settles P (key d) fun _ => P := by
  rcases h with rfl | ⟨s, rfl⟩ <;> exact Settles.pure fun _ h => h

theorem settles_raise (p : Place) (prob : Problem) {Q : α → Analyzer → Prop} :
    Settles P (raise (.ofPlace p) prob : Check α) Q := by
  simp only [raise, place_ofPlace, pure_bind]
  exact Settles.throw nofun

theorem settles_valueType {v : Datum} (h : v.IsText) : Settles P (valueType v) fun _ => P := by
  obtain ⟨s, rfl⟩ := h
  exact Settles.pure fun _ h => h

/-- A table is looked up by its name; a missing one is an error. -/
theorem settles_table {name : Datum} (h : name.IsName) (l c : Datum) :
    Settles P (table name l c) fun _ => P := by
  unfold table
  refine (settles_key h).bind fun k => (Settles.get fun _ h => h).bind fun st => ?_
  split
  · exact Settles.pure fun _ h => h
  · exact Settles.throw nofun

theorem settles_columnType {name col : Datum} (hname : name.IsName) (hcol : col.IsName)
    (l c : Datum) : Settles P (columnType name col l c) fun _ => P := by
  unfold columnType
  refine (settles_table hname l c).bind fun t => (settles_key hcol).bind fun k => ?_
  split
  · exact Settles.pure fun _ h => h
  · exact Settles.throw nofun

/-- A declared type is one of the three, or an error. -/
theorem settles_declaredType (p : Place) {ty : Datum} (h : ty.IsName) :
    Settles P (declaredType (.ofPlace p) ty) fun _ => P := by
  unfold declaredType
  refine (settles_key h).bind fun k => ?_
  split
  · split
    · exact Settles.pure fun _ h => h
    · exact settles_raise p _
  · exact settles_raise p _

end Primitives

/-! ### The checks of the statements -/

section Statements

/-- `CREATE` reads the declared types first, then registers the table and adds its columns. -/
theorem settles_create {t : Datum} {cols : List (Datum × Datum)} (p : Place) (ht : t.IsName)
    (hcols : ∀ c ∈ cols, c.1.IsName ∧ c.2.IsName) :
    Settles (fun _ => True) (create t (.list (cols.map fun (n, ty) => .tuple [n, ty])) (.ofPlace p))
      fun _ _ => True := by
  simp only [create, Datum.items, ofExcept_ok, pure_bind, place_ofPlace]
  refine (Settles.mapM (S := fun d : Datum × SqlType => d.1.IsName) fun d hd => ?_).bind
    fun defs => Settles.of_pure fun hdefs => ?_
  · -- each definition is a pair of a name and a type word
    obtain ⟨⟨n, ty⟩, hc, rfl⟩ := List.mem_map.1 hd
    simp only [Datum.pair, Datum.items, ofExcept_ok, pure_bind]
    exact (settles_declaredType p (hcols _ hc).2).bind fun _ =>
      Settles.pure fun _ h => ⟨(hcols _ hc).1, h⟩
  refine (settles_key ht).bind fun k => (Settles.get fun _ h => h).bind fun st => ?_
  split
  · exact Settles.throw nofun
  refine (Settles.modify (Q := fun _ _ => True) fun _ _ => trivial).bind fun _ => ?_
  refine (Settles.forIn (fun d hd _ => ?_) _).bind fun _ => Settles.pure fun _ _ => trivial
  refine (settles_key (hdefs d hd)).bind fun kn => (Settles.get fun _ h => h).bind fun st' => ?_
  split
  · exact Settles.throw nofun
  · exact (Settles.modify (Q := fun _ _ => True) fun _ _ => trivial).bind fun _ =>
      Settles.pure fun _ h => h

/-- `INSERT` checks the table, the number of values, and each value against its column. -/
theorem settles_insert {t : Datum} {vals : List Datum} (p : Place) (ht : t.IsName)
    (hvals : ∀ v ∈ vals, v.IsText) :
    Settles (fun _ => True) (insert t (.list vals) (.ofPlace p)) fun _ _ => True := by
  simp only [insert, Datum.items, Datum.size, ofExcept_ok, pure_bind, place_ofPlace]
  refine (settles_table ht _ _).bind fun tbl => ?_
  split
  · exact Settles.throw_bind nofun
  -- each value is checked against its column
  refine (Settles.forIn (fun x hx _ => ?_) _).bind fun _ => Settles.pure fun _ _ => trivial
  refine (settles_valueType (hvals _ (List.of_mem_zip hx).1)).bind fun vt => ?_
  split
  · exact Settles.throw_bind nofun
  · exact Settles.pure fun _ _ => trivial

/-- `SELECT` checks the table and then each selected column in it, leaving the table in scope. -/
theorem settles_select {items : List Datum} {t : Datum} (p : Place)
    (hitems : ∀ i ∈ items, i.IsName) (ht : t.IsName) :
    Settles (fun _ => True) (select (.list items) t (.ofPlace p)) fun _ st => st.scope = t := by
  simp only [select, Datum.items, ofExcept_ok, pure_bind, place_ofPlace]
  refine (settles_table ht _ _).bind fun _ => ?_
  refine (Settles.modify (Q := fun _ st => st.scope = t) fun _ _ => rfl).bind fun _ => ?_
  split
  · refine (Settles.forIn (fun col hcol _ => ?_) _).bind fun _ => Settles.pure fun _ h => h
    exact (settles_columnType ht (hitems col hcol) _ _).bind fun _ => Settles.pure fun _ h => h
  · exact Settles.pure fun _ h => h

/-- `UPDATE` checks the table and then each assigned column against its value, leaving the table
in scope. -/
theorem settles_update {t : Datum} {assigns : List (Datum × Datum)} (p : Place) (ht : t.IsName)
    (hassigns : ∀ a ∈ assigns, a.1.IsName ∧ a.2.IsText) :
    Settles (fun _ => True) (update t (.list (assigns.map fun (c, v) => .tuple [c, v])) (.ofPlace p))
      fun _ st => st.scope = t := by
  simp only [update, Datum.items, ofExcept_ok, pure_bind, place_ofPlace]
  refine (settles_table ht _ _).bind fun _ => ?_
  refine (Settles.modify (Q := fun _ st => st.scope = t) fun _ _ => rfl).bind fun _ => ?_
  refine (Settles.forIn (fun a ha _ => ?_) _).bind fun _ => Settles.pure fun _ h => h
  -- each assignment is a pair of a column and a text
  obtain ⟨⟨c, v⟩, hcv, rfl⟩ := List.mem_map.1 ha
  simp only [Datum.pair, Datum.items, ofExcept_ok, pure_bind]
  refine (settles_columnType ht (hassigns _ hcv).1 _ _).bind fun ct => ?_
  refine (settles_valueType (hassigns _ hcv).2).bind fun vt => ?_
  split
  · exact Settles.throw_bind nofun
  · exact Settles.pure fun _ h => h

theorem settles_delete {t : Datum} (p : Place) (ht : t.IsName) :
    Settles (fun _ => True) (delete t (.ofPlace p)) fun _ st => st.scope = t := by
  simp only [delete, place_ofPlace, pure_bind]
  exact (settles_table ht _ _).bind fun _ => Settles.modify fun _ _ => rfl

end Statements

/-! ### The checks of a condition -/

section Conditions

/-- A column is read in the table in scope, which must be a name; outside a scope it is an
error. -/
theorem settles_column {name : Datum} (p : Place) (hname : name.IsName) :
    Settles (fun st => st.scope.IsName) (column name (.ofPlace p)) fun _ st => st.scope.IsName := by
  unfold column
  refine (Settles.get (Q := fun a st => a.scope.IsName ∧ st.scope.IsName)
    fun _ h => ⟨h, h⟩).bind fun a => ?_
  dsimp only
  split
  · exact Settles.bind_of_stops (settles_raise p _)
  refine Settles.of_pure fun ha => ?_
  simp only [place_ofPlace, pure_bind]
  exact settles_columnType ha hname _ _

theorem settles_operands {P : Analyzer → Prop} (lt rt : Option SqlType) (p : Place) :
    Settles P (operands lt rt (.ofPlace p)) fun _ => P := by
  unfold operands
  split
  · split
    · exact settles_raise p _
    · exact Settles.pure fun _ h => h
  · exact Settles.pure fun _ h => h

end Conditions

end Check

end SqlFront
