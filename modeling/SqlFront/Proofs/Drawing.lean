import Mathlib
import SqlFront.Node.Render
import SqlFront.Text.Layout
import SqlFront.Proofs.Registration
/-!
# The drawing of a tree, entry by entry

The entries of a tree are its nodes and the lines of text a node lists under itself: the
column definitions of a `CREATE`, the values of an `INSERT`, the selected columns of a
`SELECT` and the assignments of an `UPDATE`. The *outline* of a tree (`Node.outline`) holds
each entry's label with the entries under it; it is said without the drawing, node class by
node class.

An entry of the drawing (`Entry`) is placed by the last-child flags of its ancestors, from the
root down, and its own. Its line (`Entry.line`) is four code points for each ancestor, blank
below a last child and a bar below another, then `└── ` for a last child or the root and
`├── ` for another, then its label. The main equation, `lines_outline`, says that the drawing
of a tree is the line of each entry of its outline, in preorder: the prefix the drawing threads
through its recursion is the indentation of the entry's ancestors, and the one child it draws
as last is the last child of the outline. It holds of every tree, the drawing failing exactly
where the outline does.

A tree that the parser builds always has an outline (`Program.outline_toNode`), so it always
has a drawing. The drawing is printed with a line feed after each line; a label may hold line
feeds of its own, since a string literal may run over several lines. So the printed text has
one line feed for each entry and one for each line feed inside a label
(`parsed_drawing_line_feeds`), and more than one line for an entry whose value has a line feed
(`drawing_value_line_feed`).
-/

namespace SqlFront

/-- A tree as it is drawn: the label of an entry and the entries under it. -/
inductive Outline where
  | entry (label : Str) (children : List Outline)
  deriving Repr

/-- An entry of a drawing: whether each of its ancestors, from the root down, is the last child
of its own parent, whether the entry is a last child itself, and its label. -/
structure Entry where
  ancestors : List Bool
  last : Bool
  label : Str
  deriving DecidableEq, Repr

/-- Four code points for each ancestor: blank below a last child, a bar below another. -/
def Entry.indentation (ancestors : List Bool) : Str :=
  (ancestors.map fun l => Str.ofString (if l then "    " else "│   ")).flatten

@[simp] theorem Entry.indentation_nil : Entry.indentation [] = [] := rfl

theorem Entry.indentation_cons (l : Bool) (ancestors : List Bool) :
    Entry.indentation (l :: ancestors) =
      Str.ofString (if l then "    " else "│   ") ++ Entry.indentation ancestors := rfl

/-- The line of an entry: its indentation, the connector of a last child or of another, and
its label. -/
def Entry.line (e : Entry) : Str :=
  Entry.indentation e.ancestors ++ Str.ofString (if e.last then "└── " else "├── ") ++ e.label

namespace Outline

mutual

/-- The entries of an outline in preorder, under the ancestors `ancestors`, as a last child or
not. -/
def entries (ancestors : List Bool) (last : Bool) : Outline → List Entry
  | entry label cs => ⟨ancestors, last, label⟩ :: childEntries (ancestors ++ [last]) cs

/-- The entries of a list of children in preorder; only the last child is a last child. -/
def childEntries (ancestors : List Bool) : List Outline → List Entry
  | [] => []
  | [c] => entries ancestors true c
  | c :: cs => entries ancestors false c ++ childEntries ancestors cs

end

/-- An entry with nothing under it. -/
def leaf (label : Str) : Outline := entry label []

@[simp] theorem childEntries_nil (ancestors : List Bool) : childEntries ancestors [] = [] := by
  rw [childEntries]

@[simp] theorem childEntries_singleton (ancestors : List Bool) (c : Outline) :
    childEntries ancestors [c] = c.entries ancestors true := by
  rw [childEntries]

@[simp] theorem childEntries_cons_cons (ancestors : List Bool) (c c' : Outline)
    (cs : List Outline) :
    childEntries ancestors (c :: c' :: cs) =
      c.entries ancestors false ++ childEntries ancestors (c' :: cs) := by
  rw [childEntries]
  exact nofun

@[simp] theorem entries_entry (ancestors : List Bool) (last : Bool) (label : Str)
    (cs : List Outline) :
    (entry label cs).entries ancestors last =
      ⟨ancestors, last, label⟩ :: childEntries (ancestors ++ [last]) cs := by
  rw [entries]

end Outline

namespace Node

/-- The children that a `WHERE` clause `f` with outline `o` adds: none if it is absent. -/
def filterChildren (f : Node) (o : Except Fault Outline) : Except Fault (List Outline) :=
  if Render.Node.isPresent f then o.map fun o => [o] else pure []

mutual

/-- The outline of a tree: each node's label, with its text entries and child nodes under it. -/
def outline : Node → Except Fault Outline
  | .query stmts _ => do return .entry "Query" (← outlines stmts)
  | .create t cols _ => do
    return .entry ("Create Table: " ++ t.written) ((← Render.columnEntries cols).map .leaf)
  | .insert t vals _ => do
    let es ← vals.items
    return .entry ("Insert into: " ++ t.written)
      ((es.map fun v => ("Value: " : Str) ++ v.written).map .leaf)
  | .select items t f _ => do
    let es ← items.items
    return .entry ("Select from: " ++ t.written)
      ((es.map fun c => ("Column: " : Str) ++ c.written).map .leaf ++
        (← filterChildren f (outline f)))
  | .update t assigns f _ => do
    let es ← Render.assignmentEntries assigns
    return .entry ("Update: " ++ t.written) (es.map .leaf ++ (← filterChildren f (outline f)))
  | .delete t f _ => do
    return .entry ("Delete from: " ++ t.written) (← filterChildren f (outline f))
  | .binary op l r _ => do
    let lo ← outline l
    let ro ← outline r
    return .entry ("BinaryOp: " ++ op.written) [lo, ro]
  | .negation c _ => do return .entry "NOT" [← outline c]
  | .column n _ ty => return .leaf ("ColumnRef: " ++ n.written ++ Render.annotation ty)
  | .literal v _ ty => return .leaf ("Literal: " ++ v.written ++ Render.annotation ty)
  | .foreign => return .leaf "Unknown: object"
  | .absent => return .leaf "Unknown: NoneType"

/-- The outlines of a list of trees, in order. -/
def outlines : List Node → Except Fault (List Outline)
  | [] => return []
  | n :: ns => do
    let o ← outline n
    return o :: (← outlines ns)

end

theorem filterChildren_of_isPresent {f : Node} (h : Render.Node.isPresent f = true)
    (o : Except Fault Outline) : filterChildren f o = o.map fun o => [o] := by
  rw [filterChildren, if_pos h]

@[simp] theorem filterChildren_absent (o : Except Fault Outline) :
    filterChildren .absent o = .ok [] := rfl

end Node

/-! ### Drawing follows the outline -/

theorem Render.filterLines_of_isPresent {f : Node} (pre : Str)
    (h : Render.Node.isPresent f = true) : Render.filterLines pre f = Render.lines pre true f := by
  cases f with
  | absent => cases h
  | _ =>
    rw [Render.filterLines]
    intro h
    cases h

/-- A `WHERE` clause adds a child exactly when it is present. -/
theorem Node.isPresent_of_filterChildren {f : Node} {o : Except Fault Outline}
    {os : List Outline} (h : Node.filterChildren f o = .ok os) :
    (!os.isEmpty) = Render.Node.isPresent f := by
  cases hf : Render.Node.isPresent f with
  | false =>
    rw [Node.filterChildren, if_neg (by rw [hf]; exact Bool.false_ne_true)] at h
    cases h
    rfl
  | true =>
    rw [Node.filterChildren_of_isPresent hf] at h
    cases o with
    | error e => cases h
    | ok o => cases h; rfl

/-- The outlines of a list of trees, one for each. -/
theorem Node.length_outlines : ∀ {ns : List Node} {os : List Outline},
    Node.outlines ns = .ok os → os.length = ns.length
  | [], os, h => by
    rw [Node.outlines] at h
    cases h
    rfl
  | n :: ns, os, h => by
    rw [Node.outlines] at h
    cases ho : Node.outline n with
    | error e => rw [ho] at h; cases h
    | ok o =>
      cases hs : Node.outlines ns with
      | error e => rw [ho, hs] at h; cases h
      | ok os' =>
        rw [ho, hs] at h
        cases h
        simp [Node.length_outlines hs]

namespace Render

theorem indentation_append (ancestors : List Bool) (l : Bool) :
    Entry.indentation (ancestors ++ [l]) = Entry.indentation ancestors ++ indent l := by
  cases l <;> simp [Entry.indentation, indent]

@[simp] theorem entries_leaf (ancestors : List Bool) (last : Bool) (label : Str) :
    (Outline.leaf label).entries ancestors last = [⟨ancestors, last, label⟩] := by
  simp [Outline.leaf]

theorem line_mk (ancestors : List Bool) (last : Bool) (label : Str) :
    Entry.line ⟨ancestors, last, label⟩ =
      Entry.indentation ancestors ++ connector last ++ label := by
  cases last <;> rfl

/-- Text entries followed by the children `rest`: the last text is a last child only when no
child follows. -/
theorem textLines_eq (ancestors : List Bool) (rest : List Outline) :
    ∀ ts : List Str, ((Outline.childEntries ancestors (ts.map .leaf ++ rest)).map Entry.line) =
      textLines (Entry.indentation ancestors) (!rest.isEmpty) ts ++
        (Outline.childEntries ancestors rest).map Entry.line
  | [] => rfl
  | [t] => by
    cases rest with
    | nil => simp [textLines, line_mk]
    | cons r rs => simp [textLines, line_mk]
  | t :: t' :: ts => by
    have ih := textLines_eq ancestors rest (t' :: ts)
    simp only [List.map_cons, List.cons_append] at ih ⊢
    rw [Outline.childEntries_cons_cons, List.map_append, ih]
    simp [textLines, line_mk]

mutual

/-- **Drawing a tree.** Each entry of the outline is drawn as its line, in preorder. -/
theorem lines_outline (ancestors : List Bool) (last : Bool) : ∀ n : Node,
    lines (Entry.indentation ancestors) last n =
      n.outline.map fun o => (o.entries ancestors last).map Entry.line
  | .query stmts _ => by
    rw [lines, Node.outline, ← indentation_append, children_outlines]
    cases Node.outlines stmts <;> rfl
  | .create t cols _ => by
    rw [lines, Node.outline, ← indentation_append]
    cases columnEntries cols with
    | error e => rfl
    | ok es =>
      refine congrArg Except.ok ?_
      have := textLines_eq (ancestors ++ [last]) [] es
      rw [List.append_nil] at this
      dsimp only
      rw [Outline.entries_entry, List.map_cons, this]
      simp [line_mk]
  | .insert t vals _ => by
    rw [lines, Node.outline, ← indentation_append]
    cases vals.items with
    | error e => rfl
    | ok es =>
      refine congrArg Except.ok ?_
      have := textLines_eq (ancestors ++ [last]) []
        (es.map fun v => ("Value: " : Str) ++ v.written)
      rw [List.append_nil] at this
      dsimp only
      rw [Outline.entries_entry, List.map_cons, this]
      simp [line_mk]
  | .select items t f _ => by
    rw [lines, Node.outline, ← indentation_append]
    cases items.items with
    | error e => rfl
    | ok es =>
      rw [filterLines_outline]
      rcases hf : Node.filterChildren f f.outline with e | os
      · rfl
      · refine congrArg Except.ok ?_
        have := textLines_eq (ancestors ++ [last]) os
          (es.map fun c => ("Column: " : Str) ++ c.written)
        rw [← Node.isPresent_of_filterChildren hf]
        dsimp only
        rw [Outline.entries_entry, List.map_cons, this]
        simp [line_mk]
  | .update t assigns f _ => by
    rw [lines, Node.outline, ← indentation_append]
    cases assignmentEntries assigns with
    | error e => rfl
    | ok es =>
      rw [filterLines_outline]
      rcases hf : Node.filterChildren f f.outline with e | os
      · rfl
      · refine congrArg Except.ok ?_
        have := textLines_eq (ancestors ++ [last]) os es
        rw [← Node.isPresent_of_filterChildren hf]
        dsimp only
        rw [Outline.entries_entry, List.map_cons, this]
        simp [line_mk]
  | .delete t f _ => by
    rw [lines, Node.outline, ← indentation_append, filterLines_outline]
    cases Node.filterChildren f f.outline with
    | error e => rfl
    | ok os =>
      refine congrArg Except.ok ?_
      simp [line_mk]
  | .binary op l r _ => by
    rw [lines, Node.outline, ← indentation_append, lines_outline, lines_outline]
    cases Node.outline l with
    | error e => rfl
    | ok lo =>
      cases Node.outline r with
      | error e => rfl
      | ok ro =>
        refine congrArg Except.ok ?_
        simp [line_mk]
  | .negation c _ => by
    rw [lines, Node.outline, ← indentation_append, lines_outline]
    cases Node.outline c <;> rfl
  | .column n _ ty => by
    rw [lines, Node.outline]
    refine congrArg Except.ok ?_
    simp [line_mk]
  | .literal v _ ty => by
    rw [lines, Node.outline]
    refine congrArg Except.ok ?_
    simp [line_mk]
  | .foreign => by
    rw [lines, Node.outline]
    refine congrArg Except.ok ?_
    simp [line_mk]
  | .absent => by
    rw [lines, Node.outline]
    refine congrArg Except.ok ?_
    simp [line_mk]

/-- A `WHERE` clause is drawn as the last child of its statement. -/
theorem filterLines_outline (ancestors : List Bool) : ∀ f : Node,
    filterLines (Entry.indentation ancestors) f =
      (Node.filterChildren f f.outline).map fun os =>
        (Outline.childEntries ancestors os).map Entry.line
  | .absent => by rw [filterLines, Node.filterChildren_absent]; rfl
  | .query .. | .create .. | .insert .. | .select .. | .update .. | .delete .. | .binary ..
  | .negation .. | .column .. | .literal .. | .foreign => by
    rw [filterLines_of_isPresent _ rfl, Node.filterChildren_of_isPresent rfl, lines_outline]
    cases Node.outline _ <;> rfl

theorem children_outlines (ancestors : List Bool) : ∀ ns : List Node,
    children (Entry.indentation ancestors) ns =
      (Node.outlines ns).map fun os => (Outline.childEntries ancestors os).map Entry.line
  | [] => by rw [children, Node.outlines]; rfl
  | [n] => by
    rw [children, Node.outlines, Node.outlines, lines_outline]
    cases Node.outline n <;> rfl
  | n :: n' :: ns => by
    rw [children, Node.outlines, lines_outline, children_outlines]
    · cases Node.outline n with
      | error e => rfl
      | ok o =>
        cases hs : Node.outlines (n' :: ns) with
        | error e => rfl
        | ok os =>
          -- the trees after `n` have outlines, so `n` is no last child
          obtain ⟨o', os', rfl⟩ : ∃ o' os', os = o' :: os' := by
            have := Node.length_outlines hs
            cases os with
            | nil => cases this
            | cons o' os' => exact ⟨o', os', rfl⟩
          refine congrArg Except.ok ?_
          dsimp only
          rw [Outline.childEntries_cons_cons, List.map_append]
    · nofun

end

end Render

/-- **Drawing a tree.** The drawing of a tree is the line of each entry of its outline, in
preorder; it fails where the outline does. -/
theorem Node.render_outline (n : Node) :
    n.render = n.outline.map fun o => (o.entries [] true).map Entry.line :=
  Render.lines_outline [] true n

/-! ### Trees the parser builds -/

/-- The tree of a condition has an outline. -/
theorem Cond.outline_toNode : ∀ c : Cond, ∃ o, c.toNode.outline = .ok o
  | .binary op l r p => by
    obtain ⟨lo, hl⟩ := Cond.outline_toNode l
    obtain ⟨ro, hr⟩ := Cond.outline_toNode r
    exact ⟨_, by rw [Cond.toNode, Node.outline, hl, hr]; rfl⟩
  | .not c => by
    obtain ⟨o, ho⟩ := Cond.outline_toNode c
    exact ⟨_, by rw [Cond.toNode, Node.outline, ho]; rfl⟩
  | .column n p => ⟨_, by rw [Cond.toNode, Node.outline]; rfl⟩
  | .literal v p => ⟨_, by rw [Cond.toNode, Node.outline]; rfl⟩

/-- The `WHERE` clause of a parsed statement has an outline, if it is present. -/
theorem Cond.filterChildren_toFilter : ∀ f : Option Cond,
    ∃ os, Node.filterChildren (Cond.toFilter f) (Cond.toFilter f).outline = .ok os
  | none => ⟨[], rfl⟩
  | some c => by
    obtain ⟨o, ho⟩ := Cond.outline_toNode c
    have hp : Render.Node.isPresent c.toNode = true := by cases c <;> rfl
    exact ⟨[o], by rw [Cond.toFilter, Node.filterChildren_of_isPresent hp, ho]; rfl⟩

/-- The column definitions of a parsed `CREATE` are pairs, so each has its entry. -/
theorem Render.columnEntries_pairs (cols : List (Datum × Datum)) :
    ∃ es, Render.columnEntries (.list (cols.map fun (n, ty) => .tuple [n, ty])) = .ok es := by
  unfold Render.columnEntries
  exact Catalog.exists_mapM_ok fun c hc => by
    obtain ⟨⟨n, ty⟩, -, rfl⟩ := List.mem_map.1 hc
    exact ⟨_, rfl⟩

/-- The assignments of a parsed `UPDATE` are pairs, so each has its entry. -/
theorem Render.assignmentEntries_pairs (assigns : List (Datum × Datum)) :
    ∃ es, Render.assignmentEntries (.list (assigns.map fun (c, v) => .tuple [c, v])) = .ok es := by
  unfold Render.assignmentEntries
  exact Catalog.exists_mapM_ok fun a ha => by
    obtain ⟨⟨c, v⟩, -, rfl⟩ := List.mem_map.1 ha
    exact ⟨_, rfl⟩

/-- The tree of a parsed statement has an outline: its column definitions and assignments are
pairs. -/
theorem Stmt.outline_toNode : ∀ st : Stmt, ∃ o, st.toNode.outline = .ok o
  | .create t cols => by
    obtain ⟨es, hes⟩ := Render.columnEntries_pairs cols
    cases t with
    | some np =>
      obtain ⟨name, p⟩ := np
      exact ⟨_, by rw [Stmt.toNode, Node.outline, hes]; rfl⟩
    | none => exact ⟨_, by rw [Stmt.toNode, Node.outline, hes]; rfl⟩
  | .insert t vals p => ⟨_, by rw [Stmt.toNode, Node.outline]; rfl⟩
  | .select items t f p => by
    obtain ⟨os, hos⟩ := Cond.filterChildren_toFilter f
    exact ⟨_, by rw [Stmt.toNode, Node.outline, hos]; rfl⟩
  | .update t assigns f p => by
    obtain ⟨es, hes⟩ := Render.assignmentEntries_pairs assigns
    obtain ⟨os, hos⟩ := Cond.filterChildren_toFilter f
    exact ⟨_, by rw [Stmt.toNode, Node.outline, hes, hos]; rfl⟩
  | .delete t f p => by
    obtain ⟨os, hos⟩ := Cond.filterChildren_toFilter f
    exact ⟨_, by rw [Stmt.toNode, Node.outline, hos]; rfl⟩

/-- **A parsed program has an outline**, so it has a drawing. -/
theorem Program.outline_toNode (prog : Program) : ∃ o, prog.toNode.outline = .ok o := by
  -- the statements' outlines, one after another
  have hstmts : ∀ sts : List Stmt, ∃ os, Node.outlines (sts.map Stmt.toNode) = .ok os := by
    intro sts
    induction sts with
    | nil => exact ⟨[], by rw [List.map_nil, Node.outlines]; rfl⟩
    | cons st sts ih =>
      obtain ⟨o, ho⟩ := Stmt.outline_toNode st
      obtain ⟨os, hos⟩ := ih
      exact ⟨o :: os, by rw [List.map_cons, Node.outlines, ho, hos]; rfl⟩
  obtain ⟨os, hos⟩ := hstmts prog
  exact ⟨_, by rw [Program.toNode, Node.outline, hos]; rfl⟩

/-! ### Line feeds -/

/-- The printed text of the lines `ls` has a line feed after each line, besides those inside
the lines. -/
theorem Text.count_unlines (ls : List Str) :
    (Text.unlines ls).count (.char '\n') = ls.length + (ls.map (·.count (.char '\n'))).sum := by
  induction ls with
  | nil => rfl
  | cons l ls ih =>
    have hstep : Text.unlines (l :: ls) = l ++ [.char '\n'] ++ Text.unlines ls := rfl
    rw [hstep, List.count_append, List.count_append, ih, List.count_singleton_self]
    simp only [List.length_cons, List.map_cons, List.sum_cons]
    omega

/-- Indentation holds no line feed. -/
theorem Entry.count_indentation (ancestors : List Bool) :
    (Entry.indentation ancestors).count (.char '\n') = 0 := by
  induction ancestors with
  | nil => rfl
  | cons l ancestors ih =>
    have hseg : (Str.ofString (if l then "    " else "│   ")).count (.char '\n') = 0 := by
      cases l <;> decide
    rw [Entry.indentation_cons, List.count_append, hseg, ih]

/-- The line feeds of an entry's line are those of its label. -/
theorem Entry.count_line (e : Entry) : e.line.count (.char '\n') = e.label.count (.char '\n') := by
  have hconn : (Str.ofString (if e.last then "└── " else "├── ")).count (.char '\n') = 0 := by
    cases e.last <;> decide
  rw [Entry.line, List.count_append, List.count_append, Entry.count_indentation, hconn]
  omega

/-- **The printed drawing of a parsed program.** The tree the parser builds from the scan of
`s` has an outline; its drawing is the line of each entry, in preorder; and the printed drawing
has a line feed for each entry and one for each line feed inside a label. -/
theorem parsed_drawing_line_feeds (s : Str) :
    ∃ o, (parseTokens (scan s).tokens).program.toNode.outline = .ok o ∧
      (parseTokens (scan s).tokens).program.toNode.render =
        .ok ((o.entries [] true).map Entry.line) ∧
      (Text.unlines ((o.entries [] true).map Entry.line)).count (.char '\n') =
        (o.entries [] true).length +
          ((o.entries [] true).map fun e => e.label.count (.char '\n')).sum := by
  obtain ⟨o, ho⟩ := Program.outline_toNode (parseTokens (scan s).tokens).program
  refine ⟨o, ho, ?_, ?_⟩
  · rw [Node.render_outline, ho]
    rfl
  · rw [Text.count_unlines, List.length_map, List.map_map]
    congr 2
    exact List.map_congr_left fun e _ => Entry.count_line e

/-- A string value with a line feed in it is printed over two lines: the three entries of
the tree of `INSERT INTO t VALUES ('a` and `b')`, written on two lines, are printed with four
line feeds. -/
theorem drawing_value_line_feed :
    ((parseTokens (scan "INSERT INTO t VALUES ('a\nb')").tokens).program.toNode.outline.toOption.map
        fun o => ((o.entries [] true).length,
        (Text.unlines ((o.entries [] true).map Entry.line)).count (.char '\n'))) = some (3, 4) := by
  decide +kernel

end SqlFront
