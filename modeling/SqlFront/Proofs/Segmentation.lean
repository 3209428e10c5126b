import Mathlib.Data.List.Induction
import Mathlib.Data.List.TakeWhile
import SqlFront.Token.Scanner
/-!
# The scan is a segmentation of the source

The scanner reads the source from left to right, one piece at a time, and keeps its place by
moving it past each code point it takes (`Pos.next`). Read back, a scan cuts the whole source
into consecutive *spans*, each one of seven kinds of `Stretch`:

* the lexeme of a token, which is the text of the span, at the place of the span's offset;
* one blank code point;
* a line comment: `--` and what follows it, up to the next line feed (left out) or the end;
* a block comment: `##` up to and including the first `##` after it;
* an unclosed string: a quote and the rest of the source, with no other quote in it;
* an unclosed comment: `##` and the rest of the source, with no other `##` in it;
* a code point that begins nothing, reported as invalid.

The place of an offset `k` is said without the scanner (`placeAt`): its line is one more than
the number of line feeds before `k`, and its column counts from the offset just after the last
of those line feeds. The tokens of the scan are the tokens of the spans, in order; its errors
are those of the spans, each at the place of its span's offset (`scan_segments`).

The proof has one step lemma, `piece_fits`: each piece of the scanner is a span of one of the
kinds, whose text is the code points it takes. The run lemma `piecesFrom_segments` follows the
scanner's recursion, with the invariant that the place the scanner keeps is the place of the
offset it has reached (`skip_eq_placeAt`).
-/

namespace SqlFront

/-! ### The place of an offset -/

namespace Pos

/-- The offset just after the last line feed of `before`, or `0` if it has none. -/
def lineStart (before : Str) : Nat :=
  before.zipIdx.foldl (fun j x => if x.1 = .char '\n' then x.2 + 1 else j) 0

/-- The place at offset `k` of the text `s`: the line is one more than the number of line feeds
before `k`, and the column counts from the offset just after the last of them. -/
def placeAt (s : Str) (k : Nat) : Pos :=
  ⟨1 + (s.take k).count (.char '\n'), k - lineStart (s.take k) + 1⟩

@[simp] theorem lineStart_nil : lineStart [] = 0 := rfl

theorem lineStart_append_singleton (before : Str) (c : CodePoint) :
    lineStart (before ++ [c]) = if c = .char '\n' then before.length + 1 else lineStart before := by
  simp only [lineStart, List.zipIdx_append, List.zipIdx_singleton, List.foldl_append,
    List.foldl_cons, List.foldl_nil, Nat.zero_add]

theorem lineStart_le (before : Str) : lineStart before ≤ before.length := by
  induction before using List.reverseRecOn with
  | nil => simp
  | append_singleton before c ih =>
    rw [lineStart_append_singleton, List.length_append, List.length_singleton]
    split <;> omega

/-- The place the scanner keeps, moved from the start past `before`, is read off `before`
alone. -/
theorem start_skip (before : Str) :
    start.skip before =
      ⟨1 + before.count (.char '\n'), before.length - lineStart before + 1⟩ := by
  induction before using List.reverseRecOn with
  | nil => rfl
  | append_singleton before c ih =>
    have hle := lineStart_le before
    rw [skip_append, ih, skip_cons, skip_nil, lineStart_append_singleton, List.count_append,
      List.count_singleton, List.length_append, List.length_singleton]
    by_cases hc : c = .char '\n'
    · simp [next, hc]
      omega
    · simp only [next, hc, if_false, beq_iff_eq, Pos.mk.injEq]
      omega

/-- The invariant of the scan: its place after `before` is the place of the offset after
`before` in any text that goes on from `before`. -/
theorem skip_eq_placeAt (before rest : Str) :
    start.skip before = placeAt (before ++ rest) before.length := by
  rw [start_skip, placeAt, List.take_left]

end Pos

namespace Scanner

/-! ### Stretches -/

/-- The text holds `##`. -/
def HasMark (cs : Str) : Prop := ∃ l r, cs = l ++ .char '#' :: .char '#' :: r

/-- What a stretch of the source is, as the scanner reads it. -/
inductive Stretch where
  /-- The lexeme of a token. -/
  | token (t : Token)
  /-- One blank code point. -/
  | blank
  /-- `--` and what follows it, up to the next line feed (left out) or the end. -/
  | lineComment
  /-- `##` up to and including the first `##` after it. -/
  | blockComment
  /-- A quote and the rest of the source, with no other quote in it. -/
  | unclosedString
  /-- `##` and the rest of the source, with no other `##` in it. -/
  | unclosedComment
  /-- A code point that begins nothing. -/
  | invalid (c : CodePoint)
  deriving DecidableEq, Repr

namespace Stretch

/-- The stretch, read at place `p`, has the text `text`, and `after` follows it. A token's
lexeme is its text and it stands at `p`. -/
def Fits (p : Pos) (text after : Str) : Stretch → Prop
  | token t => t.lexeme = text ∧ t.line = p.line ∧ t.column = p.column
  | blank => ∃ c, text = [c] ∧ c.satisfies Text.isBlank
  | lineComment => ∃ body, text = .char '-' :: .char '-' :: body ∧ .char '\n' ∉ body ∧
      (after = [] ∨ after.head? = some (.char '\n'))
  | blockComment => ∃ body, text = .char '#' :: .char '#' :: (body ++ [.char '#', .char '#']) ∧
      ¬ HasMark (body ++ [.char '#'])
  | unclosedString => ∃ body, text = .char '\'' :: body ∧ .char '\'' ∉ body ∧ after = []
  | unclosedComment => ∃ body, text = .char '#' :: .char '#' :: body ∧ ¬ HasMark body ∧ after = []
  | invalid c => text = [c]

/-- What the scanner yields for the stretch read at place `p`: a token, an error at `p` (for
an unclosed string or comment, the line of `p`), or nothing. -/
def toPiece (p : Pos) : Stretch → Piece
  | token t => .token t
  | blank | lineComment | blockComment => .skipped
  | unclosedString => .error (.unclosedString p.line)
  | unclosedComment => .error (.unclosedComment p.line)
  | invalid c => .error (.invalidChar c p)

/-- The token of a stretch that is one. -/
def token? : Stretch → Option Token
  | token t => some t
  | _ => none

/-- The error the scanner reports for the stretch read at place `p`. -/
def error? (p : Pos) : Stretch → Option LexError
  | unclosedString => some (.unclosedString p.line)
  | unclosedComment => some (.unclosedComment p.line)
  | invalid c => some (.invalidChar c p)
  | _ => none

end Stretch

/-! ### `##` -/

theorem hasMark_cons {c : CodePoint} {cs : Str} :
    HasMark (c :: cs) ↔ (c = .char '#' ∧ cs.head? = some (.char '#')) ∨ HasMark cs := by
  constructor
  · rintro ⟨_ | ⟨a, l⟩, r, h⟩
    · simp only [List.nil_append, List.cons.injEq] at h
      obtain ⟨rfl, rfl⟩ := h
      exact .inl ⟨rfl, rfl⟩
    · simp only [List.cons_append, List.cons.injEq] at h
      exact .inr ⟨l, r, h.2⟩
  · rintro (⟨rfl, hd⟩ | ⟨l, r, rfl⟩)
    · obtain ⟨r, rfl⟩ : ∃ r, cs = .char '#' :: r := by
        cases cs with
        | nil => cases hd
        | cons a r => simp only [List.head?_cons, Option.some.injEq] at hd; exact ⟨r, hd ▸ rfl⟩
      exact ⟨[], r, rfl⟩
    · exact ⟨c :: l, r, rfl⟩

theorem not_hasMark_singleton (c : CodePoint) : ¬ HasMark [c] := by
  rw [hasMark_cons]
  rintro (⟨-, h⟩ | ⟨l, r, h⟩)
  · cases h
  · cases l <;> cases h

/-- `closingMark?` finds the first `##`. -/
theorem closingMark?_eq_some {cs : Str} {i : Nat} (h : closingMark? cs = some i) :
    ∃ l r, cs = l ++ .char '#' :: .char '#' :: r ∧ l.length = i ∧
      ¬ HasMark (l ++ [.char '#']) := by
  fun_induction closingMark? cs generalizing i with
  | case1 r =>
    cases h
    exact ⟨[], r, rfl, rfl, not_hasMark_singleton _⟩
  | case2 c cs hfirst ih =>
    obtain ⟨j, hj, rfl⟩ := Option.map_eq_some_iff.1 h
    obtain ⟨l, r, rfl, rfl, hl⟩ := ih hj
    refine ⟨c :: l, r, rfl, rfl, ?_⟩
    rw [List.cons_append, hasMark_cons]
    rintro (⟨rfl, hd⟩ | hm)
    · -- the first `##` would begin at `c` itself
      cases l with
      | nil => exact hfirst _ rfl rfl
      | cons a l =>
        simp only [List.cons_append, List.head?_cons, Option.some.injEq] at hd
        subst hd
        exact hfirst _ rfl rfl
    · exact hl hm
  | case3 => cases h

theorem closingMark?_eq_none {cs : Str} (h : closingMark? cs = none) : ¬ HasMark cs := by
  fun_induction closingMark? cs with
  | case1 r => cases h
  | case2 c cs hfirst ih =>
    rw [Option.map_eq_none_iff] at h
    rw [hasMark_cons]
    rintro (⟨rfl, hd⟩ | hm)
    · obtain ⟨r, rfl⟩ : ∃ r, cs = .char '#' :: r := by
        cases cs with
        | nil => cases hd
        | cons a r => simp only [List.head?_cons, Option.some.injEq] at hd; exact ⟨r, hd ▸ rfl⟩
      exact hfirst _ rfl rfl
    · exact ih h hm
  | case3 => rintro ⟨l, r, h⟩; cases l <;> cases h

/-! ### One piece -/

/-- The piece `x` of the scanner, read at place `p` where `c` and then `cs` stand, is a stretch
of some kind: it takes at most the code points there are, its text is `c` and those it takes
after `c`, and it yields what the stretch yields. -/
def Takes (c : CodePoint) (cs : Str) (p : Pos) (x : Piece × Nat) : Prop :=
  x.2 ≤ cs.length ∧ ∃ st : Stretch, st.Fits p (c :: cs.take x.2) (cs.drop x.2) ∧ st.toPiece p = x.1

section Takes

variable {c : CodePoint} {cs : Str} (p : Pos)

/-- A token whose lexeme is `c` and a part of what follows. -/
theorem takes_token (k : TokenKind) {tail : Str} (h : tail <+: cs) :
    Takes c cs p (.token (tokenAt k (c :: tail) p), tail.length) := by
  refine ⟨h.length_le, .token _, ⟨?_, rfl, rfl⟩, rfl⟩
  show c :: tail = c :: cs.take tail.length
  rw [← List.prefix_iff_eq_take.1 h]

theorem takes_blank (h : c.satisfies Text.isBlank) : Takes c cs p (.skipped, 0) :=
  ⟨Nat.zero_le _, .blank, ⟨c, rfl, h⟩, rfl⟩

theorem takes_invalid : Takes c cs p (.error (.invalidChar c p), 0) :=
  ⟨Nat.zero_le _, .invalid c, rfl, rfl⟩

theorem takes_lineComment (r : Str) :
    Takes (.char '-') (.char '-' :: r) p
      (.skipped, 1 + (r.takeWhile (· ≠ .char '\n')).length) := by
  -- the comment's body is what `takeWhile` takes, and what follows is what it leaves
  have hpre := List.takeWhile_prefix (l := r) (· ≠ CodePoint.char '\n')
  have hafter : r.drop (r.takeWhile (· ≠ CodePoint.char '\n')).length =
      r.dropWhile (· ≠ CodePoint.char '\n') :=
    calc _ = (r.takeWhile (· ≠ CodePoint.char '\n') ++ r.dropWhile (· ≠ CodePoint.char '\n')).drop
          (r.takeWhile (· ≠ CodePoint.char '\n')).length := by rw [List.takeWhile_append_dropWhile]
      _ = _ := List.drop_left
  refine ⟨?_, .lineComment, ⟨r.takeWhile (· ≠ .char '\n'), ?_, ?_, ?_⟩, rfl⟩
  · have := hpre.length_le
    simp only [List.length_cons]
    omega
  · rw [Nat.add_comm, List.take_succ_cons, ← List.prefix_iff_eq_take.1 hpre]
  · intro hmem
    simpa using List.mem_takeWhile_imp hmem
  · rw [Nat.add_comm, List.drop_succ_cons, hafter]
    cases hd : r.dropWhile (· ≠ CodePoint.char '\n') with
    | nil => exact .inl rfl
    | cons x xs =>
      have hx := List.head?_dropWhile_not (· ≠ CodePoint.char '\n') r
      rw [hd] at hx
      simp only [List.head?_cons, decide_eq_false_iff_not, not_not] at hx
      exact .inr (by rw [hx]; rfl)

theorem takes_blockComment {r : Str} {i : Nat} (h : closingMark? r = some i) :
    Takes (.char '#') (.char '#' :: r) p (.skipped, i + 3) := by
  obtain ⟨l, rest, rfl, rfl, hl⟩ := closingMark?_eq_some h
  refine ⟨?_, .blockComment, ⟨l, ?_, hl⟩, rfl⟩
  · simp only [List.length_cons, List.length_append]
    omega
  · rw [List.take_succ_cons, List.take_length_add_append]
    rfl

theorem takes_unclosedComment {r : Str} (h : closingMark? r = none) :
    Takes (.char '#') (.char '#' :: r) p (.error (.unclosedComment p.line), r.length + 1) :=
  ⟨by simp, .unclosedComment, ⟨r, by simp, closingMark?_eq_none h, by simp⟩, rfl⟩

theorem takes_string {i : Nat} (h : cs.findIdx? (· = .char '\'') = some i) :
    Takes (.char '\'') cs p (.token (tokenAt .string (.char '\'' :: cs.take (i + 1)) p), i + 1) := by
  have hi : i < cs.length := (List.findIdx?_eq_some_iff_getElem.1 h).1
  have := takes_token p (c := .char '\'') .string <| List.take_prefix (i + 1) cs
  rwa [List.length_take, Nat.min_eq_left (by omega)] at this

theorem takes_unclosedString (h : cs.findIdx? (· = .char '\'') = none) :
    Takes (.char '\'') cs p (.error (.unclosedString p.line), cs.length) := by
  refine ⟨Nat.le_refl _, .unclosedString, ⟨cs, by rw [List.take_length], ?_, List.drop_length⟩, rfl⟩
  intro hmem
  simpa using List.findIdx?_eq_none_iff.1 h _ hmem

end Takes

/-- A number takes code points from the front of what follows its first digit. -/
theorem numberTail_isPrefix (cs : Str) : numberTail cs <+: cs := by
  have hwhole := List.takeWhile_prefix (l := cs) isDigitCode
  have hcs : cs = cs.takeWhile isDigitCode ++ cs.drop (cs.takeWhile isDigitCode).length := by
    conv_lhs => rw [← List.take_append_drop (cs.takeWhile isDigitCode).length cs]
    rw [← List.prefix_iff_eq_take.1 hwhole]
  unfold numberTail
  dsimp only
  split
  · next rest hrest =>
    refine ⟨rest.dropWhile isDigitCode, ?_⟩
    rw [List.append_assoc, List.cons_append, List.takeWhile_append_dropWhile, ← hrest, ← hcs]
  · exact hwhole

/-- Every piece of the scanner is a stretch of one of the seven kinds. -/
theorem piece_fits (c : CodePoint) (cs : Str) (p : Pos) : Takes c cs p (piece c cs p) := by
  unfold piece
  split
  · next hblank => exact takes_blank p hblank
  split
  · next hline =>
    simp only [Bool.and_eq_true, decide_eq_true_eq, beq_iff_eq] at hline
    obtain ⟨rfl, hd⟩ := hline
    obtain ⟨r, rfl⟩ := List.head?_eq_some_iff.1 hd
    exact takes_lineComment p r
  split
  · next hblock =>
    simp only [Bool.and_eq_true, decide_eq_true_eq, beq_iff_eq] at hblock
    obtain ⟨rfl, hd⟩ := hblock
    obtain ⟨r, rfl⟩ := List.head?_eq_some_iff.1 hd
    split
    · next i hi => exact takes_blockComment p hi
    · next hi => exact takes_unclosedComment p hi
  split
  · next hquote =>
    subst hquote
    split
    · next i hi => exact takes_string p hi
    · next hi => exact takes_unclosedString p hi
  split
  · exact takes_token p _ <| numberTail_isPrefix cs
  split
  · exact takes_token p _ <| List.takeWhile_prefix _
  split
  · next k hk hd =>
    obtain ⟨r, rfl⟩ := List.head?_eq_some_iff.1 hd
    exact takes_token p k (show [CodePoint.char '='] <+: _ from ⟨r, rfl⟩)
  · split
    · next k hk => exact takes_token p k List.nil_prefix
    · exact takes_invalid p

/-! ### The whole scan -/

/-- A span of the source: where it starts, how many code points it has, and what it is. -/
structure Span where
  start : Nat
  length : Nat
  stretch : Stretch
  deriving DecidableEq, Repr

/-- The spans `xs` follow one another from offset `k` to the end of `s`: each begins where the
one before it ends, has at least one code point, and is of its kind at the place of its
offset. -/
def Covers (s : Str) : Nat → List Span → Prop
  | k, [] => k = s.length
  | k, x :: xs => x.start = k ∧ 0 < x.length ∧
      x.stretch.Fits (Pos.placeAt s k) ((s.drop k).take x.length) (s.drop (k + x.length)) ∧
      Covers s (k + x.length) xs

/-- What the scanner yields for the spans `xs` of `s`, in order. -/
def yields (s : Str) (xs : List Span) : List Piece :=
  (xs.map fun x => x.stretch.toPiece (Pos.placeAt s x.start)).filter (· ≠ .skipped)

theorem yields_cons (s : Str) (x : Span) (xs : List Span) :
    yields s (x :: xs) =
      (if x.stretch.toPiece (Pos.placeAt s x.start) = .skipped then []
        else [x.stretch.toPiece (Pos.placeAt s x.start)]) ++ yields s xs := by
  unfold yields
  rw [List.map_cons, List.filter_cons]
  split <;> simp_all

/-- The run lemma: from the offset after `before` on, the scanner yields what the spans that
cover the rest of the source yield. The place the scanner keeps is the place of the offset it
has reached. -/
theorem piecesFrom_segments (s cs before : Str) (hs : s = before ++ cs) (acc : Array Piece) :
    ∃ xs, Covers s before.length xs ∧
      (piecesFrom cs (Pos.start.skip before) acc).toList = acc.toList ++ yields s xs := by
  match cs with
  | [] =>
    refine ⟨[], ?_, ?_⟩
    · show before.length = s.length
      rw [hs, List.append_nil]
    · rw [piecesFrom]
      simp [yields]
  | c :: rest =>
    obtain ⟨hn, st, hfits, hpiece⟩ := piece_fits c rest (Pos.start.skip before)
    rcases hp : piece c rest (Pos.start.skip before) with ⟨y, n⟩
    rw [hp] at hn hfits hpiece
    dsimp only at hn hfits hpiece
    -- the scanner goes on after the piece, with the piece's text added to what is behind it
    have hs' : s = (before ++ c :: rest.take n) ++ rest.drop n := by
      rw [hs, List.append_assoc, List.cons_append, List.take_append_drop]
    obtain ⟨xs, hcov, heq⟩ :=
      piecesFrom_segments s (rest.drop n) (before ++ c :: rest.take n) hs'
        (if y = .skipped then acc else acc.push y)
    have hlen : (before ++ c :: rest.take n).length = before.length + (n + 1) := by
      simp only [List.length_append, List.length_cons, List.length_take]
      omega
    have hplace : Pos.placeAt s before.length = Pos.start.skip before := by
      rw [hs, ← Pos.skip_eq_placeAt]
    refine ⟨⟨before.length, n + 1, st⟩ :: xs, ⟨rfl, Nat.succ_pos n, ?_, hlen ▸ hcov⟩, ?_⟩
    · rw [hplace, hs, List.drop_left, List.take_succ_cons, List.drop_length_add_append,
        List.drop_succ_cons]
      exact hfits
    · rw [piecesFrom, hp]
      dsimp only
      rw [← Pos.skip_append, heq, yields_cons]
      dsimp only
      rw [hplace, hpiece]
      split <;> simp
termination_by cs.length

/-- The pieces the spans yield, kept by a reading that passes over what is skipped. -/
theorem filterMap_yields {α : Type} (f : Piece → Option α) (hf : f .skipped = none) (s : Str)
    (xs : List Span) :
    (yields s xs).filterMap f = xs.filterMap fun x => f (x.stretch.toPiece (Pos.placeAt s x.start)) := by
  induction xs with
  | nil => rfl
  | cons x xs ih =>
    rw [yields_cons, List.filterMap_append, ih, List.filterMap_cons]
    split
    · next hskip => simp [hskip, hf]
    · rcases hfx : f (x.stretch.toPiece (Pos.placeAt s x.start)) with _ | b <;> simp [hfx]

/-- The scan cuts the source into spans, one after another from its start to its end, each of
one of the seven kinds at the place of its offset; its tokens are the tokens of the spans and
its errors the errors of the spans, both in order. -/
theorem scan_segments (s : Str) : ∃ xs : List Span, Covers s 0 xs ∧
    (scan s).tokens = xs.filterMap (·.stretch.token?) ∧
    (scan s).errors = xs.filterMap fun x => x.stretch.error? (Pos.placeAt s x.start) := by
  obtain ⟨xs, hcov, heq⟩ := piecesFrom_segments s s [] rfl #[]
  have hpieces : (scan s).pieces.toList = yields s xs := by
    rw [Array.toList_empty, List.nil_append] at heq
    exact heq
  refine ⟨xs, hcov, ?_, ?_⟩
  · rw [Scan.tokens, hpieces, filterMap_yields _ rfl]
    congr 1
    funext x
    cases x.stretch <;> rfl
  · rw [Scan.errors, hpieces, filterMap_yields _ rfl]
    congr 1
    funext x
    cases x.stretch <;> rfl

end Scanner

end SqlFront
