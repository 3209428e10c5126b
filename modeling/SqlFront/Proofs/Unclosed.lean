import SqlFront.Proofs.Segmentation
/-!
# An unclosed string or comment ends the scan

A quote without its closing quote, or `##` without a closing `##`, takes the rest of the source:
the scanner reports it as unclosed at the line of its opening delimiter and has nothing left to
read. So the faults of a scan are invalid characters, then at most one unclosed string or
comment, and nothing that the scan yields comes from the text after that delimiter.

The statement that says so is `scan_unclosed_last`: either every fault of the scan of `s` is an
invalid character, or there is an offset `k` where the opening delimiter stands, the piece read
there takes every code point after it, and the scan of `s` is the scan of the text before `k`
followed by the unclosed fault alone.

## Reading a prefix

The scan of `s` and the scan of its text before `k` agree because the scanner never reads past
what it takes, except to see where to stop, and what stops a piece at `k` in `s` stops it at the
end of the shorter text too (`piece_append`): a piece that, read with more text after it, still
ends within `cs` is the piece read from `cs` alone. Its readers all have this property: a run of
characters of a class (`takeWhile_append_of_le`), the first closing quote
(`findIdx?_append_of_lt`), the first closing `##` (`closingMark?_append_of_le`) and the digits
and point of a number (`numberTail_append_of_le`).

The run lemma `piecesFrom_unclosed` follows the scanner's recursion: a piece that reports an
unclosed string or comment takes all that is left (`piece_unclosed`), and one that does not is
read the same from the prefix.
-/

namespace SqlFront

/-- The piece reports a string or a comment without its closing delimiter. -/
def Piece.IsUnclosed : Piece → Prop
  | .error (.unclosedString _) | .error (.unclosedComment _) => True
  | _ => False

namespace Scanner

/-! ### Readers that stop within a prefix -/

/-- A run of a class that ends within `xs` is the run of `xs` alone. -/
theorem takeWhile_append_of_le {α : Type} {p : α → Bool} {xs ys : List α}
    (h : ((xs ++ ys).takeWhile p).length ≤ xs.length) :
    (xs ++ ys).takeWhile p = xs.takeWhile p := by
  rw [List.takeWhile_append] at h ⊢
  by_cases hlen : (xs.takeWhile p).length = xs.length
  · rw [if_pos hlen] at h ⊢
    -- the run takes all of `xs`, and nothing of `ys`
    have hys : ys.takeWhile p = [] := by
      rw [List.length_append] at h
      exact List.eq_nil_of_length_eq_zero (by omega)
    rw [hys, List.append_nil]
    exact ((List.takeWhile_prefix p).eq_of_length hlen).symm
  · rw [if_neg hlen]

/-- The first place of a class within `xs` is its first place in `xs` alone. -/
theorem findIdx?_append_of_lt {α : Type} {p : α → Bool} {xs ys : List α} {i : Nat}
    (h : (xs ++ ys).findIdx? p = some i) (hi : i < xs.length) : xs.findIdx? p = some i := by
  rw [List.findIdx?_append] at h
  cases hx : xs.findIdx? p with
  | some j => rw [hx] at h; exact h
  | none =>
    rw [hx, Option.none_or] at h
    obtain ⟨j, -, rfl⟩ := Option.map_eq_some_iff.1 h
    omega

/-- The first `##` within `xs` is the first `##` of `xs` alone. -/
theorem closingMark?_append_of_le {xs : Str} (ys : Str) {i : Nat}
    (h : closingMark? (xs ++ ys) = some i) (hi : i + 2 ≤ xs.length) : closingMark? xs = some i := by
  fun_induction closingMark? xs generalizing i with
  | case1 r =>
    simp only [List.cons_append, closingMark?, Option.some.injEq] at h
    rw [h]
  | case2 c cs hfirst ih =>
    -- `c` begins no `##` of `xs`, and, with a code point after it in `xs`, none of `xs ++ ys`
    obtain ⟨b, cs', rfl⟩ : ∃ b cs', cs = b :: cs' := by
      cases cs with
      | nil => simp at hi
      | cons b cs' => exact ⟨b, cs', rfl⟩
    have hstep : closingMark? (c :: b :: (cs' ++ ys)) =
        (closingMark? (b :: (cs' ++ ys))).map (· + 1) := by
      rw [closingMark?.eq_2]
      rintro rest rfl hb
      exact hfirst cs' rfl (by rw [(List.cons.inj hb).1])
    rw [List.cons_append, List.cons_append, hstep] at h
    obtain ⟨j, hj, rfl⟩ := Option.map_eq_some_iff.1 h
    simp only [List.length_cons] at hi
    rw [ih (by rw [List.cons_append]; exact hj) (by simp only [List.length_cons]; omega)]
    rfl
  | case3 => simp at hi

/-- A number begins with its whole part. -/
theorem takeWhile_prefix_numberTail (cs : Str) : cs.takeWhile isDigitCode <+: numberTail cs := by
  unfold numberTail
  dsimp only
  split
  · exact List.prefix_append _ _
  · exact List.prefix_refl _

/-- A number whose whole part is followed by a point. -/
theorem numberTail_of_point (cs : Str) {rest : Str}
    (h : cs.drop (cs.takeWhile isDigitCode).length = .char '.' :: rest) :
    numberTail cs = cs.takeWhile isDigitCode ++ .char '.' :: rest.takeWhile isDigitCode := by
  unfold numberTail
  dsimp only
  rw [h]
  rfl

/-- A number whose whole part is followed by no point. -/
theorem numberTail_of_not_point (cs : Str)
    (h : ∀ rest, cs.drop (cs.takeWhile isDigitCode).length ≠ .char '.' :: rest) :
    numberTail cs = cs.takeWhile isDigitCode := by
  unfold numberTail
  dsimp only
  split
  · next rest hr => exact absurd hr (h rest)
  · rfl

/-- A number that ends within `xs` is the number of `xs` alone. -/
theorem numberTail_append_of_le {xs : Str} (ys : Str)
    (h : (numberTail (xs ++ ys)).length ≤ xs.length) : numberTail (xs ++ ys) = numberTail xs := by
  have hw := takeWhile_append_of_le (le_trans (takeWhile_prefix_numberTail _).length_le h)
  have hle : (xs.takeWhile isDigitCode).length ≤ xs.length := (List.takeWhile_prefix _).length_le
  have hd : (xs ++ ys).drop ((xs ++ ys).takeWhile isDigitCode).length =
      xs.drop (xs.takeWhile isDigitCode).length ++ ys := by
    rw [hw]
    exact List.drop_append_of_le_length hle
  have hlen : xs.length = (xs.takeWhile isDigitCode).length +
      (xs.drop (xs.takeWhile isDigitCode).length).length := by
    rw [List.length_drop]
    omega
  -- what follows the whole part within `xs`
  rcases hr : xs.drop (xs.takeWhile isDigitCode).length with _ | ⟨x, rest⟩
  · rw [hr, List.nil_append] at hd
    rw [hr, List.length_nil] at hlen
    rw [numberTail_of_not_point xs (by rw [hr]; exact fun _ => nofun)]
    cases ys with
    | cons y ys' =>
      by_cases hy : y = .char '.'
      · -- a point right after `xs` would make the number longer than `xs`
        subst hy
        rw [numberTail_of_point _ hd, hw] at h
        simp only [List.length_append, List.length_cons] at h
        omega
      · rw [numberTail_of_not_point _ (by rw [hd]; exact fun _ h => hy (List.cons.inj h).1), hw]
    | nil => rw [numberTail_of_not_point _ (by rw [hd]; exact fun _ => nofun), hw]
  · rw [hr, List.cons_append] at hd
    rw [hr, List.length_cons] at hlen
    by_cases hx : x = .char '.'
    · subst hx
      rw [numberTail_of_point xs hr]
      rw [numberTail_of_point _ hd, hw] at h ⊢
      simp only [List.length_append, List.length_cons] at h
      rw [takeWhile_append_of_le (by omega)]
    · rw [numberTail_of_not_point xs (by rw [hr]; exact fun _ h => hx (List.cons.inj h).1),
        numberTail_of_not_point _ (by rw [hd]; exact fun _ h => hx (List.cons.inj h).1), hw]

/-! ### One piece -/

@[simp] theorem numberTail_nil : numberTail [] = [] := rfl

/-- A piece that takes `c` alone reads nothing of what follows it. -/
theorem piece_of_extent_zero (c : CodePoint) (d : Str) (p : Pos) (h : (piece c d p).2 = 0) :
    piece c d p = piece c [] p := by
  cases d with
  | nil => rfl
  | cons e d =>
    -- the branches that read `e` take at least one code point, and `h` rules them out; in the
    -- others `e` ends the run of digits or letters, or is not the `=` of a pair
    revert h
    fun_cases piece c (e :: d) p with
    | case1 hb => intro _; rw [piece, if_pos hb]
    | case2 | case3 | case5 | case9 => intro h; simp at h
    | case4 | case6 => intro h; simp at h
    | case7 hb _ _ hq hdigit tail kind =>
      intro h
      have htail : numberTail (e :: d) = [] := List.eq_nil_of_length_eq_zero h
      simp only [kind, tail, htail]
      simp [piece, hb, hq, hdigit]
    | case8 hb _ _ hq hdigit hletter tail kind =>
      intro h
      have htail : (e :: d).takeWhile isWordTail = [] := List.eq_nil_of_length_eq_zero h
      simp only [kind, tail, htail]
      simp [piece, hb, hq, hdigit, hletter]
    | case10 hb _ _ hq hdigit hletter k hk _ =>
      intro _
      simp [piece, hb, hq, hdigit, hletter, hk]
    | case11 hb _ _ hq hdigit hletter hk _ =>
      intro _
      simp [piece, hb, hq, hdigit, hletter, hk]

/-- **Reading a prefix.** A piece that, read with `d` after `cs`, ends within `cs` is the piece
read from `cs` alone. -/
theorem piece_append (c : CodePoint) (cs d : Str) (p : Pos)
    (h : (piece c (cs ++ d) p).2 ≤ cs.length) : piece c (cs ++ d) p = piece c cs p := by
  cases cs with
  | nil => exact piece_of_extent_zero c d p (by simpa using h)
  | cons a r =>
    -- with `a` first, both reads take the same branch, and each branch's reader stops within
    -- `a :: r`
    have hhead : (a :: r ++ d).head? = (a :: r).head? := rfl
    have hdrop : (a :: r ++ d).drop 1 = r ++ d := rfl
    have hdrop' : (a :: r).drop 1 = r := rfl
    unfold piece at h ⊢
    rw [hhead, hdrop] at h
    rw [hhead, hdrop, hdrop']
    split_ifs at h ⊢
    · rfl
    · simp only [List.length_cons] at h
      rw [takeWhile_append_of_le (by omega)]
    · rcases hm : closingMark? (r ++ d) with _ | i
      · -- no closing mark: the comment takes all, so nothing follows `a :: r`
        rw [hm] at h
        obtain rfl : d = [] := List.eq_nil_of_length_eq_zero
          (by simp only [List.length_cons, List.length_append] at h; omega)
        rw [List.append_nil] at hm
        rw [hm, List.append_nil]
      · rw [hm] at h
        simp only at h
        rw [closingMark?_append_of_le d hm (by simp at h; omega)]
    · rcases hf : List.findIdx? (fun x => decide (x = CodePoint.char '\'')) (a :: r ++ d) with _ | i
      · -- no closing quote: likewise
        rw [hf] at h
        obtain rfl : d = [] := List.eq_nil_of_length_eq_zero
          (by simp only [List.length_cons, List.length_append] at h; omega)
        rw [List.append_nil] at hf
        rw [hf, List.append_nil]
      · rw [hf] at h
        simp only at h
        rw [findIdx?_append_of_lt hf h]
        dsimp only
        rw [List.take_append_of_le_length h]
    · dsimp only at h ⊢
      rw [numberTail_append_of_le d (by simpa using h)]
    · dsimp only at h ⊢
      rw [takeWhile_append_of_le h]
    · rfl

/-- A piece that reports an unclosed string or comment takes every code point after `c`, and
reports it at the line of `c`. -/
theorem piece_unclosed (c : CodePoint) (cs : Str) (p : Pos) (h : (piece c cs p).1.IsUnclosed) :
    (piece c cs p).2 = cs.length ∧
      ((piece c cs p).1 = .error (.unclosedString p.line) ∨
        (piece c cs p).1 = .error (.unclosedComment p.line)) := by
  revert h
  fun_cases piece c cs p with
  | case4 => exact fun _ => ⟨rfl, .inr rfl⟩
  | case6 => exact fun _ => ⟨rfl, .inl rfl⟩
  | _ => exact fun h => h.elim

/-! ### The whole scan -/

/-- One step of the scan: the piece at `c`, then the scan after what it takes. -/
theorem piecesFrom_cons {c : CodePoint} {rest : Str} {p : Pos} {y : Piece} {n : Nat}
    (h : piece c rest p = (y, n)) (acc : Array Piece) :
    piecesFrom (c :: rest) p acc =
      piecesFrom (rest.drop n) (p.skip (c :: rest.take n))
        (if y = .skipped then acc else acc.push y) := by
  rw [piecesFrom, h]

/-- **Run lemma.** From `p` on, either the scan reports no unclosed string or comment, or it
reports one, at some `c`, as its last piece: the pieces before it are the scan of the text
before `c`, and the piece at `c` takes all that follows. -/
theorem piecesFrom_unclosed (cs : Str) (p : Pos) (acc : Array Piece)
    (hacc : ∀ x ∈ acc, ¬ x.IsUnclosed) :
    (∀ x ∈ piecesFrom cs p acc, ¬ x.IsUnclosed) ∨
    ∃ mid c rest e, cs = mid ++ c :: rest ∧ (Piece.error e).IsUnclosed ∧
      piece c rest (p.skip mid) = (.error e, rest.length) ∧
      piecesFrom cs p acc = (piecesFrom mid p acc).push (.error e) ∧
      ∀ x ∈ piecesFrom mid p acc, ¬ x.IsUnclosed := by
  cases cs with
  | nil =>
    left
    rw [piecesFrom]
    exact hacc
  | cons c rest =>
    rcases hp : piece c rest p with ⟨y, n⟩
    have hn : n ≤ rest.length := by
      have := (piece_fits c rest p).1
      rwa [hp] at this
    by_cases hy : y.IsUnclosed
    · -- the piece takes all that is left, and the scan stops after it
      obtain ⟨hall, hline⟩ := piece_unclosed c rest p (by rw [hp]; exact hy)
      rw [hp] at hall hline
      dsimp only at hall hline
      subst hall
      obtain ⟨e, rfl⟩ : ∃ e, y = .error e := by
        rcases hline with h | h <;> exact ⟨_, h⟩
      right
      refine ⟨[], c, rest, e, rfl, hy, by rw [Pos.skip_nil, hp], ?_, ?_⟩
      · rw [piecesFrom_cons hp, List.drop_length, piecesFrom, if_neg (by intro h; cases h), piecesFrom]
      · rw [piecesFrom]
        exact hacc
    · -- the piece is no unclosed one; what it takes ends before any later one
      have hacc' : ∀ x ∈ (if y = .skipped then acc else acc.push y), ¬ x.IsUnclosed := by
        split
        · exact hacc
        · intro x hx
          rcases Array.mem_push.1 hx with hx | rfl
          · exact hacc x hx
          · exact hy
      rcases piecesFrom_unclosed (rest.drop n) (p.skip (c :: rest.take n)) _ hacc' with
        hnone | ⟨mid, c', rest', e, hsplit, he, hpiece, hrun, hbefore⟩
      · left
        rw [piecesFrom_cons hp]
        exact hnone
      · right
        have hrest : rest = rest.take n ++ mid ++ c' :: rest' := by
          rw [List.append_assoc, ← hsplit, List.take_append_drop]
        have htake : (rest.take n).length = n := by
          rw [List.length_take]
          omega
        have hmid : piece c (rest.take n ++ mid) p = (y, n) := by
          rw [← piece_append c (rest.take n ++ mid) (c' :: rest') p, ← hrest, hp]
          rw [← hrest, hp, List.length_append, htake]
          omega
        have hstep : piecesFrom (c :: (rest.take n ++ mid)) p acc =
            piecesFrom mid (p.skip (c :: rest.take n))
              (if y = .skipped then acc else acc.push y) := by
          rw [piecesFrom_cons hmid, List.drop_left' htake, List.take_left' htake]
        refine ⟨c :: (rest.take n ++ mid), c', rest', e, ?_, he, ?_, ?_, ?_⟩
        · rw [List.cons_append, ← hrest]
        · rw [← List.cons_append, Pos.skip_append]
          exact hpiece
        · rw [piecesFrom_cons hp, hrun, hstep]
        · rw [hstep]
          exact hbefore
termination_by cs.length

end Scanner

/-- The faults of a scan none of whose pieces reports an unclosed string or comment are invalid
characters. -/
theorem Scan.errors_invalid {sc : Scan} (h : ∀ x ∈ sc.pieces, ¬ x.IsUnclosed) :
    ∀ e ∈ sc.errors, ∃ c q, e = .invalidChar c q := by
  intro e he
  obtain ⟨x, hx, hxe⟩ := List.mem_filterMap.1 he
  cases x with
  | token t => cases hxe
  | skipped => cases hxe
  | error e' =>
    cases hxe
    cases e with
    | invalidChar c q => exact ⟨c, q, rfl⟩
    | unclosedString l => exact absurd trivial (h _ (Array.mem_toList_iff.1 hx))
    | unclosedComment l => exact absurd trivial (h _ (Array.mem_toList_iff.1 hx))

/-- **An unclosed string or comment ends the scan.** Either every fault of the scan of `s` is an
invalid character, or `s` is a text `before`, an opening delimiter `c` and the text `rest` after
it, where the piece read at `c` reports a string or comment unclosed at the line of `c` and takes
all of `rest`: the tokens of the scan are those of `before` alone, and its faults are those of
`before`, all invalid characters, followed by that one. -/
theorem scan_unclosed_last (s : Str) :
    (∀ e ∈ (scan s).errors, ∃ c q, e = .invalidChar c q) ∨
    ∃ before c rest e, s = before ++ c :: rest ∧
      (e = .unclosedString (Pos.placeAt s before.length).line ∨
        e = .unclosedComment (Pos.placeAt s before.length).line) ∧
      Scanner.piece c rest (Pos.placeAt s before.length) = (.error e, rest.length) ∧
      (scan s).tokens = (scan before).tokens ∧
      (scan s).errors = (scan before).errors ++ [e] ∧
      ∀ e' ∈ (scan before).errors, ∃ c q, e' = .invalidChar c q := by
  rcases Scanner.piecesFrom_unclosed s Pos.start #[] (by simp) with
    hnone | ⟨before, c, rest, e, hs, he, hpiece, hrun, hbefore⟩
  · exact .inl (Scan.errors_invalid hnone)
  · right
    have hplace : Pos.placeAt s before.length = Pos.start.skip before := by
      rw [hs, ← Pos.skip_eq_placeAt]
    have hscan : (scan s).pieces = (scan before).pieces.push (.error e) := hrun
    obtain ⟨-, hline⟩ := Scanner.piece_unclosed c rest _ (by rw [hpiece]; exact he)
    rw [hpiece] at hline
    refine ⟨before, c, rest, e, hs, ?_, by rw [hplace]; exact hpiece, ?_, ?_,
      Scan.errors_invalid hbefore⟩
    · rw [hplace]
      simpa using hline
    · rw [Scan.tokens, Scan.tokens, hscan, Array.toList_push, List.filterMap_append]
      simp
    · rw [Scan.errors, Scan.errors, hscan, Array.toList_push, List.filterMap_append]
      simp

end SqlFront
