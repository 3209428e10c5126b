import Mathlib.Data.List.TakeDrop
import SqlFront.Proofs.Lexemes
import SqlFront.Proofs.Rescanning
import SqlFront.SqlType
import SqlFront.Analysis
/-!
# The types of the literals a program is checked with

The scanner decides what a number is, and the analysis types a literal by reading its text as a
whole numeral or as a decimal numeral (`SqlType.ofLiteral`). The two readings meet on every
literal that reaches the analysis: every value a program inserts or assigns, and every literal
of its conditions but the placeholder of a missing operand (`Stmt.literals`), is the lexeme of a
scanned token of a literal kind (`parse_readFrom` over the class of the scanned tokens), and
that lexeme is typed by its token's kind (`scanned_literal_types`):

* a string is `TEXT`;
* a number written in decimal digits is `INT` up to `Text.Numeral.maxDigits` digits and `FLOAT`
  beyond, where no whole numeral is read;
* a number with a point, written in decimal digits, is `FLOAT`.

The scanner takes any digit for a number, and the reserved word `FLOAT` shares its kind with a
number with a point; those lexemes hold a code point that is no decimal digit, and nothing is
said of their types here.

So a literal fits the columns its token is written for (`Token.Fits`): the analysis types it,
without a change to its state, with a type that such a column accepts, and the checks of
`INSERT` and `UPDATE` report no mismatch of a value or an assignment for it there
(`scanned_literals_fit`).

The typing rests on a few facts about the character classes, decided once over their interval
lists: a decimal digit is a digit, and no blank, no sign, no underscore, no point, no quote and
no upper-case letter (`RangeSet.contains_eq_false_of_apart`).
-/

namespace SqlFront

namespace Text

/-! ### Decimal digits against the other classes -/

/-- A code point in a set of intervals is in none of a set of intervals that lie apart from
them. -/
theorem RangeSet.contains_eq_false_of_apart {a b : RangeSet}
    (h : ∀ r ∈ a, ∀ q ∈ b, r.2 < q.1 ∨ q.2 < r.1) {n : Nat} (ha : a.contains n) :
    b.contains n = false := by
  obtain ⟨r, hr, hrn⟩ := List.any_eq_true.1 ha
  refine Bool.eq_false_iff.2 fun hb => ?_
  obtain ⟨q, hq, hqn⟩ := List.any_eq_true.1 hb
  simp only [Bool.and_eq_true, decide_eq_true_eq] at hrn hqn
  rcases h r hr q hq with hlt | hlt <;> omega

/-- A code point in a set of intervals each within one of another set is in the other. -/
theorem RangeSet.contains_of_within {a b : RangeSet}
    (h : ∀ r ∈ a, ∃ q ∈ b, q.1 ≤ r.1 ∧ r.2 ≤ q.2) {n : Nat} (ha : a.contains n) :
    b.contains n := by
  obtain ⟨r, hr, hrn⟩ := List.any_eq_true.1 ha
  obtain ⟨q, hq, hlo, hhi⟩ := h r hr
  simp only [Bool.and_eq_true, decide_eq_true_eq] at hrn
  exact List.any_eq_true.2 ⟨q, hq, by simp only [Bool.and_eq_true, decide_eq_true_eq]; omega⟩

variable {c : Char}

theorem isDigit_of_isDecimal (h : isDecimal c) : isDigit c :=
  RangeSet.contains_of_within (by decide +kernel) h

theorem isBlank_of_isDecimal (h : isDecimal c) : isBlank c = false :=
  RangeSet.contains_eq_false_of_apart (by decide +kernel) h

/-- The six ASCII blanks are blanks, so an edge blank is a blank. -/
theorem isBlank_of_isEdgeBlank (h : Numeral.isEdgeBlank c) : isBlank c := by
  unfold Numeral.isEdgeBlank at h
  split at h
  · simp only [Bool.or_eq_true, decide_eq_true_eq] at h
    rcases h with ((((rfl | rfl) | rfl) | rfl) | rfl) | rfl <;> decide
  · exact h

theorem isEdgeBlank_of_isDecimal (h : isDecimal c) : Numeral.isEdgeBlank c = false :=
  Bool.eq_false_iff.2 fun he => absurd (isBlank_of_isEdgeBlank he) (by
    rw [isBlank_of_isDecimal h]; decide)

/-- A decimal digit is none of the ASCII characters `d` that are no digit. -/
theorem ne_of_isDecimal {d : Char} (h : isDecimal c) (hd : isDecimal d = false) : c ≠ d := by
  rintro rfl
  rw [hd] at h
  exact absurd h (by decide)

/-- A decimal digit is no upper-case ASCII letter, so it is its own lower case. -/
theorem toLower_of_isDecimal (h : isDecimal c) : c.toLower = c := by
  have hupper : RangeSet.contains [(0x41, 0x5A)] c.toNat = false :=
    RangeSet.contains_eq_false_of_apart (by decide +kernel) h
  unfold Char.toLower
  rw [dif_neg]
  intro hA
  simp only [UInt32.le_iff_toNat_le, ge_iff_le] at hA
  simp only [RangeSet.contains_cons, RangeSet.contains_nil, Bool.or_false, Bool.and_eq_false_iff,
    decide_eq_false_iff_not, Nat.not_le] at hupper
  have : c.toNat = c.val.toNat := rfl
  have hlo : ('A').val.toNat = 0x41 := rfl
  have hhi : ('Z').val.toNat = 0x5A := rfl
  omega

/-! ### Numerals written in decimal digits -/

namespace Numeral

variable {l ds fs : List Char}

/-- A text without edge blanks is its own trim. -/
theorem trim_of_forall (h : ∀ c ∈ l, isEdgeBlank c = false) : trim l = l := by
  have hdrop : ∀ m : List Char, (∀ c ∈ m, isEdgeBlank c = false) → m.dropWhile isEdgeBlank = m := by
    intro m hm
    cases m with
    | nil => rfl
    | cons c m => simp [hm c List.mem_cons_self]
  unfold trim
  rw [hdrop l h, hdrop l.reverse (by simpa using h), List.reverse_reverse]

theorem dropSign_cons (h : isDecimal c) (l : List Char) : dropSign (c :: l) = c :: l := by
  have hplus := ne_of_isDecimal h (d := '+') (by decide)
  have hminus := ne_of_isDecimal h (d := '-') (by decide)
  unfold dropSign
  split <;> simp_all

theorem dropSign_point (l : List Char) : dropSign ('.' :: l) = '.' :: l := rfl

/-- A run of decimal digits goes on to its end, one digit at a time. -/
theorem groupedDigits_go_of_decimals (h : ∀ c ∈ l, isDecimal c) (n : Nat) :
    groupedDigits.go l n = some (n + l.length) := by
  induction l generalizing n with
  | nil => rfl
  | cons c l ih =>
    have hc := h c List.mem_cons_self
    have hne : c ≠ '_' := ne_of_isDecimal hc (by decide)
    rw [groupedDigits.go.eq_3 _ _ _ fun _ _ h => absurd h hne, if_pos hc,
      ih (fun d hd => h d (List.mem_cons_of_mem c hd))]
    congr 1
    simp only [List.length_cons]
    omega

/-- A run of digits stops at a point with no whole number. -/
theorem groupedDigits_go_point (h : ∀ c ∈ ds, isDecimal c) (n : Nat) :
    groupedDigits.go (ds ++ '.' :: fs) n = none := by
  induction ds generalizing n with
  | nil => rfl
  | cons c ds ih =>
    have hc := h c List.mem_cons_self
    have hne : c ≠ '_' := ne_of_isDecimal hc (by decide)
    rw [List.cons_append, groupedDigits.go.eq_3 _ _ _ fun _ _ h => absurd h hne, if_pos hc,
      ih (fun d hd => h d (List.mem_cons_of_mem c hd))]

theorem underscoresBetweenDigits_of_forall_ne (h : ∀ c ∈ l, c ≠ '_') :
    underscoresBetweenDigits l = true := by
  induction l with
  | nil => rfl
  | cons c l ih =>
    have hc := h c List.mem_cons_self
    have hl := ih fun d hd => h d (List.mem_cons_of_mem c hd)
    cases l with
    | nil => simpa [underscoresBetweenDigits.eq_2] using hc
    | cons d l =>
      have hd := h d (by simp)
      rw [underscoresBetweenDigits.eq_6 c (d :: l) nofun (fun _ h => hd (List.cons.inj h).1) hc]
      exact hl

/-- A text that begins with a decimal digit is none of the words `inf`, `infinity` and `nan`. -/
theorem lower_ne_words (hc : isDecimal c) (l : List Char) :
    ((c :: l).map Char.toLower = "inf".toList || (c :: l).map Char.toLower = "infinity".toList ||
      (c :: l).map Char.toLower = "nan".toList) = false := by
  have hi : c ≠ 'i' := ne_of_isDecimal hc (by decide)
  have hn : c ≠ 'n' := ne_of_isDecimal hc (by decide)
  have hinf : "inf".toList = ['i', 'n', 'f'] := rfl
  have hinfinity : "infinity".toList = ['i', 'n', 'f', 'i', 'n', 'i', 't', 'y'] := rfl
  have hnan : "nan".toList = ['n', 'a', 'n'] := rfl
  simp [List.map_cons, toLower_of_isDecimal hc, hinf, hinfinity, hnan, hi, hn]

/-- Decimal digits alone are the body of a decimal numeral. -/
theorem isDecimalBody_of_decimals (hne : l ≠ []) (h : ∀ c ∈ l, isDecimal c) :
    isDecimalBody l = true := by
  obtain ⟨c, l, rfl⟩ := List.exists_cons_of_ne_nil hne
  have hspan : (c :: l).span isDecimal = (c :: l, []) := by
    rw [List.span_eq_takeWhile_dropWhile, List.takeWhile_eq_self_iff.2 h,
      List.dropWhile_eq_nil_iff.2 h]
  unfold isDecimalBody
  dsimp only
  rw [lower_ne_words (h c List.mem_cons_self), hspan]
  simp [isExponent]

/-- Decimal digits, a point and decimal digits are the body of a decimal numeral. -/
theorem isDecimalBody_point (hne : ds ≠ []) (hds : ∀ c ∈ ds, isDecimal c)
    (hfs : ∀ c ∈ fs, isDecimal c) : isDecimalBody (ds ++ '.' :: fs) = true := by
  obtain ⟨c, ds, rfl⟩ := List.exists_cons_of_ne_nil hne
  have hpoint : isDecimal '.' = false := by decide
  have hspan : (c :: ds ++ '.' :: fs).span isDecimal = (c :: ds, '.' :: fs) := by
    rw [List.span_eq_takeWhile_dropWhile, List.takeWhile_append_of_pos hds,
      List.dropWhile_append_of_pos hds]
    simp [hpoint]
  unfold isDecimalBody
  dsimp only
  rw [List.cons_append, lower_ne_words (hds c List.mem_cons_self), ← List.cons_append, hspan]
  have hlen : 0 < ds.length + 1 + fs.length := by omega
  simp [List.takeWhile_eq_self_iff.2 hfs, List.dropWhile_eq_nil_iff.2 hfs, isExponent, hlen]

/-- Decimal digits are a whole numeral up to `maxDigits` of them. -/
theorem isWhole_decimals (hne : l ≠ []) (h : ∀ c ∈ l, isDecimal c) :
    isWhole (String.ofList l) = decide (l.length ≤ maxDigits) := by
  obtain ⟨c, l, rfl⟩ := List.exists_cons_of_ne_nil hne
  have hc := h c List.mem_cons_self
  unfold isWhole
  rw [String.toList_ofList, trim_of_forall fun d hd => isEdgeBlank_of_isDecimal (h d hd),
    dropSign_cons hc, groupedDigits, if_pos hc,
    groupedDigits_go_of_decimals fun d hd => h d (List.mem_cons_of_mem c hd)]
  simp [Nat.add_comm]

theorem isDecimalNumeral_decimals (hne : l ≠ []) (h : ∀ c ∈ l, isDecimal c) :
    isDecimalNumeral (String.ofList l) = true := by
  obtain ⟨c, l', rfl⟩ := List.exists_cons_of_ne_nil hne
  have hu : ∀ d ∈ c :: l', d ≠ '_' := fun d hd => ne_of_isDecimal (h d hd) (by decide)
  unfold isDecimalNumeral
  dsimp only
  rw [String.toList_ofList, trim_of_forall fun d hd => isEdgeBlank_of_isDecimal (h d hd),
    underscoresBetweenDigits_of_forall_ne hu, List.filter_eq_self.2 (by simpa using hu),
    dropSign_cons (h c List.mem_cons_self), isDecimalBody_of_decimals hne h]
  rfl

/-- A numeral with a point is no whole numeral. -/
theorem isWhole_point (hds : ∀ c ∈ ds, isDecimal c) (hfs : ∀ c ∈ fs, isDecimal c) :
    isWhole (String.ofList (ds ++ '.' :: fs)) = false := by
  have hblank : ∀ d ∈ ds ++ '.' :: fs, isEdgeBlank d = false := by
    intro d hd
    rcases List.mem_append.1 hd with hd | hd
    · exact isEdgeBlank_of_isDecimal (hds d hd)
    rcases List.mem_cons.1 hd with rfl | hd
    · decide
    · exact isEdgeBlank_of_isDecimal (hfs d hd)
  have hsign : dropSign (ds ++ '.' :: fs) = ds ++ '.' :: fs := by
    cases ds with
    | nil => rfl
    | cons c ds => exact dropSign_cons (hds c List.mem_cons_self) _
  unfold isWhole
  rw [String.toList_ofList, trim_of_forall hblank, hsign]
  cases ds with
  | nil => rfl
  | cons c ds =>
    rw [List.cons_append, groupedDigits, if_pos (hds c List.mem_cons_self),
      groupedDigits_go_point fun d hd => hds d (List.mem_cons_of_mem c hd)]

theorem isDecimalNumeral_point (hne : ds ≠ []) (hds : ∀ c ∈ ds, isDecimal c)
    (hfs : ∀ c ∈ fs, isDecimal c) : isDecimalNumeral (String.ofList (ds ++ '.' :: fs)) = true := by
  obtain ⟨c, ds', rfl⟩ := List.exists_cons_of_ne_nil hne
  have hdigit : ∀ d ∈ c :: ds' ++ '.' :: fs, d = '.' ∨ isDecimal d := by
    intro d hd
    rcases List.mem_append.1 hd with hd | hd
    · exact .inr (hds d hd)
    rcases List.mem_cons.1 hd with rfl | hd
    · exact .inl rfl
    · exact .inr (hfs d hd)
  have hblank : ∀ d ∈ c :: ds' ++ '.' :: fs, isEdgeBlank d = false := fun d hd =>
    (hdigit d hd).elim (fun h => h ▸ by decide) isEdgeBlank_of_isDecimal
  have hu : ∀ d ∈ c :: ds' ++ '.' :: fs, d ≠ '_' := fun d hd =>
    (hdigit d hd).elim (fun h => h ▸ by decide) fun h => ne_of_isDecimal h (by decide)
  unfold isDecimalNumeral
  dsimp only
  rw [String.toList_ofList, trim_of_forall hblank, underscoresBetweenDigits_of_forall_ne hu,
    List.filter_eq_self.2 (by simpa using hu), List.cons_append,
    dropSign_cons (hds c List.mem_cons_self), ← List.cons_append, isDecimalBody_point hne hds hfs]
  rfl

end Numeral

end Text

/-! ### The types of lexemes -/

namespace SqlType

open Text.Numeral

/-- A text of characters that does not begin with a quote is typed by its readings as a
numeral. -/
theorem ofLiteral_chars {l : List Char} (hq : l.head? ≠ some '\'') :
    ofLiteral (l.map .char) =
      if isWhole (String.ofList l) then int else if isDecimalNumeral (String.ofList l) then float
      else unknown := by
  have hs : Str.toString? (l.map .char) = some (String.ofList l) := by
    simpa [Str.ofString] using Str.toString?_ofString (String.ofList l)
  have hhead : ((l.map CodePoint.char).head? == some (.char '\'')) = false := by
    cases l with
    | nil => rfl
    | cons c l => simpa using hq
  unfold ofLiteral
  rw [hhead, Bool.false_and, if_neg Bool.false_ne_true, hs]

theorem ofLiteral_decimals {l : List Char} (hne : l ≠ []) (h : ∀ c ∈ l, Text.isDecimal c) :
    ofLiteral (l.map .char) = if l.length ≤ maxDigits then int else float := by
  have hq : l.head? ≠ some '\'' := by
    obtain ⟨c, l, rfl⟩ := List.exists_cons_of_ne_nil hne
    simpa using Text.ne_of_isDecimal (h c List.mem_cons_self) (by decide)
  rw [ofLiteral_chars hq, isWhole_decimals hne h, isDecimalNumeral_decimals hne h]
  by_cases hlen : l.length ≤ maxDigits <;> simp [hlen]

theorem ofLiteral_point {ds fs : List Char} (hne : ds ≠ []) (hds : ∀ c ∈ ds, Text.isDecimal c)
    (hfs : ∀ c ∈ fs, Text.isDecimal c) : ofLiteral ((ds ++ '.' :: fs).map .char) = float := by
  have hq : (ds ++ '.' :: fs).head? ≠ some '\'' := by
    obtain ⟨c, ds, rfl⟩ := List.exists_cons_of_ne_nil hne
    simpa using Text.ne_of_isDecimal (hds c List.mem_cons_self) (by decide)
  rw [ofLiteral_chars hq, isWhole_point hds hfs, isDecimalNumeral_point hne hds hfs]
  rfl

theorem ofLiteral_quoted (body : Str) : ofLiteral (.char '\'' :: (body ++ [.char '\''])) = text := by
  have hlast : (CodePoint.char '\'' :: (body ++ [.char '\''])).getLast? = some (.char '\'') := by
    rw [← List.cons_append, List.getLast?_append]
    simp
  simp [ofLiteral, hlast]

end SqlType

/-- Whether every code point of the text is a decimal digit or a point: how a number reads
alike to the scanner and to the typing of literals. -/
def Str.inDecimalDigits (s : Str) : Bool :=
  s.all fun c => c.satisfies Text.isDecimal || c == .char '.'

/-- A text of code points of a class of characters is a text of characters. -/
theorem Str.exists_chars {s : Str} {p : Char → Bool} (h : ∀ c ∈ s, c.satisfies p) :
    ∃ l : List Char, s = l.map .char ∧ ∀ c ∈ l, p c := by
  induction s with
  | nil => exact ⟨[], rfl, nofun⟩
  | cons c s ih =>
    obtain ⟨l, rfl, hl⟩ := ih fun d hd => h d (List.mem_cons_of_mem c hd)
    cases c with
    | char c => exact ⟨c :: l, rfl, List.forall_mem_cons.2 ⟨h _ List.mem_cons_self, hl⟩⟩
    | surrogate k => exact absurd (h _ List.mem_cons_self) (by simp [CodePoint.satisfies])

/-- The digits of a text in decimal digits and points are decimal digits. -/
theorem Str.decimal_of_digits {s t : Str} (hdec : t.inDecimalDigits) (hst : ∀ c ∈ s, c ∈ t)
    (hs : ∀ c ∈ s, Scanner.isDigitCode c) : ∀ c ∈ s, c.satisfies Text.isDecimal := by
  intro c hc
  rcases Bool.or_eq_true_iff.1 (List.all_eq_true.1 hdec c (hst c hc)) with h | h
  · exact h
  · rw [beq_iff_eq] at h
    subst h
    exact absurd (hs _ hc) (by rw [Scanner.isDigitCode_point]; decide)

namespace Scanner

/-- A word is a reserved word or a name. -/
theorem wordKind_mem (w : Option String) :
    (w.bind TokenKind.ofReserved?).getD .identifier ∈ TokenKind.identifier :: TokenKind.reserved := by
  rcases h : w.bind TokenKind.ofReserved? with _ | k
  · exact List.mem_cons_self
  · obtain ⟨_, -, hk⟩ := Option.bind_eq_some_iff.1 h
    exact List.mem_cons_of_mem _ (List.mem_of_find?_eq_some hk)

theorem isValue_of_pairKind? {c : Char} {k : TokenKind} (h : pairKind? c = some k) :
    k.isValue = false := by
  unfold pairKind? at h
  split at h <;> cases h <;> rfl

theorem isValue_of_singleKind? {c : Char} {k : TokenKind} (h : singleKind? c = some k) :
    k.isValue = false := by
  unfold singleKind? at h
  split at h <;> cases h <;> rfl

namespace Lexeme

open Text.Numeral

variable {k : TokenKind} {lex : Str}

/-- The scanner makes tokens of the kinds with a name of their own. -/
theorem mem_named (h : Lexeme k lex) : k ∈ TokenKind.named := by
  cases h with
  | string | number | decimal => decide
  | word =>
    exact (by decide : ∀ k ∈ .identifier :: TokenKind.reserved, k ∈ TokenKind.named) _
      (wordKind_mem _)
  | pair hp =>
    unfold pairKind? at hp
    split at hp <;> cases hp <;> decide
  | single hp =>
    unfold singleKind? at hp
    split at hp <;> cases hp <;> decide

/-- The scanner makes no `NULL`: of the kinds of values, only those of literals. -/
theorem isLiteral_of_isValue (h : Lexeme k lex) (hk : k.isValue) : k.isLiteral := by
  cases h with
  | string | number | decimal => rfl
  | word =>
    exact (by decide : ∀ k ∈ .identifier :: TokenKind.reserved, k.isValue → k.isLiteral) _
      (wordKind_mem _) hk
  | pair hp => exact absurd hk (by rw [isValue_of_pairKind? hp]; decide)
  | single hp => exact absurd hk (by rw [isValue_of_singleKind? hp]; decide)

/-- A string is typed `TEXT`. -/
theorem ofLiteral_string (h : Lexeme k lex) (hk : k = .string) :
    SqlType.ofLiteral lex = .text := by
  cases h with
  | string => exact SqlType.ofLiteral_quoted _
  | number => cases hk
  | decimal => cases hk
  | word => exact absurd (hk ▸ wordKind_mem _) (by decide)
  | pair hp => exact absurd (hk ▸ isValue_of_pairKind? hp) (by decide)
  | single hp => exact absurd (hk ▸ isValue_of_singleKind? hp) (by decide)

/-- A number in decimal digits is typed `INT` up to `maxDigits` digits and `FLOAT` beyond. -/
theorem ofLiteral_number (h : Lexeme k lex) (hk : k = .number) (hdec : lex.inDecimalDigits) :
    SqlType.ofLiteral lex = if lex.length ≤ maxDigits then .int else .float := by
  cases h with
  | number _ hc hds =>
    obtain ⟨l, hl, hdecimal⟩ := Str.exists_chars
      (Str.decimal_of_digits hdec (fun _ => id) (List.forall_mem_cons.2 ⟨hc, hds⟩))
    have hne : l ≠ [] := by
      rintro rfl
      cases hl
    rw [hl, SqlType.ofLiteral_decimals hne hdecimal, List.length_map]
  | string => cases hk
  | decimal => cases hk
  | word => exact absurd (hk ▸ wordKind_mem _) (by decide)
  | pair hp => exact absurd (hk ▸ isValue_of_pairKind? hp) (by decide)
  | single hp => exact absurd (hk ▸ isValue_of_singleKind? hp) (by decide)

/-- A number with a point in decimal digits is typed `FLOAT`; the reserved word `FLOAT` is not
written in decimal digits. -/
theorem ofLiteral_float (h : Lexeme k lex) (hk : k = .float) (hdec : lex.inDecimalDigits) :
    SqlType.ofLiteral lex = .float := by
  cases h with
  | @decimal c ds fs _ hc hds hfs =>
    obtain ⟨l₁, hl₁, hd₁⟩ := Str.exists_chars (Str.decimal_of_digits hdec
      (fun _ hd => List.cons_subset_cons c (List.subset_append_left _ _) hd)
      (List.forall_mem_cons.2 ⟨hc, hds⟩))
    obtain ⟨l₂, hl₂, hd₂⟩ := Str.exists_chars (Str.decimal_of_digits hdec
      (fun _ hd => List.mem_cons_of_mem c (List.mem_append_right ds (List.mem_cons_of_mem _ hd)))
      hfs)
    have hne : l₁ ≠ [] := by
      rintro rfl
      cases hl₁
    have hlex : c :: (ds ++ .char '.' :: fs) = (l₁ ++ '.' :: l₂).map .char := by
      rw [List.map_append, List.map_cons, ← hl₁, ← hl₂]
      rfl
    rw [hlex, SqlType.ofLiteral_point hne hd₁ hd₂]
  | @word c ws _ hdigit hc _ =>
    -- the first code point of a word is a letter and no digit, so neither a digit nor a point
    have hfirst := Bool.or_eq_true_iff.1 (List.all_eq_true.1 hdec c List.mem_cons_self)
    rcases hfirst with hdecimal | hpoint
    · cases c with
      | char c =>
        exact absurd (Text.isDigit_of_isDecimal hdecimal) (by
          simp only [isDigitCode, CodePoint.satisfies] at hdigit
          simp [hdigit])
      | surrogate => cases hdecimal
    · rw [beq_iff_eq] at hpoint
      subst hpoint
      exact absurd hc (by decide +kernel)
  | string => cases hk
  | number => cases hk
  | pair hp => exact absurd (hk ▸ isValue_of_pairKind? hp) (by decide)
  | single hp => exact absurd (hk ▸ isValue_of_singleKind? hp) (by decide)

end Lexeme

end Scanner

/-- The type that the kind of a token gives its lexeme as a literal: `TEXT` for a string; for a
number written in decimal digits, `INT` up to `maxDigits` digits and `FLOAT` beyond; `FLOAT` for
a number with a point written in decimal digits. No type is given for the other kinds, for a
number with a digit that is no decimal digit (`²`, `①`), or for the reserved word `FLOAT`. -/
def Token.literalType? (t : Token) : Option SqlType :=
  match t.kind with
  | .string => some .text
  | .number =>
    if t.lexeme.inDecimalDigits then
      some (if t.lexeme.length ≤ Text.Numeral.maxDigits then .int else .float)
    else none
  | .float => if t.lexeme.inDecimalDigits then some .float else none
  | _ => none

example : Token.literalType? ⟨.number, "١٢", 1, 1⟩ = some .int ∧
    Token.literalType? ⟨.float, "1.", 1, 1⟩ = some .float ∧
    Token.literalType? ⟨.number, "²", 1, 1⟩ = none ∧ Token.literalType? ⟨.float, "FLOAT", 1, 1⟩ = none := by
  decide +kernel

/-- A scanned lexeme has the type its kind gives it. -/
theorem Scanner.Lexeme.ofLiteral_literalType? {t : Token} (h : Lexeme t.kind t.lexeme) :
    ∀ ty ∈ t.literalType?, SqlType.ofLiteral t.lexeme = ty := by
  intro ty hty
  unfold Token.literalType? at hty
  split at hty
  · next hk =>
    cases hty
    exact h.ofLiteral_string hk
  · next hk =>
    split at hty
    · next hdec =>
      cases hty
      exact h.ofLiteral_number hk hdec
    · cases hty
  · next hk =>
    split at hty
    · next hdec =>
      cases hty
      exact h.ofLiteral_float hk hdec
    · cases hty
  · cases hty

/-- The column types a literal token is written for: a string for `TEXT`; a number or a number
with a point, in decimal digits, for `FLOAT`; and a number of at most `maxDigits` decimal digits
for `INT`. -/
inductive Token.Fits : Token → SqlType → Prop
  | text {t : Token} : t.kind = .string → t.Fits .text
  | float {t : Token} : t.kind = .number ∨ t.kind = .float → t.lexeme.inDecimalDigits →
      t.Fits .float
  | int {t : Token} : t.kind = .number → t.lexeme.inDecimalDigits →
      t.lexeme.length ≤ Text.Numeral.maxDigits → t.Fits .int

/-- A column a token fits accepts the type its kind gives it. A `FLOAT` column takes a number of
either type, as its digits decide. -/
theorem Token.Fits.literalType? {t : Token} {ct : SqlType} (h : t.Fits ct) :
    ∃ ty ∈ t.literalType?, ct.accepts ty := by
  cases h with
  | text hk => exact ⟨.text, by simp [Token.literalType?, hk], rfl⟩
  | float hk hdec =>
    rcases hk with hk | hk
    · refine ⟨if t.lexeme.length ≤ Text.Numeral.maxDigits then .int else .float,
        by simp [Token.literalType?, hk, hdec], ?_⟩
      split <;> rfl
    · exact ⟨.float, by simp [Token.literalType?, hk, hdec], rfl⟩
  | int hk hdec hlen => exact ⟨.int, by simp [Token.literalType?, hk, hdec, hlen], rfl⟩

/-- A scanned lexeme is typed as a column its token fits accepts. -/
theorem Scanner.Lexeme.accepts_ofLiteral {t : Token} {ct : SqlType} (h : Lexeme t.kind t.lexeme)
    (hf : t.Fits ct) : ct.accepts (SqlType.ofLiteral t.lexeme) := by
  obtain ⟨ty, hty, hacc⟩ := hf.literalType?
  rw [h.ofLiteral_literalType? ty hty]
  exact hacc

/-- The kind of a token's terminal is the token's, for a kind with a name of its own. -/
theorem TokenKind.ofName_name {k : TokenKind} (h : k ∈ named) : ofName k.name = k :=
  (by decide +kernel : ∀ k ∈ named, ofName k.name = k) k h

theorem Token.kind?_toTerminal {t : Token} (h : t.kind ∈ TokenKind.named) :
    t.toTerminal.kind? = some t.kind := by
  simp [Token.toTerminal, Terminal.kind?, Str.toString?_ofString, TokenKind.ofName_name h]

/-! ### The literals a program is checked with -/

/-- The literals of a condition, but the placeholder of a missing operand. -/
def Cond.literals : Cond → List Datum
  | .binary _ l r _ => l.literals ++ r.literals
  | .not c => c.literals
  | .column _ _ => []
  | .literal .none _ => []
  | .literal v _ => [v]

/-- The literals a statement is checked with: the values it inserts or assigns, and the literals
of its condition. -/
def Stmt.literals : Stmt → List Datum
  | .create _ _ => []
  | .insert _ vals _ => vals
  | .select _ _ f _ => (f.map Cond.literals).getD []
  | .update _ assigns f _ => assigns.map Prod.snd ++ (f.map Cond.literals).getD []
  | .delete _ f _ => (f.map Cond.literals).getD []

/-- The literals of a program, statement by statement. -/
def Program.literals (p : Program) : List Datum := p.flatMap Stmt.literals

theorem Terminal.kindIs_mono {p q : TokenKind → Bool} (hpq : ∀ k, p k → q k) {t : Terminal}
    (h : t.kindIs p) : t.kindIs q := by
  obtain ⟨k, hk, hp⟩ := Parser.Terminal.kindIs_iff.1 h
  exact Parser.Terminal.kindIs_iff.2 ⟨k, hk, hpq k hp⟩

section ReadFrom

variable {R : Terminal → Prop}

theorem Cond.ReadFrom.literals {c : Cond} (h : c.ReadFrom R) :
    ∀ v ∈ c.literals, v.ReadFrom fun t => R t ∧ t.kindIs TokenKind.isLiteral := by
  induction c with
  | binary _ l r _ ihl ihr =>
    intro v hv
    rcases List.mem_append.1 hv with hv | hv
    · exact ihl h.1 v hv
    · exact ihr h.2 v hv
  | not c ih => exact ih h
  | column => nofun
  | literal u _ =>
    intro v hv
    -- the placeholder has no literal, and any other value is its own
    have hvu : v = u := by cases u <;> simp_all [Cond.literals]
    subst hvu
    rcases h with rfl | h
    · simp [Cond.literals] at hv
    · exact h

/-- Every literal of a statement read from `R` is read off a terminal of `R` of a value kind. -/
theorem Stmt.ReadFrom.literals {x : Stmt} (h : x.ReadFrom R) :
    ∀ v ∈ x.literals, v.ReadFrom fun t => R t ∧ t.kindIs TokenKind.isValue := by
  -- a literal of a condition is read off a terminal of a literal kind, which is a value kind
  have hcond : ∀ f : Option Cond, (∀ c ∈ f, c.ReadFrom R) →
      ∀ v ∈ (f.map Cond.literals).getD [], v.ReadFrom fun t => R t ∧ t.kindIs TokenKind.isValue := by
    rintro (_ | c) hf v hv
    · cases hv
    · obtain ⟨t, ⟨ht, hlit⟩, rfl⟩ := (hf c rfl).literals v hv
      exact ⟨t, ⟨ht, Terminal.kindIs_mono (fun k => by cases k <;> simp [TokenKind.isLiteral,
        TokenKind.isValue]) hlit⟩, rfl⟩
  cases x with
  | create => nofun
  | insert _ _ _ => exact h.2
  | select _ _ f _ => exact hcond f h.2.2
  | update _ assigns f _ =>
    intro v hv
    rcases List.mem_append.1 hv with hv | hv
    · obtain ⟨a, ha, rfl⟩ := List.mem_map.1 hv
      exact (h.2.1 a ha).2
    · exact hcond f h.2.2 v hv
  | delete _ f _ => exact hcond f h.2

end ReadFrom

/-- A text is among data whose class names and written forms show it. -/
theorem Datum.str_mem_of_written {ds : List Datum} {s : Str}
    (h : (ds.map fun d => (d.typeName, d.written)).contains ("str", s)) : Datum.str s ∈ ds := by
  induction ds with
  | nil => cases h
  | cons d ds ih =>
    simp only [List.map_cons, List.contains_cons, Bool.or_eq_true, beq_iff_eq] at h
    rcases h with h | h
    · have hd : d = .str s := by
        cases d <;> simp_all [Datum.typeName, Datum.written]
      exact hd ▸ List.mem_cons_self
    · exact List.mem_cons_of_mem d (ih h)

/-- Every literal of a program parsed from the tokens of a scan is the lexeme of a scanned token
of a literal kind. -/
theorem scanned_literal_token (s : Str) :
    ∀ v ∈ (parseTokens (scan s).tokens).program.literals, ∃ t ∈ (scan s).tokens,
      v = .str t.lexeme ∧ t.kind.isLiteral ∧ Scanner.Lexeme t.kind t.lexeme := by
  intro v hv
  obtain ⟨x, hx, hvx⟩ := List.mem_flatMap.1 hv
  -- the class of the terminals of the scanned tokens, with the end marker
  let R : Terminal → Prop := fun t => t = Terminal.endMarker ∨ ∃ u ∈ (scan s).tokens, t = u.toTerminal
  have hts : ∀ t ∈ (scan s).tokens.map Token.toTerminal, R t := by
    intro t ht
    obtain ⟨u, hu, rfl⟩ := List.mem_map.1 ht
    exact .inr ⟨u, hu, rfl⟩
  obtain ⟨t, ⟨ht, hvalue⟩, rfl⟩ := (parse_readFrom (Or.inl rfl) hts x hx).literals v hvx
  rcases ht with rfl | ⟨u, hu, rfl⟩
  · simp [Terminal.kindIs, TokenKind.isValue] at hvalue
  · have hlex := Scan.lexeme_of_mem_tokens s u hu
    have hk : u.kind.isValue := by
      simpa [Terminal.kindIs, Token.kind?_toTerminal hlex.mem_named] using hvalue
    exact ⟨u, hu, rfl, hlex.isLiteral_of_isValue hk, hlex⟩

/-- **Literals are typed as their tokens' kinds say.** Every literal of a program parsed from
the tokens of a scan is the lexeme of a scanned token of a literal kind, and has the type that
the kind gives it. -/
theorem scanned_literal_types (s : Str) :
    ∀ v ∈ (parseTokens (scan s).tokens).program.literals, ∃ t ∈ (scan s).tokens,
      v = .str t.lexeme ∧ t.kind.isLiteral ∧ ∀ ty ∈ t.literalType?, SqlType.ofLiteral t.lexeme = ty := by
  intro v hv
  obtain ⟨t, ht, rfl, hlit, hlex⟩ := scanned_literal_token s v hv
  exact ⟨t, ht, rfl, hlit, hlex.ofLiteral_literalType?⟩

/-- In `UPDATE t SET a = 1.5 WHERE b = 'x'`, the assigned `1.5` is a literal of the program. -/
theorem scanned_literal_types_update :
    Datum.str "1.5" ∈ (parseTokens (scan "UPDATE t SET a = 1.5 WHERE b = 'x'").tokens).program.literals ∧
      ∃ t ∈ (scan "UPDATE t SET a = 1.5 WHERE b = 'x'").tokens, Datum.str "1.5" = .str t.lexeme ∧
        t.kind.isLiteral ∧ ∀ ty ∈ t.literalType?, SqlType.ofLiteral t.lexeme = ty := by
  have hmem : Datum.str "1.5" ∈
      (parseTokens (scan "UPDATE t SET a = 1.5 WHERE b = 'x'").tokens).program.literals :=
    Datum.str_mem_of_written (by decide +kernel)
  exact ⟨hmem, scanned_literal_types _ _ hmem⟩

/-- **Scanned literals fit their columns.** A literal of a program parsed from the tokens of a scan
is typed, in any state of the analysis and without changing it, with a type that every column
its token fits accepts: a string goes into `TEXT`, a number or a number with a point into
`FLOAT`, and a number of at most `maxDigits` digits into `INT`. The check of each value of an
`INSERT` and each assignment of an `UPDATE` is this typing followed by `SqlType.accepts`, so it
reports no mismatch for such a literal in such a column. -/
theorem scanned_literals_fit (s : Str) :
    ∀ v ∈ (parseTokens (scan s).tokens).program.literals, ∃ t ∈ (scan s).tokens,
      v = .str t.lexeme ∧ ∀ ct, t.Fits ct → ∀ st : Analyzer,
        ∃ vt, (Check.valueType v).exec st = (.ok vt, st) ∧ ct.accepts vt = true := by
  intro v hv
  obtain ⟨t, ht, rfl, -, hlex⟩ := scanned_literal_token s v hv
  exact ⟨t, ht, rfl, fun ct hf st => ⟨_, rfl, hlex.accepts_ofLiteral hf⟩⟩

-- comparing the long lexeme with the scanned one recurses once per digit
set_option maxRecDepth 20000 in
/-- A number of more than `maxDigits` decimal digits, inserted into a column of a new table, is
a literal of the program, scanned as a number, and typed `FLOAT`: no whole numeral is read. -/
theorem scanned_long_number_typed_float :
    Datum.str (List.replicate 4301 (.char '1')) ∈ (parseTokens (scan
        (Str.ofString "CREATE TABLE t (x INT); INSERT INTO t VALUES (" ++
          List.replicate 4301 (.char '1') ++ Str.ofString ");")).tokens).program.literals ∧
      (⟨.number, List.replicate 4301 (.char '1'), 1, 47⟩ : Token) ∈ (scan
        (Str.ofString "CREATE TABLE t (x INT); INSERT INTO t VALUES (" ++
          List.replicate 4301 (.char '1') ++ Str.ofString ");")).tokens ∧
      SqlType.ofLiteral (List.replicate 4301 (.char '1')) = .float := by
  refine ⟨Datum.str_mem_of_written (by decide +kernel), by decide +kernel, ?_⟩
  have hdigits : ∀ c ∈ List.replicate 4301 '1', Text.isDecimal c := by
    intro c hc
    rw [List.eq_of_mem_replicate hc]
    decide
  have hne : List.replicate 4301 '1' ≠ [] :=
    List.ne_nil_of_length_pos (by rw [List.length_replicate]; decide)
  rw [← List.map_replicate, SqlType.ofLiteral_decimals hne hdigits, List.length_replicate,
    if_neg (by decide)]


end SqlFront
