import Mathlib.Data.List.TakeWhile
import SqlFront.Token.Scanner
/-!
# Printing the tokens and scanning them again

The lexemes of a scan, written one after another with a space between each two
(`Scan.printed`), scan back to the same tokens: with no error, of the same kinds and with the
same lexemes, in the same order, and so with the same identifiers (`scan_printed`). Only the
places of the tokens change.

A lexeme scans back to itself because the scanner takes each piece as far as it goes, and a
space goes on with none. Every lexeme the scanner makes has one of six shapes (`Lexeme`):

* a string: a quote, a body without quotes, and a quote;
* a number: a digit and more digits; a decimal: the same, a point and more digits;
* a word: a letter and what may continue a word, a reserved word or a name;
* a two-character operator, or a one-character operator or mark.

A number and a word also keep what the scanner found of their first code point before it took
them (no blank; for a word, no digit), since the scanner tries the kinds of piece in a fixed
order and the first that fits wins.

The proof has two step lemmas: `Lexeme.of_piece`, what the scanner yields is a lexeme of one of
the shapes, and `piece_lexeme`, a lexeme followed by a space or by nothing is read back whole as
a token of its kind. The run lemmas follow the scanner's recursion over a source
(`lexeme_of_mem_piecesFrom`) and over lexemes written apart (`piecesFrom_intercalate`).
-/

namespace SqlFront

namespace Scanner

/-- The lexemes of the scanner's tokens, by kind. -/
inductive Lexeme : TokenKind → Str → Prop where
  /-- A quote, a body without quotes, and a quote. -/
  | string {body : Str} (h : CodePoint.char '\'' ∉ body) :
      Lexeme .string (.char '\'' :: (body ++ [.char '\'']))
  /-- A digit that is no blank, and more digits. -/
  | number {c : CodePoint} {ds : Str} (hblank : c.satisfies Text.isBlank = false)
      (hc : isDigitCode c) (hds : ∀ d ∈ ds, isDigitCode d) : Lexeme .number (c :: ds)
  /-- A digit that is no blank, more digits, a point and more digits. -/
  | decimal {c : CodePoint} {ds fs : Str} (hblank : c.satisfies Text.isBlank = false)
      (hc : isDigitCode c) (hds : ∀ d ∈ ds, isDigitCode d) (hfs : ∀ f ∈ fs, isDigitCode f) :
      Lexeme .float (c :: (ds ++ .char '.' :: fs))
  /-- A letter that is no blank and no digit, and what may continue a word: a reserved word if
  the text is one, a name otherwise. -/
  | word {c : CodePoint} {ws : Str} (hblank : c.satisfies Text.isBlank = false)
      (hdigit : isDigitCode c = false) (hc : c.satisfies Text.isLetter)
      (hws : ∀ w ∈ ws, isWordTail w) :
      Lexeme (((Str.toString? (c :: ws)).bind TokenKind.ofReserved?).getD .identifier) (c :: ws)
  /-- A two-character operator. -/
  | pair {c : Char} {k : TokenKind} (h : pairKind? c = some k) : Lexeme k [.char c, .char '=']
  /-- A one-character operator or mark. -/
  | single {c : Char} {k : TokenKind} (h : singleKind? c = some k) : Lexeme k [.char c]

theorem Lexeme.exists_cons {k : TokenKind} {lex : Str} (h : Lexeme k lex) :
    ∃ c cs, lex = c :: cs := by
  cases h <;> exact ⟨_, _, rfl⟩

/-! ### The code points that end a piece -/

theorem isDigitCode_point : isDigitCode (.char '.') = false := by decide

theorem isDigitCode_space : isDigitCode (.char ' ') = false := by decide

theorem isWordTail_space : isWordTail (.char ' ') = false := by decide +kernel

theorem point_not_mem {ds : Str} (hds : ∀ d ∈ ds, isDigitCode d) : CodePoint.char '.' ∉ ds :=
  fun h => absurd (hds _ h) (by rw [isDigitCode_point]; decide)

theorem ne_marks_of_isDigitCode {c : CodePoint} (h : isDigitCode c) :
    c ≠ .char '-' ∧ c ≠ .char '#' ∧ c ≠ .char '\'' := by
  refine ⟨?_, ?_, ?_⟩ <;> (rintro rfl; revert h; decide)

theorem ne_marks_of_isLetter {c : CodePoint} (h : c.satisfies Text.isLetter) :
    c ≠ .char '-' ∧ c ≠ .char '#' ∧ c ≠ .char '\'' := by
  refine ⟨?_, ?_, ?_⟩ <;> (rintro rfl; revert h; decide +kernel)

/-- An operator is no blank, no digit and no letter, and opens no comment or string. -/
theorem plain_of_pairKind? {c : Char} {k : TokenKind} (h : pairKind? c = some k) :
    (Text.isBlank c = false ∧ Text.isDigit c = false ∧ Text.isLetter c = false) ∧
      c ≠ '-' ∧ c ≠ '#' ∧ c ≠ '\'' := by
  unfold pairKind? at h
  split at h <;> cases h <;> decide +kernel

/-- A one-character operator or mark is no blank, no digit and no letter, and opens no block
comment or string; `-` opens a line comment only before another `-`. -/
theorem plain_of_singleKind? {c : Char} {k : TokenKind} (h : singleKind? c = some k) :
    (Text.isBlank c = false ∧ Text.isDigit c = false ∧ Text.isLetter c = false) ∧
      c ≠ '#' ∧ c ≠ '\'' := by
  unfold singleKind? at h
  split at h <;> cases h <;> decide +kernel

/-! ### What the scanner yields is a lexeme -/

/-- The part of a number after its first digit: digits, or digits, a point and digits. -/
theorem numberTail_cases (cs : Str) :
    (∀ d ∈ numberTail cs, isDigitCode d) ∨
      ∃ ds fs, numberTail cs = ds ++ .char '.' :: fs ∧ (∀ d ∈ ds, isDigitCode d) ∧
        ∀ f ∈ fs, isDigitCode f := by
  unfold numberTail
  dsimp only
  split
  · exact .inr ⟨_, _, rfl, fun d hd => List.mem_takeWhile_imp hd,
      fun f hf => List.mem_takeWhile_imp hf⟩
  · exact .inl fun d hd => List.mem_takeWhile_imp hd

/-- A number is a decimal exactly when it has a point. -/
theorem Lexeme.of_number {c : CodePoint} (cs : Str) (hblank : c.satisfies Text.isBlank = false)
    (hc : isDigitCode c) :
    Lexeme (if (numberTail cs).contains (.char '.') then .float else .number)
      (c :: numberTail cs) := by
  rcases numberTail_cases cs with hds | ⟨ds, fs, heq, hds, hfs⟩
  · have hno : (numberTail cs).contains (.char '.') = false := by
      simpa using point_not_mem hds
    rw [hno]
    exact .number hblank hc hds
  · rw [heq]
    simp only [List.contains_append, List.contains_cons, BEq.rfl, Bool.true_or, Bool.or_true,
      if_true]
    exact .decimal hblank hc hds hfs

/-- **Step lemma.** A token that the scanner yields has a lexeme of its kind. -/
theorem Lexeme.of_piece {c : CodePoint} {cs : Str} {p : Pos} {t : Token}
    (h : (piece c cs p).1 = .token t) : Lexeme t.kind t.lexeme := by
  -- the branches of `piece` in order; those that skip or report yield no token
  unfold piece at h
  split at h
  · cases h
  split at h
  · cases h
  split at h
  · split at h <;> cases h
  split at h
  · next hq =>
    subst hq
    split at h
    · next i hi =>
      cases h
      -- the string ends at the first quote after the opening one
      obtain ⟨hlt, hget, hbefore⟩ := List.findIdx?_eq_some_iff_getElem.1 hi
      have htake : cs.take (i + 1) = cs.take i ++ [.char '\''] := by
        simp only [decide_eq_true_eq] at hget
        rw [List.take_add_one, List.getElem?_eq_getElem hlt, hget]
        rfl
      show Lexeme .string (.char '\'' :: cs.take (i + 1))
      rw [htake]
      refine .string fun hmem => ?_
      obtain ⟨j, hj, hjeq⟩ := List.mem_iff_getElem.1 hmem
      rw [List.length_take] at hj
      have := hbefore j (by omega)
      simp [← hjeq] at this
    · cases h
  split at h
  · next hblank _ _ _ hdigit =>
    cases h
    exact Lexeme.of_number cs (by simpa using hblank) hdigit
  split at h
  · next hblank _ _ _ hdigit hletter =>
    cases h
    exact .word (by simpa using hblank) (by simpa using hdigit) hletter
      fun w hw => List.mem_takeWhile_imp hw
  split at h
  · next k hk hd =>
    cases h
    cases c with
    | char c => exact .pair hk
    | surrogate _ => cases hk
  · split at h
    · next k hk =>
      cases h
      cases c with
      | char c => exact .single hk
      | surrogate _ => cases hk
    · cases h

/-- **Run lemma.** Every token of a scan has a lexeme of its kind. -/
theorem lexeme_of_mem_piecesFrom (cs : Str) (p : Pos) (acc : Array Piece)
    (hacc : ∀ t, Piece.token t ∈ acc → Lexeme t.kind t.lexeme) :
    ∀ t, Piece.token t ∈ piecesFrom cs p acc → Lexeme t.kind t.lexeme := by
  match cs with
  | [] => rw [piecesFrom]; exact hacc
  | c :: rest =>
    rw [piecesFrom]
    rcases hp : piece c rest p with ⟨x, n⟩
    dsimp only
    refine lexeme_of_mem_piecesFrom _ _ _ fun t ht => ?_
    split at ht
    · exact hacc t ht
    · rcases Array.mem_push.1 ht with ht | rfl
      · exact hacc t ht
      · exact Lexeme.of_piece (by rw [hp])
termination_by cs.length

/-! ### A lexeme is read back whole -/

section Rescan

variable {rest : Str} (hrest : ∀ b ∈ rest.head?, b = .char ' ')
include hrest

theorem takeWhile_of_space {q : CodePoint → Bool} (hq : q (.char ' ') = false) :
    rest.takeWhile q = [] := by
  cases rest with
  | nil => rfl
  | cons b r =>
    rw [hrest b rfl]
    simp [hq]

theorem numberTail_digits {ds : Str} (hds : ∀ d ∈ ds, isDigitCode d) :
    numberTail (ds ++ rest) = ds := by
  unfold numberTail
  dsimp only
  rw [List.takeWhile_append_of_pos hds, takeWhile_of_space hrest isDigitCode_space,
    List.append_nil, List.drop_left]
  cases rest with
  | nil => rfl
  | cons b r => rw [hrest b rfl]; rfl

theorem numberTail_decimal {ds fs : Str} (hds : ∀ d ∈ ds, isDigitCode d)
    (hfs : ∀ f ∈ fs, isDigitCode f) :
    numberTail (ds ++ .char '.' :: (fs ++ rest)) = ds ++ .char '.' :: fs := by
  unfold numberTail
  dsimp only
  rw [List.takeWhile_append_of_pos hds,
    List.takeWhile_cons_of_neg (by simp [isDigitCode_point]), List.append_nil, List.drop_left]
  split
  · next r hr =>
    cases hr
    rw [List.takeWhile_append_of_pos hfs, takeWhile_of_space hrest isDigitCode_space,
      List.append_nil]
  · next hr => exact absurd rfl (hr _)

/-- **Step lemma.** A lexeme followed by a space, or by nothing, is read as the token of its
kind, and nothing after it is taken. -/
theorem piece_lexeme {k : TokenKind} {c : CodePoint} {cs : Str} (h : Lexeme k (c :: cs))
    (p : Pos) : piece c (cs ++ rest) p = (.token (tokenAt k (c :: cs) p), cs.length) := by
  cases h with
  | @string body hbody =>
    have hnone : body.findIdx? (· = CodePoint.char '\'') = none :=
      List.findIdx?_eq_none_iff.2 fun x hx => decide_eq_false fun h => hbody (h ▸ hx)
    have hquote : CodePoint.satisfies Text.isBlank (.char '\'') = false := by decide
    simp [piece, hnone, hquote, List.findIdx?_cons, List.take_length_add_append]
  | number hblank hc hds =>
    obtain ⟨hdash, hhash, hquote⟩ := ne_marks_of_isDigitCode hc
    simp [piece, hblank, hc, hdash, hhash, hquote, numberTail_digits hrest hds,
      point_not_mem hds]
  | decimal hblank hc hds hfs =>
    obtain ⟨hdash, hhash, hquote⟩ := ne_marks_of_isDigitCode hc
    simp [piece, hblank, hc, hdash, hhash, hquote, numberTail_decimal hrest hds hfs]
  | word hblank hdigit hc hws =>
    obtain ⟨hdash, hhash, hquote⟩ := ne_marks_of_isLetter hc
    simp [piece, hblank, hdigit, hc, hdash, hhash, hquote,
      List.takeWhile_append_of_pos hws, takeWhile_of_space hrest isWordTail_space]
  | pair hk =>
    obtain ⟨⟨hb, hd, hl⟩, hdash, hhash, hquote⟩ := plain_of_pairKind? hk
    simp [piece, CodePoint.satisfies, isDigitCode, CodePoint.char?, hb, hd, hl, hdash, hhash,
      hquote, hk]
  | single hk =>
    -- whether the mark opens a comment or a two-character operator depends on what follows
    obtain ⟨⟨hb, hd, hl⟩, hhash, hquote⟩ := plain_of_singleKind? hk
    obtain rfl | ⟨r, rfl⟩ : rest = [] ∨ ∃ r, rest = .char ' ' :: r := by
      cases rest with
      | nil => exact .inl rfl
      | cons b r => exact .inr ⟨r, by rw [hrest b rfl]⟩
    all_goals simp [piece, CodePoint.satisfies, isDigitCode, CodePoint.char?, hb, hd, hl, hhash,
      hquote, hk]

/-- The scan over a lexeme yields the lexeme's token and goes on after it. -/
theorem piecesFrom_lexeme {k : TokenKind} {lex : Str} (h : Lexeme k lex) (p : Pos)
    (acc : Array Piece) :
    piecesFrom (lex ++ rest) p acc =
      piecesFrom rest (p.skip lex) (acc.push (.token (tokenAt k lex p))) := by
  obtain ⟨c, cs, rfl⟩ := h.exists_cons
  rw [List.cons_append, piecesFrom, piece_lexeme hrest h]
  simp

end Rescan

/-- The scan over a space yields nothing. -/
theorem piecesFrom_space (rest : Str) (p : Pos) (acc : Array Piece) :
    piecesFrom (.char ' ' :: rest) p acc = piecesFrom rest (p.next (.char ' ')) acc := by
  have hblank : CodePoint.satisfies Text.isBlank (.char ' ') = true := by decide
  rw [piecesFrom]
  simp [piece, hblank]

end Scanner

/-- The kind and lexeme of a token, without its place. -/
def Token.spelling (t : Token) : TokenKind × Str := (t.kind, t.lexeme)

/-- **Run lemma.** Lexemes scanned one after another with a space between each two yield one
token for each, with its kind and lexeme, and nothing else. -/
theorem Scanner.piecesFrom_intercalate (ts : List Token)
    (h : ∀ t ∈ ts, Scanner.Lexeme t.kind t.lexeme) (p : Pos) (acc : Array Piece) :
    ∃ us : List Token,
      (Scanner.piecesFrom ((Str.ofString " ").intercalate (ts.map (·.lexeme))) p acc).toList =
        acc.toList ++ us.map .token ∧ us.map Token.spelling = ts.map Token.spelling := by
  induction ts generalizing p acc with
  | nil => exact ⟨[], by simp [Scanner.piecesFrom], rfl⟩
  | cons t ts ih =>
    have ht := h t List.mem_cons_self
    cases ts with
    | nil =>
      refine ⟨[Scanner.tokenAt t.kind t.lexeme p], ?_, rfl⟩
      have := @Scanner.piecesFrom_lexeme [] (fun _ hb => by cases hb) _ _ ht p acc
      rw [List.append_nil] at this
      simp [this, Scanner.piecesFrom]
    | cons t' ts =>
      -- the first lexeme, the space after it, then the others from where they begin
      obtain ⟨us, hus, hsp⟩ := ih (fun u hu => h u (List.mem_cons_of_mem _ hu))
        ((p.skip t.lexeme).next (.char ' '))
        (acc.push (.token (Scanner.tokenAt t.kind t.lexeme p)))
      refine ⟨Scanner.tokenAt t.kind t.lexeme p :: us, ?_, ?_⟩
      · have hsep : Str.ofString " " = [.char ' '] := rfl
        rw [hsep, List.map_cons] at hus
        rw [hsep, List.map_cons, List.map_cons, List.intercalate_cons_cons, List.append_assoc,
          Scanner.piecesFrom_lexeme (fun b hb => by cases hb; rfl) ht, List.singleton_append,
          Scanner.piecesFrom_space, hus]
        simp
      · simp [hsp, Token.spelling, Scanner.tokenAt]

/-- The lexemes of the scan's tokens, in order, with one space between each two. -/
def Scan.printed (s : Scan) : Str := (Str.ofString " ").intercalate (s.tokens.map (·.lexeme))

namespace Scan

theorem lexeme_of_mem_tokens (s : Str) :
    ∀ t ∈ (scan s).tokens, Scanner.Lexeme t.kind t.lexeme := by
  intro t ht
  obtain ⟨x, hx, hxt⟩ := List.mem_filterMap.1 ht
  cases x with
  | token u =>
    cases hxt
    exact Scanner.lexeme_of_mem_piecesFrom s _ _ (by simp) t (Array.mem_toList_iff.1 hx)
  | error e => cases hxt
  | skipped => cases hxt

/-- Which identifiers come first depends on the kinds and lexemes of the tokens alone. -/
theorem names_firstOccurrences {ts us : List Token}
    (h : ts.map Token.spelling = us.map Token.spelling) (seen : List Str) {acc acc' : Array Symbol}
    (hacc : acc.toList.map (·.name) = acc'.toList.map (·.name)) :
    (firstOccurrences ts seen acc).toList.map (·.name) =
      (firstOccurrences us seen acc').toList.map (·.name) := by
  induction ts generalizing us seen acc acc' with
  | nil =>
    cases us with
    | nil => simpa [firstOccurrences] using hacc
    | cons _ _ => cases h
  | cons t ts ih =>
    cases us with
    | nil => cases h
    | cons u us =>
      simp only [List.map_cons, List.cons.injEq, Token.spelling, Prod.mk.injEq] at h
      obtain ⟨⟨hk, hl⟩, h⟩ := h
      simp only [firstOccurrences, hk, hl]
      split
      · exact ih h _ (by simp [hacc])
      · exact ih h _ hacc

end Scan

/-- **Printing the tokens and scanning them again gives them back.** The lexemes of a scan,
written one after another with a space between each two, scan with no error to tokens of the
same kinds and lexemes in the same order, with the same identifiers in the same order. -/
theorem scan_printed (s : Str) :
    (scan (scan s).printed).errors = [] ∧
      (scan (scan s).printed).tokens.map Token.spelling = (scan s).tokens.map Token.spelling ∧
      (scan (scan s).printed).symbols.map (·.name) = (scan s).symbols.map (·.name) := by
  obtain ⟨us, hus, hsp⟩ :=
    Scanner.piecesFrom_intercalate (scan s).tokens (Scan.lexeme_of_mem_tokens s) Pos.start #[]
  have hpieces : (scan (scan s).printed).pieces.toList = us.map .token := by
    simpa [scan, Scan.printed] using hus
  have htokens : (scan (scan s).printed).tokens = us := by
    rw [Scan.tokens, hpieces, List.filterMap_map]
    exact List.filterMap_some
  refine ⟨by simp [Scan.errors, hpieces, List.filterMap_map], by rw [htokens, hsp], ?_⟩
  simp only [Scan.symbols, htokens]
  exact Scan.names_firstOccurrences hsp [] rfl

end SqlFront
