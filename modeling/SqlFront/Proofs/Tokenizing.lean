import SqlFront.Token.Lexer
import Mathlib.Logic.Function.Iterate
import SqlFront.Proofs.Unclosed
/-!
# The loop over a cursor reads what the scan reads

The lexer (`Lexer.tokenize`) moves a cursor through a fixed source, one turn of its main loop at
a time; the scanner (`scan`) reads the text still to read, one piece at a time. They read the
same source the same way: the lexer ends at the end of the source, with the tokens and the
errors of the scan, in order, and with the symbol table that the tokens of the scan give when
each identifier is recorded in turn (`tokenize_eq_replay`).

The proof describes each of the lexer's readers by the text after the cursor: what it consumes
and what it records (`readWhile_eq`, `readDigits_false`, `skipBlock_eq`, `readString_eq`,
`readWord_eq`, `readOperator_of_no_pair`). A turn of the main loop is then the blanks
before the cursor, each a piece the scan skips, and one piece of the scan (`dispatch_eq_piece`,
`step_eq`). The run lemma `loop_eq_replay` follows the main loop's own recursion: what is left
for the loop after a turn is what is left for the scan after the pieces of that turn. The same
recursion counts the turns (`loop_eq_iterate`): there are at most as many as code points, and
each starts before the end of the source (`tokenize_progress`).
-/

namespace SqlFront

/-- Record a token in a symbol table: the symbol of an identifier goes in unless its name is a
key already; any other token leaves the table as it is. -/
def Symbol.registerToken (table : List Symbol) (t : Token) : List Symbol :=
  if t.kind = .identifier then Symbol.register table t.symbol else table

/-- The token a piece yields, if it yields one. -/
def Piece.token? : Piece → Option Token
  | .token t => some t
  | _ => none

/-- The error a piece yields, if it yields one. -/
def Piece.error? : Piece → Option LexError
  | .error e => some e
  | _ => none

/-- A reserved word has a kind of its own. -/
theorem ofReserved?_ne_identifier {w : Str} {k : TokenKind}
    (h : (Str.toString? w).bind TokenKind.ofReserved? = some k) : k ≠ .identifier := by
  obtain ⟨w', -, hw⟩ := Option.bind_eq_some_iff.1 h
  have hk : k ∈ TokenKind.reserved := List.mem_of_find?_eq_some hw
  rintro rfl
  revert hk
  decide

theorem pairKind?_ne_identifier {c : CodePoint} {k : TokenKind}
    (h : c.char?.bind Scanner.pairKind? = some k) : k ≠ .identifier := by
  obtain ⟨ch, -, hk⟩ := Option.bind_eq_some_iff.1 h
  unfold Scanner.pairKind? at hk
  split at hk <;> cases hk <;> decide

theorem singleKind?_ne_identifier {c : CodePoint} {k : TokenKind}
    (h : c.char?.bind Scanner.singleKind? = some k) : k ≠ .identifier := by
  obtain ⟨ch, -, hk⟩ := Option.bind_eq_some_iff.1 h
  unfold Scanner.singleKind? at hk
  split at hk <;> cases hk <;> decide

theorem Scan.tokens_eq (sc : Scan) : sc.tokens = sc.pieces.toList.filterMap Piece.token? := rfl

theorem Scan.errors_eq (sc : Scan) : sc.errors = sc.pieces.toList.filterMap Piece.error? := rfl

namespace Lexer

/-! ### Moving past a text -/

/-- The state moved past the text `cs`: the cursor by its length and the place past its code
points, with nothing else changed. -/
def pass (st : Lexer) (cs : Str) : Lexer :=
  { st with position := st.position + cs.length, place := st.place.skip cs }

@[simp] theorem pass_nil (st : Lexer) : st.pass [] = st := rfl

@[simp] theorem pass_position (st : Lexer) (cs : Str) :
    (st.pass cs).position = st.position + cs.length := rfl

@[simp] theorem pass_place (st : Lexer) (cs : Str) : (st.pass cs).place = st.place.skip cs := rfl

@[simp] theorem pass_tokens (st : Lexer) (cs : Str) : (st.pass cs).tokens = st.tokens := rfl

@[simp] theorem pass_symbolTable (st : Lexer) (cs : Str) :
    (st.pass cs).symbolTable = st.symbolTable := rfl

@[simp] theorem pass_errors (st : Lexer) (cs : Str) : (st.pass cs).errors = st.errors := rfl

theorem pass_append (st : Lexer) (as bs : Str) : st.pass (as ++ bs) = (st.pass as).pass bs := by
  simp only [pass, List.length_append, Pos.skip_append, Nat.add_assoc]

/-! ### Recording what a piece yields -/

/-- Record what a piece of the scan yields: a token goes after the tokens and into the symbol
table, an error goes after the errors. -/
def record (st : Lexer) : Piece → Lexer
  | .token t =>
    { st with
      tokens := st.tokens ++ [t]
      symbolTable := Symbol.registerToken st.symbolTable t }
  | .error e => { st with errors := st.errors ++ [e] }
  | .skipped => st

/-- Record what the pieces `ps` yield, in order. -/
def replay (st : Lexer) (ps : List Piece) : Lexer := ps.foldl record st

@[simp] theorem replay_nil (st : Lexer) : st.replay [] = st := rfl

theorem replay_append (st : Lexer) (ps qs : List Piece) :
    st.replay (ps ++ qs) = (st.replay ps).replay qs := by
  simp only [replay, List.foldl_append]

@[simp] theorem record_position_eq (st : Lexer) (x : Piece) : (st.record x).position = st.position := by
  cases x <;> rfl

@[simp] theorem record_place_eq (st : Lexer) (x : Piece) : (st.record x).place = st.place := by
  cases x <;> rfl

/-- Recording and moving touch different parts of the state. -/
theorem record_pass (st : Lexer) (cs : Str) (x : Piece) :
    (st.pass cs).record x = (st.record x).pass cs := by
  cases x <;> rfl

theorem replay_pass (st : Lexer) (cs : Str) (ps : List Piece) :
    (st.pass cs).replay ps = (st.replay ps).pass cs := by
  induction ps generalizing st with
  | nil => rfl
  | cons x ps ih =>
    show ((st.pass cs).record x).replay ps = _
    rw [record_pass, ih]
    rfl

@[simp] theorem replay_position (st : Lexer) (ps : List Piece) :
    (st.replay ps).position = st.position := by
  induction ps generalizing st with
  | nil => rfl
  | cons x ps ih => cases x <;> exact ih _

@[simp] theorem replay_place (st : Lexer) (ps : List Piece) :
    (st.replay ps).place = st.place := by
  induction ps generalizing st with
  | nil => rfl
  | cons x ps ih => cases x <;> exact ih _

theorem replay_tokens (st : Lexer) (ps : List Piece) :
    (st.replay ps).tokens = st.tokens ++ ps.filterMap Piece.token? := by
  induction ps generalizing st with
  | nil => simp
  | cons x ps ih =>
    show ((st.record x).replay ps).tokens = _
    rw [ih]
    cases x <;> simp [record, Piece.token?, List.filterMap_cons]

theorem replay_errors (st : Lexer) (ps : List Piece) :
    (st.replay ps).errors = st.errors ++ ps.filterMap Piece.error? := by
  induction ps generalizing st with
  | nil => simp
  | cons x ps ih =>
    show ((st.record x).replay ps).errors = _
    rw [ih]
    cases x <;> simp [record, Piece.error?, List.filterMap_cons]

theorem replay_symbolTable (st : Lexer) (ps : List Piece) :
    (st.replay ps).symbolTable =
      (ps.filterMap Piece.token?).foldl Symbol.registerToken st.symbolTable := by
  induction ps generalizing st with
  | nil => rfl
  | cons x ps ih =>
    show ((st.record x).replay ps).symbolTable = _
    rw [ih]
    cases x <;> simp [record, Piece.token?, List.filterMap_cons]

section Source

variable (s : Str)

/-- The code point at the cursor, the one after it and the text after that, read off the text
from the cursor on. -/
theorem getElem?_of_drop {k : Nat} {c : CodePoint} {cs : Str} (h : s.drop k = c :: cs) :
    s[k]? = some c ∧ s[k + 1]? = cs.head? ∧ s.drop (k + 1) = cs := by
  have hk : k < s.length := by
    have := congrArg List.length h
    simp only [List.length_drop, List.length_cons] at this
    omega
  rw [List.drop_eq_getElem_cons hk, List.cons.injEq] at h
  obtain ⟨hc, hcs⟩ := h
  exact ⟨by rw [List.getElem?_eq_getElem hk, hc], by rw [← hcs, List.head?_drop], hcs⟩

theorem advance_of_drop {st : Lexer} {c : CodePoint} {cs : Str}
    (h : s.drop st.position = c :: cs) : advance s st = st.pass [c] := by
  rw [advance_of_getElem? s (getElem?_of_drop s h).1]
  rfl

/-- After the text `cs`, what is left from the cursor is what is left after `cs`. -/
theorem drop_pass {st : Lexer} {cs rest : Str} (h : s.drop st.position = cs ++ rest) :
    s.drop (st.pass cs).position = rest := by
  rw [pass_position, ← List.drop_drop, h, List.drop_left]

/-! ### The readers -/

/-- The loop over a class consumes the longest run of the class after the cursor. -/
theorem readWhile_eq (q : CodePoint → Bool) :
    ∀ (cs : Str) (st : Lexer), s.drop st.position = cs →
      readWhile s q st = (cs.takeWhile q, st.pass (cs.takeWhile q))
  | [], st, h => by
    rw [readWhile]
    split
    · next c hc =>
      have := (List.getElem?_eq_some_iff.1 hc).1
      rw [List.drop_eq_nil_iff] at h
      omega
    · rfl
  | c :: cs, st, h => by
    obtain ⟨hget, -, hdrop⟩ := getElem?_of_drop s h
    rw [readWhile]
    split
    · next c' hc' =>
      obtain rfl : c' = c := Option.some.inj (hc'.symm.trans hget)
      by_cases hq : q c'
      · have hnext : s.drop (advance s st).position = cs := by
          rw [advance_of_drop s h]
          exact hdrop
        rw [if_pos hq, List.takeWhile_cons_of_pos hq, readWhile_eq q cs (advance s st) hnext,
          advance_of_drop s h, ← pass_append]
        rfl
      · rw [if_neg hq, List.takeWhile_cons_of_neg hq]
        rfl
    · next hc' => rw [hget] at hc'; cases hc'

/-- A number's loop once a point is read takes the digits after the cursor. -/
theorem readDigits_true :
    ∀ (cs : Str) (st : Lexer), s.drop st.position = cs →
      readDigits s true st =
        (cs.takeWhile Scanner.isDigitCode, true, st.pass (cs.takeWhile Scanner.isDigitCode))
  | [], st, h => by
    rw [readDigits]
    split
    · next c hc =>
      have := (List.getElem?_eq_some_iff.1 hc).1
      rw [List.drop_eq_nil_iff] at h
      omega
    · rfl
  | c :: cs, st, h => by
    obtain ⟨hget, -, hdrop⟩ := getElem?_of_drop s h
    rw [readDigits]
    split
    · next c' hc' =>
      obtain rfl : c' = c := Option.some.inj (hc'.symm.trans hget)
      by_cases hdigit : Scanner.isDigitCode c'
      · -- a digit is no point, and the loop goes on past it
        have hpoint : c' ≠ .char '.' := by rintro rfl; cases hdigit
        have hnext : s.drop (advance s st).position = cs := by
          rw [advance_of_drop s h]
          exact hdrop
        rw [if_pos (by simp [hdigit]), if_neg (by simp [hpoint]), Bool.true_or,
          readDigits_true cs (advance s st) hnext, List.takeWhile_cons_of_pos hdigit,
          advance_of_drop s h, ← pass_append]
        rfl
      · rw [List.takeWhile_cons_of_neg hdigit]
        by_cases hpoint : c' = .char '.'
        · rw [if_pos (by simp [hpoint]), if_pos (by simp [hpoint])]
          rfl
        · rw [if_neg (by simp [hdigit, hpoint])]
          rfl
    · next hc' => rw [hget] at hc'; cases hc'

/-- A number read from the scanner's side: a digit and the number after it, or a point and the
digits after it, or nothing. -/
theorem numberTail_cons (c : CodePoint) (cs : Str) :
    Scanner.numberTail (c :: cs) =
      if Scanner.isDigitCode c then c :: Scanner.numberTail cs
      else if c = .char '.' then .char '.' :: cs.takeWhile Scanner.isDigitCode
      else [] := by
  by_cases hdigit : Scanner.isDigitCode c
  · rw [if_pos hdigit, Scanner.numberTail, Scanner.numberTail,
      List.takeWhile_cons_of_pos hdigit, List.length_cons, List.drop_succ_cons]
    split <;> rfl
  · rw [if_neg hdigit, Scanner.numberTail,
      List.takeWhile_cons_of_neg hdigit, List.length_nil, List.drop_zero]
    by_cases hpoint : c = .char '.'
    · rw [if_pos hpoint, hpoint]
      rfl
    · rw [if_neg hpoint]
      split
      · next rest h => exact absurd (List.cons.inj h).1 hpoint
      · rfl

/-- A number's loop from the start takes what the scanner takes as a number: digits, and at most
one point and the digits after it. -/
theorem readDigits_false :
    ∀ (cs : Str) (st : Lexer), s.drop st.position = cs →
      readDigits s false st =
        (Scanner.numberTail cs, (Scanner.numberTail cs).contains (.char '.'),
          st.pass (Scanner.numberTail cs))
  | [], st, h => by
    rw [readDigits]
    split
    · next c hc =>
      have := (List.getElem?_eq_some_iff.1 hc).1
      rw [List.drop_eq_nil_iff] at h
      omega
    · rfl
  | c :: cs, st, h => by
    obtain ⟨hget, -, hdrop⟩ := getElem?_of_drop s h
    have hnext : s.drop (advance s st).position = cs := by
      rw [advance_of_drop s h]
      exact hdrop
    rw [readDigits, numberTail_cons]
    split
    · next c' hc' =>
      obtain rfl : c' = c := Option.some.inj (hc'.symm.trans hget)
      by_cases hdigit : Scanner.isDigitCode c'
      · have hpoint : c' ≠ .char '.' := by rintro rfl; cases hdigit
        have hread : (false || decide (c' = .char '.')) = false := by simp [hpoint]
        rw [if_pos (by simp [hdigit]), if_neg (by simp [hpoint]), if_pos hdigit, hread,
          readDigits_false cs (advance s st) hnext,
          advance_of_drop s h, ← pass_append]
        simp [Ne.symm hpoint]
      · rw [if_neg hdigit]
        by_cases hpoint : c' = .char '.'
        · -- the point is taken, and then the digits after it
          subst hpoint
          have hread : decide (CodePoint.char '.' = .char '.') = true := decide_eq_true rfl
          rw [if_pos (by simp), if_neg (by simp), if_pos rfl, Bool.false_or, hread,
            readDigits_true s cs (advance s st) hnext, advance_of_drop s h, ← pass_append]
          simp
        · rw [if_neg (by simp [hdigit, hpoint]), if_neg hpoint]
          rfl
    · next hc' => rw [hget] at hc'; cases hc'

/-- A block comment's loop takes the text after the cursor up to and including its first `##`;
without one, it takes the rest and reports the comment unclosed. -/
theorem skipBlock_eq (line : Nat) :
    ∀ (cs : Str) (st : Lexer), s.drop st.position = cs →
      skipBlock s line st = match Scanner.closingMark? cs with
        | some i => st.pass (cs.take (i + 2))
        | none => { st.pass cs with errors := st.errors ++ [.unclosedComment line] }
  | [], st, h => by
    rw [skipBlock]
    split
    · next c hc =>
      have := (List.getElem?_eq_some_iff.1 hc).1
      rw [List.drop_eq_nil_iff] at h
      omega
    · rfl
  | c :: cs, st, h => by
    obtain ⟨hget, hsecond, hdrop⟩ := getElem?_of_drop s h
    have hnext : s.drop (advance s st).position = cs := by
      rw [advance_of_drop s h]
      exact hdrop
    rw [skipBlock]
    split
    · next c' hc' =>
      obtain rfl : c' = c := Option.some.inj (hc'.symm.trans hget)
      by_cases hmark : c' = .char '#' ∧ cs.head? = some (.char '#')
      · -- the first `##` begins at the cursor
        obtain ⟨rfl, hd⟩ := hmark
        obtain ⟨r, rfl⟩ := List.head?_eq_some_iff.1 hd
        rw [if_pos (by simp [hsecond]), advance_of_drop s h,
          advance_of_drop s (drop_pass s (h.trans (List.singleton_append).symm)), ← pass_append]
        rfl
      · -- no `##` begins at the cursor, and the loop goes on after it
        have hstep : Scanner.closingMark? (c' :: cs) = (Scanner.closingMark? cs).map (· + 1) := by
          rw [Scanner.closingMark?.eq_2]
          rintro rest rfl hb
          exact hmark ⟨rfl, by rw [hb]; rfl⟩
        rw [if_neg (by simpa [hsecond] using hmark), hstep, skipBlock_eq line cs _ hnext,
          advance_of_drop s h]
        rcases Scanner.closingMark? cs with _ | i
        · simp only [Option.map_none, ← pass_append]
          rfl
        · simp only [Option.map_some, ← pass_append]
          rfl
    · next hc' => rw [hget] at hc'; cases hc'

/-- The run before the first `x` stops where `x` first stands. -/
theorem takeWhile_ne_eq (cs : Str) (x : CodePoint) :
    cs.takeWhile (· ≠ x) = cs.take (cs.findIdx (· = x)) := by
  rw [List.takeWhile_eq_take_findIdx_not]
  congr 2
  funext a
  simp

theorem record_token_of_ne {t : Token} (h : t.kind ≠ .identifier) (st : Lexer) :
    st.record (.token t) = { st with tokens := st.tokens ++ [t] } := by
  simp [record, Symbol.registerToken, h]

/-- A line comment's loop takes the text up to the next line feed. -/
theorem skipLineComment_eq {st : Lexer} {r : Str}
    (h : s.drop st.position = .char '-' :: .char '-' :: r) :
    skipLineComment s st = st.pass (.char '-' :: .char '-' :: r.takeWhile (· ≠ .char '\n')) := by
  have h₁ : s.drop (advance s st).position = .char '-' :: r := by
    rw [advance_of_drop s h]
    exact (getElem?_of_drop s h).2.2
  have h₂ : s.drop (advance s (advance s st)).position = r := by
    rw [advance_of_drop s h₁]
    exact (getElem?_of_drop s h₁).2.2
  rw [skipLineComment, readWhile_eq s _ r _ h₂, advance_of_drop s h₁, advance_of_drop s h,
    ← pass_append, ← pass_append]
  rfl

/-- A block comment's loop after its opening `##`. -/
theorem skipBlockComment_eq {st : Lexer} {r : Str}
    (h : s.drop st.position = .char '#' :: .char '#' :: r) :
    skipBlockComment s st = match Scanner.closingMark? r with
      | some i => st.pass (.char '#' :: .char '#' :: r.take (i + 2))
      | none => (st.pass (.char '#' :: .char '#' :: r)).record (.error (.unclosedComment st.place.line)) := by
  have h₁ : s.drop (advance s st).position = .char '#' :: r := by
    rw [advance_of_drop s h]
    exact (getElem?_of_drop s h).2.2
  have h₂ : s.drop (advance s (advance s st)).position = r := by
    rw [advance_of_drop s h₁]
    exact (getElem?_of_drop s h₁).2.2
  rw [skipBlockComment, skipBlock_eq s _ r _ h₂, advance_of_drop s h₁, advance_of_drop s h]
  split <;> simp only [← pass_append] <;> rfl

/-- A string from its opening quote: up to and including the next quote, or else the rest of the
source, reported unclosed. -/
theorem readString_eq {st : Lexer} {cs : Str} (h : s.drop st.position = .char '\'' :: cs) :
    emit (readString s st) = match cs.findIdx? (· = .char '\'') with
      | some i => (st.pass (.char '\'' :: cs.take (i + 1))).record
          (.token (Scanner.tokenAt .string (.char '\'' :: cs.take (i + 1)) st.place))
      | none => (st.pass (.char '\'' :: cs)).record (.error (.unclosedString st.place.line)) := by
  have hbody : s.drop (advance s st).position = cs := by
    rw [advance_of_drop s h]
    exact (getElem?_of_drop s h).2.2
  rw [readString, readWhile_eq s _ cs _ hbody, advance_of_drop s h, takeWhile_ne_eq]
  dsimp only
  rcases hf : cs.findIdx? (· = .char '\'') with _ | i
  · -- no closing quote: the body runs to the end of the source
    rw [List.findIdx?_eq_none_iff_findIdx_eq.1 hf, List.take_length, hf]
    have hend : s[((st.pass [.char '\'']).pass cs).position]? = none := by
      apply List.getElem?_eq_none
      have := congrArg List.length h
      simp only [List.length_drop, List.length_cons] at this
      simp only [pass_position, List.length_singleton]
      omega
    rw [hend, ← pass_append]
    rfl
  · -- the body stops at the closing quote, which the string takes
    obtain ⟨hi, hfind⟩ := List.findIdx?_eq_some_iff_findIdx_eq.1 hf
    obtain ⟨_, hx, -⟩ := List.findIdx?_eq_some_iff_getElem.1 hf
    have hquote : cs[i] = .char '\'' := by simpa using hx
    have hrest : s.drop ((st.pass [.char '\'']).pass (cs.take i)).position =
        .char '\'' :: cs.drop (i + 1) := by
      apply drop_pass s
      rw [drop_pass s (h.trans List.singleton_append.symm), ← hquote, ← List.drop_eq_getElem_cons hi,
        List.take_append_drop]
    have htake : cs.take (i + 1) = cs.take i ++ [.char '\''] := by
      rw [List.take_add_one, List.getElem?_eq_getElem hi, hquote]
      rfl
    rw [hfind, (getElem?_of_drop s hrest).1, advance_of_drop s hrest, hf]
    dsimp only
    rw [htake, record_token_of_ne (by simp [Scanner.tokenAt]), ← pass_append, ← pass_append]
    rfl

/-- A number from its first digit: digits, and at most one point and the digits after it. -/
theorem readNumber_eq {st : Lexer} {c : CodePoint} {cs : Str} (h : s.drop st.position = c :: cs)
    (hdigit : Scanner.isDigitCode c) :
    readNumber s st =
      (Scanner.tokenAt (if (Scanner.numberTail cs).contains (.char '.') then .float else .number)
        (c :: Scanner.numberTail cs) st.place, st.pass (c :: Scanner.numberTail cs)) := by
  have hpoint : c ≠ .char '.' := by rintro rfl; cases hdigit
  rw [readNumber, readDigits_false s _ _ h, numberTail_cons, if_pos hdigit]
  simp [Ne.symm hpoint]

/-- A word from its letter: a reserved word's token, or an identifier's, recorded in the symbol
table. -/
theorem readWord_eq {st : Lexer} {c : CodePoint} {cs : Str} (h : s.drop st.position = c :: cs)
    (hc : c.satisfies Text.isLetter) :
    emit (readWord s st) = (st.pass (c :: cs.takeWhile Scanner.isWordTail)).record
      (.token (Scanner.tokenAt
        (((Str.toString? (c :: cs.takeWhile Scanner.isWordTail)).bind TokenKind.ofReserved?).getD
          .identifier)
        (c :: cs.takeWhile Scanner.isWordTail) st.place)) := by
  rw [readWord, (getElem?_of_drop s h).1]
  dsimp only
  rw [if_pos hc, readWhile_eq s _ _ st h,
    List.takeWhile_cons_of_pos (Scanner.isWordTail_of_isLetter hc)]
  split
  · next k hk =>
    dsimp only at hk
    rw [hk, Option.getD_some, record_token_of_ne (ofReserved?_ne_identifier hk)]
    rfl
  · next hk =>
    dsimp only at hk
    rw [hk]
    rfl

/-- A two-character operator at the cursor is read whole. -/
theorem readOperator_of_pair {st : Lexer} {c : CodePoint} {r : Str} {k : TokenKind}
    (h : s.drop st.position = c :: .char '=' :: r) (hk : c.char?.bind Scanner.pairKind? = some k) :
    readOperator s st =
      (some (Scanner.tokenAt k [c, .char '='] st.place), st.pass [c, .char '=']) := by
  obtain ⟨hget, hsecond, -⟩ := getElem?_of_drop s h
  rw [readOperator, hget]
  dsimp only
  rw [hk, hsecond, advance_of_drop s h,
    advance_of_drop s (drop_pass s (h.trans List.singleton_append.symm)), ← pass_append]
  rfl

/-- Where no two-character operator begins, the reader falls back to the one-character kinds:
what it reads is decided by `Scanner.singleKind?` alone. -/
theorem readOperator_of_no_pair {st : Lexer} {c : CodePoint} {cs : Str}
    (h : s.drop st.position = c :: cs)
    (hno : ∀ k, c.char?.bind Scanner.pairKind? = some k → cs.head? = some (.char '=') → False) :
    readOperator s st =
      ((c.char?.bind Scanner.singleKind?).map fun k => Scanner.tokenAt k [c] st.place,
        if (c.char?.bind Scanner.singleKind?).isSome then st.pass [c] else st) := by
  obtain ⟨hget, hsecond, -⟩ := getElem?_of_drop s h
  rw [readOperator, hget]
  dsimp only
  rw [hsecond]
  split
  · next k hk hd => exact (hno k hk hd).elim
  · rcases hk : c.char?.bind Scanner.singleKind? with _ | k
    · rfl
    · rw [advance_of_drop s h]
      rfl

/-- A prefix of a text is what `take` takes of it. -/
theorem take_length_takeWhile (p : CodePoint → Bool) (cs : Str) :
    cs.take (cs.takeWhile p).length = cs.takeWhile p :=
  (List.prefix_iff_eq_take.1 (List.takeWhile_prefix p)).symm

/-- **Step lemma.** At a code point that is no blank, the rest of a turn of the main loop takes
what the scanner's piece there takes, and records what that piece yields. -/
theorem dispatch_eq_piece {st : Lexer} {c : CodePoint} {cs : Str}
    (h : s.drop st.position = c :: cs) (hblank : c.satisfies Text.isBlank = false) :
    dispatch s st = (st.pass (c :: cs.take (Scanner.piece c cs st.place).2)).record
      (Scanner.piece c cs st.place).1 := by
  obtain ⟨hget, hsecond, -⟩ := getElem?_of_drop s h
  rw [dispatch, hget]
  dsimp only
  rw [hsecond, Scanner.piece, if_neg (show ¬ c.satisfies Text.isBlank = true by simp [hblank])]
  -- both sides try the kinds of piece in the same order
  by_cases hline : (c = .char '-' && cs.head? == some (.char '-')) = true
  · rw [if_pos hline, if_pos hline]
    simp only [Bool.and_eq_true, decide_eq_true_eq, beq_iff_eq] at hline
    obtain ⟨rfl, hd⟩ := hline
    obtain ⟨r, rfl⟩ := List.head?_eq_some_iff.1 hd
    rw [skipLineComment_eq s h]
    dsimp only
    rw [List.drop_one, List.tail_cons, Nat.add_comm, List.take_succ_cons, take_length_takeWhile]
    rfl
  rw [if_neg hline, if_neg hline]
  by_cases hblock : (c = .char '#' && cs.head? == some (.char '#')) = true
  · rw [if_pos hblock, if_pos hblock]
    simp only [Bool.and_eq_true, decide_eq_true_eq, beq_iff_eq] at hblock
    obtain ⟨rfl, hd⟩ := hblock
    obtain ⟨r, rfl⟩ := List.head?_eq_some_iff.1 hd
    rw [skipBlockComment_eq s h, List.drop_one, List.tail_cons]
    rcases hm : Scanner.closingMark? r with _ | i
    · dsimp only
      rw [List.take_length]
    · dsimp only
      rw [List.take_succ_cons]
      rfl
  rw [if_neg hblock, if_neg hblock]
  by_cases hquote : c = .char '\''
  · subst hquote
    rw [if_pos rfl, if_pos rfl, readString_eq s h]
    rcases hf : cs.findIdx? (· = .char '\'') with _ | i
    · rw [hf]
      dsimp only
      rw [List.take_length]
    · rw [hf]
  rw [if_neg hquote, if_neg hquote]
  by_cases hdigit : Scanner.isDigitCode c
  · rw [if_pos hdigit, if_pos hdigit]
    dsimp only
    rw [readNumber_eq s h hdigit, record_token_of_ne (by split <;> simp [Scanner.tokenAt]),
      ← List.prefix_iff_eq_take.1 (Scanner.numberTail_isPrefix cs)]
  rw [if_neg hdigit, if_neg hdigit]
  by_cases hletter : c.satisfies Text.isLetter
  · rw [if_pos hletter, if_pos hletter, readWord_eq s h hletter, take_length_takeWhile]
  rw [if_neg hletter, if_neg hletter]
  -- the piece's branches, split on the right: a two-character operator, else a one-character
  -- one, else an invalid code point
  symm
  split
  · next k hk hd =>
    obtain ⟨r, rfl⟩ := List.head?_eq_some_iff.1 hd
    rw [readOperator_of_pair s h hk, record_token_of_ne (pairKind?_ne_identifier hk)]
    rfl
  · next _ _ hno =>
    rw [readOperator_of_no_pair s h hno]
    split
    · next k hk =>
      rw [hk, Option.map_some, Option.isSome_some, if_pos rfl,
        record_token_of_ne (singleKind?_ne_identifier hk)]
      rfl
    · next hk =>
      -- the invalid code point is reported, then consumed
      have h' : s.drop ({ st with errors := st.errors ++ [.invalidChar c st.place] } : Lexer).position =
          c :: cs := h
      rw [hk, Option.map_none, Option.isSome_none, if_neg Bool.false_ne_true]
      dsimp only
      rw [advance_of_drop s h']
      rfl

/-- The scan passes over blanks one at a time, yielding nothing. -/
theorem piecesFrom_blanks {bl : Str} (hbl : ∀ b ∈ bl, b.satisfies Text.isBlank) (cs : Str)
    (p : Pos) (acc : Array Piece) :
    Scanner.piecesFrom (bl ++ cs) p acc = Scanner.piecesFrom cs (p.skip bl) acc := by
  induction bl generalizing p with
  | nil => rfl
  | cons b bl ih =>
    have hb : Scanner.piece b (bl ++ cs) p = (.skipped, 0) := by
      rw [Scanner.piece, if_pos (hbl b List.mem_cons_self)]
    rw [List.cons_append, Scanner.piecesFrom_cons hb, if_pos rfl, List.drop_zero, List.take_zero,
      ih (fun b' hb' => hbl b' (List.mem_cons_of_mem b hb')), Pos.skip_cons, Pos.skip_cons,
      Pos.skip_nil]

/-- What the scan yields from `p` on, after what it has yielded already. -/
theorem piecesFrom_toList (cs : Str) (p : Pos) (acc : Array Piece) :
    (Scanner.piecesFrom cs p acc).toList = acc.toList ++ (Scanner.piecesFrom cs p #[]).toList := by
  cases cs with
  | nil => simp [Scanner.piecesFrom]
  | cons c rest =>
    rcases hp : Scanner.piece c rest p with ⟨y, n⟩
    rw [Scanner.piecesFrom_cons hp, Scanner.piecesFrom_cons hp,
      piecesFrom_toList _ _ (if y = .skipped then acc else acc.push y),
      piecesFrom_toList _ _ (if y = .skipped then #[] else #[].push y)]
    split <;> simp
termination_by cs.length

/-- **Step lemma.** A turn of the main loop consumes a text `u` after the cursor: the blanks
there and, before the end, one piece of the scan. It records what the scan yields over `u`, and
leaves for the next turn what the scan leaves. -/
theorem step_eq (st : Lexer) :
    ∃ u xs, s.drop st.position = u ++ s.drop (step s st).position ∧
      step s st = (st.pass u).replay xs ∧
      (Scanner.piecesFrom (s.drop st.position) st.place #[]).toList =
        xs ++ (Scanner.piecesFrom (s.drop (step s st).position) (step s st).place #[]).toList := by
  -- the blanks before the cursor, and what follows them
  have hsplit := List.takeWhile_append_dropWhile (p := (·.satisfies Text.isBlank))
    (l := s.drop st.position)
  set bl := (s.drop st.position).takeWhile (·.satisfies Text.isBlank)
  set after := (s.drop st.position).dropWhile (·.satisfies Text.isBlank)
  have hbl : ∀ b ∈ bl, b.satisfies Text.isBlank := fun b hb => List.mem_takeWhile_imp hb
  have hafter : s.drop (st.pass bl).position = after := drop_pass s hsplit.symm
  have hstep : step s st = dispatch s (st.pass bl) := by
    rw [step, readWhile_eq s _ _ st rfl]
  have hpieces : Scanner.piecesFrom (s.drop st.position) st.place #[] =
      Scanner.piecesFrom after (st.place.skip bl) #[] := by
    rw [← piecesFrom_blanks hbl, hsplit]
  rcases hc : after with _ | ⟨c, cs⟩
  · -- the blanks run to the end of the source
    rw [hc] at hafter hpieces hsplit
    have hend : s.length ≤ (st.pass bl).position := List.drop_eq_nil_iff.1 hafter
    rw [hstep, dispatch_of_length_le s hend]
    refine ⟨bl, [], ?_, rfl, ?_⟩
    · rw [hafter]
      exact hsplit.symm
    · rw [hpieces, hafter]
      rfl
  · -- a code point after the blanks, which is no blank, begins the turn's piece
    rw [hc] at hafter hpieces hsplit
    have hblank : c.satisfies Text.isBlank = false := by
      have := List.head?_dropWhile_not (·.satisfies Text.isBlank) (s.drop st.position)
      rw [show (s.drop st.position).dropWhile _ = after from rfl, hc] at this
      simpa using this
    rcases hp : Scanner.piece c cs (st.place.skip bl) with ⟨x, n⟩
    have hn : n ≤ cs.length := by
      have := (Scanner.piece_fits c cs (st.place.skip bl)).1
      rwa [hp] at this
    have hdisp := dispatch_eq_piece s hafter hblank
    rw [pass_place, hp] at hdisp
    dsimp only at hdisp
    have hrest : s.drop (step s st).position = cs.drop n := by
      rw [hstep, hdisp, record_position_eq]
      exact drop_pass s (hafter.trans (by rw [List.cons_append, List.take_append_drop]))
    refine ⟨bl ++ c :: cs.take n, if x = .skipped then [] else [x], ?_, ?_, ?_⟩
    · rw [hrest, List.append_assoc, List.cons_append, List.take_append_drop, hsplit]
    · rw [hstep, hdisp, pass_append]
      split
      · next hx => rw [hx]; rfl
      · rfl
    · rw [hpieces, Scanner.piecesFrom_cons hp, piecesFrom_toList, hrest, hstep, hdisp,
        record_place_eq]
      split <;> rfl

/-- **Run lemma.** From a state within the source, the main loop ends at the end of the source,
past all the text after the cursor, having recorded what the scan of that text yields. -/
theorem loop_eq_replay (st : Lexer) (hle : st.position ≤ s.length) :
    loop s st = (st.pass (s.drop st.position)).replay
      (Scanner.piecesFrom (s.drop st.position) st.place #[]).toList := by
  fun_induction loop s st with
  | case1 st hlt ih =>
    obtain ⟨u, xs, hu, hst, hpieces⟩ := step_eq s st
    rw [ih (step_advances s hlt).2, hpieces, replay_append, hu]
    congr 1
    -- the turn's text and what is left after it make up what was left before it
    rw [pass_append, replay_pass, ← hst]
  | case2 st hge =>
    have hend : s.drop st.position = [] := List.drop_eq_nil_iff.2 (by omega)
    rw [hend, Scanner.piecesFrom]
    rfl

/-- The main loop is its turn repeated, at most once per code point after the cursor, and each
turn starts before the end of the source. -/
theorem loop_eq_iterate (st : Lexer) :
    ∃ n ≤ s.length - st.position, loop s st = (step s)^[n] st ∧
      ∀ i < n, ((step s)^[i] st).position < s.length := by
  fun_induction loop s st with
  | case1 st hlt ih =>
    obtain ⟨n, hn, hloop, hbefore⟩ := ih
    have hprog := step_advances s hlt
    refine ⟨n + 1, by omega, by rw [hloop, Function.iterate_succ_apply], ?_⟩
    intro i hi
    cases i with
    | zero => exact hlt
    | succ i =>
      rw [Function.iterate_succ_apply]
      exact hbefore i (by omega)
  | case2 st hge => exact ⟨0, Nat.zero_le _, rfl, fun i hi => absurd hi (Nat.not_lt_zero i)⟩

/-- The lexer reads the whole source, ending past its last code point, and records what its scan
yields, in order. -/
theorem tokenize_eq_replay : tokenize s = (start.pass s).replay (scan s).pieces.toList :=
  loop_eq_replay s start (Nat.zero_le _)

theorem tokenize_tokens : (tokenize s).tokens = (scan s).tokens := by
  rw [tokenize_eq_replay, replay_tokens, Scan.tokens_eq]
  rfl

theorem tokenize_errors : (tokenize s).errors = (scan s).errors := by
  rw [tokenize_eq_replay, replay_errors, Scan.errors_eq]
  rfl

/-- The symbol table is what recording the tokens of the scan in turn gives. -/
theorem tokenize_symbolTable :
    (tokenize s).symbolTable = (scan s).tokens.foldl Symbol.registerToken [] := by
  rw [tokenize_eq_replay, replay_symbolTable, Scan.tokens_eq]
  rfl

theorem tokenize_position : (tokenize s).position = s.length := by
  rw [tokenize_eq_replay, replay_position, pass_position]
  exact Nat.zero_add _

end Source

end Lexer

/-- **Every turn of the lexer's main loop makes progress, and the loop reads the whole source.**
From any state before the end of a source, a turn moves the cursor forward by at least one code
point, and not past the end. Reading the source runs the turn at most once per code point, each
time from before the end, and the cursor ends at the end of the source; what has been read then
is what the scanner reads: the same tokens and the same errors, in order. -/
theorem tokenize_progress (s : Str) :
    (∀ st : Lexer, st.position < s.length →
      st.position < (Lexer.step s st).position ∧ (Lexer.step s st).position ≤ s.length) ∧
    (∃ n ≤ s.length, Lexer.tokenize s = (Lexer.step s)^[n] Lexer.start ∧
      ∀ i < n, ((Lexer.step s)^[i] Lexer.start).position < s.length) ∧
    (Lexer.tokenize s).position = s.length ∧
    (Lexer.tokenize s).tokens = (scan s).tokens ∧ (Lexer.tokenize s).errors = (scan s).errors := by
  obtain ⟨n, hn, hrun, hturns⟩ := Lexer.loop_eq_iterate s Lexer.start
  exact ⟨fun st h => Lexer.step_advances s h, ⟨n, by simpa [Lexer.start] using hn, hrun, hturns⟩,
    Lexer.tokenize_position s, Lexer.tokenize_tokens s, Lexer.tokenize_errors s⟩

end SqlFront
