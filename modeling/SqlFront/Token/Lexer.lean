import SqlFront.Token.Scanner
/-!
# The lexer as a loop over a cursor

`SqlFront.Token.Scanner` reads a source as a recursion on the text still to read. The lexer here
reads it the way the program's main loop does. Its state is a cursor into a fixed source, the
offset `position` of the next code point, with the place (line and column) where that code point
stands, and what has been read so far: the tokens, the symbol table and the errors. `advance`
moves the cursor by one code point and keeps the place. Each helper loop moves the cursor while
the code point under it is of some kind (`readWhile`, `readDigits`, `skipBlock`). A turn of the
main loop (`step`) skips blanks and then reads what begins at the cursor: a comment, a string, a
number, a word or an operator, or else an invalid code point, which it reports.

The symbol table is filled as a side effect of reading a word: an identifier that is not a key
yet goes in last, with the place of the word (`readWord`).

Every loop stops. Each helper loop moves the cursor before it turns again, so it is a recursion
on the code points after the cursor. Each turn of the main loop moves the cursor by at least one
code point and never past the end (`step_advances`), and this is what the main loop's recursion
rests on. A blank, a comment, a string and an operator take at least their first code point
outright. A number begins with a digit, which the number's loop takes; a word begins with a
letter, which may continue a word (`Scanner.isWordTail_of_isLetter`) and so is taken by the
word's loop; a comment is read only when both its opening code points are there.
-/

namespace SqlFront

/-- The symbol of a token: its lexeme as the name, and its place. -/
def Token.symbol (t : Token) : Symbol := ⟨t.lexeme, t.line, t.column⟩

/-- Record the symbol `y` unless its name is already a key of the table; a new key goes last. -/
def Symbol.register (table : List Symbol) (y : Symbol) : List Symbol :=
  if table.any (·.name == y.name) then table else table ++ [y]

/-- A letter may continue a word. -/
theorem Scanner.isWordTail_of_isLetter {c : CodePoint} (h : c.satisfies Text.isLetter) :
    Scanner.isWordTail c := by
  cases c with
  | char c => simp_all [Scanner.isWordTail, CodePoint.satisfies, Text.isAlphanumeric]
  | surrogate k => cases h

/-- The lexer's state over a fixed source: the offset of the next code point to read and the
place where it stands, then the tokens, the symbol table and the errors read so far, each in the
order of reading. -/
structure Lexer where
  position : Nat
  place : Pos
  tokens : List Token
  symbolTable : List Symbol
  errors : List LexError
  deriving DecidableEq, Repr

namespace Lexer

/-- The state before anything is read. -/
def start : Lexer := ⟨0, Pos.start, [], [], []⟩

section Loops

variable (s : Str)

/-- Consume the code point under the cursor and move the place past it; at the end of the source
nothing moves. -/
def advance (st : Lexer) : Lexer :=
  match s[st.position]? with
  | some c => { st with position := st.position + 1, place := st.place.next c }
  | none => st

theorem advance_of_getElem? {st : Lexer} {c : CodePoint} (h : s[st.position]? = some c) :
    advance s st = { st with position := st.position + 1, place := st.place.next c } := by
  rw [advance, h]

theorem advance_of_length_le {st : Lexer} (h : s.length ≤ st.position) : advance s st = st := by
  rw [advance, List.getElem?_eq_none h]

/-- The cursor moves forward from `st` to `st'`, and not past the end of the source unless it
stood there already. -/
def Moves (st st' : Lexer) : Prop :=
  st.position ≤ st'.position ∧ st'.position ≤ max st.position s.length

theorem Moves.refl (st : Lexer) : Moves s st st := ⟨Nat.le_refl _, Nat.le_max_left _ _⟩

theorem Moves.trans {st₁ st₂ st₃ : Lexer} (h₁ : Moves s st₁ st₂) (h₂ : Moves s st₂ st₃) :
    Moves s st₁ st₃ := by
  obtain ⟨h₁, h₁'⟩ := h₁
  obtain ⟨h₂, h₂'⟩ := h₂
  refine ⟨Nat.le_trans h₁ h₂, ?_⟩
  omega

theorem moves_advance (st : Lexer) : Moves s st (advance s st) := by
  by_cases h : st.position < s.length
  · rw [advance_of_getElem? s (List.getElem?_eq_getElem h)]
    exact ⟨Nat.le_succ _, by simp only; omega⟩
  · rw [advance_of_length_le s (by omega)]
    exact Moves.refl s st

/-- Before the end of the source, `advance` takes one code point. -/
theorem advance_position {st : Lexer} (h : st.position < s.length) :
    (advance s st).position = st.position + 1 := by
  rw [advance_of_getElem? s (List.getElem?_eq_getElem h)]

/-- Consume code points while the one under the cursor is of the class `q`: the text consumed,
and the state after it. -/
def readWhile (q : CodePoint → Bool) (st : Lexer) : Str × Lexer :=
  match _h : s[st.position]? with
  | some c =>
    if q c then
      let r := readWhile q (advance s st)
      (c :: r.1, r.2)
    else ([], st)
  | none => ([], st)
termination_by s.length - st.position
decreasing_by
  have hlt := (List.getElem?_eq_some_iff.1 _h).1
  rw [advance_position s hlt]
  omega

/-- The loop of a number: consume digits, and a point unless one has been consumed already
(`pointRead`); stop at anything else and at a second point. The text consumed, whether a point
has been consumed, and the state after it. -/
def readDigits (pointRead : Bool) (st : Lexer) : Str × Bool × Lexer :=
  match _h : s[st.position]? with
  | some c =>
    if Scanner.isDigitCode c || c = .char '.' then
      if c = .char '.' && pointRead then ([], pointRead, st)
      else
        let r := readDigits (pointRead || c = .char '.') (advance s st)
        (c :: r.1, r.2.1, r.2.2)
    else ([], pointRead, st)
  | none => ([], pointRead, st)
termination_by s.length - st.position
decreasing_by
  have hlt := (List.getElem?_eq_some_iff.1 _h).1
  rw [advance_position s hlt]
  omega

/-- The loop of a block comment after its opening `##`: consume up to and including the first
`##`; without one, consume the rest of the source and report the comment opened on line `line`. -/
def skipBlock (line : Nat) (st : Lexer) : Lexer :=
  match _h : s[st.position]? with
  | some c =>
    if c = .char '#' && s[st.position + 1]? == some (.char '#') then advance s (advance s st)
    else skipBlock line (advance s st)
  | none => { st with errors := st.errors ++ [.unclosedComment line] }
termination_by s.length - st.position
decreasing_by
  have hlt := (List.getElem?_eq_some_iff.1 _h).1
  rw [advance_position s hlt]
  omega

/-- Skip a line comment from its opening `--` up to the next line feed, which is left for the
blanks. -/
def skipLineComment (st : Lexer) : Lexer :=
  (readWhile s (· ≠ .char '\n') (advance s (advance s st))).2

/-- Skip a block comment from its opening `##`; an unclosed one is reported at the line of its
opening `##`. -/
def skipBlockComment (st : Lexer) : Lexer :=
  skipBlock s st.place.line (advance s (advance s st))

/-- Read a string from its opening quote: its token, whose lexeme keeps both quotes, at the
place of the opening quote. Without a closing quote there is no token, and the string is
reported unclosed at the line of its opening quote. -/
def readString (st : Lexer) : Option Token × Lexer :=
  let r := readWhile s (· ≠ .char '\'') (advance s st)
  match s[r.2.position]? with
  | some (.char '\'') =>
    (some (Scanner.tokenAt .string (.char '\'' :: (r.1 ++ [.char '\''])) st.place),
      advance s r.2)
  | _ => (none, { r.2 with errors := r.2.errors ++ [.unclosedString st.place.line] })

/-- Read a number from its first digit: a `FLOAT` token if it holds a point and a `NUMBER`
token otherwise, at the place of the first digit. -/
def readNumber (st : Lexer) : Token × Lexer :=
  let r := readDigits s false st
  (Scanner.tokenAt (if r.2.1 then .float else .number) r.1 st.place, r.2.2)

/-- Read a word from a letter: a reserved word's token if the word is one, and otherwise an
identifier's token, whose symbol goes into the table unless its name is a key already. Nothing is
read unless a letter is under the cursor. -/
def readWord (st : Lexer) : Option Token × Lexer :=
  match s[st.position]? with
  | some c =>
    if c.satisfies Text.isLetter then
      let r := readWhile s Scanner.isWordTail st
      match (Str.toString? r.1).bind TokenKind.ofReserved? with
      | some k => (some (Scanner.tokenAt k r.1 st.place), r.2)
      | none =>
        let t := Scanner.tokenAt .identifier r.1 st.place
        (some t, { r.2 with symbolTable := Symbol.register r.2.symbolTable t.symbol })
    else (none, st)
  | none => (none, st)

/-- Read a two-character operator, or else a one-character operator or mark; nothing is read
for any other code point. -/
def readOperator (st : Lexer) : Option Token × Lexer :=
  match s[st.position]? with
  | some c =>
    match c.char?.bind Scanner.pairKind?, s[st.position + 1]? with
    | some k, some (.char '=') =>
      (some (Scanner.tokenAt k [c, .char '='] st.place), advance s (advance s st))
    | _, _ =>
      match c.char?.bind Scanner.singleKind? with
      | some k => (some (Scanner.tokenAt k [c] st.place), advance s st)
      | none => (none, st)
  | none => (none, st)

/-- Append the token read, if there is one. -/
def emit (r : Option Token × Lexer) : Lexer :=
  match r.1 with
  | some t => { r.2 with tokens := r.2.tokens ++ [t] }
  | none => r.2

/-- A turn of the main loop once blanks are skipped. By the code point under the cursor, and the
one after it, skip a comment or read a string, a number, a word or an operator; a code point
that begins none of them is reported at its place and consumed. At the end, nothing happens. -/
def dispatch (st : Lexer) : Lexer :=
  match s[st.position]? with
  | none => st
  | some c =>
    if c = .char '-' && s[st.position + 1]? == some (.char '-') then skipLineComment s st
    else if c = .char '#' && s[st.position + 1]? == some (.char '#') then skipBlockComment s st
    else if c = .char '\'' then emit (readString s st)
    else if Scanner.isDigitCode c then
      let r := readNumber s st
      { r.2 with tokens := r.2.tokens ++ [r.1] }
    else if c.satisfies Text.isLetter then emit (readWord s st)
    else
      let r := readOperator s st
      match r.1 with
      | some t => { r.2 with tokens := r.2.tokens ++ [t] }
      | none => advance s { r.2 with errors := r.2.errors ++ [.invalidChar c st.place] }

/-- A turn of the main loop: skip blanks, then read what begins at the cursor. -/
def step (st : Lexer) : Lexer :=
  dispatch s (readWhile s (·.satisfies Text.isBlank) st).2

/-! ### Every loop moves the cursor forward -/

theorem moves_readWhile (q : CodePoint → Bool) (st : Lexer) :
    Moves s st (readWhile s q st).2 := by
  fun_induction readWhile s q st with
  | case1 st c _ _ _ ih => exact (moves_advance s st).trans s ih
  | case2 st => exact Moves.refl s st
  | case3 st => exact Moves.refl s st

theorem moves_readDigits (b : Bool) (st : Lexer) : Moves s st (readDigits s b st).2.2 := by
  fun_induction readDigits s b st with
  | case2 b st c _ _ _ _ ih => exact (moves_advance s st).trans s ih
  | _ => exact Moves.refl s _

theorem moves_skipBlock (line : Nat) (st : Lexer) : Moves s st (skipBlock s line st) := by
  fun_induction skipBlock s line st with
  | case1 st => exact (moves_advance s st).trans s (moves_advance s _)
  | case2 st c _ _ ih => exact (moves_advance s st).trans s ih
  | case3 st => exact Moves.refl s st

/-- A number's loop takes its first digit. -/
theorem readDigits_advances {st : Lexer} {c : CodePoint} (h : s[st.position]? = some c)
    (hc : Scanner.isDigitCode c) (b : Bool) : st.position < (readDigits s b st).2.2.position := by
  have hlt := (List.getElem?_eq_some_iff.1 h).1
  -- a digit is no point, so the loop takes it whatever `b` is
  have hpoint : c ≠ .char '.' := by rintro rfl; cases hc
  rw [readDigits]
  split
  · next c' h' =>
    obtain rfl : c' = c := Option.some.inj (h'.symm.trans h)
    rw [if_pos (by simp [hc]), if_neg (by simp [hpoint])]
    calc st.position < (advance s st).position := by rw [advance_position s hlt]; omega
      _ ≤ _ := (moves_readDigits s _ (advance s st)).1
  · next h' => rw [h] at h'; cases h'

/-- A loop over a class takes a first code point of the class. -/
theorem readWhile_advances {st : Lexer} {c : CodePoint} (h : s[st.position]? = some c)
    {q : CodePoint → Bool} (hq : q c) : st.position < (readWhile s q st).2.position := by
  have hlt := (List.getElem?_eq_some_iff.1 h).1
  rw [readWhile]
  split
  · next c' h' =>
    obtain rfl : c' = c := Option.some.inj (h'.symm.trans h)
    rw [if_pos hq]
    calc st.position < (advance s st).position := by rw [advance_position s hlt]; omega
      _ ≤ _ := (moves_readWhile s q (advance s st)).1
  · next h' => rw [h] at h'; cases h'

/-- What begins with `advance` goes past the code point under the cursor. -/
theorem advances_of_moves_advance {st st' : Lexer} (h : st.position < s.length)
    (hm : Moves s (advance s st) st') : st.position < st'.position ∧ Moves s st st' := by
  have hadv := advance_position s h
  obtain ⟨h₁, h₂⟩ := hm
  refine ⟨by omega, by omega, by omega⟩

/-- What ends with `advance`, from before the end, goes past the code point under the cursor. -/
theorem advances_advance_of_moves {st st' : Lexer} (h : st.position < s.length)
    (hm : Moves s st st') : st.position < (advance s st').position ∧ Moves s st (advance s st') := by
  have hadv := moves_advance s st'
  obtain ⟨h₁, h₂⟩ := hm
  obtain ⟨h₃, h₄⟩ := hadv
  by_cases hlt : st'.position < s.length
  · have := advance_position s hlt
    refine ⟨by omega, by omega, by omega⟩
  · refine ⟨by omega, by omega, by omega⟩

theorem moves_readString (st : Lexer) : Moves s (advance s st) (readString s st).2 := by
  have hr := moves_readWhile s (· ≠ .char '\'') (advance s st)
  rw [readString]
  dsimp only
  split
  · exact hr.trans s (moves_advance s _)
  · exact hr

theorem moves_readWord (st : Lexer) : Moves s st (readWord s st).2 := by
  rw [readWord]
  split
  · split
    · dsimp only
      split <;> exact moves_readWhile s _ st
    · exact Moves.refl s st
  · exact Moves.refl s st

/-- A word read from a letter takes the letter. -/
theorem readWord_advances {st : Lexer} {c : CodePoint} (h : s[st.position]? = some c)
    (hc : c.satisfies Text.isLetter) : st.position < (readWord s st).2.position := by
  have hw := readWhile_advances s h (Scanner.isWordTail_of_isLetter hc)
  rw [readWord]
  rw [h]
  dsimp only
  rw [if_pos hc]
  split <;> exact hw

theorem moves_readOperator (st : Lexer) : Moves s st (readOperator s st).2 := by
  rw [readOperator]
  split
  · split
    · exact (moves_advance s st).trans s (moves_advance s _)
    · split
      · exact moves_advance s st
      · exact Moves.refl s st
  · exact Moves.refl s st

/-- An operator that is read takes its first code point. -/
theorem moves_readOperator_of_token {st : Lexer} {t : Token}
    (h : (readOperator s st).1 = some t) : Moves s (advance s st) (readOperator s st).2 := by
  revert h
  rw [readOperator]
  split
  · split
    · exact fun _ => moves_advance s _
    · split
      · exact fun _ => Moves.refl s _
      · intro h
        cases h
  · intro h
    cases h

theorem emit_position (r : Option Token × Lexer) : (emit r).position = r.2.position := by
  rw [emit]
  split <;> rfl

theorem moves_emit {st : Lexer} {r : Option Token × Lexer} : Moves s st (emit r) ↔ Moves s st r.2 := by
  simp only [Moves, emit_position]

/-- At a code point, a turn of the main loop once blanks are skipped takes at least that code
point, and it never goes past the end. -/
theorem dispatch_advances {st : Lexer} (h : st.position < s.length) :
    st.position < (dispatch s st).position ∧ Moves s st (dispatch s st) := by
  obtain ⟨c, hc⟩ : ∃ c, s[st.position]? = some c := ⟨_, List.getElem?_eq_getElem h⟩
  rw [dispatch]
  rw [hc]
  dsimp only
  split
  · exact advances_of_moves_advance s h
      ((moves_advance s _).trans s (moves_readWhile s _ _))
  split
  · exact advances_of_moves_advance s h
      ((moves_advance s _).trans s (moves_skipBlock s _ _))
  split
  · obtain ⟨hlt, hm⟩ := advances_of_moves_advance s h (moves_readString s st)
    exact ⟨by rw [emit_position]; exact hlt, (moves_emit s).2 hm⟩
  split
  · next hdigit =>
    exact ⟨readDigits_advances s hc hdigit false, moves_readDigits s false st⟩
  split
  · next hletter =>
    exact ⟨by rw [emit_position]; exact readWord_advances s hc hletter,
      (moves_emit s).2 (moves_readWord s st)⟩
  · split
    · next t ht => exact advances_of_moves_advance s h (moves_readOperator_of_token s ht)
    · exact advances_advance_of_moves s h (moves_readOperator s st)

theorem dispatch_of_length_le {st : Lexer} (h : s.length ≤ st.position) : dispatch s st = st := by
  rw [dispatch, List.getElem?_eq_none h]

/-- **Progress.** From before the end of the source, a turn of the main loop moves the cursor by
at least one code point, and not past the end. -/
theorem step_advances {st : Lexer} (h : st.position < s.length) :
    st.position < (step s st).position ∧ (step s st).position ≤ s.length := by
  obtain ⟨hb₁, hb₂⟩ := moves_readWhile s (·.satisfies Text.isBlank) st
  rw [step]
  by_cases hlt : (readWhile s (·.satisfies Text.isBlank) st).2.position < s.length
  · -- a code point is left after the blanks, and the rest of the turn takes it
    obtain ⟨hd, hd₁, hd₂⟩ := dispatch_advances s hlt
    exact ⟨by omega, by omega⟩
  · -- the blanks ran to the end of the source, which the turn reached
    rw [dispatch_of_length_le s (by omega)]
    exact ⟨by omega, by omega⟩

/-- The main loop: turn while the cursor is before the end of the source. -/
def loop (st : Lexer) : Lexer :=
  if _h : st.position < s.length then loop (step s st) else st
termination_by s.length - st.position
decreasing_by
  have := (step_advances s _h).1
  omega

/-- Read the whole source: its tokens, symbol table and errors. -/
def tokenize : Lexer := loop s start

end Loops

end Lexer

end SqlFront
