import SqlFront.Proofs.Tokenizing
import SqlFront.Proofs.Literals
/-!
# The symbol table keeps each identifier at its first occurrence

Reading a word that is no reserved word registers its symbol unless its name is a key already
(`Symbol.register`), and nothing else touches the table, so the table the lexer ends with is a
fold of `Symbol.register` over the symbols of its identifiers (`Lexer.tokenize_symbolTable`,
`foldl_registerToken`). What such a fold holds is an invariant of one registration
(`FirstOf.register`): the names in the order they first come, each once, each with the first
symbol of that name. The identifiers are the words that are not reserved, so no reserved word
is a key (`Scanner.Lexeme.ne_reserved`).

The scanner collects its table another way, remembering the names it has seen
(`Scan.firstOccurrences`); it collects the same list (`Scan.symbols_eq_foldl`).
-/

namespace SqlFront

namespace Symbol

theorem any_name_iff {table : List Symbol} {n : Str} :
    table.any (·.name == n) = true ↔ n ∈ table.map (·.name) := by
  simp [List.any_eq_true]

theorem register_of_mem {table : List Symbol} {y : Symbol} (h : y.name ∈ table.map (·.name)) :
    register table y = table := by
  rw [register, if_pos (any_name_iff.2 h)]

theorem register_of_not_mem {table : List Symbol} {y : Symbol}
    (h : y.name ∉ table.map (·.name)) : register table y = table ++ [y] := by
  rw [register, if_neg (mt any_name_iff.1 h)]

/-- What a table holds once the symbols `ys` are registered in turn: the names in the order they
first come in `ys`, each once, and under each name the first symbol of `ys` with that name. -/
structure FirstOf (table ys : List Symbol) : Prop where
  names : table.map (·.name) = (ys.map (·.name)).eraseDups
  nodup : (table.map (·.name)).Nodup
  first : ∀ y ∈ table, ys.find? (·.name == y.name) = some y

theorem FirstOf.nil : FirstOf [] [] :=
  ⟨rfl, List.nodup_nil, fun _ h => by cases h⟩

theorem FirstOf.mem_names_iff {table ys : List Symbol} (h : FirstOf table ys) {n : Str} :
    n ∈ table.map (·.name) ↔ n ∈ ys.map (·.name) := by
  rw [h.names, List.mem_eraseDups]

/-- One registration keeps the invariant: a name already a key changes nothing, and a new name
is the first of its symbols. -/
theorem FirstOf.register {table ys : List Symbol} (h : FirstOf table ys) (y : Symbol) :
    FirstOf (Symbol.register table y) (ys ++ [y]) := by
  have hnames : (ys ++ [y]).map (·.name) = ys.map (·.name) ++ [y.name] := by simp
  by_cases hy : y.name ∈ ys.map (·.name)
  · rw [register_of_mem (h.mem_names_iff.2 hy)]
    refine ⟨?_, h.nodup, fun x hx => ?_⟩
    · rw [hnames, List.eraseDups_append, ← h.names, List.cons_removeAll,
        if_neg (by simpa using List.contains_iff_mem.2 hy)]
      simp
    · rw [List.find?_append, h.first x hx]
      rfl
  · rw [register_of_not_mem (mt h.mem_names_iff.1 hy)]
    -- the new symbol is the first of its name: no earlier symbol has it
    have hnone : ys.find? (·.name == y.name) = none := by
      rw [List.find?_eq_none]
      intro x hx hxy
      exact hy (List.mem_map.2 ⟨x, hx, by simpa using hxy⟩)
    refine ⟨?_, ?_, fun x hx => ?_⟩
    · rw [hnames, List.eraseDups_append, List.map_append, ← h.names, List.cons_removeAll,
        if_pos (by simpa using mt List.contains_iff_mem.1 hy)]
      rfl
    · rw [List.map_append, List.nodup_append]
      refine ⟨h.nodup, by simp, ?_⟩
      simp only [List.map_cons, List.map_nil, List.mem_singleton]
      rintro n hn _ rfl rfl
      exact hy (h.mem_names_iff.1 hn)
    · rw [List.find?_append]
      rcases List.mem_append.1 hx with hx | hx
      · rw [h.first x hx]
        rfl
      · rw [List.mem_singleton.1 hx, hnone]
        simp

/-- Registering symbols one after another keeps the first symbol of each name. -/
theorem firstOf_foldl_register (ys : List Symbol) : FirstOf (ys.foldl register []) ys := by
  induction ys using List.reverseRecOn with
  | nil => exact FirstOf.nil
  | append_singleton ys y ih =>
    rw [List.foldl_append, List.foldl_cons, List.foldl_nil]
    exact ih.register y

/-- Recording tokens registers the symbols of the identifiers among them, in order. -/
theorem foldl_registerToken (ts : List Token) (table : List Symbol) :
    ts.foldl registerToken table =
      ((ts.filter (·.kind == .identifier)).map Token.symbol).foldl register table := by
  induction ts generalizing table with
  | nil => rfl
  | cons t ts ih =>
    by_cases hk : t.kind = .identifier <;> simp [registerToken, hk, ih]

end Symbol

/-- An identifier is no reserved word. -/
theorem Scanner.Lexeme.ne_reserved {k : TokenKind} {lex : Str} (h : Scanner.Lexeme k lex)
    (hk : k = .identifier) : ∀ r ∈ TokenKind.reserved, lex ≠ Str.ofString r.name := by
  intro r hr hlex
  cases h with
  | string | number | decimal => cases hk
  | @word c ws =>
    rcases hw : (Str.toString? (c :: ws)).bind TokenKind.ofReserved? with _ | k'
    · -- a word that reads as a reserved word has that word's kind
      rw [hlex, Str.toString?_ofString, Option.bind_some, TokenKind.ofReserved?,
        List.find?_eq_none] at hw
      exact hw r hr (beq_self_eq_true _)
    · rw [hw, Option.getD_some] at hk
      exact ofReserved?_ne_identifier hw hk
  | @pair c _ hp => exact pairKind?_ne_identifier (c := .char c) hp hk
  | @single c _ hp => exact singleKind?_ne_identifier (c := .char c) hp hk

/-- The scanner's table, built while remembering the names seen, is the fold that registers the
identifiers in turn. -/
theorem Scan.firstOccurrences_eq_foldl (ts : List Token) (seen : List Str) (acc : Array Symbol)
    (hseen : ∀ n, n ∈ seen ↔ n ∈ acc.toList.map (·.name)) :
    (Scan.firstOccurrences ts seen acc).toList = ts.foldl Symbol.registerToken acc.toList := by
  induction ts generalizing seen acc with
  | nil => rfl
  | cons t ts ih =>
    rw [Scan.firstOccurrences, List.foldl_cons, Symbol.registerToken]
    by_cases hk : t.kind = .identifier
    · by_cases hn : t.lexeme ∈ seen
      · rw [if_neg (by simp [hn]), if_pos hk,
          Symbol.register_of_mem ((hseen _).1 hn)]
        exact ih seen acc hseen
      · rw [if_pos (by simp [hk, hn]), if_pos hk,
          Symbol.register_of_not_mem (mt (hseen _).2 hn)]
        have hpush : (acc.push ⟨t.lexeme, t.line, t.column⟩).toList = acc.toList ++ [t.symbol] := by
          rw [Array.toList_push]
          rfl
        rw [← hpush]
        exact ih _ _ (fun n => by simp [hseen, or_comm])
    · rw [if_neg (by simp [hk]), if_neg hk]
      exact ih seen acc hseen

theorem Scan.symbols_eq_foldl (sc : Scan) : sc.symbols = sc.tokens.foldl Symbol.registerToken [] :=
  Scan.firstOccurrences_eq_foldl _ [] #[] (by simp)

/-- **The symbol table holds each identifier once, at its first occurrence.** After reading a
source, the names of the symbol table, in order, are the distinct lexemes of the identifiers
read, in the order they first come, each once; each symbol is the name and place of the first
identifier with that name; no reserved word is a name in it; and the table is the scanner's. -/
theorem symbolTable_first_identifiers (s : Str) :
    let ids := (Lexer.tokenize s).tokens.filter (·.kind == .identifier)
    (Lexer.tokenize s).symbolTable.map (·.name) = (ids.map (·.lexeme)).eraseDups ∧
    ((Lexer.tokenize s).symbolTable.map (·.name)).Nodup ∧
    (∀ y ∈ (Lexer.tokenize s).symbolTable,
      ∃ t, ids.find? (·.lexeme == y.name) = some t ∧ y = t.symbol) ∧
    (∀ y ∈ (Lexer.tokenize s).symbolTable, ∀ k ∈ TokenKind.reserved,
      y.name ≠ Str.ofString k.name) ∧
    (Lexer.tokenize s).symbolTable = (scan s).symbols := by
  intro ids
  have htable : (Lexer.tokenize s).symbolTable = (ids.map Token.symbol).foldl Symbol.register [] := by
    rw [Lexer.tokenize_symbolTable, Symbol.foldl_registerToken, ← Lexer.tokenize_tokens]
  have hinv := Symbol.firstOf_foldl_register (ids.map Token.symbol)
  rw [← htable] at hinv
  -- each symbol of the table is that of an identifier, the first one with its name
  have hfirst : ∀ y ∈ (Lexer.tokenize s).symbolTable,
      ∃ t, ids.find? (·.lexeme == y.name) = some t ∧ y = t.symbol := by
    intro y hy
    have hfind := hinv.first y hy
    rw [List.find?_map, Option.map_eq_some_iff] at hfind
    obtain ⟨t, ht, rfl⟩ := hfind
    exact ⟨t, ht, rfl⟩
  refine ⟨by rw [hinv.names, List.map_map]; rfl, hinv.nodup, hfirst, ?_, ?_⟩
  · intro y hy
    obtain ⟨t, ht, rfl⟩ := hfirst y hy
    have hid := List.mem_filter.1 (List.mem_of_find?_eq_some ht)
    have hscan : t ∈ (scan s).tokens := Lexer.tokenize_tokens s ▸ hid.1
    exact (Scan.lexeme_of_mem_tokens s t hscan).ne_reserved (by simpa using hid.2)
  · rw [Lexer.tokenize_symbolTable, Scan.symbols_eq_foldl]

end SqlFront
