/-!
# Texts of code points

A text is a sequence of *code points*: characters, and *surrogate codes* from `U+D800` to
`U+DFFF` standing alone. Lean's characters leave the surrogate codes out, yet the data format
writes one with an escape such as `\udfff`, and a text read from it keeps what it is given. So a
text is a list of code points, `Str`, and its length and its columns count code points.

Every string is a text (`Str.ofString`, also a coercion), and a text without surrogate codes is
a string again (`Str.toString?_ofString`). A surrogate code belongs to no class of characters
(`CodePoint.satisfies`): it is no blank, no letter, no digit and not printable.
-/

namespace SqlFront

/-- A code point: a character, or the surrogate code `U+D800 + k` standing alone. -/
inductive CodePoint where
  | char (c : Char)
  | surrogate (k : Fin 2048)
  deriving DecidableEq, Repr, Inhabited

namespace CodePoint

/-- The number of the code point. -/
def val : CodePoint → Nat
  | char c => c.toNat
  | surrogate k => 0xD800 + k.val

/-- Whether the code point is a character of the class `p`; a surrogate code is in none. -/
def satisfies (p : Char → Bool) : CodePoint → Bool
  | char c => p c
  | surrogate _ => false

/-- The code point numbered `n`, for `n` below `0x110000`: a surrogate code from `0xD800` to
`0xDFFF`, a character otherwise. -/
def ofNat (n : Nat) : CodePoint :=
  if h : 0xD800 ≤ n ∧ n < 0xE000 then surrogate ⟨n - 0xD800, by omega⟩ else char (Char.ofNat n)

/-- The character of the code point, unless it is a surrogate code. -/
def char? : CodePoint → Option Char
  | char c => some c
  | surrogate _ => none

theorem val_lt (c : CodePoint) : c.val < 0x110000 := by
  cases c with
  | char c =>
    have h := c.valid
    simp only [UInt32.isValidChar, Nat.isValidChar] at h
    show c.val.toNat < _
    omega
  | surrogate k => simp only [val]; omega

theorem val_ofNat {n : Nat} (h : n < 0x110000) : (ofNat n).val = n := by
  unfold ofNat
  split
  · simp only [val]; omega
  · simp only [val]
    have hv : n.isValidChar := by simp only [Nat.isValidChar]; omega
    rw [Char.ofNat, dif_pos hv]
    rfl

end CodePoint

/-- A text: a list of code points. -/
abbrev Str := List CodePoint

namespace Str

/-- The text of a string. -/
def ofString (s : String) : Str := s.toList.map CodePoint.char

instance : Coe String Str := ⟨ofString⟩

/-- The string of a text that holds no surrogate code. -/
def toString? (s : Str) : Option String :=
  (s.mapM CodePoint.char?).map String.ofList

/-- The string of a text in which each surrogate code is written as the replacement character
`U+FFFD`, for channels that carry strings only. -/
def toStringLossy (s : Str) : String :=
  String.ofList (s.map fun c => c.char?.getD '\uFFFD')

@[simp] theorem length_ofString (s : String) : (ofString s).length = s.length := by
  simp [ofString, String.length_toList]

@[simp] theorem ofString_append (s t : String) : ofString (s ++ t) = ofString s ++ ofString t := by
  simp [ofString]

theorem toString?_ofString (s : String) : toString? (ofString s) = some s := by
  have h : ∀ cs : List Char, (cs.map CodePoint.char).mapM CodePoint.char? = some cs := by
    intro cs
    induction cs with
    | nil => rfl
    | cons c cs ih => simp [List.mapM_cons, ih, CodePoint.char?]
  simp [toString?, ofString, h]

end Str

end SqlFront
