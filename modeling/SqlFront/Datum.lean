import SqlFront.Text.Quoted
import SqlFront.Text.Layout
import SqlFront.Text.Shortest
/-!
# Data

A `Datum` is a value of the data format in which a tree or a list of tokens can be written by
hand: nothing, a truth value, a whole number, a double, a text, a list, or a map from texts to
data; and the fixed-length sequences (*tuples*) that a tree written by hand makes of its column
definitions and assignments. A tree built by the parser holds only texts, nothing and tuples; a
tree written by hand may hold any datum where a name, a value or a list is expected, and the
analysis and the printer then treat it by the rules of this module.

## Rules

* *Written form.* `Datum.written` writes nothing as `None`, truth values as `True` and `False`,
  whole numbers in decimal, doubles as their shortest decimal (`Text.floatText`), a text as
  itself, and a list, tuple or map in brackets, parentheses or braces with each item in its
  *quoted form* (`Datum.quoted`): texts quoted, everything else as written. A tuple of one item
  has a comma after it.
* *Keys.* Lists and maps cannot be keys; a tuple can when its items can, and every other datum
  can. Two keys are the same when they are the same text, the same number, or tuples of the
  same keys, where `False` is the number `0`, `True` the number `1`, and a double that is a
  whole number that number.
* *Truth.* Nothing, `False`, `0`, `0.0`, the empty text, list, tuple and map are false; all else
  is true.
* *Items.* A list or tuple has its elements as items, a text its code points, a map its keys;
  nothing, a truth value and a number have none, and asking for their items is a fault.
* *Counts.* A whole number can be used as a count, and so can a truth value, as the number it
  counts as; using any other datum as a count is a fault.
-/

namespace SqlFront

/-- A value of the data format. -/
inductive Datum where
  | none
  | bool (b : Bool)
  | int (n : Int)
  | float (x : Float)
  | str (s : Str)
  | list (items : List Datum)
  | tuple (items : List Datum)
  | dict (entries : List (Str × Datum))
  deriving Repr, Inhabited

/-- A fault of an operation applied to a datum of the wrong shape. -/
inductive Fault where
  /-- Asking for the items of a datum that has none. -/
  | notIterable (type : String)
  /-- Asking for the size of a datum that has none. -/
  | noLength (type : String)
  /-- Asking for a numbered item of a datum that has none. -/
  | notSubscriptable (type : String)
  /-- Asking for an item past the end of a list or text. -/
  | indexOutOfRange (container : String)
  /-- Asking a map for a key it lacks; the key in its quoted form. -/
  | missingKey (key : String)
  /-- Taking a pair apart from a datum that has no items. -/
  | cannotUnpack (type : String)
  /-- Taking a pair apart from more than two items. -/
  | tooManyValues
  /-- Taking a pair apart from fewer than two items. -/
  | tooFewValues (got : Nat)
  /-- Laying out in a column a datum that cannot be laid out. -/
  | unsupportedFormat (type : String)
  /-- Using as a count a datum that is not a whole number. -/
  | notAnInteger (type : String)
  /-- Calling `function` with an argument named `key` that it does not take. -/
  | unexpectedKeyword (function : String) (key : Str)
  /-- Looking up, among keys, a datum that cannot be a key. -/
  | unhashable (type : String)
  deriving DecidableEq, Repr

namespace Fault

/-- The class of the fault. -/
def kind : Fault → String
  | notIterable _ | noLength _ | notSubscriptable _ | cannotUnpack _ | unsupportedFormat _
  | notAnInteger _ | unexpectedKeyword _ _ | unhashable _ => "TypeError"
  | indexOutOfRange _ => "IndexError"
  | missingKey _ => "KeyError"
  | tooManyValues | tooFewValues _ => "ValueError"

/-- The message of the fault. -/
def message : Fault → Str
  | notIterable t => "'" ++ t ++ "' object is not iterable"
  | noLength t => "object of type '" ++ t ++ "' has no len()"
  | notSubscriptable t => "'" ++ t ++ "' object is not subscriptable"
  | indexOutOfRange c => c ++ " index out of range"
  | missingKey k => k
  | cannotUnpack t => "cannot unpack non-iterable " ++ t ++ " object"
  | tooManyValues => "too many values to unpack (expected 2)"
  | tooFewValues n => "not enough values to unpack (expected 2, got " ++ toString n ++ ")"
  | unsupportedFormat t => "unsupported format string passed to " ++ t ++ ".__format__"
  | notAnInteger t => "'" ++ t ++ "' object cannot be interpreted as an integer"
  | unexpectedKeyword f k =>
    Str.ofString (f ++ "() got an unexpected keyword argument '") ++ k ++ Str.ofString "'"
  | unhashable t => "unhashable type: '" ++ t ++ "'"

end Fault

/-- A datum that can name a table or a column, in the form by which two names are compared:
a number that is not whole is kept as the bits of its double. -/
inductive Key where
  | none
  | int (n : Int)
  | float (bits : UInt64)
  | str (s : Str)
  | tuple (items : List Key)
  deriving Repr

namespace Key

mutual

/-- Whether two keys are the same. -/
def same : Key → Key → Bool
  | none, none => true
  | int a, int b => a == b
  | float a, float b => a == b
  | str a, str b => a == b
  | tuple xs, tuple ys => sameAll xs ys
  | _, _ => false

/-- Whether two lists of keys are the same, item by item. -/
def sameAll : List Key → List Key → Bool
  | [], [] => true
  | x :: xs, y :: ys => same x y && sameAll xs ys
  | _, _ => false

end

instance : BEq Key := ⟨same⟩

end Key

/-- The key of a double: the whole number it is, or else its bits. -/
def Key.ofFloat (x : Float) : Key :=
  match Text.Binary64.ofFloat x with
  | .zero _ => .int 0
  | .finite neg m q _ =>
    let whole : Option Nat :=
      if q ≥ 0 then some (m * Nat.pow 2 q.toNat)
      else if m % Nat.pow 2 (-q).toNat = 0 then some (m / Nat.pow 2 (-q).toNat) else Option.none
    match whole with
    | some n => .int (if neg then -(n : Int) else n)
    | Option.none => .float x.toBits
  | _ => .float x.toBits

namespace Datum

/-- The name of the datum's class. -/
def typeName : Datum → String
  | none => "NoneType"
  | bool _ => "bool"
  | int _ => "int"
  | float _ => "float"
  | str _ => "str"
  | list _ => "list"
  | tuple _ => "tuple"
  | dict _ => "dict"

/-- The written form of a number. -/
def showInt (n : Int) : String := toString n

/-- The written form of a tuple's items, already quoted. -/
def tupleText : List String → String
  | [x] => "(" ++ x ++ ",)"
  | xs => "(" ++ ", ".intercalate xs ++ ")"

mutual

/-- The quoted form of a datum: a text quoted, anything else written. -/
def quoted : Datum → String
  | str s => Text.quote s
  | none => "None"
  | bool b => if b then "True" else "False"
  | int n => showInt n
  | float x => Text.floatText x
  | list xs => "[" ++ ", ".intercalate (quotedAll xs) ++ "]"
  | tuple xs => tupleText (quotedAll xs)
  | dict es => "\x7b" ++ ", ".intercalate (quotedEntries es) ++ "\x7d"

/-- The quoted forms of the items of a list. -/
def quotedAll : List Datum → List String
  | [] => []
  | x :: xs => quoted x :: quotedAll xs

/-- The quoted forms of the entries of a map, as `key: value`. -/
def quotedEntries : List (Str × Datum) → List String
  | [] => []
  | (k, v) :: es => (Text.quote k ++ ": " ++ quoted v) :: quotedEntries es

end

/-- The written form of a datum. -/
def written : Datum → Str
  | str s => s
  | d => Str.ofString (quoted d)

/-- Whether the datum counts as true. -/
def truthy : Datum → Bool
  | none => false
  | bool b => b
  | int n => n != 0
  | float x => !(x == 0.0)
  | str s => !s.isEmpty
  | list xs => !xs.isEmpty
  | tuple xs => !xs.isEmpty
  | dict es => !es.isEmpty

/-- The datum if it counts as true, and `fallback` otherwise. -/
def orElse (d fallback : Datum) : Datum := if d.truthy then d else fallback

mutual

/-- The key of a datum that can be a name. -/
def key? : Datum → Option Key
  | none => some .none
  | bool b => some (.int (if b then 1 else 0))
  | int n => some (.int n)
  | float x => some (Key.ofFloat x)
  | str s => some (.str s)
  | tuple xs => (keysOf xs).map .tuple
  | list _ | dict _ => Option.none

/-- The keys of the items of a tuple, if all of them have one. -/
def keysOf : List Datum → Option (List Key)
  | [] => some []
  | x :: xs => match key? x, keysOf xs with
    | some k, some ks => some (k :: ks)
    | _, _ => Option.none

end

/-- The key of a datum, or the fault of looking up one that has none. -/
def key (d : Datum) : Except Fault Key :=
  match d.key? with
  | some k => .ok k
  | Option.none => .error (.unhashable d.typeName)

/-- The items of a datum: the elements of a list or tuple, the code points of a text, the keys
of a map. -/
def items : Datum → Except Fault (List Datum)
  | list xs => .ok xs
  | tuple xs => .ok xs
  | str s => .ok (s.map fun c => str [c])
  | dict es => .ok (es.map fun e => str e.1)
  | d => .error (.notIterable d.typeName)

/-- The number of items of a list, tuple, text or map. -/
def size : Datum → Except Fault Nat
  | list xs => .ok xs.length
  | tuple xs => .ok xs.length
  | str s => .ok s.length
  | dict es => .ok es.length
  | d => .error (.noLength d.typeName)

/-- The two items of a datum that has exactly two. -/
def pair : Datum → Except Fault (Datum × Datum)
  | d =>
    match d.items with
    | .error _ => .error (.cannotUnpack d.typeName)
    | .ok [a, b] => .ok (a, b)
    | .ok xs => if xs.length > 2 then .error .tooManyValues else .error (.tooFewValues xs.length)

/-- The item numbered `i`, from 0: of a list, tuple or text by position, of a map by the key
`i`, which a map of texts never has. -/
def index (i : Nat) : Datum → Except Fault Datum
  | list xs =>
    match xs[i]? with
    | some x => .ok x
    | Option.none => .error (.indexOutOfRange "list")
  | tuple xs =>
    match xs[i]? with
    | some x => .ok x
    | Option.none => .error (.indexOutOfRange "tuple")
  | str s =>
    match s[i]? with
    | some c => .ok (str [c])
    | Option.none => .error (.indexOutOfRange "string")
  | dict _ => .error (.missingKey (toString i))
  | d => .error (.notSubscriptable d.typeName)

/-- The datum laid out in a column of `width` code points: a text or a number padded on the
right, a truth value as the number it counts as; nothing and the containers cannot be laid
out. -/
def padded (width : Nat) : Datum → Except Fault Str
  | str s => .ok (Text.padRight width s)
  | int n => .ok (Text.padRight width (showInt n))
  | float x => .ok (Text.padRight width (Text.floatText x))
  | bool b => .ok (Text.padRight width (if b then "1" else "0"))
  | d => .error (.unsupportedFormat d.typeName)

/-- The datum used as a count: a number, or a truth value as the number it counts as. -/
def asInt : Datum → Except Fault Int
  | int n => .ok n
  | bool b => .ok (if b then 1 else 0)
  | d => .error (.notAnInteger d.typeName)

example : (list [str "*", int 1, none, bool true]).quoted = "['*', 1, None, True]" := by
  decide +kernel
example : (dict [("a", list [])]).quoted = "\x7b'a': []\x7d" := by decide +kernel
example : (tuple [str "a"]).quoted = "('a',)" := by decide +kernel
example : (list [str [.surrogate 2047]]).quoted = "['\\udfff']" := by decide +kernel

end Datum

end SqlFront
