import Mathlib.Data.List.Infix

/-!
# Python values, as the server reads them

`json.loads` hands the server `None`, booleans, integers, floats, strings, lists and dicts. The
handlers read such a value only through its truth value, `dict.get`, `isinstance(_, list)`, the name
of its type (in the texts of the `TypeError`s it can raise) and `str()` (in f-strings: the workspace
prefix `proof-<requestId>-` and the error texts). `Json` is the value, `Dict` the members of a dict in
insertion order.

A float is kept as what the server reads of it: its `str()` text and its truth value. Inside a list
or a dict `str()` writes the `repr` of each string; `strRepr` escapes as CPython's `unicode_repr` does
on ASCII and keeps every other character as it is (CPython also escapes the non-printable ones
outside ASCII, which no result here depends on).
-/

namespace EnclaveProver.Python.Value

/-- A Python `float`, as far as the server reads one: its `str()` text and its truth value. -/
structure PyFloat where
  text : String
  truthy : Bool

/-- **A value `json.loads` returns.** A dict keeps its members in insertion order. -/
inductive Json where
  | null
  | bool (b : Bool)
  | int (n : Int)
  | float (x : PyFloat)
  | str (s : String)
  | list (xs : List Json)
  | dict (members : List (String × Json))

/-- The members of a dict, in insertion order. -/
abbrev Dict := List (String × Json)

/-- `d.get(key, default)`: the value bound to `key`, or `default`. A dict binds a key once, so the
first binding is the only one. -/
def Dict.get (d : Dict) (key : String) (default : Json) : Json :=
  (d.lookup key).getD default

/-- Python's truth value, `bool(v)`. -/
def Json.truthy : Json → Bool
  | .null => false
  | .bool b => b
  | .int n => n != 0
  | .float x => x.truthy
  | .str s => s != ""
  | .list xs => !xs.isEmpty
  | .dict ms => !ms.isEmpty

/-- `type(v).__name__`. -/
def Json.typeName : Json → String
  | .null => "NoneType"
  | .bool _ => "bool"
  | .int _ => "int"
  | .float _ => "float"
  | .str _ => "str"
  | .list _ => "list"
  | .dict _ => "dict"

/-- `s.split(sep)` for a one-character separator, on the characters of `s`. -/
def splitOn (sep : Char) : List Char → List (List Char)
  | [] => [[]]
  | c :: cs =>
    match splitOn sep cs with
    | [] => [[c]]
    | w :: ws => if c = sep then [] :: w :: ws else (c :: w) :: ws

theorem splitOn_ne_nil (sep : Char) (l : List Char) : splitOn sep l ≠ [] := by
  cases l with
  | nil => simp [splitOn]
  | cons c cs => simp only [splitOn]; split <;> [skip; split] <;> simp

theorem splitOn_of_not_mem {sep : Char} {a : List Char} (h : sep ∉ a) : splitOn sep a = [a] := by
  induction a with
  | nil => rfl
  | cons c cs ih =>
    have hc : c ≠ sep := fun hc => h (hc ▸ List.mem_cons_self _ _)
    simp [splitOn, ih (fun hm => h (List.mem_cons_of_mem _ hm)), hc]

/-- A separator splits the text in two. -/
theorem splitOn_append_sep (sep : Char) (a b : List Char) :
    splitOn sep (a ++ sep :: b) = splitOn sep a ++ splitOn sep b := by
  induction a with
  | nil =>
    obtain ⟨w, ws, hw⟩ := List.exists_cons_of_ne_nil (splitOn_ne_nil sep b)
    simp [splitOn, hw]
  | cons c cs ih =>
    obtain ⟨w, ws, hw⟩ := List.exists_cons_of_ne_nil (splitOn_ne_nil sep cs)
    simp only [List.cons_append, splitOn, List.append_eq, ih, hw, List.cons_append]
    split <;> simp

/-- Pieces without the separator, each after a separator, and a separator at the end: the pieces
and an empty last one. -/
theorem splitOn_lines (sep : Char) (a : List Char) (bs : List (List Char)) (ha : sep ∉ a)
    (hbs : ∀ b ∈ bs, sep ∉ b) :
    splitOn sep (a ++ (bs.map (sep :: ·)).flatten ++ [sep]) = a :: bs ++ [[]] := by
  induction bs generalizing a with
  | nil => simpa [splitOn_of_not_mem ha, splitOn] using splitOn_append_sep sep a []
  | cons b bs ih =>
    simp only [List.map_cons, List.flatten_cons, List.cons_append, List.append_assoc]
    rw [splitOn_append_sep, splitOn_of_not_mem ha, ← List.append_assoc,
      ih b (hbs b (List.mem_cons_self _ _)) (fun b hb => hbs b (List.mem_cons_of_mem _ hb))]
    rfl

/-! ### `str()` and `repr()` -/

/-- The apostrophe, `repr`'s default quote. -/
def singleQuote : Char := Char.ofNat 39

/-- The double quote. -/
def doubleQuote : Char := Char.ofNat 34

/-- The backslash. -/
def backslash : Char := Char.ofNat 92

/-- Two lowercase hex digits of a number below 256. -/
def hex2 (n : Nat) : String := String.mk [Nat.digitChar (n / 16), Nat.digitChar (n % 16)]

/-- One character of a string's `repr` written between the quotes `q`. -/
def reprChar (q c : Char) : String :=
  if c = q ∨ c = backslash then String.mk [backslash, c]
  else if c = '\t' then "\\t"
  else if c = '\n' then "\\n"
  else if c = '\r' then "\\r"
  else if c.toNat < 0x20 ∨ c.toNat = 0x7f then "\\x" ++ hex2 c.toNat
  else c.toString

/-- `repr(s)` of a string: apostrophes around it, double quotes when it holds an apostrophe and no
double quote. -/
def strRepr (s : String) : String :=
  let q := if s.toList.contains singleQuote && !s.toList.contains doubleQuote then doubleQuote
    else singleQuote
  q.toString ++ String.join (s.toList.map (reprChar q)) ++ q.toString

mutual
/-- `repr(v)`. -/
def Json.pyRepr : Json → String
  | .null => "None"
  | .bool b => if b then "True" else "False"
  | .int n => toString n
  | .float x => x.text
  | .str s => strRepr s
  | .list xs => "[" ++ Json.reprList xs ++ "]"
  | .dict ms => "\x7b" ++ Json.reprMembers ms ++ "\x7d"

/-- The items of a list's `repr`, separated by `, `. -/
def Json.reprList : List Json → String
  | [] => ""
  | [x] => x.pyRepr
  | x :: xs => x.pyRepr ++ ", " ++ Json.reprList xs

/-- The members of a dict's `repr`, separated by `, `. -/
def Json.reprMembers : List (String × Json) → String
  | [] => ""
  | [(k, v)] => strRepr k ++ ": " ++ v.pyRepr
  | (k, v) :: ms => strRepr k ++ ": " ++ v.pyRepr ++ ", " ++ Json.reprMembers ms
end

/-- `str(v)`, what an f-string writes: a string itself, every other value its `repr`. -/
def Json.pyStr : Json → String
  | .str s => s
  | v => v.pyRepr

theorem mk_eq_empty_iff {l : List Char} : String.mk l = "" ↔ l = [] :=
  ⟨fun h => congrArg String.data h, fun h => h ▸ rfl⟩

@[simp] theorem Json.pyStr_str (s : String) : (Json.str s).pyStr = s := rfl

@[simp] theorem Json.truthy_str (s : String) : (Json.str s).truthy = (s != "") := rfl

@[simp] theorem Json.truthy_null : Json.null.truthy = false := rfl

example : (Json.list [.str "a/b", .int 3]).pyStr = "['a/b', 3]" := by decide

end EnclaveProver.Python.Value
