import EnclaveProver.Python.Hex

/-!
# `json.dumps` and `json.loads`

The server reads a request with `json.loads(raw.decode("utf-8"))` and answers with
`json.dumps(response).encode("utf-8")`: CPython's `json` with its defaults, whose work is done by the
C accelerator `Modules/_json.c`.

* `encode`, `dumps`: `c_make_encoder` with `ensure_ascii=True`, `allow_nan=True` and the separators
  `", "` and `": "`. A string goes through `encode_basestring_ascii`, which writes every character
  outside printable ASCII as `\uXXXX` (a surrogate pair above `U+FFFF`), so the text is ASCII;
* `dumpsWithin`: `json.dumps` raises `RecursionError` when a value nests deeper than the levels of
  recursion the interpreter has left where it is called (`nesting`);
* `loads`: `JSONDecoder.decode` over `scan_once_unicode`, with `scanstring_unicode` (`scanString`),
  `_parse_array_unicode` (`scanArray`), `_parse_object_unicode` (`scanObject`) and
  `_match_number_unicode` (`matchNumber`), each `JSONDecodeError` with its message and position;
  `decodeErrorText` is the `str()` of that error, the text after `Invalid JSON: `.

The model takes two things from its environment: `float(numstr)` of a number with a fraction or an
exponent (`floatOf`), whose shortest `repr` nothing here computes, and the recursion budget `limit`
of `Py_EnterRecursiveCall`, which depends on the frames below `json.loads` (on CPython 3.11 Python
frames and the C scanner and encoder draw on one counter). The messages are those of CPython 3.11
and 3.12 (3.13 names a comma before `]` or `}` `Illegal trailing comma`). `int(numstr)`
converts at most `maxStrDigits` digits and raises `ValueError` above; so does `int.__repr__` in
`json.dumps`, which `encode` leaves out: no value `json.loads` returns has such an integer, and none
that is `Loadable`.

Two outcomes are the model's own. A `\uXXXX` escape of a lone surrogate makes a Python `str` that no
Lean string holds: the scan stops there (`ScanError.surrogate`). The loops over the items of an
array or object and over the characters of a string are bounded by the length of the text
(`ScanError.exhausted`), a bound they never reach.
-/

namespace EnclaveProver.Python.JsonText

open EnclaveProver.Python.Value EnclaveProver.Python.Hex

/-! ### `json.dumps` -/

/-- The backspace, written and read as `\b`. -/
def backspace : Char := Char.ofNat 8

/-- The form feed, written and read as `\f`. -/
def formFeed : Char := Char.ofNat 12

/-- `\u` and the four lowercase hex digits of a UTF-16 code unit. -/
def uEscape (u : Nat) : List Char :=
  ['\\', 'u', Nat.digitChar (u / 4096 % 16), Nat.digitChar (u / 256 % 16), Nat.digitChar (u / 16 % 16),
    Nat.digitChar (u % 16)]

/-- **One character as `encode_basestring_ascii` writes it** (`ascii_escape_unichar`): printable
ASCII other than `"` and `\` as itself, the two-character escapes, and `\uXXXX` for every other
character, as a surrogate pair (`Py_UNICODE_HIGH_SURROGATE`, `Py_UNICODE_LOW_SURROGATE`) above
`U+FFFF`. -/
def escapeChar (c : Char) : List Char :=
  if ' ' ≤ c ∧ c ≤ '~' ∧ c ≠ '\\' ∧ c ≠ '"' then [c]
  else if c = '\\' then ['\\', '\\']
  else if c = '"' then ['\\', '"']
  else if c = backspace then ['\\', 'b']
  else if c = formFeed then ['\\', 'f']
  else if c = '\n' then ['\\', 'n']
  else if c = '\r' then ['\\', 'r']
  else if c = '\t' then ['\\', 't']
  else if 0x10000 ≤ c.toNat then
    uEscape (0xD800 + (c.toNat - 0x10000) / 0x400) ++ uEscape (0xDC00 + c.toNat % 0x400)
  else uEscape c.toNat

/-- `encode_basestring_ascii(s)`: the escaped characters between double quotes. -/
def encodeString (s : String) : List Char := '"' :: s.toList.flatMap escapeChar ++ ['"']

/-- A float as `encoder_encode_float` writes it: `NaN`, `Infinity` and `-Infinity` for the three
values JSON has no number for, `float.__repr__` for the others. -/
def floatText (x : PyFloat) : List Char :=
  if x.text = "nan" then "NaN".toList
  else if x.text = "inf" then "Infinity".toList
  else if x.text = "-inf" then "-Infinity".toList
  else x.text.toList

mutual
/-- **`json.dumps(v)`**, as characters. -/
def encode : Json → List Char
  | .null => "null".toList
  | .bool b => if b then "true".toList else "false".toList
  | .int n => (toString n).toList
  | .float x => floatText x
  | .str s => encodeString s
  | .list xs => '[' :: encodeItems xs ++ [']']
  | .dict ms => '\x7b' :: encodeMembers ms ++ ['\x7d']

/-- The items of a list, separated by `", "`. -/
def encodeItems : List Json → List Char
  | [] => []
  | [x] => encode x
  | x :: xs => encode x ++ ',' :: ' ' :: encodeItems xs

/-- The members of a dict, each `"key": value`, separated by `", "`. -/
def encodeMembers : List (String × Json) → List Char
  | [] => []
  | [(k, v)] => encodeString k ++ ':' :: ' ' :: encode v
  | (k, v) :: ms => encodeString k ++ ':' :: ' ' :: encode v ++ ',' :: ' ' :: encodeMembers ms
end

/-- **`json.dumps(v)`**. -/
def dumps (v : Json) : String := String.mk (encode v)

example : dumps (.dict [("type", .str "error"), ("requestId", .str "é\n")]) =
    "\x7b\"type\": \"error\", \"requestId\": \"\\u00e9\\n\"\x7d" := by decide

mutual
/-- **How deeply arrays and objects nest** in a value: the recursion budget `json.loads` needs. -/
def nesting : Json → Nat
  | .list xs => itemsNesting xs + 1
  | .dict ms => membersNesting ms + 1
  | _ => 0

/-- The deepest item. -/
def itemsNesting : List Json → Nat
  | [] => 0
  | x :: xs => max (nesting x) (itemsNesting xs)

/-- The deepest member's value. -/
def membersNesting : List (String × Json) → Nat
  | [] => 0
  | (_, v) :: ms => max (nesting v) (membersNesting ms)
end

example : nesting (.dict [("a", .list [.int 1]), ("b", .str "x")]) = 2 := by decide

/-- The text of the `RecursionError` the C encoder raises on entering a list or a dict past the
budget (`encoder_listencode_obj`, the same text for both). -/
def encodeRecursionText : String := "maximum recursion depth exceeded while encoding a JSON object"

/-- **Whether `json.dumps(v)` raises**, called where the interpreter has `n` levels of recursion
left: the C encoder enters one level for each list and dict it writes, and raises `RecursionError`
past the last. -/
def dumpsWithin (n : Nat) (v : Json) : Except String Unit :=
  if nesting v ≤ n then .ok () else .error encodeRecursionText

theorem dumpsWithin_of_le {n : Nat} {v : Json} (h : nesting v ≤ n) : dumpsWithin n v = .ok () :=
  if_pos h

theorem dumpsWithin_of_lt {n : Nat} {v : Json} (h : n < nesting v) :
    dumpsWithin n v = .error encodeRecursionText :=
  if_neg (Nat.not_le.mpr h)

/-! ### `json.loads` -/

/-- Why `json.loads` gives no value. -/
inductive ScanError where
  /-- `JSONDecodeError(msg, doc, pos)`; the position is the number of characters from it to the end
  of the text. -/
  | decode (msg : String) (left : Nat)
  /-- The `RecursionError` of `Py_EnterRecursiveCall`, with its text. -/
  | recursion (msg : String)
  /-- The `ValueError` of `int(numstr)` on too many digits, with its text. -/
  | value (msg : String)
  /-- A `\uXXXX` escape of a lone surrogate, which a Python `str` holds and a Lean string cannot. -/
  | surrogate (left : Nat)
  /-- A loop ran past its bound, the length of the text it reads: never (`loads_ne_exhausted`). -/
  | exhausted

/-- `IS_WHITESPACE`: the four characters JSON allows between tokens. -/
def IsWs (c : Char) : Prop := c = ' ' ∨ c = '\t' ∨ c = '\n' ∨ c = '\r'

instance : DecidablePred IsWs := fun _ => inferInstanceAs (Decidable (_ ∨ _))

/-- The text after the whitespace at its head. -/
def skipWs : List Char → List Char
  | [] => []
  | c :: s => if IsWs c then skipWs s else c :: s

/-! #### Strings -/

/-- A two-character escape `\e`: the character it stands for. -/
def simpleEscape (e : Char) : Option Char :=
  if e = '"' then some '"' else if e = '\\' then some '\\' else if e = '/' then some '/'
  else if e = 'b' then some backspace else if e = 'f' then some formFeed
  else if e = 'n' then some '\n' else if e = 'r' then some '\r' else if e = 't' then some '\t'
  else none

/-- The UTF-16 code unit four hex digits spell, either case. -/
def hex4 (a b c d : Char) : Option Nat :=
  match hexDigitValue a, hexDigitValue b, hexDigitValue c, hexDigitValue d with
  | some a, some b, some c, some d => some (((a * 16 + b) * 16 + c) * 16 + d)
  | _, _, _, _ => none

/-- `Py_UNICODE_IS_HIGH_SURROGATE`. -/
def IsHighSurrogate (u : Nat) : Prop := 0xD800 ≤ u ∧ u ≤ 0xDBFF

/-- `Py_UNICODE_IS_LOW_SURROGATE`. -/
def IsLowSurrogate (u : Nat) : Prop := 0xDC00 ≤ u ∧ u ≤ 0xDFFF

instance (u : Nat) : Decidable (IsHighSurrogate u) := inferInstanceAs (Decidable (_ ∧ _))

instance (u : Nat) : Decidable (IsLowSurrogate u) := inferInstanceAs (Decidable (_ ∧ _))

/-- `Py_UNICODE_JOIN_SURROGATES`: the ten low bits of each half under `U+10000`. -/
def joinSurrogates (hi lo : Nat) : Nat := 0x10000 + hi % 0x400 * 0x400 + lo % 0x400

/-- One step of `scanstring_unicode`'s loop. -/
inductive StrUnit where
  /-- The closing quote, and the text after it. -/
  | close (rest : List Char)
  /-- A character of the string, and the text after it. -/
  | char (c : Char) (rest : List Char)

/-- **A `\u` escape**, after its `u`: four hex digits with a character after them (`end >= len`
fails otherwise), both errors at the `u`. A high surrogate followed by the escape of a low one, with
a character after it (`end + 6 < len`), is the character the pair encodes. -/
def unicodeUnit (s : List Char) : Except ScanError StrUnit :=
  match s with
  | a :: b :: c :: d :: r =>
    match hex4 a b c d with
    | none => .error (.decode "Invalid \\uXXXX escape" (s.length + 1))
    | some u =>
      if r = [] then .error (.decode "Invalid \\uXXXX escape" (s.length + 1))
      else if IsHighSurrogate u then
        match r with
        | p :: q :: e :: f :: g :: h :: r' =>
          if p = '\\' ∧ q = 'u' ∧ r' ≠ [] then
            match hex4 e f g h with
            | none => .error (.decode "Invalid \\uXXXX escape" (r.length - 1))
            | some lo =>
              if IsLowSurrogate lo then .ok (.char (Char.ofNat (joinSurrogates u lo)) r')
              else .error (.surrogate (s.length + 1))
          else .error (.surrogate (s.length + 1))
        | _ => .error (.surrogate (s.length + 1))
      else if IsLowSurrogate u then .error (.surrogate (s.length + 1))
      else .ok (.char (Char.ofNat u) r)
  | _ => .error (.decode "Invalid \\uXXXX escape" (s.length + 1))

/-- An escape, after its backslash; `begin` is where the string started. -/
def escapeUnit (begin : Nat) : List Char → Except ScanError StrUnit
  | [] => .error (.decode "Unterminated string starting at" begin)
  | e :: s =>
    if e = 'u' then unicodeUnit s
    else match simpleEscape e with
      | some c => .ok (.char c s)
      | none => .error (.decode "Invalid \\escape" (s.length + 2))

/-- **One unit of a string**: the closing quote, an escape, or a character that is not a control
character (`strict=True`). -/
def stringUnit (begin : Nat) : List Char → Except ScanError StrUnit
  | [] => .error (.decode "Unterminated string starting at" begin)
  | c :: s =>
    if c = '"' then .ok (.close s)
    else if c = '\\' then escapeUnit begin s
    else if c.toNat ≤ 0x1F then .error (.decode "Invalid control character at" (s.length + 1))
    else .ok (.char c s)

/-- **`scanstring_unicode`** after the opening quote, at position `begin`: the characters of the
string and the text after its closing quote. -/
def scanString (begin : Nat) : Nat → List Char → Except ScanError (List Char × List Char)
  | 0, _ => .error .exhausted
  | fuel + 1, s => do
    match ← stringUnit begin s with
    | .close r => pure ([], r)
    | .char c r =>
      let (cs, r) ← scanString begin fuel r
      pure (c :: cs, r)

/-! #### Numbers and constants -/

/-- The run of decimal digits at the head of a text, and the text after it. -/
def spanDigits : List Char → List Char × List Char
  | [] => ([], [])
  | c :: s => if c.isDigit then ((c :: (spanDigits s).1), (spanDigits s).2) else ([], c :: s)

/-- The integer part of a number: `0`, or a digit `1–9` and the digits after it. -/
def intPart : List Char → Option (List Char × List Char)
  | [] => none
  | c :: s =>
    if c = '0' then some (['0'], s)
    else if c.isDigit then some (c :: (spanDigits s).1, (spanDigits s).2)
    else none

/-- A fraction: `.` and at least one digit, or nothing. -/
def fracPart (s : List Char) : List Char × List Char :=
  match s with
  | p :: d :: r => if p = '.' ∧ d.isDigit then (p :: d :: (spanDigits r).1, (spanDigits r).2) else ([], s)
  | _ => ([], s)

/-- A sign at the head of a text: the sign, and the text after it. -/
def signPart (signs : List Char) : List Char → List Char × List Char
  | [] => ([], [])
  | c :: t => if c ∈ signs then ([c], t) else ([], c :: t)

/-- An exponent: `e` or `E`, an optional sign and at least one digit, or nothing (the scanner goes
back to before the `e`). -/
def expPart (s : List Char) : List Char × List Char :=
  match s with
  | [] => ([], [])
  | e :: r =>
    if (e = 'e' ∨ e = 'E') ∧ (spanDigits (signPart ['+', '-'] r).2).1 ≠ [] then
      (e :: (signPart ['+', '-'] r).1 ++ (spanDigits (signPart ['+', '-'] r).2).1,
        (spanDigits (signPart ['+', '-'] r).2).2)
    else ([], s)

/-- **`_match_number_unicode`**: the text of the number at the head of `s`, whether it has a
fraction or an exponent (then it is a float), and the rest; none when no integer part follows the
optional minus sign. -/
def matchNumber (s : List Char) : Option (List Char × Bool × List Char) :=
  match intPart (signPart ['-'] s).2 with
  | none => none
  | some (i, r) =>
    some ((signPart ['-'] s).1 ++ i ++ (fracPart r).1 ++ (expPart (fracPart r).2).1,
      !(fracPart r).1.isEmpty || !(expPart (fracPart r).2).1.isEmpty, (expPart (fracPart r).2).2)

/-- The value of a run of decimal digits. -/
def digitsValue (ds : List Char) : Nat := ds.foldl (fun n d => 10 * n + (d.toNat - '0'.toNat)) 0

/-- `int(numstr)` of the text of an integer. -/
def intOfText : List Char → Int
  | [] => 0
  | c :: ds => if c = '-' then -(digitsValue ds : Int) else digitsValue (c :: ds)

/-- `sys.get_int_max_str_digits()`: the most decimal digits `int()` converts, 4300 unless the program
sets it (CPython 3.11 on). -/
def maxStrDigits : Nat := 4300

/-- The decimal digits of a number's text. -/
def digitCount (text : List Char) : Nat := (text.filter Char.isDigit).length

/-- The text of the `ValueError` of `int()` on a text of `digits` decimal digits
(`_MAX_STR_DIGITS_ERROR_FMT_TO_INT`). -/
def intLimitText (digits : Nat) : String :=
  "Exceeds the limit (" ++ toString maxStrDigits ++ " digits) for integer string conversion: value has " ++
    toString digits ++ " digits; use sys.set_int_max_str_digits() to increase the limit"

/-- A number: `float(numstr)`, or `int(numstr)`, which raises `ValueError` above `maxStrDigits`
digits; `StopIteration` where none starts. -/
def scanNumber (floatOf : String → PyFloat) (s : List Char) : Except ScanError (Json × List Char) :=
  match matchNumber s with
  | none => .error (.decode "Expecting value" s.length)
  | some (text, isFloat, r) =>
    if isFloat then .ok (.float (floatOf (String.mk text)), r)
    else if maxStrDigits < digitCount text then .error (.value (intLimitText (digitCount text)))
    else .ok (.int (intOfText text), r)

/-- `float('nan')`, which `parse_constant` gives for `NaN`. -/
def nan : PyFloat := ⟨"nan", true⟩

/-- `float('inf')`, for `Infinity`. -/
def inf : PyFloat := ⟨"inf", true⟩

/-- `float('-inf')`, for `-Infinity`. -/
def negInf : PyFloat := ⟨"-inf", true⟩

/-- The named constants `scan_once_unicode` reads, by their first character. -/
def namedConstant (s : List Char) : Option (Json × List Char) :=
  if "null".toList <+: s then some (.null, s.drop 4)
  else if "true".toList <+: s then some (.bool true, s.drop 4)
  else if "false".toList <+: s then some (.bool false, s.drop 5)
  else if "NaN".toList <+: s then some (.float nan, s.drop 3)
  else if "Infinity".toList <+: s then some (.float inf, s.drop 8)
  else if "-Infinity".toList <+: s then some (.float negInf, s.drop 9)
  else none

/-! #### Arrays and objects -/

/-- What follows an item of an array or an object. -/
inductive Follow where
  /-- The closing bracket, and the text after it. -/
  | close (rest : List Char)
  /-- A comma, and the text after it and its whitespace. -/
  | comma (rest : List Char)

/-- After an item: whitespace, then the closing bracket `close` or a comma. -/
def follow (close : Char) (r : List Char) : Except ScanError Follow :=
  match skipWs r with
  | [] => .error (.decode "Expecting ',' delimiter" 0)
  | c :: r' =>
    if c = close then .ok (.close r')
    else if c = ',' then .ok (.comma (skipWs r'))
    else .error (.decode "Expecting ',' delimiter" (r'.length + 1))

/-- `PyDict_SetItem` on the dict being built: a new key goes last, a key already there keeps its
place and takes the new value. -/
def setItem (d : Dict) (k : String) (v : Json) : Dict :=
  if (d.lookup k).isSome then d.map (fun m => if m.1 = k then (k, v) else m) else d ++ [(k, v)]

/-- A key and its colon: the key's string, whitespace, `:` and whitespace. -/
def scanKey (s : List Char) : Except ScanError (String × List Char) :=
  match s with
  | [] => .error (.decode "Expecting property name enclosed in double quotes" 0)
  | c :: s' =>
    if c = '"' then do
      let (k, r) ← scanString s.length (s'.length + 1) s'
      match skipWs r with
      | [] => .error (.decode "Expecting ':' delimiter" 0)
      | c :: r =>
        if c = ':' then pure (String.mk k, skipWs r)
        else .error (.decode "Expecting ':' delimiter" (r.length + 1))
    else .error (.decode "Expecting property name enclosed in double quotes" s.length)

/-- **The loop of `_parse_array_unicode`**, from an item read by `scan`. -/
def scanItems (scan : List Char → Except ScanError (Json × List Char)) :
    Nat → List Json → List Char → Except ScanError (Json × List Char)
  | 0, _, _ => .error .exhausted
  | fuel + 1, acc, s => do
    let (v, r) ← scan s
    match ← follow ']' r with
    | .close r => pure (.list (acc ++ [v]), r)
    | .comma r => scanItems scan fuel (acc ++ [v]) r

/-- **The loop of `_parse_object_unicode`**, from a key. -/
def scanMembers (scan : List Char → Except ScanError (Json × List Char)) :
    Nat → Dict → List Char → Except ScanError (Json × List Char)
  | 0, _, _ => .error .exhausted
  | fuel + 1, acc, s => do
    let (k, r) ← scanKey s
    let (v, r) ← scan r
    match ← follow '\x7d' r with
    | .close r => pure (.dict (setItem acc k v), r)
    | .comma r => scanMembers scan fuel (setItem acc k v) r

/-- **`_parse_array_unicode`** after the `[`. -/
def scanArray (scan : List Char → Except ScanError (Json × List Char)) (s : List Char) :
    Except ScanError (Json × List Char) :=
  if (skipWs s).head? = some ']' then .ok (.list [], (skipWs s).tail)
  else scanItems scan ((skipWs s).length + 1) [] (skipWs s)

/-- **`_parse_object_unicode`** after the opening brace. -/
def scanObject (scan : List Char → Except ScanError (Json × List Char)) (s : List Char) :
    Except ScanError (Json × List Char) :=
  if (skipWs s).head? = some '\x7d' then .ok (.dict [], (skipWs s).tail)
  else scanMembers scan ((skipWs s).length + 1) [] (skipWs s)

/-- The text of the `RecursionError` on entering an array or an object. -/
def recursionText (what : String) : String :=
  "maximum recursion depth exceeded while decoding a JSON " ++ what ++ " from a unicode string"

/-- **`scan_once_unicode`** with `n` more nested arrays and objects allowed. -/
def scanValue (floatOf : String → PyFloat) : Nat → List Char → Except ScanError (Json × List Char)
  | _, [] => .error (.decode "Expecting value" 0)
  | n, c :: s =>
    if c = '"' then do
      let (cs, r) ← scanString (s.length + 1) (s.length + 1) s
      pure (.str (String.mk cs), r)
    else if c = '\x7b' then
      match n with
      | 0 => .error (.recursion (recursionText "object"))
      | n + 1 => scanObject (scanValue floatOf n) s
    else if c = '[' then
      match n with
      | 0 => .error (.recursion (recursionText "array"))
      | n + 1 => scanArray (scanValue floatOf n) s
    else match namedConstant (c :: s) with
      | some p => .ok p
      | none => scanNumber floatOf (c :: s)

/-- **`json.loads(doc)`** of a `str`: a byte order mark is refused, then `JSONDecoder.decode` skips
whitespace, scans one value and allows only whitespace after it. -/
def loads (floatOf : String → PyFloat) (limit : Nat) (doc : String) : Except ScanError Json :=
  if doc.toList.head? = some '\uFEFF' then
    .error (.decode "Unexpected UTF-8 BOM (decode using utf-8-sig)" doc.length)
  else do
    let (v, r) ← scanValue floatOf limit (skipWs doc.toList)
    if skipWs r = [] then pure v else .error (.decode "Extra data" (skipWs r).length)

/-- **`str()` of `JSONDecodeError(msg, doc, pos)`**: `%s: line %d column %d (char %d)`, the line
counted from the newlines before `pos` and the column from the last of them. -/
def decodeErrorText (doc msg : String) (left : Nat) : String :=
  let pos := doc.length - left
  let before := doc.toList.take pos
  msg ++ ": line " ++ toString (before.count '\n' + 1) ++ " column " ++
    toString ((before.reverse.takeWhile (· ≠ '\n')).length + 1) ++ " (char " ++ toString pos ++ ")"

end EnclaveProver.Python.JsonText
