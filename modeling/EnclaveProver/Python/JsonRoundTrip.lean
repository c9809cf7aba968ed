import EnclaveProver.Python.JsonText
import Mathlib.Data.Nat.Digits

/-!
# `json.loads` reads back what `json.dumps` writes

The wire of the prover is one `json.dumps` text each way, read with `json.loads`; this module shows
that nothing is lost on it.

* `scanString_escape`: `scanstring_unicode` reads back what `encode_basestring_ascii` writes, every
  escape included, surrogate pairs too;
* `matchNumber_append`, `scanValue_int`: a number is read to its end and no further, and an
  integer's `repr` reads back as the integer;
* `loads_dumps`: `json.loads(json.dumps(v)) == v` for every value whose dicts have distinct keys,
  whose integers `int()` converts and whose floats read back as themselves (`Loadable`), nested no
  deeper than the recursion budget;
* `loads_dumps_deep`: the converse: one nested deeper raises `RecursionError` (`TooDeep`), after
  reading every array and object before the first that has no budget left.
-/

namespace EnclaveProver.Python.JsonText

open EnclaveProver.Python.Value EnclaveProver.Python.Hex

@[simp] theorem ok_bind {ε α β : Type} (a : α) (f : α → Except ε β) : (Except.ok a >>= f) = f a := rfl

/-! ### Whitespace and what follows a value -/

/-- What may follow a value in `json.dumps`'s text: nothing, a comma, or a closing bracket. -/
def Delim (r : List Char) : Prop := ∀ c ∈ r.head?, c = ',' ∨ c = ']' ∨ c = '\x7d'

theorem delim_nil : Delim [] := by simp [Delim]

theorem delim_cons {c : Char} (r : List Char) (h : c = ',' ∨ c = ']' ∨ c = '\x7d') : Delim (c :: r) := by
  simpa [Delim] using h

@[simp] theorem skipWs_cons_of_not {c : Char} (s : List Char) (h : ¬ IsWs c) : skipWs (c :: s) = c :: s := by
  simp [skipWs, h]

@[simp] theorem skipWs_space (s : List Char) : skipWs (' ' :: s) = skipWs s := by
  simp [skipWs, IsWs]

/-! ### Strings -/

theorem hex4_uEscape {u : Nat} (h : u < 0x10000) :
    hex4 (Nat.digitChar (u / 4096 % 16)) (Nat.digitChar (u / 256 % 16)) (Nat.digitChar (u / 16 % 16))
      (Nat.digitChar (u % 16)) = some u := by
  simp only [hex4, hexDigitValue_digitChar (Nat.mod_lt _ (by decide : 0 < 16))]
  congr 1
  omega

/-- Four hex digits of a code unit that is not a surrogate, with a character after them. -/
theorem unicodeUnit_of_hex {a b c d : Char} {u : Nat} (r : List Char) (hu : hex4 a b c d = some u)
    (hr : r ≠ []) (hhi : ¬ IsHighSurrogate u) (hlo : ¬ IsLowSurrogate u) :
    unicodeUnit (a :: b :: c :: d :: r) = .ok (.char (Char.ofNat u) r) := by
  simp [unicodeUnit, hu, hr, hhi, hlo]

/-- The escapes of a high and a low surrogate, with a character after them. -/
theorem unicodeUnit_of_pair {a b c d e f g h : Char} {hi lo : Nat} (r : List Char)
    (h1 : hex4 a b c d = some hi) (h2 : hex4 e f g h = some lo) (hr : r ≠ []) (hhi : IsHighSurrogate hi)
    (hlo : IsLowSurrogate lo) :
    unicodeUnit (a :: b :: c :: d :: '\\' :: 'u' :: e :: f :: g :: h :: r) =
      .ok (.char (Char.ofNat (joinSurrogates hi lo)) r) := by
  simp [unicodeUnit, h1, h2, hr, hhi, hlo]

/-- **One character of `encode_basestring_ascii`, read back**: `scanstring_unicode` takes its
escape, whatever it is, for the character, provided a character follows. -/
theorem stringUnit_escapeChar (begin : Nat) (c : Char) (t : List Char) (ht : t ≠ []) :
    stringUnit begin (escapeChar c ++ t) = .ok (.char c t) := by
  have hv : c.toNat < 0xD800 ∨ (0xDFFF < c.toNat ∧ c.toNat < 0x110000) := c.valid
  rw [escapeChar]
  by_cases h1 : ' ' ≤ c ∧ c ≤ '~' ∧ c ≠ '\\' ∧ c ≠ '"'
  · have h32 : 32 ≤ c.toNat := h1.1
    rw [if_pos h1]
    simp [stringUnit, h1.2.2.1, h1.2.2.2, show ¬ c.toNat ≤ 0x1F by omega]
  rw [if_neg h1]
  -- the two-character escapes
  by_cases h : c = '\\' ∨ c = '"' ∨ c = backspace ∨ c = formFeed ∨ c = '\n' ∨ c = '\r' ∨ c = '\t'
  · rcases h with rfl | rfl | rfl | rfl | rfl | rfl | rfl <;> rfl
  simp only [not_or] at h
  obtain ⟨h2, h3, h4, h5, h6, h7, h8⟩ := h
  rw [if_neg h2, if_neg h3, if_neg h4, if_neg h5, if_neg h6, if_neg h7, if_neg h8]
  by_cases h9 : 0x10000 ≤ c.toNat
  · rw [if_pos h9]
    have hjoin : joinSurrogates (0xD800 + (c.toNat - 0x10000) / 0x400) (0xDC00 + c.toNat % 0x400) =
        c.toNat := by
      simp only [joinSurrogates]
      omega
    simp only [List.cons_append, stringUnit, escapeUnit, uEscape, List.nil_append,
      show ('\\' : Char) = '"' ↔ False by decide, if_false, if_true]
    rw [unicodeUnit_of_pair t (hex4_uEscape (by omega)) (hex4_uEscape (by omega)) ht
      (by simp only [IsHighSurrogate]; omega) (by simp only [IsLowSurrogate]; omega), hjoin,
      Char.ofNat_toNat]
  · rw [if_neg h9]
    simp only [List.cons_append, stringUnit, escapeUnit, uEscape, List.nil_append,
      show ('\\' : Char) = '"' ↔ False by decide, if_false, if_true]
    rw [unicodeUnit_of_hex t (hex4_uEscape (by omega)) ht (by simp only [IsHighSurrogate]; omega)
      (by simp only [IsLowSurrogate]; omega), Char.ofNat_toNat]

theorem escapeChar_ne_nil (c : Char) : escapeChar c ≠ [] := fun h => by
  have := stringUnit_escapeChar 0 c ['"'] (List.cons_ne_nil _ _)
  rw [h] at this
  cases this

theorem length_le_flatMap_escapeChar (cs : List Char) : cs.length ≤ (cs.flatMap escapeChar).length := by
  induction cs with
  | nil => simp
  | cons c cs ih =>
    have := List.length_pos.mpr (escapeChar_ne_nil c)
    simp only [List.flatMap_cons, List.length_append, List.length_cons]
    omega

/-- **`scanstring_unicode` reads back what `encode_basestring_ascii` writes**, up to the closing
quote, whatever the characters. -/
theorem scanString_escape (begin : Nat) (cs : List Char) (fuel : Nat) (r : List Char)
    (hfuel : cs.length < fuel) : scanString begin fuel (cs.flatMap escapeChar ++ '"' :: r) = .ok (cs, r) := by
  induction cs generalizing fuel with
  | nil =>
    cases fuel with
    | zero => cases hfuel
    | succ f => rfl
  | cons c cs ih =>
    cases fuel with
    | zero => cases hfuel
    | succ f =>
      simp only [scanString, List.flatMap_cons, List.append_assoc,
        stringUnit_escapeChar begin c (cs.flatMap escapeChar ++ '"' :: r) (by simp), ok_bind,
        ih f (by simp only [List.length_cons] at hfuel; omega)]
      rfl

/-! ### Numbers -/

/-- A character that ends a number: a delimiter is neither a digit, nor `.`, `e`, `E` or a sign. -/
theorem Delim.head {r : List Char} (h : Delim r) :
    ∀ c ∈ r.head?, c.isDigit = false ∧ c ≠ '.' ∧ c ≠ 'e' ∧ c ≠ 'E' ∧ c ∉ ['+', '-'] := by
  intro c hc
  rcases h c hc with rfl | rfl | rfl <;> decide

theorem spanDigits_append (s r : List Char) (h : (spanDigits s).2 = [] → ∀ c ∈ r.head?, c.isDigit = false) :
    spanDigits (s ++ r) = ((spanDigits s).1, (spanDigits s).2 ++ r) := by
  induction s with
  | nil =>
    cases r with
    | nil => rfl
    | cons c r => simp [spanDigits, h rfl c rfl]
  | cons c s ih =>
    by_cases hc : c.isDigit
    · simp only [spanDigits, hc, if_true, List.cons_append, List.append_eq] at h ⊢
      rw [ih h]
    · simp [spanDigits, hc]

theorem signPart_append (signs s r : List Char) (hs : s ≠ []) :
    signPart signs (s ++ r) = ((signPart signs s).1, (signPart signs s).2 ++ r) := by
  obtain ⟨c, s, rfl⟩ := List.exists_cons_of_ne_nil hs
  by_cases hc : c ∈ signs <;> simp [signPart, hc]

theorem intPart_append {t i r₁ : List Char} (r : List Char) (h : intPart t = some (i, r₁))
    (hr : r₁ = [] → ∀ c ∈ r.head?, c.isDigit = false) : intPart (t ++ r) = some (i, r₁ ++ r) := by
  cases t with
  | nil => cases h
  | cons c t =>
    simp only [intPart] at h
    by_cases h0 : c = '0'
    · simp only [h0, if_true, Option.some.injEq, Prod.mk.injEq] at h
      obtain ⟨rfl, rfl⟩ := h
      simp [intPart, h0]
    · by_cases hd : c.isDigit
      · simp only [h0, hd, if_false, if_true, Option.some.injEq, Prod.mk.injEq] at h
        obtain ⟨rfl, rfl⟩ := h
        simp [intPart, h0, hd, spanDigits_append t r hr]
      · simp [h0, hd] at h

theorem fracPart_append (s r : List Char) (hr : ∀ c ∈ r.head?, c.isDigit = false ∧ c ≠ '.') :
    fracPart (s ++ r) = ((fracPart s).1, (fracPart s).2 ++ r) := by
  match s, r with
  | [], [] => rfl
  | [], [_] => rfl
  | [], c :: d :: r => simp [fracPart, (hr c rfl).2]
  | [_], [] => rfl
  | [p], d :: r => simp [fracPart, (hr d rfl).1]
  | p :: d :: s, r =>
    by_cases hp : p = '.' ∧ d.isDigit
    · simp only [fracPart, List.cons_append, hp, and_self, if_true]
      rw [spanDigits_append s r (fun _ c hc => (hr c hc).1)]
    · simp [fracPart, hp]

theorem expPart_append (s r : List Char) (h : (expPart s).2 = [])
    (hr : ∀ c ∈ r.head?, c.isDigit = false ∧ c ≠ 'e' ∧ c ≠ 'E') : expPart (s ++ r) = ((expPart s).1, r) := by
  match s with
  | [] =>
    cases r with
    | nil => rfl
    | cons c r => simp [expPart, (hr c rfl).2.1, (hr c rfl).2.2]
  | e :: s =>
    simp only [expPart] at h
    split_ifs at h with he
    have hs : s ≠ [] := by
      rintro rfl
      exact he.2 rfl
    have hne := he.2
    have hdig := spanDigits_append (signPart ['+', '-'] s).2 r (fun _ c hc => (hr c hc).1)
    simp only at h
    simp only [expPart, List.cons_append, signPart_append _ s r hs, hdig, h, List.nil_append, he.1,
      hne, ne_eq, not_false_eq_true, and_self, if_true]

/-- **A number is read to its end and no further**: a complete number text followed by a delimiter
is read as before, the delimiter left. -/
theorem matchNumber_append {t text : List Char} {isFloat : Bool} (r : List Char)
    (h : matchNumber t = some (text, isFloat, [])) (hr : Delim r) :
    matchNumber (t ++ r) = some (text, isFloat, r) := by
  have hhead := hr.head
  have ht : t ≠ [] := by
    rintro rfl
    cases h
  unfold matchNumber at h ⊢
  rw [signPart_append _ t r ht]
  match hi : intPart (signPart ['-'] t).2 with
  | none => simp [hi] at h
  | some (i, r₁) =>
    simp only [hi, Option.some.injEq, Prod.mk.injEq] at h
    obtain ⟨rfl, rfl, h⟩ := h
    have hfrac := fracPart_append r₁ r (fun c hc => ⟨(hhead c hc).1, (hhead c hc).2.1⟩)
    have hexp := expPart_append (fracPart r₁).2 r h (fun c hc => ⟨(hhead c hc).1, (hhead c hc).2.2.1,
      (hhead c hc).2.2.2.1⟩)
    simp [intPart_append r hi (fun _ c hc => (hhead c hc).1), hfrac, hexp]

/-- `scan_once_unicode` on a text that starts with `c`, whatever the budget. -/
theorem scanValue_cons (floatOf : String → PyFloat) (n : Nat) (c : Char) (s : List Char) :
    scanValue floatOf n (c :: s) =
      if c = '"' then (do
        let (cs, r) ← scanString (s.length + 1) (s.length + 1) s
        pure (.str (String.mk cs), r))
      else if c = '\x7b' then
        match n with
        | 0 => .error (.recursion (recursionText "object"))
        | n + 1 => scanObject (scanValue floatOf n) s
      else if c = '[' then
        match n with
        | 0 => .error (.recursion (recursionText "array"))
        | n + 1 => scanArray (scanValue floatOf n) s
      else match namedConstant (c :: s) with
        | some p => .ok p
        | none => scanNumber floatOf (c :: s) := by
  cases n <;> rfl

/-- The first character of a number is not the first character of any other value. -/
theorem namedConstant_of_number {c : Char} {t : List Char}
    (h : c.isDigit ∨ (c = '-' ∧ ∃ d u, t = d :: u ∧ d.isDigit)) : namedConstant (c :: t) = none := by
  have ne : ∀ {d x : Char}, d.isDigit = true → x.isDigit = false → x ≠ d := by
    rintro d x hd hx rfl
    rw [hd] at hx
    cases hx
  rcases h with hc | ⟨rfl, d, u, rfl, hd⟩
  · simp [namedConstant, List.cons_prefix_cons, ne hc (x := 'n') rfl, ne hc (x := 't') rfl,
      ne hc (x := 'f') rfl, ne hc (x := 'N') rfl, ne hc (x := 'I') rfl, ne hc (x := '-') rfl]
  · simp [namedConstant, List.cons_prefix_cons, ne hd (x := 'I') rfl]

/-- A number starts with a digit, or a minus sign and a digit. -/
theorem matchNumber_head {s text r : List Char} {isFloat : Bool} (h : matchNumber s = some (text, isFloat, r)) :
    ∃ c t, s = c :: t ∧ (c.isDigit ∨ (c = '-' ∧ ∃ d u, t = d :: u ∧ d.isDigit)) := by
  have hint : (intPart (signPart ['-'] s).2).isSome := by
    unfold matchNumber at h
    split at h
    · cases h
    · simp [*]
  have hdigit : ∀ {c : Char} {t : List Char}, (intPart (c :: t)).isSome → c.isDigit := by
    intro c t hct
    by_cases h0 : c = '0'
    · subst h0; rfl
    · by_cases hd : c.isDigit
      · exact hd
      · simp [intPart, h0, hd] at hct
  match s, hint with
  | c :: t, hint =>
    refine ⟨c, t, rfl, ?_⟩
    by_cases hm : c = '-'
    · subst hm
      match t, hint with
      | d :: u, hint => exact .inr ⟨rfl, d, u, rfl, hdigit (by simpa [signPart] using hint)⟩
    · exact .inl (hdigit (by simpa [signPart, hm] using hint))

/-- **A number starts here**: `scan_once_unicode` hands the text to `_match_number_unicode`. -/
theorem scanValue_of_matchNumber (floatOf : String → PyFloat) (n : Nat) {s text r : List Char}
    {isFloat : Bool} (h : matchNumber s = some (text, isFloat, r)) :
    scanValue floatOf n s = scanNumber floatOf s := by
  obtain ⟨c, t, rfl, hc⟩ := matchNumber_head h
  have hq : c ≠ '"' ∧ c ≠ '\x7b' ∧ c ≠ '[' := by
    rcases hc with hc | ⟨rfl, -⟩
    · refine ⟨?_, ?_, ?_⟩ <;> rintro rfl <;> cases hc
    · decide
  simp only [scanValue_cons, hq.1, hq.2.1, hq.2.2, if_false, namedConstant_of_number hc]

/-! ### Integers -/

theorem digitChar_facts : ∀ k < 10, (Nat.digitChar k).isDigit = true ∧
    (Nat.digitChar k).toNat - '0'.toNat = k ∧ (Nat.digitChar k = '0' → k = 0) := by
  decide

theorem digitsValue_append_digit (pre : List Char) (d : Char) :
    digitsValue (pre ++ [d]) = 10 * digitsValue pre + (d.toNat - '0'.toNat) := by
  simp [digitsValue, List.foldl_append]

/-- **The digits `Nat.toDigits` writes** in front of `ds`: decimal digits, starting with `0` only
for `0`, whose value is the number. -/
theorem toDigitsCore_digits (fuel n : Nat) (ds : List Char) (h : n < fuel) :
    ∃ pre, Nat.toDigitsCore 10 fuel n ds = pre ++ ds ∧ pre ≠ [] ∧ (∀ c ∈ pre, c.isDigit) ∧
      digitsValue pre = n ∧ (pre.head? = some '0' → n = 0) := by
  induction fuel generalizing n ds with
  | zero => omega
  | succ f ih =>
    have hd := digitChar_facts (n % 10) (Nat.mod_lt _ (by decide))
    by_cases h0 : n / 10 = 0
    · refine ⟨[Nat.digitChar (n % 10)], by simp [Nat.toDigitsCore, h0], by simp, by simpa using hd.1,
        ?_, fun hh => ?_⟩
      · simp only [digitsValue, List.foldl_cons, List.foldl_nil, hd.2.1]
        omega
      · have := hd.2.2 (Option.some.inj hh)
        omega
    · obtain ⟨pre, hpre, hne, hdig, hval, hhead⟩ :=
        ih (n / 10) (Nat.digitChar (n % 10) :: ds) (by omega)
      refine ⟨pre ++ [Nat.digitChar (n % 10)], by simp [Nat.toDigitsCore, h0, hpre], by simp, ?_, ?_,
        fun hh => ?_⟩
      · intro c hc
        rcases List.mem_append.mp hc with hc | hc
        · exact hdig c hc
        · rw [List.mem_singleton.mp hc]
          exact hd.1
      · rw [digitsValue_append_digit, hval, hd.2.1]
        omega
      · obtain ⟨c, pre, rfl⟩ := List.exists_cons_of_ne_nil hne
        exact absurd (hhead hh) h0

/-- The digits of a positive number, or `0` alone. -/
theorem intPart_digits {pre : List Char} (hne : pre ≠ []) (hdig : ∀ c ∈ pre, c.isDigit)
    (hhead : pre.head? = some '0' → pre = ['0']) : intPart pre = some (pre, []) := by
  have hspan : ∀ l : List Char, (∀ c ∈ l, c.isDigit) → spanDigits l = (l, []) := by
    intro l hl
    induction l with
    | nil => rfl
    | cons c l ih =>
      simp [spanDigits, hl c (List.mem_cons_self _ _), ih (fun c hc => hl c (List.mem_cons_of_mem _ hc))]
  obtain ⟨c, t, rfl⟩ := List.exists_cons_of_ne_nil hne
  by_cases h0 : c = '0'
  · subst h0
    cases hhead rfl
    rfl
  · simp [intPart, h0, hdig c (List.mem_cons_self _ _),
      hspan t (fun c hc => hdig c (List.mem_cons_of_mem _ hc))]

/-- The text of `str(n)` of a natural number, and what matters of it. -/
theorem toString_nat_digits (m : Nat) :
    ∃ pre, (toString m).toList = pre ∧ intPart pre = some (pre, []) ∧ pre.head? ≠ some '-' ∧
      digitsValue pre = m := by
  obtain ⟨pre, hpre, hne, hdig, hval, hhead⟩ := toDigitsCore_digits (m + 1) m [] (by omega)
  rw [List.append_nil] at hpre
  refine ⟨pre, hpre, intPart_digits hne hdig fun h0 => ?_, fun hm => ?_, hval⟩
  · have : m = 0 := hhead h0
    subst this
    rw [← hpre]
    rfl
  · obtain ⟨c, t, rfl⟩ := List.exists_cons_of_ne_nil hne
    cases Option.some.inj hm
    exact absurd (hdig _ (List.mem_cons_self _ _)) (by decide)

/-- **`int.__repr__` reads back as the integer**: a number text without fraction or exponent. -/
theorem matchNumber_toString (n : Int) :
    matchNumber (toString n).toList = some ((toString n).toList, false, []) ∧
      intOfText (toString n).toList = n := by
  have hsign : ∀ pre : List Char, pre.head? ≠ some '-' → signPart ['-'] pre = ([], pre) := by
    rintro (_ | ⟨c, t⟩) h
    · rfl
    · simp_all [signPart]
  cases n with
  | ofNat m =>
    obtain ⟨pre, hpre, hint, hhead, hval⟩ := toString_nat_digits m
    have htext : (toString (Int.ofNat m)).toList = pre := hpre
    rw [htext]
    refine ⟨by simp [matchNumber, hsign pre hhead, hint, fracPart, expPart], ?_⟩
    match pre, hhead with
    | [], _ => simp [intPart] at hint
    | c :: t, hhead => simp_all [intOfText]
  | negSucc m =>
    obtain ⟨pre, hpre, hint, -, hval⟩ := toString_nat_digits (m + 1)
    have htext : (toString (Int.negSucc m)).toList = '-' :: pre := by
      rw [← hpre]
      rfl
    rw [htext]
    refine ⟨by simp [matchNumber, signPart, hint, fracPart, expPart], ?_⟩
    simp [intOfText, hval, Int.negSucc_eq]

/-! ### Values -/

deriving instance DecidableEq for PyFloat

/-- **A float that survives `json.dumps` and `json.loads`**: one of the three named values, or one
whose `repr` is a number with a fraction or an exponent and reads back as itself, as
`float.__repr__` guarantees of every finite float. -/
def FloatRoundTrips (floatOf : String → PyFloat) (x : PyFloat) : Prop :=
  x = nan ∨ x = inf ∨ x = negInf ∨
    (matchNumber x.text.toList = some (x.text.toList, true, []) ∧ floatOf x.text = x)

mutual
/-- **A value `json.loads` reads back from `json.dumps`**: the keys of each dict distinct, as a
Python dict's are, each integer within `maxStrDigits` digits, and each float one that survives. -/
def Loadable (floatOf : String → PyFloat) : Json → Prop
  | .int n => digitCount (toString n).toList ≤ maxStrDigits
  | .float x => FloatRoundTrips floatOf x
  | .list xs => ItemsLoadable floatOf xs
  | .dict ms => (ms.map Prod.fst).Nodup ∧ MembersLoadable floatOf ms
  | _ => True

/-- Every item is loadable. -/
def ItemsLoadable (floatOf : String → PyFloat) : List Json → Prop
  | [] => True
  | x :: xs => Loadable floatOf x ∧ ItemsLoadable floatOf xs

/-- Every member's value is loadable. -/
def MembersLoadable (floatOf : String → PyFloat) : List (String × Json) → Prop
  | [] => True
  | (_, v) :: ms => Loadable floatOf v ∧ MembersLoadable floatOf ms
end

/-! ### Reading a value back -/

section RoundTrip

variable (floatOf : String → PyFloat)

/-- What a value's text starts with: never whitespace, a closing bracket or a byte order mark. -/
def StartsValue (c : Char) : Prop := ¬ IsWs c ∧ c ≠ ']' ∧ c ≠ '\x7d' ∧ c ≠ '\uFEFF'

instance : DecidablePred StartsValue := fun _ => inferInstanceAs (Decidable (_ ∧ _))

theorem startsValue_of_number {c : Char} (h : c.isDigit ∨ c = '-') : StartsValue c := by
  rcases h with h | rfl
  · refine ⟨?_, ?_, ?_, ?_⟩ <;> (try rintro (rfl | rfl | rfl | rfl)) <;>
      exact absurd h (by decide)
  · decide

theorem floatText_of_number {x : PyFloat} (h : matchNumber x.text.toList = some (x.text.toList, true, [])) :
    floatText x = x.text.toList := by
  unfold floatText
  split_ifs with h1 h2 h3 <;> first | rfl | (rw [‹x.text = _›] at h; exact absurd h (by decide))

/-- **A loadable value's text starts a value.** -/
theorem encode_head (v : Json) (hv : Loadable floatOf v) : ∃ c t, encode v = c :: t ∧ StartsValue c := by
  have number : ∀ s : List Char, (∃ text b r, matchNumber s = some (text, b, r)) →
      ∃ c t, s = c :: t ∧ StartsValue c := by
    rintro s ⟨text, b, r, h⟩
    obtain ⟨c, t, rfl, hc⟩ := matchNumber_head h
    exact ⟨c, t, rfl, startsValue_of_number (hc.imp id (·.1))⟩
  cases v with
  | null => exact ⟨_, _, rfl, by decide⟩
  | bool b => cases b <;> exact ⟨_, _, rfl, by decide⟩
  | int n => exact number _ ⟨_, _, _, (matchNumber_toString n).1⟩
  | float x =>
    rcases hv with rfl | rfl | rfl | ⟨hm, -⟩
    iterate 3 exact ⟨_, _, rfl, by decide⟩
    simpa [encode, floatText_of_number hm] using number _ ⟨_, _, _, hm⟩
  | str s => exact ⟨_, _, rfl, by decide⟩
  | list xs => exact ⟨_, _, rfl, by decide⟩
  | dict ms => exact ⟨_, _, rfl, by decide⟩

theorem skipWs_encode (v : Json) (hv : Loadable floatOf v) (r : List Char) :
    skipWs (encode v ++ r) = encode v ++ r := by
  obtain ⟨c, t, h, hc⟩ := encode_head floatOf v hv
  rw [h, List.cons_append, skipWs_cons_of_not _ hc.1]

/-- A float reads back as itself. -/
theorem scanValue_float (n : Nat) {x : PyFloat} (r : List Char) (hx : FloatRoundTrips floatOf x)
    (hr : Delim r) : scanValue floatOf n (floatText x ++ r) = .ok (.float x, r) := by
  rcases hx with rfl | rfl | rfl | ⟨hm, hx⟩
  iterate 3 simp [floatText, nan, inf, negInf, scanValue_cons, namedConstant]
  rw [floatText_of_number hm, scanValue_of_matchNumber floatOf n (matchNumber_append r hm hr), scanNumber,
    matchNumber_append r hm hr]
  simp [hx]

/-- A string reads back as itself. -/
theorem scanValue_str (n : Nat) (s : String) (r : List Char) :
    scanValue floatOf n (encodeString s ++ r) = .ok (.str s, r) := by
  have hlen := length_le_flatMap_escapeChar s.toList
  simp only [encodeString, List.cons_append, List.append_assoc, List.singleton_append, scanValue_cons,
    if_true]
  rw [scanString_escape _ _ _ _ (by simp only [List.length_append, List.length_cons]; omega)]
  rfl

theorem follow_close (close : Char) (r : List Char) (h : ¬ IsWs close) :
    follow close (close :: r) = .ok (.close r) := by
  simp [follow, h]

theorem follow_comma (close : Char) (r : List Char) (h : close ≠ ',') :
    follow close (',' :: ' ' :: r) = .ok (.comma (skipWs r)) := by
  simp [follow, IsWs, h.symm]

theorem setItem_of_not_mem {d : Dict} {k : String} (v : Json) (h : k ∉ d.map Prod.fst) :
    setItem d k v = d ++ [(k, v)] := by
  have : d.lookup k = none := by
    induction d with
    | nil => rfl
    | cons m d ih =>
      obtain ⟨k', v'⟩ := m
      simp only [List.map_cons, List.mem_cons, not_or] at h
      simp only [List.lookup_cons, beq_eq_false_iff_ne.mpr h.1]
      exact ih h.2
  simp [setItem, this]

/-! #### Repeated keys -/

/-- **The dict `PyDict_SetItem` builds from members in turn**: each key at its first place, bound to
its last value. -/
def setItems (acc : Dict) (ms : List (String × Json)) : Dict :=
  ms.foldl (fun d m => setItem d m.1 m.2) acc

theorem lookup_map_of_ne {d : Dict} {k k' : String} (v : Json) (hk : k ≠ k') :
    (d.map fun m => if m.1 = k' then (k', v) else m).lookup k = d.lookup k := by
  induction d with
  | nil => rfl
  | cons m d ih =>
    obtain ⟨a, b⟩ := m
    by_cases ha : a = k'
    · subst ha
      simp [List.lookup_cons, beq_false_of_ne hk, ih]
    · simp [List.lookup_cons, ha, ih]

theorem lookup_map_self {d : Dict} {k : String} (v : Json) (h : (d.lookup k).isSome) :
    (d.map fun m => if m.1 = k then (k, v) else m).lookup k = some v := by
  induction d with
  | nil => cases h
  | cons m d ih =>
    obtain ⟨a, b⟩ := m
    by_cases ha : a = k
    · subst ha
      simp [List.lookup_cons]
    · have hka : (k == a) = false := beq_false_of_ne (Ne.symm ha)
      simp only [List.lookup_cons, hka] at h
      simp [List.lookup_cons, ha, hka, ih h]

theorem lookup_setItem (d : Dict) (k k' : String) (v : Json) :
    (setItem d k' v).lookup k = if k = k' then some v else d.lookup k := by
  unfold setItem
  by_cases hk : k = k'
  · subst hk
    rw [if_pos rfl]
    by_cases h : (d.lookup k).isSome
    · rw [if_pos h]
      exact lookup_map_self v h
    · rw [if_neg h, List.lookup_append, Option.not_isSome_iff_eq_none.mp h]
      simp [List.lookup_cons]
  · rw [if_neg hk]
    by_cases h : (d.lookup k').isSome
    · rw [if_pos h]
      exact lookup_map_of_ne v hk
    · rw [if_neg h, List.lookup_append]
      simp [List.lookup_cons, beq_false_of_ne hk]

theorem setItems_cons (acc : Dict) (k : String) (v : Json) (ms : List (String × Json)) :
    setItems acc ((k, v) :: ms) = setItems (setItem acc k v) ms := rfl

/-- **A key reads as its last binding**, or as in `acc` when the members do not bind it. -/
theorem lookup_setItems (k : String) : ∀ (acc : Dict) (ms : List (String × Json)),
    (setItems acc ms).lookup k = (ms.reverse.lookup k).or (acc.lookup k)
  | acc, [] => rfl
  | acc, (k', v) :: ms => by
    rw [setItems_cons, lookup_setItems k _ ms, lookup_setItem, List.reverse_cons, List.lookup_append]
    by_cases hk : k = k'
    · subst hk
      simp only [if_true, List.lookup_cons, beq_self_eq_true]
      cases ms.reverse.lookup k <;> rfl
    · simp [hk, List.lookup_cons, beq_false_of_ne hk]

/-- With distinct keys, the members in their order. -/
theorem setItems_of_nodup : ∀ (acc : Dict) (ms : List (String × Json)),
    (acc.map Prod.fst ++ ms.map Prod.fst).Nodup → setItems acc ms = acc ++ ms
  | acc, [], _ => by simp [setItems]
  | acc, (k, v) :: ms, h => by
    have hk : k ∉ acc.map Prod.fst := by
      simp only [List.map_cons, List.nodup_append, List.disjoint_cons_right] at h
      exact h.2.2.1
    rw [setItems_cons, setItem_of_not_mem v hk, setItems_of_nodup _ ms (by simpa using h)]
    simp

/-- A key and its colon, followed by anything. -/
theorem scanKey_colon (k : String) (t : List Char) :
    scanKey (encodeString k ++ ':' :: t) = .ok (k, skipWs t) := by
  have hlen := length_le_flatMap_escapeChar k.toList
  simp only [encodeString, List.cons_append, List.append_assoc, List.singleton_append, scanKey, if_true]
  rw [scanString_escape _ _ _ _ (by simp only [List.length_append, List.length_cons]; omega)]
  simp [IsWs]
  rfl

/-- A key and its colon, as `json.dumps` writes them, read back. -/
theorem scanKey_encode (k : String) (t : List Char) :
    scanKey (encodeString k ++ ':' :: ' ' :: t) = .ok (k, skipWs t) := by
  rw [scanKey_colon, skipWs_space]

theorem encodeItems_cons_cons (x y : Json) (ys : List Json) :
    encodeItems (x :: y :: ys) = encode x ++ ',' :: ' ' :: encodeItems (y :: ys) := rfl

theorem encodeMembers_cons_cons (k : String) (v : Json) (m : String × Json) (ms : List (String × Json)) :
    encodeMembers ((k, v) :: m :: ms) =
      encodeString k ++ ':' :: ' ' :: encode v ++ ',' :: ' ' :: encodeMembers (m :: ms) := rfl

/-- The items of a non-empty list start as the first of them does. -/
theorem encodeItems_head {x : Json} (xs : List Json) (hx : Loadable floatOf x) :
    ∃ c t, encodeItems (x :: xs) = c :: t ∧ StartsValue c := by
  obtain ⟨c, t, h, hc⟩ := encode_head floatOf x hx
  match xs with
  | [] => exact ⟨c, t, h, hc⟩
  | y :: ys => exact ⟨c, _, by rw [encodeItems_cons_cons, h, List.cons_append], hc⟩

theorem length_le_encodeItems : ∀ xs : List Json, xs.length ≤ (encodeItems xs).length + 1
  | [] => by simp
  | [_] => by simp
  | x :: y :: ys => by
    have := length_le_encodeItems (y :: ys)
    simp only [encodeItems_cons_cons, List.length_append, List.length_cons] at this ⊢
    omega

theorem length_le_encodeMembers : ∀ ms : List (String × Json), ms.length ≤ (encodeMembers ms).length + 1
  | [] => by simp
  | [_] => by simp
  | (k, v) :: m :: ms => by
    have := length_le_encodeMembers (m :: ms)
    simp only [encodeMembers_cons_cons, List.length_append, List.length_cons] at this ⊢
    omega

theorem encodeMembers_head (k : String) (v : Json) (ms : List (String × Json)) :
    ∃ t, encodeMembers ((k, v) :: ms) = '"' :: t := by
  cases ms <;> exact ⟨_, rfl⟩

/-- Entering a non-empty array `json.dumps` wrote: the item loop over its items and what follows. -/
theorem scanValue_encode_list (n : Nat) {x : Json} {xs : List Json} (r : List Char)
    (hl : ItemsLoadable floatOf (x :: xs)) :
    scanValue floatOf (n + 1) (encode (.list (x :: xs)) ++ r) = scanItems (scanValue floatOf n)
      ((encodeItems (x :: xs) ++ ']' :: r).length + 1) [] (encodeItems (x :: xs) ++ ']' :: r) := by
  obtain ⟨c, t, hxc, hc⟩ := encodeItems_head floatOf xs hl.1
  have hskip : skipWs (encodeItems (x :: xs) ++ ']' :: r) = encodeItems (x :: xs) ++ ']' :: r := by
    rw [hxc, List.cons_append, skipWs_cons_of_not _ hc.1]
  rw [encode, show '[' :: encodeItems (x :: xs) ++ [']'] ++ r = '[' :: (encodeItems (x :: xs) ++ ']' :: r) by simp,
    scanValue_cons]
  simp only [show ('[' : Char) = '"' ↔ False by decide, show ('[' : Char) = '\x7b' ↔ False by decide,
    if_false, if_true, scanArray, hskip, if_neg (show (encodeItems (x :: xs) ++ ']' :: r).head? ≠ some ']' by
      simp [hxc, hc.2.1])]

/-- Entering a non-empty object `json.dumps` wrote: the member loop over its members and what
follows. -/
theorem scanValue_encode_dict (n : Nat) (k : String) (v : Json) (ms : List (String × Json)) (r : List Char) :
    scanValue floatOf (n + 1) (encode (.dict ((k, v) :: ms)) ++ r) = scanMembers (scanValue floatOf n)
      ((encodeMembers ((k, v) :: ms) ++ '\x7d' :: r).length + 1) [] (encodeMembers ((k, v) :: ms) ++ '\x7d' :: r) := by
  obtain ⟨t, hkt⟩ := encodeMembers_head k v ms
  have hskip : skipWs (encodeMembers ((k, v) :: ms) ++ '\x7d' :: r) = encodeMembers ((k, v) :: ms) ++ '\x7d' :: r := by
    rw [hkt, List.cons_append, skipWs_cons_of_not _ (by decide)]
  rw [encode, show '\x7b' :: encodeMembers ((k, v) :: ms) ++ ['\x7d'] ++ r =
      '\x7b' :: (encodeMembers ((k, v) :: ms) ++ '\x7d' :: r) by simp, scanValue_cons]
  simp only [show ('\x7b' : Char) = '"' ↔ False by decide, if_false, if_true, scanObject, hskip,
    if_neg (show (encodeMembers ((k, v) :: ms) ++ '\x7d' :: r).head? ≠ some '\x7d' by simp [hkt])]

mutual

/-- **`scan_once_unicode` reads back a value `json.dumps` wrote**, followed by a delimiter. -/
theorem scanValue_encode : ∀ (n : Nat) (v : Json) (r : List Char), Loadable floatOf v →
    nesting v ≤ n → Delim r → scanValue floatOf n (encode v ++ r) = .ok (v, r)
  | n, .null, r, _, _, _ => by simp [encode, scanValue_cons, namedConstant]
  | n, .bool true, r, _, _, _ => by simp [encode, scanValue_cons, namedConstant]
  | n, .bool false, r, _, _, _ => by simp [encode, scanValue_cons, namedConstant]
  | n, .int i, r, hl, _, hr => by
    obtain ⟨hm, hi⟩ := matchNumber_toString i
    rw [encode, scanValue_of_matchNumber floatOf n (matchNumber_append r hm hr), scanNumber,
      matchNumber_append r hm hr]
    simp only [Bool.false_eq_true, if_false, if_neg (Nat.not_lt.mpr hl), hi]
  | n, .float x, r, hx, _, hr => scanValue_float floatOf n r hx hr
  | n, .str s, r, _, _, _ => scanValue_str floatOf n s r
  | 0, .list xs, r, _, hd, _ => absurd hd (by simp [nesting])
  | n + 1, .list [], r, _, _, _ => by simp [encode, encodeItems, scanValue_cons, scanArray, IsWs]
  | n + 1, .list (x :: xs), r, hl, hd, _ => by
    have hd' : itemsNesting (x :: xs) ≤ n := by simp only [nesting] at hd; omega
    rw [scanValue_encode_list floatOf n r hl, scanItems_encode n (x :: xs) _ [] r (List.cons_ne_nil _ _)
      hl hd' (by have := length_le_encodeItems (x :: xs); simp only [List.length_append, List.length_cons] at this ⊢; omega)]
    rfl
  | 0, .dict ms, r, _, hd, _ => absurd hd (by simp [nesting])
  | n + 1, .dict [], r, _, _, _ => by simp [encode, encodeMembers, scanValue_cons, scanObject, IsWs]
  | n + 1, .dict ((k, v) :: ms), r, hl, hd, _ => by
    have hd' : membersNesting ((k, v) :: ms) ≤ n := by simp only [nesting] at hd; omega
    rw [scanValue_encode_dict floatOf n k v ms r, scanMembers_encode n ((k, v) :: ms) _ [] r (List.cons_ne_nil _ _)
      hl.2 hd'
      (by have := length_le_encodeMembers ((k, v) :: ms); simp only [List.length_append, List.length_cons] at this ⊢; omega),
      setItems_of_nodup [] _ (by simpa using hl.1)]
    rfl

/-- **The item loop reads back the items `json.dumps` wrote**, up to the closing bracket. -/
theorem scanItems_encode : ∀ (n : Nat) (xs : List Json) (fuel : Nat) (acc : List Json) (r : List Char),
    xs ≠ [] → ItemsLoadable floatOf xs → itemsNesting xs ≤ n → xs.length ≤ fuel →
    scanItems (scanValue floatOf n) fuel acc (encodeItems xs ++ ']' :: r) = .ok (.list (acc ++ xs), r)
  | _, [], _, _, _, h, _, _, _ => absurd rfl h
  | _, _ :: _, 0, _, _, _, _, _, hf => absurd hf (by simp)
  | n, [x], fuel + 1, acc, r, _, hl, hd, _ => by
    simp only [itemsNesting] at hd
    simp only [encodeItems, scanItems,
      scanValue_encode n x (']' :: r) hl.1 (by omega) (delim_cons r (Or.inr (Or.inl rfl))),
      ok_bind, follow_close ']' r (by decide)]
    rfl
  | n, x :: y :: ys, fuel + 1, acc, r, _, hl, hd, hf => by
    simp only [itemsNesting] at hd
    obtain ⟨c, t, hyc, hc⟩ := encodeItems_head floatOf ys hl.2.1
    have hskip : skipWs (encodeItems (y :: ys) ++ ']' :: r) = encodeItems (y :: ys) ++ ']' :: r := by
      rw [hyc, List.cons_append, skipWs_cons_of_not _ hc.1]
    rw [encodeItems_cons_cons, List.append_assoc, List.cons_append, List.cons_append, scanItems]
    simp only [scanValue_encode n x _ hl.1 (by omega) (delim_cons _ (Or.inl rfl)), ok_bind,
      follow_comma ']' _ (by decide), hskip]
    rw [scanItems_encode n (y :: ys) fuel (acc ++ [x]) r (List.cons_ne_nil _ _) hl.2
      (by simp only [itemsNesting] at hd ⊢; omega) (by simp only [List.length_cons] at hf ⊢; omega)]
    simp

/-- **The member loop reads back the members `json.dumps` writes**, up to the closing brace, setting
each in turn: their keys may repeat. -/
theorem scanMembers_encode : ∀ (n : Nat) (ms : List (String × Json)) (fuel : Nat) (acc : Dict)
    (r : List Char), ms ≠ [] → MembersLoadable floatOf ms → membersNesting ms ≤ n → ms.length ≤ fuel →
    scanMembers (scanValue floatOf n) fuel acc (encodeMembers ms ++ '\x7d' :: r) =
      .ok (.dict (setItems acc ms), r)
  | _, [], _, _, _, h, _, _, _ => absurd rfl h
  | _, _ :: _, 0, _, _, _, _, _, hf => absurd hf (by simp)
  | n, [(k, v)], fuel + 1, acc, r, _, hl, hd, _ => by
    simp only [membersNesting] at hd
    simp only [encodeMembers, List.append_assoc, List.cons_append, scanMembers, scanKey_encode, ok_bind,
      skipWs_encode floatOf v hl.1,
      scanValue_encode n v ('\x7d' :: r) hl.1 (by omega) (delim_cons r (Or.inr (Or.inr rfl))),
      follow_close '\x7d' r (by decide)]
    rfl
  | n, (k, v) :: m :: ms, fuel + 1, acc, r, _, hl, hd, hf => by
    simp only [membersNesting] at hd
    obtain ⟨t, hmt⟩ := encodeMembers_head m.1 m.2 ms
    have hskip : skipWs (encodeMembers (m :: ms) ++ '\x7d' :: r) = encodeMembers (m :: ms) ++ '\x7d' :: r := by
      rw [hmt, List.cons_append, skipWs_cons_of_not _ (by decide)]
    simp only [encodeMembers_cons_cons, List.append_assoc, List.cons_append]
    rw [scanMembers]
    simp only [scanKey_encode, ok_bind, skipWs_encode floatOf v hl.1,
      scanValue_encode n v _ hl.1 (by omega) (delim_cons _ (Or.inl rfl)), follow_comma '\x7d' _ (by decide),
      hskip]
    exact scanMembers_encode n (m :: ms) fuel (setItem acc k v) r (List.cons_ne_nil _ _) hl.2
      (by simp only [membersNesting] at hd ⊢; omega) (by simp only [List.length_cons] at hf ⊢; omega)

end

/-- **`json.loads(json.dumps(v)) == v`**, for every value whose floats read back and whose arrays
and objects nest no deeper than the recursion limit. -/
theorem loads_dumps (limit : Nat) (v : Json) (hv : Loadable floatOf v) (hd : nesting v ≤ limit) :
    loads floatOf limit (dumps v) = .ok v := by
  obtain ⟨c, t, h, hc⟩ := encode_head floatOf v hv
  have hdoc : (dumps v).toList = encode v := rfl
  have hscan := scanValue_encode floatOf limit v [] hv hd delim_nil
  have hskip := skipWs_encode floatOf v hv []
  rw [List.append_nil] at hscan hskip
  have hbom : (encode v).head? ≠ some '\uFEFF' := by simp [h, hc.2.2.2]
  simp only [loads, hdoc, if_neg hbom, hskip, hscan, ok_bind]
  rfl

example :
    loads (fun t => ⟨t, true⟩) 2 (dumps (.dict [("circuit", .str "coinbase"), ("inputs", .list [.int 7])])) =
      .ok (.dict [("circuit", .str "coinbase"), ("inputs", .list [.int 7])]) :=
  loads_dumps _ 2 _ (by simp [Loadable, MembersLoadable, ItemsLoadable]; decide) (by decide)

theorem skipWs_ws_append {pre : List Char} (h : ∀ c ∈ pre, IsWs c) (t : List Char) :
    skipWs (pre ++ t) = skipWs t := by
  induction pre with
  | nil => rfl
  | cons c pre ih =>
    rw [List.cons_append, skipWs, if_pos (h c (List.mem_cons_self _ _))]
    exact ih fun d hd => h d (List.mem_cons_of_mem _ hd)

/-- **An object's text reads back whatever follows it**, its closing brace ending it, and keys that
repeat are set in turn. -/
theorem scanValue_encode_members (n : Nat) (ms : List (String × Json)) (hms : MembersLoadable floatOf ms)
    (hd : nesting (.dict ms) ≤ n) (r : List Char) :
    scanValue floatOf n (encode (.dict ms) ++ r) = .ok (.dict (setItems [] ms), r) := by
  obtain ⟨n, rfl⟩ : ∃ m, n = m + 1 := ⟨n - 1, by simp only [nesting] at hd; omega⟩
  match ms, hms with
  | [], _ => simp [encode, encodeMembers, scanValue_cons, scanObject, IsWs, setItems]
  | (k, v) :: ms, hms =>
    rw [scanValue_encode_dict floatOf n k v ms r, scanMembers_encode floatOf n _ _ [] r (List.cons_ne_nil _ _) hms
      (by simp only [nesting] at hd; omega)
      (by have := length_le_encodeMembers ((k, v) :: ms); simp only [List.length_append, List.length_cons] at this ⊢; omega)]

/-- **`json.loads` of an object whose keys may repeat, with whitespace around it**: the text
`json.dumps` would write of the members, repeated keys and all, loads as the dict `PyDict_SetItem`
builds from them: each key at its first place, bound to its last value (`lookup_setItems`). -/
theorem loads_encode_members (limit : Nat) (ms : List (String × Json)) (hms : MembersLoadable floatOf ms)
    (hd : nesting (.dict ms) ≤ limit) (pre post : List Char) (hpre : ∀ c ∈ pre, IsWs c)
    (hpost : ∀ c ∈ post, IsWs c) :
    loads floatOf limit (String.mk (pre ++ encode (.dict ms) ++ post)) = .ok (.dict (setItems [] ms)) := by
  have hobj : encode (.dict ms) ++ post = '\x7b' :: (encodeMembers ms ++ '\x7d' :: post) := by simp [encode]
  have hdoc : (String.mk (pre ++ encode (.dict ms) ++ post)).toList = pre ++ (encode (.dict ms) ++ post) := by
    simp
  have hbom : (pre ++ (encode (.dict ms) ++ post)).head? ≠ some '\uFEFF' := by
    cases pre with
    | nil => rw [List.nil_append, hobj, List.head?_cons, Ne, Option.some.injEq]; decide
    | cons c pre =>
      rw [List.cons_append, List.head?_cons, Ne, Option.some.injEq]
      rcases hpre c (List.mem_cons_self _ _) with rfl | rfl | rfl | rfl <;> decide
  have hskip : skipWs (pre ++ (encode (.dict ms) ++ post)) = encode (.dict ms) ++ post := by
    rw [skipWs_ws_append hpre, hobj, skipWs_cons_of_not _ (by decide)]
  have hrest : skipWs post = [] := by simpa using skipWs_ws_append hpost []
  simp only [loads, hdoc, if_neg hbom, hskip, scanValue_encode_members floatOf limit ms hms hd, ok_bind, hrest]
  rfl

/-! ### Nested too deeply -/

/-- The `RecursionError` of entering an array or an object with no budget left. -/
def TooDeep (e : ScanError) : Prop :=
  e = .recursion (recursionText "array") ∨ e = .recursion (recursionText "object")

theorem encodeItems_cons (x : Json) (xs : List Json) : ∃ t, encodeItems (x :: xs) = encode x ++ t := by
  cases xs with
  | nil => exact ⟨[], (List.append_nil _).symm⟩
  | cons y ys => exact ⟨_, encodeItems_cons_cons x y ys⟩

theorem encodeMembers_cons (k : String) (v : Json) (ms : List (String × Json)) :
    ∃ t, encodeMembers ((k, v) :: ms) = encodeString k ++ ':' :: ' ' :: encode v ++ t := by
  cases ms with
  | nil => exact ⟨[], by simp [encodeMembers]⟩
  | cons m ms => exact ⟨_, encodeMembers_cons_cons k v m ms⟩

mutual

/-- **`scan_once_unicode` raises `RecursionError` on a value `json.dumps` wrote that nests deeper
than its budget**: every array and object before the first that has no budget left reads back. -/
theorem scanValue_encode_deep : ∀ (n : Nat) (v : Json) (r : List Char), Loadable floatOf v →
    n < nesting v → ∃ e, TooDeep e ∧ scanValue floatOf n (encode v ++ r) = .error e
  | 0, .list xs, r, _, _ => ⟨_, .inl rfl, by simp [encode, scanValue_cons]⟩
  | 0, .dict ms, r, _, _ => ⟨_, .inr rfl, by simp [encode, scanValue_cons]⟩
  | n + 1, .list [], _, _, hd => absurd hd (by simp [nesting, itemsNesting])
  | n + 1, .list (x :: xs), r, hl, hd => by
    rw [scanValue_encode_list floatOf n r hl]
    exact scanItems_encode_deep n (x :: xs) _ [] r hl (by simp only [nesting] at hd; omega)
      (by have := length_le_encodeItems (x :: xs); simp only [List.length_append, List.length_cons] at this ⊢; omega)
  | n + 1, .dict [], _, _, hd => absurd hd (by simp [nesting, membersNesting])
  | n + 1, .dict ((k, v) :: ms), r, hl, hd => by
    rw [scanValue_encode_dict floatOf n k v ms r]
    exact scanMembers_encode_deep n ((k, v) :: ms) _ [] r hl.2 (by simp only [nesting] at hd; omega)
      (by have := length_le_encodeMembers ((k, v) :: ms); simp only [List.length_append, List.length_cons] at this ⊢; omega)
  | _, .null, _, _, hd | _, .bool _, _, _, hd | _, .int _, _, _, hd | _, .float _, _, _, hd
  | _, .str _, _, _, hd => absurd hd (by simp [nesting])

/-- The item loop reads the items that fit the budget, up to the first that does not. -/
theorem scanItems_encode_deep : ∀ (n : Nat) (xs : List Json) (fuel : Nat) (acc : List Json) (r : List Char),
    ItemsLoadable floatOf xs → n < itemsNesting xs → xs.length ≤ fuel →
    ∃ e, TooDeep e ∧ scanItems (scanValue floatOf n) fuel acc (encodeItems xs ++ ']' :: r) = .error e
  | _, [], _, _, _, _, hd, _ => absurd hd (by simp [itemsNesting])
  | _, _ :: _, 0, _, _, _, _, hf => absurd hf (by simp)
  | n, x :: xs, fuel + 1, acc, r, hl, hd, hf => by
    by_cases hx : n < nesting x
    · obtain ⟨t, ht⟩ := encodeItems_cons x xs
      obtain ⟨e, he, hscan⟩ := scanValue_encode_deep n x (t ++ ']' :: r) hl.1 hx
      exact ⟨e, he, by rw [scanItems, ht, List.append_assoc, hscan]; rfl⟩
    · match xs, hl with
      | [], _ => simp only [itemsNesting] at hd; omega
      | y :: ys, hl =>
        obtain ⟨c, t, hyc, hc⟩ := encodeItems_head floatOf ys hl.2.1
        have hskip : skipWs (encodeItems (y :: ys) ++ ']' :: r) = encodeItems (y :: ys) ++ ']' :: r := by
          rw [hyc, List.cons_append, skipWs_cons_of_not _ hc.1]
        rw [encodeItems_cons_cons, List.append_assoc, List.cons_append, List.cons_append, scanItems]
        simp only [scanValue_encode floatOf n x _ hl.1 (by omega) (delim_cons _ (Or.inl rfl)), ok_bind,
          follow_comma ']' _ (by decide), hskip]
        exact scanItems_encode_deep n (y :: ys) fuel (acc ++ [x]) r hl.2
          (by simp only [itemsNesting] at hd ⊢; omega) (by simp only [List.length_cons] at hf ⊢; omega)

/-- The member loop reads the members that fit the budget, up to the first that does not. -/
theorem scanMembers_encode_deep : ∀ (n : Nat) (ms : List (String × Json)) (fuel : Nat) (acc : Dict)
    (r : List Char), MembersLoadable floatOf ms → n < membersNesting ms → ms.length ≤ fuel →
    ∃ e, TooDeep e ∧ scanMembers (scanValue floatOf n) fuel acc (encodeMembers ms ++ '\x7d' :: r) = .error e
  | _, [], _, _, _, _, hd, _ => absurd hd (by simp [membersNesting])
  | _, _ :: _, 0, _, _, _, _, hf => absurd hf (by simp)
  | n, (k, v) :: ms, fuel + 1, acc, r, hl, hd, hf => by
    by_cases hv : n < nesting v
    · obtain ⟨t, ht⟩ := encodeMembers_cons k v ms
      obtain ⟨e, he, hscan⟩ := scanValue_encode_deep n v (t ++ '\x7d' :: r) hl.1 hv
      refine ⟨e, he, ?_⟩
      rw [scanMembers, ht]
      simp only [List.append_assoc, List.cons_append, scanKey_encode, ok_bind, skipWs_encode floatOf v hl.1, hscan]
      rfl
    · match ms, hl with
      | [], _ => simp only [membersNesting] at hd; omega
      | m :: ms, hl =>
        obtain ⟨t, hmt⟩ := encodeMembers_head m.1 m.2 ms
        have hskip : skipWs (encodeMembers (m :: ms) ++ '\x7d' :: r) = encodeMembers (m :: ms) ++ '\x7d' :: r := by
          rw [hmt, List.cons_append, skipWs_cons_of_not _ (by decide)]
        simp only [encodeMembers_cons_cons, List.append_assoc, List.cons_append]
        rw [scanMembers]
        simp only [scanKey_encode, ok_bind, skipWs_encode floatOf v hl.1,
          scanValue_encode floatOf n v _ hl.1 (by omega) (delim_cons _ (Or.inl rfl)), follow_comma '\x7d' _ (by decide),
          hskip]
        exact scanMembers_encode_deep n (m :: ms) fuel _ r hl.2
          (by simp only [membersNesting] at hd ⊢; omega) (by simp only [List.length_cons] at hf ⊢; omega)

end

/-- **`json.loads(json.dumps(v))` raises `RecursionError` when `v` nests deeper than the limit**: with
`loads_dumps`, it reads `v` back exactly when `v` nests within the limit. -/
theorem loads_dumps_deep (limit : Nat) (v : Json) (hv : Loadable floatOf v) (hd : limit < nesting v) :
    ∃ e, TooDeep e ∧ loads floatOf limit (dumps v) = .error e := by
  obtain ⟨c, t, h, hc⟩ := encode_head floatOf v hv
  have hdoc : (dumps v).toList = encode v := rfl
  obtain ⟨e, he, hscan⟩ := scanValue_encode_deep floatOf limit v [] hv hd
  have hskip := skipWs_encode floatOf v hv []
  rw [List.append_nil] at hscan hskip
  have hbom : (encode v).head? ≠ some '\uFEFF' := by simp [h, hc.2.2.2]
  refine ⟨e, he, ?_⟩
  simp only [loads, hdoc, if_neg hbom, hskip, hscan]
  rfl

end RoundTrip

end EnclaveProver.Python.JsonText
