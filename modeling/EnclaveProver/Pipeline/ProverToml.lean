import EnclaveProver.Pipeline.Generate
import Mathlib.Data.Nat.Digits

/-!
# `Prover.toml`, as `nargo` reads it

Without a `proverToml` field, `write_prover_toml` writes one line `input_<i> = "<value>"` per input,
joined by newlines, with the value copied into a TOML basic string as it is. `readToml` reads such
a file as TOML 1.0 does, for the part of TOML it covers: blank lines, comments, and one
`bare-key = "basic string"` per line, with the escapes `\b \t \n \f \r \" \\`. Everything else (other
keys, other values, `\u` escapes, tables) is refused, so whatever `readToml` accepts, a TOML parser
reads as the same table; a key defined twice is refused as TOML refuses it.

* `readToml_proverTomlText`: for inputs with no `"`, no backslash and no control character but tab,
  the file defines exactly `input_0 … input_{n-1}`, bound to the inputs in order.
* `decimal_toString`: the decimal text of a number reads back as the number, so the keys of two
  lines differ.
-/

namespace EnclaveProver.Pipeline.ProverToml

open EnclaveProver.Python.Value EnclaveProver.Pipeline.Generate

/-! ### Reading TOML -/

/-- TOML whitespace: space and tab. -/
def isWs (c : Char) : Bool := c = ' ' || c = '\t'

/-- A control character TOML refuses in strings and comments: all but tab below U+0020, and DEL. -/
def isControl (c : Char) : Bool := (c.toNat < 0x20 && c != '\t') || c.toNat = 0x7f

/-- A character of a bare key: ASCII letters and digits, `_` and `-`. -/
def isBareKeyChar (c : Char) : Bool := c.isAlphanum || c = '_' || c = '-'

/-- The character an escape `\e` stands for (`\u` and `\U` are not read). -/
def escapeChar (e : Char) : Option Char :=
  if e = 'b' then some (Char.ofNat 8) else if e = 't' then some '\t'
  else if e = 'n' then some '\n' else if e = 'f' then some (Char.ofNat 12)
  else if e = 'r' then some '\r' else if e = doubleQuote then some doubleQuote
  else if e = backslash then some backslash else none

/-- **The body of a basic string** after its opening quote: its value, and what follows the closing
quote. -/
def basicString : List Char → Except String (List Char × List Char)
  | [] => .error "unterminated string"
  | c :: cs =>
    if c = doubleQuote then .ok ([], cs)
    else if c = backslash then
      match cs with
      | [] => .error "unterminated string"
      | e :: cs' =>
        match escapeChar e with
        | some x => (basicString cs').map fun (v, r) => (x :: v, r)
        | none => .error "escape not read"
    else if isControl c then .error "control character in string"
    else (basicString cs).map fun (v, r) => (c :: v, r)

/-- The end of a line: nothing but whitespace, or a comment without control characters. -/
def lineEndOk (r : List Char) : Bool :=
  match r.dropWhile isWs with
  | [] => true
  | c :: cs => c = '#' && cs.all (fun c => !isControl c)

/-- **One line**: blank or a comment gives nothing, `key = "value"` gives the pair. -/
def parseLine (line : List Char) : Except String (Option (String × String)) :=
  match line.dropWhile isWs with
  | [] => .ok none
  | '#' :: cs => if cs.all (fun c => !isControl c) then .ok none else .error "control character"
  | l =>
    let key := l.takeWhile isBareKeyChar
    if key.isEmpty then .error "key not read"
    else
      match (l.drop key.length).dropWhile isWs with
      | '=' :: r =>
        match r.dropWhile isWs with
        | c :: body =>
          if c = doubleQuote then
            match basicString body with
            | .ok (v, after) =>
              if lineEndOk after then .ok (some (String.mk key, String.mk v)) else .error "after value"
            | .error e => .error e
          else .error "value not read"
        | [] => .error "missing value"
      | _ => .error "expected ="

/-- A line without its carriage return: TOML ends lines with LF or CRLF. -/
def dropCr (l : List Char) : List Char := if l.getLast? = some '\r' then l.dropLast else l

/-- The lines of a document, read into the table `acc`; a key defined twice is refused. -/
def parseLines : List (List Char) → List (String × String) → Except String (List (String × String))
  | [], acc => .ok acc
  | l :: ls, acc =>
    match parseLine (dropCr l) with
    | .error e => .error e
    | .ok none => parseLines ls acc
    | .ok (some (k, v)) =>
      if acc.any (·.1 == k) then .error ("duplicate key " ++ k) else parseLines ls (acc ++ [(k, v)])

/-- **The table a TOML document defines**, keys in order. -/
def readToml (text : String) : Except String (List (String × String)) :=
  parseLines (splitOn '\n' text.toList) []

/-! ### Decimal texts -/

/-- The number a text of decimal digits stands for. -/
def ofDecimal (l : List Char) : Nat := l.foldl (fun n c => 10 * n + (c.toNat - '0'.toNat)) 0

theorem ofDecimal_append_singleton (l : List Char) (c : Char) :
    ofDecimal (l ++ [c]) = 10 * ofDecimal l + (c.toNat - '0'.toNat) := by
  simp [ofDecimal]

theorem toDigitsCore_acc (fuel n : Nat) (ds : List Char) :
    Nat.toDigitsCore 10 fuel n ds = Nat.toDigitsCore 10 fuel n [] ++ ds := by
  induction fuel generalizing n ds with
  | zero => rfl
  | succ fuel ih =>
    simp only [Nat.toDigitsCore]
    split
    · rfl
    · rw [ih _ (_ :: ds), ih _ [_]]
      simp

theorem digitChar_value {k : Nat} (h : k < 10) : (Nat.digitChar k).toNat - '0'.toNat = k := by
  interval_cases k <;> rfl

theorem isDigit_digitChar {k : Nat} (h : k < 10) : (Nat.digitChar k).isDigit := by
  interval_cases k <;> rfl

theorem toDigitsCore_spec (fuel n : Nat) (h : n < fuel) :
    ofDecimal (Nat.toDigitsCore 10 fuel n []) = n ∧
      ∀ c ∈ Nat.toDigitsCore 10 fuel n [], c.isDigit := by
  induction fuel generalizing n with
  | zero => omega
  | succ fuel ih =>
    have hlt : n % 10 < 10 := Nat.mod_lt n (by omega)
    simp only [Nat.toDigitsCore]
    split
    · refine ⟨?_, by simpa using isDigit_digitChar hlt⟩
      have := digitChar_value hlt
      simp only [ofDecimal, List.foldl_cons, List.foldl_nil]
      omega
    · obtain ⟨ih1, ih2⟩ := ih (n / 10) (by omega)
      rw [toDigitsCore_acc, ofDecimal_append_singleton, ih1, digitChar_value hlt]
      refine ⟨by omega, fun c hc => ?_⟩
      rcases List.mem_append.mp hc with hc | hc
      · exact ih2 c hc
      · simp only [List.mem_singleton] at hc
        exact hc ▸ isDigit_digitChar hlt

/-- **The decimal text of a number reads back as the number.** -/
theorem decimal_toString (n : Nat) : ofDecimal (toString n).toList = n :=
  (toDigitsCore_spec (n + 1) n (by omega)).1

theorem isDigit_of_mem_toString {n : Nat} {c : Char} (h : c ∈ (toString n).toList) : c.isDigit :=
  (toDigitsCore_spec (n + 1) n (by omega)).2 c h

/-- The keys of two lines differ. -/
theorem key_injective {i j : Nat} (h : "input_" ++ toString i = "input_" ++ toString j) : i = j := by
  have h1 : (toString i).toList = (toString j).toList := by
    simpa [String.toList] using congrArg String.data h
  rw [← decimal_toString i, ← decimal_toString j, h1]

/-! ### One line -/

/-- **A character copied unchanged into a basic string**: not `"`, not a backslash, and not a
control character other than tab. -/
def TomlSafe (c : Char) : Prop := c ≠ doubleQuote ∧ c ≠ backslash ∧ isControl c = false

instance (c : Char) : Decidable (TomlSafe c) :=
  inferInstanceAs (Decidable (c ≠ doubleQuote ∧ c ≠ backslash ∧ isControl c = false))

theorem basicString_safe (s rest : List Char) (h : ∀ c ∈ s, TomlSafe c) :
    basicString (s ++ doubleQuote :: rest) = .ok (s, rest) := by
  induction s with
  | nil => rw [basicString.eq_def]; simp
  | cons c s ih =>
    obtain ⟨h1, h2, h3⟩ := h c (List.mem_cons_self _ _)
    rw [List.cons_append, basicString.eq_def]
    simp [h1, h2, h3, ih (fun c hc => h c (List.mem_cons_of_mem _ hc)), Except.map]

theorem isWs_of_isBareKeyChar {c : Char} (h : isBareKeyChar c) : isWs c = false ∧ c ≠ '#' := by
  refine ⟨?_, ?_⟩
  · cases hw : isWs c
    · rfl
    · simp only [isWs, Bool.or_eq_true, decide_eq_true_eq] at hw
      rcases hw with rfl | rfl <;> revert h <;> decide
  · rintro rfl; revert h; decide

/-- **A line `key = "value"`** with a bare key and a value of safe characters reads as the pair. -/
theorem parseLine_keyValue (key v : List Char) (hk : key ≠ [])
    (hkey : ∀ c ∈ key, isBareKeyChar c) (hv : ∀ c ∈ v, TomlSafe c) :
    parseLine (key ++ ' ' :: '=' :: ' ' :: doubleQuote :: (v ++ [doubleQuote])) =
      .ok (some (String.mk key, String.mk v)) := by
  obtain ⟨k, ks, rfl⟩ := List.exists_cons_of_ne_nil hk
  obtain ⟨hws, hhash⟩ := isWs_of_isBareKeyChar (hkey k (List.mem_cons_self _ _))
  have htake : ((k :: ks) ++ ' ' :: '=' :: ' ' :: doubleQuote :: (v ++ [doubleQuote])).takeWhile
      isBareKeyChar = k :: ks := by
    rw [List.takeWhile_append_of_pos hkey]
    simp [isBareKeyChar]
  unfold parseLine
  rw [List.cons_append, List.dropWhile_cons_of_neg (by simp [hws]), ← List.cons_append]
  split
  · contradiction
  · rename_i h; cases h; contradiction
  · have hsp : isWs ' ' = true := rfl
    have heq : isWs '=' = false := rfl
    have hq : isWs doubleQuote = false := rfl
    simp only [htake, List.isEmpty_cons, List.drop_left]
    simp [List.dropWhile_cons, hsp, heq, hq, basicString_safe v [] hv, lineEndOk]

theorem isBareKeyChar_of_mem_key {i : Nat} {c : Char} (h : c ∈ ("input_" ++ toString i).toList) :
    isBareKeyChar c = true := by
  simp only [String.toList, String.data_append, List.mem_append] at h
  rcases h with h | h
  · revert c; decide
  · simp [isBareKeyChar, Char.isAlphanum, isDigit_of_mem_toString h]

theorem tomlLine_toList (i : Nat) (s : String) :
    (tomlLine i (.str s)).toList =
      ("input_" ++ toString i).toList ++ ' ' :: '=' :: ' ' :: doubleQuote :: (s.toList ++ [doubleQuote]) := by
  simp [tomlLine, String.toList, doubleQuote]

theorem parseLine_tomlLine (i : Nat) (s : String) (h : ∀ c ∈ s.toList, TomlSafe c) :
    parseLine (tomlLine i (.str s)).toList = .ok (some ("input_" ++ toString i, s)) := by
  rw [tomlLine_toList, parseLine_keyValue _ _ (by simp [String.toList])
    (fun _ => isBareKeyChar_of_mem_key) h]
  rfl

theorem dropCr_tomlLine (i : Nat) (s : String) :
    dropCr (tomlLine i (.str s)).toList = (tomlLine i (.str s)).toList := by
  have hlast : (tomlLine i (.str s)).toList.getLast? = some doubleQuote := by
    rw [tomlLine_toList]
    simp only [← List.cons_append, ← List.append_assoc, List.getLast?_concat]
  rw [dropCr, hlast, if_neg (by decide)]

theorem newline_not_mem_tomlLine (i : Nat) (s : String) (h : ∀ c ∈ s.toList, TomlSafe c) :
    '\n' ∉ (tomlLine i (.str s)).toList := by
  rw [tomlLine_toList]
  intro hm
  simp only [List.mem_append, List.mem_cons, List.mem_singleton] at hm
  rcases hm with hm | hm | hm | hm | hm | hm | hm
  · exact absurd (isBareKeyChar_of_mem_key hm) (by decide)
  all_goals first | exact absurd hm (by decide) | exact absurd (h _ hm).2.2 (by decide)

/-! ### The file -/

theorem intercalate_go_data (acc s : String) (l : List String) :
    (String.intercalate.go acc s l).data = acc.data ++ (l.map fun a => s.data ++ a.data).flatten := by
  induction l generalizing acc with
  | nil => simp [String.intercalate.go]
  | cons a l ih => simp [String.intercalate.go, ih]

/-- Lines without a newline, joined by newlines and ended by one, split back into the lines and an
empty last line. -/
theorem splitOn_intercalate (lines : List String) (hne : lines ≠ [])
    (h : ∀ x ∈ lines, '\n' ∉ x.toList) :
    splitOn '\n' ("\n".intercalate lines ++ "\n").toList = lines.map String.toList ++ [[]] := by
  obtain ⟨l, ls, rfl⟩ := List.exists_cons_of_ne_nil hne
  have := splitOn_lines '\n' l.toList (ls.map String.toList) (h l (List.mem_cons_self _ _))
    (by simpa using fun x hx => h x (List.mem_cons_of_mem _ hx))
  simp only [List.map_map] at this
  simpa [String.intercalate, intercalate_go_data, String.toList] using this

/-- **The lines of `(i, s)` pairs**, read after a table `acc` that binds none of their keys, add
their bindings in order, when the indices differ and the values are safe. -/
theorem parseLines_tomlLines (ps : List (Nat × String)) (acc : List (String × String))
    (hsafe : ∀ p ∈ ps, ∀ c ∈ p.2.toList, TomlSafe c) (hnd : (ps.map Prod.fst).Nodup)
    (hacc : ∀ p ∈ ps, ∀ kv ∈ acc, kv.1 ≠ "input_" ++ toString p.1) :
    parseLines (ps.map (fun p => (tomlLine p.1 (.str p.2)).toList) ++ [[]]) acc =
      .ok (acc ++ ps.map fun p => ("input_" ++ toString p.1, p.2)) := by
  induction ps generalizing acc with
  | nil => simp [parseLines, dropCr, parseLine]
  | cons p ps ih =>
    obtain ⟨i, s⟩ := p
    simp only [List.map_cons, List.nodup_cons, List.mem_map] at hnd
    have hnew : acc.any (·.1 == "input_" ++ toString i) = false := by
      simpa using fun kv hkv => hacc _ (List.mem_cons_self _ _) kv hkv
    have hacc' : ∀ p ∈ ps, ∀ kv ∈ acc ++ [("input_" ++ toString i, s)],
        kv.1 ≠ "input_" ++ toString p.1 := by
      intro p hp kv hkv
      rcases List.mem_append.mp hkv with hkv | hkv
      · exact hacc p (List.mem_cons_of_mem _ hp) kv hkv
      · simp only [List.mem_singleton] at hkv
        subst hkv
        exact fun h => hnd.1 ⟨p, hp, (key_injective h).symm⟩
    simp only [List.map_cons, List.cons_append, parseLines, dropCr_tomlLine,
      parseLine_tomlLine i s (hsafe _ (List.mem_cons_self _ _)), hnew, List.append_eq]
    rw [ih _ (fun p hp => hsafe p (List.mem_cons_of_mem _ hp)) hnd.2 hacc']
    simp

/-- **`Prover.toml` binds exactly the inputs**: for inputs with no `"`, no backslash and no control
character but tab, the file `write_prover_toml` writes defines `input_0 … input_{n-1}` and nothing
else, `input_i` bound to the `i`-th input. -/
theorem readToml_proverTomlText (ss : List String) (h : ∀ s ∈ ss, ∀ c ∈ s.toList, TomlSafe c) :
    readToml (proverTomlText (ss.map .str)) =
      .ok (((List.range ss.length).zip ss).map fun p => ("input_" ++ toString p.1, p.2)) := by
  rcases eq_or_ne ss [] with rfl | hne
  · rfl
  · have hsafe : ∀ p ∈ (List.range ss.length).zip ss, ∀ c ∈ p.2.toList, TomlSafe c :=
      fun p hp => h p.2 (List.of_mem_zip hp).2
    have hmap : ((List.range ss.length).zip (ss.map .str)).map (fun (i, v) => tomlLine i v) =
        ((List.range ss.length).zip ss).map fun p => tomlLine p.1 (.str p.2) := by
      rw [List.zip_map_right, List.map_map]; rfl
    have hlines : ∀ x ∈ ((List.range ss.length).zip ss).map (fun p => tomlLine p.1 (.str p.2)),
        '\n' ∉ x.toList := by
      simp only [List.mem_map]
      rintro _ ⟨p, hp, rfl⟩
      exact newline_not_mem_tomlLine _ _ (hsafe p hp)
    rw [readToml, proverTomlText, List.length_map, hmap,
      splitOn_intercalate _ (by simpa using hne) hlines, List.map_map]
    simpa using parseLines_tomlLines _ [] hsafe
      (by rw [List.map_fst_zip _ _ (by simp)]; exact List.nodup_range _) (by simp)

theorem readToml_proverTomlText_digits :
    (∀ s ∈ ["12", "345"], ∀ c ∈ s.toList, TomlSafe c) ∧
      readToml (proverTomlText (["12", "345"].map .str)) =
        .ok [("input_0", "12"), ("input_1", "345")] := by
  have h : ∀ s ∈ ["12", "345"], ∀ c ∈ s.toList, TomlSafe c := by decide
  exact ⟨h, (readToml_proverTomlText _ h).trans rfl⟩

/-- **One input adds a second key**: a value holding `"`, a newline and a line of its own. -/
theorem proverToml_injection :
    readToml (proverTomlText [.str "1\"\ninput_1 = \"2"]) =
      .ok [("input_0", "1"), ("input_1", "2")] := by
  rfl

end EnclaveProver.Pipeline.ProverToml
