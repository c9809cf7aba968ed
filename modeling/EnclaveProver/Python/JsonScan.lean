import EnclaveProver.Python.JsonRoundTrip

/-!
# Every run of `json.loads`

`json.loads` reads its text from left to right, and each time round one of its loops (over the
characters of a string, the items of an array, the members of an object) it reads at least one
character. The model bounds each loop by the length of the text it reads; `ScanError.exhausted`,
which CPython has no counterpart of, is that bound running out. Each step of the scanner `Moves`: it
fails with an error CPython raises, or it succeeds and leaves less of the text than it was given.
From that one fact about each step, by induction over the loops and over the nesting budget:

* `scanValue_moves`: what `scan_once_unicode` returns has every property that strings, named
  constants and numbers have and that arrays and objects with distinct keys keep;
* `loads_ne_exhausted`: the bound is never reached, so `json.loads` returns a value or raises one of
  the errors CPython raises;
* `loads_loadable`: the value `json.loads` returns nests within the recursion limit, its dicts have
  distinct keys (`PyDict_SetItem` keeps one entry per key) and its floats are those `float()` made,
  so it is `Loadable` and `json.dumps` writes it back to a text that reads as itself
  (`dumps_loads`).
-/

namespace EnclaveProver.Python.JsonText

open EnclaveProver.Python.Value

/-- **A step of the scanner that moves on**: it fails with an error CPython raises, never the
model's own `exhausted`, or it succeeds with a result `a` that has the property `P` and leaves
`rest a`, shorter than `n`. -/
def Moves {α : Type} (P : α → Prop) (rest : α → List Char) (n : Nat) : Except ScanError α → Prop
  | .error e => e ≠ .exhausted
  | .ok a => (rest a).length < n ∧ P a

section Moves

variable {α β : Type} {P : α → Prop} {Q : β → Prop} {rest : α → List Char} {rest' : β → List Char} {n m : Nat}

@[simp] theorem moves_error {e : ScanError} : Moves P rest n (.error e) ↔ e ≠ .exhausted := Iff.rfl

@[simp] theorem moves_ok {a : α} : Moves P rest n (.ok a) ↔ (rest a).length < n ∧ P a := Iff.rfl

@[simp] theorem moves_pure {a : α} : Moves P rest n (pure a) ↔ (rest a).length < n ∧ P a := Iff.rfl

theorem Moves.bind {x : Except ScanError α} {f : α → Except ScanError β} (hx : Moves P rest n x)
    (hf : ∀ a, (rest a).length < n → P a → Moves Q rest' m (f a)) : Moves Q rest' m (x >>= f) := by
  cases x with
  | error e => exact hx
  | ok a => exact hf a hx.1 hx.2

theorem Moves.mono {x : Except ScanError α} {P' : α → Prop} (h : Moves P rest n x) (hn : n ≤ m)
    (hP : ∀ a, P a → P' a) : Moves P' rest m x := by
  cases x with
  | error e => exact h
  | ok a => exact ⟨by have := h.1; omega, hP a h.2⟩

end Moves

/-! ### Strings -/

/-- The text a unit of a string leaves. -/
def StrUnit.rest : StrUnit → List Char
  | .close r | .char _ r => r

theorem unicodeUnit_moves (s : List Char) :
    Moves (fun _ => True) StrUnit.rest s.length (unicodeUnit s) := by
  unfold unicodeUnit
  repeat' split
  all_goals simp only [moves_ok, moves_error, StrUnit.rest, List.length_cons, ne_eq, reduceCtorEq,
    not_false_eq_true, and_true]
  all_goals omega

theorem escapeUnit_moves (begin : Nat) (s : List Char) :
    Moves (fun _ => True) StrUnit.rest s.length (escapeUnit begin s) := by
  match s with
  | [] => simp [escapeUnit]
  | e :: s =>
    rw [escapeUnit]
    split
    · exact (unicodeUnit_moves s).mono (by simp) fun _ h => h
    · split <;> simp [StrUnit.rest]

theorem stringUnit_moves (begin : Nat) (s : List Char) :
    Moves (fun _ => True) StrUnit.rest s.length (stringUnit begin s) := by
  match s with
  | [] => simp [stringUnit]
  | c :: s =>
    rw [stringUnit]
    split_ifs
    · simp [StrUnit.rest]
    · exact (escapeUnit_moves begin s).mono (by simp) fun _ h => h
    · simp
    · simp [StrUnit.rest]

theorem scanString_moves (begin : Nat) :
    ∀ fuel s, s.length < fuel → Moves (fun _ => True) Prod.snd s.length (scanString begin fuel s)
  | 0, _, h => absurd h (Nat.not_lt_zero _)
  | fuel + 1, s, h => by
    rw [scanString]
    refine (stringUnit_moves begin s).bind fun u hu _ => ?_
    cases u with
    | close r => exact ⟨hu, trivial⟩
    | char c r =>
      exact (scanString_moves begin fuel r (by simp only [StrUnit.rest] at hu; omega)).bind
        fun ⟨_, r'⟩ hr _ => ⟨by simp only [StrUnit.rest] at hu hr ⊢; omega, trivial⟩

/-! ### Keys, delimiters and numbers -/

theorem length_skipWs_le (s : List Char) : (skipWs s).length ≤ s.length := by
  induction s with
  | nil => rfl
  | cons c s ih => unfold skipWs; split_ifs <;> simp; omega

/-- The text after what follows an item. -/
def Follow.rest : Follow → List Char
  | .close r | .comma r => r

theorem follow_moves (close : Char) (r : List Char) :
    Moves (fun _ => True) Follow.rest r.length (follow close r) := by
  have hle := length_skipWs_le r
  unfold follow
  split
  · simp
  · rename_i c r' h
    have hle' := length_skipWs_le r'
    rw [h, List.length_cons] at hle
    split_ifs <;> simp [Follow.rest] <;> omega

theorem scanKey_moves (s : List Char) : Moves (fun _ => True) Prod.snd s.length (scanKey s) := by
  match s with
  | [] => simp [scanKey]
  | c :: s =>
    rw [scanKey]
    split_ifs
    · refine (scanString_moves _ _ s (Nat.lt_succ_self _)).bind fun ⟨k, r⟩ hr _ => ?_
      have hle := length_skipWs_le r
      dsimp only at hr ⊢
      split
      · simp
      · rename_i c r' h
        have hle' := length_skipWs_le r'
        rw [h, List.length_cons] at hle
        split_ifs <;> simp; omega
    · simp

theorem spanDigits_append_eq (s : List Char) : (spanDigits s).1 ++ (spanDigits s).2 = s := by
  induction s with
  | nil => rfl
  | cons c s ih => unfold spanDigits; split_ifs <;> simp [ih]

theorem signPart_append_eq (signs s : List Char) : (signPart signs s).1 ++ (signPart signs s).2 = s := by
  cases s with
  | nil => rfl
  | cons c s => rw [signPart]; split_ifs <;> rfl

theorem intPart_append_eq {s i r : List Char} (h : intPart s = some (i, r)) : i ++ r = s ∧ i ≠ [] := by
  match s with
  | c :: s =>
    rw [intPart] at h
    split_ifs at h with h0 <;> cases h <;> simp [spanDigits_append_eq, h0]

theorem fracPart_append_eq (s : List Char) : (fracPart s).1 ++ (fracPart s).2 = s := by
  unfold fracPart
  split
  · split_ifs <;> simp [spanDigits_append_eq]
  · rfl

theorem expPart_append_eq (s : List Char) : (expPart s).1 ++ (expPart s).2 = s := by
  unfold expPart
  split
  · rfl
  · split_ifs <;>
      simp only [List.cons_append, List.append_assoc, List.nil_append, spanDigits_append_eq, signPart_append_eq]

/-- **A number is read off the head of the text**: its characters, then the rest. -/
theorem matchNumber_append_eq {s text r : List Char} {isFloat : Bool}
    (h : matchNumber s = some (text, isFloat, r)) : text ++ r = s ∧ text ≠ [] := by
  unfold matchNumber at h
  split at h
  · cases h
  · rename_i i r₁ hi
    cases h
    obtain ⟨hir, hne⟩ := intPart_append_eq hi
    refine ⟨?_, by simp [hne]⟩
    simp only [List.append_assoc, expPart_append_eq, fracPart_append_eq, hir, signPart_append_eq]

theorem drop_length_lt {t s : List Char} (h : t <+: s) (ht : t ≠ []) :
    (s.drop t.length).length < s.length := by
  have := h.length_le
  have := List.length_pos.mpr ht
  rw [List.length_drop]
  omega

/-- A named constant is a prefix of the text, and is `null`, a boolean or one of the three named floats. -/
theorem namedConstant_spec {s : List Char} {p : Json × List Char} (h : namedConstant s = some p) :
    (∃ t, t <+: s ∧ t ≠ [] ∧ p.2 = s.drop t.length) ∧
      (p.1 = .null ∨ (∃ b, p.1 = .bool b) ∨ p.1 = .float nan ∨ p.1 = .float inf ∨ p.1 = .float negInf) := by
  rw [namedConstant] at h
  by_cases h1 : "null".toList <+: s
  · rw [if_pos h1] at h; cases h; exact ⟨⟨_, h1, by simp, rfl⟩, by simp⟩
  rw [if_neg h1] at h
  by_cases h2 : "true".toList <+: s
  · rw [if_pos h2] at h; cases h; exact ⟨⟨_, h2, by simp, rfl⟩, by simp⟩
  rw [if_neg h2] at h
  by_cases h3 : "false".toList <+: s
  · rw [if_pos h3] at h; cases h; exact ⟨⟨_, h3, by simp, rfl⟩, by simp⟩
  rw [if_neg h3] at h
  by_cases h4 : "NaN".toList <+: s
  · rw [if_pos h4] at h; cases h; exact ⟨⟨_, h4, by simp, rfl⟩, by simp⟩
  rw [if_neg h4] at h
  by_cases h5 : "Infinity".toList <+: s
  · rw [if_pos h5] at h; cases h; exact ⟨⟨_, h5, by simp, rfl⟩, by simp⟩
  rw [if_neg h5] at h
  by_cases h6 : "-Infinity".toList <+: s
  · rw [if_pos h6] at h; cases h; exact ⟨⟨_, h6, by simp, rfl⟩, by simp⟩
  rw [if_neg h6] at h
  cases h

theorem scanNumber_moves (floatOf : String → PyFloat) {Q : Json × List Char → Prop} (s : List Char)
    (hQ : ∀ p, scanNumber floatOf s = .ok p → Q p) : Moves Q Prod.snd s.length (scanNumber floatOf s) := by
  revert hQ
  unfold scanNumber
  split
  · simp
  · rename_i text isFloat r h
    have hlen := congrArg List.length (matchNumber_append_eq h).1
    have hpos := List.length_pos.mpr (matchNumber_append_eq h).2
    rw [List.length_append] at hlen
    intro hQ
    split_ifs at hQ ⊢
    · exact ⟨by simp only; omega, hQ _ rfl⟩
    · simp
    · exact ⟨by simp only; omega, hQ _ rfl⟩

/-! ### Integers within the digit limit -/

theorem digit_value_le {c : Char} (h : c.isDigit) : c.toNat - '0'.toNat ≤ 9 := by
  simp only [Char.isDigit, Bool.and_eq_true, decide_eq_true_eq] at h
  have h2 : c.val.toNat ≤ 57 := h.2
  show c.val.toNat - 48 ≤ 9
  omega

theorem digit_value_pos {c : Char} (h : c.isDigit) (h0 : c ≠ '0') : 1 ≤ c.toNat - '0'.toNat := by
  simp only [Char.isDigit, Bool.and_eq_true, decide_eq_true_eq] at h
  have h1 : 48 ≤ c.val.toNat := h.1
  have h48 : c.val.toNat ≠ 48 := fun he => h0 (Char.ext (UInt32.toNat.inj (by simpa using he)))
  show 1 ≤ c.val.toNat - 48
  omega

/-- The value of `k` decimal digits read after a value `a`: at least `a` shifted by `k` places, less
than `a + 1` shifted. -/
theorem foldl_digits_bounds (ds : List Char) (h : ∀ c ∈ ds, c.isDigit) (a : Nat) :
    a * 10 ^ ds.length ≤ ds.foldl (fun n d => 10 * n + (d.toNat - '0'.toNat)) a ∧
      ds.foldl (fun n d => 10 * n + (d.toNat - '0'.toNat)) a < (a + 1) * 10 ^ ds.length := by
  induction ds generalizing a with
  | nil => simp
  | cons d ds ih =>
    have hd := digit_value_le (h d (List.mem_cons_self _ _))
    obtain ⟨h1, h2⟩ := ih (fun c hc => h c (List.mem_cons_of_mem _ hc)) (10 * a + (d.toNat - '0'.toNat))
    simp only [List.foldl_cons, List.length_cons]
    constructor
    · calc a * 10 ^ (ds.length + 1) = 10 * a * 10 ^ ds.length := by ring
        _ ≤ (10 * a + (d.toNat - '0'.toNat)) * 10 ^ ds.length := Nat.mul_le_mul_right _ (Nat.le_add_right _ _)
        _ ≤ _ := h1
    · calc _ < (10 * a + (d.toNat - '0'.toNat) + 1) * 10 ^ ds.length := h2
        _ ≤ (10 * a + 10) * 10 ^ ds.length := Nat.mul_le_mul_right _ (by omega)
        _ = (a + 1) * 10 ^ (ds.length + 1) := by ring

/-- `str(m)` has at most `k` digits when `m < 10 ^ k`. -/
theorem length_toString_le {m k : Nat} (hk : 1 ≤ k) (hm : m < 10 ^ k) : (toString m).toList.length ≤ k := by
  obtain ⟨pre, hpre, hne, hdig, hval, hhead⟩ := toDigitsCore_digits (m + 1) m [] (by omega)
  rw [List.append_nil] at hpre
  have htext : (toString m).toList = pre := hpre
  rw [htext]
  obtain ⟨c, t, rfl⟩ := List.exists_cons_of_ne_nil hne
  by_cases h0 : c = '0'
  · obtain rfl : m = 0 := hhead (by simp [h0])
    rw [← htext]
    exact hk
  · have hlow : 10 ^ t.length ≤ m := by
      have hd := digit_value_pos (hdig c (List.mem_cons_self _ _)) h0
      rw [← hval]
      calc 10 ^ t.length ≤ (c.toNat - '0'.toNat) * 10 ^ t.length := Nat.le_mul_of_pos_left _ hd
        _ ≤ _ := by
          simpa [digitsValue] using (foldl_digits_bounds t (fun c hc => hdig c (List.mem_cons_of_mem _ hc)) _).1
    have := (Nat.pow_lt_pow_iff_right (by norm_num : 1 < 10)).mp (lt_of_le_of_lt hlow hm)
    simp only [List.length_cons]
    omega

/-- The digits of `str(n)` are those of `str(abs(n))`. -/
theorem digitCount_toString (n : Int) : digitCount (toString n).toList = (toString n.natAbs).toList.length := by
  have hnat : ∀ m : Nat, digitCount (toString m).toList = (toString m).toList.length := fun m => by
    obtain ⟨pre, hpre, -, hdig, -⟩ := toDigitsCore_digits (m + 1) m [] (by omega)
    rw [List.append_nil] at hpre
    have htext : (toString m).toList = pre := hpre
    rw [htext, digitCount, List.filter_eq_self.mpr hdig]
  cases n with
  | ofNat m => exact hnat m
  | negSucc m =>
    have htext : (toString (Int.negSucc m)).toList = '-' :: (toString (m + 1)).toList := rfl
    rw [htext, digitCount, List.filter_cons_of_neg (by decide)]
    exact hnat (m + 1)

theorem spanDigits_isDigit (s : List Char) : ∀ c ∈ (spanDigits s).1, c.isDigit := by
  induction s with
  | nil => simp [spanDigits]
  | cons c s ih => unfold spanDigits; split_ifs with h <;> simp_all

theorem intPart_isDigit {s i r : List Char} (h : intPart s = some (i, r)) : ∀ c ∈ i, c.isDigit := by
  unfold intPart at h
  split at h
  · cases h
  · split_ifs at h with h0 h1 <;> cases h
    · simp [h0]
    · simpa [h1] using spanDigits_isDigit _

/-- **The text of an integer `matchNumber` reads** is at least one digit, after an optional minus
sign. -/
theorem matchNumber_int {s text r : List Char} (h : matchNumber s = some (text, false, r)) :
    ∃ ds, (text = ds ∨ text = '-' :: ds) ∧ ds ≠ [] ∧ ∀ c ∈ ds, c.isDigit := by
  unfold matchNumber at h
  split at h
  · cases h
  · rename_i i r₁ hi
    have hsign : (signPart ['-'] s).1 = [] ∨ (signPart ['-'] s).1 = ['-'] := by
      cases s with
      | nil => exact .inl rfl
      | cons c t => by_cases hc : c = '-' <;> simp [signPart, hc]
    simp only [Option.some.injEq, Prod.mk.injEq, Bool.or_eq_false_iff, Bool.not_eq_false',
      List.isEmpty_iff] at h
    obtain ⟨rfl, ⟨hf, he⟩, -⟩ := h
    refine ⟨i, ?_, (intPart_append_eq hi).2, intPart_isDigit hi⟩
    rcases hsign with hs | hs <;> simp [hs, hf, he]

/-- **`repr` of what `int(numstr)` returns has no more digits than the text it read.** -/
theorem digitCount_toString_intOfText {s text r : List Char} (h : matchNumber s = some (text, false, r)) :
    digitCount (toString (intOfText text)).toList ≤ digitCount text := by
  obtain ⟨ds, htext, hne, hdig⟩ := matchNumber_int h
  have hcount : digitCount ds = ds.length := by rw [digitCount, List.filter_eq_self.mpr hdig]
  obtain ⟨c, t, rfl⟩ := List.exists_cons_of_ne_nil hne
  have hc : c ≠ '-' := fun hc => absurd (hdig c (List.mem_cons_self _ _)) (by simp [hc])
  have habs : (intOfText text).natAbs = digitsValue (c :: t) := by
    rcases htext with rfl | rfl <;> simp [intOfText, hc]
  have hlen : digitCount text = (c :: t).length := by
    rcases htext with rfl | rfl
    · exact hcount
    · rw [digitCount, List.filter_cons_of_neg (by decide)]
      exact hcount
  rw [digitCount_toString, habs, hlen]
  exact length_toString_le (Nat.succ_pos _) (by simpa [digitsValue] using (foldl_digits_bounds _ hdig 0).2)

/-! ### Dicts -/

theorem lookup_isSome_iff {d : Dict} {k : String} : (d.lookup k).isSome ↔ k ∈ d.map Prod.fst := by
  induction d with
  | nil => simp
  | cons m d ih =>
    obtain ⟨k', v'⟩ := m
    rw [List.lookup_cons]
    by_cases h : k = k'
    · simp [h]
    · simp [h, beq_eq_false_iff_ne.mpr h, ih]

theorem nodup_setItem {d : Dict} (k : String) (v : Json) (h : (d.map Prod.fst).Nodup) :
    ((setItem d k v).map Prod.fst).Nodup := by
  unfold setItem
  split_ifs with hk
  · have hfst : (fun m : String × Json => (if m.1 = k then (k, v) else m).1) = Prod.fst := by
      funext m; split_ifs <;> simp [*]
    simpa [List.map_map, Function.comp_def, hfst] using h
  · rw [lookup_isSome_iff] at hk
    simpa [List.nodup_append, hk] using h

theorem mem_setItem {d : Dict} {k : String} {v : Json} {m : String × Json} (h : m ∈ setItem d k v) :
    m ∈ d ∨ m = (k, v) := by
  unfold setItem at h
  split_ifs at h
  · obtain ⟨m', hm', rfl⟩ := List.mem_map.mp h
    split_ifs <;> simp [*]
  · simpa using h

/-! ### The loops -/

section Loops

variable {scan : List Char → Except ScanError (Json × List Char)} {Q : Json → Prop}
  (hscan : ∀ s, Moves (fun p => Q p.1) Prod.snd s.length (scan s))
include hscan

theorem scanItems_moves : ∀ fuel acc s, s.length < fuel → (∀ x ∈ acc, Q x) →
    Moves (fun p => ∃ xs, p.1 = .list xs ∧ ∀ x ∈ xs, Q x) Prod.snd s.length (scanItems scan fuel acc s)
  | 0, _, _, h, _ => absurd h (Nat.not_lt_zero _)
  | fuel + 1, acc, s, h, hacc => by
    rw [scanItems]
    refine (hscan s).bind fun ⟨v, r⟩ hr hv => ?_
    dsimp only at hr hv ⊢
    refine (follow_moves ']' r).bind fun f hf _ => ?_
    have hacc' : ∀ x ∈ acc ++ [v], Q x := by
      simpa [or_imp, forall_and] using ⟨hacc, hv⟩
    cases f with
    | close r' => exact ⟨by simp only [Follow.rest] at hf ⊢; omega, _, rfl, hacc'⟩
    | comma r' =>
      simp only [Follow.rest] at hf
      exact (scanItems_moves fuel _ r' (by omega) hacc').mono (by omega) fun _ h => h

theorem scanMembers_moves : ∀ fuel acc s, s.length < fuel → (acc.map Prod.fst).Nodup → (∀ m ∈ acc, Q m.2) →
    Moves (fun p => ∃ ms, p.1 = .dict ms ∧ (ms.map Prod.fst).Nodup ∧ ∀ m ∈ ms, Q m.2) Prod.snd s.length
      (scanMembers scan fuel acc s)
  | 0, _, _, h, _, _ => absurd h (Nat.not_lt_zero _)
  | fuel + 1, acc, s, h, hnd, hacc => by
    rw [scanMembers]
    refine (scanKey_moves s).bind fun ⟨k, r⟩ hr _ => ?_
    dsimp only at hr ⊢
    refine (hscan r).bind fun ⟨v, r'⟩ hr' hv => ?_
    dsimp only at hr' hv ⊢
    refine (follow_moves '\x7d' r').bind fun f hf _ => ?_
    have hacc' : ∀ m ∈ setItem acc k v, Q m.2 := fun m hm =>
      (mem_setItem hm).elim (hacc m) fun h => h ▸ hv
    cases f with
    | close r'' => exact ⟨by simp only [Follow.rest] at hf ⊢; omega, _, rfl, nodup_setItem k v hnd, hacc'⟩
    | comma r'' =>
      simp only [Follow.rest] at hf
      exact (scanMembers_moves fuel _ r'' (by omega) (nodup_setItem k v hnd) hacc').mono (by omega)
        fun _ h => h

theorem scanArray_moves (s : List Char) :
    Moves (fun p => ∃ xs, p.1 = .list xs ∧ ∀ x ∈ xs, Q x) Prod.snd (s.length + 1) (scanArray scan s) := by
  have hle := length_skipWs_le s
  unfold scanArray
  split_ifs
  · exact ⟨by simp; omega, [], rfl, by simp⟩
  · exact (scanItems_moves hscan _ [] _ (Nat.lt_succ_self _) (by simp)).mono (by omega) fun _ h => h

theorem scanObject_moves (s : List Char) :
    Moves (fun p => ∃ ms, p.1 = .dict ms ∧ (ms.map Prod.fst).Nodup ∧ ∀ m ∈ ms, Q m.2) Prod.snd
      (s.length + 1) (scanObject scan s) := by
  have hle := length_skipWs_le s
  unfold scanObject
  split_ifs
  · exact ⟨by simp; omega, [], rfl, by simp, by simp⟩
  · exact (scanMembers_moves hscan _ [] _ (Nat.lt_succ_self _) (by simp) (by simp)).mono (by omega)
      fun _ h => h

end Loops

/-! ### Every value -/

section Values

variable (floatOf : String → PyFloat) (P : Nat → Json → Prop)
  (hatom : ∀ n s p, namedConstant s = some p ∨ scanNumber floatOf s = .ok p → P n p.1)
  (hstr : ∀ n s, P n (.str s))
  (hlist : ∀ n xs, (∀ x ∈ xs, P n x) → P (n + 1) (.list xs))
  (hdict : ∀ n ms, (ms.map Prod.fst).Nodup → (∀ m ∈ ms, P n m.2) → P (n + 1) (.dict ms))
include hatom hstr hlist hdict

/-- One level of `scan_once_unicode`, from what the level below it does. -/
theorem scanValue_moves_of_below (n : Nat)
    (below : ∀ m, m + 1 = n → ∀ s, Moves (fun p => P m p.1) Prod.snd s.length (scanValue floatOf m s)) :
    ∀ s, Moves (fun p => P n p.1) Prod.snd s.length (scanValue floatOf n s)
  | [] => by simp [scanValue]
  | c :: s => by
    rw [scanValue_cons]
    split_ifs
    · refine (scanString_moves _ _ s (Nat.lt_succ_self _)).bind fun ⟨cs, r⟩ hr _ => ?_
      exact ⟨by simp only [List.length_cons] at hr ⊢; omega, hstr n _⟩
    · match n with
      | 0 => simp
      | m + 1 =>
        exact (scanObject_moves (below m rfl) s).mono le_rfl fun _ ⟨ms, hp, hnd, hms⟩ =>
          hp ▸ hdict m ms hnd hms
    · match n with
      | 0 => simp
      | m + 1 =>
        exact (scanArray_moves (below m rfl) s).mono le_rfl fun _ ⟨xs, hp, hxs⟩ => hp ▸ hlist m xs hxs
    · split
      · rename_i p hp
        obtain ⟨⟨t, ht, hne, hp2⟩, -⟩ := namedConstant_spec hp
        exact ⟨hp2 ▸ drop_length_lt ht hne, hatom n _ p (.inl hp)⟩
      · exact scanNumber_moves floatOf _ fun p hp => hatom n _ p (.inr hp)

/-- **What `scan_once_unicode` returns**: every property that strings, named constants and numbers
have and that arrays and objects with distinct keys keep, one level of nesting up. -/
theorem scanValue_moves : ∀ n s, Moves (fun p => P n p.1) Prod.snd s.length (scanValue floatOf n s)
  | 0 => scanValue_moves_of_below floatOf P hatom hstr hlist hdict 0 fun _ h => absurd h (Nat.succ_ne_zero _)
  | n + 1 => scanValue_moves_of_below floatOf P hatom hstr hlist hdict (n + 1) fun _ h =>
      Nat.succ.inj h ▸ scanValue_moves n

end Values

/-! ### `json.loads` -/

@[simp] theorem error_bind {ε α β : Type} (e : ε) (f : α → Except ε β) : (Except.error e >>= f) = .error e :=
  rfl

/-- **The loop bound is never reached**: `json.loads` of every text gives a value or one of the
errors CPython raises. -/
theorem loads_ne_exhausted (floatOf : String → PyFloat) (limit : Nat) (doc : String) :
    loads floatOf limit doc ≠ .error .exhausted := by
  have h := scanValue_moves floatOf (fun _ _ => True) (fun _ _ _ _ => trivial) (fun _ _ => trivial)
    (fun _ _ _ => trivial) (fun _ _ _ _ => trivial) limit (skipWs doc.toList)
  unfold loads
  split_ifs
  · simp
  · rcases hs : scanValue floatOf limit (skipWs doc.toList) with e | ⟨v, r⟩
    · rw [hs] at h
      simpa using h
    · simp only [ok_bind]
      split_ifs <;> nofun

/-- A text `json.loads` reads is one value, after whitespace. -/
theorem loads_eq_ok {floatOf : String → PyFloat} {limit : Nat} {doc : String} {v : Json}
    (h : loads floatOf limit doc = .ok v) : ∃ r, scanValue floatOf limit (skipWs doc.toList) = .ok (v, r) := by
  rw [loads, if_neg (by rintro h'; rw [if_pos h'] at h; cases h)] at h
  rcases hs : scanValue floatOf limit (skipWs doc.toList) with e | ⟨v', r⟩
  all_goals rw [hs] at h
  · cases h
  · simp only [ok_bind] at h
    split_ifs at h
    cases h
    exact ⟨r, rfl⟩

theorem itemsLoadable_iff (floatOf : String → PyFloat) {xs : List Json} :
    ItemsLoadable floatOf xs ↔ ∀ x ∈ xs, Loadable floatOf x := by
  induction xs with
  | nil => simp [ItemsLoadable]
  | cons x xs ih => simp [ItemsLoadable, ih]

theorem membersLoadable_iff (floatOf : String → PyFloat) {ms : List (String × Json)} :
    MembersLoadable floatOf ms ↔ ∀ m ∈ ms, Loadable floatOf m.2 := by
  induction ms with
  | nil => simp [MembersLoadable]
  | cons m ms ih => obtain ⟨k, v⟩ := m; simp [MembersLoadable, ih]

theorem itemsNesting_le_iff {xs : List Json} {n : Nat} : itemsNesting xs ≤ n ↔ ∀ x ∈ xs, nesting x ≤ n := by
  induction xs with
  | nil => simp [itemsNesting]
  | cons x xs ih => simp [itemsNesting, ih]

theorem membersNesting_le_iff {ms : List (String × Json)} {n : Nat} :
    membersNesting ms ≤ n ↔ ∀ m ∈ ms, nesting m.2 ≤ n := by
  induction ms with
  | nil => simp [membersNesting]
  | cons m ms ih => obtain ⟨k, v⟩ := m; simp [membersNesting, ih]

/-- **What `json.loads` returns can be written back**: it nests within the recursion limit, its dicts
have distinct keys and its floats are those `float()` made, so it is `Loadable` when they are. -/
theorem loads_loadable (floatOf : String → PyFloat) (hfloat : ∀ t, FloatRoundTrips floatOf (floatOf t))
    {limit : Nat} {doc : String} {v : Json} (h : loads floatOf limit doc = .ok v) :
    Loadable floatOf v ∧ nesting v ≤ limit := by
  have hscan := scanValue_moves floatOf (fun n v => Loadable floatOf v ∧ nesting v ≤ n)
    (fun n s p hp => by
      rcases hp with hp | hp
      · obtain ⟨-, hc | ⟨b, hc⟩ | hc | hc | hc⟩ := namedConstant_spec hp <;>
          simp [hc, Loadable, FloatRoundTrips, nesting]
      · unfold scanNumber at hp
        split at hp
        · cases hp
        · rename_i text isFloat r hm
          split_ifs at hp with hf hd <;> cases hp
          · simp [Loadable, hfloat, nesting]
          · simp only [Bool.not_eq_true] at hf
            exact ⟨(digitCount_toString_intOfText (hf ▸ hm)).trans (Nat.not_lt.mp hd), Nat.zero_le _⟩)
    (fun _ _ => ⟨trivial, Nat.zero_le _⟩)
    (fun n xs hxs => ⟨(itemsLoadable_iff floatOf).mpr fun x hx => (hxs x hx).1,
      Nat.succ_le_succ (itemsNesting_le_iff.mpr fun x hx => (hxs x hx).2)⟩)
    (fun n ms hnd hms => ⟨⟨hnd, (membersLoadable_iff floatOf).mpr fun m hm => (hms m hm).1⟩,
      Nat.succ_le_succ (membersNesting_le_iff.mpr fun m hm => (hms m hm).2)⟩)
    limit (skipWs doc.toList)
  obtain ⟨r, hs⟩ := loads_eq_ok h
  rw [hs] at hscan
  exact hscan.2

/-- **`json.dumps` of what `json.loads` returns reads back as the same value.** -/
theorem dumps_loads (floatOf : String → PyFloat) (hfloat : ∀ t, FloatRoundTrips floatOf (floatOf t))
    (limit : Nat) (doc : String) (v : Json) (h : loads floatOf limit doc = .ok v) :
    loads floatOf limit (dumps v) = .ok v :=
  have hv := loads_loadable floatOf hfloat h
  loads_dumps floatOf limit v hv.1 hv.2

/-- `float()` as the identity on the texts of floats that are already their own `repr`. -/
def reprFloat (t : String) : PyFloat :=
  if matchNumber t.toList = some (t.toList, true, []) then ⟨t, true⟩ else nan

theorem dumps_loads_array :
    loads reprFloat 1 (dumps (.list [.int 1, .float ⟨"2.5", true⟩, .str "a"])) =
      .ok (.list [.int 1, .float ⟨"2.5", true⟩, .str "a"]) :=
  dumps_loads reprFloat
    (fun t => by
      unfold reprFloat
      split_ifs with h
      · exact .inr (.inr (.inr ⟨h, if_pos h⟩))
      · exact .inl rfl)
    1 "[1, 2.5, \"a\"]" _ rfl

end EnclaveProver.Python.JsonText
