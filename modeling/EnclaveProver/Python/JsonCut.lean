import EnclaveProver.Python.JsonScan

/-!
# A document cut short

No proper prefix of the text `json.dumps` writes of an array or an object loads: the server, which
reads a request until its peer's stream ends, never dispatches part of a request. Each piece of that
text ends in something the scanner checks for: a string in its closing quote, a `\u` escape in its
four hex digits and a surrogate pair in its second escape, a key in its colon, an array or an object
in its closing bracket or brace. A number or a named constant may stop anywhere, but what is left of
it is made of `Atom`s, and a text that starts with one is `Stuck`: neither loop takes it for a
delimiter.

* `scanValue_cut`: on a prefix of the text of a value, `scan_once_unicode` raises, or reads a value
  and leaves a stuck text; it reads an array or an object only from its whole text (`Cuts`);
* `loads_cut`: `json.loads` raises on every proper prefix of the text of an array or an object.
-/

namespace EnclaveProver.Python.JsonText

open EnclaveProver.Python.Value

/-- A prefix of `a ++ b` is a prefix of `a`, or all of `a` and a non-empty prefix of `b`: the one split
every piece of the text goes through. -/
theorem prefix_append_cases {α : Type} {a b t : List α} (h : t <+: a ++ b) :
    t <+: a ∨ ∃ t', t = a ++ t' ∧ t' <+: b ∧ t' ≠ [] := by
  induction a generalizing t with
  | nil =>
    by_cases ht : t = []
    · exact .inl (ht ▸ List.nil_prefix)
    · exact .inr ⟨t, rfl, h, ht⟩
  | cons x a ih =>
    rcases List.prefix_cons_iff.mp h with rfl | ⟨t₁, rfl, h₁⟩
    · exact .inl List.nil_prefix
    · rcases ih h₁ with h₂ | ⟨t', rfl, h₃, hne⟩
      · exact .inl (List.cons_prefix_cons.mpr ⟨rfl, h₂⟩)
      · exact .inr ⟨t', rfl, h₃, hne⟩

/-! ### Strings cut short -/

/-- A `\u` escape cut within its four hex digits, or right after them. -/
theorem unicodeUnit_short {s : List Char} (h : s.length ≤ 4) : ∃ e, unicodeUnit s = .error e := by
  match s, h with
  | [], _ | [_], _ | [_, _], _ | [_, _, _], _ => exact ⟨_, rfl⟩
  | [a, b, c, d], _ =>
    simp only [unicodeUnit]
    split <;> simp

/-- The escape of a high surrogate, then at most the six characters of another escape: the pair is
cut. -/
theorem unicodeUnit_pair_short {a b c d : Char} {u : Nat} {r : List Char} (hu : hex4 a b c d = some u)
    (hhi : IsHighSurrogate u) (hr : r.length ≤ 6) : ∃ e, unicodeUnit (a :: b :: c :: d :: r) = .error e := by
  rcases r with _ | ⟨p, _ | ⟨q, _ | ⟨e, _ | ⟨f, _ | ⟨g, _ | ⟨h, _ | ⟨x, r'⟩⟩⟩⟩⟩⟩⟩
  case cons.cons.cons.cons.cons.cons.cons => simp only [List.length_cons] at hr; omega
  all_goals simp [unicodeUnit, hu, hhi]

/-- **The shapes of an escape**: the character itself (printable, not a quote or a backslash), a
two-character escape, one `\u` escape, or the `\u` escape of a high surrogate and six characters
more. -/
theorem escapeChar_shape (c : Char) :
    (escapeChar c = [c] ∧ ¬ c.toNat ≤ 0x1F ∧ c ≠ '"' ∧ c ≠ '\\') ∨
      (∃ x y, escapeChar c = ['\\', x] ∧ simpleEscape x = some y) ∨
      (∃ s, escapeChar c = '\\' :: 'u' :: s ∧ s.length = 4) ∨
      (∃ a b c' d u r, escapeChar c = '\\' :: 'u' :: a :: b :: c' :: d :: r ∧ hex4 a b c' d = some u ∧
        IsHighSurrogate u ∧ r.length = 6) := by
  rw [escapeChar]
  by_cases h1 : ' ' ≤ c ∧ c ≤ '~' ∧ c ≠ '\\' ∧ c ≠ '"'
  · have h32 : 32 ≤ c.toNat := h1.1
    exact .inl ⟨if_pos h1, by omega, h1.2.2.2, h1.2.2.1⟩
  rw [if_neg h1]
  by_cases h : c = '\\' ∨ c = '"' ∨ c = backspace ∨ c = formFeed ∨ c = '\n' ∨ c = '\r' ∨ c = '\t'
  · rcases h with rfl | rfl | rfl | rfl | rfl | rfl | rfl <;> exact .inr (.inl ⟨_, _, rfl, rfl⟩)
  simp only [not_or] at h
  obtain ⟨h2, h3, h4, h5, h6, h7, h8⟩ := h
  rw [if_neg h2, if_neg h3, if_neg h4, if_neg h5, if_neg h6, if_neg h7, if_neg h8]
  have hv : c.toNat < 0xD800 ∨ (0xDFFF < c.toNat ∧ c.toNat < 0x110000) := c.valid
  by_cases h9 : 0x10000 ≤ c.toNat
  · rw [if_pos h9]
    exact .inr (.inr (.inr ⟨_, _, _, _, _, _, rfl, hex4_uEscape (by omega),
      by simp only [IsHighSurrogate]; omega, rfl⟩))
  · rw [if_neg h9]
    exact .inr (.inr (.inl ⟨_, rfl, rfl⟩))

/-- A `\u` escape cut anywhere after its backslash. -/
theorem stringUnit_u_cut (begin : Nat) {s₀ t : List Char} (ht : t <+: '\\' :: 'u' :: s₀)
    (hs : ∀ s, s <+: s₀ → ∃ e, unicodeUnit s = .error e) : ∃ e, stringUnit begin t = .error e := by
  rcases List.prefix_cons_iff.mp ht with rfl | ⟨t₁, rfl, h₁⟩
  · exact ⟨_, rfl⟩
  rcases List.prefix_cons_iff.mp h₁ with rfl | ⟨s, rfl, h₂⟩
  · exact ⟨_, rfl⟩
  · obtain ⟨e, he⟩ := hs s h₂
    exact ⟨e, by simp [stringUnit, escapeUnit, he]⟩

/-- **The escape of a character, cut anywhere**: the unit of a string it starts is an error, or the
character with nothing after it. -/
theorem stringUnit_escapeChar_cut (begin : Nat) (c : Char) {t : List Char} (ht : t <+: escapeChar c) :
    (∃ e, stringUnit begin t = .error e) ∨ ∃ c', stringUnit begin t = .ok (.char c' []) := by
  rcases escapeChar_shape c with ⟨h, h1, h2, h3⟩ | ⟨x, y, h, hy⟩ | ⟨s₀, h, h4⟩ |
    ⟨a, b, c', d, u, r, h, hu, hhi, h6⟩ <;> rw [h] at ht
  · rcases List.prefix_cons_iff.mp ht with rfl | ⟨t₁, rfl, h₁⟩
    · exact .inl ⟨_, rfl⟩
    · rw [List.prefix_nil.mp h₁]
      exact .inr ⟨c, by simp [stringUnit, h1, h2, h3]⟩
  · have hx : x ≠ 'u' := by rintro rfl; cases hy
    rcases List.prefix_cons_iff.mp ht with rfl | ⟨t₁, rfl, h₁⟩
    · exact .inl ⟨_, rfl⟩
    rcases List.prefix_cons_iff.mp h₁ with rfl | ⟨t₂, rfl, h₂⟩
    · exact .inl ⟨_, rfl⟩
    · rw [List.prefix_nil.mp h₂]
      exact .inr ⟨y, by simp [stringUnit, escapeUnit, hx, hy]⟩
  · exact .inl (stringUnit_u_cut begin ht fun s hs => unicodeUnit_short (h4 ▸ hs.length_le))
  · refine .inl (stringUnit_u_cut begin ht fun s hs => ?_)
    rcases prefix_append_cases (show s <+: [a, b, c', d] ++ r from hs) with hs | ⟨r', rfl, hr', -⟩
    · exact unicodeUnit_short hs.length_le
    · exact unicodeUnit_pair_short hu hhi (h6 ▸ hr'.length_le)

theorem scanString_of_unit_cut {begin fuel : Nat} {t : List Char}
    (h : (∃ e, stringUnit begin t = .error e) ∨ ∃ c, stringUnit begin t = .ok (.char c [])) :
    ∃ e, scanString begin fuel t = .error e := by
  cases fuel with
  | zero => exact ⟨_, rfl⟩
  | succ fuel =>
    rcases h with ⟨e, he⟩ | ⟨c, hc⟩
    · exact ⟨e, by rw [scanString, he]; rfl⟩
    · cases fuel <;> exact ⟨_, by rw [scanString, hc]; rfl⟩

/-- **A string cut before its closing quote is refused**: `scanstring_unicode` reads no string from
any prefix of the characters `encode_basestring_ascii` escapes. -/
theorem scanString_cut (begin : Nat) (cs : List Char) :
    ∀ (fuel : Nat) (t : List Char), t <+: cs.flatMap escapeChar → ∃ e, scanString begin fuel t = .error e := by
  induction cs with
  | nil =>
    intro fuel t ht
    rw [List.flatMap_nil, List.prefix_nil] at ht
    subst ht
    exact scanString_of_unit_cut (.inl ⟨_, rfl⟩)
  | cons c cs ih =>
    intro fuel t ht
    rw [List.flatMap_cons] at ht
    rcases prefix_append_cases ht with ht | ⟨t', rfl, ht', hne⟩
    · exact scanString_of_unit_cut (stringUnit_escapeChar_cut begin c ht)
    · cases fuel with
      | zero => exact ⟨_, rfl⟩
      | succ fuel =>
        obtain ⟨e, he⟩ := ih fuel t' ht'
        exact ⟨e, by rw [scanString, stringUnit_escapeChar begin c t' hne]; simp [he]⟩

/-- The whole key, then nothing: no colon follows. -/
theorem scanKey_encodeString (k : String) : ∃ e, scanKey (encodeString k) = .error e := by
  have hlen := length_le_flatMap_escapeChar k.toList
  refine ⟨.decode "Expecting ':' delimiter" 0, ?_⟩
  simp only [encodeString, List.cons_append, scanKey, if_true]
  rw [scanString_escape _ _ _ [] (by simp only [List.length_append, List.length_cons]; omega)]
  rfl

/-- **A key cut anywhere is refused**, even right after its closing quote. -/
theorem scanKey_cut {k : String} {t : List Char} (ht : t <+: encodeString k) : ∃ e, scanKey t = .error e := by
  rw [encodeString] at ht
  rcases List.prefix_cons_iff.mp ht with rfl | ⟨t₁, rfl, h₁⟩
  · exact ⟨_, rfl⟩
  rcases List.prefix_concat_iff.mp h₁ with rfl | h₁
  · exact scanKey_encodeString k
  · obtain ⟨e, he⟩ := scanString_cut (t₁.length + 1) k.toList (t₁.length + 1) t₁ h₁
    exact ⟨e, by simp [scanKey, he]⟩

/-! ### Numbers and constants cut short -/

/-- A character of a number or a named constant: a letter, a digit, a sign or a point. -/
def Atom (c : Char) : Prop := c.isAlphanum ∨ c = '-' ∨ c = '+' ∨ c = '.'

instance : DecidablePred Atom := fun _ => inferInstanceAs (Decidable (_ ∨ _))

/-- What a value read from a text cut short may leave: nothing, or a character that is neither
whitespace, a comma nor a closing bracket, so that no array or object goes on after it. -/
def Stuck (r : List Char) : Prop := ∀ c ∈ r.head?, ¬ IsWs c ∧ c ≠ ',' ∧ c ≠ ']' ∧ c ≠ '\x7d'

theorem Atom.not_delim {c : Char} (h : Atom c) :
    ¬ IsWs c ∧ c ≠ ',' ∧ c ≠ ']' ∧ c ≠ '\x7d' ∧ c ≠ '"' ∧ c ≠ '\x7b' ∧ c ≠ '[' := by
  rcases h with h | rfl | rfl | rfl
  · refine ⟨?_, ?_, ?_, ?_, ?_, ?_, ?_⟩
    · rintro (rfl | rfl | rfl | rfl) <;> exact absurd h (by decide)
    all_goals rintro rfl; exact absurd h (by decide)
  all_goals decide

theorem stuck_of_atoms {r : List Char} (h : ∀ c ∈ r, Atom c) : Stuck r := fun c hc =>
  have h' := (h c (List.mem_of_mem_head? hc)).not_delim
  ⟨h'.1, h'.2.1, h'.2.2.1, h'.2.2.2.1⟩

/-- Nothing closes an array or an object, or goes on to its next item, where the text is stuck. -/
theorem follow_stuck {r : List Char} (h : Stuck r) {close : Char} (hc : close = ']' ∨ close = '\x7d') :
    ∃ e, follow close r = .error e := by
  match r, h with
  | [], _ => exact ⟨_, rfl⟩
  | c :: r, h =>
    obtain ⟨hw, h1, h2, h3⟩ := h c rfl
    have hne : c ≠ close := by rcases hc with rfl | rfl <;> assumption
    exact ⟨_, by simp only [follow, skipWs_cons_of_not _ hw, if_neg hne, if_neg h1]; rfl⟩

theorem atom_of_isDigit {c : Char} (h : c.isDigit) : Atom c := .inl (by simp [Char.isAlphanum, h])

theorem mem_signPart {signs s : List Char} {c : Char} (h : c ∈ (signPart signs s).1) : c ∈ signs := by
  cases s with
  | nil => simp [signPart] at h
  | cons d s => by_cases hd : d ∈ signs <;> simp_all [signPart]

theorem fracPart_atoms (s : List Char) : ∀ c ∈ (fracPart s).1, Atom c := by
  unfold fracPart
  split
  · split_ifs with h
    · intro c hc
      simp only [List.mem_cons] at hc
      rcases hc with rfl | rfl | hc
      · exact .inr (.inr (.inr h.1))
      · exact atom_of_isDigit h.2
      · exact atom_of_isDigit (spanDigits_isDigit _ c hc)
    · simp
  · simp

theorem expPart_atoms (s : List Char) : ∀ c ∈ (expPart s).1, Atom c := by
  unfold expPart
  split
  · simp
  · split_ifs with h
    · intro c hc
      simp only [List.cons_append, List.mem_cons, List.mem_append] at hc
      rcases hc with rfl | hc | hc
      · rcases h.1 with rfl | rfl <;> decide
      · have := mem_signPart hc
        simp only [List.mem_cons, List.mem_singleton, List.not_mem_nil, or_false] at this
        rcases this with rfl | rfl <;> decide
      · exact atom_of_isDigit (spanDigits_isDigit _ c hc)
    · simp

/-- The text of a number is made of atoms. -/
theorem matchNumber_atoms {s text r : List Char} {b : Bool} (h : matchNumber s = some (text, b, r)) :
    ∀ c ∈ text, Atom c := by
  unfold matchNumber at h
  split at h
  · cases h
  · rename_i i r₁ hi
    cases h
    intro c hc
    simp only [List.mem_append] at hc
    rcases hc with ((hc | hc) | hc) | hc
    · rw [List.mem_singleton.mp (mem_signPart hc)]
      decide
    · exact atom_of_isDigit (intPart_isDigit hi c hc)
    · exact fracPart_atoms _ c hc
    · exact expPart_atoms _ c hc

/-! ### Values cut short -/

/-- A proper prefix of a bracketed text: nothing, or the opening bracket and a prefix of what it
encloses. -/
theorem cut_bracketed {o c : Char} {inner t : List Char} (ht : t <+: o :: inner ++ [c])
    (hfull : t ≠ o :: inner ++ [c]) : t = [] ∨ ∃ t', t = o :: t' ∧ t' <+: inner := by
  rw [List.cons_append] at ht hfull
  rcases List.prefix_cons_iff.mp ht with rfl | ⟨t', rfl, ht'⟩
  · exact .inl rfl
  · exact .inr ⟨t', rfl, (List.prefix_concat_iff.mp ht').resolve_left fun h => hfull (by rw [h])⟩

theorem skipWs_cut {t l : List Char} (h : t <+: l) (hl : ∀ c ∈ l.head?, StartsValue c) :
    skipWs t = t ∧ ∀ c ∈ t.head?, StartsValue c := by
  match t, h with
  | [], _ => exact ⟨rfl, by simp⟩
  | c :: t, ⟨u, hu⟩ =>
    have hc : StartsValue c := hl c (by rw [← hu]; rfl)
    exact ⟨skipWs_cons_of_not _ hc.1, by simpa using hc⟩

theorem skipWs_space_cut {u l : List Char} (h : u <+: ' ' :: l) (hl : ∀ c ∈ l.head?, StartsValue c) :
    skipWs u <+: l := by
  rcases List.prefix_cons_iff.mp h with rfl | ⟨u', rfl, h'⟩
  · exact List.nil_prefix
  · rw [skipWs_space, (skipWs_cut h' hl).1]
    exact h'

theorem follow_after_comma (close : Char) (r : List Char) (h : close ≠ ',') :
    follow close (',' :: r) = .ok (.comma (skipWs r)) := by
  simp [follow, IsWs, h.symm]

section Cut

variable (floatOf : String → PyFloat)

/-- **What the scanner makes of a prefix `t` of a value's text**: it stops with an error, or it reads
a value and leaves a stuck text; an array or an object it reads only whole. -/
def Cuts (v : Json) (t : List Char) : Except ScanError (Json × List Char) → Prop
  | .error _ => True
  | .ok (_, r) => Stuck r ∧ (0 < nesting v → t = encode v)

theorem cuts_of_error {v : Json} {t : List Char} {x : Except ScanError (Json × List Char)}
    (h : ∃ e, x = .error e) : Cuts v t x := by
  obtain ⟨e, rfl⟩ := h
  trivial

theorem scanValue_nil (n : Nat) : scanValue floatOf n [] = .error (.decode "Expecting value" 0) := by
  cases n <;> rfl

/-- The whole text of a value reads as the value, or raises `RecursionError`. -/
theorem cuts_encode (n : Nat) {v : Json} (hv : Loadable floatOf v) :
    Cuts v (encode v) (scanValue floatOf n (encode v)) := by
  by_cases hd : nesting v ≤ n
  · have h := scanValue_encode floatOf n v [] hv hd delim_nil
    rw [List.append_nil] at h
    rw [h]
    exact ⟨by simp [Stuck], fun _ => rfl⟩
  · obtain ⟨e, -, he⟩ := scanValue_encode_deep floatOf n v [] hv (by omega)
    rw [List.append_nil] at he
    rw [he]
    trivial

/-- **A number or a constant cut anywhere**: the scanner stops with an error, or reads a value and
leaves the rest of the atoms, a stuck text. -/
theorem scanValue_atoms (n : Nat) {t : List Char} (ht : ∀ c ∈ t, Atom c) :
    (∃ e, scanValue floatOf n t = .error e) ∨ ∃ y r, scanValue floatOf n t = .ok (y, r) ∧ Stuck r := by
  match t, ht with
  | [], _ => exact .inl ⟨_, scanValue_nil floatOf n⟩
  | c :: s, ht =>
    obtain ⟨-, -, -, -, hq, hb, hs⟩ := (ht c (List.mem_cons_self _ _)).not_delim
    rw [scanValue_cons, if_neg hq, if_neg hb, if_neg hs]
    rcases hn : namedConstant (c :: s) with _ | ⟨y, r⟩
    · dsimp only
      unfold scanNumber
      rcases hm : matchNumber (c :: s) with _ | ⟨text, b, r⟩
      · exact .inl ⟨_, rfl⟩
      · have hr : Stuck r := stuck_of_atoms fun d hd =>
          ht d ((matchNumber_append_eq hm).1 ▸ List.mem_append_right _ hd)
        dsimp only
        split_ifs
        · exact .inr ⟨_, _, rfl, hr⟩
        · exact .inl ⟨_, rfl⟩
        · exact .inr ⟨_, _, rfl, hr⟩
    · obtain ⟨⟨t, -, -, hr⟩, -⟩ := namedConstant_spec hn
      exact .inr ⟨_, _, rfl, stuck_of_atoms fun d hd =>
        ht d (List.mem_of_mem_drop ((show r = _ from hr) ▸ hd))⟩

/-- The text of a number or a constant `json.dumps` wrote is made of atoms. -/
theorem encode_atoms {x : Json} (hx : Loadable floatOf x) (h0 : nesting x = 0) (hs : ∀ s, x ≠ .str s) :
    ∀ c ∈ encode x, Atom c := by
  cases x with
  | null => decide
  | bool b => cases b <;> decide
  | int i => exact matchNumber_atoms (matchNumber_toString i).1
  | float x =>
    rcases hx with rfl | rfl | rfl | ⟨hm, -⟩
    iterate 3 decide
    rw [encode, floatText_of_number hm]
    exact matchNumber_atoms hm
  | str s => exact absurd rfl (hs s)
  | list xs => simp [nesting] at h0
  | dict ms => simp [nesting] at h0

/-- A string cut before its closing quote. -/
theorem scanValue_string_cut (n : Nat) {s : String} {t : List Char} (ht : t <+: encodeString s)
    (hne : t ≠ encodeString s) : ∃ e, scanValue floatOf n t = .error e := by
  rcases cut_bracketed ht hne with rfl | ⟨t', rfl, ht'⟩
  · exact ⟨_, scanValue_nil floatOf n⟩
  obtain ⟨e, he⟩ := scanString_cut (t'.length + 1) s.toList (t'.length + 1) t' ht'
  exact ⟨e, by rw [scanValue_cons, if_pos rfl, he]; rfl⟩

/-- The item loop, when its first item is cut. -/
theorem scanItems_of_cuts {scan : List Char → Except ScanError (Json × List Char)} {x : Json}
    {t : List Char} {fuel : Nat} {acc : List Json} (h : Cuts x t (scan t)) :
    ∃ e, scanItems scan (fuel + 1) acc t = .error e := by
  rw [scanItems]
  rcases hs : scan t with e | ⟨y, r⟩
  · exact ⟨e, rfl⟩
  · rw [hs] at h
    obtain ⟨e, he⟩ := follow_stuck h.1 (.inl rfl)
    exact ⟨e, by simp [he]⟩

theorem head_encode {v : Json} (hv : Loadable floatOf v) : ∀ c ∈ (encode v).head?, StartsValue c := by
  obtain ⟨c, t, h, hc⟩ := encode_head floatOf v hv
  simpa [h] using hc

/-- A value `json.dumps` wrote, and a comma: it reads back, or the budget runs out. -/
theorem scanValue_encode_comma (n : Nat) {x : Json} (hx : Loadable floatOf x) (u : List Char) :
    scanValue floatOf n (encode x ++ ',' :: u) = .ok (x, ',' :: u) ∨
      ∃ e, scanValue floatOf n (encode x ++ ',' :: u) = .error e := by
  by_cases hd : nesting x ≤ n
  · exact .inl (scanValue_encode floatOf n x _ hx hd (delim_cons u (.inl rfl)))
  · obtain ⟨e, -, he⟩ := scanValue_encode_deep floatOf n x (',' :: u) hx (by omega)
    exact .inr ⟨e, he⟩

/-- The member loop, when its first member is cut: within its key, or within its value. -/
theorem scanMembers_member_cut {scan : List Char → Except ScanError (Json × List Char)} {k : String}
    {v : Json} {t : List Char} {fuel : Nat} {acc : Dict} (hv : Loadable floatOf v)
    (hcut : ∀ w, w <+: encode v → Cuts v w (scan w)) (ht : t <+: encodeString k ++ ':' :: ' ' :: encode v) :
    ∃ e, scanMembers scan (fuel + 1) acc t = .error e := by
  rcases prefix_append_cases ht with ht | ⟨u, rfl, hu, hne⟩
  · obtain ⟨e, he⟩ := scanKey_cut ht
    exact ⟨e, by rw [scanMembers, he]; rfl⟩
  rcases List.prefix_cons_iff.mp hu with rfl | ⟨u₁, rfl, hu₁⟩
  · exact absurd rfl hne
  have hc := hcut _ (skipWs_space_cut hu₁ (head_encode floatOf hv))
  rw [scanMembers, scanKey_colon, ok_bind]
  dsimp only
  rcases hs : scan (skipWs u₁) with e | ⟨y, r⟩
  · exact ⟨e, rfl⟩
  · rw [hs] at hc
    obtain ⟨e, he⟩ := follow_stuck hc.1 (.inr rfl)
    exact ⟨e, by simp [he]⟩

mutual

/-- **What the scanner makes of a prefix of a value's text**: an error, or a value with a stuck text
after it; an array or an object only when the text is whole. -/
theorem scanValue_cut : ∀ (n : Nat) (v : Json) (t : List Char), Loadable floatOf v → t <+: encode v →
    Cuts v t (scanValue floatOf n t)
  | n, .str s, t, hv, ht => by
    by_cases hfull : t = encode (.str s)
    · exact hfull ▸ cuts_encode floatOf n hv
    · exact cuts_of_error (scanValue_string_cut floatOf n ht hfull)
  | n, .list xs, t, hv, ht => by
    by_cases hfull : t = encode (.list xs)
    · exact hfull ▸ cuts_encode floatOf n hv
    refine cuts_of_error ?_
    rcases cut_bracketed ht hfull with rfl | ⟨t', rfl, ht'⟩
    · exact ⟨_, scanValue_nil floatOf n⟩
    clear hfull ht
    cases n with
    | zero => exact ⟨_, rfl⟩
    | succ n =>
      match xs, hv, ht' with
      | [], _, ht' =>
        rw [show t' = [] from List.prefix_nil.mp ht']
        exact ⟨.decode "Expecting value" 0, by simp [scanValue_cons, scanArray, scanItems, scanValue_nil, skipWs]⟩
      | x :: xs, hv, ht' =>
        obtain ⟨c, u, hxc, hc⟩ := encodeItems_head floatOf xs hv.1
        obtain ⟨hskip, hhead⟩ := skipWs_cut ht' (by simp [hxc, hc])
        have hne : t'.head? ≠ some ']' := fun h => (hhead ']' h).2.1 rfl
        rw [scanValue_cons]
        simp only [show ('[' : Char) = '"' ↔ False by decide, show ('[' : Char) = '\x7b' ↔ False by decide,
          if_false, if_true, scanArray, hskip, if_neg hne]
        exact scanItems_cut n (x :: xs) t' _ [] hv (List.cons_ne_nil _ _) ht'
  | n, .dict ms, t, hv, ht => by
    by_cases hfull : t = encode (.dict ms)
    · exact hfull ▸ cuts_encode floatOf n hv
    refine cuts_of_error ?_
    rcases cut_bracketed ht hfull with rfl | ⟨t', rfl, ht'⟩
    · exact ⟨_, scanValue_nil floatOf n⟩
    clear hfull ht
    cases n with
    | zero => exact ⟨_, rfl⟩
    | succ n =>
      match ms, hv, ht' with
      | [], _, ht' =>
        rw [show t' = [] from List.prefix_nil.mp ht']
        exact ⟨_, rfl⟩
      | (k, v) :: ms, hv, ht' =>
        obtain ⟨u, hku⟩ := encodeMembers_head k v ms
        obtain ⟨hskip, hhead⟩ := skipWs_cut ht' (by simp [hku]; decide)
        have hne : t'.head? ≠ some '\x7d' := fun h => (hhead '\x7d' h).2.2.1 rfl
        rw [scanValue_cons]
        simp only [show ('\x7b' : Char) = '"' ↔ False by decide, if_false, if_true, scanObject, hskip,
          if_neg hne]
        exact scanMembers_cut n ((k, v) :: ms) t' _ [] hv.2 (List.cons_ne_nil _ _) ht'
  | n, .null, t, hv, ht | n, .bool _, t, hv, ht | n, .int _, t, hv, ht | n, .float _, t, hv, ht => by
    rcases scanValue_atoms floatOf n (fun c hc => encode_atoms floatOf hv rfl (by simp) c (ht.subset hc)) with
      he | ⟨y, r, h, hr⟩
    · exact cuts_of_error he
    · rw [h]
      exact ⟨hr, fun h0 => absurd h0 (by simp [nesting])⟩

/-- The item loop on a prefix of the items' text stops with an error. -/
theorem scanItems_cut : ∀ (n : Nat) (xs : List Json) (t : List Char) (fuel : Nat) (acc : List Json),
    ItemsLoadable floatOf xs → xs ≠ [] → t <+: encodeItems xs →
    ∃ e, scanItems (scanValue floatOf n) fuel acc t = .error e
  | _, _, _, 0, _, _, _, _ => ⟨_, rfl⟩
  | _, [], _, _ + 1, _, _, h, _ => absurd rfl h
  | n, [x], t, _ + 1, _, hl, _, ht => scanItems_of_cuts (scanValue_cut n x t hl.1 ht)
  | n, x :: y :: ys, t, fuel + 1, acc, hl, _, ht => by
    rw [encodeItems_cons_cons] at ht
    rcases prefix_append_cases ht with ht | ⟨u, rfl, hu, hne⟩
    · exact scanItems_of_cuts (scanValue_cut n x t hl.1 ht)
    rcases List.prefix_cons_iff.mp hu with rfl | ⟨u₁, rfl, hu₁⟩
    · exact absurd rfl hne
    obtain ⟨c, w, hyc, hc⟩ := encodeItems_head floatOf ys hl.2.1
    have hw : skipWs u₁ <+: encodeItems (y :: ys) := skipWs_space_cut hu₁ (by simp [hyc, hc])
    rw [scanItems]
    rcases scanValue_encode_comma floatOf n hl.1 u₁ with h | ⟨e, h⟩
    · simp only [h, ok_bind, follow_after_comma ']' u₁ (by decide)]
      exact scanItems_cut n (y :: ys) _ fuel (acc ++ [x]) hl.2 (List.cons_ne_nil _ _) hw
    · exact ⟨e, by rw [h]; rfl⟩

/-- The member loop on a prefix of the members' text stops with an error. -/
theorem scanMembers_cut : ∀ (n : Nat) (ms : List (String × Json)) (t : List Char) (fuel : Nat) (acc : Dict),
    MembersLoadable floatOf ms → ms ≠ [] → t <+: encodeMembers ms →
    ∃ e, scanMembers (scanValue floatOf n) fuel acc t = .error e
  | _, _, _, 0, _, _, _, _ => ⟨_, rfl⟩
  | _, [], _, _ + 1, _, _, h, _ => absurd rfl h
  | n, [(k, v)], t, _ + 1, _, hl, _, ht =>
    scanMembers_member_cut floatOf hl.1 (fun w hw => scanValue_cut n v w hl.1 hw) ht
  | n, (k, v) :: (k', v') :: ms, t, fuel + 1, acc, hl, _, ht => by
    rw [encodeMembers_cons_cons] at ht
    rcases prefix_append_cases ht with ht | ⟨u, rfl, hu, hne⟩
    · exact scanMembers_member_cut floatOf hl.1 (fun w hw => scanValue_cut n v w hl.1 hw) ht
    rcases List.prefix_cons_iff.mp hu with rfl | ⟨u₁, rfl, hu₁⟩
    · exact absurd rfl hne
    obtain ⟨w, hkw⟩ := encodeMembers_head k' v' ms
    have hw : skipWs u₁ <+: encodeMembers ((k', v') :: ms) :=
      skipWs_space_cut hu₁ (by simp [hkw]; decide)
    simp only [List.append_assoc, List.cons_append]
    rw [scanMembers]
    simp only [scanKey_encode, ok_bind, skipWs_encode floatOf v hl.1]
    rcases scanValue_encode_comma floatOf n hl.1 u₁ with h | ⟨e, h⟩
    · simp only [h, ok_bind, follow_after_comma '\x7d' u₁ (by decide)]
      exact scanMembers_cut n ((k', v') :: ms) _ fuel _ hl.2 (List.cons_ne_nil _ _) hw
    · exact ⟨e, by rw [h]; rfl⟩

end

/-- **`json.loads` refuses every proper prefix of the text `json.dumps` writes of an array or an
object.** -/
theorem loads_cut (limit : Nat) {v : Json} (hv : Loadable floatOf v) (hn : 0 < nesting v) {t : List Char}
    (ht : t <+: encode v) (hcut : t ≠ encode v) : ∃ e, loads floatOf limit (String.mk t) = .error e := by
  obtain ⟨hskip, hhead⟩ := skipWs_cut ht (head_encode floatOf hv)
  have hbom : t.head? ≠ some '\uFEFF' := fun h => (hhead _ h).2.2.2 rfl
  have hc := scanValue_cut floatOf limit v t hv ht
  have hdoc : (String.mk t).toList = t := rfl
  simp only [loads, hdoc, if_neg hbom, hskip]
  rcases hs : scanValue floatOf limit t with e | ⟨y, r⟩
  · exact ⟨e, rfl⟩
  · rw [hs] at hc
    exact absurd (hc.2 hn) hcut

end Cut

end EnclaveProver.Python.JsonText
