import EnclaveProver.Python.Value
import Mathlib.Tactic.IntervalCases

/-!
# Hex and base64 texts of byte strings

The server writes proofs and public inputs as `"0x" + bytes.hex()`, attestation documents as
`base64.b64encode(doc).decode("ascii")`, and reads the `proofHash` of an attestation request back with
`bytes.fromhex(proof_hash_hex.lstrip("0x"))`.

* `hexChars`, `bytesHex`: `bytes.hex()`, two lowercase digits per byte;
* `fromhex`: CPython's `_PyBytes_FromHex`, with the position its `ValueError` names: a character
  outside ASCII fails first, then spaces between pairs are skipped and each pair of hex digits is one
  byte; `fromhex_hex` reads back what `bytesHex` wrote;
* `lstrip`: `str.lstrip(chars)`, which strips a leading run of characters of the *set* `chars`;
* `b64encode`: RFC 4648 base64 with padding, empty exactly on the empty string (`b64encode_eq_nil`).
-/

namespace EnclaveProver.Python.Hex

/-- A byte string. -/
abbrev Bytes := List UInt8

/-! ### Writing -/

/-- The two lowercase hex digits of one byte, high half first. -/
def hexPair (b : UInt8) : List Char := [Nat.digitChar (b.toNat / 16), Nat.digitChar (b.toNat % 16)]

/-- The digits of `bytes.hex()`. -/
def hexChars (d : Bytes) : List Char := d.flatMap hexPair

/-- `bytes.hex()`. -/
def bytesHex (d : Bytes) : String := String.mk (hexChars d)

@[simp] theorem hexChars_nil : hexChars [] = [] := rfl

@[simp] theorem hexChars_cons (b : UInt8) (d : Bytes) :
    hexChars (b :: d) = Nat.digitChar (b.toNat / 16) :: Nat.digitChar (b.toNat % 16) :: hexChars d :=
  rfl

theorem length_hexChars (d : Bytes) : (hexChars d).length = 2 * d.length := by
  induction d with
  | nil => rfl
  | cons b d ih => simp [ih]; omega

/-! ### Reading -/

/-- The value of a hex digit, either case. -/
def hexDigitValue (c : Char) : Option Nat :=
  if '0' ≤ c ∧ c ≤ '9' then some (c.toNat - '0'.toNat)
  else if 'a' ≤ c ∧ c ≤ 'f' then some (c.toNat - 'a'.toNat + 10)
  else if 'A' ≤ c ∧ c ≤ 'F' then some (c.toNat - 'A'.toNat + 10)
  else none

/-- `Py_ISSPACE`: the six ASCII whitespace characters. -/
def isPySpace (c : Char) : Bool :=
  c = ' ' || c = '\t' || c = '\n' || c = '\r' || c.toNat = 11 || c.toNat = 12

/-- **The loop of `bytes.fromhex`** from position `i`: a space before a pair is skipped, a pair of
hex digits is one byte, and `.error j` is the position of the first character that is not the digit
the loop needs (the length of the text when it ends inside a pair). -/
def fromhexFrom : List Char → Nat → Except Nat Bytes
  | [], _ => .ok []
  | c :: cs, i =>
    if isPySpace c then fromhexFrom cs (i + 1)
    else match hexDigitValue c with
      | none => .error i
      | some hi => match cs with
        | [] => .error (i + 1)
        | d :: ds => match hexDigitValue d with
          | none => .error (i + 1)
          | some lo => (fromhexFrom ds (i + 2)).map (UInt8.ofNat (16 * hi + lo) :: ·)

/-- The text of `fromhex`'s `ValueError`. -/
def fromhexError (i : Nat) : String :=
  "non-hexadecimal number found in fromhex() arg at position " ++ toString i

/-- **`bytes.fromhex(s)`.** A text with a character outside ASCII fails at the first such character
before any digit is read. -/
def fromhex (s : String) : Except String Bytes :=
  match s.toList.findIdx? (fun c => 128 ≤ c.toNat) with
  | some i => .error (fromhexError i)
  | none => (fromhexFrom s.toList 0).mapError fromhexError

/-- `s.lstrip(chars)`: the leading run of characters that occur in `chars` removed. -/
def lstrip (s chars : String) : String := String.mk (s.toList.dropWhile chars.toList.contains)

/-! ### The round trip -/

theorem hexDigitValue_digitChar {n : Nat} (h : n < 16) : hexDigitValue (Nat.digitChar n) = some n := by
  interval_cases n <;> rfl

theorem digitChar_ascii {n : Nat} (h : n < 16) : (Nat.digitChar n).toNat < 128 := by
  interval_cases n <;> decide

theorem not_isPySpace_digitChar {n : Nat} (h : n < 16) : isPySpace (Nat.digitChar n) = false := by
  interval_cases n <;> rfl

theorem toNat_lt_256 (b : UInt8) : b.toNat < 256 := b.toNat_lt_size

/-- A byte is sixteen times its high half plus its low half. -/
theorem ofNat_halves (b : UInt8) : UInt8.ofNat (16 * (b.toNat / 16) + b.toNat % 16) = b := by
  rw [Nat.div_add_mod]
  exact UInt8.toNat.inj (UInt8.toNat_ofNat_of_lt b.toNat_lt_size)

section OpaqueDigits

/- The equation lemmas of `fromhexFrom` are made at its first unfolding, here; with the digit tests
opaque, making them does not evaluate the tests' character comparisons. -/
attribute [local irreducible] hexDigitValue isPySpace

theorem fromhexFrom_hexChars (d : Bytes) (i : Nat) : fromhexFrom (hexChars d) i = .ok d := by
  induction d generalizing i with
  | nil => rfl
  | cons b d ih =>
    have hi : b.toNat / 16 < 16 := by have := toNat_lt_256 b; omega
    have lo : b.toNat % 16 < 16 := Nat.mod_lt _ (by omega)
    simp only [hexChars_cons, fromhexFrom, not_isPySpace_digitChar hi, hexDigitValue_digitChar hi,
      hexDigitValue_digitChar lo, ih, Bool.false_eq_true, if_false, Except.map, ofNat_halves]

end OpaqueDigits

theorem ascii_of_mem_hexChars {d : Bytes} {c : Char} (h : c ∈ hexChars d) : c.toNat < 128 := by
  simp only [hexChars, List.mem_flatMap, hexPair, List.mem_cons, List.not_mem_nil, or_false] at h
  obtain ⟨b, -, rfl | rfl⟩ := h
  · exact digitChar_ascii (by have := toNat_lt_256 b; omega)
  · exact digitChar_ascii (Nat.mod_lt _ (by omega))

/-- **`fromhex` reads back what `bytes.hex()` wrote.** -/
theorem fromhex_hex (d : Bytes) : fromhex (bytesHex d) = .ok d := by
  have hnone : (hexChars d).findIdx? (fun c => 128 ≤ c.toNat) = none := by
    rw [List.findIdx?_eq_none_iff]
    intro c hc
    simpa using ascii_of_mem_hexChars hc
  simp [fromhex, bytesHex, hnone, fromhexFrom_hexChars, Except.mapError]

theorem not_isPySpace_of_mem_hexChars {d : Bytes} {c : Char} (h : c ∈ hexChars d) :
    isPySpace c = false := by
  simp only [hexChars, List.mem_flatMap, hexPair, List.mem_cons, List.not_mem_nil, or_false] at h
  obtain ⟨b, -, rfl | rfl⟩ := h
  · exact not_isPySpace_digitChar (by have := toNat_lt_256 b; omega)
  · exact not_isPySpace_digitChar (Nat.mod_lt _ (by omega))

/-- Without spaces, each byte read takes two characters. -/
theorem length_of_fromhexFrom {cs : List Char} {i : Nat} {bs : Bytes}
    (hs : ∀ c ∈ cs, isPySpace c = false) (h : fromhexFrom cs i = .ok bs) :
    2 * bs.length = cs.length := by
  induction cs, i using fromhexFrom.induct generalizing bs with
  | case1 => cases h; rfl
  | case2 c cs i hc _ => simp [hs c (List.mem_cons_self _ _)] at hc
  | case3 c cs i hc hv => simp [fromhexFrom, hc, hv] at h
  | case4 c i hc _ hv => simp [fromhexFrom, hc, hv] at h
  | case5 c i hc _ hv d ds hd => simp [fromhexFrom, hc, hv, hd] at h
  | case6 c i hc _ hv d ds _ hd ih =>
    simp only [fromhexFrom, hc, hv, hd, Bool.false_eq_true, if_false] at h
    cases hr : fromhexFrom ds (i + 2) with
    | error e => simp [hr, Except.map] at h
    | ok bs' =>
      simp only [hr, Except.map, Except.ok.injEq] at h
      subst h
      have := ih (fun c hc => hs c (by simp [hc])) hr
      simp only [List.length_cons]
      omega

theorem length_of_fromhex {s : String} {bs : Bytes} (hs : ∀ c ∈ s.toList, isPySpace c = false)
    (h : fromhex s = .ok bs) : 2 * bs.length = s.length := by
  unfold fromhex at h
  split at h
  · cases h
  · revert h
    cases hr : fromhexFrom s.toList 0 with
    | error e => simp [hr, Except.mapError]
    | ok bs' =>
      rintro ⟨⟩
      exact length_of_fromhexFrom hs hr

/-! ### `lstrip("0x")` on a hex text -/

theorem lstrip_zero_x_prefix (s : String) : lstrip ("0x" ++ s) "0x" = lstrip s "0x" := by
  simp [lstrip, List.dropWhile]

theorem digitChar_not_zero_x {n : Nat} (h1 : 1 ≤ n) (h2 : n < 16) :
    "0x".toList.contains (Nat.digitChar n) = false := by
  interval_cases n <;> rfl

/-- A hex text whose first digit is not `0` loses nothing to `lstrip("0x")`. -/
theorem lstrip_bytesHex_of_high {d : Bytes} (h : ∀ b ∈ d.head?, 16 ≤ b.toNat) :
    lstrip (bytesHex d) "0x" = bytesHex d := by
  cases d with
  | nil => rfl
  | cons b d =>
    have hb : 16 ≤ b.toNat := h b rfl
    have hp := digitChar_not_zero_x (n := b.toNat / 16) (by omega) (by have := toNat_lt_256 b; omega)
    show String.mk (List.dropWhile _ (_ :: _)) = _
    rw [List.dropWhile_cons, hp]
    rfl

/-- A hex text whose first digit is `0` loses at least that digit to `lstrip("0x")`. -/
theorem length_lstrip_bytesHex_of_low {b : UInt8} {d : Bytes} (h : b.toNat < 16) :
    (lstrip (bytesHex (b :: d)) "0x").length < 2 * (d.length + 1) := by
  have h0 : Nat.digitChar (b.toNat / 16) = '0' := by rw [show b.toNat / 16 = 0 by omega]; rfl
  have hdrop : lstrip (bytesHex (b :: d)) "0x" = String.mk
      (List.dropWhile "0x".toList.contains (Nat.digitChar (b.toNat % 16) :: hexChars d)) := by
    show String.mk (List.dropWhile _ (_ :: _)) = _
    rw [List.dropWhile_cons, h0]
    rfl
  rw [hdrop]
  have := (List.dropWhile_suffix "0x".toList.contains
    (l := Nat.digitChar (b.toNat % 16) :: hexChars d)).length_le
  show (List.dropWhile _ _).length < _
  simp only [List.length_cons, length_hexChars] at this
  omega

theorem not_isPySpace_of_mem_lstrip {d : Bytes} {c : Char} (h : c ∈ (lstrip (bytesHex d) "0x").toList) :
    isPySpace c = false :=
  not_isPySpace_of_mem_hexChars ((List.dropWhile_suffix _).subset h)

/-! ### Base64 -/

/-- The base64 alphabet. -/
def b64Alphabet : List Char :=
  "ABCDEFGHIJKLMNOPQRSTUVWXYZabcdefghijklmnopqrstuvwxyz0123456789+/".toList

/-- The base64 digit of a six-bit value. -/
def b64Digit (n : Nat) : Char := b64Alphabet.getD n '='

/-- **`base64.b64encode`**: each three bytes are four digits; a last one or two bytes are padded
with `=`. -/
def b64encode : Bytes → List Char
  | a :: b :: c :: rest =>
    let n := a.toNat * 65536 + b.toNat * 256 + c.toNat
    b64Digit (n / 262144) :: b64Digit (n / 4096 % 64) :: b64Digit (n / 64 % 64) ::
      b64Digit (n % 64) :: b64encode rest
  | [a, b] =>
    let n := a.toNat * 65536 + b.toNat * 256
    [b64Digit (n / 262144), b64Digit (n / 4096 % 64), b64Digit (n / 64 % 64), '=']
  | [a] =>
    let n := a.toNat * 65536
    [b64Digit (n / 262144), b64Digit (n / 4096 % 64), '=', '=']
  | [] => []

/-- `base64.b64encode(doc).decode("ascii")`. -/
def b64String (d : Bytes) : String := String.mk (b64encode d)

end EnclaveProver.Python.Hex
