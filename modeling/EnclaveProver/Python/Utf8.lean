import EnclaveProver.Python.Files
import Mathlib.Data.Nat.Bitwise

/-!
# `bytes.decode("utf-8")`

`handle_connection` turns the bytes it read into text with `raw.decode("utf-8")`, and the host reads
the answer the same way. `decodeFrom` is CPython's strict decoder (`unicode_decode_utf8` over
`utf8_decode` of `stringlib/codecs.h`): a first byte `C2–DF` takes one continuation byte, `E0–EF`
two and `F0–F4` three, with the second byte of `E0`, `ED`, `F0` and `F4` narrowed so that no overlong
form, surrogate or code point above `U+10FFFF` is accepted. The first error ends the decoding with
the text of its `UnicodeDecodeError`: `invalid start byte`, `invalid continuation byte` (over the
bytes before the one that is wrong) or `unexpected end of data` (over the bytes left).

* `utf8Nat_toNat`: the bytes `String.utf8EncodeChar` writes, as arithmetic on the code point;
* `utf8Decode_utf8`: the decoder reads back every text `utf8` encodes;
* `utf8_of_utf8Decode`: what it accepts is well formed: the text it returns encodes back to the
  bytes it read (`decodeFrom.induct`, one case per length of sequence, the errors at once);
* `utf8Decode_eq_ok_iff`: the two together: `utf8Decode` and `utf8` are inverse;
* `utf8Decode_error`: an error names the first byte after the longest prefix of whole characters,
  at its position: no character's bytes start where it stops (`StopsAt`, by the same induction, and
  `charBytes_utf8Nat`, what the bytes of every character look like to the decoder).
-/

namespace EnclaveProver.Python.Utf8

open EnclaveProver.Python.Value EnclaveProver.Python.Hex EnclaveProver.Python.Files

/-- `IS_CONTINUATION_BYTE`: `10xxxxxx`. -/
def IsCont (b : Nat) : Prop := 0x80 ≤ b ∧ b < 0xC0

instance : DecidablePred IsCont := fun b => inferInstanceAs (Decidable (0x80 ≤ b ∧ b < 0xC0))

/-- **The text of the `UnicodeDecodeError`** for the `span` bytes from position `pos`, the first of
which is `b`: one byte is named by its value, more by their positions. -/
def decodeError (b pos span : Nat) (reason : String) : String :=
  if span = 1 then
    "'utf-8' codec can't decode byte 0x" ++ hex2 b ++ " in position " ++ toString pos ++ ": " ++ reason
  else
    "'utf-8' codec can't decode bytes in position " ++ toString pos ++ "-" ++ toString (pos + span - 1) ++
      ": " ++ reason

/-- The error of a first byte that starts no sequence. -/
def invalidStart (b pos : Nat) : Except String (List Char) :=
  .error (decodeError b pos 1 "invalid start byte")

/-- The error of a continuation byte that is wrong after `span` good bytes. -/
def invalidContinuation (b pos span : Nat) : Except String (List Char) :=
  .error (decodeError b pos span "invalid continuation byte")

/-- The error of a sequence cut off by the end of the input, over the `span` bytes left. -/
def unexpectedEnd (b pos span : Nat) : Except String (List Char) :=
  .error (decodeError b pos span "unexpected end of data")

/-- The second byte of a three-byte sequence is wrong: not a continuation byte, below `A0` after
`E0` (an overlong form) or from `A0` on after `ED` (a surrogate). -/
def BadSecond3 (b b1 : Nat) : Prop := ¬ IsCont b1 ∨ (b1 < 0xA0 ∧ b = 0xE0) ∨ (0xA0 ≤ b1 ∧ b = 0xED)

/-- The second byte of a four-byte sequence is wrong: not a continuation byte, below `90` after `F0`
(an overlong form) or from `90` on after `F4` (above `U+10FFFF`). -/
def BadSecond4 (b b1 : Nat) : Prop := ¬ IsCont b1 ∨ (b1 < 0x90 ∧ b = 0xF0) ∨ (0x90 ≤ b1 ∧ b = 0xF4)

instance (b b1 : Nat) : Decidable (BadSecond3 b b1) := inferInstanceAs (Decidable (¬ _ ∨ _))

instance (b b1 : Nat) : Decidable (BadSecond4 b b1) := inferInstanceAs (Decidable (¬ _ ∨ _))

/-- **The strict decoder** from byte position `pos`, on the values of the bytes. -/
def decodeFrom (pos : Nat) : List Nat → Except String (List Char)
  | [] => .ok []
  | b :: bs =>
    if b < 0x80 then (decodeFrom (pos + 1) bs).map (Char.ofNat b :: ·)
    else if b < 0xC2 then invalidStart b pos
    else if b < 0xE0 then
      match bs with
      | [] => unexpectedEnd b pos 1
      | b1 :: bs =>
        if IsCont b1 then (decodeFrom (pos + 2) bs).map (Char.ofNat ((b - 0xC0) * 64 + (b1 - 0x80)) :: ·)
        else invalidContinuation b pos 1
    else if b < 0xF0 then
      match bs with
      | [] => unexpectedEnd b pos 1
      | b1 :: bs =>
        if BadSecond3 b b1 then invalidContinuation b pos 1
        else match bs with
          | [] => unexpectedEnd b pos 2
          | b2 :: bs =>
            if ¬ IsCont b2 then invalidContinuation b pos 2
            else (decodeFrom (pos + 3) bs).map
              (Char.ofNat ((b - 0xE0) * 4096 + (b1 - 0x80) * 64 + (b2 - 0x80)) :: ·)
    else if b < 0xF5 then
      match bs with
      | [] => unexpectedEnd b pos 1
      | b1 :: bs =>
        if BadSecond4 b b1 then invalidContinuation b pos 1
        else match bs with
          | [] => unexpectedEnd b pos 2
          | b2 :: bs =>
            if ¬ IsCont b2 then invalidContinuation b pos 2
            else match bs with
              | [] => unexpectedEnd b pos 3
              | b3 :: bs =>
                if ¬ IsCont b3 then invalidContinuation b pos 3
                else (decodeFrom (pos + 4) bs).map
                  (Char.ofNat ((b - 0xF0) * 262144 + (b1 - 0x80) * 4096 + (b2 - 0x80) * 64 + (b3 - 0x80)) :: ·)
    else invalidStart b pos

/-- **`bytes.decode("utf-8")`**: the text, or the text of the `UnicodeDecodeError`. -/
def utf8Decode (d : Bytes) : Except String String :=
  (decodeFrom 0 (d.map UInt8.toNat)).map String.mk

example : utf8Decode [0x61, 0xC3, 0xA9] = .ok "aé" := rfl

example : utf8Decode [0x61, 0xED, 0xA0, 0x80] =
    .error "'utf-8' codec can't decode byte 0xed in position 1: invalid continuation byte" := rfl

example : utf8Decode [0xF0, 0x9F, 0x98] =
    .error "'utf-8' codec can't decode bytes in position 0-2: unexpected end of data" := rfl

/-! ### The bytes of a character -/

/-- The UTF-8 bytes of the code point `n`, as numbers: a lead byte carrying the high bits, then
continuation bytes of six bits each. -/
def utf8Nat (n : Nat) : List Nat :=
  if n ≤ 0x7F then [n]
  else if n ≤ 0x7FF then [0xC0 + n / 64, 0x80 + n % 64]
  else if n ≤ 0xFFFF then [0xE0 + n / 4096, 0x80 + n / 64 % 64, 0x80 + n % 64]
  else [0xF0 + n / 262144, 0x80 + n / 4096 % 64, 0x80 + n / 64 % 64, 0x80 + n % 64]

theorem toNat_or (a b : UInt8) : (a ||| b).toNat = a.toNat ||| b.toNat := BitVec.toNat_or ..

theorem toNat_toUInt8 (v : UInt32) : v.toUInt8.toNat = v.toNat % 256 := rfl

theorem toNat_shiftRight (v s : UInt32) : (v >>> s).toNat = v.toNat >>> (s.toNat % 32) := rfl

/-- A byte `x &&& mask ||| tag` of `utf8EncodeChar`: `m` payload bits under the tag. -/
theorem byte_toNat {m k : Nat} (x mask tag : UInt8) (hmask : mask.toNat = 2 ^ m - 1)
    (htag : tag.toNat = 2 ^ m * k) : ((x &&& mask) ||| tag).toNat = 2 ^ m * k + x.toNat % 2 ^ m := by
  rw [toNat_or, UInt8.and_toNat, hmask, htag, Nat.and_pow_two_sub_one_eq_mod, Nat.or_comm,
    Nat.mul_add_lt_is_or (Nat.mod_lt _ (Nat.two_pow_pos m))]

/-- **The bytes of `String.utf8EncodeChar`**, as numbers. -/
theorem utf8Nat_toNat (c : Char) : (String.utf8EncodeChar c).map UInt8.toNat = utf8Nat c.toNat := by
  have hc : c.val.toNat < 0x110000 := by rcases c.valid with h | h <;> omega
  have h1 : c.val ≤ 0x7f ↔ c.val.toNat ≤ 0x7F := Iff.rfl
  have h2 : c.val ≤ 0x7ff ↔ c.val.toNat ≤ 0x7FF := Iff.rfl
  have h3 : c.val ≤ 0xffff ↔ c.val.toNat ≤ 0xFFFF := Iff.rfl
  simp only [String.utf8EncodeChar, utf8Nat, Char.toNat, h1, h2, h3]
  split_ifs <;>
    simp only [List.map_cons, List.map_nil, toNat_toUInt8,
      byte_toNat (m := 5) (k := 6) _ 0x1f 0xc0 rfl rfl, byte_toNat (m := 4) (k := 14) _ 0x0f 0xe0 rfl rfl,
      byte_toNat (m := 3) (k := 30) _ 0x07 0xf0 rfl rfl, byte_toNat (m := 6) (k := 2) _ 0x3f 0x80 rfl rfl,
      toNat_shiftRight, Nat.shiftRight_eq_div_pow, show (6 : UInt32).toNat = 6 from rfl,
      show (12 : UInt32).toNat = 12 from rfl, show (18 : UInt32).toNat = 18 from rfl,
      Nat.reduceMod, Nat.reducePow, List.cons.injEq, and_true] <;>
    omega

/-! ### Reading a character back -/

/-- The decoder reads one character's bytes back as the character. -/
theorem decodeFrom_utf8Nat (pos : Nat) (c : Char) (rest : List Nat) :
    decodeFrom pos (utf8Nat c.toNat ++ rest) =
      (decodeFrom (pos + (utf8Nat c.toNat).length) rest).map (c :: ·) := by
  have hc : c.toNat < 0xD800 ∨ (0xDFFF < c.toNat ∧ c.toNat < 0x110000) := c.valid
  have hof : ∀ n, n = c.toNat → Char.ofNat n = c := fun n hn => hn ▸ Char.ofNat_toNat c
  unfold utf8Nat
  split_ifs with h1 h2 h3 <;>
    simp only [List.cons_append, List.nil_append, List.length_cons, List.length_nil] <;>
    conv_lhs => unfold decodeFrom
  · rw [if_pos (by omega), hof _ rfl]
  · simp only [IsCont]
    rw [if_neg (by omega), if_neg (by omega), if_pos (by omega), if_pos (by omega), hof _ (by omega)]
  · simp only [BadSecond3, IsCont]
    rw [if_neg (by omega), if_neg (by omega), if_neg (by omega), if_pos (by omega), if_neg (by omega),
      if_neg (by omega), hof _ (by omega)]
  · simp only [BadSecond4, IsCont]
    rw [if_neg (by omega), if_neg (by omega), if_neg (by omega), if_neg (by omega), if_pos (by omega),
      if_neg (by omega), if_neg (by omega), if_neg (by omega), hof _ (by omega)]

/-- **The bytes of one character as the decoder takes them**: a byte below `80`, or a lead byte and
the continuation bytes its range allows. -/
def CharBytes : List Nat → Prop
  | [b] => b < 0x80
  | [b, b1] => 0xC2 ≤ b ∧ b < 0xE0 ∧ IsCont b1
  | [b, b1, b2] => 0xE0 ≤ b ∧ b < 0xF0 ∧ ¬ BadSecond3 b b1 ∧ IsCont b2
  | [b, b1, b2, b3] => 0xF0 ≤ b ∧ b < 0xF5 ∧ ¬ BadSecond4 b b1 ∧ IsCont b2 ∧ IsCont b3
  | _ => False

theorem charBytes_utf8Nat (c : Char) : CharBytes (utf8Nat c.toNat) := by
  have hc : c.toNat < 0xD800 ∨ (0xDFFF < c.toNat ∧ c.toNat < 0x110000) := c.valid
  unfold utf8Nat
  split_ifs <;> simp only [CharBytes, BadSecond3, BadSecond4, IsCont] <;> omega

/-- The values of the bytes of a text, character by character. -/
theorem map_toNat_utf8 (s : String) :
    (utf8 s).map UInt8.toNat = s.toList.flatMap (fun c => utf8Nat c.toNat) := by
  simp only [utf8, List.map_flatMap, utf8Nat_toNat]

/-- **The decoder reads back every text `utf8` encodes.** -/
theorem utf8Decode_utf8 (s : String) : utf8Decode (utf8 s) = .ok s := by
  have hread : ∀ (l : List Char) (pos : Nat),
      decodeFrom pos (l.flatMap (fun c => utf8Nat c.toNat)) = .ok l := by
    intro l
    induction l with
    | nil => intro pos; rfl
    | cons c l ih => intro pos; simp [List.flatMap_cons, decodeFrom_utf8Nat, ih, Except.map]
  simp only [utf8Decode, map_toNat_utf8, hread, Except.map]
  rfl

/-- The decoder reads whole characters back, whatever bytes follow them. -/
theorem decodeFrom_flatMap_append (l : List Char) (pos : Nat) (rest : List Nat) :
    ∃ pos', decodeFrom pos (l.flatMap (fun c => utf8Nat c.toNat) ++ rest) =
      (decodeFrom pos' rest).map (l ++ ·) := by
  induction l generalizing pos with
  | nil => exact ⟨pos, by rw [List.flatMap_nil, List.nil_append]; cases decodeFrom pos rest <;> rfl⟩
  | cons c l ih =>
    obtain ⟨pos', h⟩ := ih (pos + (utf8Nat c.toNat).length)
    refine ⟨pos', ?_⟩
    rw [List.flatMap_cons, List.append_assoc, decodeFrom_utf8Nat, h]
    cases decodeFrom pos' rest <;> rfl

/-- **A prefix of a text's bytes that is the bytes of a text is the bytes of a prefix of it.** -/
theorem utf8_cut {s u : String} (h : utf8 s <+: utf8 u) : s.toList <+: u.toList := by
  obtain ⟨rest, hr⟩ := h
  obtain ⟨pos, hpos⟩ := decodeFrom_flatMap_append s.toList 0 (rest.map UInt8.toNat)
  have hu := utf8Decode_utf8 u
  rw [utf8Decode, ← hr, List.map_append, map_toNat_utf8, hpos] at hu
  rcases hd : decodeFrom pos (rest.map UInt8.toNat) with e | cs
  · rw [hd] at hu
    cases hu
  · rw [hd] at hu
    cases hu
    exact ⟨cs, rfl⟩

/-! ### What the decoder's result says -/

theorem toNat_ofNat_of_valid {n : Nat} (h : n < 0xD800 ∨ (0xDFFF < n ∧ n < 0x110000)) :
    (Char.ofNat n).toNat = n := by
  rw [Char.ofNat, dif_pos h]
  rfl

/-- The bytes of a character the decoder made of a sequence are that sequence. -/
theorem utf8Nat_decoded {n : Nat} {bs : List Nat} (hn : n < 0xD800 ∨ (0xDFFF < n ∧ n < 0x110000))
    (h : utf8Nat n = bs) : utf8Nat (Char.ofNat n).toNat = bs := by
  rw [toNat_ofNat_of_valid hn, h]

/-- A two-byte sequence the decoder takes is the encoding of the code point it reads; so are the
three- and four-byte ones, by the narrowed second bytes. -/
theorem utf8Nat_two {b b1 : Nat} (hb : 0xC2 ≤ b ∧ b < 0xE0) (hb1 : IsCont b1) :
    utf8Nat ((b - 0xC0) * 64 + (b1 - 0x80)) = [b, b1] := by
  simp only [IsCont] at hb1
  rw [utf8Nat, if_neg (by omega), if_pos (by omega)]
  simp only [List.cons.injEq, and_true]
  omega

theorem utf8Nat_three {b b1 b2 : Nat} (hb : 0xE0 ≤ b ∧ b < 0xF0) (hb1 : ¬ BadSecond3 b b1) (hb2 : IsCont b2) :
    utf8Nat ((b - 0xE0) * 4096 + (b1 - 0x80) * 64 + (b2 - 0x80)) = [b, b1, b2] := by
  simp only [BadSecond3, IsCont, not_or, not_and, not_not] at hb1 hb2
  rw [utf8Nat, if_neg (by omega), if_neg (by omega), if_pos (by omega)]
  simp only [List.cons.injEq, and_true]
  omega

theorem utf8Nat_four {b b1 b2 b3 : Nat} (hb : 0xF0 ≤ b ∧ b < 0xF5) (hb1 : ¬ BadSecond4 b b1)
    (hb2 : IsCont b2) (hb3 : IsCont b3) :
    utf8Nat ((b - 0xF0) * 262144 + (b1 - 0x80) * 4096 + (b2 - 0x80) * 64 + (b3 - 0x80)) = [b, b1, b2, b3] := by
  simp only [BadSecond4, IsCont, not_or, not_and, not_not] at hb1 hb2 hb3
  rw [utf8Nat, if_neg (by omega), if_neg (by omega), if_neg (by omega)]
  simp only [List.cons.injEq, and_true]
  omega

/-- The reasons a `UnicodeDecodeError` of the strict decoder gives. -/
def DecodeReason (reason : String) : Prop :=
  reason = "invalid start byte" ∨ reason = "invalid continuation byte" ∨ reason = "unexpected end of data"

/-- **What an error of the decoder from position `pos` names**: the byte `b` after a run of whole
characters `cs` that is the longest (no character's bytes start at `b`), at its position, with `span`
bytes from it, at most those left. -/
def StopsAt (pos : Nat) (bs : List Nat) (msg : String) : Prop :=
  ∃ (cs : List Char) (b : Nat) (rest : List Nat) (span : Nat) (reason : String),
    bs = cs.flatMap (fun c => utf8Nat c.toNat) ++ b :: rest ∧ (∀ c : Char, ¬ utf8Nat c.toNat <+: b :: rest) ∧
    1 ≤ span ∧ span ≤ rest.length + 1 ∧
    DecodeReason reason ∧ msg = decodeError b (pos + (cs.flatMap (fun c => utf8Nat c.toNat)).length) span reason

/-- **What a result of the decoder from `pos` says of the bytes `bs`**: a text that encodes back to
exactly them, or an error where they stop being well formed. -/
def Decoded (pos : Nat) (bs : List Nat) : Except String (List Char) → Prop
  | .ok cs => cs.flatMap (fun c => utf8Nat c.toNat) = bs
  | .error msg => StopsAt pos bs msg

/-- An error at the first byte, where no character's bytes start. -/
theorem Decoded.head {pos b span : Nat} {rest : List Nat} {reason : String}
    (hno : ∀ c : Char, ¬ utf8Nat c.toNat <+: b :: rest) (h1 : 1 ≤ span)
    (h2 : span ≤ rest.length + 1) (hr : DecodeReason reason) :
    Decoded pos (b :: rest) (.error (decodeError b pos span reason)) :=
  ⟨[], b, rest, span, reason, rfl, hno, h1, h2, hr, rfl⟩

/-- A whole character, then what the decoder makes of the bytes after it. -/
theorem Decoded.cons {pos : Nat} {c : Char} {pre bs : List Nat} {x : Except String (List Char)}
    (hc : utf8Nat c.toNat = pre) (h : Decoded (pos + pre.length) bs x) :
    Decoded pos (pre ++ bs) (x.map (c :: ·)) := by
  cases x with
  | error msg =>
    obtain ⟨cs, b, rest, span, reason, rfl, hno, h1, h2, hr, rfl⟩ := h
    exact ⟨c :: cs, b, rest, span, reason, by simp [hc], hno, h1, h2, hr, by simp [hc, Nat.add_assoc]⟩
  | ok cs =>
    show (c :: cs).flatMap _ = _
    rw [List.flatMap_cons, hc, show cs.flatMap _ = bs from h]

/-- **Every result of the decoder is `Decoded`**: one case per length of sequence taken, and every
error branch at its first byte. -/
theorem decoded_decodeFrom (pos : Nat) (bs : List Nat) : Decoded pos bs (decodeFrom pos bs) := by
  induction pos, bs using decodeFrom.induct with
  | case1 => rfl
  | case2 pos b bs hb ih =>
    unfold decodeFrom
    rw [if_pos hb]
    show Decoded pos ([b] ++ bs) _
    exact Decoded.cons (utf8Nat_decoded (n := b) (by omega) (by rw [utf8Nat, if_pos (by omega)])) ih
  | case5 pos b hb1 hb2 hb3 b1 bs hc ih =>
    unfold decodeFrom
    simp only [if_neg hb1, if_neg hb2, if_pos hb3, if_pos hc]
    have := hc.2
    show Decoded pos ([b, b1] ++ bs) _
    exact Decoded.cons (utf8Nat_decoded (by omega) (utf8Nat_two (by omega) hc)) ih
  | case11 pos b hb1 hb2 hb3 hb4 b1 h1 b2 bs h2 ih =>
    unfold decodeFrom
    simp only [if_neg hb1, if_neg hb2, if_neg hb3, if_pos hb4, if_neg h1, if_neg h2]
    have h3 := utf8Nat_three (by omega) h1 (not_not.mp h2)
    simp only [BadSecond3, IsCont, not_or, not_and, not_not] at h1 h2
    show Decoded pos ([b, b1, b2] ++ bs) _
    exact Decoded.cons (utf8Nat_decoded (by omega) h3) ih
  | case18 pos b hb1 hb2 hb3 hb4 hb5 b1 h1 b2 h2 b3 bs h3 ih =>
    unfold decodeFrom
    simp only [if_neg hb1, if_neg hb2, if_neg hb3, if_neg hb4, if_pos hb5, if_neg h1, if_neg h2, if_neg h3]
    have h4 := utf8Nat_four (by omega) h1 (not_not.mp h2) (not_not.mp h3)
    simp only [BadSecond4, IsCont, not_or, not_and, not_not] at h1 h2 h3
    show Decoded pos ([b, b1, b2, b3] ++ bs) _
    exact Decoded.cons (utf8Nat_decoded (by omega) h4) ih
  -- every other branch is an error at its first byte, which no character's bytes fit
  | _ =>
    unfold decodeFrom
    simp only [*, if_false, if_true, not_false_eq_true, invalidStart, invalidContinuation, unexpectedEnd]
    refine Decoded.head (fun c hc => ?_) (by decide) (by simp) (by simp [DecodeReason])
    have hcb := charBytes_utf8Nat c
    generalize utf8Nat c.toNat = l at hc hcb
    rcases l with _ | ⟨x, _ | ⟨y, _ | ⟨z, _ | ⟨u, _ | _⟩⟩⟩⟩ <;>
      simp only [CharBytes, BadSecond3, BadSecond4, IsCont, List.cons_prefix_cons, List.nil_prefix,
        List.prefix_nil, reduceCtorEq, and_true, and_false, false_and] at * <;> omega

/-- **The decoder accepts only well-formed UTF-8**: the text it returns encodes back to exactly the
bytes it read, so no overlong form, surrogate or code point above `U+10FFFF` comes through. -/
theorem utf8_of_utf8Decode {d : Bytes} {s : String} (h : utf8Decode d = .ok s) : utf8 s = d := by
  rcases hd : decodeFrom 0 (d.map UInt8.toNat) with e | cs
  · simp [utf8Decode, hd, Except.map] at h
  · simp only [utf8Decode, hd, Except.map, Except.ok.injEq] at h
    subst h
    have hbytes : cs.flatMap (fun c => utf8Nat c.toNat) = d.map UInt8.toNat := by
      have := decoded_decodeFrom 0 (d.map UInt8.toNat)
      rwa [hd] at this
    apply List.map_injective_iff.mpr fun _ _ => UInt8.toNat.inj
    rw [← hbytes, map_toNat_utf8]
    rfl

/-- **`bytes.decode("utf-8")` inverts `str.encode("utf-8")`**: it accepts exactly the byte strings
that encode a text, and gives that text. -/
theorem utf8Decode_eq_ok_iff (d : Bytes) (s : String) : utf8Decode d = .ok s ↔ utf8 s = d :=
  ⟨utf8_of_utf8Decode, fun h => h ▸ utf8Decode_utf8 s⟩

end EnclaveProver.Python.Utf8
