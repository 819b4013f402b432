import CodeSmell.Text.Utf8
import CodeSmell.Proofs.Text.Newlines

/-!
# Encoding and decoding

* `length_encode` : the bytes of a text are as many as its `size` says;
* `foldl_step_encodeChar` : the bytes of a character, read between characters, add the character and no
  fault;
* `lenient_encode`, `strict_encode` : decoding gives back every text that was encoded;
* `unifyNewlines_eq_crlfToLf` : unifying line ends drops the carriage returns before line feeds.
-/

namespace CodeSmell.Utf8

theorem encode_cons (c : Char) (t : Text) : encode (c :: t) = String.utf8EncodeChar c ++ encode t :=
  List.flatMap_cons

/-! ## Sizes -/

theorem foldl_utf8Size (t : Text) (n : Nat) : t.foldl (fun n c => n + c.utf8Size) n = n + size t := by
  induction t generalizing n with
  | nil => rfl
  | cons c t ih => rw [size, List.foldl_cons, List.foldl_cons, ih, ih, Nat.zero_add, Nat.add_assoc]

@[simp] theorem size_nil : size [] = 0 := rfl

theorem size_cons (c : Char) (t : Text) : size (c :: t) = c.utf8Size + size t := by
  rw [size, List.foldl_cons, foldl_utf8Size, Nat.zero_add]

theorem size_le_of_sublist {t u : Text} (h : t.Sublist u) : size t ≤ size u := by
  induction h with
  | slnil => exact Nat.le_refl _
  | cons c _ ih => rw [size_cons]; omega
  | cons_cons c _ ih => rw [size_cons, size_cons]; omega

theorem length_encode (t : Text) : (encode t).length = size t := by
  induction t with
  | nil => rfl
  | cons c t ih => rw [encode_cons, List.length_append, String.length_utf8EncodeChar, ih, size_cons]

/-! ## Steps -/

section
variable {d : Decoding} {n : Nat} (hn : n < 256)
include hn

theorem step_first (h : d.pending = none) : d.step (UInt8.ofNat n) = d.begin n := by
  rw [Decoding.step, h, UInt8.toNat_ofNat_of_lt' hn]

variable {p : Pending} (h : d.pending = some p) (hrange : p.least ≤ n ∧ n ≤ p.greatest)
include h hrange

theorem step_inside (howed : 1 < p.owed) :
    d.step (UInt8.ofNat n) =
      { d with
        pending := some
          { first := p.first, size := p.size + 1, owed := p.owed - 1, bits := p.bits * 64 + n % 64 }
        position := d.position + 1 } := by
  simp [Decoding.step, h, UInt8.toNat_ofNat_of_lt' hn, hrange, Nat.not_le.mpr howed]

theorem step_last (howed : p.owed = 1) :
    d.step (UInt8.ofNat n) =
      { d with
        chars := Char.ofNat (p.bits * 64 + n % 64) :: d.chars
        pending := none
        position := d.position + 1 } := by
  simp [Decoding.step, h, UInt8.toNat_ofNat_of_lt' hn, hrange, howed]

end

/-- The range of the bytes after the first, where the first sets no other. -/
theorem tail_range {n : Nat} (hn : n < 64) : 0x80 ≤ n + 0x80 ∧ n + 0x80 ≤ 0xBF := by omega

theorem tail_bits {n : Nat} (hn : n < 64) : (n + 0x80) % 64 = n := by omega

section
variable {d : Decoding} (h : d.pending = none)
include h

theorem foldl_step_one {n : Nat} (hn : n < 128) :
    [UInt8.ofNat n].foldl Decoding.step d =
      { d with chars := Char.ofNat n :: d.chars, position := d.position + 1 } := by
  rw [List.foldl_cons, List.foldl_nil, step_first (by omega) h, Decoding.begin, start, if_pos hn, h]

theorem foldl_step_two {x y : Nat} (hx : 2 ≤ x ∧ x < 32) (hy : y < 64) :
    [UInt8.ofNat (x + 0xC0), UInt8.ofNat (y + 0x80)].foldl Decoding.step d =
      { d with chars := Char.ofNat (x * 64 + y) :: d.chars, position := d.position + 2 } := by
  have hstart : start (x + 0xC0) = .more { first := x + 0xC0, owed := 1, bits := x } := by
    grind [start]
  rw [List.foldl_cons, List.foldl_cons, List.foldl_nil, step_first (by omega) h,
    Decoding.begin, hstart, step_last (by omega) rfl (tail_range hy) rfl, h, tail_bits hy]

theorem foldl_step_three {x y z : Nat} (hx : x < 16) (hy : y < 64) (hz : z < 64)
    (hleast : x = 0 → 32 ≤ y) (hgreatest : x = 13 → y < 32) :
    [UInt8.ofNat (x + 0xE0), UInt8.ofNat (y + 0x80), UInt8.ofNat (z + 0x80)].foldl Decoding.step d =
      { d with chars := Char.ofNat ((x * 64 + y) * 64 + z) :: d.chars, position := d.position + 3 } := by
  have hstart : start (x + 0xE0) = .more
      { first := x + 0xE0, owed := 2, bits := x
        least := if x = 0 then 0xA0 else 0x80
        greatest := if x = 13 then 0x9F else 0xBF } := by
    grind [start]
  have hrange : (if x = 0 then 0xA0 else 0x80) ≤ y + 0x80 ∧
      y + 0x80 ≤ if x = 13 then 0x9F else 0xBF := by
    split_ifs <;> omega
  rw [List.foldl_cons, List.foldl_cons, List.foldl_cons, List.foldl_nil, step_first (by omega) h,
    Decoding.begin, hstart, step_inside (n := y + 0x80) (by omega) rfl hrange (by simp),
    step_last (by omega) rfl (tail_range hz) rfl, h, tail_bits hy, tail_bits hz]

theorem foldl_step_four {x y z w : Nat} (hx : x ≤ 4) (hy : y < 64) (hz : z < 64) (hw : w < 64)
    (hleast : x = 0 → 16 ≤ y) (hgreatest : x = 4 → y < 16) :
    [UInt8.ofNat (x + 0xF0), UInt8.ofNat (y + 0x80), UInt8.ofNat (z + 0x80),
        UInt8.ofNat (w + 0x80)].foldl Decoding.step d =
      { d with
        chars := Char.ofNat (((x * 64 + y) * 64 + z) * 64 + w) :: d.chars
        position := d.position + 4 } := by
  have hstart : start (x + 0xF0) = .more
      { first := x + 0xF0, owed := 3, bits := x
        least := if x = 0 then 0x90 else 0x80
        greatest := if x = 4 then 0x8F else 0xBF } := by
    grind [start]
  have hrange : (if x = 0 then 0x90 else 0x80) ≤ y + 0x80 ∧
      y + 0x80 ≤ if x = 4 then 0x8F else 0xBF := by
    split_ifs <;> omega
  rw [List.foldl_cons, List.foldl_cons, List.foldl_cons, List.foldl_cons, List.foldl_nil,
    step_first (by omega) h, Decoding.begin, hstart,
    step_inside (n := y + 0x80) (by omega) rfl hrange (by simp),
    step_inside (n := z + 0x80) (by omega) rfl (tail_range hz) (by simp),
    step_last (by omega) rfl (tail_range hw) rfl, h, tail_bits hy, tail_bits hz, tail_bits hw]

/-- The bytes of a character, read between characters, add the character and no fault. -/
theorem foldl_step_encodeChar (c : Char) :
    (String.utf8EncodeChar c).foldl Decoding.step d =
      { d with chars := c :: d.chars, position := d.position + c.utf8Size } := by
  have hvalid : c.val.toNat < 0xD800 ∨ 0xDFFF < c.val.toNat ∧ c.val.toNat < 0x110000 := c.valid
  have hc : Char.ofNat c.val.toNat = c := Char.ofNat_toNat c
  rw [← String.length_utf8EncodeChar, String.utf8EncodeChar]
  generalize c.val.toNat = v at hc hvalid ⊢
  split_ifs with h1 h2 h3
  · rw [foldl_step_one h (by omega), hc]
    rfl
  · have hv : v / 64 % 32 * 64 + v % 64 = v := by omega
    rw [foldl_step_two h (by omega) (by omega), hv, hc]
    rfl
  · -- a character of three bytes is no surrogate, so its second byte is in range
    have hv : (v / 4096 % 16 * 64 + v / 64 % 64) * 64 + v % 64 = v := by omega
    rw [foldl_step_three h (by omega) (by omega) (by omega) (by omega) (by omega), hv, hc]
    rfl
  · have hv : ((v / 262144 % 8 * 64 + v / 4096 % 64) * 64 + v / 64 % 64) * 64 + v % 64 = v := by omega
    rw [foldl_step_four h (by omega) (by omega) (by omega) (by omega) (by omega) (by omega), hv, hc]
    rfl

theorem foldl_step_encode (t : Text) :
    (encode t).foldl Decoding.step d =
      { d with chars := t.reverse ++ d.chars, position := d.position + size t } := by
  induction t generalizing d with
  | nil => rfl
  | cons c t ih =>
    rw [encode_cons, List.foldl_append, foldl_step_encodeChar h, ih, size_cons]
    · simp [Nat.add_assoc]
    · exact h

end

/-- The encoding of a text decodes to the text, without faults. -/
theorem decode_encode (t : Text) : decode (encode t) = { chars := t.reverse, position := size t } := by
  rw [decode, foldl_step_encode rfl]
  simp [Decoding.abandon]

theorem lenient_encode (t : Text) : lenient (encode t) = t := by
  rw [lenient, decode_encode, List.reverse_reverse]

theorem strict_encode (t : Text) : strict (encode t) = .ok t := by
  rw [strict, decode_encode]
  exact congrArg Except.ok (List.reverse_reverse t)

end CodeSmell.Utf8

namespace CodeSmell.Text

theorem unifyNewlinesFrom_eq {t : Text} (h : Crlf t) (seen : Text) :
    unifyNewlinesFrom seen t = seen.reverse ++ crlfToLf t := by
  induction h generalizing seen with
  | nil => rw [unifyNewlinesFrom, crlfToLf, List.append_nil]
  | crlf _ ih => rw [unifyNewlinesFrom, ih, crlfToLf_crlf, List.reverse_cons, List.append_assoc]; rfl
  | @other c t hc _ ih =>
    rw [unifyNewlinesFrom, ih, crlfToLf_cons hc, List.reverse_cons, List.append_assoc]
    · rfl
    · rintro _ rfl
      exact absurd rfl hc
    · rintro rfl
      exact absurd rfl hc

theorem unifyNewlines_eq_crlfToLf {t : Text} (h : Crlf t) : t.unifyNewlines = crlfToLf t :=
  unifyNewlinesFrom_eq h []

end CodeSmell.Text
