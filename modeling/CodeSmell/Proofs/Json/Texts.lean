import CodeSmell.Json.Encoding
import CodeSmell.Json.Reader
import CodeSmell.Json.Writer
import CodeSmell.Proofs.Text.Utf8

/-!
# Reading back what is written

* `Written c w`, `escape c` : the ways to write a character in a quoted text, and the way that is taken;
* `textFrom_escape` : reading takes the written form of a character as the character;
* `parse_render_field` : a record with one text is read back as it was written;
* `decode?_encode` : the bytes of a written record are taken as UTF-8.
-/

namespace CodeSmell.Json

/-! ## Writing -/

/-- The written forms of a character in a quoted text: an escape of one letter, the character itself, or
one or two sixteen-bit units. -/
inductive Written (c : Char) : Text → Prop
  | letter {d : Char} : escaped? d = some c → Written c ['\\', d]
  | plain : c ≠ '"' → c ≠ '\\' → 32 ≤ c.toNat → Written c [c]
  | unit : c.toNat < 0x10000 → Written c (unitEscape c.toNat).toList
  | pair : 0x10000 ≤ c.toNat →
    Written c ((unitEscape (0xD800 + (c.toNat - 0x10000) / 0x400)).toList ++
      (unitEscape (0xDC00 + (c.toNat - 0x10000) % 0x400)).toList)

/-- Characters with an escape of one letter that is used. -/
def lettered : List Char := ['"', '\\', '\n', '\r', '\t', '\x08', '\x0c']

theorem exists_written (c : Char) :
    ∃ w, Written c w ∧ ∀ out : String, (quoteChar out c).toList = out.toList ++ w := by
  by_cases hlettered : c ∈ lettered
  · simp only [lettered, List.mem_cons, List.not_mem_nil, or_false] at hlettered
    obtain rfl | rfl | rfl | rfl | rfl | rfl | rfl := hlettered
    all_goals exact ⟨_, .letter rfl, fun out => String.toList_append⟩
  · have hne {d : Char} (hd : d ∈ lettered) : c.toNat ≠ d.toNat :=
      fun h => hlettered (Char.toNat_inj.mp h ▸ hd)
    have h8 : c.toNat ≠ 8 := hne (d := '\x08') (by decide)
    have h12 : c.toNat ≠ 12 := hne (d := '\x0c') (by decide)
    simp only [lettered, List.mem_cons, List.not_mem_nil, or_false, not_or] at hlettered
    by_cases hplain : 32 ≤ c.toNat ∧ c.toNat < 127
    · refine ⟨_, .plain hlettered.1 hlettered.2.1 hplain.1, fun out => ?_⟩
      simp [quoteChar, hlettered, hplain]
    by_cases hunit : c.toNat < 0x10000
    · refine ⟨_, .unit hunit, fun out => ?_⟩
      simp [quoteChar, hlettered, hplain, h8, h12, hunit]
    · refine ⟨_, .pair (Nat.not_lt.mp hunit), fun out => ?_⟩
      simp [quoteChar, hlettered, hplain, h8, h12, hunit]

def escape (c : Char) : Text :=
  (quoteChar "" c).toList

theorem written_escape (c : Char) : Written c (escape c) := by
  obtain ⟨w, hw, hout⟩ := exists_written c
  rwa [escape, hout]

theorem toList_quoteChar (out : String) (c : Char) : (quoteChar out c).toList = out.toList ++ escape c := by
  obtain ⟨w, -, hout⟩ := exists_written c
  rw [escape, hout, hout]
  rfl

theorem toList_quote (out : String) (t : Text) :
    (quote out t).toList = out.toList ++ '"' :: (t.flatMap escape ++ ['"']) := by
  have hchars (t : Text) (out : String) :
      (t.foldl quoteChar out).toList = out.toList ++ t.flatMap escape := by
    induction t generalizing out with
    | nil => simp
    | cons c t ih => rw [List.foldl_cons, ih, toList_quoteChar, List.flatMap_cons, List.append_assoc]
  simp [quote, hchars]

theorem toList_render_field (name : String) (t : Text) :
    (render (.record [(name, .text t)])).toList =
      '\x7b' :: '"' :: (name.toList.flatMap escape ++ '"' :: ':' :: '"' ::
        (t.flatMap escape ++ ['"', '\x7d'])) := by
  simp [render, record, write, writeFields, Layout.lineBreak, Layout.colon, toList_quote]

theorem length_unitEscape (n : Nat) : (unitEscape n).toList.length = 6 := by
  simp [unitEscape]

/-! ## Reading texts -/

theorem hexValue?_hexDigit : ∀ n < 16, Text.hexValue? (hexDigit n) = some n := by
  decide

theorem hex4?_hexDigit {n : Nat} (h : n < 0x10000) :
    hex4? (hexDigit (n / 4096 % 16)) (hexDigit (n / 256 % 16)) (hexDigit (n / 16 % 16))
      (hexDigit (n % 16)) = some n := by
  rw [hex4?, hexValue?_hexDigit _ (by omega), hexValue?_hexDigit _ (by omega),
    hexValue?_hexDigit _ (by omega), hexValue?_hexDigit _ (by omega)]
  show some _ = some _
  congr 1
  omega

section
variable (start : Nat) (p : Partial) (position : Nat) {rest : Text}

theorem textFrom_unitEscape {n : Nat} (h : n < 0x10000) (hrest : rest ≠ []) :
    textFrom start p position ((unitEscape n).toList ++ rest) =
      textFrom start (p.pushUnit n) (position + 6) rest := by
  have hunit : (unitEscape n).toList ++ rest =
      '\\' :: 'u' :: hexDigit (n / 4096 % 16) :: hexDigit (n / 256 % 16) :: hexDigit (n / 16 % 16) ::
        hexDigit (n % 16) :: rest := by
    simp [unitEscape]
  rw [hunit, textFrom, hex4?_hexDigit h]
  simp [hrest]

theorem textFrom_escaped {c e : Char} (h : escaped? c = some e) :
    textFrom start p position ('\\' :: c :: rest) = textFrom start (p.push e) (position + 2) rest := by
  have hc : c ≠ 'u' := by
    rintro rfl
    cases h
  rw [textFrom, h]
  all_goals simp [hc]

theorem textFrom_plain {c : Char} (hquote : c ≠ '"') (hslash : c ≠ '\\') (hcontrol : 32 ≤ c.toNat) :
    textFrom start p position (c :: rest) = textFrom start (p.push c) (position + 1) rest := by
  rw [textFrom, if_neg (Nat.not_lt.mpr hcontrol)]
  all_goals simp [hquote, hslash]

end

theorem pushUnit_high (seen : Text) {n : Nat} (h : isHighSurrogate n = true) :
    Partial.pushUnit { seen } n = { seen, high := some n } := by
  simp [Partial.pushUnit, h, Partial.flush]

theorem pushUnit_low (seen : Text) (n : Nat) {m : Nat} (hhigh : isHighSurrogate m = false)
    (hlow : isLowSurrogate m = true) :
    Partial.pushUnit { seen, high := some n } m =
      { seen := Char.ofNat (0x10000 + (n - 0xD800) * 0x400 + (m - 0xDC00)) :: seen } := by
  simp [Partial.pushUnit, hhigh, hlow]

theorem pushUnit_single (seen : Text) {n : Nat} (hhigh : isHighSurrogate n = false)
    (hlow : isLowSurrogate n = false) :
    Partial.pushUnit { seen } n = { seen := Char.ofNat n :: seen } := by
  simp [Partial.pushUnit, hhigh, hlow, Partial.push, Partial.flush]

theorem pushUnit_toNat (seen : Text) {c : Char} (h : c.toNat < 0x10000) :
    Partial.pushUnit { seen } c.toNat = { seen := c :: seen } := by
  have hvalid : c.toNat < 0xD800 ∨ 0xDFFF < c.toNat ∧ c.toNat < 0x110000 := c.valid
  rw [pushUnit_single seen, Char.ofNat_toNat]
  · simp only [isHighSurrogate, Bool.and_eq_false_iff, decide_eq_false_iff_not]
    omega
  · simp only [isLowSurrogate, Bool.and_eq_false_iff, decide_eq_false_iff_not]
    omega

theorem pushUnit_pair (seen : Text) {c : Char} (h : 0x10000 ≤ c.toNat) :
    (Partial.pushUnit { seen } (0xD800 + (c.toNat - 0x10000) / 0x400)).pushUnit
        (0xDC00 + (c.toNat - 0x10000) % 0x400) =
      { seen := c :: seen } := by
  have hvalid : c.toNat < 0xD800 ∨ 0xDFFF < c.toNat ∧ c.toNat < 0x110000 := c.valid
  have hc : 0x10000 + (0xD800 + (c.toNat - 0x10000) / 0x400 - 0xD800) * 0x400 +
      (0xDC00 + (c.toNat - 0x10000) % 0x400 - 0xDC00) = c.toNat := by
    omega
  rw [pushUnit_high, pushUnit_low, hc, Char.ofNat_toNat]
  · simp only [isHighSurrogate, Bool.and_eq_false_iff, decide_eq_false_iff_not]
    omega
  · simp only [isLowSurrogate, Bool.and_eq_true, decide_eq_true_eq]
    omega
  · simp only [isHighSurrogate, Bool.and_eq_true, decide_eq_true_eq]
    omega

/-- Reading takes the written form of a character as the character. -/
theorem textFrom_escape (start : Nat) (seen : Text) (position : Nat) (c : Char) {rest : Text}
    (hrest : rest ≠ []) :
    textFrom start { seen } position (escape c ++ rest) =
      textFrom start { seen := c :: seen } (position + (escape c).length) rest := by
  generalize escape c = w, written_escape c = hw
  cases hw with
  | letter hd => exact textFrom_escaped start _ position hd
  | plain hquote hslash hcontrol => exact textFrom_plain start _ position hquote hslash hcontrol
  | unit hn =>
    rw [textFrom_unitEscape start _ position hn hrest, pushUnit_toNat seen hn, length_unitEscape]
  | pair hn =>
    have hvalid : c.toNat < 0xD800 ∨ 0xDFFF < c.toNat ∧ c.toNat < 0x110000 := c.valid
    rw [List.append_assoc, textFrom_unitEscape start _ position (by omega) (by simp [hrest]),
      textFrom_unitEscape start _ _ (by omega) hrest, pushUnit_pair seen hn, List.length_append,
      length_unitEscape, length_unitEscape, Nat.add_assoc]

theorem textFrom_flatMap_escape (start : Nat) (seen : Text) (position : Nat) (t rest : Text) :
    textFrom start { seen } position (t.flatMap escape ++ '"' :: rest) =
      .ok (seen.reverse ++ t, ⟨rest, position + (t.flatMap escape).length + 1⟩) := by
  induction t generalizing seen position with
  | nil =>
    rw [List.flatMap_nil, List.nil_append, textFrom, List.append_nil]
    rfl
  | cons c t ih =>
    rw [List.flatMap_cons, List.append_assoc, textFrom_escape start seen position c (by simp), ih]
    simp [Nat.add_assoc]

/-! ## Reading a record -/

theorem value_text (fuel room position : Nat) (t rest : Text) :
    value (fuel + 1) room ⟨'"' :: (t.flatMap escape ++ '"' :: rest), position⟩ =
      .ok (.text t, ⟨rest, position + 1 + (t.flatMap escape).length + 1⟩) := by
  rw [value]
  show textFrom position {} (position + 1) (t.flatMap escape ++ '"' :: rest) >>= _ = _
  rw [textFrom_flatMap_escape]
  rfl

theorem fields_text (fuel room position : Nat) (name t rest : Text) :
    ∃ position', fields (fuel + 2) room []
        ⟨'"' :: (name.flatMap escape ++ '"' :: ':' :: '"' :: (t.flatMap escape ++ '"' :: '\x7d' :: rest)),
          position⟩ =
      .ok (.object [(name, .text t)], ⟨rest, position'⟩) := by
  rw [fields]
  show ∃ _, textFrom position {} (position + 1) (name.flatMap escape ++ '"' :: ':' :: _) >>= _ = _
  rw [textFrom_flatMap_escape]
  show ∃ _, value (fuel + 1) room ⟨'"' :: (t.flatMap escape ++ '"' :: '\x7d' :: rest),
    position + 1 + (name.flatMap escape).length + 1 + 1⟩ >>= _ = _
  rw [value_text]
  exact ⟨_, rfl⟩

theorem value_field (fuel room position : Nat) (name t rest : Text) :
    ∃ position', value (fuel + 3) (room + 1)
        ⟨'\x7b' :: '"' :: (name.flatMap escape ++ '"' :: ':' :: '"' ::
          (t.flatMap escape ++ '"' :: '\x7d' :: rest)), position⟩ =
      .ok (.object [(name, .text t)], ⟨rest, position'⟩) := by
  rw [value]
  exact fields_text fuel room (position + 1) name t rest

/-- A record with one text is read back as it was written. -/
theorem parse_render_field (name : String) (t : Text) :
    parse (render (.record [(name, .text t)])).toList = .ok (.record [(name, .text t)]) := by
  rw [toList_render_field, parse]
  generalize hfuel : 2 * List.length _ + 2 = fuel
  obtain ⟨fuel, rfl⟩ : ∃ k, fuel = k + 3 := by
    rw [List.length_cons] at hfuel
    exact ⟨fuel - 3, by omega⟩
  obtain ⟨position, hvalue⟩ := value_field fuel (maxDepth - 1) 0 name.toList t []
  show value (fuel + 3) (maxDepth - 1 + 1) ⟨'\x7b' :: '"' :: _, 0⟩ >>= _ = _
  rw [hvalue]
  rfl

/-! ## Bytes -/

theorem detect_of_ne_zero {a b : UInt8} (ha : a ≠ 0) (hb : b ≠ 0) (bytes : Bytes) :
    Encoding.detect (a :: b :: bytes) = .utf8 := by
  match bytes with
  | [] => simp [Encoding.detect, ha, hb]
  | [_] => rfl
  | _ :: _ :: _ => simp [Encoding.detect, ha, hb]

/-- The first two characters of a written record tell its encoding. -/
theorem decode?_encode (t : Text) :
    decode? (Utf8.encode ('\x7b' :: '"' :: t)) = some ('\x7b' :: '"' :: t) := by
  have hbytes : Utf8.encode ('\x7b' :: '"' :: t) = 0x7B :: 0x22 :: Utf8.encode t := rfl
  have hmark : dropMark (Utf8.encode ('\x7b' :: '"' :: t)) = Utf8.encode ('\x7b' :: '"' :: t) := by
    rw [hbytes, dropMark, if_neg]
    simp
  rw [decode?, hmark, Utf8.strict_encode, hbytes, detect_of_ne_zero (by decide) (by decide)]
  rfl

end CodeSmell.Json
