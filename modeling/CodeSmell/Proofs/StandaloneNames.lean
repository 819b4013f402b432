import CodeSmell.Proofs.UnusedNames

/-!
# Imported names that stand alone

A name is taken by the characters that names may hold, but its places in a text are found by word characters.
Combining marks may stand in a name and are no word characters. So it matters whether a name begins and ends
with a word character: if so, a place where it stands alone is counted, and if not, no such place is.

* `isDelimiter`, `Delimited`, `StandsAlone name t i` : the name stands at the place `i` of the text, and next to
  it there are only characters that belong neither to words nor to names;
* `HasWordEnds` : the name begins and ends with a word character;
* `occurrencesFrom_delimited` : a place where such a name stands alone is counted beside those behind it;
* `exists_behind` : of two places where a name stands alone, one is behind the other;
* `occurrencesFrom_eq_zero` : places where any other name stands alone are not counted;
* `unusedImport_standsAlone` : what this means for the imported names that are reported.
-/

namespace CodeSmell

namespace Text

/-- Neither a word character nor one that a name may go on with. -/
def isDelimiter (c : Char) : Bool :=
  !isWord c && !isIdentifierPart c

/-- What stands between `front` and `back` has a delimiter, or an end of the text, on either side. -/
structure Delimited (front back : Text) : Prop where
  front : ∀ c ∈ front.getLast?, isDelimiter c = true
  back : ∀ c ∈ back.head?, isDelimiter c = true

instance (front back : Text) : Decidable (Delimited front back) :=
  decidable_of_iff ((front.getLast?.all isDelimiter && back.head?.all isDelimiter) = true) <| by
    rw [Bool.and_eq_true, Option.all_eq_true, Option.all_eq_true]
    exact ⟨fun h => ⟨h.1, h.2⟩, fun h => ⟨h.front, h.back⟩⟩

/-- The name stands at the place `i` of the text, delimited on both sides. -/
def StandsAlone (name t : Text) (i : ℕ) : Prop :=
  ∃ front back, t = front ++ (name ++ back) ∧ front.length = i ∧ Delimited front back

/-- The name begins and ends with a word character. -/
def HasWordEnds (name : Text) : Prop :=
  name.head?.any isWord = true ∧ name.getLast?.any isWord = true

theorem isWord_of_isDelimiter {c : Char} (h : isDelimiter c = true) : isWord c = false := by
  unfold isDelimiter at h
  simp_all

namespace Delimited
variable {front back : Text} (h : Delimited front back)
include h

theorem isWord_front : front.getLast?.any isWord = false := by
  cases hlast : front.getLast? with
  | none => rfl
  | some c => exact isWord_of_isDelimiter (h.front c hlast)

theorem startsInWord_back : startsInWord back = false := by
  cases back with
  | nil => rfl
  | cons c back => exact isWord_of_isDelimiter (h.back c rfl)

end Delimited

/-- Between other characters than those of words, the ends of a name decide whether it is found. -/
theorem standsAt_delimited {name rest : Text} (hne : name ≠ []) (hrest : startsInWord rest = false) :
    standsAt name false (name ++ rest) = true ↔ HasWordEnds name := by
  have hstart : startsInWord (name ++ rest) = name.head?.any isWord := by
    obtain ⟨c, cs, rfl⟩ := List.exists_cons_of_ne_nil hne
    rfl
  rw [standsAt, after?_append, hstart, HasWordEnds]
  simp [hrest]

/-! ## Names with word characters at their ends -/

section Ends
variable {name : Text} (h : HasWordEnds name)
include h

theorem HasWordEnds.ne_nil : name ≠ [] := by
  intro hnil
  rw [hnil] at h
  exact absurd h.1 (by decide)

/-- A delimiter is no character of a name that begins with a word character. -/
theorem HasWordEnds.notMem (hid : name.isIdentifier = true) {d : Char} (hd : isDelimiter d = true) :
    d ∉ name := by
  intro hmem
  obtain ⟨c, rest, rfl⟩ := List.exists_cons_of_ne_nil h.ne_nil
  have hrest : rest.all isIdentifierPart = true := by
    unfold isIdentifier at hid
    exact (Bool.and_eq_true_iff.mp hid).2
  rcases List.mem_cons.mp hmem with rfl | hmem
  · have hword : isWord d = true := h.1
    rw [isWord_of_isDelimiter hd] at hword
    cases hword
  · have hpart := List.all_eq_true.mp hrest d hmem
    unfold isDelimiter at hd
    simp [hpart] at hd

end Ends

theorem occurrencesFrom_of_length_le (name : Text) (inWord : Bool) {skip : ℕ} (count : ℕ) {t : Text}
    (h : t.length ≤ skip) : occurrencesFrom name inWord skip count t = count := by
  induction t generalizing inWord skip with
  | nil => rfl
  | cons c t ih =>
    rw [List.length_cons] at h
    obtain ⟨k, rfl⟩ : ∃ k, skip = k + 1 := ⟨skip - 1, by omega⟩
    exact ih _ (by omega)

theorem le_occurrencesFrom (name : Text) (inWord : Bool) (skip count : ℕ) (t : Text) :
    count ≤ occurrencesFrom name inWord skip count t := by
  induction t generalizing inWord skip count with
  | nil => exact le_rfl
  | cons c t ih =>
    cases skip with
    | succ k => exact ih _ k count
    | zero =>
      unfold occurrencesFrom
      split_ifs
      · exact (Nat.le_succ count).trans (ih _ _ _)
      · exact ih _ _ _

section Alone
variable {name : Text} (h : HasWordEnds name) (hid : name.isIdentifier = true)
include h

theorem occurrencesFrom_self (count : ℕ) : occurrencesFrom name false 0 count name = count + 1 := by
  have hstands : standsAt name false (name ++ []) = true := (standsAt_delimited h.ne_nil rfl).mpr h
  rw [List.append_nil] at hstands
  obtain ⟨c, rest, rfl⟩ := List.exists_cons_of_ne_nil h.ne_nil
  rw [occurrencesFrom, if_pos hstands]
  exact occurrencesFrom_of_length_le _ _ _ le_rfl

include hid

theorem occurrencesFrom_append_of_delimiter {back : Text} (hback : ∀ c ∈ back.head?, isDelimiter c = true)
    (count : ℕ) : occurrencesFrom name false 0 count (name ++ back) =
      occurrencesFrom name false 0 (count + 1) back := by
  cases back with
  | nil => rw [List.append_nil, occurrencesFrom_self h, occurrencesFrom]
  | cons d back =>
    have hd := hback d rfl
    have hcut := fun t m => occurrencesFrom_append_cons (h.notMem hid hd) h.ne_nil (isWord_of_isDelimiter hd)
      false 0 m t back (Nat.zero_le _)
    have hempty := hcut [] (count + 1)
    rw [List.nil_append, occurrencesFrom] at hempty
    rw [hcut, occurrencesFrom_self h, hempty]

/-- A place where the name stands alone is counted, beside the places before it and behind it. -/
theorem occurrencesFrom_delimited {front back : Text} (hd : Delimited front back) (count : ℕ) :
    occurrencesFrom name false 0 count (front ++ (name ++ back)) =
      occurrencesFrom name false 0 (occurrencesFrom name false 0 count front + 1) back := by
  rcases List.eq_nil_or_concat front with rfl | ⟨front, d, rfl⟩
  · exact occurrencesFrom_append_of_delimiter h hid hd.back count
  · have hdelimiter := hd.front d (by simp)
    have hcut := fun u => occurrencesFrom_append_cons (h.notMem hid hdelimiter) h.ne_nil
      (isWord_of_isDelimiter hdelimiter) false 0 count front u (Nat.zero_le _)
    rw [List.concat_eq_append, hcut [], List.append_assoc, List.singleton_append, hcut (name ++ back),
      occurrencesFrom_append_of_delimiter h hid hd.back, occurrencesFrom]

/-- Of two places where the name stands alone, the later one is behind the first: they do not overlap, since a
character of the name would then be a delimiter. -/
theorem exists_behind {front back front' back' : Text}
    (heq : front ++ (name ++ back) = front' ++ (name ++ back')) (hlt : front.length < front'.length)
    (hd' : Delimited front' back') : ∃ mid, back = mid ++ (name ++ back') ∧ Delimited mid back' := by
  rcases List.append_eq_append_iff.mp heq with ⟨m, rfl, hm⟩ | ⟨m, rfl, -⟩
  · have hne : m ≠ [] := by
      intro hnil
      simp [hnil] at hlt
    have hlast : ∀ c ∈ m.getLast?, isDelimiter c = true := by
      intro c hc
      exact hd'.front c (by rwa [List.getLast?_append_of_ne_nil _ hne])
    have hmem : m.getLast hne ∉ name :=
      h.notMem hid (hlast _ (List.getLast?_eq_some_getLast hne))
    rcases List.append_eq_append_iff.mp hm with ⟨mid, rfl, hback⟩ | ⟨rest, hname, -⟩
    · refine ⟨mid, hback, fun c hc => ?_, hd'.back⟩
      have hmid : mid ≠ [] := by
        intro hnil
        rw [hnil] at hc
        cases hc
      exact hlast c (by rwa [List.getLast?_append_of_ne_nil _ hmid])
    · refine absurd ?_ hmem
      rw [hname]
      exact List.mem_append_left rest (List.getLast_mem hne)
  · simp only [List.length_append] at hlt
    omega

theorem two_le_occurrencesFrom {t : Text} {i j : ℕ} (hij : i ≠ j) (hi : StandsAlone name t i)
    (hj : StandsAlone name t j) : 2 ≤ occurrencesFrom name false 0 0 t := by
  wlog hlt : i < j generalizing i j
  · exact this hij.symm hj hi (by omega)
  obtain ⟨front, back, rfl, rfl, hd⟩ := hi
  obtain ⟨front', back', heq, rfl, hd'⟩ := hj
  obtain ⟨mid, rfl, hmid⟩ := exists_behind h hid heq hlt hd'
  rw [occurrencesFrom_delimited h hid hd, occurrencesFrom_delimited h hid hmid]
  have hfront := le_occurrencesFrom name false 0 0 front
  have hbetween := le_occurrencesFrom name false 0 (occurrencesFrom name false 0 0 front + 1) mid
  have hbehind := le_occurrencesFrom name false 0
    (occurrencesFrom name false 0 (occurrencesFrom name false 0 0 front + 1) mid + 1) back'
  omega

end Alone

/-! ## Other names -/

/-- Where a name with another character at an end stands alone, it is not found. -/
theorem occurrencesFrom_eq_zero {name t : Text} (hne : name ≠ []) (hends : ¬ HasWordEnds name)
    (halone : ∀ front back, t = front ++ (name ++ back) → Delimited front back) :
    occurrencesFrom name false 0 0 t = 0 := by
  have key : ∀ (u front : Text), t = front ++ u →
      occurrencesFrom name (front.getLast?.any isWord) 0 0 u = 0 := by
    intro u
    induction u with
    | nil => exact fun _ _ => rfl
    | cons c u ih =>
      intro front ht
      have hstands : standsAt name (front.getLast?.any isWord) (c :: u) = false := by
        rw [Bool.eq_false_iff]
        intro hs
        obtain ⟨rest, hrest⟩ := eq_append_of_standsAt hs
        have hd := halone front rest (by rw [ht, hrest])
        rw [hd.isWord_front, hrest, standsAt_delimited hne hd.startsInWord_back] at hs
        exact hends hs
      have hnext := ih (front ++ [c]) (by rw [ht, List.append_assoc, List.singleton_append])
      rw [List.getLast?_concat] at hnext
      rw [occurrencesFrom, hstands]
      exact hnext
  exact key t [] rfl

end Text

open Text

/-! ## Reports -/

theorem isUnused_iff_occurrencesFrom {t name : Text} (hid : name.isIdentifier = true) :
    isUnused t name = true ↔ occurrencesFrom name false 0 0 t ≤ 1 := by
  rw [isUnused, occurrences?, if_pos hid]
  simp

/-- **Imported names that stand alone.** A name that begins and ends with a word character and that stands alone
at two places of the text is not reported. A name that does not is reported although it may stand at any number
of places, if it stands alone at all of them. -/
theorem unusedImport_standsAlone (t name : Text) (hid : name.isIdentifier = true)
    (himported : ∃ line ∈ t.lines, name ∈ Line.imported line) :
    (HasWordEnds name → ∀ i j, i ≠ j → StandsAlone name t i → StandsAlone name t j →
      ¬ Reports t (.unusedImport name)) ∧
    (¬ HasWordEnds name → (∀ front back, t = front ++ (name ++ back) → Delimited front back) →
      Reports t (.unusedImport name)) := by
  refine ⟨fun hends i j hij hi hj hreports => ?_, fun hends halone => ?_⟩
  · have htwo := two_le_occurrencesFrom hends hid hij hi hj
    have hunused := (reports_unusedImport_iff.mp hreports).2
    rw [isUnused_iff_occurrencesFrom hid] at hunused
    omega
  · have hne : name ≠ [] := by
      intro hnil
      rw [hnil] at hid
      cases hid
    refine reports_unusedImport_iff.mpr ⟨himported, (isUnused_iff_occurrencesFrom hid).mpr ?_⟩
    rw [occurrencesFrom_eq_zero hne hends halone]
    exact Nat.zero_le 1

/-- A combining mark inside the name does no harm. -/
theorem unusedImport_standsAlone_naive :
    (∃ line ∈ lines "import nai\u0308ve\nnai\u0308ve()\n".toList, "nai\u0308ve".toList ∈ Line.imported line) ∧
      StandsAlone "nai\u0308ve".toList "import nai\u0308ve\nnai\u0308ve()\n".toList 7 ∧
      StandsAlone "nai\u0308ve".toList "import nai\u0308ve\nnai\u0308ve()\n".toList 14 ∧
      ¬ Reports "import nai\u0308ve\nnai\u0308ve()\n".toList (.unusedImport "nai\u0308ve".toList) := by
  have himported : ∃ line ∈ lines "import nai\u0308ve\nnai\u0308ve()\n".toList,
      "nai\u0308ve".toList ∈ Line.imported line := by
    decide +kernel
  have hfirst : StandsAlone "nai\u0308ve".toList "import nai\u0308ve\nnai\u0308ve()\n".toList 7 :=
    ⟨"import ".toList, "\nnai\u0308ve()\n".toList, rfl, rfl, by decide⟩
  have hsecond : StandsAlone "nai\u0308ve".toList "import nai\u0308ve\nnai\u0308ve()\n".toList 14 :=
    ⟨"import nai\u0308ve\n".toList, "()\n".toList, rfl, rfl, by decide⟩
  have hends : HasWordEnds "nai\u0308ve".toList := ⟨by decide, by decide⟩
  have hnot := (unusedImport_standsAlone _ "nai\u0308ve".toList (by decide +kernel) himported).1
  exact ⟨himported, hfirst, hsecond, hnot hends 7 14 (by decide) hfirst hsecond⟩

/-- A name that ends with a combining mark is reported, though it stands alone twice. -/
theorem unusedImport_combiningMark :
    isIdentifier "e\u0301".toList = true ∧
      (∃ line ∈ lines "import e\u0301\nprint(e\u0301)\n".toList, "e\u0301".toList ∈ Line.imported line) ∧
      StandsAlone "e\u0301".toList "import e\u0301\nprint(e\u0301)\n".toList 7 ∧
      StandsAlone "e\u0301".toList "import e\u0301\nprint(e\u0301)\n".toList 16 ∧
      Reports "import e\u0301\nprint(e\u0301)\n".toList (.unusedImport "e\u0301".toList) := by
  have himported : ∃ line ∈ lines "import e\u0301\nprint(e\u0301)\n".toList,
      "e\u0301".toList ∈ Line.imported line := by
    decide +kernel
  refine ⟨by decide +kernel, himported, ?_, ?_, ?_⟩
  · exact ⟨"import ".toList, "\nprint(e\u0301)\n".toList, rfl, rfl, by decide⟩
  · exact ⟨"import e\u0301\nprint(".toList, ")\n".toList, rfl, rfl, by decide⟩
  · exact reports_unusedImport_iff.mpr ⟨himported, by decide +kernel⟩

end CodeSmell
