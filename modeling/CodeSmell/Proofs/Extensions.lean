import CodeSmell.Settings
import CodeSmell.Proofs.Line.PrintedImports
import Mathlib.Data.List.Forall2

/-!
# File extensions in normal form

The extensions of the settings are read from a list between commas, in which blanks, empty entries and the dot in front
may be left to the writer. What is read from it is in a normal form that the same reading keeps.

* `Padded w p` : the entry `p` is `w` with blanks around it;
* `StandsFor p e` : the entry `p` stands for the extension `e`, and `Reads s extensions` : the list `s` has an entry for
  each of the extensions, and beside these blank entries only; `reads_parseExtensions`;
* `IsExtension e` : the normal form, and `StandsFor.isExtension`;
* `Lists extensions t` : the extensions joined with commas and blanks; `parseExtensions_of_lists`;
* `Environment.OnlyExtensions` : environments in which no other setting is made; `load_of_onlyExtensions`;
* `load_extensions` : loaded extensions are in normal form, and loading them once more changes nothing.
-/

namespace CodeSmell

open Text
open Line (IsTrimmed strip_append)

/-! ## Entries -/

/-- The entry `p` is `w` with blanks around it. -/
def Padded (w p : Text) : Prop :=
  ∃ front back, (∀ c ∈ front, isSpace c = true) ∧ (∀ c ∈ back, isSpace c = true) ∧ p = front ++ (w ++ back)

theorem Padded.strip_eq {w p : Text} (h : Padded w p) (hw : IsTrimmed w) : strip p = w := by
  obtain ⟨front, back, hfront, hback, rfl⟩ := h
  exact strip_append hfront hw hback

theorem padded_strip (p : Text) : Padded (strip p) p := by
  obtain ⟨front, back, hp, hfront, hback⟩ := exists_strip_append p
  exact ⟨front, back, hfront, hback, by rw [← List.append_assoc, ← hp]⟩

/-- What is left of an entry that is not blank has no blank at its ends. -/
theorem isTrimmed_strip {p : Text} (h : p.all isSpace = false) : IsTrimmed (strip p) := by
  have hne : strip p ≠ [] := by
    rw [← isEmpty_strip] at h
    intro hnil
    rw [hnil] at h
    cases h
  refine ⟨hne, fun c hc => ?_, fun c hc => ?_⟩
  · -- the first character is also the first one behind the blanks in front
    obtain ⟨more, hmore⟩ : ∃ more, p.dropWhile isSpace = strip p ++ more := by
      refine ⟨((p.dropWhile isSpace).reverse.takeWhile isSpace).reverse, ?_⟩
      unfold strip
      rw [← List.reverse_append, List.takeWhile_append_dropWhile, List.reverse_reverse]
    apply stops_dropWhile (t := p)
    rw [hmore, List.head?_append_of_ne_nil _ hne]
    exact hc
  · unfold strip at hc
    rw [List.getLast?_reverse] at hc
    exact stops_dropWhile hc

/-- The entry `p` stands for the extension `e`: blanks aside it is `e`, or `e` without the dot in front. -/
def StandsFor (p e : Text) : Prop :=
  ∃ w, Padded w p ∧ IsTrimmed w ∧ (w.head? = some '.' ∧ e = w ∨ w.head? ≠ some '.' ∧ e = '.' :: w)

/-- The list `s` has an entry for each of the extensions, in their order, and beside these blank entries only. -/
def Reads (s : Text) (extensions : List Text) : Prop :=
  ∃ entries, s = [','].intercalate entries ∧ (∀ p ∈ entries, ',' ∉ p) ∧
    List.Forall₂ StandsFor (entries.filter fun p => !p.all isSpace) extensions

theorem standsFor_withDot {p : Text} (h : p.all isSpace = false) : StandsFor p (withDot (strip p)) := by
  refine ⟨strip p, padded_strip p, isTrimmed_strip h, ?_⟩
  unfold withDot
  split_ifs with hdot
  · exact Or.inl ⟨hdot, rfl⟩
  · exact Or.inr ⟨hdot, rfl⟩

theorem parseExtensions_eq (s : Text) :
    parseExtensions s = ((s.splitOn ',').filter fun p => !p.all isSpace).map (withDot ∘ strip) := by
  unfold parseExtensions
  rw [List.filter_map, List.map_map]
  congr 2
  funext p
  rw [Function.comp_apply, isEmpty_strip]

theorem reads_parseExtensions (s : Text) : Reads s (parseExtensions s) := by
  refine ⟨s.splitOn ',', ?_, fun p hp => notMem_of_mem_splitOn hp, ?_⟩
  · rw [splitOn_eq_list, List.intercalate_splitOn]
  · rw [parseExtensions_eq, List.forall₂_map_right_iff, List.forall₂_same]
    intro p hp
    have hblank := (List.mem_filter.mp hp).2
    exact standsFor_withDot (by simpa using hblank)

/-! ## Normal form -/

/-- An extension in normal form: it starts with a dot, holds no comma and has no blank at its ends. -/
structure IsExtension (e : Text) : Prop where
  dot : e.head? = some '.'
  comma : ',' ∉ e
  trimmed : IsTrimmed e

theorem StandsFor.isExtension {p e : Text} (h : StandsFor p e) (hp : ',' ∉ p) : IsExtension e := by
  obtain ⟨w, ⟨front, back, -, -, rfl⟩, hw, hdot⟩ := h
  have hcomma : ',' ∉ w := fun hc => hp (List.mem_append_right _ (List.mem_append_left _ hc))
  rcases hdot with ⟨hdot, rfl⟩ | ⟨-, rfl⟩
  · exact ⟨hdot, hcomma, hw⟩
  · refine ⟨rfl, ?_, List.cons_ne_nil _ _, fun c hc => ?_, fun c hc => ?_⟩
    · rw [List.mem_cons, not_or]
      exact ⟨by decide, hcomma⟩
    · rw [← Option.some.inj hc]
      decide
    · rw [List.getLast?_cons, List.getLast?_eq_some_getLast hw.ne_nil] at hc
      exact hw.last c (by rw [List.getLast?_eq_some_getLast hw.ne_nil]; exact hc)

theorem isExtension_of_mem_parseExtensions {s e : Text} (h : e ∈ parseExtensions s) : IsExtension e := by
  rw [parseExtensions_eq] at h
  obtain ⟨p, hp, rfl⟩ := List.mem_map.mp h
  obtain ⟨hmem, hblank⟩ := List.mem_filter.mp hp
  exact (standsFor_withDot (by simpa using hblank)).isExtension (notMem_of_mem_splitOn hmem)

/-- An extension in normal form is read from an entry as it is. -/
theorem Padded.read {e p : Text} (h : Padded e p) (he : IsExtension e) :
    (',' ∉ p ∧ p.all isSpace = false) ∧ withDot (strip p) = e := by
  have hstrip := h.strip_eq he.trimmed
  refine ⟨⟨?_, ?_⟩, ?_⟩
  · obtain ⟨front, back, hfront, hback, rfl⟩ := h
    have hspace : ¬ isSpace ',' = true := by decide
    rw [List.mem_append, List.mem_append]
    rintro (hc | hc | hc)
    · exact hspace (hfront _ hc)
    · exact he.comma hc
    · exact hspace (hback _ hc)
  · rw [← isEmpty_strip, hstrip, List.isEmpty_eq_false_iff]
    exact he.trimmed.ne_nil
  · rw [hstrip, withDot, if_pos he.dot]

/-- The extensions joined with commas, with any blanks around them. -/
def Lists (extensions : List Text) (t : Text) : Prop :=
  ∃ entries, List.Forall₂ Padded extensions entries ∧ t = [','].intercalate entries

theorem read_of_padded {extensions entries : List Text} (h : List.Forall₂ Padded extensions entries)
    (hall : ∀ e ∈ extensions, IsExtension e) :
    (∀ p ∈ entries, ',' ∉ p ∧ p.all isSpace = false) ∧ entries.map (withDot ∘ strip) = extensions := by
  induction h with
  | nil => exact ⟨fun p hp => (List.not_mem_nil hp).elim, rfl⟩
  | @cons e p extensions entries hp _ ih =>
    obtain ⟨he, hrest⟩ := List.forall_mem_cons.mp hall
    obtain ⟨hclean, hread⟩ := hp.read he
    obtain ⟨hcleans, hreads⟩ := ih hrest
    refine ⟨List.forall_mem_cons.mpr ⟨hclean, hcleans⟩, ?_⟩
    rw [List.map_cons, Function.comp_apply, hread, hreads]

/-- Extensions in normal form are read from a list of them as they are. -/
theorem parseExtensions_of_lists {extensions : List Text} (hne : extensions ≠ [])
    (hall : ∀ e ∈ extensions, IsExtension e) {t : Text} (ht : Lists extensions t) :
    parseExtensions t = extensions := by
  obtain ⟨entries, hpadded, rfl⟩ := ht
  obtain ⟨hclean, hread⟩ := read_of_padded hpadded hall
  have hentries : entries ≠ [] := by
    rintro rfl
    exact hne hread.symm
  have hsplit : Text.splitOn ',' ([','].intercalate entries) = entries := by
    rw [splitOn_eq_list, List.splitOn_intercalate ',' (fun p hp => (hclean p hp).1) hentries]
  have hkeep : entries.filter (fun p => !p.all isSpace) = entries :=
    List.filter_eq_self.mpr fun p hp => by rw [(hclean p hp).2]; rfl
  rw [parseExtensions_eq, hsplit, hkeep, hread]

/-! ## Loading -/

/-- Of the variables that settings are loaded from, only the one for extensions is set, to `s`. -/
structure Environment.OnlyExtensions (env : Environment) (s : Text) : Prop where
  extensions : env.lookup "COSACODE_EXTENSIONS".toList = some s
  others : ∀ name ∈ Settings.variableNames, name ≠ "COSACODE_EXTENSIONS" → env.lookup name.toList = none

theorem load_of_onlyExtensions {env : Environment} {s : Text} (h : env.OnlyExtensions s) (hs : s ≠ []) :
    Settings.load env = .ok { extensions := parseExtensions s } := by
  have hsize := h.others "COSACODE_MAX_FILE_SIZE" (by decide) (by decide)
  have hport := h.others "COSACODE_WEB_PORT" (by decide) (by decide)
  have hextensions : env.get? "COSACODE_EXTENSIONS" = some s := by
    rw [Environment.get?, h.extensions]
    simp [hs]
  unfold Settings.load Settings.loadInteger
  rw [hextensions, Environment.get?, hsize, Environment.get?, hport]
  rfl

/-- **Loaded extensions are in normal form, and loading them again changes nothing.** Where only the extensions are
set, to a list that is not empty, loading succeeds. Each entry of the list that is not blank gives an extension, which
starts with a dot, holds no comma and has no blank at its ends. If there are any, the same settings are loaded from the
extensions joined with commas, with any blanks around them. -/
theorem load_extensions {env : Environment} {s : Text} (henv : env.OnlyExtensions s) (hs : s ≠ []) :
    ∃ extensions, Settings.load env = .ok { extensions } ∧ Reads s extensions ∧
      (∀ e ∈ extensions, IsExtension e) ∧
      (extensions ≠ [] → ∀ (t : Text) (env' : Environment), Lists extensions t → env'.OnlyExtensions t →
        Settings.load env' = .ok { extensions }) := by
  have hall : ∀ e ∈ parseExtensions s, IsExtension e := fun e he => isExtension_of_mem_parseExtensions he
  refine ⟨parseExtensions s, load_of_onlyExtensions henv hs, reads_parseExtensions s, hall, ?_⟩
  intro hne t env' ht henv'
  have hread := parseExtensions_of_lists hne hall ht
  have htne : t ≠ [] := by
    rintro rfl
    exact hne hread.symm
  rw [load_of_onlyExtensions henv' htne, hread]

/-- Entries without a dot, with a blank inside, empty, and of a dot alone. -/
theorem load_extensions_inner_blank :
    let env : Environment := [("HOME".toList, "/".toList), ("COSACODE_EXTENSIONS".toList, " py,\t.tar gz ,, .".toList)]
    let again : Environment := [("COSACODE_EXTENSIONS".toList, ".py ,.tar gz\n,\u00a0.".toList)]
    let settings : Settings := { extensions := [".py".toList, ".tar gz".toList, ".".toList] }
    env.OnlyExtensions " py,\t.tar gz ,, .".toList ∧ Settings.load env = .ok settings ∧ IsExtension ".".toList ∧
      Lists settings.extensions ".py ,.tar gz\n,\u00a0.".toList ∧ Settings.load again = .ok settings := by
  intro env again settings
  have henv : env.OnlyExtensions " py,\t.tar gz ,, .".toList := ⟨by decide, by decide⟩
  have hagain : again.OnlyExtensions ".py ,.tar gz\n,\u00a0.".toList := ⟨by decide, by decide⟩
  obtain ⟨extensions, hload, -, hall, hidem⟩ := load_extensions henv (by decide)
  have hsettings : Settings.load env = .ok settings := rfl
  obtain rfl : extensions = [".py".toList, ".tar gz".toList, ".".toList] :=
    congrArg Settings.extensions (Except.ok.inj (hload.symm.trans hsettings))
  have hlists : Lists settings.extensions ".py ,.tar gz\n,\u00a0.".toList := by
    refine ⟨[".py ".toList, ".tar gz\n".toList, "\u00a0.".toList], .cons ⟨[], " ".toList, ?_, ?_, rfl⟩
      (.cons ⟨[], "\n".toList, ?_, ?_, rfl⟩ (.cons ⟨"\u00a0".toList, [], ?_, ?_, rfl⟩ .nil)), by decide⟩
    all_goals exact List.all_eq_true.mp (by decide)
  exact ⟨henv, hsettings, hall _ (by decide), hlists, hidem (by decide) _ again hlists hagain⟩

end CodeSmell
