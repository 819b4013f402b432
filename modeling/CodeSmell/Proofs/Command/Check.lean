import CodeSmell.Proofs.Command.Arguments
import Mathlib.Data.List.Basic

/-!
# Command lines that ask for a check

* `AsksCheck files args verbose o` : the command line `args` asks for a check with the options `o`;
* `failUnder_le_of_asksCheck` : a threshold that is read is at most 100;
* `CheckOptions.words` : the words for given options; `asksCheck_words` : they are read as these, when there
  are paths and all of them are there.
-/

namespace CodeSmell

/-- The command line asks for a check with these options. -/
def AsksCheck (files : FileTree) (args : List Text) (verbose : Bool) (o : CheckOptions) : Prop :=
  Request.read files args = .ok (.check verbose o)

theorem run_of_asksCheck {s : Surroundings} {args : List Text} {verbose : Bool} {o : CheckOptions}
    (h : AsksCheck s.files args verbose o) : run s args = runCheck s verbose o := by
  cases args with
  | nil => cases h
  | cons arg args =>
    rw [run, h]
    rfl

/-! ## Thresholds that are read -/

namespace CheckOptions

theorem le_of_readThreshold {t : Text} {n : ℕ} (h : readThreshold t = .ok n) : n ≤ 100 := by
  unfold readThreshold at h
  split at h
  · cases h
  · split_ifs at h with hrange
    cases h
    omega

theorem failUnder_setOption_le {a : Arguments} {o o' : CheckOptions} {key : OptionKey}
    (ho : o.failUnder ≤ 100) (h : setOption a o key = .ok o') : o'.failUnder ≤ 100 := by
  unfold setOption at h
  split at h
  · split at h
    · cases h
      exact ho
    · cases h
  · obtain ⟨n, hn, rfl⟩ := map_eq_ok_iff.mp h
    exact le_of_readThreshold hn
  · cases h
    exact ho
  · cases h
    exact ho

theorem failUnder_foldlM_le {a : Arguments} {keys : List OptionKey} {o o' : CheckOptions}
    (ho : o.failUnder ≤ 100) (h : keys.foldlM (setOption a) o = .ok o') : o'.failUnder ≤ 100 := by
  induction keys generalizing o with
  | nil =>
    cases h
    exact ho
  | cons key keys ih =>
    rw [List.foldlM_cons, bind_eq_ok_iff] at h
    obtain ⟨next, hkey, hkeys⟩ := h
    exact ih (failUnder_setOption_le ho hkey) hkeys

theorem failUnder_ofArguments_le {files : FileTree} {a : Arguments} {o : CheckOptions}
    (h : ofArguments files a = .ok o) : o.failUnder ≤ 100 := by
  rw [ofArguments, bind_eq_ok_iff] at h
  obtain ⟨o', hfold, h⟩ := h
  split_ifs at h
  split at h
  · cases h
  · cases h
    exact failUnder_foldlM_le (Nat.zero_le 100) hfold

end CheckOptions

/-- A check is read from its arguments. -/
theorem exists_ofArguments_of_asksCheck {files : FileTree} {args : List Text} {verbose : Bool}
    {o : CheckOptions} (h : AsksCheck files args verbose o) :
    ∃ a, CheckOptions.ofArguments files a = .ok o := by
  unfold AsksCheck Request.read at h
  split at h
  · cases h
  · rename_i a _
    split at h
    · rename_i key _
      cases key <;> cases h
    · cases h
    · split at h
      · rename_i c _
        rw [mapError_eq_ok_iff, Request.ofCommand, bind_eq_ok_iff] at h
        obtain ⟨b, -, h⟩ := h
        split at h
        · rename_i key _
          cases key <;> cases h
        · split at h
          · obtain ⟨o', ho', h⟩ := map_eq_ok_iff.mp h
            cases h
            exact ⟨b, ho'⟩
          · obtain ⟨o', -, h⟩ := map_eq_ok_iff.mp h
            cases h
          · obtain ⟨o', -, h⟩ := map_eq_ok_iff.mp h
            cases h
      · rw [mapError_eq_ok_iff, Request.ofUnknown, bind_eq_ok_iff] at h
        obtain ⟨b, -, h⟩ := h
        split at h
        · rename_i key _
          cases key <;> cases h
        · cases h

theorem failUnder_le_of_asksCheck {files : FileTree} {args : List Text} {verbose : Bool}
    {o : CheckOptions} (h : AsksCheck files args verbose o) : o.failUnder ≤ 100 := by
  obtain ⟨a, ha⟩ := exists_ofArguments_of_asksCheck h
  exact CheckOptions.failUnder_ofArguments_le ha

/-! ## A command line for every check -/

/-- The name that `OutputFormat.ofName?` reads. -/
def OutputFormat.name : OutputFormat → Text
  | text => "text".toList
  | json => "json".toList
  | yaml => "yaml".toList

theorem OutputFormat.ofName?_name (f : OutputFormat) : ofName? f.name = some f := by
  cases f <;> rfl

namespace CheckOptions

theorem readThreshold_ofNat {n : ℕ} (h : n ≤ 100) : readThreshold (Text.ofNat n) = .ok n := by
  have hall : ∀ n < 101, readThreshold (Text.ofNat n) = .ok n := by decide +kernel
  exact hall n (Nat.lt_succ_of_le h)

/-- The words that ask for a check with the options, after the name of the command. -/
def words (o : CheckOptions) : List Text :=
  "--format".toList :: o.format.name :: "--fail-under".toList :: Text.ofNat o.failUnder ::
    ((o.exclude.flatMap fun name => ["--exclude".toList, name]) ++ "--".toList :: o.paths)

theorem foldlM_readOne_exclude (mixed : Bool) {a : Arguments} (hwaiting : a.waiting = none)
    (hended : a.ended = false) (names args : List Text) :
    ((names.flatMap fun name => ["--exclude".toList, name]) ++ args).foldlM
        (Arguments.readOne (optionSpecs (some .check)) mixed) a =
      args.foldlM (Arguments.readOne (optionSpecs (some .check)) mixed)
        { a with options := a.options ++ names.map fun name => { key := .exclude, value := name } } := by
  induction names generalizing a with
  | nil => rw [List.map_nil, List.append_nil]; rfl
  | cons name names ih =>
    have hexclude : ∃ spec ∈ optionSpecs (some .check), spec.takesValue = true ∧ spec.key = .exclude ∧
        spec.long = "--exclude".toList := by decide
    show ("--exclude".toList :: name :: (names.flatMap _ ++ args)).foldlM _ a = _
    rw [Arguments.foldlM_readOne_option hexclude mixed hwaiting hended,
      ih (a := a.addOption .exclude name) rfl hended]
    simp [Arguments.addOption, hwaiting]

section
variable (o : CheckOptions)

def arguments : Arguments :=
  { options :=
      { key := .format, value := o.format.name } ::
        { key := .failUnder, value := Text.ofNat o.failUnder } ::
        o.exclude.map fun name => { key := .exclude, value := name }
    positional := o.paths
    ended := true }

theorem read_words : Arguments.read (optionSpecs (some .check)) true o.words = .ok o.arguments := by
  have hformat : ∃ spec ∈ optionSpecs (some .check), spec.takesValue = true ∧ spec.key = .format ∧
      spec.long = "--format".toList := by decide
  have hfailUnder : ∃ spec ∈ optionSpecs (some .check), spec.takesValue = true ∧
      spec.key = .failUnder ∧ spec.long = "--fail-under".toList := by decide
  rw [Arguments.read, words, Arguments.foldlM_readOne_option hformat true rfl rfl,
    Arguments.foldlM_readOne_option hfailUnder true rfl rfl, foldlM_readOne_exclude true rfl rfl,
    Arguments.foldlM_readOne_dashes true rfl rfl]
  rfl

theorem keys_arguments :
    o.arguments.keys = .format :: .failUnder :: if o.exclude.isEmpty then [] else [.exclude] := by
  have hkeys : o.arguments.options.map (·.key) =
      .format :: .failUnder :: List.replicate o.exclude.length .exclude := by
    simp [arguments, Function.comp_def]
  rw [Arguments.keys, hkeys]
  cases o.exclude with
  | nil => rfl
  | cons name names => simp [List.eraseDups_cons, List.replicate_succ]

theorem question?_arguments : o.arguments.question? = none := by
  rw [Arguments.question?, keys_arguments]
  split_ifs <;> rfl

/-- Excluded names are no values of other options. -/
theorem find?_excluded {key : OptionKey} (h : key ≠ .exclude) :
    (o.exclude.map fun name => ({ key := .exclude, value := name } : Given)).reverse.find?
      (·.key = key) = none := by
  simp [h.symm]

theorem setOption_format (o' : CheckOptions) :
    setOption o.arguments o' .format = .ok { o' with format := o.format } := by
  have hvalue : o.arguments.value? .format = some o.format.name := by
    simp [Arguments.value?, arguments, find?_excluded]
  simp only [setOption, hvalue, OutputFormat.ofName?_name]

theorem setOption_failUnder (h : o.failUnder ≤ 100) (o' : CheckOptions) :
    setOption o.arguments o' .failUnder = .ok { o' with failUnder := o.failUnder } := by
  have hvalue : o.arguments.value? .failUnder = some (Text.ofNat o.failUnder) := by
    simp [Arguments.value?, arguments, find?_excluded]
  simp only [setOption, hvalue, readThreshold_ofNat h]
  rfl

theorem setOption_exclude (o' : CheckOptions) :
    setOption o.arguments o' .exclude = .ok { o' with exclude := o.exclude } := by
  have hvalues : o.arguments.values .exclude = o.exclude := by
    simp [Arguments.values, arguments, List.filter_map, Function.comp_def]
  simp only [setOption, hvalues]

theorem foldlM_setOption_arguments (h : o.failUnder ≤ 100) :
    o.arguments.keys.foldlM (setOption o.arguments) { paths := o.paths } = .ok o := by
  rw [keys_arguments, List.foldlM_cons, setOption_format]
  show List.foldlM _ _ _ = _
  rw [List.foldlM_cons, setOption_failUnder o h]
  show List.foldlM _ _ _ = _
  split_ifs with hexclude
  · obtain ⟨paths, format, failUnder, exclude⟩ := o
    cases List.isEmpty_iff.mp hexclude
    rfl
  · rw [List.foldlM_cons, setOption_exclude]
    rfl

/-- The paths must be there, and there must be one. -/
theorem ofArguments_arguments {files : FileTree} (h : o.failUnder ≤ 100) (hne : o.paths ≠ [])
    (hthere : ∀ p ∈ o.paths, p = dash ∨ files.hasPath p = true) :
    ofArguments files o.arguments = .ok o := by
  have hfind : (o.paths.find? fun p => p ≠ dash ∧ !files.hasPath p) = none := by
    rw [List.find?_eq_none]
    intro p hp
    rcases hthere p hp with hdash | hpath
    · simp [hdash]
    · simp [hpath]
  rw [ofArguments, show o.arguments.positional = o.paths from rfl, foldlM_setOption_arguments o h]
  show (if o.paths.isEmpty then _ else _) = _
  rw [if_neg (by simpa using hne), hfind]

end

end CheckOptions

/-- Every check of paths that are there can be asked for. -/
theorem asksCheck_words {files : FileTree} (verbose : Bool) {o : CheckOptions} (h : o.failUnder ≤ 100)
    (hne : o.paths ≠ []) (hthere : ∀ p ∈ o.paths, p = dash ∨ files.hasPath p = true) :
    AsksCheck files (commandWords verbose .check ++ o.words) verbose o := by
  rw [AsksCheck, Request.read_command, Request.ofCommand, o.read_words]
  simp only [bind, Except.bind, o.question?_arguments, o.ofArguments_arguments h hne hthere]
  rfl

end CodeSmell
