import CodeSmell.Inspection
import CodeSmell.Score
import Mathlib.Data.Int.Notation
import Mathlib.Data.List.Perm.Subperm
import Mathlib.Tactic.Common

/-!
# Scores of lists of items

A score is cut off at zero, so the scores of two lists do not add up to that of both. The numbers of items of each
severity do, and a score is told by these.

* `Item.Has i s` : the item `i` has the severity `s`, whichever way it is given; `severity?_eq_some_iff`;
* `countOf s items` : how many items have the severity `s`; `itemScore_eq` : the score by these numbers;
* `itemScore_congr` : a score sees of the items only their severities;
* `itemScore_append`, `itemScore_le_of_subperm`, `itemScore_eq_hundred_iff` : joining lists, adding items, and lists
  that lose nothing;
* `Item.ofJson` : a JSON value as an item; `severity?_ofJson_toJson` : the data of a finding has its severity;
* `itemScore_laws` : these together.
-/

namespace CodeSmell

/-! ## Severities of items -/

namespace Severity

theorem ofLabel?_label (s : Severity) : ofLabel? s.label = some s := by
  cases s <;> rfl

theorem ofLabel?_eq_some_iff {t : Text} {s : Severity} : ofLabel? t = some s ↔ t = s.label := by
  constructor
  · intro h
    have hlabel := List.find?_some h
    exact (of_decide_eq_true hlabel).symm
  · rintro rfl
    exact ofLabel?_label s

end Severity

namespace Item

/-- The item has the severity `s`: it is a finding of that severity, or a mapping that holds the severity itself or
the text of its label. -/
inductive Has : Item → Severity → Prop
  | finding (f : Finding) : Has (.finding f) f.severity
  | level (s : Severity) : Has (.mapping (some (.level s))) s
  | label (s : Severity) : Has (.mapping (some (.raw (.text s.label)))) s

theorem severity?_eq_some_iff {i : Item} {s : Severity} : i.severity? = some s ↔ i.Has s := by
  constructor
  · intro h
    cases i with
    | finding f =>
      cases h
      exact .finding f
    | mapping tag =>
      obtain ⟨tag, rfl, htag⟩ := Option.bind_eq_some_iff.mp h
      unfold SeverityTag.severity? at htag
      split at htag
      · cases htag
        exact .level s
      · rw [Severity.ofLabel?_eq_some_iff.mp htag]
        exact .label s
      · cases htag
    | other => cases h
  · intro h
    cases h with
    | finding f => rfl
    | level s => rfl
    | label s => exact Severity.ofLabel?_label s

end Item

/-! ## Scores by numbers -/

def countOf (s : Severity) (items : List Item) : ℕ :=
  items.countP fun i => i.severity? = some s

theorem countOf_eq_count (s : Severity) (items : List Item) :
    countOf s items = (items.map Item.severity?).count (some s) := by
  unfold countOf
  rw [List.count, List.countP_map]
  exact List.countP_congr fun i _ => by simp

theorem countOf_append (s : Severity) (a b : List Item) : countOf s (a ++ b) = countOf s a + countOf s b :=
  List.countP_append

theorem foldr_weight (items : List Item) :
    items.foldr (fun i total => i.weight + total) 0 =
      20 * countOf .high items + 10 * countOf .medium items + 5 * countOf .low items := by
  induction items with
  | nil => rfl
  | cons i items ih =>
    rw [List.foldr_cons, ih, Item.weight]
    unfold countOf
    cases hi : i.severity? with
    | none => simp [hi]
    | some s =>
      cases s <;> simp [hi, Severity.weight] <;> omega

theorem itemScore_eq (items : List Item) :
    itemScore items = 100 - (20 * countOf .high items + 10 * countOf .medium items + 5 * countOf .low items) := by
  unfold itemScore
  rw [foldr_weight]

/-- A score sees of the items only their severities. -/
theorem itemScore_congr {a b : List Item} (h : a.map Item.severity? = b.map Item.severity?) :
    itemScore a = itemScore b := by
  simp only [itemScore_eq, countOf_eq_count, h]

theorem itemScore_append (a b : List Item) :
    (itemScore (a ++ b) : ℤ) = max 0 ((itemScore a : ℤ) + itemScore b - 100) := by
  simp only [itemScore_eq, countOf_append]
  omega

/-- Items that are added, anywhere, take something off or nothing. -/
theorem itemScore_le_of_subperm {a b : List Item} (h : a.Subperm b) : itemScore b ≤ itemScore a := by
  have hcount : ∀ s, countOf s a ≤ countOf s b := fun s => h.countP_le _
  have hhigh := hcount .high
  have hmedium := hcount .medium
  have hlow := hcount .low
  rw [itemScore_eq, itemScore_eq]
  omega

theorem itemScore_eq_hundred_iff (items : List Item) :
    itemScore items = 100 ↔ ∀ i ∈ items, ∀ s, ¬ i.Has s := by
  have hzero : ∀ s, countOf s items = 0 ↔ ∀ i ∈ items, ¬ i.Has s := by
    intro s
    simp only [countOf, List.countP_eq_zero, decide_eq_true_eq, Item.severity?_eq_some_iff]
  rw [itemScore_eq]
  constructor
  · intro h i hi s
    have hcount : countOf s items = 0 := by
      cases s <;> omega
    exact (hzero s).mp hcount i hi
  · intro h
    rw [(hzero .high).mpr fun i hi => h i hi _, (hzero .medium).mpr fun i hi => h i hi _,
      (hzero .low).mpr fun i hi => h i hi _]

/-! ## Findings as data -/

/-- A JSON value as an item: an object is a mapping, and all else has no severity. -/
def Item.ofJson (v : Json) : Item :=
  match v with
  | .object _ => .mapping ((v.field? "severity").map .raw)
  | _ => .other

theorem severity?_ofJson_toJson (f : Finding) : (Item.ofJson f.toJson).severity? = some f.severity :=
  Severity.ofLabel?_label f.severity

/-- **Scores of lists.** A score is 100 less 20, 10 or 5 for each item of high, medium or low severity, and not less
than 0. Joining lists takes off what either loses; the order of the items does not matter; no item added makes the
score rise; it is 100 exactly when no item has a severity that is known. Findings and their data have the same
score. -/
theorem itemScore_laws (a b : List Item) (findings : List Finding) :
    (itemScore a : ℤ) = max 0 (100 - (20 * countOf .high a + 10 * countOf .medium a + 5 * countOf .low a)) ∧
    (itemScore (a ++ b) : ℤ) = max 0 ((itemScore a : ℤ) + itemScore b - 100) ∧
    itemScore a ≤ 100 ∧
    (a.Perm b → itemScore a = itemScore b) ∧
    (a.Subperm b → itemScore b ≤ itemScore a) ∧
    (itemScore a = 100 ↔ ∀ i ∈ a, ∀ s, ¬ i.Has s) ∧
    healthScore findings = itemScore (findings.map fun f => .ofJson f.toJson) := by
  refine ⟨?_, itemScore_append a b, Nat.sub_le _ _, fun h => ?_, itemScore_le_of_subperm,
    itemScore_eq_hundred_iff a, itemScore_congr ?_⟩
  · rw [itemScore_eq]
    omega
  · exact Nat.le_antisymm (itemScore_le_of_subperm h.symm.subperm) (itemScore_le_of_subperm h.subperm)
  · rw [List.map_map, List.map_map]
    exact List.map_congr_left fun f _ => (severity?_ofJson_toJson f).symm

/-- Items of all kinds: five of them weigh 20, one of these given as a label, and a label in capitals weighs nothing. -/
theorem itemScore_laws_mixed :
    let severe : List Item := List.replicate 3 (.finding { severity := .high })
    let labels : List Item := [.mapping (some (.raw (.ofString "high"))), .mapping (some (.level .high)),
      .mapping (some (.raw (.ofString "HIGH"))), .mapping (some (.raw .null)), .mapping none, .other]
    itemScore severe = 40 ∧ itemScore labels = 60 ∧ (itemScore (severe ++ labels) : ℤ) = max 0 (40 + 60 - 100) ∧
      (severe ++ labels).Perm (labels ++ severe) ∧ itemScore (severe ++ labels) = itemScore (labels ++ severe) ∧
      severe.Subperm (severe ++ labels) ∧ itemScore (severe ++ labels) ≤ itemScore severe := by
  intro severe labels
  have hperm : (severe ++ labels).Perm (labels ++ severe) := List.perm_append_comm
  have hsub : severe.Subperm (severe ++ labels) := (List.sublist_append_left _ _).subperm
  exact ⟨rfl, rfl, (itemScore_laws severe labels []).2.1, hperm,
    (itemScore_laws _ _ []).2.2.2.1 hperm, hsub, (itemScore_laws _ _ []).2.2.2.2.1 hsub⟩

end CodeSmell
