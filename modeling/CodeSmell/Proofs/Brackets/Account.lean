import CodeSmell.Scan.Brackets
import Mathlib.Data.List.Basic
import Mathlib.Data.List.Induction
import Mathlib.Tactic.Common

/-!
# Accounts of brackets

A scan matches brackets line by line and keeps of each open bracket what its finding will need. Here
the same matching is told for any word of characters that carry tags.

* `Account.read`, `account` : reading one tagged character, and a word of them;
* `Account.Step` : all that reading a character can do;
* `reverse_opened_sublist` : the open brackets keep the order of the word;
* `account_map`, `account_filter` : tags may be renamed, and characters that are no brackets left out.
-/

namespace CodeSmell.Bracket

/-! ## Brackets -/

def isBracket (c : Char) : Bool :=
  isOpener c || (opener? c).isSome

theorem opener?_of_isOpener {c : Char} (h : isOpener c = true) : opener? c = none := by
  simp only [isOpener, Bool.or_eq_true, beq_iff_eq] at h
  rcases h with (rfl | rfl) | rfl <;> rfl

theorem isOpener_eq_false {c o : Char} (h : opener? c = some o) : isOpener c = false := by
  rw [Bool.eq_false_iff]
  intro hop
  rw [opener?_of_isOpener hop] at h
  cases h

theorem isOpener_of_opener? {c o : Char} (h : opener? c = some o) : isOpener o = true := by
  unfold opener? at h
  split at h
  · cases h; rfl
  · cases h; rfl
  · cases h; rfl
  · cases h

/-! ## Accounts -/

/-- An account of the brackets read so far: the open ones, the innermost first, the closers that were
found stray and the tags of the pairs that were closed, both last first. -/
structure Account (α : Type) where
  opened : List (Char × α) := []
  stray : List (Char × α) := []
  pairs : List (α × α) := []

variable {α β : Type}

namespace Account

def read (a : Account α) (p : Char × α) : Account α :=
  if isOpener p.1 then { a with opened := p :: a.opened }
  else
    match opener? p.1 with
    | none => a
    | some o =>
      match a.opened with
      | [] => { a with stray := p :: a.stray }
      | top :: below =>
        if top.1 = o then { a with opened := below, pairs := (top.2, p.2) :: a.pairs }
        else { a with stray := p :: a.stray }

/-- What reading the character `p` can do to the account `a`. -/
inductive Step (a : Account α) (p : Char × α) : Account α → Prop
  | other : isBracket p.1 = false → Step a p a
  | opens : isOpener p.1 = true → Step a p { a with opened := p :: a.opened }
  | closes {top : Char × α} {below : List (Char × α)} :
      opener? p.1 = some top.1 → a.opened = top :: below →
      Step a p { a with opened := below, pairs := (top.2, p.2) :: a.pairs }
  | strays {o : Char} : opener? p.1 = some o → (∀ top ∈ a.opened.head?, top.1 ≠ o) →
      Step a p { a with stray := p :: a.stray }

theorem step_read (a : Account α) (p : Char × α) : Step a p (a.read p) := by
  unfold read
  split_ifs with hop
  · exact .opens hop
  · split
    · rename_i hnone
      exact .other (by simp [isBracket, hop, hnone])
    · rename_i o ho
      split
      · rename_i hnil
        exact .strays ho (by simp [hnil])
      · rename_i top below hcons
        split_ifs with htop
        · exact .closes (htop ▸ ho) hcons
        · exact .strays ho (by simpa [hcons] using htop)

theorem read_other {a : Account α} {p : Char × α} (h : isBracket p.1 = false) : a.read p = a := by
  simp only [isBracket, Bool.or_eq_false_iff, Option.isSome_eq_false_iff, Option.isNone_iff_eq_none] at h
  simp [read, h.1, h.2]

theorem read_opens {a : Account α} {p : Char × α} (h : isOpener p.1 = true) :
    a.read p = { a with opened := p :: a.opened } := by
  simp [read, h]

theorem read_closes {a : Account α} {p top : Char × α} {below : List (Char × α)}
    (h : opener? p.1 = some top.1) (ha : a.opened = top :: below) :
    a.read p = { a with opened := below, pairs := (top.2, p.2) :: a.pairs } := by
  simp [read, isOpener_eq_false h, h, ha]

/-- A character that is read comes on top if it is an opener, and nothing else does. -/
theorem reverse_opened_read_sublist (a : Account α) (p : Char × α) :
    (a.read p).opened.reverse.Sublist (a.opened.reverse ++ [p].filter (isOpener ·.1)) := by
  have hstep := step_read a p
  generalize a.read p = b at hstep
  cases hstep with
  | other _ => exact List.sublist_append_left _ _
  | opens hp => simp [hp]
  | closes _ ha =>
    rw [ha, List.reverse_cons, List.append_assoc]
    exact List.sublist_append_left _ _
  | strays _ _ => exact List.sublist_append_left _ _

def map (f : α → β) (a : Account α) : Account β where
  opened := a.opened.map (Prod.map id f)
  stray := a.stray.map (Prod.map id f)
  pairs := a.pairs.map (Prod.map f f)

theorem map_read (f : α → β) (a : Account α) (p : Char × α) :
    (a.map f).read (Prod.map id f p) = (a.read p).map f := by
  unfold read
  simp only [Prod.map_fst, id_eq]
  split_ifs with hop
  · rfl
  · cases hc : opener? p.1 with
    | none => rfl
    | some o =>
      cases ha : a.opened with
      | nil => simp [map, ha]
      | cons top below => by_cases htop : top.1 = o <;> simp [map, ha, htop]

end Account

def account (w : List (Char × α)) : Account α :=
  w.foldl Account.read {}

theorem account_concat (w : List (Char × α)) (p : Char × α) :
    account (w ++ [p]) = (account w).read p := by
  rw [account, List.foldl_append, List.foldl_cons, List.foldl_nil, ← account]

/-- From the bottom up, the open brackets are some of the openers of the word, in their order. -/
theorem reverse_opened_sublist (w : List (Char × α)) :
    (account w).opened.reverse.Sublist (w.filter (isOpener ·.1)) := by
  induction w using List.reverseRecOn with
  | nil => exact List.Sublist.refl _
  | append_singleton w p ih =>
    rw [account_concat, List.filter_append]
    exact (Account.reverse_opened_read_sublist _ p).trans (ih.append_right _)

/-- What is open is an opener of the word. -/
theorem mem_of_mem_opened {w : List (Char × α)} {q : Char × α} (h : q ∈ (account w).opened) :
    q ∈ w ∧ isOpener q.1 = true := by
  rw [← List.mem_reverse] at h
  exact List.mem_filter.mp ((reverse_opened_sublist w).subset h)

theorem account_map (f : α → β) (w : List (Char × α)) :
    account (w.map (Prod.map id f)) = (account w).map f := by
  have key : ∀ a : Account α, (w.map (Prod.map id f)).foldl Account.read (a.map f) =
      (w.foldl Account.read a).map f := by
    induction w with
    | nil => intro a; rfl
    | cons p w ih =>
      intro a
      rw [List.map_cons, List.foldl_cons, List.foldl_cons, Account.map_read, ih]
  exact key {}

theorem foldl_read_filter (w : List (Char × α)) (a : Account α) :
    (w.filter (isBracket ·.1)).foldl Account.read a = w.foldl Account.read a := by
  induction w generalizing a with
  | nil => rfl
  | cons p w ih =>
    rw [List.filter_cons, List.foldl_cons]
    split_ifs with hp
    · rw [List.foldl_cons, ih]
    · rw [Account.read_other (Bool.eq_false_iff.mpr hp), ih]

theorem account_filter (w : List (Char × α)) : account (w.filter (isBracket ·.1)) = account w :=
  foldl_read_filter w {}

end CodeSmell.Bracket
