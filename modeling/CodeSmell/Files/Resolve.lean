import CodeSmell.Files.Tree

/-!
# Resolved paths

A path is resolved when its links are replaced by what they lead to. Names that lead nowhere are kept,
and there may be any number of links. A link that leads back to itself cannot be replaced: the path
then ends there, and the rest of it is kept as it is written.

* `KnownLinks`: what is known about the links on the way;
* `PathEnd`: a place, or a link that leads back to itself;
* `FileTree.resolve`: the place that a path is resolved to.
-/

namespace CodeSmell

mutual

def Node.linkCount : Node → Nat
  | .link _ => 1
  | .directory entries => Node.linkCountOf entries
  | _ => 0

def Node.linkCountOf : List (Text × Node) → Nat
  | [] => 0
  | (_, node) :: rest => Node.linkCount node + Node.linkCountOf rest

end

/-- Links by their places, with the places they lead to. There is no such place yet for a link that is
just being resolved. -/
abbrev KnownLinks := List (List Text × Option (List Text))

/-- Where a path ends: at a place, or at a link that leads back to itself, followed by names. -/
inductive PathEnd where
  | place (names : List Text)
  | circle (names : List Text)
deriving DecidableEq, Repr

namespace PathEnd

def names : PathEnd → List Text
  | place ns => ns
  | circle ns => ns

end PathEnd

/-- Puts the rest of a path after a place. A rest that begins with a slash starts from the root. -/
def goOn (place rest : List Text) : List Text :=
  if rest.head? = some [] ∧ 1 < rest.length then rest else place ++ rest

/-- The place without names that stand for itself or for what is above it. -/
def plainPlace (names : List Text) : List Text :=
  names.foldl
    (fun place name =>
      if name = [] ∨ name = ['.'] then place
      else if name = ['.', '.'] then place.dropLast
      else place ++ [name])
    []

namespace FileTree

/-- Goes from the place `here`, which is resolved, along `names`. Links stand in each other at most
`depth` deep. -/
def resolveFrom (t : FileTree) (depth : Nat) (known : KnownLinks) (here : List Text) :
    (names : List Text) → KnownLinks × PathEnd
  | [] => (known, .place here)
  | name :: rest =>
    if name = [] ∨ name = ['.'] then resolveFrom t depth known here rest
    else if name = ['.', '.'] then resolveFrom t depth known here.dropLast rest
    else
      match t.root.find? (here ++ [name]) with
      | some (.link target) =>
        match known.lookup (here ++ [name]) with
        | some (some place) => resolveFrom t depth known place rest
        | some none => (known, .circle (goOn (here ++ [name]) rest))
        | none =>
          match depth with
          | 0 => (known, .circle (goOn (here ++ [name]) rest))
          | depth + 1 =>
            match resolveFrom t depth ((here ++ [name], none) :: known) (startOf here target)
                (Text.splitOn '/' target) with
            | (known, .place place) =>
              resolveFrom t (depth + 1) ((here ++ [name], some place) :: known) place rest
            | (known, .circle names) => (known, .circle (goOn names rest))
      | _ => resolveFrom t depth known (here ++ [name]) rest
termination_by names => (depth, names.length)

def resolve (t : FileTree) (path : Text) : List Text :=
  plainPlace (t.resolveFrom t.root.linkCount [] (startOf t.workingDirectory path)
    (path.splitOn '/')).2.names

end FileTree

end CodeSmell
