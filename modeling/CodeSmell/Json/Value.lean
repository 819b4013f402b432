import CodeSmell.Decimal.Basic

/-!
# Values of the JSON data model

* `Json`: values, objects keeping the order of their fields;
* `Json.field?`: the value of a field;
* `Json.isFinite`: whether all numbers in a value are finite.
-/

namespace CodeSmell

/-- Values of the JSON data model. Numbers written without fraction and exponent are integers. -/
inductive Json where
  | null
  | bool (b : Bool)
  | integer (n : Int)
  | decimal (d : Decimal)
  | nonFinite (name : Text)
  | text (t : Text)
  | list (items : List Json)
  | object (fields : List (Text × Json))
deriving Repr, Inhabited

namespace Json

def ofString (s : String) : Json :=
  text s.toList

def ofNat (n : Nat) : Json :=
  integer n

/-- An object whose field names are literals. -/
def record (fields : List (String × Json)) : Json :=
  object (fields.map fun (k, v) => (k.toList, v))

def field? (v : Json) (name : String) : Option Json :=
  match v with
  | object fields => fields.lookup name.toList
  | _ => none

def text? : Json → Option Text
  | text t => some t
  | _ => none

def integer? : Json → Option Int
  | integer n => some n
  | _ => none

def ofOption {α : Type} (f : α → Json) : Option α → Json
  | none => null
  | some a => f a

mutual

/-- Whether all numbers in a value are finite. -/
def isFinite : Json → Bool
  | nonFinite _ => false
  | list items => areFinite items
  | object fields => haveFinite fields
  | _ => true

def areFinite : List Json → Bool
  | [] => true
  | v :: vs => isFinite v && areFinite vs

def haveFinite : List (Text × Json) → Bool
  | [] => true
  | (_, v) :: fs => isFinite v && haveFinite fs

end

/-- Sets the field `name`: an earlier one keeps its place and takes the new value. -/
def setField (name : Text) (v : Json) (fields : List (Text × Json)) : List (Text × Json) :=
  if fields.any (·.1 = name) then fields.map fun f => if f.1 = name then (name, v) else f
  else fields ++ [(name, v)]

end Json

end CodeSmell
