import NtpQuery.Mapping
import NtpQuery.Number
import NtpQuery.Text.Numeral

/-!
# JSON values

Records of queries are JSON objects. Members keep the order in which they were
written, numbers keep the difference between whole and real. A whole number of
too many digits can be neither written nor read.
-/

namespace NtpQuery

inductive Json where
  | null
  | bool (b : Bool)
  | number (n : Number)
  | text (s : String)
  | list (items : List Json)
  | object (members : List (String × Json))
  deriving Repr, Inhabited

namespace Json

def whole (n : Int) : Json := .number (.whole n)

def real (x : Binary64) : Json := .number (.real x)

/-- The member of that name; none for a value that is no object. -/
def member? (name : String) : Json → Option Json
  | .object members => Mapping.get? name members
  | _ => none

def isNull : Json → Bool
  | .null => true
  | _ => false

/-- A value used as a number, where a truth value counts as 0 or 1. -/
def number? : Json → Option Number
  | .number n => some n
  | .bool b => some (.whole b.toNat)
  | _ => none

/-- Whether two values that are no containers are the same. Numbers are compared by
value, truth values among them. What is not a number is the same as itself. -/
def sameScalar (a b : Json) : Bool :=
  match a, b with
  | .null, .null => true
  | .text s, .text t => s = t
  | .number (.real .nan), .number (.real .nan) => true
  | a, b =>
    match a.number?, b.number? with
    | some x, some y => x.sameValue y
    | _, _ => false

mutual

/-- Whether two values are the same. The order of the members of an object says nothing. -/
def same : Json → Json → Bool
  | .list items, .list others => sameItems items others
  | .object members, .object others =>
    members.length = others.length && sameMembers members others
  | a, b => sameScalar a b

def sameItems : List Json → List Json → Bool
  | [], [] => true
  | a :: rest, b :: others => same a b && sameItems rest others
  | _, _ => false

/-- Whether each of the members is the same as the one of its name among others. -/
def sameMembers : List (String × Json) → List (String × Json) → Bool
  | [], _ => true
  | (name, a) :: rest, others =>
    (match Mapping.get? name others with
      | some b => same a b
      | none => false) && sameMembers rest others

end

mutual

/-- Whether all numbers in a value are finite. -/
def isFinite : Json → Bool
  | .number (.real x) => x.isFinite
  | .list items => areFinite items
  | .object members => membersAreFinite members
  | _ => true

def areFinite : List Json → Bool
  | [] => true
  | item :: rest => isFinite item && areFinite rest

def membersAreFinite : List (String × Json) → Bool
  | [] => true
  | (_, item) :: rest => isFinite item && membersAreFinite rest

end

mutual

/-- The whole numbers in a value. -/
def wholes : Json → List Int
  | .number (.whole n) => [n]
  | .list items => itemWholes items
  | .object members => memberWholes members
  | _ => []

def itemWholes : List Json → List Int
  | [] => []
  | item :: rest => wholes item ++ itemWholes rest

def memberWholes : List (String × Json) → List Int
  | [] => []
  | (_, item) :: rest => wholes item ++ memberWholes rest

end

/-- Whether no whole number in a value has more digits than a text may have. -/
def isWritable (j : Json) : Bool :=
  j.wholes.all fun n => n.natAbs < Nat.pow 10 Text.Numeral.maxDigits

end Json

end NtpQuery
