import Patchbay.Number.Shortest
import Patchbay.Table

namespace Patchbay

/-- A number of a JSON text. Whole numbers of 64 bits, with or without a sign, are kept
exactly; `1` and `1.0` are different numbers. -/
inductive Number where
  | integer (i : Int) (fits : -0x8000000000000000 ≤ i ∧ i < 0x10000000000000000)
  | float (x : Binary64)
deriving DecidableEq

namespace Number

def ofNat? (n : Nat) : Option Number :=
  if h : n < 0x10000000000000000 then some (.integer n (by omega)) else none

def natural? : Number → Option Nat
  | integer i _ => if 0 ≤ i then some i.toNat else none
  | float _ => none

def toBinary64 : Number → Binary64
  | integer i _ => (Binary64.ofInt? i).getD default
  | float x => x

def isZero : Number → Bool
  | integer i _ => i == 0
  | float x => x.isZero

/-- Floats are positional from `0.00001` up to sixteen digits before the point. -/
def layout : DecimalLayout :=
  { leastPositional := -5, mostPositional := 15 }

def numeral : Number → Numeral
  | integer i _ => .ofInt i
  | float x => layout.numeral (if x.negative then .minus else .absent) x.shortest

def text (n : Number) : String :=
  String.ofList n.numeral.text

end Number

inductive Json where
  | null
  | bool (b : Bool)
  | number (n : Number)
  | string (s : String)
  | array (items : List Json)
  | object (members : List (String × Json))

namespace Json

mutual

def same : Json → Json → Bool
  | null, null => true
  | bool a, bool b => a == b
  | number a, number b => decide (a = b)
  | string a, string b => decide (a = b)
  | array a, array b => sameItems a b
  | object a, object b => sameMembers a b
  | _, _ => false

def sameItems : List Json → List Json → Bool
  | [], [] => true
  | a :: as, b :: bs => same a b && sameItems as bs
  | _, _ => false

def sameMembers : List (String × Json) → List (String × Json) → Bool
  | [], [] => true
  | (k, a) :: as, (l, b) :: bs => decide (k = l) && same a b && sameMembers as bs
  | _, _ => false

end

mutual

theorem same_iff (a b : Json) : same a b ↔ a = b := by
  cases a <;> cases b <;> simp [same, sameItems_iff, sameMembers_iff]

theorem sameItems_iff (as bs : List Json) : sameItems as bs ↔ as = bs := by
  cases as <;> cases bs <;> simp [sameItems, same_iff, sameItems_iff]

theorem sameMembers_iff (as bs : List (String × Json)) : sameMembers as bs ↔ as = bs := by
  match as, bs with
  | [], [] => simp [sameMembers]
  | [], _ :: _ => simp [sameMembers]
  | _ :: _, [] => simp [sameMembers]
  | (k, a) :: as, (l, b) :: bs => simp [sameMembers, same_iff, sameMembers_iff, and_assoc]

end

instance : DecidableEq Json := fun a b => decidable_of_iff _ (same_iff a b)

mutual

def isCanonical : Json → Bool
  | array items => allCanonical items
  | object members =>
      decide (members.Pairwise fun a b => a.1 < b.1) && membersCanonical members
  | _ => true

def allCanonical : List Json → Bool
  | [] => true
  | item :: rest => isCanonical item && allCanonical rest

def membersCanonical : List (String × Json) → Bool
  | [] => true
  | (_, value) :: rest => isCanonical value && membersCanonical rest

end

end Json

/-- A JSON value that is kept. Its objects are sorted by key, so equal values look alike. -/
structure Value where
  json : Json
  canonical : json.isCanonical
deriving DecidableEq

abbrev Record := Table Value

namespace Value

def null : Value := ⟨.null, rfl⟩

def bool (b : Bool) : Value := ⟨.bool b, rfl⟩

def number (n : Number) : Value := ⟨.number n, rfl⟩

def string (s : String) : Value := ⟨.string s, rfl⟩

theorem allCanonical_json (items : List Value) : Json.allCanonical (items.map (·.json)) := by
  induction items with
  | nil => rfl
  | cons item rest ih => simp [Json.allCanonical, item.canonical, ih]

theorem membersCanonical_json (members : List (String × Value)) :
    Json.membersCanonical (members.map fun member => (member.1, member.2.json)) := by
  induction members with
  | nil => rfl
  | cons member rest ih => simp [Json.membersCanonical, member.2.canonical, ih]

def array (items : List Value) : Value :=
  ⟨.array (items.map (·.json)), by
    simpa only [Json.isCanonical] using allCanonical_json items⟩

def object (record : Record) : Value :=
  ⟨.object (record.entries.map fun member => (member.1, member.2.json)), by
    simp only [Json.isCanonical, Bool.and_eq_true, decide_eq_true_eq]
    exact ⟨List.pairwise_map.2 record.sorted, membersCanonical_json record.entries⟩⟩

def isNull (value : Value) : Bool :=
  match value.json with
  | .null => true
  | _ => false

end Value

end Patchbay
