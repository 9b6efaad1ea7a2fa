import Tabular.Calendar

/-!
This module holds the dynamic values of declarations, filters, rows and parameters, their equality
and the mappings that keep their entries in order of arrival.
-/

namespace Tabular

/-- A dynamic value. A mapping lists its entries in the order in which their keys arrived. -/
inductive Value where
  | null
  | bool (value : Bool)
  | int (value : Int)
  | float (value : Binary64)
  | text (value : String)
  | bytes (value : List UInt8)
  | list (items : List Value)
  | tuple (items : List Value)
  | map (entries : List (Value × Value))
  | date (value : Date)
  | moment (value : Moment)
  deriving Inhabited, Repr

namespace Value

/-- This function gives the integer that a whole number or a truth value stands for. -/
def integer? : Value → Option Int
  | .bool value => some (if value then 1 else 0)
  | .int value => some value
  | _ => none

def isText : Value → Bool
  | .text _ => true
  | _ => false

def isMap : Value → Bool
  | .map _ => true
  | _ => false

def isNull : Value → Bool
  | .null => true
  | _ => false

def text? : Value → Option String
  | .text value => some value
  | _ => none

/-- Truth values, integers and floats are compared as numbers. A NaN is the same as itself here. -/
def sameNumber (first second : Value) : Bool :=
  match first.integer?, second.integer?, first, second with
  | some x, some y, _, _ => x == y
  | some x, none, _, .float y => y.equalInt x
  | none, some y, .float x, _ => x.equalInt y
  | none, none, .float x, .float y => x == y || x.equal y
  | _, _, _, _ => false

mutual

/-- This function compares two values. The order of the entries of a mapping does not count, and a
list differs from a tuple. -/
def same : Value → Value → Bool
  | .null, .null => true
  | .text x, .text y => x == y
  | .bytes x, .bytes y => x == y
  | .list xs, .list ys => sameItems xs ys
  | .tuple xs, .tuple ys => sameItems xs ys
  | .map xs, .map ys => xs.length == ys.length && sameEntries xs ys
  | .date x, .date y => x == y
  | .moment x, .moment y => x.same y
  | x, y => sameNumber x y

def sameItems : List Value → List Value → Bool
  | [], [] => true
  | x :: xs, y :: ys => same x y && sameItems xs ys
  | _, _ => false

/-- This function tells whether the second mapping has every entry of the first. -/
def sameEntries : List (Value × Value) → List (Value × Value) → Bool
  | [], _ => true
  | (key, x) :: rest, ys =>
      ys.any (fun entry => same key entry.1 && same x entry.2) && sameEntries rest ys

end

/-- This function tells which values are true where a truth value is asked for. -/
def isTrue : Value → Bool
  | .null => false
  | .bool value => value
  | .int value => value != 0
  | .float value => !value.isZero
  | .text value => value != ""
  | .bytes value => !value.isEmpty
  | .list items => !items.isEmpty
  | .tuple items => !items.isEmpty
  | .map entries => !entries.isEmpty
  | .date _ => true
  | .moment _ => true

mutual

/-- This function tells which values can be the key of a mapping. -/
def isKey : Value → Bool
  | .list _ => false
  | .map _ => false
  | .tuple items => areKeys items
  | _ => true

def areKeys : List Value → Bool
  | [] => true
  | item :: rest => isKey item && areKeys rest

end

/-- This function gives the values over which a loop runs: the items of a sequence, the keys of a
mapping, the characters of a text and the numbers of a byte string. -/
def elements? : Value → Option (List Value)
  | .list items => some items
  | .tuple items => some items
  | .map entries => some (entries.map Prod.fst)
  | .text value => some (value.toList.map fun c => .text (String.singleton c))
  | .bytes value => some (value.map fun byte => .int byte.toNat)
  | _ => none

/-- This is the name of a value's kind in messages. -/
def kind : Value → String
  | .null => "NoneType"
  | .bool _ => "bool"
  | .int _ => "int"
  | .float _ => "float"
  | .text _ => "str"
  | .bytes _ => "bytes"
  | .list _ => "list"
  | .tuple _ => "tuple"
  | .map _ => "dict"
  | .date _ => "date"
  | .moment _ => "datetime"

instance : Coe String Value := ⟨.text⟩

mutual

/-- This function decides whether two values are built in the same way. -/
def decideEqual : (x y : Value) → Decidable (x = y)
  | .null, .null => .isTrue rfl
  | .bool x, .bool y => decidable_of_iff (x = y) (by simp)
  | .int x, .int y => decidable_of_iff (x = y) (by simp)
  | .float x, .float y => decidable_of_iff (x = y) (by simp)
  | .text x, .text y => decidable_of_iff (x = y) (by simp)
  | .bytes x, .bytes y => decidable_of_iff (x = y) (by simp)
  | .list xs, .list ys =>
      match decideItems xs ys with
      | .isTrue equal => .isTrue (equal ▸ rfl)
      | .isFalse differ => .isFalse fun equal => differ (Value.list.inj equal)
  | .tuple xs, .tuple ys =>
      match decideItems xs ys with
      | .isTrue equal => .isTrue (equal ▸ rfl)
      | .isFalse differ => .isFalse fun equal => differ (Value.tuple.inj equal)
  | .map xs, .map ys =>
      match decideEntries xs ys with
      | .isTrue equal => .isTrue (equal ▸ rfl)
      | .isFalse differ => .isFalse fun equal => differ (Value.map.inj equal)
  | .date x, .date y => decidable_of_iff (x = y) (by simp)
  | .moment x, .moment y => decidable_of_iff (x = y) (by simp)
  | .null, .bool _ | .null, .int _ | .null, .float _ | .null, .text _ | .null, .bytes _
  | .null, .list _ | .null, .tuple _ | .null, .map _ | .null, .date _ | .null, .moment _
  | .bool _, .null | .bool _, .int _ | .bool _, .float _ | .bool _, .text _ | .bool _, .bytes _
  | .bool _, .list _ | .bool _, .tuple _ | .bool _, .map _ | .bool _, .date _
  | .bool _, .moment _
  | .int _, .null | .int _, .bool _ | .int _, .float _ | .int _, .text _ | .int _, .bytes _
  | .int _, .list _ | .int _, .tuple _ | .int _, .map _ | .int _, .date _ | .int _, .moment _
  | .float _, .null | .float _, .bool _ | .float _, .int _ | .float _, .text _
  | .float _, .bytes _ | .float _, .list _ | .float _, .tuple _ | .float _, .map _
  | .float _, .date _ | .float _, .moment _
  | .text _, .null | .text _, .bool _ | .text _, .int _ | .text _, .float _ | .text _, .bytes _
  | .text _, .list _ | .text _, .tuple _ | .text _, .map _ | .text _, .date _
  | .text _, .moment _
  | .bytes _, .null | .bytes _, .bool _ | .bytes _, .int _ | .bytes _, .float _
  | .bytes _, .text _ | .bytes _, .list _ | .bytes _, .tuple _ | .bytes _, .map _
  | .bytes _, .date _ | .bytes _, .moment _
  | .list _, .null | .list _, .bool _ | .list _, .int _ | .list _, .float _ | .list _, .text _
  | .list _, .bytes _ | .list _, .tuple _ | .list _, .map _ | .list _, .date _
  | .list _, .moment _
  | .tuple _, .null | .tuple _, .bool _ | .tuple _, .int _ | .tuple _, .float _
  | .tuple _, .text _ | .tuple _, .bytes _ | .tuple _, .list _ | .tuple _, .map _
  | .tuple _, .date _ | .tuple _, .moment _
  | .map _, .null | .map _, .bool _ | .map _, .int _ | .map _, .float _ | .map _, .text _
  | .map _, .bytes _ | .map _, .list _ | .map _, .tuple _ | .map _, .date _ | .map _, .moment _
  | .date _, .null | .date _, .bool _ | .date _, .int _ | .date _, .float _ | .date _, .text _
  | .date _, .bytes _ | .date _, .list _ | .date _, .tuple _ | .date _, .map _
  | .date _, .moment _
  | .moment _, .null | .moment _, .bool _ | .moment _, .int _ | .moment _, .float _
  | .moment _, .text _ | .moment _, .bytes _ | .moment _, .list _ | .moment _, .tuple _
  | .moment _, .map _ | .moment _, .date _ => .isFalse nofun

def decideItems : (xs ys : List Value) → Decidable (xs = ys)
  | [], [] => .isTrue rfl
  | [], _ :: _ => .isFalse nofun
  | _ :: _, [] => .isFalse nofun
  | x :: xs, y :: ys =>
      match decideEqual x y, decideItems xs ys with
      | .isTrue first, .isTrue rest => .isTrue (first ▸ rest ▸ rfl)
      | .isFalse differ, _ => .isFalse fun equal => differ (List.cons.inj equal).1
      | _, .isFalse differ => .isFalse fun equal => differ (List.cons.inj equal).2

def decideEntries : (xs ys : List (Value × Value)) → Decidable (xs = ys)
  | [], [] => .isTrue rfl
  | [], _ :: _ => .isFalse nofun
  | _ :: _, [] => .isFalse nofun
  | (key, x) :: xs, (other, y) :: ys =>
      match decideEqual key other, decideEqual x y, decideEntries xs ys with
      | .isTrue keys, .isTrue values, .isTrue rest => .isTrue (keys ▸ values ▸ rest ▸ rfl)
      | .isFalse differ, _, _ => .isFalse fun equal => differ (Prod.mk.inj (List.cons.inj equal).1).1
      | _, .isFalse differ, _ => .isFalse fun equal => differ (Prod.mk.inj (List.cons.inj equal).1).2
      | _, _, .isFalse differ => .isFalse fun equal => differ (List.cons.inj equal).2

end

instance : DecidableEq Value := decideEqual

example : same (.int 1) (.bool true) = true ∧ same (.list [.null]) (.tuple [.null]) = false := by
  decide

end Value

/-- A mapping from dynamic keys, in the order in which the keys arrived. -/
abbrev Keyed (α : Type) := List (Value × α)

namespace Keyed

variable {α : Type}

/-- This function finds the entry of a key. -/
def get? (entries : Keyed α) (key : Value) : Option α :=
  (entries.find? fun entry => key.same entry.1).map Prod.snd

def has (entries : Keyed α) (key : Value) : Bool := entries.any fun entry => key.same entry.1

def keys (entries : Keyed α) : List Value := entries.map Prod.fst

/-- This function sets an entry. A key that is present keeps its place and its form. -/
def put (entries : Keyed α) (key : Value) (value : α) : Keyed α :=
  match entries with
  | [] => [(key, value)]
  | entry :: rest => if key.same entry.1 then (entry.1, value) :: rest else entry :: put rest key value

/-- This function sets the entries of the second mapping in the first. -/
def merge (first second : Keyed α) : Keyed α :=
  second.foldl (fun entries entry => put entries entry.1 entry.2) first

def ofEntries (entries : List (Value × α)) : Keyed α := merge [] entries

/-- This function tells whether two mappings have the same keys. -/
def sameKeys {β : Type} (first : Keyed α) (second : Keyed β) : Bool :=
  first.all (fun entry => has second entry.1) && second.all (fun entry => has first entry.1)

end Keyed

/-- A row maps column names to values. -/
abbrev Row := Keyed Value

end Tabular
