import Tabular.Proofs.Number.Rounding
import Tabular.Proofs.Value.Sameness
import Tabular.Value.Order

/-!
This module shows that keys which are the same have one identity, so that being the same is an
equivalence on the keys of mappings.
-/

namespace Tabular

/-! ## Identities of numbers -/

namespace Binary64

/-- A magnitude belongs to one rank. -/
theorem units_inj {rank other : Nat} (same : units rank = units other) : rank = other := by
  have rounded (rank : Nat) : nearestRank (units rank) unit = rank := nearestRank_exact unit_pos rfl
  rw [← rounded rank, same, rounded]

theorem units_eq_zero {rank : Nat} : units rank = 0 ↔ rank = 0 := by
  constructor
  · intro none
    by_contra positive
    exact (units_pos positive).ne' none
  · rintro rfl
    rfl

/-- A size in units belongs to one finite number, unless it is zero. -/
theorem signedUnits_eq {negative other : Bool} {rank least : Fin finiteCount} :
    signedUnits (.finite negative rank) = signedUnits (.finite other least) ↔
      (negative = other ∧ rank = least) ∨ (rank.val = 0 ∧ least.val = 0) := by
  have first : units rank = 0 ↔ rank.val = 0 := units_eq_zero
  have second : units least = 0 ↔ least.val = 0 := units_eq_zero
  have injective : units rank = units least ↔ rank = least :=
    ⟨fun same => Fin.ext (units_inj same), fun same => same ▸ rfl⟩
  rw [Fin.ext_iff] at *
  cases negative <;> cases other <;> simp only [signedUnits, Bool.false_eq_true, if_true, if_false,
    true_and, false_and, false_or, reduceCtorEq] <;> omega

end Binary64

/-- Numbers are known by their size in units, if they are finite. -/
abbrev NumberIdentity := Int ⊕ Binary64

namespace NumberIdentity

def ofInt (whole : Int) : NumberIdentity := .inl (whole * Binary64.unit)

def ofFloat (value : Binary64) : NumberIdentity :=
  match value with
  | .finite _ _ => .inl value.signedUnits
  | _ => .inr value

theorem ofInt_eq {first second : Int} : ofInt first = ofInt second ↔ first = second := by
  have positive := Binary64.unit_pos
  rw [ofInt, ofInt, Sum.inl.injEq, Int.mul_eq_mul_right_iff (by omega)]

theorem equalInt_iff {value : Binary64} {whole : Int} :
    value.equalInt whole = true ↔ ofFloat value = ofInt whole := by
  cases value with
  | finite negative rank =>
      rw [Binary64.equalInt, ofFloat, ofInt, Binary64.signedUnits, Sum.inl.injEq, beq_iff_eq]
  | _ => exact iff_of_false Bool.false_ne_true Sum.inr_ne_inl

theorem equal_iff {first second : Binary64} :
    first = second ∨ first.equal second = true ↔ ofFloat first = ofFloat second := by
  cases first <;> cases second <;>
    simp [Binary64.equal, Binary64.isNan, Binary64.isZero, ofFloat, Binary64.signedUnits_eq]

end NumberIdentity

/-! ## Identities of keys -/

/-- What keys have in common that are the same. A moment with an offset is known by its instant. -/
inductive KeyIdentity where
  | null
  | number (identity : NumberIdentity)
  | text (content : String)
  | bytes (content : List UInt8)
  | tuple (items : List KeyIdentity)
  | date (value : Date)
  | moment (identity : Moment ⊕ Int)

def Moment.identity (moment : Moment) : Moment ⊕ Int :=
  if moment.offset.isSome then .inr moment.microseconds else .inl moment

theorem Moment.same_iff {first second : Moment} :
    first.same second = true ↔ first.identity = second.identity := by
  unfold same identity
  cases first.offset <;> cases second.offset <;> simp

namespace Value

mutual

/-- This function gives the identity of a key. -/
def identity : Value → KeyIdentity
  | .null | .list _ | .map _ => .null
  | .bool value => .number (.ofInt (if value then 1 else 0))
  | .int value => .number (.ofInt value)
  | .float value => .number (.ofFloat value)
  | .text content => .text content
  | .bytes content => .bytes content
  | .tuple items => .tuple (identities items)
  | .date value => .date value
  | .moment value => .moment value.identity

def identities : List Value → List KeyIdentity
  | [] => []
  | item :: rest => identity item :: identities rest

end

mutual

/-- What is the same as a key is a key of the same identity. -/
theorem same_iff : ∀ {key : Value}, key.isKey = true → ∀ {other : Value},
    same key other = true ↔ other.isKey = true ∧ key.identity = other.identity
  | .tuple items, key, other => by
      have keys : areKeys items = true := by rwa [isKey] at key
      cases other with
      | tuple others =>
          rw [same, isKey, sameItems_iff keys, identity, identity, KeyIdentity.tuple.injEq]
      | _ => simp [same, sameNumber, integer?, identity, isKey]
  | .null, _, other | .bool _, _, other | .int _, _, other | .float _, _, other
  | .text _, _, other | .bytes _, _, other | .date _, _, other | .moment _, _, other => by
      cases other <;> simp [same, sameNumber, integer?, identity, isKey, NumberIdentity.ofInt_eq,
        NumberIdentity.equalInt_iff, NumberIdentity.equal_iff, Moment.same_iff,
        @eq_comm _ (NumberIdentity.ofInt _) (NumberIdentity.ofFloat _)]

theorem sameItems_iff : ∀ {keys : List Value}, areKeys keys = true → ∀ {others : List Value},
    sameItems keys others = true ↔ areKeys others = true ∧ identities keys = identities others
  | [], _, others => by cases others <;> simp [sameItems, areKeys, identities]
  | key :: rest, keys, others => by
      rw [areKeys, Bool.and_eq_true] at keys
      cases others with
      | nil => simp [sameItems, identities]
      | cons other others =>
          rw [sameItems, areKeys, Bool.and_eq_true, Bool.and_eq_true, same_iff keys.1,
            sameItems_iff keys.2, identities, identities, List.cons.injEq, and_and_and_comm]

end

/-- Two keys that are the same are the same as the same values. -/
theorem same_congr {key other : Value} (isKey : key.isKey = true) (same : key.same other = true)
    (value : Value) : key.same value = other.same value := by
  obtain ⟨otherIsKey, identity⟩ := (same_iff isKey).mp same
  rw [Bool.eq_iff_iff, same_iff isKey, same_iff otherIsKey, identity]

theorem same_comm {key other : Value} (isKey : key.isKey = true) (otherIsKey : other.isKey = true) :
    key.same other = other.same key := by
  rw [Bool.eq_iff_iff, same_iff isKey, same_iff otherIsKey]
  exact ⟨fun both => ⟨isKey, both.2.symm⟩, fun both => ⟨otherIsKey, both.2.symm⟩⟩

end Value

end Tabular
