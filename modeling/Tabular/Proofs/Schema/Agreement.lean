import Mathlib.Data.List.Perm.Subperm
import Tabular.Proofs.Outcome
import Tabular.Proofs.Value.Sameness
import Tabular.Schema.Drift

/-!
This module tells when a table agrees with its declaration. Where the columns are the same, only the
foreign keys decide, and each stored one is compared with the first declared one on its columns.
-/

namespace Tabular

/-! ## Columns -/

namespace Schema

/-- A declared column and a stored one are the same. -/
structure MatchingColumn (declared actual : Schema) (entry : Value × Column) (old : Column) :
    Prop where
  storage : old.storage = entry.2.storage
  notNull : declared.isNotNull entry.1 entry.2 = actual.isNotNull entry.1 old
  default : ∃ expected found, DefaultKey.ofValue entry.2.default = .ok expected ∧
    DefaultKey.ofValue old.default = .ok found ∧ expected.same found = true

/-- Two tables have the same columns in any order. -/
structure SameColumns (declared actual : Schema) : Prop where
  texts : ∀ name ∈ declared.columns.keys, ∃ content, name = Value.text content
  keys : declared.columns.keys.Perm actual.columns.keys
  each : ∀ entry ∈ declared.columns, ∃ old, actual.columns.get? entry.1 = some old ∧
    MatchingColumn declared actual entry old

theorem SameColumns.columnsAgree_ok {declared actual : Schema} (same : SameColumns declared actual)
    {columns : Keyed Column} (among : ∀ entry ∈ columns, entry ∈ declared.columns) :
    columnsAgree declared actual columns = .ok true := by
  induction columns with
  | nil => rfl
  | cons entry rest inductionHypothesis =>
      obtain ⟨member, amongRest⟩ := List.forall_mem_cons.mp among
      obtain ⟨old, get, matching⟩ := same.each entry member
      obtain ⟨expected, found, expectedDone, foundDone, agree⟩ := matching.default
      rw [columnsAgree, get]
      simp only [matching.storage, ne_eq, not_true_eq_false, if_false, matching.notNull,
        bne_self_eq_false, Bool.false_eq_true, expectedDone, foundDone, Outcome.ok_bind, agree,
        if_true]
      exact inductionHypothesis amongRest

/-- Where the columns are the same, the foreign keys decide. -/
theorem SameColumns.agrees_eq {declared actual : Schema} (same : SameColumns declared actual) :
    declared.agrees actual =
      if actual.foreignKeys.length ≠ declared.foreignKeys.length then .ok false
      else foreignKeysAgree declared.foreignKeys actual.foreignKeys := by
  rw [agrees, Keyed.sameKeys_perm same.keys same.texts,
    same.columnsAgree_ok fun entry member => member]
  rfl

end Schema

/-! ## Foreign keys -/

/-- What a foreign key on one table says. The name of the table is written small. -/
structure Reference where
  source : List String
  table : String
  target : List String
  deriving DecidableEq

structure ForeignKey.Refers (key : ForeignKey) (reference : Reference) : Prop where
  source : key.sourceColumns = .ok (reference.source.map Value.text)
  table : ∃ name, key.table = .ok (.text name) ∧ Text.lower name = reference.table
  target : key.targetColumns = .ok (reference.target.map Value.text)

namespace Reference

/-- The first reference on the same columns. -/
def counterpart? (references : List Reference) (wanted : Reference) : Option Reference :=
  references.find? fun reference => reference.source = wanted.source

/-- No two references on the same columns differ. -/
def SingleSourced (references : List Reference) : Prop :=
  ∀ first ∈ references, ∀ second ∈ references, first.source = second.source → first = second

instance (references : List Reference) : Decidable (SingleSourced references) :=
  inferInstanceAs (Decidable (∀ first ∈ references, ∀ second ∈ references, _ → _))

theorem counterpart?_mem {references : List Reference} {wanted found : Reference}
    (done : counterpart? references wanted = some found) :
    found ∈ references ∧ found.source = wanted.source := by
  have same := List.find?_some done
  exact ⟨List.mem_of_find?_eq_some done, of_decide_eq_true same⟩

/-- A reference has a counterpart on its columns. -/
theorem counterpart?_of_mem {references : List Reference} {wanted : Reference}
    (member : wanted ∈ references) :
    ∃ found, counterpart? references wanted = some found := by
  rw [← Option.isSome_iff_exists, counterpart?, List.find?_isSome]
  exact ⟨wanted, member, decide_eq_true rfl⟩

/-- Every reference is its own counterpart exactly where no two on the same columns differ. -/
theorem counterpart?_self_iff {references : List Reference} :
    (∀ wanted ∈ references, counterpart? references wanted = some wanted) ↔
      SingleSourced references := by
  constructor
  · intro each first firstMember second secondMember same
    have found := each second secondMember
    rw [counterpart?, ← same] at found
    exact Option.some.inj ((each first firstMember).symm.trans found)
  · intro single wanted member
    obtain ⟨found, done⟩ := counterpart?_of_mem member
    obtain ⟨inside, same⟩ := counterpart?_mem done
    rw [done, single found inside wanted member same]

end Reference

namespace Schema

open Reference

theorem sameItems_text (first second : List String) :
    Value.sameItems (first.map Value.text) (second.map Value.text) = decide (first = second) := by
  have texts : ∀ text ∈ second.map Value.text, ∃ content, text = Value.text content := by
    intro text member
    obtain ⟨content, -, rfl⟩ := List.mem_map.mp member
    exact ⟨content, rfl⟩
  rw [Bool.eq_iff_iff, Value.sameItems_texts texts, decide_eq_true_eq]
  exact List.map_injective_iff.mpr (fun _ _ => Value.text.inj) |>.eq_iff

theorem counterpart_eq {keys : List ForeignKey} {references : List Reference}
    (each : List.Forall₂ ForeignKey.Refers keys references) {old : ForeignKey} {wanted : Reference}
    (refers : old.Refers wanted) :
    ∃ found, counterpart old keys = .ok found ∧
      Option.Rel ForeignKey.Refers found (counterpart? references wanted) := by
  induction each with
  | nil => exact ⟨none, rfl, .none⟩
  | @cons key reference keys references first rest inductionHypothesis =>
      rw [counterpart, first.source, refers.source, counterpart?, List.find?_cons]
      simp only [Outcome.ok_bind, sameItems_text]
      cases decide (reference.source = wanted.source) with
      | true => exact ⟨some key, rfl, .some first⟩
      | false => exact inductionHypothesis

theorem sameTarget_eq {key old : ForeignKey} {found wanted : Reference} (refers : key.Refers found)
    (oldRefers : old.Refers wanted) (source : found.source = wanted.source) :
    sameTarget key old = .ok (decide (found = wanted)) := by
  obtain ⟨name, table, small⟩ := refers.table
  obtain ⟨oldName, oldTable, oldSmall⟩ := oldRefers.table
  have same : found = wanted ↔ found.table = wanted.table ∧ found.target = wanted.target := by
    obtain ⟨_, _, _⟩ := found
    obtain ⟨_, _, _⟩ := wanted
    simp_all
  rw [sameTarget, table, oldTable]
  simp only [Outcome.ok_bind, lowerName, pure_bind, small, oldSmall, refers.target,
    oldRefers.target, sameItems_text, same]
  by_cases tables : found.table = wanted.table
  · rw [if_neg (not_not_intro tables)]
    simp [tables]
    rfl
  · rw [if_pos tables]
    simp [tables]
    rfl

/-- Every stored foreign key is compared with the first declared one on its columns. -/
theorem foreignKeysAgree_eq {keys oldKeys : List ForeignKey} {references others : List Reference}
    (declared : List.Forall₂ ForeignKey.Refers keys references)
    (stored : List.Forall₂ ForeignKey.Refers oldKeys others) :
    foreignKeysAgree keys oldKeys =
      .ok (others.all fun wanted => counterpart? references wanted = some wanted) := by
  induction stored with
  | nil => rfl
  | @cons old wanted oldKeys others refers rest inductionHypothesis =>
      obtain ⟨found, done, same⟩ := counterpart_eq declared refers
      rw [foreignKeysAgree, done, List.all_cons]
      generalize looked : counterpart? references wanted = counterpart at same
      cases same with
      | none => rfl
      | @some key found keyRefers =>
          simp only [Outcome.ok_bind, sameTarget_eq keyRefers refers (counterpart?_mem looked).2,
            Option.some.injEq, inductionHypothesis]
          by_cases target : found = wanted
          · simp [target]
          · simp [target]
            rfl

/-- Where the columns are the same, as many foreign keys are stored as declared, and each stored one
is the first declared one on its columns. -/
theorem SameColumns.agrees_refers {declared actual : Schema} (same : SameColumns declared actual)
    {references others : List Reference}
    (refers : List.Forall₂ ForeignKey.Refers declared.foreignKeys references)
    (stored : List.Forall₂ ForeignKey.Refers actual.foreignKeys others) :
    declared.agrees actual = .ok (decide (others.length = references.length ∧
      ∀ wanted ∈ others, counterpart? references wanted = some wanted)) := by
  rw [same.agrees_eq, stored.length_eq, refers.length_eq, foreignKeysAgree_eq refers stored]
  split
  · next differ => simp [differ]
  · next equal => simp [not_not.mp equal, List.all_eq]

/-- Where the same foreign keys are stored in any order, the tables agree exactly when no two of them
differ on the same columns. -/
theorem counterparts_perm {references others : List Reference} (perm : references.Perm others) :
    (others.length = references.length ∧
      ∀ wanted ∈ others, counterpart? references wanted = some wanted) ↔
      SingleSourced references := by
  rw [← counterpart?_self_iff]
  constructor
  · exact fun both wanted member => both.2 wanted (perm.subset member)
  · intro each
    exact ⟨perm.length_eq.symm, fun wanted member => each wanted (perm.symm.subset member)⟩

/-- The verdict on tables with the same columns is always reached. Where the same foreign keys are
stored, it is true exactly when no two of them differ on the same columns. Where it is true and no
foreign key is stored twice, the same ones are stored. -/
theorem agrees_iff {declared actual : Schema} (same : SameColumns declared actual)
    {references others : List Reference}
    (refers : List.Forall₂ ForeignKey.Refers declared.foreignKeys references)
    (stored : List.Forall₂ ForeignKey.Refers actual.foreignKeys others) :
    ∃ verdict, declared.agrees actual = .ok verdict ∧
      (verdict = true ↔ others.length = references.length ∧
        ∀ wanted ∈ others, counterpart? references wanted = some wanted) ∧
      (references.Perm others → (verdict = true ↔ SingleSourced references)) ∧
      (others.Nodup → verdict = true → references.Perm others) := by
  refine ⟨_, same.agrees_refers refers stored, decide_eq_true_iff, fun perm => ?_,
    fun once agree => ?_⟩
  · rw [decide_eq_true_iff, counterparts_perm perm]
  · obtain ⟨lengths, each⟩ := of_decide_eq_true agree
    have among : others ⊆ references :=
      fun wanted member => (counterpart?_mem (each wanted member)).1
    exact ((once.subperm among).perm_of_length_le (Nat.le_of_eq lengths.symm)).symm

/-- Lines refer to an order and to an invoice by the same column. -/
def lines : Schema where
  name := .text "lines"
  columns := [(.text "ref", { storage := .integer })]
  foreignKeys := [⟨.text "ref", [(.text "orders", .text "id")]⟩,
    ⟨.text "ref", [(.text "invoices", .text "id")]⟩]

/-- Orders and invoices are referred to by columns of their own. -/
def bills : Schema where
  name := .text "bills"
  columns := [(.text "order", { storage := .integer }), (.text "invoice", { storage := .integer })]
  foreignKeys := [⟨.text "order", [(.text "orders", .text "id")]⟩,
    ⟨.text "invoice", [(.text "invoices", .text "id")]⟩]

/-- The stored bills list their foreign keys in the other order and with a capital letter. -/
def storedBills : Schema := { bills with
  foreignKeys := [⟨.text "invoice", [(.text "Invoices", .text "id")]⟩,
    ⟨.text "order", [(.text "orders", .text "id")]⟩] }

/-- The stored bills have one of the foreign keys twice. -/
def repeatedBills : Schema := { bills with
  foreignKeys := [⟨.text "order", [(.text "orders", .text "id")]⟩,
    ⟨.text "order", [(.text "orders", .text "id")]⟩] }

theorem bills_sameColumns (keys : List ForeignKey) :
    SameColumns bills { bills with foreignKeys := keys } where
  texts := by
    intro name member
    rcases List.mem_pair.mp member with rfl | rfl <;> exact ⟨_, rfl⟩
  keys := .rfl
  each := by
    intro entry member
    rcases List.mem_pair.mp member with rfl | rfl <;>
      exact ⟨_, rfl, rfl, rfl, _, _, rfl, rfl, rfl⟩

theorem agrees_iff_bills :
    SameColumns bills storedBills ∧ bills.agrees storedBills = .ok true := by
  have same : SameColumns bills storedBills := bills_sameColumns _
  let order : Reference := ⟨["order"], "orders", ["id"]⟩
  let invoice : Reference := ⟨["invoice"], "invoices", ["id"]⟩
  have orders : Text.lower "orders" = "orders" := by decide +kernel
  have invoices : Text.lower "invoices" = "invoices" ∧ Text.lower "Invoices" = "invoices" := by
    decide +kernel
  have declared : List.Forall₂ ForeignKey.Refers bills.foreignKeys [order, invoice] :=
    .cons ⟨rfl, ⟨_, rfl, orders⟩, rfl⟩ (.cons ⟨rfl, ⟨_, rfl, invoices.1⟩, rfl⟩ .nil)
  have stored : List.Forall₂ ForeignKey.Refers storedBills.foreignKeys [invoice, order] :=
    .cons ⟨rfl, ⟨_, rfl, invoices.2⟩, rfl⟩ (.cons ⟨rfl, ⟨_, rfl, orders⟩, rfl⟩ .nil)
  obtain ⟨verdict, agrees, -, exact, -⟩ := agrees_iff same declared stored
  have agree := (exact (.swap ..)).mpr (by decide)
  exact ⟨same, agrees.trans (congrArg Except.ok agree)⟩

/-- Lines do not agree with themselves. Bills agree with a table that has one of their foreign keys
twice and lacks the other one, but not the other way round. -/
theorem agrees_inexact :
    lines.agrees lines = .ok false ∧
      bills.agrees repeatedBills = .ok true ∧ repeatedBills.agrees bills = .ok false := by
  decide +kernel

end Schema

end Tabular
