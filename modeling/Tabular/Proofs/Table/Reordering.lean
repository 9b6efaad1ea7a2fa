import Tabular.Proofs.Filter.Grammar
import Tabular.Proofs.Table.Convergence
import Tabular.Proofs.Table.Rebuilding

/-!
This module compares two reports of one table whose rows come in different orders. Every set of
replies is reported by some engine in any order. Both tables are found, they are the same up to the
order of their parts, and every declaration agrees with both or with neither.
-/

namespace Tabular

open Tabular.Action

variable {σ τ : Type}

/-! ## Engines that report -/

def ReportedColumn.row (column : ReportedColumn) : Row :=
  Schema.answerRow [("name", .text column.name), ("type", .orNull column.storage),
    ("notnull", .int column.notNull), ("dflt_value", .orNull column.default),
    ("pk", .int column.place)]

def ReportedPart.row (part : ReportedPart) : Row :=
  Schema.answerRow [("seqno", .int part.place), ("name", .orNull part.name)]

def ReportedIndex.row (index : ReportedIndex) : Row :=
  Schema.answerRow [("name", .text index.name), ("unique", .int index.unique),
    ("origin", .text index.origin)]

def ReportedLink.row (link : ReportedLink) : Row :=
  Schema.answerRow [("id", .int link.number), ("seq", .int link.place), ("table", .text link.table),
    ("from", .text link.source), ("to", .orNull link.target)]

/-- Arranged rows of items stand for the items. -/
theorem Lists.of_perm {α : Type} {stands : α → Row → Prop} {row : α → Row}
    (each : ∀ item, stands item (row item)) {items : List α} {rows : List Row}
    (perm : rows.Perm (items.map row)) : Lists stands items rows := by
  have along : List.Forall₂ (fun arranged item => stands item arranged) (items.map row) items := by
    rw [List.forall₂_map_left_iff, List.forall₂_same]
    exact fun item _ => each item
  obtain ⟨listed, arranged, permListed⟩ := List.perm_comp_forall₂ perm along
  exact ⟨listed, permListed, arranged.flip⟩

/-- Texts of different pragmas differ, and so do those about different names. -/
theorem Schema.pragmaText_injective {first second : String} {name other : Value}
    (firstFree : '(' ∉ first.toList) (secondFree : '(' ∉ second.toList)
    (same : pragmaText first name = pragmaText second other) :
    first = second ∧ name.toText = other.toText := by
  have parts (pragma : String) (name : Value) : (pragmaText pragma name).toList =
      "PRAGMA ".toList ++ (pragma.toList ++ '(' :: (name.toText ++ ")").toList) := by
    simp [pragmaText]
  have texts := congrArg String.toList same
  rw [parts, parts] at texts
  obtain ⟨pragmas, names⟩ :=
    Condition.cut_unique firstFree secondFree (List.append_cancel_left texts)
  refine ⟨String.toList_inj.mp pragmas, String.toList_inj.mp ?_⟩
  rw [String.toList_append, String.toList_append] at names
  exact List.append_cancel_right names

namespace Replies

variable (replies : Replies) (schema : Schema)

/-- The rows of each report in the order of the replies. -/
def reported : Keyed (List Row) :=
  (.text (Schema.pragmaText "table_info" schema.name), replies.columns.map ReportedColumn.row) ::
  (.text (Schema.pragmaText "index_list" schema.name), replies.indices.map ReportedIndex.row) ::
  (.text (Schema.pragmaText "foreign_key_list" schema.name),
    replies.links.map ReportedLink.row) ::
  replies.indices.map fun index =>
    (.text (Schema.pragmaText "index_info" (.text index.name)), index.parts.map ReportedPart.row)

/-- The reports with their rows in some arrangement. -/
def answers (arrange : List Row → List Row) : Answers := fun sql _ =>
  ((replies.reported schema).get? (.text sql)).map arrange

variable {replies} (distinct : replies.Distinct)

include distinct

theorem Distinct.reportedOnce : (replies.reported schema).keys.Nodup := by
  have apart {first second : String} {name other : Value} (differ : first ≠ second)
      (firstFree : '(' ∉ first.toList) (secondFree : '(' ∉ second.toList) :
      Value.text (Schema.pragmaText first name) ≠ .text (Schema.pragmaText second other) :=
    fun same => differ
      (Schema.pragmaText_injective firstFree secondFree (Value.text.inj same)).1
  have infos {pragma : String} {name key : Value} (differ : pragma ≠ "index_info")
      (free : '(' ∉ pragma.toList) (member : key ∈ Keyed.keys (replies.indices.map fun index =>
        (.text (Schema.pragmaText "index_info" (.text index.name)),
          index.parts.map ReportedPart.row))) :
      .text (Schema.pragmaText pragma name) ≠ key := by
    rw [Keyed.keys, List.map_map] at member
    obtain ⟨index, -, rfl⟩ := List.mem_map.mp member
    exact apart differ free (by decide)
  refine List.nodup_cons.mpr ⟨?_, List.nodup_cons.mpr ⟨?_, List.nodup_cons.mpr ⟨?_, ?_⟩⟩⟩
  · intro member
    rcases List.mem_cons.mp member with same | member
    · exact apart (by decide) (by decide) (by decide) same
    rcases List.mem_cons.mp member with same | member
    · exact apart (by decide) (by decide) (by decide) same
    · exact infos (by decide) (by decide) member rfl
  · intro member
    rcases List.mem_cons.mp member with same | member
    · exact apart (by decide) (by decide) (by decide) same
    · exact infos (by decide) (by decide) member rfl
  · exact fun member => infos (by decide) (by decide) member rfl
  · rw [List.map_map]
    refine List.pairwise_map.mpr ((List.pairwise_map.mp distinct.indices).imp ?_)
    intro first second differ same
    exact differ (Schema.pragmaText_injective (by decide) (by decide) (Value.text.inj same)).2

/-- Every set of replies is reported by some engine, however it arranges the rows. -/
theorem Distinct.reporting (connection : Connection) {arrange : List Row → List Row}
    (arranges : ∀ rows, (arrange rows).Perm rows) :
    Reporting (replies.answers schema arrange).engine connection (fun _ => True) schema
      replies := by
  have executes {α : Type} {stands : α → Row → Prop} {row : α → Row} {items : List α} {sql : String}
      (each : ∀ item, stands item (row item))
      (member : (.text sql, items.map row) ∈ replies.reported schema) :
      Executes (replies.answers schema arrange).engine connection (fun _ => True) sql
        (Lists stands items) := by
    have known : replies.answers schema arrange sql (.tuple []) =
        some (arrange (items.map row)) := by
      rw [answers, Keyed.get?_of_mem (distinct.reportedOnce schema) member]
      rfl
    exact Answers.executes _ _ known (Lists.of_perm each (arranges _))
  exact {
    accepts := Answers.accepting _ _
    columns := executes (fun _ => ⟨rfl, rfl, rfl, rfl, rfl⟩) List.mem_cons_self
    indices := executes (fun _ => ⟨rfl, rfl, rfl⟩) (List.mem_cons_of_mem _ List.mem_cons_self)
    parts := fun index member => executes (fun _ => ⟨rfl, rfl⟩) (by
      refine List.mem_cons_of_mem _ (List.mem_cons_of_mem _ (List.mem_cons_of_mem _ ?_))
      exact List.mem_map_of_mem member)
    links := executes (fun _ => ⟨rfl, rfl, rfl, rfl, rfl⟩)
      (List.mem_cons_of_mem _ (List.mem_cons_of_mem _ List.mem_cons_self)) }

end Replies

/-! ## Tables that are found -/

/-- Two engines that report the same rows in any orders lead to the same table. -/
theorem Schema.introspect_reordered {ρ υ : Type} {schema : Schema} {replies : Replies}
    (distinct : replies.Distinct) {engine : Engine τ} {connection : Connection} {valid : τ → Prop}
    (reports : Reporting engine connection valid schema replies) {database : Database}
    (opened : database.connection = some connection) {other : Engine υ} {link : Connection}
    {also : υ → Prop} (reportsToo : Reporting other link also schema replies) {copy : Database}
    (openedToo : copy.connection = some link) (state : σ) (start : τ) (isValid : valid start)
    (otherState : ρ) (otherStart : υ) (alsoValid : also otherStart) :
    ∃ first second, ((schema.introspect database).runOn engine state start).outcome = .ok first ∧
      ((schema.introspect copy).runOn other otherState otherStart).outcome = .ok second ∧
      first.SameTable second ∧
      ∀ declared : Schema, (∀ key ∈ declared.foreignKeys, key.Named) →
        declared.agrees first = declared.agrees second := by
  obtain ⟨first, found, describes, -⟩ :=
    (reports.finds_introspect (σ := σ) distinct opened).runs state start isValid
  obtain ⟨second, foundToo, describesToo, -⟩ :=
    (reportsToo.finds_introspect (σ := ρ) distinct openedToo).runs otherState otherStart alsoValid
  have same := describes.sameTable distinct describesToo
  refine ⟨first, second, found, foundToo, same, fun declared named => ?_⟩
  exact same.agrees_eq describes.texts (describes.once distinct) named describes.named

/-! ## Bookings in two orders -/

/-- A room is booked for a day, and each guest has a name of their own. -/
def bookingReplies : Replies where
  columns := [⟨"room", some "INTEGER", 0, none, 2⟩, ⟨"day", some "date", 1, none, 1⟩,
    ⟨"guest", some "TEXT", 1, some "'nobody'", 0⟩]
  indices := [⟨"ix_bookings_by_guest", "c", 0, [⟨0, some "guest"⟩, ⟨1, some "day"⟩, ⟨2, none⟩]⟩,
    ⟨"sqlite_autoindex_bookings_1", "u", 1, [⟨0, some "guest"⟩]⟩,
    ⟨"sqlite_autoindex_bookings_2", "pk", 1, [⟨0, some "day"⟩, ⟨1, some "room"⟩]⟩]
  links := [⟨0, 0, "Calendar", "room", some "place"⟩, ⟨0, 1, "Calendar", "day", some "day"⟩,
    ⟨1, 0, "guests", "guest", none⟩]

def bookings : Schema where
  name := .text "bookings"
  columns := [(.text "day", { storage := .blob, notNull := true }),
    (.text "room", { storage := .integer }),
    (.text "guest",
      { storage := .text, unique := true, notNull := true, default := .text "nobody" })]
  foreignKeys := [⟨.text "guest", [(.text "guests", .list [])]⟩,
    ⟨.list [.text "room", .text "day"], [(.text "calendar", .list [.text "place", .text "day"])]⟩]
  primaryKey := some [.text "day", .text "room"]

theorem bookingReplies_distinct : bookingReplies.Distinct where
  columns := by decide
  key := by decide
  indices := by decide
  parts := by decide
  links := by decide

theorem bookings_named : ∀ key ∈ bookings.foreignKeys, key.Named := by
  intro key member
  rcases List.mem_pair.mp member with rfl | rfl
  · exact ⟨⟨_, rfl⟩, ⟨_, rfl⟩, ⟨_, rfl⟩⟩
  · exact ⟨⟨_, rfl⟩, ⟨_, rfl⟩, ⟨_, rfl⟩⟩

def bookingsDatabase : Database := { path := "bookings.db", settings := {}, connection := some ⟨0⟩ }

/-- This run finds the table of bookings. -/
def bookingsFound (arrange : List Row → List Row) : Run Unit (List Row) Schema :=
  (bookings.introspect bookingsDatabase).runOn (bookingReplies.answers bookings arrange).engine ()
    []

/-- The columns are found in two orders, and the bookings agree with both tables. -/
theorem Schema.introspect_reordered_bookings :
    ∃ first second, (bookingsFound id).outcome = .ok first ∧
      (bookingsFound List.reverse).outcome = .ok second ∧ first.SameTable second ∧
      first.columns.keys ≠ second.columns.keys ∧
      bookings.agrees first = .ok true ∧ bookings.agrees second = .ok true := by
  have opened : bookingsDatabase.connection = some ⟨0⟩ := rfl
  have forwards : Reporting (bookingReplies.answers bookings id).engine ⟨0⟩ (fun _ => True) bookings
      bookingReplies := bookingReplies_distinct.reporting bookings ⟨0⟩ fun _ => .rfl
  have backwards : Reporting (bookingReplies.answers bookings List.reverse).engine ⟨0⟩
      (fun _ => True) bookings bookingReplies :=
    bookingReplies_distinct.reporting bookings ⟨0⟩ List.reverse_perm
  obtain ⟨first, second, found, foundToo, same, agree⟩ := Schema.introspect_reordered
    bookingReplies_distinct forwards opened backwards opened () [] trivial () [] trivial
  have columns : ((bookingsFound id).outcome.toOption.map fun table => table.columns.keys) ≠
      (bookingsFound List.reverse).outcome.toOption.map fun table => table.columns.keys := by
    decide +kernel
  have verdict : ((bookingsFound id).outcome.bind bookings.agrees) = .ok true := by
    decide +kernel
  rw [bookingsFound, bookingsFound, found, foundToo] at columns
  rw [bookingsFound, found] at verdict
  have agrees : bookings.agrees first = .ok true := verdict
  refine ⟨first, second, found, foundToo, same, ?_, agrees, ?_⟩
  · exact fun equal => columns (congrArg some equal)
  · rw [← agree bookings bookings_named]
    exact agrees

end Tabular
