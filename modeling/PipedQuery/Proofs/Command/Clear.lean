import PipedQuery.Proofs.Command.Kept
import PipedQuery.Proofs.Expr.Clear

/-!
# Commands with a clear text

A command that is parsed without errors is readable if nothing in its canonical text is taken for
something else, and the text nests no deeper than the limit (`Command.Kept.isReadable`).
-/

namespace PipedQuery

open PipedQuery.Expr

namespace Command

/-- The fields of the command, those it reads as well as those it makes, as far as it writes them as
    names. -/
def names : Command → List String
  | .search _ | .describe _ | .showDatasources | .filter _ | .head _ | .learn _ _ => []
  | .fields _ names => names
  | .rename renamings => renamings.flatMap fun r => [r.old, r.new]
  | .stats body =>
    body.aggregations.flatMap (·.column.toList) ++
      body.span.toList.flatMap (fun b => b.field :: b.column.toList) ++ body.groupBy
  | .dedup body => body.fields
  | .sort keys => keys.map (·.field)
  | .eval assignments => assignments.map (·.field)
  | .top body | .rare body => body.fields ++ body.groupBy
  | .extract body => [body.source]

/-- The sources of the command. -/
def sources : Command → List DataSource
  | .search body => body.sources
  | .describe source => [source]
  | _ => []

/-- The conditions and values of the command. -/
def wholes : Command → List Expr
  | .search body => body.filter.toList
  | .filter condition => [condition]
  | .eval assignments => assignments.map (·.value)
  | _ => []

/-- The calls of the aggregations of the command. -/
def aggregates : Command → List Expr
  | .stats body => body.aggregations.map (·.function)
  | _ => []

/-- Whether nothing in the canonical text of the command is taken for something else, and its
    expressions nest no deeper in the text than the limit. -/
structure IsClear (c : Command) : Prop where
  names : ∀ name ∈ c.names, IsScannable name
  sources : ∀ s ∈ c.sources, s.IsReadable
  wholes : ∀ e ∈ c.wholes, e.IsClear .other ∧ e.levels ≤ maxNesting
  aggregates : ∀ e ∈ c.aggregates, e.IsClear .other ∧ e.levels ≤ maxNesting + 1

end Command

/-- Whether the expression is readable where its text is clear. -/
def Expr.ReadsClear (e : Expr) : Prop := ∀ follow, e.IsClear follow → Readable follow e

/-- An aggregation that is built without errors is readable if its text is clear. -/
theorem Aggregation.Kept.isReadable {a : Aggregation} (kept : a.Kept Cause.IsWarning Expr.ReadsClear)
    (clear : a.function.IsClear .other) (low : a.function.levels ≤ maxNesting + 1)
    (column : ∀ name ∈ a.column, IsScannable name) : a.IsReadable := by
  obtain ⟨function, name⟩ := a
  obtain ⟨k, args, options, rfl, kept⟩ := kept
  have plain : options = [] := by
    refine List.eq_nil_iff_forall_not_mem.mpr fun o member => ?_
    cases (kept.options o member).1
  subst plain
  have position : k = .position → ∀ e ∈ args.head?, e.isSum = true := by
    rintro rfl
    exact clear _ _ .whole rfl
  have readable : Readable .other (.call k.lowercase .aggregate args []) :=
    kept.readable position fun e member reads =>
      reads .other fun behind part inside => clear _ _ (.argument member inside)
  exact ⟨⟨_, _, rfl⟩, readable, low, column⟩

theorem Stats.WellFormedWith.isReadable {s : Stats}
    (kept : s.WellFormedWith (·.Kept Cause.IsWarning Expr.ReadsClear))
    (clear : (Command.stats s).IsClear) : s.IsReadable := by
  have column {a : Aggregation} (member : a ∈ s.aggregations) {name : String}
      (found : name ∈ a.column) : IsScannable name := by
    have inside : name ∈ s.aggregations.flatMap (·.column.toList) :=
      List.mem_flatMap.mpr ⟨a, member, Option.mem_toList.mpr found⟩
    exact clear.names name (List.mem_append_left _ (List.mem_append_left _ inside))
  have bucket {b : Bucket} (found : b ∈ s.span) {name : String}
      (member : name ∈ b.field :: b.column.toList) : IsScannable name := by
    have inside : name ∈ s.span.toList.flatMap fun b => b.field :: b.column.toList :=
      List.mem_flatMap.mpr ⟨b, Option.mem_toList.mpr found, member⟩
    exact clear.names name (List.mem_append_left _ (List.mem_append_right _ inside))
  have groups : ∀ name ∈ s.groupBy, IsScannable name := fun name member =>
    clear.names name (List.mem_append_right _ member)
  refine ⟨kept.partitions, kept.nonempty, fun a member => ?_, fun b found => ?_, groups⟩
  · have call := clear.aggregates a.function (List.mem_map_of_mem member)
    exact (kept.aggregations a member).isReadable call.1 call.2 fun name => column member
  · obtain ⟨number, unsigned, unit⟩ := kept.span b found
    exact ⟨bucket found List.mem_cons_self, number, unsigned, unit,
      fun name inside => bucket found (List.mem_cons_of_mem _ (Option.mem_toList.mpr inside))⟩

/-- A command that is built without errors is readable if its text is clear. -/
theorem Command.Kept.isReadable {c : Command} (kept : c.Kept Cause.IsWarning Expr.ReadsClear)
    (clear : c.IsClear) : c.IsReadable := by
  have whole {e : Expr} (member : e ∈ c.wholes) (reads : e.ReadsClear) : e.IsWhole :=
    ⟨reads .other (clear.wholes e member).1, (clear.wholes e member).2⟩
  cases c with
  | search body =>
    exact ⟨kept.1.1, clear.sources, fun e found =>
      whole (Option.mem_toList.mpr found) (kept.2 e found)⟩
  | describe source => exact clear.sources source List.mem_cons_self
  | showDatasources => trivial
  | filter condition => exact whole List.mem_cons_self kept
  | fields exclude names => exact ⟨kept, clear.names⟩
  | rename renamings =>
    refine ⟨kept, fun r member => ⟨clear.names r.old ?_, clear.names r.new ?_⟩⟩
    · exact List.mem_flatMap.mpr ⟨r, member, by simp⟩
    · exact List.mem_flatMap.mpr ⟨r, member, by simp⟩
  | stats body => exact Stats.WellFormedWith.isReadable kept clear
  | dedup body => exact ⟨kept.count, ⟨kept.fields, clear.names⟩, kept.partitions⟩
  | sort keys => exact ⟨kept, fun k member => clear.names k.field (List.mem_map_of_mem member)⟩
  | eval assignments =>
    refine ⟨kept.1, fun a member => ⟨clear.names a.field (List.mem_map_of_mem member), ?_⟩⟩
    exact whole (List.mem_map_of_mem member) (kept.2 a member)
  | head body => exact ⟨kept.size, kept.offset⟩
  | top body | rare body =>
    exact ⟨kept.count,
      ⟨kept.fields, fun name member => clear.names name (List.mem_append_left _ member)⟩,
      fun name member => clear.names name (List.mem_append_right _ member)⟩
  | extract body => exact ⟨clear.names body.source List.mem_cons_self, kept⟩
  | learn algorithm params => exact kept

theorem Expr.IsWhole.isClear {e : Expr} (whole : e.IsWhole) :
    e.IsClear .other ∧ e.levels ≤ maxNesting := ⟨whole.1.isClear, whole.2⟩

theorem Stats.IsReadable.isClear {s : Stats} (readable : s.IsReadable) : (Command.stats s).IsClear where
  names := by
    intro name member
    rcases List.mem_append.mp member with before | groups
    · rcases List.mem_append.mp before with columns | buckets
      · obtain ⟨a, inside, found⟩ := List.mem_flatMap.mp columns
        exact (readable.aggregations a inside).column name (Option.mem_toList.mp found)
      · obtain ⟨b, inside, found⟩ := List.mem_flatMap.mp buckets
        have bucket := readable.span b (Option.mem_toList.mp inside)
        rcases List.mem_cons.mp found with rfl | column
        · exact bucket.field
        · exact bucket.column name (Option.mem_toList.mp column)
    · exact readable.groupBy name groups
  sources := nofun
  wholes := nofun
  aggregates := by
    intro e member
    obtain ⟨a, inside, rfl⟩ := List.mem_map.mp member
    have aggregation := readable.aggregations a inside
    exact ⟨aggregation.readable.isClear, aggregation.low⟩

/-- The text of a readable command is clear. -/
theorem Command.IsReadable.isClear {c : Command} (readable : c.IsReadable) : c.IsClear := by
  cases c with
  | search body =>
    refine ⟨nofun, readable.2.1, fun e member => ?_, nofun⟩
    exact (readable.2.2 e (Option.mem_toList.mp member)).isClear
  | describe source => exact ⟨nofun, List.forall_mem_singleton.mpr readable, nofun, nofun⟩
  | showDatasources | head | learn => exact ⟨nofun, nofun, nofun, nofun⟩
  | filter condition =>
    exact ⟨nofun, nofun, List.forall_mem_singleton.mpr (Expr.IsWhole.isClear readable), nofun⟩
  | fields exclude names => exact ⟨readable.2, nofun, nofun, nofun⟩
  | rename renamings =>
    refine ⟨fun name member => ?_, nofun, nofun, nofun⟩
    obtain ⟨r, inside, found⟩ := List.mem_flatMap.mp member
    rcases List.mem_pair.mp found with rfl | rfl
    · exact (readable.2 r inside).1
    · exact (readable.2 r inside).2
  | stats body => exact Stats.IsReadable.isClear readable
  | dedup body => exact ⟨readable.fields.2, nofun, nofun, nofun⟩
  | sort keys =>
    exact ⟨List.forall_mem_map.mpr readable.2, nofun, nofun, nofun⟩
  | eval assignments =>
    refine ⟨List.forall_mem_map.mpr fun a inside => (readable.2 a inside).1, nofun,
      List.forall_mem_map.mpr fun a inside => (readable.2 a inside).2.isClear, nofun⟩
  | top body | rare body =>
    refine ⟨fun name member => ?_, nofun, nofun, nofun⟩
    rcases List.mem_append.mp member with field | group
    · exact readable.fields.2 name field
    · exact readable.groupBy name group
  | extract body => exact ⟨List.forall_mem_singleton.mpr readable.source, nofun, nofun, nofun⟩

end PipedQuery
