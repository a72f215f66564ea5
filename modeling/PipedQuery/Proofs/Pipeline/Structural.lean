import PipedQuery.Proofs.Expr.Buildable
import PipedQuery.Proofs.Pipeline.Limits

/-!
# Structural pipelines

A pipeline of commands without expressions, sources and patterns is what its canonical text is parsed
into, with nothing to complain of (`parse_structural`).  Names may be any at all, keywords of their
own command included, as long as no star stands behind a dot.
-/

namespace PipedQuery

/-- Whether no star stands behind a dot in the name. -/
def IsDotStarFree (name : String) : Prop := ¬['.', '*'] <:+: name.toList

/-- Whether there are names, and no star stands behind a dot in any. -/
def AreDotStarFree (names : List String) : Prop := names ≠ [] ∧ ∀ name ∈ names, IsDotStarFree name

/-- Whether the command arranges fields and rows, and everything in it can be written. -/
def Command.IsStructural : Command → Prop
  | .fields _ names => AreDotStarFree names
  | .rename renamings =>
    renamings ≠ [] ∧ ∀ r ∈ renamings, IsDotStarFree r.old ∧ IsDotStarFree r.new
  | .sort keys => keys ≠ [] ∧ ∀ k ∈ keys, IsDotStarFree k.field
  | .dedup body =>
    (∀ n ∈ body.count, IsCount n) ∧ AreDotStarFree body.fields ∧
      ∀ n ∈ body.partitions, IsCount n
  | .head body => (∀ n ∈ body.size, IsCount n) ∧ ∀ n ∈ body.offset, IsCount n
  | .top body | .rare body =>
    (∀ n ∈ body.count, IsCount n) ∧ AreDotStarFree body.fields ∧
      ∀ name ∈ body.groupBy, IsDotStarFree name
  | _ => False

theorem IsDotStarFree.isScannable {name : String} (free : IsDotStarFree name) : IsScannable name :=
  fun _ => Expr.hasDotStar_of_not_infix free

theorem AreDotStarFree.areFields {names : List String} (free : AreDotStarFree names) :
    AreFields names :=
  ⟨free.1, fun name member => (free.2 name member).isScannable⟩

namespace Command.IsStructural

variable {c : Command}

/-- A structural command can be read back. -/
theorem isReadable (structural : c.IsStructural) : c.IsReadable := by
  cases c with
  | fields exclude names => exact structural.areFields
  | rename renamings =>
    exact ⟨structural.1, fun r member =>
      ⟨(structural.2 r member).1.isScannable, (structural.2 r member).2.isScannable⟩⟩
  | sort keys => exact ⟨structural.1, fun k member => (structural.2 k member).isScannable⟩
  | dedup body =>
    obtain ⟨count, fields, partitions⟩ := structural
    exact ⟨count, fields.areFields, partitions⟩
  | head body => exact structural
  | top body | rare body =>
    obtain ⟨count, fields, groupBy⟩ := structural
    exact ⟨count, fields.areFields, fun name member => (groupBy name member).isScannable⟩
  | _ => cases structural

/-- A structural command has no pattern to check. -/
theorem patternless (structural : c.IsStructural) (e : Extraction) : c ≠ .extract e := by
  rintro rfl
  cases structural

end Command.IsStructural

/-- There is nothing to find in stages that are readable commands without patterns. -/
theorem Session.stageDiagnostics_patternless {commands : List Command}
    (readable : ∀ c ∈ commands, c.IsReadable) (patternless : ∀ c ∈ commands, ∀ e, c ≠ .extract e)
    {stages : List Stage} (written : stages.map Stage.lexemes = commands.map Command.lexemes)
    (stop : Position) (first : Bool) : stageDiagnostics stop first stages = [] := by
  induction commands generalizing stages first with
  | nil =>
    rw [List.map_eq_nil_iff.mp written]
    rfl
  | cons c commands ih =>
    cases stages with
    | nil => cases written
    | cons stage stages =>
      obtain ⟨here, others⟩ := List.cons.inj written
      have sound := readable c List.mem_cons_self
      have nonempty : stage.lexemes ≠ [] := here ▸ sound.lexemes_ne_nil
      rw [stageDiagnostics, parseStage_diagnostics stop first nonempty, here,
        Parser.stage_run sound (patternless c List.mem_cons_self),
        ih (fun c' member => readable c' (List.mem_cons_of_mem c member))
          (fun c' member => patternless c' (List.mem_cons_of_mem c member)) others]
      rfl

/-- A pipeline of structural commands is what its canonical text is parsed into, without
    diagnostics. -/
theorem parse_structural {q : Query} (nonempty : q.commands ≠ [])
    (structural : ∀ c ∈ q.commands, c.IsStructural) : parse q.text = ⟨q, []⟩ := by
  have readable : ∀ c ∈ q.commands, c.IsReadable := fun c member => (structural c member).isReadable
  have written := Query.lexemes_stages_text nonempty readable {}
  have nothing : findings q.text = [] := by
    rw [findings, Session.stageDiagnostics_patternless readable
      (fun c member => (structural c member).patternless) written]
    exact List.append_eq_nil_iff.mpr ⟨lexicalDiagnostics_scan (Query.reads readable), rfl⟩
  have query : (parse q.text).query = q := (parseWith_readable nonempty readable {}).1
  have diagnostics : (parse q.text).diagnostics = [] := by
    rw [parse, diagnostics_parseWith rfl, nothing, List.take_nil, Diagnostic.sorted_nil]
  calc parse q.text
    _ = ⟨(parse q.text).query, (parse q.text).diagnostics⟩ := rfl
    _ = ⟨q, []⟩ := by rw [query, diagnostics]

/-- Names may be keywords of the command that they stand in, empty, or anything else. -/
theorem parse_structural_keywords :
    parse ("fields - `-`, ``, `a.by` | rename `as` as desc" ++
        " | dedup 3 keepempty partitions=9223372036854775807 consecutive=false" ++
        " | sort -num, num(`it's\n``x```) | head from 0 | top 5 `by` by `by`, `é`") =
      ⟨⟨[.fields true ["-", "", "a.by"], .rename [⟨"as", "desc"⟩],
        .dedup ⟨some 3, ["keepempty"], none, some false, none, some 9223372036854775807⟩,
        .sort [⟨"num", .descending, none⟩, ⟨"it's\n`x`", .ascending, some .num⟩],
        .head ⟨none, some 0⟩, .top ⟨some 5, ["by"], ["by", "é"]⟩]⟩, []⟩ := by
  have structural : ∀ c ∈ [.fields true ["-", "", "a.by"], .rename [⟨"as", "desc"⟩],
      .dedup ⟨some 3, ["keepempty"], none, some false, none, some 9223372036854775807⟩,
      .sort [⟨"num", .descending, none⟩, ⟨"it's\n`x`", .ascending, some .num⟩],
      .head ⟨none, some 0⟩, .top ⟨some 5, ["by"], ["by", "é"]⟩], Command.IsStructural c := by
    simp only [List.forall_mem_cons, List.not_mem_nil, false_imp_iff, implies_true, and_true,
      Command.IsStructural, AreDotStarFree, IsDotStarFree, IsCount, IsIntConstant, Option.mem_def]
    decide +kernel
  have parsed := parse_structural (q := ⟨_⟩) (List.cons_ne_nil _ _) structural
  rwa [show Query.text _ = "fields - `-`, ``, `a.by` | rename `as` as desc" ++
      " | dedup 3 keepempty partitions=9223372036854775807 consecutive=false" ++
      " | sort -num, num(`it's\n``x```) | head from 0 | top 5 `by` by `by`, `é`" by
    decide +kernel] at parsed

end PipedQuery
