import PipedQuery.Proofs.Command.Readable
import PipedQuery.Proofs.Expr.Pipeless

/-!
# Commands stay in their stage

No lexeme of a canonical command is a pipe (`Command.IsReadable.pipeless`).
-/

namespace PipedQuery

variable {α : Type}

theorem pipeless_optional {lex : α → List Lexeme} {o : Option α} (h : ∀ a ∈ o, Pipeless (lex a)) :
    Pipeless (optionalLexemes lex o) := by
  cases o with
  | none => exact pipeless_nil
  | some a => exact h a rfl

theorem pipeless_commas {lex : α → List Lexeme} {items : List α}
    (h : ∀ a ∈ items, Pipeless (lex a)) : Pipeless (commaLexemes (items.map lex)) := by
  refine pipeless_commaLexemes fun ls member => ?_
  obtain ⟨a, found, rfl⟩ := List.mem_map.mp member
  exact h a found

@[simp] theorem pipeless_fieldLexemes (names : List String) : Pipeless (fieldLexemes names) :=
  pipeless_commas fun name _ => pipeless_nameLexemes name

@[simp] theorem pipeless_aliasLexemes (column : Option String) : Pipeless (aliasLexemes column) :=
  pipeless_optional fun name _ => by simp [pipeless_nameLexemes]

@[simp] theorem pipeless_optionLexemes (k : Keyword) (value : α → Literal) (o : Option α) :
    Pipeless (optionalLexemes (fun a => optionLexemes k (value a)) o) :=
  pipeless_optional fun a _ => by simp [optionLexemes, (value a).pipeless_lexemes]

@[simp] theorem pipeless_countLexemes (o : Option Int) :
    Pipeless (optionalLexemes (fun n => (Literal.int n).lexemes) o) :=
  pipeless_optional fun n _ => (Literal.int n).pipeless_lexemes

@[simp] theorem pipeless_byLexemes (names : List String) : Pipeless (byLexemes names) := by
  unfold byLexemes
  split <;> simp

theorem isBareName_ne_pipe {l : Lexeme} (bare : l.isBareName = true) : l.kind ≠ .mark .pipe := by
  intro pipe
  simp [Lexeme.isBareName, pipe] at bare

theorem pipeless_of_isDottedName {ls : List Lexeme} (dotted : isDottedName ls = true) :
    Pipeless ls := by
  fun_induction isDottedName ls with
  | case1 => exact pipeless_nil
  | case2 l => simpa using isBareName_ne_pipe dotted
  | case3 l dot ls ih =>
    simp only [Bool.and_eq_true, decide_eq_true_eq] at dotted
    obtain ⟨⟨bare, rfl⟩, others⟩ := dotted
    simpa [isBareName_ne_pipe bare] using ih others

theorem DataSource.IsReadable.pipeless {s : DataSource} (readable : s.IsReadable) :
    Pipeless s.lexemes := by
  unfold IsReadable at readable
  split at readable
  · obtain ⟨-, -, -, kind, name, whole⟩ := readable
    rw [whole]
    rcases name with rfl | rfl <;> simp
  · next noCluster =>
    split at readable
    · next plain =>
      simp only [isSourceName, Bool.and_eq_true] at readable
      rw [lexemes, text_of_plain noCluster plain]
      exact pipeless_of_isDottedName readable.1
    · next quoted =>
      rw [lexemes, text_of_not_plain noCluster quoted, (Scan.reads_name readable).1]
      exact pipeless_nameLexemes s.name

theorem Expr.IsWhole.pipeless {e : Expr} (whole : e.IsWhole) : Pipeless e.lexemes :=
  whole.1.pipeless

@[simp] theorem Bucket.pipeless (b : Bucket) : Pipeless b.lexemes := by
  have unit : Pipeless (optionalLexemes (fun k => [k.lexeme]) b.unit) :=
    pipeless_optional fun k _ => by simp
  simp [Bucket.lexemes, pipeless_nameLexemes, b.value.pipeless_lexemes, unit]

theorem SortKey.pipeless (k : SortKey) : Pipeless k.lexemes := by
  obtain ⟨field, direction, cast⟩ := k
  cases direction <;> cases cast <;> simp [SortKey.lexemes, pipeless_nameLexemes]

@[simp] theorem Stats.pipeless_group (s : Stats) : Pipeless s.groupLexemes := by
  unfold Stats.groupLexemes
  split <;> simp

theorem Extraction.pipeless (e : Extraction) : Pipeless e.lexemes := by
  have pattern : Pipeless (optionalLexemes (fun p => [.string p]) e.pattern) :=
    pipeless_optional fun p _ => by simp
  unfold Extraction.lexemes
  split <;> simp [pipeless_nameLexemes, pattern]

/-- No lexeme of a readable command is a pipe. -/
theorem Command.IsReadable.pipeless {c : Command} (readable : c.IsReadable) : Pipeless c.lexemes := by
  cases c with
  | search body =>
    obtain ⟨-, sources, filter⟩ := readable
    have list : Pipeless (commaLexemes (body.sources.map DataSource.lexemes)) :=
      pipeless_commas fun s member => (sources s member).pipeless
    have filter : Pipeless (optionalLexemes Expr.lexemes body.filter) :=
      pipeless_optional fun e member => (filter e member).pipeless
    simp [lexemes, Search.lexemes, list, filter]
  | describe source => simp [lexemes, DataSource.IsReadable.pipeless readable]
  | showDatasources => simp [lexemes]
  | filter condition => simp [lexemes, Expr.IsWhole.pipeless readable]
  | fields exclude names => cases exclude <;> simp [lexemes]
  | rename renamings =>
    have list : Pipeless (commaLexemes (renamings.map Renaming.lexemes)) :=
      pipeless_commas fun r _ => by simp [Renaming.lexemes, pipeless_nameLexemes]
    simp [lexemes, list]
  | stats body =>
    have list : Pipeless (commaLexemes (body.aggregations.map Aggregation.lexemes)) :=
      pipeless_commas fun a member => by
        simp [Aggregation.lexemes, (Stats.IsReadable.aggregations readable a member).readable.pipeless]
    simp [lexemes, Stats.lexemes, list]
  | dedup body => simp [lexemes, Dedup.lexemes]
  | sort keys =>
    have list : Pipeless (commaLexemes (keys.map SortKey.lexemes)) :=
      pipeless_commas fun k _ => k.pipeless
    simp [lexemes, list]
  | eval assignments =>
    have list : Pipeless (commaLexemes (assignments.map Assignment.lexemes)) :=
      pipeless_commas fun a member => by
        simp [Assignment.lexemes, pipeless_nameLexemes, (readable.2 a member).2.pipeless]
    simp [lexemes, list]
  | head body =>
    have offset : Pipeless (optionalLexemes (fun n => Keyword.from_.lexeme :: (Literal.int n).lexemes)
        body.offset) :=
      pipeless_optional fun n _ => by simp [(Literal.int n).pipeless_lexemes]
    simp [lexemes, Head.lexemes, offset]
  | top body => simp [lexemes, Rank.lexemes]
  | rare body => simp [lexemes, Rank.lexemes]
  | extract body => exact body.pipeless
  | learn algorithm params =>
    have list : Pipeless (params.flatMap Parameter.lexemes) :=
      pipeless_flatMap fun p _ => by
        simp [Parameter.lexemes, Scan.word_ne_mark, p.value.pipeless_lexemes]
    simp [lexemes, list]

end PipedQuery
