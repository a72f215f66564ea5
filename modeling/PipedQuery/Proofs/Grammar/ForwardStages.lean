import PipedQuery.Grammar.Extract
import PipedQuery.Proofs.Grammar.Forward

/-!
# Commands only go forward

Every command leaves an end of what it was given, and takes up at least one lexeme
(`Parser.consumes_command`).
-/

namespace PipedQuery

namespace Parser

-- A command is a chain of many parsers, and each takes a few steps of the search for instances.
set_option synthInstance.maxSize 1000

instance (clause : Clause) : Advances (need clause) := by
  unfold need
  infer_instance

section Stages

variable {grammar : StageGrammar} (h : grammar.Consumes)

instance : Advances dataSource := by
  refine .bind fun l => ?_
  split
  · infer_instance
  · split <;> infer_instance

theorem enters_sourceClause : Enters sourceClause := .of_skip fun _ => inferInstance

instance : Advances sourceClause := enters_sourceClause.advances

include h in
theorem consumes_searchBody : Consumes (searchBody grammar) := by
  have := h.expression.advances
  refine .of_look lexemes_run ?_ fun l ts => ?_
  · exact .after fun _ => h.expression.bind fun filter => inferInstance
  · split
    · exact .inr ((enters_sourceClause).bind fun sources => inferInstance)
    · exact .inl (.after fun _ => h.expression.bind fun filter => inferInstance)

theorem enters_describe : Enters describe := .of_skip fun _ => inferInstance

theorem enters_showDatasources : Enters showDatasources := .of_skip fun _ => inferInstance

include h in
theorem enters_filter : Enters (filter grammar) :=
  have := h.expression.advances
  .of_skip fun _ => inferInstance

theorem enters_fields : Enters fields := .of_skip fun _ => inferInstance

instance : Advances renamePair := by
  unfold renamePair
  infer_instance

theorem enters_rename : Enters rename := .of_skip fun _ => inferInstance

include h in
theorem enters_eval : Enters (eval grammar) := by
  have := h.expression.advances
  have : Advances (assignment grammar) := by
    unfold assignment
    infer_instance
  exact .of_skip fun _ => inferInstance

instance : Advances sortKey := by
  unfold sortKey
  dsimp only
  infer_instance

theorem enters_sort : Enters sort := .of_skip fun _ => inferInstance

theorem enters_head : Enters head := .of_skip fun _ => inferInstance

/-! Aggregations and rankings. -/

include h in
theorem advances_aggregation : Advances (aggregation grammar) := by
  have := h.expression.advances
  have := h.additive.advances
  refine .bind fun ts => ?_
  split
  · split
    · infer_instance
    · split <;> infer_instance
  · infer_instance

instance : Advances bucketUnit? := by
  refine .bind fun ts => ?_
  split <;> infer_instance

instance : Advances bucket := by
  unfold bucket
  infer_instance

instance : Advances grouping := by
  unfold grouping
  infer_instance

theorem strides_statsOption? (s : Stats) : Strides (statsOption? s) :=
  .of_option (fun _ => inferInstance) <|
    .of_option (fun _ => inferInstance) <|
      .of_option (fun _ => inferInstance) strides_none

include h in
theorem enters_stats : Enters (stats grammar) := by
  have := advances_aggregation h
  have (s : Stats) := (strides_statsOption? s).advances
  refine .of_skip fun _ => .bind fun s => .bind fun _ => .bind fun aggregations => .bind fun by_ => ?_
  obtain ⟨span, groupBy⟩ := by_
  infer_instance

instance (command : String) : Advances (skipUnknownOption command) := by
  refine .bind fun name => ?_
  cases name <;> infer_instance

theorem enters_skipUnknownOption (command : String) : Enters (skipUnknownOption command) where
  advances := inferInstance
  rest_suffix_tail l ts := by
    have past : Enters (skip 2 >>= fun _ => atEnd >>= fun e => if e then pure () else skip 1) :=
      .of_skip fun _ => inferInstance
    exact past.rest_suffix_tail l ts

theorem strides_dedupOption? (d : Dedup) : Strides (dedupOption? d) := by
  refine .of_look atAssignment_run strides_none fun l ts => ?_
  split
  · refine .inr ?_
    exact .of_option (fun _ => inferInstance) <|
      .of_option (fun _ => inferInstance) <|
        .of_option (fun _ => inferInstance) <|
          .of_option (fun _ => inferInstance) <|
            (enters_skipUnknownOption _).bind fun _ => inferInstance
  · exact .inl strides_none

theorem enters_dedup : Enters dedup :=
  have (d : Dedup) := (strides_dedupOption? d).advances
  .of_skip fun _ => inferInstance

theorem enters_rank : Enters rank :=
  .of_look peek_run fun _ => .of_skip fun _ => inferInstance

/-! Extractions and learning. -/

instance : Advances pattern := by
  refine .bind fun s => ?_
  cases s <;> infer_instance

theorem enters_parse : Enters parse := by
  refine .of_skip fun _ => .bind fun source => .bind fun place => .bind fun pattern => ?_
  split <;> infer_instance

theorem enters_grok : Enters grok := .of_skip fun _ => inferInstance

theorem strides_patternsOption? (o : PatternsOptions) : Strides (patternsOption? o) := by
  refine .of_look atAssignment_run strides_none fun l ts => ?_
  split
  · refine .inr (.of_option (fun _ => inferInstance) (.of_option (fun _ => ?_) ?_))
    · refine .bind fun place => .bind fun pattern => ?_
      cases Pattern.groupNames? pattern <;> infer_instance
    · exact (enters_skipUnknownOption _).bind fun _ => inferInstance
  · exact .inl strides_none

theorem enters_patterns : Enters patterns :=
  have (o : PatternsOptions) := (strides_patternsOption? o).advances
  .of_skip fun _ => inferInstance

theorem strides_parameter? (algorithm : Algorithm) (params : List Parameter) :
    Strides (parameter? algorithm params) := by
  refine .of_look atEnd_run strides_none fun l ts => .inl ?_
  refine .of_look atAssignment_run (consumesIf_fail_bind _) fun l ts => .inl ?_
  dsimp only
  split
  · refine .after fun place => .of_look peek_run strides_none fun l ts => .inr (.of_skip fun _ => ?_)
    refine .bind fun valuePlace => .bind fun value => ?_
    split
    · infer_instance
    · split <;> infer_instance
  · exact consumesIf_fail_bind _

theorem enters_learn (algorithm : Algorithm) : Enters (learn algorithm) :=
  have (params : List Parameter) := (strides_parameter? algorithm params).advances
  .of_skip fun _ => inferInstance

include h in
/-- A command takes up a lexeme at least. -/
theorem consumes_command (first : Bool) : Consumes (command grammar first) := by
  have := (consumes_searchBody h).advances
  refine .of_look lexemes_run (consumesIf_fail _) fun l ts => ?_
  rw [firstKind_cons]
  split
  · exact .inr (.of_skip fun _ => inferInstance)
  · exact .inr enters_describe
  · exact .inr enters_showDatasources
  · exact .inr (enters_filter h)
  · exact .inr enters_fields
  · exact .inr enters_rename
  · exact .inr (enters_stats h)
  · exact .inr enters_dedup
  · exact .inr enters_sort
  · exact .inr (enters_eval h)
  · exact .inr enters_head
  · exact .inr (enters_rank.bind fun _ => inferInstance)
  · exact .inr (enters_rank.bind fun _ => inferInstance)
  · exact .inr enters_parse
  · exact .inr enters_grok
  · exact .inr enters_patterns
  · exact .inr enters_patterns
  · exact .inr (enters_learn _)
  · exact .inr (enters_learn _)
  · exact .inr (enters_learn _)
  · split
    · exact .inl (consumes_searchBody h)
    · exact .inl (consumesIf_fail _)
  · exact .inl (consumesIf_fail _)

end Stages

end Parser

end PipedQuery
