import PipedQuery.Proofs.Cursor.Levels

/-!
# Commands in the midst of a query

Every command reads at a cursor what it reads of the stage around it (`Parser.refines_command`), the
dispatch by its first word included (`Parser.refines_stageWith`).

A command starts by passing over its keyword, so each lemma asks for a stage with at least one lexeme.
A parser that tells a clause by the two or three lexemes at its start asks for as many, and they are
there if the clause is (`Parser.length_of_startsSourceClause`).
-/

namespace PipedQuery

namespace Parser

open Cursor

variable {e : Setting} {n : Nat} {ts us : List Lexeme}

instance (clause : Clause) : Refines e n (need clause) (need clause) := by
  unfold need
  infer_instance

/-- A source clause is told by lexemes of the stage. -/
theorem startsSourceClause_fence (fence : Fence us) :
    startsSourceClause (ts ++ us) = startsSourceClause ts := by
  rw [startsSourceClause, startsSourceClause, startsOption_fence fence, startsOption_fence fence]

theorem length_of_startsSourceClause (h : startsSourceClause ts = true) : 2 ≤ ts.length :=
  (Bool.or_eq_true_iff.mp h).elim length_of_startsOption length_of_startsOption

instance : Refines e n dataSource dataSource := by
  refine .of_peek_pipe (fun l => ?_) fun _ => ⟨inferInstanceAs (Refines e 0 (fail _) (fail _)), ?_⟩
  · have one := Nat.le_max_left 1 n
    dsimp only
    split
    case h_1 | h_2 =>
      split
      · infer_instance
      · exact .of_skip one inferInstance
    case h_7 => infer_instance
    all_goals exact .of_skip one inferInstance
  · intro l pipe
    have word : Refines e 0 (do return DataSource.ofName (← qualifiedName true) : Parser Cursor _)
        (do return DataSource.ofName (← qualifiedName true)) := inferInstance
    simp only [pipe]
    exact ⟨_, word, rfl⟩

theorem refines_sourceClause (some : 1 ≤ n) : Refines e n sourceClause sourceClause :=
  .of_skip some inferInstance

section Expressions

variable {g : Grammar Cursor} {g' : StageGrammar} (h : g.Refines e g')
include h

/-- A search keeps to the stage, whether it starts with a clause or with an expression. -/
theorem refines_searchBody : Refines e n (searchBody g) (searchBody g') := by
  have := h.expression
  refine .of_lexemes fun ts us fence _ => ?_
  rw [startsSourceClause_fence fence]
  split
  · next clause =>
    have := refines_sourceClause (e := e) (Nat.le_of_succ_le (length_of_startsSourceClause clause))
    infer_instance
  · refine .bind fun _ => .bind fun condition => ?_
    refine .of_lexemes fun ts us fence _ => ?_
    rw [startsSourceClause_fence fence]
    split
    · next clause =>
      have := refines_sourceClause (e := e) (Nat.le_of_succ_le (length_of_startsSourceClause clause))
      infer_instance
    · infer_instance

theorem refines_filter (some : 1 ≤ n) : Refines e n (filter g) (filter g') :=
  have := h.expression
  .of_skip some inferInstance

theorem refines_assignment : Refines e n (assignment g) (assignment g') := by
  have := h.expression
  unfold assignment
  infer_instance

theorem refines_eval (some : 1 ≤ n) : Refines e n (eval g) (eval g') :=
  have := refines_assignment (n := 0) h
  .of_skip some inferInstance

end Expressions

theorem refines_describe (some : 1 ≤ n) : Refines e n describe describe := .of_skip some inferInstance

theorem refines_showDatasources (some : 1 ≤ n) : Refines e n showDatasources showDatasources :=
  .of_skip some inferInstance

theorem refines_fields (some : 1 ≤ n) : Refines e n fields fields := .of_skip some inferInstance

instance : Refines e n renamePair renamePair := by
  unfold renamePair
  infer_instance

theorem refines_rename (some : 1 ≤ n) : Refines e n rename rename := .of_skip some inferInstance

/-- A cast and its parenthesis do not stand on both sides of a boundary. -/
theorem startsSortCast?_fence (fence : Fence us) :
    startsSortCast? (ts ++ us) = startsSortCast? ts := by
  rcases ts with _ | ⟨l, _ | ⟨l', ts⟩⟩
  · cases fence with
    | none => rfl
    | pipe kind => simp [startsSortCast?, kind, TokenKind.keyword?]
  · cases fence with
    | none => rfl
    | pipe kind => simp [startsSortCast?, kind]
  · rfl

theorem length_of_startsSortCast? (h : (startsSortCast? ts).isSome = true) : 2 ≤ ts.length := by
  rcases ts with _ | ⟨l, _ | ⟨l', ts⟩⟩
  · cases h
  · cases h
  · simp

instance : Refines e n sortKey sortKey := by
  refine .bind fun minus => ?_
  split
  case' isFalse => refine .bind fun _ => ?_
  all_goals
    refine .of_lexemes fun ts us fence _ => ?_
    rw [startsSortCast?_fence fence]
    dsimp only
    split
    · next hinted => exact .of_skip (length_of_startsSortCast? hinted) inferInstance
    · infer_instance

theorem refines_sort (some : 1 ≤ n) : Refines e n sort sort := .of_skip some inferInstance

theorem refines_head (some : 1 ≤ n) : Refines e n head head := .of_skip some inferInstance

/-! Aggregations and ranks. -/

section Aggregations

variable {g : Grammar Cursor} {g' : StageGrammar} (h : g.Refines e g')
include h

/-- A percentile in its short form and a call keep to the stage. -/
theorem refines_aggregation : Refines e n (aggregation g) (aggregation g') := by
  have := h.expression
  have := h.additive
  refine .of_lexemes fun ts us fence _ => ?_
  cases ts with
  | nil =>
    cases fence with
    | none => exact inferInstanceAs (Refines e 0 (fail _) (fail _))
    | @pipe l us kind =>
      obtain ⟨kind', text⟩ := l
      cases kind
      exact inferInstanceAs (Refines e 0 (fail _) (fail _))
  | cons l ts =>
    obtain ⟨kind, text⟩ := l
    have second : (firstKind (ts ++ us) != some (.mark .lParen)) =
        (firstKind ts != some (.mark .lParen)) :=
      kinds_fence (fun first _ => first != some (.mark .lParen)) (fun _ => rfl) (fun _ => rfl) fence
    have one : 1 ≤ (⟨kind, text⟩ :: ts : List Lexeme).length := Nat.succ_pos _
    rw [List.cons_append]
    cases kind with
    | keyword k =>
      simp only [secondKind_cons, second]
      refine .ite _ (.of_skip one inferInstance) ?_
      · split
        · exact (refines_call k .aggregate one).andThen fun _ => inferInstance
        · infer_instance
        · infer_instance
    | _ => infer_instance

end Aggregations

instance : Refines e n bucketUnit? bucketUnit? := by
  refine .of_lexemes fun ts us fence _ => ?_
  obtain same | ⟨rfl, pipe⟩ := firstKind_fence ts fence
  · rw [same]
    split
    · infer_instance
    · next k found =>
      exact .ite _ (.of_skip (length_pos_of_firstKind found) inferInstance) inferInstance
    · infer_instance
  · rw [pipe]
    exact inferInstanceAs (Refines e 0 (fail _) (fail _))

theorem refines_bucket (some : 1 ≤ n) : Refines e n bucket bucket := .of_skip some inferInstance

theorem startsBucket_fence (fence : Fence us) : startsBucket (ts ++ us) = startsBucket ts :=
  kinds_fence (fun first second => first = some (.keyword .span) && second = some (.mark .lParen))
    (by simp) (by simp) fence

instance : Refines e n grouping grouping := by
  refine .bind fun by_ => ?_
  split
  · refine .of_lexemes fun ts us fence _ => ?_
    rw [startsBucket_fence fence]
    split
    · next starts =>
      have some : 1 ≤ ts.length := by
        cases ts with
        | nil => cases starts
        | cons l ts => exact Nat.succ_pos _
      exact (refines_bucket some).andThen fun _ => inferInstance
    · infer_instance
  · infer_instance

instance (s : Stats) : Refines e n (statsOption? s) (statsOption? s) :=
  .of_option inferInstance <| .of_option inferInstance <| .of_option inferInstance inferInstance

/-- The options of `stats` stand before its aggregations and one behind its groups, all in its
    stage. -/
theorem refines_stats {g : Grammar Cursor} {g' : StageGrammar} (h : g.Refines e g') (some : 1 ≤ n) :
    Refines e n (stats g) (stats g') := by
  have := refines_aggregation (n := 0) h
  exact .of_skip some (.bind fun s => .bind fun _ => .bind fun aggregations => .bind
    fun ⟨span, by_⟩ => .of_option inferInstance inferInstance)

/-- Of an unknown option the value is passed over only if the stage is not at its end. -/
theorem refines_skipUnknownOption (command : String) (two : 2 ≤ n) :
    Refines e n (skipUnknownOption command) (skipUnknownOption command) := by
  refine .of_peek (fun name => ?_) fun zero => absurd zero (Nat.ne_of_gt (Nat.le_of_succ_le two))
  refine .of_remaining fun place placed => .of_raiseAt placed ?_
  refine .of_skip (Nat.le_trans two (Nat.le_max_right 1 n)) (.of_atEnd ?_ ?_)
  · exact inferInstanceAs (Refines e 0 (pure ()) (pure ()))
  · exact refines_skip (Nat.le_refl 1)

instance (d : Dedup) : Refines e n (dedupOption? d) (dedupOption? d) := by
  refine .of_look startsAssignment (fun _ => rfl) (fun _ => rfl) fun ts us fence _ => ?_
  rw [startsAssignment_fence fence]
  split
  · next assigned =>
    have two := length_of_startsAssignment assigned
    exact .of_option inferInstance <| .of_option inferInstance <| .of_option inferInstance <|
      .of_option inferInstance <| (refines_skipUnknownOption _ two).andThen fun _ => inferInstance
  · infer_instance

/-- The options of `dedup` are passed over within the stage, known or not. -/
theorem refines_dedup (some : 1 ≤ n) : Refines e n dedup dedup := by
  refine .of_skip some (.bind fun count => .bind fun _ => ?_)
  refine .of_look startsAssignment (fun _ => rfl) (fun _ => rfl) fun ts us fence _ => ?_
  rw [startsAssignment_fence fence]
  infer_instance

theorem refines_rank (some : 1 ≤ n) : Refines e n rank rank :=
  .of_peek (fun _ => .of_skip (Nat.le_max_left 1 n) inferInstance) fun none =>
    absurd none (Nat.ne_of_gt some)

/-! Extractions and learning. -/

instance : Refines e n pattern pattern := by
  refine .bind fun s => ?_
  cases s <;> infer_instance

/-- A faulty pattern is warned of where it stands. -/
theorem refines_parse (some : 1 ≤ n) : Refines e n parse parse := by
  refine .of_skip some (.bind fun source => .of_remaining fun place placed => .bind fun pattern => ?_)
  have := refines_raiseAt (n := 0) placed
  cases Pattern.groupNames? pattern <;> infer_instance

/-- A pattern with faulty references is warned of where it stands. -/
theorem refines_grok (some : 1 ≤ n) : Refines e n grok grok := by
  refine .of_skip some (.bind fun source => .of_remaining fun place placed => .bind fun pattern => ?_)
  have := refines_raiseAt (n := 0) placed
  infer_instance

instance (o : PatternsOptions) : Refines e n (patternsOption? o) (patternsOption? o) := by
  refine .of_look startsAssignment (fun _ => rfl) (fun _ => rfl) fun ts us fence _ => ?_
  rw [startsAssignment_fence fence]
  split
  · next assigned =>
    have two := length_of_startsAssignment assigned
    refine .of_option inferInstance <| .of_option ?_ <|
      (refines_skipUnknownOption _ two).andThen fun _ => inferInstance
    refine .of_remaining fun place placed => .bind fun pattern => ?_
    have := refines_raiseAt (n := 0) placed
    cases Pattern.groupNames? pattern <;> infer_instance
  · infer_instance

theorem refines_patterns (some : 1 ≤ n) : Refines e n patterns patterns := .of_skip some inferInstance

instance (algorithm : Algorithm) (params : List Parameter) :
    Refines e n (parameter? algorithm params) (parameter? algorithm params) := by
  refine .bind fun ends => ?_
  split
  · infer_instance
  refine .of_look startsAssignment (fun _ => rfl) (fun _ => rfl) fun ts us fence _ => ?_
  rw [startsAssignment_fence fence]
  split
  · next assigned =>
    have two := length_of_startsAssignment assigned
    refine .of_remaining fun place placed => .of_peek (fun name => ?_) fun zero => ?_
    · refine .of_skip (Nat.le_trans two (Nat.le_max_right 1 _)) ?_
      refine .of_remaining fun valuePlace placed' => .bind fun value => ?_
      have := refines_raiseAt (n := 0) placed
      have := refines_raiseAt (n := 0) placed'
      dsimp only
      split
      · infer_instance
      · split <;> infer_instance
    · exact absurd zero (Nat.ne_of_gt (Nat.le_of_succ_le two))
  · infer_instance

theorem refines_learn (algorithm : Algorithm) (some : 1 ≤ n) :
    Refines e n (learn algorithm) (learn algorithm) := .of_skip some inferInstance

/-! Commands and stages. -/

section Commands

variable {g : Grammar Cursor} {g' : StageGrammar} (h : g.Refines e g')
include h

/-- Every command keeps to the stage, and at a boundary there is none. -/
theorem refines_command (first : Bool) : Refines e n (command g first) (command g' first) := by
  refine .of_lexemes fun ts us fence _ => ?_
  have := refines_searchBody (n := 0) h
  obtain same | ⟨rfl, pipe⟩ := firstKind_fence ts fence
  · rw [same]
    have some (kind : TokenKind) (found : firstKind ts = .some kind) : 1 ≤ ts.length :=
      length_pos_of_firstKind found
    split
    · next found => exact .of_skip (some _ found) inferInstance
    · next found => exact refines_describe (some _ found)
    · next found => exact refines_showDatasources (some _ found)
    · next found => exact refines_filter h (some _ found)
    · next found => exact refines_fields (some _ found)
    · next found => exact refines_rename (some _ found)
    · next found => exact refines_stats h (some _ found)
    · next found => exact refines_dedup (some _ found)
    · next found => exact refines_sort (some _ found)
    · next found => exact refines_eval h (some _ found)
    · next found => exact refines_head (some _ found)
    · next found => exact (refines_rank (some _ found)).andThen fun _ => inferInstance
    · next found => exact (refines_rank (some _ found)).andThen fun _ => inferInstance
    · next found => exact refines_parse (some _ found)
    · next found => exact refines_grok (some _ found)
    · next found => exact refines_patterns (some _ found)
    · next found => exact refines_patterns (some _ found)
    · next found => exact refines_learn _ (some _ found)
    · next found => exact refines_learn _ (some _ found)
    · next found => exact refines_learn _ (some _ found)
    · infer_instance
    · infer_instance
  · rw [pipe]
    have refused : Refines e 0 (fail (.expected .command) : Parser Cursor Command)
        (fail (.expected .command)) := inferInstance
    simpa using refused

/-- A stage is read up to the boundary, whatever is left behind its command. -/
theorem refines_stageWith (first : Bool) : Refines e n (stageWith g first) (stageWith g' first) := by
  refine .of_attempt (refines_command h first) (fun c => ?_) fun issue placed => ?_
  · refine .bind fun ends => ?_
    split
    · infer_instance
    · exact .of_remaining fun place placed => .of_raiseAt placed inferInstance
  · exact (refines_raise placed).andThen fun _ => inferInstance

end Commands

end Parser

end PipedQuery
