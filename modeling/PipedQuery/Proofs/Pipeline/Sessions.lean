import PipedQuery.Proofs.Pipeline.Stages
import PipedQuery.Proofs.Scan.Genuine

/-!
# What sessions are made of

The stages of a scanned text consist of genuine lexemes, and every command of a query is that of a
stage whose diagnostics are among those of the query.
-/

namespace PipedQuery

/-- The first stage is the start of the lexemes, and the others stand within. -/
theorem infix_splitPipes (ls : List Lexeme) :
    ∃ stage more, splitPipes ls = stage :: more ∧ stage <+: ls ∧ ∀ s ∈ more, s <:+: ls := by
  induction ls with
  | nil => exact ⟨[], [], rfl, List.nil_prefix, nofun⟩
  | cons l ls ih =>
    obtain ⟨stage, more, split, start, within⟩ := ih
    have inside : ∀ s ∈ stage :: more, s <:+: l :: ls := by
      intro s member
      rcases List.mem_cons.mp member with rfl | member
      · exact start.isInfix.trans (List.suffix_cons l ls).isInfix
      · exact (within s member).trans (List.suffix_cons l ls).isInfix
    rw [splitPipes, split]
    split
    · exact ⟨[], stage :: more, rfl, List.nil_prefix, inside⟩
    · exact ⟨l :: stage, more, rfl, (List.prefix_cons_inj l).mpr start,
        fun s member => inside s (List.mem_cons_of_mem stage member)⟩

/-- Between the pipes the lexemes are as genuine as in the whole. -/
theorem genuine_of_mem_splitPipes {ls stage : List Lexeme} (genuine : Genuine ls)
    (member : stage ∈ splitPipes ls) : Genuine stage := by
  obtain ⟨first, more, split, start, within⟩ := infix_splitPipes ls
  have inside : stage <:+: ls := by
    rw [split] at member
    rcases List.mem_cons.mp member with rfl | member
    · exact start.isInfix
    · exact within stage member
  obtain ⟨before, behind, rfl⟩ := inside
  have rest := genuine.of_append.drop before.length
  rw [List.drop_left] at rest
  exact rest

namespace Session

/-- The tokens of a session come from a scan. -/
theorem genuine_tokens (text : String) (options : ParseOptions) :
    Genuine ((ofTokens (scan text) options).tokens.map Token.toLexeme) := by
  have significant := significant_scan text
  change Genuine (((scan text).filter fun t => t.isSignificant).map Token.toLexeme)
  rw [significant]
  exact (genuine_lexemes text.toList).filter

theorem genuine_stage (text : String) (options : ParseOptions) :
    Genuine (ofTokens (scan text) options).stage.lexemes := by
  have whole := genuine_tokens text options
  rw [← List.takeWhile_append_dropWhile (p := fun t : Token => !t.isPipe)
    (l := (ofTokens (scan text) options).tokens), List.map_append] at whole
  exact whole.of_append

theorem genuine_of_mem_stages {text : String} {options : ParseOptions} {stage : Stage}
    (member : stage ∈ stages (ofTokens (scan text) options).tokens) : Genuine stage.lexemes := by
  apply genuine_of_mem_splitPipes (genuine_tokens text options)
  rw [← lexemes_stages]
  exact List.mem_map_of_mem member

/-- Nothing that has been raised is taken back. -/
theorem mem_raised_parseStages {s : Session} {d : Diagnostic} (member : d ∈ s.raised) (first : Bool)
    (more : List Stage) : d ∈ (s.parseStages first more).2.raised :=
  (parseStages_extends s first more).2.subset member

/-- What the first stage reports is still there behind the others. -/
theorem mem_raised_of_mem_parseStage {s : Session} {first : Bool} {stage : Stage} {d : Diagnostic}
    (member : d ∈ (parseStage s.stop first stage).2) (more : List Stage) :
    d ∈ (s.parseStages first (stage :: more)).2.raised := by
  have later : d ∈ (s.behind first stage).raised := List.mem_append_right _ member
  rcases goesOn_or_stopped s first stage with goesOn | ⟨off, found⟩
  · rw [parseStages_goesOn s first stage more goesOn]
    exact mem_raised_parseStages later false more
  · rw [parseStages_stopped s first stage more off found]
    exact later

/-- The commands of a query are those of its stages, whether parsing recovers from errors or not, and
    what is wrong with a stage of a command is wrong with the query. -/
theorem exists_stage_of_mem {s : Session} {first : Bool} {more : List Stage} {c : Command}
    (member : c ∈ (s.parseStages first more).1) :
    ∃ first', ∃ stage ∈ more, (parseStage s.stop first' stage).1 = some c ∧
      ∀ d ∈ (parseStage s.stop first' stage).2, d ∈ (s.parseStages first more).2.raised := by
  induction more generalizing s first with
  | nil => cases member
  | cons stage more ih =>
    by_cases found : (parseStage s.stop first stage).1 = some c
    · exact ⟨first, stage, List.mem_cons_self, found,
        fun d inside => mem_raised_of_mem_parseStage inside more⟩
    rcases goesOn_or_stopped s first stage with goesOn | ⟨off, error⟩
    · rw [parseStages_goesOn s first stage more goesOn] at member ⊢
      rcases List.mem_append.mp member with here | later
      · exact absurd (Option.mem_toList.mp here) found
      · obtain ⟨first', stage', inside, found', raised⟩ := ih later
        exact ⟨first', stage', List.mem_cons_of_mem stage inside, found', raised⟩
    · rw [parseStages_stopped s first stage more off error] at member
      exact absurd (Option.mem_toList.mp member) found

end Session

end PipedQuery
