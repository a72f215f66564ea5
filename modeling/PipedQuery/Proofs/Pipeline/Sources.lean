import PipedQuery.Proofs.Grammar.NameParts
import PipedQuery.Proofs.Pipeline.Canonical
import PipedQuery.Proofs.Pipeline.WellFormed
import PipedQuery.Proofs.Pipeline.Whole

/-!
# Describing the sources of a query

A source of a query is written so that a stage `describe` reads it back, but for two kinds of names:
one that needs backticks behind a cluster, and one that is written plainly though the scanner cuts it
at other places than its dots (`parse_describe_iff`).
-/

namespace PipedQuery

open Scan

namespace DataSource

/-- Whether scanning and reading the written source gives it back: on a cluster its name needs no
    backticks, and elsewhere the parts of a name without backticks are those of a source. -/
def isRecoverable (s : DataSource) : Bool :=
  match s.cluster with
  | some _ => s.isPlain
  | none => !s.isPlain || areSourceParts (dottedParts s.name.toList).tail

/-- The cluster and the name of a source with a cluster stand side by side in one lexeme. -/
theorem IsNamed.of_cluster {cluster name : String} (named : IsNamed ⟨some cluster, name⟩) :
    ∃ kind, (kind = .clusterName ∨ kind = .datedName) ∧ ':' ∉ cluster.toList ∧
      cluster.toList.head? ≠ some '@' ∧ IsWord cluster.toList ∧
        (Scan.lexemes (cluster ++ ":" ++ name).toList = [⟨kind, cluster ++ ":" ++ name⟩] ∨
          name = "*") := by
  obtain ⟨⟨⟩⟩ | ⟨l, word, ⟨before, behind, text, noColon, notAt, isWord, alone⟩, same⟩ := named
  have spelled : l.text = String.ofList before ++ ":" ++ String.ofList behind :=
    String.toList_inj.mp (by simpa using text)
  rw [spelled, Parser.sourceOfWord_cluster (by simpa using noColon)] at same
  obtain ⟨rfl, rfl⟩ : cluster = String.ofList before ∧ name = String.ofList behind := by
    simpa using same
  rw [← spelled]
  refine ⟨l.kind, word, by simpa using noColon, by simpa using notAt, by simpa using isWord, ?_⟩
  rcases alone with alone | rfl
  · exact .inl alone
  · exact .inr rfl

variable {s : DataSource}

/-- Every recoverable source of a query is readable. -/
theorem IsNamed.isReadable (named : s.IsNamed) (recoverable : s.isRecoverable = true) :
    s.IsReadable := by
  obtain ⟨cluster, name⟩ := s
  cases cluster with
  | some cluster =>
    have plain : isPlain ⟨some cluster, name⟩ = true := recoverable
    obtain ⟨kind, word, noColon, notAt, -, alone⟩ := named.of_cluster
    refine ⟨plain, noColon, notAt, kind, word, ?_⟩
    have notStar : name ≠ "*" := by
      rintro rfl
      have quoted : (isPlainSource "*" || isPlainName "*") = false := rfl
      cases quoted.symm.trans plain
    rw [lexemes, text_of_cluster rfl plain]
    exact alone.resolve_right notStar
  | none =>
    have found (plain : isPlainSource name = true ∨ isPlainName name = true) :
        areSourceParts (dottedParts name.toList).tail = true := by
      have both : isPlain ⟨none, name⟩ = true := by simpa [isPlain] using plain
      simpa [isRecoverable, both] using recoverable
    unfold IsReadable
    dsimp only
    split
    · next plain =>
      obtain ⟨part, parts, split, whole, word, parted⟩ := exists_parts_of_isPlainSource plain
      have found := found (.inl plain)
      rw [split, List.tail_cons] at found
      rw [whole]
      exact isSourceName_lexemes word parted found
    · intro plain
      obtain ⟨part, parts, split, -, -, words⟩ := exists_words_of_isPlainName plain
      have found := found (.inr plain)
      rw [split, List.tail_cons] at found
      exact (all_isDottedPart_iff split words).mp (all_isDottedPart_of_areSourceParts found)

/-- Whether something is left when the written source is read. -/
def IsCutShort (s : DataSource) : Prop :=
  ∃ ls s' l rest, Reads s.text.toList ls ∧ Pipeless ls ∧
    Parser.dataSource ls = ⟨.ok s', l :: rest, []⟩

/-- Behind the name of a cluster, a colon is left in front of a name between backticks. -/
theorem isCutShort_of_cluster {cluster name : String} (named : IsNamed ⟨some cluster, name⟩)
    (quoted : ¬isPlain ⟨some cluster, name⟩ = true) : IsCutShort ⟨some cluster, name⟩ := by
  obtain ⟨-, -, -, -, word, -⟩ := named.of_cluster
  simp only [isPlain, Bool.or_eq_true, not_or] at quoted
  obtain ⟨cs, backticks⟩ : ∃ cs, (writeBackticks name).toList = Quote.backtick.char :: cs :=
    ⟨_, String.toList_ofList⟩
  have written : (text ⟨some cluster, name⟩).toList =
      cluster.toList ++ ':' :: (writeBackticks name).toList := by
    simp [text, quoted.1, writeName_of_not_plain quoted.2]
  obtain ⟨behind, sound⟩ := (reads_backticks name).mark (show plainMark? ':' = some .colon from rfl)
  have found := lexemes_word_colon word .backtick cs
  rw [← backticks, behind, ← written] at found
  have bare : (Lexeme.word cluster).kind = .identifier ∨
      (∃ k, (Lexeme.word cluster).kind = .keyword k) ∨
        (Lexeme.word cluster).kind = .quoted .backtick := by
    rcases nameKind_cases cluster.toList with ⟨k, kind, -⟩ | kind
    · exact .inr (.inl ⟨k, kind⟩)
    · exact .inl kind
  have part : namePart? true (.word cluster) = some cluster := by
    rcases nameKind_cases cluster.toList with ⟨k, kind, -⟩ | kind <;>
      simp [namePart?, Lexeme.word, kind]
  refine ⟨_, .ofName cluster, .mark .colon, [.backticks name], ⟨found, ?_⟩, ?_, ?_⟩
  · exact List.forall_mem_cons.mpr ⟨isSound_word cluster, sound⟩
  · simp [Pipeless, word_ne_mark]
  · rw [Parser.dataSource_of_name bare, Parser.qualifiedName_of_ne part (by simp)]
    rfl

/-- A plain source without a cluster is written as its name. -/
theorem text_of_isPlain {name : String} (plain : isPlain ⟨none, name⟩ = true) :
    text ⟨none, name⟩ = name := by
  by_cases source : isPlainSource name = true
  · exact text_of_plain rfl source
  · have plain : isPlainName name = true := by simpa [isPlain, source] using plain
    rw [text_of_not_plain rfl source, writeName_of_plain plain]

/-- The parts of a name without backticks.  Only the name of a field may start with `@` here, and all
    its parts are words. -/
theorem exists_parts_of_isPlain {name : String} (plain : isPlain ⟨none, name⟩ = true) :
    ∃ part parts, dottedParts name.toList = part :: parts ∧
      name.toList = part ++ parts.flatMap ('.' :: ·) ∧ IsWord part ∧ (∀ q ∈ parts, IsNamePart q) ∧
        (part.head? ≠ some '@' ∨ ∀ q ∈ parts, IsWord q) := by
  rcases Bool.or_eq_true_iff.mp plain with source | field
  · obtain ⟨part, parts, split, whole, word, parted⟩ := exists_parts_of_isPlainSource source
    refine ⟨part, parts, split, whole, word, parted, .inl fun first => ?_⟩
    refine (isPlainSource_marks source).1 ?_
    rw [whole, List.head?_append, first]
    rfl
  · obtain ⟨part, parts, split, whole, word, words⟩ := exists_words_of_isPlainName field
    exact ⟨part, parts, split, whole, word, fun q inside => isNamePart_of_isWord (words q inside),
      .inr words⟩

/-- A source of a query that is not recoverable is cut short. -/
theorem IsNamed.isCutShort (named : s.IsNamed) (lost : ¬s.isRecoverable = true) : s.IsCutShort := by
  obtain ⟨cluster, name⟩ := s
  cases cluster with
  | some cluster => exact isCutShort_of_cluster named lost
  | none =>
    simp only [isRecoverable, Bool.or_eq_true, Bool.not_eq_true', not_or, Bool.not_eq_false,
      Bool.not_eq_true] at lost
    obtain ⟨plain, other⟩ := lost
    obtain ⟨part, parts, split, whole, word, parted, notAt⟩ := exists_parts_of_isPlain plain
    rw [split, List.tail_cons] at other
    obtain ⟨s', l, rest, left⟩ := Parser.dataSource_of_not_areSourceParts word parted notAt other
    have sound := isSound_lexemes (isNameChar_parts word parted)
    rw [← whole] at left sound
    refine ⟨_, s', l, rest, ⟨by rw [text_of_isPlain plain], ?_⟩, ?_, left⟩
    · exact fun l member => (sound l member).1
    · exact fun l member => (sound l member).2

end DataSource

/-- A text whose command leaves something is no success. -/
theorem isSuccess_of_left {text : String} {ls rest : List Lexeme} {l : Lexeme} {c : Command}
    (reads : Reads text.toList ls) (pipeless : Pipeless ls)
    (whole : Parser.command Grammar.full true ls = ⟨.ok c, l :: rest, []⟩) :
    (parse text).isSuccess = false := by
  let s := Session.ofTokens (scan text) {}
  have clean : s.raised = [] := lexicalDiagnostics_scan reads
  obtain ⟨stage, single, rfl⟩ := stages_of_pipeless reads pipeless
  have issue : (Session.parseStage s.stop true stage).2 =
      [stage.diagnose s.stop ⟨.expected .stageEnd, rest.length + 1⟩] := by
    rw [Session.parseStage_of_command whole, if_neg (List.cons_ne_nil _ _)]
    rfl
  have error : (stage.diagnose s.stop ⟨.expected .stageEnd, rest.length + 1⟩).isError = true := by
    by_contra warning
    have found := Session.isWarning_of_diagnose (by simpa using warning)
    exact Cause.kind_expected_ne .stageEnd (found none)
  change s.query.isSuccess = false
  rw [Session.query_eq, single, Session.parseStages_goesOn s true stage [] (.inl rfl),
    Session.isSuccess_result]
  have kept : (s.behind true stage).raised =
      [stage.diagnose s.stop ⟨.expected .stageEnd, rest.length + 1⟩] := by
    rw [Session.behind, issue, Session.raise, clean, List.nil_append]
  have options : (s.behind true stage).options.maxDiagnostics = 100 := rfl
  simp [Session.parseStages, Session.hasErrors, Session.kept, kept, options, error]

/-- Every source of a query is named as it is written. -/
theorem isNamed_parseWith (options : ParseOptions) (text : String) :
    ∀ c ∈ (parseWith options text).query.commands, ∀ s ∈ c.sources, s.IsNamed := by
  intro c member s inside
  obtain ⟨first, stage, within, found, -⟩ := Session.exists_stage_of_mem member
  rw [Session.parseStage_command] at found
  have kept := kept_of_stageCommand (Session.genuine_of_mem_stages within) found
  cases c with
  | search body => exact kept.1.2 s inside
  | describe source =>
    obtain rfl := List.mem_singleton.mp inside
    exact kept
  | _ => cases inside

/-- What `describe` reads is the source behind it. -/
theorem Parser.command_describe {s : DataSource} {ls rest : List Lexeme} (some : ls ≠ [])
    (found : dataSource ls = ⟨.ok s, rest, []⟩) :
    command Grammar.full true (Keyword.describe.lexeme :: ls) = ⟨.ok (.describe s), rest, []⟩ := by
  simp [command, describe, need_run _ some, found]

/-- A stage `describe` reads a source of a query back from its canonical text, as a success, if and
    only if the source is recoverable. -/
theorem parse_describe_iff (options : ParseOptions) (text : String) :
    ∀ c ∈ (parseWith options text).query.commands, ∀ s ∈ c.sources,
      ((parse ("describe " ++ s.text)).isSuccess = true ∧
        (parse ("describe " ++ s.text)).query = ⟨[.describe s]⟩) ↔ s.isRecoverable = true := by
  intro c member s inside
  have named : s.IsNamed := isNamed_parseWith options text c member s inside
  constructor
  · rintro ⟨success, -⟩
    by_contra lost
    obtain ⟨ls, s', l, rest, reads, pipeless, left⟩ := named.isCutShort lost
    have some : ls ≠ [] := by
      rintro rfl
      cases congrArg Outcome.result left
    have whole := Reads.behind .describe reads
    rw [show Keyword.describe.lowercase = "describe" from Keyword.lowercase_eq rfl] at whole
    have failure : (parse ("describe " ++ s.text)).isSuccess = false :=
      isSuccess_of_left (by simpa using whole) (by simpa using pipeless)
        (Parser.command_describe some left)
    rw [failure] at success
    cases success
  · intro recoverable
    have readable : ∀ c ∈ [Command.describe s], c.IsReadable :=
      List.forall_mem_singleton.mpr (named.isReadable recoverable)
    exact (parseWith_readable (q := ⟨_⟩) (List.cons_ne_nil _ _) readable {}).symm

/-- A dated pattern in a cluster, taken out of a search, describes itself again. -/
theorem parse_describe_iff_pattern :
    (parse "describe remote:logs-2024.*").isSuccess = true ∧
      (parse "describe remote:logs-2024.*").query = ⟨[.describe ⟨some "remote", "logs-2024.*"⟩]⟩ := by
  have sources : (parse "source=`a b`, remote:logs-2024.* | head 5").query.commands.flatMap
      Command.sources = [⟨none, "a b"⟩, ⟨some "remote", "logs-2024.*"⟩] := by
    decide +kernel
  have inside : ⟨some "remote", "logs-2024.*"⟩ ∈
      (parse "source=`a b`, remote:logs-2024.* | head 5").query.commands.flatMap Command.sources := by
    rw [sources]
    decide
  obtain ⟨c, member, inside⟩ := List.mem_flatMap.mp inside
  have text : "describe " ++ DataSource.text ⟨some "remote", "logs-2024.*"⟩ =
      "describe remote:logs-2024.*" := rfl
  rw [← text]
  exact (parse_describe_iff {} _ c member _ inside).mpr rfl

/-- The quoted source `a.1b` is written plainly, but the scanner takes `a.1` for a name with a date
    suffix. -/
theorem parse_describe_date_and_letter :
    (parse "describe 'a.1b'").isSuccess = true ∧
      (parse "describe 'a.1b'").query.commands.flatMap Command.sources = [.ofName "a.1b"] ∧
        (parse ("describe " ++ (DataSource.ofName "a.1b").text)).isSuccess = false := by
  decide +kernel

end PipedQuery
