import PipedQuery.Grammar.Stage
import PipedQuery.Proofs.Grammar.Names
import PipedQuery.Proofs.Scan.Sources

/-!
# Reading sources back

The lexemes of a readable source are read as that source.
-/

namespace PipedQuery

theorem namePart?_of_isBareName {l : Lexeme} (bare : l.isBareName = true) :
    namePart? true l = some l.text := by
  obtain ⟨kind, text⟩ := l
  cases kind <;> simp_all [Lexeme.isBareName, namePart?]

theorem isBareName_head {l : Lexeme} {ls : List Lexeme} (dotted : isDottedName (l :: ls) = true) :
    l.isBareName = true := by
  match ls with
  | [] => exact dotted
  | [dot] => simp [isDottedName] at dotted
  | dot :: l' :: ls =>
    simp only [isDottedName, Bool.and_eq_true] at dotted
    exact dotted.1.1

namespace Parser

variable {l : Lexeme} {ls rest : List Lexeme}

/-- Names with dots between them are joined to one name. -/
theorem iterate_nameStep_dotted {l : Lexeme} {ls : List Lexeme} (dotted : isDottedName (l :: ls) = true)
    (ends : ∀ name, nameStep name rest = ⟨.ok none, rest, []⟩) (name : String) :
    iterate nameStep name (ls ++ rest) =
      ⟨.ok (name ++ String.ofList (ls.flatMap fun l => l.text.toList)), rest, []⟩ := by
  match ls with
  | [] =>
    rw [List.nil_append, iterate_of_none (ends name)]
    simp
  | [dot] => simp [isDottedName] at dotted
  | dot :: l' :: ls =>
    simp only [isDottedName, Bool.and_eq_true, decide_eq_true_eq] at dotted
    obtain ⟨⟨-, rfl⟩, others⟩ := dotted
    have step := nameStep_of_part (namePart?_of_isBareName (isBareName_head others)) name
      (ls ++ rest)
    rw [List.cons_append, List.cons_append,
      iterate_of_some step (by simp only [List.length_cons]; omega), Outcome.after_nil,
      iterate_nameStep_dotted others ends]
    congr 2
    apply String.toList_inj.mp
    simp [Lexeme.mark, Mark.spelling]
termination_by ls.length

theorem qualifiedName_dotted (dotted : isDottedName ls = true)
    (ends : ∀ name, nameStep name rest = ⟨.ok none, rest, []⟩) :
    qualifiedName true (ls ++ rest) =
      ⟨.ok (String.ofList (ls.flatMap fun l => l.text.toList)), rest, []⟩ := by
  cases ls with
  | nil => cases dotted
  | cons l ls =>
    rw [List.cons_append, qualifiedName_run (namePart?_of_isBareName (isBareName_head dotted)),
      iterate_nameStep_dotted dotted ends]
    congr 2
    apply String.toList_inj.mp
    simp

/-- A source that starts with none of the lexemes of their own meaning is a dotted name. -/
theorem dataSource_of_name (bare : l.kind = .identifier ∨ (∃ k, l.kind = .keyword k) ∨
    l.kind = .quoted .backtick) (ts : List Lexeme) :
    dataSource (l :: ts) = (qualifiedName true (l :: ts)).bind fun name => pure (.ofName name) := by
  rcases bare with kind | ⟨k, kind⟩ | kind <;> simp [dataSource, kind]

/-- A name with a cluster or a date suffix is a source of its own. -/
theorem dataSource_of_word (word : l.kind = .clusterName ∨ l.kind = .datedName)
    (notAt : l.text.toList.head? ≠ some '@') (ts : List Lexeme) :
    dataSource (l :: ts) = ⟨.ok (sourceOfWord l.text), ts, []⟩ := by
  rcases word with kind | kind <;> simp [dataSource, kind, notAt]

theorem dataSource_nameLexemes (name : String) (ends : firstKind rest ≠ some (.mark .dot)) :
    dataSource (nameLexemes name ++ rest) = ⟨.ok (.ofName name), rest, []⟩ := by
  have joined := qualifiedName_nameLexemes true name ends
  obtain ⟨l, ls, found, bare, -⟩ := exists_nameLexemes name
  rw [found] at joined ⊢
  rw [List.cons_append, dataSource_of_name bare, ← List.cons_append, joined]
  rfl

theorem sourceOfWord_cluster {cluster name : String} (noColon : ':' ∉ cluster.toList) :
    sourceOfWord (cluster ++ ":" ++ name) = ⟨some cluster, name⟩ := by
  have text : (cluster ++ ":" ++ name).toList = cluster.toList ++ ':' :: name.toList := by simp
  have before : ∀ c ∈ cluster.toList, (c != ':') = true := by
    intro c member
    simpa using fun same : c = ':' => noColon (same ▸ member)
  have stop : ∀ c ∈ (':' :: name.toList).head?, (c != ':') = false := by
    rintro c ⟨⟩
    rfl
  rw [sourceOfWord, text, Scan.takeWhile_append_of_head _ stop, Scan.dropWhile_append_of_head _ stop,
    Scan.takeWhile_of_all before, Scan.dropWhile_of_all before]
  simp

theorem sourceOfWord_of_not_mem {word : String} (noColon : ':' ∉ word.toList) :
    sourceOfWord word = .ofName word := by
  rw [sourceOfWord]
  exact if_neg noColon

/-- A name that is written plainly as a source is read back. -/
theorem dataSource_plain {name : String} (plain : isPlainSource name = true)
    (named : isSourceName (Scan.lexemes name.toList) = true)
    (ends : firstKind rest ≠ some (.mark .dot)) :
    dataSource (Scan.lexemes name.toList ++ rest) = ⟨.ok (.ofName name), rest, []⟩ := by
  have whole := Scan.flatMap_lexemes (not_blank_of_isPlainSource plain)
  simp only [isSourceName, Bool.and_eq_true, Bool.or_eq_true, decide_eq_true_eq] at named
  obtain ⟨dotted, single⟩ := named
  have joined := qualifiedName_dotted dotted (nameStep_of_ne ends)
  rw [whole, String.ofList_toList] at joined
  cases found : Scan.lexemes name.toList with
  | nil =>
    rw [found] at dotted
    cases dotted
  | cons l ls =>
    rw [found] at dotted single joined whole
    by_cases dated : l.kind = .datedName
    · have alone : ls = [] := by simpa [dated] using single
      subst alone
      have text : l.text = name := by
        apply String.toList_inj.mp
        simpa using whole
      obtain ⟨notAt, noColon⟩ := isPlainSource_marks plain
      rw [List.singleton_append, dataSource_of_word (.inr dated) (text ▸ notAt), text,
        sourceOfWord_of_not_mem noColon]
    · have bare : l.kind = .identifier ∨ (∃ k, l.kind = .keyword k) ∨ l.kind = .quoted .backtick := by
        have bare := isBareName_head dotted
        cases kind : l.kind <;> simp_all [Lexeme.isBareName]
      rw [List.cons_append, dataSource_of_name bare, ← List.cons_append, joined]
      rfl

/-- A readable source is read back. -/
theorem dataSource_lexemes {s : DataSource} (readable : s.IsReadable) (rest : List Lexeme)
    (ends : firstKind rest ≠ some (.mark .dot)) :
    dataSource (s.lexemes ++ rest) = ⟨.ok s, rest, []⟩ := by
  obtain ⟨cluster, name⟩ := s
  cases cluster with
  | some cluster =>
    obtain ⟨plain, noColon, notAt, kind, word, whole⟩ := readable
    have text := DataSource.text_of_cluster rfl plain
    have first : (cluster ++ ":" ++ name).toList.head? ≠ some '@' := by
      cases found : cluster.toList with
      | nil => simp [found]
      | cons c cs =>
        rw [found] at notAt
        simpa [found] using notAt
    rw [whole, text, List.singleton_append, dataSource_of_word word first,
      sourceOfWord_cluster noColon]
  | none =>
    by_cases plain : isPlainSource name = true
    · have named : isSourceName (Scan.lexemes name.toList) = true := by
        simpa [DataSource.IsReadable, plain] using readable
      rw [DataSource.lexemes, DataSource.text_of_plain rfl plain]
      exact dataSource_plain plain named ends
    · have scannable : IsScannable name := by simpa [DataSource.IsReadable, plain] using readable
      rw [DataSource.lexemes, DataSource.text_of_not_plain rfl plain, (Scan.reads_name scannable).1]
      exact dataSource_nameLexemes name ends

end Parser

end PipedQuery
