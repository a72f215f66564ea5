import PipedQuery.Proofs.Scan.Names

/-!
# Scanning sources

A source that is written plainly may scan as a name with a cluster or a date suffix, or as names
with dots between them.  `DataSource.IsReadable` tells which sources stay themselves in that.
-/

namespace PipedQuery

/-- Whether the lexeme is a name that stands for its own text. -/
def Lexeme.isBareName (l : Lexeme) : Bool :=
  match l.kind with
  | .identifier | .datedName | .keyword _ => true
  | _ => false

/-- Whether the lexemes are names with dots between them. -/
def isDottedName : List Lexeme → Bool
  | [] => false
  | [l] => l.isBareName
  | l :: dot :: ls => l.isBareName && dot = .mark .dot && isDottedName ls

/-- Whether the lexemes are a single name, or names with dots between them of which the first has no
    date suffix. -/
def isSourceName (ls : List Lexeme) : Bool :=
  isDottedName ls && (ls.head?.all (fun l => l.kind != .datedName) || ls.length = 1)

namespace DataSource

/-- Whether the name is written without backticks. -/
def isPlain (s : DataSource) : Bool := isPlainSource s.name || isPlainName s.name

/-- The lexemes that the written source scans as. -/
def lexemes (s : DataSource) : List Lexeme := Scan.lexemes s.text.toList

/-- Whether the written source scans as the name of a cluster and a name behind a colon. -/
def IsClustered (s : DataSource) (cluster : String) : Prop :=
  s.isPlain = true ∧ ':' ∉ cluster.toList ∧ cluster.toList.head? ≠ some '@' ∧
    ∃ kind, (kind = .clusterName ∨ kind = .datedName) ∧ s.lexemes = [⟨kind, s.text⟩]

/-- Whether scanning the written source gives it back. -/
def IsReadable (s : DataSource) : Prop :=
  match s.cluster with
  | some cluster => s.IsClustered cluster
  | none =>
    if isPlainSource s.name then isSourceName (Scan.lexemes s.name.toList) = true
    else IsScannable s.name

variable {s : DataSource}

theorem text_of_cluster {cluster : String} (found : s.cluster = some cluster)
    (plain : s.isPlain = true) : s.text = cluster ++ ":" ++ s.name := by
  rw [text, found]
  by_cases source : isPlainSource s.name = true
  · rw [if_pos source]
  · have name : isPlainName s.name = true := by simpa [isPlain, source] using plain
    rw [if_neg source, writeName_of_plain name]

theorem text_of_plain (noCluster : s.cluster = none) (plain : isPlainSource s.name = true) :
    s.text = s.name := by
  rw [text, noCluster, if_pos plain, String.empty_append]

theorem text_of_not_plain (noCluster : s.cluster = none) (quoted : ¬isPlainSource s.name = true) :
    s.text = writeName s.name := by
  rw [text, noCluster, if_neg quoted, String.empty_append]

end DataSource

namespace Scan

/-- The lexemes of a text without blanks are all of it. -/
theorem flatMap_lexemes {cs : List Char} (noBlank : ∀ c ∈ cs, isBlank c = false) :
    (lexemes cs).flatMap (fun l => l.text.toList) = cs := by
  match cs with
  | [] => simp
  | c :: cs =>
    have shorter := cut_rest_length_le c cs
    have whole := cut_text_append_rest c cs
    have others : (lexemes (cut c cs).rest).flatMap (fun l => l.text.toList) = (cut c cs).rest :=
      flatMap_lexemes fun d member => noBlank d (whole ▸ List.mem_append_right _ member)
    rw [lexemes_cons, if_neg (cut_kind_ne_space (noBlank c (by simp)) cs), List.flatMap_cons, others,
      Cut.lexeme, String.toList_ofList, whole]
termination_by cs.length

end Scan

theorem Lexeme.isSound_of_isBareName {l : Lexeme} (bare : l.isBareName = true) : l.IsSound := by
  obtain ⟨kind, text⟩ := l
  cases kind <;> simp_all [isBareName, IsSound, isSignificant, TokenKind.channel, IsClosed,
    TokenKind.isQuoted]

theorem isSound_of_isDottedName {ls : List Lexeme} (dotted : isDottedName ls = true) :
    ∀ l ∈ ls, l.IsSound := by
  fun_induction isDottedName ls with
  | case1 => simp
  | case2 l => simpa using Lexeme.isSound_of_isBareName dotted
  | case3 l dot ls ih =>
    simp only [Bool.and_eq_true, decide_eq_true_eq] at dotted
    obtain ⟨⟨bare, rfl⟩, others⟩ := dotted
    simpa [Lexeme.isSound_of_isBareName bare, Lexeme.isSound_mark] using ih others

/-- A readable source scans without lexical problems. -/
theorem DataSource.IsReadable.reads {s : DataSource} (readable : s.IsReadable) :
    Scan.Reads s.text.toList s.lexemes := by
  refine ⟨rfl, ?_⟩
  unfold IsReadable at readable
  split at readable
  · obtain ⟨-, -, -, kind, name, whole⟩ := readable
    rw [whole]
    rcases name with rfl | rfl <;>
      simp [Lexeme.IsSound, Lexeme.isSignificant, TokenKind.channel, Lexeme.IsClosed,
        TokenKind.isQuoted]
  · next noCluster =>
    split at readable
    · next plain =>
      simp only [isSourceName, Bool.and_eq_true] at readable
      rw [lexemes, text_of_plain noCluster plain]
      exact isSound_of_isDottedName readable.1
    · next quoted =>
      rw [lexemes, text_of_not_plain noCluster quoted]
      have name := Scan.reads_name readable
      exact name.1 ▸ name.2

/-! The characters of plain sources. -/

theorem isNameContinue_of_isPlainSource {name : String} (plain : isPlainSource name = true) {c : Char}
    (member : c ∈ name.toList) : Scan.isNameContinue c = true ∨ c = '.' := by
  unfold isPlainSource at plain
  split at plain
  · cases plain
  · next d ds found =>
    rw [found] at member
    simp only [Bool.and_eq_true, List.all_eq_true, Bool.or_eq_true, decide_eq_true_eq] at plain
    rcases List.mem_cons.mp member with rfl | member
    · left
      rcases plain.1.1.1 with alpha | rfl
      · simp [Scan.isNameContinue, Char.isAlphanum, alpha]
      · rfl
    · rcases plain.1.1.2 c member with (((alphanum | rfl) | rfl) | rfl) | rfl
      · simp [Scan.isNameContinue, alphanum]
      all_goals simp [Scan.isNameContinue]

theorem not_blank_of_isPlainSource {name : String} (plain : isPlainSource name = true) :
    ∀ c ∈ name.toList, Scan.isBlank c = false := by
  intro c member
  rcases isNameContinue_of_isPlainSource plain member with inside | rfl
  · by_contra blank
    simp only [Scan.isBlank, Bool.not_eq_false, Bool.or_eq_true, decide_eq_true_eq] at blank
    rcases blank with ((rfl | rfl) | rfl) | rfl <;> exact absurd inside (by decide)
  · rfl

/-- A plain source is no name behind `@` and names no cluster. -/
theorem isPlainSource_marks {name : String} (plain : isPlainSource name = true) :
    name.toList.head? ≠ some '@' ∧ ':' ∉ name.toList := by
  constructor
  · intro first
    have member := List.mem_of_mem_head? first
    rcases isNameContinue_of_isPlainSource plain member with inside | same
    · exact absurd inside (by decide)
    · exact absurd same (by decide)
  · intro member
    rcases isNameContinue_of_isPlainSource plain member with inside | same
    · exact absurd inside (by decide)
    · exact absurd same (by decide)

end PipedQuery
