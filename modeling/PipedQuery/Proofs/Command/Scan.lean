import PipedQuery.Proofs.Command.Readable
import PipedQuery.Proofs.Expr.Scan

/-!
# Scanning canonical commands

The canonical text of a readable command scans as `Command.lexemes` (`Command.IsReadable.reads`).
-/

namespace PipedQuery

namespace Scan

variable {s t : String} {ls more : List Lexeme}

/-- Two texts, the second of which starts with a character that goes on with no lexeme. -/
theorem Reads.concat (h : Reads s.toList ls) (others : Reads t.toList more) (stops : Stops t.toList) :
    Reads (s ++ t).toList (ls ++ more) := by
  rw [String.toList_append]
  exact h.append others stops

/-- A keyword and what stands behind it, with a blank between them. -/
theorem Reads.behind_as (k : Keyword) (s : String)
    (spelled : k.spelling.toList.map Char.toLower = s.toList) {cs : List Char} (h : Reads cs ls) :
    Reads (s.toList ++ ' ' :: cs) (k.lexeme :: ls) :=
  (reads_keyword_as k s spelled).append h.blank (stops_cons.mpr rfl)

theorem Reads.behind (k : Keyword) {cs : List Char} (h : Reads cs ls) :
    Reads (k.lowercase.toList ++ ' ' :: cs) (k.lexeme :: ls) :=
  h.behind_as k k.lowercase k.lowercase_toList.symm

@[simp] theorem isStop_blank : isStop ' ' = true := rfl

@[simp] theorem isStop_comma : isStop ',' = true := rfl

@[simp] theorem isStop_rParen : isStop ')' = true := rfl

/-- A text behind a blank. -/
theorem Reads.spaced (h : Reads s.toList ls) : Reads (" " ++ s).toList ls := by
  rw [String.toList_append]
  exact h.blank

end Scan

open Scan

variable {α : Type} {names : List String}

/-- What may be left out is read if it is there. -/
theorem reads_optional {write : α → String} {lex : α → List Lexeme} {o : Option α}
    (h : ∀ a ∈ o, Reads (write a).toList (lex a)) :
    Reads (writeOptional write o).toList (optionalLexemes lex o) := by
  cases o with
  | none => exact reads_nil
  | some a => exact h a rfl

theorem stops_optional {write : α → String} (h : ∀ a, Stops (write a).toList) (o : Option α) :
    Stops (writeOptional write o).toList := by
  cases o with
  | none => exact stops_nil
  | some a => exact h a

/-- A list with commas reads as its items with commas between them. -/
theorem reads_commaList (text : α → String) (lex : α → List Lexeme) {items : List α}
    (h : ∀ a ∈ items, Reads (text a).toList (lex a)) :
    Reads (commaList (items.map text)).toList (commaLexemes (items.map lex)) :=
  reads_commas_map text lex items h

theorem reads_fieldList (scannable : ∀ name ∈ names, IsScannable name) :
    Reads (fieldList names).toList (fieldLexemes names) :=
  reads_commaList writeName nameLexemes fun name member => reads_name (scannable name member)

theorem reads_alias {column : Option String} (scannable : ∀ name ∈ column, IsScannable name) :
    Reads (aliasText column).toList (aliasLexemes column) := by
  refine reads_optional fun name member => ?_
  have text : (" as " ++ writeName name).toList =
      ' ' :: ("as".toList ++ ' ' :: (writeName name).toList) := by
    simp
  rw [text]
  exact ((reads_name (scannable name member)).behind_as .as_ "as" rfl).blank

theorem stops_alias (column : Option String) : Stops (aliasText column).toList :=
  stops_optional (fun name => by simp [stops_cons]) column

/-- A keyword and what stands behind it, with `=` between them. -/
theorem reads_keyword_equal (k : Keyword) (s : String)
    (spelled : k.spelling.toList.map Char.toLower = s.toList) {cs : List Char} {ls : List Lexeme}
    (h : Reads cs ls) : Reads (s.toList ++ '=' :: cs) (k.lexeme :: .mark .equal :: ls) := by
  rw [← Keyword.lowercase_eq spelled, ← Lexeme.word_lowercase]
  exact reads_assignment (isWord_lowercase k) h

/-- A text and an option behind it, which may be left out. -/
theorem Scan.Reads.option {s : String} {ls : List Lexeme} (h : Reads s.toList ls) (k : Keyword)
    (start : String) (spelled : start.toList = ' ' :: (k.spelling.toList.map Char.toLower ++ ['=']))
    (value : α → Literal) (o : Option α) :
    Reads (s ++ writeOptional (fun a => start ++ (value a).text) o).toList
      (ls ++ optionalLexemes (fun a => optionLexemes k (value a)) o) := by
  apply h.concat
  · refine reads_optional fun a _ => ?_
    have text : (start ++ (value a).text).toList =
        ' ' :: (k.lowercase.toList ++ '=' :: (value a).text.toList) := by
      simp [spelled, k.lowercase_toList]
    rw [text]
    exact (reads_keyword_equal k _ k.lowercase_toList.symm (value a).reads_text).blank
  · exact stops_optional (fun a => by simp [spelled, stops_cons]) o

theorem Renaming.reads {r : Renaming} (old : IsScannable r.old) (new : IsScannable r.new) :
    Reads r.text.toList r.lexemes := by
  have text : r.text.toList = (writeName r.old).toList ++
      ' ' :: ("as".toList ++ ' ' :: (writeName r.new).toList) := by
    simp [Renaming.text]
  rw [text]
  exact (reads_name old).append ((reads_name new).behind_as .as_ "as" rfl).blank
    (stops_cons.mpr rfl)

/-- An assignment reads as its lexemes. -/
theorem Assignment.reads {a : Assignment} (field : IsScannable a.field) (value : a.value.IsWhole) :
    Reads a.text.toList a.lexemes := by
  have text : a.text.toList =
      (writeName a.field).toList ++ ' ' :: '=' :: ' ' :: a.value.text.toList := by
    simp [Assignment.text]
  rw [text]
  exact (reads_name field).append (value.1.reads.blank.mark rfl).blank (stops_cons.mpr rfl)

/-- An aggregation reads as its lexemes. -/
theorem Aggregation.IsReadable.reads {a : Aggregation} (readable : a.IsReadable) :
    Reads a.text.toList a.lexemes :=
  readable.readable.reads.concat (reads_alias readable.column) (stops_alias a.column)

/-- A unit behind a number ends it. -/
theorem stops_unit (k : Keyword) (cs : List Char) : EndsNumber (k.lowercase.toList ++ cs) := by
  obtain ⟨start, -⟩ := isWord_lowercase k
  cases found : k.lowercase.toList with
  | nil => simp [found, startsName] at start
  | cons c more =>
    rw [found] at start
    rintro d ⟨⟩
    refine ⟨not_isDigit_of_startsName start, ?_⟩
    rintro rfl
    exact absurd (show isNameStart '.' = true from start) (by decide)

/-- A number without a sign, in front of what does not go on with it. -/
theorem Literal.reads_number {value : Literal} {cs : List Char} {ls : List Lexeme}
    (number : value.isNumeric = true) (unsigned : value.IsUnsigned) (ends : EndsNumber cs)
    (h : Reads cs ls) : Reads (value.text.toList ++ cs) (value.lexemes ++ ls) := by
  have sound : ∀ l ∈ value.lexemes ++ ls, l.IsSound := by
    intro l member
    rcases List.mem_append.mp member with member | member
    · exact value.reads_text.2 l member
    · exact h.2 l member
  refine ⟨?_, sound⟩
  cases value with
  | int n =>
    obtain ⟨m, rfl⟩ := Int.eq_ofNat_of_zero_le unsigned.1
    have scanned := lexemes_integer m ends
    rw [h.1] at scanned
    rw [Literal.lexemes_of_nonneg unsigned.1]
    exact scanned
  | decimal d =>
    have scanned := lexemes_decimal d ends
    rw [h.1] at scanned
    simpa [Literal.text, Decimal.text, Literal.lexemes, Decimal.lexemes, unsigned.1] using scanned
  | str s => cases number
  | bool b => cases number
  | date kind s => cases number

theorem Bucket.IsReadable.reads {b : Bucket} (readable : b.IsReadable) :
    Reads b.text.toList b.lexemes := by
  have close := (reads_alias readable.column).mark (show plainMark? ')' = some .rParen from rfl)
  have unit : Reads ((writeOptional Keyword.lowercase b.unit).toList ++
      ')' :: (aliasText b.column).toList)
      (optionalLexemes (fun k => [k.lexeme]) b.unit ++ .mark .rParen :: aliasLexemes b.column) :=
    (reads_optional fun k _ => reads_keyword k).append close (by simp [stops_cons])
  have ends : EndsNumber ((writeOptional Keyword.lowercase b.unit).toList ++
      ')' :: (aliasText b.column).toList) := by
    cases b.unit with
    | none => exact (stops_cons.mpr rfl).endsNumber
    | some k => exact stops_unit k _
  have value := Literal.reads_number readable.number readable.unsigned ends unit
  have field := (reads_name readable.field).append (reads_comma value) (by simp [stops_cons])
  have whole := (reads_keyword_as .span "span" rfl).append
    (field.mark (show plainMark? '(' = some .lParen from rfl)) (stops_cons.mpr rfl)
  simpa [Bucket.text, Bucket.lexemes] using whole

theorem SortCast.lowercase_keyword (cast : SortCast) : cast.keyword.lowercase = cast.text := by
  cases cast <;> exact Keyword.lowercase_eq rfl

/-- A sort key reads as its lexemes. -/
theorem SortKey.reads {k : SortKey} (field : IsScannable k.field) : Reads k.text.toList k.lexemes := by
  obtain ⟨name, direction, cast⟩ := k
  have ascending : Reads (SortKey.text ⟨name, .ascending, cast⟩).toList
      (SortKey.lexemes ⟨name, .ascending, cast⟩) := by
    cases cast with
    | none => simpa [SortKey.text, SortKey.lexemes] using reads_name field
    | some cast =>
      have whole := (reads_keyword cast.keyword).append (reads_parens (reads_name field))
        (stops_cons.mpr rfl)
      rw [cast.lowercase_keyword] at whole
      simpa [SortKey.text, SortKey.lexemes] using whole
  cases direction with
  | ascending => exact ascending
  | descending => simpa [SortKey.text, SortKey.lexemes] using reads_minus ascending

theorem Parameter.IsReadable.reads {algorithm : Algorithm} {p : Parameter}
    (readable : p.IsReadable algorithm) : Reads p.text.toList p.lexemes := by
  have text : p.text.toList = p.name.toList ++ '=' :: p.value.text.toList := by
    simp [Parameter.text]
  rw [text]
  exact reads_assignment readable.word p.value.reads_text

/-- The sources of a search read as their lexemes. -/
theorem reads_sources {sources : List DataSource} (readable : ∀ s ∈ sources, s.IsReadable) :
    Reads (commaList (sources.map DataSource.text)).toList
      (commaLexemes (sources.map DataSource.lexemes)) :=
  reads_commaList _ _ fun s member => (readable s member).reads

/-- A search reads as its lexemes. -/
theorem Search.reads {s : Search} (sources : ∀ source ∈ s.sources, source.IsReadable)
    (filter : ∀ e ∈ s.filter, e.IsWhole) : Reads s.text.toList s.lexemes := by
  have filtered : Reads (writeOptional (fun filter => " " ++ filter.text) s.filter).toList
      (optionalLexemes Expr.lexemes s.filter) :=
    reads_optional fun e member => (filter e member).1.reads.spaced
  have body := (reads_sources sources).append filtered
    (stops_optional (fun e => by simp [stops_cons]) s.filter)
  have whole := (reads_keyword_equal .source "source" rfl body).behind_as .search "search" rfl
  simpa [Search.text, Search.lexemes] using whole

/-- The groups behind `by`. -/
theorem reads_by {text : String} {ls : List Lexeme} (h : Reads text.toList ls) :
    Reads (" by " ++ text).toList (Keyword.by_.lexeme :: ls) := by
  simpa using (h.behind_as .by_ "by" rfl).blank

theorem Stats.IsReadable.reads_group {s : Stats} (readable : s.IsReadable) :
    Reads s.groupText.toList s.groupLexemes := by
  have groups := reads_fieldList readable.groupBy
  have span := readable.span
  unfold Stats.groupText Stats.groupLexemes byLexemes
  cases found : s.span with
  | none =>
    cases names : s.groupBy with
    | nil => simp
    | cons name more =>
      rw [names] at groups
      simpa using reads_by groups
  | some b =>
    have bucket := (span b found).reads
    cases names : s.groupBy with
    | nil => exact reads_by bucket
    | cons name more =>
      rw [names] at groups
      have both := bucket.append (reads_comma groups) (by simp [stops_cons])
      have list : Reads (b.text ++ ", " ++ fieldList (name :: more)).toList
          (b.lexemes ++ .mark .comma :: fieldLexemes (name :: more)) := by
        simpa using both
      simpa using reads_by list

theorem Stats.stops_group (s : Stats) : Stops s.groupText.toList := by
  unfold Stats.groupText
  split
  · exact stops_nil
  all_goals simp [stops_cons]

/-- An aggregating command reads as its lexemes. -/
theorem Stats.IsReadable.reads {s : Stats} (readable : s.IsReadable) :
    Reads s.text.toList s.lexemes := by
  have name := reads_keyword_as .stats "stats" rfl
  have aggregations : Reads (" " ++ commaList (s.aggregations.map Aggregation.text)).toList
      (commaLexemes (s.aggregations.map Aggregation.lexemes)) :=
    (reads_commaList _ _ fun a member => (readable.aggregations a member).reads).spaced
  have options := ((name.option .partitions " partitions=" rfl .int s.partitions).option
    .allnum " allnum=" rfl .bool s.allNum).option .delim " delim=" rfl .str s.delimiter
  have grouped := (options.concat aggregations (by simp [stops_cons])).concat
    readable.reads_group s.stops_group
  have whole := grouped.option .dedupSplitvalues " dedup_splitvalues=" rfl .bool s.dedupSplitValues
  have some : s.aggregations.isEmpty = false := by simpa using readable.nonempty
  simpa [Stats.text, Stats.lexemes, some, Literal.text] using whole

theorem reads_count (o : Option Int) :
    Reads (writeOptional (fun n => " " ++ toString n) o).toList
      (optionalLexemes (fun n => (Literal.int n).lexemes) o) :=
  reads_optional fun n _ => (reads_int_text n).spaced

/-- A removal of duplicates reads as its lexemes. -/
theorem Dedup.IsReadable.reads {d : Dedup} (readable : d.IsReadable) :
    Reads d.text.toList d.lexemes := by
  have fields := reads_fieldList readable.fields.2
  have counted : Reads (writeOptional (fun n => toString n ++ " ") d.count ++
      fieldList d.fields).toList
      (optionalLexemes (fun n => (Literal.int n).lexemes) d.count ++ fieldLexemes d.fields) := by
    cases d.count with
    | none => simpa [writeOptional, optionalLexemes] using fields
    | some n =>
      have both := (reads_int_text n).append fields.blank (by simp [stops_cons])
      simpa [writeOptional, optionalLexemes] using both
  have start : Reads ("dedup " ++ writeOptional (fun n => toString n ++ " ") d.count ++
      fieldList d.fields).toList (Keyword.dedup.lexeme ::
        (optionalLexemes (fun n => (Literal.int n).lexemes) d.count ++ fieldLexemes d.fields)) := by
    simpa using counted.behind_as .dedup "dedup" rfl
  have whole := (((start.option .partitions " partitions=" rfl .int d.partitions).option
    .keepempty " keepempty=" rfl .bool d.keepEmpty).option
    .consecutive " consecutive=" rfl .bool d.consecutive).option
    .dedupSplitvalues " dedup_splitvalues=" rfl .bool d.splitValues
  simpa [Dedup.text, Dedup.lexemes, Literal.text] using whole

theorem stops_count (o : Option Int) :
    Stops (writeOptional (fun n => " " ++ toString n) o).toList :=
  stops_optional (fun n => by simp [stops_cons]) o

theorem Head.reads (h : Head) : Reads h.text.toList h.lexemes := by
  have name := reads_keyword_as .head "head" rfl
  have offset : Reads (writeOptional (fun n => " from " ++ toString n) h.offset).toList
      (optionalLexemes (fun n => Keyword.from_.lexeme :: (Literal.int n).lexemes) h.offset) := by
    refine reads_optional fun n _ => ?_
    simpa using ((reads_int_text n).behind_as .from_ "from" rfl).blank
  have whole := (name.concat (reads_count h.size) (stops_count h.size)).concat offset
    (stops_optional (fun n => by simp [stops_cons]) h.offset)
  simpa [Head.text, Head.lexemes] using whole

/-- A ranking reads as its lexemes and starts with a blank. -/
theorem Rank.IsReadable.reads {r : Rank} (readable : r.IsReadable) :
    Reads r.text.toList r.lexemes ∧ Stops r.text.toList := by
  have fields := (reads_fieldList readable.fields.2).spaced
  have groups : Reads (if r.groupBy.isEmpty then "" else " by " ++ fieldList r.groupBy).toList
      (byLexemes r.groupBy) ∧
      Stops (if r.groupBy.isEmpty then "" else " by " ++ fieldList r.groupBy).toList := by
    cases names : r.groupBy with
    | nil => simp [byLexemes]
    | cons name more =>
      have list := readable.groupBy
      rw [names] at list
      exact ⟨reads_by (reads_fieldList list), by simp [stops_cons]⟩
  have whole := ((reads_count r.count).concat fields (by simp [stops_cons])).concat groups.1 groups.2
  refine ⟨by simpa [Rank.text, Rank.lexemes] using whole, ?_⟩
  simp only [Rank.text, String.toList_append, List.append_assoc]
  exact (stops_count r.count).append (by simp [stops_cons])

/-- An extraction reads as its lexemes. -/
theorem Extraction.IsReadable.reads {e : Extraction} (readable : e.IsReadable) :
    Reads e.text.toList e.lexemes := by
  obtain ⟨method, source, pattern, newFields⟩ := e
  have name := reads_name readable.source
  have behind : Reads (writeName source ++ writeOptional (fun p => " " ++ writeString p) pattern).toList
      (nameLexemes source ++ optionalLexemes (fun p => [.string p]) pattern) :=
    name.concat (reads_optional fun p _ => (reads_string p).spaced)
      (stops_optional (fun p => by simp [stops_cons]) pattern)
  cases method with
  | regex =>
    have whole := behind.behind_as .parse "parse" rfl
    simpa [Extraction.text, Extraction.lexemes, ExtractionMethod.command,
      ExtractionMethod.keyword] using whole
  | grok =>
    have whole := behind.behind_as .grok "grok" rfl
    simpa [Extraction.text, Extraction.lexemes, ExtractionMethod.command,
      ExtractionMethod.keyword] using whole
  | patterns =>
    have command := reads_keyword_as .patterns "patterns" rfl
    have options := (command.option .newField " new_field=" rfl .str newFields.head?).option
      .pattern " pattern=" rfl .str pattern
    have whole := options.concat name.spaced (by simp [stops_cons])
    simpa [Extraction.text, Extraction.lexemes, ExtractionMethod.keyword, Literal.text] using whole

theorem Algorithm.lowercase_keyword (algorithm : Algorithm) :
    algorithm.keyword.lowercase = algorithm.name := by
  cases algorithm <;> exact Keyword.lowercase_eq rfl

theorem reads_parameters {algorithm : Algorithm} {params : List Parameter}
    (readable : ∀ p ∈ params, p.IsReadable algorithm) :
    Reads (String.join (params.map fun p => " " ++ p.text)).toList
      (params.flatMap Parameter.lexemes) ∧
      Stops (String.join (params.map fun p => " " ++ p.text)).toList := by
  induction params with
  | nil => exact ⟨reads_nil, stops_nil⟩
  | cons p params ih =>
    obtain ⟨others, stops⟩ := ih fun p' member => readable p' (by simp [member])
    have both := ((readable p (by simp)).reads.spaced).append others stops
    have text : (String.join ((p :: params).map fun p => " " ++ p.text)).toList =
        (" " ++ p.text).toList ++ (String.join (params.map fun p => " " ++ p.text)).toList := by
      simp
    rw [text]
    exact ⟨both, by simp [stops_cons]⟩

namespace Command

/-- The text of a readable command scans as its lexemes. -/
theorem IsReadable.reads {c : Command} (readable : c.IsReadable) : Reads c.text.toList c.lexemes := by
  cases c with
  | search body => exact Search.reads readable.2.1 readable.2.2
  | describe source =>
    have whole := (DataSource.IsReadable.reads readable).behind_as .describe "describe" rfl
    simpa [text, lexemes] using whole
  | showDatasources =>
    have whole := (reads_keyword_as .datasources "datasources" rfl).behind_as .show_ "show" rfl
    simpa [text, lexemes] using whole
  | filter condition =>
    have whole := readable.1.reads.behind_as .where_ "where" rfl
    simpa [text, lexemes] using whole
  | fields exclude names =>
    have list := reads_fieldList readable.2
    cases exclude with
    | false => simpa [text, lexemes] using list.behind_as .fields "fields" rfl
    | true => simpa [text, lexemes] using (reads_minus list.blank).behind_as .fields "fields" rfl
  | rename renamings =>
    have list := reads_commaList Renaming.text Renaming.lexemes fun r member =>
      Renaming.reads (readable.2 r member).1 (readable.2 r member).2
    simpa [text, lexemes] using list.behind_as .rename "rename" rfl
  | stats body => exact Stats.IsReadable.reads readable
  | dedup body => exact Dedup.IsReadable.reads readable
  | sort keys =>
    have list := reads_commaList SortKey.text SortKey.lexemes fun k member =>
      SortKey.reads (readable.2 k member)
    simpa [text, lexemes] using list.behind_as .sort "sort" rfl
  | eval assignments =>
    have list := reads_commaList Assignment.text Assignment.lexemes fun a member =>
      Assignment.reads (readable.2 a member).1 (readable.2 a member).2
    simpa [text, lexemes] using list.behind_as .eval "eval" rfl
  | head body => exact body.reads
  | top body =>
    obtain ⟨ranking, stops⟩ := Rank.IsReadable.reads readable
    have whole := (reads_keyword_as .top "top" rfl).append ranking stops
    simpa [text, lexemes] using whole
  | rare body =>
    obtain ⟨ranking, stops⟩ := Rank.IsReadable.reads readable
    have whole := (reads_keyword_as .rare "rare" rfl).append ranking stops
    simpa [text, lexemes] using whole
  | extract body => exact Extraction.IsReadable.reads readable
  | learn algorithm params =>
    obtain ⟨list, stops⟩ := reads_parameters readable
    have whole := (reads_keyword algorithm.keyword).append list stops
    rw [algorithm.lowercase_keyword] at whole
    simpa [text, lexemes] using whole

end Command

end PipedQuery
