import PipedQuery.Proofs.Scan.Words

/-!
# What scanned lexemes look like

The texts of numbers, keywords, words in front of `=` and names with a cluster are of a certain form
in every text that is scanned (`genuine_lexemes`).
-/

namespace PipedQuery

namespace Scan

/-- Whether the text is a name with a cluster that scans as the lexeme alone, or would but for a name
    that is a star. -/
def IsClusterWord (l : Lexeme) : Prop :=
  ∃ cluster name, l.text.toList = cluster ++ ':' :: name ∧ ':' ∉ cluster ∧
    cluster.head? ≠ some '@' ∧ IsWord cluster ∧ (lexemes l.text.toList = [l] ∨ name = ['*'])

end Scan

/-- Whether the text of the lexeme fits its kind, in front of a lexeme of the given kind. -/
def Lexeme.IsGenuine (next : Option TokenKind) (l : Lexeme) : Prop :=
  match l.kind with
  | .integer => ∀ d ∈ l.text.toList, d.isDigit = true
  | .decimal => ∃ whole c fraction, l.text.toList = whole ++ '.' :: c :: fraction ∧
      ∀ d ∈ whole ++ c :: fraction, d.isDigit = true
  | .keyword k => Keyword.ofWord? l.text = some k
  | .identifier => Scan.IsWord l.text.toList ∨
      ∀ kind ∈ next, kind.channel = .default ∧ kind ≠ .mark .equal
  | .clusterName | .datedName => ':' ∈ l.text.toList → Scan.IsClusterWord l
  | _ => True

/-- Whether the texts of the lexemes fit their kinds. -/
def Genuine : List Lexeme → Prop
  | [] => True
  | l :: ls => l.IsGenuine (ls.head?.map (·.kind)) ∧ Genuine ls

theorem Genuine.drop {ls : List Lexeme} (genuine : Genuine ls) (n : Nat) : Genuine (ls.drop n) := by
  induction n generalizing ls with
  | zero => exact genuine
  | succ n ih =>
    cases ls with
    | nil => exact genuine
    | cons l ls => exact ih genuine.2

theorem Lexeme.IsGenuine.last {next : Option TokenKind} {l : Lexeme} (genuine : l.IsGenuine next) :
    l.IsGenuine none := by
  unfold IsGenuine at genuine ⊢
  split at genuine <;> simp_all

theorem Genuine.of_append {ls more : List Lexeme} (genuine : Genuine (ls ++ more)) :
    Genuine ls := by
  induction ls with
  | nil => trivial
  | cons l ls ih =>
    refine ⟨?_, ih genuine.2⟩
    cases ls with
    | nil => exact genuine.1.last
    | cons l' ls => exact genuine.1

theorem Lexeme.IsGenuine.filter {l : Lexeme} {ls : List Lexeme}
    (genuine : l.IsGenuine (ls.head?.map (·.kind))) :
    l.IsGenuine ((ls.filter Lexeme.isSignificant).head?.map (·.kind)) := by
  unfold IsGenuine at genuine ⊢
  split at genuine
  case h_4 =>
    rcases genuine with word | next
    · exact .inl word
    · cases ls with
      | nil => exact .inr nofun
      | cons l' ls =>
        have significant : l'.isSignificant = true := decide_eq_true (next l'.kind rfl).1
        rw [List.filter_cons_of_pos significant]
        exact .inr next
  all_goals exact genuine

/-- What the grammar does not read may be left out. -/
theorem Genuine.filter {ls : List Lexeme} (genuine : Genuine ls) :
    Genuine (ls.filter Lexeme.isSignificant) := by
  induction ls with
  | nil => trivial
  | cons l ls ih =>
    rw [List.filter_cons]
    split
    · exact ⟨genuine.1.filter, ih genuine.2⟩
    · exact ih genuine.2

namespace Scan

variable {c : Char} {cs : List Char}

theorem head_dateSuffix (cs : List Char) : ∀ c ∈ (dateSuffix cs).1.head?, c ∈ cs.head? := by
  fun_cases dateSuffix cs <;> simp

/-- Date groups are date groups again when nothing is behind them. -/
theorem dateSuffix_again (cs : List Char) : dateSuffix (dateSuffix cs).1 = ((dateSuffix cs).1, []) := by
  fun_induction dateSuffix cs with
  | case1 sep c cs date groups tail found ih =>
    rw [found] at ih
    have ends : ∀ d ∈ groups.head?, isDateChar d = false := by
      intro d member
      have inside := head_dateSuffix (cs.dropWhile isDateChar) d (by rwa [found])
      have := List.head?_dropWhile_not isDateChar cs
      rw [inside] at this
      simpa using this
    have all := List.all_eq_true.mp (List.all_takeWhile (p := isDateChar) (l := cs))
    rw [List.cons_append, List.cons_append, dateSuffix, if_pos date, takeWhile_append_of_head _ ends,
      dropWhile_append_of_head _ ends, takeWhile_of_all all, dropWhile_of_all all, List.nil_append, ih]
    rfl
  | case2 => simp [dateSuffix]
  | case3 => simp [dateSuffix]

/-- The characters of a name end before its cluster and date suffixes. -/
theorem takeWhile_name {s : List Char} (ends : ∀ d ∈ s.head?, isNameContinue d = false)
    (cs : List Char) :
    (cs.takeWhile isNameContinue ++ s).takeWhile isNameContinue = cs.takeWhile isNameContinue ∧
      (cs.takeWhile isNameContinue ++ s).dropWhile isNameContinue = s := by
  have all := List.all_eq_true.mp (List.all_takeWhile (p := isNameContinue) (l := cs))
  rw [takeWhile_append_of_head _ ends, dropWhile_append_of_head _ ends, takeWhile_of_all all,
    dropWhile_of_all all]
  exact ⟨rfl, List.nil_append s⟩

theorem not_continue_dropWhile (cs : List Char) :
    ∀ d ∈ (cs.dropWhile isNameContinue).head?, isNameContinue d = false := by
  intro d member
  have := List.head?_dropWhile_not isNameContinue cs
  rw [member] at this
  simpa using this

theorem ne_colon_of_isNameContinue {d : Char} (h : isNameContinue d = true) : d ≠ ':' := by
  rintro rfl
  simp [isNameContinue] at h

theorem ne_colon_of_mem_dateSuffix (cs : List Char) : ∀ d ∈ (dateSuffix cs).1, d ≠ ':' := by
  fun_induction dateSuffix cs with
  | case1 sep c cs date groups tail found ih =>
    rw [found] at ih
    have all := List.all_eq_true.mp (List.all_takeWhile (p := isDateChar) (l := cs))
    simp only [Bool.and_eq_true, Bool.or_eq_true, decide_eq_true_eq] at date
    intro d member
    have dateChar : ∀ e, isDateChar e = true → e ≠ ':' := by
      rintro e date rfl
      simp [isDateChar] at date
    simp only [List.cons_append, List.mem_cons, List.mem_append] at member
    rcases member with rfl | rfl | member | member
    · rcases date.1 with rfl | rfl <;> decide
    · exact dateChar d date.2
    · exact dateChar d (all d member)
    · exact ih d member
  | case2 => simp
  | case3 => simp

/-- A name that starts with a star goes on with a letter, or stands alone in front of `@`. -/
theorem startsName_takeWhile (start : startsName (c :: cs) = true) (more : List Char) :
    startsName (c :: (cs.takeWhile isNameContinue ++ more)) = true ∨
      c = '*' ∧ ∃ ds, cs = '@' :: ds := by
  by_cases star : c = '*'
  · subst star
    cases cs with
    | nil => simp [startsName, isNameStart] at start
    | cons d ds =>
      have start : isNameStart d = true := start
      by_cases name : isNameContinue d = true
      · left
        rw [List.takeWhile_cons_of_pos name]
        exact start
      · right
        refine ⟨rfl, ds, ?_⟩
        simp only [isNameStart, isNameContinue, Char.isAlphanum, Bool.or_eq_true,
          decide_eq_true_eq] at start name
        rcases start with (alpha | rfl) | rfl
        · exact absurd (.inl (.inl (.inl (.inl alpha)))) name
        · exact absurd (.inl (.inl (.inr rfl))) name
        · rfl
  · left
    have start : isNameStart c = true := by
      unfold startsName at start
      split at start
      · next same => exact absurd (List.cons.inj same).1 star
      · next same => exact (List.cons.inj same).1 ▸ start
      · simp at start
    unfold startsName
    split
    · next same => exact absurd (List.cons.inj same).1 star
    · next same => exact (List.cons.inj same).1 ▸ start
    · next same => simp at same

/-- The name that starts behind `*` or a colon in front of `@` ends there. -/
theorem cutName_at (ds : List Char) :
    cutName '*' ('@' :: ds) = ⟨nameKind ['*'], ['*'], '@' :: ds⟩ := by
  have cluster : clusterSuffix ['*'] ('@' :: ds) = ([], '@' :: ds) := by simp [clusterSuffix]
  have date : dateSuffix ('@' :: ds) = ([], '@' :: ds) := dateSuffix_of_ne (by simp)
  simp [cutName, isNameContinue, cluster, date, Char.isAlphanum]

theorem ne_colon_of_startsName (start : startsName (c :: cs) = true) : c ≠ ':' := by
  rintro rfl
  exact absurd (show isNameStart ':' = true from start) (by decide)

theorem colonless_name (start : startsName (c :: cs) = true) :
    ':' ∉ c :: cs.takeWhile isNameContinue := by
  intro member
  rcases List.mem_cons.mp member with same | member
  · exact ne_colon_of_startsName start same.symm
  · exact ne_colon_of_isNameContinue (List.all_eq_true.mp List.all_takeWhile _ member) rfl

theorem clusterSuffix_cases (run cs : List Char) :
    clusterSuffix run cs = ([], cs) ∨
      ∃ d ds, cs = ':' :: d :: ds ∧ run.head? ≠ some '@' ∧ startsName (d :: ds) = true ∧
        clusterSuffix run cs =
          (':' :: d :: ds.takeWhile isNameContinue, ds.dropWhile isNameContinue) := by
  fun_cases clusterSuffix run cs with
  | case1 d ds starts =>
    simp only [Bool.and_eq_true, bne_iff_ne, ne_eq] at starts
    exact .inr ⟨d, ds, rfl, starts.1, starts.2, rfl⟩
  | case2 => exact .inl rfl
  | case3 => exact .inl rfl

/-- A name in front of a colon starts whatever comes behind the colon. -/
theorem startsName_cluster {ds : List Char} (start : startsName (c :: cs) = true)
    (behind : cs.dropWhile isNameContinue = ':' :: ds) (more : List Char) :
    startsName (c :: (cs.takeWhile isNameContinue ++ ':' :: more)) = true := by
  rcases startsName_takeWhile start (':' :: more) with first | ⟨rfl, es, rfl⟩
  · exact first
  · have stop : ('@' :: es).dropWhile isNameContinue = '@' :: es := rfl
    rw [stop] at behind
    cases behind

/-- A name with a cluster is cut off whole when nothing is behind it. -/
theorem cutName_again (cs : List Char) {d : Char} {ds date : List Char}
    (notAt : (c :: cs.takeWhile isNameContinue).head? ≠ some '@')
    (starts : startsName (d :: (ds.takeWhile isNameContinue ++ date)) = true)
    (suffix : (dateSuffix (ds.dropWhile isNameContinue)).1 = date) :
    cutName c (cs.takeWhile isNameContinue ++ ':' :: d :: (ds.takeWhile isNameContinue ++ date)) =
      ⟨if !date.isEmpty then .datedName else .clusterName,
        c :: (cs.takeWhile isNameContinue ++ ':' :: d :: (ds.takeWhile isNameContinue ++ date)), []⟩ := by
  have ends : ∀ e ∈ date.head?, isNameContinue e = false := fun e member =>
    not_continue_dropWhile ds e (head_dateSuffix _ e (suffix ▸ member))
  have again : dateSuffix date = (date, []) := suffix ▸ dateSuffix_again _
  have run := takeWhile_name
    (s := ':' :: d :: (ds.takeWhile isNameContinue ++ date)) (by rintro e ⟨⟩; rfl) cs
  have cluster : clusterSuffix (c :: cs.takeWhile isNameContinue)
      (':' :: d :: (ds.takeWhile isNameContinue ++ date)) =
        (':' :: d :: ds.takeWhile isNameContinue, date) := by
    have both : ((c :: cs.takeWhile isNameContinue).head? != some '@' &&
        startsName (d :: (ds.takeWhile isNameContinue ++ date))) = true := by
      simpa [starts] using notAt
    rw [clusterSuffix, if_pos both, (takeWhile_name ends ds).1, (takeWhile_name ends ds).2]
  simp [cutName, run, cluster, again]

/-- A name with a colon is the name of a cluster and of a source on it. -/
theorem isClusterWord_cutName (start : startsName (c :: cs) = true)
    (colon : ':' ∈ (cutName c cs).text) : IsClusterWord (cutName c cs).lexeme := by
  have noColon := colonless_name start
  rcases clusterSuffix_cases (c :: cs.takeWhile isNameContinue) (cs.dropWhile isNameContinue) with
    none | ⟨d, ds, behind, notAt, starts, found⟩
  · exfalso
    simp only [cutName, none, List.append_nil] at colon
    rw [← List.cons_append] at colon
    rcases List.mem_append.mp colon with member | member
    · exact noColon member
    · exact ne_colon_of_mem_dateSuffix _ _ member rfl
  · generalize suffix : (dateSuffix (ds.dropWhile isNameContinue)).1 = date
    have text : (cutName c cs).text = (c :: cs.takeWhile isNameContinue) ++
        ':' :: (d :: (ds.takeWhile isNameContinue ++ date)) := by
      simp [cutName, found, suffix]
    have word : IsWord (c :: cs.takeWhile isNameContinue) := by
      refine ⟨?_, List.all_eq_true.mp List.all_takeWhile⟩
      rcases startsName_takeWhile start [] with starts | ⟨rfl, es, rfl⟩
      · simpa using starts
      · cases behind
    refine ⟨c :: cs.takeWhile isNameContinue, d :: (ds.takeWhile isNameContinue ++ date), ?_, noColon,
      notAt, word, ?_⟩
    · simp [Cut.lexeme, text]
    rcases startsName_takeWhile starts date with starts | ⟨rfl, es, rfl⟩
    · left
      have first := startsName_cluster start behind (d :: (ds.takeWhile isNameContinue ++ date))
      have again := cutName_again cs notAt starts suffix
      rw [← cut_of_startsName first] at again
      have kind : (cutName c cs).kind = if !date.isEmpty then .datedName else .clusterName := by
        simp [cutName, found, suffix]
      rw [Cut.lexeme, String.toList_ofList, text, kind, List.cons_append,
        lexemes_of_cut again (by split <;> simp), lexemes_nil]
    · right
      have other : dateSuffix ('@' :: es) = ([], '@' :: es) := dateSuffix_of_ne (by simp)
      have stop : ('@' :: es).dropWhile isNameContinue = '@' :: es := rfl
      have short : ('@' :: es).takeWhile isNameContinue = [] := rfl
      rw [stop, other] at suffix
      rw [short, ← suffix]
      rfl

theorem cutName_channel (c : Char) (cs : List Char) : (cutName c cs).kind.channel = .default := by
  simp only [cutName]
  split
  · rfl
  split
  · rfl
  · rcases nameKind_cases (c :: cs.takeWhile isNameContinue) with ⟨k, kind, -⟩ | kind
    · rw [kind]
      rfl
    · rw [kind]
      rfl

/-- A name is genuine in front of the lexemes of the text behind it. -/
theorem isGenuine_cutName (start : startsName (c :: cs) = true) :
    (cutName c cs).lexeme.IsGenuine ((lexemes (cutName c cs).rest).head?.map (·.kind)) := by
  by_cases suffixed : (cutName c cs).kind = .datedName ∨ (cutName c cs).kind = .clusterName
  · have cluster : ':' ∈ (cutName c cs).lexeme.text.toList → IsClusterWord (cutName c cs).lexeme := by
      intro colon
      exact isClusterWord_cutName start (by simpa [Cut.lexeme] using colon)
    rcases suffixed with kind | kind <;> simpa [Lexeme.IsGenuine, Cut.lexeme, kind] using cluster
  · have noDate : (dateSuffix (clusterSuffix (c :: cs.takeWhile isNameContinue)
        (cs.dropWhile isNameContinue)).2).1 = [] := by
      by_contra date
      exact suffixed (.inl (by simp [cutName, date]))
    have noCluster : (clusterSuffix (c :: cs.takeWhile isNameContinue)
        (cs.dropWhile isNameContinue)).1 = [] := by
      by_contra cluster
      exact suffixed (.inr (by simp [cutName, noDate, cluster]))
    have text : (cutName c cs).text = c :: cs.takeWhile isNameContinue := by
      simp [cutName, noDate, noCluster]
    have kind : (cutName c cs).kind = nameKind (c :: cs.takeWhile isNameContinue) := by
      simp [cutName, noDate, noCluster]
    rcases nameKind_cases (c :: cs.takeWhile isNameContinue) with ⟨k, same, word⟩ | same
    · rw [same] at kind
      simpa [Lexeme.IsGenuine, Cut.lexeme, kind, text] using word
    · rw [same] at kind
      have word : IsWord (c :: cs.takeWhile isNameContinue) ∨
          ∀ kind ∈ (lexemes (cutName c cs).rest).head?.map (·.kind),
            kind.channel = .default ∧ kind ≠ .mark .equal := by
        rcases startsName_takeWhile start [] with starts | ⟨rfl, ds, rfl⟩
        · rw [List.append_nil] at starts
          exact .inl ⟨starts, List.all_eq_true.mp List.all_takeWhile⟩
        · have behind : cut '@' ds =
              ⟨(cutName '@' ds).kind, (cutName '@' ds).text, (cutName '@' ds).rest⟩ :=
            cut_of_startsName rfl
          rw [cutName_at, lexemes_of_cut behind (cutName_kind_ne '@' ds).1]
          right
          rintro kind ⟨⟩
          exact ⟨cutName_channel '@' ds, (cutName_kind_ne '@' ds).2 .equal⟩
      simpa [Lexeme.IsGenuine, Cut.lexeme, kind, text] using word

/-- A number is genuine in front of everything. -/
theorem isGenuine_cutNumber (digit : c.isDigit = true) (next : Option TokenKind) :
    (cutNumber c cs).lexeme.IsGenuine next := by
  have whole : ∀ d ∈ c :: cs.takeWhile Char.isDigit, d.isDigit = true := by
    intro d member
    rcases List.mem_cons.mp member with rfl | member
    · exact digit
    · exact List.all_eq_true.mp List.all_takeWhile d member
  unfold cutNumber
  dsimp only
  split
  · next d ds _ =>
    by_cases fraction : d.isDigit = true
    · rw [if_pos fraction]
      refine ⟨c :: cs.takeWhile Char.isDigit, d, ds.takeWhile Char.isDigit, String.toList_ofList, ?_⟩
      intro e member
      rcases List.mem_append.mp member with member | member
      · exact whole e member
      · rcases List.mem_cons.mp member with rfl | member
        · exact fraction
        · exact List.all_eq_true.mp List.all_takeWhile e member
    · rw [if_neg fraction]
      intro d member
      exact whole d (by simpa [Cut.lexeme] using member)
  · intro d member
    exact whole d (by simpa [Cut.lexeme] using member)

theorem isGenuine_cutMark (c : Char) (plain withEqual : Mark) (cs : List Char)
    (next : Option TokenKind) : (cutMark c plain withEqual cs).lexeme.IsGenuine next := by
  unfold cutMark
  split <;> trivial

theorem isGenuine_cut (c : Char) (cs : List Char) :
    (cut c cs).lexeme.IsGenuine ((lexemes (cut c cs).rest).head?.map (·.kind)) := by
  -- Every branch but those of numbers and names gives a kind of which nothing is asked.
  unfold cut
  split
  · trivial
  split
  · trivial
  split
  · exact isGenuine_cutMark ..
  split
  · exact isGenuine_cutMark ..
  split
  · exact isGenuine_cutMark ..
  split
  · trivial
  split
  · next digit => exact isGenuine_cutNumber digit _
  split
  · next start => exact isGenuine_cutName start
  split <;> trivial

end Scan

/-- The texts of the lexemes of a text fit their kinds. -/
theorem genuine_lexemes (cs : List Char) : Genuine (Scan.lexemes cs) := by
  match cs with
  | [] =>
    rw [Scan.lexemes_nil]
    trivial
  | c :: cs =>
    have shorter := Scan.cut_rest_length_le c cs
    have others := genuine_lexemes (Scan.cut c cs).rest
    rw [Scan.lexemes_cons]
    split
    · exact others
    · exact ⟨Scan.isGenuine_cut c cs, others⟩
termination_by cs.length

end PipedQuery
