import PipedQuery.Proofs.Scan.Munch.Classes
import PipedQuery.Proofs.Scan.Quotations

/-!
# The longest name

A name is a run, maybe a second one, and groups of digits and stars.  The scanner takes all the groups
that there are (`Form.exists_groups`), so that no other name at the same place is longer
(`Form.IsName.length_le`), and only one is as long (`Form.eq_cutName`).
-/

namespace PipedQuery

namespace Form

open Scan

section Groups

variable {groups : List (List Char)} {cs : List Char}

theorem flatten_eq_nil_iff (isGroup : ∀ group ∈ groups, IsGroup group) :
    groups.flatten = [] ↔ groups = [] := by
  constructor
  · intro none
    cases groups with
    | nil => rfl
    | cons group groups =>
      obtain ⟨-, -, -⟩ := isGroup group (by simp)
      cases none
  · rintro rfl
    rfl

/-- Groups start with a separator. -/
theorem head?_flatten (isGroup : ∀ group ∈ groups, IsGroup group) :
    ∀ c ∈ groups.flatten.head?, c = '.' ∨ c = '-' := by
  intro c head
  cases groups with
  | nil => cases head
  | cons group groups =>
    obtain ⟨separator, -, -⟩ := isGroup group (by simp)
    cases head
    exact separator

theorem not_isDateChar_of_separator {c : Char} (separator : c = '.' ∨ c = '-') :
    ¬isDateChar c = true := by
  rcases separator with rfl | rfl <;> decide

/-- A date suffix is a list of groups. -/
theorem exists_groups (cs : List Char) :
    ∃ groups : List (List Char),
      (∀ group ∈ groups, IsGroup group) ∧ groups.flatten = (dateSuffix cs).1 := by
  fun_induction dateSuffix cs with
  | case1 sep c cs date groups rest found ih =>
    obtain ⟨others, isGroup, flatten⟩ := ih
    rw [Bool.and_eq_true, Bool.or_eq_true, decide_eq_true_eq, decide_eq_true_eq] at date
    have first : IsGroup (sep :: c :: cs.takeWhile isDateChar) := by
      refine .intro date.1 (List.cons_ne_nil _ _) ?_
      intro d member
      rcases List.mem_cons.mp member with rfl | member
      · exact isDateChar_iff.mp date.2
      · exact isDateChar_iff.mp (List.mem_takeWhile_imp member)
    refine ⟨(sep :: c :: cs.takeWhile isDateChar) :: others, ?_, ?_⟩
    · intro group member
      rcases List.mem_cons.mp member with rfl | member
      · exact first
      · exact isGroup group member
    · rw [List.flatten_cons, flatten, found]
  | case2 => exact ⟨[], by simp, rfl⟩
  | case3 => exact ⟨[], by simp, rfl⟩

/-- No groups at the start of a text are longer than its date suffix. -/
theorem length_flatten_le (isGroup : ∀ group ∈ groups, IsGroup group)
    (starts : groups.flatten <+: cs) : groups.flatten.length ≤ (dateSuffix cs).1.length := by
  induction groups generalizing cs with
  | nil => exact Nat.zero_le _
  | cons group groups ih =>
    have others : ∀ group ∈ groups, IsGroup group := fun g member => isGroup g (by simp [member])
    obtain ⟨separator, filled, members⟩ := isGroup group (by simp)
    rename_i sep ds
    obtain ⟨d, ds, rfl⟩ := List.exists_cons_of_ne_nil filled
    have digits : ∀ c ∈ ds, isDateChar c = true :=
      fun c member => isDateChar_iff.mpr (members c (by simp [member]))
    have date : ((sep = '.' || sep = '-') && isDateChar d) = true := by
      rw [Bool.and_eq_true, Bool.or_eq_true, decide_eq_true_eq, decide_eq_true_eq]
      exact ⟨separator, isDateChar_iff.mpr (members d (by simp))⟩
    -- What the text goes on with behind the first digit.
    obtain ⟨behind, rfl⟩ := starts
    generalize text : ds ++ (groups.flatten ++ behind) = rest
    have here : ds ++ groups.flatten <+: rest := ⟨behind, by rw [List.append_assoc, text]⟩
    have suffix : (dateSuffix (sep :: d :: rest)).1 =
        sep :: d :: (rest.takeWhile isDateChar ++ (dateSuffix (rest.dropWhile isDateChar)).1) := by
      rw [dateSuffix, if_pos date]
      rfl
    simp only [List.flatten_cons, List.cons_append, List.append_assoc, text, suffix,
      List.length_cons, List.length_append, Nat.add_le_add_iff_right]
    have separators : ∀ c ∈ groups.flatten.head?, ¬isDateChar c = true :=
      fun c head => not_isDateChar_of_separator (head?_flatten others c head)
    rcases takeWhile_of_prefix digits separators here with ⟨none, short⟩ | ⟨whole, later⟩
    · rw [none, List.length_nil]
      omega
    · have shorter := ih others later
      rw [← whole]
      omega

end Groups

section Names

variable {rest run cluster behind : List Char} {groups : List (List Char)}

/-- The run of a name is its first character with all that go on behind it. -/
theorem isRun_iff : IsRun rest run behind ↔
    ∃ c cs, rest = c :: cs ∧ startsName rest = true ∧ run = c :: cs.takeWhile isNameContinue ∧
      behind = cs.dropWhile isNameContinue := by
  constructor
  · rintro ⟨starts, greedy⟩
    obtain ⟨rfl, rfl⟩ := (greedy_iff fun _ => isNameContinue_iff).mp greedy
    exact ⟨_, _, rfl, startsRun_iff.mp starts, rfl, rfl⟩
  · rintro ⟨c, cs, rfl, starts, rfl, rfl⟩
    exact .intro (startsRun_iff.mpr starts)
      ((greedy_iff fun _ => isNameContinue_iff).mpr ⟨rfl, rfl⟩)

/-- The cluster that is cut is the one of the grammar. -/
theorem isCluster_clusterSuffix (run cs : List Char) :
    IsCluster run cs (clusterSuffix run cs).1 := by
  fun_cases clusterSuffix run cs with
  | case1 c cs starts =>
    rw [Bool.and_eq_true, bne_iff_ne] at starts
    exact .second starts.1 (isRun_iff.mpr ⟨c, cs, rfl, starts.2, rfl, rfl⟩)
  | case2 => exact .none
  | case3 => exact .none

/-- A second run is left out or is the one that the scanner takes. -/
theorem IsCluster.cases (h : IsCluster run behind cluster) :
    cluster = [] ∨ cluster = (clusterSuffix run behind).1 := by
  cases h with
  | none => exact .inl rfl
  | second plain second =>
    obtain ⟨c, cs, rfl, starts, rfl, -⟩ := isRun_iff.mp second
    have taken : (run.head? != some '@' && startsName (c :: cs)) = true := by
      rw [Bool.and_eq_true, bne_iff_ne]
      exact ⟨plain, starts⟩
    rw [clusterSuffix, if_pos taken]
    exact .inr rfl

theorem head?_clusterSuffix (run cs : List Char) :
    ∀ c ∈ (clusterSuffix run cs).1.head?, c = ':' := by
  fun_cases clusterSuffix run cs <;> simp

section CutName

variable {c : Char} {cs : List Char}

theorem IsName.startsName (h : IsName rest run cluster groups) : Scan.startsName rest = true := by
  obtain ⟨⟨behind, isRun, -⟩, -⟩ := h
  obtain ⟨c, cs, rfl, starts, -⟩ := isRun_iff.mp isRun
  exact starts

/-- A name is the one that the scanner takes up to its groups, or stops before a second run. -/
theorem IsName.cases (h : IsName (c :: cs) run cluster groups) :
    run = c :: cs.takeWhile isNameContinue ∧
      ((cluster = (clusterSuffix run (cs.dropWhile isNameContinue)).1 ∧
          groups.flatten <+: (clusterSuffix run (cs.dropWhile isNameContinue)).2) ∨
        (cluster = [] ∧ groups = [])) := by
  obtain ⟨⟨behind, isRun, isCluster, starts⟩, isGroup⟩ := h
  obtain ⟨_, _, same, -, rfl, rfl⟩ := isRun_iff.mp isRun
  cases same
  refine ⟨rfl, ?_⟩
  generalize c :: cs.takeWhile isNameContinue = run at *
  generalize cs.dropWhile isNameContinue = behind at *
  have whole := clusterSuffix_append run behind
  rcases isCluster.cases with rfl | rfl
  · cases second : (clusterSuffix run behind).1 with
    | nil =>
      rw [second, List.nil_append] at whole
      left
      rw [whole]
      exact ⟨rfl, starts⟩
    | cons d ds =>
      -- No group starts with a colon.
      have colon : d = ':' := head?_clusterSuffix run behind d (by rw [second]; rfl)
      right
      refine ⟨rfl, (flatten_eq_nil_iff isGroup).mp ?_⟩
      obtain ⟨more, split⟩ := starts
      cases flat : groups.flatten with
      | nil => rfl
      | cons e es =>
        have separator := head?_flatten isGroup e (by rw [flat]; rfl)
        rw [flat, ← whole, second] at split
        obtain ⟨rfl, -⟩ := List.cons.inj split
        rw [colon] at separator
        exact absurd separator (by decide)
  · left
    refine ⟨rfl, ?_⟩
    apply (List.prefix_append_right_inj (clusterSuffix run behind).1).mp
    rw [whole]
    exact starts

/-- No name at the start of a text is longer than the one that the scanner takes. -/
theorem IsName.length_le (h : IsName (c :: cs) run cluster groups) :
    (run ++ cluster ++ groups.flatten).length ≤ (cutName c cs).text.length := by
  obtain ⟨rfl, ⟨rfl, starts⟩ | ⟨rfl, rfl⟩⟩ := h.cases
  · have shorter := length_flatten_le h.isGroup starts
    simp only [cutName, List.length_append, List.length_cons]
    omega
  · simp only [cutName, List.length_append, List.length_cons, List.length_nil, List.flatten_nil]
    omega

end CutName

/-- A keyword is found by its spelling in upper case. -/
theorem ofWord?_iff {word : String} {k : Keyword} :
    Keyword.ofWord? word = some k ↔ word.map Char.toUpper = k.spelling := by
  constructor
  · intro found
    have spelled := List.find?_some found
    rw [beq_iff_eq] at spelled
    exact spelled.symm
  · exact Keyword.ofWord?_eq_some

theorem all_isKeywordChar_iff : run.all isKeywordChar = true ↔ ∀ c ∈ run, WordChar c := by
  rw [List.all_eq_true]
  constructor
  · intro all c member
    exact isKeywordChar_iff.mp (all c member)
  · intro all c member
    exact isKeywordChar_iff.mpr (all c member)

/-- The kind of a name without further parts is that of a keyword or an identifier. -/
theorem nameKind_cases_spelling (run : List Char) :
    (∃ k, nameKind run = .keyword k ∧ (∀ c ∈ run, WordChar c) ∧
        (String.ofList run).map Char.toUpper = k.spelling) ∨
      (nameKind run = .identifier ∧ ¬∃ k : Keyword, (∀ c ∈ run, WordChar c) ∧
        (String.ofList run).map Char.toUpper = k.spelling) := by
  unfold nameKind
  split
  · next word =>
    split
    · next k found =>
      exact .inl ⟨k, rfl, all_isKeywordChar_iff.mp word, ofWord?_iff.mp found⟩
    · next none =>
      right
      refine ⟨rfl, ?_⟩
      rintro ⟨k, -, spelled⟩
      rw [ofWord?_iff.mpr spelled] at none
      cases none
  · next other =>
    right
    refine ⟨rfl, ?_⟩
    rintro ⟨k, word, -⟩
    exact other (all_isKeywordChar_iff.mpr word)

/-- The kind of a name as the scanner tells it from the parts. -/
theorem nameKind_iff {kind : TokenKind} :
    NameKind run cluster groups kind ↔
      kind = if groups ≠ [] then .datedName else if cluster ≠ [] then .clusterName
        else nameKind run := by
  constructor
  · rintro (dated | ⟨none, second⟩ | ⟨none, alone, word, spelled⟩ | ⟨none, alone, other⟩)
    · rw [if_pos dated]
    · rw [if_neg (not_not_intro none), if_pos second]
    · rw [if_neg (not_not_intro none), if_neg (not_not_intro alone), nameKind,
        if_pos (all_isKeywordChar_iff.mpr word), ofWord?_iff.mpr spelled]
    · rw [if_neg (not_not_intro none), if_neg (not_not_intro alone)]
      rcases nameKind_cases_spelling run with ⟨k, -, word, spelled⟩ | ⟨kind, -⟩
      · exact absurd ⟨k, word, spelled⟩ other
      · exact kind.symm
  · rintro rfl
    split
    · next dated => exact .dated dated
    · next none =>
      split
      · next second => exact .cluster (not_not.mp none) second
      · next alone =>
        rcases nameKind_cases_spelling run with ⟨k, kind, word, spelled⟩ | ⟨kind, other⟩
        · rw [kind]
          exact .keyword (not_not.mp none) (not_not.mp alone) word spelled
        · rw [kind]
          exact .identifier (not_not.mp none) (not_not.mp alone) other

theorem IsRun.whole (h : IsRun rest run behind) : rest = run ++ behind := by
  obtain ⟨starts, greedy⟩ := h
  rw [List.cons_append, ← greedy.whole]

/-- The name of the grammar stands at the start of the text. -/
theorem IsName.isPrefix (h : IsName rest run cluster groups) :
    run ++ cluster ++ groups.flatten <+: rest := by
  obtain ⟨⟨behind, isRun, -, starts⟩, -⟩ := h
  rw [isRun.whole, List.append_assoc]
  exact (List.prefix_append_right_inj run).mpr starts

variable {c : Char} {cs : List Char}

/-- A name that the scanner takes is of the form and of the kind. -/
theorem exists_isName_cutName (starts : Scan.startsName (c :: cs) = true) :
    ∃ run cluster groups, IsName (c :: cs) run cluster groups ∧
      run ++ cluster ++ groups.flatten = (cutName c cs).text ∧
      NameKind run cluster groups (cutName c cs).kind := by
  have text : (cutName c cs).text = (cutName c cs).text := rfl
  have kind : (cutName c cs).kind = (cutName c cs).kind := rfl
  conv_rhs at text => simp only [cutName, ← List.cons_append]
  conv_rhs at kind => simp only [cutName]
  generalize first : c :: cs.takeWhile isNameContinue = run at text kind
  generalize more : cs.dropWhile isNameContinue = behind at text kind
  obtain ⟨groups, isGroup, flatten⟩ := exists_groups (clusterSuffix run behind).2
  refine ⟨run, (clusterSuffix run behind).1, groups,
    ⟨⟨behind, ?_, isCluster_clusterSuffix run behind, ?_⟩, isGroup⟩, ?_, ?_⟩
  · exact isRun_iff.mpr ⟨c, cs, rfl, starts, first.symm, more.symm⟩
  · refine ⟨(dateSuffix (clusterSuffix run behind).2).2, ?_⟩
    rw [flatten, List.append_assoc, dateSuffix_append, clusterSuffix_append]
  · rw [text, flatten]
  · simp only [nameKind_iff, kind, ne_eq, ← flatten_eq_nil_iff isGroup, flatten,
      Bool.not_eq_true', List.isEmpty_eq_false_iff]

/-- What is cut as a name is a form of the grammar. -/
theorem munches_cutName (starts : Scan.startsName (c :: cs) = true) :
    Munches (c :: cs) (cutName c cs).kind .default (cutName c cs).text := by
  obtain ⟨run, cluster, groups, isName, text, kind⟩ := exists_isName_cutName starts
  rw [← text]
  apply Munches.name isName _ kind
  intro run' cluster' groups' other
  rw [text]
  exact other.length_le

/-- The longest name of the grammar is the one that is cut. -/
theorem eq_cutName {kind : TokenKind} (isName : IsName (c :: cs) run cluster groups)
    (longest : ∀ run' cluster' groups', IsName (c :: cs) run' cluster' groups' →
      (run' ++ cluster' ++ groups'.flatten).length ≤ (run ++ cluster ++ groups.flatten).length)
    (nameKind : NameKind run cluster groups kind) :
    kind = (cutName c cs).kind ∧ run ++ cluster ++ groups.flatten = (cutName c cs).text := by
  obtain ⟨run', cluster', groups', isName', text, nameKind'⟩ := exists_isName_cutName isName.startsName
  have short := isName.length_le
  have long := longest run' cluster' groups' isName'
  rw [← text] at short ⊢
  have same := eq_of_prefix isName.isPrefix isName'.isPrefix short long
  refine ⟨?_, same⟩
  obtain ⟨rfl, parts⟩ := isName.cases
  obtain ⟨rfl, parts'⟩ := isName'.cases
  rw [List.append_assoc, List.append_assoc, List.append_cancel_left_eq] at same
  have equal : cluster = cluster' ∧ (groups = [] ↔ groups' = []) := by
    rw [← flatten_eq_nil_iff isName.isGroup, ← flatten_eq_nil_iff isName'.isGroup]
    rcases parts with ⟨second, -⟩ | ⟨rfl, rfl⟩
    · rcases parts' with ⟨second', -⟩ | ⟨rfl, rfl⟩
      · rw [second, ← second', List.append_cancel_left_eq] at same
        rw [same]
        exact ⟨second.trans second'.symm, Iff.rfl⟩
      · obtain ⟨rfl, none⟩ := List.append_eq_nil_iff.mp same
        rw [none]
        exact ⟨rfl, Iff.rfl⟩
    · obtain ⟨rfl, none⟩ := List.append_eq_nil_iff.mp same.symm
      rw [none]
      exact ⟨rfl, Iff.rfl⟩
  rw [nameKind_iff] at nameKind nameKind'
  rw [nameKind, nameKind', equal.1]
  simp only [ne_eq, equal.2]

end Names

end Form

end PipedQuery
