import PipedQuery.Proofs.Command.Lexemes
import PipedQuery.Proofs.Grammar.Stages
import PipedQuery.Proofs.Parser.Options

/-!
# Commands that end in options

The options of `dedup`, and the parameters of the learning algorithms, are read one after another
behind a head without a mark `=` (`endsInOptions_dedup`, `endsInOptions_learn`).  Of an option that it
does not know `dedup` passes over three lexemes whatever its value is (`dedupOption?_unknown`).  That is
all of the option if the value has no sign (`dedup_dropped`), and otherwise the number is left
(`dedup_cut`).  `kmeans` and `ad` read the value of an unknown parameter and drop it (`learn_dropped`).
-/

namespace PipedQuery

namespace Parser

variable {α : Type}

/-! Values. -/

theorem readsOne_boolean : ReadsOne boolean := by
  intro ts a rest found
  cases ts with
  | nil => cases found
  | cons l ts =>
    by_cases yes : l.kind = .keyword .true_
    · have run (us : List Lexeme) : boolean (l :: us) = ⟨.ok true, us, []⟩ := by
        simp [boolean, eatKeyword, eat_of_eq us yes]
      cases (run ts).symm.trans found
      exact ⟨l, rfl, by simp [yes], run⟩
    · have other (us : List Lexeme) : firstKind (l :: us) ≠ some (.keyword .true_) := by
        simpa using yes
      by_cases no : l.kind = .keyword .false_
      · have run (us : List Lexeme) : boolean (l :: us) = ⟨.ok false, us, []⟩ := by
          simp [boolean, eatKeyword, eat_of_ne (other us), eat_of_eq us no]
        cases (run ts).symm.trans found
        exact ⟨l, rfl, by simp [no], run⟩
      · simp [boolean, eatKeyword, eat_run, yes, no] at found

theorem readsOne_integer : ReadsOne integer := by
  intro ts a rest found
  cases ts with
  | nil => cases found
  | cons l ts =>
    by_cases kind : l.kind = .integer
    · by_cases small : digitsValue l.text ≤ maxInt
      · have run (us : List Lexeme) : integer (l :: us) = ⟨.ok (digitsValue l.text), us, []⟩ := by
          simp [integer, kind, small]
        cases (run ts).symm.trans found
        exact ⟨l, rfl, by simp [kind], run⟩
      · simp [integer, kind, small] at found
    · simp [integer, kind] at found

/-- An unsigned constant is one lexeme, which is no mark. -/
theorem exists_of_unsignedLiteral {ts rest : List Lexeme} {a : Literal}
    (found : unsignedLiteral ts = ⟨.ok a, rest, []⟩) :
    ∃ l, ts = l :: rest ∧ (∀ m, l.kind ≠ .mark m) ∧
      ∀ us, unsignedLiteral (l :: us) = ⟨.ok a, us, []⟩ := by
  cases ts with
  | nil => cases found
  | cons l ts =>
    cases kind : l.kind with
    | integer | decimal =>
      have number : l.kind.isNumber = true := by rw [kind]; rfl
      cases value : numberLiteral? l with
      | none => simp [unsignedLiteral, kind, value] at found
      | some literal =>
        have run := unsignedLiteral_number number value
        cases (run ts).symm.trans found
        exact ⟨l, rfl, by simp [kind], run⟩
    | quoted q =>
      cases q with
      | backtick => simp [unsignedLiteral, kind] at found
      | double | single =>
        have run (us : List Lexeme) :
            unsignedLiteral (l :: us) = ⟨.ok (.str (unquote l.text).value), us, []⟩ := by
          simp [unsignedLiteral, kind]
        cases (run ts).symm.trans found
        exact ⟨l, rfl, by simp [kind], run⟩
    | keyword k =>
      by_cases yes : k = .true_
      · have run (us : List Lexeme) : unsignedLiteral (l :: us) = ⟨.ok (.bool true), us, []⟩ := by
          simp [unsignedLiteral, kind, yes]
        cases (run ts).symm.trans found
        exact ⟨l, rfl, by simp [kind], run⟩
      · by_cases no : k = .false_
        · have run (us : List Lexeme) :
              unsignedLiteral (l :: us) = ⟨.ok (.bool false), us, []⟩ := by
            simp [unsignedLiteral, kind, no]
          cases (run ts).symm.trans found
          exact ⟨l, rfl, by simp [kind], run⟩
        · simp [unsignedLiteral, kind, yes, no] at found
    | _ => simp [unsignedLiteral, kind] at found

/-- A constant with a sign is two lexemes. -/
theorem exists_of_literal_negative {ts rest : List Lexeme} {a : Literal}
    (negative : startsNegative ts = true) (found : literal ts = ⟨.ok a, rest, []⟩) :
    ∃ sign l, ts = sign :: l :: rest ∧ sign.kind = .mark .minus ∧ l.kind.isNumber = true ∧
      ∀ us, literal (sign :: l :: us) = ⟨.ok a, us, []⟩ := by
  match ts with
  | [] => cases negative
  | [sign] => simp [startsNegative] at negative
  | sign :: l :: ts =>
    have run (us : List Lexeme) : literal (sign :: l :: us) =
        (unsignedLiteral (l :: us)).bind fun value => pure value.neg := by
      have starts : startsNegative (sign :: l :: us) = true := negative
      simp [literal, starts]
    rw [run] at found
    obtain ⟨value, between, read, ⟨⟩⟩ := Outcome.bind_eq_ok_iff.mp found
    obtain ⟨m, ⟨⟩, -, alone⟩ := exists_of_unsignedLiteral read
    simp only [startsNegative, firstKind_cons, secondKind_cons, Option.some.injEq,
      Option.any_some, Bool.and_eq_true, decide_eq_true_eq] at negative
    refine ⟨sign, l, rfl, negative.1, negative.2, fun us => ?_⟩
    rw [run, alone]
    rfl

/-- A constant without a sign is one lexeme. -/
theorem exists_of_literal_unsigned {ts rest : List Lexeme} {a : Literal}
    (unsigned : startsNegative ts = false) (found : literal ts = ⟨.ok a, rest, []⟩) :
    ∃ l, ts = l :: rest ∧ (∀ m, l.kind ≠ .mark m) ∧ ∀ us, literal (l :: us) = ⟨.ok a, us, []⟩ := by
  rw [literal_of_not_negative unsigned] at found
  obtain ⟨l, rfl, other, run⟩ := exists_of_unsignedLiteral found
  refine ⟨l, rfl, other, fun us => ?_⟩
  have unsigned : startsNegative (l :: us) = false := by simp [startsNegative, other]
  rw [literal_of_not_negative unsigned, run]

theorem readsApart_literal : ReadsApart (fun _ => True) literal := by
  intro ts a rest found
  cases negative : startsNegative ts with
  | true =>
    obtain ⟨sign, l, rfl, minus, number, run⟩ := exists_of_literal_negative negative found
    have other : l.kind ≠ .mark .equal := by
      intro equal
      simp [equal, TokenKind.isNumber] at number
    refine ⟨[sign, l], rfl, List.cons_ne_nil _ _, ?_, fun us _ => run us⟩
    exact List.forall_mem_cons.mpr ⟨by simp [minus], List.forall_mem_singleton.mpr other⟩
  | false =>
    obtain ⟨l, rfl, other, run⟩ := exists_of_literal_unsigned negative found
    exact ⟨[l], rfl, List.cons_ne_nil _ _, List.forall_mem_singleton.mpr (other _), fun us _ => run us⟩

/-! Names and lists. -/

/-- Behind a name stands a dot with a part of a name, or nothing that is read. -/
theorem dottedPart?_cases (ts : List Lexeme) :
    dottedPart? ts = ⟨.ok none, ts, []⟩ ∨
      ∃ dot l rest part, ts = dot :: l :: rest ∧ dot.kind = .mark .dot ∧
        namePart? true l = some part ∧ dottedPart? ts = ⟨.ok (some part), rest, []⟩ := by
  cases next : nextPart? ts with
  | none => exact .inl (dottedPart?_of_none next)
  | some part =>
    obtain ⟨dot, l, rest, rfl, kind, named⟩ := exists_of_nextPart? next
    exact .inr ⟨dot, l, rest, part, rfl, kind, named, dottedPart?_of_some next⟩

theorem stepsApart_nameStep :
    StepsApart (fun _ => True) (firstKind · ≠ some (.mark .dot)) nameStep where
  goes_of_ends _ _ := trivial
  stops a us ends := nameStep_of_ne ends a
  last a ts rest found := by
    obtain none | ⟨dot, l, more, part, -, -, -, some⟩ := dottedPart?_cases ts
    · simp only [nameStep, bind_run, none] at found
      cases found
      rfl
    · simp only [nameStep, bind_run, some] at found
      cases found
  next a a' ts rest found := by
    obtain none | ⟨dot, l, more, part, rfl, kind, named, some⟩ := dottedPart?_cases ts
    · simp only [nameStep, bind_run, none] at found
      cases found
    · simp only [nameStep, bind_run, some] at found
      cases found
      have other : l.kind ≠ .mark .equal := by
        intro equal
        simp [namePart?, equal] at named
      refine ⟨[dot, l], rfl, List.cons_ne_nil _ _, ?_, fun _ => trivial, fun us _ => ?_⟩
      · exact List.forall_mem_cons.mpr ⟨by simp [kind], List.forall_mem_singleton.mpr other⟩
      · simp [nameStep, dottedPart?, nextPart?, kind, named]

theorem readsApart_fieldName : ReadsApart (firstKind · ≠ some (.mark .dot)) fieldName := by
  intro ts a rest found
  cases ts with
  | nil => cases found
  | cons l ts =>
    cases part : namePart? false l with
    | none => simp [fieldName, qualifiedName, part] at found
    | some first =>
      have other : l.kind ≠ .mark .equal := by
        intro equal
        simp [namePart?, equal] at part
      rw [fieldName, qualifiedName_run part] at found
      obtain ⟨front, rfl, equalless, -, run⟩ := stepsApart_nameStep.iterate found
      refine ⟨l :: front, rfl, List.cons_ne_nil _ _, List.forall_mem_cons.mpr ⟨other, equalless⟩,
        fun us ends => ?_⟩
      rw [List.cons_append, fieldName, qualifiedName_run part, run us ends]

theorem lenientStep_sign {item : StageParser α} {l : Lexeme} (kind : l.kind = .mark .comma)
    (items : List α) (ts : List Lexeme) :
    lenientStep item items (l :: ts) =
      match item ts with
      | ⟨.ok a, rest, raised⟩ => ⟨.ok (some (a :: items)), rest, raised⟩
      | ⟨.error issue, _, raised⟩ => ⟨.ok none, [], raised ++ [issue]⟩ := by
  generalize read : item ts = o
  obtain ⟨issue | a, rest, raised⟩ := o <;> simp [lenientStep, eatMark, eat_of_eq ts kind, read]

theorem stepsApart_lenientStep {item : StageParser α} {ends : List Lexeme → Prop}
    (apart : ReadsApart ends item) (comma : ∀ us, firstKind us = some (.mark .comma) → ends us) :
    StepsApart ends (fun us => ends us ∧ firstKind us ≠ some (.mark .comma)) (lenientStep item) where
  goes_of_ends us stop := stop.1
  stops items us stop := lenientStep_of_ne stop.2 items
  last items ts rest found := by
    by_cases other : firstKind ts ≠ some (.mark .comma)
    · rw [lenientStep_of_ne other] at found
      cases found
      rfl
    · obtain ⟨sign, ts, rfl, kind⟩ := exists_of_firstKind (not_not.mp other)
      rw [lenientStep_sign kind] at found
      generalize item ts = o at found
      obtain ⟨issue | a, between, raised⟩ := o
      · have none := congrArg Outcome.raised found
        simp at none
      · cases found
  next items items' ts rest found := by
    by_cases other : firstKind ts ≠ some (.mark .comma)
    · rw [lenientStep_of_ne other] at found
      cases found
    · obtain ⟨sign, ts, rfl, kind⟩ := exists_of_firstKind (not_not.mp other)
      rw [lenientStep_sign kind] at found
      generalize read : item ts = o at found
      obtain ⟨issue | a, between, raised⟩ := o
      · cases found
      · cases found
        obtain ⟨front, rfl, -, equalless, run⟩ := apart ts a rest read
        refine ⟨sign :: front, rfl, List.cons_ne_nil _ _,
          List.forall_mem_cons.mpr ⟨by simp [kind], equalless⟩, fun us => comma _ (by simp [kind]),
          fun us goes => ?_⟩
        rw [List.cons_append, lenientStep_sign kind, run us goes]

theorem readsApart_lenientList {item : StageParser α} {ends : List Lexeme → Prop}
    (apart : ReadsApart ends item)
    (comma : ∀ us, firstKind us = some (.mark .comma) → ends us) :
    ReadsApart (fun us => ends us ∧ firstKind us ≠ some (.mark .comma)) (lenientList item) := by
  have steps := stepsApart_lenientStep apart comma
  intro ts as rest found
  have run (ts : List Lexeme) : lenientList item ts = (item ts).bind fun a =>
     (iterate (lenientStep item) [a]) >>= fun items => pure items.reverse := rfl
  rw [run] at found
  obtain ⟨a, between, first, others⟩ := Outcome.bind_eq_ok_iff.mp found
  obtain ⟨items, between', others, ⟨⟩⟩ := Outcome.bind_eq_ok_iff.mp others
  obtain ⟨front, rfl, some, equalless, read⟩ := apart ts a between first
  obtain ⟨more, rfl, equalless', goes, read'⟩ := steps.iterate others
  refine ⟨front ++ more, (List.append_assoc ..).symm, by simp [some],
        List.forall_mem_append.mpr ⟨equalless, equalless'⟩, fun us stop => ?_⟩
  rw [List.append_assoc, run, read _ (goes us stop), Outcome.bind_ok, bind_run, read' us stop]
  rfl

/-! The commands that end in options. -/

/-- Of an unknown option, one lexeme behind the mark `=` is passed over, if there is one. -/
theorem skipUnknownOption_run (command : String) (name equal : Lexeme) (us : List Lexeme) :
    skipUnknownOption command (name :: equal :: us) =
      ⟨.ok (), us.tail, [⟨.unknownCommandOption name.text command, us.length + 2⟩]⟩ := by
  cases us <;> simp [skipUnknownOption]

section Unknown

variable {name equal : Lexeme} (identifier : name.kind = .identifier)
  (sign : equal.kind = .mark .equal)
include identifier sign

theorem startsAssignment_identifier (us : List Lexeme) :
    startsAssignment (name :: equal :: us) = true := by
  simp [startsAssignment, identifier, sign]

/-- Of an option that `dedup` does not know, one lexeme behind the mark `=` is passed over. -/
theorem dedupOption?_unknown (us : List Lexeme) (d : Dedup) :
    dedupOption? d (name :: equal :: us) = ⟨.ok (some d), us.tail,
      [⟨.unknownCommandOption name.text "dedup", us.length + 2⟩]⟩ := by
  have assigned := startsAssignment_identifier identifier sign us
  have other (k : Keyword) : startsOption k (name :: equal :: us) = false := by
    simp [startsOption, identifier]
  simp [dedupOption?, assigned, other, skipUnknownOption_run]

/-- Of a parameter that `kmeans` or `ad` does not know, the value is read and dropped. -/
theorem parameter?_unknown {algorithm : Algorithm} (reserved : algorithm ≠ .ml)
    {value after : List Lexeme} {v : Literal}
    (constant : literal (value ++ after) = ⟨.ok v, after, []⟩) (params : List Parameter) :
    parameter? algorithm params (name :: equal :: (value ++ after)) =
      ⟨.ok (some params), after,
        [⟨.unknownParameter name.text algorithm.name, (value ++ after).length + 2⟩]⟩ := by
  have assigned := startsAssignment_identifier identifier sign (value ++ after)
  have unknown : parameterType? algorithm name.kind = none := by
    rw [identifier]
    cases algorithm <;> first | rfl | exact absurd rfl reserved
  simp [parameter?, assigned, constant, unknown]

end Unknown

/-- The value of an option of `dedup` is one lexeme, unless the option is unknown. -/
theorem dedupOption?_cases {name equal : Lexeme} (assigned : startsAssignment [name, equal] = true)
    (d : Dedup) :
    (∃ (α : Type) (q : StageParser α) (f : α → Dedup), ReadsOne q ∧
        ∀ us, dedupOption? d (name :: equal :: us) = (q us).bind fun a => pure (some (f a))) ∨
      ∀ us, dedupOption? d (name :: equal :: us) = ⟨.ok (some d), us.tail,
        [⟨.unknownCommandOption name.text "dedup", us.length + 2⟩]⟩ := by
  have starts (us : List Lexeme) : startsAssignment (name :: equal :: us) = true := assigned
  obtain ⟨_, _, ⟨⟩, identifier | ⟨k, kind⟩, sign⟩ := exists_of_startsAssignment assigned
  · exact .inr fun us => dedupOption?_unknown identifier (Option.some.inj sign) us d
  have found (j : Keyword) (us : List Lexeme) :
      startsOption j (name :: equal :: us) = decide (k = j) := by
    simp [startsOption, kind, Option.some.inj sign]
  by_cases keepEmpty : k = .keepempty
  · exact .inl ⟨_, boolean, fun b => { d with keepEmpty := some b }, readsOne_boolean, fun us => by
      simp [dedupOption?, starts, found, keepEmpty]⟩
  by_cases consecutive : k = .consecutive
  · exact .inl ⟨_, boolean, fun b => { d with consecutive := some b }, readsOne_boolean, fun us => by
      simp [dedupOption?, starts, found, consecutive]⟩
  by_cases splitValues : k = .dedupSplitvalues
  · exact .inl ⟨_, boolean, fun b => { d with splitValues := some b }, readsOne_boolean, fun us => by
      simp [dedupOption?, starts, found, splitValues]⟩
  by_cases partitions : k = .partitions
  · exact .inl ⟨_, integer, fun n => { d with partitions := some n }, readsOne_integer, fun us => by
      simp [dedupOption?, starts, found, partitions]⟩
  · exact .inr fun us => by
      simp [dedupOption?, starts, found, keepEmpty, consecutive, splitValues, partitions,
        skipUnknownOption_run]

theorem dedupOption?_of_not_assigned {ts : List Lexeme} (h : startsAssignment ts = false) (d : Dedup) :
    dedupOption? d ts = ⟨.ok none, ts, []⟩ := by
  simp [dedupOption?, h]

theorem readsOptions_dedupOption? : ReadsOptions dedupOption? where
  last d ts rest found := by
    cases assigned : startsAssignment ts with
    | false =>
      rw [dedupOption?_of_not_assigned assigned] at found
      cases found
      rfl
    | true =>
      obtain ⟨name, equal, us, rfl⟩ := exists_pair_of_startsAssignment assigned
      obtain ⟨_, q, f, -, run⟩ | run := dedupOption?_cases assigned d <;> rw [run] at found
      · obtain ⟨a, between, -, given⟩ := Outcome.bind_eq_ok_iff.mp found
        cases given
      · cases found
  next d d' ts rest found := by
    cases assigned : startsAssignment ts with
    | false =>
      rw [dedupOption?_of_not_assigned assigned] at found
      cases found
    | true =>
      obtain ⟨name, equal, us, rfl⟩ := exists_pair_of_startsAssignment assigned
      obtain ⟨_, q, f, one, run⟩ | run := dedupOption?_cases assigned d
      · obtain ⟨value, rfl, equalless, alone⟩ := exists_of_value one.readsApart run found
        exact ⟨name, equal, value, rfl, assigned, equalless, alone⟩
      · rw [run] at found
        cases found

/-- Whether there is a number in front depends on the first lexeme. -/
theorem exists_of_integer? {ts rest : List Lexeme} {n? : Option Int}
    (found : integer? ts = ⟨.ok n?, rest, []⟩) :
    ∃ front, ts = front ++ rest ∧ Equalless front ∧
      ∀ us, firstKind us = firstKind rest → integer? (front ++ us) = ⟨.ok n?, us, []⟩ := by
  by_cases first : firstKind ts = some .integer
  · have run {ts : List Lexeme} (first : firstKind ts = some .integer) :
        integer? ts = (integer ts).bind fun n => pure (some n) := by
      simp [integer?, first]
    rw [run first] at found
    obtain ⟨n, between, read, given⟩ := Outcome.bind_eq_ok_iff.mp found
    cases given
    obtain ⟨l, rfl, other, alone⟩ := readsOne_integer ts n rest read
    refine ⟨[l], rfl, List.forall_mem_singleton.mpr other, fun us _ => ?_⟩
    rw [List.singleton_append, run (by simpa using first), alone]
    rfl
  · have run {ts : List Lexeme} (first : firstKind ts ≠ some .integer) :
        integer? ts = ⟨.ok none, ts, []⟩ := by
      simp [integer?, first]
    cases (run first).symm.trans found
    exact ⟨[], rfl, List.forall_mem_nil _, fun us same => run (same ▸ first)⟩

/-- What `dedup` does behind its count. -/
theorem dedup_of_count {l : Lexeme} {us between : List Lexeme} {count : Option Int}
    (counted : integer? us = ⟨.ok count, between, []⟩) (filled : between ≠ [])
    (noOption : startsAssignment between = false) :
    dedup (l :: us) = (lenientList fieldName between).bind fun fields =>
      iterate dedupOption? ⟨count, fields, none, none, none, none⟩ >>= fun d => pure (.dedup d) := by
  simp [dedup, counted, need_run _ filled, noOption]

theorem exists_of_dedup {l : Lexeme} {us : List Lexeme} {c : Command}
    (found : dedup (l :: us) = ⟨.ok c, [], []⟩) :
    ∃ count between, integer? us = ⟨.ok count, between, []⟩ ∧ between ≠ [] ∧
      startsAssignment between = false := by
  simp only [dedup, bind_run, skip_run, List.drop_one, List.tail_cons, Outcome.bind_ok,
    Outcome.after_nil] at found
  obtain ⟨count, between, counted, later⟩ := Outcome.bind_eq_ok_iff.mp found
  have filled : between ≠ [] := by
    rintro rfl
    cases later
  refine ⟨count, between, counted, filled, ?_⟩
  rw [Bool.eq_false_iff]
  intro assigned
  simp [need_run _ filled, assigned] at later

theorem endsInOptions_dedup (grammar : StageGrammar) (first : Bool) :
    EndsInOptions .dedup (command grammar first) dedupOption? .dedup where
  options := readsOptions_dedupOption?
  head ts c keyword found := by
    obtain ⟨l, ts, rfl, kind⟩ := exists_of_firstKind keyword
    have run (us : List Lexeme) : command grammar first (l :: us) = dedup (l :: us) := by
      simp [command, kind]
    have names := readsApart_lenientList readsApart_fieldName fun us comma => by simp [comma]
    rw [run] at found
    obtain ⟨count, between, counted, filled, noOption⟩ := exists_of_dedup found
    rw [dedup_of_count counted filled noOption] at found
    obtain ⟨fields, rest, read, found⟩ := Outcome.bind_eq_ok_iff.mp found
    obtain ⟨d, _, options, given⟩ := Outcome.bind_eq_ok_iff.mp found
    cases given
    obtain ⟨number, rfl, equalless, countedBefore⟩ := exists_of_integer? counted
    obtain ⟨front, rfl, some, equalless', readBefore⟩ := names between fields rest read
    refine ⟨l :: (number ++ front), rest, _, d, by simp, ?_, options, fun us stop => ?_⟩
    · exact List.forall_mem_cons.mpr ⟨by simp [kind], List.forall_mem_append.mpr ⟨equalless, equalless'⟩⟩
    · have same : firstKind (front ++ us) = firstKind (front ++ rest) := by
        rw [firstKind_append some, firstKind_append some]
      have filled : front ++ us ≠ [] := by simp [some]
      have noOption := equalless'.not_startsAssignment some (stop.firstKind_ne .equal)
      rw [List.cons_append, List.append_assoc, run,
        dedup_of_count (countedBefore _ same) filled noOption,
        readBefore us ⟨stop.firstKind_ne .dot, stop.firstKind_ne .comma⟩]
      rfl

/-- A parameter that is kept has a value of the right type, and nothing is looked at behind that. -/
theorem exists_of_parameter? {algorithm : Algorithm} {params : List Parameter}
    {kept : Option (List Parameter)} {ts rest : List Lexeme}
    (found : parameter? algorithm params ts = ⟨.ok kept, rest, []⟩) :
    ts = [] ∧ rest = [] ∧ kept = none ∨
      ∃ name equal value, ts = name :: equal :: (value ++ rest) ∧
        startsAssignment [name, equal] = true ∧ Equalless value ∧ kept.isSome = true ∧
        ∀ us, parameter? algorithm params (name :: equal :: (value ++ us)) = ⟨.ok kept, us, []⟩ := by
  cases ts with
  | nil =>
    cases found
    exact .inl ⟨rfl, rfl, rfl⟩
  | cons name ts =>
    right
    cases assigned : startsAssignment (name :: ts) with
    | false => simp [parameter?, assigned] at found
    | true =>
      obtain ⟨_, equal, us, ⟨⟩⟩ := exists_pair_of_startsAssignment assigned
      simp only [parameter?, bind_run, atEnd_run, List.isEmpty_cons, Outcome.bind_ok,
        Bool.false_eq_true, if_false, atAssignment_run, assigned, if_true, remaining_run, peek_run,
        List.head?_cons, skip_run, List.drop_succ_cons, List.drop_zero, Outcome.after_nil] at found
      obtain ⟨v, between, read, judged⟩ := Outcome.bind_eq_ok_iff.mp found
      obtain ⟨value, rfl, -, equalless, alone⟩ := readsApart_literal us v between read
      cases known : parameterType? algorithm name.kind with
      | none => simp [known] at judged
      | some type =>
        cases fits : type.filter fun type => !type.accepts v with
        | some type => simp [known, fits] at judged
        | none =>
          simp only [known, fits] at judged
          cases judged
          refine ⟨name, equal, value, rfl, assigned, equalless, rfl, fun us => ?_⟩
          have assigned : startsAssignment (name :: equal :: (value ++ us)) = true := assigned
          simp [parameter?, assigned, alone us trivial, known, fits]

theorem readsOptions_parameter? (algorithm : Algorithm) : ReadsOptions (parameter? algorithm) where
  last params ts rest found := by
    obtain ⟨rfl, rfl, -⟩ | ⟨name, equal, value, -, -, -, some, -⟩ := exists_of_parameter? found
    · rfl
    · cases some
  next params params' ts rest found := by
    obtain ⟨-, -, ⟨⟩⟩ | ⟨name, equal, value, whole, assigned, equalless, -, run⟩ :=
      exists_of_parameter? found
    exact ⟨name, equal, value, whole, assigned, equalless, run⟩

theorem endsInOptions_learn (algorithm : Algorithm) (grammar : StageGrammar) (first : Bool) :
    EndsInOptions algorithm.keyword (command grammar first) (parameter? algorithm) fun params =>
      .learn algorithm params.reverse where
  options := readsOptions_parameter? algorithm
  head ts c keyword found := by
    obtain ⟨l, ts, rfl, kind⟩ := exists_of_firstKind keyword
    have run (us : List Lexeme) : command grammar first (l :: us) =
        (iterate (parameter? algorithm) [] us).bind fun params =>
          pure (.learn algorithm params.reverse) := by
      cases algorithm <;> simp [command, kind, learn, Algorithm.keyword]
    rw [run] at found
    obtain ⟨params, between, options, given⟩ := Outcome.bind_eq_ok_iff.mp found
    cases given
    exact ⟨[l], ts, [], params, rfl, List.forall_mem_singleton.mpr (by simp [kind]), options,
      fun us _ => run us⟩

/-! Stages with an unknown option. -/

section Unknown

variable {name equal : Lexeme} (identifier : name.kind = .identifier)
  (sign : equal.kind = .mark .equal) {value : List Lexeme} {v : Literal}
  (constant : literal value = ⟨.ok v, [], []⟩) {grammar : StageGrammar} {first : Bool} {c : Command}
  {before after : List Lexeme} (found : command grammar first (before ++ after) = ⟨.ok c, [], []⟩)
  (between : BetweenOptions after)
include identifier sign constant found between

section Dedup

variable (keyword : firstKind (before ++ after) = some (.keyword .dedup))
include keyword

/-- An unknown option of `dedup` is dropped if its value has no sign. -/
theorem dedup_dropped (unsigned : startsNegative value = false) :
    command grammar first (before ++ name :: equal :: (value ++ after)) =
      ⟨.ok c, [], [⟨.unknownCommandOption name.text "dedup", (value ++ after).length + 2⟩]⟩ := by
  obtain ⟨l, rfl, -, -⟩ := exists_of_literal_unsigned unsigned constant
  have assigned := startsAssignment_identifier identifier sign []
  exact (endsInOptions_dedup grammar first).dropped keyword found between assigned fun d =>
    dedupOption?_unknown identifier sign ([l] ++ after) d

/-- Of an unknown option of `dedup` with a sign the number is left, and with it every option behind
    it. -/
theorem dedup_cut (signed : startsNegative value = true) :
    ∃ d minus number, value = [minus, number] ∧
      command grammar first before = ⟨.ok (.dedup d), [], []⟩ ∧
      command grammar first (before ++ name :: equal :: (value ++ after)) =
        ⟨.ok (.dedup d), number :: after,
          [⟨.unknownCommandOption name.text "dedup", (value ++ after).length + 2⟩]⟩ := by
  obtain ⟨minus, number, rfl, -, isNumber, -⟩ := exists_of_literal_negative signed constant
  have assigned := startsAssignment_identifier identifier sign []
  have equalless : Equalless [number] := List.forall_mem_singleton.mpr fun equal => by
    simp [equal, TokenKind.isNumber] at isNumber
  have noOption : startsAssignment (number :: after) = false :=
    equalless.not_startsAssignment (List.cons_ne_nil _ _) (between.firstKind_ne .equal)
  obtain ⟨d, alone, left⟩ := (endsInOptions_dedup grammar first).cut keyword found between assigned
    (dedupOption?_of_not_assigned rfl)
    (dedupOption?_unknown identifier sign ([minus, number] ++ after)) (by simp)
    (dedupOption?_of_not_assigned noOption)
  exact ⟨d, minus, number, rfl, alone, left⟩

end Dedup

/-- An unknown parameter of `kmeans` or `ad` is dropped. -/
theorem learn_dropped {algorithm : Algorithm} (reserved : algorithm ≠ .ml)
    (keyword : firstKind (before ++ after) = some (.keyword algorithm.keyword)) :
    command grammar first (before ++ name :: equal :: (value ++ after)) =
      ⟨.ok c, [], [⟨.unknownParameter name.text algorithm.name, (value ++ after).length + 2⟩]⟩ := by
  have assigned := startsAssignment_identifier identifier sign []
  have read : literal (value ++ after) = ⟨.ok v, after, []⟩ := by
    obtain ⟨front, whole, -, -, alone⟩ := readsApart_literal value v [] constant
    rw [whole, List.append_nil]
    exact alone after trivial
  exact (endsInOptions_learn algorithm grammar first).dropped keyword found between assigned
    fun params => parameter?_unknown identifier sign reserved read params

end Unknown

end Parser

end PipedQuery
