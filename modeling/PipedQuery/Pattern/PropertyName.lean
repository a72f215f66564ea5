import PipedQuery.Unicode.Age
import PipedQuery.Unicode.Break
import PipedQuery.Unicode.ScriptExtension
import PipedQuery.Pattern.Flaw
import PipedQuery.Pattern.Tree

/-!
# Unicode properties by name

Which names in `\p{...}` stand for a property, and for which set of code points.  Names are compared
without regard to case, blanks, hyphens, underscores and a leading `is`.
-/

namespace PipedQuery.Pattern

/-- The properties that no class can be made of. -/
def unsupportedNames : List String :=
  ["bc", "Bidi_Class", "bmg", "Bidi_Mirroring_Glyph", "bpb", "Bidi_Paired_Bracket", "bpt",
   "Bidi_Paired_Bracket_Type", "blk", "Block", "ccc", "Canonical_Combining_Class", "cf",
   "Case_Folding", "CE", "Composition_Exclusion", "CWKCF", "Changes_When_NFKC_Casefolded",
   "Comp_Ex", "Full_Composition_Exclusion", "dm", "Decomposition_Mapping", "dt",
   "Decomposition_Type", "ea", "East_Asian_Width", "EqUIdeo", "Equivalent_Unified_Ideograph",
   "FC_NFKC", "FC_NFKC_Closure", "hst", "Hangul_Syllable_Type", "InCB", "Indic_Conjunct_Break",
   "InPC", "Indic_Positional_Category", "InSC", "Indic_Syllabic_Category", "isc", "ISO_Comment",
   "JSN", "Jamo_Short_Name", "jg", "Joining_Group", "jt", "Joining_Type", "lb", "Line_Break", "lc",
   "Lowercase_Mapping", "na", "Name", "na1", "Unicode_1_Name", "Name_Alias", "NFC_QC",
   "NFC_Quick_Check", "NFD_QC", "NFD_Quick_Check", "NFKC_CF", "NFKC_Casefold", "NFKC_QC",
   "NFKC_Quick_Check", "NFKC_SCF", "NFKC_Simple_Casefold", "NFKD_QC", "NFKD_Quick_Check", "nt",
   "Numeric_Type", "nv", "Numeric_Value", "scf", "sfc", "Simple_Case_Folding", "slc",
   "Simple_Lowercase_Mapping", "stc", "Simple_Titlecase_Mapping", "suc",
   "Simple_Uppercase_Mapping", "tc", "Titlecase_Mapping", "uc", "Uppercase_Mapping", "vo",
   "Vertical_Orientation", "XO_NFC", "Expands_On_NFC", "XO_NFD", "Expands_On_NFD", "XO_NFKC",
   "Expands_On_NFKC", "XO_NFKD", "Expands_On_NFKD", "cjkAccountingNumeric", "kAccountingNumeric",
   "cjkCompatibilityVariant", "kCompatibilityVariant", "cjkIICore", "kIICore", "cjkIRG_GSource",
   "kIRG_GSource", "cjkIRG_HSource", "kIRG_HSource", "cjkIRG_JSource", "kIRG_JSource",
   "cjkIRG_KPSource", "kIRG_KPSource", "cjkIRG_KSource", "kIRG_KSource", "cjkIRG_MSource",
   "kIRG_MSource", "cjkIRG_SSource", "kIRG_SSource", "cjkIRG_TSource", "kIRG_TSource",
   "cjkIRG_UKSource", "kIRG_UKSource", "cjkIRG_USource", "kIRG_USource", "cjkIRG_VSource",
   "kIRG_VSource", "cjkMandarin", "kMandarin", "cjkOtherNumeric", "kOtherNumeric",
   "cjkPrimaryNumeric", "kPrimaryNumeric", "cjkRSUnicode", "kRSUnicode", "Unicode_Radical_Stroke",
   "URS", "cjkTotalStrokes", "kTotalStrokes", "cjkUnihanCore2020", "kUnihanCore2020", "kEH_Cat",
   "kEH_Desc", "kEH_HG", "kEH_IFAO", "kEH_JSesh", "kEH_NoMirror", "kEH_NoRotate"]

/-- The names of general categories without characters. -/
def emptyCategoryNames : List String := ["Cs", "Surrogate"]

/-- The properties with values, each with its names. -/
def valuedProperties : List (List String × List NamedSet) :=
  [(["gc", "General_Category"], Unicode.categories), (["sc", "Script"], Unicode.scripts),
   (["scx", "Script_Extensions"], Unicode.scriptExtensions), (["age"], Unicode.ages),
   (["GCB", "Grapheme_Cluster_Break"], Unicode.graphemeBreaks),
   (["WB", "Word_Break"], Unicode.wordBreaks), (["SB", "Sentence_Break"], Unicode.sentenceBreaks)]

/-- The form in which names are compared.  Only ASCII characters count. -/
def looseName (name : String) : List Char :=
  let cs := name.toList.map Char.toLower
  let isPrefixed := cs.take 2 = ['i', 's']
  let cs := if isPrefixed then cs.drop 2 else cs
  let cs := cs.filter fun c => c ≠ ' ' && c ≠ '_' && c ≠ '-' && decide (c.toNat < 0x80)
  if isPrefixed && cs = ['c'] then ['i', 's', 'c'] else cs

/-- Whether a name is one of some names. -/
def isNameIn (name : String) (names : List String) : Bool :=
  names.any fun n => looseName n == looseName name

/-- The set that goes by a name. -/
def setNamed? (name : String) (sets : List NamedSet) : Option CodeSet :=
  (sets.find? fun s => isNameIn name s.names).map (·.set)

/-- The kinds of properties. -/
inductive PropertyKind where
  | binary (set : CodeSet)
  /-- A property that no class can be made of. -/
  | unsupported
  /-- A property with values, of which the ones with characters are given. -/
  | valued (values : List NamedSet)

/-- The kind of the property with a name. -/
def PropertyKind.ofName? (name : String) : Option PropertyKind :=
  match setNamed? name Unicode.binaryProperties with
  | some set => some (.binary set)
  | none =>
    if isNameIn name unsupportedNames then some .unsupported
    else (valuedProperties.find? fun p => isNameIn name p.1).map fun p => .valued p.2

/-- Whether a name stands for a general category although it is the short name of a property too. -/
def isAmbiguousCategory (name : String) : Bool := isNameIn name ["cf", "sc", "lc"]

namespace Property

/-- The set of a property that is named alone.  Such a name may be that of a binary property, a
    general category or a script. -/
def setOfName (name : String) : Except Flaw CodeSet :=
  match if isAmbiguousCategory name then none else PropertyKind.ofName? name with
  | some (.binary set) => .ok set
  | some _ => .error .propertyUnknown
  | none =>
    match (setNamed? name Unicode.categories).or (setNamed? name Unicode.scripts) with
    | some set => .ok set
    | none =>
      if isNameIn name emptyCategoryNames || isNameIn name Unicode.emptyScriptNames then
        .error .propertyValueUnknown
      else .error .propertyUnknown

/-- The set of a property, or what is wrong with the property. -/
def set : Property → Except Flaw CodeSet
  | .named name => setOfName name
  | .valued name value =>
    match PropertyKind.ofName? name with
    | none => .error .propertyUnknown
    | some (.valued values) =>
      match setNamed? value values with
      | some set => .ok set
      | none => .error .propertyValueUnknown
    | some _ => .error .propertyValueUnknown

/-- What is wrong with a property, if anything is. -/
def flaw? (p : Property) : Option Flaw :=
  match p.set with
  | .ok _ => none
  | .error flaw => some flaw

/-- The code points of a property.  One with a flaw has none. -/
def ranges (p : Property) : CodeRanges :=
  match p.set with
  | .ok set => set.ranges
  | .error _ => []

end Property

end PipedQuery.Pattern
