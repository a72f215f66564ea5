import PipedQuery.Unicode.Trait

/-!
# Binary properties

The properties that a character has or has not.  Most are defined by the general categories and by
others among them.
-/

namespace PipedQuery.Unicode

/-- The characters in lower case. -/
def lowercase : CodeSet := .union [lowercaseLetter, otherLowercase]

/-- The characters in upper case. -/
def uppercase : CodeSet := .union [uppercaseLetter, otherUppercase]

/-- The characters with case. -/
def cased : CodeSet := .union [lowercase, uppercase, titlecaseLetter]

/-- The alphabetic characters. -/
def alphabetic : CodeSet := .union [letter, letterNumber, otherAlphabetic]

/-- The characters of mathematics. -/
def math : CodeSet := .union [mathSymbol, otherMath]

/-- The characters that extend a cluster. -/
def graphemeExtend : CodeSet := .union [enclosingMark, nonspacingMark, otherGraphemeExtend]

/-- The characters that a cluster may start with. -/
def graphemeBase : CodeSet :=
  .without any
    (.union
      [control, format, surrogate, privateUse, unassigned, lineSeparator, paragraphSeparator,
       graphemeExtend])

/-- The code points that are not shown. -/
def defaultIgnorableCodePoint : CodeSet :=
  .without (.union [otherDefaultIgnorableCodePoint, format, variationSelector])
    (.union [whiteSpace, prependedConcatenationMark, .listed "fff9-fffb 13430-13440"])

/-- The characters that a name may start with. -/
def idStart : CodeSet :=
  .without (.union [letter, letterNumber, otherIdStart])
    (.union [patternSyntax, patternWhiteSpace])

/-- The characters that a name may hold. -/
def idContinue : CodeSet :=
  .without (.union
      [idStart, nonspacingMark, spacingMark, decimalNumber, connectorPunctuation,
       otherIdContinue])
    (.union [patternSyntax, patternWhiteSpace])

/-- The characters that a name may start with in every normal form. -/
def xidStart : CodeSet :=
  .without idStart
    (.listed
      "37a e33 eb3 309b-309c fc5e-fc63 fdfa-fdfb fe70 fe72 fe74 fe76 fe78 fe7a fe7c fe7e
       ff9e-ff9f")

/-- The characters that a name may hold in every normal form. -/
def xidContinue : CodeSet :=
  .without idContinue
    (.listed "37a 309b-309c fc5e-fc63 fdfa-fdfb fe70 fe72 fe74 fe76 fe78 fe7a fe7c fe7e")

/-- The characters that do not count where case depends on the letters around. -/
def caseIgnorable : CodeSet :=
  .union
    [nonspacingMark, enclosingMark, format, modifierLetter, modifierSymbol,
     .listed "27 2e 3a b7 387 55f 5f4 2018-2019 2024 2027 fe13 fe52 fe55 ff07 ff0e ff1a"]

/-- The characters with another form in lower case. -/
def changesWhenLowercased : CodeSet := .listed
  "41-5a c0-d6 d8-de 100 102 104 106 108 10a 10c 10e 110 112 114 116 118 11a 11c 11e 120 122 124
   126 128 12a 12c 12e 130 132 134 136 139 13b 13d 13f 141 143 145 147 14a 14c 14e 150 152 154
   156 158 15a 15c 15e 160 162 164 166 168 16a 16c 16e 170 172 174 176 178-179 17b 17d 181-182
   184 186-187 189-18b 18e-191 193-194 196-198 19c-19d 19f-1a0 1a2 1a4 1a6-1a7 1a9 1ac 1ae-1af
   1b1-1b3 1b5 1b7-1b8 1bc 1c4-1c5 1c7-1c8 1ca-1cb 1cd 1cf 1d1 1d3 1d5 1d7 1d9 1db 1de 1e0 1e2
   1e4 1e6 1e8 1ea 1ec 1ee 1f1-1f2 1f4 1f6-1f8 1fa 1fc 1fe 200 202 204 206 208 20a 20c 20e 210
   212 214 216 218 21a 21c 21e 220 222 224 226 228 22a 22c 22e 230 232 23a-23b 23d-23e 241
   243-246 248 24a 24c 24e 370 372 376 37f 386 388-38a 38c 38e-38f 391-3a1 3a3-3ab 3cf 3d8 3da
   3dc 3de 3e0 3e2 3e4 3e6 3e8 3ea 3ec 3ee 3f4 3f7 3f9-3fa 3fd-42f 460 462 464 466 468 46a 46c
   46e 470 472 474 476 478 47a 47c 47e 480 48a 48c 48e 490 492 494 496 498 49a 49c 49e 4a0 4a2
   4a4 4a6 4a8 4aa 4ac 4ae 4b0 4b2 4b4 4b6 4b8 4ba 4bc 4be 4c0-4c1 4c3 4c5 4c7 4c9 4cb 4cd 4d0
   4d2 4d4 4d6 4d8 4da 4dc 4de 4e0 4e2 4e4 4e6 4e8 4ea 4ec 4ee 4f0 4f2 4f4 4f6 4f8 4fa 4fc 4fe
   500 502 504 506 508 50a 50c 50e 510 512 514 516 518 51a 51c 51e 520 522 524 526 528 52a 52c
   52e 531-556 10a0-10c5 10c7 10cd 13a0-13f5 1c89 1c90-1cba 1cbd-1cbf 1e00 1e02 1e04 1e06 1e08
   1e0a 1e0c 1e0e 1e10 1e12 1e14 1e16 1e18 1e1a 1e1c 1e1e 1e20 1e22 1e24 1e26 1e28 1e2a 1e2c 1e2e
   1e30 1e32 1e34 1e36 1e38 1e3a 1e3c 1e3e 1e40 1e42 1e44 1e46 1e48 1e4a 1e4c 1e4e 1e50 1e52 1e54
   1e56 1e58 1e5a 1e5c 1e5e 1e60 1e62 1e64 1e66 1e68 1e6a 1e6c 1e6e 1e70 1e72 1e74 1e76 1e78 1e7a
   1e7c 1e7e 1e80 1e82 1e84 1e86 1e88 1e8a 1e8c 1e8e 1e90 1e92 1e94 1e9e 1ea0 1ea2 1ea4 1ea6 1ea8
   1eaa 1eac 1eae 1eb0 1eb2 1eb4 1eb6 1eb8 1eba 1ebc 1ebe 1ec0 1ec2 1ec4 1ec6 1ec8 1eca 1ecc 1ece
   1ed0 1ed2 1ed4 1ed6 1ed8 1eda 1edc 1ede 1ee0 1ee2 1ee4 1ee6 1ee8 1eea 1eec 1eee 1ef0 1ef2 1ef4
   1ef6 1ef8 1efa 1efc 1efe 1f08-1f0f 1f18-1f1d 1f28-1f2f 1f38-1f3f 1f48-1f4d 1f59 1f5b 1f5d 1f5f
   1f68-1f6f 1f88-1f8f 1f98-1f9f 1fa8-1faf 1fb8-1fbc 1fc8-1fcc 1fd8-1fdb 1fe8-1fec 1ff8-1ffc 2126
   212a-212b 2132 2160-216f 2183 24b6-24cf 2c00-2c2f 2c60 2c62-2c64 2c67 2c69 2c6b 2c6d-2c70 2c72
   2c75 2c7e-2c80 2c82 2c84 2c86 2c88 2c8a 2c8c 2c8e 2c90 2c92 2c94 2c96 2c98 2c9a 2c9c 2c9e 2ca0
   2ca2 2ca4 2ca6 2ca8 2caa 2cac 2cae 2cb0 2cb2 2cb4 2cb6 2cb8 2cba 2cbc 2cbe 2cc0 2cc2 2cc4 2cc6
   2cc8 2cca 2ccc 2cce 2cd0 2cd2 2cd4 2cd6 2cd8 2cda 2cdc 2cde 2ce0 2ce2 2ceb 2ced 2cf2 a640 a642
   a644 a646 a648 a64a a64c a64e a650 a652 a654 a656 a658 a65a a65c a65e a660 a662 a664 a666 a668
   a66a a66c a680 a682 a684 a686 a688 a68a a68c a68e a690 a692 a694 a696 a698 a69a a722 a724 a726
   a728 a72a a72c a72e a732 a734 a736 a738 a73a a73c a73e a740 a742 a744 a746 a748 a74a a74c a74e
   a750 a752 a754 a756 a758 a75a a75c a75e a760 a762 a764 a766 a768 a76a a76c a76e a779 a77b
   a77d-a77e a780 a782 a784 a786 a78b a78d a790 a792 a796 a798 a79a a79c a79e a7a0 a7a2 a7a4 a7a6
   a7a8 a7aa-a7ae a7b0-a7b4 a7b6 a7b8 a7ba a7bc a7be a7c0 a7c2 a7c4-a7c7 a7c9 a7cb-a7cc a7ce a7d0
   a7d2 a7d4 a7d6 a7d8 a7da a7dc a7f5 ff21-ff3a 10400-10427 104b0-104d3 10570-1057a 1057c-1058a
   1058c-10592 10594-10595 10c80-10cb2 10d50-10d65 118a0-118bf 16e40-16e5f 16ea0-16eb8
   1e900-1e921"

/-- The characters with another form in upper case. -/
def changesWhenUppercased : CodeSet := .listed
  "61-7a b5 df-f6 f8-ff 101 103 105 107 109 10b 10d 10f 111 113 115 117 119 11b 11d 11f 121 123
   125 127 129 12b 12d 12f 131 133 135 137 13a 13c 13e 140 142 144 146 148-149 14b 14d 14f 151
   153 155 157 159 15b 15d 15f 161 163 165 167 169 16b 16d 16f 171 173 175 177 17a 17c 17e-180
   183 185 188 18c 192 195 199-19b 19e 1a1 1a3 1a5 1a8 1ad 1b0 1b4 1b6 1b9 1bd 1bf 1c5-1c6
   1c8-1c9 1cb-1cc 1ce 1d0 1d2 1d4 1d6 1d8 1da 1dc-1dd 1df 1e1 1e3 1e5 1e7 1e9 1eb 1ed 1ef-1f0
   1f2-1f3 1f5 1f9 1fb 1fd 1ff 201 203 205 207 209 20b 20d 20f 211 213 215 217 219 21b 21d 21f
   223 225 227 229 22b 22d 22f 231 233 23c 23f-240 242 247 249 24b 24d 24f-254 256-257 259
   25b-25c 260-261 263-266 268-26c 26f 271-272 275 27d 280 282-283 287-28c 292 29d-29e 345 371
   373 377 37b-37d 390 3ac-3ce 3d0-3d1 3d5-3d7 3d9 3db 3dd 3df 3e1 3e3 3e5 3e7 3e9 3eb 3ed
   3ef-3f3 3f5 3f8 3fb 430-45f 461 463 465 467 469 46b 46d 46f 471 473 475 477 479 47b 47d 47f
   481 48b 48d 48f 491 493 495 497 499 49b 49d 49f 4a1 4a3 4a5 4a7 4a9 4ab 4ad 4af 4b1 4b3 4b5
   4b7 4b9 4bb 4bd 4bf 4c2 4c4 4c6 4c8 4ca 4cc 4ce-4cf 4d1 4d3 4d5 4d7 4d9 4db 4dd 4df 4e1 4e3
   4e5 4e7 4e9 4eb 4ed 4ef 4f1 4f3 4f5 4f7 4f9 4fb 4fd 4ff 501 503 505 507 509 50b 50d 50f 511
   513 515 517 519 51b 51d 51f 521 523 525 527 529 52b 52d 52f 561-587 10d0-10fa 10fd-10ff
   13f8-13fd 1c80-1c88 1c8a 1d79 1d7d 1d8e 1e01 1e03 1e05 1e07 1e09 1e0b 1e0d 1e0f 1e11 1e13 1e15
   1e17 1e19 1e1b 1e1d 1e1f 1e21 1e23 1e25 1e27 1e29 1e2b 1e2d 1e2f 1e31 1e33 1e35 1e37 1e39 1e3b
   1e3d 1e3f 1e41 1e43 1e45 1e47 1e49 1e4b 1e4d 1e4f 1e51 1e53 1e55 1e57 1e59 1e5b 1e5d 1e5f 1e61
   1e63 1e65 1e67 1e69 1e6b 1e6d 1e6f 1e71 1e73 1e75 1e77 1e79 1e7b 1e7d 1e7f 1e81 1e83 1e85 1e87
   1e89 1e8b 1e8d 1e8f 1e91 1e93 1e95-1e9b 1ea1 1ea3 1ea5 1ea7 1ea9 1eab 1ead 1eaf 1eb1 1eb3 1eb5
   1eb7 1eb9 1ebb 1ebd 1ebf 1ec1 1ec3 1ec5 1ec7 1ec9 1ecb 1ecd 1ecf 1ed1 1ed3 1ed5 1ed7 1ed9 1edb
   1edd 1edf 1ee1 1ee3 1ee5 1ee7 1ee9 1eeb 1eed 1eef 1ef1 1ef3 1ef5 1ef7 1ef9 1efb 1efd 1eff-1f07
   1f10-1f15 1f20-1f27 1f30-1f37 1f40-1f45 1f50-1f57 1f60-1f67 1f70-1f7d 1f80-1fb4 1fb6-1fb7 1fbc
   1fbe 1fc2-1fc4 1fc6-1fc7 1fcc 1fd0-1fd3 1fd6-1fd7 1fe0-1fe7 1ff2-1ff4 1ff6-1ff7 1ffc 214e
   2170-217f 2184 24d0-24e9 2c30-2c5f 2c61 2c65-2c66 2c68 2c6a 2c6c 2c73 2c76 2c81 2c83 2c85 2c87
   2c89 2c8b 2c8d 2c8f 2c91 2c93 2c95 2c97 2c99 2c9b 2c9d 2c9f 2ca1 2ca3 2ca5 2ca7 2ca9 2cab 2cad
   2caf 2cb1 2cb3 2cb5 2cb7 2cb9 2cbb 2cbd 2cbf 2cc1 2cc3 2cc5 2cc7 2cc9 2ccb 2ccd 2ccf 2cd1 2cd3
   2cd5 2cd7 2cd9 2cdb 2cdd 2cdf 2ce1 2ce3 2cec 2cee 2cf3 2d00-2d25 2d27 2d2d a641 a643 a645 a647
   a649 a64b a64d a64f a651 a653 a655 a657 a659 a65b a65d a65f a661 a663 a665 a667 a669 a66b a66d
   a681 a683 a685 a687 a689 a68b a68d a68f a691 a693 a695 a697 a699 a69b a723 a725 a727 a729 a72b
   a72d a72f a733 a735 a737 a739 a73b a73d a73f a741 a743 a745 a747 a749 a74b a74d a74f a751 a753
   a755 a757 a759 a75b a75d a75f a761 a763 a765 a767 a769 a76b a76d a76f a77a a77c a77f a781 a783
   a785 a787 a78c a791 a793-a794 a797 a799 a79b a79d a79f a7a1 a7a3 a7a5 a7a7 a7a9 a7b5 a7b7 a7b9
   a7bb a7bd a7bf a7c1 a7c3 a7c8 a7ca a7cd a7cf a7d1 a7d3 a7d5 a7d7 a7d9 a7db a7f6 ab53 ab70-abbf
   fb00-fb06 fb13-fb17 ff41-ff5a 10428-1044f 104d8-104fb 10597-105a1 105a3-105b1 105b3-105b9
   105bb-105bc 10cc0-10cf2 10d70-10d85 118c0-118df 16e60-16e7f 16ebb-16ed3 1e922-1e943"

/-- The characters with another form in title case. -/
def changesWhenTitlecased : CodeSet :=
  .union
    [.without changesWhenUppercased
      (.listed "1c5 1c8 1cb 1f2 10d0-10fa 10fd-10ff 1f88-1f8f 1f98-1f9f 1fa8-1faf 1fbc 1fcc 1ffc"),
     .listed "1c4 1c7 1ca 1f1"]

/-- The characters with another form in some case. -/
def changesWhenCasemapped : CodeSet :=
  .union [changesWhenLowercased, changesWhenUppercased, changesWhenTitlecased]

/-- The characters with another form where case does not count. -/
def changesWhenCasefolded : CodeSet :=
  .union
    [.without changesWhenLowercased (.listed "13a0-13f5"),
     .listed
      "b5 df 149 17f 345 3c2 3d0-3d1 3d5-3d6 3f0-3f1 3f5 587 13f8-13fd 1c80-1c88 1e9a-1e9b
       1f80-1f87 1f90-1f97 1fa0-1fa7 1fb2-1fb4 1fb7 1fc2-1fc4 1fc7 1ff2-1ff4 1ff7 ab70-abbf
       fb00-fb06 fb13-fb17"]

/-- The characters that words are made of. -/
def wordCharacter : CodeSet :=
  .union [alphabetic, mark, decimalNumber, connectorPunctuation, joinControl]

/-- The properties that a character has or has not. -/
def binaryProperties : List NamedSet :=
  [⟨["AHex", "ASCII_Hex_Digit"], asciiHexDigit⟩, ⟨["Alpha", "Alphabetic"], alphabetic⟩,
   ⟨["Bidi_C", "Bidi_Control"], bidiControl⟩, ⟨["Bidi_M", "Bidi_Mirrored"], bidiMirrored⟩,
   ⟨["CI", "Case_Ignorable"], caseIgnorable⟩, ⟨["Cased"], cased⟩,
   ⟨["CWCF", "Changes_When_Casefolded"], changesWhenCasefolded⟩,
   ⟨["CWCM", "Changes_When_Casemapped"], changesWhenCasemapped⟩,
   ⟨["CWL", "Changes_When_Lowercased"], changesWhenLowercased⟩,
   ⟨["CWT", "Changes_When_Titlecased"], changesWhenTitlecased⟩,
   ⟨["CWU", "Changes_When_Uppercased"], changesWhenUppercased⟩, ⟨["Dash"], dash⟩,
   ⟨["DI", "Default_Ignorable_Code_Point"], defaultIgnorableCodePoint⟩,
   ⟨["Dep", "Deprecated"], deprecated⟩, ⟨["Dia", "Diacritic"], diacritic⟩, ⟨["Emoji"], emoji⟩,
   ⟨["EComp", "Emoji_Component"], emojiComponent⟩, ⟨["EMod", "Emoji_Modifier"], emojiModifier⟩,
   ⟨["EBase", "Emoji_Modifier_Base"], emojiModifierBase⟩,
   ⟨["EPres", "Emoji_Presentation"], emojiPresentation⟩,
   ⟨["ExtPict", "Extended_Pictographic"], extendedPictographic⟩,
   ⟨["Ext", "Extender"], extender⟩, ⟨["Gr_Base", "Grapheme_Base"], graphemeBase⟩,
   ⟨["Gr_Ext", "Grapheme_Extend"], graphemeExtend⟩,
   ⟨["Gr_Link", "Grapheme_Link"], graphemeLink⟩, ⟨["Hex", "Hex_Digit"], hexDigit⟩,
   ⟨["Hyphen"], hyphen⟩, ⟨["IDSB", "IDS_Binary_Operator"], idsBinaryOperator⟩,
   ⟨["IDST", "IDS_Trinary_Operator"], idsTrinaryOperator⟩,
   ⟨["IDSU", "IDS_Unary_Operator"], idsUnaryOperator⟩,
   ⟨["ID_Compat_Math_Continue"], idCompatMathContinue⟩,
   ⟨["ID_Compat_Math_Start"], idCompatMathStart⟩, ⟨["IDC", "ID_Continue"], idContinue⟩,
   ⟨["IDS", "ID_Start"], idStart⟩, ⟨["Ideo", "Ideographic"], ideographic⟩,
   ⟨["Join_C", "Join_Control"], joinControl⟩,
   ⟨["LOE", "Logical_Order_Exception"], logicalOrderException⟩,
   ⟨["Lower", "Lowercase"], lowercase⟩, ⟨["Math"], math⟩,
   ⟨["MCM", "Modifier_Combining_Mark"], modifierCombiningMark⟩,
   ⟨["NChar", "Noncharacter_Code_Point"], noncharacterCodePoint⟩,
   ⟨["OAlpha", "Other_Alphabetic"], otherAlphabetic⟩,
   ⟨["ODI", "Other_Default_Ignorable_Code_Point"], otherDefaultIgnorableCodePoint⟩,
   ⟨["OGr_Ext", "Other_Grapheme_Extend"], otherGraphemeExtend⟩,
   ⟨["OIDC", "Other_ID_Continue"], otherIdContinue⟩, ⟨["OIDS", "Other_ID_Start"], otherIdStart⟩,
   ⟨["OLower", "Other_Lowercase"], otherLowercase⟩, ⟨["OMath", "Other_Math"], otherMath⟩,
   ⟨["OUpper", "Other_Uppercase"], otherUppercase⟩,
   ⟨["Pat_Syn", "Pattern_Syntax"], patternSyntax⟩,
   ⟨["Pat_WS", "Pattern_White_Space"], patternWhiteSpace⟩,
   ⟨["PCM", "Prepended_Concatenation_Mark"], prependedConcatenationMark⟩,
   ⟨["QMark", "Quotation_Mark"], quotationMark⟩, ⟨["Radical"], radical⟩,
   ⟨["RI", "Regional_Indicator"], regionalIndicator⟩,
   ⟨["STerm", "Sentence_Terminal"], sentenceTerminal⟩, ⟨["SD", "Soft_Dotted"], softDotted⟩,
   ⟨["Term", "Terminal_Punctuation"], terminalPunctuation⟩,
   ⟨["UIdeo", "Unified_Ideograph"], unifiedIdeograph⟩, ⟨["Upper", "Uppercase"], uppercase⟩,
   ⟨["VS", "Variation_Selector"], variationSelector⟩,
   ⟨["space", "White_Space", "WSpace"], whiteSpace⟩, ⟨["XIDC", "XID_Continue"], xidContinue⟩,
   ⟨["XIDS", "XID_Start"], xidStart⟩]

end PipedQuery.Unicode
