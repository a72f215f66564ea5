import PipedQuery.Unicode.BinaryProperty

/-!
# Breaks in a text

The classes of characters that tell where a text may be cut between clusters, words and sentences,
by version 17 of the character database.
-/

namespace PipedQuery.Unicode

/-- The first of the Hangul syllables. -/
def firstSyllable : Nat := 0xac00

/-- How many Hangul syllables share a beginning and a vowel. -/
def syllablesPerVowel : Nat := 28

/-- The hexadecimal digits of a number. -/
def hexText (n : Nat) : String := String.ofList (Nat.toDigits 16 n)

/-- The Hangul syllables without a final consonant. -/
def openSyllable : CodeSet :=
  .listed (String.intercalate " " ((List.range 399).map fun k =>
    hexText (firstSyllable + syllablesPerVowel * k)))

/-- The Hangul syllables with a final consonant. -/
def closedSyllable : CodeSet := .without (.listed "ac00-d7a3") openSyllable

/-- The classes of characters for the breaks between clusters. -/
def graphemeBreaks : List NamedSet :=
  [⟨["CR"], .listed "d"⟩,
   ⟨["CN", "Control"],
    .listed
      "0-9 b-c e-1f 7f-9f ad 61c 180e 200b 200e-200f 2028-202e 2060-206f feff fff0-fffb
       13430-1343f 1bca0-1bca3 1d173-1d17a e0000-e001f e0080-e00ff e01f0-e0fff"⟩,
   ⟨["EX", "Extend"], .union [graphemeExtend, emojiModifier]⟩,
   ⟨["L"], .listed "1100-115f a960-a97c"⟩, ⟨["LF"], .listed "a"⟩, ⟨["LV"], openSyllable⟩,
   ⟨["LVT"], closedSyllable⟩,
   ⟨["PP", "Prepend"],
    .listed
      "600-605 6dd 70f 890-891 8e2 d4e 110bd 110cd 111c2-111c3 113d1 1193f 11941 11a84-11a89
       11d46 11f02"⟩,
   ⟨["RI", "Regional_Indicator"], regionalIndicator⟩,
   ⟨["SM", "SpacingMark"],
    .union
      [.without spacingMark
        (.listed
          "9be 9d7 b3e b57 bbe bd7 cc0 cc2 cc7-cc8 cca-ccb cd5-cd6 d3e d57 dcf ddf 102b-102c 1038
           1062-1064 1067-106d 1083 1087-108c 108f 109a-109c 1715 1734 1a61 1a63-1a64 1b35 1b3b
           1b3d 1b43-1b44 1baa 1bf2-1bf3 302e-302f a953 a9c0 aa7b aa7d 111c0 11235 1133e 1134d
           11357 113b8 113c2 113c5 113c7-113c9 113cf 114b0 114bd 115af 116b6 11720-11721 11930
           1193d 11f41 16ff0-16ff1 1d165-1d166 1d16d-1d172"),
       .listed "e33 eb3"]⟩,
   ⟨["T"], .listed "11a8-11ff d7cb-d7fb"⟩,
   ⟨["V"], .listed "1160-11a7 d7b0-d7c6 16d63 16d67-16d6a"⟩, ⟨["ZWJ"], .listed "200d"⟩]

/-- The classes of characters for the breaks between words. -/
def wordBreaks : List NamedSet :=
  [⟨["LE", "ALetter"],
    .listed
      "41-5a 61-7a aa b5 b8 ba c0-d6 d8-f6 f8-2d7 2de-2ff 370-374 376-377 37a-37d 37f 386 388-38a
       38c 38e-3a1 3a3-3f5 3f7-481 48a-52f 531-556 559-55c 55e 560-588 58a 5f3 620-64a 66e-66f
       671-6d3 6d5 6e5-6e6 6ee-6ef 6fa-6fc 6ff 70f-710 712-72f 74d-7a5 7b1 7ca-7ea 7f4-7f5 7fa
       800-815 81a 824 828 840-858 860-86a 870-887 889-88f 8a0-8c9 904-939 93d 950 958-961
       971-980 985-98c 98f-990 993-9a8 9aa-9b0 9b2 9b6-9b9 9bd 9ce 9dc-9dd 9df-9e1 9f0-9f1 9fc
       a05-a0a a0f-a10 a13-a28 a2a-a30 a32-a33 a35-a36 a38-a39 a59-a5c a5e a72-a74 a85-a8d
       a8f-a91 a93-aa8 aaa-ab0 ab2-ab3 ab5-ab9 abd ad0 ae0-ae1 af9 b05-b0c b0f-b10 b13-b28
       b2a-b30 b32-b33 b35-b39 b3d b5c-b5d b5f-b61 b71 b83 b85-b8a b8e-b90 b92-b95 b99-b9a b9c
       b9e-b9f ba3-ba4 ba8-baa bae-bb9 bd0 c05-c0c c0e-c10 c12-c28 c2a-c39 c3d c58-c5a c5c-c5d
       c60-c61 c80 c85-c8c c8e-c90 c92-ca8 caa-cb3 cb5-cb9 cbd cdc-cde ce0-ce1 cf1-cf2 d04-d0c
       d0e-d10 d12-d3a d3d d4e d54-d56 d5f-d61 d7a-d7f d85-d96 d9a-db1 db3-dbb dbd dc0-dc6 f00
       f40-f47 f49-f6c f88-f8c 10a0-10c5 10c7 10cd 10d0-10fa 10fc-1248 124a-124d 1250-1256 1258
       125a-125d 1260-1288 128a-128d 1290-12b0 12b2-12b5 12b8-12be 12c0 12c2-12c5 12c8-12d6
       12d8-1310 1312-1315 1318-135a 1380-138f 13a0-13f5 13f8-13fd 1401-166c 166f-167f 1681-169a
       16a0-16ea 16ee-16f8 1700-1711 171f-1731 1740-1751 1760-176c 176e-1770 1820-1878 1880-1884
       1887-18a8 18aa 18b0-18f5 1900-191e 1a00-1a16 1b05-1b33 1b45-1b4c 1b83-1ba0 1bae-1baf
       1bba-1be5 1c00-1c23 1c4d-1c4f 1c5a-1c7d 1c80-1c8a 1c90-1cba 1cbd-1cbf 1ce9-1cec 1cee-1cf3
       1cf5-1cf6 1cfa 1d00-1dbf 1e00-1f15 1f18-1f1d 1f20-1f45 1f48-1f4d 1f50-1f57 1f59 1f5b 1f5d
       1f5f-1f7d 1f80-1fb4 1fb6-1fbc 1fbe 1fc2-1fc4 1fc6-1fcc 1fd0-1fd3 1fd6-1fdb 1fe0-1fec
       1ff2-1ff4 1ff6-1ffc 2071 207f 2090-209c 2102 2107 210a-2113 2115 2119-211d 2124 2126 2128
       212a-212d 212f-2139 213c-213f 2145-2149 214e 2160-2188 24b6-24e9 2c00-2ce4 2ceb-2cee
       2cf2-2cf3 2d00-2d25 2d27 2d2d 2d30-2d67 2d6f 2d80-2d96 2da0-2da6 2da8-2dae 2db0-2db6
       2db8-2dbe 2dc0-2dc6 2dc8-2dce 2dd0-2dd6 2dd8-2dde 2e2f 3005 303b-303c 3105-312f 3131-318e
       31a0-31bf a000-a48c a4d0-a4fd a500-a60c a610-a61f a62a-a62b a640-a66e a67f-a69d a6a0-a6ef
       a708-a7dc a7f1-a801 a803-a805 a807-a80a a80c-a822 a840-a873 a882-a8b3 a8f2-a8f7 a8fb
       a8fd-a8fe a90a-a925 a930-a946 a960-a97c a984-a9b2 a9cf aa00-aa28 aa40-aa42 aa44-aa4b
       aae0-aaea aaf2-aaf4 ab01-ab06 ab09-ab0e ab11-ab16 ab20-ab26 ab28-ab2e ab30-ab69 ab70-abe2
       ac00-d7a3 d7b0-d7c6 d7cb-d7fb fb00-fb06 fb13-fb17 fb50-fbb1 fbd3-fd3d fd50-fd8f fd92-fdc7
       fdf0-fdfb fe70-fe74 fe76-fefc ff21-ff3a ff41-ff5a ffa0-ffbe ffc2-ffc7 ffca-ffcf ffd2-ffd7
       ffda-ffdc 10000-1000b 1000d-10026 10028-1003a 1003c-1003d 1003f-1004d 10050-1005d
       10080-100fa 10140-10174 10280-1029c 102a0-102d0 10300-1031f 1032d-1034a 10350-10375
       10380-1039d 103a0-103c3 103c8-103cf 103d1-103d5 10400-1049d 104b0-104d3 104d8-104fb
       10500-10527 10530-10563 10570-1057a 1057c-1058a 1058c-10592 10594-10595 10597-105a1
       105a3-105b1 105b3-105b9 105bb-105bc 105c0-105f3 10600-10736 10740-10755 10760-10767
       10780-10785 10787-107b0 107b2-107ba 10800-10805 10808 1080a-10835 10837-10838 1083c
       1083f-10855 10860-10876 10880-1089e 108e0-108f2 108f4-108f5 10900-10915 10920-10939
       10940-10959 10980-109b7 109be-109bf 10a00 10a10-10a13 10a15-10a17 10a19-10a35 10a60-10a7c
       10a80-10a9c 10ac0-10ac7 10ac9-10ae4 10b00-10b35 10b40-10b55 10b60-10b72 10b80-10b91
       10c00-10c48 10c80-10cb2 10cc0-10cf2 10d00-10d23 10d4a-10d65 10d6f-10d85 10e80-10ea9
       10eb0-10eb1 10ec2-10ec7 10f00-10f1c 10f27 10f30-10f45 10f70-10f81 10fb0-10fc4 10fe0-10ff6
       11003-11037 11071-11072 11075 11083-110af 110d0-110e8 11103-11126 11144 11147 11150-11172
       11176 11183-111b2 111c1-111c4 111da 111dc 11200-11211 11213-1122b 1123f-11240 11280-11286
       11288 1128a-1128d 1128f-1129d 1129f-112a8 112b0-112de 11305-1130c 1130f-11310 11313-11328
       1132a-11330 11332-11333 11335-11339 1133d 11350 1135d-11361 11380-11389 1138b 1138e
       11390-113b5 113b7 113d1 113d3 11400-11434 11447-1144a 1145f-11461 11480-114af 114c4-114c5
       114c7 11580-115ae 115d8-115db 11600-1162f 11644 11680-116aa 116b8 11800-1182b 118a0-118df
       118ff-11906 11909 1190c-11913 11915-11916 11918-1192f 1193f 11941 119a0-119a7 119aa-119d0
       119e1 119e3 11a00 11a0b-11a32 11a3a 11a50 11a5c-11a89 11a9d 11ab0-11af8 11bc0-11be0
       11c00-11c08 11c0a-11c2e 11c40 11c72-11c8f 11d00-11d06 11d08-11d09 11d0b-11d30 11d46
       11d60-11d65 11d67-11d68 11d6a-11d89 11d98 11db0-11ddb 11ee0-11ef2 11f02 11f04-11f10
       11f12-11f33 11fb0 12000-12399 12400-1246e 12480-12543 12f90-12ff0 13000-1342f 13441-13446
       13460-143fa 14400-14646 16100-1611d 16800-16a38 16a40-16a5e 16a70-16abe 16ad0-16aed
       16b00-16b2f 16b40-16b43 16b63-16b77 16b7d-16b8f 16d40-16d6c 16e40-16e7f 16ea0-16eb8
       16ebb-16ed3 16f00-16f4a 16f50 16f93-16f9f 16fe0-16fe1 16fe3 1bc00-1bc6a 1bc70-1bc7c
       1bc80-1bc88 1bc90-1bc99 1d400-1d454 1d456-1d49c 1d49e-1d49f 1d4a2 1d4a5-1d4a6 1d4a9-1d4ac
       1d4ae-1d4b9 1d4bb 1d4bd-1d4c3 1d4c5-1d505 1d507-1d50a 1d50d-1d514 1d516-1d51c 1d51e-1d539
       1d53b-1d53e 1d540-1d544 1d546 1d54a-1d550 1d552-1d6a5 1d6a8-1d6c0 1d6c2-1d6da 1d6dc-1d6fa
       1d6fc-1d714 1d716-1d734 1d736-1d74e 1d750-1d76e 1d770-1d788 1d78a-1d7a8 1d7aa-1d7c2
       1d7c4-1d7cb 1df00-1df1e 1df25-1df2a 1e030-1e06d 1e100-1e12c 1e137-1e13d 1e14e 1e290-1e2ad
       1e2c0-1e2eb 1e4d0-1e4eb 1e5d0-1e5ed 1e5f0 1e6c0-1e6de 1e6e0-1e6e2 1e6e4-1e6e5 1e6e7-1e6ed
       1e6f0-1e6f4 1e6fe-1e6ff 1e7e0-1e7e6 1e7e8-1e7eb 1e7ed-1e7ee 1e7f0-1e7fe 1e800-1e8c4
       1e900-1e943 1e94b 1ee00-1ee03 1ee05-1ee1f 1ee21-1ee22 1ee24 1ee27 1ee29-1ee32 1ee34-1ee37
       1ee39 1ee3b 1ee42 1ee47 1ee49 1ee4b 1ee4d-1ee4f 1ee51-1ee52 1ee54 1ee57 1ee59 1ee5b 1ee5d
       1ee5f 1ee61-1ee62 1ee64 1ee67-1ee6a 1ee6c-1ee72 1ee74-1ee77 1ee79-1ee7c 1ee7e 1ee80-1ee89
       1ee8b-1ee9b 1eea1-1eea3 1eea5-1eea9 1eeab-1eebb 1f130-1f149 1f150-1f169 1f170-1f189"⟩,
   ⟨["CR"], .listed "d"⟩, ⟨["DQ", "Double_Quote"], .listed "22"⟩,
   ⟨["Extend"], .union [graphemeExtend, spacingMark, emojiModifier]⟩,
   ⟨["EX", "ExtendNumLet"], .union [connectorPunctuation, .listed "202f"]⟩,
   ⟨["FO", "Format"],
    .listed
      "ad 61c 180e 200e-200f 202a-202e 2060-2064 2066-206f feff fff9-fffb 13430-1343f 1bca0-1bca3
       1d173-1d17a e0001"⟩,
   ⟨["HL", "Hebrew_Letter"],
    .listed
      "5d0-5ea 5ef-5f2 fb1d fb1f-fb28 fb2a-fb36 fb38-fb3c fb3e fb40-fb41 fb43-fb44 fb46-fb4f"⟩,
   ⟨["KA", "Katakana"],
    .listed
      "3031-3035 309b-309c 30a0-30fa 30fc-30ff 31f0-31ff 32d0-32fe 3300-3357 ff66-ff9d
       1aff0-1aff3 1aff5-1affb 1affd-1affe 1b000 1b120-1b122 1b155 1b164-1b167"⟩,
   ⟨["LF"], .listed "a"⟩,
   ⟨["ML", "MidLetter"], .listed "3a b7 387 55f 5f4 2027 fe13 fe55 ff1a"⟩,
   ⟨["MN", "MidNum"], .listed "2c 3b 37e 589 60c-60d 66c 7f8 2044 fe50 fe54 ff0c ff1b"⟩,
   ⟨["MB", "MidNumLet"], .listed "2e 2018-2019 2024 fe52 ff07 ff0e"⟩,
   ⟨["NL", "Newline"], .listed "b-c 85 2028-2029"⟩,
   ⟨["NU", "Numeric"],
    .union [decimalNumber, .listed "600-605 66b 6dd 890-891 8e2 19da 110bd 110cd"]⟩,
   ⟨["RI", "Regional_Indicator"], regionalIndicator⟩, ⟨["SQ", "Single_Quote"], .listed "27"⟩,
   ⟨["WSegSpace"], .listed "20 1680 2000-2006 2008-200a 205f 3000"⟩, ⟨["ZWJ"], .listed "200d"⟩]

/-- The characters that extend others in a sentence. -/
def sentenceExtend : CodeSet := .union [.union [graphemeExtend, spacingMark], .listed "200d"]

/-- The lower-case characters that count in a sentence. -/
def sentenceLower : CodeSet :=
  .without (.without lowercase graphemeExtend) (.listed "10d0-10fa 10fd-10ff")

/-- The upper-case characters that count in a sentence. -/
def sentenceUpper : CodeSet :=
  .without (.union [uppercase, titlecaseLetter]) (.listed "1c90-1cba 1cbd-1cbf")

/-- The classes of characters for the breaks between sentences. -/
def sentenceBreaks : List NamedSet :=
  [⟨["AT", "ATerm"], .listed "2e 2024 fe52 ff0e"⟩,
   ⟨["CL", "Close"],
    .listed
      "22 27-29 5b 5d 7b 7d ab bb f3a-f3d 169b-169c 2018-201f 2039-203a 2045-2046 207d-207e
       208d-208e 2308-230b 2329-232a 275b-2760 2768-2775 27c5-27c6 27e6-27ef 2983-2998 29d8-29db
       29fc-29fd 2e00-2e0d 2e1c-2e1d 2e20-2e29 2e42 2e55-2e5c 3008-3011 3014-301b 301d-301f
       fd3e-fd3f fe17-fe18 fe35-fe44 fe47-fe48 fe59-fe5e ff08-ff09 ff3b ff3d ff5b ff5d ff5f-ff60
       ff62-ff63 1f676-1f678"⟩,
   ⟨["CR"], .listed "d"⟩, ⟨["EX", "Extend"], sentenceExtend⟩,
   ⟨["FO", "Format"],
    .listed
      "ad 61c 70f 180e 200b 200e-200f 202a-202e 2060-2064 2066-206f feff fff9-fffb 13430-1343f
       1bca0-1bca3 1d173-1d17a e0001"⟩,
   ⟨["LF"], .listed "a"⟩, ⟨["LO", "Lower"], sentenceLower⟩,
   ⟨["NU", "Numeric"],
    .union [decimalNumber, .listed "600-605 66b-66c 6dd 890-891 8e2 19da 110bd 110cd"]⟩,
   ⟨["LE", "OLetter"],
    .union
      [.without alphabetic (.union [sentenceLower, sentenceUpper, sentenceExtend]),
       .listed "5f3"]⟩,
   ⟨["SC", "SContinue"],
    .listed
      "2c-2d 3a-3b 37e 55d 60c-60d 7f8 1802 1808 2013-2014 3001 fe10-fe11 fe13-fe14 fe31-fe32
       fe50-fe51 fe54-fe55 fe58 fe63 ff0c-ff0d ff1a-ff1b ff64"⟩,
   ⟨["SE", "Sep"], .listed "85 2028-2029"⟩,
   ⟨["SP", "Sp"], .without whiteSpace (.listed "a d 85 2028-2029")⟩,
   ⟨["ST", "STerm"], .without sentenceTerminal (.listed "2e 2024 fe52 ff0e")⟩,
   ⟨["UP", "Upper"], sentenceUpper⟩]

end PipedQuery.Unicode
