import PipedQuery.Unicode.Script

/-!
# Characters of several scripts

Some characters are used with more scripts than the one they have.  The others are used with theirs.
-/

namespace PipedQuery.Unicode

/-- The characters that are used with several scripts, or with another one than their own, by the
    codes of these scripts. -/
def sharedCharacters : List NamedSet :=
  [⟨["Avst", "Cari", "Copt", "Dupl", "Elba", "Geor", "Glag", "Gong", "Goth",
     "Grek", "Hani", "Latn", "Lydi", "Mahj", "Perm", "Shaw"], .listed "b7"⟩,
   ⟨["Beng", "Cyrl", "Deva", "Latn", "Lisu", "Thai", "Toto"], .listed "2bc"⟩,
   ⟨["Bopo", "Latn"], .listed "2c7 2c9-2cb 2d9"⟩,
   ⟨["Latn", "Lisu"], .listed "2cd"⟩,
   ⟨["Latn", "Thai"], .listed "2d7"⟩,
   ⟨["Cher", "Copt", "Cyrl", "Grek", "Latn", "Perm", "Sunu", "Tale"], .listed "300"⟩,
   ⟨["Cher", "Cyrl", "Grek", "Latn", "Osge", "Sunu", "Tale", "Todr"], .listed "301"⟩,
   ⟨["Cher", "Cyrl", "Latn", "Tfng"], .listed "302"⟩,
   ⟨["Glag", "Latn", "Sunu", "Syrc", "Thai"], .listed "303"⟩,
   ⟨["Aghb", "Cher", "Copt", "Cyrl", "Goth", "Grek", "Latn", "Osge", "Syrc",
     "Tfng", "Todr"], .listed "304"⟩,
   ⟨["Copt", "Elba", "Glag", "Goth", "Kana", "Latn"], .listed "305"⟩,
   ⟨["Cyrl", "Grek", "Latn", "Perm", "Tfng"], .listed "306"⟩,
   ⟨["Copt", "Dupl", "Hebr", "Latn", "Perm", "Syrc", "Tale", "Tfng", "Todr"], .listed "307"⟩,
   ⟨["Armn", "Cyrl", "Dupl", "Goth", "Grek", "Hebr", "Latn", "Perm", "Syrc",
     "Tale", "Tfng"], .listed "308"⟩,
   ⟨["Latn", "Tfng"], .listed "309"⟩,
   ⟨["Dupl", "Latn", "Syrc"], .listed "30a"⟩,
   ⟨["Cher", "Cyrl", "Latn", "Osge"], .listed "30b"⟩,
   ⟨["Cher", "Latn", "Tale"], .listed "30c"⟩,
   ⟨["Latn", "Sunu"], .listed "30d 310"⟩,
   ⟨["Ethi", "Latn"], .listed "30e"⟩,
   ⟨["Cyrl", "Latn", "Todr"], .listed "311"⟩,
   ⟨["Grek", "Latn", "Perm", "Todr"], .listed "313"⟩,
   ⟨["Cher", "Dupl", "Kana", "Latn", "Syrc", "Tfng"], .listed "323"⟩,
   ⟨["Cher", "Dupl", "Latn", "Syrc"], .listed "324"⟩,
   ⟨["Latn", "Syrc"], .listed "325 32e"⟩,
   ⟨["Latn", "Sunu", "Syrc"], .listed "32d"⟩,
   ⟨["Cher", "Latn", "Syrc"], .listed "330"⟩,
   ⟨["Aghb", "Cher", "Goth", "Latn", "Sunu", "Syrc", "Thai"], .listed "331"⟩,
   ⟨["Grek"], .listed "342 345 1dc0-1dc1"⟩,
   ⟨["Latn", "Osge"], .listed "358"⟩,
   ⟨["Aghb", "Latn", "Todr"], .listed "35e"⟩,
   ⟨["Latn"], .listed "363-36f"⟩,
   ⟨["Copt", "Grek"], .listed "374-375"⟩,
   ⟨["Cyrl", "Perm"], .listed "483"⟩,
   ⟨["Cyrl", "Glag"], .listed "484 487 2e43 a66f"⟩,
   ⟨["Cyrl", "Latn"], .listed "485-486"⟩,
   ⟨["Armn", "Geor", "Glag"], .listed "589"⟩,
   ⟨["Arab", "Gara", "Nkoo", "Rohg", "Syrc", "Thaa", "Yezi"], .listed "60c 61b"⟩,
   ⟨["Arab", "Syrc", "Thaa"], .listed "61c"⟩,
   ⟨["Adlm", "Arab", "Gara", "Nkoo", "Rohg", "Syrc", "Thaa", "Yezi"], .listed "61f"⟩,
   ⟨["Adlm", "Arab", "Mand", "Mani", "Ougr", "Phlp", "Rohg", "Sogd", "Syrc"], .listed "640"⟩,
   ⟨["Arab", "Syrc"], .listed "64b-655 670"⟩,
   ⟨["Arab", "Thaa", "Yezi"], .listed "660-669"⟩,
   ⟨["Arab", "Rohg"], .listed "6d4"⟩,
   ⟨["Beng", "Deva", "Gran", "Gujr", "Guru", "Knda", "Latn", "Mlym", "Nand",
     "Newa", "Orya", "Shrd", "Taml", "Telu", "Tirh"], .listed "951"⟩,
   ⟨["Beng", "Deva", "Gran", "Gujr", "Guru", "Knda", "Latn", "Mlym", "Newa",
     "Orya", "Taml", "Telu", "Tirh"], .listed "952"⟩,
   ⟨["Beng", "Deva", "Dogr", "Gong", "Gonm", "Gran", "Gujr", "Guru", "Knda",
     "Mahj", "Mlym", "Nand", "Onao", "Orya", "Sind", "Sinh", "Sylo", "Takr",
     "Taml", "Telu", "Tirh"], .listed "964"⟩,
   ⟨["Beng", "Deva", "Dogr", "Gong", "Gonm", "Gran", "Gujr", "Gukh", "Guru",
     "Knda", "Limb", "Mahj", "Mlym", "Nand", "Onao", "Orya", "Sind", "Sinh",
     "Sylo", "Takr", "Taml", "Telu", "Tirh"], .listed "965"⟩,
   ⟨["Deva", "Dogr", "Kthi", "Mahj"], .listed "966-96f"⟩,
   ⟨["Beng", "Cakm", "Sylo"], .listed "9e6-9ef"⟩,
   ⟨["Guru", "Mult"], .listed "a66-a6f"⟩,
   ⟨["Gujr", "Khoj"], .listed "ae6-aef"⟩,
   ⟨["Gran", "Taml"], .listed "be6-bf3 11301 11303 1133b-1133c 11fd0-11fd1 11fd3"⟩,
   ⟨["Knda", "Nand", "Tutg"], .listed "ce6-cef"⟩,
   ⟨["Cakm", "Mymr", "Tale"], .listed "1040-1049"⟩,
   ⟨["Geor", "Glag", "Latn"], .listed "10fb"⟩,
   ⟨["Runr"], .listed "16eb-16ed"⟩,
   ⟨["Buhd", "Hano", "Tagb", "Tglg"], .listed "1735-1736"⟩,
   ⟨["Mong", "Phag"], .listed "1802-1803 1805"⟩,
   ⟨["Beng", "Deva", "Gran", "Knda"], .listed "1cd0 1cd2"⟩,
   ⟨["Deva"], .listed "1cd1 1cd4 1cdb 1cde-1cdf 1ce3-1ce8 1cec 1cee-1cf1"⟩,
   ⟨["Deva", "Gran", "Knda"], .listed "1cd3"⟩,
   ⟨["Beng", "Deva", "Newa", "Telu", "Tirh"], .listed "1cd5"⟩,
   ⟨["Beng", "Deva", "Telu"], .listed "1cd6"⟩,
   ⟨["Deva", "Newa", "Shrd"], .listed "1cd7"⟩,
   ⟨["Beng", "Deva", "Newa", "Telu"], .listed "1cd8"⟩,
   ⟨["Deva", "Shrd"], .listed "1cd9 1cdc-1cdd 1ce0"⟩,
   ⟨["Deva", "Knda", "Mlym", "Orya", "Taml", "Telu"], .listed "1cda"⟩,
   ⟨["Beng", "Deva"], .listed "1ce1 1cf5-1cf6"⟩,
   ⟨["Deva", "Newa", "Tirh"], .listed "1ce2"⟩,
   ⟨["Deva", "Nand", "Newa"], .listed "1ce9"⟩,
   ⟨["Beng", "Deva", "Shrd"], .listed "1cea"⟩,
   ⟨["Deva", "Newa"], .listed "1ceb"⟩,
   ⟨["Beng", "Deva", "Newa", "Shrd"], .listed "1ced"⟩,
   ⟨["Beng", "Deva", "Gran", "Knda", "Mlym", "Nand", "Orya", "Sinh", "Telu",
     "Tirh", "Tutg"], .listed "1cf2"⟩,
   ⟨["Deva", "Gran"], .listed "1cf3 1cf8-1cf9"⟩,
   ⟨["Deva", "Gran", "Knda", "Tutg"], .listed "1cf4"⟩,
   ⟨["Beng"], .listed "1cf7"⟩,
   ⟨["Nand"], .listed "1cfa"⟩,
   ⟨["Cyrl", "Latn", "Syrc"], .listed "1df8"⟩,
   ⟨["Syrc"], .listed "1dfa"⟩,
   ⟨["Latn", "Mong", "Phag"], .listed "202f"⟩,
   ⟨["Adlm", "Arab"], .listed "204f"⟩,
   ⟨["Cari", "Geor", "Glag", "Hung", "Lyci", "Orkh"], .listed "205a"⟩,
   ⟨["Cari", "Grek", "Hung", "Mero"], .listed "205d"⟩,
   ⟨["Deva", "Gran", "Latn"], .listed "20f0"⟩,
   ⟨["Copt", "Latn"], .listed "2e17"⟩,
   ⟨["Avst", "Orkh"], .listed "2e30"⟩,
   ⟨["Avst", "Cari", "Geor", "Hung", "Kthi", "Lydi", "Samr"], .listed "2e31"⟩,
   ⟨["Dupl"], .listed "2e3c 1bca0-1bca3"⟩,
   ⟨["Adlm", "Arab", "Hung"], .listed "2e41"⟩,
   ⟨["Hani", "Tang"], .listed "2ff0-2fff 31ef"⟩,
   ⟨["Bopo", "Hang", "Hani", "Hira", "Kana", "Mong", "Yiii"], .listed "3001"⟩,
   ⟨["Bopo", "Hang", "Hani", "Hira", "Kana", "Mong", "Phag", "Yiii"], .listed "3002"⟩,
   ⟨["Bopo", "Hang", "Hani", "Hira", "Kana"], .listed
      "3003 3013 301c-301f 3030 3037 fe45-fe46"⟩,
   ⟨["Hani"], .listed
      "3006 303e-303f 3190-319f 31c0-31e5 3220-3247 3280-32b0 32c0-32cb 32ff 3358-3370 337b-337f
       33e0-33fe 1d360-1d371 1f250-1f251"⟩,
   ⟨["Bopo", "Hang", "Hani", "Hira", "Kana", "Mong", "Tibt", "Yiii"], .listed "3008-3009"⟩,
   ⟨["Bopo", "Hang", "Hani", "Hira", "Kana", "Lisu", "Mong", "Tibt", "Yiii"], .listed
      "300a-300b"⟩,
   ⟨["Bopo", "Hang", "Hani", "Hira", "Kana", "Yiii"], .listed
      "300c-3011 3014-301b 30fb ff61-ff65"⟩,
   ⟨["Bopo", "Hani"], .listed "302a-302d"⟩,
   ⟨["Hira", "Kana"], .listed "3031-3035 3099-309c 30a0 30fc ff70 ff9e-ff9f"⟩,
   ⟨["Hani", "Hira", "Kana"], .listed "303c-303d"⟩,
   ⟨["Hani", "Latn"], .listed "a700-a707"⟩,
   ⟨["Deva", "Dogr", "Gujr", "Guru", "Khoj", "Knda", "Kthi", "Mahj", "Mlym",
     "Modi", "Nand", "Shrd", "Sind", "Takr", "Tirh", "Tutg"], .listed "a830-a832"⟩,
   ⟨["Deva", "Dogr", "Gujr", "Guru", "Khoj", "Knda", "Kthi", "Mahj", "Modi",
     "Nand", "Shrd", "Sind", "Takr", "Tirh", "Tutg"], .listed "a833-a835"⟩,
   ⟨["Deva", "Dogr", "Gujr", "Guru", "Khoj", "Kthi", "Mahj", "Modi", "Sind",
     "Takr", "Tirh"], .listed "a836-a837 a839"⟩,
   ⟨["Deva", "Dogr", "Gujr", "Guru", "Khoj", "Kthi", "Mahj", "Modi", "Shrd",
     "Sind", "Takr", "Tirh"], .listed "a838"⟩,
   ⟨["Beng", "Deva", "Tutg"], .listed "a8f1"⟩,
   ⟨["Deva", "Taml"], .listed "a8f3"⟩,
   ⟨["Kali", "Latn", "Mymr"], .listed "a92e"⟩,
   ⟨["Bugi", "Java"], .listed "a9cf"⟩,
   ⟨["Arab", "Nkoo"], .listed "fd3e-fd3f"⟩,
   ⟨["Arab", "Thaa"], .listed "fdf2 fdfd"⟩,
   ⟨["Cpmn", "Cprt", "Linb"], .listed "10100-10101"⟩,
   ⟨["Cprt", "Linb"], .listed "10102 10137-1013f"⟩,
   ⟨["Cprt", "Lina", "Linb"], .listed "10107-10133"⟩,
   ⟨["Arab", "Copt"], .listed "102e0-102fb"⟩,
   ⟨["Mani", "Ougr"], .listed "10af2"⟩]

/-- The characters that are used with a script. -/
def usedWith (script : NamedSet) : CodeSet :=
  let (here, elsewhere) := sharedCharacters.partition fun g => g.names.any (script.names.contains ·)
  .union [.without script.set (.union (elsewhere.map (·.set))), .union (here.map (·.set))]

/-- The scripts, each with the characters that are used with it. -/
def scriptExtensions : List NamedSet := scripts.map fun s => ⟨s.names, usedWith s⟩

end PipedQuery.Unicode
