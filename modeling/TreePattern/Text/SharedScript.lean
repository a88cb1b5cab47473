import TreePattern.Text.Script

namespace TreePattern.CharSet

def sharedScripts : List (List String × CharSet) :=
  [(["avst", "cari", "copt", "dupl", "elba", "geor", "glag", "gong", "goth", "grek", "hani",
        "latn", "lydi", "mahj", "perm", "shaw"],
      .ofTable ["b7"]),
    (["beng", "cyrl", "deva", "latn", "lisu", "thai", "toto"], .ofTable ["2bc"]),
    (["bopo", "latn"], .ofTable ["2c7 2c9-2cb 2d9"]),
    (["latn", "lisu"], .ofTable ["2cd"]),
    (["latn", "thai"], .ofTable ["2d7"]),
    (["cher", "copt", "cyrl", "grek", "latn", "perm", "sunu", "tale"], .ofTable ["300"]),
    (["cher", "cyrl", "grek", "latn", "osge", "sunu", "tale", "todr"], .ofTable ["301"]),
    (["cher", "cyrl", "latn", "tfng"], .ofTable ["302"]),
    (["glag", "latn", "sunu", "syrc", "thai"], .ofTable ["303"]),
    (["aghb", "cher", "copt", "cyrl", "goth", "grek", "latn", "osge", "syrc", "tfng", "todr"],
      .ofTable ["304"]),
    (["copt", "elba", "glag", "goth", "kana", "latn"], .ofTable ["305"]),
    (["cyrl", "grek", "latn", "perm", "tfng"], .ofTable ["306"]),
    (["copt", "dupl", "hebr", "latn", "perm", "syrc", "tale", "tfng", "todr"], .ofTable ["307"]),
    (["armn", "cyrl", "dupl", "goth", "grek", "hebr", "latn", "perm", "syrc", "tale", "tfng"],
      .ofTable ["308"]),
    (["latn", "tfng"], .ofTable ["309"]),
    (["dupl", "latn", "syrc"], .ofTable ["30a"]),
    (["cher", "cyrl", "latn", "osge"], .ofTable ["30b"]),
    (["cher", "latn", "tale"], .ofTable ["30c"]),
    (["latn", "sunu"], .ofTable ["30d 310"]),
    (["ethi", "latn"], .ofTable ["30e"]),
    (["cyrl", "latn", "todr"], .ofTable ["311"]),
    (["grek", "latn", "perm", "todr"], .ofTable ["313"]),
    (["cher", "dupl", "kana", "latn", "syrc", "tfng"], .ofTable ["323"]),
    (["cher", "dupl", "latn", "syrc"], .ofTable ["324"]),
    (["latn", "syrc"], .ofTable ["325 32e"]),
    (["latn", "sunu", "syrc"], .ofTable ["32d"]),
    (["cher", "latn", "syrc"], .ofTable ["330"]),
    (["aghb", "cher", "goth", "latn", "sunu", "syrc", "thai"], .ofTable ["331"]),
    (["grek"], .ofTable ["342 345 1dc0-1dc1"]),
    (["latn", "osge"], .ofTable ["358"]),
    (["aghb", "latn", "todr"], .ofTable ["35e"]),
    (["latn"], .ofTable ["363-36f"]),
    (["copt", "grek"], .ofTable ["374-375"]),
    (["cyrl", "perm"], .ofTable ["483"]),
    (["cyrl", "glag"], .ofTable ["484 487 2e43 a66f"]),
    (["cyrl", "latn"], .ofTable ["485-486"]),
    (["armn", "geor", "glag"], .ofTable ["589"]),
    (["arab", "gara", "nkoo", "rohg", "syrc", "thaa", "yezi"], .ofTable ["60c 61b"]),
    (["arab", "syrc", "thaa"], .ofTable ["61c"]),
    (["adlm", "arab", "gara", "nkoo", "rohg", "syrc", "thaa", "yezi"], .ofTable ["61f"]),
    (["adlm", "arab", "mand", "mani", "ougr", "phlp", "rohg", "sogd", "syrc"], .ofTable ["640"]),
    (["arab", "syrc"], .ofTable ["64b-655 670"]),
    (["arab", "thaa", "yezi"], .ofTable ["660-669"]),
    (["arab", "rohg"], .ofTable ["6d4"]),
    (["beng", "deva", "gran", "gujr", "guru", "knda", "latn", "mlym", "nand", "newa", "orya",
        "shrd", "taml", "telu", "tirh"],
      .ofTable ["951"]),
    (["beng", "deva", "gran", "gujr", "guru", "knda", "latn", "mlym", "newa", "orya", "taml",
        "telu", "tirh"],
      .ofTable ["952"]),
    (["beng", "deva", "dogr", "gong", "gonm", "gran", "gujr", "guru", "knda", "mahj", "mlym",
        "nand", "onao", "orya", "sind", "sinh", "sylo", "takr", "taml", "telu", "tirh"],
      .ofTable ["964"]),
    (["beng", "deva", "dogr", "gong", "gonm", "gran", "gujr", "gukh", "guru", "knda", "limb",
        "mahj", "mlym", "nand", "onao", "orya", "sind", "sinh", "sylo", "takr", "taml", "telu",
        "tirh"],
      .ofTable ["965"]),
    (["deva", "dogr", "kthi", "mahj"], .ofTable ["966-96f"]),
    (["beng", "cakm", "sylo"], .ofTable ["9e6-9ef"]),
    (["guru", "mult"], .ofTable ["a66-a6f"]),
    (["gujr", "khoj"], .ofTable ["ae6-aef"]),
    (["gran", "taml"], .ofTable ["be6-bf3 11301 11303 1133b-1133c 11fd0-11fd1 11fd3"]),
    (["knda", "nand", "tutg"], .ofTable ["ce6-cef"]),
    (["cakm", "mymr", "tale"], .ofTable ["1040-1049"]),
    (["geor", "glag", "latn"], .ofTable ["10fb"]),
    (["runr"], .ofTable ["16eb-16ed"]),
    (["buhd", "hano", "tagb", "tglg"], .ofTable ["1735-1736"]),
    (["mong", "phag"], .ofTable ["1802-1803 1805"]),
    (["beng", "deva", "gran", "knda"], .ofTable ["1cd0 1cd2"]),
    (["deva"], .ofTable ["1cd1 1cd4 1cdb 1cde-1cdf 1ce3-1ce8 1cec 1cee-1cf1"]),
    (["deva", "gran", "knda"], .ofTable ["1cd3"]),
    (["beng", "deva", "newa", "telu", "tirh"], .ofTable ["1cd5"]),
    (["beng", "deva", "telu"], .ofTable ["1cd6"]),
    (["deva", "newa", "shrd"], .ofTable ["1cd7"]),
    (["beng", "deva", "newa", "telu"], .ofTable ["1cd8"]),
    (["deva", "shrd"], .ofTable ["1cd9 1cdc-1cdd 1ce0"]),
    (["deva", "knda", "mlym", "orya", "taml", "telu"], .ofTable ["1cda"]),
    (["beng", "deva"], .ofTable ["1ce1 1cf5-1cf6"]),
    (["deva", "newa", "tirh"], .ofTable ["1ce2"]),
    (["deva", "nand", "newa"], .ofTable ["1ce9"]),
    (["beng", "deva", "shrd"], .ofTable ["1cea"]),
    (["deva", "newa"], .ofTable ["1ceb"]),
    (["beng", "deva", "newa", "shrd"], .ofTable ["1ced"]),
    (["beng", "deva", "gran", "knda", "mlym", "nand", "orya", "sinh", "telu", "tirh", "tutg"],
      .ofTable ["1cf2"]),
    (["deva", "gran"], .ofTable ["1cf3 1cf8-1cf9"]),
    (["deva", "gran", "knda", "tutg"], .ofTable ["1cf4"]),
    (["beng"], .ofTable ["1cf7"]),
    (["nand"], .ofTable ["1cfa"]),
    (["cyrl", "latn", "syrc"], .ofTable ["1df8"]),
    (["syrc"], .ofTable ["1dfa"]),
    (["latn", "mong", "phag"], .ofTable ["202f"]),
    (["adlm", "arab"], .ofTable ["204f"]),
    (["cari", "geor", "glag", "hung", "lyci", "orkh"], .ofTable ["205a"]),
    (["cari", "grek", "hung", "mero"], .ofTable ["205d"]),
    (["deva", "gran", "latn"], .ofTable ["20f0"]),
    (["copt", "latn"], .ofTable ["2e17"]),
    (["avst", "orkh"], .ofTable ["2e30"]),
    (["avst", "cari", "geor", "hung", "kthi", "lydi", "samr"], .ofTable ["2e31"]),
    (["dupl"], .ofTable ["2e3c 1bca0-1bca3"]),
    (["adlm", "arab", "hung"], .ofTable ["2e41"]),
    (["hani", "tang"], .ofTable ["2ff0-2fff 31ef"]),
    (["bopo", "hang", "hani", "hira", "kana", "mong", "yiii"], .ofTable ["3001"]),
    (["bopo", "hang", "hani", "hira", "kana", "mong", "phag", "yiii"], .ofTable ["3002"]),
    (["bopo", "hang", "hani", "hira", "kana"], .ofTable
      ["3003 3013 301c-301f 3030 3037 fe45-fe46"]),
    (["hani"], .ofTable
      ["3006 303e-303f 3190-319f 31c0-31e5 3220-3247 3280-32b0 32c0-32cb 32ff 3358-3370",
       "337b-337f 33e0-33fe 1d360-1d371 1f250-1f251"]),
    (["bopo", "hang", "hani", "hira", "kana", "mong", "tibt", "yiii"], .ofTable ["3008-3009"]),
    (["bopo", "hang", "hani", "hira", "kana", "lisu", "mong", "tibt", "yiii"], .ofTable
      ["300a-300b"]),
    (["bopo", "hang", "hani", "hira", "kana", "yiii"], .ofTable
      ["300c-3011 3014-301b 30fb ff61-ff65"]),
    (["bopo", "hani"], .ofTable ["302a-302d"]),
    (["hira", "kana"], .ofTable ["3031-3035 3099-309c 30a0 30fc ff70 ff9e-ff9f"]),
    (["hani", "hira", "kana"], .ofTable ["303c-303d"]),
    (["hani", "latn"], .ofTable ["a700-a707"]),
    (["deva", "dogr", "gujr", "guru", "khoj", "knda", "kthi", "mahj", "mlym", "modi", "nand",
        "shrd", "sind", "takr", "tirh", "tutg"],
      .ofTable ["a830-a832"]),
    (["deva", "dogr", "gujr", "guru", "khoj", "knda", "kthi", "mahj", "modi", "nand", "shrd",
        "sind", "takr", "tirh", "tutg"],
      .ofTable ["a833-a835"]),
    (["deva", "dogr", "gujr", "guru", "khoj", "kthi", "mahj", "modi", "sind", "takr", "tirh"],
      .ofTable ["a836-a837 a839"]),
    (["deva", "dogr", "gujr", "guru", "khoj", "kthi", "mahj", "modi", "shrd", "sind", "takr",
        "tirh"],
      .ofTable ["a838"]),
    (["beng", "deva", "tutg"], .ofTable ["a8f1"]),
    (["deva", "taml"], .ofTable ["a8f3"]),
    (["kali", "latn", "mymr"], .ofTable ["a92e"]),
    (["bugi", "java"], .ofTable ["a9cf"]),
    (["arab", "nkoo"], .ofTable ["fd3e-fd3f"]),
    (["arab", "thaa"], .ofTable ["fdf2 fdfd"]),
    (["cpmn", "cprt", "linb"], .ofTable ["10100-10101"]),
    (["cprt", "linb"], .ofTable ["10102 10137-1013f"]),
    (["cprt", "lina", "linb"], .ofTable ["10107-10133"]),
    (["arab", "copt"], .ofTable ["102e0-102fb"]),
    (["mani", "ougr"], .ofTable ["10af2"])]

def shared : CharSet := unions (sharedScripts.map (·.2))

def usedIn? (name : String) : Option CharSet :=
  (scripts.find? (·.1.contains name)).map fun (names, own) ↦
    let borrowed := sharedScripts.filter fun e ↦ e.1.any names.contains
    union (own.diff shared) (unions (borrowed.map (·.2)))

end TreePattern.CharSet
