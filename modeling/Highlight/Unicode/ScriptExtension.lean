import Highlight.Unicode.Script

/-!
# Script extensions

Some characters are used with several scripts. Where the table lists a character, it belongs to
every script listed with it, and otherwise to its own script alone.
-/

namespace Highlight.Unicode

/-- Code points used with several scripts, with the codes of those scripts. -/
def scriptExtensions : List ((Nat × Nat) × String) := [
  ((0x00B7, 0x00B7),
    "Avst Cari Copt Dupl Elba Geor Glag Gong Goth Grek Hani Latn Lydi Mahj Perm Shaw"),
  ((0x02BC, 0x02BC), "Beng Cyrl Deva Latn Lisu Thai Toto"), ((0x02C7, 0x02C7), "Bopo Latn"),
  ((0x02C9, 0x02CB), "Bopo Latn"), ((0x02CD, 0x02CD), "Latn Lisu"),
  ((0x02D7, 0x02D7), "Latn Thai"), ((0x02D9, 0x02D9), "Bopo Latn"),
  ((0x0300, 0x0300), "Cher Copt Cyrl Grek Latn Perm Sunu Tale"),
  ((0x0301, 0x0301), "Cher Cyrl Grek Latn Osge Sunu Tale Todr"),
  ((0x0302, 0x0302), "Cher Cyrl Latn Tfng"), ((0x0303, 0x0303), "Glag Latn Sunu Syrc Thai"),
  ((0x0304, 0x0304), "Aghb Cher Copt Cyrl Goth Grek Latn Osge Syrc Tfng Todr"),
  ((0x0305, 0x0305), "Copt Elba Glag Goth Kana Latn"),
  ((0x0306, 0x0306), "Cyrl Grek Latn Perm Tfng"),
  ((0x0307, 0x0307), "Copt Dupl Hebr Latn Perm Syrc Tale Tfng Todr"),
  ((0x0308, 0x0308), "Armn Cyrl Dupl Goth Grek Hebr Latn Perm Syrc Tale Tfng"),
  ((0x0309, 0x0309), "Latn Tfng"), ((0x030A, 0x030A), "Dupl Latn Syrc"),
  ((0x030B, 0x030B), "Cher Cyrl Latn Osge"), ((0x030C, 0x030C), "Cher Latn Tale"),
  ((0x030D, 0x030D), "Latn Sunu"), ((0x030E, 0x030E), "Ethi Latn"),
  ((0x0310, 0x0310), "Latn Sunu"), ((0x0311, 0x0311), "Cyrl Latn Todr"),
  ((0x0313, 0x0313), "Grek Latn Perm Todr"), ((0x0323, 0x0323), "Cher Dupl Kana Latn Syrc Tfng"),
  ((0x0324, 0x0324), "Cher Dupl Latn Syrc"), ((0x0325, 0x0325), "Latn Syrc"),
  ((0x032D, 0x032D), "Latn Sunu Syrc"), ((0x032E, 0x032E), "Latn Syrc"),
  ((0x0330, 0x0330), "Cher Latn Syrc"), ((0x0331, 0x0331), "Aghb Cher Goth Latn Sunu Syrc Thai"),
  ((0x0342, 0x0342), "Grek"), ((0x0345, 0x0345), "Grek"), ((0x0358, 0x0358), "Latn Osge"),
  ((0x035E, 0x035E), "Aghb Latn Todr"), ((0x0363, 0x036F), "Latn"),
  ((0x0374, 0x0375), "Copt Grek"), ((0x0483, 0x0483), "Cyrl Perm"),
  ((0x0484, 0x0484), "Cyrl Glag"), ((0x0485, 0x0486), "Cyrl Latn"),
  ((0x0487, 0x0487), "Cyrl Glag"), ((0x0589, 0x0589), "Armn Geor Glag"),
  ((0x060C, 0x060C), "Arab Gara Nkoo Rohg Syrc Thaa Yezi"),
  ((0x061B, 0x061B), "Arab Gara Nkoo Rohg Syrc Thaa Yezi"), ((0x061C, 0x061C), "Arab Syrc Thaa"),
  ((0x061F, 0x061F), "Adlm Arab Gara Nkoo Rohg Syrc Thaa Yezi"),
  ((0x0640, 0x0640), "Adlm Arab Mand Mani Ougr Phlp Rohg Sogd Syrc"),
  ((0x064B, 0x0655), "Arab Syrc"), ((0x0660, 0x0669), "Arab Thaa Yezi"),
  ((0x0670, 0x0670), "Arab Syrc"), ((0x06D4, 0x06D4), "Arab Rohg"),
  ((0x0951, 0x0951), "Beng Deva Gran Gujr Guru Knda Latn Mlym Nand Newa Orya Shrd Taml Telu Tirh"),
  ((0x0952, 0x0952), "Beng Deva Gran Gujr Guru Knda Latn Mlym Newa Orya Taml Telu Tirh"),
  ((0x0964, 0x0964),
    "Beng Deva Dogr Gong Gonm Gran Gujr Guru Knda Mahj Mlym Nand Onao Orya Sind Sinh Sylo " ++
    "Takr Taml Telu Tirh"),
  ((0x0965, 0x0965),
    "Beng Deva Dogr Gong Gonm Gran Gujr Gukh Guru Knda Limb Mahj Mlym Nand Onao Orya Sind " ++
    "Sinh Sylo Takr Taml Telu Tirh"),
  ((0x0966, 0x096F), "Deva Dogr Kthi Mahj"), ((0x09E6, 0x09EF), "Beng Cakm Sylo"),
  ((0x0A66, 0x0A6F), "Guru Mult"), ((0x0AE6, 0x0AEF), "Gujr Khoj"),
  ((0x0BE6, 0x0BF3), "Gran Taml"), ((0x0CE6, 0x0CEF), "Knda Nand Tutg"),
  ((0x1040, 0x1049), "Cakm Mymr Tale"), ((0x10FB, 0x10FB), "Geor Glag Latn"),
  ((0x16EB, 0x16ED), "Runr"), ((0x1735, 0x1736), "Buhd Hano Tagb Tglg"),
  ((0x1802, 0x1803), "Mong Phag"), ((0x1805, 0x1805), "Mong Phag"),
  ((0x1CD0, 0x1CD0), "Beng Deva Gran Knda"), ((0x1CD1, 0x1CD1), "Deva"),
  ((0x1CD2, 0x1CD2), "Beng Deva Gran Knda"), ((0x1CD3, 0x1CD3), "Deva Gran Knda"),
  ((0x1CD4, 0x1CD4), "Deva"), ((0x1CD5, 0x1CD5), "Beng Deva Newa Telu Tirh"),
  ((0x1CD6, 0x1CD6), "Beng Deva Telu"), ((0x1CD7, 0x1CD7), "Deva Newa Shrd"),
  ((0x1CD8, 0x1CD8), "Beng Deva Newa Telu"), ((0x1CD9, 0x1CD9), "Deva Shrd"),
  ((0x1CDA, 0x1CDA), "Deva Knda Mlym Orya Taml Telu"), ((0x1CDB, 0x1CDB), "Deva"),
  ((0x1CDC, 0x1CDD), "Deva Shrd"), ((0x1CDE, 0x1CDF), "Deva"), ((0x1CE0, 0x1CE0), "Deva Shrd"),
  ((0x1CE1, 0x1CE1), "Beng Deva"), ((0x1CE2, 0x1CE2), "Deva Newa Tirh"),
  ((0x1CE3, 0x1CE8), "Deva"), ((0x1CE9, 0x1CE9), "Deva Nand Newa"),
  ((0x1CEA, 0x1CEA), "Beng Deva Shrd"), ((0x1CEB, 0x1CEB), "Deva Newa"),
  ((0x1CEC, 0x1CEC), "Deva"), ((0x1CED, 0x1CED), "Beng Deva Newa Shrd"),
  ((0x1CEE, 0x1CF1), "Deva"),
  ((0x1CF2, 0x1CF2), "Beng Deva Gran Knda Mlym Nand Orya Sinh Telu Tirh Tutg"),
  ((0x1CF3, 0x1CF3), "Deva Gran"), ((0x1CF4, 0x1CF4), "Deva Gran Knda Tutg"),
  ((0x1CF5, 0x1CF6), "Beng Deva"), ((0x1CF7, 0x1CF7), "Beng"), ((0x1CF8, 0x1CF9), "Deva Gran"),
  ((0x1CFA, 0x1CFA), "Nand"), ((0x1DC0, 0x1DC1), "Grek"), ((0x1DF8, 0x1DF8), "Cyrl Latn Syrc"),
  ((0x1DFA, 0x1DFA), "Syrc"), ((0x202F, 0x202F), "Latn Mong Phag"),
  ((0x204F, 0x204F), "Adlm Arab"), ((0x205A, 0x205A), "Cari Geor Glag Hung Lyci Orkh"),
  ((0x205D, 0x205D), "Cari Grek Hung Mero"), ((0x20F0, 0x20F0), "Deva Gran Latn"),
  ((0x2E17, 0x2E17), "Copt Latn"), ((0x2E30, 0x2E30), "Avst Orkh"),
  ((0x2E31, 0x2E31), "Avst Cari Geor Hung Kthi Lydi Samr"), ((0x2E3C, 0x2E3C), "Dupl"),
  ((0x2E41, 0x2E41), "Adlm Arab Hung"), ((0x2E43, 0x2E43), "Cyrl Glag"),
  ((0x2FF0, 0x2FFF), "Hani Tang"), ((0x3001, 0x3001), "Bopo Hang Hani Hira Kana Mong Yiii"),
  ((0x3002, 0x3002), "Bopo Hang Hani Hira Kana Mong Phag Yiii"),
  ((0x3003, 0x3003), "Bopo Hang Hani Hira Kana"), ((0x3006, 0x3006), "Hani"),
  ((0x3008, 0x3009), "Bopo Hang Hani Hira Kana Mong Tibt Yiii"),
  ((0x300A, 0x300B), "Bopo Hang Hani Hira Kana Lisu Mong Tibt Yiii"),
  ((0x300C, 0x3011), "Bopo Hang Hani Hira Kana Yiii"),
  ((0x3013, 0x3013), "Bopo Hang Hani Hira Kana"),
  ((0x3014, 0x301B), "Bopo Hang Hani Hira Kana Yiii"),
  ((0x301C, 0x301F), "Bopo Hang Hani Hira Kana"), ((0x302A, 0x302D), "Bopo Hani"),
  ((0x3030, 0x3030), "Bopo Hang Hani Hira Kana"), ((0x3031, 0x3035), "Hira Kana"),
  ((0x3037, 0x3037), "Bopo Hang Hani Hira Kana"), ((0x303C, 0x303D), "Hani Hira Kana"),
  ((0x303E, 0x303F), "Hani"), ((0x3099, 0x309C), "Hira Kana"), ((0x30A0, 0x30A0), "Hira Kana"),
  ((0x30FB, 0x30FB), "Bopo Hang Hani Hira Kana Yiii"), ((0x30FC, 0x30FC), "Hira Kana"),
  ((0x3190, 0x319F), "Hani"), ((0x31C0, 0x31E5), "Hani"), ((0x31EF, 0x31EF), "Hani Tang"),
  ((0x3220, 0x3247), "Hani"), ((0x3280, 0x32B0), "Hani"), ((0x32C0, 0x32CB), "Hani"),
  ((0x32FF, 0x32FF), "Hani"), ((0x3358, 0x3370), "Hani"), ((0x337B, 0x337F), "Hani"),
  ((0x33E0, 0x33FE), "Hani"), ((0xA66F, 0xA66F), "Cyrl Glag"), ((0xA700, 0xA707), "Hani Latn"),
  ((0xA830, 0xA832),
    "Deva Dogr Gujr Guru Khoj Knda Kthi Mahj Mlym Modi Nand Shrd Sind Takr Tirh Tutg"),
  ((0xA833, 0xA835), "Deva Dogr Gujr Guru Khoj Knda Kthi Mahj Modi Nand Shrd Sind Takr Tirh Tutg"),
  ((0xA836, 0xA837), "Deva Dogr Gujr Guru Khoj Kthi Mahj Modi Sind Takr Tirh"),
  ((0xA838, 0xA838), "Deva Dogr Gujr Guru Khoj Kthi Mahj Modi Shrd Sind Takr Tirh"),
  ((0xA839, 0xA839), "Deva Dogr Gujr Guru Khoj Kthi Mahj Modi Sind Takr Tirh"),
  ((0xA8F1, 0xA8F1), "Beng Deva Tutg"), ((0xA8F3, 0xA8F3), "Deva Taml"),
  ((0xA92E, 0xA92E), "Kali Latn Mymr"), ((0xA9CF, 0xA9CF), "Bugi Java"),
  ((0xFD3E, 0xFD3F), "Arab Nkoo"), ((0xFDF2, 0xFDF2), "Arab Thaa"),
  ((0xFDFD, 0xFDFD), "Arab Thaa"), ((0xFE45, 0xFE46), "Bopo Hang Hani Hira Kana"),
  ((0xFF61, 0xFF65), "Bopo Hang Hani Hira Kana Yiii"), ((0xFF70, 0xFF70), "Hira Kana"),
  ((0xFF9E, 0xFF9F), "Hira Kana"), ((0x10100, 0x10101), "Cpmn Cprt Linb"),
  ((0x10102, 0x10102), "Cprt Linb"), ((0x10107, 0x10133), "Cprt Lina Linb"),
  ((0x10137, 0x1013F), "Cprt Linb"), ((0x102E0, 0x102FB), "Arab Copt"),
  ((0x10AF2, 0x10AF2), "Mani Ougr"), ((0x11301, 0x11301), "Gran Taml"),
  ((0x11303, 0x11303), "Gran Taml"), ((0x1133B, 0x1133C), "Gran Taml"),
  ((0x11FD0, 0x11FD1), "Gran Taml"), ((0x11FD3, 0x11FD3), "Gran Taml"),
  ((0x1BCA0, 0x1BCA3), "Dupl"), ((0x1D360, 0x1D371), "Hani"), ((0x1F250, 0x1F251), "Hani")]

/-- The code points of the table. -/
def sharedRanges : Ranges := Ranges.join (scriptExtensions.map (·.1))

/-- The characters used with a script. -/
def Script.extended (script : Script) : Ranges :=
  let listed := scriptExtensions.filter fun entry => (entry.2.splitOn " ").contains script.code
  Ranges.union (Ranges.diff script.ranges sharedRanges) (Ranges.join (listed.map (·.1)))

end Highlight.Unicode
