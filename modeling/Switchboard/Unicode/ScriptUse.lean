/-
Characters that are used with several scripts, as version 16.0 of the Unicode character database lists
them.

A character that is not listed is used with its own script.

* `Unicode.usedWith?`: the characters that are used with the script that is given by a name.
-/
import Switchboard.Unicode.Script

namespace Switchboard

namespace Unicode

/-- Characters, and the full names of the scripts that they are used with. -/
def sharedTable : List (String × List String) := [
  ("B7",
    ["avestan", "carian", "coptic", "duployan", "elbasan", "georgian", "glagolitic", "gothic",
     "greek", "gunjalagondi", "han", "latin", "lydian", "mahajani", "oldpermic", "shavian"]),
  ("2BC", ["bengali", "cyrillic", "devanagari", "latin", "lisu", "thai", "toto"]),
  ("2C7 2C9-2CB 2D9", ["bopomofo", "latin"]),
  ("2CD", ["latin", "lisu"]),
  ("2D7", ["latin", "thai"]),
  ("300", ["cherokee", "coptic", "cyrillic", "greek", "latin", "oldpermic", "sunuwar", "taile"]),
  ("301", ["cherokee", "cyrillic", "greek", "latin", "osage", "sunuwar", "taile", "todhri"]),
  ("302", ["cherokee", "cyrillic", "latin", "tifinagh"]),
  ("303", ["glagolitic", "latin", "sunuwar", "syriac", "thai"]),
  ("304",
    ["caucasianalbanian", "cherokee", "coptic", "cyrillic", "gothic", "greek", "latin", "osage",
     "syriac", "tifinagh", "todhri"]),
  ("305", ["coptic", "elbasan", "glagolitic", "gothic", "katakana", "latin"]),
  ("306", ["cyrillic", "greek", "latin", "oldpermic"]),
  ("307",
    ["coptic", "duployan", "hebrew", "latin", "oldpermic", "syriac", "taile", "tifinagh",
     "todhri"]),
  ("308",
    ["armenian", "cyrillic", "duployan", "gothic", "greek", "hebrew", "latin", "oldpermic",
     "syriac", "taile"]),
  ("309", ["latin", "tifinagh"]),
  ("30A", ["duployan", "latin", "syriac"]),
  ("30B", ["cherokee", "cyrillic", "latin", "osage"]),
  ("30C", ["cherokee", "latin", "taile"]),
  ("30D 310", ["latin", "sunuwar"]),
  ("30E", ["ethiopic", "latin"]),
  ("311", ["cyrillic", "latin", "todhri"]),
  ("313", ["greek", "latin", "oldpermic", "todhri"]),
  ("320 325 32E", ["latin", "syriac"]),
  ("323", ["cherokee", "duployan", "katakana", "latin", "syriac"]),
  ("324", ["cherokee", "duployan", "latin", "syriac"]),
  ("32D", ["latin", "sunuwar", "syriac"]),
  ("330", ["cherokee", "latin", "syriac"]),
  ("331", ["caucasianalbanian", "cherokee", "gothic", "latin", "sunuwar", "thai"]),
  ("342 345 1DC0-1DC1", ["greek"]),
  ("358", ["latin", "osage"]),
  ("35E", ["caucasianalbanian", "latin", "todhri"]),
  ("363-36F", ["latin"]),
  ("374-375", ["coptic", "greek"]),
  ("483", ["cyrillic", "oldpermic"]),
  ("484 487 2E43 A66F", ["cyrillic", "glagolitic"]),
  ("485-486", ["cyrillic", "latin"]),
  ("589", ["armenian", "georgian", "glagolitic"]),
  ("60C 61B", ["arabic", "garay", "hanifirohingya", "nko", "syriac", "thaana", "yezidi"]),
  ("61C", ["arabic", "syriac", "thaana"]),
  ("61F", ["adlam", "arabic", "garay", "hanifirohingya", "nko", "syriac", "thaana", "yezidi"]),
  ("640",
    ["adlam", "arabic", "hanifirohingya", "mandaic", "manichaean", "olduyghur", "psalterpahlavi",
     "sogdian", "syriac"]),
  ("64B-655 670", ["arabic", "syriac"]),
  ("660-669", ["arabic", "thaana", "yezidi"]),
  ("6D4", ["arabic", "hanifirohingya"]),
  ("951",
    ["bengali", "devanagari", "grantha", "gujarati", "gurmukhi", "kannada", "latin", "malayalam",
     "oriya", "sharada", "tamil", "telugu", "tirhuta"]),
  ("952",
    ["bengali", "devanagari", "grantha", "gujarati", "gurmukhi", "kannada", "latin", "malayalam",
     "oriya", "tamil", "telugu", "tirhuta"]),
  ("964",
    ["bengali", "devanagari", "dogra", "grantha", "gujarati", "gunjalagondi", "gurmukhi",
     "kannada", "khudawadi", "mahajani", "malayalam", "masaramgondi", "nandinagari", "olonal",
     "oriya", "sinhala", "sylotinagri", "takri", "tamil", "telugu", "tirhuta"]),
  ("965",
    ["bengali", "devanagari", "dogra", "grantha", "gujarati", "gunjalagondi", "gurmukhi",
     "gurungkhema", "kannada", "khudawadi", "limbu", "mahajani", "malayalam", "masaramgondi",
     "nandinagari", "olonal", "oriya", "sinhala", "sylotinagri", "takri", "tamil", "telugu",
     "tirhuta"]),
  ("966-96F", ["devanagari", "dogra", "kaithi", "mahajani"]),
  ("9E6-9EF", ["bengali", "chakma", "sylotinagri"]),
  ("A66-A6F", ["gurmukhi", "multani"]),
  ("AE6-AEF", ["gujarati", "khojki"]),
  ("BE6-BF3 11301 11303 1133B-1133C 11FD0-11FD1 11FD3", ["grantha", "tamil"]),
  ("CE6-CEF", ["kannada", "nandinagari", "tulutigalari"]),
  ("1040-1049", ["chakma", "myanmar", "taile"]),
  ("10FB", ["georgian", "glagolitic", "latin"]),
  ("16EB-16ED", ["runic"]),
  ("1735-1736", ["buhid", "hanunoo", "tagalog", "tagbanwa"]),
  ("1802-1803 1805", ["mongolian", "phagspa"]),
  ("1CD0 1CD2", ["bengali", "devanagari", "grantha", "kannada"]),
  ("1CD1 1CD4 1CDB 1CDE-1CDF 1CE2-1CE8 1CEB-1CEC 1CEE-1CF1", ["devanagari"]),
  ("1CD3", ["devanagari", "grantha", "kannada"]),
  ("1CD5-1CD6 1CD8 1CE1 1CEA 1CED 1CF5-1CF6", ["bengali", "devanagari"]),
  ("1CD7 1CD9 1CDC-1CDD 1CE0", ["devanagari", "sharada"]),
  ("1CDA", ["devanagari", "kannada", "malayalam", "oriya", "tamil", "telugu"]),
  ("1CE9", ["devanagari", "nandinagari"]),
  ("1CF2",
    ["bengali", "devanagari", "grantha", "kannada", "malayalam", "nandinagari", "oriya",
     "sinhala", "telugu", "tirhuta", "tulutigalari"]),
  ("1CF3 1CF8-1CF9", ["devanagari", "grantha"]),
  ("1CF4", ["devanagari", "grantha", "kannada", "tulutigalari"]),
  ("1CF7", ["bengali"]),
  ("1CFA", ["nandinagari"]),
  ("1DF8", ["cyrillic", "latin", "syriac"]),
  ("1DFA", ["syriac"]),
  ("202F", ["latin", "mongolian", "phagspa"]),
  ("204F", ["adlam", "arabic"]),
  ("205A", ["carian", "georgian", "glagolitic", "lycian", "oldhungarian", "oldturkic"]),
  ("205D", ["carian", "greek", "meroitichieroglyphs", "oldhungarian"]),
  ("20F0", ["devanagari", "grantha", "latin"]),
  ("2E17", ["coptic", "latin"]),
  ("2E30", ["avestan", "oldturkic"]),
  ("2E31", ["avestan", "carian", "georgian", "kaithi", "lydian", "oldhungarian", "samaritan"]),
  ("2E3C 1BCA0-1BCA3", ["duployan"]),
  ("2E41", ["adlam", "arabic", "oldhungarian"]),
  ("2FF0-2FFF 31EF", ["han", "tangut"]),
  ("3001", ["bopomofo", "han", "hangul", "hiragana", "katakana", "mongolian", "yi"]),
  ("3002", ["bopomofo", "han", "hangul", "hiragana", "katakana", "mongolian", "phagspa", "yi"]),
  ("3003 3013 301C-301F 3030 3037 FE45-FE46",
    ["bopomofo", "han", "hangul", "hiragana", "katakana"]),
  ("3006 303E-303F 3190-319F 31C0-31E5 3220-3247 3280-32B0 32C0-32CB 32FF 3358-3370 337B-337F
     33E0-33FE 1D360-1D371 1F250-1F251",
    ["han"]),
  ("3008-3009",
    ["bopomofo", "han", "hangul", "hiragana", "katakana", "mongolian", "tibetan", "yi"]),
  ("300A-300B",
    ["bopomofo", "han", "hangul", "hiragana", "katakana", "lisu", "mongolian", "tibetan", "yi"]),
  ("300C-3011 3014-301B 30FB FF61-FF65",
    ["bopomofo", "han", "hangul", "hiragana", "katakana", "yi"]),
  ("302A-302D", ["bopomofo", "han"]),
  ("3031-3035 3099-309C 30A0 30FC FF70 FF9E-FF9F", ["hiragana", "katakana"]),
  ("303C-303D", ["han", "hiragana", "katakana"]),
  ("A700-A707", ["han", "latin"]),
  ("A830-A832",
    ["devanagari", "dogra", "gujarati", "gurmukhi", "kaithi", "kannada", "khojki", "khudawadi",
     "mahajani", "malayalam", "modi", "nandinagari", "sharada", "takri", "tirhuta",
     "tulutigalari"]),
  ("A833-A835",
    ["devanagari", "dogra", "gujarati", "gurmukhi", "kaithi", "kannada", "khojki", "khudawadi",
     "mahajani", "modi", "nandinagari", "sharada", "takri", "tirhuta", "tulutigalari"]),
  ("A836-A837 A839",
    ["devanagari", "dogra", "gujarati", "gurmukhi", "kaithi", "khojki", "khudawadi", "mahajani",
     "modi", "takri", "tirhuta"]),
  ("A838",
    ["devanagari", "dogra", "gujarati", "gurmukhi", "kaithi", "khojki", "khudawadi", "mahajani",
     "modi", "sharada", "takri", "tirhuta"]),
  ("A8F1", ["bengali", "devanagari", "tulutigalari"]),
  ("A8F3", ["devanagari", "tamil"]),
  ("A92E", ["kayahli", "latin", "myanmar"]),
  ("A9CF", ["buginese", "javanese"]),
  ("FD3E-FD3F", ["arabic", "nko"]),
  ("FDF2 FDFD", ["arabic", "thaana"]),
  ("10100-10101", ["cypriot", "cyprominoan", "linearb"]),
  ("10102 10137-1013F", ["cypriot", "linearb"]),
  ("10107-10133", ["cypriot", "lineara", "linearb"]),
  ("102E0-102FB", ["arabic", "coptic"]),
  ("10AF2", ["manichaean", "olduyghur"])]

/-- The characters that are listed. -/
def shared : RangeSet := .unions (sharedTable.map fun e => .parse e.1)

/-- The characters that are used with a script, given by one of its names. -/
def usedWith? (name : String) : Option RangeSet :=
  match scriptRow? name with
  | none => none
  | some (names, own) =>
    let also := sharedTable.filter fun e => e.2.any fun n => names.contains n
    some (((RangeSet.parse own).minus shared).union (.unions (also.map fun e => .parse e.1)))

end Unicode

end Switchboard
