/-
What version 17.0 of the Unicode character database changes in version 16.0.

The classes of patterns keep to version 16.0. Texts are shown and lowered, and the groups of patterns
are named, by version 17.0, which differs in new characters and in the case of one old letter.
-/
import Switchboard.Unicode.Property

namespace Switchboard

namespace Unicode

namespace Newest

/-- The characters that version 17.0 added. -/
def added : RangeSet :=
  .parse "88F C5C CDC 1ACF-1ADD 1AE0-1AEB 20C1 2B96 A7CE-A7CF A7D2 A7D4 A7F1 FBC3-FBD2 FD90-FD91
          FDC8-FDCE 10940-10959 10EC5-10EC7 10ED0-10ED8 10EFA-10EFB 11B60-11B67 11DB0-11DDB
          11DE0-11DE9 16EA0-16EB8 16EBB-16ED3 16FF2-16FF6 187F8-187FF 18D09-18D1E 18D80-18DF2
          1CCFA-1CCFC 1CEBA-1CED0 1CEE0-1CEF0 1E6C0-1E6DE 1E6E0-1E6F5 1E6FE-1E6FF 1F6D8
          1F777-1F77A 1F8D0-1F8D8 1FA54-1FA57 1FA8A 1FA8E 1FAC8 1FACD 1FAEA 1FAEF 1FBFA
          2B73A-2B73F 2CEA2-2CEAD 323B0-33479"

def assigned : RangeSet := Unicode.assigned.union added

def alphabetic : RangeSet :=
  Unicode.alphabetic.union
    (.parse "88F C5C CDC A7CE-A7CF A7D2 A7D4 A7F1 10940-10959 10EC5-10EC7 10EFA-10EFB 11B60-11B67
             11DB0-11DDB 16EA0-16EB8 16EBB-16ED3 16FF2-16FF6 187F8-187FF 18D09-18D1E 18D80-18DF2
             1E6C0-1E6DE 1E6E0-1E6F5 1E6FE-1E6FF 2B73A-2B73F 2CEA2-2CEAD 323B0-33479")

/-- The numbers: decimal digits, letters that stand for numbers, and others. -/
def numeric : RangeSet :=
  (categories ["nd", "nl", "no"]).union (.parse "11DE0-11DE9 16FF4-16FF6")

/-- Letters that have a case. The letter 295 lost its own. -/
def cased : RangeSet :=
  (Unicode.cased.minus (.range 0x295 0x295)).union
    (.parse "A7CE-A7CF A7D2 A7D4 A7F1 16EA0-16EB8 16EBB-16ED3")

def caseIgnorable : RangeSet :=
  Unicode.caseIgnorable.union
    (.parse "1ACF-1ADD 1AE0-1AEB A7F1 10EC5 10EFA-10EFB 11B60 11B62-11B64 11B66 11DD9 16FF2-16FF3
             1E6E3 1E6E6 1E6EE-1E6EF 1E6F5 1E6FF")

def graphemeExtend : RangeSet :=
  Unicode.graphemeExtend.union
    (.parse "1ACF-1ADD 1AE0-1AEB 10EFA-10EFB 11B60 11B62-11B64 11B66 1E6E3 1E6E6 1E6EE-1E6EF
             1E6F5")

end Newest

end Unicode

end Switchboard
