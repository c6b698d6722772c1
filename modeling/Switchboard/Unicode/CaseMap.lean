/-
Case maps from character to character: lower case, as version 17.0 of the Unicode character database
gives it, and the simple folding of version 16.0, under which characters count as equal regardless of
case.

A map is a list of runs; the characters of a run stand at a fixed distance from each other and are
all moved by the same amount.

* `CaseMap.apply`, `CaseMap.preimage`: where a map takes a character, and from where;
* `caseVariants`, `RangeSet.closeCase`: what equals a character, or some member of a set.
-/
import Switchboard.Unicode.RangeSet

namespace Switchboard

namespace Unicode

/-- The characters `first`, `first + step`, … up to `last`, which are all moved by `shift`. -/
structure Run where
  first : Nat
  last : Nat
  step : Nat
  shift : Int
deriving Repr, Inhabited

namespace Run

/-- Whether the run moves the character `n`. -/
def moves (r : Run) (n : Nat) : Bool :=
  r.first ≤ n && n ≤ r.last && (n - r.first) % r.step == 0

/-- The run that moves everything back. -/
def inverse (r : Run) : Run :=
  let move (n : Nat) := ((n : Int) + r.shift).toNat
  ⟨move r.first, move r.last, r.step, -r.shift⟩

/-- Where the run takes the characters from `a` to `b` that it moves, as ranges. -/
def image (r : Run) (a b : Nat) : List (Nat × Nat) :=
  let start := max a r.first
  let start := start + (r.step - (start - r.first) % r.step) % r.step
  let stop := min b r.last
  let move (n : Nat) := ((n : Int) + r.shift).toNat
  if stop < start then []
  else if r.step = 1 then [(move start, move stop)]
  else (List.range ((stop - start) / r.step + 1)).map fun k =>
    (move (start + k * r.step), move (start + k * r.step))

/-- Reads `first-last/step+shift`, or `first+shift` for a single character. A negative shift has a
tilde in place of the plus. -/
def parse (s : String) : Run :=
  let down := s.contains '~'
  match s.splitOn (if down then "~" else "+") with
  | [place, amount] =>
    let shift : Int := if down then -(RangeSet.hex amount : Int) else RangeSet.hex amount
    match place.splitOn "-" with
    | [first, rest] =>
      match rest.splitOn "/" with
      | [last, "2"] => ⟨RangeSet.hex first, RangeSet.hex last, 2, shift⟩
      | last :: _ => ⟨RangeSet.hex first, RangeSet.hex last, 1, shift⟩
      | [] => ⟨1, 0, 1, 0⟩
    | _ => ⟨RangeSet.hex place, RangeSet.hex place, 1, shift⟩
  | _ => ⟨1, 0, 1, 0⟩

end Run

/-- A case map. -/
structure CaseMap where
  runs : List Run

namespace CaseMap

/-- Reads runs that are separated by blanks and line ends. -/
def parse (s : String) : CaseMap :=
  let words := (s.splitOn "\n").flatMap fun line => line.splitOn " "
  ⟨(words.filter fun word => !word.isEmpty).map Run.parse⟩

/-- Where the map takes a character; most stay where they are. -/
def apply (m : CaseMap) (c : Char) : Char :=
  match m.runs.find? fun r => r.moves c.toNat with
  | some r => Char.ofNat ((c.toNat : Int) + r.shift).toNat
  | none => c

/-- The characters that the map takes to `c`, `c` itself excepted. -/
def preimage (m : CaseMap) (c : Char) : List Char :=
  m.runs.filterMap fun r =>
    let n := ((c.toNat : Int) - r.shift).toNat
    if r.moves n then some (Char.ofNat n) else none

/-- Where the map takes the members of a set that it moves. -/
def image (m : CaseMap) (s : RangeSet) : List (Nat × Nat) :=
  m.runs.flatMap fun r => s.toList.flatMap fun (a, b) => r.image a b

def inverse (m : CaseMap) : CaseMap := ⟨m.runs.map Run.inverse⟩

end CaseMap

/-- Lower case, for the characters whose lower case is one character. -/
def lowerCase : CaseMap :=
  .parse "41-5A/1+20 C0-D6/1+20 D8-DE/1+20 100-12E/2+1 132-136/2+1 139-147/2+1 14A-176/2+1 178~79
          179-17D/2+1 181+D2 182-184/2+1 186+CE 187+1 189-18A/1+CD 18B+1 18E+4F 18F+CA 190+CB
          191+1 193+CD 194+CF 196+D3 197+D1 198+1 19C+D3 19D+D5 19F+D6 1A0-1A4/2+1 1A6+DA 1A7+1
          1A9+DA 1AC+1 1AE+DA 1AF+1 1B1-1B2/1+D9 1B3-1B5/2+1 1B7+DB 1B8+1 1BC+1 1C4+2 1C5+1 1C7+2
          1C8+1 1CA+2 1CB-1DB/2+1 1DE-1EE/2+1 1F1+2 1F2-1F4/2+1 1F6~61 1F7~38 1F8-21E/2+1 220~82
          222-232/2+1 23A+2A2B 23B+1 23D~A3 23E+2A28 241+1 243~C3 244+45 245+47 246-24E/2+1
          370-372/2+1 376+1 37F+74 386+26 388-38A/1+25 38C+40 38E-38F/1+3F 391-3A1/1+20
          3A3-3AB/1+20 3CF+8 3D8-3EE/2+1 3F4~3C 3F7+1 3F9~7 3FA+1 3FD-3FF/1~82 400-40F/1+50
          410-42F/1+20 460-480/2+1 48A-4BE/2+1 4C0+F 4C1-4CD/2+1 4D0-52E/2+1 531-556/1+30
          10A0-10C5/1+1C60 10C7+1C60 10CD+1C60 13A0-13EF/1+97D0 13F0-13F5/1+8 1C89+1
          1C90-1CBA/1~BC0 1CBD-1CBF/1~BC0 1E00-1E94/2+1 1E9E~1DBF 1EA0-1EFE/2+1 1F08-1F0F/1~8
          1F18-1F1D/1~8 1F28-1F2F/1~8 1F38-1F3F/1~8 1F48-1F4D/1~8 1F59-1F5F/2~8 1F68-1F6F/1~8
          1F88-1F8F/1~8 1F98-1F9F/1~8 1FA8-1FAF/1~8 1FB8-1FB9/1~8 1FBA-1FBB/1~4A 1FBC~9
          1FC8-1FCB/1~56 1FCC~9 1FD8-1FD9/1~8 1FDA-1FDB/1~64 1FE8-1FE9/1~8 1FEA-1FEB/1~70 1FEC~7
          1FF8-1FF9/1~80 1FFA-1FFB/1~7E 1FFC~9 2126~1D5D 212A~20BF 212B~2046 2132+1C
          2160-216F/1+10 2183+1 24B6-24CF/1+1A 2C00-2C2F/1+30 2C60+1 2C62~29F7 2C63~EE6 2C64~29E7
          2C67-2C6B/2+1 2C6D~2A1C 2C6E~29FD 2C6F~2A1F 2C70~2A1E 2C72+1 2C75+1 2C7E-2C7F/1~2A3F
          2C80-2CE2/2+1 2CEB-2CED/2+1 2CF2+1 A640-A66C/2+1 A680-A69A/2+1 A722-A72E/2+1
          A732-A76E/2+1 A779-A77B/2+1 A77D~8A04 A77E-A786/2+1 A78B+1 A78D~A528 A790-A792/2+1
          A796-A7A8/2+1 A7AA~A544 A7AB~A54F A7AC~A54B A7AD~A541 A7AE~A544 A7B0~A512 A7B1~A52A
          A7B2~A515 A7B3+3A0 A7B4-A7C2/2+1 A7C4~30 A7C5~A543 A7C6~8A38 A7C7-A7C9/2+1 A7CB~A567
          A7CC-A7DA/2+1 A7DC~A641 A7F5+1 FF21-FF3A/1+20 10400-10427/1+28 104B0-104D3/1+28
          10570-1057A/1+27 1057C-1058A/1+27 1058C-10592/1+27 10594-10595/1+27 10C80-10CB2/1+40
          10D50-10D65/1+20 118A0-118BF/1+20 16E40-16E5F/1+20 16EA0-16EB8/1+1B 1E900-1E921/1+22"

/-- Simple case folding: each character goes to one of those that equal it regardless of case. -/
def simpleFold : CaseMap :=
  .parse "41-5A/1+20 B5+307 C0-D6/1+20 D8-DE/1+20 100-12E/2+1 132-136/2+1 139-147/2+1 14A-176/2+1
          178~79 179-17D/2+1 17F~10C 181+D2 182-184/2+1 186+CE 187+1 189-18A/1+CD 18B+1 18E+4F
          18F+CA 190+CB 191+1 193+CD 194+CF 196+D3 197+D1 198+1 19C+D3 19D+D5 19F+D6 1A0-1A4/2+1
          1A6+DA 1A7+1 1A9+DA 1AC+1 1AE+DA 1AF+1 1B1-1B2/1+D9 1B3-1B5/2+1 1B7+DB 1B8+1 1BC+1
          1C4+2 1C5+1 1C7+2 1C8+1 1CA+2 1CB-1DB/2+1 1DE-1EE/2+1 1F1+2 1F2-1F4/2+1 1F6~61 1F7~38
          1F8-21E/2+1 220~82 222-232/2+1 23A+2A2B 23B+1 23D~A3 23E+2A28 241+1 243~C3 244+45
          245+47 246-24E/2+1 345+74 370-372/2+1 376+1 37F+74 386+26 388-38A/1+25 38C+40
          38E-38F/1+3F 391-3A1/1+20 3A3-3AB/1+20 3C2+1 3CF+8 3D0~1E 3D1~19 3D5~F 3D6~16
          3D8-3EE/2+1 3F0~36 3F1~30 3F4~3C 3F5~40 3F7+1 3F9~7 3FA+1 3FD-3FF/1~82 400-40F/1+50
          410-42F/1+20 460-480/2+1 48A-4BE/2+1 4C0+F 4C1-4CD/2+1 4D0-52E/2+1 531-556/1+30
          10A0-10C5/1+1C60 10C7+1C60 10CD+1C60 13A0-13EF/1+97D0 13F0-13F5/1+8 1C80~184E 1C81~184D
          1C82~1844 1C83-1C84/1~1842 1C85~1843 1C86~183C 1C87~1824 1C88+89C3 1C89+1
          1C90-1CBA/1~BC0 1CBD-1CBF/1~BC0 1E00-1E94/2+1 1E9B~3A 1E9E~1DBF 1EA0-1EFE/2+1
          1F08-1F0F/1~8 1F18-1F1D/1~8 1F28-1F2F/1~8 1F38-1F3F/1~8 1F48-1F4D/1~8 1F59-1F5F/2~8
          1F68-1F6F/1~8 1F88-1F8F/1~8 1F98-1F9F/1~8 1FA8-1FAF/1~8 1FB8-1FB9/1~8 1FBA-1FBB/1~4A
          1FBC~9 1FBE~1C05 1FC8-1FCB/1~56 1FCC~9 1FD3~1C43 1FD8-1FD9/1~8 1FDA-1FDB/1~64 1FE3~1C33
          1FE8-1FE9/1~8 1FEA-1FEB/1~70 1FEC~7 1FF8-1FF9/1~80 1FFA-1FFB/1~7E 1FFC~9 2126~1D5D
          212A~20BF 212B~2046 2132+1C 2160-216F/1+10 2183+1 24B6-24CF/1+1A 2C00-2C2F/1+30 2C60+1
          2C62~29F7 2C63~EE6 2C64~29E7 2C67-2C6B/2+1 2C6D~2A1C 2C6E~29FD 2C6F~2A1F 2C70~2A1E
          2C72+1 2C75+1 2C7E-2C7F/1~2A3F 2C80-2CE2/2+1 2CEB-2CED/2+1 2CF2+1 A640-A66C/2+1
          A680-A69A/2+1 A722-A72E/2+1 A732-A76E/2+1 A779-A77B/2+1 A77D~8A04 A77E-A786/2+1 A78B+1
          A78D~A528 A790-A792/2+1 A796-A7A8/2+1 A7AA~A544 A7AB~A54F A7AC~A54B A7AD~A541 A7AE~A544
          A7B0~A512 A7B1~A52A A7B2~A515 A7B3+3A0 A7B4-A7C2/2+1 A7C4~30 A7C5~A543 A7C6~8A38
          A7C7-A7C9/2+1 A7CB~A567 A7CC+1 A7D0+1 A7D6-A7DA/2+1 A7DC~A641 A7F5+1 FB06~1
          FF21-FF3A/1+20 10400-10427/1+28 104B0-104D3/1+28 10570-1057A/1+27 1057C-1058A/1+27
          1058C-10592/1+27 10594-10595/1+27 10C80-10CB2/1+40 10D50-10D65/1+20 118A0-118BF/1+20
          16E40-16E5F/1+20 1E900-1E921/1+22"

/-- The characters that equal `c` regardless of case, `c` among them. -/
def caseVariants (c : Char) : List Char :=
  let f := simpleFold.apply c
  f :: simpleFold.preimage f

/-- The characters that equal a member regardless of case. All that equal each other are folded to one
of them, so one step there and one back are enough. -/
def RangeSet.closeCase (s : RangeSet) : RangeSet :=
  let folded := s.union (.ofRanges (simpleFold.image s))
  folded.union (.ofRanges (simpleFold.inverse.image folded))

/-- The ASCII letters in place of their other case. -/
def RangeSet.closeCaseAscii (s : RangeSet) : RangeSet :=
  let move (first last : Nat) (shift : Int) := s.toList.flatMap fun (a, b) =>
    (Run.mk first last 1 shift).image a b
  .ofRanges (s.toList ++ move 0x41 0x5a 32 ++ move 0x61 0x7a (-32))

end Unicode

end Switchboard
