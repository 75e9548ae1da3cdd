import RecordAudit.Unicode.CodeSet

/-!
# Characters that differ in case only

Simple case folding sends a character to the one that stands for all its cases.  The
table gives it as runs: first and last code point, the step between two members of the
run, and what is added to each.  `caseClosure` adds to a set every character that folds to
the same as one of its members.
-/

namespace RecordAudit.Unicode

/-- A run of code points that fold by the same distance. -/
structure FoldRun where
  first : Nat
  last : Nat
  step : Nat
  distance : Int

/-- Reads one run: two hexadecimal code points, the step, and the distance. -/
def FoldRun.ofWords : List (List Char) → FoldRun
  | [first, last, step, distance] =>
    { first := CodeSet.hexNumber first
      last := CodeSet.hexNumber last
      step := CodeSet.hexNumber step
      distance := (String.ofList distance).toInt?.getD 0 }
  | _ => ⟨1, 0, 1, 0⟩

/-- The members of a run, each with what it folds to. -/
def FoldRun.pairs (run : FoldRun) : List (Nat × Nat) :=
  (List.range ((run.last + run.step - run.first) / run.step)).map fun i =>
    (run.first + i * run.step, ((run.first + i * run.step : Nat) + run.distance).toNat)

/-- The runs of simple case folding. -/
def foldTable : List String := [
  "41 5A 1 32",
  "B5 B5 1 775",
  "C0 D6 1 32",
  "D8 DE 1 32",
  "100 12E 2 1",
  "132 136 2 1",
  "139 147 2 1",
  "14A 176 2 1",
  "178 178 1 -121",
  "179 17D 2 1",
  "17F 17F 1 -268",
  "181 181 1 210",
  "182 184 2 1",
  "186 186 1 206",
  "187 187 1 1",
  "189 18A 1 205",
  "18B 18B 1 1",
  "18E 18E 1 79",
  "18F 18F 1 202",
  "190 190 1 203",
  "191 191 1 1",
  "193 193 1 205",
  "194 194 1 207",
  "196 196 1 211",
  "197 197 1 209",
  "198 198 1 1",
  "19C 19C 1 211",
  "19D 19D 1 213",
  "19F 19F 1 214",
  "1A0 1A4 2 1",
  "1A6 1A6 1 218",
  "1A7 1A7 1 1",
  "1A9 1A9 1 218",
  "1AC 1AC 1 1",
  "1AE 1AE 1 218",
  "1AF 1AF 1 1",
  "1B1 1B2 1 217",
  "1B3 1B5 2 1",
  "1B7 1B7 1 219",
  "1B8 1B8 1 1",
  "1BC 1BC 1 1",
  "1C4 1C4 1 2",
  "1C5 1C5 1 1",
  "1C7 1C7 1 2",
  "1C8 1C8 1 1",
  "1CA 1CA 1 2",
  "1CB 1DB 2 1",
  "1DE 1EE 2 1",
  "1F1 1F1 1 2",
  "1F2 1F4 2 1",
  "1F6 1F6 1 -97",
  "1F7 1F7 1 -56",
  "1F8 21E 2 1",
  "220 220 1 -130",
  "222 232 2 1",
  "23A 23A 1 10795",
  "23B 23B 1 1",
  "23D 23D 1 -163",
  "23E 23E 1 10792",
  "241 241 1 1",
  "243 243 1 -195",
  "244 244 1 69",
  "245 245 1 71",
  "246 24E 2 1",
  "345 345 1 116",
  "370 372 2 1",
  "376 376 1 1",
  "37F 37F 1 116",
  "386 386 1 38",
  "388 38A 1 37",
  "38C 38C 1 64",
  "38E 38F 1 63",
  "391 3A1 1 32",
  "3A3 3AB 1 32",
  "3C2 3C2 1 1",
  "3CF 3CF 1 8",
  "3D0 3D0 1 -30",
  "3D1 3D1 1 -25",
  "3D5 3D5 1 -15",
  "3D6 3D6 1 -22",
  "3D8 3EE 2 1",
  "3F0 3F0 1 -54",
  "3F1 3F1 1 -48",
  "3F4 3F4 1 -60",
  "3F5 3F5 1 -64",
  "3F7 3F7 1 1",
  "3F9 3F9 1 -7",
  "3FA 3FA 1 1",
  "3FD 3FF 1 -130",
  "400 40F 1 80",
  "410 42F 1 32",
  "460 480 2 1",
  "48A 4BE 2 1",
  "4C0 4C0 1 15",
  "4C1 4CD 2 1",
  "4D0 52E 2 1",
  "531 556 1 48",
  "10A0 10C5 1 7264",
  "10C7 10C7 1 7264",
  "10CD 10CD 1 7264",
  "13F8 13FD 1 -8",
  "1C80 1C80 1 -6222",
  "1C81 1C81 1 -6221",
  "1C82 1C82 1 -6212",
  "1C83 1C84 1 -6210",
  "1C85 1C85 1 -6211",
  "1C86 1C86 1 -6204",
  "1C87 1C87 1 -6180",
  "1C88 1C88 1 35267",
  "1C89 1C89 1 1",
  "1C90 1CBA 1 -3008",
  "1CBD 1CBF 1 -3008",
  "1E00 1E94 2 1",
  "1E9B 1E9B 1 -58",
  "1E9E 1E9E 1 -7615",
  "1EA0 1EFE 2 1",
  "1F08 1F0F 1 -8",
  "1F18 1F1D 1 -8",
  "1F28 1F2F 1 -8",
  "1F38 1F3F 1 -8",
  "1F48 1F4D 1 -8",
  "1F59 1F5F 2 -8",
  "1F68 1F6F 1 -8",
  "1F88 1F8F 1 -8",
  "1F98 1F9F 1 -8",
  "1FA8 1FAF 1 -8",
  "1FB8 1FB9 1 -8",
  "1FBA 1FBB 1 -74",
  "1FBC 1FBC 1 -9",
  "1FBE 1FBE 1 -7173",
  "1FC8 1FCB 1 -86",
  "1FCC 1FCC 1 -9",
  "1FD3 1FD3 1 -7235",
  "1FD8 1FD9 1 -8",
  "1FDA 1FDB 1 -100",
  "1FE3 1FE3 1 -7219",
  "1FE8 1FE9 1 -8",
  "1FEA 1FEB 1 -112",
  "1FEC 1FEC 1 -7",
  "1FF8 1FF9 1 -128",
  "1FFA 1FFB 1 -126",
  "1FFC 1FFC 1 -9",
  "2126 2126 1 -7517",
  "212A 212A 1 -8383",
  "212B 212B 1 -8262",
  "2132 2132 1 28",
  "2160 216F 1 16",
  "2183 2183 1 1",
  "24B6 24CF 1 26",
  "2C00 2C2F 1 48",
  "2C60 2C60 1 1",
  "2C62 2C62 1 -10743",
  "2C63 2C63 1 -3814",
  "2C64 2C64 1 -10727",
  "2C67 2C6B 2 1",
  "2C6D 2C6D 1 -10780",
  "2C6E 2C6E 1 -10749",
  "2C6F 2C6F 1 -10783",
  "2C70 2C70 1 -10782",
  "2C72 2C72 1 1",
  "2C75 2C75 1 1",
  "2C7E 2C7F 1 -10815",
  "2C80 2CE2 2 1",
  "2CEB 2CED 2 1",
  "2CF2 2CF2 1 1",
  "A640 A66C 2 1",
  "A680 A69A 2 1",
  "A722 A72E 2 1",
  "A732 A76E 2 1",
  "A779 A77B 2 1",
  "A77D A77D 1 -35332",
  "A77E A786 2 1",
  "A78B A78B 1 1",
  "A78D A78D 1 -42280",
  "A790 A792 2 1",
  "A796 A7A8 2 1",
  "A7AA A7AA 1 -42308",
  "A7AB A7AB 1 -42319",
  "A7AC A7AC 1 -42315",
  "A7AD A7AD 1 -42305",
  "A7AE A7AE 1 -42308",
  "A7B0 A7B0 1 -42258",
  "A7B1 A7B1 1 -42282",
  "A7B2 A7B2 1 -42261",
  "A7B3 A7B3 1 928",
  "A7B4 A7C2 2 1",
  "A7C4 A7C4 1 -48",
  "A7C5 A7C5 1 -42307",
  "A7C6 A7C6 1 -35384",
  "A7C7 A7C9 2 1",
  "A7CB A7CB 1 -42343",
  "A7CC A7CC 1 1",
  "A7D0 A7D0 1 1",
  "A7D6 A7DA 2 1",
  "A7DC A7DC 1 -42561",
  "A7F5 A7F5 1 1",
  "AB70 ABBF 1 -38864",
  "FB05 FB05 1 1",
  "FF21 FF3A 1 32",
  "10400 10427 1 40",
  "104B0 104D3 1 40",
  "10570 1057A 1 39",
  "1057C 1058A 1 39",
  "1058C 10592 1 39",
  "10594 10595 1 39",
  "10C80 10CB2 1 64",
  "10D50 10D65 1 32",
  "118A0 118BF 1 32",
  "16E40 16E5F 1 32",
  "1E900 1E921 1 34"]

/-- Every code point that folds to another one, with that one. -/
def foldPairs : List (Nat × Nat) :=
  foldTable.flatMap fun line => (FoldRun.ofWords (CodeSet.words line.toList)).pairs

/-- Adds to a set the characters that differ from a member in case only. -/
def caseClosure (set : CodeSet) : CodeSet :=
  let targets := (foldPairs.filter fun (c, _) => set.mem c).map fun (_, t) => (t, t)
  let folded := CodeSet.ofRanges (set.ranges ++ targets)
  let sources := (foldPairs.filter fun (_, t) => folded.mem t).map fun (c, _) => (c, c)
  CodeSet.ofRanges (folded.ranges ++ sources)

end RecordAudit.Unicode
