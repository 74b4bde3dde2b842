import RecordSieve.Unicode.CodePointSet

/-!
# Case Folding

Which characters are the same letter in another case, after the simple case folding of version
16 of the character database.
-/

namespace RecordSieve.Unicode

/-- The pairs of characters that differ in case only, as runs of four numbers: the first
member of the first pair, the distance to the second member, the distance to the next pair and
the number of pairs. -/
def casePairTable : String := String.join [
    "65 32 1 10 76 32 2 8 77 32 2 3 85 32 2 3 192 32 2 16 193 32 2 2 199 32 2 8 217 32 2 3 ",
    "223 7615 1 1 255 121 1 1 256 1 2 24 306 1 2 3 313 1 2 8 330 1 2 23 377 1 2 3 384 195 1 1 ",
    "385 210 1 1 386 1 2 2 390 206 1 1 391 1 1 1 393 205 1 2 395 1 1 1 398 79 1 1 399 202 1 1 ",
    "400 203 1 1 401 1 1 1 403 205 1 1 404 207 1 1 405 97 1 1 406 211 1 1 407 209 1 1 408 1 1 1 ",
    "410 163 1 1 411 42561 1 1 412 211 1 1 413 213 1 1 414 130 1 1 415 214 1 1 416 1 2 3 ",
    "422 218 1 1 423 1 1 1 425 218 1 1 428 1 1 1 430 218 1 1 431 1 1 1 433 217 1 2 435 1 2 2 ",
    "439 219 1 1 440 1 1 1 444 1 1 1 447 56 1 1 461 1 2 8 478 1 2 9 500 1 1 1 504 1 2 20 ",
    "546 1 2 9 570 10795 1 1 571 1 1 1 574 10792 1 1 575 10815 1 2 577 1 1 1 580 69 1 1 ",
    "581 71 1 1 582 1 2 5 592 10783 1 1 593 10780 1 1 594 10782 1 1 604 42319 1 1 609 42315 1 1 ",
    "612 42343 1 1 613 42280 1 1 614 42308 1 1 618 42308 1 1 619 10743 1 1 620 42305 1 1 ",
    "625 10749 1 1 637 10727 1 1 642 42307 1 1 647 42282 1 1 669 42261 1 1 670 42258 1 1 ",
    "880 1 2 2 886 1 1 1 891 130 1 3 895 116 1 1 902 38 1 1 904 37 1 3 908 64 1 1 910 63 1 2 ",
    "912 7235 1 1 913 32 2 2 916 32 2 2 919 32 1 1 923 32 2 3 926 32 1 1 932 32 1 2 935 32 1 2 ",
    "938 32 1 2 944 7219 1 1 975 8 1 1 984 1 2 12 1010 7 1 1 1015 1 1 1 1018 1 1 1 1024 80 1 16 ",
    "1040 32 1 2 1043 32 2 7 1046 32 2 4 1056 32 1 1 1059 32 1 7 1067 32 1 5 1120 1 1 1 ",
    "1124 1 2 15 1162 1 2 27 1216 15 1 1 1217 1 2 7 1232 1 2 48 1329 48 1 38 4256 7264 1 38 ",
    "4295 7264 1 1 4301 7264 1 1 4304 3008 1 43 4349 3008 1 3 5024 38864 1 80 5104 8 1 6 ",
    "7305 1 1 1 7545 35332 1 1 7549 3814 1 1 7566 35384 1 1 7680 1 2 48 7778 1 2 26 7840 1 2 48 ",
    "7936 8 1 8 7952 8 1 6 7968 8 1 8 7984 8 1 8 8000 8 1 6 8017 8 2 4 8032 8 1 8 8048 74 1 2 ",
    "8050 86 1 4 8054 100 1 2 8056 128 1 2 8058 112 1 2 8060 126 1 2 8064 8 1 8 8080 8 1 8 ",
    "8096 8 1 8 8112 8 1 2 8115 9 1 1 8131 9 1 1 8144 8 1 2 8160 8 1 2 8165 7 1 1 8179 9 1 1 ",
    "8498 28 1 1 8544 16 1 16 8579 1 1 1 9398 26 1 26 11264 48 1 48 11360 1 1 1 11367 1 2 3 ",
    "11378 1 1 1 11381 1 1 1 11392 1 2 50 11499 1 2 2 11506 1 1 1 42560 1 2 5 42572 1 2 17 ",
    "42624 1 2 14 42786 1 2 7 42802 1 2 31 42873 1 2 2 42878 1 2 5 42891 1 1 1 42896 1 2 2 ",
    "42900 48 1 1 42902 1 2 10 42931 928 1 1 42932 1 2 8 42951 1 2 2 42956 1 1 1 42960 1 1 1 ",
    "42966 1 2 3 42997 1 1 1 64261 1 1 1 65313 32 1 26 66560 40 1 40 66736 40 1 36 66928 39 2 19 ",
    "66929 39 2 5 66941 39 2 7 66957 39 2 3 66965 39 1 1 68736 64 1 51 68944 32 1 22 ",
    "71840 32 1 32 93760 32 1 32 125184 34 1 34"]

/-- The characters of each pair of a run. -/
def casePairs : List Nat → List (List Nat)
  | first :: distance :: stride :: count :: rest =>
      ((List.range count).map fun k =>
        [first + k * stride, first + distance + k * stride]) ++ casePairs rest
  | _ => []

/-- The letters with more than two forms. -/
def caseFamilies : List (List Nat) := [
    [0x4b, 0x6b, 0x212a],
    [0x53, 0x73, 0x17f],
    [0xb5, 0x39c, 0x3bc],
    [0xc5, 0xe5, 0x212b],
    [0x1c4, 0x1c5, 0x1c6],
    [0x1c7, 0x1c8, 0x1c9],
    [0x1ca, 0x1cb, 0x1cc],
    [0x1f1, 0x1f2, 0x1f3],
    [0x345, 0x399, 0x3b9, 0x1fbe],
    [0x392, 0x3b2, 0x3d0],
    [0x395, 0x3b5, 0x3f5],
    [0x398, 0x3b8, 0x3d1, 0x3f4],
    [0x39a, 0x3ba, 0x3f0],
    [0x3a0, 0x3c0, 0x3d6],
    [0x3a1, 0x3c1, 0x3f1],
    [0x3a3, 0x3c2, 0x3c3],
    [0x3a6, 0x3c6, 0x3d5],
    [0x3a9, 0x3c9, 0x2126],
    [0x412, 0x432, 0x1c80],
    [0x414, 0x434, 0x1c81],
    [0x41e, 0x43e, 0x1c82],
    [0x421, 0x441, 0x1c83],
    [0x422, 0x442, 0x1c84, 0x1c85],
    [0x42a, 0x44a, 0x1c86],
    [0x462, 0x463, 0x1c87],
    [0x1c88, 0xa64a, 0xa64b],
    [0x1e60, 0x1e61, 0x1e9b]]

/-- The code points that stand for one letter, for every letter with two or more forms. -/
def caseOrbits : List (List Nat) := casePairs (numbers casePairTable) ++ caseFamilies

end RecordSieve.Unicode

namespace RecordSieve.CodePointSet

/-- The set with all the forms of its letters. -/
def foldCase (s : CodePointSet) : CodePointSet :=
  let touched := Unicode.caseOrbits.filter fun orbit =>
    orbit.any fun n => s.ranges.any fun range => range.1 ≤ n && n ≤ range.2
  .ofRanges (s.ranges ++ touched.flatten.map fun n => (n, n))

/-- The set with the two forms of its ASCII letters. -/
def foldAsciiCase (s : CodePointSet) : CodePointSet :=
  let shift (low high offset : Int) (range : Nat × Nat) : Nat × Nat :=
    ((max (range.1 : Int) low + offset).toNat, (min (range.2 : Int) high + offset).toNat)
  let upper := s.ranges.filter fun range => range.1 ≤ 0x7a && 0x61 ≤ range.2
  let lower := s.ranges.filter fun range => range.1 ≤ 0x5a && 0x41 ≤ range.2
  .ofRanges (s.ranges ++ upper.map (shift 0x61 0x7a (-0x20)) ++ lower.map (shift 0x41 0x5a 0x20))

end RecordSieve.CodePointSet
