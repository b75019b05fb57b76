import LineShell.Unicode.CharSet

/-!
The classes of characters that decide where a word of running text ends.
-/

namespace LineShell.Unicode

/-- The classes with a name; all other characters are in none. -/
def wordBreaks : List Entry := [
  ⟨"aletter", ["le"],
    "41+19 6+19 2f a 4 5+16 1+1e 1+1df 6+21 70+4 1+1 2+3 1 6 1+2 1 1+13 1+52 1+8a 8+a5 1+25 2+3 1
    1+28 1 68 2c+2a 23+1 1+62 1 f+1 7+1 a+2 2 10 1+1d 1d+58 b 18+20 9+1 4 5+15 4 9 3 17+18 7+a
    5+17 1+5 11+29 3a+35 3 12 7+9 f+f 4+7 2+1 2+15 1+6 1 3+3 3 10 d+1 1+2 e+1 a 8+5 4+1 2+15 1+6
    1+1 1+1 1+1 1f+3 1 13+2 10+8 1+2 1+15 1+6 1+1 1+4 3 12 f+1 17 b+7 2+1 2+15 1+6 1+1 1+4 3 1e+1
    1+2 f 11 1+5 3+2 1+3 3+1 1 1+1 3+1 3+2 3+b 16 34+7 1+2 1+16 1+f 3 1a+2 2 2+1 1e 4+7 1+2 1+16
    1+9 1+4 3 1f+1 1+1 f+1 11+8 1+2 1+28 2 10 5+2 8+2 18+5 5+11 3+17 1+8 1 2+6 139 3f+7 1+23 1b+4
    113+25 1 5 2+2a 1+14c 1+3 2+6 1 1+3 2+28 1+3 2+20 1+3 2+6 1 1+3 2+e 1+38 1+3 2+42 25+f 10+55
    2+5 3+26b 2+10 1+19 5+4a 3+a 7+11 d+12 e+11 e+c 1+2 af+58 7+4 2+21 1 5+45 a+1e e1+16 ee+2e
    11+7 36+1d d+1 a+2b 1a+23 29+2 a+23 2+8 7+2a 2+2 29+3 1+5 1+1 3 5+bf 40+115 2+5 2+25 2+5 2+7
    1 1 1 1+1e 2+34 1+6 1 3+2 1+6 3+3 2+5 4+c 5+2 1+6 74 d 10+c 65 4 2+9 1 3+4 6 1 1 1+3 1+a 2+3
    5+4 4 11+28 32d+33 716+e4 6+3 3+1 c+25 1 5 2+37 7 10+16 9+6 1+6 1+6 1+6 1+6 1+6 1+6 1+6 50
    1d5 35+1 c8+2a 1+5d 11+1f 6e40+48c 43+2d 2+10c 3+f a+1 14+2e 10+1e 2+4f 18+c2 5+1 1 1+4 18+f
    1+2 1+3 1+16 1d+33 e+31 3e+5 3 1+1 b+1b a+16 19+1c 7+2e 1c 30+28 17+2 1+7 94+a 7+2 c+5 2+5
    2+5 9+6 1+6 1+39 6+72 1d+2ba3 c+16 4+30 2304+6 c+4 38+61 21+16a 12+3f 2+35 28+b 74+4 1+86
    24+19 6+19 45+1e 3+5 2+5 2+5 2+2 23+b 1+19 1+12 1+1 1+e 2+d 22+7a 45+34 10b+1c 3+30 2f+1f
    d+1d 5+25 a+1d 2+23 4+7 1+4 2a+9d 12+23 4+23 4+27 8+33 c+a 1+e 1+6 1+1 1+a 1+e 1+6 1+1 43+136
    9+15 a+7 18+5 1+29 1+8 45+5 2 1+2b 1+1 3 2+16 a+16 9+1e 41+12 1+1 a+15 a+19 46+37 6+1 40 f+3
    1+2 1+1c 2a+1c 3+1c 23+7 1+1b 1b+35 a+15 a+12 d+11 6e+48 37+32 d+32 d+23 15c+29 6+1 4e+1c a
    8+15 2a+11 2e+14 1b+16 c+34 39+1 2 d+2c 20+18 1a+23 1d 2 8+22 3 c+2f e+3 15 1 23+11 1+18 13+1
    3f+6 1 1+3 1+e 1+9 7+2e 26+7 2+1 2+15 1+6 1+1 1+4 3 12 c+4 9e+34 12+3 14+2 1e+2f 14+1 1 b8+2e
    29+3 24+2f 14 3b+2a d 147+2b 74+3f 1f+7 2 2+7 1+1 1+17 f 1 5e+7 2+26 10 1 1c a+27 7 15 b+2d
    13 12+48 107+8 1+24 11 31+1d 70+6 1+1 1+25 15 19+5 1+1 1+1f e 147+12 f 1+c 1+21 7c 4f+399
    66+6e 11+c3 a4c+60 f+42f 11+5 fb9+246 21b9+238 7+1e 11+4e 11+1d 12+2f 10+3 1f+14 5+12 2b0+3f
    80+4a 5 42+c 40+1 1 4c1c+6a 5+c 3+8 7+9 1766+54 1+46 1+1 2 2+1 2+3 1+b 1 1+6 1+40 1+3 2+7 1+6
    1+1b 1+3 1+4 1 3+6 1+153 2+18 1+18 1+1e 1+18 1+1e 1+18 1+1e 1+18 1+1e 1+18 1+7 734+1e 6+5
    105+3d 92+2c a+6 10 141+1d 12+2b 1e4+1b 2f4+6 1+3 1+1 1+e 1+c4 3b+43 7 4b4+3 1+1a 1+1 1 2 1+9
    1+3 1 1 6 4 1 1 1+2 1+1 1 2 1 1 1 1 1+1 1 2+3 1+6 1+3 1+3 1 1+9 1+10 5+2 1+4 1+10 274+19 6+19
    6+19"⟩,
  ⟨"cr", [],
    "d"⟩,
  ⟨"doublequote", ["dq"],
    "22"⟩,
  ⟨"extend", [],
    "300+6f 113+6 107+2c 1 1+1 1+1 1 48+a 30+14 10 65+6 2+5 2+1 1+3 23 1e+1a 5b+a 3a+8 9 18+3 1+8
    1+2 1+4 2b+2 3c+7 2a+17 1+20 36+2 1+11 1+6 a+1 1d+2 38 1+6 2+1 2+2 9 a+1 1a 2+2 38 1+4 4+1
    2+2 3 1e+1 3 b+2 38 1+7 1+2 1+2 14+1 16+5 1+2 38 1+6 2+1 2+2 7+2 a+1 1e 3b+4 3+2 1+3 9 28+4
    37 1+6 1+2 1+3 7+1 b+1 1d+2 38 1+6 1+2 1+3 7+1 b+1 f c+3 37+1 1+6 1+2 1+3 9 a+1 1d+2 46 4+5 1
    1+7 12+1 3d 2+6 c+7 62 2+8 b+6 49+1 1b 1 1 4+1 31+13 1+1 5+a 1+23 9 64+13 17+3 4+2 1+2 2+6
    3+3 d+b 1 a+3 2bf+2 3b2+3 1c+2 1d+1 1e+1 40+1f 9 2d+2 1 75+1 22 76+b 4+b db+4 39+9 1+1c 2
    30+1e 31+4 2f+10 26+8 c+2 1e+c 38+d 30+13 98+2 1+14 4 6 2+2 c6+3f 20c c3+20 bfe+2 8d 60+1f
    22a+5 69+1 75d4+3 1+9 20+1 50+1 110 3 4 17+4 4 53+1 32+11 1a+11 d 26+7 19+c 2c+3 2f+d 24 43+d
    c 8+1 2d+2 32 1+2 2+1 5+1 1 29+4 5+1 ec+7 1+1 4f30 2e1+f 10+f 16e+1 25d e2 95+4 686+2 1+1 5+3
    28+2 4 a5+1 23d+3 183+1 50+2 46+a 31+3 7a+2 35+e 29 2+1 a+3 2d+a 7 3d+2 24+d 10+1 2c c+2 30+d
    8+3 1+1 5c+b 6 2 9d+b 15+3 37+1 1+6 2+1 2+2 9 a+1 2+6 3+4 c0+11 17 51+13 eb+6 2+8 1b+1 52+10
    6a+c 65+e 100+e f5+5 1+1 2+3 1 1+1 8d+6 2+6 3 1c+9 28+6 1+3 8 9+a 2e+f 195+7 1+7 52+15 1+d
    7a+5 3 1+1 1+6 1 42+4 1+1 1+4 15b+3 9+1 1 30+6 3+4 14fd 6+e 369a+4 3b+6 418 1+36 7+3 51 b+1
    4cab+1 1261+2d 2+16 21e+4 3+5 8+7 2+6 1e+3 94+2 7bb+36 4+31 8 e 16+4 1+e 550+6 1+10 2+6 1+1
    1+4 64 a0+6 177 3d+3 1fc+3 3e0+6 6d+6 ab0+4 c0c20+5f 80+ef"⟩,
  ⟨"extendnumlet", ["ex"],
    "5f 1fcf f+1 13 ddde+1 18+2 ef"⟩,
  ⟨"format", ["fo"],
    "ad 552+5 16 c0 31 180+1 50 f2b 7ff+1 1a+4 31+4 1+9 de8f f9+2 10c1 f 2362+f 8860+3 14cf+7
    c2e86"⟩,
  ⟨"hebrewletter", ["hl"],
    "5d0+1a 4+3 f52a 1+9 1+c 1+4 1 1+1 1+1 1+9"⟩,
  ⟨"katakana", ["ka"],
    "3031+4 65+1 3+5a 1+3 f0+f d0+2e 1+57 cc0e+37 b052+3 1+6 1+1 1 11f+2 32 e+3"⟩,
  ⟨"lf", [],
    "a"⟩,
  ⟨"midletter", ["ml"],
    "3a 7c 2cf 1d7 94 1a32 ddeb 41 c4"⟩,
  ⟨"midnum", ["mn"],
    "2c e 342 20a 82+1 5e 18b 184b ddcb 3 3b 3 b7 e"⟩,
  ⟨"midnumlet", ["mb"],
    "2e 1fe9+1 a de2d b4 6"⟩,
  ⟨"newline", ["nl"],
    "b+1 78 1fa2+1"⟩,
  ⟨"numeric", ["nu"],
    "30+9 626+9 1 84+9 c6+9 19c+9 76+9 76+9 76+9 76+9 76+9 76+9 76+9 76+9 76+9 60+9 76+9 46+9
    116+9 46+9 746+9 26+9 12c+9 80+9 a6+9 6+9 b6+9 56+9 86+9 6+9 89c6+9 2a6+9 26+9 c6+9 16+9 56+9
    196+9 5316+9 586+9 886+9 32c+9 80+9 3c+9 90+9 116+9 156+9 76+9 176+9 66+9 66+9 1a6+9 66+9
    2f6+9 f6+9 46+9 1a6+9 4b06+9 56+9 86+9 6c74+31 940+9 1a6+9 1f6+9 456+9 1296+9"⟩,
  ⟨"regionalindicator", ["ri"],
    "1f1e6+19"⟩,
  ⟨"singlequote", ["sq"],
    "27"⟩,
  ⟨"wsegspace", [],
    "20 165f 97f+6 1+2 54 fa0"⟩,
  ⟨"zwj", [],
    "200d"⟩]

end LineShell.Unicode
