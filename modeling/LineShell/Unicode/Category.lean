import LineShell.Text.Basic
import LineShell.Unicode.CharSet

/-!
The general category of every code point. The code points fall into runs of one category; the
table holds for each run its length, in hexadecimal and omitted if it is one, and the letter of its
category. Blanks between runs mean nothing.
-/

namespace LineShell.Unicode

inductive Category where
  | lu | ll | lt | lm | lo | mn | mc | me | nd | nl | no | pc | pd | ps | pe | pi | pf | po
  | sm | sc | sk | so | zs | zl | zp | cc | cf | cs | co | cn
  deriving DecidableEq, Repr

def Category.letters : List (Char × Category) := [
  ('g', .lu), ('h', .ll), ('i', .lt), ('j', .lm), ('k', .lo), ('l', .mn), ('m', .mc), ('n', .me),
  ('o', .nd), ('p', .nl), ('q', .no), ('r', .pc), ('s', .pd), ('t', .ps), ('u', .pe), ('v', .pi),
  ('w', .pf), ('x', .po), ('y', .sm), ('z', .sc), ('G', .sk), ('H', .so), ('I', .zs), ('J', .zl),
  ('K', .zp), ('L', .cc), ('M', .cf), ('N', .cs), ('O', .co), ('P', .cn)]

/-- The runs, in order of code points. -/
def categoryRuns : String :=
  "20LI3xz3xtuxyxs2xao2x3y2x1agtxuGrG1ahtyuy21LIx4zHxGHkvyMHGHy2qGh2xGqkw3qx17gy7g18hy8hghghghghg
  hghghghghghghghghghghghghghghghghghghghghghghg2hghghghghghghghg2hghghghghghghghghghghghghghghgh
  ghghghghghghghgh2ghghg3h2ghgh2gh3g2h4gh2gh3g3h2gh2ghghgh2ghg2hgh2gh3ghgh2g2hkg3h4kgihgihgihghgh
  ghghghghghg2hghghghghghghghghg2hgihgh3ghghghghghghghghghghghghghghghghghghghghghghghghghghghghg
  hg7h2gh2g2hgh4ghghghghg45h2k1ah12j4GcjeG5j7GjGj11G70lghghjGgh2Pj3hxg4P2Ggx3gPgP2gh11gP9g23hg2h
  3g3hghghghghghghghghghghghg5hghygh2g2h33g30hghghghghghghghghghghghghghghghghghH5l2nghghghghghgh
  ghghghghghghghghghghghghghghghghghghghghgh2ghghghghghghg2hghghghghghghghghghghghghghghghghghghg
  hghghghghghghghghghghghghghghghghghghghghghghghghghghghghghP26g2Pj6x29hxs2P2HzP2dlslx2lx2lxl8P
  1bk4P4k2xbP6M3y2xz2x2HblxM3x20kjak15lao4x2kl63kxk7lMH6l2j2lH4l2kao3k2HkexPMkl1ek1bl2P59kblkePao
  21k9l2jH3xj2Pl2z16k4lj9lj3lj5l2PfxP19k3l2PxPbk5P18kG7k2M5P9l29kj18lM20lm36klmlk3m8l4ml2mk7lak2l
  2xaoxjfkl2mP8k2P2k2P16kP7kPk3P4k2Plk3m4l2P2m2P2mlk8Pm4P2kP3k2l2Pao2k2z6qHzkxl2P2lmP6k4P2k2P16kP
  7kP2kP2kP2k2PlP3m2l4P2l2P3l3Pl7P4kPk7Pao2l3klxaP2lmP9kP3kP16kP7kP2kP5k2Plk3m5lP2lmP2ml2PkfP2k2l
  2Paoxz7Pk6lPl2mP8k2P2k2P16kP7kP2kP5k2Plkmlm4l2P2m2P2ml7P2lm4P2kP3k2l2PaoHk6qaPlkP6k3P3kP4k3P2kP
  kP2k3P2k3P3k3Pck4P2ml2m3P3mP3ml2Pk6PmePao3q6HzH5Pl3ml8kP3kP17kP10k2Plk3l4mP3lP4l7P2lP3kP2k2P2k
  2l2Pao7Px7qHkl2mx8kP3kP17kPakP5k2Plkml5mPl2mP2m2l7P2m5P3kP2k2l2PaoP2kmcP2l2m9kP3kP29k2lk3m4lP3m
  P3mlkH4P3km7q3k2l2Pao9qH6kPl2mP12k3P18kP9kPk2P7k3Pl4P3m3lPlP8m6Pao2P2mxcP30kl2k7l4Pz6kj8lxao2x
  25P2kPkP5kP18kPkPakl2k9lk2P5kPjP7lPao2P4k20Pk3HfxHx3H2l6HaoaqHlHlHltutu2m8kP24k4Pelm5lx2l5kblP
  24lP8Hl6HP2H5x4H2x25P2bk2m4lm6lm2l2m2lkao6x6k2m2l4k3lk3m2k7m3k4ldkl2m2l6mlkmao3ml2H26gPg5Pg2P
  2bhxj3h149kP4k2P7kPkP4k2P29kP4k2P21kP4k2P7kPkP4k2PfkP39kP4k2P43k2P3l9x14q3P10kaH6P56g2P6h2Ps
  26ckHx11kI1aktu3P4bk3x3p8k7P12k3lm9P13k2lm2x9P12k2lcPdkP3kP2lcP34k2lm7l8ml2mbl3xj3xzkl2Pao6Paq
  6P6xs4x3lMlao6P23kj35k7P5k2l22klk5P46kaP1fkP3l4m2l3m4P2ml6m3l4PH3P2xao1ek2P5kbP2ck4P1ak6Paoq3P
  22H17k2l2ml2P2x35kmlm7lPlml2m8l6mal2Plao6Pao6P7xj6x2Peln1fl2Pcl14P4lm2fklm5lml5ml2m8kP2xao7xaH
  9l9H3x2lm1ekm4l2m2lm3l2kao2cklm2l3mlm3l2m8P4x24k8m8l2m2l3P5xao3P3kao1ek6j2x9hgh5P2bg2P3g8x8P3lx
  dlm7l4kl6kl2km2lk5P2ch3fjdhj22h25j40lghghghghghghghghghghghghghghghghghghghghghghghghghghghghgh
  ghghghghghghghghghghghghghghghghghghghghghghghghghghghghghghghghghghghghghghghghghghghghghg9hgh
  ghghghghghghghghghghghghghghghghghghghghghghghghghghghghghghghghghghghghghghghghghghghghghghghg
  9h8g6h2P6g2P8h8g8h8g6h2P6g2P8hPgPgPgPg8h8geh2P8h8i8h8i8h8i5hP2h4giGh3G3hP2h4gi3G4h2P2h4gP3G8h5g
  3G2P3hP2h4gi2GPbI5M6s2xvwt2vwtv8xJK5MI9xvw4x2r3xytubxyxraxI5MPaMqj2P6q3ytujaq3ytuPdj3P22zePdl4n
  l3nclfP2Hg4Hg2Hh3g2h3ghHg2Hy5g6HgHgHgH4gHh4gh4kh2H2h2g5yg4hHy2HhH10q23pgh4pq2H4P5y5H2y4Hy2Hy2Hy
  7Hy1fH2y2HyHy1fH10cy8Htutu14H2y7Htu51Hy1eH19y28H6y48H16PbH15P3cq4eH16qb7Hy9Hy36H8y6fHyf8Htututu
  tutututu1eq2cH5ytu1fytututututu10y100H83ytututututututututututu3fytutu20ytu102y30H15y2H6y27H2P
  8aH30g30hgh3g2hghghgh4ghg2hg6h2j3ghghghghghghghghghghghghghghghghghghghghghghghghghghghghghghgh
  ghghghghghghghghghghghghghghghghghghg2h6Hghgh3lgh5P4xq2x26hPh5Ph2P38k7PjxePl17k9P7kP7kP7kP7kP7k
  P7kP7kP7kP20l2xvwvw3xvwxvw9xs2xsxvw2xvwtutututu5xjax2s4xsxtdx2H3xtutututus22P1aHP59HcPd6H1aP10H
  I3xHjkptututututu2Htutututust2uH9p4l2ms5j2H3pjkx2HP56k2P2l2G2jks5akx3jk5P2bkP5ekP2H4qaH20k26H9P
  H10k1fHPaq1eH8qHfq20Haq27Hfq140H19c0k40H5215kj477k3P37H9P28k6j2x10ckj3x10kao2k14Pghghghghghghgh
  ghghghghghghghghghghghghghghghghkl3nxalxjghghghghghghghghghghghghghgh2j2l46kap2l6x8P17G9j2Gghgh
  ghghghghg3hghghghghghghghghghghghghghghghghghghghghghghghghghghghghghghghj8hghgh2ghghghghghj2Gg
  hghkghg3hghghghghghghghghghgh5gh5ghghghghghghghgh4ghgh2ghghghghghghghghg14P4jghk2jh7kl3kl4kl17k
  2m2lm4Hl3P6q2HzH6P34k4x8P2m32k10m2l8P2xao6P12l6k3xkx2klao1ck8l2x17kbl2mbPx1dk3P3lm2fkl2m4l2m2l
  3mdxPjao4P2x5klj9kao5kP29k6l2m2l2m2l9P3kl8klm2Pao2P4x10kj6k3Hkmlm32klk3l2k2l5k2lklk18P2kj2xbkm
  2l2m2xk2jmlaP6k2P6k2P6k9P7kP7kP2bhG4j9hj2G4P50h23k2ml2ml2mxml2Pao6P2ba4kcP17k4P31k4P800N1900O
  16ek2P6ak26P7hcP5h5PklakydkP5kPkP2kP2kP6ck11G10H16bkut10H40k2H36k8H20Pckz3H10l7xtux6P10lx2s2rtu
  tututututututu2xtu4x3r3xP4xstututu3xys3yPxz2x4P5kP87k2PMP3xz3xtuxyxs2xao2x3y2x1agtxuGrG1ahtyuyt
  uxtu2xakj2dk2j1fk3P6k2P6k2P6k2P3k3P2zyGH2zPH4y2HaP3M2H2PckP1akP13kP2kPfk2Pek22P7bk5P3x4P2dq3P9H
  35p4q11H2q3HPdH3PH2fP2dHl82P1dk3P31kfPl1bq4P20k4q9P14kp8kp5P26k5l5P1ekPx24k4P8kx5p2aP28g28h4ek
  2Pao6P24g4P24h4P28k8P34kbPxbgPfgP7gP2gPbhPfhP7hP2h3P34kcP137k9P16kaP8k18P6jP2ajP9j45P6k2PkP2ckP
  2k3Pk2P17kPx8q17k2H7q1fk8P9q30P13kP2k5P5q16k6q3Px1ak5Px1ak26P38k4P2q2k10q2P2eqk3lP2l5P4l4kP3kP
  1dk2P3l4Pl9q7P9x7P1dk2qx1dk3q20P8kH1ck2l4P5q7x9P36k3P7x16k2P8q13k5P8q12k7P4xcP7q50P49k37P33gdP
  33h7P6q24k4l8Pao6Pao4kjk16g3P5lsj16h8P2yd0P1fqP2akP2ls2P2k10P3kj2k8Px8H21P6l1dkaqk8P16kbl4q5x
  16P12k4l4x26P15k7q14P17k9Pmlm35kfl7x4P14qaol2k2lk9P3lm2dk3m4l2m2l2xM4xlaPM2P19k7Pao6P3l24k5lm8l
  Pao4xk2mk8P23kl2xk9P2lm30k3m9l2m4k4x4lxmlaokxk3xP14qbP12kP19k3m3l2mlm2l6xl2kl3eP7kPkP4kPfkPakx
  6P2fkl3m8l5Pao6P2l2mP8k2P2k2P16kP7kP2kP5kP2lk2ml4m2P2m2P3m2Pk6Pm5P5k2m2P7l3P5lbPakPk2PkP26kPk3m
  6lPm2PmP4mP2mlmlklk2xP2x8P2l1dP35k3m8l2m3lml4k5xao2xPxl3k1eP30k3m6lml4m2lm2l2kxk8Paoa6P2fk3m4l
  2P4m2lm2l17x4k2l22P30k3m8l2mlm2l3xkbPao6Pdx13P2bklml2m6lmlkx6Pao6P14o1cP1bk2Plml2m4lm5l4Pao2q3x
  H7kb9P2ck3m9lm2lx64P20g20hao9qcP8k2Pk2P8kP2kP18k6mP2m2P2lmlkmkml3x9Pao46P8k2P27k3m4l2P2l4mlkxkm
  1bPkal28k6lmk4l8xl8Pk6l2m3l2ekdlm2l3xk5xdP49k7Pax56Plm3lmlm58P21kxePao6P9kP25km7lP6lmlk5xaPao
  13q3P2x1ek2P16lPm7lm2lm2l49P7kP2kP26k6l3PlP2lP7lkl8Pao6P6kP2kP20k5mP2lP2mlmlk7Pao6P29kj2k4Pao
  f6P13k2l2m2x7P2lkmdkP22k2m5l3P2mlmldxaol55PkfP15q8H4z11HdPx39ak66P6fpP5xbPc4ka4cP61k2xdP430k10M
  l6kflaPf9bk5P247k1ab9P1ekcl3m3lao6c6P239k7P1fkPao4P2x4fkPao6P1ek2P5lxaP30k7l5x4H4jxHaPaoP7qP15k
  5P13k1b0P3j28k2j3xaoc6P20g20h17q4x5P19g2P19h2cP4bk4Plk37m7P4ldj40P2jxjlbP2m2j3p9P1cd6k29P20k61P
  73k21fdP4jP7jP2jP123kfPk1dP3k2PkeP4k8P18ck904P6bk5Pdk3P9k7Pak2PH2lx4Mf5cPf0Hao3H3P1b4H6P17HfP
  10HyfP2el2P17l9P74H3cPf6HaP27H2P3cH2m3l3H6m8M8l2H7l1eH4l3dH15P42H3lH7aP14qcP14qcP57H9P19q87P1ag
  1ah1ag7hP12h1ag1ahgP2g2Pg2P2g2P4gP8g4hPhP7hPbh1ag1ah2gP4g2P8gP7gP1ah2gP4gP5gPg3P7gP1ah1ag1ah1ag
  1ah1ag1ah1ag1ah1ag1ah1ag1ch2P19gy19hy6h19gy19hy6h19gy19hy6h19gy19hy6h19gy19hy6hgh2P32o200H37l4H
  32l8HleHl2H5xfP5lPfl450Pahk14h6P6hd5P7lP11l2P7lP2lP5l5P3ej21Pl70P2dk3P7l7j2Pao4PkH140P1ekl11P
  2ck4lao5Pz1d0P1bkj4laod6P1ek2lkao4Pxc0P1fkP3kl2kl7k2l5kl8Pkje0P7kP4kP2kPfkPc5k2P9q7l29P22g22h7l
  j4Pao4P2x311P3bqH3qz4q4cP2dqHfqc2P4kP1bkP2kPk2PkPakP4kPkPk6Pk4PkPkPkP3kP2kPk2PkPkPkPkPkP2kPk2P
  4kP7kP4kP4kPkPakP11k5P3kP5kP11k34P2y10eP2cH4P64HcPfH2PfHPfHP25HaPdqa1H38P1dHdP2cH4P9H7P2HeP6H
  9aPfbH5G2d9H3P11H3PdH3PdaH6PcH4PHfPcH4P38H8PaH6P28H8P1eH2PcH4P2HeP9y27P158H8PeH2PdH3PbH3P39HPH
  4P10H2PcH4PaH7P93HP5cHaoH405Pa6e0k20P111ek2P168ek2P1d31kfP26ek9a2P21ek5e2P134bk5P212akacb87PM
  1eP60M80Pf0lfe10PfffeO2PfffeO2P"

def categoryNames : List (List String × List Category) := [
  (["c", "other"], [.cc, .cf, .cs, .co, .cn]),
  (["l", "letter"], [.lu, .ll, .lt, .lm, .lo]),
  (["m", "mark", "combiningmark"], [.mn, .mc, .me]),
  (["n", "number"], [.nd, .nl, .no]),
  (["p", "punctuation", "punct"], [.pc, .pd, .ps, .pe, .pi, .pf, .po]),
  (["s", "symbol"], [.sm, .sc, .sk, .so]),
  (["z", "separator"], [.zs, .zl, .zp]),
  (["cc", "control", "cntrl"], [.cc]),
  (["cf", "format"], [.cf]),
  (["cn", "unassigned"], [.cn]),
  (["co", "privateuse"], [.co]),
  (["cs", "surrogate"], [.cs]),
  (["lc", "casedletter"], [.lu, .ll, .lt]),
  (["ll", "lowercaseletter"], [.ll]),
  (["lm", "modifierletter"], [.lm]),
  (["lo", "otherletter"], [.lo]),
  (["lt", "titlecaseletter"], [.lt]),
  (["lu", "uppercaseletter"], [.lu]),
  (["mc", "spacingmark"], [.mc]),
  (["me", "enclosingmark"], [.me]),
  (["mn", "nonspacingmark"], [.mn]),
  (["nd", "decimalnumber", "digit"], [.nd]),
  (["nl", "letternumber"], [.nl]),
  (["no", "othernumber"], [.no]),
  (["pc", "connectorpunctuation"], [.pc]),
  (["pd", "dashpunctuation"], [.pd]),
  (["pe", "closepunctuation"], [.pe]),
  (["pf", "finalpunctuation"], [.pf]),
  (["pi", "initialpunctuation"], [.pi]),
  (["po", "otherpunctuation"], [.po]),
  (["ps", "openpunctuation"], [.ps]),
  (["sc", "currencysymbol"], [.sc]),
  (["sk", "modifiersymbol"], [.sk]),
  (["sm", "mathsymbol"], [.sm]),
  (["so", "othersymbol"], [.so]),
  (["zl", "lineseparator"], [.zl]),
  (["zp", "paragraphseparator"], [.zp]),
  (["zs", "spaceseparator"], [.zs])]

/-- The runs that lie from `next` on, `n` being what has been read of a length. -/
def readRuns : Nat → Nat → List Char → List (Nat × Nat × Category)
  | _, _, [] => []
  | next, n, c :: r =>
    match Category.letters.lookup c with
    | some category =>
      let length := if n = 0 then 1 else n
      (next, next + length - 1, category) :: readRuns (next + length) 0 r
    | none => readRuns next (if Text.isBlank c then n else 16 * n + hexValue c) r

def ofCategories (categories : List Category) : CharSet :=
  CharSet.ofSorted ((readRuns 0 0 categoryRuns.toList).filterMap fun (low, high, category) =>
    if categories.contains category then some (low, high) else none)

end LineShell.Unicode
