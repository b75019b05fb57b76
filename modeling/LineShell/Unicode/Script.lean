import LineShell.Unicode.CharSet

/-!
The scripts: every character belongs to one.
-/

namespace LineShell.Unicode

/-- The scripts, except that of unassigned code points. -/
def scripts : List Entry := [
  ⟨"adlam", ["adlm"],
    "1e900+4b 4+9 4+1"⟩,
  ⟨"ahom", [],
    "11700+1a 2+e 4+16"⟩,
  ⟨"anatolianhieroglyphs", ["hluw"],
    "14400+246"⟩,
  ⟨"arabic", ["arab"],
    "600+4 1+5 1+d 1+2 1+1f 1+9 b+19 1+6b 1+21 50+2f f0+21 5+4a 1+1c f250+1ed 2+8f 20+f 70+4 1+86
    f63+1e 43+5 8+8 21+5 df00+3 1+1a 1+1 1 2 1+9 1+3 1 1 6 4 1 1 1+2 1+1 1 2 1 1 1 1 1+1 1 2+3
    1+6 1+3 1+3 1 1+9 1+10 5+2 1+4 1+10 34+1"⟩,
  ⟨"armenian", ["armn"],
    "531+25 2+31 2+2 f583+4"⟩,
  ⟨"avestan", ["avst"],
    "10b00+35 3+6"⟩,
  ⟨"balinese", ["bali"],
    "1b00+4c 1+31"⟩,
  ⟨"bamum", ["bamu"],
    "a6a0+57 c108+238"⟩,
  ⟨"bassavah", ["bass"],
    "16ad0+1d 2+5"⟩,
  ⟨"batak", ["batk"],
    "1bc0+33 8+3"⟩,
  ⟨"bengali", ["beng"],
    "980+3 1+7 2+1 2+15 1+6 1 3+3 2+8 2+1 2+3 8 4+1 1+4 2+18"⟩,
  ⟨"beriaerfe", ["berf"],
    "16ea0+18 2+18"⟩,
  ⟨"bhaiksuki", ["bhks"],
    "11c00+8 1+2c 1+d a+1c"⟩,
  ⟨"bopomofo", ["bopo"],
    "2ea+1 2e19+2a 70+1f"⟩,
  ⟨"brahmi", ["brah"],
    "11000+4d 4+23 9"⟩,
  ⟨"braille", ["brai"],
    "2800+ff"⟩,
  ⟨"buginese", ["bugi"],
    "1a00+1b 2+1"⟩,
  ⟨"buhid", ["buhd"],
    "1740+13"⟩,
  ⟨"canadianaboriginal", ["cans"],
    "1400+27f 230+45 101ba+f"⟩,
  ⟨"carian", ["cari"],
    "102a0+30"⟩,
  ⟨"caucasianalbanian", ["aghb"],
    "10530+33 b"⟩,
  ⟨"chakma", ["cakm"],
    "11100+34 1+11"⟩,
  ⟨"cham", [],
    "aa00+36 9+d 2+9 2+3"⟩,
  ⟨"cherokee", ["cher"],
    "13a0+55 2+5 9772+4f"⟩,
  ⟨"chorasmian", ["chrs"],
    "10fb0+1b"⟩,
  ⟨"common", ["zyyy"],
    "0+40 1a+5 1a+2e 1+e 1+4 17 1f 1c1+26 5+4 2+13 74 9 6 1 27d 6 e 3 20 9c 204 81+1 4d9 195+3
    122 5ef+2 47+1 cb+1 1 4cd d 7+3 1+5 1+2 2 305+b 2+56 1+a 3+a 1+e 11+21 3e+25 1+2 2+5 1+1a
    1+10 29+2 4+299 16+a 15+39f 100+273 2+89 200+5d 192+14 1 1+18 f+7 4+3 5b+1 3 5a+1 93+f 20+25
    9 30+3f 1f+50 2f 58+a7 19c0+3f 5900+21 66+2 a5+9 f4 a0 18b e+1 51d2+1 d0+9 16+22 1+12 1+3 93
    1+1f 1a+5 1a+a a 2d+1 40+6 1+6 a+4 102+2 4+2c 3+8 50+c 33+2c e4+1a b9a4+3 f5c+fc 3+1b3 6+16
    f+10 5f+73 3c+f5 a+26 2+3d 3+10 8+1 7+1d 4+3c d5+13 c+13 c+56 9+18 87+54 1+46 1+1 2 2+1 2+3
    1+b 1 1+6 1+40 1+3 2+7 1+6 1+1b 1+3 1+4 1 3+6 1+153 2+123 2+31 1471+43 4c+3c 2c2+2b 4+63 c+e
    2+e 1+e 1+24 a+ad 38+19 1+1 d+2b 4+8 7+1 e+5 9a+3d8 3+10 3+c 3+d9 6+b 4 f+b 4+37 8+9 6+27
    8+1d 2+b 4+1 e+8 27+157 8+d 2+c 3+a 3+38 1 4+f 2+b 4+9 7+92 1+66 c0406 1e+5f"⟩,
  ⟨"coptic", ["copt", "qaac"],
    "3e2+d 2890+73 5+6"⟩,
  ⟨"cuneiform", ["xsux"],
    "12000+399 66+6e 1+4 b+c3"⟩,
  ⟨"cypriot", ["cprt"],
    "10800+5 2 1+2b 1+1 3 2"⟩,
  ⟨"cyprominoan", ["cpmn"],
    "12f90+62"⟩,
  ⟨"cyrillic", ["cyrl"],
    "400+84 2+a8 1750+a a0 4c 1067+1f 7840+5f 578e+1 e200+3d 21"⟩,
  ⟨"deseret", ["dsrt"],
    "10400+4f"⟩,
  ⟨"devanagari", ["deva"],
    "900+50 4+e 2+19 9f60+1f 7200+9"⟩,
  ⟨"divesakuru", ["diak"],
    "11900+6 2 2+7 1+1 1+1d 1+1 2+b 9+9"⟩,
  ⟨"dogra", ["dogr"],
    "11800+3b"⟩,
  ⟨"duployan", ["dupl"],
    "1bc00+6a 5+c 3+8 7+9 2+3"⟩,
  ⟨"egyptianhieroglyphs", ["egyp"],
    "13000+455 a+f9a"⟩,
  ⟨"elbasan", ["elba"],
    "10500+27"⟩,
  ⟨"elymaic", ["elym"],
    "10fe0+16"⟩,
  ⟨"ethiopic", ["ethi"],
    "1200+48 1+3 2+6 1 1+3 2+28 1+3 2+20 1+3 2+6 1 1+3 2+e 1+38 1+3 2+42 2+1f 3+19 19e6+16 9+6
    1+6 1+6 1+6 1+6 1+6 1+6 1+6 7d22+5 2+5 2+5 9+6 1+6 13cb1+6 1+3 1+1 1+e"⟩,
  ⟨"garay", ["gara"],
    "10d40+25 3+1c 8+1"⟩,
  ⟨"georgian", ["geor"],
    "10a0+25 1 5 2+2a 1+3 b90+2a 2+2 1040+25 1 5"⟩,
  ⟨"glagolitic", ["glag"],
    "2c00+5f 1b3a0+6 1+10 2+6 1+1 1+4"⟩,
  ⟨"gothic", ["goth"],
    "10330+1a"⟩,
  ⟨"grantha", ["gran"],
    "11300+3 1+7 2+1 2+15 1+6 1+1 1+4 2+8 2+1 2+2 2 6 5+6 2+6 3+4"⟩,
  ⟨"greek", ["grek"],
    "370+3 1+2 2+3 1 4 1 1+2 1 1+13 1+3e e+f 1926+4 32+4 4+4 54 140+15 2+5 2+25 2+5 2+7 1 1 1
    1+1e 2+34 1+e 1+d 2+5 1+12 2+2 1+8 127 8a3e 55da+4e 11 d05f+45"⟩,
  ⟨"gujarati", ["gujr"],
    "a81+2 1+8 1+2 1+15 1+6 1+1 1+4 2+9 1+2 1+2 2 f+3 2+b 7+6"⟩,
  ⟨"gunjalagondi", ["gong"],
    "11d60+5 1+1 1+24 1+1 1+5 7+9"⟩,
  ⟨"gurmukhi", ["guru"],
    "a01+2 1+5 4+1 2+15 1+6 1+1 1+1 1+1 2 1+4 4+1 2+2 3 7+3 1 7+10"⟩,
  ⟨"gurungkhema", ["gukh"],
    "16100+39"⟩,
  ⟨"han", ["hani"],
    "2e80+19 1+58 c+d5 2f 1 19+8 e+3 3c4+19bf 40+51ff 5900+16d 2+69 7508+1 c+6 9009+a6df 20+111d
    2+168d 2+1d30 f+26d 9a2+21d 5e2+134a 5+2129"⟩,
  ⟨"hangul", ["hang"],
    "1100+ff 1e2e+1 101+5d 71+1e 41+1e 76e1+1c 283+2ba3 c+16 4+30 27a4+1e 3+5 2+5 2+5 2+2"⟩,
  ⟨"hanifirohingya", ["rohg"],
    "10d00+27 8+9"⟩,
  ⟨"hanunoo", ["hano"],
    "1720+14"⟩,
  ⟨"hatran", ["hatr"],
    "108e0+12 1+1 5+4"⟩,
  ⟨"hebrew", ["hebr"],
    "591+36 8+1a 4+5 f528+19 1+4 1 1+1 1+1 1+9"⟩,
  ⟨"hiragana", ["hira"],
    "3041+55 6+2 17f61+11e 12 1d+2 40ad"⟩,
  ⟨"imperialaramaic", ["armi"],
    "10840+15 1+8"⟩,
  ⟨"inherited", ["zinh", "qaai"],
    "300+6f 115+1 1c4+a 1a 2e0+3 115b+2d 2+b 1e4+2 1+c 1+6 4 6 3+1 c6+3f 20c+1 c2+20 f39+3 6b+1
    cd65+f 10+d 3cf e2 105a bbc4+2d 2+16 220+2 11+7 2+6 1e+3 c2f52+ef"⟩,
  ⟨"inscriptionalpahlavi", ["phli"],
    "10b60+12 5+7"⟩,
  ⟨"inscriptionalparthian", ["prti"],
    "10b40+15 2+7"⟩,
  ⟨"javanese", ["java"],
    "a980+4d 2+9 4+1"⟩,
  ⟨"kaithi", ["kthi"],
    "11080+42 a"⟩,
  ⟨"kannada", ["knda"],
    "c80+c 1+2 1+16 1+9 1+4 2+8 1+2 1+3 7+1 5+2 1+3 2+9 1+2"⟩,
  ⟨"katakana", ["kana"],
    "30a1+59 2+2 f0+f d0+2e 1+57 cc0e+9 1+2c b052+3 1+6 1+1 1 11f+2 32 e+3"⟩,
  ⟨"kawi", [],
    "11f00+10 1+28 3+1c"⟩,
  ⟨"kayahli", ["kali"],
    "a900+2d 1"⟩,
  ⟨"kharoshthi", ["khar"],
    "10a00+3 1+1 5+7 1+2 1+1c 2+2 4+9 7+8"⟩,
  ⟨"khitansmallscript", ["kits"],
    "16fe4 1b1b+1d5 29"⟩,
  ⟨"khmer", ["khmr"],
    "1780+5d 2+9 6+9 1e6+1f"⟩,
  ⟨"khojki", ["khoj"],
    "11200+11 1+2e"⟩,
  ⟨"khudawadi", ["sind"],
    "112b0+3a 5+9"⟩,
  ⟨"kiratrai", ["krai"],
    "16d40+39"⟩,
  ⟨"lao", ["laoo"],
    "e81+1 1 1+4 1+17 1 1+16 2+4 1 1+6 1+9 2+3"⟩,
  ⟨"latin", ["latn"],
    "41+19 6+19 2f f 5+16 1+1e 1+1c0 27+4 1a1b+25 6+30 5+3 5+c 1+45 41+ff 171 d 10+c 8d+1 6 1b
    11+28 ad7+1f 7aa2+65 3+51 14+e 330+2a 1+8 1+3 4f96+6 41a+19 6+19 825+5 1+29 1+8 d745+1e 6+5"⟩,
  ⟨"lepcha", ["lepc"],
    "1c00+37 3+e 3+2"⟩,
  ⟨"limbu", ["limb"],
    "1900+1e 1+b 4+b 4 3+b"⟩,
  ⟨"lineara", ["lina"],
    "10600+136 9+15 a+7"⟩,
  ⟨"linearb", ["linb"],
    "10000+b 1+19 1+12 1+1 1+e 2+d 22+7a"⟩,
  ⟨"lisu", [],
    "a4d0+2f 7ab0"⟩,
  ⟨"lycian", ["lyci"],
    "10280+1c"⟩,
  ⟨"lydian", ["lydi"],
    "10920+19 5"⟩,
  ⟨"mahajani", ["mahj"],
    "11150+26"⟩,
  ⟨"makasar", ["maka"],
    "11ee0+18"⟩,
  ⟨"malayalam", ["mlym"],
    "d00+c 1+2 1+32 1+2 1+5 4+f 2+19"⟩,
  ⟨"mandaic", ["mand"],
    "840+1b 2"⟩,
  ⟨"manichaean", ["mani"],
    "10ac0+26 4+b"⟩,
  ⟨"marchen", ["marc"],
    "11c70+1f 2+15 1+d"⟩,
  ⟨"masaramgondi", ["gonm"],
    "11d00+6 1+1 1+2b 3 1+1 1+8 8+9"⟩,
  ⟨"medefaidrin", ["medf"],
    "16e40+5a"⟩,
  ⟨"meeteimayek", ["mtei"],
    "aae0+16 c9+2d 2+9"⟩,
  ⟨"mendekikakui", ["mend"],
    "1e800+c4 2+f"⟩,
  ⟨"meroiticcursive", ["merc"],
    "109a0+17 4+13 2+2d"⟩,
  ⟨"meroitichieroglyphs", ["mero"],
    "10980+1f"⟩,
  ⟨"miao", ["plrd"],
    "16f00+4a 4+38 7+10"⟩,
  ⟨"modi", [],
    "11600+44 b+9"⟩,
  ⟨"mongolian", ["mong"],
    "1800+1 2 1+13 6+58 7+2a fdb5+c"⟩,
  ⟨"mro", ["mroo"],
    "16a40+1e 1+9 4+1"⟩,
  ⟨"multani", ["mult"],
    "11280+6 1 1+3 1+e 1+a"⟩,
  ⟨"myanmar", ["mymr"],
    "1000+9f 9940+1e 61+1f 6c50+13"⟩,
  ⟨"nabataean", ["nbat"],
    "10880+1e 8+8"⟩,
  ⟨"nagmundari", ["nagm"],
    "1e4d0+29"⟩,
  ⟨"nandinagari", ["nand"],
    "119a0+7 2+2d 2+a"⟩,
  ⟨"newa", [],
    "11400+5b 1+4"⟩,
  ⟨"newtailue", ["talu"],
    "1980+2b 4+19 6+a 3+1"⟩,
  ⟨"nko", ["nkoo"],
    "7c0+3a 2+2"⟩,
  ⟨"nushu", ["nshu"],
    "16fe1 418e+18b"⟩,
  ⟨"nyiakengpuachuehmong", ["hmnp"],
    "1e100+2c 3+d 2+9 4+1"⟩,
  ⟨"ogham", ["ogam"],
    "1680+1c"⟩,
  ⟨"olchiki", ["olck"],
    "1c50+2f"⟩,
  ⟨"oldhungarian", ["hung"],
    "10c80+32 d+32 7+5"⟩,
  ⟨"olditalic", ["ital"],
    "10300+23 9+2"⟩,
  ⟨"oldnortharabian", ["narb"],
    "10a80+1f"⟩,
  ⟨"oldpermic", ["perm"],
    "10350+2a"⟩,
  ⟨"oldpersian", ["xpeo"],
    "103a0+23 4+d"⟩,
  ⟨"oldsogdian", ["sogo"],
    "10f00+27"⟩,
  ⟨"oldsoutharabian", ["sarb"],
    "10a60+1f"⟩,
  ⟨"oldturkic", ["orkh"],
    "10c00+48"⟩,
  ⟨"olduyghur", ["ougr"],
    "10f70+19"⟩,
  ⟨"olonal", ["onao"],
    "1e5d0+2a 4"⟩,
  ⟨"oriya", ["orya"],
    "b01+2 1+7 2+1 2+15 1+6 1+1 1+4 2+8 2+1 2+2 7+2 4+1 1+4 2+11"⟩,
  ⟨"osage", ["osge"],
    "104b0+23 4+23"⟩,
  ⟨"osmanya", ["osma"],
    "10480+1d 2+9"⟩,
  ⟨"pahawhhmong", ["hmng"],
    "16b00+45 a+9 1+6 1+14 5+12"⟩,
  ⟨"palmyrene", ["palm"],
    "10860+1f"⟩,
  ⟨"paucinhau", ["pauc"],
    "11ac0+38"⟩,
  ⟨"phagspa", ["phag"],
    "a840+37"⟩,
  ⟨"phoenician", ["phnx"],
    "10900+1b 3"⟩,
  ⟨"psalterpahlavi", ["phlp"],
    "10b80+11 7+3 c+6"⟩,
  ⟨"rejang", ["rjng"],
    "a930+23 b"⟩,
  ⟨"runic", ["runr"],
    "16a0+4a 3+a"⟩,
  ⟨"samaritan", ["samr"],
    "800+2d 2+e"⟩,
  ⟨"saurashtra", ["saur"],
    "a880+45 8+b"⟩,
  ⟨"sharada", ["shrd"],
    "11180+5f 980+7"⟩,
  ⟨"shavian", ["shaw"],
    "10450+2f"⟩,
  ⟨"siddham", ["sidd"],
    "11580+35 2+25"⟩,
  ⟨"sidetic", ["sidt"],
    "10940+19"⟩,
  ⟨"signwriting", ["sgnw"],
    "1d800+28b f+4 1+e"⟩,
  ⟨"sinhala", ["sinh"],
    "d81+2 1+11 3+17 1+8 1 2+6 3 4+5 1 1+7 6+9 2+2 103ec+13"⟩,
  ⟨"sogdian", ["sogd"],
    "10f30+29"⟩,
  ⟨"sorasompeng", ["sora"],
    "110d0+18 7+9"⟩,
  ⟨"soyombo", ["soyo"],
    "11a50+52"⟩,
  ⟨"sundanese", ["sund"],
    "1b80+3f 100+7"⟩,
  ⟨"sunuwar", ["sunu"],
    "11bc0+21 e+9"⟩,
  ⟨"sylotinagri", ["sylo"],
    "a800+2c"⟩,
  ⟨"syriac", ["syrc"],
    "700+d 1+3b 2+2 110+a"⟩,
  ⟨"tagalog", ["tglg"],
    "1700+15 9"⟩,
  ⟨"tagbanwa", ["tagb"],
    "1760+c 1+2 1+1"⟩,
  ⟨"taile", ["tale"],
    "1950+1d 2+4"⟩,
  ⟨"taitham", ["lana"],
    "1a20+3e 1+1c 2+a 6+9 6+d"⟩,
  ⟨"taiviet", ["tavt"],
    "aa80+42 18+4"⟩,
  ⟨"taiyo", ["tayo"],
    "1e6c0+1e 1+15 8+1"⟩,
  ⟨"takri", ["takr"],
    "11680+39 6+9"⟩,
  ⟨"tamil", ["taml"],
    "b82+1 1+5 3+2 1+3 3+1 1 1+1 3+1 3+2 3+b 4+4 3+2 1+3 2 6 e+14 113c5+31 d"⟩,
  ⟨"tangsa", ["tnsa"],
    "16a70+4e 1+9"⟩,
  ⟨"tangut", ["tang"],
    "16fe0 1f+1aff 200+1e 61+72"⟩,
  ⟨"telugu", ["telu"],
    "c00+c 1+2 1+16 1+f 2+8 1+2 1+3 7+1 1+2 1+1 2+3 2+9 7+8"⟩,
  ⟨"thaana", ["thaa"],
    "780+31"⟩,
  ⟨"thai", [],
    "e01+39 5+1b"⟩,
  ⟨"tibetan", ["tibt"],
    "f00+47 1+23 4+26 1+23 1+e 1+6 4+1"⟩,
  ⟨"tifinagh", ["tfng"],
    "2d30+37 7+1 e"⟩,
  ⟨"tirhuta", ["tirh"],
    "11480+47 8+9"⟩,
  ⟨"todhri", ["todr"],
    "105c0+33"⟩,
  ⟨"tolongsiki", ["tols"],
    "11db0+2b 4+9"⟩,
  ⟨"toto", [],
    "1e290+1e"⟩,
  ⟨"tulutigalari", ["tutg"],
    "11380+9 1 2 1+25 1+9 1 2 1+3 1+9 1+1 8+1"⟩,
  ⟨"ugaritic", ["ugar"],
    "10380+1d 1"⟩,
  ⟨"vai", ["vaii"],
    "a500+12b"⟩,
  ⟨"vithkuqi", ["vith"],
    "10570+a 1+e 1+6 1+1 1+a 1+e 1+6 1+1"⟩,
  ⟨"wancho", ["wcho"],
    "1e2c0+39 5"⟩,
  ⟨"warangciti", ["wara"],
    "118a0+52 c"⟩,
  ⟨"yezidi", ["yezi"],
    "10e80+29 1+2 2+1"⟩,
  ⟨"yi", ["yiii"],
    "a000+48c 3+36"⟩,
  ⟨"zanabazarsquare", ["zanb"],
    "11a00+47"⟩]

end LineShell.Unicode
