import DnsFilter.Unicode.Table
/-!
# Scripts

The script of each character and the sets of scripts that use it, in version 16 of Unicode. A script
is numbered by its place in the list of names.
-/
namespace DnsFilter.Unicode

/-- The normalized names of the scripts: abbreviation, full name, and an older abbreviation if any.
-/
def scriptNames : List (List String) :=
  [["adlm", "adlam"],
   ["aghb", "caucasianalbanian"],
   ["ahom"],
   ["arab", "arabic"],
   ["armi", "imperialaramaic"],
   ["armn", "armenian"],
   ["avst", "avestan"],
   ["bali", "balinese"],
   ["bamu", "bamum"],
   ["bass", "bassavah"],
   ["batk", "batak"],
   ["beng", "bengali"],
   ["bhks", "bhaiksuki"],
   ["bopo", "bopomofo"],
   ["brah", "brahmi"],
   ["brai", "braille"],
   ["bugi", "buginese"],
   ["buhd", "buhid"],
   ["cakm", "chakma"],
   ["cans", "canadianaboriginal"],
   ["cari", "carian"],
   ["cham"],
   ["cher", "cherokee"],
   ["chrs", "chorasmian"],
   ["copt", "coptic", "qaac"],
   ["cpmn", "cyprominoan"],
   ["cprt", "cypriot"],
   ["cyrl", "cyrillic"],
   ["deva", "devanagari"],
   ["diak", "divesakuru"],
   ["dogr", "dogra"],
   ["dsrt", "deseret"],
   ["dupl", "duployan"],
   ["egyp", "egyptianhieroglyphs"],
   ["elba", "elbasan"],
   ["elym", "elymaic"],
   ["ethi", "ethiopic"],
   ["geor", "georgian"],
   ["glag", "glagolitic"],
   ["gong", "gunjalagondi"],
   ["gonm", "masaramgondi"],
   ["goth", "gothic"],
   ["gran", "grantha"],
   ["grek", "greek"],
   ["gujr", "gujarati"],
   ["guru", "gurmukhi"],
   ["hang", "hangul"],
   ["hani", "han"],
   ["hano", "hanunoo"],
   ["hatr", "hatran"],
   ["hebr", "hebrew"],
   ["hira", "hiragana"],
   ["hluw", "anatolianhieroglyphs"],
   ["hmng", "pahawhhmong"],
   ["hmnp", "nyiakengpuachuehmong"],
   ["hung", "oldhungarian"],
   ["ital", "olditalic"],
   ["java", "javanese"],
   ["kali", "kayahli"],
   ["kana", "katakana"],
   ["kawi"],
   ["khar", "kharoshthi"],
   ["khmr", "khmer"],
   ["khoj", "khojki"],
   ["kits", "khitansmallscript"],
   ["knda", "kannada"],
   ["kthi", "kaithi"],
   ["lana", "taitham"],
   ["laoo", "lao"],
   ["latn", "latin"],
   ["lepc", "lepcha"],
   ["limb", "limbu"],
   ["lina", "lineara"],
   ["linb", "linearb"],
   ["lisu"],
   ["lyci", "lycian"],
   ["lydi", "lydian"],
   ["mahj", "mahajani"],
   ["maka", "makasar"],
   ["mand", "mandaic"],
   ["mani", "manichaean"],
   ["marc", "marchen"],
   ["medf", "medefaidrin"],
   ["mend", "mendekikakui"],
   ["merc", "meroiticcursive"],
   ["mero", "meroitichieroglyphs"],
   ["mlym", "malayalam"],
   ["modi"],
   ["mong", "mongolian"],
   ["mroo", "mro"],
   ["mtei", "meeteimayek"],
   ["mult", "multani"],
   ["mymr", "myanmar"],
   ["nagm", "nagmundari"],
   ["nand", "nandinagari"],
   ["narb", "oldnortharabian"],
   ["nbat", "nabataean"],
   ["newa"],
   ["nkoo", "nko"],
   ["nshu", "nushu"],
   ["ogam", "ogham"],
   ["olck", "olchiki"],
   ["orkh", "oldturkic"],
   ["orya", "oriya"],
   ["osge", "osage"],
   ["osma", "osmanya"],
   ["ougr", "olduyghur"],
   ["palm", "palmyrene"],
   ["pauc", "paucinhau"],
   ["perm", "oldpermic"],
   ["phag", "phagspa"],
   ["phli", "inscriptionalpahlavi"],
   ["phlp", "psalterpahlavi"],
   ["phnx", "phoenician"],
   ["plrd", "miao"],
   ["prti", "inscriptionalparthian"],
   ["rjng", "rejang"],
   ["rohg", "hanifirohingya"],
   ["runr", "runic"],
   ["samr", "samaritan"],
   ["sarb", "oldsoutharabian"],
   ["saur", "saurashtra"],
   ["sgnw", "signwriting"],
   ["shaw", "shavian"],
   ["shrd", "sharada"],
   ["sidd", "siddham"],
   ["sind", "khudawadi"],
   ["sinh", "sinhala"],
   ["sogd", "sogdian"],
   ["sogo", "oldsogdian"],
   ["sora", "sorasompeng"],
   ["soyo", "soyombo"],
   ["sund", "sundanese"],
   ["sylo", "sylotinagri"],
   ["syrc", "syriac"],
   ["tagb", "tagbanwa"],
   ["takr", "takri"],
   ["tale", "taile"],
   ["talu", "newtailue"],
   ["taml", "tamil"],
   ["tang", "tangut"],
   ["tavt", "taiviet"],
   ["telu", "telugu"],
   ["tfng", "tifinagh"],
   ["tglg", "tagalog"],
   ["thaa", "thaana"],
   ["thai"],
   ["tibt", "tibetan"],
   ["tirh", "tirhuta"],
   ["tnsa", "tangsa"],
   ["toto"],
   ["ugar", "ugaritic"],
   ["vaii", "vai"],
   ["vith", "vithkuqi"],
   ["wara", "warangciti"],
   ["wcho", "wancho"],
   ["xpeo", "oldpersian"],
   ["xsux", "cuneiform"],
   ["yezi", "yezidi"],
   ["yiii", "yi"],
   ["zanb", "zanabazarsquare"],
   ["zinh", "inherited", "qaai"],
   ["zyyy", "common"],
   ["zzzz", "unknown"],
   ["gara", "garay"],
   ["gukh", "gurungkhema"],
   ["krai", "kiratrai"],
   ["onao", "olonal"],
   ["sunu", "sunuwar"],
   ["todr", "todhri"],
   ["tutg", "tulutigalari"]]

/-- The number of the script with a normalized name. What has no script has no name. -/
def scriptNamed? (name : String) : Option Nat :=
  if ["zzzz", "unknown"].contains name then none
  else scriptNames.findIdx? (fun names => names.contains name)

def scriptRuns : Runs := Runs.ofPacked
  (String.join [
  "X2Y5Qb26Y5Qb2l1Y51b2FY51b25Y5Nb21Y5Vb21Y5XEb2d1Y55b25Y52DKY5m3X54h11Y53h12Z54h11Y51h14Z5",
  "1h11Y51h11Y53h11Z51h11Z5Kh11Z5_1h1EOGh1b4R2X5f5R1Z5c152Z5o152Z5351Z5t1o18Z5Ro14Z56o1BZ55",
  "31Y5631Y5E31Y5331Y5W131Y5A3BX5Q31X5i331Y5Y13Ec41Z5y1c42Z53c4m13o1n4EZ5x1Y32Z53Y3k1t32Z5F",
  "t31Z5Sl22Z51l21Z5Bc45Z5V31Z5235Z5h231Y5T3n2S4X5FS2Y5QS4B1Z58B2Z52B2Z5MB1Z57B1Z51B3Z54B2Z",
  "59B2Z52B2Z54B8Z51B4Z52B1Z55B2Z5PB2Z53j11Z56j14Z52j12Z5Mj11Z57j11Z52j11Z52j11Z52j12Z51j11",
  "Z55j14Z52j12Z53j13Z51j17Z54j11Z51j17Z5Hj1AZ53i11Z59i11Z53i11Z5Mi11Z57i11Z52i11Z55i12Z5Ai",
  "11Z53i11Z53i12Z51i1FZ54i12Z5Ci17Z57i11Z53d31Z58d32Z52d32Z5Md31Z57d31Z52d31Z55d32Z59d32Z5",
  "2d32Z53d37Z53d34Z52d31Z55d32Z5Id3AZ52h41Z56h43Z53h41Z54h43Z52h41Z51h41Z52h43Z52h43Z53h43",
  "Z5Ch44Z55h43Z53h41Z54h42Z51h46Z51h4EZ5Lh45Z5Dk41Z53k41Z5Nk41Z5Gk42Z59k41Z53k41Z54k47Z52k",
  "41Z53k42Z51k42Z54k42Z5Ak47Z59k4DX21Z53X21Z5NX21Z5AX21Z55X22Z59X21Z53X21Z54X27Z52X26Z52X2",
  "1Z54X22Z5AX21Z53X2CZ5Ds21Z53s21Z5p1s21Z53s21Z56s24Z5Gs22Z5Qs21Z53_31Z5I_33Z5O_31Z59_31Z5",
  "1_32Z57_33Z51_34Z56_31Z51_31Z58_36Z5A_32Z53_3CZ5w1o44Z51Y5So4b1Z52a21Z51a21Z55a21Z5Oa21Z",
  "51a21Z5Na22Z55a21Z51a21Z57a21Z5Aa22Z54a2W1Z5e2p41Z5a1p44Z5d1p41Z5a1p41Z5Fp41Z57p44Y52p4b",
  "1Z5W5y2c1b11Z51b15Z51b12Z5h1b11Y54b1W8k1f2a11Z54a12Z57a11Z51a11Z54a12Z5f1a11Z54a12Z5X1a1",
  "1Z54a12Z57a11Z51a11Z54a12Z5Fa11Z5v1a11Z54a12Z5Z2a12Z5W1a13Z5Qa16Z5s2M2Z56M2Z5WKJTa33Z5h2",
  "s33Y5Bs37Z5Mm49Z51m4Lm12Y59Z5KHCZ5Dd41Z53d41Z52d4CZ5-2-12Z5A-16Z5A-16Z52u22Y51u21Y5Ku26Z",
  "5v2u27Z5h1u25Z5c2JAZ5Vd21Z5Cd24Z5Cd24Z51d23Z5Cd2Uf42Z55f4BZ5i1g44Z5Qg46Z5Bg43Z52g4W1-1SG",
  "2Z52G_1Z21Z5TZ22Z5BZ26Z5AZ26Z5EZ22Z5VX5n1Z5j271Z5o17W2a4q1A8Z54Au1c23Z5Fc23Z53c2m1b3BR5Z",
  "5h1b12Z53b18a48Z53X51Y5DX51Y57X54Y51X56Y51X53Y52X51Y55Z5c1b25h11Rn1b25h14b25h1Db21Rc2b21",
  "h1W2X5W8b2Mh12Z56h12Z5c1h12Z56h12Z58h11Z51h11Z51h11Z51h11Z5Vh12Z5r1h11Z5Fh11Z5Eh12Z56h11",
  "Z5Jh12Z53h11Z59h11Z5CY52X5t2Y51Z5BY51b22Z5BY51b2FY51Z5Db23Z5X1Y5FZ5X1X5FZ5c1Y51h13Y52b26",
  "Y51b2RY51b2HY5f1b23Y54Z5wKY5MZ5BY5LZ5WTY5W8FqJY52Z5W1Y51Z5f3Y5W3c1W1b2q3O5Z57Oc1b11Z51b1",
  "5Z51b12Z5u1l47Z52l4EZ51l4Na19Z57a11Z57a11Z57a11Z57a11Z57a11Z57a11Z57a11Z57a11Z5W1R-2Y5Y1",
  "Z5Ql11Z5v2l1CZ5s6l1QZ5LY51l11Y51l1PY59l14X52k18Y54l14Y51Z5s2p12Z52X52Y53p11Y5w2x12Y53x15",
  "Z5h1D1Z5-2k11Z5GY5W1Dc1Y59Z51Y5Gx1Vk11Z5W2Y5Vk1n2Y5l1x11Y5u2x1e5Y5Wk6l1W2Y5WmKl1ja1_43Z5",
  "t1_49Z5m1g2i9u4KZ5W3Ru288Z5Y1Y5c3b23Y5Z2b22Z52b21Z51b21Z58b2LZ5Eb2j1b43Z5AY56Z5u1k38Z5c2",
  "v38Z5Cv36Z5W1Sk1w11Y51w1a1q3BZ51q3Tk13Z5k2v11Z51Y5Av14Z52v1Vy21Z5t1L9Z5EL2Z5AL2Z54LW1y2Z",
  "2j4OZ55j4Nw2AZ56a12Z56a12Z56a19Z57a11Z57a11Z5h1b21Y59b21h14b22Y54Z5m2Mk1w22Z5Aw26Z5azAk1",
  "CZ5Nk14Z5n1k1ae8Z5kBl12Z5g3l1c1Z57b2CZ5555Z5Qo11Z55o11Z51o11Z52o11Z52o11Z5Ao1p33GZ5hB32Y",
  "5m232Z5s137Z513W1Z5G3GX5AY56Z5EX52RZ1Y51Z5JY51Z54Y54Z5531Z5d432Z51Y51Z5W1Y5Qb26Y5Qb2BY5A",
  "x11Y5j1x12Y5Vk13Z56k12Z56k12Z56k12Z53k13Z57Y51Z57Y5AZ55Y52Z5Cf21Z5Qf21Z5Jf21Z52f21Z5Ff22",
  "Z5Ef2Y1Z5x3f25Z53Y54Z5j1Y53Z59Y5l2h11Z5DY53Z51h1l1Z5j1Y51X5Y4Z5Th23Z5n1KFZ51X5RY54Z5a1u1",
  "9Z53u1Rf15Z5h1j35Z5Ut41Z51t4a1y44Z5Ey4g1Z5m2Vm1x3Uf32Z5Af36Z5a1e34Z5a1e34Z5e1Y18Z5q11BZ5",
  "11Bv41Z5Fv41Z57v41Z52v41Z5Bv41Z5Fv41Z57v41Z52v43Z5q1f5CZ5t9e29Z5Me2AZ58e2OZ56b21Z5g1b21Z",
  "59b2b2Z56Q2Z51Q1Z5i1Q1Z52Q3Z51Q2Z51QM41Z594W1h3VW38Z59W3m1Z5Jn11Z52n15Z55n1Sn33Z51n3Qi25",
  "Z51i2W2Z5W1r2Oq24Z5Kq22Z5k1q24z11Z52z15Z58z11Z53z11Z5Tz12Z53z14Z5Az17Z59z17Z5W1u3W1_2W1Z",
  "5d1m24Z5Cm29Z5s163Z576Mp32Z58p3Jl35Z58l3Im37Z54m3CZ57m3m2Z5f2c3t1Z5p1t1DZ5p1t17Z56t1e1r3",
  "8Z5Ar36Z5c1a53Z5Ta58Z52a5m6Z5V31Z5g1-41Z53-42Z52-4GZ533t1Z543e1X48Z5g1W4MZ5Qg3c1Z5SNKZ5N",
  "Z19Z5k2E4Z5a1E9Z51EZ2Y2AZ51Y22Z5PY47Z5AY46Z5r1I1Z5II8Z5d1j29Z5W3y31Z5K_3BZ5I_11Z5l1_1-1Z",
  "57x21Z51x21Z54x21Z5Fx21Z5Bx26Z5x1-35Z5A-36Z54g11Z58g12Z52g12Z5Mg11Z57g11Z52g11Z55g11Z51X",
  "59g12Z52g12Z53g12Z51g16Z51g15Z57g12Z57g13Z55g1BZ5Ag51Z51g52Z51g51Z5c1g51Z5Ag51Z51g52Z51g",
  "51Z54g51Z5Ag51Z52g58Z52g5TZ5y2X31Z55X3UZ5e2q48Z5Aq4c5Z5s1z32Z5c1z3Y1Z5b2t2BZ5At26Z5Du2JZ",
  "5w1e46Z5Ae46Z5Ky2SZ5R22Z5F24Z5N2v5Z5y1Ua3Z5p2w4CZ51w47T2Z51T2Z58T1Z52T1Z5UT1Z52T2Z5CT9Z5",
  "ATc2Z58-22Z5k1-22Z5B-2RZ5e2W58Z5p2Z4DZ5GJv1i37Z5ASs5Z5Y1e5EZ5Ae56Z59C1Z5j1C1Z5ECAZ5TC3Z5",
  "W1n22Z5Mn21Z5En2f2Z57e11Z52e11Z5i1e13Z51e11Z52e11Z59e18Z5Ae16Z56d11Z52d11Z5b1d11Z52d11Z5",
  "6d17Z5Ad1s9Z5Pk27Z5Hy11Z5f1y13Z5Ty1r2Z51g2FZ5o1h4DZ51h4wSz4c3Z5l3z41Z55z4BZ5a6z4io2Z5Z3P",
  "DZ5sY1X1AZ5xy3X15Z5dIq1vr6Z5w1b5cs1Z5vH87Z5Vv21Z5Av24Z52v2l2r41Z5Ar46Z5U92Z569AZ5c2r1AZ5",
  "Ar11Z57r11Z5Lr15Z5Jr1mDZ5w1c5c6Z5x2o2b3Z5h2o34Z5v1o37Z5Ho3W2Z51i41Z32l11W2BZ52l1EZ5u_5i4",
  "8Z5WOi4sEW2f1Z51W29i4dt8Z54x11Z57x11Z52x11Z51x1_8p13x1FZ51p1TZ53p12Z51x1EZ54x18Z5iCZ3ae2",
  "Z5h3W15Z5DW13Z59W17Z5AW12Z54W14Y5yw3Z5w7Y56Z5qDY5i2Z5k1X52Z5NX59Z5q3Y5y1Z5s7Y5AZ5d1Y52Z5",
  "-1Y53X5HY58X52Y57X5UY54X5z1Y5LZ5c2h1w3Z5KY5CZ5KY5CZ5t2Y59Z5PY5d4Z5r2Y51Z5d2Y51Z52Y52Z51Y",
  "52Z52Y52Z54Y51Z5CY51Z51Y51Z57Y51Z5X2Y51Z54Y52Z58Y51Z57Y51Z5SY51Z54Y51Z55Y51Z51Y53Z57Y51Z",
  "5qAY52Z5a9Y52Z5o1Y5iKw3FZ55w31Z5Fw3mY1Z5Vb26Z56b2r6Z57c11Z5Hc12Z57c11Z52c11Z55c15Z5-1RX1",
  "Z51Rm3Z5j1s13Z5Es12Z5As14Z52s1WAZ5Vs4HZ5w1x45Z51x4mEZ5g1z2s6Z5h1d54Z51d5WFZ57a11Z54a11Z5",
  "2a11Z5Fa11Z5b6p22Z5Gp2f1Z5i204Z5A04Z520nOZ5a2Y5i2Z5z1Y5Y6Z5431Z5R31Z5231Z5132Z5131Z5A31Z",
  "5431Z5131Z5136Z5134Z5131Z5131Z5131Z5331Z5231Z5132Z5131Z5131Z5131Z5131Z5131Z5231Z5132Z543",
  "1Z5731Z5431Z5431Z5131Z5A31Z5H35Z5331Z5531Z5H3q1Z523k8Z5i1Y54Z5a3Y5CZ5FY52Z5FY51Z5FY51Z5b",
  "1Y5AZ5k5Y5u1Z5QY51p12Y5DZ5i1Y54Z59Y57Z52Y5EZ56Y5w4Z5uUY54Z5HY53Z5DY53Z5t3Y54Z5_2Y56Z5CY5",
  "4Z51Y5FZ5CY54Z5u1Y58Z5AY56Z5e1Y58Z5UY52Z5CY54Z52Y5-1Z5qAY5CZ5EY52Z5DY53Z5AY55Z5u1Y57Z5FY",
  "52Z5BY56Z59Y57Z5p4Y51Z5c3Y5cW1Z5Wtf1l1W1Z5wX4l16Z5-6l12Z5Yq5l1EZ5nf7l1FZ5kJl1Yj2Z5-Gl1Yl",
  "1Z5hw4l15Z5WZ4l1nYtLZ51Y5UZ5W3Y5W4Z5m7X5mm_5Z5"])

def rangesOfScript (number : Nat) : Ranges := scriptRuns.rangesWhere (· == number)

def sharedScripts : Array (List Nat) := (unpackLists
  (String.join [
  "0G6KOW1Y1b1c1d1f1h1l1b2i2j2j3x37BRSb2g2o4s42Db22b2g22b2o48MORh1b2j3f4e58MRh1b2e3f4e5f54M",
  "Rb2l45c1b2c4o4e5B1MORf1h1b2e3c4l4f56OY1c1f1x1b24Rh1b2j39OW1o1b2j3c4f4l4f5A5RW1f1h1o1b2j3",
  "c4f42b2l43W1b2c44MRb2e33Mb2f42b2e52a1b23Rb2f54h1b2j3f55MW1x1b2c44MW1b2c42b2c43b2c4e53Mb2",
  "c471Mf1b2c4o4e51h12b2e331b2f51b22Oh12Rj32Rc12Rb235b1c173Y3r3c4n4-4a533c4n4803Y3r3c4n4-4a",
  "5903l2m2g3m3r3W4c423c433n4-423r3DBSg1i1j1X2b2s2d3y3h4k4q4CBSg1i1j1X2b2s2d3h4k4q4LBSUd1e1",
  "g1i1j1X2j2s2-2d3-3_3b4e4h4k4q4d5NBSUd1e1g1i1j1X2d2j2s2-2d3-3_3b4e4h4k4q4b5d54SUY2j23BIb4",
  "2j1x22i1_12g1h43X2-2g53Iy2f43b1c1b21s34Hm1d4m42u2k34BSg1X21S2Sg12BS2Sy36SX2s2d3h4k42S-2B",
  "BSg1X2s2-2d3_3k4q4g54Sg1X2g51B1-23Rb2c41c43b2u2k32036Kb1c1t1h2c34Kh1t1r23Sg1b22Ob226c376",
  "Kb1t1Y2i2t31W1303t12l1i47Dk1l1p1x1u2_48Dk1l1p1x1u2k3_45Dk1l1p1x11l18Dk1l1p1x1u2p4_49Dk1l",
  "1p1x1g2u2p4_46Dk1l1p1x1_42Dl12p1x13l1p1x12l1b2GSUi1j1_1X2Y2j2s2t2-2y3-3e4q4g5FSUi1j1_1X2",
  "Y2j2t2-2y3-3e4q4g5BSUi1j1_1Y2j2t2-3e4q4CSUi1j1_1Y2j2t2y3-3e4q43BSg52Sh43w1b2y22Gv123Y323",
  "n43PQf22Qf23Qe2f223O2m2g3"])).toArray

def sharedScriptRuns : Runs := Runs.ofPacked
  (String.join [
  "t5011aG012A0131033101490151013c10161718191A1B1C1D1E1F1G1H1I1J1K101J1L101MF01N1O1P701Q1P1",
  "01R1SG01T201TI01U501V40DW1402X1j801Y11Z12a11Z1X801b1Y401c1E01c11d1201e1W101f1A0Bg1A0Ah16",
  "01g1Z301i1yJ01j11k1H01l11m1An1s30Ao1s30Ap1s30Aq1s70Er1o70As1mQ0At1n501u1ll103v1d202w1h60",
  "2x1101x1gc101y11z11y11-11z12_11W21_11W21X21z12W22z11W21_17z11Y21_12z11_14z11Z21-11a22_11",
  "b22-11c2b602Ts101d2101e2qH01f2V01g2A01h2201i2o401j2cf301k2O01l21m2A01n2401o2101Z1iD0Gp21",
  "01q21r21s2201t2102u22v26w2101s28w24s2A04x2201s25y2101s2402z22t2v204y2301y2w201w21y2p40Gt",
  "2W10c1t2901p2m10e1t2u10n1t2F0Ct2p101t2u20Pt2A05t2W30Vt2mpS01Z1m408-2e903_23W32X31Y31X3t5",
  "01Z3101a3w101b3W501c3kxK02d3o501e3A01e3d202s2w805w2A01y2j102y2WB02f31g340j1h3309g3WD0Si3",
  "s_101j3kW201r1101r1t102r1pa302r1101r1icd104n2yr50It2-s702t2kjZU0"])

/-- The characters that texts of a script share with other scripts. -/
def rangesShared (number : Nat) : Ranges :=
  sharedScriptRuns.rangesWhere (fun k => (sharedScripts.getD k []).contains number)

/-- The characters that have no scripts but their own. -/
def rangesUnshared : Ranges := sharedScriptRuns.rangesWhere (· == 0)

end DnsFilter.Unicode
