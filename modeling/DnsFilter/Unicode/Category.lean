import DnsFilter.Unicode.Table
/-!
# General categories

The thirty general categories of the Unicode character database, version 16, and the names of
categories and of their groups. Surrogates are no characters, so their category has no name here.
-/
namespace DnsFilter.Unicode

inductive Category
  | lu | ll | lt | lm | lo | mn | mc | me | nd | nl | no | pc | pd | ps | pe | pi | pf | po
  | sm | sc | sk | so | zs | zl | zp | cc | cf | cs | co | cn
  deriving DecidableEq, Repr

def Category.all : Array Category :=
  #[.lu, .ll, .lt, .lm, .lo, .mn, .mc, .me, .nd, .nl, .no, .pc, .pd, .ps, .pe, .pi, .pf,
    .po, .sm, .sc, .sk, .so, .zs, .zl, .zp, .cc, .cf, .cs, .co, .cn]

def categoryRuns : Runs := Runs.ofPacked
  (String.join [
  "W1P1M3H1J3H1D1E1H1I1H1C2HA82H3I2HQ01D1H1E1K1B1KQ11D1I1E1IX1P1M1H4J1L1H1K1L141F1I1Q1L1K1L",
  "1I2A1K112H1K1A141G3A1HN01I70O11I81101110111011101110111011101110111011101110111011101110",
  "1110111011101110111011101110111011101110111011101110111021101110111011101110111011101110",
  "2110111011101110111011101110111011101110111011101110111011101110111011101110111011101110",
  "1110112011101110312011101120113021401120113031201120111011101120111021101120113011101120",
  "2114103144101211101211101211101110111011101110111011101110211011101110111011101110111011",
  "1011102110121110113011101110111011101110111011101110111011101110111011101110111011101110",
  "11101110111011101110111011101110111011101110111071201120211011401110111011101110b2114R1I",
  "34KC3EK537K131K13HKm3510111011131K10112T13311H104T2K101H301T101T2011H01T90Z1110213031101",
  "11011101110111011101110111011101110111011105110111I10112021p10m1110111011101110111011101",
  "1101110111011101110111011101110111011101110111L55271011101110111011101110111011101110111",
  "0111011101110111011101110111011101110111011101110111011101110111011101120111011101110111",
  "0111011102110111011101110111011101110111011101110111011101110111011101110111011101110111",
  "0111011101110111011101110111011101110111011101110111011101110111011101110111011101110111",
  "0111011101110111011101110111Tc102T136Hf111H1C2T2L1J1Tj151C151H251H251H158TR44T442HBT6Q3I",
  "2H1J2H2LB51H1Q3HW1413A4L5A84H2415Z341H14751Q1L6523251L4524A8342L14EH1T1Q1415U4R52Tv24B51",
  "4ETA8X1495231L3H132T152JM4451395133513552TFH1TP4352T1H1TB45TO41K641T2Q5T95f1413O51QW1516",
  "s141516151436854615261475A4252HA81H13F415261T842T242TM41T741T143T442T151436452T262T26151",
  "48T164T241T34252TA8242J6A1L1J141H152T25161T644T242TM41T741T241T241T242T151T36254T252T353",
  "T157T441T147TA82534151HAT25161T941T341TM41T741T241T542T151436551T25161T26152T14FT24252TA",
  "81H1J7T14651T15261T842T242TM41T741T241T542T1514161516452T262T26157T25164T241T34252TA81L1",
  "46AAT15141T643T341T443T241T141T243T243T343TC44T2615263T361T36152T146T16ETA83A6L1J1L5T153",
  "615841T341TN41TG42T151435461T351T457T251T342T142T24252TA87T1H7A1L1415261H841T341TN41TA41",
  "T542T15141615561T15261T26257T266T241T24252TA81T2416CT2526941T341Tf14251436451T361T361514",
  "1L4T34167A34252TA89A1L641T15261TI43TO41T941T142T743T154T36351T151T866TA82T261HCTm1415247",
  "54T1J6413851HA82Hb1T241T141T541TO41T141TA4152495142T541T131T751TA82T44W1T143LFH1L1H3L256",
  "LA8AA1L151L151L151D1E1D1E26841Ta144TE516551H2554B51Ta151T8L156L1T2L5H4L2Hb1Th14264516651",
  "625262514A86H6426254435143624763445D415262566151416A836152Lc101T105T102Th111H1331fA41T44",
  "2T741T141T442Tf141T442TX141T442T741T141T442TF41Tv141T442TZ242T359HKA3TG4AL6Ts202T612T1Ci",
  "J41L1HH41MQ41D1E3Th243H39847TI435169TJ425162H9TI425CTD41T341T25CTq14251675861526B53H133H",
  "1J14152TA86TAA6T6H1C4H351Q15A86TZ1413r147T5425Y1415145Tc24ATV41T354625364T261566354T1L3T",
  "2HA8U42T54BTi144TQ46TA81A3TY1LN42526152T2Hr14161516751T151615268566A52T15A86TA86T7H136H2",
  "TE517G5n1T4516l141516551615561526841T2HA87HAL959L3H2516U416452625163524A8i14151625361516",
  "35268T4Ha14868526253T5HA83T34A8U4632H9110115Th102T308H8T351HD5167544156415241625145Ti11_",
  "13D113Y11b13W251011101110111011101110111011101110111011101110111011101110111011101110111",
  "0111011101110111011101110111011101110111011101110111011101110111011101110111011101110111",
  "0111011101110111011101110111011101110111011101110111011101110111011101110111011101110111",
  "0111011101110111011101110111011101110111011101110911011101110111011101110111011101110111",
  "0111011101110111011101110111011101110111011101110111011101110111011101110111011101110111",
  "0111011101110111011101110111011101110111011101110111011101110111011109180612T602T8180818",
  "0612T602T811T101T101T101T108180E12T818281828182511T2140121K113K311T2140123K412T21401T3K8",
  "1503K2T311T2140122K1TBM5Q6C2H1F1G1D2F1G1D1F8H1N1O5Q1M9H1F1G4H2B3H1I1D1EBH1I1H1BAH1M5Q1TA",
  "Q1A132T6A3I1D1E13AA3I1D1E1TD33TX1JFTD5471537C5FT2L104L102L11302130111L102L1I506L101L101L",
  "101L401L11401144112L21205I10411L1I2L111LGAZ191011491A2L4T5I5L2I4L1I2L1I2L1I7L1IVL2I2L1I1",
  "L1IVLi8I8L1D1E1D1EKL2I7L1D1En2L1IULPIe1L6Ie2LMTBLLTy1Ak2LMAt5L1I9L1Is1L8Il3L1Iu7L1D1E1D1",
  "E1D1E1D1E1D1E1D1E1D1EUAi1L5I1D1EVI1D1E1D1E1D1E1D1E1D1EGIW8LZ4I1D1E1D1E1D1E1D1E1D1E1D1E1D",
  "1E1D1E1D1E1D1E1D1E_1I1D1E1D1EW1I1D1EY8Im1LLI2L6Id1L2TW1L1Tf3Lm10m11101130211011101110114",
  "0111021106123301110111011101110111011101110111011101110111011101110111011101110111011101",
  "1101110111011101110111011101110111011101110111011101110111011101110111011101110111011101",
  "11011101110111011101110111011101110216L101110113510115T4H1A2Hc111T115T112Tu147T131HET15N",
  "49T741T741T741T741T741T741T741T741TW152H1F1G1F1G3H1F1G1H1F1G9H1C2H1C1H1F1G2H1F1G1D1E1D1E",
  "1D1E1D1E5H13AH2C4H1C1H1DDH2L3H1D1E1D1E1D1E1D1E1CY1TQL1Tv2LCTs6LQTGL1M3H1L1314191D1E1D1E1",
  "D1E1D1E1D1E2L1D1E1D1E1D1E1D1E1C1D2E1L9945261C532L3913141H2L1Ts242T252K23141Cw241H33145Th",
  "141T-241T2L4AALW14c1L9T1LG4VL1TAAUL8A1LFAW1LAAd1LFAWALWk64W2LrmK413tZ143Tt1L9Te14632Hi84",
  "133HG4A824KT1011101110111011101110111011101110111011101110111011101110111011101110111011",
  "10111011101110111415371HA51H131011101110111011101110111011101110111011101110111011101123",
  "25c24A9256H8TNK932K101110111011101110111011103110111011101110111011101110111011101110111",
  "0111011101110111011101110111011101110111011101110111011101110111011101110111011101113811",
  "011101120111011101110111011132K101110111410111031101110111011101110111011101110111011101",
  "15011501110111011101110111011101110114011101120112T10111T111T1110111011101110LT331011142",
  "311741534154415N42625164L153T6A2L1J1L6Tq144H8T26o14G6258T2HA86TI5643H141H2415A8S4852HN4B",
  "526BT1HT43T3516l14152645262536DH1T13A84T2H54151394A8541Tf1465262526259T34158415162TA82T4",
  "HG413643L14161516o1415143524255425141514OT24132HB41625262H14231615AT642T642T649T741T741T",
  "h111K4391132K4Tm21Z1426152615261H16152TA86TazA4CTN44Tn144TWW2RWe6SkB42Tg34c1T71CT515T141",
  "5A41ID41T541T141T241T241Ti34HKGThB41E1DGLW242Ts147T1LW1TC41J3LG57H1D1E1H6TG51H2C2B1D1E1D",
  "1E1D1E1D1E1D1E1D1E1D1E1D1E2H1D1E4H3B3H1T4H1C1D1E1D1E1D1E3H1I1C3I1T1H1J2H4T541Td442T1Q1T3",
  "H1J3H1D1E1H1I1H1C2HA82H3I2HQ01D1H1E1K1B1KQ11D1I1E1I1D1E1H1D1E2HA413j1423V43T642T642T642T",
  "343T2J1I1K1L2J1T1L4I2LAT3Q2L2TC41TQ41TJ41T241TF42TE4Y1Tx345T3H4Tj1A3T9Lr194AHL2A3L1TDL3T",
  "1Ll1Tj1L15Y4TT43Tn14FT15RA4TW144A9TK41984195Tc14555TU41T1Ha144T841H59g1Te10e11k242TA86Ta",
  "104Ta114Te148Tq14BT1HB01TF01T701T201TB11TF11T711T213Tq14CTt949TM4AT84OT631Tg131T93b2T642",
  "T141Ti141T243T142TN41T1H8AN42L7AV48T9Am1TJ41T245T5AM46A3T1HQ45T1HW2Tu144T2A24GA2Tk1A1435",
  "1T255T45441T341TT42T354T159A7T9H7TT42A1HT43AW1T841LS4254T5A7H9Ts143T7HM42T8AJ45T8AI47T4H",
  "CT7Am2Tf24t1Tp10DTp117T6Aa14458TA86TA8441314M03T551C13M18T2Im6TVA1Tg141T251C2T24GT34t1T4",
  "5T4AA148TM4B54A5HMTI4454Hc1TL47AKTN49T161516r14F57H4TKAA8152425149T3516j14364526252H1Q4H",
  "15AT1Q2TP47TA86T35a145516851TA84H1426148TZ14152H149T2516m14369526444H451H1615A8141H143H1",
  "TKABTI41TP43635261516256H152415-1T741T141T441TF41TA41H6Tl141536855TA86T25261T842T242TM41",
  "T741T241T541T25142615462T262T362T146T165T54262T753T55BTA41T142T141Tc141T1436651T162T161T",
  "461T261516151415142H1T2H8T25TTr14368526351615445HA82H1T1H1534UTm143665161546251625241H14",
  "8TA8c5Tl1436452T46251625NH4425Y1Tm143685261516253H14BTA86TDHJTh1415161526651615141H6TA86",
  "TK8STR42T151615264516554TA82A3H1L74v5Ti14369516251Ha3TW10W11A89ACT842T142T841T241TO4661T",
  "262T25161514161416153H9TA8c2T842Td1436452T254615141H1416RT14A5e14651614458H158T14652635k",
  "14D516253H145HDTf247TAHs5TX141HETA86T941Tb1416751T651615145HATA8JA3T2HU42TM51T1675162516",
  "25f2T741T241Tc14653T151T251T7514158TA86T641T241TW14561T251T26151615147TA8s9TJ425262H7T25",
  "1416D41TY1426553T26151615DHA815r2T14FTLA8L4JHLDT1HwS4c3Tl391T5HBTa64io2TX342HDTmX14GQ156",
  "4F5ATxy345TdI4vr6TU4C53635A8cs1TvH47TV41TA84T2Hl241TA86TU42T551HATm14755H4L431H1LATA81T7",
  "A1TL45TJ4mDT33e14233HA8c6TW10W11NA4Hb3Th244T1514t167T45D3W2T231H1315BT26ETu_548Tsc14f1TA",
  "4dt8T431T731T231TZ94FT14TT342T14ET448TiC4ae2Th345TD43T947TA42T1L251H4Qyw3Tm7LA86TqDLi2Tk",
  "152TN59Tq3Ly1Ts7LATd1L2Ty1L26353L668Q852L75UL45z1LLTY2L351Lw3TKACTKACTt2L9TPAd4TQ0Q1Q071",
  "1TI1Q0Q1101T202T102T202T401T80411T111T711TB1Q0Q1201T402T801T701TQ1201T401T501T103T701TQ1",
  "Q0Q1Q0Q1Q0Q1Q0Q1Q0Q1Q0S12TP01IP11I61P01IP11I61P01IP11I61P01IP11I61P01IP11I6110112To18WGL",
  "t154Lo158L15EL152L5HFT551TF5mY1TA114K16T61r6T751TH52T751T251T555T-13X1T15m3Tj143T75732TA",
  "84T141LWATU415HTi1445A85T1JmETR41345A8s6TU42514A84T1HWFT741T441T241TF41Tb642T9A75f1TY10Y",
  "1175134TA84T2HnOTx1A1L3A1J4Ai2Tj1A1LFAY6T441TR41T241T142T141TA41T441T141T146T144T141T141",
  "T141T341T241T142T141T141T141T141T141T241T142T441T741T441T441T141TA41TH45T341T541TH4q1T2I",
  "k8Ti1L4Ta3LCTFL2TFL1TFL1Tb1LATDAX5Lu1TTLDTi1L4T9L7T2LET6Lw4Tx7L5KuML4THL3TDL3Tt3L4T_2L6T",
  "CL4T1LFTCL4Tu1L8TAL6Te1L8TUL2TCL4T2L-1TqALCTEL2TDL3TAL5Tu1L7TFL2TBL6T9L7Tp4L1Ty2LA8cW1TW",
  "tf14W1TwX446T-642TYq54ETnf74FTkJ4Yj2T-G4Yl1Thw445TWZ44nYtLT1QUTW3QW4Tm75mm_1T-__1S2T-__1",
  "S2T"])

def categoryOf (n : Nat) : Category := Category.all.getD (categoryRuns.valueAt n) .cn

def rangesOfCategories (members : List Category) : Ranges :=
  categoryRuns.rangesWhere (fun k => members.contains (Category.all.getD k .cn))

def categoriesNamed? (name : String) : Option (List Category) :=
  match name with
  | "c" | "other" => some [.cc, .cf, .co, .cn]
  | "cc" | "control" | "cntrl" => some [.cc]
  | "cf" | "format" => some [.cf]
  | "cn" | "unassigned" => some [.cn]
  | "co" | "privateuse" => some [.co]
  | "l" | "letter" => some [.lu, .ll, .lt, .lm, .lo]
  | "lc" | "casedletter" => some [.lu, .ll, .lt]
  | "ll" | "lowercaseletter" => some [.ll]
  | "lm" | "modifierletter" => some [.lm]
  | "lo" | "otherletter" => some [.lo]
  | "lt" | "titlecaseletter" => some [.lt]
  | "lu" | "uppercaseletter" => some [.lu]
  | "m" | "mark" | "combiningmark" => some [.mn, .mc, .me]
  | "mc" | "spacingmark" => some [.mc]
  | "me" | "enclosingmark" => some [.me]
  | "mn" | "nonspacingmark" => some [.mn]
  | "n" | "number" => some [.nd, .nl, .no]
  | "nd" | "decimalnumber" | "digit" => some [.nd]
  | "nl" | "letternumber" => some [.nl]
  | "no" | "othernumber" => some [.no]
  | "p" | "punctuation" | "punct" => some [.pc, .pd, .ps, .pe, .pi, .pf, .po]
  | "pc" | "connectorpunctuation" => some [.pc]
  | "pd" | "dashpunctuation" => some [.pd]
  | "pe" | "closepunctuation" => some [.pe]
  | "pf" | "finalpunctuation" => some [.pf]
  | "pi" | "initialpunctuation" => some [.pi]
  | "po" | "otherpunctuation" => some [.po]
  | "ps" | "openpunctuation" => some [.ps]
  | "s" | "symbol" => some [.sm, .sc, .sk, .so]
  | "sc" | "currencysymbol" => some [.sc]
  | "sk" | "modifiersymbol" => some [.sk]
  | "sm" | "mathsymbol" => some [.sm]
  | "so" | "othersymbol" => some [.so]
  | "z" | "separator" => some [.zs, .zl, .zp]
  | "zl" | "lineseparator" => some [.zl]
  | "zp" | "paragraphseparator" => some [.zp]
  | "zs" | "spaceseparator" => some [.zs]
  | _ => none

end DnsFilter.Unicode
