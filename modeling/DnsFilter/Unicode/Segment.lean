import DnsFilter.Unicode.Table
/-!
# Text segmentation

The classes of characters by which text is cut into grapheme clusters, words and sentences, in
version 16 of Unicode.
-/
namespace DnsFilter.Unicode

/-- A partition of the characters into named classes. The first class has the number 1, and what is
in no class has the number 0. -/
structure Partition where
  names : List (List String)
  runs : Runs

def Partition.named? (p : Partition) (name : String) : Option Ranges :=
  (p.names.findIdx? (·.contains name)).map (fun k => p.runs.rangesWhere (· == k + 1))

def graphemePartition : Partition where
  names := [["cr"], ["control", "cn"], ["extend", "ex"], ["l"], ["lf"], ["lv"], ["lvt"],
    ["prepend", "pp"], ["regionalindicator", "ri"], ["spacingmark", "sm"], ["t"], ["v"],
    ["zwj"]]
  runs := Runs.ofPacked
    (String.join [
    "A2152211I2_20X12D012oI0m33p8073d80j131013102310231013u1068A0B31012k10L3G013b307318106320",
    "231043X10181013U0R3x20B3w10939013O043109310331053h1033q10285093g10O318W131As10131A13103A",
    "834A132A1073A023T0132Au101310132A43202A202A139013A023Q01320231Au1013103A23402320333013U0",
    "233013B0231Au1013103A5310231A102A13K023M06310132Au101310231A43202A202A137033A023U013x101",
    "31A132A303A103A139013e10133A13t101310334A103310437023B023T0132Au1013101A231A132A10331043",
    "7023B023F01AC0232At102310132A43103A103A13188013A023T0132Ac201340132A331013107A13I02Az101",
    "3101A73C083Y3013101A93B073f2023R01310131013402An10E31A53102350B310a139013c30431A6310232A",
    "23N02A234033G043D013101A236013F013Y30W34e2Cu2BzA033oT043S033T023U023W20231A738A132AB3901",
    "3j10331213r3023Y1013s30334A233A402A136A33x60232A13v101A131A731013101320836AA32013m10V3n1",
    "0431Al10A34A33c1093C0231AU01A432A63u10131A233A131A53m108A832A23u403310D31A7340136013201A",
    "23c60W23hG012131D22O072n10G2W30X13-_2033j4013W30W13gH063f3023qkT04310A3W1023m2023m801330",
    "134013N02A231A4013p202Ao10GA23Q0I3D013c1083P0B31A13C0T430331Al10132A432A232A13a1013Z2063",
    "2A232A23C01380131Ak1013p10131033202350231013f101A232A501A13i702A132A132A101A13I016R716R7",
    "16R716R716R716R716R716R716R716R716R716R716R716R716R716R716R716R716R716R716R716R716R716R7",
    "16R716R716R716R716R716R716R716R716R716R716R716R716R716R716R716R716R716R716R716R716R716R7",
    "16R716R716R716R716R716R716R716R716R716R716R716R716R716R716R716R716R716R716R716R716R716R7",
    "16R716R716R716R716R716R716R716R716R716R716R716R716R716R716R716R716R716R716R716R716R716R7",
    "16R716R716R716R716R716R716R716R716R716R716R716R716R716R716R716R716R716R716R716R716R716R7",
    "16R716R716R716R716R716R716R716R716R716R716R716R716R716R716R716R716R716R716R716R716R716R7",
    "16R716R716R716R716R716R716R716R716R716R716R716R716R716R716R716R716R716R716R716R716R716R7",
    "16R716R716R716R716R716R716R716R716R716R716R716R716R716R716R716R716R716R716R716R716R716R7",
    "16R716R716R716R716R716R716R716R716R716R716R716R716R716R716R716R716R716R716R716R716R716R7",
    "16R716R716R716R716R716R716R716R716R716R716R716R716R716R716R716R716R716R716R716R716R716R7",
    "16R716R716R716R716R716R716R716R716R716R716R716R716R716R716R716R716R716R716R716R716R716R7",
    "16R716R716R716R716R716R716R716R716R716R716R716R716R716R716R716R716R716R716R716R716R716R7",
    "16R716R716R716R716R716R716R716R716R716R716R716R716R716R716R716R716R716R716R716R716R716R7",
    "16R716R716R716R716R716R716R716R716R716R716R716R716R716R716R716R716R716R716R716R716R716R7",
    "16R716R716R716R716R716R716R716R716R716R716R716R716R716R716R716R716R716R716R716R716R716R7",
    "16R716R716R716R716R716R716R716R716R716R716R716R716R716R716R716R716R716R716R716R716R716R7",
    "16R716R716R716R716R716R716R716R716R716R716R716R716R716R716R716R716R716R716R716R716R716R7",
    "16R716R716R716R716R716R716R716R716R716R716R716R716R716R716R716R716R716R716R716R716R716R7",
    "16R7C0NC40n1BYv8013XN0G3G0G3l6012-4023m20C2XG013Y7013r4053cq103310235043e10334013b5023zH",
    "043X2053z9023l2043c20B3n1043w301A131Ar10F3f10132023A0331Aj103A432A2320184013A018o1033a10",
    "531A83G02Ai1013C0231Am103A931A1310285043101A13y203A332A4360132013z40133A83L0232At1023101",
    "31A134A202A202A139013A02A20733053Z20132A631013201310331A102A331813E023o203A832A331A13N01",
    "3n20132A631A132A131A231A23h70132A43204A231A23R023o203A832A131A23g30131A132A83b30131A1320",
    "431A53W803A931A23r70135A102A2043181A181A13j403A4320234A13301AS0A3e10631A1843801390632A33",
    "e1068D31A23rC01A7310631A13o20M3101A731A231A23w30633013102310731813Y205A1023102A131A13xA0",
    "232A9023181Am102A53302A33N013rc50G21360F3ecB0C33A33Wk2053x1073iH01C304CaF01310t1A7043n20",
    "13B023hbJ0231042yo40k1320N3-G053306382832073U043q4033xz10t1340o138013E013M05310F3mg10731",
    "0H3207310231053a3013W5073tB013z1043yF043-7023WN073j3073xa20Q9xF053WWZO0W12W33W42m73mm32W",
    "Wy50"])

def wordPartition : Partition where
  names := [["aletter", "le"], ["cr"], ["doublequote", "dq"], ["extend"], ["extendnumlet", "ex"],
    ["format", "fo"], ["hebrewletter", "hl"], ["katakana", "ka"], ["lf"],
    ["midletter", "ml"], ["midnum", "mn"], ["midnumlet", "mb"], ["newline", "nl"],
    ["numeric", "nu"], ["regionalindicator", "ri"], ["singlequote", "sq"], ["wsegspace"],
    ["zwj"]]
  runs := Runs.ofPacked
    (String.join [
    "A0192D12I01H1013401G401B101C10AE1A1B50Q1401510Q1A01Da101120167011101A201150N110V110WF160",
    "Y11m3451102120411B1160111A31101110K110p2110h411074c5110c11204110111Af111B1160j1410141024",
    "1024101480R74047111AB066602B20B4101630h11L4AE101E1B102114Z311011741610642124104421AE3120",
    "11F0161114U1R420v21B411E0AEX119421201B1011201420M144119411341154I0P13440B150O11061102650",
    "94g11O416X14s113411I41174A12420AE10G1341081202120M11071101130412014117420242034118014402",
    "110312420AE21A011101420341061402120M11071102110211021201410544024203430147041101170AE243",
    "114B0341091103110M110711021105120141184103410342011F0212420AE90116410341081202120M110711",
    "021105120141174202420347034402110312420AE1011G014111061303110413021101110213021303130C14",
    "0543034104420116014E0AEG05481103110N110G1201411741034104470241031201120212420AEG01134108",
    "1103110N110A1105120141174103410447024602110212420AE102114C04491103110f112411741034104411",
    "50311470312420AEA061103410I130O1109110112071301440641014108460AE2024z10142074C08410AEt20",
    "142094B07410AEc1011N02460AEB0141014101440248110a1140K4102451B410a149014a30K410AEC0444034",
    "103420743044D0C41014AE4420c111011501120h1110jA1104120711011104120f11104120X1110412071101",
    "1104120F110v11104120Z212034W10G1G0s21206130iJ120H11HQ150h2130B170I14490J134B0I124C0D1103",
    "11024W20W14901420AEX10341614AE60v21705124Y11141150c21A0V110C440C4A0AEW40AEc10N154v10A410",
    "T42014AE60AEM0V4n1054l11H48130AEH094C034U1D421AEi11E4C0a11K480AE3031AEa1120B150h112031G0",
    "3410L44114611421341150W61W24s81206120c112061208110111011101110V120r111071101130311071304",
    "1206140D150311071307H103H10141I26802CA01C201A2D5615F025301BF015A01H5610A61011D011G0D1p10",
    "X14H011401120A110113051601110111011104110B1204150514011H0f11jP0q11su10b7160413421C0c1110",
    "11501120u117011F014N19071107110711071107110711071107110W14l1011mE01H4011a106410585021y20",
    "242830x28104850h1110-21H0W11m10G8m60l1810u28ebR0ja11Z20k1120j8130G1AE21K0l114410A410V124",
    "m2124M0c61202110111081L0G11431144114N1544014J0q11C024o11I4A0AE60I4613011102114AES18420N1",
    "D4C0T13044l11E4E011AEB014A0AE60f11E4903114812420AEX1034o10141034202450241014U0B154203124",
    "A061206120619071107110w1160p3184102420AE60azA1C0N140n11au8071C051501714A710D710571017102",
    "7102710A7Y31X10hB1I0W2120s11e10C140G41B201A1BB0G43025O0351B101C101B1AQ05110d412016701C40",
    "1B101C10AE1A1B50Q1401510Q1B0u1824V13061206120612031S03640C110Q110J1102110F120E1Y10x31b20",
    "r11e4014Y40T130n11F014V0W11D0U150c115450U120a1140811051g10-4120AE60a1140a1140e1180q11C0B",
    "110F11071102110B110F11071102130q11C0t9190M1A081O06110g111091b2061201110i111021301120N1A0",
    "N190V1X20J11021A0M1A0Q1c20u116021W2011341024504441103110T120344014W10T130T1Z108110S124P0",
    "s11A0M1A0J1D0I1k30f21t10p11D0p11D0a114480AE60AES1305410N1w70g1110243021G031t1044T1A01180",
    "M1B4V0I144g10L1R0N19034r11F4V0AE142124119044j11B420164014A01620P170AE6034a11E410AE401124",
    "1180Z111420119034m11E44140441024AE111011Z10I110P1C460142114-10711011104110F110A170l11C45",
    "0AE60441081202120M110711021105110241174202420342011601450512420743054B0A11011201110c1110",
    "11941014201410441054111411D024T0r11I44150AE401431U0m11K421101180AEc50l11742094N04124Y10m",
    "11H43011B0AEc10h11D41170AE60KEv10F440AEc60i11F4b30W21AEL08120112081102110O16410242044111",
    "41124C0AEc208120d1174207411101114R011A4e1174114480148011B4k11G43011I0f21d60X11F0AE609110",
    "b1184108411F0AEO0U120M410E4f2071102110c1164301410241074111480AE6061102110W11541024105411",
    "70AEs90J14490241114D110Y11743054D0AE14r2011l20wS1c30l31H0a61io20X31F0mX11G61461F4A0xy315",
    "0dI1vr60U1I4AEcs10vH170V110AE60l2110AE60U12054B0m11749041C0AE90L150J1mD0j1130AEc60W21W40",
    "h21401411t147044D1W2021101114B024-_F048107810281018_8038o1018E048uq20h3150D1309170A13024",
    "1046iY40AEcG0k1420N4-G054306486842074U044q4034xD0r2110d21102120112021204110C11011107110X",
    "2110412081107110S1104110511011307110qA120P110P110V110P110V110P110V110P110V110P1108120o1E",
    "WG0t1440o148014E014M05410F4mY10V16061r607410H420741024105450-11X1014m30j1130747120AE4011",
    "XA0U114H0i1144AEsE0S144AEs60U12411AEbF0711041102110F110b61B074f10a21741140AEcb104110R110",
    "211011201110A110411011101160114011101110111031102110112011101110111011101110211011204110",
    "7110411041101110A110H15031105110H1qJ0Q160Q160Q1y20QFxF054m_10AEdWXO016U0W34W40m74mm_50"])

def sentencePartition : Partition where
  names := [["aterm", "at"], ["cr"], ["close", "cl"], ["extend", "ex"], ["format", "fo"], ["lf"],
    ["lower", "lo"], ["numeric", "nu"], ["oletter", "le"], ["scontinue", "sc"],
    ["sterm", "st"], ["sep", "se"], ["sp"], ["upper", "up"]]
  runs := Runs.ofPacked
    (String.join [
    "901D162D12I01D1B134033202A1110A81A401B10QE13101330Q7131013701CQ01D9017131015701740171340",
    "NE107EO710871E171E171E171E171E171E171E171E171E171E171E171E171E171E171E171E171E171E171E17",
    "1E171E171E171E171E171E171E171E171E271E171E171E171E171E171E171E171E271E171E171E171E171E17",
    "1E171E171E171E171E171E171E171E171E171E171E171E171E171E171E171E171E171E172E171E171E372E17",
    "1E172E173E274E172E173E372E172E171E171E172E171E271E172E173E171E172E27191E37492E172E172E17",
    "1E171E171E171E171E171E171E171E271E171E171E171E171E171E171E171E171E272E171E173E171E171E17",
    "1E171E171E171E171E171E171E171E171E171E171E171E171E171E171E171E171E171E171E171E171E171E17",
    "1E171E171E171E171E772E172E271E174E171E171E171E171Eb2719a17792740C9E05770191019H0m341E171",
    "E1719101E172047101E601E103E101E102E17HE109EZ171E273E371E171E171E171E171E171E171E171E171E",
    "171E171E171E571E17101E172E27p1Em171E171E171E171E171E171E171E171E171E171E171E171E171E171E",
    "171E171E171E1710741E171E171E171E171E171E171E171E171E171E171E171E171E171E171E171E171E171E",
    "171E171E171E171E171E171E171E171E171E172E171E171E171E171E171E171E271E171E171E171E171E171E",
    "171E171E171E171E171E171E171E171E171E171E171E171E171E171E171E171E171E171E171E171E171E171E",
    "171E171E171E171E171E171E171E171E171E171E171E171E171E171E171E171E171E171E171E171E1710c1E2",
    "019301A20f171B70j14101410241024101480R94059C065602A20B410153Bh19L4A81028102914Z391B19741",
    "510642924104429A83920193BC0151914U9R420v29B419E0A8X199429201A1B19201420M9441994193419549",
    "01B101B302B10P93440B950O9106910255094g19O415X14s193419I41974A9242BA810G9341089202920M910",
    "79101930492014197420242034198014402910392420A829A019101420341069402920M91079102910291029",
    "201410544024203430147049101970A8243914B0341099103910M910791029105920141984103410342019F0",
    "292420A890196410341089202920M910791029105920141974202420347034402910392420A81019G0141910",
    "69303910493029101910293029303930C940543034104420196014E0A8G05489103910N910G9201419741034",
    "104470241039201920292420A8G019341089103910N910A9105920141974103410447024602910292420A810",
    "2914C04499103910f19241974103410441950391470392420A8A069103410I930O9109910192079301440641",
    "014108460A82024D0m1914297450798410A8d10291019105910O9101910A91429941920591019107410A8204",
    "9W1019N02460A8B0141014101443248910a1940K4102459B410a149014v10h19K419A82B4069444934193429",
    "743944D9C41914A84420c1E101E501E20h191017iA9104920791019104920f19104920X19104920791019104",
    "920F910v19104920Z292034201B402BN0G9G0s2E206730iJ9101BH91DQ92330h2930B970I94490J9342B90I9",
    "24C0D910391024C0q19W14301940191420A8O01A1B401A1B10341514A860v29705924Y19141950c29A0V910C",
    "440C4802BA8U92059B0i1940Q960A8c10N95440r19A410T42014A860A8D0194B40V4n1054l19H489102BA82B",
    "202BB094903B34U9D429A8i19E4C0a19K4302B30A83039A8a192B971E1750h192039G03410L4491469142934",
    "1950W67W241E171E171E171E171E171E171E171E171E171E171E171E171E171E171E171E171E171E171E171E",
    "171E171E171E171E171E171E171E171E171E171E171E171E171E171E171E171E171E171E171E171E171E171E",
    "171E171E171E171E171E171E171E171E171E171E171E171E171E171E171E171E171E171E171E171E171E171E",
    "171E171E171E171E171E171E171E171E171E171E171E971E171E171E171E171E171E171E171E171E171E171E",
    "171E171E171E171E171E171E171E171E171E171E171E171E171E171E171E171E171E171E171E171E171E171E",
    "171E171E171E171E171E171E171E171E171E171E171E171E171E171E171E171E978E67206E20878E878E6720",
    "6E2087101E101E101E101E878EE720878E878E878E5710275E1017303710275E304720274E40875E50371027",
    "5E30BD152425302A30834011302C551D9023102B70233BL01D5510A51017B02317D02310D7p10X14H01E401E",
    "20173E273E17101E305E601E101E101E104E10174E17491720272E501E474017H0GEG7391E1749_B043T023h",
    "C0QEQ7nJ06370E3l2023V0A3pC0M3_1043W1023YG0m1Em171E173E271E171E171E174E171E271E873E171E17",
    "1E171E171E171E171E171E171E171E171E171E171E171E171E171E171E171E171E171E171E171E171E171E17",
    "1E171E171E171E171E171E171E171E171E171E171E171E171E171E171E171E171E171E171E171E171E171E17",
    "1E171E171E171E27601E171E17341E17C0c171017501720u197019F014N99079107910791079107910791079",
    "107910W14E3E02320A3401B19C01B5013G02B83ZD01D1A1B2039A3208310331099641059205940s292024203",
    "910w29104950h1910-29H0W19m10G9WG0Wk69W20jqL9Z20k19101Bj89102BG9A829K01E171E171E171E171E1",
    "71E171E171E171E171E171E171E171E171E171E171E171E171E171E171E171E171E171E17194410A410191E1",
    "71E171E171E171E171E171E171E171E171E171E171E171E171E3724m2924101B301BV099201E171E171E171E",
    "171E171E171E371E171E171E171E171E171E171E171E171E171E171E171E171E171E171E171E171E171E171E",
    "171E171E171E171E171E171E171E171E171E171E171E171EA71E171E172E171E171E171E171E1719201E171E",
    "17191E171E371E171E171E171E171E171E171E171E171E171E175E175E171E171E171E171E171E171E171E17",
    "4E171E172E17201E17101710171E171E171E171EL0371E171937791439144914N9544014J0q19202B8024o19",
    "I4802BA860I4693019102914A8S984101BN9D4C0T93044l19E4702B5019A8605914A9A85910f19E490391489",
    "2420A8303BN9301934o1914193429245924191419O03920B9542B3924A069206920699079107910h1710E760",
    "m27Z19841B2420A860azA9C0N940n19ae80kB920g39c1077C057501914A910D9105910191029102910i39X10",
    "hB923G0W2920s19e10C940G42A101A302370G4102A20G32023702A11201A2B1A63401AC05910d492015101B6",
    "023202A1110A81A401B10QE13101330Q713101310231B231A10u1924V93069206920692039S03540C910Q910",
    "J9102910F920E9Y10x39b20r19e4014Y40T930n19F014V0W19D0U950c195450U920a1940891059g10e1Ee17k",
    "2920A860a1E40a1740e1980q19C0BE10FE107E102E10B710F71077102730q19C0t9990M9A089O017293710g1",
    "71097b2069201910i191029301920N9A0N990V9X20J91029A0M9A0Q9c20u196029W201934102450444910391",
    "0T920344014M02B80T930T9Z108910S924P0s19A0M9A0J9D0I9k30f29t10p1ED0p17D0a194480A860A869ME3",
    "0541019M7w70g1910243029G039t1044T9A01980M9B4405BM0I9444Bc10L9R0N99034r19F42BT0A814292419",
    "9044j19B420154B14A01520P970A86034a19E410A8103B19241980Z191420199034m19E4492B20441B24A819",
    "1019102BW10I910P9C42B102B10142914-10791019104910F910A91B60l19C450A860441089202920M910791",
    "029105910241974202420342019601450592420743054B0A91019201910c1910199410142014104410541914",
    "192BB024T0r19I4492B30A8401439U0m19K429101980A8c50l19742094102B50FB4924Y10m19H42B1019B0A8",
    "c10h19D41970A860K8S0R920F440A8203B1079v50i19F4b30W1EW17A8L08920192089102910O964102420441",
    "91419241B101B90A8c208920d1974207419101914R019A4e19741944302B30148019B4k19G4102B19I0f29d6",
    "0X19F0A8609910b19841084192BD0A8O0U920M410E4f2079102910c1964301410241074191480A8606910291",
    "0W1954102410541970A8s90J9442B70241914D910Y197430542BB0A814r2019l20wS9c30l39H0a69io20X39F",
    "0mX19G51469F4A0xy3950dI9vr60U9I4A8cs10vH970V910A8402Bl2910A860U920541BA0m19742B70491BB0A",
    "890L950J9mD0j19102BA8c60W1EW17O01Bd30h29401419t147044D9W2029101914B024E0u_5980sc19f10A9d",
    "t80491079102910Z99F019T0392019E04980iC9ae20h3950D9309970A930241B45iY40A8cG0k1420N4-G0543",
    "06485842074U044q4034xD0QEQ7QE7710I7QEQ71E102E201E202E204E108E471017107710B7QEQ72E104E208",
    "E107E10Q72E104E105E101E307E10Q7QEQ7QEQ7QEQ7QEQ7QEQ7QES720PE10P71067PE10P71067PE10P71067P",
    "E10P71067PE10P710671E1720o18WG0t1440o148014E014301BI05410F4mY10A719K76067r607410H4207410",
    "24105450-17X1014m30j1930747920A84019XA0U914H0i1944A8sE0S944A8s60U92419A8bF0791049102910F",
    "910b69B074f10Y1EY17741940A8cb104910R910291019201910A910491019101960194019101910191039102",
    "9101920191019101910191019102910192049107910491049101910A910H95039105910H9qJ0QE60QE60QEid",
    "1033th10A8cW10Wtf19W10wX4960-6920Yq59E0nf79F0kJ9Yj20-G9Yl10hw4950WZ49nYtL015U0W34W40m74m",
    "m_50"])

end DnsFilter.Unicode
