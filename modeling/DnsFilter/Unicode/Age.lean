import DnsFilter.Unicode.Table
/-!
# Age

The version of the Unicode standard that assigned a character.
-/
namespace DnsFilter.Unicode

def versions : List String :=
  ["1.1", "2.0", "2.1", "3.0", "3.1", "3.2", "4.0", "4.1", "5.0", "5.1", "5.2", "6.0",
    "6.1", "6.2", "6.3", "7.0", "8.0", "9.0", "10.0", "11.0", "12.0", "12.1", "13.0",
    "14.0", "15.0", "15.1", "16.0"]

/-- A version by its number, or by its number with `v` in front and no point. -/
def versionNamed? (name : String) : Option Nat :=
  versions.findIdx? (fun v => v == name || "v" ++ String.ofList (v.toList.filter (· ≠ '.')) == name)

def ageRuns : Runs := Runs.ofPacked
  (String.join [
  "sF043U0831516I336B7E8v205326l1013A053H6c2093158657362013D54920292S1038101F4S701S101SK01S",
  "i10197013251013101310131013I02415564713C013Y2013C013f1019232543r10252025202518S023802720",
  "68G548G92A2B8F1Sc102S701Jd101J10132S2F1C1SH117D1A0189011378SR04S1J50BS461C1F591710965910",
  "1E1N17101BQ059J03336671BE025e20235013F013U026A05316E31SU336R32S36U7I9n1315ESx182S3Jk1A2S",
  "FA1SSB2S1B1SBI5SVN1R2N5S1Q8N1C1FBC6F2G1N8HAMBN1JFH1GRC1F1A3016r102BI01A1B501A2BP0295B1F2",
  "A2817281F301S802S202SM01S701S103S402S1016702S202S30178S104S201S502SL01A2I1J2S1610161S604",
  "S202SM01S701S201S201S202S101S504S202S303S197S401S107SF0191JAS301S7016101S301SM01S701S201",
  "S502SA01S301S302S10FS10362SA01C167S1G6I1S301S802S202SM01S701S201S16402S80192S202S307S1M2",
  "04S201S30292SB0166BAS201S603S301S403S201S101S203S203S303S8017304S503S301S402S196S10ES17C",
  "0865S1F301J801S301SN01SA01F502S1N19701S301S407S201S291G1S1R1N2S20292SA07S1K891H1F201J801",
  "S301SN01SA01S502S26701S301S407S205S1R1N101S20282SA01S281OCS1I1F201M801S301SN01BG01B2I196",
  "0191S301S401B1H4S3H107H1G20292SA0693H791S1M231SI33SO31S931S132S733S134S631S131S836SAF2S3",
  "3CSw104ST0b1S201S101S1K201K101S1K106K401K701K301S101S102K201KD01K302S501S101S601O1SA02S2",
  "02CW1Se211SX1113294SR14B6113111SL133711311331SF31S191327394A2Bb1SY13195319231973394369Q3",
  "W294A29c101S1C5S1C2Sd10252710173Cw205Aa205Ao206A7317_1317131S432S731S131S432Sd1317131S43",
  "2SV317131S432S731S131S432S7317731SN317V317131S432S7317d1317J32S2B27S33SQ76Sr231G2S6G2S1A",
  "sJ39AT33Sn238F7SD51N751N9S1NN59SK5CSD51S351S25CSz23162SA36SA66SF31NA36Su231J7Sg13195Sc2A",
  "AST62F1SC64SC64S163Sg162S56BSg172A4SQ76SA71A3S27W16S72S27_1A1STA2SBA6SAA6SEA2SFF2MENFR2S",
  "CRKSi281N1S2Qj182N1Qh193CC96Cq1B8S4Bu193SF93Sp199H2Q5Sh1J2S3J8C8SZ1A4C1I2F1K5Si36u2778S9",
  "FF4I1N1H1B1A28x401149w2069M02S602Sc102S602S801S101S101S101SV02Sr101SF01SE02S601SJ02S301S",
  "901Sl1013N01563552627157755191S4E70152SR01S578B3SB011123325473A1B1D3F1G1I1N1RESI02375174",
  "819FSv10231617F51728193Am101318491A2G4Sx2093C5o70E51013v301315U3q1526B7C81ABB7F4H1Ib1023",
  "3QMSB0LSh40K516s40A5m208385K026251713s2023C527A586B7192A26G718A93A49AA1BJA1B1A4BOA1F401B",
  "402BS01BZ101B101B403B101A702B70E5V03BO01BE01B77481C191C2BS549G5W83WG5E667785948f193F595A",
  "QF2SW1F1R1MY1F3JCF1K8F1IPJ4GFJ1Kl171Nl171ND8391A3948692Ah377A2C5Sj171S1C5S1C2Ss172C7S171",
  "BES1BN79S771S771S771S771S771S771S771S771SW19O74927J91AAC7F2H5I5J1K3MBNY1SQ31Sv23CSs63QSC",
  "34Pu10333513101Sq20252S6025-20155Se10191I1J1S-201SG0O33B5MG7K92Q9S1PG5T0261Sa10CA16F5S02",
  "617o10F5C046l101Lt3046Z3026V016sj63AMW26cjK0M7898A1C9GLI5JDM3Nja133SI325G315C3153315139S",
  "m1Ai99KSW192BI98CS96F1G1Cu2A8SN7485928h392B1G2B2CCFAB1C3F1H1J2F6G2J6K2N5K4M3Q2R2N1R1N1R5",
  "N3QKS1R3N2M1F2C1B59i171M3SAA6Su188Sb291H8SC96SSA2G2Jq29BS19TA3Sk2A1SBA4S2AVF1St199SE92SA",
  "92S49SA4FZ2AOS5ANCAS6B2S6B2S6B9S7B1S7B1Sm1F4G2F2K4M4Sm2Gk1A2SAA6SazA1CSNA4Sn1A4SWW21kn60",
  "2Cx153A2Sg37c1S70CS505S13P01S501S101S201S201Si30GB1NGRjB0GNW202Rs107R1NW14C015162NG5A76S",
  "40397F2GL02526A01SJ01S404S3015101Sd402S101S-2025-203S602S602S602S303S701S70AS331230C61SQ",
  "61SJ61S261SF62SE6Y1Sx365S364Sj163S96h272F2H1SC91M3S1Fl1Sk19Y4ST93Sn19FSSF4SV41F449S3IR45",
  "Sh1F5SU61S16a174SE7g1Sc1426c14m262SA66Sa1H4Sa1H4Se1F8Sq1FBS1FBN1SFN1S7N1S2N1SBN1SFN1S7N1",
  "S2N3Sq1QCSt9F9SMFAS8FOS6N1Sg1N1S9Nb2S662S161Si161S263S162S16MA1S9A_1F8S9Fm1SJG1S2G5S5GQ8",
  "2A3S18Q95S19QRc1Su1C4S2G2CGG2Sk1G471S275S871S371SR72J2S374S971J7S977SW1AW1FW1Sd1F4SCF9Ss",
  "1A3STA2SRA5S8AIF7S4FCS7Fm2Sf2At1Sp1GDSp1G7S6Ge1J8SAJ6Sc1Q3STQ8S2Qm6SVA1Sg1M1S3M2S2MGS3Q3",
  "R8S9RX1S2R1Q3Oe1J8Sg1JMSQNc1SSMKSNK9Sk2B4SUB6N9S1FY2A1NAS1J2SPC7SAC6Sr1C1SEC3J1M8Sd1F9Sf",
  "2C4G1F2MAC1F5G1SKFBSIF1Sh1F1H3O-1S7G1S1G1S4G1SFG1SBG6Sx1F5SAF6S1G3F1S8F2S2F2SMF1S7F1S2F1",
  "S5F1S1J9F2S2F2S3F2S1G6S1F5S7F2S7F3S5FBSAQ1S1Q2S1Q1Sc1Q1SAQ1S1Q2S1Q1S4Q1SAQ1S2Q8S2QTSw2H1",
  "M1H1S1H1J1K2MUSe2F8SAFc5Ss1F2SIFKGY1Sb2FBSAF6SDHJSu1C1K1N6SAC6SKQSSQG1J2SFG4SGG7Nv5Sy1Ja",
  "3Sp2FCS1F7M2S1M2S8M1S2M1SUM1S2M2SCM9SAMc2S8K2Sk1K2SBKRSe2I8Sq1I2KNI1J5IDSGNv1F7SAOs2S8Ru",
  "2SY1QESAQ6S9H1Sj1H1SEHASTH3SW1H2SMH1SEHf2S7I1S2I1Si1I3S1I1S2I1S9I8SAI6S6J1S2J1Sb1J1S2J1S",
  "6J7SAJ6Si1R4SARs7SPJ7SHO1Sf1O3SSO1Qr2S1MFSo1KDS1KlR8g1F1Gc3SZ38CF1S481FBSa6Gio2SZ3NDSlX1",
  "A1O9KTOASxy3Q5SdIGvr6Sw1Qcs1SvHB7SVF1SAF4S2Fl2N1SAN6SUF2S6FASc2FASAF1S7F1SLF5SJFmDSw1Qc6",
  "Sx2J5SPR2SPRi1Sb2C6K4S1Kl1C9K7SHCW2S1H1I2K1MBS2M5R9Sj_5H5J6K8RpNHZFMf1S1Q9MMRX3Sp3Rzl8S4",
  "N1S7N1S2N1S2Bz8I4NFS1OTS3K2S1OES4K8SiCIae2Sh3F5SDF3S9F7SAF2S8Fyw3Sw7Q3R3SqDQ6SNRFSHRFSk1",
  "N2SNN9Sq3Ny1Ss74ASd142S19q54BG2NLSc27w3SKOCSKJCSt269SI87Jd4Sr241Sd241S242S142S242S441SC4",
  "1S141S4416241SX241S442S841S741SS41S441S541S143S741SoA4272SY94282So14iKGFS5G1SFGmY1SVN6S6",
  "Or6S7H1SHH2S7H1S2H1S5H5S-1OX1S1Om3Sj1K3SEK2SAK4S2KWASVNHSw1K5S1KmESg1Os6Sh1Q4S1QW6SVR1SM",
  "R8S2RW7S7N1S4N1S2N1SFN1Sb6F2SGFf1Sh2H1K4SAH4S2HnOSa2Ji2Sz1KY6S4C1SRC1S2C1S1C2S1C1SAC1S4C",
  "1S1C1S1C6S1C4S1C1S1C1S1C1S3C1S2C1S1C2S1C1S1C1S1C1S1C1S1C1S2C1S1C2S4C1S7C1S4C1S4C1S1C1SAC",
  "1SHC5S3C1S5C1SHCq1S2Ck8Si194Sa39CSFB2SEB1F1SFB1SFBMFASBA2F3MVA1J1B1ABB1A1B1A2B1A3B1A3B5A",
  "8B1A7B1AAB2C1K3M9B1A1B2A2B1AAB4A2B1AABIH1Mu1SQB1A2BDSY1A9B1H4S9A7S2BES6Iw4SX1BCF3G6B1Fc2",
  "B1F2GKBCFb1B1F5B4F5GCFHB7F8G_1B1F1B1Fs5B1F4B2F1G-1B2F4C7F5GOBIF1Hf1F1Hs2F5B1CGB1C3B1C1B1",
  "C1B1C1B1C3B1C6B2C4B1C1B2C4B1CCB2F2GBBm1Fc2BAF1G2H2I1K2M1R3S1O3NDF3S4F3H2I1J1K2M3Sq3B3O4R",
  "5Or2F4J1O6SCK4S1NFSCF4Su1F8SAF6Se1F8SUF2S2MAQ4S2QES9Rd1SCI1M3K9G6H1I8H8I1H2ICH1KCH1I3JFH",
  "DI5J1K1M4J2M1N1J1K4J5GDH6IBJ2M6K3M2KAJ6K1G2J8K1M1N3KNIPJq2K4R8SEJ2S4K1M3O3K2N3S3K4M2O1Q1",
  "R3S1R1Q6KJM4N3O7M4N3O1Q1O3M3N1Q1S1R4S1R2O7M3N2O1Q2S1Q8N1O1Q1R4S1R7N2O7Sp4M1St1Mb1QAM1RZW",
  "1S21tsf147M2NW1SrX4A4N1O6R-6B2SYq5GCR2Snf7IFSkJPYj2S-G4Wl1S21hw4M5SWZ4Ogc4Rayo1S21-__1S2",
  "1-__1S21-__1S21-__1S21-__1S21-__1S21-__1S21-__1S21-__1S21-__1S211S14USW34W4Sm76km_1SYWW4",
  "1"])

/-- The place in `versions` of the version that assigned `n`. The version after the last one there
has the next number, and what is not assigned has a number beyond. -/
def ageOf (n : Nat) : Nat := ageRuns.valueAt n

def rangesUpTo (version : Nat) : Ranges := ageRuns.rangesWhere (· ≤ version)

/-- Whether the version after the last one in `versions` assigned `n`. -/
def isNew (n : Nat) : Bool := ageOf n == versions.length

/-- The marks without a width of their own that this version assigned. -/
def newMarks : Ranges :=
  #[(0x1ACF, 0x1ADD), (0x1AE0, 0x1AEB), (0x10EFA, 0x10EFB), (0x11B60, 0x11B60), (0x11B62, 0x11B64),
    (0x11B66, 0x11B66), (0x1E6E3, 0x1E6E3), (0x1E6E6, 0x1E6E6), (0x1E6EE, 0x1E6EF),
    (0x1E6F5, 0x1E6F5)]

end DnsFilter.Unicode
