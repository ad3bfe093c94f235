import Linewatch.Unicode.CharTable

namespace Linewatch.Unicode

/-- The general categories of Unicode 17. The surrogates have a number of their own, which no name
selects: they are not characters. -/
def categoryRuns : RunTable := .ofText
  "VP0M2H0J2H0D0E0H0I0H0C1H981H2I1HP00D0H0E0K0B0KP10D0I0E0Ib0P0M0H3J0L0H0K0L040F0I0Q0L0K0L0I1A0
   K011H0K0A040G2A0HM00I60N10I71000100010001000100010001000100010001000100010001000100010001000
   10001000100010001000100010001000100010001000100110001000100010001000100010001001100010001000
   10001000100010001000100010001000100010001000100010001000100010001000100010001000110010001002
   11001000110012011300110012021100110010001000110010011000110012001000110110400213400020100020
   10002010001000100010001000100010001001100010001000100010001000100010001001100020100012001000
   10001000100010001000100010001000100010001000100010001000100010001000100010001000100010001000
   100010001000100010061100110110001300100010001000100c4114P1H33KB3DK436K030K03GKdF500010001030
   K00011S03210H003S1K000H200S000S1001G00S80b21001120210001000100010001000100010001000100010001
   0001004100010I00011011bI0bF10001000100010001000100010001000100010001000100010001000100010001
   00010L45170001000100010001000100010001000100010001000100010001000100010001000100010001000100
   01000100010001000100010001100100010001000100010001001100010001000100010001000100010001000100
   01000100010001000100010001000100010001000100010001000100010001000100010001000100010001000100
   010001000100010001000100010001000100010001000100010001000100010Sb501S035Hb810H0C1S1L0J0SbC50
   C050H150H150H057SQ43S341HAS5Q2I1H0J1H1LA50H0Q2HV40394K5983H1405d240H04650Q0L5513150L35149824
   1L04DH0S0Q0405T4Q51ScO4A504DS98b0485130L2H031S051JL4350385032503451SEH0SO4251S0H0SA44SN40K64
   1Q4S85b8403N50QV506bL4050605042675360516046594151H980H03E405160S741S141SL40S640S042S341S0504
   26351S161S1605047S063S140S24151S98141J5A0L0J040H051S15060S543S141SL40S640S140S140S141S050S26
   153S151S252S056S340S046S981524050H9S15060S840S240SL40S640S140S441S050426450S15060S16051S04ES
   14151S980H0J6S04550S05160S741S141SL40S640S140S441S0504060506351S161S16056S15063S140S24151S98
   0L045A9S05040S542S240S342S140S040S142S142S242SB43S1605162S260S26051S045S06DS982A5L0J0L4S0526
   05740S240SM40SF41S050425360S250S356S150S240S141S14151S986S0H6A0L0405160H740S240SM40S940S441S
   05040605460S05160S16156S164S240S14151S980S1406BS1516840S240Sb84150426350S260S2605040L3S24066
   A24151S988A0L540S05160SH42SN40S840S041S642S053S26250S050S765S981S160HBSbF40514653S0J5403750H
   981Hb4S140S040S440SN40S040S94051485041S440S030S650S981S34VS042LEH0L0H2L155L989A0L050L050L050
   D0E0D0E16740Sb343SD506450H1544A50Sb350S7L055L0S1L4H3L1Hb4SbA4163506550615161504985H541615342
   5042614662435C4051615560504069826051Lb500S004S001SbA10H0321k840S341S640S040S341Sb840S341Sb04
   0S341S640S040S341SE40SbO40S341Sc241S258HJA2SF49L5ScL01S511S0CtB40L0HG40MP40D0E2ScA42H29746SH
   425068SI415061H8SH415BSC40S240S15BSbJ4150665760516A52H032H0J04051S985S9A5S5H0C3H250Q05985Sb2
   403bK46S4415b1405044Sc549SU40S253615263S160556253S0L2S1H98T41S44ASbB43SP45S980A2Sb1LM4151605
   1S1HbK4060506650S050605167556951S05985S985S6H035H1SD507U51SB5JS3506bE40506450605460516740S1H
   986H9L858L2H1506T40635161506251498bB405061526050625167S3Hb34767516152S4H982S2498T4531H810001
   4SbA01S207H7S250HC5066534055405140615044SbB1bU3C103b11b43bV500010001000100010001000100010001
   00010001000100010001000100010001000100010001000100010001000100010001000100010001000100010001
   00010001000100010001000100010001000100010001000100010001000100010001000100010001000100010001
   00010001000100010001000100010001000100010001000100010001000100010001000100010001008100010001
   00010001000100010001000100010001000100010001000100010001000100010001000100010001000100010001
   00010001000100010001000100010001000100010001000100010001000100010001000100010001000100010001
   008170511S501S71707170511S501S710S000S000S000S007170D11S717271727172410S1130020K012K210S1130
   022K311S11300S2K71402K1S210S1130021K0SAM4Q5C1H0F0G0D1F0G0D0F7H0N0O4Q0M8H0F0G3H1B2H0I0D0EAH0I
   0H0B9H0M4Q0S9Q0A031S5A2I0D0E039A2I0D0E0SC32Sb1JDSC5370527B5ES1L003L001L01201120010L001L0I405
   L000L000L000L300L01300134011L11104I00310L0I1L010LFAb290001390A1L3S4I4L1I3L0I1L0I1L0I6L0IUL1I
   1L0I0L0IULiBI7L0D0E0D0EJL1I6L0D0EcGL0ITLOIb7L5Ic7LLSALKSbRAcDLLAfML0I8L0IbLL7IdEL0IhNL0D0E0D
   0E0D0E0D0E0D0E0D0E0D0ETAbBL4I0D0EUI0D0E0D0E0D0E0D0E0D0EFIhVLe2I0D0E0D0E0D0E0D0E0D0E0D0E0D0E0
   D0E0D0E0D0E0D0EbUI0D0E0D0EVI0D0Ei1IbFLKI1L5Ib6L1Se9LbF0bF10001201100010001000130010011005113
   20010001000100010001000100010001000100010001000100010001000100010001000100010001000100010001
   00010001000100010001000100010001000100010001000100010001000100010001000100010001000100010001
   00010001000100115L000100012500014S3H0A1Hb510S014S011SbN46S030HDS05M48S640S640S640S640S640S64
   0S640S640SV51H0F0G0F0G2H0F0G0H0F0G8H0C1H0C0H0F0G1H0F0G0D0E0D0E0D0E0D0E4H039H1C3H0C0H0DCH1L2H
   0D0E0D0E0D0E0D0E0Cb1SPL0ScOLBSgLLPSFL0M2H0L0304090D0E0D0E0D0E0D0E0D0E1L0D0E0D0E0D0E0D0E0C0D1
   E0L8935160C431L2903040H1L0ScL41S151K13040CcP40H23044SbA40ScT40S1L3A9LV4b5L8S0LF4UL0S9ATL7A0L
   EAVL9Ab6LEAjVLgnV4bVLuqK403bdM42SbML8Sb74531HiB4032HF49814JS00010001000100010001000100010001
   0001000100010001000100010001000100010001000100010001000100010405270H950H03000100010001000100
   010001000100010001000100010001000100011315c5499155H7SMK831K000100010001000100010001002100010
   00100010001000100010001000100010001000100010001000100010001000100010001000100010001000100010
   00100010001000100010001000103710001000110010001000100010001031K00010001040001002100010001000
   10001000100010001000100010001400140010001000100010001000100010001300100011001000100010001000
   100010001000100JS330001041301640524053405M41615063L052S5A1L0J0L5SbJ43H7S16bH4F6157S1H985SH55
   42H040H140598R4751HM4A516AS0HS42S2506bE4051635161526CH0S03983S1H4405038498440Sb8455161516158
   S24057405061S981S3HF403542L04060506bH405042514154415040504NS14031HA40615161H041306059S541S54
   1S548S640S640SbA10K3381031K3ScF1b2416051605160H06051S985SkZ34BSM43SbG43Sb_VTghVRlD41Sd94b5S6
   1BS414S0405940IC40S440S040S140S140SdB4GKFLlA40E0DFLbV41LbL47LVSB40J2LF56H0D0E0H5SF50H1C1B0D0
   E0D0E0D0E0D0E0D0E0D0E0D0E0D0E1H0D0E3H2B2H0S3H0C0D0E0D0E0D0E2H0I0C2I0S0H0J1H3S440Se641S0Q0S2H
   0J2H0D0E0H0I0H0C1H981H2I1HP00D0H0E0K0B0KP10D0I0E0I0D0E0H0D0E1H9403bC413U42S541S541S541S242S1
   J0I0K0L1J0S0L3I1L9S2Q1L1SB40SP40SI40S140SE41SD4b1SdQ44S2H3SbCA2S8LbK93AGL1A2L0SCL2S0LbESbCL0
   5e1SS42SbG4ES05QA3SV43A8SJ40974094Sb54454ST40S0Hb343S740H49b9Sb70b71cD41S985Sb303Sb313Sb747S
   bJ4AS0HA00SE00S600S100SA10SE10S610S112SbJ4BSjM48SL49S74NS530Sb930S83c4S541S040SbB40S142S041S
   M40S0H7AM41L6AU47S8AbFSI40S144S4AL45A2S0HP44S0HP4b5SbN43S1A14FA1SbDA04250S154S35340S240SS41S
   253S058A6S8H6SS41A0HS42AVS740LR4153S4A6H8SbL42S6HL41S7AI44S7AH46S3HBS6AcFSc84bMSbI0CSbI16S5A
   b34357S985S98340304L02S450C03L17S1IgFSUA0Sb940S150C1S14FS2403147S0H7Lb0S55S49A047SL4A53A4HLS
   H4353Hb5SK46AJSM48S060506bK4E56H3SJA98051415048S2506bC4263516151H0Q3H059S0Q1SO46S985S25b3445
   06750S983H0416047Sb24051H048S1506bF4268516343H350H060598040H042H0SJAASH40SO42625160506155H05
   1405bTS640S040S340SE40S940H5SbE40526754S985S15160S741S141SL40S640S140S440S15041605361S161S26
   1S045S064S44161S652S45AS940S041S040Sb540S0426550S061S060S360S160506050405041H0S1H7S15SSbK426
   7516250605344H981H0S0H0524TSbF42655060536150615140H047S98f5SbE426351S36150615MH3415b1SbF4267
   5160506152H04AS985SCHISbA405060516550605040H5S985SJ8RSQ41S050605163506453S981A2H0L64fOSbB426
   8506150Hd3SV0V1988ABS741S041S740S140SN4560S161S15060504060406052H8S98c5S741Sb6426351S1536050
   40H0406QS0495b74550604357H057S04551625bD4C506152H044HCSc846S9HcLS050625060506cNSb040HDS985S8
   40Sb4406650S550605044H9S98IA2S1HT41SL50S066506150615c8S640S140Sb54552S050S150S6504057S985S54
   0S140SV4460S150S16050605046S985Sb8403143S98hLSI415161H6S150406C40Sb1416452S16050605CH9805cKS
   04ESKA7L3JGLCS0HYP4d5SdE90S4HASg34csBSd041HCSbbF4FQ0554E59SdYQ44Ss64gvOST4B5262598bw5SrO46SU
   40S983S1HcE40S985ST41S450H9SbF4654H3L330H0L9S980S6A0SK44SI4nFS23b74132H98g5SV0V1MA3H4SO01SO1
   bBScA43S0504bM66S35C3bVS130H0305AS1613298ShgL4b8SV4d0SdI4ipSS330S630S130Sj24ES04SS241S04DS34
   7SmB4ci3SdA44SC42S846S941S0L150H3QdWRShFL982L2SnJL5SMLESFL0IESbD51SM58SdJLbRShLL9Sb6L1SbRL16
   252L567Q751L65TL35bSLKSc1L250LdPSJABSJABScML8SOAe6SP0P1P0610SH1P0P1000S101S001S101S300S70310
   S010S610SA1P0P1100S301S700S600SP1100S300S400S002S600SP1P0P1P0P1P0P1P0P1P0P1P0R11SO00IO10I51O
   00IO10I51O00IO10I51O00IO10I51O00IO10I5100011SbH8pVLbM53LbH57L05DL051L4HES450SE5bcFS9104J15S5
   1gKS650SG51S650S150S454SbT3b0S05dFSbC42S65631S983S040LjVST405GSbB435984S0JoFSQ4033598gLST415
   04983S0HfVSU40S24051405641544057S0403gVS640S340S140SE40Sg441S8A65b8Sb10b1165033S983S1HyGSbQA
   0L2A0J3AcBSbCA0LEAg1S340SQ40S140S041S040S940S340S040S045S043S040S040S040S240S140S041S040S040
   S040S040S040S140S041S340S640S340S340S040S940SG44S240S440SG4bJS1IiDSbBL3Sd3LBSEL1SEL0SEL0Sb4L
   9SCAf0LbNSSLCSbBL3S8L6S1LDS5LePShQL4KwOL2SGL2SCL2SgPL5SBL3S0LESBL3SbNL7S9L5Sb7L7STL1SBL3S1LD
   S8Ib6SkNL7SDL1SCL2SAL2SbOL0S0L3SFL1SBL3S9L6SeIL0ScRL980Lba4SbjwV4VSeiT41SfuD41ShjG4EStD4cn1S
   qT4bp1SeWA44Sij94vsY6S0QTScVQdVShF5b_qFSb__TR1Sb__TR1S"

def categoryNames : List (List String × List Nat) := [
  (["l", "letter"], [0, 1, 2, 3, 4]),
  (["lc", "casedletter"], [0, 1, 2]),
  (["lu", "uppercaseletter"], [0]),
  (["ll", "lowercaseletter"], [1]),
  (["lt", "titlecaseletter"], [2]),
  (["lm", "modifierletter"], [3]),
  (["lo", "otherletter"], [4]),
  (["m", "mark", "combiningmark"], [5, 6, 7]),
  (["mn", "nonspacingmark"], [5]),
  (["mc", "spacingmark"], [6]),
  (["me", "enclosingmark"], [7]),
  (["n", "number"], [8, 9, 10]),
  (["nd", "decimalnumber", "digit"], [8]),
  (["nl", "letternumber"], [9]),
  (["no", "othernumber"], [10]),
  (["p", "punctuation", "punct"], [11, 12, 13, 14, 15, 16, 17]),
  (["pc", "connectorpunctuation"], [11]),
  (["pd", "dashpunctuation"], [12]),
  (["ps", "openpunctuation"], [13]),
  (["pe", "closepunctuation"], [14]),
  (["pi", "initialpunctuation"], [15]),
  (["pf", "finalpunctuation"], [16]),
  (["po", "otherpunctuation"], [17]),
  (["s", "symbol"], [18, 19, 20, 21]),
  (["sm", "mathsymbol"], [18]),
  (["sc", "currencysymbol"], [19]),
  (["sk", "modifiersymbol"], [20]),
  (["so", "othersymbol"], [21]),
  (["z", "separator"], [22, 23, 24]),
  (["zs", "spaceseparator"], [22]),
  (["zl", "lineseparator"], [23]),
  (["zp", "paragraphseparator"], [24]),
  (["c", "other"], [25, 26, 27, 28]),
  (["cc", "control", "cntrl"], [25]),
  (["cf", "format"], [26]),
  (["co", "privateuse"], [27]),
  (["cn", "unassigned"], [28])]

def categoryTable? (name : String) : Option CharTable :=
  (categoryNames.find? fun entry => entry.1.contains name).map fun entry =>
    categoryRuns.table entry.2.contains

end Linewatch.Unicode
