import Linewatch.Unicode.CharTable

namespace Linewatch.Unicode

def graphemeBreakNames : List (List String) :=
  [["cn", "control"], ["lf"], ["cr"], ["xx", "other"], ["extpictxx"], ["ex", "extend"],
   ["pp", "prepend"], ["sm", "spacingmark"], ["l"], ["v"], ["t"], ["zwj"], ["lv"], ["lvt"],
   ["ri", "regionalindicator"]]

def graphemeBreakRuns : RunTable := .ofText
  "90011002H0cU3b008304230004sG3dF5iI365i63bC50305031503150305bN35693A50300bD3K5F305d4365060355
   13150335b03060305T3Q5cQ3A5bP3858305N335038503250345bA325bJ3165375b93N506V507bL30507050327753
   7051703659315S30517bN30503051735131713170583059315P305131507bN305032715331513252305T3152305A
   31507bN305032745031507031705J315L355030517bN30503150735131713170563259315T305bQ3050705172327
   0327058305b73052705bM305032537032503356315A315S30517bN3050307051705170305170317156315A315E30
   7B31517bM3150305173503270327050673059315S30517c5305330517250305036705H317bS305030765B375d130
   5030785A365c8315Q305030503053317bG3D50745031543A503b358305d5335075503151715M317153325F335C30
   50307155305E305d13cV8c79cNAkS325ZH32507R31507S315T315bV3150765770517A58305bC3250005dK315b130
   5dL3253715273317055725gQ3151705bO30705076503050305137557951305bF3U5bG33507bE3650705470517b53
   85B31507T3073517150725bN30507152705072517bF377751715eN32503C5076533055305130715g53bV5qA30005
   0B10N360C304B304L3F0cV3b05bG304L304cP354E314lE314B304cU304c5304O3A43324g6304h631493048304bP3
   34035403B403dH493dL413A4030403045304230453049314E30413043304030433240304A344bC3248304D304D30
   4lJ314oE324I314bI3043304mO325eC305cV3V5r935504B304cQ315pR3040304Y-K3350395V315cF315iF3052305
   3305M31715073305cI317bH3F715P3H5C305b5375O3A517B3S8232507bE3051735171527b3305c235517151715B3
   05730507bD305bI3050325131543150305b83071517430705hB31705170517030705H30CQD0CQD0CQD0CQD0CQD0C
   QD0CQD0CQD0CQD0CQD0CQD0CQD0CQD0CQD0CQD0CQD0CQD0CQD0CQD0CQD0CQD0CQD0CQD0CQD0CQD0CQD0CQD0CQD0C
   QD0CQD0CQD0CQD0CQD0CQD0CQD0CQD0CQD0CQD0CQD0CQD0CQD0CQD0CQD0CQD0CQD0CQD0CQD0CQD0CQD0CQD0CQD0C
   QD0CQD0CQD0CQD0CQD0CQD0CQD0CQD0CQD0CQD0CQD0CQD0CQD0CQD0CQD0CQD0CQD0CQD0CQD0CQD0CQD0CQD0CQD0C
   QD0CQD0CQD0CQD0CQD0CQD0CQD0CQD0CQD0CQD0CQD0CQD0CQD0CQD0CQD0CQD0CQD0CQD0CQD0CQD0CQD0CQD0CQD0C
   QD0CQD0CQD0CQD0CQD0CQD0CQD0CQD0CQD0CQD0CQD0CQD0CQD0CQD0CQD0CQD0CQD0CQD0CQD0CQD0CQD0CQD0CQD0C
   QD0CQD0CQD0CQD0CQD0CQD0CQD0CQD0CQD0CQD0CQD0CQD0CQD0CQD0CQD0CQD0CQD0CQD0CQD0CQD0CQD0CQD0CQD0C
   QD0CQD0CQD0CQD0CQD0CQD0CQD0CQD0CQD0CQD0CQD0CQD0CQD0CQD0CQD0CQD0CQD0CQD0CQD0CQD0CQD0CQD0CQD0C
   QD0CQD0CQD0CQD0CQD0CQD0CQD0CQD0CQD0CQD0CQD0CQD0CQD0CQD0CQD0CQD0CQD0CQD0CQD0CQD0CQD0CQD0CQD0C
   QD0CQD0CQD0CQD0CQD0CQD0CQD0CQD0CQD0CQD0CQD0CQD0CQD0CQD0CQD0CQD0CQD0CQD0CQD0CQD0CQD0CQD0CQD0C
   QD0CQD0CQD0CQD0CQD0CQD0CQD0CQD0CQD0CQD0CQD0CQD0CQD0CQD0CQD0CQD0CQD0CQD0CQD0CQD0CQD0CQD0CQD0C
   QD0CQD0CQD0CQD0CQD0CQD0CQD0CQD0CQD0CQD0CQD0CQD0CQD0CQD0CQD0CQD0CQD0CQD0CQD0CQD0CQD0CQD0CQD0C
   QD0CQD0CQD0CQD0CQD0CQD0CQD0CQD0CQD0CQD0CQD0CQD0CQD0CQD0CQD0CQD0CQD0CQD0CQD0CQD0CQD0CQD0CQD0C
   QD0CQD0CQD0CQD0CQD0CQD0CQD0CQD0CQD0CQD0CQD0CQD0CQD0CQD0CQD0CQD0CQD0CQD0CQD0CQD0CQD0CQD0CQD0C
   QD0CQD0CQD0CQD0CQD0CQD0CQD0CQD0CQD0CQD0CQD0CQD0CQD0CQD0CQD0CQD0CQD0CQD0CQD0CQD0CQD0CQD0CQD0C
   QD0CQD0CQD0CQD0CQD0CQD0CQD0CQD0CQD0CQD0CQD0CQD0CQD0CQD0CQD0CQD0CQD0CQD0CQD0CQD0CQD0CQD0CQD0C
   QD0CQD0CQD0CQD0CQD0CQD0CQD0CQD0CQD0CQD0CQD0CQD0CQD0CQD0CQD0CQD0CQD0CQD0CQD0CQD0CQD0CQD0CQD0C
   QD0CQD0CQD0CQD0CQD0CQD0CQD0CQD0CQD0CQD0CQD0CQD0CQD0CQD0CQD0CQD0CQD0CQD0CQD0CQD0CQD0CQD0CQD0C
   QD0CQD0CQDB3M933bGAiz1305x03F5F3F5gE300eT315cF3B0q0305h1305eK345bu532503154335b73253305f4315
   rS335m2315cF325c53A5bG335dP3070507bK3E5b83051315932507bC327351715130633059306bH325b33450775F
   317bB305B31507bF327851703164335030705cR327251705071553051305eS3052775K31517bM315030507053713
   1713278305931713652345fV3277517250705M305cG30517550705170507150715hA30517351337150715Q315cH3
   277517050715d9305070517550705d432513350745hV327850715hK305470317131507050607060705eC32735131
   537052307R395b7355070635730583551725b7356C50715mK3076503550705cH3L503076507150715dP355230503
   1503650605c134703150317050705kQ3151783150607bF317452317050705fhC3F00553E5nuP345bQ365baN30503
   bM76335cG305A317tfA3150330esR3bD513M5qT305072523074570751365T335eJ325bZQ3bM533bH57305D305L34
   503E5bkF36503G5136503150345d3305eV365lM305bS335pR335-V365dC365bvK3hV4C324U304bR354B314D30413
   94H3bO4PE03E49304J3041384033483nH445jT473i94bF3dV4dJ3B4cK3bA4B334bN3749354b7374T3cH4B3bE4039
   403nO4hV3_T4yaa13V0cV5dV0hF5dqF0fX_V3"

def graphemeBreakTable? (name : String) : Option CharTable :=
  (graphemeBreakNames.findIdx? (·.contains name)).map fun n => graphemeBreakRuns.table (· == n)

def wordBreakNames : List (List String) :=
  [["xx", "other"], ["lf"], ["nl", "newline"], ["cr"], ["wsegspace"], ["dq", "doublequote"],
   ["sq", "singlequote"], ["mn", "midnum"], ["mb", "midnumlet"], ["nu", "numeric"],
   ["ml", "midletter"], ["le", "aletter"], ["ex", "extendnumlet"], ["extpictxx"],
   ["fo", "format"], ["extend"], ["hl", "hebrewletter"], ["zwj"], ["extpictle"],
   ["ka", "katakana"], ["ri", "regionalindicator"]]

def wordBreakRuns : RunTable := .ofText
  "90011203H004000530063007000800990A0740PB300C00PB9002b200D0B100E0D500B000A100B40MB00UB00oVB50
   b1BdFF4B001B103B070B500B0A2B000B00JB00cIB00eAB006Ff5B00b5B103B000B0Ab8B070B50bCF000F001F001F
   000F70QG303G0B0AA05E501710AF000E20bABKF99000907001B0Fd2B000B6F0E005F1B1F003F1B992B100BE00E0B
   0FTBQF10cOBAF0BD099b0B8F1B1007000B100F10LB3F0B8F0B2F0B4FH0OB2F30AB40NB005B001E507Fb9BNF0Eb0F
   bLB2F0BHF0B6F9B1F109900FB2F007B101B10LB006B000B203B100F0B6F101F102F0B700F301B002B1F10991B900
   B000F102F005B301B10LB006B001B001B001B100F004F301F102F200F603B000B60991F2B0FA02F008B002B00LB0
   06B001B004B100F0B7F002F002F100BE01B1F1099800B5F002F007B101B10LB006B001B004B100F0B6F101F102F6
   02F301B002B1F1099000BF00F0B005B202B003B201B000B001B201B202B20BB304F202F003F100B500FD099F04F7
   B002B00MB00FB100F0B6F002F003F601F002B100B101B1F1099F00B2F007B002B00MB009B004B100F0B6F002F003
   F601F501B001B1F1099001B0FB03F8B002B00b8B1F0B6F002F003F0B402B0F602B1F1099905B002F00HB20NB008B
   000B106B200F305F000F007F5099101FbS00F106FB07F0099cM00F108FA06F0099b500BM01F5099A00F000F000F3
   01F7B00b3B30JF001F4BAF00b3F800Fd30JF0099B03F302F002F106F203FC0BF000F993F10b5B000B400B10bAB00
   kCB003B106B000B003B10b8B003B10b0B003B106B000B003B10EB00bOB003B10c2B102FV0FBF0cLB105B20tBB10G
   B04PB40cAB20AB60HB3F80IB2FA0HB1FB0CB002B001FbV0VF800F1099b002F0E0F9950cOB604B1Fb1B0F0B40c5B9
   0UB00BF30BF9099dV099b50MB4FbO09F00SF100F995099L0UFbG04FbEBGF7B2099G08FB02FTBCF1B99bBBDFB0b3B
   JF7099202B99b3B108B60bAB102BF02F00KF3B0F5B0F1B2F0B40fVBbVFiLB105B10b5B105B107B000B000B000B00
   UB10bKB006B000B202B006B203B105B30CB402B006B20640024000F0H1E70189008100A124E0CB00D101C2007300
   D900C90044E009E000BC00BF0CBbI0b0FG00B300B109B000B204B300D000B000B000B003B009B0I103B404B300BG
   0b8BA05DE01DlE01DB00DcU00Dc500DO0AD302DfQ0BB0Ib6BfV01D900D800DbP03D005D00BD00dHD90dLD10AD000
   D000D500D200D500D901DE00D100D300D000D302D000DA04DbC02D800DD00DD00DlJ01DoE02DI01DbI00D300Df90
   h4B503B2F1BB0b5B000B400B10bNB600BE00FMB806B006B006B006B006B006B006B006B00VFbE00BoF004300Bb30
   5F0D4J401B0DcQ01F1J20cQJ003J40bAB00cTBG0VBbF0FJeM00D000DbL0bEJ00cNJXf70beCBc20bDB10iCB20FB99
   1BJ0bEB3F009F00UB1FcFB1FL0g2B401B000B004BN0FB0F2B0F3B0FMB4F300FI0bJBB01FbHBHF909950HF5B200B0
   01B0F99RB7F10MBCFB0SB203FbEBDFD00B99A00F909950b8BDF802B0F7B1F1099b002FbH00F002F101F401F000FT
   0AB4F102B1F905B105B105B806B006B00bPB50dIB7F001F109950kZ3BB0MB30bGBiy306BB04B400G0F9G00CG004G
   000G001G001G009Gd1Bb00lABH0bVB10bLBb70BB30FF07100A07A0FF201CN02C07000800070AP04B00e6B100E600
   83007000800990A0740PB300C00PBA0bNJ1FUB205B105B105B102BR02E30BB00PB00IB001B00EB10DBb10dQBc40b
   KBe700Fe10SB20bGBE00FU0VBC0TB40b5B4F40TB10b3B307B004Bb90eTB109950b3B30b3B30b7B70bJBB0AB00EB0
   06B001B00AB00EB006B001Bc20jMB80LB907BN05B00b9B008Bc405B100B00bBB001B200B10MB90MB80UBc00IB001
   B90LB90PBc50bNB501BbV00B2F001F403F3B002B00SB102F300FV0SB20SBb207B00RB1FO0bLB90LB90IBC0HBdD0c
   8BbM0bIBC0bIBC0b3B3F7099k50b9B001F201BcA02FSB900B70LBAFU0HB3Fb90KBQ0MB802FbKBEFU0990F1B1F0B8
   03FbCBAF100E300F900E10OB6099502Fb3BDF0099300B1F0B70b2B0F100B802FbFBDF3B303F001F990B000Bb20HB
   00OBBF500F1B0FbT06B000B003B00EB009B60bEBBF4099503F007B101B10LB006B001B004B001F0B6F101F102F10
   0B500F404B1F106F204FeA0bKBHF3B4099300F2BT0bFBJF1B000B7099f50bEB6F108FM03B1Fb10bFBGF200BA099b
   50bABCF0B6099cI0EF3099g50bBBEFd40bVB99K07B100B107B001B00NB5F001F103F0B0F0B1FB099c507B10b6B6F
   106F0B000B0FQ00B9Fb7B6F0B3F700F700BAFbDBFF200BH0c8Bi608B00b4B7F007F0BE099N0TB10LF00DFc806B00
   1B00b5B5F200F001F006F0B0F7099505B001B00VB4F001F004F0B6099jL0IB3F801F0B0FCB00b1B6F204FC099cL0
   0BcE0YPBd50dEBG0g3BcsB0d0BE0bbFBFE0F5BEFdZ90s6BinO0rOB60UB009950cEB009950TB104FA0bFB6F803BB0
   9980KB40IBvF0bVBdV0cAB300F0BbMF603FCBbV01B000B0FA01Fp_T03J006J001J000JiU02JbH00JD03JcuN0dAB4
   0CB208B609B201F003EesR0bDF10MFqT04F205F7E7F106FT03FeJ02FnQ0cKB00c6B001B100B101B103B00BB000B0
   06B00c0B003B107B006B00RB003B004B000B206B00kJB10OB00OB00UB00OB00UB00OB00UB00OB00UB00OB007B10b
   H9pV0bMF30bHF700FD00FL04F00EFbcF0UB505BgK06F00GF106F001F004F40bTBb000FdF0bCB206F6B1099300Bk0
   0TB0FG0bBB3F99oL0RB3F99x506B003B001B00EB00g4BA06Fb80c3B6F0B3099bf503B00QB001B000B100B009B003
   B000B000B500B300B000B000B002B001B000B100B000B000B000B000B001B000B103B006B003B003B000B009B00G
   B402B004B00GBk30hVDC02DU00DPB50PB103D1IBB1I9B300D109DH0bODPK00ED900DJ00D108D003D80nHD4FjTD70
   i9DbF0dVDdJ0BDcK0bADB03DbN07D905Db707DT0cHDB0bED009D00nODhF09950_TDyaa200ET0cVFdV0hFFf_qF0"

def wordBreakTable? (name : String) : Option CharTable :=
  (wordBreakNames.findIdx? (·.contains name)).map fun n => wordBreakRuns.table (· == n)

def sentenceBreakNames : List (List String) :=
  [["xx", "other"], ["sp"], ["lf"], ["cr"], ["st", "sterm"], ["cl", "close"],
   ["sc", "scontinue"], ["at", "aterm"], ["nu", "numeric"], ["up", "upper"], ["lo", "lower"],
   ["se", "sep"], ["fo", "format"], ["le", "oletter"], ["ex", "extend"]]

def sentenceBreakRuns : RunTable := .ofText
  "8001021103H00104053025101607009806300400P905000520PA050005600BP001800A05000C600A300A0530M900
   69NA007A090A090A090A090A090A090A090A090A090A090A090A090A090A090A090A090A090A090A090A090A090A
   090A090A090A090A090A090A091A090A090A090A090A090A090A090A091A090A090A090A090A090A090A090A090A
   090A090A090A090A090A090A090A090A090A090A090A090A090A090A090A190A090A092A190A090A190A291A390A
   190A292A190A190A090A090A190A091A090A190A290A090A191A0D092A3D190A190A190A090A090A090A090A090A
   090A090A091A090A090A090A090A090A090A090A090A091A190A090A290A090A090A090A090A090A090A090A090A
   090A090A090A090A090A090A090A090A090A090A090A090A090A090A090A090A090A090A090A090A096A190A191A
   090A390A090A090A090A09c4A0Db3A6D1A30BDD04A600D000DG0dFE090A090A0D00090A103A00095009002900090
   0190AG90089b2A091A292A090A090A090A090A090A090A090A090A090A090A090A094A090A00090A191AbI9bFA09
   0A090A090A090A090A090A090A090A090A090A090A090A090A090A090A090A090A006E090A090A090A090A090A09
   0A090A090A090A090A090A090A090A090A090A090A090A090A090A090A090A090A090A090A090A090A090A190A09
   0A090A090A090A090A091A090A090A090A090A090A090A090A090A090A090A090A090A090A090A090A090A090A09
   0A090A090A090A090A090A090A090A090A090A090A090A090A090A090A090A090A090A090A090A090A090A090A09
   0A090A090A090A090A090A090A090A00b59100D200610b8A0460bCE000E001E001E000E70QD304DB05C501610AE0
   00C24bADKE980018001D0Ed2D040D6E0C005E1D1E003E1D982D100D24B00C0D0ETDQE10cODAE0DD098b0D8E1D100
   6040D100E10LD3E0D8E0D2E0D4E80040004201400OD2E30AD40ND005D001C507Eb9DNE0Cb0EbLD2E0DHE0D6E9D1E
   149800FD2E007D101D10LD006D000D203D100E0D6E101E102E0D700E301D002D1E10981D900D000E102E005D301D
   10LD006D001D001D001D100E004E301E102E200E603D000D60981E2D0EA02E008D002D00LD006D001D004D100E0D
   7E002E002E100DE01D1E1098800D5E002E007D101D10LD006D001D004D100E0D6E101E102E602E301D002D1E1098
   000DF00E0D005D202D003D201D000D001D201D202D20BD304E202E003E100D500ED098F04E7D002D00MD00FD100E
   0D6E002E003E601E002D100D101D1E1098F00D2E007D002D00MD009D004D100E0D6E002E003E601E501D001D1E10
   98001D0EB03E8D002D00b8D1E0D6E002E003E0D402D0E602D1E1098905D002E00HD20ND008D000D106D200E305E0
   00E007E5098101EC0bFD0E1D6E406D7E0098b601D000D004D00ND000D009D0E1D8E0D104D000D006E0098103DV00
   DM01E5098A00E000E000E351E7D00b3D30JE001E4DAE00b3E800EbO0bADJE0D9814305D3E3D2E0D2E1D6E2D3ECDB
   E0D0E983E10b590009400910bAD000AkBD003D106D000D003D10b8D003D10b0D003D106D000D003D10ED00bOD003
   D10c2D102E10043014M0FDF0cL9105A20tBD0004GD01PD1520cAD20AD60HD3E80ID2E1480HD1EB0CD002D001EB0b
   JDVE200D300D0E1098N00604300604002E0C0E9850cOD604D1Eb1D0E0D40c5D90UD00BE30BE701498TD104DA0bBD
   30PD5098b50MD4E30bKD9E00SE100E985098C00D3430UEbG04EbEDGE7D2098141014A08E8014002ETDCE1D98bBDD
   EB0b3DJE20142098202D98b3D148A60bAD102DF02E00KE3D0E5D0E1D2E0D40fVAbVE090A090A090A090A090A090A
   090A090A090A090A090A090A090A090A090A090A090A090A090A090A090A090A090A090A090A090A090A090A090A
   090A090A090A090A090A090A090A090A090A090A090A090A090A090A090A090A090A090A090A090A090A090A090A
   090A090A090A090A090A090A090A090A090A090A090A090A090A090A090A090A090A090A090A090A090A090A098A
   090A090A090A090A090A090A090A090A090A090A090A090A090A090A090A090A090A090A090A090A090A090A090A
   090A090A090A090A090A090A090A090A090A090A090A090A090A090A090A090A090A090A090A090A090A090A090A
   090A090A098A795A1059107A797A795A1059107A00090009000900097A79DA107A797A797A794A001A49000A202A
   001A49203A101A39307A49402A001A4920A10C1E1C201620753007201B4C0180150014601524K0014C009C000AA0
   150AC01500CAbI0b0EG0093009100A291A290A000920495009000900090039000A390A3D0A101A1940093A300AG0
   F9FA2D090A3DlU035S015mA0P9PAtG05560D5cE015U095mI0L5bU035V015q10bF9bFA090A291A090A090A090A390
   A091A097A290A090A090A090A090A090A090A090A090A090A090A090A090A090A090A090A090A090A090A090A090
   A090A090A090A090A090A090A090A090A090A090A090A090A090A090A090A090A090A090A090A090A090A090A090
   A090A090A090A090A090A091A50090A090A2E090AB0b5A000A400A10bND600DE00EMD806D006D006D006D006D006
   D006D006D00VED5D015109530040DB0044005F01475n20010604102D9510750025008D5E004D104D30cLD101E102
   D00cPD003D40bAD00cTDG0VDbF0FDpV0gnVDbV0vuCDc20bDD0004iCD0014FD981DJ0090A090A090A090A090A090A
   090A090A090A090A090A090A090A090A090A090A090A090A090A090A090A090A090A0D3E009E000D090A090A090A
   090A090A090A090A090A090A090A090A090A090A092A1EcFD1E00042004U08D10090A090A090A090A090A090A092
   A090A090A090A090A090A090A090A090A090A090A090A090A090A090A090A090A090A090A090A090A090A090A090
   A090A090A090A090A090A090A090A099A090A090A190A090A090A090A090A0D10090A090A0D090A092A090A090A0
   90A090A090A090A090A090A090A090A490A490A090A090A090A090A090A090A090A390A090A40090A000A000A090
   A090AN02A090A0D2A6D0E2D0E3D0EMD4E300EI0bJD1014701EbHDHE70149850HE5D200D001D0E98RD7E0004MDCEB
   0SD203EbEDDE6014400D98504D0E9D984D00b8DDE802D0E7D1E10982024MD200D2EbHD0E0D2E1D1E4D1E0D0E0DN0
   2D10AD4E142D1E905D105D105D806D006D00bAA00DA50cFAb2D7E041E109850kZ3DB0MD30bGDii30lDD10d9Db506
   AB04A400D0E9D00CD004D000D001D001D00dBDb00lAD15F0bVD10bLDb70BD30FE160006201560FE001610F510156
   0160710061406553006B04D00e6D100C00045015101607009806300400P905000520PA050005001504150600bND1
   EUD205D105D105D102DR02C30BD00PD00ID001D00ED10DDb10dQDc40bKDe700Ee10SD20bGDE00EU0VDC0TD40b5D4
   E40TD10b3D307D004Db90b79b7AcDD109850b3930b3A30b7D70bJDB0A900E90069001900AA00EA006A001Ac20jMD
   80LD907DN00A1D2A00b9A008Ac405D100D00bBD001D200D10MD90MD80UDc00ID001D90LD90PDc50bND501DbV00D2
   E001E403E3D002D00SD102E300EL01470SD20SDb207D00RD1EO0bLD90LD90IDC0HDdD0c8DbM0bI9C0bIAC0b3D3E7
   098k50b9D001E201DcA02ESD900D70LDAE3044L0HD3E34b50KDQ0MD802EbKDEE14S0980E1D1E0D803EbCDAE100C3
   40E900C10OD6098502Eb3DDE009800240D1E0D70b2D0E100D802EbFDDE3D14103E041E980D000D0014V0HD00ODBE
   140014000E1D0EbT06D000D003D00ED009D0450bEDBE4098503E007D101D10LD006D001D004D001E0D6E101E102E
   100D500E404D1E106E204EeA0bKDHE3D142098300E2DT0bFDJE1D000D7098f50bED6E108E001440E43D1Eb10bFDG
   E14000DA098b50bADCE0D6098bL0QD10EE30981024006DfO0bBDEEd40V9VA98K07D100D107D001D00ND5E001E103
   E0D0E0D1E0400048098c507D10b6D6E106E0D000D0EQ00D9Eb7D6E0D3E2014200E700DAEbDDFE00140DH0c8Di608
   D00b4D7E007E0D14C098N0TD10LE00DEc806D001D00b5D5E200E001E006E0D0E7098505D001D00VD4E001E004E0D
   6098jL0ID3E14601E0D0ECD00b1D6E204E14A098cL00DcE0YPDd50dEDG0g3DcsB0d0DE0bbFDFC0E5DEEdZ90s6Din
   O0rOD60UD00983014cED009850TD104E0490bFD6E14603D04A09880KD40IDvF0V9VAN004d60cAD300E0DbME603EC
   DbV01D000D0EA01ED0f_ND70bgLDb908Dix603D006D001D00j2DE00DS02D100DD03D70mBDci30dAD40CD208D609D
   201E043CesR0bDE10MEqT04E205E7C7E106ET03EeJ02EnQ0P9PAP96A00HAP9PA09001910091019103900793A000A
   006A00AAP9PA1900391079006900PA19003900490009206900PAP9PAP9PAP9PAP9PAP9PAP9RA10O900OA005AO900
   OA005AO900OA005AO900OA005AO900OA005A090A10bH8pV0bME30bHE700ED00E2004H04E00EEbcF09A0DJA505AgK
   06E00GE106E001E004E40bTAb000EdF0bCD206E6D1098300Dk00TD0EG0bBD3E98oL0RD3E98x506D003D001D00ED0
   0g4DA06Eb80b19b1A6E0D3098bf503D00QD001D000D100D009D003D000D000D500D300D000D000D002D001D000D1
   00D000D000D000D000D001D000D103D006D003D003D000D009D00GD402D004D00GDtJ0P950P950P9bhB025blM098
   ba50bjwVDV0ebPD50gTD10fu1DD0hjGDdaU0qTDbp10eWAD40ecVDvxcG00CT0cVEdV0hFEf_qF0"

def sentenceBreakTable? (name : String) : Option CharTable :=
  (sentenceBreakNames.findIdx? (·.contains name)).map fun n => sentenceBreakRuns.table (· == n)

end Linewatch.Unicode
