import Linewatch.Unicode.CharTable

namespace Linewatch.Unicode

/-- The names of each property, without case, blanks, hyphens and low lines, and the characters that
have it. -/
def binaryProperties : List (List String × String) := [
  (["asciihexdigit", "ahex"],
    "bG975Q5"),
  (["alphabetic", "alpha"],
    "c1P6PbF0A0405M1U1o94BE47010cM0TH1123106012101J1cI1eA8f51b5206b8b7D101111108Q43TA5bN16Ed517
     4742A220GbFDd4Ob091405N2IJO7A5N16708b9AB366cB1F124EDI17212L16103337212110804114C1A04215412
     L16111111444121407310H5B218121L16111438121130F3L34217212L161114372121914114D0G115321331101
     131323B4432123060b8C121M1F37121281121123S317121M1914371212815213D2CC121b8271212105374M5121
     H3N181026851017I1DbP5660bJ110141N101I12241060E3b00bV71b34I4F1b3c3bM1024GbVA32b510502bA1kC1
     32610132b8132b0132610132E1bO132c2b5FGcL253tB2G1P5cA3A7JBKCJCC1211CbJ2IE040c3cO7bA5c5AU1B48
     NT24BbB4PbMR4bU2JbI0N1B2bHbJ1E17bJb923AbB1AEbMM2Ab32A5bA22b931511305fVJb1BiL252b5252710101
     01U2bK1610321633254C5216dK0D0GCd5040291034601010131A235440Hb8zDbJbyMh46331Cb510502bN70GM96
     161616161616161VbF0oL2P874244cL621cP135bA1cTHVbGFq0gnVc0vuCc3bD2iC3FA1KbE573dGb782d62cHKK1
     b0ObJCc310bC53012Ab05b2DS3bI1BF0GFA41bM9DIM3c41010O22F23B5252596161bA1D6dQLkZ3CM4bGii4lD2d
     9b66C45B1C141011111dBb1lAIbV2bLb8BdK41e6b4P6PBcO35252522b3B1P1I111E2Db2dQc5bKiBS3bGbFVDT5b
     A5T2b34714bAeTIb34b34b78bJCA1E16111A1E16113bJCjM9LA7O51b918c55201bB11302MAM9Uc1I11ALAP6Pb6
     bN61c031157121SbAS3Sb371RRbLALAIDHdEc8bNbIDbIDb7b2R305MhQb91131G5bI23SA08LbAHbEKRM9c5bB4Ab
     O90DONbIH38b2309bV1391A010b3H1b12063bU610131E197bON317212L161114372121306056S910201b519102
     013113010bCc11213K2Uc12110fObL26P5b2bU1030bRbL20c7Q2DL6fPbOd7bVV72027111T112123cT72bD25101
     1RbI29Hc750Ic8d77cOb0V81bC1610bHT2L1Dc96111bB3011121021O5111b4111310NbBi4M9G1b832dF0cFYPd6
     dEHg3csCd0FbbFH5PdYQ5s6gvPbEbwHrO7UHcEHTIbFG3VK5InGbCgJbVb0O2ObCcA4bO7Gc0110C69hgLb9Vd1dIi
     pT316111j2F0T220E38mBci4dA5C387940fX1cK1c6112021231B10161c01327161R131410361kJ2O1O1U1O1U1O
     1U1O1U1O17bzKU65gL61G2611145bTb10dGbCA6G0k1TIbBp4Rh4T20gFU1L81h0613111E1g4bRc33030bfK31Q11
     10201913101060401010121110201010101011102316131310191G52141GtKP6P6PdtMbjwVb0eiT2fuD2hjGFtD
     cn2qTbp2eWA5ij9"),
  (["bidicontrol", "bidic"],
    "bqS0gpH1Q4bN3"),
  (["bidimirrored", "bidim"],
    "b81I010S010T010bD0F0dtU3bWT1cmS1A1bM1E1fH0g033530313313101048501H539110171V2350912I5194214
     N2F83K171bbTDcA023111253523DmJL251D807530441124401221A521CI13201020135162O1B14311214bA271b
     750103452403410i00q333111E129bB7nB927btrT551f21I010S010T0101111bvXN0bP0bP0bP0bP0"),
  (["caseignorable", "ci"],
    "b7060B0b3010c7040104021pNfV41409110hR6gF050bHbC10111110bC0B5AA10b30AKG0d571913b1010UQcRAbQ
     A4020ONbB2bC07158b9bPbN010474036A1D0F0bQ04380K1Q021bP041412230U130B1bP0441140K1M510bQ02013
     8071B1U0bT0C0bI030bN012521371B1T0bQ0206051K1S1bP14380K1T0c807210cQ026B8d20289016c91R01010b
     ND14115A1b390d63151121P142G3D02160F0cU0t02ZI2T1U1U1c0116802A3050bD4bJ0c11b20dM2419062gR120
     bQ0161010276920b708bD2BK3bG0141050b88C1b032112bO0113012bQ721c05cI21C16406031bIbUD0b2d4nT01
     2B2D2D2D1C481A02024bH41910D0GCbJb0cYB1dH2dT0F0d0VbF0oL0b433450cT5cT2XyM0bh25iE0d231910S3cG
     1Eb1cE0N2d6331803040P150eN1QHD0b67PAbE2bG02321H0L1c252121C080b30B0bJ012215110R0E15110d4492
     dP02040tzG0eJGrTF30CFb2020f907060B0b3010bF0bD1c30L2q10h20eL4ba551b918s621153b8240f51rT3b60
     Q410jR1O0bK5c6AbH3dR0bMEb9021A2bH3212040A0bI2b4417bU0C1bK8A320cV220116020eT037L1bP130b5634
     c65D01010E1cL72210N0cK5104111hE36111R1cL72011dA0102510d50102314i3811i011040eG32140b09b8523
     809522bEC11g601210g961510cIL261111dQ530111610c813010c10iP1B1bK45010N0fgLG6Elg8B32co04bR693
     pS2b81p20bVGc0111D1p_S31611deU113esSbD2Mr029F26U3eK2bZRbM4bH80E0M41EbkG61G2611145bTb10f0Dl
     G0bT3pR4hU1hJ020715090oG6dD7cvF4yda10UcVe0hF"),
  (["cased"],
    "c1P6PbF0A0405M1U1g2134gF2b271U4d00bA32123106012101J1cI1eA8f51b59b8cyNb510502bA13v0cL25ce2A
     5bA22c0fVc0iL252b525271010101U2bK1610321633254C5216dK0D0GCd5040291034601010131540235440HV3
     1zHbJbyMh46331Cb51050-iIbDITe4d5331cCK512zLbA1D6cFtW06C4ba9P6Pbf5cFd0b34b3dKA1E16111A1E161
     1o30221b918bg5bIDbIcTLALcyQbVvl0bVb0O2OzjCcK1c6112021231B10161c01327161R131410361kJ2O1O1U1
     O1U1O1U1O1U1O17bzK91J65i5bTceIc3b_CP6P6P"),
  (["changeswhencasefolded", "cwcf"],
    "c1PcQ0AM17b0010101010101010101010101010101010101010101010101010101020101010101010101110101
     010101010101010101010101010101010101010111010101110111223111231111010111020111210113071111
     110101010101010102010101010101010102110121010101010101010101010101010101010101010101010101
     0101010107111201310101010hM0bA0103080601210111G18M0C231101010101010101010101010112110112bI
     bG0101010101010101010101010101010109010101010101010101010101010101010101010101010101010101
     110101010101020101010101010101010101010101010101010101010101010101010101010101010101010101
     01010101010101010102b5bG0cyOb51050zA5ce296bA22k0010101010101010101010101010101010101010101
     010101010101010101010101010101010101010101010101010101010101010101010101010101010101010101
     010101010101010105120101010101010101010101010101010101010101010101010101010101010101010101
     0101010101010101010101010109785A78785B010101087GbF22255225B3C45225j903160bDFJ0zIPbzGbFbG01
     220101013102082101010101010101010101010101010101010101010101010101010101010101010101010101
     01010101010101010101010801040-kD010101010101010101010101010101010101010101010J010101010101
     010101010101010e70101010101010301010101010101010101010101010101010101010101010101010101010
     10A010111010101040102010301010101010101010101414101010101010101310111010101010101010O0XQcF
     tW06C4ba9Pbg5b7e8b3eSA1E1611bxAbIeTLczQVvm0Vc0O-s7b1"),
  (["changeswhencasemapped", "cwcm"],
    "c1P6PbQ0AM1U1bV1cJ1R2D21104cS1H6Q1110113113142011207020113550A1f60bA32132106012101J1bE3b01
     41e48f51b5Ab6cyOb510502bA22v0cL25ce2A5bA22fP030G0dHeR201dL252b525271010101U2bK161032163325
     4C5216j903160R0HV31zHbJbyMdG11117d57331Cb51050-iIbDIRe6D2bT9E32241O1bCO1WS0ScFtW06C4ba9P6P
     bf5cFd0b34b3dKA1E16111A1E1611bw3bIDbIcTLALcyQbVvl0bVb0O2O-rCc3"),
  (["changeswhenlowercased", "cwl"],
    "c1Pd5M16b101010101010101010101010101010101010101010101010101010102010101010101010201010101
     010101010101010101010101010101010101011101031101112231112311110101110201112101130711111101
     010101010101020101010101010101021101210101010101010101010101010101010101010101010101010101
     010107111201310101010j10103080601210111G18b308010101010101010101010105020112bIbG0101010101
     010101010101010101010109010101010101010101010101010101010101010101010101010101110101010101
     020101010101010101010101010101010101010101010101010101010101010101010101010101010101010101
     01010102b5cW9b51050wIcLceJ06bA22k001010101010101010101010101010101010101010101010101010101
     010101010101010101010101010101010101010101010101010101010101010101010101010101010101010101
     010901010101010101010101010101010101010101010101010101010101010101010101010101010101010101
     010101010109785A78785B010101087O7878784B4B3C4B4j903160bDFJ0zIPbzGbFbG012201010131020821010
     101010101010101010101010101010101010101010101010101010101010101010101010101010101010101010
     1010801040-kD010101010101010101010101010101010101010101010J010101010101010101010101010e701
     0101010101030101010101010101010101010101010101010101010101010101010101010A0101110101010401
     02010301010101010101010101414101010101010101310111010101010101010O0vzBPbg5b7e8b3eSA1E1611b
     xAbIeTLczQVvm0Vc0O-s7b1"),
  (["changeswhentitlecased", "cwt"],
    "d1PbQ0b9N171010101010101010101010101010101010101010101010101010101020101010101010111010101
     010101010101010101010101010101010101010201012201020305020322020101020402030102030104011111
     010101010101010111010101010101010121010301010101010101010101010101010101010101030101010101
     010101080211040101010151110113113142011207020113550A1f60bB0103032I0Rb211321010101010101010
     10101014102020bKbF101010101010101010101010101010101090101010101010101010101010101010101010
     101010101010101020101010101011101010101010101010101010101010101010101010101010101010101010
     101010101010101010101010101010101010bHb6dtG5ce2810hE030G0dI0101010101010101010101010101010
     101010101010101010101010101010101010101010101010101010101010101010101010101010101010101010
     101010101010101010101010101650101010101010101010101010101010101010101010101010101010101010
     101010101010101010101010101010101885A78785A7878D2787878411603211832187A211kM0b1F40WBPbW6bF
     10311010106020A010101010101010101010101010101010101010101010101010101010101010101010101010
     101010101010101010101010801040Cb51050-iJ010101010101010101010101010101010101010101010J0101
     01010101010101010101010e701010101010103010101010101010101010101010101010101010101010101010
     1010101010A010201010101040401120101010101010101010B01010101010101040102010101010101010Q0WS
     0ScFtW06C4bb9PbgDb7e8b3eRA1E1611by3bIdTLczQVvm0VbRO-sEb1"),
  (["changeswhenuppercased", "cwu"],
    "d1PbQ0b9N171010101010101010101010101010101010101010101010101010101020101010101010111010101
     010101010101010101010101010101010101010201012201020305020322020101020402030102030105111111
     010101010101011101010101010101011111030101010101010101010101010101010101010103010101010101
     0101080211040101010151110113113142011207020113550A1f60bB0103032I0Rb21132101010101010101010
     101014102020bKbF10101010101010101010101010101010109010101010101010101010101010101010101010
     101010101010102010101010101110101010101010101010101010101010101010101010101010101010101010
     1010101010101010101010101010101010bHb6cW8bA22xO5ce2810hE030G0dI010101010101010101010101010
     101010101010101010101010101010101010101010101010101010101010101010101010101010101010101010
     101010101010101010101010101010165010101010101010101010101010101010101010101010101010101010
     1010101010101010101010101010101010101885A78785A7878D2bK114010321140332187A21140kH0b1F40WBP
     bW6bF10311010106020A0101010101010101010101010101010101010101010101010101010101010101010101
     01010101010101010101010101010801040Cb51050-iJ010101010101010101010101010101010101010101010
     J010101010101010101010101010e7010101010101030101010101010101010101010101010101010101010101
     010101010101010A010201010101040401120101010101010101010B0101010101010104010201010101010101
     0Q0WS0ScFtW06C4bb9PbgDb7e8b3eRA1E1611by3bIdTLczQVvm0VbRO-sEb1"),
  (["dash"],
    "bD0bkS0bJ0ds10ba50ca95bT0b70F0m60da4020V140S0nU0J0dF0btmG1b50A0f90dt00jU0"),
  (["defaultignorablecodepoint", "di"],
    "fD0v10wC0cW21bsJ1cL4b_R4Q4bHFehK0bteRFhF0f00cF8bpf73fgF7ylu5d_V"),
  (["deprecated", "dep"],
    "k90bj90ci3010cb91cg55vP1XxgM0"),
  (["diacritic", "dia"],
    "cU010c70604021pNeU1755H14091hT4gH0bNbC10111110e3741e614132c3QcRAbQAb21dU7b99GRbT0G033S0cA0
     G0dE0G0dE0G0bF2bS0G070dN0dE0G0dE0G0dD1G0dS0dF0C510dB0D4cB1R0101041c2211bU0dG011b8144P610A1
     w12ZK1U0eKA90kR2j40K720bGE2A3E2Bc80F0b68bM1bQ0B1c21c05cIO406022bIbUbGb35Bb5AnT012B2D2D2D1d
     hG2jT0pQ5d93cV0ZlI0C110S1cI1Eb1d62d6061C0b50eN0RHbP3b40cV0C0b40eL2c13bJ0d4492e01tzG0y1FiE0
     10bF0bD1c30xS0beV51b918tT240f51rR5b60Q4mC022c6AbH3g00b90c81dO1bU0cC092d81fI1cG1G0O634cP211
     D1cV030dR1hR1dU0dM1dJ0iD1i2140eS0cJ0I0cH0n50i2011cH0c10l71N0fhCElgP0co04bR6rK1r2GcG1p_U316
     11hy1bD2Mr02358726U3du2bTg26lN0bT3xU1x06dD212"),
  (["emoji"],
    "b306059dF040hYD0C0gO0M0cQ5F1lF1C0f60PA42g70h71A090bQ314902021204020112030318250105BB120111
     0I021I5101131502141B15120511011K155132040202510201010603060A1F02040104210B1bG290E0E0lK1oF2
     J1bJ040bgQ0C0sP010dplA0gA0f01C1E029cBP11N0K028L1fEb12dF21122cI221i61bUB51N7127C0232041D120
     819052C28220104060306cLbGc557233930113029h3B40iRbE191fOdGC3A3bO104F2B49"),
  (["emojicomponent", "ecomp"],
    "b306059h-J0gL0bxjB0bY-MPpR4bnG3ybtCcV"),
  (["emojimodifier", "emod"],
    "dY_R4"),
  (["emojimodifierbase", "ebase"],
    "jqT0gR0G3dtdN0bS22022dL12ALI3042127010O0g9140L041fE234cJ0G290B0rV02087609922bO0bT11110H21C
     h52bA8"),
  (["emojipresentation", "epres"],
    "iyQ1gD33020q91L1bIBbB0J0D081H1518050L0711040207041S0b30104210bT2O0E0WR1bJ040drfE0gA0fU029c
     BP10O0K02412L1fEb0C81c51LCbA44CG303c6101fQ2bUD31NI0Q1D0cMcKbGc560322333B178h3B40iRbE191fOd
     GC3A3bO104F2B49"),
  (["extendedpictographic", "extpict"],
    "f9040hYD0C0gO0M0cQ5F1lF1C0f60PA42g70h71A090bQ314902021204020112030318250105BB1201110I021I5
     101131502141B15120511011K155132040202510201010603060A1F02040104210B1bG290E0E0lK1oF2J1bJ040
     bgQ0C0sP010dplA0b73d4BF1F0E1b59dG1C1E029JbNREA0K028139M6fR2dF21122cI22135hT1bUB51N7127C023
     2041D120819052C28220104060306cLbGc5572G30152CgQb5C3bO7A5b87U1C32D9b6CbE191fOcO7EeHi0_T"),
  (["extender", "ext"],
    "fN0qO1XE0nP0tM0e90cP0xG0dV0ck30bO0t30mE0c40eY90bB4d71cT2XyM0bpM0-20M0e90dC0L1vdR0caG1boB0R
     040bg70j50dK1pI2bgF0W00tl81beS110E1Yk81bfH0WK2"),
  (["graphemebase", "grbase"],
    "b0cUb1C1sHdG72546101J1gV7f51b52bH22bE01020209Q45H9B01bDLF1d48061204V201TTcOB0EbA963N409030
     7E1O501A5VGb9bPbM10138312792S1117212L1610333011612110D1124N5015412L1611111142O310792210C01
     8121L16111433801130F14B708117212L16111430206121F1124HB015321331101131323B5011321230LK62171
     21M1F3033J2112149791A121M1914312011N2114912EA121b8201152121142194P211H3N18102691667922CbF1
     1B78Cb5110141N1019119024109923b0N2Q10101D1b3I05024bH7151Cb5bC4060212O233F4C11251E1b710502l
     O132610132b8132b0132610132E1bO132c25S3P6cL252uS3cO7HDI319HEC12FbJ207711B839696A596cO742b11
     05c5AU43224115703b924BbB4P6A3bO213bN10901185D9696DcMbFA3371S9B2V416bN102210DbF815E3bT5bA2A
     B0D0731512205fVc0iL252b525271010101U2bK1E1D251I22181A5N7bGG12Q1C3b1bUeB4uPMALbyJ2lO315bC10
     502bN71FM9616161616161616b1cTb2P1cOCgLQbP6F1cL4d45bA1cT1cL9bF1YtC3bM9kRKbE40AV2cF258gSKG12
     131O24496bN8c3ABOC1b58OB0CT6bF1141211C1A461O1b86121B21710292V1bI1031242010OG27B5252596161b
     R4dK1113396kZ3CM4bGii4lD2d9b66C4501N141011111u9b0FG9Mb21I13441e64eS2U352525223616D12B1P1I1
     11E2Db2dQ524bC3cN1C30bFbCe3S3bGGQ4b39T5b5AT1b44DbAeT296b34b34b78bJBB1E16111A1E16113bJCjM9L
     A7O51b918c55201bB11302M1c788bGI115b03Q5Qb6bN4J2bEF3121SA8787bVb0b46B9bL3S2Q5P73C6cGc8bNbID
     bI7b9C96b58N81gGU1b93021G588b7b78LB8MH43b6RKM901bLF64T1120CbG412113EO799b3509H8b212BbJ9017
     411F1JBH1R314511bV610131E1A6bE12D98117212L161114301013212130C6S910201b51011F011301211b7bN8
     1301K1012UbF11601110202389f6bE1163202Qb4bI811023B96CJbA101181696JSQ3011409MfPbE9020d4cIC72
     027111N1411631299c672b98313R0Ab7614790613bDD028Dc879cN03010cOb1E9681b5E015AS3VP07020cB6111
     b5L09965111b4411010796bB49hMI239E1b3813McM0FbHDYQd6dE14Bg3csCd2DbbFH5PdYQ5s6gvPTC239bw6rO7
     U194cG196T70AbF7EA9161K5InGbPg6cQ5O2ObCcA5bNBCc03E49hgLb9Vd1dIipT316111j2F0T220E38mBci4dA5
     C38792020dX0hS3nJ6MFGcVdJbShLAb62bR52M17T4bSLc130dQJCJCcM9Oe7cK1c6112021231B10161c01327161
     R131410361kJ2j32rHbN3bI71D16bdKU65i5bTeIbCA62941k0TIbB4950oGR49gMT2A40g0U1211162491h061311
     1E1g428bGc3704941yHc3cCbSg231Q1110201913101060401010121110201010101011102316131310191G5214
     1GbK1iEbB4d3CE2E1E1b4AfDbOSDbB4871E5eQ-O3G3C3gP6B40FB4bN896b78T2B41E8b7kN8D2C3A3bO104F2B49
     7eI1d6ba5bjwVb0eiT2fuD2hjGFtDcn2qTbp2eWA5ij9"),
  (["graphemeextend", "grext"],
    "y0dFiJ6i7bC10111110c8AbGKG0d56252113b30UQcRAbQ890O3181214bB2bR8bAN1VbN010474036A1T0bQ01023
     8090A1Q021bP041412230U130B1bP0441140K1M510bQ011138072A1U0bR010C090b8030bN012521371B1T0bQ02
     110321371B1S1bP110238090A1T0c8040221080cH026C7d2028B6c91R01010bND14115A1b390d63151121P142G
     3D02160F0vV2ZI3S2T1U1c0116802A90bD210dL1b20dM2419062gR120bQ0161010276920bGbD2BK3bG942b68C1
     b0325bO0113014bO721eO21C16406031g6bVqC0g3b0c_U2eD0d0VrA5d91ZoK319b01cG1iG03040P150eN1QHD0b
     67PA10bC2bG0232120b40c352121C080bF0bJ012215110bA180hE02040tzG0x1FGFlE1sT0h20eL4bu621153b82
     40f51rT3c14jT1cD5c6AbH3dR0bMEb9021A2bH32170bT2b4417bU0C1bK8108320cV2236020eT037L1bP11010C0
     90E634c30251020124210E1cL72210N0cH02510201111hB0236111R1cL72011dA01027d50102314i3811hL0A34
     0eG32140b09b8523809522bEC11g601210g961510cIL261111dQ530111610c813010kR1B1bK452N0fh506Elg8B
     32co04bR6baO0bV3cH0B1tfB1et1bD2MqU4358726U3eK2bZRbM4bH80E0M41EbkG61G261114d40f06lN0bT3pS3h
     U1hJ0207150oQ6dD6yfwLcVe0hF"),
  (["hexdigit", "hex"],
    "bG975Q5b_v9975Q5"),
  (["idsbinaryoperator", "idsb"],
    "l_G129pH0"),
  (["idstrinaryoperator", "idst"],
    "l_I1"),
  (["idcontinue", "idc"],
    "bG97P401PbF0A010205M1U1o94BE47010HdK11231064101J1cI1eA142f51b5206b88bC101111108Q43TA5c94d5
     17291I20GbQ2d4EbL40202bDIR4A5N167cA1e0291I17212L1610332821238041142BA0102215412L1611111120
     1441223073107FB218121L16111429121220F329961217212L1611142821227241142910G11532133110113132
     3B4432132060E9GC121M1F2812137112112329G317121M19142812137152132912CC121bI1214537429A5121H3
     N181026304510176921DbP5E19b7110141N101M2410161923b00N169B01010491b34J1H1b390bPc96cD2b51050
     2bA1kC132610132b8132b0132610132E1bO132c22298EFGcL253tB2G1P5cA3A7L9LBJCC1211CcJ304129b121A6
     cO7bA5c5AU1B4BAb724BbB4P6Ab5R4bU1S2A69D08D1U2BKcC39H8CdJCbN893bG2A5bA22G21b65qL252b5252710
     10101U2bK1610321633254C5216F1bH1J0S0D0GCbJC403BH0402910256010101F235440Hb8ctNh468Cb510502b
     N70FN96161616161616161Vq52PE14244cL261cU5bA1cTHVbGFq0gnVc0vuCc3bD2iC3RKbF491dIb582d62cHKbM
     40JbJCc5A96N301bG2b3CS3c0EA6U1bM9D296M3c8O22F24A5252596161bA1D6dQ11296kZ3CM4bGii4lD2d9b66C
     45B1C141011111dBb1lAIbV2bLb8B4FGF31O2b041e6J97P401PAcP35252522b3B1P1I111E2Db2dQc5bKe80e2S3
     bGF0VVDT5bA5T2b34714bAeT296b34b34b78bJCA1E16111A1E16113bJCjM9LA7O51b918c55201bB11302MAM9Uc
     1I11ALAP6Pb6bN61c031157121S2240b0S3Sb371TPbLALAIDHdEc8bNbIDbIDb7896b5341MhQb91131G5bIb2A08
     b0VLbAKRM9c6VF9bR70DO796bK19438b3209c4431C10b3H1b463bU610131E197bQ596317212L16111419212220
     60562634B910201b51910201317D1TcA5943Uc51089f6bL28N5b2c030B9b6bO796JSQ2E4966fPbQd5c9L720271
     11T1128C9c672bD2711RbU808c930Ic8d77cOb0F9681bC18F9OT2L1Dc96111bB3011188965111b41115796bB49
     hMM9G1b834DAcL0cFYPd6dEHg3csCd0FbbFGLAdYQ5s6gvPbPbw6rO7U196cE196T24BbM93C99K5InGbC39g6bVb0
     O2ObCcA4bO7Gc0111B69hgLb9Vd1dIipT316111j2F0T220E38mBci4dA5C387931ecH9q6bD2MqU4358726U3eK2n
     RcK1c6112021231B10161c01327161R131410361kJ2O1O1U1O1U1O1U1O1U1O172bHq0bM4bH80E0M41EbcGU65gL
     61G2611145bTb10dGbC3D2940k1UHbPoMb9gMbAg5U1L81h0613111E1g4B6b9cB49bf631Q111020191310106040
     1010121110201010101011102316131310191G52141GdjK9ba6bjwVb0eiT2fuD2hjGFtDcn2qTbp2eWA5ij9vte6
     hF"),
  (["idstart", "ids"],
    "c1P6PbF0A0405M1U1o94BE47010e141123106012101J1cI1eA8f51b5206b8c7Q43bDbAb311d210F171A220G01T
     TcOB0Ob091405L409030NO7A5N16Gb9bQbL30I079FF47212L16103330G0D112E1A085412L16111111V310J2G81
     21L16111430I0F1N0B7212L16111430U112F0H015321331101131323BM0bK7121M1F30Q21121U047121M191430
     U211F1H8121b820G05282O55H3N181026bQbF11C6bQ110141N101911902410L3b00bV71b3R4dJbAK0G54330317
     24CC0Hb510502bA1kC132610132b8132b0132610132E1bO132c2b5FGcL253tB2G1P5cA3A7HDIEHEC12FbJb3040
     c3cO7b8105c5AUbHT24BbB4PbMM9bKcI0cTbEH7bMTD1AbBQb3b92Ab32A5bA22b931511305fVc0iL252b5252710
     10101U2bK1610321633254C5216dK0D0GCd50402910256010101F235440Hb8ctNh46331Cb510502bN70GM96161
     61616161616r62P874244cL441cP135bA1cTHVbGFq0gnVc0vuCc3bD2iC3FA1KbEGU2cFb782d62cHKG12131MTbJ
     EbHbU53011BRAMPS7bES0G419A41b8N217KM303bH1031242010O22A72C5252596161bA1D6dITkZ3CM4bGii4lD2
     d9b66C450191C141011111dBb1lAIbV2bLb8BdK41e6b4P6PBcO35252522b3B1P1I111E2Db2dQc5bKiBS3bGbFVD
     T5b5AT2b34714bAeTIb34b34b78bJCA1E16111A1E16113bJCjM9LA7O51b918c55201bB11302MAM9Uc1I11ALAP6
     Pb6bN61c00F3121SbAS3Sb371RRbLALAIDHdEc8bNbIDbIDb3b6R9MhQb961G5bOSA08LbAHbEKRMCbKbP120DbCb0
     OQb3T0208b230CbFE3L010b3H1OJ1bV610131E197bEb67212L16111430I0C4U910201b510P010bCbKI3K2UbFK1
     10fObEb93b4bFK0bRbAD0c7Qb56fPbBdKbVV72027111NF010cU72b6G010S0Ab770L0BbDJ0Ic8g7b0V81b4H0bHT
     dG6111b5L0P5111VE0NbBi4IF01C1b1dS0cFYPd6dEHg3csCd0FbbFH5PdYQ5s6gvPTbx2rO7UHcEHTIbFG3VK5InG
     bCgJbVb0O2ObCcA50c2Cc0110E49hgLb9Vd1dIipT316111j2F0T220E38mBci4dA5C3879fX6cK1c6112021231B1
     0161c01327161R131410361kJ2O1O1U1O1U1O1U1O1U1O17bzKU65i5bTeIbCA6G0k1TIbBp4Rh4T20gFU12111624
     91h0613111E1g4bRc370bfK31Q1110201913101060401010121110201010101011102316131310191G52141Gek
     4bjwVb0eiT2fuD2hjGFtDcn2qTbp2eWA5ij9"),
  (["ideographic", "ideo"],
    "ma61P8E2-5gnVc0upVwi0lD2d9ZiA0D49hgLb9Vd1dIiXTmBti4bjwVb0eiT2fuD2hjGFtDcn2qTbp2eWA5ij9"),
  (["joincontrol", "joinc"],
    "iaC1"),
  (["logicalorderexception", "loe"],
    "ds04dR4cxG220behQ12011"),
  (["lowercase", "lower"],
    "d1PbF0A040b4N17101010101010101010101010101010101010101010101010101010111010101010101011101
     010101010101010101010101010101010101010101020101220102031402032202010102011102030102122602
     020101010101010101110101010101010101120103010101010101010101010101010101010101010101010101
     01010101016202110401010101c42b271U4d00bB0103023I0Rb21132101010101010101010101014102021bJbF
     101010101010101010101010101010101090101010101010101010101010101010101010101010101010101020
     101010101011101010101010101010101010101010101010101010101010101010101010101010101010101010
     101010101010101010bGb8cW7bA13xO5ce2810dLfVc10101010101010101010101010101010101010101010101
     010101010101010101010101010101010101010101010101010101010101010101010101010101010101010101
     010101010101810101010101010101010101010101010101010101010101010101010101010101010101010101
     01010101010101010101885A78785A7878D2787878411603211832187A211dP0D0GCdD03130R04040218340b1F
     40WBPbW6bF10311010104011173010101010101010101010101010101010101010101010101010101010101010
     101010101010101010101010101010101011701040Cb51050-iJ01010101010101010101010101010101010101
     0101010J010101010101010101010101012e501010101010121010101010101010101010101010101010101010
     101010101010101010101910102010101010401020121010101010101010101050501010101010101040102010
     101010101010L31012zLbA1D6cFtW06C4bb9PbgDb7e8b3eRA1E1611o30221b918bi5bIdTLczQVvm0VbROzk6PQ6
     1HQPQ310161AQPQPQPQPQPQPQPQPQRSO15QO15QO15QO15QO1510bzK91J65i5bTcfKb1"),
  (["math"],
    "bB0G2V0T010bD040b50V0wO220Q122qF2gqD0R2B030D0E3L4B4c1C403144I04029102560312112153D10c4N151
     1414V1061EiB83K1cQ0UQ10O0B6nT1C945412134E01025B751bP010T392kGbVi0pVbGK25bt-S0zN510f20G2T01
     0T010e3063dn11bql00biFcK1c6112021231B10161c01327161R131410361kJ2j32bHfq031Q111020191310106
     0401010121110201010101011102316131310191G52141GbK1coU8"),
  (["noncharactercodepoint", "nchar"],
    "b_oGVqE1b__U1b__U1b__U1b__U1b__U1b__U1b__U1b__U1b__U1b__U1b__U1b__U1b__U1b__U1b__U1b__U1"),
  (["patternsyntax", "patsyn"],
    "b1EA6Q310Q3b2610111011404030N0V0hyON8E2I19jHwFf0tLUbdBq0dVm124OF0btiD1i51"),
  (["patternwhitespace", "patws"],
    "94I0d40hY81O1"),
  (["quotationmark", "qmark"],
    "b2040e30F0hWS7P1dq70o93D2btr13fT040cQ1"),
  (["radical"],
    "lu0P1cOCgL"),
  (["regionalindicator", "ri"],
    "dYp6P"),
  (["sentenceterminal", "sterm"],
    "b10C0G0bk90eJ2fK0bB2hM0bT01031j51bx41yM041y50g61eT1bD050jQ1l23f21A121T2fR1c11Z40N192dfF2jI
     0D0M1nD0ZhS0iE1h3030lU1cM1cV0eO1eJ2eG1hP0ur6021bR031f90C0G0c10cxK1bhT4bC3fT1dL3dV2e1160G1c
     O111dC0jA1dL1lL15Ed91hP2q5010hR1cN1n41vK1cA1sz91e50c11B0r91j80tq60hp80"),
  (["softdotted", "sd"],
    "d91g40iP0U0bK0K0k00d2010gi90bJ0D030e40eT0n50gM1czI0djZ51bI1bI1bI1bI1bI1bI1bI1bI1bI1bI1bI1b
     I1ce60jH1Q0"),
  (["terminalpunctuation", "term"],
    "b10A010B130zU080q10bP0c80E012fK0bBA10hB1bM517V0i51bhK1fC045jN1yL7y50dS2c71eT230b7321jQ1l23
     f21A112T2fR4bU1Z40N192dfF2jI0D040A01131nC1ZhR1iD2h34lU1cM1cV0eN2eJ2dV0G1hP0ur6021bP213f90A
     010B130c1020bbQ0bG0be60g70jM1eO5c45cP3ZO4bC3fT6dG3dV2e1160G1cO4dC0jA1dL2C1l633Ed91hP2q5010
     hR1cN141mU2bD0u51cA1bjB4rpP1e50c12A0r91j71tq60hp73"),
  (["unifiedideograph", "uideo"],
    "na0gnVc0upVwqE11011A0101122cboMbjwVb0eiT2fuD2hjGFtDen2eWA5ij9"),
  (["uppercase", "upper"],
    "c1Pd5M16b101010101010101010101010101010101010101010101010101010102010101010101010201010101
     010101010101010101010101010101010101011101031101112231112311110101110201112101130702020201
     010101010101020101010101010101020201210101010101010101010101010101010101010101010101010101
     010107111201310101010j10103080601210111G18b30223010101010101010101010105020112bIbG01010101
     010101010101010101010101090101010101010101010101010101010101010101010101010101011101010101
     010201010101010101010101010101010101010101010101010101010101010101010101010101010101010101
     0101010102b5cW9b51050wIcLceJ06bA22k0010101010101010101010101010101010101010101010101010101
     010101010101010101010101010101010101010101010101010101010101010101010101010101010101010101
     010109010101010101010101010101010101010101010101010101010101010101010101010101010101010101
     01010101010109785A78785B010101087c83C3C3C4B3i6040322220346010101323A150QFJ0zIPbzGbFbG01220
     101013102082101010101010101010101010101010101010101010101010101010101010101010101010101010
     10101010101010101010801040-kD010101010101010101010101010101010101010101010J010101010101010
     101010101010e7010101010101030101010101010101010101010101010101010101010101010101010101010A
     010111010101040102010301010101010101010101414101010101010101310111010101010101010O0vzBPbg5
     b7e8b3eSA1E1611bxAbIeTLczQVvm0Vc0Ozk7PQPQPQ01120212317QPQ1132716R113141036RPQPQPQPQPQPUOb1
     Ob1Ob1Ob1Ob10ejLb1caEP6P6P"),
  (["variationselector", "vs"],
    "gaB210bzpGFWaxGhF"),
  (["whitespace", "wspace", "space"],
    "94I0d40Q0foV0clVAT150bF0dZ00"),
  (["xidcontinue", "xidc"],
    "bG97P401PbF0A010205M1U1o94BE47010HdK11321064101J1cI1eA142f51b5206b88bC101111108Q43TA5c94d5
     17291I20GbQ2d4EbL40202bDIR4A5N167cA1e0291I17212L1610332821238041142BA0102215412L1611111120
     1441223073107FB218121L16111429121220F329961217212L1611142821227241142910G11532133110113132
     3B4432132060E9GC121M1F2812137112112329G317121M19142812137152132912CC121bI1214537429A5121H3
     N181026304510176921DbP5E19b7110141N101M2410161923b00N169B01010491b34J1H1b390bPc96cD2b51050
     2bA1kC132610132b8132b0132610132E1bO132c22298EFGcL253tB2G1P5cA3A7L9LBJCC1211CcJ304129b121A6
     cO7bA5c5AU1B4BAb724BbB4P6Ab5R4bU1S2A69D08D1U2BKcC39H8CdJCbN893bG2A5bA22G21b65qL252b5252710
     10101U2bK1610321633254C5216F1bH1J0S0D0GCbJC403BH0402910256010101F235440Hb8ctNh468Cb510502b
     N70FN96161616161616161Vq52PE14244cL21221cU5bA1cTHVbGFq0gnVc0vuCc3bD2iC3RKbF491dIb582d62cHK
     bM40JbJCc5A96N301bG2b3CS3c0EA6U1bM9D296M3c8O22F24A5252596161bA1D6dQ11296kZ3CM4bGii4lD2d9b6
     6C45B1C141011111dBb1eA6gPIbV2bLb896FGF31O2b1010301010101dTJ97P401PAcP35252522b3B1P1I111E2D
     b2dQc5bKe80e2S3bGF0VVDT5bA5T2b34714bAeT296b34b34b78bJCA1E16111A1E16113bJCjM9LA7O51b918c552
     01bB11302MAM9Uc1I11ALAP6Pb6bN61c031157121S2240b0S3Sb371TPbLALAIDHdEc8bNbIDbIDb7896b5341MhQ
     b91131G5bIb2A08b0VLbAKRM9c6VF9bR70DO796bK19438b3209c4431C10b3H1b463bU610131E197bQ596317212
     L1611141921222060562634B910201b51910201317D1TcA5943Uc51089f6bL28N5b2c030B9b6bO796JSQ2E4966
     fPbQd5c9L72027111T1128C9c672bD2711RbU808c930Ic8d77cOb0F9681bC18F9OT2L1Dc96111bB30111889651
     11b41115796bB49hMM9G1b834DAcL0cFYPd6dEHg3csCd0FbbFGLAdYQ5s6gvPbPbw6rO7U196cE196T24BbM93C99
     K5InGbC39g6bVb0O2ObCcA4bO7Gc0111B69hgLb9Vd1dIipT316111j2F0T220E38mBci4dA5C387931ecH9q6bD2M
     qU4358726U3eK2nRcK1c6112021231B10161c01327161R131410361kJ2O1O1U1O1U1O1U1O1U1O172bHq0bM4bH8
     0E0M41EbcGU65gL61G2611145bTb10dGbC3D2940k1UHbPoMb9gMbAg5U1L81h0613111E1g4B6b9cB49bf631Q111
     0201913101060401010121110201010101011102316131310191G52141GdjK9ba6bjwVb0eiT2fuD2hjGFtDcn2q
     Tbp2eWA5ij9vte6hF"),
  (["xidstart", "xids"],
    "c1P6PbF0A0405M1U1o94BE47010e141132106012101J1cI1eA8f51b5206b8c7Q43bDbAb311d210F171A220G01T
     TcOB0Ob091405L409030NO7A5N16Gb9bQbL30I079FF47212L16103330G0D112E1A085412L16111111V310J2G81
     21L16111430I0F1N0B7212L16111430U112F0H015321331101131323BM0bK7121M1F30Q21121U047121M191430
     U211F1H8121b820G05282O55H3N181026bQbF10D6bQ110141N101910A02410L3b00bV71b3R4dJbAK0G54330317
     24CC0Hb510502bA1kC132610132b8132b0132610132E1bO132c2b5FGcL253tB2G1P5cA3A7HDIEHEC12FbJb3040
     c3cO7b8105c5AUbHT24BbB4PbMM9bKcI0cTbEH7bMTD1AbBQb3b92Ab32A5bA22b931511305fVc0iL252b5252710
     10101U2bK1610321633254C5216dK0D0GCd50402910256010101F235440Hb8ctNh46331Cb510502bN70GM96161
     61616161616r62P874244cL621cP135bA1cTHVbGFq0gnVc0vuCc3bD2iC3FA1KbEGU2cFb782d62cHKG12131MTbJ
     EbHbU53011BRAMPS7bES0G419A41b8N217KM303bH1031242010O22A72C5252596161bA1D6dITkZ3CM4bGii4lD2
     d9b66C450191C141011111dBb1eA6gPIbV2bLb89dN010301010101dTb4P6PBbN2U35252522b3B1P1I111E2Db2d
     Qc5bKiBS3bGbFVDT5b5AT2b34714bAeTIb34b34b78bJCA1E16111A1E16113bJCjM9LA7O51b918c55201bB11302
     MAM9Uc1I11ALAP6Pb6bN61c00F3121SbAS3Sb371RRbLALAIDHdEc8bNbIDbIDb3b6R9MhQb961G5bOSA08LbAHbEK
     RMCbKbP120DbCb0OQb3T0208b230CbFE3L010b3H1OJ1bV610131E197bEb67212L16111430I0C4U910201b510P0
     10bCbKI3K2UbFK110fObEb93b4bFK0bRbAD0c7Qb56fPbBdKbVV72027111NF010cU72b6G010S0Ab770L0BbDJ0Ic
     8g7b0V81b4H0bHTdG6111b5L0P5111VE0NbBi4IF01C1b1dS0cFYPd6dEHg3csCd0FbbFH5PdYQ5s6gvPTbx2rO7UH
     cEHTIbFG3VK5InGbCgJbVb0O2ObCcA50c2Cc0110E49hgLb9Vd1dIipT316111j2F0T220E38mBci4dA5C3879fX6c
     K1c6112021231B10161c01327161R131410361kJ2O1O1U1O1U1O1U1O1U1O17bzKU65i5bTeIbCA6G0k1TIbBp4Rh
     4T20gFU1211162491h0613111E1g4bRc370bfK31Q1110201913101060401010121110201010101011102316131
     310191G52141Gek4bjwVb0eiT2fuD2hjGFtDcn2qTbp2eWA5ij9")]

def binaryTable? (name : String) : Option CharTable :=
  (binaryProperties.find? fun entry => entry.1.contains name).map fun entry => .ofText entry.2

end Linewatch.Unicode
