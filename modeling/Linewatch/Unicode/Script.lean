import Linewatch.Unicode.CharTable

namespace Linewatch.Unicode

/-- The names of the scripts, without case, blanks, hyphens and low lines, in the order of their
numbers. -/
def scriptNames : List (List String) :=
  [["adlm", "adlam"], ["aghb", "caucasianalbanian"], ["ahom"], ["arab", "arabic"],
   ["armi", "imperialaramaic"], ["armn", "armenian"], ["avst", "avestan"], ["bali", "balinese"],
   ["bamu", "bamum"], ["bass", "bassavah"], ["batk", "batak"], ["beng", "bengali"],
   ["bhks", "bhaiksuki"], ["bopo", "bopomofo"], ["brah", "brahmi"], ["brai", "braille"],
   ["bugi", "buginese"], ["buhd", "buhid"], ["cakm", "chakma"], ["cans", "canadianaboriginal"],
   ["cari", "carian"], ["cham"], ["cher", "cherokee"], ["chrs", "chorasmian"],
   ["copt", "coptic", "qaac"], ["cpmn", "cyprominoan"], ["cprt", "cypriot"],
   ["cyrl", "cyrillic"], ["deva", "devanagari"], ["diak", "divesakuru"], ["dogr", "dogra"],
   ["dsrt", "deseret"], ["dupl", "duployan"], ["egyp", "egyptianhieroglyphs"],
   ["elba", "elbasan"], ["elym", "elymaic"], ["ethi", "ethiopic"], ["geor", "georgian"],
   ["glag", "glagolitic"], ["gong", "gunjalagondi"], ["gonm", "masaramgondi"],
   ["goth", "gothic"], ["gran", "grantha"], ["grek", "greek"], ["gujr", "gujarati"],
   ["guru", "gurmukhi"], ["hang", "hangul"], ["hani", "han"], ["hano", "hanunoo"],
   ["hatr", "hatran"], ["hebr", "hebrew"], ["hira", "hiragana"],
   ["hluw", "anatolianhieroglyphs"], ["hmng", "pahawhhmong"], ["hmnp", "nyiakengpuachuehmong"],
   ["hung", "oldhungarian"], ["ital", "olditalic"], ["java", "javanese"], ["kali", "kayahli"],
   ["kana", "katakana"], ["kawi"], ["khar", "kharoshthi"], ["khmr", "khmer"],
   ["khoj", "khojki"], ["kits", "khitansmallscript"], ["knda", "kannada"], ["kthi", "kaithi"],
   ["lana", "taitham"], ["laoo", "lao"], ["latn", "latin"], ["lepc", "lepcha"],
   ["limb", "limbu"], ["lina", "lineara"], ["linb", "linearb"], ["lisu"], ["lyci", "lycian"],
   ["lydi", "lydian"], ["mahj", "mahajani"], ["maka", "makasar"], ["mand", "mandaic"],
   ["mani", "manichaean"], ["marc", "marchen"], ["medf", "medefaidrin"],
   ["mend", "mendekikakui"], ["merc", "meroiticcursive"], ["mero", "meroitichieroglyphs"],
   ["mlym", "malayalam"], ["modi"], ["mong", "mongolian"], ["mroo", "mro"],
   ["mtei", "meeteimayek"], ["mult", "multani"], ["mymr", "myanmar"], ["nagm", "nagmundari"],
   ["nand", "nandinagari"], ["narb", "oldnortharabian"], ["nbat", "nabataean"], ["newa"],
   ["nkoo", "nko"], ["nshu", "nushu"], ["ogam", "ogham"], ["olck", "olchiki"],
   ["orkh", "oldturkic"], ["orya", "oriya"], ["osge", "osage"], ["osma", "osmanya"],
   ["ougr", "olduyghur"], ["palm", "palmyrene"], ["pauc", "paucinhau"], ["perm", "oldpermic"],
   ["phag", "phagspa"], ["phli", "inscriptionalpahlavi"], ["phlp", "psalterpahlavi"],
   ["phnx", "phoenician"], ["plrd", "miao"], ["prti", "inscriptionalparthian"],
   ["rjng", "rejang"], ["rohg", "hanifirohingya"], ["runr", "runic"], ["samr", "samaritan"],
   ["sarb", "oldsoutharabian"], ["saur", "saurashtra"], ["sgnw", "signwriting"],
   ["shaw", "shavian"], ["shrd", "sharada"], ["sidd", "siddham"], ["sind", "khudawadi"],
   ["sinh", "sinhala"], ["sogd", "sogdian"], ["sogo", "oldsogdian"], ["sora", "sorasompeng"],
   ["soyo", "soyombo"], ["sund", "sundanese"], ["sylo", "sylotinagri"], ["syrc", "syriac"],
   ["tagb", "tagbanwa"], ["takr", "takri"], ["tale", "taile"], ["talu", "newtailue"],
   ["taml", "tamil"], ["tang", "tangut"], ["tavt", "taiviet"], ["telu", "telugu"],
   ["tfng", "tifinagh"], ["tglg", "tagalog"], ["thaa", "thaana"], ["thai"], ["tibt", "tibetan"],
   ["tirh", "tirhuta"], ["tnsa", "tangsa"], ["toto"], ["ugar", "ugaritic"], ["vaii", "vai"],
   ["vith", "vithkuqi"], ["wara", "warangciti"], ["wcho", "wancho"], ["xpeo", "oldpersian"],
   ["xsux", "cuneiform"], ["yezi", "yezidi"], ["yiii", "yi"], ["zanb", "zanabazarsquare"],
   ["zinh", "inherited", "qaai"], ["zyyy", "common"], ["gara", "garay"],
   ["gukh", "gurungkhema"], ["krai", "kiratrai"], ["onao", "olonal"], ["sunu", "sunuwar"],
   ["todr", "todhri"], ["tutg", "tulutigalari"], ["sidt", "sidetic"], ["tols", "tolongsiki"],
   ["berf", "beriaerfe"], ["tayo", "taiyo"]]

def scriptRuns : RunTable := .ofText
  "c0f2Pc55f2Pc5bEf20c5Ef20c54f2Mc50f2Uc50f2o0c5b6f24c54f21DJf2dFf13bB0f22bB1fE3bB0f20bB3fE0bB0
   f20bB0f22bB0fE0bB0fEJbB0fEbUbBDOFbBe4R1f1f8R0fEb551fEbH51fE250fEbMbI7fEQbI3fE5bIAfE430f2530f
   2D30f2230f2V30f293Af1P30f1dB30f2b13De60fEbRe61fE2e6bF3bHeHDfEbQd21fE2d2bDdN1fEEdN0fERcF1fE0c
   F0fEAe64fEb134fEcA30f2S3cGS3f1ES1f2PS3B0fE7B1fE1B1fELB0fE6B0fE0B2fE3B1fE8B1fE1B1fE3B7fE0B3fE
   1B0fE4B1fEOB1fE2bD0fE5bD3fE1bD1fELbD0fE6bD0fE1bD0fE1bD0fE1bD1fE0bD0fE4bD3fE1bD1fE2bD2fE0bD6f
   E3bD0fE0bD6fEGbD9fE2bC0fE8bC0fE2bC0fELbC0fE6bC0fE1bC0fE4bC1fE9bC0fE2bC0fE2bC1fE0bCEfE3bC1fEB
   bC6fE6bC0fE2d70fE7d71fE1d71fELd70fE6d70fE1d70fE4d71fE8d71fE1d71fE2d76fE2d73fE1d70fE4d71fEHd7
   9fE1eB0fE5eB2fE2eB0fE3eB2fE1eB0fE0eB0fE1eB2fE1eB2fE2eB2fEBeB3fE4eB2fE2eB0fE3eB1fE0eB5fE0eBDf
   EKeB4fECeE0fE2eE0fEMeE0fEFeE1fE8eE0fE2eE0fE3eE6fE1eE0fE2eE0fE1eE1fE3eE1fE9eE6fE8eECc10fE2c10
   fEMc10fE9c10fE4c11fE8c10fE2c10fE3c16fE1c14fE2c10fE3c11fE9c10fE2c1BfECcM0fE2cM0fEbIcM0fE2cM0f
   E5cM3fEFcM1fEPcM0fE2dV0fEHdV2fENdV0fE8dV0fE0dV1fE6dV2fE0dV3fE5dV0fE0dV0fE7dV5fE9dV1fE2dVBfEb
   PeI3fE0f2ReIb4fE1c40fE0c40fE4c40fENc40fE0c40fEMc41fE4c40fE0c40fE6c40fE9c41fE3c4VfEc7eJ0fEb3e
   J3fEb6eJ0fEb3eJ0fEEeJ0fE6eJ3f21eJb4fEeVcSb5b50fE0b54fE0b51fEbAb50f23b5hVbEc8b40fE3b41fE6b40f
   E0b40fE3b41fEb8b40fE3b41fEb0b40fE3b41fE6b40fE0b40fE3b41fEEb40fEbOb40fE3b41fEc2b41fEVb42fEPb4
   5fEcLM1fE5M1fEtVJSd42fEcAdM2f2AdM6fELeG8fE0eGKbG1f28fEJHBfECe70fE2e70fE1e7BfEcTbU1fE9bU5fE9b
   U5fE1cO1f20cO0f2JcO5fEcOcO6fEbAcO4fEc5J9fEUc70fEBc73fEBc73fE0c72fEBc7Te91fE4e9AfEbBeA3fEPeA5
   fEAeA2fE1eAVbURG1fE1GbUc30fESc31fEAc35fE9c35fEDc31fEbDf11fEBf1JfEcC70fEbH7bVe4bJA7fE3AbNc62f
   EEc62fE2c6bFd5AR4fEbAb51fE2b57e47fE2f10f2Cf10f26f13f20f15f20f12f21f10f24fEb5c54bB0RbGc54bB3c
   54bBCc50Rc5c50bBbVf1hVc5LbB1fE5bB1fEb5bB1fE5bB1fE7bB0fE0bB0fE0bB0fE0bB0fEUbB1fEbKbB0fEEbB0fE
   DbB1fE5bB0fEIbB1fE2bB0fE8bB0fEBf21f1cMf20fEAf20c51fEAf20c5Ef20fECc52fEb1f2DfEb0f1EfEb5f20bB2
   f21c55f20c5Qf20c5Gf2b8c52f23fEuPf2LfEAf2KfEYVf2hVFtJf21fEe9f2cVb6Vc5dJO4fE6Ob5b50fE0b54fE0b5
   1fEbNeF6fE1eFDfE0eFMb48fE6b40fE6b40fE6b40fE6b40fE6b40fE6b40fE6b40fE6b40fEVRcTf2b1fEPbF0fEcOb
   FBfEgLbFPfEKf20bF0f20bFOf28bF3f11bE7f23bF3f20fEcLbJ1fE1f11f22bJ0f2cPbR1f22bR4fEbAD0fEcTbE0fE
   Ff2VDb5f28fE0f2FbRUbE0fEbVf2UbEcGf2bEbR0f2cNbRf7f2gnVbFbVf2upVbFbeCeV2fEbMeV8fEbFcAjBeOJfEcV
   RcN87fEb1f2d5c52f2cHc5JfEEc5bCe52fE9f25fEbNdE7fEc5dP7fEBdP5fEVSbDbQ0f20bQb3dKAfE0dKSbE2fEcDb
   P0fE0f29bP3fE1bPUcS0fEbML8fEDL1fE9L1fE3LVcSc2eDNfE4eDMcQ9fE5b41fE5b41fE5b48fE6b40fE6b40fEbAc
   50f28c50bB3c51f23fEcFMbDcQ1fE9cQ5fEkZ3bEBfEMbE3fEbGbEii3fElDbF1fEd9bFb5fE6c5BfE454fEPbI0fE4b
   I0fE0bI0fE1bI0fE1bI0fE9bIpD31f2eF3VfEF3Ff19f25fEDf11Rb2f20fEIf20fE3f23fE430fEe631fE0f20fEVf2
   Pc55f2Pc5Af29bR0f2bCbR1f2UbE2fE5bE1fE5bE1fE5bE1fE2bE2fE6f20fE6f29fE4f21fEBc90fEPc90fEIc90fE1
   c90fEEc91fEDc9b1fEdQc94fE2f23fEbCf22fE8f2cEbB0fECf22fE0bBbEfEbCf20f1e1fEScB2fEbGKEfE0f1Qf23f
   Eb3bO8fE2bOQb94fEbAdD4fETeN0fE0eNb3eS3fEDeSb9fEcFVbFdRTd91fE9d95fEb3d83fEb3d83fEb7b27fEbJ1Af
   E01AeP0fEEeP0fE6eP0fE1eP0fEAeP0fEEeP0fE6eP0fE1eP2fEbJf8BfEjMc88fELc89fE7c8NfE5c50fEb9c50fE8c
   5c4fE5Q1fE0Q0fEbBQ0fE1Q2fE0Q1fE0QL40fE84VdBUd07fE8d0bFfEIbH0fE1bH4fE4bHRdH2fE0dHPcC4fE0cCPfA
   b5fEVcLNcK3fEJcK1fEbDcK3bT0fE1bT4fE7bT0fE2bT0fESbT1fE2bT3fE9bT6fE8bT6fEVdOVcVVfEb6cG3fEBcG8f
   EbL62fE66LdJ1fE7dJIdF4fE7dFHdG6fE3dGBfE6dGcFfEc8d6bMfEbIbNCfEbIbN6fE5bNb7dL7fE9dL5fEb5f32fES
   f37fE1f3gFfEU30fEb9eU0fE2eU1fE1eUFfE537fE83b0fE53b7e17fEb9e0LfEPdAb5fERNJfEMb38fEcDE3fEb3E8f
   E0Ec2c29fE0c21fEOe26fE9e25fEbKI0fEHI7fEb6cD8fEcVdS0fEJdVAfEHbV0fEbEbVbTfE6cR0fE0cR0fE3cR0fEE
   cR0fEAcR5fEbQdU4fE9dU5fE3bA0fE7bA1fE1bA1fELbA0fE6bA0fE1bA0fE4bA0fE0f18bA1fE1bA1fE2bA1fE0bA5f
   E0bA4fE6bA1fE6bA2fE4bAAfE9f90fE0f91fE0f90fEb5f90fE9f90fE0f91fE0f90fE3f90fE9f90fE1f97fE1f9SfE
   cRd10fE4d1TfEc7eK7fE9eKf5fEbLdT1fEb5dTb1fEc4cNAfE9cN5fECcOIfEbPe85fE9e85fEJcSRfEQ21fEE23fEM2
   fOfEbRUd3fEcIeQBfE0eQ6T1fE0T1fE7T0fE1T0fETT0fE1T1fEBT8fE9Tc5fE7cU1fEbDcU1fEAcUQfEc7f07fEcIe3
   CfEFJbOdC6fE9ScLfE7dScNfEb1f7DfE9f75fE8C0fEbCC0fEDC9fESC2fEVcH1fELcH0fEDcHc8fE6b80fE1b80fEbB
   b82fE0b80fE1b80fE8b87fE9b85fE5b70fE1b70fEb4b70fE1b70fE5b76fE9b75fEbBfB3fE9fBhLfEOcE6fEGbS0fE
   b8bS2fESbScKfE0cAEfEbHeBCfE0eBYPeTd5fEdEeT0fE4eTAfEg3eTcsBfEd2PCfEbcLb19fEdYQb14fEs6bKgvOfEb
   Pf4bw5fErO86fEUcP0fE9cP3fE1cPcEeL0fE9eL5fET91fE599fEc5bL9fE9bL0fE6bL0fEKbL4fEIbLnFfEbPf5g5fE
   cQcI4fEOfC1fEOfCbBfEcAdI3fEbOdI6fEGdIbVfE0eC0d31bF0c0AfE6bF8fEgxVeCoLc0b8fE0c0UeCd0fEdIeCipS
   fE3bR0fE6bR0fE1bR0fE0bRiUbJ2bREfE0bJSfE2bJ1fE0bRDfE3bR7fEmBd3ci3fEdAb04fECb02fE8b06fE9b01fE3
   b03f2dWRfEhSf22fEnJf25fEMf2EfEGf2EfEbDf11fEMf18fEdJf2bRfEhLf29fEb6f21fEbTf22f1Gf27f11f26f1Tf
   23f1bSf2KfEc5bBdPfEJf2BfEJf2BfEcMf28fEOf2e6fEcKf20fEc6f20fE1f21fE0f21fE1f21fE3f20fEBf20fE0f2
   0fE6f20fEc0f20fE3f21fE7f20fE6f20fERf20fE3f20fE4f20fE0f22fE6f20fEkJf21fEj3f21fEbHf2uBdQEfE4dQ
   0fEEdQbcFfEUc55fE5c5gKfE6b60fEGb61fE6b60fE1b60fE4b64fEbTRb0fE0RdFfEbCbM2fEDbM1fE9bM3fE1bMjVf
   EUeMGfEbPeR4fE0eRoFfEb9cTgLfEbAf63fE0f6fVfEUfD0fELfD7fE1fDgVfE6b40fE3b40fE1b40fEEb40fEg4cJ1f
   EFcJb8fEcB03fE903fE10yGfEc3f2cBfEbSf2g1fE330fEQ30fE130fE031fE030fE930fE330fE030fE035fE033fE0
   30fE030fE030fE230fE130fE031fE030fE030fE030fE030fE030fE130fE031fE330fE630fE330fE330fE030fE930
   fEG34fE230fE430fEG3bJfE13iDfEbBf23fEd3f2BfEEf21fEEf20fEEf20fEb4f29fEfDf2bNfEPf20bJ1f2CfEbBf2
   3fE8f26fE1f2DfE5f2ePfE-Of22fEGf22fECf22fEgPf25fEBf23fE0f2EfEBf23fEbNf27fE9f25fEb7f27fETf21fE
   Bf23fE1f2DfE8f2b6fEkNf27fEDf21fECf22fEAf22fEbOf20fE0f23fEFf21fEBf23fE9f26fEeIf20fEd6f2ba4fEb
   jwVbFVfEeiTbF1fEfuDbF1fEhjGbFEfEtDbFcn1fEqTbFbp1fEeWAbF4fEij9bFvsY6fE0f2TfEcVf2dVfEhFf1f_qFf
   E"

def scriptGuests : List (Nat × String) := [
  (0, "bqV0b00gqE0dpH0"),
  (1, "y40bC0bC0"),
  (3, "bqC0E030b00AAQ0goU0dpH0btxS1bn0R"),
  (5, "y80"),
  (6, "fN0llO1"),
  (11, "vS0buK1H1eXA01021108080204022bc_P0"),
  (13, "w7012D0lj72491CA32060g30btk91iQ4"),
  (16, "bkoF0"),
  (17, "fzL1"),
  (18, "cp69bsG9"),
  (20, "fN0hZ2020doJ0"),
  (22, "y021061M1B1"),
  (24, "fN0s803110dC1kv10bvg8R"),
  (25, "cai01"),
  (26, "cai024bC38"),
  (27, "vS0c321010102050lJ1glH0ecA0"),
  (28, "vS0buK1H1eXAb611_M0bbzV9"),
  (30, "cl4Bbhw09"),
  (32, "fN0sF110O1kyN0ddt33"),
  (34, "fN0sD0"),
  (36, "yE0"),
  (37, "fN0bgH0cXH0dWU0doM0"),
  (38, "fN0sB010lU020i10cXH0dWU0dp80-bB0"),
  (39, "fN0cfC1"),
  (40, "cl41"),
  (41, "fN0sC120b80"),
  (42, "ckH1H1u0DegS011U231_M0bYsA0deK110"),
  (43, "fN0s81201010A0bE020bE0gsB1uR0"),
  (44, "ckH1H1bhwA9"),
  (45, "ckH1H1bhwA9"),
  (46, "ma12491CG060g30btk91iQ4"),
  (47, "fN0lzOF1220191CA3206043fR0eKFb0b590bGb7bObGFBbJ0cOOA4d0UYy17vzT1iQ4bu_QHhwU1"),
  (48, "fzL1"),
  (50, "y71"),
  (51, "ma12491CG51041cR330cQ1btk81iQ4A0bD1"),
  (55, "icQ020doJ0F0"),
  (57, "bkoF0"),
  (58, "bkjE0"),
  (59, "y50T0lgT2491CG51041cR330cQ1btk81iQ4A0bD1"),
  (63, "cx69bhk09"),
  (65, "ckH1H1eXA01160N010bczR5"),
  (66, "cl69jg10-pU9"),
  (69, "fN0q40A012109010b6E1110F27111b60504CiL1bgA1bZ80dhS0rM0g00dj60-h87r60"),
  (71, "cl50"),
  (72, "cai7bC"),
  (73, "cai024bC38"),
  (74, "vS0G0ljS1"),
  (75, "icQ0"),
  (76, "fN0llP0"),
  (77, "fN0cfCBbhw09"),
  (79, "bs00"),
  (80, "bs00"),
  (85, "icT0"),
  (86, "ckH1H1eXK0N0bczT2"),
  (87, "bkbG9"),
  (88, "ga2110cb90d-H153"),
  (91, "ct69"),
  (92, "bkjE0"),
  (94, "ckH0I1Y09d_P08070bczL5"),
  (97, "ckH1eY201190601010"),
  (98, "bqC0E030bZyU1"),
  (102, "icQ0doL0"),
  (103, "ckH1H1eXK0N0"),
  (104, "y102060cC0"),
  (106, "bs00cbfH0"),
  (109, "fN0s8052A0lF0"),
  (110, "ga2110cb90d-I0"),
  (112, "bs00"),
  (117, "bqC0E030b00eJ0"),
  (118, "fxB2"),
  (119, "lrH0"),
  (123, "fN0"),
  (124, "ckH0eY501021209020bcW2520"),
  (126, "cl41bhwA9"),
  (127, "cl41eYC0"),
  (128, "bs00"),
  (133, "cl41e09"),
  (134, "y312110O27111wQ0E120b00AAQ0fY7010"),
  (135, "fzL1"),
  (136, "cl41bhwA9"),
  (137, "y015130djJ9"),
  (139, "ckH1H1eXK0bdaO0WqD010bN1"),
  (140, "l_GFpF0"),
  (142, "ckH1H1eXF11010N0"),
  (143, "y201013P0"),
  (144, "fzL1"),
  (145, "bqC0E120c09bZY80A0"),
  (146, "vS0Q0bB0bD0"),
  (147, "ma83"),
  (148, "ckH1H1eXF0C0F0bczT9"),
  (150, "vS0"),
  (158, "bqC0E030c09"),
  (159, "ma115927gV0btt54"),
  (163, "bqC0E030"),
  (164, "cl50"),
  (166, "cl41"),
  (167, "y01109020S030"),
  (168, "y1020209010cA0"),
  (169, "dh69ea2010bczR5fR0")]

/-- The characters shared by all scripts and those taken from the character before, less those that
some script claims: for these two the extended set is smaller than the plain one. -/
def scriptShared : List (Nat × String) := [
  (161, "yF0201E36202F111H1413bpG1ekRbD2BwMbL1014qC1g2VbxiGFGD-F0bti2bD2Mr02H726U3ylWIhF"),
  (162, "0c0Q5QbE1B1114N0V0o12191030181015542JdU06010tT0gN0q40bkS0mL3eb7B2b01U1911161A3A1EHb1b
          Ub512251Q1Gb924uPMALYVi0tJ2e9q0M1N2913101Pn2030D0D0L0qHNV0bHEC3f195cVV0go0bVwi8Pd62-G
          0E1uv49MK2B1I13eJ01VQ5Q5dV616A4mICbJbCbsq3hS3nJ6MFGcVdJbShLAb62bT3G817T4bSgLJCJCcMR6e
          7cK1c6112021231B10161c01327161R131410361kJ2j32bHfdHc3cCbSw2bB4d3CE2E1E1b4AfDbOP11DbB4
          8N5eQ-O3G3C3gP6B40FB4bN896b78T2B41E8b7kN8D2C3A3bO104F2B497eI1d6yba60UcV")]

def scriptNumber? (name : String) : Option Nat :=
  scriptNames.findIdx? (·.contains name)

def scriptTable? (name : String) : Option CharTable :=
  (scriptNumber? name).map fun n => scriptRuns.table (· == n)

def scriptExtensionTables? (name : String) : Option (CharTable × CharTable) :=
  (scriptNumber? name).map fun n =>
    match scriptShared.lookup n with
    | some text => (.ofText text, ⟨#[]⟩)
    | none =>
      (scriptRuns.table (· == n), (scriptGuests.lookup n).elim ⟨#[]⟩ CharTable.ofText)

end Linewatch.Unicode
