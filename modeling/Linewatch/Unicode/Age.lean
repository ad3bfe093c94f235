import Linewatch.Unicode.CharTable

namespace Linewatch.Unicode

def ageNames : List (List String) :=
  [["1.1", "v11"], ["2.0", "v20"], ["2.1", "v21"], ["3.0", "v30"], ["3.1", "v31"],
   ["3.2", "v32"], ["4.0", "v40"], ["4.1", "v41"], ["5.0", "v50"], ["5.1", "v51"],
   ["5.2", "v52"], ["6.0", "v60"], ["6.1", "v61"], ["6.2", "v62"], ["6.3", "v63"],
   ["7.0", "v70"], ["8.0", "v80"], ["9.0", "v90"], ["10.0", "v100"], ["11.0", "v110"],
   ["12.0", "v120"], ["12.1", "v121"], ["13.0", "v130"], ["14.0", "v140"], ["15.0", "v150"]]

def ageRuns : RunTable := .ofText
  "pL033T0730506H326A7D8cO04316bE0039043G6c5083057647261003C53910191P0028000F3P600P000PJ00PbB00
   96003150003000300030003H01405463703B003c1003B003b8009131533bK0151015101508R01370171058F538F9
   1A1B7F0Pb501P600Jb600J00031P1F0C0PG107C190088001277PQ03P0J40AP360C0F4907008649000E0N07000BP0
   49I02326570BD015c70134003E003T016904306D30PT326Q31P26T7H9bG305DPbQ81P2JbDA1PEA0PRB1P0B0PAI4P
   UN0P1N5P7N0C0FAC5F1G0N7H9MAN0JEH0GQC0F0A2006bK01BH00A0B400A1BO0194B0F1A1807180F200P701P101PL
   00P600P002P301P0006601P101P20077P003P100P401PK00A1I0J1P0600060P503P101PL00P600P100P100P101P0
   00P403P101P202P096P300P006PE0090J9P200P6006000P200PL00P600P100P401P900P200P201P00EP00261P900
   C066P0G5I0P200P701P101PL00P600P100P06301P70091P101P206P0M103P100P20191PA0065B9P100P502P200P3
   02P100P000P102P102P202P7007203P402P200P301P095P00DP07B0764P0F200J700P200PM00P900F401P0N09600
   P200P306P100P190G1P0N1P10191P906P0K790H0F100J700P200PM00P900P401P16600P200P306P105P0N000P101
   81P900P180OBP0I0F100M700P200PM00BF00B1I0950090P200P300B0H3P2H006H0G10191P90592H690P0M130PH32
   PN30P830P031P632P033P530P030P735P9F1P23BPbP03PS0b4P100P000P0K100K000P0K005K300K600K200P000P0
   01K100KC00K201P400P000P500O0P901P101CVPc710Pb0103193PQ13B5103010PK123610301230PE30P090317293
   A1Bb4Pb13094309130963293359P3bV93A19b500P0C4P0C1Pb60151700072CcP04Ac304AcH05A6307bU307030P33
   1P630P030P331Pb6307030P331PU307030P331P630P030P331P6307630PM307U307030P331P6307b6307I31P1B17
   R32PP75PcK30G1P5G1P0AtL38AS32PcG37F6PC50N650N8P0NM58PJ5BPC50P250P15BPcS3061P935P965PE30N935P
   cN30J6Pb93094Pc5A9PS61F0PB63PB63P062Pb961P46APb971A3PP75P970A2P17V6R71P17bUA0PSA1PAA5P9A5PDA
   1PEF1MDNbGPcB80N2PbC81N0PbA92CB95CbJB7P3BbN92PE92PbI98H6PbAJ1P2J7C7Pb2A3C0I1F0K4PdB6cN768R9E
   F3I0N0H0B0A18eQ00139cP059L01P501Pb501P501P700P000P000P000PU01PbK00PE00PD01P500PI01P200P800Pb
   E003M00553451617056745090P3E60051PQ00P477B2PA001022315372A0B0D2F0G0I0NEPH01365073809EPbO0130
   607E50718092AbF00308390A1G3PcQ083B5hH0D50003dO00305T3bJ516A7B80AAB6F3H0Ib4013OPA0KPeA0J506eL
   095cF07375J016150703cL013B5179576A7091A16F708992A399A0BIA0B0A3BNA0F300B301BR00Bb200B000B302B
   000A601B60D5U02BN00BD00B67380C090C1BR539F5hV3pV5D657684938b892F494APF1PVF0P0Mb1F2JBF0K7F0IOJ
   3GEJ0KbE70NbE70NC8290A2938591AdA76A1C4PbC70P0C4P0C1PbL71C6P070BDP0BM78P670P670P670P670P670P6
   70P670P670PV9N73917I90A9C6F1H4I4J0K2MANb1PP30PcO3BPgL3PPB33PbN0232503000PcJ0151P5015cT0054Pb
   70090I0J0PcT00PF0N32B4MF7J9BPF5S0160Pb30BA06E5R01607bH0E5B036bE00LdM036d2016U006gnL39MbV6un5
   0L7797A0C8GKI4JCM2NbeC32PH315F305B3052305038PbFAjB9JPV91BH97CR95F0G0CcNA7PM7384918dA91B0G1B1
   CBF9B0C2F0H0J1F5G1J5K1N4K3M4P1N0P0N0P4NNP2N1M0F1C0B49bB70M2P9A5PbN87Pc490H7PB95PRA1G1JcJ9AP0
   9SA2PcDA0PAA3P1AUF0PbM98PD91P991P39RA3Fc2ANP4AMC9P5B1P5B1P5B8P6B0P6B0PbFF3G1F1K3M3PcFGbDA1P9
   A5PkZ31BPMA3PbGA3Pb_V1grD01CbQ52A1Pd97b5P60BP404P03O00P400P000P100P100PdB0FB0NFPlC0FNbV01PbL
   06P0NV4B005061NF5975P30296F1GK01516900PI00P303P2005000Pe601P000PcT015cT02P501P501P501P202P60
   0P609P230220B60PP60PI60P160PE61PD6b1PdQ64P263PbC62P86cA71F1H0PB90M2P0FbEPbD9e1PS92PbG9EPRF3P
   U40F348P2IQ44PbAF4PT60P06b373PD7b9Pb5416b54cF61P965Pb3H3Pb3H3Pb7F7PbJFAP0FAN0PEN0P6N0P1N0PAN
   0PEN0P6N0P1Nc2PjMF8PLF9P7FNP5N0Pb9N0P8Nc4P561P060PbB60P162P061P06LA0P8AbUF7P8FbFPIG0P1G4P4GP
   81A2P08P94P09bVPbNC3P1G1CFG1PbDG370P174P770P270PQ71J1P273P870J6P876PVAVFVPb6F3PBF8PbLA2PSA1P
   QA4P7AHF6P3FBP6FcFPc8AbMPbIGCPbIG6P5Gb7J7P9Jj5PUA0Pb9M0P2M1P1McAP2Ob7J7Pb9JLPPNb5PRMJPMK8PcD
   B3PTB5N8P0Fc1A0N9P0J1POC6P9C5PbKC0PDC2J0M7Pb6F8Pc8C3G0F1M9C0F4G0PJFAPHF0PbAF0H2ObTP6G0P0G0P3
   G0PEG0PAG5PbQF4P9F5P0G2F0P7F1P1F1PLF0P6F0P1F0P4F0P0J8F1P1F1P2F1P0G5P0F4P6F1P6F2P4FeAPcPH0M0H
   0P0H0J0K1MTPc7F7P9Ff5PbLF1PHFJGb1Pc4FAP9F5PCHIPbNC0K0N5P9CbLPPG0J1PEG3PFG6NfOPbRJd3PcIFBP0F6
   M1P0M1P7M0P1M0PTM0P1M1PBM8P9Mc5P7K1PbDK1PAKQPc7I7PbJI1KMI0J4ICPFNbOF6P9OhLP8H0PbCH0PDH9PSH2P
   VH1PLH0PDHc8P6I0P1I0PbBI2P0I0P1I0P8I7P9I5P5J0P1J0Pb4J0P1J0P5J6P9JjLPOJ6PGO0Pb8O2PROcLP0MEPbH
   KCP0KXE8b9F0Gd5Pd28BF0P380FAPg3GcsBPd2NCPbbEA0O8KSOdZ9Ps6GinOPrOB6PUF0P9F3P1FcEN0P9N5PTF1P5F
   9Pc5F9P9F0P6F0PKF4PIFvFPcQJd4Pc4C5K3P0KbEC8K6PGCbVP0H0I1K0MAP1MDPf_CH4J5K7PxIHp2Mb9P8Mix6P3N
   0P6N0P1N0P1BiSI3NEP0OSP2K1P0ODP3K7PmBIci3PdAF4PCF2P8F6P9F1P7FesRPbDN1PMN8PdJNbRPhL49Pb641P09
   fJ4AG1NKPc57dPPJOBPJJBPcM68PH86Je6PcK40Pc640P141P041P141P340PB40P040P3406140Pc040P341P740P64
   0PR40P340P440P042P640PkH4171Pj14181PbH4uBGEP4G0PEGbcFPUN5P5OgKP6H0PGH1P6H0P1H0P4H4PbTOb0P0Od
   FPbCK2PDK1P9K3P1KjVPUNGPbPK4P0KoFPb9Ox5P6N0P3N0P1N0PEN0Pg4F1PFFb8PcAH0K3P9H3P1HyGPc3JcBPbSKg
   1P3C0PQC0P1C0P0C1P0C0P9C0P3C0P0C0P0C5P0C3P0C0P0C0P0C0P2C0P1C0P0C1P0C0P0C0P0C0P0C0P0C0P1C0P0C
   1P3C0P6C0P3C0P3C0P0C0P9C0PGC4P2C0P4C0PGCbJP1CiDPbB93Pd39BPEB1PDB0F0PEB0PEBLF9PAA1F2MUA0J0B0A
   AB0A0B0A1B0A2B0A2B4A7B0A6B0A9B1C0K2M8B0A0B1A1B0A9B3A1B0A9BHH0MbNPPB0A1BCPb1A8B0H3P8A6P1BDP5I
   ePPb0BBF2G5B0Fc5B0F1GJBBFb4B0F4B3F4GBFGB6F7GbUB0F0B0FfLB0F3B1F0GbTB1F3C6F4GNBHF0Hb8F0HcLF4B0
   CFB0C2B0C0B0C0B0C0B0C2B0C5B1C3B0C0B1C3B0CBB1F1GABbFFc5B9F0G1H1I0K1M3P0O2NCF2P3F2H1I0J0K1M2Pd
   JB2O3P4OcKF3J0O5PBK3P0NEPBF3PbNF7P9F5Pb7F7PTF1P1McDPBI0M2K8G5H0I7H7I0H1IBH0KBH0I2JEHCI4J0K0M
   3J1M0N0J0K3J4GCH5IAJ1M5K2M1K9J5K0G1J7K0M0N2KMIOJcJKBPDJ1P3K0M2O2K1N2P2K3M1O6P5KIM3N2O6M3N2O0
   P0O2M2N7P1O6M2N1O3P7N0O6P6N1O6PeIM0PbMMb4P9Mba3P11bjwM46M1NVPebKA3N0O5PgTB1Pfu1GDPhjGIdaUPqT
   4boVP11eWAM4PecVObxcDP11b__TP11b__TP11b__TP11b__TP11b__TP11b__TP11b__TP11b__TP11b__TP11b__TP
   110P04TPcV4dVPhF6b_qDPeaa11"

/-- The characters that the named version knew: its own and those of every version before. -/
def ageTable? (name : String) : Option CharTable :=
  (ageNames.findIdx? (·.contains name)).map fun n => ageRuns.table (· ≤ n)

end Linewatch.Unicode
