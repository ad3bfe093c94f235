import Linewatch.Text.Blank
import Linewatch.Unicode.CharMap

namespace Linewatch.Unicode

/-- The characters of Unicode 17 from 128 on, each with the others that fold to the same character. -/
def foldMap : CharMap := .ofText
  "fL2boEbqEB1c011c011c011c011c012c0qgC11c011c011c011c011c011c011c011c011c011c011c011c011c011c0
   11c011c011c021c011c011c011c011c011c011c011oXU11bV11bV11bV11bV11bV12bVqeC11bV11bV11bV11bV11bV
   11bV11bV11bV11bV11bV11bV11bV11bV11bV11bV11bV11bV21bV11bV11bV11bV11bV11bV11bV11hI112111112111
   11211111211111211111211111211111211111211111211111211111211111211111211111211111211111211111
   21111121111121111121111121111121111121113121111121111121112121111121111121111121111121111121
   11112111112111212111112111112111112111112111112111112111112111112111112111112111112111112111
   11211111211111211111211111211111211111211111211111211111211111hH11211111211111211112sNqN11m6
   11n411211111211111mS11211111mQ11mQ11211121eU11mK11mM11211111mQ11mU11g211n611n211211111k611ct
   e211n611nA11i411nC11211111211111211111nK11211111nK31211111nK11211111nI11nI11211111211111nM11
   211131211121dG522412121231122412121231122412121231112111112111112111112111112111112111112111
   11211111eT11211111211111211111211111211111211111211111211111211122241212123111211111g111dF11
   21111121111121111121111121111121111121111121111121111121111121111121111121111121111121111121
   1111211111211111211111211111i321211111211111211111211111211111211111211111211111211171vcM112
   11111k511vcG11vdU11vdU11211111m511eA11eE11211111211111211111211111211111vbU11vbO11vbS11n311m
   R21mP11mP21mJ21mL11csuU41mP11csuM21mT11cswE11cssG11csu821n111n511csu811u_E11csu231n521u_Q11n
   931nB81u-E31nJ21csu611nJ41cssK11nJ11e911nH11nH11eD61nLB1csrA11csr4f73f8h8ohIbB12111112111312
   11141i411i411i421h871cC21cA11cA11cA21e021dU11dU11oe611c012c0dS11c011c012c0g011c011c013c0dIfO
   13f7c0ocA12c0fC11c012boDc011c011c011c012c0dC12c0f022bUc011c011c012c0cU11c011c012c0oxQ11c011c
   011cB11c911c911c911od611bV12bVbS11bV11bV12bVe011bV11bV13bVbIdO13h7bVoaA12bVdC11bV12bqDbV11bV
   11bV11bV12bVbC12bVd012bT212bV111bV11bV12bVU11bV11bV12bVovQ11bV11bV11dV11dT11dT11G12dRbR13dHb
   Hc642cTT12dBbB11F11211111211111211111211111211111211111211111211111211111211111211111211112f
   BdB12eVcV11E11h713fNdNc512fVdV21211111D11211121i311i311i311f011f011f011f011f011f011f011f011f
   011f011f011f011f011f011f011f011c011c012c0mgS11c012c0mgQ11c011c011c011c011c011c011c011c011c01
   2c0mg811c011c012c0mg413c0mg4mg611c011c011c011c011c011c011c012c0mfO11c011c011c011c011c011bV11
   bV12bVmeS11bV12bVmeQ11bV11bV11bV11bV11bV11bV11bV11bV11bV12bVme811bV11bV12bVme413bVme4me611bV
   11bV11bV11bV11bV11bV11bV12bVmdO11bV11bV11bV11bV11bV11eV11eV11eV11eV11eV11eV11eV11eV11eV11eV1
   1eV11eV11eV11eV11eV11eV112111122mcA121mc8112111112111112111112111112111112111112111112111112
   11111211111211111211111211111211111211191211111211111211111211111211111211111211111211111211
   11121111121111121111121111121111121111121111121111121111121111121111121111121111121111121111
   1211111211111211111U11211111211111211111211111211111211111211111T112111112111112111112111112
   11111211111211111211111211111211111211111211111211111211111211111211111211111211111211111211
   11121111121111121111121111121111121111121111121111121111121111121111121111121111121111121111
   1211111211111211111211111211111211111211111211111211111211111211111211111211121d011d011d011d
   011d011d011d011d011d011d011d011d011d011d011d011d011d011d011d011d011d011d011d011d011d011d011d
   011d011d011d011d011d011d011d011d011d011d011d0B1cV11cV11cV11cV11cV11cV11cV11cV11cV11cV11cV11c
   V11cV11cV11cV11cV11cV11cV11cV11cV11cV11cV11cV11cV11cV11cV11cV11cV11cV11cV11cV11cV11cV11cV11c
   V11cV11cV11cVcyQ1og011og011og011og011og011og011og011og011og011og011og011og011og011og011og011
   og011og011og011og011og011og011og011og011og011og011og011og011og011og011og011og011og011og011og
   011og011og011og011og021og061og031fY011fY011fY011fY011fY011fY011fY011fY011fY011fY011fY011fY01
   1fY011fY011fY011fY011fY011fY011fY011fY011fY011fY011fY011fY011fY011fY011fY011fY011fY011fY011f
   Y011fY011fY011fY011fY011fY011fY011fY011fY011fY011fY011fY011fY031fY011fY011fY0v11clZ011clZ011
   clZ011clZ011clZ011clZ011clZ011clZ011clZ011clZ011clZ011clZ011clZ011clZ011clZ011clZ011clZ011cl
   Z011clZ011clZ011clZ011clZ011clZ011clZ011clZ011clZ011clZ011clZ011clZ011clZ011clZ011clZ011clZ0
   11clZ011clZ011clZ011clZ011clZ011clZ011clZ011clZ011clZ011clZ011clZ011clZ011clZ011clZ011clZ011
   clZ011clZ011clZ011clZ011clZ011clZ011clZ011clZ011clZ011clZ011clZ011clZ011clZ011clZ011clZ011cl
   Z011clZ011clZ011clZ011clZ011clZ011clZ011clZ011clZ011clZ011clZ011clZ011clZ011clZ011clZ011clZ0
   11clZ011G11G11G11G11G11G31F11F11F11F11F11Fce32mgRmeR12mgPmeP12mg7me712mg3me313mg3me3213mg5me
   5112mfNmdN12mc9mc712ceY4ceY611211161fXV11fXV11fXV11fXV11fXV11fXV11fXV11fXV11fXV11fXV11fXV11f
   XV11fXV11fXV11fXV11fXV11fXV11fXV11fXV11fXV11fXV11fXV11fXV11fXV11fXV11fXV11fXV11fXV11fXV11fXV
   11fXV11fXV11fXV11fXV11fXV11fXV11fXV11fXV11fXV11fXV11fXV11fXV11fXV31fXV11fXV11fXVfQ1cfa841hoC
   H1cfdGdI121111121111121111121111121111121111121111121111121111121111121111121111121111121111
   12111112111112111112111112111112111112111112111112111112111112111112111112111112111112111112
   11111211111211111211111211111211111211111211111211111211111211111211111211111211111211111211
   1112111112111112111122dM121dK112111112111112111112111112111112111112111112111112111112111112
   11111211111211111211111211111211111211111211111211111211111211111211111211111211111211111211
   162dLdJ31oXT21211111211111211111211111211111211111211111211111211111211111211111211111211111
   21111121111121111121111121111121111121111121111121111121111121111121111121111121111121111121
   11112111112111112111112111112111112111112111112111112111112111112111112111112111112111112111
   11211111211111211111211111G11G11G11G11G11G11G11G11F11F11F11F11F11F11F11F11G11G11G11G11G11G31
   F11F11F11F11F11F31G11G11G11G11G11G11G11G11F11F11F11F11F11F11F11F11G11G11G11G11G11G11G11G11F1
   1F11F11F11F11F11F11F11G11G11G11G11G11G31F11F11F11F11F11F41G21G21G21G21F21F21F21F11G11G11G11G
   11G11G11G11G11F11F11F11F11F11F11F11F11eK11eK11fC11fC11fC11fC11g811g811i011i011h011h011hS11hS
   31G11G11G11G11G11G11G11G11F11F11F11F11F11F11F11F11G11G11G11G11G11G11G11G11F11F11F11F11F11F11
   F11F11G11G11G11G11G11G11G11G11F11F11F11F11F11F11F11F11G11G21I51F11F11eJ11eJ11H23ohHoc9oa951I
   51fB11fB11fB11fB11H41G11G21oe551F11F11g711g751G11G21od521E31F11F11gV11gV11D71I51hV11hV11hR11
   hR11HjA2oxPovP42qnTqlT12qgBqeB71bOS1bNI1b011b011b011b011b011b011b011b011b011b011b011b011b011
   b011b011b011V11V11V11V11V11V11V11V11V11V11V11V11V11V11V11V412111zI1bK11bK11bK11bK11bK11bK11b
   K11bK11bK11bK11bK11bK11bK11bK11bK11bK11bK11bK11bK11bK11bK11bK11bK11bK11bK11bK11bJ11bJ11bJ11b
   J11bJ11bJ11bJ11bJ11bJ11bJ11bJ11bJ11bJ11bJ11bJ11bJ11bJ11bJ11bJ11bJ11bJ11bJ11bJ11bJ11bJ11bJbyN
   1d011d011d011d011d011d011d011d011d011d011d011d011d011d011d011d011d011d011d011d011d011d011d01
   1d011d011d011d011d011d011d011d011d011d011d011d011d011d011d011d011d011d011d011d011d011d011d01
   1d011d011cV11cV11cV11cV11cV11cV11cV11cV11cV11cV11cV11cV11cV11cV11cV11cV11cV11cV11cV11cV11cV1
   1cV11cV11cV11cV11cV11cV11cV11cV11cV11cV11cV11cV11cV11cV11cV11cV11cV11cV11cV11cV11cV11cV11cV1
   1cV11cV11cV11cV11211111u_D11hoB11u-D11vcL11vcF11211111211111211111vbN11u_P11vbT11vbR21211121
   211181vdT11vdT112111112111112111112111112111112111112111112111112111112111112111112111112111
   11211111211111211111211111211111211111211111211111211111211111211111211111211111211111211111
   21111121111121111121111121111121111121111121111121111121111121111121111121111121111121111121
   11112111112111112111112111112111112111812111112111412111D1ofV11ofV11ofV11ofV11ofV11ofV11ofV1
   1ofV11ofV11ofV11ofV11ofV11ofV11ofV11ofV11ofV11ofV11ofV11ofV11ofV11ofV11ofV11ofV11ofV11ofV11o
   fV11ofV11ofV11ofV11ofV11ofV11ofV11ofV11ofV11ofV11ofV11ofV11ofV21ofV61ofV-iJ12111112111112111
   11211111211112ceY3212ceY51112111112111112111112111112111112111112111112111112111112111112111
   112111112111112111112111112111112111J1211111211111211111211111211111211111211111211111211111
   2111112111112111112111112111e712111112111112111112111112111112111112111312111112111112111112
   11111211111211111211111211111211111211111211111211111211111211111211111211111211111211111211
   1112111112111112111112111112111112111112111112111112111112111112111112111A1211111211111cfa71
   1211111211111211111211111211141211111cssF31211111211111d021211111211111211111211111211111211
   111211111211111211111211111csu711csuT11csuL11csu111csu721csr311cssJ11csr911bW011211111211111
   211111211111211111211111211111211111cV11csu511cfdF11211111211111cswD112111112111112111112111
   11211111211111211111211111cte1P12111WT1bzVT1clYV11clYV11clYV11clYV11clYV11clYV11clYV11clYV11
   clYV11clYV11clYV11clYV11clYV11clYV11clYV11clYV11clYV11clYV11clYV11clYV11clYV11clYV11clYV11cl
   YV11clYV11clYV11clYV11clYV11clYV11clYV11clYV11clYV11clYV11clYV11clYV11clYV11clYV11clYV11clYV
   11clYV11clYV11clYV11clYV11clYV11clYV11clYV11clYV11clYV11clYV11clYV11clYV11clYV11clYV11clYV11
   clYV11clYV11clYV11clYV11clYV11clYV11clYV11clYV11clYV11clYV11clYV11clYV11clYV11clYV11clYV11cl
   YV11clYV11clYV11clYV11clYV11clYV11clYV11clYV11clYV11clYV11clYVtW612111baR1c011c011c011c011c0
   11c011c011c011c011c011c011c011c011c011c011c011c011c011c011c011c011c011c011c011c011c071bV11bV
   11bV11bV11bV11bV11bV11bV11bV11bV11bV11bV11bV11bV11bV11bV11bV11bV11bV11bV11bV11bV11bV11bV11bV
   11bVbf61cG11cG11cG11cG11cG11cG11cG11cG11cG11cG11cG11cG11cG11cG11cG11cG11cG11cG11cG11cG11cG11
   cG11cG11cG11cG11cG11cG11cG11cG11cG11cG11cG11cG11cG11cG11cG11cG11cG11cG11cG11cF11cF11cF11cF11
   cF11cF11cF11cF11cF11cF11cF11cF11cF11cF11cF11cF11cF11cF11cF11cF11cF11cF11cF11cF11cF11cF11cF11
   cF11cF11cF11cF11cF11cF11cF11cF11cF11cF11cF11cF11cFd11cG11cG11cG11cG11cG11cG11cG11cG11cG11cG1
   1cG11cG11cG11cG11cG11cG11cG11cG11cG11cG11cG11cG11cG11cG11cG11cG11cG11cG11cG11cG11cG11cG11cG1
   1cG11cG11cG51cF11cF11cF11cF11cF11cF11cF11cF11cF11cF11cF11cF11cF11cF11cF11cF11cF11cF11cF11cF1
   1cF11cF11cF11cF11cF11cF11cF11cF11cF11cF11cF11cF11cF11cF11cF11cFdL1cE11cE11cE11cE11cE11cE11cE
   11cE11cE11cE11cE21cE11cE11cE11cE11cE11cE11cE11cE11cE11cE11cE11cE11cE11cE11cE21cE11cE11cE11cE
   11cE11cE11cE21cE11cE21cD11cD11cD11cD11cD11cD11cD11cD11cD11cD11cD21cD11cD11cD11cD11cD11cD11cD
   11cD11cD11cD11cD11cD11cD11cD11cD21cD11cD11cD11cD11cD11cD11cD21cD11cDbw41e011e011e011e011e011
   e011e011e011e011e011e011e011e011e011e011e011e011e011e011e011e011e011e011e011e011e011e011e011
   e011e011e011e011e011e011e011e011e011e011e011e011e011e011e011e011e011e011e011e011e011e011e0E1
   dV11dV11dV11dV11dV11dV11dV11dV11dV11dV11dV11dV11dV11dV11dV11dV11dV11dV11dV11dV11dV11dV11dV11
   dV11dV11dV11dV11dV11dV11dV11dV11dV11dV11dV11dV11dV11dV11dV11dV11dV11dV11dV11dV11dV11dV11dV11
   dV11dV11dV11dV11dVcU1c011c011c011c011c011c011c011c011c011c011c011c011c011c011c011c011c011c01
   1c011c011c011c0B1bV11bV11bV11bV11bV11bV11bV11bV11bV11bV11bV11bV11bV11bV11bV11bV11bV11bV11bV1
   1bV11bV11bVcyR1c011c011c011c011c011c011c011c011c011c011c011c011c011c011c011c011c011c011c011c
   011c011c011c011c011c011c011c011c011c011c011c011c011bV11bV11bV11bV11bV11bV11bV11bV11bV11bV11b
   V11bV11bV11bV11bV11bV11bV11bV11bV11bV11bV11bV11bV11bV11bV11bV11bV11bV11bV11bV11bV11bVvl11c01
   1c011c011c011c011c011c011c011c011c011c011c011c011c011c011c011c011c011c011c011c011c011c011c01
   1c011c011c011c011c011c011c011c011bV11bV11bV11bV11bV11bV11bV11bV11bV11bV11bV11bV11bV11bV11bV1
   1bV11bV11bV11bV11bV11bV11bV11bV11bV11bV11bV11bV11bV11bV11bV11bV11bVb11bM11bM11bM11bM11bM11bM
   11bM11bM11bM11bM11bM11bM11bM11bM11bM11bM11bM11bM11bM11bM11bM11bM11bM11bM11bM31bL11bL11bL11bL
   11bL11bL11bL11bL11bL11bL11bL11bL11bL11bL11bL11bL11bL11bL11bL11bL11bL11bL11bL11bL11bL-rD1c411
   c411c411c411c411c411c411c411c411c411c411c411c411c411c411c411c411c411c411c411c411c411c411c411
   c411c411c411c411c411c411c411c411c411c411c311c311c311c311c311c311c311c311c311c311c311c311c311
   c311c311c311c311c311c311c311c311c311c311c311c311c311c311c311c311c311c311c311c311c3"

def asciiCaseVariants (c : Char) : List Char :=
  if 'a' ≤ c ∧ c ≤ 'z' then [Char.ofNat (c.toNat - 32)]
  else if 'A' ≤ c ∧ c ≤ 'Z' then [Char.ofNat (c.toNat + 32)]
  else []

/-- The characters other than `c` that differ from it only in case. The Kelvin sign is a case of the
letter k and the long s a case of the letter s; no other character beyond ASCII is a case of one
within. White space has no cases, and the map is not asked about it. -/
def caseVariants (c : Char) : List Char :=
  if c.toNat < 128 then
    if c = 'k' ∨ c = 'K' then asciiCaseVariants c ++ ['\u212a']
    else if c = 's' ∨ c = 'S' then asciiCaseVariants c ++ ['\u017f']
    else asciiCaseVariants c
  else if Text.isBlank c then []
  else foldMap.get c

end Linewatch.Unicode
