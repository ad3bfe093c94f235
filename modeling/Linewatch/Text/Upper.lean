import Linewatch.Unicode.CharMap

namespace Linewatch.Text

/-- The characters of Unicode 17 from 128 on that upper-casing changes. -/
def upperMap : Unicode.CharMap := .ofText
  "fL1boEbA2iNiN11bV11bV11bV11bV11bV11bV11bV11bV11bV11bV11bV11bV11bV11bV11bV11bV11bV11bV11bV11b
   V11bV11bV11bV21bV11bV11bV11bV11bV11bV11bV11hI21121121121121121121121121121121121121121121121
   121121121121121121121121121oF21121121131121121121121121121121112x6pL211211211211211211211211
   21121121121121121121121121121121121121121121131121121111sN11m631121131141161131g241111k611ct
   e231i431121121131151131141121131141121dG61111321111321111321121121121121121121121111eT211211
   21121121121121121121112WBrO21111321141121121121121121121121121121121121121121121121121121121
   121141121121121121121121121121191131vdU11vdU21151121121121121111vbU11vbO11vbS11n311mR21mP11m
   P21mJ21mL11csuU41mP11csuM21mT11cswE11cssG11csu821n111n511csu811u_E11csu231n521u_Q11n931nB81u
   -E31nJ21csu611nJ41cssK11nJ11e911nH11nH11eD61nLB1csrA11csr4f71f8bC1121141141i411i411i4J3IiFiT
   S1cB11c911c911c913LkFkT11bV11bV11bV11bV11bV11bV11bV11bV11bV11bV11bV11bV11bV11bV11bV11bV11bV1
   1bT11bV11bV11bV11bV11bV11bV11bV11bV11bV11dV11dT11dT21dR11dH41cT11dB11F2112112112112112112112
   1121121121121111fB11eV11E11h721fV311311bL1bV11bV11bV11bV11bV11bV11bV11bV11bV11bV11bV11bV11bV
   11bV11bV11bV11bV11bV11bV11bV11bV11bV11bV11bV11bV11bV11bV11bV11bV11bV11bV11bV11eV11eV11eV11eV
   11eV11eV11eV11eV11eV11eV11eV11eV11eV11eV11eV11eV21121121121121121121121121121121121121121121
   1211211A112112112112112112112112112112112112112112112112112112112112112112112112112112113112
   1121121121121121111T211211211211211211211211211211211211211211211211211211211211211211211211
   211211211211211211211211211211211211211211211211211211211211211211211211bI1cV11cV11cV11cV11c
   V11cV11cV11cV11cV11cV11cV11cV11cV11cV11cV11cV11cV11cV11cV11cV11cV11cV11cV11cV11cV11cV11cV11c
   V11cV11cV11cV11cV11cV11cV11cV11cV11cV11cV12f3d9cW91fY011fY011fY011fY011fY011fY011fY011fY011f
   Y011fY011fY011fY011fY011fY011fY011fY011fY011fY011fY011fY011fY011fY011fY011fY011fY011fY011fY0
   11fY011fY011fY011fY011fY011fY011fY011fY011fY011fY011fY011fY011fY011fY011fY011fY031fY011fY011
   fY0xP1F11F11F11F11F11Fce31mgR11mgP11mg711mg311mg311mg511mfN11mc911ceY4211hF1cfa841hoCH1cfdGd
   J1121121121121121121121121121121121121121121121121121121121121121121121121121121121121121121
   12112112112112112112112112112112112112112112112112112112112112112112112112112112112112112112
   1121121121121121121121121121121121121121112peRnw912pe5nyT12pe1nyR12pdVnyT12pfHnZN11dL6112112
   11211211211211211211211211211211211211211211211211211211211211211211211211211211211211211211
   21121121121121121121121121121121121121121121111G11G11G11G11G11G11G11G91G11G11G11G11G11GB1G11
   G11G11G11G11G11G11G91G11G11G11G11G11G11G11G91G11G11G11G11G11GB2nWLodP11G13nWPodTof311G13nWTo
   e1of511G13nX1oe5ob711G91G11G11G11G11G11G11G11G91eK11eK11fC11fC11fC11fC11g811g811i011i011h011
   h011hS11hS32hFn-D12hFn-F12hFn-H12hFn-J12hFn-L12hFn-N12hFn-P12hFn-R12hVn-T12hVn-V12hVn_112hVn
   _312hVn_512hVn_712hVn_912hVn_B12gFn_D12gFn_F12gFn_H12gFn_J12gFn_L12gFn_N12gFn_P12gFn_R12gVn_
   T12gVn_V12gVoa112gVoa312gVoa512gVoa712gVoa912gVoaB12dFoaD12dFoaF12dFoaH12dFoaJ12dFoaL12dFoaN
   12dFoaP12dFoaR12dVoaT12dVoaV12dVob112dVob312dVob512dVob712dVob912dVobB11G11G12GobH12oc3obJ12
   ocRobL22oc9oh713ocBoh9obR52ocLoc521oc942GocH12ocNocJ12odLocL22ocToi713ocVoi9ocR52od9od541G11
   G13odHomJon313odJomLon332odPoj713odRomToj991G11G13odPonJoo313odRonLoo312oe5on111E12oe1ok713o
   e3onTok9B2GofH12oeJofJ12og9ofL22oePol713oeRol9ofR52of5og5kI1bNb21V11V11V11V11V11V11V11V11V11
   V11V11V11V11V11V11V511WC1bJ11bJ11bJ11bJ11bJ11bJ11bJ11bJ11bJ11bJ11bJ11bJ11bJ11bJ11bJ11bJ11bJ1
   1bJ11bJ11bJ11bJ11bJ11bJ11bJ11bJ11bJbW71cV11cV11cV11cV11cV11cV11cV11cV11cV11cV11cV11cV11cV11c
   V11cV11cV11cV11cV11cV11cV11cV11cV11cV11cV11cV11cV11cV11cV11cV11cV11cV11cV11cV11cV11cV11cV11c
   V11cV11cV11cV11cV11cV11cV11cV11cV11cV11cV11cV21141vcL11vcF211211211711311B112112112112112112
   11211211211211211211211211211211211211211211211211211211211211211211211211211211211211211211
   211211211211211211211211211211211211211911211511D1ofV11ofV11ofV11ofV11ofV11ofV11ofV11ofV11of
   V11ofV11ofV11ofV11ofV11ofV11ofV11ofV11ofV11ofV11ofV11ofV11ofV11ofV11ofV11ofV11ofV11ofV11ofV1
   1ofV11ofV11ofV11ofV11ofV11ofV11ofV11ofV11ofV11ofV11ofV21ofV61ofV-iK1121121121121121121121121
   1211211211211211211211211211211211211211211K11211211211211211211211211211211211211211e811211
   21121121121121141121121121121121121121121121121121121121121121121121121121121121121121121121
   1211211211211211B1121131121121121121151151121111d0311211211211211211211211211211C11211211211
   211211211211511211311211211211211211211211R11WT1bzVT1clYV11clYV11clYV11clYV11clYV11clYV11clY
   V11clYV11clYV11clYV11clYV11clYV11clYV11clYV11clYV11clYV11clYV11clYV11clYV11clYV11clYV11clYV1
   1clYV11clYV11clYV11clYV11clYV11clYV11clYV11clYV11clYV11clYV11clYV11clYV11clYV11clYV11clYV11c
   lYV11clYV11clYV11clYV11clYV11clYV11clYV11clYV11clYV11clYV11clYV11clYV11clYV11clYV11clYV11clY
   V11clYV11clYV11clYV11clYV11clYV11clYV11clYV11clYV11clYV11clYV11clYV11clYV11clYV11clYV11clYV1
   1clYV11clYV11clYV11clYV11clYV11clYV11clYV11clYV11clYV11clYV11clYV11clYVtW12dZlJdZlJ12dZlLdZl
   F12dZlNdZlB13dZlPdZlPdZlJ13dZlRdZlRdZlF12dZl3dZl112dZl5dZl3D2dWYTdWYP12dWYVdWZT12dWZ1dWZJ12d
   WYFdWYV12dWZ5dWZJbbA1bV11bV11bV11bV11bV11bV11bV11bV11bV11bV11bV11bV11bV11bV11bV11bV11bV11bV1
   1bV11bV11bV11bV11bV11bV11bV11bVbgE1cF11cF11cF11cF11cF11cF11cF11cF11cF11cF11cF11cF11cF11cF11c
   F11cF11cF11cF11cF11cF11cF11cF11cF11cF11cF11cF11cF11cF11cF11cF11cF11cF11cF11cF11cF11cF11cF11c
   F11cF11cFe91cF11cF11cF11cF11cF11cF11cF11cF11cF11cF11cF11cF11cF11cF11cF11cF11cF11cF11cF11cF11
   cF11cF11cF11cF11cF11cF11cF11cF11cF11cF11cF11cF11cF11cF11cF11cFeS1cD11cD11cD11cD11cD11cD11cD1
   1cD11cD11cD11cD21cD11cD11cD11cD11cD11cD11cD11cD11cD11cD11cD11cD11cD11cD11cD21cD11cD11cD11cD1
   1cD11cD11cD21cD11cDby41dV11dV11dV11dV11dV11dV11dV11dV11dV11dV11dV11dV11dV11dV11dV11dV11dV11d
   V11dV11dV11dV11dV11dV11dV11dV11dV11dV11dV11dV11dV11dV11dV11dV11dV11dV11dV11dV11dV11dV11dV11d
   V11dV11dV11dV11dV11dV11dV11dV11dV11dV11dVdU1bV11bV11bV11bV11bV11bV11bV11bV11bV11bV11bV11bV11
   bV11bV11bV11bV11bV11bV11bV11bV11bV11bVczR1bV11bV11bV11bV11bV11bV11bV11bV11bV11bV11bV11bV11bV
   11bV11bV11bV11bV11bV11bV11bV11bV11bV11bV11bV11bV11bV11bV11bV11bV11bV11bV11bVvm11bV11bV11bV11
   bV11bV11bV11bV11bV11bV11bV11bV11bV11bV11bV11bV11bV11bV11bV11bV11bV11bV11bV11bV11bV11bV11bV11
   bV11bV11bV11bV11bV11bVbS1bL11bL11bL11bL11bL11bL11bL11bL11bL11bL11bL11bL11bL11bL11bL11bL11bL1
   1bL11bL11bL11bL11bL11bL11bL11bL-sF1c311c311c311c311c311c311c311c311c311c311c311c311c311c311c
   311c311c311c311c311c311c311c311c311c311c311c311c311c311c311c311c311c311c311c3"

def upperChar (c : Char) : List Char :=
  if c.toNat < 128 then [c.toUpper]
  else match upperMap.get c with
    | [] => [c]
    | upper => upper

def upper (s : String) : String := String.ofList (s.toList.flatMap upperChar)

end Linewatch.Text
