/-!
# Names of characters, D to K

The names whose first word begins with one of the letters from `D` to `K`, in the layout that the
reader of names describes.
-/

namespace SignatureLint.CharName

/-- The paragraphs of the first words from `D` to `K`. -/
def textDToK : String := "
=aDAGGER:2020a:2E36aWITH LEFT GUARDbRIGHT GUARD:1F5E1aKNIFE=cLET:2138aSYMBOL=cNCER:1F483a
=dGO:1F361a=cRK:2593aSHADE:1F576aSUNGLASSES=cSH:2E43aWITH LEFT UPTURN:1F4A8aSYMBOL
=eED:279FaTRIANGLE-HEADED RIGHTWARDS ARROW:FE49aOVERLINE:FE4DaLOW LINE=cTA:10aLINK ESCAPE=bC1:11a
=c2:12a=c3:13a=c4:14a=cS:90a=bEAF:1F9CFaPERSON=cCIDUOUS:1F333aTREE=eMAL:2396aSEPARATOR KEY SYMBOL
:23E8aEXPONENT SYMBOL=dREASE:1F5DBaFONT SIZE SYMBOL=cER:1F98Ca=cGREE:B0aSIGN:2103aCELSIUS
:2109aFAHRENHEIT=cL:7Fa=dETE:7Fa=dIVERY:1F69AaTRUCK=dTA:225CaEQUAL TO
=cNTISTRY:23BEaSYMBOL LIGHT VERTICAL AND TOP RIGHTeBOTTOM RIGHTdWITH CIRCLE
cDOWN AND HORIZONTAL WITH CIRCLEcUP AND HORIZONTAL WITH CIRCLEcVERTICAL WITH TRIANGLE
cDOWN AND HORIZONTAL WITH TRIANGLEcUP AND HORIZONTAL WITH TRIANGLEcVERTICAL AND WAVE
cDOWN AND HORIZONTAL WITH WAVEcUP AND HORIZONTAL WITH WAVEcDOWN AND HORIZONTALcUP AND HORIZONTAL
cVERTICAL AND TOP LEFTeBOTTOM LEFT=cPARTMENT:1F3ECaSTORE=cRELICT:1F3DAaHOUSE BUILDING
=cSCENDING:260BaNODE=dERET:10400aCAPITAL LETTER LONG IdEdAdAHdOdOOcSHORT IdEdAdAHdOdOOcAYcOWcWU
cYEEcHcPEEcBEEcTEEcDEEcCHEEcJEEcKAYcGAYcEFcVEEcETHcTHEEcEScZEEcESHcZHEEcERcELcEMcENcENGcOIcEW
aSMALL LETTER LONG IdEdAdAHdOdOOcSHORT IdEdAdAHdOdOOcAYcOWcWUcYEEcHcPEEcBEEcTEEcDEEcCHEEcJEEcKAY
cGAYcEFcVEEcETHcTHEEcEScZEEcESHcZHEEcERcELcEMcENcENGcOIcEW=fT:1F3DCaaISLAND=dKTOP:1F5A5aCOMPUTER
:1F5D4aWINDOW=cVANAGARI:900aSIGN INVERTED CANDRABINDUbCANDRABINDUbANUSVARAbVISARGAaLETTER SHORT A
bAbAAbIbIIbUbUUbVOCALIC RcLbCANDRA EbSHORT EbEbAIbCANDRA ObSHORT ObObAUbKAbKHAbGAbGHAbNGAbCAbCHA
bJAbJHAbNYAbTTAbTTHAbDDAbDDHAbNNAbTAbTHAbDAbDHAbNAbNNNAbPAbPHAbBAbBHAbMAbYAbRAbRRAbLAbLLAbLLLAbVA
bSHAbSSAbSAbHAaVOWEL SIGN OEcOOEaSIGN NUKTAbAVAGRAHAaVOWEL SIGN AAcIcIIcUcUUcVOCALIC RdRRcCANDRA E
cSHORT EcEcAIcCANDRA OcSHORT OcOcAUaSIGN VIRAMAaVOWEL SIGN PRISHTHAMATRA EcAWaOM
aSTRESS SIGN UDATTAcANUDATTAaGRAVE ACCENTaACUTE ACCENTaVOWEL SIGN CANDRA LONG EcUEcUUEaLETTER QA
bKHHAbGHHAbZAbDDDHAbRHAbFAbYYAbVOCALIC RRcLLaVOWEL SIGN VOCALIC LdLLaDANDAaDOUBLE DANDAaDIGIT ZERO
bONEbTWObTHREEbFOURbFIVEbSIXbSEVENbEIGHTbNINEaABBREVIATION SIGNaSIGN HIGH SPACING DOT
aLETTER CANDRA AbOEbOOEbAWbUEbUUEbMARWARI DDAbZHAbHEAVY YAbGGAbJJAbGLOTTAL STOPbDDDAbBBA
:A8F2aSIGN SPACING CANDRABINDUbCANDRABINDU VIRAMAbDOUBLE CANDRABINDU VIRAMAbCANDRABINDU TWOcTHREE
cAVAGRAHAbPUSHPIKAaGAP FILLERaCARETaHEADSTROKEaSIGN SIDDHAMaJAIN OMaLETTER AYaVOWEL SIGN AY
=dICE:11aCONTROL ONEbTWObTHREEbFOUR:90bSTRING=bIAERESIS:A8a=dMETER:2300aSIGN=eOND:22C4aOPERATOR
:2B16aWITH LEFT HALF BLACKbRIGHT HALF BLACKbTOP HALF BLACKbBOTTOM HALF BLACK
:1F4A0aSHAPE WITH A DOT INSIDE:1F79CaTARGET=cE:2680aFACE-1aFACE-2aFACE-3aFACE-4aFACE-5aFACE-6
=dSEL:1F6F2aLOCOMOTIVE=cFFERENCE:224FaBETWEEN=cGIT:30aZEROaONEaTWOaTHREEaFOURaFIVEaSIXaSEVENaEIGHT
aNINE:2488aONE FULL STOPaTWO FULL STOPaTHREE FULL STOPaFOUR FULL STOPaFIVE FULL STOPaSIX FULL STOP
aSEVEN FULL STOPaEIGHT FULL STOPaNINE FULL STOP:1F100aZERO FULL STOPbCOMMAaONE COMMAaTWO COMMA
aTHREE COMMAaFOUR COMMAaFIVE COMMAaSIX COMMAaSEVEN COMMAaEIGHT COMMAaNINE COMMA
=dRAM:268CaFOR GREATER YANGbLESSER YINcYANGbGREATER YIN:1D301bHEAVENLY EARTHbHUMAN EARTH
bEARTHLY HEAVENcHUMANbEARTH=cMENSION:2331aORIGIN=cNGBAT:2776aNEGATIVE CIRCLED DIGIT ONEdTWOdTHREE
dFOURdFIVEdSIXdSEVENdEIGHTdNINEcNUMBER TENaCIRCLED SANS-SERIF DIGIT ONEdTWOdTHREEdFOURdFIVEdSIX
dSEVENdEIGHTdNINEcNUMBER TENaNEGATIVE CIRCLED SANS-SERIF DIGIT ONEeTWOeTHREEeFOUReFIVEeSIXeSEVEN
eEIGHTeNINEdNUMBER TEN:1F10BaCIRCLED SANS-SERIF DIGIT ZEROaNEGATIVE CIRCLED SANS-SERIF DIGIT ZERO
=cRECT:2393aCURRENT SYMBOL FORM TWO:1F3AFaHIT=cSABLED:26CDaCAR=ePPOINTED:1F61EaFACE
:1F625aBUT RELIEVED FACE=dCONTINUOUS:2382aUNDERLINE SYMBOL=dGUISED:1F978aFACE=cTTO:3003aMARK
=cVES:11900aAKURU LETTER AcAAcIcIIcUcUUcE:11909cO:1190CcKAcKHAcGAcGHAcNGAcCAcCHAcJA:11915cNYAcTTA
:11918cDDAcDDHAcNNAcTAcTHAcDAcDHAcNAcPAcPHAcBAcBHAcMAcYAcYYAcRAcLAcVAcSHAcSSAcSAcHAcLLAcZA
bVOWEL SIGN AAdIdIIdUdUUdE:11937dAIdO:1193BbSIGN ANUSVARAcCANDRABINDUcHALANTAbVIRAMA
bPREFIXED NASAL SIGNbMEDIAL YAbINITIAL RAbMEDIAL RAbSIGN NUKTAbDOUBLE DANDAbGAP FILLER
bEND OF TEXT MARK:11950bDIGIT ZEROcONEcTWOcTHREEcFOURcFIVEcSIXcSEVENcEIGHTcNINE=dIDES:2223a
=eNG:1F93FaMASK=eSION:F7aSIGN:2215aSLASH:22C7aTIMES=dORCE:26AEaSYMBOL=cYA:1FA94aLAMP
=cZZY:1F4ABaSYMBOL:1F635aFACE=bLE:10a=bNA:1F9ECaDOUBLE HELIX=bO:1F6AFaNOT LITTER SYMBOL
=cCUMENT:1F5B9aWITH TEXTcAND PICTUREbPICTURE:1F5CEa=cDO:1F9A4a=cES:220CaNOT CONTAIN AS MEMBER
:2224bDIVIDE:2280bPRECEDEbSUCCEED:22ACbPROVE:22AEbFORCE:22E0bPRECEDE OR EQUALbSUCCEED OR EQUAL
:22EBbCONTAIN AS NORMAL SUBGROUP:22EDfOR EQUAL:2AEEbDIVIDE WITH REVERSED NEGATION SLASH=cG:1F415a
:1F436aFACE=dRA:11800aLETTER AbAAbIbIIbUbUUbEbAIbObAUbKAbKHAbGAbGHAbNGAbCAbCHAbJAbJHAbNYAbTTAbTTHA
bDDAbDDHAbNNAbTAbTHAbDAbDHAbNAbPAbPHAbBAbBHAbMAbYAbRAbLAbVAbSHAbSSAbSAbHAbRRAaVOWEL SIGN AAcIcIIcU
cUUcVOCALIC RdRRcEcAIcOcAUaSIGN ANUSVARAbVISARGAbVIRAMAbNUKTAaABBREVIATION SIGN=cLLAR:24aSIGN
=dPHIN:1F42Ca=cMINO:1F030aTILE HORIZONTAL BACKbHORIZONTAL-00-00bHORIZONTAL-00-01bHORIZONTAL-00-02
bHORIZONTAL-00-03bHORIZONTAL-00-04bHORIZONTAL-00-05bHORIZONTAL-00-06bHORIZONTAL-01-00
bHORIZONTAL-01-01bHORIZONTAL-01-02bHORIZONTAL-01-03bHORIZONTAL-01-04bHORIZONTAL-01-05
bHORIZONTAL-01-06bHORIZONTAL-02-00bHORIZONTAL-02-01bHORIZONTAL-02-02bHORIZONTAL-02-03
bHORIZONTAL-02-04bHORIZONTAL-02-05bHORIZONTAL-02-06bHORIZONTAL-03-00bHORIZONTAL-03-01
bHORIZONTAL-03-02bHORIZONTAL-03-03bHORIZONTAL-03-04bHORIZONTAL-03-05bHORIZONTAL-03-06
bHORIZONTAL-04-00bHORIZONTAL-04-01bHORIZONTAL-04-02bHORIZONTAL-04-03bHORIZONTAL-04-04
bHORIZONTAL-04-05bHORIZONTAL-04-06bHORIZONTAL-05-00bHORIZONTAL-05-01bHORIZONTAL-05-02
bHORIZONTAL-05-03bHORIZONTAL-05-04bHORIZONTAL-05-05bHORIZONTAL-05-06bHORIZONTAL-06-00
bHORIZONTAL-06-01bHORIZONTAL-06-02bHORIZONTAL-06-03bHORIZONTAL-06-04bHORIZONTAL-06-05
bHORIZONTAL-06-06bVERTICAL BACKbVERTICAL-00-00bVERTICAL-00-01bVERTICAL-00-02bVERTICAL-00-03
bVERTICAL-00-04bVERTICAL-00-05bVERTICAL-00-06bVERTICAL-01-00bVERTICAL-01-01bVERTICAL-01-02
bVERTICAL-01-03bVERTICAL-01-04bVERTICAL-01-05bVERTICAL-01-06bVERTICAL-02-00bVERTICAL-02-01
bVERTICAL-02-02bVERTICAL-02-03bVERTICAL-02-04bVERTICAL-02-05bVERTICAL-02-06bVERTICAL-03-00
bVERTICAL-03-01bVERTICAL-03-02bVERTICAL-03-03bVERTICAL-03-04bVERTICAL-03-05bVERTICAL-03-06
bVERTICAL-04-00bVERTICAL-04-01bVERTICAL-04-02bVERTICAL-04-03bVERTICAL-04-04bVERTICAL-04-05
bVERTICAL-04-06bVERTICAL-05-00bVERTICAL-05-01bVERTICAL-05-02bVERTICAL-05-03bVERTICAL-05-04
bVERTICAL-05-05bVERTICAL-05-06bVERTICAL-06-00bVERTICAL-06-01bVERTICAL-06-02bVERTICAL-06-03
bVERTICAL-06-04bVERTICAL-06-05bVERTICAL-06-06=cNG:20ABaSIGN=cOR:1F6AAa=cT:2D9aABOVE:2214aPLUS
:2238aMINUS:22C5aOPERATOR=dTED:205CaCROSS:25CCaCIRCLE:2999aFENCE:2B1AaSQUARE
:2E08aTRANSPOSITION MARKER:2E13aOBELOS:2E16aRIGHT-POINTING ANGLE:2E4AaSOLIDUS:1FAE5aLINE FACE
=cUBLE:2DDaACUTE ACCENT:2016aVERTICAL LINEaLOW LINE:201EaLOW-9 QUOTATION MARK
aHIGH-REVERSED-9 QUOTATION MARK:2021aDAGGER:2033aPRIME:203CaEXCLAMATION MARK:2047aQUESTION MARK
:222CaINTEGRAL:22ABaVERTICAL BAR DOUBLE RIGHT TURNSTILE:22D0aSUBSETaSUPERSETaINTERSECTIONaUNION
:23F8aVERTICAL BAR:24F5aCIRCLED DIGIT ONEcTWOcTHREEcFOURcFIVEcSIXcSEVENcEIGHTcNINEbNUMBER TEN
:27BFaCURLY LOOP:2995aLEFT ARC GREATER-THAN BRACKETaRIGHT ARC LESS-THAN BRACKET:29FAaPLUS
:2A4EaSQUARE INTERSECTIONbUNION:2A53aLOGICAL ANDbOR:2A74aCOLON EQUAL:2AA1aNESTED LESS-THAN
bGREATER-THANbLESS-THAN WITH UNDERBAR:2ABBaPRECEDESaSUCCEEDS:2AE3aVERTICAL BAR LEFT TURNSTILE
:2AE5cDOUBLE LEFT TURNSTILE:2AEAaDOWN TACKaUP TACKaSTROKE NOT SIGN:2AFDaSOLIDUS OPERATOR
:2E17aOBLIQUE HYPHEN:2E40aHYPHEN:2E42aLOW-REVERSED-9 QUOTATION MARK:2E44aSUSPENSION MARK
:2E49aSTACKED COMMA:301EaPRIME QUOTATION MARK:FE4CaWAVY OVERLINE=g-ENDED:29DFaMULTIMAP
=hLINE:2A99aEQUAL TO OR LESS-THANdGREATER-THANaSLANTED EQUAL TO OR LESS-THANeGREATER-THAN
:2AF9bLESS-THAN OR EQUAL TObGREATER-THAN OR EQUAL TO=hSTRUCK:2102aCAPITAL C:210DbH:2115bN:2119bPbQ
:211DbR:2124bZ:213CaSMALL PIbGAMMAaCAPITAL GAMMAbPIaN-ARY SUMMATION:2145aITALIC CAPITAL DbSMALL D
cEcIcJ=gD:26A2aFEMALE SIGNaMALE SIGN:2BFCaSYMBOL=dGHNUT:1F369a=cVE:1F54AaOF PEACE=cWN:22A4aTACK
:22F1aRIGHT DIAGONAL ELLIPSIS:2304aARROWHEAD:297FaFISH TAIL:2AF1aTACK WITH CIRCLE BELOW
=e-POINTING:29E8aTRIANGLE WITH LEFT HALF BLACKcRIGHT HALF BLACK:1F53BaRED TRIANGLE
:1F53DaSMALL RED TRIANGLE=eWARD:1F908aFACING HOOKbNOTCHED HOOKbHOOK WITH DOTbNOTCHED HOOK WITH DOT
=iS:2193aARROW:21A1aTWO HEADED ARROW:21A7aARROW FROM BAR:21AFaZIGZAG ARROW
:21B2aARROW WITH TIP LEFTWARDSdRIGHTWARDS:21B5cCORNER LEFTWARDS:21C2aHARPOON WITH BARB RIGHTWARDS
dLEFTWARDS:21CAaPAIRED ARROWS:21D3aDOUBLE ARROW:21DFaARROW WITH DOUBLE STROKE:21E3aDASHED ARROW
:21E9aWHITE ARROW:21F5aARROW LEFTWARDS OF UPWARDS ARROW:27F1aQUADRUPLE ARROW
:2908aARROW WITH HORIZONTAL STROKE:290BaTRIPLE ARROW:2913aARROW TO BAR
:2955aHARPOON WITH BARB RIGHT TO BAR:2959dLEFT TO BAR:295DdRIGHT FROM BAR:2961dLEFT FROM BAR
:2965eBESIDE DOWNWARDS HARPOON WITH BARB RIGHT:296FfUPWARDS HARPOON WITH BARB RIGHT
:2B07aBLACK ARROW:2B4DaTRIANGLE-HEADED ZIGZAG ARROW:2B63bARROW:2B6DbDASHED ARROW:2B73bARROW TO BAR
:2B7DcWITH DOUBLE HORIZONTAL STROKE:2B83cLEFTWARDS OF UPWARDS TRIANGLE-HEADED ARROW
:2B87bPAIRED ARROWS:2B8BaBLACK CIRCLED WHITE ARROW
:2BA0aTRIANGLE-HEADED ARROW WITH LONG TIP LEFTWARDSfRIGHTWARDS
:2BEFaTWO-HEADED ARROW WITH TRIANGLE ARROWHEADS:2E14aANCORA:1F66FaROCKET
:1F803aARROW WITH SMALL TRIANGLE ARROWHEAD:1F807cMEDIUM TRIANGLE ARROWHEAD
:1F80BcLARGE TRIANGLE ARROWHEAD:1F813cSMALL EQUILATERAL ARROWHEAD:1F817cEQUILATERAL ARROWHEAD
:1F823aTRIANGLE-HEADED ARROW WITH NARROW SHAFT:1F827dMEDIUM SHAFT:1F82BdBOLD SHAFT
:1F82FdHEAVY SHAFT:1F833dVERY HEAVY SHAFT:1F837aFINGER-POST ARROW:1F83BaSQUARED ARROW
:1F83FaCOMPRESSED ARROW:1F843aHEAVY COMPRESSED ARROW:1F847bARROW:1F853aSANS-SERIF ARROW
:1F893aTRIANGLE ARROWHEAD:1F897aWHITE ARROW WITHIN TRIANGLE ARROWHEAD
:1F89BaARROW WITH NOTCHED TAIL:1FBB7bAND RIGHT ONE EIGHTH BLOCK=bRACHMA:20AFaSIGN
=dFTING:279BaPOINT RIGHTWARDS ARROW=dGON:1F409a:1F432aFACE=cESS:1F457a=cIVE:26DAaSLOW SIGN
=cOMEDARY:1F42AaCAMEL=dOLING:1F924aFACE=dP:1FA78aOF BLOOD=eLET:1F4A7a=cUM:1F941aWITH DRUMSTICKS
=bUCK:1F986a=cMPLING:1F95Fa=cPLOYAN:1BC00aLETTER HbXbPbTbFbKbLbBbDbVbGbRbP NbD SbF NbK MbR SbTH
bSLOAN DHbDHbKKbSLOAN JbHLbLHbRHbMbNbJbSbM NbN MbJ MbS JbM WITH DOTbN WITH DOTbJ WITH DOT
dDOTS INSIDE AND ABOVEbS WITH DOTeBELOWbM SbN SbJ SbS SbM N SbN M SbJ M SbS J SbJ S WITH DOTcNdS
bS TdRcPdRbT ScR SbWbWHbW RbS NcMbK R SbG R SbS KdRbAbSLOAN OWbOAbObAOUbIbEbIEbSHORT IbUIbEE
bSLOAN EHbROMANIAN IbSLOAN EEbLONG IbYEbUbEUbXWbU NbLONG UbROMANIAN UbUHbSLOAN UbOOHbOWbOUbWAbWO
bWIbWEIbWOWbNASAL UcOcIcAbPERNIN ANcAMbSLOAN ENcANcONbVOCALIC M:1BC70aAFFIX LEFT HORIZONTAL SECANT
bMID HORIZONTAL SECANTbRIGHT HORIZONTAL SECANTbLOW VERTICAL SECANTbMID VERTICAL SECANT
bHIGH VERTICAL SECANTbATTACHED SECANTcLEFT-TO-RIGHT SECANTcTANGENTcTAILcE HOOKcI HOOKcTANGENT HOOK
:1BC80bHIGH ACUTEcTIGHT ACUTEcGRAVEcLONG GRAVEcDOTcCIRCLEcLINEcWAVEcVERTICAL:1BC90bLOW ACUTE
cTIGHT ACUTEcGRAVEcLONG GRAVEcDOTcCIRCLEcLINEcWAVEcVERTICALcARROW:1BC9CaSIGN O WITH CROSS
aTHICK LETTER SELECTORaDOUBLE MARKaPUNCTUATION CHINOOK FULL STOP=bVD:1F4C0a=aE-MAIL:1F4E7aSYMBOL
=bAGLE:1F985a=cR:1F33DaOF MAIZEbRICE:1F442a:1F9BBaWITH HEARING AID=dTH:23DAaGROUND:2641a
:1F30DaGLOBE EUROPE-AFRICAbAMERICASbASIA-AUSTRALIA=cST:2671aSYRIAC CROSS=bDITORIAL:2E0EaCORONIS
=bGG:1F95Aa=cYPTIAN:13000aHIEROGLYPH A001bA002bA003bA004bA005bA005AbA006bA006AbA006BbA007bA008
bA009bA010bA011bA012bA013bA014bA014AbA015bA016bA017bA017AbA018bA019bA020bA021bA022bA023bA024bA025
bA026bA027bA028bA029bA030bA031bA032bA032AbA033bA034bA035bA036bA037bA038bA039bA040bA040AbA041bA042
bA042AbA043bA043AbA044bA045bA045AbA046bA047bA048bA049bA050bA051bA052bA053bA054bA055bA056bA057bA058
bA059bA060bA061bA062bA063bA064bA065bA066bA067bA068bA069bA070bB001bB002bB003bB004bB005bB005AbB006
bB007bB008bB009bC001bC002bC002AbC002BbC002CbC003bC004bC005bC006bC007bC008bC009bC010bC010AbC011
bC012bC013bC014bC015bC016bC017bC018bC019bC020bC021bC022bC023bC024bD001bD002bD003bD004bD005bD006
bD007bD008bD008AbD009bD010bD011bD012bD013bD014bD015bD016bD017bD018bD019bD020bD021bD022bD023bD024
bD025bD026bD027bD027AbD028bD029bD030bD031bD031AbD032bD033bD034bD034AbD035bD036bD037bD038bD039bD040
bD041bD042bD043bD044bD045bD046bD046AbD047bD048bD048AbD049bD050bD050AbD050BbD050CbD050DbD050EbD050F
bD050GbD050HbD050IbD051bD052bD052AbD053bD054bD054AbD055bD056bD057bD058bD059bD060bD061bD062bD063
bD064bD065bD066bD067bD067AbD067BbD067CbD067DbD067EbD067FbD067GbD067HbE001bE002bE003bE004bE005bE006
bE007bE008bE008AbE009bE009AbE010bE011bE012bE013bE014bE015bE016bE016AbE017bE017AbE018bE019bE020
bE020AbE021bE022bE023bE024bE025bE026bE027bE028bE028AbE029bE030bE031bE032bE033bE034bE034AbE036bE037
bE038bF001bF001AbF002bF003bF004bF005bF006bF007bF008bF009bF010bF011bF012bF013bF013AbF014bF015bF016
bF017bF018bF019bF020bF021bF021AbF022bF023bF024bF025bF026bF027bF028bF029bF030bF031bF031AbF032bF033
bF034bF035bF036bF037bF037AbF038bF038AbF039bF040bF041bF042bF043bF044bF045bF045AbF046bF046AbF047
bF047AbF048bF049bF050bF051bF051AbF051BbF051CbF052bF053bG001bG002bG003bG004bG005bG006bG006AbG007
bG007AbG007BbG008bG009bG010bG011bG011AbG012bG013bG014bG015bG016bG017bG018bG019bG020bG020AbG021
bG022bG023bG024bG025bG026bG026AbG027bG028bG029bG030bG031bG032bG033bG034bG035bG036bG036AbG037bG037A
bG038bG039bG040bG041bG042bG043bG043AbG044bG045bG045AbG046bG047bG048bG049bG050bG051bG052bG053bG054
bH001bH002bH003bH004bH005bH006bH006AbH007bH008bI001bI002bI003bI004bI005bI005AbI006bI007bI008bI009
bI009AbI010bI010AbI011bI011AbI012bI013bI014bI015bK001bK002bK003bK004bK005bK006bK007bK008bL001bL002
bL002AbL003bL004bL005bL006bL006AbL007bL008bM001bM001AbM001BbM002bM003bM003AbM004bM005bM006bM007
bM008bM009bM010bM010AbM011bM012bM012AbM012BbM012CbM012DbM012EbM012FbM012GbM012HbM013bM014bM015
bM015AbM016bM016AbM017bM017AbM018bM019bM020bM021bM022bM022AbM023bM024bM024AbM025bM026bM027bM028
bM028AbM029bM030bM031bM031AbM032bM033bM033AbM033BbM034bM035bM036bM037bM038bM039bM040bM040AbM041
bM042bM043bM044bN001bN002bN003bN004bN005bN006bN007bN008bN009bN010bN011bN012bN013bN014bN015bN016
bN017bN018bN018AbN018BbN019bN020bN021bN022bN023bN024bN025bN025AbN026bN027bN028bN029bN030bN031bN032
bN033bN033AbN034bN034AbN035bN035AbN036bN037bN037AbN038bN039bN040bN041bN042bNL001bNL002bNL003bNL004
bNL005bNL005AbNL006bNL007bNL008bNL009bNL010bNL011bNL012bNL013bNL014bNL015bNL016bNL017bNL017AbNL018
bNL019bNL020bNU001bNU002bNU003bNU004bNU005bNU006bNU007bNU008bNU009bNU010bNU010AbNU011bNU011AbNU012
bNU013bNU014bNU015bNU016bNU017bNU018bNU018AbNU019bNU020bNU021bNU022bNU022AbO001bO001AbO002bO003
bO004bO005bO005AbO006bO006AbO006BbO006CbO006DbO006EbO006FbO007bO008bO009bO010bO010AbO010BbO010C
bO011bO012bO013bO014bO015bO016bO017bO018bO019bO019AbO020bO020AbO021bO022bO023bO024bO024AbO025
bO025AbO026bO027bO028bO029bO029AbO030bO030AbO031bO032bO033bO033AbO034bO035bO036bO036AbO036BbO036C
bO036DbO037bO038bO039bO040bO041bO042bO043bO044bO045bO046bO047bO048bO049bO050bO050AbO050BbO051bP001
bP001AbP002bP003bP003AbP004bP005bP006bP007bP008bP009bP010bP011bQ001bQ002bQ003bQ004bQ005bQ006bQ007
bR001bR002bR002AbR003bR003AbR003BbR004bR005bR006bR007bR008bR009bR010bR010AbR011bR012bR013bR014
bR015bR016bR016AbR017bR018bR019bR020bR021bR022bR023bR024bR025bR026bR027bR028bR029bS001bS002bS002A
bS003bS004bS005bS006bS006AbS007bS008bS009bS010bS011bS012bS013bS014bS014AbS014BbS015bS016bS017
bS017AbS018bS019bS020bS021bS022bS023bS024bS025bS026bS026AbS026BbS027bS028bS029bS030bS031bS032bS033
bS034bS035bS035AbS036bS037bS038bS039bS040bS041bS042bS043bS044bS045bS046bT001bT002bT003bT003AbT004
bT005bT006bT007bT007AbT008bT008AbT009bT009AbT010bT011bT011AbT012bT013bT014bT015bT016bT016AbT017
bT018bT019bT020bT021bT022bT023bT024bT025bT026bT027bT028bT029bT030bT031bT032bT032AbT033bT033AbT034
bT035bT036bU001bU002bU003bU004bU005bU006bU006AbU006BbU007bU008bU009bU010bU011bU012bU013bU014bU015
bU016bU017bU018bU019bU020bU021bU022bU023bU023AbU024bU025bU026bU027bU028bU029bU029AbU030bU031bU032
bU032AbU033bU034bU035bU036bU037bU038bU039bU040bU041bU042bV001bV001AbV001BbV001CbV001DbV001EbV001F
bV001GbV001HbV001IbV002bV002AbV003bV004bV005bV006bV007bV007AbV007BbV008bV009bV010bV011bV011AbV011B
bV011CbV012bV012AbV012BbV013bV014bV015bV016bV017bV018bV019bV020bV020AbV020BbV020CbV020DbV020E
bV020FbV020GbV020HbV020IbV020JbV020KbV020LbV021bV022bV023bV023AbV024bV025bV026bV027bV028bV028A
bV029bV029AbV030bV030AbV031bV031AbV032bV033bV033AbV034bV035bV036bV037bV037AbV038bV039bV040bV040A
bW001bW002bW003bW003AbW004bW005bW006bW007bW008bW009bW009AbW010bW010AbW011bW012bW013bW014bW014A
bW015bW016bW017bW017AbW018bW018AbW019bW020bW021bW022bW023bW024bW024AbW025bX001bX002bX003bX004
bX004AbX004BbX005bX006bX006AbX007bX008bX008AbY001bY001AbY002bY003bY004bY005bY006bY007bY008bZ001
bZ002bZ002AbZ002BbZ002CbZ002DbZ003bZ003AbZ003BbZ004bZ004AbZ005bZ005AbZ006bZ007bZ008bZ009bZ010bZ011
bZ012bZ013bZ014bZ015bZ015AbZ015BbZ015CbZ015DbZ015EbZ015FbZ015GbZ015HbZ015IbZ016bZ016AbZ016BbZ016C
bZ016DbZ016EbZ016FbZ016GbZ016HbAA001bAA002bAA003bAA004bAA005bAA006bAA007bAA007AbAA007BbAA008bAA009
bAA010bAA011bAA012bAA013bAA014bAA015bAA016bAA017bAA018bAA019bAA020bAA021bAA022bAA023bAA024bAA025
bAA026bAA027bAA028bAA029bAA030bAA031bAA032:13430bVERTICAL JOINERbHORIZONTAL JOINER
bINSERT AT TOP STARTdBOTTOM STARTdTOP ENDdBOTTOM ENDbOVERLAY MIDDLEbBEGIN SEGMENTbEND SEGMENT
=bIGHT:2733aSPOKED ASTERISKaPOINTED BLACK STARbPINWHEEL STAR:2737bRECTILINEAR BLACK STAR
:2741aPETALLED OUTLINED BLACK FLORETTE:274AaTEARDROP-SPOKED PROPELLER ASTERISK=fH:266AaNOTE
=bJECT:23CFaSYMBOL=bLBASAN:10500aLETTER AbBEbCEbCHEbDEbNDEbDHEbEIbEbFEbGEbGJEbHEbIbJEbKEbLEbLLEbME
bNEbNAbNJEbObPEbQEbREbRREbSEbSHEbTEbTHEbUbVEbXEbYbZEbZHEbGHEbGHAMMAbKHE=cECTRIC:2301aARROW
:1F4A1aLIGHT BULB:1F50CaPLUG:1F526aTORCH=iAL:23E7aINTERSECTION=dMENT:2208aOF
:22F2bWITH LONG HORIZONTAL STROKEcVERTICAL BAR AT END OF HORIZONTAL STROKE:22F5cDOT ABOVEcOVERBAR
:22F8cUNDERBARcTWO HORIZONTAL STROKES:27D2bOPENING UPWARDS:2AD9cDOWNWARDS=dPHANT:1F418a
=dVATOR:1F6D7a=cF:1F9DDa=cYMAIC:10FE0aLETTER ALEPHbBETHbGIMELbDALETHbHEbWAWbZAYINbHETHbTETHbYODH
bKAPHbLAMEDHbMEMbNUNbSAMEKHbAYINbPEbSADHEbQOPHbRESHbSHINbTAWaLIGATURE ZAYIN-YODH=bM:2001aQUAD
:2003aSPACE:2014aDASH=cOJI:1F3FBaMODIFIER FITZPATRICK TYPE-1-2cTYPE-3cTYPE-4cTYPE-5cTYPE-6
:1F9B0aCOMPONENT RED HAIRbCURLY HAIRbBALDbWHITE HAIR=cPHASIS:2383aSYMBOL=dTY:2205aSET
:29B1bWITH OVERBARcSMALL CIRCLE ABOVEcRIGHT ARROW ABOVEcLEFT ARROW ABOVE:1F5C5aNOTEbPAGEbPAD
:1F5CBaDOCUMENTaPAGEaPAGES:1FAB9aNEST=bN:2000aQUAD:2002aSPACE:2013aDASH=cD:3aOF TEXTbTRANSMISSION
:AbLINE:17bTRANSMISSION BLOCK:19bMEDIUM:87bSELECTED AREA:97bGUARDED AREA:97bPROTECTED AREA
:220EbPROOF:1F51AaWITH LEFTWARDS ARROW ABOVE=cQ:5a=dUIRY:5a=cTER:2386aSYMBOL=cVELOPE:2709a
:1F4E9aWITH DOWNWARDS ARROW ABOVE:1F584bLIGHTNING=bOL:Aa=cM:19a=cT:4a=bPA:97a
=bQUAL:225DaTO BY DEFINITION:22D5aAND PARALLEL TO:22DCaTO OR LESS-THANcGREATER-THANcPRECEDES
cSUCCEEDS=fS:3DaSIGN:2255aCOLON:2971aSIGN ABOVE RIGHTWARDS ARROW:29E3bAND SLANTED PARALLEL
eWITH TILDE ABOVE:2A66bWITH DOT BELOW:2A6EaWITH ASTERISK:2A71aSIGN ABOVE PLUS SIGN
:2A73cTILDE OPERATOR:2A77bWITH TWO DOTS ABOVE AND TWO DOTS BELOW:2AAEcBUMPY ABOVE
:2B40bABOVE LEFTWARDS ARROW:2BF9bWITH INFINITY BELOW=dIANGULAR:225AaTO=eVALENT:224DaTO
:2A78aWITH FOUR DOTS ABOVE=bRASE:2326aTO THE RIGHT:232BcLEFT=cIS:2BF0aFORM ONEbTWO
=cROR-BARRED:29EEaWHITE SQUAREaBLACK SQUAREaWHITE DIAMONDaBLACK DIAMONDaWHITE CIRCLEaBLACK CIRCLE
=bSA:87a=cC:1Ba=dAPE:1Ba=cTIMATED:212EaSYMBOL=iS:2259a=bTB:17a=cHIOPIC:1200aSYLLABLE HAbHUbHIbHAA
bHEEbHEbHObHOAbLAbLUbLIbLAAbLEEbLEbLObLWAbHHAbHHUbHHIbHHAAbHHEEbHHEbHHObHHWAbMAbMUbMIbMAAbMEEbME
bMObMWAbSZAbSZUbSZIbSZAAbSZEEbSZEbSZObSZWAbRAbRUbRIbRAAbREEbREbRObRWAbSAbSUbSIbSAAbSEEbSEbSObSWA
bSHAbSHUbSHIbSHAAbSHEEbSHEbSHObSHWAbQAbQUbQIbQAAbQEEbQEbQObQOAbQWA:124AbQWIbQWAAbQWEEbQWE:1250bQHA
bQHUbQHIbQHAAbQHEEbQHEbQHO:1258bQHWA:125AbQHWIbQHWAAbQHWEEbQHWE:1260bBAbBUbBIbBAAbBEEbBEbBObBWAbVA
bVUbVIbVAAbVEEbVEbVObVWAbTAbTUbTIbTAAbTEEbTEbTObTWAbCAbCUbCIbCAAbCEEbCEbCObCWAbXAbXUbXIbXAAbXEEbXE
bXObXOAbXWA:128AbXWIbXWAAbXWEEbXWE:1290bNAbNUbNIbNAAbNEEbNEbNObNWAbNYAbNYUbNYIbNYAAbNYEEbNYEbNYO
bNYWAbGLOTTAL AcUcIcAAcEEcEcOcWAbKAbKUbKIbKAAbKEEbKEbKObKOAbKWA:12B2bKWIbKWAAbKWEEbKWE:12B8bKXA
bKXUbKXIbKXAAbKXEEbKXEbKXO:12C0bKXWA:12C2bKXWIbKXWAAbKXWEEbKXWE:12C8bWAbWUbWIbWAAbWEEbWEbWObWOA
bPHARYNGEAL AcUcIcAAcEEcEcO:12D8bZAbZUbZIbZAAbZEEbZEbZObZWAbZHAbZHUbZHIbZHAAbZHEEbZHEbZHObZHWAbYA
bYUbYIbYAAbYEEbYEbYObYOAbDAbDUbDIbDAAbDEEbDEbDObDWAbDDAbDDUbDDIbDDAAbDDEEbDDEbDDObDDWAbJAbJUbJI
bJAAbJEEbJEbJObJWAbGAbGUbGIbGAAbGEEbGEbGObGOAbGWA:1312bGWIbGWAAbGWEEbGWE:1318bGGAbGGUbGGIbGGAA
bGGEEbGGEbGGObGGWAAbTHAbTHUbTHIbTHAAbTHEEbTHEbTHObTHWAbCHAbCHUbCHIbCHAAbCHEEbCHEbCHObCHWAbPHAbPHU
bPHIbPHAAbPHEEbPHEbPHObPHWAbTSAbTSUbTSIbTSAAbTSEEbTSEbTSObTSWAbTZAbTZUbTZIbTZAAbTZEEbTZEbTZObTZOA
bFAbFUbFIbFAAbFEEbFEbFObFWAbPAbPUbPIbPAAbPEEbPEbPObPWAbRYAbMYAbFYA
:135DaCOMBINING GEMINATION AND VOWEL LENGTH MARKbVOWEL LENGTH MARKbGEMINATION MARKaSECTION MARK
aWORDSPACEaFULL STOPaCOMMAaSEMICOLONaCOLONaPREFACE COLONaQUESTION MARKaPARAGRAPH SEPARATOR
aDIGIT ONEbTWObTHREEbFOURbFIVEbSIXbSEVENbEIGHTbNINEaNUMBER TENbTWENTYbTHIRTYbFORTYbFIFTYbSIXTY
bSEVENTYbEIGHTYbNINETYbHUNDREDbTEN THOUSAND:1380aSYLLABLE SEBATBEIT MWAbMWIbMWEEbMWEbSEBATBEIT BWA
bBWIbBWEEbBWEbSEBATBEIT FWAbFWIbFWEEbFWEbSEBATBEIT PWAbPWIbPWEEbPWEaTONAL MARK YIZETcDERETcRIKRIK
cSHORT RIKRIKcDIFATcKENATcCHIRETcHIDETcDERET-HIDETcKURT:2D80aSYLLABLE LOAbMOAbROAbSOAbSHOAbBOAbTOA
bCOAbNOAbNYOAbGLOTTAL OAbZOAbDOAbDDOAbJOAbTHOAbCHOAbPHOAbPOAbGGWAbGGWIbGGWEEbGGWE:2DA0bSSAbSSUbSSI
bSSAAbSSEEbSSEbSSO:2DA8bCCAbCCUbCCIbCCAAbCCEEbCCEbCCO:2DB0bZZAbZZUbZZIbZZAAbZZEEbZZEbZZO:2DB8bCCHA
bCCHUbCCHIbCCHAAbCCHEEbCCHEbCCHO:2DC0bQYAbQYUbQYIbQYAAbQYEEbQYEbQYO:2DC8bKYAbKYUbKYIbKYAAbKYEEbKYE
bKYO:2DD0bXYAbXYUbXYIbXYAAbXYEEbXYEbXYO:2DD8bGYAbGYUbGYIbGYAAbGYEEbGYEbGYO:AB01bTTHUbTTHIbTTHAA
bTTHEEbTTHEbTTHO:AB09bDDHUbDDHIbDDHAAbDDHEEbDDHEbDDHO:AB11bDZUbDZIbDZAAbDZEEbDZEbDZO:AB20bCCHHA
bCCHHUbCCHHIbCCHHAAbCCHHEEbCCHHEbCCHHO:AB28bBBAbBBUbBBIbBBAAbBBEEbBBEbBBO:1E7E0bHHYAbHHYUbHHYI
bHHYAAbHHYEEbHHYEbHHYO:1E7E8bGURAGE HHWAbHHWIbHHWEEbHHWE:1E7EDbGURAGE MWIcMWEE:1E7F0cQWIcQWEEcQWE
cBWIcBWEEcKWIcKWEEcKWEcGWIcGWEEcGWEcFWIcFWEEcPWIcPWEE=cX:3a=bULER:2107aCONSTANT=cRO:20ACaSIGN
=e-CURRENCY:20A0aSIGN=ePEAN:1F3E4aPOST OFFICE:1F3F0aCASTLE=bVERGREEN:1F332aTREE=bXCESS:2239a
=dLAMATION:21aMARK:2049aQUESTION MARK=cPRESSIONLESS:1F611aFACE=cTENDED:6F0aARABIC-INDIC DIGIT ZERO
cONEcTWOcTHREEcFOURcFIVEcSIXcSEVENcEIGHTcNINE=dRATERRESTRIAL:1F47DaALIEN
=eEMELY:1F789aHEAVY WHITE CIRCLE:1F793cSQUARE:1F7A7bGREEK CROSS:1F7AEbSALTIRE
:1F7B4bFIVE SPOKED ASTERISK:1F7BAbSIX SPOKED ASTERISK=bYE:1F441a=dGLASSES:1F453a=dS:1F440a
=aFACE:1F486aMASSAGE:1F602aWITH TEARS OF JOY:1F60BaSAVOURING DELICIOUS FOOD:1F613aWITH COLD SWEAT
:1F618aTHROWING A KISS:1F61BaWITH STUCK-OUT TONGUEdAND WINKING EYEeTIGHTLY-CLOSED EYES
:1F624bLOOK OF TRIUMPH:1F62EbOPEN MOUTH:1F630dAND COLD SWEATaSCREAMING IN FEAR:1F636aWITHOUT MOUTH
aWITH MEDICAL MASK:1F644bROLLING EYESbNO GOOD GESTUREbOK GESTURE:1F912bTHERMOMETER
:1F915bHEAD-BANDAGE:1F920bCOWBOY HAT:1F926aPALM:1F928aWITH ONE EYEBROW RAISED
:1F92BbFINGER COVERING CLOSED LIPS:1F92EbOPEN MOUTH VOMITING:1F973bPARTY HORN AND PARTY HAT
bUNEVEN EYES AND WAVY MOUTH:1F979aHOLDING BACK TEARSaWITH PLEADING EYES:1F9D0bMONOCLE
:1FAE2bOPEN EYES AND HAND OVER MOUTHbPEEKING EYEbDIAGONAL MOUTH=dSIMILE:213BaSIGN=dTORY:1F3EDa
=cIRY:1F9DAa=cLAFEL:1F9C6a=dLEN:1F342aLEAF=eING:26DEaDIAGONAL IN WHITE CIRCLE IN BLACK SQUARE
:292CbCROSSING RISING DIAGONAL:292FcNORTH EAST ARROW=cMILY:1F46Aa=cRSI:262BaSYMBOL
=cTHER:1F385aCHRISTMAS=cX:1F4E0aMACHINE:1F5B7aICON=bEARFUL:1F628aFACE=dTHER:1FAB6a=cMALE:2640aSIGN
=dININE:AAaORDINAL INDICATOR=cNCER:1F93Aa=cRRIS:1F3A1aWHEEL=eY:26F4a=bF:Ca
=bIELD:1F3D1aHOCKEY STICK AND BALL=cGURE:2007aSPACE:2012aDASH=cLE:1CaSEPARATOR:1F4C1aFOLDER
:1F5C4aCABINET=dM:1F39EaFRAMES:1F4FDaPROJECTOR=cNITE:2A0DaPART INTEGRAL=cRE:1F525a:1F692aENGINE
:1F9EFaEXTINGUISHER=eCRACKER:1F9E8a=eWORK:1F387aSPARKLER=iS:1F386a=dST:2068aSTRONG ISOLATE
:263DaQUARTER MOON:1F313cSYMBOL:1F31BcWITH FACE:1F947aPLACE MEDAL=cSH:1F365aCAKE WITH SWIRL DESIGN
:1F41Fa=eEYE:25C9a=eING:1F3A3aPOLE AND FISH=dTED:1F44AaHAND SIGN=cVE:2059aDOT PUNCTUATION
:2E2DbMARK=bLAG:26F3aIN HOLE=dMINGO:1F9A9a=dT:1F97FaSHOE=eBREAD:1FAD3a=eNESS:23E5a
=cEUR-DE-LIS:269Ca=dXED:1F4AAaBICEPS=cOPPY:1F4BEaDISK=dRAL:2766aHEART=dWER:2055aPUNCTUATION MARK
:2698a:1F3B4aPLAYING CARDS=cUSHED:1F633aFACE=cY:1FAB0a=dING:1F585aENVELOPE:1F6F8aSAUCER:1F94FaDISC
=bOG:1F32Ba=dGY:1F301a=cLDER:1F5C0a=cNDUE:1FAD5a=cOT:1F9B6a=ePRINTS:1F463a=cR:2200aALL=dCES:22A9a
=dK:1F374aAND KNIFE:1F37DcWITH PLATE=eED:2E10aPARAGRAPHOS=eING:2ADCa=dM:CaFEED=dTUNE:1F960aCOOKIE
=cUNTAIN:26F2a=dR:2058aDOT PUNCTUATION:205BbMARK:2722aTEARDROP-SPOKED ASTERISK
aBALLOON-SPOKED ASTERISK:2725aCLUB-SPOKED ASTERISK:2B94aCORNER ARROWS CIRCLING ANTICLOCKWISE
:1F340aLEAF CLOVER:1F7C6aPOINTED BLACK STAR=e-PER-EM:2005aSPACE=eTH:221CaROOT=cX:1F98AaFACE
=bRACTION:2044aSLASH:215FaNUMERATOR ONE=dME:1F5BCaWITH PICTUREbTILESbAN X=cEEZING:1F976aFACE
=dNCH:20A3aFRANC SIGN:1F35FaFRIES=cIED:1F364aSHRIMP=cOG:1F438aFACE=dNT-FACING:1F425aBABY CHICK
=gTILTED:27ACaSHADOWED WHITE RIGHTWARDS ARROW=dWN:2322a=fING:1F626aFACE WITH OPEN MOUTH=bS:1Ca
=cI:2068a=bUEL:26FDaPUMP=cLL:2EaSTOP:2588aBLOCK:27D7aOUTER JOIN:1F315aMOON SYMBOL:1F31DbWITH FACE
=eWIDTH:FF01aEXCLAMATION MARKaQUOTATION MARKaNUMBER SIGNaDOLLAR SIGNaPERCENT SIGNaAMPERSAND
aAPOSTROPHEaLEFT PARENTHESISaRIGHT PARENTHESISaASTERISKaPLUS SIGNaCOMMAaHYPHEN-MINUSaFULL STOP
aSOLIDUSaDIGIT ZERObONEbTWObTHREEbFOURbFIVEbSIXbSEVENbEIGHTbNINEaCOLONaSEMICOLONaLESS-THAN SIGN
aEQUALS SIGNaGREATER-THAN SIGNaQUESTION MARKaCOMMERCIAL ATaLATIN CAPITAL LETTER AdBdCdDdEdFdGdHdI
dJdKdLdMdNdOdPdQdRdSdTdUdVdWdXdYdZaLEFT SQUARE BRACKETaREVERSE SOLIDUSaRIGHT SQUARE BRACKET
aCIRCUMFLEX ACCENTaLOW LINEaGRAVE ACCENTaLATIN SMALL LETTER AdBdCdDdEdFdGdHdIdJdKdLdMdNdOdPdQdRdS
dTdUdVdWdXdYdZaLEFT CURLY BRACKETaVERTICAL LINEaRIGHT CURLY BRACKETaTILDEaLEFT WHITE PARENTHESIS
aRIGHT WHITE PARENTHESIS:FFE0aCENT SIGNaPOUND SIGNaNOT SIGNaMACRONaBROKEN BARaYEN SIGNaWON SIGN
=cNCTION:2061aAPPLICATION=dERAL:26B1aURN=cSE:23DBa=bVS1:180Ba=d2:180Ca=d3:180Da=d4:180Fa
=aGAME:1F3B2aDIE=cRLIC:1F9C4a=bEAR:2699a:26EDaWITHOUT HUBaWITH HANDLES=cM:1F48EaSTONE=dINI:264Aa
=cNIE:1F9DEa=cOMETRIC:223AaPROPORTION=jALLY:224EaEQUIVALENT TO:2251aEQUAL TO
=dRGIAN:10A0aCAPITAL LETTER ANcBANcGANcDONcENcVINcZENcTANcINcKANcLAScMANcNARcONcPARcZHARcRAEcSAN
cTARcUNcPHARcKHARcGHANcQARcSHINcCHINcCANcJILcCILcCHARcXANcJHANcHAEcHEcHIEcWEcHARcHOE:10C7cYN
:10CDcAEN:10D0aLETTER ANbBANbGANbDONbENbVINbZENbTANbINbKANbLASbMANbNARbONbPARbZHARbRAEbSANbTARbUN
bPHARbKHARbGHANbQARbSHINbCHINbCANbJILbCILbCHARbXANbJHANbHAEbHEbHIEbWEbHARbHOEbFIbYNbELIFI
bTURNED GANbAINaPARAGRAPH SEPARATOR:10FDaLETTER AENbHARD SIGNbLABIAL SIGN
:1C90aMTAVRULI CAPITAL LETTER ANdBANdGANdDONdENdVINdZENdTANdINdKANdLASdMANdNARdONdPARdZHARdRAEdSAN
dTARdUNdPHARdKHARdGHANdQARdSHINdCHINdCANdJILdCILdCHARdXANdJHANdHAEdHEdHIEdWEdHARdHOEdFIdYNdELIFI
dTURNED GANdAIN:1CBDdAENdHARD SIGNdLABIAL SIGN:2D00aSMALL LETTER ANcBANcGANcDONcENcVINcZENcTANcIN
cKANcLAScMANcNARcONcPARcZHARcRAEcSANcTARcUNcPHARcKHARcGHANcQARcSHINcCHINcCANcJILcCILcCHARcXANcJHAN
cHAEcHEcHIEcWEcHARcHOE:2D27cYN:2D2DcAEN=cRMAN:20B0aPENNY SIGN=cTA:3013aMARK=bHOST:1F47Ba
=bIMEL:2137aSYMBOL=cRAFFE:1F992aFACE=dL:1F467a=eS:1F6CAaSYMBOL=bLAGOLITIC:2C00aCAPITAL LETTER AZU
cBUKYcVEDEcGLAGOLIcDOBROcYESTUcZHIVETEcDZELOcZEMLJAcIZHEcINITIAL IZHEcIcDJERVIcKAKOcLJUDIJE
cMYSLITEcNASHIcONUcPOKOJIcRITSIcSLOVOcTVRIDOcUKUcFRITUcHERUcOTUcPEcSHTAcTSIcCHRIVIcSHAcYERUcYERI
cYATIcSPIDERY HAcYUcSMALL YUSeWITH TAILcYOcIOTATED SMALL YUScBIG YUScIOTATED BIG YUScFITAcIZHITSA
cSHTAPICcTROKUTASTI AcLATINATE MYSLITEcCAUDATE CHRIVIaSMALL LETTER AZUcBUKYcVEDEcGLAGOLIcDOBRO
cYESTUcZHIVETEcDZELOcZEMLJAcIZHEcINITIAL IZHEcIcDJERVIcKAKOcLJUDIJEcMYSLITEcNASHIcONUcPOKOJIcRITSI
cSLOVOcTVRIDOcUKUcFRITUcHERUcOTUcPEcSHTAcTSIcCHRIVIcSHAcYERUcYERIcYATIcSPIDERY HAcYUcSMALL YUS
eWITH TAILcYOcIOTATED SMALL YUScBIG YUScIOTATED BIG YUScFITAcIZHITSAcSHTAPICcTROKUTASTI A
cLATINATE MYSLITEcCAUDATE CHRIVI=dSS:1F95BaOF MILK=cEICH:29E6aSTARK=cOBE:1F310aWITH MERIDIANS
=dVES:1F9E4a=dWING:1F31FaSTAR=bOAL:1F945aNET=dT:1F410a=cGGLES:1F97Da=cLFER:1F3CCa=cRILLA:1F98Da
=cTHIC:10330aLETTER AHSAbBAIRKANbGIBAbDAGSbAIHVUSbQAIRTHRAbIUJAbHAGLbTHIUTHbEISbKUSMAbLAGUSbMANNA
bNAUTHSbJERbURUSbPAIRTHRAbNINETYbRAIDAbSAUILbTEIWSbWINJAbFAIHUbIGGWSbHWAIRbOTHALbNINE HUNDRED
=bRADUATION:1F393aCAP=dNTHA:11300aSIGN COMBINING ANUSVARA ABOVEbCANDRABINDUbANUSVARAbVISARGA
:11305aLETTER AbAAbIbIIbUbUUbVOCALIC RcL:1130FbEEbAI:11313bOObAUbKAbKHAbGAbGHAbNGAbCAbCHAbJAbJHA
bNYAbTTAbTTHAbDDAbDDHAbNNAbTAbTHAbDAbDHAbNA:1132AbPAbPHAbBAbBHAbMAbYAbRA:11332bLAbLLA:11335bVAbSHA
bSSAbSAbHA:1133CaSIGN NUKTAbAVAGRAHAaVOWEL SIGN AAcIcIIcUcUUcVOCALIC RdRR:11347cEEcAI:1134BcOOcAU
aSIGN VIRAMA:11350aOM:11357aAU LENGTH MARK:1135DaSIGN PLUTAaLETTER VEDIC ANUSVARAcDOUBLE ANUSVARA
bVOCALIC RRcLLaVOWEL SIGN VOCALIC LdLL=dPES:1F347a=dVE:60aACCENT=cEATER-THAN:3EaSIGN
:2265aOR EQUAL TO:2267aOVER EQUAL TO:2269aBUT NOT EQUAL TO:2273aOR EQUIVALENT TO:2277bLESS-THAN
:22D7aWITH DOT:22DBaEQUAL TO OR LESS-THAN:22E7aBUT NOT EQUIVALENT TO:2978aABOVE RIGHTWARDS ARROW
:2A7AaWITH CIRCLE INSIDE:2A7CbQUESTION MARK ABOVE:2A7EaOR SLANTED EQUAL TO:2A80eWITH DOT INSIDE
:2A82gABOVE:2A84hLEFT:2A86bAPPROXIMATE:2A88aAND SINGLE-LINE NOT EQUAL TO:2A8AbNOT APPROXIMATE
:2A8CaABOVE DOUBLE-LINE EQUAL ABOVE LESS-THAN:2A8EbSIMILAR OR EQUAL:2A90cABOVE LESS-THAN
:2A92bLESS-THAN ABOVE DOUBLE-LINE EQUAL:2A94bSLANTED EQUAL ABOVE LESS-THAN ABOVE SLANTED EQUAL
:2AA4aOVERLAPPING LESS-THANaBESIDE LESS-THAN:2AA7aCLOSED BY CURVE:2AA9dABOVE SLANTED EQUAL
=dEK:370aCAPITAL LETTER HETAaSMALL LETTER HETAaCAPITAL LETTER ARCHAIC SAMPI
aSMALL LETTER ARCHAIC SAMPIaNUMERAL SIGNaLOWER NUMERAL SIGNaCAPITAL LETTER PAMPHYLIAN DIGAMMA
aSMALL LETTER PAMPHYLIAN DIGAMMA:37AaYPOGEGRAMMENIaSMALL REVERSED LUNATE SIGMA SYMBOL
bDOTTED LUNATE SIGMA SYMBOLbREVERSED DOTTED LUNATE SIGMA SYMBOLaQUESTION MARKaCAPITAL LETTER YOT
:384aTONOSaDIALYTIKA TONOSaCAPITAL LETTER ALPHA WITH TONOSaANO TELEIA
aCAPITAL LETTER EPSILON WITH TONOScETA WITH TONOScIOTA WITH TONOS:38CcOMICRON WITH TONOS
:38EcUPSILON WITH TONOScOMEGA WITH TONOSaSMALL LETTER IOTA WITH DIALYTIKA AND TONOS
aCAPITAL LETTER ALPHAcBETAcGAMMAcDELTAcEPSILONcZETAcETAcTHETAcIOTAcKAPPAcLAMDAcMUcNUcXIcOMICRONcPI
cRHO:3A3cSIGMAcTAUcUPSILONcPHIcCHIcPSIcOMEGAcIOTA WITH DIALYTIKAcUPSILON WITH DIALYTIKA
aSMALL LETTER ALPHA WITH TONOScEPSILON WITH TONOScETA WITH TONOScIOTA WITH TONOS
cUPSILON WITH DIALYTIKA AND TONOScALPHAcBETAcGAMMAcDELTAcEPSILONcZETAcETAcTHETAcIOTAcKAPPAcLAMDA
cMUcNUcXIcOMICRONcPIcRHOcFINAL SIGMAcSIGMAcTAUcUPSILONcPHIcCHIcPSIcOMEGAcIOTA WITH DIALYTIKA
cUPSILON WITH DIALYTIKAcOMICRON WITH TONOScUPSILON WITH TONOScOMEGA WITH TONOSaCAPITAL KAI SYMBOL
aBETA SYMBOLaTHETA SYMBOLaUPSILON WITH HOOK SYMBOLcACUTE AND HOOK SYMBOLcDIAERESIS AND HOOK SYMBOL
aPHI SYMBOLaPI SYMBOLaKAI SYMBOLaLETTER ARCHAIC KOPPAaSMALL LETTER ARCHAIC KOPPAaLETTER STIGMA
aSMALL LETTER STIGMAaLETTER DIGAMMAaSMALL LETTER DIGAMMAaLETTER KOPPAaSMALL LETTER KOPPA
aLETTER SAMPIaSMALL LETTER SAMPI:3F0aKAPPA SYMBOLaRHO SYMBOLaLUNATE SIGMA SYMBOLaLETTER YOT
aCAPITAL THETA SYMBOLaLUNATE EPSILON SYMBOLaREVERSED LUNATE EPSILON SYMBOLaCAPITAL LETTER SHO
aSMALL LETTER SHOaCAPITAL LUNATE SIGMA SYMBOLbLETTER SANaSMALL LETTER SANaRHO WITH STROKE SYMBOL
aCAPITAL REVERSED LUNATE SIGMA SYMBOLbDOTTED LUNATE SIGMA SYMBOL
bREVERSED DOTTED LUNATE SIGMA SYMBOL:1D26aLETTER SMALL CAPITAL GAMMAdLAMDAdPIdRHOdPSI
:1D66aSUBSCRIPT SMALL LETTER BETAdGAMMAdRHOdPHIdCHI:1F00aSMALL LETTER ALPHA WITH PSILIeDASIA
ePSILI AND VARIAeDASIA AND VARIAePSILI AND OXIAeDASIA AND OXIAePSILI AND PERISPOMENI
eDASIA AND PERISPOMENIaCAPITAL LETTER ALPHA WITH PSILIeDASIAePSILI AND VARIAeDASIA AND VARIA
ePSILI AND OXIAeDASIA AND OXIAePSILI AND PERISPOMENIeDASIA AND PERISPOMENI
aSMALL LETTER EPSILON WITH PSILIeDASIAePSILI AND VARIAeDASIA AND VARIAePSILI AND OXIA
eDASIA AND OXIA:1F18aCAPITAL LETTER EPSILON WITH PSILIeDASIAePSILI AND VARIAeDASIA AND VARIA
ePSILI AND OXIAeDASIA AND OXIA:1F20aSMALL LETTER ETA WITH PSILIeDASIAePSILI AND VARIA
eDASIA AND VARIAePSILI AND OXIAeDASIA AND OXIAePSILI AND PERISPOMENIeDASIA AND PERISPOMENI
aCAPITAL LETTER ETA WITH PSILIeDASIAePSILI AND VARIAeDASIA AND VARIAePSILI AND OXIAeDASIA AND OXIA
ePSILI AND PERISPOMENIeDASIA AND PERISPOMENIaSMALL LETTER IOTA WITH PSILIeDASIAePSILI AND VARIA
eDASIA AND VARIAePSILI AND OXIAeDASIA AND OXIAePSILI AND PERISPOMENIeDASIA AND PERISPOMENI
aCAPITAL LETTER IOTA WITH PSILIeDASIAePSILI AND VARIAeDASIA AND VARIAePSILI AND OXIA
eDASIA AND OXIAePSILI AND PERISPOMENIeDASIA AND PERISPOMENIaSMALL LETTER OMICRON WITH PSILIeDASIA
ePSILI AND VARIAeDASIA AND VARIAePSILI AND OXIAeDASIA AND OXIA
:1F48aCAPITAL LETTER OMICRON WITH PSILIeDASIAePSILI AND VARIAeDASIA AND VARIAePSILI AND OXIA
eDASIA AND OXIA:1F50aSMALL LETTER UPSILON WITH PSILIeDASIAePSILI AND VARIAeDASIA AND VARIA
ePSILI AND OXIAeDASIA AND OXIAePSILI AND PERISPOMENIeDASIA AND PERISPOMENI
:1F59aCAPITAL LETTER UPSILON WITH DASIA:1F5BfAND VARIA:1F5DgOXIA:1F5FgPERISPOMENI
aSMALL LETTER OMEGA WITH PSILIeDASIAePSILI AND VARIAeDASIA AND VARIAePSILI AND OXIAeDASIA AND OXIA
ePSILI AND PERISPOMENIeDASIA AND PERISPOMENIaCAPITAL LETTER OMEGA WITH PSILIeDASIAePSILI AND VARIA
eDASIA AND VARIAePSILI AND OXIAeDASIA AND OXIAePSILI AND PERISPOMENIeDASIA AND PERISPOMENI
aSMALL LETTER ALPHA WITH VARIAeOXIAcEPSILON WITH VARIAeOXIAcETA WITH VARIAeOXIAcIOTA WITH VARIA
eOXIAcOMICRON WITH VARIAeOXIAcUPSILON WITH VARIAeOXIAcOMEGA WITH VARIAeOXIA
:1F80cALPHA WITH PSILI AND YPOGEGRAMMENIeDASIA AND YPOGEGRAMMENIePSILI AND VARIA AND YPOGEGRAMMENI
eDASIA AND VARIA AND YPOGEGRAMMENIePSILI AND OXIA AND YPOGEGRAMMENI
eDASIA AND OXIA AND YPOGEGRAMMENIePSILI AND PERISPOMENI AND YPOGEGRAMMENI
eDASIA AND PERISPOMENI AND YPOGEGRAMMENIaCAPITAL LETTER ALPHA WITH PSILI AND PROSGEGRAMMENI
eDASIA AND PROSGEGRAMMENIePSILI AND VARIA AND PROSGEGRAMMENIeDASIA AND VARIA AND PROSGEGRAMMENI
ePSILI AND OXIA AND PROSGEGRAMMENIeDASIA AND OXIA AND PROSGEGRAMMENI
ePSILI AND PERISPOMENI AND PROSGEGRAMMENIeDASIA AND PERISPOMENI AND PROSGEGRAMMENI
aSMALL LETTER ETA WITH PSILI AND YPOGEGRAMMENIeDASIA AND YPOGEGRAMMENI
ePSILI AND VARIA AND YPOGEGRAMMENIeDASIA AND VARIA AND YPOGEGRAMMENI
ePSILI AND OXIA AND YPOGEGRAMMENIeDASIA AND OXIA AND YPOGEGRAMMENI
ePSILI AND PERISPOMENI AND YPOGEGRAMMENIeDASIA AND PERISPOMENI AND YPOGEGRAMMENI
aCAPITAL LETTER ETA WITH PSILI AND PROSGEGRAMMENIeDASIA AND PROSGEGRAMMENI
ePSILI AND VARIA AND PROSGEGRAMMENIeDASIA AND VARIA AND PROSGEGRAMMENI
ePSILI AND OXIA AND PROSGEGRAMMENIeDASIA AND OXIA AND PROSGEGRAMMENI
ePSILI AND PERISPOMENI AND PROSGEGRAMMENIeDASIA AND PERISPOMENI AND PROSGEGRAMMENI
aSMALL LETTER OMEGA WITH PSILI AND YPOGEGRAMMENIeDASIA AND YPOGEGRAMMENI
ePSILI AND VARIA AND YPOGEGRAMMENIeDASIA AND VARIA AND YPOGEGRAMMENI
ePSILI AND OXIA AND YPOGEGRAMMENIeDASIA AND OXIA AND YPOGEGRAMMENI
ePSILI AND PERISPOMENI AND YPOGEGRAMMENIeDASIA AND PERISPOMENI AND YPOGEGRAMMENI
aCAPITAL LETTER OMEGA WITH PSILI AND PROSGEGRAMMENIeDASIA AND PROSGEGRAMMENI
ePSILI AND VARIA AND PROSGEGRAMMENIeDASIA AND VARIA AND PROSGEGRAMMENI
ePSILI AND OXIA AND PROSGEGRAMMENIeDASIA AND OXIA AND PROSGEGRAMMENI
ePSILI AND PERISPOMENI AND PROSGEGRAMMENIeDASIA AND PERISPOMENI AND PROSGEGRAMMENI
aSMALL LETTER ALPHA WITH VRACHYeMACRONeVARIA AND YPOGEGRAMMENIeYPOGEGRAMMENI
eOXIA AND YPOGEGRAMMENI:1FB6ePERISPOMENIfAND YPOGEGRAMMENIaCAPITAL LETTER ALPHA WITH VRACHYeMACRON
eVARIAeOXIAePROSGEGRAMMENIaKORONISaPROSGEGRAMMENIaPSILIaPERISPOMENIaDIALYTIKA AND PERISPOMENI
aSMALL LETTER ETA WITH VARIA AND YPOGEGRAMMENIeYPOGEGRAMMENIeOXIA AND YPOGEGRAMMENI
:1FC6ePERISPOMENIfAND YPOGEGRAMMENIaCAPITAL LETTER EPSILON WITH VARIAeOXIAcETA WITH VARIAeOXIA
ePROSGEGRAMMENIaPSILI AND VARIAcOXIAcPERISPOMENIaSMALL LETTER IOTA WITH VRACHYeMACRON
eDIALYTIKA AND VARIAgOXIA:1FD6ePERISPOMENIeDIALYTIKA AND PERISPOMENI
aCAPITAL LETTER IOTA WITH VRACHYeMACRONeVARIAeOXIA:1FDDaDASIA AND VARIAcOXIAcPERISPOMENI
aSMALL LETTER UPSILON WITH VRACHYeMACRONeDIALYTIKA AND VARIAgOXIAcRHO WITH PSILIeDASIA
cUPSILON WITH PERISPOMENIeDIALYTIKA AND PERISPOMENIaCAPITAL LETTER UPSILON WITH VRACHYeMACRON
eVARIAeOXIAcRHO WITH DASIAaDIALYTIKA AND VARIAcOXIAaVARIA
:1FF2aSMALL LETTER OMEGA WITH VARIA AND YPOGEGRAMMENIeYPOGEGRAMMENIeOXIA AND YPOGEGRAMMENI
:1FF6ePERISPOMENIfAND YPOGEGRAMMENIaCAPITAL LETTER OMICRON WITH VARIAeOXIAcOMEGA WITH VARIAeOXIA
ePROSGEGRAMMENIaOXIAaDASIA:AB65aLETTER SMALL CAPITAL OMEGA:10140aACROPHONIC ATTIC ONE QUARTERdHALF
dDRACHMAcFIVEcFIFTYcFIVE HUNDREDdTHOUSANDcFIFTY THOUSANDcFIVE TALENTScTEN TALENTScFIFTY TALENTS
cONE HUNDRED TALENTScFIVE HUNDRED TALENTScONE THOUSAND TALENTScFIVE THOUSAND TALENTSdSTATERS
cTEN STATERScFIFTY STATERScONE HUNDRED STATERScFIVE HUNDRED STATERScONE THOUSAND STATERS
cTEN THOUSAND STATERScFIFTY THOUSAND STATERScTEN MNASbHERAEUM ONE PLETHRONbTHESPIAN ONE
bHERMIONIAN ONEbEPIDAUREAN TWObTHESPIAN TWObCYRENAIC TWO DRACHMASbEPIDAUREAN TWO DRACHMAS
bTROEZENIAN FIVEcTENdALTERNATE FORMbHERMIONIAN TENbMESSENIAN TENbTHESPIAN TENcTHIRTY
bTROEZENIAN FIFTYdALTERNATE FORMbHERMIONIAN FIFTYbTHESPIAN FIFTYcONE HUNDREDcTHREE HUNDRED
bEPIDAUREAN FIVE HUNDREDbTROEZENIAN FIVE HUNDREDbTHESPIAN FIVE HUNDREDbCARYSTIAN FIVE HUNDRED
bNAXIAN FIVE HUNDREDbTHESPIAN ONE THOUSANDcFIVE THOUSANDbDELPHIC FIVE MNASbSTRATIAN FIFTY MNAS
aONE HALF SIGNdALTERNATE FORMaTWO THIRDS SIGNaTHREE QUARTERS SIGNaYEAR SIGNaTALENT SIGN
aDRACHMA SIGNaOBOL SIGNaTWO OBOLS SIGNaTHREE OBOLS SIGNaFOUR OBOLS SIGNaFIVE OBOLS SIGN
aMETRETES SIGNaKYATHOS BASE SIGNaLITRA SIGNaOUNKIA SIGNaXESTES SIGNaARTABE SIGNaAROURA SIGN
aGRAMMA SIGNaTRYBLION BASE SIGNaZERO SIGNaONE QUARTER SIGNaSINUSOID SIGNaINDICTION SIGN
:101A0aSYMBOL TAU RHO:1D200aVOCAL NOTATION SYMBOL-1cSYMBOL-2cSYMBOL-3cSYMBOL-4cSYMBOL-5cSYMBOL-6
cSYMBOL-7cSYMBOL-8cSYMBOL-9cSYMBOL-10cSYMBOL-11cSYMBOL-12cSYMBOL-13cSYMBOL-14cSYMBOL-15cSYMBOL-16
cSYMBOL-17cSYMBOL-18cSYMBOL-19cSYMBOL-20cSYMBOL-21cSYMBOL-22cSYMBOL-23cSYMBOL-24cSYMBOL-50
cSYMBOL-51cSYMBOL-52cSYMBOL-53cSYMBOL-54aINSTRUMENTAL NOTATION SYMBOL-1cSYMBOL-2cSYMBOL-4cSYMBOL-5
cSYMBOL-7cSYMBOL-8cSYMBOL-11cSYMBOL-12cSYMBOL-13cSYMBOL-14cSYMBOL-17cSYMBOL-18cSYMBOL-19cSYMBOL-23
cSYMBOL-24cSYMBOL-25cSYMBOL-26cSYMBOL-27cSYMBOL-29cSYMBOL-30cSYMBOL-32cSYMBOL-36cSYMBOL-37
cSYMBOL-38cSYMBOL-39cSYMBOL-40cSYMBOL-42cSYMBOL-43cSYMBOL-45cSYMBOL-47cSYMBOL-48cSYMBOL-49
cSYMBOL-50cSYMBOL-51cSYMBOL-52cSYMBOL-53cSYMBOL-54:1D245aMUSICAL LEIMMA=eN:1F34FaAPPLE:1F49AaHEART
:1F4D7aBOOK:1F957aSALAD=cIMACING:1F62CaFACE=dNNING:1F600aFACEbWITH SMILING EYES
:1F638aCAT FACE WITH SMILING EYES:1F929aFACE WITH STAR EYEScONE LARGE AND ONE SMALL EYE
=cOUP:1DaSEPARATOR:2BD2aMARK=dWING:1F497aHEART=bS:1Da=bUARANI:20B2aSIGN=eDSMAN:1F482a
=cIDE:1F9AEaDOG=dTAR:1F3B8a=cJARATI:A81aSIGN CANDRABINDUbANUSVARAbVISARGA:A85aLETTER AbAAbIbIIbU
bUUbVOCALIC RcLaVOWEL CANDRA E:A8FaLETTER EbAIaVOWEL CANDRA O:A93aLETTER ObAUbKAbKHAbGAbGHAbNGAbCA
bCHAbJAbJHAbNYAbTTAbTTHAbDDAbDDHAbNNAbTAbTHAbDAbDHAbNA:AAAbPAbPHAbBAbBHAbMAbYAbRA:AB2bLAbLLA
:AB5bVAbSHAbSSAbSAbHA:ABCaSIGN NUKTAbAVAGRAHAaVOWEL SIGN AAcIcIIcUcUUcVOCALIC RdRRcCANDRA E:AC7cE
cAIcCANDRA O:ACBcOcAUaSIGN VIRAMA:AD0aOM:AE0aLETTER VOCALIC RRcLLaVOWEL SIGN VOCALIC LdLL
:AE6aDIGIT ZERObONEbTWObTHREEbFOURbFIVEbSIXbSEVENbEIGHTbNINEaABBREVIATION SIGNaRUPEE SIGN
:AF9aLETTER ZHAaSIGN SUKUNbSHADDAbMADDAHbTHREE-DOT NUKTA ABOVEbCIRCLE NUKTA ABOVE
bTWO-CIRCLE NUKTA ABOVE=cNJALA:11D60aGONDI LETTER AcAAcIcIIcUcUU:11D67cEEcAI:11D6AcOOcAUcYAcVAcBA
cBHAcMAcKAcKHAcTAcTHAcLAcGAcGHAcDAcDHAcNAcCAcCHAcTTAcTTHAcLLAcJAcJHAcDDAcDDHAcNGAcPAcPHAcHAcRAcSA
bVOWEL SIGN AAdIdIIdUdUU:11D90dEEdAI:11D93dOOdAUbSIGN ANUSVARAcVISARGAbVIRAMAbOM:11DA0bDIGIT ZERO
cONEcTWOcTHREEcFOURcFIVEcSIXcSEVENcEIGHTcNINE=cRMUKHI:A01aSIGN ADAK BINDIbBINDIbVISARGA
:A05aLETTER AbAAbIbIIbUbUU:A0FbEEbAI:A13bOObAUbKAbKHAbGAbGHAbNGAbCAbCHAbJAbJHAbNYAbTTAbTTHAbDDA
bDDHAbNNAbTAbTHAbDAbDHAbNA:A2AbPAbPHAbBAbBHAbMAbYAbRA:A32bLAbLLA:A35bVAbSHA:A38bSAbHA
:A3CaSIGN NUKTA:A3EaVOWEL SIGN AAcIcIIcUcUU:A47cEEcAI:A4BcOOcAUaSIGN VIRAMA:A51bUDAAT
:A59aLETTER KHHAbGHHAbZAbRRA:A5EbFA:A66aDIGIT ZERObONEbTWObTHREEbFOURbFIVEbSIXbSEVENbEIGHTbNINE
aTIPPIaADDAKaIRIaURAaEK ONKARaSIGN YAKASHaABBREVIATION SIGN=aHADES:2BE1a=cIR:200AaSPACE
=eCUT:1F487a=cLFWIDTH:FF61aIDEOGRAPHIC FULL STOPaLEFT CORNER BRACKETaRIGHT CORNER BRACKET
aIDEOGRAPHIC COMMAaKATAKANA MIDDLE DOTbLETTER WOcSMALL AdIdUdEdOdYAdYUdYOdTU
aKATAKANA-HIRAGANA PROLONGED SOUND MARKaKATAKANA LETTER AcIcUcEcOcKAcKIcKUcKEcKOcSAcSIcSUcSEcSOcTA
cTIcTUcTEcTOcNAcNIcNUcNEcNOcHAcHIcHUcHEcHOcMAcMIcMUcMEcMOcYAcYUcYOcRAcRIcRUcREcROcWAcN
bVOICED SOUND MARKbSEMI-VOICED SOUND MARKaHANGUL FILLERbLETTER KIYEOKcSSANGKIYEOKcKIYEOK-SIOS
cNIEUNcNIEUN-CIEUCcNIEUN-HIEUHcTIKEUTcSSANGTIKEUTcRIEULcRIEUL-KIYEOKcRIEUL-MIEUMcRIEUL-PIEUP
cRIEUL-SIOScRIEUL-THIEUTHcRIEUL-PHIEUPHcRIEUL-HIEUHcMIEUMcPIEUPcSSANGPIEUPcPIEUP-SIOScSIOS
cSSANGSIOScIEUNGcCIEUCcSSANGCIEUCcCHIEUCHcKHIEUKHcTHIEUTHcPHIEUPHcHIEUH:FFC2cAcAEcYAcYAEcEOcE
:FFCAcYEOcYEcOcWAcWAEcOE:FFD2cYOcUcWEOcWEcWIcYU:FFDAcEUcYIcI:FFE8aFORMS LIGHT VERTICAL
aLEFTWARDS ARROWaUPWARDS ARROWaRIGHTWARDS ARROWaDOWNWARDS ARROWaBLACK SQUAREaWHITE CIRCLE
=cMBURGER:1F354a=dMER:262DaAND SICKLE:2692bPICK:1F528a:1F6E0aAND WRENCH=dSA:1FAACa=eTER:1F439aFACE
=cND:1F91EaWITH INDEX AND MIDDLE FINGERS CROSSED:1FAF0cFINGER AND THUMB CROSSED=eBAG:1F45Ca
=gLL:1F93Ea=eSHAKE:1F91Da=dGUL:1100aCHOSEONG KIYEOKbSSANGKIYEOKbNIEUNbTIKEUTbSSANGTIKEUTbRIEUL
bMIEUMbPIEUPbSSANGPIEUPbSIOSbSSANGSIOSbIEUNGbCIEUCbSSANGCIEUCbCHIEUCHbKHIEUKHbTHIEUTHbPHIEUPH
bHIEUHbNIEUN-KIYEOKbSSANGNIEUNbNIEUN-TIKEUTbNIEUN-PIEUPbTIKEUT-KIYEOKbRIEUL-NIEUNbSSANGRIEUL
bRIEUL-HIEUHbKAPYEOUNRIEULbMIEUM-PIEUPbKAPYEOUNMIEUMbPIEUP-KIYEOKbPIEUP-NIEUNbPIEUP-TIKEUT
bPIEUP-SIOSbPIEUP-SIOS-KIYEOKbPIEUP-SIOS-TIKEUTbPIEUP-SIOS-PIEUPbPIEUP-SSANGSIOSbPIEUP-SIOS-CIEUC
bPIEUP-CIEUCbPIEUP-CHIEUCHbPIEUP-THIEUTHbPIEUP-PHIEUPHbKAPYEOUNPIEUPbKAPYEOUNSSANGPIEUP
bSIOS-KIYEOKbSIOS-NIEUNbSIOS-TIKEUTbSIOS-RIEULbSIOS-MIEUMbSIOS-PIEUPbSIOS-PIEUP-KIYEOK
bSIOS-SSANGSIOSbSIOS-IEUNGbSIOS-CIEUCbSIOS-CHIEUCHbSIOS-KHIEUKHbSIOS-THIEUTHbSIOS-PHIEUPH
bSIOS-HIEUHbCHITUEUMSIOSbCHITUEUMSSANGSIOSbCEONGCHIEUMSIOSbCEONGCHIEUMSSANGSIOSbPANSIOS
bIEUNG-KIYEOKbIEUNG-TIKEUTbIEUNG-MIEUMbIEUNG-PIEUPbIEUNG-SIOSbIEUNG-PANSIOSbSSANGIEUNGbIEUNG-CIEUC
bIEUNG-CHIEUCHbIEUNG-THIEUTHbIEUNG-PHIEUPHbYESIEUNGbCIEUC-IEUNGbCHITUEUMCIEUCbCHITUEUMSSANGCIEUC
bCEONGCHIEUMCIEUCbCEONGCHIEUMSSANGCIEUCbCHIEUCH-KHIEUKHbCHIEUCH-HIEUHbCHITUEUMCHIEUCH
bCEONGCHIEUMCHIEUCHbPHIEUPH-PIEUPbKAPYEOUNPHIEUPHbSSANGHIEUHbYEORINHIEUHbKIYEOK-TIKEUTbNIEUN-SIOS
bNIEUN-CIEUCbNIEUN-HIEUHbTIKEUT-RIEULbFILLERaJUNGSEONG FILLERbAbAEbYAbYAEbEObEbYEObYEbObWAbWAEbOE
bYObUbWEObWEbWIbYUbEUbYIbIbA-ObA-UbYA-ObYA-YObEO-ObEO-UbEO-EUbYEO-ObYEO-UbO-EObO-EbO-YEbO-ObO-U
bYO-YAbYO-YAEbYO-YEObYO-ObYO-IbU-AbU-AEbU-EO-EUbU-YEbU-UbYU-AbYU-EObYU-EbYU-YEObYU-YEbYU-UbYU-I
bEU-UbEU-EUbYI-UbI-AbI-YAbI-ObI-UbI-EUbI-ARAEAbARAEAbARAEA-EObARAEA-UbARAEA-IbSSANGARAEAbA-EUbYA-U
bYEO-YAbO-YAbO-YAEaJONGSEONG KIYEOKbSSANGKIYEOKbKIYEOK-SIOSbNIEUNbNIEUN-CIEUCbNIEUN-HIEUHbTIKEUT
bRIEULbRIEUL-KIYEOKbRIEUL-MIEUMbRIEUL-PIEUPbRIEUL-SIOSbRIEUL-THIEUTHbRIEUL-PHIEUPHbRIEUL-HIEUH
bMIEUMbPIEUPbPIEUP-SIOSbSIOSbSSANGSIOSbIEUNGbCIEUCbCHIEUCHbKHIEUKHbTHIEUTHbPHIEUPHbHIEUH
bKIYEOK-RIEULbKIYEOK-SIOS-KIYEOKbNIEUN-KIYEOKbNIEUN-TIKEUTbNIEUN-SIOSbNIEUN-PANSIOSbNIEUN-THIEUTH
bTIKEUT-KIYEOKbTIKEUT-RIEULbRIEUL-KIYEOK-SIOSbRIEUL-NIEUNbRIEUL-TIKEUTbRIEUL-TIKEUT-HIEUH
bSSANGRIEULbRIEUL-MIEUM-KIYEOKbRIEUL-MIEUM-SIOSbRIEUL-PIEUP-SIOSbRIEUL-PIEUP-HIEUH
bRIEUL-KAPYEOUNPIEUPbRIEUL-SSANGSIOSbRIEUL-PANSIOSbRIEUL-KHIEUKHbRIEUL-YEORINHIEUHbMIEUM-KIYEOK
bMIEUM-RIEULbMIEUM-PIEUPbMIEUM-SIOSbMIEUM-SSANGSIOSbMIEUM-PANSIOSbMIEUM-CHIEUCHbMIEUM-HIEUH
bKAPYEOUNMIEUMbPIEUP-RIEULbPIEUP-PHIEUPHbPIEUP-HIEUHbKAPYEOUNPIEUPbSIOS-KIYEOKbSIOS-TIKEUT
bSIOS-RIEULbSIOS-PIEUPbPANSIOSbIEUNG-KIYEOK:11ECbYESIEUNG-KIYEOKbIEUNG-SSANGKIYEOK
:11EDbYESIEUNG-SSANGKIYEOKbSSANGIEUNG:11EEbSSANGYESIEUNGbIEUNG-KHIEUKH:11EFbYESIEUNG-KHIEUKH
bYESIEUNGbYESIEUNG-SIOSbYESIEUNG-PANSIOSbPHIEUPH-PIEUPbKAPYEOUNPHIEUPHbHIEUH-NIEUNbHIEUH-RIEUL
bHIEUH-MIEUMbHIEUH-PIEUPbYEORINHIEUHbKIYEOK-NIEUNbKIYEOK-PIEUPbKIYEOK-CHIEUCHbKIYEOK-KHIEUKH
bKIYEOK-HIEUHbSSANGNIEUN:302EaSINGLE DOT TONE MARKaDOUBLE DOT TONE MARK:3131aLETTER KIYEOK
bSSANGKIYEOKbKIYEOK-SIOSbNIEUNbNIEUN-CIEUCbNIEUN-HIEUHbTIKEUTbSSANGTIKEUTbRIEULbRIEUL-KIYEOK
bRIEUL-MIEUMbRIEUL-PIEUPbRIEUL-SIOSbRIEUL-THIEUTHbRIEUL-PHIEUPHbRIEUL-HIEUHbMIEUMbPIEUPbSSANGPIEUP
bPIEUP-SIOSbSIOSbSSANGSIOSbIEUNGbCIEUCbSSANGCIEUCbCHIEUCHbKHIEUKHbTHIEUTHbPHIEUPHbHIEUHbAbAEbYA
bYAEbEObEbYEObYEbObWAbWAEbOEbYObUbWEObWEbWIbYUbEUbYIbIaFILLERaLETTER SSANGNIEUNbNIEUN-TIKEUT
bNIEUN-SIOSbNIEUN-PANSIOSbRIEUL-KIYEOK-SIOSbRIEUL-TIKEUTbRIEUL-PIEUP-SIOSbRIEUL-PANSIOS
bRIEUL-YEORINHIEUHbMIEUM-PIEUPbMIEUM-SIOSbMIEUM-PANSIOSbKAPYEOUNMIEUMbPIEUP-KIYEOKbPIEUP-TIKEUT
bPIEUP-SIOS-KIYEOKbPIEUP-SIOS-TIKEUTbPIEUP-CIEUCbPIEUP-THIEUTHbKAPYEOUNPIEUPbKAPYEOUNSSANGPIEUP
bSIOS-KIYEOKbSIOS-NIEUNbSIOS-TIKEUTbSIOS-PIEUPbSIOS-CIEUCbPANSIOSbSSANGIEUNGbYESIEUNG
bYESIEUNG-SIOSbYESIEUNG-PANSIOSbKAPYEOUNPHIEUPHbSSANGHIEUHbYEORINHIEUHbYO-YAbYO-YAEbYO-IbYU-YEO
bYU-YEbYU-IbARAEAbARAEAE:A960aCHOSEONG TIKEUT-MIEUMbTIKEUT-PIEUPbTIKEUT-SIOSbTIKEUT-CIEUC
bRIEUL-KIYEOKbRIEUL-SSANGKIYEOKbRIEUL-TIKEUTbRIEUL-SSANGTIKEUTbRIEUL-MIEUMbRIEUL-PIEUP
bRIEUL-SSANGPIEUPbRIEUL-KAPYEOUNPIEUPbRIEUL-SIOSbRIEUL-CIEUCbRIEUL-KHIEUKHbMIEUM-KIYEOK
bMIEUM-TIKEUTbMIEUM-SIOSbPIEUP-SIOS-THIEUTHbPIEUP-KHIEUKHbPIEUP-HIEUHbSSANGSIOS-PIEUPbIEUNG-RIEUL
bIEUNG-HIEUHbSSANGCIEUC-HIEUHbSSANGTHIEUTHbPHIEUPH-HIEUHbHIEUH-SIOSbSSANGYEORINHIEUH
:D7B0aJUNGSEONG O-YEObO-O-IbYO-AbYO-AEbYO-EObU-YEObU-I-IbYU-AEbYU-ObEU-AbEU-EObEU-EbEU-ObI-YA-O
bI-YAEbI-YEObI-YEbI-O-IbI-YObI-YUbI-IbARAEA-AbARAEA-E:D7CBaJONGSEONG NIEUN-RIEULbNIEUN-CHIEUCH
bSSANGTIKEUTbSSANGTIKEUT-PIEUPbTIKEUT-PIEUPbTIKEUT-SIOSbTIKEUT-SIOS-KIYEOKbTIKEUT-CIEUC
bTIKEUT-CHIEUCHbTIKEUT-THIEUTHbRIEUL-SSANGKIYEOKbRIEUL-KIYEOK-HIEUHbSSANGRIEUL-KHIEUKH
bRIEUL-MIEUM-HIEUHbRIEUL-PIEUP-TIKEUTbRIEUL-PIEUP-PHIEUPHbRIEUL-YESIEUNGbRIEUL-YEORINHIEUH-HIEUH
bKAPYEOUNRIEULbMIEUM-NIEUNbMIEUM-SSANGNIEUNbSSANGMIEUMbMIEUM-PIEUP-SIOSbMIEUM-CIEUCbPIEUP-TIKEUT
bPIEUP-RIEUL-PHIEUPHbPIEUP-MIEUMbSSANGPIEUPbPIEUP-SIOS-TIKEUTbPIEUP-CIEUCbPIEUP-CHIEUCHbSIOS-MIEUM
bSIOS-KAPYEOUNPIEUPbSSANGSIOS-KIYEOKbSSANGSIOS-TIKEUTbSIOS-PANSIOSbSIOS-CIEUCbSIOS-CHIEUCH
bSIOS-THIEUTHbSIOS-HIEUHbPANSIOS-PIEUPbPANSIOS-KAPYEOUNPIEUPbYESIEUNG-MIEUMbYESIEUNG-HIEUH
bCIEUC-PIEUPbCIEUC-SSANGPIEUPbSSANGCIEUCbPHIEUPH-SIOSbPHIEUPH-THIEUTH=eZHOU:3021aNUMERAL ONEbTWO
bTHREEbFOURbFIVEbSIXbSEVENbEIGHTbNINE:3038bTENbTWENTYbTHIRTY=dIFI:10D00aROHINGYA LETTER AcBAcPAcTA
cTTAcJAcCAcHAcKHAcFAcDAcDDAcRAcRRAcZAcSAcSHAcKAcGAcLAcMAcNAcWAcKINNA WAcYAcKINNA YAcNGAcNYAcVA
bVOWEL AcIcUcEcObMARK SAKINcNA KHONNAbSIGN HARBAHAYcTAHALAcTANAcTASSI:10D30bDIGIT ZEROcONEcTWO
cTHREEcFOURcFIVEcSIXcSEVENcEIGHTcNINE=dUNOO:1720aLETTER AbIbUbKAbGAbNGAbTAbDAbNAbPAbBAbMAbYAbRAbLA
bWAbSAbHAaVOWEL SIGN IcUaSIGN PAMUDPOD=cPPY:1F64BaPERSON RAISING ONE HAND=cRD:1F5B4aDISK
=cTCHING:1F423aCHICK=dRAN:108E0aLETTER ALEPHbBETHbGIMELbDALETH-RESHbHEbWAWbZAYNbHETHbTETHbYODH
bKAPHbLAMEDHbMEMbNUNbSAMEKHbAYNbPEbSADHEbQOPH:108F4bSHINbTAW:108FBaNUMBER ONEbFIVEbTENbTWENTY
bONE HUNDRED=bEADPHONE:1F3A7a=eSTONE:26FCaGRAVEYARD SYMBOL:1FAA6a=dR-NO-EVIL:1F649aMONKEY
=eT:1F394aWITH TIP ON THE LEFT:1F498bARROW:1F49DbRIBBON:1F49FaDECORATION:1FAF6aHANDS
=dVY:26DBaWHITE DOWN-POINTING TRIANGLE:26E3aCIRCLE WITH STROKE AND TWO DOTS ABOVE:2714aCHECK MARK
:2716aMULTIPLICATION X:2718aBALLOT X:271AaGREEK CROSS:271CaOPEN CENTRE CROSS
:2724aFOUR BALLOON-SPOKED ASTERISK:272EaOUTLINED BLACK STAR:2731aASTERISK
:2738aEIGHT POINTED RECTILINEAR BLACK STAR:273DaTEARDROP-SPOKED ASTERISK:2743bPINWHEEL ASTERISK
:2746aCHEVRON SNOWFLAKE:2748aSPARKLE:274BaEIGHT TEARDROP-SPOKED PROPELLER ASTERISK
:2757aEXCLAMATION MARK SYMBOL:275AaVERTICAL BARaSINGLE TURNED COMMA QUOTATION MARK ORNAMENT
bCOMMA QUOTATION MARK ORNAMENTaDOUBLE TURNED COMMA QUOTATION MARK ORNAMENT
bCOMMA QUOTATION MARK ORNAMENTaLOW SINGLE COMMA QUOTATION MARK ORNAMENT
bDOUBLE COMMA QUOTATION MARK ORNAMENT:2762aEXCLAMATION MARK ORNAMENT
aHEART EXCLAMATION MARK ORNAMENTaBLACK HEART:276EaLEFT-POINTING ANGLE QUOTATION MARK ORNAMENT
aRIGHT-POINTING ANGLE QUOTATION MARK ORNAMENTaLEFT-POINTING ANGLE BRACKET ORNAMENT
aRIGHT-POINTING ANGLE BRACKET ORNAMENT:2794aWIDE-HEADED RIGHTWARDS ARROWaPLUS SIGNaMINUS SIGN
aDIVISION SIGNaSOUTH EAST ARROWaRIGHTWARDS ARROWaNORTH EAST ARROW
:279CaROUND-TIPPED RIGHTWARDS ARROW:279EaTRIANGLE-HEADED RIGHTWARDS ARROW
:27A0aDASHED TRIANGLE-HEADED RIGHTWARDS ARROW:27A5aBLACK CURVED DOWNWARDS AND RIGHTWARDS ARROW
cUPWARDS AND RIGHTWARDS ARROW:27A8aCONCAVE-POINTED BLACK RIGHTWARDS ARROW
:27ADaLOWER RIGHT-SHADOWED WHITE RIGHTWARDS ARROWaUPPER RIGHT-SHADOWED WHITE RIGHTWARDS ARROW
:27B7aBLACK-FEATHERED SOUTH EAST ARROWbRIGHTWARDS ARROWbNORTH EAST ARROW
:27BBaTEARDROP-SHANKED RIGHTWARDS ARROW:27BDaWEDGE-TAILED RIGHTWARDS ARROW:2B55aLARGE CIRCLE
aOVAL WITH OVAL INSIDEaCIRCLE WITH CIRCLE INSIDEbaCIRCLED SALTIRE:1F4B2aDOLLAR SIGN
:1F547aLATIN CROSS:1F65CaNORTH WEST POINTING VINE LEAFaSOUTH WEST POINTING VINE LEAF
aNORTH EAST POINTING VINE LEAFaSOUTH EAST POINTING VINE LEAF:1F664aNORTH WEST POINTING BUD
aSOUTH WEST POINTING BUDaNORTH EAST POINTING BUDaSOUTH EAST POINTING BUD
:1F671aSCRIPT LIGATURE ET ORNAMENT:1F673aLIGATURE OPEN ET ORNAMENTaAMPERSAND ORNAMENT
:1F679aINTERROBANG ORNAMENT:1F67BaSANS-SERIF INTERROBANG ORNAMENT:1F787aWHITE CIRCLE:1F791bSQUARE
:1F7ACaSALTIRE:1F7B2aFIVE SPOKED ASTERISK:1F7B8aSIX SPOKED ASTERISK:1F7BEaEIGHT SPOKED ASTERISK
:1F7CAaFIVE POINTED BLACK STAR:1F7CCaSIX POINTED BLACK STAR:1F7CFaEIGHT POINTED BLACK STAR
:1F7D1cPINWHEEL STAR:1F7D3aTWELVE POINTED BLACK STARcPINWHEEL STAR:1F7F0aEQUALS SIGN
:1F818aLEFTWARDS ARROW WITH EQUILATERAL ARROWHEADaUPWARDS ARROW WITH EQUILATERAL ARROWHEAD
aRIGHTWARDS ARROW WITH EQUILATERAL ARROWHEADaDOWNWARDS ARROW WITH EQUILATERAL ARROWHEAD
aLEFTWARDS ARROW WITH LARGE EQUILATERAL ARROWHEADaUPWARDS ARROW WITH LARGE EQUILATERAL ARROWHEAD
aRIGHTWARDS ARROW WITH LARGE EQUILATERAL ARROWHEAD
aDOWNWARDS ARROW WITH LARGE EQUILATERAL ARROWHEAD:1F89CaARROW SHAFT WIDTH ONEdTWO THIRDSdONE HALF
eTHIRD:1FB97aHORIZONTAL FILL=cBREW:591aACCENT ETNAHTAbSEGOLbSHALSHELETbZAQEF QATANcGADOLbTIPEHA
bREVIAbZARQAbPASHTAbYETIVbTEVIRbGERESHcMUQDAMbGERSHAYIMbQARNEY PARAbTELISHA GEDOLAbPAZER
bATNAH HAFUKHbMUNAHbMAHAPAKHbMERKHAcKEFULAbDARGAbQADMAbTELISHA QETANAbYERAH BEN YOMObOLEbILUYbDEHI
bZINORaMARK MASORA CIRCLEaPOINT SHEVAbHATAF SEGOLcPATAHcQAMATSbHIRIQbTSEREbSEGOLbPATAHbQAMATS
bHOLAMcHASER FOR VAVbQUBUTSbDAGESH OR MAPIQbMETEGaPUNCTUATION MAQAFaPOINT RAFEaPUNCTUATION PASEQ
aPOINT SHIN DOTbSIN DOTaPUNCTUATION SOF PASUQaMARK UPPER DOTbLOWER DOTaPUNCTUATION NUN HAFUKHA
aPOINT QAMATS QATAN:5D0aLETTER ALEFbBETbGIMELbDALETbHEbVAVbZAYINbHETbTETbYODbFINAL KAFbKAFbLAMED
bFINAL MEMbMEMbFINAL NUNbNUNbSAMEKHbAYINbFINAL PEbPEbFINAL TSADIbTSADIbQOFbRESHbSHINbTAV
:5EFaYOD TRIANGLEaLIGATURE YIDDISH DOUBLE VAVcVAV YODcDOUBLE YODaPUNCTUATION GERESHbGERSHAYIM
:FB1DaLETTER YOD WITH HIRIQaPOINT JUDEO-SPANISH VARIKAaLIGATURE YIDDISH YOD YOD PATAH
aLETTER ALTERNATIVE AYINbWIDE ALEFcDALETcHEcKAFcLAMEDcFINAL MEMcRESHcTAVbALTERNATIVE PLUS SIGN
bSHIN WITH SHIN DOTdSIN DOTdDAGESH AND SHIN DOTfSIN DOTbALEF WITH PATAHdQAMATSdMAPIQ
bBET WITH DAGESHbGIMEL WITH DAGESHbDALET WITH DAGESHbHE WITH MAPIQbVAV WITH DAGESH
bZAYIN WITH DAGESH:FB38bTET WITH DAGESHbYOD WITH DAGESHbFINAL KAF WITH DAGESHbKAF WITH DAGESH
bLAMED WITH DAGESH:FB3EbMEM WITH DAGESH:FB40bNUN WITH DAGESHbSAMEKH WITH DAGESH
:FB43bFINAL PE WITH DAGESHbPE WITH DAGESH:FB46bTSADI WITH DAGESHbQOF WITH DAGESHbRESH WITH DAGESH
bSHIN WITH DAGESHbTAV WITH DAGESHbVAV WITH HOLAMbBET WITH RAFEbKAF WITH RAFEbPE WITH RAFE
aLIGATURE ALEF LAMED=cDGEHOG:1F994a=cLICOPTER:1F681a=dLSCHREIBER:2BFFaPAUSE SYMBOL=dM:2388aSYMBOL
=eET:26D1aWITH WHITE CROSS=cNTAIGANA:1B001aLETTER E-1bA-1bA-2bA-3bA-WObI-1bI-2bI-3bI-4bU-1bU-2bU-3
bU-4bU-5bE-2bE-3bE-4bE-5bE-6bO-1bO-2bO-3bKA-1bKA-2bKA-3bKA-4bKA-5bKA-6bKA-7bKA-8bKA-9bKA-10bKA-11
bKA-KEbKI-1bKI-2bKI-3bKI-4bKI-5bKI-6bKI-7bKI-8bKU-1bKU-2bKU-3bKU-4bKU-5bKU-6bKU-7bKE-1bKE-2bKE-3
bKE-4bKE-5bKE-6bKO-1bKO-2bKO-3bKO-KIbSA-1bSA-2bSA-3bSA-4bSA-5bSA-6bSA-7bSA-8bSI-1bSI-2bSI-3bSI-4
bSI-5bSI-6bSU-1bSU-2bSU-3bSU-4bSU-5bSU-6bSU-7bSU-8bSE-1bSE-2bSE-3bSE-4bSE-5bSO-1bSO-2bSO-3bSO-4
bSO-5bSO-6bSO-7bTA-1bTA-2bTA-3bTA-4bTI-1bTI-2bTI-3bTI-4bTI-5bTI-6bTI-7bTU-1bTU-2bTU-3bTU-4bTU-TO
bTE-1bTE-2bTE-3bTE-4bTE-5bTE-6bTE-7bTE-8bTE-9bTO-1bTO-2bTO-3bTO-4bTO-5bTO-6bTO-RAbNA-1bNA-2bNA-3
bNA-4bNA-5bNA-6bNA-7bNA-8bNA-9bNI-1bNI-2bNI-3bNI-4bNI-5bNI-6bNI-7bNI-TEbNU-1bNU-2bNU-3bNE-1bNE-2
bNE-3bNE-4bNE-5bNE-6bNE-KObNO-1bNO-2bNO-3bNO-4bNO-5bHA-1bHA-2bHA-3bHA-4bHA-5bHA-6bHA-7bHA-8bHA-9
bHA-10bHA-11bHI-1bHI-2bHI-3bHI-4bHI-5bHI-6bHI-7bHU-1bHU-2bHU-3bHE-1bHE-2bHE-3bHE-4bHE-5bHE-6bHE-7
bHO-1bHO-2bHO-3bHO-4bHO-5bHO-6bHO-7bHO-8bMA-1bMA-2bMA-3bMA-4bMA-5bMA-6bMA-7bMI-1bMI-2bMI-3bMI-4
bMI-5bMI-6bMI-7bMU-1bMU-2bMU-3bMU-4bME-1bME-2bME-MAbMO-1bMO-2bMO-3bMO-4bMO-5bMO-6bYA-1bYA-2bYA-3
bYA-4bYA-5bYA-YObYU-1bYU-2bYU-3bYU-4bYO-1bYO-2bYO-3bYO-4bYO-5bYO-6bRA-1bRA-2bRA-3bRA-4bRI-1bRI-2
bRI-3bRI-4bRI-5bRI-6bRI-7bRU-1bRU-2bRU-3bRU-4bRU-5bRU-6bRE-1bRE-2bRE-3bRE-4bRO-1bRO-2bRO-3bRO-4
bRO-5bRO-6bWA-1bWA-2bWA-3bWA-4bWA-5bWI-1bWI-2bWI-3bWI-4bWI-5bWE-1bWE-2bWE-3bWE-4bWO-1bWO-2bWO-3
bWO-4bWO-5bWO-6bWO-7bN-MU-MO-1bN-MU-MO-2=cRB:1F33Fa=dMITIAN:22B9aCONJUGATE MATRIX
=cXAGRAM:4DC0aFOR THE CREATIVE HEAVENcRECEPTIVE EARTHbDIFFICULTY AT THE BEGINNINGbYOUTHFUL FOLLY
bWAITINGbCONFLICTbTHE ARMYbHOLDING TOGETHERbSMALL TAMINGbTREADINGbPEACEbSTANDSTILLbFELLOWSHIP
bGREAT POSSESSIONbMODESTYbENTHUSIASMbFOLLOWINGbWORK ON THE DECAYEDbAPPROACHbCONTEMPLATION
bBITING THROUGHbGRACEbSPLITTING APARTbRETURNbINNOCENCEbGREAT TAMINGbMOUTH CORNERS
bGREAT PREPONDERANCEbTHE ABYSMAL WATERcCLINGING FIREbINFLUENCEbDURATIONbRETREATbGREAT POWER
bPROGRESSbDARKENING OF THE LIGHTbTHE FAMILYbOPPOSITIONbOBSTRUCTIONbDELIVERANCEbDECREASEbINCREASE
bBREAKTHROUGHbCOMING TO MEETbGATHERING TOGETHERbPUSHING UPWARDbOPPRESSIONbTHE WELLbREVOLUTION
bTHE CAULDRONcAROUSING THUNDERcKEEPING STILL MOUNTAINbDEVELOPMENTbTHE MARRYING MAIDENbABUNDANCE
bTHE WANDERERcGENTLE WINDcJOYOUS LAKEbDISPERSIONbLIMITATIONbINNER TRUTHbSMALL PREPONDERANCE
bAFTER COMPLETIONbBEFORE COMPLETION=bIBISCUS:1F33Aa=cGH:81aOCTET PRESET:26A1aVOLTAGE SIGN
:1F506aBRIGHTNESS SYMBOL=e-HEELED:1F460aSHOE=fSPEED:1F684aTRAINbWITH BULLET NOSE=cKING:1F97EaBOOT
=cNDU:1F6D5aTEMPLE=cPPOPOTAMUS:1F99Ba=cRAGANA:3041aLETTER SMALL AbAbSMALL IbIbSMALL UbUbSMALL EbE
bSMALL ObObKAbGAbKIbGIbKUbGUbKEbGEbKObGObSAbZAbSIbZIbSUbZUbSEbZEbSObZObTAbDAbTIbDIbSMALL TUbTUbDU
bTEbDEbTObDObNAbNIbNUbNEbNObHAbBAbPAbHIbBIbPIbHUbBUbPUbHEbBEbPEbHObBObPObMAbMIbMUbMEbMObSMALL YA
bYAbSMALL YUbYUbSMALL YObYObRAbRIbRUbREbRObSMALL WAbWAbWIbWEbWObNbVUbSMALL KAcKE
:309DaITERATION MARKaVOICED ITERATION MARKaDIGRAPH YORI:1B001aLETTER ARCHAIC YE:1B11FcWU
:1B150bSMALL WIcWEcWO=cSTORIC:26ECaSITE=bOCHO:1F52Aa=cLE:1F573a=dLOW:1F668aQUILT SQUARE ORNAMENT
dIN BLACK SQUARE=cMOTHETIC:223Ba=cNEY:1F36FaPOT=fBEE:1F41Da=cOK:1FA9Da=cP:81a
=cRIZONTAL:9aTABULATION:88bSETbWITH JUSTIFICATION:2015aBAR:2026aELLIPSIS:23AFaLINE EXTENSION
:23BAaSCAN LINE-1bLINE-3bLINE-7bLINE-9:26A9aMALE WITH STROKE SIGN:2B23aBLACK HEXAGON:2B7EaTAB KEY
:2BC3aBLACK OCTAGON:1F6A5aTRAFFIC LIGHT:1FB76aONE EIGHTH BLOCK-2cBLOCK-3cBLOCK-4cBLOCK-5cBLOCK-6
cBLOCK-7:1FB81cBLOCK-1358=dSE:1F3C7aRACING:1F40Ea:1F434aFACE=cSPITAL:1F3E5a=cT:2615aBEVERAGE
:2668aSPRINGS:1F32DaDOG:1F336aPEPPER=dEL:1F3E8a=cURGLASS:231Ba:23F3aWITH FLOWING SAND=dSE:2302a
:1F3D8aBUILDINGS:1F3E0aBUILDINGaWITH GARDEN=bRYVNIA:20B4aSIGN=bT:9a=cJ:89a=cS:88a
=bUGGING:1F917aFACE=cNDRED:1F4AFaPOINTS SYMBOL=cSHED:1F62FaFACE=cT:1F6D6a=bYGIEA:2BDAa=cPHEN:2010a
:2043aBULLET:2E1AaWITH DIAERESIS=g-MINUS:2Da=gATION:2027aPOINT=dODIASTOLE:2E12a
=cSTERESIS:238EaSYMBOL=aI:1F91FaLOVE YOU HAND SIGN=bCE:26F8aSKATE:1F368aCREAM
:1F3D2aHOCKEY STICK AND PUCK:1F9CAaCUBE=bDENTICAL:2261aTO:29E5bAND SLANTED PARALLEL
:2A67aWITH DOT ABOVE=gFICATION:1FAAAaCARD=dOGRAPHIC:2FF0aDESCRIPTION CHARACTER LEFT TO RIGHT
cABOVE TO BELOWcLEFT TO MIDDLE AND RIGHTcABOVE TO MIDDLE AND BELOWcFULL SURROUND
cSURROUND FROM ABOVEeBELOWeLEFTeUPPER LEFTfRIGHTeLOWER LEFTcOVERLAID:3000aSPACEaCOMMAaFULL STOP
:3005aITERATION MARKaCLOSING MARKaNUMBER ZERO:302AaLEVEL TONE MARKaRISING TONE MARK
aDEPARTING TONE MARKaENTERING TONE MARK:3037aTELEGRAPH LINE FEED SEPARATOR SYMBOL
:303EaVARIATION INDICATORaHALF FILL SPACE:3190aANNOTATION LINKING MARKbREVERSE MARKbONE MARK
bTWO MARKbTHREE MARKbFOUR MARKbTOP MARKbMIDDLE MARKbBOTTOM MARKbFIRST MARKbSECOND MARKbTHIRD MARK
bFOURTH MARKbHEAVEN MARKbEARTH MARKbMAN MARK:32C0aTELEGRAPH SYMBOL FOR JANUARYdFEBRUARYdMARCH
dAPRILdMAYdJUNEdJULYdAUGUSTdSEPTEMBERdOCTOBERdNOVEMBERdDECEMBER:3358dHOUR ZEROeONEeTWOeTHREEeFOUR
eFIVEeSIXeSEVENeEIGHTeNINEeTENeELEVENeTWELVEeTHIRTEENeFOURTEENeFIFTEENeSIXTEENeSEVENTEENeEIGHTEEN
eNINETEENeTWENTYeTWENTY-ONEeTWENTY-TWOeTWENTY-THREEeTWENTY-FOUR:33E0dDAY ONEeTWOeTHREEeFOUReFIVE
eSIXeSEVENeEIGHTeNINEeTENeELEVENeTWELVEeTHIRTEENeFOURTEENeFIFTEENeSIXTEENeSEVENTEENeEIGHTEEN
eNINETEENeTWENTYeTWENTY-ONEeTWENTY-TWOeTWENTY-THREEeTWENTY-FOUReTWENTY-FIVEeTWENTY-SIX
eTWENTY-SEVENeTWENTY-EIGHTeTWENTY-NINEeTHIRTYeTHIRTY-ONE:1D372aTALLY MARK ONEcTWOcTHREEcFOURcFIVE
=bMAGE:2253aOF OR APPROXIMATELY EQUAL TO:22B7b=cP:1F47Fa=dERIAL:10840aARAMAIC LETTER ALEPHcBETH
cGIMELcDALETHcHEcWAWcZAYINcHETHcTETHcYODHcKAPHcLAMEDHcMEMcNUNcSAMEKHcAYINcPEcSADHEcQOPHcRESHcSHIN
cTAW:10857bSECTION SIGNbNUMBER ONEcTWOcTHREEcTENcTWENTYcONE HUNDREDdTHOUSANDcTEN THOUSAND
=bNBOX:1F4E5aTRAY=cCOMING:1F4E8aENVELOPE=fPLETE:29DCaINFINITY=dREASE:1F5DAaFONT SIZE SYMBOL
=iS:29E1aAS=fMENT:2206a=cD:84a=dEX:84a:1FAF5aPOINTING AT THE VIEWER=dIAN:20B9aRUPEE SIGN
=eC:1EC71aSIYAQ NUMBER ONEcTWOcTHREEcFOURcFIVEcSIXcSEVENcEIGHTcNINEcTENcTWENTYcTHIRTYcFORTYcFIFTY
cSIXTYcSEVENTYcEIGHTYcNINETYcONE HUNDREDcTWO HUNDREDcTHREE HUNDREDcFOUR HUNDREDcFIVE HUNDRED
cSIX HUNDREDcSEVEN HUNDREDcEIGHT HUNDREDcNINE HUNDREDcONE THOUSANDcTWO THOUSANDcTHREE THOUSAND
cFOUR THOUSANDcFIVE THOUSANDcSIX THOUSANDcSEVEN THOUSANDcEIGHT THOUSANDcNINE THOUSANDcTEN THOUSAND
cTWENTY THOUSANDcTHIRTY THOUSANDcFORTY THOUSANDcFIFTY THOUSANDcSIXTY THOUSANDcSEVENTY THOUSAND
cEIGHTY THOUSANDcNINETY THOUSANDcLAKHcLAKHANbLAKH MARKbNUMBER KARORcKARORANcPREFIXED ONEdTWOdTHREE
dFOURdFIVEdSIXdSEVENdEIGHTdNINEbPLACEHOLDERbFRACTION ONE QUARTERdHALFcTHREE QUARTERSbRUPEE MARK
bNUMBER ALTERNATE ONEdTWOdTEN THOUSANDbALTERNATE LAKH MARK=cFINITY:221Ea
:29DEaNEGATED WITH VERTICAL BAR=dORMATION:1CaSEPARATOR FOURbTHREEbTWObONE:2139aSOURCE
:1F481aDESK PERSON=cHIBIT:206AaSYMMETRIC SWAPPING:206CaARABIC FORM SHAPING
=cPUT:1F520aSYMBOL FOR LATIN CAPITAL LETTERSdSMALL LETTERScNUMBERScSYMBOLScLATIN LETTERS
=cSCRIPTIONAL:10B40aPARTHIAN LETTER ALEPHcBETHcGIMELcDALETHcHEcWAWcZAYINcHETHcTETHcYODHcKAPH
cLAMEDHcMEMcNUNcSAMEKHcAYINcPEcSADHEcQOPHcRESHcSHINcTAW:10B58bNUMBER ONEcTWOcTHREEcFOURcTENcTWENTY
cONE HUNDREDdTHOUSANDaPAHLAVI LETTER ALEPHcBETHcGIMELcDALETHcHEcWAW-AYIN-RESHcZAYINcHETHcTETHcYODH
cKAPHcLAMEDHcMEM-QOPHcNUNcSAMEKHcPEcSADHEcSHINcTAW:10B78bNUMBER ONEcTWOcTHREEcFOURcTENcTWENTY
cONE HUNDREDdTHOUSAND=dERTION:2380aSYMBOL=cTEGRAL:222Ba:23AEaEXTENSION:2A0EaWITH DOUBLE STROKE
aAVERAGE WITH SLASH:2A15aAROUND A POINT OPERATOR:2A17aWITH LEFTWARDS ARROW WITH HOOKbTIMES SIGN
bINTERSECTIONbUNIONbOVERBARbUNDERBAR=eRCALATE:22BAa=fIOR:2A3CaPRODUCT
=fLINEAR:FFF9aANNOTATION ANCHORbSEPARATORbTERMINATOR=gOCKED:26A4aFEMALE AND MALE SIGN
=fROBANG:203Da=fSECTION:2229a:2A40aWITH DOT:2A43bOVERBARbLOGICAL AND:2A47aABOVE UNION
:2A49bBAR ABOVE UNION:2A4BaBESIDE AND JOINED WITH INTERSECTION=cVERSE:25D8aBULLETaWHITE CIRCLE
:1FB90aMEDIUM SHADE:1FB96aCHECKER BOARD FILL:1FBB1aCHECK MARK
:1FBB4aDOWNWARDS ARROW WITH TIP LEFTWARDS=fTED:A1aEXCLAMATION MARK:BFaQUESTION MARK:2054aUNDERTIE
:2127aOHM SIGN:223EaLAZY S:26E7aPENTAGRAM:2E18aINTERROBANG:2E45aLOW KAVYKAcWITH KAVYKA ABOVE
=dISIBLE:2062aTIMESaSEPARATORaPLUS=bZAKAYA:1F3EEaLANTERN=aJACK-O-LANTERN:1F383a
=cPANESE:26FBaBANK SYMBOL:3004aINDUSTRIAL STANDARD SYMBOL:1F38EaDOLLS:1F3E3aPOST OFFICE
:1F3EFaCASTLE:1F479aOGREaGOBLIN:1F530aSYMBOL FOR BEGINNER=cR:1FAD9a=cVANESE:A980aSIGN PANYANGGA
bCECAKbLAYARbWIGNYANaLETTER AbI KAWIcbIIbUbPA CEREKbNGA LELETdRASWADIbEbAIbObKAcSASAKcMURDAbGA
cMURDAbNGAbCAcMURDAbJAbNYA MURDAbJA MAHAPRANAbNYAbTTAcMAHAPRANAbDDAcMAHAPRANAbNA MURDAbTAcMURDAbDA
cMAHAPRANAbNAbPAcMURDAbBAcMURDAbMAbYAbRAcAGUNGbLAbWAbSA MURDAcMAHAPRANAcbHAaSIGN CECAK TELU
aVOWEL SIGN TARUNGcTOLONGcWULUdMELIKcSUKUdMENDUTcTALINGcDIRGA MUREcPEPETaCONSONANT SIGN KERET
cPENGKALcCAKRAaPANGKONaLEFT RERENGGANaRIGHT RERENGGANaPADA ANDAPbMADYAbLUHURbWINDUbPANGKATbLINGSA
bLUNGSIbADEGcADEGbPISELEHaTURNED PADA PISELEH:A9CFaPANGRANGKEPaDIGIT ZERObONEbTWObTHREEbFOURbFIVE
bSIXbSEVENbEIGHTbNINE:A9DEaPADA TIRTA TUMETESbISEN-ISEN=bEANS:1F456a=bIGSAW:1F9E9aPUZZLE PIECE
=bOIN:2A1Da=cYSTICK:1F579a=bUGGLING:1F939a=cNO:26B5a=cPITER:2643a=aKAABA:1F54Ba
=cITHI:11080aSIGN CANDRABINDUbANUSVARAbVISARGAaLETTER AbAAbIbIIbUbUUbEbAIbObAUbKAbKHAbGAbGHAbNGA
bCAbCHAbJAbJHAbNYAbTTAbTTHAbDDAbDDDHAbDDHAbRHAbNNAbTAbTHAbDAbDHAbNAbPAbPHAbBAbBHAbMAbYAbRAbLAbVA
bSHAbSSAbSAbHAaVOWEL SIGN AAcIcIIcUcUUcEcAIcOcAUaSIGN VIRAMAbNUKTAaABBREVIATION SIGN
aENUMERATION SIGNaNUMBER SIGNaSECTION MARKaDOUBLE SECTION MARKaDANDAaDOUBLE DANDA
aVOWEL SIGN VOCALIC R:110CDaNUMBER SIGN ABOVE=cNGAROO:1F998a=eXI:2F00aRADICAL ONEbLINEbDOTbSLASH
bSECONDbHOOKbTWObLIDbMANbLEGSbENTERbEIGHTbDOWN BOXbCOVERbICEbTABLEbOPEN BOXbKNIFEbPOWERbWRAPbSPOON
bRIGHT OPEN BOXbHIDING ENCLOSUREbTENbDIVINATIONbSEALbCLIFFbPRIVATEbAGAINbMOUTHbENCLOSUREbEARTH
bSCHOLARbGOcSLOWLYbEVENINGbBIGbWOMANbCHILDbROOFbINCHbSMALLbLAMEbCORPSEbSPROUTbMOUNTAINbRIVERbWORK
bONESELFbTURBANbDRYbSHORT THREADbDOTTED CLIFFbLONG STRIDEbTWO HANDSbSHOOTbBOWbSNOUTbBRISTLEbSTEP
bHEARTbHALBERDbDOORbHANDbBRANCHbRAPbSCRIPTbDIPPERbAXEbSQUAREbNOTbSUNbSAYbMOONbTREEbLACKbSTOPbDEATH
bWEAPONbDO NOTbCOMPAREbFURbCLANbSTEAMbWATERbFIREbCLAWbFATHERbDOUBLE XbHALF TREE TRUNKbSLICEbFANG
bCOWbDOGbPROFOUNDbJADEbMELONbTILEbSWEETbLIFEbUSEbFIELDbBOLT OF CLOTHbSICKNESSbDOTTED TENTbWHITE
bSKINbDISHbEYEbSPEARbARROWbSTONEbSPIRITbTRACKbGRAINbCAVEbSTANDbBAMBOObRICEbSILKbJARbNETbSHEEP
bFEATHERbOLDbANDbPLOWbEARbBRUSHbMEATbMINISTERbSELFbARRIVEbMORTARbTONGUEbOPPOSEbBOATbSTOPPINGbCOLOR
bGRASSbTIGERbINSECTbBLOODbWALK ENCLOSUREbCLOTHESbWESTbSEEbHORNbSPEECHbVALLEYbBEANbPIGbBADGERbSHELL
bREDbRUNbFOOTbBODYbCARTbBITTERbMORNINGbWALKbCITYbWINEbDISTINGUISHbVILLAGEbGOLDbLONGbGATEbMOUND
bSLAVEbSHORT TAILED BIRDbRAINbBLUEbWRONGbFACEbLEATHERbTANNED LEATHERbLEEKbSOUNDbLEAFbWINDbFLYbEAT
bHEADbFRAGRANTbHORSEbBONEbTALLbHAIRbFIGHTbSACRIFICIAL WINEbCAULDRONbGHOSTbFISHbBIRDbSALTbDEER
bWHEATbHEMPbYELLOWbMILLETbBLACKbEMBROIDERYbFROGbTRIPODbDRUMbRATbNOSEbEVENbTOOTHbDRAGONbTURTLE
bFLUTE=dNADA:C80aSIGN SPACING CANDRABINDUbCANDRABINDUbANUSVARAbVISARGAbSIDDHAMaLETTER AbAAbIbIIbU
bUUbVOCALIC RcL:C8EbEbEEbAI:C92bObOObAUbKAbKHAbGAbGHAbNGAbCAbCHAbJAbJHAbNYAbTTAbTTHAbDDAbDDHAbNNA
bTAbTHAbDAbDHAbNA:CAAbPAbPHAbBAbBHAbMAbYAbRAbRRAbLAbLLA:CB5bVAbSHAbSSAbSAbHA:CBCaSIGN NUKTA
bAVAGRAHAaVOWEL SIGN AAcIcIIcUcUUcVOCALIC RdRR:CC6cEcEEcAI:CCAcOcOOcAUaSIGN VIRAMA:CD5aLENGTH MARK
aAI LENGTH MARK:CDDaLETTER NAKAARA POLLUbFA:CDEbLLLA:CE0bVOCALIC RRcLLaVOWEL SIGN VOCALIC LdLL
:CE6aDIGIT ZERObONEbTWObTHREEbFOURbFIVEbSIXbSEVENbEIGHTbNINE:CF1aSIGN JIHVAMULIYAbUPADHMANIYA
=cTAKANA:30A1aLETTER SMALL AbAbSMALL IbIbSMALL UbUbSMALL EbEbSMALL ObObKAbGAbKIbGIbKUbGUbKEbGEbKO
bGObSAbZAbSIbZIbSUbZUbSEbZEbSObZObTAbDAbTIbDIbSMALL TUbTUbDUbTEbDEbTObDObNAbNIbNUbNEbNObHAbBAbPA
bHIbBIbPIbHUbBUbPUbHEbBEbPEbHObBObPObMAbMIbMUbMEbMObSMALL YAbYAbSMALL YUbYUbSMALL YObYObRAbRIbRU
bREbRObSMALL WAbWAbWIbWEbWObNbVUbSMALL KAcKEbVAbVIbVEbVOaMIDDLE DOT:30FDaITERATION MARK
aVOICED ITERATION MARKaDIGRAPH KOTO:31F0aLETTER SMALL KUcSIcSUcTOcNUcHAcHIcHUcHEcHOcMUcRAcRIcRUcRE
cRO:1AFF0bMINNAN TONE-2cTONE-3cTONE-4cTONE-5:1AFF5cTONE-7cTONE-8cNASALIZED TONE-1dTONE-2dTONE-3
dTONE-4dTONE-5:1AFFDdTONE-7dTONE-8:1B000bARCHAIC E:1B120cYIcYEcWU:1B164bSMALL WIcWEcWOcN
=i-HIRAGANA:309BaVOICED SOUND MARKaSEMI-VOICED SOUND MARK:30A0aDOUBLE HYPHEN
:30FCaPROLONGED SOUND MARK=cYAH:A900aLI DIGIT ZEROcONEcTWOcTHREEcFOURcFIVEcSIXcSEVENcEIGHTcNINE
bLETTER KAcKHAcGAcNGAcSAcSHAcZAcNYAcTAcHTAcNAcPAcPHAcMAcDAcBAcRAcYAcLAcWAcTHAcHAcVAcCAcAcOEcIcOO
bVOWEL UEcEcUcEEcObTONE PLOPHUcCALYAdPLOPHUbSIGN CWIcSHYA=bELVIN:212AaSIGN=cY:1F511a=dBOARD:2328a
:1F5A6aAND MOUSE=dCAP:1F51FaTEN=bHAROSHTHI:10A00aLETTER AaVOWEL SIGN IcUcVOCALIC R:10A05cEcO
:10A0CbLENGTH MARKaSIGN DOUBLE RING BELOWbANUSVARAbVISARGAaLETTER KAbKHAbGAbGHA:10A15bCAbCHAbJA
:10A19bNYAbTTAbTTHAbDDAbDDHAbNNAbTAbTHAbDAbDHAbNAbPAbPHAbBAbBHAbMAbYAbRAbLAbVAbSHAbSSAbSAbZAbHA
bKKAbTTTHAbTTTAbVHA:10A38aSIGN BAR ABOVEbCAUDAbDOT BELOW:10A3FaVIRAMAaDIGIT ONEbTWObTHREEbFOUR
aNUMBER TENbTWENTYbONE HUNDREDcTHOUSANDaFRACTION ONE HALF:10A50aPUNCTUATION DOTbSMALL CIRCLE
bCIRCLEbCRESCENT BARbMANGALAMbLOTUSbDANDAbDOUBLE DANDAbLINES=cITAN:16FE4aSMALL SCRIPT FILLER
=cMER:1780aLETTER KAbKHAbKObKHObNGObCAbCHAbCObCHObNYObDAbTTHAbDObTTHObNNObTAbTHAbTObTHObNObBAbPHA
bPObPHObMObYObRObLObVObSHAbSSObSAbHAbLAbQAaINDEPENDENT VOWEL QAQcQAAcQIcQIIcQUcQUKcQUUcQUUVcRYcRYY
cLYcLYYcQEcQAIcQOO TYPE ONEeTWOcQAUaVOWEL INHERENT AQcAAbSIGN AAcIcIIcYcYYcUcUUcUAcOEcYAcIEcEcAE
cAIcOOcAUaSIGN NIKAHITbREAHMUKbYUUKALEAPINTUbMUUSIKATOANbTRIISAPbBANTOCbROBATbTOANDAKHIATbKAKABAT
bAHSDAbSAMYOK SANNYAbVIRIAMbCOENGbBATHAMASATbKHANbBARIYOOSANbCAMNUC PII KUUHbLEK TOObBEYYAL
bPHNAEK MUANbKOOMUUTaCURRENCY SYMBOL RIELaSIGN AVAKRAHASANYAbATTHACAN:17E0aDIGIT ZERObONEbTWO
bTHREEbFOURbFIVEbSIXbSEVENbEIGHTbNINE:17F0aSYMBOL LEK ATTAK SONdMUOYdPIIdBEIdBUONdPRAMdPRAM-MUOY
dPRAM-PIIdPRAM-BEIdPRAM-BUON:19E0bPATHAMASATbMUOY KOETbPII KOETbBEI KOETbBUON KOETbPRAM KOET
bPRAM-MUOY KOETbPRAM-PII KOETbPRAM-BEI KOETbPRAM-BUON KOETbDAP KOETbDAP-MUOY KOETbDAP-PII KOET
bDAP-BEI KOETbDAP-BUON KOETbDAP-PRAM KOETbTUTEYASATbMUOY ROCbPII ROCbBEI ROCbBUON ROCbPRAM ROC
bPRAM-MUOY ROCbPRAM-PII ROCbPRAM-BEI ROCbPRAM-BUON ROCbDAP ROCbDAP-MUOY ROCbDAP-PII ROC
bDAP-BEI ROCbDAP-BUON ROCbDAP-PRAM ROC=cOJKI:11200aLETTER AbAAbIbUbEbAIbObAUbKAbKHAbGAbGGAbGHAbNGA
bCAbCHAbJAbJJA:11213bNYAbTTAbTTHAbDDAbDDHAbNNAbTAbTHAbDAbDDDAbDHAbNAbPAbPHAbBAbBBAbBHAbMAbYAbRAbLA
bVAbSAbHAbLLAaVOWEL SIGN AAcIcIIcUcEcAIcOcAUaSIGN ANUSVARAbVIRAMAbNUKTAbSHADDAaDANDAaDOUBLE DANDA
aWORD SEPARATORaSECTION MARKaDOUBLE SECTION MARKaABBREVIATION SIGNaSIGN SUKUN
=cUDAWADI:112B0aLETTER AbAAbIbIIbUbUUbEbAIbObAUbKAbKHAbGAbGGAbGHAbNGAbCAbCHAbJAbJJAbJHAbNYAbTTA
bTTHAbDDAbDDDAbRRAbDDHAbNNAbTAbTHAbDAbDHAbNAbPAbPHAbBAbBBAbBHAbMAbYAbRAbLAbVAbSHAbSAbHA
aSIGN ANUSVARAaVOWEL SIGN AAcIcIIcUcUUcEcAIcOcAUaSIGN NUKTAbVIRAMA:112F0aDIGIT ZERObONEbTWObTHREE
bFOURbFIVEbSIXbSEVENbEIGHTbNINE=bIMONO:1F458a=cP:20ADaSIGN=cSS:1F48BaMARK:1F48Fa=eING:1F617aFACE
:1F619bWITH SMILING EYEScCLOSED EYES:1F63DaCAT FACE WITH CLOSED EYES=cTE:1FA81a=cWIFRUIT:1F95Da
=bNEELING:1F9CEaPERSON=cOT:1FAA2a=bOALA:1F428a=cREAN:327FaSTANDARD SYMBOL=bRONOS:2BE3a"

end SignatureLint.CharName
