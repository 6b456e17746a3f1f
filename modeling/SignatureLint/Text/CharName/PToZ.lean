/-!
# Names of characters, P to Z

The names whose first word begins with one of the letters from `P` to `Z`, in the layout that the
reader of names describes.
-/

namespace SignatureLint.CharName

/-- The paragraphs of the first words from `P` to `Z`. -/
def textPToZ : String := "
=aPACKAGE:1F4E6a=cD:80a=dDING:80aCHARACTER=cGE:1F4C3aWITH CURLaFACING UP:1F5CFa
:1F5DFaWITH CIRCLED TEXT=eR:1F4DFa=eS:1F5D0a=dODA:1F6D4a=cHAWH:16B00aHMONG VOWEL KEEBcKEEVcKIBcKIV
cKAUBcKAUVcKUBcKUVcKEBcKEVcKAIBcKAIVcKOOBcKOOVcKAWBcKAWVcKUABcKUAVcKOBcKOVcKIABcKIAVcKABcKAVcKWB
cKWVcKAABcKAAVbCONSONANT VAUcNTSAUcLAUcHAUcNLAUcRAUcNKAUcQHAUcYAUcHLAUcMAUcCHAUcNCHAUcHNAUcPLHAU
cNTHAUcNAUcAUcXAUcCAUbMARK CIM TUBdSOdKESdKHAVdSUAMdHOMdTAUMbSIGN VOS THOMdTSHAB CEEBcCIM CHEEM
cVOS THIABdFEEMcXYEEM NTXIVdRHOdTOVdFAIBcVOS SEEVcMEEJ SUABcVOS NRUAcIB YAMcXAUScCIM TSOV ROG
:16B50bDIGIT ZEROcONEcTWOcTHREEcFOURcFIVEcSIXcSEVENcEIGHTcNINE:16B5BbNUMBER TENScHUNDREDS
cTEN THOUSANDScMILLIONScHUNDRED MILLIONScTEN BILLIONScTRILLIONS:16B63bSIGN VOS LUBcXYOOcHLI
cTHIRD-STAGE HLIcZWJ THAJcHNUBcNQIGcXIABcNTUJcAVcTXHEEJ CEEVcMEEJ TSEEBcTAUcLOScMUS
cCIM HAIS LUS NTOG NTOGdCUAM TSHOOJdTXWVeCHWVdPUB DAWBdNRES TOS:16B7DbCLAN SIGN TSHEEJdYEEGdLIS
dLAUJdXYOOJdKOOdHAWJdMUASdTHOJdTSABdPHABdKHABdHAMdVAJdFAJdYAJdTSWBdKWMdVWJ=cLLAS:26B4a
=dM:2E19aBRANCH:1F334aTREE:1FAF3aDOWN HANDaUP HAND=eS:1F932aUP TOGETHER=eYRENE:10860aLETTER ALEPH
bBETHbGIMELbDALETHbHEbWAWbZAYINbHETHbTETHbYODHbKAPHbLAMEDHbMEMbFINAL NUNbNUNbSAMEKHbAYINbPEbSADHE
bQOPHbRESHbSHINbTAWaLEFT-POINTING FLEURONaRIGHT-POINTING FLEURONaNUMBER ONEbTWObTHREEbFOURbFIVE
bTENbTWENTY=cNCAKES:1F95Ea=dDA:1F43CaFACE=cPERCLIP:1F4CEa=cRACHUTE:1FA82a=eGRAPH:2029aSEPARATOR
=jOS:2E0Fa=jUS:2E4DaMARK=eLLEL:2225aTO:2AF2aWITH HORIZONTAL STROKEbTILDE OPERATOR
=dENTHESIZED:2474aDIGIT ONEbTWObTHREEbFOURbFIVEbSIXbSEVENbEIGHTbNINEaNUMBER TENbELEVENbTWELVE
bTHIRTEENbFOURTEENbFIFTEENbSIXTEENbSEVENTEENbEIGHTEENbNINETEENbTWENTY:249CaLATIN SMALL LETTER AdB
dCdDdEdFdGdHdIdJdKdLdMdNdOdPdQdRdSdTdUdVdWdXdYdZ:3200aHANGUL KIYEOKbNIEUNbTIKEUTbRIEULbMIEUMbPIEUP
bSIOSbIEUNGbCIEUCbCHIEUCHbKHIEUKHbTHIEUTHbPHIEUPHbHIEUHbKIYEOK AbNIEUN AbTIKEUT AbRIEUL AbMIEUM A
bPIEUP AbSIOS AbIEUNG AbCIEUC AbCHIEUCH AbKHIEUKH AbTHIEUTH AbPHIEUPH AbHIEUH AbCIEUC U
aKOREAN CHARACTER OJEONcO HU:3220aIDEOGRAPH ONEbTWObTHREEbFOURbFIVEbSIXbSEVENbEIGHTbNINEbTENbMOON
bFIREbWATERbWOODbMETALbEARTHbSUNbSTOCKbHAVEbSOCIETYbNAMEbSPECIALbFINANCIALbCONGRATULATIONbLABOR
bREPRESENTbCALLbSTUDYbSUPERVISEbENTERPRISEbRESOURCEbALLIANCEbFESTIVALbRESTbSELFbREACH
:1F110aLATIN CAPITAL LETTER AdBdCdDdEdFdGdHdIdJdKdLdMdNdOdPdQdRdSdTdUdVdWdXdYdZ=dROT:1F99Ca
=dT:303DaALTERNATION MARK=eIAL:8BaLINE DOWN:8BbFORWARDbBACKWARD:8CbUP:2202aDIFFERENTIAL
=hLY-RECYCLED:267DaPAPER SYMBOL=eNERSHIP:3250aSIGN=eY:1F389aPOPPER=cSSED:2BFDaSYMBOL
=fNGER:1F6F3aSHIP=eIVE-PULL-DOWN-OUTPUT:2391aSYMBOL=nUP-OUTPUT:2392aSYMBOL=ePORT:1F6C2aCONTROL
=cU:11AC0aCIN HAU LETTER PAdKAdLAdMAdDAdZAdVAdNGAdHAdGAdKHAdSAdBAdCAdTAdTHAdNAdPHAdRAdFAdCHAdAdEdI
dOdUdUAdIAdFINAL PeKeTeMeNeLeWeNGeYcRISING TONE LONGecSANDHI GLOTTAL STOPcRISING TONE LONG FINAL
eFINALcSANDHI GLOTTAL STOP FINALdTONE LONGeeLONG FINALeFINALcMID-LEVEL TONEcGLOTTAL STOP VARIANT
cMID-LEVEL TONE LONG FINALeFINALcLOW-FALLING TONE LONGecGLOTTAL STOPcLOW-FALLING TONE LONG FINAL
eFINALcGLOTTAL STOP FINAL=cW:1F43EaPRINTS=bDF:202Ca=cI:2069a=bEACE:262EaSYMBOL=eH:1F351a
=eOCK:1F99Aa=dNUTS:1F95Ca=dR:1F350a=cDESTRIAN:1F6B6a=cN:1F586aOVER STAMPED ENVELOPE=dCIL:270Fa
=dGUIN:1F427a=dSIVE:1F614aFACE=dTAGRAM:26E4a=cOPLE:1FAC2aHUGGING=cR:2030aMILLE SIGN
aTEN THOUSAND SIGN:214CaSIGN=dCENT:25aSIGN=dFORMING:1F3ADaARTS=dMANENT:267EaPAPER SIGN
=dPENDICULAR:27C2a:2AE1aWITH S=dSEVERING:1F623aFACE=eON:26F9aWITH BALL:1F471bBLOND HAIR
:1F647aBOWING DEEPLY:1F64CaRAISING BOTH HANDS IN CELEBRATIONaFROWNINGaWITH POUTING FACE
bFOLDED HANDS:1F938aDOING CARTWHEEL:1F9D5aWITH HEADSCARFaIN STEAMY ROOMaCLIMBINGaIN LOTUS POSITION
:1FAC5aWITH CROWN=gAL:1F4BBaCOMPUTER=ePECTIVE:2306a=cSETA:20A7aSIGN=dO:20B1aSIGN=cTRI:1F9EBaDISH
=bHAGS-PA:A840aLETTER KAbKHAbGAbNGAbCAbCHAbJAbNYAbTAbTHAbDAbNAbPAbPHAbBAbMAbTSAbTSHAbDZAbWAbZHAbZA
bSMALL AbYAbRAbLAbSHAbSAbHAbAbIbUbEbObQAbXAbFAbGGAbEEaSUBJOINED LETTER WAcYAaLETTER TTAbTTHAbDDA
bNNAbALTERNATE YAbVOICELESS SHAbVOICED HAbASPIRATED FAaSUBJOINED LETTER RAaSUPERFIXED LETTER RA
aLETTER CANDRABINDUaSINGLE HEAD MARKaDOUBLE HEAD MARKaMARK SHADbDOUBLE SHAD
=dISTOS:101D0aDISC SIGN PEDESTRIANcPLUMED HEADcTATTOOED HEADcCAPTIVEcCHILDcWOMANcHELMETcGAUNTLET
cTIARAcARROWcBOWcSHIELDcCLUBcMANACLEScMATTOCKcSAWcLIDcBOOMERANGcCARPENTRY PLANEcDOLIUMcCOMBcSLING
cCOLUMNcBEEHIVEcSHIPcHORNcHIDEcBULLS LEGcCATcRAMcEAGLEcDOVEcTUNNYcBEEcPLANE TREEcVINEcPAPYRUS
cROSETTEcLILYcOX BACKcFLUTEcGRATERcSTRAINERcSMALL AXEcWAVY BANDcCOMBINING OBLIQUE STROKE
=cILIPPINE:1735aSINGLE PUNCTUATIONaDOUBLE PUNCTUATION=cOENICIAN:10900aLETTER ALFbBETbGAMLbDELTbHE
bWAUbZAIbHETbTETbYODbKAFbLAMDbMEMbNUNbSEMKbAINbPEbSADEbQOFbROSHbSHINbTAUaNUMBER ONEbTENbTWENTY
bONE HUNDREDbTWObTHREE:1091FaWORD SEPARATOR=dLUS:2BDBa=bICK:26CFa=eUP:1F6FBaTRUCK=cE:1F967a
=cG:1F416a:1F437aFACE:1F43DaNOSE=cLCROW:B6aSIGN=dE:1F4A9aOF POO=dL:1F48Aa=cNATA:1FA85a
=dCHED:1F90CaFINGERS=fING:1F90FaHAND=dE:1F38DaDECORATION=eAPPLE:1F34Da=dWHEEL:272FaSTAR
=cSCES:2653a=dTOL:1F52Ba=cTCHFORK:22D4a:2ADAaWITH TEE TOP=bLACARD:1FAA7a=eE:2318aOF INTEREST SIGN
:1F6D0bWORSHIP=dNCK:210EaCONSTANTbOVER TWO PI=dYGROUND:1F6DDaSLIDE=eING:1F0A0aCARD BACK
bACE OF SPADESbTWO OF SPADESbTHREE OF SPADESbFOUR OF SPADESbFIVE OF SPADESbSIX OF SPADES
bSEVEN OF SPADESbEIGHT OF SPADESbNINE OF SPADESbTEN OF SPADESbJACK OF SPADESbKNIGHT OF SPADES
bQUEEN OF SPADESbKING OF SPADES:1F0B1bACE OF HEARTSbTWO OF HEARTSbTHREE OF HEARTSbFOUR OF HEARTS
bFIVE OF HEARTSbSIX OF HEARTSbSEVEN OF HEARTSbEIGHT OF HEARTSbNINE OF HEARTSbTEN OF HEARTS
bJACK OF HEARTSbKNIGHT OF HEARTSbQUEEN OF HEARTSbKING OF HEARTSbRED JOKER:1F0C1bACE OF DIAMONDS
bTWO OF DIAMONDSbTHREE OF DIAMONDSbFOUR OF DIAMONDSbFIVE OF DIAMONDSbSIX OF DIAMONDS
bSEVEN OF DIAMONDSbEIGHT OF DIAMONDSbNINE OF DIAMONDSbTEN OF DIAMONDSbJACK OF DIAMONDS
bKNIGHT OF DIAMONDSbQUEEN OF DIAMONDSbKING OF DIAMONDSbBLACK JOKER:1F0D1bACE OF CLUBSbTWO OF CLUBS
bTHREE OF CLUBSbFOUR OF CLUBSbFIVE OF CLUBSbSIX OF CLUBSbSEVEN OF CLUBSbEIGHT OF CLUBS
bNINE OF CLUBSbTEN OF CLUBSbJACK OF CLUBSbKNIGHT OF CLUBSbQUEEN OF CLUBSbKING OF CLUBSbWHITE JOKER
bFOOLbTRUMP-1bTRUMP-2bTRUMP-3bTRUMP-4bTRUMP-5bTRUMP-6bTRUMP-7bTRUMP-8bTRUMP-9bTRUMP-10bTRUMP-11
bTRUMP-12bTRUMP-13bTRUMP-14bTRUMP-15bTRUMP-16bTRUMP-17bTRUMP-18bTRUMP-19bTRUMP-20bTRUMP-21=cD:8Ba
=cU:8Ca=dNGER:1FAA0a=dS:2BaSIGN:2A22bWITH SMALL CIRCLE ABOVEcCIRCUMFLEX ACCENT ABOVEcTILDE ABOVE
cDOT BELOWcTILDE BELOWcSUBSCRIPT TWOcBLACK TRIANGLE:2A2DbIN LEFT HALF CIRCLEcRIGHT HALF CIRCLE
:2A39cTRIANGLE:2A72bABOVE EQUALS SIGN=e-MINUS:B1aSIGN=dTO:2647a:2BD3aFORM TWObTHREEbFOURbFIVE
=bM:9Ea=bOCKET:1F5A9aCALCULATOR=cLICE:1F46EaOFFICER:1F693aCAR:1F6A8aCARS REVOLVING LIGHT
=cODLE:1F429a=cP:202CaDIRECTIONAL FORMATTING:2069bISOLATE=dCORN:1F37Fa=cRTABLE:1F4FEaSTEREO
=cSEIDON:2BE7a=dITION:2316aINDICATOR=dTAL:3012aMARK:3020bFACE:1F4EFaHORN=eBOX:1F4EEa
=cT:1F372aOF FOOD=dABLE:1F6B0aWATER SYMBOL=eTO:1F954a=dTED:1FAB4aPLANT=cUCH:1F45Da=dLTRY:1F357aLEG
=dND:A3aSIGN=dRING:1FAD7aLIQUID=dTING:1F621aFACE:1F63EaCAT FACE=cWER:23FBaSYMBOLaON-OFF SYMBOL
aON SYMBOLaSLEEP SYMBOL=bRAYER:1F4FFaBEADS=cECEDES:227Aa:227CaOR EQUAL TO:227EbEQUIVALENT TO
:22B0aUNDER RELATION:22E8aBUT NOT EQUIVALENT TO:2AAFaABOVE SINGLE-LINE EQUALS SIGN
:2AB1cNOT EQUAL TO:2AB3bEQUALS SIGN:2AB5bNOT EQUAL TO:2AB7bALMOST EQUAL TO
:2AB9bNOT ALMOST EQUAL TO=dGNANT:1F930aWOMAN:1FAC3aMANaPERSON=dSCRIPTION:211EaTAKE
=eENTATION:FE10aFORM FOR VERTICAL COMMAdIDEOGRAPHIC COMMAeFULL STOPdCOLONdSEMICOLON
dEXCLAMATION MARKdQUESTION MARKdLEFT WHITE LENTICULAR BRACKETdRIGHT WHITE LENTICULAR BRACKET
:FE18gBRAKCETdHORIZONTAL ELLIPSIS:FE30dTWO DOT LEADERdEM DASHdEN DASHdLOW LINEdWAVY LOW LINE
dLEFT PARENTHESISdRIGHT PARENTHESISdLEFT CURLY BRACKETdRIGHT CURLY BRACKET
dLEFT TORTOISE SHELL BRACKETdRIGHT TORTOISE SHELL BRACKETdLEFT BLACK LENTICULAR BRACKET
dRIGHT BLACK LENTICULAR BRACKETdLEFT DOUBLE ANGLE BRACKETdRIGHT DOUBLE ANGLE BRACKET
dLEFT ANGLE BRACKETdRIGHT ANGLE BRACKETdLEFT CORNER BRACKETdRIGHT CORNER BRACKET
dLEFT WHITE CORNER BRACKETdRIGHT WHITE CORNER BRACKET:FE47dLEFT SQUARE BRACKET
dRIGHT SQUARE BRACKET=dTZEL:1F968a=dVIOUS:2397aPAGE=cIME:2032a=dNCE:1F934a=gSS:1F478a
=eT:2399aSCREEN SYMBOL=fER:1F5A8a:1F5B6aICON=dVACY:9EaMESSAGE=fTE:91aUSE ONE:91aUSE-1aUSE TWO
:92aUSE-2=cOBING:1F9AFaCANE=dHIBITED:1F6C7aSIGN=dJECTIVE:2305a=dPERTY:214AaLINE=eORTION:2237a
=kAL:221DaTO=dSERPINA:2BD8a=bSALTER:10B80aPAHLAVI LETTER ALEPHcBETHcGIMELcDALETHcHEcWAW-AYIN-RESH
cZAYINcHETHcYODHcKAPHcLAMEDHcMEM-QOPHcNUNcSAMEKHcPEcSADHEcSHINcTAW:10B99bSECTION MARK
bTURNED SECTION MARKbFOUR DOTS WITH CROSSeDOT:10BA9bNUMBER ONEcTWOcTHREEcFOURcTENcTWENTY
cONE HUNDRED=bU1:91a=c2:92a=cBLIC:1F4E2aADDRESS LOUDSPEAKER=cNCTUATION:2008aSPACE
=gS:2E4EaELEVATUS MARK=cRPLE:1F49CaHEART=dSE:1F45Ba=cSHPIN:1F4CCa
=cT:1F6AEaLITTER IN ITS PLACE SYMBOL=aQUADRANT:2596aLOWER LEFTbRIGHTaUPPER LEFT
cAND LOWER LEFT AND LOWER RIGHTeRIGHTdUPPER RIGHT AND LOWER LEFThRIGHTbRIGHTcAND LOWER LEFT
fAND LOWER RIGHT=fUPLE:2057aPRIME:2A0CaINTEGRAL OPERATOR=dRTER:2669aNOTE
=dTERNION:2A16aINTEGRAL OPERATOR=cESTION:3FaMARK:2048aEXCLAMATION MARK=iED:225FaEQUAL TO
=cINCUNX:26BBa=cOTATION:22aMARK=aRABBIT:1F407a:1F430aFACE=cCCOON:1F99Da=dING:1F3CDaMOTORCYCLEaCAR
=cDICAL:23B7aSYMBOL BOTTOM=eO:1F4FBa:1F518aBUTTON=fACTIVE:2622aSIGN=cILWAY:1F683aCAR:1F6E4aTRACK
=dN:26C6a=eBOW:1F308a=dSED:270AaFISTaHAND:2E06aINTERPOLATION MARKERaDOTTED INTERPOLATION MARKER
:2E0BaSQUARE:2E33aDOTaCOMMA:1F16AaMC SIGNaMD SIGNaMR SIGN:1F590aHAND WITH FINGERS SPLAYED
:1F596cPART BETWEEN MIDDLE AND RING FINGERS:1F91AaBACK OF HAND=cM:1F40Fa=cT:1F400a=dIO:2236a
=cZOR:1FA92a=bECEIPT:1F9FEa=dORD:1EaSEPARATOR=dREATIONAL:1F699aVEHICLE=dYCLED:267CaPAPER SYMBOL
=gING:2673aSYMBOL FOR TYPE-1 PLASTICScTYPE-2 PLASTICScTYPE-3 PLASTICScTYPE-4 PLASTICS
cTYPE-5 PLASTICScTYPE-6 PLASTICScTYPE-7 PLASTICScGENERIC MATERIALS=cD:1F34EaAPPLE
:1F9E7aGIFT ENVELOPE=cFERENCE:203BaMARK=cGIONAL:1F1E6aINDICATOR SYMBOL LETTER AdBdCdDdEdFdGdHdIdJ
dKdLdMdNdOdPdQdRdSdTdUdVdWdXdYdZ=eSTERED:AEaSIGN=cJANG:A930aLETTER KAbGAbNGAbTAbDAbNAbPAbBAbMAbCA
bJAbNYAbSAbRAbLAbYAbWAbHAbMBAbNGGAbNDAbNYJAbAaVOWEL SIGN IcUcEcAIcOcAUcEUcEAaCONSONANT SIGN NGcNcR
cHaVIRAMA:A95FaSECTION MARK=cLIEVED:1F60CaFACE=cMINDER:1F397aRIBBON=cPLACEMENT:FFFDaCHARACTER
=cSPONSE:211Fa=dTRICTED:26E0aLEFT ENTRY-1bENTRY-2=fOOM:1F6BBa=cTURN:23CEaSYMBOL:2B90aLEFTaRIGHT
=cVERSE:5CaSOLIDUS:8DaINDEX:8DaLINE FEED:27C8aSOLIDUS PRECEDING SUBSET:29F5bOPERATOR
:29F7bWITH HORIZONTAL STROKE:2B41aTILDE OPERATOR ABOVE LEFTWARDS ARROW:2B47dRIGHTWARDS ARROW
:1F67FaCHECKER BOARD:1F7C8aLIGHT FOUR POINTED PINWHEEL STAR=hD:2035aPRIMEaDOUBLE PRIME
aTRIPLE PRIME:204BaPILCROW SIGN:204FaSEMICOLON:2143aSANS-SERIF CAPITAL L:223DaTILDE:22CDbEQUALS
:2310aNOT SIGN:2619aROTATED FLORAL HEART BULLET:29A3aANGLE:29A5bWITH UNDERBAR:29B0aEMPTY SET
:2AEDaDOUBLE STROKE NOT SIGN:2BFEaRIGHT ANGLE:2E11aFORKED PARAGRAPHOS:2E2EaQUESTION MARK
:2E41aCOMMA:301DaDOUBLE PRIME QUOTATION MARK:1F591aRAISED HAND WITH FINGERS SPLAYEDaTHUMBS UP SIGN
bDOWN SIGNaVICTORY HANDaHAND WITH MIDDLE FINGER EXTENDED=dOLVING:1F49EaHEARTS=bHINOCEROS:1F98Fa
=bI:8Da=cAL:FDFCaSIGN=cBBON:2BB0aARROW DOWN LEFTcRIGHTbUP LEFTcRIGHTbLEFT UPbRIGHT UPbLEFT DOWN
bRIGHT DOWN:1F380a=cCE:1F358aCRACKERaBALL=cFLE:1F946a=cGHT:29aPARENTHESIS:5DaSQUARE BRACKET
:7DaCURLY BRACKET:2019aSINGLE QUOTATION MARK:201DaDOUBLE QUOTATION MARK
:2046aSQUARE BRACKET WITH QUILL:21F4aARROW WITH SMALL CIRCLE:221FaANGLE:22A2aTACK
:22BEaANGLE WITH ARCaTRIANGLE:22CAaNORMAL FACTOR SEMIDIRECT PRODUCT:22CCaSEMIDIRECT PRODUCT
:2309aCEILING:230BaFLOOR:237CaANGLE WITH DOWNWARDS ZIGZAG ARROW:239EaPARENTHESIS UPPER HOOK
bEXTENSIONbLOWER HOOK:23A4aSQUARE BRACKET UPPER CORNERcEXTENSIONcLOWER CORNER
:23ABaCURLY BRACKET UPPER HOOKcMIDDLE PIECEcLOWER HOOK:23B9aVERTICAL BOX LINE:2590aHALF BLOCK
:2595aONE EIGHTH BLOCK:25D7aHALF BLACK CIRCLE:27C6aS-SHAPED BAG DELIMITER:27D6aOUTER JOIN
:27F4aARROW WITH CIRCLED PLUS:2970aDOUBLE ARROW WITH ROUNDED HEAD:297DaFISH TAIL
:2984aWHITE CURLY BRACKET:2986bPARENTHESIS:298CaSQUARE BRACKET WITH UNDERBAR
:298EdTICK IN BOTTOM CORNER:2990fTOP CORNER:2992aANGLE BRACKET WITH DOT
:2994aARC GREATER-THAN BRACKET:2998aBLACK TORTOISE SHELL BRACKET:299CaANGLE VARIANT WITH SQUARE
:29CEaTRIANGLE ABOVE LEFT TRIANGLE:29D9aWIGGLY FENCE:29DBaDOUBLE WIGGLY FENCE:2BE9aHALF BLACK STAR
:2E00aANGLE SUBSTITUTION MARKERbDOTTED SUBSTITUTION MARKER:2E03aSUBSTITUTION BRACKET
:2E05aDOTTED SUBSTITUTION BRACKET:2E0AaTRANSPOSITION BRACKET:2E0DaRAISED OMISSION BRACKET
:2E1DaLOW PARAPHRASE BRACKET:2E21aVERTICAL BAR WITH QUILL:2E27aSIDEWAYS U BRACKET
:2E29aDOUBLE PARENTHESIS:2E56aSQUARE BRACKET WITH STROKE:2E58dDOUBLE STROKE:3009aANGLE BRACKET
:300BaDOUBLE ANGLE BRACKET:300DaCORNER BRACKET:300FaWHITE CORNER BRACKET
:3011aBLACK LENTICULAR BRACKET:3015aTORTOISE SHELL BRACKET:3017aWHITE LENTICULAR BRACKET
:3019bTORTOISE SHELL BRACKET:301BbSQUARE BRACKET:1F568aSPEAKERbWITH ONE SOUND WAVE
cTHREE SOUND WAVES:1F57DaHAND TELEPHONE RECEIVER:1F5E9aSPEECH BUBBLE:1F5EDaTHOUGHT BUBBLE
:1F5EFaANGER BUBBLE:1FB6EaTRIANGULAR ONE QUARTER BLOCK:1FB7EaAND UPPER ONE EIGHTH BLOCK
bLOWER ONE EIGHTH BLOCK:1FB87aONE QUARTER BLOCKaTHREE EIGHTHS BLOCKaFIVE EIGHTHS BLOCK
aTHREE QUARTERS BLOCKaSEVEN EIGHTHS BLOCK:1FB8DaHALF MEDIUM SHADE:1FBB3bRUNNING MAN:1FBBAbFOLDER
:1FBBCaOPEN SQUARED DOT:1FBC3aTHIRD WHITE RIGHT POINTING INDEX=f-FACING:58DaARMENIAN ETERNITY SIGN
:FD5aSVASTI SIGN:FD7cWITH DOTS:1F91CaFIST=gHANDED:26E5aINTERLACED PENTAGRAM
=gPOINTING:BBaDOUBLE ANGLE QUOTATION MARK:232AaANGLE BRACKET:29FDaCURVED ANGLE BRACKET
:1F50EaMAGNIFYING GLASS=gSHADED:27A9aWHITE RIGHTWARDS ARROW=hIDE:2938aARC CLOCKWISE ARROW
=gTO-LEFT:200FaMARK:202BaEMBEDDING:202EaOVERRIDE:2067aISOLATE=fHAND:2A3DaINTERIOR PRODUCT
=fWARDS:2192aARROW:219BbWITH STROKE:219DaWAVE ARROW:21A0aTWO HEADED ARROW:21A3aARROW WITH TAIL
:21A6bFROM BAR:21AAbWITH HOOK:21ACcLOOP:21B4cCORNER DOWNWARDS:21C0aHARPOON WITH BARB UPWARDS
dDOWNWARDS:21C4aARROW OVER LEFTWARDS ARROW:21C9aPAIRED ARROWS:21CCaHARPOON OVER LEFTWARDS HARPOON
:21CFaDOUBLE ARROW WITH STROKE:21D2c:21DBaTRIPLE ARROW:21DDaSQUIGGLE ARROW:21E2aDASHED ARROW
:21E5aARROW TO BAR:21E8aWHITE ARROW:21F0cFROM WALL:21F8aARROW WITH VERTICAL STROKE
:21FBcDOUBLE VERTICAL STROKE:21FEaOPEN-HEADED ARROW:2900aTWO-HEADED ARROW WITH VERTICAL STROKE
dDOUBLE VERTICAL STROKE:2903aDOUBLE ARROW WITH VERTICAL STROKE:2905aTWO-HEADED ARROW FROM BAR
:2907aDOUBLE ARROW FROM BAR:290DbDASH ARROW:290FaTRIPLE DASH ARROWaTWO-HEADED TRIPLE DASH ARROW
aARROW WITH DOTTED STEM:2914cTAIL WITH VERTICAL STROKEeDOUBLE VERTICAL STROKE
aTWO-HEADED ARROW WITH TAILeWITH VERTICAL STROKEfDOUBLE VERTICAL STROKE:291AaARROW-TAIL
:291CaDOUBLE ARROW-TAIL:291EaARROW TO BLACK DIAMOND:2920bFROM BAR TO BLACK DIAMOND
:2942bABOVE SHORT LEFTWARDS ARROW:2945bWITH PLUS BELOW:2947bTHROUGH X
:2953aHARPOON WITH BARB UP TO BAR:2957dDOWN TO BAR:295BdUP FROM BAR:295FdDOWN FROM BAR
:2964dUP ABOVE RIGHTWARDS HARPOON WITH BARB DOWN:2968fLEFTWARDS HARPOON WITH BARB UP
dDOWN ABOVE LEFTWARDS HARPOON WITH BARB DOWN:296CdUP ABOVE LONG DASHdDOWN BELOW LONG DASH
:2974aARROW ABOVE TILDE OPERATORcALMOST EQUAL TO:2B0EbWITH TIP DOWNWARDSdUPWARDS
:2B43bTHROUGH GREATER-THANcSUPERSET:2B46aQUADRUPLE ARROW:2B48aARROW ABOVE REVERSE ALMOST EQUAL TO
:2B4CdTILDE OPERATOR:2B62aTRIANGLE-HEADED ARROW:2B6CbDASHED ARROW:2B72bARROW TO BAR
:2B7CcWITH DOUBLE HORIZONTAL STROKE:2B7CeVERTICAL STROKE:2B82cOVER LEFTWARDS TRIANGLE-HEADED ARROW
:2B86bPAIRED ARROWS:2B8AaBLACK CIRCLED WHITE ARROW:2B95bARROW
:2BA5aTRIANGLE-HEADED ARROW WITH LONG TIP UPWARDS:2BA7fDOWNWARDS
:2BEEaTWO-HEADED ARROW WITH TRIANGLE ARROWHEADS:1F66EaROCKET
:1F802aARROW WITH SMALL TRIANGLE ARROWHEAD:1F806cMEDIUM TRIANGLE ARROWHEAD
:1F80AcLARGE TRIANGLE ARROWHEAD:1F812cSMALL EQUILATERAL ARROWHEAD:1F816cEQUILATERAL ARROWHEAD
:1F822aTRIANGLE-HEADED ARROW WITH NARROW SHAFT:1F826dMEDIUM SHAFT:1F82AdBOLD SHAFT
:1F82EdHEAVY SHAFT:1F832dVERY HEAVY SHAFT:1F836aFINGER-POST ARROW:1F83AaSQUARED ARROW
:1F83EaCOMPRESSED ARROW:1F842aHEAVY COMPRESSED ARROW:1F846bARROW:1F852aSANS-SERIF ARROW
:1F892aTRIANGLE ARROWHEAD:1F896aWHITE ARROW WITHIN TRIANGLE ARROWHEAD
:1F89AaARROW WITH NOTCHED TAIL:1F8A1aBOTTOM SHADED WHITE ARROW:1F8A3aTOP SHADED WHITE ARROW
:1F8A5aRIGHT-SHADED WHITE ARROW:1F8A7aLEFT-SHADED WHITE ARROW
:1F8A9aBACK-TILTED SHADOWED WHITE ARROW:1F8ABaFRONT-TILTED SHADOWED WHITE ARROW:1FAF1aHAND
:1FBB6aARROW AND UPPER AND LOWER ONE EIGHTH BLOCK=cNG:2DAaABOVE:2218aOPERATOR:2256aIN EQUAL TO
aEQUAL TO:2E30aPOINT:1F48Da:1F6DFaBUOY=eED:1FA90aPLANET=eING:1F56DaBELL
=cSING:292BaDIAGONAL CROSSING FALLING DIAGONAL:2930cSOUTH EAST ARROW=bLE:202Ba=cI:2067a=cM:200Fa
=cO:202Ea=bOASTED:1F360aSWEET POTATO=cBOT:1F916aFACE=cCK:1FAA8a=eET:1F680a=cLL:1F9FBaOF PAPER
=eED-UP:1F5DEaNEWSPAPER=fR:1F3A2aCOASTER:1F6FCaSKATE=eING:1F923aON THE FLOOR LAUGHING
=cMAN:2160aNUMERAL ONEbTWObTHREEbFOURbFIVEbSIXbSEVENbEIGHTbNINEbTENbELEVENbTWELVEbFIFTY
bONE HUNDREDbFIVE HUNDREDbONE THOUSAND:2180dC DbFIVE THOUSANDbTEN THOUSANDbREVERSED ONE HUNDRED
:2185bSIX LATE FORMbFIFTY EARLY FORMcTHOUSANDbONE HUNDRED THOUSAND:10190aSEXTANS SIGNaUNCIA SIGN
aSEMUNCIA SIGNaSEXTULA SIGNaDIMIDIA SEXTULA SIGNaSILIQUA SIGNaDENARIUS SIGNaQUINARIUS SIGN
aSESTERTIUS SIGNaDUPONDIUS SIGNaAS SIGNaCENTURIAL SIGN=cOSTER:1F413a=cSE:1F339a=eTTE:1F3F5a
=cTATED:213AaCAPITAL Q:2765aHEAVY BLACK HEART BULLET:2767aFLORAL HEART BULLET
:2BCDaLIGHT FOUR POINTED BLACK CUSP:2BCFaWHITE FOUR POINTED CUSP=cUND:1F4CDaPUSHPIN:1F78BaTARGET
=fED:1F260aSYMBOL FOR FUcLUcSHOUcXIcSHUANGXIcCAI=cWBOAT:1F6A3a=bS:1Ea=bUBLE:20BDaSIGN
=cGBY:1F3C9aFOOTBALL=cLE-DELAYED:29F4a=cMI:10E60aDIGIT ONEbTWObTHREEbFOURbFIVEbSIXbSEVENbEIGHT
bNINEaNUMBER TENbTWENTYbTHIRTYbFORTYbFIFTYbSIXTYbSEVENTYbEIGHTYbNINETYbONE HUNDREDbTWO HUNDRED
bTHREE HUNDREDbFOUR HUNDREDbFIVE HUNDREDbSIX HUNDREDbSEVEN HUNDREDbEIGHT HUNDREDbNINE HUNDRED
aFRACTION ONE HALFcQUARTERcTHIRDbTWO THIRDS=cNIC:16A0aLETTER FEHU FEOH FE FbVbURUZ UR UbYRbYbW
bTHURISAZ THURS THORNbETHbANSUZ AbOS ObAC AbAESCbLONG-BRANCH-OSS ObSHORT-TWIG-OSS ObObOEbON
bRAIDO RAD REID RbKAUNAbCENbKAUN KbGbENGbGEBO GYFU GbGARbWUNJO WYNN WbHAGLAZ HbHAEGL H
bLONG-BRANCH-HAGALL HbSHORT-TWIG-HAGALL HbNAUDIZ NYD NAUD NbSHORT-TWIG-NAUD NbDOTTED-N
bISAZ IS ISS IbEbJERAN JbGERbLONG-BRANCH-AR AEbSHORT-TWIG-AR AbIWAZ EOHbPERTHO PEORTH P
bALGIZ EOLHXbSOWILO SbSIGEL LONG-BRANCH-SOL SbSHORT-TWIG-SOL SbCbZbTIWAZ TIR TYR T
bSHORT-TWIG-TYR TbDbBERKANAN BEORC BJARKAN BbSHORT-TWIG-BJARKAN BbDOTTED-PbOPEN-PbEHWAZ EH E
bMANNAZ MAN MbLONG-BRANCH-MADR MbSHORT-TWIG-MADR MbLAUKAZ LAGU LOGR LbDOTTED-LbINGWAZbING
bDAGAZ DAEG DbOTHALAN ETHEL ObEARbIORbCWEORTHbCALCbCEALCbSTANbLONG-BRANCH-YRbSHORT-TWIG-YR
bICELANDIC-YRbQbXaSINGLE PUNCTUATIONaMULTIPLE PUNCTUATIONaCROSS PUNCTUATIONaARLAUG SYMBOL
aTVIMADUR SYMBOLaBELGTHOR SYMBOLaLETTER KbSHbOObFRANKS CASKET OSdISdEHdACdAESC=dNER:1F3C3a
=eING:1F3BDaSHIRT WITH SASH=cPEE:20A8aSIGN=cSSIAN:2BF3aASTROLOGICAL SYMBOL VIGINTILEcNOVILE
cQUINTILEcBINOVILEcSENTAGONcTREDECILE=aS:29CCaIN TRIANGLE=bAFETY:1F9BAaVEST:1F9F7aPIN
=cGITTARIUS:2650a=cILBOAT:26F5a=cKE:1F376aBOTTLE AND CUP=cLT:1F9C2aSHAKER=eIRE:2613a
=dUTING:1FAE1aFACE=cMARITAN:800aLETTER ALAFbBITbGAMANbDALATbIYbBAAbZENbITbTITbYUTbKAAFbLABATbMIM
bNUNbSINGAATbINbFIbTSAADIYbQUFbRISHbSHANbTAAFaMARK INbIN-ALAFbOCCLUSIONbDAGESH
aMODIFIER LETTER EPENTHETIC YUTaMARK EPENTHETIC YUTaVOWEL SIGN LONG EcEcOVERLONG AAcLONG AAcAA
cOVERLONG AcLONG AcAaMODIFIER LETTER SHORT AaVOWEL SIGN SHORT AcLONG UcUaMODIFIER LETTER I
aVOWEL SIGN LONG IcIcOcSUKUNaMARK NEQUDAA:830aPUNCTUATION NEQUDAAbAFSAAQbANGEDbBAUbATMAAU
bSHIYYAALAAaABBREVIATION MARKaPUNCTUATION MELODIC QITSAbZIQAAbQITSAbZAEFbTURUbARKAANUbSOF MASHFAAT
bANNAAU=cNDWICH:1F96Aa=dS-SERIF:1F676aHEAVY DOUBLE TURNED COMMA QUOTATION MARK ORNAMENT
cCOMMA QUOTATION MARK ORNAMENTbLOW DOUBLE COMMA QUOTATION MARK ORNAMENT:1F67AaINTERROBANG ORNAMENT
=cRI:1F97Ba=cTELLITE:1F4E1aANTENNA:1F6F0a=dURN:2644a=cURASHTRA:A880aSIGN ANUSVARAbVISARGAaLETTER A
bAAbIbIIbUbUUbVOCALIC RcRRcLcLLbEbEEbAIbObOObAUbKAbKHAbGAbGHAbNGAbCAbCHAbJAbJHAbNYAbTTAbTTHAbDDA
bDDHAbNNAbTAbTHAbDAbDHAbNAbPAbPHAbBAbBHAbMAbYAbRAbLAbVAbSHAbSSAbSAbHAbLLAaCONSONANT SIGN HAARU
aVOWEL SIGN AAcIcIIcUcUUcVOCALIC RdRRdLdLLcEcEEcAIcOcOOcAUaSIGN VIRAMAbCANDRABINDU:A8CEaDANDA
aDOUBLE DANDAaDIGIT ZERObONEbTWObTHREEbFOURbFIVEbSIXbSEVENbEIGHTbNINE=eOPOD:1F995a=cXOPHONE:1F3B7a
=bCALES:2696a=dRF:1F9E3a=cHOOL:1F392aSATCHEL:1F3EBa=cI:9Aa=cOOTER:1F6F4a=dRPION:1F982a=gUS:264Fa
=cREEN:1F5B5a=eWDRIVER:1FA9Ba=dIPT:210AaSMALL GaCAPITAL H:2110bI:2112bLaSMALL L:2118aCAPITAL P
:211BbR:212CbB:212FaSMALL EaCAPITAL EbF:2133bMaSMALL O:1F670aLIGATURE ET ORNAMENT=dOLL:1F4DCa
=dUPLE:2108a=bEAL:1F9ADa=dT:1F4BAa=cCOND:1F948aPLACE MEDAL=dTION:A7aSIGN=eOR:2314a=cDNA:2BF2a
=cE-NO-EVIL:1F648aMONKEY=dDLING:1F331a=cGMENT:2313a=hED:1FBF0aDIGIT ZERObONEbTWObTHREEbFOURbFIVE
bSIXbSEVENbEIGHTbNINE=cLFIE:1F933a=cMICOLON:3Ba=eDIRECT:2A32aPRODUCT WITH BOTTOM CLOSED
=eSEXTILE:26BAa=cPARATED:2BFBaSYMBOL=cRIOUS:1F92CaFACE WITH SYMBOLS COVERING MOUTH=dVICE:2120aMARK
=cSAME:FE45aDOT=dQUIQUADRATE:26BCa=cT:93aTRANSMIT STATE:2216aMINUS=cWING:1FAA1aNEEDLE=cXTILE:26B9a
=bGC:99a=bHADOWED:271EaWHITE LATIN CROSS:2730bSTAR:274DbCIRCLE=dLLOW:1F958aPAN OF FOOD
=dMROCK:2618a=dRADA:11180aSIGN CANDRABINDUbANUSVARAbVISARGAaLETTER AbAAbIbIIbUbUUbVOCALIC RcRRcL
cLLbEbAIbObAUbKAbKHAbGAbGHAbNGAbCAbCHAbJAbJHAbNYAbTTAbTTHAbDDAbDDHAbNNAbTAbTHAbDAbDHAbNAbPAbPHAbBA
bBHAbMAbYAbRAbLAbLLAbVAbSHAbSSAbSAbHAaVOWEL SIGN AAcIcIIcUcUUcVOCALIC RdRRdLdLLcEcAIcOcAU
aSIGN VIRAMAbAVAGRAHAbJIHVAMULIYAbUPADHMANIYAaOMaDANDAaDOUBLE DANDAaABBREVIATION SIGNaSEPARATOR
aSANDHI MARKaSIGN NUKTAaVOWEL MODIFIER MARKaEXTRA SHORT VOWEL MARKaSUTRA MARK
aVOWEL SIGN PRISHTHAMATRA EaSIGN INVERTED CANDRABINDUaDIGIT ZERObONEbTWObTHREEbFOURbFIVEbSIXbSEVEN
bEIGHTbNINEaEKAMaSIGN SIDDHAMaHEADSTROKEaCONTINUATION SIGNaSECTION MARK-1bMARK-2=eK:1F988a
=dVED:1F367aICE=eIAN:10450aLETTER PEEPbTOTbKICKbFEEbTHIGHbSObSUREbCHURCHbYEAbHUNGbBIBbDEADbGAGbVOW
bTHEYbZOObMEASUREbJUDGEbWOEbHA-HAbLOLLbMIMEbIFbEGGbASHbADObONbWOOLbOUTbAHbROARbNUNbEATbAGEbICEbUP
bOAKbOOZEbOILbAWEbAREbORbAIRbERRbARRAYbEARbIANbYEW=cEEP:1F411a=cIELD:1F6E1a=dFT:EaOUTaIN
=dNTO:26E9aSHRINE=dP:1F6A2a=cOCKED:1F92FaFACE WITH EXPLODING HEAD=dOTING:1F320aSTAR
=dPPING:1F6CDaBAGS:1F6D2aTROLLEY=dRT:2944aRIGHTWARDS ARROW ABOVE LEFTWARDS ARROW:2ADEaLEFT TACK
aDOWN TACKaUP TACK:2AE7aDOWN TACK WITH OVERBARaUP TACK WITH UNDERBARcABOVE SHORT DOWN TACK
:2B4EaSLANTED NORTH ARROWaBACKSLANTED SOUTH ARROW
:2B5FaBENT ARROW POINTING DOWNWARDS THEN NORTH EAST=fCAKE:1F370a=fHAND:1BCA0aFORMAT LETTER OVERLAP
bCONTINUING OVERLAPbDOWN STEPbUP STEP=fS:1FA73a=dULDERED:237DaOPEN BOX=dWER:1F6BFa=cRIMP:1F990a
=dUG:1F937a=cUFFLE:29E2aPRODUCT=cY:ADa=bI:Fa=cDDHAM:11580aLETTER AbAAbIbIIbUbUUbVOCALIC RcRRcLcLL
bEbAIbObAUbKAbKHAbGAbGHAbNGAbCAbCHAbJAbJHAbNYAbTTAbTTHAbDDAbDDHAbNNAbTAbTHAbDAbDHAbNAbPAbPHAbBA
bBHAbMAbYAbRAbLAbVAbSHAbSSAbSAbHAaVOWEL SIGN AAcIcIIcUcUUcVOCALIC RdRR:115B8cEcAIcOcAU
aSIGN CANDRABINDUbANUSVARAbVISARGAbVIRAMAbNUKTAbSIDDHAMaDANDAaDOUBLE DANDAaSEPARATOR DOTbBAR
aREPETITION MARK-1bMARK-2bMARK-3aEND OF TEXT MARKaSECTION MARK WITH TRIDENT AND U-SHAPED ORNAMENTS
fDOTTED CRESCENTSdRAYS AND DOTTED CRESCENTSgDOUBLE CRESCENTSgTRIPLE CRESCENTScDOUBLE RING
eWITH RAYScWITH DOUBLE CRESCENTSdTRIPLE CRESCENTSdQUADRUPLE CRESCENTSdSEPTUPLE CRESCENTS
dCIRCLES AND RAYSfTWO ENCLOSURESfFOUR ENCLOSURESaLETTER THREE-CIRCLE ALTERNATE I
bTWO-CIRCLE ALTERNATE IdIIbALTERNATE UaVOWEL SIGN ALTERNATE UdUU
=dEWAYS:1F598aWHITE LEFT POINTING INDEXbRIGHT POINTING INDEXaBLACK LEFT POINTING INDEX
bRIGHT POINTING INDEX:1F59EaWHITE UP POINTING INDEXbDOWN POINTING INDEXaBLACK UP POINTING INDEX
bDOWN POINTING INDEX=cGN:1F918aOF THE HORNS=eWRITING:1D800aHAND-FIST INDEXaHAND-CIRCLE INDEX
aHAND-CUP INDEXaHAND-OVAL INDEXaHAND-HINGE INDEXaHAND-ANGLE INDEXaHAND-FIST INDEX BENT
aHAND-CIRCLE INDEX BENTaHAND-FIST THUMB UNDER INDEX BENTbINDEX RAISED KNUCKLEcCUPPEDcHINGEDdLOW
aHAND-CIRCLE INDEX HINGEaHAND-FIST INDEX MIDDLEaHAND-CIRCLE INDEX MIDDLE
aHAND-FIST INDEX MIDDLE BENTdRAISED KNUCKLESdHINGEDcUP MIDDLE HINGEDcHINGED MIDDLE UP
cMIDDLE CONJOINEDeINDEX BENTeMIDDLE BENTeCUPPEDeHINGEDdCROSSEDaHAND-CIRCLE INDEX MIDDLE CROSSED
aHAND-FIST MIDDLE BENT OVER INDEXbINDEX BENT OVER MIDDLEcMIDDLE THUMB
aHAND-CIRCLE INDEX MIDDLE THUMBaHAND-FIST INDEX MIDDLE STRAIGHT THUMB BENTdBENT THUMB STRAIGHT
dTHUMB BENTdHINGED SPREAD THUMB SIDEcUP MIDDLE HINGED THUMB SIDEgCONJOINED
cHINGED MIDDLE UP THUMB SIDEcMIDDLE UP SPREAD THUMB FORWARDdTHUMB CUPPEDeCIRCLEDeHOOKEDeHINGED
bTHUMB BETWEEN INDEX MIDDLE STRAIGHTbINDEX MIDDLE CONJOINED THUMB SIDEgCONJOINEDgBENT
bMIDDLE THUMB HOOKED INDEX UPbINDEX THUMB HOOKED MIDDLE UPcMIDDLE CONJOINED HINGED THUMB SIDE
dCROSSED THUMB SIDEdCONJOINED THUMB FORWARDeCUPPED THUMB FORWARDbMIDDLE THUMB CUPPED INDEX UP
bINDEX THUMB CUPPED MIDDLE UPbMIDDLE THUMB CIRCLED INDEX UPfHINGED
bINDEX THUMB ANGLED OUT MIDDLE UPeIN MIDDLE UPdCIRCLED MIDDLE UPcMIDDLE THUMB CONJOINED HINGED
eANGLED OUTfbMIDDLE THUMB ANGLED OUT INDEX UPgCROSSEDeINDEX UPbINDEX THUMB HOOKED MIDDLE HINGED
aHAND-FLAT FOUR FINGERSdBENTdHINGEDdCONJOINEDeSPLITaHAND-CLAW FOUR FINGERS CONJOINED
aHAND-FIST FOUR FINGERS CONJOINED BENTaHAND-HINGE FOUR FINGERS CONJOINED
aHAND-FLAT FIVE FINGERS SPREADbHEEL FIVE FINGERS SPREADbFIVE FINGERS SPREAD FOUR BENT
bHEEL FIVE FINGERS SPREAD FOUR BENTbFIVE FINGERS SPREAD BENTbHEEL FIVE FINGERS SPREAD BENT
bFIVE FINGERS SPREAD THUMB FORWARDaHAND-CUP FIVE FINGERS SPREADeOPEN
aHAND-HINGE FIVE FINGERS SPREAD OPENaHAND-OVAL FIVE FINGERS SPREAD
aHAND-FLAT FIVE FINGERS SPREAD HINGEDfTHUMB SIDEfNO THUMBbbBETWEEN PALM FACINGSbHEELbTHUMB SIDE
bHEEL THUMB SIDEbTHUMB BENTcFORWARDbSPLIT INDEX THUMB SIDEcCENTREdTHUMB SIDEfBENTcLITTLEaHAND-CLAW
bTHUMB SIDEbNO THUMBbTHUMB FORWARDaHAND-HOOK CURLICUEbaHAND-CUP OPENbbOPEN THUMB SIDEbTHUMB SIDE
bOPEN NO THUMBbNO THUMBbOPEN THUMB FORWARDbTHUMB FORWARDaHAND-CURLICUE OPENbaHAND-CIRCLEaHAND-OVAL
bTHUMB SIDEbNO THUMBbTHUMB FORWARDaHAND-HINGE OPENcTHUMB FORWARDbbSMALLbOPEN THUMB SIDEbTHUMB SIDE
bOPEN NO THUMBbNO THUMBbTHUMB SIDE TOUCHING INDEXcBETWEEN MIDDLE RINGaHAND-ANGLE
aHAND-FIST INDEX MIDDLE RINGaHAND-CIRCLE INDEX MIDDLE RINGaHAND-HINGE INDEX MIDDLE RING
aHAND-ANGLE INDEX MIDDLE RINGaHAND-HINGE LITTLEaHAND-FIST INDEX MIDDLE RING BENTeCONJOINED
aHAND-HINGE INDEX MIDDLE RING CONJOINEDaHAND-FIST LITTLE DOWNdRIPPLE STRAIGHTeCURVED
dOTHERS CIRCLEDcUPbTHUMB UNDER LITTLE UPaHAND-CIRCLE LITTLE UPaHAND-OVAL LITTLE UP
aHAND-ANGLE LITTLE UPaHAND-FIST LITTLE RAISED KNUCKLEcBENTcTOUCHES THUMBcTHUMB
aHAND-HINGE LITTLE THUMBaHAND-FIST LITTLE INDEX THUMBaHAND-HINGE LITTLE INDEX THUMB
aHAND-ANGLE LITTLE INDEX THUMB INDEX THUMB OUTgaHAND-FIST LITTLE INDEXaHAND-CIRCLE LITTLE INDEX
aHAND-HINGE LITTLE INDEXaHAND-ANGLE LITTLE INDEXaHAND-FIST INDEX MIDDLE LITTLE
aHAND-CIRCLE INDEX MIDDLE LITTLEaHAND-HINGE INDEX MIDDLE LITTLEbRING
aHAND-ANGLE INDEX MIDDLE LITTLEaHAND-FIST INDEX MIDDLE CROSS LITTLE
aHAND-CIRCLE INDEX MIDDLE CROSS LITTLEaHAND-FIST RING DOWN
aHAND-HINGE RING DOWN INDEX THUMB HOOK MIDDLEaHAND-ANGLE RING DOWN MIDDLE THUMB INDEX CROSS
aHAND-FIST RING UPcRAISED KNUCKLEcLITTLEaHAND-CIRCLE RING LITTLEaHAND-OVAL RING LITTLE
aHAND-ANGLE RING LITTLEaHAND-FIST RING MIDDLEdCONJOINEDdRAISED KNUCKLEScINDEXcTHUMB
aHAND-HOOK RING THUMBaHAND-FIST INDEX RING LITTLEaHAND-CIRCLE INDEX RING LITTLE
aHAND-CURLICUE INDEX RING LITTLE ONaHAND-HOOK INDEX RING LITTLE OUTeINeUNDER
aHAND-CUP INDEX RING LITTLEaHAND-HINGE INDEX RING LITTLEaHAND-ANGLE INDEX RING LITTLE OUTe
aHAND-FIST MIDDLE DOWNaHAND-HINGE MIDDLEaHAND-FIST MIDDLE UPaHAND-CIRCLE MIDDLE UP
aHAND-FIST MIDDLE RAISED KNUCKLEcUP THUMB SIDEaHAND-HOOK MIDDLE THUMB
aHAND-FIST MIDDLE THUMB LITTLEcLITTLEcRING LITTLEaHAND-CIRCLE MIDDLE RING LITTLE
aHAND-CURLICUE MIDDLE RING LITTLE ONaHAND-CUP MIDDLE RING LITTLEaHAND-HINGE MIDDLE RING LITTLE
aHAND-ANGLE MIDDLE RING LITTLE OUTeINeaHAND-CIRCLE MIDDLE RING LITTLE BENT
aHAND-CLAW MIDDLE RING LITTLE CONJOINEDfSIDEaHAND-HOOK MIDDLE RING LITTLE CONJOINED OUTfINf
aHAND-HINGE INDEX HINGEDaHAND-FIST INDEX THUMB SIDEaHAND-HINGE INDEX THUMB SIDE
aHAND-FIST INDEX THUMB SIDE THUMB DIAGONALfCONJOINEDfBENTeINDEX BENTeBOTH BENTeINDEX HINGE
dFORWARD INDEX STRAIGHTfBENTdHOOKdCURLICUEdCURVE THUMB INSIDE
aHAND-CLAW INDEX THUMB CURVE THUMB INSIDEaHAND-FIST INDEX THUMB CURVE THUMB UNDERdCIRCLE
aHAND-CUP INDEX THUMBdOPENaHAND-HINGE INDEX THUMB OPENdLARGEddSMALLaHAND-ANGLE INDEX THUMB OUTdINd
aHAND-FIST THUMBcHEELcSIDE DIAGONALdCONJOINEDdBENTcFORWARDcBETWEEN INDEX MIDDLEdMIDDLE RING
dRING LITTLEcUNDER TWO FINGERScOVER TWO FINGERScUNDER THREE FINGERSdFOUR FINGERS
cOVER FOUR RAISED KNUCKLESbbHEELaTOUCH SINGLEbMULTIPLEbBETWEENaGRASP SINGLEbMULTIPLEbBETWEEN
aSTRIKE SINGLEbMULTIPLEbBETWEENaBRUSH SINGLEbMULTIPLEbBETWEENaRUB SINGLEbMULTIPLEbBETWEEN
aSURFACE SYMBOLSbBETWEENaSQUEEZE LARGE SINGLEbSMALL SINGLEbLARGE MULTIPLEbSMALL MULTIPLE
bSEQUENTIALaFLICK LARGE SINGLEbSMALL SINGLEbLARGE MULTIPLEbSMALL MULTIPLEbSEQUENTIAL
aSQUEEZE FLICK ALTERNATINGaMOVEMENT-HINGE UP DOWN LARGEdSMALLcSEQUENTIALbDOWN SEQUENTIAL
bUP DOWN ALTERNATING LARGEeSMALLbSIDE TO SIDE SCISSORSaMOVEMENT-WALLPLANE FINGER CONTACT
aMOVEMENT-FLOORPLANE FINGER CONTACTaMOVEMENT-WALLPLANE SINGLE STRAIGHT SMALLdMEDIUMdLARGEdLARGEST
cWRIST FLEXbDOUBLE STRAIGHTcWRIST FLEXcALTERNATINGdWRIST FLEXbCROSSbTRIPLE STRAIGHT MOVEMENT
cWRIST FLEXcALTERNATINGdWRIST FLEXbBEND SMALLcMEDIUMcLARGEbCORNER SMALLcMEDIUMcLARGEcROTATION
bCHECK SMALLcMEDIUMcLARGEbBOX SMALLcMEDIUMcLARGEbZIGZAG SMALLcMEDIUMcLARGEbPEAKS SMALLcMEDIUM
cLARGEaTRAVEL-WALLPLANE ROTATION-WALLPLANE SINGLEcDOUBLEcALTERNATINGbROTATION-FLOORPLANE SINGLE
cDOUBLEcALTERNATINGbSHAKINGbARM SPIRAL SINGLEdDOUBLEdTRIPLEaMOVEMENT-DIAGONAL AWAY SMALLcMEDIUM
cLARGEcLARGESTbTOWARDS SMALLcMEDIUMcLARGEcLARGESTbBETWEEN AWAY SMALLdMEDIUMdLARGEdLARGEST
cTOWARDS SMALLdMEDIUMdLARGEdLARGESTaMOVEMENT-FLOORPLANE SINGLE STRAIGHT SMALLdMEDIUMdLARGEdLARGEST
cWRIST FLEXbDOUBLE STRAIGHTcWRIST FLEXcALTERNATINGdWRIST FLEXbCROSSbTRIPLE STRAIGHT MOVEMENT
cWRIST FLEXcALTERNATING MOVEMENTdWRIST FLEXbBENDbCORNER SMALLcMEDIUMcLARGEbCHECKbBOX SMALLcMEDIUM
cLARGEbZIGZAG SMALLcMEDIUMcLARGEbPEAKS SMALLcMEDIUMcLARGE
aTRAVEL-FLOORPLANE ROTATION-FLOORPLANE SINGLEcDOUBLEcALTERNATINGbROTATION-WALLPLANE SINGLEcDOUBLE
cALTERNATINGbSHAKINGaMOVEMENT-WALLPLANE CURVE QUARTER SMALLdMEDIUMdLARGEdLARGESTcHALF-CIRCLE SMALL
dMEDIUMdLARGEdLARGESTcTHREE-QUARTER CIRCLE SMALLeMEDIUMbHUMP SMALLcMEDIUMcLARGEbLOOP SMALLcMEDIUM
cLARGEcSMALL DOUBLEbWAVE CURVE DOUBLE SMALLeMEDIUMeLARGEdTRIPLE SMALLeMEDIUMeLARGE
bCURVE THEN STRAIGHTbCURVED CROSS SMALLdMEDIUMaROTATION-WALLPLANE SINGLEbDOUBLEbALTERNATE
aMOVEMENT-WALLPLANE SHAKINGbCURVE HITTING FRONT WALLbHUMP HITTING FRONT WALL
bLOOP HITTING FRONT WALLbWAVE HITTING FRONT WALLaROTATION-WALLPLANE SINGLE HITTING FRONT WALL
bDOUBLE HITTING FRONT WALLbALTERNATING HITTING FRONT WALLaMOVEMENT-WALLPLANE CURVE HITTING CHEST
bHUMP HITTING CHESTbLOOP HITTING CHESTbWAVE HITTING CHESTaROTATION-WALLPLANE SINGLE HITTING CHEST
bDOUBLE HITTING CHESTbALTERNATING HITTING CHESTaMOVEMENT-WALLPLANE WAVE DIAGONAL PATH SMALLeMEDIUM
eLARGEaMOVEMENT-FLOORPLANE CURVE HITTING CEILING SMALLeLARGEbHUMP HITTING CEILING SMALL DOUBLE
eLARGE DOUBLEeSMALL TRIPLEeLARGE TRIPLEbLOOP HITTING CEILING SMALL SINGLEeLARGE SINGLE
eSMALL DOUBLEeLARGE DOUBLEbWAVE HITTING CEILING SMALLeLARGE
aROTATION-FLOORPLANE SINGLE HITTING CEILINGbDOUBLE HITTING CEILINGbALTERNATING HITTING CEILING
aMOVEMENT-FLOORPLANE CURVE HITTING FLOOR SMALLeLARGEbHUMP HITTING FLOOR SMALL DOUBLEeLARGE DOUBLE
eTRIPLE SMALL TRIPLEfLARGE TRIPLEbLOOP HITTING FLOOR SMALL SINGLEeLARGE SINGLEeSMALL DOUBLE
eLARGE DOUBLEbWAVE HITTING FLOOR SMALLeLARGEaROTATION-FLOORPLANE SINGLE HITTING FLOOR
bDOUBLE HITTING FLOORbALTERNATING HITTING FLOORaMOVEMENT-FLOORPLANE CURVE SMALLcMEDIUMcLARGE
cLARGESTcCOMBINEDbHUMP SMALLbLOOP SMALLbWAVE SNAKEcSMALLcLARGEaROTATION-FLOORPLANE SINGLEbDOUBLE
bALTERNATINGaMOVEMENT-FLOORPLANE SHAKING PARALLELaMOVEMENT-WALLPLANE ARM CIRCLE SMALL SINGLE
dMEDIUM SINGLEdSMALL DOUBLEdMEDIUM DOUBLEaMOVEMENT-FLOORPLANE ARM CIRCLE HITTING WALL SMALL SINGLE
fMEDIUM SINGLEfLARGE SINGLEfSMALL DOUBLEfMEDIUM DOUBLEfLARGE DOUBLE
aMOVEMENT-WALLPLANE WRIST CIRCLE FRONT SINGLEeDOUBLE
aMOVEMENT-FLOORPLANE WRIST CIRCLE HITTING WALL SINGLEfDOUBLE
aMOVEMENT-WALLPLANE FINGER CIRCLES SINGLEdDOUBLE
aMOVEMENT-FLOORPLANE FINGER CIRCLES HITTING WALL SINGLEfDOUBLEaDYNAMIC ARROWHEAD SMALLcLARGEbFAST
bSLOWbTENSEbRELAXEDbSIMULTANEOUScALTERNATINGbEVERY OTHER TIMEbGRADUALaHEADbRIM
bMOVEMENT-WALLPLANE STRAIGHTcTILTbMOVEMENT-FLOORPLANE STRAIGHTbMOVEMENT-WALLPLANE CURVE
bMOVEMENT-FLOORPLANE CURVEbMOVEMENT CIRCLEaFACE DIRECTION POSITION NOSE FORWARD TILTINGeUP OR DOWN
hTILTINGaEYEBROWS STRAIGHT UPcNEUTRALcDOWNaDREAMY EYEBROWS NEUTRAL DOWNcDOWN NEUTRALcUP NEUTRAL
cNEUTRAL UPaFOREHEAD NEUTRALbCONTACTbWRINKLEDaEYES OPENbSQUEEZEDbCLOSEDaEYE BLINK SINGLEcMULTIPLE
aEYES HALF OPENbWIDE OPENbHALF CLOSEDbWIDENING MOVEMENTaEYE WINKaEYELASHES UPbDOWNbFLUTTERING
aEYEGAZE-WALLPLANE STRAIGHTcDOUBLEcALTERNATINGaEYEGAZE-FLOORPLANE STRAIGHTcDOUBLEcALTERNATING
aEYEGAZE-WALLPLANE CURVEDaEYEGAZE-FLOORPLANE CURVEDaEYEGAZE-WALLPLANE CIRCLINGaCHEEKS PUFFED
bNEUTRALbSUCKEDaTENSE CHEEKS HIGHcMIDDLEcLOWaEARSaNOSE NEUTRALbCONTACTbWRINKLESbWIGGLES
aAIR BLOWING OUTbSUCKING INbBLOW SMALL ROTATIONSbSUCK SMALL ROTATIONSaBREATH INHALEbEXHALE
aMOUTH CLOSED NEUTRALcFORWARDcCONTACTbSMILEcWRINKLEDcOPENbFROWNcWRINKLEDcOPENbOPEN CIRCLEcFORWARD
cWRINKLEDcOVALdWRINKLEDdYAWNcRECTANGLEdWRINKLEDdYAWNbKISScFORWARDcWRINKLEDbTENSEcFORWARDcSUCKED
aLIPS PRESSED TOGETHERaLIP LOWER OVER UPPERbUPPER OVER LOWERaMOUTH CORNERSbWRINKLES SINGLEcDOUBLE
aTONGUE STICKING OUT FARbLICKING LIPSbTIP BETWEEN LIPScTOUCHING INSIDE MOUTHbINSIDE MOUTH RELAXED
bMOVES AGAINST CHEEKbCENTRE STICKING OUTcINSIDE MOUTHaTEETHbMOVEMENTbON TONGUEdMOVEMENTcLIPS
dMOVEMENTbBITE LIPSaMOVEMENT-WALLPLANE JAWaMOVEMENT-FLOORPLANE JAWaNECKaHAIRaEXCITEMENT
aSHOULDER HIP SPINEcPOSITIONSaWALLPLANE SHOULDER HIP MOVEaFLOORPLANE SHOULDER HIP MOVE
aSHOULDER TILTING FROM WAISTaTORSO-WALLPLANE STRAIGHT STRETCHbCURVED BEND
aTORSO-FLOORPLANE TWISTINGaUPPER BODY TILTING FROM HIP JOINTSaLIMB COMBINATIONbLENGTH-1bLENGTH-2
bLENGTH-3bLENGTH-4bLENGTH-5bLENGTH-6bLENGTH-7aFINGERaLOCATION-WALLPLANE SPACE
aLOCATION-FLOORPLANE SPACEaLOCATION HEIGHTbWIDTHbDEPTHbHEAD NECKbTORSObLIMBS DIGITSaCOMMA
aFULL STOPaSEMICOLONaCOLONaPARENTHESIS:1DA9BaFILL MODIFIER-2bMODIFIER-3bMODIFIER-4bMODIFIER-5
bMODIFIER-6:1DAA1aROTATION MODIFIER-2bMODIFIER-3bMODIFIER-4bMODIFIER-5bMODIFIER-6bMODIFIER-7
bMODIFIER-8bMODIFIER-9bMODIFIER-10bMODIFIER-11bMODIFIER-12bMODIFIER-13bMODIFIER-14bMODIFIER-15
bMODIFIER-16=cLHOUETTE:1F5FEaOF JAPAN=cMILAR:2A6CaMINUS SIMILAR:2A9DaOR LESS-THANbGREATER-THAN
aABOVE LESS-THAN ABOVE EQUALS SIGNbGREATER-THAN ABOVE EQUALS SIGN=cNE:223FaWAVE=dGLE:8EaSHIFT TWO
bTHREE:99aGRAPHIC CHARACTER INTRODUCERaCHARACTER INTRODUCER:201AaLOW-9 QUOTATION MARK
aHIGH-REVERSED-9 QUOTATION MARK:2039aLEFT-POINTING ANGLE QUOTATION MARK
aRIGHT-POINTING ANGLE QUOTATION MARK=g-SHIFT-2:8Ea=n3:8Fa=dHALA:D81aSIGN CANDRABINDUbANUSVARAYA
bVISARGAYA:D85aLETTER AYANNAbAAYANNAbAEYANNAbAEEYANNAbIYANNAbIIYANNAbUYANNAbUUYANNAbIRUYANNA
bIRUUYANNAbILUYANNAbILUUYANNAbEYANNAbEEYANNAbAIYANNAbOYANNAbOOYANNAbAUYANNA:D9AbALPAPRAANA KAYANNA
bMAHAAPRAANA KAYANNAbALPAPRAANA GAYANNAbMAHAAPRAANA GAYANNAbKANTAJA NAASIKYAYAbSANYAKA GAYANNA
bALPAPRAANA CAYANNAbMAHAAPRAANA CAYANNAbALPAPRAANA JAYANNAbMAHAAPRAANA JAYANNAbTAALUJA NAASIKYAYA
cSANYOOGA NAAKSIKYAYAbSANYAKA JAYANNAbALPAPRAANA TTAYANNAbMAHAAPRAANA TTAYANNAbALPAPRAANA DDAYANNA
bMAHAAPRAANA DDAYANNAbMUURDHAJA NAYANNAbSANYAKA DDAYANNAbALPAPRAANA TAYANNAbMAHAAPRAANA TAYANNA
bALPAPRAANA DAYANNAbMAHAAPRAANA DAYANNAbDANTAJA NAYANNA:DB3bSANYAKA DAYANNAbALPAPRAANA PAYANNA
bMAHAAPRAANA PAYANNAbALPAPRAANA BAYANNAbMAHAAPRAANA BAYANNAbMAYANNAbAMBA BAYANNAbYAYANNAbRAYANNA
:DBDbDANTAJA LAYANNA:DC0bVAYANNAbTAALUJA SAYANNAbMUURDHAJA SAYANNAbDANTAJA SAYANNAbHAYANNA
bMUURDHAJA LAYANNAbFAYANNA:DCAaSIGN AL-LAKUNA:DCFaVOWEL SIGN AELA-PILLAcKETTI AEDA-PILLA
cDIGA AEDA-PILLAcKETTI IS-PILLAcDIGA IS-PILLAcKETTI PAA-PILLA:DD6cDIGA PAA-PILLA:DD8cGAETTA-PILLA
cKOMBUVAcDIGA KOMBUVAcKOMBU DEKAcKOMBUVA HAA AELA-PILLAeDIGA AELA-PILLAeGAYANUKITTAcGAYANUKITTA
:DE6aLITH DIGIT ZEROcONEcTWOcTHREEcFOURcFIVEcSIXcSEVENcEIGHTcNINE:DF2aVOWEL SIGN DIGA GAETTA-PILLA
dGAYANUKITTAaPUNCTUATION KUNDDALIYA:111E1aARCHAIC DIGIT ONEcTWOcTHREEcFOURcFIVEcSIXcSEVENcEIGHT
cNINEbNUMBER TENcTWENTYcTHIRTYcFORTYcFIFTYcSIXTYcSEVENTYcEIGHTYcNINETYcONE HUNDREDdTHOUSAND
=cX:2736aPOINTED BLACK STAR:273EaPETALLED BLACK AND WHITE FLORETTE
:1F52FaPOINTED STAR WITH MIDDLE DOT:1F7CDbPINWHEEL STAR=d-PER-EM:2006aSPACE
=dTEEN:273AaPOINTED ASTERISK=bKATEBOARD:1F6F9a=cI:1F3BFaAND SKI BOOT=dER:26F7a
=cULL:2620aAND CROSSBONES:1F480a=dNK:1F9A8a=bLANTED:2A95aEQUAL TO OR LESS-THANdGREATER-THAN
dLESS-THAN WITH DOT INSIDEdGREATER-THAN WITH DOT INSIDE:2B5AaNORTH ARROW WITH HOOKED HEAD
:2B5CdHORIZONTAL TAIL=dVONIC:A673aASTERISK=cED:1F6F7a=dEPING:1F4A4aSYMBOL:1F634aFACE
:1F6CCaACCOMMODATION=fY:1F62AaFACE=dUTH:1F575aOR SPY=cICE:1F355aOF PIZZA
=dGHTLY:1F641aFROWNING FACEaSMILING FACE=cOPE:2333a=eING:2A57aLARGE ORbAND=dT:1F3B0aMACHINE
=eH:1F9A5a=bMALL:2DCaTILDE:2170aROMAN NUMERAL ONEcTWOcTHREEcFOURcFIVEcSIXcSEVENcEIGHTcNINEcTEN
cELEVENcTWELVEcFIFTYcONE HUNDREDcFIVE HUNDREDcONE THOUSAND:220AaELEMENT OF:220DaCONTAINS AS MEMBER
:22F4aELEMENT OF WITH VERTICAL BAR AT END OF HORIZONTAL STROKE:22F7dOVERBAR
:22FCaCONTAINS WITH VERTICAL BAR AT END OF HORIZONTAL STROKE:22FEcOVERBAR:2A61aVEE WITH UNDERBAR
:FE50aCOMMAaIDEOGRAPHIC COMMAaFULL STOP:FE54aSEMICOLONaCOLONaQUESTION MARKaEXCLAMATION MARK
aEM DASHaLEFT PARENTHESISaRIGHT PARENTHESISaLEFT CURLY BRACKETaRIGHT CURLY BRACKET
aLEFT TORTOISE SHELL BRACKETaRIGHT TORTOISE SHELL BRACKETaNUMBER SIGNaAMPERSANDaASTERISKaPLUS SIGN
aHYPHEN-MINUSaLESS-THAN SIGNaGREATER-THAN SIGNaEQUALS SIGN:FE68aREVERSE SOLIDUSaDOLLAR SIGN
aPERCENT SIGNaCOMMERCIAL AT:10B3BaTWO DOTS OVER ONE DOT PUNCTUATION:1F538aORANGE DIAMOND
aBLUE DIAMOND:1F6E9aAIRPLANE=fER:2AAAaTHAN:2AACbOR EQUAL TO=dSH:2A33aPRODUCT=cILE:2323a
=eING:1F603aFACE WITH OPEN MOUTHeAND SMILING EYESfCOLD SWEATfTIGHTLY-CLOSED EYEScHALOcHORNS
:1F60AcSMILING EYES:1F60DcHEART-SHAPED EYEScSUNGLASSES:1F63AaCAT FACE WITH OPEN MOUTH
dHEART-SHAPED EYES:1F92DaFACE WITH SMILING EYES AND HAND COVERING MOUTH:1F970fTHREE HEARTS
:1F972cTEAR=dRKING:1F60FaFACE=cOKING:1F6ACaSYMBOL=bNAIL:1F40Ca=dKE:1F40Da=cEEZING:1F927aFACE
=cOW:1F3D4aCAPPED MOUNTAIN=eBOARDER:1F3C2a=eFLAKE:2744a=eMAN:2603a:26C4aWITHOUT SNOW=bO:Ea
=cCCER:26BDaBALL=dKS:1F9E6a=cFT:ADaHYPHEN:1F366aICE CREAM:1F5ACaSHELL FLOPPY DISK=eBALL:1F94Ea
=eWARE-FUNCTION:2394aSYMBOL=cGDIAN:10F30aLETTER ALEPHbBETHbGIMELbHEbWAWbZAYINbHETHbYODHbKAPH
bLAMEDHbMEMbNUNbSAMEKHbAYINbPEbSADHEbRESH-AYINbSHINbTAWbFETHbLESHaINDEPENDENT SHIN
aCOMBINING DOT BELOWbTWO DOTS BELOWbDOT ABOVEbTWO DOTS ABOVEbCURVE ABOVEcBELOWbHOOK ABOVEcBELOW
bLONG HOOK BELOWbRESH BELOWbSTROKE BELOWaNUMBER ONEbTENbTWENTYbONE HUNDRED
aPUNCTUATION TWO VERTICAL BARSeWITH DOTSbCIRCLE WITH DOTbTWO CIRCLES WITH DOTS
bHALF CIRCLE WITH DOT=cH:1a=cLID:1F66AaQUILT SQUARE ORNAMENTdIN BLACK SQUARE=fUS:2Fa
:29F6aWITH OVERBAR=cM:20C0aSIGN=cON:1F51CaWITH RIGHTWARDS ARROW ABOVE=cRA:110D0aSOMPENG LETTER SAH
cTAHcBAHcCAHcDAHcGAHcMAHcNGAHcLAHcNAHcVAHcPAHcYAHcRAHcHAHcKAHcJAHcNYAHcAHcEEHcIHcUHcOHcEHcMAE
:110F0bDIGIT ZEROcONEcTWOcTHREEcFOURcFIVEcSIXcSEVENcEIGHTcNINE=cS:98a
=cUND:2117aRECORDING COPYRIGHT=dTH:2198aEAST ARROWaWEST ARROW:21D8aEAST DOUBLE ARROW
aWEST DOUBLE ARROW:21F2aEAST ARROW TO CORNER:2925cWITH HOOKaWEST ARROW WITH HOOK
:2929aEAST ARROW AND SOUTH WEST ARROWaWEST ARROW AND NORTH WEST ARROW
:292DaEAST ARROW CROSSING NORTH EAST ARROW:2B02bWHITE ARROWaWEST WHITE ARROW:2B0AaEAST BLACK ARROW
aWEST BLACK ARROW:2B68aEAST TRIANGLE-HEADED ARROWaWEST TRIANGLE-HEADED ARROW
:2B78aEAST TRIANGLE-HEADED ARROW TO BARaWEST TRIANGLE-HEADED ARROW TO BAR:1F651bPOINTING LEAF
:1F653aEAST POINTING LEAF:1F659aWEST POINTING VINE LEAF:1F65BaEAST POINTING VINE LEAF
:1F661aWEST POINTING BUD:1F663aEAST POINTING BUD:1F856bSANS-SERIF ARROWaWEST SANS-SERIF ARROW
=cYOMBO:11A50aLETTER AaVOWEL SIGN IcUEcUcEcOcOEcAIcAUcVOCALIC RdLbLENGTH MARKaLETTER KAbKHAbGAbGHA
bNGAbCAbCHAbJAbJHAbNYAbTTAbTTHAbDDAbDDHAbNNAbTAbTHAbDAbDHAbNAbPAbPHAbBAbBHAbMAbTSAbTSHAbDZAbZHAbZA
b-AbYAbRAbLAbVAbSHAbSSAbSAbHAbKSSAaSIGN JIHVAMULIYAbUPADHMANIYAaCLUSTER-INITIAL LETTER RAcLAcSHA
cSAaFINAL CONSONANT SIGN GdKdNGdDdNdBdMdRdLdSHdSd-AaSIGN ANUSVARAbVISARGAaGEMINATION MARK
aSUBJOINERaMARK TSHEGbSHADbDOUBLE SHADbPLUTAaHEAD MARK WITH MOON AND SUN AND TRIPLE FLAMEhFLAMEg
aTERMINAL MARK-1bMARK-2=bP:20a=cA:96a=dCE:20a=dGHETTI:1F35Da=dRKLE:2747a=hS:2728a=gING:1F496aHEART
=cEAK-NO-EVIL:1F64AaMONKEY=fER:1F507aWITH CANCELLATION STROKEaaWITH ONE SOUND WAVE
bTHREE SOUND WAVES=fING:1F5E3aHEAD IN SILHOUETTE=dECH:1F4ACaBALLOON=eDBOAT:1F6A4a=dSMILO:20B7aSIGN
=cHERICAL:2222aANGLE:29A0bOPENING LEFTcUP=cIDER:1F577aaWEB=dRAL:1F41AaSHELL:1F5D2aNOTE PAD
aCALENDAR PAD=cLASHING:1F4A6aSWEAT SYMBOL=cONGE:1F9FDa=dOL:1F9F5aOF THREAD=eN:1F944a
=dRTS:1F3C5aMEDAL=dUTING:1F433aWHALE=bQUARE:221AaROOT:228FaIMAGE OFaORIGINAL OF
aIMAGE OF OR EQUAL TOaORIGINAL OF OR EQUAL TOaCAPaCUP:22E4aIMAGE OF OR NOT EQUAL TO
aORIGINAL OF OR NOT EQUAL TO:2311aLOZENGE:23CDaFOOT:25A4aWITH HORIZONTAL FILLbVERTICAL FILL
bORTHOGONAL CROSSHATCH FILLbUPPER LEFT TO LOWER RIGHT FILLcRIGHT TO LOWER LEFT FILL
bDIAGONAL CROSSHATCH FILL:25E7bLEFT HALF BLACKbRIGHT HALF BLACKbUPPER LEFT DIAGONAL HALF BLACK
bLOWER RIGHT DIAGONAL HALF BLACK:26F6aFOUR CORNERS:29E0aWITH CONTOURED OUTLINE
:2ACDaLEFT OPEN BOX OPERATORaRIGHT OPEN BOX OPERATOR:2B12aWITH TOP HALF BLACKbBOTTOM HALF BLACK
bUPPER RIGHT DIAGONAL HALF BLACKbLOWER LEFT DIAGONAL HALF BLACK:2BD0aPOSITION INDICATOR:32CCaHG
aERGaEV:32FFaERA NAME REIWAaAPAATOaARUHUAaANPEAaAARUaININGUaINTIaUONaESUKUUDOaEEKAAaONSUaOOMU
aKAIRIaKARATTOaKARORIIaGARONaGANMAaGIGAaGINIIaKYURIIaGIRUDAAaKIROaKIROGURAMUaKIROMEETORUaKIROWATTO
aGURAMUaGURAMUTONaKURUZEIROaKUROONEaKEESUaKORUNAaKOOPOaSAIKURUaSANTIIMUaSIRINGUaSENTIaSENTOaDAASU
aDESIaDORUaTONaNANOaNOTTOaHAITUaPAASENTOaPAATUaBAARERUaPIASUTORUaPIKURUaPIKOaBIRUaHUARADDOaHUIITO
aBUSSYERUaHURANaHEKUTAARUaPESOaPENIHIaHERUTUaPENSUaPEEZIaBEETAaPOINTOaBORUTOaHONaPONDOaHOORUaHOON
aMAIKUROaMAIRUaMAHHAaMARUKUaMANSYONaMIKURONaMIRIaMIRIBAARUaMEGAaMEGATONaMEETORUaYAADOaYAARUaYUAN
aRITTORUaRIRAaRUPIIaRUUBURUaREMUaRENTOGENaWATTO:3371aHPAaDAaAUaBARaOVaPCaDMbSQUAREDbCUBEDaIU
aERA NAME HEISEIcSYOUWAcTAISYOUcMEIZIaCORPORATIONaPA AMPSaNAaMU AaMAaKAaKBaMBaGBaCALaKCALaPFaNF
aMU FbGaMGaKGaHZaKHZaMHZaGHZaTHZaMU LaMLaDLaKLaFMaNMaMU MaMMaCMaKMaMM SQUAREDaCM SQUAREDaM SQUARED
aKM SQUAREDaMM CUBEDaCM CUBEDaM CUBEDaKM CUBEDaM OVER SdSQUAREDaPAaKPAaMPAaGPAaRADbOVER SdSQUARED
aPSaNSaMU SaMSaPVaNVaMU VaMVaKVaMV MEGAaPWaNWaMU WaMWaKWaMW MEGAaK OHMaM OHMaAMaBQaCCaCDaC OVER KG
aCOaDBaGYaHAaHPaINaKKaKM CAPITALaKTaLMaLNaLOGaLXaMB SMALLaMILaMOLaPHaPMaPPMaPRaSRaSVaWBaV OVER M
aA OVER M:33FFaGAL:1F190aDJ:1F200aHIRAGANA HOKA:1F796aTARGET=gD:229EaPLUSaMINUSaTIMESaDOT OPERATOR
:26BFaKEY:26DDaSALTIRE:27CEaLOGICAL ANDbOR:29C4aRISING DIAGONAL SLASHaFALLING DIAGONAL SLASH
aASTERISKaSMALL CIRCLEaSQUARE:2E2CaFOUR DOT PUNCTUATION:1F130aLATIN CAPITAL LETTER AdBdCdDdEdFdGdH
dIdJdKdLdMdNdOdPdQdRdSdTdUdVdWdXdYdZaHVaMVaSDaSSaPPVaWC:1F191aCLaCOOLaFREEaIDaNEWaNGaOKaSOS
aUP WITH EXCLAMATION MARKaVSaTHREE DaSECOND SCREENaTWO KaFOUR KaEIGHT KaFIVE POINT ONE
aSEVEN POINT ONEaTWENTY-TWO POINT TWOaSIXTY PaONE HUNDRED TWENTY PaLATIN SMALL LETTER DaHCaHDR
aHI-RESaLOSSLESSaSHVaUHDaVOD:1F201aKATAKANA KOKObSA:1F210aCJK UNIFIED IDEOGRAPH-624B
cIDEOGRAPH-5B57cIDEOGRAPH-53CCaKATAKANA DEaCJK UNIFIED IDEOGRAPH-4E8CcIDEOGRAPH-591A
cIDEOGRAPH-89E3cIDEOGRAPH-5929cIDEOGRAPH-4EA4cIDEOGRAPH-6620cIDEOGRAPH-7121cIDEOGRAPH-6599
cIDEOGRAPH-524DcIDEOGRAPH-5F8CcIDEOGRAPH-518DcIDEOGRAPH-65B0cIDEOGRAPH-521DcIDEOGRAPH-7D42
cIDEOGRAPH-751FcIDEOGRAPH-8CA9cIDEOGRAPH-58F0cIDEOGRAPH-5439cIDEOGRAPH-6F14cIDEOGRAPH-6295
cIDEOGRAPH-6355cIDEOGRAPH-4E00cIDEOGRAPH-4E09cIDEOGRAPH-904AcIDEOGRAPH-5DE6cIDEOGRAPH-4E2D
cIDEOGRAPH-53F3cIDEOGRAPH-6307cIDEOGRAPH-8D70cIDEOGRAPH-6253cIDEOGRAPH-7981cIDEOGRAPH-7A7A
cIDEOGRAPH-5408cIDEOGRAPH-6E80cIDEOGRAPH-6709cIDEOGRAPH-6708cIDEOGRAPH-7533cIDEOGRAPH-5272
cIDEOGRAPH-55B6cIDEOGRAPH-914D=eT:27A7aBLACK RIGHTWARDS ARROW=dID:1F991a=bS2:8Ea=c3:8Fa=cA:86a
=bT:9Ca=cADIUM:1F3DFa=dFF:2695aOF AESCULAPIUS:269AbHERMES=dMPED:1F583aENVELOPE=dNDING:1F9CDaPERSON
=dR:225BaEQUALS:22C6aOPERATOR:262AaAND CRESCENT:2721aOF DAVID:2BEAaWITH LEFT HALF BLACK
bRIGHT HALF BLACK=eT:1aOF HEADINGbTEXT:86bSELECTED AREA:96bGUARDED AREA:96bPROTECTED AREA
:98bSTRING=dTION:1F689a=eUE:1F5FDaOF LIBERTY=cEAM:1F682aLOCOMOTIVE=fING:1F35CaBOWL
=dNOGRAPHIC:2E3CaFULL STOP=dTHOSCOPE:1FA7Aa=cICK:1FBC5aFIGUREbWITH ARMS RAISEDbLEANING LEFTcRIGHT
bWITH DRESS=cOCK:1F5E0aCHART=dPWATCH:23F1a=cRAIGHT:1F4CFaRULER=iNESS:23E4a=eWBERRY:1F353a
=dESS:2729aOUTLINED WHITE STAR=dICTLY:2263aEQUIVALENT TO=eNG:9CaTERMINATOR=cS:93a
=cUDIO:1F399aMICROPHONE=dFFED:1F959aFLATBREAD=dPA:1F6D3a=cX:2a=bUB:1Aa=dSCRIPT:2080aZEROaONEaTWO
aTHREEaFOURaFIVEaSIXaSEVENaEIGHTaNINEaPLUS SIGNaMINUSaEQUALS SIGNaLEFT PARENTHESIS
aRIGHT PARENTHESIS=eET:2282aOF:2286bOR EQUAL TO:228AbWITH NOT EQUAL TO:2979aABOVE RIGHTWARDS ARROW
:2ABDaWITH DOT:2ABFbPLUS SIGN BELOW:2AC1bMULTIPLICATION SIGN BELOW
:2AC3aOF OR EQUAL TO WITH DOT ABOVE:2AC5bABOVE EQUALS SIGN:2AC7cTILDE OPERATOR
:2AC9cALMOST EQUAL TO:2ACBcNOT EQUAL TO:2AD3aABOVE SUPERSET:2AD5bSUBSET=eTITUTE:1Aa=cCCEEDS:227Ba
:227DaOR EQUAL TO:227FbEQUIVALENT TO:22B1aUNDER RELATION:22E9aBUT NOT EQUIVALENT TO
:2AB0aABOVE SINGLE-LINE EQUALS SIGN:2AB2cNOT EQUAL TO:2AB4bEQUALS SIGN:2AB6bNOT EQUAL TO
:2AB8bALMOST EQUAL TO:2ABAbNOT ALMOST EQUAL TO=cMMATION:23B2aTOPaBOTTOM:2A0BaWITH INTEGRAL
=cN:2609a:26C5aBEHIND CLOUD:1F31EaWITH FACE=dDANESE:1B80aSIGN PANYECEKbPANGLAYARbPANGWISAD
aLETTER AbIbUbAEbObEbEUbKAbQAbGAbNGAbCAbJAbZAbNYAbTAbDAbNAbPAbFAbVAbBAbMAbYAbRAbLAbWAbSAbXAbHA
aCONSONANT SIGN PAMINGKALcPANYAKRAcPANYIKUaVOWEL SIGN PANGHULUcPANYUKUcPANAELAENGcPANOLONGcPAMEPET
cPANEULEUNGaSIGN PAMAAEHbVIRAMAaCONSONANT SIGN PASANGAN MAdWAaLETTER KHAbSYAaDIGIT ZERObONEbTWO
bTHREEbFOURbFIVEbSIXbSEVENbEIGHTbNINEaAVAGRAHAaLETTER REUbLEUbBHAbFINAL KcM
:1CC0aPUNCTUATION BINDU SURYAcPANGLONGcPURNAMAcCAKRAcLEU SATANGAcKA SATANGAcDA SATANGAcBA SATANGA
=dFLOWER:1F33Ba=dRISE:1F304aOVER MOUNTAINSa=dSET:1F307aOVER BUILDINGS=cPERHERO:1F9B8a
=fSCRIPT:B2aTWOaTHREE:B9aONE:2070aZEROaLATIN SMALL LETTER I:2074aFOURaFIVEaSIXaSEVENaEIGHTaNINE
aPLUS SIGNaMINUSaEQUALS SIGNaLEFT PARENTHESISaRIGHT PARENTHESISaLATIN SMALL LETTER N=gET:2283aOF
:2287bOR EQUAL TO:228BbWITH NOT EQUAL TO:27C9aPRECEDING SOLIDUS:297BaABOVE LEFTWARDS ARROW
:2ABEaWITH DOT:2AC0bPLUS SIGN BELOW:2AC2bMULTIPLICATION SIGN BELOW
:2AC4aOF OR EQUAL TO WITH DOT ABOVE:2AC6bABOVE EQUALS SIGN:2AC8cTILDE OPERATOR
:2ACAcALMOST EQUAL TO:2ACCcNOT EQUAL TO:2AD4aABOVE SUBSET:2AD6bSUPERSETaBESIDE SUBSET
bAND JOINED BY DASH WITH SUBSET=fVILLAIN:1F9B9a=cRFACE:222FaINTEGRAL=eER:1F3C4a=cSHI:1F363a
=dPENSION:1F69FaRAILWAY=bWAN:1F9A2a=dSH:1F675aAMPERSAND ORNAMENT=cIMMER:1F3CAa=cUNG:2053aDASH
=bYLOTI:A800aNAGRI LETTER AcIbSIGN DVISVARAbLETTER UcEcObSIGN HASANTAbLETTER KOcKHOcGOcGHO
bSIGN ANUSVARAbLETTER COcCHOcJOcJHOcTTOcTTHOcDDOcDDHOcTOcTHOcDOcDHOcNOcPOcPHOcBOcBHOcMOcROcLOcRRO
cSOcHObVOWEL SIGN AdIdUdEdOObPOETRY MARK-1cMARK-2cMARK-3cMARK-4bSIGN ALTERNATE HASANTA
=cMBOL:214FaFOR SAMARITAN SOURCE:2400bNULLbSTART OF HEADINGdTEXTbEND OF TEXTdTRANSMISSIONbENQUIRY
bACKNOWLEDGEbBELLbBACKSPACEbHORIZONTAL TABULATIONbLINE FEEDbVERTICAL TABULATIONbFORM FEED
bCARRIAGE RETURNbSHIFT OUTcINbDATA LINK ESCAPEbDEVICE CONTROL ONEdTWOdTHREEdFOUR
bNEGATIVE ACKNOWLEDGEbSYNCHRONOUS IDLEbEND OF TRANSMISSION BLOCKbCANCELbEND OF MEDIUMbSUBSTITUTE
bESCAPEbFILE SEPARATORbGROUP SEPARATORbRECORD SEPARATORbUNIT SEPARATORbSPACEbDELETE:2424bNEWLINE
bDELETE FORM TWObSUBSTITUTE FORM TWO:2B97bTYPE A ELECTRONICS:1F545bMARKS CHAPTER=dMETRY:232Fa
=cN:16a=dAGOGUE:1F54Da=dCHRONOUS:16aIDLE=cRIAC:700aEND OF PARAGRAPHaSUPRALINEAR FULL STOP
aSUBLINEAR FULL STOPaSUPRALINEAR COLONaSUBLINEAR COLONaHORIZONTAL COLONaCOLON SKEWED LEFTcRIGHT
aSUPRALINEAR COLON SKEWED LEFTaSUBLINEAR COLON SKEWED LEFT:709dRIGHTaCONTRACTIONaHARKLEAN OBELUS
bMETOBELUSbASTERISCUS:70FaABBREVIATION MARKaLETTER ALAPHbSUPERSCRIPT ALAPHbBETHbGAMALcGARSHUNI
bDALATHbDOTLESS DALATH RISHbHEbWAWbZAINbHETHbTETHcGARSHUNIbYUDHcHEbKAPHbLAMADHbMIMbNUNbSEMKATH
bFINAL SEMKATHbEbPEbREVERSED PEbSADHEbQAPHbRISHbSHINbTAWbPERSIAN BHETHcGHAMALcDHALATHaPTHAHA ABOVE
bBELOWbDOTTEDaZQAPHA ABOVEbBELOWbDOTTEDaRBASA ABOVEbBELOWaDOTTED ZLAMA HORIZONTALcANGULAR
aHBASA ABOVEbBELOWaHBASA-ESASA DOTTEDaESASA ABOVEbBELOWaRWAHAaFEMININE DOTaQUSHSHAYAaRUKKAKHA
aTWO VERTICAL DOTS ABOVEdBELOWaTHREE DOTS ABOVEcBELOWaOBLIQUE LINE ABOVEcBELOWaMUSICaBARREKH
:74DaLETTER SOGDIAN ZHAINcKHAPHcFE:860bMALAYALAM NGAcJAcNYAcTTAcNNAcNNNAcBHAcRAcLLAcLLLAcSSA
=eNGE:1F489a=aT-REX:1F996a=cSHIRT:1F455a=bAB:9a=dLE:1F3D3aTENNIS PADDLE AND BALL=cCO:1F32Ea
=cG:E0020aSPACEaEXCLAMATION MARKaQUOTATION MARKaNUMBER SIGNaDOLLAR SIGNaPERCENT SIGNaAMPERSAND
aAPOSTROPHEaLEFT PARENTHESISaRIGHT PARENTHESISaASTERISKaPLUS SIGNaCOMMAaHYPHEN-MINUSaFULL STOP
aSOLIDUSaDIGIT ZERObONEbTWObTHREEbFOURbFIVEbSIXbSEVENbEIGHTbNINEaCOLONaSEMICOLONaLESS-THAN SIGN
aEQUALS SIGNaGREATER-THAN SIGNaQUESTION MARKaCOMMERCIAL ATaLATIN CAPITAL LETTER AdBdCdDdEdFdGdHdI
dJdKdLdMdNdOdPdQdRdSdTdUdVdWdXdYdZaLEFT SQUARE BRACKETaREVERSE SOLIDUSaRIGHT SQUARE BRACKET
aCIRCUMFLEX ACCENTaLOW LINEaGRAVE ACCENTaLATIN SMALL LETTER AdBdCdDdEdFdGdHdIdJdKdLdMdNdOdPdQdRdS
dTdUdVdWdXdYdZaLEFT CURLY BRACKETaVERTICAL LINEaRIGHT CURLY BRACKETaTILDE=dALOG:1700aLETTER AbIbU
bKAbGAbNGAbTAbDAbNAbPAbBAbMAbYAbRAbLAbWAbSAbHAaVOWEL SIGN IcUaSIGN VIRAMAbPAMUDPOD
:171FaLETTER ARCHAIC RA=dBANWA:1760aLETTER AbIbUbKAbGAbNGAbTAbDAbNAbPAbBAbMAbYA:176EbLAbWAbSA
:1772aVOWEL SIGN IcU=cI:1950aLE LETTER KAcXAcNGAcTSAcSAcYAcTAcTHAcLAcPAcPHAcMAcFAcVAcHAcQAcKHA
cTSHAcNAcAcIcEEcEHcUcOOcOcUEcEcAUEcAI:1970cTONE-2cTONE-3cTONE-4cTONE-5cTONE-6
:1A20aTHAM LETTER HIGH KAdKHAdKXAcLOW KAdKXAdKHAcNGAcHIGH CAdCHAcLOW CAdSAdCHAcNYAcRATAcHIGH RATHA
cDAcLOW RATHAcRANAcHIGH TAdTHAcLOW TAdTHAcNAcBAcHIGH PAdPHAdFAcLOW PAdFAdPHAcMAcLOW YAcHIGH YAcRA
cRUEcLAcLUEcWAcHIGH SHAdSSAdSAdHAcLLAcAcLOW HAcIcIIcUcUUcEEcOOcLAEcGREAT SA
bCONSONANT SIGN MEDIAL RAeLAdLA TANG LAIbSIGN MAI KANG LAIbCONSONANT SIGN FINAL NGAdLOW PA
dHIGH RATHA OR LOW PAdMAdBAdSA:1A60bSIGN SAKOTbVOWEL SIGN AdMAI SATdAAdTALL AAdIdIIdUEdUUEdUdUUdO
dOA BELOWdOYdEdAEdOOdAIdTHAM AIdOA ABOVEbSIGN MAI KANGcTONE-1cTONE-2cKHUEN TONE-3dTONE-4dTONE-5
cRA HAAMcMAI SAMcKHUEN-LUE KARAN:1A7FbCOMBINING CRYPTOGRAMMIC DOTbHORA DIGIT ZEROdONEdTWOdTHREE
dFOURdFIVEdSIXdSEVENdEIGHTdNINE:1A90bTHAM DIGIT ZEROdONEdTWOdTHREEdFOURdFIVEdSIXdSEVENdEIGHTdNINE
:1AA0bSIGN WIANGcWIANGWAAKcSAWANcKEOWcHOYcDOKMAIcREVERSED ROTATED RANAcMAI YAMOKcKAANcKAANKUU
cSATKAANcSATKAANKUUcHANGcCAANG:AA80aVIET LETTER LOW KOcHIGH KOcLOW KHOcHIGH KHOcLOW KHHOcHIGH KHHO
cLOW GOcHIGH GOcLOW NGOcHIGH NGOcLOW COcHIGH COcLOW CHOcHIGH CHOcLOW SOcHIGH SOcLOW NYOcHIGH NYO
cLOW DOcHIGH DOcLOW TOcHIGH TOcLOW THOcHIGH THOcLOW NOcHIGH NOcLOW BOcHIGH BOcLOW POcHIGH PO
cLOW PHOcHIGH PHOcLOW FOcHIGH FOcLOW MOcHIGH MOcLOW YOcHIGH YOcLOW ROcHIGH ROcLOW LOcHIGH LO
cLOW VOcHIGH VOcLOW HOcHIGH HOcLOW OcHIGH ObMAI KANGbVOWEL AAcIcUEcUcEcObMAI KHITbVOWEL IAcUEAcUA
cAUEcAYcANcAMbTONE MAI EKdNUENGdTHOdSONG:AADBbSYMBOL KONcNUENGcSAMcHO HOIcKOI KOI=cKEOUT:1F961aBOX
=dRI:11680aLETTER AbAAbIbIIbUbUUbEbAIbObAUbKAbKHAbGAbGHAbNGAbCAbCHAbJAbJHAbNYAbTTAbTTHAbDDAbDDHA
bNNAbTAbTHAbDAbDHAbNAbPAbPHAbBAbBHAbMAbYAbRAbLAbVAbSHAbSAbHAbRRAaSIGN ANUSVARAbVISARGA
aVOWEL SIGN AAcIcIIcUcUUcEcAIcOcAUaSIGN VIRAMAbNUKTAaLETTER ARCHAIC KHAaABBREVIATION SIGN
:116C0aDIGIT ZERObONEbTWObTHREEbFOURbFIVEbSIXbSEVENbEIGHTbNINE=cLLY:1D377aMARK ONEbFIVE
=cMALE:1FAD4a=dIL:B82aSIGN ANUSVARAbVISARGA:B85aLETTER AbAAbIbIIbUbUU:B8EbEbEEbAI:B92bObOObAUbKA
:B99bNGAbCA:B9CbJA:B9EbNYAbTTA:BA3bNNAbTA:BA8bNAbNNNAbPA:BAEbMAbYAbRAbRRAbLAbLLAbLLLAbVAbSHAbSSA
bSAbHA:BBEaVOWEL SIGN AAcIcIIcUcUU:BC6cEcEEcAI:BCAcOcOOcAUaSIGN VIRAMA:BD0aOM:BD7aAU LENGTH MARK
:BE6aDIGIT ZERObONEbTWObTHREEbFOURbFIVEbSIXbSEVENbEIGHTbNINEaNUMBER TENbONE HUNDREDcTHOUSAND
aDAY SIGNaMONTH SIGNaYEAR SIGNaDEBIT SIGNaCREDIT SIGNaAS ABOVE SIGNaRUPEE SIGNaNUMBER SIGN
:11FC0aFRACTION ONE THREE-HUNDRED-AND-TWENTIETHcONE-HUNDRED-AND-SIXTIETHcEIGHTIETHcSIXTY-FOURTH
cFORTIETHcTHIRTY-SECONDbTHREE EIGHTIETHScSIXTY-FOURTHSbONE TWENTIETHcSIXTEENTH-1cSIXTEENTH-2cTENTH
cEIGHTHbTHREE TWENTIETHScSIXTEENTHSbONE FIFTHcQUARTERcHALF-1cHALF-2bTHREE QUARTERS
bDOWNSCALING FACTOR KIIZHaSIGN NELbCEVITUbAAZHAAKKUbUZHAKKUbMUUVUZHAKKUbKURUNIbPATHAKKUbMUKKURUNI
bKAACUbPANAMbPONbVARAAKANbPAARAMbKUZHIbVELIaWET CULTIVATION SIGNaDRY CULTIVATION SIGNaLAND SIGN
aSALT PAN SIGNaTRADITIONAL CREDIT SIGNbNUMBER SIGNaCURRENT SIGNaAND ODD SIGNaSPENT SIGNaTOTAL SIGN
aIN POSSESSION SIGNaSTARTING FROM SIGNaSIGN MUTHALIYAbVAKAIYARAA:11FFFaPUNCTUATION END OF TEXT
=cNABATA:1F38BaTREE=dGERINE:1F34Aa=eSA:16A70aLETTER OZbOCbOQbOXbAZbACbAQbAXbVZbVCbVQbVXbEZbECbEQ
bEXbIZbICbIQbIXbUZbUCbUQbUXbAWZbAWCbAWQbAWXbUIZbUICbUIQbUIXbFINAL NGbLONG UEXbSHORT UEZcAWXbUEC
bUEZbUEQbUEXbUIUZbUIUCbUIUQbUIUXbMZbMCbMQbMXbKAbKHAbGAbNGAbSAbYAbWAbPAbNYAbPHAbBAbMAbNAbHAbLAbHTA
bTAbDAbRAbNHAbSHAbCAbTSAbGHAbHTTAbTHAbXAbFAbDHAbCHAbZA:16AC0aDIGIT ZERObONEbTWObTHREEbFOURbFIVE
bSIXbSEVENbEIGHTbNINE=eUT:16FE0aITERATION MARK:18800aCOMPONENT-001aCOMPONENT-002aCOMPONENT-003
aCOMPONENT-004aCOMPONENT-005aCOMPONENT-006aCOMPONENT-007aCOMPONENT-008aCOMPONENT-009aCOMPONENT-010
aCOMPONENT-011aCOMPONENT-012aCOMPONENT-013aCOMPONENT-014aCOMPONENT-015aCOMPONENT-016aCOMPONENT-017
aCOMPONENT-018aCOMPONENT-019aCOMPONENT-020aCOMPONENT-021aCOMPONENT-022aCOMPONENT-023aCOMPONENT-024
aCOMPONENT-025aCOMPONENT-026aCOMPONENT-027aCOMPONENT-028aCOMPONENT-029aCOMPONENT-030aCOMPONENT-031
aCOMPONENT-032aCOMPONENT-033aCOMPONENT-034aCOMPONENT-035aCOMPONENT-036aCOMPONENT-037aCOMPONENT-038
aCOMPONENT-039aCOMPONENT-040aCOMPONENT-041aCOMPONENT-042aCOMPONENT-043aCOMPONENT-044aCOMPONENT-045
aCOMPONENT-046aCOMPONENT-047aCOMPONENT-048aCOMPONENT-049aCOMPONENT-050aCOMPONENT-051aCOMPONENT-052
aCOMPONENT-053aCOMPONENT-054aCOMPONENT-055aCOMPONENT-056aCOMPONENT-057aCOMPONENT-058aCOMPONENT-059
aCOMPONENT-060aCOMPONENT-061aCOMPONENT-062aCOMPONENT-063aCOMPONENT-064aCOMPONENT-065aCOMPONENT-066
aCOMPONENT-067aCOMPONENT-068aCOMPONENT-069aCOMPONENT-070aCOMPONENT-071aCOMPONENT-072aCOMPONENT-073
aCOMPONENT-074aCOMPONENT-075aCOMPONENT-076aCOMPONENT-077aCOMPONENT-078aCOMPONENT-079aCOMPONENT-080
aCOMPONENT-081aCOMPONENT-082aCOMPONENT-083aCOMPONENT-084aCOMPONENT-085aCOMPONENT-086aCOMPONENT-087
aCOMPONENT-088aCOMPONENT-089aCOMPONENT-090aCOMPONENT-091aCOMPONENT-092aCOMPONENT-093aCOMPONENT-094
aCOMPONENT-095aCOMPONENT-096aCOMPONENT-097aCOMPONENT-098aCOMPONENT-099aCOMPONENT-100aCOMPONENT-101
aCOMPONENT-102aCOMPONENT-103aCOMPONENT-104aCOMPONENT-105aCOMPONENT-106aCOMPONENT-107aCOMPONENT-108
aCOMPONENT-109aCOMPONENT-110aCOMPONENT-111aCOMPONENT-112aCOMPONENT-113aCOMPONENT-114aCOMPONENT-115
aCOMPONENT-116aCOMPONENT-117aCOMPONENT-118aCOMPONENT-119aCOMPONENT-120aCOMPONENT-121aCOMPONENT-122
aCOMPONENT-123aCOMPONENT-124aCOMPONENT-125aCOMPONENT-126aCOMPONENT-127aCOMPONENT-128aCOMPONENT-129
aCOMPONENT-130aCOMPONENT-131aCOMPONENT-132aCOMPONENT-133aCOMPONENT-134aCOMPONENT-135aCOMPONENT-136
aCOMPONENT-137aCOMPONENT-138aCOMPONENT-139aCOMPONENT-140aCOMPONENT-141aCOMPONENT-142aCOMPONENT-143
aCOMPONENT-144aCOMPONENT-145aCOMPONENT-146aCOMPONENT-147aCOMPONENT-148aCOMPONENT-149aCOMPONENT-150
aCOMPONENT-151aCOMPONENT-152aCOMPONENT-153aCOMPONENT-154aCOMPONENT-155aCOMPONENT-156aCOMPONENT-157
aCOMPONENT-158aCOMPONENT-159aCOMPONENT-160aCOMPONENT-161aCOMPONENT-162aCOMPONENT-163aCOMPONENT-164
aCOMPONENT-165aCOMPONENT-166aCOMPONENT-167aCOMPONENT-168aCOMPONENT-169aCOMPONENT-170aCOMPONENT-171
aCOMPONENT-172aCOMPONENT-173aCOMPONENT-174aCOMPONENT-175aCOMPONENT-176aCOMPONENT-177aCOMPONENT-178
aCOMPONENT-179aCOMPONENT-180aCOMPONENT-181aCOMPONENT-182aCOMPONENT-183aCOMPONENT-184aCOMPONENT-185
aCOMPONENT-186aCOMPONENT-187aCOMPONENT-188aCOMPONENT-189aCOMPONENT-190aCOMPONENT-191aCOMPONENT-192
aCOMPONENT-193aCOMPONENT-194aCOMPONENT-195aCOMPONENT-196aCOMPONENT-197aCOMPONENT-198aCOMPONENT-199
aCOMPONENT-200aCOMPONENT-201aCOMPONENT-202aCOMPONENT-203aCOMPONENT-204aCOMPONENT-205aCOMPONENT-206
aCOMPONENT-207aCOMPONENT-208aCOMPONENT-209aCOMPONENT-210aCOMPONENT-211aCOMPONENT-212aCOMPONENT-213
aCOMPONENT-214aCOMPONENT-215aCOMPONENT-216aCOMPONENT-217aCOMPONENT-218aCOMPONENT-219aCOMPONENT-220
aCOMPONENT-221aCOMPONENT-222aCOMPONENT-223aCOMPONENT-224aCOMPONENT-225aCOMPONENT-226aCOMPONENT-227
aCOMPONENT-228aCOMPONENT-229aCOMPONENT-230aCOMPONENT-231aCOMPONENT-232aCOMPONENT-233aCOMPONENT-234
aCOMPONENT-235aCOMPONENT-236aCOMPONENT-237aCOMPONENT-238aCOMPONENT-239aCOMPONENT-240aCOMPONENT-241
aCOMPONENT-242aCOMPONENT-243aCOMPONENT-244aCOMPONENT-245aCOMPONENT-246aCOMPONENT-247aCOMPONENT-248
aCOMPONENT-249aCOMPONENT-250aCOMPONENT-251aCOMPONENT-252aCOMPONENT-253aCOMPONENT-254aCOMPONENT-255
aCOMPONENT-256aCOMPONENT-257aCOMPONENT-258aCOMPONENT-259aCOMPONENT-260aCOMPONENT-261aCOMPONENT-262
aCOMPONENT-263aCOMPONENT-264aCOMPONENT-265aCOMPONENT-266aCOMPONENT-267aCOMPONENT-268aCOMPONENT-269
aCOMPONENT-270aCOMPONENT-271aCOMPONENT-272aCOMPONENT-273aCOMPONENT-274aCOMPONENT-275aCOMPONENT-276
aCOMPONENT-277aCOMPONENT-278aCOMPONENT-279aCOMPONENT-280aCOMPONENT-281aCOMPONENT-282aCOMPONENT-283
aCOMPONENT-284aCOMPONENT-285aCOMPONENT-286aCOMPONENT-287aCOMPONENT-288aCOMPONENT-289aCOMPONENT-290
aCOMPONENT-291aCOMPONENT-292aCOMPONENT-293aCOMPONENT-294aCOMPONENT-295aCOMPONENT-296aCOMPONENT-297
aCOMPONENT-298aCOMPONENT-299aCOMPONENT-300aCOMPONENT-301aCOMPONENT-302aCOMPONENT-303aCOMPONENT-304
aCOMPONENT-305aCOMPONENT-306aCOMPONENT-307aCOMPONENT-308aCOMPONENT-309aCOMPONENT-310aCOMPONENT-311
aCOMPONENT-312aCOMPONENT-313aCOMPONENT-314aCOMPONENT-315aCOMPONENT-316aCOMPONENT-317aCOMPONENT-318
aCOMPONENT-319aCOMPONENT-320aCOMPONENT-321aCOMPONENT-322aCOMPONENT-323aCOMPONENT-324aCOMPONENT-325
aCOMPONENT-326aCOMPONENT-327aCOMPONENT-328aCOMPONENT-329aCOMPONENT-330aCOMPONENT-331aCOMPONENT-332
aCOMPONENT-333aCOMPONENT-334aCOMPONENT-335aCOMPONENT-336aCOMPONENT-337aCOMPONENT-338aCOMPONENT-339
aCOMPONENT-340aCOMPONENT-341aCOMPONENT-342aCOMPONENT-343aCOMPONENT-344aCOMPONENT-345aCOMPONENT-346
aCOMPONENT-347aCOMPONENT-348aCOMPONENT-349aCOMPONENT-350aCOMPONENT-351aCOMPONENT-352aCOMPONENT-353
aCOMPONENT-354aCOMPONENT-355aCOMPONENT-356aCOMPONENT-357aCOMPONENT-358aCOMPONENT-359aCOMPONENT-360
aCOMPONENT-361aCOMPONENT-362aCOMPONENT-363aCOMPONENT-364aCOMPONENT-365aCOMPONENT-366aCOMPONENT-367
aCOMPONENT-368aCOMPONENT-369aCOMPONENT-370aCOMPONENT-371aCOMPONENT-372aCOMPONENT-373aCOMPONENT-374
aCOMPONENT-375aCOMPONENT-376aCOMPONENT-377aCOMPONENT-378aCOMPONENT-379aCOMPONENT-380aCOMPONENT-381
aCOMPONENT-382aCOMPONENT-383aCOMPONENT-384aCOMPONENT-385aCOMPONENT-386aCOMPONENT-387aCOMPONENT-388
aCOMPONENT-389aCOMPONENT-390aCOMPONENT-391aCOMPONENT-392aCOMPONENT-393aCOMPONENT-394aCOMPONENT-395
aCOMPONENT-396aCOMPONENT-397aCOMPONENT-398aCOMPONENT-399aCOMPONENT-400aCOMPONENT-401aCOMPONENT-402
aCOMPONENT-403aCOMPONENT-404aCOMPONENT-405aCOMPONENT-406aCOMPONENT-407aCOMPONENT-408aCOMPONENT-409
aCOMPONENT-410aCOMPONENT-411aCOMPONENT-412aCOMPONENT-413aCOMPONENT-414aCOMPONENT-415aCOMPONENT-416
aCOMPONENT-417aCOMPONENT-418aCOMPONENT-419aCOMPONENT-420aCOMPONENT-421aCOMPONENT-422aCOMPONENT-423
aCOMPONENT-424aCOMPONENT-425aCOMPONENT-426aCOMPONENT-427aCOMPONENT-428aCOMPONENT-429aCOMPONENT-430
aCOMPONENT-431aCOMPONENT-432aCOMPONENT-433aCOMPONENT-434aCOMPONENT-435aCOMPONENT-436aCOMPONENT-437
aCOMPONENT-438aCOMPONENT-439aCOMPONENT-440aCOMPONENT-441aCOMPONENT-442aCOMPONENT-443aCOMPONENT-444
aCOMPONENT-445aCOMPONENT-446aCOMPONENT-447aCOMPONENT-448aCOMPONENT-449aCOMPONENT-450aCOMPONENT-451
aCOMPONENT-452aCOMPONENT-453aCOMPONENT-454aCOMPONENT-455aCOMPONENT-456aCOMPONENT-457aCOMPONENT-458
aCOMPONENT-459aCOMPONENT-460aCOMPONENT-461aCOMPONENT-462aCOMPONENT-463aCOMPONENT-464aCOMPONENT-465
aCOMPONENT-466aCOMPONENT-467aCOMPONENT-468aCOMPONENT-469aCOMPONENT-470aCOMPONENT-471aCOMPONENT-472
aCOMPONENT-473aCOMPONENT-474aCOMPONENT-475aCOMPONENT-476aCOMPONENT-477aCOMPONENT-478aCOMPONENT-479
aCOMPONENT-480aCOMPONENT-481aCOMPONENT-482aCOMPONENT-483aCOMPONENT-484aCOMPONENT-485aCOMPONENT-486
aCOMPONENT-487aCOMPONENT-488aCOMPONENT-489aCOMPONENT-490aCOMPONENT-491aCOMPONENT-492aCOMPONENT-493
aCOMPONENT-494aCOMPONENT-495aCOMPONENT-496aCOMPONENT-497aCOMPONENT-498aCOMPONENT-499aCOMPONENT-500
aCOMPONENT-501aCOMPONENT-502aCOMPONENT-503aCOMPONENT-504aCOMPONENT-505aCOMPONENT-506aCOMPONENT-507
aCOMPONENT-508aCOMPONENT-509aCOMPONENT-510aCOMPONENT-511aCOMPONENT-512aCOMPONENT-513aCOMPONENT-514
aCOMPONENT-515aCOMPONENT-516aCOMPONENT-517aCOMPONENT-518aCOMPONENT-519aCOMPONENT-520aCOMPONENT-521
aCOMPONENT-522aCOMPONENT-523aCOMPONENT-524aCOMPONENT-525aCOMPONENT-526aCOMPONENT-527aCOMPONENT-528
aCOMPONENT-529aCOMPONENT-530aCOMPONENT-531aCOMPONENT-532aCOMPONENT-533aCOMPONENT-534aCOMPONENT-535
aCOMPONENT-536aCOMPONENT-537aCOMPONENT-538aCOMPONENT-539aCOMPONENT-540aCOMPONENT-541aCOMPONENT-542
aCOMPONENT-543aCOMPONENT-544aCOMPONENT-545aCOMPONENT-546aCOMPONENT-547aCOMPONENT-548aCOMPONENT-549
aCOMPONENT-550aCOMPONENT-551aCOMPONENT-552aCOMPONENT-553aCOMPONENT-554aCOMPONENT-555aCOMPONENT-556
aCOMPONENT-557aCOMPONENT-558aCOMPONENT-559aCOMPONENT-560aCOMPONENT-561aCOMPONENT-562aCOMPONENT-563
aCOMPONENT-564aCOMPONENT-565aCOMPONENT-566aCOMPONENT-567aCOMPONENT-568aCOMPONENT-569aCOMPONENT-570
aCOMPONENT-571aCOMPONENT-572aCOMPONENT-573aCOMPONENT-574aCOMPONENT-575aCOMPONENT-576aCOMPONENT-577
aCOMPONENT-578aCOMPONENT-579aCOMPONENT-580aCOMPONENT-581aCOMPONENT-582aCOMPONENT-583aCOMPONENT-584
aCOMPONENT-585aCOMPONENT-586aCOMPONENT-587aCOMPONENT-588aCOMPONENT-589aCOMPONENT-590aCOMPONENT-591
aCOMPONENT-592aCOMPONENT-593aCOMPONENT-594aCOMPONENT-595aCOMPONENT-596aCOMPONENT-597aCOMPONENT-598
aCOMPONENT-599aCOMPONENT-600aCOMPONENT-601aCOMPONENT-602aCOMPONENT-603aCOMPONENT-604aCOMPONENT-605
aCOMPONENT-606aCOMPONENT-607aCOMPONENT-608aCOMPONENT-609aCOMPONENT-610aCOMPONENT-611aCOMPONENT-612
aCOMPONENT-613aCOMPONENT-614aCOMPONENT-615aCOMPONENT-616aCOMPONENT-617aCOMPONENT-618aCOMPONENT-619
aCOMPONENT-620aCOMPONENT-621aCOMPONENT-622aCOMPONENT-623aCOMPONENT-624aCOMPONENT-625aCOMPONENT-626
aCOMPONENT-627aCOMPONENT-628aCOMPONENT-629aCOMPONENT-630aCOMPONENT-631aCOMPONENT-632aCOMPONENT-633
aCOMPONENT-634aCOMPONENT-635aCOMPONENT-636aCOMPONENT-637aCOMPONENT-638aCOMPONENT-639aCOMPONENT-640
aCOMPONENT-641aCOMPONENT-642aCOMPONENT-643aCOMPONENT-644aCOMPONENT-645aCOMPONENT-646aCOMPONENT-647
aCOMPONENT-648aCOMPONENT-649aCOMPONENT-650aCOMPONENT-651aCOMPONENT-652aCOMPONENT-653aCOMPONENT-654
aCOMPONENT-655aCOMPONENT-656aCOMPONENT-657aCOMPONENT-658aCOMPONENT-659aCOMPONENT-660aCOMPONENT-661
aCOMPONENT-662aCOMPONENT-663aCOMPONENT-664aCOMPONENT-665aCOMPONENT-666aCOMPONENT-667aCOMPONENT-668
aCOMPONENT-669aCOMPONENT-670aCOMPONENT-671aCOMPONENT-672aCOMPONENT-673aCOMPONENT-674aCOMPONENT-675
aCOMPONENT-676aCOMPONENT-677aCOMPONENT-678aCOMPONENT-679aCOMPONENT-680aCOMPONENT-681aCOMPONENT-682
aCOMPONENT-683aCOMPONENT-684aCOMPONENT-685aCOMPONENT-686aCOMPONENT-687aCOMPONENT-688aCOMPONENT-689
aCOMPONENT-690aCOMPONENT-691aCOMPONENT-692aCOMPONENT-693aCOMPONENT-694aCOMPONENT-695aCOMPONENT-696
aCOMPONENT-697aCOMPONENT-698aCOMPONENT-699aCOMPONENT-700aCOMPONENT-701aCOMPONENT-702aCOMPONENT-703
aCOMPONENT-704aCOMPONENT-705aCOMPONENT-706aCOMPONENT-707aCOMPONENT-708aCOMPONENT-709aCOMPONENT-710
aCOMPONENT-711aCOMPONENT-712aCOMPONENT-713aCOMPONENT-714aCOMPONENT-715aCOMPONENT-716aCOMPONENT-717
aCOMPONENT-718aCOMPONENT-719aCOMPONENT-720aCOMPONENT-721aCOMPONENT-722aCOMPONENT-723aCOMPONENT-724
aCOMPONENT-725aCOMPONENT-726aCOMPONENT-727aCOMPONENT-728aCOMPONENT-729aCOMPONENT-730aCOMPONENT-731
aCOMPONENT-732aCOMPONENT-733aCOMPONENT-734aCOMPONENT-735aCOMPONENT-736aCOMPONENT-737aCOMPONENT-738
aCOMPONENT-739aCOMPONENT-740aCOMPONENT-741aCOMPONENT-742aCOMPONENT-743aCOMPONENT-744aCOMPONENT-745
aCOMPONENT-746aCOMPONENT-747aCOMPONENT-748aCOMPONENT-749aCOMPONENT-750aCOMPONENT-751aCOMPONENT-752
aCOMPONENT-753aCOMPONENT-754aCOMPONENT-755aCOMPONENT-756aCOMPONENT-757aCOMPONENT-758aCOMPONENT-759
aCOMPONENT-760aCOMPONENT-761aCOMPONENT-762aCOMPONENT-763aCOMPONENT-764aCOMPONENT-765aCOMPONENT-766
aCOMPONENT-767aCOMPONENT-768=cPE:2707aDRIVE:1F5ADaCARTRIDGE=cURUS:2649a=cXI:1F695a
=bEACUP:1F375aWITHOUT HANDLE=dPOT:1FAD6a=dR-OFF:1F4C6aCALENDAR=eDROP-BARBED:27BAaRIGHTWARDS ARROW
=jSPOKED:273BaASTERISK=cDDY:1F9F8aBEAR=cLEPHONE:2121aSIGN:2315aRECORDER:2706aLOCATION SIGN
:1F4DEaRECEIVER:1F57CbWITH PAGE:1F580aON TOP OF MODEM=eSCOPE:1F52Da=eVISION:1F4FAa
=dUGU:C00aSIGN COMBINING CANDRABINDU ABOVEbCANDRABINDUbANUSVARAbVISARGAbCOMBINING ANUSVARA ABOVE
aLETTER AbAAbIbIIbUbUUbVOCALIC RcL:C0EbEbEEbAI:C12bObOObAUbKAbKHAbGAbGHAbNGAbCAbCHAbJAbJHAbNYAbTTA
bTTHAbDDAbDDHAbNNAbTAbTHAbDAbDHAbNA:C2AbPAbPHAbBAbBHAbMAbYAbRAbRRAbLAbLLAbLLLAbVAbSHAbSSAbSAbHA
:C3CaSIGN NUKTAbAVAGRAHAaVOWEL SIGN AAcIcIIcUcUUcVOCALIC RdRR:C46cEcEEcAI:C4AcOcOOcAUaSIGN VIRAMA
:C55aLENGTH MARKaAI LENGTH MARK:C58aLETTER TSAbDZAbRRRA:C5DbNAKAARA POLLU:C60bVOCALIC RRcLL
aVOWEL SIGN VOCALIC LdLL:C66aDIGIT ZERObONEbTWObTHREEbFOURbFIVEbSIXbSEVENbEIGHTbNINE
:C77aSIGN SIDDHAMaFRACTION DIGIT ZERO FOR ODD POWERS OF FOURcONE FOR ODD POWERS OF FOUR
cTWO FOR ODD POWERS OF FOURcTHREE FOR ODD POWERS OF FOURcONE FOR EVEN POWERS OF FOUR
cTWO FOR EVEN POWERS OF FOURcTHREE FOR EVEN POWERS OF FOURaSIGN TUUMU=cNGE:20B8aSIGN
=dNIS:1F3BEaRACQUET AND BALL=dT:26FAa=cST:1F9EAaTUBE=cTRAGRAM:1D306aFOR CENTREbFULL CIRCLEbMIRED
bBARRIERbKEEPING SMALLbCONTRARIETYbASCENTbOPPOSITIONbBRANCHING OUTbDEFECTIVENESS OR DISTORTION
bDIVERGENCEbYOUTHFULNESSbINCREASEbPENETRATIONbREACHbCONTACTbHOLDING BACKbWAITINGbFOLLOWINGbADVANCE
bRELEASEbRESISTANCEbEASEbJOYbCONTENTIONbENDEAVOURbDUTIESbCHANGEbDECISIVENESSbBOLD RESOLUTION
bPACKINGbLEGIONbCLOSENESSbKINSHIPbGATHERINGbSTRENGTHbPURITYbFULLNESSbRESIDENCEbLAW OR MODEL
bRESPONSEbGOING TO MEETbENCOUNTERSbSTOVEbGREATNESSbENLARGEMENTbPATTERNbRITUALbFLIGHT
bVASTNESS OR WASTINGbCONSTANCYbMEASUREbETERNITYbUNITYbDIMINISHMENTbCLOSED MOUTHbGUARDEDNESS
bGATHERING INbMASSINGbACCUMULATIONbEMBELLISHMENTbDOUBTbWATCHbSINKINGbINNERbDEPARTUREbDARKENING
bDIMMINGbEXHAUSTIONbSEVERANCEbSTOPPAGEbHARDNESSbCOMPLETIONbCLOSUREbFAILUREbAGGRAVATIONbCOMPLIANCE
bON THE VERGEbDIFFICULTIESbLABOURINGbFOSTERING=bHAANA:780aLETTER HAAbSHAVIYANIbNOONUbRAAbBAA
bLHAVIYANIbKAAFUbALIFUbVAAVUbMEEMUbFAAFUbDHAALUbTHAAbLAAMUbGAAFUbGNAVIYANIbSEENUbDAVIYANIbZAVIYANI
bTAVIYANIbYAAbPAVIYANIbJAVIYANIbCHAVIYANIbTTAAbHHAAbKHAAbTHAALUbZAAbSHEENUbSAADHUbDAADHUbTObZO
bAINUbGHAINUbQAAFUbWAAVUaABAFILIaAABAAFILIaIBIFILIaEEBEEFILIaUBUFILIaOOBOOFILIaEBEFILIaEYBEYFILI
aOBOFILIaOABOAFILIaSUKUNaLETTER NAA=dI:E01aCHARACTER KO KAIbKHO KHAIcKHUATcKHWAIcKHONcRAKHANG
bNGO NGUbCHO CHANcCHINGcCHANGbSO SObCHO CHOEbYO YINGbDO CHADAbTO PATAKbTHO THANcNANGMONTHOcPHUTHAO
bNO NENbDO DEKbTO TAObTHO THUNGcTHAHANcTHONGbNO NUbBO BAIMAIbPO PLAbPHO PHUNGbFO FAbPHO PHAN
bFO FANbPHO SAMPHAObMO MAbYO YAKbRO RUAbRUbLO LINGbLUbWO WAENbSO SALAcRUSIcSUAbHO HIPbLO CHULA
bO ANGbHO NOKHUKbPAIYANNOIbSARA AbMAI HAN-AKATbSARA AAcAMcIcIIcUEcUEEcUcUUbPHINTHU
:E3FaCURRENCY SYMBOL BAHTaCHARACTER SARA EcAEcOcAI MAIMUANdMAIMALAIbLAKKHANGYAObMAIYAMOKbMAITAIKHU
bMAI EKcTHOcTRIcCHATTAWAbTHANTHAKHATbNIKHAHITbYAMAKKANbFONGMANaDIGIT ZERObONEbTWObTHREEbFOURbFIVE
bSIXbSEVENbEIGHTbNINEaCHARACTER ANGKHANKHUbKHOMUT=cERE:2203aEXISTSaDOES NOT EXIST=fFORE:2234a
=eMODYNAMIC:29E7a=gMETER:1F321a=cIN:2009aSPACE:1F7A1aGREEK CROSS:1F7A8aSALTIRE=eKING:1F914aFACE
=dRD:1F949aPLACE MEDAL=cONG:1FA74aSANDAL=dUGHT:1F4ADaBALLOON=cREE:2056aDOT PUNCTUATION
:21F6aRIGHTWARDS ARROWS:269EaLINES CONVERGING RIGHTcLEFT:27C0aDIMENSIONAL ANGLE
:2A76aCONSECUTIVE EQUALS SIGNS:2B31aLEFTWARDS ARROWS:1F5A7aNETWORKED COMPUTERS:1F5B1aBUTTON MOUSE
:1F5E4aRAYS ABOVEbBELOWbLEFTbRIGHT:1F5EBaSPEECH BUBBLES:1F7C2aPOINTED BLACK STAR
=f-D:27A2aTOP-LIGHTED RIGHTWARDS ARROWHEADaBOTTOM-LIGHTED RIGHTWARDS ARROWHEAD
:2B98aTOP-LIGHTED LEFTWARDS EQUILATERAL ARROWHEADaRIGHT-LIGHTED UPWARDS EQUILATERAL ARROWHEAD
aTOP-LIGHTED RIGHTWARDS EQUILATERAL ARROWHEADaLEFT-LIGHTED DOWNWARDS EQUILATERAL ARROWHEAD
=gEM:2E3BaDASH=gPER-EM:2004aSPACE=cUMBS:1F44DaUP SIGNaDOWN SIGN=dNDER:26C8aCLOUD AND RAIN
=hSTORM:2608a=bIBETAN:F00aSYLLABLE OMaMARK GTER YIG MGO TRUNCATED Ae-UM RNAM BCAD MAfGTER TSHEG MA
bINITIAL YIG MGO MDUN MAbCLOSING YIG MGO SGAB MAbCARET YIG MGO PHUR SHAD MAbYIG MGO TSHEG SHAD MA
bSBRUL SHADbBSKUR YIG MGObBKA- SHOG YIG MGObINTERSYLLABIC TSHEGbDELIMITER TSHEG BSTARbSHAD
bNYIS SHADbTSHEG SHADbNYIS TSHEG SHADbRIN CHEN SPUNGS SHADbRGYA GRAM SHAD
bCARET -DZUD RTAGS ME LONG CANbGTER TSHEGaLOGOTYPE SIGN CHAD RTAGScLHAG RTAGS
aASTROLOGICAL SIGN SGRA GCAN -CHAR RTAGSc-KHYUD PAcSDONG TSHUGSaSIGN RDEL DKAR GCIGdGNYISdGSUM
cNAG GCIGdGNYIScDKAR RDEL NAGaDIGIT ZERObONEbTWObTHREEbFOURbFIVEbSIXbSEVENbEIGHTbNINEbHALF ONEcTWO
cTHREEcFOURcFIVEcSIXcSEVENcEIGHTcNINEcZEROaMARK BSDUS RTAGSbNGAS BZUNG NYI ZLA
bCARET -DZUD RTAGS BZHI MIG CANbNGAS BZUNG SGOR RTAGSbCHE MGObTSA -PHRUbGUG RTAGS GYONdGYAS
bANG KHANG GYONdGYASaSIGN YAR TSHESbMAR TSHESaLETTER KAbKHAbGAbGHAbNGAbCAbCHAbJA:F49bNYAbTTAbTTHA
bDDAbDDHAbNNAbTAbTHAbDAbDHAbNAbPAbPHAbBAbBHAbMAbTSAbTSHAbDZAbDZHAbWAbZHAbZAb-AbYAbRAbLAbSHAbSSAbSA
bHAbAbKSSAbFIXED-FORM RAbKKAbRRA:F71aVOWEL SIGN AAcIcIIcUcUUcVOCALIC RdRRdLdLLcEcEEcOcOO
aSIGN RJES SU NGA RObRNAM BCADaVOWEL SIGN REVERSED IdIIaSIGN NYI ZLA NAA DAbSNA LDANaMARK HALANTA
bPALUTAaSIGN LCI RTAGSbYANG RTAGSbLCE TSA CANbMCHU CANbGRU CAN RGYINGScMED RGYINGS
bINVERTED MCHU CANaSUBJOINED SIGN LCE TSA CANcMCHU CANcINVERTED MCHU CANbLETTER KAcKHAcGAcGHAcNGA
cCAcCHAcJA:F99cNYAcTTAcTTHAcDDAcDDHAcNNAcTAcTHAcDAcDHAcNAcPAcPHAcBAcBHAcMAcTSAcTSHAcDZAcDZHAcWA
cZHAcZAc-AcYAcRAcLAcSHAcSSAcSAcHAcAcKSSAcFIXED-FORM WAdYAdRA:FBEaKU RU KHAdBZHI MIG CAN
aCANTILLATION SIGN HEAVY BEATcLIGHT BEATcCANG TE-UcSBUB -CHALaSYMBOL DRIL BUbRDO RJEbPADMA GDAN
bRDO RJE RGYA GRAMbPHUR PAbNOR BUdNYIS -KHYILdGSUM -KHYILdBZHI -KHYIL:FCEaSIGN RDEL NAG RDEL DKAR
dGSUMaMARK BKA- SHOG GI MGO RGYAN:FD0bBSKA- SHOG GI MGO RGYANbMNYAM YIG GI MGO RGYANbNYIS TSHEG
bINITIAL BRDA RNYING YIG MGO MDUN MAbCLOSING BRDA RNYING YIG MGO SGAB MA:FD9bLEADING MCHAN RTAGS
bTRAILING MCHAN RTAGS=cCKET:1F3ABa=cE:29DDaOVER INFINITY=cFINAGH:2D30aLETTER YAbYABbYABHbYAGbYAGHH
bBERBER ACADEMY YAJbYAJbYADbYADHbYADDbYADDHbYEYbYAFbYAKbTUAREG YAKbYAKHHbYAHbBERBER ACADEMY YAH
bTUAREG YAHbYAHHbYAAbYAKHbTUAREG YAKHbYAQbTUAREG YAQbYIbYAZHbAHAGGAR YAZHbTUAREG YAZHbYALbYAMbYAN
bTUAREG YAGNcYANGbYAPbYUbYARbYARRbYAGHbTUAREG YAGHbAYER YAGHbYASbYASSbYASHbYATbYATHbYACHbYATTbYAV
bYAWbYAYbYAZbTAWELLEMET YAZbYAZZbYEbYO:2D6FaMODIFIER LETTER LABIALIZATION MARKaSEPARATOR MARK
:2D7FaCONSONANT JOINER=cGER:1F405a:1F42FaFACE=dHT:2745aTRIFOLIATE SNOWFLAKE=cLDE:7Ea:223CaOPERATOR
:2972bABOVE RIGHTWARDS ARROW:2A6AbWITH DOT ABOVEcRISING DOTS:2B49bABOVE LEFTWARDS ARROW
:2E1BaWITH RING ABOVE:2E1EbDOT ABOVEcBELOW=cMER:23F2aCLOCK=eS:29D4aWITH LEFT HALF BLACK
bRIGHT HALF BLACK=cNY:29FEa:10B3AaTWO DOTS OVER ONE DOT PUNCTUATION=cRED:1F62BaFACE
=dHUTA:11480aANJIaLETTER AbAAbIbIIbUbUUbVOCALIC RcRRcLcLLbEbAIbObAUbKAbKHAbGAbGHAbNGAbCAbCHAbJA
bJHAbNYAbTTAbTTHAbDDAbDDHAbNNAbTAbTHAbDAbDHAbNAbPAbPHAbBAbBHAbMAbYAbRAbLAbVAbSHAbSSAbSAbHA
aVOWEL SIGN AAcIcIIcUcUUcVOCALIC RdRRdLdLLcEcSHORT EcAIcOcSHORT OcAUaSIGN CANDRABINDUbANUSVARA
bVISARGAbVIRAMAbNUKTAbAVAGRAHAaGVANGaABBREVIATION SIGNaOM:114D0aDIGIT ZERObONEbTWObTHREEbFOURbFIVE
bSIXbSEVENbEIGHTbNINE=dONIAN:204AaSIGN ET:2E52bCAPITAL ET=bOILET:1F6BDa=cKYO:1F5FCaTOWER
=cMATO:1F345a=cNGUE:1F445a=cOLBOX:1F9F0a=dTH:1F9B7a=fBRUSH:1FAA5a=cP:230EaRIGHT CROPaLEFT CROP
:231CbCORNERaRIGHT CORNER:2320aHALF INTEGRAL:23B4aSQUARE BRACKET:23DCaPARENTHESIS
:23DEaCURLY BRACKET:23E0aTORTOISE SHELL BRACKET:293AaARC ANTICLOCKWISE ARROW
:293CbCLOCKWISE ARROW WITH MINUSbANTICLOCKWISE ARROW WITH PLUS:2BCAaHALF BLACK CIRCLE
:2E22aLEFT HALF BRACKETaRIGHT HALF BRACKET:2E39aHALF SECTION SIGN:2E59bLEFT PARENTHESIS
bRIGHT PARENTHESIS:1F3A9aHAT:1F51DaWITH UPWARDS ARROW ABOVE
=cRTOISE:1F12AaSHELL BRACKETED LATIN CAPITAL LETTER S:1F240cCJK UNIFIED IDEOGRAPH-672C
eIDEOGRAPH-4E09eIDEOGRAPH-4E8CeIDEOGRAPH-5B89eIDEOGRAPH-70B9eIDEOGRAPH-6253eIDEOGRAPH-76D7
eIDEOGRAPH-52DDeIDEOGRAPH-6557=cTAL:2330aRUNOUT=dO:1E290aLETTER PAbBAbTAbDAbKAbGAbMAbNAbNGAbSAbCHA
bYAbWAbJAbHAbRAbLAbIbBREATHY IbIUbBREATHY IUbUbEbBREATHY EbEObBREATHY EObObAEbBREATHY AEbA
aSIGN RISING TONE=bRACKBALL:1F5B2a=eTOR:1F69Ca=dDE:2122aMARK SIGN=dIN:1F686a=dM:1F68AaaCAR
=dNSPLUTO:2BD7a=fVERSAL:2ADBaINTERSECTION=cIANGLE:29CAaWITH DOT ABOVEbUNDERBAR
:29CDbSERIFS AT BOTTOM:1F6C6bROUNDED CORNERS=i-HEADED:279DaRIGHTWARDS ARROW=gULAR:2023aBULLET
:1F4D0aRULER:1F6A9aFLAG ON POST=dCOLON:205Da=dDENT:1F531aEMBLEM=dGRAM:2630aFOR HEAVENbLAKEbFIRE
bTHUNDERbWINDbWATERbMOUNTAINbEARTH=dPLE:2034aPRIME:222DaINTEGRAL:224BaTILDE
:22AAaVERTICAL BAR RIGHT TURNSTILE:2980cDELIMITER:29FBaPLUS
:2A68aHORIZONTAL BAR WITH DOUBLE VERTICAL STROKEdTRIPLE VERTICAL STROKE
:2AF4aVERTICAL BAR BINARY RELATIONcWITH HORIZONTAL STROKEaCOLON OPERATORaNESTED LESS-THAN
bGREATER-THAN:2AFBaSOLIDUS BINARY RELATION:2E4BaDAGGER=cOLL:1F9CCa=fEYBUS:1F68Ea=dPHY:1F3C6a
=eICAL:1F379aDRINK:1F420aFISH=cUE:22A8a:2BDFaLIGHT MOON ARTA=dMPET:1F3BAa=bUGRIK:20AEaSIGN
=cLIP:1F337a=cMBLER:1F943aGLASS=cRKEY:1F983a=eISH:20BAaLIRA SIGN=dNED:2129aGREEK SMALL LETTER IOTA
:2132aCAPITAL F:2141aSANS-SERIF CAPITAL GcL:2144cY:214BaAMPERSAND:214EaSMALL F:218AaDIGIT TWO
bTHREE:2319aNOT SIGN:26C9aWHITE SHOGI PIECEaBLACK SHOGI PIECE:29A2aANGLE:2BC2aBLACK PENTAGON
:2E32aCOMMA:2E35aSEMICOLON:2E38aDAGGER:1F58FaOK HAND SIGN:1F654aNORTH WEST POINTING LEAF
aSOUTH WEST POINTING LEAFaNORTH EAST POINTING LEAFaSOUTH EAST POINTING LEAF=dTLE:1F422a
=bWELVE:2739aPOINTED BLACK STAR=cISTED:1F500aRIGHTWARDS ARROWS=cO:2025aDOT LEADER
:2051aASTERISKS ALIGNED VERTICALLY:205AaDOT PUNCTUATION:29C9aJOINED SQUARES
:2A07aLOGICAL AND OPERATORbOR OPERATOR:2A55aINTERSECTING LOGICAL ANDcOR
:2A75aCONSECUTIVE EQUALS SIGNS:2E2AaDOTS OVER ONE DOT PUNCTUATION:1F46CaMEN HOLDING HANDS
aWOMEN HOLDING HANDS:1F495aHEARTS:1F5B0aBUTTON MOUSE:1F5EAaSPEECH BUBBLES=d-EM:2E3AaDASH
=aUGARITIC:10380aLETTER ALPAbBETAbGAMLAbKHAbDELTAbHObWObZETAbHOTAbTETbYODbKAFbSHINbLAMDAbMEMbDHAL
bNUNbZUbSAMKAbAINbPUbSADEbQOPAbRASHAbTHANNAbGHAINbTObIbUbSSU:1039FaWORD DIVIDER=bMBRELLA:2602a
:2614aWITH RAIN DROPS:26F1aON GROUND=bNAMUSED:1F612aFACE=cCERTAINTY:2BD1aSIGN=cDERTIE:203Fa
=dO:238CaSYMBOL=cICORN:1F984aFACE=dON:222Aa:2A41aWITH MINUS SIGNbOVERBAR:2A45bLOGICAL OR
aABOVE INTERSECTION:2A48bBAR ABOVE INTERSECTION:2A4AaBESIDE AND JOINED WITH UNION=dT:1FaSEPARATOR
=eED:2BFAaSYMBOL=dVERSAL:2672aRECYCLING SYMBOL=cMARRIED:26AFaPARTNERSHIP SYMBOL=bP:2195aDOWN ARROW
:21A8cWITH BASE:21D5bDOUBLE ARROW:21F3bWHITE ARROW:22A5aTACK:22F0aRIGHT DIAGONAL ELLIPSIS
:2303aARROWHEAD:2324bBETWEEN TWO HORIZONTAL BARS:27DFaTACK WITH CIRCLE ABOVE
:294CaBARB RIGHT DOWN BARB LEFT HARPOONbLEFT DOWN BARB RIGHT HARPOON
:294FbRIGHT DOWN BARB RIGHT HARPOON:2951bLEFT DOWN BARB LEFT HARPOON:297EaFISH TAIL
:29BDaARROW THROUGH CIRCLE:2B0DaDOWN BLACK ARROW:2B65bTRIANGLE-HEADED ARROW
:2BB9aARROWHEAD IN A RECTANGLE BOX:1F859aDOWN SANS-SERIF ARROW
=c-POINTING:25EDaTRIANGLE WITH LEFT HALF BLACKcRIGHT HALF BLACK:1F53AaRED TRIANGLE
:1F53CaSMALL RED TRIANGLE:1F6E6aMILITARY AIRPLANEaAIRPLANEaSMALL AIRPLANE
=cPER:23B0aLEFT OR LOWER RIGHT CURLY BRACKET SECTIONaRIGHT OR LOWER LEFT CURLY BRACKET SECTION
:2580aHALF BLOCK:2594aONE EIGHTH BLOCK:25DAaHALF INVERSE WHITE CIRCLE
:25DCaLEFT QUADRANT CIRCULAR ARCaRIGHT QUADRANT CIRCULAR ARC:25E0aHALF CIRCLE:25F8aLEFT TRIANGLE
aRIGHT TRIANGLE:2701aBLADE SCISSORS:2710aRIGHT PENCIL:2750bDROP-SHADOWED WHITE SQUARE
:2752bSHADOWED WHITE SQUARE:27D4aLEFT CORNER WITH DOT:1F53FaRIGHT SHADOWED WHITE CIRCLE
:1FB52bBLOCK DIAGONAL LOWER MIDDLE LEFT TO LOWER CENTREiRIGHTdUPPER MIDDLE LEFT TO LOWER CENTRE
iRIGHTeLEFT TO LOWER CENTREaLEFT BLOCK DIAGONAL UPPER MIDDLE LEFT TO UPPER CENTREiRIGHT
dLOWER MIDDLE LEFT TO UPPER CENTREiRIGHTeLEFT TO UPPER CENTREeMIDDLE LEFT TO UPPER MIDDLE RIGHT
eCENTRE TO LOWER MIDDLE RIGHTeLEFT TO LOWER MIDDLE RIGHTeCENTRE TO UPPER MIDDLE RIGHT
eLEFT TO UPPER MIDDLE RIGHTeCENTRE TO UPPER RIGHT
aRIGHT BLOCK DIAGONAL UPPER CENTRE TO UPPER MIDDLE RIGHTeLEFT TO UPPER MIDDLE RIGHT
eCENTRE TO LOWER MIDDLE RIGHTeLEFT TO LOWER MIDDLE RIGHTeCENTRE TO LOWER RIGHT
eMIDDLE LEFT TO LOWER MIDDLE RIGHTaAND RIGHT AND LOWER TRIANGULAR THREE QUARTERS BLOCK
:1FB6AbLEFT AND LOWER TRIANGULAR THREE QUARTERS BLOCK:1FB6DaTRIANGULAR ONE QUARTER BLOCK
:1FB80aAND LOWER ONE EIGHTH BLOCK:1FB82aONE QUARTER BLOCKaTHREE EIGHTHS BLOCKaFIVE EIGHTHS BLOCK
aTHREE QUARTERS BLOCKaSEVEN EIGHTHS BLOCK:1FB8EaHALF MEDIUM SHADE
:1FB91bBLOCK AND LOWER HALF INVERSE MEDIUM SHADEbINVERSE MEDIUM SHADE AND LOWER HALF BLOCK
:1FB98aLEFT TO LOWER RIGHT FILLaRIGHT TO LOWER LEFT FILLaAND LOWER TRIANGULAR HALF BLOCK
:1FB9CaLEFT TRIANGULAR MEDIUM SHADEaRIGHT TRIANGULAR MEDIUM SHADE=cSIDE-DOWN:1F643aFACE
=cWARDS:2191aARROW:219FaTWO HEADED ARROW:21A5aARROW FROM BAR:21B0bWITH TIP LEFTWARDSdRIGHTWARDS
:21BEaHARPOON WITH BARB RIGHTWARDSdLEFTWARDS:21C5aARROW LEFTWARDS OF DOWNWARDS ARROW
:21C8aPAIRED ARROWS:21D1aDOUBLE ARROW:21DEaARROW WITH DOUBLE STROKE:21E1aDASHED ARROW
:21E7aWHITE ARROW:21EAcFROM BARcON PEDESTALeWITH HORIZONTAL BARfVERTICAL BARbDOUBLE ARROW
dON PEDESTAL:27F0aQUADRUPLE ARROW:2909aARROW WITH HORIZONTAL STROKEaTRIPLE ARROW:2912aARROW TO BAR
:2949aTWO-HEADED ARROW FROM SMALL CIRCLE:2954aHARPOON WITH BARB RIGHT TO BAR:2958dLEFT TO BAR
:295CdRIGHT FROM BAR:2960dLEFT FROM BAR:2963eBESIDE UPWARDS HARPOON WITH BARB RIGHT
:296EfDOWNWARDS HARPOON WITH BARB RIGHT:2B06aBLACK ARROW:2B61aTRIANGLE-HEADED ARROW
:2B6BbDASHED ARROW:2B71bARROW TO BAR:2B7BcWITH DOUBLE HORIZONTAL STROKE
:2B81cLEFTWARDS OF DOWNWARDS TRIANGLE-HEADED ARROW:2B85bPAIRED ARROWS
:2B89aBLACK CIRCLED WHITE ARROW:2BA2aTRIANGLE-HEADED ARROW WITH LONG TIP LEFTWARDSfRIGHTWARDS
:2BB8aWHITE ARROW FROM BAR WITH HORIZONTAL BAR:2BEDaTWO-HEADED ARROW WITH TRIANGLE ARROWHEADS
:2E15aANCORA:1F66DaROCKET:1F801aARROW WITH SMALL TRIANGLE ARROWHEAD
:1F805cMEDIUM TRIANGLE ARROWHEAD:1F809cLARGE TRIANGLE ARROWHEAD:1F811cSMALL EQUILATERAL ARROWHEAD
:1F815cEQUILATERAL ARROWHEAD:1F821aTRIANGLE-HEADED ARROW WITH NARROW SHAFT:1F825dMEDIUM SHAFT
:1F829dBOLD SHAFT:1F82DdHEAVY SHAFT:1F831dVERY HEAVY SHAFT:1F835aFINGER-POST ARROW
:1F839aSQUARED ARROW:1F83DaCOMPRESSED ARROW:1F841aHEAVY COMPRESSED ARROW:1F845bARROW
:1F851aSANS-SERIF ARROW:1F891aTRIANGLE ARROWHEAD:1F895aWHITE ARROW WITHIN TRIANGLE ARROWHEAD
:1F899aARROW WITH NOTCHED TAIL:1FBB8bAND RIGHT ONE EIGHTH BLOCK=bRANUS:2645a=bS:1Fa
=aVAI:A500aSYLLABLE EEbEENbHEEbWEEbWEENbPEEbBHEEbBEEbMBEEbKPEEbMGBEEbGBEEbFEEbVEEbTEEbTHEEbDHEE
bDHHEEbLEEbREEbDEEbNDEEbSEEbSHEEbZEEbZHEEbCEEbJEEbNJEEbYEEbKEEbNGGEEbGEEbMEEbNEEbNYEEbIbINbHIbHIN
bWIbWINbPIbBHIbBIbMBIbKPIbMGBIbGBIbFIbVIbTIbTHIbDHIbDHHIbLIbRIbDIbNDIbSIbSHIbZIbZHIbCIbJIbNJIbYI
bKIbNGGIbGIbMIbNIbNYIbAbANbNGANbHAbHANbWAbWANbPAbBHAbBAbMBAbKPAbKPANbMGBAbGBAbFAbVAbTAbTHAbDHA
bDHHAbLAbRAbDAbNDAbSAbSHAbZAbZHAbCAbJAbNJAbYAbKAbKANbNGGAbGAbMAbNAbNYAbOObOONbHOObWOObWOONbPOO
bBHOObBOObMBOObKPOObMGBOObGBOObFOObVOObTOObTHOObDHOObDHHOObLOObROObDOObNDOObSOObSHOObZOObZHOObCOO
bJOObNJOObYOObKOObNGGOObGOObMOObNOObNYOObUbUNbHUbHUNbWUbWUNbPUbBHUbBUbMBUbKPUbMGBUbGBUbFUbVUbTU
bTHUbDHUbDHHUbLUbRUbDUbNDUbSUbSHUbZUbZHUbCUbJUbNJUbYUbKUbNGGUbGUbMUbNUbNYUbObONbNGONbHObHONbWObWON
bPObBHObBObMBObKPObMGBObGBObGBONbFObVObTObTHObDHObDHHObLObRObDObNDObSObSHObZObZHObCObJObNJObYObKO
bNGGObGObMObNObNYObEbENbNGENbHEbHENbWEbWENbPEbBHEbBEbMBEbKPEbKPENbMGBEbGBEbGBENbFEbVEbTEbTHEbDHE
bDHHEbLEbREbDEbNDEbSEbSHEbZEbZHEbCEbJEbNJEbYEbKEbNGGEbNGGENbGEbGENbMEbNEbNYEbNGbLENGTHENERaCOMMA
aFULL STOPaQUESTION MARKaSYLLABLE NDOLE FAcKAcSOOaSYMBOL FEENGbKEENGbTINGbNIIbBANGbFAAbTAAbDANG
bDOONGbKUNGbTONGbDO-ObJONGaDIGIT ZERObONEbTWObTHREEbFOURbFIVEbSIXbSEVENbEIGHTbNINE
aSYLLABLE NDOLE MAcDO=cMPIRE:1F9DBa=cRIATION:FE00aSELECTOR-1aSELECTOR-2aSELECTOR-3aSELECTOR-4
aSELECTOR-5aSELECTOR-6aSELECTOR-7aSELECTOR-8aSELECTOR-9aSELECTOR-10aSELECTOR-11aSELECTOR-12
aSELECTOR-13aSELECTOR-14aSELECTOR-15aSELECTOR-16:E0100aSELECTOR-17aSELECTOR-18aSELECTOR-19
aSELECTOR-20aSELECTOR-21aSELECTOR-22aSELECTOR-23aSELECTOR-24aSELECTOR-25aSELECTOR-26aSELECTOR-27
aSELECTOR-28aSELECTOR-29aSELECTOR-30aSELECTOR-31aSELECTOR-32aSELECTOR-33aSELECTOR-34aSELECTOR-35
aSELECTOR-36aSELECTOR-37aSELECTOR-38aSELECTOR-39aSELECTOR-40aSELECTOR-41aSELECTOR-42aSELECTOR-43
aSELECTOR-44aSELECTOR-45aSELECTOR-46aSELECTOR-47aSELECTOR-48aSELECTOR-49aSELECTOR-50aSELECTOR-51
aSELECTOR-52aSELECTOR-53aSELECTOR-54aSELECTOR-55aSELECTOR-56aSELECTOR-57aSELECTOR-58aSELECTOR-59
aSELECTOR-60aSELECTOR-61aSELECTOR-62aSELECTOR-63aSELECTOR-64aSELECTOR-65aSELECTOR-66aSELECTOR-67
aSELECTOR-68aSELECTOR-69aSELECTOR-70aSELECTOR-71aSELECTOR-72aSELECTOR-73aSELECTOR-74aSELECTOR-75
aSELECTOR-76aSELECTOR-77aSELECTOR-78aSELECTOR-79aSELECTOR-80aSELECTOR-81aSELECTOR-82aSELECTOR-83
aSELECTOR-84aSELECTOR-85aSELECTOR-86aSELECTOR-87aSELECTOR-88aSELECTOR-89aSELECTOR-90aSELECTOR-91
aSELECTOR-92aSELECTOR-93aSELECTOR-94aSELECTOR-95aSELECTOR-96aSELECTOR-97aSELECTOR-98aSELECTOR-99
aSELECTOR-100aSELECTOR-101aSELECTOR-102aSELECTOR-103aSELECTOR-104aSELECTOR-105aSELECTOR-106
aSELECTOR-107aSELECTOR-108aSELECTOR-109aSELECTOR-110aSELECTOR-111aSELECTOR-112aSELECTOR-113
aSELECTOR-114aSELECTOR-115aSELECTOR-116aSELECTOR-117aSELECTOR-118aSELECTOR-119aSELECTOR-120
aSELECTOR-121aSELECTOR-122aSELECTOR-123aSELECTOR-124aSELECTOR-125aSELECTOR-126aSELECTOR-127
aSELECTOR-128aSELECTOR-129aSELECTOR-130aSELECTOR-131aSELECTOR-132aSELECTOR-133aSELECTOR-134
aSELECTOR-135aSELECTOR-136aSELECTOR-137aSELECTOR-138aSELECTOR-139aSELECTOR-140aSELECTOR-141
aSELECTOR-142aSELECTOR-143aSELECTOR-144aSELECTOR-145aSELECTOR-146aSELECTOR-147aSELECTOR-148
aSELECTOR-149aSELECTOR-150aSELECTOR-151aSELECTOR-152aSELECTOR-153aSELECTOR-154aSELECTOR-155
aSELECTOR-156aSELECTOR-157aSELECTOR-158aSELECTOR-159aSELECTOR-160aSELECTOR-161aSELECTOR-162
aSELECTOR-163aSELECTOR-164aSELECTOR-165aSELECTOR-166aSELECTOR-167aSELECTOR-168aSELECTOR-169
aSELECTOR-170aSELECTOR-171aSELECTOR-172aSELECTOR-173aSELECTOR-174aSELECTOR-175aSELECTOR-176
aSELECTOR-177aSELECTOR-178aSELECTOR-179aSELECTOR-180aSELECTOR-181aSELECTOR-182aSELECTOR-183
aSELECTOR-184aSELECTOR-185aSELECTOR-186aSELECTOR-187aSELECTOR-188aSELECTOR-189aSELECTOR-190
aSELECTOR-191aSELECTOR-192aSELECTOR-193aSELECTOR-194aSELECTOR-195aSELECTOR-196aSELECTOR-197
aSELECTOR-198aSELECTOR-199aSELECTOR-200aSELECTOR-201aSELECTOR-202aSELECTOR-203aSELECTOR-204
aSELECTOR-205aSELECTOR-206aSELECTOR-207aSELECTOR-208aSELECTOR-209aSELECTOR-210aSELECTOR-211
aSELECTOR-212aSELECTOR-213aSELECTOR-214aSELECTOR-215aSELECTOR-216aSELECTOR-217aSELECTOR-218
aSELECTOR-219aSELECTOR-220aSELECTOR-221aSELECTOR-222aSELECTOR-223aSELECTOR-224aSELECTOR-225
aSELECTOR-226aSELECTOR-227aSELECTOR-228aSELECTOR-229aSELECTOR-230aSELECTOR-231aSELECTOR-232
aSELECTOR-233aSELECTOR-234aSELECTOR-235aSELECTOR-236aSELECTOR-237aSELECTOR-238aSELECTOR-239
aSELECTOR-240aSELECTOR-241aSELECTOR-242aSELECTOR-243aSELECTOR-244aSELECTOR-245aSELECTOR-246
aSELECTOR-247aSELECTOR-248aSELECTOR-249aSELECTOR-250aSELECTOR-251aSELECTOR-252aSELECTOR-253
aSELECTOR-254aSELECTOR-255aSELECTOR-256=bECTOR:2A2FaOR CROSS PRODUCT=cDIC:1CD0aTONE KARSHANAbSHARA
bPRENKHAaSIGN NIHSHVASAbYAJURVEDIC MIDLINE SVARITAaTONE YAJURVEDIC AGGRAVATED INDEPENDENT SVARITA
cINDEPENDENT SVARITAcKATHAKA INDEPENDENT SVARITAbCANDRA BELOW
bYAJURVEDIC KATHAKA INDEPENDENT SVARITA SCHROEDERbDOUBLE SVARITAbTRIPLE SVARITAbKATHAKA ANUDATTA
bDOT BELOWbTWO DOTS BELOWbTHREE DOTS BELOWbRIGVEDIC KASHMIRI INDEPENDENT SVARITA
bATHARVAVEDIC INDEPENDENT SVARITAaSIGN VISARGA SVARITAcUDATTAbREVERSED VISARGA UDATTA
bVISARGA ANUDATTAbREVERSED VISARGA ANUDATTAbVISARGA UDATTA WITH TAILcANUDATTA WITH TAIL
bANUSVARA ANTARGOMUKHAcBAHIRGOMUKHAcVAMAGOMUKHAdWITH TAILbTIRYAKbHEXIFORM LONG ANUSVARA
bLONG ANUSVARAbRTHANG LONG ANUSVARAbANUSVARA UBHAYATO MUKHAbARDHAVISARGAbROTATED ARDHAVISARGA
aTONE CANDRA ABOVEaSIGN JIHVAMULIYAbUPADHMANIYAbATIKRAMAaTONE RING ABOVEbDOUBLE RING ABOVE
aSIGN DOUBLE ANUSVARA ANTARGOMUKHA=cRSICLE:2123a=dTICAL:BaTABULATION:7CaLINE:8AaTABULATION SET
:205EaFOUR DOTS:22EEaELLIPSIS:237FaLINE WITH MIDDLE DOT:23D0bEXTENSION:26A8aMALE WITH STROKE SIGN
:27CAaBAR WITH HORIZONTAL STROKE:299AaZIGZAG LINE:29D0aBAR BESIDE RIGHT TRIANGLE
:2AE2bTRIPLE RIGHT TURNSTILE:2AE4bDOUBLE LEFT TURNSTILE:2AEFaLINE WITH CIRCLE ABOVEdBELOW
:2B7FaTAB KEY:2E2FaTILDE:2E3DaSIX DOTS:3031aKANA REPEAT MARKcWITH VOICED SOUND MARK
cMARK UPPER HALFcWITH VOICED SOUND MARK UPPER HALFcMARK LOWER HALF:303BaIDEOGRAPHIC ITERATION MARK
:1F6A6aTRAFFIC LIGHT:1FB70aONE EIGHTH BLOCK-2cBLOCK-3cBLOCK-4cBLOCK-5cBLOCK-6cBLOCK-7
=dY:22D8aMUCH LESS-THANbGREATER-THAN:1F67CaHEAVY SOLIDUSbREVERSE SOLIDUS:1F788bWHITE CIRCLE
:1F792cSQUARE:1F7A5aBOLD GREEK CROSSaHEAVY GREEK CROSS:1F7ADbSALTIRE:1F7B3bFIVE SPOKED ASTERISK
:1F7B9bSIX SPOKED ASTERISK:1F7BFbEIGHT SPOKED ASTERISK:1F7D0cPOINTED BLACK STAR=cSTA:26B6a
=bIBRATION:1F4F3aMODE=cCTORY:270CaHAND=cDEO:1F3AEaGAME:1F4F9aCAMERA=fCASSETTE:1F4FCa
=cETNAMESE:16FF0aALTERNATE READING MARK CAdNHAY=dWDATA:2317aSQUARE=cOLIN:1F3BBa=cRGO:264Da
=cTHKUQI:10570aCAPITAL LETTER AcBBEcBEcCEcCHEcDEcDHEcEIcEcFEcGA:1057CcHAcHHAcIcIJEcJEcKAcLAcLLAcME
cNEcNJEcOcPEcQAcRE:1058CcSEcSHEcTEcTHEcUcVEcXE:10594cYcZE:10597aSMALL LETTER AcBBEcBEcCEcCHEcDE
cDHEcEIcEcFEcGA:105A3cHAcHHAcIcIJEcJEcKAcLAcLLAcMEcNEcNJEcOcPEcQAcRE:105B3cSEcSHEcTEcTHEcUcVEcXE
:105BBcYcZE=bOIDED:1FBBBaGREEK CROSS=cLCANO:1F30Ba=dLEYBALL:1F3D0a=dUME:2230aINTEGRAL=bS1:FE00a
=d0:FE09a=e0:E0153a=e1:E0154a=e2:E0155a=e3:E0156a=e4:E0157a=e5:E0158a=e6:E0159a=e7:E015Aa
=e8:E015Ba=e9:E015Ca=d1:FE0Aa=e0:E015Da=e1:E015Ea=e2:E015Fa=e3:E0160a=e4:E0161a=e5:E0162a
=e6:E0163a=e7:E0164a=e8:E0165a=e9:E0166a=d2:FE0Ba=e0:E0167a=e1:E0168a=e2:E0169a=e3:E016Aa
=e4:E016Ba=e5:E016Ca=e6:E016Da=e7:E016Ea=e8:E016Fa=e9:E0170a=d3:FE0Ca=e0:E0171a=e1:E0172a
=e2:E0173a=e3:E0174a=e4:E0175a=e5:E0176a=e6:E0177a=e7:E0178a=e8:E0179a=e9:E017Aa=d4:FE0Da
=e0:E017Ba=e1:E017Ca=e2:E017Da=e3:E017Ea=e4:E017Fa=e5:E0180a=e6:E0181a=e7:E0182a=e8:E0183a
=e9:E0184a=d5:FE0Ea=e0:E0185a=e1:E0186a=e2:E0187a=e3:E0188a=e4:E0189a=e5:E018Aa=e6:E018Ba
=e7:E018Ca=e8:E018Da=e9:E018Ea=d6:FE0Fa=e0:E018Fa=e1:E0190a=e2:E0191a=e3:E0192a=e4:E0193a
=e5:E0194a=e6:E0195a=e7:E0196a=e8:E0197a=e9:E0198a=d7:E0100a=e0:E0199a=e1:E019Aa=e2:E019Ba
=e3:E019Ca=e4:E019Da=e5:E019Ea=e6:E019Fa=e7:E01A0a=e8:E01A1a=e9:E01A2a=d8:E0101a=e0:E01A3a
=e1:E01A4a=e2:E01A5a=e3:E01A6a=e4:E01A7a=e5:E01A8a=e6:E01A9a=e7:E01AAa=e8:E01ABa=e9:E01ACa
=d9:E0102a=e0:E01ADa=e1:E01AEa=e2:E01AFa=e3:E01B0a=e4:E01B1a=e5:E01B2a=e6:E01B3a=e7:E01B4a
=e8:E01B5a=e9:E01B6a=c2:FE01a=d0:E0103a=e0:E01B7a=e1:E01B8a=e2:E01B9a=e3:E01BAa=e4:E01BBa
=e5:E01BCa=e6:E01BDa=e7:E01BEa=e8:E01BFa=e9:E01C0a=d1:E0104a=e0:E01C1a=e1:E01C2a=e2:E01C3a
=e3:E01C4a=e4:E01C5a=e5:E01C6a=e6:E01C7a=e7:E01C8a=e8:E01C9a=e9:E01CAa=d2:E0105a=e0:E01CBa
=e1:E01CCa=e2:E01CDa=e3:E01CEa=e4:E01CFa=e5:E01D0a=e6:E01D1a=e7:E01D2a=e8:E01D3a=e9:E01D4a
=d3:E0106a=e0:E01D5a=e1:E01D6a=e2:E01D7a=e3:E01D8a=e4:E01D9a=e5:E01DAa=e6:E01DBa=e7:E01DCa
=e8:E01DDa=e9:E01DEa=d4:E0107a=e0:E01DFa=e1:E01E0a=e2:E01E1a=e3:E01E2a=e4:E01E3a=e5:E01E4a
=e6:E01E5a=e7:E01E6a=e8:E01E7a=e9:E01E8a=d5:E0108a=e0:E01E9a=e1:E01EAa=e2:E01EBa=e3:E01ECa
=e4:E01EDa=e5:E01EEa=e6:E01EFa=d6:E0109a=d7:E010Aa=d8:E010Ba=d9:E010Ca=c3:FE02a=d0:E010Da
=d1:E010Ea=d2:E010Fa=d3:E0110a=d4:E0111a=d5:E0112a=d6:E0113a=d7:E0114a=d8:E0115a=d9:E0116a
=c4:FE03a=d0:E0117a=d1:E0118a=d2:E0119a=d3:E011Aa=d4:E011Ba=d5:E011Ca=d6:E011Da=d7:E011Ea
=d8:E011Fa=d9:E0120a=c5:FE04a=d0:E0121a=d1:E0122a=d2:E0123a=d3:E0124a=d4:E0125a=d5:E0126a
=d6:E0127a=d7:E0128a=d8:E0129a=d9:E012Aa=c6:FE05a=d0:E012Ba=d1:E012Ca=d2:E012Da=d3:E012Ea
=d4:E012Fa=d5:E0130a=d6:E0131a=d7:E0132a=d8:E0133a=d9:E0134a=c7:FE06a=d0:E0135a=d1:E0136a
=d2:E0137a=d3:E0138a=d4:E0139a=d5:E013Aa=d6:E013Ba=d7:E013Ca=d8:E013Da=d9:E013Ea=c8:FE07a
=d0:E013Fa=d1:E0140a=d2:E0141a=d3:E0142a=d4:E0143a=d5:E0144a=d6:E0145a=d7:E0146a=d8:E0147a
=d9:E0148a=c9:FE08a=d0:E0149a=d1:E014Aa=d2:E014Ba=d3:E014Ca=d4:E014Da=d5:E014Ea=d6:E014Fa
=d7:E0150a=d8:E0151a=d9:E0152a=bT:Ba=cS:8Aa=bULCANUS:2BE6a=dGAR:BCaFRACTION ONE QUARTERcHALF
bTHREE QUARTERS:2150bONE SEVENTHcNINTHcTENTHcTHIRDbTWO THIRDSbONE FIFTHbTWO FIFTHSbTHREE FIFTHS
bFOUR FIFTHSbONE SIXTHbFIVE SIXTHSbONE EIGHTHbTHREE EIGHTHSbFIVE EIGHTHSbSEVEN EIGHTHS
:2189bZERO THIRDS=aWAFFLE:1F9C7a=cNCHO:1E2C0aLETTER AAbAbBAbCAbDAbGAbYAbPHAbLAbNAbPAbTAbTHAbFAbSA
bSHAbJAbZAbWAbVAbKAbObAUbRAbMAbKHAbHAbEbIbNGAbUbLLHAbTSAbTRAbONGbAANGbANGbINGbONbENbAANbNYAbUEN
bYIHaTONE TUPbTUPNIbKOIbKOINIaDIGIT ZERObONEbTWObTHREEbFOURbFIVEbSIXbSEVENbEIGHTbNINE
:1E2FFaNGUN SIGN=dING:1F316aGIBBOUS MOON SYMBOL:1F318aCRESCENT MOON SYMBOL
=cRANG:118A0aCITI CAPITAL LETTER NGAAdAdWIdYUdYAdYOdIIdUUdEdOdANGdGAdKOdENYdYUJdUCdENNdODDdTTE
dNUNGdDAdATdAMdBUdPUdHIYOdHOLOdHORRdHARdSSUUdSIIdVIYObSMALL LETTER NGAAdAdWIdYUdYAdYOdIIdUUdEdO
dANGdGAdKOdENYdYUJdUCdENNdODDdTTEdNUNGdDAdATdAMdBUdPUdHIYOdHOLOdHORRdHARdSSUUdSIIdVIYObDIGIT ZERO
cONEcTWOcTHREEcFOURcFIVEcSIXcSEVENcEIGHTcNINEbNUMBER TENcTWENTYcTHIRTYcFORTYcFIFTYcSIXTYcSEVENTY
cEIGHTYcNINETY:118FFbOM=dNING:26A0aSIGN=cSTEBASKET:1F5D1a=cTCH:231Aa=dER:1F30AaWAVE:1F403aBUFFALO
:1F6BEaCLOSET:1F93DaPOLO=fMELON:1F349a=cVE:2933aARROW POINTING DIRECTLY RIGHT:2B3FdLEFT:301CaDASH
=dING:1F3F3aWHITE FLAGaBLACK FLAG:1F44BaHAND SIGN=dY:2307aLINE:3030aDASH:FE4BaOVERLINE
:FE4FaLOW LINE=cXING:1F312aCRESCENT MOON SYMBOL:1F314aGIBBOUS MOON SYMBOL=bEARY:1F629aFACE
:1F640aCAT FACE=cDDING:1F492a=dGE-TAILED:27BCaRIGHTWARDS ARROW=cIERSTRASS:2118aELLIPTIC FUNCTION
=dGHT:1F3CBaLIFTER=cST:2670aSYRIAC CROSS=bHALE:1F40Ba=cEEL:2638aOF DHARMA:1F6DEa
=fCHAIR:267FaSYMBOL=cITE:2385aSQUARE WITH CENTRE VERTICAL LINE:23E2aTRAPEZIUM:25A1aSQUARE
bWITH ROUNDED CORNERSbCONTAINING BLACK SMALL SQUARE:25ABaSMALL SQUARE:25ADaRECTANGLE
:25AFaVERTICAL RECTANGLE:25B1aPARALLELOGRAM:25B3aUP-POINTING TRIANGLE:25B5bSMALL TRIANGLE
:25B7aRIGHT-POINTING TRIANGLE:25B9bSMALL TRIANGLE:25BBbPOINTER:25BDaDOWN-POINTING TRIANGLE
:25BFbSMALL TRIANGLE:25C1aLEFT-POINTING TRIANGLE:25C3bSMALL TRIANGLE:25C5bPOINTER:25C7aDIAMOND
bCONTAINING BLACK SMALL DIAMOND:25CBaCIRCLE:25E6aBULLET:25EBaSQUARE WITH VERTICAL BISECTING LINE
aUP-POINTING TRIANGLE WITH DOT:25F0aSQUARE WITH UPPER LEFT QUADRANTcLOWER LEFT QUADRANT
dRIGHT QUADRANTcUPPER RIGHT QUADRANTaCIRCLE WITH UPPER LEFT QUADRANTcLOWER LEFT QUADRANT
dRIGHT QUADRANTcUPPER RIGHT QUADRANT:25FBaMEDIUM SQUARE:25FDbSMALL SQUARE:2606aSTAR:260FaTELEPHONE
:2616aSHOGI PIECE:261CaLEFT POINTING INDEXaUP POINTING INDEXaRIGHT POINTING INDEX
aDOWN POINTING INDEX:2639aFROWNING FACEaSMILING FACE:263CaSUN WITH RAYS:2654aCHESS KINGbQUEENbROOK
bBISHOPbKNIGHTbPAWN:2661aHEART SUITaDIAMOND SUIT:2664aSPADE SUIT:2667aCLUB SUIT
:2686aCIRCLE WITH DOT RIGHTcTWO DOTS:2690aFLAG:26C0aDRAUGHTS MANbKING:26CBaDIAMOND IN SQUARE
:26D7aTWO-WAY LEFT WAY TRAFFIC:26D9aLEFT LANE MERGE:26FFaFLAG WITH HORIZONTAL MIDDLE BLACK STRIPE
:2704aSCISSORSaHEAVY CHECK MARK:2711aNIB:2727aFOUR POINTED STAR:2740aFLORETTE
:2754aQUESTION MARK ORNAMENTaEXCLAMATION MARK ORNAMENT
:27C1aTRIANGLE CONTAINING SMALL WHITE TRIANGLE:27D0aDIAMOND WITH CENTRED DOT
:27E1aCONCAVE-SIDED DIAMONDcWITH LEFTWARDS TICKdRIGHTWARDS TICKaSQUARE WITH LEFTWARDS TICK
cRIGHTWARDS TICK:29D6aHOURGLASS:29ECaCIRCLE WITH DOWN ARROW:2AFEaVERTICAL BAR:2B1CaLARGE SQUARE
:2B1EaVERY SMALL SQUARE:2B20aPENTAGONaHEXAGON:2B26aMEDIUM DIAMOND:2B28bLOZENGE:2B2BaSMALL LOZENGE
:2B2DaHORIZONTAL ELLIPSE:2B2FaVERTICAL ELLIPSE:2B50aMEDIUM STAR:2B52aSMALL STAR
:2B54aRIGHT-POINTING PENTAGON:2BCEaFOUR POINTED CUSP:2BDDaMOON SELENA:FE46aSESAME DOT:1F323aSUN
bWITH SMALL CLOUDbBEHIND CLOUDdWITH RAIN:1F3F1aPENNANT:1F446aUP POINTING BACKHAND INDEX
aDOWN POINTING BACKHAND INDEXaLEFT POINTING BACKHAND INDEXaRIGHT POINTING BACKHAND INDEX
:1F4AEaFLOWER:1F533aSQUARE BUTTON:1F546aLATIN CROSS:1F57EaTOUCHTONE TELEPHONE
:1F597aDOWN POINTING LEFT HAND INDEX:1F5ABaHARD SHELL FLOPPY DISK
:1F78AaCIRCLE CONTAINING BLACK SMALL CIRCLE:1F794aSQUARE CONTAINING BLACK VERY SMALL SQUARE
dMEDIUM SQUARE:1F79AaDIAMOND CONTAINING BLACK VERY SMALL DIAMONDdMEDIUM DIAMOND
:1F7A0aLOZENGE CONTAINING BLACK SMALL LOZENGE:1F8ACaARROW SHAFT WIDTH ONEdTWO THIRDS:1F90DaHEART
:1FA06aCHESS KNIGHT ROTATED FORTY-FIVE DEGREES:1FA09bKING ROTATED NINETY DEGREES
bQUEEN ROTATED NINETY DEGREESbROOK ROTATED NINETY DEGREESbBISHOP ROTATED NINETY DEGREES
bKNIGHT ROTATED NINETY DEGREESbPAWN ROTATED NINETY DEGREES
:1FA1BbKNIGHT ROTATED ONE HUNDRED THIRTY-FIVE DEGREES:1FA1EbTURNED KINGcQUEENcROOKcBISHOPcKNIGHT
cPAWN:1FA30bKNIGHT ROTATED TWO HUNDRED TWENTY-FIVE DEGREES
:1FA33bKING ROTATED TWO HUNDRED SEVENTY DEGREESbQUEEN ROTATED TWO HUNDRED SEVENTY DEGREES
bROOK ROTATED TWO HUNDRED SEVENTY DEGREESbBISHOP ROTATED TWO HUNDRED SEVENTY DEGREES
bKNIGHT ROTATED TWO HUNDRED SEVENTY DEGREESbPAWN ROTATED TWO HUNDRED SEVENTY DEGREES
:1FA45bKNIGHT ROTATED THREE HUNDRED FIFTEEN DEGREES:1FA48bEQUIHOPPER:1FA4BcROTATED NINETY DEGREES
:1FA4EbKNIGHT-QUEENbKNIGHT-ROOKbKNIGHT-BISHOP:1FBC0aHEAVY SALTIRE WITH ROUNDED CORNERS
:1FBCAaUP-POINTING CHEVRON=f-FEATHERED:27B3aRIGHTWARDS ARROW
=bIDE-HEADED:1F860aLEFTWARDS LIGHT BARB ARROWaUPWARDS LIGHT BARB ARROWaRIGHTWARDS LIGHT BARB ARROW
aDOWNWARDS LIGHT BARB ARROWaNORTH WEST LIGHT BARB ARROWbEAST LIGHT BARB ARROW
aSOUTH EAST LIGHT BARB ARROWbWEST LIGHT BARB ARROWaLEFTWARDS BARB ARROWaUPWARDS BARB ARROW
aRIGHTWARDS BARB ARROWaDOWNWARDS BARB ARROWaNORTH WEST BARB ARROWbEAST BARB ARROW
aSOUTH EAST BARB ARROWbWEST BARB ARROWaLEFTWARDS MEDIUM BARB ARROWaUPWARDS MEDIUM BARB ARROW
aRIGHTWARDS MEDIUM BARB ARROWaDOWNWARDS MEDIUM BARB ARROWaNORTH WEST MEDIUM BARB ARROW
bEAST MEDIUM BARB ARROWaSOUTH EAST MEDIUM BARB ARROWbWEST MEDIUM BARB ARROW
aLEFTWARDS HEAVY BARB ARROWaUPWARDS HEAVY BARB ARROWaRIGHTWARDS HEAVY BARB ARROW
aDOWNWARDS HEAVY BARB ARROWaNORTH WEST HEAVY BARB ARROWbEAST HEAVY BARB ARROW
aSOUTH EAST HEAVY BARB ARROWbWEST HEAVY BARB ARROWaLEFTWARDS VERY HEAVY BARB ARROW
aUPWARDS VERY HEAVY BARB ARROWaRIGHTWARDS VERY HEAVY BARB ARROWaDOWNWARDS VERY HEAVY BARB ARROW
aNORTH WEST VERY HEAVY BARB ARROWbEAST VERY HEAVY BARB ARROWaSOUTH EAST VERY HEAVY BARB ARROW
bWEST VERY HEAVY BARB ARROW=cGGLY:2E3EaVERTICAL LINE=cLTED:1F940aFLOWER=cND:1F32CaBLOWING FACE
:1F390aCHIME=eOW:1FA9Fa=dE:1F377aGLASS=dKING:1F609aFACE=cRED:1F5AEaKEYBOARD=bJ:2060a
=bOLF:1F43AaFACE=cMAN:1F469a:1F46FaWITH BUNNY EARS=fS:1F452aHAT:1F45AaCLOTHES:1F461aSANDALaBOOTS
=dENS:1F6BAaSYMBOL=cN:20A9aSIGN=cOD:1FAB5a=cRD:2060aJOINER:2E31aSEPARATOR MIDDLE DOT=dLD:1F5FAaMAP
=dM:1FAB1a=dRIED:1F61FaFACE=bRAPPED:1F381aPRESENT=cEATH:2240aPRODUCT=dNCH:1F527a=dSTLERS:1F93Ca
=cITING:270DaHAND=aX:2327aIN A RECTANGLE BOX=b-RAY:1FA7Ba=bIANGQI:1FA60aRED GENERALbMANDARIN
bELEPHANTbHORSEbCHARIOTbCANNONbSOLDIERaBLACK GENERALbMANDARINbELEPHANTbHORSEbCHARIOTbCANNON
bSOLDIER=bOR:22BBa=aYAWNING:1F971aFACE=bELLOW:1F49BaHEART=cN:A5aSIGN=cZIDI:10E80aLETTER ELIFbBEbPE
bPHEbTHEbSEbCIMbCHIMbCHHIMbHHAbXAbDALbZALbRAbRHAbZAbJAbSINbSHINbSADbDADbTAbZEbEYNbXHEYNbFAbVA
cALTERNATE FORMbQAFbKAFbKHAFbGAFbLAMbMIMbNUNbUMbWAWbOWbEWbHAYbYOTbET:10EABaCOMBINING HAMZA MARK
bMADDA MARKaHYPHENATION MARK:10EB0aLETTER LAM WITH DOT ABOVEbYOT WITH CIRCUMFLEX ABOVE
=bI:A000aSYLLABLE ITbIXbIbIPbIETbIEXbIEbIEPbATbAXbAbAPbUOXbUObUOPbOTbOXbObOPbEXbEbITERATION MARK
:A015bWUbBITbBIXbBIbBIPbBIETbBIEXbBIEbBIEPbBATbBAXbBAbBAPbBUOXbBUObBUOPbBOTbBOXbBObBOPbBEXbBEbBEP
bBUTbBUXbBUbBUPbBURXbBURbBYTbBYXbBYbBYPbBYRXbBYRbPITbPIXbPIbPIPbPIEXbPIEbPIEPbPATbPAXbPAbPAPbPUOX
bPUObPUOPbPOTbPOXbPObPOPbPUTbPUXbPUbPUPbPURXbPURbPYTbPYXbPYbPYPbPYRXbPYRbBBITbBBIXbBBIbBBIPbBBIET
bBBIEXbBBIEbBBIEPbBBATbBBAXbBBAbBBAPbBBUOXbBBUObBBUOPbBBOTbBBOXbBBObBBOPbBBEXbBBEbBBEPbBBUTbBBUX
bBBUbBBUPbBBURXbBBURbBBYTbBBYXbBBYbBBYPbNBITbNBIXbNBIbNBIPbNBIEXbNBIEbNBIEPbNBATbNBAXbNBAbNBAP
bNBOTbNBOXbNBObNBOPbNBUTbNBUXbNBUbNBUPbNBURXbNBURbNBYTbNBYXbNBYbNBYPbNBYRXbNBYRbHMITbHMIXbHMIbHMIP
bHMIEXbHMIEbHMIEPbHMATbHMAXbHMAbHMAPbHMUOXbHMUObHMUOPbHMOTbHMOXbHMObHMOPbHMUTbHMUXbHMUbHMUPbHMURX
bHMURbHMYXbHMYbHMYPbHMYRXbHMYRbMITbMIXbMIbMIPbMIEXbMIEbMIEPbMATbMAXbMAbMAPbMUOTbMUOXbMUObMUOPbMOT
bMOXbMObMOPbMEXbMEbMUTbMUXbMUbMUPbMURXbMURbMYTbMYXbMYbMYPbFITbFIXbFIbFIPbFATbFAXbFAbFAPbFOXbFObFOP
bFUTbFUXbFUbFUPbFURXbFURbFYTbFYXbFYbFYPbVITbVIXbVIbVIPbVIETbVIEXbVIEbVIEPbVATbVAXbVAbVAPbVOTbVOX
bVObVOPbVEXbVEPbVUTbVUXbVUbVUPbVURXbVURbVYTbVYXbVYbVYPbVYRXbVYRbDITbDIXbDIbDIPbDIEXbDIEbDIEPbDAT
bDAXbDAbDAPbDUOXbDUObDOTbDOXbDObDOPbDEXbDEbDEPbDUTbDUXbDUbDUPbDURXbDURbTITbTIXbTIbTIPbTIEXbTIE
bTIEPbTATbTAXbTAbTAPbTUOTbTUOXbTUObTUOPbTOTbTOXbTObTOPbTEXbTEbTEPbTUTbTUXbTUbTUPbTURXbTURbDDIT
bDDIXbDDIbDDIPbDDIEXbDDIEbDDIEPbDDATbDDAXbDDAbDDAPbDDUOXbDDUObDDUOPbDDOTbDDOXbDDObDDOPbDDEXbDDE
bDDEPbDDUTbDDUXbDDUbDDUPbDDURXbDDURbNDITbNDIXbNDIbNDIPbNDIEXbNDIEbNDATbNDAXbNDAbNDAPbNDOTbNDOXbNDO
bNDOPbNDEXbNDEbNDEPbNDUTbNDUXbNDUbNDUPbNDURXbNDURbHNITbHNIXbHNIbHNIPbHNIETbHNIEXbHNIEbHNIEPbHNAT
bHNAXbHNAbHNAPbHNUOXbHNUObHNOTbHNOXbHNOPbHNEXbHNEbHNEPbHNUTbNITbNIXbNIbNIPbNIEXbNIEbNIEPbNAXbNA
bNAPbNUOXbNUObNUOPbNOTbNOXbNObNOPbNEXbNEbNEPbNUTbNUXbNUbNUPbNURXbNURbHLITbHLIXbHLIbHLIPbHLIEXbHLIE
bHLIEPbHLATbHLAXbHLAbHLAPbHLUOXbHLUObHLUOPbHLOXbHLObHLOPbHLEXbHLEbHLEPbHLUTbHLUXbHLUbHLUPbHLURX
bHLURbHLYTbHLYXbHLYbHLYPbHLYRXbHLYRbLITbLIXbLIbLIPbLIETbLIEXbLIEbLIEPbLATbLAXbLAbLAPbLUOTbLUOXbLUO
bLUOPbLOTbLOXbLObLOPbLEXbLEbLEPbLUTbLUXbLUbLUPbLURXbLURbLYTbLYXbLYbLYPbLYRXbLYRbGITbGIXbGIbGIP
bGIETbGIEXbGIEbGIEPbGATbGAXbGAbGAPbGUOTbGUOXbGUObGUOPbGOTbGOXbGObGOPbGETbGEXbGEbGEPbGUTbGUXbGUbGUP
bGURXbGURbKITbKIXbKIbKIPbKIEXbKIEbKIEPbKATbKAXbKAbKAPbKUOXbKUObKUOPbKOTbKOXbKObKOPbKETbKEXbKEbKEP
bKUTbKUXbKUbKUPbKURXbKURbGGITbGGIXbGGIbGGIEXbGGIEbGGIEPbGGATbGGAXbGGAbGGAPbGGUOTbGGUOXbGGUObGGUOP
bGGOTbGGOXbGGObGGOPbGGETbGGEXbGGEbGGEPbGGUTbGGUXbGGUbGGUPbGGURXbGGURbMGIEXbMGIEbMGATbMGAXbMGAbMGAP
bMGUOXbMGUObMGUOPbMGOTbMGOXbMGObMGOPbMGEXbMGEbMGEPbMGUTbMGUXbMGUbMGUPbMGURXbMGURbHXITbHXIXbHXI
bHXIPbHXIETbHXIEXbHXIEbHXIEPbHXATbHXAXbHXAbHXAPbHXUOTbHXUOXbHXUObHXUOPbHXOTbHXOXbHXObHXOPbHXEXbHXE
bHXEPbNGIEXbNGIEbNGIEPbNGATbNGAXbNGAbNGAPbNGUOTbNGUOXbNGUObNGOTbNGOXbNGObNGOPbNGEXbNGEbNGEPbHIT
bHIEXbHIEbHATbHAXbHAbHAPbHUOTbHUOXbHUObHUOPbHOTbHOXbHObHOPbHEXbHEbHEPbWATbWAXbWAbWAPbWUOXbWUObWUOP
bWOXbWObWOPbWEXbWEbWEPbZITbZIXbZIbZIPbZIEXbZIEbZIEPbZATbZAXbZAbZAPbZUOXbZUObZUOPbZOTbZOXbZObZOP
bZEXbZEbZEPbZUTbZUXbZUbZUPbZURXbZURbZYTbZYXbZYbZYPbZYRXbZYRbCITbCIXbCIbCIPbCIETbCIEXbCIEbCIEPbCAT
bCAXbCAbCAPbCUOXbCUObCUOPbCOTbCOXbCObCOPbCEXbCEbCEPbCUTbCUXbCUbCUPbCURXbCURbCYTbCYXbCYbCYPbCYRX
bCYRbZZITbZZIXbZZIbZZIPbZZIETbZZIEXbZZIEbZZIEPbZZATbZZAXbZZAbZZAPbZZOXbZZObZZOPbZZEXbZZEbZZEPbZZUX
bZZUbZZUPbZZURXbZZURbZZYTbZZYXbZZYbZZYPbZZYRXbZZYRbNZITbNZIXbNZIbNZIPbNZIEXbNZIEbNZIEPbNZATbNZAX
bNZAbNZAPbNZUOXbNZUObNZOXbNZOPbNZEXbNZEbNZUXbNZUbNZUPbNZURXbNZURbNZYTbNZYXbNZYbNZYPbNZYRXbNZYRbSIT
bSIXbSIbSIPbSIEXbSIEbSIEPbSATbSAXbSAbSAPbSUOXbSUObSUOPbSOTbSOXbSObSOPbSEXbSEbSEPbSUTbSUXbSUbSUP
bSURXbSURbSYTbSYXbSYbSYPbSYRXbSYRbSSITbSSIXbSSIbSSIPbSSIEXbSSIEbSSIEPbSSATbSSAXbSSAbSSAPbSSOTbSSOX
bSSObSSOPbSSEXbSSEbSSEPbSSUTbSSUXbSSUbSSUPbSSYTbSSYXbSSYbSSYPbSSYRXbSSYRbZHATbZHAXbZHAbZHAPbZHUOX
bZHUObZHUOPbZHOTbZHOXbZHObZHOPbZHETbZHEXbZHEbZHEPbZHUTbZHUXbZHUbZHUPbZHURXbZHURbZHYTbZHYXbZHYbZHYP
bZHYRXbZHYRbCHATbCHAXbCHAbCHAPbCHUOTbCHUOXbCHUObCHUOPbCHOTbCHOXbCHObCHOPbCHETbCHEXbCHEbCHEPbCHUX
bCHUbCHUPbCHURXbCHURbCHYTbCHYXbCHYbCHYPbCHYRXbCHYRbRRAXbRRAbRRUOXbRRUObRROTbRROXbRRObRROPbRRET
bRREXbRREbRREPbRRUTbRRUXbRRUbRRUPbRRURXbRRURbRRYTbRRYXbRRYbRRYPbRRYRXbRRYRbNRATbNRAXbNRAbNRAPbNROX
bNRObNROPbNRETbNREXbNREbNREPbNRUTbNRUXbNRUbNRUPbNRURXbNRURbNRYTbNRYXbNRYbNRYPbNRYRXbNRYRbSHATbSHAX
bSHAbSHAPbSHUOXbSHUObSHUOPbSHOTbSHOXbSHObSHOPbSHETbSHEXbSHEbSHEPbSHUTbSHUXbSHUbSHUPbSHURXbSHUR
bSHYTbSHYXbSHYbSHYPbSHYRXbSHYRbRATbRAXbRAbRAPbRUOXbRUObRUOPbROTbROXbRObROPbREXbREbREPbRUTbRUXbRU
bRUPbRURXbRURbRYTbRYXbRYbRYPbRYRXbRYRbJITbJIXbJIbJIPbJIETbJIEXbJIEbJIEPbJUOTbJUOXbJUObJUOPbJOTbJOX
bJObJOPbJUTbJUXbJUbJUPbJURXbJURbJYTbJYXbJYbJYPbJYRXbJYRbQITbQIXbQIbQIPbQIETbQIEXbQIEbQIEPbQUOT
bQUOXbQUObQUOPbQOTbQOXbQObQOPbQUTbQUXbQUbQUPbQURXbQURbQYTbQYXbQYbQYPbQYRXbQYRbJJITbJJIXbJJIbJJIP
bJJIETbJJIEXbJJIEbJJIEPbJJUOXbJJUObJJUOPbJJOTbJJOXbJJObJJOPbJJUTbJJUXbJJUbJJUPbJJURXbJJURbJJYT
bJJYXbJJYbJJYPbNJITbNJIXbNJIbNJIPbNJIETbNJIEXbNJIEbNJIEPbNJUOXbNJUObNJOTbNJOXbNJObNJOPbNJUXbNJU
bNJUPbNJURXbNJURbNJYTbNJYXbNJYbNJYPbNJYRXbNJYRbNYITbNYIXbNYIbNYIPbNYIETbNYIEXbNYIEbNYIEPbNYUOX
bNYUObNYUOPbNYOTbNYOXbNYObNYOPbNYUTbNYUXbNYUbNYUPbXITbXIXbXIbXIPbXIETbXIEXbXIEbXIEPbXUOXbXUObXOT
bXOXbXObXOPbXYTbXYXbXYbXYPbXYRXbXYRbYITbYIXbYIbYIPbYIETbYIEXbYIEbYIEPbYUOTbYUOXbYUObYUOPbYOTbYOX
bYObYOPbYUTbYUXbYUbYUPbYURXbYURbYYTbYYXbYYbYYPbYYRXbYYR:A490aRADICAL QOTbLIbKITbNYIPbCYPbSSIbGGOP
bGEPbMIbHXITbLYRbBBUTbMOPbYObPUTbHXUObTATbGAbZUPbCYTbDDURbBURbGGUObNYOPbTUbOPbJJUTbZOTbPYTbHMObYIT
bVURbSHYbVEPbZAbJObNZUPbJJYbGOTbJJIEbWObDUbSHURbLIEbCYbCUOPbCIPbHXOPbSHATbZURbSHOPbCHEbZZIETbNBIE
bKE=cN:262FaYANG=bO-YO:1FA80a=aZ:22FFaNOTATION BAG MEMBERSHIP:2981bSPOTbTYPE COLON
:2987bLEFT IMAGE BRACKETbRIGHT IMAGE BRACKETbLEFT BINDING BRACKETbRIGHT BINDING BRACKET
:2A1FbSCHEMA COMPOSITIONcPIPINGcPROJECTION:2A3EbRELATIONAL COMPOSITION:2A64bDOMAIN ANTIRESTRICTION
bRANGE ANTIRESTRICTION=bANABAZAR:11A00aSQUARE LETTER AbVOWEL SIGN IdUEdUdEdOEdOdAIdAUdREVERSED I
cLENGTH MARKbLETTER KAcKHAcGAcGHAcNGAcCAcCHAcJAcNYAcTTAcTTHAcDDAcDDHAcNNAcTAcTHAcDAcDHAcNAcPAcPHA
cBAcBHAcMAcTSAcTSHAcDZAcDZHAcZHAcZAc-AcYAcRAcLAcVAcSHAcSSAcSAcHAcKSSAbFINAL CONSONANT MARK
bSIGN VIRAMAcCANDRABINDUdWITH ORNAMENTcCANDRA WITH ORNAMENTcANUSVARAcVISARGA
bCLUSTER-INITIAL LETTER RAbCLUSTER-FINAL LETTER YAdRAdLAdVAbINITIAL HEAD MARKbCLOSING HEAD MARK
bMARK TSHEGcSHADcDOUBLE SHADcLONG TSHEGbINITIAL DOUBLE-LINED HEAD MARK
bCLOSING DOUBLE-LINED HEAD MARKbSUBJOINER=bEBRA:1F993aFACE=cRO:200BaWIDTH SPACEbNON-JOINERbJOINER
:FEFFbNO-BREAK SPACE=cUS:2BE2a=bIPPER-MOUTH:1F910aFACE
=bNAMENNY:1CF00aCOMBINING MARK GORAZDO NIZKO S KRYZHEM ON LEFTcNIZKO S KRYZHEM ON LEFT
cTSATA ON LEFTcGORAZDO NIZKO ON LEFTcNIZKO ON LEFTcSREDNE ON LEFTcMALO POVYSHE ON LEFT
cPOVYSHE ON LEFTcVYSOKO ON LEFTcMALO POVYSHE S KHOKHLOM ON LEFTcPOVYSHE S KHOKHLOM ON LEFT
cVYSOKO S KHOKHLOM ON LEFTcGORAZDO NIZKO S KRYZHEM ON RIGHTcNIZKO S KRYZHEM ON RIGHT
cTSATA ON RIGHTcGORAZDO NIZKO ON RIGHTcNIZKO ON RIGHTcSREDNE ON RIGHTcMALO POVYSHE ON RIGHT
cPOVYSHE ON RIGHTcVYSOKO ON RIGHTcMALO POVYSHE S KHOKHLOM ON RIGHTcPOVYSHE S KHOKHLOM ON RIGHT
cVYSOKO S KHOKHLOM ON RIGHTcTSATA S KRYZHEMcMALO POVYSHE S KRYZHEMcSTRANNO MALO POVYSHE
cPOVYSHE S KRYZHEMdSTRANNOcVYSOKO S KRYZHEMcMALO POVYSHE STRANNOcGORAZDO VYSOKOcZELOcONcRAVNO
cTIKHAYAcBORZAYAcUDARKAcPODVERTKAcLOMKAcKUPNAYAcKACHKAcZEVOKcSKOBAcRAZSEKAcKRYZH ON LEFT
:1CF30bTONAL RANGE MARK MRACHNOeSVETLOeTRESVETLObMARK ZADERZHKAcDEMESTVENNY ZADERZHKAcOTSECHKA
cPODCHASHIEdWITH VERTICAL STROKEcCHASHKAdPOLNAYAcOBLACHKOcSOROCHYA NOZHKAcTOCHKAcDVOETOCHIE
bATTACHING VERTICAL OMETbMARK CURVED OMETcKRYZHbLOWER TONAL RANGE INDICATOR
aPRIZNAK MODIFIER LEVEL-2cLEVEL-3cDIRECTION FLIPcKRYZHcROG:1CF50aNEUME KRYUKcTIKHYbPARAKLIT
bDVA V CHELNUbKLYUCHbZANOZHEKbSTOPITSAcS OCHKOMbPEREVODKAcNEPOSTOYANNAYA
bSTOPITSA WITH SOROCHYA NOZHKAbCHELYUSTKAbPALKAbZAPYATAYAbGOLUBCHIK BORZYcTIKHYcMRACHNYcSVETLY
cTRESVETLYbVRAKHIYA PROSTAYAcMRACHNAYAcSVETLAYAcTRESVETLAYAcKLYUCHEVAYA PROSTAYAdMRACHNAYA
dSVETLAYAdTRESVETLAYAbDOUBLE ZAPYATAYAbREVERSED CHELYUSTKAbDERBITSAbKHAMILObCHASHKAbPODCHASHIE
bSKAMEYTSA MRACHNAYAcSVETLAYAcTRESVETLAYAcTIKHAYAbDEMESTVENNY KLYUCH
bSKAMEYTSA KLYUCHEVAYA SVETLAYAcKLYUCHENEPOSTOYANNAYAcKLYUCHEVAYA TIKHAYAcDVOECHELNAYA PROSTAYA
dSVETLAYAdNEPOSTOYANNAYAdKLYUCHEVAYAbSLOZHITIEcS ZAPYATOYcZAKRYTOEcS KRYZHEMbKRYZHbROGbFITAbKOBYLA
bZMEYTSAbSTATYAcS ZAPYATOYdKRYZHEMdZAPYATOY I KRYZHEMdKRYZHEM I ZAPYATOYcZAKRYTAYAdS ZAPYATOY
cS ROGOMdDVUMYA ZAPYATYMIdZAPYATOY I PODCHASHIEMbPOLKULIZMYbSTATYA NEPOSTOYANNAYAbSTRELA PROSTAYA
cMRACHNOTIKHAYAcKRYZHEVAYAcPOLUPOVODNAYAcPOVODNAYAcNEPOSTOYANNAYAcKLYUCHEPOVODNAYA
cKLYUCHENEPOSTOYANNAYAcTIKHAYA PUTNAYAcDVOECHELNAYAcDVOECHELNOKRYZHEVAYAcDVOECHELNOPOVODNAYA
cDVOECHELNAYA KLYUCHEVAYAcDVOECHELNOPOVODNAYA KLYUCHEVAYAcGROMNAYA WITH SINGLE ZAPYATAYA
cGROMOPOVODNAYA WITH SINGLE ZAPYATAYAcGROMNAYAcGROMOPOVODNAYAdWITH DOUBLE ZAPYATAYA
cGROMOKRYZHEVAYAdPOVODNAYAbMECHIKcPOVODNYcKLYUCHEVOYcKLYUCHEPOVODNYcKLYUCHENEPOSTOYANNY
bSTRELA TRYASOGLASNAYAcTRYASOPOVODNAYAcTRYASOSTRELNAYAbOSOKAcSVETLAYAcTRESVETLAYA
cKRYUKOVAYA SVETLAYAcKLYUCHEVAYA SVETLAYAdNEPOSTOYANNAYAbSTRELA KRYUKOVAYAdPOVODNAYA
dGROMNAYA WITH SINGLE ZAPYATAYAdGROMOPOVODNAYA WITH SINGLE ZAPYATAYAdGROMNAYAdGROMOPOVODNAYA
eWITH DOUBLE ZAPYATAYAdGROMOKRYZHEVAYAePOVODNAYAdTRYASKAbKUFISMAbOBLAKObDUDAbNEMKAbPAUK
=bOMBIE:1F9DFa=bWJ:200Da=cNBSP:FEFFa=dJ:200Ca=cSP:200Ba"

end SignatureLint.CharName
