/-!
# Names of characters, A to C

The names whose first word begins with one of the letters from `A` to `C`, in the layout that the
reader of names describes.
-/

namespace SignatureLint.CharName

/-- The paragraphs of the first words from `A` to `C`. -/
def textAToC : String := "
=aABACUS:1F9EEa=bC:23E6aCURRENT=cCORDION:1FA97a=eUNT:2100aOF=cK:6a=dNOWLEDGE:6a
=cTIVATE:206BaSYMMETRIC SWAPPING:206DaARABIC FORM SHAPING=cUTE:B4aACCENT:299FaANGLE
=bDDRESSED:2101aTO THE SUBJECT=cHESIVE:1FA79aBANDAGE=cI:262CaSHAKTI=cLAM:1E900aCAPITAL LETTER ALIF
cDAALIcLAAMcMIIMcBAcSINNYIIYHEcPEcBHEcRAcEcFAcIcOcDHAcYHEcWAWcNUNcKAFcYAcUcJIIMcCHIcHAcQAAFcGAcNYA
cTUcNHAcVAcKHAcGBEcZALcKPOcSHAaSMALL LETTER ALIFcDAALIcLAAMcMIIMcBAcSINNYIIYHEcPEcBHEcRAcEcFAcIcO
cDHAcYHEcWAWcNUNcKAFcYAcUcJIIMcCHIcHAcQAAFcGAcNYAcTUcNHAcVAcKHAcGBEcZALcKPOcSHAaALIF LENGTHENER
aVOWEL LENGTHENERaGEMINATION MARKaHAMZAaCONSONANT MODIFIERaGEMINATE CONSONANT MODIFIERaNUKTA
aNASALIZATION MARK:1E950aDIGIT ZERObONEbTWObTHREEbFOURbFIVEbSIXbSEVENbEIGHTbNINE
:1E95EaINITIAL EXCLAMATION MARKbQUESTION MARK=cMETOS:2BE5a=dISSION:1F39FaTICKETS=cULT:1F9D1a
=bEGEAN:10100aWORD SEPARATOR LINEcDOTaCHECK MARK:10107aNUMBER ONEbTWObTHREEbFOURbFIVEbSIXbSEVEN
bEIGHTbNINEbTENbTWENTYbTHIRTYbFORTYbFIFTYbSIXTYbSEVENTYbEIGHTYbNINETYbONE HUNDREDbTWO HUNDRED
bTHREE HUNDREDbFOUR HUNDREDbFIVE HUNDREDbSIX HUNDREDbSEVEN HUNDREDbEIGHT HUNDREDbNINE HUNDRED
bONE THOUSANDbTWO THOUSANDbTHREE THOUSANDbFOUR THOUSANDbFIVE THOUSANDbSIX THOUSANDbSEVEN THOUSAND
bEIGHT THOUSANDbNINE THOUSANDbTEN THOUSANDbTWENTY THOUSANDbTHIRTY THOUSANDbFORTY THOUSAND
bFIFTY THOUSANDbSIXTY THOUSANDbSEVENTY THOUSANDbEIGHTY THOUSANDbNINETY THOUSAND
:10137aWEIGHT BASE UNITbFIRST SUBUNITbSECOND SUBUNITbTHIRD SUBUNITbFOURTH SUBUNIT
aDRY MEASURE FIRST SUBUNITaLIQUID MEASURE FIRST SUBUNITaMEASURE SECOND SUBUNITbTHIRD SUBUNIT
=cRIAL:1F6A1aTRAMWAY=bFGHANI:60BaSIGN=bHOM:11700aLETTER KAbKHAbNGAbNAbTAbALTERNATE TAbPAbPHAbBAbMA
bJAbCHAbTHAbRAbLAbSAbNYAbHAbAbDAbDHAbGAbALTERNATE GAbGHAbBHAbJHAbALTERNATE BA
:1171DaCONSONANT SIGN MEDIAL LAdRAdLIGATING RAaVOWEL SIGN AcAAcIcIIcUcUUcEcAWcOcAIcAMaSIGN KILLER
:11730aDIGIT ZERObONEbTWObTHREEbFOURbFIVEbSIXbSEVENbEIGHTbNINEaNUMBER TENbTWENTY
aSIGN SMALL SECTIONbSECTIONbRULAIaSYMBOL VIaLETTER CAbTTAbTTHAbDDAbDDHAbNNAbLLA=bIRPLANE:2708a
:1F6EBaDEPARTUREaARRIVING=bKTIESELSKAB:214Da=bLARM:23F0aCLOCK
=cCHEMICAL:1F700aSYMBOL FOR QUINTESSENCEcAIRcFIREcEARTHcWATERcAQUAFORTIScAQUA REGIAdREGIA-2dVITAE
dVITAE-2cVINEGARcVINEGAR-2cVINEGAR-3cSULFURcPHILOSOPHERS SULFURcBLACK SULFURcMERCURY SUBLIMATE
dSUBLIMATE-2dSUBLIMATE-3cCINNABARcSALTcNITREcVITRIOLcVITRIOL-2cROCK SALTdSALT-2cGOLDcSILVER
cIRON OREdORE-2cCROCUS OF IRONcREGULUS OF IRONcCOPPER OREcIRON-COPPER OREcSUBLIMATE OF COPPER
cCROCUS OF COPPEReCOPPER-2cCOPPER ANTIMONIATEcSALT OF COPPER ANTIMONIATE
cSUBLIMATE OF SALT OF COPPERcVERDIGRIScTIN OREcLEAD OREcANTIMONY OREcSUBLIMATE OF ANTIMONY
cSALT OF ANTIMONYcSUBLIMATE OF SALT OF ANTIMONYcVINEGAR OF ANTIMONYcREGULUS OF ANTIMONYeANTIMONY-2
dcREGULUS-2cREGULUS-3cREGULUS-4cALKALIcALKALI-2cMARCASITEcSAL-AMMONIACcARSENICcREALGARcREALGAR-2
cAURIPIGMENTcBISMUTH OREcTARTARcTARTAR-2cQUICK LIMEcBORAXcBORAX-2cBORAX-3cALUMcOILcSPIRITcTINCTURE
cGUMcWAXcPOWDERcCALXcTUTTYcCAPUT MORTUUMcSCEPTER OF JOVEcCADUCEUScTRIDENTcSTARRED TRIDENT
cLODESTONEcSOAPcURINEcHORSE DUNGcASHEScPOT ASHEScBRICKcPOWDERED BRICKcAMALGAM
cSTRATUM SUPER STRATUMeSTRATUM-2cSUBLIMATIONcPRECIPITATEcDISTILLcDISSOLVEcDISSOLVE-2cPURIFY
cPUTREFACTIONcCRUCIBLEcCRUCIBLE-2cCRUCIBLE-3cCRUCIBLE-4cCRUCIBLE-5cALEMBICcBATH OF MARYeVAPOURS
cRETORTcHOURcNIGHTcDAY-NIGHTcMONTHcHALF DRAMdOUNCE=cEF:2135aSYMBOL=dMBIC:2697a=dRT:7a
=cIEN:1F47EaMONSTER=cL:224CaEQUAL TO:232EaAROUND-PROFILE=cM:61Ca=dOST:2248aEQUAL TO
:224AbOR EQUAL TO:2A6FbTO WITH CIRCUMFLEX ACCENT=cTERNATE:26D5aONE-WAY LEFT WAY TRAFFIC
=iIVE:2387aKEY SYMBOL=bMALGAMATION:2A3FaOR COPRODUCT=cBULANCE:1F691a=cERICAN:1F3C8aFOOTBALL
=cPERSAND:26a=dHORA:1F3FAa=bNATOLIAN:14400aHIEROGLYPH A001bA002bA003bA004bA005bA006bA007bA008bA009
bA010bA010AbA011bA012bA013bA014bA015bA016bA017bA018bA019bA020bA021bA022bA023bA024bA025bA026bA026A
bA027bA028bA029bA030bA031bA032bA033bA034bA035bA036bA037bA038bA039bA039AbA040bA041bA041AbA042bA043
bA044bA045bA045AbA046bA046AbA046BbA047bA048bA049bA050bA051bA052bA053bA054bA055bA056bA057bA058bA059
bA060bA061bA062bA063bA064bA065bA066bA066AbA066BbA066CbA067bA068bA069bA070bA071bA072bA073bA074bA075
bA076bA077bA078bA079bA080bA081bA082bA083bA084bA085bA086bA087bA088bA089bA090bA091bA092bA093bA094
bA095bA096bA097bA097AbA098bA098AbA099bA100bA100AbA101bA101AbA102bA102AbA103bA104bA104AbA104BbA104C
bA105bA105AbA105BbA106bA107bA107AbA107BbA107CbA108bA109bA110bA110AbA110BbA111bA112bA113bA114bA115
bA115AbA116bA117bA118bA119bA120bA121bA122bA123bA124bA125bA125AbA126bA127bA128bA129bA130bA131bA132
bA133bA134bA135bA135AbA136bA137bA138bA139bA140bA141bA142bA143bA144bA145bA146bA147bA148bA149bA150
bA151bA152bA153bA154bA155bA156bA157bA158bA159bA160bA161bA162bA163bA164bA165bA166bA167bA168bA169
bA170bA171bA172bA173bA174bA175bA176bA177bA178bA179bA180bA181bA182bA183bA184bA185bA186bA187bA188
bA189bA190bA191bA192bA193bA194bA195bA196bA197bA198bA199bA200bA201bA202bA202AbA202BbA203bA204bA205
bA206bA207bA207AbA208bA209bA209AbA210bA211bA212bA213bA214bA215bA215AbA216bA216AbA217bA218bA219
bA220bA221bA222bA223bA224bA225bA226bA227bA227AbA228bA229bA230bA231bA232bA233bA234bA235bA236bA237
bA238bA239bA240bA241bA242bA243bA244bA245bA246bA247bA248bA249bA250bA251bA252bA253bA254bA255bA256
bA257bA258bA259bA260bA261bA262bA263bA264bA265bA266bA267bA267AbA268bA269bA270bA271bA272bA273bA274
bA275bA276bA277bA278bA279bA280bA281bA282bA283bA284bA285bA286bA287bA288bA289bA289AbA290bA291bA292
bA293bA294bA294AbA295bA296bA297bA298bA299bA299AbA300bA301bA302bA303bA304bA305bA306bA307bA308bA309
bA309AbA310bA311bA312bA313bA314bA315bA316bA317bA318bA319bA320bA321bA322bA323bA324bA325bA326bA327
bA328bA329bA329AbA330bA331bA332AbA332BbA332CbA333bA334bA335bA336bA336AbA336BbA336CbA337bA338bA339
bA340bA341bA342bA343bA344bA345bA346bA347bA348bA349bA350bA351bA352bA353bA354bA355bA356bA357bA358
bA359bA359AbA360bA361bA362bA363bA364bA364AbA365bA366bA367bA368bA368AbA369bA370bA371bA371AbA372
bA373bA374bA375bA376bA377bA378bA379bA380bA381bA381AbA382bA383 RA OR RIbA383AbA384bA385bA386bA386A
bA387bA388bA389bA390bA391bA392bA393 EIGHTbA394bA395bA396bA397bA398bA399bA400bA401bA402bA403bA404
bA405bA406bA407bA408bA409bA410 BEGIN LOGOGRAM MARKbA410A END LOGOGRAM MARKbA411bA412bA413bA414
bA415bA416bA417bA418bA419bA420bA421bA422bA423bA424bA425bA426bA427bA428bA429bA430bA431bA432bA433
bA434bA435bA436bA437bA438bA439bA440bA441bA442bA443bA444bA445bA446bA447bA448bA449bA450bA450AbA451
bA452bA453bA454bA455bA456bA457bA457AbA458bA459bA460bA461bA462bA463bA464bA465bA466bA467bA468bA469
bA470bA471bA472bA473bA474bA475bA476bA477bA478bA479bA480bA481bA482bA483bA484bA485bA486bA487bA488
bA489bA490bA491bA492bA493bA494bA495bA496bA497bA501bA502bA503bA504bA505bA506bA507bA508bA509bA510
bA511bA512bA513bA514bA515bA516bA517bA518bA519bA520bA521bA522bA523bA524bA525bA526bA527bA528bA529
bA530=fMICAL:1FAC0aHEART=cCHOR:2693a=cD:27D1aWITH DOT=cGER:1F4A2aSYMBOL=dLE:2220a
:299EaWITH S INSIDE:29A4bUNDERBAR=dRY:1F620aFACE=dSTROM:212BaSIGN=dUISHED:1F627aFACE=cKH:2625a
=cT:1F41Ca=dENNA:1F4F6aWITH BARS=dICLOCKWISE:21B6aTOP SEMICIRCLE ARROW:21BAaOPEN CIRCLE ARROW
:2233aCONTOUR INTEGRAL:27F2aGAPPED CIRCLE ARROW:2940aCLOSED CIRCLE ARROW:2A11aINTEGRATION
:2B6FaTRIANGLE-HEADED OPEN CIRCLE ARROW:2B8CbRIGHT U-SHAPED ARROWbBOTTOM U-SHAPED ARROW
bLEFT U-SHAPED ARROWbTOP U-SHAPED ARROW:1F504aDOWNWARDS AND UPWARDS OPEN CIRCLE ARROWS=bPC:9Fa
=cL:2336aFUNCTIONAL SYMBOL I-BEAMcSQUISH QUADcQUAD EQUALdDIVIDEdDIAMONDdJOTdCIRCLEcCIRCLE STILE
dJOTcSLASH BARcBACKSLASH BARcQUAD SLASHdBACKSLASHdLESS-THANdGREATER-THANcLEFTWARDS VANE
cRIGHTWARDS VANEcQUAD LEFTWARDS ARROWdRIGHTWARDS ARROWcCIRCLE BACKSLASHcDOWN TACK UNDERBAR
cDELTA STILEcQUAD DOWN CARETdDELTAcDOWN TACK JOTcUPWARDS VANEcQUAD UPWARDS ARROWcUP TACK OVERBAR
cDEL STILEcQUAD UP CARETdDELcUP TACK JOTcDOWNWARDS VANEcQUAD DOWNWARDS ARROWcQUOTE UNDERBAR
cDELTA UNDERBARcDIAMOND UNDERBARcJOT UNDERBARcCIRCLE UNDERBARcUP SHOE JOTcQUOTE QUADcCIRCLE STAR
cQUAD COLONcUP TACK DIAERESIScDEL DIAERESIScSTAR DIAERESIScJOT DIAERESIScCIRCLE DIAERESIS
cDOWN SHOE STILEcLEFT SHOE STILEcTILDE DIAERESIScGREATER-THAN DIAERESIScCOMMA BARcDEL TILDEcZILDE
cSTILE TILDEcSEMICOLON UNDERBARcQUAD NOT EQUALdQUESTIONcDOWN CARET TILDEcUP CARET TILDEcIOTAcRHO
cOMEGAcALPHA UNDERBARcEPSILON UNDERBARcIOTA UNDERBARcOMEGA UNDERBARcALPHA:2395cQUAD=cOLLON:2BE4a
=dSTROPHE:27a=cPLICATION:9FaPROGRAM COMMAND=dROACHES:2250aTHE LIMIT=fXIMATELY:2245aEQUAL TO
aBUT NOT ACTUALLY EQUAL TO:2252aEQUAL TO OR THE IMAGE OF:2A70bOR EQUAL TO=bQUARIUS:2652a
=bRABIC:600aNUMBER SIGNaSIGN SANAHaFOOTNOTE MARKERaSIGN SAFHAbSAMVATaNUMBER MARK ABOVE:608aRAY
:60CaCOMMAaDATE SEPARATORaPOETIC VERSE SIGNaSIGN MISRAbSALLALLAHOU ALAYHE WASSALLAM
bALAYHE ASSALLAMbRAHMATULLAH ALAYHEbRADI ALLAHOU ANHUbTAKHALLUSaSMALL HIGH TAH
cLIGATURE ALEF WITH LAM WITH YEHcZAINbFATHAbDAMMAbKASRAaSEMICOLONaLETTER MARKaEND OF TEXT MARK
aTRIPLE DOT PUNCTUATION MARKaQUESTION MARKaLETTER KASHMIRI YEHbHAMZAbALEF WITH MADDA ABOVE
dHAMZA ABOVEbWAW WITH HAMZA ABOVEbALEF WITH HAMZA BELOWbYEH WITH HAMZA ABOVEbALEFbBEHbTEH MARBUTAc
bTHEHbJEEMbHAHbKHAHbDALbTHALbREHbZAINbSEENbSHEENbSADbDADbTAHbZAHbAINbGHAIN
bKEHEH WITH TWO DOTS ABOVEdTHREE DOTS BELOWbFARSI YEH WITH INVERTED VeTWO DOTS ABOVE
eTHREE DOTS ABOVEaTATWEELaLETTER FEHbQAFbKAFbLAMbMEEMbNOONbHEHbWAWbALEF MAKSURAbYEHaFATHATAN
aDAMMATANaKASRATANaFATHAaDAMMAaKASRAaSHADDAaSUKUNaMADDAH ABOVEaHAMZA ABOVEbBELOWaSUBSCRIPT ALEF
aINVERTED DAMMAaMARK NOON GHUNNAaZWARAKAYaVOWEL SIGN SMALL V ABOVEcINVERTED SMALL V ABOVE
cDOT BELOWaREVERSED DAMMAaFATHA WITH TWO DOTSaWAVY HAMZA BELOW:66AaPERCENT SIGNaDECIMAL SEPARATOR
aTHOUSANDS SEPARATORaFIVE POINTED STARaLETTER DOTLESS BEHcQAFbSUPERSCRIPT ALEFbALEF WASLA
cWITH WAVY HAMZA ABOVEfBELOWbHIGH HAMZAdALEFdWAWbU WITH HAMZA ABOVEbHIGH HAMZA YEHbTTEHbTTEHEH
bBEEHbTEH WITH RINGdTHREE DOTS ABOVE DOWNWARDSbPEHbTEHEHbBEHEHbHAH WITH HAMZA ABOVE
dTWO DOTS VERTICAL ABOVEbNYEHbDYEHbHAH WITH THREE DOTS ABOVEbTCHEHbTCHEHEHbDDALbDAL WITH RING
dDOT BELOWfAND SMALL TAHbDAHALbDDAHALbDULbDAL WITH THREE DOTS ABOVE DOWNWARDSdFOUR DOTS ABOVEbRREH
bREH WITH SMALL VdRINGdDOT BELOWdSMALL V BELOWdDOT BELOW AND DOT ABOVEdTWO DOTS ABOVEbJEH
bREH WITH FOUR DOTS ABOVEbSEEN WITH DOT BELOW AND DOT ABOVEdTHREE DOTS BELOWgAND THREE DOTS ABOVE
bSAD WITH TWO DOTS BELOWdTHREE DOTS ABOVEbTAH WITH THREE DOTS ABOVEbAIN WITH THREE DOTS ABOVE
bDOTLESS FEHbFEH WITH DOT MOVED BELOWeBELOWbVEHbFEH WITH THREE DOTS BELOWbPEHEHbQAF WITH DOT ABOVE
dTHREE DOTS ABOVEbKEHEHbSWASH KAFbKAF WITH RINGdDOT ABOVEbNGbKAF WITH THREE DOTS BELOWbGAF
cWITH RINGbNGOEHbGAF WITH TWO DOTS BELOWbGUEHbGAF WITH THREE DOTS ABOVEbLAM WITH SMALL VdDOT ABOVE
dTHREE DOTS ABOVEfBELOWbNOON WITH DOT BELOWcGHUNNAbRNOONbNOON WITH RINGdTHREE DOTS ABOVE
bHEH DOACHASHMEEbTCHEH WITH DOT ABOVEbHEH WITH YEH ABOVEcGOALdWITH HAMZA ABOVEbTEH MARBUTA GOAL
bWAW WITH RINGbKIRGHIZ OEbOEbUbYUbKIRGHIZ YUbWAW WITH TWO DOTS ABOVEbVEbFARSI YEHbYEH WITH TAIL
dSMALL VbWAW WITH DOT ABOVEbEbYEH WITH THREE DOTS BELOWcBARREEdWITH HAMZA ABOVEaFULL STOP
aLETTER AEaSMALL HIGH LIGATURE SAD WITH LAM WITH ALEF MAKSURAdQAF WITH LAM WITH ALEF MAKSURA
cMEEM INITIAL FORMcLAM ALEFcJEEMcTHREE DOTScSEENaEND OF AYAHaSTART OF RUB EL HIZB
aSMALL HIGH ROUNDED ZEROcUPRIGHT RECTANGULAR ZEROcDOTLESS HEAD OF KHAHcMEEM ISOLATED FORMbLOW SEEN
bHIGH MADDAbWAWbYEHbHIGH YEHcNOONaPLACE OF SAJDAHaEMPTY CENTRE LOW STOPcHIGH STOP
aROUNDED HIGH STOP WITH FILLED CENTREaSMALL LOW MEEMaLETTER DAL WITH INVERTED V
bREH WITH INVERTED V:6FAbSHEEN WITH DOT BELOWbDAD WITH DOT BELOWbGHAIN WITH DOT BELOW
aSIGN SINDHI AMPERSANDcPOSTPOSITION MENaLETTER HEH WITH INVERTED V
:750bBEH WITH THREE DOTS HORIZONTALLY BELOWdDOT BELOW AND THREE DOTS ABOVE
dTHREE DOTS POINTING UPWARDS BELOWiAND TWO DOTS ABOVEdTWO DOTS BELOW AND DOT ABOVE
dINVERTED SMALL V BELOWdSMALL VbHAH WITH TWO DOTS ABOVEdTHREE DOTS POINTING UPWARDS BELOW
bDAL WITH TWO DOTS VERTICALLY BELOW AND SMALL TAHdINVERTED SMALL V BELOWbREH WITH STROKE
bSEEN WITH FOUR DOTS ABOVEbAIN WITH TWO DOTS ABOVEdTHREE DOTS POINTING DOWNWARDS ABOVE
dTWO DOTS VERTICALLY ABOVEbFEH WITH TWO DOTS BELOWdTHREE DOTS POINTING UPWARDS BELOW
bKEHEH WITH DOT ABOVEdTHREE DOTS ABOVEfPOINTING UPWARDS BELOWbMEEM WITH DOT ABOVEeBELOW
bNOON WITH TWO DOTS BELOWdSMALL TAHeVbLAM WITH BARbREH WITH TWO DOTS VERTICALLY ABOVEdHAMZA ABOVE
bSEEN WITH TWO DOTS VERTICALLY ABOVEbHAH WITH SMALL ARABIC LETTER TAH BELOWhAND TWO DOTS
bSEEN WITH SMALL ARABIC LETTER TAH AND TWO DOTSbREH WITH SMALL ARABIC LETTER TAH AND TWO DOTS
bHAH WITH SMALL ARABIC LETTER TAH ABOVEbALEF WITH EXTENDED ARABIC-INDIC DIGIT TWO ABOVE
gTHREE ABOVEbFARSI YEH WITH EXTENDED ARABIC-INDIC DIGIT TWO ABOVEhTHREE ABOVEhFOUR BELOW
bWAW WITH EXTENDED ARABIC-INDIC DIGIT TWO ABOVEgTHREE ABOVE
bYEH BARREE WITH EXTENDED ARABIC-INDIC DIGIT TWO ABOVEhTHREE ABOVE
bHAH WITH EXTENDED ARABIC-INDIC DIGIT FOUR BELOWbSEEN WITH EXTENDED ARABIC-INDIC DIGIT FOUR ABOVE
dINVERTED VbKAF WITH TWO DOTS ABOVE:870bALEF WITH ATTACHED FATHAeTOP RIGHT FATHA
dRIGHT MIDDLE STROKEdLEFT MIDDLE STROKEdATTACHED KASRAeBOTTOM RIGHT KASRAeROUND DOT ABOVE
eRIGHT ROUND DOTeLEFT ROUND DOTeROUND DOT BELOWdDOT ABOVEdATTACHED TOP RIGHT FATHA AND DOT ABOVE
dRIGHT MIDDLE STROKE AND DOT ABOVEdATTACHED BOTTOM RIGHT KASRA AND DOT ABOVE
eTOP RIGHT FATHA AND LEFT RINGdRIGHT MIDDLE STROKE AND LEFT RING
dATTACHED BOTTOM RIGHT KASRA AND LEFT RINGeRIGHT HAMZAeLEFT HAMZAaTATWEEL WITH OVERSTRUCK HAMZA
dWAWcTWO DOTS BELOWaLETTER THIN YEHaBASELINE ROUND DOTaRAISED ROUND DOT
aLETTER NOON WITH INVERTED SMALL VbHAH WITH INVERTED SMALL V BELOWbTAH WITH DOT BELOW
dTHREE DOTS BELOWbKEHEH WITH TWO DOTS VERTICALLY BELOWaVERTICAL TAIL:890aPOUND MARK ABOVE
aPIASTRE MARK ABOVE:898aSMALL HIGH WORD AL-JUZbLOW WORD ISHMAAMdIMAALAdTASHEELaMADDA WAAJIB
aSUPERSCRIPT ALEF MOKHASSASaDOUBLED MADDAaHALF MADDA OVER MADDAaLETTER BEH WITH SMALL V BELOW
dHAMZA ABOVEbJEEM WITH TWO DOTS ABOVEbTAH WITH TWO DOTS ABOVE
bFEH WITH DOT BELOW AND THREE DOTS ABOVEbQAF WITH DOT BELOWbLAM WITH DOUBLE BAR
bMEEM WITH THREE DOTS ABOVEbYEH WITH TWO DOTS BELOW AND HAMZA ABOVEhDOT ABOVEbREH WITH LOOP
bWAW WITH DOT WITHINbROHINGYA YEHbLOW ALEFbDAL WITH THREE DOTS BELOWbSAD WITH THREE DOTS BELOW
bGAF WITH INVERTED STROKEbSTRAIGHT WAWbZAIN WITH INVERTED V ABOVEbAIN WITH THREE DOTS BELOW
bKAF WITH DOT BELOWbQAF WITH DOT BELOW AND NO DOTS ABOVEbBEH WITH SMALL MEEM ABOVE
bPEH WITH SMALL MEEM ABOVEbTEH WITH SMALL TEH ABOVEbREH WITH SMALL NOON ABOVE
bYEH WITH TWO DOTS BELOW AND SMALL NOON ABOVEbAFRICAN FEHcQAFcNOONbPEH WITH SMALL V
bTEH WITH SMALL VbTTEH WITH SMALL VbTCHEH WITH SMALL VbKEHEH WITH SMALL V
bGHAIN WITH THREE DOTS ABOVEbAFRICAN QAF WITH THREE DOTS ABOVEbJEEM WITH THREE DOTS ABOVEfBELOW
bLAM WITH SMALL ARABIC LETTER TAH ABOVEbGRAFaSMALL FARSI YEHbHIGH FARSI YEH
cYEH BARREE WITH TWO DOTS BELOWcWORD SAHcZAHaLARGE ROUND DOT ABOVEdBELOWaSUKUN BELOW
aLARGE CIRCLE BELOWbROUND DOT INSIDE CIRCLE BELOWaSMALL LOW WAWbHIGH WORD AR-RUBcSADcAINcQAF
cNOON WITH KASRAbLOW NOON WITH KASRAbHIGH WORD ATH-THALATHAdAS-SAJDAdAN-NISFdSAKTAdQIFdWAQFA
cFOOTNOTE MARKERcSIGN SAFHAaDISPUTED END OF AYAHaTURNED DAMMA BELOWaCURLY FATHAbDAMMAbKASRA
bFATHATANbDAMMATANbKASRATANaTONE ONE DOT ABOVEbTWO DOTS ABOVEbLOOP ABOVEbONE DOT BELOW
bTWO DOTS BELOWbLOOP BELOWaOPEN FATHATANbDAMMATANbKASRATANaSMALL HIGH WAWaFATHA WITH RING
cDOT ABOVEaKASRA WITH DOT BELOWaLEFT ARROWHEAD ABOVEaRIGHT ARROWHEAD ABOVEaLEFT ARROWHEAD BELOW
aRIGHT ARROWHEAD BELOWaDOUBLE RIGHT ARROWHEAD ABOVEeWITH DOTaRIGHT ARROWHEAD ABOVE WITH DOT
aDAMMA WITH DOTaMARK SIDEWAYS NOON GHUNNA:FB50aLETTER ALEF WASLA ISOLATED FORMdFINAL FORM
bBEEH ISOLATED FORMcFINAL FORMcINITIAL FORMcMEDIAL FORMbPEH ISOLATED FORMcFINAL FORMcINITIAL FORM
cMEDIAL FORMbBEHEH ISOLATED FORMcFINAL FORMcINITIAL FORMcMEDIAL FORMbTTEHEH ISOLATED FORM
cFINAL FORMcINITIAL FORMcMEDIAL FORMbTEHEH ISOLATED FORMcFINAL FORMcINITIAL FORMcMEDIAL FORM
bTTEH ISOLATED FORMcFINAL FORMcINITIAL FORMcMEDIAL FORMbVEH ISOLATED FORMcFINAL FORMcINITIAL FORM
cMEDIAL FORMbPEHEH ISOLATED FORMcFINAL FORMcINITIAL FORMcMEDIAL FORMbDYEH ISOLATED FORMcFINAL FORM
cINITIAL FORMcMEDIAL FORMbNYEH ISOLATED FORMcFINAL FORMcINITIAL FORMcMEDIAL FORM
bTCHEH ISOLATED FORMcFINAL FORMcINITIAL FORMcMEDIAL FORMbTCHEHEH ISOLATED FORMcFINAL FORM
cINITIAL FORMcMEDIAL FORMbDDAHAL ISOLATED FORMcFINAL FORMbDAHAL ISOLATED FORMcFINAL FORM
bDUL ISOLATED FORMcFINAL FORMbDDAL ISOLATED FORMcFINAL FORMbJEH ISOLATED FORMcFINAL FORM
bRREH ISOLATED FORMcFINAL FORMbKEHEH ISOLATED FORMcFINAL FORMcINITIAL FORMcMEDIAL FORM
bGAF ISOLATED FORMcFINAL FORMcINITIAL FORMcMEDIAL FORMbGUEH ISOLATED FORMcFINAL FORMcINITIAL FORM
cMEDIAL FORMbNGOEH ISOLATED FORMcFINAL FORMcINITIAL FORMcMEDIAL FORMbNOON GHUNNA ISOLATED FORM
dFINAL FORMbRNOON ISOLATED FORMcFINAL FORMcINITIAL FORMcMEDIAL FORM
bHEH WITH YEH ABOVE ISOLATED FORMfFINAL FORMcGOAL ISOLATED FORMdFINAL FORMdINITIAL FORM
dMEDIAL FORMcDOACHASHMEE ISOLATED FORMdFINAL FORMdINITIAL FORMdMEDIAL FORM
bYEH BARREE ISOLATED FORMdFINAL FORMdWITH HAMZA ABOVE ISOLATED FORMgFINAL FORMaSYMBOL DOT ABOVE
cBELOWbTWO DOTS ABOVEdBELOWbTHREE DOTS ABOVEdBELOWdPOINTING DOWNWARDS ABOVEfBELOWbFOUR DOTS ABOVE
dBELOWbDOUBLE VERTICAL BAR BELOWbTWO DOTS VERTICALLY ABOVEeBELOWbRINGbSMALL TAH ABOVEdBELOW
bWASLA ABOVE:FBD3aLETTER NG ISOLATED FORMcFINAL FORMcINITIAL FORMcMEDIAL FORMbU ISOLATED FORM
cFINAL FORMbOE ISOLATED FORMcFINAL FORMbYU ISOLATED FORMcFINAL FORM
bU WITH HAMZA ABOVE ISOLATED FORMbVE ISOLATED FORMcFINAL FORMbKIRGHIZ OE ISOLATED FORMdFINAL FORM
cYU ISOLATED FORMdFINAL FORMbE ISOLATED FORMcFINAL FORMcINITIAL FORMcMEDIAL FORM
bUIGHUR KAZAKH KIRGHIZ ALEF MAKSURA INITIAL FORMgMEDIAL FORM
aLIGATURE YEH WITH HAMZA ABOVE WITH ALEF ISOLATED FORMhFINAL FORMgAE ISOLATED FORMhFINAL FORM
gWAW ISOLATED FORMhFINAL FORMgU ISOLATED FORMhFINAL FORMgOE ISOLATED FORMhFINAL FORM
gYU ISOLATED FORMhFINAL FORMgE ISOLATED FORMhFINAL FORMhINITIAL FORM
bUIGHUR KIRGHIZ YEH WITH HAMZA ABOVE WITH ALEF MAKSURA ISOLATED FORMkFINAL FORMkINITIAL FORM
aLETTER FARSI YEH ISOLATED FORMdFINAL FORMdINITIAL FORMdMEDIAL FORM
aLIGATURE YEH WITH HAMZA ABOVE WITH JEEM ISOLATED FORMgHAH ISOLATED FORMgMEEM ISOLATED FORM
gALEF MAKSURA ISOLATED FORMgYEH ISOLATED FORMbBEH WITH JEEM ISOLATED FORMdHAH ISOLATED FORM
dKHAH ISOLATED FORMdMEEM ISOLATED FORMdALEF MAKSURA ISOLATED FORMdYEH ISOLATED FORM
bTEH WITH JEEM ISOLATED FORMdHAH ISOLATED FORMdKHAH ISOLATED FORMdMEEM ISOLATED FORM
dALEF MAKSURA ISOLATED FORMdYEH ISOLATED FORMbTHEH WITH JEEM ISOLATED FORMdMEEM ISOLATED FORM
dALEF MAKSURA ISOLATED FORMdYEH ISOLATED FORMbJEEM WITH HAH ISOLATED FORMdMEEM ISOLATED FORM
bHAH WITH JEEM ISOLATED FORMdMEEM ISOLATED FORMbKHAH WITH JEEM ISOLATED FORMdHAH ISOLATED FORM
dMEEM ISOLATED FORMbSEEN WITH JEEM ISOLATED FORMdHAH ISOLATED FORMdKHAH ISOLATED FORM
dMEEM ISOLATED FORMbSAD WITH HAH ISOLATED FORMdMEEM ISOLATED FORMbDAD WITH JEEM ISOLATED FORM
dHAH ISOLATED FORMdKHAH ISOLATED FORMdMEEM ISOLATED FORMbTAH WITH HAH ISOLATED FORM
dMEEM ISOLATED FORMbZAH WITH MEEM ISOLATED FORMbAIN WITH JEEM ISOLATED FORMdMEEM ISOLATED FORM
bGHAIN WITH JEEM ISOLATED FORMdMEEM ISOLATED FORMbFEH WITH JEEM ISOLATED FORMdHAH ISOLATED FORM
dKHAH ISOLATED FORMdMEEM ISOLATED FORMdALEF MAKSURA ISOLATED FORMdYEH ISOLATED FORM
bQAF WITH HAH ISOLATED FORMdMEEM ISOLATED FORMdALEF MAKSURA ISOLATED FORMdYEH ISOLATED FORM
bKAF WITH ALEF ISOLATED FORMdJEEM ISOLATED FORMdHAH ISOLATED FORMdKHAH ISOLATED FORM
dLAM ISOLATED FORMdMEEM ISOLATED FORMdALEF MAKSURA ISOLATED FORMdYEH ISOLATED FORM
bLAM WITH JEEM ISOLATED FORMdHAH ISOLATED FORMdKHAH ISOLATED FORMdMEEM ISOLATED FORM
dALEF MAKSURA ISOLATED FORMdYEH ISOLATED FORMbMEEM WITH JEEM ISOLATED FORMdHAH ISOLATED FORM
dKHAH ISOLATED FORMdMEEM ISOLATED FORMdALEF MAKSURA ISOLATED FORMdYEH ISOLATED FORM
bNOON WITH JEEM ISOLATED FORMdHAH ISOLATED FORMdKHAH ISOLATED FORMdMEEM ISOLATED FORM
dALEF MAKSURA ISOLATED FORMdYEH ISOLATED FORMbHEH WITH JEEM ISOLATED FORMdMEEM ISOLATED FORM
dALEF MAKSURA ISOLATED FORMdYEH ISOLATED FORMbYEH WITH JEEM ISOLATED FORMdHAH ISOLATED FORM
dKHAH ISOLATED FORMdMEEM ISOLATED FORMdALEF MAKSURA ISOLATED FORMdYEH ISOLATED FORM
bTHAL WITH SUPERSCRIPT ALEF ISOLATED FORMbREH WITH SUPERSCRIPT ALEF ISOLATED FORM
bALEF MAKSURA WITH SUPERSCRIPT ALEF ISOLATED FORMbSHADDA WITH DAMMATAN ISOLATED FORM
dKASRATAN ISOLATED FORMdFATHA ISOLATED FORMdDAMMA ISOLATED FORMdKASRA ISOLATED FORM
dSUPERSCRIPT ALEF ISOLATED FORMbYEH WITH HAMZA ABOVE WITH REH FINAL FORMgZAIN FINAL FORM
gMEEM FINAL FORMgNOON FINAL FORMgALEF MAKSURA FINAL FORMgYEH FINAL FORMbBEH WITH REH FINAL FORM
dZAIN FINAL FORMdMEEM FINAL FORMdNOON FINAL FORMdALEF MAKSURA FINAL FORMdYEH FINAL FORM
bTEH WITH REH FINAL FORMdZAIN FINAL FORMdMEEM FINAL FORMdNOON FINAL FORMdALEF MAKSURA FINAL FORM
dYEH FINAL FORMbTHEH WITH REH FINAL FORMdZAIN FINAL FORMdMEEM FINAL FORMdNOON FINAL FORM
dALEF MAKSURA FINAL FORMdYEH FINAL FORMbFEH WITH ALEF MAKSURA FINAL FORMdYEH FINAL FORM
bQAF WITH ALEF MAKSURA FINAL FORMdYEH FINAL FORMbKAF WITH ALEF FINAL FORMdLAM FINAL FORM
dMEEM FINAL FORMdALEF MAKSURA FINAL FORMdYEH FINAL FORMbLAM WITH MEEM FINAL FORM
dALEF MAKSURA FINAL FORMdYEH FINAL FORMbMEEM WITH ALEF FINAL FORMdMEEM FINAL FORM
bNOON WITH REH FINAL FORMdZAIN FINAL FORMdMEEM FINAL FORMdNOON FINAL FORMdALEF MAKSURA FINAL FORM
dYEH FINAL FORMbALEF MAKSURA WITH SUPERSCRIPT ALEF FINAL FORMbYEH WITH REH FINAL FORM
dZAIN FINAL FORMdMEEM FINAL FORMdNOON FINAL FORMdALEF MAKSURA FINAL FORMdYEH FINAL FORM
dHAMZA ABOVE WITH JEEM INITIAL FORMgHAH INITIAL FORMgKHAH INITIAL FORMgMEEM INITIAL FORM
gHEH INITIAL FORMbBEH WITH JEEM INITIAL FORMdHAH INITIAL FORMdKHAH INITIAL FORMdMEEM INITIAL FORM
dHEH INITIAL FORMbTEH WITH JEEM INITIAL FORMdHAH INITIAL FORMdKHAH INITIAL FORMdMEEM INITIAL FORM
dHEH INITIAL FORMbTHEH WITH MEEM INITIAL FORMbJEEM WITH HAH INITIAL FORMdMEEM INITIAL FORM
bHAH WITH JEEM INITIAL FORMdMEEM INITIAL FORMbKHAH WITH JEEM INITIAL FORMdMEEM INITIAL FORM
bSEEN WITH JEEM INITIAL FORMdHAH INITIAL FORMdKHAH INITIAL FORMdMEEM INITIAL FORM
bSAD WITH HAH INITIAL FORMdKHAH INITIAL FORMdMEEM INITIAL FORMbDAD WITH JEEM INITIAL FORM
dHAH INITIAL FORMdKHAH INITIAL FORMdMEEM INITIAL FORMbTAH WITH HAH INITIAL FORM
bZAH WITH MEEM INITIAL FORMbAIN WITH JEEM INITIAL FORMdMEEM INITIAL FORM
bGHAIN WITH JEEM INITIAL FORMdMEEM INITIAL FORMbFEH WITH JEEM INITIAL FORMdHAH INITIAL FORM
dKHAH INITIAL FORMdMEEM INITIAL FORMbQAF WITH HAH INITIAL FORMdMEEM INITIAL FORM
bKAF WITH JEEM INITIAL FORMdHAH INITIAL FORMdKHAH INITIAL FORMdLAM INITIAL FORMdMEEM INITIAL FORM
bLAM WITH JEEM INITIAL FORMdHAH INITIAL FORMdKHAH INITIAL FORMdMEEM INITIAL FORMdHEH INITIAL FORM
bMEEM WITH JEEM INITIAL FORMdHAH INITIAL FORMdKHAH INITIAL FORMdMEEM INITIAL FORM
bNOON WITH JEEM INITIAL FORMdHAH INITIAL FORMdKHAH INITIAL FORMdMEEM INITIAL FORMdHEH INITIAL FORM
bHEH WITH JEEM INITIAL FORMdMEEM INITIAL FORMdSUPERSCRIPT ALEF INITIAL FORM
bYEH WITH JEEM INITIAL FORMdHAH INITIAL FORMdKHAH INITIAL FORMdMEEM INITIAL FORMdHEH INITIAL FORM
dHAMZA ABOVE WITH MEEM MEDIAL FORMgHEH MEDIAL FORMbBEH WITH MEEM MEDIAL FORMdHEH MEDIAL FORM
bTEH WITH MEEM MEDIAL FORMdHEH MEDIAL FORMbTHEH WITH MEEM MEDIAL FORMdHEH MEDIAL FORM
bSEEN WITH MEEM MEDIAL FORMdHEH MEDIAL FORMbSHEEN WITH MEEM MEDIAL FORMdHEH MEDIAL FORM
bKAF WITH LAM MEDIAL FORMdMEEM MEDIAL FORMbLAM WITH MEEM MEDIAL FORMbNOON WITH MEEM MEDIAL FORM
dHEH MEDIAL FORMbYEH WITH MEEM MEDIAL FORMdHEH MEDIAL FORMbSHADDA WITH FATHA MEDIAL FORM
dDAMMA MEDIAL FORMdKASRA MEDIAL FORMbTAH WITH ALEF MAKSURA ISOLATED FORMdYEH ISOLATED FORM
bAIN WITH ALEF MAKSURA ISOLATED FORMdYEH ISOLATED FORMbGHAIN WITH ALEF MAKSURA ISOLATED FORM
dYEH ISOLATED FORMbSEEN WITH ALEF MAKSURA ISOLATED FORMdYEH ISOLATED FORM
bSHEEN WITH ALEF MAKSURA ISOLATED FORMdYEH ISOLATED FORMbHAH WITH ALEF MAKSURA ISOLATED FORM
dYEH ISOLATED FORMbJEEM WITH ALEF MAKSURA ISOLATED FORMdYEH ISOLATED FORM
bKHAH WITH ALEF MAKSURA ISOLATED FORMdYEH ISOLATED FORMbSAD WITH ALEF MAKSURA ISOLATED FORM
dYEH ISOLATED FORMbDAD WITH ALEF MAKSURA ISOLATED FORMdYEH ISOLATED FORM
bSHEEN WITH JEEM ISOLATED FORMdHAH ISOLATED FORMdKHAH ISOLATED FORMdMEEM ISOLATED FORM
dREH ISOLATED FORMbSEEN WITH REH ISOLATED FORMbSAD WITH REH ISOLATED FORM
bDAD WITH REH ISOLATED FORMbTAH WITH ALEF MAKSURA FINAL FORMdYEH FINAL FORM
bAIN WITH ALEF MAKSURA FINAL FORMdYEH FINAL FORMbGHAIN WITH ALEF MAKSURA FINAL FORMdYEH FINAL FORM
bSEEN WITH ALEF MAKSURA FINAL FORMdYEH FINAL FORMbSHEEN WITH ALEF MAKSURA FINAL FORM
dYEH FINAL FORMbHAH WITH ALEF MAKSURA FINAL FORMdYEH FINAL FORMbJEEM WITH ALEF MAKSURA FINAL FORM
dYEH FINAL FORMbKHAH WITH ALEF MAKSURA FINAL FORMdYEH FINAL FORMbSAD WITH ALEF MAKSURA FINAL FORM
dYEH FINAL FORMbDAD WITH ALEF MAKSURA FINAL FORMdYEH FINAL FORMbSHEEN WITH JEEM FINAL FORM
dHAH FINAL FORMdKHAH FINAL FORMdMEEM FINAL FORMdREH FINAL FORMbSEEN WITH REH FINAL FORM
bSAD WITH REH FINAL FORMbDAD WITH REH FINAL FORMbSHEEN WITH JEEM INITIAL FORMdHAH INITIAL FORM
dKHAH INITIAL FORMdMEEM INITIAL FORMbSEEN WITH HEH INITIAL FORMbSHEEN WITH HEH INITIAL FORM
bTAH WITH MEEM INITIAL FORMbSEEN WITH JEEM MEDIAL FORMdHAH MEDIAL FORMdKHAH MEDIAL FORM
bSHEEN WITH JEEM MEDIAL FORMdHAH MEDIAL FORMdKHAH MEDIAL FORMbTAH WITH MEEM MEDIAL FORM
bZAH WITH MEEM MEDIAL FORMbALEF WITH FATHATAN FINAL FORMeISOLATED FORM:FD40bRAHIMAHU ALLAAH
bRADI ALLAAHU ANHdANHAAdANHUMdANHUMAAdANHUNNAbSALLALLAAHU ALAYHI WA-AALIHbALAYHI AS-SALAAM
bALAYHIM AS-SALAAMbALAYHIMAA AS-SALAAMbALAYHI AS-SALAATU WAS-SALAAMbQUDDISA SIRRAH
bSALLALLAHU ALAYHI WAAALIHEE WA-SALLAMbALAYHAA AS-SALAAMbTABAARAKA WA-TAAALAAbRAHIMAHUM ALLAAH
bTEH WITH JEEM WITH MEEM INITIAL FORMdHAH WITH JEEM FINAL FORMgINITIAL FORMfMEEM INITIAL FORM
dKHAH WITH MEEM INITIAL FORMdMEEM WITH JEEM INITIAL FORMfHAH INITIAL FORMfKHAH INITIAL FORM
bJEEM WITH MEEM WITH HAH FINAL FORMgINITIAL FORMbHAH WITH MEEM WITH YEH FINAL FORM
fALEF MAKSURA FINAL FORMbSEEN WITH HAH WITH JEEM INITIAL FORMdJEEM WITH HAH INITIAL FORM
fALEF MAKSURA FINAL FORMdMEEM WITH HAH FINAL FORMgINITIAL FORMfJEEM INITIAL FORMfMEEM FINAL FORM
gINITIAL FORMbSAD WITH HAH WITH HAH FINAL FORMgINITIAL FORMdMEEM WITH MEEM FINAL FORM
bSHEEN WITH HAH WITH MEEM FINAL FORMgINITIAL FORMdJEEM WITH YEH FINAL FORM
dMEEM WITH KHAH FINAL FORMgINITIAL FORMfMEEM FINAL FORMgINITIAL FORM
bDAD WITH HAH WITH ALEF MAKSURA FINAL FORMdKHAH WITH MEEM FINAL FORMgINITIAL FORM
bTAH WITH MEEM WITH HAH FINAL FORMgINITIAL FORMfMEEM INITIAL FORMfYEH FINAL FORM
bAIN WITH JEEM WITH MEEM FINAL FORMdMEEM WITH MEEM FINAL FORMgINITIAL FORMfALEF MAKSURA FINAL FORM
bGHAIN WITH MEEM WITH MEEM FINAL FORMfYEH FINAL FORMfALEF MAKSURA FINAL FORM
bFEH WITH KHAH WITH MEEM FINAL FORMgINITIAL FORMbQAF WITH MEEM WITH HAH FINAL FORMfMEEM FINAL FORM
bLAM WITH HAH WITH MEEM FINAL FORMfYEH FINAL FORMfALEF MAKSURA FINAL FORM
dJEEM WITH JEEM INITIAL FORMgFINAL FORMdKHAH WITH MEEM FINAL FORMgINITIAL FORM
dMEEM WITH HAH FINAL FORMgINITIAL FORMbMEEM WITH HAH WITH JEEM INITIAL FORMfMEEM INITIAL FORM
fYEH FINAL FORMdJEEM WITH HAH INITIAL FORMfMEEM INITIAL FORMdKHAH WITH JEEM INITIAL FORM
fMEEM INITIAL FORM:FD92dJEEM WITH KHAH INITIAL FORMbHEH WITH MEEM WITH JEEM INITIAL FORM
fMEEM INITIAL FORMbNOON WITH HAH WITH MEEM INITIAL FORMfALEF MAKSURA FINAL FORM
dJEEM WITH MEEM FINAL FORMgINITIAL FORMfALEF MAKSURA FINAL FORMdMEEM WITH YEH FINAL FORM
fALEF MAKSURA FINAL FORMbYEH WITH MEEM WITH MEEM FINAL FORMgINITIAL FORM
bBEH WITH KHAH WITH YEH FINAL FORMbTEH WITH JEEM WITH YEH FINAL FORMfALEF MAKSURA FINAL FORM
dKHAH WITH YEH FINAL FORMfALEF MAKSURA FINAL FORMdMEEM WITH YEH FINAL FORMfALEF MAKSURA FINAL FORM
bJEEM WITH MEEM WITH YEH FINAL FORMdHAH WITH ALEF MAKSURA FINAL FORM
dMEEM WITH ALEF MAKSURA FINAL FORMbSEEN WITH KHAH WITH ALEF MAKSURA FINAL FORM
bSAD WITH HAH WITH YEH FINAL FORMbSHEEN WITH HAH WITH YEH FINAL FORM
bDAD WITH HAH WITH YEH FINAL FORMbLAM WITH JEEM WITH YEH FINAL FORMdMEEM WITH YEH FINAL FORM
bYEH WITH HAH WITH YEH FINAL FORMdJEEM WITH YEH FINAL FORMdMEEM WITH YEH FINAL FORM
bMEEM WITH MEEM WITH YEH FINAL FORMbQAF WITH MEEM WITH YEH FINAL FORM
bNOON WITH HAH WITH YEH FINAL FORMbQAF WITH MEEM WITH HAH INITIAL FORM
bLAM WITH HAH WITH MEEM INITIAL FORMbAIN WITH MEEM WITH YEH FINAL FORM
bKAF WITH MEEM WITH YEH FINAL FORMbNOON WITH JEEM WITH HAH INITIAL FORM
bMEEM WITH KHAH WITH YEH FINAL FORMbLAM WITH JEEM WITH MEEM INITIAL FORM
bKAF WITH MEEM WITH MEEM FINAL FORMbLAM WITH JEEM WITH MEEM FINAL FORM
bNOON WITH JEEM WITH HAH FINAL FORMbJEEM WITH HAH WITH YEH FINAL FORM
bHAH WITH JEEM WITH YEH FINAL FORMbMEEM WITH JEEM WITH YEH FINAL FORM
bFEH WITH MEEM WITH YEH FINAL FORMbBEH WITH HAH WITH YEH FINAL FORM
bKAF WITH MEEM WITH MEEM INITIAL FORMbAIN WITH JEEM WITH MEEM INITIAL FORM
bSAD WITH MEEM WITH MEEM INITIAL FORMbSEEN WITH KHAH WITH YEH FINAL FORM
bNOON WITH JEEM WITH YEH FINAL FORM:FDCFbSALAAMUHU ALAYNAA
:FDF0bSALLA USED AS KORANIC STOP SIGN ISOLATED FORMbQALA USED AS KORANIC STOP SIGN ISOLATED FORM
bALLAH ISOLATED FORMbAKBAR ISOLATED FORMbMOHAMMAD ISOLATED FORMbSALAM ISOLATED FORM
bRASOUL ISOLATED FORMbALAYHE ISOLATED FORMbWASALLAM ISOLATED FORMbSALLA ISOLATED FORM
bSALLALLAHOU ALAYHE WASALLAMbJALLAJALALOUHOU:FDFDbBISMILLAH AR-RAHMAN AR-RAHEEM
bSUBHAANAHU WA TAAALAAbAZZA WA JALL:FE70aFATHATAN ISOLATED FORMaTATWEEL WITH FATHATAN ABOVE
aDAMMATAN ISOLATED FORMaTAIL FRAGMENTaKASRATAN ISOLATED FORM:FE76aFATHA ISOLATED FORMbMEDIAL FORM
aDAMMA ISOLATED FORMbMEDIAL FORMaKASRA ISOLATED FORMbMEDIAL FORMaSHADDA ISOLATED FORMbMEDIAL FORM
aSUKUN ISOLATED FORMbMEDIAL FORMaLETTER HAMZA ISOLATED FORMbALEF WITH MADDA ABOVE ISOLATED FORM
fFINAL FORMdHAMZA ABOVE ISOLATED FORMfFINAL FORMbWAW WITH HAMZA ABOVE ISOLATED FORMfFINAL FORM
bALEF WITH HAMZA BELOW ISOLATED FORMfFINAL FORMbYEH WITH HAMZA ABOVE ISOLATED FORMfFINAL FORM
fINITIAL FORMfMEDIAL FORMbALEF ISOLATED FORMcFINAL FORMbBEH ISOLATED FORMcFINAL FORMcINITIAL FORM
cMEDIAL FORMbTEH MARBUTA ISOLATED FORMdFINAL FORMcISOLATED FORMcFINAL FORMcINITIAL FORM
cMEDIAL FORMbTHEH ISOLATED FORMcFINAL FORMcINITIAL FORMcMEDIAL FORMbJEEM ISOLATED FORMcFINAL FORM
cINITIAL FORMcMEDIAL FORMbHAH ISOLATED FORMcFINAL FORMcINITIAL FORMcMEDIAL FORMbKHAH ISOLATED FORM
cFINAL FORMcINITIAL FORMcMEDIAL FORMbDAL ISOLATED FORMcFINAL FORMbTHAL ISOLATED FORMcFINAL FORM
bREH ISOLATED FORMcFINAL FORMbZAIN ISOLATED FORMcFINAL FORMbSEEN ISOLATED FORMcFINAL FORM
cINITIAL FORMcMEDIAL FORMbSHEEN ISOLATED FORMcFINAL FORMcINITIAL FORMcMEDIAL FORM
bSAD ISOLATED FORMcFINAL FORMcINITIAL FORMcMEDIAL FORMbDAD ISOLATED FORMcFINAL FORMcINITIAL FORM
cMEDIAL FORMbTAH ISOLATED FORMcFINAL FORMcINITIAL FORMcMEDIAL FORMbZAH ISOLATED FORMcFINAL FORM
cINITIAL FORMcMEDIAL FORMbAIN ISOLATED FORMcFINAL FORMcINITIAL FORMcMEDIAL FORM
bGHAIN ISOLATED FORMcFINAL FORMcINITIAL FORMcMEDIAL FORMbFEH ISOLATED FORMcFINAL FORMcINITIAL FORM
cMEDIAL FORMbQAF ISOLATED FORMcFINAL FORMcINITIAL FORMcMEDIAL FORMbKAF ISOLATED FORMcFINAL FORM
cINITIAL FORMcMEDIAL FORMbLAM ISOLATED FORMcFINAL FORMcINITIAL FORMcMEDIAL FORMbMEEM ISOLATED FORM
cFINAL FORMcINITIAL FORMcMEDIAL FORMbNOON ISOLATED FORMcFINAL FORMcINITIAL FORMcMEDIAL FORM
bHEH ISOLATED FORMcFINAL FORMcINITIAL FORMcMEDIAL FORMbWAW ISOLATED FORMcFINAL FORM
bALEF MAKSURA ISOLATED FORMdFINAL FORMbYEH ISOLATED FORMcFINAL FORMcINITIAL FORMcMEDIAL FORM
aLIGATURE LAM WITH ALEF WITH MADDA ABOVE ISOLATED FORMhFINAL FORMfHAMZA ABOVE ISOLATED FORM
hFINAL FORMgBELOW ISOLATED FORMhFINAL FORMeISOLATED FORMeFINAL FORM:1EE00aMATHEMATICAL ALEFbBEH
bJEEMbDAL:1EE05bWAWbZAINbHAHbTAHbYEHbKAFbLAMbMEEMbNOONbSEENbAINbFEHbSADbQAFbREHbSHEENbTEHbTHEH
bKHAHbTHALbDADbZAHbGHAINbDOTLESS BEHcNOONcFEHcQAF:1EE21bINITIAL BEHcJEEM:1EE24cHEH:1EE27cHAH
:1EE29cYEHcKAFcLAMcMEEMcNOONcSEENcAINcFEHcSADcQAF:1EE34cSHEENcTEHcTHEHcKHAH:1EE39cDAD:1EE3BcGHAIN
:1EE42bTAILED JEEM:1EE47cHAH:1EE49cYEH:1EE4BcLAM:1EE4DcNOONcSEENcAIN:1EE51cSADcQAF:1EE54cSHEEN
:1EE57cKHAH:1EE59cDAD:1EE5BcGHAIN:1EE5DcDOTLESS NOON:1EE5FdQAF:1EE61bSTRETCHED BEHcJEEM:1EE64cHEH
:1EE67cHAHcTAHcYEHcKAF:1EE6CcMEEMcNOONcSEENcAINcFEHcSADcQAF:1EE74cSHEENcTEHcTHEHcKHAH:1EE79cDAD
cZAHcGHAINcDOTLESS BEH:1EE7EdFEH:1EE80bLOOPED ALEFcBEHcJEEMcDALcHEHcWAWcZAINcHAHcTAHcYEH:1EE8BcLAM
cMEEMcNOONcSEENcAINcFEHcSADcQAFcREHcSHEENcTEHcTHEHcKHAHcTHALcDADcZAHcGHAIN:1EEA1bDOUBLE-STRUCK BEH
cJEEMcDAL:1EEA5cWAWcZAINcHAHcTAHcYEH:1EEABcLAMcMEEMcNOONcSEENcAINcFEHcSADcQAFcREHcSHEENcTEHcTHEH
cKHAHcTHALcDADcZAHcGHAIN:1EEF0bOPERATOR MEEM WITH HAH WITH TATWEELcHAH WITH DAL
=g-INDIC:606aCUBE ROOTaFOURTH ROOT:609aPER MILLE SIGNbTEN THOUSAND SIGN:660aDIGIT ZERObONEbTWO
bTHREEbFOURbFIVEbSIXbSEVENbEIGHTbNINE=cC:2312a=cIES:2648a=cMENIAN:531aCAPITAL LETTER AYBcBENcGIM
cDAcECHcZAcEHcETcTOcZHEcINIcLIWNcXEHcCAcKENcHOcJAcGHADcCHEHcMENcYIcNOWcSHAcVOcCHAcPEHcJHEHcRAcSEH
cVEWcTIWNcREHcCOcYIWNcPIWRcKEHcOHcFEH:559aMODIFIER LETTER LEFT HALF RINGaAPOSTROPHEaEMPHASIS MARK
aEXCLAMATION MARKaCOMMAaQUESTION MARKaABBREVIATION MARKaSMALL LETTER TURNED AYBcAYBcBENcGIMcDAcECH
cZAcEHcETcTOcZHEcINIcLIWNcXEHcCAcKENcHOcJAcGHADcCHEHcMENcYIcNOWcSHAcVOcCHAcPEHcJHEHcRAcSEHcVEW
cTIWNcREHcCOcYIWNcPIWRcKEHcOHcFEHbLIGATURE ECH YIWNbLETTER YI WITH STROKEaFULL STOPaHYPHEN
:58FaDRAM SIGN:FB13aSMALL LIGATURE MEN NOWdECHdINIcVEW NOWcMEN XEH
=cROW:2934aPOINTING RIGHTWARDS THEN CURVING UPWARDSeDOWNWARDSbDOWNWARDS THEN CURVING LEFTWARDS
eRIGHTWARDS:1F8B0bUPWARDS THEN NORTH WESTbRIGHTWARDS THEN CURVING SOUTH WEST
=fHEAD-SHAPED:1FBB0aPOINTER=cTICULATED:1F69BaLORRY=eST:1F3A8aPALETTE=bSCENDING:260AaNODE
=dIA:1019CaSYMBOL=cSERTION:22A6a=cTERISK:2Aa:2217aOPERATOR=hM:2042a=dONISHED:1F632aFACE
=dRAEA:2BD9a=eONOMICAL:26E2aSYMBOL FOR URANUS=cYMPTOTICALLY:2243aEQUAL TO=bTHLETIC:1F45FaSHOE
=cOM:269BaSYMBOL=bUBERGINE:1F346a=cSTRAL:20B3aSIGN=cTO:1F6FAaRICKSHAW=eMATED:1F3E7aTELLER MACHINE
=fOBILE:1F697a=bVESTAN:10B00aLETTER AbAAbAObAAObANbAANbAEbAEEbEbEEbObOObIbIIbUbUUbKEbXEbXYEbXVEbGE
bGGEbGHEbCEbJEbTEbTHEbDEbDHEbTTEbPEbFEbBEbBHEbNGEbNGYEbNGVEbNEbNYEbNNEbMEbHMEbYYEbYEbVEbREbLEbSE
bZEbSHEbZHEbSHYEbSSHEbHE:10B39aABBREVIATION MARK=cOCADO:1F951a=bXE:1FA93a=aBABY:1F37CaBOTTLE
:1F424aCHICK:1F476a:1F47CaANGEL:1F6BCaSYMBOL=cCK:1F519aWITH LEFTWARDS ARROW ABOVE
:1F582aOF ENVELOPE=e-TILTED:27ABaSHADOWED WHITE RIGHTWARDS ARROW
=eSLANTED:2B5BaSOUTH ARROW WITH HOOKED TAIL:2B5DdHORIZONTAL TAIL=fPACE:8a=dON:1F953a
=dTRIAN:1F42BaCAMEL=cDGER:1F9A1a=dMINTON:1F3F8aRACQUET AND SHUTTLECOCK=cGEL:1F96Fa
=dGAGE:1F6C4aCLAIM=dUETTE:1F956aBREAD=cLINESE:1B00aSIGN ULU RICEMcCANDRAbCECEKbSURANGbBISAH
aLETTER AKARAcTEDUNGbIKARAcTEDUNGbUKARAcTEDUNGbRA REPAdTEDUNGbLA LENGAdTEDUNGbEKARAbAIKARAbOKARA
cTEDUNGbKAcMAHAPRANAbGAcGORAbNGAbCAcLACAbJAcJERAbNYAbTA LATIKcMURDA MAHAPRANAbDA MURDA ALPAPRANA
dMAHAPRANAbNA RAMBATbTAcTAWAbDAcMADUbNAbPAcKAPALbBAcKEMBANGbMAbYAbRAbLAbWAbSA SAGAcSAPAcbHA
aSIGN REREKANaVOWEL SIGN TEDUNGcULUdSARIcSUKUdILUTcRA REPAeTEDUNGcLA LENGAeTEDUNGcTALINGdREPA
dTEDUNGdREPA TEDUNGcPEPETdTEDUNGaADEG ADEGaLETTER KAF SASAKbKHOT SASAKbTZIR SASAKbEF SASAK
bVE SASAKbZAL SASAKbASYURA SASAKbARCHAIC JNYA:1B50aDIGIT ZERObONEbTWObTHREEbFOURbFIVEbSIXbSEVEN
bEIGHTbNINEaPANTIaPAMADAaWINDUaCARIK PAMUNGKAHbSIKIbPARERENaPAMENENGaMUSICAL SYMBOL DONGcDENGcDUNG
cDANGdSURANGcDINGcDAENGcDEUNGcDAINGcDANG GEDEcCOMBINING TEGEHdENDEPdKEMPULdKEMPLIdJEGOGAN
dKEMPUL WITH JEGOGANdKEMPLI WITH JEGOGANdBENDEdGONGcRIGHT-HAND OPEN DUGeDAGdCLOSED TUKeTAK
cLEFT-HAND OPEN PANGePUNGdCLOSED PLAKePLUKdOPEN PINGaPANTI LANTANGaPAMADA LANTANG=dL:1F9F6aOF YARN
=eET:1FA70aSHOES=eOON:1F388a=h-SPOKED:2749aASTERISK=fT:2610aBOXbWITH CHECKcX:2717aX
:2BBDaBOX WITH LIGHT X:1F5F3cBALLOTaSCRIPT XaBOX WITH SCRIPT XaBOLD SCRIPT X
aBOX WITH BOLD SCRIPT X:1F5F9dCHECK=cMUM:A6A0aLETTER AbKAbUbKUbEEbREEbTAEbObNYIbIbLAbPAbRIIbRIEE
bLEEEEbMEEEEbTAAbNDAAbNJAEMbMbSUUbMUbSHIIbSIbSHEUXbSEUXbKYEEbKETbNUAEbNUbNJUAEbYOQbSHUbYUQbYAbNSHA
bKEUXbPEUXbNJEEbNTEEbPUEbWUEbPEEbFEEbRUbLUbMIbNIbREUXbRAEbKENbNGKWAENbNGGAbNGAbSHObPUAEbFUbFOMbWA
bNAbLIbPIbLOQbKObMBENbRENbMENbMAbTIbKIbMObMBAAbTETbKPAbTENbNTUUbSAMBAbFAAMAEbKOVUUbKOGHOM
aCOMBINING MARK KOQNDONcTUKWENTISaNJAEMLIaFULL STOPaCOLONaCOMMAaSEMICOLONaQUESTION MARK
:16800aLETTER PHASE-A NGKUE MFONcGBIEE FONcPON MFON PIPAEMGBIEEePIPAEMBAcNAA MFONcSHUENSHUET
cTITA MFONcNZA MFONcSHINDA PA NJIcPON PA NJI PIPAEMGBIEEfPIPAEMBAcMAEMBGBIEEcTU MAEMBAcNGANGU
cMAEMVEUXcMANSUAEcMVEUAENGAMcSEUNYAMcNTOQPENcKEUKEUTNDAcNKINDIcSUUcNGKUENZEUMcLAPAQcLET KUT
cNTAP MFAAcMAEKEUPcPASHAEcGHEUAERAEcPAMSHAEcMON NGGEUAETcNZUN MEUTcU YUQ NAEcGHEUAEGHEUAE
cNTAP NTAAcSISAcMGBASAcMEUNJOMNDEUQcMOOMPUQcKAFAcPA LEERAEWAcNDA LEERAEWAcPETcMAEMKPENcNIKAcPUP
cTUAEPcLUAEPcSONJAMcTEUTEUWENcMAENYIcKETcNDAANGGEUAETcKUOQcMOOMEUTcSHUMcLOMMAEcFIRIcROMcKPOQcSOQ
cMAP PIEETcSHIRAEcNTAPcSHOQ NSHUT YUMcNYIT MONGKEUAEQcPAARAEcNKAARAEcUNKNOWNcNGGENcMAESIcNJAM
cMBANYIcNYETcTEUAENcSOTcPAAMcNSHIEEcMAEMcNYIcKAQcNSHAcVEEcLUcNENcNAQcMBAQbPHASE-B NSHUET
cTU MAEMGBIEEcSIEEcSET TUcLOM NTEUMcMBA MAELEEcKIEEMcYEURAEcMBAARAEcKAMcPEESHIcYAFU LEERAEWA
cLAM NSHUT NYAMcNTIEE SHEUOQcNDU NJAAcGHEUGHEUAEMcPITcTU NSIEEcSHET NJAQcSHEUAEQTUcMFON TEUAEQ
cMBIT MBAAKETcNYI NTEUMcKEUPUQcGHEUGHENcKEUYEUXcLAANAEcPARUMcVEUMcNGKINDI MVOPcNGGEU MBUcWUAET
cSAKEUAEcTAAMcMEUQcNGGUOQdLARGEcMFIYAQcSUEcMBEURIcMONTIEENcNYAEMAEcPUNGAAMcMEUT NGGEETcFEUXcMBUOQ
cFEEcKEUAEMcMA NJEUAENAdNJUQAcLETcNGGAAMcNSENcMAcKIQcNGOMbPHASE-C NGKUE MAEMBAcNZAcYUMcWANGKUOQ
cNGGENcNDEUAEREEcNGKAQcGHARAEcMBEEKEETcGBAYIcNYIR MKPARAQ MEUNcNTU MBITcMBEUMcPIRIEENcNDOMBU
cMBAA CABBAGE-TREEcKEUSHEUAEPcGHAPcKEUKAQcYU MUOMAEcNZEUMcMBUEcNSEUAENcMBITcYEUQcKPARAQcKAAcSEUX
cNDIDAcTAASHAEcNJUEQcTITA YUEcSUAETcNGGUAEN NYAMcVEUXcNANSANAQcMA KEUAERIcNTAAcNGGUONcLAPcMBIRIEEN
cMGBASAQcNTEUNGBAcTEUTEUXcNGGUMcFUEcNDEUTcNSAcNSHAQcBUNGcVEUAEPENcMBERAEcRUcNJAEMcLAMcTITUAEP
cNSUOT NGOMcNJEEEEcKETcNGGUcMAESIcMBUAEMcLUcKUTcNJAMcNGOMcWUPcNGGUEETcNSOMcNTENcKUOP NKAARAEcNSUN
cNDAMcMA NSIEEcYAAcNDAPcSHUEQcSETFONcMBIcMAEMBAcMBANYIcKEUSEUXcMBEUXcKEUMcMBAA PICKETcYUWOQcNJEUX
cMIEEcMUAEcSHIQcKEN LAWdFATIGUEcNGAQcNAQcLIQcPINcPENcTETbPHASE-D MBUOcWAPcNJIcMFONcNJIEEcLIEE
cNJEUTcNSHEEcNGGAAMAEcNYAMcWUAENcNGKUNcSHEEcNGKAPcKEUAETMEUNcTEUTcSHEUAEcNJAPcSUEcKETcYAEMMAEcKUOM
cSAPcMFEUTcNDEUXcMALEERIcMEUTcSEUAEQcYENcNJEUAEMcKEUOT MBUAEcNGKEURIcTUcGHAAcNGKYEEcFEUFEUAETcNDEE
cMGBOFUMcLEUAEPcNDONcMONIcMGBEUNcPUUTcMGBIEEcMFOcLUMcNSIEEPcMBAAcKWAETcNYETcTEUAENcSOTcYUWOQcKEUM
cRAEMcTEEEEcNGKEUAEQcMFEUAEcNSIEETcKEUPcPIPcPEUTAEcNYUEcLETcNGGAAMcMFIEEcNGGWAENcYUOMcPAPcYUOP
cNDAMcNTEUMcSUAEcKUNcNGGEUXcNGKIEEcTUOTcMEUNcKUQcNSUMcTEUNcMAENJETcNGGAPcLEUMcNGGUOMcNSHUTcNJUEQ
cGHEUAEcKUcREN OLDcTAEcTOQcNYIcRIIcLEEEEcMEEEEcMcSUUcMUcSHIIcSHEUXcKYEEcNUcSHUcNTEEcPEEcNIcSHOQ
cPUQcMVOPcLOQcREN MUCHcTIcNTUUcMBAA SEVENcSAQcFAAbPHASE-E NDAPcTOONcMBEUMcLAPcVOMcLOONcPAAcSOMcRAQ
cNSHUOPcNDUNcPUAEcTAMcNGKAcKPEUXcWUOcSEEcNGGEUAETcPAAMcTOOcKUOPcLOMcNSHIEEcNGOPcMAEMcNGKEUXcNGOQ
cNSHUEcRIMGBAcNJEUXcPEEMcSAAcNGGURAEcMGBAcGHEUXcNGKEUAEMcNJAEMLIcMAPcLOOTcNGGEEEEcNDIQcTAEN NTEUM
cSETcPUMcNDAA SOFTNESScNGGUAESHAE NYAMcYIEEcGHEUNcTUAEcYEUAEcPOcTUMAEcKEUAEcSUAENcTEUAEQcVEUAE
cWEUXcLAAMcPUcTAAQcGHAAMAEcNGEUREUTcSHEUAEQcMGBENcMBEEcNZAQcNKOMcGBETcTUMcKUETcYAPcNYI CLEAVERcYIT
cMFEUQcNDIAQcPIEEQcYUEQcLEUAEMcFUEcGBEUXcNGKUPcKETcMAEcNGKAAMIcGHETcFAcNTUMcPEUTcYEUMcNGGEUAE
cNYI BETWEENcNZUQcPOONcMIEEcFUETcNAEcMUAEcGHEUAEcFU IcMVIcPUAQcNGKUMcKUTcPIETcNTAPcYEUAETcNGGUP
cPA PEOPLEcFU CALLcFOMcNJEEcAcTOQcOcIcLAQcPA PLURALcTAAcTAQcNDAA MY HOUSEcSHIQcYEUXcNGUAEcYUAEN
cYOQ SWIMMINGdCOVERcYUQcYUNcKEUXcPEUXcNJEE EPOCHcPUEcWUEcFEEcVEEcLUcMIcREUXcRAEcNGUAETcNGAcSHO
cSHOQcFU REMEDYcNAcPIcLOQcKOcMENcMAcMAQcTEUcKIcMONcTENcFAQcGHOMbPHASE-F KAcUcKUcEEcREEcTAEcNYIcLA
cRIIcRIEEcMEEEEcTAAcNDAAcNJAEMcMcSUUcSHIIcSIcSEUXcKYEEcKETcNUAEcNUcNJUAEcYOQcSHUcYAcNSHAcPEUXcNTEE
cWUEcPEEcRUcNIcREUXcKENcNGKWAENcNGGAcSHOcPUAEcFOMcWAcLIcLOQcKOcMBENcRENcMAcMOcMBAAcTETcKPAcSAMBA
cVUEQ=cNANA:1F34Ca=dJO:1FA95a=dK:1F3E6a=eNOTE:1F4B4aWITH YEN SIGNbDOLLAR SIGNbEURO SIGNbPOUND SIGN
=cR:1F4CAaCHART:1F9FCaOF SOAP=dBER:1F488aPOLE=cSEBALL:26BEa=dKET:1F9FAa=gBALL:1F3C0aAND HOOP
=dSA:16AD0aVAH LETTER ENNIcKAcSEcFAcMBEcYIEcGAHcDHIIcKPAHcJOcHWAHcWAcZOcGBUcDOcCEcUWUcTOcBAcVU
cYEINcPAcWADDAcAcOcOOcUcEEcEcI:16AF0bCOMBINING HIGH TONEcLOW TONEcMID TONEcLOW-MID TONE
cHIGH-LOW TONEbFULL STOP=cT:1F987a=dAK:1BC0aLETTER AbSIMALUNGUN AbHAbSIMALUNGUN HAbMANDAILING HA
bBAbKARO BAbPAbSIMALUNGUN PAbNAbMANDAILING NAbWAbSIMALUNGUN WAbPAKPAK WAbGAbSIMALUNGUN GAbJAbDAbRA
bSIMALUNGUN RAbMAbSIMALUNGUN MAbSOUTHERN TAbNORTHERN TAbSAbSIMALUNGUN SAbMANDAILING SAbYA
bSIMALUNGUN YAbNGAbLAbSIMALUNGUN LAbNYAbCAbNDAbMBAbIbUaSIGN TOMPIaVOWEL SIGN EcPAKPAK EcEEcI
cKARO IcOcKARO OcUdFOR SIMALUNGUN SAaCONSONANT SIGN NGcHaPANGOLATaPANONGONAN
:1BFCaSYMBOL BINDU NA METEKcPINARBORAScJUDULcPANGOLAT=dH:1F6C0a=eTUB:1F6C1a=dTERY:1F50Ba
=bEACH:1F3D6aWITH UMBRELLA=dMED:266BaEIGHTH NOTESaSIXTEENTH NOTES:1F39CaASCENDING MUSICAL NOTES
aDESCENDING MUSICAL NOTES=dNS:1FAD8a=dR:1F43BaFACE=eDED:1F9D4aPERSON=dTING:1F493aHEART=dVER:1F9ABa
=cCAUSE:2235a=cD:1F6CFa=cER:1F37AaMUG=dTLE:1FAB2a=cL:7a=dL:237EaSYMBOL:1F514a
aWITH CANCELLATION STROKE:1FAD1aPEPPER=eHOP:1F6CEaBELL=cNGALI:980aANJIaSIGN CANDRABINDUbANUSVARA
bVISARGA:985aLETTER AbAAbIbIIbUbUUbVOCALIC RcL:98FbEbAI:993bObAUbKAbKHAbGAbGHAbNGAbCAbCHAbJAbJHA
bNYAbTTAbTTHAbDDAbDDHAbNNAbTAbTHAbDAbDHAbNA:9AAbPAbPHAbBAbBHAbMAbYAbRA:9B2bLA:9B6bSHAbSSAbSAbHA
:9BCaSIGN NUKTAbAVAGRAHAaVOWEL SIGN AAcIcIIcUcUUcVOCALIC RdRR:9C7cEcAI:9CBcOcAUaSIGN VIRAMA
aLETTER KHANDA TA:9D7aAU LENGTH MARK:9DCaLETTER RRAbRHA:9DFbYYAbVOCALIC RRcLLaVOWEL SIGN VOCALIC L
dLL:9E6aDIGIT ZERObONEbTWObTHREEbFOURbFIVEbSIXbSEVENbEIGHTbNINEaLETTER RA WITH MIDDLE DIAGONAL
dLOWER DIAGONALaRUPEE MARKbSIGNaCURRENCY NUMERATOR ONEcTWOcTHREEcFOUR
cONE LESS THAN THE DENOMINATORbDENOMINATOR SIXTEENaISSHARaGANDA MARKaLETTER VEDIC ANUSVARA
aABBREVIATION SIGNaSANDHI MARK=dT:2B5EaARROW POINTING DOWNWARDS THEN NORTH EAST=eO:1F371aBOX
=dZENE:232CaRING:23E3bWITH CIRCLE=cT:2136aSYMBOL=dWEEN:226Ca=cVERAGE:1F9C3aBOX
=bHAIKSUKI:11C00aLETTER AbAAbIbIIbUbUUbVOCALIC RcRRcL:11C0AbEbAIbObAUbKAbKHAbGAbGHAbNGAbCAbCHAbJA
bJHAbNYAbTTAbTTHAbDDAbDDHAbNNAbTAbTHAbDAbDHAbNAbPAbPHAbBAbBHAbMAbYAbRAbLAbVAbSHAbSSAbSAbHA
aVOWEL SIGN AAcIcIIcUcUUcVOCALIC RdRRdL:11C38cEcAIcOcAUaSIGN CANDRABINDUbANUSVARAbVISARGAbVIRAMA
bAVAGRAHAaDANDAaDOUBLE DANDAaWORD SEPARATORaGAP FILLER-1bFILLER-2:11C50aDIGIT ZERObONEbTWObTHREE
bFOURbFIVEbSIXbSEVENbEIGHTbNINEaNUMBER ONEbTWObTHREEbFOURbFIVEbSIXbSEVENbEIGHTbNINEbTENbTWENTY
bTHIRTYbFORTYbFIFTYbSIXTYbSEVENTYbEIGHTYbNINETYaHUNDREDS UNIT MARK=bICYCLE:1F6B2a=gIST:1F6B4a
=cG:29F8aSOLIDUSaREVERSE SOLIDUS=cKINI:1F459a=cLLED:1F9E2aCAP=eIARDS:1F3B1a=cOHAZARD:2623aSIGN
=cRD:1F426a=dTHDAY:1F382aCAKE=cSON:1F9ACa=cTCOIN:20BFaSIGN=dING:1FAE6aLIP
=bLACK:204CaLEFTWARDS BULLETaRIGHTWARDS BULLET:23E9aRIGHT-POINTING DOUBLE TRIANGLE
aLEFT-POINTING DOUBLE TRIANGLEaUP-POINTING DOUBLE TRIANGLEaDOWN-POINTING DOUBLE TRIANGLE
aRIGHT-POINTING DOUBLE TRIANGLE WITH VERTICAL BARaLEFT-POINTING DOUBLE TRIANGLE WITH VERTICAL BAR
aRIGHT-POINTING TRIANGLE WITH DOUBLE VERTICAL BAR:23F4aMEDIUM LEFT-POINTING TRIANGLE
bRIGHT-POINTING TRIANGLEbUP-POINTING TRIANGLEbDOWN-POINTING TRIANGLE:23F9aSQUARE FOR STOP
aCIRCLE FOR RECORD:25A0aSQUARE:25AAaSMALL SQUARE:25ACaRECTANGLE:25AEaVERTICAL RECTANGLE
:25B0aPARALLELOGRAM:25B2aUP-POINTING TRIANGLE:25B4bSMALL TRIANGLE:25B6aRIGHT-POINTING TRIANGLE
:25B8bSMALL TRIANGLE:25BAbPOINTER:25BCaDOWN-POINTING TRIANGLE:25BEbSMALL TRIANGLE
:25C0aLEFT-POINTING TRIANGLE:25C2bSMALL TRIANGLE:25C4bPOINTER:25C6aDIAMOND:25CFaCIRCLE
:25E2aLOWER RIGHT TRIANGLEbLEFT TRIANGLEaUPPER LEFT TRIANGLEbRIGHT TRIANGLE:25FCaMEDIUM SQUARE
:25FEbSMALL SQUARE:2600aSUN WITH RAYS:2605aSTAR:260EaTELEPHONE:2617aSHOGI PIECE
:261AaLEFT POINTING INDEXaRIGHT POINTING INDEX:263BaSMILING FACE:265AaCHESS KINGbQUEENbROOKbBISHOP
bKNIGHTbPAWNaSPADE SUIT:2663aCLUB SUIT:2665aHEART SUITaDIAMOND SUIT
:267BaUNIVERSAL RECYCLING SYMBOL:2688aCIRCLE WITH WHITE DOT RIGHTcTWO WHITE DOTS:2691aFLAG
:26B8aMOON LILITH:26C2aDRAUGHTS MANbKING:26C7aSNOWMAN:26D6aTWO-WAY LEFT WAY TRAFFIC
:26D8aLEFT LANE MERGE:26DFaTRUCK:26E8aCROSS ON SHIELD:2700aSAFETY SCISSORS:2702aSCISSORS:2712aNIB
:2726aFOUR POINTED STAR:272CaCENTRE WHITE STAR:273FaFLORETTE:2753aQUESTION MARK ORNAMENT
:2756aDIAMOND MINUS WHITE X:27A1aRIGHTWARDS ARROW:27A4bARROWHEAD:29D3aBOWTIE:29D7aHOURGLASS
:29EAaDIAMOND WITH DOWN ARROWaLOZENGE:29EDaCIRCLE WITH DOWN ARROW:2B1BaLARGE SQUARE
:2B1DaVERY SMALL SQUARE:2B1FaPENTAGON:2B22aHEXAGON:2B24aLARGE CIRCLEaMEDIUM DIAMOND:2B27bLOZENGE
:2B29aSMALL DIAMONDbLOZENGE:2B2CaHORIZONTAL ELLIPSE:2B2EaVERTICAL ELLIPSE:2B51aSMALL STAR
:2B53aRIGHT-POINTING PENTAGON:2B9CaLEFTWARDS EQUILATERAL ARROWHEADaUPWARDS EQUILATERAL ARROWHEAD
aRIGHTWARDS EQUILATERAL ARROWHEADaDOWNWARDS EQUILATERAL ARROWHEAD
:2BA8aCURVED DOWNWARDS AND LEFTWARDS ARROWdRIGHTWARDS ARROWbUPWARDS AND LEFTWARDS ARROW
dRIGHTWARDS ARROWbLEFTWARDS AND UPWARDS ARROWbRIGHTWARDS AND UPWARDS ARROW
bLEFTWARDS AND DOWNWARDS ARROWbRIGHTWARDS AND DOWNWARDS ARROW:2BC0aSQUARE CENTREDaDIAMOND CENTRED
:2BC4aOCTAGONaMEDIUM UP-POINTING TRIANGLE CENTREDbDOWN-POINTING TRIANGLE CENTRED
bLEFT-POINTING TRIANGLE CENTREDbRIGHT-POINTING TRIANGLE CENTRED:2BDEaDIAMOND ON CROSS
:1F322aDROPLET:1F3F2aPENNANT:1F3F6aROSETTE:1F532aSQUARE BUTTON:1F571aSKULL AND CROSSBONES
:1F57FaTOUCHTONE TELEPHONE:1F588aPUSHPIN:1F59CaLEFT POINTING BACKHAND INDEX
aRIGHT POINTING BACKHAND INDEX:1F5A2aUP POINTING BACKHAND INDEXaDOWN POINTING BACKHAND INDEXaHEART
:1F5AAaHARD SHELL FLOPPY DISK:1F5BFaFOLDER:1F780aLEFT-POINTING ISOSCELES RIGHT TRIANGLE
aUP-POINTING ISOSCELES RIGHT TRIANGLEaRIGHT-POINTING ISOSCELES RIGHT TRIANGLE
aDOWN-POINTING ISOSCELES RIGHT TRIANGLEaSLIGHTLY SMALL CIRCLE:1F78CaTINY SQUARE
aSLIGHTLY SMALL SQUARE:1F797aTINY DIAMONDaVERY SMALL DIAMONDaMEDIUM SMALL DIAMOND
:1F79DaTINY LOZENGEaVERY SMALL LOZENGEaMEDIUM SMALL LOZENGE
:1FA07aCHESS KNIGHT ROTATED FORTY-FIVE DEGREES:1FA0FbKING ROTATED NINETY DEGREES
bQUEEN ROTATED NINETY DEGREESbROOK ROTATED NINETY DEGREESbBISHOP ROTATED NINETY DEGREES
bKNIGHT ROTATED NINETY DEGREESbPAWN ROTATED NINETY DEGREES
:1FA1CbKNIGHT ROTATED ONE HUNDRED THIRTY-FIVE DEGREES:1FA24bTURNED KINGcQUEENcROOKcBISHOPcKNIGHT
cPAWN:1FA31bKNIGHT ROTATED TWO HUNDRED TWENTY-FIVE DEGREES
:1FA39bKING ROTATED TWO HUNDRED SEVENTY DEGREESbQUEEN ROTATED TWO HUNDRED SEVENTY DEGREES
bROOK ROTATED TWO HUNDRED SEVENTY DEGREESbBISHOP ROTATED TWO HUNDRED SEVENTY DEGREES
bKNIGHT ROTATED TWO HUNDRED SEVENTY DEGREESbPAWN ROTATED TWO HUNDRED SEVENTY DEGREES
:1FA46bKNIGHT ROTATED THREE HUNDRED FIFTEEN DEGREES:1FA49bEQUIHOPPER:1FA4CcROTATED NINETY DEGREES
:1FA51bKNIGHT-QUEENbKNIGHT-ROOKbKNIGHT-BISHOP=f-FEATHERED:27B4aSOUTH EAST ARROWaRIGHTWARDS ARROW
aNORTH EAST ARROW=gLETTER:210CaCAPITAL H:2111bI:211CbR:2128bZ:212DbC=dNK:2422aSYMBOL
=cOCK:1FB00aSEXTANT-1aSEXTANT-2aSEXTANT-12aSEXTANT-3aSEXTANT-13aSEXTANT-23aSEXTANT-123aSEXTANT-4
aSEXTANT-14aSEXTANT-24aSEXTANT-124aSEXTANT-34aSEXTANT-134aSEXTANT-234aSEXTANT-1234aSEXTANT-5
aSEXTANT-15aSEXTANT-25aSEXTANT-125aSEXTANT-35aSEXTANT-235aSEXTANT-1235aSEXTANT-45aSEXTANT-145
aSEXTANT-245aSEXTANT-1245aSEXTANT-345aSEXTANT-1345aSEXTANT-2345aSEXTANT-12345aSEXTANT-6aSEXTANT-16
aSEXTANT-26aSEXTANT-126aSEXTANT-36aSEXTANT-136aSEXTANT-236aSEXTANT-1236aSEXTANT-46aSEXTANT-146
aSEXTANT-1246aSEXTANT-346aSEXTANT-1346aSEXTANT-2346aSEXTANT-12346aSEXTANT-56aSEXTANT-156
aSEXTANT-256aSEXTANT-1256aSEXTANT-356aSEXTANT-1356aSEXTANT-2356aSEXTANT-12356aSEXTANT-456
aSEXTANT-1456aSEXTANT-2456aSEXTANT-12456aSEXTANT-3456aSEXTANT-13456aSEXTANT-23456=dSSOM:1F33Ca
=dWFISH:1F421a=cUE:1F499aHEART:1F4D8aBOOK=eBERRIES:1FAD0a=bOAR:1F417a=cLD:1F786aWHITE CIRCLE
:1F790bSQUARE:1F7A4aGREEK CROSS:1F7ABaSALTIRE:1F7B1aFIVE SPOKED ASTERISK:1F7B7aSIX SPOKED ASTERISK
:1F7BDaEIGHT SPOKED ASTERISK=cM:FEFFa=dB:1F4A3a=cNE:1F9B4a=cOK:1F56Ea=eMARK:1F4D1aTABS:1F516a
=eS:1F4DAa=dMERANG:1FA83a=cPOMOFO:3105aLETTER BbPbMbFbDbTbNbLbGbKbHbJbQbXbZHbCHbSHbRbZbCbSbAbObE
bEHbAIbEIbAUbOUbANbENbANGbENGbERbIbUbIUbVbNGbGNbIHbO WITH DOT ABOVEbNN:31A0bBUbZIbJIbGUbEEbENNbOO
bONNbIRbANNbINNbUNNbIMbNGGbAINNbAUNNbAMbOMbONGbINNNaFINAL LETTER PcTcKcHaLETTER GHbLHbZY
aFINAL LETTER GaLETTER GWbKWbOEbAH=cTTLE:1F37EaWITH POPPING CORK=eOM:230CaRIGHT CROPaLEFT CROP
:231EbCORNERaRIGHT CORNER:2321aHALF INTEGRAL:23B5aSQUARE BRACKETcOVER TOP SQUARE BRACKET
:23DDaPARENTHESIS:23DFaCURLY BRACKET:23E1aTORTOISE SHELL BRACKET:293BaARC ANTICLOCKWISE ARROW
:2BCBaHALF BLACK CIRCLE:2E24aLEFT HALF BRACKETaRIGHT HALF BRACKET:2E5BaHALF LEFT PARENTHESIS
bRIGHT PARENTHESIS=cUQUET:1F395aOF FLOWERS:1F490a=cW:1F3F9aAND ARROW=dL:1F54FaOF HYGIEIA
:1F963aWITH SPOON=eING:1F3B3a=dTIE:22C8a:29D1aWITH LEFT HALF BLACKbRIGHT HALF BLACK
=cX:2500aDRAWINGS LIGHT HORIZONTALbHEAVY HORIZONTALbLIGHT VERTICALbHEAVY VERTICAL
bLIGHT TRIPLE DASH HORIZONTALbHEAVY TRIPLE DASH HORIZONTALbLIGHT TRIPLE DASH VERTICAL
bHEAVY TRIPLE DASH VERTICALbLIGHT QUADRUPLE DASH HORIZONTALbHEAVY QUADRUPLE DASH HORIZONTAL
bLIGHT QUADRUPLE DASH VERTICALbHEAVY QUADRUPLE DASH VERTICALbLIGHT DOWN AND RIGHT
bDOWN LIGHT AND RIGHT HEAVYcHEAVY AND RIGHT LIGHTbHEAVY DOWN AND RIGHTbLIGHT DOWN AND LEFT
bDOWN LIGHT AND LEFT HEAVYcHEAVY AND LEFT LIGHTbHEAVY DOWN AND LEFTbLIGHT UP AND RIGHT
bUP LIGHT AND RIGHT HEAVYcHEAVY AND RIGHT LIGHTbHEAVY UP AND RIGHTbLIGHT UP AND LEFT
bUP LIGHT AND LEFT HEAVYcHEAVY AND LEFT LIGHTbHEAVY UP AND LEFTbLIGHT VERTICAL AND RIGHT
bVERTICAL LIGHT AND RIGHT HEAVYbUP HEAVY AND RIGHT DOWN LIGHTbDOWN HEAVY AND RIGHT UP LIGHT
bVERTICAL HEAVY AND RIGHT LIGHTbDOWN LIGHT AND RIGHT UP HEAVYbUP LIGHT AND RIGHT DOWN HEAVY
bHEAVY VERTICAL AND RIGHTbLIGHT VERTICAL AND LEFTbVERTICAL LIGHT AND LEFT HEAVY
bUP HEAVY AND LEFT DOWN LIGHTbDOWN HEAVY AND LEFT UP LIGHTbVERTICAL HEAVY AND LEFT LIGHT
bDOWN LIGHT AND LEFT UP HEAVYbUP LIGHT AND LEFT DOWN HEAVYbHEAVY VERTICAL AND LEFT
bLIGHT DOWN AND HORIZONTALbLEFT HEAVY AND RIGHT DOWN LIGHTbRIGHT HEAVY AND LEFT DOWN LIGHT
bDOWN LIGHT AND HORIZONTAL HEAVYcHEAVY AND HORIZONTAL LIGHTbRIGHT LIGHT AND LEFT DOWN HEAVY
bLEFT LIGHT AND RIGHT DOWN HEAVYbHEAVY DOWN AND HORIZONTALbLIGHT UP AND HORIZONTAL
bLEFT HEAVY AND RIGHT UP LIGHTbRIGHT HEAVY AND LEFT UP LIGHTbUP LIGHT AND HORIZONTAL HEAVY
cHEAVY AND HORIZONTAL LIGHTbRIGHT LIGHT AND LEFT UP HEAVYbLEFT LIGHT AND RIGHT UP HEAVY
bHEAVY UP AND HORIZONTALbLIGHT VERTICAL AND HORIZONTALbLEFT HEAVY AND RIGHT VERTICAL LIGHT
bRIGHT HEAVY AND LEFT VERTICAL LIGHTbVERTICAL LIGHT AND HORIZONTAL HEAVY
bUP HEAVY AND DOWN HORIZONTAL LIGHTbDOWN HEAVY AND UP HORIZONTAL LIGHT
bVERTICAL HEAVY AND HORIZONTAL LIGHTbLEFT UP HEAVY AND RIGHT DOWN LIGHT
bRIGHT UP HEAVY AND LEFT DOWN LIGHTbLEFT DOWN HEAVY AND RIGHT UP LIGHT
bRIGHT DOWN HEAVY AND LEFT UP LIGHTbDOWN LIGHT AND UP HORIZONTAL HEAVY
bUP LIGHT AND DOWN HORIZONTAL HEAVYbRIGHT LIGHT AND LEFT VERTICAL HEAVY
bLEFT LIGHT AND RIGHT VERTICAL HEAVYbHEAVY VERTICAL AND HORIZONTALbLIGHT DOUBLE DASH HORIZONTAL
bHEAVY DOUBLE DASH HORIZONTALbLIGHT DOUBLE DASH VERTICALbHEAVY DOUBLE DASH VERTICAL
bDOUBLE HORIZONTALcVERTICALbDOWN SINGLE AND RIGHT DOUBLEcDOUBLE AND RIGHT SINGLE
bDOUBLE DOWN AND RIGHTbDOWN SINGLE AND LEFT DOUBLEcDOUBLE AND LEFT SINGLEbDOUBLE DOWN AND LEFT
bUP SINGLE AND RIGHT DOUBLEcDOUBLE AND RIGHT SINGLEbDOUBLE UP AND RIGHTbUP SINGLE AND LEFT DOUBLE
cDOUBLE AND LEFT SINGLEbDOUBLE UP AND LEFTbVERTICAL SINGLE AND RIGHT DOUBLE
cDOUBLE AND RIGHT SINGLEbDOUBLE VERTICAL AND RIGHTbVERTICAL SINGLE AND LEFT DOUBLE
cDOUBLE AND LEFT SINGLEbDOUBLE VERTICAL AND LEFTbDOWN SINGLE AND HORIZONTAL DOUBLE
cDOUBLE AND HORIZONTAL SINGLEbDOUBLE DOWN AND HORIZONTALbUP SINGLE AND HORIZONTAL DOUBLE
cDOUBLE AND HORIZONTAL SINGLEbDOUBLE UP AND HORIZONTALbVERTICAL SINGLE AND HORIZONTAL DOUBLE
cDOUBLE AND HORIZONTAL SINGLEbDOUBLE VERTICAL AND HORIZONTALbLIGHT ARC DOWN AND RIGHTfLEFT
dUP AND LEFTfRIGHTcDIAGONAL UPPER RIGHT TO LOWER LEFTeLEFT TO LOWER RIGHTdCROSScLEFTcUPcRIGHTcDOWN
bHEAVY LEFTcUPcRIGHTcDOWNbLIGHT LEFT AND HEAVY RIGHTcUP AND HEAVY DOWNbHEAVY LEFT AND LIGHT RIGHT
cUP AND LIGHT DOWN:1FBA0bLIGHT DIAGONAL UPPER CENTRE TO MIDDLE LEFThRIGHT
dMIDDLE LEFT TO LOWER CENTREeRIGHT TO LOWER CENTREdUPPER CENTRE TO MIDDLE LEFT TO LOWER CENTRE
hRIGHT TO LOWER CENTREdMIDDLE LEFT TO LOWER CENTRE TO MIDDLE RIGHTgUPPER CENTRE TO MIDDLE RIGHT
dUPPER CENTRE TO MIDDLE LEFT AND MIDDLE RIGHT TO LOWER CENTRE
hRIGHT AND MIDDLE LEFT TO LOWER CENTREiTO LOWER CENTRE TO MIDDLE LEFT
hLEFT TO LOWER CENTRE TO MIDDLE RIGHTdMIDDLE LEFT TO UPPER CENTRE TO MIDDLE RIGHT TO LOWER CENTRE
eRIGHT TO UPPER CENTRE TO MIDDLE LEFT TO LOWER CENTREdDIAMONDcHORIZONTAL WITH VERTICAL STROKE
=dING:1F94AaGLOVE=cY:1F466a=dS:1F6C9aSYMBOL=bPH:82a=bRAHMI:11000aSIGN CANDRABINDUbANUSVARAbVISARGA
bJIHVAMULIYAbUPADHMANIYAaLETTER AbAAbIbIIbUbUUbVOCALIC RcRRcLcLLbEbAIbObAUbKAbKHAbGAbGHAbNGAbCA
bCHAbJAbJHAbNYAbTTAbTTHAbDDAbDDHAbNNAbTAbTHAbDAbDHAbNAbPAbPHAbBAbBHAbMAbYAbRAbLAbVAbSHAbSSAbSAbHA
bLLAbOLD TAMIL LLLAdRRAdNNNAaVOWEL SIGN AAcBHATTIPROLU AAcIcIIcUcUUcVOCALIC RdRRdLdLLcEcAIcOcAU
aVIRAMAaDANDAaDOUBLE DANDAaPUNCTUATION DOTbDOUBLE DOTbLINEbCRESCENT BARbLOTUS:11052aNUMBER ONEbTWO
bTHREEbFOURbFIVEbSIXbSEVENbEIGHTbNINEbTENbTWENTYbTHIRTYbFORTYbFIFTYbSIXTYbSEVENTYbEIGHTYbNINETY
bONE HUNDREDcTHOUSANDaDIGIT ZERObONEbTWObTHREEbFOURbFIVEbSIXbSEVENbEIGHTbNINE
aSIGN OLD TAMIL VIRAMAaLETTER OLD TAMIL SHORT EeOaVOWEL SIGN OLD TAMIL SHORT EfO
aLETTER OLD TAMIL LLA:1107FaNUMBER JOINER=dILLE:2800aPATTERN BLANKbDOTS-1bDOTS-2bDOTS-12bDOTS-3
bDOTS-13bDOTS-23bDOTS-123bDOTS-4bDOTS-14bDOTS-24bDOTS-124bDOTS-34bDOTS-134bDOTS-234bDOTS-1234
bDOTS-5bDOTS-15bDOTS-25bDOTS-125bDOTS-35bDOTS-135bDOTS-235bDOTS-1235bDOTS-45bDOTS-145bDOTS-245
bDOTS-1245bDOTS-345bDOTS-1345bDOTS-2345bDOTS-12345bDOTS-6bDOTS-16bDOTS-26bDOTS-126bDOTS-36
bDOTS-136bDOTS-236bDOTS-1236bDOTS-46bDOTS-146bDOTS-246bDOTS-1246bDOTS-346bDOTS-1346bDOTS-2346
bDOTS-12346bDOTS-56bDOTS-156bDOTS-256bDOTS-1256bDOTS-356bDOTS-1356bDOTS-2356bDOTS-12356bDOTS-456
bDOTS-1456bDOTS-2456bDOTS-12456bDOTS-3456bDOTS-13456bDOTS-23456bDOTS-123456bDOTS-7bDOTS-17bDOTS-27
bDOTS-127bDOTS-37bDOTS-137bDOTS-237bDOTS-1237bDOTS-47bDOTS-147bDOTS-247bDOTS-1247bDOTS-347
bDOTS-1347bDOTS-2347bDOTS-12347bDOTS-57bDOTS-157bDOTS-257bDOTS-1257bDOTS-357bDOTS-1357bDOTS-2357
bDOTS-12357bDOTS-457bDOTS-1457bDOTS-2457bDOTS-12457bDOTS-3457bDOTS-13457bDOTS-23457bDOTS-123457
bDOTS-67bDOTS-167bDOTS-267bDOTS-1267bDOTS-367bDOTS-1367bDOTS-2367bDOTS-12367bDOTS-467bDOTS-1467
bDOTS-2467bDOTS-12467bDOTS-3467bDOTS-13467bDOTS-23467bDOTS-123467bDOTS-567bDOTS-1567bDOTS-2567
bDOTS-12567bDOTS-3567bDOTS-13567bDOTS-23567bDOTS-123567bDOTS-4567bDOTS-14567bDOTS-24567
bDOTS-124567bDOTS-34567bDOTS-134567bDOTS-234567bDOTS-1234567bDOTS-8bDOTS-18bDOTS-28bDOTS-128
bDOTS-38bDOTS-138bDOTS-238bDOTS-1238bDOTS-48bDOTS-148bDOTS-248bDOTS-1248bDOTS-348bDOTS-1348
bDOTS-2348bDOTS-12348bDOTS-58bDOTS-158bDOTS-258bDOTS-1258bDOTS-358bDOTS-1358bDOTS-2358bDOTS-12358
bDOTS-458bDOTS-1458bDOTS-2458bDOTS-12458bDOTS-3458bDOTS-13458bDOTS-23458bDOTS-123458bDOTS-68
bDOTS-168bDOTS-268bDOTS-1268bDOTS-368bDOTS-1368bDOTS-2368bDOTS-12368bDOTS-468bDOTS-1468bDOTS-2468
bDOTS-12468bDOTS-3468bDOTS-13468bDOTS-23468bDOTS-123468bDOTS-568bDOTS-1568bDOTS-2568bDOTS-12568
bDOTS-3568bDOTS-13568bDOTS-23568bDOTS-123568bDOTS-4568bDOTS-14568bDOTS-24568bDOTS-124568
bDOTS-34568bDOTS-134568bDOTS-234568bDOTS-1234568bDOTS-78bDOTS-178bDOTS-278bDOTS-1278bDOTS-378
bDOTS-1378bDOTS-2378bDOTS-12378bDOTS-478bDOTS-1478bDOTS-2478bDOTS-12478bDOTS-3478bDOTS-13478
bDOTS-23478bDOTS-123478bDOTS-578bDOTS-1578bDOTS-2578bDOTS-12578bDOTS-3578bDOTS-13578bDOTS-23578
bDOTS-123578bDOTS-4578bDOTS-14578bDOTS-24578bDOTS-124578bDOTS-34578bDOTS-134578bDOTS-234578
bDOTS-1234578bDOTS-678bDOTS-1678bDOTS-2678bDOTS-12678bDOTS-3678bDOTS-13678bDOTS-23678bDOTS-123678
bDOTS-4678bDOTS-14678bDOTS-24678bDOTS-124678bDOTS-34678bDOTS-134678bDOTS-234678bDOTS-1234678
bDOTS-5678bDOTS-15678bDOTS-25678bDOTS-125678bDOTS-35678bDOTS-135678bDOTS-235678bDOTS-1235678
bDOTS-45678bDOTS-145678bDOTS-245678bDOTS-1245678bDOTS-345678bDOTS-1345678bDOTS-2345678
bDOTS-12345678=eN:1F9E0a=cEAD:1F35Ea=eK:82aPERMITTED HERE=eST-FEEDING:1F931a=dVE:2D8a=cICK:1F9F1a
=dDE:1F470aWITH VEIL=eGE:1F309aAT NIGHT=dEFCASE:1F4BCa=fS:1FA72a=cOCCOLI:1F966a=dKEN:A6aBAR
:238BaCIRCLE WITH NORTHWEST ARROW:1F494aHEART=dOM:1F9F9a=dWN:1F90EaHEART=bS:8a=bUBBLE:1F9CBaTEA
=gS:1FAE7a=cCKET:1FAA3a=cG:1F41Ba=dINESE:1A00aLETTER KAbGAbNGAbNGKAbPAbBAbMAbMPAbTAbDAbNAbNRAbCA
bJAbNYAbNYCAbYAbRAbLAbVAbSAbAbHAaVOWEL SIGN IcUcEcOcAE:1A1EaPALLAWAaEND OF SECTION
=cHID:1740aLETTER AbIbUbKAbGAbNGAbTAbDAbNAbPAbBAbMAbYAbRAbLAbWAbSAbHAaVOWEL SIGN IcU
=cILDING:1F3D7aCONSTRUCTION=cLLET:2022a:2219aOPERATOR=eHORN:1F56BaaWITH SOUND WAVES=eSEYE:25CEa
=cRRITO:1F32Fa=cS:1F68Ca:1F68FaSTOP=dT:1F464aIN SILHOUETTE=eS:1F465aIN SILHOUETTE=cTTER:1F9C8a
=gFLY:1F98Ba=bYTE:FEFFaORDER MARK=cZANTINE:1D000aMUSICAL SYMBOL PSILIcDASEIAcPERISPOMENI
cOXEIA EKFONITIKONdDIPLIcVAREIA EKFONITIKONdDIPLIcKATHISTIcSYRMATIKIcPARAKLITIKIcYPOKRISISdDIPLI
cKREMASTIcAPESO EKFONITIKONcEXO EKFONITIKONcTELEIAcKENTIMATAcAPOSTROFOSdDIPLIcSYNEVMAcTHITA
cOLIGON ARCHAIONcGORGON ARCHAIONcPSILONcCHAMILONcVATHYcISON ARCHAIONcKENTIMA ARCHAION
cKENTIMATA ARCHAIONcSAXIMATAcPARICHONcSTAVROS APODEXIAcOXEIAI ARCHAIONcVAREIAI ARCHAION
cAPODERMA ARCHAIONcAPOTHEMAcKLASMAcREVMAcPIASMA ARCHAIONcTINAGMAcANATRICHISMAcSEISMA
cSYNAGMA ARCHAIONdMETA STAVROUcOYRANISMA ARCHAIONcTHEMAcLEMOIcDYOcTRIAcTESSERAcKRATIMATA
cAPESO EXO NEOcFTHORA ARCHAIONcIMIFTHORAcTROMIKON ARCHAIONcKATAVA TROMIKONcPELASTONcPSIFISTON
cKONTEVMAcCHOREVMA ARCHAIONcRAPISMAcPARAKALESMA ARCHAIONcPARAKLITIKI ARCHAIONcICHADINcNANAcPETASMA
cKONTEVMA ALLOcTROMIKON ALLOcSTRAGGISMATAcGRONTHISMATAcISON NEOcOLIGON NEOcOXEIA NEOcPETASTI
cKOUFISMAcPETASTOKOUFISMAcKRATIMOKOUFISMAcPELASTON NEOcKENTIMATA NEO ANOcKENTIMA NEO ANOcYPSILI
cAPOSTROFOS NEOcAPOSTROFOI SYNDESMOS NEOcYPORROIcKRATIMOYPORROONcELAFRONcCHAMILIcMIKRON ISON
cVAREIA NEOcPIASMA NEOcPSIFISTON NEOcOMALONcANTIKENOMAcLYGISMAcPARAKLITIKI NEOcPARAKALESMA NEO
cETERON PARAKALESMAcKYLISMAcANTIKENOKYLISMAcTROMIKON NEOcEKSTREPTONcSYNAGMA NEOcSYRMAcCHOREVMA NEO
cEPEGERMAcSEISMA NEOcXIRON KLASMAcTROMIKOPSIFISTONcPSIFISTOLYGISMAcTROMIKOLYGISMA
cTROMIKOPARAKALESMAcPSIFISTOPARAKALESMAcTROMIKOSYNAGMAcPSIFISTOSYNAGMAcGORGOSYNTHETON
cARGOSYNTHETONcETERON ARGOSYNTHETONcOYRANISMA NEOcTHEMATISMOS ESOdEXOcTHEMA APLOUN
cTHES KAI APOTHEScKATAVASMAcENDOFONONcYFEN KATOdANOcSTAVROScKLASMA ANOcDIPLI ARCHAION
cKRATIMA ARCHAIONdALLOdNEOcAPODERMA NEOcAPLIcDIPLIcTRIPLIcTETRAPLIcKORONIScLEIMMA ENOS CHRONOU
dDYO CHRONONdTRION CHRONONdTESSARON CHRONONdIMISEOS CHRONOUcGORGON NEO ANOdPARESTIGMENON ARISTERA
eDEXIAcDIGORGONdPARESTIGMENON ARISTERA KATOfANOeDEXIAcTRIGORGONcARGONcIMIDIARGONcDIARGON
cAGOGI POLI ARGIdARGOTERIdARGIdMETRIAdMESIdGORGIdGORGOTERIdPOLI GORGIcMARTYRIA PROTOS ICHOS
dALLI PROTOS ICHOSdDEYTEROS ICHOSdALLI DEYTEROS ICHOSdTRITOS ICHOSdTRIFONIASdTETARTOS ICHOS
eLEGETOS ICHOSdLEGETOS ICHOSdPLAGIOS ICHOScISAKIA TELOUS ICHIMATOScAPOSTROFOI TELOUS ICHIMATOS
cFANEROSIS TETRAFONIASdMONOFONIASdDIFONIAScMARTYRIA VARYS ICHOSdPROTOVARYS ICHOS
dPLAGIOS TETARTOS ICHOScGORTHMIKON N APLOUNeDIPLOUNcENARXIS KAI FTHORA VOUcIMIFONONcIMIFTHORON
cFTHORA ARCHAION DEYTEROU ICHOUdDIATONIKI PAeNANAdNAOS ICHOSdDIATONIKI DIdSKLIRON DIATONON DI
dDIATONIKI KEeZOeNI KATOfANOdMALAKON CHROMA DIFONIASfMONOFONIAScFHTORA SKLIRON CHROMA VASIS
:1D0C5cFTHORA SKLIRON CHROMA VASISfSYNAFIdNENANOcCHROA ZYGOSdKLITONdSPATHI
cFTHORA I YFESIS TETARTIMORIONdENARMONIOS ANTIFONIAcYFESIS TRITIMORIONcDIESIS TRITIMORION
dTETARTIMORIONdAPLI DYO DODEKATAdMONOGRAMMOS TESSERA DODEKATAdDIGRAMMOS EX DODEKATA
dTRIGRAMMOS OKTO DODEKATAcYFESIS APLI DYO DODEKATAdMONOGRAMMOS TESSERA DODEKATA
dDIGRAMMOS EX DODEKATAdTRIGRAMMOS OKTO DODEKATAcGENIKI DIESISdYFESIScDIASTOLI APLI MIKRIeMEGALI
dDIPLIdTHESEOScSIMANSIS THESEOSeDISIMOUeTRISIMOUeTETRASIMOUdARSEOSeDISIMOUeTRISIMOUeTETRASIMOU
cDIGRAMMA GGcDIFTOGGOS OUcSTIGMAcARKTIKO PAdVOUdGAdDIdKEdZOdNIcKENTIMATA NEO MESOcKENTIMA NEO MESO
cKENTIMATA NEO KATOcKENTIMA NEO KATOcKLASMA KATOcGORGON NEO KATO=aCACTUS:1F335a=cDA:2106aUNA
=dUCEUS:2624a=cLENDAR:1F4C5a=dL:1F919aME HAND=cMERA:1F4F7aaWITH FLASH=dPING:1F3D5a=cN:18a
=dADIAN:1400aSYLLABICS HYPHENbEbAAIbIbIIbObOObY-CREE OObCARRIER EEcIbAbAAbWEbWEST-CREE WEbWI
bWEST-CREE WIbWIIbWEST-CREE WIIbWObWEST-CREE WObWOObWEST-CREE WOObNASKAPI WOObWAbWEST-CREE WAbWAA
bWEST-CREE WAAbNASKAPI WAAbAIbY-CREE WbGLOTTAL STOPbFINAL ACUTEcGRAVEcBOTTOM HALF RING
cTOP HALF RINGcRIGHT HALF RINGcRINGcDOUBLE ACUTEdSHORT VERTICAL STROKEScMIDDLE DOT
cSHORT HORIZONTAL STROKEcPLUScDOWN TACKbENbINbONbANbPEbPAAIbPIbPIIbPObPOObY-CREE POObCARRIER HEE
cHIbPAbPAAbPWEbWEST-CREE PWEbPWIbWEST-CREE PWIbPWIIbWEST-CREE PWIIbPWObWEST-CREE PWObPWOO
bWEST-CREE PWOObPWAbWEST-CREE PWAbPWAAbWEST-CREE PWAAbY-CREE PWAAbPbWEST-CREE PbCARRIER HbTEbTAAI
bTIbTIIbTObTOObY-CREE TOObCARRIER DEEcDIbTAbTAAbTWEbWEST-CREE TWEbTWIbWEST-CREE TWIbTWII
bWEST-CREE TWIIbTWObWEST-CREE TWObTWOObWEST-CREE TWOObTWAbWEST-CREE TWAbTWAAbWEST-CREE TWAA
bNASKAPI TWAAbTbTTEbTTIbTTObTTAbKEbKAAIbKIbKIIbKObKOObY-CREE KOObKAbKAAbKWEbWEST-CREE KWEbKWI
bWEST-CREE KWIbKWIIbWEST-CREE KWIIbKWObWEST-CREE KWObKWOObWEST-CREE KWOObKWAbWEST-CREE KWAbKWAA
bWEST-CREE KWAAbNASKAPI KWAAbKbKWbSOUTH-SLAVEY KEHcKIHcKOHcKAHbCEbCAAIbCIbCIIbCObCOObY-CREE COObCA
bCAAbCWEbWEST-CREE CWEbCWIbWEST-CREE CWIbCWIIbWEST-CREE CWIIbCWObWEST-CREE CWObCWOObWEST-CREE CWOO
bCWAbWEST-CREE CWAbCWAAbWEST-CREE CWAAbNASKAPI CWAAbCbSAYISI THbMEbMAAIbMIbMIIbMObMOObY-CREE MOO
bMAbMAAbMWEbWEST-CREE MWEbMWIbWEST-CREE MWIbMWIIbWEST-CREE MWIIbMWObWEST-CREE MWObMWOO
bWEST-CREE MWOObMWAbWEST-CREE MWAbMWAAbWEST-CREE MWAAbNASKAPI MWAAbMbWEST-CREE MbMHbATHAPASCAN M
bSAYISI MbNEbNAAIbNIbNIIbNObNOObY-CREE NOObNAbNAAbNWEbWEST-CREE NWEbNWAbWEST-CREE NWAbNWAA
bWEST-CREE NWAAbNASKAPI NWAAbNbCARRIER NGbNHbLEbLAAIbLIbLIIbLObLOObY-CREE LOObLAbLAAbLWE
bWEST-CREE LWEbLWIbWEST-CREE LWIbLWIIbWEST-CREE LWIIbLWObWEST-CREE LWObLWOObWEST-CREE LWOObLWA
bWEST-CREE LWAbLWAAbWEST-CREE LWAAbLbWEST-CREE LbMEDIAL LbSEbSAAIbSIbSIIbSObSOObY-CREE SOObSAbSAA
bSWEbWEST-CREE SWEbSWIbWEST-CREE SWIbSWIIbWEST-CREE SWIIbSWObWEST-CREE SWObSWOObWEST-CREE SWOObSWA
bWEST-CREE SWAbSWAAbWEST-CREE SWAAbNASKAPI SWAAbSbATHAPASCAN SbSWbBLACKFOOT SbMOOSE-CREE SK
bNASKAPI SKWcS-WcSPWAcSTWAcSKWAcSCWAbSHEbSHIbSHIIbSHObSHOObSHAbSHAAbSHWEbWEST-CREE SHWEbSHWI
bWEST-CREE SHWIbSHWIIbWEST-CREE SHWIIbSHWObWEST-CREE SHWObSHWOObWEST-CREE SHWOObSHWA
bWEST-CREE SHWAbSHWAAbWEST-CREE SHWAAbSHbYEbYAAIbYIbYIIbYObYOObY-CREE YOObYAbYAAbYWEbWEST-CREE YWE
bYWIbWEST-CREE YWIbYWIIbWEST-CREE YWIIbYWObWEST-CREE YWObYWOObWEST-CREE YWOObYWAbWEST-CREE YWA
bYWAAbWEST-CREE YWAAbNASKAPI YWAAbYbBIBLE-CREE YbWEST-CREE YbSAYISI YIbREbR-CREE REbWEST-CREE LE
bRAAIbRIbRIIbRObROObWEST-CREE LObRAbRAAbWEST-CREE LAbRWAAbWEST-CREE RWAAbRbWEST-CREE RbMEDIAL RbFE
bFAAIbFIbFIIbFObFOObFAbFAAbFWAAbWEST-CREE FWAAbFbTHEbN-CREE THEbTHIbN-CREE THIbTHIIbN-CREE THII
bTHObTHOObTHAbTHAAbTHWAAbWEST-CREE THWAAbTHbTTHEbTTHIbTTHObTTHAbTTHbTYEbTYIbTYObTYAbNUNAVIK HEcHI
cHIIcHOcHOOcHAcHAAcHbNUNAVUT HbHKbQAAIbQIbQIIbQObQOObQAbQAAbQbTLHEbTLHIbTLHObTLHAbWEST-CREE REcRI
cROcRAbNGAAIbNGIbNGIIbNGObNGOObNGAbNGAAbNGbNNGbSAYISI SHEcSHIcSHOcSHAbWOODS-CREE THEcTHIcTHOcTHA
cTHbLHIbLHIIbLHObLHOObLHAbLHAAbLHbTH-CREE THEcTHIcTHIIcTHOcTHOOcTHAcTHAAcTHbAIVILIK BbBLACKFOOT E
cIcOcAcWEcWIcWOcWAcNEcNIcNOcNAcKEcKIcKOcKAbSAYISI HEcHIcHOcHAbCARRIER GHUcGHOcGHEcGHEEcGHIcGHAcRU
cROcREcREEcRIcRAcWUcWOcWEcWEEcWIcWAcHWUcHWOcHWEcHWEEcHWIcHWAcTHUcTHOcTHEcTHEEcTHIcTHAcTTUcTTOcTTE
cTTEEcTTIcTTAcPUcPOcPEcPEEcPIcPAcPcGUcGOcGEcGEEcGIcGAcKHUcKHOcKHEcKHEEcKHIcKHAcKKUcKKOcKKEcKKEE
cKKIcKKAcKKcNUcNOcNEcNEEcNIcNAcMUcMOcMEcMEEcMIcMAcYUcYOcYEcYEEcYIcYAcJUbSAYISI JUbCARRIER JOcJE
cJEEcJIbSAYISI JIbCARRIER JAcJJUcJJOcJJEcJJEEcJJIcJJAcLUcLOcLEcLEEcLIcLAcDLUcDLOcDLEcDLEEcDLIcDLA
cLHUcLHOcLHEcLHEEcLHIcLHAcTLHUcTLHOcTLHEcTLHEEcTLHIcTLHAcTLUcTLOcTLEcTLEEcTLIcTLAcZUcZOcZEcZEEcZI
cZAcZcINITIAL ZcDZUcDZOcDZEcDZEEcDZIcDZAcSUcSOcSEcSEEcSIcSAcSHUcSHOcSHEcSHEEcSHIcSHAcSHcTSUcTSO
cTSEcTSEEcTSIcTSAcCHUcCHOcCHEcCHEEcCHIcCHAcTTSUcTTSOcTTSEcTTSEEcTTSIcTTSAbCHI SIGNbFULL STOPbQAI
bNGAIbNNGIbNNGIIbNNGObNNGOObNNGAbNNGAAbWOODS-CREE THWEEcTHWIcTHWIIcTHWOcTHWOOcTHWAcTHWAAcFINAL TH
bBLACKFOOT W:18B0bOYbAYbAAYbWAYbPOYbPAYbPWOYbTAYbKAYbKWAYbMAYbNOYbNAYbLAYbSOYbSAYbSHOYbSHAYbSHWOY
bYOYbYAYbRAYbNWIbOJIBWAY NWIbNWIIbOJIBWAY NWIIbNWObOJIBWAY NWObNWOObOJIBWAY NWOObRWEEbRWIbRWIIbRWO
bRWOObRWAbOJIBWAY PcTcKcCcMcNcScSHbEASTERN WbWESTERN WbFINAL SMALL RINGcRAISED DOTbR-CREE RWE
bWEST-CREE LOOcLAAbTHWEbTHWAbTTHWEbTTHOObTTHAAbTLHWEbTLHOObSAYISI SHWEcSHOOcHOObCARRIER GWU
cDENE GEEcGAAcGWAbSAYISI JUUbCARRIER JWAbBEAVER DENE LdRbCARRIER DENTAL S:11AB0bNATTILIK HIcHIIcHO
cHOOcHAcHAAcSHRIcSHRIIcSHROcSHROOcSHRAcSHRAAbSPEbSPIbSPObSPA=dCEL:18a:94aCHARACTER:E007FaTAG
=gLATION:1F5D9aX=fR:264Ba=dDLE:1F56Fa=eY:1F36Ca=dNED:1F96BaFOOD=dOE:1F6F6a=cPITULUM:2E3Fa
=dRICORN:2651a=cR:26D0aSLIDING=dD:1F4C7aINDEX:1F5C2bDIVIDERSaFILE BOX=dE:2105aOF=eT:2038a
:2041aINSERTION POINT=dIAN:102A0aLETTER AbP2bDbLbUUUbRbLDbA2bQbBbMbObD2bTbSHbSH2bSbC-18bUbNNbXbN
bTT2bPbSSbIbEbUUUUbKbK2bNDbUUbGbG2bSTbST2bNGbIIbC-39bTTbUUU2bRRbMBbMB2bMB3bMB4bLD2bE2bUUU3
=dON:2C7a=eUSEL:1F3A0aHORSE=dP:1F38FaSTREAMER=eENTRY:1FA9AaSAW=dRIAGE:DaRETURN=eOT:1F955a
=cSTLE:26EBa=cT:1F408a:1F431aFACE:1F639bWITH TEARS OF JOY:1F63CcWRY SMILE
=cUCASIAN:10530aALBANIAN LETTER ALTcBETcGIMcDATcEBcZARLcEYNcZHILcTAScCHAcYOWDcZHAcIRBcSHAcLANcINYA
cXEYNcDYANcCARcJHOXcKARcLYITcHEYTcQAYcAORcCHOYcCHIcCYAYcMAQcQARcNOWCcDZYAYcSHAKcJAYNcONcTYAYcFAM
cDZAYcCHATcPENcGHEYScRATcSEYKcVEYZcTIWRcSHOYcIWNcCYAWcCAYNcYAYDcPIWRcKIW:1056FbCITATION MARK
=dTION:2621aSIGN=bCH:94a=bEDI:20B5aSIGN=eLLA:B8a=cLTIC:1F548aCROSS=cNT:A2aSIGN
=eRE:2104aLINE SYMBOL=gLINE:FE4AaOVERLINE:FE4EaLOW LINE=cRES:26B3a=bGJ:34Fa=bHAINS:26D3a=eR:1FA91a
=dKMA:11100aSIGN CANDRABINDUbANUSVARAbVISARGAaLETTER AAbIbUbEbKAAbKHAAbGAAbGHAAbNGAAbCAAbCHAAbJAA
bJHAAbNYAAbTTAAbTTHAAbDDAAbDDHAAbNNAAbTAAbTHAAbDAAbDHAAbNAAbPAAbPHAAbBAAbBHAAbMAAbYYAAbYAAbRAAbLAA
bWAAbSAAbHAAaVOWEL SIGN AcIcIIcUcUUcEcAIcOcAUcOIaO MARKaAU MARKaVIRAMAaMAAYYAA:11136aDIGIT ZERO
bONEbTWObTHREEbFOURbFIVEbSIXbSEVENbEIGHTbNINEaSECTION MARKaDANDAaDOUBLE DANDAaQUESTION MARK
aLETTER LHAAaVOWEL SIGN AAcEIaLETTER VAA=dM:AA00aLETTER AbIbUbEbAIbObKAbKHAbGAbGHAbNGUEbNGAbCHA
bCHHAbJAbJHAbNHUEbNHAbNHJAbTAbTHAbDAbDHAbNUEbNAbDDAbPAbPPAbPHAbBAbBHAbMUEbMAbBBAbYAbRAbLAbVAbSSA
bSAbHAaVOWEL SIGN AAcIcIIcEIcUcOEcOcAIcAUcUEaCONSONANT SIGN YAcRAcLAcWA:AA40aLETTER FINAL KcGcNG
aCONSONANT SIGN FINAL NGaLETTER FINAL CHcTcNcPcYcRcLcSSaCONSONANT SIGN FINAL MdH:AA50aDIGIT ZERO
bONEbTWObTHREEbFOURbFIVEbSIXbSEVENbEIGHTbNINE:AA5CaPUNCTUATION SPIRALbDANDAbDOUBLE DANDA
bTRIPLE DANDA=dRACTER:9aTABULATION:88bSETbWITH JUSTIFICATION:2040aTIE
=eT:1F4B9aWITH UPWARDS TREND AND YEN SIGN:1F4C8dbDOWNWARDS TREND=cECK:2713aMARK=fER:1F67EaBOARD
:1FB95bFILL=dERING:1F4E3aMEGAPHONE=eSE:1F9C0aWEDGE=dQUERED:1F3C1aFLAG=dROKEE:13A0aLETTER AbEbIbObU
bVbGAbKAbGEbGIbGObGUbGVbHAbHEbHIbHObHUbHVbLAbLEbLIbLObLUbLVbMAbMEbMIbMObMUbNAbHNAbNAHbNEbNIbNObNU
bNVbQUAbQUEbQUIbQUObQUUbQUVbSAbSbSEbSIbSObSUbSVbDAbTAbDEbTEbDIbTIbDObDUbDVbDLAbTLAbTLEbTLIbTLObTLU
bTLVbTSAbTSEbTSIbTSObTSUbTSVbWAbWEbWIbWObWUbWVbYAbYEbYIbYObYUbYVbMV:13F8aSMALL LETTER YEcYIcYOcYU
cYVcMV:AB70cAcEcIcOcUcVcGAcKAcGEcGIcGOcGUcGVcHAcHEcHIcHOcHUcHVcLAcLEcLIcLOcLUcLVcMAcMEcMIcMOcMUcNA
cHNAcNAHcNEcNIcNOcNUcNVcQUAcQUEcQUIcQUOcQUUcQUVcSAcScSEcSIcSOcSUcSVcDAcTAcDEcTEcDIcTIcDOcDUcDVcDLA
cTLAcTLEcTLIcTLOcTLUcTLVcTSAcTSEcTSIcTSOcTSUcTSVcWAcWEcWIcWOcWUcWVcYA=eRIES:1F352a
=fY:1F338aBLOSSOM=dSTNUT:1F330a=cI:2627aRHO=dCKEN:1F414a=dLD:1F9D2a=fREN:1F6B8aCROSSING
=dPMUNK:1F43Fa=dRON:26B7a=cOCOLATE:1F36BaBAR=dPSTICKS:1F962a=dRASMIAN:10FB0aLETTER ALEPH
bSMALL ALEPHbBETHbGIMELbDALETHbHEbWAWbCURLED WAWbZAYINbHETHbYODHbKAPHbLAMEDHbMEMbNUNbSAMEKHbAYIN
bPEbRESHbSHINbTAWaNUMBER ONEbTWObTHREEbFOURbTENbTWENTYbONE HUNDRED=cRISTMAS:1F384aTREE=cURCH:26EAa
=bINEMA:1F3A6a=cRCLE:25CDaWITH VERTICAL FILL:25D0bLEFT HALF BLACKbRIGHT HALF BLACK
bLOWER HALF BLACKbUPPER HALF BLACKcRIGHT QUADRANT BLACKbALL BUT UPPER LEFT QUADRANT BLACK
:29B5bHORIZONTAL BAR:29BAaDIVIDED BY HORIZONTAL BAR AND TOP HALF DIVIDED BY VERTICAL BAR
aWITH SUPERIMPOSED X:29C2bSMALL CIRCLE TO THE RIGHTbTWO HORIZONTAL STROKES TO THE RIGHT
=gD:2295aPLUSaMINUSaTIMESaDIVISION SLASHaDOT OPERATORaRING OPERATORaASTERISK OPERATORaEQUALSaDASH
:2389aHORIZONTAL BAR WITH NOTCHaTRIANGLE DOWN:2460aDIGIT ONEbTWObTHREEbFOURbFIVEbSIXbSEVENbEIGHT
bNINEaNUMBER TENbELEVENbTWELVEbTHIRTEENbFOURTEENbFIFTEENbSIXTEENbSEVENTEENbEIGHTEENbNINETEEN
bTWENTY:24B6aLATIN CAPITAL LETTER AdBdCdDdEdFdGdHdIdJdKdLdMdNdOdPdQdRdSdTdUdVdWdXdYdZ
bSMALL LETTER AdBdCdDdEdFdGdHdIdJdKdLdMdNdOdPdQdRdSdTdUdVdWdXdYdZaDIGIT ZERO:26D2aCROSSING LANES
:272AaWHITE STAR:2742aOPEN CENTRE EIGHT POINTED STAR:27B2aHEAVY WHITE RIGHTWARDS ARROW
:29B6aVERTICAL BARaPARALLELaREVERSE SOLIDUSaPERPENDICULAR:29BCaANTICLOCKWISE-ROTATED DIVISION SIGN
:29BEaWHITE BULLETaBULLETaLESS-THANaGREATER-THAN:2A36aMULTIPLICATION SIGN WITH CIRCUMFLEX ACCENT
:2A38aDIVISION SIGN:2BBEaXaBOLD X:3036aPOSTAL MARK:3244aIDEOGRAPH QUESTIONbKINDERGARTENbSCHOOL
bKOTOaNUMBER TEN ON BLACK SQUAREbTWENTY ON BLACK SQUAREbTHIRTY ON BLACK SQUARE
bFORTY ON BLACK SQUAREbFIFTY ON BLACK SQUAREbSIXTY ON BLACK SQUAREbSEVENTY ON BLACK SQUARE
bEIGHTY ON BLACK SQUARE:3251bTWENTY ONEcTWOcTHREEcFOURcFIVEcSIXcSEVENcEIGHTcNINEbTHIRTYcONEcTWO
cTHREEcFOURcFIVEaHANGUL KIYEOKbNIEUNbTIKEUTbRIEULbMIEUMbPIEUPbSIOSbIEUNGbCIEUCbCHIEUCHbKHIEUKH
bTHIEUTHbPHIEUPHbHIEUHbKIYEOK AbNIEUN AbTIKEUT AbRIEUL AbMIEUM AbPIEUP AbSIOS AbIEUNG AbCIEUC A
bCHIEUCH AbKHIEUKH AbTHIEUTH AbPHIEUPH AbHIEUH AaKOREAN CHARACTER CHAMKOcJUEUIaHANGUL IEUNG U
:3280aIDEOGRAPH ONEbTWObTHREEbFOURbFIVEbSIXbSEVENbEIGHTbNINEbTENbMOONbFIREbWATERbWOODbMETALbEARTH
bSUNbSTOCKbHAVEbSOCIETYbNAMEbSPECIALbFINANCIALbCONGRATULATIONbLABORbSECRETbMALEbFEMALEbSUITABLE
bEXCELLENTbPRINTbATTENTIONbITEMbRESTbCOPYbCORRECTbHIGHbCENTREbLOWbLEFTbRIGHTbMEDICINEbRELIGION
bSTUDYbSUPERVISEbENTERPRISEbRESOURCEbALLIANCEbNIGHTaNUMBER THIRTY SIXcSEVENcEIGHTcNINEbFORTYcONE
cTWOcTHREEcFOURcFIVEcSIXcSEVENcEIGHTcNINEbFIFTY:32D0aKATAKANA AbIbUbEbObKAbKIbKUbKEbKObSAbSIbSUbSE
bSObTAbTIbTUbTEbTObNAbNIbNUbNEbNObHAbHIbHUbHEbHObMAbMIbMUbMEbMObYAbYUbYObRAbRIbRUbREbRObWAbWIbWE
bWO:1F10DaZERO WITH SLASHaANTICLOCKWISE ARROWaDOLLAR SIGN WITH OVERLAID BACKSLASH
:1F12BaITALIC LATIN CAPITAL LETTER CeRaCDaWZ:1F16DaCCaC WITH OVERLAID BACKSLASHaHUMAN FIGURE
:1F250aIDEOGRAPH ADVANTAGEbACCEPT:1F540aCROSS POMMEE:1F6C8aINFORMATION SOURCE:1F7D5aTRIANGLE
:1F7D7aSQUARE:1F900aCROSS FORMEE WITH FOUR DOTSdTWO DOTSc=eULATION:2A10aFUNCTION=fMFLEX:5EaACCENT
=fS:1F3AAaTENT=cTYSCAPE:1F306aAT DUSK:1F3D9a=bJK:2E80aRADICAL REPEATbCLIFFbSECOND ONEcTWOcTHREE
bPERSONbBOXbTABLEbKNIFE ONEcTWObDIVINATIONbSEALbSMALL ONEcTWObLAME ONEcTWOcTHREEcFOURbSNAKEbTHREAD
bSNOUT ONEcTWObHEART ONEcTWObHANDbRAP:2E9BbCHOKEbSUNbMOONbDEATHbMOTHERbCIVILIANbWATER ONEcTWObFIRE
bPAW ONEcTWObSIMPLIFIED HALF TREE TRUNKbCOWbDOGbJADEbBOLT OF CLOTHbEYEbSPIRIT ONEcTWObBAMBOObSILK
bC-SIMPLIFIED SILKbNET ONEcTWOcTHREEcFOURbMESHbSHEEPbRAMbEWEbOLDbBRUSH ONEcTWObMEATbMORTAR
bGRASS ONEcTWOcTHREEbTIGERbCLOTHESbWEST ONEcTWObC-SIMPLIFIED SEEbSIMPLIFIED HORNbHORN
bC-SIMPLIFIED SPEECHcSHELLbFOOTbC-SIMPLIFIED CARTbSIMPLIFIED WALKbWALK ONEcTWObCITY
bC-SIMPLIFIED GOLDbLONG ONEcTWObC-SIMPLIFIED LONGcGATEbMOUND ONEcTWObRAINbBLUE
bC-SIMPLIFIED TANNED LEATHERcLEAFcWINDcFLYbEAT ONEcTWOcTHREEbC-SIMPLIFIED EATbHEAD
bC-SIMPLIFIED HORSEbBONEbGHOSTbC-SIMPLIFIED FISHcBIRDcSALTbSIMPLIFIED WHEATcYELLOW
bC-SIMPLIFIED FROGbJ-SIMPLIFIED EVENbC-SIMPLIFIED EVENbJ-SIMPLIFIED TOOTHbC-SIMPLIFIED TOOTH
bJ-SIMPLIFIED DRAGONbC-SIMPLIFIED DRAGONbTURTLEbJ-SIMPLIFIED TURTLEbC-SIMPLIFIED TURTLE
:31C0aSTROKE TbWGbXGbBXGbSWbHZZbHZGbHPbHZWGbSZWGbHZTbHZZPbHPWGbHZWbHZZZbNbHbSbPbSPbDbHZbHGbSZbSWZ
bSTbSGbPDbPZbTNbSZZbSWGbHXWGbHZZZGbPGbQ=bLAMSHELL:1F581aMOBILE PHONE=dPPER:1F3ACaBOARD
=fING:1F44FaHANDS SIGN=dSSICAL:1F3DBaBUILDING=cEAR:239AaSCREEN SYMBOL=cINKING:1F37BaBEER MUGS
:1F942aGLASSES=dPBOARD:1F4CBa=cOCK:1F550aFACE ONE OCLOCKbTWO OCLOCKbTHREE OCLOCKbFOUR OCLOCK
bFIVE OCLOCKbSIX OCLOCKbSEVEN OCLOCKbEIGHT OCLOCKbNINE OCLOCKbTEN OCLOCKbELEVEN OCLOCK
bTWELVE OCLOCKbONE-THIRTYbTWO-THIRTYbTHREE-THIRTYbFOUR-THIRTYbFIVE-THIRTYbSIX-THIRTYbSEVEN-THIRTY
bEIGHT-THIRTYbNINE-THIRTYbTEN-THIRTYbELEVEN-THIRTYbTWELVE-THIRTY=fWISE:21B7aTOP SEMICIRCLE ARROW
:21BBaOPEN CIRCLE ARROW:2231aINTEGRALaCONTOUR INTEGRAL:27F3aGAPPED CIRCLE ARROW
:2941aCLOSED CIRCLE ARROW:2B6EaTRIANGLE-HEADED OPEN CIRCLE ARROW
:1F501aRIGHTWARDS AND LEFTWARDS OPEN CIRCLE ARROWSgWITH CIRCLED ONE OVERLAY
aDOWNWARDS AND UPWARDS OPEN CIRCLE ARROWS:1F5D8aRIGHT AND LEFT SEMICIRCLE ARROWS=dSE:2050aUP
=fD:2A4CaUNION WITH SERIFSaINTERSECTION WITH SERIFS:2A50aUNION WITH SERIFS AND SMASH PRODUCT
:2ACFaSUBSETaSUPERSETaSUBSET OR EQUAL TOaSUPERSET OR EQUAL TO:1F302aUMBRELLA:1F4D5aBOOK
:1F4EAaMAILBOX WITH LOWERED FLAGcRAISED FLAG:1F510aLOCK WITH KEY=dUD:2601a:1F327aWITH RAINbSNOW
bLIGHTNINGbTORNADO=dWN:1F921aFACE=bOAT:1F9E5a=cCKROACH:1FAB3a=eTAIL:1F378aGLASS=dONUT:1F965a
=cFFIN:26B0a=cIN:1FA99a=cLLISION:1F4A5aSYMBOL=dON:3Aa:20A1aSIGN:2254aEQUALS
=cMBINING:300aGRAVE ACCENTaACUTE ACCENTaCIRCUMFLEX ACCENTaTILDEaMACRONaOVERLINEaBREVEaDOT ABOVE
aDIAERESISaHOOK ABOVEaRING ABOVEaDOUBLE ACUTE ACCENTaCARONaVERTICAL LINE ABOVE
aDOUBLE VERTICAL LINE ABOVEbGRAVE ACCENTaCANDRABINDUaINVERTED BREVEaTURNED COMMA ABOVEaCOMMA ABOVE
aREVERSED COMMA ABOVEaCOMMA ABOVE RIGHTaGRAVE ACCENT BELOWaACUTE ACCENT BELOWaLEFT TACK BELOW
aRIGHT TACK BELOWaLEFT ANGLE ABOVEaHORNaLEFT HALF RING BELOWaUP TACK BELOWaDOWN TACK BELOW
aPLUS SIGN BELOWaMINUS SIGN BELOWaPALATALIZED HOOK BELOWaRETROFLEX HOOK BELOWaDOT BELOW
aDIAERESIS BELOWaRING BELOWaCOMMA BELOWaCEDILLAaOGONEKaVERTICAL LINE BELOWaBRIDGE BELOW
aINVERTED DOUBLE ARCH BELOWaCARON BELOWaCIRCUMFLEX ACCENT BELOWaBREVE BELOWaINVERTED BREVE BELOW
aTILDE BELOWaMACRON BELOWaLOW LINEaDOUBLE LOW LINEaTILDE OVERLAYaSHORT STROKE OVERLAY
aLONG STROKE OVERLAYaSHORT SOLIDUS OVERLAYaLONG SOLIDUS OVERLAYaRIGHT HALF RING BELOW
aINVERTED BRIDGE BELOWaSQUARE BELOWaSEAGULL BELOWaX ABOVEaVERTICAL TILDEaDOUBLE OVERLINE
aGRAVE TONE MARKaACUTE TONE MARKaGREEK PERISPOMENIbKORONISbDIALYTIKA TONOSbYPOGEGRAMMENI
aBRIDGE ABOVEaEQUALS SIGN BELOWaDOUBLE VERTICAL LINE BELOWaLEFT ANGLE BELOWaNOT TILDE ABOVE
aHOMOTHETIC ABOVEaALMOST EQUAL TO ABOVEaLEFT RIGHT ARROW BELOWaUPWARDS ARROW BELOWaGRAPHEME JOINER
aRIGHT ARROWHEAD ABOVEaLEFT HALF RING ABOVEaFERMATAaX BELOWaLEFT ARROWHEAD BELOW
aRIGHT ARROWHEAD BELOWcAND UP ARROWHEAD BELOWbHALF RING ABOVEaDOT ABOVE RIGHTaASTERISK BELOW
aDOUBLE RING BELOWaZIGZAG ABOVEaDOUBLE BREVE BELOWcbMACRONcBELOWbTILDEbINVERTED BREVE
bRIGHTWARDS ARROW BELOWaLATIN SMALL LETTER AdEdIdOdUdCdDdHdMdRdTdVdX:483aCYRILLIC TITLO
bPALATALIZATIONbDASIA PNEUMATAbPSILI PNEUMATAbPOKRYTIEbHUNDRED THOUSANDS SIGNbMILLIONS SIGN
:1AB0aDOUBLED CIRCUMFLEX ACCENTaDIAERESIS-RINGaINFINITYaDOWNWARDS ARROWaTRIPLE DOTaX-X BELOW
aWIGGLY LINE BELOWaOPEN MARK BELOWaDOUBLE OPEN MARK BELOWaLIGHT CENTRALIZATION STROKE BELOW
aSTRONG CENTRALIZATION STROKE BELOWaPARENTHESES ABOVEaDOUBLE PARENTHESES ABOVEaPARENTHESES BELOW
bOVERLAYaLATIN SMALL LETTER W BELOWdTURNED W BELOWaLEFT PARENTHESIS ABOVE LEFT
aRIGHT PARENTHESIS ABOVE RIGHTaLEFT PARENTHESIS BELOW LEFTaRIGHT PARENTHESIS BELOW RIGHT
aSQUARE BRACKETS ABOVEaNUMBER SIGN ABOVEaINVERTED DOUBLE ARCH ABOVEaPLUS SIGN ABOVE
aDOUBLE PLUS SIGN ABOVEdBELOWaTRIPLE ACUTE ACCENTaLATIN SMALL LETTER INSULAR GeReT
:1DC0aDOTTED GRAVE ACCENTbACUTE ACCENTaSNAKE BELOWaSUSPENSION MARKaMACRON-ACUTEaGRAVE-MACRON
aMACRON-GRAVEaACUTE-MACRONaGRAVE-ACUTE-GRAVEaACUTE-GRAVE-ACUTEaLATIN SMALL LETTER R BELOW
aBREVE-MACRONaMACRON-BREVEaDOUBLE CIRCUMFLEX ABOVEaOGONEK ABOVEaZIGZAG BELOWaIS BELOWaUR ABOVE
aUS ABOVEaLATIN SMALL LETTER FLATTENED OPEN A ABOVEdAEdAOdAVdC CEDILLAdINSULAR DdETHdG
bLETTER SMALL CAPITAL GbSMALL LETTER KdLbLETTER SMALL CAPITAL LeMbSMALL LETTER N
bLETTER SMALL CAPITAL NeRbSMALL LETTER R ROTUNDAdSdLONG SdZdALPHAdBdBETAdSCHWAdF
dL WITH DOUBLE MIDDLE TILDEdO WITH LIGHT CENTRALIZATION STROKEdPdESH
dU WITH LIGHT CENTRALIZATION STROKEdWdA WITH DIAERESISdO WITH DIAERESISdU WITH DIAERESIS
aUP TACK ABOVEaKAVYKA ABOVE RIGHTcLEFTaDOT ABOVE LEFTaWIDE INVERTED BRIDGE BELOWaDOT BELOW LEFT
aDELETION MARKaDOUBLE INVERTED BREVE BELOWaALMOST EQUAL TO BELOWaLEFT ARROWHEAD ABOVE
aRIGHT ARROWHEAD AND DOWN ARROWHEAD BELOW:20D0aLEFT HARPOON ABOVEaRIGHT HARPOON ABOVE
aLONG VERTICAL LINE OVERLAYaSHORT VERTICAL LINE OVERLAYaANTICLOCKWISE ARROW ABOVE
aCLOCKWISE ARROW ABOVEaLEFT ARROW ABOVEaRIGHT ARROW ABOVEaRING OVERLAYaCLOCKWISE RING OVERLAY
aANTICLOCKWISE RING OVERLAYaTHREE DOTS ABOVEaFOUR DOTS ABOVEaENCLOSING CIRCLEbSQUAREbDIAMOND
bCIRCLE BACKSLASHaLEFT RIGHT ARROW ABOVEaENCLOSING SCREENbKEYCAPbUPWARD POINTING TRIANGLE
aREVERSE SOLIDUS OVERLAYaDOUBLE VERTICAL STROKE OVERLAYaANNUITY SYMBOLaTRIPLE UNDERDOT
aWIDE BRIDGE ABOVEaLEFTWARDS ARROW OVERLAYaLONG DOUBLE SOLIDUS OVERLAY
aRIGHTWARDS HARPOON WITH BARB DOWNWARDSaLEFTWARDS HARPOON WITH BARB DOWNWARDSaLEFT ARROW BELOW
aRIGHT ARROW BELOWaASTERISK ABOVE:2DE0aCYRILLIC LETTER BEcVEcGHEcDEcZHEcZEcKAcELcEMcENcOcPEcERcES
cTEcHAcTSEcCHEcSHAcSHCHAcFITAcES-TEcAcIEcDJERVcMONOGRAPH UKcYATcYUcIOTIFIED AcLITTLE YUScBIG YUS
cIOTIFIED BIG YUS:3099aKATAKANA-HIRAGANA VOICED SOUND MARKbSEMI-VOICED SOUND MARK
:A66FaCYRILLIC VZMETbTEN MILLIONS SIGNbHUNDRED MILLIONS SIGNbTHOUSAND MILLIONS SIGN
:A674bLETTER UKRAINIAN IEcIcYIcUcHARD SIGNcYERUcSOFT SIGNcOMEGAbKAVYKAbPAYEROK:A69EbLETTER EF
cIOTIFIED E:A8E0aDEVANAGARI DIGIT ZEROcONEcTWOcTHREEcFOURcFIVEcSIXcSEVENcEIGHTcNINEbLETTER AcUcKA
cNAcPAcRAcVIbSIGN AVAGRAHA:FE20aLIGATURE LEFT HALFbRIGHT HALFaDOUBLE TILDE LEFT HALFcRIGHT HALF
aMACRON LEFT HALFbRIGHT HALFaCONJOINING MACRONaLIGATURE LEFT HALF BELOWbRIGHT HALF BELOW
aTILDE LEFT HALF BELOWbRIGHT HALF BELOWaMACRON LEFT HALF BELOWbRIGHT HALF BELOW
aCONJOINING MACRON BELOWaCYRILLIC TITLO LEFT HALFcRIGHT HALF:10376aOLD PERMIC LETTER ANdDOIdZATA
dNENOEdSII:1133BaBINDU BELOW:11366aGRANTHA DIGIT ZEROcONEcTWOcTHREEcFOURcFIVEcSIX:11370bLETTER A
cKAcNAcVIcPA:1D242aGREEK MUSICAL TRISEMEcTETRASEMEcPENTASEME:1E000aGLAGOLITIC LETTER AZUcBUKYcVEDE
cGLAGOLIcDOBROcYESTUcZHIVETE:1E008cZEMLJAcIZHEcINITIAL IZHEcIcDJERVIcKAKOcLJUDIJEcMYSLITEcNASHI
cONUcPOKOJIcRITSIcSLOVOcTVRIDOcUKUcFRITUcHERU:1E01BcSHTAcTSIcCHRIVIcSHAcYERUcYERIcYATI:1E023cYU
cSMALL YUS:1E026cYOcIOTATED SMALL YUScBIG YUScIOTATED BIG YUScFITA=dET:2604a=dMA:2Ca=eERCIAL:40aAT
:2052aMINUS SIGN=dPASS:1F9EDa=eLEMENT:2201a=eOSITION:2384aSYMBOL=eRESSION:1F5DCa
=cNFETTI:1F38AaBALL=eOUNDED:1F616aFACE=eUSED:1F615aFACE=dGRUENT:2A6DaWITH DOT ABOVE
=dICAL:2332aTAPER=dJUNCTION:260Ca=dSTRUCTION:1F477aWORKER:1F6A7aSIGN=dTAINS:220BaAS MEMBER
:22B3bNORMAL SUBGROUP:22B5dOR EQUAL TO:22FAaWITH LONG HORIZONTAL STROKE
bVERTICAL BAR AT END OF HORIZONTAL STROKE:22FDbOVERBAR=eINUOUS:2381aUNDERLINE SYMBOL
=eOUR:222EaINTEGRAL=eROL:9BaSEQUENCE INTRODUCER:1F39BaKNOBS=dVENIENCE:1F3EAaSTORE=cOKED:1F35AaRICE
=eIE:1F36Aa=fNG:1F373a=cPTIC:3E2aCAPITAL LETTER SHEIaSMALL LETTER SHEIaCAPITAL LETTER FEI
aSMALL LETTER FEIaCAPITAL LETTER KHEIaSMALL LETTER KHEIaCAPITAL LETTER HORIaSMALL LETTER HORI
aCAPITAL LETTER GANGIAaSMALL LETTER GANGIAaCAPITAL LETTER SHIMAaSMALL LETTER SHIMA
aCAPITAL LETTER DEIaSMALL LETTER DEI:2C80aCAPITAL LETTER ALFAaSMALL LETTER ALFA
aCAPITAL LETTER VIDAaSMALL LETTER VIDAaCAPITAL LETTER GAMMAaSMALL LETTER GAMMA
aCAPITAL LETTER DALDAaSMALL LETTER DALDAaCAPITAL LETTER EIEaSMALL LETTER EIEaCAPITAL LETTER SOU
aSMALL LETTER SOUaCAPITAL LETTER ZATAaSMALL LETTER ZATAaCAPITAL LETTER HATEaSMALL LETTER HATE
aCAPITAL LETTER THETHEaSMALL LETTER THETHEaCAPITAL LETTER IAUDAaSMALL LETTER IAUDA
aCAPITAL LETTER KAPAaSMALL LETTER KAPAaCAPITAL LETTER LAULAaSMALL LETTER LAULAaCAPITAL LETTER MI
aSMALL LETTER MIaCAPITAL LETTER NIaSMALL LETTER NIaCAPITAL LETTER KSIaSMALL LETTER KSI
aCAPITAL LETTER OaSMALL LETTER OaCAPITAL LETTER PIaSMALL LETTER PIaCAPITAL LETTER RO
aSMALL LETTER ROaCAPITAL LETTER SIMAaSMALL LETTER SIMAaCAPITAL LETTER TAUaSMALL LETTER TAU
aCAPITAL LETTER UAaSMALL LETTER UAaCAPITAL LETTER FIaSMALL LETTER FIaCAPITAL LETTER KHI
aSMALL LETTER KHIaCAPITAL LETTER PSIaSMALL LETTER PSIaCAPITAL LETTER OOUaSMALL LETTER OOU
aCAPITAL LETTER DIALECT-P ALEFaSMALL LETTER DIALECT-P ALEFaCAPITAL LETTER OLD COPTIC AIN
aSMALL LETTER OLD COPTIC AINaCAPITAL LETTER CRYPTOGRAMMIC EIEaSMALL LETTER CRYPTOGRAMMIC EIE
aCAPITAL LETTER DIALECT-P KAPAaSMALL LETTER DIALECT-P KAPAaCAPITAL LETTER DIALECT-P NI
aSMALL LETTER DIALECT-P NIaCAPITAL LETTER CRYPTOGRAMMIC NIaSMALL LETTER CRYPTOGRAMMIC NI
aCAPITAL LETTER OLD COPTIC OOUaSMALL LETTER OLD COPTIC OOUaCAPITAL LETTER SAMPIaSMALL LETTER SAMPI
aCAPITAL LETTER CROSSED SHEIaSMALL LETTER CROSSED SHEIaCAPITAL LETTER OLD COPTIC SHEI
aSMALL LETTER OLD COPTIC SHEIaCAPITAL LETTER OLD COPTIC ESHaSMALL LETTER OLD COPTIC ESH
aCAPITAL LETTER AKHMIMIC KHEIaSMALL LETTER AKHMIMIC KHEIaCAPITAL LETTER DIALECT-P HORI
aSMALL LETTER DIALECT-P HORIaCAPITAL LETTER OLD COPTIC HORIaSMALL LETTER OLD COPTIC HORI
aCAPITAL LETTER OLD COPTIC HAaSMALL LETTER OLD COPTIC HAaCAPITAL LETTER L-SHAPED HA
aSMALL LETTER L-SHAPED HAaCAPITAL LETTER OLD COPTIC HEIaSMALL LETTER OLD COPTIC HEI
aCAPITAL LETTER OLD COPTIC HATaSMALL LETTER OLD COPTIC HATaCAPITAL LETTER OLD COPTIC GANGIA
aSMALL LETTER OLD COPTIC GANGIAaCAPITAL LETTER OLD COPTIC DJAaSMALL LETTER OLD COPTIC DJA
aCAPITAL LETTER OLD COPTIC SHIMAaSMALL LETTER OLD COPTIC SHIMAaCAPITAL LETTER OLD NUBIAN SHIMA
aSMALL LETTER OLD NUBIAN SHIMAaCAPITAL LETTER OLD NUBIAN NGIaSMALL LETTER OLD NUBIAN NGI
aCAPITAL LETTER OLD NUBIAN NYIaSMALL LETTER OLD NUBIAN NYIaCAPITAL LETTER OLD NUBIAN WAU
aSMALL LETTER OLD NUBIAN WAUaSYMBOL KAIbMI RObPI RObSTAUROSbTAU RObKHI RObSHIMA SIMA
aCAPITAL LETTER CRYPTOGRAMMIC SHEIaSMALL LETTER CRYPTOGRAMMIC SHEI
aCAPITAL LETTER CRYPTOGRAMMIC GANGIAaSMALL LETTER CRYPTOGRAMMIC GANGIAaCOMBINING NI ABOVE
bSPIRITUS ASPERcLENISaCAPITAL LETTER BOHAIRIC KHEIaSMALL LETTER BOHAIRIC KHEI
:2CF9aOLD NUBIAN FULL STOPcDIRECT QUESTION MARKcINDIRECT QUESTION MARKcVERSE DIVIDER
aFRACTION ONE HALFaFULL STOPaMORPHOLOGICAL DIVIDER:102E0aEPACT THOUSANDS MARKbDIGIT ONEcTWOcTHREE
cFOURcFIVEcSIXcSEVENcEIGHTcNINEbNUMBER TENcTWENTYcTHIRTYcFORTYcFIFTYcSIXTYcSEVENTYcEIGHTYcNINETY
cONE HUNDREDcTWO HUNDREDcTHREE HUNDREDcFOUR HUNDREDcFIVE HUNDREDcSIX HUNDREDcSEVEN HUNDRED
cEIGHT HUNDREDcNINE HUNDRED=dYLEFT:1F12FaSYMBOL=eRIGHT:A9aSIGN=cRAL:1FAB8a
=dNISH:2E4FaVERSE DIVIDER=dRESPONDS:2258aTO=cUCH:1F6CBaAND LAMP=dNTERBORE:2334a=hSINK:2335a
=fING:1D360aROD UNIT DIGIT ONEdTWOdTHREEdFOURdFIVEdSIXdSEVENdEIGHTdNINEbTENS DIGIT ONEdTWOdTHREE
dFOURdFIVEdSIXdSEVENdEIGHTdNINE=dPLE:1F491aWITH HEART=cW:1F404a:1F42EaFACE=bR:Da=cAB:1F980a
=cEDIT:1F4B3aCARD=dSCENT:1F319aMOON=cICKET:1F3CFaBAT AND BALL:1F997a=cOCODILE:1F40Aa
=dISSANT:1F950a=dSS:2628aOF LORRAINEbJERUSALEM:274CaMARK:2E50aPATTY WITH RIGHT CROSSBAR
cLEFT CROSSBAR:1F541aPOMMEE WITH HALF-CIRCLE BELOWb=fED:2694aSWORDS
:1F18AaNEGATIVE SQUARED LATIN CAPITAL LETTER P:1F38CaFLAGS=fING:26CCaLANES=dWN:1F451a=cUTCH:1FA7Ca
=dZEIRO:20A2aSIGN=cYING:1F622aFACE:1F63FaCAT FACE=dSTAL:1F52EaBALL=bSI:9Ba=bUBE:221BaROOT
=cCUMBER:1F952a=cNEIFORM:12000aSIGN AcTIMES AdBADdGAN2 TENUdHAdIGIdLAGAR GUNUdMUSHdSAGbA2bAB
cTIMES ASH2dDUN3 GUNUdGALdGAN2 TENUdHAdIGI GUNUdIMINdLAGABdSHESHdU PLUS U PLUS UcGUNUbAB2
cTIMES BALAGdGAN2 TENUdME PLUS ENdSHA3dTAK4bADbAKcTIMES ERIN2dSHITA PLUS GISHbALcTIMES ALdDIM2
dGISHdHAdKAD3dKIdSHEdUSHbALANbALEPHbAMARcTIMES SHEbANcOVER ANcTHREE TIMES
cPLUS NAGA OPPOSING AN PLUS NAGAeSQUAREDbANSHEbAPINbARADcTIMES KURbARKABbASAL2bASHcZIDA TENU
cKABA TENUcOVER ASH TUG2 OVER TUG2 TUG2 OVER TUG2 PAPeOVER ASHgCROSSING ASH OVER ASH OVER ASHbASH2
bASHGABbBAbBADbBAG3bBAHAR2bBALcOVER BALbBALAGbBARbBARA2bBIcTIMES AdGARdIGI GUNUbBUcOVER BU ABeUN
cCROSSING BUbBULUGcOVER BULUGbBURbBUR2bDAbDAGcKISIM5 TIMES A PLUS MASHeAMAReBALAGeBIeGAfPLUS MASH
eGIeGIR2eGUDeHAeIRfPLUS LUeKAKeLAeLUfPLUS MASH2eLUMeNEePAP PLUS PAPeSIeTAK4eU2 PLUS GIR2eUSHbDAM
bDARbDARA3bDARA4bDIbDIBbDIMcTIMES SHEbDIM2bDINcKASKAL U GUNU DISHbDISHbDUcOVER DUcGUNUcSHESHIGbDUB
cTIMES ESH2bDUB2bDUGbDUGUDbDUHbDUNbDUN3cGUNUdGUNUbDUN4bDUR2bEcTIMES PAPcOVER E NUN OVER NUNbE2
cTIMES A PLUS HA PLUS DAdGARdMIdSALdSHEdUbEDINbEGIRbELbENcTIMES GAN2eTENUdMEcCROSSING EN
cOPPOSING ENcSQUAREDbERENbERIN2bESH2bEZENcTIMES AePLUS LALgTIMES LALdANdBADdDUN3 GUNUfGUNUdHAeGUNU
dIGI GUNUdKASKALeSQUAREDdKU3dLAdLAL TIMES LALdLIdLUdU2dUDbGAcGUNUbGA2cTIMES A PLUS DA PLUS HAfHA
fIGIdAB2 TENU PLUS TABdANdASHdASH2 PLUS GALdBADdBAR PLUS RAdBURePLUS RAdDAdDIdDIM TIMES SHEdDUBdEL
ePLUS LAdENeTIMES GAN2 TENUdGAN2 TENUdGARdGIdGI4ePLUS AdGIR2 PLUS SUdHA PLUS LU PLUS ESH2dHAL
ePLUS LAdHI PLUS LIdHUB2dIGI GUNUdISH PLUS HU PLUS ASHdKAKdKASKALdKIDePLUS LALdKU3 PLUS ANdLA
dME PLUS ENdMIdNUNeOVER NUNdPAdSALdSARdSHEePLUS TURdSHIDdSUMdTAK4dUdUDePLUS DUcOVER GA2bGABA
cCROSSING GABAbGADcOVER GAD GAR OVER GARbGALcGAD OVER GAD GAR OVER GARbGALAMbGAMbGANbGAN2cTENU
cOVER GAN2cCROSSING GAN2bGARbGAR3bGASHANbGESHTINcTIMES KURbGIcTIMES EdUcCROSSING GIbGI4cOVER GI4
cCROSSING GI4bGIDIMbGIR2cGUNUbGIR3cTIMES A PLUS IGIdGAN2 TENUdIGIdLU PLUS IGIdPAbGISALbGISH
cCROSSING GISHcTIMES BADdTAK4cTENUbGUcCROSSING GUbGU2cTIMES KAKeTIMES IGI GUNUdNUNdSAL PLUS TUG2
cGUNUbGUDcTIMES A PLUS KURdKURcOVER GUD LUGALbGULbGUMcTIMES SHEbGURbGUR7bGURUNbGURUSHbHAcTENUcGUNU
bHALbHIcTIMES ASHdASH2dBADdDISHdGADdKINdNUNdSHEdUbHUbHUB2cTIMES ANdHALdKASKALdLISHdUDbHUL2bIcAbIB
bIDIMcOVER IDIM BUReSQUAREDbIGbIGIcDIBcRIcOVER IGI SHIR OVER SHIR UD OVER UDcGUNUbIL
cTIMES GAN2 TENUbIL2bIMcTIMES TAK4cCROSSING IMcOPPOSING IMcSQUAREDbIMINbINbIRbISHbKAcTIMES AdAD
ePLUS KU3dASH2dBADdBALAGdBARdBIdERIN2dESH2dGAdGALdGAN2 TENUdGARePLUS SHA3 PLUS AdGIdGIR2
dGISH PLUS SAReCROSSING GISHdGUdGUR7dIGIdIMdKAKdKIdKIDdLIdLUdMEePLUS DUfGIfTEdMIePLUS NUNUZdNEdNUN
dPIdRUdSAdSARdSHAdSHEdSHIDdSHUdSIGdSUHURdTARdUdU2dUDdUMUM TIMES PAdUSHdZIbKA2cCROSSING KA2bKAB
bKAD2bKAD3bKAD4bKAD5cOVER KAD5bKAKcTIMES IGI GUNUbKALcTIMES BADcCROSSING KALbKAM2bKAM4bKASKAL
cLAGAB TIMES U OVER LAGAB TIMES UcOVER KASKAL LAGAB TIMES U OVER LAGAB TIMES UbKESH2bKIcTIMES BAD
dUdUDbKIDbKINbKISALbKISHbKISIM5cOVER KISIM5bKUcOVER HI TIMES ASH2 KU OVER HI TIMES ASH2bKU3bKU4
cVARIANT FORMbKU7bKULcGUNUbKUNbKURcOPPOSING KURbKUSHU2bKWU318bLAbLAGABcTIMES AePLUS DA PLUS HAfGAR
fLALdALdANdASH ZIDA TENUdBADdBIdDARdENdGAdGARdGUDePLUS GUDdHAdHALdHI TIMES NUNdIGI GUNUdIMePLUS HA
fLUdKIdKINdKU3dKULePLUS HI PLUS AdLAGABdLISHdLUdLULdMEePLUS ENdMUSHdNEdSHE PLUS SUM
dSHITA PLUS GISH PLUS ERIN2gTENUdSHU2ePLUS SHU2dSUMdTAGdTAK4dTE PLUS A PLUS SU PLUS NAdUePLUS A
fU PLUS UdU2 PLUS ASHdUDdUSHcSQUAREDbLAGARcTIMES SHEePLUS SUMcGUNUdOVER LAGAR GUNU SHEbLAHSHUbLAL
cTIMES LALbLAMcTIMES KURePLUS RUbLIbLILbLIMMU2bLISHbLUcTIMES BADbLU2cTIMES ALdBADdESH2eTENU
dGAN2 TENUdHI TIMES BADdIMdKAD2dKAD3ePLUS ASHdKIdLA PLUS ASHdLAGABdME PLUS ENdNEdNUdSI PLUS ASH
dSIK2 PLUS BUdTUG2cTENUcCROSSING LU2cOPPOSING LU2cSQUAREDcSHESHIGbLU3bLUGALcOVER LUGAL
cOPPOSING LUGALcSHESHIGbLUHbLULbLUMcOVER LUMeGAR OVER GARbMAcTIMES TAK4cGUNUbMA2bMAHbMARbMASH
bMASH2bMEbMESbMIbMINbMUcOVER MUbMUGcGUNUbMUNSUBbMURGU2bMUSHcTIMES AdKURdZAcOVER MUSH
eTIMES A PLUS NAcCROSSING MUSHbMUSH3cTIMES AePLUS DIdDIcGUNUbNAbNA2bNAGAcINVERTEDcTIMES SHU TENU
cOPPOSING NAGAbNAGARbNAM NUTILLUcbNAM2bNEcTIMES AdUDcSHESHIGbNIcTIMES EbNI2bNIMcTIMES GAN2 TENU
dGAR PLUS GAN2 TENUbNINDA2cTIMES ANdASHePLUS ASHdGUDdME PLUS GAN2 TENUdNEdNUNdSHEePLUS A ANfASH
gPLUS ASHdU2 PLUS ASHdUSHbNISAGbNUbNU11bNUNcLAGAR TIMES GAReMASHeSALfOVER NUN LAGAR TIMES SALeUSH
cTENUcOVER NUNcCROSSING NUNeLAGAR OVER LAGARbNUNUZcAB2 TIMES ASHGABeBIeDUGeGUDeIGI GUNUeKAD3eLAeNE
eSILA3eU2cKISIM5 TIMES BIfUbPAbPADbPANbPAPbPESH2bPIcTIMES AdABdBIdBUdEdIdIBdUdU2cCROSSING PIbPIRIG
cTIMES KALdUDdZAcOPPOSING PIRIGbRAbRABbRIbRUbSAbSAG NUTILLUccTIMES AdDUdDUBdHAdKAKdKURdLUMdMIdNUN
dSALdSHIDdTABdU2dUBdUMdURdUSHcOVER SAGcGUNUbSALcLAGAB TIMES ASH2bSANGA2bSARbSHAbSHA3cTIMES AdBAD
dGISHdNEdSHU2dTURdUePLUS AbSHA6bSHAB6bSHAR2bSHEcHUcOVER SHE GAD OVER GAD GAR OVER GAR
eTAB OVER TAB GAR OVER GARbSHEG9bSHENbSHESHbSHESH2bSHESHLAMbSHIDcTIMES AdIMbSHIMcTIMES AdBALdBULUG
dDINdGARdIGIeGUNUdKUSHU2dLULdMUGdSALbSHINIGbSHIRbNU11 TENU:122D4bSHIR TENU
bNU11 OVER NU11 BUR OVER BUR:122D5bSHIR OVER SHIR BUR OVER BURbSHITAbSHUcOVER INVERTED SHUbSHU2
bSHUBURbSIcGUNUbSIGbSIG4cOVER SIG4 SHU2bSIK2bSILA3bSUcOVER SUbSUDbSUD2bSUHURbSUMbSUMASHbSURbSUR9
bTAcASTERISKcTIMES HIdMIcGUNUbTABcOVER TAB NI OVER NI DISH OVER DISHcSQUAREDbTAGcTIMES BIdGUDdSHE
dSHUdTUG2dUDbTAK4bTARbTEcGUNUbTIcTENUbTILbTIRcTIMES TAK4cOVER TIReGAD OVER GAD GAR OVER GARbTU
bTUG2bTUKbTUMbTURcOVER TUR ZA OVER ZAbUcGUDcU UcOVER U PA OVER PA GAR OVER GAReSUR OVER SUR
eU REVERSED OVER U REVERSEDbU2bUBbUDcKUSHU2cTIMES BADdMIdU PLUS U PLUS UiGUNUcGUNUcSHESHIG
dTIMES BADbUDUGbUMcTIMES LAGABdME PLUS DAdSHA3dUbUMBINbUMUMcTIMES KASKALdPAbUNcGUNUbURcCROSSING UR
cSHESHIGbUR2cTIMES A PLUS HAfNAdALdHAdNUNdU2ePLUS ASHfBIbUR4bURIbURI3bURUcTIMES AdASHGABdBARdDUN
dGAdGALdGAN2 TENUdGARdGUdHAdIGIdIMdISHdKIdLUMdMINdPAdSHEdSIG4dTUdU PLUS GUDdUDdURUDAbURUDAcTIMES U
bUSHcTIMES AdKUdKURdTAK4bUSHXbUSH2bUSHUMXbUTUKIbUZ3cTIMES KASKALbUZUbZAcTENUcSQUARED TIMES KURbZAG
bZAMXbZE2bZIcOVER ZIbZI3bZIBcKABA TENUbZIGbZIZ2bZUbZU5cTIMES AbZUBURbZUMbKAP ELAMITEbAB TIMES NUN
bAB2 TIMES AbAMAR TIMES KUGbDAG KISIM5 TIMES U2 PLUS MASHbDAG3bDISH PLUS SHUbDUB TIMES SHE
bEZEN TIMES GUDdSHEbGA2 TIMES AN PLUS KAK PLUS AdASH2bGE22bGIGbHUSHbKA TIMES ANSHEdASH3dGISHdGUD
dHI TIMES ASH2dLUMdPAdSHULdTUdUR2bLAGAB TIMES GIbLU2 SHESHIG TIMES BADcTIMES ESH2 PLUS LALdSHU
bMESHbMUSH3 TIMES ZAbNA4bNINbNIN9bNINDA2 TIMES BALdGIbNU11 ROTATED NINETY DEGREESbPESH2 ASTERISK
bPIR2bSAG TIMES IGI GUNUbTI2bUM TIMES MEbU U:12400aNUMERIC SIGN TWO ASHcTHREE ASHcFOUR ASH
cFIVE ASHcSIX ASHcSEVEN ASHcEIGHT ASHcNINE ASHcTHREE DISHcFOUR DISHcFIVE DISHcSIX DISHcSEVEN DISH
cEIGHT DISHcNINE DISHcFOUR UcFIVE UcSIX UcSEVEN UcEIGHT UcNINE UcONE GESH2cTWO GESH2cTHREE GESH2
cFOUR GESH2cFIVE GESH2cSIX GESH2cSEVEN GESH2cEIGHT GESH2cNINE GESH2cONE GESHUcTWO GESHU
cTHREE GESHUcFOUR GESHUcFIVE GESHUcTWO SHAR2cTHREE SHAR2eVARIANT FORMcFOUR SHAR2cFIVE SHAR2
cSIX SHAR2cSEVEN SHAR2cEIGHT SHAR2cNINE SHAR2cONE SHARUcTWO SHARUcTHREE SHARUeVARIANT FORM
cFOUR SHARUcFIVE SHARUcSHAR2 TIMES GAL PLUS DISHgMINcONE BURUcTWO BURUcTHREE BURUeVARIANT FORM
cFOUR BURUcFIVE BURUcTHREE VARIANT FORM ESH16fESH21cFOUR VARIANT FORM LIMMUfLIMMU4fLIMMU AgB
cSIX VARIANT FORM ASH9cSEVEN VARIANT FORM IMIN3fIMIN AgBcEIGHT VARIANT FORM USSUfUSSU3
cNINE VARIANT FORM ILIMMUfILIMMU3fILIMMU4fILIMMU AcTWO ASH TENUcTHREE ASH TENUcFOUR ASH TENU
cFIVE ASH TENUcSIX ASH TENUcONE BAN2cTWO BAN2cTHREE BAN2cFOUR BAN2eVARIANT FORMcFIVE BAN2
eVARIANT FORMcNIGIDAMINcNIGIDAESHcONE ESHE3cTWO ESHE3cONE THIRD DISHcTWO THIRDS DISH
cFIVE SIXTHS DISHcONE THIRD VARIANT FORM AcTWO THIRDS VARIANT FORM AcONE EIGHTH ASHdQUARTER ASH
cOLD ASSYRIAN ONE SIXTHfQUARTERcONE QUARTER GURdHALF GURcELAMITE ONE THIRDdTWO THIRDSdFORTYdFIFTY
cFOUR U VARIANT FORMcFIVE U VARIANT FORMcSIX U VARIANT FORMcSEVEN U VARIANT FORM
cEIGHT U VARIANT FORMcNINE U VARIANT FORM:12470aPUNCTUATION SIGN OLD ASSYRIAN WORD DIVIDER
cVERTICAL COLONcDIAGONAL COLONdTRICOLONdQUADCOLON:12480aSIGN AB TIMES NUN TENUdSHU2bAD TIMES ESH2
bBAD TIMES DISH TENUbBAHAR2 TIMES AB2dNIdZAbBU OVER BU TIMES NA2bDA TIMES TAK4bDAG TIMES KUR
bDIM TIMES IGIdU U UbDIM2 TIMES UDbDUG TIMES ANSHEdASHeAT LEFTdDINdDUNdERIN2dGAdGIdGIR2 GUNUdGISH
dHAdHIdIGI GUNUdKASKALdKURdKUSHU2ePLUS KASKALdLAK-020dLAMeTIMES KURdLUH PLUS GISHdMASHdMESdMIdNI
dPIdSHEdSI GUNUbE2 TIMES KURdPAPbERIN2 XbESH2 CROSSING ESH2bEZEN SHESHIG TIMES ASHeHIeIGI GUNUeLA
eLALeMEeMESeSUcTIMES SUbGA2 TIMES BAHAR2dDIM GUNUdDUG TIMES IGI GUNUfKASKALdERENdGAdGAR PLUS DIfNE
dHA PLUS AdKUSHU2 PLUS KASKALdLAMeTIMES KURdLUHdMUSHdNEePLUS E2fGIdSHIMdZIZ2
bGABA ROTATED NINETY DEGREESbGESHTIN TIMES UbGISH TIMES GISH CROSSING GISHbGU2 TIMES IGI GUNU
bGUD PLUS GISH TIMES TAK4bHA TENU GUNUbHI TIMES ASH OVER HI TIMES ASHbKA TIMES BUdKAdU U UdUR
bLAGAB TIMES ZU OVER ZUbLAK-003bLAK-021bLAK-025bLAK-030bLAK-050bLAK-051bLAK-062
bLAK-079 OVER LAK-079 GUNUbLAK-080bLAK-081 OVER LAK-081bLAK-092bLAK-130bLAK-142bLAK-210bLAK-219
bLAK-220bLAK-225bLAK-228bLAK-238bLAK-265bLAK-266bLAK-343bLAK-347bLAK-348bLAK-383bLAK-384bLAK-390
bLAK-441bLAK-449cTIMES GUdIGIdPAP PLUS LU3fPAP PLUS LU3dU2 PLUS BAbLAK-450bLAK-457bLAK-470bLAK-483
bLAK-490bLAK-492bLAK-493bLAK-495bLAK-550bLAK-608bLAK-617cTIMES ASHdBADdDUN3 GUNU GUNUdKU3dLAdTAR
dTEdU2dUDdURUDAbLAK-636bLAK-648cTIMES DUBdGAdIGIeGUNUdNIdPAP PLUS PAP PLUS LU3dSHESH PLUS KIdUD
dURUDAbLAK-724bLAK-749bLU2 GUNU TIMES ASHcTIMES DISHdHALdPAPePLUS PAP PLUS LU3dTAK4bMI PLUS ZA7
bMUSH OVER MUSH TIMES GAfKAKbNINDA2 TIMES DIM GUNUdGISHdGULdHIdKESH2dLAK-050dMASHdPAP PLUS PAPdU
ePLUS UdURUDAbSAG GUNU TIMES HAcTIMES ENdSHE AT LEFTdTAK4bSHA6 TENUbSHE OVER SHEcPLUS HUB2dNAM2
dSARbSHU2 PLUS DUG TIMES NIdE2 TIMES ANbSI TIMES TAK4bTAK4 PLUS SAGbTUM TIMES GAN2 TENUdTHREE DISH
bUR2 INVERTEDcTIMES UDbURU TIMES DARA3dLAK-668dLU3bZA7bZU OVER ZU PLUS SAR
bZU5 TIMES THREE DISH TENU=cP:26FEaON BLACK SQUARE:1F964aWITH STRAW=dCAKE:1F9C1a=dIDO:2BE0a
=cRLING:1F94CaSTONE=eY:22CEaLOGICAL ORbAND:23AAaBRACKET EXTENSION:27B0aLOOP=dRENCY:A4aSIGN
:1F4B1aEXCHANGE=eY:1F35BaAND RICE=dVED:2761aSTEM PARAGRAPH SIGN ORNAMENT=cSTARD:1F36Ea=eOMS:1F6C3a
=cT:1F969aOF MEAT=bYCLONE:1F300a=cLINDRICITY:232Da=cPRIOT:10800aSYLLABLE AbEbIbObUbJA:10808bJO
:1080AbKAbKEbKIbKObKUbLAbLEbLIbLObLUbMAbMEbMIbMObMUbNAbNEbNIbNObNUbPAbPEbPIbPObPUbRAbREbRIbRObRU
bSAbSEbSIbSObSUbTAbTEbTIbTObTUbWAbWEbWIbWO:10837bXAbXE:1083CbZA:1083FbZO
=eO-MINOAN:12F90aSIGN CM001bCM002bCM004bCM005bCM006bCM007bCM008bCM009bCM010bCM011bCM012bCM012B
bCM013bCM015bCM017bCM019bCM021bCM023bCM024bCM025bCM026bCM027bCM028bCM029bCM030bCM033bCM034bCM035
bCM036bCM037bCM038bCM039bCM040bCM041bCM044bCM046bCM047bCM049bCM050bCM051bCM052bCM053bCM054bCM055
bCM056bCM058bCM059bCM060bCM061bCM062bCM063bCM064bCM066bCM067bCM068bCM069bCM070bCM071bCM072bCM073
bCM074bCM075bCM075BbCM076bCM078bCM079bCM080bCM081bCM082bCM083bCM084bCM085bCM086bCM087bCM088bCM089
bCM090bCM091bCM092bCM094bCM095bCM096bCM097bCM098bCM099bCM100bCM101bCM102bCM103bCM104bCM105bCM107
bCM108bCM109bCM110bCM112bCM114bCM301bCM302=cRILLIC:400aCAPITAL LETTER IE WITH GRAVEcIOcDJEcGJE
cUKRAINIAN IEcDZEcBYELORUSSIAN-UKRAINIAN IcYIcJEcLJEcNJEcTSHEcKJEcI WITH GRAVEcSHORT UcDZHEcAcBE
cVEcGHEcDEcIEcZHEcZEcIcSHORT IcKAcELcEMcENcOcPEcERcEScTEcUcEFcHAcTSEcCHEcSHAcSHCHAcHARD SIGNcYERU
cSOFT SIGNcEcYUcYAaSMALL LETTER AcBEcVEcGHEcDEcIEcZHEcZEcIcSHORT IcKAcELcEMcENcOcPEcERcEScTEcUcEF
cHAcTSEcCHEcSHAcSHCHAcHARD SIGNcYERUcSOFT SIGNcEcYUcYAcIE WITH GRAVEcIOcDJEcGJEcUKRAINIAN IEcDZE
cBYELORUSSIAN-UKRAINIAN IcYIcJEcLJEcNJEcTSHEcKJEcI WITH GRAVEcSHORT UcDZHEaCAPITAL LETTER OMEGA
aSMALL LETTER OMEGAaCAPITAL LETTER YATaSMALL LETTER YATaCAPITAL LETTER IOTIFIED E
aSMALL LETTER IOTIFIED EaCAPITAL LETTER LITTLE YUSaSMALL LETTER LITTLE YUS
aCAPITAL LETTER IOTIFIED LITTLE YUSaSMALL LETTER IOTIFIED LITTLE YUSaCAPITAL LETTER BIG YUS
aSMALL LETTER BIG YUSaCAPITAL LETTER IOTIFIED BIG YUSaSMALL LETTER IOTIFIED BIG YUS
aCAPITAL LETTER KSIaSMALL LETTER KSIaCAPITAL LETTER PSIaSMALL LETTER PSIaCAPITAL LETTER FITA
aSMALL LETTER FITAaCAPITAL LETTER IZHITSAaSMALL LETTER IZHITSA
aCAPITAL LETTER IZHITSA WITH DOUBLE GRAVE ACCENTaSMALL LETTER IZHITSA WITH DOUBLE GRAVE ACCENT
aCAPITAL LETTER UKaSMALL LETTER UKaCAPITAL LETTER ROUND OMEGAaSMALL LETTER ROUND OMEGA
aCAPITAL LETTER OMEGA WITH TITLOaSMALL LETTER OMEGA WITH TITLOaCAPITAL LETTER OTaSMALL LETTER OT
aCAPITAL LETTER KOPPAaSMALL LETTER KOPPAaTHOUSANDS SIGN:48AaCAPITAL LETTER SHORT I WITH TAIL
aSMALL LETTER SHORT I WITH TAILaCAPITAL LETTER SEMISOFT SIGNaSMALL LETTER SEMISOFT SIGN
aCAPITAL LETTER ER WITH TICKaSMALL LETTER ER WITH TICKaCAPITAL LETTER GHE WITH UPTURN
aSMALL LETTER GHE WITH UPTURNaCAPITAL LETTER GHE WITH STROKEaSMALL LETTER GHE WITH STROKE
aCAPITAL LETTER GHE WITH MIDDLE HOOKaSMALL LETTER GHE WITH MIDDLE HOOK
aCAPITAL LETTER ZHE WITH DESCENDERaSMALL LETTER ZHE WITH DESCENDER
aCAPITAL LETTER ZE WITH DESCENDERaSMALL LETTER ZE WITH DESCENDERaCAPITAL LETTER KA WITH DESCENDER
aSMALL LETTER KA WITH DESCENDERaCAPITAL LETTER KA WITH VERTICAL STROKE
aSMALL LETTER KA WITH VERTICAL STROKEaCAPITAL LETTER KA WITH STROKEaSMALL LETTER KA WITH STROKE
aCAPITAL LETTER BASHKIR KAaSMALL LETTER BASHKIR KAaCAPITAL LETTER EN WITH DESCENDER
aSMALL LETTER EN WITH DESCENDERaCAPITAL LIGATURE EN GHEaSMALL LIGATURE EN GHE
aCAPITAL LETTER PE WITH MIDDLE HOOKaSMALL LETTER PE WITH MIDDLE HOOKaCAPITAL LETTER ABKHASIAN HA
aSMALL LETTER ABKHASIAN HAaCAPITAL LETTER ES WITH DESCENDERaSMALL LETTER ES WITH DESCENDER
aCAPITAL LETTER TE WITH DESCENDERaSMALL LETTER TE WITH DESCENDERaCAPITAL LETTER STRAIGHT U
aSMALL LETTER STRAIGHT UaCAPITAL LETTER STRAIGHT U WITH STROKEaSMALL LETTER STRAIGHT U WITH STROKE
aCAPITAL LETTER HA WITH DESCENDERaSMALL LETTER HA WITH DESCENDERaCAPITAL LIGATURE TE TSE
aSMALL LIGATURE TE TSEaCAPITAL LETTER CHE WITH DESCENDERaSMALL LETTER CHE WITH DESCENDER
aCAPITAL LETTER CHE WITH VERTICAL STROKEaSMALL LETTER CHE WITH VERTICAL STROKEaCAPITAL LETTER SHHA
aSMALL LETTER SHHAaCAPITAL LETTER ABKHASIAN CHEaSMALL LETTER ABKHASIAN CHE
aCAPITAL LETTER ABKHASIAN CHE WITH DESCENDERaSMALL LETTER ABKHASIAN CHE WITH DESCENDER
aLETTER PALOCHKAaCAPITAL LETTER ZHE WITH BREVEaSMALL LETTER ZHE WITH BREVE
aCAPITAL LETTER KA WITH HOOKaSMALL LETTER KA WITH HOOKaCAPITAL LETTER EL WITH TAIL
aSMALL LETTER EL WITH TAILaCAPITAL LETTER EN WITH HOOKaSMALL LETTER EN WITH HOOK
aCAPITAL LETTER EN WITH TAILaSMALL LETTER EN WITH TAILaCAPITAL LETTER KHAKASSIAN CHE
aSMALL LETTER KHAKASSIAN CHEaCAPITAL LETTER EM WITH TAILaSMALL LETTER EM WITH TAILcPALOCHKA
aCAPITAL LETTER A WITH BREVEaSMALL LETTER A WITH BREVEaCAPITAL LETTER A WITH DIAERESIS
aSMALL LETTER A WITH DIAERESISaCAPITAL LIGATURE A IEaSMALL LIGATURE A IE
aCAPITAL LETTER IE WITH BREVEaSMALL LETTER IE WITH BREVEaCAPITAL LETTER SCHWAaSMALL LETTER SCHWA
aCAPITAL LETTER SCHWA WITH DIAERESISaSMALL LETTER SCHWA WITH DIAERESIS
aCAPITAL LETTER ZHE WITH DIAERESISaSMALL LETTER ZHE WITH DIAERESIS
aCAPITAL LETTER ZE WITH DIAERESISaSMALL LETTER ZE WITH DIAERESISaCAPITAL LETTER ABKHASIAN DZE
aSMALL LETTER ABKHASIAN DZEaCAPITAL LETTER I WITH MACRONaSMALL LETTER I WITH MACRON
aCAPITAL LETTER I WITH DIAERESISaSMALL LETTER I WITH DIAERESISaCAPITAL LETTER O WITH DIAERESIS
aSMALL LETTER O WITH DIAERESISaCAPITAL LETTER BARRED OaSMALL LETTER BARRED O
aCAPITAL LETTER BARRED O WITH DIAERESISaSMALL LETTER BARRED O WITH DIAERESIS
aCAPITAL LETTER E WITH DIAERESISaSMALL LETTER E WITH DIAERESISaCAPITAL LETTER U WITH MACRON
aSMALL LETTER U WITH MACRONaCAPITAL LETTER U WITH DIAERESISaSMALL LETTER U WITH DIAERESIS
aCAPITAL LETTER U WITH DOUBLE ACUTEaSMALL LETTER U WITH DOUBLE ACUTE
aCAPITAL LETTER CHE WITH DIAERESISaSMALL LETTER CHE WITH DIAERESIS
aCAPITAL LETTER GHE WITH DESCENDERaSMALL LETTER GHE WITH DESCENDER
aCAPITAL LETTER YERU WITH DIAERESISaSMALL LETTER YERU WITH DIAERESIS
aCAPITAL LETTER GHE WITH STROKE AND HOOKaSMALL LETTER GHE WITH STROKE AND HOOK
aCAPITAL LETTER HA WITH HOOKaSMALL LETTER HA WITH HOOKaCAPITAL LETTER HA WITH STROKE
aSMALL LETTER HA WITH STROKEaCAPITAL LETTER KOMI DEaSMALL LETTER KOMI DEaCAPITAL LETTER KOMI DJE
aSMALL LETTER KOMI DJEaCAPITAL LETTER KOMI ZJEaSMALL LETTER KOMI ZJEaCAPITAL LETTER KOMI DZJE
aSMALL LETTER KOMI DZJEaCAPITAL LETTER KOMI LJEaSMALL LETTER KOMI LJEaCAPITAL LETTER KOMI NJE
aSMALL LETTER KOMI NJEaCAPITAL LETTER KOMI SJEaSMALL LETTER KOMI SJEaCAPITAL LETTER KOMI TJE
aSMALL LETTER KOMI TJEaCAPITAL LETTER REVERSED ZEaSMALL LETTER REVERSED ZE
aCAPITAL LETTER EL WITH HOOKaSMALL LETTER EL WITH HOOKaCAPITAL LETTER LHAaSMALL LETTER LHA
aCAPITAL LETTER RHAaSMALL LETTER RHAaCAPITAL LETTER YAEaSMALL LETTER YAEaCAPITAL LETTER QA
aSMALL LETTER QAaCAPITAL LETTER WEaSMALL LETTER WEaCAPITAL LETTER ALEUT KAaSMALL LETTER ALEUT KA
aCAPITAL LETTER EL WITH MIDDLE HOOKaSMALL LETTER EL WITH MIDDLE HOOK
aCAPITAL LETTER EN WITH MIDDLE HOOKaSMALL LETTER EN WITH MIDDLE HOOK
aCAPITAL LETTER PE WITH DESCENDERaSMALL LETTER PE WITH DESCENDER
aCAPITAL LETTER SHHA WITH DESCENDERaSMALL LETTER SHHA WITH DESCENDER
aCAPITAL LETTER EN WITH LEFT HOOKaSMALL LETTER EN WITH LEFT HOOKaCAPITAL LETTER DZZHE
aSMALL LETTER DZZHEaCAPITAL LETTER DCHEaSMALL LETTER DCHEaCAPITAL LETTER EL WITH DESCENDER
aSMALL LETTER EL WITH DESCENDER:1C80cROUNDED VEcLONG-LEGGED DEcNARROW OcWIDE EScTALL TE
cTHREE-LEGGED TEcTALL HARD SIGNdYATcUNBLENDED UK:1D2BaLETTER SMALL CAPITAL EL
:A640aCAPITAL LETTER ZEMLYAaSMALL LETTER ZEMLYAaCAPITAL LETTER DZELOaSMALL LETTER DZELO
aCAPITAL LETTER REVERSED DZEaSMALL LETTER REVERSED DZEaCAPITAL LETTER IOTAaSMALL LETTER IOTA
aCAPITAL LETTER DJERVaSMALL LETTER DJERVaCAPITAL LETTER MONOGRAPH UKaSMALL LETTER MONOGRAPH UK
aCAPITAL LETTER BROAD OMEGAaSMALL LETTER BROAD OMEGAaCAPITAL LETTER NEUTRAL YER
aSMALL LETTER NEUTRAL YERaCAPITAL LETTER YERU WITH BACK YERaSMALL LETTER YERU WITH BACK YER
aCAPITAL LETTER IOTIFIED YATaSMALL LETTER IOTIFIED YATaCAPITAL LETTER REVERSED YU
aSMALL LETTER REVERSED YUaCAPITAL LETTER IOTIFIED AaSMALL LETTER IOTIFIED A
aCAPITAL LETTER CLOSED LITTLE YUSaSMALL LETTER CLOSED LITTLE YUSaCAPITAL LETTER BLENDED YUS
aSMALL LETTER BLENDED YUSaCAPITAL LETTER IOTIFIED CLOSED LITTLE YUS
aSMALL LETTER IOTIFIED CLOSED LITTLE YUSaCAPITAL LETTER YNaSMALL LETTER YN
aCAPITAL LETTER REVERSED TSEaSMALL LETTER REVERSED TSEaCAPITAL LETTER SOFT DEaSMALL LETTER SOFT DE
aCAPITAL LETTER SOFT ELaSMALL LETTER SOFT ELaCAPITAL LETTER SOFT EMaSMALL LETTER SOFT EM
aCAPITAL LETTER MONOCULAR OaSMALL LETTER MONOCULAR OaCAPITAL LETTER BINOCULAR O
aSMALL LETTER BINOCULAR OaCAPITAL LETTER DOUBLE MONOCULAR OaSMALL LETTER DOUBLE MONOCULAR O
aLETTER MULTIOCULAR O:A67EaKAVYKAaPAYEROKaCAPITAL LETTER DWEaSMALL LETTER DWEaCAPITAL LETTER DZWE
aSMALL LETTER DZWEaCAPITAL LETTER ZHWEaSMALL LETTER ZHWEaCAPITAL LETTER CCHEaSMALL LETTER CCHE
aCAPITAL LETTER DZZEaSMALL LETTER DZZEaCAPITAL LETTER TE WITH MIDDLE HOOK
aSMALL LETTER TE WITH MIDDLE HOOKaCAPITAL LETTER TWEaSMALL LETTER TWEaCAPITAL LETTER TSWE
aSMALL LETTER TSWEaCAPITAL LETTER TSSEaSMALL LETTER TSSEaCAPITAL LETTER TCHEaSMALL LETTER TCHE
aCAPITAL LETTER HWEaSMALL LETTER HWEaCAPITAL LETTER SHWEaSMALL LETTER SHWEaCAPITAL LETTER DOUBLE O
aSMALL LETTER DOUBLE OaCAPITAL LETTER CROSSED OaSMALL LETTER CROSSED O"

end SignatureLint.CharName
