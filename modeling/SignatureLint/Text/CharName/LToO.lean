/-!
# Names of characters, L to O

The names whose first word begins with one of the letters from `L` to `O`, in the layout that the
reader of names describes.
-/

namespace SignatureLint.CharName

/-- The paragraphs of the first words from `L` to `O`. -/
def textLToO : String := "
=aL:2114aB BAR SYMBOL=bAB:1F97CaCOAT=dEL:1F3F7a=cCROSSE:1F94DaSTICK AND BALL=cDDER:1FA9Ca
=dY:1F41EaBEETLE=cNGUAGE:E0001aTAG=cO:E81aLETTER KObKHO SUNG:E84cTAM:E86bPALI GHAbNGObCObPALI CHA
bSO TAM:E8CbPALI JHAbNYObPALI NYAcTTAcTTHAcDDAcDDHAcNNAbDObTObTHO SUNGcTAMbPALI DHAbNObBObPO
bPHO SUNGbFO FON:E9DcTAMbPHO TAMbFO FAY:E9FcSUNGbPALI BHAbMObYObLO LING:EA3bRO:EA5bLO:EA5cLOOT
:EA7bWObSANSKRIT SHAcSSAbSO SUNGbHO SUNGbPALI LLAbObHO TAMaELLIPSISaVOWEL SIGN AcMAI KANcAAcAMcI
cIIcYcYYcUcUUaSIGN PALI VIRAMAaVOWEL SIGN MAI KONaSEMIVOWEL SIGN LOcNYO:EC0aVOWEL SIGN EcEIcOcAY
cAI:EC6aKO LA:EC8aTONE MAI EKcTHOcTIcCATAWAaCANCELLATION MARKaNIGGAHITA:ED0aDIGIT ZERObONEbTWO
bTHREEbFOURbFIVEbSIXbSEVENbEIGHTbNINE:EDCaHO NObMOaLETTER KHMU GOcNYO=cRGE:25EFaCIRCLE
:27D8aUP TACKaDOWN TACK:2A1EaLEFT TRIANGLE OPERATOR:2AFCaTRIPLE VERTICAL BAR OPERATOR
:10B3CaTWO DOTS OVER ONE DOT PUNCTUATIONaONE DOT OVER TWO DOTS PUNCTUATION
aTWO RINGS OVER ONE RING PUNCTUATIONaONE RING OVER TWO RINGS PUNCTUATION:1F534aRED CIRCLE
aBLUE CIRCLEaORANGE DIAMONDaBLUE DIAMOND:1F7E0aORANGE CIRCLEaYELLOW CIRCLEaGREEN CIRCLE
aPURPLE CIRCLEaBROWN CIRCLEaRED SQUAREaBLUE SQUAREaORANGE SQUAREaYELLOW SQUAREaGREEN SQUARE
aPURPLE SQUAREaBROWN SQUARE=fR:2AABaTHAN:2AADbOR EQUAL TO=dI:20BEaSIGN=cST:263EaQUARTER MOON
:1F317cSYMBOL:1F31CcWITH FACE=cTIN:41aCAPITAL LETTER AcBcCcDcEcFcGcHcIcJcKcLcMcNcOcPcQcRcScTcUcVcW
cXcYcZ:61aSMALL LETTER AcBcCcDcEcFcGcHcIcJcKcLcMcNcOcPcQcRcScTcUcVcWcXcYcZ
:C0aCAPITAL LETTER A WITH GRAVEeACUTEeCIRCUMFLEXeTILDEeDIAERESISeRING ABOVEcAEcC WITH CEDILLA
cE WITH GRAVEeACUTEeCIRCUMFLEXeDIAERESIScI WITH GRAVEeACUTEeCIRCUMFLEXeDIAERESIScETHcN WITH TILDE
cO WITH GRAVEeACUTEeCIRCUMFLEXeTILDEeDIAERESIS:D8eSTROKEcU WITH GRAVEeACUTEeCIRCUMFLEXeDIAERESIS
cY WITH ACUTEcTHORNaSMALL LETTER SHARP ScA WITH GRAVEeACUTEeCIRCUMFLEXeTILDEeDIAERESISeRING ABOVE
cAEcC WITH CEDILLAcE WITH GRAVEeACUTEeCIRCUMFLEXeDIAERESIScI WITH GRAVEeACUTEeCIRCUMFLEXeDIAERESIS
cETHcN WITH TILDEcO WITH GRAVEeACUTEeCIRCUMFLEXeTILDEeDIAERESIS:F8eSTROKEcU WITH GRAVEeACUTE
eCIRCUMFLEXeDIAERESIScY WITH ACUTEcTHORNcY WITH DIAERESISaCAPITAL LETTER A WITH MACRON
aSMALL LETTER A WITH MACRONaCAPITAL LETTER A WITH BREVEaSMALL LETTER A WITH BREVE
aCAPITAL LETTER A WITH OGONEKaSMALL LETTER A WITH OGONEKaCAPITAL LETTER C WITH ACUTE
aSMALL LETTER C WITH ACUTEaCAPITAL LETTER C WITH CIRCUMFLEXaSMALL LETTER C WITH CIRCUMFLEX
aCAPITAL LETTER C WITH DOT ABOVEaSMALL LETTER C WITH DOT ABOVEaCAPITAL LETTER C WITH CARON
aSMALL LETTER C WITH CARONaCAPITAL LETTER D WITH CARONaSMALL LETTER D WITH CARON
aCAPITAL LETTER D WITH STROKEaSMALL LETTER D WITH STROKEaCAPITAL LETTER E WITH MACRON
aSMALL LETTER E WITH MACRONaCAPITAL LETTER E WITH BREVEaSMALL LETTER E WITH BREVE
aCAPITAL LETTER E WITH DOT ABOVEaSMALL LETTER E WITH DOT ABOVEaCAPITAL LETTER E WITH OGONEK
aSMALL LETTER E WITH OGONEKaCAPITAL LETTER E WITH CARONaSMALL LETTER E WITH CARON
aCAPITAL LETTER G WITH CIRCUMFLEXaSMALL LETTER G WITH CIRCUMFLEXaCAPITAL LETTER G WITH BREVE
aSMALL LETTER G WITH BREVEaCAPITAL LETTER G WITH DOT ABOVEaSMALL LETTER G WITH DOT ABOVE
aCAPITAL LETTER G WITH CEDILLAaSMALL LETTER G WITH CEDILLAaCAPITAL LETTER H WITH CIRCUMFLEX
aSMALL LETTER H WITH CIRCUMFLEXaCAPITAL LETTER H WITH STROKEaSMALL LETTER H WITH STROKE
aCAPITAL LETTER I WITH TILDEaSMALL LETTER I WITH TILDEaCAPITAL LETTER I WITH MACRON
aSMALL LETTER I WITH MACRONaCAPITAL LETTER I WITH BREVEaSMALL LETTER I WITH BREVE
aCAPITAL LETTER I WITH OGONEKaSMALL LETTER I WITH OGONEKaCAPITAL LETTER I WITH DOT ABOVE
aSMALL LETTER DOTLESS IaCAPITAL LIGATURE IJaSMALL LIGATURE IJaCAPITAL LETTER J WITH CIRCUMFLEX
aSMALL LETTER J WITH CIRCUMFLEXaCAPITAL LETTER K WITH CEDILLAaSMALL LETTER K WITH CEDILLAcKRA
aCAPITAL LETTER L WITH ACUTEaSMALL LETTER L WITH ACUTEaCAPITAL LETTER L WITH CEDILLA
aSMALL LETTER L WITH CEDILLAaCAPITAL LETTER L WITH CARONaSMALL LETTER L WITH CARON
aCAPITAL LETTER L WITH MIDDLE DOTaSMALL LETTER L WITH MIDDLE DOTaCAPITAL LETTER L WITH STROKE
aSMALL LETTER L WITH STROKEaCAPITAL LETTER N WITH ACUTEaSMALL LETTER N WITH ACUTE
aCAPITAL LETTER N WITH CEDILLAaSMALL LETTER N WITH CEDILLAaCAPITAL LETTER N WITH CARON
aSMALL LETTER N WITH CARONdPRECEDED BY APOSTROPHEaCAPITAL LETTER ENGaSMALL LETTER ENG
aCAPITAL LETTER O WITH MACRONaSMALL LETTER O WITH MACRONaCAPITAL LETTER O WITH BREVE
aSMALL LETTER O WITH BREVEaCAPITAL LETTER O WITH DOUBLE ACUTEaSMALL LETTER O WITH DOUBLE ACUTE
aCAPITAL LIGATURE OEaSMALL LIGATURE OEaCAPITAL LETTER R WITH ACUTEaSMALL LETTER R WITH ACUTE
aCAPITAL LETTER R WITH CEDILLAaSMALL LETTER R WITH CEDILLAaCAPITAL LETTER R WITH CARON
aSMALL LETTER R WITH CARONaCAPITAL LETTER S WITH ACUTEaSMALL LETTER S WITH ACUTE
aCAPITAL LETTER S WITH CIRCUMFLEXaSMALL LETTER S WITH CIRCUMFLEXaCAPITAL LETTER S WITH CEDILLA
aSMALL LETTER S WITH CEDILLAaCAPITAL LETTER S WITH CARONaSMALL LETTER S WITH CARON
aCAPITAL LETTER T WITH CEDILLAaSMALL LETTER T WITH CEDILLAaCAPITAL LETTER T WITH CARON
aSMALL LETTER T WITH CARONaCAPITAL LETTER T WITH STROKEaSMALL LETTER T WITH STROKE
aCAPITAL LETTER U WITH TILDEaSMALL LETTER U WITH TILDEaCAPITAL LETTER U WITH MACRON
aSMALL LETTER U WITH MACRONaCAPITAL LETTER U WITH BREVEaSMALL LETTER U WITH BREVE
aCAPITAL LETTER U WITH RING ABOVEaSMALL LETTER U WITH RING ABOVE
aCAPITAL LETTER U WITH DOUBLE ACUTEaSMALL LETTER U WITH DOUBLE ACUTEaCAPITAL LETTER U WITH OGONEK
aSMALL LETTER U WITH OGONEKaCAPITAL LETTER W WITH CIRCUMFLEXaSMALL LETTER W WITH CIRCUMFLEX
aCAPITAL LETTER Y WITH CIRCUMFLEXaSMALL LETTER Y WITH CIRCUMFLEXaCAPITAL LETTER Y WITH DIAERESIS
cZ WITH ACUTEaSMALL LETTER Z WITH ACUTEaCAPITAL LETTER Z WITH DOT ABOVE
aSMALL LETTER Z WITH DOT ABOVEaCAPITAL LETTER Z WITH CARONaSMALL LETTER Z WITH CARONcLONG S
cB WITH STROKEaCAPITAL LETTER B WITH HOOKeTOPBARaSMALL LETTER B WITH TOPBAR
aCAPITAL LETTER TONE SIXaSMALL LETTER TONE SIXaCAPITAL LETTER OPEN OcC WITH HOOK
aSMALL LETTER C WITH HOOKaCAPITAL LETTER AFRICAN DcD WITH HOOKeTOPBARaSMALL LETTER D WITH TOPBAR
cTURNED DELTAaCAPITAL LETTER REVERSED EcSCHWAcOPEN EcF WITH HOOKaSMALL LETTER F WITH HOOK
aCAPITAL LETTER G WITH HOOKcGAMMAaSMALL LETTER HVaCAPITAL LETTER IOTAcI WITH STROKEcK WITH HOOK
aSMALL LETTER K WITH HOOKcL WITH BARcLAMBDA WITH STROKEaCAPITAL LETTER TURNED McN WITH LEFT HOOK
aSMALL LETTER N WITH LONG RIGHT LEGaCAPITAL LETTER O WITH MIDDLE TILDEeHORN
aSMALL LETTER O WITH HORNaCAPITAL LETTER GHA:1A2cOIaSMALL LETTER GHA:1A3cOI
aCAPITAL LETTER P WITH HOOKaSMALL LETTER P WITH HOOKaLETTER YRaCAPITAL LETTER TONE TWO
aSMALL LETTER TONE TWOaCAPITAL LETTER ESHaLETTER REVERSED ESH LOOP
aSMALL LETTER T WITH PALATAL HOOKaCAPITAL LETTER T WITH HOOKaSMALL LETTER T WITH HOOK
aCAPITAL LETTER T WITH RETROFLEX HOOKcU WITH HORNaSMALL LETTER U WITH HORNaCAPITAL LETTER UPSILON
cV WITH HOOKcY WITH HOOKaSMALL LETTER Y WITH HOOKaCAPITAL LETTER Z WITH STROKE
aSMALL LETTER Z WITH STROKEaCAPITAL LETTER EZHdREVERSEDaSMALL LETTER EZH REVERSEDdWITH TAIL
aLETTER TWO WITH STROKEaCAPITAL LETTER TONE FIVEaSMALL LETTER TONE FIVE
aLETTER INVERTED GLOTTAL STOP WITH STROKEbWYNNbDENTAL CLICKbLATERAL CLICKbALVEOLAR CLICK
bRETROFLEX CLICKaCAPITAL LETTER DZ WITH CARONcD WITH SMALL LETTER Z WITH CARON
aSMALL LETTER DZ WITH CARONaCAPITAL LETTER LJcL WITH SMALL LETTER JaSMALL LETTER LJ
aCAPITAL LETTER NJcN WITH SMALL LETTER JaSMALL LETTER NJaCAPITAL LETTER A WITH CARON
aSMALL LETTER A WITH CARONaCAPITAL LETTER I WITH CARONaSMALL LETTER I WITH CARON
aCAPITAL LETTER O WITH CARONaSMALL LETTER O WITH CARONaCAPITAL LETTER U WITH CARON
aSMALL LETTER U WITH CARONaCAPITAL LETTER U WITH DIAERESIS AND MACRON
aSMALL LETTER U WITH DIAERESIS AND MACRONaCAPITAL LETTER U WITH DIAERESIS AND ACUTE
aSMALL LETTER U WITH DIAERESIS AND ACUTEaCAPITAL LETTER U WITH DIAERESIS AND CARON
aSMALL LETTER U WITH DIAERESIS AND CARONaCAPITAL LETTER U WITH DIAERESIS AND GRAVE
aSMALL LETTER U WITH DIAERESIS AND GRAVEcTURNED EaCAPITAL LETTER A WITH DIAERESIS AND MACRON
aSMALL LETTER A WITH DIAERESIS AND MACRONaCAPITAL LETTER A WITH DOT ABOVE AND MACRON
aSMALL LETTER A WITH DOT ABOVE AND MACRONaCAPITAL LETTER AE WITH MACRON
aSMALL LETTER AE WITH MACRONaCAPITAL LETTER G WITH STROKEaSMALL LETTER G WITH STROKE
aCAPITAL LETTER G WITH CARONaSMALL LETTER G WITH CARONaCAPITAL LETTER K WITH CARON
aSMALL LETTER K WITH CARONaCAPITAL LETTER O WITH OGONEKaSMALL LETTER O WITH OGONEK
aCAPITAL LETTER O WITH OGONEK AND MACRONaSMALL LETTER O WITH OGONEK AND MACRON
aCAPITAL LETTER EZH WITH CARONaSMALL LETTER EZH WITH CARONcJ WITH CARONaCAPITAL LETTER DZ
cD WITH SMALL LETTER ZaSMALL LETTER DZaCAPITAL LETTER G WITH ACUTEaSMALL LETTER G WITH ACUTE
aCAPITAL LETTER HWAIRcWYNNcN WITH GRAVEaSMALL LETTER N WITH GRAVE
aCAPITAL LETTER A WITH RING ABOVE AND ACUTEaSMALL LETTER A WITH RING ABOVE AND ACUTE
aCAPITAL LETTER AE WITH ACUTEaSMALL LETTER AE WITH ACUTEaCAPITAL LETTER O WITH STROKE AND ACUTE
aSMALL LETTER O WITH STROKE AND ACUTEaCAPITAL LETTER A WITH DOUBLE GRAVE
aSMALL LETTER A WITH DOUBLE GRAVEaCAPITAL LETTER A WITH INVERTED BREVE
aSMALL LETTER A WITH INVERTED BREVEaCAPITAL LETTER E WITH DOUBLE GRAVE
aSMALL LETTER E WITH DOUBLE GRAVEaCAPITAL LETTER E WITH INVERTED BREVE
aSMALL LETTER E WITH INVERTED BREVEaCAPITAL LETTER I WITH DOUBLE GRAVE
aSMALL LETTER I WITH DOUBLE GRAVEaCAPITAL LETTER I WITH INVERTED BREVE
aSMALL LETTER I WITH INVERTED BREVEaCAPITAL LETTER O WITH DOUBLE GRAVE
aSMALL LETTER O WITH DOUBLE GRAVEaCAPITAL LETTER O WITH INVERTED BREVE
aSMALL LETTER O WITH INVERTED BREVEaCAPITAL LETTER R WITH DOUBLE GRAVE
aSMALL LETTER R WITH DOUBLE GRAVEaCAPITAL LETTER R WITH INVERTED BREVE
aSMALL LETTER R WITH INVERTED BREVEaCAPITAL LETTER U WITH DOUBLE GRAVE
aSMALL LETTER U WITH DOUBLE GRAVEaCAPITAL LETTER U WITH INVERTED BREVE
aSMALL LETTER U WITH INVERTED BREVEaCAPITAL LETTER S WITH COMMA BELOW
aSMALL LETTER S WITH COMMA BELOWaCAPITAL LETTER T WITH COMMA BELOWaSMALL LETTER T WITH COMMA BELOW
aCAPITAL LETTER YOGHaSMALL LETTER YOGHaCAPITAL LETTER H WITH CARONaSMALL LETTER H WITH CARON
aCAPITAL LETTER N WITH LONG RIGHT LEGaSMALL LETTER D WITH CURLaCAPITAL LETTER OUaSMALL LETTER OU
aCAPITAL LETTER Z WITH HOOKaSMALL LETTER Z WITH HOOKaCAPITAL LETTER A WITH DOT ABOVE
aSMALL LETTER A WITH DOT ABOVEaCAPITAL LETTER E WITH CEDILLAaSMALL LETTER E WITH CEDILLA
aCAPITAL LETTER O WITH DIAERESIS AND MACRONaSMALL LETTER O WITH DIAERESIS AND MACRON
aCAPITAL LETTER O WITH TILDE AND MACRONaSMALL LETTER O WITH TILDE AND MACRON
aCAPITAL LETTER O WITH DOT ABOVEaSMALL LETTER O WITH DOT ABOVE
aCAPITAL LETTER O WITH DOT ABOVE AND MACRONaSMALL LETTER O WITH DOT ABOVE AND MACRON
aCAPITAL LETTER Y WITH MACRONaSMALL LETTER Y WITH MACRONcL WITH CURLcN WITH CURLcT WITH CURL
cDOTLESS JcDB DIGRAPHcQP DIGRAPHaCAPITAL LETTER A WITH STROKEcC WITH STROKE
aSMALL LETTER C WITH STROKEaCAPITAL LETTER L WITH BARcT WITH DIAGONAL STROKE
aSMALL LETTER S WITH SWASH TAILcZ WITH SWASH TAILaCAPITAL LETTER GLOTTAL STOP
aSMALL LETTER GLOTTAL STOPaCAPITAL LETTER B WITH STROKEcU BARcTURNED VcE WITH STROKE
aSMALL LETTER E WITH STROKEaCAPITAL LETTER J WITH STROKEaSMALL LETTER J WITH STROKE
aCAPITAL LETTER SMALL Q WITH HOOK TAILaSMALL LETTER Q WITH HOOK TAILaCAPITAL LETTER R WITH STROKE
aSMALL LETTER R WITH STROKEaCAPITAL LETTER Y WITH STROKEaSMALL LETTER Y WITH STROKEcTURNED AcALPHA
cTURNED ALPHAcB WITH HOOKcOPEN OcC WITH CURLcD WITH TAILeHOOKcREVERSED EcSCHWAdWITH HOOKcOPEN E
cREVERSED OPEN EfWITH HOOKcCLOSED REVERSED OPEN EcDOTLESS J WITH STROKEcG WITH HOOKcSCRIPT G
aLETTER SMALL CAPITAL GaSMALL LETTER GAMMAcRAMS HORNcTURNED HcH WITH HOOKcHENG WITH HOOK
cI WITH STROKEcIOTAaLETTER SMALL CAPITAL IaSMALL LETTER L WITH MIDDLE TILDEeBELTeRETROFLEX HOOK
cLEZHcTURNED MeWITH LONG LEGcM WITH HOOKcN WITH LEFT HOOKeRETROFLEX HOOKaLETTER SMALL CAPITAL N
aSMALL LETTER BARRED OaLETTER SMALL CAPITAL OEaSMALL LETTER CLOSED OMEGAcPHIcTURNED R
eWITH LONG LEGfHOOKcR WITH LONG LEGeTAILeFISHHOOKcREVERSED R WITH FISHHOOKaLETTER SMALL CAPITAL R
dINVERTED RaSMALL LETTER S WITH HOOKcESHcDOTLESS J WITH STROKE AND HOOKcSQUAT REVERSED ESH
cESH WITH CURLcTURNED TcT WITH RETROFLEX HOOKcU BARcUPSILONcV WITH HOOKcTURNED VdWdY
aLETTER SMALL CAPITAL YaSMALL LETTER Z WITH RETROFLEX HOOKeCURLcEZHdWITH CURLaLETTER GLOTTAL STOP
bPHARYNGEAL VOICED FRICATIVEbINVERTED GLOTTAL STOPbSTRETCHED CbBILABIAL CLICKbSMALL CAPITAL B
aSMALL LETTER CLOSED OPEN EaLETTER SMALL CAPITAL G WITH HOOKdHaSMALL LETTER J WITH CROSSED-TAIL
cTURNED KaLETTER SMALL CAPITAL LaSMALL LETTER Q WITH HOOKaLETTER GLOTTAL STOP WITH STROKE
bREVERSED GLOTTAL STOP WITH STROKEaSMALL LETTER DZ DIGRAPHcDEZH DIGRAPHcDZ DIGRAPH WITH CURL
cTS DIGRAPHcTESH DIGRAPHcTC DIGRAPH WITH CURLcFENG DIGRAPHcLS DIGRAPHcLZ DIGRAPH
aLETTER BILABIAL PERCUSSIVEbBIDENTAL PERCUSSIVEaSMALL LETTER TURNED H WITH FISHHOOKgAND TAIL
:1D00aLETTER SMALL CAPITAL AdAEaSMALL LETTER TURNED AEaLETTER SMALL CAPITAL BARRED BdCdDdETHdE
aSMALL LETTER TURNED OPEN EdIaLETTER SMALL CAPITAL JdKdL WITH STROKEdMdREVERSED NdOdOPEN O
aSMALL LETTER SIDEWAYS OdOPEN OdO WITH STROKEcTURNED OEaLETTER SMALL CAPITAL OU
aSMALL LETTER TOP HALF OcBOTTOM HALF OaLETTER SMALL CAPITAL PdREVERSED RdTURNED RdTdU
aSMALL LETTER SIDEWAYS UdDIAERESIZED UdTURNED MaLETTER SMALL CAPITAL VdWdZdEZH
bVOICED LARYNGEAL SPIRANTbAIN:1D62aSUBSCRIPT SMALL LETTER IdRdUdV:1D6BaSMALL LETTER UE
cB WITH MIDDLE TILDEcD WITH MIDDLE TILDEcF WITH MIDDLE TILDEcM WITH MIDDLE TILDE
cN WITH MIDDLE TILDEcP WITH MIDDLE TILDEcR WITH MIDDLE TILDEeFISHHOOK AND MIDDLE TILDE
cS WITH MIDDLE TILDEcT WITH MIDDLE TILDEcZ WITH MIDDLE TILDEcTURNED G:1D79cINSULAR G
cTH WITH STRIKETHROUGHbCAPITAL LETTER I WITH STROKEbLETTER IOTA WITH STROKEcP WITH STROKE
bCAPITAL LETTER U WITH STROKEbLETTER UPSILON WITH STROKEcB WITH PALATAL HOOKcD WITH PALATAL HOOK
cF WITH PALATAL HOOKcG WITH PALATAL HOOKcK WITH PALATAL HOOKcL WITH PALATAL HOOK
cM WITH PALATAL HOOKcN WITH PALATAL HOOKcP WITH PALATAL HOOKcR WITH PALATAL HOOK
cS WITH PALATAL HOOKcESH WITH PALATAL HOOKcV WITH PALATAL HOOKcX WITH PALATAL HOOK
cZ WITH PALATAL HOOKcA WITH RETROFLEX HOOKcALPHA WITH RETROFLEX HOOKcD WITH HOOK AND TAIL
cE WITH RETROFLEX HOOKcOPEN E WITH RETROFLEX HOOKcREVERSED OPEN E WITH RETROFLEX HOOK
cSCHWA WITH RETROFLEX HOOKcI WITH RETROFLEX HOOKcOPEN O WITH RETROFLEX HOOK
cESH WITH RETROFLEX HOOKcU WITH RETROFLEX HOOKcEZH WITH RETROFLEX HOOK
:1E00aCAPITAL LETTER A WITH RING BELOWaSMALL LETTER A WITH RING BELOW
aCAPITAL LETTER B WITH DOT ABOVEaSMALL LETTER B WITH DOT ABOVEaCAPITAL LETTER B WITH DOT BELOW
aSMALL LETTER B WITH DOT BELOWaCAPITAL LETTER B WITH LINE BELOWaSMALL LETTER B WITH LINE BELOW
aCAPITAL LETTER C WITH CEDILLA AND ACUTEaSMALL LETTER C WITH CEDILLA AND ACUTE
aCAPITAL LETTER D WITH DOT ABOVEaSMALL LETTER D WITH DOT ABOVEaCAPITAL LETTER D WITH DOT BELOW
aSMALL LETTER D WITH DOT BELOWaCAPITAL LETTER D WITH LINE BELOWaSMALL LETTER D WITH LINE BELOW
aCAPITAL LETTER D WITH CEDILLAaSMALL LETTER D WITH CEDILLAaCAPITAL LETTER D WITH CIRCUMFLEX BELOW
aSMALL LETTER D WITH CIRCUMFLEX BELOWaCAPITAL LETTER E WITH MACRON AND GRAVE
aSMALL LETTER E WITH MACRON AND GRAVEaCAPITAL LETTER E WITH MACRON AND ACUTE
aSMALL LETTER E WITH MACRON AND ACUTEaCAPITAL LETTER E WITH CIRCUMFLEX BELOW
aSMALL LETTER E WITH CIRCUMFLEX BELOWaCAPITAL LETTER E WITH TILDE BELOW
aSMALL LETTER E WITH TILDE BELOWaCAPITAL LETTER E WITH CEDILLA AND BREVE
aSMALL LETTER E WITH CEDILLA AND BREVEaCAPITAL LETTER F WITH DOT ABOVE
aSMALL LETTER F WITH DOT ABOVEaCAPITAL LETTER G WITH MACRONaSMALL LETTER G WITH MACRON
aCAPITAL LETTER H WITH DOT ABOVEaSMALL LETTER H WITH DOT ABOVEaCAPITAL LETTER H WITH DOT BELOW
aSMALL LETTER H WITH DOT BELOWaCAPITAL LETTER H WITH DIAERESISaSMALL LETTER H WITH DIAERESIS
aCAPITAL LETTER H WITH CEDILLAaSMALL LETTER H WITH CEDILLAaCAPITAL LETTER H WITH BREVE BELOW
aSMALL LETTER H WITH BREVE BELOWaCAPITAL LETTER I WITH TILDE BELOWaSMALL LETTER I WITH TILDE BELOW
aCAPITAL LETTER I WITH DIAERESIS AND ACUTEaSMALL LETTER I WITH DIAERESIS AND ACUTE
aCAPITAL LETTER K WITH ACUTEaSMALL LETTER K WITH ACUTEaCAPITAL LETTER K WITH DOT BELOW
aSMALL LETTER K WITH DOT BELOWaCAPITAL LETTER K WITH LINE BELOWaSMALL LETTER K WITH LINE BELOW
aCAPITAL LETTER L WITH DOT BELOWaSMALL LETTER L WITH DOT BELOW
aCAPITAL LETTER L WITH DOT BELOW AND MACRONaSMALL LETTER L WITH DOT BELOW AND MACRON
aCAPITAL LETTER L WITH LINE BELOWaSMALL LETTER L WITH LINE BELOW
aCAPITAL LETTER L WITH CIRCUMFLEX BELOWaSMALL LETTER L WITH CIRCUMFLEX BELOW
aCAPITAL LETTER M WITH ACUTEaSMALL LETTER M WITH ACUTEaCAPITAL LETTER M WITH DOT ABOVE
aSMALL LETTER M WITH DOT ABOVEaCAPITAL LETTER M WITH DOT BELOWaSMALL LETTER M WITH DOT BELOW
aCAPITAL LETTER N WITH DOT ABOVEaSMALL LETTER N WITH DOT ABOVEaCAPITAL LETTER N WITH DOT BELOW
aSMALL LETTER N WITH DOT BELOWaCAPITAL LETTER N WITH LINE BELOWaSMALL LETTER N WITH LINE BELOW
aCAPITAL LETTER N WITH CIRCUMFLEX BELOWaSMALL LETTER N WITH CIRCUMFLEX BELOW
aCAPITAL LETTER O WITH TILDE AND ACUTEaSMALL LETTER O WITH TILDE AND ACUTE
aCAPITAL LETTER O WITH TILDE AND DIAERESISaSMALL LETTER O WITH TILDE AND DIAERESIS
aCAPITAL LETTER O WITH MACRON AND GRAVEaSMALL LETTER O WITH MACRON AND GRAVE
aCAPITAL LETTER O WITH MACRON AND ACUTEaSMALL LETTER O WITH MACRON AND ACUTE
aCAPITAL LETTER P WITH ACUTEaSMALL LETTER P WITH ACUTEaCAPITAL LETTER P WITH DOT ABOVE
aSMALL LETTER P WITH DOT ABOVEaCAPITAL LETTER R WITH DOT ABOVEaSMALL LETTER R WITH DOT ABOVE
aCAPITAL LETTER R WITH DOT BELOWaSMALL LETTER R WITH DOT BELOW
aCAPITAL LETTER R WITH DOT BELOW AND MACRONaSMALL LETTER R WITH DOT BELOW AND MACRON
aCAPITAL LETTER R WITH LINE BELOWaSMALL LETTER R WITH LINE BELOWaCAPITAL LETTER S WITH DOT ABOVE
aSMALL LETTER S WITH DOT ABOVEaCAPITAL LETTER S WITH DOT BELOWaSMALL LETTER S WITH DOT BELOW
aCAPITAL LETTER S WITH ACUTE AND DOT ABOVEaSMALL LETTER S WITH ACUTE AND DOT ABOVE
aCAPITAL LETTER S WITH CARON AND DOT ABOVEaSMALL LETTER S WITH CARON AND DOT ABOVE
aCAPITAL LETTER S WITH DOT BELOW AND DOT ABOVEaSMALL LETTER S WITH DOT BELOW AND DOT ABOVE
aCAPITAL LETTER T WITH DOT ABOVEaSMALL LETTER T WITH DOT ABOVEaCAPITAL LETTER T WITH DOT BELOW
aSMALL LETTER T WITH DOT BELOWaCAPITAL LETTER T WITH LINE BELOWaSMALL LETTER T WITH LINE BELOW
aCAPITAL LETTER T WITH CIRCUMFLEX BELOWaSMALL LETTER T WITH CIRCUMFLEX BELOW
aCAPITAL LETTER U WITH DIAERESIS BELOWaSMALL LETTER U WITH DIAERESIS BELOW
aCAPITAL LETTER U WITH TILDE BELOWaSMALL LETTER U WITH TILDE BELOW
aCAPITAL LETTER U WITH CIRCUMFLEX BELOWaSMALL LETTER U WITH CIRCUMFLEX BELOW
aCAPITAL LETTER U WITH TILDE AND ACUTEaSMALL LETTER U WITH TILDE AND ACUTE
aCAPITAL LETTER U WITH MACRON AND DIAERESISaSMALL LETTER U WITH MACRON AND DIAERESIS
aCAPITAL LETTER V WITH TILDEaSMALL LETTER V WITH TILDEaCAPITAL LETTER V WITH DOT BELOW
aSMALL LETTER V WITH DOT BELOWaCAPITAL LETTER W WITH GRAVEaSMALL LETTER W WITH GRAVE
aCAPITAL LETTER W WITH ACUTEaSMALL LETTER W WITH ACUTEaCAPITAL LETTER W WITH DIAERESIS
aSMALL LETTER W WITH DIAERESISaCAPITAL LETTER W WITH DOT ABOVEaSMALL LETTER W WITH DOT ABOVE
aCAPITAL LETTER W WITH DOT BELOWaSMALL LETTER W WITH DOT BELOWaCAPITAL LETTER X WITH DOT ABOVE
aSMALL LETTER X WITH DOT ABOVEaCAPITAL LETTER X WITH DIAERESISaSMALL LETTER X WITH DIAERESIS
aCAPITAL LETTER Y WITH DOT ABOVEaSMALL LETTER Y WITH DOT ABOVEaCAPITAL LETTER Z WITH CIRCUMFLEX
aSMALL LETTER Z WITH CIRCUMFLEXaCAPITAL LETTER Z WITH DOT BELOWaSMALL LETTER Z WITH DOT BELOW
aCAPITAL LETTER Z WITH LINE BELOWaSMALL LETTER Z WITH LINE BELOWcH WITH LINE BELOW
cT WITH DIAERESIScW WITH RING ABOVEcY WITH RING ABOVEcA WITH RIGHT HALF RINGcLONG S WITH DOT ABOVE
fDIAGONAL STROKEfHIGH STROKEaCAPITAL LETTER SHARP SaSMALL LETTER DELTA
aCAPITAL LETTER A WITH DOT BELOWaSMALL LETTER A WITH DOT BELOWaCAPITAL LETTER A WITH HOOK ABOVE
aSMALL LETTER A WITH HOOK ABOVEaCAPITAL LETTER A WITH CIRCUMFLEX AND ACUTE
aSMALL LETTER A WITH CIRCUMFLEX AND ACUTEaCAPITAL LETTER A WITH CIRCUMFLEX AND GRAVE
aSMALL LETTER A WITH CIRCUMFLEX AND GRAVEaCAPITAL LETTER A WITH CIRCUMFLEX AND HOOK ABOVE
aSMALL LETTER A WITH CIRCUMFLEX AND HOOK ABOVEaCAPITAL LETTER A WITH CIRCUMFLEX AND TILDE
aSMALL LETTER A WITH CIRCUMFLEX AND TILDEaCAPITAL LETTER A WITH CIRCUMFLEX AND DOT BELOW
aSMALL LETTER A WITH CIRCUMFLEX AND DOT BELOWaCAPITAL LETTER A WITH BREVE AND ACUTE
aSMALL LETTER A WITH BREVE AND ACUTEaCAPITAL LETTER A WITH BREVE AND GRAVE
aSMALL LETTER A WITH BREVE AND GRAVEaCAPITAL LETTER A WITH BREVE AND HOOK ABOVE
aSMALL LETTER A WITH BREVE AND HOOK ABOVEaCAPITAL LETTER A WITH BREVE AND TILDE
aSMALL LETTER A WITH BREVE AND TILDEaCAPITAL LETTER A WITH BREVE AND DOT BELOW
aSMALL LETTER A WITH BREVE AND DOT BELOWaCAPITAL LETTER E WITH DOT BELOW
aSMALL LETTER E WITH DOT BELOWaCAPITAL LETTER E WITH HOOK ABOVEaSMALL LETTER E WITH HOOK ABOVE
aCAPITAL LETTER E WITH TILDEaSMALL LETTER E WITH TILDEaCAPITAL LETTER E WITH CIRCUMFLEX AND ACUTE
aSMALL LETTER E WITH CIRCUMFLEX AND ACUTEaCAPITAL LETTER E WITH CIRCUMFLEX AND GRAVE
aSMALL LETTER E WITH CIRCUMFLEX AND GRAVEaCAPITAL LETTER E WITH CIRCUMFLEX AND HOOK ABOVE
aSMALL LETTER E WITH CIRCUMFLEX AND HOOK ABOVEaCAPITAL LETTER E WITH CIRCUMFLEX AND TILDE
aSMALL LETTER E WITH CIRCUMFLEX AND TILDEaCAPITAL LETTER E WITH CIRCUMFLEX AND DOT BELOW
aSMALL LETTER E WITH CIRCUMFLEX AND DOT BELOWaCAPITAL LETTER I WITH HOOK ABOVE
aSMALL LETTER I WITH HOOK ABOVEaCAPITAL LETTER I WITH DOT BELOWaSMALL LETTER I WITH DOT BELOW
aCAPITAL LETTER O WITH DOT BELOWaSMALL LETTER O WITH DOT BELOWaCAPITAL LETTER O WITH HOOK ABOVE
aSMALL LETTER O WITH HOOK ABOVEaCAPITAL LETTER O WITH CIRCUMFLEX AND ACUTE
aSMALL LETTER O WITH CIRCUMFLEX AND ACUTEaCAPITAL LETTER O WITH CIRCUMFLEX AND GRAVE
aSMALL LETTER O WITH CIRCUMFLEX AND GRAVEaCAPITAL LETTER O WITH CIRCUMFLEX AND HOOK ABOVE
aSMALL LETTER O WITH CIRCUMFLEX AND HOOK ABOVEaCAPITAL LETTER O WITH CIRCUMFLEX AND TILDE
aSMALL LETTER O WITH CIRCUMFLEX AND TILDEaCAPITAL LETTER O WITH CIRCUMFLEX AND DOT BELOW
aSMALL LETTER O WITH CIRCUMFLEX AND DOT BELOWaCAPITAL LETTER O WITH HORN AND ACUTE
aSMALL LETTER O WITH HORN AND ACUTEaCAPITAL LETTER O WITH HORN AND GRAVE
aSMALL LETTER O WITH HORN AND GRAVEaCAPITAL LETTER O WITH HORN AND HOOK ABOVE
aSMALL LETTER O WITH HORN AND HOOK ABOVEaCAPITAL LETTER O WITH HORN AND TILDE
aSMALL LETTER O WITH HORN AND TILDEaCAPITAL LETTER O WITH HORN AND DOT BELOW
aSMALL LETTER O WITH HORN AND DOT BELOWaCAPITAL LETTER U WITH DOT BELOW
aSMALL LETTER U WITH DOT BELOWaCAPITAL LETTER U WITH HOOK ABOVEaSMALL LETTER U WITH HOOK ABOVE
aCAPITAL LETTER U WITH HORN AND ACUTEaSMALL LETTER U WITH HORN AND ACUTE
aCAPITAL LETTER U WITH HORN AND GRAVEaSMALL LETTER U WITH HORN AND GRAVE
aCAPITAL LETTER U WITH HORN AND HOOK ABOVEaSMALL LETTER U WITH HORN AND HOOK ABOVE
aCAPITAL LETTER U WITH HORN AND TILDEaSMALL LETTER U WITH HORN AND TILDE
aCAPITAL LETTER U WITH HORN AND DOT BELOWaSMALL LETTER U WITH HORN AND DOT BELOW
aCAPITAL LETTER Y WITH GRAVEaSMALL LETTER Y WITH GRAVEaCAPITAL LETTER Y WITH DOT BELOW
aSMALL LETTER Y WITH DOT BELOWaCAPITAL LETTER Y WITH HOOK ABOVEaSMALL LETTER Y WITH HOOK ABOVE
aCAPITAL LETTER Y WITH TILDEaSMALL LETTER Y WITH TILDEaCAPITAL LETTER MIDDLE-WELSH LL
aSMALL LETTER MIDDLE-WELSH LLaCAPITAL LETTER MIDDLE-WELSH VaSMALL LETTER MIDDLE-WELSH V
aCAPITAL LETTER Y WITH LOOPaSMALL LETTER Y WITH LOOP:2090aSUBSCRIPT SMALL LETTER AdEdOdXdSCHWAdHdK
dLdMdNdPdSdT:2184aSMALL LETTER REVERSED C:271DaCROSS:2C60aCAPITAL LETTER L WITH DOUBLE BAR
aSMALL LETTER L WITH DOUBLE BARaCAPITAL LETTER L WITH MIDDLE TILDEcP WITH STROKEcR WITH TAIL
aSMALL LETTER A WITH STROKEcT WITH DIAGONAL STROKEaCAPITAL LETTER H WITH DESCENDER
aSMALL LETTER H WITH DESCENDERaCAPITAL LETTER K WITH DESCENDERaSMALL LETTER K WITH DESCENDER
aCAPITAL LETTER Z WITH DESCENDERaSMALL LETTER Z WITH DESCENDERaCAPITAL LETTER ALPHAcM WITH HOOK
cTURNED AdALPHAaSMALL LETTER V WITH RIGHT HOOKaCAPITAL LETTER W WITH HOOKaSMALL LETTER W WITH HOOK
cV WITH CURLaCAPITAL LETTER HALF HaSMALL LETTER HALF HcTAILLESS PHIcE WITH NOTCH
cTURNED R WITH TAILcO WITH LOW RING INSIDEaLETTER SMALL CAPITAL TURNED EaSUBSCRIPT SMALL LETTER J
:2C7EaCAPITAL LETTER S WITH SWASH TAILcZ WITH SWASH TAIL:A722cEGYPTOLOGICAL ALEF
aSMALL LETTER EGYPTOLOGICAL ALEFaCAPITAL LETTER EGYPTOLOGICAL AINaSMALL LETTER EGYPTOLOGICAL AIN
aCAPITAL LETTER HENGaSMALL LETTER HENGaCAPITAL LETTER TZaSMALL LETTER TZaCAPITAL LETTER TRESILLO
aSMALL LETTER TRESILLOaCAPITAL LETTER CUATRILLOaSMALL LETTER CUATRILLO
aCAPITAL LETTER CUATRILLO WITH COMMAaSMALL LETTER CUATRILLO WITH COMMAaLETTER SMALL CAPITAL FdS
aCAPITAL LETTER AAaSMALL LETTER AAaCAPITAL LETTER AOaSMALL LETTER AOaCAPITAL LETTER AU
aSMALL LETTER AUaCAPITAL LETTER AVaSMALL LETTER AVaCAPITAL LETTER AV WITH HORIZONTAL BAR
aSMALL LETTER AV WITH HORIZONTAL BARaCAPITAL LETTER AYaSMALL LETTER AY
aCAPITAL LETTER REVERSED C WITH DOTaSMALL LETTER REVERSED C WITH DOTaCAPITAL LETTER K WITH STROKE
aSMALL LETTER K WITH STROKEaCAPITAL LETTER K WITH DIAGONAL STROKE
aSMALL LETTER K WITH DIAGONAL STROKEaCAPITAL LETTER K WITH STROKE AND DIAGONAL STROKE
aSMALL LETTER K WITH STROKE AND DIAGONAL STROKEaCAPITAL LETTER BROKEN LaSMALL LETTER BROKEN L
aCAPITAL LETTER L WITH HIGH STROKEaSMALL LETTER L WITH HIGH STROKE
aCAPITAL LETTER O WITH LONG STROKE OVERLAYaSMALL LETTER O WITH LONG STROKE OVERLAY
aCAPITAL LETTER O WITH LOOPaSMALL LETTER O WITH LOOPaCAPITAL LETTER OOaSMALL LETTER OO
aCAPITAL LETTER P WITH STROKE THROUGH DESCENDERaSMALL LETTER P WITH STROKE THROUGH DESCENDER
aCAPITAL LETTER P WITH FLOURISHaSMALL LETTER P WITH FLOURISHaCAPITAL LETTER P WITH SQUIRREL TAIL
aSMALL LETTER P WITH SQUIRREL TAILaCAPITAL LETTER Q WITH STROKE THROUGH DESCENDER
aSMALL LETTER Q WITH STROKE THROUGH DESCENDERaCAPITAL LETTER Q WITH DIAGONAL STROKE
aSMALL LETTER Q WITH DIAGONAL STROKEaCAPITAL LETTER R ROTUNDAaSMALL LETTER R ROTUNDA
aCAPITAL LETTER RUM ROTUNDAaSMALL LETTER RUM ROTUNDAaCAPITAL LETTER V WITH DIAGONAL STROKE
aSMALL LETTER V WITH DIAGONAL STROKEaCAPITAL LETTER VYaSMALL LETTER VYaCAPITAL LETTER VISIGOTHIC Z
aSMALL LETTER VISIGOTHIC ZaCAPITAL LETTER THORN WITH STROKEaSMALL LETTER THORN WITH STROKE
aCAPITAL LETTER THORN WITH STROKE THROUGH DESCENDER
aSMALL LETTER THORN WITH STROKE THROUGH DESCENDERaCAPITAL LETTER VENDaSMALL LETTER VEND
aCAPITAL LETTER ETaSMALL LETTER ETaCAPITAL LETTER ISaSMALL LETTER ISaCAPITAL LETTER CON
aSMALL LETTER CON:A771cDUMcLUMcMUMcNUMcRUMaLETTER SMALL CAPITAL RUMaSMALL LETTER TUMcUM
aCAPITAL LETTER INSULAR DaSMALL LETTER INSULAR DaCAPITAL LETTER INSULAR FaSMALL LETTER INSULAR F
aCAPITAL LETTER INSULAR GcTURNED INSULAR GaSMALL LETTER TURNED INSULAR GaCAPITAL LETTER TURNED L
aSMALL LETTER TURNED LaCAPITAL LETTER INSULAR RaSMALL LETTER INSULAR RaCAPITAL LETTER INSULAR S
aSMALL LETTER INSULAR SaCAPITAL LETTER INSULAR TaSMALL LETTER INSULAR T
:A78BaCAPITAL LETTER SALTILLOaSMALL LETTER SALTILLOaCAPITAL LETTER TURNED H
aSMALL LETTER L WITH RETROFLEX HOOK AND BELTaLETTER SINOLOGICAL DOT
aCAPITAL LETTER N WITH DESCENDERaSMALL LETTER N WITH DESCENDERaCAPITAL LETTER C WITH BAR
aSMALL LETTER C WITH BARePALATAL HOOKcH WITH PALATAL HOOKaCAPITAL LETTER B WITH FLOURISH
aSMALL LETTER B WITH FLOURISHaCAPITAL LETTER F WITH STROKEaSMALL LETTER F WITH STROKE
aCAPITAL LETTER VOLAPUK AEaSMALL LETTER VOLAPUK AEaCAPITAL LETTER VOLAPUK OE
aSMALL LETTER VOLAPUK OEaCAPITAL LETTER VOLAPUK UEaSMALL LETTER VOLAPUK UE
aCAPITAL LETTER G WITH OBLIQUE STROKEaSMALL LETTER G WITH OBLIQUE STROKE
aCAPITAL LETTER K WITH OBLIQUE STROKEaSMALL LETTER K WITH OBLIQUE STROKE
aCAPITAL LETTER N WITH OBLIQUE STROKEaSMALL LETTER N WITH OBLIQUE STROKE
aCAPITAL LETTER R WITH OBLIQUE STROKEaSMALL LETTER R WITH OBLIQUE STROKE
aCAPITAL LETTER S WITH OBLIQUE STROKEaSMALL LETTER S WITH OBLIQUE STROKE
aCAPITAL LETTER H WITH HOOKcREVERSED OPEN EcSCRIPT GcL WITH BELTcSMALL CAPITAL I
aLETTER SMALL CAPITAL QaCAPITAL LETTER TURNED KdTcJ WITH CROSSED-TAILcCHIcBETAaSMALL LETTER BETA
aCAPITAL LETTER OMEGAaSMALL LETTER OMEGAaCAPITAL LETTER U WITH STROKEaSMALL LETTER U WITH STROKE
aCAPITAL LETTER GLOTTAL AaSMALL LETTER GLOTTAL AaCAPITAL LETTER GLOTTAL IaSMALL LETTER GLOTTAL I
aCAPITAL LETTER GLOTTAL UaSMALL LETTER GLOTTAL UaCAPITAL LETTER OLD POLISH O
aSMALL LETTER OLD POLISH OaCAPITAL LETTER ANGLICANA WaSMALL LETTER ANGLICANA W
aCAPITAL LETTER C WITH PALATAL HOOKcS WITH HOOKcZ WITH PALATAL HOOKcD WITH SHORT STROKE OVERLAY
aSMALL LETTER D WITH SHORT STROKE OVERLAYaCAPITAL LETTER S WITH SHORT STROKE OVERLAY
aSMALL LETTER S WITH SHORT STROKE OVERLAY:A7D0aCAPITAL LETTER CLOSED INSULAR G
aSMALL LETTER CLOSED INSULAR G:A7D3cDOUBLE THORN:A7D5dWYNNaCAPITAL LETTER MIDDLE SCOTS S
aSMALL LETTER MIDDLE SCOTS SaCAPITAL LETTER SIGMOID SaSMALL LETTER SIGMOID S
:A7F5aCAPITAL LETTER REVERSED HALF HaSMALL LETTER REVERSED HALF HaEPIGRAPHIC LETTER SIDEWAYS I
:A7FAaLETTER SMALL CAPITAL TURNED MaEPIGRAPHIC LETTER REVERSED FdPcINVERTED McI LONGAcARCHAIC M
:AB30aSMALL LETTER BARRED ALPHAcA REVERSED-SCHWAcBLACKLETTER EcBARRED EcE WITH FLOURISHcLENIS F
cSCRIPT G WITH CROSSED-TAILcL WITH INVERTED LAZY SeDOUBLE MIDDLE TILDEeMIDDLE RING
cM WITH CROSSED-TAILcN WITH CROSSED-TAILcENG WITH CROSSED-TAILcBLACKLETTER OeWITH STROKE
cOPEN O WITH STROKEcINVERTED OEcTURNED OE WITH STROKEfHORIZONTAL STROKEdO OPEN-OfWITH STROKE
cSTIRRUP RaLETTER SMALL CAPITAL R WITH RIGHT LEGaSMALL LETTER R WITHOUT HANDLEcDOUBLE R
cR WITH CROSSED-TAILcDOUBLE R WITH CROSSED-TAILcSCRIPT ReWITH RINGcBASELINE ESH
cU WITH SHORT RIGHT LEGdBAR WITH SHORT RIGHT LEGcUIcTURNED UIcU WITH LEFT HOOKcCHI
dWITH LOW RIGHT RINGfLEFT SERIFcX WITH LOW RIGHT RINGeLONG LEFT LEGhAND LOW RIGHT RINGhWITH SERIF
cY WITH SHORT RIGHT LEG:AB60cSAKHA YATcIOTIFIED EcOPEN OEcUOcINVERTED ALPHA
:AB66cDZ DIGRAPH WITH RETROFLEX HOOKcTS DIGRAPH WITH RETROFLEX HOOKcTURNED R WITH MIDDLE TILDE
:FB00bLIGATURE FFcFIcFLcFFIcFFLcLONG S TcST:1DF00bLETTER FENG DIGRAPH WITH TRILLcREVERSED SCRIPT G
aLETTER SMALL CAPITAL TURNED GaSMALL LETTER REVERSED KaLETTER SMALL CAPITAL L WITH BELT
aSMALL LETTER LEZH WITH RETROFLEX HOOKcTURNED Y WITH BELTcREVERSED ENG
cTURNED R WITH LONG LEG AND RETROFLEX HOOKcT WITH HOOK AND RETROFLEX HOOK
aLETTER RETROFLEX CLICK WITH RETROFLEX HOOKaSMALL LETTER ESH WITH DOUBLE BARgAND CURL
cTURNED T WITH CURLaLETTER INVERTED GLOTTAL STOP WITH CURLbSTRETCHED C WITH CURL
bSMALL CAPITAL TURNED KaSMALL LETTER L WITH FISHHOOKcDEZH DIGRAPH WITH PALATAL HOOK
cL WITH BELT AND PALATAL HOOKcENG WITH PALATAL HOOKcTURNED R WITH PALATAL HOOK
cR WITH FISHHOOK AND PALATAL HOOKcTESH DIGRAPH WITH PALATAL HOOKcEZH WITH PALATAL HOOK
cDEZH DIGRAPH WITH RETROFLEX HOOKcI WITH STROKE AND RETROFLEX HOOKcO WITH RETROFLEX HOOK
cTESH DIGRAPH WITH RETROFLEX HOOKcC WITH RETROFLEX HOOKcS WITH CURL=bEAF:1F343aFLUTTERING IN WIND
=eY:1F96CaGREEN=cDGER:1F4D2a=cFT:28aPARENTHESIS:5BaSQUARE BRACKET:7BaCURLY BRACKET
:2018aSINGLE QUOTATION MARK:201CaDOUBLE QUOTATION MARK:2045aSQUARE BRACKET WITH QUILL
:2194aRIGHT ARROW:21ADbWAVE ARROWbARROW WITH STROKE:21CEbDOUBLE ARROW WITH STROKE:21D4d
:21F9bARROW WITH VERTICAL STROKE:21FCdDOUBLE VERTICAL STROKE:21FFbOPEN-HEADED ARROW:22A3aTACK
:22C9aNORMAL FACTOR SEMIDIRECT PRODUCT:22CBaSEMIDIRECT PRODUCT:2308aCEILING:230AaFLOOR
:239BaPARENTHESIS UPPER HOOKbEXTENSIONbLOWER HOOK:23A1aSQUARE BRACKET UPPER CORNERcEXTENSION
cLOWER CORNER:23A7aCURLY BRACKET UPPER HOOKcMIDDLE PIECEcLOWER HOOK:23B8aVERTICAL BOX LINE
:2589aSEVEN EIGHTHS BLOCKaTHREE QUARTERS BLOCKaFIVE EIGHTHS BLOCKaHALF BLOCKaTHREE EIGHTHS BLOCK
aONE QUARTER BLOCKbEIGHTH BLOCK:25D6aHALF BLACK CIRCLE:26DCaCLOSED ENTRY
:27C5aS-SHAPED BAG DELIMITER:27D5aOUTER JOIN:27DAaAND RIGHT DOUBLE TURNSTILEcTACKaMULTIMAP
:2904aRIGHT DOUBLE ARROW WITH VERTICAL STROKE:2948bARROW THROUGH SMALL CIRCLE
:294AaBARB UP RIGHT BARB DOWN HARPOONbDOWN RIGHT BARB UP HARPOON:294EbUP RIGHT BARB UP HARPOON
:2950bDOWN RIGHT BARB DOWN HARPOON:297CaFISH TAIL:2983aWHITE CURLY BRACKET:2985bPARENTHESIS
:298BaSQUARE BRACKET WITH UNDERBAR:298DdTICK IN TOP CORNER:298FfBOTTOM CORNER
:2991aANGLE BRACKET WITH DOT:2993aARC LESS-THAN BRACKET:2997aBLACK TORTOISE SHELL BRACKET
:29CFaTRIANGLE BESIDE VERTICAL BAR:29D8aWIGGLY FENCE:29DAaDOUBLE WIGGLY FENCE
:2B04aRIGHT WHITE ARROW:2B0CbBLACK ARROW:2B30aARROW WITH SMALL CIRCLE:2B32cCIRCLED PLUS
:2B64aRIGHT TRIANGLE-HEADED ARROW:2BE8aHALF BLACK STAR:2E02aSUBSTITUTION BRACKET
:2E04aDOTTED SUBSTITUTION BRACKET:2E09aTRANSPOSITION BRACKET:2E0CaRAISED OMISSION BRACKET
:2E1CaLOW PARAPHRASE BRACKET:2E20aVERTICAL BAR WITH QUILL:2E26aSIDEWAYS U BRACKET
:2E28aDOUBLE PARENTHESIS:2E55aSQUARE BRACKET WITH STROKE:2E57dDOUBLE STROKE:3008aANGLE BRACKET
:300AaDOUBLE ANGLE BRACKET:300CaCORNER BRACKET:300EaWHITE CORNER BRACKET
:3010aBLACK LENTICULAR BRACKET:3014aTORTOISE SHELL BRACKET:3016aWHITE LENTICULAR BRACKET
:3018bTORTOISE SHELL BRACKET:301AbSQUARE BRACKET:1F57BaHAND TELEPHONE RECEIVER:1F58EaWRITING HAND
:1F5E8aSPEECH BUBBLE:1F5ECaTHOUGHT BUBBLE:1F5EEaANGER BUBBLE:1F6C5aLUGGAGE
:1F858aRIGHT SANS-SERIF ARROW:1F903aHALF CIRCLE WITH FOUR DOTSdTHREE DOTSdTWO DOTSdDOTc
:1FB69aAND LOWER AND RIGHT TRIANGULAR THREE QUARTERS BLOCK
:1FB6BbUPPER AND RIGHT TRIANGULAR THREE QUARTERS BLOCKaTRIANGULAR ONE QUARTER BLOCK
:1FB7CaAND LOWER ONE EIGHTH BLOCKbUPPER ONE EIGHTH BLOCK:1FB8CaHALF MEDIUM SHADE
:1FB94bINVERSE MEDIUM SHADE AND RIGHT HALF BLOCK:1FB9BaAND RIGHT TRIANGULAR HALF BLOCK
:1FBB2aHALF RUNNING MAN:1FBB9bFOLDER:1FBC1aTHIRD WHITE RIGHT POINTING INDEX
=e-FACING:58EaARMENIAN ETERNITY SIGN:FD6aSVASTI SIGN:FD8cWITH DOTS:1F91BaFIST
=fHANDED:26E6aINTERLACED PENTAGRAM=fPOINTING:ABaDOUBLE ANGLE QUOTATION MARK:2329aANGLE BRACKET
:29FCaCURVED ANGLE BRACKET:1F50DaMAGNIFYING GLASS=fSHADED:27AAaWHITE RIGHTWARDS ARROW
=gIDE:2939aARC ANTICLOCKWISE ARROW=fTO-RIGHT:200EaMARK:202AaEMBEDDING:202DaOVERRIDE:2066aISOLATE
=eWARDS:2190aARROW:219AbWITH STROKE:219CaWAVE ARROW:219EaTWO HEADED ARROW:21A2aARROW WITH TAIL
:21A4bFROM BAR:21A9bWITH HOOK:21ABcLOOP:21B9bTO BAR OVER RIGHTWARDS ARROW TO BAR
:21BCaHARPOON WITH BARB UPWARDSdDOWNWARDS:21C6aARROW OVER RIGHTWARDS ARROWaPAIRED ARROWS
:21CBaHARPOON OVER RIGHTWARDS HARPOON:21CDaDOUBLE ARROW WITH STROKE:21D0c:21DAaTRIPLE ARROW
:21DCaSQUIGGLE ARROW:21E0aDASHED ARROW:21E4aARROW TO BAR:21E6aWHITE ARROW
:21F7aARROW WITH VERTICAL STROKE:21FAcDOUBLE VERTICAL STROKE:21FDaOPEN-HEADED ARROW
:2902aDOUBLE ARROW WITH VERTICAL STROKE:2906cFROM BAR:290CbDASH ARROW:290EaTRIPLE DASH ARROW
:2919aARROW-TAIL:291BaDOUBLE ARROW-TAIL:291DaARROW TO BLACK DIAMOND:291FbFROM BAR TO BLACK DIAMOND
:2943bABOVE SHORT RIGHTWARDS ARROW:2946bWITH PLUS BELOW:2952aHARPOON WITH BARB UP TO BAR
:2956dDOWN TO BAR:295AdUP FROM BAR:295EdDOWN FROM BAR
:2962dUP ABOVE LEFTWARDS HARPOON WITH BARB DOWN:2966fRIGHTWARDS HARPOON WITH BARB UP
dDOWN ABOVE RIGHTWARDS HARPOON WITH BARB DOWN:296AdUP ABOVE LONG DASHdDOWN BELOW LONG DASH
:2973aARROW ABOVE TILDE OPERATOR:2977bTHROUGH LESS-THAN:297AcSUBSET:2B05aBLACK ARROW
:2B10aARROW WITH TIP DOWNWARDSdUPWARDS:2B34aTWO-HEADED ARROW WITH VERTICAL STROKE
dDOUBLE VERTICAL STROKEcFROM BARbTRIPLE DASH ARROWaARROW WITH DOTTED STEM
cTAIL WITH VERTICAL STROKEeDOUBLE VERTICAL STROKEaTWO-HEADED ARROW WITH TAILeWITH VERTICAL STROKE
fDOUBLE VERTICAL STROKEaARROW THROUGH X:2B42bABOVE REVERSE ALMOST EQUAL TO:2B45aQUADRUPLE ARROW
:2B4AaARROW ABOVE ALMOST EQUAL TOcREVERSE TILDE OPERATOR:2B60aTRIANGLE-HEADED ARROW
:2B6AbDASHED ARROW:2B70bARROW TO BAR:2B7AcWITH DOUBLE HORIZONTAL STROKE:2B7AeVERTICAL STROKE
:2B80cOVER RIGHTWARDS TRIANGLE-HEADED ARROW:2B84bPAIRED ARROWS:2B88aBLACK CIRCLED WHITE ARROW
:2BA4aTRIANGLE-HEADED ARROW WITH LONG TIP UPWARDS:2BA6fDOWNWARDS
:2BECaTWO-HEADED ARROW WITH TRIANGLE ARROWHEADS:1F66CaROCKET
:1F800aARROW WITH SMALL TRIANGLE ARROWHEAD:1F804cMEDIUM TRIANGLE ARROWHEAD
:1F808cLARGE TRIANGLE ARROWHEAD:1F810cSMALL EQUILATERAL ARROWHEAD:1F814cEQUILATERAL ARROWHEAD
:1F820aTRIANGLE-HEADED ARROW WITH NARROW SHAFT:1F824dMEDIUM SHAFT:1F828dBOLD SHAFT
:1F82CdHEAVY SHAFT:1F830dVERY HEAVY SHAFT:1F834aFINGER-POST ARROW:1F838aSQUARED ARROW
:1F83CaCOMPRESSED ARROW:1F840aHEAVY COMPRESSED ARROW:1F844bARROW:1F850aSANS-SERIF ARROW
:1F890aTRIANGLE ARROWHEAD:1F894aWHITE ARROW WITHIN TRIANGLE ARROWHEAD
:1F898aARROW WITH NOTCHED TAIL:1F8A0aBOTTOM-SHADED WHITE ARROW:1F8A2aTOP SHADED WHITE ARROW
:1F8A4aLEFT-SHADED WHITE ARROW:1F8A6aRIGHT-SHADED WHITE ARROW
:1F8A8aBACK-TILTED SHADOWED WHITE ARROW:1F8AAaFRONT-TILTED SHADOWED WHITE ARROW:1FAF2aHAND
:1FBB5aARROW AND UPPER AND LOWER ONE EIGHTH BLOCK=cG:1F9B5a=cMON:1F34Ba=cO:264Ca=dPARD:1F406a
=cPCHA:1C00aLETTER KAbKLAbKHAbGAbGLAbNGAbCAbCHAbJAbNYAbTAbTHAbDAbNAbPAbPLAbPHAbFAbFLAbBAbBLAbMA
bMLAbTSAbTSHAbDZAbYAbRAbLAbHAbHLAbVAbSAbSHAbWAbAaSUBJOINED LETTER YAcRAaVOWEL SIGN AAcIcOcOOcUcUU
cEaCONSONANT SIGN KcMcLcNcPcRcTcNYIN-DOcKANGaSIGN RANbNUKTA:1C3BaPUNCTUATION TA-ROL
bNYET THYOOM TA-ROLbCER-WAbTSHOOK CER-WAcaDIGIT ZERObONEbTWObTHREEbFOURbFIVEbSIXbSEVENbEIGHTbNINE
:1C4DaLETTER TTAbTTHAbDDA=cSS-THAN:3CaSIGN:2264aOR EQUAL TO:2266aOVER EQUAL TO
:2268aBUT NOT EQUAL TO:2272aOR EQUIVALENT TO:2276bGREATER-THAN:22D6aWITH DOT
:22DAaEQUAL TO OR GREATER-THAN:22E6aBUT NOT EQUIVALENT TO:2976aABOVE LEFTWARDS ARROW
:2A79aWITH CIRCLE INSIDE:2A7BbQUESTION MARK ABOVE:2A7DaOR SLANTED EQUAL TO:2A7FeWITH DOT INSIDE
:2A81gABOVE:2A83hRIGHT:2A85bAPPROXIMATE:2A87aAND SINGLE-LINE NOT EQUAL TO:2A89bNOT APPROXIMATE
:2A8BaABOVE DOUBLE-LINE EQUAL ABOVE GREATER-THAN:2A8DbSIMILAR OR EQUAL:2A8FcABOVE GREATER-THAN
:2A91bGREATER-THAN ABOVE DOUBLE-LINE EQUAL
:2A93bSLANTED EQUAL ABOVE GREATER-THAN ABOVE SLANTED EQUAL:2AA6aCLOSED BY CURVE
:2AA8dABOVE SLANTED EQUAL=cVEL:1F39AaSLIDER=bF:Aa=bIBRA:264Ea=cGATURE:1F672aOPEN ET ORNAMENT
=dHT:2591aSHADE:2758aVERTICAL BAR:2772aLEFT TORTOISE SHELL BRACKET ORNAMENT
aRIGHT TORTOISE SHELL BRACKET ORNAMENT:2BCCaFOUR POINTED BLACK CUSP:1F5F8aCHECK MARK:1F688aRAIL
:1F78EaWHITE SQUARE:1F7A2aGREEK CROSS:1F7A9aSALTIRE:1F7AFaFIVE SPOKED ASTERISK
:1F7B5aSIX SPOKED ASTERISK:1F7BBaEIGHT SPOKED ASTERISK:1F7C0aTHREE POINTED BLACK STAR
:1F7C4aFOUR POINTED BLACK STAR:1F7C9aFIVE POINTED BLACK STAR:1F7D2aTWELVE POINTED BLACK STAR
=fNING:2607a:1F5F1aMOOD BUBBLEb=cMBU:1900aVOWEL-CARRIER LETTERaLETTER KAbKHAbGAbGHAbNGAbCAbCHAbJA
bJHAbYANbTAbTHAbDAbDHAbNAbPAbPHAbBAbBHAbMAbYAbRAbLAbWAbSHAbSSAbSAbHAbGYANbTRA:1920aVOWEL SIGN AcI
cUcEEcAIcOOcAUcEcOaSUBJOINED LETTER YAcRAcWA:1930aSMALL LETTER KAcNGAcANUSVARAcTAcNAcPAcMAcRAcLA
aSIGN MUKPHRENGbKEMPHRENGbSA-I:1940bLOO:1944aEXCLAMATION MARKaQUESTION MARKaDIGIT ZERObONEbTWO
bTHREEbFOURbFIVEbSIXbSEVENbEIGHTbNINE=dITED:32CFaLIABILITY SIGN=cNE:AaFEEDaTABULATION:8AbSET
:2028aSEPARATOR:2A12aINTEGRATION WITH RECTANGULAR PATH AROUND POLEcSEMICIRCULAR PATH AROUND POLE
bNOT INCLUDING THE POLE=eAR:10000aB SYLLABLE B008 AcB038 EcB028 IcB061 OcB010 UcB001 DAcB045 DE
cB007 DIcB014 DOcB051 DUcB057 JAcB046 JE:1000DcB036 JOcB065 JUcB077 KAcB044 KEcB067 KIcB070 KO
cB081 KUcB080 MAcB013 MEcB073 MIcB015 MOcB023 MUcB006 NAcB024 NEcB030 NIcB052 NOcB055 NUcB003 PA
cB072 PEcB039 PIcB011 POcB050 PUcB016 QAcB078 QEcB021 QIcB032 QO:10028cB060 RAcB027 REcB053 RI
cB002 ROcB026 RUcB031 SAcB009 SEcB041 SIcB012 SOcB058 SUcB059 TAcB004 TEcB037 TIcB005 TOcB069 TU
cB054 WAcB075 WEcB040 WIcB042 WO:1003CcB017 ZAcB074 ZE:1003FcB020 ZOcB025 A2cB043 A3cB085 AU
cB071 DWEcB090 DWOcB048 NWAcB029 PU2cB062 PTEcB076 RA2cB033 RA3cB068 RO2cB066 TA2cB087 TWE
cB091 TWO:10050bSYMBOL B018cB019cB022cB034cB047cB049cB056cB063cB064cB079cB082cB083cB086cB089
:10080bIDEOGRAM B100 MANcB102 WOMANcB104 DEERcB105 EQUIDcB105F MAREcB105M STALLIONcB106F EWE
cB106M RAMcB107F SHE-GOATcB107M HE-GOATcB108F SOWcB108M BOARcB109F COWcB109M BULLcB120 WHEAT
cB121 BARLEYcB122 OLIVEcB123 SPICEcB125 CYPERUSbMONOGRAM B127 KAPOcB128 KANAKObIDEOGRAM B130 OIL
cB131 WINEcB132bMONOGRAM B133 AREPAcB135 MERIbIDEOGRAM B140 BRONZEcB141 GOLDcB142cB145 WOOLcB146
cB150cB151 HORNcB152cB153cB154bMONOGRAM B156 TURO2bIDEOGRAM B157cB158cB159 CLOTHcB160cB161
cB162 GARMENTcB163 ARMOURcB164cB165cB166cB167cB168cB169cB170cB171cB172cB173 MONTHcB174cB176 TREE
cB177cB178cB179cB180cB181cB182cB183cB184cB185cB189cB190cB191 HELMETcB220 FOOTSTOOLcB225 BATHTUB
cB230 SPEARcB231 ARROWcB232cB233 SWORDcB234cB236cB240 WHEELED CHARIOTcB241 CHARIOT
cB242 CHARIOT FRAMEcB243 WHEELcB245cB246bMONOGRAM B247 DIPTEbIDEOGRAM B248cB249cB251cB252cB253
cB254 DARTcB255cB256cB257cB258cB259cVESSEL B155dB200dB201dB202dB203dB204dB205dB206dB207dB208dB209
dB210dB211dB212dB213dB214dB215dB216dB217dB218dB219dB221dB222dB226dB227dB228dB229dB250dB305
:10600aA SIGN AB001cAB002cAB003cAB004cAB005cAB006cAB007cAB008cAB009cAB010cAB011cAB013cAB016cAB017
cAB020cAB021cAB021FcAB021McAB022cAB022FcAB022McAB023cAB023McAB024cAB026cAB027cAB028cA028BcAB029
cAB030cAB031cAB034cAB037cAB038cAB039cAB040cAB041cAB044cAB045cAB046cAB047cAB048cAB049cAB050cAB051
cAB053cAB054cAB055cAB056cAB057cAB058cAB059cAB060cAB061cAB065cAB066cAB067cAB069cAB070cAB073cAB074
cAB076cAB077cAB078cAB079cAB080cAB081cAB082cAB085cAB086cAB087cA100-102cAB118cAB120cA120BcAB122
cAB123cAB131AcAB131BcA131CcAB164cAB171cAB180cAB188cAB191cA301cA302cA303cA304cA305cA306cA307cA308
cA309AcA309BcA309CcA310cA311cA312cA313AcA313BcA313CcA314cA315cA316cA317cA318cA319cA320cA321cA322
cA323cA324cA325cA326cA327cA328cA329cA330cA331cA332cA333cA334cA335cA336cA337cA338cA339cA340cA341
cA342cA343cA344cA345cA346cA347cA348cA349cA350cA351cA352cA353cA354cA355cA356cA357cA358cA359cA360
cA361cA362cA363cA364cA365cA366cA367cA368cA369cA370cA371cA400-VAScA401-VAScA402-VAScA403-VAS
cA404-VAScA405-VAScA406-VAScA407-VAScA408-VAScA409-VAScA410-VAScA411-VAScA412-VAScA413-VAS
cA414-VAScA415-VAScA416-VAScA417-VAScA418-VAScA501cA502cA503cA504cA505cA506cA508cA509cA510cA511
cA512cA513cA515cA516cA520cA521cA523cA524cA525cA526cA527cA528cA529cA530cA531cA532cA534cA535cA536
cA537cA538cA539cA540cA541cA542cA545cA547cA548cA549cA550cA551cA552cA553cA554cA555cA556cA557cA559
cA563cA564cA565cA566cA568cA569cA570cA571cA572cA573cA574cA575cA576cA577cA578cA579cA580cA581cA582
cA583cA584cA585cA586cA587cA588cA589cA591cA592cA594cA595cA596cA598cA600cA601cA602cA603cA604cA606
cA608cA609cA610cA611cA612cA613cA614cA615cA616cA617cA618cA619cA620cA621cA622cA623cA624cA626cA627
cA628cA629cA634cA637cA638cA640cA642cA643cA644cA645cA646cA648cA649cA651cA652cA653cA654cA655cA656
cA657cA658cA659cA660cA661cA662cA663cA664:10740cA701 AcA702 BcA703 DcA704 EcA705 FcA706 HcA707 J
cA708 KcA709 LcA709-2 L2cA709-3 L3cA709-4 L4cA709-6 L6cA710 WcA711 XcA712 YcA713 OMEGAcA714 ABB
cA715 BBcA717 DDcA726 EYYYcA732 JE:10760cA800cA801cA802cA803cA804cA805cA806cA807=dK:1F517aSYMBOL
=eED:1F587aPAPERCLIPS=cON:1F981aFACE=cPS:1F5E2a=eTICK:1F484a=cRA:20A4aSIGN=cSU:A4D0aLETTER BAbPA
bPHAbDAbTAbTHAbGAbKAbKHAbJAbCAbCHAbDZAbTSAbTSHAbMAbNAbLAbSAbZHAbZAbNGAbHAbXAbHHAbFAbWAbSHAbYAbGHA
bAbAEbEbEUbIbObUbUEbUHbOEbTONE MYA TIcNA POcMYA CYAdBOdNAdJEUaPUNCTUATION COMMAbFULL STOP
:11FB0aLETTER YHA=cVRE:20B6aTOURNOIS SIGN=cZARD:1F98Ea=bLAMA:1F999a=bOBSTER:1F99Ea
=cCK:1F50FaWITH INK PEN:1F512a=eING-SHIFT:EaONEaZERO=cGICAL:2227aANDaOR:2A51aAND WITH DOT ABOVE
aOR WITH DOT ABOVE:2A59bOVERLAPPING LOGICAL ANDaAND WITH MIDDLE STEMaOR WITH MIDDLE STEM
aAND WITH HORIZONTAL DASHaOR WITH HORIZONTAL DASHaAND WITH DOUBLE OVERBARcUNDERBARcDOUBLE UNDERBAR
:2A62aOR WITH DOUBLE OVERBARdUNDERBAR=cLLIPOP:1F36Da=cNG:27CCaDIVISION:27DDaRIGHT TACKaLEFT TACK
:27F5aLEFTWARDS ARROWaRIGHTWARDS ARROWaLEFT RIGHT ARROWaLEFTWARDS DOUBLE ARROW
aRIGHTWARDS DOUBLE ARROWaLEFT RIGHT DOUBLE ARROWaLEFTWARDS ARROW FROM BAR
aRIGHTWARDS ARROW FROM BARaLEFTWARDS DOUBLE ARROW FROM BARaRIGHTWARDS DOUBLE ARROW FROM BAR
bSQUIGGLE ARROW:2AE6aDASH FROM LEFT MEMBER OF DOUBLE VERTICAL:2B33aLEFTWARDS SQUIGGLE ARROW
:1FA98aDRUM=cTION:1F9F4aBOTTLE=dUS:1FAB7a=cUDLY:1F62DaCRYING FACE=cVE:1F3E9aHOTEL:1F48CaLETTER
=cW:5FaLINE:204EaASTERISK:2E47aKAVYKAbWITH DOT:301FaDOUBLE PRIME QUOTATION MARK
:1F505aBRIGHTNESS SYMBOL:1FAABaBATTERY=dER:2581aONE EIGHTH BLOCKbQUARTER BLOCKaTHREE EIGHTHS BLOCK
aHALF BLOCKaFIVE EIGHTHS BLOCKaTHREE QUARTERS BLOCKaSEVEN EIGHTHS BLOCK
:25DBaHALF INVERSE WHITE CIRCLE:25DEaRIGHT QUADRANT CIRCULAR ARCaLEFT QUADRANT CIRCULAR ARC
:25E1aHALF CIRCLE:25FAaLEFT TRIANGLE:25FFaRIGHT TRIANGLE:2703aBLADE SCISSORS:270EaRIGHT PENCIL
:274FbDROP-SHADOWED WHITE SQUARE:2751bSHADOWED WHITE SQUARE:27D3bCORNER WITH DOT
:293EbSEMICIRCULAR CLOCKWISE ARROWaLEFT SEMICIRCULAR ANTICLOCKWISE ARROW
:1F53EaRIGHT SHADOWED WHITE CIRCLE:1F589aLEFT PENCILbBALLPOINT PENbFOUNTAIN PENbPAINTBRUSHbCRAYON
:1FB3CbBLOCK DIAGONAL LOWER MIDDLE LEFT TO LOWER CENTREiRIGHTdUPPER MIDDLE LEFT TO LOWER CENTRE
iRIGHTeLEFT TO LOWER CENTREaRIGHT BLOCK DIAGONAL UPPER MIDDLE LEFT TO UPPER CENTREiRIGHT
dLOWER MIDDLE LEFT TO UPPER CENTREiRIGHTeLEFT TO UPPER CENTREeMIDDLE LEFT TO UPPER MIDDLE RIGHT
eCENTRE TO LOWER MIDDLE RIGHTeLEFT TO LOWER MIDDLE RIGHTeCENTRE TO UPPER MIDDLE RIGHT
eLEFT TO UPPER MIDDLE RIGHTeCENTRE TO UPPER RIGHT
aLEFT BLOCK DIAGONAL UPPER CENTRE TO UPPER MIDDLE RIGHTeLEFT TO UPPER MIDDLE RIGHT
eCENTRE TO LOWER MIDDLE RIGHTeLEFT TO LOWER MIDDLE RIGHTeCENTRE TO LOWER RIGHT
eMIDDLE LEFT TO LOWER MIDDLE RIGHT:1FB6FaTRIANGULAR ONE QUARTER BLOCK:1FB8FaHALF MEDIUM SHADE
:1FB9EaRIGHT TRIANGULAR MEDIUM SHADEaLEFT TRIANGULAR MEDIUM SHADE=cZENGE:25CAa
:27E0aDIVIDED BY HORIZONTAL RULE=bRE:202Aa=cI:2066a=cM:200Ea=cO:202Da=bUGGAGE:1F9F3a=cNGS:1FAC1a
=bYCIAN:10280aLETTER AbEbBbBHbGbDbIbWbZbTHbJbKbQbLbMbNbMMbNNbUbPbKKbRbSbTbTTbANbENbHbX
=cDIAN:10920aLETTER AbBbGbDbEbVbIbYbKbLbMbNbObRbSSbTbUbFbQbSbTTbANbENbLYbNNbC
:1093FaTRIANGULAR MARK=cING:1F925aFACE=aMACRON:AFa=cGE:1F9D9a=dIC:1FA84aWAND=dNET:1F9F2a
=cHAJANI:11150aLETTER AbIbUbEbObKAbKHAbGAbGHAbCAbCHAbJAbJHAbNYAbTTAbTTHAbDDAbDDHAbNNAbTAbTHAbDA
bDHAbNAbPAbPHAbBAbBHAbMAbRAbLAbVAbSAbHAbRRAaSIGN NUKTAaABBREVIATION SIGNaSECTION MARK
aLIGATURE SHRI=dJONG:1F000aTILE EAST WINDbSOUTH WINDbWEST WINDbNORTH WINDbRED DRAGONbGREEN DRAGON
bWHITE DRAGONbONE OF CHARACTERSbTWO OF CHARACTERSbTHREE OF CHARACTERSbFOUR OF CHARACTERS
bFIVE OF CHARACTERSbSIX OF CHARACTERSbSEVEN OF CHARACTERSbEIGHT OF CHARACTERSbNINE OF CHARACTERS
bONE OF BAMBOOSbTWO OF BAMBOOSbTHREE OF BAMBOOSbFOUR OF BAMBOOSbFIVE OF BAMBOOSbSIX OF BAMBOOS
bSEVEN OF BAMBOOSbEIGHT OF BAMBOOSbNINE OF BAMBOOSbONE OF CIRCLESbTWO OF CIRCLESbTHREE OF CIRCLES
bFOUR OF CIRCLESbFIVE OF CIRCLESbSIX OF CIRCLESbSEVEN OF CIRCLESbEIGHT OF CIRCLESbNINE OF CIRCLES
bPLUMbORCHIDbBAMBOObCHRYSANTHEMUMbSPRINGbSUMMERbAUTUMNbWINTERbJOKERbBACK=cKASAR:11EE0aLETTER KAbGA
bNGAbPAbBAbMAbTAbDAbNAbCAbJAbNYAbYAbRAbLAbVAbSAbAaANGKAaVOWEL SIGN IcUcEcOaPASSIMBANG
aEND OF SECTION=cLAYALAM:D00aSIGN COMBINING ANUSVARA ABOVEbCANDRABINDUbANUSVARAbVISARGA
aLETTER VEDIC ANUSVARAbAbAAbIbIIbUbUUbVOCALIC RcL:D0EbEbEEbAI:D12bObOObAUbKAbKHAbGAbGHAbNGAbCAbCHA
bJAbJHAbNYAbTTAbTTHAbDDAbDDHAbNNAbTAbTHAbDAbDHAbNAbNNNAbPAbPHAbBAbBHAbMAbYAbRAbRRAbLAbLLAbLLLAbVA
bSHAbSSAbSAbHAbTTTAaSIGN VERTICAL BAR VIRAMAbCIRCULAR VIRAMAbAVAGRAHAaVOWEL SIGN AAcIcIIcUcUU
cVOCALIC RdRR:D46cEcEEcAI:D4AcOcOOcAUaSIGN VIRAMAaLETTER DOT REPHaSIGN PARA:D54aLETTER CHILLU McY
cLLLaAU LENGTH MARKaFRACTION ONE ONE-HUNDRED-AND-SIXTIETHcFORTIETHbTHREE EIGHTIETHSbONE TWENTIETH
cTENTHbTHREE TWENTIETHSbONE FIFTHaLETTER ARCHAIC IIbVOCALIC RRcLLaVOWEL SIGN VOCALIC LdLL
:D66aDIGIT ZERObONEbTWObTHREEbFOURbFIVEbSIXbSEVENbEIGHTbNINEaNUMBER TENbONE HUNDREDcTHOUSAND
aFRACTION ONE QUARTERcHALFbTHREE QUARTERSbONE SIXTEENTHcEIGHTHbTHREE SIXTEENTHSaDATE MARK
aLETTER CHILLU NNcNcRRcLcLLcK=dE:2642aSIGN:26A5aAND FEMALE SIGNaWITH STROKE SIGN
cAND MALE AND FEMALE SIGN=dTESE:2720aCROSS=cMMOTH:1F9A3a=cN:1F468a:1F46BaAND WOMAN HOLDING HANDS
:1F472aWITH GUA PI MAObTURBAN:1F574aIN BUSINESS SUIT LEVITATING:1F57AaDANCING:1F935aIN TUXEDO
=dAT:20BCaSIGN=dDAIC:840aLETTER HALQAbABbAGbADbAHbUSHENNAbAZbITbATTbAKSAbAKbALbAMbANbASbINbAPbASZ
bAQbARbASHbATbDUSHENNAbKADbAINaAFFRICATION MARKaVOCALIZATION MARKaGEMINATION MARK:85EaPUNCTUATION
=dGO:1F96Da=dICHAEAN:10AC0aLETTER ALEPHbBETHbBHETHbGIMELbGHIMELbDALETHbHEbWAWaSIGN UDaLETTER ZAYIN
bZHAYINbJAYINbJHAYINbHETHbTETHbYODHbKAPHbXAPHbKHAPHbLAMEDHbDHAMEDHbTHAMEDHbMEMbNUNbSAMEKHbAYIN
bAAYINbPEbFEbSADHEbQOPHbXOPHbQHOPHbRESHbSHINbSSHINbTAWaABBREVIATION MARK ABOVEcBELOW
:10AEBaNUMBER ONEbFIVEbTENbTWENTYbONE HUNDREDaPUNCTUATION STARbFLEURONbDOUBLE DOT WITHIN DOT
bDOT WITHIN DOTcbTWO DOTSbLINE FILLER=dS:1F45EaSHOE=dTELPIECE:1F570aCLOCK=dUAL:1F9BDaWHEELCHAIR
=cP:26EFaSYMBOL FOR LIGHTHOUSE=dLE:1F341aLEAF=cRCHEN:11C70aHEAD MARKaMARK SHADaLETTER KAbKHAbGA
bNGAbCAbCHAbJAbNYAbTAbTHAbDAbNAbPAbPHAbBAbMAbTSAbTSHAbDZAbWAbZHAbZAb-AbYAbRAbLAbSHAbSAbHAbA
:11C92aSUBJOINED LETTER KAcKHAcGAcNGAcCAcCHAcJAcNYAcTAcTHAcDAcNAcPAcPHAcBAcMAcTSAcTSHAcDZAcWAcZHA
cZA:11CA9cYAcRAcLAcSHAcSAcHAcAaVOWEL SIGN AAcIcUcEcOaSIGN ANUSVARAbCANDRABINDU=dRIAGE:26ADaSYMBOL
=dTIAL:1F94BaARTS UNIFORM=cSARAM:11D00aGONDI LETTER AcAAcIcIIcUcUUcE:11D08cAIcO:11D0BcAUcKAcKHAcGA
cGHAcNGAcCAcCHAcJAcJHAcNYAcTTAcTTHAcDDAcDDHAcNNAcTAcTHAcDAcDHAcNAcPAcPHAcBAcBHAcMAcYAcRAcLAcVAcSHA
cSSAcSAcHAcLLAcKSSAcJNYAcTRAbVOWEL SIGN AAdIdIIdUdUUdVOCALIC R:11D3AdE:11D3CdAIdO:11D3FdAU
bSIGN ANUSVARAcVISARGAcNUKTAcCANDRAcHALANTAbVIRAMAbREPHAbRA-KARA:11D50bDIGIT ZEROcONEcTWOcTHREE
cFOURcFIVEcSIXcSEVENcEIGHTcNINE=dCULINE:BAaORDINAL INDICATOR=dK:1F1ADaWORK SYMBOL=dU:303CaMARK
=cTE:1F9C9aDRINK=dHEMATICAL:27CBaRISING DIAGONAL:27CDaFALLING DIAGONAL
:27E6aLEFT WHITE SQUARE BRACKETaRIGHT WHITE SQUARE BRACKETaLEFT ANGLE BRACKETaRIGHT ANGLE BRACKET
aLEFT DOUBLE ANGLE BRACKETaRIGHT DOUBLE ANGLE BRACKETaLEFT WHITE TORTOISE SHELL BRACKET
aRIGHT WHITE TORTOISE SHELL BRACKETaLEFT FLATTENED PARENTHESISaRIGHT FLATTENED PARENTHESIS
:1D400aBOLD CAPITAL AcBcCcDcEcFcGcHcIcJcKcLcMcNcOcPcQcRcScTcUcVcWcXcYcZbSMALL AcBcCcDcEcFcGcHcIcJ
cKcLcMcNcOcPcQcRcScTcUcVcWcXcYcZaITALIC CAPITAL AcBcCcDcEcFcGcHcIcJcKcLcMcNcOcPcQcRcScTcUcVcWcXcY
cZbSMALL AcBcCcDcEcFcG:1D456cIcJcKcLcMcNcOcPcQcRcScTcUcVcWcXcYcZaBOLD ITALIC CAPITAL AdBdCdDdEdFdG
dHdIdJdKdLdMdNdOdPdQdRdSdTdUdVdWdXdYdZcSMALL AdBdCdDdEdFdGdHdIdJdKdLdMdNdOdPdQdRdSdTdUdVdWdXdYdZ
aSCRIPT CAPITAL A:1D49EcCcD:1D4A2cG:1D4A5cJcK:1D4A9cNcOcPcQ:1D4AEcScTcUcVcWcXcYcZbSMALL AcBcCcD
:1D4BBcF:1D4BDcHcIcJcKcLcMcN:1D4C5cPcQcRcScTcUcVcWcXcYcZaBOLD SCRIPT CAPITAL AdBdCdDdEdFdGdHdIdJdK
dLdMdNdOdPdQdRdSdTdUdVdWdXdYdZcSMALL AdBdCdDdEdFdGdHdIdJdKdLdMdNdOdPdQdRdSdTdUdVdWdXdYdZ
aFRAKTUR CAPITAL AcB:1D507cDcEcFcG:1D50DcJcKcLcMcNcOcPcQ:1D516cScTcUcVcWcXcY:1D51EbSMALL AcBcCcDcE
cFcGcHcIcJcKcLcMcNcOcPcQcRcScTcUcVcWcXcYcZaDOUBLE-STRUCK CAPITAL AcB:1D53BcDcEcFcG:1D540cIcJcKcLcM
:1D546cO:1D54AcScTcUcVcWcXcY:1D552bSMALL AcBcCcDcEcFcGcHcIcJcKcLcMcNcOcPcQcRcScTcUcVcWcXcYcZ
aBOLD FRAKTUR CAPITAL AdBdCdDdEdFdGdHdIdJdKdLdMdNdOdPdQdRdSdTdUdVdWdXdYdZcSMALL AdBdCdDdEdFdGdHdI
dJdKdLdMdNdOdPdQdRdSdTdUdVdWdXdYdZaSANS-SERIF CAPITAL AcBcCcDcEcFcGcHcIcJcKcLcMcNcOcPcQcRcScTcUcV
cWcXcYcZbSMALL AcBcCcDcEcFcGcHcIcJcKcLcMcNcOcPcQcRcScTcUcVcWcXcYcZbBOLD CAPITAL AdBdCdDdEdFdGdHdI
dJdKdLdMdNdOdPdQdRdSdTdUdVdWdXdYdZcSMALL AdBdCdDdEdFdGdHdIdJdKdLdMdNdOdPdQdRdSdTdUdVdWdXdYdZ
bITALIC CAPITAL AdBdCdDdEdFdGdHdIdJdKdLdMdNdOdPdQdRdSdTdUdVdWdXdYdZcSMALL AdBdCdDdEdFdGdHdIdJdKdL
dMdNdOdPdQdRdSdTdUdVdWdXdYdZbBOLD ITALIC CAPITAL AeBeCeDeEeFeGeHeIeJeKeLeMeNeOePeQeReSeTeUeVeWeXeY
eZdSMALL AeBeCeDeEeFeGeHeIeJeKeLeMeNeOePeQeReSeTeUeVeWeXeYeZaMONOSPACE CAPITAL AcBcCcDcEcFcGcHcIcJ
cKcLcMcNcOcPcQcRcScTcUcVcWcXcYcZbSMALL AcBcCcDcEcFcGcHcIcJcKcLcMcNcOcPcQcRcScTcUcVcWcXcYcZ
aITALIC SMALL DOTLESS IdJ:1D6A8aBOLD CAPITAL ALPHAcBETAcGAMMAcDELTAcEPSILONcZETAcETAcTHETAcIOTA
cKAPPAcLAMDAcMUcNUcXIcOMICRONcPIcRHOcTHETA SYMBOLcSIGMAcTAUcUPSILONcPHIcCHIcPSIcOMEGAbNABLA
bSMALL ALPHAcBETAcGAMMAcDELTAcEPSILONcZETAcETAcTHETAcIOTAcKAPPAcLAMDAcMUcNUcXIcOMICRONcPIcRHO
cFINAL SIGMAcSIGMAcTAUcUPSILONcPHIcCHIcPSIcOMEGAbPARTIAL DIFFERENTIALbEPSILON SYMBOLbTHETA SYMBOL
bKAPPA SYMBOLbPHI SYMBOLbRHO SYMBOLbPI SYMBOLaITALIC CAPITAL ALPHAcBETAcGAMMAcDELTAcEPSILONcZETA
cETAcTHETAcIOTAcKAPPAcLAMDAcMUcNUcXIcOMICRONcPIcRHOcTHETA SYMBOLcSIGMAcTAUcUPSILONcPHIcCHIcPSI
cOMEGAbNABLAbSMALL ALPHAcBETAcGAMMAcDELTAcEPSILONcZETAcETAcTHETAcIOTAcKAPPAcLAMDAcMUcNUcXIcOMICRON
cPIcRHOcFINAL SIGMAcSIGMAcTAUcUPSILONcPHIcCHIcPSIcOMEGAbPARTIAL DIFFERENTIALbEPSILON SYMBOL
bTHETA SYMBOLbKAPPA SYMBOLbPHI SYMBOLbRHO SYMBOLbPI SYMBOLaBOLD ITALIC CAPITAL ALPHAdBETAdGAMMA
dDELTAdEPSILONdZETAdETAdTHETAdIOTAdKAPPAdLAMDAdMUdNUdXIdOMICRONdPIdRHOdTHETA SYMBOLdSIGMAdTAU
dUPSILONdPHIdCHIdPSIdOMEGAcNABLAcSMALL ALPHAdBETAdGAMMAdDELTAdEPSILONdZETAdETAdTHETAdIOTAdKAPPA
dLAMDAdMUdNUdXIdOMICRONdPIdRHOdFINAL SIGMAdSIGMAdTAUdUPSILONdPHIdCHIdPSIdOMEGA
cPARTIAL DIFFERENTIALcEPSILON SYMBOLcTHETA SYMBOLcKAPPA SYMBOLcPHI SYMBOLcRHO SYMBOLcPI SYMBOL
aSANS-SERIF BOLD CAPITAL ALPHAdBETAdGAMMAdDELTAdEPSILONdZETAdETAdTHETAdIOTAdKAPPAdLAMDAdMUdNUdXI
dOMICRONdPIdRHOdTHETA SYMBOLdSIGMAdTAUdUPSILONdPHIdCHIdPSIdOMEGAcNABLAcSMALL ALPHAdBETAdGAMMA
dDELTAdEPSILONdZETAdETAdTHETAdIOTAdKAPPAdLAMDAdMUdNUdXIdOMICRONdPIdRHOdFINAL SIGMAdSIGMAdTAU
dUPSILONdPHIdCHIdPSIdOMEGAcPARTIAL DIFFERENTIALcEPSILON SYMBOLcTHETA SYMBOLcKAPPA SYMBOL
cPHI SYMBOLcRHO SYMBOLcPI SYMBOLcITALIC CAPITAL ALPHAeBETAeGAMMAeDELTAeEPSILONeZETAeETAeTHETAeIOTA
eKAPPAeLAMDAeMUeNUeXIeOMICRONePIeRHOeTHETA SYMBOLeSIGMAeTAUeUPSILONePHIeCHIePSIeOMEGAdNABLA
dSMALL ALPHAeBETAeGAMMAeDELTAeEPSILONeZETAeETAeTHETAeIOTAeKAPPAeLAMDAeMUeNUeXIeOMICRONePIeRHO
eFINAL SIGMAeSIGMAeTAUeUPSILONePHIeCHIePSIeOMEGAdPARTIAL DIFFERENTIALdEPSILON SYMBOLdTHETA SYMBOL
dKAPPA SYMBOLdPHI SYMBOLdRHO SYMBOLdPI SYMBOLaBOLD CAPITAL DIGAMMAbSMALL DIGAMMA:1D7CEbDIGIT ZERO
cONEcTWOcTHREEcFOURcFIVEcSIXcSEVENcEIGHTcNINEaDOUBLE-STRUCK DIGIT ZEROcONEcTWOcTHREEcFOURcFIVEcSIX
cSEVENcEIGHTcNINEaSANS-SERIF DIGIT ZEROcONEcTWOcTHREEcFOURcFIVEcSIXcSEVENcEIGHTcNINE
bBOLD DIGIT ZEROdONEdTWOdTHREEdFOURdFIVEdSIXdSEVENdEIGHTdNINEaMONOSPACE DIGIT ZEROcONEcTWOcTHREE
cFOURcFIVEcSIXcSEVENcEIGHTcNINE=cXIMIZE:1F5D6a=cYAN:1D2E0aNUMERAL ZERObONEbTWObTHREEbFOURbFIVEbSIX
bSEVENbEIGHTbNINEbTENbELEVENbTWELVEbTHIRTEENbFOURTEENbFIFTEENbSIXTEENbSEVENTEENbEIGHTEENbNINETEEN
=bEASURED:2221aANGLE:225EaBY:299BaANGLE OPENING LEFT:299DaRIGHT ANGLE WITH DOT
:29A8aANGLE WITH OPEN ARM ENDING IN ARROW POINTING UP AND RIGHTkLEFTiDOWN AND RIGHTkLEFT
iRIGHT AND UPiLEFT AND UPiRIGHT AND DOWNiLEFT AND DOWN=dT:1F356aON BONE=cCHANICAL:1F9BEaARMaLEG
=cDEFAIDRIN:16E40aCAPITAL LETTER McScVcWcATIUcZcKPcPcTcGcFcIcKcAcJcEcBcCcUcYUcLcQcH:16E56cHPcNG
:16E57cNYcXcDcOEcNcRcOcAIcYaSMALL LETTER McScVcWcATIUcZcKPcPcTcGcFcIcKcAcJcEcBcCcUcYUcLcQcH
:16E76cHPcNG:16E77cNYcXcDcOEcNcRcOcAIcYaDIGIT ZERObONEbTWObTHREEbFOURbFIVEbSIXbSEVENbEIGHTbNINE
aNUMBER TENbELEVENbTWELVEbTHIRTEENbFOURTEENbFIFTEENbSIXTEENbSEVENTEENbEIGHTEENbNINETEEN
aDIGIT ONE ALTERNATE FORMbTWO ALTERNATE FORMbTHREE ALTERNATE FORMaCOMMAaFULL STOPaSYMBOL AIVA
aEXCLAMATION OH=dIEVAL:2E4CaCOMMA:2E53aEXCLAMATION MARKaQUESTION MARK=eUM:205FaMATHEMATICAL SPACE
:2592aSHADE:26AAaWHITE CIRCLEaBLACK CIRCLEaSMALL WHITE CIRCLE:2759aVERTICAL BAR
:2768aLEFT PARENTHESIS ORNAMENTaRIGHT PARENTHESIS ORNAMENTaFLATTENED LEFT PARENTHESIS ORNAMENT
bRIGHT PARENTHESIS ORNAMENTaLEFT-POINTING ANGLE BRACKET ORNAMENT
aRIGHT-POINTING ANGLE BRACKET ORNAMENT:2774aLEFT CURLY BRACKET ORNAMENT
aRIGHT CURLY BRACKET ORNAMENT:1F785aBOLD WHITE CIRCLE:1F78FaWHITE SQUARE:1F7A3aGREEK CROSS
:1F7AAaSALTIRE:1F7B0aFIVE SPOKED ASTERISK:1F7B6aSIX SPOKED ASTERISK:1F7BCaEIGHT SPOKED ASTERISK
:1F7C1aTHREE POINTED BLACK STAR:1F7C3cPINWHEEL STAR:1F7C5aFOUR POINTED BLACK STAR
:1F7C7cPINWHEEL STAR:1F7CBaSIX POINTED BLACK STAR:1F7CEaEIGHT POINTED BLACK STAR
=cETEI:AAE0aMAYEK LETTER EcOcCHAcNYAcTTAcTTHAcDDAcDDHAcNNAcSHAcSSAbVOWEL SIGN IIdUUdAAIdAUdAAU
bCHEIKHANbAHANG KHUDAMbANJIbSYLLABLE REPETITION MARKbWORD REPETITION MARKbVOWEL SIGN VISARGA
bVIRAMA:ABC0bLETTER KOKcSAMcLAIcMITcPAcNAcCHILcTILcKHOUcNGOUcTHOUcWAIcYANGcHUKcUNcIcPHAMcATIYAcGOK
cJHAMcRAIcBAcJILcDILcGHOUcDHOUcBHAMcKOK LONSUMcLAI LONSUMcMIT LONSUMcPA LONSUMcNA LONSUM
cTIL LONSUMcNGOU LONSUMcI LONSUMbVOWEL SIGN ONAPdINAPdANAPdYENAPdSOUNAPdUNAPdCHEINAPdNUNGbCHEIKHEI
bLUM IYEKbAPUN IYEK:ABF0bDIGIT ZEROcONEcTWOcTHREEcFOURcFIVEcSIXcSEVENcEIGHTcNINE=cLON:1F348a
=dTING:1FAE0aFACE=cMO:1F4DDa=cNDE:1E800aKIKAKUI SYLLABLE M001 KIcM002 KAcM003 KUcM065 KEEcM095 KE
cM076 KOOcM048 KOcM179 KUAcM004 WIcM005 WAcM006 WUcM126 WEEcM118 WEcM114 WOOcM045 WOcM194 WUI
cM143 WEIcM061 WVIcM049 WVAcM139 WVEcM007 MINcM008 MANcM009 MUNcM059 MENcM094 MONcM154 MUAN
cM189 MUENcM010 BIcM011 BAcM012 BUcM150 BEEcM097 BEcM103 BOOcM138 BOcM013 IcM014 AcM015 UcM163 EE
cM100 EcM165 OOcM147 OcM137 EIcM131 INcM135 INcM195 ANcM178 ENcM019 SIcM020 SAcM021 SUcM162 SEE
cM116 SEcM136 SOOcM079 SOcM196 SIAcM025 LIcM026 LAcM027 LUcM084 LEEcM073 LEcM054 LOOcM153 LO
cM110 LONG LEcM016 DIcM017 DAcM018 DUcM089 DEEcM180 DOOcM181 DOcM022 TIcM023 TAcM024 TUcM091 TEE
cM055 TEcM104 TOOcM069 TOcM028 JIcM029 JAcM030 JUcM157 JEEcM113 JEcM160 JOOcM063 JOcM175 LONG JO
cM031 YIcM032 YAcM033 YUcM109 YEEcM080 YEcM141 YOOcM121 YOcM034 FIcM035 FAcM036 FUcM078 FEE
cM075 FEcM133 FOOcM088 FOcM197 FUAcM101 FANcM037 NINcM038 NANcM039 NUNcM117 NENcM169 NONcM176 HI
cM041 HAcM186 HUcM040 HEEcM096 HEcM042 HOOcM140 HOcM083 HEEIcM128 HOOUcM053 HINcM130 HANcM087 HUN
cM052 HENcM193 HONcM046 HUANcM090 NGGIcM043 NGGAcM082 NGGUcM115 NGGEEcM146 NGGEcM156 NGGOO
cM120 NGGOcM159 NGGAAcM127 NGGUAcM086 LONG NGGEcM106 LONG NGGOOcM183 LONG NGGOcM155 GIcM111 GA
cM168 GUcM190 GEEcM166 GUEIcM167 GUANcM184 NGENcM057 NGONcM177 NGUANcM068 PIcM099 PAcM050 PU
cM081 PEEcM051 PEcM102 POOcM066 POcM145 MBIcM062 MBAcM122 MBUcM047 MBEEcM188 MBEEcM072 MBE
cM172 MBOOcM174 MBOcM187 MBUUcM161 LONG MBEcM105 LONG MBOOcM142 LONG MBOcM132 KPIcM092 KPA
cM074 KPUcM044 KPEEcM108 KPEcM112 KPOOcM158 KPOcM124 GBIcM056 GBAcM148 GBUcM093 GBEEcM107 GBE
cM071 GBOOcM070 GBOcM171 RAcM123 NDIcM129 NDAcM125 NDUcM191 NDEEcM119 NDEcM067 NDOOcM064 NDO
cM152 NJAcM192 NJUcM149 NJEEcM134 NJOOcM182 VIcM185 VAcM151 VUcM173 VEEcM085 VEcM144 VOOcM077 VO
cM164 NYINcM058 NYANcM170 NYUNcM098 NYENcM060 NYON:1E8C7bDIGIT ONEcTWOcTHREEcFOURcFIVEcSIXcSEVEN
cEIGHTcNINEbCOMBINING NUMBER TEENSdTENSdHUNDREDSdTHOUSANDSdTEN THOUSANDSdHUNDRED THOUSANDS
dMILLIONS=dORAH:1F54EaWITH NINE BRANCHES=dS:1F6B9aSYMBOL=cRCURY:263Fa
=dOITIC:10980aHIEROGLYPHIC LETTER AcEcIcOcYAcWAcBAcBA-2cPAcMAcNAcNA-2cNEcNE-2cRAcRA-2cLAcKHAcHHA
cSAcSA-2cSEcKAcQAcTAcTA-2cTEcTE-2cTOcDAbSYMBOL VIDJcVIDJ-2aCURSIVE LETTER AcEcIcOcYAcWAcBAcPAcMA
cNAcNEcRAcLAcKHAcHHAcSAcARCHAIC SAcSEcKAcQAcTAcTEcTOcDA:109BCbFRACTION ELEVEN TWELFTHScONE HALF
bLOGOGRAM RMTcIMNbNUMBER ONEcTWOcTHREEcFOURcFIVEcSIXcSEVENcEIGHTcNINEcTENcTWENTYcTHIRTYcFORTY
cFIFTYcSIXTYcSEVENTY:109D2cONE HUNDREDcTWO HUNDREDcTHREE HUNDREDcFOUR HUNDREDcFIVE HUNDRED
cSIX HUNDREDcSEVEN HUNDREDcEIGHT HUNDREDcNINE HUNDREDcONE THOUSANDcTWO THOUSANDcTHREE THOUSAND
cFOUR THOUSANDcFIVE THOUSANDcSIX THOUSANDcSEVEN THOUSANDcEIGHT THOUSANDcNINE THOUSANDcTEN THOUSAND
cTWENTY THOUSANDcTHIRTY THOUSANDcFORTY THOUSANDcFIFTY THOUSANDcSIXTY THOUSANDcSEVENTY THOUSAND
cEIGHTY THOUSANDcNINETY THOUSANDcONE HUNDRED THOUSANDcTWO HUNDRED THOUSANDcTHREE HUNDRED THOUSAND
cFOUR HUNDRED THOUSANDcFIVE HUNDRED THOUSANDcSIX HUNDRED THOUSANDcSEVEN HUNDRED THOUSAND
cEIGHT HUNDRED THOUSANDcNINE HUNDRED THOUSANDbFRACTION ONE TWELFTHcTWO TWELFTHScTHREE TWELFTHS
cFOUR TWELFTHScFIVE TWELFTHScSIX TWELFTHScSEVEN TWELFTHScEIGHT TWELFTHScNINE TWELFTHScTEN TWELFTHS
=dPERSON:1F9DCa=cSSAGE:95aWAITING=cTRICAL:23D1aBREVEaLONG OVER SHORTaSHORT OVER LONG
aLONG OVER TWO SHORTSaTWO SHORTS OVER LONGcJOINEDaTRISEMEaTETRASEMEaPENTASEME=eO:1F687a
=bIAO:16F00aLETTER PAbBAbYI PAbPLAbMAbMHAbARCHAIC MAbFAbVAbVFAbTAbDAbYI TTAcTAbTTAbDDAbNAbNHA
bYI NNAbARCHAIC NAbNNAbNNHAbLAbLYAbLHAbLHYAbTLHAbDLHAbTLHYAbDLHYAbKAbGAbYI KAbQAbQGAbNGAbNGHA
bARCHAIC NGAbHAbXAbGHAbGHHAbTSSAbDZZAbNYAbNYHAbTSHAbDZHAbYI TSHAcDZHAbREFORMED TSHAbSHAbSSAbZHA
bZSHAbTSAbDZAbYI TSAbSAbZAbZSAbZZAbZZSAbARCHAIC ZZAbZZYAbZZSYAbWAbAHbHHAbBRIbSYIbDZYIbTEbTSEbRTE
:16F4FaSIGN CONSONANT MODIFIER BARaLETTER NASALIZATIONaSIGN ASPIRATIONbREFORMED VOICINGcASPIRATION
aVOWEL SIGN AcAAcAHHcANcANGcOcOOcWOcWcEcENcENGcOEYcIcIAcIANcIANGcIOcIEcIIcIUcINGcUcUAcUANcUANGcUU
cUEIcUNGcYcYIcAEcAEEcERRcROUNDED ERRcERcROUNDED ERcAIcEIcAUcOUcNcNGcUOGcYUIcOGcOERcVWcIGcEAcIONG
cUI:16F8FaTONE RIGHTbTOP RIGHTbABOVEbBELOWaLETTER TONE-2bTONE-3bTONE-4bTONE-5bTONE-6bTONE-7bTONE-8
bREFORMED TONE-1cTONE-2cTONE-4cTONE-5cTONE-6cTONE-8=cCR:2448aON US SYMBOLaDASH SYMBOL=eO:B5aSIGN
=fBE:1F9A0a=fPHONE:1F3A4a=fSCOPE:1F52Ca=cDDLE:B7aDOT:1FBC2aTHIRD WHITE RIGHT POINTING INDEX
=dLINE:22EFaHORIZONTAL ELLIPSIS=cLITARY:1F396aMEDAL:1FA96aHELMET=dKY:1F30CaWAY=dL:20A5aSIGN
=cNIBUS:1F690a=eDISC:1F4BDa=eMIZE:1F5D5a=dUS:2212aSIGN:2242aTILDE:2A29aSIGN WITH COMMA ABOVE
cDOT BELOWcFALLING DOTScRISING DOTS:2A3AbIN TRIANGLE=f-OR-PLUS:2213aSIGN=dY:29FFa=cRROR:1FA9Ea
:1FAA9aBALL=bMSP:205Fa=bOBILE:1F4F1aPHONEbWITH RIGHTWARDS ARROW AT LEFT:1F4F4bOFF=cDELS:22A7a
=eRN:1F93BaPENTATHLON=dI:11600aLETTER AbAAbIbIIbUbUUbVOCALIC RcRRcLcLLbEbAIbObAUbKAbKHAbGAbGHAbNGA
bCAbCHAbJAbJHAbNYAbTTAbTTHAbDDAbDDHAbNNAbTAbTHAbDAbDHAbNAbPAbPHAbBAbBHAbMAbYAbRAbLAbVAbSHAbSSAbSA
bHAbLLAaVOWEL SIGN AAcIcIIcUcUUcVOCALIC RdRRdLdLLcEcAIcOcAUaSIGN ANUSVARAbVISARGAbVIRAMA
bARDHACANDRAaDANDAaDOUBLE DANDAaABBREVIATION SIGNaSIGN HUVA:11650aDIGIT ZERObONEbTWObTHREEbFOUR
bFIVEbSIXbSEVENbEIGHTbNINE=eFIER:2B0aLETTER SMALL HdWITH HOOKcJcRcTURNED ReWITH HOOK
cCAPITAL INVERTED RcWcYbPRIMEbDOUBLE PRIMEbTURNED COMMAbAPOSTROPHEbREVERSED COMMAbRIGHT HALF RING
bLEFT HALF RINGbGLOTTAL STOPbREVERSED GLOTTAL STOPbLEFT ARROWHEADbRIGHT ARROWHEADbUP ARROWHEAD
bDOWN ARROWHEADbCIRCUMFLEX ACCENT:2C8bVERTICAL LINEbMACRONbACUTE ACCENTbGRAVE ACCENT
bLOW VERTICAL LINEcMACRONcGRAVE ACCENTcACUTE ACCENTbTRIANGULAR COLONbHALF TRIANGULAR COLON
bCENTRED RIGHT HALF RINGcLEFT HALF RINGbUP TACKbDOWN TACKbPLUS SIGNbMINUS SIGN:2DEbRHOTIC HOOK
bCROSS ACCENTbSMALL GAMMAcLcScXcREVERSED GLOTTAL STOPbEXTRA-HIGH TONE BARbHIGH TONE BAR
bMID TONE BARbLOW TONE BARbEXTRA-LOW TONE BARbYIN DEPARTING TONE MARKbYANG DEPARTING TONE MARK
bVOICINGbUNASPIRATEDbDOUBLE APOSTROPHEbLOW DOWN ARROWHEADcUP ARROWHEADcLEFT ARROWHEAD
cRIGHT ARROWHEADcRINGbMIDDLE GRAVE ACCENTcDOUBLE GRAVE ACCENTdACUTE ACCENTbLOW TILDEbRAISED COLON
bBEGIN HIGH TONEbEND HIGH TONEbBEGIN LOW TONEbEND LOW TONEbSHELFbOPEN SHELFbLOW LEFT ARROW
:10FCbGEORGIAN NAR:1D2CbCAPITAL AcAEcBcBARRED BcDcEcREVERSED EcGcHcIcJcKcLcMcNcREVERSED NcOcOUcPcR
cTcUcWbSMALL AcTURNED AcALPHAcTURNED AEcBcDcEcSCHWAcOPEN EcTURNED OPEN EcGcTURNED IcKcMcENGcO
cOPEN OcTOP HALF OcBOTTOM HALF OcPcTcUcSIDEWAYS UcTURNED McVcAINcBETAcGREEK GAMMAcDELTAcGREEK PHI
cCHI:1D78bCYRILLIC EN:1D9BbSMALL TURNED ALPHAcCdWITH CURLcETHcREVERSED OPEN EcF
cDOTLESS J WITH STROKEcSCRIPT GcTURNED HcI WITH STROKEcIOTAcCAPITAL IeWITH STROKE
cJ WITH CROSSED-TAILcL WITH RETROFLEX HOOKePALATAL HOOKcCAPITAL LcM WITH HOOK
cTURNED M WITH LONG LEGcN WITH LEFT HOOKeRETROFLEX HOOKcCAPITAL NcBARRED OcPHIcS WITH HOOKcESH
cT WITH PALATAL HOOKcU BARcUPSILONcCAPITAL UcV WITH HOOKcTURNED VcZdWITH RETROFLEX HOOKeCURLcEZH
cTHETA:2C7DbCAPITAL V:A69CbCYRILLIC HARD SIGNcSOFT SIGN:A700bCHINESE TONE YIN PINGdYANG PING
dYIN SHANGdYANG SHANGdYIN QUdYANG QUdYIN RUdYANG RUbEXTRA-HIGH DOTTED TONE BAR
bHIGH DOTTED TONE BARbMID DOTTED TONE BARbLOW DOTTED TONE BARbEXTRA-LOW DOTTED TONE BAR
bEXTRA-HIGH DOTTED LEFT-STEM TONE BARbHIGH DOTTED LEFT-STEM TONE BARbMID DOTTED LEFT-STEM TONE BAR
bLOW DOTTED LEFT-STEM TONE BARbEXTRA-LOW DOTTED LEFT-STEM TONE BARbEXTRA-HIGH LEFT-STEM TONE BAR
bHIGH LEFT-STEM TONE BARbMID LEFT-STEM TONE BARbLOW LEFT-STEM TONE BAR
bEXTRA-LOW LEFT-STEM TONE BARbDOT VERTICAL BARcSLASHcHORIZONTAL BARbLOWER RIGHT CORNER ANGLE
bRAISED UP ARROWcDOWN ARROWcEXCLAMATION MARKcINVERTED EXCLAMATION MARK
bLOW INVERTED EXCLAMATION MARKbSTRESS AND HIGH TONEdLOW TONE:A770bUS:A788bLOW CIRCUMFLEX ACCENT
bCOLONbSHORT EQUALS SIGN:A7F2bCAPITAL CcFcQ:A7F8cH WITH STROKEbSMALL LIGATURE OE
:AB5BaBREVE WITH INVERTED BREVEaLETTER SMALL HENGcL WITH INVERTED LAZY SeMIDDLE TILDE
cU WITH LEFT HOOK:AB69cTURNED WbLEFT TACKbRIGHT TACK:10780bSMALL CAPITAL AA
bSUPERSCRIPT TRIANGULAR COLONcHALF TRIANGULAR COLONbSMALL AEcCAPITAL BcB WITH HOOK
:10787cDZ DIGRAPHeWITH RETROFLEX HOOKfCURLcDEZH DIGRAPHcD WITH TAILeHOOKfAND TAILcREVERSED E
cCLOSED REVERSED OPEN EcFENG DIGRAPHcRAMS HORNcCAPITAL GcG WITH HOOKcCAPITAL G WITH HOOK
cH WITH STROKEcCAPITAL HcHENG WITH HOOKcDOTLESS J WITH STROKE AND HOOKcLS DIGRAPHcLZ DIGRAPH
cL WITH BELTcCAPITAL L WITH BELTcL WITH RETROFLEX HOOK AND BELTcLEZHdWITH RETROFLEX HOOKcTURNED Y
eWITH BELTcO WITH STROKEcCAPITAL OEcCLOSED OMEGAcQcTURNED R WITH LONG LEGhAND RETROFLEX HOOK
cR WITH TAILeFISHHOOKcCAPITAL RcTC DIGRAPH WITH CURLcTS DIGRAPHeWITH RETROFLEX HOOKcTESH DIGRAPH
cT WITH RETROFLEX HOOKcV WITH RIGHT HOOK:107B2cCAPITAL YbGLOTTAL STOP WITH STROKE
bREVERSED GLOTTAL STOP WITH STROKEbBILABIAL CLICKbDENTAL CLICKbLATERAL CLICKbALVEOLAR CLICK
bRETROFLEX CLICK WITH RETROFLEX HOOKbSMALL S WITH CURL=dULO:2A0AaTWO SUM=cNEY:1F4B0aBAG
:1F4B8aWITH WINGS=f-MOUTH:1F911aFACE=dGOLIAN:1800aBIRGAaELLIPSISaCOMMAaFULL STOPaCOLONaFOUR DOTS
aTODO SOFT HYPHENaSIBE SYLLABLE BOUNDARY MARKERaMANCHU COMMAbFULL STOPaNIRUGU
aFREE VARIATION SELECTOR ONEdTWOdTHREEaVOWEL SEPARATORaFREE VARIATION SELECTOR FOURaDIGIT ZERObONE
bTWObTHREEbFOURbFIVEbSIXbSEVENbEIGHTbNINE:1820aLETTER AbEbIbObUbOEbUEbEEbNAbANGbBAbPAbQAbGAbMAbLA
bSAbSHAbTAbDAbCHAbJAbYAbRAbWAbFAbKAbKHAbTSAbZAbHAAbZRAbLHAbZHIbCHIbTODO LONG VOWEL SIGNcEcIcOcUcOE
cUEcANGcBAcPAcQAcGAcMAcTAcDAcCHAcJAcTSAcYAcWAcKAcGAAcHAAcJIAcNIAcDZAbSIBE EcIcIYcUEcUcANGcKAcGAcHA
cPAcSHAcTAcDAcJAcFAcGAAcHAAcTSAcZAcRAAcCHAcZHAbMANCHU IcKAcRAcFAcZHAbCHA WITH TWO DOTS
:1880bALI GALI ANUSVARA ONEdVISARGA ONEdDAMARUdUBADAMAdINVERTED UBADAMAdBALUDAdTHREE BALUDAdAdIdKA
dNGAdCAdTTAdTTHAdDDAdNNAdTAdDAdPAdPHAdSSAdZHAdZAdAHbTODO ALI GALI TAeZHAbMANCHU ALI GALI GHAeNGA
eCAeJHAeTTAeDDHAeTAeDHAeSSAeCYAeZHAeZAbALI GALI HALF UeYAbMANCHU ALI GALI BHAbALI GALI DAGALGA
bMANCHU ALI GALI LHA:11660aBIRGA WITH ORNAMENTaROTATED BIRGAaDOUBLE BIRGA WITH ORNAMENT
aTRIPLE BIRGA WITH ORNAMENTaBIRGA WITH DOUBLE ORNAMENTaROTATED BIRGA WITH ORNAMENTdDOUBLE ORNAMENT
aINVERTED BIRGAcWITH DOUBLE ORNAMENTaSWIRL BIRGAcWITH ORNAMENTdDOUBLE ORNAMENT
aTURNED SWIRL BIRGA WITH DOUBLE ORNAMENT=dKEY:1F412a:1F435aFACE=dOGRAM:268AaFOR YANGbYIN
:1D300bEARTH=eRAIL:1F69Da=eSTABLE:238DaSYMBOL=cOD:1F5F0aBUBBLE=dN:1F391aVIEWING CEREMONY
:1F96EaCAKE=cSQUE:1F54Ca=fITO:1F99Fa=cTHER:1F936aCHRISTMAS=dOR:1F6E5aBOAT:1F6F5aSCOOTER
=fIZED:1F9BCaWHEELCHAIR=fWAY:1F6E3a=cUNT:1F5FBaFUJI=fAIN:26F0a:1F69EaRAILWAY:1F6A0aCABLEWAY
:1F6B5aBICYCLIST=dSE:1F401a:1F42DaFACE:1FAA4aTRAP=dTH:1F444a=cVIE:1F3A5aCAMERA=cYAI:1F5FFa
=bRO:16A40aLETTER TAbNGIbYObMIMbBAbDAbAbPHIbKHAIbHAObDAIbCHUbKEAAEbOLbMAEMbNINbPAbOObObRObSHIbTHEA
bEAbWAbEbKObLANbLAbHAIbRIbTEK:16A60aDIGIT ZERObONEbTWObTHREEbFOURbFIVEbSIXbSEVENbEIGHTbNINE
:16A6EaDANDAaDOUBLE DANDA=bUCH:226AaLESS-THANaGREATER-THAN=cLTANI:11280aLETTER AbIbUbEbKAbKHAbGA
:11288bGHA:1128AbCAbCHAbJAbJJA:1128FbNYAbTTAbTTHAbDDAbDDDAbDDHAbNNAbTAbTHAbDAbDHAbNAbPAbPHAbBA
:1129FbBHAbMAbYAbRAbLAbVAbSAbHAbRRAbRHAaSECTION MARK=eIMAP:22B8a=fPLE:1F3B6aMUSICAL NOTES
=hICATION:D7aSIGN:2715aX:2A30aSIGN WITH DOT ABOVEcUNDERBAR:2A34bIN LEFT HALF CIRCLE
cRIGHT HALF CIRCLE:2A37cDOUBLE CIRCLE:2A3BcTRIANGLE=fSET:228CaaMULTIPLICATIONaUNION=cSHROOM:1F344a
=dIC:266DaFLAT SIGNaNATURAL SIGNaSHARP SIGN=fAL:1D100aSYMBOL SINGLE BARLINEbDOUBLE BARLINE
bFINAL BARLINEbREVERSE FINAL BARLINEbDASHED BARLINEbSHORT BARLINEbLEFT REPEAT SIGN
bRIGHT REPEAT SIGNbREPEAT DOTSbDAL SEGNObDA CAPObSEGNObCODAbREPEATED FIGURE-1cFIGURE-2cFIGURE-3
bFERMATAcBELOWbBREATH MARKbCAESURAbBRACEbBRACKETbONE-LINE STAFFbTWO-LINE STAFFbTHREE-LINE STAFF
bFOUR-LINE STAFFbFIVE-LINE STAFFbSIX-LINE STAFFbSIX-STRING FRETBOARDbFOUR-STRING FRETBOARDbG CLEF
dOTTAVA ALTAeBASSAbC CLEFbF CLEFdOTTAVA ALTAeBASSAbDRUM CLEF-1cCLEF-2:1D129bMULTIPLE MEASURE REST
bDOUBLE SHARPcFLATbFLAT UPcDOWNbNATURAL UPcDOWNbSHARP UPcDOWNbQUARTER TONE SHARPdFLATbCOMMON TIME
bCUT TIMEbOTTAVA ALTAcBASSAbQUINDICESIMA ALTAcBASSAbMULTI RESTbWHOLE RESTbHALF RESTbQUARTER REST
bEIGHTH RESTbSIXTEENTH RESTbTHIRTY-SECOND RESTbSIXTY-FOURTH RESTbONE HUNDRED TWENTY-EIGHTH REST
bX NOTEHEADbPLUS NOTEHEADbCIRCLE X NOTEHEADbSQUARE NOTEHEAD WHITEdBLACKbTRIANGLE NOTEHEAD UP WHITE
eBLACKdLEFT WHITEeBLACKdRIGHT WHITEeBLACKdDOWN WHITEeBLACKdUP RIGHT WHITEfBLACK
bMOON NOTEHEAD WHITEdBLACKbTRIANGLE-ROUND NOTEHEAD DOWN WHITEeBLACKbPARENTHESIS NOTEHEAD
bVOID NOTEHEADbNOTEHEAD BLACKbNULL NOTEHEADbCLUSTER NOTEHEAD WHITEdBLACKbBREVEbWHOLE NOTE
bHALF NOTEbQUARTER NOTEbEIGHTH NOTEbSIXTEENTH NOTEbTHIRTY-SECOND NOTEbSIXTY-FOURTH NOTE
bONE HUNDRED TWENTY-EIGHTH NOTEbCOMBINING STEMcSPRECHGESANG STEMcTREMOLO-1cTREMOLO-2cTREMOLO-3
bFINGERED TREMOLO-1cTREMOLO-2cTREMOLO-3bCOMBINING AUGMENTATION DOTcFLAG-1cFLAG-2cFLAG-3cFLAG-4
cFLAG-5bBEGIN BEAMbEND BEAMbBEGIN TIEbEND TIEbBEGIN SLURbEND SLURbBEGIN PHRASEbEND PHRASE
bCOMBINING ACCENTcSTACCATOcTENUTOcSTACCATISSIMOcMARCATOcMARCATO-STACCATOcACCENT-STACCATOcLOURE
bARPEGGIATO UPcDOWNbCOMBINING DOITcRIPcFLIPcSMEARcBENDcDOUBLE TONGUEcTRIPLE TONGUEbRINFORZANDO
bSUBITObZbPIANObMEZZObFORTEbCRESCENDObDECRESCENDObGRACE NOTE SLASHdNO SLASHbTRbTURNbINVERTED TURN
bTURN SLASHcUPbORNAMENT STROKE-1cSTROKE-2cSTROKE-3cSTROKE-4cSTROKE-5cSTROKE-6cSTROKE-7cSTROKE-8
cSTROKE-9cSTROKE-10cSTROKE-11bHAUPTSTIMMEbNEBENSTIMMEbEND OF STIMMEbDEGREE SLASH
bCOMBINING DOWN BOWcUP BOWcHARMONICcSNAP PIZZICATObPEDAL MARKcUP MARKbHALF PEDAL MARKbGLISSANDO UP
cDOWNbWITH FINGERNAILSbDAMPcALLbMAXIMAbLONGAbBREVISbSEMIBREVIS WHITEcBLACKbMINIMAcBLACK
bSEMIMINIMA WHITEcBLACKbFUSA WHITEcBLACKbLONGA PERFECTA RESTcIMPERFECTA RESTbBREVIS REST
bSEMIBREVIS RESTbMINIMA RESTbSEMIMINIMA RESTbTEMPUS PERFECTUM CUM PROLATIONE PERFECTAfIMPERFECTA
fPERFECTA DIMINUTION-1cIMPERFECTUM CUM PROLATIONE PERFECTAfIMPERFECTAgDIMINUTION-1gDIMINUTION-2
gDIMINUTION-3bCROIXbGREGORIAN C CLEFcF CLEFbSQUARE BbVIRGAbPODATUSbCLIVISbSCANDICUSbCLIMACUS
bTORCULUSbPORRECTUScFLEXUSbSCANDICUS FLEXUSbTORCULUS RESUPINUSbPES SUBPUNCTISbKIEVAN C CLEF
cEND OF PIECEcFINAL NOTEcRECITATIVE MARKcWHOLE NOTEcHALF NOTEcQUARTER NOTE STEM DOWNfUP
cEIGHTH NOTE STEM DOWNfUPcFLAT SIGNbSORIbKORON:1F398aKEYBOARD WITH JACKS:1F3B5aNOTE:1F3B9aKEYBOARD
:1F3BCaSCORE=bVS:180Ea=bW:95a=bYANMAR:1000aLETTER KAbKHAbGAbGHAbNGAbCAbCHAbJAbJHAbNYAbNNYAbTTA
bTTHAbDDAbDDHAbNNAbTAbTHAbDAbDHAbNAbPAbPHAbBAbBHAbMAbYAbRAbLAbWAbSAbHAbLLAbAbSHAN AbIbIIbUbUUbE
bMON EbObAUaVOWEL SIGN TALL AAcAAcIcIIcUcUUcEcAIcMON IIdOcE ABOVEaSIGN ANUSVARAbDOT BELOWbVISARGA
bVIRAMAbASATaCONSONANT SIGN MEDIAL YAdRAdWAdHAaLETTER GREAT SAaDIGIT ZERObONEbTWObTHREEbFOURbFIVE
bSIXbSEVENbEIGHTbNINEaSIGN LITTLE SECTIONbSECTIONaSYMBOL LOCATIVEbCOMPLETEDbAFOREMENTIONED
bGENITIVEaLETTER SHAbSSAbVOCALIC RcRRcLcLLaVOWEL SIGN VOCALIC RdRRdLdLLaLETTER MON NGAcJHAcBBAcBBE
aCONSONANT SIGN MON MEDIAL NAeMAeLAaLETTER SGAW KAREN SHAaVOWEL SIGN SGAW KAREN EU
aTONE MARK SGAW KAREN HATHIeKE PHOaLETTER WESTERN PWO KAREN THAePWA
aVOWEL SIGN WESTERN PWO KAREN EUfUEaSIGN WESTERN PWO KAREN TONE-1eTONE-2eTONE-3eTONE-4eTONE-5
aLETTER EASTERN PWO KAREN NNAeYWAeGHWAaVOWEL SIGN GEBA KAREN IcKAYAH OEdUdEEaLETTER SHAN KAcKHAcGA
cCAcZAcNYAcDAcNAcPHAcFAcBAcTHAcHAaCONSONANT SIGN SHAN MEDIAL WAaVOWEL SIGN SHAN AAdEeABOVEdFINAL Y
aSIGN SHAN TONE-2cTONE-3cTONE-5cTONE-6cCOUNCIL TONE-2dTONE-3dEMPHATIC TONEaLETTER RUMAI PALAUNG FA
aSIGN RUMAI PALAUNG TONE-5aSHAN DIGIT ZEROcONEcTWOcTHREEcFOURcFIVEcSIXcSEVENcEIGHTcNINE
aSIGN KHAMTI TONE-1cTONE-3aVOWEL SIGN AITON AdAIaSYMBOL SHAN ONEcEXCLAMATION:A9E0aLETTER SHAN GHA
cCHAcJHAcNNAcBHAaSIGN SHAN SAWaMODIFIER LETTER SHAN REDUPLICATIONaLETTER TAI LAING NYAdFAdGAdGHA
dJAdJHAdDDAdDDHAdNNAaTAI LAING DIGIT ZEROdONEdTWOdTHREEdFOURdFIVEdSIXdSEVENdEIGHTdNINE
aLETTER TAI LAING LLAdDAdDHAdBAdBHA:AA60bKHAMTI GAcCAcCHAcJAcJHAcNYAcTTAcTTHAcDDAcDDHAcDHAcNAcSA
cHAcHHA:AA6EcLLAcFAaMODIFIER LETTER KHAMTI REDUPLICATIONaLETTER KHAMTI XAcZAcRA
aLOGOGRAM KHAMTI OAYcQNcHMaSYMBOL AITON EXCLAMATIONcONEcTWOaLETTER AITON RAaSIGN PAO KAREN TONE
bTAI LAING TONE-2dTONE-5aLETTER SHWE PALAUNG CHAdSHA=aN-ARY:220FaPRODUCTaCOPRODUCTaSUMMATION
:22C0aLOGICAL ANDbORaINTERSECTIONaUNION:2A00aCIRCLED DOT OPERATORbPLUS OPERATORbTIMES OPERATOR
aUNION OPERATOR WITH DOTdPLUSaSQUARE INTERSECTION OPERATORbUNION OPERATOR:2A09aTIMES OPERATOR
:2AFFaWHITE VERTICAL BAR=bABATAEAN:10880aLETTER FINAL ALEPHbALEPHbFINAL BETHbBETHbGIMELbDALETH
bFINAL HEbHEbWAWbZAYINbHETHbTETHbFINAL YODHbYODHbFINAL KAPHbKAPHbFINAL LAMEDHbLAMEDHbFINAL MEMbMEM
bFINAL NUNbNUNbSAMEKHbAYINbPEbSADHEbQOPHbRESHbFINAL SHINbSHINbTAW:108A7aNUMBER ONEbTWObTHREEbFOUR
aCRUCIFORM NUMBER FOURaNUMBER FIVEbTENbTWENTYbONE HUNDRED=dLA:2207a=cIL:1F485aPOLISH=dRA:20A6aSIGN
=cK:15a=cME:1F4DBaBADGE=cND:22BCa=eINAGARI:119A0aLETTER AbAAbIbIIbUbUUbVOCALIC RcRR:119AAbEbAIbO
bAUbKAbKHAbGAbGHAbNGAbCAbCHAbJAbJHAbNYAbTTAbTTHAbDDAbDDHAbNNAbTAbTHAbDAbDHAbNAbPAbPHAbBAbBHAbMAbYA
bRAbLAbVAbSHAbSSAbSAbHAbLLAbRRAaVOWEL SIGN AAcIcIIcUcUUcVOCALIC RdRR:119DAcEcAIcOcAUaSIGN ANUSVARA
bVISARGAbVIRAMAbAVAGRAHAbSIDDHAMaHEADSTROKEaVOWEL SIGN PRISHTHAMATRA E=cRROW:202FaNO-BREAK SPACE
=cTIONAL:206EaDIGIT SHAPES:1F3DEaPARK=cUSEATED:1F922aFACE=cZAR:1F9FFaAMULET=bBH:83a=cSP:A0a
=bECKTIE:1F454a=cGATED:22AFaDOUBLE VERTICAL BAR DOUBLE RIGHT TURNSTILE=fIVE:15aACKNOWLEDGE
:24EBaCIRCLED NUMBER ELEVENcTWELVEcTHIRTEENcFOURTEENcFIFTEENcSIXTEENcSEVENTEENcEIGHTEENcNINETEEN
cTWENTY:24FFbDIGIT ZERO:274EaSQUARED CROSS MARK:1F150aCIRCLED LATIN CAPITAL LETTER AeBeCeDeEeFeGeH
eIeJeKeLeMeNeOePeQeReSeTeUeVeWeXeYeZ:1F170aSQUARED LATIN CAPITAL LETTER AeBeCeDeEeFeGeHeIeJeKeLeM
eNeOePeQeReSeTeUeVeWeXeYeZ:1F18BbICbPAbSAbABbWC:1F7D6aCIRCLED TRIANGLE:1F7D8bSQUARE
:1FBBDaDIAGONAL CROSSbMIDDLE RIGHT TO LOWER CENTREbDIAMOND:1FBC4aSQUARED QUESTION MARK
=cITHER:2247aAPPROXIMATELY NOR ACTUALLY EQUAL TO:2270aLESS-THAN NOR EQUAL TO
aGREATER-THAN NOR EQUAL TO:2274aLESS-THAN NOR EQUIVALENT TOaGREATER-THAN NOR EQUIVALENT TO
:2278aLESS-THAN NOR GREATER-THANaGREATER-THAN NOR LESS-THAN:2288aA SUBSET OF NOR EQUAL TO
bSUPERSET OF NOR EQUAL TO=cL:85a=cPTUNE:2646a:2BC9aFORM TWO=cRD:1F913aFACE=cSSUS:2BDCa
=dT:1FABAaWITH EGGS=eING:1FA86aDOLLS=cUTER:26B2a=eRAL:1F610aFACE:1FA00aCHESS KINGbQUEENbROOK
bBISHOPbKNIGHTbPAWN:1FA08bKNIGHT ROTATED FORTY-FIVE DEGREES:1FA15bKING ROTATED NINETY DEGREES
bQUEEN ROTATED NINETY DEGREESbROOK ROTATED NINETY DEGREESbBISHOP ROTATED NINETY DEGREES
bKNIGHT ROTATED NINETY DEGREESbPAWN ROTATED NINETY DEGREES
:1FA1DbKNIGHT ROTATED ONE HUNDRED THIRTY-FIVE DEGREES:1FA2AbTURNED KINGcQUEENcROOKcBISHOPcKNIGHT
cPAWN:1FA32bKNIGHT ROTATED TWO HUNDRED TWENTY-FIVE DEGREES
:1FA3FbKING ROTATED TWO HUNDRED SEVENTY DEGREESbQUEEN ROTATED TWO HUNDRED SEVENTY DEGREES
bROOK ROTATED TWO HUNDRED SEVENTY DEGREESbBISHOP ROTATED TWO HUNDRED SEVENTY DEGREES
bKNIGHT ROTATED TWO HUNDRED SEVENTY DEGREESbPAWN ROTATED TWO HUNDRED SEVENTY DEGREES
:1FA47bKNIGHT ROTATED THREE HUNDRED FIFTEEN DEGREES:1FA4AbEQUIHOPPER:1FA4DcROTATED NINETY DEGREES
=cW:AaLINE:1980aTAI LUE LETTER HIGH QAdLOW QAdHIGH KAeXAeNGAdLOW KAeXAeNGAdHIGH TSAeSAeYAdLOW TSA
eSAeYAdHIGH TAeTHAeNAdLOW TAeTHAeNAdHIGH PAePHAeMAdLOW PAePHAeMAdHIGH FAeVAeLAdLOW FAeVAeLA
dHIGH HAeDAeBAdLOW HAeDAeBAdHIGH KVAeXVAdLOW KVAeXVAdHIGH SUAdLOW SUA
:19B0cVOWEL SIGN VOWEL SHORTENEReAAeIIeUeUUeEeAEeOeOAeUEeAYeAAYeUYeOYeOAYeUEYeIYcLETTER FINAL VeNG
eNeMeKeDeBcTONE MARK-1dMARK-2:19D0cDIGIT ZEROdONEdTWOdTHREEdFOURdFIVEdSIXdSEVENdEIGHTdNINE
cTHAM DIGIT ONE:19DEcSIGN LAEdLAEV:20AAaSHEQEL SIGN:1F311aMOON SYMBOL:1F31AbWITH FACE
=dA:11400aLETTER AbAAbIbIIbUbUUbVOCALIC RcRRcLcLLbEbAIbObAUbKAbKHAbGAbGHAbNGAbNGHAbCAbCHAbJAbJHA
bNYAbNYHAbTTAbTTHAbDDAbDDHAbNNAbTAbTHAbDAbDHAbNAbNHAbPAbPHAbBAbBHAbMAbMHAbYAbRAbRHAbLAbLHAbWAbSHA
bSSAbSAbHAaVOWEL SIGN AAcIcIIcUcUUcVOCALIC RdRRdLdLLcEcAIcOcAUaSIGN VIRAMAbCANDRABINDUbANUSVARA
bVISARGAbNUKTAbAVAGRAHAbFINAL ANUSVARAaOMaSIDDHIaDANDAaDOUBLE DANDAaCOMMAaGAP FILLER
aABBREVIATION SIGNaDIGIT ZERObONEbTWObTHREEbFOURbFIVEbSIXbSEVENbEIGHTbNINEaDOUBLE COMMA
aPLACEHOLDER MARK:1145DaINSERTION SIGNaSANDHI MARKaLETTER VEDIC ANUSVARAaSIGN JIHVAMULIYA
bUPADHMANIYA=dLINE:2B92aLEFTaRIGHT=dSPAPER:1F4F0a=cXT:85aLINE:2398aPAGE=bIGHT:1F303aWITH STARS
=cNJA:1F977a=bKO:7C0aDIGIT ZERObONEbTWObTHREEbFOURbFIVEbSIXbSEVENbEIGHTbNINEaLETTER AbEEbIbEbUbOO
bObDAGBASINNAbNbBAbPAbTAbJAbCHAbDAbRAbRRAbSAbGBAbFAbKAbLAbNA WOLOSObMAbNYAbNAbHAbWAbYAbNYA WOLOSO
bJONA JAcCHAcRAaCOMBINING SHORT HIGH TONEcLOW TONEcRISING TONEbLONG DESCENDING TONEcHIGH TONE
cLOW TONEcRISING TONEbNASALIZATION MARKbDOUBLE DOT ABOVEaHIGH TONE APOSTROPHEaLOW TONE APOSTROPHE
aSYMBOL OO DENNENbGBAKURUNENaCOMMAaEXCLAMATION MARKaLAJANYALAN:7FDaDANTAYALANaDOROME SIGN
aTAMAN SIGN=bL:Aa=bNBSP:202Fa=bO:83aBREAK HERE:26D4aENTRY:1F4F5aMOBILE PHONES
:1F51EaONE UNDER EIGHTEEN SYMBOL:1F572aPIRACY:1F6ABaENTRY SIGN:1F6ADaSMOKING SYMBOL:1F6B3aBICYCLES
:1F6B7aPEDESTRIANS=c-BREAK:A0aSPACE=cMINAL:206FaDIGIT SHAPES=eSMA:1018EaSIGN
=cN-BREAKING:2011aHYPHEN=ePOTABLE:1F6B1aWATER SYMBOL=dFORKING:2ADDa=cR:22BDa=dDIC:20BBaMARK SIGN
=dMAL:22B2aSUBGROUP OF:22B4cOR EQUAL TO=dTH:2196aWEST ARROWaEAST ARROW:21B8aWEST ARROW TO LONG BAR
:21D6bDOUBLE ARROWaEAST DOUBLE ARROW:21F1aWEST ARROW TO CORNER:2921bAND SOUTH EAST ARROW
aEAST AND SOUTH WEST ARROWaWEST ARROW WITH HOOKaEAST ARROW WITH HOOK
:2927aWEST ARROW AND NORTH EAST ARROWaEAST ARROW AND SOUTH EAST ARROW
:292EcCROSSING SOUTH EAST ARROW:2931dNORTH WEST ARROWaWEST ARROW CROSSING NORTH EAST ARROW
:2B00aEAST WHITE ARROWaWEST WHITE ARROW:2B08aEAST BLACK ARROWaWEST BLACK ARROW
:2B66bTRIANGLE-HEADED ARROWaEAST TRIANGLE-HEADED ARROW:2B76aWEST TRIANGLE-HEADED ARROW TO BAR
aEAST TRIANGLE-HEADED ARROW TO BAR:A830aINDIC FRACTION ONE QUARTERdHALFcTHREE QUARTERS
cONE SIXTEENTHdEIGHTHcTHREE SIXTEENTHSbQUARTER MARKbPLACEHOLDER MARKbRUPEE MARKbQUANTITY MARK
:1F650aWEST POINTING LEAF:1F652aEAST POINTING LEAF:1F658aWEST POINTING VINE LEAF
:1F65AaEAST POINTING VINE LEAF:1F660aWEST POINTING BUD:1F662aEAST POINTING BUD
:1F854aWEST SANS-SERIF ARROWaEAST SANS-SERIF ARROW=fEAST-POINTING:1F6EAaAIRPLANE=cSE:1F443a
=cT:ACaSIGN:2209aAN ELEMENT OF:2226aPARALLEL TO:2241aTILDE:2244aASYMPTOTICALLY EQUAL TO
:2249aALMOST EQUAL TO:2260aEQUAL TO:2262aIDENTICAL TO:226DaEQUIVALENT TOaLESS-THANaGREATER-THAN
:2284aA SUBSET OFbSUPERSET OF:22ADaTRUE:22E2aSQUARE IMAGE OF OR EQUAL TObORIGINAL OF OR EQUAL TO
:22EAaNORMAL SUBGROUP OF:22ECdOR EQUAL TO:237BaCHECK MARK
=dCHED:27AFaLOWER RIGHT-SHADOWED WHITE RIGHTWARDS ARROW
:27B1aUPPER RIGHT-SHADOWED WHITE RIGHTWARDS ARROW:1F543aLEFT SEMICIRCLE WITH THREE DOTS
aRIGHT SEMICIRCLE WITH THREE DOTS=dE:1F5C8aaPAGEaPAD=eBOOK:1F4D3aaWITH DECORATIVE COVER=bUL:0a
=dL:0a=cMBER:23aSIGN:2491aTEN FULL STOPaELEVEN FULL STOPaTWELVE FULL STOPaTHIRTEEN FULL STOP
aFOURTEEN FULL STOPaFIFTEEN FULL STOPaSIXTEEN FULL STOPaSEVENTEEN FULL STOPaEIGHTEEN FULL STOP
aNINETEEN FULL STOPaTWENTY FULL STOP=dERO:2116aSIGN=cSHU:16FE1aITERATION MARK=cT:1F529aAND BOLT
=bYIAKENG:1E100aPUACHUE HMONG LETTER MAdTSAdNTAdTAdHAdNAdXAdNKAdCAdLAdSAdZAdNCAdNTSAdKAdDAdNYAdNRA
dVAdNTXAdTXAdFAdRAdQAdYAdNQAdPAdXYAdNPAdDLAdNPLAdHAHdMLAdPLAdGAdRRAdAdAAdIdUdOdOOdEdEEdW
:1E130cTONE-BcTONE-McTONE-JcTONE-VcTONE-ScTONE-GcTONE-DcSIGN FOR PERSONeTHINGeLOCATIONeANIMAL
eINVERTEBRATEdXW XWcSYLLABLE LENGTHENER:1E140cDIGIT ZEROdONEdTWOdTHREEdFOURdFIVEdSIXdSEVENdEIGHT
dNINE:1E14EcLOGOGRAM NYAJcCIRCLED CA=aOBJECT:FFFCaREPLACEMENT CHARACTER
=cLIQUE:29A6aANGLE OPENING UPcDOWN:2E5DaHYPHEN=cSERVER:23FFaEYE SYMBOL=bCR:2440aHOOKaCHAIRaFORK
aINVERTED FORKaBELT BUCKLEaBOW TIEaBRANCH BANK IDENTIFICATIONaAMOUNT OF CHECKaDASH
aCUSTOMER ACCOUNT NUMBERaDOUBLE BACKSLASH=cTAGONAL:1F6D1aSIGN=dOPUS:1F419a=bDEN:1F362a
=bFFICE:1F3E2aBUILDING=bGHAM:1680aSPACE MARKaLETTER BEITHbLUISbFEARNbSAILbNIONbUATHbDAIRbTINNE
bCOLLbCEIRTbMUINbGORTbNGEADALbSTRAIFbRUISbAILMbONNbURbEADHADHbIODHADHbEABHADHbORbUILLEANNbIFIN
bEAMHANCHOLLbPEITHaFEATHER MARKaREVERSED FEATHER MARK=cONEK:2DBa=bHM:2126aSIGN=bIL:1F6E2aDRUM
=bK:1F44CaHAND SIGN=bL:1C50aCHIKI DIGIT ZEROcONEcTWOcTHREEcFOURcFIVEcSIXcSEVENcEIGHTcNINE
bLETTER LAcATcAGcANGcALcLAAcAAKcAAJcAAMcAAWcLIcIScIHcINYcIRcLUcUCcUDcUNNcUYcLEcEPcEDDcENcERRcLO
cOTTcOBcOVcOHbMU TTUDDAGbGAAHLAA TTUDDAAGbMU-GAAHLAA TTUDDAAGbRELAAbPHAARKAAbAHAD
bPUNCTUATION MUCAADcDOUBLE MUCAAD=cD:10300aITALIC LETTER AcBEcKEcDEcEcVEcZEcHEcTHEcIcKAcELcEMcEN
cESHcOcPEcSHEcKUcERcEScTEcUcEKScPHEcKHEcEFcERScCHEcIIcUUcESSbNUMERAL ONEcFIVEcTENcFIFTY
:1032DbLETTER YEcNORTHERN TSEcSOUTHERN TSE:10350aPERMIC LETTER ANcBURcGAIcDOIcEcZHOIcDZHOIcZATA
cDZITAcIcKOKEcLEIcMENOEcNENOEcVOOIcPEEIcREIcSIIcTAIcUcCHERYcSHOOIcSHCHOOIcYRYcYERUcOcOOcEFcHAcTSIU
cVERcYERcYERIcYATcIEcYUcYAcIA:103A0aPERSIAN SIGN AcIcUcKAcKUcGAcGUcXAcCAcJAcJIcTAcTUcDAcDIcDUcTHA
cPAcBAcFAcNAcNUcMAcMIcMUcYAcVAcVIcRAcRUcLAcSAcZAcSHAcSSAcHA:103C8cAURAMAZDAAcAURAMAZDAA-2
cAURAMAZDAAHAcXSHAAYATHIYAcDAHYAAUSHcDAHYAAUSH-2cBAGAcBUUMISHbWORD DIVIDERbNUMBER ONEcTWOcTEN
cTWENTYcHUNDRED:10A60aSOUTH ARABIAN LETTER HEdLAMEDHdHETHdMEMdQOPHdWAWdSHINdRESHdBETHdTAWdSATdKAPH
dNUNdKHETHdSADHEdSAMEKHdFEdALEFdAYNdDHADHEdGIMELdDALETHdGHAYNdTETHdZAYNdDHALETHdYODHdTHAWdTHETH
cNUMBER ONEdFIFTYcNUMERIC INDICATORaNORTH ARABIAN LETTER HEHdLAMdHAHdMEEMdQAFdWAWdES-2dREHdBEHdTEH
dES-1dKAFdNOONdKHAHdSADdES-3dFEHdALEFdAINdDADdGEEMdDALdGHAINdTAHdZAINdTHALdYEHdTHEHdZAHcNUMBER ONE
dTENdTWENTY:10C00aTURKIC LETTER ORKHON AcYENISEI AdAEcORKHON IcYENISEI IdEcORKHON OdOEcYENISEI OE
cORKHON ABcYENISEI ABcORKHON AEBcYENISEI AEBcORKHON AGcYENISEI AGcORKHON AEGcYENISEI AEGcORKHON AD
cYENISEI ADcORKHON AEDdEZcYENISEI EZcORKHON AYcYENISEI AYcORKHON AEYcYENISEI AEYcORKHON AEK
cYENISEI AEKcORKHON OEKcYENISEI OEKcORKHON ALcYENISEI ALcORKHON AELdELTdEMdANdAENcYENISEI AEN
cORKHON ENTcYENISEI ENTcORKHON ENCcYENISEI ENCcORKHON ENYcYENISEI ENYdANGcORKHON ENGcYENISEI AENG
cORKHON EPdOPdICdECcYENISEI ECcORKHON AQcYENISEI AQcORKHON IQcYENISEI IQcORKHON OQcYENISEI OQ
cORKHON ARcYENISEI ARcORKHON AERdASdAESdASHcYENISEI ASHcORKHON ESHcYENISEI ESHcORKHON AT
cYENISEI ATcORKHON AETcYENISEI AETcORKHON OTdBASH:10C80aHUNGARIAN CAPITAL LETTER AdAAdEBdAMBdEC
dENCdECSdEDdANDdEdCLOSE EdEEdEFdEGdEGYdEHdIdIIdEJdEKdAKdUNKdELdELYdEMdENdENYdOdOOdNIKOLSBURG OE
dRUDIMENTA OEdOEEdEPdEMPdERdSHORT ERdESdESZdETdENTdETYdECHdUdUUdNIKOLSBURG UEdRUDIMENTA UEdEVdEZ
dEZSdENT-SHAPED SIGNdUS:10CC0bSMALL LETTER AdAAdEBdAMBdECdENCdECSdEDdANDdEdCLOSE EdEEdEFdEGdEGYdEH
dIdIIdEJdEKdAKdUNKdELdELYdEMdENdENYdOdOOdNIKOLSBURG OEdRUDIMENTA OEdOEEdEPdEMPdERdSHORT ERdESdESZ
dETdENTdETYdECHdUdUUdNIKOLSBURG UEdRUDIMENTA UEdEVdEZdEZSdENT-SHAPED SIGNdUS:10CFAbNUMBER ONEcFIVE
cTENcFIFTYcONE HUNDREDdTHOUSAND:10F00aSOGDIAN LETTER ALEPHcFINAL ALEPHcBETHcFINAL BETHcGIMELcHE
cFINAL HEcWAWcZAYINcHETHcYODHcKAPHcLAMEDHcMEMcNUNcFINAL NUNeWITH VERTICAL TAILcSAMEKHcAYIN
cALTERNATE AYINcPEcSADHEcFINAL SADHEeWITH VERTICAL TAILcRESH-AYIN-DALETHcSHINcTAWcFINAL TAW
eWITH VERTICAL TAILbNUMBER ONEcTWOcTHREEcFOURcFIVEcTENcTWENTYcTHIRTYcONE HUNDREDbFRACTION ONE HALF
bLIGATURE AYIN-DALETH:10F70aUYGHUR LETTER ALEPHcBETHcGIMEL-HETHcWAWcZAYINcFINAL HETHcYODHcKAPH
cLAMEDHcMEMcNUNcSAMEKHcPEcSADHEcRESHcSHINcTAWcLESHbCOMBINING DOT ABOVEdBELOWcTWO DOTS ABOVEeBELOW
bPUNCTUATION BARcTWO BARSdDOTScFOUR DOTS:16FE2aCHINESE HOOK MARKbITERATION MARK
:1F5B3aPERSONAL COMPUTER:1F5DDaKEY=dER:1F474aMANaWOMAN:1F9D3aADULT=cIVE:1FAD2a=bM:1F549aSYMBOL
=bN:1F51BaWITH EXCLAMATION MARK WITH LEFT RIGHT ARROW ABOVE=cCOMING:1F68DaBUS:1F694aPOLICE CAR
:1F696aTAXI:1F698aAUTOMOBILE:1F6F1aFIRE ENGINE=cE:2024aDOT LEADER:2E2BbOVER TWO DOTS PUNCTUATION
:1F5AFaBUTTON MOUSE=d-PIECE:1FA71aSWIMSUIT=cION:1F9C5a=bPEN:2423aBOX:271BaCENTRE CROSS
:272BbBLACK STAR:2732bASTERISK:273CbTEARDROP-SPOKED ASTERISK:27C3aSUBSETaSUPERSET:1F450aHANDS SIGN
:1F4C2aFILE FOLDER:1F4D6aBOOK:1F4ECaMAILBOX WITH RAISED FLAGcLOWERED FLAG:1F513aLOCK:1F5C1aFOLDER
=e-CIRCUIT-OUTPUT:238FaH-TYPE SYMBOLaL-TYPE SYMBOL=fOUTLINED:27BEaRIGHTWARDS ARROW
=dRATING:9DaSYSTEM COMMAND=cHIUCHUS:26CEa=cPOSITION:260Da=cTICAL:1F4BFaDISC:1F5B8bICON
=eON:2325aKEY=bR:27C7aWITH DOT INSIDE=cANGE:1F4D9aBOOK:1F9E1aHEART=fUTAN:1F9A7a=cIGINAL:22B6aOF
=dYA:B01aSIGN CANDRABINDUbANUSVARAbVISARGA:B05aLETTER AbAAbIbIIbUbUUbVOCALIC RcL:B0FbEbAI:B13bObAU
bKAbKHAbGAbGHAbNGAbCAbCHAbJAbJHAbNYAbTTAbTTHAbDDAbDDHAbNNAbTAbTHAbDAbDHAbNA:B2AbPAbPHAbBAbBHAbMA
bYAbRA:B32bLAbLLA:B35bVAbSHAbSSAbSAbHA:B3CaSIGN NUKTAbAVAGRAHAaVOWEL SIGN AAcIcIIcUcUUcVOCALIC R
dRR:B47cEcAI:B4BcOcAUaSIGN VIRAMA:B55bOVERLINEaAI LENGTH MARKaAU LENGTH MARK:B5CaLETTER RRAbRHA
:B5FbYYAbVOCALIC RRcLLaVOWEL SIGN VOCALIC LdLL:B66aDIGIT ZERObONEbTWObTHREEbFOURbFIVEbSIXbSEVEN
bEIGHTbNINEaISSHARaLETTER WAaFRACTION ONE QUARTERcHALFbTHREE QUARTERSbONE SIXTEENTHcEIGHTH
bTHREE SIXTEENTHS=cNATE:FD3EaLEFT PARENTHESISaRIGHT PARENTHESIS=cTHODOX:2626aCROSS
=bSAGE:104B0aCAPITAL LETTER AcAIcAINcAHcBRAcCHAcEHCHAcEcEINcHAcHYAcIcKAcEHKAcKYAcLAcMAcNAcOcOINcPA
cEHPAcSAcSHAcTAcEHTAcTSAcEHTSAcTSHAcDHAcUcWAcKHAcGHAcZAcZHA:104D8aSMALL LETTER AcAIcAINcAHcBRAcCHA
cEHCHAcEcEINcHAcHYAcIcKAcEHKAcKYAcLAcMAcNAcOcOINcPAcEHPAcSAcSHAcTAcEHTAcTSAcEHTSAcTSHAcDHAcUcWA
cKHAcGHAcZAcZHA=cC:9Da=cMANYA:10480aLETTER ALEFbBAbTAbJAbXAbKHAbDEELbRAbSAbSHIINbDHAbCAYNbGAbFA
bQAAFbKAAFbLAANbMIINbNUUNbWAWbHAbYAbAbEbIbObUbAAbEEbOO:104A0aDIGIT ZERObONEbTWObTHREEbFOURbFIVE
bSIXbSEVENbEIGHTbNINE=bTTER:1F9A6a=dOMAN:1ED01aSIYAQ NUMBER ONEcTWOcTHREEcFOURcFIVEcSIXcSEVEN
cEIGHTcNINEcTENcTWENTYcTHIRTYcFORTYcFIFTYcSIXTYcSEVENTYcEIGHTYcNINETYcONE HUNDREDcTWO HUNDRED
cTHREE HUNDREDcFOUR HUNDREDcFIVE HUNDREDcSIX HUNDREDcSEVEN HUNDREDcEIGHT HUNDREDcNINE HUNDRED
cONE THOUSANDcTWO THOUSANDcTHREE THOUSANDcFOUR THOUSANDcFIVE THOUSANDcSIX THOUSANDcSEVEN THOUSAND
cEIGHT THOUSANDcNINE THOUSANDcTEN THOUSANDcTWENTY THOUSANDcTHIRTY THOUSANDcFORTY THOUSAND
cFIFTY THOUSANDcSIXTY THOUSANDcSEVENTY THOUSANDcEIGHTY THOUSANDcNINETY THOUSANDbMARRATAN
bALTERNATE NUMBER TWOdTHREEdFOURdFIVEdSIXdSEVENdEIGHTdNINEdTENdFOUR HUNDREDdSIX HUNDRED
dTWO THOUSANDdTEN THOUSANDbFRACTION ONE HALFdSIXTH=bUNCE:2125aSIGN=cTBOX:1F4E4aTRAY
=dLINED:269DaWHITE STAR:2719aGREEK CROSS:271FaLATIN CROSS:272DaBLACK STAR=bVERHEATED:1F975aFACE
=eLAP:1F5D7a=hPING:2BBAaWHITE SQUARESbAND BLACK SQUARESaBLACK SQUARES=fINE:203Ea=bWL:1F989a
=bX:1F402a=bYSTER:1F9AAa"

end SignatureLint.CharName
