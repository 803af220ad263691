/-!
# Character names: forms

The names of the code points from U+A000 to U+FFFF, Yi, Vai and further scripts,
and compatibility forms. A line with an at sign starts a run at a code point;
the lines after it are the names of that code point and of those that follow it.
-/

namespace RuleDraft
namespace CharacterName

def formsA : String := "@A000
YI SYLLABLE IT
YI SYLLABLE IX
YI SYLLABLE I
YI SYLLABLE IP
YI SYLLABLE IET
YI SYLLABLE IEX
YI SYLLABLE IE
YI SYLLABLE IEP
YI SYLLABLE AT
YI SYLLABLE AX
YI SYLLABLE A
YI SYLLABLE AP
YI SYLLABLE UOX
YI SYLLABLE UO
YI SYLLABLE UOP
YI SYLLABLE OT
YI SYLLABLE OX
YI SYLLABLE O
YI SYLLABLE OP
YI SYLLABLE EX
YI SYLLABLE E
YI SYLLABLE WU
YI SYLLABLE BIT
YI SYLLABLE BIX
YI SYLLABLE BI
YI SYLLABLE BIP
YI SYLLABLE BIET
YI SYLLABLE BIEX
YI SYLLABLE BIE
YI SYLLABLE BIEP
YI SYLLABLE BAT
YI SYLLABLE BAX
YI SYLLABLE BA
YI SYLLABLE BAP
YI SYLLABLE BUOX
YI SYLLABLE BUO
YI SYLLABLE BUOP
YI SYLLABLE BOT
YI SYLLABLE BOX
YI SYLLABLE BO
YI SYLLABLE BOP
YI SYLLABLE BEX
YI SYLLABLE BE
YI SYLLABLE BEP
YI SYLLABLE BUT
YI SYLLABLE BUX
YI SYLLABLE BU
YI SYLLABLE BUP
YI SYLLABLE BURX
YI SYLLABLE BUR
YI SYLLABLE BYT
YI SYLLABLE BYX
YI SYLLABLE BY
YI SYLLABLE BYP
YI SYLLABLE BYRX
YI SYLLABLE BYR
YI SYLLABLE PIT
YI SYLLABLE PIX
YI SYLLABLE PI
YI SYLLABLE PIP
YI SYLLABLE PIEX
YI SYLLABLE PIE
YI SYLLABLE PIEP
YI SYLLABLE PAT
YI SYLLABLE PAX
YI SYLLABLE PA
YI SYLLABLE PAP
YI SYLLABLE PUOX
YI SYLLABLE PUO
YI SYLLABLE PUOP
YI SYLLABLE POT
YI SYLLABLE POX
YI SYLLABLE PO
YI SYLLABLE POP
YI SYLLABLE PUT
YI SYLLABLE PUX
YI SYLLABLE PU
YI SYLLABLE PUP
YI SYLLABLE PURX
YI SYLLABLE PUR
YI SYLLABLE PYT
YI SYLLABLE PYX
YI SYLLABLE PY
YI SYLLABLE PYP
YI SYLLABLE PYRX
YI SYLLABLE PYR
YI SYLLABLE BBIT
YI SYLLABLE BBIX
YI SYLLABLE BBI
YI SYLLABLE BBIP
YI SYLLABLE BBIET
YI SYLLABLE BBIEX
YI SYLLABLE BBIE
YI SYLLABLE BBIEP
YI SYLLABLE BBAT
YI SYLLABLE BBAX
YI SYLLABLE BBA
YI SYLLABLE BBAP
YI SYLLABLE BBUOX
YI SYLLABLE BBUO
YI SYLLABLE BBUOP
YI SYLLABLE BBOT
YI SYLLABLE BBOX
YI SYLLABLE BBO
YI SYLLABLE BBOP
YI SYLLABLE BBEX
YI SYLLABLE BBE
YI SYLLABLE BBEP
YI SYLLABLE BBUT
YI SYLLABLE BBUX
YI SYLLABLE BBU
YI SYLLABLE BBUP
YI SYLLABLE BBURX
YI SYLLABLE BBUR
YI SYLLABLE BBYT
YI SYLLABLE BBYX
YI SYLLABLE BBY
YI SYLLABLE BBYP
YI SYLLABLE NBIT
YI SYLLABLE NBIX
YI SYLLABLE NBI
YI SYLLABLE NBIP
YI SYLLABLE NBIEX
YI SYLLABLE NBIE
YI SYLLABLE NBIEP
YI SYLLABLE NBAT
YI SYLLABLE NBAX
YI SYLLABLE NBA
YI SYLLABLE NBAP
YI SYLLABLE NBOT
YI SYLLABLE NBOX
YI SYLLABLE NBO
YI SYLLABLE NBOP
YI SYLLABLE NBUT
YI SYLLABLE NBUX
YI SYLLABLE NBU
YI SYLLABLE NBUP
YI SYLLABLE NBURX
YI SYLLABLE NBUR
YI SYLLABLE NBYT
YI SYLLABLE NBYX
YI SYLLABLE NBY
YI SYLLABLE NBYP
YI SYLLABLE NBYRX
YI SYLLABLE NBYR
YI SYLLABLE HMIT
YI SYLLABLE HMIX
YI SYLLABLE HMI
YI SYLLABLE HMIP
YI SYLLABLE HMIEX
YI SYLLABLE HMIE
YI SYLLABLE HMIEP
YI SYLLABLE HMAT
YI SYLLABLE HMAX
YI SYLLABLE HMA
YI SYLLABLE HMAP
YI SYLLABLE HMUOX
YI SYLLABLE HMUO
YI SYLLABLE HMUOP
YI SYLLABLE HMOT
YI SYLLABLE HMOX
YI SYLLABLE HMO
YI SYLLABLE HMOP
YI SYLLABLE HMUT
YI SYLLABLE HMUX
YI SYLLABLE HMU
YI SYLLABLE HMUP
YI SYLLABLE HMURX
YI SYLLABLE HMUR
YI SYLLABLE HMYX
YI SYLLABLE HMY
YI SYLLABLE HMYP
YI SYLLABLE HMYRX
YI SYLLABLE HMYR
YI SYLLABLE MIT
YI SYLLABLE MIX
YI SYLLABLE MI
YI SYLLABLE MIP
YI SYLLABLE MIEX
YI SYLLABLE MIE
YI SYLLABLE MIEP
YI SYLLABLE MAT
YI SYLLABLE MAX
YI SYLLABLE MA
YI SYLLABLE MAP
YI SYLLABLE MUOT
YI SYLLABLE MUOX
YI SYLLABLE MUO
YI SYLLABLE MUOP
YI SYLLABLE MOT
YI SYLLABLE MOX
YI SYLLABLE MO
YI SYLLABLE MOP
YI SYLLABLE MEX
YI SYLLABLE ME
YI SYLLABLE MUT
YI SYLLABLE MUX
YI SYLLABLE MU
YI SYLLABLE MUP
YI SYLLABLE MURX
YI SYLLABLE MUR
YI SYLLABLE MYT
YI SYLLABLE MYX
YI SYLLABLE MY
YI SYLLABLE MYP
YI SYLLABLE FIT
YI SYLLABLE FIX
YI SYLLABLE FI
YI SYLLABLE FIP
YI SYLLABLE FAT
YI SYLLABLE FAX
YI SYLLABLE FA
YI SYLLABLE FAP
YI SYLLABLE FOX
YI SYLLABLE FO
YI SYLLABLE FOP
YI SYLLABLE FUT
YI SYLLABLE FUX
YI SYLLABLE FU
YI SYLLABLE FUP
YI SYLLABLE FURX
YI SYLLABLE FUR
YI SYLLABLE FYT
YI SYLLABLE FYX
YI SYLLABLE FY
YI SYLLABLE FYP
YI SYLLABLE VIT
YI SYLLABLE VIX
YI SYLLABLE VI
YI SYLLABLE VIP
YI SYLLABLE VIET
YI SYLLABLE VIEX
YI SYLLABLE VIE
YI SYLLABLE VIEP
YI SYLLABLE VAT
YI SYLLABLE VAX
YI SYLLABLE VA
YI SYLLABLE VAP
YI SYLLABLE VOT
YI SYLLABLE VOX
YI SYLLABLE VO
YI SYLLABLE VOP
YI SYLLABLE VEX
YI SYLLABLE VEP
YI SYLLABLE VUT
YI SYLLABLE VUX
YI SYLLABLE VU
YI SYLLABLE VUP
YI SYLLABLE VURX
YI SYLLABLE VUR
YI SYLLABLE VYT
YI SYLLABLE VYX
YI SYLLABLE VY
YI SYLLABLE VYP
YI SYLLABLE VYRX
YI SYLLABLE VYR
YI SYLLABLE DIT
YI SYLLABLE DIX
YI SYLLABLE DI
YI SYLLABLE DIP
YI SYLLABLE DIEX
YI SYLLABLE DIE
YI SYLLABLE DIEP
YI SYLLABLE DAT
YI SYLLABLE DAX
YI SYLLABLE DA
YI SYLLABLE DAP
YI SYLLABLE DUOX
YI SYLLABLE DUO
YI SYLLABLE DOT
YI SYLLABLE DOX
YI SYLLABLE DO
YI SYLLABLE DOP
YI SYLLABLE DEX
YI SYLLABLE DE
YI SYLLABLE DEP
YI SYLLABLE DUT
YI SYLLABLE DUX
YI SYLLABLE DU
YI SYLLABLE DUP
YI SYLLABLE DURX
YI SYLLABLE DUR
YI SYLLABLE TIT
YI SYLLABLE TIX
YI SYLLABLE TI
YI SYLLABLE TIP
YI SYLLABLE TIEX
YI SYLLABLE TIE
YI SYLLABLE TIEP
YI SYLLABLE TAT
YI SYLLABLE TAX
YI SYLLABLE TA
YI SYLLABLE TAP
YI SYLLABLE TUOT
YI SYLLABLE TUOX
YI SYLLABLE TUO
YI SYLLABLE TUOP
YI SYLLABLE TOT
YI SYLLABLE TOX
YI SYLLABLE TO
YI SYLLABLE TOP
YI SYLLABLE TEX
YI SYLLABLE TE
YI SYLLABLE TEP
YI SYLLABLE TUT
YI SYLLABLE TUX
YI SYLLABLE TU
YI SYLLABLE TUP
YI SYLLABLE TURX
YI SYLLABLE TUR
YI SYLLABLE DDIT
YI SYLLABLE DDIX
YI SYLLABLE DDI
YI SYLLABLE DDIP
YI SYLLABLE DDIEX
YI SYLLABLE DDIE
YI SYLLABLE DDIEP
YI SYLLABLE DDAT
YI SYLLABLE DDAX
YI SYLLABLE DDA
YI SYLLABLE DDAP
YI SYLLABLE DDUOX
YI SYLLABLE DDUO
YI SYLLABLE DDUOP
YI SYLLABLE DDOT
YI SYLLABLE DDOX
YI SYLLABLE DDO
YI SYLLABLE DDOP
YI SYLLABLE DDEX
YI SYLLABLE DDE
YI SYLLABLE DDEP
YI SYLLABLE DDUT
YI SYLLABLE DDUX
YI SYLLABLE DDU
YI SYLLABLE DDUP
YI SYLLABLE DDURX
YI SYLLABLE DDUR
YI SYLLABLE NDIT
YI SYLLABLE NDIX
YI SYLLABLE NDI
YI SYLLABLE NDIP
YI SYLLABLE NDIEX
YI SYLLABLE NDIE
YI SYLLABLE NDAT
YI SYLLABLE NDAX
YI SYLLABLE NDA
YI SYLLABLE NDAP
YI SYLLABLE NDOT
YI SYLLABLE NDOX
YI SYLLABLE NDO
YI SYLLABLE NDOP
YI SYLLABLE NDEX
YI SYLLABLE NDE
YI SYLLABLE NDEP
YI SYLLABLE NDUT
YI SYLLABLE NDUX
YI SYLLABLE NDU
YI SYLLABLE NDUP
YI SYLLABLE NDURX
YI SYLLABLE NDUR
YI SYLLABLE HNIT
YI SYLLABLE HNIX
YI SYLLABLE HNI
YI SYLLABLE HNIP
YI SYLLABLE HNIET
YI SYLLABLE HNIEX
YI SYLLABLE HNIE
YI SYLLABLE HNIEP
YI SYLLABLE HNAT
YI SYLLABLE HNAX
YI SYLLABLE HNA
YI SYLLABLE HNAP
YI SYLLABLE HNUOX
YI SYLLABLE HNUO
YI SYLLABLE HNOT
YI SYLLABLE HNOX
YI SYLLABLE HNOP
YI SYLLABLE HNEX
YI SYLLABLE HNE
YI SYLLABLE HNEP
YI SYLLABLE HNUT
YI SYLLABLE NIT
YI SYLLABLE NIX
YI SYLLABLE NI
YI SYLLABLE NIP
YI SYLLABLE NIEX
YI SYLLABLE NIE
YI SYLLABLE NIEP
YI SYLLABLE NAX
YI SYLLABLE NA
YI SYLLABLE NAP
YI SYLLABLE NUOX
YI SYLLABLE NUO
YI SYLLABLE NUOP
YI SYLLABLE NOT
YI SYLLABLE NOX
YI SYLLABLE NO
YI SYLLABLE NOP
YI SYLLABLE NEX
YI SYLLABLE NE
YI SYLLABLE NEP
YI SYLLABLE NUT
YI SYLLABLE NUX
YI SYLLABLE NU
YI SYLLABLE NUP
YI SYLLABLE NURX
YI SYLLABLE NUR
YI SYLLABLE HLIT
YI SYLLABLE HLIX
YI SYLLABLE HLI
YI SYLLABLE HLIP
YI SYLLABLE HLIEX
YI SYLLABLE HLIE
YI SYLLABLE HLIEP
YI SYLLABLE HLAT
YI SYLLABLE HLAX
YI SYLLABLE HLA
YI SYLLABLE HLAP
YI SYLLABLE HLUOX
YI SYLLABLE HLUO
YI SYLLABLE HLUOP
YI SYLLABLE HLOX
YI SYLLABLE HLO
YI SYLLABLE HLOP
YI SYLLABLE HLEX
YI SYLLABLE HLE
YI SYLLABLE HLEP
YI SYLLABLE HLUT
YI SYLLABLE HLUX
YI SYLLABLE HLU
YI SYLLABLE HLUP
YI SYLLABLE HLURX
YI SYLLABLE HLUR
YI SYLLABLE HLYT
YI SYLLABLE HLYX
YI SYLLABLE HLY
YI SYLLABLE HLYP
YI SYLLABLE HLYRX
YI SYLLABLE HLYR
YI SYLLABLE LIT
YI SYLLABLE LIX
YI SYLLABLE LI
YI SYLLABLE LIP
YI SYLLABLE LIET
YI SYLLABLE LIEX
YI SYLLABLE LIE
YI SYLLABLE LIEP
YI SYLLABLE LAT
YI SYLLABLE LAX
YI SYLLABLE LA
YI SYLLABLE LAP
YI SYLLABLE LUOT
YI SYLLABLE LUOX
YI SYLLABLE LUO
YI SYLLABLE LUOP
YI SYLLABLE LOT
YI SYLLABLE LOX
YI SYLLABLE LO
YI SYLLABLE LOP
YI SYLLABLE LEX
YI SYLLABLE LE
YI SYLLABLE LEP
YI SYLLABLE LUT
YI SYLLABLE LUX
YI SYLLABLE LU
YI SYLLABLE LUP
YI SYLLABLE LURX
YI SYLLABLE LUR
YI SYLLABLE LYT
YI SYLLABLE LYX
YI SYLLABLE LY
YI SYLLABLE LYP
YI SYLLABLE LYRX
YI SYLLABLE LYR
YI SYLLABLE GIT
YI SYLLABLE GIX
YI SYLLABLE GI
YI SYLLABLE GIP
YI SYLLABLE GIET
YI SYLLABLE GIEX
YI SYLLABLE GIE
YI SYLLABLE GIEP
YI SYLLABLE GAT
YI SYLLABLE GAX
YI SYLLABLE GA
YI SYLLABLE GAP
YI SYLLABLE GUOT
YI SYLLABLE GUOX
YI SYLLABLE GUO
YI SYLLABLE GUOP
YI SYLLABLE GOT
YI SYLLABLE GOX
YI SYLLABLE GO
YI SYLLABLE GOP
YI SYLLABLE GET
YI SYLLABLE GEX
YI SYLLABLE GE
YI SYLLABLE GEP
YI SYLLABLE GUT
YI SYLLABLE GUX
YI SYLLABLE GU
YI SYLLABLE GUP
YI SYLLABLE GURX
YI SYLLABLE GUR
YI SYLLABLE KIT
YI SYLLABLE KIX
YI SYLLABLE KI
YI SYLLABLE KIP
YI SYLLABLE KIEX
YI SYLLABLE KIE
YI SYLLABLE KIEP
YI SYLLABLE KAT
YI SYLLABLE KAX
YI SYLLABLE KA
YI SYLLABLE KAP
YI SYLLABLE KUOX
YI SYLLABLE KUO
YI SYLLABLE KUOP
YI SYLLABLE KOT
YI SYLLABLE KOX
YI SYLLABLE KO
YI SYLLABLE KOP
YI SYLLABLE KET
YI SYLLABLE KEX
YI SYLLABLE KE
YI SYLLABLE KEP
YI SYLLABLE KUT
YI SYLLABLE KUX
YI SYLLABLE KU
YI SYLLABLE KUP
YI SYLLABLE KURX
YI SYLLABLE KUR
YI SYLLABLE GGIT
YI SYLLABLE GGIX
YI SYLLABLE GGI
YI SYLLABLE GGIEX
YI SYLLABLE GGIE
YI SYLLABLE GGIEP
YI SYLLABLE GGAT
YI SYLLABLE GGAX
YI SYLLABLE GGA
YI SYLLABLE GGAP
YI SYLLABLE GGUOT
YI SYLLABLE GGUOX
YI SYLLABLE GGUO
YI SYLLABLE GGUOP
YI SYLLABLE GGOT
YI SYLLABLE GGOX
YI SYLLABLE GGO
YI SYLLABLE GGOP
YI SYLLABLE GGET
YI SYLLABLE GGEX
YI SYLLABLE GGE
YI SYLLABLE GGEP
YI SYLLABLE GGUT
YI SYLLABLE GGUX
YI SYLLABLE GGU
YI SYLLABLE GGUP
YI SYLLABLE GGURX
YI SYLLABLE GGUR
YI SYLLABLE MGIEX
YI SYLLABLE MGIE
YI SYLLABLE MGAT
YI SYLLABLE MGAX
YI SYLLABLE MGA
YI SYLLABLE MGAP
YI SYLLABLE MGUOX
YI SYLLABLE MGUO
YI SYLLABLE MGUOP
YI SYLLABLE MGOT
YI SYLLABLE MGOX
YI SYLLABLE MGO
YI SYLLABLE MGOP
YI SYLLABLE MGEX
YI SYLLABLE MGE
YI SYLLABLE MGEP
YI SYLLABLE MGUT
YI SYLLABLE MGUX
YI SYLLABLE MGU
YI SYLLABLE MGUP
YI SYLLABLE MGURX
YI SYLLABLE MGUR
YI SYLLABLE HXIT
YI SYLLABLE HXIX
YI SYLLABLE HXI
YI SYLLABLE HXIP
YI SYLLABLE HXIET
YI SYLLABLE HXIEX
YI SYLLABLE HXIE
YI SYLLABLE HXIEP
YI SYLLABLE HXAT
YI SYLLABLE HXAX
YI SYLLABLE HXA
YI SYLLABLE HXAP
YI SYLLABLE HXUOT
YI SYLLABLE HXUOX
YI SYLLABLE HXUO
YI SYLLABLE HXUOP
YI SYLLABLE HXOT
YI SYLLABLE HXOX
YI SYLLABLE HXO
YI SYLLABLE HXOP
YI SYLLABLE HXEX
YI SYLLABLE HXE
YI SYLLABLE HXEP
YI SYLLABLE NGIEX
YI SYLLABLE NGIE
YI SYLLABLE NGIEP
YI SYLLABLE NGAT
YI SYLLABLE NGAX
YI SYLLABLE NGA
YI SYLLABLE NGAP
YI SYLLABLE NGUOT
YI SYLLABLE NGUOX
YI SYLLABLE NGUO
YI SYLLABLE NGOT
YI SYLLABLE NGOX
YI SYLLABLE NGO
YI SYLLABLE NGOP
YI SYLLABLE NGEX
YI SYLLABLE NGE
YI SYLLABLE NGEP
YI SYLLABLE HIT
YI SYLLABLE HIEX
YI SYLLABLE HIE
YI SYLLABLE HAT
YI SYLLABLE HAX
YI SYLLABLE HA
YI SYLLABLE HAP
YI SYLLABLE HUOT
YI SYLLABLE HUOX
YI SYLLABLE HUO
YI SYLLABLE HUOP
YI SYLLABLE HOT
YI SYLLABLE HOX
YI SYLLABLE HO
YI SYLLABLE HOP
YI SYLLABLE HEX
YI SYLLABLE HE
YI SYLLABLE HEP
YI SYLLABLE WAT
YI SYLLABLE WAX
YI SYLLABLE WA
YI SYLLABLE WAP
YI SYLLABLE WUOX
YI SYLLABLE WUO
YI SYLLABLE WUOP
YI SYLLABLE WOX
YI SYLLABLE WO
YI SYLLABLE WOP
YI SYLLABLE WEX
YI SYLLABLE WE
YI SYLLABLE WEP
YI SYLLABLE ZIT
YI SYLLABLE ZIX
YI SYLLABLE ZI
YI SYLLABLE ZIP
YI SYLLABLE ZIEX
YI SYLLABLE ZIE
YI SYLLABLE ZIEP
YI SYLLABLE ZAT
YI SYLLABLE ZAX
YI SYLLABLE ZA
YI SYLLABLE ZAP
YI SYLLABLE ZUOX
YI SYLLABLE ZUO
YI SYLLABLE ZUOP
YI SYLLABLE ZOT
YI SYLLABLE ZOX
YI SYLLABLE ZO
YI SYLLABLE ZOP
YI SYLLABLE ZEX
YI SYLLABLE ZE
YI SYLLABLE ZEP
YI SYLLABLE ZUT
YI SYLLABLE ZUX
YI SYLLABLE ZU
YI SYLLABLE ZUP
YI SYLLABLE ZURX
YI SYLLABLE ZUR
YI SYLLABLE ZYT
YI SYLLABLE ZYX
YI SYLLABLE ZY
YI SYLLABLE ZYP
YI SYLLABLE ZYRX
YI SYLLABLE ZYR
YI SYLLABLE CIT
YI SYLLABLE CIX
YI SYLLABLE CI
YI SYLLABLE CIP
YI SYLLABLE CIET
YI SYLLABLE CIEX
YI SYLLABLE CIE
YI SYLLABLE CIEP
YI SYLLABLE CAT
YI SYLLABLE CAX
YI SYLLABLE CA
YI SYLLABLE CAP
YI SYLLABLE CUOX
YI SYLLABLE CUO
YI SYLLABLE CUOP
YI SYLLABLE COT
YI SYLLABLE COX
YI SYLLABLE CO
YI SYLLABLE COP
YI SYLLABLE CEX
YI SYLLABLE CE
YI SYLLABLE CEP
YI SYLLABLE CUT
YI SYLLABLE CUX
YI SYLLABLE CU
YI SYLLABLE CUP
YI SYLLABLE CURX
YI SYLLABLE CUR
YI SYLLABLE CYT
YI SYLLABLE CYX
YI SYLLABLE CY
YI SYLLABLE CYP
YI SYLLABLE CYRX
YI SYLLABLE CYR
YI SYLLABLE ZZIT
YI SYLLABLE ZZIX
YI SYLLABLE ZZI
YI SYLLABLE ZZIP
YI SYLLABLE ZZIET
YI SYLLABLE ZZIEX
YI SYLLABLE ZZIE
YI SYLLABLE ZZIEP
YI SYLLABLE ZZAT
YI SYLLABLE ZZAX
YI SYLLABLE ZZA
YI SYLLABLE ZZAP
YI SYLLABLE ZZOX
YI SYLLABLE ZZO
YI SYLLABLE ZZOP
YI SYLLABLE ZZEX
YI SYLLABLE ZZE
YI SYLLABLE ZZEP
YI SYLLABLE ZZUX
YI SYLLABLE ZZU
YI SYLLABLE ZZUP
YI SYLLABLE ZZURX
YI SYLLABLE ZZUR
YI SYLLABLE ZZYT
YI SYLLABLE ZZYX
YI SYLLABLE ZZY
YI SYLLABLE ZZYP
YI SYLLABLE ZZYRX
YI SYLLABLE ZZYR
YI SYLLABLE NZIT
YI SYLLABLE NZIX
YI SYLLABLE NZI
YI SYLLABLE NZIP
YI SYLLABLE NZIEX
YI SYLLABLE NZIE
YI SYLLABLE NZIEP
YI SYLLABLE NZAT
YI SYLLABLE NZAX
YI SYLLABLE NZA
YI SYLLABLE NZAP
YI SYLLABLE NZUOX
YI SYLLABLE NZUO
YI SYLLABLE NZOX
YI SYLLABLE NZOP
YI SYLLABLE NZEX
YI SYLLABLE NZE
YI SYLLABLE NZUX
YI SYLLABLE NZU
YI SYLLABLE NZUP
YI SYLLABLE NZURX
YI SYLLABLE NZUR
YI SYLLABLE NZYT
YI SYLLABLE NZYX
YI SYLLABLE NZY
YI SYLLABLE NZYP
YI SYLLABLE NZYRX
YI SYLLABLE NZYR
YI SYLLABLE SIT
YI SYLLABLE SIX
YI SYLLABLE SI
YI SYLLABLE SIP
YI SYLLABLE SIEX
YI SYLLABLE SIE
YI SYLLABLE SIEP
YI SYLLABLE SAT
YI SYLLABLE SAX
YI SYLLABLE SA
YI SYLLABLE SAP
YI SYLLABLE SUOX
YI SYLLABLE SUO
YI SYLLABLE SUOP
YI SYLLABLE SOT
YI SYLLABLE SOX
YI SYLLABLE SO
YI SYLLABLE SOP
YI SYLLABLE SEX
YI SYLLABLE SE
YI SYLLABLE SEP
YI SYLLABLE SUT
YI SYLLABLE SUX
YI SYLLABLE SU
YI SYLLABLE SUP
YI SYLLABLE SURX
YI SYLLABLE SUR
YI SYLLABLE SYT
YI SYLLABLE SYX
YI SYLLABLE SY
YI SYLLABLE SYP
YI SYLLABLE SYRX
YI SYLLABLE SYR
YI SYLLABLE SSIT
YI SYLLABLE SSIX
YI SYLLABLE SSI
YI SYLLABLE SSIP
YI SYLLABLE SSIEX
YI SYLLABLE SSIE
YI SYLLABLE SSIEP
YI SYLLABLE SSAT
YI SYLLABLE SSAX
YI SYLLABLE SSA
YI SYLLABLE SSAP
YI SYLLABLE SSOT
YI SYLLABLE SSOX
YI SYLLABLE SSO
YI SYLLABLE SSOP
YI SYLLABLE SSEX
YI SYLLABLE SSE
YI SYLLABLE SSEP
YI SYLLABLE SSUT
YI SYLLABLE SSUX
YI SYLLABLE SSU
YI SYLLABLE SSUP
YI SYLLABLE SSYT
YI SYLLABLE SSYX
YI SYLLABLE SSY
YI SYLLABLE SSYP
YI SYLLABLE SSYRX
YI SYLLABLE SSYR
YI SYLLABLE ZHAT
YI SYLLABLE ZHAX
YI SYLLABLE ZHA
YI SYLLABLE ZHAP
YI SYLLABLE ZHUOX
YI SYLLABLE ZHUO
YI SYLLABLE ZHUOP
YI SYLLABLE ZHOT
YI SYLLABLE ZHOX
YI SYLLABLE ZHO
YI SYLLABLE ZHOP
YI SYLLABLE ZHET
YI SYLLABLE ZHEX
YI SYLLABLE ZHE
YI SYLLABLE ZHEP
YI SYLLABLE ZHUT
YI SYLLABLE ZHUX
YI SYLLABLE ZHU
YI SYLLABLE ZHUP
YI SYLLABLE ZHURX
YI SYLLABLE ZHUR
YI SYLLABLE ZHYT
YI SYLLABLE ZHYX
YI SYLLABLE ZHY
YI SYLLABLE ZHYP
YI SYLLABLE ZHYRX
YI SYLLABLE ZHYR
YI SYLLABLE CHAT
YI SYLLABLE CHAX
YI SYLLABLE CHA
YI SYLLABLE CHAP
YI SYLLABLE CHUOT
YI SYLLABLE CHUOX
YI SYLLABLE CHUO
YI SYLLABLE CHUOP
YI SYLLABLE CHOT
YI SYLLABLE CHOX
YI SYLLABLE CHO
YI SYLLABLE CHOP
YI SYLLABLE CHET
YI SYLLABLE CHEX
YI SYLLABLE CHE
YI SYLLABLE CHEP
YI SYLLABLE CHUX
YI SYLLABLE CHU
YI SYLLABLE CHUP
YI SYLLABLE CHURX
YI SYLLABLE CHUR
YI SYLLABLE CHYT
YI SYLLABLE CHYX
YI SYLLABLE CHY
YI SYLLABLE CHYP
YI SYLLABLE CHYRX
YI SYLLABLE CHYR
YI SYLLABLE RRAX
YI SYLLABLE RRA
YI SYLLABLE RRUOX
YI SYLLABLE RRUO
YI SYLLABLE RROT
YI SYLLABLE RROX
YI SYLLABLE RRO
YI SYLLABLE RROP
YI SYLLABLE RRET
YI SYLLABLE RREX
YI SYLLABLE RRE
YI SYLLABLE RREP
YI SYLLABLE RRUT
YI SYLLABLE RRUX
YI SYLLABLE RRU
YI SYLLABLE RRUP
YI SYLLABLE RRURX
YI SYLLABLE RRUR
YI SYLLABLE RRYT
YI SYLLABLE RRYX
YI SYLLABLE RRY
YI SYLLABLE RRYP
YI SYLLABLE RRYRX
YI SYLLABLE RRYR
YI SYLLABLE NRAT
YI SYLLABLE NRAX
YI SYLLABLE NRA
YI SYLLABLE NRAP
YI SYLLABLE NROX
YI SYLLABLE NRO
YI SYLLABLE NROP
YI SYLLABLE NRET
YI SYLLABLE NREX
YI SYLLABLE NRE
YI SYLLABLE NREP
YI SYLLABLE NRUT
YI SYLLABLE NRUX
YI SYLLABLE NRU
YI SYLLABLE NRUP
YI SYLLABLE NRURX
YI SYLLABLE NRUR
YI SYLLABLE NRYT
YI SYLLABLE NRYX
YI SYLLABLE NRY
YI SYLLABLE NRYP
YI SYLLABLE NRYRX
YI SYLLABLE NRYR
YI SYLLABLE SHAT
YI SYLLABLE SHAX
YI SYLLABLE SHA
YI SYLLABLE SHAP
YI SYLLABLE SHUOX
YI SYLLABLE SHUO
YI SYLLABLE SHUOP
YI SYLLABLE SHOT
YI SYLLABLE SHOX
YI SYLLABLE SHO
YI SYLLABLE SHOP
YI SYLLABLE SHET
YI SYLLABLE SHEX
YI SYLLABLE SHE
YI SYLLABLE SHEP
YI SYLLABLE SHUT
YI SYLLABLE SHUX
YI SYLLABLE SHU
YI SYLLABLE SHUP
YI SYLLABLE SHURX
YI SYLLABLE SHUR
YI SYLLABLE SHYT
YI SYLLABLE SHYX
YI SYLLABLE SHY
YI SYLLABLE SHYP
YI SYLLABLE SHYRX
YI SYLLABLE SHYR
YI SYLLABLE RAT
YI SYLLABLE RAX
YI SYLLABLE RA
YI SYLLABLE RAP
YI SYLLABLE RUOX
YI SYLLABLE RUO
YI SYLLABLE RUOP
YI SYLLABLE ROT
YI SYLLABLE ROX
YI SYLLABLE RO
YI SYLLABLE ROP
YI SYLLABLE REX
YI SYLLABLE RE
YI SYLLABLE REP
YI SYLLABLE RUT
YI SYLLABLE RUX
YI SYLLABLE RU
YI SYLLABLE RUP
YI SYLLABLE RURX
YI SYLLABLE RUR
YI SYLLABLE RYT
YI SYLLABLE RYX
YI SYLLABLE RY
YI SYLLABLE RYP
YI SYLLABLE RYRX
YI SYLLABLE RYR
YI SYLLABLE JIT
YI SYLLABLE JIX
YI SYLLABLE JI
YI SYLLABLE JIP
YI SYLLABLE JIET
YI SYLLABLE JIEX
YI SYLLABLE JIE
YI SYLLABLE JIEP
YI SYLLABLE JUOT
YI SYLLABLE JUOX
YI SYLLABLE JUO
YI SYLLABLE JUOP
YI SYLLABLE JOT
YI SYLLABLE JOX
YI SYLLABLE JO
YI SYLLABLE JOP
YI SYLLABLE JUT
YI SYLLABLE JUX
YI SYLLABLE JU
YI SYLLABLE JUP
YI SYLLABLE JURX
YI SYLLABLE JUR
YI SYLLABLE JYT
YI SYLLABLE JYX
YI SYLLABLE JY
YI SYLLABLE JYP
YI SYLLABLE JYRX
YI SYLLABLE JYR
YI SYLLABLE QIT
YI SYLLABLE QIX
YI SYLLABLE QI
YI SYLLABLE QIP
YI SYLLABLE QIET
YI SYLLABLE QIEX
YI SYLLABLE QIE
YI SYLLABLE QIEP
YI SYLLABLE QUOT
YI SYLLABLE QUOX
YI SYLLABLE QUO
YI SYLLABLE QUOP
YI SYLLABLE QOT
YI SYLLABLE QOX
YI SYLLABLE QO
YI SYLLABLE QOP
YI SYLLABLE QUT
YI SYLLABLE QUX
YI SYLLABLE QU
YI SYLLABLE QUP
YI SYLLABLE QURX
YI SYLLABLE QUR
YI SYLLABLE QYT
YI SYLLABLE QYX
YI SYLLABLE QY
YI SYLLABLE QYP
YI SYLLABLE QYRX
YI SYLLABLE QYR
YI SYLLABLE JJIT
YI SYLLABLE JJIX
YI SYLLABLE JJI
YI SYLLABLE JJIP
YI SYLLABLE JJIET
YI SYLLABLE JJIEX
YI SYLLABLE JJIE
YI SYLLABLE JJIEP
YI SYLLABLE JJUOX
YI SYLLABLE JJUO
YI SYLLABLE JJUOP
YI SYLLABLE JJOT
YI SYLLABLE JJOX
YI SYLLABLE JJO
YI SYLLABLE JJOP
YI SYLLABLE JJUT
YI SYLLABLE JJUX
YI SYLLABLE JJU
YI SYLLABLE JJUP
YI SYLLABLE JJURX
YI SYLLABLE JJUR
YI SYLLABLE JJYT
YI SYLLABLE JJYX
YI SYLLABLE JJY
YI SYLLABLE JJYP
YI SYLLABLE NJIT
YI SYLLABLE NJIX
YI SYLLABLE NJI
YI SYLLABLE NJIP
YI SYLLABLE NJIET
YI SYLLABLE NJIEX
YI SYLLABLE NJIE
YI SYLLABLE NJIEP
YI SYLLABLE NJUOX
YI SYLLABLE NJUO
YI SYLLABLE NJOT
YI SYLLABLE NJOX
YI SYLLABLE NJO
YI SYLLABLE NJOP
YI SYLLABLE NJUX
YI SYLLABLE NJU
YI SYLLABLE NJUP
YI SYLLABLE NJURX
YI SYLLABLE NJUR
YI SYLLABLE NJYT
YI SYLLABLE NJYX
YI SYLLABLE NJY
YI SYLLABLE NJYP
YI SYLLABLE NJYRX
YI SYLLABLE NJYR
YI SYLLABLE NYIT
YI SYLLABLE NYIX
YI SYLLABLE NYI
YI SYLLABLE NYIP
YI SYLLABLE NYIET
YI SYLLABLE NYIEX
YI SYLLABLE NYIE
YI SYLLABLE NYIEP
YI SYLLABLE NYUOX
YI SYLLABLE NYUO
YI SYLLABLE NYUOP
YI SYLLABLE NYOT
YI SYLLABLE NYOX
YI SYLLABLE NYO
YI SYLLABLE NYOP
YI SYLLABLE NYUT
YI SYLLABLE NYUX
YI SYLLABLE NYU
YI SYLLABLE NYUP
YI SYLLABLE XIT
YI SYLLABLE XIX
YI SYLLABLE XI
YI SYLLABLE XIP
YI SYLLABLE XIET
YI SYLLABLE XIEX
YI SYLLABLE XIE
YI SYLLABLE XIEP
YI SYLLABLE XUOX
YI SYLLABLE XUO
YI SYLLABLE XOT
YI SYLLABLE XOX
YI SYLLABLE XO
YI SYLLABLE XOP
YI SYLLABLE XYT
YI SYLLABLE XYX
YI SYLLABLE XY
YI SYLLABLE XYP
YI SYLLABLE XYRX
YI SYLLABLE XYR
YI SYLLABLE YIT
YI SYLLABLE YIX
YI SYLLABLE YI
YI SYLLABLE YIP
YI SYLLABLE YIET
YI SYLLABLE YIEX
YI SYLLABLE YIE
YI SYLLABLE YIEP
YI SYLLABLE YUOT
YI SYLLABLE YUOX
YI SYLLABLE YUO
YI SYLLABLE YUOP
YI SYLLABLE YOT
YI SYLLABLE YOX
YI SYLLABLE YO
YI SYLLABLE YOP
YI SYLLABLE YUT
YI SYLLABLE YUX
YI SYLLABLE YU
YI SYLLABLE YUP
YI SYLLABLE YURX
YI SYLLABLE YUR
YI SYLLABLE YYT
YI SYLLABLE YYX
YI SYLLABLE YY
YI SYLLABLE YYP
YI SYLLABLE YYRX
YI SYLLABLE YYR
@A490
YI RADICAL QOT
YI RADICAL LI
YI RADICAL KIT
YI RADICAL NYIP
YI RADICAL CYP
YI RADICAL SSI
YI RADICAL GGOP
YI RADICAL GEP
YI RADICAL MI
YI RADICAL HXIT
YI RADICAL LYR
YI RADICAL BBUT
YI RADICAL MOP
YI RADICAL YO
YI RADICAL PUT
YI RADICAL HXUO
YI RADICAL TAT
YI RADICAL GA
YI RADICAL ZUP
YI RADICAL CYT
YI RADICAL DDUR
YI RADICAL BUR
YI RADICAL GGUO
YI RADICAL NYOP
YI RADICAL TU
YI RADICAL OP
YI RADICAL JJUT
YI RADICAL ZOT
YI RADICAL PYT
YI RADICAL HMO
YI RADICAL YIT
YI RADICAL VUR
YI RADICAL SHY
YI RADICAL VEP
YI RADICAL ZA
YI RADICAL JO
YI RADICAL NZUP
YI RADICAL JJY
YI RADICAL GOT
YI RADICAL JJIE
YI RADICAL WO
YI RADICAL DU
YI RADICAL SHUR
YI RADICAL LIE
YI RADICAL CY
YI RADICAL CUOP
YI RADICAL CIP
YI RADICAL HXOP
YI RADICAL SHAT
YI RADICAL ZUR
YI RADICAL SHOP
YI RADICAL CHE
YI RADICAL ZZIET
YI RADICAL NBIE
YI RADICAL KE"

def formsB : String := "@A4D0
LISU LETTER BA
LISU LETTER PA
LISU LETTER PHA
LISU LETTER DA
LISU LETTER TA
LISU LETTER THA
LISU LETTER GA
LISU LETTER KA
LISU LETTER KHA
LISU LETTER JA
LISU LETTER CA
LISU LETTER CHA
LISU LETTER DZA
LISU LETTER TSA
LISU LETTER TSHA
LISU LETTER MA
LISU LETTER NA
LISU LETTER LA
LISU LETTER SA
LISU LETTER ZHA
LISU LETTER ZA
LISU LETTER NGA
LISU LETTER HA
LISU LETTER XA
LISU LETTER HHA
LISU LETTER FA
LISU LETTER WA
LISU LETTER SHA
LISU LETTER YA
LISU LETTER GHA
LISU LETTER A
LISU LETTER AE
LISU LETTER E
LISU LETTER EU
LISU LETTER I
LISU LETTER O
LISU LETTER U
LISU LETTER UE
LISU LETTER UH
LISU LETTER OE
LISU LETTER TONE MYA TI
LISU LETTER TONE NA PO
LISU LETTER TONE MYA CYA
LISU LETTER TONE MYA BO
LISU LETTER TONE MYA NA
LISU LETTER TONE MYA JEU
LISU PUNCTUATION COMMA
LISU PUNCTUATION FULL STOP
VAI SYLLABLE EE
VAI SYLLABLE EEN
VAI SYLLABLE HEE
VAI SYLLABLE WEE
VAI SYLLABLE WEEN
VAI SYLLABLE PEE
VAI SYLLABLE BHEE
VAI SYLLABLE BEE
VAI SYLLABLE MBEE
VAI SYLLABLE KPEE
VAI SYLLABLE MGBEE
VAI SYLLABLE GBEE
VAI SYLLABLE FEE
VAI SYLLABLE VEE
VAI SYLLABLE TEE
VAI SYLLABLE THEE
VAI SYLLABLE DHEE
VAI SYLLABLE DHHEE
VAI SYLLABLE LEE
VAI SYLLABLE REE
VAI SYLLABLE DEE
VAI SYLLABLE NDEE
VAI SYLLABLE SEE
VAI SYLLABLE SHEE
VAI SYLLABLE ZEE
VAI SYLLABLE ZHEE
VAI SYLLABLE CEE
VAI SYLLABLE JEE
VAI SYLLABLE NJEE
VAI SYLLABLE YEE
VAI SYLLABLE KEE
VAI SYLLABLE NGGEE
VAI SYLLABLE GEE
VAI SYLLABLE MEE
VAI SYLLABLE NEE
VAI SYLLABLE NYEE
VAI SYLLABLE I
VAI SYLLABLE IN
VAI SYLLABLE HI
VAI SYLLABLE HIN
VAI SYLLABLE WI
VAI SYLLABLE WIN
VAI SYLLABLE PI
VAI SYLLABLE BHI
VAI SYLLABLE BI
VAI SYLLABLE MBI
VAI SYLLABLE KPI
VAI SYLLABLE MGBI
VAI SYLLABLE GBI
VAI SYLLABLE FI
VAI SYLLABLE VI
VAI SYLLABLE TI
VAI SYLLABLE THI
VAI SYLLABLE DHI
VAI SYLLABLE DHHI
VAI SYLLABLE LI
VAI SYLLABLE RI
VAI SYLLABLE DI
VAI SYLLABLE NDI
VAI SYLLABLE SI
VAI SYLLABLE SHI
VAI SYLLABLE ZI
VAI SYLLABLE ZHI
VAI SYLLABLE CI
VAI SYLLABLE JI
VAI SYLLABLE NJI
VAI SYLLABLE YI
VAI SYLLABLE KI
VAI SYLLABLE NGGI
VAI SYLLABLE GI
VAI SYLLABLE MI
VAI SYLLABLE NI
VAI SYLLABLE NYI
VAI SYLLABLE A
VAI SYLLABLE AN
VAI SYLLABLE NGAN
VAI SYLLABLE HA
VAI SYLLABLE HAN
VAI SYLLABLE WA
VAI SYLLABLE WAN
VAI SYLLABLE PA
VAI SYLLABLE BHA
VAI SYLLABLE BA
VAI SYLLABLE MBA
VAI SYLLABLE KPA
VAI SYLLABLE KPAN
VAI SYLLABLE MGBA
VAI SYLLABLE GBA
VAI SYLLABLE FA
VAI SYLLABLE VA
VAI SYLLABLE TA
VAI SYLLABLE THA
VAI SYLLABLE DHA
VAI SYLLABLE DHHA
VAI SYLLABLE LA
VAI SYLLABLE RA
VAI SYLLABLE DA
VAI SYLLABLE NDA
VAI SYLLABLE SA
VAI SYLLABLE SHA
VAI SYLLABLE ZA
VAI SYLLABLE ZHA
VAI SYLLABLE CA
VAI SYLLABLE JA
VAI SYLLABLE NJA
VAI SYLLABLE YA
VAI SYLLABLE KA
VAI SYLLABLE KAN
VAI SYLLABLE NGGA
VAI SYLLABLE GA
VAI SYLLABLE MA
VAI SYLLABLE NA
VAI SYLLABLE NYA
VAI SYLLABLE OO
VAI SYLLABLE OON
VAI SYLLABLE HOO
VAI SYLLABLE WOO
VAI SYLLABLE WOON
VAI SYLLABLE POO
VAI SYLLABLE BHOO
VAI SYLLABLE BOO
VAI SYLLABLE MBOO
VAI SYLLABLE KPOO
VAI SYLLABLE MGBOO
VAI SYLLABLE GBOO
VAI SYLLABLE FOO
VAI SYLLABLE VOO
VAI SYLLABLE TOO
VAI SYLLABLE THOO
VAI SYLLABLE DHOO
VAI SYLLABLE DHHOO
VAI SYLLABLE LOO
VAI SYLLABLE ROO
VAI SYLLABLE DOO
VAI SYLLABLE NDOO
VAI SYLLABLE SOO
VAI SYLLABLE SHOO
VAI SYLLABLE ZOO
VAI SYLLABLE ZHOO
VAI SYLLABLE COO
VAI SYLLABLE JOO
VAI SYLLABLE NJOO
VAI SYLLABLE YOO
VAI SYLLABLE KOO
VAI SYLLABLE NGGOO
VAI SYLLABLE GOO
VAI SYLLABLE MOO
VAI SYLLABLE NOO
VAI SYLLABLE NYOO
VAI SYLLABLE U
VAI SYLLABLE UN
VAI SYLLABLE HU
VAI SYLLABLE HUN
VAI SYLLABLE WU
VAI SYLLABLE WUN
VAI SYLLABLE PU
VAI SYLLABLE BHU
VAI SYLLABLE BU
VAI SYLLABLE MBU
VAI SYLLABLE KPU
VAI SYLLABLE MGBU
VAI SYLLABLE GBU
VAI SYLLABLE FU
VAI SYLLABLE VU
VAI SYLLABLE TU
VAI SYLLABLE THU
VAI SYLLABLE DHU
VAI SYLLABLE DHHU
VAI SYLLABLE LU
VAI SYLLABLE RU
VAI SYLLABLE DU
VAI SYLLABLE NDU
VAI SYLLABLE SU
VAI SYLLABLE SHU
VAI SYLLABLE ZU
VAI SYLLABLE ZHU
VAI SYLLABLE CU
VAI SYLLABLE JU
VAI SYLLABLE NJU
VAI SYLLABLE YU
VAI SYLLABLE KU
VAI SYLLABLE NGGU
VAI SYLLABLE GU
VAI SYLLABLE MU
VAI SYLLABLE NU
VAI SYLLABLE NYU
VAI SYLLABLE O
VAI SYLLABLE ON
VAI SYLLABLE NGON
VAI SYLLABLE HO
VAI SYLLABLE HON
VAI SYLLABLE WO
VAI SYLLABLE WON
VAI SYLLABLE PO
VAI SYLLABLE BHO
VAI SYLLABLE BO
VAI SYLLABLE MBO
VAI SYLLABLE KPO
VAI SYLLABLE MGBO
VAI SYLLABLE GBO
VAI SYLLABLE GBON
VAI SYLLABLE FO
VAI SYLLABLE VO
VAI SYLLABLE TO
VAI SYLLABLE THO
VAI SYLLABLE DHO
VAI SYLLABLE DHHO
VAI SYLLABLE LO
VAI SYLLABLE RO
VAI SYLLABLE DO
VAI SYLLABLE NDO
VAI SYLLABLE SO
VAI SYLLABLE SHO
VAI SYLLABLE ZO
VAI SYLLABLE ZHO
VAI SYLLABLE CO
VAI SYLLABLE JO
VAI SYLLABLE NJO
VAI SYLLABLE YO
VAI SYLLABLE KO
VAI SYLLABLE NGGO
VAI SYLLABLE GO
VAI SYLLABLE MO
VAI SYLLABLE NO
VAI SYLLABLE NYO
VAI SYLLABLE E
VAI SYLLABLE EN
VAI SYLLABLE NGEN
VAI SYLLABLE HE
VAI SYLLABLE HEN
VAI SYLLABLE WE
VAI SYLLABLE WEN
VAI SYLLABLE PE
VAI SYLLABLE BHE
VAI SYLLABLE BE
VAI SYLLABLE MBE
VAI SYLLABLE KPE
VAI SYLLABLE KPEN
VAI SYLLABLE MGBE
VAI SYLLABLE GBE
VAI SYLLABLE GBEN
VAI SYLLABLE FE
VAI SYLLABLE VE
VAI SYLLABLE TE
VAI SYLLABLE THE
VAI SYLLABLE DHE
VAI SYLLABLE DHHE
VAI SYLLABLE LE
VAI SYLLABLE RE
VAI SYLLABLE DE
VAI SYLLABLE NDE
VAI SYLLABLE SE
VAI SYLLABLE SHE
VAI SYLLABLE ZE
VAI SYLLABLE ZHE
VAI SYLLABLE CE
VAI SYLLABLE JE
VAI SYLLABLE NJE
VAI SYLLABLE YE
VAI SYLLABLE KE
VAI SYLLABLE NGGE
VAI SYLLABLE NGGEN
VAI SYLLABLE GE
VAI SYLLABLE GEN
VAI SYLLABLE ME
VAI SYLLABLE NE
VAI SYLLABLE NYE
VAI SYLLABLE NG
VAI SYLLABLE LENGTHENER
VAI COMMA
VAI FULL STOP
VAI QUESTION MARK
VAI SYLLABLE NDOLE FA
VAI SYLLABLE NDOLE KA
VAI SYLLABLE NDOLE SOO
VAI SYMBOL FEENG
VAI SYMBOL KEENG
VAI SYMBOL TING
VAI SYMBOL NII
VAI SYMBOL BANG
VAI SYMBOL FAA
VAI SYMBOL TAA
VAI SYMBOL DANG
VAI SYMBOL DOONG
VAI SYMBOL KUNG
VAI SYMBOL TONG
VAI SYMBOL DO-O
VAI SYMBOL JONG
VAI DIGIT ZERO
VAI DIGIT ONE
VAI DIGIT TWO
VAI DIGIT THREE
VAI DIGIT FOUR
VAI DIGIT FIVE
VAI DIGIT SIX
VAI DIGIT SEVEN
VAI DIGIT EIGHT
VAI DIGIT NINE
VAI SYLLABLE NDOLE MA
VAI SYLLABLE NDOLE DO
@A640
CYRILLIC CAPITAL LETTER ZEMLYA
CYRILLIC SMALL LETTER ZEMLYA
CYRILLIC CAPITAL LETTER DZELO
CYRILLIC SMALL LETTER DZELO
CYRILLIC CAPITAL LETTER REVERSED DZE
CYRILLIC SMALL LETTER REVERSED DZE
CYRILLIC CAPITAL LETTER IOTA
CYRILLIC SMALL LETTER IOTA
CYRILLIC CAPITAL LETTER DJERV
CYRILLIC SMALL LETTER DJERV
CYRILLIC CAPITAL LETTER MONOGRAPH UK
CYRILLIC SMALL LETTER MONOGRAPH UK
CYRILLIC CAPITAL LETTER BROAD OMEGA
CYRILLIC SMALL LETTER BROAD OMEGA
CYRILLIC CAPITAL LETTER NEUTRAL YER
CYRILLIC SMALL LETTER NEUTRAL YER
CYRILLIC CAPITAL LETTER YERU WITH BACK YER
CYRILLIC SMALL LETTER YERU WITH BACK YER
CYRILLIC CAPITAL LETTER IOTIFIED YAT
CYRILLIC SMALL LETTER IOTIFIED YAT
CYRILLIC CAPITAL LETTER REVERSED YU
CYRILLIC SMALL LETTER REVERSED YU
CYRILLIC CAPITAL LETTER IOTIFIED A
CYRILLIC SMALL LETTER IOTIFIED A
CYRILLIC CAPITAL LETTER CLOSED LITTLE YUS
CYRILLIC SMALL LETTER CLOSED LITTLE YUS
CYRILLIC CAPITAL LETTER BLENDED YUS
CYRILLIC SMALL LETTER BLENDED YUS
CYRILLIC CAPITAL LETTER IOTIFIED CLOSED LITTLE YUS
CYRILLIC SMALL LETTER IOTIFIED CLOSED LITTLE YUS
CYRILLIC CAPITAL LETTER YN
CYRILLIC SMALL LETTER YN
CYRILLIC CAPITAL LETTER REVERSED TSE
CYRILLIC SMALL LETTER REVERSED TSE
CYRILLIC CAPITAL LETTER SOFT DE
CYRILLIC SMALL LETTER SOFT DE
CYRILLIC CAPITAL LETTER SOFT EL
CYRILLIC SMALL LETTER SOFT EL
CYRILLIC CAPITAL LETTER SOFT EM
CYRILLIC SMALL LETTER SOFT EM
CYRILLIC CAPITAL LETTER MONOCULAR O
CYRILLIC SMALL LETTER MONOCULAR O
CYRILLIC CAPITAL LETTER BINOCULAR O
CYRILLIC SMALL LETTER BINOCULAR O
CYRILLIC CAPITAL LETTER DOUBLE MONOCULAR O
CYRILLIC SMALL LETTER DOUBLE MONOCULAR O
CYRILLIC LETTER MULTIOCULAR O
COMBINING CYRILLIC VZMET
COMBINING CYRILLIC TEN MILLIONS SIGN
COMBINING CYRILLIC HUNDRED MILLIONS SIGN
COMBINING CYRILLIC THOUSAND MILLIONS SIGN
SLAVONIC ASTERISK
COMBINING CYRILLIC LETTER UKRAINIAN IE
COMBINING CYRILLIC LETTER I
COMBINING CYRILLIC LETTER YI
COMBINING CYRILLIC LETTER U
COMBINING CYRILLIC LETTER HARD SIGN
COMBINING CYRILLIC LETTER YERU
COMBINING CYRILLIC LETTER SOFT SIGN
COMBINING CYRILLIC LETTER OMEGA
COMBINING CYRILLIC KAVYKA
COMBINING CYRILLIC PAYEROK
CYRILLIC KAVYKA
CYRILLIC PAYEROK
CYRILLIC CAPITAL LETTER DWE
CYRILLIC SMALL LETTER DWE
CYRILLIC CAPITAL LETTER DZWE
CYRILLIC SMALL LETTER DZWE
CYRILLIC CAPITAL LETTER ZHWE
CYRILLIC SMALL LETTER ZHWE
CYRILLIC CAPITAL LETTER CCHE
CYRILLIC SMALL LETTER CCHE
CYRILLIC CAPITAL LETTER DZZE
CYRILLIC SMALL LETTER DZZE
CYRILLIC CAPITAL LETTER TE WITH MIDDLE HOOK
CYRILLIC SMALL LETTER TE WITH MIDDLE HOOK
CYRILLIC CAPITAL LETTER TWE
CYRILLIC SMALL LETTER TWE
CYRILLIC CAPITAL LETTER TSWE
CYRILLIC SMALL LETTER TSWE
CYRILLIC CAPITAL LETTER TSSE
CYRILLIC SMALL LETTER TSSE
CYRILLIC CAPITAL LETTER TCHE
CYRILLIC SMALL LETTER TCHE
CYRILLIC CAPITAL LETTER HWE
CYRILLIC SMALL LETTER HWE
CYRILLIC CAPITAL LETTER SHWE
CYRILLIC SMALL LETTER SHWE
CYRILLIC CAPITAL LETTER DOUBLE O
CYRILLIC SMALL LETTER DOUBLE O
CYRILLIC CAPITAL LETTER CROSSED O
CYRILLIC SMALL LETTER CROSSED O
MODIFIER LETTER CYRILLIC HARD SIGN
MODIFIER LETTER CYRILLIC SOFT SIGN
COMBINING CYRILLIC LETTER EF
COMBINING CYRILLIC LETTER IOTIFIED E
BAMUM LETTER A
BAMUM LETTER KA
BAMUM LETTER U
BAMUM LETTER KU
BAMUM LETTER EE
BAMUM LETTER REE
BAMUM LETTER TAE
BAMUM LETTER O
BAMUM LETTER NYI
BAMUM LETTER I
BAMUM LETTER LA
BAMUM LETTER PA
BAMUM LETTER RII
BAMUM LETTER RIEE
BAMUM LETTER LEEEE
BAMUM LETTER MEEEE
BAMUM LETTER TAA
BAMUM LETTER NDAA
BAMUM LETTER NJAEM
BAMUM LETTER M
BAMUM LETTER SUU
BAMUM LETTER MU
BAMUM LETTER SHII
BAMUM LETTER SI
BAMUM LETTER SHEUX
BAMUM LETTER SEUX
BAMUM LETTER KYEE
BAMUM LETTER KET
BAMUM LETTER NUAE
BAMUM LETTER NU
BAMUM LETTER NJUAE
BAMUM LETTER YOQ
BAMUM LETTER SHU
BAMUM LETTER YUQ
BAMUM LETTER YA
BAMUM LETTER NSHA
BAMUM LETTER KEUX
BAMUM LETTER PEUX
BAMUM LETTER NJEE
BAMUM LETTER NTEE
BAMUM LETTER PUE
BAMUM LETTER WUE
BAMUM LETTER PEE
BAMUM LETTER FEE
BAMUM LETTER RU
BAMUM LETTER LU
BAMUM LETTER MI
BAMUM LETTER NI
BAMUM LETTER REUX
BAMUM LETTER RAE
BAMUM LETTER KEN
BAMUM LETTER NGKWAEN
BAMUM LETTER NGGA
BAMUM LETTER NGA
BAMUM LETTER SHO
BAMUM LETTER PUAE
BAMUM LETTER FU
BAMUM LETTER FOM
BAMUM LETTER WA
BAMUM LETTER NA
BAMUM LETTER LI
BAMUM LETTER PI
BAMUM LETTER LOQ
BAMUM LETTER KO
BAMUM LETTER MBEN
BAMUM LETTER REN
BAMUM LETTER MEN
BAMUM LETTER MA
BAMUM LETTER TI
BAMUM LETTER KI
BAMUM LETTER MO
BAMUM LETTER MBAA
BAMUM LETTER TET
BAMUM LETTER KPA
BAMUM LETTER TEN
BAMUM LETTER NTUU
BAMUM LETTER SAMBA
BAMUM LETTER FAAMAE
BAMUM LETTER KOVUU
BAMUM LETTER KOGHOM
BAMUM COMBINING MARK KOQNDON
BAMUM COMBINING MARK TUKWENTIS
BAMUM NJAEMLI
BAMUM FULL STOP
BAMUM COLON
BAMUM COMMA
BAMUM SEMICOLON
BAMUM QUESTION MARK
@A700
MODIFIER LETTER CHINESE TONE YIN PING
MODIFIER LETTER CHINESE TONE YANG PING
MODIFIER LETTER CHINESE TONE YIN SHANG
MODIFIER LETTER CHINESE TONE YANG SHANG
MODIFIER LETTER CHINESE TONE YIN QU
MODIFIER LETTER CHINESE TONE YANG QU
MODIFIER LETTER CHINESE TONE YIN RU
MODIFIER LETTER CHINESE TONE YANG RU
MODIFIER LETTER EXTRA-HIGH DOTTED TONE BAR
MODIFIER LETTER HIGH DOTTED TONE BAR
MODIFIER LETTER MID DOTTED TONE BAR
MODIFIER LETTER LOW DOTTED TONE BAR
MODIFIER LETTER EXTRA-LOW DOTTED TONE BAR
MODIFIER LETTER EXTRA-HIGH DOTTED LEFT-STEM TONE BAR
MODIFIER LETTER HIGH DOTTED LEFT-STEM TONE BAR
MODIFIER LETTER MID DOTTED LEFT-STEM TONE BAR
MODIFIER LETTER LOW DOTTED LEFT-STEM TONE BAR
MODIFIER LETTER EXTRA-LOW DOTTED LEFT-STEM TONE BAR
MODIFIER LETTER EXTRA-HIGH LEFT-STEM TONE BAR
MODIFIER LETTER HIGH LEFT-STEM TONE BAR
MODIFIER LETTER MID LEFT-STEM TONE BAR
MODIFIER LETTER LOW LEFT-STEM TONE BAR
MODIFIER LETTER EXTRA-LOW LEFT-STEM TONE BAR
MODIFIER LETTER DOT VERTICAL BAR
MODIFIER LETTER DOT SLASH
MODIFIER LETTER DOT HORIZONTAL BAR
MODIFIER LETTER LOWER RIGHT CORNER ANGLE
MODIFIER LETTER RAISED UP ARROW
MODIFIER LETTER RAISED DOWN ARROW
MODIFIER LETTER RAISED EXCLAMATION MARK
MODIFIER LETTER RAISED INVERTED EXCLAMATION MARK
MODIFIER LETTER LOW INVERTED EXCLAMATION MARK
MODIFIER LETTER STRESS AND HIGH TONE
MODIFIER LETTER STRESS AND LOW TONE
LATIN CAPITAL LETTER EGYPTOLOGICAL ALEF
LATIN SMALL LETTER EGYPTOLOGICAL ALEF
LATIN CAPITAL LETTER EGYPTOLOGICAL AIN
LATIN SMALL LETTER EGYPTOLOGICAL AIN
LATIN CAPITAL LETTER HENG
LATIN SMALL LETTER HENG
LATIN CAPITAL LETTER TZ
LATIN SMALL LETTER TZ
LATIN CAPITAL LETTER TRESILLO
LATIN SMALL LETTER TRESILLO
LATIN CAPITAL LETTER CUATRILLO
LATIN SMALL LETTER CUATRILLO
LATIN CAPITAL LETTER CUATRILLO WITH COMMA
LATIN SMALL LETTER CUATRILLO WITH COMMA
LATIN LETTER SMALL CAPITAL F
LATIN LETTER SMALL CAPITAL S
LATIN CAPITAL LETTER AA
LATIN SMALL LETTER AA
LATIN CAPITAL LETTER AO
LATIN SMALL LETTER AO
LATIN CAPITAL LETTER AU
LATIN SMALL LETTER AU
LATIN CAPITAL LETTER AV
LATIN SMALL LETTER AV
LATIN CAPITAL LETTER AV WITH HORIZONTAL BAR
LATIN SMALL LETTER AV WITH HORIZONTAL BAR
LATIN CAPITAL LETTER AY
LATIN SMALL LETTER AY
LATIN CAPITAL LETTER REVERSED C WITH DOT
LATIN SMALL LETTER REVERSED C WITH DOT
LATIN CAPITAL LETTER K WITH STROKE
LATIN SMALL LETTER K WITH STROKE
LATIN CAPITAL LETTER K WITH DIAGONAL STROKE
LATIN SMALL LETTER K WITH DIAGONAL STROKE
LATIN CAPITAL LETTER K WITH STROKE AND DIAGONAL STROKE
LATIN SMALL LETTER K WITH STROKE AND DIAGONAL STROKE
LATIN CAPITAL LETTER BROKEN L
LATIN SMALL LETTER BROKEN L
LATIN CAPITAL LETTER L WITH HIGH STROKE
LATIN SMALL LETTER L WITH HIGH STROKE
LATIN CAPITAL LETTER O WITH LONG STROKE OVERLAY
LATIN SMALL LETTER O WITH LONG STROKE OVERLAY
LATIN CAPITAL LETTER O WITH LOOP
LATIN SMALL LETTER O WITH LOOP
LATIN CAPITAL LETTER OO
LATIN SMALL LETTER OO
LATIN CAPITAL LETTER P WITH STROKE THROUGH DESCENDER
LATIN SMALL LETTER P WITH STROKE THROUGH DESCENDER
LATIN CAPITAL LETTER P WITH FLOURISH
LATIN SMALL LETTER P WITH FLOURISH
LATIN CAPITAL LETTER P WITH SQUIRREL TAIL
LATIN SMALL LETTER P WITH SQUIRREL TAIL
LATIN CAPITAL LETTER Q WITH STROKE THROUGH DESCENDER
LATIN SMALL LETTER Q WITH STROKE THROUGH DESCENDER
LATIN CAPITAL LETTER Q WITH DIAGONAL STROKE
LATIN SMALL LETTER Q WITH DIAGONAL STROKE
LATIN CAPITAL LETTER R ROTUNDA
LATIN SMALL LETTER R ROTUNDA
LATIN CAPITAL LETTER RUM ROTUNDA
LATIN SMALL LETTER RUM ROTUNDA
LATIN CAPITAL LETTER V WITH DIAGONAL STROKE
LATIN SMALL LETTER V WITH DIAGONAL STROKE
LATIN CAPITAL LETTER VY
LATIN SMALL LETTER VY
LATIN CAPITAL LETTER VISIGOTHIC Z
LATIN SMALL LETTER VISIGOTHIC Z
LATIN CAPITAL LETTER THORN WITH STROKE
LATIN SMALL LETTER THORN WITH STROKE
LATIN CAPITAL LETTER THORN WITH STROKE THROUGH DESCENDER
LATIN SMALL LETTER THORN WITH STROKE THROUGH DESCENDER
LATIN CAPITAL LETTER VEND
LATIN SMALL LETTER VEND
LATIN CAPITAL LETTER ET
LATIN SMALL LETTER ET
LATIN CAPITAL LETTER IS
LATIN SMALL LETTER IS
LATIN CAPITAL LETTER CON
LATIN SMALL LETTER CON
MODIFIER LETTER US
LATIN SMALL LETTER DUM
LATIN SMALL LETTER LUM
LATIN SMALL LETTER MUM
LATIN SMALL LETTER NUM
LATIN SMALL LETTER RUM
LATIN LETTER SMALL CAPITAL RUM
LATIN SMALL LETTER TUM
LATIN SMALL LETTER UM
LATIN CAPITAL LETTER INSULAR D
LATIN SMALL LETTER INSULAR D
LATIN CAPITAL LETTER INSULAR F
LATIN SMALL LETTER INSULAR F
LATIN CAPITAL LETTER INSULAR G
LATIN CAPITAL LETTER TURNED INSULAR G
LATIN SMALL LETTER TURNED INSULAR G
LATIN CAPITAL LETTER TURNED L
LATIN SMALL LETTER TURNED L
LATIN CAPITAL LETTER INSULAR R
LATIN SMALL LETTER INSULAR R
LATIN CAPITAL LETTER INSULAR S
LATIN SMALL LETTER INSULAR S
LATIN CAPITAL LETTER INSULAR T
LATIN SMALL LETTER INSULAR T
MODIFIER LETTER LOW CIRCUMFLEX ACCENT
MODIFIER LETTER COLON
MODIFIER LETTER SHORT EQUALS SIGN
LATIN CAPITAL LETTER SALTILLO
LATIN SMALL LETTER SALTILLO
LATIN CAPITAL LETTER TURNED H
LATIN SMALL LETTER L WITH RETROFLEX HOOK AND BELT
LATIN LETTER SINOLOGICAL DOT
LATIN CAPITAL LETTER N WITH DESCENDER
LATIN SMALL LETTER N WITH DESCENDER
LATIN CAPITAL LETTER C WITH BAR
LATIN SMALL LETTER C WITH BAR
LATIN SMALL LETTER C WITH PALATAL HOOK
LATIN SMALL LETTER H WITH PALATAL HOOK
LATIN CAPITAL LETTER B WITH FLOURISH
LATIN SMALL LETTER B WITH FLOURISH
LATIN CAPITAL LETTER F WITH STROKE
LATIN SMALL LETTER F WITH STROKE
LATIN CAPITAL LETTER VOLAPUK AE
LATIN SMALL LETTER VOLAPUK AE
LATIN CAPITAL LETTER VOLAPUK OE
LATIN SMALL LETTER VOLAPUK OE
LATIN CAPITAL LETTER VOLAPUK UE
LATIN SMALL LETTER VOLAPUK UE
LATIN CAPITAL LETTER G WITH OBLIQUE STROKE
LATIN SMALL LETTER G WITH OBLIQUE STROKE
LATIN CAPITAL LETTER K WITH OBLIQUE STROKE
LATIN SMALL LETTER K WITH OBLIQUE STROKE
LATIN CAPITAL LETTER N WITH OBLIQUE STROKE
LATIN SMALL LETTER N WITH OBLIQUE STROKE
LATIN CAPITAL LETTER R WITH OBLIQUE STROKE
LATIN SMALL LETTER R WITH OBLIQUE STROKE
LATIN CAPITAL LETTER S WITH OBLIQUE STROKE
LATIN SMALL LETTER S WITH OBLIQUE STROKE
LATIN CAPITAL LETTER H WITH HOOK
LATIN CAPITAL LETTER REVERSED OPEN E
LATIN CAPITAL LETTER SCRIPT G
LATIN CAPITAL LETTER L WITH BELT
LATIN CAPITAL LETTER SMALL CAPITAL I
LATIN LETTER SMALL CAPITAL Q
LATIN CAPITAL LETTER TURNED K
LATIN CAPITAL LETTER TURNED T
LATIN CAPITAL LETTER J WITH CROSSED-TAIL
LATIN CAPITAL LETTER CHI
LATIN CAPITAL LETTER BETA
LATIN SMALL LETTER BETA
LATIN CAPITAL LETTER OMEGA
LATIN SMALL LETTER OMEGA
LATIN CAPITAL LETTER U WITH STROKE
LATIN SMALL LETTER U WITH STROKE
LATIN CAPITAL LETTER GLOTTAL A
LATIN SMALL LETTER GLOTTAL A
LATIN CAPITAL LETTER GLOTTAL I
LATIN SMALL LETTER GLOTTAL I
LATIN CAPITAL LETTER GLOTTAL U
LATIN SMALL LETTER GLOTTAL U
LATIN CAPITAL LETTER OLD POLISH O
LATIN SMALL LETTER OLD POLISH O
LATIN CAPITAL LETTER ANGLICANA W
LATIN SMALL LETTER ANGLICANA W
LATIN CAPITAL LETTER C WITH PALATAL HOOK
LATIN CAPITAL LETTER S WITH HOOK
LATIN CAPITAL LETTER Z WITH PALATAL HOOK
LATIN CAPITAL LETTER D WITH SHORT STROKE OVERLAY
LATIN SMALL LETTER D WITH SHORT STROKE OVERLAY
LATIN CAPITAL LETTER S WITH SHORT STROKE OVERLAY
LATIN SMALL LETTER S WITH SHORT STROKE OVERLAY
@A7D0
LATIN CAPITAL LETTER CLOSED INSULAR G
LATIN SMALL LETTER CLOSED INSULAR G
@A7D3
LATIN SMALL LETTER DOUBLE THORN
@A7D5
LATIN SMALL LETTER DOUBLE WYNN
LATIN CAPITAL LETTER MIDDLE SCOTS S
LATIN SMALL LETTER MIDDLE SCOTS S
LATIN CAPITAL LETTER SIGMOID S
LATIN SMALL LETTER SIGMOID S
@A7F2
MODIFIER LETTER CAPITAL C
MODIFIER LETTER CAPITAL F
MODIFIER LETTER CAPITAL Q
LATIN CAPITAL LETTER REVERSED HALF H
LATIN SMALL LETTER REVERSED HALF H
LATIN EPIGRAPHIC LETTER SIDEWAYS I
MODIFIER LETTER CAPITAL H WITH STROKE
MODIFIER LETTER SMALL LIGATURE OE
LATIN LETTER SMALL CAPITAL TURNED M
LATIN EPIGRAPHIC LETTER REVERSED F
LATIN EPIGRAPHIC LETTER REVERSED P
LATIN EPIGRAPHIC LETTER INVERTED M
LATIN EPIGRAPHIC LETTER I LONGA
LATIN EPIGRAPHIC LETTER ARCHAIC M
SYLOTI NAGRI LETTER A
SYLOTI NAGRI LETTER I
SYLOTI NAGRI SIGN DVISVARA
SYLOTI NAGRI LETTER U
SYLOTI NAGRI LETTER E
SYLOTI NAGRI LETTER O
SYLOTI NAGRI SIGN HASANTA
SYLOTI NAGRI LETTER KO
SYLOTI NAGRI LETTER KHO
SYLOTI NAGRI LETTER GO
SYLOTI NAGRI LETTER GHO
SYLOTI NAGRI SIGN ANUSVARA
SYLOTI NAGRI LETTER CO
SYLOTI NAGRI LETTER CHO
SYLOTI NAGRI LETTER JO
SYLOTI NAGRI LETTER JHO
SYLOTI NAGRI LETTER TTO
SYLOTI NAGRI LETTER TTHO
SYLOTI NAGRI LETTER DDO
SYLOTI NAGRI LETTER DDHO
SYLOTI NAGRI LETTER TO
SYLOTI NAGRI LETTER THO
SYLOTI NAGRI LETTER DO
SYLOTI NAGRI LETTER DHO
SYLOTI NAGRI LETTER NO
SYLOTI NAGRI LETTER PO
SYLOTI NAGRI LETTER PHO
SYLOTI NAGRI LETTER BO
SYLOTI NAGRI LETTER BHO
SYLOTI NAGRI LETTER MO
SYLOTI NAGRI LETTER RO
SYLOTI NAGRI LETTER LO
SYLOTI NAGRI LETTER RRO
SYLOTI NAGRI LETTER SO
SYLOTI NAGRI LETTER HO
SYLOTI NAGRI VOWEL SIGN A
SYLOTI NAGRI VOWEL SIGN I
SYLOTI NAGRI VOWEL SIGN U
SYLOTI NAGRI VOWEL SIGN E
SYLOTI NAGRI VOWEL SIGN OO
SYLOTI NAGRI POETRY MARK-1
SYLOTI NAGRI POETRY MARK-2
SYLOTI NAGRI POETRY MARK-3
SYLOTI NAGRI POETRY MARK-4
SYLOTI NAGRI SIGN ALTERNATE HASANTA
@A830
NORTH INDIC FRACTION ONE QUARTER
NORTH INDIC FRACTION ONE HALF
NORTH INDIC FRACTION THREE QUARTERS
NORTH INDIC FRACTION ONE SIXTEENTH
NORTH INDIC FRACTION ONE EIGHTH
NORTH INDIC FRACTION THREE SIXTEENTHS
NORTH INDIC QUARTER MARK
NORTH INDIC PLACEHOLDER MARK
NORTH INDIC RUPEE MARK
NORTH INDIC QUANTITY MARK
@A840
PHAGS-PA LETTER KA
PHAGS-PA LETTER KHA
PHAGS-PA LETTER GA
PHAGS-PA LETTER NGA
PHAGS-PA LETTER CA
PHAGS-PA LETTER CHA
PHAGS-PA LETTER JA
PHAGS-PA LETTER NYA
PHAGS-PA LETTER TA
PHAGS-PA LETTER THA
PHAGS-PA LETTER DA
PHAGS-PA LETTER NA
PHAGS-PA LETTER PA
PHAGS-PA LETTER PHA
PHAGS-PA LETTER BA
PHAGS-PA LETTER MA
PHAGS-PA LETTER TSA
PHAGS-PA LETTER TSHA
PHAGS-PA LETTER DZA
PHAGS-PA LETTER WA
PHAGS-PA LETTER ZHA
PHAGS-PA LETTER ZA
PHAGS-PA LETTER SMALL A
PHAGS-PA LETTER YA
PHAGS-PA LETTER RA
PHAGS-PA LETTER LA
PHAGS-PA LETTER SHA
PHAGS-PA LETTER SA
PHAGS-PA LETTER HA
PHAGS-PA LETTER A
PHAGS-PA LETTER I
PHAGS-PA LETTER U
PHAGS-PA LETTER E
PHAGS-PA LETTER O
PHAGS-PA LETTER QA
PHAGS-PA LETTER XA
PHAGS-PA LETTER FA
PHAGS-PA LETTER GGA
PHAGS-PA LETTER EE
PHAGS-PA SUBJOINED LETTER WA
PHAGS-PA SUBJOINED LETTER YA
PHAGS-PA LETTER TTA
PHAGS-PA LETTER TTHA
PHAGS-PA LETTER DDA
PHAGS-PA LETTER NNA
PHAGS-PA LETTER ALTERNATE YA
PHAGS-PA LETTER VOICELESS SHA
PHAGS-PA LETTER VOICED HA
PHAGS-PA LETTER ASPIRATED FA
PHAGS-PA SUBJOINED LETTER RA
PHAGS-PA SUPERFIXED LETTER RA
PHAGS-PA LETTER CANDRABINDU
PHAGS-PA SINGLE HEAD MARK
PHAGS-PA DOUBLE HEAD MARK
PHAGS-PA MARK SHAD
PHAGS-PA MARK DOUBLE SHAD"

def formsC : String := "@A880
SAURASHTRA SIGN ANUSVARA
SAURASHTRA SIGN VISARGA
SAURASHTRA LETTER A
SAURASHTRA LETTER AA
SAURASHTRA LETTER I
SAURASHTRA LETTER II
SAURASHTRA LETTER U
SAURASHTRA LETTER UU
SAURASHTRA LETTER VOCALIC R
SAURASHTRA LETTER VOCALIC RR
SAURASHTRA LETTER VOCALIC L
SAURASHTRA LETTER VOCALIC LL
SAURASHTRA LETTER E
SAURASHTRA LETTER EE
SAURASHTRA LETTER AI
SAURASHTRA LETTER O
SAURASHTRA LETTER OO
SAURASHTRA LETTER AU
SAURASHTRA LETTER KA
SAURASHTRA LETTER KHA
SAURASHTRA LETTER GA
SAURASHTRA LETTER GHA
SAURASHTRA LETTER NGA
SAURASHTRA LETTER CA
SAURASHTRA LETTER CHA
SAURASHTRA LETTER JA
SAURASHTRA LETTER JHA
SAURASHTRA LETTER NYA
SAURASHTRA LETTER TTA
SAURASHTRA LETTER TTHA
SAURASHTRA LETTER DDA
SAURASHTRA LETTER DDHA
SAURASHTRA LETTER NNA
SAURASHTRA LETTER TA
SAURASHTRA LETTER THA
SAURASHTRA LETTER DA
SAURASHTRA LETTER DHA
SAURASHTRA LETTER NA
SAURASHTRA LETTER PA
SAURASHTRA LETTER PHA
SAURASHTRA LETTER BA
SAURASHTRA LETTER BHA
SAURASHTRA LETTER MA
SAURASHTRA LETTER YA
SAURASHTRA LETTER RA
SAURASHTRA LETTER LA
SAURASHTRA LETTER VA
SAURASHTRA LETTER SHA
SAURASHTRA LETTER SSA
SAURASHTRA LETTER SA
SAURASHTRA LETTER HA
SAURASHTRA LETTER LLA
SAURASHTRA CONSONANT SIGN HAARU
SAURASHTRA VOWEL SIGN AA
SAURASHTRA VOWEL SIGN I
SAURASHTRA VOWEL SIGN II
SAURASHTRA VOWEL SIGN U
SAURASHTRA VOWEL SIGN UU
SAURASHTRA VOWEL SIGN VOCALIC R
SAURASHTRA VOWEL SIGN VOCALIC RR
SAURASHTRA VOWEL SIGN VOCALIC L
SAURASHTRA VOWEL SIGN VOCALIC LL
SAURASHTRA VOWEL SIGN E
SAURASHTRA VOWEL SIGN EE
SAURASHTRA VOWEL SIGN AI
SAURASHTRA VOWEL SIGN O
SAURASHTRA VOWEL SIGN OO
SAURASHTRA VOWEL SIGN AU
SAURASHTRA SIGN VIRAMA
SAURASHTRA SIGN CANDRABINDU
@A8CE
SAURASHTRA DANDA
SAURASHTRA DOUBLE DANDA
SAURASHTRA DIGIT ZERO
SAURASHTRA DIGIT ONE
SAURASHTRA DIGIT TWO
SAURASHTRA DIGIT THREE
SAURASHTRA DIGIT FOUR
SAURASHTRA DIGIT FIVE
SAURASHTRA DIGIT SIX
SAURASHTRA DIGIT SEVEN
SAURASHTRA DIGIT EIGHT
SAURASHTRA DIGIT NINE
@A8E0
COMBINING DEVANAGARI DIGIT ZERO
COMBINING DEVANAGARI DIGIT ONE
COMBINING DEVANAGARI DIGIT TWO
COMBINING DEVANAGARI DIGIT THREE
COMBINING DEVANAGARI DIGIT FOUR
COMBINING DEVANAGARI DIGIT FIVE
COMBINING DEVANAGARI DIGIT SIX
COMBINING DEVANAGARI DIGIT SEVEN
COMBINING DEVANAGARI DIGIT EIGHT
COMBINING DEVANAGARI DIGIT NINE
COMBINING DEVANAGARI LETTER A
COMBINING DEVANAGARI LETTER U
COMBINING DEVANAGARI LETTER KA
COMBINING DEVANAGARI LETTER NA
COMBINING DEVANAGARI LETTER PA
COMBINING DEVANAGARI LETTER RA
COMBINING DEVANAGARI LETTER VI
COMBINING DEVANAGARI SIGN AVAGRAHA
DEVANAGARI SIGN SPACING CANDRABINDU
DEVANAGARI SIGN CANDRABINDU VIRAMA
DEVANAGARI SIGN DOUBLE CANDRABINDU VIRAMA
DEVANAGARI SIGN CANDRABINDU TWO
DEVANAGARI SIGN CANDRABINDU THREE
DEVANAGARI SIGN CANDRABINDU AVAGRAHA
DEVANAGARI SIGN PUSHPIKA
DEVANAGARI GAP FILLER
DEVANAGARI CARET
DEVANAGARI HEADSTROKE
DEVANAGARI SIGN SIDDHAM
DEVANAGARI JAIN OM
DEVANAGARI LETTER AY
DEVANAGARI VOWEL SIGN AY
KAYAH LI DIGIT ZERO
KAYAH LI DIGIT ONE
KAYAH LI DIGIT TWO
KAYAH LI DIGIT THREE
KAYAH LI DIGIT FOUR
KAYAH LI DIGIT FIVE
KAYAH LI DIGIT SIX
KAYAH LI DIGIT SEVEN
KAYAH LI DIGIT EIGHT
KAYAH LI DIGIT NINE
KAYAH LI LETTER KA
KAYAH LI LETTER KHA
KAYAH LI LETTER GA
KAYAH LI LETTER NGA
KAYAH LI LETTER SA
KAYAH LI LETTER SHA
KAYAH LI LETTER ZA
KAYAH LI LETTER NYA
KAYAH LI LETTER TA
KAYAH LI LETTER HTA
KAYAH LI LETTER NA
KAYAH LI LETTER PA
KAYAH LI LETTER PHA
KAYAH LI LETTER MA
KAYAH LI LETTER DA
KAYAH LI LETTER BA
KAYAH LI LETTER RA
KAYAH LI LETTER YA
KAYAH LI LETTER LA
KAYAH LI LETTER WA
KAYAH LI LETTER THA
KAYAH LI LETTER HA
KAYAH LI LETTER VA
KAYAH LI LETTER CA
KAYAH LI LETTER A
KAYAH LI LETTER OE
KAYAH LI LETTER I
KAYAH LI LETTER OO
KAYAH LI VOWEL UE
KAYAH LI VOWEL E
KAYAH LI VOWEL U
KAYAH LI VOWEL EE
KAYAH LI VOWEL O
KAYAH LI TONE PLOPHU
KAYAH LI TONE CALYA
KAYAH LI TONE CALYA PLOPHU
KAYAH LI SIGN CWI
KAYAH LI SIGN SHYA
REJANG LETTER KA
REJANG LETTER GA
REJANG LETTER NGA
REJANG LETTER TA
REJANG LETTER DA
REJANG LETTER NA
REJANG LETTER PA
REJANG LETTER BA
REJANG LETTER MA
REJANG LETTER CA
REJANG LETTER JA
REJANG LETTER NYA
REJANG LETTER SA
REJANG LETTER RA
REJANG LETTER LA
REJANG LETTER YA
REJANG LETTER WA
REJANG LETTER HA
REJANG LETTER MBA
REJANG LETTER NGGA
REJANG LETTER NDA
REJANG LETTER NYJA
REJANG LETTER A
REJANG VOWEL SIGN I
REJANG VOWEL SIGN U
REJANG VOWEL SIGN E
REJANG VOWEL SIGN AI
REJANG VOWEL SIGN O
REJANG VOWEL SIGN AU
REJANG VOWEL SIGN EU
REJANG VOWEL SIGN EA
REJANG CONSONANT SIGN NG
REJANG CONSONANT SIGN N
REJANG CONSONANT SIGN R
REJANG CONSONANT SIGN H
REJANG VIRAMA
@A95F
REJANG SECTION MARK
HANGUL CHOSEONG TIKEUT-MIEUM
HANGUL CHOSEONG TIKEUT-PIEUP
HANGUL CHOSEONG TIKEUT-SIOS
HANGUL CHOSEONG TIKEUT-CIEUC
HANGUL CHOSEONG RIEUL-KIYEOK
HANGUL CHOSEONG RIEUL-SSANGKIYEOK
HANGUL CHOSEONG RIEUL-TIKEUT
HANGUL CHOSEONG RIEUL-SSANGTIKEUT
HANGUL CHOSEONG RIEUL-MIEUM
HANGUL CHOSEONG RIEUL-PIEUP
HANGUL CHOSEONG RIEUL-SSANGPIEUP
HANGUL CHOSEONG RIEUL-KAPYEOUNPIEUP
HANGUL CHOSEONG RIEUL-SIOS
HANGUL CHOSEONG RIEUL-CIEUC
HANGUL CHOSEONG RIEUL-KHIEUKH
HANGUL CHOSEONG MIEUM-KIYEOK
HANGUL CHOSEONG MIEUM-TIKEUT
HANGUL CHOSEONG MIEUM-SIOS
HANGUL CHOSEONG PIEUP-SIOS-THIEUTH
HANGUL CHOSEONG PIEUP-KHIEUKH
HANGUL CHOSEONG PIEUP-HIEUH
HANGUL CHOSEONG SSANGSIOS-PIEUP
HANGUL CHOSEONG IEUNG-RIEUL
HANGUL CHOSEONG IEUNG-HIEUH
HANGUL CHOSEONG SSANGCIEUC-HIEUH
HANGUL CHOSEONG SSANGTHIEUTH
HANGUL CHOSEONG PHIEUPH-HIEUH
HANGUL CHOSEONG HIEUH-SIOS
HANGUL CHOSEONG SSANGYEORINHIEUH
@A980
JAVANESE SIGN PANYANGGA
JAVANESE SIGN CECAK
JAVANESE SIGN LAYAR
JAVANESE SIGN WIGNYAN
JAVANESE LETTER A
JAVANESE LETTER I KAWI
JAVANESE LETTER I
JAVANESE LETTER II
JAVANESE LETTER U
JAVANESE LETTER PA CEREK
JAVANESE LETTER NGA LELET
JAVANESE LETTER NGA LELET RASWADI
JAVANESE LETTER E
JAVANESE LETTER AI
JAVANESE LETTER O
JAVANESE LETTER KA
JAVANESE LETTER KA SASAK
JAVANESE LETTER KA MURDA
JAVANESE LETTER GA
JAVANESE LETTER GA MURDA
JAVANESE LETTER NGA
JAVANESE LETTER CA
JAVANESE LETTER CA MURDA
JAVANESE LETTER JA
JAVANESE LETTER NYA MURDA
JAVANESE LETTER JA MAHAPRANA
JAVANESE LETTER NYA
JAVANESE LETTER TTA
JAVANESE LETTER TTA MAHAPRANA
JAVANESE LETTER DDA
JAVANESE LETTER DDA MAHAPRANA
JAVANESE LETTER NA MURDA
JAVANESE LETTER TA
JAVANESE LETTER TA MURDA
JAVANESE LETTER DA
JAVANESE LETTER DA MAHAPRANA
JAVANESE LETTER NA
JAVANESE LETTER PA
JAVANESE LETTER PA MURDA
JAVANESE LETTER BA
JAVANESE LETTER BA MURDA
JAVANESE LETTER MA
JAVANESE LETTER YA
JAVANESE LETTER RA
JAVANESE LETTER RA AGUNG
JAVANESE LETTER LA
JAVANESE LETTER WA
JAVANESE LETTER SA MURDA
JAVANESE LETTER SA MAHAPRANA
JAVANESE LETTER SA
JAVANESE LETTER HA
JAVANESE SIGN CECAK TELU
JAVANESE VOWEL SIGN TARUNG
JAVANESE VOWEL SIGN TOLONG
JAVANESE VOWEL SIGN WULU
JAVANESE VOWEL SIGN WULU MELIK
JAVANESE VOWEL SIGN SUKU
JAVANESE VOWEL SIGN SUKU MENDUT
JAVANESE VOWEL SIGN TALING
JAVANESE VOWEL SIGN DIRGA MURE
JAVANESE VOWEL SIGN PEPET
JAVANESE CONSONANT SIGN KERET
JAVANESE CONSONANT SIGN PENGKAL
JAVANESE CONSONANT SIGN CAKRA
JAVANESE PANGKON
JAVANESE LEFT RERENGGAN
JAVANESE RIGHT RERENGGAN
JAVANESE PADA ANDAP
JAVANESE PADA MADYA
JAVANESE PADA LUHUR
JAVANESE PADA WINDU
JAVANESE PADA PANGKAT
JAVANESE PADA LINGSA
JAVANESE PADA LUNGSI
JAVANESE PADA ADEG
JAVANESE PADA ADEG ADEG
JAVANESE PADA PISELEH
JAVANESE TURNED PADA PISELEH
@A9CF
JAVANESE PANGRANGKEP
JAVANESE DIGIT ZERO
JAVANESE DIGIT ONE
JAVANESE DIGIT TWO
JAVANESE DIGIT THREE
JAVANESE DIGIT FOUR
JAVANESE DIGIT FIVE
JAVANESE DIGIT SIX
JAVANESE DIGIT SEVEN
JAVANESE DIGIT EIGHT
JAVANESE DIGIT NINE
@A9DE
JAVANESE PADA TIRTA TUMETES
JAVANESE PADA ISEN-ISEN
MYANMAR LETTER SHAN GHA
MYANMAR LETTER SHAN CHA
MYANMAR LETTER SHAN JHA
MYANMAR LETTER SHAN NNA
MYANMAR LETTER SHAN BHA
MYANMAR SIGN SHAN SAW
MYANMAR MODIFIER LETTER SHAN REDUPLICATION
MYANMAR LETTER TAI LAING NYA
MYANMAR LETTER TAI LAING FA
MYANMAR LETTER TAI LAING GA
MYANMAR LETTER TAI LAING GHA
MYANMAR LETTER TAI LAING JA
MYANMAR LETTER TAI LAING JHA
MYANMAR LETTER TAI LAING DDA
MYANMAR LETTER TAI LAING DDHA
MYANMAR LETTER TAI LAING NNA
MYANMAR TAI LAING DIGIT ZERO
MYANMAR TAI LAING DIGIT ONE
MYANMAR TAI LAING DIGIT TWO
MYANMAR TAI LAING DIGIT THREE
MYANMAR TAI LAING DIGIT FOUR
MYANMAR TAI LAING DIGIT FIVE
MYANMAR TAI LAING DIGIT SIX
MYANMAR TAI LAING DIGIT SEVEN
MYANMAR TAI LAING DIGIT EIGHT
MYANMAR TAI LAING DIGIT NINE
MYANMAR LETTER TAI LAING LLA
MYANMAR LETTER TAI LAING DA
MYANMAR LETTER TAI LAING DHA
MYANMAR LETTER TAI LAING BA
MYANMAR LETTER TAI LAING BHA
@AA00
CHAM LETTER A
CHAM LETTER I
CHAM LETTER U
CHAM LETTER E
CHAM LETTER AI
CHAM LETTER O
CHAM LETTER KA
CHAM LETTER KHA
CHAM LETTER GA
CHAM LETTER GHA
CHAM LETTER NGUE
CHAM LETTER NGA
CHAM LETTER CHA
CHAM LETTER CHHA
CHAM LETTER JA
CHAM LETTER JHA
CHAM LETTER NHUE
CHAM LETTER NHA
CHAM LETTER NHJA
CHAM LETTER TA
CHAM LETTER THA
CHAM LETTER DA
CHAM LETTER DHA
CHAM LETTER NUE
CHAM LETTER NA
CHAM LETTER DDA
CHAM LETTER PA
CHAM LETTER PPA
CHAM LETTER PHA
CHAM LETTER BA
CHAM LETTER BHA
CHAM LETTER MUE
CHAM LETTER MA
CHAM LETTER BBA
CHAM LETTER YA
CHAM LETTER RA
CHAM LETTER LA
CHAM LETTER VA
CHAM LETTER SSA
CHAM LETTER SA
CHAM LETTER HA
CHAM VOWEL SIGN AA
CHAM VOWEL SIGN I
CHAM VOWEL SIGN II
CHAM VOWEL SIGN EI
CHAM VOWEL SIGN U
CHAM VOWEL SIGN OE
CHAM VOWEL SIGN O
CHAM VOWEL SIGN AI
CHAM VOWEL SIGN AU
CHAM VOWEL SIGN UE
CHAM CONSONANT SIGN YA
CHAM CONSONANT SIGN RA
CHAM CONSONANT SIGN LA
CHAM CONSONANT SIGN WA
@AA40
CHAM LETTER FINAL K
CHAM LETTER FINAL G
CHAM LETTER FINAL NG
CHAM CONSONANT SIGN FINAL NG
CHAM LETTER FINAL CH
CHAM LETTER FINAL T
CHAM LETTER FINAL N
CHAM LETTER FINAL P
CHAM LETTER FINAL Y
CHAM LETTER FINAL R
CHAM LETTER FINAL L
CHAM LETTER FINAL SS
CHAM CONSONANT SIGN FINAL M
CHAM CONSONANT SIGN FINAL H
@AA50
CHAM DIGIT ZERO
CHAM DIGIT ONE
CHAM DIGIT TWO
CHAM DIGIT THREE
CHAM DIGIT FOUR
CHAM DIGIT FIVE
CHAM DIGIT SIX
CHAM DIGIT SEVEN
CHAM DIGIT EIGHT
CHAM DIGIT NINE
@AA5C
CHAM PUNCTUATION SPIRAL
CHAM PUNCTUATION DANDA
CHAM PUNCTUATION DOUBLE DANDA
CHAM PUNCTUATION TRIPLE DANDA
MYANMAR LETTER KHAMTI GA
MYANMAR LETTER KHAMTI CA
MYANMAR LETTER KHAMTI CHA
MYANMAR LETTER KHAMTI JA
MYANMAR LETTER KHAMTI JHA
MYANMAR LETTER KHAMTI NYA
MYANMAR LETTER KHAMTI TTA
MYANMAR LETTER KHAMTI TTHA
MYANMAR LETTER KHAMTI DDA
MYANMAR LETTER KHAMTI DDHA
MYANMAR LETTER KHAMTI DHA
MYANMAR LETTER KHAMTI NA
MYANMAR LETTER KHAMTI SA
MYANMAR LETTER KHAMTI HA
MYANMAR LETTER KHAMTI HHA
MYANMAR LETTER KHAMTI FA
MYANMAR MODIFIER LETTER KHAMTI REDUPLICATION
MYANMAR LETTER KHAMTI XA
MYANMAR LETTER KHAMTI ZA
MYANMAR LETTER KHAMTI RA
MYANMAR LOGOGRAM KHAMTI OAY
MYANMAR LOGOGRAM KHAMTI QN
MYANMAR LOGOGRAM KHAMTI HM
MYANMAR SYMBOL AITON EXCLAMATION
MYANMAR SYMBOL AITON ONE
MYANMAR SYMBOL AITON TWO
MYANMAR LETTER AITON RA
MYANMAR SIGN PAO KAREN TONE
MYANMAR SIGN TAI LAING TONE-2
MYANMAR SIGN TAI LAING TONE-5
MYANMAR LETTER SHWE PALAUNG CHA
MYANMAR LETTER SHWE PALAUNG SHA
TAI VIET LETTER LOW KO
TAI VIET LETTER HIGH KO
TAI VIET LETTER LOW KHO
TAI VIET LETTER HIGH KHO
TAI VIET LETTER LOW KHHO
TAI VIET LETTER HIGH KHHO
TAI VIET LETTER LOW GO
TAI VIET LETTER HIGH GO
TAI VIET LETTER LOW NGO
TAI VIET LETTER HIGH NGO
TAI VIET LETTER LOW CO
TAI VIET LETTER HIGH CO
TAI VIET LETTER LOW CHO
TAI VIET LETTER HIGH CHO
TAI VIET LETTER LOW SO
TAI VIET LETTER HIGH SO
TAI VIET LETTER LOW NYO
TAI VIET LETTER HIGH NYO
TAI VIET LETTER LOW DO
TAI VIET LETTER HIGH DO
TAI VIET LETTER LOW TO
TAI VIET LETTER HIGH TO
TAI VIET LETTER LOW THO
TAI VIET LETTER HIGH THO
TAI VIET LETTER LOW NO
TAI VIET LETTER HIGH NO
TAI VIET LETTER LOW BO
TAI VIET LETTER HIGH BO
TAI VIET LETTER LOW PO
TAI VIET LETTER HIGH PO
TAI VIET LETTER LOW PHO
TAI VIET LETTER HIGH PHO
TAI VIET LETTER LOW FO
TAI VIET LETTER HIGH FO
TAI VIET LETTER LOW MO
TAI VIET LETTER HIGH MO
TAI VIET LETTER LOW YO
TAI VIET LETTER HIGH YO
TAI VIET LETTER LOW RO
TAI VIET LETTER HIGH RO
TAI VIET LETTER LOW LO
TAI VIET LETTER HIGH LO
TAI VIET LETTER LOW VO
TAI VIET LETTER HIGH VO
TAI VIET LETTER LOW HO
TAI VIET LETTER HIGH HO
TAI VIET LETTER LOW O
TAI VIET LETTER HIGH O
TAI VIET MAI KANG
TAI VIET VOWEL AA
TAI VIET VOWEL I
TAI VIET VOWEL UE
TAI VIET VOWEL U
TAI VIET VOWEL E
TAI VIET VOWEL O
TAI VIET MAI KHIT
TAI VIET VOWEL IA
TAI VIET VOWEL UEA
TAI VIET VOWEL UA
TAI VIET VOWEL AUE
TAI VIET VOWEL AY
TAI VIET VOWEL AN
TAI VIET VOWEL AM
TAI VIET TONE MAI EK
TAI VIET TONE MAI NUENG
TAI VIET TONE MAI THO
TAI VIET TONE MAI SONG
@AADB
TAI VIET SYMBOL KON
TAI VIET SYMBOL NUENG
TAI VIET SYMBOL SAM
TAI VIET SYMBOL HO HOI
TAI VIET SYMBOL KOI KOI
MEETEI MAYEK LETTER E
MEETEI MAYEK LETTER O
MEETEI MAYEK LETTER CHA
MEETEI MAYEK LETTER NYA
MEETEI MAYEK LETTER TTA
MEETEI MAYEK LETTER TTHA
MEETEI MAYEK LETTER DDA
MEETEI MAYEK LETTER DDHA
MEETEI MAYEK LETTER NNA
MEETEI MAYEK LETTER SHA
MEETEI MAYEK LETTER SSA
MEETEI MAYEK VOWEL SIGN II
MEETEI MAYEK VOWEL SIGN UU
MEETEI MAYEK VOWEL SIGN AAI
MEETEI MAYEK VOWEL SIGN AU
MEETEI MAYEK VOWEL SIGN AAU
MEETEI MAYEK CHEIKHAN
MEETEI MAYEK AHANG KHUDAM
MEETEI MAYEK ANJI
MEETEI MAYEK SYLLABLE REPETITION MARK
MEETEI MAYEK WORD REPETITION MARK
MEETEI MAYEK VOWEL SIGN VISARGA
MEETEI MAYEK VIRAMA
@AB01
ETHIOPIC SYLLABLE TTHU
ETHIOPIC SYLLABLE TTHI
ETHIOPIC SYLLABLE TTHAA
ETHIOPIC SYLLABLE TTHEE
ETHIOPIC SYLLABLE TTHE
ETHIOPIC SYLLABLE TTHO
@AB09
ETHIOPIC SYLLABLE DDHU
ETHIOPIC SYLLABLE DDHI
ETHIOPIC SYLLABLE DDHAA
ETHIOPIC SYLLABLE DDHEE
ETHIOPIC SYLLABLE DDHE
ETHIOPIC SYLLABLE DDHO
@AB11
ETHIOPIC SYLLABLE DZU
ETHIOPIC SYLLABLE DZI
ETHIOPIC SYLLABLE DZAA
ETHIOPIC SYLLABLE DZEE
ETHIOPIC SYLLABLE DZE
ETHIOPIC SYLLABLE DZO
@AB20
ETHIOPIC SYLLABLE CCHHA
ETHIOPIC SYLLABLE CCHHU
ETHIOPIC SYLLABLE CCHHI
ETHIOPIC SYLLABLE CCHHAA
ETHIOPIC SYLLABLE CCHHEE
ETHIOPIC SYLLABLE CCHHE
ETHIOPIC SYLLABLE CCHHO
@AB28
ETHIOPIC SYLLABLE BBA
ETHIOPIC SYLLABLE BBU
ETHIOPIC SYLLABLE BBI
ETHIOPIC SYLLABLE BBAA
ETHIOPIC SYLLABLE BBEE
ETHIOPIC SYLLABLE BBE
ETHIOPIC SYLLABLE BBO
@AB30
LATIN SMALL LETTER BARRED ALPHA
LATIN SMALL LETTER A REVERSED-SCHWA
LATIN SMALL LETTER BLACKLETTER E
LATIN SMALL LETTER BARRED E
LATIN SMALL LETTER E WITH FLOURISH
LATIN SMALL LETTER LENIS F
LATIN SMALL LETTER SCRIPT G WITH CROSSED-TAIL
LATIN SMALL LETTER L WITH INVERTED LAZY S
LATIN SMALL LETTER L WITH DOUBLE MIDDLE TILDE
LATIN SMALL LETTER L WITH MIDDLE RING
LATIN SMALL LETTER M WITH CROSSED-TAIL
LATIN SMALL LETTER N WITH CROSSED-TAIL
LATIN SMALL LETTER ENG WITH CROSSED-TAIL
LATIN SMALL LETTER BLACKLETTER O
LATIN SMALL LETTER BLACKLETTER O WITH STROKE
LATIN SMALL LETTER OPEN O WITH STROKE
LATIN SMALL LETTER INVERTED OE
LATIN SMALL LETTER TURNED OE WITH STROKE
LATIN SMALL LETTER TURNED OE WITH HORIZONTAL STROKE
LATIN SMALL LETTER TURNED O OPEN-O
LATIN SMALL LETTER TURNED O OPEN-O WITH STROKE
LATIN SMALL LETTER STIRRUP R
LATIN LETTER SMALL CAPITAL R WITH RIGHT LEG
LATIN SMALL LETTER R WITHOUT HANDLE
LATIN SMALL LETTER DOUBLE R
LATIN SMALL LETTER R WITH CROSSED-TAIL
LATIN SMALL LETTER DOUBLE R WITH CROSSED-TAIL
LATIN SMALL LETTER SCRIPT R
LATIN SMALL LETTER SCRIPT R WITH RING
LATIN SMALL LETTER BASELINE ESH
LATIN SMALL LETTER U WITH SHORT RIGHT LEG
LATIN SMALL LETTER U BAR WITH SHORT RIGHT LEG
LATIN SMALL LETTER UI
LATIN SMALL LETTER TURNED UI
LATIN SMALL LETTER U WITH LEFT HOOK
LATIN SMALL LETTER CHI
LATIN SMALL LETTER CHI WITH LOW RIGHT RING
LATIN SMALL LETTER CHI WITH LOW LEFT SERIF
LATIN SMALL LETTER X WITH LOW RIGHT RING
LATIN SMALL LETTER X WITH LONG LEFT LEG
LATIN SMALL LETTER X WITH LONG LEFT LEG AND LOW RIGHT RING
LATIN SMALL LETTER X WITH LONG LEFT LEG WITH SERIF
LATIN SMALL LETTER Y WITH SHORT RIGHT LEG
MODIFIER BREVE WITH INVERTED BREVE
MODIFIER LETTER SMALL HENG
MODIFIER LETTER SMALL L WITH INVERTED LAZY S
MODIFIER LETTER SMALL L WITH MIDDLE TILDE
MODIFIER LETTER SMALL U WITH LEFT HOOK
LATIN SMALL LETTER SAKHA YAT
LATIN SMALL LETTER IOTIFIED E
LATIN SMALL LETTER OPEN OE
LATIN SMALL LETTER UO
LATIN SMALL LETTER INVERTED ALPHA
GREEK LETTER SMALL CAPITAL OMEGA
LATIN SMALL LETTER DZ DIGRAPH WITH RETROFLEX HOOK
LATIN SMALL LETTER TS DIGRAPH WITH RETROFLEX HOOK
LATIN SMALL LETTER TURNED R WITH MIDDLE TILDE
MODIFIER LETTER SMALL TURNED W
MODIFIER LETTER LEFT TACK
MODIFIER LETTER RIGHT TACK
@AB70
CHEROKEE SMALL LETTER A
CHEROKEE SMALL LETTER E
CHEROKEE SMALL LETTER I
CHEROKEE SMALL LETTER O
CHEROKEE SMALL LETTER U
CHEROKEE SMALL LETTER V
CHEROKEE SMALL LETTER GA
CHEROKEE SMALL LETTER KA
CHEROKEE SMALL LETTER GE
CHEROKEE SMALL LETTER GI
CHEROKEE SMALL LETTER GO
CHEROKEE SMALL LETTER GU
CHEROKEE SMALL LETTER GV
CHEROKEE SMALL LETTER HA
CHEROKEE SMALL LETTER HE
CHEROKEE SMALL LETTER HI
CHEROKEE SMALL LETTER HO
CHEROKEE SMALL LETTER HU
CHEROKEE SMALL LETTER HV
CHEROKEE SMALL LETTER LA
CHEROKEE SMALL LETTER LE
CHEROKEE SMALL LETTER LI
CHEROKEE SMALL LETTER LO
CHEROKEE SMALL LETTER LU
CHEROKEE SMALL LETTER LV
CHEROKEE SMALL LETTER MA
CHEROKEE SMALL LETTER ME
CHEROKEE SMALL LETTER MI
CHEROKEE SMALL LETTER MO
CHEROKEE SMALL LETTER MU
CHEROKEE SMALL LETTER NA
CHEROKEE SMALL LETTER HNA
CHEROKEE SMALL LETTER NAH
CHEROKEE SMALL LETTER NE
CHEROKEE SMALL LETTER NI
CHEROKEE SMALL LETTER NO
CHEROKEE SMALL LETTER NU
CHEROKEE SMALL LETTER NV
CHEROKEE SMALL LETTER QUA
CHEROKEE SMALL LETTER QUE
CHEROKEE SMALL LETTER QUI
CHEROKEE SMALL LETTER QUO
CHEROKEE SMALL LETTER QUU
CHEROKEE SMALL LETTER QUV
CHEROKEE SMALL LETTER SA
CHEROKEE SMALL LETTER S
CHEROKEE SMALL LETTER SE
CHEROKEE SMALL LETTER SI
CHEROKEE SMALL LETTER SO
CHEROKEE SMALL LETTER SU
CHEROKEE SMALL LETTER SV
CHEROKEE SMALL LETTER DA
CHEROKEE SMALL LETTER TA
CHEROKEE SMALL LETTER DE
CHEROKEE SMALL LETTER TE
CHEROKEE SMALL LETTER DI
CHEROKEE SMALL LETTER TI
CHEROKEE SMALL LETTER DO
CHEROKEE SMALL LETTER DU
CHEROKEE SMALL LETTER DV
CHEROKEE SMALL LETTER DLA
CHEROKEE SMALL LETTER TLA
CHEROKEE SMALL LETTER TLE
CHEROKEE SMALL LETTER TLI
CHEROKEE SMALL LETTER TLO
CHEROKEE SMALL LETTER TLU
CHEROKEE SMALL LETTER TLV
CHEROKEE SMALL LETTER TSA
CHEROKEE SMALL LETTER TSE
CHEROKEE SMALL LETTER TSI
CHEROKEE SMALL LETTER TSO
CHEROKEE SMALL LETTER TSU
CHEROKEE SMALL LETTER TSV
CHEROKEE SMALL LETTER WA
CHEROKEE SMALL LETTER WE
CHEROKEE SMALL LETTER WI
CHEROKEE SMALL LETTER WO
CHEROKEE SMALL LETTER WU
CHEROKEE SMALL LETTER WV
CHEROKEE SMALL LETTER YA
MEETEI MAYEK LETTER KOK
MEETEI MAYEK LETTER SAM
MEETEI MAYEK LETTER LAI
MEETEI MAYEK LETTER MIT
MEETEI MAYEK LETTER PA
MEETEI MAYEK LETTER NA
MEETEI MAYEK LETTER CHIL
MEETEI MAYEK LETTER TIL
MEETEI MAYEK LETTER KHOU
MEETEI MAYEK LETTER NGOU
MEETEI MAYEK LETTER THOU
MEETEI MAYEK LETTER WAI
MEETEI MAYEK LETTER YANG
MEETEI MAYEK LETTER HUK
MEETEI MAYEK LETTER UN
MEETEI MAYEK LETTER I
MEETEI MAYEK LETTER PHAM
MEETEI MAYEK LETTER ATIYA
MEETEI MAYEK LETTER GOK
MEETEI MAYEK LETTER JHAM
MEETEI MAYEK LETTER RAI
MEETEI MAYEK LETTER BA
MEETEI MAYEK LETTER JIL
MEETEI MAYEK LETTER DIL
MEETEI MAYEK LETTER GHOU
MEETEI MAYEK LETTER DHOU
MEETEI MAYEK LETTER BHAM
MEETEI MAYEK LETTER KOK LONSUM
MEETEI MAYEK LETTER LAI LONSUM
MEETEI MAYEK LETTER MIT LONSUM
MEETEI MAYEK LETTER PA LONSUM
MEETEI MAYEK LETTER NA LONSUM
MEETEI MAYEK LETTER TIL LONSUM
MEETEI MAYEK LETTER NGOU LONSUM
MEETEI MAYEK LETTER I LONSUM
MEETEI MAYEK VOWEL SIGN ONAP
MEETEI MAYEK VOWEL SIGN INAP
MEETEI MAYEK VOWEL SIGN ANAP
MEETEI MAYEK VOWEL SIGN YENAP
MEETEI MAYEK VOWEL SIGN SOUNAP
MEETEI MAYEK VOWEL SIGN UNAP
MEETEI MAYEK VOWEL SIGN CHEINAP
MEETEI MAYEK VOWEL SIGN NUNG
MEETEI MAYEK CHEIKHEI
MEETEI MAYEK LUM IYEK
MEETEI MAYEK APUN IYEK
@ABF0
MEETEI MAYEK DIGIT ZERO
MEETEI MAYEK DIGIT ONE
MEETEI MAYEK DIGIT TWO
MEETEI MAYEK DIGIT THREE
MEETEI MAYEK DIGIT FOUR
MEETEI MAYEK DIGIT FIVE
MEETEI MAYEK DIGIT SIX
MEETEI MAYEK DIGIT SEVEN
MEETEI MAYEK DIGIT EIGHT
MEETEI MAYEK DIGIT NINE
@D7B0
HANGUL JUNGSEONG O-YEO
HANGUL JUNGSEONG O-O-I
HANGUL JUNGSEONG YO-A
HANGUL JUNGSEONG YO-AE
HANGUL JUNGSEONG YO-EO
HANGUL JUNGSEONG U-YEO
HANGUL JUNGSEONG U-I-I
HANGUL JUNGSEONG YU-AE
HANGUL JUNGSEONG YU-O
HANGUL JUNGSEONG EU-A
HANGUL JUNGSEONG EU-EO
HANGUL JUNGSEONG EU-E
HANGUL JUNGSEONG EU-O
HANGUL JUNGSEONG I-YA-O
HANGUL JUNGSEONG I-YAE
HANGUL JUNGSEONG I-YEO
HANGUL JUNGSEONG I-YE
HANGUL JUNGSEONG I-O-I
HANGUL JUNGSEONG I-YO
HANGUL JUNGSEONG I-YU
HANGUL JUNGSEONG I-I
HANGUL JUNGSEONG ARAEA-A
HANGUL JUNGSEONG ARAEA-E
@D7CB
HANGUL JONGSEONG NIEUN-RIEUL
HANGUL JONGSEONG NIEUN-CHIEUCH
HANGUL JONGSEONG SSANGTIKEUT
HANGUL JONGSEONG SSANGTIKEUT-PIEUP
HANGUL JONGSEONG TIKEUT-PIEUP
HANGUL JONGSEONG TIKEUT-SIOS
HANGUL JONGSEONG TIKEUT-SIOS-KIYEOK
HANGUL JONGSEONG TIKEUT-CIEUC
HANGUL JONGSEONG TIKEUT-CHIEUCH
HANGUL JONGSEONG TIKEUT-THIEUTH
HANGUL JONGSEONG RIEUL-SSANGKIYEOK
HANGUL JONGSEONG RIEUL-KIYEOK-HIEUH
HANGUL JONGSEONG SSANGRIEUL-KHIEUKH
HANGUL JONGSEONG RIEUL-MIEUM-HIEUH
HANGUL JONGSEONG RIEUL-PIEUP-TIKEUT
HANGUL JONGSEONG RIEUL-PIEUP-PHIEUPH
HANGUL JONGSEONG RIEUL-YESIEUNG
HANGUL JONGSEONG RIEUL-YEORINHIEUH-HIEUH
HANGUL JONGSEONG KAPYEOUNRIEUL
HANGUL JONGSEONG MIEUM-NIEUN
HANGUL JONGSEONG MIEUM-SSANGNIEUN
HANGUL JONGSEONG SSANGMIEUM
HANGUL JONGSEONG MIEUM-PIEUP-SIOS
HANGUL JONGSEONG MIEUM-CIEUC
HANGUL JONGSEONG PIEUP-TIKEUT
HANGUL JONGSEONG PIEUP-RIEUL-PHIEUPH
HANGUL JONGSEONG PIEUP-MIEUM
HANGUL JONGSEONG SSANGPIEUP
HANGUL JONGSEONG PIEUP-SIOS-TIKEUT
HANGUL JONGSEONG PIEUP-CIEUC
HANGUL JONGSEONG PIEUP-CHIEUCH
HANGUL JONGSEONG SIOS-MIEUM
HANGUL JONGSEONG SIOS-KAPYEOUNPIEUP
HANGUL JONGSEONG SSANGSIOS-KIYEOK
HANGUL JONGSEONG SSANGSIOS-TIKEUT
HANGUL JONGSEONG SIOS-PANSIOS
HANGUL JONGSEONG SIOS-CIEUC
HANGUL JONGSEONG SIOS-CHIEUCH
HANGUL JONGSEONG SIOS-THIEUTH
HANGUL JONGSEONG SIOS-HIEUH
HANGUL JONGSEONG PANSIOS-PIEUP
HANGUL JONGSEONG PANSIOS-KAPYEOUNPIEUP
HANGUL JONGSEONG YESIEUNG-MIEUM
HANGUL JONGSEONG YESIEUNG-HIEUH
HANGUL JONGSEONG CIEUC-PIEUP
HANGUL JONGSEONG CIEUC-SSANGPIEUP
HANGUL JONGSEONG SSANGCIEUC
HANGUL JONGSEONG PHIEUPH-SIOS
HANGUL JONGSEONG PHIEUPH-THIEUTH"

def formsD : String := "@FB00
LATIN SMALL LIGATURE FF
LATIN SMALL LIGATURE FI
LATIN SMALL LIGATURE FL
LATIN SMALL LIGATURE FFI
LATIN SMALL LIGATURE FFL
LATIN SMALL LIGATURE LONG S T
LATIN SMALL LIGATURE ST
@FB13
ARMENIAN SMALL LIGATURE MEN NOW
ARMENIAN SMALL LIGATURE MEN ECH
ARMENIAN SMALL LIGATURE MEN INI
ARMENIAN SMALL LIGATURE VEW NOW
ARMENIAN SMALL LIGATURE MEN XEH
@FB1D
HEBREW LETTER YOD WITH HIRIQ
HEBREW POINT JUDEO-SPANISH VARIKA
HEBREW LIGATURE YIDDISH YOD YOD PATAH
HEBREW LETTER ALTERNATIVE AYIN
HEBREW LETTER WIDE ALEF
HEBREW LETTER WIDE DALET
HEBREW LETTER WIDE HE
HEBREW LETTER WIDE KAF
HEBREW LETTER WIDE LAMED
HEBREW LETTER WIDE FINAL MEM
HEBREW LETTER WIDE RESH
HEBREW LETTER WIDE TAV
HEBREW LETTER ALTERNATIVE PLUS SIGN
HEBREW LETTER SHIN WITH SHIN DOT
HEBREW LETTER SHIN WITH SIN DOT
HEBREW LETTER SHIN WITH DAGESH AND SHIN DOT
HEBREW LETTER SHIN WITH DAGESH AND SIN DOT
HEBREW LETTER ALEF WITH PATAH
HEBREW LETTER ALEF WITH QAMATS
HEBREW LETTER ALEF WITH MAPIQ
HEBREW LETTER BET WITH DAGESH
HEBREW LETTER GIMEL WITH DAGESH
HEBREW LETTER DALET WITH DAGESH
HEBREW LETTER HE WITH MAPIQ
HEBREW LETTER VAV WITH DAGESH
HEBREW LETTER ZAYIN WITH DAGESH
@FB38
HEBREW LETTER TET WITH DAGESH
HEBREW LETTER YOD WITH DAGESH
HEBREW LETTER FINAL KAF WITH DAGESH
HEBREW LETTER KAF WITH DAGESH
HEBREW LETTER LAMED WITH DAGESH
@FB3E
HEBREW LETTER MEM WITH DAGESH
@FB40
HEBREW LETTER NUN WITH DAGESH
HEBREW LETTER SAMEKH WITH DAGESH
@FB43
HEBREW LETTER FINAL PE WITH DAGESH
HEBREW LETTER PE WITH DAGESH
@FB46
HEBREW LETTER TSADI WITH DAGESH
HEBREW LETTER QOF WITH DAGESH
HEBREW LETTER RESH WITH DAGESH
HEBREW LETTER SHIN WITH DAGESH
HEBREW LETTER TAV WITH DAGESH
HEBREW LETTER VAV WITH HOLAM
HEBREW LETTER BET WITH RAFE
HEBREW LETTER KAF WITH RAFE
HEBREW LETTER PE WITH RAFE
HEBREW LIGATURE ALEF LAMED
ARABIC LETTER ALEF WASLA ISOLATED FORM
ARABIC LETTER ALEF WASLA FINAL FORM
ARABIC LETTER BEEH ISOLATED FORM
ARABIC LETTER BEEH FINAL FORM
ARABIC LETTER BEEH INITIAL FORM
ARABIC LETTER BEEH MEDIAL FORM
ARABIC LETTER PEH ISOLATED FORM
ARABIC LETTER PEH FINAL FORM
ARABIC LETTER PEH INITIAL FORM
ARABIC LETTER PEH MEDIAL FORM
ARABIC LETTER BEHEH ISOLATED FORM
ARABIC LETTER BEHEH FINAL FORM
ARABIC LETTER BEHEH INITIAL FORM
ARABIC LETTER BEHEH MEDIAL FORM
ARABIC LETTER TTEHEH ISOLATED FORM
ARABIC LETTER TTEHEH FINAL FORM
ARABIC LETTER TTEHEH INITIAL FORM
ARABIC LETTER TTEHEH MEDIAL FORM
ARABIC LETTER TEHEH ISOLATED FORM
ARABIC LETTER TEHEH FINAL FORM
ARABIC LETTER TEHEH INITIAL FORM
ARABIC LETTER TEHEH MEDIAL FORM
ARABIC LETTER TTEH ISOLATED FORM
ARABIC LETTER TTEH FINAL FORM
ARABIC LETTER TTEH INITIAL FORM
ARABIC LETTER TTEH MEDIAL FORM
ARABIC LETTER VEH ISOLATED FORM
ARABIC LETTER VEH FINAL FORM
ARABIC LETTER VEH INITIAL FORM
ARABIC LETTER VEH MEDIAL FORM
ARABIC LETTER PEHEH ISOLATED FORM
ARABIC LETTER PEHEH FINAL FORM
ARABIC LETTER PEHEH INITIAL FORM
ARABIC LETTER PEHEH MEDIAL FORM
ARABIC LETTER DYEH ISOLATED FORM
ARABIC LETTER DYEH FINAL FORM
ARABIC LETTER DYEH INITIAL FORM
ARABIC LETTER DYEH MEDIAL FORM
ARABIC LETTER NYEH ISOLATED FORM
ARABIC LETTER NYEH FINAL FORM
ARABIC LETTER NYEH INITIAL FORM
ARABIC LETTER NYEH MEDIAL FORM
ARABIC LETTER TCHEH ISOLATED FORM
ARABIC LETTER TCHEH FINAL FORM
ARABIC LETTER TCHEH INITIAL FORM
ARABIC LETTER TCHEH MEDIAL FORM
ARABIC LETTER TCHEHEH ISOLATED FORM
ARABIC LETTER TCHEHEH FINAL FORM
ARABIC LETTER TCHEHEH INITIAL FORM
ARABIC LETTER TCHEHEH MEDIAL FORM
ARABIC LETTER DDAHAL ISOLATED FORM
ARABIC LETTER DDAHAL FINAL FORM
ARABIC LETTER DAHAL ISOLATED FORM
ARABIC LETTER DAHAL FINAL FORM
ARABIC LETTER DUL ISOLATED FORM
ARABIC LETTER DUL FINAL FORM
ARABIC LETTER DDAL ISOLATED FORM
ARABIC LETTER DDAL FINAL FORM
ARABIC LETTER JEH ISOLATED FORM
ARABIC LETTER JEH FINAL FORM
ARABIC LETTER RREH ISOLATED FORM
ARABIC LETTER RREH FINAL FORM
ARABIC LETTER KEHEH ISOLATED FORM
ARABIC LETTER KEHEH FINAL FORM
ARABIC LETTER KEHEH INITIAL FORM
ARABIC LETTER KEHEH MEDIAL FORM
ARABIC LETTER GAF ISOLATED FORM
ARABIC LETTER GAF FINAL FORM
ARABIC LETTER GAF INITIAL FORM
ARABIC LETTER GAF MEDIAL FORM
ARABIC LETTER GUEH ISOLATED FORM
ARABIC LETTER GUEH FINAL FORM
ARABIC LETTER GUEH INITIAL FORM
ARABIC LETTER GUEH MEDIAL FORM
ARABIC LETTER NGOEH ISOLATED FORM
ARABIC LETTER NGOEH FINAL FORM
ARABIC LETTER NGOEH INITIAL FORM
ARABIC LETTER NGOEH MEDIAL FORM
ARABIC LETTER NOON GHUNNA ISOLATED FORM
ARABIC LETTER NOON GHUNNA FINAL FORM
ARABIC LETTER RNOON ISOLATED FORM
ARABIC LETTER RNOON FINAL FORM
ARABIC LETTER RNOON INITIAL FORM
ARABIC LETTER RNOON MEDIAL FORM
ARABIC LETTER HEH WITH YEH ABOVE ISOLATED FORM
ARABIC LETTER HEH WITH YEH ABOVE FINAL FORM
ARABIC LETTER HEH GOAL ISOLATED FORM
ARABIC LETTER HEH GOAL FINAL FORM
ARABIC LETTER HEH GOAL INITIAL FORM
ARABIC LETTER HEH GOAL MEDIAL FORM
ARABIC LETTER HEH DOACHASHMEE ISOLATED FORM
ARABIC LETTER HEH DOACHASHMEE FINAL FORM
ARABIC LETTER HEH DOACHASHMEE INITIAL FORM
ARABIC LETTER HEH DOACHASHMEE MEDIAL FORM
ARABIC LETTER YEH BARREE ISOLATED FORM
ARABIC LETTER YEH BARREE FINAL FORM
ARABIC LETTER YEH BARREE WITH HAMZA ABOVE ISOLATED FORM
ARABIC LETTER YEH BARREE WITH HAMZA ABOVE FINAL FORM
ARABIC SYMBOL DOT ABOVE
ARABIC SYMBOL DOT BELOW
ARABIC SYMBOL TWO DOTS ABOVE
ARABIC SYMBOL TWO DOTS BELOW
ARABIC SYMBOL THREE DOTS ABOVE
ARABIC SYMBOL THREE DOTS BELOW
ARABIC SYMBOL THREE DOTS POINTING DOWNWARDS ABOVE
ARABIC SYMBOL THREE DOTS POINTING DOWNWARDS BELOW
ARABIC SYMBOL FOUR DOTS ABOVE
ARABIC SYMBOL FOUR DOTS BELOW
ARABIC SYMBOL DOUBLE VERTICAL BAR BELOW
ARABIC SYMBOL TWO DOTS VERTICALLY ABOVE
ARABIC SYMBOL TWO DOTS VERTICALLY BELOW
ARABIC SYMBOL RING
ARABIC SYMBOL SMALL TAH ABOVE
ARABIC SYMBOL SMALL TAH BELOW
ARABIC SYMBOL WASLA ABOVE
@FBD3
ARABIC LETTER NG ISOLATED FORM
ARABIC LETTER NG FINAL FORM
ARABIC LETTER NG INITIAL FORM
ARABIC LETTER NG MEDIAL FORM
ARABIC LETTER U ISOLATED FORM
ARABIC LETTER U FINAL FORM
ARABIC LETTER OE ISOLATED FORM
ARABIC LETTER OE FINAL FORM
ARABIC LETTER YU ISOLATED FORM
ARABIC LETTER YU FINAL FORM
ARABIC LETTER U WITH HAMZA ABOVE ISOLATED FORM
ARABIC LETTER VE ISOLATED FORM
ARABIC LETTER VE FINAL FORM
ARABIC LETTER KIRGHIZ OE ISOLATED FORM
ARABIC LETTER KIRGHIZ OE FINAL FORM
ARABIC LETTER KIRGHIZ YU ISOLATED FORM
ARABIC LETTER KIRGHIZ YU FINAL FORM
ARABIC LETTER E ISOLATED FORM
ARABIC LETTER E FINAL FORM
ARABIC LETTER E INITIAL FORM
ARABIC LETTER E MEDIAL FORM
ARABIC LETTER UIGHUR KAZAKH KIRGHIZ ALEF MAKSURA INITIAL FORM
ARABIC LETTER UIGHUR KAZAKH KIRGHIZ ALEF MAKSURA MEDIAL FORM
ARABIC LIGATURE YEH WITH HAMZA ABOVE WITH ALEF ISOLATED FORM
ARABIC LIGATURE YEH WITH HAMZA ABOVE WITH ALEF FINAL FORM
ARABIC LIGATURE YEH WITH HAMZA ABOVE WITH AE ISOLATED FORM
ARABIC LIGATURE YEH WITH HAMZA ABOVE WITH AE FINAL FORM
ARABIC LIGATURE YEH WITH HAMZA ABOVE WITH WAW ISOLATED FORM
ARABIC LIGATURE YEH WITH HAMZA ABOVE WITH WAW FINAL FORM
ARABIC LIGATURE YEH WITH HAMZA ABOVE WITH U ISOLATED FORM
ARABIC LIGATURE YEH WITH HAMZA ABOVE WITH U FINAL FORM
ARABIC LIGATURE YEH WITH HAMZA ABOVE WITH OE ISOLATED FORM
ARABIC LIGATURE YEH WITH HAMZA ABOVE WITH OE FINAL FORM
ARABIC LIGATURE YEH WITH HAMZA ABOVE WITH YU ISOLATED FORM
ARABIC LIGATURE YEH WITH HAMZA ABOVE WITH YU FINAL FORM
ARABIC LIGATURE YEH WITH HAMZA ABOVE WITH E ISOLATED FORM
ARABIC LIGATURE YEH WITH HAMZA ABOVE WITH E FINAL FORM
ARABIC LIGATURE YEH WITH HAMZA ABOVE WITH E INITIAL FORM
ARABIC LIGATURE UIGHUR KIRGHIZ YEH WITH HAMZA ABOVE WITH ALEF MAKSURA ISOLATED FORM
ARABIC LIGATURE UIGHUR KIRGHIZ YEH WITH HAMZA ABOVE WITH ALEF MAKSURA FINAL FORM
ARABIC LIGATURE UIGHUR KIRGHIZ YEH WITH HAMZA ABOVE WITH ALEF MAKSURA INITIAL FORM
ARABIC LETTER FARSI YEH ISOLATED FORM
ARABIC LETTER FARSI YEH FINAL FORM
ARABIC LETTER FARSI YEH INITIAL FORM
ARABIC LETTER FARSI YEH MEDIAL FORM
ARABIC LIGATURE YEH WITH HAMZA ABOVE WITH JEEM ISOLATED FORM
ARABIC LIGATURE YEH WITH HAMZA ABOVE WITH HAH ISOLATED FORM
ARABIC LIGATURE YEH WITH HAMZA ABOVE WITH MEEM ISOLATED FORM
ARABIC LIGATURE YEH WITH HAMZA ABOVE WITH ALEF MAKSURA ISOLATED FORM
ARABIC LIGATURE YEH WITH HAMZA ABOVE WITH YEH ISOLATED FORM
ARABIC LIGATURE BEH WITH JEEM ISOLATED FORM
ARABIC LIGATURE BEH WITH HAH ISOLATED FORM
ARABIC LIGATURE BEH WITH KHAH ISOLATED FORM
ARABIC LIGATURE BEH WITH MEEM ISOLATED FORM
ARABIC LIGATURE BEH WITH ALEF MAKSURA ISOLATED FORM
ARABIC LIGATURE BEH WITH YEH ISOLATED FORM
ARABIC LIGATURE TEH WITH JEEM ISOLATED FORM
ARABIC LIGATURE TEH WITH HAH ISOLATED FORM
ARABIC LIGATURE TEH WITH KHAH ISOLATED FORM
ARABIC LIGATURE TEH WITH MEEM ISOLATED FORM
ARABIC LIGATURE TEH WITH ALEF MAKSURA ISOLATED FORM
ARABIC LIGATURE TEH WITH YEH ISOLATED FORM
ARABIC LIGATURE THEH WITH JEEM ISOLATED FORM
ARABIC LIGATURE THEH WITH MEEM ISOLATED FORM
ARABIC LIGATURE THEH WITH ALEF MAKSURA ISOLATED FORM
ARABIC LIGATURE THEH WITH YEH ISOLATED FORM
ARABIC LIGATURE JEEM WITH HAH ISOLATED FORM
ARABIC LIGATURE JEEM WITH MEEM ISOLATED FORM
ARABIC LIGATURE HAH WITH JEEM ISOLATED FORM
ARABIC LIGATURE HAH WITH MEEM ISOLATED FORM
ARABIC LIGATURE KHAH WITH JEEM ISOLATED FORM
ARABIC LIGATURE KHAH WITH HAH ISOLATED FORM
ARABIC LIGATURE KHAH WITH MEEM ISOLATED FORM
ARABIC LIGATURE SEEN WITH JEEM ISOLATED FORM
ARABIC LIGATURE SEEN WITH HAH ISOLATED FORM
ARABIC LIGATURE SEEN WITH KHAH ISOLATED FORM
ARABIC LIGATURE SEEN WITH MEEM ISOLATED FORM
ARABIC LIGATURE SAD WITH HAH ISOLATED FORM
ARABIC LIGATURE SAD WITH MEEM ISOLATED FORM
ARABIC LIGATURE DAD WITH JEEM ISOLATED FORM
ARABIC LIGATURE DAD WITH HAH ISOLATED FORM
ARABIC LIGATURE DAD WITH KHAH ISOLATED FORM
ARABIC LIGATURE DAD WITH MEEM ISOLATED FORM
ARABIC LIGATURE TAH WITH HAH ISOLATED FORM
ARABIC LIGATURE TAH WITH MEEM ISOLATED FORM
ARABIC LIGATURE ZAH WITH MEEM ISOLATED FORM
ARABIC LIGATURE AIN WITH JEEM ISOLATED FORM
ARABIC LIGATURE AIN WITH MEEM ISOLATED FORM
ARABIC LIGATURE GHAIN WITH JEEM ISOLATED FORM
ARABIC LIGATURE GHAIN WITH MEEM ISOLATED FORM
ARABIC LIGATURE FEH WITH JEEM ISOLATED FORM
ARABIC LIGATURE FEH WITH HAH ISOLATED FORM
ARABIC LIGATURE FEH WITH KHAH ISOLATED FORM
ARABIC LIGATURE FEH WITH MEEM ISOLATED FORM
ARABIC LIGATURE FEH WITH ALEF MAKSURA ISOLATED FORM
ARABIC LIGATURE FEH WITH YEH ISOLATED FORM
ARABIC LIGATURE QAF WITH HAH ISOLATED FORM
ARABIC LIGATURE QAF WITH MEEM ISOLATED FORM
ARABIC LIGATURE QAF WITH ALEF MAKSURA ISOLATED FORM
ARABIC LIGATURE QAF WITH YEH ISOLATED FORM
ARABIC LIGATURE KAF WITH ALEF ISOLATED FORM
ARABIC LIGATURE KAF WITH JEEM ISOLATED FORM
ARABIC LIGATURE KAF WITH HAH ISOLATED FORM
ARABIC LIGATURE KAF WITH KHAH ISOLATED FORM
ARABIC LIGATURE KAF WITH LAM ISOLATED FORM
ARABIC LIGATURE KAF WITH MEEM ISOLATED FORM
ARABIC LIGATURE KAF WITH ALEF MAKSURA ISOLATED FORM
ARABIC LIGATURE KAF WITH YEH ISOLATED FORM
ARABIC LIGATURE LAM WITH JEEM ISOLATED FORM
ARABIC LIGATURE LAM WITH HAH ISOLATED FORM
ARABIC LIGATURE LAM WITH KHAH ISOLATED FORM
ARABIC LIGATURE LAM WITH MEEM ISOLATED FORM
ARABIC LIGATURE LAM WITH ALEF MAKSURA ISOLATED FORM
ARABIC LIGATURE LAM WITH YEH ISOLATED FORM
ARABIC LIGATURE MEEM WITH JEEM ISOLATED FORM
ARABIC LIGATURE MEEM WITH HAH ISOLATED FORM
ARABIC LIGATURE MEEM WITH KHAH ISOLATED FORM
ARABIC LIGATURE MEEM WITH MEEM ISOLATED FORM
ARABIC LIGATURE MEEM WITH ALEF MAKSURA ISOLATED FORM
ARABIC LIGATURE MEEM WITH YEH ISOLATED FORM
ARABIC LIGATURE NOON WITH JEEM ISOLATED FORM
ARABIC LIGATURE NOON WITH HAH ISOLATED FORM
ARABIC LIGATURE NOON WITH KHAH ISOLATED FORM
ARABIC LIGATURE NOON WITH MEEM ISOLATED FORM
ARABIC LIGATURE NOON WITH ALEF MAKSURA ISOLATED FORM
ARABIC LIGATURE NOON WITH YEH ISOLATED FORM
ARABIC LIGATURE HEH WITH JEEM ISOLATED FORM
ARABIC LIGATURE HEH WITH MEEM ISOLATED FORM
ARABIC LIGATURE HEH WITH ALEF MAKSURA ISOLATED FORM
ARABIC LIGATURE HEH WITH YEH ISOLATED FORM
ARABIC LIGATURE YEH WITH JEEM ISOLATED FORM
ARABIC LIGATURE YEH WITH HAH ISOLATED FORM
ARABIC LIGATURE YEH WITH KHAH ISOLATED FORM
ARABIC LIGATURE YEH WITH MEEM ISOLATED FORM
ARABIC LIGATURE YEH WITH ALEF MAKSURA ISOLATED FORM
ARABIC LIGATURE YEH WITH YEH ISOLATED FORM
ARABIC LIGATURE THAL WITH SUPERSCRIPT ALEF ISOLATED FORM
ARABIC LIGATURE REH WITH SUPERSCRIPT ALEF ISOLATED FORM
ARABIC LIGATURE ALEF MAKSURA WITH SUPERSCRIPT ALEF ISOLATED FORM
ARABIC LIGATURE SHADDA WITH DAMMATAN ISOLATED FORM
ARABIC LIGATURE SHADDA WITH KASRATAN ISOLATED FORM
ARABIC LIGATURE SHADDA WITH FATHA ISOLATED FORM
ARABIC LIGATURE SHADDA WITH DAMMA ISOLATED FORM
ARABIC LIGATURE SHADDA WITH KASRA ISOLATED FORM
ARABIC LIGATURE SHADDA WITH SUPERSCRIPT ALEF ISOLATED FORM
ARABIC LIGATURE YEH WITH HAMZA ABOVE WITH REH FINAL FORM
ARABIC LIGATURE YEH WITH HAMZA ABOVE WITH ZAIN FINAL FORM
ARABIC LIGATURE YEH WITH HAMZA ABOVE WITH MEEM FINAL FORM
ARABIC LIGATURE YEH WITH HAMZA ABOVE WITH NOON FINAL FORM
ARABIC LIGATURE YEH WITH HAMZA ABOVE WITH ALEF MAKSURA FINAL FORM
ARABIC LIGATURE YEH WITH HAMZA ABOVE WITH YEH FINAL FORM
ARABIC LIGATURE BEH WITH REH FINAL FORM
ARABIC LIGATURE BEH WITH ZAIN FINAL FORM
ARABIC LIGATURE BEH WITH MEEM FINAL FORM
ARABIC LIGATURE BEH WITH NOON FINAL FORM
ARABIC LIGATURE BEH WITH ALEF MAKSURA FINAL FORM
ARABIC LIGATURE BEH WITH YEH FINAL FORM
ARABIC LIGATURE TEH WITH REH FINAL FORM
ARABIC LIGATURE TEH WITH ZAIN FINAL FORM
ARABIC LIGATURE TEH WITH MEEM FINAL FORM
ARABIC LIGATURE TEH WITH NOON FINAL FORM
ARABIC LIGATURE TEH WITH ALEF MAKSURA FINAL FORM
ARABIC LIGATURE TEH WITH YEH FINAL FORM
ARABIC LIGATURE THEH WITH REH FINAL FORM
ARABIC LIGATURE THEH WITH ZAIN FINAL FORM
ARABIC LIGATURE THEH WITH MEEM FINAL FORM
ARABIC LIGATURE THEH WITH NOON FINAL FORM
ARABIC LIGATURE THEH WITH ALEF MAKSURA FINAL FORM
ARABIC LIGATURE THEH WITH YEH FINAL FORM
ARABIC LIGATURE FEH WITH ALEF MAKSURA FINAL FORM
ARABIC LIGATURE FEH WITH YEH FINAL FORM
ARABIC LIGATURE QAF WITH ALEF MAKSURA FINAL FORM
ARABIC LIGATURE QAF WITH YEH FINAL FORM
ARABIC LIGATURE KAF WITH ALEF FINAL FORM
ARABIC LIGATURE KAF WITH LAM FINAL FORM
ARABIC LIGATURE KAF WITH MEEM FINAL FORM
ARABIC LIGATURE KAF WITH ALEF MAKSURA FINAL FORM
ARABIC LIGATURE KAF WITH YEH FINAL FORM
ARABIC LIGATURE LAM WITH MEEM FINAL FORM
ARABIC LIGATURE LAM WITH ALEF MAKSURA FINAL FORM
ARABIC LIGATURE LAM WITH YEH FINAL FORM
ARABIC LIGATURE MEEM WITH ALEF FINAL FORM
ARABIC LIGATURE MEEM WITH MEEM FINAL FORM
ARABIC LIGATURE NOON WITH REH FINAL FORM
ARABIC LIGATURE NOON WITH ZAIN FINAL FORM
ARABIC LIGATURE NOON WITH MEEM FINAL FORM
ARABIC LIGATURE NOON WITH NOON FINAL FORM
ARABIC LIGATURE NOON WITH ALEF MAKSURA FINAL FORM
ARABIC LIGATURE NOON WITH YEH FINAL FORM
ARABIC LIGATURE ALEF MAKSURA WITH SUPERSCRIPT ALEF FINAL FORM
ARABIC LIGATURE YEH WITH REH FINAL FORM
ARABIC LIGATURE YEH WITH ZAIN FINAL FORM
ARABIC LIGATURE YEH WITH MEEM FINAL FORM
ARABIC LIGATURE YEH WITH NOON FINAL FORM
ARABIC LIGATURE YEH WITH ALEF MAKSURA FINAL FORM
ARABIC LIGATURE YEH WITH YEH FINAL FORM
ARABIC LIGATURE YEH WITH HAMZA ABOVE WITH JEEM INITIAL FORM
ARABIC LIGATURE YEH WITH HAMZA ABOVE WITH HAH INITIAL FORM
ARABIC LIGATURE YEH WITH HAMZA ABOVE WITH KHAH INITIAL FORM
ARABIC LIGATURE YEH WITH HAMZA ABOVE WITH MEEM INITIAL FORM
ARABIC LIGATURE YEH WITH HAMZA ABOVE WITH HEH INITIAL FORM
ARABIC LIGATURE BEH WITH JEEM INITIAL FORM
ARABIC LIGATURE BEH WITH HAH INITIAL FORM
ARABIC LIGATURE BEH WITH KHAH INITIAL FORM
ARABIC LIGATURE BEH WITH MEEM INITIAL FORM
ARABIC LIGATURE BEH WITH HEH INITIAL FORM
ARABIC LIGATURE TEH WITH JEEM INITIAL FORM
ARABIC LIGATURE TEH WITH HAH INITIAL FORM
ARABIC LIGATURE TEH WITH KHAH INITIAL FORM
ARABIC LIGATURE TEH WITH MEEM INITIAL FORM
ARABIC LIGATURE TEH WITH HEH INITIAL FORM
ARABIC LIGATURE THEH WITH MEEM INITIAL FORM
ARABIC LIGATURE JEEM WITH HAH INITIAL FORM
ARABIC LIGATURE JEEM WITH MEEM INITIAL FORM
ARABIC LIGATURE HAH WITH JEEM INITIAL FORM
ARABIC LIGATURE HAH WITH MEEM INITIAL FORM
ARABIC LIGATURE KHAH WITH JEEM INITIAL FORM
ARABIC LIGATURE KHAH WITH MEEM INITIAL FORM
ARABIC LIGATURE SEEN WITH JEEM INITIAL FORM
ARABIC LIGATURE SEEN WITH HAH INITIAL FORM
ARABIC LIGATURE SEEN WITH KHAH INITIAL FORM
ARABIC LIGATURE SEEN WITH MEEM INITIAL FORM
ARABIC LIGATURE SAD WITH HAH INITIAL FORM
ARABIC LIGATURE SAD WITH KHAH INITIAL FORM
ARABIC LIGATURE SAD WITH MEEM INITIAL FORM
ARABIC LIGATURE DAD WITH JEEM INITIAL FORM
ARABIC LIGATURE DAD WITH HAH INITIAL FORM
ARABIC LIGATURE DAD WITH KHAH INITIAL FORM
ARABIC LIGATURE DAD WITH MEEM INITIAL FORM
ARABIC LIGATURE TAH WITH HAH INITIAL FORM
ARABIC LIGATURE ZAH WITH MEEM INITIAL FORM
ARABIC LIGATURE AIN WITH JEEM INITIAL FORM
ARABIC LIGATURE AIN WITH MEEM INITIAL FORM
ARABIC LIGATURE GHAIN WITH JEEM INITIAL FORM
ARABIC LIGATURE GHAIN WITH MEEM INITIAL FORM
ARABIC LIGATURE FEH WITH JEEM INITIAL FORM
ARABIC LIGATURE FEH WITH HAH INITIAL FORM
ARABIC LIGATURE FEH WITH KHAH INITIAL FORM
ARABIC LIGATURE FEH WITH MEEM INITIAL FORM
ARABIC LIGATURE QAF WITH HAH INITIAL FORM
ARABIC LIGATURE QAF WITH MEEM INITIAL FORM
ARABIC LIGATURE KAF WITH JEEM INITIAL FORM
ARABIC LIGATURE KAF WITH HAH INITIAL FORM
ARABIC LIGATURE KAF WITH KHAH INITIAL FORM
ARABIC LIGATURE KAF WITH LAM INITIAL FORM
ARABIC LIGATURE KAF WITH MEEM INITIAL FORM
ARABIC LIGATURE LAM WITH JEEM INITIAL FORM
ARABIC LIGATURE LAM WITH HAH INITIAL FORM
ARABIC LIGATURE LAM WITH KHAH INITIAL FORM
ARABIC LIGATURE LAM WITH MEEM INITIAL FORM
ARABIC LIGATURE LAM WITH HEH INITIAL FORM
ARABIC LIGATURE MEEM WITH JEEM INITIAL FORM
ARABIC LIGATURE MEEM WITH HAH INITIAL FORM
ARABIC LIGATURE MEEM WITH KHAH INITIAL FORM
ARABIC LIGATURE MEEM WITH MEEM INITIAL FORM
ARABIC LIGATURE NOON WITH JEEM INITIAL FORM
ARABIC LIGATURE NOON WITH HAH INITIAL FORM
ARABIC LIGATURE NOON WITH KHAH INITIAL FORM
ARABIC LIGATURE NOON WITH MEEM INITIAL FORM
ARABIC LIGATURE NOON WITH HEH INITIAL FORM
ARABIC LIGATURE HEH WITH JEEM INITIAL FORM
ARABIC LIGATURE HEH WITH MEEM INITIAL FORM
ARABIC LIGATURE HEH WITH SUPERSCRIPT ALEF INITIAL FORM
ARABIC LIGATURE YEH WITH JEEM INITIAL FORM
ARABIC LIGATURE YEH WITH HAH INITIAL FORM
ARABIC LIGATURE YEH WITH KHAH INITIAL FORM
ARABIC LIGATURE YEH WITH MEEM INITIAL FORM
ARABIC LIGATURE YEH WITH HEH INITIAL FORM
ARABIC LIGATURE YEH WITH HAMZA ABOVE WITH MEEM MEDIAL FORM
ARABIC LIGATURE YEH WITH HAMZA ABOVE WITH HEH MEDIAL FORM
ARABIC LIGATURE BEH WITH MEEM MEDIAL FORM
ARABIC LIGATURE BEH WITH HEH MEDIAL FORM
ARABIC LIGATURE TEH WITH MEEM MEDIAL FORM
ARABIC LIGATURE TEH WITH HEH MEDIAL FORM
ARABIC LIGATURE THEH WITH MEEM MEDIAL FORM
ARABIC LIGATURE THEH WITH HEH MEDIAL FORM
ARABIC LIGATURE SEEN WITH MEEM MEDIAL FORM
ARABIC LIGATURE SEEN WITH HEH MEDIAL FORM
ARABIC LIGATURE SHEEN WITH MEEM MEDIAL FORM
ARABIC LIGATURE SHEEN WITH HEH MEDIAL FORM
ARABIC LIGATURE KAF WITH LAM MEDIAL FORM
ARABIC LIGATURE KAF WITH MEEM MEDIAL FORM
ARABIC LIGATURE LAM WITH MEEM MEDIAL FORM
ARABIC LIGATURE NOON WITH MEEM MEDIAL FORM
ARABIC LIGATURE NOON WITH HEH MEDIAL FORM
ARABIC LIGATURE YEH WITH MEEM MEDIAL FORM
ARABIC LIGATURE YEH WITH HEH MEDIAL FORM
ARABIC LIGATURE SHADDA WITH FATHA MEDIAL FORM
ARABIC LIGATURE SHADDA WITH DAMMA MEDIAL FORM
ARABIC LIGATURE SHADDA WITH KASRA MEDIAL FORM
ARABIC LIGATURE TAH WITH ALEF MAKSURA ISOLATED FORM
ARABIC LIGATURE TAH WITH YEH ISOLATED FORM
ARABIC LIGATURE AIN WITH ALEF MAKSURA ISOLATED FORM
ARABIC LIGATURE AIN WITH YEH ISOLATED FORM
ARABIC LIGATURE GHAIN WITH ALEF MAKSURA ISOLATED FORM
ARABIC LIGATURE GHAIN WITH YEH ISOLATED FORM
ARABIC LIGATURE SEEN WITH ALEF MAKSURA ISOLATED FORM
ARABIC LIGATURE SEEN WITH YEH ISOLATED FORM
ARABIC LIGATURE SHEEN WITH ALEF MAKSURA ISOLATED FORM
ARABIC LIGATURE SHEEN WITH YEH ISOLATED FORM
ARABIC LIGATURE HAH WITH ALEF MAKSURA ISOLATED FORM
ARABIC LIGATURE HAH WITH YEH ISOLATED FORM
ARABIC LIGATURE JEEM WITH ALEF MAKSURA ISOLATED FORM
ARABIC LIGATURE JEEM WITH YEH ISOLATED FORM
ARABIC LIGATURE KHAH WITH ALEF MAKSURA ISOLATED FORM
ARABIC LIGATURE KHAH WITH YEH ISOLATED FORM
ARABIC LIGATURE SAD WITH ALEF MAKSURA ISOLATED FORM
ARABIC LIGATURE SAD WITH YEH ISOLATED FORM
ARABIC LIGATURE DAD WITH ALEF MAKSURA ISOLATED FORM
ARABIC LIGATURE DAD WITH YEH ISOLATED FORM
ARABIC LIGATURE SHEEN WITH JEEM ISOLATED FORM
ARABIC LIGATURE SHEEN WITH HAH ISOLATED FORM
ARABIC LIGATURE SHEEN WITH KHAH ISOLATED FORM
ARABIC LIGATURE SHEEN WITH MEEM ISOLATED FORM
ARABIC LIGATURE SHEEN WITH REH ISOLATED FORM
ARABIC LIGATURE SEEN WITH REH ISOLATED FORM
ARABIC LIGATURE SAD WITH REH ISOLATED FORM
ARABIC LIGATURE DAD WITH REH ISOLATED FORM
ARABIC LIGATURE TAH WITH ALEF MAKSURA FINAL FORM
ARABIC LIGATURE TAH WITH YEH FINAL FORM
ARABIC LIGATURE AIN WITH ALEF MAKSURA FINAL FORM
ARABIC LIGATURE AIN WITH YEH FINAL FORM
ARABIC LIGATURE GHAIN WITH ALEF MAKSURA FINAL FORM
ARABIC LIGATURE GHAIN WITH YEH FINAL FORM
ARABIC LIGATURE SEEN WITH ALEF MAKSURA FINAL FORM
ARABIC LIGATURE SEEN WITH YEH FINAL FORM
ARABIC LIGATURE SHEEN WITH ALEF MAKSURA FINAL FORM
ARABIC LIGATURE SHEEN WITH YEH FINAL FORM
ARABIC LIGATURE HAH WITH ALEF MAKSURA FINAL FORM
ARABIC LIGATURE HAH WITH YEH FINAL FORM
ARABIC LIGATURE JEEM WITH ALEF MAKSURA FINAL FORM
ARABIC LIGATURE JEEM WITH YEH FINAL FORM
ARABIC LIGATURE KHAH WITH ALEF MAKSURA FINAL FORM
ARABIC LIGATURE KHAH WITH YEH FINAL FORM
ARABIC LIGATURE SAD WITH ALEF MAKSURA FINAL FORM
ARABIC LIGATURE SAD WITH YEH FINAL FORM
ARABIC LIGATURE DAD WITH ALEF MAKSURA FINAL FORM
ARABIC LIGATURE DAD WITH YEH FINAL FORM
ARABIC LIGATURE SHEEN WITH JEEM FINAL FORM
ARABIC LIGATURE SHEEN WITH HAH FINAL FORM
ARABIC LIGATURE SHEEN WITH KHAH FINAL FORM
ARABIC LIGATURE SHEEN WITH MEEM FINAL FORM
ARABIC LIGATURE SHEEN WITH REH FINAL FORM
ARABIC LIGATURE SEEN WITH REH FINAL FORM
ARABIC LIGATURE SAD WITH REH FINAL FORM
ARABIC LIGATURE DAD WITH REH FINAL FORM
ARABIC LIGATURE SHEEN WITH JEEM INITIAL FORM
ARABIC LIGATURE SHEEN WITH HAH INITIAL FORM
ARABIC LIGATURE SHEEN WITH KHAH INITIAL FORM
ARABIC LIGATURE SHEEN WITH MEEM INITIAL FORM
ARABIC LIGATURE SEEN WITH HEH INITIAL FORM
ARABIC LIGATURE SHEEN WITH HEH INITIAL FORM
ARABIC LIGATURE TAH WITH MEEM INITIAL FORM
ARABIC LIGATURE SEEN WITH JEEM MEDIAL FORM
ARABIC LIGATURE SEEN WITH HAH MEDIAL FORM
ARABIC LIGATURE SEEN WITH KHAH MEDIAL FORM
ARABIC LIGATURE SHEEN WITH JEEM MEDIAL FORM
ARABIC LIGATURE SHEEN WITH HAH MEDIAL FORM
ARABIC LIGATURE SHEEN WITH KHAH MEDIAL FORM
ARABIC LIGATURE TAH WITH MEEM MEDIAL FORM
ARABIC LIGATURE ZAH WITH MEEM MEDIAL FORM
ARABIC LIGATURE ALEF WITH FATHATAN FINAL FORM
ARABIC LIGATURE ALEF WITH FATHATAN ISOLATED FORM
ORNATE LEFT PARENTHESIS
ORNATE RIGHT PARENTHESIS
ARABIC LIGATURE RAHIMAHU ALLAAH
ARABIC LIGATURE RADI ALLAAHU ANH
ARABIC LIGATURE RADI ALLAAHU ANHAA
ARABIC LIGATURE RADI ALLAAHU ANHUM
ARABIC LIGATURE RADI ALLAAHU ANHUMAA
ARABIC LIGATURE RADI ALLAAHU ANHUNNA
ARABIC LIGATURE SALLALLAAHU ALAYHI WA-AALIH
ARABIC LIGATURE ALAYHI AS-SALAAM
ARABIC LIGATURE ALAYHIM AS-SALAAM
ARABIC LIGATURE ALAYHIMAA AS-SALAAM
ARABIC LIGATURE ALAYHI AS-SALAATU WAS-SALAAM
ARABIC LIGATURE QUDDISA SIRRAH
ARABIC LIGATURE SALLALLAHU ALAYHI WAAALIHEE WA-SALLAM
ARABIC LIGATURE ALAYHAA AS-SALAAM
ARABIC LIGATURE TABAARAKA WA-TAAALAA
ARABIC LIGATURE RAHIMAHUM ALLAAH
ARABIC LIGATURE TEH WITH JEEM WITH MEEM INITIAL FORM
ARABIC LIGATURE TEH WITH HAH WITH JEEM FINAL FORM
ARABIC LIGATURE TEH WITH HAH WITH JEEM INITIAL FORM
ARABIC LIGATURE TEH WITH HAH WITH MEEM INITIAL FORM
ARABIC LIGATURE TEH WITH KHAH WITH MEEM INITIAL FORM
ARABIC LIGATURE TEH WITH MEEM WITH JEEM INITIAL FORM
ARABIC LIGATURE TEH WITH MEEM WITH HAH INITIAL FORM
ARABIC LIGATURE TEH WITH MEEM WITH KHAH INITIAL FORM
ARABIC LIGATURE JEEM WITH MEEM WITH HAH FINAL FORM
ARABIC LIGATURE JEEM WITH MEEM WITH HAH INITIAL FORM
ARABIC LIGATURE HAH WITH MEEM WITH YEH FINAL FORM
ARABIC LIGATURE HAH WITH MEEM WITH ALEF MAKSURA FINAL FORM
ARABIC LIGATURE SEEN WITH HAH WITH JEEM INITIAL FORM
ARABIC LIGATURE SEEN WITH JEEM WITH HAH INITIAL FORM
ARABIC LIGATURE SEEN WITH JEEM WITH ALEF MAKSURA FINAL FORM
ARABIC LIGATURE SEEN WITH MEEM WITH HAH FINAL FORM
ARABIC LIGATURE SEEN WITH MEEM WITH HAH INITIAL FORM
ARABIC LIGATURE SEEN WITH MEEM WITH JEEM INITIAL FORM
ARABIC LIGATURE SEEN WITH MEEM WITH MEEM FINAL FORM
ARABIC LIGATURE SEEN WITH MEEM WITH MEEM INITIAL FORM
ARABIC LIGATURE SAD WITH HAH WITH HAH FINAL FORM
ARABIC LIGATURE SAD WITH HAH WITH HAH INITIAL FORM
ARABIC LIGATURE SAD WITH MEEM WITH MEEM FINAL FORM
ARABIC LIGATURE SHEEN WITH HAH WITH MEEM FINAL FORM
ARABIC LIGATURE SHEEN WITH HAH WITH MEEM INITIAL FORM
ARABIC LIGATURE SHEEN WITH JEEM WITH YEH FINAL FORM
ARABIC LIGATURE SHEEN WITH MEEM WITH KHAH FINAL FORM
ARABIC LIGATURE SHEEN WITH MEEM WITH KHAH INITIAL FORM
ARABIC LIGATURE SHEEN WITH MEEM WITH MEEM FINAL FORM
ARABIC LIGATURE SHEEN WITH MEEM WITH MEEM INITIAL FORM
ARABIC LIGATURE DAD WITH HAH WITH ALEF MAKSURA FINAL FORM
ARABIC LIGATURE DAD WITH KHAH WITH MEEM FINAL FORM
ARABIC LIGATURE DAD WITH KHAH WITH MEEM INITIAL FORM
ARABIC LIGATURE TAH WITH MEEM WITH HAH FINAL FORM
ARABIC LIGATURE TAH WITH MEEM WITH HAH INITIAL FORM
ARABIC LIGATURE TAH WITH MEEM WITH MEEM INITIAL FORM
ARABIC LIGATURE TAH WITH MEEM WITH YEH FINAL FORM
ARABIC LIGATURE AIN WITH JEEM WITH MEEM FINAL FORM
ARABIC LIGATURE AIN WITH MEEM WITH MEEM FINAL FORM
ARABIC LIGATURE AIN WITH MEEM WITH MEEM INITIAL FORM
ARABIC LIGATURE AIN WITH MEEM WITH ALEF MAKSURA FINAL FORM
ARABIC LIGATURE GHAIN WITH MEEM WITH MEEM FINAL FORM
ARABIC LIGATURE GHAIN WITH MEEM WITH YEH FINAL FORM
ARABIC LIGATURE GHAIN WITH MEEM WITH ALEF MAKSURA FINAL FORM
ARABIC LIGATURE FEH WITH KHAH WITH MEEM FINAL FORM
ARABIC LIGATURE FEH WITH KHAH WITH MEEM INITIAL FORM
ARABIC LIGATURE QAF WITH MEEM WITH HAH FINAL FORM
ARABIC LIGATURE QAF WITH MEEM WITH MEEM FINAL FORM
ARABIC LIGATURE LAM WITH HAH WITH MEEM FINAL FORM
ARABIC LIGATURE LAM WITH HAH WITH YEH FINAL FORM
ARABIC LIGATURE LAM WITH HAH WITH ALEF MAKSURA FINAL FORM
ARABIC LIGATURE LAM WITH JEEM WITH JEEM INITIAL FORM
ARABIC LIGATURE LAM WITH JEEM WITH JEEM FINAL FORM
ARABIC LIGATURE LAM WITH KHAH WITH MEEM FINAL FORM
ARABIC LIGATURE LAM WITH KHAH WITH MEEM INITIAL FORM
ARABIC LIGATURE LAM WITH MEEM WITH HAH FINAL FORM
ARABIC LIGATURE LAM WITH MEEM WITH HAH INITIAL FORM
ARABIC LIGATURE MEEM WITH HAH WITH JEEM INITIAL FORM
ARABIC LIGATURE MEEM WITH HAH WITH MEEM INITIAL FORM
ARABIC LIGATURE MEEM WITH HAH WITH YEH FINAL FORM
ARABIC LIGATURE MEEM WITH JEEM WITH HAH INITIAL FORM
ARABIC LIGATURE MEEM WITH JEEM WITH MEEM INITIAL FORM
ARABIC LIGATURE MEEM WITH KHAH WITH JEEM INITIAL FORM
ARABIC LIGATURE MEEM WITH KHAH WITH MEEM INITIAL FORM"

def formsE : String := "@FD92
ARABIC LIGATURE MEEM WITH JEEM WITH KHAH INITIAL FORM
ARABIC LIGATURE HEH WITH MEEM WITH JEEM INITIAL FORM
ARABIC LIGATURE HEH WITH MEEM WITH MEEM INITIAL FORM
ARABIC LIGATURE NOON WITH HAH WITH MEEM INITIAL FORM
ARABIC LIGATURE NOON WITH HAH WITH ALEF MAKSURA FINAL FORM
ARABIC LIGATURE NOON WITH JEEM WITH MEEM FINAL FORM
ARABIC LIGATURE NOON WITH JEEM WITH MEEM INITIAL FORM
ARABIC LIGATURE NOON WITH JEEM WITH ALEF MAKSURA FINAL FORM
ARABIC LIGATURE NOON WITH MEEM WITH YEH FINAL FORM
ARABIC LIGATURE NOON WITH MEEM WITH ALEF MAKSURA FINAL FORM
ARABIC LIGATURE YEH WITH MEEM WITH MEEM FINAL FORM
ARABIC LIGATURE YEH WITH MEEM WITH MEEM INITIAL FORM
ARABIC LIGATURE BEH WITH KHAH WITH YEH FINAL FORM
ARABIC LIGATURE TEH WITH JEEM WITH YEH FINAL FORM
ARABIC LIGATURE TEH WITH JEEM WITH ALEF MAKSURA FINAL FORM
ARABIC LIGATURE TEH WITH KHAH WITH YEH FINAL FORM
ARABIC LIGATURE TEH WITH KHAH WITH ALEF MAKSURA FINAL FORM
ARABIC LIGATURE TEH WITH MEEM WITH YEH FINAL FORM
ARABIC LIGATURE TEH WITH MEEM WITH ALEF MAKSURA FINAL FORM
ARABIC LIGATURE JEEM WITH MEEM WITH YEH FINAL FORM
ARABIC LIGATURE JEEM WITH HAH WITH ALEF MAKSURA FINAL FORM
ARABIC LIGATURE JEEM WITH MEEM WITH ALEF MAKSURA FINAL FORM
ARABIC LIGATURE SEEN WITH KHAH WITH ALEF MAKSURA FINAL FORM
ARABIC LIGATURE SAD WITH HAH WITH YEH FINAL FORM
ARABIC LIGATURE SHEEN WITH HAH WITH YEH FINAL FORM
ARABIC LIGATURE DAD WITH HAH WITH YEH FINAL FORM
ARABIC LIGATURE LAM WITH JEEM WITH YEH FINAL FORM
ARABIC LIGATURE LAM WITH MEEM WITH YEH FINAL FORM
ARABIC LIGATURE YEH WITH HAH WITH YEH FINAL FORM
ARABIC LIGATURE YEH WITH JEEM WITH YEH FINAL FORM
ARABIC LIGATURE YEH WITH MEEM WITH YEH FINAL FORM
ARABIC LIGATURE MEEM WITH MEEM WITH YEH FINAL FORM
ARABIC LIGATURE QAF WITH MEEM WITH YEH FINAL FORM
ARABIC LIGATURE NOON WITH HAH WITH YEH FINAL FORM
ARABIC LIGATURE QAF WITH MEEM WITH HAH INITIAL FORM
ARABIC LIGATURE LAM WITH HAH WITH MEEM INITIAL FORM
ARABIC LIGATURE AIN WITH MEEM WITH YEH FINAL FORM
ARABIC LIGATURE KAF WITH MEEM WITH YEH FINAL FORM
ARABIC LIGATURE NOON WITH JEEM WITH HAH INITIAL FORM
ARABIC LIGATURE MEEM WITH KHAH WITH YEH FINAL FORM
ARABIC LIGATURE LAM WITH JEEM WITH MEEM INITIAL FORM
ARABIC LIGATURE KAF WITH MEEM WITH MEEM FINAL FORM
ARABIC LIGATURE LAM WITH JEEM WITH MEEM FINAL FORM
ARABIC LIGATURE NOON WITH JEEM WITH HAH FINAL FORM
ARABIC LIGATURE JEEM WITH HAH WITH YEH FINAL FORM
ARABIC LIGATURE HAH WITH JEEM WITH YEH FINAL FORM
ARABIC LIGATURE MEEM WITH JEEM WITH YEH FINAL FORM
ARABIC LIGATURE FEH WITH MEEM WITH YEH FINAL FORM
ARABIC LIGATURE BEH WITH HAH WITH YEH FINAL FORM
ARABIC LIGATURE KAF WITH MEEM WITH MEEM INITIAL FORM
ARABIC LIGATURE AIN WITH JEEM WITH MEEM INITIAL FORM
ARABIC LIGATURE SAD WITH MEEM WITH MEEM INITIAL FORM
ARABIC LIGATURE SEEN WITH KHAH WITH YEH FINAL FORM
ARABIC LIGATURE NOON WITH JEEM WITH YEH FINAL FORM
@FDCF
ARABIC LIGATURE SALAAMUHU ALAYNAA
@FDF0
ARABIC LIGATURE SALLA USED AS KORANIC STOP SIGN ISOLATED FORM
ARABIC LIGATURE QALA USED AS KORANIC STOP SIGN ISOLATED FORM
ARABIC LIGATURE ALLAH ISOLATED FORM
ARABIC LIGATURE AKBAR ISOLATED FORM
ARABIC LIGATURE MOHAMMAD ISOLATED FORM
ARABIC LIGATURE SALAM ISOLATED FORM
ARABIC LIGATURE RASOUL ISOLATED FORM
ARABIC LIGATURE ALAYHE ISOLATED FORM
ARABIC LIGATURE WASALLAM ISOLATED FORM
ARABIC LIGATURE SALLA ISOLATED FORM
ARABIC LIGATURE SALLALLAHOU ALAYHE WASALLAM
ARABIC LIGATURE JALLAJALALOUHOU
RIAL SIGN
ARABIC LIGATURE BISMILLAH AR-RAHMAN AR-RAHEEM
ARABIC LIGATURE SUBHAANAHU WA TAAALAA
ARABIC LIGATURE AZZA WA JALL
VARIATION SELECTOR-1
VARIATION SELECTOR-2
VARIATION SELECTOR-3
VARIATION SELECTOR-4
VARIATION SELECTOR-5
VARIATION SELECTOR-6
VARIATION SELECTOR-7
VARIATION SELECTOR-8
VARIATION SELECTOR-9
VARIATION SELECTOR-10
VARIATION SELECTOR-11
VARIATION SELECTOR-12
VARIATION SELECTOR-13
VARIATION SELECTOR-14
VARIATION SELECTOR-15
VARIATION SELECTOR-16
PRESENTATION FORM FOR VERTICAL COMMA
PRESENTATION FORM FOR VERTICAL IDEOGRAPHIC COMMA
PRESENTATION FORM FOR VERTICAL IDEOGRAPHIC FULL STOP
PRESENTATION FORM FOR VERTICAL COLON
PRESENTATION FORM FOR VERTICAL SEMICOLON
PRESENTATION FORM FOR VERTICAL EXCLAMATION MARK
PRESENTATION FORM FOR VERTICAL QUESTION MARK
PRESENTATION FORM FOR VERTICAL LEFT WHITE LENTICULAR BRACKET
PRESENTATION FORM FOR VERTICAL RIGHT WHITE LENTICULAR BRAKCET
PRESENTATION FORM FOR VERTICAL HORIZONTAL ELLIPSIS
@FE20
COMBINING LIGATURE LEFT HALF
COMBINING LIGATURE RIGHT HALF
COMBINING DOUBLE TILDE LEFT HALF
COMBINING DOUBLE TILDE RIGHT HALF
COMBINING MACRON LEFT HALF
COMBINING MACRON RIGHT HALF
COMBINING CONJOINING MACRON
COMBINING LIGATURE LEFT HALF BELOW
COMBINING LIGATURE RIGHT HALF BELOW
COMBINING TILDE LEFT HALF BELOW
COMBINING TILDE RIGHT HALF BELOW
COMBINING MACRON LEFT HALF BELOW
COMBINING MACRON RIGHT HALF BELOW
COMBINING CONJOINING MACRON BELOW
COMBINING CYRILLIC TITLO LEFT HALF
COMBINING CYRILLIC TITLO RIGHT HALF
PRESENTATION FORM FOR VERTICAL TWO DOT LEADER
PRESENTATION FORM FOR VERTICAL EM DASH
PRESENTATION FORM FOR VERTICAL EN DASH
PRESENTATION FORM FOR VERTICAL LOW LINE
PRESENTATION FORM FOR VERTICAL WAVY LOW LINE
PRESENTATION FORM FOR VERTICAL LEFT PARENTHESIS
PRESENTATION FORM FOR VERTICAL RIGHT PARENTHESIS
PRESENTATION FORM FOR VERTICAL LEFT CURLY BRACKET
PRESENTATION FORM FOR VERTICAL RIGHT CURLY BRACKET
PRESENTATION FORM FOR VERTICAL LEFT TORTOISE SHELL BRACKET
PRESENTATION FORM FOR VERTICAL RIGHT TORTOISE SHELL BRACKET
PRESENTATION FORM FOR VERTICAL LEFT BLACK LENTICULAR BRACKET
PRESENTATION FORM FOR VERTICAL RIGHT BLACK LENTICULAR BRACKET
PRESENTATION FORM FOR VERTICAL LEFT DOUBLE ANGLE BRACKET
PRESENTATION FORM FOR VERTICAL RIGHT DOUBLE ANGLE BRACKET
PRESENTATION FORM FOR VERTICAL LEFT ANGLE BRACKET
PRESENTATION FORM FOR VERTICAL RIGHT ANGLE BRACKET
PRESENTATION FORM FOR VERTICAL LEFT CORNER BRACKET
PRESENTATION FORM FOR VERTICAL RIGHT CORNER BRACKET
PRESENTATION FORM FOR VERTICAL LEFT WHITE CORNER BRACKET
PRESENTATION FORM FOR VERTICAL RIGHT WHITE CORNER BRACKET
SESAME DOT
WHITE SESAME DOT
PRESENTATION FORM FOR VERTICAL LEFT SQUARE BRACKET
PRESENTATION FORM FOR VERTICAL RIGHT SQUARE BRACKET
DASHED OVERLINE
CENTRELINE OVERLINE
WAVY OVERLINE
DOUBLE WAVY OVERLINE
DASHED LOW LINE
CENTRELINE LOW LINE
WAVY LOW LINE
SMALL COMMA
SMALL IDEOGRAPHIC COMMA
SMALL FULL STOP
@FE54
SMALL SEMICOLON
SMALL COLON
SMALL QUESTION MARK
SMALL EXCLAMATION MARK
SMALL EM DASH
SMALL LEFT PARENTHESIS
SMALL RIGHT PARENTHESIS
SMALL LEFT CURLY BRACKET
SMALL RIGHT CURLY BRACKET
SMALL LEFT TORTOISE SHELL BRACKET
SMALL RIGHT TORTOISE SHELL BRACKET
SMALL NUMBER SIGN
SMALL AMPERSAND
SMALL ASTERISK
SMALL PLUS SIGN
SMALL HYPHEN-MINUS
SMALL LESS-THAN SIGN
SMALL GREATER-THAN SIGN
SMALL EQUALS SIGN
@FE68
SMALL REVERSE SOLIDUS
SMALL DOLLAR SIGN
SMALL PERCENT SIGN
SMALL COMMERCIAL AT
@FE70
ARABIC FATHATAN ISOLATED FORM
ARABIC TATWEEL WITH FATHATAN ABOVE
ARABIC DAMMATAN ISOLATED FORM
ARABIC TAIL FRAGMENT
ARABIC KASRATAN ISOLATED FORM
@FE76
ARABIC FATHA ISOLATED FORM
ARABIC FATHA MEDIAL FORM
ARABIC DAMMA ISOLATED FORM
ARABIC DAMMA MEDIAL FORM
ARABIC KASRA ISOLATED FORM
ARABIC KASRA MEDIAL FORM
ARABIC SHADDA ISOLATED FORM
ARABIC SHADDA MEDIAL FORM
ARABIC SUKUN ISOLATED FORM
ARABIC SUKUN MEDIAL FORM
ARABIC LETTER HAMZA ISOLATED FORM
ARABIC LETTER ALEF WITH MADDA ABOVE ISOLATED FORM
ARABIC LETTER ALEF WITH MADDA ABOVE FINAL FORM
ARABIC LETTER ALEF WITH HAMZA ABOVE ISOLATED FORM
ARABIC LETTER ALEF WITH HAMZA ABOVE FINAL FORM
ARABIC LETTER WAW WITH HAMZA ABOVE ISOLATED FORM
ARABIC LETTER WAW WITH HAMZA ABOVE FINAL FORM
ARABIC LETTER ALEF WITH HAMZA BELOW ISOLATED FORM
ARABIC LETTER ALEF WITH HAMZA BELOW FINAL FORM
ARABIC LETTER YEH WITH HAMZA ABOVE ISOLATED FORM
ARABIC LETTER YEH WITH HAMZA ABOVE FINAL FORM
ARABIC LETTER YEH WITH HAMZA ABOVE INITIAL FORM
ARABIC LETTER YEH WITH HAMZA ABOVE MEDIAL FORM
ARABIC LETTER ALEF ISOLATED FORM
ARABIC LETTER ALEF FINAL FORM
ARABIC LETTER BEH ISOLATED FORM
ARABIC LETTER BEH FINAL FORM
ARABIC LETTER BEH INITIAL FORM
ARABIC LETTER BEH MEDIAL FORM
ARABIC LETTER TEH MARBUTA ISOLATED FORM
ARABIC LETTER TEH MARBUTA FINAL FORM
ARABIC LETTER TEH ISOLATED FORM
ARABIC LETTER TEH FINAL FORM
ARABIC LETTER TEH INITIAL FORM
ARABIC LETTER TEH MEDIAL FORM
ARABIC LETTER THEH ISOLATED FORM
ARABIC LETTER THEH FINAL FORM
ARABIC LETTER THEH INITIAL FORM
ARABIC LETTER THEH MEDIAL FORM
ARABIC LETTER JEEM ISOLATED FORM
ARABIC LETTER JEEM FINAL FORM
ARABIC LETTER JEEM INITIAL FORM
ARABIC LETTER JEEM MEDIAL FORM
ARABIC LETTER HAH ISOLATED FORM
ARABIC LETTER HAH FINAL FORM
ARABIC LETTER HAH INITIAL FORM
ARABIC LETTER HAH MEDIAL FORM
ARABIC LETTER KHAH ISOLATED FORM
ARABIC LETTER KHAH FINAL FORM
ARABIC LETTER KHAH INITIAL FORM
ARABIC LETTER KHAH MEDIAL FORM
ARABIC LETTER DAL ISOLATED FORM
ARABIC LETTER DAL FINAL FORM
ARABIC LETTER THAL ISOLATED FORM
ARABIC LETTER THAL FINAL FORM
ARABIC LETTER REH ISOLATED FORM
ARABIC LETTER REH FINAL FORM
ARABIC LETTER ZAIN ISOLATED FORM
ARABIC LETTER ZAIN FINAL FORM
ARABIC LETTER SEEN ISOLATED FORM
ARABIC LETTER SEEN FINAL FORM
ARABIC LETTER SEEN INITIAL FORM
ARABIC LETTER SEEN MEDIAL FORM
ARABIC LETTER SHEEN ISOLATED FORM
ARABIC LETTER SHEEN FINAL FORM
ARABIC LETTER SHEEN INITIAL FORM
ARABIC LETTER SHEEN MEDIAL FORM
ARABIC LETTER SAD ISOLATED FORM
ARABIC LETTER SAD FINAL FORM
ARABIC LETTER SAD INITIAL FORM
ARABIC LETTER SAD MEDIAL FORM
ARABIC LETTER DAD ISOLATED FORM
ARABIC LETTER DAD FINAL FORM
ARABIC LETTER DAD INITIAL FORM
ARABIC LETTER DAD MEDIAL FORM
ARABIC LETTER TAH ISOLATED FORM
ARABIC LETTER TAH FINAL FORM
ARABIC LETTER TAH INITIAL FORM
ARABIC LETTER TAH MEDIAL FORM
ARABIC LETTER ZAH ISOLATED FORM
ARABIC LETTER ZAH FINAL FORM
ARABIC LETTER ZAH INITIAL FORM
ARABIC LETTER ZAH MEDIAL FORM
ARABIC LETTER AIN ISOLATED FORM
ARABIC LETTER AIN FINAL FORM
ARABIC LETTER AIN INITIAL FORM
ARABIC LETTER AIN MEDIAL FORM
ARABIC LETTER GHAIN ISOLATED FORM
ARABIC LETTER GHAIN FINAL FORM
ARABIC LETTER GHAIN INITIAL FORM
ARABIC LETTER GHAIN MEDIAL FORM
ARABIC LETTER FEH ISOLATED FORM
ARABIC LETTER FEH FINAL FORM
ARABIC LETTER FEH INITIAL FORM
ARABIC LETTER FEH MEDIAL FORM
ARABIC LETTER QAF ISOLATED FORM
ARABIC LETTER QAF FINAL FORM
ARABIC LETTER QAF INITIAL FORM
ARABIC LETTER QAF MEDIAL FORM
ARABIC LETTER KAF ISOLATED FORM
ARABIC LETTER KAF FINAL FORM
ARABIC LETTER KAF INITIAL FORM
ARABIC LETTER KAF MEDIAL FORM
ARABIC LETTER LAM ISOLATED FORM
ARABIC LETTER LAM FINAL FORM
ARABIC LETTER LAM INITIAL FORM
ARABIC LETTER LAM MEDIAL FORM
ARABIC LETTER MEEM ISOLATED FORM
ARABIC LETTER MEEM FINAL FORM
ARABIC LETTER MEEM INITIAL FORM
ARABIC LETTER MEEM MEDIAL FORM
ARABIC LETTER NOON ISOLATED FORM
ARABIC LETTER NOON FINAL FORM
ARABIC LETTER NOON INITIAL FORM
ARABIC LETTER NOON MEDIAL FORM
ARABIC LETTER HEH ISOLATED FORM
ARABIC LETTER HEH FINAL FORM
ARABIC LETTER HEH INITIAL FORM
ARABIC LETTER HEH MEDIAL FORM
ARABIC LETTER WAW ISOLATED FORM
ARABIC LETTER WAW FINAL FORM
ARABIC LETTER ALEF MAKSURA ISOLATED FORM
ARABIC LETTER ALEF MAKSURA FINAL FORM
ARABIC LETTER YEH ISOLATED FORM
ARABIC LETTER YEH FINAL FORM
ARABIC LETTER YEH INITIAL FORM
ARABIC LETTER YEH MEDIAL FORM
ARABIC LIGATURE LAM WITH ALEF WITH MADDA ABOVE ISOLATED FORM
ARABIC LIGATURE LAM WITH ALEF WITH MADDA ABOVE FINAL FORM
ARABIC LIGATURE LAM WITH ALEF WITH HAMZA ABOVE ISOLATED FORM
ARABIC LIGATURE LAM WITH ALEF WITH HAMZA ABOVE FINAL FORM
ARABIC LIGATURE LAM WITH ALEF WITH HAMZA BELOW ISOLATED FORM
ARABIC LIGATURE LAM WITH ALEF WITH HAMZA BELOW FINAL FORM
ARABIC LIGATURE LAM WITH ALEF ISOLATED FORM
ARABIC LIGATURE LAM WITH ALEF FINAL FORM
@FEFF
ZERO WIDTH NO-BREAK SPACE
@FF01
FULLWIDTH EXCLAMATION MARK
FULLWIDTH QUOTATION MARK
FULLWIDTH NUMBER SIGN
FULLWIDTH DOLLAR SIGN
FULLWIDTH PERCENT SIGN
FULLWIDTH AMPERSAND
FULLWIDTH APOSTROPHE
FULLWIDTH LEFT PARENTHESIS
FULLWIDTH RIGHT PARENTHESIS
FULLWIDTH ASTERISK
FULLWIDTH PLUS SIGN
FULLWIDTH COMMA
FULLWIDTH HYPHEN-MINUS
FULLWIDTH FULL STOP
FULLWIDTH SOLIDUS
FULLWIDTH DIGIT ZERO
FULLWIDTH DIGIT ONE
FULLWIDTH DIGIT TWO
FULLWIDTH DIGIT THREE
FULLWIDTH DIGIT FOUR
FULLWIDTH DIGIT FIVE
FULLWIDTH DIGIT SIX
FULLWIDTH DIGIT SEVEN
FULLWIDTH DIGIT EIGHT
FULLWIDTH DIGIT NINE
FULLWIDTH COLON
FULLWIDTH SEMICOLON
FULLWIDTH LESS-THAN SIGN
FULLWIDTH EQUALS SIGN
FULLWIDTH GREATER-THAN SIGN
FULLWIDTH QUESTION MARK
FULLWIDTH COMMERCIAL AT
FULLWIDTH LATIN CAPITAL LETTER A
FULLWIDTH LATIN CAPITAL LETTER B
FULLWIDTH LATIN CAPITAL LETTER C
FULLWIDTH LATIN CAPITAL LETTER D
FULLWIDTH LATIN CAPITAL LETTER E
FULLWIDTH LATIN CAPITAL LETTER F
FULLWIDTH LATIN CAPITAL LETTER G
FULLWIDTH LATIN CAPITAL LETTER H
FULLWIDTH LATIN CAPITAL LETTER I
FULLWIDTH LATIN CAPITAL LETTER J
FULLWIDTH LATIN CAPITAL LETTER K
FULLWIDTH LATIN CAPITAL LETTER L
FULLWIDTH LATIN CAPITAL LETTER M
FULLWIDTH LATIN CAPITAL LETTER N
FULLWIDTH LATIN CAPITAL LETTER O
FULLWIDTH LATIN CAPITAL LETTER P
FULLWIDTH LATIN CAPITAL LETTER Q
FULLWIDTH LATIN CAPITAL LETTER R
FULLWIDTH LATIN CAPITAL LETTER S
FULLWIDTH LATIN CAPITAL LETTER T
FULLWIDTH LATIN CAPITAL LETTER U
FULLWIDTH LATIN CAPITAL LETTER V
FULLWIDTH LATIN CAPITAL LETTER W
FULLWIDTH LATIN CAPITAL LETTER X
FULLWIDTH LATIN CAPITAL LETTER Y
FULLWIDTH LATIN CAPITAL LETTER Z
FULLWIDTH LEFT SQUARE BRACKET
FULLWIDTH REVERSE SOLIDUS
FULLWIDTH RIGHT SQUARE BRACKET
FULLWIDTH CIRCUMFLEX ACCENT
FULLWIDTH LOW LINE
FULLWIDTH GRAVE ACCENT
FULLWIDTH LATIN SMALL LETTER A
FULLWIDTH LATIN SMALL LETTER B
FULLWIDTH LATIN SMALL LETTER C
FULLWIDTH LATIN SMALL LETTER D
FULLWIDTH LATIN SMALL LETTER E
FULLWIDTH LATIN SMALL LETTER F
FULLWIDTH LATIN SMALL LETTER G
FULLWIDTH LATIN SMALL LETTER H
FULLWIDTH LATIN SMALL LETTER I
FULLWIDTH LATIN SMALL LETTER J
FULLWIDTH LATIN SMALL LETTER K
FULLWIDTH LATIN SMALL LETTER L
FULLWIDTH LATIN SMALL LETTER M
FULLWIDTH LATIN SMALL LETTER N
FULLWIDTH LATIN SMALL LETTER O
FULLWIDTH LATIN SMALL LETTER P
FULLWIDTH LATIN SMALL LETTER Q
FULLWIDTH LATIN SMALL LETTER R
FULLWIDTH LATIN SMALL LETTER S
FULLWIDTH LATIN SMALL LETTER T
FULLWIDTH LATIN SMALL LETTER U
FULLWIDTH LATIN SMALL LETTER V
FULLWIDTH LATIN SMALL LETTER W
FULLWIDTH LATIN SMALL LETTER X
FULLWIDTH LATIN SMALL LETTER Y
FULLWIDTH LATIN SMALL LETTER Z
FULLWIDTH LEFT CURLY BRACKET
FULLWIDTH VERTICAL LINE
FULLWIDTH RIGHT CURLY BRACKET
FULLWIDTH TILDE
FULLWIDTH LEFT WHITE PARENTHESIS
FULLWIDTH RIGHT WHITE PARENTHESIS
HALFWIDTH IDEOGRAPHIC FULL STOP
HALFWIDTH LEFT CORNER BRACKET
HALFWIDTH RIGHT CORNER BRACKET
HALFWIDTH IDEOGRAPHIC COMMA
HALFWIDTH KATAKANA MIDDLE DOT
HALFWIDTH KATAKANA LETTER WO
HALFWIDTH KATAKANA LETTER SMALL A
HALFWIDTH KATAKANA LETTER SMALL I
HALFWIDTH KATAKANA LETTER SMALL U
HALFWIDTH KATAKANA LETTER SMALL E
HALFWIDTH KATAKANA LETTER SMALL O
HALFWIDTH KATAKANA LETTER SMALL YA
HALFWIDTH KATAKANA LETTER SMALL YU
HALFWIDTH KATAKANA LETTER SMALL YO
HALFWIDTH KATAKANA LETTER SMALL TU
HALFWIDTH KATAKANA-HIRAGANA PROLONGED SOUND MARK
HALFWIDTH KATAKANA LETTER A
HALFWIDTH KATAKANA LETTER I
HALFWIDTH KATAKANA LETTER U
HALFWIDTH KATAKANA LETTER E
HALFWIDTH KATAKANA LETTER O
HALFWIDTH KATAKANA LETTER KA
HALFWIDTH KATAKANA LETTER KI
HALFWIDTH KATAKANA LETTER KU
HALFWIDTH KATAKANA LETTER KE
HALFWIDTH KATAKANA LETTER KO
HALFWIDTH KATAKANA LETTER SA
HALFWIDTH KATAKANA LETTER SI
HALFWIDTH KATAKANA LETTER SU
HALFWIDTH KATAKANA LETTER SE
HALFWIDTH KATAKANA LETTER SO
HALFWIDTH KATAKANA LETTER TA
HALFWIDTH KATAKANA LETTER TI
HALFWIDTH KATAKANA LETTER TU
HALFWIDTH KATAKANA LETTER TE
HALFWIDTH KATAKANA LETTER TO
HALFWIDTH KATAKANA LETTER NA
HALFWIDTH KATAKANA LETTER NI
HALFWIDTH KATAKANA LETTER NU
HALFWIDTH KATAKANA LETTER NE
HALFWIDTH KATAKANA LETTER NO
HALFWIDTH KATAKANA LETTER HA
HALFWIDTH KATAKANA LETTER HI
HALFWIDTH KATAKANA LETTER HU
HALFWIDTH KATAKANA LETTER HE
HALFWIDTH KATAKANA LETTER HO
HALFWIDTH KATAKANA LETTER MA
HALFWIDTH KATAKANA LETTER MI
HALFWIDTH KATAKANA LETTER MU
HALFWIDTH KATAKANA LETTER ME
HALFWIDTH KATAKANA LETTER MO
HALFWIDTH KATAKANA LETTER YA
HALFWIDTH KATAKANA LETTER YU
HALFWIDTH KATAKANA LETTER YO
HALFWIDTH KATAKANA LETTER RA
HALFWIDTH KATAKANA LETTER RI
HALFWIDTH KATAKANA LETTER RU
HALFWIDTH KATAKANA LETTER RE
HALFWIDTH KATAKANA LETTER RO
HALFWIDTH KATAKANA LETTER WA
HALFWIDTH KATAKANA LETTER N
HALFWIDTH KATAKANA VOICED SOUND MARK
HALFWIDTH KATAKANA SEMI-VOICED SOUND MARK
HALFWIDTH HANGUL FILLER
HALFWIDTH HANGUL LETTER KIYEOK
HALFWIDTH HANGUL LETTER SSANGKIYEOK
HALFWIDTH HANGUL LETTER KIYEOK-SIOS
HALFWIDTH HANGUL LETTER NIEUN
HALFWIDTH HANGUL LETTER NIEUN-CIEUC
HALFWIDTH HANGUL LETTER NIEUN-HIEUH
HALFWIDTH HANGUL LETTER TIKEUT
HALFWIDTH HANGUL LETTER SSANGTIKEUT
HALFWIDTH HANGUL LETTER RIEUL
HALFWIDTH HANGUL LETTER RIEUL-KIYEOK
HALFWIDTH HANGUL LETTER RIEUL-MIEUM
HALFWIDTH HANGUL LETTER RIEUL-PIEUP
HALFWIDTH HANGUL LETTER RIEUL-SIOS
HALFWIDTH HANGUL LETTER RIEUL-THIEUTH
HALFWIDTH HANGUL LETTER RIEUL-PHIEUPH
HALFWIDTH HANGUL LETTER RIEUL-HIEUH
HALFWIDTH HANGUL LETTER MIEUM
HALFWIDTH HANGUL LETTER PIEUP
HALFWIDTH HANGUL LETTER SSANGPIEUP
HALFWIDTH HANGUL LETTER PIEUP-SIOS
HALFWIDTH HANGUL LETTER SIOS
HALFWIDTH HANGUL LETTER SSANGSIOS
HALFWIDTH HANGUL LETTER IEUNG
HALFWIDTH HANGUL LETTER CIEUC
HALFWIDTH HANGUL LETTER SSANGCIEUC
HALFWIDTH HANGUL LETTER CHIEUCH
HALFWIDTH HANGUL LETTER KHIEUKH
HALFWIDTH HANGUL LETTER THIEUTH
HALFWIDTH HANGUL LETTER PHIEUPH
HALFWIDTH HANGUL LETTER HIEUH
@FFC2
HALFWIDTH HANGUL LETTER A
HALFWIDTH HANGUL LETTER AE
HALFWIDTH HANGUL LETTER YA
HALFWIDTH HANGUL LETTER YAE
HALFWIDTH HANGUL LETTER EO
HALFWIDTH HANGUL LETTER E
@FFCA
HALFWIDTH HANGUL LETTER YEO
HALFWIDTH HANGUL LETTER YE
HALFWIDTH HANGUL LETTER O
HALFWIDTH HANGUL LETTER WA
HALFWIDTH HANGUL LETTER WAE
HALFWIDTH HANGUL LETTER OE
@FFD2
HALFWIDTH HANGUL LETTER YO
HALFWIDTH HANGUL LETTER U
HALFWIDTH HANGUL LETTER WEO
HALFWIDTH HANGUL LETTER WE
HALFWIDTH HANGUL LETTER WI
HALFWIDTH HANGUL LETTER YU
@FFDA
HALFWIDTH HANGUL LETTER EU
HALFWIDTH HANGUL LETTER YI
HALFWIDTH HANGUL LETTER I
@FFE0
FULLWIDTH CENT SIGN
FULLWIDTH POUND SIGN
FULLWIDTH NOT SIGN
FULLWIDTH MACRON
FULLWIDTH BROKEN BAR
FULLWIDTH YEN SIGN
FULLWIDTH WON SIGN
@FFE8
HALFWIDTH FORMS LIGHT VERTICAL
HALFWIDTH LEFTWARDS ARROW
HALFWIDTH UPWARDS ARROW
HALFWIDTH RIGHTWARDS ARROW
HALFWIDTH DOWNWARDS ARROW
HALFWIDTH BLACK SQUARE
HALFWIDTH WHITE CIRCLE
@FFF9
INTERLINEAR ANNOTATION ANCHOR
INTERLINEAR ANNOTATION SEPARATOR
INTERLINEAR ANNOTATION TERMINATOR
OBJECT REPLACEMENT CHARACTER
REPLACEMENT CHARACTER"

def forms : List String := [formsA, formsB, formsC, formsD, formsE]

end CharacterName
end RuleDraft
