/-!
# Formal aliases of characters

Names that a code point has beside its own: those of control characters,
corrections, and abbreviations.
-/

namespace RuleDraft
namespace CharacterName

/-- The formal aliases in the order of their code points. -/
def aliases : List (Nat × String) :=
  [(0x0000, "NUL"), (0x0000, "NULL"), (0x0001, "SOH"), (0x0001, "START OF HEADING"),
   (0x0002, "START OF TEXT"), (0x0002, "STX"), (0x0003, "END OF TEXT"), (0x0003, "ETX"),
   (0x0004, "END OF TRANSMISSION"), (0x0004, "EOT"), (0x0005, "ENQ"), (0x0005, "ENQUIRY"),
   (0x0006, "ACK"), (0x0006, "ACKNOWLEDGE"), (0x0007, "ALERT"), (0x0007, "BEL"),
   (0x0008, "BACKSPACE"), (0x0008, "BS"), (0x0009, "CHARACTER TABULATION"),
   (0x0009, "HORIZONTAL TABULATION"), (0x0009, "HT"), (0x0009, "TAB"), (0x000A, "END OF LINE"),
   (0x000A, "EOL"), (0x000A, "LF"), (0x000A, "LINE FEED"), (0x000A, "NEW LINE"), (0x000A, "NL"),
   (0x000B, "LINE TABULATION"), (0x000B, "VERTICAL TABULATION"), (0x000B, "VT"), (0x000C, "FF"),
   (0x000C, "FORM FEED"), (0x000D, "CARRIAGE RETURN"), (0x000D, "CR"),
   (0x000E, "LOCKING-SHIFT ONE"), (0x000E, "SHIFT OUT"), (0x000E, "SO"),
   (0x000F, "LOCKING-SHIFT ZERO"), (0x000F, "SHIFT IN"), (0x000F, "SI"),
   (0x0010, "DATA LINK ESCAPE"), (0x0010, "DLE"), (0x0011, "DC1"),
   (0x0011, "DEVICE CONTROL ONE"), (0x0012, "DC2"), (0x0012, "DEVICE CONTROL TWO"),
   (0x0013, "DC3"), (0x0013, "DEVICE CONTROL THREE"), (0x0014, "DC4"),
   (0x0014, "DEVICE CONTROL FOUR"), (0x0015, "NAK"), (0x0015, "NEGATIVE ACKNOWLEDGE"),
   (0x0016, "SYN"), (0x0016, "SYNCHRONOUS IDLE"), (0x0017, "END OF TRANSMISSION BLOCK"),
   (0x0017, "ETB"), (0x0018, "CAN"), (0x0018, "CANCEL"), (0x0019, "END OF MEDIUM"),
   (0x0019, "EOM"), (0x001A, "SUB"), (0x001A, "SUBSTITUTE"), (0x001B, "ESC"), (0x001B, "ESCAPE"),
   (0x001C, "FILE SEPARATOR"), (0x001C, "FS"), (0x001C, "INFORMATION SEPARATOR FOUR"),
   (0x001D, "GROUP SEPARATOR"), (0x001D, "GS"), (0x001D, "INFORMATION SEPARATOR THREE"),
   (0x001E, "INFORMATION SEPARATOR TWO"), (0x001E, "RECORD SEPARATOR"), (0x001E, "RS"),
   (0x001F, "INFORMATION SEPARATOR ONE"), (0x001F, "UNIT SEPARATOR"), (0x001F, "US"),
   (0x0020, "SP"), (0x007F, "DEL"), (0x007F, "DELETE"), (0x0080, "PAD"),
   (0x0080, "PADDING CHARACTER"), (0x0081, "HIGH OCTET PRESET"), (0x0081, "HOP"),
   (0x0082, "BPH"), (0x0082, "BREAK PERMITTED HERE"), (0x0083, "NBH"), (0x0083, "NO BREAK HERE"),
   (0x0084, "IND"), (0x0084, "INDEX"), (0x0085, "NEL"), (0x0085, "NEXT LINE"), (0x0086, "SSA"),
   (0x0086, "START OF SELECTED AREA"), (0x0087, "END OF SELECTED AREA"), (0x0087, "ESA"),
   (0x0088, "CHARACTER TABULATION SET"), (0x0088, "HORIZONTAL TABULATION SET"), (0x0088, "HTS"),
   (0x0089, "CHARACTER TABULATION WITH JUSTIFICATION"),
   (0x0089, "HORIZONTAL TABULATION WITH JUSTIFICATION"), (0x0089, "HTJ"),
   (0x008A, "LINE TABULATION SET"), (0x008A, "VERTICAL TABULATION SET"), (0x008A, "VTS"),
   (0x008B, "PARTIAL LINE DOWN"), (0x008B, "PARTIAL LINE FORWARD"), (0x008B, "PLD"),
   (0x008C, "PARTIAL LINE BACKWARD"), (0x008C, "PARTIAL LINE UP"), (0x008C, "PLU"),
   (0x008D, "REVERSE INDEX"), (0x008D, "REVERSE LINE FEED"), (0x008D, "RI"),
   (0x008E, "SINGLE SHIFT TWO"), (0x008E, "SINGLE-SHIFT-2"), (0x008E, "SS2"),
   (0x008F, "SINGLE SHIFT THREE"), (0x008F, "SINGLE-SHIFT-3"), (0x008F, "SS3"), (0x0090, "DCS"),
   (0x0090, "DEVICE CONTROL STRING"), (0x0091, "PRIVATE USE ONE"), (0x0091, "PRIVATE USE-1"),
   (0x0091, "PU1"), (0x0092, "PRIVATE USE TWO"), (0x0092, "PRIVATE USE-2"), (0x0092, "PU2"),
   (0x0093, "SET TRANSMIT STATE"), (0x0093, "STS"), (0x0094, "CANCEL CHARACTER"),
   (0x0094, "CCH"), (0x0095, "MESSAGE WAITING"), (0x0095, "MW"), (0x0096, "SPA"),
   (0x0096, "START OF GUARDED AREA"), (0x0096, "START OF PROTECTED AREA"),
   (0x0097, "END OF GUARDED AREA"), (0x0097, "END OF PROTECTED AREA"), (0x0097, "EPA"),
   (0x0098, "SOS"), (0x0098, "START OF STRING"), (0x0099, "SGC"),
   (0x0099, "SINGLE GRAPHIC CHARACTER INTRODUCER"), (0x009A, "SCI"),
   (0x009A, "SINGLE CHARACTER INTRODUCER"), (0x009B, "CONTROL SEQUENCE INTRODUCER"),
   (0x009B, "CSI"), (0x009C, "ST"), (0x009C, "STRING TERMINATOR"),
   (0x009D, "OPERATING SYSTEM COMMAND"), (0x009D, "OSC"), (0x009E, "PM"),
   (0x009E, "PRIVACY MESSAGE"), (0x009F, "APC"), (0x009F, "APPLICATION PROGRAM COMMAND"),
   (0x00A0, "NBSP"), (0x00AD, "SHY"), (0x01A2, "LATIN CAPITAL LETTER GHA"),
   (0x01A3, "LATIN SMALL LETTER GHA"), (0x034F, "CGJ"), (0x061C, "ALM"),
   (0x0709, "SYRIAC SUBLINEAR COLON SKEWED LEFT"), (0x0CDE, "KANNADA LETTER LLLA"),
   (0x0E9D, "LAO LETTER FO FON"), (0x0E9F, "LAO LETTER FO FAY"), (0x0EA3, "LAO LETTER RO"),
   (0x0EA5, "LAO LETTER LO"), (0x0FD0, "TIBETAN MARK BKA- SHOG GI MGO RGYAN"),
   (0x11EC, "HANGUL JONGSEONG YESIEUNG-KIYEOK"),
   (0x11ED, "HANGUL JONGSEONG YESIEUNG-SSANGKIYEOK"), (0x11EE, "HANGUL JONGSEONG SSANGYESIEUNG"),
   (0x11EF, "HANGUL JONGSEONG YESIEUNG-KHIEUKH"), (0x180B, "FVS1"), (0x180C, "FVS2"),
   (0x180D, "FVS3"), (0x180E, "MVS"), (0x180F, "FVS4"), (0x200B, "ZWSP"), (0x200C, "ZWNJ"),
   (0x200D, "ZWJ"), (0x200E, "LRM"), (0x200F, "RLM"), (0x202A, "LRE"), (0x202B, "RLE"),
   (0x202C, "PDF"), (0x202D, "LRO"), (0x202E, "RLO"), (0x202F, "NNBSP"), (0x205F, "MMSP"),
   (0x2060, "WJ"), (0x2066, "LRI"), (0x2067, "RLI"), (0x2068, "FSI"), (0x2069, "PDI"),
   (0x2118, "WEIERSTRASS ELLIPTIC FUNCTION"), (0x2448, "MICR ON US SYMBOL"),
   (0x2449, "MICR DASH SYMBOL"),
   (0x2B7A, "LEFTWARDS TRIANGLE-HEADED ARROW WITH DOUBLE VERTICAL STROKE"),
   (0x2B7C, "RIGHTWARDS TRIANGLE-HEADED ARROW WITH DOUBLE VERTICAL STROKE"),
   (0xA015, "YI SYLLABLE ITERATION MARK"), (0xAA6E, "MYANMAR LETTER KHAMTI LLA"),
   (0xFE00, "VS1"), (0xFE01, "VS2"), (0xFE02, "VS3"), (0xFE03, "VS4"), (0xFE04, "VS5"),
   (0xFE05, "VS6"), (0xFE06, "VS7"), (0xFE07, "VS8"), (0xFE08, "VS9"), (0xFE09, "VS10"),
   (0xFE0A, "VS11"), (0xFE0B, "VS12"), (0xFE0C, "VS13"), (0xFE0D, "VS14"), (0xFE0E, "VS15"),
   (0xFE0F, "VS16"), (0xFE18, "PRESENTATION FORM FOR VERTICAL RIGHT WHITE LENTICULAR BRACKET"),
   (0xFEFF, "BOM"), (0xFEFF, "BYTE ORDER MARK"), (0xFEFF, "ZWNBSP"),
   (0x122D4, "CUNEIFORM SIGN NU11 TENU"),
   (0x122D5, "CUNEIFORM SIGN NU11 OVER NU11 BUR OVER BUR"),
   (0x16E56, "MEDEFAIDRIN CAPITAL LETTER H"), (0x16E57, "MEDEFAIDRIN CAPITAL LETTER NG"),
   (0x16E76, "MEDEFAIDRIN SMALL LETTER H"), (0x16E77, "MEDEFAIDRIN SMALL LETTER NG"),
   (0x1B001, "HENTAIGANA LETTER E-1"),
   (0x1D0C5, "BYZANTINE MUSICAL SYMBOL FTHORA SKLIRON CHROMA VASIS"), (0xE0100, "VS17"),
   (0xE0101, "VS18"), (0xE0102, "VS19"), (0xE0103, "VS20"), (0xE0104, "VS21"), (0xE0105, "VS22"),
   (0xE0106, "VS23"), (0xE0107, "VS24"), (0xE0108, "VS25"), (0xE0109, "VS26"), (0xE010A, "VS27"),
   (0xE010B, "VS28"), (0xE010C, "VS29"), (0xE010D, "VS30"), (0xE010E, "VS31"), (0xE010F, "VS32"),
   (0xE0110, "VS33"), (0xE0111, "VS34"), (0xE0112, "VS35"), (0xE0113, "VS36"), (0xE0114, "VS37"),
   (0xE0115, "VS38"), (0xE0116, "VS39"), (0xE0117, "VS40"), (0xE0118, "VS41"), (0xE0119, "VS42"),
   (0xE011A, "VS43"), (0xE011B, "VS44"), (0xE011C, "VS45"), (0xE011D, "VS46"), (0xE011E, "VS47"),
   (0xE011F, "VS48"), (0xE0120, "VS49"), (0xE0121, "VS50"), (0xE0122, "VS51"), (0xE0123, "VS52"),
   (0xE0124, "VS53"), (0xE0125, "VS54"), (0xE0126, "VS55"), (0xE0127, "VS56"), (0xE0128, "VS57"),
   (0xE0129, "VS58"), (0xE012A, "VS59"), (0xE012B, "VS60"), (0xE012C, "VS61"), (0xE012D, "VS62"),
   (0xE012E, "VS63"), (0xE012F, "VS64"), (0xE0130, "VS65"), (0xE0131, "VS66"), (0xE0132, "VS67"),
   (0xE0133, "VS68"), (0xE0134, "VS69"), (0xE0135, "VS70"), (0xE0136, "VS71"), (0xE0137, "VS72"),
   (0xE0138, "VS73"), (0xE0139, "VS74"), (0xE013A, "VS75"), (0xE013B, "VS76"), (0xE013C, "VS77"),
   (0xE013D, "VS78"), (0xE013E, "VS79"), (0xE013F, "VS80"), (0xE0140, "VS81"), (0xE0141, "VS82"),
   (0xE0142, "VS83"), (0xE0143, "VS84"), (0xE0144, "VS85"), (0xE0145, "VS86"), (0xE0146, "VS87"),
   (0xE0147, "VS88"), (0xE0148, "VS89"), (0xE0149, "VS90"), (0xE014A, "VS91"), (0xE014B, "VS92"),
   (0xE014C, "VS93"), (0xE014D, "VS94"), (0xE014E, "VS95"), (0xE014F, "VS96"), (0xE0150, "VS97"),
   (0xE0151, "VS98"), (0xE0152, "VS99"), (0xE0153, "VS100"), (0xE0154, "VS101"),
   (0xE0155, "VS102"), (0xE0156, "VS103"), (0xE0157, "VS104"), (0xE0158, "VS105"),
   (0xE0159, "VS106"), (0xE015A, "VS107"), (0xE015B, "VS108"), (0xE015C, "VS109"),
   (0xE015D, "VS110"), (0xE015E, "VS111"), (0xE015F, "VS112"), (0xE0160, "VS113"),
   (0xE0161, "VS114"), (0xE0162, "VS115"), (0xE0163, "VS116"), (0xE0164, "VS117"),
   (0xE0165, "VS118"), (0xE0166, "VS119"), (0xE0167, "VS120"), (0xE0168, "VS121"),
   (0xE0169, "VS122"), (0xE016A, "VS123"), (0xE016B, "VS124"), (0xE016C, "VS125"),
   (0xE016D, "VS126"), (0xE016E, "VS127"), (0xE016F, "VS128"), (0xE0170, "VS129"),
   (0xE0171, "VS130"), (0xE0172, "VS131"), (0xE0173, "VS132"), (0xE0174, "VS133"),
   (0xE0175, "VS134"), (0xE0176, "VS135"), (0xE0177, "VS136"), (0xE0178, "VS137"),
   (0xE0179, "VS138"), (0xE017A, "VS139"), (0xE017B, "VS140"), (0xE017C, "VS141"),
   (0xE017D, "VS142"), (0xE017E, "VS143"), (0xE017F, "VS144"), (0xE0180, "VS145"),
   (0xE0181, "VS146"), (0xE0182, "VS147"), (0xE0183, "VS148"), (0xE0184, "VS149"),
   (0xE0185, "VS150"), (0xE0186, "VS151"), (0xE0187, "VS152"), (0xE0188, "VS153"),
   (0xE0189, "VS154"), (0xE018A, "VS155"), (0xE018B, "VS156"), (0xE018C, "VS157"),
   (0xE018D, "VS158"), (0xE018E, "VS159"), (0xE018F, "VS160"), (0xE0190, "VS161"),
   (0xE0191, "VS162"), (0xE0192, "VS163"), (0xE0193, "VS164"), (0xE0194, "VS165"),
   (0xE0195, "VS166"), (0xE0196, "VS167"), (0xE0197, "VS168"), (0xE0198, "VS169"),
   (0xE0199, "VS170"), (0xE019A, "VS171"), (0xE019B, "VS172"), (0xE019C, "VS173"),
   (0xE019D, "VS174"), (0xE019E, "VS175"), (0xE019F, "VS176"), (0xE01A0, "VS177"),
   (0xE01A1, "VS178"), (0xE01A2, "VS179"), (0xE01A3, "VS180"), (0xE01A4, "VS181"),
   (0xE01A5, "VS182"), (0xE01A6, "VS183"), (0xE01A7, "VS184"), (0xE01A8, "VS185"),
   (0xE01A9, "VS186"), (0xE01AA, "VS187"), (0xE01AB, "VS188"), (0xE01AC, "VS189"),
   (0xE01AD, "VS190"), (0xE01AE, "VS191"), (0xE01AF, "VS192"), (0xE01B0, "VS193"),
   (0xE01B1, "VS194"), (0xE01B2, "VS195"), (0xE01B3, "VS196"), (0xE01B4, "VS197"),
   (0xE01B5, "VS198"), (0xE01B6, "VS199"), (0xE01B7, "VS200"), (0xE01B8, "VS201"),
   (0xE01B9, "VS202"), (0xE01BA, "VS203"), (0xE01BB, "VS204"), (0xE01BC, "VS205"),
   (0xE01BD, "VS206"), (0xE01BE, "VS207"), (0xE01BF, "VS208"), (0xE01C0, "VS209"),
   (0xE01C1, "VS210"), (0xE01C2, "VS211"), (0xE01C3, "VS212"), (0xE01C4, "VS213"),
   (0xE01C5, "VS214"), (0xE01C6, "VS215"), (0xE01C7, "VS216"), (0xE01C8, "VS217"),
   (0xE01C9, "VS218"), (0xE01CA, "VS219"), (0xE01CB, "VS220"), (0xE01CC, "VS221"),
   (0xE01CD, "VS222"), (0xE01CE, "VS223"), (0xE01CF, "VS224"), (0xE01D0, "VS225"),
   (0xE01D1, "VS226"), (0xE01D2, "VS227"), (0xE01D3, "VS228"), (0xE01D4, "VS229"),
   (0xE01D5, "VS230"), (0xE01D6, "VS231"), (0xE01D7, "VS232"), (0xE01D8, "VS233"),
   (0xE01D9, "VS234"), (0xE01DA, "VS235"), (0xE01DB, "VS236"), (0xE01DC, "VS237"),
   (0xE01DD, "VS238"), (0xE01DE, "VS239"), (0xE01DF, "VS240"), (0xE01E0, "VS241"),
   (0xE01E1, "VS242"), (0xE01E2, "VS243"), (0xE01E3, "VS244"), (0xE01E4, "VS245"),
   (0xE01E5, "VS246"), (0xE01E6, "VS247"), (0xE01E7, "VS248"), (0xE01E8, "VS249"),
   (0xE01E9, "VS250"), (0xE01EA, "VS251"), (0xE01EB, "VS252"), (0xE01EC, "VS253"),
   (0xE01ED, "VS254"), (0xE01EE, "VS255"), (0xE01EF, "VS256")]

end CharacterName
end RuleDraft
