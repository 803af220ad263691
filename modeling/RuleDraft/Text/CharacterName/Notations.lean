/-!
# Character names: notations

The names of the code points from U+1D000 to U+1EFFF, musical and mathematical
notation, and sign writing. A line with an at sign starts a run at a code point;
the lines after it are the names of that code point and of those that follow it.
-/

namespace RuleDraft
namespace CharacterName

def notationsA : String := "@1D000
BYZANTINE MUSICAL SYMBOL PSILI
BYZANTINE MUSICAL SYMBOL DASEIA
BYZANTINE MUSICAL SYMBOL PERISPOMENI
BYZANTINE MUSICAL SYMBOL OXEIA EKFONITIKON
BYZANTINE MUSICAL SYMBOL OXEIA DIPLI
BYZANTINE MUSICAL SYMBOL VAREIA EKFONITIKON
BYZANTINE MUSICAL SYMBOL VAREIA DIPLI
BYZANTINE MUSICAL SYMBOL KATHISTI
BYZANTINE MUSICAL SYMBOL SYRMATIKI
BYZANTINE MUSICAL SYMBOL PARAKLITIKI
BYZANTINE MUSICAL SYMBOL YPOKRISIS
BYZANTINE MUSICAL SYMBOL YPOKRISIS DIPLI
BYZANTINE MUSICAL SYMBOL KREMASTI
BYZANTINE MUSICAL SYMBOL APESO EKFONITIKON
BYZANTINE MUSICAL SYMBOL EXO EKFONITIKON
BYZANTINE MUSICAL SYMBOL TELEIA
BYZANTINE MUSICAL SYMBOL KENTIMATA
BYZANTINE MUSICAL SYMBOL APOSTROFOS
BYZANTINE MUSICAL SYMBOL APOSTROFOS DIPLI
BYZANTINE MUSICAL SYMBOL SYNEVMA
BYZANTINE MUSICAL SYMBOL THITA
BYZANTINE MUSICAL SYMBOL OLIGON ARCHAION
BYZANTINE MUSICAL SYMBOL GORGON ARCHAION
BYZANTINE MUSICAL SYMBOL PSILON
BYZANTINE MUSICAL SYMBOL CHAMILON
BYZANTINE MUSICAL SYMBOL VATHY
BYZANTINE MUSICAL SYMBOL ISON ARCHAION
BYZANTINE MUSICAL SYMBOL KENTIMA ARCHAION
BYZANTINE MUSICAL SYMBOL KENTIMATA ARCHAION
BYZANTINE MUSICAL SYMBOL SAXIMATA
BYZANTINE MUSICAL SYMBOL PARICHON
BYZANTINE MUSICAL SYMBOL STAVROS APODEXIA
BYZANTINE MUSICAL SYMBOL OXEIAI ARCHAION
BYZANTINE MUSICAL SYMBOL VAREIAI ARCHAION
BYZANTINE MUSICAL SYMBOL APODERMA ARCHAION
BYZANTINE MUSICAL SYMBOL APOTHEMA
BYZANTINE MUSICAL SYMBOL KLASMA
BYZANTINE MUSICAL SYMBOL REVMA
BYZANTINE MUSICAL SYMBOL PIASMA ARCHAION
BYZANTINE MUSICAL SYMBOL TINAGMA
BYZANTINE MUSICAL SYMBOL ANATRICHISMA
BYZANTINE MUSICAL SYMBOL SEISMA
BYZANTINE MUSICAL SYMBOL SYNAGMA ARCHAION
BYZANTINE MUSICAL SYMBOL SYNAGMA META STAVROU
BYZANTINE MUSICAL SYMBOL OYRANISMA ARCHAION
BYZANTINE MUSICAL SYMBOL THEMA
BYZANTINE MUSICAL SYMBOL LEMOI
BYZANTINE MUSICAL SYMBOL DYO
BYZANTINE MUSICAL SYMBOL TRIA
BYZANTINE MUSICAL SYMBOL TESSERA
BYZANTINE MUSICAL SYMBOL KRATIMATA
BYZANTINE MUSICAL SYMBOL APESO EXO NEO
BYZANTINE MUSICAL SYMBOL FTHORA ARCHAION
BYZANTINE MUSICAL SYMBOL IMIFTHORA
BYZANTINE MUSICAL SYMBOL TROMIKON ARCHAION
BYZANTINE MUSICAL SYMBOL KATAVA TROMIKON
BYZANTINE MUSICAL SYMBOL PELASTON
BYZANTINE MUSICAL SYMBOL PSIFISTON
BYZANTINE MUSICAL SYMBOL KONTEVMA
BYZANTINE MUSICAL SYMBOL CHOREVMA ARCHAION
BYZANTINE MUSICAL SYMBOL RAPISMA
BYZANTINE MUSICAL SYMBOL PARAKALESMA ARCHAION
BYZANTINE MUSICAL SYMBOL PARAKLITIKI ARCHAION
BYZANTINE MUSICAL SYMBOL ICHADIN
BYZANTINE MUSICAL SYMBOL NANA
BYZANTINE MUSICAL SYMBOL PETASMA
BYZANTINE MUSICAL SYMBOL KONTEVMA ALLO
BYZANTINE MUSICAL SYMBOL TROMIKON ALLO
BYZANTINE MUSICAL SYMBOL STRAGGISMATA
BYZANTINE MUSICAL SYMBOL GRONTHISMATA
BYZANTINE MUSICAL SYMBOL ISON NEO
BYZANTINE MUSICAL SYMBOL OLIGON NEO
BYZANTINE MUSICAL SYMBOL OXEIA NEO
BYZANTINE MUSICAL SYMBOL PETASTI
BYZANTINE MUSICAL SYMBOL KOUFISMA
BYZANTINE MUSICAL SYMBOL PETASTOKOUFISMA
BYZANTINE MUSICAL SYMBOL KRATIMOKOUFISMA
BYZANTINE MUSICAL SYMBOL PELASTON NEO
BYZANTINE MUSICAL SYMBOL KENTIMATA NEO ANO
BYZANTINE MUSICAL SYMBOL KENTIMA NEO ANO
BYZANTINE MUSICAL SYMBOL YPSILI
BYZANTINE MUSICAL SYMBOL APOSTROFOS NEO
BYZANTINE MUSICAL SYMBOL APOSTROFOI SYNDESMOS NEO
BYZANTINE MUSICAL SYMBOL YPORROI
BYZANTINE MUSICAL SYMBOL KRATIMOYPORROON
BYZANTINE MUSICAL SYMBOL ELAFRON
BYZANTINE MUSICAL SYMBOL CHAMILI
BYZANTINE MUSICAL SYMBOL MIKRON ISON
BYZANTINE MUSICAL SYMBOL VAREIA NEO
BYZANTINE MUSICAL SYMBOL PIASMA NEO
BYZANTINE MUSICAL SYMBOL PSIFISTON NEO
BYZANTINE MUSICAL SYMBOL OMALON
BYZANTINE MUSICAL SYMBOL ANTIKENOMA
BYZANTINE MUSICAL SYMBOL LYGISMA
BYZANTINE MUSICAL SYMBOL PARAKLITIKI NEO
BYZANTINE MUSICAL SYMBOL PARAKALESMA NEO
BYZANTINE MUSICAL SYMBOL ETERON PARAKALESMA
BYZANTINE MUSICAL SYMBOL KYLISMA
BYZANTINE MUSICAL SYMBOL ANTIKENOKYLISMA
BYZANTINE MUSICAL SYMBOL TROMIKON NEO
BYZANTINE MUSICAL SYMBOL EKSTREPTON
BYZANTINE MUSICAL SYMBOL SYNAGMA NEO
BYZANTINE MUSICAL SYMBOL SYRMA
BYZANTINE MUSICAL SYMBOL CHOREVMA NEO
BYZANTINE MUSICAL SYMBOL EPEGERMA
BYZANTINE MUSICAL SYMBOL SEISMA NEO
BYZANTINE MUSICAL SYMBOL XIRON KLASMA
BYZANTINE MUSICAL SYMBOL TROMIKOPSIFISTON
BYZANTINE MUSICAL SYMBOL PSIFISTOLYGISMA
BYZANTINE MUSICAL SYMBOL TROMIKOLYGISMA
BYZANTINE MUSICAL SYMBOL TROMIKOPARAKALESMA
BYZANTINE MUSICAL SYMBOL PSIFISTOPARAKALESMA
BYZANTINE MUSICAL SYMBOL TROMIKOSYNAGMA
BYZANTINE MUSICAL SYMBOL PSIFISTOSYNAGMA
BYZANTINE MUSICAL SYMBOL GORGOSYNTHETON
BYZANTINE MUSICAL SYMBOL ARGOSYNTHETON
BYZANTINE MUSICAL SYMBOL ETERON ARGOSYNTHETON
BYZANTINE MUSICAL SYMBOL OYRANISMA NEO
BYZANTINE MUSICAL SYMBOL THEMATISMOS ESO
BYZANTINE MUSICAL SYMBOL THEMATISMOS EXO
BYZANTINE MUSICAL SYMBOL THEMA APLOUN
BYZANTINE MUSICAL SYMBOL THES KAI APOTHES
BYZANTINE MUSICAL SYMBOL KATAVASMA
BYZANTINE MUSICAL SYMBOL ENDOFONON
BYZANTINE MUSICAL SYMBOL YFEN KATO
BYZANTINE MUSICAL SYMBOL YFEN ANO
BYZANTINE MUSICAL SYMBOL STAVROS
BYZANTINE MUSICAL SYMBOL KLASMA ANO
BYZANTINE MUSICAL SYMBOL DIPLI ARCHAION
BYZANTINE MUSICAL SYMBOL KRATIMA ARCHAION
BYZANTINE MUSICAL SYMBOL KRATIMA ALLO
BYZANTINE MUSICAL SYMBOL KRATIMA NEO
BYZANTINE MUSICAL SYMBOL APODERMA NEO
BYZANTINE MUSICAL SYMBOL APLI
BYZANTINE MUSICAL SYMBOL DIPLI
BYZANTINE MUSICAL SYMBOL TRIPLI
BYZANTINE MUSICAL SYMBOL TETRAPLI
BYZANTINE MUSICAL SYMBOL KORONIS
BYZANTINE MUSICAL SYMBOL LEIMMA ENOS CHRONOU
BYZANTINE MUSICAL SYMBOL LEIMMA DYO CHRONON
BYZANTINE MUSICAL SYMBOL LEIMMA TRION CHRONON
BYZANTINE MUSICAL SYMBOL LEIMMA TESSARON CHRONON
BYZANTINE MUSICAL SYMBOL LEIMMA IMISEOS CHRONOU
BYZANTINE MUSICAL SYMBOL GORGON NEO ANO
BYZANTINE MUSICAL SYMBOL GORGON PARESTIGMENON ARISTERA
BYZANTINE MUSICAL SYMBOL GORGON PARESTIGMENON DEXIA
BYZANTINE MUSICAL SYMBOL DIGORGON
BYZANTINE MUSICAL SYMBOL DIGORGON PARESTIGMENON ARISTERA KATO
BYZANTINE MUSICAL SYMBOL DIGORGON PARESTIGMENON ARISTERA ANO
BYZANTINE MUSICAL SYMBOL DIGORGON PARESTIGMENON DEXIA
BYZANTINE MUSICAL SYMBOL TRIGORGON
BYZANTINE MUSICAL SYMBOL ARGON
BYZANTINE MUSICAL SYMBOL IMIDIARGON
BYZANTINE MUSICAL SYMBOL DIARGON
BYZANTINE MUSICAL SYMBOL AGOGI POLI ARGI
BYZANTINE MUSICAL SYMBOL AGOGI ARGOTERI
BYZANTINE MUSICAL SYMBOL AGOGI ARGI
BYZANTINE MUSICAL SYMBOL AGOGI METRIA
BYZANTINE MUSICAL SYMBOL AGOGI MESI
BYZANTINE MUSICAL SYMBOL AGOGI GORGI
BYZANTINE MUSICAL SYMBOL AGOGI GORGOTERI
BYZANTINE MUSICAL SYMBOL AGOGI POLI GORGI
BYZANTINE MUSICAL SYMBOL MARTYRIA PROTOS ICHOS
BYZANTINE MUSICAL SYMBOL MARTYRIA ALLI PROTOS ICHOS
BYZANTINE MUSICAL SYMBOL MARTYRIA DEYTEROS ICHOS
BYZANTINE MUSICAL SYMBOL MARTYRIA ALLI DEYTEROS ICHOS
BYZANTINE MUSICAL SYMBOL MARTYRIA TRITOS ICHOS
BYZANTINE MUSICAL SYMBOL MARTYRIA TRIFONIAS
BYZANTINE MUSICAL SYMBOL MARTYRIA TETARTOS ICHOS
BYZANTINE MUSICAL SYMBOL MARTYRIA TETARTOS LEGETOS ICHOS
BYZANTINE MUSICAL SYMBOL MARTYRIA LEGETOS ICHOS
BYZANTINE MUSICAL SYMBOL MARTYRIA PLAGIOS ICHOS
BYZANTINE MUSICAL SYMBOL ISAKIA TELOUS ICHIMATOS
BYZANTINE MUSICAL SYMBOL APOSTROFOI TELOUS ICHIMATOS
BYZANTINE MUSICAL SYMBOL FANEROSIS TETRAFONIAS
BYZANTINE MUSICAL SYMBOL FANEROSIS MONOFONIAS
BYZANTINE MUSICAL SYMBOL FANEROSIS DIFONIAS
BYZANTINE MUSICAL SYMBOL MARTYRIA VARYS ICHOS
BYZANTINE MUSICAL SYMBOL MARTYRIA PROTOVARYS ICHOS
BYZANTINE MUSICAL SYMBOL MARTYRIA PLAGIOS TETARTOS ICHOS
BYZANTINE MUSICAL SYMBOL GORTHMIKON N APLOUN
BYZANTINE MUSICAL SYMBOL GORTHMIKON N DIPLOUN
BYZANTINE MUSICAL SYMBOL ENARXIS KAI FTHORA VOU
BYZANTINE MUSICAL SYMBOL IMIFONON
BYZANTINE MUSICAL SYMBOL IMIFTHORON
BYZANTINE MUSICAL SYMBOL FTHORA ARCHAION DEYTEROU ICHOU
BYZANTINE MUSICAL SYMBOL FTHORA DIATONIKI PA
BYZANTINE MUSICAL SYMBOL FTHORA DIATONIKI NANA
BYZANTINE MUSICAL SYMBOL FTHORA NAOS ICHOS
BYZANTINE MUSICAL SYMBOL FTHORA DIATONIKI DI
BYZANTINE MUSICAL SYMBOL FTHORA SKLIRON DIATONON DI
BYZANTINE MUSICAL SYMBOL FTHORA DIATONIKI KE
BYZANTINE MUSICAL SYMBOL FTHORA DIATONIKI ZO
BYZANTINE MUSICAL SYMBOL FTHORA DIATONIKI NI KATO
BYZANTINE MUSICAL SYMBOL FTHORA DIATONIKI NI ANO
BYZANTINE MUSICAL SYMBOL FTHORA MALAKON CHROMA DIFONIAS
BYZANTINE MUSICAL SYMBOL FTHORA MALAKON CHROMA MONOFONIAS
BYZANTINE MUSICAL SYMBOL FHTORA SKLIRON CHROMA VASIS
BYZANTINE MUSICAL SYMBOL FTHORA SKLIRON CHROMA SYNAFI
BYZANTINE MUSICAL SYMBOL FTHORA NENANO
BYZANTINE MUSICAL SYMBOL CHROA ZYGOS
BYZANTINE MUSICAL SYMBOL CHROA KLITON
BYZANTINE MUSICAL SYMBOL CHROA SPATHI
BYZANTINE MUSICAL SYMBOL FTHORA I YFESIS TETARTIMORION
BYZANTINE MUSICAL SYMBOL FTHORA ENARMONIOS ANTIFONIA
BYZANTINE MUSICAL SYMBOL YFESIS TRITIMORION
BYZANTINE MUSICAL SYMBOL DIESIS TRITIMORION
BYZANTINE MUSICAL SYMBOL DIESIS TETARTIMORION
BYZANTINE MUSICAL SYMBOL DIESIS APLI DYO DODEKATA
BYZANTINE MUSICAL SYMBOL DIESIS MONOGRAMMOS TESSERA DODEKATA
BYZANTINE MUSICAL SYMBOL DIESIS DIGRAMMOS EX DODEKATA
BYZANTINE MUSICAL SYMBOL DIESIS TRIGRAMMOS OKTO DODEKATA
BYZANTINE MUSICAL SYMBOL YFESIS APLI DYO DODEKATA
BYZANTINE MUSICAL SYMBOL YFESIS MONOGRAMMOS TESSERA DODEKATA
BYZANTINE MUSICAL SYMBOL YFESIS DIGRAMMOS EX DODEKATA
BYZANTINE MUSICAL SYMBOL YFESIS TRIGRAMMOS OKTO DODEKATA
BYZANTINE MUSICAL SYMBOL GENIKI DIESIS
BYZANTINE MUSICAL SYMBOL GENIKI YFESIS
BYZANTINE MUSICAL SYMBOL DIASTOLI APLI MIKRI
BYZANTINE MUSICAL SYMBOL DIASTOLI APLI MEGALI
BYZANTINE MUSICAL SYMBOL DIASTOLI DIPLI
BYZANTINE MUSICAL SYMBOL DIASTOLI THESEOS
BYZANTINE MUSICAL SYMBOL SIMANSIS THESEOS
BYZANTINE MUSICAL SYMBOL SIMANSIS THESEOS DISIMOU
BYZANTINE MUSICAL SYMBOL SIMANSIS THESEOS TRISIMOU
BYZANTINE MUSICAL SYMBOL SIMANSIS THESEOS TETRASIMOU
BYZANTINE MUSICAL SYMBOL SIMANSIS ARSEOS
BYZANTINE MUSICAL SYMBOL SIMANSIS ARSEOS DISIMOU
BYZANTINE MUSICAL SYMBOL SIMANSIS ARSEOS TRISIMOU
BYZANTINE MUSICAL SYMBOL SIMANSIS ARSEOS TETRASIMOU
BYZANTINE MUSICAL SYMBOL DIGRAMMA GG
BYZANTINE MUSICAL SYMBOL DIFTOGGOS OU
BYZANTINE MUSICAL SYMBOL STIGMA
BYZANTINE MUSICAL SYMBOL ARKTIKO PA
BYZANTINE MUSICAL SYMBOL ARKTIKO VOU
BYZANTINE MUSICAL SYMBOL ARKTIKO GA
BYZANTINE MUSICAL SYMBOL ARKTIKO DI
BYZANTINE MUSICAL SYMBOL ARKTIKO KE
BYZANTINE MUSICAL SYMBOL ARKTIKO ZO
BYZANTINE MUSICAL SYMBOL ARKTIKO NI
BYZANTINE MUSICAL SYMBOL KENTIMATA NEO MESO
BYZANTINE MUSICAL SYMBOL KENTIMA NEO MESO
BYZANTINE MUSICAL SYMBOL KENTIMATA NEO KATO
BYZANTINE MUSICAL SYMBOL KENTIMA NEO KATO
BYZANTINE MUSICAL SYMBOL KLASMA KATO
BYZANTINE MUSICAL SYMBOL GORGON NEO KATO
@1D100
MUSICAL SYMBOL SINGLE BARLINE
MUSICAL SYMBOL DOUBLE BARLINE
MUSICAL SYMBOL FINAL BARLINE
MUSICAL SYMBOL REVERSE FINAL BARLINE
MUSICAL SYMBOL DASHED BARLINE
MUSICAL SYMBOL SHORT BARLINE
MUSICAL SYMBOL LEFT REPEAT SIGN
MUSICAL SYMBOL RIGHT REPEAT SIGN
MUSICAL SYMBOL REPEAT DOTS
MUSICAL SYMBOL DAL SEGNO
MUSICAL SYMBOL DA CAPO
MUSICAL SYMBOL SEGNO
MUSICAL SYMBOL CODA
MUSICAL SYMBOL REPEATED FIGURE-1
MUSICAL SYMBOL REPEATED FIGURE-2
MUSICAL SYMBOL REPEATED FIGURE-3
MUSICAL SYMBOL FERMATA
MUSICAL SYMBOL FERMATA BELOW
MUSICAL SYMBOL BREATH MARK
MUSICAL SYMBOL CAESURA
MUSICAL SYMBOL BRACE
MUSICAL SYMBOL BRACKET
MUSICAL SYMBOL ONE-LINE STAFF
MUSICAL SYMBOL TWO-LINE STAFF
MUSICAL SYMBOL THREE-LINE STAFF
MUSICAL SYMBOL FOUR-LINE STAFF
MUSICAL SYMBOL FIVE-LINE STAFF
MUSICAL SYMBOL SIX-LINE STAFF
MUSICAL SYMBOL SIX-STRING FRETBOARD
MUSICAL SYMBOL FOUR-STRING FRETBOARD
MUSICAL SYMBOL G CLEF
MUSICAL SYMBOL G CLEF OTTAVA ALTA
MUSICAL SYMBOL G CLEF OTTAVA BASSA
MUSICAL SYMBOL C CLEF
MUSICAL SYMBOL F CLEF
MUSICAL SYMBOL F CLEF OTTAVA ALTA
MUSICAL SYMBOL F CLEF OTTAVA BASSA
MUSICAL SYMBOL DRUM CLEF-1
MUSICAL SYMBOL DRUM CLEF-2
@1D129
MUSICAL SYMBOL MULTIPLE MEASURE REST
MUSICAL SYMBOL DOUBLE SHARP
MUSICAL SYMBOL DOUBLE FLAT
MUSICAL SYMBOL FLAT UP
MUSICAL SYMBOL FLAT DOWN
MUSICAL SYMBOL NATURAL UP
MUSICAL SYMBOL NATURAL DOWN
MUSICAL SYMBOL SHARP UP
MUSICAL SYMBOL SHARP DOWN
MUSICAL SYMBOL QUARTER TONE SHARP
MUSICAL SYMBOL QUARTER TONE FLAT
MUSICAL SYMBOL COMMON TIME
MUSICAL SYMBOL CUT TIME
MUSICAL SYMBOL OTTAVA ALTA
MUSICAL SYMBOL OTTAVA BASSA
MUSICAL SYMBOL QUINDICESIMA ALTA
MUSICAL SYMBOL QUINDICESIMA BASSA
MUSICAL SYMBOL MULTI REST
MUSICAL SYMBOL WHOLE REST
MUSICAL SYMBOL HALF REST
MUSICAL SYMBOL QUARTER REST
MUSICAL SYMBOL EIGHTH REST
MUSICAL SYMBOL SIXTEENTH REST
MUSICAL SYMBOL THIRTY-SECOND REST
MUSICAL SYMBOL SIXTY-FOURTH REST
MUSICAL SYMBOL ONE HUNDRED TWENTY-EIGHTH REST
MUSICAL SYMBOL X NOTEHEAD
MUSICAL SYMBOL PLUS NOTEHEAD
MUSICAL SYMBOL CIRCLE X NOTEHEAD
MUSICAL SYMBOL SQUARE NOTEHEAD WHITE
MUSICAL SYMBOL SQUARE NOTEHEAD BLACK
MUSICAL SYMBOL TRIANGLE NOTEHEAD UP WHITE
MUSICAL SYMBOL TRIANGLE NOTEHEAD UP BLACK
MUSICAL SYMBOL TRIANGLE NOTEHEAD LEFT WHITE
MUSICAL SYMBOL TRIANGLE NOTEHEAD LEFT BLACK
MUSICAL SYMBOL TRIANGLE NOTEHEAD RIGHT WHITE
MUSICAL SYMBOL TRIANGLE NOTEHEAD RIGHT BLACK
MUSICAL SYMBOL TRIANGLE NOTEHEAD DOWN WHITE
MUSICAL SYMBOL TRIANGLE NOTEHEAD DOWN BLACK
MUSICAL SYMBOL TRIANGLE NOTEHEAD UP RIGHT WHITE
MUSICAL SYMBOL TRIANGLE NOTEHEAD UP RIGHT BLACK
MUSICAL SYMBOL MOON NOTEHEAD WHITE
MUSICAL SYMBOL MOON NOTEHEAD BLACK
MUSICAL SYMBOL TRIANGLE-ROUND NOTEHEAD DOWN WHITE
MUSICAL SYMBOL TRIANGLE-ROUND NOTEHEAD DOWN BLACK
MUSICAL SYMBOL PARENTHESIS NOTEHEAD
MUSICAL SYMBOL VOID NOTEHEAD
MUSICAL SYMBOL NOTEHEAD BLACK
MUSICAL SYMBOL NULL NOTEHEAD
MUSICAL SYMBOL CLUSTER NOTEHEAD WHITE
MUSICAL SYMBOL CLUSTER NOTEHEAD BLACK
MUSICAL SYMBOL BREVE
MUSICAL SYMBOL WHOLE NOTE
MUSICAL SYMBOL HALF NOTE
MUSICAL SYMBOL QUARTER NOTE
MUSICAL SYMBOL EIGHTH NOTE
MUSICAL SYMBOL SIXTEENTH NOTE
MUSICAL SYMBOL THIRTY-SECOND NOTE
MUSICAL SYMBOL SIXTY-FOURTH NOTE
MUSICAL SYMBOL ONE HUNDRED TWENTY-EIGHTH NOTE
MUSICAL SYMBOL COMBINING STEM
MUSICAL SYMBOL COMBINING SPRECHGESANG STEM
MUSICAL SYMBOL COMBINING TREMOLO-1
MUSICAL SYMBOL COMBINING TREMOLO-2
MUSICAL SYMBOL COMBINING TREMOLO-3
MUSICAL SYMBOL FINGERED TREMOLO-1
MUSICAL SYMBOL FINGERED TREMOLO-2
MUSICAL SYMBOL FINGERED TREMOLO-3
MUSICAL SYMBOL COMBINING AUGMENTATION DOT
MUSICAL SYMBOL COMBINING FLAG-1
MUSICAL SYMBOL COMBINING FLAG-2
MUSICAL SYMBOL COMBINING FLAG-3
MUSICAL SYMBOL COMBINING FLAG-4
MUSICAL SYMBOL COMBINING FLAG-5
MUSICAL SYMBOL BEGIN BEAM
MUSICAL SYMBOL END BEAM
MUSICAL SYMBOL BEGIN TIE
MUSICAL SYMBOL END TIE
MUSICAL SYMBOL BEGIN SLUR
MUSICAL SYMBOL END SLUR
MUSICAL SYMBOL BEGIN PHRASE
MUSICAL SYMBOL END PHRASE
MUSICAL SYMBOL COMBINING ACCENT
MUSICAL SYMBOL COMBINING STACCATO
MUSICAL SYMBOL COMBINING TENUTO
MUSICAL SYMBOL COMBINING STACCATISSIMO
MUSICAL SYMBOL COMBINING MARCATO
MUSICAL SYMBOL COMBINING MARCATO-STACCATO
MUSICAL SYMBOL COMBINING ACCENT-STACCATO
MUSICAL SYMBOL COMBINING LOURE
MUSICAL SYMBOL ARPEGGIATO UP
MUSICAL SYMBOL ARPEGGIATO DOWN
MUSICAL SYMBOL COMBINING DOIT
MUSICAL SYMBOL COMBINING RIP
MUSICAL SYMBOL COMBINING FLIP
MUSICAL SYMBOL COMBINING SMEAR
MUSICAL SYMBOL COMBINING BEND
MUSICAL SYMBOL COMBINING DOUBLE TONGUE
MUSICAL SYMBOL COMBINING TRIPLE TONGUE
MUSICAL SYMBOL RINFORZANDO
MUSICAL SYMBOL SUBITO
MUSICAL SYMBOL Z
MUSICAL SYMBOL PIANO
MUSICAL SYMBOL MEZZO
MUSICAL SYMBOL FORTE
MUSICAL SYMBOL CRESCENDO
MUSICAL SYMBOL DECRESCENDO
MUSICAL SYMBOL GRACE NOTE SLASH
MUSICAL SYMBOL GRACE NOTE NO SLASH
MUSICAL SYMBOL TR
MUSICAL SYMBOL TURN
MUSICAL SYMBOL INVERTED TURN
MUSICAL SYMBOL TURN SLASH
MUSICAL SYMBOL TURN UP
MUSICAL SYMBOL ORNAMENT STROKE-1
MUSICAL SYMBOL ORNAMENT STROKE-2
MUSICAL SYMBOL ORNAMENT STROKE-3
MUSICAL SYMBOL ORNAMENT STROKE-4
MUSICAL SYMBOL ORNAMENT STROKE-5
MUSICAL SYMBOL ORNAMENT STROKE-6
MUSICAL SYMBOL ORNAMENT STROKE-7
MUSICAL SYMBOL ORNAMENT STROKE-8
MUSICAL SYMBOL ORNAMENT STROKE-9
MUSICAL SYMBOL ORNAMENT STROKE-10
MUSICAL SYMBOL ORNAMENT STROKE-11
MUSICAL SYMBOL HAUPTSTIMME
MUSICAL SYMBOL NEBENSTIMME
MUSICAL SYMBOL END OF STIMME
MUSICAL SYMBOL DEGREE SLASH
MUSICAL SYMBOL COMBINING DOWN BOW
MUSICAL SYMBOL COMBINING UP BOW
MUSICAL SYMBOL COMBINING HARMONIC
MUSICAL SYMBOL COMBINING SNAP PIZZICATO
MUSICAL SYMBOL PEDAL MARK
MUSICAL SYMBOL PEDAL UP MARK
MUSICAL SYMBOL HALF PEDAL MARK
MUSICAL SYMBOL GLISSANDO UP
MUSICAL SYMBOL GLISSANDO DOWN
MUSICAL SYMBOL WITH FINGERNAILS
MUSICAL SYMBOL DAMP
MUSICAL SYMBOL DAMP ALL
MUSICAL SYMBOL MAXIMA
MUSICAL SYMBOL LONGA
MUSICAL SYMBOL BREVIS
MUSICAL SYMBOL SEMIBREVIS WHITE
MUSICAL SYMBOL SEMIBREVIS BLACK
MUSICAL SYMBOL MINIMA
MUSICAL SYMBOL MINIMA BLACK
MUSICAL SYMBOL SEMIMINIMA WHITE
MUSICAL SYMBOL SEMIMINIMA BLACK
MUSICAL SYMBOL FUSA WHITE
MUSICAL SYMBOL FUSA BLACK
MUSICAL SYMBOL LONGA PERFECTA REST
MUSICAL SYMBOL LONGA IMPERFECTA REST
MUSICAL SYMBOL BREVIS REST
MUSICAL SYMBOL SEMIBREVIS REST
MUSICAL SYMBOL MINIMA REST
MUSICAL SYMBOL SEMIMINIMA REST
MUSICAL SYMBOL TEMPUS PERFECTUM CUM PROLATIONE PERFECTA
MUSICAL SYMBOL TEMPUS PERFECTUM CUM PROLATIONE IMPERFECTA
MUSICAL SYMBOL TEMPUS PERFECTUM CUM PROLATIONE PERFECTA DIMINUTION-1
MUSICAL SYMBOL TEMPUS IMPERFECTUM CUM PROLATIONE PERFECTA
MUSICAL SYMBOL TEMPUS IMPERFECTUM CUM PROLATIONE IMPERFECTA
MUSICAL SYMBOL TEMPUS IMPERFECTUM CUM PROLATIONE IMPERFECTA DIMINUTION-1
MUSICAL SYMBOL TEMPUS IMPERFECTUM CUM PROLATIONE IMPERFECTA DIMINUTION-2
MUSICAL SYMBOL TEMPUS IMPERFECTUM CUM PROLATIONE IMPERFECTA DIMINUTION-3
MUSICAL SYMBOL CROIX
MUSICAL SYMBOL GREGORIAN C CLEF
MUSICAL SYMBOL GREGORIAN F CLEF
MUSICAL SYMBOL SQUARE B
MUSICAL SYMBOL VIRGA
MUSICAL SYMBOL PODATUS
MUSICAL SYMBOL CLIVIS
MUSICAL SYMBOL SCANDICUS
MUSICAL SYMBOL CLIMACUS
MUSICAL SYMBOL TORCULUS
MUSICAL SYMBOL PORRECTUS
MUSICAL SYMBOL PORRECTUS FLEXUS
MUSICAL SYMBOL SCANDICUS FLEXUS
MUSICAL SYMBOL TORCULUS RESUPINUS
MUSICAL SYMBOL PES SUBPUNCTIS
MUSICAL SYMBOL KIEVAN C CLEF
MUSICAL SYMBOL KIEVAN END OF PIECE
MUSICAL SYMBOL KIEVAN FINAL NOTE
MUSICAL SYMBOL KIEVAN RECITATIVE MARK
MUSICAL SYMBOL KIEVAN WHOLE NOTE
MUSICAL SYMBOL KIEVAN HALF NOTE
MUSICAL SYMBOL KIEVAN QUARTER NOTE STEM DOWN
MUSICAL SYMBOL KIEVAN QUARTER NOTE STEM UP
MUSICAL SYMBOL KIEVAN EIGHTH NOTE STEM DOWN
MUSICAL SYMBOL KIEVAN EIGHTH NOTE STEM UP
MUSICAL SYMBOL KIEVAN FLAT SIGN
MUSICAL SYMBOL SORI
MUSICAL SYMBOL KORON
@1D200
GREEK VOCAL NOTATION SYMBOL-1
GREEK VOCAL NOTATION SYMBOL-2
GREEK VOCAL NOTATION SYMBOL-3
GREEK VOCAL NOTATION SYMBOL-4
GREEK VOCAL NOTATION SYMBOL-5
GREEK VOCAL NOTATION SYMBOL-6
GREEK VOCAL NOTATION SYMBOL-7
GREEK VOCAL NOTATION SYMBOL-8
GREEK VOCAL NOTATION SYMBOL-9
GREEK VOCAL NOTATION SYMBOL-10
GREEK VOCAL NOTATION SYMBOL-11
GREEK VOCAL NOTATION SYMBOL-12
GREEK VOCAL NOTATION SYMBOL-13
GREEK VOCAL NOTATION SYMBOL-14
GREEK VOCAL NOTATION SYMBOL-15
GREEK VOCAL NOTATION SYMBOL-16
GREEK VOCAL NOTATION SYMBOL-17
GREEK VOCAL NOTATION SYMBOL-18
GREEK VOCAL NOTATION SYMBOL-19
GREEK VOCAL NOTATION SYMBOL-20
GREEK VOCAL NOTATION SYMBOL-21
GREEK VOCAL NOTATION SYMBOL-22
GREEK VOCAL NOTATION SYMBOL-23
GREEK VOCAL NOTATION SYMBOL-24
GREEK VOCAL NOTATION SYMBOL-50
GREEK VOCAL NOTATION SYMBOL-51
GREEK VOCAL NOTATION SYMBOL-52
GREEK VOCAL NOTATION SYMBOL-53
GREEK VOCAL NOTATION SYMBOL-54
GREEK INSTRUMENTAL NOTATION SYMBOL-1
GREEK INSTRUMENTAL NOTATION SYMBOL-2
GREEK INSTRUMENTAL NOTATION SYMBOL-4
GREEK INSTRUMENTAL NOTATION SYMBOL-5
GREEK INSTRUMENTAL NOTATION SYMBOL-7
GREEK INSTRUMENTAL NOTATION SYMBOL-8
GREEK INSTRUMENTAL NOTATION SYMBOL-11
GREEK INSTRUMENTAL NOTATION SYMBOL-12
GREEK INSTRUMENTAL NOTATION SYMBOL-13
GREEK INSTRUMENTAL NOTATION SYMBOL-14
GREEK INSTRUMENTAL NOTATION SYMBOL-17
GREEK INSTRUMENTAL NOTATION SYMBOL-18
GREEK INSTRUMENTAL NOTATION SYMBOL-19
GREEK INSTRUMENTAL NOTATION SYMBOL-23
GREEK INSTRUMENTAL NOTATION SYMBOL-24
GREEK INSTRUMENTAL NOTATION SYMBOL-25
GREEK INSTRUMENTAL NOTATION SYMBOL-26
GREEK INSTRUMENTAL NOTATION SYMBOL-27
GREEK INSTRUMENTAL NOTATION SYMBOL-29
GREEK INSTRUMENTAL NOTATION SYMBOL-30
GREEK INSTRUMENTAL NOTATION SYMBOL-32
GREEK INSTRUMENTAL NOTATION SYMBOL-36
GREEK INSTRUMENTAL NOTATION SYMBOL-37
GREEK INSTRUMENTAL NOTATION SYMBOL-38
GREEK INSTRUMENTAL NOTATION SYMBOL-39
GREEK INSTRUMENTAL NOTATION SYMBOL-40
GREEK INSTRUMENTAL NOTATION SYMBOL-42
GREEK INSTRUMENTAL NOTATION SYMBOL-43
GREEK INSTRUMENTAL NOTATION SYMBOL-45
GREEK INSTRUMENTAL NOTATION SYMBOL-47
GREEK INSTRUMENTAL NOTATION SYMBOL-48
GREEK INSTRUMENTAL NOTATION SYMBOL-49
GREEK INSTRUMENTAL NOTATION SYMBOL-50
GREEK INSTRUMENTAL NOTATION SYMBOL-51
GREEK INSTRUMENTAL NOTATION SYMBOL-52
GREEK INSTRUMENTAL NOTATION SYMBOL-53
GREEK INSTRUMENTAL NOTATION SYMBOL-54
COMBINING GREEK MUSICAL TRISEME
COMBINING GREEK MUSICAL TETRASEME
COMBINING GREEK MUSICAL PENTASEME
GREEK MUSICAL LEIMMA
@1D2E0
MAYAN NUMERAL ZERO
MAYAN NUMERAL ONE
MAYAN NUMERAL TWO
MAYAN NUMERAL THREE
MAYAN NUMERAL FOUR
MAYAN NUMERAL FIVE
MAYAN NUMERAL SIX
MAYAN NUMERAL SEVEN
MAYAN NUMERAL EIGHT
MAYAN NUMERAL NINE
MAYAN NUMERAL TEN
MAYAN NUMERAL ELEVEN
MAYAN NUMERAL TWELVE
MAYAN NUMERAL THIRTEEN
MAYAN NUMERAL FOURTEEN
MAYAN NUMERAL FIFTEEN
MAYAN NUMERAL SIXTEEN
MAYAN NUMERAL SEVENTEEN
MAYAN NUMERAL EIGHTEEN
MAYAN NUMERAL NINETEEN"

def notationsB : String := "@1D300
MONOGRAM FOR EARTH
DIGRAM FOR HEAVENLY EARTH
DIGRAM FOR HUMAN EARTH
DIGRAM FOR EARTHLY HEAVEN
DIGRAM FOR EARTHLY HUMAN
DIGRAM FOR EARTH
TETRAGRAM FOR CENTRE
TETRAGRAM FOR FULL CIRCLE
TETRAGRAM FOR MIRED
TETRAGRAM FOR BARRIER
TETRAGRAM FOR KEEPING SMALL
TETRAGRAM FOR CONTRARIETY
TETRAGRAM FOR ASCENT
TETRAGRAM FOR OPPOSITION
TETRAGRAM FOR BRANCHING OUT
TETRAGRAM FOR DEFECTIVENESS OR DISTORTION
TETRAGRAM FOR DIVERGENCE
TETRAGRAM FOR YOUTHFULNESS
TETRAGRAM FOR INCREASE
TETRAGRAM FOR PENETRATION
TETRAGRAM FOR REACH
TETRAGRAM FOR CONTACT
TETRAGRAM FOR HOLDING BACK
TETRAGRAM FOR WAITING
TETRAGRAM FOR FOLLOWING
TETRAGRAM FOR ADVANCE
TETRAGRAM FOR RELEASE
TETRAGRAM FOR RESISTANCE
TETRAGRAM FOR EASE
TETRAGRAM FOR JOY
TETRAGRAM FOR CONTENTION
TETRAGRAM FOR ENDEAVOUR
TETRAGRAM FOR DUTIES
TETRAGRAM FOR CHANGE
TETRAGRAM FOR DECISIVENESS
TETRAGRAM FOR BOLD RESOLUTION
TETRAGRAM FOR PACKING
TETRAGRAM FOR LEGION
TETRAGRAM FOR CLOSENESS
TETRAGRAM FOR KINSHIP
TETRAGRAM FOR GATHERING
TETRAGRAM FOR STRENGTH
TETRAGRAM FOR PURITY
TETRAGRAM FOR FULLNESS
TETRAGRAM FOR RESIDENCE
TETRAGRAM FOR LAW OR MODEL
TETRAGRAM FOR RESPONSE
TETRAGRAM FOR GOING TO MEET
TETRAGRAM FOR ENCOUNTERS
TETRAGRAM FOR STOVE
TETRAGRAM FOR GREATNESS
TETRAGRAM FOR ENLARGEMENT
TETRAGRAM FOR PATTERN
TETRAGRAM FOR RITUAL
TETRAGRAM FOR FLIGHT
TETRAGRAM FOR VASTNESS OR WASTING
TETRAGRAM FOR CONSTANCY
TETRAGRAM FOR MEASURE
TETRAGRAM FOR ETERNITY
TETRAGRAM FOR UNITY
TETRAGRAM FOR DIMINISHMENT
TETRAGRAM FOR CLOSED MOUTH
TETRAGRAM FOR GUARDEDNESS
TETRAGRAM FOR GATHERING IN
TETRAGRAM FOR MASSING
TETRAGRAM FOR ACCUMULATION
TETRAGRAM FOR EMBELLISHMENT
TETRAGRAM FOR DOUBT
TETRAGRAM FOR WATCH
TETRAGRAM FOR SINKING
TETRAGRAM FOR INNER
TETRAGRAM FOR DEPARTURE
TETRAGRAM FOR DARKENING
TETRAGRAM FOR DIMMING
TETRAGRAM FOR EXHAUSTION
TETRAGRAM FOR SEVERANCE
TETRAGRAM FOR STOPPAGE
TETRAGRAM FOR HARDNESS
TETRAGRAM FOR COMPLETION
TETRAGRAM FOR CLOSURE
TETRAGRAM FOR FAILURE
TETRAGRAM FOR AGGRAVATION
TETRAGRAM FOR COMPLIANCE
TETRAGRAM FOR ON THE VERGE
TETRAGRAM FOR DIFFICULTIES
TETRAGRAM FOR LABOURING
TETRAGRAM FOR FOSTERING
@1D360
COUNTING ROD UNIT DIGIT ONE
COUNTING ROD UNIT DIGIT TWO
COUNTING ROD UNIT DIGIT THREE
COUNTING ROD UNIT DIGIT FOUR
COUNTING ROD UNIT DIGIT FIVE
COUNTING ROD UNIT DIGIT SIX
COUNTING ROD UNIT DIGIT SEVEN
COUNTING ROD UNIT DIGIT EIGHT
COUNTING ROD UNIT DIGIT NINE
COUNTING ROD TENS DIGIT ONE
COUNTING ROD TENS DIGIT TWO
COUNTING ROD TENS DIGIT THREE
COUNTING ROD TENS DIGIT FOUR
COUNTING ROD TENS DIGIT FIVE
COUNTING ROD TENS DIGIT SIX
COUNTING ROD TENS DIGIT SEVEN
COUNTING ROD TENS DIGIT EIGHT
COUNTING ROD TENS DIGIT NINE
IDEOGRAPHIC TALLY MARK ONE
IDEOGRAPHIC TALLY MARK TWO
IDEOGRAPHIC TALLY MARK THREE
IDEOGRAPHIC TALLY MARK FOUR
IDEOGRAPHIC TALLY MARK FIVE
TALLY MARK ONE
TALLY MARK FIVE
@1D400
MATHEMATICAL BOLD CAPITAL A
MATHEMATICAL BOLD CAPITAL B
MATHEMATICAL BOLD CAPITAL C
MATHEMATICAL BOLD CAPITAL D
MATHEMATICAL BOLD CAPITAL E
MATHEMATICAL BOLD CAPITAL F
MATHEMATICAL BOLD CAPITAL G
MATHEMATICAL BOLD CAPITAL H
MATHEMATICAL BOLD CAPITAL I
MATHEMATICAL BOLD CAPITAL J
MATHEMATICAL BOLD CAPITAL K
MATHEMATICAL BOLD CAPITAL L
MATHEMATICAL BOLD CAPITAL M
MATHEMATICAL BOLD CAPITAL N
MATHEMATICAL BOLD CAPITAL O
MATHEMATICAL BOLD CAPITAL P
MATHEMATICAL BOLD CAPITAL Q
MATHEMATICAL BOLD CAPITAL R
MATHEMATICAL BOLD CAPITAL S
MATHEMATICAL BOLD CAPITAL T
MATHEMATICAL BOLD CAPITAL U
MATHEMATICAL BOLD CAPITAL V
MATHEMATICAL BOLD CAPITAL W
MATHEMATICAL BOLD CAPITAL X
MATHEMATICAL BOLD CAPITAL Y
MATHEMATICAL BOLD CAPITAL Z
MATHEMATICAL BOLD SMALL A
MATHEMATICAL BOLD SMALL B
MATHEMATICAL BOLD SMALL C
MATHEMATICAL BOLD SMALL D
MATHEMATICAL BOLD SMALL E
MATHEMATICAL BOLD SMALL F
MATHEMATICAL BOLD SMALL G
MATHEMATICAL BOLD SMALL H
MATHEMATICAL BOLD SMALL I
MATHEMATICAL BOLD SMALL J
MATHEMATICAL BOLD SMALL K
MATHEMATICAL BOLD SMALL L
MATHEMATICAL BOLD SMALL M
MATHEMATICAL BOLD SMALL N
MATHEMATICAL BOLD SMALL O
MATHEMATICAL BOLD SMALL P
MATHEMATICAL BOLD SMALL Q
MATHEMATICAL BOLD SMALL R
MATHEMATICAL BOLD SMALL S
MATHEMATICAL BOLD SMALL T
MATHEMATICAL BOLD SMALL U
MATHEMATICAL BOLD SMALL V
MATHEMATICAL BOLD SMALL W
MATHEMATICAL BOLD SMALL X
MATHEMATICAL BOLD SMALL Y
MATHEMATICAL BOLD SMALL Z
MATHEMATICAL ITALIC CAPITAL A
MATHEMATICAL ITALIC CAPITAL B
MATHEMATICAL ITALIC CAPITAL C
MATHEMATICAL ITALIC CAPITAL D
MATHEMATICAL ITALIC CAPITAL E
MATHEMATICAL ITALIC CAPITAL F
MATHEMATICAL ITALIC CAPITAL G
MATHEMATICAL ITALIC CAPITAL H
MATHEMATICAL ITALIC CAPITAL I
MATHEMATICAL ITALIC CAPITAL J
MATHEMATICAL ITALIC CAPITAL K
MATHEMATICAL ITALIC CAPITAL L
MATHEMATICAL ITALIC CAPITAL M
MATHEMATICAL ITALIC CAPITAL N
MATHEMATICAL ITALIC CAPITAL O
MATHEMATICAL ITALIC CAPITAL P
MATHEMATICAL ITALIC CAPITAL Q
MATHEMATICAL ITALIC CAPITAL R
MATHEMATICAL ITALIC CAPITAL S
MATHEMATICAL ITALIC CAPITAL T
MATHEMATICAL ITALIC CAPITAL U
MATHEMATICAL ITALIC CAPITAL V
MATHEMATICAL ITALIC CAPITAL W
MATHEMATICAL ITALIC CAPITAL X
MATHEMATICAL ITALIC CAPITAL Y
MATHEMATICAL ITALIC CAPITAL Z
MATHEMATICAL ITALIC SMALL A
MATHEMATICAL ITALIC SMALL B
MATHEMATICAL ITALIC SMALL C
MATHEMATICAL ITALIC SMALL D
MATHEMATICAL ITALIC SMALL E
MATHEMATICAL ITALIC SMALL F
MATHEMATICAL ITALIC SMALL G
@1D456
MATHEMATICAL ITALIC SMALL I
MATHEMATICAL ITALIC SMALL J
MATHEMATICAL ITALIC SMALL K
MATHEMATICAL ITALIC SMALL L
MATHEMATICAL ITALIC SMALL M
MATHEMATICAL ITALIC SMALL N
MATHEMATICAL ITALIC SMALL O
MATHEMATICAL ITALIC SMALL P
MATHEMATICAL ITALIC SMALL Q
MATHEMATICAL ITALIC SMALL R
MATHEMATICAL ITALIC SMALL S
MATHEMATICAL ITALIC SMALL T
MATHEMATICAL ITALIC SMALL U
MATHEMATICAL ITALIC SMALL V
MATHEMATICAL ITALIC SMALL W
MATHEMATICAL ITALIC SMALL X
MATHEMATICAL ITALIC SMALL Y
MATHEMATICAL ITALIC SMALL Z
MATHEMATICAL BOLD ITALIC CAPITAL A
MATHEMATICAL BOLD ITALIC CAPITAL B
MATHEMATICAL BOLD ITALIC CAPITAL C
MATHEMATICAL BOLD ITALIC CAPITAL D
MATHEMATICAL BOLD ITALIC CAPITAL E
MATHEMATICAL BOLD ITALIC CAPITAL F
MATHEMATICAL BOLD ITALIC CAPITAL G
MATHEMATICAL BOLD ITALIC CAPITAL H
MATHEMATICAL BOLD ITALIC CAPITAL I
MATHEMATICAL BOLD ITALIC CAPITAL J
MATHEMATICAL BOLD ITALIC CAPITAL K
MATHEMATICAL BOLD ITALIC CAPITAL L
MATHEMATICAL BOLD ITALIC CAPITAL M
MATHEMATICAL BOLD ITALIC CAPITAL N
MATHEMATICAL BOLD ITALIC CAPITAL O
MATHEMATICAL BOLD ITALIC CAPITAL P
MATHEMATICAL BOLD ITALIC CAPITAL Q
MATHEMATICAL BOLD ITALIC CAPITAL R
MATHEMATICAL BOLD ITALIC CAPITAL S
MATHEMATICAL BOLD ITALIC CAPITAL T
MATHEMATICAL BOLD ITALIC CAPITAL U
MATHEMATICAL BOLD ITALIC CAPITAL V
MATHEMATICAL BOLD ITALIC CAPITAL W
MATHEMATICAL BOLD ITALIC CAPITAL X
MATHEMATICAL BOLD ITALIC CAPITAL Y
MATHEMATICAL BOLD ITALIC CAPITAL Z
MATHEMATICAL BOLD ITALIC SMALL A
MATHEMATICAL BOLD ITALIC SMALL B
MATHEMATICAL BOLD ITALIC SMALL C
MATHEMATICAL BOLD ITALIC SMALL D
MATHEMATICAL BOLD ITALIC SMALL E
MATHEMATICAL BOLD ITALIC SMALL F
MATHEMATICAL BOLD ITALIC SMALL G
MATHEMATICAL BOLD ITALIC SMALL H
MATHEMATICAL BOLD ITALIC SMALL I
MATHEMATICAL BOLD ITALIC SMALL J
MATHEMATICAL BOLD ITALIC SMALL K
MATHEMATICAL BOLD ITALIC SMALL L
MATHEMATICAL BOLD ITALIC SMALL M
MATHEMATICAL BOLD ITALIC SMALL N
MATHEMATICAL BOLD ITALIC SMALL O
MATHEMATICAL BOLD ITALIC SMALL P
MATHEMATICAL BOLD ITALIC SMALL Q
MATHEMATICAL BOLD ITALIC SMALL R
MATHEMATICAL BOLD ITALIC SMALL S
MATHEMATICAL BOLD ITALIC SMALL T
MATHEMATICAL BOLD ITALIC SMALL U
MATHEMATICAL BOLD ITALIC SMALL V
MATHEMATICAL BOLD ITALIC SMALL W
MATHEMATICAL BOLD ITALIC SMALL X
MATHEMATICAL BOLD ITALIC SMALL Y
MATHEMATICAL BOLD ITALIC SMALL Z
MATHEMATICAL SCRIPT CAPITAL A
@1D49E
MATHEMATICAL SCRIPT CAPITAL C
MATHEMATICAL SCRIPT CAPITAL D
@1D4A2
MATHEMATICAL SCRIPT CAPITAL G
@1D4A5
MATHEMATICAL SCRIPT CAPITAL J
MATHEMATICAL SCRIPT CAPITAL K
@1D4A9
MATHEMATICAL SCRIPT CAPITAL N
MATHEMATICAL SCRIPT CAPITAL O
MATHEMATICAL SCRIPT CAPITAL P
MATHEMATICAL SCRIPT CAPITAL Q
@1D4AE
MATHEMATICAL SCRIPT CAPITAL S
MATHEMATICAL SCRIPT CAPITAL T
MATHEMATICAL SCRIPT CAPITAL U
MATHEMATICAL SCRIPT CAPITAL V
MATHEMATICAL SCRIPT CAPITAL W
MATHEMATICAL SCRIPT CAPITAL X
MATHEMATICAL SCRIPT CAPITAL Y
MATHEMATICAL SCRIPT CAPITAL Z
MATHEMATICAL SCRIPT SMALL A
MATHEMATICAL SCRIPT SMALL B
MATHEMATICAL SCRIPT SMALL C
MATHEMATICAL SCRIPT SMALL D
@1D4BB
MATHEMATICAL SCRIPT SMALL F
@1D4BD
MATHEMATICAL SCRIPT SMALL H
MATHEMATICAL SCRIPT SMALL I
MATHEMATICAL SCRIPT SMALL J
MATHEMATICAL SCRIPT SMALL K
MATHEMATICAL SCRIPT SMALL L
MATHEMATICAL SCRIPT SMALL M
MATHEMATICAL SCRIPT SMALL N
@1D4C5
MATHEMATICAL SCRIPT SMALL P
MATHEMATICAL SCRIPT SMALL Q
MATHEMATICAL SCRIPT SMALL R
MATHEMATICAL SCRIPT SMALL S
MATHEMATICAL SCRIPT SMALL T
MATHEMATICAL SCRIPT SMALL U
MATHEMATICAL SCRIPT SMALL V
MATHEMATICAL SCRIPT SMALL W
MATHEMATICAL SCRIPT SMALL X
MATHEMATICAL SCRIPT SMALL Y
MATHEMATICAL SCRIPT SMALL Z
MATHEMATICAL BOLD SCRIPT CAPITAL A
MATHEMATICAL BOLD SCRIPT CAPITAL B
MATHEMATICAL BOLD SCRIPT CAPITAL C
MATHEMATICAL BOLD SCRIPT CAPITAL D
MATHEMATICAL BOLD SCRIPT CAPITAL E
MATHEMATICAL BOLD SCRIPT CAPITAL F
MATHEMATICAL BOLD SCRIPT CAPITAL G
MATHEMATICAL BOLD SCRIPT CAPITAL H
MATHEMATICAL BOLD SCRIPT CAPITAL I
MATHEMATICAL BOLD SCRIPT CAPITAL J
MATHEMATICAL BOLD SCRIPT CAPITAL K
MATHEMATICAL BOLD SCRIPT CAPITAL L
MATHEMATICAL BOLD SCRIPT CAPITAL M
MATHEMATICAL BOLD SCRIPT CAPITAL N
MATHEMATICAL BOLD SCRIPT CAPITAL O
MATHEMATICAL BOLD SCRIPT CAPITAL P
MATHEMATICAL BOLD SCRIPT CAPITAL Q
MATHEMATICAL BOLD SCRIPT CAPITAL R
MATHEMATICAL BOLD SCRIPT CAPITAL S
MATHEMATICAL BOLD SCRIPT CAPITAL T
MATHEMATICAL BOLD SCRIPT CAPITAL U
MATHEMATICAL BOLD SCRIPT CAPITAL V
MATHEMATICAL BOLD SCRIPT CAPITAL W
MATHEMATICAL BOLD SCRIPT CAPITAL X
MATHEMATICAL BOLD SCRIPT CAPITAL Y
MATHEMATICAL BOLD SCRIPT CAPITAL Z
MATHEMATICAL BOLD SCRIPT SMALL A
MATHEMATICAL BOLD SCRIPT SMALL B
MATHEMATICAL BOLD SCRIPT SMALL C
MATHEMATICAL BOLD SCRIPT SMALL D
MATHEMATICAL BOLD SCRIPT SMALL E
MATHEMATICAL BOLD SCRIPT SMALL F
MATHEMATICAL BOLD SCRIPT SMALL G
MATHEMATICAL BOLD SCRIPT SMALL H
MATHEMATICAL BOLD SCRIPT SMALL I
MATHEMATICAL BOLD SCRIPT SMALL J
MATHEMATICAL BOLD SCRIPT SMALL K
MATHEMATICAL BOLD SCRIPT SMALL L
MATHEMATICAL BOLD SCRIPT SMALL M
MATHEMATICAL BOLD SCRIPT SMALL N
MATHEMATICAL BOLD SCRIPT SMALL O
MATHEMATICAL BOLD SCRIPT SMALL P
MATHEMATICAL BOLD SCRIPT SMALL Q
MATHEMATICAL BOLD SCRIPT SMALL R
MATHEMATICAL BOLD SCRIPT SMALL S
MATHEMATICAL BOLD SCRIPT SMALL T
MATHEMATICAL BOLD SCRIPT SMALL U
MATHEMATICAL BOLD SCRIPT SMALL V
MATHEMATICAL BOLD SCRIPT SMALL W
MATHEMATICAL BOLD SCRIPT SMALL X
MATHEMATICAL BOLD SCRIPT SMALL Y
MATHEMATICAL BOLD SCRIPT SMALL Z
MATHEMATICAL FRAKTUR CAPITAL A
MATHEMATICAL FRAKTUR CAPITAL B
@1D507
MATHEMATICAL FRAKTUR CAPITAL D
MATHEMATICAL FRAKTUR CAPITAL E
MATHEMATICAL FRAKTUR CAPITAL F
MATHEMATICAL FRAKTUR CAPITAL G
@1D50D
MATHEMATICAL FRAKTUR CAPITAL J
MATHEMATICAL FRAKTUR CAPITAL K
MATHEMATICAL FRAKTUR CAPITAL L
MATHEMATICAL FRAKTUR CAPITAL M
MATHEMATICAL FRAKTUR CAPITAL N
MATHEMATICAL FRAKTUR CAPITAL O
MATHEMATICAL FRAKTUR CAPITAL P
MATHEMATICAL FRAKTUR CAPITAL Q
@1D516
MATHEMATICAL FRAKTUR CAPITAL S
MATHEMATICAL FRAKTUR CAPITAL T
MATHEMATICAL FRAKTUR CAPITAL U
MATHEMATICAL FRAKTUR CAPITAL V
MATHEMATICAL FRAKTUR CAPITAL W
MATHEMATICAL FRAKTUR CAPITAL X
MATHEMATICAL FRAKTUR CAPITAL Y
@1D51E
MATHEMATICAL FRAKTUR SMALL A
MATHEMATICAL FRAKTUR SMALL B
MATHEMATICAL FRAKTUR SMALL C
MATHEMATICAL FRAKTUR SMALL D
MATHEMATICAL FRAKTUR SMALL E
MATHEMATICAL FRAKTUR SMALL F
MATHEMATICAL FRAKTUR SMALL G
MATHEMATICAL FRAKTUR SMALL H
MATHEMATICAL FRAKTUR SMALL I
MATHEMATICAL FRAKTUR SMALL J
MATHEMATICAL FRAKTUR SMALL K
MATHEMATICAL FRAKTUR SMALL L
MATHEMATICAL FRAKTUR SMALL M
MATHEMATICAL FRAKTUR SMALL N
MATHEMATICAL FRAKTUR SMALL O
MATHEMATICAL FRAKTUR SMALL P
MATHEMATICAL FRAKTUR SMALL Q
MATHEMATICAL FRAKTUR SMALL R
MATHEMATICAL FRAKTUR SMALL S
MATHEMATICAL FRAKTUR SMALL T
MATHEMATICAL FRAKTUR SMALL U
MATHEMATICAL FRAKTUR SMALL V
MATHEMATICAL FRAKTUR SMALL W
MATHEMATICAL FRAKTUR SMALL X
MATHEMATICAL FRAKTUR SMALL Y
MATHEMATICAL FRAKTUR SMALL Z
MATHEMATICAL DOUBLE-STRUCK CAPITAL A
MATHEMATICAL DOUBLE-STRUCK CAPITAL B
@1D53B
MATHEMATICAL DOUBLE-STRUCK CAPITAL D
MATHEMATICAL DOUBLE-STRUCK CAPITAL E
MATHEMATICAL DOUBLE-STRUCK CAPITAL F
MATHEMATICAL DOUBLE-STRUCK CAPITAL G
@1D540
MATHEMATICAL DOUBLE-STRUCK CAPITAL I
MATHEMATICAL DOUBLE-STRUCK CAPITAL J
MATHEMATICAL DOUBLE-STRUCK CAPITAL K
MATHEMATICAL DOUBLE-STRUCK CAPITAL L
MATHEMATICAL DOUBLE-STRUCK CAPITAL M
@1D546
MATHEMATICAL DOUBLE-STRUCK CAPITAL O
@1D54A
MATHEMATICAL DOUBLE-STRUCK CAPITAL S
MATHEMATICAL DOUBLE-STRUCK CAPITAL T
MATHEMATICAL DOUBLE-STRUCK CAPITAL U
MATHEMATICAL DOUBLE-STRUCK CAPITAL V
MATHEMATICAL DOUBLE-STRUCK CAPITAL W
MATHEMATICAL DOUBLE-STRUCK CAPITAL X
MATHEMATICAL DOUBLE-STRUCK CAPITAL Y
@1D552
MATHEMATICAL DOUBLE-STRUCK SMALL A
MATHEMATICAL DOUBLE-STRUCK SMALL B
MATHEMATICAL DOUBLE-STRUCK SMALL C
MATHEMATICAL DOUBLE-STRUCK SMALL D
MATHEMATICAL DOUBLE-STRUCK SMALL E
MATHEMATICAL DOUBLE-STRUCK SMALL F
MATHEMATICAL DOUBLE-STRUCK SMALL G
MATHEMATICAL DOUBLE-STRUCK SMALL H
MATHEMATICAL DOUBLE-STRUCK SMALL I
MATHEMATICAL DOUBLE-STRUCK SMALL J
MATHEMATICAL DOUBLE-STRUCK SMALL K
MATHEMATICAL DOUBLE-STRUCK SMALL L
MATHEMATICAL DOUBLE-STRUCK SMALL M
MATHEMATICAL DOUBLE-STRUCK SMALL N
MATHEMATICAL DOUBLE-STRUCK SMALL O
MATHEMATICAL DOUBLE-STRUCK SMALL P
MATHEMATICAL DOUBLE-STRUCK SMALL Q
MATHEMATICAL DOUBLE-STRUCK SMALL R
MATHEMATICAL DOUBLE-STRUCK SMALL S
MATHEMATICAL DOUBLE-STRUCK SMALL T
MATHEMATICAL DOUBLE-STRUCK SMALL U
MATHEMATICAL DOUBLE-STRUCK SMALL V
MATHEMATICAL DOUBLE-STRUCK SMALL W
MATHEMATICAL DOUBLE-STRUCK SMALL X
MATHEMATICAL DOUBLE-STRUCK SMALL Y
MATHEMATICAL DOUBLE-STRUCK SMALL Z
MATHEMATICAL BOLD FRAKTUR CAPITAL A
MATHEMATICAL BOLD FRAKTUR CAPITAL B
MATHEMATICAL BOLD FRAKTUR CAPITAL C
MATHEMATICAL BOLD FRAKTUR CAPITAL D
MATHEMATICAL BOLD FRAKTUR CAPITAL E
MATHEMATICAL BOLD FRAKTUR CAPITAL F
MATHEMATICAL BOLD FRAKTUR CAPITAL G
MATHEMATICAL BOLD FRAKTUR CAPITAL H
MATHEMATICAL BOLD FRAKTUR CAPITAL I
MATHEMATICAL BOLD FRAKTUR CAPITAL J
MATHEMATICAL BOLD FRAKTUR CAPITAL K
MATHEMATICAL BOLD FRAKTUR CAPITAL L
MATHEMATICAL BOLD FRAKTUR CAPITAL M
MATHEMATICAL BOLD FRAKTUR CAPITAL N
MATHEMATICAL BOLD FRAKTUR CAPITAL O
MATHEMATICAL BOLD FRAKTUR CAPITAL P
MATHEMATICAL BOLD FRAKTUR CAPITAL Q
MATHEMATICAL BOLD FRAKTUR CAPITAL R
MATHEMATICAL BOLD FRAKTUR CAPITAL S
MATHEMATICAL BOLD FRAKTUR CAPITAL T
MATHEMATICAL BOLD FRAKTUR CAPITAL U
MATHEMATICAL BOLD FRAKTUR CAPITAL V
MATHEMATICAL BOLD FRAKTUR CAPITAL W
MATHEMATICAL BOLD FRAKTUR CAPITAL X
MATHEMATICAL BOLD FRAKTUR CAPITAL Y
MATHEMATICAL BOLD FRAKTUR CAPITAL Z
MATHEMATICAL BOLD FRAKTUR SMALL A
MATHEMATICAL BOLD FRAKTUR SMALL B
MATHEMATICAL BOLD FRAKTUR SMALL C
MATHEMATICAL BOLD FRAKTUR SMALL D
MATHEMATICAL BOLD FRAKTUR SMALL E
MATHEMATICAL BOLD FRAKTUR SMALL F
MATHEMATICAL BOLD FRAKTUR SMALL G
MATHEMATICAL BOLD FRAKTUR SMALL H
MATHEMATICAL BOLD FRAKTUR SMALL I
MATHEMATICAL BOLD FRAKTUR SMALL J
MATHEMATICAL BOLD FRAKTUR SMALL K
MATHEMATICAL BOLD FRAKTUR SMALL L
MATHEMATICAL BOLD FRAKTUR SMALL M
MATHEMATICAL BOLD FRAKTUR SMALL N
MATHEMATICAL BOLD FRAKTUR SMALL O
MATHEMATICAL BOLD FRAKTUR SMALL P
MATHEMATICAL BOLD FRAKTUR SMALL Q
MATHEMATICAL BOLD FRAKTUR SMALL R
MATHEMATICAL BOLD FRAKTUR SMALL S
MATHEMATICAL BOLD FRAKTUR SMALL T
MATHEMATICAL BOLD FRAKTUR SMALL U
MATHEMATICAL BOLD FRAKTUR SMALL V
MATHEMATICAL BOLD FRAKTUR SMALL W
MATHEMATICAL BOLD FRAKTUR SMALL X
MATHEMATICAL BOLD FRAKTUR SMALL Y
MATHEMATICAL BOLD FRAKTUR SMALL Z
MATHEMATICAL SANS-SERIF CAPITAL A
MATHEMATICAL SANS-SERIF CAPITAL B
MATHEMATICAL SANS-SERIF CAPITAL C
MATHEMATICAL SANS-SERIF CAPITAL D
MATHEMATICAL SANS-SERIF CAPITAL E
MATHEMATICAL SANS-SERIF CAPITAL F
MATHEMATICAL SANS-SERIF CAPITAL G
MATHEMATICAL SANS-SERIF CAPITAL H
MATHEMATICAL SANS-SERIF CAPITAL I
MATHEMATICAL SANS-SERIF CAPITAL J
MATHEMATICAL SANS-SERIF CAPITAL K
MATHEMATICAL SANS-SERIF CAPITAL L
MATHEMATICAL SANS-SERIF CAPITAL M
MATHEMATICAL SANS-SERIF CAPITAL N
MATHEMATICAL SANS-SERIF CAPITAL O
MATHEMATICAL SANS-SERIF CAPITAL P
MATHEMATICAL SANS-SERIF CAPITAL Q
MATHEMATICAL SANS-SERIF CAPITAL R
MATHEMATICAL SANS-SERIF CAPITAL S
MATHEMATICAL SANS-SERIF CAPITAL T
MATHEMATICAL SANS-SERIF CAPITAL U
MATHEMATICAL SANS-SERIF CAPITAL V
MATHEMATICAL SANS-SERIF CAPITAL W
MATHEMATICAL SANS-SERIF CAPITAL X
MATHEMATICAL SANS-SERIF CAPITAL Y
MATHEMATICAL SANS-SERIF CAPITAL Z
MATHEMATICAL SANS-SERIF SMALL A
MATHEMATICAL SANS-SERIF SMALL B
MATHEMATICAL SANS-SERIF SMALL C
MATHEMATICAL SANS-SERIF SMALL D
MATHEMATICAL SANS-SERIF SMALL E
MATHEMATICAL SANS-SERIF SMALL F
MATHEMATICAL SANS-SERIF SMALL G
MATHEMATICAL SANS-SERIF SMALL H
MATHEMATICAL SANS-SERIF SMALL I
MATHEMATICAL SANS-SERIF SMALL J
MATHEMATICAL SANS-SERIF SMALL K
MATHEMATICAL SANS-SERIF SMALL L
MATHEMATICAL SANS-SERIF SMALL M
MATHEMATICAL SANS-SERIF SMALL N
MATHEMATICAL SANS-SERIF SMALL O
MATHEMATICAL SANS-SERIF SMALL P
MATHEMATICAL SANS-SERIF SMALL Q
MATHEMATICAL SANS-SERIF SMALL R
MATHEMATICAL SANS-SERIF SMALL S
MATHEMATICAL SANS-SERIF SMALL T
MATHEMATICAL SANS-SERIF SMALL U
MATHEMATICAL SANS-SERIF SMALL V
MATHEMATICAL SANS-SERIF SMALL W
MATHEMATICAL SANS-SERIF SMALL X
MATHEMATICAL SANS-SERIF SMALL Y
MATHEMATICAL SANS-SERIF SMALL Z
MATHEMATICAL SANS-SERIF BOLD CAPITAL A
MATHEMATICAL SANS-SERIF BOLD CAPITAL B
MATHEMATICAL SANS-SERIF BOLD CAPITAL C
MATHEMATICAL SANS-SERIF BOLD CAPITAL D
MATHEMATICAL SANS-SERIF BOLD CAPITAL E
MATHEMATICAL SANS-SERIF BOLD CAPITAL F
MATHEMATICAL SANS-SERIF BOLD CAPITAL G
MATHEMATICAL SANS-SERIF BOLD CAPITAL H
MATHEMATICAL SANS-SERIF BOLD CAPITAL I
MATHEMATICAL SANS-SERIF BOLD CAPITAL J
MATHEMATICAL SANS-SERIF BOLD CAPITAL K
MATHEMATICAL SANS-SERIF BOLD CAPITAL L
MATHEMATICAL SANS-SERIF BOLD CAPITAL M
MATHEMATICAL SANS-SERIF BOLD CAPITAL N
MATHEMATICAL SANS-SERIF BOLD CAPITAL O
MATHEMATICAL SANS-SERIF BOLD CAPITAL P
MATHEMATICAL SANS-SERIF BOLD CAPITAL Q
MATHEMATICAL SANS-SERIF BOLD CAPITAL R
MATHEMATICAL SANS-SERIF BOLD CAPITAL S
MATHEMATICAL SANS-SERIF BOLD CAPITAL T
MATHEMATICAL SANS-SERIF BOLD CAPITAL U
MATHEMATICAL SANS-SERIF BOLD CAPITAL V
MATHEMATICAL SANS-SERIF BOLD CAPITAL W
MATHEMATICAL SANS-SERIF BOLD CAPITAL X
MATHEMATICAL SANS-SERIF BOLD CAPITAL Y
MATHEMATICAL SANS-SERIF BOLD CAPITAL Z
MATHEMATICAL SANS-SERIF BOLD SMALL A
MATHEMATICAL SANS-SERIF BOLD SMALL B
MATHEMATICAL SANS-SERIF BOLD SMALL C
MATHEMATICAL SANS-SERIF BOLD SMALL D
MATHEMATICAL SANS-SERIF BOLD SMALL E
MATHEMATICAL SANS-SERIF BOLD SMALL F
MATHEMATICAL SANS-SERIF BOLD SMALL G
MATHEMATICAL SANS-SERIF BOLD SMALL H
MATHEMATICAL SANS-SERIF BOLD SMALL I
MATHEMATICAL SANS-SERIF BOLD SMALL J
MATHEMATICAL SANS-SERIF BOLD SMALL K
MATHEMATICAL SANS-SERIF BOLD SMALL L
MATHEMATICAL SANS-SERIF BOLD SMALL M
MATHEMATICAL SANS-SERIF BOLD SMALL N
MATHEMATICAL SANS-SERIF BOLD SMALL O
MATHEMATICAL SANS-SERIF BOLD SMALL P
MATHEMATICAL SANS-SERIF BOLD SMALL Q
MATHEMATICAL SANS-SERIF BOLD SMALL R
MATHEMATICAL SANS-SERIF BOLD SMALL S
MATHEMATICAL SANS-SERIF BOLD SMALL T
MATHEMATICAL SANS-SERIF BOLD SMALL U
MATHEMATICAL SANS-SERIF BOLD SMALL V
MATHEMATICAL SANS-SERIF BOLD SMALL W
MATHEMATICAL SANS-SERIF BOLD SMALL X
MATHEMATICAL SANS-SERIF BOLD SMALL Y
MATHEMATICAL SANS-SERIF BOLD SMALL Z
MATHEMATICAL SANS-SERIF ITALIC CAPITAL A
MATHEMATICAL SANS-SERIF ITALIC CAPITAL B
MATHEMATICAL SANS-SERIF ITALIC CAPITAL C
MATHEMATICAL SANS-SERIF ITALIC CAPITAL D
MATHEMATICAL SANS-SERIF ITALIC CAPITAL E
MATHEMATICAL SANS-SERIF ITALIC CAPITAL F
MATHEMATICAL SANS-SERIF ITALIC CAPITAL G
MATHEMATICAL SANS-SERIF ITALIC CAPITAL H
MATHEMATICAL SANS-SERIF ITALIC CAPITAL I
MATHEMATICAL SANS-SERIF ITALIC CAPITAL J
MATHEMATICAL SANS-SERIF ITALIC CAPITAL K
MATHEMATICAL SANS-SERIF ITALIC CAPITAL L
MATHEMATICAL SANS-SERIF ITALIC CAPITAL M
MATHEMATICAL SANS-SERIF ITALIC CAPITAL N
MATHEMATICAL SANS-SERIF ITALIC CAPITAL O
MATHEMATICAL SANS-SERIF ITALIC CAPITAL P
MATHEMATICAL SANS-SERIF ITALIC CAPITAL Q
MATHEMATICAL SANS-SERIF ITALIC CAPITAL R
MATHEMATICAL SANS-SERIF ITALIC CAPITAL S
MATHEMATICAL SANS-SERIF ITALIC CAPITAL T
MATHEMATICAL SANS-SERIF ITALIC CAPITAL U
MATHEMATICAL SANS-SERIF ITALIC CAPITAL V
MATHEMATICAL SANS-SERIF ITALIC CAPITAL W
MATHEMATICAL SANS-SERIF ITALIC CAPITAL X
MATHEMATICAL SANS-SERIF ITALIC CAPITAL Y
MATHEMATICAL SANS-SERIF ITALIC CAPITAL Z
MATHEMATICAL SANS-SERIF ITALIC SMALL A
MATHEMATICAL SANS-SERIF ITALIC SMALL B
MATHEMATICAL SANS-SERIF ITALIC SMALL C
MATHEMATICAL SANS-SERIF ITALIC SMALL D
MATHEMATICAL SANS-SERIF ITALIC SMALL E
MATHEMATICAL SANS-SERIF ITALIC SMALL F
MATHEMATICAL SANS-SERIF ITALIC SMALL G
MATHEMATICAL SANS-SERIF ITALIC SMALL H
MATHEMATICAL SANS-SERIF ITALIC SMALL I
MATHEMATICAL SANS-SERIF ITALIC SMALL J
MATHEMATICAL SANS-SERIF ITALIC SMALL K
MATHEMATICAL SANS-SERIF ITALIC SMALL L
MATHEMATICAL SANS-SERIF ITALIC SMALL M
MATHEMATICAL SANS-SERIF ITALIC SMALL N
MATHEMATICAL SANS-SERIF ITALIC SMALL O
MATHEMATICAL SANS-SERIF ITALIC SMALL P
MATHEMATICAL SANS-SERIF ITALIC SMALL Q
MATHEMATICAL SANS-SERIF ITALIC SMALL R
MATHEMATICAL SANS-SERIF ITALIC SMALL S
MATHEMATICAL SANS-SERIF ITALIC SMALL T
MATHEMATICAL SANS-SERIF ITALIC SMALL U
MATHEMATICAL SANS-SERIF ITALIC SMALL V
MATHEMATICAL SANS-SERIF ITALIC SMALL W
MATHEMATICAL SANS-SERIF ITALIC SMALL X
MATHEMATICAL SANS-SERIF ITALIC SMALL Y
MATHEMATICAL SANS-SERIF ITALIC SMALL Z
MATHEMATICAL SANS-SERIF BOLD ITALIC CAPITAL A
MATHEMATICAL SANS-SERIF BOLD ITALIC CAPITAL B
MATHEMATICAL SANS-SERIF BOLD ITALIC CAPITAL C
MATHEMATICAL SANS-SERIF BOLD ITALIC CAPITAL D
MATHEMATICAL SANS-SERIF BOLD ITALIC CAPITAL E
MATHEMATICAL SANS-SERIF BOLD ITALIC CAPITAL F
MATHEMATICAL SANS-SERIF BOLD ITALIC CAPITAL G
MATHEMATICAL SANS-SERIF BOLD ITALIC CAPITAL H
MATHEMATICAL SANS-SERIF BOLD ITALIC CAPITAL I
MATHEMATICAL SANS-SERIF BOLD ITALIC CAPITAL J
MATHEMATICAL SANS-SERIF BOLD ITALIC CAPITAL K
MATHEMATICAL SANS-SERIF BOLD ITALIC CAPITAL L
MATHEMATICAL SANS-SERIF BOLD ITALIC CAPITAL M
MATHEMATICAL SANS-SERIF BOLD ITALIC CAPITAL N
MATHEMATICAL SANS-SERIF BOLD ITALIC CAPITAL O
MATHEMATICAL SANS-SERIF BOLD ITALIC CAPITAL P
MATHEMATICAL SANS-SERIF BOLD ITALIC CAPITAL Q
MATHEMATICAL SANS-SERIF BOLD ITALIC CAPITAL R
MATHEMATICAL SANS-SERIF BOLD ITALIC CAPITAL S
MATHEMATICAL SANS-SERIF BOLD ITALIC CAPITAL T
MATHEMATICAL SANS-SERIF BOLD ITALIC CAPITAL U
MATHEMATICAL SANS-SERIF BOLD ITALIC CAPITAL V
MATHEMATICAL SANS-SERIF BOLD ITALIC CAPITAL W
MATHEMATICAL SANS-SERIF BOLD ITALIC CAPITAL X
MATHEMATICAL SANS-SERIF BOLD ITALIC CAPITAL Y
MATHEMATICAL SANS-SERIF BOLD ITALIC CAPITAL Z
MATHEMATICAL SANS-SERIF BOLD ITALIC SMALL A
MATHEMATICAL SANS-SERIF BOLD ITALIC SMALL B
MATHEMATICAL SANS-SERIF BOLD ITALIC SMALL C
MATHEMATICAL SANS-SERIF BOLD ITALIC SMALL D
MATHEMATICAL SANS-SERIF BOLD ITALIC SMALL E
MATHEMATICAL SANS-SERIF BOLD ITALIC SMALL F
MATHEMATICAL SANS-SERIF BOLD ITALIC SMALL G
MATHEMATICAL SANS-SERIF BOLD ITALIC SMALL H
MATHEMATICAL SANS-SERIF BOLD ITALIC SMALL I
MATHEMATICAL SANS-SERIF BOLD ITALIC SMALL J
MATHEMATICAL SANS-SERIF BOLD ITALIC SMALL K
MATHEMATICAL SANS-SERIF BOLD ITALIC SMALL L
MATHEMATICAL SANS-SERIF BOLD ITALIC SMALL M
MATHEMATICAL SANS-SERIF BOLD ITALIC SMALL N
MATHEMATICAL SANS-SERIF BOLD ITALIC SMALL O
MATHEMATICAL SANS-SERIF BOLD ITALIC SMALL P
MATHEMATICAL SANS-SERIF BOLD ITALIC SMALL Q
MATHEMATICAL SANS-SERIF BOLD ITALIC SMALL R
MATHEMATICAL SANS-SERIF BOLD ITALIC SMALL S
MATHEMATICAL SANS-SERIF BOLD ITALIC SMALL T
MATHEMATICAL SANS-SERIF BOLD ITALIC SMALL U
MATHEMATICAL SANS-SERIF BOLD ITALIC SMALL V
MATHEMATICAL SANS-SERIF BOLD ITALIC SMALL W
MATHEMATICAL SANS-SERIF BOLD ITALIC SMALL X
MATHEMATICAL SANS-SERIF BOLD ITALIC SMALL Y
MATHEMATICAL SANS-SERIF BOLD ITALIC SMALL Z
MATHEMATICAL MONOSPACE CAPITAL A
MATHEMATICAL MONOSPACE CAPITAL B
MATHEMATICAL MONOSPACE CAPITAL C
MATHEMATICAL MONOSPACE CAPITAL D
MATHEMATICAL MONOSPACE CAPITAL E
MATHEMATICAL MONOSPACE CAPITAL F
MATHEMATICAL MONOSPACE CAPITAL G
MATHEMATICAL MONOSPACE CAPITAL H
MATHEMATICAL MONOSPACE CAPITAL I
MATHEMATICAL MONOSPACE CAPITAL J
MATHEMATICAL MONOSPACE CAPITAL K
MATHEMATICAL MONOSPACE CAPITAL L
MATHEMATICAL MONOSPACE CAPITAL M
MATHEMATICAL MONOSPACE CAPITAL N
MATHEMATICAL MONOSPACE CAPITAL O
MATHEMATICAL MONOSPACE CAPITAL P
MATHEMATICAL MONOSPACE CAPITAL Q
MATHEMATICAL MONOSPACE CAPITAL R
MATHEMATICAL MONOSPACE CAPITAL S
MATHEMATICAL MONOSPACE CAPITAL T
MATHEMATICAL MONOSPACE CAPITAL U
MATHEMATICAL MONOSPACE CAPITAL V
MATHEMATICAL MONOSPACE CAPITAL W
MATHEMATICAL MONOSPACE CAPITAL X
MATHEMATICAL MONOSPACE CAPITAL Y
MATHEMATICAL MONOSPACE CAPITAL Z
MATHEMATICAL MONOSPACE SMALL A
MATHEMATICAL MONOSPACE SMALL B
MATHEMATICAL MONOSPACE SMALL C
MATHEMATICAL MONOSPACE SMALL D
MATHEMATICAL MONOSPACE SMALL E
MATHEMATICAL MONOSPACE SMALL F
MATHEMATICAL MONOSPACE SMALL G
MATHEMATICAL MONOSPACE SMALL H
MATHEMATICAL MONOSPACE SMALL I
MATHEMATICAL MONOSPACE SMALL J
MATHEMATICAL MONOSPACE SMALL K
MATHEMATICAL MONOSPACE SMALL L
MATHEMATICAL MONOSPACE SMALL M
MATHEMATICAL MONOSPACE SMALL N
MATHEMATICAL MONOSPACE SMALL O
MATHEMATICAL MONOSPACE SMALL P
MATHEMATICAL MONOSPACE SMALL Q
MATHEMATICAL MONOSPACE SMALL R
MATHEMATICAL MONOSPACE SMALL S
MATHEMATICAL MONOSPACE SMALL T
MATHEMATICAL MONOSPACE SMALL U
MATHEMATICAL MONOSPACE SMALL V
MATHEMATICAL MONOSPACE SMALL W
MATHEMATICAL MONOSPACE SMALL X
MATHEMATICAL MONOSPACE SMALL Y
MATHEMATICAL MONOSPACE SMALL Z
MATHEMATICAL ITALIC SMALL DOTLESS I
MATHEMATICAL ITALIC SMALL DOTLESS J"

def notationsC : String := "@1D6A8
MATHEMATICAL BOLD CAPITAL ALPHA
MATHEMATICAL BOLD CAPITAL BETA
MATHEMATICAL BOLD CAPITAL GAMMA
MATHEMATICAL BOLD CAPITAL DELTA
MATHEMATICAL BOLD CAPITAL EPSILON
MATHEMATICAL BOLD CAPITAL ZETA
MATHEMATICAL BOLD CAPITAL ETA
MATHEMATICAL BOLD CAPITAL THETA
MATHEMATICAL BOLD CAPITAL IOTA
MATHEMATICAL BOLD CAPITAL KAPPA
MATHEMATICAL BOLD CAPITAL LAMDA
MATHEMATICAL BOLD CAPITAL MU
MATHEMATICAL BOLD CAPITAL NU
MATHEMATICAL BOLD CAPITAL XI
MATHEMATICAL BOLD CAPITAL OMICRON
MATHEMATICAL BOLD CAPITAL PI
MATHEMATICAL BOLD CAPITAL RHO
MATHEMATICAL BOLD CAPITAL THETA SYMBOL
MATHEMATICAL BOLD CAPITAL SIGMA
MATHEMATICAL BOLD CAPITAL TAU
MATHEMATICAL BOLD CAPITAL UPSILON
MATHEMATICAL BOLD CAPITAL PHI
MATHEMATICAL BOLD CAPITAL CHI
MATHEMATICAL BOLD CAPITAL PSI
MATHEMATICAL BOLD CAPITAL OMEGA
MATHEMATICAL BOLD NABLA
MATHEMATICAL BOLD SMALL ALPHA
MATHEMATICAL BOLD SMALL BETA
MATHEMATICAL BOLD SMALL GAMMA
MATHEMATICAL BOLD SMALL DELTA
MATHEMATICAL BOLD SMALL EPSILON
MATHEMATICAL BOLD SMALL ZETA
MATHEMATICAL BOLD SMALL ETA
MATHEMATICAL BOLD SMALL THETA
MATHEMATICAL BOLD SMALL IOTA
MATHEMATICAL BOLD SMALL KAPPA
MATHEMATICAL BOLD SMALL LAMDA
MATHEMATICAL BOLD SMALL MU
MATHEMATICAL BOLD SMALL NU
MATHEMATICAL BOLD SMALL XI
MATHEMATICAL BOLD SMALL OMICRON
MATHEMATICAL BOLD SMALL PI
MATHEMATICAL BOLD SMALL RHO
MATHEMATICAL BOLD SMALL FINAL SIGMA
MATHEMATICAL BOLD SMALL SIGMA
MATHEMATICAL BOLD SMALL TAU
MATHEMATICAL BOLD SMALL UPSILON
MATHEMATICAL BOLD SMALL PHI
MATHEMATICAL BOLD SMALL CHI
MATHEMATICAL BOLD SMALL PSI
MATHEMATICAL BOLD SMALL OMEGA
MATHEMATICAL BOLD PARTIAL DIFFERENTIAL
MATHEMATICAL BOLD EPSILON SYMBOL
MATHEMATICAL BOLD THETA SYMBOL
MATHEMATICAL BOLD KAPPA SYMBOL
MATHEMATICAL BOLD PHI SYMBOL
MATHEMATICAL BOLD RHO SYMBOL
MATHEMATICAL BOLD PI SYMBOL
MATHEMATICAL ITALIC CAPITAL ALPHA
MATHEMATICAL ITALIC CAPITAL BETA
MATHEMATICAL ITALIC CAPITAL GAMMA
MATHEMATICAL ITALIC CAPITAL DELTA
MATHEMATICAL ITALIC CAPITAL EPSILON
MATHEMATICAL ITALIC CAPITAL ZETA
MATHEMATICAL ITALIC CAPITAL ETA
MATHEMATICAL ITALIC CAPITAL THETA
MATHEMATICAL ITALIC CAPITAL IOTA
MATHEMATICAL ITALIC CAPITAL KAPPA
MATHEMATICAL ITALIC CAPITAL LAMDA
MATHEMATICAL ITALIC CAPITAL MU
MATHEMATICAL ITALIC CAPITAL NU
MATHEMATICAL ITALIC CAPITAL XI
MATHEMATICAL ITALIC CAPITAL OMICRON
MATHEMATICAL ITALIC CAPITAL PI
MATHEMATICAL ITALIC CAPITAL RHO
MATHEMATICAL ITALIC CAPITAL THETA SYMBOL
MATHEMATICAL ITALIC CAPITAL SIGMA
MATHEMATICAL ITALIC CAPITAL TAU
MATHEMATICAL ITALIC CAPITAL UPSILON
MATHEMATICAL ITALIC CAPITAL PHI
MATHEMATICAL ITALIC CAPITAL CHI
MATHEMATICAL ITALIC CAPITAL PSI
MATHEMATICAL ITALIC CAPITAL OMEGA
MATHEMATICAL ITALIC NABLA
MATHEMATICAL ITALIC SMALL ALPHA
MATHEMATICAL ITALIC SMALL BETA
MATHEMATICAL ITALIC SMALL GAMMA
MATHEMATICAL ITALIC SMALL DELTA
MATHEMATICAL ITALIC SMALL EPSILON
MATHEMATICAL ITALIC SMALL ZETA
MATHEMATICAL ITALIC SMALL ETA
MATHEMATICAL ITALIC SMALL THETA
MATHEMATICAL ITALIC SMALL IOTA
MATHEMATICAL ITALIC SMALL KAPPA
MATHEMATICAL ITALIC SMALL LAMDA
MATHEMATICAL ITALIC SMALL MU
MATHEMATICAL ITALIC SMALL NU
MATHEMATICAL ITALIC SMALL XI
MATHEMATICAL ITALIC SMALL OMICRON
MATHEMATICAL ITALIC SMALL PI
MATHEMATICAL ITALIC SMALL RHO
MATHEMATICAL ITALIC SMALL FINAL SIGMA
MATHEMATICAL ITALIC SMALL SIGMA
MATHEMATICAL ITALIC SMALL TAU
MATHEMATICAL ITALIC SMALL UPSILON
MATHEMATICAL ITALIC SMALL PHI
MATHEMATICAL ITALIC SMALL CHI
MATHEMATICAL ITALIC SMALL PSI
MATHEMATICAL ITALIC SMALL OMEGA
MATHEMATICAL ITALIC PARTIAL DIFFERENTIAL
MATHEMATICAL ITALIC EPSILON SYMBOL
MATHEMATICAL ITALIC THETA SYMBOL
MATHEMATICAL ITALIC KAPPA SYMBOL
MATHEMATICAL ITALIC PHI SYMBOL
MATHEMATICAL ITALIC RHO SYMBOL
MATHEMATICAL ITALIC PI SYMBOL
MATHEMATICAL BOLD ITALIC CAPITAL ALPHA
MATHEMATICAL BOLD ITALIC CAPITAL BETA
MATHEMATICAL BOLD ITALIC CAPITAL GAMMA
MATHEMATICAL BOLD ITALIC CAPITAL DELTA
MATHEMATICAL BOLD ITALIC CAPITAL EPSILON
MATHEMATICAL BOLD ITALIC CAPITAL ZETA
MATHEMATICAL BOLD ITALIC CAPITAL ETA
MATHEMATICAL BOLD ITALIC CAPITAL THETA
MATHEMATICAL BOLD ITALIC CAPITAL IOTA
MATHEMATICAL BOLD ITALIC CAPITAL KAPPA
MATHEMATICAL BOLD ITALIC CAPITAL LAMDA
MATHEMATICAL BOLD ITALIC CAPITAL MU
MATHEMATICAL BOLD ITALIC CAPITAL NU
MATHEMATICAL BOLD ITALIC CAPITAL XI
MATHEMATICAL BOLD ITALIC CAPITAL OMICRON
MATHEMATICAL BOLD ITALIC CAPITAL PI
MATHEMATICAL BOLD ITALIC CAPITAL RHO
MATHEMATICAL BOLD ITALIC CAPITAL THETA SYMBOL
MATHEMATICAL BOLD ITALIC CAPITAL SIGMA
MATHEMATICAL BOLD ITALIC CAPITAL TAU
MATHEMATICAL BOLD ITALIC CAPITAL UPSILON
MATHEMATICAL BOLD ITALIC CAPITAL PHI
MATHEMATICAL BOLD ITALIC CAPITAL CHI
MATHEMATICAL BOLD ITALIC CAPITAL PSI
MATHEMATICAL BOLD ITALIC CAPITAL OMEGA
MATHEMATICAL BOLD ITALIC NABLA
MATHEMATICAL BOLD ITALIC SMALL ALPHA
MATHEMATICAL BOLD ITALIC SMALL BETA
MATHEMATICAL BOLD ITALIC SMALL GAMMA
MATHEMATICAL BOLD ITALIC SMALL DELTA
MATHEMATICAL BOLD ITALIC SMALL EPSILON
MATHEMATICAL BOLD ITALIC SMALL ZETA
MATHEMATICAL BOLD ITALIC SMALL ETA
MATHEMATICAL BOLD ITALIC SMALL THETA
MATHEMATICAL BOLD ITALIC SMALL IOTA
MATHEMATICAL BOLD ITALIC SMALL KAPPA
MATHEMATICAL BOLD ITALIC SMALL LAMDA
MATHEMATICAL BOLD ITALIC SMALL MU
MATHEMATICAL BOLD ITALIC SMALL NU
MATHEMATICAL BOLD ITALIC SMALL XI
MATHEMATICAL BOLD ITALIC SMALL OMICRON
MATHEMATICAL BOLD ITALIC SMALL PI
MATHEMATICAL BOLD ITALIC SMALL RHO
MATHEMATICAL BOLD ITALIC SMALL FINAL SIGMA
MATHEMATICAL BOLD ITALIC SMALL SIGMA
MATHEMATICAL BOLD ITALIC SMALL TAU
MATHEMATICAL BOLD ITALIC SMALL UPSILON
MATHEMATICAL BOLD ITALIC SMALL PHI
MATHEMATICAL BOLD ITALIC SMALL CHI
MATHEMATICAL BOLD ITALIC SMALL PSI
MATHEMATICAL BOLD ITALIC SMALL OMEGA
MATHEMATICAL BOLD ITALIC PARTIAL DIFFERENTIAL
MATHEMATICAL BOLD ITALIC EPSILON SYMBOL
MATHEMATICAL BOLD ITALIC THETA SYMBOL
MATHEMATICAL BOLD ITALIC KAPPA SYMBOL
MATHEMATICAL BOLD ITALIC PHI SYMBOL
MATHEMATICAL BOLD ITALIC RHO SYMBOL
MATHEMATICAL BOLD ITALIC PI SYMBOL
MATHEMATICAL SANS-SERIF BOLD CAPITAL ALPHA
MATHEMATICAL SANS-SERIF BOLD CAPITAL BETA
MATHEMATICAL SANS-SERIF BOLD CAPITAL GAMMA
MATHEMATICAL SANS-SERIF BOLD CAPITAL DELTA
MATHEMATICAL SANS-SERIF BOLD CAPITAL EPSILON
MATHEMATICAL SANS-SERIF BOLD CAPITAL ZETA
MATHEMATICAL SANS-SERIF BOLD CAPITAL ETA
MATHEMATICAL SANS-SERIF BOLD CAPITAL THETA
MATHEMATICAL SANS-SERIF BOLD CAPITAL IOTA
MATHEMATICAL SANS-SERIF BOLD CAPITAL KAPPA
MATHEMATICAL SANS-SERIF BOLD CAPITAL LAMDA
MATHEMATICAL SANS-SERIF BOLD CAPITAL MU
MATHEMATICAL SANS-SERIF BOLD CAPITAL NU
MATHEMATICAL SANS-SERIF BOLD CAPITAL XI
MATHEMATICAL SANS-SERIF BOLD CAPITAL OMICRON
MATHEMATICAL SANS-SERIF BOLD CAPITAL PI
MATHEMATICAL SANS-SERIF BOLD CAPITAL RHO
MATHEMATICAL SANS-SERIF BOLD CAPITAL THETA SYMBOL
MATHEMATICAL SANS-SERIF BOLD CAPITAL SIGMA
MATHEMATICAL SANS-SERIF BOLD CAPITAL TAU
MATHEMATICAL SANS-SERIF BOLD CAPITAL UPSILON
MATHEMATICAL SANS-SERIF BOLD CAPITAL PHI
MATHEMATICAL SANS-SERIF BOLD CAPITAL CHI
MATHEMATICAL SANS-SERIF BOLD CAPITAL PSI
MATHEMATICAL SANS-SERIF BOLD CAPITAL OMEGA
MATHEMATICAL SANS-SERIF BOLD NABLA
MATHEMATICAL SANS-SERIF BOLD SMALL ALPHA
MATHEMATICAL SANS-SERIF BOLD SMALL BETA
MATHEMATICAL SANS-SERIF BOLD SMALL GAMMA
MATHEMATICAL SANS-SERIF BOLD SMALL DELTA
MATHEMATICAL SANS-SERIF BOLD SMALL EPSILON
MATHEMATICAL SANS-SERIF BOLD SMALL ZETA
MATHEMATICAL SANS-SERIF BOLD SMALL ETA
MATHEMATICAL SANS-SERIF BOLD SMALL THETA
MATHEMATICAL SANS-SERIF BOLD SMALL IOTA
MATHEMATICAL SANS-SERIF BOLD SMALL KAPPA
MATHEMATICAL SANS-SERIF BOLD SMALL LAMDA
MATHEMATICAL SANS-SERIF BOLD SMALL MU
MATHEMATICAL SANS-SERIF BOLD SMALL NU
MATHEMATICAL SANS-SERIF BOLD SMALL XI
MATHEMATICAL SANS-SERIF BOLD SMALL OMICRON
MATHEMATICAL SANS-SERIF BOLD SMALL PI
MATHEMATICAL SANS-SERIF BOLD SMALL RHO
MATHEMATICAL SANS-SERIF BOLD SMALL FINAL SIGMA
MATHEMATICAL SANS-SERIF BOLD SMALL SIGMA
MATHEMATICAL SANS-SERIF BOLD SMALL TAU
MATHEMATICAL SANS-SERIF BOLD SMALL UPSILON
MATHEMATICAL SANS-SERIF BOLD SMALL PHI
MATHEMATICAL SANS-SERIF BOLD SMALL CHI
MATHEMATICAL SANS-SERIF BOLD SMALL PSI
MATHEMATICAL SANS-SERIF BOLD SMALL OMEGA
MATHEMATICAL SANS-SERIF BOLD PARTIAL DIFFERENTIAL
MATHEMATICAL SANS-SERIF BOLD EPSILON SYMBOL
MATHEMATICAL SANS-SERIF BOLD THETA SYMBOL
MATHEMATICAL SANS-SERIF BOLD KAPPA SYMBOL
MATHEMATICAL SANS-SERIF BOLD PHI SYMBOL
MATHEMATICAL SANS-SERIF BOLD RHO SYMBOL
MATHEMATICAL SANS-SERIF BOLD PI SYMBOL
MATHEMATICAL SANS-SERIF BOLD ITALIC CAPITAL ALPHA
MATHEMATICAL SANS-SERIF BOLD ITALIC CAPITAL BETA
MATHEMATICAL SANS-SERIF BOLD ITALIC CAPITAL GAMMA
MATHEMATICAL SANS-SERIF BOLD ITALIC CAPITAL DELTA
MATHEMATICAL SANS-SERIF BOLD ITALIC CAPITAL EPSILON
MATHEMATICAL SANS-SERIF BOLD ITALIC CAPITAL ZETA
MATHEMATICAL SANS-SERIF BOLD ITALIC CAPITAL ETA
MATHEMATICAL SANS-SERIF BOLD ITALIC CAPITAL THETA
MATHEMATICAL SANS-SERIF BOLD ITALIC CAPITAL IOTA
MATHEMATICAL SANS-SERIF BOLD ITALIC CAPITAL KAPPA
MATHEMATICAL SANS-SERIF BOLD ITALIC CAPITAL LAMDA
MATHEMATICAL SANS-SERIF BOLD ITALIC CAPITAL MU
MATHEMATICAL SANS-SERIF BOLD ITALIC CAPITAL NU
MATHEMATICAL SANS-SERIF BOLD ITALIC CAPITAL XI
MATHEMATICAL SANS-SERIF BOLD ITALIC CAPITAL OMICRON
MATHEMATICAL SANS-SERIF BOLD ITALIC CAPITAL PI
MATHEMATICAL SANS-SERIF BOLD ITALIC CAPITAL RHO
MATHEMATICAL SANS-SERIF BOLD ITALIC CAPITAL THETA SYMBOL
MATHEMATICAL SANS-SERIF BOLD ITALIC CAPITAL SIGMA
MATHEMATICAL SANS-SERIF BOLD ITALIC CAPITAL TAU
MATHEMATICAL SANS-SERIF BOLD ITALIC CAPITAL UPSILON
MATHEMATICAL SANS-SERIF BOLD ITALIC CAPITAL PHI
MATHEMATICAL SANS-SERIF BOLD ITALIC CAPITAL CHI
MATHEMATICAL SANS-SERIF BOLD ITALIC CAPITAL PSI
MATHEMATICAL SANS-SERIF BOLD ITALIC CAPITAL OMEGA
MATHEMATICAL SANS-SERIF BOLD ITALIC NABLA
MATHEMATICAL SANS-SERIF BOLD ITALIC SMALL ALPHA
MATHEMATICAL SANS-SERIF BOLD ITALIC SMALL BETA
MATHEMATICAL SANS-SERIF BOLD ITALIC SMALL GAMMA
MATHEMATICAL SANS-SERIF BOLD ITALIC SMALL DELTA
MATHEMATICAL SANS-SERIF BOLD ITALIC SMALL EPSILON
MATHEMATICAL SANS-SERIF BOLD ITALIC SMALL ZETA
MATHEMATICAL SANS-SERIF BOLD ITALIC SMALL ETA
MATHEMATICAL SANS-SERIF BOLD ITALIC SMALL THETA
MATHEMATICAL SANS-SERIF BOLD ITALIC SMALL IOTA
MATHEMATICAL SANS-SERIF BOLD ITALIC SMALL KAPPA
MATHEMATICAL SANS-SERIF BOLD ITALIC SMALL LAMDA
MATHEMATICAL SANS-SERIF BOLD ITALIC SMALL MU
MATHEMATICAL SANS-SERIF BOLD ITALIC SMALL NU
MATHEMATICAL SANS-SERIF BOLD ITALIC SMALL XI
MATHEMATICAL SANS-SERIF BOLD ITALIC SMALL OMICRON
MATHEMATICAL SANS-SERIF BOLD ITALIC SMALL PI
MATHEMATICAL SANS-SERIF BOLD ITALIC SMALL RHO
MATHEMATICAL SANS-SERIF BOLD ITALIC SMALL FINAL SIGMA
MATHEMATICAL SANS-SERIF BOLD ITALIC SMALL SIGMA
MATHEMATICAL SANS-SERIF BOLD ITALIC SMALL TAU
MATHEMATICAL SANS-SERIF BOLD ITALIC SMALL UPSILON
MATHEMATICAL SANS-SERIF BOLD ITALIC SMALL PHI
MATHEMATICAL SANS-SERIF BOLD ITALIC SMALL CHI
MATHEMATICAL SANS-SERIF BOLD ITALIC SMALL PSI
MATHEMATICAL SANS-SERIF BOLD ITALIC SMALL OMEGA
MATHEMATICAL SANS-SERIF BOLD ITALIC PARTIAL DIFFERENTIAL
MATHEMATICAL SANS-SERIF BOLD ITALIC EPSILON SYMBOL
MATHEMATICAL SANS-SERIF BOLD ITALIC THETA SYMBOL
MATHEMATICAL SANS-SERIF BOLD ITALIC KAPPA SYMBOL
MATHEMATICAL SANS-SERIF BOLD ITALIC PHI SYMBOL
MATHEMATICAL SANS-SERIF BOLD ITALIC RHO SYMBOL
MATHEMATICAL SANS-SERIF BOLD ITALIC PI SYMBOL
MATHEMATICAL BOLD CAPITAL DIGAMMA
MATHEMATICAL BOLD SMALL DIGAMMA
@1D7CE
MATHEMATICAL BOLD DIGIT ZERO
MATHEMATICAL BOLD DIGIT ONE
MATHEMATICAL BOLD DIGIT TWO
MATHEMATICAL BOLD DIGIT THREE
MATHEMATICAL BOLD DIGIT FOUR
MATHEMATICAL BOLD DIGIT FIVE
MATHEMATICAL BOLD DIGIT SIX
MATHEMATICAL BOLD DIGIT SEVEN
MATHEMATICAL BOLD DIGIT EIGHT
MATHEMATICAL BOLD DIGIT NINE
MATHEMATICAL DOUBLE-STRUCK DIGIT ZERO
MATHEMATICAL DOUBLE-STRUCK DIGIT ONE
MATHEMATICAL DOUBLE-STRUCK DIGIT TWO
MATHEMATICAL DOUBLE-STRUCK DIGIT THREE
MATHEMATICAL DOUBLE-STRUCK DIGIT FOUR
MATHEMATICAL DOUBLE-STRUCK DIGIT FIVE
MATHEMATICAL DOUBLE-STRUCK DIGIT SIX
MATHEMATICAL DOUBLE-STRUCK DIGIT SEVEN
MATHEMATICAL DOUBLE-STRUCK DIGIT EIGHT
MATHEMATICAL DOUBLE-STRUCK DIGIT NINE
MATHEMATICAL SANS-SERIF DIGIT ZERO
MATHEMATICAL SANS-SERIF DIGIT ONE
MATHEMATICAL SANS-SERIF DIGIT TWO
MATHEMATICAL SANS-SERIF DIGIT THREE
MATHEMATICAL SANS-SERIF DIGIT FOUR
MATHEMATICAL SANS-SERIF DIGIT FIVE
MATHEMATICAL SANS-SERIF DIGIT SIX
MATHEMATICAL SANS-SERIF DIGIT SEVEN
MATHEMATICAL SANS-SERIF DIGIT EIGHT
MATHEMATICAL SANS-SERIF DIGIT NINE
MATHEMATICAL SANS-SERIF BOLD DIGIT ZERO
MATHEMATICAL SANS-SERIF BOLD DIGIT ONE
MATHEMATICAL SANS-SERIF BOLD DIGIT TWO
MATHEMATICAL SANS-SERIF BOLD DIGIT THREE
MATHEMATICAL SANS-SERIF BOLD DIGIT FOUR
MATHEMATICAL SANS-SERIF BOLD DIGIT FIVE
MATHEMATICAL SANS-SERIF BOLD DIGIT SIX
MATHEMATICAL SANS-SERIF BOLD DIGIT SEVEN
MATHEMATICAL SANS-SERIF BOLD DIGIT EIGHT
MATHEMATICAL SANS-SERIF BOLD DIGIT NINE
MATHEMATICAL MONOSPACE DIGIT ZERO
MATHEMATICAL MONOSPACE DIGIT ONE
MATHEMATICAL MONOSPACE DIGIT TWO
MATHEMATICAL MONOSPACE DIGIT THREE
MATHEMATICAL MONOSPACE DIGIT FOUR
MATHEMATICAL MONOSPACE DIGIT FIVE
MATHEMATICAL MONOSPACE DIGIT SIX
MATHEMATICAL MONOSPACE DIGIT SEVEN
MATHEMATICAL MONOSPACE DIGIT EIGHT
MATHEMATICAL MONOSPACE DIGIT NINE
SIGNWRITING HAND-FIST INDEX
SIGNWRITING HAND-CIRCLE INDEX
SIGNWRITING HAND-CUP INDEX
SIGNWRITING HAND-OVAL INDEX
SIGNWRITING HAND-HINGE INDEX
SIGNWRITING HAND-ANGLE INDEX
SIGNWRITING HAND-FIST INDEX BENT
SIGNWRITING HAND-CIRCLE INDEX BENT
SIGNWRITING HAND-FIST THUMB UNDER INDEX BENT
SIGNWRITING HAND-FIST INDEX RAISED KNUCKLE
SIGNWRITING HAND-FIST INDEX CUPPED
SIGNWRITING HAND-FIST INDEX HINGED
SIGNWRITING HAND-FIST INDEX HINGED LOW
SIGNWRITING HAND-CIRCLE INDEX HINGE
SIGNWRITING HAND-FIST INDEX MIDDLE
SIGNWRITING HAND-CIRCLE INDEX MIDDLE
SIGNWRITING HAND-FIST INDEX MIDDLE BENT
SIGNWRITING HAND-FIST INDEX MIDDLE RAISED KNUCKLES
SIGNWRITING HAND-FIST INDEX MIDDLE HINGED
SIGNWRITING HAND-FIST INDEX UP MIDDLE HINGED
SIGNWRITING HAND-FIST INDEX HINGED MIDDLE UP
SIGNWRITING HAND-FIST INDEX MIDDLE CONJOINED
SIGNWRITING HAND-FIST INDEX MIDDLE CONJOINED INDEX BENT
SIGNWRITING HAND-FIST INDEX MIDDLE CONJOINED MIDDLE BENT
SIGNWRITING HAND-FIST INDEX MIDDLE CONJOINED CUPPED
SIGNWRITING HAND-FIST INDEX MIDDLE CONJOINED HINGED
SIGNWRITING HAND-FIST INDEX MIDDLE CROSSED
SIGNWRITING HAND-CIRCLE INDEX MIDDLE CROSSED
SIGNWRITING HAND-FIST MIDDLE BENT OVER INDEX
SIGNWRITING HAND-FIST INDEX BENT OVER MIDDLE
SIGNWRITING HAND-FIST INDEX MIDDLE THUMB
SIGNWRITING HAND-CIRCLE INDEX MIDDLE THUMB
SIGNWRITING HAND-FIST INDEX MIDDLE STRAIGHT THUMB BENT
SIGNWRITING HAND-FIST INDEX MIDDLE BENT THUMB STRAIGHT
SIGNWRITING HAND-FIST INDEX MIDDLE THUMB BENT
SIGNWRITING HAND-FIST INDEX MIDDLE HINGED SPREAD THUMB SIDE
SIGNWRITING HAND-FIST INDEX UP MIDDLE HINGED THUMB SIDE
SIGNWRITING HAND-FIST INDEX UP MIDDLE HINGED THUMB CONJOINED
SIGNWRITING HAND-FIST INDEX HINGED MIDDLE UP THUMB SIDE
SIGNWRITING HAND-FIST INDEX MIDDLE UP SPREAD THUMB FORWARD
SIGNWRITING HAND-FIST INDEX MIDDLE THUMB CUPPED
SIGNWRITING HAND-FIST INDEX MIDDLE THUMB CIRCLED
SIGNWRITING HAND-FIST INDEX MIDDLE THUMB HOOKED
SIGNWRITING HAND-FIST INDEX MIDDLE THUMB HINGED
SIGNWRITING HAND-FIST THUMB BETWEEN INDEX MIDDLE STRAIGHT
SIGNWRITING HAND-FIST INDEX MIDDLE CONJOINED THUMB SIDE
SIGNWRITING HAND-FIST INDEX MIDDLE CONJOINED THUMB SIDE CONJOINED
SIGNWRITING HAND-FIST INDEX MIDDLE CONJOINED THUMB SIDE BENT
SIGNWRITING HAND-FIST MIDDLE THUMB HOOKED INDEX UP
SIGNWRITING HAND-FIST INDEX THUMB HOOKED MIDDLE UP
SIGNWRITING HAND-FIST INDEX MIDDLE CONJOINED HINGED THUMB SIDE
SIGNWRITING HAND-FIST INDEX MIDDLE CROSSED THUMB SIDE
SIGNWRITING HAND-FIST INDEX MIDDLE CONJOINED THUMB FORWARD
SIGNWRITING HAND-FIST INDEX MIDDLE CONJOINED CUPPED THUMB FORWARD
SIGNWRITING HAND-FIST MIDDLE THUMB CUPPED INDEX UP
SIGNWRITING HAND-FIST INDEX THUMB CUPPED MIDDLE UP
SIGNWRITING HAND-FIST MIDDLE THUMB CIRCLED INDEX UP
SIGNWRITING HAND-FIST MIDDLE THUMB CIRCLED INDEX HINGED
SIGNWRITING HAND-FIST INDEX THUMB ANGLED OUT MIDDLE UP
SIGNWRITING HAND-FIST INDEX THUMB ANGLED IN MIDDLE UP
SIGNWRITING HAND-FIST INDEX THUMB CIRCLED MIDDLE UP
SIGNWRITING HAND-FIST INDEX MIDDLE THUMB CONJOINED HINGED
SIGNWRITING HAND-FIST INDEX MIDDLE THUMB ANGLED OUT
SIGNWRITING HAND-FIST INDEX MIDDLE THUMB ANGLED
SIGNWRITING HAND-FIST MIDDLE THUMB ANGLED OUT INDEX UP
SIGNWRITING HAND-FIST MIDDLE THUMB ANGLED OUT INDEX CROSSED
SIGNWRITING HAND-FIST MIDDLE THUMB ANGLED INDEX UP
SIGNWRITING HAND-FIST INDEX THUMB HOOKED MIDDLE HINGED
SIGNWRITING HAND-FLAT FOUR FINGERS
SIGNWRITING HAND-FLAT FOUR FINGERS BENT
SIGNWRITING HAND-FLAT FOUR FINGERS HINGED
SIGNWRITING HAND-FLAT FOUR FINGERS CONJOINED
SIGNWRITING HAND-FLAT FOUR FINGERS CONJOINED SPLIT
SIGNWRITING HAND-CLAW FOUR FINGERS CONJOINED
SIGNWRITING HAND-FIST FOUR FINGERS CONJOINED BENT
SIGNWRITING HAND-HINGE FOUR FINGERS CONJOINED
SIGNWRITING HAND-FLAT FIVE FINGERS SPREAD
SIGNWRITING HAND-FLAT HEEL FIVE FINGERS SPREAD
SIGNWRITING HAND-FLAT FIVE FINGERS SPREAD FOUR BENT
SIGNWRITING HAND-FLAT HEEL FIVE FINGERS SPREAD FOUR BENT
SIGNWRITING HAND-FLAT FIVE FINGERS SPREAD BENT
SIGNWRITING HAND-FLAT HEEL FIVE FINGERS SPREAD BENT
SIGNWRITING HAND-FLAT FIVE FINGERS SPREAD THUMB FORWARD
SIGNWRITING HAND-CUP FIVE FINGERS SPREAD
SIGNWRITING HAND-CUP FIVE FINGERS SPREAD OPEN
SIGNWRITING HAND-HINGE FIVE FINGERS SPREAD OPEN
SIGNWRITING HAND-OVAL FIVE FINGERS SPREAD
SIGNWRITING HAND-FLAT FIVE FINGERS SPREAD HINGED
SIGNWRITING HAND-FLAT FIVE FINGERS SPREAD HINGED THUMB SIDE
SIGNWRITING HAND-FLAT FIVE FINGERS SPREAD HINGED NO THUMB
SIGNWRITING HAND-FLAT
SIGNWRITING HAND-FLAT BETWEEN PALM FACINGS
SIGNWRITING HAND-FLAT HEEL
SIGNWRITING HAND-FLAT THUMB SIDE
SIGNWRITING HAND-FLAT HEEL THUMB SIDE
SIGNWRITING HAND-FLAT THUMB BENT
SIGNWRITING HAND-FLAT THUMB FORWARD
SIGNWRITING HAND-FLAT SPLIT INDEX THUMB SIDE
SIGNWRITING HAND-FLAT SPLIT CENTRE
SIGNWRITING HAND-FLAT SPLIT CENTRE THUMB SIDE
SIGNWRITING HAND-FLAT SPLIT CENTRE THUMB SIDE BENT
SIGNWRITING HAND-FLAT SPLIT LITTLE
SIGNWRITING HAND-CLAW
SIGNWRITING HAND-CLAW THUMB SIDE
SIGNWRITING HAND-CLAW NO THUMB
SIGNWRITING HAND-CLAW THUMB FORWARD
SIGNWRITING HAND-HOOK CURLICUE
SIGNWRITING HAND-HOOK
SIGNWRITING HAND-CUP OPEN
SIGNWRITING HAND-CUP
SIGNWRITING HAND-CUP OPEN THUMB SIDE
SIGNWRITING HAND-CUP THUMB SIDE
SIGNWRITING HAND-CUP OPEN NO THUMB
SIGNWRITING HAND-CUP NO THUMB
SIGNWRITING HAND-CUP OPEN THUMB FORWARD
SIGNWRITING HAND-CUP THUMB FORWARD
SIGNWRITING HAND-CURLICUE OPEN
SIGNWRITING HAND-CURLICUE
SIGNWRITING HAND-CIRCLE
SIGNWRITING HAND-OVAL
SIGNWRITING HAND-OVAL THUMB SIDE
SIGNWRITING HAND-OVAL NO THUMB
SIGNWRITING HAND-OVAL THUMB FORWARD
SIGNWRITING HAND-HINGE OPEN
SIGNWRITING HAND-HINGE OPEN THUMB FORWARD
SIGNWRITING HAND-HINGE
SIGNWRITING HAND-HINGE SMALL
SIGNWRITING HAND-HINGE OPEN THUMB SIDE
SIGNWRITING HAND-HINGE THUMB SIDE
SIGNWRITING HAND-HINGE OPEN NO THUMB
SIGNWRITING HAND-HINGE NO THUMB
SIGNWRITING HAND-HINGE THUMB SIDE TOUCHING INDEX
SIGNWRITING HAND-HINGE THUMB BETWEEN MIDDLE RING
SIGNWRITING HAND-ANGLE
SIGNWRITING HAND-FIST INDEX MIDDLE RING
SIGNWRITING HAND-CIRCLE INDEX MIDDLE RING
SIGNWRITING HAND-HINGE INDEX MIDDLE RING
SIGNWRITING HAND-ANGLE INDEX MIDDLE RING
SIGNWRITING HAND-HINGE LITTLE
SIGNWRITING HAND-FIST INDEX MIDDLE RING BENT
SIGNWRITING HAND-FIST INDEX MIDDLE RING CONJOINED
SIGNWRITING HAND-HINGE INDEX MIDDLE RING CONJOINED
SIGNWRITING HAND-FIST LITTLE DOWN
SIGNWRITING HAND-FIST LITTLE DOWN RIPPLE STRAIGHT
SIGNWRITING HAND-FIST LITTLE DOWN RIPPLE CURVED
SIGNWRITING HAND-FIST LITTLE DOWN OTHERS CIRCLED
SIGNWRITING HAND-FIST LITTLE UP
SIGNWRITING HAND-FIST THUMB UNDER LITTLE UP
SIGNWRITING HAND-CIRCLE LITTLE UP
SIGNWRITING HAND-OVAL LITTLE UP
SIGNWRITING HAND-ANGLE LITTLE UP
SIGNWRITING HAND-FIST LITTLE RAISED KNUCKLE
SIGNWRITING HAND-FIST LITTLE BENT
SIGNWRITING HAND-FIST LITTLE TOUCHES THUMB
SIGNWRITING HAND-FIST LITTLE THUMB
SIGNWRITING HAND-HINGE LITTLE THUMB
SIGNWRITING HAND-FIST LITTLE INDEX THUMB
SIGNWRITING HAND-HINGE LITTLE INDEX THUMB
SIGNWRITING HAND-ANGLE LITTLE INDEX THUMB INDEX THUMB OUT
SIGNWRITING HAND-ANGLE LITTLE INDEX THUMB INDEX THUMB
SIGNWRITING HAND-FIST LITTLE INDEX
SIGNWRITING HAND-CIRCLE LITTLE INDEX
SIGNWRITING HAND-HINGE LITTLE INDEX
SIGNWRITING HAND-ANGLE LITTLE INDEX
SIGNWRITING HAND-FIST INDEX MIDDLE LITTLE
SIGNWRITING HAND-CIRCLE INDEX MIDDLE LITTLE
SIGNWRITING HAND-HINGE INDEX MIDDLE LITTLE
SIGNWRITING HAND-HINGE RING
SIGNWRITING HAND-ANGLE INDEX MIDDLE LITTLE
SIGNWRITING HAND-FIST INDEX MIDDLE CROSS LITTLE
SIGNWRITING HAND-CIRCLE INDEX MIDDLE CROSS LITTLE
SIGNWRITING HAND-FIST RING DOWN
SIGNWRITING HAND-HINGE RING DOWN INDEX THUMB HOOK MIDDLE
SIGNWRITING HAND-ANGLE RING DOWN MIDDLE THUMB INDEX CROSS
SIGNWRITING HAND-FIST RING UP
SIGNWRITING HAND-FIST RING RAISED KNUCKLE
SIGNWRITING HAND-FIST RING LITTLE
SIGNWRITING HAND-CIRCLE RING LITTLE
SIGNWRITING HAND-OVAL RING LITTLE
SIGNWRITING HAND-ANGLE RING LITTLE
SIGNWRITING HAND-FIST RING MIDDLE
SIGNWRITING HAND-FIST RING MIDDLE CONJOINED
SIGNWRITING HAND-FIST RING MIDDLE RAISED KNUCKLES
SIGNWRITING HAND-FIST RING INDEX
SIGNWRITING HAND-FIST RING THUMB
SIGNWRITING HAND-HOOK RING THUMB
SIGNWRITING HAND-FIST INDEX RING LITTLE
SIGNWRITING HAND-CIRCLE INDEX RING LITTLE
SIGNWRITING HAND-CURLICUE INDEX RING LITTLE ON
SIGNWRITING HAND-HOOK INDEX RING LITTLE OUT
SIGNWRITING HAND-HOOK INDEX RING LITTLE IN
SIGNWRITING HAND-HOOK INDEX RING LITTLE UNDER
SIGNWRITING HAND-CUP INDEX RING LITTLE
SIGNWRITING HAND-HINGE INDEX RING LITTLE
SIGNWRITING HAND-ANGLE INDEX RING LITTLE OUT
SIGNWRITING HAND-ANGLE INDEX RING LITTLE
SIGNWRITING HAND-FIST MIDDLE DOWN
SIGNWRITING HAND-HINGE MIDDLE
SIGNWRITING HAND-FIST MIDDLE UP
SIGNWRITING HAND-CIRCLE MIDDLE UP
SIGNWRITING HAND-FIST MIDDLE RAISED KNUCKLE
SIGNWRITING HAND-FIST MIDDLE UP THUMB SIDE
SIGNWRITING HAND-HOOK MIDDLE THUMB
SIGNWRITING HAND-FIST MIDDLE THUMB LITTLE
SIGNWRITING HAND-FIST MIDDLE LITTLE
SIGNWRITING HAND-FIST MIDDLE RING LITTLE
SIGNWRITING HAND-CIRCLE MIDDLE RING LITTLE
SIGNWRITING HAND-CURLICUE MIDDLE RING LITTLE ON
SIGNWRITING HAND-CUP MIDDLE RING LITTLE
SIGNWRITING HAND-HINGE MIDDLE RING LITTLE
SIGNWRITING HAND-ANGLE MIDDLE RING LITTLE OUT
SIGNWRITING HAND-ANGLE MIDDLE RING LITTLE IN
SIGNWRITING HAND-ANGLE MIDDLE RING LITTLE
SIGNWRITING HAND-CIRCLE MIDDLE RING LITTLE BENT
SIGNWRITING HAND-CLAW MIDDLE RING LITTLE CONJOINED
SIGNWRITING HAND-CLAW MIDDLE RING LITTLE CONJOINED SIDE
SIGNWRITING HAND-HOOK MIDDLE RING LITTLE CONJOINED OUT
SIGNWRITING HAND-HOOK MIDDLE RING LITTLE CONJOINED IN
SIGNWRITING HAND-HOOK MIDDLE RING LITTLE CONJOINED
SIGNWRITING HAND-HINGE INDEX HINGED
SIGNWRITING HAND-FIST INDEX THUMB SIDE
SIGNWRITING HAND-HINGE INDEX THUMB SIDE
SIGNWRITING HAND-FIST INDEX THUMB SIDE THUMB DIAGONAL
SIGNWRITING HAND-FIST INDEX THUMB SIDE THUMB CONJOINED
SIGNWRITING HAND-FIST INDEX THUMB SIDE THUMB BENT
SIGNWRITING HAND-FIST INDEX THUMB SIDE INDEX BENT
SIGNWRITING HAND-FIST INDEX THUMB SIDE BOTH BENT
SIGNWRITING HAND-FIST INDEX THUMB SIDE INDEX HINGE
SIGNWRITING HAND-FIST INDEX THUMB FORWARD INDEX STRAIGHT
SIGNWRITING HAND-FIST INDEX THUMB FORWARD INDEX BENT
SIGNWRITING HAND-FIST INDEX THUMB HOOK
SIGNWRITING HAND-FIST INDEX THUMB CURLICUE
SIGNWRITING HAND-FIST INDEX THUMB CURVE THUMB INSIDE
SIGNWRITING HAND-CLAW INDEX THUMB CURVE THUMB INSIDE
SIGNWRITING HAND-FIST INDEX THUMB CURVE THUMB UNDER
SIGNWRITING HAND-FIST INDEX THUMB CIRCLE
SIGNWRITING HAND-CUP INDEX THUMB
SIGNWRITING HAND-CUP INDEX THUMB OPEN
SIGNWRITING HAND-HINGE INDEX THUMB OPEN
SIGNWRITING HAND-HINGE INDEX THUMB LARGE
SIGNWRITING HAND-HINGE INDEX THUMB
SIGNWRITING HAND-HINGE INDEX THUMB SMALL
SIGNWRITING HAND-ANGLE INDEX THUMB OUT
SIGNWRITING HAND-ANGLE INDEX THUMB IN
SIGNWRITING HAND-ANGLE INDEX THUMB
SIGNWRITING HAND-FIST THUMB
SIGNWRITING HAND-FIST THUMB HEEL
SIGNWRITING HAND-FIST THUMB SIDE DIAGONAL
SIGNWRITING HAND-FIST THUMB SIDE CONJOINED
SIGNWRITING HAND-FIST THUMB SIDE BENT
SIGNWRITING HAND-FIST THUMB FORWARD
SIGNWRITING HAND-FIST THUMB BETWEEN INDEX MIDDLE
SIGNWRITING HAND-FIST THUMB BETWEEN MIDDLE RING
SIGNWRITING HAND-FIST THUMB BETWEEN RING LITTLE
SIGNWRITING HAND-FIST THUMB UNDER TWO FINGERS
SIGNWRITING HAND-FIST THUMB OVER TWO FINGERS
SIGNWRITING HAND-FIST THUMB UNDER THREE FINGERS
SIGNWRITING HAND-FIST THUMB UNDER FOUR FINGERS
SIGNWRITING HAND-FIST THUMB OVER FOUR RAISED KNUCKLES
SIGNWRITING HAND-FIST
SIGNWRITING HAND-FIST HEEL
SIGNWRITING TOUCH SINGLE
SIGNWRITING TOUCH MULTIPLE
SIGNWRITING TOUCH BETWEEN
SIGNWRITING GRASP SINGLE
SIGNWRITING GRASP MULTIPLE
SIGNWRITING GRASP BETWEEN
SIGNWRITING STRIKE SINGLE
SIGNWRITING STRIKE MULTIPLE
SIGNWRITING STRIKE BETWEEN
SIGNWRITING BRUSH SINGLE
SIGNWRITING BRUSH MULTIPLE
SIGNWRITING BRUSH BETWEEN
SIGNWRITING RUB SINGLE
SIGNWRITING RUB MULTIPLE
SIGNWRITING RUB BETWEEN
SIGNWRITING SURFACE SYMBOLS
SIGNWRITING SURFACE BETWEEN
SIGNWRITING SQUEEZE LARGE SINGLE
SIGNWRITING SQUEEZE SMALL SINGLE
SIGNWRITING SQUEEZE LARGE MULTIPLE
SIGNWRITING SQUEEZE SMALL MULTIPLE
SIGNWRITING SQUEEZE SEQUENTIAL
SIGNWRITING FLICK LARGE SINGLE
SIGNWRITING FLICK SMALL SINGLE
SIGNWRITING FLICK LARGE MULTIPLE
SIGNWRITING FLICK SMALL MULTIPLE
SIGNWRITING FLICK SEQUENTIAL
SIGNWRITING SQUEEZE FLICK ALTERNATING
SIGNWRITING MOVEMENT-HINGE UP DOWN LARGE
SIGNWRITING MOVEMENT-HINGE UP DOWN SMALL
SIGNWRITING MOVEMENT-HINGE UP SEQUENTIAL
SIGNWRITING MOVEMENT-HINGE DOWN SEQUENTIAL
SIGNWRITING MOVEMENT-HINGE UP DOWN ALTERNATING LARGE
SIGNWRITING MOVEMENT-HINGE UP DOWN ALTERNATING SMALL
SIGNWRITING MOVEMENT-HINGE SIDE TO SIDE SCISSORS
SIGNWRITING MOVEMENT-WALLPLANE FINGER CONTACT
SIGNWRITING MOVEMENT-FLOORPLANE FINGER CONTACT
SIGNWRITING MOVEMENT-WALLPLANE SINGLE STRAIGHT SMALL
SIGNWRITING MOVEMENT-WALLPLANE SINGLE STRAIGHT MEDIUM
SIGNWRITING MOVEMENT-WALLPLANE SINGLE STRAIGHT LARGE
SIGNWRITING MOVEMENT-WALLPLANE SINGLE STRAIGHT LARGEST
SIGNWRITING MOVEMENT-WALLPLANE SINGLE WRIST FLEX
SIGNWRITING MOVEMENT-WALLPLANE DOUBLE STRAIGHT
SIGNWRITING MOVEMENT-WALLPLANE DOUBLE WRIST FLEX
SIGNWRITING MOVEMENT-WALLPLANE DOUBLE ALTERNATING
SIGNWRITING MOVEMENT-WALLPLANE DOUBLE ALTERNATING WRIST FLEX
SIGNWRITING MOVEMENT-WALLPLANE CROSS
SIGNWRITING MOVEMENT-WALLPLANE TRIPLE STRAIGHT MOVEMENT
SIGNWRITING MOVEMENT-WALLPLANE TRIPLE WRIST FLEX
SIGNWRITING MOVEMENT-WALLPLANE TRIPLE ALTERNATING
SIGNWRITING MOVEMENT-WALLPLANE TRIPLE ALTERNATING WRIST FLEX
SIGNWRITING MOVEMENT-WALLPLANE BEND SMALL
SIGNWRITING MOVEMENT-WALLPLANE BEND MEDIUM
SIGNWRITING MOVEMENT-WALLPLANE BEND LARGE
SIGNWRITING MOVEMENT-WALLPLANE CORNER SMALL
SIGNWRITING MOVEMENT-WALLPLANE CORNER MEDIUM
SIGNWRITING MOVEMENT-WALLPLANE CORNER LARGE
SIGNWRITING MOVEMENT-WALLPLANE CORNER ROTATION
SIGNWRITING MOVEMENT-WALLPLANE CHECK SMALL
SIGNWRITING MOVEMENT-WALLPLANE CHECK MEDIUM
SIGNWRITING MOVEMENT-WALLPLANE CHECK LARGE
SIGNWRITING MOVEMENT-WALLPLANE BOX SMALL
SIGNWRITING MOVEMENT-WALLPLANE BOX MEDIUM
SIGNWRITING MOVEMENT-WALLPLANE BOX LARGE
SIGNWRITING MOVEMENT-WALLPLANE ZIGZAG SMALL
SIGNWRITING MOVEMENT-WALLPLANE ZIGZAG MEDIUM
SIGNWRITING MOVEMENT-WALLPLANE ZIGZAG LARGE
SIGNWRITING MOVEMENT-WALLPLANE PEAKS SMALL
SIGNWRITING MOVEMENT-WALLPLANE PEAKS MEDIUM
SIGNWRITING MOVEMENT-WALLPLANE PEAKS LARGE
SIGNWRITING TRAVEL-WALLPLANE ROTATION-WALLPLANE SINGLE
SIGNWRITING TRAVEL-WALLPLANE ROTATION-WALLPLANE DOUBLE
SIGNWRITING TRAVEL-WALLPLANE ROTATION-WALLPLANE ALTERNATING
SIGNWRITING TRAVEL-WALLPLANE ROTATION-FLOORPLANE SINGLE
SIGNWRITING TRAVEL-WALLPLANE ROTATION-FLOORPLANE DOUBLE
SIGNWRITING TRAVEL-WALLPLANE ROTATION-FLOORPLANE ALTERNATING
SIGNWRITING TRAVEL-WALLPLANE SHAKING
SIGNWRITING TRAVEL-WALLPLANE ARM SPIRAL SINGLE
SIGNWRITING TRAVEL-WALLPLANE ARM SPIRAL DOUBLE
SIGNWRITING TRAVEL-WALLPLANE ARM SPIRAL TRIPLE
SIGNWRITING MOVEMENT-DIAGONAL AWAY SMALL
SIGNWRITING MOVEMENT-DIAGONAL AWAY MEDIUM
SIGNWRITING MOVEMENT-DIAGONAL AWAY LARGE
SIGNWRITING MOVEMENT-DIAGONAL AWAY LARGEST
SIGNWRITING MOVEMENT-DIAGONAL TOWARDS SMALL
SIGNWRITING MOVEMENT-DIAGONAL TOWARDS MEDIUM
SIGNWRITING MOVEMENT-DIAGONAL TOWARDS LARGE
SIGNWRITING MOVEMENT-DIAGONAL TOWARDS LARGEST
SIGNWRITING MOVEMENT-DIAGONAL BETWEEN AWAY SMALL
SIGNWRITING MOVEMENT-DIAGONAL BETWEEN AWAY MEDIUM
SIGNWRITING MOVEMENT-DIAGONAL BETWEEN AWAY LARGE
SIGNWRITING MOVEMENT-DIAGONAL BETWEEN AWAY LARGEST
SIGNWRITING MOVEMENT-DIAGONAL BETWEEN TOWARDS SMALL
SIGNWRITING MOVEMENT-DIAGONAL BETWEEN TOWARDS MEDIUM
SIGNWRITING MOVEMENT-DIAGONAL BETWEEN TOWARDS LARGE
SIGNWRITING MOVEMENT-DIAGONAL BETWEEN TOWARDS LARGEST
SIGNWRITING MOVEMENT-FLOORPLANE SINGLE STRAIGHT SMALL
SIGNWRITING MOVEMENT-FLOORPLANE SINGLE STRAIGHT MEDIUM
SIGNWRITING MOVEMENT-FLOORPLANE SINGLE STRAIGHT LARGE
SIGNWRITING MOVEMENT-FLOORPLANE SINGLE STRAIGHT LARGEST
SIGNWRITING MOVEMENT-FLOORPLANE SINGLE WRIST FLEX
SIGNWRITING MOVEMENT-FLOORPLANE DOUBLE STRAIGHT
SIGNWRITING MOVEMENT-FLOORPLANE DOUBLE WRIST FLEX
SIGNWRITING MOVEMENT-FLOORPLANE DOUBLE ALTERNATING
SIGNWRITING MOVEMENT-FLOORPLANE DOUBLE ALTERNATING WRIST FLEX
SIGNWRITING MOVEMENT-FLOORPLANE CROSS
SIGNWRITING MOVEMENT-FLOORPLANE TRIPLE STRAIGHT MOVEMENT
SIGNWRITING MOVEMENT-FLOORPLANE TRIPLE WRIST FLEX
SIGNWRITING MOVEMENT-FLOORPLANE TRIPLE ALTERNATING MOVEMENT
SIGNWRITING MOVEMENT-FLOORPLANE TRIPLE ALTERNATING WRIST FLEX
SIGNWRITING MOVEMENT-FLOORPLANE BEND
SIGNWRITING MOVEMENT-FLOORPLANE CORNER SMALL
SIGNWRITING MOVEMENT-FLOORPLANE CORNER MEDIUM
SIGNWRITING MOVEMENT-FLOORPLANE CORNER LARGE
SIGNWRITING MOVEMENT-FLOORPLANE CHECK
SIGNWRITING MOVEMENT-FLOORPLANE BOX SMALL
SIGNWRITING MOVEMENT-FLOORPLANE BOX MEDIUM
SIGNWRITING MOVEMENT-FLOORPLANE BOX LARGE
SIGNWRITING MOVEMENT-FLOORPLANE ZIGZAG SMALL
SIGNWRITING MOVEMENT-FLOORPLANE ZIGZAG MEDIUM
SIGNWRITING MOVEMENT-FLOORPLANE ZIGZAG LARGE
SIGNWRITING MOVEMENT-FLOORPLANE PEAKS SMALL
SIGNWRITING MOVEMENT-FLOORPLANE PEAKS MEDIUM
SIGNWRITING MOVEMENT-FLOORPLANE PEAKS LARGE
SIGNWRITING TRAVEL-FLOORPLANE ROTATION-FLOORPLANE SINGLE
SIGNWRITING TRAVEL-FLOORPLANE ROTATION-FLOORPLANE DOUBLE
SIGNWRITING TRAVEL-FLOORPLANE ROTATION-FLOORPLANE ALTERNATING
SIGNWRITING TRAVEL-FLOORPLANE ROTATION-WALLPLANE SINGLE
SIGNWRITING TRAVEL-FLOORPLANE ROTATION-WALLPLANE DOUBLE
SIGNWRITING TRAVEL-FLOORPLANE ROTATION-WALLPLANE ALTERNATING
SIGNWRITING TRAVEL-FLOORPLANE SHAKING
SIGNWRITING MOVEMENT-WALLPLANE CURVE QUARTER SMALL
SIGNWRITING MOVEMENT-WALLPLANE CURVE QUARTER MEDIUM
SIGNWRITING MOVEMENT-WALLPLANE CURVE QUARTER LARGE
SIGNWRITING MOVEMENT-WALLPLANE CURVE QUARTER LARGEST
SIGNWRITING MOVEMENT-WALLPLANE CURVE HALF-CIRCLE SMALL
SIGNWRITING MOVEMENT-WALLPLANE CURVE HALF-CIRCLE MEDIUM
SIGNWRITING MOVEMENT-WALLPLANE CURVE HALF-CIRCLE LARGE
SIGNWRITING MOVEMENT-WALLPLANE CURVE HALF-CIRCLE LARGEST
SIGNWRITING MOVEMENT-WALLPLANE CURVE THREE-QUARTER CIRCLE SMALL
SIGNWRITING MOVEMENT-WALLPLANE CURVE THREE-QUARTER CIRCLE MEDIUM
SIGNWRITING MOVEMENT-WALLPLANE HUMP SMALL
SIGNWRITING MOVEMENT-WALLPLANE HUMP MEDIUM
SIGNWRITING MOVEMENT-WALLPLANE HUMP LARGE
SIGNWRITING MOVEMENT-WALLPLANE LOOP SMALL
SIGNWRITING MOVEMENT-WALLPLANE LOOP MEDIUM
SIGNWRITING MOVEMENT-WALLPLANE LOOP LARGE
SIGNWRITING MOVEMENT-WALLPLANE LOOP SMALL DOUBLE
SIGNWRITING MOVEMENT-WALLPLANE WAVE CURVE DOUBLE SMALL
SIGNWRITING MOVEMENT-WALLPLANE WAVE CURVE DOUBLE MEDIUM
SIGNWRITING MOVEMENT-WALLPLANE WAVE CURVE DOUBLE LARGE
SIGNWRITING MOVEMENT-WALLPLANE WAVE CURVE TRIPLE SMALL
SIGNWRITING MOVEMENT-WALLPLANE WAVE CURVE TRIPLE MEDIUM
SIGNWRITING MOVEMENT-WALLPLANE WAVE CURVE TRIPLE LARGE
SIGNWRITING MOVEMENT-WALLPLANE CURVE THEN STRAIGHT
SIGNWRITING MOVEMENT-WALLPLANE CURVED CROSS SMALL
SIGNWRITING MOVEMENT-WALLPLANE CURVED CROSS MEDIUM
SIGNWRITING ROTATION-WALLPLANE SINGLE
SIGNWRITING ROTATION-WALLPLANE DOUBLE
SIGNWRITING ROTATION-WALLPLANE ALTERNATE
SIGNWRITING MOVEMENT-WALLPLANE SHAKING
SIGNWRITING MOVEMENT-WALLPLANE CURVE HITTING FRONT WALL
SIGNWRITING MOVEMENT-WALLPLANE HUMP HITTING FRONT WALL
SIGNWRITING MOVEMENT-WALLPLANE LOOP HITTING FRONT WALL
SIGNWRITING MOVEMENT-WALLPLANE WAVE HITTING FRONT WALL
SIGNWRITING ROTATION-WALLPLANE SINGLE HITTING FRONT WALL
SIGNWRITING ROTATION-WALLPLANE DOUBLE HITTING FRONT WALL
SIGNWRITING ROTATION-WALLPLANE ALTERNATING HITTING FRONT WALL
SIGNWRITING MOVEMENT-WALLPLANE CURVE HITTING CHEST
SIGNWRITING MOVEMENT-WALLPLANE HUMP HITTING CHEST
SIGNWRITING MOVEMENT-WALLPLANE LOOP HITTING CHEST
SIGNWRITING MOVEMENT-WALLPLANE WAVE HITTING CHEST
SIGNWRITING ROTATION-WALLPLANE SINGLE HITTING CHEST
SIGNWRITING ROTATION-WALLPLANE DOUBLE HITTING CHEST
SIGNWRITING ROTATION-WALLPLANE ALTERNATING HITTING CHEST
SIGNWRITING MOVEMENT-WALLPLANE WAVE DIAGONAL PATH SMALL
SIGNWRITING MOVEMENT-WALLPLANE WAVE DIAGONAL PATH MEDIUM
SIGNWRITING MOVEMENT-WALLPLANE WAVE DIAGONAL PATH LARGE
SIGNWRITING MOVEMENT-FLOORPLANE CURVE HITTING CEILING SMALL
SIGNWRITING MOVEMENT-FLOORPLANE CURVE HITTING CEILING LARGE
SIGNWRITING MOVEMENT-FLOORPLANE HUMP HITTING CEILING SMALL DOUBLE
SIGNWRITING MOVEMENT-FLOORPLANE HUMP HITTING CEILING LARGE DOUBLE
SIGNWRITING MOVEMENT-FLOORPLANE HUMP HITTING CEILING SMALL TRIPLE
SIGNWRITING MOVEMENT-FLOORPLANE HUMP HITTING CEILING LARGE TRIPLE
SIGNWRITING MOVEMENT-FLOORPLANE LOOP HITTING CEILING SMALL SINGLE
SIGNWRITING MOVEMENT-FLOORPLANE LOOP HITTING CEILING LARGE SINGLE
SIGNWRITING MOVEMENT-FLOORPLANE LOOP HITTING CEILING SMALL DOUBLE
SIGNWRITING MOVEMENT-FLOORPLANE LOOP HITTING CEILING LARGE DOUBLE
SIGNWRITING MOVEMENT-FLOORPLANE WAVE HITTING CEILING SMALL
SIGNWRITING MOVEMENT-FLOORPLANE WAVE HITTING CEILING LARGE
SIGNWRITING ROTATION-FLOORPLANE SINGLE HITTING CEILING
SIGNWRITING ROTATION-FLOORPLANE DOUBLE HITTING CEILING
SIGNWRITING ROTATION-FLOORPLANE ALTERNATING HITTING CEILING
SIGNWRITING MOVEMENT-FLOORPLANE CURVE HITTING FLOOR SMALL
SIGNWRITING MOVEMENT-FLOORPLANE CURVE HITTING FLOOR LARGE
SIGNWRITING MOVEMENT-FLOORPLANE HUMP HITTING FLOOR SMALL DOUBLE
SIGNWRITING MOVEMENT-FLOORPLANE HUMP HITTING FLOOR LARGE DOUBLE
SIGNWRITING MOVEMENT-FLOORPLANE HUMP HITTING FLOOR TRIPLE SMALL TRIPLE
SIGNWRITING MOVEMENT-FLOORPLANE HUMP HITTING FLOOR TRIPLE LARGE TRIPLE
SIGNWRITING MOVEMENT-FLOORPLANE LOOP HITTING FLOOR SMALL SINGLE
SIGNWRITING MOVEMENT-FLOORPLANE LOOP HITTING FLOOR LARGE SINGLE
SIGNWRITING MOVEMENT-FLOORPLANE LOOP HITTING FLOOR SMALL DOUBLE
SIGNWRITING MOVEMENT-FLOORPLANE LOOP HITTING FLOOR LARGE DOUBLE
SIGNWRITING MOVEMENT-FLOORPLANE WAVE HITTING FLOOR SMALL
SIGNWRITING MOVEMENT-FLOORPLANE WAVE HITTING FLOOR LARGE
SIGNWRITING ROTATION-FLOORPLANE SINGLE HITTING FLOOR
SIGNWRITING ROTATION-FLOORPLANE DOUBLE HITTING FLOOR
SIGNWRITING ROTATION-FLOORPLANE ALTERNATING HITTING FLOOR
SIGNWRITING MOVEMENT-FLOORPLANE CURVE SMALL
SIGNWRITING MOVEMENT-FLOORPLANE CURVE MEDIUM
SIGNWRITING MOVEMENT-FLOORPLANE CURVE LARGE
SIGNWRITING MOVEMENT-FLOORPLANE CURVE LARGEST
SIGNWRITING MOVEMENT-FLOORPLANE CURVE COMBINED
SIGNWRITING MOVEMENT-FLOORPLANE HUMP SMALL
SIGNWRITING MOVEMENT-FLOORPLANE LOOP SMALL
SIGNWRITING MOVEMENT-FLOORPLANE WAVE SNAKE
SIGNWRITING MOVEMENT-FLOORPLANE WAVE SMALL
SIGNWRITING MOVEMENT-FLOORPLANE WAVE LARGE
SIGNWRITING ROTATION-FLOORPLANE SINGLE
SIGNWRITING ROTATION-FLOORPLANE DOUBLE
SIGNWRITING ROTATION-FLOORPLANE ALTERNATING
SIGNWRITING MOVEMENT-FLOORPLANE SHAKING PARALLEL
SIGNWRITING MOVEMENT-WALLPLANE ARM CIRCLE SMALL SINGLE
SIGNWRITING MOVEMENT-WALLPLANE ARM CIRCLE MEDIUM SINGLE
SIGNWRITING MOVEMENT-WALLPLANE ARM CIRCLE SMALL DOUBLE
SIGNWRITING MOVEMENT-WALLPLANE ARM CIRCLE MEDIUM DOUBLE
SIGNWRITING MOVEMENT-FLOORPLANE ARM CIRCLE HITTING WALL SMALL SINGLE
SIGNWRITING MOVEMENT-FLOORPLANE ARM CIRCLE HITTING WALL MEDIUM SINGLE
SIGNWRITING MOVEMENT-FLOORPLANE ARM CIRCLE HITTING WALL LARGE SINGLE
SIGNWRITING MOVEMENT-FLOORPLANE ARM CIRCLE HITTING WALL SMALL DOUBLE
SIGNWRITING MOVEMENT-FLOORPLANE ARM CIRCLE HITTING WALL MEDIUM DOUBLE
SIGNWRITING MOVEMENT-FLOORPLANE ARM CIRCLE HITTING WALL LARGE DOUBLE
SIGNWRITING MOVEMENT-WALLPLANE WRIST CIRCLE FRONT SINGLE
SIGNWRITING MOVEMENT-WALLPLANE WRIST CIRCLE FRONT DOUBLE
SIGNWRITING MOVEMENT-FLOORPLANE WRIST CIRCLE HITTING WALL SINGLE
SIGNWRITING MOVEMENT-FLOORPLANE WRIST CIRCLE HITTING WALL DOUBLE
SIGNWRITING MOVEMENT-WALLPLANE FINGER CIRCLES SINGLE
SIGNWRITING MOVEMENT-WALLPLANE FINGER CIRCLES DOUBLE
SIGNWRITING MOVEMENT-FLOORPLANE FINGER CIRCLES HITTING WALL SINGLE
SIGNWRITING MOVEMENT-FLOORPLANE FINGER CIRCLES HITTING WALL DOUBLE
SIGNWRITING DYNAMIC ARROWHEAD SMALL
SIGNWRITING DYNAMIC ARROWHEAD LARGE
SIGNWRITING DYNAMIC FAST
SIGNWRITING DYNAMIC SLOW
SIGNWRITING DYNAMIC TENSE
SIGNWRITING DYNAMIC RELAXED
SIGNWRITING DYNAMIC SIMULTANEOUS
SIGNWRITING DYNAMIC SIMULTANEOUS ALTERNATING
SIGNWRITING DYNAMIC EVERY OTHER TIME
SIGNWRITING DYNAMIC GRADUAL
SIGNWRITING HEAD
SIGNWRITING HEAD RIM
SIGNWRITING HEAD MOVEMENT-WALLPLANE STRAIGHT
SIGNWRITING HEAD MOVEMENT-WALLPLANE TILT
SIGNWRITING HEAD MOVEMENT-FLOORPLANE STRAIGHT
SIGNWRITING HEAD MOVEMENT-WALLPLANE CURVE
SIGNWRITING HEAD MOVEMENT-FLOORPLANE CURVE
SIGNWRITING HEAD MOVEMENT CIRCLE
SIGNWRITING FACE DIRECTION POSITION NOSE FORWARD TILTING
SIGNWRITING FACE DIRECTION POSITION NOSE UP OR DOWN
SIGNWRITING FACE DIRECTION POSITION NOSE UP OR DOWN TILTING
SIGNWRITING EYEBROWS STRAIGHT UP
SIGNWRITING EYEBROWS STRAIGHT NEUTRAL
SIGNWRITING EYEBROWS STRAIGHT DOWN
SIGNWRITING DREAMY EYEBROWS NEUTRAL DOWN
SIGNWRITING DREAMY EYEBROWS DOWN NEUTRAL
SIGNWRITING DREAMY EYEBROWS UP NEUTRAL
SIGNWRITING DREAMY EYEBROWS NEUTRAL UP
SIGNWRITING FOREHEAD NEUTRAL
SIGNWRITING FOREHEAD CONTACT
SIGNWRITING FOREHEAD WRINKLED
SIGNWRITING EYES OPEN
SIGNWRITING EYES SQUEEZED
SIGNWRITING EYES CLOSED
SIGNWRITING EYE BLINK SINGLE
SIGNWRITING EYE BLINK MULTIPLE
SIGNWRITING EYES HALF OPEN
SIGNWRITING EYES WIDE OPEN
SIGNWRITING EYES HALF CLOSED
SIGNWRITING EYES WIDENING MOVEMENT
SIGNWRITING EYE WINK
SIGNWRITING EYELASHES UP
SIGNWRITING EYELASHES DOWN
SIGNWRITING EYELASHES FLUTTERING
SIGNWRITING EYEGAZE-WALLPLANE STRAIGHT
SIGNWRITING EYEGAZE-WALLPLANE STRAIGHT DOUBLE
SIGNWRITING EYEGAZE-WALLPLANE STRAIGHT ALTERNATING
SIGNWRITING EYEGAZE-FLOORPLANE STRAIGHT
SIGNWRITING EYEGAZE-FLOORPLANE STRAIGHT DOUBLE
SIGNWRITING EYEGAZE-FLOORPLANE STRAIGHT ALTERNATING
SIGNWRITING EYEGAZE-WALLPLANE CURVED
SIGNWRITING EYEGAZE-FLOORPLANE CURVED
SIGNWRITING EYEGAZE-WALLPLANE CIRCLING
SIGNWRITING CHEEKS PUFFED
SIGNWRITING CHEEKS NEUTRAL
SIGNWRITING CHEEKS SUCKED
SIGNWRITING TENSE CHEEKS HIGH
SIGNWRITING TENSE CHEEKS MIDDLE
SIGNWRITING TENSE CHEEKS LOW
SIGNWRITING EARS
SIGNWRITING NOSE NEUTRAL
SIGNWRITING NOSE CONTACT
SIGNWRITING NOSE WRINKLES
SIGNWRITING NOSE WIGGLES
SIGNWRITING AIR BLOWING OUT
SIGNWRITING AIR SUCKING IN
SIGNWRITING AIR BLOW SMALL ROTATIONS
SIGNWRITING AIR SUCK SMALL ROTATIONS
SIGNWRITING BREATH INHALE
SIGNWRITING BREATH EXHALE
SIGNWRITING MOUTH CLOSED NEUTRAL
SIGNWRITING MOUTH CLOSED FORWARD
SIGNWRITING MOUTH CLOSED CONTACT
SIGNWRITING MOUTH SMILE
SIGNWRITING MOUTH SMILE WRINKLED
SIGNWRITING MOUTH SMILE OPEN
SIGNWRITING MOUTH FROWN
SIGNWRITING MOUTH FROWN WRINKLED
SIGNWRITING MOUTH FROWN OPEN
SIGNWRITING MOUTH OPEN CIRCLE
SIGNWRITING MOUTH OPEN FORWARD
SIGNWRITING MOUTH OPEN WRINKLED
SIGNWRITING MOUTH OPEN OVAL
SIGNWRITING MOUTH OPEN OVAL WRINKLED
SIGNWRITING MOUTH OPEN OVAL YAWN
SIGNWRITING MOUTH OPEN RECTANGLE
SIGNWRITING MOUTH OPEN RECTANGLE WRINKLED
SIGNWRITING MOUTH OPEN RECTANGLE YAWN
SIGNWRITING MOUTH KISS
SIGNWRITING MOUTH KISS FORWARD
SIGNWRITING MOUTH KISS WRINKLED
SIGNWRITING MOUTH TENSE
SIGNWRITING MOUTH TENSE FORWARD
SIGNWRITING MOUTH TENSE SUCKED
SIGNWRITING LIPS PRESSED TOGETHER
SIGNWRITING LIP LOWER OVER UPPER
SIGNWRITING LIP UPPER OVER LOWER
SIGNWRITING MOUTH CORNERS
SIGNWRITING MOUTH WRINKLES SINGLE
SIGNWRITING MOUTH WRINKLES DOUBLE
SIGNWRITING TONGUE STICKING OUT FAR
SIGNWRITING TONGUE LICKING LIPS
SIGNWRITING TONGUE TIP BETWEEN LIPS
SIGNWRITING TONGUE TIP TOUCHING INSIDE MOUTH
SIGNWRITING TONGUE INSIDE MOUTH RELAXED
SIGNWRITING TONGUE MOVES AGAINST CHEEK
SIGNWRITING TONGUE CENTRE STICKING OUT
SIGNWRITING TONGUE CENTRE INSIDE MOUTH
SIGNWRITING TEETH
SIGNWRITING TEETH MOVEMENT
SIGNWRITING TEETH ON TONGUE
SIGNWRITING TEETH ON TONGUE MOVEMENT
SIGNWRITING TEETH ON LIPS
SIGNWRITING TEETH ON LIPS MOVEMENT
SIGNWRITING TEETH BITE LIPS
SIGNWRITING MOVEMENT-WALLPLANE JAW
SIGNWRITING MOVEMENT-FLOORPLANE JAW
SIGNWRITING NECK
SIGNWRITING HAIR
SIGNWRITING EXCITEMENT
SIGNWRITING SHOULDER HIP SPINE
SIGNWRITING SHOULDER HIP POSITIONS
SIGNWRITING WALLPLANE SHOULDER HIP MOVE
SIGNWRITING FLOORPLANE SHOULDER HIP MOVE
SIGNWRITING SHOULDER TILTING FROM WAIST
SIGNWRITING TORSO-WALLPLANE STRAIGHT STRETCH
SIGNWRITING TORSO-WALLPLANE CURVED BEND
SIGNWRITING TORSO-FLOORPLANE TWISTING
SIGNWRITING UPPER BODY TILTING FROM HIP JOINTS
SIGNWRITING LIMB COMBINATION
SIGNWRITING LIMB LENGTH-1
SIGNWRITING LIMB LENGTH-2
SIGNWRITING LIMB LENGTH-3
SIGNWRITING LIMB LENGTH-4
SIGNWRITING LIMB LENGTH-5
SIGNWRITING LIMB LENGTH-6
SIGNWRITING LIMB LENGTH-7
SIGNWRITING FINGER
SIGNWRITING LOCATION-WALLPLANE SPACE
SIGNWRITING LOCATION-FLOORPLANE SPACE
SIGNWRITING LOCATION HEIGHT
SIGNWRITING LOCATION WIDTH
SIGNWRITING LOCATION DEPTH
SIGNWRITING LOCATION HEAD NECK
SIGNWRITING LOCATION TORSO
SIGNWRITING LOCATION LIMBS DIGITS
SIGNWRITING COMMA
SIGNWRITING FULL STOP
SIGNWRITING SEMICOLON
SIGNWRITING COLON
SIGNWRITING PARENTHESIS"

def notationsD : String := "@1DA9B
SIGNWRITING FILL MODIFIER-2
SIGNWRITING FILL MODIFIER-3
SIGNWRITING FILL MODIFIER-4
SIGNWRITING FILL MODIFIER-5
SIGNWRITING FILL MODIFIER-6
@1DAA1
SIGNWRITING ROTATION MODIFIER-2
SIGNWRITING ROTATION MODIFIER-3
SIGNWRITING ROTATION MODIFIER-4
SIGNWRITING ROTATION MODIFIER-5
SIGNWRITING ROTATION MODIFIER-6
SIGNWRITING ROTATION MODIFIER-7
SIGNWRITING ROTATION MODIFIER-8
SIGNWRITING ROTATION MODIFIER-9
SIGNWRITING ROTATION MODIFIER-10
SIGNWRITING ROTATION MODIFIER-11
SIGNWRITING ROTATION MODIFIER-12
SIGNWRITING ROTATION MODIFIER-13
SIGNWRITING ROTATION MODIFIER-14
SIGNWRITING ROTATION MODIFIER-15
SIGNWRITING ROTATION MODIFIER-16
@1DF00
LATIN SMALL LETTER FENG DIGRAPH WITH TRILL
LATIN SMALL LETTER REVERSED SCRIPT G
LATIN LETTER SMALL CAPITAL TURNED G
LATIN SMALL LETTER REVERSED K
LATIN LETTER SMALL CAPITAL L WITH BELT
LATIN SMALL LETTER LEZH WITH RETROFLEX HOOK
LATIN SMALL LETTER TURNED Y WITH BELT
LATIN SMALL LETTER REVERSED ENG
LATIN SMALL LETTER TURNED R WITH LONG LEG AND RETROFLEX HOOK
LATIN SMALL LETTER T WITH HOOK AND RETROFLEX HOOK
LATIN LETTER RETROFLEX CLICK WITH RETROFLEX HOOK
LATIN SMALL LETTER ESH WITH DOUBLE BAR
LATIN SMALL LETTER ESH WITH DOUBLE BAR AND CURL
LATIN SMALL LETTER TURNED T WITH CURL
LATIN LETTER INVERTED GLOTTAL STOP WITH CURL
LATIN LETTER STRETCHED C WITH CURL
LATIN LETTER SMALL CAPITAL TURNED K
LATIN SMALL LETTER L WITH FISHHOOK
LATIN SMALL LETTER DEZH DIGRAPH WITH PALATAL HOOK
LATIN SMALL LETTER L WITH BELT AND PALATAL HOOK
LATIN SMALL LETTER ENG WITH PALATAL HOOK
LATIN SMALL LETTER TURNED R WITH PALATAL HOOK
LATIN SMALL LETTER R WITH FISHHOOK AND PALATAL HOOK
LATIN SMALL LETTER TESH DIGRAPH WITH PALATAL HOOK
LATIN SMALL LETTER EZH WITH PALATAL HOOK
LATIN SMALL LETTER DEZH DIGRAPH WITH RETROFLEX HOOK
LATIN SMALL LETTER I WITH STROKE AND RETROFLEX HOOK
LATIN SMALL LETTER O WITH RETROFLEX HOOK
LATIN SMALL LETTER TESH DIGRAPH WITH RETROFLEX HOOK
LATIN SMALL LETTER C WITH RETROFLEX HOOK
LATIN SMALL LETTER S WITH CURL
@1E000
COMBINING GLAGOLITIC LETTER AZU
COMBINING GLAGOLITIC LETTER BUKY
COMBINING GLAGOLITIC LETTER VEDE
COMBINING GLAGOLITIC LETTER GLAGOLI
COMBINING GLAGOLITIC LETTER DOBRO
COMBINING GLAGOLITIC LETTER YESTU
COMBINING GLAGOLITIC LETTER ZHIVETE
@1E008
COMBINING GLAGOLITIC LETTER ZEMLJA
COMBINING GLAGOLITIC LETTER IZHE
COMBINING GLAGOLITIC LETTER INITIAL IZHE
COMBINING GLAGOLITIC LETTER I
COMBINING GLAGOLITIC LETTER DJERVI
COMBINING GLAGOLITIC LETTER KAKO
COMBINING GLAGOLITIC LETTER LJUDIJE
COMBINING GLAGOLITIC LETTER MYSLITE
COMBINING GLAGOLITIC LETTER NASHI
COMBINING GLAGOLITIC LETTER ONU
COMBINING GLAGOLITIC LETTER POKOJI
COMBINING GLAGOLITIC LETTER RITSI
COMBINING GLAGOLITIC LETTER SLOVO
COMBINING GLAGOLITIC LETTER TVRIDO
COMBINING GLAGOLITIC LETTER UKU
COMBINING GLAGOLITIC LETTER FRITU
COMBINING GLAGOLITIC LETTER HERU
@1E01B
COMBINING GLAGOLITIC LETTER SHTA
COMBINING GLAGOLITIC LETTER TSI
COMBINING GLAGOLITIC LETTER CHRIVI
COMBINING GLAGOLITIC LETTER SHA
COMBINING GLAGOLITIC LETTER YERU
COMBINING GLAGOLITIC LETTER YERI
COMBINING GLAGOLITIC LETTER YATI
@1E023
COMBINING GLAGOLITIC LETTER YU
COMBINING GLAGOLITIC LETTER SMALL YUS
@1E026
COMBINING GLAGOLITIC LETTER YO
COMBINING GLAGOLITIC LETTER IOTATED SMALL YUS
COMBINING GLAGOLITIC LETTER BIG YUS
COMBINING GLAGOLITIC LETTER IOTATED BIG YUS
COMBINING GLAGOLITIC LETTER FITA
@1E100
NYIAKENG PUACHUE HMONG LETTER MA
NYIAKENG PUACHUE HMONG LETTER TSA
NYIAKENG PUACHUE HMONG LETTER NTA
NYIAKENG PUACHUE HMONG LETTER TA
NYIAKENG PUACHUE HMONG LETTER HA
NYIAKENG PUACHUE HMONG LETTER NA
NYIAKENG PUACHUE HMONG LETTER XA
NYIAKENG PUACHUE HMONG LETTER NKA
NYIAKENG PUACHUE HMONG LETTER CA
NYIAKENG PUACHUE HMONG LETTER LA
NYIAKENG PUACHUE HMONG LETTER SA
NYIAKENG PUACHUE HMONG LETTER ZA
NYIAKENG PUACHUE HMONG LETTER NCA
NYIAKENG PUACHUE HMONG LETTER NTSA
NYIAKENG PUACHUE HMONG LETTER KA
NYIAKENG PUACHUE HMONG LETTER DA
NYIAKENG PUACHUE HMONG LETTER NYA
NYIAKENG PUACHUE HMONG LETTER NRA
NYIAKENG PUACHUE HMONG LETTER VA
NYIAKENG PUACHUE HMONG LETTER NTXA
NYIAKENG PUACHUE HMONG LETTER TXA
NYIAKENG PUACHUE HMONG LETTER FA
NYIAKENG PUACHUE HMONG LETTER RA
NYIAKENG PUACHUE HMONG LETTER QA
NYIAKENG PUACHUE HMONG LETTER YA
NYIAKENG PUACHUE HMONG LETTER NQA
NYIAKENG PUACHUE HMONG LETTER PA
NYIAKENG PUACHUE HMONG LETTER XYA
NYIAKENG PUACHUE HMONG LETTER NPA
NYIAKENG PUACHUE HMONG LETTER DLA
NYIAKENG PUACHUE HMONG LETTER NPLA
NYIAKENG PUACHUE HMONG LETTER HAH
NYIAKENG PUACHUE HMONG LETTER MLA
NYIAKENG PUACHUE HMONG LETTER PLA
NYIAKENG PUACHUE HMONG LETTER GA
NYIAKENG PUACHUE HMONG LETTER RRA
NYIAKENG PUACHUE HMONG LETTER A
NYIAKENG PUACHUE HMONG LETTER AA
NYIAKENG PUACHUE HMONG LETTER I
NYIAKENG PUACHUE HMONG LETTER U
NYIAKENG PUACHUE HMONG LETTER O
NYIAKENG PUACHUE HMONG LETTER OO
NYIAKENG PUACHUE HMONG LETTER E
NYIAKENG PUACHUE HMONG LETTER EE
NYIAKENG PUACHUE HMONG LETTER W
@1E130
NYIAKENG PUACHUE HMONG TONE-B
NYIAKENG PUACHUE HMONG TONE-M
NYIAKENG PUACHUE HMONG TONE-J
NYIAKENG PUACHUE HMONG TONE-V
NYIAKENG PUACHUE HMONG TONE-S
NYIAKENG PUACHUE HMONG TONE-G
NYIAKENG PUACHUE HMONG TONE-D
NYIAKENG PUACHUE HMONG SIGN FOR PERSON
NYIAKENG PUACHUE HMONG SIGN FOR THING
NYIAKENG PUACHUE HMONG SIGN FOR LOCATION
NYIAKENG PUACHUE HMONG SIGN FOR ANIMAL
NYIAKENG PUACHUE HMONG SIGN FOR INVERTEBRATE
NYIAKENG PUACHUE HMONG SIGN XW XW
NYIAKENG PUACHUE HMONG SYLLABLE LENGTHENER
@1E140
NYIAKENG PUACHUE HMONG DIGIT ZERO
NYIAKENG PUACHUE HMONG DIGIT ONE
NYIAKENG PUACHUE HMONG DIGIT TWO
NYIAKENG PUACHUE HMONG DIGIT THREE
NYIAKENG PUACHUE HMONG DIGIT FOUR
NYIAKENG PUACHUE HMONG DIGIT FIVE
NYIAKENG PUACHUE HMONG DIGIT SIX
NYIAKENG PUACHUE HMONG DIGIT SEVEN
NYIAKENG PUACHUE HMONG DIGIT EIGHT
NYIAKENG PUACHUE HMONG DIGIT NINE
@1E14E
NYIAKENG PUACHUE HMONG LOGOGRAM NYAJ
NYIAKENG PUACHUE HMONG CIRCLED CA
@1E290
TOTO LETTER PA
TOTO LETTER BA
TOTO LETTER TA
TOTO LETTER DA
TOTO LETTER KA
TOTO LETTER GA
TOTO LETTER MA
TOTO LETTER NA
TOTO LETTER NGA
TOTO LETTER SA
TOTO LETTER CHA
TOTO LETTER YA
TOTO LETTER WA
TOTO LETTER JA
TOTO LETTER HA
TOTO LETTER RA
TOTO LETTER LA
TOTO LETTER I
TOTO LETTER BREATHY I
TOTO LETTER IU
TOTO LETTER BREATHY IU
TOTO LETTER U
TOTO LETTER E
TOTO LETTER BREATHY E
TOTO LETTER EO
TOTO LETTER BREATHY EO
TOTO LETTER O
TOTO LETTER AE
TOTO LETTER BREATHY AE
TOTO LETTER A
TOTO SIGN RISING TONE
@1E2C0
WANCHO LETTER AA
WANCHO LETTER A
WANCHO LETTER BA
WANCHO LETTER CA
WANCHO LETTER DA
WANCHO LETTER GA
WANCHO LETTER YA
WANCHO LETTER PHA
WANCHO LETTER LA
WANCHO LETTER NA
WANCHO LETTER PA
WANCHO LETTER TA
WANCHO LETTER THA
WANCHO LETTER FA
WANCHO LETTER SA
WANCHO LETTER SHA
WANCHO LETTER JA
WANCHO LETTER ZA
WANCHO LETTER WA
WANCHO LETTER VA
WANCHO LETTER KA
WANCHO LETTER O
WANCHO LETTER AU
WANCHO LETTER RA
WANCHO LETTER MA
WANCHO LETTER KHA
WANCHO LETTER HA
WANCHO LETTER E
WANCHO LETTER I
WANCHO LETTER NGA
WANCHO LETTER U
WANCHO LETTER LLHA
WANCHO LETTER TSA
WANCHO LETTER TRA
WANCHO LETTER ONG
WANCHO LETTER AANG
WANCHO LETTER ANG
WANCHO LETTER ING
WANCHO LETTER ON
WANCHO LETTER EN
WANCHO LETTER AAN
WANCHO LETTER NYA
WANCHO LETTER UEN
WANCHO LETTER YIH
WANCHO TONE TUP
WANCHO TONE TUPNI
WANCHO TONE KOI
WANCHO TONE KOINI
WANCHO DIGIT ZERO
WANCHO DIGIT ONE
WANCHO DIGIT TWO
WANCHO DIGIT THREE
WANCHO DIGIT FOUR
WANCHO DIGIT FIVE
WANCHO DIGIT SIX
WANCHO DIGIT SEVEN
WANCHO DIGIT EIGHT
WANCHO DIGIT NINE
@1E2FF
WANCHO NGUN SIGN
@1E7E0
ETHIOPIC SYLLABLE HHYA
ETHIOPIC SYLLABLE HHYU
ETHIOPIC SYLLABLE HHYI
ETHIOPIC SYLLABLE HHYAA
ETHIOPIC SYLLABLE HHYEE
ETHIOPIC SYLLABLE HHYE
ETHIOPIC SYLLABLE HHYO
@1E7E8
ETHIOPIC SYLLABLE GURAGE HHWA
ETHIOPIC SYLLABLE HHWI
ETHIOPIC SYLLABLE HHWEE
ETHIOPIC SYLLABLE HHWE
@1E7ED
ETHIOPIC SYLLABLE GURAGE MWI
ETHIOPIC SYLLABLE GURAGE MWEE
@1E7F0
ETHIOPIC SYLLABLE GURAGE QWI
ETHIOPIC SYLLABLE GURAGE QWEE
ETHIOPIC SYLLABLE GURAGE QWE
ETHIOPIC SYLLABLE GURAGE BWI
ETHIOPIC SYLLABLE GURAGE BWEE
ETHIOPIC SYLLABLE GURAGE KWI
ETHIOPIC SYLLABLE GURAGE KWEE
ETHIOPIC SYLLABLE GURAGE KWE
ETHIOPIC SYLLABLE GURAGE GWI
ETHIOPIC SYLLABLE GURAGE GWEE
ETHIOPIC SYLLABLE GURAGE GWE
ETHIOPIC SYLLABLE GURAGE FWI
ETHIOPIC SYLLABLE GURAGE FWEE
ETHIOPIC SYLLABLE GURAGE PWI
ETHIOPIC SYLLABLE GURAGE PWEE
@1E800
MENDE KIKAKUI SYLLABLE M001 KI
MENDE KIKAKUI SYLLABLE M002 KA
MENDE KIKAKUI SYLLABLE M003 KU
MENDE KIKAKUI SYLLABLE M065 KEE
MENDE KIKAKUI SYLLABLE M095 KE
MENDE KIKAKUI SYLLABLE M076 KOO
MENDE KIKAKUI SYLLABLE M048 KO
MENDE KIKAKUI SYLLABLE M179 KUA
MENDE KIKAKUI SYLLABLE M004 WI
MENDE KIKAKUI SYLLABLE M005 WA
MENDE KIKAKUI SYLLABLE M006 WU
MENDE KIKAKUI SYLLABLE M126 WEE
MENDE KIKAKUI SYLLABLE M118 WE
MENDE KIKAKUI SYLLABLE M114 WOO
MENDE KIKAKUI SYLLABLE M045 WO
MENDE KIKAKUI SYLLABLE M194 WUI
MENDE KIKAKUI SYLLABLE M143 WEI
MENDE KIKAKUI SYLLABLE M061 WVI
MENDE KIKAKUI SYLLABLE M049 WVA
MENDE KIKAKUI SYLLABLE M139 WVE
MENDE KIKAKUI SYLLABLE M007 MIN
MENDE KIKAKUI SYLLABLE M008 MAN
MENDE KIKAKUI SYLLABLE M009 MUN
MENDE KIKAKUI SYLLABLE M059 MEN
MENDE KIKAKUI SYLLABLE M094 MON
MENDE KIKAKUI SYLLABLE M154 MUAN
MENDE KIKAKUI SYLLABLE M189 MUEN
MENDE KIKAKUI SYLLABLE M010 BI
MENDE KIKAKUI SYLLABLE M011 BA
MENDE KIKAKUI SYLLABLE M012 BU
MENDE KIKAKUI SYLLABLE M150 BEE
MENDE KIKAKUI SYLLABLE M097 BE
MENDE KIKAKUI SYLLABLE M103 BOO
MENDE KIKAKUI SYLLABLE M138 BO
MENDE KIKAKUI SYLLABLE M013 I
MENDE KIKAKUI SYLLABLE M014 A
MENDE KIKAKUI SYLLABLE M015 U
MENDE KIKAKUI SYLLABLE M163 EE
MENDE KIKAKUI SYLLABLE M100 E
MENDE KIKAKUI SYLLABLE M165 OO
MENDE KIKAKUI SYLLABLE M147 O
MENDE KIKAKUI SYLLABLE M137 EI
MENDE KIKAKUI SYLLABLE M131 IN
MENDE KIKAKUI SYLLABLE M135 IN
MENDE KIKAKUI SYLLABLE M195 AN
MENDE KIKAKUI SYLLABLE M178 EN
MENDE KIKAKUI SYLLABLE M019 SI
MENDE KIKAKUI SYLLABLE M020 SA
MENDE KIKAKUI SYLLABLE M021 SU
MENDE KIKAKUI SYLLABLE M162 SEE
MENDE KIKAKUI SYLLABLE M116 SE
MENDE KIKAKUI SYLLABLE M136 SOO
MENDE KIKAKUI SYLLABLE M079 SO
MENDE KIKAKUI SYLLABLE M196 SIA
MENDE KIKAKUI SYLLABLE M025 LI
MENDE KIKAKUI SYLLABLE M026 LA
MENDE KIKAKUI SYLLABLE M027 LU
MENDE KIKAKUI SYLLABLE M084 LEE
MENDE KIKAKUI SYLLABLE M073 LE
MENDE KIKAKUI SYLLABLE M054 LOO
MENDE KIKAKUI SYLLABLE M153 LO
MENDE KIKAKUI SYLLABLE M110 LONG LE
MENDE KIKAKUI SYLLABLE M016 DI
MENDE KIKAKUI SYLLABLE M017 DA
MENDE KIKAKUI SYLLABLE M018 DU
MENDE KIKAKUI SYLLABLE M089 DEE
MENDE KIKAKUI SYLLABLE M180 DOO
MENDE KIKAKUI SYLLABLE M181 DO
MENDE KIKAKUI SYLLABLE M022 TI
MENDE KIKAKUI SYLLABLE M023 TA
MENDE KIKAKUI SYLLABLE M024 TU
MENDE KIKAKUI SYLLABLE M091 TEE
MENDE KIKAKUI SYLLABLE M055 TE
MENDE KIKAKUI SYLLABLE M104 TOO
MENDE KIKAKUI SYLLABLE M069 TO
MENDE KIKAKUI SYLLABLE M028 JI
MENDE KIKAKUI SYLLABLE M029 JA
MENDE KIKAKUI SYLLABLE M030 JU
MENDE KIKAKUI SYLLABLE M157 JEE
MENDE KIKAKUI SYLLABLE M113 JE
MENDE KIKAKUI SYLLABLE M160 JOO
MENDE KIKAKUI SYLLABLE M063 JO
MENDE KIKAKUI SYLLABLE M175 LONG JO
MENDE KIKAKUI SYLLABLE M031 YI
MENDE KIKAKUI SYLLABLE M032 YA
MENDE KIKAKUI SYLLABLE M033 YU
MENDE KIKAKUI SYLLABLE M109 YEE
MENDE KIKAKUI SYLLABLE M080 YE
MENDE KIKAKUI SYLLABLE M141 YOO
MENDE KIKAKUI SYLLABLE M121 YO
MENDE KIKAKUI SYLLABLE M034 FI
MENDE KIKAKUI SYLLABLE M035 FA
MENDE KIKAKUI SYLLABLE M036 FU
MENDE KIKAKUI SYLLABLE M078 FEE
MENDE KIKAKUI SYLLABLE M075 FE
MENDE KIKAKUI SYLLABLE M133 FOO
MENDE KIKAKUI SYLLABLE M088 FO
MENDE KIKAKUI SYLLABLE M197 FUA
MENDE KIKAKUI SYLLABLE M101 FAN
MENDE KIKAKUI SYLLABLE M037 NIN
MENDE KIKAKUI SYLLABLE M038 NAN
MENDE KIKAKUI SYLLABLE M039 NUN
MENDE KIKAKUI SYLLABLE M117 NEN
MENDE KIKAKUI SYLLABLE M169 NON
MENDE KIKAKUI SYLLABLE M176 HI
MENDE KIKAKUI SYLLABLE M041 HA
MENDE KIKAKUI SYLLABLE M186 HU
MENDE KIKAKUI SYLLABLE M040 HEE
MENDE KIKAKUI SYLLABLE M096 HE
MENDE KIKAKUI SYLLABLE M042 HOO
MENDE KIKAKUI SYLLABLE M140 HO
MENDE KIKAKUI SYLLABLE M083 HEEI
MENDE KIKAKUI SYLLABLE M128 HOOU
MENDE KIKAKUI SYLLABLE M053 HIN
MENDE KIKAKUI SYLLABLE M130 HAN
MENDE KIKAKUI SYLLABLE M087 HUN
MENDE KIKAKUI SYLLABLE M052 HEN
MENDE KIKAKUI SYLLABLE M193 HON
MENDE KIKAKUI SYLLABLE M046 HUAN
MENDE KIKAKUI SYLLABLE M090 NGGI
MENDE KIKAKUI SYLLABLE M043 NGGA
MENDE KIKAKUI SYLLABLE M082 NGGU
MENDE KIKAKUI SYLLABLE M115 NGGEE
MENDE KIKAKUI SYLLABLE M146 NGGE
MENDE KIKAKUI SYLLABLE M156 NGGOO
MENDE KIKAKUI SYLLABLE M120 NGGO
MENDE KIKAKUI SYLLABLE M159 NGGAA
MENDE KIKAKUI SYLLABLE M127 NGGUA
MENDE KIKAKUI SYLLABLE M086 LONG NGGE
MENDE KIKAKUI SYLLABLE M106 LONG NGGOO
MENDE KIKAKUI SYLLABLE M183 LONG NGGO
MENDE KIKAKUI SYLLABLE M155 GI
MENDE KIKAKUI SYLLABLE M111 GA
MENDE KIKAKUI SYLLABLE M168 GU
MENDE KIKAKUI SYLLABLE M190 GEE
MENDE KIKAKUI SYLLABLE M166 GUEI
MENDE KIKAKUI SYLLABLE M167 GUAN
MENDE KIKAKUI SYLLABLE M184 NGEN
MENDE KIKAKUI SYLLABLE M057 NGON
MENDE KIKAKUI SYLLABLE M177 NGUAN
MENDE KIKAKUI SYLLABLE M068 PI
MENDE KIKAKUI SYLLABLE M099 PA
MENDE KIKAKUI SYLLABLE M050 PU
MENDE KIKAKUI SYLLABLE M081 PEE
MENDE KIKAKUI SYLLABLE M051 PE
MENDE KIKAKUI SYLLABLE M102 POO
MENDE KIKAKUI SYLLABLE M066 PO
MENDE KIKAKUI SYLLABLE M145 MBI
MENDE KIKAKUI SYLLABLE M062 MBA
MENDE KIKAKUI SYLLABLE M122 MBU
MENDE KIKAKUI SYLLABLE M047 MBEE
MENDE KIKAKUI SYLLABLE M188 MBEE
MENDE KIKAKUI SYLLABLE M072 MBE
MENDE KIKAKUI SYLLABLE M172 MBOO
MENDE KIKAKUI SYLLABLE M174 MBO
MENDE KIKAKUI SYLLABLE M187 MBUU
MENDE KIKAKUI SYLLABLE M161 LONG MBE
MENDE KIKAKUI SYLLABLE M105 LONG MBOO
MENDE KIKAKUI SYLLABLE M142 LONG MBO
MENDE KIKAKUI SYLLABLE M132 KPI
MENDE KIKAKUI SYLLABLE M092 KPA
MENDE KIKAKUI SYLLABLE M074 KPU
MENDE KIKAKUI SYLLABLE M044 KPEE
MENDE KIKAKUI SYLLABLE M108 KPE
MENDE KIKAKUI SYLLABLE M112 KPOO
MENDE KIKAKUI SYLLABLE M158 KPO
MENDE KIKAKUI SYLLABLE M124 GBI
MENDE KIKAKUI SYLLABLE M056 GBA
MENDE KIKAKUI SYLLABLE M148 GBU
MENDE KIKAKUI SYLLABLE M093 GBEE
MENDE KIKAKUI SYLLABLE M107 GBE
MENDE KIKAKUI SYLLABLE M071 GBOO
MENDE KIKAKUI SYLLABLE M070 GBO
MENDE KIKAKUI SYLLABLE M171 RA
MENDE KIKAKUI SYLLABLE M123 NDI
MENDE KIKAKUI SYLLABLE M129 NDA
MENDE KIKAKUI SYLLABLE M125 NDU
MENDE KIKAKUI SYLLABLE M191 NDEE
MENDE KIKAKUI SYLLABLE M119 NDE
MENDE KIKAKUI SYLLABLE M067 NDOO
MENDE KIKAKUI SYLLABLE M064 NDO
MENDE KIKAKUI SYLLABLE M152 NJA
MENDE KIKAKUI SYLLABLE M192 NJU
MENDE KIKAKUI SYLLABLE M149 NJEE
MENDE KIKAKUI SYLLABLE M134 NJOO
MENDE KIKAKUI SYLLABLE M182 VI
MENDE KIKAKUI SYLLABLE M185 VA
MENDE KIKAKUI SYLLABLE M151 VU
MENDE KIKAKUI SYLLABLE M173 VEE
MENDE KIKAKUI SYLLABLE M085 VE
MENDE KIKAKUI SYLLABLE M144 VOO
MENDE KIKAKUI SYLLABLE M077 VO
MENDE KIKAKUI SYLLABLE M164 NYIN
MENDE KIKAKUI SYLLABLE M058 NYAN
MENDE KIKAKUI SYLLABLE M170 NYUN
MENDE KIKAKUI SYLLABLE M098 NYEN
MENDE KIKAKUI SYLLABLE M060 NYON
@1E8C7
MENDE KIKAKUI DIGIT ONE
MENDE KIKAKUI DIGIT TWO
MENDE KIKAKUI DIGIT THREE
MENDE KIKAKUI DIGIT FOUR
MENDE KIKAKUI DIGIT FIVE
MENDE KIKAKUI DIGIT SIX
MENDE KIKAKUI DIGIT SEVEN
MENDE KIKAKUI DIGIT EIGHT
MENDE KIKAKUI DIGIT NINE
MENDE KIKAKUI COMBINING NUMBER TEENS
MENDE KIKAKUI COMBINING NUMBER TENS
MENDE KIKAKUI COMBINING NUMBER HUNDREDS
MENDE KIKAKUI COMBINING NUMBER THOUSANDS
MENDE KIKAKUI COMBINING NUMBER TEN THOUSANDS
MENDE KIKAKUI COMBINING NUMBER HUNDRED THOUSANDS
MENDE KIKAKUI COMBINING NUMBER MILLIONS
@1E900
ADLAM CAPITAL LETTER ALIF
ADLAM CAPITAL LETTER DAALI
ADLAM CAPITAL LETTER LAAM
ADLAM CAPITAL LETTER MIIM
ADLAM CAPITAL LETTER BA
ADLAM CAPITAL LETTER SINNYIIYHE
ADLAM CAPITAL LETTER PE
ADLAM CAPITAL LETTER BHE
ADLAM CAPITAL LETTER RA
ADLAM CAPITAL LETTER E
ADLAM CAPITAL LETTER FA
ADLAM CAPITAL LETTER I
ADLAM CAPITAL LETTER O
ADLAM CAPITAL LETTER DHA
ADLAM CAPITAL LETTER YHE
ADLAM CAPITAL LETTER WAW
ADLAM CAPITAL LETTER NUN
ADLAM CAPITAL LETTER KAF
ADLAM CAPITAL LETTER YA
ADLAM CAPITAL LETTER U
ADLAM CAPITAL LETTER JIIM
ADLAM CAPITAL LETTER CHI
ADLAM CAPITAL LETTER HA
ADLAM CAPITAL LETTER QAAF
ADLAM CAPITAL LETTER GA
ADLAM CAPITAL LETTER NYA
ADLAM CAPITAL LETTER TU
ADLAM CAPITAL LETTER NHA
ADLAM CAPITAL LETTER VA
ADLAM CAPITAL LETTER KHA
ADLAM CAPITAL LETTER GBE
ADLAM CAPITAL LETTER ZAL
ADLAM CAPITAL LETTER KPO
ADLAM CAPITAL LETTER SHA
ADLAM SMALL LETTER ALIF
ADLAM SMALL LETTER DAALI
ADLAM SMALL LETTER LAAM
ADLAM SMALL LETTER MIIM
ADLAM SMALL LETTER BA
ADLAM SMALL LETTER SINNYIIYHE
ADLAM SMALL LETTER PE
ADLAM SMALL LETTER BHE
ADLAM SMALL LETTER RA
ADLAM SMALL LETTER E
ADLAM SMALL LETTER FA
ADLAM SMALL LETTER I
ADLAM SMALL LETTER O
ADLAM SMALL LETTER DHA
ADLAM SMALL LETTER YHE
ADLAM SMALL LETTER WAW
ADLAM SMALL LETTER NUN
ADLAM SMALL LETTER KAF
ADLAM SMALL LETTER YA
ADLAM SMALL LETTER U
ADLAM SMALL LETTER JIIM
ADLAM SMALL LETTER CHI
ADLAM SMALL LETTER HA
ADLAM SMALL LETTER QAAF
ADLAM SMALL LETTER GA
ADLAM SMALL LETTER NYA
ADLAM SMALL LETTER TU
ADLAM SMALL LETTER NHA
ADLAM SMALL LETTER VA
ADLAM SMALL LETTER KHA
ADLAM SMALL LETTER GBE
ADLAM SMALL LETTER ZAL
ADLAM SMALL LETTER KPO
ADLAM SMALL LETTER SHA
ADLAM ALIF LENGTHENER
ADLAM VOWEL LENGTHENER
ADLAM GEMINATION MARK
ADLAM HAMZA
ADLAM CONSONANT MODIFIER
ADLAM GEMINATE CONSONANT MODIFIER
ADLAM NUKTA
ADLAM NASALIZATION MARK
@1E950
ADLAM DIGIT ZERO
ADLAM DIGIT ONE
ADLAM DIGIT TWO
ADLAM DIGIT THREE
ADLAM DIGIT FOUR
ADLAM DIGIT FIVE
ADLAM DIGIT SIX
ADLAM DIGIT SEVEN
ADLAM DIGIT EIGHT
ADLAM DIGIT NINE
@1E95E
ADLAM INITIAL EXCLAMATION MARK
ADLAM INITIAL QUESTION MARK
@1EC71
INDIC SIYAQ NUMBER ONE
INDIC SIYAQ NUMBER TWO
INDIC SIYAQ NUMBER THREE
INDIC SIYAQ NUMBER FOUR
INDIC SIYAQ NUMBER FIVE
INDIC SIYAQ NUMBER SIX
INDIC SIYAQ NUMBER SEVEN
INDIC SIYAQ NUMBER EIGHT
INDIC SIYAQ NUMBER NINE
INDIC SIYAQ NUMBER TEN
INDIC SIYAQ NUMBER TWENTY
INDIC SIYAQ NUMBER THIRTY
INDIC SIYAQ NUMBER FORTY
INDIC SIYAQ NUMBER FIFTY
INDIC SIYAQ NUMBER SIXTY
INDIC SIYAQ NUMBER SEVENTY
INDIC SIYAQ NUMBER EIGHTY
INDIC SIYAQ NUMBER NINETY
INDIC SIYAQ NUMBER ONE HUNDRED
INDIC SIYAQ NUMBER TWO HUNDRED
INDIC SIYAQ NUMBER THREE HUNDRED
INDIC SIYAQ NUMBER FOUR HUNDRED
INDIC SIYAQ NUMBER FIVE HUNDRED
INDIC SIYAQ NUMBER SIX HUNDRED
INDIC SIYAQ NUMBER SEVEN HUNDRED
INDIC SIYAQ NUMBER EIGHT HUNDRED
INDIC SIYAQ NUMBER NINE HUNDRED
INDIC SIYAQ NUMBER ONE THOUSAND
INDIC SIYAQ NUMBER TWO THOUSAND
INDIC SIYAQ NUMBER THREE THOUSAND
INDIC SIYAQ NUMBER FOUR THOUSAND
INDIC SIYAQ NUMBER FIVE THOUSAND
INDIC SIYAQ NUMBER SIX THOUSAND
INDIC SIYAQ NUMBER SEVEN THOUSAND
INDIC SIYAQ NUMBER EIGHT THOUSAND
INDIC SIYAQ NUMBER NINE THOUSAND
INDIC SIYAQ NUMBER TEN THOUSAND
INDIC SIYAQ NUMBER TWENTY THOUSAND
INDIC SIYAQ NUMBER THIRTY THOUSAND
INDIC SIYAQ NUMBER FORTY THOUSAND
INDIC SIYAQ NUMBER FIFTY THOUSAND
INDIC SIYAQ NUMBER SIXTY THOUSAND
INDIC SIYAQ NUMBER SEVENTY THOUSAND
INDIC SIYAQ NUMBER EIGHTY THOUSAND
INDIC SIYAQ NUMBER NINETY THOUSAND
INDIC SIYAQ NUMBER LAKH
INDIC SIYAQ NUMBER LAKHAN
INDIC SIYAQ LAKH MARK
INDIC SIYAQ NUMBER KAROR
INDIC SIYAQ NUMBER KARORAN
INDIC SIYAQ NUMBER PREFIXED ONE
INDIC SIYAQ NUMBER PREFIXED TWO
INDIC SIYAQ NUMBER PREFIXED THREE
INDIC SIYAQ NUMBER PREFIXED FOUR
INDIC SIYAQ NUMBER PREFIXED FIVE
INDIC SIYAQ NUMBER PREFIXED SIX
INDIC SIYAQ NUMBER PREFIXED SEVEN
INDIC SIYAQ NUMBER PREFIXED EIGHT
INDIC SIYAQ NUMBER PREFIXED NINE
INDIC SIYAQ PLACEHOLDER
INDIC SIYAQ FRACTION ONE QUARTER
INDIC SIYAQ FRACTION ONE HALF
INDIC SIYAQ FRACTION THREE QUARTERS
INDIC SIYAQ RUPEE MARK
INDIC SIYAQ NUMBER ALTERNATE ONE
INDIC SIYAQ NUMBER ALTERNATE TWO
INDIC SIYAQ NUMBER ALTERNATE TEN THOUSAND
INDIC SIYAQ ALTERNATE LAKH MARK
@1ED01
OTTOMAN SIYAQ NUMBER ONE
OTTOMAN SIYAQ NUMBER TWO
OTTOMAN SIYAQ NUMBER THREE
OTTOMAN SIYAQ NUMBER FOUR
OTTOMAN SIYAQ NUMBER FIVE
OTTOMAN SIYAQ NUMBER SIX
OTTOMAN SIYAQ NUMBER SEVEN
OTTOMAN SIYAQ NUMBER EIGHT
OTTOMAN SIYAQ NUMBER NINE
OTTOMAN SIYAQ NUMBER TEN
OTTOMAN SIYAQ NUMBER TWENTY
OTTOMAN SIYAQ NUMBER THIRTY
OTTOMAN SIYAQ NUMBER FORTY
OTTOMAN SIYAQ NUMBER FIFTY
OTTOMAN SIYAQ NUMBER SIXTY
OTTOMAN SIYAQ NUMBER SEVENTY
OTTOMAN SIYAQ NUMBER EIGHTY
OTTOMAN SIYAQ NUMBER NINETY
OTTOMAN SIYAQ NUMBER ONE HUNDRED
OTTOMAN SIYAQ NUMBER TWO HUNDRED
OTTOMAN SIYAQ NUMBER THREE HUNDRED
OTTOMAN SIYAQ NUMBER FOUR HUNDRED
OTTOMAN SIYAQ NUMBER FIVE HUNDRED
OTTOMAN SIYAQ NUMBER SIX HUNDRED
OTTOMAN SIYAQ NUMBER SEVEN HUNDRED
OTTOMAN SIYAQ NUMBER EIGHT HUNDRED
OTTOMAN SIYAQ NUMBER NINE HUNDRED
OTTOMAN SIYAQ NUMBER ONE THOUSAND
OTTOMAN SIYAQ NUMBER TWO THOUSAND
OTTOMAN SIYAQ NUMBER THREE THOUSAND
OTTOMAN SIYAQ NUMBER FOUR THOUSAND
OTTOMAN SIYAQ NUMBER FIVE THOUSAND
OTTOMAN SIYAQ NUMBER SIX THOUSAND
OTTOMAN SIYAQ NUMBER SEVEN THOUSAND
OTTOMAN SIYAQ NUMBER EIGHT THOUSAND
OTTOMAN SIYAQ NUMBER NINE THOUSAND
OTTOMAN SIYAQ NUMBER TEN THOUSAND
OTTOMAN SIYAQ NUMBER TWENTY THOUSAND
OTTOMAN SIYAQ NUMBER THIRTY THOUSAND
OTTOMAN SIYAQ NUMBER FORTY THOUSAND
OTTOMAN SIYAQ NUMBER FIFTY THOUSAND
OTTOMAN SIYAQ NUMBER SIXTY THOUSAND
OTTOMAN SIYAQ NUMBER SEVENTY THOUSAND
OTTOMAN SIYAQ NUMBER EIGHTY THOUSAND
OTTOMAN SIYAQ NUMBER NINETY THOUSAND
OTTOMAN SIYAQ MARRATAN
OTTOMAN SIYAQ ALTERNATE NUMBER TWO
OTTOMAN SIYAQ ALTERNATE NUMBER THREE
OTTOMAN SIYAQ ALTERNATE NUMBER FOUR
OTTOMAN SIYAQ ALTERNATE NUMBER FIVE
OTTOMAN SIYAQ ALTERNATE NUMBER SIX
OTTOMAN SIYAQ ALTERNATE NUMBER SEVEN
OTTOMAN SIYAQ ALTERNATE NUMBER EIGHT
OTTOMAN SIYAQ ALTERNATE NUMBER NINE
OTTOMAN SIYAQ ALTERNATE NUMBER TEN
OTTOMAN SIYAQ ALTERNATE NUMBER FOUR HUNDRED
OTTOMAN SIYAQ ALTERNATE NUMBER SIX HUNDRED
OTTOMAN SIYAQ ALTERNATE NUMBER TWO THOUSAND
OTTOMAN SIYAQ ALTERNATE NUMBER TEN THOUSAND
OTTOMAN SIYAQ FRACTION ONE HALF
OTTOMAN SIYAQ FRACTION ONE SIXTH"

def notationsE : String := "@1EE00
ARABIC MATHEMATICAL ALEF
ARABIC MATHEMATICAL BEH
ARABIC MATHEMATICAL JEEM
ARABIC MATHEMATICAL DAL
@1EE05
ARABIC MATHEMATICAL WAW
ARABIC MATHEMATICAL ZAIN
ARABIC MATHEMATICAL HAH
ARABIC MATHEMATICAL TAH
ARABIC MATHEMATICAL YEH
ARABIC MATHEMATICAL KAF
ARABIC MATHEMATICAL LAM
ARABIC MATHEMATICAL MEEM
ARABIC MATHEMATICAL NOON
ARABIC MATHEMATICAL SEEN
ARABIC MATHEMATICAL AIN
ARABIC MATHEMATICAL FEH
ARABIC MATHEMATICAL SAD
ARABIC MATHEMATICAL QAF
ARABIC MATHEMATICAL REH
ARABIC MATHEMATICAL SHEEN
ARABIC MATHEMATICAL TEH
ARABIC MATHEMATICAL THEH
ARABIC MATHEMATICAL KHAH
ARABIC MATHEMATICAL THAL
ARABIC MATHEMATICAL DAD
ARABIC MATHEMATICAL ZAH
ARABIC MATHEMATICAL GHAIN
ARABIC MATHEMATICAL DOTLESS BEH
ARABIC MATHEMATICAL DOTLESS NOON
ARABIC MATHEMATICAL DOTLESS FEH
ARABIC MATHEMATICAL DOTLESS QAF
@1EE21
ARABIC MATHEMATICAL INITIAL BEH
ARABIC MATHEMATICAL INITIAL JEEM
@1EE24
ARABIC MATHEMATICAL INITIAL HEH
@1EE27
ARABIC MATHEMATICAL INITIAL HAH
@1EE29
ARABIC MATHEMATICAL INITIAL YEH
ARABIC MATHEMATICAL INITIAL KAF
ARABIC MATHEMATICAL INITIAL LAM
ARABIC MATHEMATICAL INITIAL MEEM
ARABIC MATHEMATICAL INITIAL NOON
ARABIC MATHEMATICAL INITIAL SEEN
ARABIC MATHEMATICAL INITIAL AIN
ARABIC MATHEMATICAL INITIAL FEH
ARABIC MATHEMATICAL INITIAL SAD
ARABIC MATHEMATICAL INITIAL QAF
@1EE34
ARABIC MATHEMATICAL INITIAL SHEEN
ARABIC MATHEMATICAL INITIAL TEH
ARABIC MATHEMATICAL INITIAL THEH
ARABIC MATHEMATICAL INITIAL KHAH
@1EE39
ARABIC MATHEMATICAL INITIAL DAD
@1EE3B
ARABIC MATHEMATICAL INITIAL GHAIN
@1EE42
ARABIC MATHEMATICAL TAILED JEEM
@1EE47
ARABIC MATHEMATICAL TAILED HAH
@1EE49
ARABIC MATHEMATICAL TAILED YEH
@1EE4B
ARABIC MATHEMATICAL TAILED LAM
@1EE4D
ARABIC MATHEMATICAL TAILED NOON
ARABIC MATHEMATICAL TAILED SEEN
ARABIC MATHEMATICAL TAILED AIN
@1EE51
ARABIC MATHEMATICAL TAILED SAD
ARABIC MATHEMATICAL TAILED QAF
@1EE54
ARABIC MATHEMATICAL TAILED SHEEN
@1EE57
ARABIC MATHEMATICAL TAILED KHAH
@1EE59
ARABIC MATHEMATICAL TAILED DAD
@1EE5B
ARABIC MATHEMATICAL TAILED GHAIN
@1EE5D
ARABIC MATHEMATICAL TAILED DOTLESS NOON
@1EE5F
ARABIC MATHEMATICAL TAILED DOTLESS QAF
@1EE61
ARABIC MATHEMATICAL STRETCHED BEH
ARABIC MATHEMATICAL STRETCHED JEEM
@1EE64
ARABIC MATHEMATICAL STRETCHED HEH
@1EE67
ARABIC MATHEMATICAL STRETCHED HAH
ARABIC MATHEMATICAL STRETCHED TAH
ARABIC MATHEMATICAL STRETCHED YEH
ARABIC MATHEMATICAL STRETCHED KAF
@1EE6C
ARABIC MATHEMATICAL STRETCHED MEEM
ARABIC MATHEMATICAL STRETCHED NOON
ARABIC MATHEMATICAL STRETCHED SEEN
ARABIC MATHEMATICAL STRETCHED AIN
ARABIC MATHEMATICAL STRETCHED FEH
ARABIC MATHEMATICAL STRETCHED SAD
ARABIC MATHEMATICAL STRETCHED QAF
@1EE74
ARABIC MATHEMATICAL STRETCHED SHEEN
ARABIC MATHEMATICAL STRETCHED TEH
ARABIC MATHEMATICAL STRETCHED THEH
ARABIC MATHEMATICAL STRETCHED KHAH
@1EE79
ARABIC MATHEMATICAL STRETCHED DAD
ARABIC MATHEMATICAL STRETCHED ZAH
ARABIC MATHEMATICAL STRETCHED GHAIN
ARABIC MATHEMATICAL STRETCHED DOTLESS BEH
@1EE7E
ARABIC MATHEMATICAL STRETCHED DOTLESS FEH
@1EE80
ARABIC MATHEMATICAL LOOPED ALEF
ARABIC MATHEMATICAL LOOPED BEH
ARABIC MATHEMATICAL LOOPED JEEM
ARABIC MATHEMATICAL LOOPED DAL
ARABIC MATHEMATICAL LOOPED HEH
ARABIC MATHEMATICAL LOOPED WAW
ARABIC MATHEMATICAL LOOPED ZAIN
ARABIC MATHEMATICAL LOOPED HAH
ARABIC MATHEMATICAL LOOPED TAH
ARABIC MATHEMATICAL LOOPED YEH
@1EE8B
ARABIC MATHEMATICAL LOOPED LAM
ARABIC MATHEMATICAL LOOPED MEEM
ARABIC MATHEMATICAL LOOPED NOON
ARABIC MATHEMATICAL LOOPED SEEN
ARABIC MATHEMATICAL LOOPED AIN
ARABIC MATHEMATICAL LOOPED FEH
ARABIC MATHEMATICAL LOOPED SAD
ARABIC MATHEMATICAL LOOPED QAF
ARABIC MATHEMATICAL LOOPED REH
ARABIC MATHEMATICAL LOOPED SHEEN
ARABIC MATHEMATICAL LOOPED TEH
ARABIC MATHEMATICAL LOOPED THEH
ARABIC MATHEMATICAL LOOPED KHAH
ARABIC MATHEMATICAL LOOPED THAL
ARABIC MATHEMATICAL LOOPED DAD
ARABIC MATHEMATICAL LOOPED ZAH
ARABIC MATHEMATICAL LOOPED GHAIN
@1EEA1
ARABIC MATHEMATICAL DOUBLE-STRUCK BEH
ARABIC MATHEMATICAL DOUBLE-STRUCK JEEM
ARABIC MATHEMATICAL DOUBLE-STRUCK DAL
@1EEA5
ARABIC MATHEMATICAL DOUBLE-STRUCK WAW
ARABIC MATHEMATICAL DOUBLE-STRUCK ZAIN
ARABIC MATHEMATICAL DOUBLE-STRUCK HAH
ARABIC MATHEMATICAL DOUBLE-STRUCK TAH
ARABIC MATHEMATICAL DOUBLE-STRUCK YEH
@1EEAB
ARABIC MATHEMATICAL DOUBLE-STRUCK LAM
ARABIC MATHEMATICAL DOUBLE-STRUCK MEEM
ARABIC MATHEMATICAL DOUBLE-STRUCK NOON
ARABIC MATHEMATICAL DOUBLE-STRUCK SEEN
ARABIC MATHEMATICAL DOUBLE-STRUCK AIN
ARABIC MATHEMATICAL DOUBLE-STRUCK FEH
ARABIC MATHEMATICAL DOUBLE-STRUCK SAD
ARABIC MATHEMATICAL DOUBLE-STRUCK QAF
ARABIC MATHEMATICAL DOUBLE-STRUCK REH
ARABIC MATHEMATICAL DOUBLE-STRUCK SHEEN
ARABIC MATHEMATICAL DOUBLE-STRUCK TEH
ARABIC MATHEMATICAL DOUBLE-STRUCK THEH
ARABIC MATHEMATICAL DOUBLE-STRUCK KHAH
ARABIC MATHEMATICAL DOUBLE-STRUCK THAL
ARABIC MATHEMATICAL DOUBLE-STRUCK DAD
ARABIC MATHEMATICAL DOUBLE-STRUCK ZAH
ARABIC MATHEMATICAL DOUBLE-STRUCK GHAIN
@1EEF0
ARABIC MATHEMATICAL OPERATOR MEEM WITH HAH WITH TATWEEL
ARABIC MATHEMATICAL OPERATOR HAH WITH DAL"

def notations : List String := [notationsA, notationsB, notationsC, notationsD, notationsE]

end CharacterName
end RuleDraft
