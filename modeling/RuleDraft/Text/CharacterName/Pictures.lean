/-!
# Character names: pictures

The names of the code points from U+1F000 to U+10FFFF, pictographs, tags and
variation selectors. A line with an at sign starts a run at a code point; the
lines after it are the names of that code point and of those that follow it.
-/

namespace RuleDraft
namespace CharacterName

def picturesA : String := "@1F000
MAHJONG TILE EAST WIND
MAHJONG TILE SOUTH WIND
MAHJONG TILE WEST WIND
MAHJONG TILE NORTH WIND
MAHJONG TILE RED DRAGON
MAHJONG TILE GREEN DRAGON
MAHJONG TILE WHITE DRAGON
MAHJONG TILE ONE OF CHARACTERS
MAHJONG TILE TWO OF CHARACTERS
MAHJONG TILE THREE OF CHARACTERS
MAHJONG TILE FOUR OF CHARACTERS
MAHJONG TILE FIVE OF CHARACTERS
MAHJONG TILE SIX OF CHARACTERS
MAHJONG TILE SEVEN OF CHARACTERS
MAHJONG TILE EIGHT OF CHARACTERS
MAHJONG TILE NINE OF CHARACTERS
MAHJONG TILE ONE OF BAMBOOS
MAHJONG TILE TWO OF BAMBOOS
MAHJONG TILE THREE OF BAMBOOS
MAHJONG TILE FOUR OF BAMBOOS
MAHJONG TILE FIVE OF BAMBOOS
MAHJONG TILE SIX OF BAMBOOS
MAHJONG TILE SEVEN OF BAMBOOS
MAHJONG TILE EIGHT OF BAMBOOS
MAHJONG TILE NINE OF BAMBOOS
MAHJONG TILE ONE OF CIRCLES
MAHJONG TILE TWO OF CIRCLES
MAHJONG TILE THREE OF CIRCLES
MAHJONG TILE FOUR OF CIRCLES
MAHJONG TILE FIVE OF CIRCLES
MAHJONG TILE SIX OF CIRCLES
MAHJONG TILE SEVEN OF CIRCLES
MAHJONG TILE EIGHT OF CIRCLES
MAHJONG TILE NINE OF CIRCLES
MAHJONG TILE PLUM
MAHJONG TILE ORCHID
MAHJONG TILE BAMBOO
MAHJONG TILE CHRYSANTHEMUM
MAHJONG TILE SPRING
MAHJONG TILE SUMMER
MAHJONG TILE AUTUMN
MAHJONG TILE WINTER
MAHJONG TILE JOKER
MAHJONG TILE BACK
@1F030
DOMINO TILE HORIZONTAL BACK
DOMINO TILE HORIZONTAL-00-00
DOMINO TILE HORIZONTAL-00-01
DOMINO TILE HORIZONTAL-00-02
DOMINO TILE HORIZONTAL-00-03
DOMINO TILE HORIZONTAL-00-04
DOMINO TILE HORIZONTAL-00-05
DOMINO TILE HORIZONTAL-00-06
DOMINO TILE HORIZONTAL-01-00
DOMINO TILE HORIZONTAL-01-01
DOMINO TILE HORIZONTAL-01-02
DOMINO TILE HORIZONTAL-01-03
DOMINO TILE HORIZONTAL-01-04
DOMINO TILE HORIZONTAL-01-05
DOMINO TILE HORIZONTAL-01-06
DOMINO TILE HORIZONTAL-02-00
DOMINO TILE HORIZONTAL-02-01
DOMINO TILE HORIZONTAL-02-02
DOMINO TILE HORIZONTAL-02-03
DOMINO TILE HORIZONTAL-02-04
DOMINO TILE HORIZONTAL-02-05
DOMINO TILE HORIZONTAL-02-06
DOMINO TILE HORIZONTAL-03-00
DOMINO TILE HORIZONTAL-03-01
DOMINO TILE HORIZONTAL-03-02
DOMINO TILE HORIZONTAL-03-03
DOMINO TILE HORIZONTAL-03-04
DOMINO TILE HORIZONTAL-03-05
DOMINO TILE HORIZONTAL-03-06
DOMINO TILE HORIZONTAL-04-00
DOMINO TILE HORIZONTAL-04-01
DOMINO TILE HORIZONTAL-04-02
DOMINO TILE HORIZONTAL-04-03
DOMINO TILE HORIZONTAL-04-04
DOMINO TILE HORIZONTAL-04-05
DOMINO TILE HORIZONTAL-04-06
DOMINO TILE HORIZONTAL-05-00
DOMINO TILE HORIZONTAL-05-01
DOMINO TILE HORIZONTAL-05-02
DOMINO TILE HORIZONTAL-05-03
DOMINO TILE HORIZONTAL-05-04
DOMINO TILE HORIZONTAL-05-05
DOMINO TILE HORIZONTAL-05-06
DOMINO TILE HORIZONTAL-06-00
DOMINO TILE HORIZONTAL-06-01
DOMINO TILE HORIZONTAL-06-02
DOMINO TILE HORIZONTAL-06-03
DOMINO TILE HORIZONTAL-06-04
DOMINO TILE HORIZONTAL-06-05
DOMINO TILE HORIZONTAL-06-06
DOMINO TILE VERTICAL BACK
DOMINO TILE VERTICAL-00-00
DOMINO TILE VERTICAL-00-01
DOMINO TILE VERTICAL-00-02
DOMINO TILE VERTICAL-00-03
DOMINO TILE VERTICAL-00-04
DOMINO TILE VERTICAL-00-05
DOMINO TILE VERTICAL-00-06
DOMINO TILE VERTICAL-01-00
DOMINO TILE VERTICAL-01-01
DOMINO TILE VERTICAL-01-02
DOMINO TILE VERTICAL-01-03
DOMINO TILE VERTICAL-01-04
DOMINO TILE VERTICAL-01-05
DOMINO TILE VERTICAL-01-06
DOMINO TILE VERTICAL-02-00
DOMINO TILE VERTICAL-02-01
DOMINO TILE VERTICAL-02-02
DOMINO TILE VERTICAL-02-03
DOMINO TILE VERTICAL-02-04
DOMINO TILE VERTICAL-02-05
DOMINO TILE VERTICAL-02-06
DOMINO TILE VERTICAL-03-00
DOMINO TILE VERTICAL-03-01
DOMINO TILE VERTICAL-03-02
DOMINO TILE VERTICAL-03-03
DOMINO TILE VERTICAL-03-04
DOMINO TILE VERTICAL-03-05
DOMINO TILE VERTICAL-03-06
DOMINO TILE VERTICAL-04-00
DOMINO TILE VERTICAL-04-01
DOMINO TILE VERTICAL-04-02
DOMINO TILE VERTICAL-04-03
DOMINO TILE VERTICAL-04-04
DOMINO TILE VERTICAL-04-05
DOMINO TILE VERTICAL-04-06
DOMINO TILE VERTICAL-05-00
DOMINO TILE VERTICAL-05-01
DOMINO TILE VERTICAL-05-02
DOMINO TILE VERTICAL-05-03
DOMINO TILE VERTICAL-05-04
DOMINO TILE VERTICAL-05-05
DOMINO TILE VERTICAL-05-06
DOMINO TILE VERTICAL-06-00
DOMINO TILE VERTICAL-06-01
DOMINO TILE VERTICAL-06-02
DOMINO TILE VERTICAL-06-03
DOMINO TILE VERTICAL-06-04
DOMINO TILE VERTICAL-06-05
DOMINO TILE VERTICAL-06-06
@1F0A0
PLAYING CARD BACK
PLAYING CARD ACE OF SPADES
PLAYING CARD TWO OF SPADES
PLAYING CARD THREE OF SPADES
PLAYING CARD FOUR OF SPADES
PLAYING CARD FIVE OF SPADES
PLAYING CARD SIX OF SPADES
PLAYING CARD SEVEN OF SPADES
PLAYING CARD EIGHT OF SPADES
PLAYING CARD NINE OF SPADES
PLAYING CARD TEN OF SPADES
PLAYING CARD JACK OF SPADES
PLAYING CARD KNIGHT OF SPADES
PLAYING CARD QUEEN OF SPADES
PLAYING CARD KING OF SPADES
@1F0B1
PLAYING CARD ACE OF HEARTS
PLAYING CARD TWO OF HEARTS
PLAYING CARD THREE OF HEARTS
PLAYING CARD FOUR OF HEARTS
PLAYING CARD FIVE OF HEARTS
PLAYING CARD SIX OF HEARTS
PLAYING CARD SEVEN OF HEARTS
PLAYING CARD EIGHT OF HEARTS
PLAYING CARD NINE OF HEARTS
PLAYING CARD TEN OF HEARTS
PLAYING CARD JACK OF HEARTS
PLAYING CARD KNIGHT OF HEARTS
PLAYING CARD QUEEN OF HEARTS
PLAYING CARD KING OF HEARTS
PLAYING CARD RED JOKER
@1F0C1
PLAYING CARD ACE OF DIAMONDS
PLAYING CARD TWO OF DIAMONDS
PLAYING CARD THREE OF DIAMONDS
PLAYING CARD FOUR OF DIAMONDS
PLAYING CARD FIVE OF DIAMONDS
PLAYING CARD SIX OF DIAMONDS
PLAYING CARD SEVEN OF DIAMONDS
PLAYING CARD EIGHT OF DIAMONDS
PLAYING CARD NINE OF DIAMONDS
PLAYING CARD TEN OF DIAMONDS
PLAYING CARD JACK OF DIAMONDS
PLAYING CARD KNIGHT OF DIAMONDS
PLAYING CARD QUEEN OF DIAMONDS
PLAYING CARD KING OF DIAMONDS
PLAYING CARD BLACK JOKER
@1F0D1
PLAYING CARD ACE OF CLUBS
PLAYING CARD TWO OF CLUBS
PLAYING CARD THREE OF CLUBS
PLAYING CARD FOUR OF CLUBS
PLAYING CARD FIVE OF CLUBS
PLAYING CARD SIX OF CLUBS
PLAYING CARD SEVEN OF CLUBS
PLAYING CARD EIGHT OF CLUBS
PLAYING CARD NINE OF CLUBS
PLAYING CARD TEN OF CLUBS
PLAYING CARD JACK OF CLUBS
PLAYING CARD KNIGHT OF CLUBS
PLAYING CARD QUEEN OF CLUBS
PLAYING CARD KING OF CLUBS
PLAYING CARD WHITE JOKER
PLAYING CARD FOOL
PLAYING CARD TRUMP-1
PLAYING CARD TRUMP-2
PLAYING CARD TRUMP-3
PLAYING CARD TRUMP-4
PLAYING CARD TRUMP-5
PLAYING CARD TRUMP-6
PLAYING CARD TRUMP-7
PLAYING CARD TRUMP-8
PLAYING CARD TRUMP-9
PLAYING CARD TRUMP-10
PLAYING CARD TRUMP-11
PLAYING CARD TRUMP-12
PLAYING CARD TRUMP-13
PLAYING CARD TRUMP-14
PLAYING CARD TRUMP-15
PLAYING CARD TRUMP-16
PLAYING CARD TRUMP-17
PLAYING CARD TRUMP-18
PLAYING CARD TRUMP-19
PLAYING CARD TRUMP-20
PLAYING CARD TRUMP-21
@1F100
DIGIT ZERO FULL STOP
DIGIT ZERO COMMA
DIGIT ONE COMMA
DIGIT TWO COMMA
DIGIT THREE COMMA
DIGIT FOUR COMMA
DIGIT FIVE COMMA
DIGIT SIX COMMA
DIGIT SEVEN COMMA
DIGIT EIGHT COMMA
DIGIT NINE COMMA
DINGBAT CIRCLED SANS-SERIF DIGIT ZERO
DINGBAT NEGATIVE CIRCLED SANS-SERIF DIGIT ZERO
CIRCLED ZERO WITH SLASH
CIRCLED ANTICLOCKWISE ARROW
CIRCLED DOLLAR SIGN WITH OVERLAID BACKSLASH
PARENTHESIZED LATIN CAPITAL LETTER A
PARENTHESIZED LATIN CAPITAL LETTER B
PARENTHESIZED LATIN CAPITAL LETTER C
PARENTHESIZED LATIN CAPITAL LETTER D
PARENTHESIZED LATIN CAPITAL LETTER E
PARENTHESIZED LATIN CAPITAL LETTER F
PARENTHESIZED LATIN CAPITAL LETTER G
PARENTHESIZED LATIN CAPITAL LETTER H
PARENTHESIZED LATIN CAPITAL LETTER I
PARENTHESIZED LATIN CAPITAL LETTER J
PARENTHESIZED LATIN CAPITAL LETTER K
PARENTHESIZED LATIN CAPITAL LETTER L
PARENTHESIZED LATIN CAPITAL LETTER M
PARENTHESIZED LATIN CAPITAL LETTER N
PARENTHESIZED LATIN CAPITAL LETTER O
PARENTHESIZED LATIN CAPITAL LETTER P
PARENTHESIZED LATIN CAPITAL LETTER Q
PARENTHESIZED LATIN CAPITAL LETTER R
PARENTHESIZED LATIN CAPITAL LETTER S
PARENTHESIZED LATIN CAPITAL LETTER T
PARENTHESIZED LATIN CAPITAL LETTER U
PARENTHESIZED LATIN CAPITAL LETTER V
PARENTHESIZED LATIN CAPITAL LETTER W
PARENTHESIZED LATIN CAPITAL LETTER X
PARENTHESIZED LATIN CAPITAL LETTER Y
PARENTHESIZED LATIN CAPITAL LETTER Z
TORTOISE SHELL BRACKETED LATIN CAPITAL LETTER S
CIRCLED ITALIC LATIN CAPITAL LETTER C
CIRCLED ITALIC LATIN CAPITAL LETTER R
CIRCLED CD
CIRCLED WZ
COPYLEFT SYMBOL
SQUARED LATIN CAPITAL LETTER A
SQUARED LATIN CAPITAL LETTER B
SQUARED LATIN CAPITAL LETTER C
SQUARED LATIN CAPITAL LETTER D
SQUARED LATIN CAPITAL LETTER E
SQUARED LATIN CAPITAL LETTER F
SQUARED LATIN CAPITAL LETTER G
SQUARED LATIN CAPITAL LETTER H
SQUARED LATIN CAPITAL LETTER I
SQUARED LATIN CAPITAL LETTER J
SQUARED LATIN CAPITAL LETTER K
SQUARED LATIN CAPITAL LETTER L
SQUARED LATIN CAPITAL LETTER M
SQUARED LATIN CAPITAL LETTER N
SQUARED LATIN CAPITAL LETTER O
SQUARED LATIN CAPITAL LETTER P
SQUARED LATIN CAPITAL LETTER Q
SQUARED LATIN CAPITAL LETTER R
SQUARED LATIN CAPITAL LETTER S
SQUARED LATIN CAPITAL LETTER T
SQUARED LATIN CAPITAL LETTER U
SQUARED LATIN CAPITAL LETTER V
SQUARED LATIN CAPITAL LETTER W
SQUARED LATIN CAPITAL LETTER X
SQUARED LATIN CAPITAL LETTER Y
SQUARED LATIN CAPITAL LETTER Z
SQUARED HV
SQUARED MV
SQUARED SD
SQUARED SS
SQUARED PPV
SQUARED WC
NEGATIVE CIRCLED LATIN CAPITAL LETTER A
NEGATIVE CIRCLED LATIN CAPITAL LETTER B
NEGATIVE CIRCLED LATIN CAPITAL LETTER C
NEGATIVE CIRCLED LATIN CAPITAL LETTER D
NEGATIVE CIRCLED LATIN CAPITAL LETTER E
NEGATIVE CIRCLED LATIN CAPITAL LETTER F
NEGATIVE CIRCLED LATIN CAPITAL LETTER G
NEGATIVE CIRCLED LATIN CAPITAL LETTER H
NEGATIVE CIRCLED LATIN CAPITAL LETTER I
NEGATIVE CIRCLED LATIN CAPITAL LETTER J
NEGATIVE CIRCLED LATIN CAPITAL LETTER K
NEGATIVE CIRCLED LATIN CAPITAL LETTER L
NEGATIVE CIRCLED LATIN CAPITAL LETTER M
NEGATIVE CIRCLED LATIN CAPITAL LETTER N
NEGATIVE CIRCLED LATIN CAPITAL LETTER O
NEGATIVE CIRCLED LATIN CAPITAL LETTER P
NEGATIVE CIRCLED LATIN CAPITAL LETTER Q
NEGATIVE CIRCLED LATIN CAPITAL LETTER R
NEGATIVE CIRCLED LATIN CAPITAL LETTER S
NEGATIVE CIRCLED LATIN CAPITAL LETTER T
NEGATIVE CIRCLED LATIN CAPITAL LETTER U
NEGATIVE CIRCLED LATIN CAPITAL LETTER V
NEGATIVE CIRCLED LATIN CAPITAL LETTER W
NEGATIVE CIRCLED LATIN CAPITAL LETTER X
NEGATIVE CIRCLED LATIN CAPITAL LETTER Y
NEGATIVE CIRCLED LATIN CAPITAL LETTER Z
RAISED MC SIGN
RAISED MD SIGN
RAISED MR SIGN
CIRCLED CC
CIRCLED C WITH OVERLAID BACKSLASH
CIRCLED HUMAN FIGURE
NEGATIVE SQUARED LATIN CAPITAL LETTER A
NEGATIVE SQUARED LATIN CAPITAL LETTER B
NEGATIVE SQUARED LATIN CAPITAL LETTER C
NEGATIVE SQUARED LATIN CAPITAL LETTER D
NEGATIVE SQUARED LATIN CAPITAL LETTER E
NEGATIVE SQUARED LATIN CAPITAL LETTER F
NEGATIVE SQUARED LATIN CAPITAL LETTER G
NEGATIVE SQUARED LATIN CAPITAL LETTER H
NEGATIVE SQUARED LATIN CAPITAL LETTER I
NEGATIVE SQUARED LATIN CAPITAL LETTER J
NEGATIVE SQUARED LATIN CAPITAL LETTER K
NEGATIVE SQUARED LATIN CAPITAL LETTER L
NEGATIVE SQUARED LATIN CAPITAL LETTER M
NEGATIVE SQUARED LATIN CAPITAL LETTER N
NEGATIVE SQUARED LATIN CAPITAL LETTER O
NEGATIVE SQUARED LATIN CAPITAL LETTER P
NEGATIVE SQUARED LATIN CAPITAL LETTER Q
NEGATIVE SQUARED LATIN CAPITAL LETTER R
NEGATIVE SQUARED LATIN CAPITAL LETTER S
NEGATIVE SQUARED LATIN CAPITAL LETTER T
NEGATIVE SQUARED LATIN CAPITAL LETTER U
NEGATIVE SQUARED LATIN CAPITAL LETTER V
NEGATIVE SQUARED LATIN CAPITAL LETTER W
NEGATIVE SQUARED LATIN CAPITAL LETTER X
NEGATIVE SQUARED LATIN CAPITAL LETTER Y
NEGATIVE SQUARED LATIN CAPITAL LETTER Z
CROSSED NEGATIVE SQUARED LATIN CAPITAL LETTER P
NEGATIVE SQUARED IC
NEGATIVE SQUARED PA
NEGATIVE SQUARED SA
NEGATIVE SQUARED AB
NEGATIVE SQUARED WC
SQUARE DJ
SQUARED CL
SQUARED COOL
SQUARED FREE
SQUARED ID
SQUARED NEW
SQUARED NG
SQUARED OK
SQUARED SOS
SQUARED UP WITH EXCLAMATION MARK
SQUARED VS
SQUARED THREE D
SQUARED SECOND SCREEN
SQUARED TWO K
SQUARED FOUR K
SQUARED EIGHT K
SQUARED FIVE POINT ONE
SQUARED SEVEN POINT ONE
SQUARED TWENTY-TWO POINT TWO
SQUARED SIXTY P
SQUARED ONE HUNDRED TWENTY P
SQUARED LATIN SMALL LETTER D
SQUARED HC
SQUARED HDR
SQUARED HI-RES
SQUARED LOSSLESS
SQUARED SHV
SQUARED UHD
SQUARED VOD
MASK WORK SYMBOL
@1F1E6
REGIONAL INDICATOR SYMBOL LETTER A
REGIONAL INDICATOR SYMBOL LETTER B
REGIONAL INDICATOR SYMBOL LETTER C
REGIONAL INDICATOR SYMBOL LETTER D
REGIONAL INDICATOR SYMBOL LETTER E
REGIONAL INDICATOR SYMBOL LETTER F
REGIONAL INDICATOR SYMBOL LETTER G
REGIONAL INDICATOR SYMBOL LETTER H
REGIONAL INDICATOR SYMBOL LETTER I
REGIONAL INDICATOR SYMBOL LETTER J
REGIONAL INDICATOR SYMBOL LETTER K
REGIONAL INDICATOR SYMBOL LETTER L
REGIONAL INDICATOR SYMBOL LETTER M
REGIONAL INDICATOR SYMBOL LETTER N
REGIONAL INDICATOR SYMBOL LETTER O
REGIONAL INDICATOR SYMBOL LETTER P
REGIONAL INDICATOR SYMBOL LETTER Q
REGIONAL INDICATOR SYMBOL LETTER R
REGIONAL INDICATOR SYMBOL LETTER S
REGIONAL INDICATOR SYMBOL LETTER T
REGIONAL INDICATOR SYMBOL LETTER U
REGIONAL INDICATOR SYMBOL LETTER V
REGIONAL INDICATOR SYMBOL LETTER W
REGIONAL INDICATOR SYMBOL LETTER X
REGIONAL INDICATOR SYMBOL LETTER Y
REGIONAL INDICATOR SYMBOL LETTER Z
SQUARE HIRAGANA HOKA
SQUARED KATAKANA KOKO
SQUARED KATAKANA SA
@1F210
SQUARED CJK UNIFIED IDEOGRAPH-624B
SQUARED CJK UNIFIED IDEOGRAPH-5B57
SQUARED CJK UNIFIED IDEOGRAPH-53CC
SQUARED KATAKANA DE
SQUARED CJK UNIFIED IDEOGRAPH-4E8C
SQUARED CJK UNIFIED IDEOGRAPH-591A
SQUARED CJK UNIFIED IDEOGRAPH-89E3
SQUARED CJK UNIFIED IDEOGRAPH-5929
SQUARED CJK UNIFIED IDEOGRAPH-4EA4
SQUARED CJK UNIFIED IDEOGRAPH-6620
SQUARED CJK UNIFIED IDEOGRAPH-7121
SQUARED CJK UNIFIED IDEOGRAPH-6599
SQUARED CJK UNIFIED IDEOGRAPH-524D
SQUARED CJK UNIFIED IDEOGRAPH-5F8C
SQUARED CJK UNIFIED IDEOGRAPH-518D
SQUARED CJK UNIFIED IDEOGRAPH-65B0
SQUARED CJK UNIFIED IDEOGRAPH-521D
SQUARED CJK UNIFIED IDEOGRAPH-7D42
SQUARED CJK UNIFIED IDEOGRAPH-751F
SQUARED CJK UNIFIED IDEOGRAPH-8CA9
SQUARED CJK UNIFIED IDEOGRAPH-58F0
SQUARED CJK UNIFIED IDEOGRAPH-5439
SQUARED CJK UNIFIED IDEOGRAPH-6F14
SQUARED CJK UNIFIED IDEOGRAPH-6295
SQUARED CJK UNIFIED IDEOGRAPH-6355
SQUARED CJK UNIFIED IDEOGRAPH-4E00
SQUARED CJK UNIFIED IDEOGRAPH-4E09
SQUARED CJK UNIFIED IDEOGRAPH-904A
SQUARED CJK UNIFIED IDEOGRAPH-5DE6
SQUARED CJK UNIFIED IDEOGRAPH-4E2D
SQUARED CJK UNIFIED IDEOGRAPH-53F3
SQUARED CJK UNIFIED IDEOGRAPH-6307
SQUARED CJK UNIFIED IDEOGRAPH-8D70
SQUARED CJK UNIFIED IDEOGRAPH-6253
SQUARED CJK UNIFIED IDEOGRAPH-7981
SQUARED CJK UNIFIED IDEOGRAPH-7A7A
SQUARED CJK UNIFIED IDEOGRAPH-5408
SQUARED CJK UNIFIED IDEOGRAPH-6E80
SQUARED CJK UNIFIED IDEOGRAPH-6709
SQUARED CJK UNIFIED IDEOGRAPH-6708
SQUARED CJK UNIFIED IDEOGRAPH-7533
SQUARED CJK UNIFIED IDEOGRAPH-5272
SQUARED CJK UNIFIED IDEOGRAPH-55B6
SQUARED CJK UNIFIED IDEOGRAPH-914D
@1F240
TORTOISE SHELL BRACKETED CJK UNIFIED IDEOGRAPH-672C
TORTOISE SHELL BRACKETED CJK UNIFIED IDEOGRAPH-4E09
TORTOISE SHELL BRACKETED CJK UNIFIED IDEOGRAPH-4E8C
TORTOISE SHELL BRACKETED CJK UNIFIED IDEOGRAPH-5B89
TORTOISE SHELL BRACKETED CJK UNIFIED IDEOGRAPH-70B9
TORTOISE SHELL BRACKETED CJK UNIFIED IDEOGRAPH-6253
TORTOISE SHELL BRACKETED CJK UNIFIED IDEOGRAPH-76D7
TORTOISE SHELL BRACKETED CJK UNIFIED IDEOGRAPH-52DD
TORTOISE SHELL BRACKETED CJK UNIFIED IDEOGRAPH-6557
@1F250
CIRCLED IDEOGRAPH ADVANTAGE
CIRCLED IDEOGRAPH ACCEPT
@1F260
ROUNDED SYMBOL FOR FU
ROUNDED SYMBOL FOR LU
ROUNDED SYMBOL FOR SHOU
ROUNDED SYMBOL FOR XI
ROUNDED SYMBOL FOR SHUANGXI
ROUNDED SYMBOL FOR CAI
@1F300
CYCLONE
FOGGY
CLOSED UMBRELLA
NIGHT WITH STARS
SUNRISE OVER MOUNTAINS
SUNRISE
CITYSCAPE AT DUSK
SUNSET OVER BUILDINGS
RAINBOW
BRIDGE AT NIGHT
WATER WAVE
VOLCANO
MILKY WAY
EARTH GLOBE EUROPE-AFRICA
EARTH GLOBE AMERICAS
EARTH GLOBE ASIA-AUSTRALIA
GLOBE WITH MERIDIANS
NEW MOON SYMBOL
WAXING CRESCENT MOON SYMBOL
FIRST QUARTER MOON SYMBOL
WAXING GIBBOUS MOON SYMBOL
FULL MOON SYMBOL
WANING GIBBOUS MOON SYMBOL
LAST QUARTER MOON SYMBOL
WANING CRESCENT MOON SYMBOL
CRESCENT MOON
NEW MOON WITH FACE
FIRST QUARTER MOON WITH FACE
LAST QUARTER MOON WITH FACE
FULL MOON WITH FACE
SUN WITH FACE
GLOWING STAR
SHOOTING STAR
THERMOMETER
BLACK DROPLET
WHITE SUN
WHITE SUN WITH SMALL CLOUD
WHITE SUN BEHIND CLOUD
WHITE SUN BEHIND CLOUD WITH RAIN
CLOUD WITH RAIN
CLOUD WITH SNOW
CLOUD WITH LIGHTNING
CLOUD WITH TORNADO
FOG
WIND BLOWING FACE
HOT DOG
TACO
BURRITO
CHESTNUT
SEEDLING
EVERGREEN TREE
DECIDUOUS TREE
PALM TREE
CACTUS
HOT PEPPER
TULIP
CHERRY BLOSSOM
ROSE
HIBISCUS
SUNFLOWER
BLOSSOM
EAR OF MAIZE
EAR OF RICE
HERB
FOUR LEAF CLOVER
MAPLE LEAF
FALLEN LEAF
LEAF FLUTTERING IN WIND
MUSHROOM
TOMATO
AUBERGINE
GRAPES
MELON
WATERMELON
TANGERINE
LEMON
BANANA
PINEAPPLE
RED APPLE
GREEN APPLE
PEAR
PEACH
CHERRIES
STRAWBERRY
HAMBURGER
SLICE OF PIZZA
MEAT ON BONE
POULTRY LEG
RICE CRACKER
RICE BALL
COOKED RICE
CURRY AND RICE
STEAMING BOWL
SPAGHETTI
BREAD
FRENCH FRIES
ROASTED SWEET POTATO
DANGO
ODEN
SUSHI
FRIED SHRIMP
FISH CAKE WITH SWIRL DESIGN
SOFT ICE CREAM
SHAVED ICE
ICE CREAM
DOUGHNUT
COOKIE
CHOCOLATE BAR
CANDY
LOLLIPOP
CUSTARD
HONEY POT
SHORTCAKE
BENTO BOX
POT OF FOOD
COOKING
FORK AND KNIFE
TEACUP WITHOUT HANDLE
SAKE BOTTLE AND CUP
WINE GLASS
COCKTAIL GLASS
TROPICAL DRINK
BEER MUG
CLINKING BEER MUGS
BABY BOTTLE
FORK AND KNIFE WITH PLATE
BOTTLE WITH POPPING CORK
POPCORN
RIBBON
WRAPPED PRESENT
BIRTHDAY CAKE
JACK-O-LANTERN
CHRISTMAS TREE
FATHER CHRISTMAS
FIREWORKS
FIREWORK SPARKLER
BALLOON
PARTY POPPER
CONFETTI BALL
TANABATA TREE
CROSSED FLAGS
PINE DECORATION
JAPANESE DOLLS
CARP STREAMER
WIND CHIME
MOON VIEWING CEREMONY
SCHOOL SATCHEL
GRADUATION CAP
HEART WITH TIP ON THE LEFT
BOUQUET OF FLOWERS
MILITARY MEDAL
REMINDER RIBBON
MUSICAL KEYBOARD WITH JACKS
STUDIO MICROPHONE
LEVEL SLIDER
CONTROL KNOBS
BEAMED ASCENDING MUSICAL NOTES
BEAMED DESCENDING MUSICAL NOTES
FILM FRAMES
ADMISSION TICKETS
CAROUSEL HORSE
FERRIS WHEEL
ROLLER COASTER
FISHING POLE AND FISH
MICROPHONE
MOVIE CAMERA
CINEMA
HEADPHONE
ARTIST PALETTE
TOP HAT
CIRCUS TENT
TICKET
CLAPPER BOARD
PERFORMING ARTS
VIDEO GAME
DIRECT HIT
SLOT MACHINE
BILLIARDS
GAME DIE
BOWLING
FLOWER PLAYING CARDS
MUSICAL NOTE
MULTIPLE MUSICAL NOTES
SAXOPHONE
GUITAR
MUSICAL KEYBOARD
TRUMPET
VIOLIN
MUSICAL SCORE
RUNNING SHIRT WITH SASH
TENNIS RACQUET AND BALL
SKI AND SKI BOOT
BASKETBALL AND HOOP
CHEQUERED FLAG
SNOWBOARDER
RUNNER
SURFER
SPORTS MEDAL
TROPHY
HORSE RACING
AMERICAN FOOTBALL
RUGBY FOOTBALL
SWIMMER
WEIGHT LIFTER
GOLFER
RACING MOTORCYCLE
RACING CAR
CRICKET BAT AND BALL
VOLLEYBALL
FIELD HOCKEY STICK AND BALL
ICE HOCKEY STICK AND PUCK
TABLE TENNIS PADDLE AND BALL
SNOW CAPPED MOUNTAIN
CAMPING
BEACH WITH UMBRELLA
BUILDING CONSTRUCTION
HOUSE BUILDINGS
CITYSCAPE
DERELICT HOUSE BUILDING
CLASSICAL BUILDING
DESERT
DESERT ISLAND
NATIONAL PARK
STADIUM
HOUSE BUILDING
HOUSE WITH GARDEN
OFFICE BUILDING
JAPANESE POST OFFICE
EUROPEAN POST OFFICE
HOSPITAL
BANK
AUTOMATED TELLER MACHINE
HOTEL
LOVE HOTEL
CONVENIENCE STORE
SCHOOL
DEPARTMENT STORE
FACTORY
IZAKAYA LANTERN
JAPANESE CASTLE
EUROPEAN CASTLE
WHITE PENNANT
BLACK PENNANT
WAVING WHITE FLAG
WAVING BLACK FLAG
ROSETTE
BLACK ROSETTE
LABEL
BADMINTON RACQUET AND SHUTTLECOCK
BOW AND ARROW
AMPHORA
EMOJI MODIFIER FITZPATRICK TYPE-1-2
EMOJI MODIFIER FITZPATRICK TYPE-3
EMOJI MODIFIER FITZPATRICK TYPE-4
EMOJI MODIFIER FITZPATRICK TYPE-5
EMOJI MODIFIER FITZPATRICK TYPE-6
RAT
MOUSE
OX
WATER BUFFALO
COW
TIGER
LEOPARD
RABBIT
CAT
DRAGON
CROCODILE
WHALE
SNAIL
SNAKE
HORSE
RAM
GOAT
SHEEP
MONKEY
ROOSTER
CHICKEN
DOG
PIG
BOAR
ELEPHANT
OCTOPUS
SPIRAL SHELL
BUG
ANT
HONEYBEE
LADY BEETLE
FISH
TROPICAL FISH
BLOWFISH
TURTLE
HATCHING CHICK
BABY CHICK
FRONT-FACING BABY CHICK
BIRD
PENGUIN
KOALA
POODLE
DROMEDARY CAMEL
BACTRIAN CAMEL
DOLPHIN
MOUSE FACE
COW FACE
TIGER FACE
RABBIT FACE
CAT FACE
DRAGON FACE
SPOUTING WHALE
HORSE FACE
MONKEY FACE
DOG FACE
PIG FACE
FROG FACE
HAMSTER FACE
WOLF FACE
BEAR FACE
PANDA FACE
PIG NOSE
PAW PRINTS
CHIPMUNK
EYES
EYE
EAR
NOSE
MOUTH
TONGUE
WHITE UP POINTING BACKHAND INDEX
WHITE DOWN POINTING BACKHAND INDEX
WHITE LEFT POINTING BACKHAND INDEX
WHITE RIGHT POINTING BACKHAND INDEX
FISTED HAND SIGN
WAVING HAND SIGN
OK HAND SIGN
THUMBS UP SIGN
THUMBS DOWN SIGN
CLAPPING HANDS SIGN
OPEN HANDS SIGN
CROWN
WOMANS HAT
EYEGLASSES
NECKTIE
T-SHIRT
JEANS
DRESS
KIMONO
BIKINI
WOMANS CLOTHES
PURSE
HANDBAG
POUCH
MANS SHOE
ATHLETIC SHOE
HIGH-HEELED SHOE
WOMANS SANDAL
WOMANS BOOTS
FOOTPRINTS
BUST IN SILHOUETTE
BUSTS IN SILHOUETTE
BOY
GIRL
MAN
WOMAN
FAMILY
MAN AND WOMAN HOLDING HANDS
TWO MEN HOLDING HANDS
TWO WOMEN HOLDING HANDS
POLICE OFFICER
WOMAN WITH BUNNY EARS
BRIDE WITH VEIL
PERSON WITH BLOND HAIR
MAN WITH GUA PI MAO
MAN WITH TURBAN
OLDER MAN
OLDER WOMAN
BABY
CONSTRUCTION WORKER
PRINCESS
JAPANESE OGRE
JAPANESE GOBLIN
GHOST
BABY ANGEL
EXTRATERRESTRIAL ALIEN
ALIEN MONSTER
IMP
SKULL
INFORMATION DESK PERSON
GUARDSMAN
DANCER
LIPSTICK
NAIL POLISH
FACE MASSAGE
HAIRCUT
BARBER POLE
SYRINGE
PILL
KISS MARK
LOVE LETTER
RING
GEM STONE
KISS
BOUQUET
COUPLE WITH HEART
WEDDING
BEATING HEART
BROKEN HEART
TWO HEARTS
SPARKLING HEART
GROWING HEART
HEART WITH ARROW
BLUE HEART
GREEN HEART
YELLOW HEART
PURPLE HEART
HEART WITH RIBBON
REVOLVING HEARTS
HEART DECORATION
DIAMOND SHAPE WITH A DOT INSIDE
ELECTRIC LIGHT BULB
ANGER SYMBOL
BOMB
SLEEPING SYMBOL
COLLISION SYMBOL
SPLASHING SWEAT SYMBOL
DROPLET
DASH SYMBOL
PILE OF POO
FLEXED BICEPS
DIZZY SYMBOL
SPEECH BALLOON
THOUGHT BALLOON
WHITE FLOWER
HUNDRED POINTS SYMBOL
MONEY BAG
CURRENCY EXCHANGE
HEAVY DOLLAR SIGN
CREDIT CARD
BANKNOTE WITH YEN SIGN
BANKNOTE WITH DOLLAR SIGN
BANKNOTE WITH EURO SIGN
BANKNOTE WITH POUND SIGN
MONEY WITH WINGS
CHART WITH UPWARDS TREND AND YEN SIGN
SEAT
PERSONAL COMPUTER
BRIEFCASE
MINIDISC
FLOPPY DISK
OPTICAL DISC
DVD
FILE FOLDER
OPEN FILE FOLDER
PAGE WITH CURL
PAGE FACING UP
CALENDAR
TEAR-OFF CALENDAR
CARD INDEX
CHART WITH UPWARDS TREND
CHART WITH DOWNWARDS TREND
BAR CHART
CLIPBOARD
PUSHPIN
ROUND PUSHPIN
PAPERCLIP
STRAIGHT RULER
TRIANGULAR RULER
BOOKMARK TABS
LEDGER
NOTEBOOK
NOTEBOOK WITH DECORATIVE COVER
CLOSED BOOK
OPEN BOOK
GREEN BOOK
BLUE BOOK
ORANGE BOOK
BOOKS
NAME BADGE
SCROLL
MEMO
TELEPHONE RECEIVER
PAGER
FAX MACHINE
SATELLITE ANTENNA
PUBLIC ADDRESS LOUDSPEAKER
CHEERING MEGAPHONE
OUTBOX TRAY
INBOX TRAY
PACKAGE
E-MAIL SYMBOL
INCOMING ENVELOPE
ENVELOPE WITH DOWNWARDS ARROW ABOVE
CLOSED MAILBOX WITH LOWERED FLAG
CLOSED MAILBOX WITH RAISED FLAG
OPEN MAILBOX WITH RAISED FLAG
OPEN MAILBOX WITH LOWERED FLAG
POSTBOX
POSTAL HORN
NEWSPAPER
MOBILE PHONE
MOBILE PHONE WITH RIGHTWARDS ARROW AT LEFT
VIBRATION MODE
MOBILE PHONE OFF
NO MOBILE PHONES
ANTENNA WITH BARS
CAMERA
CAMERA WITH FLASH
VIDEO CAMERA
TELEVISION
RADIO
VIDEOCASSETTE
FILM PROJECTOR
PORTABLE STEREO
PRAYER BEADS
TWISTED RIGHTWARDS ARROWS
CLOCKWISE RIGHTWARDS AND LEFTWARDS OPEN CIRCLE ARROWS
CLOCKWISE RIGHTWARDS AND LEFTWARDS OPEN CIRCLE ARROWS WITH CIRCLED ONE OVERLAY
CLOCKWISE DOWNWARDS AND UPWARDS OPEN CIRCLE ARROWS
ANTICLOCKWISE DOWNWARDS AND UPWARDS OPEN CIRCLE ARROWS
LOW BRIGHTNESS SYMBOL
HIGH BRIGHTNESS SYMBOL
SPEAKER WITH CANCELLATION STROKE
SPEAKER
SPEAKER WITH ONE SOUND WAVE
SPEAKER WITH THREE SOUND WAVES
BATTERY
ELECTRIC PLUG
LEFT-POINTING MAGNIFYING GLASS
RIGHT-POINTING MAGNIFYING GLASS
LOCK WITH INK PEN
CLOSED LOCK WITH KEY
KEY
LOCK
OPEN LOCK
BELL
BELL WITH CANCELLATION STROKE
BOOKMARK
LINK SYMBOL
RADIO BUTTON
BACK WITH LEFTWARDS ARROW ABOVE
END WITH LEFTWARDS ARROW ABOVE
ON WITH EXCLAMATION MARK WITH LEFT RIGHT ARROW ABOVE
SOON WITH RIGHTWARDS ARROW ABOVE
TOP WITH UPWARDS ARROW ABOVE
NO ONE UNDER EIGHTEEN SYMBOL
KEYCAP TEN
INPUT SYMBOL FOR LATIN CAPITAL LETTERS
INPUT SYMBOL FOR LATIN SMALL LETTERS
INPUT SYMBOL FOR NUMBERS
INPUT SYMBOL FOR SYMBOLS
INPUT SYMBOL FOR LATIN LETTERS
FIRE
ELECTRIC TORCH
WRENCH
HAMMER
NUT AND BOLT
HOCHO
PISTOL
MICROSCOPE
TELESCOPE
CRYSTAL BALL
SIX POINTED STAR WITH MIDDLE DOT
JAPANESE SYMBOL FOR BEGINNER
TRIDENT EMBLEM
BLACK SQUARE BUTTON
WHITE SQUARE BUTTON
LARGE RED CIRCLE
LARGE BLUE CIRCLE
LARGE ORANGE DIAMOND
LARGE BLUE DIAMOND
SMALL ORANGE DIAMOND
SMALL BLUE DIAMOND
UP-POINTING RED TRIANGLE
DOWN-POINTING RED TRIANGLE
UP-POINTING SMALL RED TRIANGLE
DOWN-POINTING SMALL RED TRIANGLE
LOWER RIGHT SHADOWED WHITE CIRCLE
UPPER RIGHT SHADOWED WHITE CIRCLE
CIRCLED CROSS POMMEE
CROSS POMMEE WITH HALF-CIRCLE BELOW
CROSS POMMEE
NOTCHED LEFT SEMICIRCLE WITH THREE DOTS
NOTCHED RIGHT SEMICIRCLE WITH THREE DOTS
SYMBOL FOR MARKS CHAPTER
WHITE LATIN CROSS
HEAVY LATIN CROSS
CELTIC CROSS
OM SYMBOL
DOVE OF PEACE
KAABA
MOSQUE
SYNAGOGUE
MENORAH WITH NINE BRANCHES
BOWL OF HYGIEIA
CLOCK FACE ONE OCLOCK
CLOCK FACE TWO OCLOCK
CLOCK FACE THREE OCLOCK
CLOCK FACE FOUR OCLOCK
CLOCK FACE FIVE OCLOCK
CLOCK FACE SIX OCLOCK
CLOCK FACE SEVEN OCLOCK
CLOCK FACE EIGHT OCLOCK
CLOCK FACE NINE OCLOCK
CLOCK FACE TEN OCLOCK
CLOCK FACE ELEVEN OCLOCK
CLOCK FACE TWELVE OCLOCK
CLOCK FACE ONE-THIRTY
CLOCK FACE TWO-THIRTY
CLOCK FACE THREE-THIRTY
CLOCK FACE FOUR-THIRTY
CLOCK FACE FIVE-THIRTY
CLOCK FACE SIX-THIRTY
CLOCK FACE SEVEN-THIRTY
CLOCK FACE EIGHT-THIRTY
CLOCK FACE NINE-THIRTY
CLOCK FACE TEN-THIRTY
CLOCK FACE ELEVEN-THIRTY
CLOCK FACE TWELVE-THIRTY
RIGHT SPEAKER
RIGHT SPEAKER WITH ONE SOUND WAVE
RIGHT SPEAKER WITH THREE SOUND WAVES
BULLHORN
BULLHORN WITH SOUND WAVES
RINGING BELL
BOOK
CANDLE
MANTELPIECE CLOCK
BLACK SKULL AND CROSSBONES
NO PIRACY
HOLE
MAN IN BUSINESS SUIT LEVITATING
SLEUTH OR SPY
DARK SUNGLASSES
SPIDER
SPIDER WEB
JOYSTICK
MAN DANCING
LEFT HAND TELEPHONE RECEIVER
TELEPHONE RECEIVER WITH PAGE
RIGHT HAND TELEPHONE RECEIVER
WHITE TOUCHTONE TELEPHONE
BLACK TOUCHTONE TELEPHONE
TELEPHONE ON TOP OF MODEM
CLAMSHELL MOBILE PHONE
BACK OF ENVELOPE
STAMPED ENVELOPE
ENVELOPE WITH LIGHTNING
FLYING ENVELOPE
PEN OVER STAMPED ENVELOPE
LINKED PAPERCLIPS
BLACK PUSHPIN
LOWER LEFT PENCIL
LOWER LEFT BALLPOINT PEN
LOWER LEFT FOUNTAIN PEN
LOWER LEFT PAINTBRUSH
LOWER LEFT CRAYON
LEFT WRITING HAND
TURNED OK HAND SIGN
RAISED HAND WITH FINGERS SPLAYED
REVERSED RAISED HAND WITH FINGERS SPLAYED
REVERSED THUMBS UP SIGN
REVERSED THUMBS DOWN SIGN
REVERSED VICTORY HAND
REVERSED HAND WITH MIDDLE FINGER EXTENDED
RAISED HAND WITH PART BETWEEN MIDDLE AND RING FINGERS
WHITE DOWN POINTING LEFT HAND INDEX
SIDEWAYS WHITE LEFT POINTING INDEX
SIDEWAYS WHITE RIGHT POINTING INDEX
SIDEWAYS BLACK LEFT POINTING INDEX
SIDEWAYS BLACK RIGHT POINTING INDEX
BLACK LEFT POINTING BACKHAND INDEX
BLACK RIGHT POINTING BACKHAND INDEX
SIDEWAYS WHITE UP POINTING INDEX
SIDEWAYS WHITE DOWN POINTING INDEX
SIDEWAYS BLACK UP POINTING INDEX
SIDEWAYS BLACK DOWN POINTING INDEX
BLACK UP POINTING BACKHAND INDEX
BLACK DOWN POINTING BACKHAND INDEX
BLACK HEART
DESKTOP COMPUTER
KEYBOARD AND MOUSE
THREE NETWORKED COMPUTERS
PRINTER
POCKET CALCULATOR
BLACK HARD SHELL FLOPPY DISK
WHITE HARD SHELL FLOPPY DISK
SOFT SHELL FLOPPY DISK
TAPE CARTRIDGE
WIRED KEYBOARD
ONE BUTTON MOUSE
TWO BUTTON MOUSE
THREE BUTTON MOUSE
TRACKBALL
OLD PERSONAL COMPUTER
HARD DISK
SCREEN
PRINTER ICON
FAX ICON
OPTICAL DISC ICON
DOCUMENT WITH TEXT
DOCUMENT WITH TEXT AND PICTURE
DOCUMENT WITH PICTURE
FRAME WITH PICTURE
FRAME WITH TILES
FRAME WITH AN X
BLACK FOLDER
FOLDER
OPEN FOLDER
CARD INDEX DIVIDERS
CARD FILE BOX
FILE CABINET
EMPTY NOTE
EMPTY NOTE PAGE
EMPTY NOTE PAD
NOTE
NOTE PAGE
NOTE PAD
EMPTY DOCUMENT
EMPTY PAGE
EMPTY PAGES
DOCUMENT
PAGE
PAGES
WASTEBASKET
SPIRAL NOTE PAD
SPIRAL CALENDAR PAD
DESKTOP WINDOW
MINIMIZE
MAXIMIZE
OVERLAP
CLOCKWISE RIGHT AND LEFT SEMICIRCLE ARROWS
CANCELLATION X
INCREASE FONT SIZE SYMBOL
DECREASE FONT SIZE SYMBOL
COMPRESSION
OLD KEY
ROLLED-UP NEWSPAPER
PAGE WITH CIRCLED TEXT
STOCK CHART
DAGGER KNIFE
LIPS
SPEAKING HEAD IN SILHOUETTE
THREE RAYS ABOVE
THREE RAYS BELOW
THREE RAYS LEFT
THREE RAYS RIGHT
LEFT SPEECH BUBBLE
RIGHT SPEECH BUBBLE
TWO SPEECH BUBBLES
THREE SPEECH BUBBLES
LEFT THOUGHT BUBBLE
RIGHT THOUGHT BUBBLE
LEFT ANGER BUBBLE
RIGHT ANGER BUBBLE
MOOD BUBBLE
LIGHTNING MOOD BUBBLE
LIGHTNING MOOD
BALLOT BOX WITH BALLOT
BALLOT SCRIPT X
BALLOT BOX WITH SCRIPT X
BALLOT BOLD SCRIPT X
BALLOT BOX WITH BOLD SCRIPT X
LIGHT CHECK MARK
BALLOT BOX WITH BOLD CHECK
WORLD MAP
MOUNT FUJI
TOKYO TOWER
STATUE OF LIBERTY
SILHOUETTE OF JAPAN
MOYAI
GRINNING FACE
GRINNING FACE WITH SMILING EYES
FACE WITH TEARS OF JOY
SMILING FACE WITH OPEN MOUTH
SMILING FACE WITH OPEN MOUTH AND SMILING EYES
SMILING FACE WITH OPEN MOUTH AND COLD SWEAT
SMILING FACE WITH OPEN MOUTH AND TIGHTLY-CLOSED EYES
SMILING FACE WITH HALO
SMILING FACE WITH HORNS
WINKING FACE
SMILING FACE WITH SMILING EYES
FACE SAVOURING DELICIOUS FOOD
RELIEVED FACE
SMILING FACE WITH HEART-SHAPED EYES
SMILING FACE WITH SUNGLASSES
SMIRKING FACE
NEUTRAL FACE
EXPRESSIONLESS FACE
UNAMUSED FACE
FACE WITH COLD SWEAT
PENSIVE FACE
CONFUSED FACE
CONFOUNDED FACE
KISSING FACE
FACE THROWING A KISS
KISSING FACE WITH SMILING EYES
KISSING FACE WITH CLOSED EYES
FACE WITH STUCK-OUT TONGUE
FACE WITH STUCK-OUT TONGUE AND WINKING EYE
FACE WITH STUCK-OUT TONGUE AND TIGHTLY-CLOSED EYES
DISAPPOINTED FACE
WORRIED FACE
ANGRY FACE
POUTING FACE
CRYING FACE
PERSEVERING FACE
FACE WITH LOOK OF TRIUMPH
DISAPPOINTED BUT RELIEVED FACE
FROWNING FACE WITH OPEN MOUTH
ANGUISHED FACE
FEARFUL FACE
WEARY FACE
SLEEPY FACE
TIRED FACE
GRIMACING FACE
LOUDLY CRYING FACE
FACE WITH OPEN MOUTH
HUSHED FACE
FACE WITH OPEN MOUTH AND COLD SWEAT
FACE SCREAMING IN FEAR
ASTONISHED FACE
FLUSHED FACE
SLEEPING FACE
DIZZY FACE
FACE WITHOUT MOUTH
FACE WITH MEDICAL MASK
GRINNING CAT FACE WITH SMILING EYES
CAT FACE WITH TEARS OF JOY
SMILING CAT FACE WITH OPEN MOUTH
SMILING CAT FACE WITH HEART-SHAPED EYES
CAT FACE WITH WRY SMILE
KISSING CAT FACE WITH CLOSED EYES
POUTING CAT FACE
CRYING CAT FACE
WEARY CAT FACE
SLIGHTLY FROWNING FACE
SLIGHTLY SMILING FACE
UPSIDE-DOWN FACE
FACE WITH ROLLING EYES
FACE WITH NO GOOD GESTURE
FACE WITH OK GESTURE
PERSON BOWING DEEPLY
SEE-NO-EVIL MONKEY
HEAR-NO-EVIL MONKEY
SPEAK-NO-EVIL MONKEY
HAPPY PERSON RAISING ONE HAND
PERSON RAISING BOTH HANDS IN CELEBRATION
PERSON FROWNING
PERSON WITH POUTING FACE
PERSON WITH FOLDED HANDS
NORTH WEST POINTING LEAF
SOUTH WEST POINTING LEAF
NORTH EAST POINTING LEAF
SOUTH EAST POINTING LEAF
TURNED NORTH WEST POINTING LEAF
TURNED SOUTH WEST POINTING LEAF
TURNED NORTH EAST POINTING LEAF
TURNED SOUTH EAST POINTING LEAF
NORTH WEST POINTING VINE LEAF
SOUTH WEST POINTING VINE LEAF
NORTH EAST POINTING VINE LEAF
SOUTH EAST POINTING VINE LEAF
HEAVY NORTH WEST POINTING VINE LEAF
HEAVY SOUTH WEST POINTING VINE LEAF
HEAVY NORTH EAST POINTING VINE LEAF
HEAVY SOUTH EAST POINTING VINE LEAF
NORTH WEST POINTING BUD
SOUTH WEST POINTING BUD
NORTH EAST POINTING BUD
SOUTH EAST POINTING BUD
HEAVY NORTH WEST POINTING BUD
HEAVY SOUTH WEST POINTING BUD
HEAVY NORTH EAST POINTING BUD
HEAVY SOUTH EAST POINTING BUD
HOLLOW QUILT SQUARE ORNAMENT
HOLLOW QUILT SQUARE ORNAMENT IN BLACK SQUARE
SOLID QUILT SQUARE ORNAMENT
SOLID QUILT SQUARE ORNAMENT IN BLACK SQUARE
LEFTWARDS ROCKET
UPWARDS ROCKET
RIGHTWARDS ROCKET
DOWNWARDS ROCKET
SCRIPT LIGATURE ET ORNAMENT
HEAVY SCRIPT LIGATURE ET ORNAMENT
LIGATURE OPEN ET ORNAMENT
HEAVY LIGATURE OPEN ET ORNAMENT
HEAVY AMPERSAND ORNAMENT
SWASH AMPERSAND ORNAMENT
SANS-SERIF HEAVY DOUBLE TURNED COMMA QUOTATION MARK ORNAMENT
SANS-SERIF HEAVY DOUBLE COMMA QUOTATION MARK ORNAMENT
SANS-SERIF HEAVY LOW DOUBLE COMMA QUOTATION MARK ORNAMENT
HEAVY INTERROBANG ORNAMENT
SANS-SERIF INTERROBANG ORNAMENT
HEAVY SANS-SERIF INTERROBANG ORNAMENT
VERY HEAVY SOLIDUS
VERY HEAVY REVERSE SOLIDUS
CHECKER BOARD
REVERSE CHECKER BOARD
ROCKET
HELICOPTER
STEAM LOCOMOTIVE
RAILWAY CAR
HIGH-SPEED TRAIN
HIGH-SPEED TRAIN WITH BULLET NOSE
TRAIN
METRO
LIGHT RAIL
STATION
TRAM
TRAM CAR
BUS
ONCOMING BUS
TROLLEYBUS
BUS STOP
MINIBUS
AMBULANCE
FIRE ENGINE
POLICE CAR
ONCOMING POLICE CAR
TAXI
ONCOMING TAXI
AUTOMOBILE
ONCOMING AUTOMOBILE
RECREATIONAL VEHICLE
DELIVERY TRUCK
ARTICULATED LORRY
TRACTOR
MONORAIL
MOUNTAIN RAILWAY
SUSPENSION RAILWAY
MOUNTAIN CABLEWAY
AERIAL TRAMWAY
SHIP
ROWBOAT
SPEEDBOAT
HORIZONTAL TRAFFIC LIGHT
VERTICAL TRAFFIC LIGHT
CONSTRUCTION SIGN
POLICE CARS REVOLVING LIGHT
TRIANGULAR FLAG ON POST
DOOR
NO ENTRY SIGN
SMOKING SYMBOL
NO SMOKING SYMBOL
PUT LITTER IN ITS PLACE SYMBOL
DO NOT LITTER SYMBOL
POTABLE WATER SYMBOL
NON-POTABLE WATER SYMBOL
BICYCLE
NO BICYCLES
BICYCLIST
MOUNTAIN BICYCLIST
PEDESTRIAN
NO PEDESTRIANS
CHILDREN CROSSING
MENS SYMBOL
WOMENS SYMBOL
RESTROOM
BABY SYMBOL
TOILET
WATER CLOSET
SHOWER
BATH
BATHTUB
PASSPORT CONTROL
CUSTOMS
BAGGAGE CLAIM
LEFT LUGGAGE
TRIANGLE WITH ROUNDED CORNERS
PROHIBITED SIGN
CIRCLED INFORMATION SOURCE
BOYS SYMBOL
GIRLS SYMBOL
COUCH AND LAMP
SLEEPING ACCOMMODATION
SHOPPING BAGS
BELLHOP BELL
BED
PLACE OF WORSHIP
OCTAGONAL SIGN
SHOPPING TROLLEY
STUPA
PAGODA
HINDU TEMPLE
HUT
ELEVATOR"

def picturesB : String := "@1F6DD
PLAYGROUND SLIDE
WHEEL
RING BUOY
HAMMER AND WRENCH
SHIELD
OIL DRUM
MOTORWAY
RAILWAY TRACK
MOTOR BOAT
UP-POINTING MILITARY AIRPLANE
UP-POINTING AIRPLANE
UP-POINTING SMALL AIRPLANE
SMALL AIRPLANE
NORTHEAST-POINTING AIRPLANE
AIRPLANE DEPARTURE
AIRPLANE ARRIVING
@1F6F0
SATELLITE
ONCOMING FIRE ENGINE
DIESEL LOCOMOTIVE
PASSENGER SHIP
SCOOTER
MOTOR SCOOTER
CANOE
SLED
FLYING SAUCER
SKATEBOARD
AUTO RICKSHAW
PICKUP TRUCK
ROLLER SKATE
@1F700
ALCHEMICAL SYMBOL FOR QUINTESSENCE
ALCHEMICAL SYMBOL FOR AIR
ALCHEMICAL SYMBOL FOR FIRE
ALCHEMICAL SYMBOL FOR EARTH
ALCHEMICAL SYMBOL FOR WATER
ALCHEMICAL SYMBOL FOR AQUAFORTIS
ALCHEMICAL SYMBOL FOR AQUA REGIA
ALCHEMICAL SYMBOL FOR AQUA REGIA-2
ALCHEMICAL SYMBOL FOR AQUA VITAE
ALCHEMICAL SYMBOL FOR AQUA VITAE-2
ALCHEMICAL SYMBOL FOR VINEGAR
ALCHEMICAL SYMBOL FOR VINEGAR-2
ALCHEMICAL SYMBOL FOR VINEGAR-3
ALCHEMICAL SYMBOL FOR SULFUR
ALCHEMICAL SYMBOL FOR PHILOSOPHERS SULFUR
ALCHEMICAL SYMBOL FOR BLACK SULFUR
ALCHEMICAL SYMBOL FOR MERCURY SUBLIMATE
ALCHEMICAL SYMBOL FOR MERCURY SUBLIMATE-2
ALCHEMICAL SYMBOL FOR MERCURY SUBLIMATE-3
ALCHEMICAL SYMBOL FOR CINNABAR
ALCHEMICAL SYMBOL FOR SALT
ALCHEMICAL SYMBOL FOR NITRE
ALCHEMICAL SYMBOL FOR VITRIOL
ALCHEMICAL SYMBOL FOR VITRIOL-2
ALCHEMICAL SYMBOL FOR ROCK SALT
ALCHEMICAL SYMBOL FOR ROCK SALT-2
ALCHEMICAL SYMBOL FOR GOLD
ALCHEMICAL SYMBOL FOR SILVER
ALCHEMICAL SYMBOL FOR IRON ORE
ALCHEMICAL SYMBOL FOR IRON ORE-2
ALCHEMICAL SYMBOL FOR CROCUS OF IRON
ALCHEMICAL SYMBOL FOR REGULUS OF IRON
ALCHEMICAL SYMBOL FOR COPPER ORE
ALCHEMICAL SYMBOL FOR IRON-COPPER ORE
ALCHEMICAL SYMBOL FOR SUBLIMATE OF COPPER
ALCHEMICAL SYMBOL FOR CROCUS OF COPPER
ALCHEMICAL SYMBOL FOR CROCUS OF COPPER-2
ALCHEMICAL SYMBOL FOR COPPER ANTIMONIATE
ALCHEMICAL SYMBOL FOR SALT OF COPPER ANTIMONIATE
ALCHEMICAL SYMBOL FOR SUBLIMATE OF SALT OF COPPER
ALCHEMICAL SYMBOL FOR VERDIGRIS
ALCHEMICAL SYMBOL FOR TIN ORE
ALCHEMICAL SYMBOL FOR LEAD ORE
ALCHEMICAL SYMBOL FOR ANTIMONY ORE
ALCHEMICAL SYMBOL FOR SUBLIMATE OF ANTIMONY
ALCHEMICAL SYMBOL FOR SALT OF ANTIMONY
ALCHEMICAL SYMBOL FOR SUBLIMATE OF SALT OF ANTIMONY
ALCHEMICAL SYMBOL FOR VINEGAR OF ANTIMONY
ALCHEMICAL SYMBOL FOR REGULUS OF ANTIMONY
ALCHEMICAL SYMBOL FOR REGULUS OF ANTIMONY-2
ALCHEMICAL SYMBOL FOR REGULUS
ALCHEMICAL SYMBOL FOR REGULUS-2
ALCHEMICAL SYMBOL FOR REGULUS-3
ALCHEMICAL SYMBOL FOR REGULUS-4
ALCHEMICAL SYMBOL FOR ALKALI
ALCHEMICAL SYMBOL FOR ALKALI-2
ALCHEMICAL SYMBOL FOR MARCASITE
ALCHEMICAL SYMBOL FOR SAL-AMMONIAC
ALCHEMICAL SYMBOL FOR ARSENIC
ALCHEMICAL SYMBOL FOR REALGAR
ALCHEMICAL SYMBOL FOR REALGAR-2
ALCHEMICAL SYMBOL FOR AURIPIGMENT
ALCHEMICAL SYMBOL FOR BISMUTH ORE
ALCHEMICAL SYMBOL FOR TARTAR
ALCHEMICAL SYMBOL FOR TARTAR-2
ALCHEMICAL SYMBOL FOR QUICK LIME
ALCHEMICAL SYMBOL FOR BORAX
ALCHEMICAL SYMBOL FOR BORAX-2
ALCHEMICAL SYMBOL FOR BORAX-3
ALCHEMICAL SYMBOL FOR ALUM
ALCHEMICAL SYMBOL FOR OIL
ALCHEMICAL SYMBOL FOR SPIRIT
ALCHEMICAL SYMBOL FOR TINCTURE
ALCHEMICAL SYMBOL FOR GUM
ALCHEMICAL SYMBOL FOR WAX
ALCHEMICAL SYMBOL FOR POWDER
ALCHEMICAL SYMBOL FOR CALX
ALCHEMICAL SYMBOL FOR TUTTY
ALCHEMICAL SYMBOL FOR CAPUT MORTUUM
ALCHEMICAL SYMBOL FOR SCEPTER OF JOVE
ALCHEMICAL SYMBOL FOR CADUCEUS
ALCHEMICAL SYMBOL FOR TRIDENT
ALCHEMICAL SYMBOL FOR STARRED TRIDENT
ALCHEMICAL SYMBOL FOR LODESTONE
ALCHEMICAL SYMBOL FOR SOAP
ALCHEMICAL SYMBOL FOR URINE
ALCHEMICAL SYMBOL FOR HORSE DUNG
ALCHEMICAL SYMBOL FOR ASHES
ALCHEMICAL SYMBOL FOR POT ASHES
ALCHEMICAL SYMBOL FOR BRICK
ALCHEMICAL SYMBOL FOR POWDERED BRICK
ALCHEMICAL SYMBOL FOR AMALGAM
ALCHEMICAL SYMBOL FOR STRATUM SUPER STRATUM
ALCHEMICAL SYMBOL FOR STRATUM SUPER STRATUM-2
ALCHEMICAL SYMBOL FOR SUBLIMATION
ALCHEMICAL SYMBOL FOR PRECIPITATE
ALCHEMICAL SYMBOL FOR DISTILL
ALCHEMICAL SYMBOL FOR DISSOLVE
ALCHEMICAL SYMBOL FOR DISSOLVE-2
ALCHEMICAL SYMBOL FOR PURIFY
ALCHEMICAL SYMBOL FOR PUTREFACTION
ALCHEMICAL SYMBOL FOR CRUCIBLE
ALCHEMICAL SYMBOL FOR CRUCIBLE-2
ALCHEMICAL SYMBOL FOR CRUCIBLE-3
ALCHEMICAL SYMBOL FOR CRUCIBLE-4
ALCHEMICAL SYMBOL FOR CRUCIBLE-5
ALCHEMICAL SYMBOL FOR ALEMBIC
ALCHEMICAL SYMBOL FOR BATH OF MARY
ALCHEMICAL SYMBOL FOR BATH OF VAPOURS
ALCHEMICAL SYMBOL FOR RETORT
ALCHEMICAL SYMBOL FOR HOUR
ALCHEMICAL SYMBOL FOR NIGHT
ALCHEMICAL SYMBOL FOR DAY-NIGHT
ALCHEMICAL SYMBOL FOR MONTH
ALCHEMICAL SYMBOL FOR HALF DRAM
ALCHEMICAL SYMBOL FOR HALF OUNCE
@1F780
BLACK LEFT-POINTING ISOSCELES RIGHT TRIANGLE
BLACK UP-POINTING ISOSCELES RIGHT TRIANGLE
BLACK RIGHT-POINTING ISOSCELES RIGHT TRIANGLE
BLACK DOWN-POINTING ISOSCELES RIGHT TRIANGLE
BLACK SLIGHTLY SMALL CIRCLE
MEDIUM BOLD WHITE CIRCLE
BOLD WHITE CIRCLE
HEAVY WHITE CIRCLE
VERY HEAVY WHITE CIRCLE
EXTREMELY HEAVY WHITE CIRCLE
WHITE CIRCLE CONTAINING BLACK SMALL CIRCLE
ROUND TARGET
BLACK TINY SQUARE
BLACK SLIGHTLY SMALL SQUARE
LIGHT WHITE SQUARE
MEDIUM WHITE SQUARE
BOLD WHITE SQUARE
HEAVY WHITE SQUARE
VERY HEAVY WHITE SQUARE
EXTREMELY HEAVY WHITE SQUARE
WHITE SQUARE CONTAINING BLACK VERY SMALL SQUARE
WHITE SQUARE CONTAINING BLACK MEDIUM SQUARE
SQUARE TARGET
BLACK TINY DIAMOND
BLACK VERY SMALL DIAMOND
BLACK MEDIUM SMALL DIAMOND
WHITE DIAMOND CONTAINING BLACK VERY SMALL DIAMOND
WHITE DIAMOND CONTAINING BLACK MEDIUM DIAMOND
DIAMOND TARGET
BLACK TINY LOZENGE
BLACK VERY SMALL LOZENGE
BLACK MEDIUM SMALL LOZENGE
WHITE LOZENGE CONTAINING BLACK SMALL LOZENGE
THIN GREEK CROSS
LIGHT GREEK CROSS
MEDIUM GREEK CROSS
BOLD GREEK CROSS
VERY BOLD GREEK CROSS
VERY HEAVY GREEK CROSS
EXTREMELY HEAVY GREEK CROSS
THIN SALTIRE
LIGHT SALTIRE
MEDIUM SALTIRE
BOLD SALTIRE
HEAVY SALTIRE
VERY HEAVY SALTIRE
EXTREMELY HEAVY SALTIRE
LIGHT FIVE SPOKED ASTERISK
MEDIUM FIVE SPOKED ASTERISK
BOLD FIVE SPOKED ASTERISK
HEAVY FIVE SPOKED ASTERISK
VERY HEAVY FIVE SPOKED ASTERISK
EXTREMELY HEAVY FIVE SPOKED ASTERISK
LIGHT SIX SPOKED ASTERISK
MEDIUM SIX SPOKED ASTERISK
BOLD SIX SPOKED ASTERISK
HEAVY SIX SPOKED ASTERISK
VERY HEAVY SIX SPOKED ASTERISK
EXTREMELY HEAVY SIX SPOKED ASTERISK
LIGHT EIGHT SPOKED ASTERISK
MEDIUM EIGHT SPOKED ASTERISK
BOLD EIGHT SPOKED ASTERISK
HEAVY EIGHT SPOKED ASTERISK
VERY HEAVY EIGHT SPOKED ASTERISK
LIGHT THREE POINTED BLACK STAR
MEDIUM THREE POINTED BLACK STAR
THREE POINTED BLACK STAR
MEDIUM THREE POINTED PINWHEEL STAR
LIGHT FOUR POINTED BLACK STAR
MEDIUM FOUR POINTED BLACK STAR
FOUR POINTED BLACK STAR
MEDIUM FOUR POINTED PINWHEEL STAR
REVERSE LIGHT FOUR POINTED PINWHEEL STAR
LIGHT FIVE POINTED BLACK STAR
HEAVY FIVE POINTED BLACK STAR
MEDIUM SIX POINTED BLACK STAR
HEAVY SIX POINTED BLACK STAR
SIX POINTED PINWHEEL STAR
MEDIUM EIGHT POINTED BLACK STAR
HEAVY EIGHT POINTED BLACK STAR
VERY HEAVY EIGHT POINTED BLACK STAR
HEAVY EIGHT POINTED PINWHEEL STAR
LIGHT TWELVE POINTED BLACK STAR
HEAVY TWELVE POINTED BLACK STAR
HEAVY TWELVE POINTED PINWHEEL STAR
CIRCLED TRIANGLE
NEGATIVE CIRCLED TRIANGLE
CIRCLED SQUARE
NEGATIVE CIRCLED SQUARE
@1F7E0
LARGE ORANGE CIRCLE
LARGE YELLOW CIRCLE
LARGE GREEN CIRCLE
LARGE PURPLE CIRCLE
LARGE BROWN CIRCLE
LARGE RED SQUARE
LARGE BLUE SQUARE
LARGE ORANGE SQUARE
LARGE YELLOW SQUARE
LARGE GREEN SQUARE
LARGE PURPLE SQUARE
LARGE BROWN SQUARE
@1F7F0
HEAVY EQUALS SIGN
@1F800
LEFTWARDS ARROW WITH SMALL TRIANGLE ARROWHEAD
UPWARDS ARROW WITH SMALL TRIANGLE ARROWHEAD
RIGHTWARDS ARROW WITH SMALL TRIANGLE ARROWHEAD
DOWNWARDS ARROW WITH SMALL TRIANGLE ARROWHEAD
LEFTWARDS ARROW WITH MEDIUM TRIANGLE ARROWHEAD
UPWARDS ARROW WITH MEDIUM TRIANGLE ARROWHEAD
RIGHTWARDS ARROW WITH MEDIUM TRIANGLE ARROWHEAD
DOWNWARDS ARROW WITH MEDIUM TRIANGLE ARROWHEAD
LEFTWARDS ARROW WITH LARGE TRIANGLE ARROWHEAD
UPWARDS ARROW WITH LARGE TRIANGLE ARROWHEAD
RIGHTWARDS ARROW WITH LARGE TRIANGLE ARROWHEAD
DOWNWARDS ARROW WITH LARGE TRIANGLE ARROWHEAD
@1F810
LEFTWARDS ARROW WITH SMALL EQUILATERAL ARROWHEAD
UPWARDS ARROW WITH SMALL EQUILATERAL ARROWHEAD
RIGHTWARDS ARROW WITH SMALL EQUILATERAL ARROWHEAD
DOWNWARDS ARROW WITH SMALL EQUILATERAL ARROWHEAD
LEFTWARDS ARROW WITH EQUILATERAL ARROWHEAD
UPWARDS ARROW WITH EQUILATERAL ARROWHEAD
RIGHTWARDS ARROW WITH EQUILATERAL ARROWHEAD
DOWNWARDS ARROW WITH EQUILATERAL ARROWHEAD
HEAVY LEFTWARDS ARROW WITH EQUILATERAL ARROWHEAD
HEAVY UPWARDS ARROW WITH EQUILATERAL ARROWHEAD
HEAVY RIGHTWARDS ARROW WITH EQUILATERAL ARROWHEAD
HEAVY DOWNWARDS ARROW WITH EQUILATERAL ARROWHEAD
HEAVY LEFTWARDS ARROW WITH LARGE EQUILATERAL ARROWHEAD
HEAVY UPWARDS ARROW WITH LARGE EQUILATERAL ARROWHEAD
HEAVY RIGHTWARDS ARROW WITH LARGE EQUILATERAL ARROWHEAD
HEAVY DOWNWARDS ARROW WITH LARGE EQUILATERAL ARROWHEAD
LEFTWARDS TRIANGLE-HEADED ARROW WITH NARROW SHAFT
UPWARDS TRIANGLE-HEADED ARROW WITH NARROW SHAFT
RIGHTWARDS TRIANGLE-HEADED ARROW WITH NARROW SHAFT
DOWNWARDS TRIANGLE-HEADED ARROW WITH NARROW SHAFT
LEFTWARDS TRIANGLE-HEADED ARROW WITH MEDIUM SHAFT
UPWARDS TRIANGLE-HEADED ARROW WITH MEDIUM SHAFT
RIGHTWARDS TRIANGLE-HEADED ARROW WITH MEDIUM SHAFT
DOWNWARDS TRIANGLE-HEADED ARROW WITH MEDIUM SHAFT
LEFTWARDS TRIANGLE-HEADED ARROW WITH BOLD SHAFT
UPWARDS TRIANGLE-HEADED ARROW WITH BOLD SHAFT
RIGHTWARDS TRIANGLE-HEADED ARROW WITH BOLD SHAFT
DOWNWARDS TRIANGLE-HEADED ARROW WITH BOLD SHAFT
LEFTWARDS TRIANGLE-HEADED ARROW WITH HEAVY SHAFT
UPWARDS TRIANGLE-HEADED ARROW WITH HEAVY SHAFT
RIGHTWARDS TRIANGLE-HEADED ARROW WITH HEAVY SHAFT
DOWNWARDS TRIANGLE-HEADED ARROW WITH HEAVY SHAFT
LEFTWARDS TRIANGLE-HEADED ARROW WITH VERY HEAVY SHAFT
UPWARDS TRIANGLE-HEADED ARROW WITH VERY HEAVY SHAFT
RIGHTWARDS TRIANGLE-HEADED ARROW WITH VERY HEAVY SHAFT
DOWNWARDS TRIANGLE-HEADED ARROW WITH VERY HEAVY SHAFT
LEFTWARDS FINGER-POST ARROW
UPWARDS FINGER-POST ARROW
RIGHTWARDS FINGER-POST ARROW
DOWNWARDS FINGER-POST ARROW
LEFTWARDS SQUARED ARROW
UPWARDS SQUARED ARROW
RIGHTWARDS SQUARED ARROW
DOWNWARDS SQUARED ARROW
LEFTWARDS COMPRESSED ARROW
UPWARDS COMPRESSED ARROW
RIGHTWARDS COMPRESSED ARROW
DOWNWARDS COMPRESSED ARROW
LEFTWARDS HEAVY COMPRESSED ARROW
UPWARDS HEAVY COMPRESSED ARROW
RIGHTWARDS HEAVY COMPRESSED ARROW
DOWNWARDS HEAVY COMPRESSED ARROW
LEFTWARDS HEAVY ARROW
UPWARDS HEAVY ARROW
RIGHTWARDS HEAVY ARROW
DOWNWARDS HEAVY ARROW
@1F850
LEFTWARDS SANS-SERIF ARROW
UPWARDS SANS-SERIF ARROW
RIGHTWARDS SANS-SERIF ARROW
DOWNWARDS SANS-SERIF ARROW
NORTH WEST SANS-SERIF ARROW
NORTH EAST SANS-SERIF ARROW
SOUTH EAST SANS-SERIF ARROW
SOUTH WEST SANS-SERIF ARROW
LEFT RIGHT SANS-SERIF ARROW
UP DOWN SANS-SERIF ARROW
@1F860
WIDE-HEADED LEFTWARDS LIGHT BARB ARROW
WIDE-HEADED UPWARDS LIGHT BARB ARROW
WIDE-HEADED RIGHTWARDS LIGHT BARB ARROW
WIDE-HEADED DOWNWARDS LIGHT BARB ARROW
WIDE-HEADED NORTH WEST LIGHT BARB ARROW
WIDE-HEADED NORTH EAST LIGHT BARB ARROW
WIDE-HEADED SOUTH EAST LIGHT BARB ARROW
WIDE-HEADED SOUTH WEST LIGHT BARB ARROW
WIDE-HEADED LEFTWARDS BARB ARROW
WIDE-HEADED UPWARDS BARB ARROW
WIDE-HEADED RIGHTWARDS BARB ARROW
WIDE-HEADED DOWNWARDS BARB ARROW
WIDE-HEADED NORTH WEST BARB ARROW
WIDE-HEADED NORTH EAST BARB ARROW
WIDE-HEADED SOUTH EAST BARB ARROW
WIDE-HEADED SOUTH WEST BARB ARROW
WIDE-HEADED LEFTWARDS MEDIUM BARB ARROW
WIDE-HEADED UPWARDS MEDIUM BARB ARROW
WIDE-HEADED RIGHTWARDS MEDIUM BARB ARROW
WIDE-HEADED DOWNWARDS MEDIUM BARB ARROW
WIDE-HEADED NORTH WEST MEDIUM BARB ARROW
WIDE-HEADED NORTH EAST MEDIUM BARB ARROW
WIDE-HEADED SOUTH EAST MEDIUM BARB ARROW
WIDE-HEADED SOUTH WEST MEDIUM BARB ARROW
WIDE-HEADED LEFTWARDS HEAVY BARB ARROW
WIDE-HEADED UPWARDS HEAVY BARB ARROW
WIDE-HEADED RIGHTWARDS HEAVY BARB ARROW
WIDE-HEADED DOWNWARDS HEAVY BARB ARROW
WIDE-HEADED NORTH WEST HEAVY BARB ARROW
WIDE-HEADED NORTH EAST HEAVY BARB ARROW
WIDE-HEADED SOUTH EAST HEAVY BARB ARROW
WIDE-HEADED SOUTH WEST HEAVY BARB ARROW
WIDE-HEADED LEFTWARDS VERY HEAVY BARB ARROW
WIDE-HEADED UPWARDS VERY HEAVY BARB ARROW
WIDE-HEADED RIGHTWARDS VERY HEAVY BARB ARROW
WIDE-HEADED DOWNWARDS VERY HEAVY BARB ARROW
WIDE-HEADED NORTH WEST VERY HEAVY BARB ARROW
WIDE-HEADED NORTH EAST VERY HEAVY BARB ARROW
WIDE-HEADED SOUTH EAST VERY HEAVY BARB ARROW
WIDE-HEADED SOUTH WEST VERY HEAVY BARB ARROW
@1F890
LEFTWARDS TRIANGLE ARROWHEAD
UPWARDS TRIANGLE ARROWHEAD
RIGHTWARDS TRIANGLE ARROWHEAD
DOWNWARDS TRIANGLE ARROWHEAD
LEFTWARDS WHITE ARROW WITHIN TRIANGLE ARROWHEAD
UPWARDS WHITE ARROW WITHIN TRIANGLE ARROWHEAD
RIGHTWARDS WHITE ARROW WITHIN TRIANGLE ARROWHEAD
DOWNWARDS WHITE ARROW WITHIN TRIANGLE ARROWHEAD
LEFTWARDS ARROW WITH NOTCHED TAIL
UPWARDS ARROW WITH NOTCHED TAIL
RIGHTWARDS ARROW WITH NOTCHED TAIL
DOWNWARDS ARROW WITH NOTCHED TAIL
HEAVY ARROW SHAFT WIDTH ONE
HEAVY ARROW SHAFT WIDTH TWO THIRDS
HEAVY ARROW SHAFT WIDTH ONE HALF
HEAVY ARROW SHAFT WIDTH ONE THIRD
LEFTWARDS BOTTOM-SHADED WHITE ARROW
RIGHTWARDS BOTTOM SHADED WHITE ARROW
LEFTWARDS TOP SHADED WHITE ARROW
RIGHTWARDS TOP SHADED WHITE ARROW
LEFTWARDS LEFT-SHADED WHITE ARROW
RIGHTWARDS RIGHT-SHADED WHITE ARROW
LEFTWARDS RIGHT-SHADED WHITE ARROW
RIGHTWARDS LEFT-SHADED WHITE ARROW
LEFTWARDS BACK-TILTED SHADOWED WHITE ARROW
RIGHTWARDS BACK-TILTED SHADOWED WHITE ARROW
LEFTWARDS FRONT-TILTED SHADOWED WHITE ARROW
RIGHTWARDS FRONT-TILTED SHADOWED WHITE ARROW
WHITE ARROW SHAFT WIDTH ONE
WHITE ARROW SHAFT WIDTH TWO THIRDS
@1F8B0
ARROW POINTING UPWARDS THEN NORTH WEST
ARROW POINTING RIGHTWARDS THEN CURVING SOUTH WEST
@1F900
CIRCLED CROSS FORMEE WITH FOUR DOTS
CIRCLED CROSS FORMEE WITH TWO DOTS
CIRCLED CROSS FORMEE
LEFT HALF CIRCLE WITH FOUR DOTS
LEFT HALF CIRCLE WITH THREE DOTS
LEFT HALF CIRCLE WITH TWO DOTS
LEFT HALF CIRCLE WITH DOT
LEFT HALF CIRCLE
DOWNWARD FACING HOOK
DOWNWARD FACING NOTCHED HOOK
DOWNWARD FACING HOOK WITH DOT
DOWNWARD FACING NOTCHED HOOK WITH DOT
PINCHED FINGERS
WHITE HEART
BROWN HEART
PINCHING HAND
ZIPPER-MOUTH FACE
MONEY-MOUTH FACE
FACE WITH THERMOMETER
NERD FACE
THINKING FACE
FACE WITH HEAD-BANDAGE
ROBOT FACE
HUGGING FACE
SIGN OF THE HORNS
CALL ME HAND
RAISED BACK OF HAND
LEFT-FACING FIST
RIGHT-FACING FIST
HANDSHAKE
HAND WITH INDEX AND MIDDLE FINGERS CROSSED
I LOVE YOU HAND SIGN
FACE WITH COWBOY HAT
CLOWN FACE
NAUSEATED FACE
ROLLING ON THE FLOOR LAUGHING
DROOLING FACE
LYING FACE
FACE PALM
SNEEZING FACE
FACE WITH ONE EYEBROW RAISED
GRINNING FACE WITH STAR EYES
GRINNING FACE WITH ONE LARGE AND ONE SMALL EYE
FACE WITH FINGER COVERING CLOSED LIPS
SERIOUS FACE WITH SYMBOLS COVERING MOUTH
SMILING FACE WITH SMILING EYES AND HAND COVERING MOUTH
FACE WITH OPEN MOUTH VOMITING
SHOCKED FACE WITH EXPLODING HEAD
PREGNANT WOMAN
BREAST-FEEDING
PALMS UP TOGETHER
SELFIE
PRINCE
MAN IN TUXEDO
MOTHER CHRISTMAS
SHRUG
PERSON DOING CARTWHEEL
JUGGLING
FENCER
MODERN PENTATHLON
WRESTLERS
WATER POLO
HANDBALL
DIVING MASK
WILTED FLOWER
DRUM WITH DRUMSTICKS
CLINKING GLASSES
TUMBLER GLASS
SPOON
GOAL NET
RIFLE
FIRST PLACE MEDAL
SECOND PLACE MEDAL
THIRD PLACE MEDAL
BOXING GLOVE
MARTIAL ARTS UNIFORM
CURLING STONE
LACROSSE STICK AND BALL
SOFTBALL
FLYING DISC
CROISSANT
AVOCADO
CUCUMBER
BACON
POTATO
CARROT
BAGUETTE BREAD
GREEN SALAD
SHALLOW PAN OF FOOD
STUFFED FLATBREAD
EGG
GLASS OF MILK
PEANUTS
KIWIFRUIT
PANCAKES
DUMPLING
FORTUNE COOKIE
TAKEOUT BOX
CHOPSTICKS
BOWL WITH SPOON
CUP WITH STRAW
COCONUT
BROCCOLI
PIE
PRETZEL
CUT OF MEAT
SANDWICH
CANNED FOOD
LEAFY GREEN
MANGO
MOON CAKE
BAGEL
SMILING FACE WITH SMILING EYES AND THREE HEARTS
YAWNING FACE
SMILING FACE WITH TEAR
FACE WITH PARTY HORN AND PARTY HAT
FACE WITH UNEVEN EYES AND WAVY MOUTH
OVERHEATED FACE
FREEZING FACE
NINJA
DISGUISED FACE
FACE HOLDING BACK TEARS
FACE WITH PLEADING EYES
SARI
LAB COAT
GOGGLES
HIKING BOOT
FLAT SHOE
CRAB
LION FACE
SCORPION
TURKEY
UNICORN FACE
EAGLE
DUCK
BAT
SHARK
OWL
FOX FACE
BUTTERFLY
DEER
GORILLA
LIZARD
RHINOCEROS
SHRIMP
SQUID
GIRAFFE FACE
ZEBRA FACE
HEDGEHOG
SAUROPOD
T-REX
CRICKET
KANGAROO
LLAMA
PEACOCK
HIPPOPOTAMUS
PARROT
RACCOON
LOBSTER
MOSQUITO
MICROBE
BADGER
SWAN
MAMMOTH
DODO
SLOTH
OTTER
ORANGUTAN
SKUNK
FLAMINGO
OYSTER
BEAVER
BISON
SEAL
GUIDE DOG
PROBING CANE
EMOJI COMPONENT RED HAIR
EMOJI COMPONENT CURLY HAIR
EMOJI COMPONENT BALD
EMOJI COMPONENT WHITE HAIR
BONE
LEG
FOOT
TOOTH
SUPERHERO
SUPERVILLAIN
SAFETY VEST
EAR WITH HEARING AID
MOTORIZED WHEELCHAIR
MANUAL WHEELCHAIR
MECHANICAL ARM
MECHANICAL LEG
CHEESE WEDGE
CUPCAKE
SALT SHAKER
BEVERAGE BOX
GARLIC
ONION
FALAFEL
WAFFLE
BUTTER
MATE DRINK
ICE CUBE
BUBBLE TEA
TROLL
STANDING PERSON
KNEELING PERSON
DEAF PERSON
FACE WITH MONOCLE
ADULT
CHILD
OLDER ADULT
BEARDED PERSON
PERSON WITH HEADSCARF
PERSON IN STEAMY ROOM
PERSON CLIMBING
PERSON IN LOTUS POSITION
MAGE
FAIRY
VAMPIRE
MERPERSON
ELF
GENIE
ZOMBIE
BRAIN
ORANGE HEART
BILLED CAP
SCARF
GLOVES
COAT
SOCKS
RED GIFT ENVELOPE
FIRECRACKER
JIGSAW PUZZLE PIECE
TEST TUBE
PETRI DISH
DNA DOUBLE HELIX
COMPASS
ABACUS
FIRE EXTINGUISHER
TOOLBOX
BRICK
MAGNET
LUGGAGE
LOTION BOTTLE
SPOOL OF THREAD
BALL OF YARN
SAFETY PIN
TEDDY BEAR
BROOM
BASKET
ROLL OF PAPER
BAR OF SOAP
SPONGE
RECEIPT
NAZAR AMULET
NEUTRAL CHESS KING
NEUTRAL CHESS QUEEN
NEUTRAL CHESS ROOK
NEUTRAL CHESS BISHOP
NEUTRAL CHESS KNIGHT
NEUTRAL CHESS PAWN
WHITE CHESS KNIGHT ROTATED FORTY-FIVE DEGREES
BLACK CHESS KNIGHT ROTATED FORTY-FIVE DEGREES
NEUTRAL CHESS KNIGHT ROTATED FORTY-FIVE DEGREES
WHITE CHESS KING ROTATED NINETY DEGREES
WHITE CHESS QUEEN ROTATED NINETY DEGREES
WHITE CHESS ROOK ROTATED NINETY DEGREES
WHITE CHESS BISHOP ROTATED NINETY DEGREES
WHITE CHESS KNIGHT ROTATED NINETY DEGREES
WHITE CHESS PAWN ROTATED NINETY DEGREES
BLACK CHESS KING ROTATED NINETY DEGREES
BLACK CHESS QUEEN ROTATED NINETY DEGREES
BLACK CHESS ROOK ROTATED NINETY DEGREES
BLACK CHESS BISHOP ROTATED NINETY DEGREES
BLACK CHESS KNIGHT ROTATED NINETY DEGREES
BLACK CHESS PAWN ROTATED NINETY DEGREES
NEUTRAL CHESS KING ROTATED NINETY DEGREES
NEUTRAL CHESS QUEEN ROTATED NINETY DEGREES
NEUTRAL CHESS ROOK ROTATED NINETY DEGREES
NEUTRAL CHESS BISHOP ROTATED NINETY DEGREES
NEUTRAL CHESS KNIGHT ROTATED NINETY DEGREES
NEUTRAL CHESS PAWN ROTATED NINETY DEGREES
WHITE CHESS KNIGHT ROTATED ONE HUNDRED THIRTY-FIVE DEGREES
BLACK CHESS KNIGHT ROTATED ONE HUNDRED THIRTY-FIVE DEGREES
NEUTRAL CHESS KNIGHT ROTATED ONE HUNDRED THIRTY-FIVE DEGREES
WHITE CHESS TURNED KING
WHITE CHESS TURNED QUEEN
WHITE CHESS TURNED ROOK
WHITE CHESS TURNED BISHOP
WHITE CHESS TURNED KNIGHT
WHITE CHESS TURNED PAWN
BLACK CHESS TURNED KING
BLACK CHESS TURNED QUEEN
BLACK CHESS TURNED ROOK
BLACK CHESS TURNED BISHOP
BLACK CHESS TURNED KNIGHT
BLACK CHESS TURNED PAWN
NEUTRAL CHESS TURNED KING
NEUTRAL CHESS TURNED QUEEN
NEUTRAL CHESS TURNED ROOK
NEUTRAL CHESS TURNED BISHOP
NEUTRAL CHESS TURNED KNIGHT
NEUTRAL CHESS TURNED PAWN
WHITE CHESS KNIGHT ROTATED TWO HUNDRED TWENTY-FIVE DEGREES
BLACK CHESS KNIGHT ROTATED TWO HUNDRED TWENTY-FIVE DEGREES
NEUTRAL CHESS KNIGHT ROTATED TWO HUNDRED TWENTY-FIVE DEGREES
WHITE CHESS KING ROTATED TWO HUNDRED SEVENTY DEGREES
WHITE CHESS QUEEN ROTATED TWO HUNDRED SEVENTY DEGREES
WHITE CHESS ROOK ROTATED TWO HUNDRED SEVENTY DEGREES
WHITE CHESS BISHOP ROTATED TWO HUNDRED SEVENTY DEGREES
WHITE CHESS KNIGHT ROTATED TWO HUNDRED SEVENTY DEGREES
WHITE CHESS PAWN ROTATED TWO HUNDRED SEVENTY DEGREES
BLACK CHESS KING ROTATED TWO HUNDRED SEVENTY DEGREES
BLACK CHESS QUEEN ROTATED TWO HUNDRED SEVENTY DEGREES
BLACK CHESS ROOK ROTATED TWO HUNDRED SEVENTY DEGREES
BLACK CHESS BISHOP ROTATED TWO HUNDRED SEVENTY DEGREES
BLACK CHESS KNIGHT ROTATED TWO HUNDRED SEVENTY DEGREES
BLACK CHESS PAWN ROTATED TWO HUNDRED SEVENTY DEGREES
NEUTRAL CHESS KING ROTATED TWO HUNDRED SEVENTY DEGREES
NEUTRAL CHESS QUEEN ROTATED TWO HUNDRED SEVENTY DEGREES
NEUTRAL CHESS ROOK ROTATED TWO HUNDRED SEVENTY DEGREES
NEUTRAL CHESS BISHOP ROTATED TWO HUNDRED SEVENTY DEGREES
NEUTRAL CHESS KNIGHT ROTATED TWO HUNDRED SEVENTY DEGREES
NEUTRAL CHESS PAWN ROTATED TWO HUNDRED SEVENTY DEGREES
WHITE CHESS KNIGHT ROTATED THREE HUNDRED FIFTEEN DEGREES
BLACK CHESS KNIGHT ROTATED THREE HUNDRED FIFTEEN DEGREES
NEUTRAL CHESS KNIGHT ROTATED THREE HUNDRED FIFTEEN DEGREES
WHITE CHESS EQUIHOPPER
BLACK CHESS EQUIHOPPER
NEUTRAL CHESS EQUIHOPPER
WHITE CHESS EQUIHOPPER ROTATED NINETY DEGREES
BLACK CHESS EQUIHOPPER ROTATED NINETY DEGREES
NEUTRAL CHESS EQUIHOPPER ROTATED NINETY DEGREES
WHITE CHESS KNIGHT-QUEEN
WHITE CHESS KNIGHT-ROOK
WHITE CHESS KNIGHT-BISHOP
BLACK CHESS KNIGHT-QUEEN
BLACK CHESS KNIGHT-ROOK
BLACK CHESS KNIGHT-BISHOP
@1FA60
XIANGQI RED GENERAL
XIANGQI RED MANDARIN
XIANGQI RED ELEPHANT
XIANGQI RED HORSE
XIANGQI RED CHARIOT
XIANGQI RED CANNON
XIANGQI RED SOLDIER
XIANGQI BLACK GENERAL
XIANGQI BLACK MANDARIN
XIANGQI BLACK ELEPHANT
XIANGQI BLACK HORSE
XIANGQI BLACK CHARIOT
XIANGQI BLACK CANNON
XIANGQI BLACK SOLDIER"

def picturesC : String := "@1FA70
BALLET SHOES
ONE-PIECE SWIMSUIT
BRIEFS
SHORTS
THONG SANDAL
@1FA78
DROP OF BLOOD
ADHESIVE BANDAGE
STETHOSCOPE
X-RAY
CRUTCH
@1FA80
YO-YO
KITE
PARACHUTE
BOOMERANG
MAGIC WAND
PINATA
NESTING DOLLS
@1FA90
RINGED PLANET
CHAIR
RAZOR
AXE
DIYA LAMP
BANJO
MILITARY HELMET
ACCORDION
LONG DRUM
COIN
CARPENTRY SAW
SCREWDRIVER
LADDER
HOOK
MIRROR
WINDOW
PLUNGER
SEWING NEEDLE
KNOT
BUCKET
MOUSE TRAP
TOOTHBRUSH
HEADSTONE
PLACARD
ROCK
MIRROR BALL
IDENTIFICATION CARD
LOW BATTERY
HAMSA
@1FAB0
FLY
WORM
BEETLE
COCKROACH
POTTED PLANT
WOOD
FEATHER
LOTUS
CORAL
EMPTY NEST
NEST WITH EGGS
@1FAC0
ANATOMICAL HEART
LUNGS
PEOPLE HUGGING
PREGNANT MAN
PREGNANT PERSON
PERSON WITH CROWN
@1FAD0
BLUEBERRIES
BELL PEPPER
OLIVE
FLATBREAD
TAMALE
FONDUE
TEAPOT
POURING LIQUID
BEANS
JAR
@1FAE0
MELTING FACE
SALUTING FACE
FACE WITH OPEN EYES AND HAND OVER MOUTH
FACE WITH PEEKING EYE
FACE WITH DIAGONAL MOUTH
DOTTED LINE FACE
BITING LIP
BUBBLES
@1FAF0
HAND WITH INDEX FINGER AND THUMB CROSSED
RIGHTWARDS HAND
LEFTWARDS HAND
PALM DOWN HAND
PALM UP HAND
INDEX POINTING AT THE VIEWER
HEART HANDS
@1FB00
BLOCK SEXTANT-1
BLOCK SEXTANT-2
BLOCK SEXTANT-12
BLOCK SEXTANT-3
BLOCK SEXTANT-13
BLOCK SEXTANT-23
BLOCK SEXTANT-123
BLOCK SEXTANT-4
BLOCK SEXTANT-14
BLOCK SEXTANT-24
BLOCK SEXTANT-124
BLOCK SEXTANT-34
BLOCK SEXTANT-134
BLOCK SEXTANT-234
BLOCK SEXTANT-1234
BLOCK SEXTANT-5
BLOCK SEXTANT-15
BLOCK SEXTANT-25
BLOCK SEXTANT-125
BLOCK SEXTANT-35
BLOCK SEXTANT-235
BLOCK SEXTANT-1235
BLOCK SEXTANT-45
BLOCK SEXTANT-145
BLOCK SEXTANT-245
BLOCK SEXTANT-1245
BLOCK SEXTANT-345
BLOCK SEXTANT-1345
BLOCK SEXTANT-2345
BLOCK SEXTANT-12345
BLOCK SEXTANT-6
BLOCK SEXTANT-16
BLOCK SEXTANT-26
BLOCK SEXTANT-126
BLOCK SEXTANT-36
BLOCK SEXTANT-136
BLOCK SEXTANT-236
BLOCK SEXTANT-1236
BLOCK SEXTANT-46
BLOCK SEXTANT-146
BLOCK SEXTANT-1246
BLOCK SEXTANT-346
BLOCK SEXTANT-1346
BLOCK SEXTANT-2346
BLOCK SEXTANT-12346
BLOCK SEXTANT-56
BLOCK SEXTANT-156
BLOCK SEXTANT-256
BLOCK SEXTANT-1256
BLOCK SEXTANT-356
BLOCK SEXTANT-1356
BLOCK SEXTANT-2356
BLOCK SEXTANT-12356
BLOCK SEXTANT-456
BLOCK SEXTANT-1456
BLOCK SEXTANT-2456
BLOCK SEXTANT-12456
BLOCK SEXTANT-3456
BLOCK SEXTANT-13456
BLOCK SEXTANT-23456
LOWER LEFT BLOCK DIAGONAL LOWER MIDDLE LEFT TO LOWER CENTRE
LOWER LEFT BLOCK DIAGONAL LOWER MIDDLE LEFT TO LOWER RIGHT
LOWER LEFT BLOCK DIAGONAL UPPER MIDDLE LEFT TO LOWER CENTRE
LOWER LEFT BLOCK DIAGONAL UPPER MIDDLE LEFT TO LOWER RIGHT
LOWER LEFT BLOCK DIAGONAL UPPER LEFT TO LOWER CENTRE
LOWER RIGHT BLOCK DIAGONAL UPPER MIDDLE LEFT TO UPPER CENTRE
LOWER RIGHT BLOCK DIAGONAL UPPER MIDDLE LEFT TO UPPER RIGHT
LOWER RIGHT BLOCK DIAGONAL LOWER MIDDLE LEFT TO UPPER CENTRE
LOWER RIGHT BLOCK DIAGONAL LOWER MIDDLE LEFT TO UPPER RIGHT
LOWER RIGHT BLOCK DIAGONAL LOWER LEFT TO UPPER CENTRE
LOWER RIGHT BLOCK DIAGONAL LOWER MIDDLE LEFT TO UPPER MIDDLE RIGHT
LOWER RIGHT BLOCK DIAGONAL LOWER CENTRE TO LOWER MIDDLE RIGHT
LOWER RIGHT BLOCK DIAGONAL LOWER LEFT TO LOWER MIDDLE RIGHT
LOWER RIGHT BLOCK DIAGONAL LOWER CENTRE TO UPPER MIDDLE RIGHT
LOWER RIGHT BLOCK DIAGONAL LOWER LEFT TO UPPER MIDDLE RIGHT
LOWER RIGHT BLOCK DIAGONAL LOWER CENTRE TO UPPER RIGHT
LOWER LEFT BLOCK DIAGONAL UPPER CENTRE TO UPPER MIDDLE RIGHT
LOWER LEFT BLOCK DIAGONAL UPPER LEFT TO UPPER MIDDLE RIGHT
LOWER LEFT BLOCK DIAGONAL UPPER CENTRE TO LOWER MIDDLE RIGHT
LOWER LEFT BLOCK DIAGONAL UPPER LEFT TO LOWER MIDDLE RIGHT
LOWER LEFT BLOCK DIAGONAL UPPER CENTRE TO LOWER RIGHT
LOWER LEFT BLOCK DIAGONAL UPPER MIDDLE LEFT TO LOWER MIDDLE RIGHT
UPPER RIGHT BLOCK DIAGONAL LOWER MIDDLE LEFT TO LOWER CENTRE
UPPER RIGHT BLOCK DIAGONAL LOWER MIDDLE LEFT TO LOWER RIGHT
UPPER RIGHT BLOCK DIAGONAL UPPER MIDDLE LEFT TO LOWER CENTRE
UPPER RIGHT BLOCK DIAGONAL UPPER MIDDLE LEFT TO LOWER RIGHT
UPPER RIGHT BLOCK DIAGONAL UPPER LEFT TO LOWER CENTRE
UPPER LEFT BLOCK DIAGONAL UPPER MIDDLE LEFT TO UPPER CENTRE
UPPER LEFT BLOCK DIAGONAL UPPER MIDDLE LEFT TO UPPER RIGHT
UPPER LEFT BLOCK DIAGONAL LOWER MIDDLE LEFT TO UPPER CENTRE
UPPER LEFT BLOCK DIAGONAL LOWER MIDDLE LEFT TO UPPER RIGHT
UPPER LEFT BLOCK DIAGONAL LOWER LEFT TO UPPER CENTRE
UPPER LEFT BLOCK DIAGONAL LOWER MIDDLE LEFT TO UPPER MIDDLE RIGHT
UPPER LEFT BLOCK DIAGONAL LOWER CENTRE TO LOWER MIDDLE RIGHT
UPPER LEFT BLOCK DIAGONAL LOWER LEFT TO LOWER MIDDLE RIGHT
UPPER LEFT BLOCK DIAGONAL LOWER CENTRE TO UPPER MIDDLE RIGHT
UPPER LEFT BLOCK DIAGONAL LOWER LEFT TO UPPER MIDDLE RIGHT
UPPER LEFT BLOCK DIAGONAL LOWER CENTRE TO UPPER RIGHT
UPPER RIGHT BLOCK DIAGONAL UPPER CENTRE TO UPPER MIDDLE RIGHT
UPPER RIGHT BLOCK DIAGONAL UPPER LEFT TO UPPER MIDDLE RIGHT
UPPER RIGHT BLOCK DIAGONAL UPPER CENTRE TO LOWER MIDDLE RIGHT
UPPER RIGHT BLOCK DIAGONAL UPPER LEFT TO LOWER MIDDLE RIGHT
UPPER RIGHT BLOCK DIAGONAL UPPER CENTRE TO LOWER RIGHT
UPPER RIGHT BLOCK DIAGONAL UPPER MIDDLE LEFT TO LOWER MIDDLE RIGHT
UPPER AND RIGHT AND LOWER TRIANGULAR THREE QUARTERS BLOCK
LEFT AND LOWER AND RIGHT TRIANGULAR THREE QUARTERS BLOCK
UPPER AND LEFT AND LOWER TRIANGULAR THREE QUARTERS BLOCK
LEFT AND UPPER AND RIGHT TRIANGULAR THREE QUARTERS BLOCK
LEFT TRIANGULAR ONE QUARTER BLOCK
UPPER TRIANGULAR ONE QUARTER BLOCK
RIGHT TRIANGULAR ONE QUARTER BLOCK
LOWER TRIANGULAR ONE QUARTER BLOCK
VERTICAL ONE EIGHTH BLOCK-2
VERTICAL ONE EIGHTH BLOCK-3
VERTICAL ONE EIGHTH BLOCK-4
VERTICAL ONE EIGHTH BLOCK-5
VERTICAL ONE EIGHTH BLOCK-6
VERTICAL ONE EIGHTH BLOCK-7
HORIZONTAL ONE EIGHTH BLOCK-2
HORIZONTAL ONE EIGHTH BLOCK-3
HORIZONTAL ONE EIGHTH BLOCK-4
HORIZONTAL ONE EIGHTH BLOCK-5
HORIZONTAL ONE EIGHTH BLOCK-6
HORIZONTAL ONE EIGHTH BLOCK-7
LEFT AND LOWER ONE EIGHTH BLOCK
LEFT AND UPPER ONE EIGHTH BLOCK
RIGHT AND UPPER ONE EIGHTH BLOCK
RIGHT AND LOWER ONE EIGHTH BLOCK
UPPER AND LOWER ONE EIGHTH BLOCK
HORIZONTAL ONE EIGHTH BLOCK-1358
UPPER ONE QUARTER BLOCK
UPPER THREE EIGHTHS BLOCK
UPPER FIVE EIGHTHS BLOCK
UPPER THREE QUARTERS BLOCK
UPPER SEVEN EIGHTHS BLOCK
RIGHT ONE QUARTER BLOCK
RIGHT THREE EIGHTHS BLOCK
RIGHT FIVE EIGHTHS BLOCK
RIGHT THREE QUARTERS BLOCK
RIGHT SEVEN EIGHTHS BLOCK
LEFT HALF MEDIUM SHADE
RIGHT HALF MEDIUM SHADE
UPPER HALF MEDIUM SHADE
LOWER HALF MEDIUM SHADE
INVERSE MEDIUM SHADE
UPPER HALF BLOCK AND LOWER HALF INVERSE MEDIUM SHADE
UPPER HALF INVERSE MEDIUM SHADE AND LOWER HALF BLOCK
@1FB94
LEFT HALF INVERSE MEDIUM SHADE AND RIGHT HALF BLOCK
CHECKER BOARD FILL
INVERSE CHECKER BOARD FILL
HEAVY HORIZONTAL FILL
UPPER LEFT TO LOWER RIGHT FILL
UPPER RIGHT TO LOWER LEFT FILL
UPPER AND LOWER TRIANGULAR HALF BLOCK
LEFT AND RIGHT TRIANGULAR HALF BLOCK
UPPER LEFT TRIANGULAR MEDIUM SHADE
UPPER RIGHT TRIANGULAR MEDIUM SHADE
LOWER RIGHT TRIANGULAR MEDIUM SHADE
LOWER LEFT TRIANGULAR MEDIUM SHADE
BOX DRAWINGS LIGHT DIAGONAL UPPER CENTRE TO MIDDLE LEFT
BOX DRAWINGS LIGHT DIAGONAL UPPER CENTRE TO MIDDLE RIGHT
BOX DRAWINGS LIGHT DIAGONAL MIDDLE LEFT TO LOWER CENTRE
BOX DRAWINGS LIGHT DIAGONAL MIDDLE RIGHT TO LOWER CENTRE
BOX DRAWINGS LIGHT DIAGONAL UPPER CENTRE TO MIDDLE LEFT TO LOWER CENTRE
BOX DRAWINGS LIGHT DIAGONAL UPPER CENTRE TO MIDDLE RIGHT TO LOWER CENTRE
BOX DRAWINGS LIGHT DIAGONAL MIDDLE LEFT TO LOWER CENTRE TO MIDDLE RIGHT
BOX DRAWINGS LIGHT DIAGONAL MIDDLE LEFT TO UPPER CENTRE TO MIDDLE RIGHT
BOX DRAWINGS LIGHT DIAGONAL UPPER CENTRE TO MIDDLE LEFT AND MIDDLE RIGHT TO LOWER CENTRE
BOX DRAWINGS LIGHT DIAGONAL UPPER CENTRE TO MIDDLE RIGHT AND MIDDLE LEFT TO LOWER CENTRE
BOX DRAWINGS LIGHT DIAGONAL UPPER CENTRE TO MIDDLE RIGHT TO LOWER CENTRE TO MIDDLE LEFT
BOX DRAWINGS LIGHT DIAGONAL UPPER CENTRE TO MIDDLE LEFT TO LOWER CENTRE TO MIDDLE RIGHT
BOX DRAWINGS LIGHT DIAGONAL MIDDLE LEFT TO UPPER CENTRE TO MIDDLE RIGHT TO LOWER CENTRE
BOX DRAWINGS LIGHT DIAGONAL MIDDLE RIGHT TO UPPER CENTRE TO MIDDLE LEFT TO LOWER CENTRE
BOX DRAWINGS LIGHT DIAGONAL DIAMOND
BOX DRAWINGS LIGHT HORIZONTAL WITH VERTICAL STROKE
ARROWHEAD-SHAPED POINTER
INVERSE CHECK MARK
LEFT HALF RUNNING MAN
RIGHT HALF RUNNING MAN
INVERSE DOWNWARDS ARROW WITH TIP LEFTWARDS
LEFTWARDS ARROW AND UPPER AND LOWER ONE EIGHTH BLOCK
RIGHTWARDS ARROW AND UPPER AND LOWER ONE EIGHTH BLOCK
DOWNWARDS ARROW AND RIGHT ONE EIGHTH BLOCK
UPWARDS ARROW AND RIGHT ONE EIGHTH BLOCK
LEFT HALF FOLDER
RIGHT HALF FOLDER
VOIDED GREEK CROSS
RIGHT OPEN SQUARED DOT
NEGATIVE DIAGONAL CROSS
NEGATIVE DIAGONAL MIDDLE RIGHT TO LOWER CENTRE
NEGATIVE DIAGONAL DIAMOND
WHITE HEAVY SALTIRE WITH ROUNDED CORNERS
LEFT THIRD WHITE RIGHT POINTING INDEX
MIDDLE THIRD WHITE RIGHT POINTING INDEX
RIGHT THIRD WHITE RIGHT POINTING INDEX
NEGATIVE SQUARED QUESTION MARK
STICK FIGURE
STICK FIGURE WITH ARMS RAISED
STICK FIGURE LEANING LEFT
STICK FIGURE LEANING RIGHT
STICK FIGURE WITH DRESS
WHITE UP-POINTING CHEVRON
@1FBF0
SEGMENTED DIGIT ZERO
SEGMENTED DIGIT ONE
SEGMENTED DIGIT TWO
SEGMENTED DIGIT THREE
SEGMENTED DIGIT FOUR
SEGMENTED DIGIT FIVE
SEGMENTED DIGIT SIX
SEGMENTED DIGIT SEVEN
SEGMENTED DIGIT EIGHT
SEGMENTED DIGIT NINE
@E0001
LANGUAGE TAG
@E0020
TAG SPACE
TAG EXCLAMATION MARK
TAG QUOTATION MARK
TAG NUMBER SIGN
TAG DOLLAR SIGN
TAG PERCENT SIGN
TAG AMPERSAND
TAG APOSTROPHE
TAG LEFT PARENTHESIS
TAG RIGHT PARENTHESIS
TAG ASTERISK
TAG PLUS SIGN
TAG COMMA
TAG HYPHEN-MINUS
TAG FULL STOP
TAG SOLIDUS
TAG DIGIT ZERO
TAG DIGIT ONE
TAG DIGIT TWO
TAG DIGIT THREE
TAG DIGIT FOUR
TAG DIGIT FIVE
TAG DIGIT SIX
TAG DIGIT SEVEN
TAG DIGIT EIGHT
TAG DIGIT NINE
TAG COLON
TAG SEMICOLON
TAG LESS-THAN SIGN
TAG EQUALS SIGN
TAG GREATER-THAN SIGN
TAG QUESTION MARK
TAG COMMERCIAL AT
TAG LATIN CAPITAL LETTER A
TAG LATIN CAPITAL LETTER B
TAG LATIN CAPITAL LETTER C
TAG LATIN CAPITAL LETTER D
TAG LATIN CAPITAL LETTER E
TAG LATIN CAPITAL LETTER F
TAG LATIN CAPITAL LETTER G
TAG LATIN CAPITAL LETTER H
TAG LATIN CAPITAL LETTER I
TAG LATIN CAPITAL LETTER J
TAG LATIN CAPITAL LETTER K
TAG LATIN CAPITAL LETTER L
TAG LATIN CAPITAL LETTER M
TAG LATIN CAPITAL LETTER N
TAG LATIN CAPITAL LETTER O
TAG LATIN CAPITAL LETTER P
TAG LATIN CAPITAL LETTER Q
TAG LATIN CAPITAL LETTER R
TAG LATIN CAPITAL LETTER S
TAG LATIN CAPITAL LETTER T
TAG LATIN CAPITAL LETTER U
TAG LATIN CAPITAL LETTER V
TAG LATIN CAPITAL LETTER W
TAG LATIN CAPITAL LETTER X
TAG LATIN CAPITAL LETTER Y
TAG LATIN CAPITAL LETTER Z
TAG LEFT SQUARE BRACKET
TAG REVERSE SOLIDUS
TAG RIGHT SQUARE BRACKET
TAG CIRCUMFLEX ACCENT
TAG LOW LINE
TAG GRAVE ACCENT
TAG LATIN SMALL LETTER A
TAG LATIN SMALL LETTER B
TAG LATIN SMALL LETTER C
TAG LATIN SMALL LETTER D
TAG LATIN SMALL LETTER E
TAG LATIN SMALL LETTER F
TAG LATIN SMALL LETTER G
TAG LATIN SMALL LETTER H
TAG LATIN SMALL LETTER I
TAG LATIN SMALL LETTER J
TAG LATIN SMALL LETTER K
TAG LATIN SMALL LETTER L
TAG LATIN SMALL LETTER M
TAG LATIN SMALL LETTER N
TAG LATIN SMALL LETTER O
TAG LATIN SMALL LETTER P
TAG LATIN SMALL LETTER Q
TAG LATIN SMALL LETTER R
TAG LATIN SMALL LETTER S
TAG LATIN SMALL LETTER T
TAG LATIN SMALL LETTER U
TAG LATIN SMALL LETTER V
TAG LATIN SMALL LETTER W
TAG LATIN SMALL LETTER X
TAG LATIN SMALL LETTER Y
TAG LATIN SMALL LETTER Z
TAG LEFT CURLY BRACKET
TAG VERTICAL LINE
TAG RIGHT CURLY BRACKET
TAG TILDE
CANCEL TAG
@E0100
VARIATION SELECTOR-17
VARIATION SELECTOR-18
VARIATION SELECTOR-19
VARIATION SELECTOR-20
VARIATION SELECTOR-21
VARIATION SELECTOR-22
VARIATION SELECTOR-23
VARIATION SELECTOR-24
VARIATION SELECTOR-25
VARIATION SELECTOR-26
VARIATION SELECTOR-27
VARIATION SELECTOR-28
VARIATION SELECTOR-29
VARIATION SELECTOR-30
VARIATION SELECTOR-31
VARIATION SELECTOR-32
VARIATION SELECTOR-33
VARIATION SELECTOR-34
VARIATION SELECTOR-35
VARIATION SELECTOR-36
VARIATION SELECTOR-37
VARIATION SELECTOR-38
VARIATION SELECTOR-39
VARIATION SELECTOR-40
VARIATION SELECTOR-41
VARIATION SELECTOR-42
VARIATION SELECTOR-43
VARIATION SELECTOR-44
VARIATION SELECTOR-45
VARIATION SELECTOR-46
VARIATION SELECTOR-47
VARIATION SELECTOR-48
VARIATION SELECTOR-49
VARIATION SELECTOR-50
VARIATION SELECTOR-51
VARIATION SELECTOR-52
VARIATION SELECTOR-53
VARIATION SELECTOR-54
VARIATION SELECTOR-55
VARIATION SELECTOR-56
VARIATION SELECTOR-57
VARIATION SELECTOR-58
VARIATION SELECTOR-59
VARIATION SELECTOR-60
VARIATION SELECTOR-61
VARIATION SELECTOR-62
VARIATION SELECTOR-63
VARIATION SELECTOR-64
VARIATION SELECTOR-65
VARIATION SELECTOR-66
VARIATION SELECTOR-67
VARIATION SELECTOR-68
VARIATION SELECTOR-69
VARIATION SELECTOR-70
VARIATION SELECTOR-71
VARIATION SELECTOR-72
VARIATION SELECTOR-73
VARIATION SELECTOR-74
VARIATION SELECTOR-75
VARIATION SELECTOR-76
VARIATION SELECTOR-77
VARIATION SELECTOR-78
VARIATION SELECTOR-79
VARIATION SELECTOR-80
VARIATION SELECTOR-81
VARIATION SELECTOR-82
VARIATION SELECTOR-83
VARIATION SELECTOR-84
VARIATION SELECTOR-85
VARIATION SELECTOR-86
VARIATION SELECTOR-87
VARIATION SELECTOR-88
VARIATION SELECTOR-89
VARIATION SELECTOR-90
VARIATION SELECTOR-91
VARIATION SELECTOR-92
VARIATION SELECTOR-93
VARIATION SELECTOR-94
VARIATION SELECTOR-95
VARIATION SELECTOR-96
VARIATION SELECTOR-97
VARIATION SELECTOR-98
VARIATION SELECTOR-99
VARIATION SELECTOR-100
VARIATION SELECTOR-101
VARIATION SELECTOR-102
VARIATION SELECTOR-103
VARIATION SELECTOR-104
VARIATION SELECTOR-105
VARIATION SELECTOR-106
VARIATION SELECTOR-107
VARIATION SELECTOR-108
VARIATION SELECTOR-109
VARIATION SELECTOR-110
VARIATION SELECTOR-111
VARIATION SELECTOR-112
VARIATION SELECTOR-113
VARIATION SELECTOR-114
VARIATION SELECTOR-115
VARIATION SELECTOR-116
VARIATION SELECTOR-117
VARIATION SELECTOR-118
VARIATION SELECTOR-119
VARIATION SELECTOR-120
VARIATION SELECTOR-121
VARIATION SELECTOR-122
VARIATION SELECTOR-123
VARIATION SELECTOR-124
VARIATION SELECTOR-125
VARIATION SELECTOR-126
VARIATION SELECTOR-127
VARIATION SELECTOR-128
VARIATION SELECTOR-129
VARIATION SELECTOR-130
VARIATION SELECTOR-131
VARIATION SELECTOR-132
VARIATION SELECTOR-133
VARIATION SELECTOR-134
VARIATION SELECTOR-135
VARIATION SELECTOR-136
VARIATION SELECTOR-137
VARIATION SELECTOR-138
VARIATION SELECTOR-139
VARIATION SELECTOR-140
VARIATION SELECTOR-141
VARIATION SELECTOR-142
VARIATION SELECTOR-143
VARIATION SELECTOR-144
VARIATION SELECTOR-145
VARIATION SELECTOR-146
VARIATION SELECTOR-147
VARIATION SELECTOR-148
VARIATION SELECTOR-149
VARIATION SELECTOR-150
VARIATION SELECTOR-151
VARIATION SELECTOR-152
VARIATION SELECTOR-153
VARIATION SELECTOR-154
VARIATION SELECTOR-155
VARIATION SELECTOR-156
VARIATION SELECTOR-157
VARIATION SELECTOR-158
VARIATION SELECTOR-159
VARIATION SELECTOR-160
VARIATION SELECTOR-161
VARIATION SELECTOR-162
VARIATION SELECTOR-163
VARIATION SELECTOR-164
VARIATION SELECTOR-165
VARIATION SELECTOR-166
VARIATION SELECTOR-167
VARIATION SELECTOR-168
VARIATION SELECTOR-169
VARIATION SELECTOR-170
VARIATION SELECTOR-171
VARIATION SELECTOR-172
VARIATION SELECTOR-173
VARIATION SELECTOR-174
VARIATION SELECTOR-175
VARIATION SELECTOR-176
VARIATION SELECTOR-177
VARIATION SELECTOR-178
VARIATION SELECTOR-179
VARIATION SELECTOR-180
VARIATION SELECTOR-181
VARIATION SELECTOR-182
VARIATION SELECTOR-183
VARIATION SELECTOR-184
VARIATION SELECTOR-185
VARIATION SELECTOR-186
VARIATION SELECTOR-187
VARIATION SELECTOR-188
VARIATION SELECTOR-189
VARIATION SELECTOR-190
VARIATION SELECTOR-191
VARIATION SELECTOR-192
VARIATION SELECTOR-193
VARIATION SELECTOR-194
VARIATION SELECTOR-195
VARIATION SELECTOR-196
VARIATION SELECTOR-197
VARIATION SELECTOR-198
VARIATION SELECTOR-199
VARIATION SELECTOR-200
VARIATION SELECTOR-201
VARIATION SELECTOR-202
VARIATION SELECTOR-203
VARIATION SELECTOR-204
VARIATION SELECTOR-205
VARIATION SELECTOR-206
VARIATION SELECTOR-207
VARIATION SELECTOR-208
VARIATION SELECTOR-209
VARIATION SELECTOR-210
VARIATION SELECTOR-211
VARIATION SELECTOR-212
VARIATION SELECTOR-213
VARIATION SELECTOR-214
VARIATION SELECTOR-215
VARIATION SELECTOR-216
VARIATION SELECTOR-217
VARIATION SELECTOR-218
VARIATION SELECTOR-219
VARIATION SELECTOR-220
VARIATION SELECTOR-221
VARIATION SELECTOR-222
VARIATION SELECTOR-223
VARIATION SELECTOR-224
VARIATION SELECTOR-225
VARIATION SELECTOR-226
VARIATION SELECTOR-227
VARIATION SELECTOR-228
VARIATION SELECTOR-229
VARIATION SELECTOR-230
VARIATION SELECTOR-231
VARIATION SELECTOR-232
VARIATION SELECTOR-233
VARIATION SELECTOR-234
VARIATION SELECTOR-235
VARIATION SELECTOR-236
VARIATION SELECTOR-237
VARIATION SELECTOR-238
VARIATION SELECTOR-239
VARIATION SELECTOR-240
VARIATION SELECTOR-241
VARIATION SELECTOR-242
VARIATION SELECTOR-243
VARIATION SELECTOR-244
VARIATION SELECTOR-245
VARIATION SELECTOR-246
VARIATION SELECTOR-247
VARIATION SELECTOR-248
VARIATION SELECTOR-249
VARIATION SELECTOR-250
VARIATION SELECTOR-251
VARIATION SELECTOR-252
VARIATION SELECTOR-253
VARIATION SELECTOR-254
VARIATION SELECTOR-255
VARIATION SELECTOR-256"

def pictures : List String := [picturesA, picturesB, picturesC]

end CharacterName
end RuleDraft
