import GatewayOperator.Text.Cut
import GatewayOperator.Text.Shown

/-!
# The form in which domain names are compared

Names are compared in one form (UTS 46, without the transitional exceptions): letters in lower case,
compatibility characters replaced by what they stand for, and without the characters that do not count.
Some characters cannot stand in a name at all. The data are those of Unicode 17.
-/

set_option autoImplicit false

namespace GatewayOperator.Url.Domain

/-- The texts that stand for the characters from `first` to `last`, of which every `step`-th one is meant:
one text per character, with blanks between them. -/
structure Substitutes where
  first : Nat
  last : Nat
  step : Nat
  texts : String

/-- The substitutes in the Latin, Greek and Cyrillic blocks below the accented letters. -/
def latinSubstitutes : List Substitutes := [
  ⟨0xAA, 0xAA, 1, "a"⟩,
  ⟨0xB2, 0xB3, 1, "2 3"⟩,
  ⟨0xB5, 0xB5, 1, "μ"⟩,
  ⟨0xB9, 0xBA, 1, "1 o"⟩,
  ⟨0xBC, 0xDE, 2, "1⁄4 3⁄4 à â ä æ è ê ì î ð ò ô ö ø ú ü þ"⟩,
  ⟨0xBD, 0xBD, 1, "1⁄2"⟩,
  ⟨0xC1, 0xD5, 2, "á ã å ç é ë í ï ñ ó õ"⟩,
  ⟨0xD9, 0xDD, 2, "ù û ý"⟩,
  ⟨0x100, 0x136, 2, "ā ă ą ć ĉ ċ č ď đ ē ĕ ė ę ě ĝ ğ ġ ģ ĥ ħ ĩ ī ĭ į i\u0307 ij ĵ ķ"⟩,
  ⟨0x133, 0x133, 1, "ij"⟩,
  ⟨0x139, 0x149, 2, "ĺ ļ ľ l· ł ń ņ ň ʼn"⟩,
  ⟨0x140, 0x140, 1, "l·"⟩,
  ⟨0x14A, 0x178, 2, "ŋ ō ŏ ő œ ŕ ŗ ř ś ŝ ş š ţ ť ŧ ũ ū ŭ ů ű ų ŵ ŷ ÿ"⟩,
  ⟨0x179, 0x181, 2, "ź ż ž s ɓ"⟩,
  ⟨0x182, 0x186, 2, "ƃ ƅ ɔ"⟩,
  ⟨0x187, 0x18B, 2, "ƈ ɖ ƌ"⟩,
  ⟨0x18A, 0x18A, 1, "ɗ"⟩,
  ⟨0x18E, 0x191, 1, "ǝ ə ɛ ƒ"⟩,
  ⟨0x193, 0x194, 1, "ɠ ɣ"⟩,
  ⟨0x196, 0x198, 1, "ɩ ɨ ƙ"⟩,
  ⟨0x19C, 0x19D, 1, "ɯ ɲ"⟩,
  ⟨0x19F, 0x1A0, 1, "ɵ ơ"⟩,
  ⟨0x1A2, 0x1A6, 2, "ƣ ƥ ʀ"⟩,
  ⟨0x1A7, 0x1A9, 2, "ƨ ʃ"⟩,
  ⟨0x1AC, 0x1AE, 2, "ƭ ʈ"⟩,
  ⟨0x1AF, 0x1B7, 2, "ư ʊ ƴ ƶ ʒ"⟩,
  ⟨0x1B2, 0x1B2, 1, "ʋ"⟩,
  ⟨0x1B8, 0x1B8, 1, "ƹ"⟩,
  ⟨0x1BC, 0x1BC, 1, "ƽ"⟩,
  ⟨0x1C4, 0x1CD, 1, "dž dž dž lj lj lj nj nj nj ǎ"⟩,
  ⟨0x1CF, 0x1DB, 2, "ǐ ǒ ǔ ǖ ǘ ǚ ǜ"⟩,
  ⟨0x1DE, 0x1EE, 2, "ǟ ǡ ǣ ǥ ǧ ǩ ǫ ǭ ǯ"⟩,
  ⟨0x1F1, 0x1F4, 1, "dz dz dz ǵ"⟩,
  ⟨0x1F6, 0x232, 2, "ƕ ǹ ǻ ǽ ǿ ȁ ȃ ȅ ȇ ȉ ȋ ȍ ȏ ȑ ȓ ȕ ȗ ș ț ȝ ȟ ƞ ȣ ȥ ȧ ȩ ȫ ȭ ȯ ȱ ȳ"⟩,
  ⟨0x1F7, 0x1F7, 1, "ƿ"⟩,
  ⟨0x23A, 0x23B, 1, "ⱥ ȼ"⟩,
  ⟨0x23D, 0x23E, 1, "ƚ ⱦ"⟩,
  ⟨0x241, 0x245, 2, "ɂ ƀ ʌ"⟩,
  ⟨0x244, 0x24E, 2, "ʉ ɇ ɉ ɋ ɍ ɏ"⟩,
  ⟨0x2B0, 0x2B8, 1, "h ɦ j r ɹ ɻ ʁ w y"⟩,
  ⟨0x2E0, 0x2E4, 1, "ɣ l s x ʕ"⟩,
  ⟨0x340, 0x341, 1, "\u0300 \u0301"⟩,
  ⟨0x343, 0x345, 1, "\u0313 \u0308\u0301 ι"⟩,
  ⟨0x370, 0x376, 2, "ͱ ͳ ʹ ͷ"⟩,
  ⟨0x37E, 0x37F, 1, "; ϳ"⟩,
  ⟨0x386, 0x38A, 1, "ά · έ ή ί"⟩,
  ⟨0x38C, 0x38E, 2, "ό ύ"⟩,
  ⟨0x38F, 0x3AB, 2, "ώ α γ ε η ι λ ν ο ρ σ υ χ ω ϋ"⟩,
  ⟨0x392, 0x3A0, 2, "β δ ζ θ κ μ ξ π"⟩,
  ⟨0x3A4, 0x3AA, 2, "τ φ ψ ϊ"⟩,
  ⟨0x3CF, 0x3D6, 1, "ϗ β θ υ ύ ϋ φ π"⟩,
  ⟨0x3D8, 0x3F4, 2, "ϙ ϛ ϝ ϟ ϡ ϣ ϥ ϧ ϩ ϫ ϭ ϯ κ σ θ"⟩,
  ⟨0x3F1, 0x3F1, 1, "ρ"⟩,
  ⟨0x3F5, 0x3F9, 2, "ε ϸ σ"⟩,
  ⟨0x3FA, 0x3FA, 1, "ϻ"⟩,
  ⟨0x3FD, 0x41D, 1, "ͻ ͼ ͽ ѐ ё ђ ѓ є ѕ і ї ј љ њ ћ ќ ѝ ў џ а б в г д е ж з и й к л м н"⟩,
  ⟨0x41E, 0x42F, 1, "о п р с т у ф х ц ч ш щ ъ ы ь э ю я"⟩,
  ⟨0x460, 0x480, 2, "ѡ ѣ ѥ ѧ ѩ ѫ ѭ ѯ ѱ ѳ ѵ ѷ ѹ ѻ ѽ ѿ ҁ"⟩,
  ⟨0x48A, 0x4C0, 2, "ҋ ҍ ҏ ґ ғ ҕ җ ҙ қ ҝ ҟ ҡ ң ҥ ҧ ҩ ҫ ҭ ү ұ ҳ ҵ ҷ ҹ һ ҽ ҿ ӏ"⟩,
  ⟨0x4C1, 0x4CD, 2, "ӂ ӄ ӆ ӈ ӊ ӌ ӎ"⟩,
  ⟨0x4D0, 0x510, 2, "ӑ ӓ ӕ ӗ ә ӛ ӝ ӟ ӡ ӣ ӥ ӧ ө ӫ ӭ ӯ ӱ ӳ ӵ ӷ ӹ ӻ ӽ ӿ ԁ ԃ ԅ ԇ ԉ ԋ ԍ ԏ ԑ"⟩,
  ⟨0x512, 0x52E, 2, "ԓ ԕ ԗ ԙ ԛ ԝ ԟ ԡ ԣ ԥ ԧ ԩ ԫ ԭ ԯ"⟩
]

/-- The substitutes in the blocks from Armenian to the phonetic extensions. -/
def scriptSubstitutes : List Substitutes := [
  ⟨0x531, 0x551, 1, "ա բ գ դ ե զ է ը թ ժ ի լ խ ծ կ հ ձ ղ ճ մ յ ն շ ո չ պ ջ ռ ս վ տ ր ց"⟩,
  ⟨0x552, 0x556, 1, "ւ փ ք օ ֆ"⟩,
  ⟨0x587, 0x587, 1, "եւ"⟩,
  ⟨0x675, 0x678, 1, "اٴ وٴ ۇٴ يٴ"⟩,
  ⟨0x958, 0x95F, 1, "क\u093c ख\u093c ग\u093c ज\u093c ड\u093c ढ\u093c फ\u093c य\u093c"⟩,
  ⟨0x9DC, 0x9DD, 1, "ড\u09bc ঢ\u09bc"⟩,
  ⟨0x9DF, 0x9DF, 1, "য\u09bc"⟩,
  ⟨0xA33, 0xA33, 1, "ਲ\u0a3c"⟩,
  ⟨0xA36, 0xA36, 1, "ਸ\u0a3c"⟩,
  ⟨0xA59, 0xA5B, 1, "ਖ\u0a3c ਗ\u0a3c ਜ\u0a3c"⟩,
  ⟨0xA5E, 0xA5E, 1, "ਫ\u0a3c"⟩,
  ⟨0xB5C, 0xB5D, 1, "ଡ\u0b3c ଢ\u0b3c"⟩,
  ⟨0xE33, 0xE33, 1, "\u0e4dา"⟩,
  ⟨0xEB3, 0xEB3, 1, "\u0ecdາ"⟩,
  ⟨0xEDC, 0xEDD, 1, "ຫນ ຫມ"⟩,
  ⟨0xF0C, 0xF0C, 1, "་"⟩,
  ⟨0xF43, 0xF43, 1, "ག\u0fb7"⟩,
  ⟨0xF4D, 0xF4D, 1, "ཌ\u0fb7"⟩,
  ⟨0xF52, 0xF52, 1, "ད\u0fb7"⟩,
  ⟨0xF57, 0xF57, 1, "བ\u0fb7"⟩,
  ⟨0xF5C, 0xF5C, 1, "ཛ\u0fb7"⟩,
  ⟨0xF69, 0xF69, 1, "ཀ\u0fb5"⟩,
  ⟨0xF73, 0xF79, 2, "\u0f71\u0f72 \u0f71\u0f74 \u0fb2\u0f71\u0f80 \u0fb3\u0f71\u0f80"⟩,
  ⟨0xF76, 0xF78, 2, "\u0fb2\u0f80 \u0fb3\u0f80"⟩,
  ⟨0xF81, 0xF81, 1, "\u0f71\u0f80"⟩,
  ⟨0xF93, 0xF93, 1, "\u0f92\u0fb7"⟩,
  ⟨0xF9D, 0xF9D, 1, "\u0f9c\u0fb7"⟩,
  ⟨0xFA2, 0xFA2, 1, "\u0fa1\u0fb7"⟩,
  ⟨0xFA7, 0xFA7, 1, "\u0fa6\u0fb7"⟩,
  ⟨0xFAC, 0xFAC, 1, "\u0fab\u0fb7"⟩,
  ⟨0xFB9, 0xFB9, 1, "\u0f90\u0fb5"⟩,
  ⟨0x10A0, 0x10C0, 1, "ⴀ ⴁ ⴂ ⴃ ⴄ ⴅ ⴆ ⴇ ⴈ ⴉ ⴊ ⴋ ⴌ ⴍ ⴎ ⴏ ⴐ ⴑ ⴒ ⴓ ⴔ ⴕ ⴖ ⴗ ⴘ ⴙ ⴚ ⴛ ⴜ ⴝ ⴞ ⴟ ⴠ"⟩,
  ⟨0x10C1, 0x10C5, 1, "ⴡ ⴢ ⴣ ⴤ ⴥ"⟩,
  ⟨0x10C7, 0x10C7, 1, "ⴧ"⟩,
  ⟨0x10CD, 0x10CD, 1, "ⴭ"⟩,
  ⟨0x10FC, 0x10FC, 1, "ნ"⟩,
  ⟨0x13F8, 0x13FD, 1, "Ᏸ Ᏹ Ᏺ Ᏻ Ᏼ Ᏽ"⟩,
  ⟨0x1C80, 0x1C89, 1, "в д о с т т ъ ѣ ꙋ ᲊ"⟩,
  ⟨0x1C90, 0x1CB0, 1, "ა ბ გ დ ე ვ ზ თ ი კ ლ მ ნ ო პ ჟ რ ს ტ უ ფ ქ ღ ყ შ ჩ ც ძ წ ჭ ხ ჯ ჰ"⟩,
  ⟨0x1CB1, 0x1CBA, 1, "ჱ ჲ ჳ ჴ ჵ ჶ ჷ ჸ ჹ ჺ"⟩,
  ⟨0x1CBD, 0x1CBF, 1, "ჽ ჾ ჿ"⟩,
  ⟨0x1D2C, 0x1D4C, 2, "a b d ǝ h j l n o p t w ɐ ᴂ d ə ɜ"⟩,
  ⟨0x1D2D, 0x1D2D, 1, "æ"⟩,
  ⟨0x1D31, 0x1D39, 2, "e g i k m"⟩,
  ⟨0x1D3D, 0x1D69, 2, "ȣ r u a ɑ b e ɛ g k ŋ ɔ ᴗ t ᴝ v β δ χ r v γ φ"⟩,
  ⟨0x1D50, 0x1D6A, 2, "m o ᴖ p u ɯ ᴥ γ φ i u β ρ χ"⟩,
  ⟨0x1D78, 0x1D78, 1, "н"⟩,
  ⟨0x1D9B, 0x1DBB, 1, "ɒ c ɕ ð ɜ f ɟ ɡ ɥ ɨ ɩ ɪ ᵻ ʝ ɭ ᶅ ʟ ɱ ɰ ɲ ɳ ɴ ɵ ɸ ʂ ʃ ƫ ʉ ʊ ᴜ ʋ ʌ z"⟩,
  ⟨0x1DBC, 0x1DBF, 1, "ʐ ʑ ʒ θ"⟩
]

/-- The substitutes in the additional Latin and Greek letters with accents. -/
def accentedSubstitutes : List Substitutes := [
  ⟨0x1E00, 0x1E40, 2, "ḁ ḃ ḅ ḇ ḉ ḋ ḍ ḏ ḑ ḓ ḕ ḗ ḙ ḛ ḝ ḟ ḡ ḣ ḥ ḧ ḩ ḫ ḭ ḯ ḱ ḳ ḵ ḷ ḹ ḻ ḽ ḿ ṁ"⟩,
  ⟨0x1E42, 0x1E82, 2, "ṃ ṅ ṇ ṉ ṋ ṍ ṏ ṑ ṓ ṕ ṗ ṙ ṛ ṝ ṟ ṡ ṣ ṥ ṧ ṩ ṫ ṭ ṯ ṱ ṳ ṵ ṷ ṹ ṻ ṽ ṿ ẁ ẃ"⟩,
  ⟨0x1E84, 0x1E94, 2, "ẅ ẇ ẉ ẋ ẍ ẏ ẑ ẓ ẕ"⟩,
  ⟨0x1E9A, 0x1E9B, 1, "aʾ ṡ"⟩,
  ⟨0x1E9E, 0x1EDE, 2, "ß ạ ả ấ ầ ẩ ẫ ậ ắ ằ ẳ ẵ ặ ẹ ẻ ẽ ế ề ể ễ ệ ỉ ị ọ ỏ ố ồ ổ ỗ ộ ớ ờ ở"⟩,
  ⟨0x1EE0, 0x1EFE, 2, "ỡ ợ ụ ủ ứ ừ ử ữ ự ỳ ỵ ỷ ỹ ỻ ỽ ỿ"⟩,
  ⟨0x1F08, 0x1F0F, 1, "ἀ ἁ ἂ ἃ ἄ ἅ ἆ ἇ"⟩,
  ⟨0x1F18, 0x1F1D, 1, "ἐ ἑ ἒ ἓ ἔ ἕ"⟩,
  ⟨0x1F28, 0x1F2F, 1, "ἠ ἡ ἢ ἣ ἤ ἥ ἦ ἧ"⟩,
  ⟨0x1F38, 0x1F3F, 1, "ἰ ἱ ἲ ἳ ἴ ἵ ἶ ἷ"⟩,
  ⟨0x1F48, 0x1F4D, 1, "ὀ ὁ ὂ ὃ ὄ ὅ"⟩,
  ⟨0x1F59, 0x1F5F, 2, "ὑ ὓ ὕ ὗ"⟩,
  ⟨0x1F68, 0x1F6F, 1, "ὠ ὡ ὢ ὣ ὤ ὥ ὦ ὧ"⟩,
  ⟨0x1F71, 0x1F7D, 2, "ά έ ή ί ό ύ ώ"⟩,
  ⟨0x1F80, 0x1F95, 1, "ἀι ἁι ἂι ἃι ἄι ἅι ἆι ἇι ἀι ἁι ἂι ἃι ἄι ἅι ἆι ἇι ἠι ἡι ἢι ἣι ἤι ἥι"⟩,
  ⟨0x1F96, 0x1FAB, 1, "ἦι ἧι ἠι ἡι ἢι ἣι ἤι ἥι ἦι ἧι ὠι ὡι ὢι ὣι ὤι ὥι ὦι ὧι ὠι ὡι ὢι ὣι"⟩,
  ⟨0x1FAC, 0x1FAF, 1, "ὤι ὥι ὦι ὧι"⟩,
  ⟨0x1FB2, 0x1FB4, 1, "ὰι αι άι"⟩,
  ⟨0x1FB7, 0x1FBC, 1, "ᾶι ᾰ ᾱ ὰ ά αι"⟩,
  ⟨0x1FBE, 0x1FBE, 1, "ι"⟩,
  ⟨0x1FC2, 0x1FC4, 1, "ὴι ηι ήι"⟩,
  ⟨0x1FC7, 0x1FCC, 1, "ῆι ὲ έ ὴ ή ηι"⟩,
  ⟨0x1FD3, 0x1FD3, 1, "ΐ"⟩,
  ⟨0x1FD8, 0x1FDB, 1, "ῐ ῑ ὶ ί"⟩,
  ⟨0x1FE3, 0x1FE3, 1, "ΰ"⟩,
  ⟨0x1FE8, 0x1FEC, 1, "ῠ ῡ ὺ ύ ῥ"⟩,
  ⟨0x1FEF, 0x1FEF, 1, "\x60"⟩,
  ⟨0x1FF2, 0x1FF4, 1, "ὼι ωι ώι"⟩,
  ⟨0x1FF7, 0x1FFC, 1, "ῶι ὸ ό ὼ ώ ωι"⟩
]

/-- The substitutes in the blocks of punctuation, letter-like symbols, enclosed letters and radicals. -/
def symbolSubstitutes : List Substitutes := [
  ⟨0x2011, 0x2011, 1, "‐"⟩,
  ⟨0x2033, 0x2034, 1, "′′ ′′′"⟩,
  ⟨0x2036, 0x2037, 1, "‵‵ ‵‵‵"⟩,
  ⟨0x203C, 0x203C, 1, "!!"⟩,
  ⟨0x2047, 0x2049, 1, "?? ?! !?"⟩,
  ⟨0x2057, 0x2057, 1, "′′′′"⟩,
  ⟨0x2070, 0x2071, 1, "0 i"⟩,
  ⟨0x2074, 0x208E, 1, "4 5 6 7 8 9 + − = ( ) n 0 1 2 3 4 5 6 7 8 9 + − = ( )"⟩,
  ⟨0x2090, 0x209C, 1, "a e o x ə h k l m n p s t"⟩,
  ⟨0x20A8, 0x20A8, 1, "rs"⟩,
  ⟨0x2100, 0x2103, 1, "a/c a/s c °c"⟩,
  ⟨0x2105, 0x2115, 2, "c/o ɛ °f h h ħ i l n"⟩,
  ⟨0x2106, 0x2106, 1, "c/u"⟩,
  ⟨0x210A, 0x2112, 2, "g h h i l"⟩,
  ⟨0x2116, 0x2116, 1, "no"⟩,
  ⟨0x2119, 0x211D, 1, "p q r r r"⟩,
  ⟨0x2120, 0x212C, 2, "sm tm z ω z k b"⟩,
  ⟨0x2121, 0x2121, 1, "tel"⟩,
  ⟨0x212B, 0x213F, 2, "å c e f m א ג i fax γ π"⟩,
  ⟨0x2130, 0x2138, 2, "e ⅎ o ב ד"⟩,
  ⟨0x213C, 0x2140, 2, "π γ ∑"⟩,
  ⟨0x2145, 0x2149, 1, "d d e i j"⟩,
  ⟨0x2150, 0x2160, 1, "1⁄7 1⁄9 1⁄10 1⁄3 2⁄3 1⁄5 2⁄5 3⁄5 4⁄5 1⁄6 5⁄6 1⁄8 3⁄8 5⁄8 7⁄8 1⁄ i"⟩,
  ⟨0x2161, 0x2176, 1, "ii iii iv v vi vii viii ix x xi xii l c d m i ii iii iv v vi vii"⟩,
  ⟨0x2177, 0x217F, 1, "viii ix x xi xii l c d m"⟩,
  ⟨0x2183, 0x2183, 1, "ↄ"⟩,
  ⟨0x2189, 0x2189, 1, "0⁄3"⟩,
  ⟨0x222C, 0x222D, 1, "∫∫ ∫∫∫"⟩,
  ⟨0x222F, 0x2230, 1, "∮∮ ∮∮∮"⟩,
  ⟨0x2329, 0x232A, 1, "〈 〉"⟩,
  ⟨0x2460, 0x2477, 1, "1 2 3 4 5 6 7 8 9 10 11 12 13 14 15 16 17 18 19 20 (1) (2) (3) (4)"⟩,
  ⟨0x2478, 0x2485, 1, "(5) (6) (7) (8) (9) (10) (11) (12) (13) (14) (15) (16) (17) (18)"⟩,
  ⟨0x2486, 0x2487, 1, "(19) (20)"⟩,
  ⟨0x249C, 0x24AB, 1, "(a) (b) (c) (d) (e) (f) (g) (h) (i) (j) (k) (l) (m) (n) (o) (p)"⟩,
  ⟨0x24AC, 0x24C2, 1, "(q) (r) (s) (t) (u) (v) (w) (x) (y) (z) a b c d e f g h i j k l m"⟩,
  ⟨0x24C3, 0x24E3, 1, "n o p q r s t u v w x y z a b c d e f g h i j k l m n o p q r s t"⟩,
  ⟨0x24E4, 0x24EA, 1, "u v w x y z 0"⟩,
  ⟨0x2A0C, 0x2A0C, 1, "∫∫∫∫"⟩,
  ⟨0x2A74, 0x2A76, 1, "::= == ==="⟩,
  ⟨0x2ADC, 0x2ADC, 1, "⫝\u0338"⟩,
  ⟨0x2C00, 0x2C20, 1, "ⰰ ⰱ ⰲ ⰳ ⰴ ⰵ ⰶ ⰷ ⰸ ⰹ ⰺ ⰻ ⰼ ⰽ ⰾ ⰿ ⱀ ⱁ ⱂ ⱃ ⱄ ⱅ ⱆ ⱇ ⱈ ⱉ ⱊ ⱋ ⱌ ⱍ ⱎ ⱏ ⱐ"⟩,
  ⟨0x2C21, 0x2C2F, 1, "ⱑ ⱒ ⱓ ⱔ ⱕ ⱖ ⱗ ⱘ ⱙ ⱚ ⱛ ⱜ ⱝ ⱞ ⱟ"⟩,
  ⟨0x2C60, 0x2C64, 2, "ⱡ ɫ ɽ"⟩,
  ⟨0x2C63, 0x2C63, 1, "ᵽ"⟩,
  ⟨0x2C67, 0x2C6F, 2, "ⱨ ⱪ ⱬ ɑ ɐ"⟩,
  ⟨0x2C6E, 0x2C72, 2, "ɱ ɒ ⱳ"⟩,
  ⟨0x2C75, 0x2C75, 1, "ⱶ"⟩,
  ⟨0x2C7C, 0x2CBC, 2, "j ȿ ⲁ ⲃ ⲅ ⲇ ⲉ ⲋ ⲍ ⲏ ⲑ ⲓ ⲕ ⲗ ⲙ ⲛ ⲝ ⲟ ⲡ ⲣ ⲥ ⲧ ⲩ ⲫ ⲭ ⲯ ⲱ ⲳ ⲵ ⲷ ⲹ ⲻ ⲽ"⟩,
  ⟨0x2CBE, 0x2CE2, 2, "ⲿ ⳁ ⳃ ⳅ ⳇ ⳉ ⳋ ⳍ ⳏ ⳑ ⳓ ⳕ ⳗ ⳙ ⳛ ⳝ ⳟ ⳡ ⳣ"⟩,
  ⟨0x2C7D, 0x2C7F, 2, "v ɀ"⟩,
  ⟨0x2CEB, 0x2CED, 2, "ⳬ ⳮ"⟩,
  ⟨0x2CF2, 0x2CF2, 1, "ⳳ"⟩,
  ⟨0x2D6F, 0x2D6F, 1, "ⵡ"⟩,
  ⟨0x2E9F, 0x2E9F, 1, "母"⟩,
  ⟨0x2EF3, 0x2EF3, 1, "龟"⟩,
  ⟨0x2F00, 0x2F20, 1, "一 丨 丶 丿 乙 亅 二 亠 人 儿 入 八 冂 冖 冫 几 凵 刀 力 勹 匕 匚 匸 十 卜 卩 厂 厶 又 口 囗 土 士"⟩,
  ⟨0x2F21, 0x2F41, 1, "夂 夊 夕 大 女 子 宀 寸 小 尢 尸 屮 山 巛 工 己 巾 干 幺 广 廴 廾 弋 弓 彐 彡 彳 心 戈 戶 手 支 攴"⟩,
  ⟨0x2F42, 0x2F62, 1, "文 斗 斤 方 无 日 曰 月 木 欠 止 歹 殳 毋 比 毛 氏 气 水 火 爪 父 爻 爿 片 牙 牛 犬 玄 玉 瓜 瓦 甘"⟩,
  ⟨0x2F63, 0x2F83, 1, "生 用 田 疋 疒 癶 白 皮 皿 目 矛 矢 石 示 禸 禾 穴 立 竹 米 糸 缶 网 羊 羽 老 而 耒 耳 聿 肉 臣 自"⟩,
  ⟨0x2F84, 0x2FA4, 1, "至 臼 舌 舛 舟 艮 色 艸 虍 虫 血 行 衣 襾 見 角 言 谷 豆 豕 豸 貝 赤 走 足 身 車 辛 辰 辵 邑 酉 釆"⟩,
  ⟨0x2FA5, 0x2FC5, 1, "里 金 長 門 阜 隶 隹 雨 靑 非 面 革 韋 韭 音 頁 風 飛 食 首 香 馬 骨 高 髟 鬥 鬯 鬲 鬼 魚 鳥 鹵 鹿"⟩,
  ⟨0x2FC6, 0x2FD5, 1, "麥 麻 黃 黍 黑 黹 黽 鼎 鼓 鼠 鼻 齊 齒 龍 龜 龠"⟩
]

/-- The substitutes in the blocks of kana, enclosed and squared East Asian characters. -/
def squaredSubstitutes : List Substitutes := [
  ⟨0x3002, 0x3002, 1, "."⟩,
  ⟨0x3036, 0x303A, 2, "〒 十 卅"⟩,
  ⟨0x3039, 0x3039, 1, "卄"⟩,
  ⟨0x309F, 0x309F, 1, "より"⟩,
  ⟨0x30FF, 0x30FF, 1, "コト"⟩,
  ⟨0x3131, 0x3151, 1, "ᄀ ᄁ ᆪ ᄂ ᆬ ᆭ ᄃ ᄄ ᄅ ᆰ ᆱ ᆲ ᆳ ᆴ ᆵ ᄚ ᄆ ᄇ ᄈ ᄡ ᄉ ᄊ ᄋ ᄌ ᄍ ᄎ ᄏ ᄐ ᄑ ᄒ ᅡ ᅢ ᅣ"⟩,
  ⟨0x3152, 0x3163, 1, "ᅤ ᅥ ᅦ ᅧ ᅨ ᅩ ᅪ ᅫ ᅬ ᅭ ᅮ ᅯ ᅰ ᅱ ᅲ ᅳ ᅴ ᅵ"⟩,
  ⟨0x3165, 0x3185, 1, "ᄔ ᄕ ᇇ ᇈ ᇌ ᇎ ᇓ ᇗ ᇙ ᄜ ᇝ ᇟ ᄝ ᄞ ᄠ ᄢ ᄣ ᄧ ᄩ ᄫ ᄬ ᄭ ᄮ ᄯ ᄲ ᄶ ᅀ ᅇ ᅌ ᇱ ᇲ ᅗ ᅘ"⟩,
  ⟨0x3186, 0x318E, 1, "ᅙ ᆄ ᆅ ᆈ ᆑ ᆒ ᆔ ᆞ ᆡ"⟩,
  ⟨0x3192, 0x319F, 1, "一 二 三 四 上 中 下 甲 乙 丙 丁 天 地 人"⟩,
  ⟨0x3200, 0x321E, 2, "(ᄀ) (ᄃ) (ᄆ) (ᄉ) (ᄌ) (ᄏ) (ᄑ) (가) (다) (마) (사) (자) (카) (파) (주) (오후)"⟩,
  ⟨0x3220, 0x323E, 2, "(一) (三) (五) (七) (九) (月) (水) (金) (日) (有) (名) (財) (労) (呼) (監) (資)"⟩,
  ⟨0x3240, 0x3246, 2, "(祭) (自) 問 文"⟩,
  ⟨0x3201, 0x321D, 2, "(ᄂ) (ᄅ) (ᄇ) (ᄋ) (ᄎ) (ᄐ) (ᄒ) (나) (라) (바) (아) (차) (타) (하) (오전)"⟩,
  ⟨0x3221, 0x323F, 2, "(二) (四) (六) (八) (十) (火) (木) (土) (株) (社) (特) (祝) (代) (学) (企) (協)"⟩,
  ⟨0x3241, 0x3247, 2, "(休) (至) 幼 箏"⟩,
  ⟨0x3250, 0x3286, 2, "pte 22 24 26 28 30 32 34 ᄀ ᄃ ᄆ ᄉ ᄌ ᄏ ᄑ 가 다 마 사 자 카 파 참고 우 一 三 五 七"⟩,
  ⟨0x3288, 0x32C0, 2, "九 月 水 金 日 有 名 財 労 男 適 印 項 写 上 下 右 宗 監 資 夜 37 39 41 43 45 47 49 1月"⟩,
  ⟨0x32C2, 0x32FA, 2, "3月 5月 7月 9月 11月 hg ev ア ウ オ キ ケ サ ス ソ チ テ ナ ヌ ノ ヒ ヘ マ ム モ ユ ラ ル ロ"⟩,
  ⟨0x32FC, 0x3318, 2, "ヰ ヲ アパート アンペア イニング ウォン エーカー オーム カラット ガロン ギガ キュリー キロ キロメートル グラム"⟩,
  ⟨0x331A, 0x3334, 2, "クルゼイロ ケース コーポ サンチーム センチ ダース ドル ナノ ハイツ パーツ ピアストル ピコ ファラッド ブッシェル"⟩,
  ⟨0x3336, 0x3352, 2, "ヘクタール ペニヒ ペンス ベータ ボルト ポンド ホーン マイル マルク ミクロン ミリバール メガトン ヤード ユアン リラ"⟩,
  ⟨0x3354, 0x3374, 2, "ルーブル レントゲン 0点 2点 4点 6点 8点 10点 12点 14点 16点 18点 20点 22点 24点 da bar"⟩,
  ⟨0x3376, 0x339E, 2, "pc dm2 iu 昭和 明治 pa μa ka mb cal pf μf mg hz mhz thz ml kl nm mm km"⟩,
  ⟨0x33A0, 0x33C0, 2, "cm2 km2 cm3 km3 m∕s2 kpa gpa rad∕s ps μs pv μv kv pw μw kw kω"⟩,
  ⟨0x3251, 0x327D, 2, "21 23 25 27 29 31 33 35 ᄂ ᄅ ᄇ ᄋ ᄎ ᄐ ᄒ 나 라 바 아 차 타 하 주의"⟩,
  ⟨0x3281, 0x32BB, 2, "二 四 六 八 十 火 木 土 株 社 特 祝 秘 女 優 注 休 正 中 左 医 学 企 協 36 38 40 42 44 46"⟩,
  ⟨0x32BD, 0x32EF, 2, "48 50 2月 4月 6月 8月 10月 12月 erg ltd イ エ カ ク コ シ セ タ ツ ト ニ ネ ハ フ ホ ミ"⟩,
  ⟨0x32F1, 0x3313, 2, "メ ヤ ヨ リ レ ワ ヱ 令和 アルファ アール インチ エスクード オンス カイリ カロリー ガンマ ギニー ギルダー"⟩,
  ⟨0x3315, 0x332F, 2, "キログラム キロワット グラムトン クローネ コルナ サイクル シリング セント デシ トン ノット パーセント バーレル ピクル"⟩,
  ⟨0x3331, 0x334F, 2, "ビル フィート フラン ペソ ヘルツ ページ ポイント ホン ホール マイクロ マッハ マンション ミリ メガ メートル ヤール"⟩,
  ⟨0x3351, 0x3373, 2, "リットル ルピー レム ワット 1点 3点 5点 7点 9点 11点 13点 15点 17点 19点 21点 23点 hpa au"⟩,
  ⟨0x3375, 0x339B, 2, "ov dm dm3 平成 大正 株式会社 na ma kb gb kcal nf μg kg khz ghz μl dl fm μm"⟩,
  ⟨0x339D, 0x33C1, 2, "cm mm2 m2 mm3 m3 m∕s pa mpa rad rad∕s2 ns ms nv mv mv nw mw mw mω"⟩,
  ⟨0x33C3, 0x33C5, 2, "bq cd"⟩,
  ⟨0x33C4, 0x33D6, 2, "cc c∕kg db ha in km lm log mb mol"⟩,
  ⟨0x33C9, 0x33EF, 2, "gy hp kk kt ln lx mil ph ppm sr wb a∕m 2日 4日 6日 8日 10日 12日 14日 16日"⟩,
  ⟨0x33F1, 0x33FF, 2, "18日 20日 22日 24日 26日 28日 30日 gal"⟩,
  ⟨0x33DA, 0x33FC, 2, "pr sv v∕m 1日 3日 5日 7日 9日 11日 13日 15日 17日 19日 21日 23日 25日 27日 29日"⟩,
  ⟨0x33FE, 0x33FE, 2, "31日"⟩
]

/-- The substitutes in the blocks of late additions to the Latin, Cyrillic, Georgian and Cherokee scripts. -/
def lateSubstitutes : List Substitutes := [
  ⟨0xA640, 0xA66C, 2, "ꙁ ꙃ ꙅ ꙇ ꙉ ꙋ ꙍ ꙏ ꙑ ꙓ ꙕ ꙗ ꙙ ꙛ ꙝ ꙟ ꙡ ꙣ ꙥ ꙧ ꙩ ꙫ ꙭ"⟩,
  ⟨0xA680, 0xA69C, 2, "ꚁ ꚃ ꚅ ꚇ ꚉ ꚋ ꚍ ꚏ ꚑ ꚓ ꚕ ꚗ ꚙ ꚛ ъ"⟩,
  ⟨0xA69D, 0xA69D, 1, "ь"⟩,
  ⟨0xA722, 0xA72E, 2, "ꜣ ꜥ ꜧ ꜩ ꜫ ꜭ ꜯ"⟩,
  ⟨0xA732, 0xA770, 2, "ꜳ ꜵ ꜷ ꜹ ꜻ ꜽ ꜿ ꝁ ꝃ ꝅ ꝇ ꝉ ꝋ ꝍ ꝏ ꝑ ꝓ ꝕ ꝗ ꝙ ꝛ ꝝ ꝟ ꝡ ꝣ ꝥ ꝧ ꝩ ꝫ ꝭ ꝯ ꝯ"⟩,
  ⟨0xA779, 0xA77D, 2, "ꝺ ꝼ ᵹ"⟩,
  ⟨0xA77E, 0xA786, 2, "ꝿ ꞁ ꞃ ꞅ ꞇ"⟩,
  ⟨0xA78B, 0xA78D, 2, "ꞌ ɥ"⟩,
  ⟨0xA790, 0xA792, 2, "ꞑ ꞓ"⟩,
  ⟨0xA796, 0xA7C6, 2, "ꞗ ꞙ ꞛ ꞝ ꞟ ꞡ ꞣ ꞥ ꞧ ꞩ ɦ ɡ ɪ ʞ ʝ ꞵ ꞷ ꞹ ꞻ ꞽ ꞿ ꟁ ꟃ ꞔ ᶎ"⟩,
  ⟨0xA7AB, 0xA7AD, 2, "ɜ ɬ"⟩,
  ⟨0xA7B1, 0xA7B3, 2, "ʇ ꭓ"⟩,
  ⟨0xA7C5, 0xA7CB, 2, "ʂ ꟈ ꟊ ɤ"⟩,
  ⟨0xA7CC, 0xA7DC, 2, "ꟍ ꟏ ꟑ ꟓ ꟕ ꟗ ꟙ ꟛ ƛ"⟩,
  ⟨0xA7F1, 0xA7F5, 1, "s c f q ꟶ"⟩,
  ⟨0xA7F8, 0xA7F9, 1, "ħ œ"⟩,
  ⟨0xAB5C, 0xAB5F, 1, "ꜧ ꬷ ɫ ꭒ"⟩,
  ⟨0xAB69, 0xAB69, 1, "ʍ"⟩,
  ⟨0xAB70, 0xAB90, 1, "Ꭰ Ꭱ Ꭲ Ꭳ Ꭴ Ꭵ Ꭶ Ꭷ Ꭸ Ꭹ Ꭺ Ꭻ Ꭼ Ꭽ Ꭾ Ꭿ Ꮀ Ꮁ Ꮂ Ꮃ Ꮄ Ꮅ Ꮆ Ꮇ Ꮈ Ꮉ Ꮊ Ꮋ Ꮌ Ꮍ Ꮎ Ꮏ Ꮐ"⟩,
  ⟨0xAB91, 0xABB1, 1, "Ꮑ Ꮒ Ꮓ Ꮔ Ꮕ Ꮖ Ꮗ Ꮘ Ꮙ Ꮚ Ꮛ Ꮜ Ꮝ Ꮞ Ꮟ Ꮠ Ꮡ Ꮢ Ꮣ Ꮤ Ꮥ Ꮦ Ꮧ Ꮨ Ꮩ Ꮪ Ꮫ Ꮬ Ꮭ Ꮮ Ꮯ Ꮰ Ꮱ"⟩,
  ⟨0xABB2, 0xABBF, 1, "Ꮲ Ꮳ Ꮴ Ꮵ Ꮶ Ꮷ Ꮸ Ꮹ Ꮺ Ꮻ Ꮼ Ꮽ Ꮾ Ꮿ"⟩
]

/-- The substitutes in the block of compatibility ideographs. -/
def ideographSubstitutes : List Substitutes := [
  ⟨0xF900, 0xF920, 1, "豈 更 車 賈 滑 串 句 龜 龜 契 金 喇 奈 懶 癩 羅 蘿 螺 裸 邏 樂 洛 烙 珞 落 酪 駱 亂 卵 欄 爛 蘭 鸞"⟩,
  ⟨0xF921, 0xF941, 1, "嵐 濫 藍 襤 拉 臘 蠟 廊 朗 浪 狼 郎 來 冷 勞 擄 櫓 爐 盧 老 蘆 虜 路 露 魯 鷺 碌 祿 綠 菉 錄 鹿 論"⟩,
  ⟨0xF942, 0xF962, 1, "壟 弄 籠 聾 牢 磊 賂 雷 壘 屢 樓 淚 漏 累 縷 陋 勒 肋 凜 凌 稜 綾 菱 陵 讀 拏 樂 諾 丹 寧 怒 率 異"⟩,
  ⟨0xF963, 0xF983, 1, "北 磻 便 復 不 泌 數 索 參 塞 省 葉 說 殺 辰 沈 拾 若 掠 略 亮 兩 凉 梁 糧 良 諒 量 勵 呂 女 廬 旅"⟩,
  ⟨0xF984, 0xF9A4, 1, "濾 礪 閭 驪 麗 黎 力 曆 歷 轢 年 憐 戀 撚 漣 煉 璉 秊 練 聯 輦 蓮 連 鍊 列 劣 咽 烈 裂 說 廉 念 捻"⟩,
  ⟨0xF9A5, 0xF9C5, 1, "殮 簾 獵 令 囹 寧 嶺 怜 玲 瑩 羚 聆 鈴 零 靈 領 例 禮 醴 隸 惡 了 僚 寮 尿 料 樂 燎 療 蓼 遼 龍 暈"⟩,
  ⟨0xF9C6, 0xF9E6, 1, "阮 劉 杻 柳 流 溜 琉 留 硫 紐 類 六 戮 陸 倫 崙 淪 輪 律 慄 栗 率 隆 利 吏 履 易 李 梨 泥 理 痢 罹"⟩,
  ⟨0xF9E7, 0xFA07, 1, "裏 裡 里 離 匿 溺 吝 燐 璘 藺 隣 鱗 麟 林 淋 臨 立 笠 粒 狀 炙 識 什 茶 刺 切 度 拓 糖 宅 洞 暴 輻"⟩,
  ⟨0xFA08, 0xFA0D, 1, "行 降 見 廓 兀 嗀"⟩,
  ⟨0xFA10, 0xFA12, 2, "塚 晴"⟩,
  ⟨0xFA15, 0xFA1E, 1, "凞 猪 益 礼 神 祥 福 靖 精 羽"⟩,
  ⟨0xFA20, 0xFA22, 2, "蘒 諸"⟩,
  ⟨0xFA25, 0xFA26, 1, "逸 都"⟩,
  ⟨0xFA2A, 0xFA4A, 1, "飯 飼 館 鶴 郞 隷 侮 僧 免 勉 勤 卑 喝 嘆 器 塀 墨 層 屮 悔 慨 憎 懲 敏 既 暑 梅 海 渚 漢 煮 爫 琢"⟩,
  ⟨0xFA4B, 0xFA6B, 1, "碑 社 祉 祈 祐 祖 祝 禍 禎 穀 突 節 練 縉 繁 署 者 臭 艹 艹 著 褐 視 謁 謹 賓 贈 辶 逸 難 響 頻 恵"⟩,
  ⟨0xFA6C, 0xFA6D, 1, "𤋮 舘"⟩,
  ⟨0xFA70, 0xFA90, 1, "並 况 全 侀 充 冀 勇 勺 喝 啕 喙 嗢 塚 墳 奄 奔 婢 嬨 廒 廙 彩 徭 惘 慎 愈 憎 慠 懲 戴 揄 搜 摒 敖"⟩,
  ⟨0xFA91, 0xFAB1, 1, "晴 朗 望 杖 歹 殺 流 滛 滋 漢 瀞 煮 瞧 爵 犯 猪 瑱 甆 画 瘝 瘟 益 盛 直 睊 着 磌 窱 節 类 絛 練 缾"⟩,
  ⟨0xFAB2, 0xFAD2, 1, "者 荒 華 蝹 襁 覆 視 調 諸 請 謁 諾 諭 謹 變 贈 輸 遲 醙 鉶 陼 難 靖 韛 響 頋 頻 鬒 龜 𢡊 𢡄 𣏕 㮝"⟩,
  ⟨0xFAD3, 0xFAD9, 1, "䀘 䀹 𥉉 𥳐 𧻓 齃 龎"⟩
]

/-- The substitutes in the first blocks of presentation forms. -/
def presentationSubstitutes : List Substitutes := [
  ⟨0xFB00, 0xFB06, 1, "ff fi fl ffi ffl st st"⟩,
  ⟨0xFB13, 0xFB17, 1, "մն մե մի վն մխ"⟩,
  ⟨0xFB1D, 0xFB31, 2, "י\u05b4 ײ\u05b7 א ה ל ר + ש\u05c2 ש\u05bc\u05c2 א\u05b8 ב\u05bc"⟩,
  ⟨0xFB33, 0xFB35, 2, "ד\u05bc ו\u05bc"⟩,
  ⟨0xFB20, 0xFB34, 2, "ע ד כ ם ת ש\u05c1 ש\u05bc\u05c1 א\u05b7 א\u05bc ג\u05bc ה\u05bc"⟩,
  ⟨0xFB36, 0xFB40, 2, "ז\u05bc ט\u05bc ך\u05bc ל\u05bc מ\u05bc נ\u05bc"⟩,
  ⟨0xFB39, 0xFB3B, 2, "י\u05bc כ\u05bc"⟩,
  ⟨0xFB41, 0xFB43, 2, "ס\u05bc ף\u05bc"⟩,
  ⟨0xFB44, 0xFB60, 2, "פ\u05bc צ\u05bc ר\u05bc ת\u05bc ב\u05bf פ\u05bf ٱ ٻ ٻ پ پ ڀ ڀ ٺ ٺ"⟩,
  ⟨0xFB62, 0xFBA2, 2, "ٿ ٿ ٹ ٹ ڤ ڤ ڦ ڦ ڄ ڄ ڃ ڃ چ چ ڇ ڇ ڍ ڌ ڎ ڈ ژ ڑ ک ک گ گ ڳ ڳ ڱ ڱ ں ڻ ڻ"⟩,
  ⟨0xFBA4, 0xFBB0, 2, "ۀ ہ ہ ھ ھ ے ۓ"⟩,
  ⟨0xFB47, 0xFB6F, 2, "ק\u05bc ש\u05bc ו\u05b9 כ\u05bf אל ٱ ٻ ٻ پ پ ڀ ڀ ٺ ٺ ٿ ٿ ٹ ٹ ڤ ڤ ڦ"⟩,
  ⟨0xFB71, 0xFBB1, 2, "ڦ ڄ ڄ ڃ ڃ چ چ ڇ ڇ ڍ ڌ ڎ ڈ ژ ڑ ک ک گ گ ڳ ڳ ڱ ڱ ں ڻ ڻ ۀ ہ ہ ھ ھ ے ۓ"⟩,
  ⟨0xFBD3, 0xFBEF, 1, "ڭ ڭ ڭ ڭ ۇ ۇ ۆ ۆ ۈ ۈ ۇٴ ۋ ۋ ۅ ۅ ۉ ۉ ې ې ې ې ى ى ئا ئا ئە ئە ئو ئو"⟩,
  ⟨0xFBF0, 0xFC06, 1, "ئۇ ئۇ ئۆ ئۆ ئۈ ئۈ ئې ئې ئې ئى ئى ئى ی ی ی ی ئج ئح ئم ئى ئي بج بح"⟩,
  ⟨0xFC07, 0xFC1C, 1, "بخ بم بى بي تج تح تخ تم تى تي ثج ثم ثى ثي جح جم حج حم خج خح خم سج"⟩,
  ⟨0xFC1D, 0xFC32, 1, "سح سخ سم صح صم ضج ضح ضخ ضم طح طم ظم عج عم غج غم فج فح فخ فم فى في"⟩,
  ⟨0xFC33, 0xFC48, 1, "قح قم قى قي كا كج كح كخ كل كم كى كي لج لح لخ لم لى لي مج مح مخ مم"⟩,
  ⟨0xFC49, 0xFC5B, 1, "مى مي نج نح نخ نم نى ني هج هم هى هي يج يح يخ يم يى يي ذ\u0670"⟩,
  ⟨0xFC5C, 0xFC5D, 1, "ر\u0670 ى\u0670"⟩,
  ⟨0xFC64, 0xFC79, 1, "ئر ئز ئم ئن ئى ئي بر بز بم بن بى بي تر تز تم تن تى تي ثر ثز ثم ثن"⟩,
  ⟨0xFC7A, 0xFC8F, 1, "ثى ثي فى في قى قي كا كل كم كى كي لم لى لي ما مم نر نز نم نن نى ني"⟩,
  ⟨0xFC90, 0xFCA3, 1, "ى\u0670 ير يز يم ين يى يي ئج ئح ئخ ئم ئه بج بح بخ بم به تج تح تخ"⟩,
  ⟨0xFCA4, 0xFCB9, 1, "تم ته ثم جح جم حج حم خج خم سج سح سخ سم صح صخ صم ضج ضح ضخ ضم طح ظم"⟩,
  ⟨0xFCBA, 0xFCCF, 1, "عج عم غج غم فج فح فخ فم قح قم كج كح كخ كل كم لج لح لخ لم له مج مح"⟩,
  ⟨0xFCD0, 0xFCE3, 1, "مخ مم نج نح نخ نم نه هج هم ه\u0670 يج يح يخ يم يه ئم ئه بم به تم"⟩,
  ⟨0xFCE4, 0xFCF2, 1, "ته ثم ثه سم سه شم شه كل كم لم نم نه يم يه ـ\u064e\u0651"⟩,
  ⟨0xFCF3, 0xFD01, 1, "ـ\u064f\u0651 ـ\u0650\u0651 طى طي عى عي غى غي سى سي شى شي حى حي جى"⟩,
  ⟨0xFD02, 0xFD17, 1, "جي خى خي صى صي ضى ضي شج شح شخ شم شر سر صر ضر طى طي عى عي غى غي سى"⟩,
  ⟨0xFD18, 0xFD2D, 1, "سي شى شي حى حي جى جي خى خي صى صي ضى ضي شج شح شخ شم شر سر صر ضر شج"⟩,
  ⟨0xFD2E, 0xFD3D, 1, "شح شخ شم سه شه طم سج سح سخ شج شح شخ طم ظم ا\u064b ا\u064b"⟩,
  ⟨0xFD50, 0xFD5F, 1, "تجم تحج تحج تحم تخم تمج تمح تمخ جمح جمح حمي حمى سحج سجح سجى سمح"⟩,
  ⟨0xFD60, 0xFD6F, 1, "سمح سمج سمم سمم صحح صحح صمم شحم شحم شجي شمخ شمخ شمم شمم ضحى ضخم"⟩,
  ⟨0xFD70, 0xFD7F, 1, "ضخم طمح طمح طمم طمي عجم عمم عمم عمى غمم غمي غمى فخم فخم قمح قمم"⟩,
  ⟨0xFD80, 0xFD8F, 1, "لحم لحي لحى لجج لجج لخم لخم لمح لمح محج محم محي مجح مجم مخج مخم"⟩,
  ⟨0xFD92, 0xFDA1, 1, "مجخ همج همم نحم نحى نجم نجم نجى نمي نمى يمم يمم بخي تجي تجى تخي"⟩,
  ⟨0xFDA2, 0xFDB1, 1, "تخى تمي تمى جمي جحى جمى سخى صحي شحي ضحي لجي لمي يحي يجي يمي ممي"⟩,
  ⟨0xFDB2, 0xFDC1, 1, "قمي نحي قمح لحم عمي كمي نجح مخي لجم كمم لجم نجح جحي حجي مجي فمي"⟩,
  ⟨0xFDC2, 0xFDC7, 1, "بحي كمم عجم صمم سخي نجي"⟩,
  ⟨0xFDF0, 0xFDF9, 1, "صلے قلے الله اكبر محمد صلعم رسول عليه وسلم صلى"⟩,
  ⟨0xFDFC, 0xFDFC, 1, "ریال"⟩,
  ⟨0xFE10, 0xFE11, 1, ", 、"⟩,
  ⟨0xFE13, 0xFE18, 1, ": ; ! ? 〖 〗"⟩,
  ⟨0xFE31, 0xFE44, 1, "— – _ _ ( ) \x7b \x7d 〔 〕 【 】 《 》 〈 〉 「 」 『 』"⟩,
  ⟨0xFE47, 0xFE48, 1, "[ ]"⟩,
  ⟨0xFE4D, 0xFE51, 1, "_ _ _ , 、"⟩,
  ⟨0xFE54, 0xFE66, 1, "; : ? ! — ( ) \x7b \x7d 〔 〕 # & * + - < > ="⟩,
  ⟨0xFE68, 0xFE6B, 1, "\\ $ % @"⟩
]

/-- The substitutes in the blocks of small, joined, half-width and full-width forms. -/
def widthSubstitutes : List Substitutes := [
  ⟨0xFE71, 0xFE71, 1, "ـ\u064b"⟩,
  ⟨0xFE77, 0xFE99, 2, "ـ\u064e ـ\u064f ـ\u0650 ـ\u0651 ـ\u0652 آ أ ؤ إ ئ ئ ا ب ب ة ت ت ث"⟩,
  ⟨0xFE9B, 0xFEDB, 2, "ث ج ج ح ح خ خ د ذ ر ز س س ش ش ص ص ض ض ط ط ظ ظ ع ع غ غ ف ف ق ق ك ك"⟩,
  ⟨0xFEDD, 0xFEFB, 2, "ل ل م م ن ن ه ه و ى ي ي لآ لأ لإ لا"⟩,
  ⟨0xFE80, 0xFEC0, 2, "ء آ أ ؤ إ ئ ئ ا ب ب ة ت ت ث ث ج ج ح ح خ خ د ذ ر ز س س ش ش ص ص ض ض"⟩,
  ⟨0xFEC2, 0xFEFC, 2, "ط ط ظ ظ ع ع غ غ ف ف ق ق ك ك ل ل م م ن ن ه ه و ى ي ي لآ لأ لإ لا"⟩,
  ⟨0xFF01, 0xFF21, 1, "! \" # $ % & ' ( ) * + , - . / 0 1 2 3 4 5 6 7 8 9 : ; < = > ? @ a"⟩,
  ⟨0xFF22, 0xFF40, 1, "b c d e f g h i j k l m n o p q r s t u v w x y z [ \\ ] ^ _ \x60"⟩,
  ⟨0xFF41, 0xFF5E, 1, "a b c d e f g h i j k l m n o p q r s t u v w x y z \x7b | \x7d ~"⟩,
  ⟨0xFF5F, 0xFF7F, 1, "⦅ ⦆ . 「 」 、 ・ ヲ ァ ィ ゥ ェ ォ ャ ュ ョ ッ ー ア イ ウ エ オ カ キ ク ケ コ サ シ ス セ ソ"⟩,
  ⟨0xFF80, 0xFF9E, 1, "タ チ ツ テ ト ナ ニ ヌ ネ ノ ハ ヒ フ ヘ ホ マ ミ ム メ モ ヤ ユ ヨ ラ リ ル レ ロ ワ ン \u3099"⟩,
  ⟨0xFF9F, 0xFF9F, 1, "\u309a"⟩,
  ⟨0xFFA1, 0xFFBE, 1, "ᄀ ᄁ ᆪ ᄂ ᆬ ᆭ ᄃ ᄄ ᄅ ᆰ ᆱ ᆲ ᆳ ᆴ ᆵ ᄚ ᄆ ᄇ ᄈ ᄡ ᄉ ᄊ ᄋ ᄌ ᄍ ᄎ ᄏ ᄐ ᄑ ᄒ"⟩,
  ⟨0xFFC2, 0xFFC7, 1, "ᅡ ᅢ ᅣ ᅤ ᅥ ᅦ"⟩,
  ⟨0xFFCA, 0xFFCF, 1, "ᅧ ᅨ ᅩ ᅪ ᅫ ᅬ"⟩,
  ⟨0xFFD2, 0xFFD7, 1, "ᅭ ᅮ ᅯ ᅰ ᅱ ᅲ"⟩,
  ⟨0xFFDA, 0xFFDC, 1, "ᅳ ᅴ ᅵ"⟩,
  ⟨0xFFE0, 0xFFEE, 2, "¢ ¬ ¦ ₩ │ ↑ ↓ ○"⟩,
  ⟨0xFFE1, 0xFFE1, 1, "£"⟩,
  ⟨0xFFE5, 0xFFE5, 1, "¥"⟩,
  ⟨0xFFE9, 0xFFED, 2, "← → ■"⟩
]

/-- The substitutes in the cased scripts beyond the first 65536 characters. -/
def casedSubstitutes : List Substitutes := [
  ⟨0x10400, 0x10420, 1, "𐐨 𐐩 𐐪 𐐫 𐐬 𐐭 𐐮 𐐯 𐐰 𐐱 𐐲 𐐳 𐐴 𐐵 𐐶 𐐷 𐐸 𐐹 𐐺 𐐻 𐐼 𐐽 𐐾 𐐿 𐑀 𐑁 𐑂 𐑃 𐑄 𐑅 𐑆 𐑇 𐑈"⟩,
  ⟨0x10421, 0x10427, 1, "𐑉 𐑊 𐑋 𐑌 𐑍 𐑎 𐑏"⟩,
  ⟨0x104B0, 0x104D0, 1, "𐓘 𐓙 𐓚 𐓛 𐓜 𐓝 𐓞 𐓟 𐓠 𐓡 𐓢 𐓣 𐓤 𐓥 𐓦 𐓧 𐓨 𐓩 𐓪 𐓫 𐓬 𐓭 𐓮 𐓯 𐓰 𐓱 𐓲 𐓳 𐓴 𐓵 𐓶 𐓷 𐓸"⟩,
  ⟨0x104D1, 0x104D3, 1, "𐓹 𐓺 𐓻"⟩,
  ⟨0x10570, 0x10594, 2, "𐖗 𐖙 𐖛 𐖝 𐖟 𐖡 𐖣 𐖥 𐖧 𐖩 𐖫 𐖭 𐖯 𐖱 𐖳 𐖵 𐖷 𐖹 𐖻"⟩,
  ⟨0x10571, 0x10579, 2, "𐖘 𐖚 𐖜 𐖞 𐖠"⟩,
  ⟨0x1057D, 0x10589, 2, "𐖤 𐖦 𐖨 𐖪 𐖬 𐖮 𐖰"⟩,
  ⟨0x1058D, 0x10591, 2, "𐖴 𐖶 𐖸"⟩,
  ⟨0x10595, 0x10595, 1, "𐖼"⟩,
  ⟨0x10781, 0x107AF, 2, "ː æ ɓ ʣ ʥ ɖ ᶑ ɞ ɤ ɠ ħ ɧ ʪ ɬ ꞎ 𝼅 𝼆 ɶ q 𝼈 ɾ ʨ ꭧ ʈ"⟩,
  ⟨0x10782, 0x10784, 2, "ˑ ʙ"⟩,
  ⟨0x10788, 0x107BA, 2, "ꭦ ʤ ɗ ɘ ʩ ɢ ʛ ʜ ʄ ʫ 𝼄 ɮ ʎ ø ɷ ɺ ɽ ʀ ʦ ʧ ⱱ ʏ ʢ ǀ ǂ 𝼞"⟩,
  ⟨0x107B3, 0x107B9, 2, "ʡ ʘ ǁ 𝼊"⟩,
  ⟨0x10C80, 0x10CA0, 1, "𐳀 𐳁 𐳂 𐳃 𐳄 𐳅 𐳆 𐳇 𐳈 𐳉 𐳊 𐳋 𐳌 𐳍 𐳎 𐳏 𐳐 𐳑 𐳒 𐳓 𐳔 𐳕 𐳖 𐳗 𐳘 𐳙 𐳚 𐳛 𐳜 𐳝 𐳞 𐳟 𐳠"⟩,
  ⟨0x10CA1, 0x10CB2, 1, "𐳡 𐳢 𐳣 𐳤 𐳥 𐳦 𐳧 𐳨 𐳩 𐳪 𐳫 𐳬 𐳭 𐳮 𐳯 𐳰 𐳱 𐳲"⟩,
  ⟨0x10D50, 0x10D65, 1, "𐵰 𐵱 𐵲 𐵳 𐵴 𐵵 𐵶 𐵷 𐵸 𐵹 𐵺 𐵻 𐵼 𐵽 𐵾 𐵿 𐶀 𐶁 𐶂 𐶃 𐶄 𐶅"⟩,
  ⟨0x118A0, 0x118BF, 1, "𑣀 𑣁 𑣂 𑣃 𑣄 𑣅 𑣆 𑣇 𑣈 𑣉 𑣊 𑣋 𑣌 𑣍 𑣎 𑣏 𑣐 𑣑 𑣒 𑣓 𑣔 𑣕 𑣖 𑣗 𑣘 𑣙 𑣚 𑣛 𑣜 𑣝 𑣞 𑣟"⟩,
  ⟨0x16E40, 0x16E5F, 1, "𖹠 𖹡 𖹢 𖹣 𖹤 𖹥 𖹦 𖹧 𖹨 𖹩 𖹪 𖹫 𖹬 𖹭 𖹮 𖹯 𖹰 𖹱 𖹲 𖹳 𖹴 𖹵 𖹶 𖹷 𖹸 𖹹 𖹺 𖹻 𖹼 𖹽 𖹾 𖹿"⟩,
  ⟨0x16EA0, 0x16EB8, 1, "𖺻 𖺼 𖺽 𖺾 𖺿 𖻀 𖻁 𖻂 𖻃 𖻄 𖻅 𖻆 𖻇 𖻈 𖻉 𖻊 𖻋 𖻌 𖻍 𖻎 𖻏 𖻐 𖻑 𖻒 𖻓"⟩,
  ⟨0x1CCD6, 0x1CCF6, 1, "a b c d e f g h i j k l m n o p q r s t u v w x y z 0 1 2 3 4 5 6"⟩,
  ⟨0x1CCF7, 0x1CCF9, 1, "7 8 9"⟩,
  ⟨0x1D15E, 0x1D164, 1, "𝅗𝅥 𝅘𝅥 𝅘𝅥𝅮 𝅘𝅥𝅯 𝅘𝅥𝅰 𝅘𝅥𝅱 𝅘𝅥𝅲"⟩,
  ⟨0x1D1BB, 0x1D1C0, 1, "𝆹𝅥 𝆺𝅥 𝆹𝅥𝅮 𝆺𝅥𝅮 𝆹𝅥𝅯 𝆺𝅥𝅯"⟩
]

/-- The substitutes in the mathematical alphabets. -/
def mathematicalSubstitutes : List Substitutes := [
  ⟨0x1D400, 0x1D420, 1, "a b c d e f g h i j k l m n o p q r s t u v w x y z a b c d e f g"⟩,
  ⟨0x1D421, 0x1D441, 1, "h i j k l m n o p q r s t u v w x y z a b c d e f g h i j k l m n"⟩,
  ⟨0x1D442, 0x1D454, 1, "o p q r s t u v w x y z a b c d e f g"⟩,
  ⟨0x1D456, 0x1D476, 1, "i j k l m n o p q r s t u v w x y z a b c d e f g h i j k l m n o"⟩,
  ⟨0x1D477, 0x1D497, 1, "p q r s t u v w x y z a b c d e f g h i j k l m n o p q r s t u v"⟩,
  ⟨0x1D498, 0x1D49C, 1, "w x y z a"⟩,
  ⟨0x1D49E, 0x1D49F, 1, "c d"⟩,
  ⟨0x1D4A2, 0x1D4A2, 1, "g"⟩,
  ⟨0x1D4A5, 0x1D4A6, 1, "j k"⟩,
  ⟨0x1D4A9, 0x1D4AC, 1, "n o p q"⟩,
  ⟨0x1D4AE, 0x1D4B9, 1, "s t u v w x y z a b c d"⟩,
  ⟨0x1D4BB, 0x1D4FB, 2, "f h j l n p r t v x z b d f h j l n p r t v x z b d f h j l n p r"⟩,
  ⟨0x1D4FD, 0x1D509, 2, "t v x z b d f"⟩,
  ⟨0x1D4BE, 0x1D4C2, 2, "i k m"⟩,
  ⟨0x1D4C6, 0x1D504, 2, "q s u w y a c e g i k m o q s u w y a c e g i k m o q s u w y a"⟩,
  ⟨0x1D508, 0x1D50A, 2, "e g"⟩,
  ⟨0x1D50D, 0x1D514, 1, "j k l m n o p q"⟩,
  ⟨0x1D516, 0x1D538, 2, "s u w y a c e g i k m o q s u w y a"⟩,
  ⟨0x1D517, 0x1D51B, 2, "t v x"⟩,
  ⟨0x1D51F, 0x1D53D, 2, "b d f h j l n p r t v x z b d f"⟩,
  ⟨0x1D53C, 0x1D546, 2, "e g i k m o"⟩,
  ⟨0x1D541, 0x1D543, 2, "j l"⟩,
  ⟨0x1D54A, 0x1D58A, 2, "s u w y a c e g i k m o q s u w y a c e g i k m o q s u w y a c e"⟩,
  ⟨0x1D58C, 0x1D5CC, 2, "g i k m o q s u w y a c e g i k m o q s u w y a c e g i k m o q s"⟩,
  ⟨0x1D5CE, 0x1D60E, 2, "u w y a c e g i k m o q s u w y a c e g i k m o q s u w y a c e g"⟩,
  ⟨0x1D610, 0x1D650, 2, "i k m o q s u w y a c e g i k m o q s u w y a c e g i k m o q s u"⟩,
  ⟨0x1D652, 0x1D692, 2, "w y a c e g i k m o q s u w y a c e g i k m o q s u w y a c e g i"⟩,
  ⟨0x1D694, 0x1D6A4, 2, "k m o q s u w y ı"⟩,
  ⟨0x1D54B, 0x1D54F, 2, "t v x"⟩,
  ⟨0x1D553, 0x1D593, 2, "b d f h j l n p r t v x z b d f h j l n p r t v x z b d f h j l n"⟩,
  ⟨0x1D595, 0x1D5D5, 2, "p r t v x z b d f h j l n p r t v x z b d f h j l n p r t v x z b"⟩,
  ⟨0x1D5D7, 0x1D617, 2, "d f h j l n p r t v x z b d f h j l n p r t v x z b d f h j l n p"⟩,
  ⟨0x1D619, 0x1D659, 2, "r t v x z b d f h j l n p r t v x z b d f h j l n p r t v x z b d"⟩,
  ⟨0x1D65B, 0x1D69B, 2, "f h j l n p r t v x z b d f h j l n p r t v x z b d f h j l n p r"⟩,
  ⟨0x1D69D, 0x1D6A5, 2, "t v x z ȷ"⟩,
  ⟨0x1D6A8, 0x1D6C8, 1, "α β γ δ ε ζ η θ ι κ λ μ ν ξ ο π ρ θ σ τ υ φ χ ψ ω ∇ α β γ δ ε ζ η"⟩,
  ⟨0x1D6C9, 0x1D6E9, 1, "θ ι κ λ μ ν ξ ο π ρ σ σ τ υ φ χ ψ ω ∂ ε θ κ φ ρ π α β γ δ ε ζ η θ"⟩,
  ⟨0x1D6EA, 0x1D70A, 1, "ι κ λ μ ν ξ ο π ρ θ σ τ υ φ χ ψ ω ∇ α β γ δ ε ζ η θ ι κ λ μ ν ξ ο"⟩,
  ⟨0x1D70B, 0x1D72B, 1, "π ρ σ σ τ υ φ χ ψ ω ∂ ε θ κ φ ρ π α β γ δ ε ζ η θ ι κ λ μ ν ξ ο π"⟩,
  ⟨0x1D72C, 0x1D74C, 1, "ρ θ σ τ υ φ χ ψ ω ∇ α β γ δ ε ζ η θ ι κ λ μ ν ξ ο π ρ σ σ τ υ φ χ"⟩,
  ⟨0x1D74D, 0x1D76D, 1, "ψ ω ∂ ε θ κ φ ρ π α β γ δ ε ζ η θ ι κ λ μ ν ξ ο π ρ θ σ τ υ φ χ ψ"⟩,
  ⟨0x1D76E, 0x1D78E, 1, "ω ∇ α β γ δ ε ζ η θ ι κ λ μ ν ξ ο π ρ σ σ τ υ φ χ ψ ω ∂ ε θ κ φ ρ"⟩,
  ⟨0x1D78F, 0x1D7AF, 1, "π α β γ δ ε ζ η θ ι κ λ μ ν ξ ο π ρ θ σ τ υ φ χ ψ ω ∇ α β γ δ ε ζ"⟩,
  ⟨0x1D7B0, 0x1D7CB, 1, "η θ ι κ λ μ ν ξ ο π ρ σ σ τ υ φ χ ψ ω ∂ ε θ κ φ ρ π ϝ ϝ"⟩,
  ⟨0x1D7CE, 0x1D7EE, 1, "0 1 2 3 4 5 6 7 8 9 0 1 2 3 4 5 6 7 8 9 0 1 2 3 4 5 6 7 8 9 0 1 2"⟩,
  ⟨0x1D7EF, 0x1D7FF, 1, "3 4 5 6 7 8 9 0 1 2 3 4 5 6 7 8 9"⟩,
  ⟨0x1E030, 0x1E050, 1, "а б в г д е ж з и к л м о п р с т у ф х ц ч ш ы э ю ꚉ ә і ј ө ү ӏ"⟩,
  ⟨0x1E051, 0x1E06D, 1, "а б в г д е ж з и к л о п с у ф х ц ч ш ъ ы ґ і ѕ џ ҫ ꙑ ұ"⟩,
  ⟨0x1E900, 0x1E920, 1, "𞤢 𞤣 𞤤 𞤥 𞤦 𞤧 𞤨 𞤩 𞤪 𞤫 𞤬 𞤭 𞤮 𞤯 𞤰 𞤱 𞤲 𞤳 𞤴 𞤵 𞤶 𞤷 𞤸 𞤹 𞤺 𞤻 𞤼 𞤽 𞤾 𞤿 𞥀 𞥁 𞥂"⟩,
  ⟨0x1E921, 0x1E921, 1, "𞥃"⟩
]

/-- The substitutes in the Arabic mathematical alphabets and the enclosed letters and ideographs. -/
def arabicMathSubstitutes : List Substitutes := [
  ⟨0x1EE00, 0x1EE03, 1, "ا ب ج د"⟩,
  ⟨0x1EE05, 0x1EE1F, 1, "و ز ح ط ي ك ل م ن س ع ف ص ق ر ش ت ث خ ذ ض ظ غ ٮ ں ڡ ٯ"⟩,
  ⟨0x1EE21, 0x1EE22, 1, "ب ج"⟩,
  ⟨0x1EE24, 0x1EE24, 1, "ه"⟩,
  ⟨0x1EE27, 0x1EE31, 2, "ح ي ل ن ع ص"⟩,
  ⟨0x1EE2A, 0x1EE36, 2, "ك م س ف ق ش ث"⟩,
  ⟨0x1EE35, 0x1EE3B, 2, "ت خ ض غ"⟩,
  ⟨0x1EE42, 0x1EE42, 1, "ج"⟩,
  ⟨0x1EE47, 0x1EE51, 2, "ح ي ل ن ع ص"⟩,
  ⟨0x1EE4E, 0x1EE4E, 1, "س"⟩,
  ⟨0x1EE52, 0x1EE54, 2, "ق ش"⟩,
  ⟨0x1EE57, 0x1EE61, 2, "خ ض غ ں ٯ ب"⟩,
  ⟨0x1EE62, 0x1EE64, 2, "ج ه"⟩,
  ⟨0x1EE67, 0x1EE6A, 1, "ح ط ي ك"⟩,
  ⟨0x1EE6C, 0x1EE72, 1, "م ن س ع ف ص ق"⟩,
  ⟨0x1EE74, 0x1EE77, 1, "ش ت ث خ"⟩,
  ⟨0x1EE79, 0x1EE7C, 1, "ض ظ غ ٮ"⟩,
  ⟨0x1EE7E, 0x1EE88, 2, "ڡ ا ج ه ز ط"⟩,
  ⟨0x1EE81, 0x1EE9B, 2, "ب د و ح ي ل ن ع ص ر ت خ ض غ"⟩,
  ⟨0x1EE8C, 0x1EE9A, 2, "م س ف ق ش ث ذ ظ"⟩,
  ⟨0x1EEA1, 0x1EEBB, 2, "ب د و ح ي ل ن ع ص ر ت خ ض غ"⟩,
  ⟨0x1EEA2, 0x1EEA2, 1, "ج"⟩,
  ⟨0x1EEA6, 0x1EEA8, 2, "ز ط"⟩,
  ⟨0x1EEAC, 0x1EEBA, 2, "م س ف ق ش ث ذ ظ"⟩,
  ⟨0x1F101, 0x1F10A, 1, "0, 1, 2, 3, 4, 5, 6, 7, 8, 9,"⟩,
  ⟨0x1F110, 0x1F134, 2, "(a) (c) (e) (g) (i) (k) (m) (o) (q) (s) (u) (w) (y) 〔s〕 r wz a c e"⟩,
  ⟨0x1F136, 0x1F14E, 2, "g i k m o q s u w y hv sd ppv"⟩,
  ⟨0x1F111, 0x1F12D, 2, "(b) (d) (f) (h) (j) (l) (n) (p) (r) (t) (v) (x) (z) c cd"⟩,
  ⟨0x1F131, 0x1F14F, 2, "b d f h j l n p r t v x z mv ss wc"⟩,
  ⟨0x1F16A, 0x1F16C, 1, "mc md mr"⟩,
  ⟨0x1F190, 0x1F190, 1, "dj"⟩,
  ⟨0x1F200, 0x1F202, 1, "ほか ココ サ"⟩,
  ⟨0x1F210, 0x1F230, 1, "手 字 双 デ 二 多 解 天 交 映 無 料 前 後 再 新 初 終 生 販 声 吹 演 投 捕 一 三 遊 左 中 右 指 走"⟩,
  ⟨0x1F231, 0x1F23B, 1, "打 禁 空 合 満 有 月 申 割 営 配"⟩,
  ⟨0x1F240, 0x1F248, 1, "〔本〕 〔三〕 〔二〕 〔安〕 〔点〕 〔打〕 〔盗〕 〔勝〕 〔敗〕"⟩,
  ⟨0x1F250, 0x1F251, 1, "得 可"⟩,
  ⟨0x1FBF0, 0x1FBF9, 1, "0 1 2 3 4 5 6 7 8 9"⟩
]

/-- The substitutes in the supplement of compatibility ideographs. -/
def supplementarySubstitutes : List Substitutes := [
  ⟨0x2F800, 0x2F820, 1, "丽 丸 乁 𠄢 你 侮 侻 倂 偺 備 僧 像 㒞 𠘺 免 兔 兤 具 𠔜 㒹 內 再 𠕋 冗 冤 仌 冬 况 𩇟 凵 刃 㓟 刻"⟩,
  ⟨0x2F821, 0x2F841, 1, "剆 割 剷 㔕 勇 勉 勤 勺 包 匆 北 卉 卑 博 即 卽 卿 卿 卿 𠨬 灰 及 叟 𠭣 叫 叱 吆 咞 吸 呈 周 咢 哶"⟩,
  ⟨0x2F842, 0x2F862, 1, "唐 啓 啣 善 善 喙 喫 喳 嗂 圖 嘆 圗 噑 噴 切 壮 城 埴 堍 型 堲 報 墬 𡓤 売 壷 夆 多 夢 奢 𡚨 𡛪 姬"⟩,
  ⟨0x2F863, 0x2F883, 1, "娛 娧 姘 婦 㛮 㛼 嬈 嬾 嬾 𡧈 寃 寘 寧 寳 𡬘 寿 将 当 尢 㞁 屠 屮 峀 岍 𡷤 嵃 𡷦 嵮 嵫 嵼 巡 巢 㠯"⟩,
  ⟨0x2F884, 0x2F8A4, 1, "巽 帨 帽 幩 㡢 𢆃 㡼 庰 庳 庶 廊 𪎒 廾 𢌱 𢌱 舁 弢 弢 㣇 𣊸 𦇚 形 彫 㣣 徚 忍 志 忹 悁 㤺 㤜 悔 𢛔"⟩,
  ⟨0x2F8A5, 0x2F8C5, 1, "惇 慈 慌 慎 慌 慺 憎 憲 憤 憯 懞 懲 懶 成 戛 扝 抱 拔 捐 𢬌 挽 拼 捨 掃 揤 𢯱 搢 揅 掩 㨮 摩 摾 撝"⟩,
  ⟨0x2F8C6, 0x2F8E6, 1, "摷 㩬 敏 敬 𣀊 旣 書 晉 㬙 暑 㬈 㫤 冒 冕 最 暜 肭 䏙 朗 望 朡 杞 杓 𣏃 㭉 柺 枅 桒 梅 𣑭 梎 栟 椔"⟩,
  ⟨0x2F8E7, 0x2F907, 1, "㮝 楂 榣 槪 檨 𣚣 櫛 㰘 次 𣢧 歔 㱎 歲 殟 殺 殻 𣪍 𡴋 𣫺 汎 𣲼 沿 泍 汧 洖 派 海 流 浩 浸 涅 𣴞 洴"⟩,
  ⟨0x2F908, 0x2F928, 1, "港 湮 㴳 滋 滇 𣻑 淹 潮 𣽞 𣾎 濆 瀹 瀞 瀛 㶖 灊 災 灷 炭 𠔥 煅 𤉣 熜 𤎫 爨 爵 牐 𤘈 犀 犕 𤜵 𤠔 獺"⟩,
  ⟨0x2F929, 0x2F949, 1, "王 㺬 玥 㺸 㺸 瑇 瑜 瑱 璅 瓊 㼛 甤 𤰶 甾 𤲒 異 𢆟 瘐 𤾡 𤾸 𥁄 㿼 䀈 直 𥃳 𥃲 𥄙 𥄳 眞 真 真 睊 䀹"⟩,
  ⟨0x2F94A, 0x2F96A, 1, "瞋 䁆 䂖 𥐝 硎 碌 磌 䃣 𥘦 祖 𥚚 𥛅 福 秫 䄯 穀 穊 穏 𥥼 𥪧 𥪧 竮 䈂 𥮫 篆 築 䈧 𥲀 糒 䊠 糨 糣 紀"⟩,
  ⟨0x2F96B, 0x2F98B, 1, "𥾆 絣 䌁 緇 縂 繅 䌴 𦈨 𦉇 䍙 𦋙 罺 𦌾 羕 翺 者 𦓚 𦔣 聠 𦖨 聰 𣍟 䏕 育 脃 䐋 脾 媵 𦞧 𦞵 𣎓 𣎜 舁"⟩,
  ⟨0x2F98C, 0x2F9AC, 1, "舄 辞 䑫 芑 芋 芝 劳 花 芳 芽 苦 𦬼 若 茝 荣 莭 茣 莽 菧 著 荓 菊 菌 菜 𦰶 𦵫 𦳕 䔫 蓱 蓳 蔖 𧏊 蕤"⟩,
  ⟨0x2F9AD, 0x2F9CD, 1, "𦼬 䕝 䕡 𦾱 𧃒 䕫 虐 虜 虧 虩 蚩 蚈 蜎 蛢 蝹 蜨 蝫 螆 䗗 蟡 蠁 䗹 衠 衣 𧙧 裗 裞 䘵 裺 㒻 𧢮 𧥦 䚾"⟩,
  ⟨0x2F9CE, 0x2F9EE, 1, "䛇 誠 諭 變 豕 𧲨 貫 賁 贛 起 𧼯 𠠄 跋 趼 跰 𠣞 軔 輸 𨗒 𨗭 邔 郱 鄑 𨜮 鄛 鈸 鋗 鋘 鉼 鏹 鐕 𨯺 開"⟩,
  ⟨0x2F9EF, 0x2FA0F, 1, "䦕 閷 𨵷 䧦 雃 嶲 霣 𩅅 𩈚 䩮 䩶 韠 𩐊 䪲 𩒖 頋 頋 頩 𩖶 飢 䬳 餩 馧 駂 駾 䯎 𩬰 鬒 鱀 鳽 䳎 䳭 鵧"⟩,
  ⟨0x2FA10, 0x2FA1D, 1, "𪃎 䳸 𪄅 𪈎 𪊑 麻 䵖 黹 黾 鼅 鼏 鼖 鼻 𪘀"⟩
]

/-- All substitutes, in ascending blocks. -/
def substitutes : List Substitutes :=
  latinSubstitutes ++ scriptSubstitutes ++ accentedSubstitutes ++ symbolSubstitutes ++
    squaredSubstitutes ++ lateSubstitutes ++ ideographSubstitutes ++ presentationSubstitutes ++
    widthSubstitutes ++ casedSubstitutes ++ mathematicalSubstitutes ++ arabicMathSubstitutes ++
    supplementarySubstitutes

/-- The text that stands for a character, if it has a substitute. -/
def substitute? (n : Nat) : Option (List Char) := do
  let run ← substitutes.find? fun s => s.first ≤ n && n ≤ s.last && (n - s.first) % s.step = 0
  (Text.splitAt ' ' run.texts.toList)[(n - run.first) / run.step]?

/-- The characters that do not count in a name: the soft hyphen, fillers, selectors and invisible
operators. -/
def ignoredRanges : List (Nat × Nat) := [
  (0xAD, 0xAD), (0x34F, 0x34F), (0x115F, 0x1160), (0x17B4, 0x17B5), (0x180B, 0x180F),
  (0x200B, 0x200B), (0x2060, 0x2064), (0x206A, 0x206F), (0x3164, 0x3164), (0xFE00, 0xFE0F),
  (0xFEFF, 0xFEFF), (0xFFA0, 0xFFA0), (0x1BCA0, 0x1BCA3), (0x1D173, 0x1D17A), (0xE0100, 0xE01EF)
]

/-- The characters with a visible form that cannot stand in a name: those that stand for a text with a
blank or a full stop in it, the signs that describe ideographs, and the replacement characters. -/
def excludedRanges : List (Nat × Nat) := [
  (0xA8, 0xA8), (0xAF, 0xAF), (0xB4, 0xB4), (0xB8, 0xB8), (0x2D8, 0x2DD), (0x37A, 0x37A),
  (0x384, 0x385), (0x1FBD, 0x1FBD), (0x1FBF, 0x1FC1), (0x1FCD, 0x1FCF), (0x1FDD, 0x1FDF),
  (0x1FED, 0x1FEE), (0x1FFD, 0x1FFE), (0x2017, 0x2017), (0x2024, 0x2026), (0x203E, 0x203E),
  (0x2488, 0x249B), (0x2FF0, 0x2FFF), (0x309B, 0x309C), (0x31EF, 0x31EF), (0x33C2, 0x33C2),
  (0x33C7, 0x33C7), (0x33D8, 0x33D8), (0xFC5E, 0xFC63), (0xFDFA, 0xFDFB), (0xFE12, 0xFE12),
  (0xFE19, 0xFE19), (0xFE30, 0xFE30), (0xFE49, 0xFE4C), (0xFE52, 0xFE52), (0xFE70, 0xFE70),
  (0xFE72, 0xFE72), (0xFE74, 0xFE74), (0xFE76, 0xFE76), (0xFE78, 0xFE78), (0xFE7A, 0xFE7A),
  (0xFE7C, 0xFE7C), (0xFE7E, 0xFE7E), (0xFFE3, 0xFFE3), (0xFFFC, 0xFFFD), (0x1F100, 0x1F100)
]

/-- The folded form of a character in a name, none if it cannot stand there. The joiners, which have no
visible form, are kept; whether their place is right depends on their neighbours. -/
def fold? (c : Char) : Option (List Char) :=
  let n := c.toNat
  if n < 0x80 then some [if 0x41 ≤ n ∧ n ≤ 0x5A then Char.ofNat (n + 32) else c]
  else if Text.inRanges ignoredRanges n then some []
  else
    match substitute? n with
    | some text => some text
    | none =>
      if n = 0x200C ∨ n = 0x200D then some [c]
      else if Text.isShown c ∧ !Text.inRanges excludedRanges n then some [c]
      else none

end GatewayOperator.Url.Domain
