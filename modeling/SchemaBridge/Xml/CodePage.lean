/-!
# Code pages

Encodings that spend one byte on every character. In all of them ASCII reads as itself; a page says
what the upper half of the bytes stands for. The tables follow the published standards. A byte to
which a page gives no meaning has U+FFFD in its place.
-/

set_option autoImplicit false

namespace SchemaBridge.Xml

/-- An encoding of one byte per character. -/
structure CodePage where
  /-- The names in capital letters. -/
  names : List String
  /-- The byte of the first character of `upper`. Smaller bytes stand for their code points. -/
  first : Nat
  upper : String := ""

namespace CodePage

/-- The characters of bytes, if the page gives each of the bytes a meaning. -/
def decode? (page : CodePage) (bytes : List Nat) : Option (List Char) :=
  let upper := page.upper.toList.toArray
  bytes.mapM fun byte =>
    if byte < page.first then some (Char.ofNat byte)
    else (upper[byte - page.first]?).filter (· ≠ '\ufffd')

/-! ## The pages -/

/-- The first Latin alphabet, in which every byte is its code point. -/
def latin1 : CodePage where
  names := ["ISO-8859-1", "ISO8859-1", "ISO_8859-1", "ISO-LATIN-1", "LATIN1", "L1", "CP819",
    "IBM819", "ISO-IR-100", "CSISOLATIN1"]
  first := 0x100

/-- ASCII alone. -/
def ascii : CodePage where
  names := ["US-ASCII", "ASCII", "ANSI_X3.4-1968", "ANSI_X3.4-1986", "ISO646-US", "ISO_646.IRV",
    "ISO-IR-6", "US", "CP367", "IBM367", "CSASCII"]
  first := 0x80

/-- The second Latin alphabet. -/
def latin2 : CodePage where
  names := ["ISO-8859-2", "ISO8859-2", "ISO_8859-2", "LATIN2", "L2", "ISO-IR-101", "CSISOLATIN2"]
  first := 0xa0
  upper :=
    "\u00a0Ą˘Ł¤ĽŚ§¨ŠŞŤŹ\u00adŽŻ°ą˛ł´ľśˇ¸šşťź˝žżŔÁÂĂÄĹĆÇČÉĘËĚÍÎĎĐŃŇÓÔŐÖ×ŘŮÚŰÜÝŢßŕáâăäĺćçčéęëěí" ++
      "îďđńňóôőö÷řůúűüýţ˙"

/-- The third Latin alphabet. -/
def latin3 : CodePage where
  names := ["ISO-8859-3", "ISO8859-3", "ISO_8859-3", "LATIN3", "L3", "ISO-IR-109", "CSISOLATIN3"]
  first := 0xa0
  upper :=
    "\u00a0Ħ˘£¤\ufffdĤ§¨İŞĞĴ\u00ad\ufffdŻ°ħ²³´µĥ·¸ışğĵ½\ufffdżÀÁÂ\ufffdÄĊĈÇÈÉÊËÌÍÎÏ\ufffdÑÒÓÔ" ++
      "ĠÖ×ĜÙÚÛÜŬŜßàáâ\ufffdäċĉçèéêëìíîï\ufffdñòóôġö÷ĝùúûüŭŝ˙"

/-- The fourth Latin alphabet. -/
def latin4 : CodePage where
  names := ["ISO-8859-4", "ISO8859-4", "ISO_8859-4", "LATIN4", "L4", "ISO-IR-110", "CSISOLATIN4"]
  first := 0xa0
  upper :=
    "\u00a0ĄĸŖ¤ĨĻ§¨ŠĒĢŦ\u00adŽ¯°ą˛ŗ´ĩļˇ¸šēģŧŊžŋĀÁÂÃÄÅÆĮČÉĘËĖÍÎĪĐŅŌĶÔÕÖ×ØŲÚÛÜŨŪßāáâãäåæįčéęëėí" ++
      "îīđņōķôõö÷øųúûüũū˙"

/-- Latin and Cyrillic letters. -/
def cyrillic : CodePage where
  names := ["ISO-8859-5", "ISO8859-5", "ISO_8859-5", "CYRILLIC", "ISO-IR-144", "CSISOLATINCYRILLIC"]
  first := 0xa0
  upper :=
    "\u00a0ЁЂЃЄЅІЇЈЉЊЋЌ\u00adЎЏАБВГДЕЖЗИЙКЛМНОПРСТУФХЦЧШЩЪЫЬЭЮЯабвгдежзийклмнопрстуфхцчшщъыьэ" ++
      "юя№ёђѓєѕіїјљњћќ§ўџ"

/-- Latin and Arabic letters. -/
def arabic : CodePage where
  names := ["ISO-8859-6", "ISO8859-6", "ISO_8859-6", "ARABIC", "ASMO-708", "ECMA-114", "ISO-IR-127",
    "CSISOLATINARABIC"]
  first := 0xa0
  upper :=
    "\u00a0\ufffd\ufffd\ufffd¤\ufffd\ufffd\ufffd\ufffd\ufffd\ufffd\ufffd،\u00ad\ufffd\ufffd" ++
      "\ufffd\ufffd\ufffd\ufffd\ufffd\ufffd\ufffd\ufffd\ufffd\ufffd\ufffd\u061b\ufffd\ufffd" ++
      "\ufffd\u061f\ufffd\u0621\u0622\u0623\u0624\u0625\u0626\u0627\u0628\u0629\u062a\u062b" ++
      "\u062c\u062d\u062e\u062f\u0630\u0631\u0632\u0633\u0634\u0635\u0636\u0637\u0638\u0639" ++
      "\u063a\ufffd\ufffd\ufffd\ufffd\ufffd\u0640\u0641\u0642\u0643\u0644\u0645\u0646\u0647" ++
      "\u0648\u0649\u064a\u064b\u064c\u064d\u064e\u064f\u0650\u0651\u0652\ufffd\ufffd\ufffd" ++
      "\ufffd\ufffd\ufffd\ufffd\ufffd\ufffd\ufffd\ufffd\ufffd\ufffd"

/-- Latin and Greek letters. -/
def greek : CodePage where
  names := ["ISO-8859-7", "ISO8859-7", "ISO_8859-7", "GREEK", "GREEK8", "ELOT_928", "ECMA-118",
    "ISO-IR-126", "CSISOLATINGREEK"]
  first := 0xa0
  upper :=
    "\u00a0‘’£€₯¦§¨©ͺ«¬\u00ad\ufffd―°±²³΄΅Ά·ΈΉΊ»Ό½ΎΏΐΑΒΓΔΕΖΗΘΙΚΛΜΝΞΟΠΡ\ufffdΣΤΥΦΧΨΩΪΫάέήίΰαβγ" ++
      "δεζηθικλμνξοπρςστυφχψωϊϋόύώ\ufffd"

/-- Latin and Hebrew letters. -/
def hebrew : CodePage where
  names := ["ISO-8859-8", "ISO8859-8", "ISO_8859-8", "HEBREW", "ISO-IR-138", "CSISOLATINHEBREW"]
  first := 0xa0
  upper :=
    "\u00a0\ufffd¢£¤¥¦§¨©×«¬\u00ad®¯°±²³´µ¶·¸¹÷»¼½¾\ufffd\ufffd\ufffd\ufffd\ufffd\ufffd\ufffd" ++
      "\ufffd\ufffd\ufffd\ufffd\ufffd\ufffd\ufffd\ufffd\ufffd\ufffd\ufffd\ufffd\ufffd\ufffd" ++
      "\ufffd\ufffd\ufffd\ufffd\ufffd\ufffd\ufffd\ufffd\ufffd\ufffd\ufffd‗\u05d0\u05d1\u05d2" ++
      "\u05d3\u05d4\u05d5\u05d6\u05d7\u05d8\u05d9\u05da\u05db\u05dc\u05dd\u05de\u05df\u05e0" ++
      "\u05e1\u05e2\u05e3\u05e4\u05e5\u05e6\u05e7\u05e8\u05e9\u05ea\ufffd\ufffd\u200e\u200f" ++
      "\ufffd"

/-- The fifth Latin alphabet. -/
def latin5 : CodePage where
  names := ["ISO-8859-9", "ISO8859-9", "ISO_8859-9", "LATIN5", "L5", "ISO-IR-148", "CSISOLATIN5"]
  first := 0xa0
  upper :=
    "\u00a0¡¢£¤¥¦§¨©ª«¬\u00ad®¯°±²³´µ¶·¸¹º»¼½¾¿ÀÁÂÃÄÅÆÇÈÉÊËÌÍÎÏĞÑÒÓÔÕÖ×ØÙÚÛÜİŞßàáâãäåæçèéêëìí" ++
      "îïğñòóôõö÷øùúûüışÿ"

/-- The sixth Latin alphabet. -/
def latin6 : CodePage where
  names := ["ISO-8859-10", "ISO8859-10", "ISO_8859-10", "LATIN6", "L6", "ISO-IR-157", "CSISOLATIN6"]
  first := 0xa0
  upper :=
    "\u00a0ĄĒĢĪĨĶ§ĻĐŠŦŽ\u00adŪŊ°ąēģīĩķ·ļđšŧž―ūŋĀÁÂÃÄÅÆĮČÉĘËĖÍÎÏÐŅŌÓÔÕÖŨØŲÚÛÜÝÞßāáâãäåæįčéęëėí" ++
      "îïðņōóôõöũøųúûüýþĸ"

/-- Latin and Thai letters. -/
def thai : CodePage where
  names := ["ISO-8859-11", "ISO8859-11", "ISO_8859-11"]
  first := 0xa0
  upper :=
    "\u00a0กขฃคฅฆงจฉชซฌญฎฏฐฑฒณดตถทธนบปผฝพฟภมยรฤลฦวศษสหฬอฮฯะ\u0e31าำ\u0e34\u0e35\u0e36\u0e37" ++
      "\u0e38\u0e39\u0e3a\ufffd\ufffd\ufffd\ufffd฿เแโใไๅๆ\u0e47\u0e48\u0e49\u0e4a\u0e4b\u0e4c" ++
      "\u0e4d\u0e4e๏๐๑๒๓๔๕๖๗๘๙๚๛\ufffd\ufffd\ufffd\ufffd"

/-- The seventh Latin alphabet. -/
def latin7 : CodePage where
  names := ["ISO-8859-13", "ISO8859-13", "ISO_8859-13", "LATIN7", "LATIN-7", "L7", "ISO-IR-179"]
  first := 0xa0
  upper :=
    "\u00a0”¢£¤„¦§Ø©Ŗ«¬\u00ad®Æ°±²³“µ¶·ø¹ŗ»¼½¾æĄĮĀĆÄÅĘĒČÉŹĖĢĶĪĻŠŃŅÓŌÕÖ×ŲŁŚŪÜŻŽßąįāćäåęēčéźėģķ" ++
      "īļšńņóōõö÷ųłśūüżž’"

/-- The eighth Latin alphabet. -/
def latin8 : CodePage where
  names := ["ISO-8859-14", "ISO8859-14", "ISO_8859-14", "LATIN8", "LATIN-8", "L8", "ISO-IR-199",
    "ISO-CELTIC"]
  first := 0xa0
  upper :=
    "\u00a0Ḃḃ£ĊċḊ§Ẁ©ẂḋỲ\u00ad®ŸḞḟĠġṀṁ¶ṖẁṗẃṠỳẄẅṡÀÁÂÃÄÅÆÇÈÉÊËÌÍÎÏŴÑÒÓÔÕÖṪØÙÚÛÜÝŶßàáâãäåæçèéêëìí" ++
      "îïŵñòóôõöṫøùúûüýŷÿ"

/-- The ninth Latin alphabet. -/
def latin9 : CodePage where
  names := ["ISO-8859-15", "ISO8859-15", "ISO_8859-15", "LATIN-9", "ISO-IR-203"]
  first := 0xa0
  upper :=
    "\u00a0¡¢£€¥Š§š©ª«¬\u00ad®¯°±²³Žµ¶·ž¹º»ŒœŸ¿ÀÁÂÃÄÅÆÇÈÉÊËÌÍÎÏÐÑÒÓÔÕÖ×ØÙÚÛÜÝÞßàáâãäåæçèéêëìí" ++
      "îïðñòóôõö÷øùúûüýþÿ"

/-- The tenth Latin alphabet. -/
def latin10 : CodePage where
  names := ["ISO-8859-16", "ISO8859-16", "ISO_8859-16", "LATIN10", "L10", "ISO-IR-226"]
  first := 0xa0
  upper :=
    "\u00a0ĄąŁ€„Š§š©Ș«Ź\u00adźŻ°±ČłŽ”¶·žčș»ŒœŸżÀÁÂĂÄĆÆÇÈÉÊËÌÍÎÏĐŃÒÓÔŐÖŚŰÙÚÛÜĘȚßàáâăäćæçèéêëìí" ++
      "îïđńòóôőöśűùúûüęțÿ"

/-- The Russian code for the exchange of information. -/
def koi8R : CodePage where
  names := ["KOI8-R", "CSKOI8R"]
  first := 0x80
  upper :=
    "─│┌┐└┘├┤┬┴┼▀▄█▌▐░▒▓⌠■∙√≈≤≥\u00a0⌡°²·÷═║╒ё╓╔╕╖╗╘╙╚╛╜╝╞╟╠╡Ё╢╣╤╥╦╧╨╩╪╫╬©юабцдефгхийклмнопяр" ++
      "стужвьызшэщчъЮАБЦДЕФГХИЙКЛМНОПЯРСТУЖВЬЫЗШЭЩЧЪ"

/-- The Ukrainian code for the exchange of information. -/
def koi8U : CodePage where
  names := ["KOI8-U"]
  first := 0x80
  upper :=
    "─│┌┐└┘├┤┬┴┼▀▄█▌▐░▒▓⌠■∙√≈≤≥\u00a0⌡°²·÷═║╒ёє╔ії╗╘╙╚╛ґ╝╞╟╠╡ЁЄ╣ІЇ╦╧╨╩╪Ґ╬©юабцдефгхийклмнопяр" ++
      "стужвьызшэщчъЮАБЦДЕФГХИЙКЛМНОПЯРСТУЖВЬЫЗШЭЩЧЪ"

/-- The Windows page for Central Europe. -/
def windows1250 : CodePage where
  names := ["WINDOWS-1250", "CP1250", "MS-EE"]
  first := 0x80
  upper :=
    "€\ufffd‚\ufffd„…†‡\ufffd‰Š‹ŚŤŽŹ\ufffd‘’“”•–—\ufffd™š›śťžź\u00a0ˇ˘Ł¤Ą¦§¨©Ş«¬\u00ad®Ż°±˛ł´" ++
      "µ¶·¸ąş»Ľ˝ľżŔÁÂĂÄĹĆÇČÉĘËĚÍÎĎĐŃŇÓÔŐÖ×ŘŮÚŰÜÝŢßŕáâăäĺćçčéęëěíîďđńňóôőö÷řůúűüýţ˙"

/-- The Windows page for Cyrillic letters. -/
def windows1251 : CodePage where
  names := ["WINDOWS-1251", "CP1251", "MS-CYRL"]
  first := 0x80
  upper :=
    "ЂЃ‚ѓ„…†‡€‰Љ‹ЊЌЋЏђ‘’“”•–—\ufffd™љ›њќћџ\u00a0ЎўЈ¤Ґ¦§Ё©Є«¬\u00ad®Ї°±Ііґµ¶·ё№є»јЅѕїАБВГДЕЖЗИ" ++
      "ЙКЛМНОПРСТУФХЦЧШЩЪЫЬЭЮЯабвгдежзийклмнопрстуфхцчшщъыьэюя"

/-- The Windows page for Western Europe. -/
def windows1252 : CodePage where
  names := ["WINDOWS-1252", "CP1252", "MS-ANSI"]
  first := 0x80
  upper :=
    "€\ufffd‚ƒ„…†‡ˆ‰Š‹Œ\ufffdŽ\ufffd\ufffd‘’“”•–—˜™š›œ\ufffdžŸ\u00a0¡¢£¤¥¦§¨©ª«¬\u00ad®¯°±²³´" ++
      "µ¶·¸¹º»¼½¾¿ÀÁÂÃÄÅÆÇÈÉÊËÌÍÎÏÐÑÒÓÔÕÖ×ØÙÚÛÜÝÞßàáâãäåæçèéêëìíîïðñòóôõö÷øùúûüýþÿ"

/-- The Windows page for Greek letters. -/
def windows1253 : CodePage where
  names := ["WINDOWS-1253", "CP1253", "MS-GREEK"]
  first := 0x80
  upper :=
    "€\ufffd‚ƒ„…†‡\ufffd‰\ufffd‹\ufffd\ufffd\ufffd\ufffd\ufffd‘’“”•–—\ufffd™\ufffd›\ufffd" ++
      "\ufffd\ufffd\ufffd\u00a0΅Ά£¤¥¦§¨©\ufffd«¬\u00ad®―°±²³΄µ¶·ΈΉΊ»Ό½ΎΏΐΑΒΓΔΕΖΗΘΙΚΛΜΝΞΟΠΡ" ++
      "\ufffdΣΤΥΦΧΨΩΪΫάέήίΰαβγδεζηθικλμνξοπρςστυφχψωϊϋόύώ\ufffd"

/-- The Windows page for Turkish letters. -/
def windows1254 : CodePage where
  names := ["WINDOWS-1254", "CP1254", "MS-TURK"]
  first := 0x80
  upper :=
    "€\ufffd‚ƒ„…†‡ˆ‰Š‹Œ\ufffd\ufffd\ufffd\ufffd‘’“”•–—˜™š›œ\ufffd\ufffdŸ\u00a0¡¢£¤¥¦§¨©ª«¬" ++
      "\u00ad®¯°±²³´µ¶·¸¹º»¼½¾¿ÀÁÂÃÄÅÆÇÈÉÊËÌÍÎÏĞÑÒÓÔÕÖ×ØÙÚÛÜİŞßàáâãäåæçèéêëìíîïğñòóôõö÷øùúûüışÿ"

/-- The Windows page for Hebrew letters. -/
def windows1255 : CodePage where
  names := ["WINDOWS-1255", "CP1255", "MS-HEBR"]
  first := 0x80
  upper :=
    "€\ufffd‚ƒ„…†‡ˆ‰\ufffd‹\ufffd\ufffd\ufffd\ufffd\ufffd‘’“”•–—˜™\ufffd›\ufffd\ufffd\ufffd" ++
      "\ufffd\u00a0¡¢£₪¥¦§¨©×«¬\u00ad®¯°±²³´µ¶·¸¹÷»¼½¾¿\u05b0\u05b1\u05b2\u05b3\u05b4\u05b5" ++
      "\u05b6\u05b7\u05b8\u05b9\ufffd\u05bb\u05bc\u05bd\u05be\u05bf\u05c0\u05c1\u05c2\u05c3" ++
      "\u05f0\u05f1\u05f2\u05f3\u05f4\ufffd\ufffd\ufffd\ufffd\ufffd\ufffd\ufffd\u05d0\u05d1" ++
      "\u05d2\u05d3\u05d4\u05d5\u05d6\u05d7\u05d8\u05d9\u05da\u05db\u05dc\u05dd\u05de\u05df" ++
      "\u05e0\u05e1\u05e2\u05e3\u05e4\u05e5\u05e6\u05e7\u05e8\u05e9\u05ea\ufffd\ufffd\u200e" ++
      "\u200f\ufffd"

/-- The Windows page for Arabic letters. -/
def windows1256 : CodePage where
  names := ["WINDOWS-1256", "CP1256", "MS-ARAB"]
  first := 0x80
  upper :=
    "€\u067e‚ƒ„…†‡ˆ‰\u0679‹Œ\u0686\u0698\u0688\u06af‘’“”•–—\u06a9™\u0691›œ\u200c\u200d\u06ba" ++
      "\u00a0،¢£¤¥¦§¨©\u06be«¬\u00ad®¯°±²³´µ¶·¸¹\u061b»¼½¾\u061f\u06c1\u0621\u0622\u0623\u0624" ++
      "\u0625\u0626\u0627\u0628\u0629\u062a\u062b\u062c\u062d\u062e\u062f\u0630\u0631\u0632" ++
      "\u0633\u0634\u0635\u0636×\u0637\u0638\u0639\u063a\u0640\u0641\u0642\u0643à\u0644â\u0645" ++
      "\u0646\u0647\u0648çèéêë\u0649\u064aîï\u064b\u064c\u064d\u064eô\u064f\u0650÷\u0651ù\u0652" ++
      "ûü\u200e\u200f\u06d2"

/-- The Windows page for Baltic letters. -/
def windows1257 : CodePage where
  names := ["WINDOWS-1257", "CP1257", "WINBALTRIM"]
  first := 0x80
  upper :=
    "€\ufffd‚\ufffd„…†‡\ufffd‰\ufffd‹\ufffd¨ˇ¸\ufffd‘’“”•–—\ufffd™\ufffd›\ufffd¯˛\ufffd\u00a0" ++
      "\ufffd¢£¤\ufffd¦§Ø©Ŗ«¬\u00ad®Æ°±²³´µ¶·ø¹ŗ»¼½¾æĄĮĀĆÄÅĘĒČÉŹĖĢĶĪĻŠŃŅÓŌÕÖ×ŲŁŚŪÜŻŽßąįāćäåęēčé" ++
      "źėģķīļšńņóōõö÷ųłśūüżž˙"

/-- The page of terminals for Western Europe. -/
def ibm850 : CodePage where
  names := ["IBM850", "CP850", "CSPC850MULTILINGUAL"]
  first := 0x80
  upper :=
    "ÇüéâäàåçêëèïîìÄÅÉæÆôöòûùÿÖÜø£Ø×ƒáíóúñÑªº¿®¬½¼¡«»░▒▓│┤ÁÂÀ©╣║╗╝¢¥┐└┴┬├─┼ãÃ╚╔╩╦╠═╬¤ðÐÊËÈıÍÎ" ++
      "Ï┘┌█▄¦Ì▀ÓßÔÒõÕµþÞÚÛÙýÝ¯´\u00ad±‗¾¶§÷¸°¨·¹³²■\u00a0"

/-- The page of terminals for Hebrew letters. -/
def ibm862 : CodePage where
  names := ["IBM862", "CP862", "CSPC862LATINHEBREW"]
  first := 0x80
  upper :=
    "\u05d0\u05d1\u05d2\u05d3\u05d4\u05d5\u05d6\u05d7\u05d8\u05d9\u05da\u05db\u05dc\u05dd" ++
      "\u05de\u05df\u05e0\u05e1\u05e2\u05e3\u05e4\u05e5\u05e6\u05e7\u05e8\u05e9\u05ea¢£¥₧ƒáíóúñ" ++
      "Ñªº¿⌐¬½¼¡«»░▒▓│┤╡╢╖╕╣║╗╝╜╛┐└┴┬├─┼╞╟╚╔╩╦╠═╬╧╨╤╥╙╘╒╓╫╪┘┌█▄▌▐▀αßΓπΣσµτΦΘΩδ∞φε∩≡±≥≤⌠⌡÷≈°∙·√ⁿ" ++
      "²■\u00a0"

/-- The page of terminals for Cyrillic letters. -/
def ibm866 : CodePage where
  names := ["IBM866", "CP866", "CSIBM866"]
  first := 0x80
  upper :=
    "АБВГДЕЖЗИЙКЛМНОПРСТУФХЦЧШЩЪЫЬЭЮЯабвгдежзийклмноп░▒▓│┤╡╢╖╕╣║╗╝╜╛┐└┴┬├─┼╞╟╚╔╩╦╠═╬╧╨╤╥╙╘╒╓╫" ++
      "╪┘┌█▄▌▐▀рстуфхцчшщъыьэюяЁёЄєЇїЎў°∙·√№¤■\u00a0"

/-- The Thai industrial standard. -/
def tis620 : CodePage where
  names := ["TIS-620", "TIS620"]
  first := 0x80
  upper :=
    "\u0080\u0081\u0082\u0083\u0084\u0085\u0086\u0087\u0088\u0089\u008a\u008b\u008c\u008d" ++
      "\u008e\u008f\u0090\u0091\u0092\u0093\u0094\u0095\u0096\u0097\u0098\u0099\u009a\u009b" ++
      "\u009c\u009d\u009e\u009f\ufffdกขฃคฅฆงจฉชซฌญฎฏฐฑฒณดตถทธนบปผฝพฟภมยรฤลฦวศษสหฬอฮฯะ\u0e31าำ" ++
      "\u0e34\u0e35\u0e36\u0e37\u0e38\u0e39\u0e3a\ufffd\ufffd\ufffd\ufffd฿เแโใไๅๆ\u0e47\u0e48" ++
      "\u0e49\u0e4a\u0e4b\u0e4c\u0e4d\u0e4e๏๐๑๒๓๔๕๖๗๘๙๚๛\ufffd\ufffd\ufffd\ufffd"

/-- The Windows page for Thai letters. -/
def windows874 : CodePage where
  names := ["WINDOWS-874", "CP874"]
  first := 0x80
  upper :=
    "€\ufffd\ufffd\ufffd\ufffd…\ufffd\ufffd\ufffd\ufffd\ufffd\ufffd\ufffd\ufffd\ufffd\ufffd" ++
      "\ufffd‘’“”•–—\ufffd\ufffd\ufffd\ufffd\ufffd\ufffd\ufffd\ufffd\u00a0กขฃคฅฆงจฉชซฌญฎฏฐฑฒณดต" ++
      "ถทธนบปผฝพฟภมยรฤลฦวศษสหฬอฮฯะ\u0e31าำ\u0e34\u0e35\u0e36\u0e37\u0e38\u0e39\u0e3a\ufffd" ++
      "\ufffd\ufffd\ufffd฿เแโใไๅๆ\u0e47\u0e48\u0e49\u0e4a\u0e4b\u0e4c\u0e4d\u0e4e๏๐๑๒๓๔๕๖๗๘๙๚๛" ++
      "\ufffd\ufffd\ufffd\ufffd"

/-- All pages. -/
def all : List CodePage :=
  [latin1, ascii, latin2, latin3, latin4, cyrillic, arabic, greek, hebrew, latin5, latin6,
    thai, latin7, latin8, latin9, latin10, koi8R, koi8U, windows1250, windows1251, windows1252,
    windows1253, windows1254, windows1255, windows1256, windows1257, ibm850, ibm862, ibm866,
    tis620, windows874]

/-- The page with a name, in which the case of letters makes no difference. -/
def ofName? (name : String) : Option CodePage :=
  all.find? fun page => page.names.contains name.toUpper

end CodePage

end SchemaBridge.Xml
