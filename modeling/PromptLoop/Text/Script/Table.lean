/-!
# The scripts of characters

The Unicode character database says which script a character belongs to; one that is used with many scripts
is common to all, and some marks inherit the script of what they stand on. The table lists runs: the number
of code points of a run, in decimal digits, and the name of their script, or a dash if they have none.
-/

namespace PromptLoop

namespace Script

/-- The runs of code points of one script, in order. -/
def table : String :=
  "
  65Common 26Latin 6Common 26Latin 47Common 1Latin 15Common 1Latin 5Common 23Latin 1Common 31Latin
  1Common 449Latin 39Common 5Latin 5Common 2Bopomofo 20Common 112Inherited 4Greek 1Common 3Greek 2-
  4Greek 1Common 1Greek 4- 1Greek 1Common 1Greek 1Common 3Greek 1- 1Greek 1- 20Greek 1- 63Greek
  14Coptic 16Greek 133Cyrillic 2Inherited 169Cyrillic 1- 38Armenian 2- 50Armenian 2- 3Armenian 1-
  55Hebrew 8- 27Hebrew 4- 6Hebrew 11- 5Arabic 1Common 6Arabic 1Common 14Arabic 1Common 3Arabic
  1Common 32Arabic 1Common 10Arabic 11Inherited 26Arabic 1Inherited 108Arabic 1Common 34Arabic
  14Syriac 1- 60Syriac 2- 3Syriac 48Arabic 50Thaana 14- 59Nko 2- 3Nko 46Samaritan 2- 15Samaritan 1-
  28Mandaic 2- 1Mandaic 1- 11Syriac 5- 31Arabic 1- 2Arabic 6- 74Arabic 1Common 29Arabic
  81Devanagari 4Inherited 15Devanagari 2Common 26Devanagari 4Bengali 1- 8Bengali 2- 2Bengali 2-
  22Bengali 1- 7Bengali 1- 1Bengali 3- 4Bengali 2- 9Bengali 2- 2Bengali 2- 4Bengali 8- 1Bengali 4-
  2Bengali 1- 5Bengali 2- 25Bengali 2- 3Gurmukhi 1- 6Gurmukhi 4- 2Gurmukhi 2- 22Gurmukhi 1-
  7Gurmukhi 1- 2Gurmukhi 1- 2Gurmukhi 1- 2Gurmukhi 2- 1Gurmukhi 1- 5Gurmukhi 4- 2Gurmukhi 2-
  3Gurmukhi 3- 1Gurmukhi 7- 4Gurmukhi 1- 1Gurmukhi 7- 17Gurmukhi 10- 3Gujarati 1- 9Gujarati 1-
  3Gujarati 1- 22Gujarati 1- 7Gujarati 1- 2Gujarati 1- 5Gujarati 2- 10Gujarati 1- 3Gujarati 1-
  3Gujarati 2- 1Gujarati 15- 4Gujarati 2- 12Gujarati 7- 7Gujarati 1- 3Oriya 1- 8Oriya 2- 2Oriya 2-
  22Oriya 1- 7Oriya 1- 2Oriya 1- 5Oriya 2- 9Oriya 2- 2Oriya 2- 3Oriya 7- 3Oriya 4- 2Oriya 1- 5Oriya
  2- 18Oriya 10- 2Tamil 1- 6Tamil 3- 3Tamil 1- 4Tamil 3- 2Tamil 1- 1Tamil 1- 2Tamil 3- 2Tamil 3-
  3Tamil 3- 12Tamil 4- 5Tamil 3- 3Tamil 1- 4Tamil 2- 1Tamil 6- 1Tamil 14- 21Tamil 5- 13Telugu 1-
  3Telugu 1- 23Telugu 1- 16Telugu 2- 9Telugu 1- 3Telugu 1- 4Telugu 7- 2Telugu 1- 3Telugu 2- 1Telugu
  2- 4Telugu 2- 10Telugu 7- 9Telugu 13Kannada 1- 3Kannada 1- 23Kannada 1- 10Kannada 1- 5Kannada 2-
  9Kannada 1- 3Kannada 1- 4Kannada 7- 2Kannada 6- 2Kannada 1- 4Kannada 2- 10Kannada 1- 3Kannada 12-
  13Malayalam 1- 3Malayalam 1- 51Malayalam 1- 3Malayalam 1- 6Malayalam 4- 16Malayalam 2-
  26Malayalam 1- 3Sinhala 1- 18Sinhala 3- 24Sinhala 1- 9Sinhala 1- 1Sinhala 2- 7Sinhala 3- 1Sinhala
  4- 6Sinhala 1- 1Sinhala 1- 8Sinhala 6- 10Sinhala 2- 3Sinhala 12- 58Thai 4- 1Common 28Thai 37-
  2Lao 1- 1Lao 1- 5Lao 1- 24Lao 1- 1Lao 1- 23Lao 2- 5Lao 1- 1Lao 1- 7Lao 1- 10Lao 2- 4Lao 32-
  72Tibetan 1- 36Tibetan 4- 39Tibetan 1- 36Tibetan 1- 15Tibetan 1- 7Tibetan 4Common 2Tibetan 37-
  160Myanmar 38Georgian 1- 1Georgian 5- 1Georgian 2- 43Georgian 1Common 4Georgian 256Hangul
  73Ethiopic 1- 4Ethiopic 2- 7Ethiopic 1- 1Ethiopic 1- 4Ethiopic 2- 41Ethiopic 1- 4Ethiopic 2-
  33Ethiopic 1- 4Ethiopic 2- 7Ethiopic 1- 1Ethiopic 1- 4Ethiopic 2- 15Ethiopic 1- 57Ethiopic 1-
  4Ethiopic 2- 67Ethiopic 2- 32Ethiopic 3- 26Ethiopic 6- 86Cherokee 2- 6Cherokee 2-
  640Canadian_Aboriginal 29Ogham 3- 75Runic 3Common 11Runic 7- 22Tagalog 9- 1Tagalog 21Hanunoo
  2Common 9- 20Buhid 12- 13Tagbanwa 1- 3Tagbanwa 1- 2Tagbanwa 12- 94Khmer 2- 10Khmer 6- 10Khmer 6-
  2Mongolian 2Common 1Mongolian 1Common 20Mongolian 6- 89Mongolian 7- 43Mongolian 5-
  70Canadian_Aboriginal 10- 31Limbu 1- 12Limbu 4- 12Limbu 4- 1Limbu 3- 12Limbu 30Tai_Le 2- 5Tai_Le
  11- 44New_Tai_Lue 4- 26New_Tai_Lue 6- 11New_Tai_Lue 3- 2New_Tai_Lue 32Khmer 28Buginese 2-
  2Buginese 63Tai_Tham 1- 29Tai_Tham 2- 11Tai_Tham 6- 10Tai_Tham 6- 14Tai_Tham 2- 31Inherited 49-
  77Balinese 3- 47Balinese 1- 64Sundanese 52Batak 8- 4Batak 56Lepcha 3- 15Lepcha 3- 3Lepcha
  48Ol_Chiki 9Cyrillic 7- 43Georgian 2- 3Georgian 8Sundanese 8- 3Inherited 1Common 13Inherited
  1Common 7Inherited 4Common 1Inherited 6Common 1Inherited 3Common 2Inherited 1Common 5- 38Latin
  5Greek 1Cyrillic 49Latin 5Greek 4Latin 5Greek 13Latin 1Cyrillic 70Latin 1Greek 64Inherited
  256Latin 22Greek 2- 6Greek 2- 38Greek 2- 6Greek 2- 8Greek 1- 1Greek 1- 1Greek 1- 1Greek 1-
  31Greek 2- 53Greek 1- 15Greek 1- 14Greek 2- 6Greek 1- 19Greek 2- 3Greek 1- 9Greek 1- 12Common
  2Inherited 87Common 1- 11Common 1Latin 2- 11Common 1Latin 15Common 1- 13Latin 3- 33Common 15-
  33Inherited 15- 38Common 1Greek 3Common 2Latin 6Common 1Latin 27Common 1Latin 17Common 41Latin
  3Common 4- 663Common 25- 11Common 21- 928Common 256Braille 628Common 2- 32Common 1- 105Common
  96Glagolitic 32Latin 116Coptic 5- 7Coptic 38Georgian 1- 1Georgian 5- 1Georgian 2- 56Tifinagh 7-
  2Tifinagh 14- 1Tifinagh 23Ethiopic 9- 7Ethiopic 1- 7Ethiopic 1- 7Ethiopic 1- 7Ethiopic 1-
  7Ethiopic 1- 7Ethiopic 1- 7Ethiopic 1- 7Ethiopic 1- 32Cyrillic 94Common 34- 26Han 1- 89Han 12-
  214Han 26- 12Common 4- 5Common 1Han 1Common 1Han 25Common 9Han 4Inherited 2Hangul 8Common 4Han
  4Common 1- 86Hiragana 2- 2Inherited 2Common 3Hiragana 1Common 90Katakana 2Common 3Katakana 5-
  43Bopomofo 1- 94Hangul 1- 16Common 32Bopomofo 36Common 12- 16Katakana 31Hangul 1- 64Common
  31Hangul 81Common 47Katakana 1Common 88Katakana 168Common 6592Han 64Common 20992Han 1165Yi 3-
  55Yi 9- 48Lisu 300Vai 20- 96Cyrillic 88Bamum 8- 34Common 102Latin 3Common 64Latin 5- 2Latin 1-
  1Latin 1- 5Latin 24- 14Latin 45Syloti_Nagri 3- 10Common 6- 56Phags_Pa 8- 70Saurashtra 8-
  12Saurashtra 6- 32Devanagari 46Kayah_Li 1Common 1Kayah_Li 36Rejang 11- 1Rejang 29Hangul 3-
  78Javanese 1- 1Common 10Javanese 4- 2Javanese 31Myanmar 1- 55Cham 9- 14Cham 2- 10Cham 2- 4Cham
  32Myanmar 67Tai_Viet 24- 5Tai_Viet 23Meetei_Mayek 10- 6Ethiopic 2- 6Ethiopic 2- 6Ethiopic 9-
  7Ethiopic 1- 7Ethiopic 1- 43Latin 1Common 9Latin 1Greek 4Latin 2Common 4- 80Cherokee
  46Meetei_Mayek 2- 10Meetei_Mayek 6- 11172Hangul 12- 23Hangul 4- 49Hangul 8452- 366Han 2- 106Han
  38- 7Latin 12- 5Armenian 5- 26Hebrew 1- 5Hebrew 1- 1Hebrew 1- 2Hebrew 1- 2Hebrew 1- 10Hebrew
  115Arabic 16- 363Arabic 2Common 80Arabic 2- 54Arabic 7- 1Arabic 32- 16Arabic 16Inherited 10Common
  6- 14Inherited 2Cyrillic 35Common 1- 19Common 1- 4Common 4- 5Arabic 1- 135Arabic 2- 1Common 1-
  32Common 26Latin 6Common 26Latin 11Common 10Katakana 1Common 45Katakana 2Common 31Hangul 3-
  6Hangul 2- 6Hangul 2- 6Hangul 2- 3Hangul 3- 7Common 1- 7Common 10- 5Common 2- 12Linear_B 1-
  26Linear_B 1- 19Linear_B 1- 2Linear_B 1- 15Linear_B 2- 14Linear_B 34- 123Linear_B 5- 3Common 4-
  45Common 3- 9Common 79Greek 1- 13Common 3- 1Greek 47- 45Common 1Inherited 130- 29Lycian 3-
  49Carian 15- 1Inherited 27Common 4- 36Old_Italic 9- 3Old_Italic 27Gothic 5- 43Old_Permic 5-
  30Ugaritic 1- 1Ugaritic 36Old_Persian 4- 14Old_Persian 42- 80Deseret 48Shavian 30Osmanya 2-
  10Osmanya 6- 36Osage 4- 36Osage 4- 40Elbasan 8- 52Caucasian_Albanian 11- 1Caucasian_Albanian
  11Vithkuqi 1- 15Vithkuqi 1- 7Vithkuqi 1- 2Vithkuqi 1- 11Vithkuqi 1- 15Vithkuqi 1- 7Vithkuqi 1-
  2Vithkuqi 67- 311Linear_A 9- 22Linear_A 10- 8Linear_A 24- 6Latin 1- 42Latin 1- 9Latin 69-
  6Cypriot 2- 1Cypriot 1- 44Cypriot 1- 2Cypriot 3- 1Cypriot 2- 1Cypriot 22Imperial_Aramaic 1-
  9Imperial_Aramaic 32Palmyrene 31Nabataean 8- 9Nabataean 48- 19Hatran 1- 2Hatran 5- 5Hatran
  28Phoenician 3- 1Phoenician 26Lydian 5- 1Lydian 64- 32Meroitic_Hieroglyphs 24Meroitic_Cursive 4-
  20Meroitic_Cursive 2- 46Meroitic_Cursive 4Kharoshthi 1- 2Kharoshthi 5- 8Kharoshthi 1- 3Kharoshthi
  1- 29Kharoshthi 2- 3Kharoshthi 4- 10Kharoshthi 7- 9Kharoshthi 7- 32Old_South_Arabian
  32Old_North_Arabian 32- 39Manichaean 4- 12Manichaean 9- 54Avestan 3- 7Avestan
  22Inscriptional_Parthian 2- 8Inscriptional_Parthian 19Inscriptional_Pahlavi 5-
  8Inscriptional_Pahlavi 18Psalter_Pahlavi 7- 4Psalter_Pahlavi 12- 7Psalter_Pahlavi 80-
  73Old_Turkic 55- 51Old_Hungarian 13- 51Old_Hungarian 7- 6Old_Hungarian 40Hanifi_Rohingya 8-
  10Hanifi_Rohingya 294- 31Arabic 1- 42Yezidi 1- 3Yezidi 2- 2Yezidi 75- 3Arabic 40Old_Sogdian 8-
  42Sogdian 22- 26Old_Uyghur 38- 28Chorasmian 20- 23Elymaic 9- 78Brahmi 4- 36Brahmi 9- 1Brahmi
  67Kaithi 10- 1Kaithi 2- 25Sora_Sompeng 7- 10Sora_Sompeng 6- 53Chakma 1- 18Chakma 8- 39Mahajani 9-
  96Sharada 1- 20Sinhala 11- 18Khojki 1- 47Khojki 62- 7Multani 1- 1Multani 1- 4Multani 1- 15Multani
  1- 11Multani 6- 59Khudawadi 5- 10Khudawadi 6- 4Grantha 1- 8Grantha 2- 2Grantha 2- 22Grantha 1-
  7Grantha 1- 2Grantha 1- 5Grantha 1- 1Inherited 9Grantha 2- 2Grantha 2- 3Grantha 2- 1Grantha 6-
  1Grantha 5- 7Grantha 2- 7Grantha 3- 5Grantha 139- 92Newa 1- 5Newa 30- 72Tirhuta 8- 10Tirhuta 166-
  54Siddham 2- 38Siddham 34- 69Modi 11- 10Modi 6- 13Mongolian 19- 58Takri 6- 10Takri 54- 27Ahom 2-
  15Ahom 4- 23Ahom 185- 60Dogra 100- 83Warang_Citi 12- 1Warang_Citi 7Dives_Akuru 2- 1Dives_Akuru 2-
  8Dives_Akuru 1- 2Dives_Akuru 1- 30Dives_Akuru 1- 2Dives_Akuru 2- 12Dives_Akuru 9- 10Dives_Akuru
  70- 8Nandinagari 2- 46Nandinagari 2- 11Nandinagari 27- 72Zanabazar_Square 8- 83Soyombo 13-
  16Canadian_Aboriginal 57Pau_Cin_Hau 7- 10Devanagari 246- 9Bhaiksuki 1- 45Bhaiksuki 1- 14Bhaiksuki
  10- 29Bhaiksuki 3- 32Marchen 2- 22Marchen 1- 14Marchen 73- 7Masaram_Gondi 1- 2Masaram_Gondi 1-
  44Masaram_Gondi 3- 1Masaram_Gondi 1- 2Masaram_Gondi 1- 9Masaram_Gondi 8- 10Masaram_Gondi 6-
  6Gunjala_Gondi 1- 2Gunjala_Gondi 1- 37Gunjala_Gondi 1- 2Gunjala_Gondi 1- 6Gunjala_Gondi 7-
  10Gunjala_Gondi 310- 25Makasar 7- 17Kawi 1- 41Kawi 3- 28Kawi 86- 1Lisu 15- 50Tamil 13- 1Tamil
  922Cuneiform 102- 111Cuneiform 1- 5Cuneiform 11- 196Cuneiform 2636- 99Cypro_Minoan 13-
  1110Egyptian_Hieroglyphs 4010- 583Anatolian_Hieroglyphs 8633- 569Bamum 7- 31Mro 1- 10Mro 4- 2Mro
  79Tangsa 1- 10Tangsa 6- 30Bassa_Vah 2- 6Bassa_Vah 10- 70Pahawh_Hmong 10- 10Pahawh_Hmong 1-
  7Pahawh_Hmong 1- 21Pahawh_Hmong 5- 19Pahawh_Hmong 688- 91Medefaidrin 101- 75Miao 4- 57Miao 7-
  17Miao 64- 1Tangut 1Nushu 2Han 1Khitan_Small_Script 11- 2Han 14- 6136Tangut 8- 768Tangut
  470Khitan_Small_Script 42- 9Tangut 8935- 4Katakana 1- 7Katakana 1- 2Katakana 1- 1Katakana
  287Hiragana 3Katakana 15- 1Hiragana 29- 3Hiragana 2- 1Katakana 14- 4Katakana 8- 396Nushu 2308-
  107Duployan 5- 13Duployan 3- 9Duployan 7- 10Duployan 2- 4Duployan 4Common 4700- 46Inherited 2-
  23Inherited 9- 116Common 60- 246Common 10- 39Common 2- 62Common 3Inherited 17Common 8Inherited
  2Common 7Inherited 30Common 4Inherited 61Common 21- 70Greek 122- 20Common 12- 20Common 12-
  87Common 9- 25Common 135- 85Common 1- 71Common 1- 2Common 2- 1Common 2- 2Common 2- 4Common 1-
  12Common 1- 1Common 1- 7Common 1- 65Common 1- 4Common 2- 8Common 1- 7Common 1- 28Common 1-
  4Common 1- 5Common 1- 1Common 3- 7Common 1- 340Common 2- 292Common 2- 50Common 652SignWriting 15-
  5SignWriting 1- 15SignWriting 1104- 31Latin 6- 6Latin 213- 7Glagolitic 1- 17Glagolitic 2-
  7Glagolitic 1- 2Glagolitic 1- 5Glagolitic 5- 62Cyrillic 33- 1Cyrillic 112-
  45Nyiakeng_Puachue_Hmong 3- 14Nyiakeng_Puachue_Hmong 2- 10Nyiakeng_Puachue_Hmong 4-
  2Nyiakeng_Puachue_Hmong 320- 31Toto 17- 58Wancho 5- 1Wancho 464- 42Nag_Mundari 742- 7Ethiopic 1-
  4Ethiopic 1- 2Ethiopic 1- 15Ethiopic 1- 197Mende_Kikakui 2- 16Mende_Kikakui 41- 76Adlam 4-
  10Adlam 4- 2Adlam 785- 68Common 76- 61Common 194- 4Arabic 1- 27Arabic 1- 2Arabic 1- 1Arabic 2-
  1Arabic 1- 10Arabic 1- 4Arabic 1- 1Arabic 1- 1Arabic 6- 1Arabic 4- 1Arabic 1- 1Arabic 1- 1Arabic
  1- 3Arabic 1- 2Arabic 1- 1Arabic 2- 1Arabic 1- 1Arabic 1- 1Arabic 1- 1Arabic 1- 1Arabic 1-
  2Arabic 1- 1Arabic 2- 4Arabic 1- 7Arabic 1- 4Arabic 1- 4Arabic 1- 1Arabic 1- 10Arabic 1- 17Arabic
  5- 3Arabic 1- 5Arabic 1- 17Arabic 52- 2Arabic 270- 44Common 4- 100Common 12- 15Common 2- 15Common
  1- 15Common 1- 37Common 10- 174Common 56- 26Common 1Hiragana 2Common 13- 44Common 4- 9Common 7-
  2Common 14- 6Common 154- 984Common 4- 17Common 3- 13Common 3- 119Common 4- 95Common 6- 12Common
  4- 1Common 15- 12Common 4- 56Common 8- 10Common 6- 40Common 8- 30Common 2- 2Common 78- 340Common
  12- 14Common 2- 13Common 3- 9Common 7- 46Common 1- 7Common 8- 14Common 4- 9Common 7- 9Common 7-
  147Common 1- 55Common 37- 10Common 1030- 42720Han 32- 4154Han 6- 222Han 2- 5762Han 14- 7473Han
  3103- 542Han 1506- 4939Han 5- 4192Han 711761- 1Common 30- 96Common 128- 240Inherited 196112-"

end Script

end PromptLoop
