/-!
# Scripts

The characters of each script, with its short and its long name, and those that are used in it
without being of it, as runs in the form that `Arbiter.Text.Runs` reads.
-/

namespace Arbiter.Text

/-- A script: its four-letter code, its name, and the runs of its characters. -/
def scriptTexts : List (String × String × String) := [
  ("Adlm", "Adlam", "2olc-24 5-a 5-2"),
  ("Aghb", "Caucasian_Albanian", "1flc-1g c"),
  ("Ahom", "Ahom", "1j40-r 3-f 5-n"),
  ("Arab", "Arabic", String.join [
    "16o-5 2-6 2-e 2-3 2-w 2-a c-q 2-30 2-y 29-1c 6p-y 6-23 2-t 1bv5-dq 3-40 x-g 35-5 2-3r 31g-v ",
    "1w-6 9-9 y-6 181t-4 2-r 2-2 2 3 2-a 2-4 2 2 7 5/3 2-3 2-2 2 3/5 2-2 2 3-4 2-7 2-4 2-4 2 2-a ",
    "2-h 6-3 2-5 2-h 1h-2"]),
  ("Armi", "Imperial_Aramaic", "1g74-m 2-9"),
  ("Armn", "Armenian", "10x-12 3-1e 3-3 1chw-5"),
  ("Avst", "Avestan", "1gqo-1i 4-7"),
  ("Bali", "Balinese", "5c0-25 2-1e"),
  ("Bamu", "Bamum", "www-2g 124p-ft"),
  ("Bass", "Bassa_Vah", "1zo0-u 3-6"),
  ("Batk", "Batak", "5hc-1g 9-4"),
  ("Beng", "Bengali", "1vk-4 2-8 3-2 3-m 2-7 2 4-4 3-9 3-2 3-4 9 5-2 2-5 3-p"),
  ("Berf", "Beria_Erfe", "20f4-p 3-p"),
  ("Bhks", "Bhaiksuki", "1k3k-9 2-19 2-e b-t"),
  ("Bopo", "Bopomofo", "kq-2 93u-17 35-w"),
  ("Brah", "Brahmi", "1hq8-26 5-10 a"),
  ("Brai", "Braille", "7wg-74"),
  ("Bugi", "Buginese", "54w-s 3-2"),
  ("Buhd", "Buhid", "4lc-k"),
  ("Cakm", "Chakma", "1hxc-1h 2-i"),
  ("Cans", "Canadian_Aboriginal", "3y8-hs fl-1y 1ewr-g"),
  ("Cari", "Carian", "1f34-1d"),
  ("Cham", "Cham", "xkw-1j a-e 3-a 3-4"),
  ("Cher", "Cherokee", "3vk-2e 3-6 twz-28"),
  ("Chrs", "Chorasmian", "1ho0-s"),
  ("Copt", "Coptic", "rm-e 80h-38 6-7"),
  ("Cpmn", "Cypro_Minoan", "1nyo-2r"),
  ("Cprt", "Cypriot", "1g5c-6 3 2-18 2-2 4 3"),
  ("Cyrl", "Cyrillic", "sg-3p 3-4p 4lt-b 4h 25 38o-w nr5-2o han-2 18n5-1q y"),
  ("Deva", "Devanagari", "1s0-29 5-f 3-q vhd-w mip-a"),
  ("Diak", "Dives_Akuru", "1ji8-7 3 3-8 2-2 2-u 2-2 3-c a-a"),
  ("Dogr", "Dogra", "1jb4-1o"),
  ("Dsrt", "Deseret", "1fcw-28"),
  ("Dupl", "Duployan", "2fpc-2z 6-d 4-9 8-a 3-4"),
  ("Egyp", "Egyptian_Hieroglyphs", "1o1s-uu b-32z"),
  ("Elba", "Elbasan", "1fk0-14"),
  ("Elym", "Elymaic", "1hpc-n"),
  ("Ethi", "Ethiopic", String.join [
    "3k0-21 2-4 3-7 2 2-4 3-15 2-4 3-x 2-4 3-7 2 2-4 3-f 2-1l 2-4 3-1v 3-w 4-q 547-n a-7 2-7 2-7 ",
    "2-7 2-7 2-7 2-7 2-7 opv-6 3-6 3-6 a-7 2-7 1qk2-7 2-4 2-2 2-f"]),
  ("Gara", "Garay", "1h6o-12 4-t 9-2"),
  ("Geor", "Georgian", "3a8-12 2 6 3-17 2-4 2a9-17 3-3 37l-12 2 6"),
  ("Glag", "Glagolitic", "8ow-2o 2e1t-7 2-h 3-7 2-2 2-5"),
  ("Gong", "Gunjala_Gondi", "1kdc-6 2-2 2-11 2-2 2-6 8-a"),
  ("Gonm", "Masaram_Gondi", "1kao-7 2-2 2-18 4 2-2 2-9 9-a"),
  ("Goth", "Gothic", "1f74-r"),
  ("Gran", "Grantha", "1ibk-4 2-8 3-2 3-m 2-7 2-2 2-5 3-9 3-2 3-3 3 7 6-7 3-7 4-5"),
  ("Grek", "Greek", String.join [
    "og-4 2-3 3-4 2 5/2 2-3 2 2-k 2-1r f-g 4yv-5 1f-5 5-5 2d 8x-m 3-6 3-12 3-6 3-8 2/3 2-v 3-1h ",
    "2-f 2-e 3-6 2-j 3-3 2-9 88 rb3 gyj-27 i 155s-1y"]),
  ("Gujr", "Gujarati", "22p-3 2-9 2-3 2-m 2-7 2-2 2-5 3-a 2-3 2-3 3 g-4 3-c 8-7"),
  ("Gukh", "Gurung_Khema", "1xq8-1m"),
  ("Guru", "Gurmukhi", "1z5-3 2-6 5-2 3-m 2-7 2-2 2-2 2-2 3 2-5 5-2 3-3 4 8-4 2 8-h"),
  ("Hang", "Hangul", "3cw-74 5yn-2 76-2m 36-v 1u-v nhe-t hw-8mc d-n 5-1d 7tx-v 4-6 3-6 3-6 3-3"),
  ("Hani", "Han", String.join [
    "96o-q 2-2h d-5y 1c 2 q-9 f-4 qt-534 1t-g74 hkx-a6 3-2y n49-2 d-7 sga-wyo x-3dq 3-4ge 3-5rl ",
    "g-ha 1wj-f2 15v-3t7 6-6ju"]),
  ("Hano", "Hanunoo", "4kg-l"),
  ("Hatr", "Hatran", "1gbk-j 2-2 6-5"),
  ("Hebr", "Hebrew", "13l-1j 9-r 5-6 1cfd-q 2-5 2 2-2 2-2 2-a"),
  ("Hira", "Hiragana", "9j5-2e 7-3 23qa-7z j u-3 cry"),
  ("Hluw", "Anatolian_Hieroglyphs", "1s00-g7"),
  ("Hmng", "Pahawh_Hmong", "1zpc-1y b-a 2-7 2-l 6-j"),
  ("Hmnp", "Nyiakeng_Puachue_Hmong", "2n0g-19 4-e 3-a 5-2"),
  ("Hung", "Old_Hungarian", "1h1c-1f e-1f 8-6"),
  ("Ital", "Old_Italic", "1f5s-10 a-3"),
  ("Java", "Javanese", "xhc-26 3-a 5-2"),
  ("Kali", "Kayah_Li", "xds-1a 2"),
  ("Kana", "Katakana", "9lt-2i 3-3 6p-g 5t-1b 2-2g 14b3-a 2-19 ytv-4 2-7 2-2 2 80-3 1f f-4"),
  ("Kawi", "Kawi", "1kow-h 2-15 4-t"),
  ("Khar", "Kharoshthi", "1gjk-4 2-2 6-8 2-3 2-t 3-3 5-a 8-9"),
  ("Khmr", "Khmer", "4n4-2m 3-a 7-a dj-w"),
  ("Khoj", "Khojki", "1i4g-i 2-1b"),
  ("Kits", "Khitan_Small_Script", "20o4 5cs-d2 16"),
  ("Knda", "Kannada", "2gw-d 2-3 2-n 2-a 2-5 3-9 2-3 2-4 8-2 6-3 2-4 3-a 2-3"),
  ("Krai", "Kirat_Rai", "205c-1m"),
  ("Kthi", "Kaithi", "1hts-1v b"),
  ("Lana", "Tai_Tham", "55s-1r 2-t 3-b 7-a 7-e"),
  ("Laoo", "Lao", "2v5-2 2 2-5 2-o 2 2-n 3-5 2 2-7 2-a 3-4"),
  ("Latn", "Latin", String.join [
    "1t-q 7-q 1c g 6-n 2-v 2-ch 14-5 55o-12 7-1d 6-4 6-d 2-1y 1u-74 aa e h-d 3y-2 7 s i-15 254-w ",
    "o83-2u 4-2a l-f mp-17 2-9 2-4 fpz-7 t7-q 7-q 1ly-6 2-16 2-9 16iu-v 7-6"]),
  ("Lepc", "Lepcha", "5j4-1k 4-f 4-3"),
  ("Limb", "Limbu", "4xs-v 2-c 5-c 5 4-c"),
  ("Lina", "Linear_A", "1fr4-8n a-m b-8"),
  ("Linb", "Linear_B", "1ekg-c 2-q 2-j 2-2 2-f 3-e z-3f"),
  ("Lisu", "Lisu", "wk0-1c o8h"),
  ("Lyci", "Lycian", "1f28-t"),
  ("Lydi", "Lydian", "1gdc-q 6"),
  ("Mahj", "Mahajani", "1hzk-13"),
  ("Maka", "Makasar", "1ko0-p"),
  ("Mand", "Mandaic", "1mo-s 3"),
  ("Mani", "Manichaean", "1gow-13 5-c"),
  ("Marc", "Marchen", "1k6o-w 3-m 2-e"),
  ("Medf", "Medefaidrin", "20cg-2j"),
  ("Mend", "Mende_Kikakui", "2oe8-5h 3-g"),
  ("Merc", "Meroitic_Cursive", "1ggw-o 5-k 3-1a"),
  ("Mero", "Meroitic_Hieroglyphs", "1gg0-w"),
  ("Mlym", "Malayalam", "2kg-d 2-3 2-1f 2-3 2-6 5-g 3-q"),
  ("Modi", "Modi", "1iww-1x c-a"),
  ("Mong", "Mongolian", "4qo-2 3 2-k 7-2h 8-17 1e46-d"),
  ("Mroo", "Mro", "1zk0-v 2-a 5-2"),
  ("Mtei", "Meetei_Mayek", "xr4-n 5m-1a 3-a"),
  ("Mult", "Multani", "1i80-7 2 2-4 2-f 2-b"),
  ("Mymr", "Myanmar", "35s-4g u9t-v 2q-w le9-k"),
  ("Nagm", "Nag_Mundari", "2nrk-16"),
  ("Nand", "Nandinagari", "1jmo-8 3-1a 3-b"),
  ("Narb", "Old_North_Arabian", "1gn4-w"),
  ("Nbat", "Nabataean", "1g8w-v 9-9"),
  ("Newa", "Newa", "1iio-2k 2-5"),
  ("Nkoo", "Nko", "1j4-1n 3-3"),
  ("Nshu", "Nushu", "20o1 cy7-b0"),
  ("Ogam", "Ogham", "4g0-t"),
  ("Olck", "Ol_Chiki", "5lc-1c"),
  ("Onao", "Ol_Onal", "2nyo-17 5"),
  ("Orkh", "Old_Turkic", "1gxs-21"),
  ("Orya", "Oriya", "269-3 2-8 3-2 3-m 2-7 2-2 2-5 3-9 3-2 3-3 8-3 5-2 2-5 3-i"),
  ("Osge", "Osage", "1fhs-10 5-10"),
  ("Osma", "Osmanya", "1fgg-u 3-a"),
  ("Ougr", "Old_Uyghur", "1hm8-q"),
  ("Palm", "Palmyrene", "1g80-w"),
  ("Pauc", "Pau_Cin_Hau", "1juo-1l"),
  ("Perm", "Old_Permic", "1f80-17"),
  ("Phag", "Phags_Pa", "x8g-1k"),
  ("Phli", "Inscriptional_Pahlavi", "1gtc-j 6-8"),
  ("Phlp", "Psalter_Pahlavi", "1gu8-i 8-4 d-7"),
  ("Phnx", "Phoenician", "1gcg-s 4"),
  ("Plrd", "Miao", "20hs-23 5-1l 8-h"),
  ("Prti", "Inscriptional_Parthian", "1gsg-m 3-8"),
  ("Rjng", "Rejang", "xf4-10 c"),
  ("Rohg", "Hanifi_Rohingya", "1h4w-14 9-a"),
  ("Runr", "Runic", "4gw-23 4-b"),
  ("Samr", "Samaritan", "1kw-1a 3-f"),
  ("Sarb", "Old_South_Arabian", "1gm8-w"),
  ("Saur", "Saurashtra", "xa8-1y 9-c"),
  ("Sgnw", "SignWriting", "2l8g-i4 g-5 2-f"),
  ("Shaw", "Shavian", "1ff4-1c"),
  ("Shrd", "Sharada", "1i0w-2o 1vl-8"),
  ("Sidd", "Siddham", "1itc-1i 3-12"),
  ("Sidt", "Sidetic", "1ge8-q"),
  ("Sind", "Khudawadi", "1i9c-1n 6-a"),
  ("Sinh", "Sinhala", "2o1-3 2-i 4-o 2-9 2 3-7 4 5-6 2 2-8 7-a 3-3 1fcd-k"),
  ("Sogd", "Sogdian", "1hkg-16"),
  ("Sogo", "Old_Sogdian", "1hj4-14"),
  ("Sora", "Sora_Sompeng", "1hw0-p 8-a"),
  ("Soyo", "Soyombo", "1jrk-2b"),
  ("Sund", "Sundanese", "5fk-1s 75-8"),
  ("Sunu", "Sunuwar", "1k1s-y f-a"),
  ("Sylo", "Syloti_Nagri", "x6o-19"),
  ("Syrc", "Syriac", "1ds-e 2-1o 3-3 7l-b"),
  ("Tagb", "Tagbanwa", "4m8-d 2-3 2-2"),
  ("Takr", "Takri", "1j0g-1m 7-a"),
  ("Tale", "Tai_Le", "500-u 3-5"),
  ("Talu", "New_Tai_Lue", "51c-18 5-q 7-b 4-2"),
  ("Taml", "Tamil", "29u-2 2-6 4-3 2-4 4-2 2 2-2 4-2 4-3 4-c 5-5 4-3 2-4 3 7 f-l 1ih2-1e e"),
  ("Tang", "Tangut", "20o0 w-5c0 e9-v 2q-37"),
  ("Tavt", "Tai_Viet", "xog-1v p-5"),
  ("Tayo", "Tai_Yo", "2o5c-v 2-m 9-2"),
  ("Telu", "Telugu", "2dc-d 2-3 2-n 2-g 3-9 2-3 2-4 8-2 2-3 2-2 3-4 3-a 8-9"),
  ("Tfng", "Tifinagh", "8xc-1k 8-2 f"),
  ("Tglg", "Tagalog", "4jk-m a"),
  ("Thaa", "Thaana", "1hc-1e"),
  ("Thai", "Thai", "2rl-1m 6-s"),
  ("Tibt", "Tibetan", "2yo-20 2-10 5-13 2-10 2-f 2-7 5-2"),
  ("Tirh", "Tirhuta", "1im8-20 9-a"),
  ("Tnsa", "Tangsa", "1zlc-27 2-a"),
  ("Todr", "Todhri", "1fpc-1g"),
  ("Tols", "Tolong_Siki", "1kfk-18 5-a"),
  ("Toto", "Toto", "2nbk-v"),
  ("Tutg", "Tulu_Tigalari", "1if4-a 2 3 2-12 2-a 2 3 2-4 2-a 2-2 9-2"),
  ("Ugar", "Ugaritic", "1f9c-u 2"),
  ("Vaii", "Vai", "wlc-8c"),
  ("Vith", "Vithkuqi", "1fn4-b 2-f 2-7 2-2 2-b 2-f 2-7 2-2"),
  ("Wara", "Warang_Citi", "1jfk-2b d"),
  ("Wcho", "Wancho", "2ncw-1m 6"),
  ("Xpeo", "Old_Persian", "1fa8-10 5-e"),
  ("Xsux", "Cuneiform", "1kw0-pm 2v-33 2-5 c-5g"),
  ("Yezi", "Yezidi", "1hfk-16 2-3 3-2"),
  ("Yiii", "Yi", "vls-wd 4-1j"),
  ("Zanb", "Zanabazar_Square", "1jpc-20"),
  ("Zinh", "Inherited", String.join [
    "lc-34 7q-2 cl-b r kh-4 3fg-1a 3-c dh-3 2-d 2-7 5 7 4-2 5j-1s el-2 5f-x 30a-4 30-2 14km-g ",
    "h-e r4 6b 38b 1139-1a 3-n f5-3 i-8 3-7 v-4 h45v-6o"]),
  ("Zyyy", "Common", String.join [
    "0-1t r-6 r-1b 2-f 2-5 o w ci-13 6-5 3-k 39 a 7 2 hq 7 f 4 x 4d ed 3m-2 yi ba-4 83 168-3 ",
    "20-2 5o-2 2 y6 e 8-4 2-6 2-3 3 li-c 3-2f 2-b 4-b 2-f i-y 1r-12 2-3 3-6 2-r 2-h 16-3 5-ii ",
    "n-b m-ps 75-hg 3-3u e9-2m b7-l 2 2-p g-8 5-4 2k-2 4 2j-2 44-g x-12 a 1d-1s w-29 1c 2h-4o ",
    "535-1s hkx-y 2v-3 4m-a 6t 4h b0 f-2 g5v-2 5t-a n-z 2-j 2-4 44 2-w r-6 r-b b 1a-2 1t-7 2-7 ",
    "b-5 77-3 5-19 4-9 29-d 1g-19 6d-r 10o5-4 319-71 4-c4 7-n g-h 2o-38 1p-6u b-13 3-1q 4-h 9-2 ",
    "8-u 5-1p 5y-k d-k d-2f a-p 3s-2d 2-1z 2-2 3 3-2 3-4 2-c 2 2-7 2-1t 2-4 3-8 2-7 2-s 2-4 2-5 ",
    "2 4-7 2-9g 3-84 3-1e 41e-1w 25-1p jn-18 5-2s d-f 3-f 2-f 2-11 b-4u 1l-q 2-2 e-18 5-9 8-2 ",
    "f-6 4b-rd 4-h 4-d 4-62 7-c 5 g-c 5-1k 9-a 7-14 9-u 3-c 5-2 f-9 14-9k 9-e 3-d 4-b 4-1l 2 5-g ",
    "3-c 5-a 8-43 2-2v gvlz v-2o"])]

/-- The characters that are also used in a script, beside its own, by its code. -/
def scriptExtensionTexts : List (String × String) := [
  ("Adlm", "17j x 55b 2r6"),
  ("Aghb", "lg 19 19"),
  ("Arab", "170 f 4 x b-b r 53z 2r6 14vx-2 141-s"),
  ("Armn", "lk"),
  ("Avst", "53 8zd-2"),
  ("Beng", "jg 1at-2 i-2 3u3 2 3-2 2 9 9 3 5 3-3 rne"),
  ("Bopo", "jr 2-3 e 8x4-3 5-a 2-d b-4 3 7 5g 14ju-2 7v-5"),
  ("Bugi", "xjj"),
  ("Buhd", "4l1-2"),
  ("Cakm", "1ye-a 18x-a"),
  ("Cari", "53 68z 3 2qc"),
  ("Cher", "lc-3 2 7-2 n-2 c-2"),
  ("Copt", "53 g9 4-2 2 31-2 8f6 1615-s"),
  ("Cpmn", "1erk-2"),
  ("Cprt", "1erk-3 5-19 4-9"),
  ("Cyrl", "jg 1w-3 2/3 3 6 ac-2 50y 37v"),
  ("Deva", "jg 1at-2 i-2 3u3-13 2-2 s7 qps-a"),
  ("Dogr", "1us-c vcx-a"),
  ("Dupl", "53 gg-2 2 p-2 8ig 26p0-4"),
  ("Elba", "53 ge"),
  ("Ethi", "lq"),
  ("Gara", "170 f 4"),
  ("Geor", "53 ya 29e 31b 2qf"),
  ("Glag", "53 gc 2 an 3 76 29e 31b 2qx nqk"),
  ("Gong", "53 1pp-2"),
  ("Gonm", "1us-2"),
  ("Goth", "53 gd-2 3 15"),
  ("Gran", "1u9-2 i-2 ht-e 3bx 2-2 v-3 4-2 s7 1buz 2hh-2 2"),
  ("Grek", "53 g9-2 3/3 b 1b 3 1b 570-2 ik"),
  ("Gujr", "1u9-2 i-2 vd7-a"),
  ("Gukh", "1ut"),
  ("Guru", "1u9-2 i-2 vd7-a"),
  ("Hang", "9hd-3 5-a 2-d h 7 5g 14ju-2 7v-5"),
  ("Hani", String.join [
    "53 9bt-g 2-3 3 2-a 2-d b-4 3 7 5-4 58 45-g x-12 a 1d-14 1l-1d g-c 1g 2h-p b-5 2p-v mpu-8 ",
    "h8e-2 7v-5 15vf-i 63j-2"]),
  ("Hano", "4l1-2"),
  ("Hebr", "lj-2"),
  ("Hira", "9hd-3 5-a 2-d h-6 2 5-2 2k-4 4 2j-2 14jt-2 7v-5 b 1a-2"),
  ("Hung", "6e2 3 2qc g"),
  ("Java", "xjj"),
  ("Kali", "xf2"),
  ("Kana", "lh u 8v2-3 5-a 2-d h-6 2 5-2 2k-4 4 2j-2 14jt-2 7v-5 b 1a-2"),
  ("Khoj", "25i-a v29-a"),
  ("Knda", "1u9-2 i-2 3u3 2-2 7 o 2 ri4-6"),
  ("Kthi", "1uu-a 79e o3j-a"),
  ("Latn", String.join [
    "53 ed b 2-3 2 a 2 13-f 2-2 2 g-3 8-2 2-2 13 6 5-d 7q-2 y3-2 1ih 2kd fr 5d 2lj nvt-8 fb"]),
  ("Limb", "1ut"),
  ("Lina", "1err-19"),
  ("Linb", "1erk-3 5-19 4-9"),
  ("Lisu", "jg h 8xp-2"),
  ("Lyci", "6e2"),
  ("Lydi", "53 8ze"),
  ("Mahj", "53 1pp-c vcx-a"),
  ("Mand", "18g"),
  ("Mani", "18g"),
  ("Mero", "6e5"),
  ("Mlym", "1u9-2 i-2 3ud o ri6-3"),
  ("Modi", "x80-a"),
  ("Mong", "4qq-2 2 1m2 34i-2 6-4"),
  ("Mult", "21y-a"),
  ("Mymr", "xf2"),
  ("Nand", "1u9 j-2 ox-a 35m 9 8 rhy-6"),
  ("Newa", "1u9-2 3ur 2-2 a 7/3"),
  ("Nkoo", "170 f 4 1ctb-2"),
  ("Onao", "1us-2"),
  ("Orkh", "6e2 2qe"),
  ("Orya", "1u9-2 i-2 3ud o"),
  ("Osge", "ld 3 7 25"),
  ("Ougr", "18g 1fhu"),
  ("Perm", "53 g9 6-3 b a8"),
  ("Phag", "4qq-2 2 1m2 34j"),
  ("Phlp", "18g"),
  ("Rohg", "170 f 4 x 44"),
  ("Runr", "4iz-3"),
  ("Samr", "94h"),
  ("Shaw", "53"),
  ("Shrd", "1u9 3uu 2 3-2 3 a 3 rib-6 3"),
  ("Sind", "1us-2 vd7-a"),
  ("Sinh", "1us-2 3v1"),
  ("Sogd", "18g"),
  ("Sunu", "lc-2 2 a 3 t 4"),
  ("Sylo", "1us-2 3l-a"),
  ("Syrc", "lf-2 3-2 2 p-3 8-2 2-2 kb f-2 3 x b-b r 4nc 2"),
  ("Tagb", "4l1-2"),
  ("Takr", "1us-2 vd7-a"),
  ("Tale", "lc-2 6-2 4 2lw-a"),
  ("Taml", "1u9-2 i-2 3ud ro9 ky6 2 1k-2"),
  ("Tang", "9gw-g ds"),
  ("Telu", "1u9-2 i-2 3u8-2 2 2 o"),
  ("Tfng", "le 2 2-4 q"),
  ("Tglg", "4l1-2"),
  ("Thaa", "170 f-2 3 1t-a 1cw9 b"),
  ("Thai", "jg r 18 1a"),
  ("Tibt", "9hk-4"),
  ("Tirh", "1u9-2 i-2 3u8 d g ri6-a"),
  ("Todr", "ld 3 3 a 2 23"),
  ("Toto", "jg"),
  ("Tutg", "2jq-a 35v 2 ri4-6 58"),
  ("Yezi", "170 f 4 1t-a"),
  ("Yiii", "9hd-2 6-a 3-8 68 14rq-5")]

end Arbiter.Text
