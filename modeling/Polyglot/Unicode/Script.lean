/-
# Scripts

Every code point belongs to one script, and some are used with several more.
Scripts are identified by their four-letter codes.
-/

import Polyglot.Unicode.Table

namespace Polyglot

namespace Unicode

namespace Script

/-- The scripts: the code, then further names in lower case without
separators.  The code of unassigned code points is not among them. -/
def names : List (List String) :=
  (rows '-' "
Adlm-adlm-adlam Aghb-aghb-caucasianalbanian Ahom-ahom Arab-arab-arabic
Armi-armi-imperialaramaic Armn-armn-armenian Avst-avst-avestan Bali-bali-balinese
Bamu-bamu-bamum Bass-bass-bassavah Batk-batk-batak Beng-beng-bengali Bhks-bhks-bhaiksuki
Bopo-bopo-bopomofo Brah-brah-brahmi Brai-brai-braille Bugi-bugi-buginese Buhd-buhd-buhid
Cakm-cakm-chakma Cans-cans-canadianaboriginal Cari-cari-carian Cham-cham Cher-cher-cherokee
Chrs-chrs-chorasmian Copt-copt-coptic-qaac Cpmn-cpmn-cyprominoan Cprt-cprt-cypriot
Cyrl-cyrl-cyrillic Deva-deva-devanagari Diak-diak-divesakuru Dogr-dogr-dogra Dsrt-dsrt-deseret
Dupl-dupl-duployan Egyp-egyp-egyptianhieroglyphs Elba-elba-elbasan Elym-elym-elymaic
Ethi-ethi-ethiopic Geor-geor-georgian Glag-glag-glagolitic Gong-gong-gunjalagondi
Gonm-gonm-masaramgondi Goth-goth-gothic Gran-gran-grantha Grek-grek-greek Gujr-gujr-gujarati
Guru-guru-gurmukhi Hang-hang-hangul Hani-hani-han Hano-hano-hanunoo Hatr-hatr-hatran
Hebr-hebr-hebrew Hira-hira-hiragana Hluw-hluw-anatolianhieroglyphs Hmng-hmng-pahawhhmong
Hmnp-hmnp-nyiakengpuachuehmong Hung-hung-oldhungarian Ital-ital-olditalic Java-java-javanese
Kali-kali-kayahli Kana-kana-katakana Kawi-kawi Khar-khar-kharoshthi Khmr-khmr-khmer
Khoj-khoj-khojki Kits-kits-khitansmallscript Knda-knda-kannada Kthi-kthi-kaithi
Lana-lana-taitham Laoo-laoo-lao Latn-latn-latin Lepc-lepc-lepcha Limb-limb-limbu
Lina-lina-lineara Linb-linb-linearb Lisu-lisu Lyci-lyci-lycian Lydi-lydi-lydian
Mahj-mahj-mahajani Maka-maka-makasar Mand-mand-mandaic Mani-mani-manichaean Marc-marc-marchen
Medf-medf-medefaidrin Mend-mend-mendekikakui Merc-merc-meroiticcursive
Mero-mero-meroitichieroglyphs Mlym-mlym-malayalam Modi-modi Mong-mong-mongolian Mroo-mroo-mro
Mtei-mtei-meeteimayek Mult-mult-multani Mymr-mymr-myanmar Nagm-nagm-nagmundari
Nand-nand-nandinagari Narb-narb-oldnortharabian Nbat-nbat-nabataean Newa-newa Nkoo-nkoo-nko
Nshu-nshu-nushu Ogam-ogam-ogham Olck-olck-olchiki Orkh-orkh-oldturkic Orya-orya-oriya
Osge-osge-osage Osma-osma-osmanya Ougr-ougr-olduyghur Palm-palm-palmyrene Pauc-pauc-paucinhau
Perm-perm-oldpermic Phag-phag-phagspa Phli-phli-inscriptionalpahlavi Phlp-phlp-psalterpahlavi
Phnx-phnx-phoenician Plrd-plrd-miao Prti-prti-inscriptionalparthian Rjng-rjng-rejang
Rohg-rohg-hanifirohingya Runr-runr-runic Samr-samr-samaritan Sarb-sarb-oldsoutharabian
Saur-saur-saurashtra Sgnw-sgnw-signwriting Shaw-shaw-shavian Shrd-shrd-sharada
Sidd-sidd-siddham Sind-sind-khudawadi Sinh-sinh-sinhala Sogd-sogd-sogdian Sogo-sogo-oldsogdian
Sora-sora-sorasompeng Soyo-soyo-soyombo Sund-sund-sundanese Sylo-sylo-sylotinagri
Syrc-syrc-syriac Tagb-tagb-tagbanwa Takr-takr-takri Tale-tale-taile Talu-talu-newtailue
Taml-taml-tamil Tang-tang-tangut Tavt-tavt-taiviet Telu-telu-telugu Tfng-tfng-tifinagh
Tglg-tglg-tagalog Thaa-thaa-thaana Thai-thai Tibt-tibt-tibetan Tirh-tirh-tirhuta
Tnsa-tnsa-tangsa Toto-toto Ugar-ugar-ugaritic Vaii-vaii-vai Vith-vith-vithkuqi
Wara-wara-warangciti Wcho-wcho-wancho Xpeo-xpeo-oldpersian Xsux-xsux-cuneiform
Yezi-yezi-yezidi Yiii-yiii-yi Zanb-zanb-zanabazarsquare Zinh-zinh-inherited-qaai
Zyyy-zyyy-common Gara-gara-garay Gukh-gukh-gurungkhema Krai-krai-kiratrai
Onao-onao-olonal Sunu-sunu-sunuwar Todr-todr-todhri Tutg-tutg-tulutigalari Berf-berf-beriaerfe
Sidt-sidt-sidetic Tayo-tayo-taiyo Tols-tols-tolongsiki").map fun row => row.map String.ofList

/-- The code of the script with a given name. -/
def ofName? (name : String) : Option String :=
  match names.find? fun row => (row.drop 1).contains name with
  | some row => row.head?
  | none => none

/-- The runs of one script. -/
def runs : Runs String := .ofText id "
0:Zyyy 41:Latn 5b:Zyyy 61:Latn 7b:Zyyy aa:Latn ab:Zyyy ba:Latn bb:Zyyy c0:Latn d7:Zyyy d8:Latn
f7:Zyyy f8:Latn 2b9:Zyyy 2e0:Latn 2e5:Zyyy 2ea:Bopo 2ec:Zyyy 300:Zinh 370:Grek 374:Zyyy
375:Grek 378:Zzzz 37a:Grek 37e:Zyyy 37f:Grek 380:Zzzz 384:Grek 385:Zyyy 386:Grek 387:Zyyy
388:Grek 38b:Zzzz 38c:Grek 38d:Zzzz 38e:Grek 3a2:Zzzz 3a3:Grek 3e2:Copt 3f0:Grek 400:Cyrl
485:Zinh 487:Cyrl 530:Zzzz 531:Armn 557:Zzzz 559:Armn 58b:Zzzz 58d:Armn 590:Zzzz 591:Hebr
5c8:Zzzz 5d0:Hebr 5eb:Zzzz 5ef:Hebr 5f5:Zzzz 600:Arab 605:Zyyy 606:Arab 60c:Zyyy 60d:Arab
61b:Zyyy 61c:Arab 61f:Zyyy 620:Arab 640:Zyyy 641:Arab 64b:Zinh 656:Arab 670:Zinh 671:Arab
6dd:Zyyy 6de:Arab 700:Syrc 70e:Zzzz 70f:Syrc 74b:Zzzz 74d:Syrc 750:Arab 780:Thaa 7b2:Zzzz
7c0:Nkoo 7fb:Zzzz 7fd:Nkoo 800:Samr 82e:Zzzz 830:Samr 83f:Zzzz 840:Mand 85c:Zzzz 85e:Mand
85f:Zzzz 860:Syrc 86b:Zzzz 870:Arab 892:Zzzz 897:Arab 8e2:Zyyy 8e3:Arab 900:Deva 951:Zinh
955:Deva 964:Zyyy 966:Deva 980:Beng 984:Zzzz 985:Beng 98d:Zzzz 98f:Beng 991:Zzzz 993:Beng
9a9:Zzzz 9aa:Beng 9b1:Zzzz 9b2:Beng 9b3:Zzzz 9b6:Beng 9ba:Zzzz 9bc:Beng 9c5:Zzzz 9c7:Beng
9c9:Zzzz 9cb:Beng 9cf:Zzzz 9d7:Beng 9d8:Zzzz 9dc:Beng 9de:Zzzz 9df:Beng 9e4:Zzzz 9e6:Beng
9ff:Zzzz a01:Guru a04:Zzzz a05:Guru a0b:Zzzz a0f:Guru a11:Zzzz a13:Guru a29:Zzzz a2a:Guru
a31:Zzzz a32:Guru a34:Zzzz a35:Guru a37:Zzzz a38:Guru a3a:Zzzz a3c:Guru a3d:Zzzz a3e:Guru
a43:Zzzz a47:Guru a49:Zzzz a4b:Guru a4e:Zzzz a51:Guru a52:Zzzz a59:Guru a5d:Zzzz a5e:Guru
a5f:Zzzz a66:Guru a77:Zzzz a81:Gujr a84:Zzzz a85:Gujr a8e:Zzzz a8f:Gujr a92:Zzzz a93:Gujr
aa9:Zzzz aaa:Gujr ab1:Zzzz ab2:Gujr ab4:Zzzz ab5:Gujr aba:Zzzz abc:Gujr ac6:Zzzz ac7:Gujr
aca:Zzzz acb:Gujr ace:Zzzz ad0:Gujr ad1:Zzzz ae0:Gujr ae4:Zzzz ae6:Gujr af2:Zzzz af9:Gujr
b00:Zzzz b01:Orya b04:Zzzz b05:Orya b0d:Zzzz b0f:Orya b11:Zzzz b13:Orya b29:Zzzz b2a:Orya
b31:Zzzz b32:Orya b34:Zzzz b35:Orya b3a:Zzzz b3c:Orya b45:Zzzz b47:Orya b49:Zzzz b4b:Orya
b4e:Zzzz b55:Orya b58:Zzzz b5c:Orya b5e:Zzzz b5f:Orya b64:Zzzz b66:Orya b78:Zzzz b82:Taml
b84:Zzzz b85:Taml b8b:Zzzz b8e:Taml b91:Zzzz b92:Taml b96:Zzzz b99:Taml b9b:Zzzz b9c:Taml
b9d:Zzzz b9e:Taml ba0:Zzzz ba3:Taml ba5:Zzzz ba8:Taml bab:Zzzz bae:Taml bba:Zzzz bbe:Taml
bc3:Zzzz bc6:Taml bc9:Zzzz bca:Taml bce:Zzzz bd0:Taml bd1:Zzzz bd7:Taml bd8:Zzzz be6:Taml
bfb:Zzzz c00:Telu c0d:Zzzz c0e:Telu c11:Zzzz c12:Telu c29:Zzzz c2a:Telu c3a:Zzzz c3c:Telu
c45:Zzzz c46:Telu c49:Zzzz c4a:Telu c4e:Zzzz c55:Telu c57:Zzzz c58:Telu c5b:Zzzz c5c:Telu
c5e:Zzzz c60:Telu c64:Zzzz c66:Telu c70:Zzzz c77:Telu c80:Knda c8d:Zzzz c8e:Knda c91:Zzzz
c92:Knda ca9:Zzzz caa:Knda cb4:Zzzz cb5:Knda cba:Zzzz cbc:Knda cc5:Zzzz cc6:Knda cc9:Zzzz
cca:Knda cce:Zzzz cd5:Knda cd7:Zzzz cdc:Knda cdf:Zzzz ce0:Knda ce4:Zzzz ce6:Knda cf0:Zzzz
cf1:Knda cf4:Zzzz d00:Mlym d0d:Zzzz d0e:Mlym d11:Zzzz d12:Mlym d45:Zzzz d46:Mlym d49:Zzzz
d4a:Mlym d50:Zzzz d54:Mlym d64:Zzzz d66:Mlym d80:Zzzz d81:Sinh d84:Zzzz d85:Sinh d97:Zzzz
d9a:Sinh db2:Zzzz db3:Sinh dbc:Zzzz dbd:Sinh dbe:Zzzz dc0:Sinh dc7:Zzzz dca:Sinh dcb:Zzzz
dcf:Sinh dd5:Zzzz dd6:Sinh dd7:Zzzz dd8:Sinh de0:Zzzz de6:Sinh df0:Zzzz df2:Sinh df5:Zzzz
e01:Thai e3b:Zzzz e3f:Zyyy e40:Thai e5c:Zzzz e81:Laoo e83:Zzzz e84:Laoo e85:Zzzz e86:Laoo
e8b:Zzzz e8c:Laoo ea4:Zzzz ea5:Laoo ea6:Zzzz ea7:Laoo ebe:Zzzz ec0:Laoo ec5:Zzzz ec6:Laoo
ec7:Zzzz ec8:Laoo ecf:Zzzz ed0:Laoo eda:Zzzz edc:Laoo ee0:Zzzz f00:Tibt f48:Zzzz f49:Tibt
f6d:Zzzz f71:Tibt f98:Zzzz f99:Tibt fbd:Zzzz fbe:Tibt fcd:Zzzz fce:Tibt fd5:Zyyy fd9:Tibt
fdb:Zzzz 1000:Mymr 10a0:Geor 10c6:Zzzz 10c7:Geor 10c8:Zzzz 10cd:Geor 10ce:Zzzz 10d0:Geor
10fb:Zyyy 10fc:Geor 1100:Hang 1200:Ethi 1249:Zzzz 124a:Ethi 124e:Zzzz 1250:Ethi 1257:Zzzz
1258:Ethi 1259:Zzzz 125a:Ethi 125e:Zzzz 1260:Ethi 1289:Zzzz 128a:Ethi 128e:Zzzz 1290:Ethi
12b1:Zzzz 12b2:Ethi 12b6:Zzzz 12b8:Ethi 12bf:Zzzz 12c0:Ethi 12c1:Zzzz 12c2:Ethi 12c6:Zzzz
12c8:Ethi 12d7:Zzzz 12d8:Ethi 1311:Zzzz 1312:Ethi 1316:Zzzz 1318:Ethi 135b:Zzzz 135d:Ethi
137d:Zzzz 1380:Ethi 139a:Zzzz 13a0:Cher 13f6:Zzzz 13f8:Cher 13fe:Zzzz 1400:Cans 1680:Ogam
169d:Zzzz 16a0:Runr 16eb:Zyyy 16ee:Runr 16f9:Zzzz 1700:Tglg 1716:Zzzz 171f:Tglg 1720:Hano
1735:Zyyy 1737:Zzzz 1740:Buhd 1754:Zzzz 1760:Tagb 176d:Zzzz 176e:Tagb 1771:Zzzz 1772:Tagb
1774:Zzzz 1780:Khmr 17de:Zzzz 17e0:Khmr 17ea:Zzzz 17f0:Khmr 17fa:Zzzz 1800:Mong 1802:Zyyy
1804:Mong 1805:Zyyy 1806:Mong 181a:Zzzz 1820:Mong 1879:Zzzz 1880:Mong 18ab:Zzzz 18b0:Cans
18f6:Zzzz 1900:Limb 191f:Zzzz 1920:Limb 192c:Zzzz 1930:Limb 193c:Zzzz 1940:Limb 1941:Zzzz
1944:Limb 1950:Tale 196e:Zzzz 1970:Tale 1975:Zzzz 1980:Talu 19ac:Zzzz 19b0:Talu 19ca:Zzzz
19d0:Talu 19db:Zzzz 19de:Talu 19e0:Khmr 1a00:Bugi 1a1c:Zzzz 1a1e:Bugi 1a20:Lana 1a5f:Zzzz
1a60:Lana 1a7d:Zzzz 1a7f:Lana 1a8a:Zzzz 1a90:Lana 1a9a:Zzzz 1aa0:Lana 1aae:Zzzz 1ab0:Zinh
1ade:Zzzz 1ae0:Zinh 1aec:Zzzz 1b00:Bali 1b4d:Zzzz 1b4e:Bali 1b80:Sund 1bc0:Batk 1bf4:Zzzz
1bfc:Batk 1c00:Lepc 1c38:Zzzz 1c3b:Lepc 1c4a:Zzzz 1c4d:Lepc 1c50:Olck 1c80:Cyrl 1c8b:Zzzz
1c90:Geor 1cbb:Zzzz 1cbd:Geor 1cc0:Sund 1cc8:Zzzz 1cd0:Zinh 1cd3:Zyyy 1cd4:Zinh 1ce1:Zyyy
1ce2:Zinh 1ce9:Zyyy 1ced:Zinh 1cee:Zyyy 1cf4:Zinh 1cf5:Zyyy 1cf8:Zinh 1cfa:Zyyy 1cfb:Zzzz
1d00:Latn 1d26:Grek 1d2b:Cyrl 1d2c:Latn 1d5d:Grek 1d62:Latn 1d66:Grek 1d6b:Latn 1d78:Cyrl
1d79:Latn 1dbf:Grek 1dc0:Zinh 1e00:Latn 1f00:Grek 1f16:Zzzz 1f18:Grek 1f1e:Zzzz 1f20:Grek
1f46:Zzzz 1f48:Grek 1f4e:Zzzz 1f50:Grek 1f58:Zzzz 1f59:Grek 1f5a:Zzzz 1f5b:Grek 1f5c:Zzzz
1f5d:Grek 1f5e:Zzzz 1f5f:Grek 1f7e:Zzzz 1f80:Grek 1fb5:Zzzz 1fb6:Grek 1fc5:Zzzz 1fc6:Grek
1fd4:Zzzz 1fd6:Grek 1fdc:Zzzz 1fdd:Grek 1ff0:Zzzz 1ff2:Grek 1ff5:Zzzz 1ff6:Grek 1fff:Zzzz
2000:Zyyy 200c:Zinh 200e:Zyyy 2065:Zzzz 2066:Zyyy 2071:Latn 2072:Zzzz 2074:Zyyy 207f:Latn
2080:Zyyy 208f:Zzzz 2090:Latn 209d:Zzzz 20a0:Zyyy 20c2:Zzzz 20d0:Zinh 20f1:Zzzz 2100:Zyyy
2126:Grek 2127:Zyyy 212a:Latn 212c:Zyyy 2132:Latn 2133:Zyyy 214e:Latn 214f:Zyyy 2160:Latn
2189:Zyyy 218c:Zzzz 2190:Zyyy 242a:Zzzz 2440:Zyyy 244b:Zzzz 2460:Zyyy 2800:Brai 2900:Zyyy
2b74:Zzzz 2b76:Zyyy 2c00:Glag 2c60:Latn 2c80:Copt 2cf4:Zzzz 2cf9:Copt 2d00:Geor 2d26:Zzzz
2d27:Geor 2d28:Zzzz 2d2d:Geor 2d2e:Zzzz 2d30:Tfng 2d68:Zzzz 2d6f:Tfng 2d71:Zzzz 2d7f:Tfng
2d80:Ethi 2d97:Zzzz 2da0:Ethi 2da7:Zzzz 2da8:Ethi 2daf:Zzzz 2db0:Ethi 2db7:Zzzz 2db8:Ethi
2dbf:Zzzz 2dc0:Ethi 2dc7:Zzzz 2dc8:Ethi 2dcf:Zzzz 2dd0:Ethi 2dd7:Zzzz 2dd8:Ethi 2ddf:Zzzz
2de0:Cyrl 2e00:Zyyy 2e5e:Zzzz 2e80:Hani 2e9a:Zzzz 2e9b:Hani 2ef4:Zzzz 2f00:Hani 2fd6:Zzzz
2ff0:Zyyy 3005:Hani 3006:Zyyy 3007:Hani 3008:Zyyy 3021:Hani 302a:Zinh 302e:Hang 3030:Zyyy
3038:Hani 303c:Zyyy 3040:Zzzz 3041:Hira 3097:Zzzz 3099:Zinh 309b:Zyyy 309d:Hira 30a0:Zyyy
30a1:Kana 30fb:Zyyy 30fd:Kana 3100:Zzzz 3105:Bopo 3130:Zzzz 3131:Hang 318f:Zzzz 3190:Zyyy
31a0:Bopo 31c0:Zyyy 31e6:Zzzz 31ef:Zyyy 31f0:Kana 3200:Hang 321f:Zzzz 3220:Zyyy 3260:Hang
327f:Zyyy 32d0:Kana 32ff:Zyyy 3300:Kana 3358:Zyyy 3400:Hani 4dc0:Zyyy 4e00:Hani a000:Yiii
a48d:Zzzz a490:Yiii a4c7:Zzzz a4d0:Lisu a500:Vaii a62c:Zzzz a640:Cyrl a6a0:Bamu a6f8:Zzzz
a700:Zyyy a722:Latn a788:Zyyy a78b:Latn a7dd:Zzzz a7f1:Latn a800:Sylo a82d:Zzzz a830:Zyyy
a83a:Zzzz a840:Phag a878:Zzzz a880:Saur a8c6:Zzzz a8ce:Saur a8da:Zzzz a8e0:Deva a900:Kali
a92e:Zyyy a92f:Kali a930:Rjng a954:Zzzz a95f:Rjng a960:Hang a97d:Zzzz a980:Java a9ce:Zzzz
a9cf:Zyyy a9d0:Java a9da:Zzzz a9de:Java a9e0:Mymr a9ff:Zzzz aa00:Cham aa37:Zzzz aa40:Cham
aa4e:Zzzz aa50:Cham aa5a:Zzzz aa5c:Cham aa60:Mymr aa80:Tavt aac3:Zzzz aadb:Tavt aae0:Mtei
aaf7:Zzzz ab01:Ethi ab07:Zzzz ab09:Ethi ab0f:Zzzz ab11:Ethi ab17:Zzzz ab20:Ethi ab27:Zzzz
ab28:Ethi ab2f:Zzzz ab30:Latn ab5b:Zyyy ab5c:Latn ab65:Grek ab66:Latn ab6a:Zyyy ab6c:Zzzz
ab70:Cher abc0:Mtei abee:Zzzz abf0:Mtei abfa:Zzzz ac00:Hang d7a4:Zzzz d7b0:Hang d7c7:Zzzz
d7cb:Hang d7fc:Zzzz f900:Hani fa6e:Zzzz fa70:Hani fada:Zzzz fb00:Latn fb07:Zzzz fb13:Armn
fb18:Zzzz fb1d:Hebr fb37:Zzzz fb38:Hebr fb3d:Zzzz fb3e:Hebr fb3f:Zzzz fb40:Hebr fb42:Zzzz
fb43:Hebr fb45:Zzzz fb46:Hebr fb50:Arab fd3e:Zyyy fd40:Arab fdd0:Zzzz fdf0:Arab fe00:Zinh
fe10:Zyyy fe1a:Zzzz fe20:Zinh fe2e:Cyrl fe30:Zyyy fe53:Zzzz fe54:Zyyy fe67:Zzzz fe68:Zyyy
fe6c:Zzzz fe70:Arab fe75:Zzzz fe76:Arab fefd:Zzzz feff:Zyyy ff00:Zzzz ff01:Zyyy ff21:Latn
ff3b:Zyyy ff41:Latn ff5b:Zyyy ff66:Kana ff70:Zyyy ff71:Kana ff9e:Zyyy ffa0:Hang ffbf:Zzzz
ffc2:Hang ffc8:Zzzz ffca:Hang ffd0:Zzzz ffd2:Hang ffd8:Zzzz ffda:Hang ffdd:Zzzz ffe0:Zyyy
ffe7:Zzzz ffe8:Zyyy ffef:Zzzz fff9:Zyyy fffe:Zzzz 10000:Linb 1000c:Zzzz 1000d:Linb 10027:Zzzz
10028:Linb 1003b:Zzzz 1003c:Linb 1003e:Zzzz 1003f:Linb 1004e:Zzzz 10050:Linb 1005e:Zzzz
10080:Linb 100fb:Zzzz 10100:Zyyy 10103:Zzzz 10107:Zyyy 10134:Zzzz 10137:Zyyy 10140:Grek
1018f:Zzzz 10190:Zyyy 1019d:Zzzz 101a0:Grek 101a1:Zzzz 101d0:Zyyy 101fd:Zinh 101fe:Zzzz
10280:Lyci 1029d:Zzzz 102a0:Cari 102d1:Zzzz 102e0:Zinh 102e1:Zyyy 102fc:Zzzz 10300:Ital
10324:Zzzz 1032d:Ital 10330:Goth 1034b:Zzzz 10350:Perm 1037b:Zzzz 10380:Ugar 1039e:Zzzz
1039f:Ugar 103a0:Xpeo 103c4:Zzzz 103c8:Xpeo 103d6:Zzzz 10400:Dsrt 10450:Shaw 10480:Osma
1049e:Zzzz 104a0:Osma 104aa:Zzzz 104b0:Osge 104d4:Zzzz 104d8:Osge 104fc:Zzzz 10500:Elba
10528:Zzzz 10530:Aghb 10564:Zzzz 1056f:Aghb 10570:Vith 1057b:Zzzz 1057c:Vith 1058b:Zzzz
1058c:Vith 10593:Zzzz 10594:Vith 10596:Zzzz 10597:Vith 105a2:Zzzz 105a3:Vith 105b2:Zzzz
105b3:Vith 105ba:Zzzz 105bb:Vith 105bd:Zzzz 105c0:Todr 105f4:Zzzz 10600:Lina 10737:Zzzz
10740:Lina 10756:Zzzz 10760:Lina 10768:Zzzz 10780:Latn 10786:Zzzz 10787:Latn 107b1:Zzzz
107b2:Latn 107bb:Zzzz 10800:Cprt 10806:Zzzz 10808:Cprt 10809:Zzzz 1080a:Cprt 10836:Zzzz
10837:Cprt 10839:Zzzz 1083c:Cprt 1083d:Zzzz 1083f:Cprt 10840:Armi 10856:Zzzz 10857:Armi
10860:Palm 10880:Nbat 1089f:Zzzz 108a7:Nbat 108b0:Zzzz 108e0:Hatr 108f3:Zzzz 108f4:Hatr
108f6:Zzzz 108fb:Hatr 10900:Phnx 1091c:Zzzz 1091f:Phnx 10920:Lydi 1093a:Zzzz 1093f:Lydi
10940:Sidt 1095a:Zzzz 10980:Mero 109a0:Merc 109b8:Zzzz 109bc:Merc 109d0:Zzzz 109d2:Merc
10a00:Khar 10a04:Zzzz 10a05:Khar 10a07:Zzzz 10a0c:Khar 10a14:Zzzz 10a15:Khar 10a18:Zzzz
10a19:Khar 10a36:Zzzz 10a38:Khar 10a3b:Zzzz 10a3f:Khar 10a49:Zzzz 10a50:Khar 10a59:Zzzz
10a60:Sarb 10a80:Narb 10aa0:Zzzz 10ac0:Mani 10ae7:Zzzz 10aeb:Mani 10af7:Zzzz 10b00:Avst
10b36:Zzzz 10b39:Avst 10b40:Prti 10b56:Zzzz 10b58:Prti 10b60:Phli 10b73:Zzzz 10b78:Phli
10b80:Phlp 10b92:Zzzz 10b99:Phlp 10b9d:Zzzz 10ba9:Phlp 10bb0:Zzzz 10c00:Orkh 10c49:Zzzz
10c80:Hung 10cb3:Zzzz 10cc0:Hung 10cf3:Zzzz 10cfa:Hung 10d00:Rohg 10d28:Zzzz 10d30:Rohg
10d3a:Zzzz 10d40:Gara 10d66:Zzzz 10d69:Gara 10d86:Zzzz 10d8e:Gara 10d90:Zzzz 10e60:Arab
10e7f:Zzzz 10e80:Yezi 10eaa:Zzzz 10eab:Yezi 10eae:Zzzz 10eb0:Yezi 10eb2:Zzzz 10ec2:Arab
10ec8:Zzzz 10ed0:Arab 10ed9:Zzzz 10efa:Arab 10f00:Sogo 10f28:Zzzz 10f30:Sogd 10f5a:Zzzz
10f70:Ougr 10f8a:Zzzz 10fb0:Chrs 10fcc:Zzzz 10fe0:Elym 10ff7:Zzzz 11000:Brah 1104e:Zzzz
11052:Brah 11076:Zzzz 1107f:Brah 11080:Kthi 110c3:Zzzz 110cd:Kthi 110ce:Zzzz 110d0:Sora
110e9:Zzzz 110f0:Sora 110fa:Zzzz 11100:Cakm 11135:Zzzz 11136:Cakm 11148:Zzzz 11150:Mahj
11177:Zzzz 11180:Shrd 111e0:Zzzz 111e1:Sinh 111f5:Zzzz 11200:Khoj 11212:Zzzz 11213:Khoj
11242:Zzzz 11280:Mult 11287:Zzzz 11288:Mult 11289:Zzzz 1128a:Mult 1128e:Zzzz 1128f:Mult
1129e:Zzzz 1129f:Mult 112aa:Zzzz 112b0:Sind 112eb:Zzzz 112f0:Sind 112fa:Zzzz 11300:Gran
11304:Zzzz 11305:Gran 1130d:Zzzz 1130f:Gran 11311:Zzzz 11313:Gran 11329:Zzzz 1132a:Gran
11331:Zzzz 11332:Gran 11334:Zzzz 11335:Gran 1133a:Zzzz 1133b:Zinh 1133c:Gran 11345:Zzzz
11347:Gran 11349:Zzzz 1134b:Gran 1134e:Zzzz 11350:Gran 11351:Zzzz 11357:Gran 11358:Zzzz
1135d:Gran 11364:Zzzz 11366:Gran 1136d:Zzzz 11370:Gran 11375:Zzzz 11380:Tutg 1138a:Zzzz
1138b:Tutg 1138c:Zzzz 1138e:Tutg 1138f:Zzzz 11390:Tutg 113b6:Zzzz 113b7:Tutg 113c1:Zzzz
113c2:Tutg 113c3:Zzzz 113c5:Tutg 113c6:Zzzz 113c7:Tutg 113cb:Zzzz 113cc:Tutg 113d6:Zzzz
113d7:Tutg 113d9:Zzzz 113e1:Tutg 113e3:Zzzz 11400:Newa 1145c:Zzzz 1145d:Newa 11462:Zzzz
11480:Tirh 114c8:Zzzz 114d0:Tirh 114da:Zzzz 11580:Sidd 115b6:Zzzz 115b8:Sidd 115de:Zzzz
11600:Modi 11645:Zzzz 11650:Modi 1165a:Zzzz 11660:Mong 1166d:Zzzz 11680:Takr 116ba:Zzzz
116c0:Takr 116ca:Zzzz 116d0:Mymr 116e4:Zzzz 11700:Ahom 1171b:Zzzz 1171d:Ahom 1172c:Zzzz
11730:Ahom 11747:Zzzz 11800:Dogr 1183c:Zzzz 118a0:Wara 118f3:Zzzz 118ff:Wara 11900:Diak
11907:Zzzz 11909:Diak 1190a:Zzzz 1190c:Diak 11914:Zzzz 11915:Diak 11917:Zzzz 11918:Diak
11936:Zzzz 11937:Diak 11939:Zzzz 1193b:Diak 11947:Zzzz 11950:Diak 1195a:Zzzz 119a0:Nand
119a8:Zzzz 119aa:Nand 119d8:Zzzz 119da:Nand 119e5:Zzzz 11a00:Zanb 11a48:Zzzz 11a50:Soyo
11aa3:Zzzz 11ab0:Cans 11ac0:Pauc 11af9:Zzzz 11b00:Deva 11b0a:Zzzz 11b60:Shrd 11b68:Zzzz
11bc0:Sunu 11be2:Zzzz 11bf0:Sunu 11bfa:Zzzz 11c00:Bhks 11c09:Zzzz 11c0a:Bhks 11c37:Zzzz
11c38:Bhks 11c46:Zzzz 11c50:Bhks 11c6d:Zzzz 11c70:Marc 11c90:Zzzz 11c92:Marc 11ca8:Zzzz
11ca9:Marc 11cb7:Zzzz 11d00:Gonm 11d07:Zzzz 11d08:Gonm 11d0a:Zzzz 11d0b:Gonm 11d37:Zzzz
11d3a:Gonm 11d3b:Zzzz 11d3c:Gonm 11d3e:Zzzz 11d3f:Gonm 11d48:Zzzz 11d50:Gonm 11d5a:Zzzz
11d60:Gong 11d66:Zzzz 11d67:Gong 11d69:Zzzz 11d6a:Gong 11d8f:Zzzz 11d90:Gong 11d92:Zzzz
11d93:Gong 11d99:Zzzz 11da0:Gong 11daa:Zzzz 11db0:Tols 11ddc:Zzzz 11de0:Tols 11dea:Zzzz
11ee0:Maka 11ef9:Zzzz 11f00:Kawi 11f11:Zzzz 11f12:Kawi 11f3b:Zzzz 11f3e:Kawi 11f5b:Zzzz
11fb0:Lisu 11fb1:Zzzz 11fc0:Taml 11ff2:Zzzz 11fff:Taml 12000:Xsux 1239a:Zzzz 12400:Xsux
1246f:Zzzz 12470:Xsux 12475:Zzzz 12480:Xsux 12544:Zzzz 12f90:Cpmn 12ff3:Zzzz 13000:Egyp
13456:Zzzz 13460:Egyp 143fb:Zzzz 14400:Hluw 14647:Zzzz 16100:Gukh 1613a:Zzzz 16800:Bamu
16a39:Zzzz 16a40:Mroo 16a5f:Zzzz 16a60:Mroo 16a6a:Zzzz 16a6e:Mroo 16a70:Tnsa 16abf:Zzzz
16ac0:Tnsa 16aca:Zzzz 16ad0:Bass 16aee:Zzzz 16af0:Bass 16af6:Zzzz 16b00:Hmng 16b46:Zzzz
16b50:Hmng 16b5a:Zzzz 16b5b:Hmng 16b62:Zzzz 16b63:Hmng 16b78:Zzzz 16b7d:Hmng 16b90:Zzzz
16d40:Krai 16d7a:Zzzz 16e40:Medf 16e9b:Zzzz 16ea0:Berf 16eb9:Zzzz 16ebb:Berf 16ed4:Zzzz
16f00:Plrd 16f4b:Zzzz 16f4f:Plrd 16f88:Zzzz 16f8f:Plrd 16fa0:Zzzz 16fe0:Tang 16fe1:Nshu
16fe2:Hani 16fe4:Kits 16fe5:Zzzz 16ff0:Hani 16ff7:Zzzz 17000:Tang 18b00:Kits 18cd6:Zzzz
18cff:Kits 18d00:Tang 18d1f:Zzzz 18d80:Tang 18df3:Zzzz 1aff0:Kana 1aff4:Zzzz 1aff5:Kana
1affc:Zzzz 1affd:Kana 1afff:Zzzz 1b000:Kana 1b001:Hira 1b120:Kana 1b123:Zzzz 1b132:Hira
1b133:Zzzz 1b150:Hira 1b153:Zzzz 1b155:Kana 1b156:Zzzz 1b164:Kana 1b168:Zzzz 1b170:Nshu
1b2fc:Zzzz 1bc00:Dupl 1bc6b:Zzzz 1bc70:Dupl 1bc7d:Zzzz 1bc80:Dupl 1bc89:Zzzz 1bc90:Dupl
1bc9a:Zzzz 1bc9c:Dupl 1bca0:Zyyy 1bca4:Zzzz 1cc00:Zyyy 1ccfd:Zzzz 1cd00:Zyyy 1ceb4:Zzzz
1ceba:Zyyy 1ced1:Zzzz 1cee0:Zyyy 1cef1:Zzzz 1cf00:Zinh 1cf2e:Zzzz 1cf30:Zinh 1cf47:Zzzz
1cf50:Zyyy 1cfc4:Zzzz 1d000:Zyyy 1d0f6:Zzzz 1d100:Zyyy 1d127:Zzzz 1d129:Zyyy 1d167:Zinh
1d16a:Zyyy 1d17b:Zinh 1d183:Zyyy 1d185:Zinh 1d18c:Zyyy 1d1aa:Zinh 1d1ae:Zyyy 1d1eb:Zzzz
1d200:Grek 1d246:Zzzz 1d2c0:Zyyy 1d2d4:Zzzz 1d2e0:Zyyy 1d2f4:Zzzz 1d300:Zyyy 1d357:Zzzz
1d360:Zyyy 1d379:Zzzz 1d400:Zyyy 1d455:Zzzz 1d456:Zyyy 1d49d:Zzzz 1d49e:Zyyy 1d4a0:Zzzz
1d4a2:Zyyy 1d4a3:Zzzz 1d4a5:Zyyy 1d4a7:Zzzz 1d4a9:Zyyy 1d4ad:Zzzz 1d4ae:Zyyy 1d4ba:Zzzz
1d4bb:Zyyy 1d4bc:Zzzz 1d4bd:Zyyy 1d4c4:Zzzz 1d4c5:Zyyy 1d506:Zzzz 1d507:Zyyy 1d50b:Zzzz
1d50d:Zyyy 1d515:Zzzz 1d516:Zyyy 1d51d:Zzzz 1d51e:Zyyy 1d53a:Zzzz 1d53b:Zyyy 1d53f:Zzzz
1d540:Zyyy 1d545:Zzzz 1d546:Zyyy 1d547:Zzzz 1d54a:Zyyy 1d551:Zzzz 1d552:Zyyy 1d6a6:Zzzz
1d6a8:Zyyy 1d7cc:Zzzz 1d7ce:Zyyy 1d800:Sgnw 1da8c:Zzzz 1da9b:Sgnw 1daa0:Zzzz 1daa1:Sgnw
1dab0:Zzzz 1df00:Latn 1df1f:Zzzz 1df25:Latn 1df2b:Zzzz 1e000:Glag 1e007:Zzzz 1e008:Glag
1e019:Zzzz 1e01b:Glag 1e022:Zzzz 1e023:Glag 1e025:Zzzz 1e026:Glag 1e02b:Zzzz 1e030:Cyrl
1e06e:Zzzz 1e08f:Cyrl 1e090:Zzzz 1e100:Hmnp 1e12d:Zzzz 1e130:Hmnp 1e13e:Zzzz 1e140:Hmnp
1e14a:Zzzz 1e14e:Hmnp 1e150:Zzzz 1e290:Toto 1e2af:Zzzz 1e2c0:Wcho 1e2fa:Zzzz 1e2ff:Wcho
1e300:Zzzz 1e4d0:Nagm 1e4fa:Zzzz 1e5d0:Onao 1e5fb:Zzzz 1e5ff:Onao 1e600:Zzzz 1e6c0:Tayo
1e6df:Zzzz 1e6e0:Tayo 1e6f6:Zzzz 1e6fe:Tayo 1e700:Zzzz 1e7e0:Ethi 1e7e7:Zzzz 1e7e8:Ethi
1e7ec:Zzzz 1e7ed:Ethi 1e7ef:Zzzz 1e7f0:Ethi 1e7ff:Zzzz 1e800:Mend 1e8c5:Zzzz 1e8c7:Mend
1e8d7:Zzzz 1e900:Adlm 1e94c:Zzzz 1e950:Adlm 1e95a:Zzzz 1e95e:Adlm 1e960:Zzzz 1ec71:Zyyy
1ecb5:Zzzz 1ed01:Zyyy 1ed3e:Zzzz 1ee00:Arab 1ee04:Zzzz 1ee05:Arab 1ee20:Zzzz 1ee21:Arab
1ee23:Zzzz 1ee24:Arab 1ee25:Zzzz 1ee27:Arab 1ee28:Zzzz 1ee29:Arab 1ee33:Zzzz 1ee34:Arab
1ee38:Zzzz 1ee39:Arab 1ee3a:Zzzz 1ee3b:Arab 1ee3c:Zzzz 1ee42:Arab 1ee43:Zzzz 1ee47:Arab
1ee48:Zzzz 1ee49:Arab 1ee4a:Zzzz 1ee4b:Arab 1ee4c:Zzzz 1ee4d:Arab 1ee50:Zzzz 1ee51:Arab
1ee53:Zzzz 1ee54:Arab 1ee55:Zzzz 1ee57:Arab 1ee58:Zzzz 1ee59:Arab 1ee5a:Zzzz 1ee5b:Arab
1ee5c:Zzzz 1ee5d:Arab 1ee5e:Zzzz 1ee5f:Arab 1ee60:Zzzz 1ee61:Arab 1ee63:Zzzz 1ee64:Arab
1ee65:Zzzz 1ee67:Arab 1ee6b:Zzzz 1ee6c:Arab 1ee73:Zzzz 1ee74:Arab 1ee78:Zzzz 1ee79:Arab
1ee7d:Zzzz 1ee7e:Arab 1ee7f:Zzzz 1ee80:Arab 1ee8a:Zzzz 1ee8b:Arab 1ee9c:Zzzz 1eea1:Arab
1eea4:Zzzz 1eea5:Arab 1eeaa:Zzzz 1eeab:Arab 1eebc:Zzzz 1eef0:Arab 1eef2:Zzzz 1f000:Zyyy
1f02c:Zzzz 1f030:Zyyy 1f094:Zzzz 1f0a0:Zyyy 1f0af:Zzzz 1f0b1:Zyyy 1f0c0:Zzzz 1f0c1:Zyyy
1f0d0:Zzzz 1f0d1:Zyyy 1f0f6:Zzzz 1f100:Zyyy 1f1ae:Zzzz 1f1e6:Zyyy 1f200:Hira 1f201:Zyyy
1f203:Zzzz 1f210:Zyyy 1f23c:Zzzz 1f240:Zyyy 1f249:Zzzz 1f250:Zyyy 1f252:Zzzz 1f260:Zyyy
1f266:Zzzz 1f300:Zyyy 1f6d9:Zzzz 1f6dc:Zyyy 1f6ed:Zzzz 1f6f0:Zyyy 1f6fd:Zzzz 1f700:Zyyy
1f7da:Zzzz 1f7e0:Zyyy 1f7ec:Zzzz 1f7f0:Zyyy 1f7f1:Zzzz 1f800:Zyyy 1f80c:Zzzz 1f810:Zyyy
1f848:Zzzz 1f850:Zyyy 1f85a:Zzzz 1f860:Zyyy 1f888:Zzzz 1f890:Zyyy 1f8ae:Zzzz 1f8b0:Zyyy
1f8bc:Zzzz 1f8c0:Zyyy 1f8c2:Zzzz 1f8d0:Zyyy 1f8d9:Zzzz 1f900:Zyyy 1fa58:Zzzz 1fa60:Zyyy
1fa6e:Zzzz 1fa70:Zyyy 1fa7d:Zzzz 1fa80:Zyyy 1fa8b:Zzzz 1fa8e:Zyyy 1fac7:Zzzz 1fac8:Zyyy
1fac9:Zzzz 1facd:Zyyy 1fadd:Zzzz 1fadf:Zyyy 1faeb:Zzzz 1faef:Zyyy 1faf9:Zzzz 1fb00:Zyyy
1fb93:Zzzz 1fb94:Zyyy 1fbfb:Zzzz 20000:Hani 2a6e0:Zzzz 2a700:Hani 2b81e:Zzzz 2b820:Hani
2ceae:Zzzz 2ceb0:Hani 2ebe1:Zzzz 2ebf0:Hani 2ee5e:Zzzz 2f800:Hani 2fa1e:Zzzz 30000:Hani
3134b:Zzzz 31350:Hani 3347a:Zzzz e0001:Zyyy e0002:Zzzz e0020:Zyyy e0080:Zzzz e0100:Zinh
e01f0:Zzzz"

/-- The runs of code points used with other scripts than their own, and the
codes of those scripts. -/
def extensionRuns : Runs (List String) :=
  .ofText (fun label => (cutAt (· == '/') label.toList).map String.ofList) "
0:- b7:Avst/Cari/Copt/Dupl/Elba/Geor/Glag/Gong/Goth/Grek/Hani/Latn/Lydi/Mahj/Perm/Shaw b8:-
2bc:Beng/Cyrl/Deva/Latn/Lisu/Thai/Toto 2bd:- 2c7:Bopo/Latn 2c8:- 2c9:Bopo/Latn 2cc:-
2cd:Latn/Lisu 2ce:- 2d7:Latn/Thai 2d8:- 2d9:Bopo/Latn 2da:-
300:Cher/Copt/Cyrl/Grek/Latn/Perm/Tale/Sunu 301:Cher/Cyrl/Grek/Latn/Osge/Tale/Sunu/Todr
302:Cher/Cyrl/Latn/Tfng 303:Glag/Latn/Syrc/Thai/Sunu
304:Aghb/Cher/Copt/Cyrl/Goth/Grek/Latn/Osge/Syrc/Tfng/Todr 305:Copt/Elba/Glag/Goth/Kana/Latn
306:Cyrl/Grek/Latn/Perm/Tfng 307:Copt/Dupl/Hebr/Latn/Perm/Syrc/Tale/Tfng/Todr
308:Armn/Cyrl/Dupl/Goth/Grek/Hebr/Latn/Perm/Syrc/Tale/Tfng 309:Latn/Tfng 30a:Dupl/Latn/Syrc
30b:Cher/Cyrl/Latn/Osge 30c:Cher/Latn/Tale 30d:Latn/Sunu 30e:Ethi/Latn 30f:- 310:Latn/Sunu
311:Cyrl/Latn/Todr 312:- 313:Grek/Latn/Perm/Todr 314:- 323:Cher/Dupl/Kana/Latn/Syrc/Tfng
324:Cher/Dupl/Latn/Syrc 325:Latn/Syrc 326:- 32d:Latn/Syrc/Sunu 32e:Latn/Syrc 32f:-
330:Cher/Latn/Syrc 331:Aghb/Cher/Goth/Latn/Syrc/Thai/Sunu 332:- 342:Grek 343:- 345:Grek 346:-
358:Latn/Osge 359:- 35e:Aghb/Latn/Todr 35f:- 363:Latn 370:- 374:Copt/Grek 376:- 483:Cyrl/Perm
484:Cyrl/Glag 485:Cyrl/Latn 487:Cyrl/Glag 488:- 589:Armn/Geor/Glag 58a:-
60c:Arab/Nkoo/Rohg/Syrc/Thaa/Yezi/Gara 60d:- 61b:Arab/Nkoo/Rohg/Syrc/Thaa/Yezi/Gara
61c:Arab/Syrc/Thaa 61d:- 61f:Adlm/Arab/Nkoo/Rohg/Syrc/Thaa/Yezi/Gara 620:-
640:Adlm/Arab/Mand/Mani/Ougr/Phlp/Rohg/Sogd/Syrc 641:- 64b:Arab/Syrc 656:- 660:Arab/Thaa/Yezi
66a:- 670:Arab/Syrc 671:- 6d4:Arab/Rohg 6d5:-
951:Beng/Deva/Gran/Gujr/Guru/Knda/Latn/Mlym/Nand/Newa/Orya/Shrd/Taml/Telu/Tirh
952:Beng/Deva/Gran/Gujr/Guru/Knda/Latn/Mlym/Newa/Orya/Taml/Telu/Tirh 953:-
964:Beng/Deva/Dogr/Gong/Gonm/Gran/Gujr/Guru/Knda/Mahj/Mlym/Nand/Orya/Sind/Sinh/Sylo/Takr/Taml/Telu/Tirh/Onao
965:Beng/Deva/Dogr/Gong/Gonm/Gran/Gujr/Guru/Knda/Limb/Mahj/Mlym/Nand/Orya/Sind/Sinh/Sylo/Takr/Taml/Telu/Tirh/Gukh/Onao
966:Deva/Dogr/Kthi/Mahj 970:- 9e6:Beng/Cakm/Sylo 9f0:- a66:Guru/Mult a70:- ae6:Gujr/Khoj af0:-
be6:Gran/Taml bf4:- ce6:Knda/Nand/Tutg cf0:- 1040:Cakm/Mymr/Tale 104a:- 10fb:Geor/Glag/Latn
10fc:- 16eb:Runr 16ee:- 1735:Buhd/Hano/Tagb/Tglg 1737:- 1802:Mong/Phag 1804:- 1805:Mong/Phag
1806:- 1cd0:Beng/Deva/Gran/Knda 1cd1:Deva 1cd2:Beng/Deva/Gran/Knda 1cd3:Deva/Gran/Knda
1cd4:Deva 1cd5:Beng/Deva/Newa/Telu/Tirh 1cd6:Beng/Deva/Telu 1cd7:Deva/Newa/Shrd
1cd8:Beng/Deva/Newa/Telu 1cd9:Deva/Shrd 1cda:Deva/Knda/Mlym/Orya/Taml/Telu 1cdb:Deva
1cdc:Deva/Shrd 1cde:Deva 1ce0:Deva/Shrd 1ce1:Beng/Deva 1ce2:Deva/Newa/Tirh 1ce3:Deva
1ce9:Deva/Nand/Newa 1cea:Beng/Deva/Shrd 1ceb:Deva/Newa 1cec:Deva 1ced:Beng/Deva/Newa/Shrd
1cee:Deva 1cf2:Beng/Deva/Gran/Knda/Mlym/Nand/Orya/Sinh/Telu/Tirh/Tutg 1cf3:Deva/Gran
1cf4:Deva/Gran/Knda/Tutg 1cf5:Beng/Deva 1cf7:Beng 1cf8:Deva/Gran 1cfa:Nand 1cfb:- 1dc0:Grek
1dc2:- 1df8:Cyrl/Latn/Syrc 1df9:- 1dfa:Syrc 1dfb:- 202f:Latn/Mong/Phag 2030:- 204f:Adlm/Arab
2050:- 205a:Cari/Geor/Glag/Hung/Lyci/Orkh 205b:- 205d:Cari/Grek/Hung/Mero 205e:-
20f0:Deva/Gran/Latn 20f1:- 2e17:Copt/Latn 2e18:- 2e30:Avst/Orkh
2e31:Avst/Cari/Geor/Hung/Kthi/Lydi/Samr 2e32:- 2e3c:Dupl 2e3d:- 2e41:Adlm/Arab/Hung 2e42:-
2e43:Cyrl/Glag 2e44:- 2ff0:Hani/Tang 3000:- 3001:Bopo/Hang/Hani/Hira/Kana/Mong/Yiii
3002:Bopo/Hang/Hani/Hira/Kana/Mong/Phag/Yiii 3003:Bopo/Hang/Hani/Hira/Kana 3004:- 3006:Hani
3007:- 3008:Bopo/Hang/Hani/Hira/Kana/Mong/Tibt/Yiii
300a:Bopo/Hang/Hani/Hira/Kana/Lisu/Mong/Tibt/Yiii 300c:Bopo/Hang/Hani/Hira/Kana/Yiii 3012:-
3013:Bopo/Hang/Hani/Hira/Kana 3014:Bopo/Hang/Hani/Hira/Kana/Yiii 301c:Bopo/Hang/Hani/Hira/Kana
3020:- 302a:Bopo/Hani 302e:- 3030:Bopo/Hang/Hani/Hira/Kana 3031:Hira/Kana 3036:-
3037:Bopo/Hang/Hani/Hira/Kana 3038:- 303c:Hani/Hira/Kana 303e:Hani 3040:- 3099:Hira/Kana
309d:- 30a0:Hira/Kana 30a1:- 30fb:Bopo/Hang/Hani/Hira/Kana/Yiii 30fc:Hira/Kana 30fd:-
3190:Hani 31a0:- 31c0:Hani 31e6:- 31ef:Hani/Tang 31f0:- 3220:Hani 3248:- 3280:Hani 32b1:-
32c0:Hani 32cc:- 32ff:Hani 3300:- 3358:Hani 3371:- 337b:Hani 3380:- 33e0:Hani 33ff:-
a66f:Cyrl/Glag a670:- a700:Hani/Latn a708:-
a830:Deva/Dogr/Gujr/Guru/Khoj/Knda/Kthi/Mahj/Mlym/Modi/Nand/Shrd/Sind/Takr/Tirh/Tutg
a833:Deva/Dogr/Gujr/Guru/Khoj/Knda/Kthi/Mahj/Modi/Nand/Shrd/Sind/Takr/Tirh/Tutg
a836:Deva/Dogr/Gujr/Guru/Khoj/Kthi/Mahj/Modi/Sind/Takr/Tirh
a838:Deva/Dogr/Gujr/Guru/Khoj/Kthi/Mahj/Modi/Shrd/Sind/Takr/Tirh
a839:Deva/Dogr/Gujr/Guru/Khoj/Kthi/Mahj/Modi/Sind/Takr/Tirh a83a:- a8f1:Beng/Deva/Tutg a8f2:-
a8f3:Deva/Taml a8f4:- a92e:Kali/Latn/Mymr a92f:- a9cf:Bugi/Java a9d0:- fd3e:Arab/Nkoo fd40:-
fdf2:Arab/Thaa fdf3:- fdfd:Arab/Thaa fdfe:- fe45:Bopo/Hang/Hani/Hira/Kana fe47:-
ff61:Bopo/Hang/Hani/Hira/Kana/Yiii ff66:- ff70:Hira/Kana ff71:- ff9e:Hira/Kana ffa0:-
10100:Cpmn/Cprt/Linb 10102:Cprt/Linb 10103:- 10107:Cprt/Lina/Linb 10134:- 10137:Cprt/Linb
10140:- 102e0:Arab/Copt 102fc:- 10af2:Mani/Ougr 10af3:- 11301:Gran/Taml 11302:-
11303:Gran/Taml 11304:- 1133b:Gran/Taml 1133d:- 11fd0:Gran/Taml 11fd2:- 11fd3:Gran/Taml
11fd4:- 1bca0:Dupl 1bca4:- 1d360:Hani 1d372:- 1f250:Hani 1f252:-"

/-- The code of the script of a code point. -/
def of (n : Nat) : String := (runs.get? n).getD "Zzzz"

/-- The codes of all scripts a code point is used with. -/
def extensionsOf (n : Nat) : List String :=
  match extensionRuns.get? n with
  | some ["-"] => [of n]
  | some codes => codes
  | none => [of n]

end Script

end Unicode

end Polyglot
