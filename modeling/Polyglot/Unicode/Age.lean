/-
# Ages

The age of a code point is the first version of the character standard that
assigns it.  The table lists the runs of one age, each by the place of its
version among all versions.
-/

import Polyglot.Unicode.Table

namespace Polyglot

namespace Unicode

namespace Age

/-- The versions, in order. -/
def versions : List String := [
  "1.1", "2.0", "2.1", "3.0", "3.1", "3.2", "4.0", "4.1", "5.0", "5.1", "5.2", "6.0", "6.1",
  "6.2", "6.3", "7.0", "8.0", "9.0", "10.0", "11.0", "12.0", "12.1", "13.0", "14.0", "15.0",
  "15.1", "16.0", "17.0"]

/-- The short name of a version: its digits behind the letter `v`. -/
def shortName (version : String) : String :=
  String.ofList ('v' :: version.toList.filter (· != '.'))

/-- The place of the version with a given name. -/
def ofName? (name : String) : Option Nat :=
  versions.findIdx? fun version => version == name || shortName version == name

/-- The runs of one age; a run of unassigned code points has none. -/
def runs : Runs (Option Nat) := .ofText String.toNat? "
0:0 1f6:3 1fa:0 218:3 220:5 221:6 222:3 234:6 237:7 242:8 250:0 2a9:3 2ae:6 2b0:0 2df:3 2e0:0
2ea:3 2ef:6 300:0 346:3 34f:5 350:6 358:7 35d:6 360:0 362:3 363:5 370:9 374:0 376:9 378:-
37a:0 37b:8 37e:0 37f:15 380:- 384:0 38b:- 38c:0 38d:- 38e:0 3a2:- 3a3:0 3cf:9 3d0:0 3d7:3
3d8:5 3da:0 3db:3 3dc:0 3dd:3 3de:0 3df:3 3e0:0 3e1:3 3e2:0 3f4:4 3f6:5 3f7:6 3fc:7 400:3
401:0 40d:3 40e:0 450:3 451:0 45d:3 45e:0 487:9 488:3 48a:5 48c:3 490:0 4c5:5 4c7:0 4c9:5
4cb:0 4cd:5 4cf:8 4d0:0 4ec:3 4ee:0 4f6:7 4f8:0 4fa:8 500:5 510:8 514:9 524:10 526:11 528:15
530:- 531:0 557:- 559:0 560:19 561:0 588:19 589:0 58a:3 58b:- 58d:15 58f:12 590:- 591:1 5a2:7
5a3:1 5b0:0 5ba:8 5bb:0 5c4:1 5c5:7 5c8:- 5d0:0 5eb:- 5ef:19 5f0:0 5f5:- 600:6 604:12 605:15
606:9 60b:7 60c:0 60d:6 616:9 61b:0 61c:14 61d:23 61e:7 61f:0 620:11 621:0 63b:9 640:0 653:3
656:6 659:7 65f:11 660:0 66e:5 670:0 6b8:3 6ba:0 6bf:3 6c0:0 6cf:3 6d0:0 6ee:6 6f0:0 6fa:3
6ff:6 700:3 70e:- 70f:3 72d:6 730:3 74b:- 74d:6 750:7 76e:9 780:3 7b1:5 7b2:- 7c0:8 7fb:-
7fd:19 800:10 82e:- 830:10 83f:- 840:11 85c:- 85e:11 85f:- 860:18 86b:- 870:23 88f:27 890:23
892:- 897:26 898:23 8a0:12 8a1:15 8a2:12 8ad:15 8b3:16 8b5:23 8b6:17 8be:22 8c8:23 8d3:19
8d4:17 8e3:16 8e4:12 8ff:15 900:10 901:0 904:6 905:0 93a:11 93c:0 94e:10 94f:11 950:0 955:10
956:11 958:0 971:9 973:11 978:15 979:10 97b:8 97d:7 97e:8 980:15 981:0 984:- 985:0 98d:- 98f:0
991:- 993:0 9a9:- 9aa:0 9b1:- 9b2:0 9b3:- 9b6:0 9ba:- 9bc:0 9bd:6 9be:0 9c5:- 9c7:0 9c9:-
9cb:0 9ce:7 9cf:- 9d7:0 9d8:- 9dc:0 9de:- 9df:0 9e4:- 9e6:0 9fb:10 9fc:18 9fe:19 9ff:- a01:6
a02:0 a03:6 a04:- a05:0 a0b:- a0f:0 a11:- a13:0 a29:- a2a:0 a31:- a32:0 a34:- a35:0 a37:-
a38:0 a3a:- a3c:0 a3d:- a3e:0 a43:- a47:0 a49:- a4b:0 a4e:- a51:9 a52:- a59:0 a5d:- a5e:0
a5f:- a66:0 a75:9 a76:19 a77:- a81:0 a84:- a85:0 a8c:6 a8d:0 a8e:- a8f:0 a92:- a93:0 aa9:-
aaa:0 ab1:- ab2:0 ab4:- ab5:0 aba:- abc:0 ac6:- ac7:0 aca:- acb:0 ace:- ad0:0 ad1:- ae0:0
ae1:6 ae4:- ae6:0 af0:12 af1:6 af2:- af9:16 afa:18 b00:- b01:0 b04:- b05:0 b0d:- b0f:0 b11:-
b13:0 b29:- b2a:0 b31:- b32:0 b34:- b35:6 b36:0 b3a:- b3c:0 b44:9 b45:- b47:0 b49:- b4b:0
b4e:- b55:22 b56:0 b58:- b5c:0 b5e:- b5f:0 b62:9 b64:- b66:0 b71:6 b72:11 b78:- b82:0 b84:-
b85:0 b8b:- b8e:0 b91:- b92:0 b96:- b99:0 b9b:- b9c:0 b9d:- b9e:0 ba0:- ba3:0 ba5:- ba8:0
bab:- bae:0 bb6:7 bb7:0 bba:- bbe:0 bc3:- bc6:0 bc9:- bca:0 bce:- bd0:9 bd1:- bd7:0 bd8:-
be6:7 be7:0 bf3:6 bfb:- c00:15 c01:0 c04:19 c05:0 c0d:- c0e:0 c11:- c12:0 c29:- c2a:0 c34:15
c35:0 c3a:- c3c:23 c3d:9 c3e:0 c45:- c46:0 c49:- c4a:0 c4e:- c55:0 c57:- c58:9 c5a:16 c5b:-
c5c:27 c5d:23 c5e:- c60:0 c62:9 c64:- c66:0 c70:- c77:20 c78:9 c80:17 c81:15 c82:0 c84:19
c85:0 c8d:- c8e:0 c91:- c92:0 ca9:- caa:0 cb4:- cb5:0 cba:- cbc:6 cbe:0 cc5:- cc6:0 cc9:-
cca:0 cce:- cd5:0 cd7:- cdc:27 cdd:23 cde:0 cdf:- ce0:0 ce2:8 ce4:- ce6:0 cf0:- cf1:8 cf3:24
cf4:- d00:18 d01:15 d02:0 d04:22 d05:0 d0d:- d0e:0 d11:- d12:0 d29:11 d2a:0 d3a:11 d3b:18
d3d:9 d3e:0 d44:9 d45:- d46:0 d49:- d4a:0 d4e:11 d4f:17 d50:- d54:17 d57:0 d58:17 d5f:16 d60:0
d62:9 d64:- d66:0 d70:9 d76:17 d79:9 d80:- d81:22 d82:3 d84:- d85:3 d97:- d9a:3 db2:- db3:3
dbc:- dbd:3 dbe:- dc0:3 dc7:- dca:3 dcb:- dcf:3 dd5:- dd6:3 dd7:- dd8:3 de0:- de6:15 df0:-
df2:3 df5:- e01:0 e3b:- e3f:0 e5c:- e81:0 e83:- e84:0 e85:- e86:20 e87:0 e89:20 e8a:0 e8b:-
e8c:20 e8d:0 e8e:20 e94:0 e98:20 e99:0 ea0:20 ea1:0 ea4:- ea5:0 ea6:- ea7:0 ea8:20 eaa:0
eac:20 ead:0 eba:20 ebb:0 ebe:- ec0:0 ec5:- ec6:0 ec7:- ec8:0 ece:24 ecf:- ed0:0 eda:- edc:0
ede:12 ee0:- f00:1 f48:- f49:1 f6a:3 f6b:9 f6d:- f71:1 f8c:11 f90:1 f96:3 f97:1 f98:- f99:1
fae:3 fb1:1 fb8:3 fb9:1 fba:3 fbd:- fbe:3 fcd:- fce:9 fcf:3 fd0:7 fd2:9 fd5:10 fd9:11 fdb:-
1000:3 1022:9 1023:3 1028:9 1029:3 102b:9 102c:3 1033:9 1036:3 103a:9 1040:3 105a:9 109a:10
109e:9 10a0:0 10c6:- 10c7:12 10c8:- 10cd:12 10ce:- 10d0:0 10f7:5 10f9:7 10fb:0 10fc:7 10fd:12
1100:0 115a:10 115f:0 11a3:10 11a8:0 11fa:10 1200:3 1207:7 1208:3 1247:7 1248:3 1249:- 124a:3
124e:- 1250:3 1257:- 1258:3 1259:- 125a:3 125e:- 1260:3 1287:7 1288:3 1289:- 128a:3 128e:-
1290:3 12af:7 12b0:3 12b1:- 12b2:3 12b6:- 12b8:3 12bf:- 12c0:3 12c1:- 12c2:3 12c6:- 12c8:3
12cf:7 12d0:3 12d7:- 12d8:3 12ef:7 12f0:3 130f:7 1310:3 1311:- 1312:3 1316:- 1318:3 131f:7
1320:3 1347:7 1348:3 135b:- 135d:11 135f:7 1361:3 137d:- 1380:7 139a:- 13a0:3 13f5:16 13f6:-
13f8:16 13fe:- 1400:10 1401:3 1677:10 1680:3 169d:- 16a0:3 16f1:15 16f9:- 1700:5 170d:23
170e:5 1715:23 1716:- 171f:23 1720:5 1737:- 1740:5 1754:- 1760:5 176d:- 176e:5 1771:- 1772:5
1774:- 1780:3 17dd:6 17de:- 17e0:3 17ea:- 17f0:6 17fa:- 1800:3 180f:23 1810:3 181a:- 1820:3
1878:19 1879:- 1880:3 18aa:9 18ab:- 18b0:10 18f6:- 1900:6 191d:15 191f:- 1920:6 192c:- 1930:6
193c:- 1940:6 1941:- 1944:6 196e:- 1970:6 1975:- 1980:7 19aa:10 19ac:- 19b0:7 19ca:- 19d0:7
19da:10 19db:- 19de:7 19e0:6 1a00:7 1a1c:- 1a1e:7 1a20:10 1a5f:- 1a60:10 1a7d:- 1a7f:10 1a8a:-
1a90:10 1a9a:- 1aa0:10 1aae:- 1ab0:15 1abf:22 1ac1:23 1acf:27 1ade:- 1ae0:27 1aec:- 1b00:8
1b4c:23 1b4d:- 1b4e:26 1b50:8 1b7d:23 1b7f:26 1b80:9 1bab:12 1bae:9 1bba:12 1bc0:11 1bf4:-
1bfc:11 1c00:9 1c38:- 1c3b:9 1c4a:- 1c4d:9 1c80:17 1c89:26 1c8b:- 1c90:19 1cbb:- 1cbd:19
1cc0:12 1cc8:- 1cd0:10 1cf3:12 1cf7:18 1cf8:15 1cfa:20 1cfb:- 1d00:6 1d6c:7 1dc4:8 1dcb:9
1de7:15 1df6:18 1dfa:23 1dfb:17 1dfc:11 1dfd:10 1dfe:8 1e00:0 1e9b:1 1e9c:9 1ea0:0 1efa:9
1f00:0 1f16:- 1f18:0 1f1e:- 1f20:0 1f46:- 1f48:0 1f4e:- 1f50:0 1f58:- 1f59:0 1f5a:- 1f5b:0
1f5c:- 1f5d:0 1f5e:- 1f5f:0 1f7e:- 1f80:0 1fb5:- 1fb6:0 1fc5:- 1fc6:0 1fd4:- 1fd6:0 1fdc:-
1fdd:0 1ff0:- 1ff2:0 1ff5:- 1ff6:0 1fff:- 2000:0 202f:3 2030:0 2047:5 2048:3 204e:5 2053:6
2055:7 2057:5 2058:7 205f:5 2064:9 2065:- 2066:14 206a:0 2071:5 2072:- 2074:0 208f:- 2090:7
2095:11 209d:- 20a0:0 20ab:1 20ac:2 20ad:3 20b0:5 20b2:7 20b6:10 20b9:11 20ba:13 20bb:15
20be:16 20bf:18 20c0:23 20c1:27 20c2:- 20d0:0 20e2:3 20e4:5 20eb:7 20ec:8 20f0:9 20f1:- 2100:0
2139:3 213b:6 213c:7 213d:5 214c:7 214d:8 214f:9 2150:10 2153:0 2183:3 2184:8 2185:9 2189:10
218a:16 218c:- 2190:0 21eb:3 21f4:5 2200:0 22f2:5 2300:0 2301:3 2302:0 237b:3 237c:5 237d:3
239b:5 23cf:6 23d1:7 23dc:8 23e8:10 23e9:11 23f4:15 23fb:17 23ff:18 2400:0 2425:3 2427:26
242a:- 2440:0 244b:- 2460:0 24eb:5 24ff:6 2500:0 2596:5 25a0:0 25f0:3 25f8:5 2600:0 2614:6
2616:5 2618:7 2619:3 261a:0 2670:3 2672:5 267e:7 2680:5 268a:6 2692:7 269d:9 269e:10 26a0:6
26a2:7 26b2:8 26b3:9 26bd:10 26c0:9 26c4:10 26ce:11 26cf:10 26e2:11 26e3:10 26e4:11 26e8:10
2700:15 2701:0 2705:11 2706:0 270a:11 270c:0 2728:11 2729:0 274c:11 274d:0 274e:11 274f:0
2753:11 2756:0 2757:10 2758:0 275f:11 2761:0 2768:5 2776:0 2795:11 2798:0 27b0:11 27b1:0
27bf:11 27c0:7 27c7:8 27cb:12 27cc:9 27cd:12 27ce:11 27d0:5 27ec:9 27f0:5 2800:3 2900:5 2b00:6
2b0e:7 2b14:8 2b1b:9 2b20:8 2b24:9 2b4d:15 2b50:9 2b55:10 2b5a:15 2b74:- 2b76:15 2b96:27
2b97:22 2b98:15 2bba:19 2bbd:15 2bc9:20 2bca:15 2bd2:18 2bd3:19 2bec:16 2bf0:19 2bff:20 2c00:7
2c2f:23 2c30:7 2c5f:23 2c60:8 2c6d:9 2c70:10 2c71:9 2c74:8 2c78:9 2c7e:10 2c80:7 2ceb:10
2cf2:12 2cf4:- 2cf9:7 2d26:- 2d27:12 2d28:- 2d2d:12 2d2e:- 2d30:7 2d66:12 2d68:- 2d6f:7
2d70:11 2d71:- 2d7f:11 2d80:7 2d97:- 2da0:7 2da7:- 2da8:7 2daf:- 2db0:7 2db7:- 2db8:7 2dbf:-
2dc0:7 2dc7:- 2dc8:7 2dcf:- 2dd0:7 2dd7:- 2dd8:7 2ddf:- 2de0:9 2e00:7 2e18:9 2e1c:7 2e1e:9
2e31:10 2e32:12 2e3c:15 2e43:17 2e45:18 2e4a:19 2e4f:20 2e50:22 2e53:23 2e5e:- 2e80:3 2e9a:-
2e9b:3 2ef4:- 2f00:3 2fd6:- 2ff0:3 2ffc:25 3000:0 3038:3 303b:5 303e:3 303f:0 3040:- 3041:0
3095:5 3097:- 3099:0 309f:5 30a1:0 30ff:5 3100:- 3105:0 312d:9 312e:18 312f:19 3130:- 3131:0
318f:- 3190:0 31a0:3 31b8:11 31bb:22 31c0:7 31d0:9 31e4:26 31e6:- 31ef:25 31f0:5 3200:0 321d:6
321f:- 3220:0 3244:10 3250:6 3251:5 3260:0 327c:6 327e:7 327f:0 32b1:5 32c0:0 32cc:6 32d0:0
32ff:21 3300:0 3377:6 337b:0 33de:6 33e0:0 33ff:6 3400:3 4db6:22 4dc0:6 4e00:0 9fa6:7 9fbc:9
9fc4:10 9fcc:12 9fcd:16 9fd6:18 9feb:19 9ff0:22 9ffd:23 a000:3 a48d:- a490:3 a4a2:5 a4a4:3
a4b4:5 a4b5:3 a4c1:5 a4c2:3 a4c5:5 a4c6:3 a4c7:- a4d0:10 a500:9 a62c:- a640:9 a660:11 a662:9
a674:12 a67c:9 a698:15 a69e:16 a69f:12 a6a0:10 a6f8:- a700:7 a717:8 a71b:9 a720:8 a722:9
a78d:11 a78f:16 a790:11 a792:12 a794:15 a7a0:11 a7aa:12 a7ab:15 a7ae:17 a7af:19 a7b0:15
a7b2:16 a7b8:19 a7ba:20 a7c0:23 a7c2:20 a7c7:22 a7cb:26 a7ce:27 a7d0:23 a7d2:27 a7d3:23
a7d4:27 a7d5:23 a7da:26 a7dd:- a7f1:27 a7f2:23 a7f5:22 a7f7:15 a7f8:12 a7fa:11 a7fb:9 a800:7
a82c:22 a82d:- a830:10 a83a:- a840:8 a878:- a880:9 a8c5:17 a8c6:- a8ce:9 a8da:- a8e0:10
a8fc:16 a8fe:19 a900:9 a954:- a95f:9 a960:10 a97d:- a980:10 a9ce:- a9cf:10 a9da:- a9de:10
a9e0:15 a9ff:- aa00:9 aa37:- aa40:9 aa4e:- aa50:9 aa5a:- aa5c:9 aa60:10 aa7c:15 aa80:10 aac3:-
aadb:10 aae0:12 aaf7:- ab01:11 ab07:- ab09:11 ab0f:- ab11:11 ab17:- ab20:11 ab27:- ab28:11
ab2f:- ab30:15 ab60:16 ab64:15 ab66:20 ab68:22 ab6c:- ab70:16 abc0:10 abee:- abf0:10 abfa:-
ac00:1 d7a4:- d7b0:10 d7c7:- d7cb:10 d7fc:- d800:1 e000:0 fa2e:12 fa30:5 fa6b:10 fa6e:- fa70:7
fada:- fb00:0 fb07:- fb13:0 fb18:- fb1d:3 fb1e:0 fb37:- fb38:0 fb3d:- fb3e:0 fb3f:- fb40:0
fb42:- fb43:0 fb45:- fb46:0 fbb2:11 fbc2:23 fbc3:27 fbd3:0 fd40:23 fd50:0 fd90:27 fd92:0
fdc8:27 fdcf:23 fdd0:4 fdf0:0 fdfc:5 fdfd:6 fdfe:23 fe00:5 fe10:7 fe1a:- fe20:0 fe24:9 fe27:15
fe2e:16 fe30:0 fe45:5 fe47:6 fe49:0 fe53:- fe54:0 fe67:- fe68:0 fe6c:- fe70:0 fe73:5 fe74:0
fe75:- fe76:0 fefd:- feff:0 ff00:- ff01:0 ff5f:5 ff61:0 ffbf:- ffc2:0 ffc8:- ffca:0 ffd0:-
ffd2:0 ffd8:- ffda:0 ffdd:- ffe0:0 ffe7:- ffe8:0 ffef:- fff9:3 fffc:2 fffd:0 10000:6 1000c:-
1000d:6 10027:- 10028:6 1003b:- 1003c:6 1003e:- 1003f:6 1004e:- 10050:6 1005e:- 10080:6
100fb:- 10100:6 10103:- 10107:6 10134:- 10137:6 10140:7 1018b:15 1018d:17 1018f:- 10190:9
1019c:22 1019d:- 101a0:15 101a1:- 101d0:9 101fe:- 10280:9 1029d:- 102a0:9 102d1:- 102e0:15
102fc:- 10300:4 1031f:15 10320:4 10324:- 1032d:18 10330:4 1034b:- 10350:15 1037b:- 10380:6
1039e:- 1039f:6 103a0:7 103c4:- 103c8:7 103d6:- 10400:4 10426:6 10428:4 1044e:6 1049e:-
104a0:6 104aa:- 104b0:17 104d4:- 104d8:17 104fc:- 10500:15 10528:- 10530:15 10564:- 1056f:15
10570:23 1057b:- 1057c:23 1058b:- 1058c:23 10593:- 10594:23 10596:- 10597:23 105a2:- 105a3:23
105b2:- 105b3:23 105ba:- 105bb:23 105bd:- 105c0:26 105f4:- 10600:15 10737:- 10740:15 10756:-
10760:15 10768:- 10780:23 10786:- 10787:23 107b1:- 107b2:23 107bb:- 10800:6 10806:- 10808:6
10809:- 1080a:6 10836:- 10837:6 10839:- 1083c:6 1083d:- 1083f:6 10840:10 10856:- 10857:10
10860:15 1089f:- 108a7:15 108b0:- 108e0:16 108f3:- 108f4:16 108f6:- 108fb:16 10900:8 1091a:10
1091c:- 1091f:8 10920:9 1093a:- 1093f:9 10940:27 1095a:- 10980:12 109b8:- 109bc:16 109be:12
109c0:16 109d0:- 109d2:16 10a00:7 10a04:- 10a05:7 10a07:- 10a0c:7 10a14:- 10a15:7 10a18:-
10a19:7 10a34:19 10a36:- 10a38:7 10a3b:- 10a3f:7 10a48:19 10a49:- 10a50:7 10a59:- 10a60:10
10a80:15 10aa0:- 10ac0:15 10ae7:- 10aeb:15 10af7:- 10b00:10 10b36:- 10b39:10 10b56:- 10b58:10
10b73:- 10b78:10 10b80:15 10b92:- 10b99:15 10b9d:- 10ba9:15 10bb0:- 10c00:10 10c49:- 10c80:16
10cb3:- 10cc0:16 10cf3:- 10cfa:16 10d00:19 10d28:- 10d30:19 10d3a:- 10d40:26 10d66:- 10d69:26
10d86:- 10d8e:26 10d90:- 10e60:10 10e7f:- 10e80:22 10eaa:- 10eab:22 10eae:- 10eb0:22 10eb2:-
10ec2:26 10ec5:27 10ec8:- 10ed0:27 10ed9:- 10efa:27 10efc:26 10efd:24 10f00:19 10f28:-
10f30:19 10f5a:- 10f70:23 10f8a:- 10fb0:22 10fcc:- 10fe0:20 10ff7:- 11000:11 1104e:- 11052:11
11070:23 11076:- 1107f:15 11080:10 110c2:23 110c3:- 110cd:19 110ce:- 110d0:12 110e9:- 110f0:12
110fa:- 11100:12 11135:- 11136:12 11144:19 11147:22 11148:- 11150:15 11177:- 11180:12 111c9:16
111cd:15 111ce:22 111d0:12 111da:15 111db:16 111e0:- 111e1:15 111f5:- 11200:15 11212:-
11213:15 1123e:17 1123f:24 11242:- 11280:16 11287:- 11288:16 11289:- 1128a:16 1128e:- 1128f:16
1129e:- 1129f:16 112aa:- 112b0:15 112eb:- 112f0:15 112fa:- 11300:16 11301:15 11304:- 11305:15
1130d:- 1130f:15 11311:- 11313:15 11329:- 1132a:15 11331:- 11332:15 11334:- 11335:15 1133a:-
1133b:19 1133c:15 11345:- 11347:15 11349:- 1134b:15 1134e:- 11350:16 11351:- 11357:15 11358:-
1135d:15 11364:- 11366:15 1136d:- 11370:15 11375:- 11380:26 1138a:- 1138b:26 1138c:- 1138e:26
1138f:- 11390:26 113b6:- 113b7:26 113c1:- 113c2:26 113c3:- 113c5:26 113c6:- 113c7:26 113cb:-
113cc:26 113d6:- 113d7:26 113d9:- 113e1:26 113e3:- 11400:17 1145a:22 1145b:17 1145c:- 1145d:17
1145e:19 1145f:20 11460:22 11462:- 11480:15 114c8:- 114d0:15 114da:- 11580:15 115b6:- 115b8:15
115ca:16 115de:- 11600:15 11645:- 11650:15 1165a:- 11660:17 1166d:- 11680:12 116b8:20 116b9:23
116ba:- 116c0:12 116ca:- 116d0:26 116e4:- 11700:16 1171a:19 1171b:- 1171d:16 1172c:- 11730:16
11740:23 11747:- 11800:19 1183c:- 118a0:15 118f3:- 118ff:15 11900:22 11907:- 11909:22 1190a:-
1190c:22 11914:- 11915:22 11917:- 11918:22 11936:- 11937:22 11939:- 1193b:22 11947:- 11950:22
1195a:- 119a0:20 119a8:- 119aa:20 119d8:- 119da:20 119e5:- 11a00:18 11a48:- 11a50:18 11a84:20
11a86:18 11a9d:19 11a9e:18 11aa3:- 11ab0:23 11ac0:15 11af9:- 11b00:24 11b0a:- 11b60:27 11b68:-
11bc0:26 11be2:- 11bf0:26 11bfa:- 11c00:17 11c09:- 11c0a:17 11c37:- 11c38:17 11c46:- 11c50:17
11c6d:- 11c70:17 11c90:- 11c92:17 11ca8:- 11ca9:17 11cb7:- 11d00:18 11d07:- 11d08:18 11d0a:-
11d0b:18 11d37:- 11d3a:18 11d3b:- 11d3c:18 11d3e:- 11d3f:18 11d48:- 11d50:18 11d5a:- 11d60:19
11d66:- 11d67:19 11d69:- 11d6a:19 11d8f:- 11d90:19 11d92:- 11d93:19 11d99:- 11da0:19 11daa:-
11db0:27 11ddc:- 11de0:27 11dea:- 11ee0:19 11ef9:- 11f00:24 11f11:- 11f12:24 11f3b:- 11f3e:24
11f5a:26 11f5b:- 11fb0:22 11fb1:- 11fc0:20 11ff2:- 11fff:20 12000:8 1236f:15 12399:16 1239a:-
12400:8 12463:15 1246f:- 12470:8 12474:15 12475:- 12480:16 12544:- 12f90:23 12ff3:- 13000:10
1342f:24 13430:20 13439:24 13456:- 13460:26 143fb:- 14400:16 14647:- 16100:26 1613a:- 16800:11
16a39:- 16a40:15 16a5f:- 16a60:15 16a6a:- 16a6e:15 16a70:23 16abf:- 16ac0:23 16aca:- 16ad0:15
16aee:- 16af0:15 16af6:- 16b00:15 16b46:- 16b50:15 16b5a:- 16b5b:15 16b62:- 16b63:15 16b78:-
16b7d:15 16b90:- 16d40:26 16d7a:- 16e40:19 16e9b:- 16ea0:27 16eb9:- 16ebb:27 16ed4:- 16f00:12
16f45:20 16f4b:- 16f4f:20 16f50:12 16f7f:20 16f88:- 16f8f:12 16fa0:- 16fe0:17 16fe1:18
16fe2:20 16fe4:22 16fe5:- 16ff0:22 16ff2:27 16ff7:- 17000:17 187ed:19 187f2:20 187f8:27
18800:17 18af3:22 18cd6:- 18cff:26 18d00:22 18d09:27 18d1f:- 18d80:27 18df3:- 1aff0:23 1aff4:-
1aff5:23 1affc:- 1affd:23 1afff:- 1b000:11 1b002:18 1b11f:23 1b123:- 1b132:24 1b133:- 1b150:20
1b153:- 1b155:24 1b156:- 1b164:20 1b168:- 1b170:18 1b2fc:- 1bc00:15 1bc6b:- 1bc70:15 1bc7d:-
1bc80:15 1bc89:- 1bc90:15 1bc9a:- 1bc9c:15 1bca4:- 1cc00:26 1ccfa:27 1ccfd:- 1cd00:26 1ceb4:-
1ceba:27 1ced1:- 1cee0:27 1cef1:- 1cf00:23 1cf2e:- 1cf30:23 1cf47:- 1cf50:23 1cfc4:- 1d000:4
1d0f6:- 1d100:4 1d127:- 1d129:9 1d12a:4 1d1de:16 1d1e9:23 1d1eb:- 1d200:7 1d246:- 1d2c0:24
1d2d4:- 1d2e0:19 1d2f4:- 1d300:6 1d357:- 1d360:8 1d372:19 1d379:- 1d400:4 1d455:- 1d456:4
1d49d:- 1d49e:4 1d4a0:- 1d4a2:4 1d4a3:- 1d4a5:4 1d4a7:- 1d4a9:4 1d4ad:- 1d4ae:4 1d4ba:-
1d4bb:4 1d4bc:- 1d4bd:4 1d4c1:6 1d4c2:4 1d4c4:- 1d4c5:4 1d506:- 1d507:4 1d50b:- 1d50d:4
1d515:- 1d516:4 1d51d:- 1d51e:4 1d53a:- 1d53b:4 1d53f:- 1d540:4 1d545:- 1d546:4 1d547:-
1d54a:4 1d551:- 1d552:4 1d6a4:7 1d6a6:- 1d6a8:4 1d7ca:8 1d7cc:- 1d7ce:4 1d800:16 1da8c:-
1da9b:16 1daa0:- 1daa1:16 1dab0:- 1df00:23 1df1f:- 1df25:24 1df2b:- 1e000:17 1e007:- 1e008:17
1e019:- 1e01b:17 1e022:- 1e023:17 1e025:- 1e026:17 1e02b:- 1e030:24 1e06e:- 1e08f:24 1e090:-
1e100:20 1e12d:- 1e130:20 1e13e:- 1e140:20 1e14a:- 1e14e:20 1e150:- 1e290:23 1e2af:- 1e2c0:20
1e2fa:- 1e2ff:20 1e300:- 1e4d0:24 1e4fa:- 1e5d0:26 1e5fb:- 1e5ff:26 1e600:- 1e6c0:27 1e6df:-
1e6e0:27 1e6f6:- 1e6fe:27 1e700:- 1e7e0:23 1e7e7:- 1e7e8:23 1e7ec:- 1e7ed:23 1e7ef:- 1e7f0:23
1e7ff:- 1e800:15 1e8c5:- 1e8c7:15 1e8d7:- 1e900:17 1e94b:20 1e94c:- 1e950:17 1e95a:- 1e95e:17
1e960:- 1ec71:19 1ecb5:- 1ed01:20 1ed3e:- 1ee00:12 1ee04:- 1ee05:12 1ee20:- 1ee21:12 1ee23:-
1ee24:12 1ee25:- 1ee27:12 1ee28:- 1ee29:12 1ee33:- 1ee34:12 1ee38:- 1ee39:12 1ee3a:- 1ee3b:12
1ee3c:- 1ee42:12 1ee43:- 1ee47:12 1ee48:- 1ee49:12 1ee4a:- 1ee4b:12 1ee4c:- 1ee4d:12 1ee50:-
1ee51:12 1ee53:- 1ee54:12 1ee55:- 1ee57:12 1ee58:- 1ee59:12 1ee5a:- 1ee5b:12 1ee5c:- 1ee5d:12
1ee5e:- 1ee5f:12 1ee60:- 1ee61:12 1ee63:- 1ee64:12 1ee65:- 1ee67:12 1ee6b:- 1ee6c:12 1ee73:-
1ee74:12 1ee78:- 1ee79:12 1ee7d:- 1ee7e:12 1ee7f:- 1ee80:12 1ee8a:- 1ee8b:12 1ee9c:- 1eea1:12
1eea4:- 1eea5:12 1eeaa:- 1eeab:12 1eebc:- 1eef0:12 1eef2:- 1f000:9 1f02c:- 1f030:9 1f094:-
1f0a0:11 1f0af:- 1f0b1:11 1f0bf:15 1f0c0:- 1f0c1:11 1f0d0:- 1f0d1:11 1f0e0:15 1f0f6:- 1f100:10
1f10b:15 1f10d:22 1f110:10 1f12f:19 1f130:11 1f131:10 1f132:11 1f13d:10 1f13e:11 1f13f:10
1f140:11 1f142:10 1f143:11 1f146:10 1f147:11 1f14a:10 1f14f:11 1f157:10 1f158:11 1f15f:10
1f160:11 1f16a:12 1f16c:20 1f16d:22 1f170:11 1f179:10 1f17a:11 1f17b:10 1f17d:11 1f17f:10
1f180:11 1f18a:10 1f18e:11 1f190:10 1f191:11 1f19b:17 1f1ad:22 1f1ae:- 1f1e6:11 1f200:10
1f201:11 1f203:- 1f210:10 1f232:11 1f23b:17 1f23c:- 1f240:10 1f249:- 1f250:11 1f252:- 1f260:18
1f266:- 1f300:11 1f321:15 1f32d:16 1f330:11 1f336:15 1f337:11 1f37d:15 1f37e:16 1f380:11
1f394:15 1f3a0:11 1f3c5:15 1f3c6:11 1f3cb:15 1f3cf:16 1f3d4:15 1f3e0:11 1f3f1:15 1f3f8:16
1f400:11 1f43f:15 1f440:11 1f441:15 1f442:11 1f4f8:15 1f4f9:11 1f4fd:15 1f4ff:16 1f500:11
1f53e:15 1f540:12 1f544:15 1f54b:16 1f550:11 1f568:15 1f57a:17 1f57b:15 1f5a4:17 1f5a5:15
1f5fb:11 1f600:12 1f601:11 1f611:12 1f612:11 1f615:12 1f616:11 1f617:12 1f618:11 1f619:12
1f61a:11 1f61b:12 1f61c:11 1f61f:12 1f620:11 1f626:12 1f628:11 1f62c:12 1f62d:11 1f62e:12
1f630:11 1f634:12 1f635:11 1f641:15 1f643:16 1f645:11 1f650:15 1f680:11 1f6c6:15 1f6d0:16
1f6d1:17 1f6d3:18 1f6d5:20 1f6d6:22 1f6d8:27 1f6d9:- 1f6dc:24 1f6dd:23 1f6e0:15 1f6ed:-
1f6f0:15 1f6f4:17 1f6f7:18 1f6f9:19 1f6fa:20 1f6fb:22 1f6fd:- 1f700:11 1f774:24 1f777:27
1f77b:24 1f780:15 1f7d5:19 1f7d9:24 1f7da:- 1f7e0:20 1f7ec:- 1f7f0:23 1f7f1:- 1f800:15 1f80c:-
1f810:15 1f848:- 1f850:15 1f85a:- 1f860:15 1f888:- 1f890:15 1f8ae:- 1f8b0:22 1f8b2:26 1f8bc:-
1f8c0:26 1f8c2:- 1f8d0:27 1f8d9:- 1f900:18 1f90c:22 1f90d:20 1f910:16 1f919:17 1f91f:18
1f920:17 1f928:18 1f930:17 1f931:18 1f933:17 1f93f:20 1f940:17 1f94c:18 1f94d:19 1f950:17
1f95f:18 1f96c:19 1f971:20 1f972:22 1f973:19 1f977:22 1f979:23 1f97a:19 1f97b:20 1f97c:19
1f980:16 1f985:17 1f992:18 1f998:19 1f9a3:22 1f9a5:20 1f9ab:22 1f9ae:20 1f9b0:19 1f9ba:20
1f9c0:16 1f9c1:19 1f9c3:20 1f9cb:22 1f9cc:23 1f9cd:20 1f9d0:18 1f9e7:19 1fa00:20 1fa54:27
1fa58:- 1fa60:19 1fa6e:- 1fa70:20 1fa74:22 1fa75:24 1fa78:20 1fa7b:23 1fa7d:- 1fa80:20
1fa83:22 1fa87:24 1fa89:26 1fa8a:27 1fa8b:- 1fa8e:27 1fa8f:26 1fa90:20 1fa96:22 1faa9:23
1faad:24 1fab0:22 1fab7:23 1fabb:24 1fabe:26 1fabf:24 1fac0:22 1fac3:23 1fac6:26 1fac7:-
1fac8:27 1fac9:- 1facd:27 1face:24 1fad0:22 1fad7:23 1fada:24 1fadc:26 1fadd:- 1fadf:26
1fae0:23 1fae8:24 1fae9:26 1faea:27 1faeb:- 1faef:27 1faf0:23 1faf7:24 1faf9:- 1fb00:22
1fb93:- 1fb94:22 1fbcb:26 1fbf0:22 1fbfa:27 1fbfb:- 1fffe:1 20000:4 2a6d7:22 2a6de:23 2a6e0:-
2a700:10 2b735:23 2b739:24 2b73a:27 2b740:11 2b81e:- 2b820:16 2cea2:27 2ceae:- 2ceb0:18
2ebe1:- 2ebf0:25 2ee5e:- 2f800:4 2fa1e:- 2fffe:1 30000:22 3134b:- 31350:24 323b0:27 3347a:-
3fffe:1 40000:- 4fffe:1 50000:- 5fffe:1 60000:- 6fffe:1 70000:- 7fffe:1 80000:- 8fffe:1
90000:- 9fffe:1 a0000:- afffe:1 b0000:- bfffe:1 c0000:- cfffe:1 d0000:- dfffe:1 e0000:-
e0001:4 e0002:- e0020:4 e0080:- e0100:6 e01f0:- efffe:1"

/-- The place of the version that first assigns a code point. -/
def of (n : Nat) : Option Nat := (runs.get? n).getD none

/-- Whether a code point is assigned in a version. -/
def isAssignedIn (version n : Nat) : Bool :=
  match of n with
  | some first => first ≤ version
  | none => false

end Age

end Unicode

end Polyglot
