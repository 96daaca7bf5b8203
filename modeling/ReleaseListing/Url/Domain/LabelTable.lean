/-!
# Character properties that the rules for labels ask for

Each entry holds from its code point up to the next entry: whether the character is a combining
mark (`1`), its direction (the property Bidi_Class, for characters that a domain may hold) and
how it joins its neighbours (the property Joining_Type).
-/

namespace ReleaseListing.Url.Domain

def combiningMarkText : String :=
  "300:1 370:0 483:1 48a:0 591:1 5be:0 5bf:1 5c0:0 5c1:1 5c3:0 5c4:1 5c6:0 5c7:1 5c8:0 610:1
  61b:0 64b:1 660:0 670:1 671:0 6d6:1 6dd:0 6df:1 6e5:0 6e7:1 6e9:0 6ea:1 6ee:0 711:1 712:0
  730:1 74b:0 7a6:1 7b1:0 7eb:1 7f4:0 7fd:1 7fe:0 816:1 81a:0 81b:1 824:0 825:1 828:0 829:1
  82e:0 859:1 85c:0 898:1 8a0:0 8ca:1 8e2:0 8e3:1 904:0 93a:1 93d:0 93e:1 950:0 951:1 958:0
  962:1 964:0 981:1 984:0 9bc:1 9bd:0 9be:1 9c5:0 9c7:1 9c9:0 9cb:1 9ce:0 9d7:1 9d8:0 9e2:1
  9e4:0 9fe:1 9ff:0 a01:1 a04:0 a3c:1 a3d:0 a3e:1 a43:0 a47:1 a49:0 a4b:1 a4e:0 a51:1 a52:0
  a70:1 a72:0 a75:1 a76:0 a81:1 a84:0 abc:1 abd:0 abe:1 ac6:0 ac7:1 aca:0 acb:1 ace:0 ae2:1
  ae4:0 afa:1 b00:0 b01:1 b04:0 b3c:1 b3d:0 b3e:1 b45:0 b47:1 b49:0 b4b:1 b4e:0 b55:1 b58:0
  b62:1 b64:0 b82:1 b83:0 bbe:1 bc3:0 bc6:1 bc9:0 bca:1 bce:0 bd7:1 bd8:0 c00:1 c05:0 c3c:1
  c3d:0 c3e:1 c45:0 c46:1 c49:0 c4a:1 c4e:0 c55:1 c57:0 c62:1 c64:0 c81:1 c84:0 cbc:1 cbd:0
  cbe:1 cc5:0 cc6:1 cc9:0 cca:1 cce:0 cd5:1 cd7:0 ce2:1 ce4:0 cf3:1 cf4:0 d00:1 d04:0 d3b:1
  d3d:0 d3e:1 d45:0 d46:1 d49:0 d4a:1 d4e:0 d57:1 d58:0 d62:1 d64:0 d81:1 d84:0 dca:1 dcb:0
  dcf:1 dd5:0 dd6:1 dd7:0 dd8:1 de0:0 df2:1 df4:0 e31:1 e32:0 e34:1 e3b:0 e47:1 e4f:0 eb1:1
  eb2:0 eb4:1 ebd:0 ec8:1 ecf:0 f18:1 f1a:0 f35:1 f36:0 f37:1 f38:0 f39:1 f3a:0 f3e:1 f40:0
  f71:1 f85:0 f86:1 f88:0 f8d:1 f98:0 f99:1 fbd:0 fc6:1 fc7:0 102b:1 103f:0 1056:1 105a:0
  105e:1 1061:0 1062:1 1065:0 1067:1 106e:0 1071:1 1075:0 1082:1 108e:0 108f:1 1090:0 109a:1
  109e:0 135d:1 1360:0 1712:1 1716:0 1732:1 1735:0 1752:1 1754:0 1772:1 1774:0 17b4:1 17d4:0
  17dd:1 17de:0 180b:1 180e:0 180f:1 1810:0 1885:1 1887:0 18a9:1 18aa:0 1920:1 192c:0 1930:1
  193c:0 1a17:1 1a1c:0 1a55:1 1a5f:0 1a60:1 1a7d:0 1a7f:1 1a80:0 1ab0:1 1acf:0 1b00:1 1b05:0
  1b34:1 1b45:0 1b6b:1 1b74:0 1b80:1 1b83:0 1ba1:1 1bae:0 1be6:1 1bf4:0 1c24:1 1c38:0 1cd0:1
  1cd3:0 1cd4:1 1ce9:0 1ced:1 1cee:0 1cf4:1 1cf5:0 1cf7:1 1cfa:0 1dc0:1 1e00:0 20d0:1 20f1:0
  2cef:1 2cf2:0 2d7f:1 2d80:0 2de0:1 2e00:0 302a:1 3030:0 3099:1 309b:0 a66f:1 a673:0 a674:1
  a67e:0 a69e:1 a6a0:0 a6f0:1 a6f2:0 a802:1 a803:0 a806:1 a807:0 a80b:1 a80c:0 a823:1 a828:0
  a82c:1 a82d:0 a880:1 a882:0 a8b4:1 a8c6:0 a8e0:1 a8f2:0 a8ff:1 a900:0 a926:1 a92e:0 a947:1
  a954:0 a980:1 a984:0 a9b3:1 a9c1:0 a9e5:1 a9e6:0 aa29:1 aa37:0 aa43:1 aa44:0 aa4c:1 aa4e:0
  aa7b:1 aa7e:0 aab0:1 aab1:0 aab2:1 aab5:0 aab7:1 aab9:0 aabe:1 aac0:0 aac1:1 aac2:0 aaeb:1
  aaf0:0 aaf5:1 aaf7:0 abe3:1 abeb:0 abec:1 abee:0 fb1e:1 fb1f:0 fe00:1 fe10:0 fe20:1 fe30:0
  101fd:1 101fe:0 102e0:1 102e1:0 10376:1 1037b:0 10a01:1 10a04:0 10a05:1 10a07:0 10a0c:1
  10a10:0 10a38:1 10a3b:0 10a3f:1 10a40:0 10ae5:1 10ae7:0 10d24:1 10d28:0 10eab:1 10ead:0
  10efd:1 10f00:0 10f46:1 10f51:0 10f82:1 10f86:0 11000:1 11003:0 11038:1 11047:0 11070:1
  11071:0 11073:1 11075:0 1107f:1 11083:0 110b0:1 110bb:0 110c2:1 110c3:0 11100:1 11103:0
  11127:1 11135:0 11145:1 11147:0 11173:1 11174:0 11180:1 11183:0 111b3:1 111c1:0 111c9:1
  111cd:0 111ce:1 111d0:0 1122c:1 11238:0 1123e:1 1123f:0 11241:1 11242:0 112df:1 112eb:0
  11300:1 11304:0 1133b:1 1133d:0 1133e:1 11345:0 11347:1 11349:0 1134b:1 1134e:0 11357:1
  11358:0 11362:1 11364:0 11366:1 1136d:0 11370:1 11375:0 11435:1 11447:0 1145e:1 1145f:0
  114b0:1 114c4:0 115af:1 115b6:0 115b8:1 115c1:0 115dc:1 115de:0 11630:1 11641:0 116ab:1
  116b8:0 1171d:1 1172c:0 1182c:1 1183b:0 11930:1 11936:0 11937:1 11939:0 1193b:1 1193f:0
  11940:1 11941:0 11942:1 11944:0 119d1:1 119d8:0 119da:1 119e1:0 119e4:1 119e5:0 11a01:1
  11a0b:0 11a33:1 11a3a:0 11a3b:1 11a3f:0 11a47:1 11a48:0 11a51:1 11a5c:0 11a8a:1 11a9a:0
  11c2f:1 11c37:0 11c38:1 11c40:0 11c92:1 11ca8:0 11ca9:1 11cb7:0 11d31:1 11d37:0 11d3a:1
  11d3b:0 11d3c:1 11d3e:0 11d3f:1 11d46:0 11d47:1 11d48:0 11d8a:1 11d8f:0 11d90:1 11d92:0
  11d93:1 11d98:0 11ef3:1 11ef7:0 11f00:1 11f02:0 11f03:1 11f04:0 11f34:1 11f3b:0 11f3e:1
  11f43:0 13440:1 13441:0 13447:1 13456:0 16af0:1 16af5:0 16b30:1 16b37:0 16f4f:1 16f50:0
  16f51:1 16f88:0 16f8f:1 16f93:0 16fe4:1 16fe5:0 16ff0:1 16ff2:0 1bc9d:1 1bc9f:0 1cf00:1
  1cf2e:0 1cf30:1 1cf47:0 1d165:1 1d16a:0 1d16d:1 1d173:0 1d17b:1 1d183:0 1d185:1 1d18c:0
  1d1aa:1 1d1ae:0 1d242:1 1d245:0 1da00:1 1da37:0 1da3b:1 1da6d:0 1da75:1 1da76:0 1da84:1
  1da85:0 1da9b:1 1daa0:0 1daa1:1 1dab0:0 1e000:1 1e007:0 1e008:1 1e019:0 1e01b:1 1e022:0
  1e023:1 1e025:0 1e026:1 1e02b:0 1e08f:1 1e090:0 1e130:1 1e137:0 1e2ae:1 1e2af:0 1e2ec:1
  1e2f0:0 1e4ec:1 1e4f0:0 1e8d0:1 1e8d7:0 1e944:1 1e94b:0 e0100:1 e01f0:0"

def directionText : String :=
  "0:BN 9:S a:B b:S c:WS d:B e:BN 1c:B 1f:S 20:WS 21:ON 23:ET 26:ON 2b:ES 2c:CS 2d:ES 2e:CS
  30:EN 3a:CS 3b:ON 61:L 7b:ON 7f:BN a1:ON a2:ET a6:ON b0:ET b6:ON df:L f7:ON f8:L 2b9:ON
  2bb:L 2c2:ON 2d0:L 2d2:ON 2ee:L 2ef:ON 300:NSM 371:L 375:ON 377:L 3f6:ON 3f8:L 483:NSM
  48b:L 58a:ON 58f:ET 591:NSM 5be:R 5bf:NSM 5c0:R 5c1:NSM 5c3:R 5c4:NSM 5c6:R 5c7:NSM 5d0:R
  606:ON 608:AL 609:ET 60b:AL 60c:CS 60d:AL 60e:ON 610:NSM 61b:AL 64b:NSM 660:AN 66a:ET
  66b:AN 66d:AL 670:NSM 671:AL 6d6:NSM 6de:ON 6df:NSM 6e5:AL 6e7:NSM 6e9:ON 6ea:NSM 6ee:AL
  6f0:EN 6fa:AL 711:NSM 712:AL 730:NSM 74d:AL 7a6:NSM 7b1:AL 7c0:R 7eb:NSM 7f4:R 7f6:ON 7fa:R
  7fd:NSM 7fe:R 816:NSM 81a:R 81b:NSM 824:R 825:NSM 828:R 829:NSM 830:R 859:NSM 85e:R 860:AL
  898:NSM 8a0:AL 8ca:NSM 903:L 93a:NSM 93b:L 93c:NSM 93d:L 941:NSM 949:L 94d:NSM 94e:L
  951:NSM 960:L 962:NSM 964:L 981:NSM 982:L 9bc:NSM 9bd:L 9c1:NSM 9c7:L 9cd:NSM 9ce:L 9e2:NSM
  9e6:L 9f2:ET 9f4:L 9fb:ET 9fc:L 9fe:NSM a03:L a3c:NSM a3e:L a41:NSM a5c:L a70:NSM a72:L
  a75:NSM a76:L a81:NSM a83:L abc:NSM abd:L ac1:NSM ac9:L acd:NSM ad0:L ae2:NSM ae6:L af1:ET
  af9:L afa:NSM b02:L b3c:NSM b3d:L b3f:NSM b40:L b41:NSM b47:L b4d:NSM b57:L b62:NSM b66:L
  b82:NSM b83:L bc0:NSM bc1:L bcd:NSM bd0:L bf3:ON bf9:ET bfa:ON c00:NSM c01:L c04:NSM c05:L
  c3c:NSM c3d:L c3e:NSM c41:L c46:NSM c58:L c62:NSM c66:L c78:ON c7f:L c81:NSM c82:L cbc:NSM
  cbd:L ccc:NSM cd5:L ce2:NSM ce6:L d00:NSM d02:L d3b:NSM d3d:L d41:NSM d46:L d4d:NSM d4e:L
  d62:NSM d66:L d81:NSM d82:L dca:NSM dcf:L dd2:NSM dd8:L e31:NSM e32:L e34:NSM e3f:ET e40:L
  e47:NSM e4f:L eb1:NSM eb2:L eb4:NSM ebd:L ec8:NSM ed0:L f18:NSM f1a:L f35:NSM f36:L f37:NSM
  f38:L f39:NSM f3a:ON f3e:L f71:NSM f7f:L f80:NSM f85:L f86:NSM f88:L f8d:NSM fbe:L fc6:NSM
  fc7:L 102d:NSM 1031:L 1032:NSM 1038:L 1039:NSM 103b:L 103d:NSM 103f:L 1058:NSM 105a:L
  105e:NSM 1061:L 1071:NSM 1075:L 1082:NSM 1083:L 1085:NSM 1087:L 108d:NSM 108e:L 109d:NSM
  109e:L 135d:NSM 1360:L 1390:ON 13a0:L 1400:ON 1401:L 169b:ON 16a0:L 1712:NSM 1715:L
  1732:NSM 1734:L 1752:NSM 1760:L 1772:NSM 1780:L 17b7:NSM 17be:L 17c6:NSM 17c7:L 17c9:NSM
  17d4:L 17db:ET 17dc:L 17dd:NSM 17e0:L 17f0:ON 1810:L 1885:NSM 1887:L 18a9:NSM 18aa:L
  1920:NSM 1923:L 1927:NSM 1929:L 1932:NSM 1933:L 1939:NSM 1940:ON 1946:L 19de:ON 1a00:L
  1a17:NSM 1a19:L 1a1b:NSM 1a1e:L 1a56:NSM 1a57:L 1a58:NSM 1a61:L 1a62:NSM 1a63:L 1a65:NSM
  1a6d:L 1a73:NSM 1a80:L 1ab0:NSM 1b04:L 1b34:NSM 1b35:L 1b36:NSM 1b3b:L 1b3c:NSM 1b3d:L
  1b42:NSM 1b43:L 1b6b:NSM 1b74:L 1b80:NSM 1b82:L 1ba2:NSM 1ba6:L 1ba8:NSM 1baa:L 1bab:NSM
  1bae:L 1be6:NSM 1be7:L 1be8:NSM 1bea:L 1bed:NSM 1bee:L 1bef:NSM 1bf2:L 1c2c:NSM 1c34:L
  1c36:NSM 1c3b:L 1cd0:NSM 1cd3:L 1cd4:NSM 1ce1:L 1ce2:NSM 1ce9:L 1ced:NSM 1cee:L 1cf4:NSM
  1cf5:L 1cf8:NSM 1cfa:L 1dc0:NSM 1e01:L 200c:BN 2010:ON 2030:ET 2035:ON 2044:CS 2045:ON
  20a0:ET 20d0:NSM 2104:ON 212e:ET 213a:ON 214e:L 218a:ON 2212:ES 2213:ET 2214:ON 2336:L
  237b:ON 2395:L 2396:ON 26ac:L 26ad:ON 2800:L 2900:ON 2c30:L 2ce5:ON 2cec:L 2cef:NSM 2cf3:L
  2cf9:ON 2d00:L 2d7f:NSM 2d80:L 2de0:NSM 2e00:ON 3005:L 3008:ON 3021:L 302a:NSM 302e:L
  3030:ON 3031:L 3037:ON 303b:L 303d:ON 3041:L 3099:NSM 309d:L 30a0:ON 30a1:L 30fb:ON 30fc:L
  31c0:ON 31f0:L 4dc0:ON 4e00:L a490:ON a4d0:L a60d:ON a610:L a66f:NSM a673:ON a674:NSM
  a67e:ON a681:L a69e:NSM a6a0:L a6f0:NSM a6f2:L a700:ON a723:L a788:ON a789:L a802:NSM
  a803:L a806:NSM a807:L a80b:NSM a80c:L a825:NSM a827:L a828:ON a82c:NSM a830:L a838:ET
  a840:L a874:ON a880:L a8c4:NSM a8ce:L a8e0:NSM a8f2:L a8ff:NSM a900:L a926:NSM a92e:L
  a947:NSM a952:L a980:NSM a983:L a9b3:NSM a9b4:L a9b6:NSM a9ba:L a9bc:NSM a9be:L a9e5:NSM
  a9e6:L aa29:NSM aa2f:L aa31:NSM aa33:L aa35:NSM aa40:L aa43:NSM aa44:L aa4c:NSM aa4d:L
  aa7c:NSM aa7d:L aab0:NSM aab1:L aab2:NSM aab5:L aab7:NSM aab9:L aabe:NSM aac0:L aac1:NSM
  aac2:L aaec:NSM aaee:L aaf6:NSM ab01:L ab6a:ON abc0:L abe5:NSM abe6:L abe8:NSM abe9:L
  abed:NSM abf0:L fb1e:NSM fbb2:AL fd3e:ON fe20:NSM fe45:ON fe73:AL 10000:L 10101:ON 10102:L
  10140:ON 1018d:L 10190:ON 101d0:L 101fd:NSM 10280:L 102e0:NSM 102e1:EN 10300:L 10376:NSM
  10380:L 10800:R 1091f:ON 10920:R 10a01:NSM 10a10:R 10a38:NSM 10a40:R 10ae5:NSM 10aeb:R
  10b39:ON 10b40:R 10d00:AL 10d24:NSM 10d30:AN 10e80:R 10eab:NSM 10ead:R 10efd:NSM 10f00:R
  10f30:AL 10f46:NSM 10f51:AL 10f70:R 10f82:NSM 10f86:R 11000:L 11001:NSM 11002:L 11038:NSM
  11047:L 11052:ON 11066:L 11070:NSM 11071:L 11073:NSM 11075:L 1107f:NSM 11082:L 110b3:NSM
  110b7:L 110b9:NSM 110bb:L 110c2:NSM 110d0:L 11100:NSM 11103:L 11127:NSM 1112c:L 1112d:NSM
  11136:L 11173:NSM 11174:L 11180:NSM 11182:L 111b6:NSM 111bf:L 111c9:NSM 111cd:L 111cf:NSM
  111d0:L 1122f:NSM 11232:L 11234:NSM 11235:L 11236:NSM 11238:L 1123e:NSM 1123f:L 11241:NSM
  11280:L 112df:NSM 112e0:L 112e3:NSM 112f0:L 11300:NSM 11302:L 1133b:NSM 1133d:L 11340:NSM
  11341:L 11366:NSM 11400:L 11438:NSM 11440:L 11442:NSM 11445:L 11446:NSM 11447:L 1145e:NSM
  1145f:L 114b3:NSM 114b9:L 114ba:NSM 114bb:L 114bf:NSM 114c1:L 114c2:NSM 114c4:L 115b2:NSM
  115b8:L 115bc:NSM 115be:L 115bf:NSM 115c1:L 115dc:NSM 11600:L 11633:NSM 1163b:L 1163d:NSM
  1163e:L 1163f:NSM 11641:L 11660:ON 11680:L 116ab:NSM 116ac:L 116ad:NSM 116ae:L 116b0:NSM
  116b6:L 116b7:NSM 116b8:L 1171d:NSM 11720:L 11722:NSM 11726:L 11727:NSM 11730:L 1182f:NSM
  11838:L 11839:NSM 1183b:L 1193b:NSM 1193d:L 1193e:NSM 1193f:L 11943:NSM 11944:L 119d4:NSM
  119dc:L 119e0:NSM 119e1:L 11a01:NSM 11a07:L 11a09:NSM 11a0b:L 11a33:NSM 11a39:L 11a3b:NSM
  11a3f:L 11a47:NSM 11a50:L 11a51:NSM 11a57:L 11a59:NSM 11a5c:L 11a8a:NSM 11a97:L 11a98:NSM
  11a9a:L 11c30:NSM 11c3e:L 11c92:NSM 11ca9:L 11caa:NSM 11cb1:L 11cb2:NSM 11cb4:L 11cb5:NSM
  11d00:L 11d31:NSM 11d46:L 11d47:NSM 11d50:L 11d90:NSM 11d93:L 11d95:NSM 11d96:L 11d97:NSM
  11d98:L 11ef3:NSM 11ef5:L 11f00:NSM 11f02:L 11f36:NSM 11f3e:L 11f40:NSM 11f41:L 11f42:NSM
  11f43:L 11fd5:ON 11fdd:ET 11fe1:ON 11fff:L 13440:NSM 13441:L 13447:NSM 14400:L 16af0:NSM
  16af5:L 16b30:NSM 16b37:L 16f4f:NSM 16f50:L 16f8f:NSM 16f93:L 16fe2:ON 16fe3:L 16fe4:NSM
  16ff0:L 1bc9d:NSM 1bc9f:L 1cf00:NSM 1cf50:L 1d167:NSM 1d16a:L 1d17b:NSM 1d183:L 1d185:NSM
  1d18c:L 1d1aa:NSM 1d1ae:L 1d1e9:ON 1d242:NSM 1d245:ON 1d2c0:L 1d300:ON 1d360:L 1da00:NSM
  1da37:L 1da3b:NSM 1da6d:L 1da75:NSM 1da76:L 1da84:NSM 1da85:L 1da9b:NSM 1df00:L 1e000:NSM
  1e100:L 1e130:NSM 1e137:L 1e2ae:NSM 1e2c0:L 1e2ec:NSM 1e2f0:L 1e2ff:ET 1e4d0:L 1e4ec:NSM
  1e4f0:L 1e800:R 1e8d0:NSM 1e922:R 1e944:NSM 1e94b:R 1ec71:AL 1eef0:ON 1f150:L 1f16d:ON
  1f170:L 1f1ad:ON 1f1e6:L 1f260:ON 20000:L"

def joiningText : String :=
  "ad:T ae:U 300:T 370:U 483:T 48a:U 591:T 5be:U 5bf:T 5c0:U 5c1:T 5c3:U 5c4:T 5c6:U 5c7:T
  5c8:U 610:T 61b:U 61c:T 61d:U 620:D 621:U 622:R 626:D 627:R 628:D 629:R 62a:D 62f:R 633:D
  640:C 641:D 648:R 649:D 64b:T 660:U 66e:D 670:T 671:R 674:U 675:R 678:D 688:R 69a:D 6c0:R
  6c1:D 6c3:R 6cc:D 6cd:R 6ce:D 6cf:R 6d0:D 6d2:R 6d4:U 6d5:R 6d6:T 6dd:U 6df:T 6e5:U 6e7:T
  6e9:U 6ea:T 6ee:R 6f0:U 6fa:D 6fd:U 6ff:D 700:U 70f:T 710:R 711:T 712:D 715:R 71a:D 71e:R
  71f:D 728:R 729:D 72a:R 72b:D 72c:R 72d:D 72f:R 730:T 74b:U 74d:R 74e:D 759:R 75c:D 76b:R
  76d:D 771:R 772:D 773:R 775:D 778:R 77a:D 780:U 7a6:T 7b1:U 7ca:D 7eb:T 7f4:U 7fa:C 7fb:U
  7fd:T 7fe:U 816:T 81a:U 81b:T 824:U 825:T 828:U 829:T 82e:U 840:R 841:D 846:R 848:D 849:R
  84a:D 854:R 855:D 856:R 859:T 85c:U 860:D 861:U 862:D 866:U 867:R 868:D 869:R 86b:U 870:R
  883:C 886:D 887:U 889:D 88e:R 88f:D 890:U 897:T 8a0:D 8aa:R 8ad:U 8ae:R 8af:D 8b1:R 8b3:D
  8b9:R 8ba:D 8c9:U 8ca:T 8e2:U 8e3:T 903:U 93a:T 93b:U 93c:T 93d:U 941:T 949:U 94d:T 94e:U
  951:T 958:U 962:T 964:U 981:T 982:U 9bc:T 9bd:U 9c1:T 9c5:U 9cd:T 9ce:U 9e2:T 9e4:U 9fe:T
  9ff:U a01:T a03:U a3c:T a3d:U a41:T a43:U a47:T a49:U a4b:T a4e:U a51:T a52:U a70:T a72:U
  a75:T a76:U a81:T a83:U abc:T abd:U ac1:T ac6:U ac7:T ac9:U acd:T ace:U ae2:T ae4:U afa:T
  b00:U b01:T b02:U b3c:T b3d:U b3f:T b40:U b41:T b45:U b4d:T b4e:U b55:T b57:U b62:T b64:U
  b82:T b83:U bc0:T bc1:U bcd:T bce:U c00:T c01:U c04:T c05:U c3c:T c3d:U c3e:T c41:U c46:T
  c49:U c4a:T c4e:U c55:T c57:U c62:T c64:U c81:T c82:U cbc:T cbd:U cbf:T cc0:U cc6:T cc7:U
  ccc:T cce:U ce2:T ce4:U d00:T d02:U d3b:T d3d:U d41:T d45:U d4d:T d4e:U d62:T d64:U d81:T
  d82:U dca:T dcb:U dd2:T dd5:U dd6:T dd7:U e31:T e32:U e34:T e3b:U e47:T e4f:U eb1:T eb2:U
  eb4:T ebd:U ec8:T ecf:U f18:T f1a:U f35:T f36:U f37:T f38:U f39:T f3a:U f71:T f7f:U f80:T
  f85:U f86:T f88:U f8d:T f98:U f99:T fbd:U fc6:T fc7:U 102d:T 1031:U 1032:T 1038:U 1039:T
  103b:U 103d:T 103f:U 1058:T 105a:U 105e:T 1061:U 1071:T 1075:U 1082:T 1083:U 1085:T 1087:U
  108d:T 108e:U 109d:T 109e:U 135d:T 1360:U 1712:T 1715:U 1732:T 1734:U 1752:T 1754:U 1772:T
  1774:U 17b4:T 17b6:U 17b7:T 17be:U 17c6:T 17c7:U 17c9:T 17d4:U 17dd:T 17de:U 1807:D 1808:U
  180a:C 180b:T 180e:U 180f:T 1810:U 1820:D 1879:U 1885:T 1887:D 18a9:T 18aa:D 18ab:U 1920:T
  1923:U 1927:T 1929:U 1932:T 1933:U 1939:T 193c:U 1a17:T 1a19:U 1a1b:T 1a1c:U 1a56:T 1a57:U
  1a58:T 1a5f:U 1a60:T 1a61:U 1a62:T 1a63:U 1a65:T 1a6d:U 1a73:T 1a7d:U 1a7f:T 1a80:U 1ab0:T
  1ade:U 1ae0:T 1aec:U 1b00:T 1b04:U 1b34:T 1b35:U 1b36:T 1b3b:U 1b3c:T 1b3d:U 1b42:T 1b43:U
  1b6b:T 1b74:U 1b80:T 1b82:U 1ba2:T 1ba6:U 1ba8:T 1baa:U 1bab:T 1bae:U 1be6:T 1be7:U 1be8:T
  1bea:U 1bed:T 1bee:U 1bef:T 1bf2:U 1c2c:T 1c34:U 1c36:T 1c38:U 1cd0:T 1cd3:U 1cd4:T 1ce1:U
  1ce2:T 1ce9:U 1ced:T 1cee:U 1cf4:T 1cf5:U 1cf8:T 1cfa:U 1dc0:T 1e00:U 200b:T 200c:U 200d:C
  200e:T 2010:U 202a:T 202f:U 2060:T 2065:U 206a:T 2070:U 20d0:T 20f1:U 2cef:T 2cf2:U 2d7f:T
  2d80:U 2de0:T 2e00:U 302a:T 302e:U 3099:T 309b:U a66f:T a673:U a674:T a67e:U a69e:T a6a0:U
  a6f0:T a6f2:U a802:T a803:U a806:T a807:U a80b:T a80c:U a825:T a827:U a82c:T a82d:U a840:D
  a872:L a873:U a8c4:T a8c6:U a8e0:T a8f2:U a8ff:T a900:U a926:T a92e:U a947:T a952:U a980:T
  a983:U a9b3:T a9b4:U a9b6:T a9ba:U a9bc:T a9be:U a9e5:T a9e6:U aa29:T aa2f:U aa31:T aa33:U
  aa35:T aa37:U aa43:T aa44:U aa4c:T aa4d:U aa7c:T aa7d:U aab0:T aab1:U aab2:T aab5:U aab7:T
  aab9:U aabe:T aac0:U aac1:T aac2:U aaec:T aaee:U aaf6:T aaf7:U abe5:T abe6:U abe8:T abe9:U
  abed:T abee:U fb1e:T fb1f:U fe00:T fe10:U fe20:T fe30:U feff:T ff00:U fff9:T fffc:U 101fd:T
  101fe:U 102e0:T 102e1:U 10376:T 1037b:U 10a01:T 10a04:U 10a05:T 10a07:U 10a0c:T 10a10:U
  10a38:T 10a3b:U 10a3f:T 10a40:U 10ac0:D 10ac5:R 10ac6:U 10ac7:R 10ac8:U 10ac9:R 10acb:U
  10acd:L 10ace:R 10ad3:D 10ad7:L 10ad8:D 10add:R 10ade:D 10ae1:R 10ae2:U 10ae4:R 10ae5:T
  10ae7:U 10aeb:D 10aef:R 10af0:U 10b80:D 10b81:R 10b82:D 10b83:R 10b86:D 10b89:R 10b8a:D
  10b8c:R 10b8d:D 10b8e:R 10b90:D 10b91:R 10b92:U 10ba9:R 10bad:D 10baf:U 10d00:L 10d01:D
  10d22:R 10d23:D 10d24:T 10d28:U 10d69:T 10d6e:U 10eab:T 10ead:U 10ec2:R 10ec3:D 10ec5:U
  10ec6:D 10ec8:U 10efa:T 10f00:U 10f30:D 10f33:R 10f34:D 10f45:U 10f46:T 10f51:D 10f54:R
  10f55:U 10f70:D 10f74:R 10f76:D 10f82:T 10f86:U 10fb0:D 10fb1:U 10fb2:D 10fb4:R 10fb7:U
  10fb8:D 10fb9:R 10fbb:D 10fbd:R 10fbe:D 10fc0:U 10fc1:D 10fc2:R 10fc4:D 10fc5:U 10fc9:R
  10fca:D 10fcb:L 10fcc:U 11001:T 11002:U 11038:T 11047:U 11070:T 11071:U 11073:T 11075:U
  1107f:T 11082:U 110b3:T 110b7:U 110b9:T 110bb:U 110c2:T 110c3:U 11100:T 11103:U 11127:T
  1112c:U 1112d:T 11135:U 11173:T 11174:U 11180:T 11182:U 111b6:T 111bf:U 111c9:T 111cd:U
  111cf:T 111d0:U 1122f:T 11232:U 11234:T 11235:U 11236:T 11238:U 1123e:T 1123f:U 11241:T
  11242:U 112df:T 112e0:U 112e3:T 112eb:U 11300:T 11302:U 1133b:T 1133d:U 11340:T 11341:U
  11366:T 1136d:U 11370:T 11375:U 113bb:T 113c1:U 113ce:T 113cf:U 113d0:T 113d1:U 113d2:T
  113d3:U 113e1:T 113e3:U 11438:T 11440:U 11442:T 11445:U 11446:T 11447:U 1145e:T 1145f:U
  114b3:T 114b9:U 114ba:T 114bb:U 114bf:T 114c1:U 114c2:T 114c4:U 115b2:T 115b6:U 115bc:T
  115be:U 115bf:T 115c1:U 115dc:T 115de:U 11633:T 1163b:U 1163d:T 1163e:U 1163f:T 11641:U
  116ab:T 116ac:U 116ad:T 116ae:U 116b0:T 116b6:U 116b7:T 116b8:U 1171d:T 1171e:U 1171f:T
  11720:U 11722:T 11726:U 11727:T 1172c:U 1182f:T 11838:U 11839:T 1183b:U 1193b:T 1193d:U
  1193e:T 1193f:U 11943:T 11944:U 119d4:T 119d8:U 119da:T 119dc:U 119e0:T 119e1:U 11a01:T
  11a0b:U 11a33:T 11a39:U 11a3b:T 11a3f:U 11a47:T 11a48:U 11a51:T 11a57:U 11a59:T 11a5c:U
  11a8a:T 11a97:U 11a98:T 11a9a:U 11b60:T 11b61:U 11b62:T 11b65:U 11b66:T 11b67:U 11c30:T
  11c37:U 11c38:T 11c3e:U 11c3f:T 11c40:U 11c92:T 11ca8:U 11caa:T 11cb1:U 11cb2:T 11cb4:U
  11cb5:T 11cb7:U 11d31:T 11d37:U 11d3a:T 11d3b:U 11d3c:T 11d3e:U 11d3f:T 11d46:U 11d47:T
  11d48:U 11d90:T 11d92:U 11d95:T 11d96:U 11d97:T 11d98:U 11ef3:T 11ef5:U 11f00:T 11f02:U
  11f36:T 11f3b:U 11f40:T 11f41:U 11f42:T 11f43:U 11f5a:T 11f5b:U 13430:T 13441:U 13447:T
  13456:U 1611e:T 1612a:U 1612d:T 16130:U 16af0:T 16af5:U 16b30:T 16b37:U 16f4f:T 16f50:U
  16f8f:T 16f93:U 16fe4:T 16fe5:U 1bc9d:T 1bc9f:U 1bca0:T 1bca4:U 1cf00:T 1cf2e:U 1cf30:T
  1cf47:U 1d167:T 1d16a:U 1d173:T 1d183:U 1d185:T 1d18c:U 1d1aa:T 1d1ae:U 1d242:T 1d245:U
  1da00:T 1da37:U 1da3b:T 1da6d:U 1da75:T 1da76:U 1da84:T 1da85:U 1da9b:T 1daa0:U 1daa1:T
  1dab0:U 1e000:T 1e007:U 1e008:T 1e019:U 1e01b:T 1e022:U 1e023:T 1e025:U 1e026:T 1e02b:U
  1e08f:T 1e090:U 1e130:T 1e137:U 1e2ae:T 1e2af:U 1e2ec:T 1e2f0:U 1e4ec:T 1e4f0:U 1e5ee:T
  1e5f0:U 1e6e3:T 1e6e4:U 1e6e6:T 1e6e7:U 1e6ee:T 1e6f0:U 1e6f5:T 1e6f6:U 1e8d0:T 1e8d7:U
  1e900:D 1e944:T 1e94c:U e0001:T e0002:U e0020:T e0080:U e0100:T e01f0:U"

end ReleaseListing.Url.Domain
