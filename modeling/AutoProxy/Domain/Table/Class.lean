/-!
Classes of the characters that may stand in a domain name. Each table has rows of the first
character and the count of a range, both hexadecimal, and a letter.

In `marks`, `n` stands for nonspacing and `s` for spacing marks. In `directions` the letters are
`r` and `a` for characters written from right to left, the latter in Arabic scripts, `n` and `e`
for Arabic and European digits, `s`, `c`, `t`, `b` and `o` for neutral characters of the kinds
separator, common separator, terminator, boundary and other, and `x` for those not allowed beside
them; nonspacing marks are not listed, and all others are written from left to right. In
`joining` they say to which sides a letter is joined: `r`, `l`, `d` for both, and `t` for
characters that are passed over.
-/

namespace AutoProxy.Domain.Table

def marks : String :=
  "300:70:n 483:7:n 591:2d:n 5bf:1:n 5c1:2:n 5c4:2:n 5c7:1:n 610:b:n 64b:15:n 670:1:n 6d6:7:n
   6df:6:n 6e7:2:n 6ea:4:n 711:1:n 730:1b:n 7a6:b:n 7eb:9:n 7fd:1:n 816:4:n 81b:9:n 825:3:n 829:5:n
   859:3:n 898:8:n 8ca:39:n 903:1:s 93a:1:n 93b:1:s 93c:1:n 93e:3:s 941:8:n 949:4:s 94d:1:n 94e:2:s
   951:7:n 962:2:n 981:1:n 982:2:s 9bc:1:n 9be:3:s 9c1:4:n 9c7:6:s 9cd:1:n 9d7:1:s 9e2:2:n 9fe:5:n
   a03:1:s a3c:1:n a3e:3:s a41:11:n a70:2:n a75:1:n a81:2:n a83:1:s abc:1:n abe:3:s ac1:8:n ac9:4:s
   acd:1:n ae2:2:n afa:8:n b02:2:s b3c:1:n b3e:1:s b3f:1:n b40:1:s b41:4:n b47:6:s b4d:a:n b57:1:s
   b62:2:n b82:1:n bbe:2:s bc0:1:n bc1:c:s bcd:1:n bd7:1:s c00:1:n c01:3:s c04:1:n c3c:1:n c3e:3:n
   c41:4:s c46:11:n c62:2:n c81:1:n c82:2:s cbc:1:n cbe:1:s cbf:1:n cc0:5:s cc6:1:n cc7:5:s ccc:2:n
   cd5:2:s ce2:2:n cf3:1:s d00:2:n d02:2:s d3b:2:n d3e:3:s d41:4:n d46:7:s d4d:1:n d57:1:s d62:2:n
   d81:1:n d82:2:s dca:1:n dcf:3:s dd2:5:n dd8:8:s df2:2:s e31:1:n e34:7:n e47:8:n eb1:1:n eb4:9:n
   ec8:7:n f18:2:n f35:1:n f37:1:n f39:1:n f3e:2:s f71:e:n f7f:1:s f80:5:n f86:2:n f8d:30:n fc6:1:n
   102b:2:s 102d:4:n 1031:1:s 1032:6:n 1038:1:s 1039:2:n 103b:2:s 103d:2:n 1056:2:s 1058:2:n
   105e:3:n 1062:3:s 1067:7:s 1071:4:n 1082:1:n 1083:2:s 1085:2:n 1087:6:s 108d:1:n 108f:1:s
   109a:3:s 109d:1:n 135d:3:n 1712:3:n 1715:1:s 1732:2:n 1734:1:s 1752:2:n 1772:2:n 17b6:1:s
   17b7:7:n 17be:8:s 17c6:1:n 17c7:2:s 17c9:b:n 17dd:1:n 1885:2:n 18a9:1:n 1920:3:n 1923:4:s
   1927:2:n 1929:9:s 1932:1:n 1933:6:s 1939:3:n 1a17:2:n 1a19:2:s 1a1b:1:n 1a55:1:s 1a56:1:n
   1a57:1:s 1a58:9:n 1a61:1:s 1a62:1:n 1a63:2:s 1a65:8:n 1a6d:6:s 1a73:d:n 1ab0:1f:n 1b00:4:n
   1b04:1:s 1b34:1:n 1b35:1:s 1b36:5:n 1b3b:1:s 1b3c:1:n 1b3d:5:s 1b42:1:n 1b43:2:s 1b6b:9:n
   1b80:2:n 1b82:1:s 1ba1:1:s 1ba2:4:n 1ba6:2:s 1ba8:2:n 1baa:1:s 1bab:3:n 1be6:1:n 1be7:1:s
   1be8:2:n 1bea:3:s 1bed:1:n 1bee:1:s 1bef:3:n 1bf2:2:s 1c24:8:s 1c2c:8:n 1c34:2:s 1c36:2:n
   1cd0:3:n 1cd4:d:n 1ce1:1:s 1ce2:7:n 1ced:1:n 1cf4:1:n 1cf7:1:s 1cf8:2:n 1dc0:40:n 20d0:21:n
   2cef:3:n 2d7f:1:n 2de0:20:n 302a:4:n 302e:2:s 3099:2:n a66f:4:n a674:a:n a69e:2:n a6f0:2:n
   a802:1:n a806:1:n a80b:1:n a823:2:s a825:2:n a827:1:s a82c:1:n a880:2:s a8b4:10:s a8c4:2:n
   a8e0:12:n a8ff:1:n a926:8:n a947:b:n a952:2:s a980:3:n a983:1:s a9b3:1:n a9b4:2:s a9b6:4:n
   a9ba:2:s a9bc:2:n a9be:3:s a9e5:1:n aa29:6:n aa2f:2:s aa31:2:n aa33:2:s aa35:2:n aa43:1:n
   aa4c:1:n aa4d:1:s aa7b:1:s aa7c:1:n aa7d:1:s aab0:1:n aab2:3:n aab7:2:n aabe:2:n aac1:1:n
   aaeb:1:s aaec:2:n aaee:2:s aaf5:1:s aaf6:1:n abe3:2:s abe5:1:n abe6:2:s abe8:1:n abe9:2:s
   abec:1:s abed:1:n fb1e:1:n fe20:10:n 101fd:1:n 102e0:1:n 10376:5:n 10a01:f:n 10a38:8:n 10ae5:2:n
   10d24:4:n 10eab:2:n 10efd:3:n 10f46:b:n 10f82:4:n 11000:1:s 11001:1:n 11002:1:s 11038:f:n
   11070:1:n 11073:2:n 1107f:3:n 11082:1:s 110b0:3:s 110b3:4:n 110b7:2:s 110b9:2:n 110c2:1:n
   11100:3:n 11127:5:n 1112c:1:s 1112d:8:n 11145:2:s 11173:1:n 11180:2:n 11182:1:s 111b3:3:s
   111b6:9:n 111bf:2:s 111c9:4:n 111ce:1:s 111cf:1:n 1122c:3:s 1122f:3:n 11232:2:s 11234:1:n
   11235:1:s 11236:2:n 1123e:1:n 11241:1:n 112df:1:n 112e0:3:s 112e3:8:n 11300:2:n 11302:2:s
   1133b:2:n 1133e:2:s 11340:1:n 11341:d:s 11357:1:s 11362:2:s 11366:f:n 11435:3:s 11438:8:n
   11440:2:s 11442:3:n 11445:1:s 11446:1:n 1145e:1:n 114b0:3:s 114b3:6:n 114b9:1:s 114ba:1:n
   114bb:4:s 114bf:2:n 114c1:1:s 114c2:2:n 115af:3:s 115b2:4:n 115b8:4:s 115bc:2:n 115be:1:s
   115bf:2:n 115dc:2:n 11630:3:s 11633:8:n 1163b:2:s 1163d:1:n 1163e:1:s 1163f:2:n 116ab:1:n
   116ac:1:s 116ad:1:n 116ae:2:s 116b0:6:n 116b6:1:s 116b7:1:n 1171d:3:n 11720:2:s 11722:4:n
   11726:1:s 11727:5:n 1182c:3:s 1182f:9:n 11838:1:s 11839:2:n 11930:9:s 1193b:2:n 1193d:1:s
   1193e:1:n 11940:1:s 11942:1:s 11943:1:n 119d1:3:s 119d4:8:n 119dc:4:s 119e0:1:n 119e4:1:s
   11a01:a:n 11a33:6:n 11a39:1:s 11a3b:4:n 11a47:1:n 11a51:6:n 11a57:2:s 11a59:3:n 11a8a:d:n
   11a97:1:s 11a98:2:n 11c2f:1:s 11c30:e:n 11c3e:1:s 11c3f:1:n 11c92:16:n 11ca9:1:s 11caa:7:n
   11cb1:1:s 11cb2:2:n 11cb4:1:s 11cb5:2:n 11d31:15:n 11d47:1:n 11d8a:5:s 11d90:2:n 11d93:2:s
   11d95:1:n 11d96:1:s 11d97:1:n 11ef3:2:n 11ef5:2:s 11f00:2:n 11f03:1:s 11f34:2:s 11f36:5:n
   11f3e:2:s 11f40:1:n 11f41:1:s 11f42:1:n 13440:1:n 13447:f:n 16af0:5:n 16b30:7:n 16f4f:1:n
   16f51:37:s 16f8f:4:n 16fe4:1:n 16ff0:2:s 1bc9d:2:n 1cf00:47:n 1d165:2:s 1d167:3:n 1d16d:6:s
   1d17b:8:n 1d185:7:n 1d1aa:4:n 1d242:3:n 1da00:37:n 1da3b:32:n 1da75:1:n 1da84:1:n 1da9b:15:n
   1e000:90:n 1e130:7:n 1e2ae:1:n 1e2ec:4:n 1e4ec:4:n 1e8d0:7:n 1e944:7:n"

def directions : String :=
  "0:9:b 9:5:x e:e:b 1c:5:x 21:2:o 23:3:t 26:5:o 2b:1:s 2c:1:c 2d:1:s 2e:2:c 30:a:e 3a:1:c 3b:26:o
   7b:4:o 7f:1:b a1:1:o a2:4:t a6:9:o b0:2:t b6:22:o f7:1:o 2b9:2:o 2c2:e:o 2d2:1c:o 2ef:11:o
   375:1:o 3f6:1:o 58a:5:o 58f:1:t 5be:37:r 606:2:o 608:1:a 609:2:t 60b:1:a 60c:1:c 60d:1:a 60e:2:o
   61b:30:a 660:a:n 66a:1:t 66b:2:n 66d:69:a 6de:1:o 6e5:2:a 6e9:1:o 6ee:2:a 6f0:a:e 6fa:b8:a
   7c0:36:r 7f6:4:o 7fa:65:r 860:6a:a 9f2:2:t 9fb:1:t af1:1:t bf3:6:o bf9:1:t bfa:1:o c78:7:o
   e3f:1:t f3a:4:o 1390:a:o 1400:1:o 169b:2:o 17db:1:t 17f0:1b:o 1940:6:o 19de:22:o 200c:2:b
   2010:18:o 2030:3:t 2035:f:o 2044:1:c 2045:1a:o 20a0:22:t 2104:26:o 212e:1:t 213a:14:o 218a:88:o
   2212:1:s 2213:1:t 2214:122:o 237b:1a:o 2396:91:o 2440:26c:o 26ad:153:o 2900:296:o 2b97:69:o
   2ce5:6:o 2cf9:7:o 2e00:205:o 3008:19:o 3030:1:o 3037:1:o 303d:3:o 30a0:1:o 30fb:1:o 31c0:24:o
   4dc0:40:o a490:37:o a60d:3:o a673:d:o a700:22:o a788:1:o a828:4:o a838:2:t a874:4:o ab6a:2:o
   fbb2:21:a fd3e:12:o fd90:3f:a fdcf:78:o fe73:1:a 10101:1:o 10140:4d:o 10190:11:o 102e1:1b:e
   10800:11c:r 1091f:1:o 10920:216:r 10b39:7:o 10b40:1c0:r 10d00:24:a 10d30:a:n 10d40:50:r
   10e60:1f:n 10e80:32:r 10ec2:3b:a 10f00:28:r 10f30:2a:a 10f70:87:r 11052:14:o 11660:d:o 11fd5:8:o
   11fdd:4:t 11fe1:11:o 16fe2:1:o 1d1e9:5d:o 1d300:57:o 1e2ff:1:t 1e800:160:r 1ec71:cd:a
   1eef0:240:o 1f16d:3:o 1f1ad:1:o 1f260:478:o 1f6dc:9b:o 1f77b:137:o 1f900:154:o 1fa60:29:o
   1fa90:2e:o 1fabf:7:o 1face:e:o 1fae0:9:o 1faf0:db:o"

def joining : String :=
  "620:1:d 622:4:r 626:1:d 627:1:r 628:1:d 629:1:r 62a:5:d 62f:4:r 633:d:d 641:7:d 648:1:r 649:2:d
   66e:2:d 671:3:r 679:f:d 688:12:r 69a:26:d 6c0:1:r 6c1:2:d 6c3:9:r 6cc:1:d 6cd:1:r 6ce:1:d
   6cf:1:r 6d0:2:d 6d2:2:r 6d5:1:r 6ee:2:r 6fa:3:d 6ff:1:d 710:1:r 712:3:d 715:5:r 71a:4:d 71e:1:r
   71f:9:d 728:1:r 729:1:d 72a:1:r 72b:1:d 72c:1:r 72d:2:d 72f:1f:r 74e:b:d 759:3:r 75c:f:d 76b:2:r
   76d:4:d 771:1:r 772:1:d 773:2:r 775:3:d 778:2:r 77a:6:d 7ca:21:d 840:1:r 841:5:d 846:2:r 848:1:d
   849:1:r 84a:a:d 854:1:r 855:1:d 856:3:r 860:1:d 862:4:d 867:1:r 868:1:d 869:1a:r 886:1:d 889:5:d
   88e:1:r 8a0:a:d 8aa:3:r 8ae:1:r 8af:2:d 8b1:2:r 8b3:6:d 8b9:1:r 8ba:f:d 1807:1:d 1820:59:d
   1887:24:d a840:32:d a872:1:l 10ac0:5:d 10ac5:1:r 10ac7:1:r 10ac9:2:r 10acd:1:l 10ace:5:r
   10ad3:4:d 10ad7:1:l 10ad8:5:d 10add:1:r 10ade:3:d 10ae1:1:r 10ae4:1:r 10aeb:4:d 10aef:1:r
   10b80:1:d 10b81:1:r 10b82:1:d 10b83:3:r 10b86:3:d 10b89:1:r 10b8a:2:d 10b8c:1:r 10b8d:1:d
   10b8e:2:r 10b90:1:d 10b91:1:r 10ba9:4:r 10bad:2:d 10d00:1:l 10d01:21:d 10d22:1:r 10d23:1:d
   10f30:3:d 10f33:1:r 10f34:11:d 10f51:3:d 10f54:1:r 10f70:4:d 10f74:2:r 10f76:c:d 10fb0:1:d
   10fb2:2:d 10fb4:3:r 10fb8:1:d 10fb9:2:r 10fbb:2:d 10fbd:1:r 10fbe:2:d 10fc1:1:d 10fc2:2:r
   10fc4:1:d 10fc9:1:r 10fca:1:d 10fcb:1:l 1e922:22:d 1e94b:1:t"

end AutoProxy.Domain.Table
