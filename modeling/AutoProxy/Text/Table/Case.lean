/-!
The cases of letters beyond ASCII. Each row has the first character and the count of a range, both
hexadecimal, and what becomes of the letters in it: behind `=` the characters that take their place,
or else a digit and a distance, by which every letter of the range moves, or every second one if the
digit is two.
-/

namespace AutoProxy.Text.Table

def capitals : String :=
  "b5:1:1+743 df:1:=53,53 e0:17:1-32 f8:7:1-32 ff:1:1+121 101:2f:2-1 131:1:1-232 133:5:2-1
   13a:f:2-1 149:1:=2bc,4e 14b:2d:2-1 17a:5:2-1 17f:1:1-300 180:1:1+195 183:3:2-1 188:1:1-1
   18c:1:1-1 192:1:1-1 195:1:1+97 199:1:1-1 19a:1:1+163 19e:1:1+130 1a1:5:2-1 1a8:1:1-1 1ad:1:1-1
   1b0:1:1-1 1b4:3:2-1 1b9:1:1-1 1bd:1:1-1 1bf:1:1+56 1c5:1:1-1 1c6:1:1-2 1c8:1:1-1 1c9:1:1-2
   1cb:1:1-1 1cc:1:1-2 1ce:f:2-1 1dd:1:1-79 1df:11:2-1 1f0:1:=4a,30c 1f2:1:1-1 1f3:1:1-2
   1f5:1:1-1 1f9:27:2-1 223:11:2-1 23c:1:1-1 23f:2:1+10815 242:1:1-1 247:9:2-1 250:1:1+10783
   251:1:1+10780 252:1:1+10782 253:1:1-210 254:1:1-206 256:2:1-205 259:1:1-202 25b:1:1-203
   25c:1:1+42319 260:1:1-205 261:1:1+42315 263:1:1-207 265:1:1+42280 266:1:1+42308 268:1:1-209
   269:1:1-211 26a:1:1+42308 26b:1:1+10743 26c:1:1+42305 26f:1:1-211 271:1:1+10749 272:1:1-213
   275:1:1-214 27d:1:1+10727 280:1:1-218 282:1:1+42307 283:1:1-218 287:1:1+42282 288:1:1-218
   289:1:1-69 28a:2:1-217 28c:1:1-71 292:1:1-219 29d:1:1+42261 29e:1:1+42258 345:1:1+84 371:3:2-1
   377:1:1-1 37b:3:1+130 390:1:=399,308,301 3ac:1:1-38 3ad:3:1-37 3b0:1:=3a5,308,301 3b1:11:1-32
   3c2:1:1-31 3c3:9:1-32 3cc:1:1-64 3cd:2:1-63 3d0:1:1-62 3d1:1:1-57 3d5:1:1-47 3d6:1:1-54
   3d7:1:1-8 3d9:17:2-1 3f0:1:1-86 3f1:1:1-80 3f2:1:1+7 3f3:1:1-116 3f5:1:1-96 3f8:1:1-1
   3fb:1:1-1 430:20:1-32 450:10:1-80 461:21:2-1 48b:35:2-1 4c2:d:2-1 4cf:1:1-15 4d1:5f:2-1
   561:26:1-48 587:1:=535,552 10d0:2b:1+3008 10fd:3:1+3008 13f8:6:1-8 1c80:1:1-6254 1c81:1:1-6253
   1c82:1:1-6244 1c83:2:1-6242 1c85:1:1-6243 1c86:1:1-6236 1c87:1:1-6181 1c88:1:1+35266
   1d79:1:1+35332 1d7d:1:1+3814 1d8e:1:1+35384 1e01:95:2-1 1e96:1:=48,331 1e97:1:=54,308
   1e98:1:=57,30a 1e99:1:=59,30a 1e9a:1:=41,2be 1e9b:1:1-59 1ea1:5f:2-1 1f00:8:1+8 1f10:6:1+8
   1f20:8:1+8 1f30:8:1+8 1f40:6:1+8 1f50:1:=3a5,313 1f51:1:1+8 1f52:1:=3a5,313,300 1f53:1:1+8
   1f54:1:=3a5,313,301 1f55:1:1+8 1f56:1:=3a5,313,342 1f57:1:1+8 1f60:8:1+8 1f70:2:1+74
   1f72:4:1+86 1f76:2:1+100 1f78:2:1+128 1f7a:2:1+112 1f7c:2:1+126 1f80:1:=1f08,399
   1f81:1:=1f09,399 1f82:1:=1f0a,399 1f83:1:=1f0b,399 1f84:1:=1f0c,399 1f85:1:=1f0d,399
   1f86:1:=1f0e,399 1f87:1:=1f0f,399 1f88:1:=1f08,399 1f89:1:=1f09,399 1f8a:1:=1f0a,399
   1f8b:1:=1f0b,399 1f8c:1:=1f0c,399 1f8d:1:=1f0d,399 1f8e:1:=1f0e,399 1f8f:1:=1f0f,399
   1f90:1:=1f28,399 1f91:1:=1f29,399 1f92:1:=1f2a,399 1f93:1:=1f2b,399 1f94:1:=1f2c,399
   1f95:1:=1f2d,399 1f96:1:=1f2e,399 1f97:1:=1f2f,399 1f98:1:=1f28,399 1f99:1:=1f29,399
   1f9a:1:=1f2a,399 1f9b:1:=1f2b,399 1f9c:1:=1f2c,399 1f9d:1:=1f2d,399 1f9e:1:=1f2e,399
   1f9f:1:=1f2f,399 1fa0:1:=1f68,399 1fa1:1:=1f69,399 1fa2:1:=1f6a,399 1fa3:1:=1f6b,399
   1fa4:1:=1f6c,399 1fa5:1:=1f6d,399 1fa6:1:=1f6e,399 1fa7:1:=1f6f,399 1fa8:1:=1f68,399
   1fa9:1:=1f69,399 1faa:1:=1f6a,399 1fab:1:=1f6b,399 1fac:1:=1f6c,399 1fad:1:=1f6d,399
   1fae:1:=1f6e,399 1faf:1:=1f6f,399 1fb0:2:1+8 1fb2:1:=1fba,399 1fb3:1:=391,399 1fb4:1:=386,399
   1fb6:1:=391,342 1fb7:1:=391,342,399 1fbc:1:=391,399 1fbe:1:1-7205 1fc2:1:=1fca,399
   1fc3:1:=397,399 1fc4:1:=389,399 1fc6:1:=397,342 1fc7:1:=397,342,399 1fcc:1:=397,399 1fd0:2:1+8
   1fd2:1:=399,308,300 1fd3:1:=399,308,301 1fd6:1:=399,342 1fd7:1:=399,308,342 1fe0:2:1+8
   1fe2:1:=3a5,308,300 1fe3:1:=3a5,308,301 1fe4:1:=3a1,313 1fe5:1:1+7 1fe6:1:=3a5,342
   1fe7:1:=3a5,308,342 1ff2:1:=1ffa,399 1ff3:1:=3a9,399 1ff4:1:=38f,399 1ff6:1:=3a9,342
   1ff7:1:=3a9,342,399 1ffc:1:=3a9,399 214e:1:1-28 2170:10:1-16 2184:1:1-1 24d0:1a:1-26
   2c30:30:1-48 2c61:1:1-1 2c65:1:1-10795 2c66:1:1-10792 2c68:5:2-1 2c73:1:1-1 2c76:1:1-1
   2c81:63:2-1 2cec:3:2-1 2cf3:1:1-1 2d00:26:1-7264 2d27:1:1-7264 2d2d:1:1-7264 a641:2d:2-1
   a681:1b:2-1 a723:d:2-1 a733:3d:2-1 a77a:3:2-1 a77f:9:2-1 a78c:1:1-1 a791:3:2-1 a794:1:1+48
   a797:13:2-1 a7b5:f:2-1 a7c8:3:2-1 a7d1:1:1-1 a7d7:3:2-1 a7f6:1:1-1 ab53:1:1-928
   ab70:50:1-38864 fb00:1:=46,46 fb01:1:=46,49 fb02:1:=46,4c fb03:1:=46,46,49 fb04:1:=46,46,4c
   fb05:1:=53,54 fb06:1:=53,54 fb13:1:=544,546 fb14:1:=544,535 fb15:1:=544,53b fb16:1:=54e,546
   fb17:1:=544,53d ff41:1a:1-32 10428:28:1-40 104d8:24:1-40 10597:b:1-39 105a3:f:1-39
   105b3:7:1-39 105bb:2:1-39 10cc0:33:1-64 118c0:20:1-32 16e60:20:1-32 1e922:22:1-34"

def smallLetters : String :=
  "c0:17:1+32 d8:7:1+32 100:2f:2+1 130:1:=69,307 132:5:2+1 139:f:2+1 14a:2d:2+1 178:1:1-121
   179:5:2+1 181:1:1+210 182:3:2+1 186:1:1+206 187:1:1+1 189:2:1+205 18b:1:1+1 18e:1:1+79
   18f:1:1+202 190:1:1+203 191:1:1+1 193:1:1+205 194:1:1+207 196:1:1+211 197:1:1+209 198:1:1+1
   19c:1:1+211 19d:1:1+213 19f:1:1+214 1a0:5:2+1 1a6:1:1+218 1a7:1:1+1 1a9:1:1+218 1ac:1:1+1
   1ae:1:1+218 1af:1:1+1 1b1:2:1+217 1b3:3:2+1 1b7:1:1+219 1b8:1:1+1 1bc:1:1+1 1c4:1:1+2
   1c5:1:1+1 1c7:1:1+2 1c8:1:1+1 1ca:1:1+2 1cb:11:2+1 1de:11:2+1 1f1:1:1+2 1f2:3:2+1 1f6:1:1-97
   1f7:1:1-56 1f8:27:2+1 220:1:1-130 222:11:2+1 23a:1:1+10795 23b:1:1+1 23d:1:1-163 23e:1:1+10792
   241:1:1+1 243:1:1-195 244:1:1+69 245:1:1+71 246:9:2+1 370:3:2+1 376:1:1+1 37f:1:1+116
   386:1:1+38 388:3:1+37 38c:1:1+64 38e:2:1+63 391:11:1+32 3a3:9:1+32 3cf:1:1+8 3d8:17:2+1
   3f4:1:1-60 3f7:1:1+1 3f9:1:1-7 3fa:1:1+1 3fd:3:1-130 400:10:1+80 410:20:1+32 460:21:2+1
   48a:35:2+1 4c0:1:1+15 4c1:d:2+1 4d0:5f:2+1 531:26:1+48 10a0:26:1+7264 10c7:1:1+7264
   10cd:1:1+7264 13a0:50:1+38864 13f0:6:1+8 1c90:2b:1-3008 1cbd:3:1-3008 1e00:95:2+1
   1e9e:1:1-7615 1ea0:5f:2+1 1f08:8:1-8 1f18:6:1-8 1f28:8:1-8 1f38:8:1-8 1f48:6:1-8 1f59:7:2-8
   1f68:8:1-8 1f88:8:1-8 1f98:8:1-8 1fa8:8:1-8 1fb8:2:1-8 1fba:2:1-74 1fbc:1:1-9 1fc8:4:1-86
   1fcc:1:1-9 1fd8:2:1-8 1fda:2:1-100 1fe8:2:1-8 1fea:2:1-112 1fec:1:1-7 1ff8:2:1-128
   1ffa:2:1-126 1ffc:1:1-9 2126:1:1-7517 212a:1:1-8383 212b:1:1-8262 2132:1:1+28 2160:10:1+16
   2183:1:1+1 24b6:1a:1+26 2c00:30:1+48 2c60:1:1+1 2c62:1:1-10743 2c63:1:1-3814 2c64:1:1-10727
   2c67:5:2+1 2c6d:1:1-10780 2c6e:1:1-10749 2c6f:1:1-10783 2c70:1:1-10782 2c72:1:1+1 2c75:1:1+1
   2c7e:2:1-10815 2c80:63:2+1 2ceb:3:2+1 2cf2:1:1+1 a640:2d:2+1 a680:1b:2+1 a722:d:2+1
   a732:3d:2+1 a779:3:2+1 a77d:1:1-35332 a77e:9:2+1 a78b:1:1+1 a78d:1:1-42280 a790:3:2+1
   a796:13:2+1 a7aa:1:1-42308 a7ab:1:1-42319 a7ac:1:1-42315 a7ad:1:1-42305 a7ae:1:1-42308
   a7b0:1:1-42258 a7b1:1:1-42282 a7b2:1:1-42261 a7b3:1:1+928 a7b4:f:2+1 a7c4:1:1-48
   a7c5:1:1-42307 a7c6:1:1-35384 a7c7:3:2+1 a7d0:1:1+1 a7d6:3:2+1 a7f5:1:1+1 ff21:1a:1+32
   10400:28:1+40 104b0:24:1+40 10570:b:1+39 1057c:f:1+39 1058c:7:1+39 10594:2:1+39 10c80:33:1+64
   118a0:20:1+32 16e40:20:1+32 1e900:22:1+34"

end AutoProxy.Text.Table
