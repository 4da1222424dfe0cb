/-!
How each character counts in a domain name, as a table of ranges in ascending order.

A row holds the first character and the count of a range, both hexadecimal, and a letter: `v`
for characters that stay as they are, `i` for characters that are left out, `s` with a
hexadecimal number for characters that move to the range starting there, `p` for pairs of which
the first becomes the second, and `m` for a list of replacements with `▸` between them, in which
`␣` stands for a blank. Characters in no range are not allowed.
-/

namespace AutoProxy.Domain.Table

def mapping : String :=
  "0:41:v 41:1a:s61 5b:25:v a0:1:m␣ a1:7:v a8:1:m␣\u0308 a9:1:v aa:1:ma ab:2:v ad:1:i ae:1:v
   af:1:m␣\u0304 b0:2:v b2:4:m2▸3▸␣\u0301▸μ b6:2:v b8:3:m␣\u0327▸1▸o bb:1:v bc:3:m1⁄4▸1⁄2▸3⁄4
   bf:1:v c0:17:se0 d7:1:v d8:7:sf8 df:21:v 100:30:p 130:1:mi\u0307 131:1:v 132:2:mij▸ij 134:4:p
   138:1:v 139:6:p 13f:2:ml·▸l· 141:8:p 149:1:mʼn 14a:2e:p 178:1:mÿ 179:6:p 17f:1:ms 180:1:v
   181:1:mɓ 182:4:p 186:2:mɔ▸ƈ 188:1:v 189:3:mɖ▸ɗ▸ƌ 18c:2:v 18e:4:mǝ▸ə▸ɛ▸ƒ 192:1:v 193:2:mɠ▸ɣ
   195:1:v 196:3:mɩ▸ɨ▸ƙ 199:3:v 19c:2:mɯ▸ɲ 19e:1:v 19f:1:mɵ 1a0:6:p 1a6:2:mʀ▸ƨ 1a8:1:v 1a9:1:mʃ
   1aa:2:v 1ac:1:mƭ 1ad:1:v 1ae:2:mʈ▸ư 1b0:1:v 1b1:2:mʊ▸ʋ 1b3:4:p 1b7:2:mʒ▸ƹ 1b9:3:v 1bc:1:mƽ
   1bd:7:v 1c4:9:mdž▸dž▸dž▸lj▸lj▸lj▸nj▸nj▸nj 1cd:10:p 1dd:1:v 1de:12:p 1f0:1:v 1f1:4:mdz▸dz▸dz▸ǵ
   1f5:1:v 1f6:2:mƕ▸ƿ 1f8:28:p 220:1:mƞ 221:1:v 222:12:p 234:6:v 23a:2:mⱥ▸ȼ 23c:1:v 23d:2:mƚ▸ⱦ
   23f:2:v 241:1:mɂ 242:1:v 243:3:mƀ▸ʉ▸ʌ 246:a:p 250:60:v 2b0:9:mh▸ɦ▸j▸r▸ɹ▸ɻ▸ʁ▸w▸y 2b9:1f:v
   2d8:6:m␣\u0306▸␣\u0307▸␣\u030A▸␣\u0328▸␣\u0303▸␣\u030B 2de:2:v 2e0:5:mɣ▸l▸s▸x▸ʕ 2e5:5b:v
   340:2:m\u0300▸\u0301 342:1:v 343:3:m\u0313▸\u0308\u0301▸ι 346:9:v 34f:1:i 350:20:v 370:4:p
   374:1:mʹ 375:1:v 376:1:mͷ 377:1:v 37a:1:m␣ι 37b:3:v 37e:2:m;▸ϳ
   384:7:m␣\u0301▸␣\u0308\u0301▸ά▸·▸έ▸ή▸ί 38c:1:mό 38e:2:mύ▸ώ 390:1:v 391:11:s3b1 3a3:9:s3c3
   3ac:23:v 3cf:8:mϗ▸β▸θ▸υ▸ύ▸ϋ▸φ▸π 3d7:1:v 3d8:18:p 3f0:3:mκ▸ρ▸σ 3f3:1:v 3f4:2:mθ▸ε 3f6:1:v
   3f7:1:mϸ 3f8:1:v 3f9:2:mσ▸ϻ 3fb:2:v 3fd:3:s37b 400:10:s450 410:20:s430 430:30:v 460:22:p 482:8:v
   48a:36:p 4c0:1:mӏ 4c1:e:p 4cf:1:v 4d0:60:p 531:26:s561 559:2e:v 587:1:mեւ 588:3:v 58d:3:v
   591:37:v 5d0:1b:v 5ef:6:v 606:16:v 61d:58:v 675:4:mاٴ▸وٴ▸ۇٴ▸يٴ 679:64:v 6de:30:v 710:3b:v
   74d:65:v 7c0:3b:v 7fd:31:v 830:f:v 840:1c:v 85e:1:v 860:b:v 870:20:v 897:4b:v 8e3:75:v
   958:8:mक\u093C▸ख\u093C▸ग\u093C▸ज\u093C▸ड\u093C▸ढ\u093C▸फ\u093C▸य\u093C 960:24:v 985:8:v 98f:2:v
   993:16:v 9aa:7:v 9b2:1:v 9b6:4:v 9bc:9:v 9c7:2:v 9cb:4:v 9d7:1:v 9dc:2:mড\u09BC▸ঢ\u09BC
   9df:1:mয\u09BC 9e0:4:v 9e6:19:v a01:3:v a05:6:v a0f:2:v a13:16:v a2a:7:v a32:1:v a33:1:mਲ\u0A3C
   a35:1:v a36:1:mਸ\u0A3C a38:2:v a3c:1:v a3e:5:v a47:2:v a4b:3:v a51:1:v
   a59:3:mਖ\u0A3C▸ਗ\u0A3C▸ਜ\u0A3C a5c:1:v a5e:1:mਫ\u0A3C a66:11:v a81:3:v a85:9:v a8f:3:v a93:16:v
   aaa:7:v ab2:2:v ab5:5:v abc:a:v ac7:3:v acb:3:v ad0:1:v ae0:4:v ae6:c:v af9:7:v b01:3:v b05:8:v
   b0f:2:v b13:16:v b2a:7:v b32:2:v b35:5:v b3c:9:v b47:2:v b4b:3:v b55:3:v b5c:2:mଡ\u0B3C▸ଢ\u0B3C
   b5f:5:v b66:12:v b82:2:v b85:6:v b8e:3:v b92:4:v b99:2:v b9c:1:v b9e:2:v ba3:2:v ba8:3:v bae:c:v
   bbe:5:v bc6:3:v bca:4:v bd0:1:v bd7:1:v be6:15:v c00:d:v c0e:3:v c12:17:v c2a:10:v c3c:9:v
   c46:3:v c4a:4:v c55:2:v c58:3:v c5c:2:v c60:4:v c66:a:v c77:16:v c8e:3:v c92:17:v caa:a:v
   cb5:5:v cbc:9:v cc6:3:v cca:4:v cd5:2:v cdc:3:v ce0:4:v ce6:a:v cf1:3:v d00:d:v d0e:3:v d12:33:v
   d46:3:v d4a:6:v d54:10:v d66:1a:v d81:3:v d85:12:v d9a:18:v db3:9:v dbd:1:v dc0:7:v dca:1:v
   dcf:6:v dd6:1:v dd8:8:v de6:a:v df2:3:v e01:32:v e33:1:m\u0E4Dา e34:7:v e3f:1d:v e81:2:v e84:1:v
   e86:5:v e8c:18:v ea5:1:v ea7:c:v eb3:1:m\u0ECDາ eb4:a:v ec0:5:v ec6:1:v ec8:7:v ed0:a:v
   edc:2:mຫນ▸ຫມ ede:2:v f00:c:v f0c:1:m་ f0d:36:v f43:1:mག\u0FB7 f44:4:v f49:4:v f4d:1:mཌ\u0FB7
   f4e:4:v f52:1:mད\u0FB7 f53:4:v f57:1:mབ\u0FB7 f58:4:v f5c:1:mཛ\u0FB7 f5d:c:v f69:1:mཀ\u0FB5
   f6a:3:v f71:2:v f73:1:m\u0F71\u0F72 f74:1:v
   f75:5:m\u0F71\u0F74▸\u0FB2\u0F80▸\u0FB2\u0F71\u0F80▸\u0FB3\u0F80▸\u0FB3\u0F71\u0F80 f7a:7:v
   f81:1:m\u0F71\u0F80 f82:11:v f93:1:m\u0F92\u0FB7 f94:4:v f99:4:v f9d:1:m\u0F9C\u0FB7 f9e:4:v
   fa2:1:m\u0FA1\u0FB7 fa3:4:v fa7:1:m\u0FA6\u0FB7 fa8:4:v fac:1:m\u0FAB\u0FB7 fad:c:v
   fb9:1:m\u0F90\u0FB5 fba:3:v fbe:f:v fce:d:v 1000:a0:v 10a0:26:s2d00 10c7:1:mⴧ 10cd:1:mⴭ
   10d0:2c:v 10fc:1:mნ 10fd:62:v 115f:2:i 1161:e8:v 124a:4:v 1250:7:v 1258:1:v 125a:4:v 1260:29:v
   128a:4:v 1290:21:v 12b2:4:v 12b8:7:v 12c0:1:v 12c2:4:v 12c8:f:v 12d8:39:v 1312:4:v 1318:43:v
   135d:20:v 1380:1a:v 13a0:56:v 13f8:6:s13f0 1400:280:v 1681:1c:v 16a0:59:v 1700:16:v 171f:18:v
   1740:14:v 1760:d:v 176e:3:v 1772:2:v 1780:34:v 17b4:2:i 17b6:28:v 17e0:a:v 17f0:a:v 1800:b:v
   180b:5:i 1810:a:v 1820:59:v 1880:2b:v 18b0:46:v 1900:1f:v 1920:c:v 1930:c:v 1940:1:v 1944:2a:v
   1970:5:v 1980:2c:v 19b0:1a:v 19d0:b:v 19de:3e:v 1a1e:41:v 1a60:1d:v 1a7f:b:v 1a90:a:v 1aa0:e:v
   1ab0:2e:v 1ae0:c:v 1b00:4d:v 1b4e:a6:v 1bfc:3c:v 1c3b:f:v 1c4d:33:v
   1c80:a:mв▸д▸о▸с▸т▸т▸ъ▸ѣ▸ꙋ▸\u1C8A 1c8a:1:v 1c90:2b:s10d0 1cbd:3:s10fd 1cc0:8:v 1cd0:2b:v
   1d00:2c:v 1d2c:3:ma▸æ▸b 1d2f:1:v 1d30:3:md▸e▸ǝ 1d33:8:s67 1d3b:1:v
   1d3c:12:mo▸ȣ▸p▸r▸t▸u▸w▸a▸ɐ▸ɑ▸ᴂ▸b▸d▸e▸ə▸ɛ▸ɜ▸g 1d4e:1:v
   1d4f:18:mk▸m▸ŋ▸o▸ɔ▸ᴖ▸ᴗ▸p▸t▸u▸ᴝ▸ɯ▸v▸ᴥ▸β▸γ▸δ▸φ▸χ▸i▸r▸u▸v▸β 1d67:4:mγ▸ρ▸φ▸χ 1d6b:d:v 1d78:1:mн
   1d79:22:v 1d9b:18:mɒ▸c▸ɕ▸ð▸ɜ▸f▸ɟ▸ɡ▸ɥ▸ɨ▸ɩ▸ɪ▸ᵻ▸ʝ▸ɭ▸ᶅ▸ʟ▸ɱ▸ɰ▸ɲ▸ɳ▸ɴ▸ɵ▸ɸ
   1db3:d:mʂ▸ʃ▸ƫ▸ʉ▸ʊ▸ᴜ▸ʋ▸ʌ▸z▸ʐ▸ʑ▸ʒ▸θ 1dc0:40:v 1e00:96:p 1e96:4:v 1e9a:2:maʾ▸ṡ 1e9c:2:v 1e9e:1:mß
   1e9f:1:v 1ea0:60:p 1f00:8:v 1f08:8:s1f00 1f10:6:v 1f18:6:s1f10 1f20:8:v 1f28:8:s1f20 1f30:8:v
   1f38:8:s1f30 1f40:6:v 1f48:6:s1f40 1f50:8:v 1f59:1:mὑ 1f5b:1:mὓ 1f5d:1:mὕ 1f5f:1:mὗ 1f60:8:v
   1f68:8:s1f60 1f70:1:v 1f71:1:mά 1f72:1:v 1f73:1:mέ 1f74:1:v 1f75:1:mή 1f76:1:v 1f77:1:mί
   1f78:1:v 1f79:1:mό 1f7a:1:v 1f7b:1:mύ 1f7c:1:v 1f7d:1:mώ
   1f80:18:mἀι▸ἁι▸ἂι▸ἃι▸ἄι▸ἅι▸ἆι▸ἇι▸ἀι▸ἁι▸ἂι▸ἃι▸ἄι▸ἅι▸ἆι▸ἇι▸ἠι▸ἡι▸ἢι▸ἣι▸ἤι▸ἥι▸ἦι▸ἧι
   1f98:18:mἠι▸ἡι▸ἢι▸ἣι▸ἤι▸ἥι▸ἦι▸ἧι▸ὠι▸ὡι▸ὢι▸ὣι▸ὤι▸ὥι▸ὦι▸ὧι▸ὠι▸ὡι▸ὢι▸ὣι▸ὤι▸ὥι▸ὦι▸ὧι 1fb0:2:v
   1fb2:3:mὰι▸αι▸άι 1fb6:1:v 1fb7:e:mᾶι▸ᾰ▸ᾱ▸ὰ▸ά▸αι▸␣\u0313▸ι▸␣\u0313▸␣\u0342▸␣\u0308\u0342▸ὴι▸ηι▸ήι
   1fc6:1:v 1fc7:9:mῆι▸ὲ▸έ▸ὴ▸ή▸ηι▸␣\u0313\u0300▸␣\u0313\u0301▸␣\u0313\u0342 1fd0:3:v 1fd3:1:mΐ
   1fd6:2:v 1fd8:4:mῐ▸ῑ▸ὶ▸ί 1fdd:3:m␣\u0314\u0300▸␣\u0314\u0301▸␣\u0314\u0342 1fe0:3:v 1fe3:1:mΰ
   1fe4:4:v 1fe8:8:mῠ▸ῡ▸ὺ▸ύ▸ῥ▸␣\u0308\u0300▸␣\u0308\u0301▸` 1ff2:3:mὼι▸ωι▸ώι 1ff6:1:v
   1ff7:8:mῶι▸ὸ▸ό▸ὼ▸ώ▸ωι▸␣\u0301▸␣\u0314 2000:b:m␣▸␣▸␣▸␣▸␣▸␣▸␣▸␣▸␣▸␣▸␣ 200b:1:i 200c:2:v 2010:1:v
   2011:1:m‐ 2012:5:v 2017:1:m␣\u0333 2018:c:v 2027:1:v 202f:1:m␣ 2030:3:v 2033:2:m′′▸′′′ 2035:1:v
   2036:2:m‵‵▸‵‵‵ 2038:4:v 203c:1:m!! 203d:1:v 203e:1:m␣\u0305 203f:8:v 2047:3:m??▸?!▸!? 204a:d:v
   2057:1:m′′′′ 2058:7:v 205f:1:m␣ 2060:5:i 206a:6:i 2070:2:m0▸i 2074:6:s34 207a:6:m+▸−▸=▸(▸)▸n
   2080:a:s30 208a:5:m+▸−▸=▸(▸) 2090:d:ma▸e▸o▸x▸ə▸h▸k▸l▸m▸n▸p▸s▸t 20a0:8:v 20a8:1:mrs 20a9:19:v
   20d0:21:v 2100:4:ma/c▸a/s▸c▸°c 2104:1:v 2105:3:mc/o▸c/u▸ɛ 2108:1:v
   2109:b:m°f▸g▸h▸h▸h▸h▸ħ▸i▸i▸l▸l 2114:1:v 2115:2:mn▸no 2117:2:v 2119:3:s70 211c:2:mr▸r 211e:2:v
   2120:3:msm▸tel▸tm 2123:1:v 2124:1:mz 2125:1:v 2126:1:mω 2127:1:v 2128:1:mz 2129:1:v
   212a:4:mk▸å▸b▸c 212e:1:v 212f:b:me▸e▸f▸ⅎ▸m▸o▸א▸ב▸ג▸ד▸i 213a:1:v 213b:6:mfax▸π▸γ▸γ▸π▸∑ 2141:4:v
   2145:5:md▸d▸e▸i▸j 214a:6:v
   2150:18:m1⁄7▸1⁄9▸1⁄10▸1⁄3▸2⁄3▸1⁄5▸2⁄5▸3⁄5▸4⁄5▸1⁄6▸5⁄6▸1⁄8▸3⁄8▸5⁄8▸7⁄8▸1⁄▸i▸ii▸iii▸iv▸v▸vi▸vii▸viii
   2168:18:mix▸x▸xi▸xii▸l▸c▸d▸m▸i▸ii▸iii▸iv▸v▸vi▸vii▸viii▸ix▸x▸xi▸xii▸l▸c▸d▸m 2180:3:v 2183:1:mↄ
   2184:5:v 2189:1:m0⁄3 218a:2:v 2190:9c:v 222c:2:m∫∫▸∫∫∫ 222e:1:v 222f:2:m∮∮▸∮∮∮ 2231:f8:v
   2329:2:m〈▸〉 232b:ff:v 2440:b:v 2460:9:s31
   2469:18:m10▸11▸12▸13▸14▸15▸16▸17▸18▸19▸20▸(1)▸(2)▸(3)▸(4)▸(5)▸(6)▸(7)▸(8)▸(9)▸(10)▸(11)▸(12)▸(13)
   2481:7:m(14)▸(15)▸(16)▸(17)▸(18)▸(19)▸(20)
   249c:18:m(a)▸(b)▸(c)▸(d)▸(e)▸(f)▸(g)▸(h)▸(i)▸(j)▸(k)▸(l)▸(m)▸(n)▸(o)▸(p)▸(q)▸(r)▸(s)▸(t)▸(u)▸(v)▸(w)▸(x)
   24b4:2:m(y)▸(z) 24b6:1a:s61 24d0:1a:s61 24ea:1:m0 24eb:521:v 2a0c:1:m∫∫∫∫ 2a0d:67:v
   2a74:3:m::=▸==▸=== 2a77:65:v 2adc:1:m⫝\u0338 2add:97:v 2b76:8a:v 2c00:30:s2c30 2c30:30:v
   2c60:1:mⱡ 2c61:1:v 2c62:3:mɫ▸ᵽ▸ɽ 2c65:2:v 2c67:6:p 2c6d:4:mɑ▸ɱ▸ɐ▸ɒ 2c71:1:v 2c72:1:mⱳ 2c73:2:v
   2c75:1:mⱶ 2c76:6:v 2c7c:4:mj▸v▸ȿ▸ɀ 2c80:64:p 2ce4:7:v 2ceb:4:p 2cef:3:v 2cf2:1:mⳳ 2cf3:1:v
   2cf9:2d:v 2d27:1:v 2d2d:1:v 2d30:38:v 2d6f:1:mⵡ 2d70:1:v 2d7f:18:v 2da0:7:v 2da8:7:v 2db0:7:v
   2db8:7:v 2dc0:7:v 2dc8:7:v 2dd0:7:v 2dd8:7:v 2de0:7e:v 2e80:1a:v 2e9b:4:v 2e9f:1:m母 2ea0:53:v
   2ef3:1:m龟 2f00:18:m一▸丨▸丶▸丿▸乙▸亅▸二▸亠▸人▸儿▸入▸八▸冂▸冖▸冫▸几▸凵▸刀▸力▸勹▸匕▸匚▸匸▸十
   2f18:18:m卜▸卩▸厂▸厶▸又▸口▸囗▸土▸士▸夂▸夊▸夕▸大▸女▸子▸宀▸寸▸小▸尢▸尸▸屮▸山▸巛▸工
   2f30:18:m己▸巾▸干▸幺▸广▸廴▸廾▸弋▸弓▸彐▸彡▸彳▸心▸戈▸戶▸手▸支▸攴▸文▸斗▸斤▸方▸无▸日
   2f48:18:m曰▸月▸木▸欠▸止▸歹▸殳▸毋▸比▸毛▸氏▸气▸水▸火▸爪▸父▸爻▸爿▸片▸牙▸牛▸犬▸玄▸玉
   2f60:18:m瓜▸瓦▸甘▸生▸用▸田▸疋▸疒▸癶▸白▸皮▸皿▸目▸矛▸矢▸石▸示▸禸▸禾▸穴▸立▸竹▸米▸糸
   2f78:18:m缶▸网▸羊▸羽▸老▸而▸耒▸耳▸聿▸肉▸臣▸自▸至▸臼▸舌▸舛▸舟▸艮▸色▸艸▸虍▸虫▸血▸行
   2f90:18:m衣▸襾▸見▸角▸言▸谷▸豆▸豕▸豸▸貝▸赤▸走▸足▸身▸車▸辛▸辰▸辵▸邑▸酉▸釆▸里▸金▸長
   2fa8:18:m門▸阜▸隶▸隹▸雨▸靑▸非▸面▸革▸韋▸韭▸音▸頁▸風▸飛▸食▸首▸香▸馬▸骨▸高▸髟▸鬥▸鬯
   2fc0:16:m鬲▸鬼▸魚▸鳥▸鹵▸鹿▸麥▸麻▸黃▸黍▸黑▸黹▸黽▸鼎▸鼓▸鼠▸鼻▸齊▸齒▸龍▸龜▸龠 3000:1:m␣ 3001:1:v 3002:1:m. 3003:33:v
   3036:1:m〒 3037:1:v 3038:3:m十▸卄▸卅 303b:5:v 3041:56:v 3099:2:v 309b:2:m␣\u3099▸␣\u309A 309d:2:v
   309f:1:mより 30a0:5f:v 30ff:1:mコト 3105:2b:v 3131:9:mᄀ▸ᄁ▸ᆪ▸ᄂ▸ᆬ▸ᆭ▸ᄃ▸ᄄ▸ᄅ 313a:6:s11b0
   3140:5:mᄚ▸ᄆ▸ᄇ▸ᄈ▸ᄡ 3145:a:s1109 314f:15:s1161 3164:1:i
   3165:18:mᄔ▸ᄕ▸ᇇ▸ᇈ▸ᇌ▸ᇎ▸ᇓ▸ᇗ▸ᇙ▸ᄜ▸ᇝ▸ᇟ▸ᄝ▸ᄞ▸ᄠ▸ᄢ▸ᄣ▸ᄧ▸ᄩ▸ᄫ▸ᄬ▸ᄭ▸ᄮ▸ᄯ
   317d:12:mᄲ▸ᄶ▸ᅀ▸ᅇ▸ᅌ▸ᇱ▸ᇲ▸ᅗ▸ᅘ▸ᅙ▸ᆄ▸ᆅ▸ᆈ▸ᆑ▸ᆒ▸ᆔ▸ᆞ▸ᆡ 3190:2:v 3192:e:m一▸二▸三▸四▸上▸中▸下▸甲▸乙▸丙▸丁▸天▸地▸人
   31a0:46:v 31f0:10:v
   3200:18:m(ᄀ)▸(ᄂ)▸(ᄃ)▸(ᄅ)▸(ᄆ)▸(ᄇ)▸(ᄉ)▸(ᄋ)▸(ᄌ)▸(ᄎ)▸(ᄏ)▸(ᄐ)▸(ᄑ)▸(ᄒ)▸(가)▸(나)▸(다)▸(라)▸(마)▸(바)▸(사)▸(아)▸(자)▸(차)
   3218:7:m(카)▸(타)▸(파)▸(하)▸(주)▸(오전)▸(오후)
   3220:18:m(一)▸(二)▸(三)▸(四)▸(五)▸(六)▸(七)▸(八)▸(九)▸(十)▸(月)▸(火)▸(水)▸(木)▸(金)▸(土)▸(日)▸(株)▸(有)▸(社)▸(名)▸(特)▸(財)▸(祝)
   3238:10:m(労)▸(代)▸(呼)▸(学)▸(監)▸(企)▸(資)▸(協)▸(祭)▸(休)▸(自)▸(至)▸問▸幼▸文▸箏 3248:8:v
   3250:18:mpte▸21▸22▸23▸24▸25▸26▸27▸28▸29▸30▸31▸32▸33▸34▸35▸ᄀ▸ᄂ▸ᄃ▸ᄅ▸ᄆ▸ᄇ▸ᄉ▸ᄋ
   3268:17:mᄌ▸ᄎ▸ᄏ▸ᄐ▸ᄑ▸ᄒ▸가▸나▸다▸라▸마▸바▸사▸아▸자▸차▸카▸타▸파▸하▸참고▸주의▸우 327f:1:v
   3280:18:m一▸二▸三▸四▸五▸六▸七▸八▸九▸十▸月▸火▸水▸木▸金▸土▸日▸株▸有▸社▸名▸特▸財▸祝
   3298:18:m労▸秘▸男▸女▸適▸優▸印▸注▸項▸休▸写▸正▸上▸中▸下▸左▸右▸医▸宗▸学▸監▸企▸資▸協
   32b0:18:m夜▸36▸37▸38▸39▸40▸41▸42▸43▸44▸45▸46▸47▸48▸49▸50▸1月▸2月▸3月▸4月▸5月▸6月▸7月▸8月
   32c8:18:m9月▸10月▸11月▸12月▸hg▸erg▸ev▸ltd▸ア▸イ▸ウ▸エ▸オ▸カ▸キ▸ク▸ケ▸コ▸サ▸シ▸ス▸セ▸ソ▸タ 32e0:4:mチ▸ツ▸テ▸ト
   32e4:6:s30ca 32ea:b:mヒ▸フ▸ヘ▸ホ▸マ▸ミ▸ム▸メ▸モ▸ヤ▸ユ 32f5:6:s30e8 32fb:4:s30ef
   32ff:18:m令和▸アパート▸アルファ▸アンペア▸アール▸イニング▸インチ▸ウォン▸エスクード▸エーカー▸オンス▸オーム▸カイリ▸カラット▸カロリー▸ガロン▸ガンマ▸ギガ▸ギニー▸キュリー▸ギルダー▸キロ▸キログラム▸キロメートル
   3317:18:mキロワット▸グラム▸グラムトン▸クルゼイロ▸クローネ▸ケース▸コルナ▸コーポ▸サイクル▸サンチーム▸シリング▸センチ▸セント▸ダース▸デシ▸ドル▸トン▸ナノ▸ノット▸ハイツ▸パーセント▸パーツ▸バーレル▸ピアストル
   332f:18:mピクル▸ピコ▸ビル▸ファラッド▸フィート▸ブッシェル▸フラン▸ヘクタール▸ペソ▸ペニヒ▸ヘルツ▸ペンス▸ページ▸ベータ▸ポイント▸ボルト▸ホン▸ポンド▸ホール▸ホーン▸マイクロ▸マイル▸マッハ▸マルク
   3347:18:mマンション▸ミクロン▸ミリ▸ミリバール▸メガ▸メガトン▸メートル▸ヤード▸ヤール▸ユアン▸リットル▸リラ▸ルピー▸ルーブル▸レム▸レントゲン▸ワット▸0点▸1点▸2点▸3点▸4点▸5点▸6点
   335f:18:m7点▸8点▸9点▸10点▸11点▸12点▸13点▸14点▸15点▸16点▸17点▸18点▸19点▸20点▸21点▸22点▸23点▸24点▸hpa▸da▸au▸bar▸ov▸pc
   3377:18:mdm▸dm2▸dm3▸iu▸平成▸昭和▸大正▸明治▸株式会社▸pa▸na▸μa▸ma▸ka▸kb▸mb▸gb▸cal▸kcal▸pf▸nf▸μf▸μg▸mg
   338f:18:mkg▸hz▸khz▸mhz▸ghz▸thz▸μl▸ml▸dl▸kl▸fm▸nm▸μm▸mm▸cm▸km▸mm2▸cm2▸m2▸km2▸mm3▸cm3▸m3▸km3
   33a7:18:mm∕s▸m∕s2▸pa▸kpa▸mpa▸gpa▸rad▸rad∕s▸rad∕s2▸ps▸ns▸μs▸ms▸pv▸nv▸μv▸mv▸kv▸mv▸pw▸nw▸μw▸mw▸kw
   33bf:3:mmw▸kω▸mω 33c3:4:mbq▸cc▸cd▸c∕kg
   33c8:10:mdb▸gy▸ha▸hp▸in▸kk▸km▸kt▸lm▸ln▸log▸lx▸mb▸mil▸mol▸ph
   33d9:18:mppm▸pr▸sr▸sv▸wb▸v∕m▸a∕m▸1日▸2日▸3日▸4日▸5日▸6日▸7日▸8日▸9日▸10日▸11日▸12日▸13日▸14日▸15日▸16日▸17日
   33f1:f:m18日▸19日▸20日▸21日▸22日▸23日▸24日▸25日▸26日▸27日▸28日▸29日▸30日▸31日▸gal 3400:708d:v a490:37:v
   a4d0:15c:v a640:2e:p a66e:12:v a680:1c:p a69c:2:mъ▸ь a69e:5a:v a700:22:v a722:e:p a730:2:v
   a732:3e:p a770:1:mꝯ a771:8:v a779:4:p a77d:1:mᵹ a77e:a:p a788:3:v a78b:1:mꞌ a78c:1:v a78d:1:mɥ
   a78e:2:v a790:4:p a794:2:v a796:14:p a7aa:5:mɦ▸ɜ▸ɡ▸ɬ▸ɪ a7af:1:v a7b0:4:mʞ▸ʇ▸ʝ▸ꭓ a7b4:10:p
   a7c4:3:mꞔ▸ʂ▸ᶎ a7c7:4:p a7cb:1:mɤ a7cc:10:p a7dc:1:mƛ a7f1:5:ms▸c▸f▸q▸ꟶ a7f6:2:v a7f8:2:mħ▸œ
   a7fa:33:v a830:a:v a840:38:v a880:46:v a8ce:c:v a8e0:74:v a95f:1e:v a980:4e:v a9cf:b:v a9de:21:v
   aa00:37:v aa40:e:v aa50:a:v aa5c:67:v aadb:1c:v ab01:6:v ab09:6:v ab11:6:v ab20:7:v ab28:7:v
   ab30:2c:v ab5c:4:mꜧ▸ꬷ▸ɫ▸ꭒ ab60:9:v ab69:1:mʍ ab6a:2:v ab70:50:s13a0 abc0:2e:v abf0:a:v
   ac00:2ba4:v d7b0:17:v d7cb:31:v f900:18:m豈▸更▸車▸賈▸滑▸串▸句▸龜▸龜▸契▸金▸喇▸奈▸懶▸癩▸羅▸蘿▸螺▸裸▸邏▸樂▸洛▸烙▸珞
   f918:18:m落▸酪▸駱▸亂▸卵▸欄▸爛▸蘭▸鸞▸嵐▸濫▸藍▸襤▸拉▸臘▸蠟▸廊▸朗▸浪▸狼▸郎▸來▸冷▸勞
   f930:18:m擄▸櫓▸爐▸盧▸老▸蘆▸虜▸路▸露▸魯▸鷺▸碌▸祿▸綠▸菉▸錄▸鹿▸論▸壟▸弄▸籠▸聾▸牢▸磊
   f948:18:m賂▸雷▸壘▸屢▸樓▸淚▸漏▸累▸縷▸陋▸勒▸肋▸凜▸凌▸稜▸綾▸菱▸陵▸讀▸拏▸樂▸諾▸丹▸寧
   f960:18:m怒▸率▸異▸北▸磻▸便▸復▸不▸泌▸數▸索▸參▸塞▸省▸葉▸說▸殺▸辰▸沈▸拾▸若▸掠▸略▸亮
   f978:18:m兩▸凉▸梁▸糧▸良▸諒▸量▸勵▸呂▸女▸廬▸旅▸濾▸礪▸閭▸驪▸麗▸黎▸力▸曆▸歷▸轢▸年▸憐
   f990:18:m戀▸撚▸漣▸煉▸璉▸秊▸練▸聯▸輦▸蓮▸連▸鍊▸列▸劣▸咽▸烈▸裂▸說▸廉▸念▸捻▸殮▸簾▸獵
   f9a8:18:m令▸囹▸寧▸嶺▸怜▸玲▸瑩▸羚▸聆▸鈴▸零▸靈▸領▸例▸禮▸醴▸隸▸惡▸了▸僚▸寮▸尿▸料▸樂
   f9c0:18:m燎▸療▸蓼▸遼▸龍▸暈▸阮▸劉▸杻▸柳▸流▸溜▸琉▸留▸硫▸紐▸類▸六▸戮▸陸▸倫▸崙▸淪▸輪
   f9d8:18:m律▸慄▸栗▸率▸隆▸利▸吏▸履▸易▸李▸梨▸泥▸理▸痢▸罹▸裏▸裡▸里▸離▸匿▸溺▸吝▸燐▸璘
   f9f0:18:m藺▸隣▸鱗▸麟▸林▸淋▸臨▸立▸笠▸粒▸狀▸炙▸識▸什▸茶▸刺▸切▸度▸拓▸糖▸宅▸洞▸暴▸輻 fa08:6:m行▸降▸見▸廓▸兀▸嗀 fa0e:2:v fa10:1:m塚
   fa11:1:v fa12:1:m晴 fa13:2:v fa15:a:m凞▸猪▸益▸礼▸神▸祥▸福▸靖▸精▸羽 fa1f:1:v fa20:1:m蘒 fa21:1:v fa22:1:m諸
   fa23:2:v fa25:2:m逸▸都 fa27:3:v fa2a:18:m飯▸飼▸館▸鶴▸郞▸隷▸侮▸僧▸免▸勉▸勤▸卑▸喝▸嘆▸器▸塀▸墨▸層▸屮▸悔▸慨▸憎▸懲▸敏
   fa42:18:m既▸暑▸梅▸海▸渚▸漢▸煮▸爫▸琢▸碑▸社▸祉▸祈▸祐▸祖▸祝▸禍▸禎▸穀▸突▸節▸練▸縉▸繁
   fa5a:14:m署▸者▸臭▸艹▸艹▸著▸褐▸視▸謁▸謹▸賓▸贈▸辶▸逸▸難▸響▸頻▸恵▸𤋮▸舘
   fa70:18:m並▸况▸全▸侀▸充▸冀▸勇▸勺▸喝▸啕▸喙▸嗢▸塚▸墳▸奄▸奔▸婢▸嬨▸廒▸廙▸彩▸徭▸惘▸慎
   fa88:18:m愈▸憎▸慠▸懲▸戴▸揄▸搜▸摒▸敖▸晴▸朗▸望▸杖▸歹▸殺▸流▸滛▸滋▸漢▸瀞▸煮▸瞧▸爵▸犯
   faa0:18:m猪▸瑱▸甆▸画▸瘝▸瘟▸益▸盛▸直▸睊▸着▸磌▸窱▸節▸类▸絛▸練▸缾▸者▸荒▸華▸蝹▸襁▸覆
   fab8:18:m視▸調▸諸▸請▸謁▸諾▸諭▸謹▸變▸贈▸輸▸遲▸醙▸鉶▸陼▸難▸靖▸韛▸響▸頋▸頻▸鬒▸龜▸𢡊 fad0:a:m𢡄▸𣏕▸㮝▸䀘▸䀹▸𥉉▸𥳐▸𧻓▸齃▸龎
   fb00:7:mff▸fi▸fl▸ffi▸ffl▸st▸st fb13:5:mմն▸մե▸մի▸վն▸մխ fb1d:1:mי\u05B4 fb1e:1:v
   fb1f:18:mײ\u05B7▸ע▸א▸ד▸ה▸כ▸ל▸ם▸ר▸ת▸+▸ש\u05C1▸ש\u05C2▸ש\u05BC\u05C1▸ש\u05BC\u05C2▸א\u05B7▸א\u05B8▸א\u05BC▸ב\u05BC▸ג\u05BC▸ד\u05BC▸ה\u05BC▸ו\u05BC▸ז\u05BC
   fb38:5:mט\u05BC▸י\u05BC▸ך\u05BC▸כ\u05BC▸ל\u05BC fb3e:1:mמ\u05BC fb40:2:mנ\u05BC▸ס\u05BC
   fb43:2:mף\u05BC▸פ\u05BC
   fb46:18:mצ\u05BC▸ק\u05BC▸ר\u05BC▸ש\u05BC▸ת\u05BC▸ו\u05B9▸ב\u05BF▸כ\u05BF▸פ\u05BF▸אל▸ٱ▸ٱ▸ٻ▸ٻ▸ٻ▸ٻ▸پ▸پ▸پ▸پ▸ڀ▸ڀ▸ڀ▸ڀ
   fb5e:18:mٺ▸ٺ▸ٺ▸ٺ▸ٿ▸ٿ▸ٿ▸ٿ▸ٹ▸ٹ▸ٹ▸ٹ▸ڤ▸ڤ▸ڤ▸ڤ▸ڦ▸ڦ▸ڦ▸ڦ▸ڄ▸ڄ▸ڄ▸ڄ
   fb76:18:mڃ▸ڃ▸ڃ▸ڃ▸چ▸چ▸چ▸چ▸ڇ▸ڇ▸ڇ▸ڇ▸ڍ▸ڍ▸ڌ▸ڌ▸ڎ▸ڎ▸ڈ▸ڈ▸ژ▸ژ▸ڑ▸ڑ
   fb8e:18:mک▸ک▸ک▸ک▸گ▸گ▸گ▸گ▸ڳ▸ڳ▸ڳ▸ڳ▸ڱ▸ڱ▸ڱ▸ڱ▸ں▸ں▸ڻ▸ڻ▸ڻ▸ڻ▸ۀ▸ۀ fba6:c:mہ▸ہ▸ہ▸ہ▸ھ▸ھ▸ھ▸ھ▸ے▸ے▸ۓ▸ۓ
   fbb2:21:v fbd3:18:mڭ▸ڭ▸ڭ▸ڭ▸ۇ▸ۇ▸ۆ▸ۆ▸ۈ▸ۈ▸ۇٴ▸ۋ▸ۋ▸ۅ▸ۅ▸ۉ▸ۉ▸ې▸ې▸ې▸ې▸ى▸ى▸ئا
   fbeb:18:mئا▸ئە▸ئە▸ئو▸ئو▸ئۇ▸ئۇ▸ئۆ▸ئۆ▸ئۈ▸ئۈ▸ئې▸ئې▸ئې▸ئى▸ئى▸ئى▸ی▸ی▸ی▸ی▸ئج▸ئح▸ئم
   fc03:18:mئى▸ئي▸بج▸بح▸بخ▸بم▸بى▸بي▸تج▸تح▸تخ▸تم▸تى▸تي▸ثج▸ثم▸ثى▸ثي▸جح▸جم▸حج▸حم▸خج▸خح
   fc1b:18:mخم▸سج▸سح▸سخ▸سم▸صح▸صم▸ضج▸ضح▸ضخ▸ضم▸طح▸طم▸ظم▸عج▸عم▸غج▸غم▸فج▸فح▸فخ▸فم▸فى▸في
   fc33:18:mقح▸قم▸قى▸قي▸كا▸كج▸كح▸كخ▸كل▸كم▸كى▸كي▸لج▸لح▸لخ▸لم▸لى▸لي▸مج▸مح▸مخ▸مم▸مى▸مي
   fc4b:18:mنج▸نح▸نخ▸نم▸نى▸ني▸هج▸هم▸هى▸هي▸يج▸يح▸يخ▸يم▸يى▸يي▸ذ\u0670▸ر\u0670▸ى\u0670▸␣\u064C\u0651▸␣\u064D\u0651▸␣\u064E\u0651▸␣\u064F\u0651▸␣\u0650\u0651
   fc63:18:m␣\u0651\u0670▸ئر▸ئز▸ئم▸ئن▸ئى▸ئي▸بر▸بز▸بم▸بن▸بى▸بي▸تر▸تز▸تم▸تن▸تى▸تي▸ثر▸ثز▸ثم▸ثن▸ثى
   fc7b:18:mثي▸فى▸في▸قى▸قي▸كا▸كل▸كم▸كى▸كي▸لم▸لى▸لي▸ما▸مم▸نر▸نز▸نم▸نن▸نى▸ني▸ى\u0670▸ير▸يز
   fc93:18:mيم▸ين▸يى▸يي▸ئج▸ئح▸ئخ▸ئم▸ئه▸بج▸بح▸بخ▸بم▸به▸تج▸تح▸تخ▸تم▸ته▸ثم▸جح▸جم▸حج▸حم
   fcab:18:mخج▸خم▸سج▸سح▸سخ▸سم▸صح▸صخ▸صم▸ضج▸ضح▸ضخ▸ضم▸طح▸ظم▸عج▸عم▸غج▸غم▸فج▸فح▸فخ▸فم▸قح
   fcc3:18:mقم▸كج▸كح▸كخ▸كل▸كم▸لج▸لح▸لخ▸لم▸له▸مج▸مح▸مخ▸مم▸نج▸نح▸نخ▸نم▸نه▸هج▸هم▸ه\u0670▸يج
   fcdb:18:mيح▸يخ▸يم▸يه▸ئم▸ئه▸بم▸به▸تم▸ته▸ثم▸ثه▸سم▸سه▸شم▸شه▸كل▸كم▸لم▸نم▸نه▸يم▸يه▸ـ\u064E\u0651
   fcf3:18:mـ\u064F\u0651▸ـ\u0650\u0651▸طى▸طي▸عى▸عي▸غى▸غي▸سى▸سي▸شى▸شي▸حى▸حي▸جى▸جي▸خى▸خي▸صى▸صي▸ضى▸ضي▸شج▸شح
   fd0b:18:mشخ▸شم▸شر▸سر▸صر▸ضر▸طى▸طي▸عى▸عي▸غى▸غي▸سى▸سي▸شى▸شي▸حى▸حي▸جى▸جي▸خى▸خي▸صى▸صي
   fd23:18:mضى▸ضي▸شج▸شح▸شخ▸شم▸شر▸سر▸صر▸ضر▸شج▸شح▸شخ▸شم▸سه▸شه▸طم▸سج▸سح▸سخ▸شج▸شح▸شخ▸طم
   fd3b:3:mظم▸ا\u064B▸ا\u064B fd3e:12:v
   fd50:18:mتجم▸تحج▸تحج▸تحم▸تخم▸تمج▸تمح▸تمخ▸جمح▸جمح▸حمي▸حمى▸سحج▸سجح▸سجى▸سمح▸سمح▸سمج▸سمم▸سمم▸صحح▸صحح▸صمم▸شحم
   fd68:18:mشحم▸شجي▸شمخ▸شمخ▸شمم▸شمم▸ضحى▸ضخم▸ضخم▸طمح▸طمح▸طمم▸طمي▸عجم▸عمم▸عمم▸عمى▸غمم▸غمي▸غمى▸فخم▸فخم▸قمح▸قمم
   fd80:10:mلحم▸لحي▸لحى▸لجج▸لجج▸لخم▸لخم▸لمح▸لمح▸محج▸محم▸محي▸مجح▸مجم▸مخج▸مخم fd90:2:v
   fd92:18:mمجخ▸همج▸همم▸نحم▸نحى▸نجم▸نجم▸نجى▸نمي▸نمى▸يمم▸يمم▸بخي▸تجي▸تجى▸تخي▸تخى▸تمي▸تمى▸جمي▸جحى▸جمى▸سخى▸صحي
   fdaa:18:mشحي▸ضحي▸لجي▸لمي▸يحي▸يجي▸يمي▸ممي▸قمي▸نحي▸قمح▸لحم▸عمي▸كمي▸نجح▸مخي▸لجم▸كمم▸لجم▸نجح▸جحي▸حجي▸مجي▸فمي
   fdc2:6:mبحي▸كمم▸عجم▸صمم▸سخي▸نجي fdc8:8:v
   fdf0:d:mصلے▸قلے▸الله▸اكبر▸محمد▸صلعم▸رسول▸عليه▸وسلم▸صلى▸صلى␣الله␣عليه␣وسلم▸جل␣جلاله▸ریال fdfd:3:v
   fe00:10:i fe10:2:m,▸、 fe13:6:m:▸;▸!▸?▸〖▸〗 fe20:10:v
   fe31:14:m—▸–▸_▸_▸(▸)▸\x7b▸\x7d▸〔▸〕▸【▸】▸《▸》▸〈▸〉▸「▸」▸『▸』 fe45:2:v
   fe47:b:m[▸]▸␣\u0305▸␣\u0305▸␣\u0305▸␣\u0305▸_▸_▸_▸,▸、
   fe54:13:m;▸:▸?▸!▸—▸(▸)▸\x7b▸\x7d▸〔▸〕▸#▸&▸*▸+▸-▸<▸>▸= fe68:4:m\\▸$▸%▸@
   fe70:3:m␣\u064B▸ـ\u064B▸␣\u064C fe73:1:v fe74:1:m␣\u064D
   fe76:18:m␣\u064E▸ـ\u064E▸␣\u064F▸ـ\u064F▸␣\u0650▸ـ\u0650▸␣\u0651▸ـ\u0651▸␣\u0652▸ـ\u0652▸ء▸آ▸آ▸أ▸أ▸ؤ▸ؤ▸إ▸إ▸ئ▸ئ▸ئ▸ئ▸ا
   fe8e:18:mا▸ب▸ب▸ب▸ب▸ة▸ة▸ت▸ت▸ت▸ت▸ث▸ث▸ث▸ث▸ج▸ج▸ج▸ج▸ح▸ح▸ح▸ح▸خ
   fea6:18:mخ▸خ▸خ▸د▸د▸ذ▸ذ▸ر▸ر▸ز▸ز▸س▸س▸س▸س▸ش▸ش▸ش▸ش▸ص▸ص▸ص▸ص▸ض
   febe:18:mض▸ض▸ض▸ط▸ط▸ط▸ط▸ظ▸ظ▸ظ▸ظ▸ع▸ع▸ع▸ع▸غ▸غ▸غ▸غ▸ف▸ف▸ف▸ف▸ق
   fed6:18:mق▸ق▸ق▸ك▸ك▸ك▸ك▸ل▸ل▸ل▸ل▸م▸م▸م▸م▸ن▸ن▸ن▸ن▸ه▸ه▸ه▸ه▸و
   feee:f:mو▸ى▸ى▸ي▸ي▸ي▸ي▸لآ▸لآ▸لأ▸لأ▸لإ▸لإ▸لا▸لا feff:1:i ff01:20:s21 ff21:1a:s61 ff3b:24:s5b
   ff5f:18:m⦅▸⦆▸.▸「▸」▸、▸・▸ヲ▸ァ▸ィ▸ゥ▸ェ▸ォ▸ャ▸ュ▸ョ▸ッ▸ー▸ア▸イ▸ウ▸エ▸オ▸カ ff77:e:mキ▸ク▸ケ▸コ▸サ▸シ▸ス▸セ▸ソ▸タ▸チ▸ツ▸テ▸ト
   ff85:6:s30ca ff8b:b:mヒ▸フ▸ヘ▸ホ▸マ▸ミ▸ム▸メ▸モ▸ヤ▸ユ ff96:6:s30e8 ff9c:4:mワ▸ン▸\u3099▸\u309A ffa0:1:i
   ffa1:9:mᄀ▸ᄁ▸ᆪ▸ᄂ▸ᆬ▸ᆭ▸ᄃ▸ᄄ▸ᄅ ffaa:6:s11b0 ffb0:5:mᄚ▸ᄆ▸ᄇ▸ᄈ▸ᄡ ffb5:a:s1109 ffc2:6:s1161 ffca:6:s1167
   ffd2:6:s116d ffda:3:s1173 ffe0:7:m¢▸£▸¬▸␣\u0304▸¦▸¥▸₩ ffe8:7:m│▸←▸↑▸→▸↓▸■▸○ 10000:c:v 1000d:1a:v
   10028:13:v 1003c:2:v 1003f:f:v 10050:e:v 10080:7b:v 10100:3:v 10107:2d:v 10137:58:v 10190:d:v
   101a0:1:v 101d0:2e:v 10280:1d:v 102a0:31:v 102e0:1c:v 10300:24:v 1032d:1e:v 10350:2b:v
   10380:1e:v 1039f:25:v 103c8:e:v 10400:28:s10428 10428:76:v 104a0:a:v 104b0:24:s104d8 104d8:24:v
   10500:28:v 10530:34:v 1056f:1:v 10570:b:s10597 1057c:f:s105a3 1058c:7:s105b3 10594:2:m𐖻▸𐖼
   10597:b:v 105a3:f:v 105b3:7:v 105bb:2:v 105c0:34:v 10600:137:v 10740:16:v 10760:8:v 10780:1:v
   10781:5:mː▸ˑ▸æ▸ʙ▸ɓ 10787:18:mʣ▸ꭦ▸ʥ▸ʤ▸ɖ▸ɗ▸ᶑ▸ɘ▸ɞ▸ʩ▸ɤ▸ɢ▸ɠ▸ʛ▸ħ▸ʜ▸ɧ▸ʄ▸ʪ▸ʫ▸ɬ▸𝼄▸ꞎ▸ɮ
   1079f:12:m𝼅▸ʎ▸𝼆▸ø▸ɶ▸ɷ▸q▸ɺ▸𝼈▸ɽ▸ɾ▸ʀ▸ʨ▸ʦ▸ꭧ▸ʧ▸ʈ▸ⱱ 107b2:9:mʏ▸ʡ▸ʢ▸ʘ▸ǀ▸ǁ▸ǂ▸𝼊▸𝼞 10800:6:v 10808:1:v
   1080a:2c:v 10837:2:v 1083c:1:v 1083f:17:v 10857:48:v 108a7:9:v 108e0:13:v 108f4:2:v 108fb:21:v
   1091f:1b:v 1093f:1b:v 10980:38:v 109bc:14:v 109d2:32:v 10a05:2:v 10a0c:8:v 10a15:3:v 10a19:1d:v
   10a38:3:v 10a3f:a:v 10a50:9:v 10a60:40:v 10ac0:27:v 10aeb:c:v 10b00:36:v 10b39:1d:v 10b58:1b:v
   10b78:1a:v 10b99:4:v 10ba9:7:v 10c00:49:v 10c80:33:s10cc0 10cc0:33:v 10cfa:2e:v 10d30:a:v
   10d40:10:v 10d50:16:s10d70 10d69:1d:v 10d8e:2:v 10e60:1f:v 10e80:2a:v 10eab:3:v 10eb0:2:v
   10ec2:6:v 10ed0:9:v 10efa:2e:v 10f30:2a:v 10f70:1a:v 10fb0:1c:v 10fe0:17:v 11000:4e:v 11052:24:v
   1107f:3e:v 110be:5:v 110d0:19:v 110f0:a:v 11100:35:v 11136:12:v 11150:27:v 11180:60:v 111e1:14:v
   11200:12:v 11213:2f:v 11280:7:v 11288:1:v 1128a:4:v 1128f:f:v 1129f:b:v 112b0:3b:v 112f0:a:v
   11300:4:v 11305:8:v 1130f:2:v 11313:16:v 1132a:7:v 11332:2:v 11335:5:v 1133b:a:v 11347:2:v
   1134b:3:v 11350:1:v 11357:1:v 1135d:7:v 11366:7:v 11370:5:v 11380:a:v 1138b:1:v 1138e:1:v
   11390:26:v 113b7:a:v 113c2:1:v 113c5:1:v 113c7:4:v 113cc:a:v 113d7:2:v 113e1:2:v 11400:5c:v
   1145d:5:v 11480:48:v 114d0:a:v 11580:36:v 115b8:26:v 11600:45:v 11650:a:v 11660:d:v 11680:3a:v
   116c0:a:v 116d0:14:v 11700:1b:v 1171d:f:v 11730:17:v 11800:3c:v 118a0:20:s118c0 118c0:33:v
   118ff:8:v 11909:1:v 1190c:8:v 11915:2:v 11918:1e:v 11937:2:v 1193b:c:v 11950:a:v 119a0:8:v
   119aa:2e:v 119da:b:v 11a00:48:v 11a50:53:v 11ab0:49:v 11b00:a:v 11b60:8:v 11bc0:22:v 11bf0:a:v
   11c00:9:v 11c0a:2d:v 11c38:e:v 11c50:1d:v 11c70:20:v 11c92:16:v 11ca9:e:v 11d00:7:v 11d08:2:v
   11d0b:2c:v 11d3a:1:v 11d3c:2:v 11d3f:9:v 11d50:a:v 11d60:6:v 11d67:2:v 11d6a:25:v 11d90:2:v
   11d93:6:v 11da0:a:v 11db0:2c:v 11de0:a:v 11ee0:19:v 11f00:11:v 11f12:29:v 11f3e:1d:v 11fb0:1:v
   11fc0:32:v 11fff:39b:v 12400:6f:v 12470:5:v 12480:c4:v 12f90:63:v 13000:430:v 13440:16:v
   13460:f9b:v 14400:247:v 16100:3a:v 16800:239:v 16a40:1f:v 16a60:a:v 16a6e:51:v 16ac0:a:v
   16ad0:1e:v 16af0:6:v 16b00:46:v 16b50:a:v 16b5b:7:v 16b63:15:v 16b7d:13:v 16d40:3a:v
   16e40:20:s16e60 16e60:3b:v 16ea0:19:s16ebb 16ebb:19:v 16f00:4b:v 16f4f:39:v 16f8f:11:v 16fe0:5:v
   16ff0:7:v 17000:1cd6:v 18cff:20:v 18d80:73:v 1aff0:4:v 1aff5:7:v 1affd:2:v 1b000:123:v 1b132:1:v
   1b150:3:v 1b155:1:v 1b164:4:v 1b170:18c:v 1bc00:6b:v 1bc70:d:v 1bc80:9:v 1bc90:a:v 1bc9c:4:v
   1bca0:4:i 1cc00:d6:v 1ccd6:1a:s61 1ccf0:a:s30 1ccfa:3:v 1cd00:1b4:v 1ceba:17:v 1cee0:11:v
   1cf00:2e:v 1cf30:17:v 1cf50:74:v 1d000:f6:v 1d100:27:v 1d129:35:v
   1d15e:7:m𝅗𝅥▸𝅘𝅥▸𝅘𝅥𝅮▸𝅘𝅥𝅯▸𝅘𝅥𝅰▸𝅘𝅥𝅱▸𝅘𝅥𝅲 1d165:e:v 1d173:8:i 1d17b:40:v 1d1bb:6:m𝆹𝅥▸𝆺𝅥▸𝆹𝅥𝅮▸𝆺𝅥𝅮▸𝆹𝅥𝅯▸𝆺𝅥𝅯
   1d1c1:2a:v 1d200:46:v 1d2c0:14:v 1d2e0:14:v 1d300:57:v 1d360:19:v 1d400:1a:s61 1d41a:1a:s61
   1d434:1a:s61 1d44e:7:s61 1d456:12:s69 1d468:1a:s61 1d482:1a:s61 1d49c:1:ma 1d49e:2:mc▸d
   1d4a2:1:mg 1d4a5:2:mj▸k 1d4a9:4:s6e 1d4ae:8:s73 1d4b6:4:s61 1d4bb:1:mf 1d4bd:7:s68 1d4c5:b:s70
   1d4d0:1a:s61 1d4ea:1a:s61 1d504:2:ma▸b 1d507:4:s64 1d50d:8:s6a 1d516:7:s73 1d51e:1a:s61
   1d538:2:ma▸b 1d53b:4:s64 1d540:5:s69 1d546:1:mo 1d54a:7:s73 1d552:1a:s61 1d56c:1a:s61
   1d586:1a:s61 1d5a0:1a:s61 1d5ba:1a:s61 1d5d4:1a:s61 1d5ee:1a:s61 1d608:1a:s61 1d622:1a:s61
   1d63c:1a:s61 1d656:1a:s61 1d670:1a:s61 1d68a:1a:s61 1d6a4:2:mı▸ȷ 1d6a8:11:s3b1 1d6b9:1:mθ
   1d6ba:7:s3c3 1d6c1:1:m∇ 1d6c2:11:s3b1 1d6d3:1:mσ 1d6d4:7:s3c3 1d6db:7:m∂▸ε▸θ▸κ▸φ▸ρ▸π
   1d6e2:11:s3b1 1d6f3:1:mθ 1d6f4:7:s3c3 1d6fb:1:m∇ 1d6fc:11:s3b1 1d70d:1:mσ 1d70e:7:s3c3
   1d715:7:m∂▸ε▸θ▸κ▸φ▸ρ▸π 1d71c:11:s3b1 1d72d:1:mθ 1d72e:7:s3c3 1d735:1:m∇ 1d736:11:s3b1 1d747:1:mσ
   1d748:7:s3c3 1d74f:7:m∂▸ε▸θ▸κ▸φ▸ρ▸π 1d756:11:s3b1 1d767:1:mθ 1d768:7:s3c3 1d76f:1:m∇
   1d770:11:s3b1 1d781:1:mσ 1d782:7:s3c3 1d789:7:m∂▸ε▸θ▸κ▸φ▸ρ▸π 1d790:11:s3b1 1d7a1:1:mθ
   1d7a2:7:s3c3 1d7a9:1:m∇ 1d7aa:11:s3b1 1d7bb:1:mσ 1d7bc:7:s3c3 1d7c3:9:m∂▸ε▸θ▸κ▸φ▸ρ▸π▸ϝ▸ϝ
   1d7ce:a:s30 1d7d8:a:s30 1d7e2:a:s30 1d7ec:a:s30 1d7f6:a:s30 1d800:28c:v 1da9b:5:v 1daa1:f:v
   1df00:1f:v 1df25:6:v 1e000:7:v 1e008:11:v 1e01b:7:v 1e023:2:v 1e026:5:v 1e030:9:s430
   1e039:3:s43a 1e03c:b:s43e 1e047:a:mы▸э▸ю▸ꚉ▸ә▸і▸ј▸ө▸ү▸ӏ 1e051:9:s430 1e05a:5:mк▸л▸о▸п▸с
   1e05f:6:s443 1e065:9:mъ▸ы▸ґ▸і▸ѕ▸џ▸ҫ▸ꙑ▸ұ 1e08f:1:v 1e100:2d:v 1e130:e:v 1e140:a:v 1e14e:2:v
   1e290:1f:v 1e2c0:3a:v 1e2ff:1:v 1e4d0:2a:v 1e5d0:2b:v 1e5ff:1:v 1e6c0:1f:v 1e6e0:16:v 1e6fe:2:v
   1e7e0:7:v 1e7e8:4:v 1e7ed:2:v 1e7f0:f:v 1e800:c5:v 1e8c7:10:v 1e900:22:s1e922 1e922:2a:v
   1e950:a:v 1e95e:2:v 1ec71:44:v 1ed01:3d:v 1ee00:4:mا▸ب▸ج▸د
   1ee05:18:mو▸ز▸ح▸ط▸ي▸ك▸ل▸م▸ن▸س▸ع▸ف▸ص▸ق▸ر▸ش▸ت▸ث▸خ▸ذ▸ض▸ظ▸غ▸ٮ 1ee1d:3:mں▸ڡ▸ٯ 1ee21:2:mب▸ج 1ee24:1:mه
   1ee27:1:mح 1ee29:a:mي▸ك▸ل▸م▸ن▸س▸ع▸ف▸ص▸ق 1ee34:4:mش▸ت▸ث▸خ 1ee39:1:mض 1ee3b:1:mغ 1ee42:1:mج
   1ee47:1:mح 1ee49:1:mي 1ee4b:1:mل 1ee4d:3:mن▸س▸ع 1ee51:2:mص▸ق 1ee54:1:mش 1ee57:1:mخ 1ee59:1:mض
   1ee5b:1:mغ 1ee5d:1:mں 1ee5f:1:mٯ 1ee61:2:mب▸ج 1ee64:1:mه 1ee67:4:mح▸ط▸ي▸ك 1ee6c:7:mم▸ن▸س▸ع▸ف▸ص▸ق
   1ee74:4:mش▸ت▸ث▸خ 1ee79:4:mض▸ظ▸غ▸ٮ 1ee7e:1:mڡ 1ee80:a:mا▸ب▸ج▸د▸ه▸و▸ز▸ح▸ط▸ي 1ee8b:3:s644
   1ee8e:e:mس▸ع▸ف▸ص▸ق▸ر▸ش▸ت▸ث▸خ▸ذ▸ض▸ظ▸غ 1eea1:3:mب▸ج▸د 1eea5:5:mو▸ز▸ح▸ط▸ي 1eeab:3:s644
   1eeae:e:mس▸ع▸ف▸ص▸ق▸ر▸ش▸ت▸ث▸خ▸ذ▸ض▸ظ▸غ 1eef0:2:v 1f000:2c:v 1f030:64:v 1f0a0:f:v 1f0b1:f:v
   1f0c1:f:v 1f0d1:25:v 1f101:a:m0,▸1,▸2,▸3,▸4,▸5,▸6,▸7,▸8,▸9, 1f10b:5:v
   1f110:18:m(a)▸(b)▸(c)▸(d)▸(e)▸(f)▸(g)▸(h)▸(i)▸(j)▸(k)▸(l)▸(m)▸(n)▸(o)▸(p)▸(q)▸(r)▸(s)▸(t)▸(u)▸(v)▸(w)▸(x)
   1f128:7:m(y)▸(z)▸〔s〕▸c▸r▸cd▸wz 1f12f:1:v 1f130:1a:s61 1f14a:6:mhv▸mv▸sd▸ss▸ppv▸wc 1f150:1a:v
   1f16a:3:mmc▸md▸mr 1f16d:23:v 1f190:1:mdj 1f191:1d:v 1f1e6:1a:v 1f200:3:mほか▸ココ▸サ
   1f210:18:m手▸字▸双▸デ▸二▸多▸解▸天▸交▸映▸無▸料▸前▸後▸再▸新▸初▸終▸生▸販▸声▸吹▸演▸投
   1f228:14:m捕▸一▸三▸遊▸左▸中▸右▸指▸走▸打▸禁▸空▸合▸満▸有▸月▸申▸割▸営▸配 1f240:9:m〔本〕▸〔三〕▸〔二〕▸〔安〕▸〔点〕▸〔打〕▸〔盗〕▸〔勝〕▸〔敗〕
   1f250:2:m得▸可 1f260:6:v 1f300:3d9:v 1f6dc:11:v 1f6f0:d:v 1f700:da:v 1f7e0:c:v 1f7f0:1:v 1f800:c:v
   1f810:38:v 1f850:a:v 1f860:28:v 1f890:1e:v 1f8b0:c:v 1f8c0:2:v 1f8d0:9:v 1f900:158:v 1fa60:e:v
   1fa70:d:v 1fa80:b:v 1fa8e:39:v 1fac8:1:v 1facd:10:v 1fadf:c:v 1faef:a:v 1fb00:93:v 1fb94:5c:v
   1fbf0:a:s30 1fbfa:1:v 20000:a6e0:v 2a700:111e:v 2b820:168e:v 2ceb0:1d31:v 2ebf0:26e:v
   2f800:18:m丽▸丸▸乁▸𠄢▸你▸侮▸侻▸倂▸偺▸備▸僧▸像▸㒞▸𠘺▸免▸兔▸兤▸具▸𠔜▸㒹▸內▸再▸𠕋▸冗
   2f818:18:m冤▸仌▸冬▸况▸𩇟▸凵▸刃▸㓟▸刻▸剆▸割▸剷▸㔕▸勇▸勉▸勤▸勺▸包▸匆▸北▸卉▸卑▸博▸即
   2f830:18:m卽▸卿▸卿▸卿▸𠨬▸灰▸及▸叟▸𠭣▸叫▸叱▸吆▸咞▸吸▸呈▸周▸咢▸哶▸唐▸啓▸啣▸善▸善▸喙
   2f848:18:m喫▸喳▸嗂▸圖▸嘆▸圗▸噑▸噴▸切▸壮▸城▸埴▸堍▸型▸堲▸報▸墬▸𡓤▸売▸壷▸夆▸多▸夢▸奢
   2f860:18:m𡚨▸𡛪▸姬▸娛▸娧▸姘▸婦▸㛮▸㛼▸嬈▸嬾▸嬾▸𡧈▸寃▸寘▸寧▸寳▸𡬘▸寿▸将▸当▸尢▸㞁▸屠
   2f878:18:m屮▸峀▸岍▸𡷤▸嵃▸𡷦▸嵮▸嵫▸嵼▸巡▸巢▸㠯▸巽▸帨▸帽▸幩▸㡢▸𢆃▸㡼▸庰▸庳▸庶▸廊▸𪎒
   2f890:18:m廾▸𢌱▸𢌱▸舁▸弢▸弢▸㣇▸𣊸▸𦇚▸形▸彫▸㣣▸徚▸忍▸志▸忹▸悁▸㤺▸㤜▸悔▸𢛔▸惇▸慈▸慌
   2f8a8:18:m慎▸慌▸慺▸憎▸憲▸憤▸憯▸懞▸懲▸懶▸成▸戛▸扝▸抱▸拔▸捐▸𢬌▸挽▸拼▸捨▸掃▸揤▸𢯱▸搢
   2f8c0:18:m揅▸掩▸㨮▸摩▸摾▸撝▸摷▸㩬▸敏▸敬▸𣀊▸旣▸書▸晉▸㬙▸暑▸㬈▸㫤▸冒▸冕▸最▸暜▸肭▸䏙
   2f8d8:18:m朗▸望▸朡▸杞▸杓▸𣏃▸㭉▸柺▸枅▸桒▸梅▸𣑭▸梎▸栟▸椔▸㮝▸楂▸榣▸槪▸檨▸𣚣▸櫛▸㰘▸次
   2f8f0:18:m𣢧▸歔▸㱎▸歲▸殟▸殺▸殻▸𣪍▸𡴋▸𣫺▸汎▸𣲼▸沿▸泍▸汧▸洖▸派▸海▸流▸浩▸浸▸涅▸𣴞▸洴
   2f908:18:m港▸湮▸㴳▸滋▸滇▸𣻑▸淹▸潮▸𣽞▸𣾎▸濆▸瀹▸瀞▸瀛▸㶖▸灊▸災▸灷▸炭▸𠔥▸煅▸𤉣▸熜▸𤎫
   2f920:18:m爨▸爵▸牐▸𤘈▸犀▸犕▸𤜵▸𤠔▸獺▸王▸㺬▸玥▸㺸▸㺸▸瑇▸瑜▸瑱▸璅▸瓊▸㼛▸甤▸𤰶▸甾▸𤲒
   2f938:18:m異▸𢆟▸瘐▸𤾡▸𤾸▸𥁄▸㿼▸䀈▸直▸𥃳▸𥃲▸𥄙▸𥄳▸眞▸真▸真▸睊▸䀹▸瞋▸䁆▸䂖▸𥐝▸硎▸碌
   2f950:18:m磌▸䃣▸𥘦▸祖▸𥚚▸𥛅▸福▸秫▸䄯▸穀▸穊▸穏▸𥥼▸𥪧▸𥪧▸竮▸䈂▸𥮫▸篆▸築▸䈧▸𥲀▸糒▸䊠
   2f968:18:m糨▸糣▸紀▸𥾆▸絣▸䌁▸緇▸縂▸繅▸䌴▸𦈨▸𦉇▸䍙▸𦋙▸罺▸𦌾▸羕▸翺▸者▸𦓚▸𦔣▸聠▸𦖨▸聰
   2f980:18:m𣍟▸䏕▸育▸脃▸䐋▸脾▸媵▸𦞧▸𦞵▸𣎓▸𣎜▸舁▸舄▸辞▸䑫▸芑▸芋▸芝▸劳▸花▸芳▸芽▸苦▸𦬼
   2f998:18:m若▸茝▸荣▸莭▸茣▸莽▸菧▸著▸荓▸菊▸菌▸菜▸𦰶▸𦵫▸𦳕▸䔫▸蓱▸蓳▸蔖▸𧏊▸蕤▸𦼬▸䕝▸䕡
   2f9b0:18:m𦾱▸𧃒▸䕫▸虐▸虜▸虧▸虩▸蚩▸蚈▸蜎▸蛢▸蝹▸蜨▸蝫▸螆▸䗗▸蟡▸蠁▸䗹▸衠▸衣▸𧙧▸裗▸裞
   2f9c8:18:m䘵▸裺▸㒻▸𧢮▸𧥦▸䚾▸䛇▸誠▸諭▸變▸豕▸𧲨▸貫▸賁▸贛▸起▸𧼯▸𠠄▸跋▸趼▸跰▸𠣞▸軔▸輸
   2f9e0:18:m𨗒▸𨗭▸邔▸郱▸鄑▸𨜮▸鄛▸鈸▸鋗▸鋘▸鉼▸鏹▸鐕▸𨯺▸開▸䦕▸閷▸𨵷▸䧦▸雃▸嶲▸霣▸𩅅▸𩈚
   2f9f8:18:m䩮▸䩶▸韠▸𩐊▸䪲▸𩒖▸頋▸頋▸頩▸𩖶▸飢▸䬳▸餩▸馧▸駂▸駾▸䯎▸𩬰▸鬒▸鱀▸鳽▸䳎▸䳭▸鵧 2fa10:e:m𪃎▸䳸▸𪄅▸𪈎▸𪊑▸麻▸䵖▸黹▸黾▸鼅▸鼏▸鼖▸鼻▸𪘀
   30000:134b:v 31350:212a:v e0100:f0:i"

end AutoProxy.Domain.Table
