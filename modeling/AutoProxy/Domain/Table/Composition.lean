/-!
Characters that stand for a character with a mark, and the classes by which marks are ordered.

A row of `pairs` holds a mark and, two by two, the characters that it can follow with what they
become. A row of `classes` holds the first character and the count of a range and its class, a
number; characters in no range have class zero.
-/

namespace AutoProxy.Domain.Table

def pairs : String :=
  "300:AÀEÈIÌOÒUÙaàeèiìoòuùÜǛüǜNǸnǹЕЀИЍеѐиѝĒḔēḕŌṐōṑWẀwẁÂẦâầĂẰăằÊỀêề
   300:ÔỒôồƠỜơờƯỪưừYỲyỳἀἂἁἃἈἊἉἋἐἒἑἓἘἚἙἛἠἢἡἣἨἪἩἫἰἲἱἳἸἺἹἻὀὂὁὃὈὊὉὋὐὒὑὓ
   300:ὙὛὠὢὡὣὨὪὩὫαὰεὲηὴιὶοὸυὺωὼΑᾺΕῈΗῊ᾿῍ϊῒΙῚ῾῝ϋῢΥῪ¨῭ΟῸΩῺ
   301:AÁEÉIÍOÓUÚYÝaáeéiíoóuúyýCĆcćLĹlĺNŃnńRŔrŕSŚsśZŹzźÜǗüǘGǴgǵÅǺåǻ
   301:ÆǼæǽØǾøǿ¨΅ΑΆΕΈΗΉΙΊΟΌΥΎΩΏϊΐαάεέηήιίϋΰοόυύωώϒϓГЃКЌгѓкќÇḈçḉĒḖēḗ
   301:ÏḮïḯKḰkḱMḾmḿÕṌõṍŌṒōṓPṔpṕŨṸũṹWẂwẃÂẤâấĂẮăắÊẾêếÔỐôốƠỚơớƯỨưứἀἄἁἅ
   301:ἈἌἉἍἐἔἑἕἘἜἙἝἠἤἡἥἨἬἩἭἰἴἱἵἸἼἹἽὀὄὁὅὈὌὉὍὐὔὑὕὙὝὠὤὡὥὨὬὩὭ᾿῎῾῞
   302:AÂEÊIÎOÔUÛaâeêiîoôuûCĈcĉGĜgĝHĤhĥJĴjĵSŜsŝWŴwŵYŶyŷZẐzẑẠẬạậẸỆẹệ 302:ỌỘọộ
   303:AÃNÑOÕaãnñoõIĨiĩUŨuũVṼvṽÂẪâẫĂẴăẵEẼeẽÊỄêễÔỖôỗƠỠơỡƯỮưữYỸyỹ
   304:AĀaāEĒeēIĪiīOŌoōUŪuūÜǕüǖÄǞäǟȦǠȧǡÆǢæǣǪǬǫǭÖȪöȫÕȬõȭȮȰȯȱYȲyȳИӢиӣ
   304:УӮуӯGḠgḡḶḸḷḹṚṜṛṝαᾱΑᾹιῑΙῙυῡΥῩ
   306:AĂaăEĔeĕGĞgğIĬiĭOŎoŏUŬuŭУЎИЙийуўЖӁжӂАӐаӑЕӖеӗȨḜȩḝẠẶạặαᾰΑᾸιῐΙῘ 306:υῠΥῨ
   307:CĊcċEĖeėGĠgġIİZŻzżAȦaȧOȮoȯBḂbḃDḊdḋFḞfḟHḢhḣMṀmṁNṄnṅPṖpṗRṘrṙSṠ
   307:sṡŚṤśṥŠṦšṧṢṨṣṩTṪtṫWẆwẇXẊxẋYẎyẏſẛ
   308:AÄEËIÏOÖUÜaäeëiïoöuüyÿYŸΙΪΥΫιϊυϋϒϔЕЁІЇеёіїАӒаӓӘӚәӛЖӜжӝЗӞзӟИӤ
   308:иӥОӦоӧӨӪөӫЭӬэӭУӰуӱЧӴчӵЫӸыӹHḦhḧÕṎõṏŪṺūṻWẄwẅXẌxẍtẗ
   309:AẢaảÂẨâẩĂẲăẳEẺeẻÊỂêểIỈiỉOỎoỏÔỔôổƠỞơởUỦuủƯỬưửYỶyỷ 30a:AÅaåUŮuůwẘyẙ 30b:OŐoőUŰuűУӲуӳ
   30c:CČcčDĎdďEĚeěLĽlľNŇnňRŘrřSŠsšTŤtťZŽzžAǍaǎIǏiǐOǑoǒUǓuǔÜǙüǚGǦgǧ 30c:KǨkǩƷǮʒǯjǰHȞhȟ
   30f:AȀaȁEȄeȅIȈiȉOȌoȍRȐrȑUȔuȕѴѶѵѷ 311:AȂaȃEȆeȇIȊiȋOȎoȏRȒrȓUȖuȗ 313:αἀΑἈεἐΕἘηἠΗἨιἰΙἸοὀΟὈυὐωὠΩὨρῤ
   314:αἁΑἉεἑΕἙηἡΗἩιἱΙἹοὁΟὉυὑΥὙωὡΩὩρῥΡῬ 31b:OƠoơUƯuư
   323:BḄbḅDḌdḍHḤhḥKḲkḳLḶlḷMṂmṃNṆnṇRṚrṛSṢsṣTṬtṭVṾvṿWẈwẉZẒzẓAẠaạEẸeẹ 323:IỊiịOỌoọƠỢơợUỤuụƯỰưựYỴyỵ
   324:UṲuṳ 325:AḀaḁ 326:SȘsșTȚtț 327:CÇcçGĢgģKĶkķLĻlļNŅnņRŖrŗSŞsşTŢtţEȨeȩDḐdḑHḨhḩ
   328:AĄaąEĘeęIĮiįUŲuųOǪoǫ 32d:DḒdḓEḘeḙLḼlḽNṊnṋTṰtṱUṶuṷ 32e:HḪhḫ 330:EḚeḛIḬiḭUṴuṵ
   331:BḆbḇDḎdḏKḴkḵLḺlḻNṈnṉRṞrṟTṮtṯZẔzẕhẖ
   338:←↚→↛↔↮⇐⇍⇔⇎⇒⇏∃∄∈∉∋∌∣∤∥∦∼≁≃≄≅≇≈≉=≠≡≢≍≭<≮>≯≤≰≥≱≲≴≳≵≶≸≷≹≺⊀≻⊁⊂⊄⊃⊅
   338:⊆⊈⊇⊉⊢⊬⊨⊭⊩⊮⊫⊯≼⋠≽⋡⊑⋢⊒⋣⊲⋪⊳⋫⊴⋬⊵⋭ 342:ἀἆἁἇἈἎἉἏἠἦἡἧἨἮἩἯἰἶἱἷἸἾἹἿὐὖὑὗὙὟὠὦὡὧὨὮὩὯαᾶ¨῁ηῆ᾿῏ιῖϊῗ῾῟υῦϋῧωῶ
   345:ἀᾀἁᾁἂᾂἃᾃἄᾄἅᾅἆᾆἇᾇἈᾈἉᾉἊᾊἋᾋἌᾌἍᾍἎᾎἏᾏἠᾐἡᾑἢᾒἣᾓἤᾔἥᾕἦᾖἧᾗἨᾘἩᾙἪᾚἫᾛἬᾜἭᾝ
   345:ἮᾞἯᾟὠᾠὡᾡὢᾢὣᾣὤᾤὥᾥὦᾦὧᾧὨᾨὩᾩὪᾪὫᾫὬᾬὭᾭὮᾮὯᾯὰᾲαᾳάᾴᾶᾷΑᾼὴῂηῃήῄῆῇΗῌὼῲωῳ 345:ώῴῶῷΩῼ 653:اآ
   654:اأوؤيئەۀہۂےۓ 655:اإ 93c:नऩरऱळऴ 9be:\u09C7\u09CB 9d7:\u09C7\u09CC b3e:\u0B47\u0B4B
   b56:\u0B47\u0B48 b57:\u0B47\u0B4C bbe:\u0BC6\u0BCA\u0BC7\u0BCB bd7:ஒஔ\u0BC6\u0BCC
   c56:\u0C46\u0C48 cc2:\u0CC6\u0CCA cd5:\u0CBF\u0CC0\u0CC6\u0CC7\u0CCA\u0CCB cd6:\u0CC6\u0CC8
   d3e:\u0D46\u0D4A\u0D47\u0D4B d57:\u0D46\u0D4C dca:\u0DD9\u0DDA\u0DDC\u0DDD dcf:\u0DD9\u0DDC
   ddf:\u0DD9\u0DDE 102e:ဥဦ
   1b35:ᬅᬆᬇᬈᬉᬊᬋᬌᬍᬎᬑᬒ\u1B3A\u1B3B\u1B3C\u1B3D\u1B3E\u1B40\u1B3F\u1B41\u1B42\u1B43
   3099:かがきぎくぐけげこごさざしじすずせぜそぞただちぢつづてでとどはばひびふぶへべほぼうゔゝゞカガキギクグケゲコゴサザシジスズ
   3099:セゼソゾタダチヂツヅテデトドハバヒビフブヘベホボウヴワヷヰヸヱヹヲヺヽヾ 309a:はぱひぴふぷへぺほぽハパヒピフプヘペホポ 110ba:𑂙𑂚𑂛𑂜𑂥𑂫 11127:𑄱𑄮𑄲𑄯
   1133e:𑍇𑍋 11357:𑍇𑍌 114b0:𑒹𑒼 114ba:𑒹𑒻 114bd:𑒹𑒾 115af:𑖸𑖺𑖹𑖻 11930:𑤵𑤸"

def classes : String :=
  "300:15:230 315:1:232 316:4:220 31a:1:232 31b:1:216 31c:5:220 321:2:202 323:4:220 327:2:202
   329:b:220 334:5:1 339:4:220 33d:8:230 345:1:240 346:1:230 347:3:220 34a:3:230 34d:2:220
   350:3:230 353:4:220 357:1:230 358:1:232 359:2:220 35b:1:230 35c:1:233 35d:2:234 35f:1:233
   360:2:234 362:1:233 363:d:230 483:5:230 591:1:220 592:4:230 596:1:220 597:3:230 59a:1:222
   59b:1:220 59c:6:230 5a2:6:220 5a8:2:230 5aa:1:220 5ab:2:230 5ad:1:222 5ae:1:228 5af:1:230
   5b0:1:10 5b1:1:11 5b2:1:12 5b3:1:13 5b4:1:14 5b5:1:15 5b6:1:16 5b7:1:17 5b8:1:18 5b9:2:19
   5bb:1:20 5bc:1:21 5bd:1:22 5bf:1:23 5c1:1:24 5c2:1:25 5c4:1:230 5c5:1:220 5c7:1:18 610:8:230
   618:1:30 619:1:31 61a:1:32 64b:1:27 64c:1:28 64d:1:29 64e:1:30 64f:1:31 650:1:32 651:1:33
   652:1:34 653:2:230 655:2:220 657:5:230 65c:1:220 65d:2:230 65f:1:220 670:1:35 6d6:7:230
   6df:4:230 6e3:1:220 6e4:1:230 6e7:2:230 6ea:1:220 6eb:2:230 6ed:1:220 711:1:36 730:1:230
   731:1:220 732:2:230 734:1:220 735:2:230 737:3:220 73a:1:230 73b:2:220 73d:1:230 73e:1:220
   73f:3:230 742:1:220 743:1:230 744:1:220 745:1:230 746:1:220 747:1:230 748:1:220 749:2:230
   7eb:7:230 7f2:1:220 7f3:1:230 7fd:1:220 816:4:230 81b:9:230 825:3:230 829:5:230 859:3:220
   898:1:230 899:3:220 89c:4:230 8ca:5:230 8cf:5:220 8d4:e:230 8e3:1:220 8e4:2:230 8e6:1:220
   8e7:2:230 8e9:1:220 8ea:3:230 8ed:3:220 8f0:1:27 8f1:1:28 8f2:1:29 8f3:3:230 8f6:1:220 8f7:2:230
   8f9:2:220 8fb:5:230 93c:1:7 94d:1:9 951:1:230 952:1:220 953:2:230 9bc:1:7 9cd:1:9 9fe:1:230
   a3c:1:7 a4d:1:9 abc:1:7 acd:1:9 b3c:1:7 b4d:1:9 bcd:1:9 c3c:1:7 c4d:1:9 c55:1:84 c56:1:91
   cbc:1:7 ccd:1:9 d3b:2:9 d4d:1:9 dca:1:9 e38:2:103 e3a:1:9 e48:4:107 eb8:2:118 eba:1:9 ec8:4:122
   f18:2:220 f35:1:220 f37:1:220 f39:1:216 f71:1:129 f72:1:130 f74:1:132 f7a:4:130 f80:1:130
   f82:2:230 f84:1:9 f86:2:230 fc6:1:220 1037:1:7 1039:2:9 108d:1:220 135d:3:230 1714:2:9 1734:1:9
   17d2:1:9 17dd:1:230 18a9:1:228 1939:1:222 193a:1:230 193b:1:220 1a17:1:230 1a18:1:220 1a60:1:9
   1a75:8:230 1a7f:1:220 1ab0:5:230 1ab5:6:220 1abb:2:230 1abd:1:220 1abf:2:220 1ac1:2:230
   1ac3:2:220 1ac5:5:230 1aca:1:220 1acb:4:230 1b34:1:7 1b44:1:9 1b6b:1:230 1b6c:1:220 1b6d:7:230
   1baa:2:9 1be6:1:7 1bf2:2:9 1c37:1:7 1cd0:3:230 1cd4:1:1 1cd5:5:220 1cda:2:230 1cdc:4:220
   1ce0:1:230 1ce2:7:1 1ced:1:220 1cf4:1:230 1cf8:2:230 1dc0:2:230 1dc2:1:220 1dc3:7:230 1dca:1:220
   1dcb:2:230 1dcd:1:234 1dce:1:214 1dcf:1:220 1dd0:1:202 1dd1:25:230 1df6:1:232 1df7:2:228
   1df9:1:220 1dfa:1:218 1dfb:1:230 1dfc:1:233 1dfd:1:220 1dfe:1:230 1dff:1:220 20d0:2:230 20d2:2:1
   20d4:4:230 20d8:3:1 20db:2:230 20e1:1:230 20e5:2:1 20e7:1:230 20e8:1:220 20e9:1:230 20ea:2:1
   20ec:4:220 20f0:1:230 2cef:3:230 2d7f:1:9 2de0:20:230 302a:1:218 302b:1:228 302c:1:232
   302d:1:222 302e:2:224 3099:2:8 a66f:1:230 a674:a:230 a69e:2:230 a6f0:2:230 a806:1:9 a82c:1:9
   a8c4:1:9 a8e0:12:230 a92b:3:220 a953:1:9 a9b3:1:7 a9c0:1:9 aab0:1:230 aab2:2:230 aab4:1:220
   aab7:2:230 aabe:2:230 aac1:1:230 aaf6:1:9 abed:1:9 fb1e:1:26 fe20:7:230 fe27:7:220 fe2e:2:230
   101fd:1:220 102e0:1:220 10376:5:230 10a0d:1:220 10a0f:1:230 10a38:1:230 10a39:1:1 10a3a:1:220
   10a3f:1:9 10ae5:1:230 10ae6:1:220 10d24:4:230 10eab:2:230 10efd:3:220 10f46:2:220 10f48:3:230
   10f4b:1:220 10f4c:1:230 10f4d:4:220 10f82:1:230 10f83:1:220 10f84:1:230 10f85:1:220 11046:1:9
   11070:1:9 1107f:1:9 110b9:1:9 110ba:1:7 11100:3:230 11133:2:9 11173:1:7 111c0:1:9 111ca:1:7
   11235:1:9 11236:1:7 112e9:1:7 112ea:1:9 1133b:2:7 1134d:1:9 11366:f:230 11442:1:9 11446:1:7
   1145e:1:230 114c2:1:9 114c3:1:7 115bf:1:9 115c0:1:7 1163f:1:9 116b6:1:9 116b7:1:7 1172b:1:9
   11839:1:9 1183a:1:7 1193d:2:9 11943:1:7 119e0:1:9 11a34:1:9 11a47:1:9 11a99:1:9 11c3f:1:9
   11d42:1:7 11d44:2:9 11d97:1:9 11f41:2:9 16af0:5:1 16b30:7:230 16ff0:2:6 1bc9e:1:1 1d165:2:216
   1d167:3:1 1d16d:1:226 1d16e:5:216 1d17b:8:220 1d185:5:230 1d18a:2:220 1d1aa:4:230 1d242:3:230
   1e000:2b:230 1e08f:1:230 1e130:7:230 1e2ae:1:230 1e2ec:4:230 1e4ec:2:232 1e4ee:1:220 1e4ef:1:230
   1e8d0:7:220 1e944:6:230 1e94a:1:7"

end AutoProxy.Domain.Table
