/-!
# Characters written with a mark

For each mark, the characters that it changes and what they are then, side by side. A mark may have
several entries.
-/

namespace SymbolAtlas.Text.Composed

def pairsByMark : List (Nat × String) :=
  [(768, "AÀEÈIÌNǸOÒUÙWẀYỲaàeèiìnǹoòuùwẁyỳ¨῭ÂẦÊỀÔỒÜǛâầêềôồüǜĂẰăằĒḔēḕŌṐōṑƠỜơờƯỪưừΑᾺΕῈΗῊΙῚ"),
   (768, "ΟῸΥῪΩῺαὰεὲηὴιὶοὸυὺωὼϊῒϋῢЕЀИЍеѐиѝἀἂἁἃἈἊἉἋἐἒἑἓἘἚἙἛἠἢἡἣἨἪἩἫἰἲἱἳἸἺἹἻὀὂὁὃὈὊὉὋὐὒὑὓὙὛ"),
   (768, "ὠὢὡὣὨὪὩὫ᾿῍῾῝"),
   (769, "AÁCĆEÉGǴIÍKḰLĹMḾNŃOÓPṔRŔSŚUÚWẂYÝZŹaácćeégǵiíkḱlĺmḿnńoópṕrŕsśuúwẃyýzź¨΅ÂẤÅǺÆǼÇḈ"),
   (769, "ÊẾÏḮÔỐÕṌØǾÜǗâấåǻæǽçḉêếïḯôốõṍøǿüǘĂẮăắĒḖēḗŌṒōṓŨṸũṹƠỚơớƯỨưứΑΆΕΈΗΉΙΊΟΌΥΎΩΏαάεέηήιί"),
   (769, "οόυύωώϊΐϋΰϒϓГЃКЌгѓкќἀἄἁἅἈἌἉἍἐἔἑἕἘἜἙἝἠἤἡἥἨἬἩἭἰἴἱἵἸἼἹἽὀὄὁὅὈὌὉὍὐὔὑὕὙὝὠὤὡὥὨὬὩὭ᾿῎῾῞"),
   (770, "AÂCĈEÊGĜHĤIÎJĴOÔSŜUÛWŴYŶZẐaâcĉeêgĝhĥiîjĵoôsŝuûwŵyŷzẑẠẬạậẸỆẹệỌỘọộ"),
   (771, "AÃEẼIĨNÑOÕUŨVṼYỸaãeẽiĩnñoõuũvṽyỹÂẪÊỄÔỖâẫêễôỗĂẴăẵƠỠơỡƯỮưữ"),
   (772, "AĀEĒGḠIĪOŌUŪYȲaāeēgḡiīoōuūyȳÄǞÆǢÕȬÖȪÜǕäǟæǣõȭöȫüǖǪǬǫǭȦǠȧǡȮȰȯȱΑᾹΙῙΥῩαᾱιῑυῡИӢУӮиӣ"),
   (772, "уӯḶḸḷḹṚṜṛṝ"), (774, "AĂEĔGĞIĬOŎUŬaăeĕgğiĭoŏuŭȨḜȩḝΑᾸΙῘΥῨαᾰιῐυῠАӐЕӖЖӁИЙУЎаӑеӗжӂийуўẠẶạặ"),
   (775, "AȦBḂCĊDḊEĖFḞGĠHḢIİMṀNṄOȮPṖRṘSṠTṪWẆXẊYẎZŻaȧbḃcċdḋeėfḟgġhḣmṁnṅoȯpṗrṙsṡtṫwẇxẋyẏzż"),
   (775, "ŚṤśṥŠṦšṧſẛṢṨṣṩ𐗒𐗉𐗚𐗤"),
   (776, "AÄEËHḦIÏOÖUÜWẄXẌYŸaäeëhḧiïoötẗuüwẅxẍyÿÕṎõṏŪṺūṻΙΪΥΫιϊυϋϒϔІЇАӒЕЁЖӜЗӞИӤОӦУӰЧӴЫӸЭӬ"),
   (776, "аӓеёжӝзӟиӥоӧуӱчӵыӹэӭіїӘӚәӛӨӪөӫ"),
   (777, "AẢEẺIỈOỎUỦYỶaảeẻiỉoỏuủyỷÂẨÊỂÔỔâẩêểôổĂẲăẳƠỞơởƯỬưử"), (778, "AÅUŮaåuůwẘyẙ"),
   (779, "OŐUŰoőuűУӲуӳ"),
   (780, "AǍCČDĎEĚGǦHȞIǏKǨLĽNŇOǑRŘSŠTŤUǓZŽaǎcčdďeěgǧhȟiǐjǰkǩlľnňoǒrřsštťuǔzžÜǙüǚƷǮʒǯ"),
   (783, "AȀEȄIȈOȌRȐUȔaȁeȅiȉoȍrȑuȕѴѶѵѷ"), (785, "AȂEȆIȊOȎRȒUȖaȃeȇiȋoȏrȓuȗ"),
   (787, "ΑἈΕἘΗἨΙἸΟὈΩὨαἀεἐηἠιἰοὀρῤυὐωὠ"), (788, "ΑἉΕἙΗἩΙἹΟὉΡῬΥὙΩὩαἁεἑηἡιἱοὁρῥυὑωὡ"),
   (795, "OƠUƯoơuư"),
   (803, "AẠBḄDḌEẸHḤIỊKḲLḶMṂNṆOỌRṚSṢTṬUỤVṾWẈYỴZẒaạbḅdḍeẹhḥiịkḳlḷmṃnṇoọrṛsṣtṭuụvṿwẉyỵzẓƠỢ"),
   (803, "ơợƯỰưự"), (804, "UṲuṳ"), (805, "AḀaḁ"), (806, "SȘTȚsștț"),
   (807, "CÇDḐEȨGĢHḨKĶLĻNŅRŖSŞTŢcçdḑeȩgģhḩkķlļnņrŗsştţ"), (808, "AĄEĘIĮOǪUŲaąeęiįoǫuų"),
   (813, "DḒEḘLḼNṊTṰUṶdḓeḙlḽnṋtṱuṷ"), (814, "HḪhḫ"), (816, "EḚIḬUṴeḛiḭuṵ"),
   (817, "BḆDḎKḴLḺNṈRṞTṮZẔbḇdḏhẖkḵlḻnṉrṟtṯzẕ"),
   (824, "<≮=≠>≯←↚→↛↔↮⇐⇍⇒⇏⇔⇎∃∄∈∉∋∌∣∤∥∦∼≁≃≄≅≇≈≉≍≭≡≢≤≰≥≱≲≴≳≵≶≸≷≹≺⊀≻⊁≼⋠≽⋡⊂⊄⊃⊅⊆⊈⊇⊉⊑⋢⊒⋣⊢⊬⊨⊭⊩⊮"),
   (824, "⊫⊯⊲⋪⊳⋫⊴⋬⊵⋭"), (834, "¨῁αᾶηῆιῖυῦωῶϊῗϋῧἀἆἁἇἈἎἉἏἠἦἡἧἨἮἩἯἰἶἱἷἸἾἹἿὐὖὑὗὙὟὠὦὡὧὨὮὩὯ᾿῏῾῟"),
   (837, "ΑᾼΗῌΩῼάᾴήῄαᾳηῃωῳώῴἀᾀἁᾁἂᾂἃᾃἄᾄἅᾅἆᾆἇᾇἈᾈἉᾉἊᾊἋᾋἌᾌἍᾍἎᾎἏᾏἠᾐἡᾑἢᾒἣᾓἤᾔἥᾕἦᾖἧᾗἨᾘἩᾙἪᾚἫᾛἬᾜἭᾝ"),
   (837, "ἮᾞἯᾟὠᾠὡᾡὢᾢὣᾣὤᾤὥᾥὦᾦὧᾧὨᾨὩᾩὪᾪὫᾫὬᾬὭᾭὮᾮὯᾯὰᾲὴῂὼῲᾶᾷῆῇῶῷ"), (1619, "\u0627\u0622"),
   (1620, "\u0627\u0623\u0648\u0624\u064A\u0626\u06C1\u06C2\u06D2\u06D3\u06D5\u06C0"),
   (1621, "\u0627\u0625"), (2364, "\u0928\u0929\u0930\u0931\u0933\u0934"), (2494, "\u09C7\u09CB"),
   (2519, "\u09C7\u09CC"), (2878, "\u0B47\u0B4B"), (2902, "\u0B47\u0B48"), (2903, "\u0B47\u0B4C"),
   (3006, "\u0BC6\u0BCA\u0BC7\u0BCB"), (3031, "\u0B92\u0B94\u0BC6\u0BCC"), (3158, "\u0C46\u0C48"),
   (3266, "\u0CC6\u0CCA"), (3285, "\u0CBF\u0CC0\u0CC6\u0CC7\u0CCA\u0CCB"), (3286, "\u0CC6\u0CC8"),
   (3390, "\u0D46\u0D4A\u0D47\u0D4B"), (3415, "\u0D46\u0D4C"), (3530, "\u0DD9\u0DDA\u0DDC\u0DDD"),
   (3535, "\u0DD9\u0DDC"), (3551, "\u0DD9\u0DDE"), (4142, "ဥဦ"),
   (6965, "ᬅᬆᬇᬈᬉᬊᬋᬌᬍᬎᬑᬒ\u1B3A\u1B3B\u1B3C\u1B3D\u1B3E\u1B40\u1B3F\u1B41\u1B42\u1B43"),
   (12441, "うゔかがきぎくぐけげこごさざしじすずせぜそぞただちぢつづてでとどはばひびふぶへべほぼゝゞウヴカガキギクグケゲコゴサザシジスズセゼソゾタダチヂツヅテデトドハバ"),
   (12441, "ヒビフブヘベホボワヷヰヸヱヹヲヺヽヾ"), (12442, "はぱひぴふぷへぺほぽハパヒピフプヘペホポ"), (69818, "𑂙𑂚𑂛𑂜𑂥𑂫"),
   (69927, "𑄱𑄮𑄲𑄯"), (70462, "𑍇𑍋"), (70487, "𑍇𑍌"), (70584, "𑏅𑎸"), (70587, "𑎄𑎅"), (70594, "𑎋𑎎𑏅𑏂"),
   (70601, "𑎂𑎃𑎐𑎑𑏅𑏉"), (70832, "𑒹𑒼"), (70842, "𑒹𑒻"), (70845, "𑒹𑒾"), (71087, "𑖸𑖺𑖹𑖻"), (71984, "𑤵𑤸"),
   (90398, "𖄡𖄞"), (90399, "𖄦𖄡𖄦𖄢𖄧𖄩𖄤"), (90400, "𖄨𖄡𖄨"), (90409, "𖄡𖄩"), (93543, "𖵣𖵪𖵨𖵩𖵪")]

end SymbolAtlas.Text.Composed
