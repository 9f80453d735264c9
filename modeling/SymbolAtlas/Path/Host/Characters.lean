import SymbolAtlas.Text.Ranges

/-!
# Characters of host names

How characters count in a host name. Of those beyond ASCII some vanish, some stand for other text,
mostly letters for their small forms, and some are refused, as Unicode lays it down for
internationalised names. Ranges are closed and in ascending order.
-/

namespace SymbolAtlas.Host

/-- Characters that vanish. -/
def ignoredRanges : List (Nat × Nat) :=
  [(173, 173), (847, 847), (4447, 4448), (6068, 6069), (6155, 6159), (8203, 8203), (8288, 8292),
   (8298, 8303), (12644, 12644), (65024, 65039), (65279, 65279), (65440, 65440), (113824, 113827),
   (119155, 119162), (917760, 917999)]

/-- Ranges in which the first, third and every other character stands for the next one. -/
def pairedRanges : List (Nat × Nat) :=
  [(256, 303), (308, 311), (313, 318), (321, 328), (330, 375), (377, 382), (386, 389), (416, 421),
   (435, 438), (461, 476), (478, 495), (504, 543), (546, 563), (582, 591), (880, 883), (984, 1007),
   (1120, 1153), (1162, 1215), (1217, 1230), (1232, 1327), (7680, 7829), (7840, 7935),
   (11367, 11372), (11392, 11491), (11499, 11502), (42560, 42605), (42624, 42651), (42786, 42799),
   (42802, 42863), (42873, 42876), (42878, 42887), (42896, 42899), (42902, 42921), (42932, 42947),
   (42951, 42954), (42956, 42971)]

/-- Ranges of characters that stand for as many others in a row, and the first of those. -/
def shiftedRanges : List (Nat × Nat × Nat) :=
  [(192, 214, 224), (913, 929, 945), (931, 939, 963), (1024, 1039, 1104), (1040, 1071, 1072),
   (1329, 1366, 1377), (4256, 4293, 11520), (7312, 7354, 4304), (7475, 7482, 103),
   (7944, 7951, 7936), (7976, 7983, 7968), (7992, 7999, 7984), (8040, 8047, 8032), (8320, 8329, 48),
   (9312, 9320, 49), (9398, 9423, 97), (9424, 9449, 97), (11264, 11311, 11312),
   (12613, 12622, 4361), (12623, 12643, 4449), (43888, 43967, 5024), (65286, 65294, 38),
   (65296, 65305, 48), (65313, 65338, 97), (65343, 65371, 95), (65461, 65470, 4361),
   (66560, 66599, 66600), (66736, 66771, 66776), (66928, 66938, 66967), (66940, 66954, 66979),
   (68736, 68786, 68800), (68944, 68965, 68976), (71840, 71871, 71872), (93760, 93791, 93792),
   (93856, 93880, 93883), (117974, 117999, 97), (118000, 118009, 48), (119808, 119833, 97),
   (119834, 119859, 97), (119860, 119885, 97), (119894, 119911, 105), (119912, 119937, 97),
   (119938, 119963, 97), (119982, 119989, 115), (120005, 120015, 112), (120016, 120041, 97),
   (120042, 120067, 97), (120077, 120084, 106), (120094, 120119, 97), (120146, 120171, 97),
   (120172, 120197, 97), (120198, 120223, 97), (120224, 120249, 97), (120250, 120275, 97),
   (120276, 120301, 97), (120302, 120327, 97), (120328, 120353, 97), (120354, 120379, 97),
   (120380, 120405, 97), (120406, 120431, 97), (120432, 120457, 97), (120458, 120483, 97),
   (120488, 120504, 945), (120514, 120530, 945), (120546, 120562, 945), (120572, 120588, 945),
   (120604, 120620, 945), (120630, 120646, 945), (120662, 120678, 945), (120688, 120704, 945),
   (120720, 120736, 945), (120746, 120762, 945), (120782, 120791, 48), (120792, 120801, 48),
   (120802, 120811, 48), (120812, 120821, 48), (120822, 120831, 48), (122928, 122936, 1072),
   (122940, 122950, 1086), (122961, 122969, 1072), (125184, 125217, 125218), (127280, 127305, 97),
   (130032, 130041, 48)]

/-- The first of some characters in a row, and the words that they stand for. -/
def spellings : List (Nat × String) :=
  [(170, "a"), (178, "2 3"), (181, "μ"), (185, "1 o"), (188, "1⁄4 1⁄2 3⁄4"), (216, "ø ù ú û ü ý þ"),
   (304, "i\u0307"), (306, "ij ij"), (319, "l· l·"), (329, "ʼn"), (376, "ÿ"), (383, "s"),
   (385, "ɓ"), (390, "ɔ ƈ"), (393, "ɖ ɗ ƌ"), (398, "ǝ ə ɛ ƒ"), (403, "ɠ ɣ"), (406, "ɩ ɨ ƙ"),
   (412, "ɯ ɲ"), (415, "ɵ"), (422, "ʀ ƨ"), (425, "ʃ"), (428, "ƭ"), (430, "ʈ ư"), (433, "ʊ ʋ"),
   (439, "ʒ ƹ"), (444, "ƽ"), (452, "dž dž dž lj lj lj nj nj nj"), (497, "dz dz dz ǵ"), (502, "ƕ ƿ"),
   (544, "ƞ"), (570, "ⱥ ȼ"), (573, "ƚ ⱦ"), (577, "ɂ"), (579, "ƀ ʉ ʌ"), (688, "h ɦ j r ɹ ɻ ʁ w y"),
   (736, "ɣ l s x ʕ"), (832, "\u0300 \u0301"), (835, "\u0313 \u0308\u0301 ι"), (884, "ʹ"),
   (886, "ͷ"), (894, "; ϳ"), (902, "ά · έ ή ί"), (908, "ό"), (910, "ύ ώ"), (975, "ϗ β θ υ ύ ϋ φ π"),
   (1008, "κ ρ σ"), (1012, "θ ε"), (1015, "ϸ"), (1017, "σ ϻ"), (1021, "ͻ ͼ ͽ"), (1216, "ӏ"),
   (1415, "եւ"), (1653, "\u0627\u0674 \u0648\u0674 \u06C7\u0674 \u064A\u0674"),
   (2392, "\u0915\u093C \u0916\u093C \u0917\u093C \u091C\u093C \u0921\u093C \u0922\u093C"),
   (2398, "\u092B\u093C \u092F\u093C"), (2524, "\u09A1\u09BC \u09A2\u09BC"), (2527, "\u09AF\u09BC"),
   (2611, "\u0A32\u0A3C"), (2614, "\u0A38\u0A3C"), (2649, "\u0A16\u0A3C \u0A17\u0A3C \u0A1C\u0A3C"),
   (2654, "\u0A2B\u0A3C"), (2908, "\u0B21\u0B3C \u0B22\u0B3C"), (3635, "\u0E4D\u0E32"),
   (3763, "\u0ECD\u0EB2"), (3804, "\u0EAB\u0E99 \u0EAB\u0EA1"), (3852, "\u0F0B"),
   (3907, "\u0F42\u0FB7"), (3917, "\u0F4C\u0FB7"), (3922, "\u0F51\u0FB7"), (3927, "\u0F56\u0FB7"),
   (3932, "\u0F5B\u0FB7"), (3945, "\u0F40\u0FB5"), (3955, "\u0F71\u0F72"),
   (3957, "\u0F71\u0F74 \u0FB2\u0F80 \u0FB2\u0F71\u0F80 \u0FB3\u0F80 \u0FB3\u0F71\u0F80"),
   (3969, "\u0F71\u0F80"), (3987, "\u0F92\u0FB7"), (3997, "\u0F9C\u0FB7"), (4002, "\u0FA1\u0FB7"),
   (4007, "\u0FA6\u0FB7"), (4012, "\u0FAB\u0FB7"), (4025, "\u0F90\u0FB5"), (4295, "ⴧ"), (4301, "ⴭ"),
   (4348, "ნ"), (5112, "Ᏸ Ᏹ Ᏺ Ᏻ Ᏼ Ᏽ"), (7296, "в д о с т т ъ ѣ ꙋ ᲊ"), (7357, "ჽ ჾ ჿ"),
   (7468, "a æ b"), (7472, "d e ǝ"), (7484, "o ȣ p r t u w a ɐ ɑ ᴂ b d e ə ɛ ɜ g"),
   (7503, "k m ŋ o ɔ ᴖ ᴗ p t u ᴝ ɯ v ᴥ β γ δ φ χ i r u v β γ ρ φ χ"), (7544, "н"),
   (7579, "ɒ c ɕ ð ɜ f ɟ ɡ ɥ ɨ ɩ ɪ ᵻ ʝ ɭ ᶅ ʟ ɱ ɰ ɲ ɳ ɴ ɵ ɸ ʂ ʃ ƫ ʉ ʊ ᴜ ʋ ʌ z ʐ ʑ ʒ θ"),
   (7834, "aʾ ṡ"), (7838, "ß"), (7960, "ἐ ἑ ἒ ἓ ἔ ἕ"), (8008, "ὀ ὁ ὂ ὃ ὄ ὅ"), (8025, "ὑ"),
   (8027, "ὓ"), (8029, "ὕ"), (8031, "ὗ"), (8049, "ά"), (8051, "έ"), (8053, "ή"), (8055, "ί"),
   (8057, "ό"), (8059, "ύ"), (8061, "ώ"),
   (8064, "ἀι ἁι ἂι ἃι ἄι ἅι ἆι ἇι ἀι ἁι ἂι ἃι ἄι ἅι ἆι ἇι ἠι ἡι ἢι ἣι ἤι ἥι ἦι ἧι ἠι ἡι ἢι"),
   (8091, "ἣι ἤι ἥι ἦι ἧι ὠι ὡι ὢι ὣι ὤι ὥι ὦι ὧι ὠι ὡι ὢι ὣι ὤι ὥι ὦι ὧι"), (8114, "ὰι αι άι"),
   (8119, "ᾶι ᾰ ᾱ ὰ ά αι"), (8126, "ι"), (8130, "ὴι ηι ήι"), (8135, "ῆι ὲ έ ὴ ή ηι"), (8147, "ΐ"),
   (8152, "ῐ ῑ ὶ ί"), (8163, "ΰ"), (8168, "ῠ ῡ ὺ ύ ῥ"), (8175, "`"), (8178, "ὼι ωι ώι"),
   (8183, "ῶι ὸ ό ὼ ώ ωι"), (8209, "\u2010"), (8243, "\u2032\u2032 \u2032\u2032\u2032"),
   (8246, "\u2035\u2035 \u2035\u2035\u2035"), (8252, "!!"), (8279, "\u2032\u2032\u2032\u2032"),
   (8304, "0 i"), (8308, "4 5 6 7 8 9 + − = ( ) n"), (8330, "+ − = ( )"),
   (8336, "a e o x ə h k l m n p s t w y z"), (8360, "rs"), (8450, "c °c"), (8455, "ɛ"),
   (8457, "°f g h h h h ħ i i l l"), (8469, "n no"), (8473, "p q r r r"), (8480, "sm tel tm"),
   (8484, "z"), (8486, "ω"), (8488, "z"), (8490, "k å b c"),
   (8495, "e e f ⅎ m o \u05D0 \u05D1 \u05D2 \u05D3 i"), (8507, "fax π γ γ π ∑"),
   (8517, "d d e i j"),
   (8528, "1⁄7 1⁄9 1⁄10 1⁄3 2⁄3 1⁄5 2⁄5 3⁄5 4⁄5 1⁄6 5⁄6 1⁄8 3⁄8 5⁄8 7⁄8 1⁄ i ii iii iv v vi"),
   (8550, "vii viii ix x xi xii l c d m i ii iii iv v vi vii viii ix x xi xii l c d m"),
   (8579, "ↄ"), (8585, "0⁄3"), (8748, "∫∫ ∫∫∫"), (8751, "∮∮ ∮∮∮"), (9001, "〈 〉"),
   (9321, "10 11 12 13 14 15 16 17 18 19 20 (1) (2) (3) (4) (5) (6) (7) (8) (9) (10) (11)"),
   (9343, "(12) (13) (14) (15) (16) (17) (18) (19) (20)"),
   (9372, "(a) (b) (c) (d) (e) (f) (g) (h) (i) (j) (k) (l) (m) (n) (o) (p) (q) (r) (s) (t)"),
   (9392, "(u) (v) (w) (x) (y) (z)"), (9450, "0"), (10764, "∫∫∫∫"), (10869, "== ==="),
   (10972, "⫝\u0338"), (11360, "ⱡ"), (11362, "ɫ ᵽ ɽ"), (11373, "ɑ ɱ ɐ ɒ"), (11378, "ⱳ"),
   (11381, "ⱶ"), (11388, "j v ȿ ɀ"), (11506, "ⳳ"), (11631, "ⵡ"), (11935, "母"), (12019, "龟"),
   (12032, "一 丨 丶 丿 乙 亅 二 亠 人 儿 入 八 冂 冖 冫 几 凵 刀 力 勹 匕 匚 匸 十 卜 卩 厂 厶 又 口 囗 土 士 夂 夊 夕 大 女 子 宀"),
   (12072, "寸 小 尢 尸 屮 山 巛 工 己 巾 干 幺 广 廴 廾 弋 弓 彐 彡 彳 心 戈 戶 手 支 攴 文 斗 斤 方 无 日 曰 月 木 欠 止 歹 殳 毋"),
   (12112, "比 毛 氏 气 水 火 爪 父 爻 爿 片 牙 牛 犬 玄 玉 瓜 瓦 甘 生 用 田 疋 疒 癶 白 皮 皿 目 矛 矢 石 示 禸 禾 穴 立 竹 米 糸"),
   (12152, "缶 网 羊 羽 老 而 耒 耳 聿 肉 臣 自 至 臼 舌 舛 舟 艮 色 艸 虍 虫 血 行 衣 襾 見 角 言 谷 豆 豕 豸 貝 赤 走 足 身 車 辛"),
   (12192, "辰 辵 邑 酉 釆 里 金 長 門 阜 隶 隹 雨 靑 非 面 革 韋 韭 音 頁 風 飛 食 首 香 馬 骨 高 髟 鬥 鬯 鬲 鬼 魚 鳥 鹵 鹿 麥 麻"),
   (12232, "黃 黍 黑 黹 黽 鼎 鼓 鼠 鼻 齊 齒 龍 龜 龠"), (12290, "."), (12342, "〒"), (12344, "十 卄 卅"),
   (12447, "より"), (12543, "コト"), (12593, "ᄀ ᄁ ᆪ ᄂ ᆬ ᆭ ᄃ ᄄ ᄅ ᆰ ᆱ ᆲ ᆳ ᆴ ᆵ ᄚ ᄆ ᄇ ᄈ ᄡ"),
   (12645, "ᄔ ᄕ ᇇ ᇈ ᇌ ᇎ ᇓ ᇗ ᇙ ᄜ ᇝ ᇟ ᄝ ᄞ ᄠ ᄢ ᄣ ᄧ ᄩ ᄫ ᄬ ᄭ ᄮ ᄯ ᄲ ᄶ ᅀ ᅇ ᅌ ᇱ ᇲ ᅗ ᅘ ᅙ ᆄ ᆅ ᆈ ᆑ ᆒ ᆔ"),
   (12685, "ᆞ ᆡ"), (12690, "一 二 三 四 上 中 下 甲 乙 丙 丁 天 地 人"),
   (12800, "(ᄀ) (ᄂ) (ᄃ) (ᄅ) (ᄆ) (ᄇ) (ᄉ) (ᄋ) (ᄌ) (ᄎ) (ᄏ) (ᄐ) (ᄑ) (ᄒ) (가) (나) (다) (라) (마) (바)"),
   (12820, "(사) (아) (자) (차) (카) (타) (파) (하) (주) (오전) (오후)"),
   (12832, "(一) (二) (三) (四) (五) (六) (七) (八) (九) (十) (月) (火) (水) (木) (金) (土) (日) (株) (有) (社)"),
   (12852, "(名) (特) (財) (祝) (労) (代) (呼) (学) (監) (企) (資) (協) (祭) (休) (自) (至) 問 幼 文 箏"),
   (12880, "pte 21 22 23 24 25 26 27 28 29 30 31 32 33 34 35 ᄀ ᄂ ᄃ ᄅ ᄆ ᄇ ᄉ ᄋ ᄌ ᄎ ᄏ ᄐ ᄑ ᄒ 가"),
   (12911, "나 다 라 마 바 사 아 자 차 카 타 파 하 참고 주의 우"),
   (12928, "一 二 三 四 五 六 七 八 九 十 月 火 水 木 金 土 日 株 有 社 名 特 財 祝 労 秘 男 女 適 優 印 注 項 休 写 正 上 中 下 左"),
   (12968, "右 医 宗 学 監 企 資 協 夜 36 37 38 39 40 41 42 43 44 45 46 47 48 49 50 1月 2月 3月 4月 5月"),
   (12997, "6月 7月 8月 9月 10月 11月 12月 hg erg ev ltd ア イ ウ エ オ カ キ ク ケ コ サ シ ス セ ソ タ チ ツ テ ト ナ"),
   (13029, "ニ ヌ ネ ノ ハ ヒ フ ヘ ホ マ ミ ム メ モ ヤ ユ ヨ ラ リ ル レ ロ ワ ヰ ヱ ヲ 令和 アパート アルファ アンペア アール イニング"),
   (13061, "インチ ウォン エスクード エーカー オンス オーム カイリ カラット カロリー ガロン ガンマ ギガ ギニー キュリー ギルダー キロ キログラム"),
   (13078, "キロメートル キロワット グラム グラムトン クルゼイロ クローネ ケース コルナ コーポ サイクル サンチーム シリング センチ セント ダース デシ ドル"),
   (13095, "トン ナノ ノット ハイツ パーセント パーツ バーレル ピアストル ピクル ピコ ビル ファラッド フィート ブッシェル フラン ヘクタール ペソ ペニヒ"),
   (13113, "ヘルツ ペンス ページ ベータ ポイント ボルト ホン ポンド ホール ホーン マイクロ マイル マッハ マルク マンション ミクロン ミリ ミリバール メガ"),
   (13132, "メガトン メートル ヤード ヤール ユアン リットル リラ ルピー ルーブル レム レントゲン ワット 0点 1点 2点 3点 4点 5点 6点 7点 8点"),
   (13153, "9点 10点 11点 12点 13点 14点 15点 16点 17点 18点 19点 20点 21点 22点 23点 24点 hpa da au bar ov"),
   (13174, "pc dm dm2 dm3 iu 平成 昭和 大正 明治 株式会社 pa na μa ma ka kb mb gb cal kcal pf nf μf μg"),
   (13198, "mg kg hz khz mhz ghz thz μl ml dl kl fm nm μm mm cm km mm2 cm2 m2 km2 mm3 cm3"),
   (13221, "m3 km3 m∕s m∕s2 pa kpa mpa gpa rad rad∕s rad∕s2 ps ns μs ms pv nv μv mv kv mv"),
   (13242, "pw nw μw mw kw mw kω mω"), (13251, "bq cc cd c∕kg"),
   (13256, "db gy ha hp in kk km kt lm ln log lx mb mil mol ph"),
   (13273, "ppm pr sr sv wb v∕m a∕m 1日 2日 3日 4日 5日 6日 7日 8日 9日 10日 11日 12日 13日 14日 15日 16日"),
   (13296, "17日 18日 19日 20日 21日 22日 23日 24日 25日 26日 27日 28日 29日 30日 31日 gal"), (42652, "ъ ь"),
   (42864, "ꝯ"), (42877, "ᵹ"), (42891, "ꞌ"), (42893, "ɥ"), (42922, "ɦ ɜ ɡ ɬ ɪ"), (42928, "ʞ ʇ ʝ ꭓ"),
   (42948, "ꞔ ʂ ᶎ"), (42955, "ɤ"), (42972, "ƛ"), (42993, "s c f q ꟶ"), (43000, "ħ œ"),
   (43868, "ꜧ ꬷ ɫ ꭒ"), (43881, "ʍ"),
   (63744, "豈 更 車 賈 滑 串 句 龜 龜 契 金 喇 奈 懶 癩 羅 蘿 螺 裸 邏 樂 洛 烙 珞 落 酪 駱 亂 卵 欄 爛 蘭 鸞 嵐 濫 藍 襤 拉 臘 蠟"),
   (63784, "廊 朗 浪 狼 郎 來 冷 勞 擄 櫓 爐 盧 老 蘆 虜 路 露 魯 鷺 碌 祿 綠 菉 錄 鹿 論 壟 弄 籠 聾 牢 磊 賂 雷 壘 屢 樓 淚 漏 累"),
   (63824, "縷 陋 勒 肋 凜 凌 稜 綾 菱 陵 讀 拏 樂 諾 丹 寧 怒 率 異 北 磻 便 復 不 泌 數 索 參 塞 省 葉 說 殺 辰 沈 拾 若 掠 略 亮"),
   (63864, "兩 凉 梁 糧 良 諒 量 勵 呂 女 廬 旅 濾 礪 閭 驪 麗 黎 力 曆 歷 轢 年 憐 戀 撚 漣 煉 璉 秊 練 聯 輦 蓮 連 鍊 列 劣 咽 烈"),
   (63904, "裂 說 廉 念 捻 殮 簾 獵 令 囹 寧 嶺 怜 玲 瑩 羚 聆 鈴 零 靈 領 例 禮 醴 隸 惡 了 僚 寮 尿 料 樂 燎 療 蓼 遼 龍 暈 阮 劉"),
   (63944, "杻 柳 流 溜 琉 留 硫 紐 類 六 戮 陸 倫 崙 淪 輪 律 慄 栗 率 隆 利 吏 履 易 李 梨 泥 理 痢 罹 裏 裡 里 離 匿 溺 吝 燐 璘"),
   (63984, "藺 隣 鱗 麟 林 淋 臨 立 笠 粒 狀 炙 識 什 茶 刺 切 度 拓 糖 宅 洞 暴 輻 行 降 見 廓 兀 嗀"), (64016, "塚"),
   (64018, "晴"), (64021, "凞 猪 益 礼 神 祥 福 靖 精 羽"), (64032, "蘒"), (64034, "諸"), (64037, "逸 都"),
   (64042, "飯 飼 館 鶴 郞 隷 侮 僧 免 勉 勤 卑 喝 嘆 器 塀 墨 層 屮 悔 慨 憎 懲 敏 既 暑 梅 海 渚 漢 煮 爫 琢 碑 社 祉 祈 祐 祖 祝"),
   (64082, "禍 禎 穀 突 節 練 縉 繁 署 者 臭 艹 艹 著 褐 視 謁 謹 賓 贈 辶 逸 難 響 頻 恵 𤋮 舘"),
   (64112, "並 况 全 侀 充 冀 勇 勺 喝 啕 喙 嗢 塚 墳 奄 奔 婢 嬨 廒 廙 彩 徭 惘 慎 愈 憎 慠 懲 戴 揄 搜 摒 敖 晴 朗 望 杖 歹 殺 流"),
   (64152, "滛 滋 漢 瀞 煮 瞧 爵 犯 猪 瑱 甆 画 瘝 瘟 益 盛 直 睊 着 磌 窱 節 类 絛 練 缾 者 荒 華 蝹 襁 覆 視 調 諸 請 謁 諾 諭 謹"),
   (64192, "變 贈 輸 遲 醙 鉶 陼 難 靖 韛 響 頋 頻 鬒 龜 𢡊 𢡄 𣏕 㮝 䀘 䀹 𥉉 𥳐 𧻓 齃 龎"),
   (64256, "ff fi fl ffi ffl st st"), (64275, "մն մե մի վն մխ"), (64285, "\u05D9\u05B4"),
   (64287, "\u05F2\u05B7 \u05E2 \u05D0 \u05D3 \u05D4 \u05DB \u05DC \u05DD \u05E8 \u05EA +"),
   (64298, "\u05E9\u05C1 \u05E9\u05C2 \u05E9\u05BC\u05C1 \u05E9\u05BC\u05C2 \u05D0\u05B7"),
   (64303, "\u05D0\u05B8 \u05D0\u05BC \u05D1\u05BC \u05D2\u05BC \u05D3\u05BC \u05D4\u05BC"),
   (64309, "\u05D5\u05BC \u05D6\u05BC"),
   (64312, "\u05D8\u05BC \u05D9\u05BC \u05DA\u05BC \u05DB\u05BC \u05DC\u05BC"),
   (64318, "\u05DE\u05BC"), (64320, "\u05E0\u05BC \u05E1\u05BC"),
   (64323, "\u05E3\u05BC \u05E4\u05BC"),
   (64326, "\u05E6\u05BC \u05E7\u05BC \u05E8\u05BC \u05E9\u05BC \u05EA\u05BC \u05D5\u05B9"),
   (64332, "\u05D1\u05BF \u05DB\u05BF \u05E4\u05BF \u05D0\u05DC \u0671 \u0671 \u067B \u067B"),
   (64340, "\u067B \u067B \u067E \u067E \u067E \u067E \u0680 \u0680 \u0680 \u0680 \u067A"),
   (64351, "\u067A \u067A \u067A \u067F \u067F \u067F \u067F \u0679 \u0679 \u0679 \u0679"),
   (64362, "\u06A4 \u06A4 \u06A4 \u06A4 \u06A6 \u06A6 \u06A6 \u06A6 \u0684 \u0684 \u0684"),
   (64373, "\u0684 \u0683 \u0683 \u0683 \u0683 \u0686 \u0686 \u0686 \u0686 \u0687 \u0687"),
   (64384, "\u0687 \u0687 \u068D \u068D \u068C \u068C \u068E \u068E \u0688 \u0688 \u0698"),
   (64395, "\u0698 \u0691 \u0691 \u06A9 \u06A9 \u06A9 \u06A9 \u06AF \u06AF \u06AF \u06AF"),
   (64406, "\u06B3 \u06B3 \u06B3 \u06B3 \u06B1 \u06B1 \u06B1 \u06B1 \u06BA \u06BA \u06BB"),
   (64417, "\u06BB \u06BB \u06BB \u06C0 \u06C0 \u06C1 \u06C1 \u06C1 \u06C1 \u06BE \u06BE"),
   (64428, "\u06BE \u06BE \u06D2 \u06D2 \u06D3 \u06D3"),
   (64467, "\u06AD \u06AD \u06AD \u06AD \u06C7 \u06C7 \u06C6 \u06C6 \u06C8 \u06C8"),
   (64477, "\u06C7\u0674 \u06CB \u06CB \u06C5 \u06C5 \u06C9 \u06C9 \u06D0 \u06D0 \u06D0"),
   (64487, "\u06D0 \u0649 \u0649 \u0626\u0627 \u0626\u0627 \u0626\u06D5 \u0626\u06D5"),
   (64494, "\u0626\u0648 \u0626\u0648 \u0626\u06C7 \u0626\u06C7 \u0626\u06C6 \u0626\u06C6"),
   (64500, "\u0626\u06C8 \u0626\u06C8 \u0626\u06D0 \u0626\u06D0 \u0626\u06D0 \u0626\u0649"),
   (64506, "\u0626\u0649 \u0626\u0649 \u06CC \u06CC \u06CC \u06CC \u0626\u062C \u0626\u062D"),
   (64514, "\u0626\u0645 \u0626\u0649 \u0626\u064A \u0628\u062C \u0628\u062D \u0628\u062E"),
   (64520, "\u0628\u0645 \u0628\u0649 \u0628\u064A \u062A\u062C \u062A\u062D \u062A\u062E"),
   (64526, "\u062A\u0645 \u062A\u0649 \u062A\u064A \u062B\u062C \u062B\u0645 \u062B\u0649"),
   (64532, "\u062B\u064A \u062C\u062D \u062C\u0645 \u062D\u062C \u062D\u0645 \u062E\u062C"),
   (64538, "\u062E\u062D \u062E\u0645 \u0633\u062C \u0633\u062D \u0633\u062E \u0633\u0645"),
   (64544, "\u0635\u062D \u0635\u0645 \u0636\u062C \u0636\u062D \u0636\u062E \u0636\u0645"),
   (64550, "\u0637\u062D \u0637\u0645 \u0638\u0645 \u0639\u062C \u0639\u0645 \u063A\u062C"),
   (64556, "\u063A\u0645 \u0641\u062C \u0641\u062D \u0641\u062E \u0641\u0645 \u0641\u0649"),
   (64562, "\u0641\u064A \u0642\u062D \u0642\u0645 \u0642\u0649 \u0642\u064A \u0643\u0627"),
   (64568, "\u0643\u062C \u0643\u062D \u0643\u062E \u0643\u0644 \u0643\u0645 \u0643\u0649"),
   (64574, "\u0643\u064A \u0644\u062C \u0644\u062D \u0644\u062E \u0644\u0645 \u0644\u0649"),
   (64580, "\u0644\u064A \u0645\u062C \u0645\u062D \u0645\u062E \u0645\u0645 \u0645\u0649"),
   (64586, "\u0645\u064A \u0646\u062C \u0646\u062D \u0646\u062E \u0646\u0645 \u0646\u0649"),
   (64592, "\u0646\u064A \u0647\u062C \u0647\u0645 \u0647\u0649 \u0647\u064A \u064A\u062C"),
   (64598, "\u064A\u062D \u064A\u062E \u064A\u0645 \u064A\u0649 \u064A\u064A \u0630\u0670"),
   (64604, "\u0631\u0670 \u0649\u0670"),
   (64612, "\u0626\u0631 \u0626\u0632 \u0626\u0645 \u0626\u0646 \u0626\u0649 \u0626\u064A"),
   (64618, "\u0628\u0631 \u0628\u0632 \u0628\u0645 \u0628\u0646 \u0628\u0649 \u0628\u064A"),
   (64624, "\u062A\u0631 \u062A\u0632 \u062A\u0645 \u062A\u0646 \u062A\u0649 \u062A\u064A"),
   (64630, "\u062B\u0631 \u062B\u0632 \u062B\u0645 \u062B\u0646 \u062B\u0649 \u062B\u064A"),
   (64636, "\u0641\u0649 \u0641\u064A \u0642\u0649 \u0642\u064A \u0643\u0627 \u0643\u0644"),
   (64642, "\u0643\u0645 \u0643\u0649 \u0643\u064A \u0644\u0645 \u0644\u0649 \u0644\u064A"),
   (64648, "\u0645\u0627 \u0645\u0645 \u0646\u0631 \u0646\u0632 \u0646\u0645 \u0646\u0646"),
   (64654, "\u0646\u0649 \u0646\u064A \u0649\u0670 \u064A\u0631 \u064A\u0632 \u064A\u0645"),
   (64660, "\u064A\u0646 \u064A\u0649 \u064A\u064A \u0626\u062C \u0626\u062D \u0626\u062E"),
   (64666, "\u0626\u0645 \u0626\u0647 \u0628\u062C \u0628\u062D \u0628\u062E \u0628\u0645"),
   (64672, "\u0628\u0647 \u062A\u062C \u062A\u062D \u062A\u062E \u062A\u0645 \u062A\u0647"),
   (64678, "\u062B\u0645 \u062C\u062D \u062C\u0645 \u062D\u062C \u062D\u0645 \u062E\u062C"),
   (64684, "\u062E\u0645 \u0633\u062C \u0633\u062D \u0633\u062E \u0633\u0645 \u0635\u062D"),
   (64690, "\u0635\u062E \u0635\u0645 \u0636\u062C \u0636\u062D \u0636\u062E \u0636\u0645"),
   (64696, "\u0637\u062D \u0638\u0645 \u0639\u062C \u0639\u0645 \u063A\u062C \u063A\u0645"),
   (64702, "\u0641\u062C \u0641\u062D \u0641\u062E \u0641\u0645 \u0642\u062D \u0642\u0645"),
   (64708, "\u0643\u062C \u0643\u062D \u0643\u062E \u0643\u0644 \u0643\u0645 \u0644\u062C"),
   (64714, "\u0644\u062D \u0644\u062E \u0644\u0645 \u0644\u0647 \u0645\u062C \u0645\u062D"),
   (64720, "\u0645\u062E \u0645\u0645 \u0646\u062C \u0646\u062D \u0646\u062E \u0646\u0645"),
   (64726, "\u0646\u0647 \u0647\u062C \u0647\u0645 \u0647\u0670 \u064A\u062C \u064A\u062D"),
   (64732, "\u064A\u062E \u064A\u0645 \u064A\u0647 \u0626\u0645 \u0626\u0647 \u0628\u0645"),
   (64738, "\u0628\u0647 \u062A\u0645 \u062A\u0647 \u062B\u0645 \u062B\u0647 \u0633\u0645"),
   (64744, "\u0633\u0647 \u0634\u0645 \u0634\u0647 \u0643\u0644 \u0643\u0645 \u0644\u0645"),
   (64750, "\u0646\u0645 \u0646\u0647 \u064A\u0645 \u064A\u0647 \u0640\u064E\u0651"),
   (64755, "\u0640\u064F\u0651 \u0640\u0650\u0651 \u0637\u0649 \u0637\u064A \u0639\u0649"),
   (64760, "\u0639\u064A \u063A\u0649 \u063A\u064A \u0633\u0649 \u0633\u064A \u0634\u0649"),
   (64766, "\u0634\u064A \u062D\u0649 \u062D\u064A \u062C\u0649 \u062C\u064A \u062E\u0649"),
   (64772, "\u062E\u064A \u0635\u0649 \u0635\u064A \u0636\u0649 \u0636\u064A \u0634\u062C"),
   (64778, "\u0634\u062D \u0634\u062E \u0634\u0645 \u0634\u0631 \u0633\u0631 \u0635\u0631"),
   (64784, "\u0636\u0631 \u0637\u0649 \u0637\u064A \u0639\u0649 \u0639\u064A \u063A\u0649"),
   (64790, "\u063A\u064A \u0633\u0649 \u0633\u064A \u0634\u0649 \u0634\u064A \u062D\u0649"),
   (64796, "\u062D\u064A \u062C\u0649 \u062C\u064A \u062E\u0649 \u062E\u064A \u0635\u0649"),
   (64802, "\u0635\u064A \u0636\u0649 \u0636\u064A \u0634\u062C \u0634\u062D \u0634\u062E"),
   (64808, "\u0634\u0645 \u0634\u0631 \u0633\u0631 \u0635\u0631 \u0636\u0631 \u0634\u062C"),
   (64814, "\u0634\u062D \u0634\u062E \u0634\u0645 \u0633\u0647 \u0634\u0647 \u0637\u0645"),
   (64820, "\u0633\u062C \u0633\u062D \u0633\u062E \u0634\u062C \u0634\u062D \u0634\u062E"),
   (64826, "\u0637\u0645 \u0638\u0645 \u0627\u064B \u0627\u064B"),
   (64848, "\u062A\u062C\u0645 \u062A\u062D\u062C \u062A\u062D\u062C \u062A\u062D\u0645"),
   (64852, "\u062A\u062E\u0645 \u062A\u0645\u062C \u062A\u0645\u062D \u062A\u0645\u062E"),
   (64856, "\u062C\u0645\u062D \u062C\u0645\u062D \u062D\u0645\u064A \u062D\u0645\u0649"),
   (64860, "\u0633\u062D\u062C \u0633\u062C\u062D \u0633\u062C\u0649 \u0633\u0645\u062D"),
   (64864, "\u0633\u0645\u062D \u0633\u0645\u062C \u0633\u0645\u0645 \u0633\u0645\u0645"),
   (64868, "\u0635\u062D\u062D \u0635\u062D\u062D \u0635\u0645\u0645 \u0634\u062D\u0645"),
   (64872, "\u0634\u062D\u0645 \u0634\u062C\u064A \u0634\u0645\u062E \u0634\u0645\u062E"),
   (64876, "\u0634\u0645\u0645 \u0634\u0645\u0645 \u0636\u062D\u0649 \u0636\u062E\u0645"),
   (64880, "\u0636\u062E\u0645 \u0637\u0645\u062D \u0637\u0645\u062D \u0637\u0645\u0645"),
   (64884, "\u0637\u0645\u064A \u0639\u062C\u0645 \u0639\u0645\u0645 \u0639\u0645\u0645"),
   (64888, "\u0639\u0645\u0649 \u063A\u0645\u0645 \u063A\u0645\u064A \u063A\u0645\u0649"),
   (64892, "\u0641\u062E\u0645 \u0641\u062E\u0645 \u0642\u0645\u062D \u0642\u0645\u0645"),
   (64896, "\u0644\u062D\u0645 \u0644\u062D\u064A \u0644\u062D\u0649 \u0644\u062C\u062C"),
   (64900, "\u0644\u062C\u062C \u0644\u062E\u0645 \u0644\u062E\u0645 \u0644\u0645\u062D"),
   (64904, "\u0644\u0645\u062D \u0645\u062D\u062C \u0645\u062D\u0645 \u0645\u062D\u064A"),
   (64908, "\u0645\u062C\u062D \u0645\u062C\u0645 \u0645\u062E\u062C \u0645\u062E\u0645"),
   (64914, "\u0645\u062C\u062E \u0647\u0645\u062C \u0647\u0645\u0645 \u0646\u062D\u0645"),
   (64918, "\u0646\u062D\u0649 \u0646\u062C\u0645 \u0646\u062C\u0645 \u0646\u062C\u0649"),
   (64922, "\u0646\u0645\u064A \u0646\u0645\u0649 \u064A\u0645\u0645 \u064A\u0645\u0645"),
   (64926, "\u0628\u062E\u064A \u062A\u062C\u064A \u062A\u062C\u0649 \u062A\u062E\u064A"),
   (64930, "\u062A\u062E\u0649 \u062A\u0645\u064A \u062A\u0645\u0649 \u062C\u0645\u064A"),
   (64934, "\u062C\u062D\u0649 \u062C\u0645\u0649 \u0633\u062E\u0649 \u0635\u062D\u064A"),
   (64938, "\u0634\u062D\u064A \u0636\u062D\u064A \u0644\u062C\u064A \u0644\u0645\u064A"),
   (64942, "\u064A\u062D\u064A \u064A\u062C\u064A \u064A\u0645\u064A \u0645\u0645\u064A"),
   (64946, "\u0642\u0645\u064A \u0646\u062D\u064A \u0642\u0645\u062D \u0644\u062D\u0645"),
   (64950, "\u0639\u0645\u064A \u0643\u0645\u064A \u0646\u062C\u062D \u0645\u062E\u064A"),
   (64954, "\u0644\u062C\u0645 \u0643\u0645\u0645 \u0644\u062C\u0645 \u0646\u062C\u062D"),
   (64958, "\u062C\u062D\u064A \u062D\u062C\u064A \u0645\u062C\u064A \u0641\u0645\u064A"),
   (64962, "\u0628\u062D\u064A \u0643\u0645\u0645 \u0639\u062C\u0645 \u0635\u0645\u0645"),
   (64966, "\u0633\u062E\u064A \u0646\u062C\u064A"),
   (65008, "\u0635\u0644\u06D2 \u0642\u0644\u06D2 \u0627\u0644\u0644\u0647"),
   (65011, "\u0627\u0643\u0628\u0631 \u0645\u062D\u0645\u062F \u0635\u0644\u0639\u0645"),
   (65014, "\u0631\u0633\u0648\u0644 \u0639\u0644\u064A\u0647 \u0648\u0633\u0644\u0645"),
   (65017, "\u0635\u0644\u0649"), (65020, "\u0631\u06CC\u0627\u0644"), (65040, ", 、"),
   (65044, "; !"), (65047, "〖 〗"),
   (65073, "\u2014 \u2013 _ _ ( ) \x7b \x7d 〔 〕 【 】 《 》 〈 〉 「 」 『 』"), (65101, "_ _ _ , 、"),
   (65108, ";"), (65111, "! \u2014 ( ) \x7b \x7d 〔 〕"), (65120, "& * + - < > ="), (65129, "$"),
   (65137, "\u0640\u064B"), (65143, "\u0640\u064E"), (65145, "\u0640\u064F"),
   (65147, "\u0640\u0650"), (65149, "\u0640\u0651"),
   (65151, "\u0640\u0652 \u0621 \u0622 \u0622 \u0623 \u0623 \u0624 \u0624 \u0625 \u0625"),
   (65161, "\u0626 \u0626 \u0626 \u0626 \u0627 \u0627 \u0628 \u0628 \u0628 \u0628 \u0629"),
   (65172, "\u0629 \u062A \u062A \u062A \u062A \u062B \u062B \u062B \u062B \u062C \u062C"),
   (65183, "\u062C \u062C \u062D \u062D \u062D \u062D \u062E \u062E \u062E \u062E \u062F"),
   (65194, "\u062F \u0630 \u0630 \u0631 \u0631 \u0632 \u0632 \u0633 \u0633 \u0633 \u0633"),
   (65205, "\u0634 \u0634 \u0634 \u0634 \u0635 \u0635 \u0635 \u0635 \u0636 \u0636 \u0636"),
   (65216, "\u0636 \u0637 \u0637 \u0637 \u0637 \u0638 \u0638 \u0638 \u0638 \u0639 \u0639"),
   (65227, "\u0639 \u0639 \u063A \u063A \u063A \u063A \u0641 \u0641 \u0641 \u0641 \u0642"),
   (65238, "\u0642 \u0642 \u0642 \u0643 \u0643 \u0643 \u0643 \u0644 \u0644 \u0644 \u0644"),
   (65249, "\u0645 \u0645 \u0645 \u0645 \u0646 \u0646 \u0646 \u0646 \u0647 \u0647 \u0647"),
   (65260, "\u0647 \u0648 \u0648 \u0649 \u0649 \u064A \u064A \u064A \u064A \u0644\u0622"),
   (65270, "\u0644\u0622 \u0644\u0623 \u0644\u0623 \u0644\u0625 \u0644\u0625 \u0644\u0627"),
   (65276, "\u0644\u0627"), (65281, "! \""), (65284, "$"), (65307, "; < = >"),
   (65373, "\x7d ~ ⦅ ⦆ . 「 」 、 ・ ヲ ァ ィ ゥ ェ ォ ャ ュ ョ ッ ー ア イ ウ エ オ カ キ ク ケ コ サ シ ス セ ソ タ チ ツ"),
   (65411, "テ ト ナ ニ ヌ ネ ノ ハ ヒ フ ヘ ホ マ ミ ム メ モ ヤ ユ ヨ ラ リ ル レ ロ ワ ン \u3099 \u309A"),
   (65441, "ᄀ ᄁ ᆪ ᄂ ᆬ ᆭ ᄃ ᄄ ᄅ ᆰ ᆱ ᆲ ᆳ ᆴ ᆵ ᄚ ᄆ ᄇ ᄈ ᄡ"), (65474, "ᅡ ᅢ ᅣ ᅤ ᅥ ᅦ"),
   (65482, "ᅧ ᅨ ᅩ ᅪ ᅫ ᅬ"), (65490, "ᅭ ᅮ ᅯ ᅰ ᅱ ᅲ"), (65498, "ᅳ ᅴ ᅵ"), (65504, "¢ £ ¬"),
   (65508, "¦ ¥ ₩"), (65512, "│ ← ↑ → ↓ ■ ○"), (66956, "𐖳 𐖴 𐖵 𐖶 𐖷 𐖸 𐖹"), (66964, "𐖻 𐖼"),
   (67457, "ː ˑ æ ʙ ɓ"),
   (67463, "ʣ ꭦ ʥ ʤ ɖ ɗ ᶑ ɘ ɞ ʩ ɤ ɢ ɠ ʛ ħ ʜ ɧ ʄ ʪ ʫ ɬ 𝼄 ꞎ ɮ 𝼅 ʎ 𝼆 ø ɶ ɷ q ɺ 𝼈 ɽ ɾ ʀ ʨ ʦ ꭧ ʧ"),
   (67503, "ʈ ⱱ"), (67506, "ʏ ʡ ʢ ʘ ǀ ǁ ǂ 𝼊 𝼞"), (119134, "𝅗𝅥 𝅘𝅥 𝅘𝅥𝅮 𝅘𝅥𝅯 𝅘𝅥𝅰 𝅘𝅥𝅱 𝅘𝅥𝅲"),
   (119227, "𝆹𝅥 𝆺𝅥 𝆹𝅥𝅮 𝆺𝅥𝅮 𝆹𝅥𝅯 𝆺𝅥𝅯"), (119886, "a b c d e f g"), (119964, "a"), (119966, "c d"),
   (119970, "g"), (119973, "j k"), (119977, "n o p q"), (119990, "a b c d"), (119995, "f"),
   (119997, "h i j k l m n"), (120068, "a b"), (120071, "d e f g"), (120086, "s t u v w x y"),
   (120120, "a b"), (120123, "d e f g"), (120128, "i j k l m"), (120134, "o"),
   (120138, "s t u v w x y"), (120484, "ı ȷ"), (120505, "θ σ τ υ φ χ ψ ω ∇"),
   (120531, "σ σ τ υ φ χ ψ ω ∂ ε θ κ φ ρ π"), (120563, "θ σ τ υ φ χ ψ ω ∇"),
   (120589, "σ σ τ υ φ χ ψ ω ∂ ε θ κ φ ρ π"), (120621, "θ σ τ υ φ χ ψ ω ∇"),
   (120647, "σ σ τ υ φ χ ψ ω ∂ ε θ κ φ ρ π"), (120679, "θ σ τ υ φ χ ψ ω ∇"),
   (120705, "σ σ τ υ φ χ ψ ω ∂ ε θ κ φ ρ π"), (120737, "θ σ τ υ φ χ ψ ω ∇"),
   (120763, "σ σ τ υ φ χ ψ ω ∂ ε θ κ φ ρ π ϝ ϝ"), (122937, "к л м"),
   (122951, "ы э ю ꚉ ә і ј ө ү ӏ"), (122970, "к л о п с у ф х ц ч ш ъ ы ґ і ѕ џ ҫ ꙑ ұ"),
   (126464, "\u0627 \u0628 \u062C \u062F"),
   (126469, "\u0648 \u0632 \u062D \u0637 \u064A \u0643 \u0644 \u0645 \u0646 \u0633 \u0639"),
   (126480, "\u0641 \u0635 \u0642 \u0631 \u0634 \u062A \u062B \u062E \u0630 \u0636 \u0638"),
   (126491, "\u063A \u066E \u06BA \u06A1 \u066F"), (126497, "\u0628 \u062C"), (126500, "\u0647"),
   (126503, "\u062D"),
   (126505, "\u064A \u0643 \u0644 \u0645 \u0646 \u0633 \u0639 \u0641 \u0635 \u0642"),
   (126516, "\u0634 \u062A \u062B \u062E"), (126521, "\u0636"), (126523, "\u063A"),
   (126530, "\u062C"), (126535, "\u062D"), (126537, "\u064A"), (126539, "\u0644"),
   (126541, "\u0646 \u0633 \u0639"), (126545, "\u0635 \u0642"), (126548, "\u0634"),
   (126551, "\u062E"), (126553, "\u0636"), (126555, "\u063A"), (126557, "\u06BA"),
   (126559, "\u066F"), (126561, "\u0628 \u062C"), (126564, "\u0647"),
   (126567, "\u062D \u0637 \u064A \u0643"),
   (126572, "\u0645 \u0646 \u0633 \u0639 \u0641 \u0635 \u0642"),
   (126580, "\u0634 \u062A \u062B \u062E"), (126585, "\u0636 \u0638 \u063A \u066E"),
   (126590, "\u06A1"),
   (126592, "\u0627 \u0628 \u062C \u062F \u0647 \u0648 \u0632 \u062D \u0637 \u064A"),
   (126603, "\u0644 \u0645 \u0646 \u0633 \u0639 \u0641 \u0635 \u0642 \u0631 \u0634 \u062A"),
   (126614, "\u062B \u062E \u0630 \u0636 \u0638 \u063A"), (126625, "\u0628 \u062C \u062F"),
   (126629, "\u0648 \u0632 \u062D \u0637 \u064A"),
   (126635, "\u0644 \u0645 \u0646 \u0633 \u0639 \u0641 \u0635 \u0642 \u0631 \u0634 \u062A"),
   (126646, "\u062B \u062E \u0630 \u0636 \u0638 \u063A"), (127233, "0, 1, 2, 3, 4, 5, 6, 7, 8, 9,"),
   (127248, "(a) (b) (c) (d) (e) (f) (g) (h) (i) (j) (k) (l) (m) (n) (o) (p) (q) (r) (s)"),
   (127267, "(t) (u) (v) (w) (x) (y) (z) 〔s〕 c r cd wz"), (127306, "hv mv sd ss ppv wc"),
   (127338, "mc md mr"), (127376, "dj"), (127488, "ほか ココ サ"),
   (127504, "手 字 双 デ 二 多 解 天 交 映 無 料 前 後 再 新 初 終 生 販 声 吹 演 投 捕 一 三 遊 左 中 右 指 走 打 禁 空 合 満 有"),
   (127543, "月 申 割 営 配"), (127552, "〔本〕 〔三〕 〔二〕 〔安〕 〔点〕 〔打〕 〔盗〕 〔勝〕 〔敗〕"), (127568, "得 可"),
   (194560, "丽 丸 乁 𠄢 你 侮 侻 倂 偺 備 僧 像 㒞 𠘺 免 兔 兤 具 𠔜 㒹 內 再 𠕋 冗 冤 仌 冬 况 𩇟 凵 刃 㓟 刻 剆 割 剷 㔕 勇 勉"),
   (194599, "勤 勺 包 匆 北 卉 卑 博 即 卽 卿 卿 卿 𠨬 灰 及 叟 𠭣 叫 叱 吆 咞 吸 呈 周 咢 哶 唐 啓 啣 善 善 喙 喫 喳 嗂 圖 嘆 圗"),
   (194638, "噑 噴 切 壮 城 埴 堍 型 堲 報 墬 𡓤 売 壷 夆 多 夢 奢 𡚨 𡛪 姬 娛 娧 姘 婦 㛮 㛼 嬈 嬾 嬾 𡧈 寃 寘 寧 寳 𡬘 寿 将 当"),
   (194677, "尢 㞁 屠 屮 峀 岍 𡷤 嵃 𡷦 嵮 嵫 嵼 巡 巢 㠯 巽 帨 帽 幩 㡢 𢆃 㡼 庰 庳 庶 廊 𪎒 廾 𢌱 𢌱 舁 弢 弢 㣇 𣊸 𦇚 形 彫 㣣"),
   (194716, "徚 忍 志 忹 悁 㤺 㤜 悔 𢛔 惇 慈 慌 慎 慌 慺 憎 憲 憤 憯 懞 懲 懶 成 戛 扝 抱 拔 捐 𢬌 挽 拼 捨 掃 揤 𢯱 搢 揅 掩 㨮"),
   (194755, "摩 摾 撝 摷 㩬 敏 敬 𣀊 旣 書 晉 㬙 暑 㬈 㫤 冒 冕 最 暜 肭 䏙 朗 望 朡 杞 杓 𣏃 㭉 柺 枅 桒 梅 𣑭 梎 栟 椔 㮝 楂 榣"),
   (194794, "槪 檨 𣚣 櫛 㰘 次 𣢧 歔 㱎 歲 殟 殺 殻 𣪍 𡴋 𣫺 汎 𣲼 沿 泍 汧 洖 派 海 流 浩 浸 涅 𣴞 洴 港 湮 㴳 滋 滇 𣻑 淹 潮 𣽞"),
   (194833, "𣾎 濆 瀹 瀞 瀛 㶖 灊 災 灷 炭 𠔥 煅 𤉣 熜 𤎫 爨 爵 牐 𤘈 犀 犕 𤜵 𤠔 獺 王 㺬 玥 㺸 㺸 瑇 瑜 瑱 璅 瓊 㼛 甤 𤰶 甾 𤲒"),
   (194872, "異 𢆟 瘐 𤾡 𤾸 𥁄 㿼 䀈 直 𥃳 𥃲 𥄙 𥄳 眞 真 真 睊 䀹 瞋 䁆 䂖 𥐝 硎 碌 磌 䃣 𥘦 祖 𥚚 𥛅 福 秫 䄯 穀 穊 穏 𥥼 𥪧 𥪧"),
   (194911, "竮 䈂 𥮫 篆 築 䈧 𥲀 糒 䊠 糨 糣 紀 𥾆 絣 䌁 緇 縂 繅 䌴 𦈨 𦉇 䍙 𦋙 罺 𦌾 羕 翺 者 𦓚 𦔣 聠 𦖨 聰 𣍟 䏕 育 脃 䐋 脾"),
   (194950, "媵 𦞧 𦞵 𣎓 𣎜 舁 舄 辞 䑫 芑 芋 芝 劳 花 芳 芽 苦 𦬼 若 茝 荣 莭 茣 莽 菧 著 荓 菊 菌 菜 𦰶 𦵫 𦳕 䔫 蓱 蓳 蔖 𧏊 蕤"),
   (194989, "𦼬 䕝 䕡 𦾱 𧃒 䕫 虐 虜 虧 虩 蚩 蚈 蜎 蛢 蝹 蜨 蝫 螆 䗗 蟡 蠁 䗹 衠 衣 𧙧 裗 裞 䘵 裺 㒻 𧢮 𧥦 䚾 䛇 誠 諭 變 豕 𧲨"),
   (195028, "貫 賁 贛 起 𧼯 𠠄 跋 趼 跰 𠣞 軔 輸 𨗒 𨗭 邔 郱 鄑 𨜮 鄛 鈸 鋗 鋘 鉼 鏹 鐕 𨯺 開 䦕 閷 𨵷 䧦 雃 嶲 霣 𩅅 𩈚 䩮 䩶 韠"),
   (195067, "𩐊 䪲 𩒖 頋 頋 頩 𩖶 飢 䬳 餩 馧 駂 駾 䯎 𩬰 鬒 鱀 鳽 䳎 䳭 鵧 𪃎 䳸 𪄅 𪈎 𪊑 麻 䵖 黹 黾 鼅 鼏 鼖 鼻 𪘀")]

/-- Characters that no name has, among them those that stand for text with such an ASCII character;
angle brackets are left out, since a mark may change them. -/
def refusedRanges : List (Nat × Nat) :=
  [(128, 160), (168, 168), (175, 175), (180, 180), (184, 184), (728, 733), (888, 890), (896, 901),
   (907, 907), (909, 909), (930, 930), (1328, 1328), (1367, 1367), (1419, 1420), (1424, 1424),
   (1481, 1487), (1515, 1518), (1525, 1541), (1564, 1564), (1757, 1757), (1806, 1807), (1867, 1868),
   (1970, 1983), (2043, 2044), (2094, 2095), (2111, 2111), (2140, 2141), (2143, 2143), (2155, 2159),
   (2192, 2198), (2274, 2274), (2436, 2436), (2445, 2446), (2449, 2450), (2473, 2473), (2481, 2481),
   (2483, 2485), (2490, 2491), (2501, 2502), (2505, 2506), (2511, 2518), (2520, 2523), (2526, 2526),
   (2532, 2533), (2559, 2560), (2564, 2564), (2571, 2574), (2577, 2578), (2601, 2601), (2609, 2609),
   (2612, 2612), (2615, 2615), (2618, 2619), (2621, 2621), (2627, 2630), (2633, 2634), (2638, 2640),
   (2642, 2648), (2653, 2653), (2655, 2661), (2679, 2688), (2692, 2692), (2702, 2702), (2706, 2706),
   (2729, 2729), (2737, 2737), (2740, 2740), (2746, 2747), (2758, 2758), (2762, 2762), (2766, 2767),
   (2769, 2783), (2788, 2789), (2802, 2808), (2816, 2816), (2820, 2820), (2829, 2830), (2833, 2834),
   (2857, 2857), (2865, 2865), (2868, 2868), (2874, 2875), (2885, 2886), (2889, 2890), (2894, 2898),
   (2904, 2907), (2910, 2910), (2916, 2917), (2936, 2945), (2948, 2948), (2955, 2957), (2961, 2961),
   (2966, 2968), (2971, 2971), (2973, 2973), (2976, 2978), (2981, 2983), (2987, 2989), (3002, 3005),
   (3011, 3013), (3017, 3017), (3022, 3023), (3025, 3030), (3032, 3045), (3067, 3071), (3085, 3085),
   (3089, 3089), (3113, 3113), (3130, 3131), (3141, 3141), (3145, 3145), (3150, 3156), (3159, 3159),
   (3163, 3163), (3166, 3167), (3172, 3173), (3184, 3190), (3213, 3213), (3217, 3217), (3241, 3241),
   (3252, 3252), (3258, 3259), (3269, 3269), (3273, 3273), (3278, 3284), (3287, 3291), (3295, 3295),
   (3300, 3301), (3312, 3312), (3316, 3327), (3341, 3341), (3345, 3345), (3397, 3397), (3401, 3401),
   (3408, 3411), (3428, 3429), (3456, 3456), (3460, 3460), (3479, 3481), (3506, 3506), (3516, 3516),
   (3518, 3519), (3527, 3529), (3531, 3534), (3541, 3541), (3543, 3543), (3552, 3557), (3568, 3569),
   (3573, 3584), (3643, 3646), (3676, 3712), (3715, 3715), (3717, 3717), (3723, 3723), (3748, 3748),
   (3750, 3750), (3774, 3775), (3781, 3781), (3783, 3783), (3791, 3791), (3802, 3803), (3808, 3839),
   (3912, 3912), (3949, 3952), (3992, 3992), (4029, 4029), (4045, 4045), (4059, 4095), (4294, 4294),
   (4296, 4300), (4302, 4303), (4681, 4681), (4686, 4687), (4695, 4695), (4697, 4697), (4702, 4703),
   (4745, 4745), (4750, 4751), (4785, 4785), (4790, 4791), (4799, 4799), (4801, 4801), (4806, 4807),
   (4823, 4823), (4881, 4881), (4886, 4887), (4955, 4956), (4989, 4991), (5018, 5023), (5110, 5111),
   (5118, 5119), (5760, 5760), (5789, 5791), (5881, 5887), (5910, 5918), (5943, 5951), (5972, 5983),
   (5997, 5997), (6001, 6001), (6004, 6015), (6110, 6111), (6122, 6127), (6138, 6143), (6170, 6175),
   (6265, 6271), (6315, 6319), (6390, 6399), (6431, 6431), (6444, 6447), (6460, 6463), (6465, 6467),
   (6510, 6511), (6517, 6527), (6572, 6575), (6602, 6607), (6619, 6621), (6684, 6685), (6751, 6751),
   (6781, 6782), (6794, 6799), (6810, 6815), (6830, 6831), (6879, 6879), (6892, 6911), (6989, 6989),
   (7156, 7163), (7224, 7226), (7242, 7244), (7307, 7311), (7355, 7356), (7368, 7375), (7419, 7423),
   (7958, 7959), (7966, 7967), (8006, 8007), (8014, 8015), (8024, 8024), (8026, 8026), (8028, 8028),
   (8030, 8030), (8062, 8063), (8117, 8117), (8125, 8125), (8127, 8129), (8133, 8133), (8141, 8143),
   (8148, 8149), (8156, 8159), (8173, 8174), (8176, 8177), (8181, 8181), (8189, 8202), (8206, 8207),
   (8215, 8215), (8228, 8230), (8232, 8239), (8254, 8254), (8263, 8265), (8287, 8287), (8293, 8297),
   (8306, 8307), (8335, 8335), (8388, 8399), (8433, 8449), (8453, 8454), (8588, 8591), (9258, 9279),
   (9291, 9311), (9352, 9371), (10868, 10868), (11124, 11125), (11508, 11512), (11558, 11558),
   (11560, 11564), (11566, 11567), (11624, 11630), (11633, 11646), (11671, 11679), (11687, 11687),
   (11695, 11695), (11703, 11703), (11711, 11711), (11719, 11719), (11727, 11727), (11735, 11735),
   (11743, 11743), (11870, 11871), (11873, 11903), (11930, 11930), (12020, 12031), (12246, 12288),
   (12352, 12352), (12439, 12440), (12443, 12444), (12544, 12548), (12592, 12592), (12687, 12687),
   (12774, 12783), (12831, 12831), (13250, 13250), (13255, 13255), (13272, 13272), (42125, 42127),
   (42183, 42191), (42540, 42559), (42744, 42751), (42974, 42992), (43053, 43055), (43066, 43071),
   (43128, 43135), (43206, 43213), (43226, 43231), (43348, 43358), (43389, 43391), (43470, 43470),
   (43482, 43485), (43519, 43519), (43575, 43583), (43598, 43599), (43610, 43611), (43715, 43738),
   (43767, 43776), (43783, 43784), (43791, 43792), (43799, 43807), (43815, 43815), (43823, 43823),
   (43884, 43887), (44014, 44015), (44026, 44031), (55204, 55215), (55239, 55242), (55292, 63743),
   (64110, 64111), (64218, 64255), (64263, 64274), (64280, 64284), (64311, 64311), (64317, 64317),
   (64319, 64319), (64322, 64322), (64325, 64325), (64606, 64611), (64976, 65007), (65018, 65019),
   (65042, 65043), (65046, 65046), (65049, 65055), (65072, 65072), (65095, 65100), (65106, 65107),
   (65109, 65110), (65119, 65119), (65127, 65128), (65130, 65136), (65138, 65138), (65140, 65142),
   (65144, 65144), (65146, 65146), (65148, 65148), (65150, 65150), (65277, 65278), (65280, 65280),
   (65283, 65283), (65285, 65285), (65295, 65295), (65306, 65306), (65311, 65312), (65339, 65342),
   (65372, 65372), (65471, 65473), (65480, 65481), (65488, 65489), (65496, 65497), (65501, 65503),
   (65507, 65507), (65511, 65511), (65519, 65535), (65548, 65548), (65575, 65575), (65595, 65595),
   (65598, 65598), (65614, 65615), (65630, 65663), (65787, 65791), (65795, 65798), (65844, 65846),
   (65935, 65935), (65949, 65951), (65953, 65999), (66046, 66175), (66205, 66207), (66257, 66271),
   (66300, 66303), (66340, 66348), (66379, 66383), (66427, 66431), (66462, 66462), (66500, 66503),
   (66518, 66559), (66718, 66719), (66730, 66735), (66772, 66775), (66812, 66815), (66856, 66863),
   (66916, 66926), (66939, 66939), (66955, 66955), (66963, 66963), (66966, 66966), (66978, 66978),
   (66994, 66994), (67002, 67002), (67005, 67007), (67060, 67071), (67383, 67391), (67414, 67423),
   (67432, 67455), (67462, 67462), (67505, 67505), (67515, 67583), (67590, 67591), (67593, 67593),
   (67638, 67638), (67641, 67643), (67645, 67646), (67670, 67670), (67743, 67750), (67760, 67807),
   (67827, 67827), (67830, 67834), (67868, 67870), (67898, 67902), (67930, 67967), (68024, 68027),
   (68048, 68049), (68100, 68100), (68103, 68107), (68116, 68116), (68120, 68120), (68150, 68151),
   (68155, 68158), (68169, 68175), (68185, 68191), (68256, 68287), (68327, 68330), (68343, 68351),
   (68406, 68408), (68438, 68439), (68467, 68471), (68498, 68504), (68509, 68520), (68528, 68607),
   (68681, 68735), (68787, 68799), (68851, 68857), (68904, 68911), (68922, 68927), (68966, 68968),
   (68998, 69005), (69008, 69215), (69247, 69247), (69290, 69290), (69294, 69295), (69298, 69313),
   (69320, 69327), (69337, 69369), (69416, 69423), (69466, 69487), (69514, 69551), (69580, 69599),
   (69623, 69631), (69710, 69713), (69750, 69758), (69821, 69821), (69827, 69839), (69865, 69871),
   (69882, 69887), (69941, 69941), (69960, 69967), (70007, 70015), (70112, 70112), (70133, 70143),
   (70162, 70162), (70210, 70271), (70279, 70279), (70281, 70281), (70286, 70286), (70302, 70302),
   (70314, 70319), (70379, 70383), (70394, 70399), (70404, 70404), (70413, 70414), (70417, 70418),
   (70441, 70441), (70449, 70449), (70452, 70452), (70458, 70458), (70469, 70470), (70473, 70474),
   (70478, 70479), (70481, 70486), (70488, 70492), (70500, 70501), (70509, 70511), (70517, 70527),
   (70538, 70538), (70540, 70541), (70543, 70543), (70582, 70582), (70593, 70593), (70595, 70596),
   (70598, 70598), (70603, 70603), (70614, 70614), (70617, 70624), (70627, 70655), (70748, 70748),
   (70754, 70783), (70856, 70863), (70874, 71039), (71094, 71095), (71134, 71167), (71237, 71247),
   (71258, 71263), (71277, 71295), (71354, 71359), (71370, 71375), (71396, 71423), (71451, 71452),
   (71468, 71471), (71495, 71679), (71740, 71839), (71923, 71934), (71943, 71944), (71946, 71947),
   (71956, 71956), (71959, 71959), (71990, 71990), (71993, 71994), (72007, 72015), (72026, 72095),
   (72104, 72105), (72152, 72153), (72165, 72191), (72264, 72271), (72355, 72367), (72441, 72447),
   (72458, 72543), (72552, 72639), (72674, 72687), (72698, 72703), (72713, 72713), (72759, 72759),
   (72774, 72783), (72813, 72815), (72848, 72849), (72872, 72872), (72887, 72959), (72967, 72967),
   (72970, 72970), (73015, 73017), (73019, 73019), (73022, 73022), (73032, 73039), (73050, 73055),
   (73062, 73062), (73065, 73065), (73103, 73103), (73106, 73106), (73113, 73119), (73130, 73135),
   (73180, 73183), (73194, 73199), (73201, 73439), (73465, 73471), (73489, 73489), (73531, 73533),
   (73563, 73647), (73649, 73663), (73714, 73726), (74650, 74751), (74863, 74863), (74869, 74879),
   (75076, 75087), (75399, 77711), (77811, 77823), (78896, 78911), (78934, 78943), (82939, 82943),
   (83527, 90367), (90426, 92159), (92729, 92735), (92767, 92767), (92778, 92781), (92863, 92863),
   (92874, 92879), (92910, 92911), (92918, 92927), (92998, 93007), (93018, 93018), (93026, 93026),
   (93048, 93052), (93072, 93503), (93562, 93567), (93608, 93759), (93851, 93855), (93881, 93882),
   (93908, 93951), (94027, 94030), (94088, 94094), (94112, 94175), (94181, 94191), (94199, 94207),
   (101590, 101630), (101663, 101759), (101875, 101887), (102867, 110575), (110580, 110580),
   (110588, 110588), (110591, 110591), (110883, 110897), (110899, 110927), (110931, 110932),
   (110934, 110947), (110952, 110959), (111356, 113663), (113771, 113775), (113789, 113791),
   (113801, 113807), (113818, 113819), (113828, 117759), (118013, 118015), (118452, 118457),
   (118481, 118495), (118513, 118527), (118574, 118575), (118599, 118607), (118724, 118783),
   (119030, 119039), (119079, 119080), (119275, 119295), (119366, 119487), (119508, 119519),
   (119540, 119551), (119639, 119647), (119673, 119807), (119893, 119893), (119965, 119965),
   (119968, 119969), (119971, 119972), (119975, 119976), (119981, 119981), (119994, 119994),
   (119996, 119996), (120004, 120004), (120070, 120070), (120075, 120076), (120085, 120085),
   (120093, 120093), (120122, 120122), (120127, 120127), (120133, 120133), (120135, 120137),
   (120145, 120145), (120486, 120487), (120780, 120781), (121484, 121498), (121504, 121504),
   (121520, 121599), (121856, 122623), (122655, 122660), (122667, 122879), (122887, 122887),
   (122905, 122906), (122914, 122914), (122917, 122917), (122923, 122927), (122990, 123022),
   (123024, 123135), (123181, 123183), (123198, 123199), (123210, 123213), (123216, 123535),
   (123567, 123583), (123642, 123646), (123648, 124111), (124154, 124367), (124411, 124414),
   (124416, 124607), (124639, 124639), (124662, 124669), (124672, 124895), (124903, 124903),
   (124908, 124908), (124911, 124911), (124927, 124927), (125125, 125126), (125143, 125183),
   (125260, 125263), (125274, 125277), (125280, 126064), (126133, 126208), (126270, 126463),
   (126468, 126468), (126496, 126496), (126499, 126499), (126501, 126502), (126504, 126504),
   (126515, 126515), (126520, 126520), (126522, 126522), (126524, 126529), (126531, 126534),
   (126536, 126536), (126538, 126538), (126540, 126540), (126544, 126544), (126547, 126547),
   (126549, 126550), (126552, 126552), (126554, 126554), (126556, 126556), (126558, 126558),
   (126560, 126560), (126563, 126563), (126565, 126566), (126571, 126571), (126579, 126579),
   (126584, 126584), (126589, 126589), (126591, 126591), (126602, 126602), (126620, 126624),
   (126628, 126628), (126634, 126634), (126652, 126703), (126706, 126975), (127020, 127023),
   (127124, 127135), (127151, 127152), (127168, 127168), (127184, 127184), (127222, 127232),
   (127406, 127461), (127491, 127503), (127548, 127551), (127561, 127567), (127570, 127583),
   (127590, 127743), (128730, 128731), (128749, 128751), (128765, 128767), (128986, 128991),
   (129004, 129007), (129009, 129023), (129036, 129039), (129096, 129103), (129114, 129119),
   (129160, 129167), (129198, 129199), (129212, 129215), (129218, 129231), (129241, 129279),
   (129624, 129631), (129646, 129647), (129661, 129663), (129735, 129735), (129737, 129739),
   (129758, 129758), (129772, 129774), (129787, 129791), (129939, 129939), (130043, 131071),
   (173792, 173823), (178206, 178207), (183982, 183983), (191457, 191471), (192094, 194559),
   (195102, 196607), (201547, 201551), (210042, 249855), (261184, 917759), (918000, 1114111)]

/-- ASCII characters that no name has. -/
def isDenied (c : Char) : Bool := c.toNat ≤ 32 || c.toNat = 127 || "%#/:<>?@[\\]^|".contains c

/-- The first character of each row and the words, read. -/
def words : List (Nat × List (List Char)) :=
  spellings.map fun (first, text) => (first, text.toList.splitOn ' ')

/-- The word that a character is listed with. -/
def word? (n : Nat) : Option (List Char) :=
  words.findSome? fun (first, ws) => if first ≤ n then ws[n - first]? else none

/-- The text that a character stands for, which may have characters that no name has. -/
def meaning? (c : Char) : Option (List Char) :=
  let n := c.toNat
  if n < 128 then some [c.toLower]
  else if Text.inRanges ignoredRanges c then some []
  else if Text.inRanges refusedRanges c then none
  else if pairedRanges.any fun r => r.1 ≤ n && n ≤ r.2 && (n - r.1) % 2 = 0 then
    some [Char.ofNat (n + 1)]
  else
    match shiftedRanges.find? fun r => r.1 ≤ n && n ≤ r.2.1 with
    | some (first, _, image) => some [Char.ofNat (image + (n - first))]
    | none => some ((word? n).getD [c])

/-- A character that stands for itself. -/
def isSettled (c : Char) : Bool := meaning? c = some [c]

end SymbolAtlas.Host
