import Hypermedia.Text.LowerCase
import Hypermedia.Text.Split
/-!
# How domains are spelled

A domain is read in one spelling: capitals are small letters, and letters, digits and signs that are mere variants of
others are those others.  Some characters count for nothing, and some stand in no domain.
-/
namespace Hypermedia
namespace Domain

structure SpellingList where
  first : Nat
  spellings : String

/-- Runs of characters whose spellings advance with them.  The letters of one script stand as capitals. -/
def spellingRuns : Text.CharMap where
  runs :=
    [⟨0x13a0, 0x13f5, 1, 0x13a0⟩, ⟨0x13f8, 0x13fd, 1, 0x13f0⟩, ⟨0x1d31, 0x1d39, 2, 0x65⟩, ⟨0x1d34, 0x1d3a, 2, 0x68⟩,
      ⟨0x1dae, 0x1db1, 1, 0x272⟩, ⟨0x2074, 0x2079, 1, 0x34⟩, ⟨0x2080, 0x2089, 1, 0x30⟩, ⟨0x2096, 0x2099, 1, 0x6b⟩,
      ⟨0x2135, 0x2138, 1, 0x5d0⟩, ⟨0x2460, 0x2468, 1, 0x31⟩, ⟨0x24b6, 0x24cf, 1, 0x61⟩, ⟨0x24d0, 0x24e9, 1, 0x61⟩,
      ⟨0x313a, 0x313f, 1, 0x11b0⟩, ⟨0x3145, 0x314e, 1, 0x1109⟩, ⟨0x314f, 0x3163, 1, 0x1161⟩,
      ⟨0x3178, 0x317c, 1, 0x112b⟩, ⟨0x3269, 0x326d, 1, 0x110e⟩, ⟨0x32e4, 0x32e9, 1, 0x30ca⟩,
      ⟨0x32ee, 0x32f2, 1, 0x30de⟩, ⟨0x32f5, 0x32fa, 1, 0x30e8⟩, ⟨0x32fb, 0x32fe, 1, 0x30ef⟩,
      ⟨0xab70, 0xabbf, 1, 0x13a0⟩, ⟨0xfe41, 0xfe44, 1, 0x300c⟩, ⟨0xff01, 0xff20, 1, 0x21⟩, ⟨0xff21, 0xff3a, 1, 0x61⟩,
      ⟨0xff3b, 0xff5e, 1, 0x5b⟩, ⟨0xff85, 0xff8a, 1, 0x30ca⟩, ⟨0xff8f, 0xff93, 1, 0x30de⟩, ⟨0xff96, 0xff9b, 1, 0x30e8⟩,
      ⟨0xffaa, 0xffaf, 1, 0x11b0⟩, ⟨0xffb5, 0xffbe, 1, 0x1109⟩, ⟨0xffc2, 0xffc7, 1, 0x1161⟩,
      ⟨0xffca, 0xffcf, 1, 0x1167⟩, ⟨0xffd2, 0xffd7, 1, 0x116d⟩, ⟨0xffe9, 0xffec, 1, 0x2190⟩,
      ⟨0x1ccd6, 0x1ccef, 1, 0x61⟩, ⟨0x1ccf0, 0x1ccf9, 1, 0x30⟩, ⟨0x1d400, 0x1d419, 1, 0x61⟩,
      ⟨0x1d41a, 0x1d433, 1, 0x61⟩, ⟨0x1d434, 0x1d44d, 1, 0x61⟩, ⟨0x1d44e, 0x1d466, 2, 0x61⟩,
      ⟨0x1d457, 0x1d467, 2, 0x6a⟩, ⟨0x1d468, 0x1d481, 1, 0x61⟩, ⟨0x1d482, 0x1d49b, 1, 0x61⟩,
      ⟨0x1d4a9, 0x1d4ac, 1, 0x6e⟩, ⟨0x1d4ae, 0x1d4b5, 1, 0x73⟩, ⟨0x1d4b6, 0x1d4b9, 1, 0x61⟩,
      ⟨0x1d4bb, 0x1d4cf, 2, 0x66⟩, ⟨0x1d4c6, 0x1d4ce, 2, 0x71⟩, ⟨0x1d4d0, 0x1d4e9, 1, 0x61⟩,
      ⟨0x1d4ea, 0x1d503, 1, 0x61⟩, ⟨0x1d507, 0x1d50a, 1, 0x64⟩, ⟨0x1d50d, 0x1d514, 1, 0x6a⟩,
      ⟨0x1d516, 0x1d51c, 1, 0x73⟩, ⟨0x1d51e, 0x1d537, 1, 0x61⟩, ⟨0x1d53b, 0x1d53e, 1, 0x64⟩,
      ⟨0x1d540, 0x1d544, 1, 0x69⟩, ⟨0x1d54a, 0x1d550, 1, 0x73⟩, ⟨0x1d552, 0x1d56b, 1, 0x61⟩,
      ⟨0x1d56c, 0x1d585, 1, 0x61⟩, ⟨0x1d586, 0x1d59f, 1, 0x61⟩, ⟨0x1d5a0, 0x1d5b9, 1, 0x61⟩,
      ⟨0x1d5ba, 0x1d5d3, 1, 0x61⟩, ⟨0x1d5d4, 0x1d5ed, 1, 0x61⟩, ⟨0x1d5ee, 0x1d607, 1, 0x61⟩,
      ⟨0x1d608, 0x1d621, 1, 0x61⟩, ⟨0x1d622, 0x1d63b, 1, 0x61⟩, ⟨0x1d63c, 0x1d655, 1, 0x61⟩,
      ⟨0x1d656, 0x1d66f, 1, 0x61⟩, ⟨0x1d670, 0x1d689, 1, 0x61⟩, ⟨0x1d68a, 0x1d6a3, 1, 0x61⟩,
      ⟨0x1d6a8, 0x1d6b8, 1, 0x3b1⟩, ⟨0x1d6ba, 0x1d6c0, 1, 0x3c3⟩, ⟨0x1d6c2, 0x1d6d2, 1, 0x3b1⟩,
      ⟨0x1d6d4, 0x1d6da, 1, 0x3c3⟩, ⟨0x1d6e2, 0x1d6f2, 1, 0x3b1⟩, ⟨0x1d6f4, 0x1d6fa, 1, 0x3c3⟩,
      ⟨0x1d6fc, 0x1d70c, 1, 0x3b1⟩, ⟨0x1d70e, 0x1d714, 1, 0x3c3⟩, ⟨0x1d71c, 0x1d72c, 1, 0x3b1⟩,
      ⟨0x1d72e, 0x1d734, 1, 0x3c3⟩, ⟨0x1d736, 0x1d746, 1, 0x3b1⟩, ⟨0x1d748, 0x1d74e, 1, 0x3c3⟩,
      ⟨0x1d756, 0x1d766, 1, 0x3b1⟩, ⟨0x1d768, 0x1d76e, 1, 0x3c3⟩, ⟨0x1d770, 0x1d780, 1, 0x3b1⟩,
      ⟨0x1d782, 0x1d788, 1, 0x3c3⟩, ⟨0x1d790, 0x1d7a0, 1, 0x3b1⟩, ⟨0x1d7a2, 0x1d7a8, 1, 0x3c3⟩,
      ⟨0x1d7aa, 0x1d7ba, 1, 0x3b1⟩, ⟨0x1d7bc, 0x1d7c2, 1, 0x3c3⟩, ⟨0x1d7ce, 0x1d7d7, 1, 0x30⟩,
      ⟨0x1d7d8, 0x1d7e1, 1, 0x30⟩, ⟨0x1d7e2, 0x1d7eb, 1, 0x30⟩, ⟨0x1d7ec, 0x1d7f5, 1, 0x30⟩,
      ⟨0x1d7f6, 0x1d7ff, 1, 0x30⟩, ⟨0x1e030, 0x1e038, 1, 0x430⟩, ⟨0x1e03c, 0x1e046, 1, 0x43e⟩,
      ⟨0x1e051, 0x1e059, 1, 0x430⟩, ⟨0x1e05f, 0x1e064, 1, 0x443⟩, ⟨0x1ee0a, 0x1ee0d, 1, 0x643⟩,
      ⟨0x1ee2a, 0x1ee2d, 1, 0x643⟩, ⟨0x1f130, 0x1f149, 1, 0x61⟩, ⟨0x1fbf0, 0x1fbf9, 1, 0x30⟩]

/-- Characters that are not spelled as themselves or as their small letters, and are in no run. -/
def spellingLists : List SpellingList :=
  [⟨0xaa, "a"⟩, ⟨0xb2, "2 3"⟩, ⟨0xb5, "μ"⟩, ⟨0xb9, "1 o"⟩, ⟨0xbc, "1⁄4 1⁄2 3⁄4"⟩, ⟨0x132, "ij ij"⟩, ⟨0x13f, "l· l·"⟩,
    ⟨0x149, "ʼn"⟩, ⟨0x17f, "s"⟩, ⟨0x1c4, "dž dž dž lj lj lj nj nj nj"⟩, ⟨0x1f1, "dz dz dz"⟩,
    ⟨0x2b0, "h ɦ j r ɹ ɻ ʁ w y"⟩, ⟨0x2e0, "ɣ l s x ʕ"⟩, ⟨0x340, "̀ ́"⟩, ⟨0x343, "̓ ̈́ ι"⟩, ⟨0x374, "ʹ"⟩, ⟨0x37e, ";"⟩,
    ⟨0x387, "·"⟩, ⟨0x3d0, "β θ υ ύ ϋ φ π"⟩, ⟨0x3f0, "κ ρ σ"⟩, ⟨0x3f5, "ε"⟩, ⟨0x3f9, "σ"⟩, ⟨0x587, "եւ"⟩,
    ⟨0x675, "اٴ وٴ ۇٴ يٴ"⟩, ⟨0x958, "क़ ख़ ग़ ज़ ड़ ढ़ फ़ य़"⟩, ⟨0x9dc, "ড় ঢ়"⟩, ⟨0x9df, "য়"⟩, ⟨0xa33, "ਲ਼"⟩,
    ⟨0xa36, "ਸ਼"⟩, ⟨0xa59, "ਖ਼ ਗ਼ ਜ਼"⟩, ⟨0xa5e, "ਫ਼"⟩, ⟨0xb5c, "ଡ଼ ଢ଼"⟩, ⟨0xe33, "ํา"⟩, ⟨0xeb3, "ໍາ"⟩, ⟨0xedc, "ຫນ ຫມ"⟩,
    ⟨0xf0c, "་"⟩, ⟨0xf43, "གྷ"⟩, ⟨0xf4d, "ཌྷ"⟩, ⟨0xf52, "དྷ"⟩, ⟨0xf57, "བྷ"⟩, ⟨0xf5c, "ཛྷ"⟩, ⟨0xf69, "ཀྵ"⟩,
    ⟨0xf73, "ཱི"⟩, ⟨0xf75, "ཱུ ྲྀ ྲཱྀ ླྀ ླཱྀ"⟩, ⟨0xf81, "ཱྀ"⟩, ⟨0xf93, "ྒྷ"⟩, ⟨0xf9d, "ྜྷ"⟩, ⟨0xfa2, "ྡྷ"⟩,
    ⟨0xfa7, "ྦྷ"⟩, ⟨0xfac, "ྫྷ"⟩, ⟨0xfb9, "ྐྵ"⟩, ⟨0x10fc, "ნ"⟩, ⟨0x1c80, "в д о с т т ъ ѣ ꙋ"⟩, ⟨0x1d2c, "a æ b"⟩,
    ⟨0x1d30, "d"⟩, ⟨0x1d32, "ǝ"⟩, ⟨0x1d3c, "o ȣ p r t u w a ɐ ɑ ᴂ b d e ə ɛ ɜ g"⟩,
    ⟨0x1d4f, "k m ŋ o ɔ ᴖ ᴗ p t u ᴝ ɯ v ᴥ β γ δ φ χ i r u v β γ ρ φ χ"⟩, ⟨0x1d78, "н"⟩,
    ⟨0x1d9b, "ɒ c ɕ ð ɜ f ɟ ɡ ɥ ɨ ɩ ɪ ᵻ ʝ ɭ ᶅ ʟ ɱ ɰ"⟩, ⟨0x1db2, "ɸ ʂ ʃ ƫ ʉ ʊ ᴜ ʋ ʌ z ʐ ʑ ʒ θ"⟩, ⟨0x1e9a, "aʾ ṡ"⟩,
    ⟨0x1f71, "ά"⟩, ⟨0x1f73, "έ"⟩, ⟨0x1f75, "ή"⟩, ⟨0x1f77, "ί"⟩, ⟨0x1f79, "ό"⟩, ⟨0x1f7b, "ύ"⟩, ⟨0x1f7d, "ώ"⟩,
    ⟨0x1f80, "ἀι ἁι ἂι ἃι ἄι ἅι ἆι ἇι ἀι ἁι ἂι ἃι ἄι ἅι ἆι ἇι ἠι ἡι ἢι ἣι ἤι ἥι ἦι ἧι ἠι ἡι ἢι ἣι ἤι"⟩,
    ⟨0x1f9d, "ἥι ἦι ἧι ὠι ὡι ὢι ὣι ὤι ὥι ὦι ὧι ὠι ὡι ὢι ὣι ὤι ὥι ὦι ὧι"⟩, ⟨0x1fb2, "ὰι αι άι"⟩, ⟨0x1fb7, "ᾶι"⟩,
    ⟨0x1fbb, "ά αι"⟩, ⟨0x1fbe, "ι"⟩, ⟨0x1fc2, "ὴι ηι ήι"⟩, ⟨0x1fc7, "ῆι"⟩, ⟨0x1fc9, "έ"⟩, ⟨0x1fcb, "ή ηι"⟩,
    ⟨0x1fd3, "ΐ"⟩, ⟨0x1fdb, "ί"⟩, ⟨0x1fe3, "ΰ"⟩, ⟨0x1feb, "ύ"⟩, ⟨0x1fef, "`"⟩, ⟨0x1ff2, "ὼι ωι ώι"⟩, ⟨0x1ff7, "ῶι"⟩,
    ⟨0x1ff9, "ό"⟩, ⟨0x1ffb, "ώ ωι"⟩, ⟨0x2011, "‐"⟩, ⟨0x2033, "′′ ′′′"⟩, ⟨0x2036, "‵‵ ‵‵‵"⟩, ⟨0x203c, "!!"⟩,
    ⟨0x2057, "′′′′"⟩, ⟨0x2070, "0 i"⟩, ⟨0x207a, "+ − = ( ) n"⟩, ⟨0x208a, "+ − = ( )"⟩, ⟨0x2090, "a e o x ə h"⟩,
    ⟨0x209a, "p s t"⟩, ⟨0x20a8, "rs"⟩, ⟨0x2102, "c °c"⟩, ⟨0x2107, "ɛ"⟩, ⟨0x2109, "°f g h h h h ħ i i l l"⟩,
    ⟨0x2115, "n no"⟩, ⟨0x2119, "p q r r r"⟩, ⟨0x2120, "sm tel tm"⟩, ⟨0x2124, "z"⟩, ⟨0x2128, "z"⟩, ⟨0x212c, "b c"⟩,
    ⟨0x212f, "e e f"⟩, ⟨0x2133, "m o"⟩, ⟨0x2139, "i"⟩, ⟨0x213b, "fax π γ γ π ∑"⟩, ⟨0x2145, "d d e i j"⟩,
    ⟨0x2150, "1⁄7 1⁄9 1⁄10 1⁄3 2⁄3 1⁄5 2⁄5 3⁄5 4⁄5 1⁄6 5⁄6 1⁄8 3⁄8 5⁄8 7⁄8 1⁄ i ii iii iv v vi vii"⟩,
    ⟨0x2167, "viii ix x xi xii l c d m i ii iii iv v vi vii viii ix x xi xii l c d m"⟩, ⟨0x2189, "0⁄3"⟩,
    ⟨0x222c, "∫∫ ∫∫∫"⟩, ⟨0x222f, "∮∮ ∮∮∮"⟩, ⟨0x2329, "〈 〉"⟩,
    ⟨0x2469, "10 11 12 13 14 15 16 17 18 19 20 (1) (2) (3) (4) (5) (6) (7) (8) (9) (10) (11) (12)"⟩,
    ⟨0x2480, "(13) (14) (15) (16) (17) (18) (19) (20)"⟩,
    ⟨0x249c, "(a) (b) (c) (d) (e) (f) (g) (h) (i) (j) (k) (l) (m) (n) (o) (p) (q) (r) (s) (t) (u)"⟩,
    ⟨0x24b1, "(v) (w) (x) (y) (z)"⟩, ⟨0x24ea, "0"⟩, ⟨0x2a0c, "∫∫∫∫"⟩, ⟨0x2a75, "== ==="⟩, ⟨0x2adc, "⫝̸"⟩,
    ⟨0x2c7c, "j v"⟩, ⟨0x2d6f, "ⵡ"⟩, ⟨0x2e9f, "母"⟩, ⟨0x2ef3, "龟"⟩,
    ⟨0x2f00, "一 丨 丶 丿 乙 亅 二 亠 人 儿 入 八 冂 冖 冫 几 凵 刀 力 勹 匕 匚 匸 十 卜 卩 厂 厶 又 口 囗 土 士 夂 夊 夕 大 女 子 宀 寸 小 尢"⟩,
    ⟨0x2f2b, "尸 屮 山 巛 工 己 巾 干 幺 广 廴 廾 弋 弓 彐 彡 彳 心 戈 戶 手 支 攴 文 斗 斤 方 无 日 曰 月 木 欠 止 歹 殳 毋 比 毛 氏 气 水 火"⟩,
    ⟨0x2f56, "爪 父 爻 爿 片 牙 牛 犬 玄 玉 瓜 瓦 甘 生 用 田 疋 疒 癶 白 皮 皿 目 矛 矢 石 示 禸 禾 穴 立 竹 米 糸 缶 网 羊 羽 老 而 耒 耳 聿"⟩,
    ⟨0x2f81, "肉 臣 自 至 臼 舌 舛 舟 艮 色 艸 虍 虫 血 行 衣 襾 見 角 言 谷 豆 豕 豸 貝 赤 走 足 身 車 辛 辰 辵 邑 酉 釆 里 金 長 門 阜 隶 隹"⟩,
    ⟨0x2fac, "雨 靑 非 面 革 韋 韭 音 頁 風 飛 食 首 香 馬 骨 高 髟 鬥 鬯 鬲 鬼 魚 鳥 鹵 鹿 麥 麻 黃 黍 黑 黹 黽 鼎 鼓 鼠 鼻 齊 齒 龍 龜 龠"⟩, ⟨0x3002, "."⟩,
    ⟨0x3036, "〒"⟩, ⟨0x3038, "十 卄 卅"⟩, ⟨0x309f, "より"⟩, ⟨0x30ff, "コト"⟩, ⟨0x3131, "ᄀ ᄁ ᆪ ᄂ ᆬ ᆭ ᄃ ᄄ ᄅ"⟩,
    ⟨0x3140, "ᄚ ᄆ ᄇ ᄈ ᄡ"⟩, ⟨0x3165, "ᄔ ᄕ ᇇ ᇈ ᇌ ᇎ ᇓ ᇗ ᇙ ᄜ ᇝ ᇟ ᄝ ᄞ ᄠ ᄢ ᄣ ᄧ ᄩ"⟩,
    ⟨0x317d, "ᄲ ᄶ ᅀ ᅇ ᅌ ᇱ ᇲ ᅗ ᅘ ᅙ ᆄ ᆅ ᆈ ᆑ ᆒ ᆔ ᆞ ᆡ"⟩, ⟨0x3192, "一 二 三 四 上 中 下 甲 乙 丙 丁 天 地 人"⟩,
    ⟨0x3200, "(ᄀ) (ᄂ) (ᄃ) (ᄅ) (ᄆ) (ᄇ) (ᄉ) (ᄋ) (ᄌ) (ᄎ) (ᄏ) (ᄐ) (ᄑ) (ᄒ) (가) (나) (다) (라) (마) (바) (사)"⟩,
    ⟨0x3215, "(아) (자) (차) (카) (타) (파) (하) (주) (오전) (오후)"⟩,
    ⟨0x3220, "(一) (二) (三) (四) (五) (六) (七) (八) (九) (十) (月) (火) (水) (木) (金) (土) (日) (株) (有) (社) (名)"⟩,
    ⟨0x3235, "(特) (財) (祝) (労) (代) (呼) (学) (監) (企) (資) (協) (祭) (休) (自) (至) 問 幼 文 箏"⟩,
    ⟨0x3250, "pte 21 22 23 24 25 26 27 28 29 30 31 32 33 34 35 ᄀ ᄂ ᄃ ᄅ ᄆ ᄇ ᄉ ᄋ ᄌ"⟩,
    ⟨0x326e, "가 나 다 라 마 바 사 아 자 차 카 타 파 하 참고 주의 우"⟩,
    ⟨0x3280, "一 二 三 四 五 六 七 八 九 十 月 火 水 木 金 土 日 株 有 社 名 特 財 祝 労 秘 男 女 適 優 印 注 項 休 写 正 上 中 下 左 右 医 宗"⟩,
    ⟨0x32ab, "学 監 企 資 協 夜 36 37 38 39 40 41 42 43 44 45 46 47 48 49 50 1月 2月 3月 4月 5月 6月 7月 8月 9月"⟩,
    ⟨0x32c9, "10月 11月 12月 hg erg ev ltd ア イ ウ エ オ カ キ ク ケ コ サ シ ス セ ソ タ チ ツ テ ト"⟩, ⟨0x32ea, "ヒ フ ヘ ホ"⟩, ⟨0x32f3, "ヤ ユ"⟩,
    ⟨0x32ff, "令和 アパート アルファ アンペア アール イニング インチ ウォン エスクード エーカー オンス オーム カイリ カラット カロリー ガロン ガンマ ギガ ギニー"⟩,
    ⟨0x3312, "キュリー ギルダー キロ キログラム キロメートル キロワット グラム グラムトン クルゼイロ クローネ ケース コルナ コーポ サイクル サンチーム シリング センチ"⟩,
    ⟨0x3323, "セント ダース デシ ドル トン ナノ ノット ハイツ パーセント パーツ バーレル ピアストル ピクル ピコ ビル ファラッド フィート ブッシェル フラン ヘクタール"⟩,
    ⟨0x3337, "ペソ ペニヒ ヘルツ ペンス ページ ベータ ポイント ボルト ホン ポンド ホール ホーン マイクロ マイル マッハ マルク マンション ミクロン ミリ ミリバール メガ"⟩,
    ⟨0x334c, "メガトン メートル ヤード ヤール ユアン リットル リラ ルピー ルーブル レム レントゲン ワット 0点 1点 2点 3点 4点 5点 6点 7点 8点 9点 10点"⟩,
    ⟨0x3363, "11点 12点 13点 14点 15点 16点 17点 18点 19点 20点 21点 22点 23点 24点 hpa da au bar ov pc dm dm2 dm3"⟩,
    ⟨0x337a, "iu 平成 昭和 大正 明治 株式会社 pa na μa ma ka kb mb gb cal kcal pf nf μf μg mg kg hz khz mhz ghz"⟩,
    ⟨0x3394, "thz μl ml dl kl fm nm μm mm cm km mm2 cm2 m2 km2 mm3 cm3 m3 km3 m∕s m∕s2 pa kpa mpa"⟩,
    ⟨0x33ac, "gpa rad rad∕s rad∕s2 ps ns μs ms pv nv μv mv kv mv pw nw μw mw kw mw kω mω"⟩, ⟨0x33c3, "bq cc cd c∕kg"⟩,
    ⟨0x33c8, "db gy ha hp in kk km kt lm ln log lx mb mil mol ph"⟩,
    ⟨0x33d9, "ppm pr sr sv wb v∕m a∕m 1日 2日 3日 4日 5日 6日 7日 8日 9日 10日 11日 12日 13日 14日 15日 16日 17日 18日"⟩,
    ⟨0x33f2, "19日 20日 21日 22日 23日 24日 25日 26日 27日 28日 29日 30日 31日 gal"⟩, ⟨0xa69c, "ъ ь"⟩, ⟨0xa770, "ꝯ"⟩,
    ⟨0xa7f1, "s c f q"⟩, ⟨0xa7f8, "ħ œ"⟩, ⟨0xab5c, "ꜧ ꬷ ɫ ꭒ"⟩, ⟨0xab69, "ʍ"⟩,
    ⟨0xf900, "豈 更 車 賈 滑 串 句 龜 龜 契 金 喇 奈 懶 癩 羅 蘿 螺 裸 邏 樂 洛 烙 珞 落 酪 駱 亂 卵 欄 爛 蘭 鸞 嵐 濫 藍 襤 拉 臘 蠟 廊 朗 浪"⟩,
    ⟨0xf92b, "狼 郎 來 冷 勞 擄 櫓 爐 盧 老 蘆 虜 路 露 魯 鷺 碌 祿 綠 菉 錄 鹿 論 壟 弄 籠 聾 牢 磊 賂 雷 壘 屢 樓 淚 漏 累 縷 陋 勒 肋 凜 凌"⟩,
    ⟨0xf956, "稜 綾 菱 陵 讀 拏 樂 諾 丹 寧 怒 率 異 北 磻 便 復 不 泌 數 索 參 塞 省 葉 說 殺 辰 沈 拾 若 掠 略 亮 兩 凉 梁 糧 良 諒 量 勵 呂"⟩,
    ⟨0xf981, "女 廬 旅 濾 礪 閭 驪 麗 黎 力 曆 歷 轢 年 憐 戀 撚 漣 煉 璉 秊 練 聯 輦 蓮 連 鍊 列 劣 咽 烈 裂 說 廉 念 捻 殮 簾 獵 令 囹 寧 嶺"⟩,
    ⟨0xf9ac, "怜 玲 瑩 羚 聆 鈴 零 靈 領 例 禮 醴 隸 惡 了 僚 寮 尿 料 樂 燎 療 蓼 遼 龍 暈 阮 劉 杻 柳 流 溜 琉 留 硫 紐 類 六 戮 陸 倫 崙 淪"⟩,
    ⟨0xf9d7, "輪 律 慄 栗 率 隆 利 吏 履 易 李 梨 泥 理 痢 罹 裏 裡 里 離 匿 溺 吝 燐 璘 藺 隣 鱗 麟 林 淋 臨 立 笠 粒 狀 炙 識 什 茶 刺 切 度"⟩,
    ⟨0xfa02, "拓 糖 宅 洞 暴 輻 行 降 見 廓 兀 嗀"⟩, ⟨0xfa10, "塚"⟩, ⟨0xfa12, "晴"⟩, ⟨0xfa15, "凞 猪 益 礼 神 祥 福 靖 精 羽"⟩, ⟨0xfa20, "蘒"⟩,
    ⟨0xfa22, "諸"⟩, ⟨0xfa25, "逸 都"⟩,
    ⟨0xfa2a, "飯 飼 館 鶴 郞 隷 侮 僧 免 勉 勤 卑 喝 嘆 器 塀 墨 層 屮 悔 慨 憎 懲 敏 既 暑 梅 海 渚 漢 煮 爫 琢 碑 社 祉 祈 祐 祖 祝 禍 禎 穀"⟩,
    ⟨0xfa55, "突 節 練 縉 繁 署 者 臭 艹 艹 著 褐 視 謁 謹 賓 贈 辶 逸 難 響 頻 恵 𤋮 舘"⟩,
    ⟨0xfa70, "並 况 全 侀 充 冀 勇 勺 喝 啕 喙 嗢 塚 墳 奄 奔 婢 嬨 廒 廙 彩 徭 惘 慎 愈 憎 慠 懲 戴 揄 搜 摒 敖 晴 朗 望 杖 歹 殺 流 滛 滋 漢"⟩,
    ⟨0xfa9b, "瀞 煮 瞧 爵 犯 猪 瑱 甆 画 瘝 瘟 益 盛 直 睊 着 磌 窱 節 类 絛 練 缾 者 荒 華 蝹 襁 覆 視 調 諸 請 謁 諾 諭 謹 變 贈 輸 遲 醙 鉶"⟩,
    ⟨0xfac6, "陼 難 靖 韛 響 頋 頻 鬒 龜 𢡊 𢡄 𣏕 㮝 䀘 䀹 𥉉 𥳐 𧻓 齃 龎"⟩, ⟨0xfb00, "ff fi fl ffi ffl st st"⟩, ⟨0xfb13, "մն մե մի վն մխ"⟩,
    ⟨0xfb1d, "יִ"⟩, ⟨0xfb1f, "ײַ ע א ד ה כ ל ם ר ת + שׁ שׂ שּׁ שּׂ אַ אָ אּ בּ גּ דּ הּ וּ זּ"⟩,
    ⟨0xfb38, "טּ יּ ךּ כּ לּ"⟩, ⟨0xfb3e, "מּ"⟩, ⟨0xfb40, "נּ סּ"⟩, ⟨0xfb43, "ףּ פּ"⟩,
    ⟨0xfb46, "צּ קּ רּ שּ תּ וֹ בֿ כֿ פֿ אל ٱ ٱ ٻ ٻ ٻ ٻ پ پ پ پ ڀ ڀ ڀ ڀ ٺ ٺ ٺ ٺ ٿ ٿ ٿ ٿ ٹ ٹ ٹ ٹ ڤ ڤ"⟩,
    ⟨0xfb6c, "ڤ ڤ ڦ ڦ ڦ ڦ ڄ ڄ ڄ ڄ ڃ ڃ ڃ ڃ چ چ چ چ ڇ ڇ ڇ ڇ ڍ ڍ ڌ ڌ ڎ ڎ ڈ ڈ ژ ژ ڑ ڑ ک ک ک ک گ گ گ گ ڳ"⟩,
    ⟨0xfb97, "ڳ ڳ ڳ ڱ ڱ ڱ ڱ ں ں ڻ ڻ ڻ ڻ ۀ ۀ ہ ہ ہ ہ ھ ھ ھ ھ ے ے ۓ ۓ"⟩,
    ⟨0xfbd3, "ڭ ڭ ڭ ڭ ۇ ۇ ۆ ۆ ۈ ۈ ۇٴ ۋ ۋ ۅ ۅ ۉ ۉ ې ې ې ې ى ى ئا ئا ئە ئە ئو ئو ئۇ ئۇ ئۆ ئۆ ئۈ ئۈ ئې"⟩,
    ⟨0xfbf7, "ئې ئې ئى ئى ئى ی ی ی ی ئج ئح ئم ئى ئي بج بح بخ بم بى بي تج تح تخ تم تى تي ثج ثم ثى ثي"⟩,
    ⟨0xfc15, "جح جم حج حم خج خح خم سج سح سخ سم صح صم ضج ضح ضخ ضم طح طم ظم عج عم غج غم فج فح فخ فم فى"⟩,
    ⟨0xfc32, "في قح قم قى قي كا كج كح كخ كل كم كى كي لج لح لخ لم لى لي مج مح مخ مم مى مي نج نح نخ نم"⟩,
    ⟨0xfc4f, "نى ني هج هم هى هي يج يح يخ يم يى يي ذٰ رٰ ىٰ"⟩,
    ⟨0xfc64, "ئر ئز ئم ئن ئى ئي بر بز بم بن بى بي تر تز تم تن تى تي ثر ثز ثم ثن ثى ثي فى في قى قي كا"⟩,
    ⟨0xfc81, "كل كم كى كي لم لى لي ما مم نر نز نم نن نى ني ىٰ ير يز يم ين يى يي ئج ئح ئخ ئم ئه بج بح"⟩,
    ⟨0xfc9e, "بخ بم به تج تح تخ تم ته ثم جح جم حج حم خج خم سج سح سخ سم صح صخ صم ضج ضح ضخ ضم طح ظم عج"⟩,
    ⟨0xfcbb, "عم غج غم فج فح فخ فم قح قم كج كح كخ كل كم لج لح لخ لم له مج مح مخ مم نج نح نخ نم نه هج"⟩,
    ⟨0xfcd8, "هم هٰ يج يح يخ يم يه ئم ئه بم به تم ته ثم ثه سم سه شم شه كل كم لم نم نه يم يه ـَّ ـُّ"⟩,
    ⟨0xfcf4, "ـِّ طى طي عى عي غى غي سى سي شى شي حى حي جى جي خى خي صى صي ضى ضي شج شح شخ شم شر سر صر"⟩,
    ⟨0xfd10, "ضر طى طي عى عي غى غي سى سي شى شي حى حي جى جي خى خي صى صي ضى ضي شج شح شخ شم شر سر صر ضر"⟩,
    ⟨0xfd2d, "شج شح شخ شم سه شه طم سج سح سخ شج شح شخ طم ظم اً اً"⟩,
    ⟨0xfd50, "تجم تحج تحج تحم تخم تمج تمح تمخ جمح جمح حمي حمى سحج سجح سجى سمح سمح سمج سمم سمم صحح"⟩,
    ⟨0xfd65, "صحح صمم شحم شحم شجي شمخ شمخ شمم شمم ضحى ضخم ضخم طمح طمح طمم طمي عجم عمم عمم عمى غمم"⟩,
    ⟨0xfd7a, "غمي غمى فخم فخم قمح قمم لحم لحي لحى لجج لجج لخم لخم لمح لمح محج محم محي مجح مجم مخج"⟩, ⟨0xfd8f, "مخم"⟩,
    ⟨0xfd92, "مجخ همج همم نحم نحى نجم نجم نجى نمي نمى يمم يمم بخي تجي تجى تخي تخى تمي تمى جمي جحى"⟩,
    ⟨0xfda7, "جمى سخى صحي شحي ضحي لجي لمي يحي يجي يمي ممي قمي نحي قمح لحم عمي كمي نجح مخي لجم كمم"⟩,
    ⟨0xfdbc, "لجم نجح جحي حجي مجي فمي بحي كمم عجم صمم سخي نجي"⟩,
    ⟨0xfdf0, "صلے قلے الله اكبر محمد صلعم رسول عليه وسلم صلى"⟩, ⟨0xfdfc, "ریال"⟩, ⟨0xfe10, ", 、"⟩,
    ⟨0xfe13, ": ; ! ? 〖 〗"⟩, ⟨0xfe31, "— – _ _ ( ) \x7b \x7d 〔 〕 【 】 《 》 〈 〉"⟩, ⟨0xfe47, "[ ]"⟩, ⟨0xfe4d, "_ _ _ , 、"⟩,
    ⟨0xfe54, "; : ? ! — ( ) \x7b \x7d 〔 〕 # & * + - < > ="⟩, ⟨0xfe68, "\\ $ % @"⟩, ⟨0xfe71, "ـً"⟩, ⟨0xfe77, "ـَ"⟩,
    ⟨0xfe79, "ـُ"⟩, ⟨0xfe7b, "ـِ"⟩, ⟨0xfe7d, "ـّ"⟩,
    ⟨0xfe7f, "ـْ ء آ آ أ أ ؤ ؤ إ إ ئ ئ ئ ئ ا ا ب ب ب ب ة ة ت ت ت ت ث ث ث ث ج ج ج ج ح ح ح ح خ خ خ خ د"⟩,
    ⟨0xfeaa, "د ذ ذ ر ر ز ز س س س س ش ش ش ش ص ص ص ص ض ض ض ض ط ط ط ط ظ ظ ظ ظ ع ع ع ع غ غ غ غ ف ف ف ف"⟩,
    ⟨0xfed5, "ق ق ق ق ك ك ك ك ل ل ل ل م م م م ن ن ن ن ه ه ه ه و و ى ى ي ي ي ي لآ لآ لأ لأ لإ لإ لا"⟩, ⟨0xfefc, "لا"⟩,
    ⟨0xff5f, "⦅ ⦆ . 「 」 、 ・ ヲ ァ ィ ゥ ェ ォ ャ ュ ョ ッ ー ア イ ウ エ オ カ キ ク ケ コ サ シ ス セ ソ タ チ ツ テ ト"⟩, ⟨0xff8b, "ヒ フ ヘ ホ"⟩,
    ⟨0xff94, "ヤ ユ"⟩, ⟨0xff9c, "ワ ン ゙ ゚"⟩, ⟨0xffa1, "ᄀ ᄁ ᆪ ᄂ ᆬ ᆭ ᄃ ᄄ ᄅ"⟩, ⟨0xffb0, "ᄚ ᄆ ᄇ ᄈ ᄡ"⟩, ⟨0xffda, "ᅳ ᅴ ᅵ"⟩,
    ⟨0xffe0, "¢ £ ¬"⟩, ⟨0xffe4, "¦ ¥ ₩"⟩, ⟨0xffe8, "│"⟩, ⟨0xffed, "■ ○"⟩, ⟨0x10781, "ː ˑ æ ʙ ɓ"⟩,
    ⟨0x10787, "ʣ ꭦ ʥ ʤ ɖ ɗ ᶑ ɘ ɞ ʩ ɤ ɢ ɠ ʛ ħ ʜ ɧ ʄ ʪ ʫ ɬ 𝼄 ꞎ ɮ 𝼅 ʎ 𝼆 ø ɶ ɷ q ɺ 𝼈 ɽ ɾ ʀ ʨ ʦ ꭧ ʧ ʈ ⱱ"⟩,
    ⟨0x107b2, "ʏ ʡ ʢ ʘ ǀ ǁ ǂ 𝼊 𝼞"⟩, ⟨0x1d15e, "𝅗𝅥 𝅘𝅥 𝅘𝅥𝅮 𝅘𝅥𝅯 𝅘𝅥𝅰 𝅘𝅥𝅱 𝅘𝅥𝅲"⟩, ⟨0x1d1bb, "𝆹𝅥 𝆺𝅥 𝆹𝅥𝅮 𝆺𝅥𝅮 𝆹𝅥𝅯 𝆺𝅥𝅯"⟩,
    ⟨0x1d44f, "b"⟩, ⟨0x1d451, "d"⟩, ⟨0x1d453, "f"⟩, ⟨0x1d49c, "a"⟩, ⟨0x1d49e, "c d"⟩, ⟨0x1d4a2, "g"⟩, ⟨0x1d4a5, "j k"⟩,
    ⟨0x1d4be, "i"⟩, ⟨0x1d4c0, "k"⟩, ⟨0x1d4c2, "m"⟩, ⟨0x1d504, "a b"⟩, ⟨0x1d538, "a b"⟩, ⟨0x1d546, "o"⟩,
    ⟨0x1d6a4, "ı ȷ"⟩, ⟨0x1d6b9, "θ"⟩, ⟨0x1d6c1, "∇"⟩, ⟨0x1d6d3, "σ"⟩, ⟨0x1d6db, "∂ ε θ κ φ ρ π"⟩, ⟨0x1d6f3, "θ"⟩,
    ⟨0x1d6fb, "∇"⟩, ⟨0x1d70d, "σ"⟩, ⟨0x1d715, "∂ ε θ κ φ ρ π"⟩, ⟨0x1d72d, "θ"⟩, ⟨0x1d735, "∇"⟩, ⟨0x1d747, "σ"⟩,
    ⟨0x1d74f, "∂ ε θ κ φ ρ π"⟩, ⟨0x1d767, "θ"⟩, ⟨0x1d76f, "∇"⟩, ⟨0x1d781, "σ"⟩, ⟨0x1d789, "∂ ε θ κ φ ρ π"⟩,
    ⟨0x1d7a1, "θ"⟩, ⟨0x1d7a9, "∇"⟩, ⟨0x1d7bb, "σ"⟩, ⟨0x1d7c3, "∂ ε θ κ φ ρ π ϝ ϝ"⟩, ⟨0x1e039, "к л м"⟩,
    ⟨0x1e047, "ы э ю ꚉ ә і ј ө ү ӏ"⟩, ⟨0x1e05a, "к л о п с"⟩, ⟨0x1e065, "ъ ы ґ і ѕ џ ҫ ꙑ ұ"⟩, ⟨0x1ee00, "ا ب ج د"⟩,
    ⟨0x1ee05, "و ز ح ط ي"⟩, ⟨0x1ee0e, "س ع ف ص ق ر ش ت ث خ ذ ض ظ غ ٮ ں ڡ ٯ"⟩, ⟨0x1ee21, "ب ج"⟩, ⟨0x1ee24, "ه"⟩,
    ⟨0x1ee27, "ح"⟩, ⟨0x1ee29, "ي"⟩, ⟨0x1ee2e, "س ع ف ص ق"⟩, ⟨0x1ee34, "ش ت ث خ"⟩, ⟨0x1ee39, "ض"⟩, ⟨0x1ee3b, "غ"⟩,
    ⟨0x1ee42, "ج"⟩, ⟨0x1ee47, "ح"⟩, ⟨0x1ee49, "ي"⟩, ⟨0x1ee4b, "ل"⟩, ⟨0x1ee4d, "ن س ع"⟩, ⟨0x1ee51, "ص ق"⟩,
    ⟨0x1ee54, "ش"⟩, ⟨0x1ee57, "خ"⟩, ⟨0x1ee59, "ض"⟩, ⟨0x1ee5b, "غ"⟩, ⟨0x1ee5d, "ں"⟩, ⟨0x1ee5f, "ٯ"⟩, ⟨0x1ee61, "ب ج"⟩,
    ⟨0x1ee64, "ه"⟩, ⟨0x1ee67, "ح ط ي ك"⟩, ⟨0x1ee6c, "م ن س ع ف ص ق"⟩, ⟨0x1ee74, "ش ت ث خ"⟩, ⟨0x1ee79, "ض ظ غ ٮ"⟩,
    ⟨0x1ee7e, "ڡ"⟩, ⟨0x1ee80, "ا ب ج د ه و ز ح ط ي"⟩, ⟨0x1ee8b, "ل م ن س ع ف ص ق ر ش ت ث خ ذ ض ظ غ"⟩,
    ⟨0x1eea1, "ب ج د"⟩, ⟨0x1eea5, "و ز ح ط ي"⟩, ⟨0x1eeab, "ل م ن س ع ف ص ق ر ش ت ث خ ذ ض ظ غ"⟩,
    ⟨0x1f101, "0, 1, 2, 3, 4, 5, 6, 7, 8, 9,"⟩,
    ⟨0x1f110, "(a) (b) (c) (d) (e) (f) (g) (h) (i) (j) (k) (l) (m) (n) (o) (p) (q) (r) (s) (t) (u)"⟩,
    ⟨0x1f125, "(v) (w) (x) (y) (z) 〔s〕 c r cd wz"⟩, ⟨0x1f14a, "hv mv sd ss ppv wc"⟩, ⟨0x1f16a, "mc md mr"⟩,
    ⟨0x1f190, "dj"⟩, ⟨0x1f200, "ほか ココ サ"⟩,
    ⟨0x1f210, "手 字 双 デ 二 多 解 天 交 映 無 料 前 後 再 新 初 終 生 販 声 吹 演 投 捕 一 三 遊 左 中 右 指 走 打 禁 空 合 満 有 月 申 割 営"⟩, ⟨0x1f23b, "配"⟩,
    ⟨0x1f240, "〔本〕 〔三〕 〔二〕 〔安〕 〔点〕 〔打〕 〔盗〕 〔勝〕 〔敗〕"⟩, ⟨0x1f250, "得 可"⟩,
    ⟨0x2f800, "丽 丸 乁 𠄢 你 侮 侻 倂 偺 備 僧 像 㒞 𠘺 免 兔 兤 具 𠔜 㒹 內 再 𠕋 冗 冤 仌 冬 况 𩇟 凵 刃 㓟 刻 剆 割 剷 㔕 勇 勉 勤 勺 包 匆"⟩,
    ⟨0x2f82b, "北 卉 卑 博 即 卽 卿 卿 卿 𠨬 灰 及 叟 𠭣 叫 叱 吆 咞 吸 呈 周 咢 哶 唐 啓 啣 善 善 喙 喫 喳 嗂 圖 嘆 圗 噑 噴 切 壮 城 埴 堍 型"⟩,
    ⟨0x2f856, "堲 報 墬 𡓤 売 壷 夆 多 夢 奢 𡚨 𡛪 姬 娛 娧 姘 婦 㛮 㛼 嬈 嬾 嬾 𡧈 寃 寘 寧 寳 𡬘 寿 将 当 尢 㞁 屠 屮 峀 岍 𡷤 嵃 𡷦 嵮 嵫 嵼"⟩,
    ⟨0x2f881, "巡 巢 㠯 巽 帨 帽 幩 㡢 𢆃 㡼 庰 庳 庶 廊 𪎒 廾 𢌱 𢌱 舁 弢 弢 㣇 𣊸 𦇚 形 彫 㣣 徚 忍 志 忹 悁 㤺 㤜 悔 𢛔 惇 慈 慌 慎 慌 慺 憎"⟩,
    ⟨0x2f8ac, "憲 憤 憯 懞 懲 懶 成 戛 扝 抱 拔 捐 𢬌 挽 拼 捨 掃 揤 𢯱 搢 揅 掩 㨮 摩 摾 撝 摷 㩬 敏 敬 𣀊 旣 書 晉 㬙 暑 㬈 㫤 冒 冕 最 暜 肭"⟩,
    ⟨0x2f8d7, "䏙 朗 望 朡 杞 杓 𣏃 㭉 柺 枅 桒 梅 𣑭 梎 栟 椔 㮝 楂 榣 槪 檨 𣚣 櫛 㰘 次 𣢧 歔 㱎 歲 殟 殺 殻 𣪍 𡴋 𣫺 汎 𣲼 沿 泍 汧 洖 派 海"⟩,
    ⟨0x2f902, "流 浩 浸 涅 𣴞 洴 港 湮 㴳 滋 滇 𣻑 淹 潮 𣽞 𣾎 濆 瀹 瀞 瀛 㶖 灊 災 灷 炭 𠔥 煅 𤉣 熜 𤎫 爨 爵 牐 𤘈 犀 犕 𤜵 𤠔 獺 王 㺬 玥 㺸"⟩,
    ⟨0x2f92d, "㺸 瑇 瑜 瑱 璅 瓊 㼛 甤 𤰶 甾 𤲒 異 𢆟 瘐 𤾡 𤾸 𥁄 㿼 䀈 直 𥃳 𥃲 𥄙 𥄳 眞 真 真 睊 䀹 瞋 䁆 䂖 𥐝 硎 碌 磌 䃣 𥘦 祖 𥚚 𥛅 福 秫"⟩,
    ⟨0x2f958, "䄯 穀 穊 穏 𥥼 𥪧 𥪧 竮 䈂 𥮫 篆 築 䈧 𥲀 糒 䊠 糨 糣 紀 𥾆 絣 䌁 緇 縂 繅 䌴 𦈨 𦉇 䍙 𦋙 罺 𦌾 羕 翺 者 𦓚 𦔣 聠 𦖨 聰 𣍟 䏕 育"⟩,
    ⟨0x2f983, "脃 䐋 脾 媵 𦞧 𦞵 𣎓 𣎜 舁 舄 辞 䑫 芑 芋 芝 劳 花 芳 芽 苦 𦬼 若 茝 荣 莭 茣 莽 菧 著 荓 菊 菌 菜 𦰶 𦵫 𦳕 䔫 蓱 蓳 蔖 𧏊 蕤 𦼬"⟩,
    ⟨0x2f9ae, "䕝 䕡 𦾱 𧃒 䕫 虐 虜 虧 虩 蚩 蚈 蜎 蛢 蝹 蜨 蝫 螆 䗗 蟡 蠁 䗹 衠 衣 𧙧 裗 裞 䘵 裺 㒻 𧢮 𧥦 䚾 䛇 誠 諭 變 豕 𧲨 貫 賁 贛 起 𧼯"⟩,
    ⟨0x2f9d9, "𠠄 跋 趼 跰 𠣞 軔 輸 𨗒 𨗭 邔 郱 鄑 𨜮 鄛 鈸 鋗 鋘 鉼 鏹 鐕 𨯺 開 䦕 閷 𨵷 䧦 雃 嶲 霣 𩅅 𩈚 䩮 䩶 韠 𩐊 䪲 𩒖 頋 頋 頩 𩖶 飢 䬳"⟩,
    ⟨0x2fa04, "餩 馧 駂 駾 䯎 𩬰 鬒 鱀 鳽 䳎 䳭 鵧 𪃎 䳸 𪄅 𪈎 𪊑 麻 䵖 黹 黾 鼅 鼏 鼖 鼻 𪘀"⟩]

def ignored : Text.CharSet where
  bounds :=
    [0xad, 0xae, 0x34f, 0x350, 0x115f, 0x1161, 0x17b4, 0x17b6, 0x180b, 0x1810, 0x200b, 0x200c, 0x2060, 0x2065, 0x206a,
      0x2070, 0x3164, 0x3165, 0xfe00, 0xfe10, 0xfeff, 0xff00, 0xffa0, 0xffa1, 0x1bca0, 0x1bca4, 0x1d173, 0x1d17b,
      0xe0100, 0xe01f0]

/-- The characters that stand in no domain, among those that no run, no list and no small letter spells. -/
def refused : Text.CharSet where
  bounds :=
    [0x80, 0xa1, 0xa8, 0xa9, 0xaf, 0xb0, 0xb4, 0xb6, 0xb8, 0xbb, 0x2d8, 0x2de, 0x378, 0x37b, 0x380, 0x390, 0x3a2, 0x3ac,
      0x530, 0x559, 0x58b, 0x58d, 0x590, 0x591, 0x5c8, 0x5d0, 0x5eb, 0x5ef, 0x5f5, 0x606, 0x61c, 0x61d, 0x6dd, 0x6de,
      0x70e, 0x710, 0x74b, 0x74d, 0x7b2, 0x7c0, 0x7fb, 0x7fd, 0x82e, 0x830, 0x83f, 0x840, 0x85c, 0x85e, 0x85f, 0x860,
      0x86b, 0x870, 0x890, 0x897, 0x8e2, 0x8e3, 0x984, 0x985, 0x98d, 0x98f, 0x991, 0x993, 0x9a9, 0x9aa, 0x9b1, 0x9b2,
      0x9b3, 0x9b6, 0x9ba, 0x9bc, 0x9c5, 0x9c7, 0x9c9, 0x9cb, 0x9cf, 0x9d7, 0x9d8, 0x9e0, 0x9e4, 0x9e6, 0x9ff, 0xa01,
      0xa04, 0xa05, 0xa0b, 0xa0f, 0xa11, 0xa13, 0xa29, 0xa2a, 0xa31, 0xa32, 0xa34, 0xa35, 0xa37, 0xa38, 0xa3a, 0xa3c,
      0xa3d, 0xa3e, 0xa43, 0xa47, 0xa49, 0xa4b, 0xa4e, 0xa51, 0xa52, 0xa5c, 0xa5d, 0xa66, 0xa77, 0xa81, 0xa84, 0xa85,
      0xa8e, 0xa8f, 0xa92, 0xa93, 0xaa9, 0xaaa, 0xab1, 0xab2, 0xab4, 0xab5, 0xaba, 0xabc, 0xac6, 0xac7, 0xaca, 0xacb,
      0xace, 0xad0, 0xad1, 0xae0, 0xae4, 0xae6, 0xaf2, 0xaf9, 0xb00, 0xb01, 0xb04, 0xb05, 0xb0d, 0xb0f, 0xb11, 0xb13,
      0xb29, 0xb2a, 0xb31, 0xb32, 0xb34, 0xb35, 0xb3a, 0xb3c, 0xb45, 0xb47, 0xb49, 0xb4b, 0xb4e, 0xb55, 0xb58, 0xb5f,
      0xb64, 0xb66, 0xb78, 0xb82, 0xb84, 0xb85, 0xb8b, 0xb8e, 0xb91, 0xb92, 0xb96, 0xb99, 0xb9b, 0xb9c, 0xb9d, 0xb9e,
      0xba0, 0xba3, 0xba5, 0xba8, 0xbab, 0xbae, 0xbba, 0xbbe, 0xbc3, 0xbc6, 0xbc9, 0xbca, 0xbce, 0xbd0, 0xbd1, 0xbd7,
      0xbd8, 0xbe6, 0xbfb, 0xc00, 0xc0d, 0xc0e, 0xc11, 0xc12, 0xc29, 0xc2a, 0xc3a, 0xc3c, 0xc45, 0xc46, 0xc49, 0xc4a,
      0xc4e, 0xc55, 0xc57, 0xc58, 0xc5b, 0xc5c, 0xc5e, 0xc60, 0xc64, 0xc66, 0xc70, 0xc77, 0xc8d, 0xc8e, 0xc91, 0xc92,
      0xca9, 0xcaa, 0xcb4, 0xcb5, 0xcba, 0xcbc, 0xcc5, 0xcc6, 0xcc9, 0xcca, 0xcce, 0xcd5, 0xcd7, 0xcdc, 0xcdf, 0xce0,
      0xce4, 0xce6, 0xcf0, 0xcf1, 0xcf4, 0xd00, 0xd0d, 0xd0e, 0xd11, 0xd12, 0xd45, 0xd46, 0xd49, 0xd4a, 0xd50, 0xd54,
      0xd64, 0xd66, 0xd80, 0xd81, 0xd84, 0xd85, 0xd97, 0xd9a, 0xdb2, 0xdb3, 0xdbc, 0xdbd, 0xdbe, 0xdc0, 0xdc7, 0xdca,
      0xdcb, 0xdcf, 0xdd5, 0xdd6, 0xdd7, 0xdd8, 0xde0, 0xde6, 0xdf0, 0xdf2, 0xdf5, 0xe01, 0xe3b, 0xe3f, 0xe5c, 0xe81,
      0xe83, 0xe84, 0xe85, 0xe86, 0xe8b, 0xe8c, 0xea4, 0xea5, 0xea6, 0xea7, 0xebe, 0xec0, 0xec5, 0xec6, 0xec7, 0xec8,
      0xecf, 0xed0, 0xeda, 0xede, 0xee0, 0xf00, 0xf48, 0xf49, 0xf6d, 0xf71, 0xf98, 0xf99, 0xfbd, 0xfbe, 0xfcd, 0xfce,
      0xfdb, 0x1000, 0x10c6, 0x10d0, 0x1249, 0x124a, 0x124e, 0x1250, 0x1257, 0x1258, 0x1259, 0x125a, 0x125e, 0x1260,
      0x1289, 0x128a, 0x128e, 0x1290, 0x12b1, 0x12b2, 0x12b6, 0x12b8, 0x12bf, 0x12c0, 0x12c1, 0x12c2, 0x12c6, 0x12c8,
      0x12d7, 0x12d8, 0x1311, 0x1312, 0x1316, 0x1318, 0x135b, 0x135d, 0x137d, 0x1380, 0x139a, 0x13a0, 0x13f6, 0x1400,
      0x1680, 0x1681, 0x169d, 0x16a0, 0x16f9, 0x1700, 0x1716, 0x171f, 0x1737, 0x1740, 0x1754, 0x1760, 0x176d, 0x176e,
      0x1771, 0x1772, 0x1774, 0x1780, 0x17de, 0x17e0, 0x17ea, 0x17f0, 0x17fa, 0x1800, 0x181a, 0x1820, 0x1879, 0x1880,
      0x18ab, 0x18b0, 0x18f6, 0x1900, 0x191f, 0x1920, 0x192c, 0x1930, 0x193c, 0x1940, 0x1941, 0x1944, 0x196e, 0x1970,
      0x1975, 0x1980, 0x19ac, 0x19b0, 0x19ca, 0x19d0, 0x19db, 0x19de, 0x1a1c, 0x1a1e, 0x1a5f, 0x1a60, 0x1a7d, 0x1a7f,
      0x1a8a, 0x1a90, 0x1a9a, 0x1aa0, 0x1aae, 0x1ab0, 0x1ade, 0x1ae0, 0x1aec, 0x1b00, 0x1b4d, 0x1b4e, 0x1bf4, 0x1bfc,
      0x1c38, 0x1c3b, 0x1c4a, 0x1c4d, 0x1c8b, 0x1cc0, 0x1cc8, 0x1cd0, 0x1cfb, 0x1d00, 0x1f16, 0x1f20, 0x1f46, 0x1f50,
      0x1f58, 0x1f60, 0x1f7e, 0x1fb0, 0x1fb5, 0x1fb6, 0x1fbd, 0x1fc6, 0x1fcd, 0x1fd0, 0x1fd4, 0x1fd6, 0x1fdc, 0x1fe0,
      0x1fed, 0x1ff6, 0x1ffd, 0x200c, 0x200e, 0x2010, 0x2017, 0x2018, 0x2024, 0x2027, 0x2028, 0x2030, 0x203e, 0x203f,
      0x2047, 0x204a, 0x205f, 0x20a0, 0x20c2, 0x20d0, 0x20f1, 0x2104, 0x2105, 0x2108, 0x218c, 0x2190, 0x242a, 0x2440,
      0x244b, 0x24eb, 0x2a74, 0x2a77, 0x2b74, 0x2b76, 0x2cf4, 0x2cf9, 0x2d26, 0x2d27, 0x2d28, 0x2d2d, 0x2d2e, 0x2d30,
      0x2d68, 0x2d70, 0x2d71, 0x2d7f, 0x2d97, 0x2da0, 0x2da7, 0x2da8, 0x2daf, 0x2db0, 0x2db7, 0x2db8, 0x2dbf, 0x2dc0,
      0x2dc7, 0x2dc8, 0x2dcf, 0x2dd0, 0x2dd7, 0x2dd8, 0x2ddf, 0x2de0, 0x2e5e, 0x2e80, 0x2e9a, 0x2e9b, 0x2ef4, 0x3001,
      0x3040, 0x3041, 0x3097, 0x3099, 0x309b, 0x309d, 0x3100, 0x3105, 0x3130, 0x3190, 0x31e6, 0x31f0, 0x321f, 0x3248,
      0x33c2, 0x3400, 0xa48d, 0xa490, 0xa4c7, 0xa4d0, 0xa62c, 0xa641, 0xa6f8, 0xa700, 0xa7dd, 0xa7f6, 0xa82d, 0xa830,
      0xa83a, 0xa840, 0xa878, 0xa880, 0xa8c6, 0xa8ce, 0xa8da, 0xa8e0, 0xa954, 0xa95f, 0xa97d, 0xa980, 0xa9ce, 0xa9cf,
      0xa9da, 0xa9de, 0xa9ff, 0xaa00, 0xaa37, 0xaa40, 0xaa4e, 0xaa50, 0xaa5a, 0xaa5c, 0xaac3, 0xaadb, 0xaaf7, 0xab01,
      0xab07, 0xab09, 0xab0f, 0xab11, 0xab17, 0xab20, 0xab27, 0xab28, 0xab2f, 0xab30, 0xab6c, 0xabc0, 0xabee, 0xabf0,
      0xabfa, 0xac00, 0xd7a4, 0xd7b0, 0xd7c7, 0xd7cb, 0xd7fc, 0xfa0e, 0xfa6e, 0xfb1e, 0xfb37, 0xfbb2, 0xfc5e, 0xfd3e,
      0xfdd0, 0xfdfd, 0xfe12, 0xfe20, 0xfe30, 0xfe45, 0xfe49, 0xfe73, 0xfe74, 0x10000, 0x1000c, 0x1000d, 0x10027,
      0x10028, 0x1003b, 0x1003c, 0x1003e, 0x1003f, 0x1004e, 0x10050, 0x1005e, 0x10080, 0x100fb, 0x10100, 0x10103,
      0x10107, 0x10134, 0x10137, 0x1018f, 0x10190, 0x1019d, 0x101a0, 0x101a1, 0x101d0, 0x101fe, 0x10280, 0x1029d,
      0x102a0, 0x102d1, 0x102e0, 0x102fc, 0x10300, 0x10324, 0x1032d, 0x1034b, 0x10350, 0x1037b, 0x10380, 0x1039e,
      0x1039f, 0x103c4, 0x103c8, 0x103d6, 0x10428, 0x1049e, 0x104a0, 0x104aa, 0x104d8, 0x104fc, 0x10500, 0x10528,
      0x10530, 0x10564, 0x1056f, 0x1057b, 0x10597, 0x105a2, 0x105a3, 0x105b2, 0x105b3, 0x105ba, 0x105bb, 0x105bd,
      0x105c0, 0x105f4, 0x10600, 0x10737, 0x10740, 0x10756, 0x10760, 0x10768, 0x10780, 0x10786, 0x10800, 0x10806,
      0x10808, 0x10809, 0x1080a, 0x10836, 0x10837, 0x10839, 0x1083c, 0x1083d, 0x1083f, 0x10856, 0x10857, 0x1089f,
      0x108a7, 0x108b0, 0x108e0, 0x108f3, 0x108f4, 0x108f6, 0x108fb, 0x1091c, 0x1091f, 0x1093a, 0x1093f, 0x1095a,
      0x10980, 0x109b8, 0x109bc, 0x109d0, 0x109d2, 0x10a04, 0x10a05, 0x10a07, 0x10a0c, 0x10a14, 0x10a15, 0x10a18,
      0x10a19, 0x10a36, 0x10a38, 0x10a3b, 0x10a3f, 0x10a49, 0x10a50, 0x10a59, 0x10a60, 0x10aa0, 0x10ac0, 0x10ae7,
      0x10aeb, 0x10af7, 0x10b00, 0x10b36, 0x10b39, 0x10b56, 0x10b58, 0x10b73, 0x10b78, 0x10b92, 0x10b99, 0x10b9d,
      0x10ba9, 0x10bb0, 0x10c00, 0x10c49, 0x10cc0, 0x10cf3, 0x10cfa, 0x10d28, 0x10d30, 0x10d3a, 0x10d40, 0x10d66,
      0x10d69, 0x10d86, 0x10d8e, 0x10d90, 0x10e60, 0x10e7f, 0x10e80, 0x10eaa, 0x10eab, 0x10eae, 0x10eb0, 0x10eb2,
      0x10ec2, 0x10ec8, 0x10ed0, 0x10ed9, 0x10efa, 0x10f28, 0x10f30, 0x10f5a, 0x10f70, 0x10f8a, 0x10fb0, 0x10fcc,
      0x10fe0, 0x10ff7, 0x11000, 0x1104e, 0x11052, 0x11076, 0x1107f, 0x110bd, 0x110be, 0x110c3, 0x110d0, 0x110e9,
      0x110f0, 0x110fa, 0x11100, 0x11135, 0x11136, 0x11148, 0x11150, 0x11177, 0x11180, 0x111e0, 0x111e1, 0x111f5,
      0x11200, 0x11212, 0x11213, 0x11242, 0x11280, 0x11287, 0x11288, 0x11289, 0x1128a, 0x1128e, 0x1128f, 0x1129e,
      0x1129f, 0x112aa, 0x112b0, 0x112eb, 0x112f0, 0x112fa, 0x11300, 0x11304, 0x11305, 0x1130d, 0x1130f, 0x11311,
      0x11313, 0x11329, 0x1132a, 0x11331, 0x11332, 0x11334, 0x11335, 0x1133a, 0x1133b, 0x11345, 0x11347, 0x11349,
      0x1134b, 0x1134e, 0x11350, 0x11351, 0x11357, 0x11358, 0x1135d, 0x11364, 0x11366, 0x1136d, 0x11370, 0x11375,
      0x11380, 0x1138a, 0x1138b, 0x1138c, 0x1138e, 0x1138f, 0x11390, 0x113b6, 0x113b7, 0x113c1, 0x113c2, 0x113c3,
      0x113c5, 0x113c6, 0x113c7, 0x113cb, 0x113cc, 0x113d6, 0x113d7, 0x113d9, 0x113e1, 0x113e3, 0x11400, 0x1145c,
      0x1145d, 0x11462, 0x11480, 0x114c8, 0x114d0, 0x114da, 0x11580, 0x115b6, 0x115b8, 0x115de, 0x11600, 0x11645,
      0x11650, 0x1165a, 0x11660, 0x1166d, 0x11680, 0x116ba, 0x116c0, 0x116ca, 0x116d0, 0x116e4, 0x11700, 0x1171b,
      0x1171d, 0x1172c, 0x11730, 0x11747, 0x11800, 0x1183c, 0x118c0, 0x118f3, 0x118ff, 0x11907, 0x11909, 0x1190a,
      0x1190c, 0x11914, 0x11915, 0x11917, 0x11918, 0x11936, 0x11937, 0x11939, 0x1193b, 0x11947, 0x11950, 0x1195a,
      0x119a0, 0x119a8, 0x119aa, 0x119d8, 0x119da, 0x119e5, 0x11a00, 0x11a48, 0x11a50, 0x11aa3, 0x11ab0, 0x11af9,
      0x11b00, 0x11b0a, 0x11b60, 0x11b68, 0x11bc0, 0x11be2, 0x11bf0, 0x11bfa, 0x11c00, 0x11c09, 0x11c0a, 0x11c37,
      0x11c38, 0x11c46, 0x11c50, 0x11c6d, 0x11c70, 0x11c90, 0x11c92, 0x11ca8, 0x11ca9, 0x11cb7, 0x11d00, 0x11d07,
      0x11d08, 0x11d0a, 0x11d0b, 0x11d37, 0x11d3a, 0x11d3b, 0x11d3c, 0x11d3e, 0x11d3f, 0x11d48, 0x11d50, 0x11d5a,
      0x11d60, 0x11d66, 0x11d67, 0x11d69, 0x11d6a, 0x11d8f, 0x11d90, 0x11d92, 0x11d93, 0x11d99, 0x11da0, 0x11daa,
      0x11db0, 0x11ddc, 0x11de0, 0x11dea, 0x11ee0, 0x11ef9, 0x11f00, 0x11f11, 0x11f12, 0x11f3b, 0x11f3e, 0x11f5b,
      0x11fb0, 0x11fb1, 0x11fc0, 0x11ff2, 0x11fff, 0x1239a, 0x12400, 0x1246f, 0x12470, 0x12475, 0x12480, 0x12544,
      0x12f90, 0x12ff3, 0x13000, 0x13430, 0x13440, 0x13456, 0x13460, 0x143fb, 0x14400, 0x14647, 0x16100, 0x1613a,
      0x16800, 0x16a39, 0x16a40, 0x16a5f, 0x16a60, 0x16a6a, 0x16a6e, 0x16abf, 0x16ac0, 0x16aca, 0x16ad0, 0x16aee,
      0x16af0, 0x16af6, 0x16b00, 0x16b46, 0x16b50, 0x16b5a, 0x16b5b, 0x16b62, 0x16b63, 0x16b78, 0x16b7d, 0x16b90,
      0x16d40, 0x16d7a, 0x16e60, 0x16e9b, 0x16ebb, 0x16ed4, 0x16f00, 0x16f4b, 0x16f4f, 0x16f88, 0x16f8f, 0x16fa0,
      0x16fe0, 0x16fe5, 0x16ff0, 0x16ff7, 0x17000, 0x18cd6, 0x18cff, 0x18d1f, 0x18d80, 0x18df3, 0x1aff0, 0x1aff4,
      0x1aff5, 0x1affc, 0x1affd, 0x1afff, 0x1b000, 0x1b123, 0x1b132, 0x1b133, 0x1b150, 0x1b153, 0x1b155, 0x1b156,
      0x1b164, 0x1b168, 0x1b170, 0x1b2fc, 0x1bc00, 0x1bc6b, 0x1bc70, 0x1bc7d, 0x1bc80, 0x1bc89, 0x1bc90, 0x1bc9a,
      0x1bc9c, 0x1bca4, 0x1cc00, 0x1ccfd, 0x1cd00, 0x1ceb4, 0x1ceba, 0x1ced1, 0x1cee0, 0x1cef1, 0x1cf00, 0x1cf2e,
      0x1cf30, 0x1cf47, 0x1cf50, 0x1cfc4, 0x1d000, 0x1d0f6, 0x1d100, 0x1d127, 0x1d129, 0x1d1eb, 0x1d200, 0x1d246,
      0x1d2c0, 0x1d2d4, 0x1d2e0, 0x1d2f4, 0x1d300, 0x1d357, 0x1d360, 0x1d379, 0x1d800, 0x1da8c, 0x1da9b, 0x1daa0,
      0x1daa1, 0x1dab0, 0x1df00, 0x1df1f, 0x1df25, 0x1df2b, 0x1e000, 0x1e007, 0x1e008, 0x1e019, 0x1e01b, 0x1e022,
      0x1e023, 0x1e025, 0x1e026, 0x1e02b, 0x1e08f, 0x1e090, 0x1e100, 0x1e12d, 0x1e130, 0x1e13e, 0x1e140, 0x1e14a,
      0x1e14e, 0x1e150, 0x1e290, 0x1e2af, 0x1e2c0, 0x1e2fa, 0x1e2ff, 0x1e300, 0x1e4d0, 0x1e4fa, 0x1e5d0, 0x1e5fb,
      0x1e5ff, 0x1e600, 0x1e6c0, 0x1e6df, 0x1e6e0, 0x1e6f6, 0x1e6fe, 0x1e700, 0x1e7e0, 0x1e7e7, 0x1e7e8, 0x1e7ec,
      0x1e7ed, 0x1e7ef, 0x1e7f0, 0x1e7ff, 0x1e800, 0x1e8c5, 0x1e8c7, 0x1e8d7, 0x1e922, 0x1e94c, 0x1e950, 0x1e95a,
      0x1e95e, 0x1e960, 0x1ec71, 0x1ecb5, 0x1ed01, 0x1ed3e, 0x1eef0, 0x1eef2, 0x1f000, 0x1f02c, 0x1f030, 0x1f094,
      0x1f0a0, 0x1f0af, 0x1f0b1, 0x1f0c0, 0x1f0c1, 0x1f0d0, 0x1f0d1, 0x1f0f6, 0x1f10b, 0x1f1ae, 0x1f1e6, 0x1f203,
      0x1f260, 0x1f266, 0x1f300, 0x1f6d9, 0x1f6dc, 0x1f6ed, 0x1f6f0, 0x1f6fd, 0x1f700, 0x1f7da, 0x1f7e0, 0x1f7ec,
      0x1f7f0, 0x1f7f1, 0x1f800, 0x1f80c, 0x1f810, 0x1f848, 0x1f850, 0x1f85a, 0x1f860, 0x1f888, 0x1f890, 0x1f8ae,
      0x1f8b0, 0x1f8bc, 0x1f8c0, 0x1f8c2, 0x1f8d0, 0x1f8d9, 0x1f900, 0x1fa58, 0x1fa60, 0x1fa6e, 0x1fa70, 0x1fa7d,
      0x1fa80, 0x1fa8b, 0x1fa8e, 0x1fac7, 0x1fac8, 0x1fac9, 0x1facd, 0x1fadd, 0x1fadf, 0x1faeb, 0x1faef, 0x1faf9,
      0x1fb00, 0x1fb93, 0x1fb94, 0x1fbfb, 0x20000, 0x2a6e0, 0x2a700, 0x2b81e, 0x2b820, 0x2ceae, 0x2ceb0, 0x2ebe1,
      0x2ebf0, 0x2ee5e, 0x30000, 0x3134b, 0x31350, 0x3347a]

def listed? (c : Char) : Option (List Char) :=
  (spellingLists.takeWhile (·.first ≤ c.toNat)).getLast?.bind fun l =>
    (Text.splitAll (· == ' ') l.spellings.toList)[c.toNat - l.first]?

/-- The spelling of a character; a character that stands in no domain has none. -/
def spelling? (c : Char) : Option (List Char) :=
  if c.toNat < 0x80 then some [c.toLower]
  else if ignored.contains c then some []
  else match spellingRuns.image? c, listed? c, Text.lowerCase c with
    | some d, _, _ => some [d]
    | none, some ds, _ => some ds
    | none, none, ds => if ds == [c] && refused.contains c then none else some ds

end Domain
end Hypermedia
