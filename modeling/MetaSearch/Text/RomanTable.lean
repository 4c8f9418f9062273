/-!
# Romanized characters

How characters outside ASCII are written in it. A block is a code point and the romanizations from there on, one
word each: `_` stands for a space, `~` for nothing, and `\u0001` and `\u0002` for those two marks themselves.
-/

namespace MetaSearch.Text

/-- Romanizations in runs of neighbouring characters. -/
def romanBlocks : List (Nat × List String) := [
  (0xA0, ["_ ! C/ PS $? Y= | SS \" (c) a << ! ~ (r) - deg +- 2 3 ' u P * , 1 o >> _1/4 _1/2 _3/4",
    "? A A A A A A AE C E E E E I I I I D N O O O O O x O U U U U Y Th ss a a a a a a ae",
    "c e e e e i i i i d n o o o o o / o u u u u y th y"]),
  (0x100, ["A a A a A a C c C c C c C c D d D d E e E e E e E e E e G g G g G g G g H h H h I i",
    "I i I i I i I i IJ ij J j K k k L l L l L l L l L l N n N n N n 'n ng NG O o O o O o",
    "OE oe R r R r R r S s S s S s S s T t T t T t U u U u U u U u U u U u W w Y y Y Z z",
    "Z z Z z s"]),
  (0x180, ["b B B b 6 6 O C c D D D d d 3 @ E F f G G hv I I K k l l W N n O O o OI oi P p YR 2",
    "2 SH sh t T t T U u Y V Y y Z z ZH ZH zh zh 2 5 5 ts w | || |= ! DZ Dz dz LJ Lj lj",
    "NJ Nj nj A a I i O o U u U u U u U u U u @ A a A a AE ae G g G g K k O o O o ZH zh j",
    "DZ Dz dz G g HV W N n A a AE ae O o A a A a E e E e I i I i O o O o R r R r U u U u",
    "S s T t Y y H h N d OU ou Z z A a E e O o O o O o O o Y y l n t j db qp A C c L T s",
    "z ? ? B U V E e J j Q q R r Y y"]),
  (0x250, ["a a a b o c d d e @ @ e e e e j g g g g u Y h h i i I l l l lZ W W m n n n o OE O F",
    "r r r r r r r R R s S j S S t t u U v ^ w y Y z z Z Z ? ? ? C @ B E G H j k L q ? ?",
    "dz dZ dz ts tS tC fN ls lz WW ]] h h h h j r r r r w y"]),
  (0x2B9, ["' \" ` ' ` ` ' ? ? < > ^ V ^ V ' - / \\ , _ \\ / : . ` ' ^ V + - V . @ , ~"]),
  (0x2E0, ["g l s x"]),
  (0x300, ["~ ~ ~ ~ ~ ~ ~ ~ ~ ~ ~ ~ ~ ~ ~ ~ ~ ~ ~ ~ ~ ~ ~ ~ ~ ~ ~ ~ ~ ~ ~ ~ ~ ~ ~ ~ ~ ~ ~ ~ ~ ~",
    "~ ~ ~ ~ ~ ~ ~ ~ ~ ~ ~ ~ ~ ~ ~ ~ ~ ~ ~ ~ ~ ~ ~ ~ ~ ~ ~ ~ ~ ~ ~ ~ ~ ~ ~ ~ ~ ~ ~ ~ ~ ~",
    "~ ~ ~ ~ ~ ~ ~ ~ ~ ~ ~ ~ ~ ~ ~ ~ ~ ~ ~ ~ ~ ~ ~ ~ ~ ~ ~ ~"]),
  (0x374, ["' ,"]),
  (0x37A, ["~"]),
  (0x37E, ["?"]),
  (0x384, ["~ ~ A ; E E I ~ O ~ U O I A B G D E Z E Th I K L M N X O P R ~ S T U Ph Kh Ps O I U",
    "a e e i u a b g d e z e th i k l m n x o p r s s t u ph kh ps o i u o u o"]),
  (0x3D0, ["b th U U U ph p & ~ ~ St st W w Q q Sp sp Sh sh F f Kh kh H h G g CH ch Ti ti k r c",
    "j"]),
  (0x400, ["Ie Io Dj Gj Ie Dz I Yi J Lj Nj Tsh Kj I U Dzh A B V G D E Zh Z I I K L M N O P R S T",
    "U F Kh Ts Ch Sh Shch ' Y ' E Iu Ia a b v g d e zh z i i k l m n o p r s t u f kh ts",
    "ch sh shch ' y ' e iu ia ie io dj gj ie dz i yi j lj nj tsh kj i u dzh O o E e Ie ie",
    "E e Ie ie O o Io io Ks ks Ps ps F f Y y Y y u u O o O o Ot ot Q q *1000* ~ ~ ~ ~ ~",
    "*100.000* *1.000.000* ~ ~ \" \" R' r' G' g' G' g' G' g' Zh' zh' Z' z' K' k' K' k' K'",
    "k' K' k' N' n' Ng ng P' p' Kh kh S' s' T' t' U u U' u' Kh' kh' Tts tts Ch' ch' Ch'",
    "ch' H h Ch ch Ch' ch' ` Zh zh K' k' ~ ~ N' n' ~ ~ Ch ch ~ ~ ~ a a A a Ae ae Ie ie @",
    "@ @ @ Zh zh Z z Dz dz I i I i O o O o O o E e U u U u U u Ch ch ~ ~ Y y"]),
  (0x531, ["A B G D E Z E E T` Zh I L Kh Ts K H Dz Gh Ch M Y N Sh O Ch` P J Rh S V T R Ts` W P`",
    "K` O F"]),
  (0x561, ["a b g d e z e e t` zh i l kh ts k h dz gh ch m y n sh o ch` p j rh s v t r ts` w p`",
    "k` o f ew"]),
  (0x5D0, ["A b g d h v z KH t y k k l m m n n s ` p p TS TS k r SH t"]),
  (0x60C, [","]),
  (0x61B, [";"]),
  (0x61F, ["?"]),
  (0x621, ["~ a ' w' ~ y' ~ b @ t th j H kh d dh r z s sh S D T Z ` G"]),
  (0x640, ["~ f q k l m n h w ~ y an un in a u i W ~ ~ '"]),
  (0x660, ["0 1 2 3 4 5 6 7 8 9 % . , *"]),
  (0x67E, ["p"]),
  (0x686, ["ch"]),
  (0x698, ["zh"]),
  (0x6A9, ["k"]),
  (0x6AF, ["g"]),
  (0x6CC, ["y"]),
  (0x6F0, ["0 1 2 3 4 5 6 7 8 9"]),
  (0x1E00, ["A a B b B b B b C c D d D d D d D d D d E e E e E e E e E e F f G g H h H h H h H h",
    "H h I i I i K k K k K k L l L l L l L l M m M m M m N n N n N n N n O o O o O o O o",
    "P p P p R r R r R r R r S s S s S s S s S s T t T t T t T t U u U u U u U u U u V v",
    "V v W w W w W w W w W w X x X x Y y Z z Z z Z z h t w y a S"]),
  (0x1E9E, ["Ss"]),
  (0x1EA0, ["A a A a A a A a A a A a A a A a A a A a A a A a E e E e E e E e E e E e E e E e I i",
    "I i O o O o O o O o O o O o O o O o O o O o O o O o U u U u U u U u U u U u U u Y y",
    "Y y Y y Y y"]),
  (0x1F00, ["a a a a a a a a A A A A A A A A e e e e e e ~ ~ E E E E E E ~ ~ e e e e e e e e E E",
    "E E E E E E i i i i i i i i I I I I I I I I o o o o o o ~ ~ O O O O O O ~ ~ u u u u",
    "u u u u ~ U ~ U ~ U ~ U o o o o o o o o O O O O O O O O a a e e e e i i o o u u o o"]),
  (0x2000, ["_ _ _ _ _ _ _ _ _ _ _ ~ ~ ~ ~ ~ - - - - -- -- || \x02 ' ' , ' \" \" ,, \" + ++ * *> . ..",
    "... . \x03 \x03\x03 ~ ~ ~ ~ ~ _ %0 %00 ' '' ''' ` `` ``` ^ < > * !! !? - \x02 - ^ *** -- / -[ ]-",
    "?? ?! !? 7 PP (] [) *"]),
  (0x2070, ["0 i ~ ~ 4 5 6 7 8 9 + - = ( ) n 0 1 2 3 4 5 6 7 8 9 + - = ( )"]),
  (0x20A0, ["ECU CL Cr FF L mil N Pts Rs W NS D EUR K T Dr Pf P G A UAH C| L T Kc Rs"]),
  (0x2100, ["a/c a/s C C ~ c/o c/u ~ ~ F g H H H h ~ I I L l ~ N No (p) P P Q R R R (rx) ~ (sm)",
    "TEL (tm) ~ Z ~ ohm ~ Z ~ K A B C e e E F F M o"]),
  (0x2150, ["_1/7_ _1/9_ _1/10_ _1/3_ _2/3_ _1/5_ _2/5_ _3/5_ _4/5_ _1/6_ _5/6_ _1/8_ _3/8_ _5/8_",
    "_7/8_ _1/ I II III IV V VI VII VIII IX X XI XII L C D M i ii iii iv v vi vii viii ix",
    "x xi xii l c d m"]),
  (0x2190, ["<- | -> | <-> |"]),
  (0x2212, ["-"]),
  (0x2215, ["/ \\ *"]),
  (0x2223, ["|"]),
  (0x2236, [":"]),
  (0x223C, ["\u0001"]),
  (0x2264, ["<= >= <= >="]),
  (0x2026, ["..."]),
  (0x2460, ["1 2 3 4 5 6 7 8 9 10 11 12 13 14 15 16 17 18 19 20"]),
  (0x2474, ["(1) (2) (3) (4) (5) (6) (7) (8) (9) (10) (11) (12) (13) (14) (15) (16) (17) (18) (19) (20)"]),
  (0x2488, ["1. 2. 3. 4. 5. 6. 7. 8. 9. 10. 11. 12. 13. 14. 15. 16. 17. 18. 19. 20."]),
  (0x249C, ["(a) (b) (c) (d) (e) (f) (g) (h) (i) (j) (k) (l) (m) (n) (o) (p) (q) (r) (s)",
    "(t) (u) (v) (w) (x) (y) (z)"]),
  (0x24B6, ["A B C D E F G H I J K L M N O P Q R S T U V W X Y Z"]),
  (0x24D0, ["a b c d e f g h i j k l m n o p q r s t u v w x y z 0"]),
  (0x2500, ["- - | |"]),
  (0x25A0, ["# #"]),
  (0x25CF, ["*"]),
  (0x2605, ["* *"]),
  (0x3000, ["_ ,_ ._ \" [JIS] \" / 0 < >_ << >>_ [ ]_ \x7b \x7d_ [( )]_ @ X_ [ ]_ [[ ]]_ (( ))_ [[ ]]_ \x01_",
    "`` '' ,,"]),
  (0x3041, ["a a i i u u e e o o ka ga ki gi ku gu ke ge ko go sa za shi ji su zu se ze so zo ta",
    "da chi di tsu tsu du te de to do na ni nu ne no ha ba pa hi bi pi hu bu pu he be pe",
    "ho bo po ma mi mu me mo ya ya yu yu yo yo ra ri ru re ro wa wa wi we wo n vu"]),
  (0x309D, ["\" \""]),
  (0x30A1, ["a a i i u u e e o o ka ga ki gi ku gu ke ge ko go sa za shi ji su zu se ze so zo ta",
    "da chi di tsu tsu du te de to do na ni nu ne no ha ba pa hi bi pi hu bu pu he be pe",
    "ho bo po ma mi mu me mo ya ya yu yu yo yo ra ri ru re ro wa wa wi we wo n vu ka ke",
    "va vi ve vo * ~ \" \""]),
  (0xFF01, ["! \" # $ % & ' ( ) * + , - . / 0 1 2 3 4 5 6 7 8 9 : ; < = > ? @ A B C D E F G H I J",
    "K L M N O P Q R S T U V W X Y Z [ \\ ] ^ \x02 ` a b c d e f g h i j k l m n o p q r s t",
    "u v w x y z \x7b | \x7d \x01"]),
  (0xFB00, ["ff fi fl ffi ffl st st"]),
  (0xFEFF, ["~"]),
  (0xFE0E, ["~ ~"]),
  (0xFFFC, ["~ ~"])]

/-- The sounds of ideographs, each written with a space after it. -/
def ideographSounds : List (String × String) := [
  ("A", "阿"), ("Ai", "愛爱"), ("An", "暗"), ("Ba", "八"), ("Bai", "百白"), ("Ban", "版"), ("Bei", "北"),
  ("Ben", "本"), ("Bu", "不"), ("Cao", "草"), ("Ce", "測测"), ("Chang", "長长"), ("Che", "車车"),
  ("Chen", "陳陈"), ("Chi", "赤"), ("Chu", "出"), ("Chuan", "川"), ("Chun", "春"), ("Cun", "村"),
  ("Da", "大"), ("Dao", "刀道"), ("De", "的德"), ("Di", "地弟低第"), ("Dian", "電电店"), ("Dong", "東东冬動动"),
  ("Du", "読读都"), ("Duan", "短"), ("Duo", "多"), ("E", "俄"), ("Er", "二耳而"), ("Fa", "法"),
  ("Fen", "分"), ("Feng", "風风"), ("Fu", "父府"), ("Gang", "港鋼"), ("Gao", "高"), ("Ge", "個个歌"),
  ("Gong", "公"), ("Gu", "古"), ("Gui", "鬼"), ("Guo", "國国"), ("Hai", "海"), ("Han", "漢汉韓韩"),
  ("Hao", "好"), ("He", "和"), ("Hei", "黒黑"), ("Hong", "紅红"), ("Hou", "後后"), ("Hu", "乎胡"),
  ("Hua", "花話话画"), ("Huang", "黄黃"), ("Hui", "回"), ("Huo", "火"), ("Ji", "集撃击"), ("Jia", "家"),
  ("Jian", "剣剑見见"), ("Jie", "界"), ("Jin", "金今進进"), ("Jing", "京"), ("Jiu", "九旧"), ("Ju", "巨"),
  ("Jun", "君"), ("Kai", "開开"), ("Ke", "客"), ("Kong", "空"), ("Kou", "口"), ("Lai", "来"),
  ("Le", "楽乐"), ("Li", "力李"), ("Lian", "錬"), ("Liao", "了"), ("Lin", "林"), ("Liu", "六劉刘"),
  ("Long", "龍龙"), ("Lu", "路"), ("Ma", "馬马"), ("Mao", "猫"), ("Mei", "妹美"), ("Men", "們们門门"),
  ("Miao", "秒"), ("Ming", "明名"), ("Mu", "木母目幕"), ("Nan", "男南"), ("Nei", "内"), ("Ni", "你"),
  ("Nian", "年"), ("Niao", "鳥鸟"), ("Niu", "牛"), ("Nu", "女"), ("Ping", "平"), ("Qi", "七期气氣気"),
  ("Qian", "千前"), ("Qing", "青"), ("Qiu", "秋"), ("Qu", "区去"), ("Quan", "犬全"), ("Ren", "人"),
  ("Ri", "日"), ("Ru", "入"), ("San", "三"), ("Se", "色"), ("Sen", "森"), ("Shan", "山"),
  ("Shang", "上"), ("Shao", "少"), ("Shen", "身神"), ("Sheng", "生"), ("Shi", "世是十時时市食師师試试"),
  ("Shou", "手"), ("Shu", "書书術术"), ("Shui", "水"), ("Shuo", "説说"), ("Si", "四死私"), ("Sun", "孫孙"),
  ("Ta", "他她"), ("Tai", "台"), ("Ti", "体"), ("Tian", "天田"), ("Ting", "町"), ("Tou", "頭头"),
  ("Tu", "土"), ("Wai", "外"), ("Wan", "万萬晚晩湾完"), ("Wang", "王"), ("Wen", "文聞闻"), ("Wo", "我"),
  ("Wu", "五物吳吴"), ("Xi", "西"), ("Xia", "夏下"), ("Xian", "県县"), ("Xiang", "香"), ("Xiao", "小"),
  ("Xie", "謝谢"), ("Xin", "新心"), ("Xing", "星行"), ("Xiong", "兄"), ("Xu", "徐"), ("Xue", "学學雪"),
  ("Xun", "尋"), ("Ye", "也"), ("Yi", "一"), ("Yin", "音飲饮隠"), ("Ying", "影英"), ("You", "有友右"),
  ("Yu", "語语雨魚鱼与與"), ("Yue", "月"), ("Zai", "在"), ("Zao", "早"), ("Zhan", "戦战"), ("Zhang", "張张"),
  ("Zhe", "這这者"), ("Zheng", "争正"), ("Zhi", "之"), ("Zhong", "中"), ("Zhou", "周"), ("Zhu", "主朱"),
  ("Zi", "字子姉姊"), ("Zu", "足"), ("Zuo", "左")]

/-- The sounds that begin a syllable block. -/
def syllableHeads : List String :=
  ["g", "gg", "n", "d", "dd", "r", "m", "b", "bb", "s", "ss", "", "j", "jj", "c", "k", "t", "p", "h"]

/-- The vowels of syllable blocks. -/
def syllableVowels : List String :=
  ["a", "ae", "ya", "yae", "eo", "e", "yeo", "ye", "o", "wa", "wae", "oe", "yo", "u", "weo", "we", "wi", "yu", "eu", "yi", "i"]

/-- The sounds that end a syllable block. -/
def syllableTails : List String :=
  ["", "g", "gg", "gs", "n", "nj", "nh", "d", "l", "lg", "lm", "lb", "ls", "lt", "lp", "lh", "m",
   "b", "bs", "s", "ss", "ng", "j", "c", "k", "t", "p", "h"]

end MetaSearch.Text
