/-
Module: AffinityPool.Text.Grid.Japanese
Purpose: Grids of Japanese characters.
Main exports:
  Grid.kanji, Grid.moreKanji, Grid.vendorKanji
-/
import AffinityPool.Text.Grid

namespace AffinityPool.Text.Grid

/-!
Rows and cells are numbered from 0x21 on; the rows of vendors go on behind 0x7E.
-/

/-- The signs, the syllables and the two levels of ideographs. -/
def kanji : Grid :=
  [⟨0x21, 0x21, "\u3000、。，．・：；？！゛゜´｀¨＾￣＿ヽヾゝゞ〃仝々〆〇ー―‐／＼〜‖｜…‥‘’“”（）〔〕［］｛｝〈〉《》「」『』【】＋−±×÷＝≠＜＞≦≧∞" ++
      "∴♂♀°′″℃￥＄¢£％＃＆＊＠§☆★○●◎◇"⟩,
   ⟨0x22, 0x21, "◆□■△▲▽▼※〒→←↑↓〓\ufffd\ufffd\ufffd\ufffd\ufffd\ufffd\ufffd\ufffd\ufffd\ufffd" ++
      "\ufffd∈∋⊆⊇⊂⊃∪∩\ufffd\ufffd\ufffd\ufffd\ufffd\ufffd\ufffd\ufffd∧∨¬⇒⇔∀∃\ufffd" ++
      "\ufffd\ufffd\ufffd\ufffd\ufffd\ufffd\ufffd\ufffd\ufffd\ufffd∠⊥⌒∂∇≡≒≪≫√∽∝∵∫∬" ++
      "\ufffd\ufffd\ufffd\ufffd\ufffd\ufffd\ufffd\u212b‰♯♭♪†‡¶\ufffd\ufffd\ufffd" ++
      "\ufffd◯"⟩,
   ⟨0x23, 0x30, "０１２３４５６７８９\ufffd\ufffd\ufffd\ufffd\ufffd\ufffd\ufffdＡＢＣＤＥＦＧＨＩＪＫＬＭＮＯＰＱＲＳＴＵＶＷＸ" ++
      "ＹＺ\ufffd\ufffd\ufffd\ufffd\ufffd\ufffdａｂｃｄｅｆｇｈｉｊｋｌｍｎｏｐｑｒｓｔｕｖｗｘｙｚ"⟩,
   ⟨0x24, 0x21, "ぁあぃいぅうぇえぉおかがきぎくぐけげこごさざしじすずせぜそぞただちぢっつづてでとどなにぬねのはばぱひびぴふぶぷへべぺほぼぽまみむめもゃやゅゆょよらりるれ" ++
      "ろゎわゐゑをん"⟩,
   ⟨0x25, 0x21, "ァアィイゥウェエォオカガキギクグケゲコゴサザシジスズセゼソゾタダチヂッツヅテデトドナニヌネノハバパヒビピフブプヘベペホボポマミムメモャヤュユョヨラリルレ" ++
      "ロヮワヰヱヲンヴヵヶ"⟩,
   ⟨0x26, 0x21, "ΑΒΓΔΕΖΗΘΙΚΛΜΝΞΟΠΡΣΤΥΦΧΨΩ\ufffd\ufffd\ufffd\ufffd\ufffd\ufffd\ufffd\ufffdαβγδ" ++
      "εζηθικλμνξοπρστυφχψω"⟩,
   ⟨0x27, 0x21, "АБВГДЕЁЖЗИЙКЛМНОПРСТУФХЦЧШЩЪЫЬЭЮЯ\ufffd\ufffd\ufffd\ufffd\ufffd\ufffd\ufffd" ++
      "\ufffd\ufffd\ufffd\ufffd\ufffd\ufffd\ufffd\ufffdабвгдеёжзийклмнопрстуфхцчшщъ" ++
      "ыьэюя"⟩,
   ⟨0x28, 0x21, "─│┌┐┘└├┬┤┴┼━┃┏┓┛┗┣┳┫┻╋┠┯┨┷┿┝┰┥┸╂"⟩,
   ⟨0x30, 0x21, "亜唖娃阿哀愛挨姶逢葵茜穐悪握渥旭葦芦鯵梓圧斡扱宛姐虻飴絢綾鮎或粟袷安庵按暗案闇鞍杏以伊位依偉囲夷委威尉惟意慰易椅為畏異移維緯胃萎衣謂違遺医井亥域育郁磯一" ++
      "壱溢逸稲茨芋鰯允印咽員因姻引飲淫胤蔭"⟩,
   ⟨0x31, 0x21, "院陰隠韻吋右宇烏羽迂雨卯鵜窺丑碓臼渦嘘唄欝蔚鰻姥厩浦瓜閏噂云運雲荏餌叡営嬰影映曳栄永泳洩瑛盈穎頴英衛詠鋭液疫益駅悦謁越閲榎厭円園堰奄宴延怨掩援沿演炎焔煙" ++
      "燕猿縁艶苑薗遠鉛鴛塩於汚甥凹央奥往応"⟩,
   ⟨0x32, 0x21, "押旺横欧殴王翁襖鴬鴎黄岡沖荻億屋憶臆桶牡乙俺卸恩温穏音下化仮何伽価佳加可嘉夏嫁家寡科暇果架歌河火珂禍禾稼箇花苛茄荷華菓蝦課嘩貨迦過霞蚊俄峨我牙画臥芽蛾賀" ++
      "雅餓駕介会解回塊壊廻快怪悔恢懐戒拐改"⟩,
   ⟨0x33, 0x21, "魁晦械海灰界皆絵芥蟹開階貝凱劾外咳害崖慨概涯碍蓋街該鎧骸浬馨蛙垣柿蛎鈎劃嚇各廓拡撹格核殻獲確穫覚角赫較郭閣隔革学岳楽額顎掛笠樫橿梶鰍潟割喝恰括活渇滑葛褐" ++
      "轄且鰹叶椛樺鞄株兜竃蒲釜鎌噛鴨栢茅萱"⟩,
   ⟨0x34, 0x21, "粥刈苅瓦乾侃冠寒刊勘勧巻喚堪姦完官寛干幹患感慣憾換敢柑桓棺款歓汗漢澗潅環甘監看竿管簡緩缶翰肝艦莞観諌貫還鑑間閑関陥韓館舘丸含岸巌玩癌眼岩翫贋雁頑顔願企伎" ++
      "危喜器基奇嬉寄岐希幾忌揮机旗既期棋棄"⟩,
   ⟨0x35, 0x21, "機帰毅気汽畿祈季稀紀徽規記貴起軌輝飢騎鬼亀偽儀妓宜戯技擬欺犠疑祇義蟻誼議掬菊鞠吉吃喫桔橘詰砧杵黍却客脚虐逆丘久仇休及吸宮弓急救朽求汲泣灸球究窮笈級糾給旧" ++
      "牛去居巨拒拠挙渠虚許距鋸漁禦魚亨享京"⟩,
   ⟨0x36, 0x21, "供侠僑兇競共凶協匡卿叫喬境峡強彊怯恐恭挟教橋況狂狭矯胸脅興蕎郷鏡響饗驚仰凝尭暁業局曲極玉桐粁僅勤均巾錦斤欣欽琴禁禽筋緊芹菌衿襟謹近金吟銀九倶句区狗玖矩苦" ++
      "躯駆駈駒具愚虞喰空偶寓遇隅串櫛釧屑屈"⟩,
   ⟨0x37, 0x21, "掘窟沓靴轡窪熊隈粂栗繰桑鍬勲君薫訓群軍郡卦袈祁係傾刑兄啓圭珪型契形径恵慶慧憩掲携敬景桂渓畦稽系経継繋罫茎荊蛍計詣警軽頚鶏芸迎鯨劇戟撃激隙桁傑欠決潔穴結血" ++
      "訣月件倹倦健兼券剣喧圏堅嫌建憲懸拳捲"⟩,
   ⟨0x38, 0x21, "検権牽犬献研硯絹県肩見謙賢軒遣鍵険顕験鹸元原厳幻弦減源玄現絃舷言諺限乎個古呼固姑孤己庫弧戸故枯湖狐糊袴股胡菰虎誇跨鈷雇顧鼓五互伍午呉吾娯後御悟梧檎瑚碁語" ++
      "誤護醐乞鯉交佼侯候倖光公功効勾厚口向"⟩,
   ⟨0x39, 0x21, "后喉坑垢好孔孝宏工巧巷幸広庚康弘恒慌抗拘控攻昂晃更杭校梗構江洪浩港溝甲皇硬稿糠紅紘絞綱耕考肯肱腔膏航荒行衡講貢購郊酵鉱砿鋼閤降項香高鴻剛劫号合壕拷濠豪轟" ++
      "麹克刻告国穀酷鵠黒獄漉腰甑忽惚骨狛込"⟩,
   ⟨0x3A, 0x21, "此頃今困坤墾婚恨懇昏昆根梱混痕紺艮魂些佐叉唆嵯左差査沙瑳砂詐鎖裟坐座挫債催再最哉塞妻宰彩才採栽歳済災采犀砕砦祭斎細菜裁載際剤在材罪財冴坂阪堺榊肴咲崎埼碕" ++
      "鷺作削咋搾昨朔柵窄策索錯桜鮭笹匙冊刷"⟩,
   ⟨0x3B, 0x21, "察拶撮擦札殺薩雑皐鯖捌錆鮫皿晒三傘参山惨撒散桟燦珊産算纂蚕讃賛酸餐斬暫残仕仔伺使刺司史嗣四士始姉姿子屍市師志思指支孜斯施旨枝止死氏獅祉私糸紙紫肢脂至視詞" ++
      "詩試誌諮資賜雌飼歯事似侍児字寺慈持時"⟩,
   ⟨0x3C, 0x21, "次滋治爾璽痔磁示而耳自蒔辞汐鹿式識鴫竺軸宍雫七叱執失嫉室悉湿漆疾質実蔀篠偲柴芝屡蕊縞舎写射捨赦斜煮社紗者謝車遮蛇邪借勺尺杓灼爵酌釈錫若寂弱惹主取守手朱殊" ++
      "狩珠種腫趣酒首儒受呪寿授樹綬需囚収周"⟩,
   ⟨0x3D, 0x21, "宗就州修愁拾洲秀秋終繍習臭舟蒐衆襲讐蹴輯週酋酬集醜什住充十従戎柔汁渋獣縦重銃叔夙宿淑祝縮粛塾熟出術述俊峻春瞬竣舜駿准循旬楯殉淳準潤盾純巡遵醇順処初所暑曙" ++
      "渚庶緒署書薯藷諸助叙女序徐恕鋤除傷償"⟩,
   ⟨0x3E, 0x21, "勝匠升召哨商唱嘗奨妾娼宵将小少尚庄床廠彰承抄招掌捷昇昌昭晶松梢樟樵沼消渉湘焼焦照症省硝礁祥称章笑粧紹肖菖蒋蕉衝裳訟証詔詳象賞醤鉦鍾鐘障鞘上丈丞乗冗剰城場" ++
      "壌嬢常情擾条杖浄状畳穣蒸譲醸錠嘱埴飾"⟩,
   ⟨0x3F, 0x21, "拭植殖燭織職色触食蝕辱尻伸信侵唇娠寝審心慎振新晋森榛浸深申疹真神秦紳臣芯薪親診身辛進針震人仁刃塵壬尋甚尽腎訊迅陣靭笥諏須酢図厨逗吹垂帥推水炊睡粋翠衰遂酔" ++
      "錐錘随瑞髄崇嵩数枢趨雛据杉椙菅頗雀裾"⟩,
   ⟨0x40, 0x21, "澄摺寸世瀬畝是凄制勢姓征性成政整星晴棲栖正清牲生盛精聖声製西誠誓請逝醒青静斉税脆隻席惜戚斥昔析石積籍績脊責赤跡蹟碩切拙接摂折設窃節説雪絶舌蝉仙先千占宣専" ++
      "尖川戦扇撰栓栴泉浅洗染潜煎煽旋穿箭線"⟩,
   ⟨0x41, 0x21, "繊羨腺舛船薦詮賎践選遷銭銑閃鮮前善漸然全禅繕膳糎噌塑岨措曾曽楚狙疏疎礎祖租粗素組蘇訴阻遡鼠僧創双叢倉喪壮奏爽宋層匝惣想捜掃挿掻操早曹巣槍槽漕燥争痩相窓糟" ++
      "総綜聡草荘葬蒼藻装走送遭鎗霜騒像増憎"⟩,
   ⟨0x42, 0x21, "臓蔵贈造促側則即息捉束測足速俗属賊族続卒袖其揃存孫尊損村遜他多太汰詑唾堕妥惰打柁舵楕陀駄騨体堆対耐岱帯待怠態戴替泰滞胎腿苔袋貸退逮隊黛鯛代台大第醍題鷹滝" ++
      "瀧卓啄宅托択拓沢濯琢託鐸濁諾茸凧蛸只"⟩,
   ⟨0x43, 0x21, "叩但達辰奪脱巽竪辿棚谷狸鱈樽誰丹単嘆坦担探旦歎淡湛炭短端箪綻耽胆蛋誕鍛団壇弾断暖檀段男談値知地弛恥智池痴稚置致蜘遅馳築畜竹筑蓄逐秩窒茶嫡着中仲宙忠抽昼柱" ++
      "注虫衷註酎鋳駐樗瀦猪苧著貯丁兆凋喋寵"⟩,
   ⟨0x44, 0x21, "帖帳庁弔張彫徴懲挑暢朝潮牒町眺聴脹腸蝶調諜超跳銚長頂鳥勅捗直朕沈珍賃鎮陳津墜椎槌追鎚痛通塚栂掴槻佃漬柘辻蔦綴鍔椿潰坪壷嬬紬爪吊釣鶴亭低停偵剃貞呈堤定帝底" ++
      "庭廷弟悌抵挺提梯汀碇禎程締艇訂諦蹄逓"⟩,
   ⟨0x45, 0x21, "邸鄭釘鼎泥摘擢敵滴的笛適鏑溺哲徹撤轍迭鉄典填天展店添纏甜貼転顛点伝殿澱田電兎吐堵塗妬屠徒斗杜渡登菟賭途都鍍砥砺努度土奴怒倒党冬凍刀唐塔塘套宕島嶋悼投搭東" ++
      "桃梼棟盗淘湯涛灯燈当痘祷等答筒糖統到"⟩,
   ⟨0x46, 0x21, "董蕩藤討謄豆踏逃透鐙陶頭騰闘働動同堂導憧撞洞瞳童胴萄道銅峠鴇匿得徳涜特督禿篤毒独読栃橡凸突椴届鳶苫寅酉瀞噸屯惇敦沌豚遁頓呑曇鈍奈那内乍凪薙謎灘捺鍋楢馴縄" ++
      "畷南楠軟難汝二尼弐迩匂賑肉虹廿日乳入"⟩,
   ⟨0x47, 0x21, "如尿韮任妊忍認濡禰祢寧葱猫熱年念捻撚燃粘乃廼之埜嚢悩濃納能脳膿農覗蚤巴把播覇杷波派琶破婆罵芭馬俳廃拝排敗杯盃牌背肺輩配倍培媒梅楳煤狽買売賠陪這蝿秤矧萩伯" ++
      "剥博拍柏泊白箔粕舶薄迫曝漠爆縛莫駁麦"⟩,
   ⟨0x48, 0x21, "函箱硲箸肇筈櫨幡肌畑畠八鉢溌発醗髪伐罰抜筏閥鳩噺塙蛤隼伴判半反叛帆搬斑板氾汎版犯班畔繁般藩販範釆煩頒飯挽晩番盤磐蕃蛮匪卑否妃庇彼悲扉批披斐比泌疲皮碑秘緋" ++
      "罷肥被誹費避非飛樋簸備尾微枇毘琵眉美"⟩,
   ⟨0x49, 0x21, "鼻柊稗匹疋髭彦膝菱肘弼必畢筆逼桧姫媛紐百謬俵彪標氷漂瓢票表評豹廟描病秒苗錨鋲蒜蛭鰭品彬斌浜瀕貧賓頻敏瓶不付埠夫婦富冨布府怖扶敷斧普浮父符腐膚芙譜負賦赴阜" ++
      "附侮撫武舞葡蕪部封楓風葺蕗伏副復幅服"⟩,
   ⟨0x4A, 0x21, "福腹複覆淵弗払沸仏物鮒分吻噴墳憤扮焚奮粉糞紛雰文聞丙併兵塀幣平弊柄並蔽閉陛米頁僻壁癖碧別瞥蔑箆偏変片篇編辺返遍便勉娩弁鞭保舗鋪圃捕歩甫補輔穂募墓慕戊暮母" ++
      "簿菩倣俸包呆報奉宝峰峯崩庖抱捧放方朋"⟩,
   ⟨0x4B, 0x21, "法泡烹砲縫胞芳萌蓬蜂褒訪豊邦鋒飽鳳鵬乏亡傍剖坊妨帽忘忙房暴望某棒冒紡肪膨謀貌貿鉾防吠頬北僕卜墨撲朴牧睦穆釦勃没殆堀幌奔本翻凡盆摩磨魔麻埋妹昧枚毎哩槙幕膜" ++
      "枕鮪柾鱒桝亦俣又抹末沫迄侭繭麿万慢満"⟩,
   ⟨0x4C, 0x21, "漫蔓味未魅巳箕岬密蜜湊蓑稔脈妙粍民眠務夢無牟矛霧鵡椋婿娘冥名命明盟迷銘鳴姪牝滅免棉綿緬面麺摸模茂妄孟毛猛盲網耗蒙儲木黙目杢勿餅尤戻籾貰問悶紋門匁也冶夜爺" ++
      "耶野弥矢厄役約薬訳躍靖柳薮鑓愉愈油癒"⟩,
   ⟨0x4D, 0x21, "諭輸唯佑優勇友宥幽悠憂揖有柚湧涌猶猷由祐裕誘遊邑郵雄融夕予余与誉輿預傭幼妖容庸揚揺擁曜楊様洋溶熔用窯羊耀葉蓉要謡踊遥陽養慾抑欲沃浴翌翼淀羅螺裸来莱頼雷洛" ++
      "絡落酪乱卵嵐欄濫藍蘭覧利吏履李梨理璃"⟩,
   ⟨0x4E, 0x21, "痢裏裡里離陸律率立葎掠略劉流溜琉留硫粒隆竜龍侶慮旅虜了亮僚両凌寮料梁涼猟療瞭稜糧良諒遼量陵領力緑倫厘林淋燐琳臨輪隣鱗麟瑠塁涙累類令伶例冷励嶺怜玲礼苓鈴隷" ++
      "零霊麗齢暦歴列劣烈裂廉恋憐漣煉簾練聯"⟩,
   ⟨0x4F, 0x21, "蓮連錬呂魯櫓炉賂路露労婁廊弄朗楼榔浪漏牢狼篭老聾蝋郎六麓禄肋録論倭和話歪賄脇惑枠鷲亙亘鰐詫藁蕨椀湾碗腕"⟩,
   ⟨0x50, 0x21, "弌丐丕个丱丶丼丿乂乖乘亂亅豫亊舒弍于亞亟亠亢亰亳亶从仍仄仆仂仗仞仭仟价伉佚估佛佝佗佇佶侈侏侘佻佩佰侑佯來侖儘俔俟俎俘俛俑俚俐俤俥倚倨倔倪倥倅伜俶倡倩倬俾" ++
      "俯們倆偃假會偕偐偈做偖偬偸傀傚傅傴傲"⟩,
   ⟨0x51, 0x21, "僉僊傳僂僖僞僥僭僣僮價僵儉儁儂儖儕儔儚儡儺儷儼儻儿兀兒兌兔兢竸兩兪兮冀冂囘册冉冏冑冓冕冖冤冦冢冩冪冫决冱冲冰况冽凅凉凛几處凩凭凰凵凾刄刋刔刎刧刪刮刳刹剏" ++
      "剄剋剌剞剔剪剴剩剳剿剽劍劔劒剱劈劑辨"⟩,
   ⟨0x52, 0x21, "辧劬劭劼劵勁勍勗勞勣勦飭勠勳勵勸勹匆匈甸匍匐匏匕匚匣匯匱匳匸區卆卅丗卉卍凖卞卩卮夘卻卷厂厖厠厦厥厮厰厶參簒雙叟曼燮叮叨叭叺吁吽呀听吭吼吮吶吩吝呎咏呵咎呟" ++
      "呱呷呰咒呻咀呶咄咐咆哇咢咸咥咬哄哈咨"⟩,
   ⟨0x53, 0x21, "咫哂咤咾咼哘哥哦唏唔哽哮哭哺哢唹啀啣啌售啜啅啖啗唸唳啝喙喀咯喊喟啻啾喘喞單啼喃喩喇喨嗚嗅嗟嗄嗜嗤嗔嘔嗷嘖嗾嗽嘛嗹噎噐營嘴嘶嘲嘸噫噤嘯噬噪嚆嚀嚊嚠嚔嚏嚥嚮" ++
      "嚶嚴囂嚼囁囃囀囈囎囑囓囗囮囹圀囿圄圉"⟩,
   ⟨0x54, 0x21, "圈國圍圓團圖嗇圜圦圷圸坎圻址坏坩埀垈坡坿垉垓垠垳垤垪垰埃埆埔埒埓堊埖埣堋堙堝塲堡塢塋塰毀塒堽塹墅墹墟墫墺壞墻墸墮壅壓壑壗壙壘壥壜壤壟壯壺壹壻壼壽夂夊夐夛" ++
      "梦夥夬夭夲夸夾竒奕奐奎奚奘奢奠奧奬奩"⟩,
   ⟨0x55, 0x21, "奸妁妝佞侫妣妲姆姨姜妍姙姚娥娟娑娜娉娚婀婬婉娵娶婢婪媚媼媾嫋嫂媽嫣嫗嫦嫩嫖嫺嫻嬌嬋嬖嬲嫐嬪嬶嬾孃孅孀孑孕孚孛孥孩孰孳孵學斈孺宀它宦宸寃寇寉寔寐寤實寢寞寥" ++
      "寫寰寶寳尅將專對尓尠尢尨尸尹屁屆屎屓"⟩,
   ⟨0x56, 0x21, "屐屏孱屬屮乢屶屹岌岑岔妛岫岻岶岼岷峅岾峇峙峩峽峺峭嶌峪崋崕崗嵜崟崛崑崔崢崚崙崘嵌嵒嵎嵋嵬嵳嵶嶇嶄嶂嶢嶝嶬嶮嶽嶐嶷嶼巉巍巓巒巖巛巫已巵帋帚帙帑帛帶帷幄幃幀" ++
      "幎幗幔幟幢幤幇幵并幺麼广庠廁廂廈廐廏"⟩,
   ⟨0x57, 0x21, "廖廣廝廚廛廢廡廨廩廬廱廳廰廴廸廾弃弉彝彜弋弑弖弩弭弸彁彈彌彎弯彑彖彗彙彡彭彳彷徃徂彿徊很徑徇從徙徘徠徨徭徼忖忻忤忸忱忝悳忿怡恠怙怐怩怎怱怛怕怫怦怏怺恚恁" ++
      "恪恷恟恊恆恍恣恃恤恂恬恫恙悁悍惧悃悚"⟩,
   ⟨0x58, 0x21, "悄悛悖悗悒悧悋惡悸惠惓悴忰悽惆悵惘慍愕愆惶惷愀惴惺愃愡惻惱愍愎慇愾愨愧慊愿愼愬愴愽慂慄慳慷慘慙慚慫慴慯慥慱慟慝慓慵憙憖憇憬憔憚憊憑憫憮懌懊應懷懈懃懆憺懋" ++
      "罹懍懦懣懶懺懴懿懽懼懾戀戈戉戍戌戔戛"⟩,
   ⟨0x59, 0x21, "戞戡截戮戰戲戳扁扎扞扣扛扠扨扼抂抉找抒抓抖拔抃抔拗拑抻拏拿拆擔拈拜拌拊拂拇抛拉挌拮拱挧挂挈拯拵捐挾捍搜捏掖掎掀掫捶掣掏掉掟掵捫捩掾揩揀揆揣揉插揶揄搖搴搆" ++
      "搓搦搶攝搗搨搏摧摯摶摎攪撕撓撥撩撈撼"⟩,
   ⟨0x5A, 0x21, "據擒擅擇撻擘擂擱擧舉擠擡抬擣擯攬擶擴擲擺攀擽攘攜攅攤攣攫攴攵攷收攸畋效敖敕敍敘敞敝敲數斂斃變斛斟斫斷旃旆旁旄旌旒旛旙无旡旱杲昊昃旻杳昵昶昴昜晏晄晉晁晞晝" ++
      "晤晧晨晟晢晰暃暈暎暉暄暘暝曁暹曉暾暼"⟩,
   ⟨0x5B, 0x21, "曄暸曖曚曠昿曦曩曰曵曷朏朖朞朦朧霸朮朿朶杁朸朷杆杞杠杙杣杤枉杰枩杼杪枌枋枦枡枅枷柯枴柬枳柩枸柤柞柝柢柮枹柎柆柧檜栞框栩桀桍栲桎梳栫桙档桷桿梟梏梭梔條梛梃" ++
      "檮梹桴梵梠梺椏梍桾椁棊椈棘椢椦棡椌棍"⟩,
   ⟨0x5C, 0x21, "棔棧棕椶椒椄棗棣椥棹棠棯椨椪椚椣椡棆楹楷楜楸楫楔楾楮椹楴椽楙椰楡楞楝榁楪榲榮槐榿槁槓榾槎寨槊槝榻槃榧樮榑榠榜榕榴槞槨樂樛槿權槹槲槧樅榱樞槭樔槫樊樒櫁樣樓" ++
      "橄樌橲樶橸橇橢橙橦橈樸樢檐檍檠檄檢檣"⟩,
   ⟨0x5D, 0x21, "檗蘗檻櫃櫂檸檳檬櫞櫑櫟檪櫚櫪櫻欅蘖櫺欒欖鬱欟欸欷盜欹飮歇歃歉歐歙歔歛歟歡歸歹歿殀殄殃殍殘殕殞殤殪殫殯殲殱殳殷殼毆毋毓毟毬毫毳毯麾氈氓气氛氤氣汞汕汢汪沂沍" ++
      "沚沁沛汾汨汳沒沐泄泱泓沽泗泅泝沮沱沾"⟩,
   ⟨0x5E, 0x21, "沺泛泯泙泪洟衍洶洫洽洸洙洵洳洒洌浣涓浤浚浹浙涎涕濤涅淹渕渊涵淇淦涸淆淬淞淌淨淒淅淺淙淤淕淪淮渭湮渮渙湲湟渾渣湫渫湶湍渟湃渺湎渤滿渝游溂溪溘滉溷滓溽溯滄溲" ++
      "滔滕溏溥滂溟潁漑灌滬滸滾漿滲漱滯漲滌"⟩,
   ⟨0x5F, 0x21, "漾漓滷澆潺潸澁澀潯潛濳潭澂潼潘澎澑濂潦澳澣澡澤澹濆澪濟濕濬濔濘濱濮濛瀉瀋濺瀑瀁瀏濾瀛瀚潴瀝瀘瀟瀰瀾瀲灑灣炙炒炯烱炬炸炳炮烟烋烝烙焉烽焜焙煥煕熈煦煢煌煖煬" ++
      "熏燻熄熕熨熬燗熹熾燒燉燔燎燠燬燧燵燼"⟩,
   ⟨0x60, 0x21, "燹燿爍爐爛爨爭爬爰爲爻爼爿牀牆牋牘牴牾犂犁犇犒犖犢犧犹犲狃狆狄狎狒狢狠狡狹狷倏猗猊猜猖猝猴猯猩猥猾獎獏默獗獪獨獰獸獵獻獺珈玳珎玻珀珥珮珞璢琅瑯琥珸琲琺瑕" ++
      "琿瑟瑙瑁瑜瑩瑰瑣瑪瑶瑾璋璞璧瓊瓏瓔珱"⟩,
   ⟨0x61, 0x21, "瓠瓣瓧瓩瓮瓲瓰瓱瓸瓷甄甃甅甌甎甍甕甓甞甦甬甼畄畍畊畉畛畆畚畩畤畧畫畭畸當疆疇畴疊疉疂疔疚疝疥疣痂疳痃疵疽疸疼疱痍痊痒痙痣痞痾痿痼瘁痰痺痲痳瘋瘍瘉瘟瘧瘠瘡" ++
      "瘢瘤瘴瘰瘻癇癈癆癜癘癡癢癨癩癪癧癬癰"⟩,
   ⟨0x62, 0x21, "癲癶癸發皀皃皈皋皎皖皓皙皚皰皴皸皹皺盂盍盖盒盞盡盥盧盪蘯盻眈眇眄眩眤眞眥眦眛眷眸睇睚睨睫睛睥睿睾睹瞎瞋瞑瞠瞞瞰瞶瞹瞿瞼瞽瞻矇矍矗矚矜矣矮矼砌砒礦砠礪硅碎" ++
      "硴碆硼碚碌碣碵碪碯磑磆磋磔碾碼磅磊磬"⟩,
   ⟨0x63, 0x21, "磧磚磽磴礇礒礑礙礬礫祀祠祗祟祚祕祓祺祿禊禝禧齋禪禮禳禹禺秉秕秧秬秡秣稈稍稘稙稠稟禀稱稻稾稷穃穗穉穡穢穩龝穰穹穽窈窗窕窘窖窩竈窰窶竅竄窿邃竇竊竍竏竕竓站竚" ++
      "竝竡竢竦竭竰笂笏笊笆笳笘笙笞笵笨笶筐"⟩,
   ⟨0x64, 0x21, "筺笄筍笋筌筅筵筥筴筧筰筱筬筮箝箘箟箍箜箚箋箒箏筝箙篋篁篌篏箴篆篝篩簑簔篦篥籠簀簇簓篳篷簗簍篶簣簧簪簟簷簫簽籌籃籔籏籀籐籘籟籤籖籥籬籵粃粐粤粭粢粫粡粨粳粲" ++
      "粱粮粹粽糀糅糂糘糒糜糢鬻糯糲糴糶糺紆"⟩,
   ⟨0x65, 0x21, "紂紜紕紊絅絋紮紲紿紵絆絳絖絎絲絨絮絏絣經綉絛綏絽綛綺綮綣綵緇綽綫總綢綯緜綸綟綰緘緝緤緞緻緲緡縅縊縣縡縒縱縟縉縋縢繆繦縻縵縹繃縷縲縺繧繝繖繞繙繚繹繪繩繼繻" ++
      "纃緕繽辮繿纈纉續纒纐纓纔纖纎纛纜缸缺"⟩,
   ⟨0x66, 0x21, "罅罌罍罎罐网罕罔罘罟罠罨罩罧罸羂羆羃羈羇羌羔羞羝羚羣羯羲羹羮羶羸譱翅翆翊翕翔翡翦翩翳翹飜耆耄耋耒耘耙耜耡耨耿耻聊聆聒聘聚聟聢聨聳聲聰聶聹聽聿肄肆肅肛肓肚" ++
      "肭冐肬胛胥胙胝胄胚胖脉胯胱脛脩脣脯腋"⟩,
   ⟨0x67, 0x21, "隋腆脾腓腑胼腱腮腥腦腴膃膈膊膀膂膠膕膤膣腟膓膩膰膵膾膸膽臀臂膺臉臍臑臙臘臈臚臟臠臧臺臻臾舁舂舅與舊舍舐舖舩舫舸舳艀艙艘艝艚艟艤艢艨艪艫舮艱艷艸艾芍芒芫芟" ++
      "芻芬苡苣苟苒苴苳苺莓范苻苹苞茆苜茉苙"⟩,
   ⟨0x68, 0x21, "茵茴茖茲茱荀茹荐荅茯茫茗茘莅莚莪莟莢莖茣莎莇莊荼莵荳荵莠莉莨菴萓菫菎菽萃菘萋菁菷萇菠菲萍萢萠莽萸蔆菻葭萪萼蕚蒄葷葫蒭葮蒂葩葆萬葯葹萵蓊葢蒹蒿蒟蓙蓍蒻蓚蓐" ++
      "蓁蓆蓖蒡蔡蓿蓴蔗蔘蔬蔟蔕蔔蓼蕀蕣蕘蕈"⟩,
   ⟨0x69, 0x21, "蕁蘂蕋蕕薀薤薈薑薊薨蕭薔薛藪薇薜蕷蕾薐藉薺藏薹藐藕藝藥藜藹蘊蘓蘋藾藺蘆蘢蘚蘰蘿虍乕虔號虧虱蚓蚣蚩蚪蚋蚌蚶蚯蛄蛆蚰蛉蠣蚫蛔蛞蛩蛬蛟蛛蛯蜒蜆蜈蜀蜃蛻蜑蜉蜍蛹" ++
      "蜊蜴蜿蜷蜻蜥蜩蜚蝠蝟蝸蝌蝎蝴蝗蝨蝮蝙"⟩,
   ⟨0x6A, 0x21, "蝓蝣蝪蠅螢螟螂螯蟋螽蟀蟐雖螫蟄螳蟇蟆螻蟯蟲蟠蠏蠍蟾蟶蟷蠎蟒蠑蠖蠕蠢蠡蠱蠶蠹蠧蠻衄衂衒衙衞衢衫袁衾袞衵衽袵衲袂袗袒袮袙袢袍袤袰袿袱裃裄裔裘裙裝裹褂裼裴裨裲" ++
      "褄褌褊褓襃褞褥褪褫襁襄褻褶褸襌褝襠襞"⟩,
   ⟨0x6B, 0x21, "襦襤襭襪襯襴襷襾覃覈覊覓覘覡覩覦覬覯覲覺覽覿觀觚觜觝觧觴觸訃訖訐訌訛訝訥訶詁詛詒詆詈詼詭詬詢誅誂誄誨誡誑誥誦誚誣諄諍諂諚諫諳諧諤諱謔諠諢諷諞諛謌謇謚諡謖" ++
      "謐謗謠謳鞫謦謫謾謨譁譌譏譎證譖譛譚譫"⟩,
   ⟨0x6C, 0x21, "譟譬譯譴譽讀讌讎讒讓讖讙讚谺豁谿豈豌豎豐豕豢豬豸豺貂貉貅貊貍貎貔豼貘戝貭貪貽貲貳貮貶賈賁賤賣賚賽賺賻贄贅贊贇贏贍贐齎贓賍贔贖赧赭赱赳趁趙跂趾趺跏跚跖跌跛" ++
      "跋跪跫跟跣跼踈踉跿踝踞踐踟蹂踵踰踴蹊"⟩,
   ⟨0x6D, 0x21, "蹇蹉蹌蹐蹈蹙蹤蹠踪蹣蹕蹶蹲蹼躁躇躅躄躋躊躓躑躔躙躪躡躬躰軆躱躾軅軈軋軛軣軼軻軫軾輊輅輕輒輙輓輜輟輛輌輦輳輻輹轅轂輾轌轉轆轎轗轜轢轣轤辜辟辣辭辯辷迚迥迢迪" ++
      "迯邇迴逅迹迺逑逕逡逍逞逖逋逧逶逵逹迸"⟩,
   ⟨0x6E, 0x21, "遏遐遑遒逎遉逾遖遘遞遨遯遶隨遲邂遽邁邀邊邉邏邨邯邱邵郢郤扈郛鄂鄒鄙鄲鄰酊酖酘酣酥酩酳酲醋醉醂醢醫醯醪醵醴醺釀釁釉釋釐釖釟釡釛釼釵釶鈞釿鈔鈬鈕鈑鉞鉗鉅鉉鉤" ++
      "鉈銕鈿鉋鉐銜銖銓銛鉚鋏銹銷鋩錏鋺鍄錮"⟩,
   ⟨0x6F, 0x21, "錙錢錚錣錺錵錻鍜鍠鍼鍮鍖鎰鎬鎭鎔鎹鏖鏗鏨鏥鏘鏃鏝鏐鏈鏤鐚鐔鐓鐃鐇鐐鐶鐫鐵鐡鐺鑁鑒鑄鑛鑠鑢鑞鑪鈩鑰鑵鑷鑽鑚鑼鑾钁鑿閂閇閊閔閖閘閙閠閨閧閭閼閻閹閾闊濶闃闍闌" ++
      "闕闔闖關闡闥闢阡阨阮阯陂陌陏陋陷陜陞"⟩,
   ⟨0x70, 0x21, "陝陟陦陲陬隍隘隕隗險隧隱隲隰隴隶隸隹雎雋雉雍襍雜霍雕雹霄霆霈霓霎霑霏霖霙霤霪霰霹霽霾靄靆靈靂靉靜靠靤靦靨勒靫靱靹鞅靼鞁靺鞆鞋鞏鞐鞜鞨鞦鞣鞳鞴韃韆韈韋韜韭" ++
      "齏韲竟韶韵頏頌頸頤頡頷頽顆顏顋顫顯顰"⟩,
   ⟨0x71, 0x21, "顱顴顳颪颯颱颶飄飃飆飩飫餃餉餒餔餘餡餝餞餤餠餬餮餽餾饂饉饅饐饋饑饒饌饕馗馘馥馭馮馼駟駛駝駘駑駭駮駱駲駻駸騁騏騅駢騙騫騷驅驂驀驃騾驕驍驛驗驟驢驥驤驩驫驪骭" ++
      "骰骼髀髏髑髓體髞髟髢髣髦髯髫髮髴髱髷"⟩,
   ⟨0x72, 0x21, "髻鬆鬘鬚鬟鬢鬣鬥鬧鬨鬩鬪鬮鬯鬲魄魃魏魍魎魑魘魴鮓鮃鮑鮖鮗鮟鮠鮨鮴鯀鯊鮹鯆鯏鯑鯒鯣鯢鯤鯔鯡鰺鯲鯱鯰鰕鰔鰉鰓鰌鰆鰈鰒鰊鰄鰮鰛鰥鰤鰡鰰鱇鰲鱆鰾鱚鱠鱧鱶鱸鳧鳬鳰" ++
      "鴉鴈鳫鴃鴆鴪鴦鶯鴣鴟鵄鴕鴒鵁鴿鴾鵆鵈"⟩,
   ⟨0x73, 0x21, "鵝鵞鵤鵑鵐鵙鵲鶉鶇鶫鵯鵺鶚鶤鶩鶲鷄鷁鶻鶸鶺鷆鷏鷂鷙鷓鷸鷦鷭鷯鷽鸚鸛鸞鹵鹹鹽麁麈麋麌麒麕麑麝麥麩麸麪麭靡黌黎黏黐黔黜點黝黠黥黨黯黴黶黷黹黻黼黽鼇鼈皷鼕鼡鼬" ++
      "鼾齊齒齔齣齟齠齡齦齧齬齪齷齲齶龕龜龠"⟩,
   ⟨0x74, 0x21, "堯槇遙瑤凜熙"⟩]

/-- Ideographs and letters that supplement the others. -/
def moreKanji : Grid :=
  [⟨0x22, 0x2F, "˘ˇ¸˙˝¯˛˚~΄΅\ufffd\ufffd\ufffd\ufffd\ufffd\ufffd\ufffd\ufffd¡¦¿\ufffd\ufffd" ++
      "\ufffd\ufffd\ufffd\ufffd\ufffd\ufffd\ufffd\ufffd\ufffd\ufffd\ufffd\ufffd" ++
      "\ufffd\ufffd\ufffd\ufffd\ufffd\ufffd\ufffd\ufffd\ufffd\ufffd\ufffd\ufffd" ++
      "\ufffd\ufffd\ufffd\ufffd\ufffd\ufffd\ufffd\ufffd\ufffd\ufffd\ufffd\ufffdºª©®" ++
      "™¤№"⟩,
   ⟨0x26, 0x61, "ΆΈΉΊΪ\ufffdΌ\ufffdΎΫ\ufffdΏ\ufffd\ufffd\ufffd\ufffdάέήίϊΐόςύϋΰώ"⟩,
   ⟨0x27, 0x42, "ЂЃЄЅІЇЈЉЊЋЌЎЏ\ufffd\ufffd\ufffd\ufffd\ufffd\ufffd\ufffd\ufffd\ufffd\ufffd" ++
      "\ufffd\ufffd\ufffd\ufffd\ufffd\ufffd\ufffd\ufffd\ufffd\ufffd\ufffd\ufffd" ++
      "\ufffd\ufffd\ufffd\ufffd\ufffd\ufffd\ufffd\ufffd\ufffd\ufffd\ufffd\ufffd" ++
      "\ufffdђѓєѕіїјљњћќўџ"⟩,
   ⟨0x29, 0x21, "ÆĐ\ufffdĦ\ufffdĲ\ufffdŁĿ\ufffdŊØŒ\ufffdŦÞ\ufffd\ufffd\ufffd\ufffd\ufffd" ++
      "\ufffd\ufffd\ufffd\ufffd\ufffd\ufffd\ufffd\ufffd\ufffd\ufffd\ufffdæđðħıĳĸłŀŉ" ++
      "ŋøœßŧþ"⟩,
   ⟨0x2A, 0x21, "ÁÀÄÂĂǍĀĄÅÃĆĈČÇĊĎÉÈËÊĚĖĒĘ\ufffdĜĞĢĠĤÍÌÏÎǏİĪĮĨĴĶĹĽĻŃŇŅÑÓÒÖÔǑŐŌÕŔŘŖŚŜŠŞŤŢÚÙÜÛŬǓ" ++
      "ŰŪŲŮŨǗǛǙǕŴÝŸŶŹŽŻ"⟩,
   ⟨0x2B, 0x21, "áàäâăǎāąåãćĉčçċďéèëêěėēęǵĝğ\ufffdġĥíìïîǐ\ufffdīįĩĵķĺľļńňņñóòöôǒőōõŕřŗśŝšşťţú" ++
      "ùüûŭǔűūųůũǘǜǚǖŵýÿŷźžż"⟩,
   ⟨0x30, 0x21, "丂丄丅丌丒丟丣两丨丫丮丯丰丵乀乁乄乇乑乚乜乣乨乩乴乵乹乿亍亖亗亝亯亹仃仐仚仛仠仡仢仨仯仱仳仵份仾仿伀伂伃伈伋伌伒伕伖众伙伮伱你伳伵伷伹伻伾佀佂佈佉佋佌佒" ++
      "佔佖佘佟佣佪佬佮佱佷佸佹佺佽佾侁侂侄"⟩,
   ⟨0x31, 0x21, "侅侉侊侌侎侐侒侓侔侗侙侚侞侟侲侷侹侻侼侽侾俀俁俅俆俈俉俋俌俍俏俒俜俠俢俰俲俼俽俿倀倁倄倇倊倌倎倐倓倗倘倛倜倝倞倢倧倮倰倲倳倵偀偁偂偅偆偊偌偎偑偒偓偗偙偟" ++
      "偠偢偣偦偧偪偭偰偱倻傁傃傄傆傊傎傏傐"⟩,
   ⟨0x32, 0x21, "傒傓傔傖傛傜傞傟傠傡傢傪傯傰傹傺傽僀僃僄僇僌僎僐僓僔僘僜僝僟僢僤僦僨僩僯僱僶僺僾儃儆儇儈儋儌儍儎僲儐儗儙儛儜儝儞儣儧儨儬儭儯儱儳儴儵儸儹兂兊兏兓兕兗兘兟" ++
      "兤兦兾冃冄冋冎冘冝冡冣冭冸冺冼冾冿凂"⟩,
   ⟨0x33, 0x21, "凈减凑凒凓凕凘凞凢凥凮凲凳凴凷刁刂刅划刓刕刖刘刢刨刱刲刵刼剅剉剕剗剘剚剜剟剠剡剦剮剷剸剹劀劂劅劊劌劓劕劖劗劘劚劜劤劥劦劧劯劰劶劷劸劺劻劽勀勄勆勈勌勏勑勔" ++
      "勖勛勜勡勥勨勩勪勬勰勱勴勶勷匀匃匊匋"⟩,
   ⟨0x34, 0x21, "匌匑匓匘匛匜匞匟匥匧匨匩匫匬匭匰匲匵匼匽匾卂卌卋卙卛卡卣卥卬卭卲卹卾厃厇厈厎厓厔厙厝厡厤厪厫厯厲厴厵厷厸厺厽叀叅叏叒叓叕叚叝叞叠另叧叵吂吓吚吡吧吨吪启吱" ++
      "吴吵呃呄呇呍呏呞呢呤呦呧呩呫呭呮呴呿"⟩,
   ⟨0x35, 0x21, "咁咃咅咈咉咍咑咕咖咜咟咡咦咧咩咪咭咮咱咷咹咺咻咿哆哊响哎哠哪哬哯哶哼哾哿唀唁唅唈唉唌唍唎唕唪唫唲唵唶唻唼唽啁啇啉啊啍啐啑啘啚啛啞啠啡啤啦啿喁喂喆喈喎喏喑" ++
      "喒喓喔喗喣喤喭喲喿嗁嗃嗆嗉嗋嗌嗎嗑嗒"⟩,
   ⟨0x36, 0x21, "嗓嗗嗘嗛嗞嗢嗩嗶嗿嘅嘈嘊嘍嘎嘏嘐嘑嘒嘙嘬嘰嘳嘵嘷嘹嘻嘼嘽嘿噀噁噃噄噆噉噋噍噏噔噞噠噡噢噣噦噩噭噯噱噲噵嚄嚅嚈嚋嚌嚕嚙嚚嚝嚞嚟嚦嚧嚨嚩嚫嚬嚭嚱嚳嚷嚾囅囉囊" ++
      "囋囏囐囌囍囙囜囝囟囡囤囥囦囧囨囱囫园"⟩,
   ⟨0x37, 0x21, "囶囷圁圂圇圊圌圑圕圚圛圝圠圢圣圤圥圩圪圬圮圯圳圴圽圾圿坅坆坌坍坒坢坥坧坨坫坭坮坯坰坱坳坴坵坷坹坺坻坼坾垁垃垌垔垗垙垚垜垝垞垟垡垕垧垨垩垬垸垽埇埈埌埏埕埝" ++
      "埞埤埦埧埩埭埰埵埶埸埽埾埿堃堄堈堉埡"⟩,
   ⟨0x38, 0x21, "堌堍堛堞堟堠堦堧堭堲堹堿塉塌塍塏塐塕塟塡塤塧塨塸塼塿墀墁墇墈墉墊墌墍墏墐墔墖墝墠墡墢墦墩墱墲壄墼壂壈壍壎壐壒壔壖壚壝壡壢壩壳夅夆夋夌夒夓夔虁夝夡夣夤夨夯" ++
      "夰夳夵夶夿奃奆奒奓奙奛奝奞奟奡奣奫奭"⟩,
   ⟨0x39, 0x21, "奯奲奵奶她奻奼妋妌妎妒妕妗妟妤妧妭妮妯妰妳妷妺妼姁姃姄姈姊姍姒姝姞姟姣姤姧姮姯姱姲姴姷娀娄娌娍娎娒娓娞娣娤娧娨娪娭娰婄婅婇婈婌婐婕婞婣婥婧婭婷婺婻婾媋媐" ++
      "媓媖媙媜媞媟媠媢媧媬媱媲媳媵媸媺媻媿"⟩,
   ⟨0x3A, 0x21, "嫄嫆嫈嫏嫚嫜嫠嫥嫪嫮嫵嫶嫽嬀嬁嬈嬗嬴嬙嬛嬝嬡嬥嬭嬸孁孋孌孒孖孞孨孮孯孼孽孾孿宁宄宆宊宎宐宑宓宔宖宨宩宬宭宯宱宲宷宺宼寀寁寍寏寖寗寘寙寚寠寯寱寴寽尌尗尞尟" ++
      "尣尦尩尫尬尮尰尲尵尶屙屚屜屢屣屧屨屩"⟩,
   ⟨0x3B, 0x21, "屭屰屴屵屺屻屼屽岇岈岊岏岒岝岟岠岢岣岦岪岲岴岵岺峉峋峒峝峗峮峱峲峴崁崆崍崒崫崣崤崦崧崱崴崹崽崿嵂嵃嵆嵈嵕嵑嵙嵊嵟嵠嵡嵢嵤嵪嵭嵰嵹嵺嵾嵿嶁嶃嶈嶊嶒嶓嶔嶕嶙" ++
      "嶛嶟嶠嶧嶫嶰嶴嶸嶹巃巇巋巐巎巘巙巠巤"⟩,
   ⟨0x3C, 0x21, "巩巸巹帀帇帍帒帔帕帘帟帠帮帨帲帵帾幋幐幉幑幖幘幛幜幞幨幪幫幬幭幮幰庀庋庎庢庤庥庨庪庬庱庳庽庾庿廆廌廋廎廑廒廔廕廜廞廥廫异弆弇弈弎弙弜弝弡弢弣弤弨弫弬弮弰" ++
      "弴弶弻弽弿彀彄彅彇彍彐彔彘彛彠彣彤彧"⟩,
   ⟨0x3D, 0x21, "彯彲彴彵彸彺彽彾徉徍徏徖徜徝徢徧徫徤徬徯徰徱徸忄忇忈忉忋忐忑忒忓忔忞忡忢忨忩忪忬忭忮忯忲忳忶忺忼怇怊怍怓怔怗怘怚怟怤怭怳怵恀恇恈恉恌恑恔恖恗恝恡恧恱恾恿" ++
      "悂悆悈悊悎悑悓悕悘悝悞悢悤悥您悰悱悷"⟩,
   ⟨0x3E, 0x21, "悻悾惂惄惈惉惊惋惎惏惔惕惙惛惝惞惢惥惲惵惸惼惽愂愇愊愌愐愑愒愓愔愖愗愙愜愞愢愪愫愰愱愵愶愷愹慁慅慆慉慞慠慬慲慸慻慼慿憀憁憃憄憋憍憒憓憗憘憜憝憟憠憥憨憪憭" ++
      "憸憹憼懀懁懂懎懏懕懜懝懞懟懡懢懧懩懥"⟩,
   ⟨0x3F, 0x21, "懬懭懯戁戃戄戇戓戕戜戠戢戣戧戩戫戹戽扂扃扄扆扌扐扑扒扔扖扚扜扤扭扯扳扺扽抍抎抏抐抦抨抳抶抷抺抾抿拄拎拕拖拚拪拲拴拼拽挃挄挊挋挍挐挓挖挘挩挪挭挵挶挹挼捁捂" ++
      "捃捄捆捊捋捎捒捓捔捘捛捥捦捬捭捱捴捵"⟩,
   ⟨0x40, 0x21, "捸捼捽捿掂掄掇掊掐掔掕掙掚掞掤掦掭掮掯掽揁揅揈揎揑揓揔揕揜揠揥揪揬揲揳揵揸揹搉搊搐搒搔搘搞搠搢搤搥搩搪搯搰搵搽搿摋摏摑摒摓摔摚摛摜摝摟摠摡摣摭摳摴摻摽撅" ++
      "撇撏撐撑撘撙撛撝撟撡撣撦撨撬撳撽撾撿"⟩,
   ⟨0x41, 0x21, "擄擉擊擋擌擎擐擑擕擗擤擥擩擪擭擰擵擷擻擿攁攄攈攉攊攏攓攔攖攙攛攞攟攢攦攩攮攱攺攼攽敃敇敉敐敒敔敟敠敧敫敺敽斁斅斊斒斕斘斝斠斣斦斮斲斳斴斿旂旈旉旎旐旔旖旘" ++
      "旟旰旲旴旵旹旾旿昀昄昈昉昍昑昒昕昖昝"⟩,
   ⟨0x42, 0x21, "昞昡昢昣昤昦昩昪昫昬昮昰昱昳昹昷晀晅晆晊晌晑晎晗晘晙晛晜晠晡曻晪晫晬晾晳晵晿晷晸晹晻暀晼暋暌暍暐暒暙暚暛暜暟暠暤暭暱暲暵暻暿曀曂曃曈曌曎曏曔曛曟曨曫曬曮" ++
      "曺朅朇朎朓朙朜朠朢朳朾杅杇杈杌杔杕杝"⟩,
   ⟨0x43, 0x21, "杦杬杮杴杶杻极构枎枏枑枓枖枘枙枛枰枱枲枵枻枼枽柹柀柂柃柅柈柉柒柗柙柜柡柦柰柲柶柷桒栔栙栝栟栨栧栬栭栯栰栱栳栻栿桄桅桊桌桕桗桘桛桫桮桯桰桱桲桵桹桺桻桼梂梄" ++
      "梆梈梖梘梚梜梡梣梥梩梪梮梲梻棅棈棌棏"⟩,
   ⟨0x44, 0x21, "棐棑棓棖棙棜棝棥棨棪棫棬棭棰棱棵棶棻棼棽椆椉椊椐椑椓椖椗椱椳椵椸椻楂楅楉楎楗楛楣楤楥楦楨楩楬楰楱楲楺楻楿榀榍榒榖榘榡榥榦榨榫榭榯榷榸榺榼槅槈槑槖槗槢槥槮" ++
      "槯槱槳槵槾樀樁樃樏樑樕樚樝樠樤樨樰樲"⟩,
   ⟨0x45, 0x21, "樴樷樻樾樿橅橆橉橊橎橐橑橒橕橖橛橤橧橪橱橳橾檁檃檆檇檉檋檑檛檝檞檟檥檫檯檰檱檴檽檾檿櫆櫉櫈櫌櫐櫔櫕櫖櫜櫝櫤櫧櫬櫰櫱櫲櫼櫽欂欃欆欇欉欏欐欑欗欛欞欤欨欫欬欯" ++
      "欵欶欻欿歆歊歍歒歖歘歝歠歧歫歮歰歵歽"⟩,
   ⟨0x46, 0x21, "歾殂殅殗殛殟殠殢殣殨殩殬殭殮殰殸殹殽殾毃毄毉毌毖毚毡毣毦毧毮毱毷毹毿氂氄氅氉氍氎氐氒氙氟氦氧氨氬氮氳氵氶氺氻氿汊汋汍汏汒汔汙汛汜汫汭汯汴汶汸汹汻沅沆沇沉" ++
      "沔沕沗沘沜沟沰沲沴泂泆泍泏泐泑泒泔泖"⟩,
   ⟨0x47, 0x21, "泚泜泠泧泩泫泬泮泲泴洄洇洊洎洏洑洓洚洦洧洨汧洮洯洱洹洼洿浗浞浟浡浥浧浯浰浼涂涇涑涒涔涖涗涘涪涬涴涷涹涽涿淄淈淊淎淏淖淛淝淟淠淢淥淩淯淰淴淶淼渀渄渞渢渧渲" ++
      "渶渹渻渼湄湅湈湉湋湏湑湒湓湔湗湜湝湞"⟩,
   ⟨0x48, 0x21, "湢湣湨湳湻湽溍溓溙溠溧溭溮溱溳溻溿滀滁滃滇滈滊滍滎滏滫滭滮滹滻滽漄漈漊漌漍漖漘漚漛漦漩漪漯漰漳漶漻漼漭潏潑潒潓潗潙潚潝潞潡潢潨潬潽潾澃澇澈澋澌澍澐澒澓澔" ++
      "澖澚澟澠澥澦澧澨澮澯澰澵澶澼濅濇濈濊"⟩,
   ⟨0x49, 0x21, "濚濞濨濩濰濵濹濼濽瀀瀅瀆瀇瀍瀗瀠瀣瀯瀴瀷瀹瀼灃灄灈灉灊灋灔灕灝灞灎灤灥灬灮灵灶灾炁炅炆炔炕炖炗炘炛炤炫炰炱炴炷烊烑烓烔烕烖烘烜烤烺焃焄焅焆焇焋焌焏焞焠焫" ++
      "焭焯焰焱焸煁煅煆煇煊煋煐煒煗煚煜煞煠"⟩,
   ⟨0x4A, 0x21, "煨煹熀熅熇熌熒熚熛熠熢熯熰熲熳熺熿燀燁燄燋燌燓燖燙燚燜燸燾爀爇爈爉爓爗爚爝爟爤爫爯爴爸爹牁牂牃牅牎牏牐牓牕牖牚牜牞牠牣牨牫牮牯牱牷牸牻牼牿犄犉犍犎犓犛犨" ++
      "犭犮犱犴犾狁狇狉狌狕狖狘狟狥狳狴狺狻"⟩,
   ⟨0x4B, 0x21, "狾猂猄猅猇猋猍猒猓猘猙猞猢猤猧猨猬猱猲猵猺猻猽獃獍獐獒獖獘獝獞獟獠獦獧獩獫獬獮獯獱獷獹獼玀玁玃玅玆玎玐玓玕玗玘玜玞玟玠玢玥玦玪玫玭玵玷玹玼玽玿珅珆珉珋珌" ++
      "珏珒珓珖珙珝珡珣珦珧珩珴珵珷珹珺珻珽"⟩,
   ⟨0x4C, 0x21, "珿琀琁琄琇琊琑琚琛琤琦琨琩琪琫琬琭琮琯琰琱琹瑀瑃瑄瑆瑇瑋瑍瑑瑒瑗瑝瑢瑦瑧瑨瑫瑭瑮瑱瑲璀璁璅璆璇璉璏璐璑璒璘璙璚璜璟璠璡璣璦璨璩璪璫璮璯璱璲璵璹璻璿瓈瓉瓌" ++
      "瓐瓓瓘瓚瓛瓞瓟瓤瓨瓪瓫瓯瓴瓺瓻瓼瓿甆"⟩,
   ⟨0x4D, 0x21, "甒甖甗甠甡甤甧甩甪甯甶甹甽甾甿畀畃畇畈畎畐畒畗畞畟畡畯畱畹畺畻畼畽畾疁疅疐疒疓疕疙疜疢疤疴疺疿痀痁痄痆痌痎痏痗痜痟痠痡痤痧痬痮痯痱痹瘀瘂瘃瘄瘇瘈瘊瘌瘏瘒" ++
      "瘓瘕瘖瘙瘛瘜瘝瘞瘣瘥瘦瘩瘭瘲瘳瘵瘸瘹"⟩,
   ⟨0x4E, 0x21, "瘺瘼癊癀癁癃癄癅癉癋癕癙癟癤癥癭癮癯癱癴皁皅皌皍皕皛皜皝皟皠皢皣皤皥皦皧皨皪皭皽盁盅盉盋盌盎盔盙盠盦盨盬盰盱盶盹盼眀眆眊眎眒眔眕眗眙眚眜眢眨眭眮眯眴眵眶" ++
      "眹眽眾睂睅睆睊睍睎睏睒睖睗睜睞睟睠睢"⟩,
   ⟨0x4F, 0x21, "睤睧睪睬睰睲睳睴睺睽瞀瞄瞌瞍瞔瞕瞖瞚瞟瞢瞧瞪瞮瞯瞱瞵瞾矃矉矑矒矕矙矞矟矠矤矦矪矬矰矱矴矸矻砅砆砉砍砎砑砝砡砢砣砭砮砰砵砷硃硄硇硈硌硎硒硜硞硠硡硣硤硨硪确" ++
      "硺硾碊碏碔碘碡碝碞碟碤碨碬碭碰碱碲碳"⟩,
   ⟨0x50, 0x21, "碻碽碿磇磈磉磌磎磒磓磕磖磤磛磟磠磡磦磪磲磳礀磶磷磺磻磿礆礌礐礚礜礞礟礠礥礧礩礭礱礴礵礻礽礿祄祅祆祊祋祏祑祔祘祛祜祧祩祫祲祹祻祼祾禋禌禑禓禔禕禖禘禛禜禡禨" ++
      "禩禫禯禱禴禸离秂秄秇秈秊秏秔秖秚秝秞"⟩,
   ⟨0x51, 0x21, "秠秢秥秪秫秭秱秸秼稂稃稇稉稊稌稑稕稛稞稡稧稫稭稯稰稴稵稸稹稺穄穅穇穈穌穕穖穙穜穝穟穠穥穧穪穭穵穸穾窀窂窅窆窊窋窐窑窔窞窠窣窬窳窵窹窻窼竆竉竌竎竑竛竨竩竫" ++
      "竬竱竴竻竽竾笇笔笟笣笧笩笪笫笭笮笯笰"⟩,
   ⟨0x52, 0x21, "笱笴笽笿筀筁筇筎筕筠筤筦筩筪筭筯筲筳筷箄箉箎箐箑箖箛箞箠箥箬箯箰箲箵箶箺箻箼箽篂篅篈篊篔篖篗篙篚篛篨篪篲篴篵篸篹篺篼篾簁簂簃簄簆簉簋簌簎簏簙簛簠簥簦簨簬" ++
      "簱簳簴簶簹簺籆籊籕籑籒籓籙籚籛籜籝籞"⟩,
   ⟨0x53, 0x21, "籡籣籧籩籭籮籰籲籹籼籽粆粇粏粔粞粠粦粰粶粷粺粻粼粿糄糇糈糉糍糏糓糔糕糗糙糚糝糦糩糫糵紃紇紈紉紏紑紒紓紖紝紞紣紦紪紭紱紼紽紾絀絁絇絈絍絑絓絗絙絚絜絝絥絧絪" ++
      "絰絸絺絻絿綁綂綃綅綆綈綋綌綍綑綖綗綝"⟩,
   ⟨0x54, 0x21, "綞綦綧綪綳綶綷綹緂緃緄緅緆緌緍緎緗緙縀緢緥緦緪緫緭緱緵緶緹緺縈縐縑縕縗縜縝縠縧縨縬縭縯縳縶縿繄繅繇繎繐繒繘繟繡繢繥繫繮繯繳繸繾纁纆纇纊纍纑纕纘纚纝纞缼缻" ++
      "缽缾缿罃罄罇罏罒罓罛罜罝罡罣罤罥罦罭"⟩,
   ⟨0x55, 0x21, "罱罽罾罿羀羋羍羏羐羑羖羗羜羡羢羦羪羭羴羼羿翀翃翈翎翏翛翟翣翥翨翬翮翯翲翺翽翾翿耇耈耊耍耎耏耑耓耔耖耝耞耟耠耤耦耬耮耰耴耵耷耹耺耼耾聀聄聠聤聦聭聱聵肁肈肎" ++
      "肜肞肦肧肫肸肹胈胍胏胒胔胕胗胘胠胭胮"⟩,
   ⟨0x56, 0x21, "胰胲胳胶胹胺胾脃脋脖脗脘脜脞脠脤脧脬脰脵脺脼腅腇腊腌腒腗腠腡腧腨腩腭腯腷膁膐膄膅膆膋膎膖膘膛膞膢膮膲膴膻臋臃臅臊臎臏臕臗臛臝臞臡臤臫臬臰臱臲臵臶臸臹臽臿" ++
      "舀舃舏舓舔舙舚舝舡舢舨舲舴舺艃艄艅艆"⟩,
   ⟨0x57, 0x21, "艋艎艏艑艖艜艠艣艧艭艴艻艽艿芀芁芃芄芇芉芊芎芑芔芖芘芚芛芠芡芣芤芧芨芩芪芮芰芲芴芷芺芼芾芿苆苐苕苚苠苢苤苨苪苭苯苶苷苽苾茀茁茇茈茊茋荔茛茝茞茟茡茢茬茭茮" ++
      "茰茳茷茺茼茽荂荃荄荇荍荎荑荕荖荗荰荸"⟩,
   ⟨0x58, 0x21, "荽荿莀莂莄莆莍莒莔莕莘莙莛莜莝莦莧莩莬莾莿菀菇菉菏菐菑菔菝荓菨菪菶菸菹菼萁萆萊萏萑萕萙莭萯萹葅葇葈葊葍葏葑葒葖葘葙葚葜葠葤葥葧葪葰葳葴葶葸葼葽蒁蒅蒒蒓蒕" ++
      "蒞蒦蒨蒩蒪蒯蒱蒴蒺蒽蒾蓀蓂蓇蓈蓌蓏蓓"⟩,
   ⟨0x59, 0x21, "蓜蓧蓪蓯蓰蓱蓲蓷蔲蓺蓻蓽蔂蔃蔇蔌蔎蔐蔜蔞蔢蔣蔤蔥蔧蔪蔫蔯蔳蔴蔶蔿蕆蕏蕐蕑蕒蕓蕖蕙蕜蕝蕞蕟蕠蕡蕢蕤蕫蕯蕹蕺蕻蕽蕿薁薅薆薉薋薌薏薓薘薝薟薠薢薥薧薴薶薷薸薼薽" ++
      "薾薿藂藇藊藋藎薭藘藚藟藠藦藨藭藳藶藼"⟩,
   ⟨0x5A, 0x21, "藿蘀蘄蘅蘍蘎蘐蘑蘒蘘蘙蘛蘞蘡蘧蘩蘶蘸蘺蘼蘽虀虂虆虒虓虖虗虘虙虝虠虡虢虣虤虩虬虯虵虶虷虺蚍蚑蚖蚘蚚蚜蚡蚦蚧蚨蚭蚱蚳蚴蚵蚷蚸蚹蚿蛀蛁蛃蛅蛑蛒蛕蛗蛚蛜蛠蛣蛥蛧" ++
      "蚈蛺蛼蛽蜄蜅蜇蜋蜎蜏蜐蜓蜔蜙蜞蜟蜡蜣"⟩,
   ⟨0x5B, 0x21, "蜨蜮蜯蜱蜲蜹蜺蜼蜽蜾蝀蝃蝅蝍蝘蝝蝡蝤蝥蝯蝱蝲蝻螃螄螅螆螇螈螉螋螌螐螓螕螗螘螙螞螠螣螧螬螭螮螱螵螾螿蟁蟈蟉蟊蟎蟕蟖蟙蟚蟜蟟蟢蟣蟤蟪蟫蟭蟱蟳蟸蟺蟿蠁蠃蠆蠉蠊" ++
      "蠋蠐蠙蠒蠓蠔蠘蠚蠛蠜蠞蠟蠨蠭蠮蠰蠲蠵"⟩,
   ⟨0x5C, 0x21, "蠺蠼衁衃衅衈衉衊衋衎衑衕衖衘衚衜衟衠衤衩衱衹衻袀袘袚袛袜袟袠袨袪袺袽袾裀裊裋裌裍裎裑裒裓裛裞裧裯裰裱裵裷褁褆褍褎褏褕褖褘褙褚褜褠褦褧褨褰褱褲褵褹褺褾襀襂" ++
      "襅襆襉襏襒襗襚襛襜襡襢襣襫襮襰襳襵襺"⟩,
   ⟨0x5D, 0x21, "襻襼襽覉覍覐覔覕覛覜覟覠覥覰覴覵覶覷覼觔觕觖觗觘觥觩觫觭觱觳觶觹觽觿訄訅訇訏訑訒訔訕訞訠訢訤訦訫訬訯訵訷訽訾詀詃詅詇詉詍詎詓詖詗詘詜詝詡詥詧詵詶詷詹詺詻" ++
      "詾詿誀誃誆誋誏誐誒誖誗誙誟誧誩誮誯誳"⟩,
   ⟨0x5E, 0x21, "誶誷誻誾諃諆諈諉諊諑諓諔諕諗諝諟諬諰諴諵諶諼諿謅謆謋謑謜謞謟謊謭謰謷謼譂譃譄譅譆譈譒譓譔譙譍譞譣譭譶譸譹譼譾讁讄讅讋讍讏讔讕讜讞讟谸谹谽谾豅豇豉豋豏豑豓" ++
      "豔豗豘豛豝豙豣豤豦豨豩豭豳豵豶豻豾貆"⟩,
   ⟨0x5F, 0x21, "貇貋貐貒貓貙貛貜貤貹貺賅賆賉賋賏賖賕賙賝賡賨賬賯賰賲賵賷賸賾賿贁贃贉贒贗贛赥赩赬赮赿趂趄趈趍趐趑趕趞趟趠趦趫趬趯趲趵趷趹趻跀跅跆跇跈跊跎跑跔跕跗跙跤跥跧" ++
      "跬跰趼跱跲跴跽踁踄踅踆踋踑踔踖踠踡踢"⟩,
   ⟨0x60, 0x21, "踣踦踧踱踳踶踷踸踹踽蹀蹁蹋蹍蹎蹏蹔蹛蹜蹝蹞蹡蹢蹩蹬蹭蹯蹰蹱蹹蹺蹻躂躃躉躐躒躕躚躛躝躞躢躧躩躭躮躳躵躺躻軀軁軃軄軇軏軑軔軜軨軮軰軱軷軹軺軭輀輂輇輈輏輐輖輗" ++
      "輘輞輠輡輣輥輧輨輬輭輮輴輵輶輷輺轀轁"⟩,
   ⟨0x61, 0x21, "轃轇轏轑轒轓轔轕轘轝轞轥辝辠辡辤辥辦辵辶辸达迀迁迆迊迋迍运迒迓迕迠迣迤迨迮迱迵迶迻迾适逄逈逌逘逛逨逩逯逪逬逭逳逴逷逿遃遄遌遛遝遢遦遧遬遰遴遹邅邈邋邌邎邐" ++
      "邕邗邘邙邛邠邡邢邥邰邲邳邴邶邽郌邾郃"⟩,
   ⟨0x62, 0x21, "郄郅郇郈郕郗郘郙郜郝郟郥郒郶郫郯郰郴郾郿鄀鄄鄅鄆鄈鄍鄐鄔鄖鄗鄘鄚鄜鄞鄠鄥鄢鄣鄧鄩鄮鄯鄱鄴鄶鄷鄹鄺鄼鄽酃酇酈酏酓酗酙酚酛酡酤酧酭酴酹酺酻醁醃醅醆醊醎醑醓醔" ++
      "醕醘醞醡醦醨醬醭醮醰醱醲醳醶醻醼醽醿"⟩,
   ⟨0x63, 0x21, "釂釃釅釓釔釗釙釚釞釤釥釩釪釬釭釮釯釰釱釷釹釻釽鈀鈁鈄鈅鈆鈇鈉鈊鈌鈐鈒鈓鈖鈘鈜鈝鈣鈤鈥鈦鈨鈮鈯鈰鈳鈵鈶鈸鈹鈺鈼鈾鉀鉂鉃鉆鉇鉊鉍鉎鉏鉑鉘鉙鉜鉝鉠鉡鉥鉧鉨鉩鉮" ++
      "鉯鉰鉵鉶鉷鉸鉹鉻鉼鉽鉿銈銉銊銍銎銒銗"⟩,
   ⟨0x64, 0x21, "銙銟銠銤銥銧銨銫銯銲銶銸銺銻銼銽銿鋀鋁鋂鋃鋅鋆鋇鋈鋋鋌鋍鋎鋐鋓鋕鋗鋘鋙鋜鋝鋟鋠鋡鋣鋥鋧鋨鋬鋮鋰鋹鋻鋿錀錂錈錍錑錔錕錜錝錞錟錡錤錥錧錩錪錳錴錶錷鍇鍈鍉鍐鍑" ++
      "鍒鍕鍗鍘鍚鍞鍤鍥鍧鍩鍪鍭鍯鍰鍱鍳鍴鍶"⟩,
   ⟨0x65, 0x21, "鍺鍽鍿鎀鎁鎂鎈鎊鎋鎍鎏鎒鎕鎘鎛鎞鎡鎣鎤鎦鎨鎫鎴鎵鎶鎺鎩鏁鏄鏅鏆鏇鏉鏊鏋鏌鏍鏓鏙鏜鏞鏟鏢鏦鏧鏹鏷鏸鏺鏻鏽鐁鐂鐄鐈鐉鐍鐎鐏鐕鐖鐗鐟鐮鐯鐱鐲鐳鐴鐻鐿鐽鑃鑅鑈鑊" ++
      "鑌鑕鑙鑜鑟鑡鑣鑨鑫鑭鑮鑯鑱鑲钄钃镸镹"⟩,
   ⟨0x66, 0x21, "镾閄閈閌閍閎閝閞閟閡閦閩閫閬閴閶閺閽閿闆闈闉闋闐闑闒闓闙闚闝闞闟闠闤闦阝阞阢阤阥阦阬阱阳阷阸阹阺阼阽陁陒陔陖陗陘陡陮陴陻陼陾陿隁隂隃隄隉隑隖隚隝隟隤隥隦" ++
      "隩隮隯隳隺雊雒嶲雘雚雝雞雟雩雯雱雺霂"⟩,
   ⟨0x67, 0x21, "霃霅霉霚霛霝霡霢霣霨霱霳靁靃靊靎靏靕靗靘靚靛靣靧靪靮靳靶靷靸靻靽靿鞀鞉鞕鞖鞗鞙鞚鞞鞟鞢鞬鞮鞱鞲鞵鞶鞸鞹鞺鞼鞾鞿韁韄韅韇韉韊韌韍韎韐韑韔韗韘韙韝韞韠韛韡韤" ++
      "韯韱韴韷韸韺頇頊頙頍頎頔頖頜頞頠頣頦"⟩,
   ⟨0x68, 0x21, "頫頮頯頰頲頳頵頥頾顄顇顊顑顒顓顖顗顙顚顢顣顥顦顪顬颫颭颮颰颴颷颸颺颻颿飂飅飈飌飡飣飥飦飧飪飳飶餂餇餈餑餕餖餗餚餛餜餟餢餦餧餫餱餲餳餴餵餹餺餻餼饀饁饆饇饈" ++
      "饍饎饔饘饙饛饜饞饟饠馛馝馟馦馰馱馲馵"⟩,
   ⟨0x69, 0x21, "馹馺馽馿駃駉駓駔駙駚駜駞駧駪駫駬駰駴駵駹駽駾騂騃騄騋騌騐騑騖騞騠騢騣騤騧騭騮騳騵騶騸驇驁驄驊驋驌驎驑驔驖驝骪骬骮骯骲骴骵骶骹骻骾骿髁髃髆髈髎髐髒髕髖髗髛" ++
      "髜髠髤髥髧髩髬髲髳髵髹髺髽髿鬀鬁鬂鬃"⟩,
   ⟨0x6A, 0x21, "鬄鬅鬈鬉鬋鬌鬍鬎鬐鬒鬖鬙鬛鬜鬠鬦鬫鬭鬳鬴鬵鬷鬹鬺鬽魈魋魌魕魖魗魛魞魡魣魥魦魨魪魫魬魭魮魳魵魷魸魹魿鮀鮄鮅鮆鮇鮉鮊鮋鮍鮏鮐鮔鮚鮝鮞鮦鮧鮩鮬鮰鮱鮲鮷鮸鮻鮼鮾" ++
      "鮿鯁鯇鯈鯎鯐鯗鯘鯝鯟鯥鯧鯪鯫鯯鯳鯷鯸"⟩,
   ⟨0x6B, 0x21, "鯹鯺鯽鯿鰀鰂鰋鰏鰑鰖鰘鰙鰚鰜鰞鰢鰣鰦鰧鰨鰩鰪鰱鰵鰶鰷鰽鱁鱃鱄鱅鱉鱊鱎鱏鱐鱓鱔鱖鱘鱛鱝鱞鱟鱣鱩鱪鱜鱫鱨鱮鱰鱲鱵鱷鱻鳦鳲鳷鳹鴋鴂鴑鴗鴘鴜鴝鴞鴯鴰鴲鴳鴴鴺鴼鵅" ++
      "鴽鵂鵃鵇鵊鵓鵔鵟鵣鵢鵥鵩鵪鵫鵰鵶鵷鵻"⟩,
   ⟨0x6C, 0x21, "鵼鵾鶃鶄鶆鶊鶍鶎鶒鶓鶕鶖鶗鶘鶡鶪鶬鶮鶱鶵鶹鶼鶿鷃鷇鷉鷊鷔鷕鷖鷗鷚鷞鷟鷠鷥鷧鷩鷫鷮鷰鷳鷴鷾鸊鸂鸇鸎鸐鸑鸒鸕鸖鸙鸜鸝鹺鹻鹼麀麂麃麄麅麇麎麏麖麘麛麞麤麨麬麮麯" ++
      "麰麳麴麵黆黈黋黕黟黤黧黬黭黮黰黱黲黵"⟩,
   ⟨0x6D, 0x21, "黸黿鼂鼃鼉鼏鼐鼑鼒鼔鼖鼗鼙鼚鼛鼟鼢鼦鼪鼫鼯鼱鼲鼴鼷鼹鼺鼼鼽鼿齁齃齄齅齆齇齓齕齖齗齘齚齝齞齨齩齭齮齯齰齱齳齵齺齽龏龐龑龒龔龖龗龞龡龢龣龥"⟩]

/-- Signs and ideographs that vendors added in free rows. -/
def vendorKanji : Grid :=
  [⟨0x2D, 0x21, "①②③④⑤⑥⑦⑧⑨⑩⑪⑫⑬⑭⑮⑯⑰⑱⑲⑳ⅠⅡⅢⅣⅤⅥⅦⅧⅨⅩ\ufffd㍉㌔㌢㍍㌘㌧㌃㌶㍑㍗㌍㌦㌣㌫㍊㌻㎜㎝㎞㎎㎏㏄㎡\ufffd\ufffd" ++
      "\ufffd\ufffd\ufffd\ufffd\ufffd\ufffd㍻〝〟№㏍℡㊤㊥㊦㊧㊨㈱㈲㈹㍾㍽㍼≒≡∫∮∑√⊥∠∟⊿∵∩∪"⟩,
   ⟨0x79, 0x21, "纊褜鍈銈蓜俉炻昱棈鋹曻彅丨仡仼伀伃伹佖侒侊侚侔俍偀倢俿倞偆偰偂傔僴僘兊兤冝冾凬刕劜劦勀勛匀匇匤卲厓厲叝\ufa0e咜咊咩哿喆坙坥垬埈埇\ufa0f" ++
      "\ufa10增墲夋奓奛奝奣妤妺孖寀甯寘寬尞岦岺峵崧嵓\ufa11嵂嵭嶸嶹巐弡弴彧德"⟩,
   ⟨0x7A, 0x21, "忞恝悅悊惞惕愠惲愑愷愰憘戓抦揵摠撝擎敎昀昕昻昉昮昞昤晥晗晙\ufa12晳暙暠暲暿曺朎\uf929杦枻桒柀栁桄棏\ufa13楨\ufa14榘槢樰橫橆橳橾櫢" ++
      "櫤毖氿汜沆汯泚洄涇浯涖涬淏淸淲淼渹湜渧渼溿澈澵濵瀅瀇瀨炅炫焏焄煜煆煇\ufa15燁燾犱"⟩,
   ⟨0x7B, 0x21, "犾猤\ufa16獷玽珉珖珣珒琇珵琦琪琩琮瑢璉璟甁畯皂皜皞皛皦\ufa17睆劯砡硎硤硺礰\ufa18\ufa19\ufa1a禔\ufa1b禛竑竧" ++
      "\ufa1c竫箞\ufa1d絈絜綷綠緖繒罇羡\ufa1e茁荢荿菇菶葈蒴蕓蕙蕫\ufa1f薰\ufa20\ufa21蠇裵訒訷詹誧誾諟\ufa22諶譓譿賰賴" ++
      "贒赶\ufa23軏\ufa24\ufa25遧郞\ufa26鄕鄧釚"⟩,
   ⟨0x7C, 0x21, "釗釞釭釮釤釥鈆鈐鈊鈺鉀鈼鉎鉙鉑鈹鉧銧鉷鉸鋧鋗鋙鋐\ufa27鋕鋠鋓錥錡鋻\ufa28錞鋿錝錂鍰鍗鎤鏆鏞鏸鐱鑅鑈閒\uf9dc\ufa29隝隯霳霻靃靍靏靑" ++
      "靕顗顥\ufa2a\ufa2b餧\ufa2c馞驎髙髜魵魲鮏鮱鮻鰀鵰鵫\ufa2d鸙黑\ufffd\ufffdⅰⅱⅲⅳⅴⅵⅶⅷⅸⅹ￢￤＇＂"⟩,
   ⟨0x93, 0x21, "ⅰⅱⅲⅳⅴⅵⅶⅷⅸⅹⅠⅡⅢⅣⅤⅥⅦⅧⅨⅩ￢￤＇＂㈱№℡∵纊褜鍈銈蓜俉炻昱棈鋹曻彅丨仡仼伀伃伹佖侒侊侚侔俍偀倢俿倞偆偰偂傔僴僘兊兤冝冾凬刕劜劦勀勛匀匇匤卲" ++
      "厓厲叝\ufa0e咜咊咩哿喆坙坥垬埈埇\ufa0f\ufa10增墲"⟩,
   ⟨0x94, 0x21, "夋奓奛奝奣妤妺孖寀甯寘寬尞岦岺峵崧嵓\ufa11嵂嵭嶸嶹巐弡弴彧德忞恝悅悊惞惕愠惲愑愷愰憘戓抦揵摠撝擎敎昀昕昻昉昮昞昤晥晗晙\ufa12晳暙暠暲暿曺朎" ++
      "\uf929杦枻桒柀栁桄棏\ufa13楨\ufa14榘槢樰橫橆橳橾櫢櫤毖氿汜沆汯泚洄涇浯"⟩,
   ⟨0x95, 0x21, "涖涬淏淸淲淼渹湜渧渼溿澈澵濵瀅瀇瀨炅炫焏焄煜煆煇\ufa15燁燾犱犾猤\ufa16獷玽珉珖珣珒琇珵琦琪琩琮瑢璉璟甁畯皂皜皞皛皦\ufa17睆劯砡硎硤硺礰" ++
      "\ufa18\ufa19\ufa1a禔\ufa1b禛竑竧\ufa1c竫箞\ufa1d絈絜綷綠緖繒罇羡\ufa1e茁荢荿菇菶葈蒴蕓蕙蕫\ufa1f薰"⟩,
   ⟨0x96, 0x21, "\ufa20\ufa21蠇裵訒訷詹誧誾諟\ufa22諶譓譿賰賴贒赶\ufa23軏\ufa24\ufa25遧郞\ufa26鄕鄧釚釗釞釭釮釤釥鈆鈐鈊鈺鉀鈼鉎" ++
      "鉙鉑鈹鉧銧鉷鉸鋧鋗鋙鋐\ufa27鋕鋠鋓錥錡鋻\ufa28錞鋿錝錂鍰鍗鎤鏆鏞鏸鐱鑅鑈閒\uf9dc\ufa29隝隯霳霻靃靍靏靑靕顗顥\ufa2a" ++
      "\ufa2b餧\ufa2c馞驎髙"⟩,
   ⟨0x97, 0x21, "髜魵魲鮏鮱鮻鰀鵰鵫\ufa2d鸙黑"⟩]

end AffinityPool.Text.Grid
