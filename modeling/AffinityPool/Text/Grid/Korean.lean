/-
Module: AffinityPool.Text.Grid.Korean
Purpose: The grid of Korean characters.
Main exports:
  Grid.korean
-/
import AffinityPool.Text.Grid

namespace AffinityPool.Text.Grid

/-!
Rows and cells are numbered from 0x21 on.
-/

/-- Signs, letters, the most common syllables, and ideographs. -/
def korean : Grid :=
  [⟨0x21, 0x21, "\u3000、。·‥…¨〃\u00ad―∥＼∼‘’“”〔〕〈〉《》「」『』【】±×÷≠≤≥∞∴°′″℃\u212b￠￡￥♂♀∠⊥⌒∂∇≡≒§※☆★○●◎" ++
      "◇◆□■△▲▽▼→←↑↓↔〓≪≫√∽∝∵∫∬∈∋⊆⊇⊂⊃∪∩∧∨￢"⟩,
   ⟨0x22, 0x21, "⇒⇔∀∃´～ˇ˘˝˚˙¸˛¡¿ː∮∑∏¤℉‰◁◀▷▶♤♠♡♥♧♣⊙◈▣◐◑▒▤▥▨▧▦▩♨☏☎☜☞¶†‡↕↗↙↖↘♭♩♪♬㉿㈜№㏇™㏂㏘℡€®"⟩,
   ⟨0x23, 0x21, "！＂＃＄％＆＇（）＊＋，－．／０１２３４５６７８９：；＜＝＞？＠ＡＢＣＤＥＦＧＨＩＪＫＬＭＮＯＰＱＲＳＴＵＶＷＸＹＺ［￦］＾＿｀ａｂｃｄｅｆｇｈｉｊｋｌ" ++
      "ｍｎｏｐｑｒｓｔｕｖｗｘｙｚ｛｜｝￣"⟩,
   ⟨0x24, 0x21, "ㄱㄲㄳㄴㄵㄶㄷㄸㄹㄺㄻㄼㄽㄾㄿㅀㅁㅂㅃㅄㅅㅆㅇㅈㅉㅊㅋㅌㅍㅎㅏㅐㅑㅒㅓㅔㅕㅖㅗㅘㅙㅚㅛㅜㅝㅞㅟㅠㅡㅢㅣㅤㅥㅦㅧㅨㅩㅪㅫㅬㅭㅮㅯㅰㅱㅲㅳㅴㅵㅶㅷㅸㅹㅺㅻㅼ" ++
      "ㅽㅾㅿㆀㆁㆂㆃㆄㆅㆆㆇㆈㆉㆊㆋㆌㆍㆎ"⟩,
   ⟨0x25, 0x21, "ⅰⅱⅲⅳⅴⅵⅶⅷⅸⅹ\ufffd\ufffd\ufffd\ufffd\ufffdⅠⅡⅢⅣⅤⅥⅦⅧⅨⅩ\ufffd\ufffd\ufffd\ufffd" ++
      "\ufffd\ufffd\ufffdΑΒΓΔΕΖΗΘΙΚΛΜΝΞΟΠΡΣΤΥΦΧΨΩ\ufffd\ufffd\ufffd\ufffd\ufffd" ++
      "\ufffd\ufffd\ufffdαβγδεζηθικλμνξοπρστυφχψω"⟩,
   ⟨0x26, 0x21, "─│┌┐┘└├┬┤┴┼━┃┏┓┛┗┣┳┫┻╋┠┯┨┷┿┝┰┥┸╂┒┑┚┙┖┕┎┍┞┟┡┢┦┧┩┪┭┮┱┲┵┶┹┺┽┾╀╁╃╄╅╆╇╈╉╊"⟩,
   ⟨0x27, 0x21, "㎕㎖㎗ℓ㎘㏄㎣㎤㎥㎦㎙㎚㎛㎜㎝㎞㎟㎠㎡㎢㏊㎍㎎㎏㏏㎈㎉㏈㎧㎨㎰㎱㎲㎳㎴㎵㎶㎷㎸㎹㎀㎁㎂㎃㎄㎺㎻㎼㎽㎾㎿㎐㎑㎒㎓㎔\u2126㏀㏁㎊㎋㎌㏖㏅㎭㎮㎯㏛㎩㎪㎫" ++
      "㎬㏝㏐㏓㏃㏉㏜㏆"⟩,
   ⟨0x28, 0x21, "ÆÐªĦ\ufffdĲ\ufffdĿŁØŒºÞŦŊ\ufffd㉠㉡㉢㉣㉤㉥㉦㉧㉨㉩㉪㉫㉬㉭㉮㉯㉰㉱㉲㉳㉴㉵㉶㉷㉸㉹㉺㉻ⓐⓑⓒⓓⓔⓕⓖⓗⓘⓙⓚⓛⓜⓝⓞⓟⓠ" ++
      "ⓡⓢⓣⓤⓥⓦⓧⓨⓩ①②③④⑤⑥⑦⑧⑨⑩⑪⑫⑬⑭⑮½⅓⅔¼¾⅛⅜⅝⅞"⟩,
   ⟨0x29, 0x21, "æđðħıĳĸŀłøœßþŧŋŉ㈀㈁㈂㈃㈄㈅㈆㈇㈈㈉㈊㈋㈌㈍㈎㈏㈐㈑㈒㈓㈔㈕㈖㈗㈘㈙㈚㈛⒜⒝⒞⒟⒠⒡⒢⒣⒤⒥⒦⒧⒨⒩⒪⒫⒬⒭⒮⒯⒰⒱⒲⒳⒴⒵⑴⑵⑶⑷⑸⑹" ++
      "⑺⑻⑼⑽⑾⑿⒀⒁⒂¹²³⁴ⁿ₁₂₃₄"⟩,
   ⟨0x2A, 0x21, "ぁあぃいぅうぇえぉおかがきぎくぐけげこごさざしじすずせぜそぞただちぢっつづてでとどなにぬねのはばぱひびぴふぶぷへべぺほぼぽまみむめもゃやゅゆょよらりるれ" ++
      "ろゎわゐゑをん"⟩,
   ⟨0x2B, 0x21, "ァアィイゥウェエォオカガキギクグケゲコゴサザシジスズセゼソゾタダチヂッツヅテデトドナニヌネノハバパヒビピフブプヘベペホボポマミムメモャヤュユョヨラリルレ" ++
      "ロヮワヰヱヲンヴヵヶ"⟩,
   ⟨0x2C, 0x21, "АБВГДЕЁЖЗИЙКЛМНОПРСТУФХЦЧШЩЪЫЬЭЮЯ\ufffd\ufffd\ufffd\ufffd\ufffd\ufffd\ufffd" ++
      "\ufffd\ufffd\ufffd\ufffd\ufffd\ufffd\ufffd\ufffdабвгдеёжзийклмнопрстуфхцчшщъ" ++
      "ыьэюя"⟩,
   ⟨0x30, 0x21, "가각간갇갈갉갊감갑값갓갔강갖갗같갚갛개객갠갤갬갭갯갰갱갸갹갼걀걋걍걔걘걜거걱건걷걸걺검겁것겄겅겆겉겊겋게겐겔겜겝겟겠겡겨격겪견겯결겸겹겻겼경곁계곈곌곕곗" ++
      "고곡곤곧골곪곬곯곰곱곳공곶과곽관괄괆"⟩,
   ⟨0x31, 0x21, "괌괍괏광괘괜괠괩괬괭괴괵괸괼굄굅굇굉교굔굘굡굣구국군굳굴굵굶굻굼굽굿궁궂궈궉권궐궜궝궤궷귀귁귄귈귐귑귓규균귤그극근귿글긁금급긋긍긔기긱긴긷길긺김깁깃깅깆" ++
      "깊까깍깎깐깔깖깜깝깟깠깡깥깨깩깬깰깸"⟩,
   ⟨0x32, 0x21, "깹깻깼깽꺄꺅꺌꺼꺽꺾껀껄껌껍껏껐껑께껙껜껨껫껭껴껸껼꼇꼈꼍꼐꼬꼭꼰꼲꼴꼼꼽꼿꽁꽂꽃꽈꽉꽐꽜꽝꽤꽥꽹꾀꾄꾈꾐꾑꾕꾜꾸꾹꾼꿀꿇꿈꿉꿋꿍꿎꿔꿜꿨꿩꿰꿱꿴꿸뀀뀁" ++
      "뀄뀌뀐뀔뀜뀝뀨끄끅끈끊끌끎끓끔끕끗끙"⟩,
   ⟨0x33, 0x21, "끝끼끽낀낄낌낍낏낑나낙낚난낟날낡낢남납낫났낭낮낯낱낳내낵낸낼냄냅냇냈냉냐냑냔냘냠냥너넉넋넌널넒넓넘넙넛넜넝넣네넥넨넬넴넵넷넸넹녀녁년녈념녑녔녕녘녜녠노녹" ++
      "논놀놂놈놉놋농높놓놔놘놜놨뇌뇐뇔뇜뇝"⟩,
   ⟨0x34, 0x21, "뇟뇨뇩뇬뇰뇹뇻뇽누눅눈눋눌눔눕눗눙눠눴눼뉘뉜뉠뉨뉩뉴뉵뉼늄늅늉느늑는늘늙늚늠늡늣능늦늪늬늰늴니닉닌닐닒님닙닛닝닢다닥닦단닫달닭닮닯닳담답닷닸당닺닻닿대댁" ++
      "댄댈댐댑댓댔댕댜더덕덖던덛덜덞덟덤덥"⟩,
   ⟨0x35, 0x21, "덧덩덫덮데덱덴델뎀뎁뎃뎄뎅뎌뎐뎔뎠뎡뎨뎬도독돈돋돌돎돐돔돕돗동돛돝돠돤돨돼됐되된될됨됩됫됴두둑둔둘둠둡둣둥둬뒀뒈뒝뒤뒨뒬뒵뒷뒹듀듄듈듐듕드득든듣들듦듬듭" ++
      "듯등듸디딕딘딛딜딤딥딧딨딩딪따딱딴딸"⟩,
   ⟨0x36, 0x21, "땀땁땃땄땅땋때땍땐땔땜땝땟땠땡떠떡떤떨떪떫떰떱떳떴떵떻떼떽뗀뗄뗌뗍뗏뗐뗑뗘뗬또똑똔똘똥똬똴뙈뙤뙨뚜뚝뚠뚤뚫뚬뚱뛔뛰뛴뛸뜀뜁뜅뜨뜩뜬뜯뜰뜸뜹뜻띄띈띌띔띕띠" ++
      "띤띨띰띱띳띵라락란랄람랍랏랐랑랒랖랗"⟩,
   ⟨0x37, 0x21, "래랙랜랠램랩랫랬랭랴략랸럇량러럭런럴럼럽럿렀렁렇레렉렌렐렘렙렛렝려력련렬렴렵렷렸령례롄롑롓로록론롤롬롭롯롱롸롼뢍뢨뢰뢴뢸룀룁룃룅료룐룔룝룟룡루룩룬룰룸룹" ++
      "룻룽뤄뤘뤠뤼뤽륀륄륌륏륑류륙륜률륨륩"⟩,
   ⟨0x38, 0x21, "륫륭르륵른를름릅릇릉릊릍릎리릭린릴림립릿링마막만많맏말맑맒맘맙맛망맞맡맣매맥맨맬맴맵맷맸맹맺먀먁먈먕머먹먼멀멂멈멉멋멍멎멓메멕멘멜멤멥멧멨멩며멱면멸몃몄" ++
      "명몇몌모목몫몬몰몲몸몹못몽뫄뫈뫘뫙뫼"⟩,
   ⟨0x39, 0x21, "묀묄묍묏묑묘묜묠묩묫무묵묶문묻물묽묾뭄뭅뭇뭉뭍뭏뭐뭔뭘뭡뭣뭬뮈뮌뮐뮤뮨뮬뮴뮷므믄믈믐믓미믹민믿밀밂밈밉밋밌밍및밑바박밖밗반받발밝밞밟밤밥밧방밭배백밴밸뱀" ++
      "뱁뱃뱄뱅뱉뱌뱍뱐뱝버벅번벋벌벎범법벗"⟩,
   ⟨0x3A, 0x21, "벙벚베벡벤벧벨벰벱벳벴벵벼벽변별볍볏볐병볕볘볜보복볶본볼봄봅봇봉봐봔봤봬뵀뵈뵉뵌뵐뵘뵙뵤뵨부북분붇불붉붊붐붑붓붕붙붚붜붤붰붸뷔뷕뷘뷜뷩뷰뷴뷸븀븃븅브븍븐" ++
      "블븜븝븟비빅빈빌빎빔빕빗빙빚빛빠빡빤"⟩,
   ⟨0x3B, 0x21, "빨빪빰빱빳빴빵빻빼빽뺀뺄뺌뺍뺏뺐뺑뺘뺙뺨뻐뻑뻔뻗뻘뻠뻣뻤뻥뻬뼁뼈뼉뼘뼙뼛뼜뼝뽀뽁뽄뽈뽐뽑뽕뾔뾰뿅뿌뿍뿐뿔뿜뿟뿡쀼쁑쁘쁜쁠쁨쁩삐삑삔삘삠삡삣삥사삭삯산삳살" ++
      "삵삶삼삽삿샀상샅새색샌샐샘샙샛샜생샤"⟩,
   ⟨0x3C, 0x21, "샥샨샬샴샵샷샹섀섄섈섐섕서석섞섟선섣설섦섧섬섭섯섰성섶세섹센셀셈셉셋셌셍셔셕션셜셤셥셧셨셩셰셴셸솅소속솎손솔솖솜솝솟송솥솨솩솬솰솽쇄쇈쇌쇔쇗쇘쇠쇤쇨쇰쇱" ++
      "쇳쇼쇽숀숄숌숍숏숑수숙순숟술숨숩숫숭"⟩,
   ⟨0x3D, 0x21, "숯숱숲숴쉈쉐쉑쉔쉘쉠쉥쉬쉭쉰쉴쉼쉽쉿슁슈슉슐슘슛슝스슥슨슬슭슴습슷승시식신싣실싫심십싯싱싶싸싹싻싼쌀쌈쌉쌌쌍쌓쌔쌕쌘쌜쌤쌥쌨쌩썅써썩썬썰썲썸썹썼썽쎄쎈쎌" ++
      "쏀쏘쏙쏜쏟쏠쏢쏨쏩쏭쏴쏵쏸쐈쐐쐤쐬쐰"⟩,
   ⟨0x3E, 0x21, "쐴쐼쐽쑈쑤쑥쑨쑬쑴쑵쑹쒀쒔쒜쒸쒼쓩쓰쓱쓴쓸쓺쓿씀씁씌씐씔씜씨씩씬씰씸씹씻씽아악안앉않알앍앎앓암압앗았앙앝앞애액앤앨앰앱앳앴앵야약얀얄얇얌얍얏양얕얗얘얜얠" ++
      "얩어억언얹얻얼얽얾엄업없엇었엉엊엌엎"⟩,
   ⟨0x3F, 0x21, "에엑엔엘엠엡엣엥여역엮연열엶엷염엽엾엿였영옅옆옇예옌옐옘옙옛옜오옥온올옭옮옰옳옴옵옷옹옻와왁완왈왐왑왓왔왕왜왝왠왬왯왱외왹왼욀욈욉욋욍요욕욘욜욤욥욧용우" ++
      "욱운울욹욺움웁웃웅워웍원월웜웝웠웡웨"⟩,
   ⟨0x40, 0x21, "웩웬웰웸웹웽위윅윈윌윔윕윗윙유육윤율윰윱윳융윷으윽은을읊음읍읏응읒읓읔읕읖읗의읜읠읨읫이익인일읽읾잃임입잇있잉잊잎자작잔잖잗잘잚잠잡잣잤장잦재잭잰잴잼잽" ++
      "잿쟀쟁쟈쟉쟌쟎쟐쟘쟝쟤쟨쟬저적전절젊"⟩,
   ⟨0x41, 0x21, "점접젓정젖제젝젠젤젬젭젯젱져젼졀졈졉졌졍졔조족존졸졺좀좁좃종좆좇좋좌좍좔좝좟좡좨좼좽죄죈죌죔죕죗죙죠죡죤죵주죽준줄줅줆줌줍줏중줘줬줴쥐쥑쥔쥘쥠쥡쥣쥬쥰쥴" ++
      "쥼즈즉즌즐즘즙즛증지직진짇질짊짐집짓"⟩,
   ⟨0x42, 0x21, "징짖짙짚짜짝짠짢짤짧짬짭짯짰짱째짹짼쨀쨈쨉쨋쨌쨍쨔쨘쨩쩌쩍쩐쩔쩜쩝쩟쩠쩡쩨쩽쪄쪘쪼쪽쫀쫄쫌쫍쫏쫑쫓쫘쫙쫠쫬쫴쬈쬐쬔쬘쬠쬡쭁쭈쭉쭌쭐쭘쭙쭝쭤쭸쭹쮜쮸쯔쯤쯧" ++
      "쯩찌찍찐찔찜찝찡찢찧차착찬찮찰참찹찻"⟩,
   ⟨0x43, 0x21, "찼창찾채책챈챌챔챕챗챘챙챠챤챦챨챰챵처척천철첨첩첫첬청체첵첸첼쳄쳅쳇쳉쳐쳔쳤쳬쳰촁초촉촌촐촘촙촛총촤촨촬촹최쵠쵤쵬쵭쵯쵱쵸춈추축춘출춤춥춧충춰췄췌췐취췬" ++
      "췰췸췹췻췽츄츈츌츔츙츠측츤츨츰츱츳층"⟩,
   ⟨0x44, 0x21, "치칙친칟칠칡침칩칫칭카칵칸칼캄캅캇캉캐캑캔캘캠캡캣캤캥캬캭컁커컥컨컫컬컴컵컷컸컹케켁켄켈켐켑켓켕켜켠켤켬켭켯켰켱켸코콕콘콜콤콥콧콩콰콱콴콸쾀쾅쾌쾡쾨쾰쿄" ++
      "쿠쿡쿤쿨쿰쿱쿳쿵쿼퀀퀄퀑퀘퀭퀴퀵퀸퀼"⟩,
   ⟨0x45, 0x21, "큄큅큇큉큐큔큘큠크큭큰클큼큽킁키킥킨킬킴킵킷킹타탁탄탈탉탐탑탓탔탕태택탠탤탬탭탯탰탱탸턍터턱턴털턺텀텁텃텄텅테텍텐텔템텝텟텡텨텬텼톄톈토톡톤톨톰톱톳통톺" ++
      "톼퇀퇘퇴퇸툇툉툐투툭툰툴툼툽툿퉁퉈퉜"⟩,
   ⟨0x46, 0x21, "퉤튀튁튄튈튐튑튕튜튠튤튬튱트특튼튿틀틂틈틉틋틔틘틜틤틥티틱틴틸팀팁팃팅파팍팎판팔팖팜팝팟팠팡팥패팩팬팰팸팹팻팼팽퍄퍅퍼퍽펀펄펌펍펏펐펑페펙펜펠펨펩펫펭펴" ++
      "편펼폄폅폈평폐폘폡폣포폭폰폴폼폽폿퐁"⟩,
   ⟨0x47, 0x21, "퐈퐝푀푄표푠푤푭푯푸푹푼푿풀풂품풉풋풍풔풩퓌퓐퓔퓜퓟퓨퓬퓰퓸퓻퓽프픈플픔픕픗피픽핀필핌핍핏핑하학한할핥함합핫항해핵핸핼햄햅햇했행햐향허헉헌헐헒험헙헛헝헤" ++
      "헥헨헬헴헵헷헹혀혁현혈혐협혓혔형혜혠"⟩,
   ⟨0x48, 0x21, "혤혭호혹혼홀홅홈홉홋홍홑화확환활홧황홰홱홴횃횅회획횐횔횝횟횡효횬횰횹횻후훅훈훌훑훔훗훙훠훤훨훰훵훼훽휀휄휑휘휙휜휠휨휩휫휭휴휵휸휼흄흇흉흐흑흔흖흗흘흙흠" ++
      "흡흣흥흩희흰흴흼흽힁히힉힌힐힘힙힛힝"⟩,
   ⟨0x4A, 0x21, "伽佳假價加可呵哥嘉嫁家暇架枷柯歌珂痂稼苛茄街袈訶賈跏軻迦駕刻却各恪慤殼珏脚覺角閣侃刊墾奸姦干幹懇揀杆柬桿澗癎看磵稈竿簡肝艮艱諫間乫喝曷渴碣竭葛褐蝎鞨勘坎" ++
      "堪嵌感憾戡敢柑橄減甘疳監瞰紺邯鑑鑒龕"⟩,
   ⟨0x4B, 0x21, "匣岬甲胛鉀閘剛堈姜岡崗康强彊慷江畺疆糠絳綱羌腔舡薑襁講鋼降鱇介价個凱塏愷愾慨改槪漑疥皆盖箇芥蓋\uf900鎧開喀客坑\uf901粳羹醵倨去居巨拒据據擧渠" ++
      "炬祛距踞\uf902遽鉅鋸乾件健巾建愆楗腱虔蹇鍵騫乞傑杰桀儉劍劒檢"⟩,
   ⟨0x4C, 0x21, "瞼鈐黔劫怯迲偈憩揭擊格檄激膈覡隔堅牽犬甄絹繭肩見譴遣鵑抉決潔結缺訣兼慊箝謙鉗鎌京俓倞傾儆勁勍卿坰境庚徑慶憬擎敬景暻更梗涇炅烱璟璥瓊痙硬磬竟競絅經耕耿脛莖" ++
      "警輕逕鏡頃頸驚鯨係啓堺契季屆悸戒桂械"⟩,
   ⟨0x4D, 0x21, "棨溪界癸磎稽系繫繼計誡谿階鷄古叩告呱固姑孤尻庫拷攷故敲暠枯槁沽痼皐睾稿羔考股膏苦苽菰藁蠱袴誥\uf903辜錮雇顧高鼓哭斛曲梏穀谷鵠困坤崑昆梱棍滾琨袞鯤汨" ++
      "\uf904骨供公共功孔工恐恭拱控攻珙空蚣貢鞏串寡戈果瓜"⟩,
   ⟨0x4E, 0x21, "科菓誇課跨過鍋顆廓槨藿郭\uf905冠官寬慣棺款灌琯瓘管罐菅觀貫關館刮恝括适侊光匡壙廣曠洸炚狂珖筐胱鑛卦掛罫乖傀塊壞怪愧拐槐魁宏紘肱轟交僑咬喬嬌嶠巧攪敎" ++
      "校橋狡皎矯絞翹膠蕎蛟較轎郊餃驕鮫丘久九仇俱具勾"⟩,
   ⟨0x4F, 0x21, "區口句咎嘔坵垢寇嶇廐懼拘救枸柩構歐毆毬求溝灸狗玖球瞿矩究絿耉臼舅舊苟衢謳購軀逑邱鉤銶駒驅鳩鷗龜國局菊鞠鞫麴君窘群裙軍郡堀屈掘窟宮弓穹窮芎躬倦券勸卷圈拳捲" ++
      "權淃眷厥獗蕨蹶闕机櫃潰詭軌饋\uf906晷歸貴"⟩,
   ⟨0x50, 0x21, "鬼\uf907叫圭奎揆槻珪硅窺竅糾葵規赳逵閨勻均畇筠菌鈞\uf908橘克剋劇戟棘極隙僅劤勤懃斤根槿瑾筋芹菫覲謹近饉\uf909今妗擒昑檎琴禁禽芩衾衿襟" ++
      "\uf90a錦伋及急扱汲級給亘兢矜肯企伎其冀嗜器圻基埼夔奇妓寄岐崎己幾忌技旗旣"⟩,
   ⟨0x51, 0x21, "朞期杞棋棄機欺氣汽沂淇玘琦琪璂璣畸畿碁磯祁祇祈祺箕紀綺羈耆耭肌記譏豈起錡錤飢饑騎騏驥麒緊佶吉拮桔金喫儺\uf90b\uf90c娜懦\uf90d拏拿" ++
      "\uf90e\uf90f\uf910\uf911\uf912\uf913那\uf914\uf915\uf916\uf917\uf918諾\uf919" ++
      "\uf91a\uf91b\uf91c暖\uf91d煖\uf91e\uf91f難\uf920捏捺南\uf921枏楠湳\uf922男\uf923\uf924" ++
      "\uf925"⟩,
   ⟨0x52, 0x21, "納\uf926\uf927衲囊娘\uf928\uf929\uf92a\uf92b\uf92c乃\uf92d內奈柰耐\uf92e女年撚秊念恬拈捻寧寗努" ++
      "\uf92f奴弩怒\uf930\uf931\uf932瑙\uf933\uf934\uf935\uf936\uf937\uf938駑\uf939" ++
      "\uf93a\uf93b\uf93c\uf93d\uf93e\uf93f\uf940\uf941\uf942\uf943濃\uf944\uf945膿農惱" ++
      "\uf946\uf947腦\uf948\uf949尿\uf94a\uf94b\uf94c\uf94d\uf94e\uf94f\uf950\uf951嫩訥" ++
      "杻紐\uf952\uf953\uf954\uf955\uf956\uf957能\uf958\uf959尼泥匿溺多茶"⟩,
   ⟨0x53, 0x21, "丹亶但單團壇彖斷旦檀段湍短端簞緞蛋袒鄲鍛撻澾獺疸達啖坍憺擔曇淡湛潭澹痰聃膽蕁覃談譚錟沓畓答踏遝唐堂塘幢戇撞棠當糖螳黨代垈坮大對岱帶待戴擡玳臺袋貸隊黛宅德" ++
      "悳倒刀到圖堵塗導屠島嶋度徒悼挑掉搗桃"⟩,
   ⟨0x54, 0x21, "棹櫂淘渡滔濤燾盜睹禱稻萄覩賭跳蹈逃途道都鍍陶韜毒瀆牘犢獨督禿篤纛讀墩惇敦旽暾沌焞燉豚頓乭突仝冬凍動同憧東桐棟洞潼疼瞳童胴董銅兜斗杜枓痘竇荳\uf95a豆" ++
      "逗頭屯臀芚遁遯鈍得嶝橙燈登等藤謄鄧騰喇懶\uf95b癩羅"⟩,
   ⟨0x55, 0x21, "蘿螺裸邏\uf95c洛烙珞絡落\uf95d酪駱\uf95e亂卵欄欒瀾爛蘭鸞剌辣嵐擥攬欖濫籃纜藍襤覽拉臘蠟廊朗浪狼琅瑯螂郞來崍徠萊冷掠略亮倆兩凉梁樑粮粱糧" ++
      "良諒輛量侶儷勵呂廬慮戾旅櫚濾礪藜蠣閭驢驪麗黎力曆歷瀝礫轢靂憐戀攣漣"⟩,
   ⟨0x56, 0x21, "煉璉練聯蓮輦連鍊冽列劣洌烈裂廉斂殮濂簾獵令伶囹\uf95f岺嶺怜玲笭羚翎聆逞鈴零靈領齡例澧禮醴隷勞\uf960撈擄櫓潞瀘爐盧老蘆虜路輅露魯鷺鹵碌祿綠菉錄" ++
      "鹿麓論壟弄朧瀧瓏籠聾儡瀨牢磊賂賚賴雷了僚寮廖料燎療瞭聊蓼"⟩,
   ⟨0x57, 0x21, "遼鬧龍壘婁屢樓淚漏瘻累縷蔞褸鏤陋劉旒柳榴流溜瀏琉瑠留瘤硫謬類六戮陸侖倫崙淪綸輪律慄栗\uf961隆勒肋凜凌楞稜綾菱陵俚利厘吏唎履悧李梨浬犁狸理璃" ++
      "\uf962痢籬罹羸莉裏裡里釐離鯉吝潾燐璘藺躪隣鱗麟林淋琳臨霖砬"⟩,
   ⟨0x58, 0x21, "立笠粒摩瑪痲碼磨馬魔麻寞幕漠膜莫邈万卍娩巒彎慢挽晩曼滿漫灣瞞萬蔓蠻輓饅鰻唜抹末沫茉襪靺亡妄忘忙望網罔芒茫莽輞邙埋妹媒寐昧枚梅每煤罵買賣邁魅脈貊陌驀麥孟氓" ++
      "猛盲盟萌冪覓免冕勉棉沔眄眠綿緬面麵滅"⟩,
   ⟨0x59, 0x21, "蔑冥名命明暝椧溟皿瞑茗蓂螟酩銘鳴袂侮冒募姆帽慕摸摹暮某模母毛牟牡瑁眸矛耗芼茅謀謨貌木沐牧目睦穆鶩歿沒夢朦蒙卯墓妙廟描昴杳渺猫竗苗錨務巫憮懋戊拇撫无楙武毋" ++
      "無珷畝繆舞茂蕪誣貿霧鵡墨默們刎吻問文"⟩,
   ⟨0x5A, 0x21, "汶紊紋聞蚊門雯勿沕物味媚尾嵋彌微未梶楣渼湄眉米美薇謎迷靡黴岷悶愍憫敏旻旼民泯玟珉緡閔密蜜謐剝博拍搏撲朴樸泊珀璞箔粕縛膊舶薄迫雹駁伴半反叛拌搬攀斑槃泮潘班" ++
      "畔瘢盤盼磐磻礬絆般蟠返頒飯勃拔撥渤潑"⟩,
   ⟨0x5B, 0x21, "發跋醱鉢髮魃倣傍坊妨尨幇彷房放方旁昉枋榜滂磅紡肪膀舫芳蒡蚌訪謗邦防龐倍俳\uf963培徘拜排杯湃焙盃背胚裴裵褙賠輩配陪伯佰帛柏栢白百魄幡樊煩燔番" ++
      "\uf964繁蕃藩飜伐筏罰閥凡帆梵氾汎泛犯範范法琺僻劈壁擘檗璧癖"⟩,
   ⟨0x5C, 0x21, "碧蘗闢霹\uf965卞弁變辨辯邊別瞥鱉鼈丙倂兵屛幷昞昺柄棅炳甁病秉竝輧餠騈保堡報寶普步洑湺潽珤甫菩補褓譜輔伏僕匐卜宓復服福腹茯蔔複覆輹輻馥鰒本乶俸奉封峯" ++
      "峰捧棒烽熢琫縫蓬蜂逢鋒鳳不付俯傅剖副否咐埠夫婦"⟩,
   ⟨0x5D, 0x21, "孚孵富府\uf966扶敷斧浮溥父符簿缶腐腑膚艀芙莩訃負賦賻赴趺部釜阜附駙鳧北分吩噴墳奔奮忿憤扮昐汾焚盆粉糞紛芬賁雰\uf967佛弗彿拂崩朋棚硼繃鵬丕備匕" ++
      "匪卑妃婢庇悲憊扉批斐枇榧比毖毗毘沸\uf968琵痺砒碑秕秘粃緋翡肥"⟩,
   ⟨0x5E, 0x21, "脾臂菲蜚裨誹譬費鄙非飛鼻嚬嬪彬斌檳殯浜濱瀕牝玭貧賓頻憑氷聘騁乍事些仕伺似使俟僿史司唆嗣四士奢娑寫寺射巳師徙思捨斜斯柶査梭死沙泗渣瀉獅砂社祀祠私篩紗絲肆舍" ++
      "莎蓑蛇裟詐詞謝賜赦辭邪飼駟麝削\uf969朔\uf96a"⟩,
   ⟨0x5F, 0x21, "傘刪山散汕珊産疝算蒜酸霰乷撒殺煞薩三\uf96b杉森渗芟蔘衫揷澁鈒颯上傷像償商喪嘗孀尙峠常床庠廂想桑橡湘爽牀狀相祥箱翔裳觴詳象賞霜塞璽賽嗇\uf96c穡" ++
      "索色牲生甥\uf96d笙墅壻嶼序庶徐恕抒捿敍暑曙書栖棲犀瑞筮絮緖署"⟩,
   ⟨0x60, 0x21, "胥舒薯西誓逝鋤黍鼠夕奭席惜昔晳析汐淅潟石碩蓆釋錫仙僊先善嬋宣扇敾旋渲煽琁瑄璇璿癬禪線繕羨腺膳船蘚蟬詵跣選銑鐥饍鮮卨屑楔泄洩渫舌薛褻設說雪齧剡暹殲纖蟾贍閃" ++
      "陝攝涉燮\uf96e城姓宬性惺成星晟猩珹盛省筬"⟩,
   ⟨0x61, 0x21, "聖聲腥誠醒世勢歲洗稅笹細\uf96f貰召嘯塑宵小少巢所掃搔昭梳沼消溯瀟炤燒甦疏疎瘙笑篠簫素紹蔬蕭蘇訴逍遡邵銷韶騷俗屬束涑粟續謖贖速孫巽損蓀遜飡率宋悚松淞" ++
      "訟誦送頌刷\uf970灑碎鎖衰釗修受嗽囚垂壽嫂守岫峀帥愁"⟩,
   ⟨0x62, 0x21, "戍手授搜收數樹殊水洙漱燧狩獸琇璲瘦睡秀穗竪粹綏綬繡羞脩茱蒐蓚藪袖誰讐輸遂邃酬銖銹隋隧隨雖需須首髓鬚叔塾夙孰宿淑潚熟琡璹肅菽巡徇循恂旬栒楯橓殉洵淳珣盾瞬筍" ++
      "純脣舜荀蓴蕣詢諄醇錞順馴戌術述鉥崇崧"⟩,
   ⟨0x63, 0x21, "嵩瑟膝蝨濕拾習褶襲丞乘僧勝升承昇繩蠅陞侍匙嘶始媤尸屎屍市弑恃施是時枾柴猜矢示翅蒔蓍視試詩諡豕豺埴寔式息拭植殖湜熄篒蝕識軾食飾伸侁信呻娠宸愼新晨燼申神紳腎" ++
      "臣莘薪藎蜃訊身辛\uf971迅失室實悉審尋心沁"⟩,
   ⟨0x64, 0x21, "\uf972深瀋甚芯諶什十\uf973雙氏亞俄兒啞娥峨我牙芽莪蛾衙訝阿雅餓鴉鵝堊岳嶽幄惡愕握樂渥鄂鍔顎鰐齷安岸按晏案眼雁鞍顔鮟斡謁軋閼唵岩巖庵暗癌菴闇壓" ++
      "押狎鴨仰央怏昻殃秧鴦厓哀埃崖愛曖涯碍艾隘靄厄扼掖液縊腋額"⟩,
   ⟨0x65, 0x21, "櫻罌鶯鸚也倻冶夜惹揶椰爺耶\uf974野弱\uf975\uf976約若葯蒻藥躍\uf977佯\uf978\uf979壤孃恙揚攘敭暘\uf97a楊樣洋瀁煬" ++
      "痒瘍禳穰\uf97b羊\uf97c襄\uf97d讓釀陽\uf97e養圄御於漁瘀禦語馭魚齬億憶抑檍臆偃堰彦焉言諺孼蘖俺儼嚴奄掩淹嶪業円予余\uf97f" ++
      "\uf980\uf981如\uf982"⟩,
   ⟨0x66, 0x21, "\uf983歟汝\uf984璵礖\uf985與艅茹輿轝\uf986餘\uf987\uf988\uf989亦\uf98a域役易\uf98b\uf98c疫繹" ++
      "譯\uf98d逆驛嚥堧姸娟宴\uf98e延\uf98f\uf990捐挻\uf991椽沇沿涎涓淵演\uf992烟然煙\uf993燃燕\uf994硏硯" ++
      "\uf995筵緣\uf996縯\uf997衍軟\uf998\uf999\uf99a鉛\uf99b鳶\uf99c\uf99d\uf99e悅涅\uf99f熱" ++
      "\uf9a0\uf9a1閱厭\uf9a2\uf9a3\uf9a4染\uf9a5炎焰琰艶苒"⟩,
   ⟨0x67, 0x21, "\uf9a6閻髥鹽曄\uf9a7燁葉\uf9a8\uf9a9塋\uf9aa\uf9ab嶸影\uf9ac映暎楹榮永泳渶潁濚瀛瀯煐營獰\uf9ad瑛" ++
      "\uf9ae瓔盈穎纓\uf9af\uf9b0英詠迎\uf9b1鍈\uf9b2霙\uf9b3\uf9b4乂倪\uf9b5刈叡曳汭濊猊睿穢芮藝蘂\uf9b6" ++
      "裔詣譽豫\uf9b7銳\uf9b8霓預五伍俉傲午吾吳嗚塢墺奧娛寤悟\uf9b9懊敖旿晤梧汚澳"⟩,
   ⟨0x68, 0x21, "烏熬獒筽蜈誤鰲鼇屋沃獄玉鈺溫瑥瘟穩縕蘊兀壅擁瓮甕癰翁邕雍饔渦瓦窩窪臥蛙蝸訛婉完宛梡椀浣玩琓琬碗緩翫脘腕莞豌阮頑曰往旺枉汪王倭娃歪矮外嵬巍猥畏\uf9ba" ++
      "\uf9bb僥凹堯夭妖姚寥\uf9bc\uf9bd嶢拗搖撓擾\uf9be曜\uf9bf橈\uf9c0燿瑤\uf9c1"⟩,
   ⟨0x69, 0x21, "窈窯繇繞耀腰\uf9c2蟯要謠遙\uf9c3邀饒慾欲浴縟褥辱俑傭冗勇埇墉容庸慂榕涌湧溶熔瑢用甬聳茸蓉踊鎔鏞\uf9c4于佑偶優又友右宇寓尤愚憂旴牛玗瑀盂" ++
      "祐禑禹紆羽芋藕虞迂遇郵釪隅雨雩勖彧旭昱栯煜稶郁頊云\uf9c5橒殞澐熉耘芸蕓"⟩,
   ⟨0x6A, 0x21, "運隕雲韻蔚鬱亐熊雄元原員圓園垣媛嫄寃怨愿援沅洹湲源爰猿瑗苑袁轅遠\uf9c6院願鴛月越鉞位偉僞危圍委威尉慰暐渭爲瑋緯胃萎葦蔿蝟衛褘謂違韋魏乳侑儒兪" ++
      "\uf9c7唯喩孺宥幼幽庾悠惟愈愉揄攸有\uf9c8柔柚\uf9c9楡楢油洧\uf9ca游\uf9cb"⟩,
   ⟨0x6B, 0x21, "濡猶猷\uf9cc瑜由\uf9cd癒\uf9ce\uf9cf維臾萸裕誘諛諭踰蹂遊逾遺酉釉鍮\uf9d0\uf9d1堉\uf9d2毓肉育\uf9d3" ++
      "\uf9d4允奫尹\uf9d5\uf9d6潤玧胤贇\uf9d7鈗閏\uf9d8\uf9d9\uf9da\uf9db聿戎瀜絨融\uf9dc垠恩慇殷誾銀隱乙" ++
      "吟淫蔭陰音飮揖泣邑凝應膺鷹依倚儀宜意懿擬椅毅疑矣義艤薏蟻衣誼"⟩,
   ⟨0x6C, 0x21, "議醫二以伊\uf9dd\uf9de夷姨\uf9df已弛彛怡\uf9e0\uf9e1\uf9e2\uf9e3爾珥\uf9e4異痍\uf9e5移\uf9e6" ++
      "而耳肄苡荑\uf9e7\uf9e8貽貳邇\uf9e9\uf9ea飴餌\uf9eb\uf9ec瀷益翊翌翼謚人仁刃印\uf9ed咽因姻寅引忍湮\uf9ee" ++
      "\uf9ef絪茵\uf9f0蚓認\uf9f1靭靷\uf9f2\uf9f3一佚佾壹日溢逸鎰馹任壬妊姙恁\uf9f4\uf9f5稔\uf9f6荏賃入卄"⟩,
   ⟨0x6D, 0x21, "\uf9f7\uf9f8\uf9f9仍剩孕芿仔刺咨姉姿子字孜恣慈滋炙煮玆瓷疵磁紫者自茨蔗藉諮資雌作勺嚼斫昨灼炸爵綽芍酌雀鵲孱棧殘潺盞岑暫潛箴簪蠶雜丈仗匠" ++
      "場墻壯奬將帳庄張掌暲杖樟檣欌漿牆\uf9fa獐璋章粧腸臟臧莊葬蔣薔藏裝贓醬長"⟩,
   ⟨0x6E, 0x21, "障再哉在宰才材栽梓渽滓災縡裁財載齋齎爭箏諍錚佇低儲咀姐底抵杵楮樗沮渚狙猪疽箸紵苧菹著藷詛貯躇這邸雎齟勣吊嫡寂摘敵滴狄\uf9fb的積笛籍績翟荻謫賊赤跡蹟" ++
      "迪迹適鏑佃佺傳全典前剪塡塼奠專展廛悛戰栓殿氈澱"⟩,
   ⟨0x6F, 0x21, "煎琠田甸畑癲筌箋箭篆纏詮輾轉鈿銓錢鐫電顚顫餞切截折浙癤竊節絶占岾店漸点粘霑鮎點接摺蝶丁井亭停偵呈姃定幀庭廷征情挺政整旌晶晸柾楨檉正汀淀淨渟湞瀞炡玎珽町睛" ++
      "碇禎程穽精綎艇訂諪貞鄭酊釘鉦鋌錠霆靖"⟩,
   ⟨0x70, 0x21, "靜頂鼎制劑啼堤帝弟悌提梯濟祭第臍薺製諸蹄醍除際霽題齊俎兆凋助嘲弔彫措操早晁曺曹朝條棗槽漕潮照燥爪璪眺祖祚租稠窕粗糟組繰肇藻蚤詔調趙躁造遭釣阻雕鳥族簇足鏃" ++
      "存尊卒拙猝倧宗從悰慫棕淙琮種終綜縱腫"⟩,
   ⟨0x71, 0x21, "踪踵鍾鐘佐坐左座挫罪主住侏做姝胄呪周嗾奏宙州廚晝朱柱株注洲湊澍炷珠疇籌紂紬綢舟蛛註誅走躊輳週酎酒鑄駐竹粥俊儁准埈寯峻晙樽浚準濬焌畯竣蠢逡遵雋駿茁中仲衆重" ++
      "卽櫛楫汁葺增憎曾拯烝甑症繒蒸證贈之只"⟩,
   ⟨0x72, 0x21, "咫地址志持指摯支旨智枝枳止池沚漬知砥祉祗紙肢脂至芝芷蜘誌\uf9fc贄趾遲直稙稷織職唇嗔塵振搢晉晋桭榛殄津溱珍瑨璡畛疹盡眞瞋秦縉縝臻蔯袗診賑軫辰進鎭陣陳" ++
      "震侄叱姪嫉帙桎瓆疾秩窒膣蛭質跌迭斟朕\uf9fd執潗緝輯"⟩,
   ⟨0x73, 0x21, "鏶集徵懲澄且侘借叉嗟嵯差次此磋箚\uf9fe蹉車遮捉搾着窄錯鑿齪撰澯燦璨瓚竄簒纂粲纘讚贊鑽餐饌刹察擦札紮僭參塹慘慙懺斬站讒讖倉倡創唱娼廠彰愴敞昌昶暢槍滄" ++
      "漲猖瘡窓脹艙菖蒼債埰寀寨彩採砦綵菜蔡采釵冊柵策"⟩,
   ⟨0x74, 0x21, "責凄妻悽處倜\uf9ff剔尺慽戚拓擲斥滌瘠脊蹠陟隻仟千喘天川擅泉淺玔穿舛薦賤踐遷釧闡阡韆凸哲喆徹撤澈綴輟轍鐵僉尖沾添甛瞻簽籤詹諂堞妾帖捷牒疊睫諜貼輒廳晴" ++
      "淸聽菁請靑鯖\ufa00剃替涕滯締諦逮遞體初剿哨憔抄招梢"⟩,
   ⟨0x75, 0x21, "椒楚樵炒焦硝礁礎秒稍肖艸苕草蕉貂超酢醋醮促囑燭矗蜀觸寸忖村邨叢塚寵悤憁摠總聰蔥銃撮催崔最墜抽推椎楸樞湫皺秋芻萩諏趨追鄒酋醜錐錘鎚雛騶鰍丑畜祝竺筑築縮蓄蹙" ++
      "蹴軸逐春椿瑃出朮黜充忠沖蟲衝衷悴膵萃"⟩,
   ⟨0x76, 0x21, "贅取吹嘴娶就炊翠聚脆臭趣醉驟鷲側仄厠惻測層侈値嗤峙幟恥梔治淄熾痔痴癡稚穉緇緻置致蚩輜雉馳齒則勅飭親七柒漆侵寢枕沈浸琛砧針鍼蟄秤稱快他咤唾墮妥惰打拖朶楕舵" ++
      "陀馱駝倬卓啄坼\ufa01托\ufa02擢晫柝濁濯琢琸託"⟩,
   ⟨0x77, 0x21, "鐸呑嘆坦彈憚歎灘炭綻誕奪脫探眈耽貪塔搭榻宕帑湯\ufa03蕩兌台太怠態殆汰泰笞胎苔跆邰颱\ufa04擇澤撑攄兎吐土討慟桶\ufa05痛筒統通堆槌腿褪退頹" ++
      "偸套妬投透鬪慝特闖坡婆巴把播擺杷波派爬琶破罷芭跛頗判坂板版瓣販辦鈑"⟩,
   ⟨0x78, 0x21, "阪八叭捌佩唄悖敗沛浿牌狽稗覇貝彭澎烹膨愎便偏扁片篇編翩遍鞭騙貶坪平枰萍評吠嬖幣廢弊斃肺蔽閉陛佈包匍匏咆哺圃布怖抛抱捕\ufa06泡浦疱砲胞脯苞葡蒲袍褒逋" ++
      "鋪飽鮑幅暴曝瀑爆\ufa07俵剽彪慓杓標漂瓢票表豹飇飄驃"⟩,
   ⟨0x79, 0x21, "品稟楓諷豊風馮彼披疲皮被避陂匹弼必泌珌畢疋筆苾馝乏逼下何厦夏廈昰河瑕荷蝦賀遐霞鰕壑學虐謔鶴寒恨悍旱汗漢澣瀚罕翰閑閒限韓割轄函含咸啣喊檻涵緘艦銜陷鹹合哈盒" ++
      "蛤閤闔陜亢伉姮嫦巷恒抗杭桁沆港缸肛航"⟩,
   ⟨0x7A, 0x21, "\ufa08\ufa09項亥偕咳垓奚孩害懈楷海瀣蟹解該諧邂駭骸劾核倖幸杏荇行享向嚮珦鄕響餉饗香噓墟虛許憲櫶獻軒歇險驗奕爀赫革俔峴弦懸晛泫炫玄玹現眩睍絃絢" ++
      "縣舷衒\ufa0a賢鉉顯孑穴血頁嫌俠協夾峽挾浹狹脅脇莢鋏頰亨兄刑型"⟩,
   ⟨0x7B, 0x21, "形泂滎瀅灐炯熒珩瑩荊螢衡逈邢鎣馨兮彗惠慧暳蕙蹊醯鞋乎互呼壕壺好岵弧戶扈昊晧毫浩淏湖滸澔濠濩灝狐琥瑚瓠皓祜糊縞胡芦葫蒿虎號蝴護豪鎬頀顥惑或酷婚昏混渾琿魂忽" ++
      "惚笏哄弘汞泓洪烘紅虹訌鴻化和嬅樺火畵"⟩,
   ⟨0x7C, 0x21, "禍禾花華話譁貨靴\ufa0b擴攫確碻穫丸喚奐宦幻患換歡晥桓渙煥環紈還驩鰥活滑猾豁闊凰幌徨恍惶愰慌晃晄榥況湟滉潢煌璜皇篁簧荒蝗遑隍黃匯回廻徊恢悔懷晦會檜淮" ++
      "澮灰獪繪膾茴蛔誨賄劃獲宖橫鐄哮嚆孝效斅曉梟涍淆"⟩,
   ⟨0x7D, 0x21, "爻肴酵驍侯候厚后吼喉嗅帿後朽煦珝逅勛勳塤壎焄熏燻薰訓暈薨喧暄煊萱卉喙毁彙徽揮暉煇諱輝麾休携烋畦虧恤譎鷸兇凶匈洶胸黑昕欣炘痕吃屹紇訖欠欽歆吸恰洽翕興僖凞喜" ++
      "噫囍姬嬉希憙憘戱晞曦熙熹熺犧禧稀羲詰"⟩]

end AffinityPool.Text.Grid
