/-
Module: AffinityPool.HostName.Repertoire
Purpose: The characters that host names may be made of.
Main exports:
  isAllowed
-/
import AffinityPool.Text.Runs

namespace AffinityPool.HostName

/-- Runs of the characters that may stand anywhere in a label: the letters, digits and
marks that stay as they are when a text is folded and normalised. -/
def allowedRuns : List (Nat × Nat) :=
  [(45, 45), (48, 57), (97, 122), (223, 246), (248, 255), (257, 257), (259, 259), (261, 261),
   (263, 263), (265, 265), (267, 267), (269, 269), (271, 271), (273, 273), (275, 275), (277, 277),
   (279, 279), (281, 281), (283, 283), (285, 285), (287, 287), (289, 289), (291, 291), (293, 293),
   (295, 295), (297, 297), (299, 299), (301, 301), (303, 303), (305, 305), (309, 309), (311, 312),
   (314, 314), (316, 316), (318, 318), (322, 322), (324, 324), (326, 326), (328, 328), (331, 331),
   (333, 333), (335, 335), (337, 337), (339, 339), (341, 341), (343, 343), (345, 345), (347, 347),
   (349, 349), (351, 351), (353, 353), (355, 355), (357, 357), (359, 359), (361, 361), (363, 363),
   (365, 365), (367, 367), (369, 369), (371, 371), (373, 373), (375, 375), (378, 378), (380, 380),
   (382, 382), (384, 384), (387, 387), (389, 389), (392, 392), (396, 397), (402, 402), (405, 405),
   (409, 411), (414, 414), (417, 417), (419, 419), (421, 421), (424, 424), (426, 427), (429, 429),
   (432, 432), (436, 436), (438, 438), (441, 443), (445, 451), (462, 462), (464, 464), (466, 466),
   (468, 468), (470, 470), (472, 472), (474, 474), (476, 477), (479, 479), (481, 481), (483, 483),
   (485, 485), (487, 487), (489, 489), (491, 491), (493, 493), (495, 496), (501, 501), (505, 505),
   (507, 507), (509, 509), (511, 511), (513, 513), (515, 515), (517, 517), (519, 519), (521, 521),
   (523, 523), (525, 525), (527, 527), (529, 529), (531, 531), (533, 533), (535, 535), (537, 537),
   (539, 539), (541, 541), (543, 543), (545, 545), (547, 547), (549, 549), (551, 551), (553, 553),
   (555, 555), (557, 557), (559, 559), (561, 561), (563, 569), (572, 572), (575, 576), (578, 578),
   (583, 583), (585, 585), (587, 587), (589, 589), (591, 687), (697, 705), (710, 721), (748, 748),
   (750, 750), (768, 831), (834, 834), (838, 846), (848, 879), (881, 881), (883, 883), (887, 887),
   (891, 893), (912, 912), (940, 974), (983, 983), (985, 985), (987, 987), (989, 989), (991, 991),
   (993, 993), (995, 995), (997, 997), (999, 999), (1001, 1001), (1003, 1003), (1005, 1005),
   (1007, 1007), (1011, 1011), (1016, 1016), (1019, 1020), (1072, 1119), (1121, 1121),
   (1123, 1123), (1125, 1125), (1127, 1127), (1129, 1129), (1131, 1131), (1133, 1133),
   (1135, 1135), (1137, 1137), (1139, 1139), (1141, 1141), (1143, 1143), (1145, 1145),
   (1147, 1147), (1149, 1149), (1151, 1151), (1153, 1153), (1155, 1159), (1163, 1163),
   (1165, 1165), (1167, 1167), (1169, 1169), (1171, 1171), (1173, 1173), (1175, 1175),
   (1177, 1177), (1179, 1179), (1181, 1181), (1183, 1183), (1185, 1185), (1187, 1187),
   (1189, 1189), (1191, 1191), (1193, 1193), (1195, 1195), (1197, 1197), (1199, 1199),
   (1201, 1201), (1203, 1203), (1205, 1205), (1207, 1207), (1209, 1209), (1211, 1211),
   (1213, 1213), (1215, 1215), (1218, 1218), (1220, 1220), (1222, 1222), (1224, 1224),
   (1226, 1226), (1228, 1228), (1230, 1231), (1233, 1233), (1235, 1235), (1237, 1237),
   (1239, 1239), (1241, 1241), (1243, 1243), (1245, 1245), (1247, 1247), (1249, 1249),
   (1251, 1251), (1253, 1253), (1255, 1255), (1257, 1257), (1259, 1259), (1261, 1261),
   (1263, 1263), (1265, 1265), (1267, 1267), (1269, 1269), (1271, 1271), (1273, 1273),
   (1275, 1275), (1277, 1277), (1279, 1279), (1281, 1281), (1283, 1283), (1285, 1285),
   (1287, 1287), (1289, 1289), (1291, 1291), (1293, 1293), (1295, 1295), (1297, 1297),
   (1299, 1299), (1301, 1301), (1303, 1303), (1305, 1305), (1307, 1307), (1309, 1309),
   (1311, 1311), (1313, 1313), (1315, 1315), (1317, 1317), (1319, 1319), (1321, 1321),
   (1323, 1323), (1325, 1325), (1327, 1327), (1369, 1369), (1376, 1414), (1416, 1416),
   (1425, 1469), (1471, 1471), (1473, 1474), (1476, 1477), (1479, 1479), (1488, 1514),
   (1519, 1522), (1552, 1562), (1568, 1599), (1601, 1631), (1646, 1652), (1657, 1747),
   (1749, 1756), (1759, 1768), (1770, 1775), (1786, 1791), (1808, 1866), (1869, 1969),
   (1984, 2037), (2045, 2045), (2048, 2093), (2112, 2139), (2144, 2154), (2160, 2183),
   (2185, 2190), (2200, 2273), (2275, 2391), (2400, 2403), (2406, 2415), (2417, 2435),
   (2437, 2444), (2447, 2448), (2451, 2472), (2474, 2480), (2482, 2482), (2486, 2489),
   (2492, 2500), (2503, 2504), (2507, 2510), (2519, 2519), (2528, 2531), (2534, 2545),
   (2556, 2556), (2558, 2558), (2561, 2563), (2565, 2570), (2575, 2576), (2579, 2600),
   (2602, 2608), (2610, 2610), (2613, 2613), (2616, 2617), (2620, 2620), (2622, 2626),
   (2631, 2632), (2635, 2637), (2641, 2641), (2652, 2652), (2662, 2677), (2689, 2691),
   (2693, 2701), (2703, 2705), (2707, 2728), (2730, 2736), (2738, 2739), (2741, 2745),
   (2748, 2757), (2759, 2761), (2763, 2765), (2768, 2768), (2784, 2787), (2790, 2799),
   (2809, 2815), (2817, 2819), (2821, 2828), (2831, 2832), (2835, 2856), (2858, 2864),
   (2866, 2867), (2869, 2873), (2876, 2884), (2887, 2888), (2891, 2893), (2901, 2903),
   (2911, 2915), (2918, 2927), (2929, 2929), (2946, 2947), (2949, 2954), (2958, 2960),
   (2962, 2965), (2969, 2970), (2972, 2972), (2974, 2975), (2979, 2980), (2984, 2986),
   (2990, 3001), (3006, 3010), (3014, 3016), (3018, 3021), (3024, 3024), (3031, 3031),
   (3046, 3055), (3072, 3084), (3086, 3088), (3090, 3112), (3114, 3129), (3132, 3140),
   (3142, 3144), (3146, 3149), (3157, 3158), (3160, 3162), (3165, 3165), (3168, 3171),
   (3174, 3183), (3200, 3203), (3205, 3212), (3214, 3216), (3218, 3240), (3242, 3251),
   (3253, 3257), (3260, 3268), (3270, 3272), (3274, 3277), (3285, 3286), (3293, 3294),
   (3296, 3299), (3302, 3311), (3313, 3314), (3328, 3340), (3342, 3344), (3346, 3396),
   (3398, 3400), (3402, 3406), (3412, 3415), (3423, 3427), (3430, 3439), (3450, 3455),
   (3457, 3459), (3461, 3478), (3482, 3505), (3507, 3515), (3517, 3517), (3520, 3526),
   (3530, 3530), (3535, 3540), (3542, 3542), (3544, 3551), (3558, 3567), (3570, 3571),
   (3585, 3634), (3636, 3642), (3648, 3662), (3664, 3673), (3713, 3714), (3716, 3716),
   (3718, 3722), (3724, 3747), (3749, 3749), (3751, 3762), (3764, 3773), (3776, 3780),
   (3782, 3782), (3784, 3789), (3792, 3801), (3806, 3807), (3840, 3840), (3851, 3851),
   (3864, 3865), (3872, 3881), (3893, 3893), (3895, 3895), (3897, 3897), (3902, 3906),
   (3908, 3911), (3913, 3916), (3918, 3921), (3923, 3926), (3928, 3931), (3933, 3944),
   (3946, 3948), (3953, 3954), (3956, 3956), (3962, 3968), (3970, 3972), (3974, 3986),
   (3988, 3991), (3993, 3996), (3998, 4001), (4003, 4006), (4008, 4011), (4013, 4024),
   (4026, 4028), (4038, 4038), (4096, 4169), (4176, 4253), (4304, 4346), (4349, 4351),
   (4608, 4680), (4682, 4685), (4688, 4694), (4696, 4696), (4698, 4701), (4704, 4744),
   (4746, 4749), (4752, 4784), (4786, 4789), (4792, 4798), (4800, 4800), (4802, 4805),
   (4808, 4822), (4824, 4880), (4882, 4885), (4888, 4954), (4957, 4959), (4992, 5007),
   (5024, 5109), (5121, 5740), (5743, 5759), (5761, 5786), (5792, 5866), (5873, 5880),
   (5888, 5909), (5919, 5940), (5952, 5971), (5984, 5996), (5998, 6000), (6002, 6003),
   (6016, 6067), (6070, 6099), (6103, 6103), (6108, 6109), (6112, 6121), (6160, 6169),
   (6176, 6264), (6272, 6314), (6320, 6389), (6400, 6430), (6432, 6443), (6448, 6459),
   (6470, 6509), (6512, 6516), (6528, 6571), (6576, 6601), (6608, 6617), (6656, 6683),
   (6688, 6750), (6752, 6780), (6783, 6793), (6800, 6809), (6823, 6823), (6832, 6845),
   (6847, 6862), (6912, 6988), (6992, 7001), (7019, 7027), (7040, 7155), (7168, 7223),
   (7232, 7241), (7245, 7293), (7376, 7378), (7380, 7418), (7424, 7467), (7471, 7471),
   (7483, 7483), (7502, 7502), (7531, 7543), (7545, 7578), (7616, 7679), (7681, 7681),
   (7683, 7683), (7685, 7685), (7687, 7687), (7689, 7689), (7691, 7691), (7693, 7693),
   (7695, 7695), (7697, 7697), (7699, 7699), (7701, 7701), (7703, 7703), (7705, 7705),
   (7707, 7707), (7709, 7709), (7711, 7711), (7713, 7713), (7715, 7715), (7717, 7717),
   (7719, 7719), (7721, 7721), (7723, 7723), (7725, 7725), (7727, 7727), (7729, 7729),
   (7731, 7731), (7733, 7733), (7735, 7735), (7737, 7737), (7739, 7739), (7741, 7741),
   (7743, 7743), (7745, 7745), (7747, 7747), (7749, 7749), (7751, 7751), (7753, 7753),
   (7755, 7755), (7757, 7757), (7759, 7759), (7761, 7761), (7763, 7763), (7765, 7765),
   (7767, 7767), (7769, 7769), (7771, 7771), (7773, 7773), (7775, 7775), (7777, 7777),
   (7779, 7779), (7781, 7781), (7783, 7783), (7785, 7785), (7787, 7787), (7789, 7789),
   (7791, 7791), (7793, 7793), (7795, 7795), (7797, 7797), (7799, 7799), (7801, 7801),
   (7803, 7803), (7805, 7805), (7807, 7807), (7809, 7809), (7811, 7811), (7813, 7813),
   (7815, 7815), (7817, 7817), (7819, 7819), (7821, 7821), (7823, 7823), (7825, 7825),
   (7827, 7827), (7829, 7833), (7836, 7837), (7839, 7839), (7841, 7841), (7843, 7843),
   (7845, 7845), (7847, 7847), (7849, 7849), (7851, 7851), (7853, 7853), (7855, 7855),
   (7857, 7857), (7859, 7859), (7861, 7861), (7863, 7863), (7865, 7865), (7867, 7867),
   (7869, 7869), (7871, 7871), (7873, 7873), (7875, 7875), (7877, 7877), (7879, 7879),
   (7881, 7881), (7883, 7883), (7885, 7885), (7887, 7887), (7889, 7889), (7891, 7891),
   (7893, 7893), (7895, 7895), (7897, 7897), (7899, 7899), (7901, 7901), (7903, 7903),
   (7905, 7905), (7907, 7907), (7909, 7909), (7911, 7911), (7913, 7913), (7915, 7915),
   (7917, 7917), (7919, 7919), (7921, 7921), (7923, 7923), (7925, 7925), (7927, 7927),
   (7929, 7929), (7931, 7931), (7933, 7933), (7935, 7943), (7952, 7957), (7968, 7975),
   (7984, 7991), (8000, 8005), (8016, 8023), (8032, 8039), (8048, 8048), (8050, 8050),
   (8052, 8052), (8054, 8054), (8056, 8056), (8058, 8058), (8060, 8060), (8112, 8113),
   (8118, 8118), (8134, 8134), (8144, 8146), (8150, 8151), (8160, 8162), (8164, 8167),
   (8182, 8182), (8526, 8526), (8580, 8580), (11312, 11359), (11361, 11361), (11365, 11366),
   (11368, 11368), (11370, 11370), (11372, 11372), (11377, 11377), (11379, 11380), (11382, 11387),
   (11393, 11393), (11395, 11395), (11397, 11397), (11399, 11399), (11401, 11401), (11403, 11403),
   (11405, 11405), (11407, 11407), (11409, 11409), (11411, 11411), (11413, 11413), (11415, 11415),
   (11417, 11417), (11419, 11419), (11421, 11421), (11423, 11423), (11425, 11425), (11427, 11427),
   (11429, 11429), (11431, 11431), (11433, 11433), (11435, 11435), (11437, 11437), (11439, 11439),
   (11441, 11441), (11443, 11443), (11445, 11445), (11447, 11447), (11449, 11449), (11451, 11451),
   (11453, 11453), (11455, 11455), (11457, 11457), (11459, 11459), (11461, 11461), (11463, 11463),
   (11465, 11465), (11467, 11467), (11469, 11469), (11471, 11471), (11473, 11473), (11475, 11475),
   (11477, 11477), (11479, 11479), (11481, 11481), (11483, 11483), (11485, 11485), (11487, 11487),
   (11489, 11489), (11491, 11492), (11500, 11500), (11502, 11505), (11507, 11507), (11520, 11557),
   (11559, 11559), (11565, 11565), (11568, 11623), (11647, 11670), (11680, 11686), (11688, 11694),
   (11696, 11702), (11704, 11710), (11712, 11718), (11720, 11726), (11728, 11734), (11736, 11742),
   (11744, 11775), (11823, 11823), (12293, 12295), (12330, 12333), (12348, 12348), (12353, 12438),
   (12441, 12442), (12445, 12446), (12449, 12538), (12540, 12542), (12549, 12591), (12704, 12735),
   (12784, 12799), (13312, 19903), (19968, 42124), (42192, 42237), (42240, 42508), (42512, 42539),
   (42561, 42561), (42563, 42563), (42565, 42565), (42567, 42567), (42569, 42569), (42571, 42571),
   (42573, 42573), (42575, 42575), (42577, 42577), (42579, 42579), (42581, 42581), (42583, 42583),
   (42585, 42585), (42587, 42587), (42589, 42589), (42591, 42591), (42593, 42593), (42595, 42595),
   (42597, 42597), (42599, 42599), (42601, 42601), (42603, 42603), (42605, 42607), (42612, 42621),
   (42623, 42623), (42625, 42625), (42627, 42627), (42629, 42629), (42631, 42631), (42633, 42633),
   (42635, 42635), (42637, 42637), (42639, 42639), (42641, 42641), (42643, 42643), (42645, 42645),
   (42647, 42647), (42649, 42649), (42651, 42651), (42654, 42725), (42736, 42737), (42775, 42783),
   (42787, 42787), (42789, 42789), (42791, 42791), (42793, 42793), (42795, 42795), (42797, 42797),
   (42799, 42801), (42803, 42803), (42805, 42805), (42807, 42807), (42809, 42809), (42811, 42811),
   (42813, 42813), (42815, 42815), (42817, 42817), (42819, 42819), (42821, 42821), (42823, 42823),
   (42825, 42825), (42827, 42827), (42829, 42829), (42831, 42831), (42833, 42833), (42835, 42835),
   (42837, 42837), (42839, 42839), (42841, 42841), (42843, 42843), (42845, 42845), (42847, 42847),
   (42849, 42849), (42851, 42851), (42853, 42853), (42855, 42855), (42857, 42857), (42859, 42859),
   (42861, 42861), (42863, 42863), (42865, 42872), (42874, 42874), (42876, 42876), (42879, 42879),
   (42881, 42881), (42883, 42883), (42885, 42885), (42887, 42888), (42892, 42892), (42894, 42895),
   (42897, 42897), (42899, 42901), (42903, 42903), (42905, 42905), (42907, 42907), (42909, 42909),
   (42911, 42911), (42913, 42913), (42915, 42915), (42917, 42917), (42919, 42919), (42921, 42921),
   (42927, 42927), (42933, 42933), (42935, 42935), (42937, 42937), (42939, 42939), (42941, 42941),
   (42943, 42943), (42945, 42945), (42947, 42947), (42952, 42952), (42954, 42954), (42961, 42961),
   (42963, 42963), (42965, 42965), (42967, 42967), (42969, 42969), (42998, 42999), (43002, 43047),
   (43052, 43052), (43072, 43123), (43136, 43205), (43216, 43225), (43232, 43255), (43259, 43259),
   (43261, 43309), (43312, 43347), (43392, 43456), (43471, 43481), (43488, 43518), (43520, 43574),
   (43584, 43597), (43600, 43609), (43616, 43638), (43642, 43714), (43739, 43741), (43744, 43759),
   (43762, 43766), (43777, 43782), (43785, 43790), (43793, 43798), (43808, 43814), (43816, 43822),
   (43824, 43866), (43872, 43880), (43968, 44010), (44012, 44013), (44016, 44025), (44032, 55203),
   (64014, 64015), (64017, 64017), (64019, 64020), (64031, 64031), (64033, 64033), (64035, 64036),
   (64039, 64041), (64286, 64286), (65056, 65071), (65139, 65139), (65536, 65547), (65549, 65574),
   (65576, 65594), (65596, 65597), (65599, 65613), (65616, 65629), (65664, 65786), (66045, 66045),
   (66176, 66204), (66208, 66256), (66272, 66272), (66304, 66335), (66349, 66368), (66370, 66377),
   (66384, 66426), (66432, 66461), (66464, 66499), (66504, 66511), (66600, 66717), (66720, 66729),
   (66776, 66811), (66816, 66855), (66864, 66915), (66967, 66977), (66979, 66993), (66995, 67001),
   (67003, 67004), (67072, 67382), (67392, 67413), (67424, 67431), (67456, 67456), (67584, 67589),
   (67592, 67592), (67594, 67637), (67639, 67640), (67644, 67644), (67647, 67669), (67680, 67702),
   (67712, 67742), (67808, 67826), (67828, 67829), (67840, 67861), (67872, 67897), (67968, 68023),
   (68030, 68031), (68096, 68099), (68101, 68102), (68108, 68115), (68117, 68119), (68121, 68149),
   (68152, 68154), (68159, 68159), (68192, 68220), (68224, 68252), (68288, 68295), (68297, 68326),
   (68352, 68405), (68416, 68437), (68448, 68466), (68480, 68497), (68608, 68680), (68800, 68850),
   (68864, 68903), (68912, 68921), (69248, 69289), (69291, 69292), (69296, 69297), (69376, 69404),
   (69415, 69415), (69424, 69456), (69488, 69509), (69552, 69572), (69600, 69622), (69632, 69702),
   (69734, 69749), (69759, 69818), (69826, 69826), (69840, 69864), (69872, 69881), (69888, 69940),
   (69942, 69951), (69956, 69959), (69968, 70003), (70006, 70006), (70016, 70084), (70089, 70092),
   (70094, 70106), (70108, 70108), (70144, 70161), (70163, 70199), (70206, 70206), (70272, 70278),
   (70280, 70280), (70282, 70285), (70287, 70301), (70303, 70312), (70320, 70378), (70384, 70393),
   (70400, 70403), (70405, 70412), (70415, 70416), (70419, 70440), (70442, 70448), (70450, 70451),
   (70453, 70457), (70459, 70468), (70471, 70472), (70475, 70477), (70480, 70480), (70487, 70487),
   (70493, 70499), (70502, 70508), (70512, 70516), (70656, 70730), (70736, 70745), (70750, 70753),
   (70784, 70853), (70855, 70855), (70864, 70873), (71040, 71093), (71096, 71104), (71128, 71133),
   (71168, 71232), (71236, 71236), (71248, 71257), (71296, 71352), (71360, 71369), (71424, 71450),
   (71453, 71467), (71472, 71481), (71488, 71494), (71680, 71738), (71872, 71913), (71935, 71942),
   (71945, 71945), (71948, 71955), (71957, 71958), (71960, 71989), (71991, 71992), (71995, 72003),
   (72016, 72025), (72096, 72103), (72106, 72151), (72154, 72161), (72163, 72164), (72192, 72254),
   (72263, 72263), (72272, 72345), (72349, 72349), (72368, 72440), (72704, 72712), (72714, 72758),
   (72760, 72768), (72784, 72793), (72818, 72847), (72850, 72871), (72873, 72886), (72960, 72966),
   (72968, 72969), (72971, 73014), (73018, 73018), (73020, 73021), (73023, 73031), (73040, 73049),
   (73056, 73061), (73063, 73064), (73066, 73102), (73104, 73105), (73107, 73112), (73120, 73129),
   (73440, 73462), (73648, 73648), (73728, 74649), (74880, 75075), (77712, 77808), (77824, 78894),
   (82944, 83526), (92160, 92728), (92736, 92766), (92768, 92777), (92784, 92862), (92864, 92873),
   (92880, 92909), (92912, 92916), (92928, 92982), (92992, 92995), (93008, 93017), (93027, 93047),
   (93053, 93071), (93792, 93823), (93952, 94026), (94031, 94087), (94095, 94111), (94176, 94177),
   (94179, 94180), (94192, 94193), (94208, 100343), (100352, 101589), (101632, 101640),
   (110576, 110579), (110581, 110587), (110589, 110590), (110592, 110882), (110928, 110930),
   (110948, 110951), (110960, 111355), (113664, 113770), (113776, 113788), (113792, 113800),
   (113808, 113817), (113821, 113822), (118528, 118573), (118576, 118598), (121344, 121398),
   (121403, 121452), (121461, 121461), (121476, 121476), (121499, 121503), (121505, 121519),
   (122624, 122654), (122880, 122886), (122888, 122904), (122907, 122913), (122915, 122916),
   (122918, 122922), (123136, 123180), (123184, 123197), (123200, 123209), (123214, 123214),
   (123536, 123566), (123584, 123641), (124896, 124902), (124904, 124907), (124909, 124910),
   (124912, 124926), (124928, 125124), (125136, 125142), (125218, 125259), (125264, 125273),
   (131072, 173791), (173824, 177976), (177984, 178205), (178208, 183969), (183984, 191456),
   (196608, 201546)]

/-- Whether a character may stand anywhere in a label. -/
def isAllowed (c : Char) : Bool := Text.inRuns allowedRuns c

end AffinityPool.HostName
