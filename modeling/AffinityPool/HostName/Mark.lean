/-
Module: AffinityPool.HostName.Mark
Purpose: Combining marks.
Main exports:
  isNonspacing, isMark
-/
import AffinityPool.Text.Runs

namespace AffinityPool.HostName

/-- Runs of marks that take no room of their own. -/
def nonspacingRuns : List (Nat × Nat) :=
  [(768, 831), (834, 834), (838, 846), (848, 879), (1155, 1159), (1425, 1469), (1471, 1471),
   (1473, 1474), (1476, 1477), (1479, 1479), (1552, 1562), (1611, 1631), (1648, 1648),
   (1750, 1756), (1759, 1764), (1767, 1768), (1770, 1773), (1809, 1809), (1840, 1866),
   (1958, 1968), (2027, 2035), (2045, 2045), (2070, 2073), (2075, 2083), (2085, 2087),
   (2089, 2093), (2137, 2139), (2200, 2207), (2250, 2273), (2275, 2306), (2362, 2362),
   (2364, 2364), (2369, 2376), (2381, 2381), (2385, 2391), (2402, 2403), (2433, 2433),
   (2492, 2492), (2497, 2500), (2509, 2509), (2530, 2531), (2558, 2558), (2561, 2562),
   (2620, 2620), (2625, 2626), (2631, 2632), (2635, 2637), (2641, 2641), (2672, 2673),
   (2677, 2677), (2689, 2690), (2748, 2748), (2753, 2757), (2759, 2760), (2765, 2765),
   (2786, 2787), (2810, 2815), (2817, 2817), (2876, 2876), (2879, 2879), (2881, 2884),
   (2893, 2893), (2901, 2902), (2914, 2915), (2946, 2946), (3008, 3008), (3021, 3021),
   (3072, 3072), (3076, 3076), (3132, 3132), (3134, 3136), (3142, 3144), (3146, 3149),
   (3157, 3158), (3170, 3171), (3201, 3201), (3260, 3260), (3263, 3263), (3270, 3270),
   (3276, 3277), (3298, 3299), (3328, 3329), (3387, 3388), (3393, 3396), (3405, 3405),
   (3426, 3427), (3457, 3457), (3530, 3530), (3538, 3540), (3542, 3542), (3633, 3633),
   (3636, 3642), (3655, 3662), (3761, 3761), (3764, 3772), (3784, 3789), (3864, 3865),
   (3893, 3893), (3895, 3895), (3897, 3897), (3953, 3954), (3956, 3956), (3962, 3966),
   (3968, 3968), (3970, 3972), (3974, 3975), (3981, 3986), (3988, 3991), (3993, 3996),
   (3998, 4001), (4003, 4006), (4008, 4011), (4013, 4024), (4026, 4028), (4038, 4038),
   (4141, 4144), (4146, 4151), (4153, 4154), (4157, 4158), (4184, 4185), (4190, 4192),
   (4209, 4212), (4226, 4226), (4229, 4230), (4237, 4237), (4253, 4253), (4957, 4959),
   (5906, 5908), (5938, 5939), (5970, 5971), (6002, 6003), (6071, 6077), (6086, 6086),
   (6089, 6099), (6109, 6109), (6277, 6278), (6313, 6313), (6432, 6434), (6439, 6440),
   (6450, 6450), (6457, 6459), (6679, 6680), (6683, 6683), (6742, 6742), (6744, 6750),
   (6752, 6752), (6754, 6754), (6757, 6764), (6771, 6780), (6783, 6783), (6832, 6845),
   (6847, 6862), (6912, 6915), (6964, 6964), (6966, 6970), (6972, 6972), (6978, 6978),
   (7019, 7027), (7040, 7041), (7074, 7077), (7080, 7081), (7083, 7085), (7142, 7142),
   (7144, 7145), (7149, 7149), (7151, 7153), (7212, 7219), (7222, 7223), (7376, 7378),
   (7380, 7392), (7394, 7400), (7405, 7405), (7412, 7412), (7416, 7417), (7616, 7679),
   (11503, 11505), (11647, 11647), (11744, 11775), (12330, 12333), (12441, 12442), (42607, 42607),
   (42612, 42621), (42654, 42655), (42736, 42737), (43010, 43010), (43014, 43014), (43019, 43019),
   (43045, 43046), (43052, 43052), (43204, 43205), (43232, 43249), (43263, 43263), (43302, 43309),
   (43335, 43345), (43392, 43394), (43443, 43443), (43446, 43449), (43452, 43453), (43493, 43493),
   (43561, 43566), (43569, 43570), (43573, 43574), (43587, 43587), (43596, 43596), (43644, 43644),
   (43696, 43696), (43698, 43700), (43703, 43704), (43710, 43711), (43713, 43713), (43756, 43757),
   (43766, 43766), (44005, 44005), (44008, 44008), (44013, 44013), (64286, 64286), (65056, 65071),
   (66045, 66045), (66272, 66272), (66422, 66426), (68097, 68099), (68101, 68102), (68108, 68111),
   (68152, 68154), (68159, 68159), (68325, 68326), (68900, 68903), (69291, 69292), (69446, 69456),
   (69506, 69509), (69633, 69633), (69688, 69702), (69744, 69744), (69747, 69748), (69759, 69761),
   (69811, 69814), (69817, 69818), (69826, 69826), (69888, 69890), (69927, 69931), (69933, 69940),
   (70003, 70003), (70016, 70017), (70070, 70078), (70089, 70092), (70095, 70095), (70191, 70193),
   (70196, 70196), (70198, 70199), (70206, 70206), (70367, 70367), (70371, 70378), (70400, 70401),
   (70459, 70460), (70464, 70464), (70502, 70508), (70512, 70516), (70712, 70719), (70722, 70724),
   (70726, 70726), (70750, 70750), (70835, 70840), (70842, 70842), (70847, 70848), (70850, 70851),
   (71090, 71093), (71100, 71101), (71103, 71104), (71132, 71133), (71219, 71226), (71229, 71229),
   (71231, 71232), (71339, 71339), (71341, 71341), (71344, 71349), (71351, 71351), (71453, 71455),
   (71458, 71461), (71463, 71467), (71727, 71735), (71737, 71738), (71995, 71996), (71998, 71998),
   (72003, 72003), (72148, 72151), (72154, 72155), (72160, 72160), (72193, 72202), (72243, 72248),
   (72251, 72254), (72263, 72263), (72273, 72278), (72281, 72283), (72330, 72342), (72344, 72345),
   (72752, 72758), (72760, 72765), (72767, 72767), (72850, 72871), (72874, 72880), (72882, 72883),
   (72885, 72886), (73009, 73014), (73018, 73018), (73020, 73021), (73023, 73029), (73031, 73031),
   (73104, 73105), (73109, 73109), (73111, 73111), (73459, 73460), (92912, 92916), (92976, 92982),
   (94031, 94031), (94095, 94098), (94180, 94180), (113821, 113822), (118528, 118573),
   (118576, 118598), (121344, 121398), (121403, 121452), (121461, 121461), (121476, 121476),
   (121499, 121503), (121505, 121519), (122880, 122886), (122888, 122904), (122907, 122913),
   (122915, 122916), (122918, 122922), (123184, 123190), (123566, 123566), (123628, 123631),
   (125136, 125142), (125252, 125258)]

/-- Runs of marks that take room of their own. -/
def spacingRuns : List (Nat × Nat) :=
  [(2307, 2307), (2363, 2363), (2366, 2368), (2377, 2380), (2382, 2383), (2434, 2435),
   (2494, 2496), (2503, 2504), (2507, 2508), (2519, 2519), (2563, 2563), (2622, 2624),
   (2691, 2691), (2750, 2752), (2761, 2761), (2763, 2764), (2818, 2819), (2878, 2878),
   (2880, 2880), (2887, 2888), (2891, 2892), (2903, 2903), (3006, 3007), (3009, 3010),
   (3014, 3016), (3018, 3020), (3031, 3031), (3073, 3075), (3137, 3140), (3202, 3203),
   (3262, 3262), (3264, 3268), (3271, 3272), (3274, 3275), (3285, 3286), (3330, 3331),
   (3390, 3392), (3398, 3400), (3402, 3404), (3415, 3415), (3458, 3459), (3535, 3537),
   (3544, 3551), (3570, 3571), (3902, 3903), (3967, 3967), (4139, 4140), (4145, 4145),
   (4152, 4152), (4155, 4156), (4182, 4183), (4194, 4196), (4199, 4205), (4227, 4228),
   (4231, 4236), (4239, 4239), (4250, 4252), (5909, 5909), (5940, 5940), (6070, 6070),
   (6078, 6085), (6087, 6088), (6435, 6438), (6441, 6443), (6448, 6449), (6451, 6456),
   (6681, 6682), (6741, 6741), (6743, 6743), (6753, 6753), (6755, 6756), (6765, 6770),
   (6916, 6916), (6965, 6965), (6971, 6971), (6973, 6977), (6979, 6980), (7042, 7042),
   (7073, 7073), (7078, 7079), (7082, 7082), (7143, 7143), (7146, 7148), (7150, 7150),
   (7154, 7155), (7204, 7211), (7220, 7221), (7393, 7393), (7415, 7415), (43043, 43044),
   (43047, 43047), (43136, 43137), (43188, 43203), (43346, 43347), (43395, 43395), (43444, 43445),
   (43450, 43451), (43454, 43456), (43567, 43568), (43571, 43572), (43597, 43597), (43643, 43643),
   (43645, 43645), (43755, 43755), (43758, 43759), (43765, 43765), (44003, 44004), (44006, 44007),
   (44009, 44010), (44012, 44012), (69632, 69632), (69634, 69634), (69762, 69762), (69808, 69810),
   (69815, 69816), (69932, 69932), (69957, 69958), (70018, 70018), (70067, 70069), (70079, 70080),
   (70094, 70094), (70188, 70190), (70194, 70195), (70197, 70197), (70368, 70370), (70402, 70403),
   (70462, 70463), (70465, 70468), (70471, 70472), (70475, 70477), (70487, 70487), (70498, 70499),
   (70709, 70711), (70720, 70721), (70725, 70725), (70832, 70834), (70841, 70841), (70843, 70846),
   (70849, 70849), (71087, 71089), (71096, 71099), (71102, 71102), (71216, 71218), (71227, 71228),
   (71230, 71230), (71340, 71340), (71342, 71343), (71350, 71350), (71456, 71457), (71462, 71462),
   (71724, 71726), (71736, 71736), (71984, 71989), (71991, 71992), (71997, 71997), (72000, 72000),
   (72002, 72002), (72145, 72147), (72156, 72159), (72164, 72164), (72249, 72249), (72279, 72280),
   (72343, 72343), (72751, 72751), (72766, 72766), (72873, 72873), (72881, 72881), (72884, 72884),
   (73098, 73102), (73107, 73108), (73110, 73110), (73461, 73462), (94033, 94087), (94192, 94193)]

/-- Whether a character is a mark that takes no room. -/
def isNonspacing (c : Char) : Bool := Text.inRuns nonspacingRuns c

/-- Whether a character is a mark. -/
def isMark (c : Char) : Bool := isNonspacing c || Text.inRuns spacingRuns c

end AffinityPool.HostName
