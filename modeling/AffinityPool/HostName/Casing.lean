/-
Module: AffinityPool.HostName.Casing
Purpose: Host names in small letters.
Main exports:
  lowered
-/
import AffinityPool.HostName.Mark

namespace AffinityPool.HostName

/-!
Only letters whose small forms may stand in host names are listed; any other
character stays as it is and is refused later.  The Greek sigma has two small
forms, of which one stands at the end of a word.
-/

/-- Runs of capital letters: the first and the last one, the step between two of them,
and the small letter of the first one. -/
def lowerRuns : List (Nat × Nat × Nat × Nat) :=
  [(192, 214, 1, 224), (216, 222, 1, 248), (256, 302, 2, 257), (308, 310, 2, 309),
   (313, 317, 2, 314), (321, 327, 2, 322), (330, 374, 2, 331), (376, 376, 1, 255),
   (377, 381, 2, 378), (385, 385, 1, 595), (386, 388, 2, 387), (390, 390, 1, 596),
   (391, 391, 1, 392), (393, 394, 1, 598), (395, 395, 1, 396), (398, 398, 1, 477),
   (399, 399, 1, 601), (400, 400, 1, 603), (401, 401, 1, 402), (403, 403, 1, 608),
   (404, 404, 1, 611), (406, 406, 1, 617), (407, 407, 1, 616), (408, 408, 1, 409),
   (412, 412, 1, 623), (413, 413, 1, 626), (415, 415, 1, 629), (416, 420, 2, 417),
   (422, 422, 1, 640), (423, 423, 1, 424), (425, 425, 1, 643), (428, 428, 1, 429),
   (430, 430, 1, 648), (431, 431, 1, 432), (433, 434, 1, 650), (435, 437, 2, 436),
   (439, 439, 1, 658), (440, 440, 1, 441), (444, 444, 1, 445), (461, 475, 2, 462),
   (478, 494, 2, 479), (500, 500, 1, 501), (502, 502, 1, 405), (503, 503, 1, 447),
   (504, 542, 2, 505), (544, 544, 1, 414), (546, 562, 2, 547), (570, 570, 1, 11365),
   (571, 571, 1, 572), (573, 573, 1, 410), (574, 574, 1, 11366), (577, 577, 1, 578),
   (579, 579, 1, 384), (580, 580, 1, 649), (581, 581, 1, 652), (582, 590, 2, 583),
   (880, 882, 2, 881), (886, 886, 1, 887), (895, 895, 1, 1011), (902, 902, 1, 940),
   (904, 906, 1, 941), (908, 908, 1, 972), (910, 911, 1, 973), (913, 929, 1, 945),
   (931, 939, 1, 963), (975, 975, 1, 983), (984, 1006, 2, 985), (1012, 1012, 1, 952),
   (1015, 1015, 1, 1016), (1018, 1018, 1, 1019), (1021, 1023, 1, 891), (1024, 1039, 1, 1104),
   (1040, 1071, 1, 1072), (1120, 1152, 2, 1121), (1162, 1214, 2, 1163), (1216, 1216, 1, 1231),
   (1217, 1229, 2, 1218), (1232, 1326, 2, 1233), (1329, 1366, 1, 1377), (4256, 4293, 1, 11520),
   (4295, 4295, 1, 11559), (4301, 4301, 1, 11565), (5024, 5103, 1, 43888), (5104, 5109, 1, 5112),
   (7312, 7354, 1, 4304), (7357, 7359, 1, 4349), (7680, 7828, 2, 7681), (7838, 7838, 1, 223),
   (7840, 7934, 2, 7841), (7944, 7951, 1, 7936), (7960, 7965, 1, 7952), (7976, 7983, 1, 7968),
   (7992, 7999, 1, 7984), (8008, 8013, 1, 8000), (8025, 8031, 2, 8017), (8040, 8047, 1, 8032),
   (8120, 8121, 1, 8112), (8122, 8122, 1, 8048), (8136, 8138, 2, 8050), (8152, 8153, 1, 8144),
   (8154, 8154, 1, 8054), (8168, 8169, 1, 8160), (8170, 8170, 1, 8058), (8172, 8172, 1, 8165),
   (8184, 8184, 1, 8056), (8186, 8186, 1, 8060), (8486, 8486, 1, 969), (8490, 8490, 1, 107),
   (8491, 8491, 1, 229), (8498, 8498, 1, 8526), (8579, 8579, 1, 8580), (11264, 11311, 1, 11312),
   (11360, 11360, 1, 11361), (11362, 11362, 1, 619), (11363, 11363, 1, 7549),
   (11364, 11364, 1, 637), (11367, 11371, 2, 11368), (11373, 11373, 1, 593),
   (11374, 11374, 1, 625), (11375, 11375, 1, 592), (11376, 11376, 1, 594),
   (11378, 11378, 1, 11379), (11381, 11381, 1, 11382), (11390, 11391, 1, 575),
   (11392, 11490, 2, 11393), (11499, 11501, 2, 11500), (11506, 11506, 1, 11507),
   (42560, 42604, 2, 42561), (42624, 42650, 2, 42625), (42786, 42798, 2, 42787),
   (42802, 42862, 2, 42803), (42873, 42875, 2, 42874), (42877, 42877, 1, 7545),
   (42878, 42886, 2, 42879), (42891, 42891, 1, 42892), (42893, 42893, 1, 613),
   (42896, 42898, 2, 42897), (42902, 42920, 2, 42903), (42922, 42922, 1, 614),
   (42923, 42923, 1, 604), (42924, 42924, 1, 609), (42925, 42925, 1, 620), (42926, 42926, 1, 618),
   (42928, 42928, 1, 670), (42929, 42929, 1, 647), (42930, 42930, 1, 669),
   (42931, 42931, 1, 43859), (42932, 42946, 2, 42933), (42948, 42948, 1, 42900),
   (42949, 42949, 1, 642), (42950, 42950, 1, 7566), (42951, 42953, 2, 42952),
   (42960, 42960, 1, 42961), (42966, 42968, 2, 42967), (42997, 42997, 1, 42998),
   (66560, 66599, 1, 66600), (66736, 66771, 1, 66776), (66928, 66938, 1, 66967),
   (66940, 66954, 1, 66979), (66956, 66962, 1, 66995), (66964, 66965, 1, 67003),
   (68736, 68786, 1, 68800), (71840, 71871, 1, 71872), (93760, 93791, 1, 93792),
   (125184, 125217, 1, 125218)]

/-- Runs of characters that have case. -/
def casedRuns : List (Nat × Nat) :=
  [(65, 90), (97, 122), (192, 214), (216, 246), (248, 305), (308, 318), (321, 328), (330, 382),
   (384, 442), (444, 447), (461, 496), (500, 659), (661, 687), (880, 883), (886, 887), (891, 893),
   (895, 895), (902, 902), (904, 906), (908, 908), (910, 929), (931, 975), (983, 1007),
   (1011, 1012), (1015, 1016), (1018, 1153), (1162, 1327), (1329, 1366), (1376, 1414),
   (1416, 1416), (4256, 4293), (4295, 4295), (4301, 4301), (4304, 4346), (4349, 4351),
   (5024, 5109), (7312, 7354), (7357, 7359), (7424, 7467), (7531, 7543), (7545, 7578),
   (7680, 7833), (7836, 7957), (7960, 7965), (7968, 8005), (8008, 8013), (8016, 8023),
   (8025, 8025), (8027, 8027), (8029, 8029), (8031, 8048), (8050, 8050), (8052, 8052),
   (8054, 8054), (8056, 8056), (8058, 8058), (8060, 8060), (8112, 8113), (8118, 8118),
   (8120, 8122), (8134, 8134), (8136, 8136), (8138, 8138), (8144, 8146), (8150, 8154),
   (8160, 8162), (8164, 8170), (8172, 8172), (8182, 8182), (8184, 8184), (8186, 8186),
   (8486, 8486), (8490, 8491), (8498, 8498), (8526, 8526), (8579, 8580), (11264, 11387),
   (11390, 11492), (11499, 11502), (11506, 11507), (11520, 11557), (11559, 11559), (11565, 11565),
   (42560, 42605), (42624, 42651), (42786, 42863), (42865, 42887), (42891, 42894), (42896, 42954),
   (42960, 42961), (42963, 42963), (42965, 42969), (42997, 42998), (43002, 43002), (43824, 43866),
   (43872, 43880), (66560, 66639), (66736, 66771), (66776, 66811), (66928, 66938), (66940, 66954),
   (66956, 66962), (66964, 66965), (66967, 66977), (66979, 66993), (66995, 67001), (67003, 67004),
   (68736, 68786), (68800, 68850), (71840, 71903), (93760, 93823), (122624, 122633),
   (122635, 122654), (125184, 125251)]

/-- Runs of characters, besides marks, that do not count when the end of a word is looked
for. -/
def caselessMarkRuns : List (Nat × Nat) :=
  [(46, 46), (183, 183), (697, 705), (710, 721), (748, 748), (750, 750), (885, 885), (1369, 1369),
   (1524, 1524), (1765, 1766), (2036, 2037), (2074, 2074), (2084, 2084), (2088, 2088),
   (2249, 2249), (2417, 2417), (3654, 3654), (3782, 3782), (6103, 6103), (6211, 6211),
   (6823, 6823), (7288, 7293), (7471, 7471), (7483, 7483), (7502, 7502), (8204, 8205),
   (11823, 11823), (12293, 12293), (12445, 12446), (12540, 12542), (40981, 40981), (42232, 42237),
   (42508, 42508), (42623, 42623), (42775, 42783), (42888, 42888), (43471, 43471), (43494, 43494),
   (43632, 43632), (43741, 43741), (43763, 43764), (65294, 65294), (67456, 67456), (92992, 92995),
   (94099, 94111), (94176, 94177), (94179, 94179), (110576, 110579), (110581, 110587),
   (110589, 110590), (123191, 123197), (125259, 125259)]

/-- Whether a character does not count when the end of a word is looked for. -/
def isIgnorable (c : Char) : Bool := isNonspacing c || Text.inRuns caselessMarkRuns c

/-- Whether the nearest character that counts has case. -/
def meetsCased (chars : List Char) : Bool :=
  match chars.dropWhile isIgnorable with
  | c :: _ => Text.inRuns casedRuns c
  | [] => false

/-- The small letter of a capital letter in a run. -/
def lowerIn? (c : Char) (run : Nat × Nat × Nat × Nat) : Option Char :=
  let (first, last, step, small) := run
  if first ≤ c.toNat && c.toNat ≤ last && (c.toNat - first) % step = 0 then
    some (Char.ofNat (small + (c.toNat - first)))
  else none

/-- A character in small letters, wherever it stands. -/
def loweredChar (c : Char) : List Char :=
  if c.toNat < 0x80 then [c.toLower]
  else if c = '\u0130' then ['i', '\u0307']
  else [(lowerRuns.findSome? (lowerIn? c)).getD c]

/-- A text in small letters, behind the characters before it, the last of them
first. -/
def loweredAfter (before : List Char) : List Char → List Char
  | [] => []
  | c :: rest =>
      let small :=
        if c = '\u03A3' then
          if meetsCased before && !meetsCased rest then ['\u03C2'] else ['\u03C3']
        else loweredChar c
      small ++ loweredAfter (c :: before) rest

/-- A text in small letters. -/
def lowered (chars : List Char) : List Char := loweredAfter [] chars

end AffinityPool.HostName
