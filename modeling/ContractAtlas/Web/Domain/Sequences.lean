/-!
# Characters that a domain writes as several others

Ligatures, letters in brackets, abbreviations, dates and the like, each with the characters it
stands for. The tables are those of Unicode 17: code points in ascending order, each before the
number of those that it stands for, which follow.
-/

namespace ContractAtlas.Web.Domain

/-- The sequences of letters and signs. -/
def letterSequences : List Nat :=
  [168, 2, 32, 776, 175, 2, 32, 772, 180, 2, 32, 769, 184, 2, 32, 807, 188, 3, 49, 8260, 52, 189,
   3, 49, 8260, 50, 190, 3, 51, 8260, 52, 304, 2, 105, 775, 306, 2, 105, 106, 307, 2, 105, 106,
   319, 2, 108, 183, 320, 2, 108, 183, 329, 2, 700, 110, 452, 2, 100, 382, 453, 2, 100, 382, 454,
   2, 100, 382, 455, 2, 108, 106, 456, 2, 108, 106, 457, 2, 108, 106, 458, 2, 110, 106, 459, 2,
   110, 106, 460, 2, 110, 106, 497, 2, 100, 122, 498, 2, 100, 122, 499, 2, 100, 122, 728, 2, 32,
   774, 729, 2, 32, 775, 730, 2, 32, 778, 731, 2, 32, 808, 732, 2, 32, 771, 733, 2, 32, 779, 836,
   2, 776, 769, 890, 2, 32, 953, 900, 2, 32, 769, 901, 3, 32, 776, 769, 1415, 2, 1381, 1410, 1653,
   2, 1575, 1652, 1654, 2, 1608, 1652, 1655, 2, 1735, 1652, 1656, 2, 1610, 1652, 2392, 2, 2325,
   2364, 2393, 2, 2326, 2364, 2394, 2, 2327, 2364, 2395, 2, 2332, 2364, 2396, 2, 2337, 2364, 2397,
   2, 2338, 2364, 2398, 2, 2347, 2364, 2399, 2, 2351, 2364, 2524, 2, 2465, 2492, 2525, 2, 2466,
   2492, 2527, 2, 2479, 2492, 2611, 2, 2610, 2620, 2614, 2, 2616, 2620, 2649, 2, 2582, 2620, 2650,
   2, 2583, 2620, 2651, 2, 2588, 2620, 2654, 2, 2603, 2620, 2908, 2, 2849, 2876, 2909, 2, 2850,
   2876, 3635, 2, 3661, 3634, 3763, 2, 3789, 3762, 3804, 2, 3755, 3737, 3805, 2, 3755, 3745, 3907,
   2, 3906, 4023, 3917, 2, 3916, 4023, 3922, 2, 3921, 4023, 3927, 2, 3926, 4023, 3932, 2, 3931,
   4023, 3945, 2, 3904, 4021, 3955, 2, 3953, 3954, 3957, 2, 3953, 3956, 3958, 2, 4018, 3968, 3959,
   3, 4018, 3953, 3968, 3960, 2, 4019, 3968, 3961, 3, 4019, 3953, 3968, 3969, 2, 3953, 3968, 3987,
   2, 3986, 4023, 3997, 2, 3996, 4023, 4002, 2, 4001, 4023, 4007, 2, 4006, 4023, 4012, 2, 4011,
   4023, 4025, 2, 3984, 4021, 7834, 2, 97, 702, 8064, 2, 7936, 953, 8065, 2, 7937, 953, 8066, 2,
   7938, 953, 8067, 2, 7939, 953, 8068, 2, 7940, 953, 8069, 2, 7941, 953, 8070, 2, 7942, 953, 8071,
   2, 7943, 953, 8072, 2, 7936, 953, 8073, 2, 7937, 953, 8074, 2, 7938, 953, 8075, 2, 7939, 953,
   8076, 2, 7940, 953, 8077, 2, 7941, 953, 8078, 2, 7942, 953, 8079, 2, 7943, 953, 8080, 2, 7968,
   953, 8081, 2, 7969, 953, 8082, 2, 7970, 953, 8083, 2, 7971, 953, 8084, 2, 7972, 953, 8085, 2,
   7973, 953, 8086, 2, 7974, 953, 8087, 2, 7975, 953, 8088, 2, 7968, 953, 8089, 2, 7969, 953, 8090,
   2, 7970, 953, 8091, 2, 7971, 953, 8092, 2, 7972, 953, 8093, 2, 7973, 953, 8094, 2, 7974, 953,
   8095, 2, 7975, 953, 8096, 2, 8032, 953, 8097, 2, 8033, 953, 8098, 2, 8034, 953, 8099, 2, 8035,
   953, 8100, 2, 8036, 953, 8101, 2, 8037, 953, 8102, 2, 8038, 953, 8103, 2, 8039, 953, 8104, 2,
   8032, 953, 8105, 2, 8033, 953, 8106, 2, 8034, 953, 8107, 2, 8035, 953, 8108, 2, 8036, 953, 8109,
   2, 8037, 953, 8110, 2, 8038, 953, 8111, 2, 8039, 953, 8114, 2, 8048, 953, 8115, 2, 945, 953,
   8116, 2, 940, 953, 8119, 2, 8118, 953, 8124, 2, 945, 953, 8125, 2, 32, 787, 8127, 2, 32, 787,
   8128, 2, 32, 834, 8129, 3, 32, 776, 834, 8130, 2, 8052, 953, 8131, 2, 951, 953, 8132, 2, 942,
   953, 8135, 2, 8134, 953, 8140, 2, 951, 953, 8141, 3, 32, 787, 768, 8142, 3, 32, 787, 769, 8143,
   3, 32, 787, 834, 8157, 3, 32, 788, 768, 8158, 3, 32, 788, 769, 8159, 3, 32, 788, 834, 8173, 3,
   32, 776, 768, 8174, 3, 32, 776, 769, 8178, 2, 8060, 953, 8179, 2, 969, 953, 8180, 2, 974, 953,
   8183, 2, 8182, 953, 8188, 2, 969, 953, 8189, 2, 32, 769, 8190, 2, 32, 788, 8215, 2, 32, 819,
   8243, 2, 8242, 8242, 8244, 3, 8242, 8242, 8242, 8246, 2, 8245, 8245, 8247, 3, 8245, 8245, 8245,
   8252, 2, 33, 33, 8254, 2, 32, 773, 8263, 2, 63, 63, 8264, 2, 63, 33, 8265, 2, 33, 63, 8279, 4,
   8242, 8242, 8242, 8242, 8360, 2, 114, 115, 8448, 3, 97, 47, 99, 8449, 3, 97, 47, 115, 8451, 2,
   176, 99, 8453, 3, 99, 47, 111, 8454, 3, 99, 47, 117, 8457, 2, 176, 102, 8470, 2, 110, 111, 8480,
   2, 115, 109, 8481, 3, 116, 101, 108, 8482, 2, 116, 109, 8507, 3, 102, 97, 120, 8528, 3, 49,
   8260, 55, 8529, 3, 49, 8260, 57, 8530, 4, 49, 8260, 49, 48, 8531, 3, 49, 8260, 51, 8532, 3, 50,
   8260, 51, 8533, 3, 49, 8260, 53, 8534, 3, 50, 8260, 53, 8535, 3, 51, 8260, 53, 8536, 3, 52,
   8260, 53, 8537, 3, 49, 8260, 54, 8538, 3, 53, 8260, 54, 8539, 3, 49, 8260, 56, 8540, 3, 51,
   8260, 56, 8541, 3, 53, 8260, 56, 8542, 3, 55, 8260, 56, 8543, 2, 49, 8260, 8545, 2, 105, 105,
   8546, 3, 105, 105, 105, 8547, 2, 105, 118, 8549, 2, 118, 105, 8550, 3, 118, 105, 105, 8551, 4,
   118, 105, 105, 105, 8552, 2, 105, 120, 8554, 2, 120, 105, 8555, 3, 120, 105, 105, 8561, 2, 105,
   105, 8562, 3, 105, 105, 105, 8563, 2, 105, 118, 8565, 2, 118, 105, 8566, 3, 118, 105, 105, 8567,
   4, 118, 105, 105, 105, 8568, 2, 105, 120, 8570, 2, 120, 105, 8571, 3, 120, 105, 105, 8585, 3,
   48, 8260, 51, 8748, 2, 8747, 8747, 8749, 3, 8747, 8747, 8747, 8751, 2, 8750, 8750, 8752, 3,
   8750, 8750, 8750, 9321, 2, 49, 48, 9322, 2, 49, 49, 9323, 2, 49, 50, 9324, 2, 49, 51, 9325, 2,
   49, 52, 9326, 2, 49, 53, 9327, 2, 49, 54, 9328, 2, 49, 55, 9329, 2, 49, 56, 9330, 2, 49, 57,
   9331, 2, 50, 48, 9332, 3, 40, 49, 41, 9333, 3, 40, 50, 41, 9334, 3, 40, 51, 41, 9335, 3, 40, 52,
   41, 9336, 3, 40, 53, 41, 9337, 3, 40, 54, 41, 9338, 3, 40, 55, 41, 9339, 3, 40, 56, 41, 9340, 3,
   40, 57, 41, 9341, 4, 40, 49, 48, 41, 9342, 4, 40, 49, 49, 41, 9343, 4, 40, 49, 50, 41, 9344, 4,
   40, 49, 51, 41, 9345, 4, 40, 49, 52, 41, 9346, 4, 40, 49, 53, 41, 9347, 4, 40, 49, 54, 41, 9348,
   4, 40, 49, 55, 41, 9349, 4, 40, 49, 56, 41, 9350, 4, 40, 49, 57, 41, 9351, 4, 40, 50, 48, 41,
   9372, 3, 40, 97, 41, 9373, 3, 40, 98, 41, 9374, 3, 40, 99, 41, 9375, 3, 40, 100, 41, 9376, 3,
   40, 101, 41, 9377, 3, 40, 102, 41, 9378, 3, 40, 103, 41, 9379, 3, 40, 104, 41, 9380, 3, 40, 105,
   41, 9381, 3, 40, 106, 41, 9382, 3, 40, 107, 41, 9383, 3, 40, 108, 41, 9384, 3, 40, 109, 41,
   9385, 3, 40, 110, 41, 9386, 3, 40, 111, 41, 9387, 3, 40, 112, 41, 9388, 3, 40, 113, 41, 9389, 3,
   40, 114, 41, 9390, 3, 40, 115, 41, 9391, 3, 40, 116, 41, 9392, 3, 40, 117, 41, 9393, 3, 40, 118,
   41, 9394, 3, 40, 119, 41, 9395, 3, 40, 120, 41, 9396, 3, 40, 121, 41, 9397, 3, 40, 122, 41,
   10764, 4, 8747, 8747, 8747, 8747, 10868, 3, 58, 58, 61, 10869, 2, 61, 61, 10870, 3, 61, 61, 61,
   10972, 2, 10973, 824, 12443, 2, 32, 12441, 12444, 2, 32, 12442, 12447, 2, 12424, 12426, 12543,
   2, 12467, 12488]

/-- The sequences of enclosed and squared words, dates and units. -/
def enclosedSequences : List Nat :=
  [12800, 3, 40, 4352, 41, 12801, 3, 40, 4354, 41, 12802, 3, 40, 4355, 41, 12803, 3, 40, 4357, 41,
   12804, 3, 40, 4358, 41, 12805, 3, 40, 4359, 41, 12806, 3, 40, 4361, 41, 12807, 3, 40, 4363, 41,
   12808, 3, 40, 4364, 41, 12809, 3, 40, 4366, 41, 12810, 3, 40, 4367, 41, 12811, 3, 40, 4368, 41,
   12812, 3, 40, 4369, 41, 12813, 3, 40, 4370, 41, 12814, 3, 40, 44032, 41, 12815, 3, 40, 45208,
   41, 12816, 3, 40, 45796, 41, 12817, 3, 40, 46972, 41, 12818, 3, 40, 47560, 41, 12819, 3, 40,
   48148, 41, 12820, 3, 40, 49324, 41, 12821, 3, 40, 50500, 41, 12822, 3, 40, 51088, 41, 12823, 3,
   40, 52264, 41, 12824, 3, 40, 52852, 41, 12825, 3, 40, 53440, 41, 12826, 3, 40, 54028, 41, 12827,
   3, 40, 54616, 41, 12828, 3, 40, 51452, 41, 12829, 4, 40, 50724, 51204, 41, 12830, 4, 40, 50724,
   54980, 41, 12832, 3, 40, 19968, 41, 12833, 3, 40, 20108, 41, 12834, 3, 40, 19977, 41, 12835, 3,
   40, 22235, 41, 12836, 3, 40, 20116, 41, 12837, 3, 40, 20845, 41, 12838, 3, 40, 19971, 41, 12839,
   3, 40, 20843, 41, 12840, 3, 40, 20061, 41, 12841, 3, 40, 21313, 41, 12842, 3, 40, 26376, 41,
   12843, 3, 40, 28779, 41, 12844, 3, 40, 27700, 41, 12845, 3, 40, 26408, 41, 12846, 3, 40, 37329,
   41, 12847, 3, 40, 22303, 41, 12848, 3, 40, 26085, 41, 12849, 3, 40, 26666, 41, 12850, 3, 40,
   26377, 41, 12851, 3, 40, 31038, 41, 12852, 3, 40, 21517, 41, 12853, 3, 40, 29305, 41, 12854, 3,
   40, 36001, 41, 12855, 3, 40, 31069, 41, 12856, 3, 40, 21172, 41, 12857, 3, 40, 20195, 41, 12858,
   3, 40, 21628, 41, 12859, 3, 40, 23398, 41, 12860, 3, 40, 30435, 41, 12861, 3, 40, 20225, 41,
   12862, 3, 40, 36039, 41, 12863, 3, 40, 21332, 41, 12864, 3, 40, 31085, 41, 12865, 3, 40, 20241,
   41, 12866, 3, 40, 33258, 41, 12867, 3, 40, 33267, 41, 12880, 3, 112, 116, 101, 12881, 2, 50, 49,
   12882, 2, 50, 50, 12883, 2, 50, 51, 12884, 2, 50, 52, 12885, 2, 50, 53, 12886, 2, 50, 54, 12887,
   2, 50, 55, 12888, 2, 50, 56, 12889, 2, 50, 57, 12890, 2, 51, 48, 12891, 2, 51, 49, 12892, 2, 51,
   50, 12893, 2, 51, 51, 12894, 2, 51, 52, 12895, 2, 51, 53, 12924, 2, 52280, 44256, 12925, 2,
   51452, 51032, 12977, 2, 51, 54, 12978, 2, 51, 55, 12979, 2, 51, 56, 12980, 2, 51, 57, 12981, 2,
   52, 48, 12982, 2, 52, 49, 12983, 2, 52, 50, 12984, 2, 52, 51, 12985, 2, 52, 52, 12986, 2, 52,
   53, 12987, 2, 52, 54, 12988, 2, 52, 55, 12989, 2, 52, 56, 12990, 2, 52, 57, 12991, 2, 53, 48,
   12992, 2, 49, 26376, 12993, 2, 50, 26376, 12994, 2, 51, 26376, 12995, 2, 52, 26376, 12996, 2,
   53, 26376, 12997, 2, 54, 26376, 12998, 2, 55, 26376, 12999, 2, 56, 26376, 13000, 2, 57, 26376,
   13001, 3, 49, 48, 26376, 13002, 3, 49, 49, 26376, 13003, 3, 49, 50, 26376, 13004, 2, 104, 103,
   13005, 3, 101, 114, 103, 13006, 2, 101, 118, 13007, 3, 108, 116, 100, 13055, 2, 20196, 21644,
   13056, 4, 12450, 12497, 12540, 12488, 13057, 4, 12450, 12523, 12501, 12449, 13058, 4, 12450,
   12531, 12506, 12450, 13059, 3, 12450, 12540, 12523, 13060, 4, 12452, 12491, 12531, 12464, 13061,
   3, 12452, 12531, 12481, 13062, 3, 12454, 12457, 12531, 13063, 5, 12456, 12473, 12463, 12540,
   12489, 13064, 4, 12456, 12540, 12459, 12540, 13065, 3, 12458, 12531, 12473, 13066, 3, 12458,
   12540, 12512, 13067, 3, 12459, 12452, 12522, 13068, 4, 12459, 12521, 12483, 12488, 13069, 4,
   12459, 12525, 12522, 12540, 13070, 3, 12460, 12525, 12531, 13071, 3, 12460, 12531, 12510, 13072,
   2, 12462, 12460, 13073, 3, 12462, 12491, 12540, 13074, 4, 12461, 12517, 12522, 12540, 13075, 4,
   12462, 12523, 12480, 12540, 13076, 2, 12461, 12525, 13077, 5, 12461, 12525, 12464, 12521, 12512,
   13078, 6, 12461, 12525, 12513, 12540, 12488, 12523, 13079, 5, 12461, 12525, 12527, 12483, 12488,
   13080, 3, 12464, 12521, 12512, 13081, 5, 12464, 12521, 12512, 12488, 12531, 13082, 5, 12463,
   12523, 12476, 12452, 12525, 13083, 4, 12463, 12525, 12540, 12493, 13084, 3, 12465, 12540, 12473,
   13085, 3, 12467, 12523, 12490, 13086, 3, 12467, 12540, 12509, 13087, 4, 12469, 12452, 12463,
   12523, 13088, 5, 12469, 12531, 12481, 12540, 12512, 13089, 4, 12471, 12522, 12531, 12464, 13090,
   3, 12475, 12531, 12481, 13091, 3, 12475, 12531, 12488, 13092, 3, 12480, 12540, 12473, 13093, 2,
   12487, 12471, 13094, 2, 12489, 12523, 13095, 2, 12488, 12531, 13096, 2, 12490, 12494, 13097, 3,
   12494, 12483, 12488, 13098, 3, 12495, 12452, 12484, 13099, 5, 12497, 12540, 12475, 12531, 12488,
   13100, 3, 12497, 12540, 12484, 13101, 4, 12496, 12540, 12524, 12523, 13102, 5, 12500, 12450,
   12473, 12488, 12523, 13103, 3, 12500, 12463, 12523, 13104, 2, 12500, 12467, 13105, 2, 12499,
   12523, 13106, 5, 12501, 12449, 12521, 12483, 12489, 13107, 4, 12501, 12451, 12540, 12488, 13108,
   5, 12502, 12483, 12471, 12455, 12523, 13109, 3, 12501, 12521, 12531, 13110, 5, 12504, 12463,
   12479, 12540, 12523, 13111, 2, 12506, 12477, 13112, 3, 12506, 12491, 12498, 13113, 3, 12504,
   12523, 12484, 13114, 3, 12506, 12531, 12473, 13115, 3, 12506, 12540, 12472, 13116, 3, 12505,
   12540, 12479, 13117, 4, 12509, 12452, 12531, 12488, 13118, 3, 12508, 12523, 12488, 13119, 2,
   12507, 12531, 13120, 3, 12509, 12531, 12489, 13121, 3, 12507, 12540, 12523, 13122, 3, 12507,
   12540, 12531, 13123, 4, 12510, 12452, 12463, 12525, 13124, 3, 12510, 12452, 12523, 13125, 3,
   12510, 12483, 12495, 13126, 3, 12510, 12523, 12463, 13127, 5, 12510, 12531, 12471, 12519, 12531,
   13128, 4, 12511, 12463, 12525, 12531, 13129, 2, 12511, 12522, 13130, 5, 12511, 12522, 12496,
   12540, 12523, 13131, 2, 12513, 12460, 13132, 4, 12513, 12460, 12488, 12531, 13133, 4, 12513,
   12540, 12488, 12523, 13134, 3, 12516, 12540, 12489, 13135, 3, 12516, 12540, 12523, 13136, 3,
   12518, 12450, 12531, 13137, 4, 12522, 12483, 12488, 12523, 13138, 2, 12522, 12521, 13139, 3,
   12523, 12500, 12540, 13140, 4, 12523, 12540, 12502, 12523, 13141, 2, 12524, 12512, 13142, 5,
   12524, 12531, 12488, 12466, 12531, 13143, 3, 12527, 12483, 12488, 13144, 2, 48, 28857, 13145, 2,
   49, 28857, 13146, 2, 50, 28857, 13147, 2, 51, 28857, 13148, 2, 52, 28857, 13149, 2, 53, 28857,
   13150, 2, 54, 28857, 13151, 2, 55, 28857, 13152, 2, 56, 28857, 13153, 2, 57, 28857, 13154, 3,
   49, 48, 28857, 13155, 3, 49, 49, 28857, 13156, 3, 49, 50, 28857, 13157, 3, 49, 51, 28857, 13158,
   3, 49, 52, 28857, 13159, 3, 49, 53, 28857, 13160, 3, 49, 54, 28857, 13161, 3, 49, 55, 28857,
   13162, 3, 49, 56, 28857, 13163, 3, 49, 57, 28857, 13164, 3, 50, 48, 28857, 13165, 3, 50, 49,
   28857, 13166, 3, 50, 50, 28857, 13167, 3, 50, 51, 28857, 13168, 3, 50, 52, 28857, 13169, 3, 104,
   112, 97, 13170, 2, 100, 97, 13171, 2, 97, 117, 13172, 3, 98, 97, 114, 13173, 2, 111, 118, 13174,
   2, 112, 99, 13175, 2, 100, 109, 13176, 3, 100, 109, 50, 13177, 3, 100, 109, 51, 13178, 2, 105,
   117, 13179, 2, 24179, 25104, 13180, 2, 26157, 21644, 13181, 2, 22823, 27491, 13182, 2, 26126,
   27835, 13183, 4, 26666, 24335, 20250, 31038, 13184, 2, 112, 97, 13185, 2, 110, 97, 13186, 2,
   956, 97, 13187, 2, 109, 97, 13188, 2, 107, 97, 13189, 2, 107, 98, 13190, 2, 109, 98, 13191, 2,
   103, 98, 13192, 3, 99, 97, 108, 13193, 4, 107, 99, 97, 108, 13194, 2, 112, 102, 13195, 2, 110,
   102, 13196, 2, 956, 102, 13197, 2, 956, 103, 13198, 2, 109, 103, 13199, 2, 107, 103, 13200, 2,
   104, 122, 13201, 3, 107, 104, 122, 13202, 3, 109, 104, 122, 13203, 3, 103, 104, 122, 13204, 3,
   116, 104, 122, 13205, 2, 956, 108, 13206, 2, 109, 108, 13207, 2, 100, 108, 13208, 2, 107, 108,
   13209, 2, 102, 109, 13210, 2, 110, 109, 13211, 2, 956, 109, 13212, 2, 109, 109, 13213, 2, 99,
   109, 13214, 2, 107, 109, 13215, 3, 109, 109, 50, 13216, 3, 99, 109, 50, 13217, 2, 109, 50,
   13218, 3, 107, 109, 50, 13219, 3, 109, 109, 51, 13220, 3, 99, 109, 51, 13221, 2, 109, 51, 13222,
   3, 107, 109, 51, 13223, 3, 109, 8725, 115, 13224, 4, 109, 8725, 115, 50, 13225, 2, 112, 97,
   13226, 3, 107, 112, 97, 13227, 3, 109, 112, 97, 13228, 3, 103, 112, 97, 13229, 3, 114, 97, 100,
   13230, 5, 114, 97, 100, 8725, 115, 13231, 6, 114, 97, 100, 8725, 115, 50, 13232, 2, 112, 115,
   13233, 2, 110, 115, 13234, 2, 956, 115, 13235, 2, 109, 115, 13236, 2, 112, 118, 13237, 2, 110,
   118, 13238, 2, 956, 118, 13239, 2, 109, 118, 13240, 2, 107, 118, 13241, 2, 109, 118, 13242, 2,
   112, 119, 13243, 2, 110, 119, 13244, 2, 956, 119, 13245, 2, 109, 119, 13246, 2, 107, 119, 13247,
   2, 109, 119, 13248, 2, 107, 969, 13249, 2, 109, 969, 13251, 2, 98, 113, 13252, 2, 99, 99, 13253,
   2, 99, 100, 13254, 4, 99, 8725, 107, 103, 13256, 2, 100, 98, 13257, 2, 103, 121, 13258, 2, 104,
   97, 13259, 2, 104, 112, 13260, 2, 105, 110, 13261, 2, 107, 107, 13262, 2, 107, 109, 13263, 2,
   107, 116, 13264, 2, 108, 109, 13265, 2, 108, 110, 13266, 3, 108, 111, 103, 13267, 2, 108, 120,
   13268, 2, 109, 98, 13269, 3, 109, 105, 108, 13270, 3, 109, 111, 108, 13271, 2, 112, 104, 13273,
   3, 112, 112, 109, 13274, 2, 112, 114, 13275, 2, 115, 114, 13276, 2, 115, 118, 13277, 2, 119, 98,
   13278, 3, 118, 8725, 109, 13279, 3, 97, 8725, 109, 13280, 2, 49, 26085, 13281, 2, 50, 26085,
   13282, 2, 51, 26085, 13283, 2, 52, 26085, 13284, 2, 53, 26085, 13285, 2, 54, 26085, 13286, 2,
   55, 26085, 13287, 2, 56, 26085, 13288, 2, 57, 26085, 13289, 3, 49, 48, 26085, 13290, 3, 49, 49,
   26085, 13291, 3, 49, 50, 26085, 13292, 3, 49, 51, 26085, 13293, 3, 49, 52, 26085, 13294, 3, 49,
   53, 26085, 13295, 3, 49, 54, 26085, 13296, 3, 49, 55, 26085, 13297, 3, 49, 56, 26085, 13298, 3,
   49, 57, 26085, 13299, 3, 50, 48, 26085, 13300, 3, 50, 49, 26085, 13301, 3, 50, 50, 26085, 13302,
   3, 50, 51, 26085, 13303, 3, 50, 52, 26085, 13304, 3, 50, 53, 26085, 13305, 3, 50, 54, 26085,
   13306, 3, 50, 55, 26085, 13307, 3, 50, 56, 26085, 13308, 3, 50, 57, 26085, 13309, 3, 51, 48,
   26085, 13310, 3, 51, 49, 26085, 13311, 3, 103, 97, 108]

/-- The sequences of ligatures. -/
def ligatureSequences : List Nat :=
  [64256, 2, 102, 102, 64257, 2, 102, 105, 64258, 2, 102, 108, 64259, 3, 102, 102, 105, 64260, 3,
   102, 102, 108, 64261, 2, 115, 116, 64262, 2, 115, 116, 64275, 2, 1396, 1398, 64276, 2, 1396,
   1381, 64277, 2, 1396, 1387, 64278, 2, 1406, 1398, 64279, 2, 1396, 1389, 64285, 2, 1497, 1460,
   64287, 2, 1522, 1463, 64298, 2, 1513, 1473, 64299, 2, 1513, 1474, 64300, 3, 1513, 1468, 1473,
   64301, 3, 1513, 1468, 1474, 64302, 2, 1488, 1463, 64303, 2, 1488, 1464, 64304, 2, 1488, 1468,
   64305, 2, 1489, 1468, 64306, 2, 1490, 1468, 64307, 2, 1491, 1468, 64308, 2, 1492, 1468, 64309,
   2, 1493, 1468, 64310, 2, 1494, 1468, 64312, 2, 1496, 1468, 64313, 2, 1497, 1468, 64314, 2, 1498,
   1468, 64315, 2, 1499, 1468, 64316, 2, 1500, 1468, 64318, 2, 1502, 1468, 64320, 2, 1504, 1468,
   64321, 2, 1505, 1468, 64323, 2, 1507, 1468, 64324, 2, 1508, 1468, 64326, 2, 1510, 1468, 64327,
   2, 1511, 1468, 64328, 2, 1512, 1468, 64329, 2, 1513, 1468, 64330, 2, 1514, 1468, 64331, 2, 1493,
   1465, 64332, 2, 1489, 1471, 64333, 2, 1499, 1471, 64334, 2, 1508, 1471, 64335, 2, 1488, 1500,
   64477, 2, 1735, 1652, 64490, 2, 1574, 1575, 64491, 2, 1574, 1575, 64492, 2, 1574, 1749, 64493,
   2, 1574, 1749, 64494, 2, 1574, 1608, 64495, 2, 1574, 1608, 64496, 2, 1574, 1735, 64497, 2, 1574,
   1735, 64498, 2, 1574, 1734, 64499, 2, 1574, 1734, 64500, 2, 1574, 1736, 64501, 2, 1574, 1736,
   64502, 2, 1574, 1744, 64503, 2, 1574, 1744, 64504, 2, 1574, 1744, 64505, 2, 1574, 1609, 64506,
   2, 1574, 1609, 64507, 2, 1574, 1609, 64512, 2, 1574, 1580, 64513, 2, 1574, 1581, 64514, 2, 1574,
   1605, 64515, 2, 1574, 1609, 64516, 2, 1574, 1610, 64517, 2, 1576, 1580, 64518, 2, 1576, 1581,
   64519, 2, 1576, 1582, 64520, 2, 1576, 1605, 64521, 2, 1576, 1609, 64522, 2, 1576, 1610, 64523,
   2, 1578, 1580, 64524, 2, 1578, 1581, 64525, 2, 1578, 1582, 64526, 2, 1578, 1605, 64527, 2, 1578,
   1609, 64528, 2, 1578, 1610, 64529, 2, 1579, 1580, 64530, 2, 1579, 1605, 64531, 2, 1579, 1609,
   64532, 2, 1579, 1610, 64533, 2, 1580, 1581, 64534, 2, 1580, 1605, 64535, 2, 1581, 1580, 64536,
   2, 1581, 1605, 64537, 2, 1582, 1580, 64538, 2, 1582, 1581, 64539, 2, 1582, 1605, 64540, 2, 1587,
   1580, 64541, 2, 1587, 1581, 64542, 2, 1587, 1582, 64543, 2, 1587, 1605, 64544, 2, 1589, 1581,
   64545, 2, 1589, 1605, 64546, 2, 1590, 1580, 64547, 2, 1590, 1581, 64548, 2, 1590, 1582, 64549,
   2, 1590, 1605, 64550, 2, 1591, 1581, 64551, 2, 1591, 1605, 64552, 2, 1592, 1605, 64553, 2, 1593,
   1580, 64554, 2, 1593, 1605, 64555, 2, 1594, 1580, 64556, 2, 1594, 1605, 64557, 2, 1601, 1580,
   64558, 2, 1601, 1581, 64559, 2, 1601, 1582, 64560, 2, 1601, 1605, 64561, 2, 1601, 1609, 64562,
   2, 1601, 1610, 64563, 2, 1602, 1581, 64564, 2, 1602, 1605, 64565, 2, 1602, 1609, 64566, 2, 1602,
   1610, 64567, 2, 1603, 1575, 64568, 2, 1603, 1580, 64569, 2, 1603, 1581, 64570, 2, 1603, 1582,
   64571, 2, 1603, 1604, 64572, 2, 1603, 1605, 64573, 2, 1603, 1609, 64574, 2, 1603, 1610, 64575,
   2, 1604, 1580, 64576, 2, 1604, 1581, 64577, 2, 1604, 1582, 64578, 2, 1604, 1605, 64579, 2, 1604,
   1609, 64580, 2, 1604, 1610, 64581, 2, 1605, 1580, 64582, 2, 1605, 1581, 64583, 2, 1605, 1582,
   64584, 2, 1605, 1605, 64585, 2, 1605, 1609, 64586, 2, 1605, 1610, 64587, 2, 1606, 1580, 64588,
   2, 1606, 1581, 64589, 2, 1606, 1582, 64590, 2, 1606, 1605, 64591, 2, 1606, 1609, 64592, 2, 1606,
   1610, 64593, 2, 1607, 1580, 64594, 2, 1607, 1605, 64595, 2, 1607, 1609, 64596, 2, 1607, 1610,
   64597, 2, 1610, 1580, 64598, 2, 1610, 1581, 64599, 2, 1610, 1582, 64600, 2, 1610, 1605, 64601,
   2, 1610, 1609, 64602, 2, 1610, 1610, 64603, 2, 1584, 1648, 64604, 2, 1585, 1648, 64605, 2, 1609,
   1648, 64606, 3, 32, 1612, 1617, 64607, 3, 32, 1613, 1617, 64608, 3, 32, 1614, 1617, 64609, 3,
   32, 1615, 1617, 64610, 3, 32, 1616, 1617, 64611, 3, 32, 1617, 1648, 64612, 2, 1574, 1585, 64613,
   2, 1574, 1586, 64614, 2, 1574, 1605, 64615, 2, 1574, 1606, 64616, 2, 1574, 1609, 64617, 2, 1574,
   1610, 64618, 2, 1576, 1585, 64619, 2, 1576, 1586, 64620, 2, 1576, 1605, 64621, 2, 1576, 1606,
   64622, 2, 1576, 1609, 64623, 2, 1576, 1610, 64624, 2, 1578, 1585, 64625, 2, 1578, 1586, 64626,
   2, 1578, 1605, 64627, 2, 1578, 1606, 64628, 2, 1578, 1609, 64629, 2, 1578, 1610, 64630, 2, 1579,
   1585, 64631, 2, 1579, 1586, 64632, 2, 1579, 1605, 64633, 2, 1579, 1606, 64634, 2, 1579, 1609,
   64635, 2, 1579, 1610, 64636, 2, 1601, 1609, 64637, 2, 1601, 1610, 64638, 2, 1602, 1609, 64639,
   2, 1602, 1610, 64640, 2, 1603, 1575, 64641, 2, 1603, 1604, 64642, 2, 1603, 1605, 64643, 2, 1603,
   1609, 64644, 2, 1603, 1610, 64645, 2, 1604, 1605, 64646, 2, 1604, 1609, 64647, 2, 1604, 1610,
   64648, 2, 1605, 1575, 64649, 2, 1605, 1605, 64650, 2, 1606, 1585, 64651, 2, 1606, 1586, 64652,
   2, 1606, 1605, 64653, 2, 1606, 1606, 64654, 2, 1606, 1609, 64655, 2, 1606, 1610, 64656, 2, 1609,
   1648, 64657, 2, 1610, 1585, 64658, 2, 1610, 1586, 64659, 2, 1610, 1605, 64660, 2, 1610, 1606,
   64661, 2, 1610, 1609, 64662, 2, 1610, 1610, 64663, 2, 1574, 1580, 64664, 2, 1574, 1581, 64665,
   2, 1574, 1582, 64666, 2, 1574, 1605, 64667, 2, 1574, 1607, 64668, 2, 1576, 1580, 64669, 2, 1576,
   1581, 64670, 2, 1576, 1582, 64671, 2, 1576, 1605, 64672, 2, 1576, 1607, 64673, 2, 1578, 1580,
   64674, 2, 1578, 1581, 64675, 2, 1578, 1582, 64676, 2, 1578, 1605, 64677, 2, 1578, 1607, 64678,
   2, 1579, 1605, 64679, 2, 1580, 1581, 64680, 2, 1580, 1605, 64681, 2, 1581, 1580, 64682, 2, 1581,
   1605, 64683, 2, 1582, 1580, 64684, 2, 1582, 1605, 64685, 2, 1587, 1580, 64686, 2, 1587, 1581,
   64687, 2, 1587, 1582, 64688, 2, 1587, 1605, 64689, 2, 1589, 1581, 64690, 2, 1589, 1582, 64691,
   2, 1589, 1605, 64692, 2, 1590, 1580, 64693, 2, 1590, 1581, 64694, 2, 1590, 1582, 64695, 2, 1590,
   1605, 64696, 2, 1591, 1581, 64697, 2, 1592, 1605, 64698, 2, 1593, 1580, 64699, 2, 1593, 1605,
   64700, 2, 1594, 1580, 64701, 2, 1594, 1605, 64702, 2, 1601, 1580, 64703, 2, 1601, 1581, 64704,
   2, 1601, 1582, 64705, 2, 1601, 1605, 64706, 2, 1602, 1581, 64707, 2, 1602, 1605, 64708, 2, 1603,
   1580, 64709, 2, 1603, 1581, 64710, 2, 1603, 1582, 64711, 2, 1603, 1604, 64712, 2, 1603, 1605,
   64713, 2, 1604, 1580, 64714, 2, 1604, 1581, 64715, 2, 1604, 1582, 64716, 2, 1604, 1605, 64717,
   2, 1604, 1607, 64718, 2, 1605, 1580, 64719, 2, 1605, 1581, 64720, 2, 1605, 1582, 64721, 2, 1605,
   1605, 64722, 2, 1606, 1580, 64723, 2, 1606, 1581, 64724, 2, 1606, 1582, 64725, 2, 1606, 1605,
   64726, 2, 1606, 1607, 64727, 2, 1607, 1580, 64728, 2, 1607, 1605, 64729, 2, 1607, 1648, 64730,
   2, 1610, 1580, 64731, 2, 1610, 1581, 64732, 2, 1610, 1582, 64733, 2, 1610, 1605, 64734, 2, 1610,
   1607, 64735, 2, 1574, 1605, 64736, 2, 1574, 1607, 64737, 2, 1576, 1605, 64738, 2, 1576, 1607,
   64739, 2, 1578, 1605, 64740, 2, 1578, 1607, 64741, 2, 1579, 1605, 64742, 2, 1579, 1607, 64743,
   2, 1587, 1605, 64744, 2, 1587, 1607, 64745, 2, 1588, 1605, 64746, 2, 1588, 1607, 64747, 2, 1603,
   1604, 64748, 2, 1603, 1605, 64749, 2, 1604, 1605, 64750, 2, 1606, 1605, 64751, 2, 1606, 1607,
   64752, 2, 1610, 1605, 64753, 2, 1610, 1607, 64754, 3, 1600, 1614, 1617, 64755, 3, 1600, 1615,
   1617, 64756, 3, 1600, 1616, 1617, 64757, 2, 1591, 1609, 64758, 2, 1591, 1610, 64759, 2, 1593,
   1609, 64760, 2, 1593, 1610, 64761, 2, 1594, 1609, 64762, 2, 1594, 1610, 64763, 2, 1587, 1609,
   64764, 2, 1587, 1610, 64765, 2, 1588, 1609, 64766, 2, 1588, 1610, 64767, 2, 1581, 1609]

/-- The sequences of the other presentation forms. -/
def presentationSequences : List Nat :=
  [64768, 2, 1581, 1610, 64769, 2, 1580, 1609, 64770, 2, 1580, 1610, 64771, 2, 1582, 1609, 64772,
   2, 1582, 1610, 64773, 2, 1589, 1609, 64774, 2, 1589, 1610, 64775, 2, 1590, 1609, 64776, 2, 1590,
   1610, 64777, 2, 1588, 1580, 64778, 2, 1588, 1581, 64779, 2, 1588, 1582, 64780, 2, 1588, 1605,
   64781, 2, 1588, 1585, 64782, 2, 1587, 1585, 64783, 2, 1589, 1585, 64784, 2, 1590, 1585, 64785,
   2, 1591, 1609, 64786, 2, 1591, 1610, 64787, 2, 1593, 1609, 64788, 2, 1593, 1610, 64789, 2, 1594,
   1609, 64790, 2, 1594, 1610, 64791, 2, 1587, 1609, 64792, 2, 1587, 1610, 64793, 2, 1588, 1609,
   64794, 2, 1588, 1610, 64795, 2, 1581, 1609, 64796, 2, 1581, 1610, 64797, 2, 1580, 1609, 64798,
   2, 1580, 1610, 64799, 2, 1582, 1609, 64800, 2, 1582, 1610, 64801, 2, 1589, 1609, 64802, 2, 1589,
   1610, 64803, 2, 1590, 1609, 64804, 2, 1590, 1610, 64805, 2, 1588, 1580, 64806, 2, 1588, 1581,
   64807, 2, 1588, 1582, 64808, 2, 1588, 1605, 64809, 2, 1588, 1585, 64810, 2, 1587, 1585, 64811,
   2, 1589, 1585, 64812, 2, 1590, 1585, 64813, 2, 1588, 1580, 64814, 2, 1588, 1581, 64815, 2, 1588,
   1582, 64816, 2, 1588, 1605, 64817, 2, 1587, 1607, 64818, 2, 1588, 1607, 64819, 2, 1591, 1605,
   64820, 2, 1587, 1580, 64821, 2, 1587, 1581, 64822, 2, 1587, 1582, 64823, 2, 1588, 1580, 64824,
   2, 1588, 1581, 64825, 2, 1588, 1582, 64826, 2, 1591, 1605, 64827, 2, 1592, 1605, 64828, 2, 1575,
   1611, 64829, 2, 1575, 1611, 64848, 3, 1578, 1580, 1605, 64849, 3, 1578, 1581, 1580, 64850, 3,
   1578, 1581, 1580, 64851, 3, 1578, 1581, 1605, 64852, 3, 1578, 1582, 1605, 64853, 3, 1578, 1605,
   1580, 64854, 3, 1578, 1605, 1581, 64855, 3, 1578, 1605, 1582, 64856, 3, 1580, 1605, 1581, 64857,
   3, 1580, 1605, 1581, 64858, 3, 1581, 1605, 1610, 64859, 3, 1581, 1605, 1609, 64860, 3, 1587,
   1581, 1580, 64861, 3, 1587, 1580, 1581, 64862, 3, 1587, 1580, 1609, 64863, 3, 1587, 1605, 1581,
   64864, 3, 1587, 1605, 1581, 64865, 3, 1587, 1605, 1580, 64866, 3, 1587, 1605, 1605, 64867, 3,
   1587, 1605, 1605, 64868, 3, 1589, 1581, 1581, 64869, 3, 1589, 1581, 1581, 64870, 3, 1589, 1605,
   1605, 64871, 3, 1588, 1581, 1605, 64872, 3, 1588, 1581, 1605, 64873, 3, 1588, 1580, 1610, 64874,
   3, 1588, 1605, 1582, 64875, 3, 1588, 1605, 1582, 64876, 3, 1588, 1605, 1605, 64877, 3, 1588,
   1605, 1605, 64878, 3, 1590, 1581, 1609, 64879, 3, 1590, 1582, 1605, 64880, 3, 1590, 1582, 1605,
   64881, 3, 1591, 1605, 1581, 64882, 3, 1591, 1605, 1581, 64883, 3, 1591, 1605, 1605, 64884, 3,
   1591, 1605, 1610, 64885, 3, 1593, 1580, 1605, 64886, 3, 1593, 1605, 1605, 64887, 3, 1593, 1605,
   1605, 64888, 3, 1593, 1605, 1609, 64889, 3, 1594, 1605, 1605, 64890, 3, 1594, 1605, 1610, 64891,
   3, 1594, 1605, 1609, 64892, 3, 1601, 1582, 1605, 64893, 3, 1601, 1582, 1605, 64894, 3, 1602,
   1605, 1581, 64895, 3, 1602, 1605, 1605, 64896, 3, 1604, 1581, 1605, 64897, 3, 1604, 1581, 1610,
   64898, 3, 1604, 1581, 1609, 64899, 3, 1604, 1580, 1580, 64900, 3, 1604, 1580, 1580, 64901, 3,
   1604, 1582, 1605, 64902, 3, 1604, 1582, 1605, 64903, 3, 1604, 1605, 1581, 64904, 3, 1604, 1605,
   1581, 64905, 3, 1605, 1581, 1580, 64906, 3, 1605, 1581, 1605, 64907, 3, 1605, 1581, 1610, 64908,
   3, 1605, 1580, 1581, 64909, 3, 1605, 1580, 1605, 64910, 3, 1605, 1582, 1580, 64911, 3, 1605,
   1582, 1605, 64914, 3, 1605, 1580, 1582, 64915, 3, 1607, 1605, 1580, 64916, 3, 1607, 1605, 1605,
   64917, 3, 1606, 1581, 1605, 64918, 3, 1606, 1581, 1609, 64919, 3, 1606, 1580, 1605, 64920, 3,
   1606, 1580, 1605, 64921, 3, 1606, 1580, 1609, 64922, 3, 1606, 1605, 1610, 64923, 3, 1606, 1605,
   1609, 64924, 3, 1610, 1605, 1605, 64925, 3, 1610, 1605, 1605, 64926, 3, 1576, 1582, 1610, 64927,
   3, 1578, 1580, 1610, 64928, 3, 1578, 1580, 1609, 64929, 3, 1578, 1582, 1610, 64930, 3, 1578,
   1582, 1609, 64931, 3, 1578, 1605, 1610, 64932, 3, 1578, 1605, 1609, 64933, 3, 1580, 1605, 1610,
   64934, 3, 1580, 1581, 1609, 64935, 3, 1580, 1605, 1609, 64936, 3, 1587, 1582, 1609, 64937, 3,
   1589, 1581, 1610, 64938, 3, 1588, 1581, 1610, 64939, 3, 1590, 1581, 1610, 64940, 3, 1604, 1580,
   1610, 64941, 3, 1604, 1605, 1610, 64942, 3, 1610, 1581, 1610, 64943, 3, 1610, 1580, 1610, 64944,
   3, 1610, 1605, 1610, 64945, 3, 1605, 1605, 1610, 64946, 3, 1602, 1605, 1610, 64947, 3, 1606,
   1581, 1610, 64948, 3, 1602, 1605, 1581, 64949, 3, 1604, 1581, 1605, 64950, 3, 1593, 1605, 1610,
   64951, 3, 1603, 1605, 1610, 64952, 3, 1606, 1580, 1581, 64953, 3, 1605, 1582, 1610, 64954, 3,
   1604, 1580, 1605, 64955, 3, 1603, 1605, 1605, 64956, 3, 1604, 1580, 1605, 64957, 3, 1606, 1580,
   1581, 64958, 3, 1580, 1581, 1610, 64959, 3, 1581, 1580, 1610, 64960, 3, 1605, 1580, 1610, 64961,
   3, 1601, 1605, 1610, 64962, 3, 1576, 1581, 1610, 64963, 3, 1603, 1605, 1605, 64964, 3, 1593,
   1580, 1605, 64965, 3, 1589, 1605, 1605, 64966, 3, 1587, 1582, 1610, 64967, 3, 1606, 1580, 1610,
   65008, 3, 1589, 1604, 1746, 65009, 3, 1602, 1604, 1746, 65010, 4, 1575, 1604, 1604, 1607, 65011,
   4, 1575, 1603, 1576, 1585, 65012, 4, 1605, 1581, 1605, 1583, 65013, 4, 1589, 1604, 1593, 1605,
   65014, 4, 1585, 1587, 1608, 1604, 65015, 4, 1593, 1604, 1610, 1607, 65016, 4, 1608, 1587, 1604,
   1605, 65017, 3, 1589, 1604, 1609, 65018, 18, 1589, 1604, 1609, 32, 1575, 1604, 1604, 1607, 32,
   1593, 1604, 1610, 1607, 32, 1608, 1587, 1604, 1605, 65019, 8, 1580, 1604, 32, 1580, 1604, 1575,
   1604, 1607, 65020, 4, 1585, 1740, 1575, 1604, 65097, 2, 32, 773, 65098, 2, 32, 773, 65099, 2,
   32, 773, 65100, 2, 32, 773, 65136, 2, 32, 1611, 65137, 2, 1600, 1611, 65138, 2, 32, 1612, 65140,
   2, 32, 1613, 65142, 2, 32, 1614, 65143, 2, 1600, 1614, 65144, 2, 32, 1615, 65145, 2, 1600, 1615,
   65146, 2, 32, 1616, 65147, 2, 1600, 1616, 65148, 2, 32, 1617, 65149, 2, 1600, 1617, 65150, 2,
   32, 1618, 65151, 2, 1600, 1618, 65269, 2, 1604, 1570, 65270, 2, 1604, 1570, 65271, 2, 1604,
   1571, 65272, 2, 1604, 1571, 65273, 2, 1604, 1573, 65274, 2, 1604, 1573, 65275, 2, 1604, 1575,
   65276, 2, 1604, 1575, 65507, 2, 32, 772]

/-- The sequences of the signs of the supplementary planes. -/
def symbolSequences : List Nat :=
  [119134, 2, 119127, 119141, 119135, 2, 119128, 119141, 119136, 3, 119128, 119141, 119150, 119137,
   3, 119128, 119141, 119151, 119138, 3, 119128, 119141, 119152, 119139, 3, 119128, 119141, 119153,
   119140, 3, 119128, 119141, 119154, 119227, 2, 119225, 119141, 119228, 2, 119226, 119141, 119229,
   3, 119225, 119141, 119150, 119230, 3, 119226, 119141, 119150, 119231, 3, 119225, 119141, 119151,
   119232, 3, 119226, 119141, 119151, 127233, 2, 48, 44, 127234, 2, 49, 44, 127235, 2, 50, 44,
   127236, 2, 51, 44, 127237, 2, 52, 44, 127238, 2, 53, 44, 127239, 2, 54, 44, 127240, 2, 55, 44,
   127241, 2, 56, 44, 127242, 2, 57, 44, 127248, 3, 40, 97, 41, 127249, 3, 40, 98, 41, 127250, 3,
   40, 99, 41, 127251, 3, 40, 100, 41, 127252, 3, 40, 101, 41, 127253, 3, 40, 102, 41, 127254, 3,
   40, 103, 41, 127255, 3, 40, 104, 41, 127256, 3, 40, 105, 41, 127257, 3, 40, 106, 41, 127258, 3,
   40, 107, 41, 127259, 3, 40, 108, 41, 127260, 3, 40, 109, 41, 127261, 3, 40, 110, 41, 127262, 3,
   40, 111, 41, 127263, 3, 40, 112, 41, 127264, 3, 40, 113, 41, 127265, 3, 40, 114, 41, 127266, 3,
   40, 115, 41, 127267, 3, 40, 116, 41, 127268, 3, 40, 117, 41, 127269, 3, 40, 118, 41, 127270, 3,
   40, 119, 41, 127271, 3, 40, 120, 41, 127272, 3, 40, 121, 41, 127273, 3, 40, 122, 41, 127274, 3,
   12308, 115, 12309, 127277, 2, 99, 100, 127278, 2, 119, 122, 127306, 2, 104, 118, 127307, 2, 109,
   118, 127308, 2, 115, 100, 127309, 2, 115, 115, 127310, 3, 112, 112, 118, 127311, 2, 119, 99,
   127338, 2, 109, 99, 127339, 2, 109, 100, 127340, 2, 109, 114, 127376, 2, 100, 106, 127488, 2,
   12411, 12363, 127489, 2, 12467, 12467, 127552, 3, 12308, 26412, 12309, 127553, 3, 12308, 19977,
   12309, 127554, 3, 12308, 20108, 12309, 127555, 3, 12308, 23433, 12309, 127556, 3, 12308, 28857,
   12309, 127557, 3, 12308, 25171, 12309, 127558, 3, 12308, 30423, 12309, 127559, 3, 12308, 21213,
   12309, 127560, 3, 12308, 25943, 12309]

/-- The entries that a list gives: a code point, a count, and that many code points. -/
def entriesOf : List Nat -> List (Nat × List Nat)
  | code :: count :: later => (code, later.take count) :: entriesOf (later.drop count)
  | _ => []
termination_by numbers => numbers.length
decreasing_by simp; omega

/-- What the characters that stand for several others stand for, by code points in ascending
order. -/
def sequences : List (Nat × List Nat) :=
  [letterSequences, enclosedSequences, ligatureSequences, presentationSequences,
    symbolSequences].flatMap entriesOf

end ContractAtlas.Web.Domain
