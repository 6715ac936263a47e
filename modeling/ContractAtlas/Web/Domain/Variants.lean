/-!
# Characters that a domain writes as another one

Capital letters, compatibility forms and variants of a character, each with the one it stands for,
apart from those that come in regular runs. The tables are those of Unicode 17: code points in
ascending order, each before the one that it stands for.
-/

namespace ContractAtlas.Web.Domain

/-- The variants among letters, signs and digits. -/
def letterVariants : List Nat :=
  [160, 32, 170, 97, 181, 956, 185, 49, 186, 111, 308, 309, 310, 311, 376, 255, 383, 115, 385, 595,
   386, 387, 388, 389, 390, 596, 391, 392, 395, 396, 398, 477, 399, 601, 400, 603, 401, 402, 403,
   608, 404, 611, 406, 617, 407, 616, 408, 409, 412, 623, 413, 626, 415, 629, 422, 640, 423, 424,
   425, 643, 428, 429, 430, 648, 431, 432, 435, 436, 437, 438, 439, 658, 440, 441, 444, 445, 500,
   501, 502, 405, 503, 447, 544, 414, 570, 11365, 571, 572, 573, 410, 574, 11366, 577, 578, 579,
   384, 580, 649, 581, 652, 688, 104, 689, 614, 690, 106, 691, 114, 692, 633, 693, 635, 694, 641,
   695, 119, 696, 121, 736, 611, 737, 108, 738, 115, 739, 120, 740, 661, 835, 787, 837, 953, 880,
   881, 882, 883, 884, 697, 886, 887, 894, 59, 895, 1011, 902, 940, 903, 183, 908, 972, 975, 983,
   976, 946, 977, 952, 978, 965, 979, 973, 980, 971, 981, 966, 982, 960, 1008, 954, 1009, 961,
   1010, 963, 1012, 952, 1013, 949, 1015, 1016, 1017, 963, 1018, 1019, 1216, 1231, 3852, 3851,
   4295, 11559, 4301, 11565, 4348, 4316, 7296, 1074, 7297, 1076, 7298, 1086, 7301, 1090, 7302,
   1098, 7303, 1123, 7304, 42571, 7305, 7306, 7468, 97, 7469, 230, 7470, 98, 7474, 477, 7484, 111,
   7485, 547, 7486, 112, 7487, 114, 7490, 119, 7491, 97, 7494, 7426, 7495, 98, 7498, 601, 7501,
   103, 7503, 107, 7504, 109, 7505, 331, 7506, 111, 7507, 596, 7510, 112, 7513, 7453, 7514, 623,
   7515, 118, 7516, 7461, 7522, 105, 7523, 114, 7528, 961, 7544, 1085, 7579, 594, 7580, 99, 7581,
   597, 7582, 240, 7583, 604, 7584, 102, 7585, 607, 7586, 609, 7587, 613, 7591, 7547, 7592, 669,
   7593, 621, 7594, 7557, 7595, 671, 7596, 625, 7597, 624, 7602, 632, 7605, 427, 7608, 7452, 7611,
   122, 7615, 952, 7835, 7777, 7838, 223, 8025, 8017, 8027, 8019, 8029, 8021, 8031, 8023, 8049,
   940, 8051, 941, 8053, 942, 8055, 943, 8057, 972, 8059, 973, 8061, 974, 8122, 8048, 8123, 940,
   8126, 953, 8136, 8050, 8137, 941, 8138, 8052, 8139, 942, 8147, 912, 8154, 8054, 8155, 943, 8163,
   944, 8170, 8058, 8171, 973, 8172, 8165, 8175, 96, 8184, 8056, 8185, 972, 8186, 8060, 8187, 974,
   8209, 8208, 8239, 32, 8287, 32, 8304, 48, 8305, 105, 8314, 43, 8315, 8722, 8316, 61, 8319, 110,
   8330, 43, 8331, 8722, 8332, 61, 8336, 97, 8337, 101, 8338, 111, 8339, 120, 8340, 601, 8341, 104,
   8346, 112, 8450, 99, 8455, 603, 8463, 295, 8469, 110, 8484, 122, 8486, 969, 8488, 122, 8490,
   107, 8491, 229, 8497, 102, 8498, 8526, 8499, 109, 8500, 111, 8505, 105, 8508, 960, 8511, 960,
   8512, 8721, 8519, 101, 8544, 105, 8548, 118, 8553, 120, 8556, 108, 8559, 109, 8560, 105, 8564,
   118, 8569, 120, 8572, 108, 8575, 109, 8579, 8580, 9450, 48, 11360, 11361, 11362, 619, 11363,
   7549, 11364, 637, 11373, 593, 11374, 625, 11375, 592, 11376, 594, 11378, 11379, 11381, 11382,
   11388, 106, 11389, 118, 11499, 11500, 11501, 11502, 11506, 11507, 11631, 11617]

/-- The variants among radicals, Kana, Hangul and enclosed letters. -/
def radicalVariants : List Nat :=
  [11935, 27597, 12019, 40863, 12032, 19968, 12033, 20008, 12034, 20022, 12035, 20031, 12036,
   20057, 12037, 20101, 12038, 20108, 12039, 20128, 12040, 20154, 12041, 20799, 12042, 20837,
   12043, 20843, 12044, 20866, 12045, 20886, 12046, 20907, 12047, 20960, 12048, 20981, 12049,
   20992, 12050, 21147, 12051, 21241, 12052, 21269, 12053, 21274, 12054, 21304, 12055, 21313,
   12056, 21340, 12057, 21353, 12058, 21378, 12059, 21430, 12060, 21448, 12061, 21475, 12062,
   22231, 12063, 22303, 12064, 22763, 12065, 22786, 12066, 22794, 12067, 22805, 12068, 22823,
   12069, 22899, 12070, 23376, 12071, 23424, 12072, 23544, 12073, 23567, 12074, 23586, 12075,
   23608, 12076, 23662, 12077, 23665, 12078, 24027, 12079, 24037, 12080, 24049, 12081, 24062,
   12082, 24178, 12083, 24186, 12084, 24191, 12085, 24308, 12086, 24318, 12087, 24331, 12088,
   24339, 12089, 24400, 12090, 24417, 12091, 24435, 12092, 24515, 12093, 25096, 12094, 25142,
   12095, 25163, 12096, 25903, 12097, 25908, 12098, 25991, 12099, 26007, 12100, 26020, 12101,
   26041, 12102, 26080, 12103, 26085, 12104, 26352, 12105, 26376, 12106, 26408, 12107, 27424,
   12108, 27490, 12109, 27513, 12110, 27571, 12111, 27595, 12112, 27604, 12113, 27611, 12114,
   27663, 12115, 27668, 12116, 27700, 12117, 28779, 12118, 29226, 12119, 29238, 12120, 29243,
   12121, 29247, 12122, 29255, 12123, 29273, 12124, 29275, 12125, 29356, 12126, 29572, 12127,
   29577, 12128, 29916, 12129, 29926, 12130, 29976, 12131, 29983, 12132, 29992, 12133, 30000,
   12134, 30091, 12135, 30098, 12136, 30326, 12137, 30333, 12138, 30382, 12139, 30399, 12140,
   30446, 12141, 30683, 12142, 30690, 12143, 30707, 12144, 31034, 12145, 31160, 12146, 31166,
   12147, 31348, 12148, 31435, 12149, 31481, 12150, 31859, 12151, 31992, 12152, 32566, 12153,
   32593, 12154, 32650, 12155, 32701, 12156, 32769, 12157, 32780, 12158, 32786, 12159, 32819,
   12160, 32895, 12161, 32905, 12162, 33251, 12163, 33258, 12164, 33267, 12165, 33276, 12166,
   33292, 12167, 33307, 12168, 33311, 12169, 33390, 12170, 33394, 12171, 33400, 12172, 34381,
   12173, 34411, 12174, 34880, 12175, 34892, 12176, 34915, 12177, 35198, 12178, 35211, 12179,
   35282, 12180, 35328, 12181, 35895, 12182, 35910, 12183, 35925, 12184, 35960, 12185, 35997,
   12186, 36196, 12187, 36208, 12188, 36275, 12189, 36523, 12190, 36554, 12191, 36763, 12192,
   36784, 12193, 36789, 12194, 37009, 12195, 37193, 12196, 37318, 12197, 37324, 12198, 37329,
   12199, 38263, 12200, 38272, 12201, 38428, 12202, 38582, 12203, 38585, 12204, 38632, 12205,
   38737, 12206, 38750, 12207, 38754, 12208, 38761, 12209, 38859, 12210, 38893, 12211, 38899,
   12212, 38913, 12213, 39080, 12214, 39131, 12215, 39135, 12216, 39318, 12217, 39321, 12218,
   39340, 12219, 39592, 12220, 39640, 12221, 39647, 12222, 39717, 12223, 39727, 12224, 39730,
   12225, 39740, 12226, 39770, 12227, 40165, 12228, 40565, 12229, 40575, 12230, 40613, 12231,
   40635, 12232, 40643, 12233, 40653, 12234, 40657, 12235, 40697, 12236, 40701, 12237, 40718,
   12238, 40723, 12239, 40736, 12240, 40763, 12241, 40778, 12242, 40786, 12243, 40845, 12244,
   40860, 12245, 40864, 12288, 32, 12290, 46, 12342, 12306, 12344, 21313, 12595, 4522, 12596, 4354,
   12608, 4378, 12612, 4385, 12649, 4556, 12650, 4558, 12651, 4563, 12652, 4567, 12653, 4569,
   12654, 4380, 12655, 4573, 12656, 4575, 12659, 4384, 12662, 4391, 12663, 4393, 12669, 4402,
   12670, 4406, 12671, 4416, 12672, 4423, 12673, 4428, 12681, 4488, 12684, 4500, 12685, 4510,
   12686, 4513, 12690, 19968, 12691, 20108, 12692, 19977, 12693, 22235, 12694, 19978, 12695, 20013,
   12696, 19979, 12697, 30002, 12698, 20057, 12699, 19993, 12700, 19969, 12701, 22825, 12702,
   22320, 12703, 20154, 12868, 21839, 12869, 24188, 12870, 25991, 12871, 31631, 12896, 4352, 12902,
   4361, 12910, 44032, 12911, 45208, 12912, 45796, 12913, 46972, 12914, 47560, 12915, 48148, 12916,
   49324, 12917, 50500, 12918, 51088, 12919, 52264, 12920, 52852, 12921, 53440, 12922, 54028,
   12923, 54616, 12926, 50864, 12928, 19968, 12929, 20108, 12930, 19977, 12931, 22235, 12932,
   20116, 12933, 20845, 12934, 19971, 12935, 20843, 12936, 20061, 12937, 21313, 12938, 26376,
   12939, 28779, 12940, 27700, 12941, 26408, 12942, 37329, 12943, 22303, 12944, 26085, 12945,
   26666, 12946, 26377, 12947, 31038, 12948, 21517, 12949, 29305, 12950, 36001, 12951, 31069,
   12952, 21172, 12953, 31192, 12954, 30007, 12955, 22899, 12956, 36969, 12957, 20778, 12958,
   21360, 12959, 27880, 12960, 38917, 12961, 20241, 12962, 20889, 12963, 27491, 12964, 19978,
   12965, 20013, 12966, 19979, 12967, 24038, 12968, 21491, 12969, 21307, 12970, 23447, 12971,
   23398, 12972, 30435, 12973, 20225, 12974, 36039, 12975, 21332, 12976, 22812, 13008, 12450,
   13009, 12452, 13010, 12454, 13011, 12456, 13014, 12461, 13015, 12463, 13016, 12465, 13017,
   12467, 13018, 12469, 13019, 12471, 13020, 12473, 13021, 12475, 13022, 12477, 13023, 12479,
   13024, 12481, 13025, 12484, 13026, 12486, 13027, 12488, 13034, 12498, 13035, 12501, 13036,
   12504, 13037, 12507, 13043, 12516, 13044, 12518, 42652, 1098, 42653, 1100, 42864, 42863, 42873,
   42874, 42875, 42876, 42877, 7545, 42891, 42892, 42893, 613, 42896, 42897, 42898, 42899, 42922,
   614, 42923, 604, 42924, 609, 42925, 620, 42926, 618, 42928, 670, 42929, 647, 42930, 669, 42931,
   43859, 42948, 42900, 42949, 642, 42950, 7566, 42951, 42952, 42953, 42954, 42955, 612, 42972,
   411, 42993, 115, 42994, 99, 42995, 102, 42996, 113, 42997, 42998, 43000, 295, 43001, 339, 43868,
   42791, 43869, 43831, 43870, 619, 43871, 43858, 43881, 653]

/-- The variants among compatibility ideographs. -/
def ideographVariants : List Nat :=
  [63744, 35912, 63745, 26356, 63746, 36554, 63747, 36040, 63748, 28369, 63749, 20018, 63750,
   21477, 63753, 22865, 63754, 37329, 63755, 21895, 63756, 22856, 63757, 25078, 63758, 30313,
   63759, 32645, 63760, 34367, 63761, 34746, 63762, 35064, 63763, 37007, 63764, 27138, 63765,
   27931, 63766, 28889, 63767, 29662, 63768, 33853, 63769, 37226, 63770, 39409, 63771, 20098,
   63772, 21365, 63773, 27396, 63774, 29211, 63775, 34349, 63776, 40478, 63777, 23888, 63778,
   28651, 63779, 34253, 63780, 35172, 63781, 25289, 63782, 33240, 63783, 34847, 63784, 24266,
   63785, 26391, 63786, 28010, 63787, 29436, 63788, 37070, 63789, 20358, 63790, 20919, 63791,
   21214, 63792, 25796, 63793, 27347, 63794, 29200, 63795, 30439, 63796, 32769, 63797, 34310,
   63798, 34396, 63799, 36335, 63800, 38706, 63801, 39791, 63802, 40442, 63803, 30860, 63804,
   31103, 63805, 32160, 63806, 33737, 63807, 37636, 63808, 40575, 63809, 35542, 63810, 22751,
   63811, 24324, 63812, 31840, 63813, 32894, 63814, 29282, 63815, 30922, 63816, 36034, 63817,
   38647, 63818, 22744, 63819, 23650, 63820, 27155, 63821, 28122, 63822, 28431, 63823, 32047,
   63824, 32311, 63825, 38475, 63826, 21202, 63827, 32907, 63828, 20956, 63829, 20940, 63830,
   31260, 63831, 32190, 63832, 33777, 63833, 38517, 63834, 35712, 63835, 25295, 63836, 27138,
   63837, 35582, 63838, 20025, 63839, 23527, 63840, 24594, 63841, 29575, 63842, 30064, 63843,
   21271, 63844, 30971, 63845, 20415, 63846, 24489, 63847, 19981, 63848, 27852, 63849, 25976,
   63850, 32034, 63851, 21443, 63852, 22622, 63853, 30465, 63854, 33865, 63855, 35498, 63856,
   27578, 63857, 36784, 63858, 27784, 63859, 25342, 63860, 33509, 63861, 25504, 63862, 30053,
   63863, 20142, 63864, 20841, 63865, 20937, 63866, 26753, 63867, 31975, 63868, 33391, 63869,
   35538, 63870, 37327, 63871, 21237, 63872, 21570, 63873, 22899, 63874, 24300, 63875, 26053,
   63876, 28670, 63877, 31018, 63878, 38317, 63879, 39530, 63880, 40599, 63881, 40654, 63882,
   21147, 63883, 26310, 63884, 27511, 63885, 36706, 63886, 24180, 63887, 24976, 63888, 25088,
   63889, 25754, 63890, 28451, 63891, 29001, 63892, 29833, 63893, 31178, 63894, 32244, 63895,
   32879, 63896, 36646, 63897, 34030, 63898, 36899, 63899, 37706, 63900, 21015, 63901, 21155,
   63902, 21693, 63903, 28872, 63904, 35010, 63905, 35498, 63906, 24265, 63907, 24565, 63908,
   25467, 63909, 27566, 63910, 31806, 63911, 29557, 63912, 20196, 63913, 22265, 63914, 23527,
   63915, 23994, 63916, 24604, 63917, 29618, 63918, 29801, 63919, 32666, 63920, 32838, 63921,
   37428, 63922, 38646, 63923, 38728, 63924, 38936, 63925, 20363, 63926, 31150, 63927, 37300,
   63928, 38584, 63929, 24801, 63930, 20102, 63931, 20698, 63932, 23534, 63933, 23615, 63934,
   26009, 63935, 27138, 63936, 29134, 63937, 30274, 63938, 34044, 63939, 36988, 63940, 40845,
   63941, 26248, 63942, 38446, 63943, 21129, 63944, 26491, 63945, 26611, 63946, 27969, 63947,
   28316, 63948, 29705, 63949, 30041, 63950, 30827, 63951, 32016, 63952, 39006, 63953, 20845,
   63954, 25134, 63955, 38520, 63956, 20523, 63957, 23833, 63958, 28138, 63959, 36650, 63960,
   24459, 63961, 24900, 63962, 26647, 63963, 29575, 63964, 38534, 63965, 21033, 63966, 21519,
   63967, 23653, 63968, 26131, 63969, 26446, 63970, 26792, 63971, 27877, 63972, 29702, 63973,
   30178, 63974, 32633, 63975, 35023, 63976, 35041, 63977, 37324, 63978, 38626, 63979, 21311,
   63980, 28346, 63981, 21533, 63982, 29136, 63983, 29848, 63984, 34298, 63985, 38563, 63986,
   40023, 63987, 40607, 63988, 26519, 63989, 28107, 63990, 33256, 63991, 31435, 63992, 31520,
   63993, 31890, 63994, 29376, 63995, 28825, 63996, 35672, 63997, 20160, 63998, 33590, 63999,
   21050, 64000, 20999, 64001, 24230, 64002, 25299, 64003, 31958, 64004, 23429, 64005, 27934,
   64006, 26292, 64007, 36667, 64008, 34892, 64009, 38477, 64010, 35211, 64011, 24275, 64012,
   20800, 64013, 21952, 64016, 22618, 64018, 26228, 64021, 20958, 64022, 29482, 64023, 30410,
   64024, 31036, 64025, 31070, 64026, 31077, 64027, 31119, 64028, 38742, 64029, 31934, 64030,
   32701, 64032, 34322, 64034, 35576, 64037, 36920, 64038, 37117, 64042, 39151, 64043, 39164,
   64044, 39208, 64045, 40372, 64046, 37086, 64047, 38583, 64048, 20398, 64049, 20711, 64050,
   20813, 64051, 21193, 64052, 21220, 64053, 21329, 64054, 21917, 64055, 22022, 64056, 22120,
   64057, 22592, 64058, 22696, 64059, 23652, 64060, 23662, 64061, 24724, 64062, 24936, 64063,
   24974, 64064, 25074, 64065, 25935, 64066, 26082, 64067, 26257, 64068, 26757, 64069, 28023,
   64070, 28186, 64071, 28450, 64072, 29038, 64073, 29227, 64074, 29730, 64075, 30865, 64076,
   31038, 64077, 31049, 64078, 31048, 64079, 31056, 64080, 31062, 64081, 31069, 64084, 31296,
   64085, 31361, 64086, 31680, 64087, 32244, 64088, 32265, 64089, 32321, 64090, 32626, 64091,
   32773, 64092, 33261, 64095, 33879, 64096, 35088, 64097, 35222, 64098, 35585, 64099, 35641,
   64100, 36051, 64101, 36104, 64102, 36790, 64103, 36920, 64104, 38627, 64105, 38911, 64106,
   38971, 64107, 24693, 64108, 148206, 64109, 33304, 64112, 20006, 64113, 20917, 64114, 20840,
   64115, 20352, 64116, 20805, 64117, 20864, 64118, 21191, 64119, 21242, 64120, 21917, 64121,
   21845, 64122, 21913, 64123, 21986, 64124, 22618, 64125, 22707, 64126, 22852, 64127, 22868,
   64128, 23138, 64129, 23336, 64130, 24274, 64131, 24281, 64132, 24425, 64133, 24493, 64134,
   24792, 64135, 24910, 64136, 24840, 64137, 24974, 64138, 24928, 64139, 25074, 64140, 25140,
   64141, 25540, 64142, 25628, 64143, 25682, 64144, 25942, 64145, 26228, 64146, 26391, 64147,
   26395, 64148, 26454, 64149, 27513, 64150, 27578, 64151, 27969, 64152, 28379, 64153, 28363,
   64154, 28450, 64155, 28702, 64156, 29038, 64157, 30631, 64158, 29237, 64159, 29359, 64160,
   29482, 64161, 29809, 64162, 29958, 64163, 30011, 64164, 30237, 64165, 30239, 64166, 30410,
   64167, 30427, 64168, 30452, 64169, 30538, 64170, 30528, 64171, 30924, 64172, 31409, 64173,
   31680, 64174, 31867, 64175, 32091, 64176, 32244, 64177, 32574, 64178, 32773, 64179, 33618,
   64180, 33775, 64181, 34681, 64182, 35137, 64183, 35206, 64184, 35222, 64185, 35519, 64186,
   35576, 64187, 35531, 64188, 35585, 64189, 35582, 64190, 35565, 64191, 35641, 64192, 35722,
   64193, 36104, 64194, 36664, 64195, 36978, 64196, 37273, 64197, 37494, 64198, 38524, 64199,
   38627, 64200, 38742, 64201, 38875, 64202, 38911, 64203, 38923, 64204, 38971, 64205, 39698,
   64206, 40860, 64207, 141386, 64208, 141380, 64209, 144341, 64210, 15261, 64211, 16408, 64212,
   16441, 64213, 152137, 64214, 154832, 64215, 163539, 64216, 40771, 64217, 40846]

/-- The variants among presentation forms. -/
def presentationVariants : List Nat :=
  [64288, 1506, 64289, 1488, 64295, 1512, 64296, 1514, 64297, 43, 65040, 44, 65041, 12289, 65045,
   33, 65046, 63, 65073, 8212, 65074, 8211, 65079, 123, 65080, 125, 65095, 91, 65096, 93, 65104,
   44, 65105, 12289, 65108, 59, 65109, 58, 65110, 63, 65111, 33, 65112, 8212, 65115, 123, 65116,
   125, 65119, 35, 65120, 38, 65123, 45, 65124, 60, 65125, 62, 65126, 61, 65128, 92, 65131, 64,
   65377, 46, 65380, 12289, 65381, 12539, 65382, 12530, 65383, 12449, 65384, 12451, 65385, 12453,
   65386, 12455, 65387, 12457, 65388, 12515, 65389, 12517, 65390, 12519, 65391, 12483, 65392,
   12540, 65393, 12450, 65394, 12452, 65395, 12454, 65396, 12456, 65399, 12461, 65400, 12463,
   65401, 12465, 65402, 12467, 65403, 12469, 65404, 12471, 65405, 12473, 65406, 12475, 65407,
   12477, 65408, 12479, 65409, 12481, 65410, 12484, 65411, 12486, 65412, 12488, 65419, 12498,
   65420, 12501, 65421, 12504, 65422, 12507, 65428, 12516, 65429, 12518, 65436, 12527, 65437,
   12531, 65443, 4522, 65444, 4354, 65456, 4378, 65460, 4385, 65506, 172, 65508, 166, 65509, 165,
   65510, 8361, 65512, 9474, 65517, 9632, 65518, 9675]

/-- The variants among the letters and signs of the supplementary planes. -/
def symbolVariants : List Nat :=
  [67459, 230, 67460, 665, 67461, 595, 67463, 675, 67464, 43878, 67465, 677, 67466, 676, 67469,
   7569, 67470, 600, 67471, 606, 67472, 681, 67473, 612, 67474, 610, 67475, 608, 67476, 667, 67477,
   295, 67478, 668, 67479, 615, 67480, 644, 67483, 620, 67484, 122628, 67485, 42894, 67486, 622,
   67487, 122629, 67488, 654, 67489, 122630, 67490, 248, 67493, 113, 67494, 634, 67495, 122632,
   67498, 640, 67499, 680, 67500, 678, 67501, 43879, 67502, 679, 67503, 648, 67504, 11377, 67506,
   655, 67509, 664, 67513, 122634, 67514, 122654, 119964, 97, 119970, 103, 119995, 102, 120134,
   111, 120484, 305, 120485, 567, 120505, 952, 120513, 8711, 120539, 8706, 120540, 949, 120541,
   952, 120542, 954, 120543, 966, 120544, 961, 120545, 960, 120563, 952, 120571, 8711, 120597,
   8706, 120598, 949, 120599, 952, 120600, 954, 120601, 966, 120602, 961, 120603, 960, 120621, 952,
   120629, 8711, 120655, 8706, 120656, 949, 120657, 952, 120658, 954, 120659, 966, 120660, 961,
   120661, 960, 120679, 952, 120687, 8711, 120713, 8706, 120714, 949, 120715, 952, 120716, 954,
   120717, 966, 120718, 961, 120719, 960, 120737, 952, 120745, 8711, 120771, 8706, 120772, 949,
   120773, 952, 120774, 954, 120775, 966, 120776, 961, 120777, 960, 122951, 1099, 122954, 42633,
   122955, 1241, 122956, 1110, 122957, 1112, 122958, 1257, 122959, 1199, 122960, 1231, 122974,
   1089, 122983, 1169, 122984, 1110, 122985, 1109, 122986, 1119, 122987, 1195, 122988, 42577,
   122989, 1201, 126466, 1580, 126467, 1583, 126469, 1608, 126470, 1586, 126471, 1581, 126472,
   1591, 126473, 1610, 126478, 1587, 126479, 1593, 126480, 1601, 126481, 1589, 126482, 1602,
   126483, 1585, 126484, 1588, 126487, 1582, 126488, 1584, 126489, 1590, 126490, 1592, 126491,
   1594, 126492, 1646, 126493, 1722, 126494, 1697, 126495, 1647, 126497, 1576, 126498, 1580,
   126500, 1607, 126503, 1581, 126505, 1610, 126510, 1587, 126511, 1593, 126512, 1601, 126513,
   1589, 126514, 1602, 126516, 1588, 126519, 1582, 126521, 1590, 126523, 1594, 126530, 1580,
   126535, 1581, 126537, 1610, 126539, 1604, 126541, 1606, 126542, 1587, 126543, 1593, 126545,
   1589, 126546, 1602, 126548, 1588, 126551, 1582, 126553, 1590, 126555, 1594, 126557, 1722,
   126559, 1647, 126561, 1576, 126562, 1580, 126564, 1607, 126567, 1581, 126568, 1591, 126569,
   1610, 126570, 1603, 126574, 1587, 126575, 1593, 126576, 1601, 126577, 1589, 126578, 1602,
   126580, 1588, 126583, 1582, 126585, 1590, 126586, 1592, 126587, 1594, 126588, 1646, 126590,
   1697, 126594, 1580, 126595, 1583, 126598, 1586, 126599, 1581, 126600, 1591, 126601, 1610,
   126606, 1587, 126607, 1593, 126608, 1601, 126609, 1589, 126610, 1602, 126611, 1585, 126612,
   1588, 126615, 1582, 126616, 1584, 126617, 1590, 126618, 1592, 126619, 1594, 126625, 1576,
   126626, 1580, 126627, 1583, 126629, 1608, 126630, 1586, 126631, 1581, 126632, 1591, 126633,
   1610, 126638, 1587, 126639, 1593, 126640, 1601, 126641, 1589, 126642, 1602, 126643, 1585,
   126644, 1588, 126647, 1582, 126648, 1584, 126649, 1590, 126650, 1592, 126651, 1594, 127275, 99,
   127276, 114, 127490, 12469, 127504, 25163, 127505, 23383, 127506, 21452, 127507, 12487, 127508,
   20108, 127509, 22810, 127510, 35299, 127511, 22825, 127512, 20132, 127513, 26144, 127514, 28961,
   127515, 26009, 127516, 21069, 127517, 24460, 127518, 20877, 127519, 26032, 127520, 21021,
   127521, 32066, 127522, 29983, 127523, 36009, 127524, 22768, 127525, 21561, 127526, 28436,
   127527, 25237, 127528, 25429, 127529, 19968, 127530, 19977, 127531, 36938, 127532, 24038,
   127533, 20013, 127534, 21491, 127535, 25351, 127536, 36208, 127537, 25171, 127538, 31105,
   127539, 31354, 127540, 21512, 127541, 28288, 127542, 26377, 127543, 26376, 127544, 30003,
   127545, 21106, 127546, 21942, 127547, 37197, 127568, 24471, 127569, 21487]

/-- The variants among the compatibility ideographs of the supplementary planes. -/
def rareIdeographVariants : List Nat :=
  [194560, 20029, 194561, 20024, 194562, 20033, 194563, 131362, 194564, 20320, 194565, 20398,
   194566, 20411, 194567, 20482, 194568, 20602, 194569, 20633, 194570, 20711, 194571, 20687,
   194572, 13470, 194573, 132666, 194574, 20813, 194575, 20820, 194576, 20836, 194577, 20855,
   194578, 132380, 194579, 13497, 194580, 20839, 194581, 20877, 194582, 132427, 194583, 20887,
   194584, 20900, 194585, 20172, 194586, 20908, 194587, 20917, 194588, 168415, 194589, 20981,
   194590, 20995, 194591, 13535, 194592, 21051, 194593, 21062, 194594, 21106, 194595, 21111,
   194596, 13589, 194597, 21191, 194598, 21193, 194599, 21220, 194600, 21242, 194603, 21271,
   194604, 21321, 194605, 21329, 194606, 21338, 194607, 21363, 194608, 21373, 194612, 133676,
   194613, 28784, 194614, 21450, 194615, 21471, 194616, 133987, 194617, 21483, 194618, 21489,
   194619, 21510, 194620, 21662, 194621, 21560, 194622, 21576, 194623, 21608, 194624, 21666,
   194625, 21750, 194626, 21776, 194627, 21843, 194628, 21859, 194631, 21913, 194632, 21931,
   194633, 21939, 194634, 21954, 194635, 22294, 194636, 22022, 194637, 22295, 194638, 22097,
   194639, 22132, 194640, 20999, 194641, 22766, 194642, 22478, 194643, 22516, 194644, 22541,
   194645, 22411, 194646, 22578, 194647, 22577, 194648, 22700, 194649, 136420, 194650, 22770,
   194651, 22775, 194652, 22790, 194653, 22810, 194654, 22818, 194655, 22882, 194656, 136872,
   194657, 136938, 194658, 23020, 194659, 23067, 194660, 23079, 194661, 23000, 194662, 23142,
   194663, 14062, 194664, 14076, 194665, 23304, 194668, 137672, 194669, 23491, 194670, 23512,
   194671, 23527, 194672, 23539, 194673, 138008, 194674, 23551, 194675, 23558, 194676, 24403,
   194677, 23586, 194678, 14209, 194679, 23648, 194680, 23662, 194681, 23744, 194682, 23693,
   194683, 138724, 194684, 23875, 194685, 138726, 194686, 23918, 194687, 23915, 194688, 23932,
   194691, 14383, 194692, 24061, 194693, 24104, 194694, 24125, 194695, 24169, 194696, 14434,
   194697, 139651, 194698, 14460, 194699, 24240, 194700, 24243, 194701, 24246, 194702, 24266,
   194703, 172946, 194704, 24318, 194707, 33281, 194710, 14535, 194711, 144056, 194712, 156122,
   194713, 24418, 194714, 24427, 194715, 14563, 194716, 24474, 194717, 24525, 194718, 24535,
   194719, 24569, 194720, 24705, 194721, 14650, 194722, 14620, 194723, 24724, 194724, 141012,
   194725, 24775, 194726, 24904, 194727, 24908, 194728, 24910, 194729, 24908, 194730, 24954,
   194731, 24974, 194732, 25010, 194733, 24996, 194734, 25007, 194735, 25054, 194736, 25074,
   194737, 25078, 194738, 25104, 194739, 25115, 194740, 25181, 194741, 25265, 194742, 25300,
   194743, 25424, 194744, 142092, 194745, 25405, 194746, 25340, 194747, 25448, 194748, 25475,
   194749, 25572, 194750, 142321, 194751, 25634, 194752, 25541, 194753, 25513, 194754, 14894,
   194755, 25705, 194756, 25726, 194757, 25757, 194758, 25719, 194759, 14956, 194760, 25935,
   194761, 25964, 194762, 143370, 194763, 26083, 194764, 26360, 194765, 26185, 194766, 15129,
   194767, 26257, 194768, 15112, 194769, 15076, 194770, 20882, 194771, 20885, 194772, 26368,
   194773, 26268, 194774, 32941, 194775, 17369, 194776, 26391, 194777, 26395, 194778, 26401,
   194779, 26462, 194780, 26451, 194781, 144323, 194782, 15177, 194783, 26618, 194784, 26501,
   194785, 26706, 194786, 26757, 194787, 144493, 194788, 26766, 194789, 26655, 194790, 26900,
   194791, 15261, 194792, 26946, 194793, 27043, 194794, 27114, 194795, 27304, 194796, 145059,
   194797, 27355, 194798, 15384, 194799, 27425, 194800, 145575, 194801, 27476, 194802, 15438,
   194803, 27506, 194804, 27551, 194807, 146061, 194808, 138507, 194809, 146170, 194810, 27726,
   194811, 146620, 194812, 27839, 194813, 27853, 194814, 27751, 194815, 27926, 194816, 27966,
   194817, 28023, 194818, 27969, 194819, 28009, 194820, 28024, 194821, 28037, 194822, 146718,
   194823, 27956, 194824, 28207, 194825, 28270, 194826, 15667, 194827, 28363, 194828, 28359,
   194829, 147153, 194830, 28153, 194831, 28526, 194832, 147294, 194833, 147342, 194834, 28614,
   194835, 28729, 194836, 28702, 194837, 28699, 194838, 15766, 194839, 28746, 194840, 28797,
   194841, 28791, 194842, 28845, 194843, 132389, 194844, 28997, 194845, 148067, 194846, 29084,
   194847, 148395, 194848, 29224, 194849, 29237, 194850, 29264, 194851, 149000, 194852, 29312,
   194853, 29333, 194854, 149301, 194855, 149524, 194856, 29562, 194857, 29579, 194858, 16044,
   194859, 29605, 194862, 29767, 194863, 29788, 194864, 29809, 194865, 29829, 194866, 29898,
   194867, 16155, 194868, 29988, 194869, 150582, 194870, 30014, 194871, 150674, 194872, 30064,
   194873, 139679, 194874, 30224, 194875, 151457, 194876, 151480, 194877, 151620, 194878, 16380,
   194879, 16392, 194880, 30452, 194881, 151795, 194882, 151794, 194883, 151833, 194884, 151859,
   194887, 30495, 194888, 30538, 194889, 16441, 194890, 30603, 194891, 16454, 194892, 16534,
   194893, 152605, 194894, 30798, 194895, 30860, 194896, 30924, 194897, 16611, 194898, 153126,
   194899, 31062, 194900, 153242, 194901, 153285, 194902, 31119, 194903, 31211, 194904, 16687,
   194905, 31296, 194906, 31306, 194907, 31311, 194908, 153980, 194911, 31470, 194912, 16898,
   194913, 154539, 194914, 31686, 194915, 31689, 194916, 16935, 194917, 154752, 194918, 31954,
   194919, 17056, 194920, 31976, 194921, 31971, 194922, 32000, 194923, 155526, 194924, 32099,
   194925, 17153, 194926, 32199, 194927, 32258, 194928, 32325, 194929, 17204, 194930, 156200,
   194931, 156231, 194932, 17241, 194933, 156377, 194934, 32634, 194935, 156478, 194936, 32661,
   194937, 32762, 194938, 32773, 194939, 156890, 194940, 156963, 194941, 32864, 194942, 157096,
   194943, 32880, 194944, 144223, 194945, 17365, 194946, 32946, 194947, 33027, 194948, 17419,
   194949, 33086, 194950, 23221, 194951, 157607, 194952, 157621, 194953, 144275, 194954, 144284,
   194955, 33281, 194956, 33284, 194957, 36766, 194958, 17515, 194959, 33425, 194960, 33419,
   194961, 33437, 194962, 21171, 194963, 33457, 194964, 33459, 194965, 33469, 194966, 33510,
   194967, 158524, 194968, 33509, 194969, 33565, 194970, 33635, 194971, 33709, 194972, 33571,
   194973, 33725, 194974, 33767, 194975, 33879, 194976, 33619, 194977, 33738, 194978, 33740,
   194979, 33756, 194980, 158774, 194981, 159083, 194982, 158933, 194983, 17707, 194984, 34033,
   194985, 34035, 194986, 34070, 194987, 160714, 194988, 34148, 194989, 159532, 194990, 17757,
   194991, 17761, 194992, 159665, 194993, 159954, 194994, 17771, 194995, 34384, 194996, 34396,
   194997, 34407, 194998, 34409, 194999, 34473, 195000, 34440, 195001, 34574, 195002, 34530,
   195003, 34681, 195004, 34600, 195005, 34667, 195006, 34694, 195007, 17879, 195008, 34785,
   195009, 34817, 195010, 17913, 195011, 34912, 195012, 34915, 195013, 161383, 195014, 35031,
   195015, 35038, 195016, 17973, 195017, 35066, 195018, 13499, 195019, 161966, 195020, 162150,
   195021, 18110, 195022, 18119, 195023, 35488, 195024, 35565, 195025, 35722, 195026, 35925,
   195027, 162984, 195028, 36011, 195029, 36033, 195030, 36123, 195031, 36215, 195032, 163631,
   195033, 133124, 195034, 36299, 195035, 36284, 195036, 36336, 195037, 133342, 195038, 36564,
   195039, 36664, 195040, 165330, 195041, 165357, 195042, 37012, 195043, 37105, 195044, 37137,
   195045, 165678, 195046, 37147, 195047, 37432, 195050, 37500, 195051, 37881, 195052, 37909,
   195053, 166906, 195054, 38283, 195055, 18837, 195056, 38327, 195057, 167287, 195058, 18918,
   195059, 38595, 195060, 23986, 195061, 38691, 195062, 168261, 195063, 168474, 195064, 19054,
   195065, 19062, 195066, 38880, 195067, 168970, 195068, 19122, 195069, 169110, 195072, 38953,
   195073, 169398, 195074, 39138, 195075, 19251, 195076, 39209, 195077, 39335, 195078, 39362,
   195079, 39422, 195080, 19406, 195081, 170800, 195082, 39698, 195083, 40000, 195084, 40189,
   195085, 19662, 195086, 19693, 195087, 40295, 195088, 172238, 195089, 19704, 195090, 172293,
   195091, 172558, 195092, 172689, 195093, 40635, 195094, 19798, 195095, 40697, 195096, 40702,
   195097, 40709, 195098, 40719, 195099, 40726, 195100, 40763, 195101, 173568]

/-- The pairs that a list gives by twos. -/
def pairsOf : List Nat -> List (Nat × Nat)
  | code :: target :: later => (code, target) :: pairsOf later
  | _ => []

/-- What the variants stand for, by code points in ascending order. -/
def variants : List (Nat × Nat) :=
  [letterVariants, radicalVariants, ideographVariants, presentationVariants, symbolVariants,
    rareIdeographVariants].flatMap pairsOf

end ContractAtlas.Web.Domain
