import ContractAtlas.Text.CodeRange
import ContractAtlas.Web.Domain.Sequences
import ContractAtlas.Web.Domain.Variants

/-!
# The characters of domains

A domain is written in small letters and without variants: every character that it may hold stands
for itself, for another one, for several or for none at all. Characters that are not assigned, not
meant for interchange or likely to be taken for others are not allowed. The tables are those of
Unicode 17.
-/

namespace ContractAtlas.Web.Domain

open Text

/-- Runs of characters that stand for the run of the same length from the given code point on. -/
def shiftedRuns : List (CodeRange × Nat) :=
  CodeRange.valued
    [65, 90, 97, 178, 179, 50, 192, 214, 224, 216, 222, 248, 393, 394, 598, 433, 434, 650, 832,
     833, 768, 904, 906, 941, 910, 911, 973, 913, 929, 945, 931, 939, 963, 1021, 1023, 891, 1024,
     1039, 1104, 1040, 1071, 1072, 1329, 1366, 1377, 4256, 4293, 11520, 5112, 5117, 5104, 7299,
     7300, 1089, 7312, 7354, 4304, 7357, 7359, 4349, 7472, 7473, 100, 7475, 7482, 103, 7488, 7489,
     116, 7492, 7493, 592, 7496, 7497, 100, 7499, 7500, 603, 7508, 7509, 7446, 7511, 7512, 116,
     7517, 7519, 946, 7520, 7521, 966, 7524, 7525, 117, 7526, 7527, 946, 7529, 7530, 966, 7588,
     7590, 616, 7598, 7601, 626, 7603, 7604, 642, 7606, 7607, 649, 7609, 7610, 651, 7612, 7614,
     656, 7944, 7951, 7936, 7960, 7965, 7952, 7976, 7983, 7968, 7992, 7999, 7984, 8008, 8013, 8000,
     8040, 8047, 8032, 8120, 8121, 8112, 8152, 8153, 8144, 8168, 8169, 8160, 8308, 8313, 52, 8317,
     8318, 40, 8320, 8329, 48, 8333, 8334, 40, 8342, 8345, 107, 8347, 8348, 115, 8458, 8459, 103,
     8473, 8475, 112, 8492, 8493, 98, 8501, 8504, 1488, 8520, 8521, 105, 8557, 8558, 99, 8573,
     8574, 99, 9001, 9002, 12296, 9312, 9320, 49, 9398, 9423, 97, 9424, 9449, 97, 11264, 11311,
     11312, 11390, 11391, 575, 12345, 12346, 21316, 12593, 12594, 4352, 12597, 12598, 4524, 12599,
     12601, 4355, 12602, 12607, 4528, 12609, 12611, 4358, 12613, 12622, 4361, 12623, 12643, 4449,
     12645, 12646, 4372, 12647, 12648, 4551, 12657, 12658, 4381, 12660, 12661, 4386, 12664, 12668,
     4395, 12674, 12675, 4593, 12676, 12678, 4439, 12679, 12680, 4484, 12682, 12683, 4497, 12897,
     12898, 4354, 12899, 12901, 4357, 12903, 12904, 4363, 12905, 12909, 4366, 13012, 13013, 12458,
     13028, 13033, 12490, 13038, 13042, 12510, 13045, 13050, 12520, 13051, 13054, 12527, 43888,
     43967, 5024, 64082, 64083, 31117, 64290, 64291, 1491, 64292, 64294, 1499, 65043, 65044, 58,
     65047, 65048, 12310, 65077, 65078, 40, 65081, 65082, 12308, 65083, 65084, 12304, 65085, 65086,
     12298, 65087, 65088, 12296, 65089, 65092, 12300, 65113, 65114, 40, 65117, 65118, 12308, 65121,
     65122, 42, 65129, 65130, 36, 65152, 65153, 1569, 65154, 65155, 1570, 65156, 65157, 1571,
     65158, 65159, 1572, 65160, 65161, 1573, 65281, 65312, 33, 65313, 65338, 97, 65339, 65374, 91,
     65375, 65376, 10629, 65378, 65379, 12300, 65397, 65398, 12458, 65413, 65418, 12490, 65423,
     65427, 12510, 65430, 65435, 12520, 65438, 65439, 12441, 65441, 65442, 4352, 65445, 65446,
     4524, 65447, 65449, 4355, 65450, 65455, 4528, 65457, 65459, 4358, 65461, 65470, 4361, 65474,
     65479, 4449, 65482, 65487, 4455, 65490, 65495, 4461, 65498, 65500, 4467, 65504, 65505, 162,
     65513, 65516, 8592, 66560, 66599, 66600, 66736, 66771, 66776, 66928, 66938, 66967, 66940,
     66954, 66979, 66956, 66962, 66995, 66964, 66965, 67003, 67457, 67458, 720, 67467, 67468, 598,
     67481, 67482, 682, 67491, 67492, 630, 67496, 67497, 637, 67507, 67508, 673, 67510, 67512, 448,
     68736, 68786, 68800, 68944, 68965, 68976, 71840, 71871, 71872, 93760, 93791, 93792, 93856,
     93880, 93883, 117974, 117999, 97, 118000, 118009, 48, 119808, 119833, 97, 119834, 119859, 97,
     119860, 119885, 97, 119886, 119892, 97, 119894, 119911, 105, 119912, 119937, 97, 119938,
     119963, 97, 119966, 119967, 99, 119973, 119974, 106, 119977, 119980, 110, 119982, 119989, 115,
     119990, 119993, 97, 119997, 120003, 104, 120005, 120015, 112, 120016, 120041, 97, 120042,
     120067, 97, 120068, 120069, 97, 120071, 120074, 100, 120077, 120084, 106, 120086, 120092, 115,
     120094, 120119, 97, 120120, 120121, 97, 120123, 120126, 100, 120128, 120132, 105, 120138,
     120144, 115, 120146, 120171, 97, 120172, 120197, 97, 120198, 120223, 97, 120224, 120249, 97,
     120250, 120275, 97, 120276, 120301, 97, 120302, 120327, 97, 120328, 120353, 97, 120354,
     120379, 97, 120380, 120405, 97, 120406, 120431, 97, 120432, 120457, 97, 120458, 120483, 97,
     120488, 120504, 945, 120506, 120512, 963, 120514, 120530, 945, 120533, 120538, 964, 120546,
     120562, 945, 120564, 120570, 963, 120572, 120588, 945, 120591, 120596, 964, 120604, 120620,
     945, 120622, 120628, 963, 120630, 120646, 945, 120649, 120654, 964, 120662, 120678, 945,
     120680, 120686, 963, 120688, 120704, 945, 120707, 120712, 964, 120720, 120736, 945, 120738,
     120744, 963, 120746, 120762, 945, 120765, 120770, 964, 120782, 120791, 48, 120792, 120801, 48,
     120802, 120811, 48, 120812, 120821, 48, 120822, 120831, 48, 122928, 122936, 1072, 122937,
     122939, 1082, 122940, 122950, 1086, 122952, 122953, 1101, 122961, 122969, 1072, 122970,
     122971, 1082, 122972, 122973, 1086, 122975, 122980, 1091, 122981, 122982, 1098, 125184,
     125217, 125218, 126464, 126465, 1575, 126474, 126477, 1603, 126485, 126486, 1578, 126506,
     126509, 1603, 126517, 126518, 1578, 126572, 126573, 1605, 126581, 126582, 1578, 126592,
     126593, 1575, 126596, 126597, 1607, 126603, 126605, 1604, 126613, 126614, 1578, 126635,
     126637, 1604, 126645, 126646, 1578, 127280, 127305, 97, 130032, 130041, 48, 194601, 194602,
     21253, 194689, 194690, 24033, 194805, 194806, 27578, 194885, 194886, 30494, 195048, 195049,
     37591]

/-- Runs in which every other character, from the first on, stands for the one after it. -/
def alternatingRuns : List CodeRange :=
  CodeRange.table
    [256, 302, 313, 317, 321, 327, 330, 374, 377, 381, 416, 420, 461, 475, 478, 494, 504, 542, 546,
     562, 582, 590, 984, 1006, 1120, 1152, 1162, 1214, 1217, 1229, 1232, 1326, 7680, 7828, 7840,
     7934, 11367, 11371, 11392, 11490, 42560, 42604, 42624, 42650, 42786, 42798, 42802, 42862,
     42878, 42886, 42902, 42920, 42932, 42946, 42956, 42970]

/-- Runs of characters that all stand for the same one. -/
def sharedRuns : List (CodeRange × Nat) :=
  CodeRange.valued
    [8192, 8202, 32, 8460, 8462, 104, 8464, 8465, 105, 8466, 8467, 108, 8476, 8477, 114, 8495,
     8496, 101, 8509, 8510, 947, 8517, 8518, 100, 63751, 63752, 40860, 64093, 64094, 33401, 64336,
     64337, 1649, 64338, 64341, 1659, 64342, 64345, 1662, 64346, 64349, 1664, 64350, 64353, 1658,
     64354, 64357, 1663, 64358, 64361, 1657, 64362, 64365, 1700, 64366, 64369, 1702, 64370, 64373,
     1668, 64374, 64377, 1667, 64378, 64381, 1670, 64382, 64385, 1671, 64386, 64387, 1677, 64388,
     64389, 1676, 64390, 64391, 1678, 64392, 64393, 1672, 64394, 64395, 1688, 64396, 64397, 1681,
     64398, 64401, 1705, 64402, 64405, 1711, 64406, 64409, 1715, 64410, 64413, 1713, 64414, 64415,
     1722, 64416, 64419, 1723, 64420, 64421, 1728, 64422, 64425, 1729, 64426, 64429, 1726, 64430,
     64431, 1746, 64432, 64433, 1747, 64467, 64470, 1709, 64471, 64472, 1735, 64473, 64474, 1734,
     64475, 64476, 1736, 64478, 64479, 1739, 64480, 64481, 1733, 64482, 64483, 1737, 64484, 64487,
     1744, 64488, 64489, 1609, 64508, 64511, 1740, 65075, 65076, 95, 65101, 65103, 95, 65162,
     65164, 1574, 65165, 65166, 1575, 65167, 65170, 1576, 65171, 65172, 1577, 65173, 65176, 1578,
     65177, 65180, 1579, 65181, 65184, 1580, 65185, 65188, 1581, 65189, 65192, 1582, 65193, 65194,
     1583, 65195, 65196, 1584, 65197, 65198, 1585, 65199, 65200, 1586, 65201, 65204, 1587, 65205,
     65208, 1588, 65209, 65212, 1589, 65213, 65216, 1590, 65217, 65220, 1591, 65221, 65224, 1592,
     65225, 65228, 1593, 65229, 65232, 1594, 65233, 65236, 1601, 65237, 65240, 1602, 65241, 65244,
     1603, 65245, 65248, 1604, 65249, 65252, 1605, 65253, 65256, 1606, 65257, 65260, 1607, 65261,
     65262, 1608, 65263, 65264, 1609, 65265, 65268, 1610, 120531, 120532, 963, 120589, 120590, 963,
     120647, 120648, 963, 120705, 120706, 963, 120763, 120764, 963, 120778, 120779, 989, 194609,
     194611, 21375, 194629, 194630, 21892, 194666, 194667, 23358, 194705, 194706, 140081, 194708,
     194709, 24354, 194860, 194861, 16056, 194909, 194910, 154279, 195070, 195071, 38923]

/-- The characters that stand for none. -/
def ignoredRanges : List CodeRange :=
  CodeRange.table
    [173, 173, 847, 847, 4447, 4448, 6068, 6069, 6155, 6159, 8203, 8203, 8288, 8292, 8298, 8303,
     12644, 12644, 65024, 65039, 65279, 65279, 65440, 65440, 113824, 113827, 119155, 119162,
     917760, 917999]

/-- The characters that are not allowed. -/
def disallowedRanges : List CodeRange :=
  CodeRange.table
    [128, 159, 888, 889, 896, 899, 907, 907, 909, 909, 930, 930, 1328, 1328, 1367, 1368, 1419,
     1420, 1424, 1424, 1480, 1487, 1515, 1518, 1525, 1541, 1564, 1564, 1757, 1757, 1806, 1807,
     1867, 1868, 1970, 1983, 2043, 2044, 2094, 2095, 2111, 2111, 2140, 2141, 2143, 2143, 2155,
     2159, 2192, 2198, 2274, 2274, 2436, 2436, 2445, 2446, 2449, 2450, 2473, 2473, 2481, 2481,
     2483, 2485, 2490, 2491, 2501, 2502, 2505, 2506, 2511, 2518, 2520, 2523, 2526, 2526, 2532,
     2533, 2559, 2560, 2564, 2564, 2571, 2574, 2577, 2578, 2601, 2601, 2609, 2609, 2612, 2612,
     2615, 2615, 2618, 2619, 2621, 2621, 2627, 2630, 2633, 2634, 2638, 2640, 2642, 2648, 2653,
     2653, 2655, 2661, 2679, 2688, 2692, 2692, 2702, 2702, 2706, 2706, 2729, 2729, 2737, 2737,
     2740, 2740, 2746, 2747, 2758, 2758, 2762, 2762, 2766, 2767, 2769, 2783, 2788, 2789, 2802,
     2808, 2816, 2816, 2820, 2820, 2829, 2830, 2833, 2834, 2857, 2857, 2865, 2865, 2868, 2868,
     2874, 2875, 2885, 2886, 2889, 2890, 2894, 2900, 2904, 2907, 2910, 2910, 2916, 2917, 2936,
     2945, 2948, 2948, 2955, 2957, 2961, 2961, 2966, 2968, 2971, 2971, 2973, 2973, 2976, 2978,
     2981, 2983, 2987, 2989, 3002, 3005, 3011, 3013, 3017, 3017, 3022, 3023, 3025, 3030, 3032,
     3045, 3067, 3071, 3085, 3085, 3089, 3089, 3113, 3113, 3130, 3131, 3141, 3141, 3145, 3145,
     3150, 3156, 3159, 3159, 3163, 3163, 3166, 3167, 3172, 3173, 3184, 3190, 3213, 3213, 3217,
     3217, 3241, 3241, 3252, 3252, 3258, 3259, 3269, 3269, 3273, 3273, 3278, 3284, 3287, 3291,
     3295, 3295, 3300, 3301, 3312, 3312, 3316, 3327, 3341, 3341, 3345, 3345, 3397, 3397, 3401,
     3401, 3408, 3411, 3428, 3429, 3456, 3456, 3460, 3460, 3479, 3481, 3506, 3506, 3516, 3516,
     3518, 3519, 3527, 3529, 3531, 3534, 3541, 3541, 3543, 3543, 3552, 3557, 3568, 3569, 3573,
     3584, 3643, 3646, 3676, 3712, 3715, 3715, 3717, 3717, 3723, 3723, 3748, 3748, 3750, 3750,
     3774, 3775, 3781, 3781, 3783, 3783, 3791, 3791, 3802, 3803, 3808, 3839, 3912, 3912, 3949,
     3952, 3992, 3992, 4029, 4029, 4045, 4045, 4059, 4095, 4294, 4294, 4296, 4300, 4302, 4303,
     4681, 4681, 4686, 4687, 4695, 4695, 4697, 4697, 4702, 4703, 4745, 4745, 4750, 4751, 4785,
     4785, 4790, 4791, 4799, 4799, 4801, 4801, 4806, 4807, 4823, 4823, 4881, 4881, 4886, 4887,
     4955, 4956, 4989, 4991, 5018, 5023, 5110, 5111, 5118, 5119, 5760, 5760, 5789, 5791, 5881,
     5887, 5910, 5918, 5943, 5951, 5972, 5983, 5997, 5997, 6001, 6001, 6004, 6015, 6110, 6111,
     6122, 6127, 6138, 6143, 6170, 6175, 6265, 6271, 6315, 6319, 6390, 6399, 6431, 6431, 6444,
     6447, 6460, 6463, 6465, 6467, 6510, 6511, 6517, 6527, 6572, 6575, 6602, 6607, 6619, 6621,
     6684, 6685, 6751, 6751, 6781, 6782, 6794, 6799, 6810, 6815, 6830, 6831, 6878, 6879, 6892,
     6911, 6989, 6989, 7156, 7163, 7224, 7226, 7242, 7244, 7307, 7311, 7355, 7356, 7368, 7375,
     7419, 7423, 7958, 7959, 7966, 7967, 8006, 8007, 8014, 8015, 8024, 8024, 8026, 8026, 8028,
     8028, 8030, 8030, 8062, 8063, 8117, 8117, 8133, 8133, 8148, 8149, 8156, 8156, 8176, 8177,
     8181, 8181, 8191, 8191, 8206, 8207, 8228, 8230, 8232, 8238, 8293, 8297, 8306, 8307, 8335,
     8335, 8349, 8351, 8386, 8399, 8433, 8447, 8588, 8591, 9258, 9279, 9291, 9311, 9352, 9371,
     11124, 11125, 11508, 11512, 11558, 11558, 11560, 11564, 11566, 11567, 11624, 11630, 11633,
     11646, 11671, 11679, 11687, 11687, 11695, 11695, 11703, 11703, 11711, 11711, 11719, 11719,
     11727, 11727, 11735, 11735, 11743, 11743, 11870, 11903, 11930, 11930, 12020, 12031, 12246,
     12287, 12352, 12352, 12439, 12440, 12544, 12548, 12592, 12592, 12687, 12687, 12774, 12783,
     12831, 12831, 13250, 13250, 13255, 13255, 13272, 13272, 42125, 42127, 42183, 42191, 42540,
     42559, 42744, 42751, 42973, 42992, 43053, 43055, 43066, 43071, 43128, 43135, 43206, 43213,
     43226, 43231, 43348, 43358, 43389, 43391, 43470, 43470, 43482, 43485, 43519, 43519, 43575,
     43583, 43598, 43599, 43610, 43611, 43715, 43738, 43767, 43776, 43783, 43784, 43791, 43792,
     43799, 43807, 43815, 43815, 43823, 43823, 43884, 43887, 44014, 44015, 44026, 44031, 55204,
     55215, 55239, 55242, 55292, 55295, 57344, 63743, 64110, 64111, 64218, 64255, 64263, 64274,
     64280, 64284, 64311, 64311, 64317, 64317, 64319, 64319, 64322, 64322, 64325, 64325, 64976,
     65007, 65042, 65042, 65049, 65055, 65072, 65072, 65106, 65107, 65127, 65127, 65132, 65135,
     65141, 65141, 65277, 65278, 65280, 65280, 65471, 65473, 65480, 65481, 65488, 65489, 65496,
     65497, 65501, 65503, 65511, 65511, 65519, 65535, 65548, 65548, 65575, 65575, 65595, 65595,
     65598, 65598, 65614, 65615, 65630, 65663, 65787, 65791, 65795, 65798, 65844, 65846, 65935,
     65935, 65949, 65951, 65953, 65999, 66046, 66175, 66205, 66207, 66257, 66271, 66300, 66303,
     66340, 66348, 66379, 66383, 66427, 66431, 66462, 66462, 66500, 66503, 66518, 66559, 66718,
     66719, 66730, 66735, 66772, 66775, 66812, 66815, 66856, 66863, 66916, 66926, 66939, 66939,
     66955, 66955, 66963, 66963, 66966, 66966, 66978, 66978, 66994, 66994, 67002, 67002, 67005,
     67007, 67060, 67071, 67383, 67391, 67414, 67423, 67432, 67455, 67462, 67462, 67505, 67505,
     67515, 67583, 67590, 67591, 67593, 67593, 67638, 67638, 67641, 67643, 67645, 67646, 67670,
     67670, 67743, 67750, 67760, 67807, 67827, 67827, 67830, 67834, 67868, 67870, 67898, 67902,
     67930, 67967, 68024, 68027, 68048, 68049, 68100, 68100, 68103, 68107, 68116, 68116, 68120,
     68120, 68150, 68151, 68155, 68158, 68169, 68175, 68185, 68191, 68256, 68287, 68327, 68330,
     68343, 68351, 68406, 68408, 68438, 68439, 68467, 68471, 68498, 68504, 68509, 68520, 68528,
     68607, 68681, 68735, 68787, 68799, 68851, 68857, 68904, 68911, 68922, 68927, 68966, 68968,
     68998, 69005, 69008, 69215, 69247, 69247, 69290, 69290, 69294, 69295, 69298, 69313, 69320,
     69327, 69337, 69369, 69416, 69423, 69466, 69487, 69514, 69551, 69580, 69599, 69623, 69631,
     69710, 69713, 69750, 69758, 69821, 69821, 69827, 69839, 69865, 69871, 69882, 69887, 69941,
     69941, 69960, 69967, 70007, 70015, 70112, 70112, 70133, 70143, 70162, 70162, 70210, 70271,
     70279, 70279, 70281, 70281, 70286, 70286, 70302, 70302, 70314, 70319, 70379, 70383, 70394,
     70399, 70404, 70404, 70413, 70414, 70417, 70418, 70441, 70441, 70449, 70449, 70452, 70452,
     70458, 70458, 70469, 70470, 70473, 70474, 70478, 70479, 70481, 70486, 70488, 70492, 70500,
     70501, 70509, 70511, 70517, 70527, 70538, 70538, 70540, 70541, 70543, 70543, 70582, 70582,
     70593, 70593, 70595, 70596, 70598, 70598, 70603, 70603, 70614, 70614, 70617, 70624, 70627,
     70655, 70748, 70748, 70754, 70783, 70856, 70863, 70874, 71039, 71094, 71095, 71134, 71167,
     71237, 71247, 71258, 71263, 71277, 71295, 71354, 71359, 71370, 71375, 71396, 71423, 71451,
     71452, 71468, 71471, 71495, 71679, 71740, 71839, 71923, 71934, 71943, 71944, 71946, 71947,
     71956, 71956, 71959, 71959, 71990, 71990, 71993, 71994, 72007, 72015, 72026, 72095, 72104,
     72105, 72152, 72153, 72165, 72191, 72264, 72271, 72355, 72367, 72441, 72447, 72458, 72543,
     72552, 72639, 72674, 72687, 72698, 72703, 72713, 72713, 72759, 72759, 72774, 72783, 72813,
     72815, 72848, 72849, 72872, 72872, 72887, 72959, 72967, 72967, 72970, 72970, 73015, 73017,
     73019, 73019, 73022, 73022, 73032, 73039, 73050, 73055, 73062, 73062, 73065, 73065, 73103,
     73103, 73106, 73106, 73113, 73119, 73130, 73135, 73180, 73183, 73194, 73439, 73465, 73471,
     73489, 73489, 73531, 73533, 73563, 73647, 73649, 73663, 73714, 73726, 74650, 74751, 74863,
     74863, 74869, 74879, 75076, 77711, 77811, 77823, 78896, 78911, 78934, 78943, 82939, 82943,
     83527, 90367, 90426, 92159, 92729, 92735, 92767, 92767, 92778, 92781, 92863, 92863, 92874,
     92879, 92910, 92911, 92918, 92927, 92998, 93007, 93018, 93018, 93026, 93026, 93048, 93052,
     93072, 93503, 93562, 93759, 93851, 93855, 93881, 93882, 93908, 93951, 94027, 94030, 94088,
     94094, 94112, 94175, 94181, 94191, 94199, 94207, 101590, 101630, 101663, 101759, 101875,
     110575, 110580, 110580, 110588, 110588, 110591, 110591, 110883, 110897, 110899, 110927,
     110931, 110932, 110934, 110947, 110952, 110959, 111356, 113663, 113771, 113775, 113789,
     113791, 113801, 113807, 113818, 113819, 113828, 117759, 118013, 118015, 118452, 118457,
     118481, 118495, 118513, 118527, 118574, 118575, 118599, 118607, 118724, 118783, 119030,
     119039, 119079, 119080, 119275, 119295, 119366, 119487, 119508, 119519, 119540, 119551,
     119639, 119647, 119673, 119807, 119893, 119893, 119965, 119965, 119968, 119969, 119971,
     119972, 119975, 119976, 119981, 119981, 119994, 119994, 119996, 119996, 120004, 120004,
     120070, 120070, 120075, 120076, 120085, 120085, 120093, 120093, 120122, 120122, 120127,
     120127, 120133, 120133, 120135, 120137, 120145, 120145, 120486, 120487, 120780, 120781,
     121484, 121498, 121504, 121504, 121520, 122623, 122655, 122660, 122667, 122879, 122887,
     122887, 122905, 122906, 122914, 122914, 122917, 122917, 122923, 122927, 122990, 123022,
     123024, 123135, 123181, 123183, 123198, 123199, 123210, 123213, 123216, 123535, 123567,
     123583, 123642, 123646, 123648, 124111, 124154, 124367, 124411, 124414, 124416, 124607,
     124639, 124639, 124662, 124669, 124672, 124895, 124903, 124903, 124908, 124908, 124911,
     124911, 124927, 124927, 125125, 125126, 125143, 125183, 125260, 125263, 125274, 125277,
     125280, 126064, 126133, 126208, 126270, 126463, 126468, 126468, 126496, 126496, 126499,
     126499, 126501, 126502, 126504, 126504, 126515, 126515, 126520, 126520, 126522, 126522,
     126524, 126529, 126531, 126534, 126536, 126536, 126538, 126538, 126540, 126540, 126544,
     126544, 126547, 126547, 126549, 126550, 126552, 126552, 126554, 126554, 126556, 126556,
     126558, 126558, 126560, 126560, 126563, 126563, 126565, 126566, 126571, 126571, 126579,
     126579, 126584, 126584, 126589, 126589, 126591, 126591, 126602, 126602, 126620, 126624,
     126628, 126628, 126634, 126634, 126652, 126703, 126706, 126975, 127020, 127023, 127124,
     127135, 127151, 127152, 127168, 127168, 127184, 127184, 127222, 127232, 127406, 127461,
     127491, 127503, 127548, 127551, 127561, 127567, 127570, 127583, 127590, 127743, 128729,
     128731, 128749, 128751, 128765, 128767, 128986, 128991, 129004, 129007, 129009, 129023,
     129036, 129039, 129096, 129103, 129114, 129119, 129160, 129167, 129198, 129199, 129212,
     129215, 129218, 129231, 129241, 129279, 129624, 129631, 129646, 129647, 129661, 129663,
     129675, 129677, 129735, 129735, 129737, 129740, 129757, 129758, 129771, 129774, 129785,
     129791, 129939, 129939, 130043, 131071, 173792, 173823, 178206, 178207, 183982, 183983,
     191457, 191471, 192094, 194559, 195102, 196607, 201547, 201551, 210042, 917759, 918000,
     1114111]

/-- The value of a code point in a table that is ascending by code points. -/
def lookup? {α : Type} : List (Nat × α) -> Nat -> Option α
  | [], _ => none
  | (key, value) :: later, code =>
      if key < code then lookup? later code else if key = code then some value else none

/-- The code points that a code point stands for if it does not stand for itself. -/
def replacement? (code : Nat) : Option (List Nat) :=
  match CodeRange.find? shiftedRuns code with
  | some (run, target) => some [target + (code - run.first)]
  | none =>
      match CodeRange.find? sharedRuns code with
      | some (_, target) => some [target]
      | none =>
          match alternatingRuns.find? fun run => run.first <= code && code <= run.last with
          | some run => if (code - run.first) % 2 = 0 then some [code + 1] else none
          | none =>
              match lookup? variants code with
              | some target => some [target]
              | none => lookup? sequences code

/-- The characters that a character stands for, none if it is not allowed. -/
def mapped? (character : Char) : Option (List Char) :=
  if CodeRange.covers disallowedRanges character.toNat then none
  else if CodeRange.covers ignoredRanges character.toNat then some []
  else
    match replacement? character.toNat with
    | some codes => some (codes.map Char.ofNat)
    | none => some [character]

/-- Whether a character stands for itself. -/
def standsForItself (character : Char) : Bool :=
  mapped? character = some [character]

end ContractAtlas.Web.Domain
