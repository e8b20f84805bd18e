/-!
Numbering plans of the telephone network.

Each calling code comes with the forms of its national numbers: fixed lines, mobile phones, calls
that are free or cost extra, and other services. In a form a point stands for a digit, and blanks
are there for the eye only.
-/

namespace PingPost.Phone

/-- The calling codes in use, each with the forms of its national numbers. -/
def plans : List (Nat × List String) := [
  (1, [
    "(274[27]|(472|983)[2-9])......|(2(0[1-35-9]|1[02-9]|2[03-57-9]|3[1459]|4[08]|5[1-46]|
      6[0279]|7[0269]|8[13])|3(0[1-57-9]|1[02-9]|2[013-79]|3[0-24679]|4[167]|5[0-3]|6[01349]|
      8[056])|4(0[124-9]|1[02-579]|2[3-5]|3[0245]|4[023578]|58|6[349]|7[0589]|8[04])|5(0[1-57-9]|
      1[0235-8]|20|3[0149]|4[01]|5[179]|6[1-47]|7[0-5]|8[0256])|6(0[1-35-9]|1[024-9]|2[03689]|
      3[016]|4[0156]|5[01679]|6[0-279]|78|8[0-269])|7(0[1-46-8]|1[2-9]|2[04-8]|3[0-2478]|4[0378]|
      5[47]|6[02359]|7[0-59]|8[156])|8(0[1-68]|1[02-8]|2[0168]|3[0-2589]|4[03578]|5[046-9]|
      6[02-5]|7[028])|9(0[1346-9]|1[02-9]|2[0589]|3[0146-8]|4[01357-9]|5[12469]|7[0-389]|
      8[04-69]))[2-9]......",
    "8(00|33|44|55|66|77|88)[2-9]......", "900[2-9]......",
    "52(3([2-46-9][02-9].|5([02-46-9].|5[0-46-9]))|4([2-478][02-9].|5([034].|2[024-9]|5[0-46-9])|
      6(0[1-9]|[2-9].)|9([05-9].|2[0-5]|49)))....|52[34][2-9]1[02-9]....|5(00|2[125-9]|33|44|66|
      77|88)[2-9]......",
    "(2(04|[23]6|[48]9|5[07]|63)|3(06|43|54|6[578]|82)|4(03|1[68]|[26]8|3[178]|50|74)|5(06|1[49]|
      48|79|8[147])|6(04|[18]3|39|47|72)|7(0[59]|42|53|78|8[02])|8([06]7|19|25|7[39])|9(0[25]|
      42))[2-9]......",
    "600[2-9]......", "310....",
    "268(4(6[0-38]|84)|56[0-2])....|268(464|7(1[3-9]|[28].|3[0246]|64|7[0-689]))....|
      26848[01]....|26840[69]....",
    "264(292|4(6[12]|9[78]))....|264(235|4(69|76)|5(3[6-9]|8[1-4])|7(29|72))....|264724....",
    "6846(22|33|44|55|77|88|9[19])....|684(2(48|5[2468]|7[26])|7(3[13]|70|82))....",
    "246521[0369]...|246(2(2[78]|7[0-4])|4(1[024-6]|2.|3[2-9])|5(20|[34].|54|7[1-3])|6(2.|38)|
      7[35]7|9(1[89]|63))....|246((2([3568].|4[0-57-9])|3(5[2-9]|6[0-6])|4(46|5.)|69[5-7]|
      8([2-5].|83)).|52(1[147]|20))...|246976....|24631.....|246(292|367|4(1[7-9]|3[01]|4[47-9]|
      67)|7(1[2-9]|2.|3[016]|53))....",
    "441([46]..|5(4.|60|89))....|441([2378].|5[0-39]|92).....",
    "242(3(02|[236][1-9]|4[0-24-9]|5[0-68]|7[347]|8[0-4]|9[2-467])|461|502|6(0[1-5]|12|2[013]|
      [45]0|7[67]|8[78]|9[89])|7(02|88))....|242(3(5[79]|7[56]|95)|4([23][1-9]|4[1-35-9]|5[1-8]|
      6[2-8]|7.|81)|5(2[45]|3[35]|44|5[1-46-9]|65|77)|6[34]6|7(27|38)|8(0[1-9]|1[02-9]|2.|3[0-4]|
      [89]9))....|242300....|242225....",
    "767(2(55|66)|4(2[01]|4[0-25-9])|50[0-4])....|767(2([2-4689]5|7[5-7])|31[5-7]|61[1-8]|
      70[1-6])....",
    "8[024]9[2-9]......",
    "473(2(3[0-2]|69)|3(2[89]|86)|4([06]8|3[5-9]|4[0-4679]|5[1-578]|73|90)|63[68]|7(58|84)|800|
      938)....|473(4(0[2-79]|1[04-9]|2[0-5]|49|5[689])|5(2[01]|3[3-8])|901)....",
    "671(2..|3(00|3[39]|4[349]|55|6[26])|4(00|56|7[1-9]|8[02-46-9])|5(55|6[2-5]|88)|6(3[2-578]|
      4[24-9]|5[34]|78|8[235-9])|7([0479]7|2[0167]|3[45]|8[7-9])|8([2-57-9]8|6[478])|9(2[29]|
      6[79]|7[1279]|8[7-9]|9[78]))....",
    "8766060...|(658(2([0-8].|9[0-46-9])|[3-9]..)|876(52[35]|6(0[1-3579]|1[0235-9]|[23].|40|
      5[06]|6[2-589]|7[0-25-9]|8[04]|9[4-9])|7(0[2-689]|[1-6].|8[056]|9[45])|9(0[1-8]|1[02378]|
      [2-8].|9[2-468])))....|(658295|876(2(0[1-9]|[13-9].|2[013-9])|[348]..|5(0[1-9]|[1-9].)|
      6(4[89]|6[67])|7(0[07]|7.|8[1-47-9]|9[0-36-9])|9([01]9|9[0579])))....",
    "869(2(29|36)|302|4(6[015-9]|70)|56[5-7])....|869(48[89]|55[6-8]|66.|76[02-7])....",
    "345(2(22|3[23]|44|66)|333|444|6(23|38|40)|7(30|4[35-79]|6[6-9]|77)|8(00|1[45]|4[89]|88)|
      9(14|4[035-9]))....|345(32[1-9]|42[0-4]|5(1[67]|2[5-79]|4[6-9]|50|76)|649|82[56]|9(1[679]|
      2[2-9]|3[06-9]|90))....|345976....",
    "758(234|4(30|5.|6[2-9]|8[0-2])|57[0-2]|(63|75)8)....|758(28[4-7]|384|4(6[01]|8[4-9])|
      5(1[89]|20|84)|7(1[2-9]|2.|3[0-3])|812)....",
    "670(2(3[3-7]|56|8[4-8])|32[1-38]|4(33|8[348])|5(32|55|88)|6(64|70|82)|78[3589]|8[3-9]8|
      989)....",
    "6644(1[0-3]|91)....|664(3(49|9[1-6])|49[2-6])....", "(787|939)[2-9]......",
    "7215(4[2-8]|8[239]|9[056])....|7215(1[02]|2.|5[034679]|8[014-8])....",
    "649(266|712|9(4.|50))....|649(2(3[129]|4[1-79])|3..|4[34][1-3])....|649(71[01]|966)....",
    "868(2(01|1[5-9]|[23].|4[0-2])|6(0[7-9]|1[02-8]|2[1-9]|[3-69].|7[0-79])|82[124])....|
      868((2[5-9]|3.).|4(3[0-6]|[6-9].)|6(20|78|8.)|7(0[1-9]|1[02-9]|[2-9].))....|868619....",
    "784(266|3(6[6-9]|7.|8[0-6])|4(38|5[0-36-8]|8[0-8])|5(55|7[0-2]|93)|638|784)....|
      784(4(3[0-5]|5[45]|89|9[0-8])|5(2[6-9]|3[0-4])|720)....",
    "284496[0-5]...|284(229|4(22|9[45])|774|8(52|6[459]))....|284496[6-9]...|284(245|3(0[0-3]|
      4[0-7]|68|9[34])|4(4[0-6]|68|99)|5(4[0-58]|68|9[69]))....",
    "340(2(0.|10|2[06-8]|4[49]|77)|3(32|44)|4(2[23]|44|7[34]|89)|5(1[34]|55)|6(2[56]|4[23]|77|
      9[023])|7(1[2-57-9]|2[57]|7.)|884|998)...."]),
  (7, [
    "336([013-9].|2[013-9]).....|(3(0[12]|4[1-35-79]|5[1-3]|65|8[1-58]|9[0145])|4(01|1[1356]|
      2[13467]|7[1-5]|8[1-7]|9[1-689])|8(1[1-8]|2[01]|3[13-6]|4[0-8]|5[15-7]|6[0-35-79]|
      7[1-37-9])).......",
    "9.........", "8(0[04]|108...).......", "80[39].......", "808.......",
    "(33622|7(1(0([23].|4[0-3]|59|63)|1([23].|4[0-79]|59)|2([23].|59)|3(2.|3[0-79]|4[0-35-9]|59)|
      4([24].|3[013-9]|5[1-9]|97)|5(2.|3[1-9]|4[0-7]|59)|6([2-4].|5[19]|61)|72.|8([27].|3[1-46-9]|
      4[0-5]|59))|2(1([23].|4[46-9]|5[3469])|2(2.|3[0679]|46|5[12679])|3([2-4].|5[139])|4(2.|
      3[1-35-9]|59)|5([23].|4[0-8]|59|61)|6(2.|3[1-9]|4[0-4]|59)|7([2379].|40|5[279])|8([23].|
      4[0-3]|59)|9(2.|3[124578]|59)))).....",
    "7(0[0-25-8]|47|6[0-4]|7[15-8]|85).......", "8(00|108...).......", "809.......", "751......."]),
  (20, [
    "13[23]......|(15|57).......?|(2.|3|4[05-8]|5[05]|6[24-689]|8[2468]|9[235-7]).......",
    "1[0-25]........", "800.......", "900......."]),
  (27, [
    "(2(0330|4302)|52087)0...|(1[0-8]|2[1-378]|3[1-69]|4.|5[1346-8]).......",
    "(1(3492[0-25]|4495[0235]|549(20|5[01]))|4[34]492[01])...|8[1-4]....?.?.?.?|(2[27]|47|
      54)4950...|(1(049[2-4]|9[12]..)|(50[0-2]|6..|7([0-46-9].|5[0-4]))..|8(5...|7(08[67]|158|
      28[5-9]|310)))....|(1[6-8]|28|3[2-69]|4[025689]|5[36-8])4920...|(12|[2-5]1)492....",
    "80.......", "(86[2-9]|9[0-2].)......", "860......",
    "87(08[0-589]|15[0-79]|28[0-4]|31[1-9])....|87([02][0-79]|1[0-46-9]|3[02-9]|[4-9].).....",
    "861......"]),
  (30, [
    "2(1..|2(2[1-46-9]|[36][1-8]|4[1-7]|5[1-4]|7[1-5]|[89][1-9])|3(1.|2[1-57]|[35][1-3]|4[13]|
      7[1-7]|8[124-6]|9[1-79])|4(1.|2[1-8]|3[1-4]|4[13-5]|6[1-578]|9[1-5])|5(1.|[29][1-4]|3[1-5]|
      4[124]|5[1-6])|6(1.|[269][1-6]|3[1245]|4[1-7]|5[13-9]|7[14]|8[1-5])|7(1.|2[1-5]|3[1-6]|
      4[1-7]|5[1-57]|6[135]|9[125-7])|8(1.|2[1-5]|[34][1-4]|9[1-57]))......",
    "68[57-9].......|(69|94)........", "800........?.?", "90[19].......", "70........",
    "8(0[16]|12|[27]5|50).......", "5005000..."]),
  (31, [
    "(1([035].|1[013-578]|6[124-8]|7[24]|8[0-467])|2([0346].|2[2-46-9]|5[125]|9[479])|3([03568].|
      1[3-8]|2[01]|4[1-8])|4([0356].|1[1-368]|7[58]|8[15-8]|9[23579])|5([0358].|[19][1-9]|
      2[1-57-9]|4[13-8]|6[126]|7[0-3578])|7..)......",
    "(6[1-58]|970.).......", "800.....?.?.?", "90[069].....?.?.?", "(85|91).......",
    "140(1[035]|2[0346]|3[03568]|4[0356]|5[0358]|8[458])|(140(1[16-8]|2[259]|3[124]|4[17-9]|
      5[124679]|7)|8[478]......).",
    "66......."]),
  (32, [
    "80[2-8].....|(1[0-69]|[23][2-8]|4[23]|5.|6[013-57-9]|71|8[1-79]|9[2-4])......",
    "4[5-9].......", "800[1-9]....", "(70(2[0-57]|3[04-7]|44|6[04569]|7[0579])|90..)....",
    "7879....", "78(0[57]|1[014-8]|2[25]|3[15-8]|48|[56]0|7[06-8]|9.)...."]),
  (33, [
    "(26[013-9]|59[1-35-9])......|([13].|2[0-57-9]|4[1-9]|5[0-8]).......",
    "(6([0-24-8].|3[0-8]|9[589])|7[3-9].)......", "80[0-5]......",
    "836(0[0-36-9]|[1-9].)....|8(1[2-9]|2[2-47-9]|3[0-57-9]|[569].|8[0-35-9])......",
    "8(1[01]|2[0156]|4[024]|84)......", "9........", "80[6-9]......"]),
  (34, [
    "96906(0[0-8]|1[1-9]|[2-9].)..|9(69(0[0-57-9]|[1-9].)|73([0-8].|9[1-9]))....|(8([1356].|
      [28][0-8]|[47][1-9])|9([135].|[268][0-8]|4[1-9]|7[124-9]))......",
    "96906(09|10)..|(590(10[0-2]|600)|97390.)...|(6.|7[1-48]).......", "[89]00......",
    "80[367]......", "70.......", "90[12]......", "51......."]),
  (36, [
    "(1.|[27][2-9]|3[2-57-9]|4[24-9]|5[2-79]|6[23689]|8[2-57-9]|9[2-69])......",
    "([257]0|3[01]).......", "([48]0.|680[29]).....", "9[01]......", "21.......", "38......."]),
  (39, [
    "0669[0-79]..?.?.?.?.?|0(1([0159].|[27][1-5]|31|4[1-4]|6[1356]|8[2-57])|2..|3([0159].|2[1-4]|
      3[12]|[48][1-6]|6[2-59]|7[1-7])|4([0159].|[23][1-9]|4[245]|6[1-5]|7[1-4]|81)|5([0159].|
      2[1-5]|3[2-6]|4[1-79]|6[4-6]|7[1-578]|8[3-8])|6([0-57-9].|6[0-8])|7([0159].|2[12]|3[1-7]|
      4[2-46]|6[13569]|7[13-6]|8[1-59])|8([0159].|2[3-578]|3[1-356]|[6-8][1-5])|9([0159].|
      [238][1-5]|4[12]|6[1-8]|7[1-6]))...?.?.?.?.?",
    "3[2-9]........?|(31|43)........", "80(0...|3)...",
    "(0878...|89(2.|3[04]|4([0-4]|[5-9]..)|5[0-4]))..|(1(44|6[346])|89(38|5[5-9]|9))......",
    "1(78.|99)......", "84([08]...|[17])...", "55........", "3[2-8]..........?",
    "06698..?.?.?.?.?"]),
  (40, [
    "[23][13-6].......|(2(19.|[3-6].9)|31..)..",
    "(630|702)0.....|(6(00|2.)|7(0[013-9]|1[0-3]|[2-7].|8[03-8]|9[0-39]))......", "800......",
    "90[0136]......", "801......", "(37.|80[578])......"]),
  (41, [
    "(2[12467]|3[1-4]|4[134]|5[256]|6[12]|[7-9]1).......", "(6[89]|7[235-9]).......", "800......",
    "90[016]......", "878......", "84[0248]......", "74[0248]......", "5[18].......",
    "860........."]),
  (43, [
    "1(11.|[2-9]....?.?.?.?.?.?.?.?)|(316|463)....?.?.?.?.?.?.?|648[34]....?.?.?.?.?.?|(51|66|
      73)2....?.?.?.?.?.?.?|(2(1[467]|2[13-8]|5[2357]|6[1-46-8]|7[1-8]|8[124-7]|9[1458])|
      3(1[1-578]|3[23568]|4[5-7]|5[1378]|6[1-38]|8[3-68])|4(2[1-8]|35|7[1368]|8[2457])|5(2[1-8]|
      3[357]|4[147]|5[12578]|6[37])|6(13|2[1-47]|4[135-8]|5[468])|7(2[1-8]|35|4[13478]|5[68]|
      6[16-8]|7[1-6]|9[45])).....?.?.?.?.?.?",
    "6(485|(5[0-3579]|6[013-9]|[7-9].).)....?.?.?.?.?.?", "800.......?.?.?.?",
    "(8[69][2-68]|9(0[01]|3[019])).......?.?.?.?", "8(10|2[018]).......?.?.?.?|828.....",
    "5(0[1-9]|17|[79].)...?.?.?.?.?.?.?.?|7[28]0.......?.?.?.?"]),
  (44, [
    "2(0[013478]|3[0189]|4[017]|8[0-46-9]|9[0-2]).......|1(1..|[2-9]1.|[2-9][02-9].).......?",
    "7(457[0-57-9]|700[01]|911[028]).....|7([1-3]..|4([0-46-9].|5[0-689])|5(0[0-8]|[13-9].|
      2[0-35-9])|7(0[1-9]|[1-7].|8[02-9]|9[0-689])|8([014-9].|[23][0-8])|9([024-9].|1[02-9]|
      3[0-689]))......",
    "80[08].......|800......|8001111", "(8(4[2-5]|7[0-3])|9([01].|8[2-49])).......|845464.",
    "70........", "56........", "(3[0347]|55)........",
    "76(464|652).....|76(0[0-28]|2[356]|34|4[01347]|5[49]|6[0-369]|77|8[14]|9[139])......",
    "7((781|839).|911[17]).....", "76245[06]....|7(4576|[59]24.|624[0-4689]).....",
    "7(((50|82)9|937).|7(00[378]|97.)).....", "980[01]......|98[01]......."]),
  (45, ["([2-7].|8[126-9]|9[1-46-9])......", "80......", "90......"]),
  (46, [
    "(([12][136]|3[356]|4[0246]|6[03]|8.).|90[1-9]).....?.?|(1(2[0-35]|4[0-4]|5[0-25-9]|7[13-6]|
      [89].)|2(2[0-7]|4[0136-8]|5[0138]|7[018]|8[01]|9[0-57])|3(0[0-4]|1.|2[0-25]|4[056]|7[0-2]|
      8[0-3]|9[023])|4(1[013-8]|3[0135]|5[14-79]|7[0-246-9]|8[0156]|9[0-689])|5(0[0-6]|[15][0-5]|
      2[0-68]|3[0-4]|4.|6[03-5]|7[013]|8[0-79]|9[01])|6(1[1-3]|2[0-4]|4[02-57]|5[0-37]|6[0-3]|
      7[0-2]|8[0247]|9[0-356])|9(1[0-68]|2.|3[02-5]|4[0-3]|5[0-4]|[68][01]|7[0135-8]))......?",
    "7[02369].......", "20.....?.?.?", "649......|99[1-59]....(...)?|9(00|39|44)[1-8]....?.?.?",
    "75[1-8]......", "77[0-7]......", "10[1-8]......", "74[02-9]......",
    "(25[245]|67[3-68])........."]),
  (47, [
    "(2[1-4]|3[1-3578]|5[1-35-7]|6[1-4679]|7[0-8])......", "(4[015-8]|9.)......", "80[01].....",
    "82[09].....", "880.....", "810(0[0-6]|[2-8].)...", "85[0-5].....",
    "(0[2-9]|81(0(0[7-9]|1.)|5..))...", "81[23].....", "79......"]),
  (48, [
    "47.......|(1[2-8]|2[2-69]|3[2-4]|4[1-468]|5[24-689]|6[1-3578]|7[14-7]|8[1-79]|
      9[145])([02-9]......|1([0-8].....|9...(..)?))",
    "2131[89].....|(45|5[0137]|6[069]|7[2389]|88).......", "800.......?", "70[01346-8]......",
    "801......", "39.......", "804......", "64.....?.?.?|26...."]),
  (49, [
    "32..........?.?|49[1-6]..........|322......|49[0-7]....?.?.?.?.?.?|([34]0|
      [68]9)....?.?.?.?.?.?.?.?.?.?|(2(0[1-689]|[1-3569].|4[0-8]|7[1-7]|8[0-7])|3([3569].|4[0-79]|
      7[1-7]|8[1-8])|4(1[02-9]|[2-48].|5[0-6]|6[0-8]|7[0-79])|5(0[2-8]|[124-6].|[38][0-8]|
      [79][0-7])|6(0[02-9]|[1-358].|[47][0-8]|6[1-9])|7(0[2-8]|1[1-9]|[27][0-7]|3.|[4-6][0-8]|
      8[0-5]|9[013-7])|8(0[2-9]|1[0-79]|2.|3[0-46-9]|4[0-6]|5[013-9]|6[1-8]|7[0-8]|8[0-24-6])|
      9(0[6-9]|[1-4].|[589][0-7]|6[0-8]|7[0-467]))....?.?.?.?.?.?.?.?.?",
    "1(5[0-25-9]........|6[023]........?|7.........?)", "800........?.?.?.?.?",
    "(137[7-9]|900([135]|9.))......", "700........", "180......?.?.?.?.?.?|13(7[1-6]..|8)....",
    "18(1......?.?.?.?.?.?|[2-9]........)", "16(4..?.?.?.?.?.?.?.?.?|[89]..?.?.?.?.?.?.?.?.?.?)"]),
  (51, [
    "(((4[34]|5[14])[0-8]|687).|7(173|(3[0-8]|55).)|8(10[05689]|6(0[06-9]|1[6-9]|29)|7(0[0569]|
      [56]0)))....|(1[0-8]|4[12]|5[236]|6[1-7]|7[246]|8[2-4])......",
    "9........", "800.....", "805.....", "80[24].....", "801....."]),
  (52, [
    "657[12]......|(2(0[01]|2.|3[1-35-8]|4[13-9]|7[1-689]|8[1-578]|9[467])|3(1[1-79]|[2458][1-9]|
      3.|7[1-8]|9[1-5])|4(1[1-57-9]|[267][1-9]|3[1-8]|[45].|8[1-35-9]|9[2-689])|5([56].|88|
      9[1-79])|6(1[2-68]|[2-4][1-9]|5[1-3689]|6[0-57-9]|7[1-7]|8[67]|9[4-8])|7([1346][1-9]|[27].|
      5[13-9]|8[1-69]|9[17])|8(1.|2[13-689]|3[1-6]|4[124-6]|6[1246-9]|7[0-378]|9[12479])|
      9(1[346-9]|2[1-4]|3[2-46-8]|5[1348]|[69].|7[12]|8[1-8])).......",
    "8(00|88).......", "900.......", "500.......", "300......."]),
  (53, [
    "(3[23]|4[89]).....?.?|(31|4[36]|8(0[25]|78).)......|(2[1-4]|4[1257]|7.)......?",
    "(5.|6[2-4])......", "800.......", "807......."]),
  (54, [
    "3888[013-9].....|3(7(1[15]|81)|8(21|4[16]|69|9[12]))[46].....|(29(54|66)|3(7(55|77)|
      865))[2-8].....|(2(2(2[59]|44|52)|3(26|44)|473|9([07]2|2[26]|34|46))|3327)[45].....|(2(284|
      302|657|920)|3(4(8[27]|92)|541|755|878))[2-7].....|(2((26|62)2|32[03]|477|9(42|83))|3(329|
      4([47]6|62|89)|564))[2-6].....|((11[1-8]|670).|2(2(0[45]|1[2-6]|3[3-6])|3([06]4|7[45])|494|
      6(04|1[2-8]|[36][45]|4[3-6])|80[45]|9([17][4-6]|[48][45]|9[3-6]))|3(364|4(1[2-8]|[25][4-6]|
      3[3-6]|84)|5(1[2-9]|[38][4-6])|6(2[45]|44)|7[069][45]|8(0[45]|1[2-7]|3[4-6]|5[3-6]|7[2-6]|
      8[3-68])))......|2(2(21|4[23]|6[145]|7[1-4]|8[356]|9[267])|3(16|3[13-8]|43|5[346-8]|9[3-5])|
      475|6(2[46]|4[78]|5[1568])|9(03|2[1457-9]|3[1356]|4[08]|[56][23]|82))4.....|(2(2(57|81)|
      3(24|46|92)|9(01|23|64))|3(4(42|71)|5(25|37|4[347]|71)|7(18|5[17])))[3-6].....|(2(2(02|
      2[3467]|4[156]|5[45]|6[6-8]|91)|3(1[47]|25|[45][25]|96)|47[48]|625|932)|3(38[2578]|
      4(0[0-24-9]|3[78]|4[457]|58|6[03-9]|72|83|9[136-8])|5(2[124]|[368][23]|4[2689]|7[2-6])|7(16|
      2[15]|3[145]|4[13]|5[468]|7[2-5]|8[26])|8(2[5-7]|3[278]|4[3-5]|5[78]|6[1-378]|[78]7|
      94)))[4-6].....",
    "93(7(1[15]|81)[46]|8((21|4[16]|69|9[12])[46]|88[013-9])).....|9(29(54|66)|3(7(55|77)|
      865))[2-8].....|9(11[1-8].|2(2(0[45]|1[2-6]|3[3-6])|3([06]4|7[45])|494|6(04|1[2-8]|[36][45]|
      4[3-6])|80[45]|9([17][4-6]|[48][45]|9[3-6]))|3(364|4(1[2-8]|[25][4-6]|3[3-6]|84)|5(1[2-9]|
      [38][4-6])|6(2[45]|44)|7[069][45]|8(0[45]|1[2-7]|3[4-6]|5[3-6]|7[2-6]|8[3-68])))......|
      9(2(284|302|657|920)|3(4(8[27]|92)|541|755|878))[2-7].....|92(2(21|4[23]|6[145]|7[1-4]|
      8[356]|9[267])|3(16|3[13-8]|43|5[346-8]|9[3-5])|475|6(2[46]|4[78]|5[1568])|9(03|2[1457-9]|
      3[1356]|4[08]|[56][23]|82))4.....",
    "800........?", "60[04579].......", "810......."]),
  (55, [
    "([14689][1-9]|2[12478]|3[1-578]|5[13-5]|7[13-579])[2-5].......",
    "([14689][1-9]|2[12478]|3[1-578]|5[13-5]|7[13-579])(7|9.).......", "800.......?",
    "300......|[59]00.......?", "(30[03]...|4(0(0.|20)|370|864))....|300....."]),
  (56, [
    "2(1982[0-6]|3314[05-9])...|(2(1(160|962)|3(2..|3([03467].|1[0-35-9]|2[1-9]|5[0-24-9]|
      8[0-3])|600)|646[59])|80[1-9]..|9(3([0-57-9]..|6(0[02-9]|[1-9].))|6([0-8]..|9([02-79].|
      1[05-9]))|7[1-9]..|9([03-9]..|1([0235-9].|4[0-24-9])|2([0-79].|8[0-46-9]))))....|(22|3[2-5]|
      [47][1-35]|5[1-3578]|6[13-57]|8[1-9]|9[2458]).......",
    "(123|8)00......", "600........?", "44......."]),
  (57, [
    "601055([0-4].|50)..|6010([0-4].|5[0-4])....|(46|60([124-7][2-9]|8[1-9]))......|
      (60([124-7][2-9]|8[1-9]))......",
    "333301[0-5]...|3333(00|2[5-9]|[3-9].)....|(3((0[0-5]|1.|5[01]|70).|2([0-3].|4[1-9])|3(00|
      3[0-24-9]))|9(101|408))......",
    "1800.......", "(19(0[01]|4[78])|901)......."]),
  (58, [
    "(2(12|3[457-9]|[467].|[58][1-9]|9[1-6])|[4-6]00).......", "4(1[24-8]|2[246]).......",
    "800.......", "90[01].......", "501......."]),
  (60, [
    "4270....|(3(2[0-36-9]|3[0-368]|4[0-278]|5[0-24-8]|6[0-467]|7[1246-9]|8.|9[0-57]).|
      4(2[0-689]|[3-79].|8[1-35689])|5(2[0-589]|[3468].|5[0-489]|7[1-9]|9[23])|6(2[2-9]|3[1357-9]|
      [46].|5[0-6]|7[0-35-9]|85|9[015-8])|7([2579].|3[03-68]|4[0-8]|6[5-9]|8[0-35-9])|8([24][2-8]|
      3[2-5]|5[2-7]|6[2-589]|7[2-578]|[89][2-9])|9(0[57]|13|[25-7].|[3489][0-8])).....",
    "1(1888[689]|4400|8(47|8[27])[0-4])....|1(0([23568].|4[0-6]|7[016-9]|9[0-8])|1([1-5]..|
      6(0[5-9]|[1-9].)|7([0-4].|5[0-7]))|([269].|[37][1-9]|4[235-9]).|5(31|9..)|8(1[23]|[236].|
      4[06]|5(46|[7-9])|7[016-9]|8[01]|9[0-8])).....",
    "1[378]00......", "1600......"]),
  (61, [
    "((2(([0-26-9].|3[0-8]|5[0135-9]).|4([02-9].|10))|3(([0-3589].|6[1-9]|7[0-35-9]).|4([0-578].|
      90))|7([013-57-9].|2[0-8]).)..|8(51(0(0[03-9]|[12479].|3[2-9]|5[0-8]|6[1-9]|8[0-7])|
      1([0235689].|1[0-69]|4[0-589]|7[0-47-9])|2(0[0-79]|[18][13579]|2[14-9]|3[0-46-9]|[4-6].|
      7[89]|9[0-4])|[34]..)|(6[0-8]|[78].)...|9([02-9]...|1(([0-58].|6[0135-9]).|7(0[0-24-9]|
      [1-9].)|9([0-46-9].|5[0-79])))))...",
    "4(79[01]|83[0-36-9]|95[0-3]).....|4([0-36].|4[047-9]|[58][0-24-9]|7[02-8]|9[0-47-9])......",
    "180(0...|2)...", "190[0-26]......", "13(00......(..)?|45[0-4]...)|13....", "163...?.?.?.?",
    "8(51(0(02|31|60|89)|1(18|76)|223)|91(0(1[0-2]|29)|1([28]2|50|79)|2(10|64)|3([06]8|22)|
      4[29]8|62.|70[23]|959))...",
    "8(51(0(01|30|59|88)|1(17|46|75)|2(22|35))|91(00[6-9]|1([28]1|49|78)|2(09|63)|3(12|26|75)|
      4(56|97)|64.|7(0[01]|1[0-2])|958))...",
    "14(5(1[0458]|[23][458])|71.)...."]),
  (62, [
    "2[124]........?|619........|2(1(14|500)|2...)...|61......?.?.?|(2([35][1-4]|6[0-8]|7[1-6]|
      8.|9[1-8])|3(1|[25][1-8]|3[1-68]|4[1-3]|6[1-3568]|7[0-469]|8.)|4(0[1-589]|1[01347-9]|
      2[0-36-8]|3[0-24-68]|43|5[1-378]|6[1-5]|7[134]|8[1245])|5(1[1-35-9]|2[25-8]|3[124-9]|
      4[1-3589]|5[1-46]|6[1-8])|6([25].|3[1-69]|4[1-6])|7(02|[125][1-9]|[36].|4[1-8]|7[0-36-9])|
      9(0[12]|1[013-8]|2[0-479]|5[125-8]|6[23679]|7[159]|8[01346]))......?.?.?",
    "8[1-35-9]........?.?.?", "00[17]803.......|(177.|800)......?.?|001803......", "809.......",
    "804.......", "(1500|8071...)..."]),
  (63, [
    "((2[3-8]|3[2-68]|4[2-9]|5[2-6]|6[2-58]|7[24578])...|88(22..|42))....|(2|8[2-8]..).....",
    "(8(1[37]|9[5-8])|9(0[5-9]|1[0-24-9]|[235-7].|4[2-9]|8[135-9]|9[1-9])).......",
    "1800........?.?"]),
  (64, [
    "240.....|(3[2-79]|[49][2-9]|6[235-9]|7[2-57-9])......",
    "2([0-27-9].|6).......?|2(1.|75).....", "508.......?|80.......?.?",
    "(1[13-57-9].....|50(0[08]|30|66|77|88))...|90.......?.?", "70.......",
    "8(1[16-9]|22|3.|4[045]|5[459]|6[235-9]|7[0-3579]|90)...?.?.?.?.?"]),
  (65, [
    "662[0-24-9]....|6([0-578].|6[013-57-9]|9[0-35-9]).....",
    "896[0-4]....|(8(0[1-9]|[1-8].|9[0-5])|9[0-8].).....", "(18|8)00.......", "1900.......",
    "(3[12].|666).....", "7000......."]),
  (66, [
    "(1[0689]|2.|3[2-9]|4[2-5]|5[2-6]|7[3-7])......",
    "67(1[0-8]|2[4-7]).....|(14|6[1-6]|[89].).......", "(001800.|1800)......", "1900......",
    "6[08]......."]),
  (81, [
    "(1(1[235-8]|2[3-6]|3[3-9]|4[2-6]|[58][2-8]|6[2-7]|7[2-9]|9[1-9])|(2[2-9]|[36][1-9]).|
      4([2-578].|6[02-8]|9[2-59])|5([2-589].|6[1-9]|7[2-8])|7([25-9].|3[4-9]|4[02-9])|8([2679].|
      3[2-9]|4[5-9]|5[1-9]|8[03-9])|9([2-58].|[679][1-9]))......",
    "(601[0-4]0|[7-9]0[1-9]..).....",
    "00777([01]|5.)..|(00(7778|882[1245])|(120|800.)..)....|00(37|66|78).......?.?.?.?.?.?.?",
    "990......", "60.......", "50[1-9].......", "570......", "20........"]),
  (82, [
    "(2|3[1-3]|[46][1-4]|5[1-5])[1-9].......?|(3[1-3]|[46][1-4]|5[1-5])1...?",
    "1(05([0-8].|9[0-6])|22[13].).....?|1(0[0-46-9]|[16-9].|2[013-9]).......?",
    "00(308.......?|798........?.?)|(00368|[38]0).......", "60[2-9]......", "50.........?",
    "70........", "1(5(22|33|44|66|77|88|99)|6([07]0|44|6[168]|88)|8(00|33|55|77|99))....",
    "15........?"]),
  (84, [
    "2(0[3-9]|1[0-689]|2[0-25-9]|[38][2-9]|4[2-8]|5[124-9]|6[0-39]|7[0-7]|9[0-4679]).......",
    "(5(2[238]|59)|89[6-9]|99[013-9])......|(3.|5[1689]|7[06-9]|8[1-8]|9[0-8]).......",
    "1800.....?.?|12(0[13]|28)....", "1900.....?.?", "672......", "([17]99|80.)....|69......?"]),
  (86, [
    "(10([02-79]..|[18](0[1-9]|[1-9].))|21([18](0[1-9]|[1-9].)|[2-79]..)).....|(43[35]|
      754)........?|8(078.......|51........?)|(10|(2|85)1|43[35]|754)(100..|95....?)|(2[02-57-9]|
      3(11|7[179])|4([15]1|3[12])|5(1.|2[37]|3[12]|51|7[13-79]|9[15])|7([39]1|5[57]|6[09])|8(71|
      98))([02-8].......|1(0(0..(...)?|[1-9].....)|[1-9]......)|9([0-46-9]......|5...(.(..)?)?))|
      (3(1[02-9]|35|49|5.|7[02-68]|9[1-68])|4(1[02-9]|2[179]|3[46-9]|5[2-9]|6[47-9]|7.|8[23])|
      5(3[03-9]|4[36]|5[02-9]|6[1-46]|7[028]|80|9[2-46-9])|6(3[1-5]|6[0238]|9[12])|7(01|[17].|
      2[248]|3[04-9]|4[3-6]|5[0-3689]|6[2368]|9[02-9])|8(1[236-8]|2[5-7]|3.|5[2-9]|7[02-9]|
      8[36-8]|9[1-7])|9(0[1-3689]|1[1-79]|3.|4[13]|5[1-5]|7[0-79]|9[0-35-9]))([02-8]......|
      1(0(0..(..)?|[1-9]....)|[1-9].....)|9([0-46-9].....|5....?.?))",
    "1740[0-5]......|1([38].|4[57]|[59][0-35-9]|6[25-7]|7[0-35-8])........",
    "((10|21)8|8)00.......", "16[08].....",
    "10(10....|96....?)|400.......|950........?|(2[0-57-9]|3([157].|35|49|9[1-68])|4(1[124-9]|
      2[179]|[35][1-9]|6[47-9]|7.|8[23])|5([1357].|2[37]|4[36]|6[1-46]|80|9[1-9])|6(3[1-5]|
      6[0238]|9[12])|7(01|[1579].|2[248]|3[014-9]|4[3-6]|6[023689])|8(1[236-8]|2[5-7]|[37].|
      5[14-9]|8[36-8]|9[1-8])|9(0[1-3689]|1[1-79]|[379].|4[13]|5[1-5]))96....?"]),
  (90, [
    "(2([13][26]|[28][2468]|[45][268]|[67][246])|3([13][28]|[24-6][2468]|[78][02468]|92)|
      4([16][246]|[23578][2468]|4[26])).......",
    "561(011|61.)....|5(0[15-7]|1[06]|24|[34].|5[1-59]|9[46]).......",
    "8(00.......(...?)?|11.......)", "(8[89]8|900).......", "592(21[12]|461)....", "850.......",
    "444....", "512......."]),
  (91, [
    "2717([2-7].|95)....|(271[0-689]|782[0-6])[2-7].....|(170[24]|2(([02][2-79]|90).|80[13468])|
      (3(23|80)|683|79[1-7]).|4(20[24]|72[2-8])|552[1-7])......|(11|33|4[04]|80)[2-7].......|(342|
      674|788)([0189][2-7]|[2-7].).....|(1(2[0-249]|3[0-25]|4[145]|[59][14]|6[014]|7[1257]|
      8[01346])|2(1[257]|3[013]|4[01]|5[0137]|6[0158]|78|8[1568]|9[14])|3(26|4[13]|5[34]|6[01489]|
      7[02-46]|8[159])|4(1[36]|2[1-47]|3[15]|5[12]|6[0-26-9]|7[014-9]|8[013-57]|9[014-7])|
      5(1[025]|22|[36][25]|4[28]|[578]1|9[15])|6(12|[2-47]1|5[17]|6[13]|80)|7(12|2[14]|3[134]|
      4[47]|5[15]|[67]1)|8(16|2[014]|3[126]|6[136]|7[078]|8[34]|91))[2-7]......|(1(2[35-8]|
      3[346-9]|4[236-9]|[59][0235-9]|6[235-9]|7[34689]|8[257-9])|2(1[134689]|3[24-8]|4[2-8]|
      5[25689]|6[2-4679]|7[3-79]|8[2-479]|9[235-9])|3(01|1[79]|2[1245]|4[5-8]|5[125689]|6[235-7]|
      7[157-9]|8[2-46-8])|4(1[14578]|2[5689]|3[2-467]|5[4-7]|6[35]|73|8[2689]|9[2389])|
      5([16][146-9]|2[14-8]|3[1346]|4[14-69]|5[46]|7[2-4]|8[2-8]|9[246])|6(1[1358]|2[2457]|3[2-4]|
      4[235-7]|5[2-689]|6[24578]|7[235689]|8[124-6])|7(1[013-9]|2[0235-9]|3[2679]|4[1-35689]|
      5[2-46-9]|[67][02-9]|8[013-7]|9[089])|8(1[1357-9]|2[235-8]|3[03-57-9]|4[0-24-9]|5.|
      6[2457-9]|7[1-6]|8[1256]|9[2-4])).[2-7].....",
    "(61279|7(887[02-9]|9(313|79[07-9]))|8(079[04-9]|(84|91)7[02-8])).....|(6(12|[2-47]1|5[17]|
      6[13]|80)[0189]|7(1(2[0189]|9[0-5])|2([14][017-9]|8[0-59])|3(2[5-8]|[34][017-9]|9[016-9])|
      4(1[015-9]|[29][89]|39|8[389])|5([15][017-9]|2[04-9]|9[7-9])|6(0[0-47]|1[0-257-9]|2[0-4]|
      3[19]|5[4589])|70[0289]|88[089]|97[02-8])|8(0(6[67]|7[02-8])|70[017-9]|84[01489]|
      91[0-289]))......|(7(31|4[47])|8(16|2[014]|3[126]|6[136]|7[78]|83))([0189].|7[02-8]).....|
      (6([09].|1[04679]|2[03689]|3[05-9]|4[0489]|50|6[069]|7[07]|8[7-9])|7(0.|2[0235-79]|3[05-8]|
      40|5[0346-8]|6[6-9]|7[1-9]|8[0-79]|9[089])|8(0[01589]|1[0-57-9]|2[235-9]|3[03-57-9]|[45].|
      6[02457-9]|7[1-69]|8[0-25-9]|9[02-9])|9..).......|(6((1[1358]|2[2457]|3[2-4]|4[235-7]|
      5[2-689]|6[24578]|8[124-6]).|7([235689].|4[0189]))|7(1([013-8].|9[6-9])|28[6-8]|3(2[0-49]|
      9[2-5])|4(1[2-4]|[29][0-7]|3[0-8]|[56].|8[0-24-7])|5(2[1-3]|9[0-6])|6(0[5689]|2[5-9]|
      3[02-8]|4.|5[0-367])|70[13-7]|881))[0189].....",
    "000800.......|1(600......|80(0.....?.?.?.?.?|3.........))", "186[12].........", "1860......."]),
  (92, [
    "((21|42)[2-9]|58[126]).......|(2[25]|4[0146-9]|5[1-35-7]|6[1-8]|7[14]|8[16]|91)[2-9]......|
      (2(3[2358]|4[2-4]|9[2-8])|45[3479]|54[2-467]|60[468]|72[236]|8(2[2-689]|3[23578]|4[3478]|
      5[2356])|9(2[2-8]|3[27-9]|4[2-6]|6[3569]|9[25-8]))[2-9]......?",
    "3([0-247].|3[0-79]|55|64).......", "800.....(...)?", "900.....", "122......",
    "(2([125]|3[2358]|4[2-4]|9[2-8])|4([0-246-9]|5[3479])|5([1-35-7]|4[2-467])|6(0[468]|[1-8])|
      7([14]|2[236])|8([16]|2[2-689]|3[23578]|4[3478]|5[2356])|9(1|22|3[27-9]|4[2-6]|6[3569]|
      9[2-7]))111......"]),
  (93, ["([25][0-8]|[34][0-4]|6[0-5])[2-9]......", "7........"]),
  (94, [
    "(12[2-9]|602|8[12].|9(1.|22|9[245]))......|(11|2[13-7]|3[1-8]|4[157]|5[12457]|
      6[35-7])[2-57]......",
    "7([0-25-8].|4[0-4])......", "1973....."]),
  (95, [
    "(1((12|[28].|3[56]|7[3-6]|9[0-6]).|4(2[29]|7[0-2]|83)|6)|2(2(00|8[34])|4(0.|22|7[0-2]|83)|
      51..)|4(2(2..|48[013])|3(20.|4(70|83)|56)|420.|5(2.|470))|6(0([23]|88.)|(124|[56]2.).|2472|
      3(20.|470)|4(2[04].|472)|7(3..|4[67]0|8([01459].|8))))....|5(2(2......?|47[02]....)|(3472|
      4(2(1|86)|470)|522.|6(20.|483)|7(20.|48[01])|8(20.|47[02])|9(20.|470))....)|7((0470|4(25.|
      470)|5(202|470|96.))....|1(20.....?|4(70|83)....))|8(1(2......?|4(10|7[01].)...)|2(2......?|
      (320|490.)...)|(3(2..|470)|4[24-7]|5((2.|51).|4([1-35-9].|4[0-57-9]))|6[23])....)|(1[2-6].|
      4(2[24-8]|3[2-7]|[46][2-6]|5[3-5])|5([27][2-8]|3[2-68]|4[24-8]|5[23]|6[2-4]|8[24-7]|9[2-7])|
      6([19]20|42[03-6]|(52|7[45]).)|7([04][24-8]|[15][2-7]|22|3[2-4])|8(1[2-689]|2[2-8]|
      [35]2.))....|25......?|(2[2-9]|6(1[2356]|[24][2-6]|3[24-6]|5[2-4]|6[2-8]|7[235-7]|8[245]|
      9[24])|8(3[24]|5[245]))....",
    "(17[01]|9(2([0-4]|[56]..)|(3([0-36]|4.)|(6.|8[89]|9[4-8]).|7(3|40|[5-9].)).|4(([0245].|
      [1379]).|88)|5[0-6]).)....|9[69]1......|9([68].|9[089]).....",
    "80080(0[1-9]|2.)...", "1333...."]),
  (98, [
    "(1[137]|2[13-68]|3[1458]|4[145]|5[1468]|6[16]|7[1467]|8[13467])([03-57].......|
      [16]...(....)?|[289]...(.(...)?)?)|94(000[09]|(12.|30[0-2]).|2(121|[2689]0.)|4(111|40.))....",
    "9((0([0-35].|4[4-6])|([13].|2[0-3]).).|9([0-46]..|5[15]0|8([12].|88)|9(0[0-3]|[19].|21|69|
      77|8[7-9]))).....",
    "96(0[12]|2[16-8]|3(08|[14]5|[23]|66)|4(0|80)|5[01]|6[89]|86|9[19])", "993......."]),
  (211, ["1[89].......", "(12|9[1257-9])......."]),
  (212, [
    "5(2([0-25-79].|3[1-578]|4[02-46-8]|8[0235-7])|3([0-47].|5[02-9]|6[02-8]|8[014-9]|9[3-9])|
      (4[067]|5[03]).).....",
    "(6([0-79].|8[0-247-9])|7([0167].|2[0-4]|5[01]|8[0-3]))......", "80[0-7]......", "89.......",
    "(592(4[0-2]|93)|80[89]..)....", "528[89]....."]),
  (213, [
    "9619.....|(1.|2[013-79]|3[0-8]|4[013-689])......",
    "(5(4[0-29]|5.|6[0-3])|6([569].|7[0-6])|7[7-9].)......", "800......", "80[3-689]1.....",
    "80[12]1.....", "98[23]......"]),
  (216, [
    "81200...|(3[0-2]|7.)......", "3(001|[12]40)....|(([259].|4[0-8]).|3(1[1-35]|6[0-4]|91)).....",
    "8010....", "88......", "8[12]10...."]),
  (218, [
    "(2(0[56]|[1-6].|7[124579]|8[124])|3(1.|2[2356])|4([17].|2[1-357]|5[2-4]|8[124])|5([1347].|
      2[1-469]|5[13-5]|8[1-4])|6([1-479].|5[2-57]|8[1-5])|7([13].|2[13-79])|8([124].|5[124]|
      84))......",
    "9[1-6]......."]),
  (220, [
    "(4([23]..|4(1[024679]|[6-9].))|5(5(3.|4[0-7])|6[67].|7(1[04]|2[035]|3[58]|48))|8...)...",
    "([23679].|5[0-489]).....|556...."]),
  (221, [
    "3(0(1[0-2]|80)|282|3(8[1-9]|9[3-9])|611).....",
    "7(([06-8].|[19]0|21).|5(0[01]|[19]0|2[25]|3[36]|[4-7].|8[35])).....", "800......",
    "88[4689]......", "81[02468]......", "(3(392|9[01].).|93(3[13]0|929))...."]),
  (222, ["(25[08]|35.|45[1-7]).....", "[2-4][0-46-9]......", "800....."]),
  (223, [
    "2(07[0-8]|12[67])....|(2(02|1[4-689])|4(0[0-4]|4[1-59])).....",
    "2(0(01|79)|17.)....|(5[0-3]|[679].|8[2-59])......", "80......"]),
  (224, [
    "3(0(24|3[12]|4[1-35-7]|5[13]|6[189]|[78]1|9[1478])|1..)....", "6[0-356].......", "722......"]),
  (225, [
    "2([15]...|7(2(0[23]|1[2357]|2[245]|3[45]|4[3-5])|3(06|1[69]|[2-6]7))).....", "0[157]........"]),
  (226, [
    "2(0(49|5[23]|6[5-7]|9[016-9])|4(4[569]|5[4-6]|6[5-7]|7[0179])|5([34].|50|6[5-7]))....",
    "(0[1-7]|4[4-6]|5[0-8]|[67].)......"]),
  (227, [
    "2(0(20|3[1-8]|4[13-5]|5[14]|6[14578]|7[1-578])|1(4[145]|5[14]|6[14-68]|7[169]|88))....",
    "(23|7[047]|[89].)......", "08......", "09......"]),
  (228, ["2(2[2-7]|3[23]|4[45]|55|6[67]|77).....", "(7[0-29]|9[0-36-9])......"]),
  (229, [
    "2090....|(012..|2(02|1[037]|2[45]|3[68]|4.)).....",
    "(01(2[5-9]|[4-69].)|4[0-8]|[56].|9[013-9])......", "857[58]....", "81......"]),
  (230, [
    "(2([0346-8].|1[0-7])|4([013568].|2[4-8]|71|90)|54([3-5].|71)|6..|8(14|3[129]))....",
    "5(4(2[1-389]|7[1-9])|87[15-8])....|(5(2[5-9]|4[3-689]|[57].|8[0-689]|9[0-8])|7(0[0-6]|
      3[013])).....",
    "802.......|80[0-2]....", "30.....", "3(20|9.)....", "219...."]),
  (231, [
    "2.......", "(((22|33)0|555|(77|88).).|4(240|[67])).....|[56]......", "332(02|[34].)...."]),
  (232, ["22[2-4][2-9]....", "(25|3[0-5]|66|7[2-9]|8[08]|9[09])......"]),
  (233, [
    "3082[0-5]....|3(0([237].|8[01])|[167](2[0-6]|7.|80)|2(2[0-5]|7.|80)|3(2[0-3]|7.|80)|
      4(2[013-9]|3[01]|7.|80)|5(2[0-7]|7.|80)|8(2[0-2]|7.|80)|9([28]0|7.)).....",
    "(2([0346-9].|5[67])|5([03-7].|9[1-9]))......", "800....."]),
  (234, [
    "(([1-356].|4[02-8]|8[2-9]).|9(0[3-9]|[1-9].)).....|7(0([013-689].|2[0-24-9])....?|
      [1-79]......)|([12].|4[147]|5[14579]|6[1578]|7[1-3578]).....|20([1259].|3[013-9]|4[1-8]|
      5[024-689]|6[024-689]|7[1-79]|8[2-9])......",
    "(702[0-24-9]|819[01])......|(7(0[13-9]|[12].)|8(0[1-9]|1[0-8])|9(0[1-9]|1[1-6])).......",
    "800........?.?.?.?", "700........?.?.?.?"]),
  (235, ["22([37-9]0|5[0-5]|6[89])....", "(30|[69].|77|8[56])......"]),
  (236, ["2[12]......", "7[024-7]......", "8776...."]),
  (237, ["2(22|33)......", "(24[23]|6([25-9].|40))......", "88.......?"]),
  (238, [
    "2(2[1-7]|3[0-8]|4[12]|5[1256]|6.|7[1-3]|8[1-5])....", "(36|5[1-389]|9.).....", "800....",
    "(3[3-5]|4[356])....."]),
  (239, ["22.....", "900[5-9]...|9(0[1-9]|[89].)...."]),
  (240, [
    "33[0-24-9].[46]....|3(33|5.).[7-9]....", "(222|55.)......", "80.[1-9].....", "90.[1-9]....."]),
  (241, ["[01]1......", "((0[2-7]|7[467]).|6(0[0-4]|10|[256].)).....|[2-7]......"]),
  (242, [
    "222[1-589].....", "026(1[0-5]|6[6-9])....|0([14-6]..|2(40|5[5-8]|6[07-9])).....",
    "80[0-2]......"]),
  (243, ["((12|573)..|276).....|[1-6]......", "88.....|(8[0-69]|9[017-9])......."]),
  (244, ["2.([0134][25-9]|[25-9].).....", "9[1-79]......."]),
  (245, ["443......", "9(5.|6[569]|77)......", "40....."]),
  (246, ["37.....", "38....."]),
  (247, ["6[2-467]...", "4....", "(0[1-9]|[1589].)...."]),
  (248, ["4[2-46].....", "2[125-8].....", "800[08]...", "85.....", "971....|(64|95)....."]),
  (249, ["1(5.|8[35-7])......", "(1[0-2]|9[0-3569])......."]),
  (250, ["(06|2[23568].)......", "7[237-9].......", "800......", "900......"]),
  (251, [
    "11667[01]...|(11(1(1[124]|2[2-7]|3[1-5]|5[5-8]|8[6-8])|2(13|3[6-8]|5[89]|7[05-9]|8[2-6])|
      3(2[01]|3[0-289]|4[1289]|7[1-4]|87)|4(1[69]|3[2-49]|4[0-3]|6[5-8])|5(1[578]|44|5[0-4])|
      6(1[578]|2[69]|39|4[5-7]|5[0-5]|6[0-59]|8[015-8]))|2(2(11[1-9]|22[0-7]|33.|44[1467]|
      66[1-68])|5(11[124-6]|33[2-8]|44[1467]|55[14]|66[1-3679]|77[124-79]|880))|3(3(11[0-46-8]|
      (22|55)[0-6]|33[0134689]|44[04]|66[01467])|4(44[0-8]|55[0-69]|66[0-3]|77[1-5]))|4(6(119|
      22[0-24-7]|33[1-5]|44[13-69]|55[14-689]|660|88[1-4])|7((11|22)[1-9]|33[13-7]|44[13-6]|
      55[1-689]))|5(7(227|55[05]|(66|77)[14-8])|8(11[149]|22[013-79]|33[0-68]|44[013-8]|550|
      66[1-5]|77.)))....",
    "700[1-9].....|(7(0[1-9]|1[0-8]|2[1-35-79]|3.|77|86|99)|9..)......"]),
  (252, [
    "(1.|2[0-79]|3[0-46-8]|4[0-7]|5[57-9]).....|([134].|8[125])....",
    "((15|(3[59]|4[89]|6.|7[79]|8[08]).|9(0.|[2-9])).|2(4.|8)).....|([67]..|904)....."]),
  (253, ["2(1[2-5]|7[45]).....", "77......"]),
  (254, [
    "(4[245]|5[1-79]|6[01457-9])......?.?|(4[136]|5[08]|62).......|([24]0|51|66).......?",
    "(1(0[0-8]|1.|2[014]|[34]0)|7..)......", "800[2-8]......?", "900[02-9]....."]),
  (255, [
    "2[2-8].......", "77[2-9]......|(6[125-9]|7[13-689]).......", "80[08]......", "90.......",
    "41.......", "8(40|6[01])......"]),
  (256, [
    "20((240|30[67]).|6(00[0-2]|30[0-4]))...|(20([017].|2[5-9]|3[1-4]|5[0-4]|6[15-9])|
      [34]...).....",
    "726[01].....|7([01578].|20|36|4[0-5]|6[0-5]|9[89])......", "800[1-3].....", "90[1-3]......"]),
  (257, ["(22|31)......", "(29|[67][125-9])......"]),
  (258, ["2([1346].|5[0-2]|[78][12]|93).....", "8[2-79].......", "800......"]),
  (260, ["21[1-8]......", "([59][5-8]|7[5-9]).......", "800......", "63......."]),
  (261, [
    "2072[29]....|20(2.|4[47]|5[3467]|6[279]|7[35]|8[268]|9[245]).....", "3[2-47-9].......",
    "22......."]),
  (262, [
    "26(2..|3(0.|1[0-6]))....",
    "(69(2..|3([06][0-6]|1[0-3]|2[0-2]|3[0-39]|4.|5[0-5]|7[0-37]|8[0-8]|9[0-479]))|7092[0-3])....",
    "80.......", "89[1-37-9]......", "8(1[019]|2[0156]|84|90)......",
    "9(399[0-3]|479[0-5]|76(2[278]|3[0-37]))....", "269(0[0-467]|15|5[0-4]|6.|[78]0)....",
    "(639(0[0-79]|1[019]|[267].|3[09]|40|5[05-9]|9[04-79])|7093[5-7])....",
    "9((39|47)8[01]|769.)...."]),
  (263, [
    "(1((3.|9).|[4-8])|2(((0(2[014]|5)|(2[0157]|31|84|9)..|[56]([14]..|20)|7([089]|2[03]|
      [35]..)).|4(2..|8)).|1(2|[39]....))|3((123|(29.|92).)..|7([19]|[56].))|5(0|1[2-478]|26|
      [37]2|4(2...|83)|5(25..|[78])|[689].)|6(([16-8]21|28|52[013])..|[39])|8([1349]28|523)..)...|
      (4..|9[2-9]).....?|((2(((0|8[146]).|7[1-7]).|2([278].|92)|58(2.|3))|3([26]|9...)|5(4.|
      5)..).|6((([0-246]|[78].).|37).|5[2-8]))..|(2([569].|8[2-57-9])|3([013-59].|8[37])|
      6[89]8)...",
    "7([1278].|3[1-9])......", "80([01].|20|8[0-8])...", "86(1[12]|22|30|44|55|77|8[368])......"]),
  (264, [
    "64426...|6(1(2[2-7]|3[01378]|4[0-4])|254|32[0237]|4(27|41|5[25])|52[236-8]|626|7(2[2-4]|
      30)).....?|6(1((0.|2[0189]|3[24-69]|4[5-9]).|17|69|7[014])|2(17|5[0-36-8]|69|70)|3(17|
      2[14-689]|34|6[289]|7[01]|81)|4(17|2[0-2]|4[06]|5[0137]|69|7[01])|5(17|2[0459]|69|7[01])|
      6(17|25|38|42|69|7[01])|7(17|2[569]|3[13]|6[89]|7[01]))....",
    "(60|8[1245]).......", "80.......", "8701.....", "8(3..|86)....."]),
  (265, ["(1[2-9]|2[12]..).....", "111......|(31|77|[89][89])......."]),
  (266, ["2.......", "[56].......", "800[1256]...."]),
  (267, [
    "(2(4[0-48]|6[0-24]|9[0578])|3(1[0-35-9]|55|[69].|7[013]|81)|4(6[03]|7[1267]|9[0-5])|
      5(3[03489]|4[0489]|7[1-47]|88|9[0-49])|6(2[1-35]|5[149]|8[067]))....",
    "(321|7[1-8].).....", "(0800|800.)......", "90.....", "79(1([01].|2[0-8])|2[0-7].)..."]),
  (268, ["[23][2-5]......", "7[6-9]......", "0800....", "900......", "70......"]),
  (269, ["7[4-7].....", "[34]......", "8......"]),
  (290, ["2([0-57-9].|6[4-9])..", "[56]....", "262..", "8..."]),
  (291, ["(1(1[12568]|[24]0|55|6[146])|8..)....", "(17[1-3]|7..)...."]),
  (297, [
    "5(2.|8[1-9])....", "(290|5[69].|6([03]0|22|4[0-2]|[69].)|7([34].|7[07])|9(6[45]|9[4-8]))....",
    "800....", "900....", "(28.|501)...."]),
  (298, [
    "(20|[34].|8[19])....", "([27][1-9]|5.|9[16])....", "80[257-9]...",
    "90([13-5][15-7]|2[125-7]|9.)..", "(6[0-36]|88)...."]),
  (299, ["(19|3[1-7]|[68][1-9]|70|9.)....", "[245].....", "80....", "3[89]...."]),
  (350, [
    "21(6[24-7].|90[0-2])...|2(00|2[25]).....", "5251[0-4]...|(5([146-8]..|250)|60(1[01]|6.))...."]),
  (351, [
    "2([12].|3[1-689]|4[1-59]|[57][1-9]|6[1-35689]|8[1-69]|9[1256])......",
    "6([06]92(30|9.)|[35]92(3[03]|9.))...|((16|6[0356])93|9([1-36]..|480)).....", "80[02]......",
    "(6(0[178]|4[68]).|76(0[1-57]|1[2-47]|2[237])).....", "884[0-4689].....",
    "80(8.|9[1579]).....", "30.......", "70(38[01]|596|(7.|8[17]).)....", "6222.....",
    "600......|6[06]92(0.|3[349]|49)..."]),
  (352, [
    "(35[013-9]|80[2-9]|90[89])..?.?.?.?.?.?.?|(2[2-9]|3[0-46-9]|[457].|8[13-9]|
      9[2-579])...?.?.?.?.?.?.?",
    "6([269][18]|5[1568]|7[189]|81)......", "800.....", "90[015].....", "801.....",
    "20(1.....|[2-689]..?.?.?.?.?.?)"]),
  (353, [
    "(1.|21).......?|(2[24-9]|4(0[24]|5.|7)|5(0[45]|1.|8)|6(1.|[237-9])|9(1.|[35-9])).....|(23|
      4([1-469]|8.)|5[23679]|6[4-6]|7[14]|9[04]).......",
    "8(22|[35-9].)......", "1800......", "15(1[2-8]|[2-8]0|9[089])......", "700......",
    "18[59]0......", "76.......", "818......",
    "88210[1-9]....|8([35-79]5..|8([013-9]..|2([01][1-9]|[2-9].)))....."]),
  (354, [
    "(4(1[0-24-69]|2[0-7]|[37][0-8]|4[0-24589]|5[0-68]|6.|8[0-36-8])|5(05|[156].|2[02578]|
      3[0-579]|4[03-7]|7[0-2578]|8[0-35-9]|9[013-689])|872)....",
    "(38[589]..|6(1[1-8]|2[0-6]|3[026-9]|4[014679]|5[0159]|6[0-69]|70|8[06-8]|9.)|7(5[057]|
      [6-9].)|8(2[0-59]|[3-69].|8[238]))....",
    "80[0-8]....", "90(0.|1[5-79]|2[015-79]|3[135-79]|4[125-7]|5[25-79]|7[1-37]|8[0-35-7])...",
    "49[0-24-79]....", "809....", "(689|8(7[18]|80)|95[48])...."]),
  (355, [
    "4505[0-2]...|([2358][16-9].[2-9]|4410)....|([2358][2-5][2-9]|4([2-57-9][2-9]|6.)).....",
    "6([78][2-9]|9.)......", "800....", "900[1-9]..", "700[2-9]....", "808[1-9].."]),
  (356, [
    "20(3[1-4]|6[059])....|2(0[19]|[1-357].|60).....",
    "(7(210|[79]..)|9([29]..|69[67]|8(1[1-3]|89|97)))....", "800(02|[3467].)...",
    "5(0(0(37|43)|(6.|70|9[0168]).)|[12].0[1-5])...", "3550....", "501.....", "7117...."]),
  (357, [
    "2[2-6]......", "9(10|[4-79].).....", "800.....", "90[09].....", "700.....", "80[1-9].....",
    "(50|77)......"]),
  (358, [
    "1[3-7][1-8]....?.?.?|(19[1-8]|[23568][1-8].|9(00|[1-8].))...?.?.?.?",
    "4946...?.?.?.?|(4[0-8]|50).....?.?.?.?", "800.....?.?", "[67]00......?",
    "20.....?.?.?.?|60[12]......?|7(099.....?|5[03-9]....?.?.?.?)|20[2-59]..|(606|7(0[78]|1|
      3.)).......|(10|29|3[09]|70[1-5].).....?.?.?.?",
    "18[1-8]....?.?.?"]),
  (359, [
    "2......?.?|(43[1-6]|70[1-9]).....?|([36].|4[124-7]|[57][1-9]|8[1-6]|9[1-7])......?",
    "(43[07-9]|99[69].).....|(8[7-9]|98).......", "(00800..|800).....", "90......", "700....."]),
  (370, [
    "(3[1478]|4[124-6]|52)......", "6.......", "80[02].....", "9(0[0239]|10).....", "70[05].....",
    "808.....", "70[67].....", "[89]01....."]),
  (371, [
    "6.......", "2333[0-8]...|2([0-24-9]..|3(0[07]|[14-9].|2[02-9]|3[0-24-9]))....", "80......",
    "90......", "81......"]),
  (372, [
    "(3[23589]|4[3-8]|6.|7[1-9]|88).....",
    "(5.....|8(1(0(000|[3-9]..)|(1(0[236]|1.)|(2[0-59]|[3-79].).).)|2(0(000|(19|[2-7].).)|
      (([124-6].|3[5-9]).|7([0-79].|8[13-9])|8([2-6].|7[01])).)|[349]....))..|5(([02].|5[0-478]).|
      1([0-8].|95)|6(4[0-4]|5[1-589]))...",
    "800((0..|1).|[2-9])...", "(40..|900)....", "70[0-2]....."]),
  (373, [
    "((2[1-9]|3[1-79]).|5(33|5[257])).....", "562.....|(6.|7[16-9])......", "800.....",
    "90[056].....", "808.....", "3[08]......", "803....."]),
  (374, [
    "((1[0-25]|47).|2(2[2-46]|3[1-8]|4[2-69]|5[2-7]|6[1-9]|8[1-7])|3[12]2).....",
    "(33|4[1349]|55|77|88|9[13-9])......", "800.....", "90[016].....",
    "60(2[78]|3[5-9]|4[02-9]|5[0-46-9]|[6-8].|9[0-2])....", "80[1-4]....."]),
  (375, [
    "(1(5(1[1-5]|[24].|6[2-4]|9[1-7])|6([235].|4[1-7])|7..)|2(1([246].|3[0-35-9]|5[1-9])|
      2([235].|4[0-8])|3([26].|3[02-79]|4[024-7]|5[03-7]))).....",
    "(2(5[5-79]|9[1-9])|(33|44).)......", "800....?.?.?.?|8(0[13]|20.).......", "(810|902).......",
    "249......"]),
  (376, ["[78].....", "690......|[356].....", "180[02]....", "[19]....."]),
  (377, ["(870|9[2-47-9].).....", "4([46].|5[1-9]).....|(3|6.).......", "(800|90.)....."]),
  (378, ["0549(8[0157-9]|9.)....", "6[16]......", "7[178]......", "5[158]......"]),
  (380, [
    "(3[1-8]|4[13-8]|5[1-7]|6[12459]).......",
    "790[0-4].....|(39|50|6[36-8]|7[1-357]|9[1-9]).......", "800[1-8]......?", "900[239]......?",
    "89[1-579]......"]),
  (381, [
    "(11[1-9].|(2[389]|39)(0[2-9]|[2-9].))....?.?.?.?.?|(1[02-9]|2[0-24-7]|
      3[0-8])[2-9].....?.?.?.?.?",
    "6([0-689]|7.).......?", "800....?.?.?.?.?.?", "(78.|90[0169])....?.?.?.?",
    "7[06].....?.?.?.?.?.?"]),
  (382, [
    "(20[2-8]|3([0-2][2-7]|3[24-7])|4(0[2-467]|1[2467])|5(0[2467]|1[24-7]|2[2-467])).....",
    "6([07-9].|3[024]|6[0-25]).....", "80([0-2578]|9.).....", "9(4[1568]|5[178]).....",
    "78[1-49].....", "77[1-9]....."]),
  (383, [
    "38.......?.?.?.?|(2[89]|39)(0......?|[1-9].....)", "4[3-9]......", "800.....", "900....."]),
  (385, [
    "1.......|(2[0-3]|3[1-5]|4[02-47-9]|5[1-3]).......?",
    "9((0[1-9]|[12589].)..|7([0679]..|5([01].|44|55|77|9[5-79])))....|98......", "80......?.?",
    "6[01459]......|6[01].....", "7[45]......", "62.......?|72......"]),
  (386, [
    "([1-357][2-8]|4[24-8])......",
    "65([178].|5[56]|6[01])....|([37][01]|4[0139]|51|6[489])......", "80.....?.?",
    "89[1-3]...?.?.?|90.....?.?",
    "(59..|8(1([67].|8[0-589])|2(0.|2[0-37-9]|8[0-2489])|3[389].))...."]),
  (387, [
    "(3([05-79][2-9]|1[4579]|[23][24-9]|4[2-4689]|8[2457-9])|49[2-579]|5(0[2-49]|[13][2-9]|
      [268][2-4679]|4[4689]|5[2-79]|7[2-69]|9[2-4689])).....",
    "6040.....|6(03|[1-356]|44|7.)......", "8[08]......", "9[0246]......", "8[12]......",
    "703[235]0...|70(2[0-5]|3[0146]|[56]0)...."]),
  (389, [
    "((2(62|77)0|3444).|4[56]440)...|(34|4[357])700...|(2([0-3].|5[0-578]|6[01]|82)|3(1[3-68]|
      [23][2-68]|4[23568])|4([23][2-68]|4[3-68]|5[2568]|6[25-8]|7[24-68]|8[4-68])).....",
    "7(3555|(474|9[019]7)7)...|7([0-25-8]..|3([1-48].|7[01578])|4(2.|60|7[01578])|9([2-4].|5[01]|
      7[015]))....",
    "800.....", "5.......", "8(0[1-9]|[1-9].)....."]),
  (420, [
    "(2.|3[1257-9]|4[16-9]|5[13-9]).......", "(60[1-8].|7(0([2-5].|60)|19.|[2379]..)).....",
    "800......", "9(0[05689]|76)......", "70[01]......", "8[134].......", "9[17]0......",
    "9(5.|7[2-4])......", "9(3.........|6........?.?.?)"]),
  (421, [
    "(2(16|[2-9]...)|(([3-5][1-8].|819).|601[1-5]).)....|(2|[3-5][1-8])1[67]...|[3-5][1-8]16..",
    "909[1-9].....|9(0[1-8]|1[0-24-9]|4[03-57-9]|5.)......", "800......", "9(00|[78].)......",
    "8[5-9].......", "6(02|5[0-4]|9[0-6])......", "96.......", "9090..."]),
  (423, [
    "(2(01|1[27]|2[02]|3.|6[02-578]|96)|3([24]0|33|7[0135-7]|8[048]|9[0269]))....",
    "(6((4[5-9]|5[0-46-9]).|6([024-6].|[17]0|3[7-9])).|7([37-9].|42|56))....",
    "8002[28]..|80(05.|9)....", "90(02[258]|1(23|3[14])|66[136])..", "870(28|87)..",
    "697(42|56|[78].)...."]),
  (500, ["[2-47]....", "[56]...."]),
  (501, [
    "(2([02].|36|[68]0)|[3-58]([02].|[68]0)|7([02].|32|[68]0))....", "6[0-35-7].....",
    "0800......."]),
  (502, ["[267][2-9]......", "([3-5]..|80[0-4]).....", "18[01]........", "19........."]),
  (503, [
    "2(79(0[0347-9]|[1-9].)|89(0[024589]|[1-9].))...|2([1-69].|[78][0-8]).....", "[67].......",
    "800........|80[01]....", "900....(....)?"]),
  (504, [
    "2(2(0[0-59]|1[1-9]|[23].|4[02-6]|5[57]|6[245]|7[0135689]|8[01346-9]|9[0-2])|4(0[578]|
      2[3-59]|3[13-9]|4[0-68]|5[1-3589])|5(0[2357-9]|1[1-356]|4[03-5]|5.|6[014-69]|7[04]|80)|
      6([056].|17|2[067]|3[047]|4[0-378]|[78][0-8]|9[01])|7(0[5-79]|6[46-9]|7[02-9]|8[034]|91)|
      8(79|8[0-357-9]|9[1-57-9]))....",
    "[37-9].......", "8002......."]),
  (505, [
    "2.......", "(5(5[0-7]|[78].)|6(20|3[035]|4[045]|5[05]|77|8[1-9]|9[059])|(7[5-8]|8.).).....",
    "1800...."]),
  (506, [
    "210[7-9]....|2([024-7].|1[1-9]).....",
    "(3005.|6500[01])...|(5[07]|6[0-4]|7[0-3]|8[3-9])......", "800.......", "90[059].......",
    "(210[0-6]|4...|5100)...."]),
  (507, [
    "(1(0.|1[479]|2[37]|3[0137]|4[17]|5[05]|6[058]|7[0167]|8[2358]|9[1389])|2([0235-79].|1[0-7]|
      4[013-9]|8[02-9])|3([047-9].|1[0-8]|2[0-5]|33|5[0-35]|6[068])|4(00|3[0-579]|4.|7[0-57-9])|
      5([01].|2[0-7]|[56]0|79)|7(09|2[0-26-8]|3[03]|4[04]|5[05-9]|6[05]|7[0-24-9]|8[7-9]|90)|8(09|
      2[89]|3.|4[0-24-689]|5[014]|8[02])|9(0[5-9]|1[0135-8]|2[036-9]|3[35-79]|40|5[0457-9]|
      6[05-9]|7[04-9]|8[35-8]|9.))....",
    "(1[16]1|21[89]|6...|8(1[01]|7[23]))....", "800.....?|(00800|800.)......",
    "(8(22|55|60|7[78]|86)|9(00|81))...."]),
  (508, [
    "(4[1-35-9]|5[0-47-9]|80[6-9]..)....", "(4[02-489]|5[02-9]|708(4[0-5]|5[0-6]))....",
    "80[0-5]......", "8[129]......."]),
  (509, [
    "2(2.|5[1-5]|81|9[149]).....", "([34].|55)......", "8.......",
    "9([67][0-4]|8[0-3589]|9.)....."]),
  (590, [
    "590(0[1-68]|[14][0-24-9]|2[0-68]|3[1-9]|5[3-579]|[68][0-689]|7[08]|9.)....",
    "69(0..|1(2[2-9]|3[0-5])|4(0[89]|1[2-6]|9.)|6(1[016-9]|5[0-4]|[67].))....", "80[0-5]......",
    "9((39|47)5[0-7]|76[018].)....", "590(2[7-9]|3[3-7]|5[12]|87)....",
    "590(0[079]|[14]3|[27][79]|3[03-7]|5[0-268]|87)...."]),
  (591, [
    "(2(2..|5(11|[258].|9[67])|6(12|2.|9[34])|8(2[34]|39|62))|3(3..|4(6.|8[24])|8(25|42|5[257]|
      86|9[25])|9([27].|3[2-4]|4[248]|5[24]|6[2-6]))|4(4..|6(11|[24689].|72)))....",
    "[67].......", "8001[07]....", "50......"]),
  (592, [
    "(2(1[6-9]|2[0-35-9]|3[1-4]|5[3-9]|6.|7[0-79])|3(2[25-9]|3.)|4(4[0-24]|5[56])|50[0-6]|
      77[1-57])....",
    "(51[01]|6..|7([0-5].|6[0-39]|70))....", "(289|8(00|6[28]|88|99))....", "9008...", "515...."]),
  (593, [
    "[2-7][2-7]......", "964[0-2].....|9(39|[57][89]|6[0-36-9]|[89].)......",
    "1800.......|1[78]00......", "[2-7]890...."]),
  (594, [
    "594([02-49].|1[0-5]|5[6-9]|6[0-3]|80)....", "(694([0-249].|3[0-8])|7093[0-3])....",
    "80[0-5]......", "9((396|76.).|476[0-5])...."]),
  (595, [
    "([26]1|3[289]|4[1246-8]|7[1-3]|8[1-36])......?.?|(2(2[4-68]|[4-68].|7[15]|9[1-5])|3(18|
      3[167]|4[2357]|51|[67].)|4(3[12]|5[13]|9[1-47])|5([1-4].|5[02-4])|6(3[1-3]|44|7[1-8])|
      7(4[0-4]|5.|6[1-578]|75|8[0-8])|858)......?",
    "9(51|6[129]|7[1-6]|8[1-7]|9[1-5])......", "9800......?.?", "8700[0-4]....",
    "[2-9]0.....?.?.?"]),
  (596, [
    "596([03-7].|1[05]|2[7-9]|8[0-39]|9[04-9])....",
    "69(6([0-46-9].|5[0-6])|727)....|7091[0-3]....", "80[0-5]......",
    "9(397[0-3]|477[0-5]|76(6.|7[0-367]))...."]),
  (597, ["(2[1-3]|3[0-7]|(4|68).|5[2-58])....", "(7[124-7]|8[1-9]).....", "56...."]),
  (598, [
    "(1(770|9(20|[89]7))|(2.|4[2-7])..)....", "9[1-9]......",
    "0004...?.?.?.?.?.?.?|80[05]....|405....", "90[0-8]...."]),
  (599, [
    "9(4(3[0-5]|4[14]|6.)|50.|7(2[014]|3[02-9]|4[4-9]|6[357]|77|8[7-9])|8(3[39]|[46].|7[01]|
      8[57-9]))....",
    "953[01]....|9(5[12467]|6[5-9]).....", "60[0-2]....", "955.....",
    "(318[023]|41(6[023]|70)|7(1[578]|2[05]|50).)...",
    "(31(8[14-8]|9[14578])|416[14-9]|7(0[01]|7[07]|8.|9[056]).)..."]),
  (670, ["(2[1-5]|3[1-9]|4[1-4]).....", "7[2-8]......", "80.....", "90.....", "70....."]),
  (672, ["(1(06|17|28|39)|3[0-2].)...", "(14|3[58])...."]),
  (673, ["22[0-7]....|(2[013-9]|[34].|5[0-25-9]).....", "(22[89]|[78]..)....", "5[34]....."]),
  (674, ["444....", "(222|55[3-9]|666|8..)...."]),
  (675, [
    "((3[0-2]|4[257]|5[34]|9[78]).|64[1-9]|85[02-46-9])....", "(7.|8[1-48])......", "180....",
    "2(0[0-57]|7[568])....", "27[01]...."]),
  (676, [
    "(2.|3[0-8]|4[0-4]|50|6[09]|7[0-24-69]|8[05])...",
    "(5(4[0-5]|5[4-6])|6([09].|3[02]|8[15-9])|(7.|8[46-9]).|999)....", "0800...", "55[0-37-9]...."]),
  (677, [
    "(1[4-79]|[23].|4[0-2]|5[03]|6[0-37])...",
    "48...|((6[89]|7[1-9]|8[4-9]).|9(1[2-9]|2[013-9]|3[0-2]|[46].|5[0-46-9]|7[0-689]|8[0-79]|
      9[0-8]))....",
    "1[38]...", "5[12]..."]),
  (678, [
    "(38[0-8]|48[4-9])..|(2[02-9]|3[4-7]|88)...", "([58].|7[013-7]).....", "81[18]..",
    "9(0[1-9]|1[01])....", "(3[03]|900.)..."]),
  (679, [
    "603....|(3[0-5]|6[25-7]|8[58]).....", "([279].|45|5[01568]|8[034679]).....", "0800......."]),
  (680, [
    "(2(55|77)|345|488|5(35|44|87)|6(22|54|79)|7(33|47)|8(24|55|76)|900)....",
    "((46|83)[0-5]|6[2-4689]0)....|(45|77|88)....."]),
  (681, ["72....", "(72|8[2-9])....", "80[0-5]......", "[48]0....", "9[23]...."]),
  (682, ["(2.|3[13-7]|4[1-5])...", "[578]...."]),
  (683, ["[47]...", "([56]|888[1-9])..."]),
  (685, ["6[1-9]...|([2-5]|60)....", "(7[1-35-8]|8([3-7]|9...)).....", "800..."]),
  (686, [
    "([24].|3[1-9]|50|65(02[12]|12[56]|22[89]|[3-5]00)|7(27..|3100|5(02[12]|12[56]|22[89]|
      [34](00|81)|500))|8[0-5])...",
    "(6200[01]|7(310[1-9]|5(02[03-9]|12[0-47-9]|22[0-7]|[34](0[1-9]|8[02-9])|50[1-9])))...|(63..|
      7(([0146-9].|2[0-689]).|3([02-9].|1[1-9])|5([0-2][013-9]|[34][1-79]|5[1-9]|[6-9].)))....",
    "30(0[01]..|12(11|20)).."]),
  (687, ["(2[03-9]|3[0-5]|4[1-7]|88)....", "(5[0-4]|[79].|8[0-79])....", "050...", "36...."]),
  (688, ["2[02-9]...", "(7[01].|90)...."]),
  (689, ["4(0[4-689]|9[4-68]).....", "8[7-9]......", "80[0-5]......", "499.....", "44...."]),
  (690, ["(2[2-4]|[34].)...?.?.?", "7[2-4]...?.?.?"]),
  (691, ["31(00[67]|208|309)..|(3([2357]0[1-9]|602|804|905)|(820|9[2-7].).)..."]),
  (692, ["(247|528|625)....", "((23|54)5|329|45[35-8])....", "635...."]),
  (800, ["[1-9]......."]),
  (808, ["[1-9]......."]),
  (850, ["((195|2).|3[19]|4[159]|5[37]|6[17]|7[39]|85)......", "19[1-3]......."]),
  (852, [
    "(2([13-9].|2[013-9]).|3(([1569][0-24-9]|4[0-246-9]|7[0-24-69]).|8(4[0-8]|[579].|6[0-5]))|
      58(0[1-9]|1[2-9]))....",
    "(4(44[0-25-9]|6(1[0-7]|4[0-57-9]|6[0-4]))|5(73[0-6]|95[0-8])|6(26[013-8]|66[0-3])|70(7[1-5]|
      8[0-4])|848[0-35-9]|9(29[013-9]|39[01]|59[0-4]|899))....|(4(4[0-35-8]|6[02357-9])|
      5([1-59][0-46-9]|6[0-4689]|7[0-246-9])|6(0[1-9]|[13-59].|[268][0-57-9]|7[0-79])|70[1-59]|
      84[0-39]|9(0[1-9]|1[02-9]|[2358][0-8]|[467].)).....",
    "800......", "900([0-24-9].......|3..?.?.?)",
    "8(1[0-4679].|2([0-36].|7[0-4])|3([034].|2[09]|70))....", "30(0[1-9]|[15-7].|2[047]|89)....",
    "7(1(0[0-38]|1[0-3679]|3[013]|69|9[0136])|2([02389].|1[18]|7[27-9])|3([0-38].|7[0-369]|
      9[2357-9])|47.|5([178].|5[0-5])|6(0[0-7]|2[236-9]|[35].)|7([27].|8[7-9])|8([23689].|7[1-9])|
      9([025].|6[0-246-8]|7[0-36-9]|8[238]))...."]),
  (853, [
    "(28[2-9]|8(11|[2-57-9].)).....",
    "6800[0-79]...|6([235]..|6(0[0-5]|[1-9].)|8(0[1-9]|[14-8].|2[5-9]|[39][0-4]))....", "0800..."]),
  (855, [
    "23(4([2-4]|[56].)|[568]..)....|23[236-9].....|(2[4-6]|3[2-6]|4[2-4]|[5-7][2-5])(([237-9]|
      4[56]|5.).....|6......?)",
    "((1[28]|3[18]|9[67]).|6[016-9]|7([07-9]|[16].)|8([013-79]|8.))......|(1.|9[0-57-9])......|
      (2[3-6]|3[2-6]|4[2-4]|[5-7][2-5])48.....",
    "1800(1.|2[019])....", "1900(1.|2[09])...."]),
  (856, ["(2[13]|[35-7][14]|41|8[1468])......", "(20([23579].|8[78])|30[24].)......|30......."]),
  (870, ["([356]|774[45])........|7[6-8]......."]),
  (878, ["10.........."]),
  (880, [
    "(4(31..|423)|5222)...(..)?|8332[6-9]..|(3(03[56]|224)|4(22[25]|653))....?|(3(42[47]|529|
      823)|4(027|525|65(28|8))|562|6257|7(1(5[3-5]|6[12]|7[156]|89)|22[589]56|32|42675|
      52([25689](56|8)|[347]8)|71(6[1267]|75|89)|92374)|82(2[59]|32)56|9(03[23]56|23(256|373)|31|
      5(1|2[4589]56)))...|(3(02[348]|22[35]|324|422)|4(22[67]|32[236-9]|6(2[46]|5[57])|953)|5526|
      6(024|6655)|81).....?|(2(7(1[0-267]|2[0-289]|3[0-29]|4[01]|5[1-3]|6[013]|7[0178]|91)|
      8(0[125]|1[1-6]|2[0157-9]|3[1-69]|41|6[1-35]|7[1-5]|8[1-8]|9[0-6])|9(0[0-2]|1[0-4]|2[568]|
      3[3-6]|5[5-7]|6[0136-9]|7[0-7]|8[014-9]))|3(0(2[025-79]|3[2-4])|181|22[12]|32[2356]|824)|
      4(02[09]|22[348]|32[045]|523|6(27|54))|666(22|53)|7(22[57-9]|42[56]|82[35])8|8(0[124-9]|
      2(181|2[02-4679]8)|4[12]|[5-7]2)|9([04]2|2(2|328)|81))....|(2([23].|[45])..|3(1(2[5-7]|
      [5-7])|425|822)|4(033|1.|[257]1|332|4(2[246]|5[25])|6(2[35]|56|62)|8(23|54)|92[2-5])|
      5(02[03489]|22[457]|32[35-79]|46|6([18]|53)|724|826)|6(023|2(2[2-5]|5[3-5]|8)|32[3478]|
      42[34]|52[47]|6([18]|6(2[34]|5[24]))|[78]2[2-5]|92[2-6])|7(02|21.|[3-589]1|6[12]|72[24])|
      8(217|3[12]|[5-7]1)|9[24]1).....|((3[2-8]|5[2-57-9]|6[03-589])1|4[4689][18]).....|[59]1.....",
    "(1[13-9].|644).......|(3[78]|44|66)[02-9].......", "80[03].......",
    "96(0[469]|1[0-47]|3[389]|43|6[69]|7[78])......"]),
  (881, ["6.........|[0-36-9]........"]),
  (882, [
    "342....|(337|49)......|(3(2|47|7...)|50...).......",
    "1(3(0[0347]|[13][0139]|2[035]|4[013568]|6[0459]|7[06]|8[15-8]|9[0689])....|
      6......?.?.?.?.?)|(345.|9[89])......|(10|2(3|85.)|3([15]|[69]..)|4[15-8]|51)........",
    "348[57]......."]),
  (883, [
    "(2(00..|10)|(370[1-9]|51.0).).......|51(00.....|[24-9]0.....?.?.?)|(1[0-79]|2[24-689]|
      3[02-689]|4[0-4])0......?.?.?.?"]),
  (886, [
    "(2[2-8].|370|55[01]|7[1-9])......|4((0(0[1-9]|[2-48].)|1[023].).....?|([239]..|4(0[56]|12|
      49)).....)|6([01].......|4(0[56]|12|24|4[09]).....?)|8((2(3.|4[0-269]|[578]0|66)|36[24-9]|
      90..)....|4(0[56]|12|24|4[09]).....?)|(2(2(0..|4(0[68]|[249]0|3[0-467]|5[0-25-9]|
      6[0235689]))|(3([09].|1[0-4])|(4.|5[0-49]|6[0-29]|7[0-5]).).)|((3[2-9]|5[2-8]|6[0-35-79]|
      8[7-9])..|4(2([089].|7[1-9])|(3[0-4]|[78].|9[01]).)).)...",
    "(40001[0-2]|9[0-8]....)...", "80[0-79]......|800.....", "20([013-9]..|2)....", "99.......",
    "7010([0-2679].|3[0-7]|8[0-5]).....|70........", "50[0-46-9]......"]),
  (888, ["..........."]),
  (960, [
    "(3(0[0-4]|3[0-59])|6([58][024689]|6[024-68]|7[02468]))....", "(46[46]|[79]..)....",
    "800.......", "900.......", "4(0[01]|50)...."]),
  (961, [
    "7(62|8[0-7]|9[04-9])....|([14-69].|2([14-69].|[78][1-9])|7[2-57]|8[02-9]).....",
    "793([01].|2[0-4])...|((3|81).|7([01].|6[013-9]|8[89]|9[12])).....", "9[01]......", "80......"]),
  (962, [
    "87(000|90[01])...|(2(6(2[0-35-9]|3[0-578]|4[24-7]|5[0-24-8]|[6-8][023]|9[0-3])|7(0[1-79]|10|
      2[014-7]|3[0-689]|4[019]|5[0-3578]))|32(0[1-69]|1[1-35-7]|2[024-7]|3.|4[0-3]|[5-7][023])|
      53(0[0-3]|[13][023]|2[0-59]|49|5[0-35-9]|6[15]|7[45]|8[1-6]|9[0-36-9])|6(2([05]0|22)|3(00|
      33)|4(0[0-25]|1[2-7]|2[0569]|[38][07-9]|4[025689]|6[0-589]|7.|9[0-2])|5([01][056]|2[034]|
      3[0-57-9]|4[178]|5[0-69]|6[0-35-9]|7[1-379]|8[0-68]|9[0239]))|87(20|7[078]|99))....",
    "(427|7([78][0-25-9]|9.))......", "80......", "9.......", "70.......", "85......",
    "8(10|8.).....", "74(66|77)....."]),
  (963, [
    "21.......?|(1([14].|[2356])|2[235]|3([13].|4)|4[134]|5[1-3])......", "(50|9[1-9])......."]),
  (964, ["1.......|(2[13-5]|3[02367]|4[023]|5[03]|6[026]).......?", "7[3-9]........"]),
  (965, [
    "2([23]..|4([1-35-9].|44)|5(0[034]|[2-46].|5[1-3]|7[1-7]))....",
    "(41..|5(([05].|1[0-7]|6[56]).|2(22|5[25])|7(55|77)|88[58])|6((0[034679]|5[015-9]|6.).|1(00|
      11|6[16])|2[26]2|3[36]3|4[46]4|7(0[013-9]|[67].)|8[68]8|9([069].|3[039]))|9(([04679].|
      8[057-9]).|1(00|1[01]|99)|2(00|2.)|3(00|3[03])|5(00|5.)))....",
    "18....."]),
  (966, [
    "1(1.|2[24-8]|3[35-8]|4[3-68]|6[2-5]|7[235-7])......",
    "579[01].....|5([013-689].|7[0-8])......", "800.......", "925......", "920......",
    "811......."]),
  (967, [
    "78[0-7]....|17......|([12][2-68]|3[2358]|4[2-58]|5[2-6]|6[3-58]|7[24-6]).....",
    "7[01378]......."]),
  (968, [
    "2[1-6]......", "(1505|90[1-9].)....|(7[126-9]|9[1-9])......", "8007.....?|(500|800[05])....",
    "900....."]),
  (970, [
    "(22[2-47-9]|42[45]|82[014-68]|92[3569]).....", "5[69].......", "1800......", "1700......"]),
  (971, [
    "[2-4679][2-8]......", "5[02-68].......", "400......|800...?.?.?.?.?.?.?", "900[02].....",
    "600[25].....", "700[05]....."]),
  (972, [
    "153.........?|29[1-9].....|(2[0-8]|[3489].)......",
    "55(4([01]0|5[0-6])|57[0-289])....|5(([02][02-9]|[149][2-9]|[36].|8[3-7]).|5(01|2.|3[0-3]|
      4[34]|5[0-25689]|6[6-8]|7[0-267]|8[7-9]|9[1-9])).....",
    "1(255|80[019]...)...", "1212....|1(200|9(0[0-2]|19))......", "1700......",
    "7(38([05].|8[018])|8(33|55|77|81).)....|7(18|2[23]|3[237]|47|6[258]|7.|82|9[2-9])......",
    "1599......"]),
  (973, [
    "(1(3[1356]|6[0156]|7.).|6(1[16].|500|6(0.|3[12]|44|55|7[7-9]|88)|9[69][69])|7([07]..|1(11|
      78)))....",
    "(3([0-79].|8[0-57-9]).|6(3(00|33|6[16])|441|6(3[03-9]|[69].|7[0-689])))....",
    "8[02369]......", "(87|9[0-8])......", "84......"]),
  (974, [
    "4(1111|2022)...|4([04]..|14[0-6]|999)....", "[35-7].......", "800....|(0080[01]|800)......",
    "2[136]....."]),
  (975, ["(2[3-6]|[34][5-7]|5[236]|6[2-46]|7[246]|8[2-4]).....", "(1[67]|[78]7)......"]),
  (976, [
    "[12]2[1-3]......?|(([12](1|27)|5[368])..|7(0([0-5].|7[078]|80)|128))....|[12](3[2-8]|
      4[2-68]|5[1-4689]).......?",
    "92[0139].....|(5[05]|6[069]|7[28]|8[013-9]|9[013-9])......",
    "712[0-79]....|7(1[013-9]|[5-79].)....."]),
  (977, [
    "(1[0-6].|99[02-6]).....|(2[13-79]|3[135-8]|4[146-9]|5[135-7]|6[13-9]|7[15-9]|8[1-46-9]|
      9[1-7])[2-6].....",
    "9(00|6[0-3]|7[0-24-6]|8[0-24-68]).......", "1(66001|800..)....."]),
  (979, ["[1359]........"]),
  (992, [
    "(3(1[3-5]|2[245]|3[12]|4[24-7]|5[25]|72)|4(4[1-3]|46|74|87))......",
    "(33[03-9]|4(1[18]|4[02-479])|81[1-9])......|([09].|1[0-27-9]|2[0-27]|[34]0|5[05]|7[01578]|
      8[078])......."]),
  (993, [
    "(1(2.|3[1-9])|2(22|4[0-35-8])|3(22|4[03-9])|4(22|3[128]|4.|6[15])|5(22|5[7-9]|
      6[014-689])).....",
    "(6.|71)......"]),
  (994, [
    "(2[12]428|3655[02])....|(2(22[0-79]|63[0-28])|3654).....|((1[28]|46).|2([014-6]2|
      [23]3))......",
    "36554....|([16]0|4[04]|5[015]|7[07]|99).......", "88.......", "900200..."]),
  (995, [
    "(3([256].|4[124-9]|7[0-4])|4(1.|2[2-7]|3[1-79]|4[2-8]|7[239]|9[1-7]))......",
    "5(((0555|1([17]77|555))[5-9]|757(7[7-9]|8[01])).|22252[0-4])..|(5(00(0.|11|22|3[0-6]|44|
      5[05]|77|88|9[09])|1(1(00|[124].|3[01])|4..)|(44|68)..|5([0157-9]..|200)|7([0147-9]..|5(00|
      [57]5))|8(0([01].|2[0-4])|58[89]|8(55|88))|9(090|[1-35-9]..))|790..)....|5(0(070|505)|
      1(0[01]0|1(07|33|51))|2(0[02]0|2[25]2)|3(0[03]0|3[35]3)|(40[04]|900)0|5222)[0-4]...",
    "800......", "70[67]......"]),
  (996, [
    "312(5[0-79].|9([0-689].|7[0-24-9]))...|(3(1(2[0-46-8]|3[1-9]|47|[56].)|2(22|3[0-479]|
      6[0-7])|4(22|5[6-9]|6.)|5(22|3[4-7]|59|6.)|6(22|5[35-7]|6.)|7(22|3[468]|4[1-9]|59|[67].)|
      9(22|4[1-8]|6.))|6(09|12|2[2-4]).).....",
    "312(58.|973)...|(2(0[0-35]|2.)|5[0-24-7].|600|7([07].|55)|88[08]|9(12|9[05-9]))......",
    "800.......?"]),
  (998, [
    "(55..|6(1(22|3[124]|4[1-4]|5[1-3578]|64)|2(22|3[0-57-9]|41)|5(22|3[3-7]|5[024-8])|6..|
      7([23].|7[69])|9(22|4[1-8]|6[135]))|7(0(5[4-9]|6[0146]|7[124-6]|9[135-8])|(1[12]|8.).|2(22|
      3[13-57-9]|4[1-3579]|5[14])|3(2.|3[1578]|4[1-35-7]|5[1-57]|61)|4(2.|3[1-579]|7[1-79])|5(22|
      5[1-9]|6[1457])|6(22|3[12457]|4[13-8])|9(22|5[1-9]))).....",
    "(([25]0|33|8[78]|9[0-57-9])...|6(1(2(2[01]|98)|35[0-4]|50.|61[23]|7([01][017]|4.|55|
      9[5-9]))|2((11|7.).|2([12]1|9[01379])|5([126].|3[0-4]))|5(19[01]|2(27|9[26])|(30|59|7.).)|
      6(2(1[5-9]|2[0367]|38|41|52|60)|(3[79]|9[0-3]).|4(56|83)|7([07].|1[017]|3[07]|4[047]|5[057]|
      67|8[0178]|9[79]))|7(2(24|3[237]|4[5-9]|7[15-8])|5(7[12]|8[0589])|7(0.|[39][07])|9(0.|
      7[079])))|7([07]...|2(2(2[79]|95)|3(2[5-9]|6[0-6])|57.|7(0.|1[17]|2[27]|3[37]|44|5[057]|66|
      88))|3(2(1[0-6]|21|3[469]|7[159])|(33|9[4-6]).|5(0[0-4]|5[579]|9.)|7([0-3579].|4[0467]|
      6[67]|8[078]))|4(2(29|5[0257]|6[0-7]|7[1-57])|5(1[0-4]|8.|9[5-9])|7(0.|1[024589]|2[0-27]|
      3[0137]|[46][07]|5[01]|7[5-9]|9[079])|9(7[015-9]|[89].))|5(112|2(0.|2[29]|[49]4)|3[1568].|
      52[6-9]|7(0[01578]|1[017]|[23]7|4[047]|[5-7].|8[78]|9[079]))|9(22[128]|3(2[0-4]|7.)|
      57[02569]|7(2[05-9]|3[37]|4.|60|7[2579]|87|9[07]))))...."])]

end PingPost.Phone
