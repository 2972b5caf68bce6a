/-
The time zones of the Americas.

Each change is the second since the start of 1970 at which an offset came into force,
and that offset; the rule holds after the last change.
-/
import MediaSearch.Calendar.ZoneTable

namespace MediaSearch.Calendar.ZoneTable

/-- The zone America/New_York. -/
def newYork : ZoneTable where
  initial := -17762
  changes :=
    [⟨-2717650800, -18000⟩, ⟨-1633280400, -14400⟩, ⟨-1615140000, -18000⟩, ⟨-1601830800, -14400⟩,
     ⟨-1583690400, -18000⟩, ⟨-1570381200, -14400⟩, ⟨-1551636000, -18000⟩, ⟨-1536512400, -14400⟩,
     ⟨-1523210400, -18000⟩, ⟨-1504458000, -14400⟩, ⟨-1491760800, -18000⟩, ⟨-1473008400, -14400⟩,
     ⟨-1459706400, -18000⟩, ⟨-1441558800, -14400⟩, ⟨-1428256800, -18000⟩, ⟨-1410109200, -14400⟩,
     ⟨-1396807200, -18000⟩, ⟨-1378659600, -14400⟩, ⟨-1365357600, -18000⟩, ⟨-1347210000, -14400⟩,
     ⟨-1333908000, -18000⟩, ⟨-1315155600, -14400⟩, ⟨-1301853600, -18000⟩, ⟨-1283706000, -14400⟩,
     ⟨-1270404000, -18000⟩, ⟨-1252256400, -14400⟩, ⟨-1238954400, -18000⟩, ⟨-1220806800, -14400⟩,
     ⟨-1207504800, -18000⟩, ⟨-1189357200, -14400⟩, ⟨-1176055200, -18000⟩, ⟨-1157302800, -14400⟩,
     ⟨-1144605600, -18000⟩, ⟨-1125853200, -14400⟩, ⟨-1112551200, -18000⟩, ⟨-1094403600, -14400⟩,
     ⟨-1081101600, -18000⟩, ⟨-1062954000, -14400⟩, ⟨-1049652000, -18000⟩, ⟨-1031504400, -14400⟩,
     ⟨-1018202400, -18000⟩, ⟨-1000054800, -14400⟩, ⟨-986752800, -18000⟩, ⟨-968000400, -14400⟩,
     ⟨-955303200, -18000⟩, ⟨-936550800, -14400⟩, ⟨-923248800, -18000⟩, ⟨-905101200, -14400⟩,
     ⟨-891799200, -18000⟩, ⟨-880218000, -14400⟩, ⟨-769395600, -14400⟩, ⟨-765396000, -18000⟩,
     ⟨-747248400, -14400⟩, ⟨-733946400, -18000⟩, ⟨-715798800, -14400⟩, ⟨-702496800, -18000⟩,
     ⟨-684349200, -14400⟩, ⟨-671047200, -18000⟩, ⟨-652899600, -14400⟩, ⟨-639597600, -18000⟩,
     ⟨-620845200, -14400⟩, ⟨-608148000, -18000⟩, ⟨-589395600, -14400⟩, ⟨-576093600, -18000⟩,
     ⟨-557946000, -14400⟩, ⟨-544644000, -18000⟩, ⟨-526496400, -14400⟩, ⟨-513194400, -18000⟩,
     ⟨-495046800, -14400⟩, ⟨-481744800, -18000⟩, ⟨-463597200, -14400⟩, ⟨-447271200, -18000⟩,
     ⟨-431542800, -14400⟩, ⟨-415821600, -18000⟩, ⟨-400093200, -14400⟩, ⟨-384372000, -18000⟩,
     ⟨-368643600, -14400⟩, ⟨-352922400, -18000⟩, ⟨-337194000, -14400⟩, ⟨-321472800, -18000⟩,
     ⟨-305744400, -14400⟩, ⟨-289418400, -18000⟩, ⟨-273690000, -14400⟩, ⟨-257968800, -18000⟩,
     ⟨-242240400, -14400⟩, ⟨-226519200, -18000⟩, ⟨-210790800, -14400⟩, ⟨-195069600, -18000⟩,
     ⟨-179341200, -14400⟩, ⟨-163620000, -18000⟩, ⟨-147891600, -14400⟩, ⟨-131565600, -18000⟩,
     ⟨-116442000, -14400⟩, ⟨-100116000, -18000⟩, ⟨-84387600, -14400⟩, ⟨-68666400, -18000⟩,
     ⟨-52938000, -14400⟩, ⟨-37216800, -18000⟩, ⟨-21488400, -14400⟩, ⟨-5767200, -18000⟩,
     ⟨9961200, -14400⟩, ⟨25682400, -18000⟩, ⟨41410800, -14400⟩, ⟨57736800, -18000⟩,
     ⟨73465200, -14400⟩, ⟨89186400, -18000⟩, ⟨104914800, -14400⟩, ⟨120636000, -18000⟩,
     ⟨126687600, -14400⟩, ⟨152085600, -18000⟩, ⟨162370800, -14400⟩, ⟨183535200, -18000⟩,
     ⟨199263600, -14400⟩, ⟨215589600, -18000⟩, ⟨230713200, -14400⟩, ⟨247039200, -18000⟩,
     ⟨262767600, -14400⟩, ⟨278488800, -18000⟩, ⟨294217200, -14400⟩, ⟨309938400, -18000⟩,
     ⟨325666800, -14400⟩, ⟨341388000, -18000⟩, ⟨357116400, -14400⟩, ⟨372837600, -18000⟩,
     ⟨388566000, -14400⟩, ⟨404892000, -18000⟩, ⟨420015600, -14400⟩, ⟨436341600, -18000⟩,
     ⟨452070000, -14400⟩, ⟨467791200, -18000⟩, ⟨483519600, -14400⟩, ⟨499240800, -18000⟩,
     ⟨514969200, -14400⟩, ⟨530690400, -18000⟩, ⟨544604400, -14400⟩, ⟨562140000, -18000⟩,
     ⟨576054000, -14400⟩, ⟨594194400, -18000⟩, ⟨607503600, -14400⟩, ⟨625644000, -18000⟩,
     ⟨638953200, -14400⟩, ⟨657093600, -18000⟩, ⟨671007600, -14400⟩, ⟨688543200, -18000⟩,
     ⟨702457200, -14400⟩, ⟨719992800, -18000⟩, ⟨733906800, -14400⟩, ⟨752047200, -18000⟩,
     ⟨765356400, -14400⟩, ⟨783496800, -18000⟩, ⟨796806000, -14400⟩, ⟨814946400, -18000⟩,
     ⟨828860400, -14400⟩, ⟨846396000, -18000⟩, ⟨860310000, -14400⟩, ⟨877845600, -18000⟩,
     ⟨891759600, -14400⟩, ⟨909295200, -18000⟩, ⟨923209200, -14400⟩, ⟨941349600, -18000⟩,
     ⟨954658800, -14400⟩, ⟨972799200, -18000⟩, ⟨986108400, -14400⟩, ⟨1004248800, -18000⟩,
     ⟨1018162800, -14400⟩, ⟨1035698400, -18000⟩, ⟨1049612400, -14400⟩, ⟨1067148000, -18000⟩,
     ⟨1081062000, -14400⟩, ⟨1099202400, -18000⟩, ⟨1112511600, -14400⟩, ⟨1130652000, -18000⟩,
     ⟨1143961200, -14400⟩, ⟨1162101600, -18000⟩, ⟨1173596400, -14400⟩]
  tail := .yearly (-18000) (-14400) ⟨3, 2, 0, 7200⟩ ⟨11, 1, 0, 7200⟩

/-- The zone America/Havana. -/
def havana : ZoneTable where
  initial := -19768
  changes :=
    [⟨-2524501832, -19776⟩, ⟨-1402813824, -18000⟩, ⟨-1311534000, -14400⟩, ⟨-1300996800, -18000⟩,
     ⟨-933534000, -14400⟩, ⟨-925675200, -18000⟩, ⟨-902084400, -14400⟩, ⟨-893620800, -18000⟩,
     ⟨-870030000, -14400⟩, ⟨-862171200, -18000⟩, ⟨-775681200, -14400⟩, ⟨-767822400, -18000⟩,
     ⟨-744231600, -14400⟩, ⟨-736372800, -18000⟩, ⟨-144702000, -14400⟩, ⟨-134251200, -18000⟩,
     ⟨-113425200, -14400⟩, ⟨-102542400, -18000⟩, ⟨-86295600, -14400⟩, ⟨-72907200, -18000⟩,
     ⟨-54154800, -14400⟩, ⟨-41457600, -18000⟩, ⟨-21495600, -14400⟩, ⟨-5774400, -18000⟩,
     ⟨9954000, -14400⟩, ⟨25675200, -18000⟩, ⟨41403600, -14400⟩, ⟨57729600, -18000⟩,
     ⟨73458000, -14400⟩, ⟨87364800, -18000⟩, ⟨104907600, -14400⟩, ⟨118900800, -18000⟩,
     ⟨136357200, -14400⟩, ⟨150436800, -18000⟩, ⟨167806800, -14400⟩, ⟨183528000, -18000⟩,
     ⟨199256400, -14400⟩, ⟨215582400, -18000⟩, ⟨230706000, -14400⟩, ⟨247032000, -18000⟩,
     ⟨263365200, -14400⟩, ⟨276667200, -18000⟩, ⟨290581200, -14400⟩, ⟨308721600, -18000⟩,
     ⟨322030800, -14400⟩, ⟨340171200, -18000⟩, ⟨358318800, -14400⟩, ⟨371620800, -18000⟩,
     ⟨389768400, -14400⟩, ⟨403070400, -18000⟩, ⟨421218000, -14400⟩, ⟨434520000, -18000⟩,
     ⟨452667600, -14400⟩, ⟨466574400, -18000⟩, ⟨484117200, -14400⟩, ⟨498024000, -18000⟩,
     ⟨511333200, -14400⟩, ⟨529473600, -18000⟩, ⟨542782800, -14400⟩, ⟨560923200, -18000⟩,
     ⟨574837200, -14400⟩, ⟨592372800, -18000⟩, ⟨606286800, -14400⟩, ⟨623822400, -18000⟩,
     ⟨638946000, -14400⟩, ⟨655876800, -18000⟩, ⟨671000400, -14400⟩, ⟨687330000, -18000⟩,
     ⟨702450000, -14400⟩, ⟨718779600, -18000⟩, ⟨733899600, -14400⟩, ⟨750229200, -18000⟩,
     ⟨765349200, -14400⟩, ⟨781678800, -18000⟩, ⟨796798800, -14400⟩, ⟨813128400, -18000⟩,
     ⟨828853200, -14400⟩, ⟨844578000, -18000⟩, ⟨860302800, -14400⟩, ⟨876632400, -18000⟩,
     ⟨891147600, -14400⟩, ⟨909291600, -18000⟩, ⟨922597200, -14400⟩, ⟨941346000, -18000⟩,
     ⟨954651600, -14400⟩, ⟨972795600, -18000⟩, ⟨986101200, -14400⟩, ⟨1004245200, -18000⟩,
     ⟨1018155600, -14400⟩, ⟨1035694800, -18000⟩, ⟨1049605200, -14400⟩, ⟨1067144400, -18000⟩,
     ⟨1080450000, -14400⟩, ⟨1162098000, -18000⟩, ⟨1173589200, -14400⟩, ⟨1193547600, -18000⟩,
     ⟨1205643600, -14400⟩, ⟨1224997200, -18000⟩, ⟨1236488400, -14400⟩, ⟨1256446800, -18000⟩,
     ⟨1268542800, -14400⟩, ⟨1288501200, -18000⟩, ⟨1300597200, -14400⟩, ⟨1321160400, -18000⟩,
     ⟨1333256400, -14400⟩, ⟨1352005200, -18000⟩, ⟨1362891600, -14400⟩, ⟨1383454800, -18000⟩,
     ⟨1394341200, -14400⟩, ⟨1414904400, -18000⟩, ⟨1425790800, -14400⟩, ⟨1446354000, -18000⟩,
     ⟨1457845200, -14400⟩, ⟨1478408400, -18000⟩, ⟨1489294800, -14400⟩, ⟨1509858000, -18000⟩,
     ⟨1520744400, -14400⟩, ⟨1541307600, -18000⟩, ⟨1552194000, -14400⟩, ⟨1572757200, -18000⟩,
     ⟨1583643600, -14400⟩, ⟨1604206800, -18000⟩, ⟨1615698000, -14400⟩, ⟨1636261200, -18000⟩,
     ⟨1647147600, -14400⟩, ⟨1667710800, -18000⟩, ⟨1678597200, -14400⟩, ⟨1699160400, -18000⟩,
     ⟨1710046800, -14400⟩, ⟨1730610000, -18000⟩, ⟨1741496400, -14400⟩, ⟨1762059600, -18000⟩,
     ⟨1772946000, -14400⟩, ⟨1825563600, -18000⟩]
  tail := .yearly (-18000) (-14400) ⟨3, 2, 0, 0⟩ ⟨11, 1, 0, 3600⟩

/-- The zone America/Santiago. -/
def santiago : ZoneTable where
  initial := -16965
  changes :=
    [⟨-2524504635, -16965⟩, ⟨-1892661435, -18000⟩, ⟨-1688410800, -16965⟩, ⟨-1619205435, -14400⟩,
     ⟨-1593806400, -16965⟩, ⟨-1335986235, -14400⟩, ⟨-1317585600, -18000⟩, ⟨-1304362800, -14400⟩,
     ⟨-1286049600, -18000⟩, ⟨-1272826800, -14400⟩, ⟨-1254513600, -18000⟩, ⟨-1241290800, -14400⟩,
     ⟨-1222977600, -18000⟩, ⟨-1209754800, -14400⟩, ⟨-1191355200, -18000⟩, ⟨-1178132400, -14400⟩,
     ⟨-870552000, -18000⟩, ⟨-865278000, -14400⟩, ⟨-740520000, -10800⟩, ⟨-736635600, -14400⟩,
     ⟨-718056000, -18000⟩, ⟨-713649600, -14400⟩, ⟨-36619200, -10800⟩, ⟨-23922000, -14400⟩,
     ⟨-3355200, -10800⟩, ⟨7527600, -14400⟩, ⟨24465600, -10800⟩, ⟨37767600, -14400⟩,
     ⟨55915200, -10800⟩, ⟨69217200, -14400⟩, ⟨87969600, -10800⟩, ⟨100666800, -14400⟩,
     ⟨118209600, -10800⟩, ⟨132116400, -14400⟩, ⟨150868800, -10800⟩, ⟨163566000, -14400⟩,
     ⟨182318400, -10800⟩, ⟨195620400, -14400⟩, ⟨213768000, -10800⟩, ⟨227070000, -14400⟩,
     ⟨245217600, -10800⟩, ⟨258519600, -14400⟩, ⟨277272000, -10800⟩, ⟨289969200, -14400⟩,
     ⟨308721600, -10800⟩, ⟨321418800, -14400⟩, ⟨340171200, -10800⟩, ⟨353473200, -14400⟩,
     ⟨371620800, -10800⟩, ⟨384922800, -14400⟩, ⟨403070400, -10800⟩, ⟨416372400, -14400⟩,
     ⟨434520000, -10800⟩, ⟨447822000, -14400⟩, ⟨466574400, -10800⟩, ⟨479271600, -14400⟩,
     ⟨498024000, -10800⟩, ⟨510721200, -14400⟩, ⟨529473600, -10800⟩, ⟨545194800, -14400⟩,
     ⟨560923200, -10800⟩, ⟨574225200, -14400⟩, ⟨592372800, -10800⟩, ⟨605674800, -14400⟩,
     ⟨624427200, -10800⟩, ⟨637124400, -14400⟩, ⟨653457600, -10800⟩, ⟨668574000, -14400⟩,
     ⟨687326400, -10800⟩, ⟨700628400, -14400⟩, ⟨718776000, -10800⟩, ⟨732078000, -14400⟩,
     ⟨750225600, -10800⟩, ⟨763527600, -14400⟩, ⟨781675200, -10800⟩, ⟨794977200, -14400⟩,
     ⟨813729600, -10800⟩, ⟨826426800, -14400⟩, ⟨845179200, -10800⟩, ⟨859690800, -14400⟩,
     ⟨876628800, -10800⟩, ⟨889930800, -14400⟩, ⟨906868800, -10800⟩, ⟨923194800, -14400⟩,
     ⟨939528000, -10800⟩, ⟨952830000, -14400⟩, ⟨971582400, -10800⟩, ⟨984279600, -14400⟩,
     ⟨1003032000, -10800⟩, ⟨1015729200, -14400⟩, ⟨1034481600, -10800⟩, ⟨1047178800, -14400⟩,
     ⟨1065931200, -10800⟩, ⟨1079233200, -14400⟩, ⟨1097380800, -10800⟩, ⟨1110682800, -14400⟩,
     ⟨1128830400, -10800⟩, ⟨1142132400, -14400⟩, ⟨1160884800, -10800⟩, ⟨1173582000, -14400⟩,
     ⟨1192334400, -10800⟩, ⟨1206846000, -14400⟩, ⟨1223784000, -10800⟩, ⟨1237086000, -14400⟩,
     ⟨1255233600, -10800⟩, ⟨1270350000, -14400⟩, ⟨1286683200, -10800⟩, ⟨1304823600, -14400⟩,
     ⟨1313899200, -10800⟩, ⟨1335668400, -14400⟩, ⟨1346558400, -10800⟩, ⟨1367118000, -14400⟩,
     ⟨1378612800, -10800⟩, ⟨1398567600, -14400⟩, ⟨1410062400, -10800⟩, ⟨1463281200, -14400⟩,
     ⟨1471147200, -10800⟩, ⟨1494730800, -14400⟩, ⟨1502596800, -10800⟩, ⟨1526180400, -14400⟩,
     ⟨1534046400, -10800⟩, ⟨1554606000, -14400⟩, ⟨1567915200, -10800⟩, ⟨1586055600, -14400⟩,
     ⟨1599364800, -10800⟩, ⟨1617505200, -14400⟩, ⟨1630814400, -10800⟩, ⟨1648954800, -14400⟩,
     ⟨1662868800, -10800⟩, ⟨1680404400, -14400⟩]
  tail := .yearly (-14400) (-10800) ⟨9, 1, 6, 86400⟩ ⟨4, 1, 6, 86400⟩

/-- The zone America/Sao_Paulo. -/
def saoPaulo : ZoneTable where
  initial := -11188
  changes :=
    [⟨-1767214412, -10800⟩, ⟨-1206957600, -7200⟩, ⟨-1191362400, -10800⟩, ⟨-1175374800, -7200⟩,
     ⟨-1159826400, -10800⟩, ⟨-633819600, -7200⟩, ⟨-622069200, -10800⟩, ⟨-602283600, -7200⟩,
     ⟨-591832800, -10800⟩, ⟨-570747600, -7200⟩, ⟨-560210400, -10800⟩, ⟨-539125200, -7200⟩,
     ⟨-531352800, -10800⟩, ⟨-195426000, -7200⟩, ⟨-184197600, -10800⟩, ⟨-155163600, -7200⟩,
     ⟨-149983200, -10800⟩, ⟨-128898000, -7200⟩, ⟨-121122000, -10800⟩, ⟨-99954000, -7200⟩,
     ⟨-89589600, -10800⟩, ⟨-68418000, -7200⟩, ⟨-57967200, -10800⟩, ⟨499748400, -7200⟩,
     ⟨511236000, -10800⟩, ⟨530593200, -7200⟩, ⟨540266400, -10800⟩, ⟨562129200, -7200⟩,
     ⟨571197600, -10800⟩, ⟨592974000, -7200⟩, ⟨602042400, -10800⟩, ⟨624423600, -7200⟩,
     ⟨634701600, -10800⟩, ⟨656478000, -7200⟩, ⟨666756000, -10800⟩, ⟨687927600, -7200⟩,
     ⟨697600800, -10800⟩, ⟨719982000, -7200⟩, ⟨728445600, -10800⟩, ⟨750826800, -7200⟩,
     ⟨761709600, -10800⟩, ⟨782276400, -7200⟩, ⟨793159200, -10800⟩, ⟨813726000, -7200⟩,
     ⟨824004000, -10800⟩, ⟨844570800, -7200⟩, ⟨856058400, -10800⟩, ⟨876106800, -7200⟩,
     ⟨888717600, -10800⟩, ⟨908074800, -7200⟩, ⟨919562400, -10800⟩, ⟨938919600, -7200⟩,
     ⟨951616800, -10800⟩, ⟨970974000, -7200⟩, ⟨982461600, -10800⟩, ⟨1003028400, -7200⟩,
     ⟨1013911200, -10800⟩, ⟨1036292400, -7200⟩, ⟨1045360800, -10800⟩, ⟨1066532400, -7200⟩,
     ⟨1076810400, -10800⟩, ⟨1099364400, -7200⟩, ⟨1108864800, -10800⟩, ⟨1129431600, -7200⟩,
     ⟨1140314400, -10800⟩, ⟨1162695600, -7200⟩, ⟨1172368800, -10800⟩, ⟨1192330800, -7200⟩,
     ⟨1203213600, -10800⟩, ⟨1224385200, -7200⟩, ⟨1234663200, -10800⟩, ⟨1255834800, -7200⟩,
     ⟨1266717600, -10800⟩, ⟨1287284400, -7200⟩, ⟨1298167200, -10800⟩, ⟨1318734000, -7200⟩,
     ⟨1330221600, -10800⟩, ⟨1350788400, -7200⟩, ⟨1361066400, -10800⟩, ⟨1382238000, -7200⟩,
     ⟨1392516000, -10800⟩, ⟨1413687600, -7200⟩, ⟨1424570400, -10800⟩, ⟨1445137200, -7200⟩,
     ⟨1456020000, -10800⟩, ⟨1476586800, -7200⟩, ⟨1487469600, -10800⟩, ⟨1508036400, -7200⟩,
     ⟨1518919200, -10800⟩, ⟨1541300400, -7200⟩, ⟨1550368800, -10800⟩]
  tail := .fixed (-10800)

/-- The zone America/St_Johns. -/
def stJohns : ZoneTable where
  initial := -12652
  changes :=
    [⟨-2713897748, -12652⟩, ⟨-1664130548, -9052⟩, ⟨-1650137348, -12652⟩, ⟨-1632076148, -9052⟩,
     ⟨-1615145348, -12652⟩, ⟨-1598650148, -9052⟩, ⟨-1590100148, -12652⟩, ⟨-1567286948, -9052⟩,
     ⟨-1551565748, -12652⟩, ⟨-1535837348, -9052⟩, ⟨-1520116148, -12652⟩, ⟨-1503782948, -9052⟩,
     ⟨-1488666548, -12652⟩, ⟨-1472333348, -9052⟩, ⟨-1457216948, -12652⟩, ⟨-1440883748, -9052⟩,
     ⟨-1425767348, -12652⟩, ⟨-1409434148, -9052⟩, ⟨-1394317748, -12652⟩, ⟨-1377984548, -9052⟩,
     ⟨-1362263348, -12652⟩, ⟨-1346534948, -9052⟩, ⟨-1330813748, -12652⟩, ⟨-1314480548, -9052⟩,
     ⟨-1299364148, -12652⟩, ⟨-1283030948, -9052⟩, ⟨-1267914548, -12652⟩, ⟨-1251581348, -9052⟩,
     ⟨-1236464948, -12652⟩, ⟨-1220131748, -9052⟩, ⟨-1205015348, -12652⟩, ⟨-1188682148, -9052⟩,
     ⟨-1172960948, -12652⟩, ⟨-1156627748, -9052⟩, ⟨-1141511348, -12652⟩, ⟨-1125178148, -9052⟩,
     ⟨-1110061748, -12652⟩, ⟨-1096921748, -12600⟩, ⟨-1093728600, -9000⟩, ⟨-1078612200, -12600⟩,
     ⟨-1061670600, -9000⟩, ⟨-1048973400, -12600⟩, ⟨-1030221000, -9000⟩, ⟨-1017523800, -12600⟩,
     ⟨-998771400, -9000⟩, ⟨-986074200, -12600⟩, ⟨-966717000, -9000⟩, ⟨-954624600, -12600⟩,
     ⟨-935267400, -9000⟩, ⟨-922570200, -12600⟩, ⟨-903817800, -9000⟩, ⟨-891120600, -12600⟩,
     ⟨-872368200, -9000⟩, ⟨-769395600, -9000⟩, ⟨-765401400, -12600⟩, ⟨-746044200, -9000⟩,
     ⟨-733347000, -12600⟩, ⟨-714594600, -9000⟩, ⟨-701897400, -12600⟩, ⟨-683145000, -9000⟩,
     ⟨-670447800, -12600⟩, ⟨-651695400, -9000⟩, ⟨-638998200, -12600⟩, ⟨-619641000, -9000⟩,
     ⟨-606943800, -12600⟩, ⟨-589401000, -9000⟩, ⟨-576099000, -12600⟩, ⟨-557951400, -9000⟩,
     ⟨-544649400, -12600⟩, ⟨-526501800, -9000⟩, ⟨-513199800, -12600⟩, ⟨-495052200, -9000⟩,
     ⟨-481750200, -12600⟩, ⟨-463602600, -9000⟩, ⟨-450300600, -12600⟩, ⟨-431548200, -9000⟩,
     ⟨-418246200, -12600⟩, ⟨-400098600, -9000⟩, ⟨-386796600, -12600⟩, ⟨-368649000, -9000⟩,
     ⟨-355347000, -12600⟩, ⟨-337199400, -9000⟩, ⟨-323897400, -12600⟩, ⟨-305749800, -9000⟩,
     ⟨-289423800, -12600⟩, ⟨-273695400, -9000⟩, ⟨-257974200, -12600⟩, ⟨-242245800, -9000⟩,
     ⟨-226524600, -12600⟩, ⟨-210796200, -9000⟩, ⟨-195075000, -12600⟩, ⟨-179346600, -9000⟩,
     ⟨-163625400, -12600⟩, ⟨-147897000, -9000⟩, ⟨-131571000, -12600⟩, ⟨-116447400, -9000⟩,
     ⟨-100121400, -12600⟩, ⟨-84393000, -9000⟩, ⟨-68671800, -12600⟩, ⟨-52943400, -9000⟩,
     ⟨-37222200, -12600⟩, ⟨-21493800, -9000⟩, ⟨-5772600, -12600⟩, ⟨9955800, -9000⟩,
     ⟨25677000, -12600⟩, ⟨41405400, -9000⟩, ⟨57731400, -12600⟩, ⟨73459800, -9000⟩,
     ⟨89181000, -12600⟩, ⟨104909400, -9000⟩, ⟨120630600, -12600⟩, ⟨136359000, -9000⟩,
     ⟨152080200, -12600⟩, ⟨167808600, -9000⟩, ⟨183529800, -12600⟩, ⟨199258200, -9000⟩,
     ⟨215584200, -12600⟩, ⟨230707800, -9000⟩, ⟨247033800, -12600⟩, ⟨262762200, -9000⟩,
     ⟨278483400, -12600⟩, ⟨294211800, -9000⟩, ⟨309933000, -12600⟩, ⟨325661400, -9000⟩,
     ⟨341382600, -12600⟩, ⟨357111000, -9000⟩, ⟨372832200, -12600⟩, ⟨388560600, -9000⟩,
     ⟨404886600, -12600⟩, ⟨420010200, -9000⟩, ⟨436336200, -12600⟩, ⟨452064600, -9000⟩,
     ⟨467785800, -12600⟩, ⟨483514200, -9000⟩, ⟨499235400, -12600⟩, ⟨514963800, -9000⟩,
     ⟨530685000, -12600⟩, ⟨544591860, -9000⟩, ⟨562127460, -12600⟩, ⟨576041460, -5400⟩,
     ⟨594178260, -12600⟩, ⟨607491060, -9000⟩, ⟨625631460, -12600⟩, ⟨638940660, -9000⟩,
     ⟨657081060, -12600⟩, ⟨670995060, -9000⟩, ⟨688530660, -12600⟩, ⟨702444660, -9000⟩,
     ⟨719980260, -12600⟩, ⟨733894260, -9000⟩, ⟨752034660, -12600⟩, ⟨765343860, -9000⟩,
     ⟨783484260, -12600⟩, ⟨796793460, -9000⟩, ⟨814933860, -12600⟩, ⟨828847860, -9000⟩,
     ⟨846383460, -12600⟩, ⟨860297460, -9000⟩, ⟨877833060, -12600⟩, ⟨891747060, -9000⟩,
     ⟨909282660, -12600⟩, ⟨923196660, -9000⟩, ⟨941337060, -12600⟩, ⟨954646260, -9000⟩,
     ⟨972786660, -12600⟩, ⟨986095860, -9000⟩, ⟨1004236260, -12600⟩, ⟨1018150260, -9000⟩,
     ⟨1035685860, -12600⟩, ⟨1049599860, -9000⟩, ⟨1067135460, -12600⟩, ⟨1081049460, -9000⟩,
     ⟨1099189860, -12600⟩, ⟨1112499060, -9000⟩, ⟨1130639460, -12600⟩, ⟨1143948660, -9000⟩,
     ⟨1162089060, -12600⟩, ⟨1173583860, -9000⟩, ⟨1194143460, -12600⟩, ⟨1205033460, -9000⟩,
     ⟨1225593060, -12600⟩, ⟨1236483060, -9000⟩, ⟨1257042660, -12600⟩, ⟨1268537460, -9000⟩,
     ⟨1289097060, -12600⟩, ⟨1299987060, -9000⟩, ⟨1320114600, -9000⟩]
  tail := .yearly (-12600) (-9000) ⟨3, 2, 0, 7200⟩ ⟨11, 1, 0, 7200⟩

end MediaSearch.Calendar.ZoneTable
