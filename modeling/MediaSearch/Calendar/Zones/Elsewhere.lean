/-
The time zones of Africa, the Pacific and Antarctica, and the zones of one offset.

Each change is the second since the start of 1970 at which an offset came into force,
and that offset; the rule holds after the last change.
-/
import MediaSearch.Calendar.ZoneTable

namespace MediaSearch.Calendar.ZoneTable

/-- The zone Africa/Casablanca. -/
def casablanca : ZoneTable where
  initial := -1820
  changes :=
    [⟨-1773012580, 0⟩, ⟨-956361600, 3600⟩, ⟨-950490000, 0⟩, ⟨-942019200, 3600⟩, ⟨-761187600, 0⟩,
     ⟨-617241600, 3600⟩, ⟨-605149200, 0⟩, ⟨-81432000, 3600⟩, ⟨-71110800, 0⟩, ⟨141264000, 3600⟩,
     ⟨147222000, 0⟩, ⟨199756800, 3600⟩, ⟨207702000, 0⟩, ⟨231292800, 3600⟩, ⟨244249200, 0⟩,
     ⟨265507200, 3600⟩, ⟨271033200, 0⟩, ⟨448243200, 3600⟩, ⟨504918000, 0⟩, ⟨1212278400, 3600⟩,
     ⟨1220223600, 0⟩, ⟨1243814400, 3600⟩, ⟨1250809200, 0⟩, ⟨1272758400, 3600⟩, ⟨1281222000, 0⟩,
     ⟨1301788800, 3600⟩, ⟨1312066800, 0⟩, ⟨1335664800, 3600⟩, ⟨1342749600, 0⟩, ⟨1345428000, 3600⟩,
     ⟨1348970400, 0⟩, ⟨1367114400, 3600⟩, ⟨1373162400, 0⟩, ⟨1376100000, 3600⟩, ⟨1382839200, 0⟩,
     ⟨1396144800, 3600⟩, ⟨1403920800, 0⟩, ⟨1406944800, 3600⟩, ⟨1414288800, 0⟩, ⟨1427594400, 3600⟩,
     ⟨1434247200, 0⟩, ⟨1437271200, 3600⟩, ⟨1445738400, 0⟩, ⟨1459044000, 3600⟩, ⟨1465092000, 0⟩,
     ⟨1468116000, 3600⟩, ⟨1477792800, 0⟩, ⟨1490493600, 3600⟩, ⟨1495332000, 0⟩, ⟨1498960800, 3600⟩,
     ⟨1509242400, 0⟩, ⟨1521943200, 3600⟩, ⟨1526176800, 0⟩, ⟨1529200800, 3600⟩, ⟨1540692000, 3600⟩,
     ⟨1557021600, 0⟩, ⟨1560045600, 3600⟩, ⟨1587261600, 0⟩, ⟨1590890400, 3600⟩, ⟨1618106400, 0⟩,
     ⟨1621130400, 3600⟩, ⟨1648346400, 0⟩, ⟨1651975200, 3600⟩, ⟨1679191200, 0⟩, ⟨1682215200, 3600⟩,
     ⟨1710036000, 0⟩, ⟨1713060000, 3600⟩, ⟨1740276000, 0⟩, ⟨1743904800, 3600⟩, ⟨1771120800, 0⟩,
     ⟨1774144800, 3600⟩, ⟨1789866000, 0⟩]
  tail := .fixed 0

/-- The zone Antarctica/Troll. -/
def troll : ZoneTable where
  initial := 0
  changes :=
    [⟨1108166400, 0⟩]
  tail := .yearly 0 7200 ⟨3, 5, 0, 3600⟩ ⟨10, 5, 0, 10800⟩

/-- The zone Australia/Lord_Howe. -/
def lordHowe : ZoneTable where
  initial := 38180
  changes :=
    [⟨-2364114980, 36000⟩, ⟨352216800, 37800⟩, ⟨372785400, 41400⟩, ⟨384273000, 37800⟩,
     ⟨404839800, 41400⟩, ⟨415722600, 37800⟩, ⟨436289400, 41400⟩, ⟨447172200, 37800⟩,
     ⟨467739000, 41400⟩, ⟨478621800, 37800⟩, ⟨499188600, 39600⟩, ⟨511282800, 37800⟩,
     ⟨530033400, 39600⟩, ⟨542732400, 37800⟩, ⟨562087800, 39600⟩, ⟨574786800, 37800⟩,
     ⟨594142200, 39600⟩, ⟨606236400, 37800⟩, ⟨625591800, 39600⟩, ⟨636476400, 37800⟩,
     ⟨657041400, 39600⟩, ⟨667926000, 37800⟩, ⟨688491000, 39600⟩, ⟨699375600, 37800⟩,
     ⟨719940600, 39600⟩, ⟨731430000, 37800⟩, ⟨751995000, 39600⟩, ⟨762879600, 37800⟩,
     ⟨783444600, 39600⟩, ⟨794329200, 37800⟩, ⟨814894200, 39600⟩, ⟨828198000, 37800⟩,
     ⟨846343800, 39600⟩, ⟨859647600, 37800⟩, ⟨877793400, 39600⟩, ⟨891097200, 37800⟩,
     ⟨909243000, 39600⟩, ⟨922546800, 37800⟩, ⟨941297400, 39600⟩, ⟨953996400, 37800⟩,
     ⟨967303800, 39600⟩, ⟨985446000, 37800⟩, ⟨1004196600, 39600⟩, ⟨1017500400, 37800⟩,
     ⟨1035646200, 39600⟩, ⟨1048950000, 37800⟩, ⟨1067095800, 39600⟩, ⟨1080399600, 37800⟩,
     ⟨1099150200, 39600⟩, ⟨1111849200, 37800⟩, ⟨1130599800, 39600⟩, ⟨1143903600, 37800⟩,
     ⟨1162049400, 39600⟩, ⟨1174748400, 37800⟩, ⟨1193499000, 39600⟩, ⟨1207407600, 37800⟩]
  tail := .yearly 37800 39600 ⟨10, 1, 0, 7200⟩ ⟨4, 1, 0, 7200⟩

/-- The zone Pacific/Apia. -/
def apia : ZoneTable where
  initial := 45184
  changes :=
    [⟨-2445424384, -41216⟩, ⟨-1861878784, -41400⟩, ⟨-631110600, -39600⟩, ⟨1285498800, -36000⟩,
     ⟨1301752800, -39600⟩, ⟨1316872800, -36000⟩, ⟨1325239200, 50400⟩, ⟨1333202400, 46800⟩,
     ⟨1348927200, 50400⟩, ⟨1365256800, 46800⟩, ⟨1380376800, 50400⟩, ⟨1396706400, 46800⟩,
     ⟨1411826400, 50400⟩, ⟨1428156000, 46800⟩, ⟨1443276000, 50400⟩, ⟨1459605600, 46800⟩,
     ⟨1474725600, 50400⟩, ⟨1491055200, 46800⟩, ⟨1506175200, 50400⟩, ⟨1522504800, 46800⟩,
     ⟨1538229600, 50400⟩, ⟨1554559200, 46800⟩, ⟨1569679200, 50400⟩, ⟨1586008800, 46800⟩,
     ⟨1601128800, 50400⟩, ⟨1617458400, 46800⟩]
  tail := .fixed 46800

/-- The zone Pacific/Kiritimati. -/
def kiritimati : ZoneTable where
  initial := -37760
  changes :=
    [⟨-2177415040, -38400⟩, ⟨307622400, -36000⟩, ⟨788868000, 50400⟩]
  tail := .fixed 50400

/-- The zone Etc/GMT+12. -/
def gmtPlus12 : ZoneTable where
  initial := -43200
  changes :=
    []
  tail := .fixed (-43200)

/-- The zone UTC. -/
def utc : ZoneTable where
  initial := 0
  changes :=
    []
  tail := .fixed 0

end MediaSearch.Calendar.ZoneTable
