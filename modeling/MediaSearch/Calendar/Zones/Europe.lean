/-
The time zones of Europe.

Each change is the second since the start of 1970 at which an offset came into force,
and that offset; the rule holds after the last change.
-/
import MediaSearch.Calendar.ZoneTable

namespace MediaSearch.Calendar.ZoneTable

/-- The zone Europe/Berlin. -/
def berlin : ZoneTable where
  initial := 3208
  changes :=
    [⟨-2422054408, 3600⟩, ⟨-1693706400, 7200⟩, ⟨-1680483600, 3600⟩, ⟨-1663455600, 7200⟩,
     ⟨-1650150000, 3600⟩, ⟨-1632006000, 7200⟩, ⟨-1618700400, 3600⟩, ⟨-938905200, 7200⟩,
     ⟨-857257200, 3600⟩, ⟨-844556400, 7200⟩, ⟨-828226800, 3600⟩, ⟨-812502000, 7200⟩,
     ⟨-796777200, 3600⟩, ⟨-781052400, 7200⟩, ⟨-776563200, 10800⟩, ⟨-765936000, 7200⟩,
     ⟨-761180400, 3600⟩, ⟨-748479600, 7200⟩, ⟨-733273200, 3600⟩, ⟨-717631200, 7200⟩,
     ⟨-714610800, 10800⟩, ⟨-710380800, 7200⟩, ⟨-701910000, 3600⟩, ⟨-684975600, 7200⟩,
     ⟨-670460400, 3600⟩, ⟨-654130800, 7200⟩, ⟨-639010800, 3600⟩, ⟨323830800, 7200⟩,
     ⟨338950800, 3600⟩, ⟨354675600, 7200⟩, ⟨370400400, 3600⟩, ⟨386125200, 7200⟩,
     ⟨401850000, 3600⟩, ⟨417574800, 7200⟩, ⟨433299600, 3600⟩, ⟨449024400, 7200⟩,
     ⟨465354000, 3600⟩, ⟨481078800, 7200⟩, ⟨496803600, 3600⟩, ⟨512528400, 7200⟩,
     ⟨528253200, 3600⟩, ⟨543978000, 7200⟩, ⟨559702800, 3600⟩, ⟨575427600, 7200⟩,
     ⟨591152400, 3600⟩, ⟨606877200, 7200⟩, ⟨622602000, 3600⟩, ⟨638326800, 7200⟩,
     ⟨654656400, 3600⟩, ⟨670381200, 7200⟩, ⟨686106000, 3600⟩, ⟨701830800, 7200⟩,
     ⟨717555600, 3600⟩, ⟨733280400, 7200⟩, ⟨749005200, 3600⟩, ⟨764730000, 7200⟩,
     ⟨780454800, 3600⟩, ⟨796179600, 7200⟩, ⟨811904400, 3600⟩, ⟨828234000, 7200⟩]
  tail := .yearly 3600 7200 ⟨3, 5, 0, 7200⟩ ⟨10, 5, 0, 10800⟩

/-- The zone Europe/Dublin. -/
def dublin : ZoneTable where
  initial := -1521
  changes :=
    [⟨-2821649679, -1521⟩, ⟨-1691962479, 2079⟩, ⟨-1680471279, 0⟩, ⟨-1664143200, 3600⟩,
     ⟨-1650146400, 0⟩, ⟨-1633903200, 3600⟩, ⟨-1617487200, 0⟩, ⟨-1601848800, 3600⟩,
     ⟨-1586037600, 0⟩, ⟨-1570399200, 3600⟩, ⟨-1552168800, 0⟩, ⟨-1538344800, 3600⟩,
     ⟨-1522533600, 0⟩, ⟨-1507500000, 3600⟩, ⟨-1490565600, 0⟩, ⟨-1473631200, 3600⟩,
     ⟨-1460930400, 0⟩, ⟨-1442786400, 3600⟩, ⟨-1428876000, 0⟩, ⟨-1410732000, 3600⟩,
     ⟨-1397426400, 0⟩, ⟨-1379282400, 3600⟩, ⟨-1364767200, 0⟩, ⟨-1348437600, 3600⟩,
     ⟨-1333317600, 0⟩, ⟨-1315778400, 3600⟩, ⟨-1301263200, 0⟩, ⟨-1284328800, 3600⟩,
     ⟨-1269813600, 0⟩, ⟨-1253484000, 3600⟩, ⟨-1238364000, 0⟩, ⟨-1221429600, 3600⟩,
     ⟨-1206914400, 0⟩, ⟨-1189980000, 3600⟩, ⟨-1175464800, 0⟩, ⟨-1159135200, 3600⟩,
     ⟨-1143410400, 0⟩, ⟨-1126476000, 3600⟩, ⟨-1111960800, 0⟩, ⟨-1095631200, 3600⟩,
     ⟨-1080511200, 0⟩, ⟨-1063576800, 3600⟩, ⟨-1049061600, 0⟩, ⟨-1032127200, 3600⟩,
     ⟨-1017612000, 0⟩, ⟨-1001282400, 3600⟩, ⟨-986162400, 0⟩, ⟨-969228000, 3600⟩, ⟨-950479200, 0⟩,
     ⟨-942012000, 3600⟩, ⟨-733356000, 0⟩, ⟨-719445600, 3600⟩, ⟨-699487200, 0⟩, ⟨-684972000, 3600⟩,
     ⟨-668037600, 0⟩, ⟨-654732000, 3600⟩, ⟨-636588000, 0⟩, ⟨-622072800, 3600⟩, ⟨-605743200, 0⟩,
     ⟨-590623200, 3600⟩, ⟨-574293600, 0⟩, ⟨-558568800, 3600⟩, ⟨-542239200, 0⟩, ⟨-527119200, 3600⟩,
     ⟨-512604000, 0⟩, ⟨-496274400, 3600⟩, ⟨-481154400, 0⟩, ⟨-464220000, 3600⟩, ⟨-449704800, 0⟩,
     ⟨-432165600, 3600⟩, ⟨-417650400, 0⟩, ⟨-401320800, 3600⟩, ⟨-386200800, 0⟩, ⟨-369266400, 3600⟩,
     ⟨-354751200, 0⟩, ⟨-337816800, 3600⟩, ⟨-323301600, 0⟩, ⟨-306972000, 3600⟩, ⟨-291852000, 0⟩,
     ⟨-276732000, 3600⟩, ⟨-257983200, 0⟩, ⟨-245282400, 3600⟩, ⟨-226533600, 0⟩, ⟨-213228000, 3600⟩,
     ⟨-195084000, 0⟩, ⟨-182383200, 3600⟩, ⟨-163634400, 0⟩, ⟨-150933600, 3600⟩, ⟨-132184800, 0⟩,
     ⟨-119484000, 3600⟩, ⟨-100735200, 0⟩, ⟨-88034400, 3600⟩, ⟨-68680800, 0⟩, ⟨-59004000, 3600⟩,
     ⟨-37242000, 3600⟩, ⟨57722400, 0⟩, ⟨69818400, 3600⟩, ⟨89172000, 0⟩, ⟨101268000, 3600⟩,
     ⟨120621600, 0⟩, ⟨132717600, 3600⟩, ⟨152071200, 0⟩, ⟨164167200, 3600⟩, ⟨183520800, 0⟩,
     ⟨196221600, 3600⟩, ⟨214970400, 0⟩, ⟨227671200, 3600⟩, ⟨246420000, 0⟩, ⟨259120800, 3600⟩,
     ⟨278474400, 0⟩, ⟨290570400, 3600⟩, ⟨309924000, 0⟩, ⟨322020000, 3600⟩, ⟨341373600, 0⟩,
     ⟨354675600, 3600⟩, ⟨372819600, 0⟩, ⟨386125200, 3600⟩, ⟨404269200, 0⟩, ⟨417574800, 3600⟩,
     ⟨435718800, 0⟩, ⟨449024400, 3600⟩, ⟨467773200, 0⟩, ⟨481078800, 3600⟩, ⟨499222800, 0⟩,
     ⟨512528400, 3600⟩, ⟨530672400, 0⟩, ⟨543978000, 3600⟩, ⟨562122000, 0⟩, ⟨575427600, 3600⟩,
     ⟨593571600, 0⟩, ⟨606877200, 3600⟩, ⟨625626000, 0⟩, ⟨638326800, 3600⟩, ⟨657075600, 0⟩,
     ⟨670381200, 3600⟩, ⟨688525200, 0⟩, ⟨701830800, 3600⟩, ⟨719974800, 0⟩, ⟨733280400, 3600⟩,
     ⟨751424400, 0⟩, ⟨764730000, 3600⟩, ⟨782874000, 0⟩, ⟨796179600, 3600⟩, ⟨814323600, 0⟩,
     ⟨828234000, 3600⟩]
  tail := .yearly 3600 0 ⟨10, 5, 0, 7200⟩ ⟨3, 5, 0, 3600⟩

/-- The zone Europe/London. -/
def london : ZoneTable where
  initial := -75
  changes :=
    [⟨-3852662325, 0⟩, ⟨-1691964000, 3600⟩, ⟨-1680472800, 0⟩, ⟨-1664143200, 3600⟩,
     ⟨-1650146400, 0⟩, ⟨-1633903200, 3600⟩, ⟨-1617487200, 0⟩, ⟨-1601848800, 3600⟩,
     ⟨-1586037600, 0⟩, ⟨-1570399200, 3600⟩, ⟨-1552168800, 0⟩, ⟨-1538344800, 3600⟩,
     ⟨-1522533600, 0⟩, ⟨-1507500000, 3600⟩, ⟨-1490565600, 0⟩, ⟨-1473631200, 3600⟩,
     ⟨-1460930400, 0⟩, ⟨-1442786400, 3600⟩, ⟨-1428876000, 0⟩, ⟨-1410732000, 3600⟩,
     ⟨-1396216800, 0⟩, ⟨-1379282400, 3600⟩, ⟨-1364767200, 0⟩, ⟨-1348437600, 3600⟩,
     ⟨-1333317600, 0⟩, ⟨-1315778400, 3600⟩, ⟨-1301263200, 0⟩, ⟨-1284328800, 3600⟩,
     ⟨-1269813600, 0⟩, ⟨-1253484000, 3600⟩, ⟨-1238364000, 0⟩, ⟨-1221429600, 3600⟩,
     ⟨-1206914400, 0⟩, ⟨-1189980000, 3600⟩, ⟨-1175464800, 0⟩, ⟨-1159135200, 3600⟩,
     ⟨-1143410400, 0⟩, ⟨-1126476000, 3600⟩, ⟨-1111960800, 0⟩, ⟨-1095631200, 3600⟩,
     ⟨-1080511200, 0⟩, ⟨-1063576800, 3600⟩, ⟨-1049061600, 0⟩, ⟨-1032127200, 3600⟩,
     ⟨-1017612000, 0⟩, ⟨-1001282400, 3600⟩, ⟨-986162400, 0⟩, ⟨-969228000, 3600⟩, ⟨-950479200, 0⟩,
     ⟨-942012000, 3600⟩, ⟨-904518000, 7200⟩, ⟨-896050800, 3600⟩, ⟨-875487600, 7200⟩,
     ⟨-864601200, 3600⟩, ⟨-844038000, 7200⟩, ⟨-832546800, 3600⟩, ⟨-812588400, 7200⟩,
     ⟨-798073200, 3600⟩, ⟨-781052400, 7200⟩, ⟨-772066800, 3600⟩, ⟨-764805600, 0⟩,
     ⟨-748476000, 3600⟩, ⟨-733356000, 0⟩, ⟨-719445600, 3600⟩, ⟨-717030000, 7200⟩,
     ⟨-706748400, 3600⟩, ⟨-699487200, 0⟩, ⟨-687996000, 3600⟩, ⟨-668037600, 0⟩, ⟨-654732000, 3600⟩,
     ⟨-636588000, 0⟩, ⟨-622072800, 3600⟩, ⟨-605743200, 0⟩, ⟨-590623200, 3600⟩, ⟨-574293600, 0⟩,
     ⟨-558568800, 3600⟩, ⟨-542239200, 0⟩, ⟨-527119200, 3600⟩, ⟨-512604000, 0⟩, ⟨-496274400, 3600⟩,
     ⟨-481154400, 0⟩, ⟨-464220000, 3600⟩, ⟨-449704800, 0⟩, ⟨-432165600, 3600⟩, ⟨-417650400, 0⟩,
     ⟨-401320800, 3600⟩, ⟨-386200800, 0⟩, ⟨-369266400, 3600⟩, ⟨-354751200, 0⟩, ⟨-337816800, 3600⟩,
     ⟨-323301600, 0⟩, ⟨-306972000, 3600⟩, ⟨-291852000, 0⟩, ⟨-276732000, 3600⟩, ⟨-257983200, 0⟩,
     ⟨-245282400, 3600⟩, ⟨-226533600, 0⟩, ⟨-213228000, 3600⟩, ⟨-195084000, 0⟩, ⟨-182383200, 3600⟩,
     ⟨-163634400, 0⟩, ⟨-150933600, 3600⟩, ⟨-132184800, 0⟩, ⟨-119484000, 3600⟩, ⟨-100735200, 0⟩,
     ⟨-88034400, 3600⟩, ⟨-68680800, 0⟩, ⟨-59004000, 3600⟩, ⟨-37242000, 3600⟩, ⟨57722400, 0⟩,
     ⟨69818400, 3600⟩, ⟨89172000, 0⟩, ⟨101268000, 3600⟩, ⟨120621600, 0⟩, ⟨132717600, 3600⟩,
     ⟨152071200, 0⟩, ⟨164167200, 3600⟩, ⟨183520800, 0⟩, ⟨196221600, 3600⟩, ⟨214970400, 0⟩,
     ⟨227671200, 3600⟩, ⟨246420000, 0⟩, ⟨259120800, 3600⟩, ⟨278474400, 0⟩, ⟨290570400, 3600⟩,
     ⟨309924000, 0⟩, ⟨322020000, 3600⟩, ⟨341373600, 0⟩, ⟨354675600, 3600⟩, ⟨372819600, 0⟩,
     ⟨386125200, 3600⟩, ⟨404269200, 0⟩, ⟨417574800, 3600⟩, ⟨435718800, 0⟩, ⟨449024400, 3600⟩,
     ⟨467773200, 0⟩, ⟨481078800, 3600⟩, ⟨499222800, 0⟩, ⟨512528400, 3600⟩, ⟨530672400, 0⟩,
     ⟨543978000, 3600⟩, ⟨562122000, 0⟩, ⟨575427600, 3600⟩, ⟨593571600, 0⟩, ⟨606877200, 3600⟩,
     ⟨625626000, 0⟩, ⟨638326800, 3600⟩, ⟨657075600, 0⟩, ⟨670381200, 3600⟩, ⟨688525200, 0⟩,
     ⟨701830800, 3600⟩, ⟨719974800, 0⟩, ⟨733280400, 3600⟩, ⟨751424400, 0⟩, ⟨764730000, 3600⟩,
     ⟨782874000, 0⟩, ⟨796179600, 3600⟩, ⟨814323600, 0⟩, ⟨820454400, 0⟩]
  tail := .yearly 0 3600 ⟨3, 5, 0, 3600⟩ ⟨10, 5, 0, 7200⟩

end MediaSearch.Calendar.ZoneTable
