/-
The time zones of Asia.

Each change is the second since the start of 1970 at which an offset came into force,
and that offset; the rule holds after the last change.
-/
import MediaSearch.Calendar.ZoneTable

namespace MediaSearch.Calendar.ZoneTable

/-- The zone Asia/Beirut. -/
def beirut : ZoneTable where
  initial := 8520
  changes :=
    [⟨-2840149320, 7200⟩, ⟨-1570413600, 10800⟩, ⟨-1552186800, 7200⟩, ⟨-1538359200, 10800⟩,
     ⟨-1522551600, 7200⟩, ⟨-1507514400, 10800⟩, ⟨-1490583600, 7200⟩, ⟨-1473645600, 10800⟩,
     ⟨-1460948400, 7200⟩, ⟨-399866400, 10800⟩, ⟨-386650800, 7200⟩, ⟨-368330400, 10800⟩,
     ⟨-355114800, 7200⟩, ⟨-336794400, 10800⟩, ⟨-323578800, 7200⟩, ⟨-305172000, 10800⟩,
     ⟨-291956400, 7200⟩, ⟨-273636000, 10800⟩, ⟨-260420400, 7200⟩, ⟨78012000, 10800⟩,
     ⟨86734800, 7200⟩, ⟨105055200, 10800⟩, ⟨118270800, 7200⟩, ⟨136591200, 10800⟩,
     ⟨149806800, 7200⟩, ⟨168127200, 10800⟩, ⟨181342800, 7200⟩, ⟨199749600, 10800⟩,
     ⟨212965200, 7200⟩, ⟨231285600, 10800⟩, ⟨244501200, 7200⟩, ⟨262735200, 10800⟩,
     ⟨275950800, 7200⟩, ⟨452210400, 10800⟩, ⟨466722000, 7200⟩, ⟨483746400, 10800⟩,
     ⟨498258000, 7200⟩, ⟨515282400, 10800⟩, ⟨529794000, 7200⟩, ⟨546818400, 10800⟩,
     ⟨561330000, 7200⟩, ⟨581119200, 10800⟩, ⟨592952400, 7200⟩, ⟨610754400, 10800⟩,
     ⟨624488400, 7200⟩, ⟨641512800, 10800⟩, ⟨656024400, 7200⟩, ⟨673048800, 10800⟩,
     ⟨687560400, 7200⟩, ⟨704671200, 10800⟩, ⟨718146000, 7200⟩, ⟨733269600, 10800⟩,
     ⟨748990800, 7200⟩, ⟨764719200, 10800⟩, ⟨780440400, 7200⟩, ⟨796168800, 10800⟩,
     ⟨811890000, 7200⟩, ⟨828223200, 10800⟩, ⟨843944400, 7200⟩, ⟨859672800, 10800⟩,
     ⟨875394000, 7200⟩, ⟨891122400, 10800⟩, ⟨906843600, 7200⟩, ⟨922572000, 10800⟩]
  tail := .yearly 7200 10800 ⟨3, 5, 0, 0⟩ ⟨10, 5, 0, 0⟩

/-- The zone Asia/Kathmandu. -/
def kathmandu : ZoneTable where
  initial := 20476
  changes :=
    [⟨-1577943676, 19800⟩, ⟨504901800, 20700⟩]
  tail := .fixed 20700

/-- The zone Asia/Kolkata. -/
def kolkata : ZoneTable where
  initial := 21208
  changes :=
    [⟨-3645237208, 21200⟩, ⟨-3155694800, 19270⟩, ⟨-2019705670, 19800⟩, ⟨-891581400, 23400⟩,
     ⟨-872058600, 19800⟩, ⟨-862637400, 23400⟩, ⟨-764145000, 19800⟩]
  tail := .fixed 19800

/-- The zone Asia/Tehran. -/
def tehran : ZoneTable where
  initial := 12344
  changes :=
    [⟨-1704165944, 12344⟩, ⟨-1090466744, 12600⟩, ⟨227820600, 16200⟩, ⟨246223800, 14400⟩,
     ⟨259617600, 18000⟩, ⟨271108800, 14400⟩, ⟨279576000, 12600⟩, ⟨296512200, 16200⟩,
     ⟨306531000, 12600⟩, ⟨322432200, 16200⟩, ⟨338499000, 12600⟩, ⟨673216200, 16200⟩,
     ⟨685481400, 12600⟩, ⟨701209800, 16200⟩, ⟨717103800, 12600⟩, ⟨732745800, 16200⟩,
     ⟨748639800, 12600⟩, ⟨764281800, 16200⟩, ⟨780175800, 12600⟩, ⟨795817800, 16200⟩,
     ⟨811711800, 12600⟩, ⟨827353800, 16200⟩, ⟨843247800, 12600⟩, ⟨858976200, 16200⟩,
     ⟨874870200, 12600⟩, ⟨890512200, 16200⟩, ⟨906406200, 12600⟩, ⟨922048200, 16200⟩,
     ⟨937942200, 12600⟩, ⟨953584200, 16200⟩, ⟨969478200, 12600⟩, ⟨985206600, 16200⟩,
     ⟨1001100600, 12600⟩, ⟨1016742600, 16200⟩, ⟨1032636600, 12600⟩, ⟨1048278600, 16200⟩,
     ⟨1064172600, 12600⟩, ⟨1079814600, 16200⟩, ⟨1095708600, 12600⟩, ⟨1111437000, 16200⟩,
     ⟨1127331000, 12600⟩, ⟨1206045000, 16200⟩, ⟨1221939000, 12600⟩, ⟨1237667400, 16200⟩,
     ⟨1253561400, 12600⟩, ⟨1269203400, 16200⟩, ⟨1285097400, 12600⟩, ⟨1300739400, 16200⟩,
     ⟨1316633400, 12600⟩, ⟨1332275400, 16200⟩, ⟨1348169400, 12600⟩, ⟨1363897800, 16200⟩,
     ⟨1379791800, 12600⟩, ⟨1395433800, 16200⟩, ⟨1411327800, 12600⟩, ⟨1426969800, 16200⟩,
     ⟨1442863800, 12600⟩, ⟨1458505800, 16200⟩, ⟨1474399800, 12600⟩, ⟨1490128200, 16200⟩,
     ⟨1506022200, 12600⟩, ⟨1521664200, 16200⟩, ⟨1537558200, 12600⟩, ⟨1553200200, 16200⟩,
     ⟨1569094200, 12600⟩, ⟨1584736200, 16200⟩, ⟨1600630200, 12600⟩, ⟨1616358600, 16200⟩,
     ⟨1632252600, 12600⟩, ⟨1647894600, 16200⟩, ⟨1663788600, 12600⟩]
  tail := .fixed 12600

/-- The zone Asia/Tokyo. -/
def tokyo : ZoneTable where
  initial := 33539
  changes :=
    [⟨-2587712400, 32400⟩, ⟨-683802000, 36000⟩, ⟨-672310800, 32400⟩, ⟨-654771600, 36000⟩,
     ⟨-640861200, 32400⟩, ⟨-620298000, 36000⟩, ⟨-609411600, 32400⟩, ⟨-588848400, 36000⟩,
     ⟨-577962000, 32400⟩]
  tail := .fixed 32400

end MediaSearch.Calendar.ZoneTable
