import Punctual.Zone
import Punctual.Zone.Table.Africa
import Punctual.Zone.Table.America
import Punctual.Zone.Table.Asia
import Punctual.Zone.Table.Europe
import Punctual.Zone.Table.Oceans
import Punctual.Zone.Table.Aliases

/-!
The time zones by name: release 2025b of the time zone database. Names are told apart by case. A
zone's history is unrolled when it is first asked for.
-/
namespace Punctual

namespace ZoneTable

/-- The zones with a history of their own. -/
def histories : List (String × List Era) :=
  africaZones ++ americaZones ++ asiaZones ++ europeZones ++ oceansZones

/-- Every name, with its zone. -/
def zones : List (String × Thunk (Option Zone)) :=
  histories.map fun (name, eras) => (name, Thunk.mk fun _ => Zone.ofEras? eras)

end ZoneTable

namespace Zone

/-- The zone with this name or alias. -/
def named? (name : String) : Option Zone := do
  let own := (ZoneTable.aliases.lookup name).getD name
  let zone ← ZoneTable.zones.lookup own
  zone.get

end Zone

end Punctual
