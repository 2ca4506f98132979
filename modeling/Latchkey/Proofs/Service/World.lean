import Latchkey.Proofs.Service.Frame
import Latchkey.Service.World
/-!
# Services in memory

What is said of services whose keys lie in a table holds of every service on a `World`, whatever its
plugins and its configuration.
-/

namespace Latchkey.World

open Act

theorem keysPart_lawful : keysPart.Lawful where
  get_set _ _ := rfl
  set_get _ := rfl

theorem ratesPart_lawful : ratesPart.Lawful where
  get_set _ _ := rfl
  set_get _ := rfl

/-- The service that the site provides for, with its events kept. -/
def service (plugins : Pipeline World) (config : ServiceConfig) : Service World :=
  { store := site.keys, rates := some site.rates, sink, plugins, now := site.now,
    random := site.random, config }

theorem service_onTable (plugins : Pipeline World) (config : ServiceConfig) :
    (service plugins config).OnTable keysPart where
  lawful := keysPart_lawful
  store_eq := rfl
  track_keeps _ _ := rfl
  random_keeps n := Keeps.onPart (fun _ _ => rfl) (Entropy.draw n)
  now_set _ _ := rfl

/-- Every key is the text `k`, which is its own digest too. -/
def sameKey : ServiceConfig :=
  { generator := { kind := .custom (.done (.ok "k")) }, hasher := .custom id }

/-- A first key leaves a consistent table, where no plugins are. -/
theorem consistent_of_create (config : ServiceConfig) (request : CreateRequest) :
    (keysPart.get ((service [] config).create request {}).2).Consistent :=
  ((service_onTable [] config).create_served (fun _ hp => by cases hp) request {}).consistent
    KeyTable.consistent_empty

/-- The identifier that the first bytes of a counter make. -/
def firstId : KeyId := ⟨"00000203-0405-4607-8809-0a0b0c0d0e0f"⟩

end Latchkey.World
