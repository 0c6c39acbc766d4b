import EtcdLocator.Locator.Basic
import EtcdLocator.Report.Connection

namespace EtcdLocator.Locator

variable {σ κ : Type} (b : Backend σ κ)

def inspect (c : κ) (l : Locator σ κ) : Except Cause Report.Connection × Locator σ κ :=
  let (answer, world) := l.world.members b c
  (answer.map (Report.Connection.ofMembers (b.endpoint c) (b.leaderId c)),
    { l with world := world.close b c })

end EtcdLocator.Locator
