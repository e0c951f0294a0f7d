/-
No files stop the bridge.

Whatever a start that was cut off has left, the next one in which nothing fails
makes a new pair if it has to, and comes to serve.
-/

import DscSigning.Bridge.Identity
import DscSigning.Library.Scripts

namespace DscSigning.Startup

open Interaction Program Engine
open DscSigning.Bridge (GoError)

variable {lib : Libraries}

variable (lib) in
/-- Nothing fails, and a new key is one that is generated. -/
def Clean (oracle : Oracle) : Prop := oracle.fault = none ∧ lib.generated oracle.key = true

variable (lib) in
/-- Where nothing fails, the program can only end in the post. -/
abbrev Leads {Value : Type} (post : Except GoError Value → Shared → Prop) (program : Starter Value)
    (shared : Shared) (trace : StartTrace) : Prop :=
  @Ensures face (machine lib) Value (Clean lib) (fun result _ later _ => post result later) program
    () shared trace

theorem Leads.bind {Value Result : Type} {mid : Except GoError Value → Shared → Prop}
    {post : Except GoError Result → Shared → Prop} {program : Starter Value}
    {next : Value → Starter Result} {shared : Shared} {trace : StartTrace}
    (first : Leads lib mid program shared trace)
    (onDone : ∀ value later after, mid (.ok value) later →
      Leads lib post (next value) later after)
    (onFail : ∀ err later, mid (.error err) later → post (.error err) later) :
    Leads lib post (program.bind next) shared trace :=
  Ensures.bind first (fun value _ later after ends => onDone value later after ends)
    fun err _ later _ ends => onFail err later ends

def Found (lib : Libraries) (shared : Shared) (loaded : Except GoError KeyPair) : Prop :=
  ∀ pair, loaded = .ok pair ↔ Loads lib shared.files pair

end DscSigning.Startup
