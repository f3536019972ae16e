import NativeLibs.Foundation.Machine

/-! # Lazy services

`ClientCounterCallbackImpl` keeps for each registered name whether it has clients. The service
manager tells it about changes, naming the binder. What the process does when no service has
clients is left out. -/

namespace NativeLibs.Binder.ClientCounter

open List Machine

structure Service (Name Binder : Type) where
  name : Name
  service : Binder
  clients : Bool := false

variable {Name Binder : Type} [DecidableEq Name] [DecidableEq Binder]

/-- `onClients` at the entry that `assertRegisteredService` finds. It is fatal if there is none,
or if the process already thought so. -/
def notify (service : Binder) (clients : Bool) :
    List (Service Name Binder) → Option (List (Service Name Binder))
  | [] => none
  | entry :: rest =>
    if entry.service = service then
      if entry.clients = clients then none else some ({ entry with clients := clients } :: rest)
    else (notify service clients rest).map (entry :: ·)

/-- A process, until it is aborted, and what it was told last about each name. -/
structure Process (Name Binder : Type) where
  mRegisteredServices : Option (List (Service Name Binder))
  mNumConnectedServices : Nat := 0
  told : Name → Bool := fun _ => false

def Apart (services : List (Service Name Binder)) : Prop :=
  services.Pairwise fun earlier later =>
    earlier.name ≠ later.name ∧ earlier.service ≠ later.service

/-- The process is running and knows what it was told about its names. -/
def Counted (names : List Name) (process : Process Name Binder) : Prop :=
  ∃ services, process.mRegisteredServices = some services ∧ services.map (·.name) = names ∧
    Apart services ∧ (∀ entry ∈ services, entry.clients = process.told entry.name) ∧
    process.mNumConnectedServices = services.countP (·.clients)

end NativeLibs.Binder.ClientCounter
