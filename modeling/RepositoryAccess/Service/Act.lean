import RepositoryAccess.Service.Basic

namespace RepositoryAccess

-- A course looks at the service and changes it any number of times before it returns.
inductive Act (α : Type) : Type
  | done (result : α)
  | look (next : Service → Act α)
  | put (service : Service) (next : Act α)

namespace Act
variable {α β : Type}

def bind : Act α → (α → Act β) → Act β
  | done result, f => f result
  | look next, f => look fun service => (next service).bind f
  | put service next, f => put service (next.bind f)

instance : Monad Act where
  pure := done
  bind := bind

instance : MonadStateOf Service Act where
  get := look done
  set service := put service (done ⟨⟩)
  modifyGet f := look fun service =>
    let (result, changed) := f service
    put changed (done result)

def run : Act α → Service → α × Service
  | done result, service => (result, service)
  | look next, service => (next service).run service
  | put changed next, _ => next.run changed

-- The states after the first one, in the order in which the service passes through them.
def moments : Act α → Service → List Service
  | done _, _ => []
  | look next, service => (next service).moments service
  | put changed next, _ => changed :: next.moments changed

end Act

def onResolver {α : Type} (f : Resolver → α × Resolver) : Act α := modifyGet fun service =>
  let (result, resolver) := f service.resolver
  (result, { service with resolver })

def changeResolver (f : Resolver → Resolver) : Act Unit :=
  modify fun service => { service with resolver := f service.resolver }

def shareSet (permissions : Holdings) : Act (Numbered Holdings) := modifyGet fun service =>
  let (shared, sets) := service.sets.give permissions
  (shared, { service with sets })

def shareEntitlement (entitlement : Entitlement) : Act (Numbered Entitlement) :=
  modifyGet fun service =>
    let (shared, entitlements) := service.entitlements.give entitlement
    (shared, { service with entitlements })

end RepositoryAccess
