import RepositoryAccess.Proofs.Course
import RepositoryAccess.Proofs.Upkeep

namespace RepositoryAccess
open RepositoryAccess.Directory

namespace Service

-- The service is sound and comes after `origin`, a moment at which something was begun.
structure Since (origin service : Service) : Prop where
  bounded : origin.emptied ≤ origin.version
  later : Later origin service
  sound : service.Sound

variable {origin service after : Service}

theorem Since.start (sound : service.Sound) : Since service service :=
  ⟨sound.emptied, .refl _, sound⟩

theorem Since.next (since : Since origin service) (later : Later service after)
    (sound : after.Sound) : Since origin after :=
  ⟨since.bounded, since.later.trans later, sound⟩

theorem Since.calm (since : Since origin service)
    (epoch : service.resolver.epoch = origin.resolver.epoch) (steady : service.Steady) :
    Undisturbed origin service := since.later.undisturbed since.bounded epoch steady

theorem Since.coherent (since : Since origin service) (calm : Undisturbed origin service) :
    service.Coherent := since.sound.coherent (calm.steady since.later since.sound.emptied)

end Service

open Service

namespace Act

variable {α β : Type} {origin service : Service} {course : Act α}

-- The course keeps the service sound; its result is right if since `origin` the store was undisturbed.
def Answers (course : Act α) (origin service : Service) (right : α → Prop) : Prop :=
  course.Keeps Sound service fun result after =>
    Later service after ∧ (Undisturbed origin after → right result)

theorem Answers.ran {right : α → Prop} {result : α} {after : Service}
    (answered : course.Answers origin service right) (ran : course.run service = (result, after)) :
    Later service after ∧ (Undisturbed origin after → right result) := by
  have known := answered.2
  rw [ran] at known
  exact known

theorem answers_pure {result : α} {right : α → Prop}
    (told : Undisturbed origin service → right result) :
    (pure result : Act α).Answers origin service right :=
  keeps_pure ⟨.refl _, told⟩

theorem answers_bind {next : α → Act β} {told : α → Prop} {right : β → Prop}
    (since : Since origin service) (answered : course.Answers origin service told)
    (continued : ∀ result after, Since origin after → Later service after →
      (Undisturbed origin after → told result) → (next result).Answers origin after right) :
    (course >>= next).Answers origin service right := by
  refine keeps_bind since.sound answered ?_
  rintro result after sound ⟨later, known⟩
  refine (continued result after (since.next later sound) later known).weaken ?_
  rintro last final ⟨later', known'⟩
  exact ⟨later.trans later', known'⟩

theorem answers_get {next : Service → Act β} {right : β → Prop}
    (continued : (next service).Answers origin service right) :
    (get >>= next : Act β).Answers origin service right := continued

theorem Answers.weaken {told right : α → Prop} (since : Since origin service)
    (answered : course.Answers origin service told)
    (implied : Undisturbed origin service → ∀ result, told result → right result) :
    course.Answers origin service right :=
  Keeps.weaken answered fun result _ known =>
    ⟨known.1, fun calm => implied (calm.before since.later known.1) result (known.2 calm)⟩

theorem Answers.sinceOrigin {told right : α → Prop} (since : Since origin service)
    (answered : course.Answers service service told)
    (implied : Undisturbed origin service → ∀ result, told result → right result) :
    course.Answers origin service right := by
  refine ⟨answered.1, answered.2.1, fun calm => ?_⟩
  have later := answered.2.1
  exact implied (calm.before since.later later) _
    (answered.2.2 (calm.after since.later later since.sound.emptied))

theorem answers_modifyGet {change : Service → α × Service} {right : α → Prop}
    (since : Since origin service) (faded : service.Fades (change service).2)
    (told : Undisturbed origin service → right (change service).1) :
    (modifyGet change : Act α).Answers origin service right :=
  keeps_modifyGet (faded.sound since.sound)
    ⟨faded.later, fun calm => told (calm.before since.later faded.later)⟩

theorem answers_modify {change : Service → Service} {right : PUnit → Prop}
    (sound : (change service).Sound) (later : Later service (change service))
    (told : right ⟨⟩) : (modify change : Act PUnit).Answers origin service right :=
  keeps_modify sound ⟨later, fun _ => told⟩

theorem answers_modify_bind {change : Service → Service} {next : PUnit → Act β} {right : β → Prop}
    (sound : (change service).Sound) (later : Later service (change service))
    (continued : (next ⟨⟩).Answers origin (change service) right) :
    (modify change >>= next : Act β).Answers origin service right := by
  have changed : (modify change : Act PUnit).Keeps Sound service fun _ _ => True :=
    keeps_modify sound trivial
  refine keeps_then changed.1 (Keeps.weaken continued ?_)
  exact fun result after known => ⟨later.trans known.1, known.2⟩

theorem answers_onResolver {f : Resolver → α × Resolver} {right : α → Prop}
    (since : Since origin service) (faded : service.resolver.Fades (f service.resolver).2)
    (told : Undisturbed origin service → right (f service.resolver).1) :
    (onResolver f).Answers origin service right :=
  answers_modifyGet since (Fades.ofResolver faded) told

theorem answers_learning {f : Resolver → α × Resolver} {right : α → Prop}
    (since : Since origin service)
    (sound : Sound { service with resolver := (f service.resolver).2 })
    (later : Later service { service with resolver := (f service.resolver).2 })
    (told : Undisturbed origin service → right (f service.resolver).1) :
    (onResolver f).Answers origin service right :=
  keeps_modifyGet sound ⟨later, fun calm => told (calm.before since.later later)⟩

end Act

-- Reads decide their results by the store as they find it; whatever happens before they return keeps
-- the service sound.
structure Reads.Faithful (reads : Reads) : Prop where
  role : ∀ (service : Service) (id : String), service.Sound →
    (reads.role id).Keeps Sound service fun result after =>
      Later service after ∧ result = service.store.readRole id
  privilege : ∀ (service : Service) (id : String), service.Sound →
    (reads.privilege id).Keeps Sound service fun result after =>
      Later service after ∧ result = service.store.readPrivilege id

namespace Reads.Faithful
open Act

variable {reads : Reads} {origin service : Service}

def RoleTold (origin : Service) (id : String) : Except StoreFault Role → Prop
  | .ok role => origin.store.role? id = some role
  | .error fault => fault.isNotFound = true → origin.store.role? id = none

def PrivilegeTold (origin : Service) (id : String) : Except StoreFault Privilege → Prop
  | .ok privilege => origin.store.privilege? id = some privilege
  | .error fault => fault.isNotFound = true → origin.store.privilege? id = none

theorem role_answers (faithful : reads.Faithful) (since : Since origin service) (id : String) :
    (reads.role id).Answers origin service (RoleTold origin id) := by
  refine (faithful.role service id since.sound).weaken ?_
  rintro result after ⟨later, rfl⟩
  refine ⟨later, fun calm => ?_⟩
  have same := (calm.before since.later later).role? since.later id
  cases read : service.store.readRole id with
  | ok role => exact same.symm.trans (Store.readRole_ok read)
  | error fault =>
    intro missing
    exact same.symm.trans (Store.readRole_missing since.sound.tame read missing)

theorem privilege_answers (faithful : reads.Faithful) (since : Since origin service) (id : String) :
    (reads.privilege id).Answers origin service (PrivilegeTold origin id) := by
  refine (faithful.privilege service id since.sound).weaken ?_
  rintro result after ⟨later, rfl⟩
  refine ⟨later, fun calm => ?_⟩
  have contents := since.later.contents (calm.before since.later later).2
  have same := contents.privilege? id
  cases read : service.store.readPrivilege id with
  | ok privilege => exact same.symm.trans (Store.readPrivilege_ok read)
  | error fault =>
    intro missing
    exact same.symm.trans (Store.readPrivilege_missing since.sound.tame read missing)

end Reads.Faithful
end RepositoryAccess
