import Mathlib.Logic.Relation
import RepositoryAccess.Service.Perform
import RepositoryAccess.Proofs.Holdings

namespace RepositoryAccess

namespace Directory.Store

-- One existing role contains another role, which need not exist.
def Contains (store : Store) (outer inner : String) : Prop :=
  ∃ role, store.role? outer = some role ∧ inner ∈ role.roles

def Reaches (store : Store) : String → String → Prop := Relation.ReflTransGen store.Contains

-- The store may be unavailable, but it does not say of what exists that it is missing.
structure Tame (store : Store) : Prop where
  failures : ∀ failure ∈ store.failures, failure.fault.isNotFound = false
  lock : store.lock.Honest

variable {store other : Store}

theorem SameContents.refl (store : Store) : store.SameContents store := ⟨rfl, rfl⟩

theorem SameContents.symm (same : store.SameContents other) : other.SameContents store :=
  ⟨same.1.symm, same.2.symm⟩

theorem SameContents.trans {third : Store} (first : store.SameContents other)
    (second : other.SameContents third) : store.SameContents third :=
  ⟨first.1.trans second.1, first.2.trans second.2⟩

theorem SameContents.role? (same : store.SameContents other) (id : String) :
    store.role? id = other.role? id := by
  unfold Store.role?
  rw [same.1]

theorem SameContents.privilege? (same : store.SameContents other) (id : String) :
    store.privilege? id = other.privilege? id := by
  unfold Store.privilege?
  rw [same.2]

theorem SameContents.contains (same : store.SameContents other) : store.Contains = other.Contains := by
  funext outer inner
  unfold Contains
  rw [same.role?]

theorem SameContents.reaches (same : store.SameContents other) : store.Reaches = other.Reaches := by
  unfold Reaches
  rw [same.contains]

theorem failure_unavailable (tame : store.Tame) {kind : ReadKind} {id : String} {fault : StoreFault}
    (failed : store.failure? kind id = some fault) : fault.isNotFound = false := by
  have told : ∀ name, (store.failures.find? fun failure =>
      failure.kind = kind ∧ failure.id = name).map (·.fault) = some fault →
      fault.isNotFound = false := by
    intro name found
    obtain ⟨failure, present, rfl⟩ := Option.map_eq_some_iff.mp found
    exact tame.failures failure (List.mem_of_find?_eq_some present)
  simp only [failure?, Option.orElse_eq_orElse, Option.orElse_eq_or, Option.or_eq_some_iff] at failed
  rcases failed with own | ⟨_, all⟩
  · exact told id own
  · exact told everyId all

theorem readRole_ok {id : String} {role : Role} (read : store.readRole id = .ok role) :
    store.role? id = some role := by
  unfold readRole at read
  cases failed : store.failure? .role id with
  | some fault => simp [failed] at read
  | none =>
    cases found : store.role? id with
    | none => simp [failed, found] at read
    | some held => simp_all

theorem readRole_missing (tame : store.Tame) {id : String} {fault : StoreFault}
    (read : store.readRole id = .error fault) (missing : fault.isNotFound = true) :
    store.role? id = none := by
  unfold readRole at read
  cases failed : store.failure? .role id with
  | some told =>
    have same : told = fault := by simpa [failed] using read
    rw [← same, failure_unavailable tame failed] at missing
    cases missing
  | none =>
    cases found : store.role? id with
    | none => rfl
    | some held => simp [failed, found] at read

theorem readPrivilege_ok {id : String} {privilege : Privilege}
    (read : store.readPrivilege id = .ok privilege) : store.privilege? id = some privilege := by
  unfold readPrivilege at read
  cases failed : store.failure? .privilege id with
  | some fault => simp [failed] at read
  | none =>
    cases found : store.privilege? id with
    | none => simp [failed, found] at read
    | some held => simp_all

theorem readPrivilege_missing (tame : store.Tame) {id : String} {fault : StoreFault}
    (read : store.readPrivilege id = .error fault) (missing : fault.isNotFound = true) :
    store.privilege? id = none := by
  unfold readPrivilege at read
  cases failed : store.failure? .privilege id with
  | some told =>
    have same : told = fault := by simpa [failed] using read
    rw [← same, failure_unavailable tame failed] at missing
    cases missing
  | none =>
    cases found : store.privilege? id with
    | none => rfl
    | some held => simp [failed, found] at read

theorem failure_none (unfailing : store.failures = []) (kind : ReadKind) (id : String) :
    store.failure? kind id = none := by
  simp [failure?, unfailing]

theorem readRole_absent (unfailing : store.failures = []) {id : String} {fault : StoreFault}
    (read : store.readRole id = .error fault) : store.role? id = none ∧ fault.isNotFound = true := by
  unfold readRole at read
  rw [failure_none unfailing] at read
  cases found : store.role? id with
  | some role => rw [found] at read; cases read
  | none => rw [found] at read; cases read; exact ⟨rfl, rfl⟩

theorem readPrivilege_absent (unfailing : store.failures = []) {id : String} {fault : StoreFault}
    (read : store.readPrivilege id = .error fault) :
    store.privilege? id = none ∧ fault.isNotFound = true := by
  unfold readPrivilege at read
  rw [failure_none unfailing] at read
  cases found : store.privilege? id with
  | some privilege => rw [found] at read; cases read
  | none => rw [found] at read; cases read; exact ⟨rfl, rfl⟩

end Directory.Store

namespace Service
open Directory

def Yields (service : Service) (id : String) (permission : Permission) : Prop :=
  ∃ privilege text, service.store.privilege? id = some privilege ∧
    Resolver.grantText service.resolver.descriptors privilege = some text ∧
      Permission.parse text = .ok permission

def Confers (service : Service) (id : String) (permission : Permission) : Prop :=
  ∃ reached role privilege, service.store.Reaches id reached ∧
    service.store.role? reached = some role ∧ privilege ∈ role.privileges ∧
      service.Yields privilege permission

variable {service other : Service}

theorem yields_congr (contents : service.store.SameContents other.store)
    (descriptors : service.resolver.descriptors = other.resolver.descriptors) :
    service.Yields = other.Yields := by
  funext id permission
  unfold Yields
  rw [contents.privilege?, descriptors]

theorem confers_congr (contents : service.store.SameContents other.store)
    (descriptors : service.resolver.descriptors = other.resolver.descriptors) :
    service.Confers = other.Confers := by
  funext id permission
  unfold Confers
  rw [yields_congr contents descriptors, contents.reaches]
  simp only [contents.role?]

theorem yields_unique {id : String} {left right : Permission} (first : service.Yields id left)
    (second : service.Yields id right) : left = right := by
  obtain ⟨privilege, text, found, granted, parsed⟩ := first
  obtain ⟨privilege', text', found', granted', parsed'⟩ := second
  cases found.symm.trans found'
  cases granted.symm.trans granted'
  exact Except.ok.inj (parsed.symm.trans parsed')

theorem confers_self {id privilege : String} {role : Role} {permission : Permission}
    (exists_ : service.store.role? id = some role) (member : privilege ∈ role.privileges)
    (yielded : service.Yields privilege permission) : service.Confers id permission :=
  ⟨id, role, privilege, .refl, exists_, member, yielded⟩

theorem confers_reached {outer inner : String} {permission : Permission}
    (reached : service.store.Reaches outer inner) (conferred : service.Confers inner permission) :
    service.Confers outer permission := by
  obtain ⟨last, role, privilege, path, rest⟩ := conferred
  exact ⟨last, role, privilege, reached.trans path, rest⟩

end Service
end RepositoryAccess
