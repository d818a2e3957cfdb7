import RepositoryAccess.Service.Act

namespace RepositoryAccess.Act

variable {α β : Type} {keep rely : Service → Prop} {service : Service} {course : Act α}
  {ending : α → Service → Prop}

theorem run_bind (course : Act α) (next : α → Act β) (service : Service) :
    (course >>= next).run service =
      (next (course.run service).1).run (course.run service).2 := by
  induction course generalizing service with
  | done result => rfl
  | look body ih => exact ih service service
  | put changed body ih => exact ih changed

theorem moments_bind (course : Act α) (next : α → Act β) (service : Service) :
    (course >>= next).moments service =
      course.moments service ++ (next (course.run service).1).moments (course.run service).2 := by
  induction course generalizing service with
  | done result => rfl
  | look body ih => exact ih service service
  | put changed body ih =>
    show changed :: (body >>= next).moments changed = changed :: (body.moments changed ++ _)
    rw [ih changed]
    rfl

theorem bind_assoc {γ : Type} (course : Act α) (next : α → Act β) (last : β → Act γ) :
    (course >>= next) >>= last = course >>= fun result => next result >>= last := by
  induction course with
  | done result => rfl
  | look body ih => exact congrArg look (funext ih)
  | put changed body ih => exact congrArg (put changed) ih

theorem run_mem (course : Act α) (service : Service) :
    (course.run service).2 ∈ service :: course.moments service := by
  induction course generalizing service with
  | done result => exact List.mem_cons_self
  | look body ih => exact ih service service
  | put changed body ih => exact List.mem_cons_of_mem _ (ih changed)

-- Every state passed through is one of `keep`, and the end is as told.
def Keeps (keep : Service → Prop) (course : Act α) (service : Service)
    (ending : α → Service → Prop) : Prop :=
  (∀ moment ∈ course.moments service, keep moment) ∧
    ending (course.run service).1 (course.run service).2

-- The end is as told, provided that every state passed through is one of `rely`.
def Under (rely : Service → Prop) (course : Act α) (service : Service)
    (ending : α → Service → Prop) : Prop :=
  (∀ moment ∈ course.moments service, rely moment) →
    ending (course.run service).1 (course.run service).2

theorem holds_last {property : Service → Prop} (first : property service)
    (passed : ∀ moment ∈ course.moments service, property moment) :
    property (course.run service).2 := by
  rcases List.mem_cons.mp (run_mem course service) with same | later
  · rw [same]; exact first
  · exact passed _ later

theorem Keeps.weaken {weaker : α → Service → Prop} (kept : course.Keeps keep service ending)
    (implied : ∀ result after, ending result after → weaker result after) :
    course.Keeps keep service weaker :=
  ⟨kept.1, implied _ _ kept.2⟩

theorem keeps_pure {result : α} (holds : ending result service) :
    (pure result : Act α).Keeps keep service ending :=
  ⟨fun _ passed => absurd passed List.not_mem_nil, holds⟩

theorem keeps_then {next : α → Act β} {last : β → Service → Prop}
    (kept : ∀ moment ∈ course.moments service, keep moment)
    (continued : (next (course.run service).1).Keeps keep (course.run service).2 last) :
    (course >>= next).Keeps keep service last := by
  refine ⟨?_, ?_⟩
  · intro moment passed
    rw [moments_bind] at passed
    rcases List.mem_append.mp passed with early | late
    · exact kept moment early
    · exact continued.1 moment late
  · rw [run_bind]
    exact continued.2

theorem keeps_bind {next : α → Act β} {last : β → Service → Prop} (first : keep service)
    (kept : course.Keeps keep service ending)
    (continued : ∀ result after, keep after → ending result after →
      (next result).Keeps keep after last) :
    (course >>= next).Keeps keep service last :=
  keeps_then kept.1 (continued _ _ (holds_last first kept.1) kept.2)

theorem keeps_modifyGet {change : Service → α × Service} (kept : keep (change service).2)
    (holds : ending (change service).1 (change service).2) :
    (modifyGet change : Act α).Keeps keep service ending :=
  ⟨fun _ passed => by rw [List.mem_singleton.mp passed]; exact kept, holds⟩

theorem keeps_modify {change : Service → Service} {ending : PUnit → Service → Prop}
    (kept : keep (change service)) (holds : ending ⟨⟩ (change service)) :
    (modify change : Act PUnit).Keeps keep service ending :=
  ⟨fun _ passed => by rw [List.mem_singleton.mp passed]; exact kept, holds⟩

theorem Keeps.under (kept : course.Keeps keep service ending) :
    course.Under rely service ending := fun _ => kept.2

theorem Under.and {other : α → Service → Prop} (left : course.Under rely service ending)
    (right : course.Under rely service other) :
    course.Under rely service fun result after => ending result after ∧ other result after :=
  fun relied => ⟨left relied, right relied⟩

theorem under_pure {result : α} (holds : ending result service) :
    (pure result : Act α).Under rely service ending := fun _ => holds

theorem under_bind {next : α → Act β} {last : β → Service → Prop} (first : rely service)
    (ended : course.Under rely service ending)
    (continued : ∀ result after, rely after → ending result after →
      (next result).Under rely after last) :
    (course >>= next).Under rely service last := by
  intro relied
  rw [moments_bind] at relied
  have early : ∀ moment ∈ course.moments service, rely moment :=
    fun moment passed => relied moment (List.mem_append_left _ passed)
  rw [run_bind]
  exact continued _ _ (holds_last first early) (ended early)
    fun moment passed => relied moment (List.mem_append_right _ passed)

end RepositoryAccess.Act
