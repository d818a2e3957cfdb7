import RepositoryAccess.Proofs.Grammar
import RepositoryAccess.Proofs.Minting

namespace RepositoryAccess.Permission
open RepositoryAccess.Text

inductive Query
  | form (shared : Shared)
  | implies (held asked : Shared)

inductive Reply
  | form (form : Wildcard)
  | implied (answer : Bool)
  deriving DecidableEq

def Query.about : Query → List Shared
  | form shared => [shared]
  | implies held asked => [held, asked]

-- The reply when nothing is kept: two constants are compared by their texts, and for all else the texts are read
-- anew as wildcard permissions.
def Query.readAnew : Query → Except Malformed Reply
  | form shared => (Wildcard.parse shared.permission.text).map .form
  | implies held asked =>
    if held.permission.isConstant && asked.permission.isConstant then
      .ok (.implied (decide (held.permission.text = asked.permission.text)))
    else do
      let heldForm ← Wildcard.parse held.permission.text
      let askedForm ← Wildcard.parse asked.permission.text
      return .implied (heldForm.implies askedForm)

namespace Views

def reply (views : Views) : Query → Reply × Views
  | .form shared => (.form (views.formOf shared).1, (views.formOf shared).2)
  | .implies held asked => (.implied (views.implies held asked).1, (views.implies held asked).2)

def replies (views : Views) : List Query → List Reply
  | [] => []
  | query :: queries => (views.reply query).1 :: (views.reply query).2.replies queries

end Views

variable {text : String} {permission : Permission} {instances : List Shared} {views : Views} {query : Query}

theorem read_text (parsed : parse text = .ok permission) : Wildcard.parse permission.text = .ok permission.form :=
  read_of_parse (parse_text parsed)

-- The instances there may be: permissions that were read from texts, told apart by their numbers.
structure Genuine (instances : List Shared) : Prop where
  distinct : Distinct instances
  parsed : ∀ shared ∈ instances, ∃ text, parse text = .ok shared.permission

theorem Genuine.read_text (genuine : Genuine instances) {shared : Shared} (member : shared ∈ instances) :
    Wildcard.parse shared.permission.text = .ok shared.permission.form := by
  obtain ⟨text, parsed⟩ := genuine.parsed shared member
  exact Permission.read_text parsed

def Query.reply : Query → Reply
  | form shared => .form shared.permission.form
  | implies held asked => .implied (held.permission.implies asked.permission)

theorem readAnew_reply (genuine : Genuine instances) (about : ∀ shared ∈ query.about, shared ∈ instances) :
    query.readAnew = .ok query.reply := by
  cases query with
  | form shared =>
    have read := genuine.read_text (about shared List.mem_cons_self)
    rw [Query.readAnew, read]
    rfl
  | implies held asked =>
    have readHeld := genuine.read_text (about held List.mem_cons_self)
    have readAsked := genuine.read_text (about asked (List.mem_cons_of_mem _ List.mem_cons_self))
    by_cases constants : held.permission.isConstant = true ∧ asked.permission.isConstant = true
    · obtain ⟨number, permission⟩ := held
      obtain ⟨other, asked⟩ := asked
      cases permission with
      | wildcard form => cases constants.1
      | constant text =>
        cases asked with
        | wildcard form => cases constants.2
        | constant asked => rfl
    · have mixed : (held.permission.isConstant && asked.permission.isConstant) = false := by
        rwa [← Bool.not_eq_true, Bool.and_eq_true]
      rw [Query.readAnew, mixed, readHeld, readAsked, Query.reply, implies_by_form constants]
      rfl

-- A reply is that of the permissions alone, and leaves forms that are right for the queries after it.
theorem reply_right (genuine : Genuine instances) (right : views.Right instances)
    (about : ∀ shared ∈ query.about, shared ∈ instances) :
    (views.reply query).1 = query.reply ∧ (views.reply query).2.Right instances := by
  cases query with
  | form shared =>
    obtain ⟨form, kept⟩ := Views.formOf_right genuine.distinct right (about shared List.mem_cons_self)
    exact ⟨congrArg Reply.form form, kept⟩
  | implies held asked =>
    obtain ⟨answer, kept⟩ := Views.implies_right genuine.distinct right (about held List.mem_cons_self)
      (about asked (List.mem_cons_of_mem _ List.mem_cons_self))
    exact ⟨congrArg Reply.implied answer, kept⟩

theorem replies_read_anew (genuine : Genuine instances) (right : views.Right instances) {queries : List Query}
    (about : ∀ query ∈ queries, ∀ shared ∈ query.about, shared ∈ instances) :
    queries.mapM Query.readAnew = .ok (views.replies queries) := by
  induction queries generalizing views with
  | nil => rfl
  | cons query queries ih =>
    have first := about query List.mem_cons_self
    have others := fun other later => about other (List.mem_cons_of_mem query later)
    obtain ⟨given, kept⟩ := reply_right genuine right first
    rw [List.mapM_cons, readAnew_reply genuine first, ih kept others, Views.replies, given]
    rfl

-- The form that a text without `*` and `,` is given without reading it is the one that reading gives, which never
-- fails.  So a constant of that text may build its form for any query, whatever it and all other instances were
-- asked before, and every reply is the one that reading everything anew would give.
theorem plain_forms_as_read (starless : '*' ∉ text.toList) (commaless : ',' ∉ text.toList)
    (visible : ∃ c ∈ text.toList, isBlank c = false) :
    Wildcard.parse text = .ok (.ofPlain text) ∧
    ∀ number others, Genuine others → (∀ shared ∈ others, shared.number ≠ number) →
      ∀ queries : List Query,
        (∀ query ∈ queries, ∀ shared ∈ query.about, shared ∈ ⟨number, .constant text⟩ :: others) →
        queries.mapM Query.readAnew = .ok (Views.none.replies queries) := by
  have plain := isWildcardText_eq_false.mpr ⟨starless, commaless⟩
  have filled : isBlankText text = false := by
    rw [← Bool.not_eq_true, isBlankText_eq_true]
    simpa using visible
  refine ⟨parse_plain plain filled, fun number others genuine apart queries about => ?_⟩
  have parsed : parse text = .ok (.constant text) := by
    unfold parse
    rw [filled, plain]
    rfl
  have all : Genuine (⟨number, .constant text⟩ :: others) := by
    refine ⟨?_, List.forall_mem_cons.mpr ⟨⟨text, parsed⟩, genuine.parsed⟩⟩
    intro left isLeft right isRight same
    rcases List.mem_cons.mp isLeft with rfl | otherLeft <;> rcases List.mem_cons.mp isRight with rfl | otherRight
    · rfl
    · exact absurd same.symm (apart right otherRight)
    · exact absurd same (apart left otherLeft)
    · exact genuine.distinct left otherLeft right otherRight same
  exact replies_read_anew all (fun entry built => absurd built List.not_mem_nil) about

-- A constant with outer and inner blanks, a blank field and an empty one, is asked for its form when a comparison
-- has built it already.
theorem blank_fields_as_read :
    let text := "\u00a0a : :\u3000b:"
    let plain : Shared := ⟨0, .constant text⟩
    let queries := [.implies starred plain, .form plain, .implies plain starred, .implies plain ⟨2, .constant "a"⟩]
    Wildcard.parse text = .ok (.ofPlain text) ∧
    (Wildcard.ofPlain text).parts = [.singleton "a", .singleton "", .singleton "b", .singleton ""] ∧
    queries.mapM Query.readAnew = .ok (Views.none.replies queries) ∧
    Views.none.replies queries = [.implied true, .form (.ofPlain text), .implied false, .implied false] := by
  intro text plain queries
  have visible : ∃ c ∈ text.toList, isBlank c = false := ⟨'a', by decide +kernel, rfl⟩
  have starless : '*' ∉ text.toList := by decide +kernel
  obtain ⟨read, replies⟩ := plain_forms_as_read starless (by decide +kernel) visible
  have genuine : Genuine [starred, ⟨2, .constant "a"⟩] := by
    refine ⟨by simp [Distinct, starred], List.forall_mem_cons.mpr ⟨⟨"a:*", by decide +kernel⟩, ?_⟩⟩
    exact List.forall_mem_singleton.mpr ⟨"a", by decide +kernel⟩
  refine ⟨read, by decide +kernel, ?_, by decide +kernel⟩
  exact replies 0 [starred, ⟨2, .constant "a"⟩] genuine (by simp [starred]) queries
    (by simp [queries, Query.about, plain])

end RepositoryAccess.Permission
