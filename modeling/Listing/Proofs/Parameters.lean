import Mathlib
import Listing.Proofs.Outcomes
import Listing.Request.Binding

/-!
# What one parameter does to the page of a request

The parameters whose names begin with `pagination.` make up the page that a request asks for,
one after the other, starting from the page that is asked for by default.  All other parameters
leave it alone.

* `Target.ofName_eq_paging_iff` says which names those are;
* `FilterRequest.page_bind` says what becomes of the page with one parameter.
-/

namespace Listing

/-! ## Names -/

/-- A beginning can be dropped exactly if it is there. -/
theorem Text.dropStart?_eq_some_iff {start cs rest : List Char} :
    Text.dropStart? start cs = some rest ↔ cs = start ++ rest := by
  fun_induction Text.dropStart? start cs with
  | case1 => simp [eq_comm]
  | case2 => simp
  | case3 start c cs ih => simpa using ih
  | case4 a start c cs other => simp [Ne.symm other]

theorem Text.after?_eq_some_iff {start s rest : String} :
    Text.after? start s = some rest ↔ s = start ++ rest := by
  rw [Text.after?, Option.map_eq_some_iff, ← String.toList_inj, String.toList_append]
  simp only [Text.dropStart?_eq_some_iff]
  constructor
  · rintro ⟨cs, same, rfl⟩
    simpa using same
  · intro same
    exact ⟨rest.toList, same, String.ofList_toList⟩

/-- A text that begins with another character than a second one does not begin with it. -/
theorem Text.after?_eq_none_of_head {start s : String}
    (other : start.toList.head? ≠ s.toList.head?) (some : start.toList ≠ []) :
    Text.after? start s = none := by
  refine Option.eq_none_iff_forall_ne_some.2 fun rest found => other ?_
  rw [Text.after?_eq_some_iff.1 found, String.toList_append, List.head?_append]
  cases head : start.toList.head? with
  | none => exact absurd (List.head?_eq_none_iff.1 head) some
  | some c => rfl

/-- The parameters of the page are those with its prefix, known or not. -/
theorem Target.ofName_eq_paging_iff {name member : String} :
    Target.ofName name = .paging member ↔ name = "pagination." ++ member := by
  constructor
  · intro about
    unfold Target.ofName at about
    repeat' split at about
    all_goals cases about
    exact Text.after?_eq_some_iff.1 ‹_›
  · rintro rfl
    have found : Text.after? "pagination." ("pagination." ++ member) = some member :=
      Text.after?_eq_some_iff.2 rfl
    have head : ("pagination." ++ member).toList.head? = some 'p' := by
      rw [String.toList_append]
      rfl
    have slot : Text.after? "filters." ("pagination." ++ member) = none :=
      Text.after?_eq_none_of_head (by rw [head]; decide) (by decide)
    have bound : Text.after? "rangeFilters.ranges[" ("pagination." ++ member) = none :=
      Text.after?_eq_none_of_head (by rw [head]; decide) (by decide)
    rw [Target.ofName, slot, bound, found]

/-! ## Blanks -/

theorem Text.trimLeft_trimChars (cs : List Char) :
    Text.trimLeft (Text.trimChars cs) = Text.trimChars cs := by
  -- What is cut off the back leaves a beginning of a list that starts with no blank.
  have front : Text.trimChars cs <+: Text.trimLeft cs := List.rdropWhile_prefix _ _
  have trimmed : (Text.trimLeft cs).dropWhile Text.isBlank = Text.trimLeft cs :=
    List.dropWhile_idempotent Text.isBlank cs
  refine List.dropWhile_eq_self_iff.2 fun some => ?_
  rw [front.getElem some]
  exact List.dropWhile_eq_self_iff.1 trimmed _

/-- Trimming a second time changes nothing. -/
theorem Text.trim_trim (s : String) : Text.trim (Text.trim s) = Text.trim s := by
  have cut : Text.trimRight (Text.trimChars s.toList) = Text.trimChars s.toList :=
    List.rdropWhile_idempotent Text.isBlank _
  rw [Text.trim, Text.trim, String.toList_ofList, Text.trimChars, Text.trimLeft_trimChars, cut]

/-- Something is left when the blanks around a text are cut off, if there is more to it. -/
theorem Text.trim_ne_empty {s : String} (more : Text.isBlankOnly s = false) :
    Text.trim s ≠ "" := by
  intro empty
  have cut : Text.trimChars s.toList = [] := String.ofList_eq_empty_iff.1 empty
  have back := List.rdropWhile_eq_nil_iff.1 (show List.rdropWhile Text.isBlank _ = [] from cut)
  refine absurd (List.all_eq_true.2 fun c member => ?_) (ne_true_of_eq_false more)
  rw [← List.takeWhile_append_dropWhile (p := Text.isBlank) (l := s.toList)] at member
  rcases List.mem_append.1 member with front | rest
  · exact List.mem_takeWhile_imp front
  · exact back c rest

/-! ## Pages -/

/-- The parts of a page that a client can send. -/
inductive PageField where
  | number
  | size
  | sortBy
  | direction
  deriving DecidableEq

namespace PageField

/-- The name of a part among those of a page. -/
def name : PageField → String
  | number => "pageNumber"
  | size => "pageSize"
  | sortBy => "sortBy"
  | direction => "sortDirection"

/-- The name of the parameter that sends a part. -/
def parameter (f : PageField) : String := "pagination." ++ f.name

/-- Two pages have a part in common. -/
def Agrees (p q : PageRequest) : PageField → Prop
  | number => p.number = q.number
  | size => p.size = q.size
  | sortBy => p.sortBy = q.sortBy
  | direction => p.direction = q.direction

theorem Agrees.refl (p : PageRequest) (f : PageField) : f.Agrees p p := by cases f <;> rfl

theorem Agrees.trans {p q r : PageRequest} {f : PageField} (first : f.Agrees p q)
    (second : f.Agrees q r) : f.Agrees p r := by
  cases f <;> exact Eq.trans first second

end PageField

namespace FilterRequest

/-- The page as binding sees it: the one asked for so far, or else the one by default. -/
def pageSoFar (r : FilterRequest) : PageRequest := r.page.getD .defaults

/-- A parameter of the page makes the request ask for one, which has all other parts from
before. -/
theorem page_bindPaging {name value : String} {r r' : FilterRequest}
    (ok : bindPaging name value r = .ok r') :
    r'.page.isSome = true ∧
      (∀ f : PageField, f.name ≠ name → f.Agrees r'.pageSoFar r.pageSoFar) ∧
      (PageField.sortBy.name = name → r'.pageSoFar.sortBy = some (Text.trim value)) := by
  unfold bindPaging at ok
  dsimp only at ok
  split at ok
  · rename_i named
    obtain ⟨number, -, ok⟩ := bind_eq_ok.1 ok
    cases ok
    refine ⟨rfl, fun f other => ?_, fun sorting => absurd (sorting.trans named) (by decide)⟩
    cases f with
    | number => exact absurd named.symm other
    | size | sortBy | direction => rfl
  · split at ok
    · rename_i named
      obtain ⟨size, -, ok⟩ := bind_eq_ok.1 ok
      cases ok
      refine ⟨rfl, fun f other => ?_, fun sorting => absurd (sorting.trans named) (by decide)⟩
      cases f with
      | size => exact absurd named.symm other
      | number | sortBy | direction => rfl
    · split at ok
      · rename_i named
        cases ok
        refine ⟨rfl, fun f other => ?_, fun _ => rfl⟩
        cases f with
        | sortBy => exact absurd named.symm other
        | number | size | direction => rfl
      · rename_i notSorting
        split at ok
        · rename_i named
          obtain ⟨direction, -, ok⟩ := bind_eq_ok.1 ok
          cases ok
          refine ⟨rfl, fun f other => ?_, fun sorting => absurd sorting.symm notSorting⟩
          cases f with
          | direction => exact absurd named.symm other
          | number | size | sortBy => rfl
        · cases ok
          exact ⟨rfl, fun f _ => PageField.Agrees.refl _ f, fun sorting => absurd sorting.symm notSorting⟩

/-- A parameter for a field leaves the page alone. -/
theorem page_bindSlot {schema : Schema} {field value : String} {r r' : FilterRequest}
    (ok : bindSlot schema field value r = .ok r') : r'.page = r.page := by
  unfold bindSlot at ok
  dsimp only at ok
  split at ok <;> cases ok
  rfl

theorem page_bindBound {schema : Schema} {rest value : String} {r r' : FilterRequest}
    (ok : bindBound schema rest value r = .ok r') : r'.page = r.page := by
  unfold bindBound at ok
  split at ok
  · cases ok
  · obtain ⟨bound, -, ok⟩ := bind_eq_ok.1 ok
    split at ok <;> cases ok
    rfl

/-- A parameter for a switch leaves the page alone. -/
theorem page_bindSwitch {name value : String} {r r' : FilterRequest}
    (ok : bindSwitch name value r = .ok r') : r'.page = r.page := by
  unfold bindSwitch at ok
  dsimp only at ok
  split at ok
  · obtain ⟨switch, -, ok⟩ := bind_eq_ok.1 ok
    cases ok
    rfl
  · split at ok
    · obtain ⟨switch, -, ok⟩ := bind_eq_ok.1 ok
      cases ok
      rfl
    · cases ok
      rfl

/-- The parameter is not passed over: something besides blanks is sent with it. -/
def Counts (parameter : String × String) : Prop := Text.isBlankOnly parameter.2 = false

/-- The parameter belongs to the page. -/
def IsPaging (parameter : String × String) : Prop :=
  ∃ member, parameter.1 = "pagination." ++ member

/-- Only a parameter of the page that counts changes the page. -/
theorem page_bind_of_not_paging {schema : Schema} {r r' : FilterRequest}
    {parameter : String × String} (ok : bind schema r parameter = .ok r')
    (other : ¬ (Counts parameter ∧ IsPaging parameter)) : r'.page = r.page := by
  unfold bind at ok
  dsimp only at ok
  split at ok
  · cases ok
    rfl
  · rename_i counts
    have bound := mapError_eq_ok.1 ok
    cases about : Target.ofName parameter.1 with
    | slot field => exact page_bindSlot (about ▸ bound)
    | bound rest => exact page_bindBound (about ▸ bound)
    | switch name => exact page_bindSwitch (about ▸ bound)
    | paging member =>
      exact absurd ⟨eq_false_of_ne_true counts, member, Target.ofName_eq_paging_iff.1 about⟩ other
    | nothing =>
      rw [about] at bound
      cases bound
      rfl

/-- A parameter for the page that counts is bound as such. -/
theorem bindPaging_of_bind {schema : Schema} {r r' : FilterRequest}
    {parameter : String × String} (ok : bind schema r parameter = .ok r')
    (counts : Counts parameter) {member : String} (paging : parameter.1 = "pagination." ++ member) :
    bindPaging member parameter.2 r = .ok r' := by
  unfold bind at ok
  dsimp only at ok
  rw [if_neg (ne_true_of_eq_false counts), Target.ofName_eq_paging_iff.2 paging] at ok
  exact mapError_eq_ok.1 ok

/-- What one parameter does to the page: a part that it does not send stays, and the page is
asked for from then on if the parameter belongs to it. -/
theorem page_bind {schema : Schema} {r r' : FilterRequest} {parameter : String × String}
    (ok : bind schema r parameter = .ok r') :
    (r'.page.isSome = true ↔ r.page.isSome = true ∨ Counts parameter ∧ IsPaging parameter) ∧
      (∀ f : PageField, ¬ (Counts parameter ∧ parameter.1 = f.parameter) →
        f.Agrees r'.pageSoFar r.pageSoFar) ∧
      (Counts parameter → parameter.1 = PageField.sortBy.parameter →
        r'.pageSoFar.sortBy = some (Text.trim parameter.2)) := by
  by_cases paging : Counts parameter ∧ IsPaging parameter
  · obtain ⟨counts, member, named⟩ := paging
    obtain ⟨asked, kept, sorted⟩ := page_bindPaging (bindPaging_of_bind ok counts named)
    have sends : ∀ f : PageField, parameter.1 = f.parameter ↔ f.name = member := fun f => by
      rw [named, PageField.parameter, String.append_right_inj, eq_comm]
    refine ⟨iff_of_true asked (Or.inr ⟨counts, member, named⟩), fun f unsent => ?_,
      fun _ sorting => sorted ((sends .sortBy).1 sorting)⟩
    exact kept f fun same => unsent ⟨counts, (sends f).2 same⟩
  · have same := page_bind_of_not_paging ok paging
    refine ⟨?_, fun f _ => ?_, fun counts sorting => absurd ⟨counts, _, sorting⟩ paging⟩
    · rw [same, or_iff_left paging]
    · rw [pageSoFar, same]
      exact PageField.Agrees.refl _ f

end FilterRequest

end Listing
