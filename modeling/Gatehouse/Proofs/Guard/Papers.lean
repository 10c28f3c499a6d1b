import Mathlib.Logic.Basic
import Gatehouse.Guard

namespace Gatehouse

def problem? {ε α : Type} : Except ε α → Option ε
  | .ok _ => none
  | .error e => some e

theorem separate_eq {α β γ : Type} (f : α → Except β γ) (as : List α) :
    separate f as = (as.filterMap fun a ↦ (f a).toOption, as.filterMap fun a ↦ problem? (f a)) := by
  simp only [separate, Prod.mk.injEq, true_and]
  congr 1
  funext a
  cases f a <;> rfl

theorem eq_nil_of_toOption_of_problem? {ε α β : Type} {f : α → Except ε β} {as : List α}
    (h : ∀ a ∈ as, (f a).toOption = none) (h' : ∀ a ∈ as, problem? (f a) = none) : as = [] := by
  rw [List.eq_nil_iff_forall_not_mem]
  intro a ha
  have h := h a ha
  have h' := h' a ha
  cases hf : f a with
  | ok b => simp [hf, Except.toOption] at h
  | error e => simp [hf, problem?] at h'

theorem filterMap_ite {α β : Type} (P : α → Prop) [DecidablePred P] (f : α → Option β)
    (as : List α) : as.filterMap (fun a ↦ if P a then f a else none) =
      (as.filter fun a ↦ P a).filterMap f := by
  rw [List.filterMap_filter]
  congr 1
  funext a
  by_cases h : P a <;> simp [h]

namespace Guard

variable (g : Guard) (p : Papers)

/-- Some `Authorization` value is the root password behind its scheme. -/
def ShowsPassword (authorization : List String) : Prop :=
  ∃ password, g.rootPassword = some password ∧ password ≠ "" ∧ "root " ++ password ∈ authorization

def sessionCookies : List Cookie :=
  (p.cookies.flatMap Cookie.parse).filter fun c ↦ c.name = g.cookieName

def ShowsNothing : Prop := p.authorization = [] ∧ g.sessionCookies p = []

/-- The session ids that are shown: those of `Authorization` values, and then those of cookies. -/
def shownIds : List SessionId :=
  (p.authorization.filterMap fun v ↦ (parseAuthorization v).toOption) ++
    (g.sessionCookies p).filterMap fun c ↦ (SessionId.ofText c.value).toOption

/-- What is wrong with values and session cookies that hold no session id. -/
def flaws : List Complaint :=
  (p.authorization.filterMap fun v ↦ (problem? (parseAuthorization v)).map .header) ++
    (g.sessionCookies p).filterMap fun c ↦
      (problem? (SessionId.ofText c.value)).map (.cookie c.name)

variable {g p}

theorem isRoot_iff {authorization : List String} :
    g.isRoot authorization ↔ g.ShowsPassword authorization := by
  unfold isRoot isRootValue ShowsPassword
  cases g.rootPassword with
  | none => simp
  | some password =>
    simp only [Option.some.injEq, exists_eq_left', List.any_eq_true, Bool.and_eq_true, bne_iff_ne,
      beq_iff_eq]
    constructor
    · intro h₀
      obtain ⟨v, hv, hp, rfl⟩ := h₀
      exact ⟨hp, hv⟩
    · intro h₀
      obtain ⟨hp, hv⟩ := h₀
      exact ⟨_, hv, hp, rfl⟩

theorem toOption_sortHeader (v : String) :
    (Presented.sortHeader v).toOption = (parseAuthorization v).toOption := by
  unfold Presented.sortHeader
  cases parseAuthorization v <;> rfl

theorem problem?_sortHeader (v : String) :
    problem? (Presented.sortHeader v) = (problem? (parseAuthorization v)).map (⟨v, ·⟩) := by
  unfold Presented.sortHeader
  cases parseAuthorization v <;> rfl

theorem toOption_sortCookie (name : String) (c : Cookie) :
    (Presented.sortCookie name c).toOption =
      if c.name = name then (SessionId.ofText c.value).toOption else none := by
  unfold Presented.sortCookie
  split
  · cases SessionId.ofText c.value <;> rfl
  · rfl

theorem problem?_sortCookie (name : String) (c : Cookie) :
    problem? (Presented.sortCookie name c) =
      if c.name = name then (problem? (SessionId.ofText c.value)).map (⟨c, some ·⟩)
      else some ⟨c, none⟩ := by
  unfold Presented.sortCookie
  split
  · cases SessionId.ofText c.value <;> rfl
  · rfl

theorem sessions_extract : (g.extract p).sessions = g.shownIds p := by
  simp only [extract, Presented.extract, separate_eq, shownIds, sessionCookies,
    toOption_sortHeader, toOption_sortCookie, filterMap_ite]

theorem unreadable_extract : unreadable (g.extract p) = g.flaws p := by
  simp only [unreadable, extract, Presented.extract, separate_eq, flaws, sessionCookies,
    problem?_sortHeader, problem?_sortCookie, List.map_filterMap, List.filterMap_filterMap,
    ← filterMap_ite, Option.map_map]
  congr 2
  funext c
  split
  · cases SessionId.ofText c.value <;> rfl
  · rfl

theorem offersCredentials_iff {q : Presented} :
    q.offersCredentials ↔ ¬ (q.sessions = [] ∧ unreadable q = []) := by
  simp only [Presented.offersCredentials, unreadable, Bool.or_eq_true, Bool.not_eq_true',
    List.isEmpty_eq_false_iff, List.any_eq_true, List.append_eq_nil_iff, List.map_eq_nil_iff,
    List.filterMap_eq_nil_iff, Option.map_eq_none_iff, not_and_or, not_forall,
    Option.isSome_iff_ne_none, or_assoc, exists_prop, ne_eq]

theorem offersCredentials_extract : (g.extract p).offersCredentials ↔ ¬ g.ShowsNothing p := by
  rw [offersCredentials_iff, sessions_extract, unreadable_extract, not_iff_not]
  simp only [shownIds, flaws, ShowsNothing, List.append_eq_nil_iff, List.filterMap_eq_nil_iff,
    Option.map_eq_none_iff]
  constructor
  · intro h₀
    obtain ⟨⟨h, h'⟩, k, k'⟩ := h₀
    exact ⟨eq_nil_of_toOption_of_problem? h k, eq_nil_of_toOption_of_problem? h' k'⟩
  · intro h₀
    obtain ⟨h, h'⟩ := h₀
    simp [h, h']

end Guard

end Gatehouse
