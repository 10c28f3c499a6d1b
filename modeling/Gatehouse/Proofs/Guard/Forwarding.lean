import Gatehouse.Proofs.Guard.Visits
import Gatehouse.Proofs.Session.Ids

namespace Gatehouse

def isSessionValue (value : String) : Bool :=
  (SessionId.scheme ++ " ").toList.isPrefixOf value.toList

variable {value : String}

theorem isSessionValue_iff :
    isSessionValue value ↔ ∃ token, value = SessionId.scheme ++ " " ++ token := by
  rw [isSessionValue, List.isPrefixOf_iff_prefix]
  constructor
  · intro h₀
    obtain ⟨token, h⟩ := h₀
    refine ⟨String.ofList token, ?_⟩
    rw [← String.toList_inj, ← h]
    simp
  · intro h₀
    obtain ⟨token, rfl⟩ := h₀
    exact ⟨token.toList, by simp⟩

theorem parseAuthorization_of_isSessionValue (h : isSessionValue value) :
    ∃ token, parseAuthorization value = (SessionId.ofText token).mapError .invalidSessionId := by
  obtain ⟨token, rfl⟩ := isSessionValue_iff.1 h
  exact ⟨token, parseAuthorization_scheme token⟩

theorem parseAuthorization_of_not_isSessionValue (h : ¬isSessionValue value) :
    ∃ p, parseAuthorization value = .error p ∧ p.isForwardable := by
  rcases parseAuthorization_cases value with ht | hp
  · exact absurd (isSessionValue_iff.2 ht) h
  · exact hp

namespace Guard

variable {g : Guard}

/-- The `Authorization` value that makes somebody root. -/
def rootCredential? (g : Guard) : Option String :=
  g.rootPassword.bind fun password ↦ if password = "" then none else some ("root " ++ password)

theorem isRootValue_iff : g.isRootValue value ↔ g.rootCredential? = some value := by
  unfold isRootValue rootCredential?
  cases g.rootPassword with
  | none => simp
  | some password =>
    rw [Option.bind_some, Bool.and_eq_true, bne_iff_ne, beq_iff_eq]
    split
    · simp [*]
    · simp only [*, ne_eq, not_false_eq_true, true_and, Option.some.injEq]
      exact eq_comm

def isForeign (g : Guard) (value : String) : Bool :=
  !isSessionValue value && g.rootCredential? ≠ some value

theorem forwarded_sortHeader (value : String) :
    ((problem? (Presented.sortHeader value)).filter fun h ↦ h.reason.isForwardable).map
        (fun h ↦ (⟨"authorization", h.value⟩ : HeaderField)) =
      if !isSessionValue value then some ⟨"authorization", value⟩ else none := by
  rw [problem?_sortHeader]
  by_cases h : isSessionValue value
  · obtain ⟨token, ht⟩ := parseAuthorization_of_isSessionValue h
    rw [ht, h]
    cases SessionId.ofText token <;> rfl
  · obtain ⟨p, hp, hf⟩ := parseAuthorization_of_not_isSessionValue h
    rw [hp, Bool.eq_false_iff.2 h]
    simp [problem?, hf]

theorem passthrough_sortCookie (name : String) (c : Cookie) :
    ((problem? (Presented.sortCookie name c)).filter fun u ↦ u.reason.isNone).map
        UnusedCookie.cookie = if c.name ≠ name then some c else none := by
  rw [problem?_sortCookie]
  by_cases h : c.name = name
  · simp only [h, if_true, ne_eq, not_true_eq_false, if_false]
    cases SessionId.ofText c.value <;> rfl
  · simp [h]

/-- The cookies of other names are passed on, and none of those that have ours. -/
theorem passthrough_extract (name : String) (authorization cookies : List String) :
    (Presented.extract name authorization cookies).passthrough =
      (cookies.flatMap Cookie.parse).filter fun c ↦ c.name ≠ name := by
  simp only [Presented.extract, separate_eq, Presented.passthrough, List.filter_filterMap,
    List.map_filterMap, passthrough_sortCookie]
  rw [← List.filterMap_eq_filter]
  congr 1
  funext c
  by_cases h : c.name = name <;> simp [Option.guard, h]

theorem forwarded_extract (g : Guard) (p : Papers) :
    (g.extract p).forwarded =
      (p.authorization.filter fun v ↦ !isSessionValue v).map (⟨"authorization", ·⟩) ++
        ((p.cookies.flatMap Cookie.parse).filter fun c ↦ c.name ≠ g.cookieName).map
          fun c ↦ ⟨"cookie", c.text⟩ := by
  rw [Presented.forwarded, extract, passthrough_extract]
  simp only [Presented.extract, separate_eq, List.filter_filterMap, List.map_filterMap,
    forwarded_sortHeader]
  simp only [← List.filterMap_eq_map, List.filterMap_filter]
  rfl

/-- What is passed on: everything but what is ours. -/
theorem passedOn_eq (g : Guard) (q : VisitQuery) :
    g.passedOn q = (q.authorization.filter g.isForeign).map (⟨"authorization", ·⟩) ++
      ((q.cookies.flatMap Cookie.parse).filter fun c ↦ c.name ≠ g.cookieName).map
        fun c ↦ ⟨"cookie", c.text⟩ := by
  have h (v : String) : (!isSessionValue v && !g.isRootValue v) = g.isForeign v := by
    rw [isForeign, Bool.eq_iff_iff]
    simp [← isRootValue_iff]
  rw [passedOn, forwarded_extract, List.filter_filter]
  simp only [h]

theorem fields_of_allow {links : Links} {key : TokenKey} {q : VisitQuery} {s : Surroundings}
    {username : String} {fields : List HeaderField}
    (h : (g.answer links key q s).1 = .ok (some (.allow username fields))) :
    fields = g.passedOn q := by
  obtain ⟨uri, token, e, -, -, -, hd, -⟩ := judged_of_answer h
  rcases verdict_cases (elsewhere q.method (links.loginPageWith token)) (g.passedOn q)
    (g.resolve (papers q) s).1 with ⟨x, -, -, hv⟩ | ⟨-, reason, hv⟩
  · rw [hv] at hd
    cases hd
    rfl
  · rw [hv] at hd
    cases hd

end Guard

end Gatehouse
