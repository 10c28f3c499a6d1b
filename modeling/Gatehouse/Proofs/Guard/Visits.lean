import Gatehouse.Guard.Visit
import Gatehouse.Proofs.Guard.Decision
import Gatehouse.Proofs.Token.Opening

namespace Gatehouse

open Surroundings (SameRows)

theorem Session.mayVisit_eq_ok {x : Session} :
    x.mayVisit = .ok () ↔ x.taints.names = [] ∧ (x.user.id.isAssigned ∨ x.user.isRoot) := by
  have hc : x.taints.check .empty = .ok () ↔ x.taints.names = [] := by
    simp [Taints.check_eq_ok, Taints.contains, Taints.empty, List.eq_nil_iff_forall_not_mem]
  unfold mayVisit
  cases h : x.taints.check .empty with
  | error remaining =>
    rw [h] at hc
    simp [← hc]
  | ok _ =>
    simp only [hc.1 h, true_and]
    cases x.user.id.isAssigned <;> cases x.user.isRoot <;> simp

namespace Guard

variable {g : Guard} {links : Links} {key : TokenKey} {q : VisitQuery} {uri : Url}
variable {s : Surroundings} {x : Session}

def papers (q : VisitQuery) : Papers := ⟨q.authorization, q.cookies⟩

def passedOn (g : Guard) (q : VisitQuery) : List HeaderField :=
  (g.extract ⟨q.authorization.filter (!g.isRootValue ·), q.cookies⟩).forwarded

/-- What is decided about a visitor who has been found to be somebody, or nobody. -/
def verdict (place : Destination) (fields : List HeaderField) :
    Except (List Complaint) Session → Decision
  | .error complaints => .deny (Complaint.summary complaints) place
  | .ok x => match x.mayVisit with
    | .error exclusion => .deny exclusion.message place
    | .ok () => .allow x.user.username fields

theorem loginPage_cases (links : Links) (key : TokenKey) (uri : Url) (s : Surroundings) :
    (s.entropy.failing ∧ loginPage links key uri s = (none, s)) ∨
    s.entropy.failing = false ∧ ∃ token e,
      (Token.make Token.returns ⟨uri.text⟩ key s.now s.entropy).1 = .ok (some token) ∧
      loginPage links key uri s = (some (links.loginPageWith token), { s with entropy := e }) := by
  simp only [loginPage, Deed.bind_apply, Deed.now, Deed.drawing]
  cases he : s.entropy.failing with
  | true =>
    rw [Token.make_of_failing he rfl]
    exact .inl ⟨rfl, rfl⟩
  | false =>
    obtain ⟨token, ht⟩ : ∃ token,
      (Token.make Token.returns ⟨uri.text⟩ key s.now s.entropy).1 = .ok (some token) :=
        Token.exists_make he rfl
    refine .inr ⟨rfl, token, (Token.make Token.returns ⟨uri.text⟩ key s.now s.entropy).2, ht, ?_⟩
    rw [ht]
    rfl

theorem filter_isRootValue {authorization : List String} (h : ¬ g.isRoot authorization) :
    authorization.filter (!g.isRootValue ·) = authorization := by
  rw [List.filter_eq_self]
  intro v hv
  simp only [isRoot, List.any_eq_true, not_exists, not_and] at h
  simpa using h v hv

theorem judge_apply (g : Guard) (q : VisitQuery) (place : Destination) (s : Surroundings) :
    g.judge q place s =
      let found := g.resolve (papers q) s
      (verdict place (g.passedOn q) found.1, found.2) := by
  have hv (fields : List HeaderField) (r : Except (List Complaint) Session × Surroundings) :
      (match r.1 with
        | .error complaints => return .deny (Complaint.summary complaints) place
        | .ok x =>
          match x.mayVisit with
          | .error exclusion => return .deny exclusion.message place
          | .ok () => return .allow x.user.username fields : Deed Decision) r.2 =
        (verdict place fields r.1, r.2) := by
    rcases r with ⟨cs | x, s'⟩
    · rfl
    · simp only [verdict]
      cases x.mayVisit <;> rfl
  rw [judge]
  dsimp only
  by_cases hr : g.isRoot q.authorization
  · have hp : g.isRoot (papers q).authorization := hr
    rw [if_pos hr, resolve, if_pos hp]
    exact hv _ (.ok .root, _)
  · have hp : ¬ g.isRoot (papers q).authorization := hr
    rw [if_neg hr, resolve, if_neg hp, Deed.bind_apply, passedOn, filter_isRootValue hr]
    exact hv _ _

theorem elsewhere_redirect_iff {method page : String} :
    (∃ url, elsewhere method page = .redirect url) ↔
      Text.lower method = "get" ∨ Text.lower method = "head" := by
  unfold elsewhere isNavigation
  by_cases h : Text.lower method = "get" <;> by_cases h' : Text.lower method = "head" <;>
    simp [h, h']

theorem elsewhere_of_not_navigation {method page : String}
    (h : ¬ (Text.lower method = "get" ∨ Text.lower method = "head")) :
    elsewhere method page = .response "text/plain" "You are not logged in." := by
  rw [not_or] at h
  simp [elsewhere, isNavigation, h]

theorem judge_sameRows (g : Guard) (q : VisitQuery) (place : Destination) :
    Deed.Keeps SameRows (g.judge q place) := by
  intro s
  have h := g.resolve_same (papers q) s
  rw [judge_apply]
  exact ⟨h.now, h.committed⟩

theorem answer_of_error {e : Url.Error} (h : Url.ofText q.requestUri = .error e) :
    g.answer links key q s = (.error e, s) := by
  rw [answer, h]
  rfl

theorem answer_of_page {page : String} {s' : Surroundings} (h : Url.ofText q.requestUri = .ok uri)
    (hp : loginPage links key uri s = (some page, s')) :
    g.answer links key q s = (.ok (some (g.judge q (elsewhere q.method page) s').1),
      (g.judge q (elsewhere q.method page) s').2) := by
  rw [answer, h]
  dsimp only
  rw [Deed.bind_apply, hp]
  rfl

theorem answer_of_no_page {s' : Surroundings} (h : Url.ofText q.requestUri = .ok uri)
    (hp : loginPage links key uri s = (none, s')) : g.answer links key q s = (.ok none, s') := by
  rw [answer, h]
  dsimp only
  rw [Deed.bind_apply, hp]
  rfl

theorem answer_sameRows (g : Guard) (links : Links) (key : TokenKey) (q : VisitQuery) :
    Deed.Keeps SameRows (g.answer links key q) := by
  intro s
  cases hu : Url.ofText q.requestUri with
  | error e =>
    rw [answer_of_error hu]
    exact refl s
  | ok uri =>
    rcases loginPage_cases links key uri s with ⟨-, hp⟩ | ⟨-, token, e, -, hp⟩
    · rw [answer_of_no_page hu hp]
      exact refl s
    · rw [answer_of_page hu hp]
      have h := g.judge_sameRows q (elsewhere q.method (links.loginPageWith token))
        { s with entropy := e }
      exact ⟨h.now, h.committed⟩

theorem verdict_cases (place : Destination) (fields : List HeaderField)
    (r : Except (List Complaint) Session) :
    (∃ x, r = .ok x ∧ x.mayVisit = .ok () ∧
      verdict place fields r = .allow x.user.username fields) ∨
    ((∀ x, r = .ok x → x.mayVisit ≠ .ok ()) ∧
      ∃ reason, verdict place fields r = .deny reason place) := by
  cases r with
  | error cs => exact .inr ⟨by rintro x ⟨⟩, _, rfl⟩
  | ok x =>
    cases hx : x.mayVisit with
    | ok _ => exact .inl ⟨x, rfl, hx, by simp only [verdict, hx]⟩
    | error e =>
      refine .inr ⟨?_, e.message, by simp only [verdict, hx]⟩
      rintro y ⟨⟩ h
      rw [hx] at h
      cases h

/-- Who may visit under a name. -/
def Admits (g : Guard) (q : VisitQuery) (s : State) (now : Instant) (username : String) : Prop :=
  (g.ShowsPassword q.authorization ∧ username = "root") ∨
  (¬ g.ShowsPassword q.authorization ∧ ∃ x, s.FirstLive now (g.shownIds (papers q)) x ∧
    x.taints.names = [] ∧ x.user.username = username)

theorem Identifies.admits_iff {rows : State} {now : Instant} {username : String}
    (hx : g.Identifies (papers q) rows now x)
    (ho : ∀ id y, rows.findSession id = some y → y.user.id.isAssigned) :
    g.Admits q rows now username ↔ x.mayVisit = .ok () ∧ username = x.user.username := by
  rw [Session.mayVisit_eq_ok]
  cases hx with
  | root hp =>
    have hr : Session.root.taints.names = [] ∧ Session.root.user.isRoot := by decide
    constructor
    · intro h₀
      rcases h₀ with ⟨-, rfl⟩ | ⟨hn, -⟩
      · exact ⟨⟨hr.1, .inr hr.2⟩, rfl⟩
      · exact absurd hp hn
    · intro h₀
      obtain ⟨-, rfl⟩ := h₀
      exact .inl ⟨hp, rfl⟩
  | anonymous hp hn =>
    have ha : Session.anonymous.taints.names ≠ [] := by decide
    constructor
    · intro h₀
      rcases h₀ with ⟨hp', -⟩ | ⟨-, y, hy, -⟩
      · exact absurd hp' hp
      · exact absurd (hn.shownIds_eq_nil ▸ .nil rows now) hy.not_noneLive
    · intro h₀
      obtain ⟨⟨h, -⟩, -⟩ := h₀
      exact absurd h ha
  | stored hp hl =>
    obtain ⟨id, hid⟩ := hl.stored
    constructor
    · intro h₀
      rcases h₀ with ⟨hp', -⟩ | ⟨-, y, hy, ht, rfl⟩
      · exact absurd hp' hp
      · rw [hl.unique hy]
        exact ⟨⟨ht, .inl (ho id y (hl.unique hy ▸ hid))⟩, rfl⟩
    · intro h₀
      obtain ⟨⟨ht, -⟩, rfl⟩ := h₀
      exact .inr ⟨hp, x, hl, ht, rfl⟩

theorem Unidentified.not_admits {rows : State} {now : Instant} {username : String}
    (hu : g.Unidentified (papers q) rows now) : ¬ g.Admits q rows now username := by
  intro h₀
  rcases h₀ with ⟨hp, -⟩ | ⟨-, x, hx, -⟩
  · exact hu.no_password hp
  · exact hx.not_noneLive hu.none_live

theorem Admits.unique {rows : State} {now : Instant} {name name' : String}
    (h : g.Admits q rows now name) (h' : g.Admits q rows now name') : name = name' := by
  rcases h with ⟨hp, rfl⟩ | ⟨hp, x, hx, -, rfl⟩ <;> rcases h' with ⟨hp', rfl⟩ | ⟨hp', y, hy, -, rfl⟩
  · rfl
  · exact absurd hp hp'
  · exact absurd hp' hp
  · rw [hx.unique hy]

/-- A visitor is let in under the one name under which that may be, and otherwise turned away. -/
theorem judge_cases (g : Guard) (q : VisitQuery) (place : Destination)
    (hd : s.database.failingCommits = 0)
    (ho : ∀ id y, s.database.committed.findSession id = some y → y.user.id.isAssigned) :
    (g.judge q place s).2 = s ∧
    ((∃ name, g.Admits q s.database.committed s.now name ∧
        (g.judge q place s).1 = .allow name (g.passedOn q)) ∨
      (∀ name, ¬ g.Admits q s.database.committed s.now name) ∧
        ∃ reason, (g.judge q place s).1 = .deny reason place) := by
  rw [judge_apply]
  rcases g.resolve_cases (papers q) hd with ⟨x, hx, hr⟩ | ⟨hu, hr⟩
  · rw [hr]
    refine ⟨rfl, ?_⟩
    rcases verdict_cases place (g.passedOn q) (.ok x) with ⟨y, hy, hm, hv⟩ | ⟨hm, reason, hv⟩
    · cases hy
      exact .inl ⟨x.user.username, (hx.admits_iff ho).2 ⟨hm, rfl⟩, hv⟩
    · exact .inr ⟨fun name hn ↦ hm x rfl ((hx.admits_iff ho).1 hn).1, reason, hv⟩
  · rw [hr]
    exact ⟨rfl, .inr ⟨fun name ↦ hu.not_admits, _, rfl⟩⟩

theorem answer_eq_error {e : Url.Error} :
    (g.answer links key q s).1 = .error e ↔ Url.ofText q.requestUri = .error e := by
  cases hu : Url.ofText q.requestUri with
  | error e' =>
    rw [answer_of_error hu]
    simp
  | ok uri =>
    rcases loginPage_cases links key uri s with ⟨-, hp⟩ | ⟨-, token, e', -, hp⟩
    · rw [answer_of_no_page hu hp]
      simp
    · rw [answer_of_page hu hp]
      simp

theorem answer_eq_none :
    (g.answer links key q s).1 = .ok none ↔
      (∃ uri, Url.ofText q.requestUri = .ok uri) ∧ s.entropy.failing := by
  cases hu : Url.ofText q.requestUri with
  | error e =>
    rw [answer_of_error hu]
    simp
  | ok uri =>
    rcases loginPage_cases links key uri s with ⟨he, hp⟩ | ⟨he, token, e, -, hp⟩
    · rw [answer_of_no_page hu hp]
      simp [he]
    · rw [answer_of_page hu hp]
      simp [he]

/-- Whoever gets a decision has been judged, after a place to return to has been sealed. -/
theorem judged_of_answer {d : Decision} (h : (g.answer links key q s).1 = .ok (some d)) :
    ∃ uri token e, Url.ofText q.requestUri = .ok uri ∧ s.entropy.failing = false ∧
      (Token.make Token.returns ⟨uri.text⟩ key s.now s.entropy).1 = .ok (some token) ∧
      d = verdict (elsewhere q.method (links.loginPageWith token)) (g.passedOn q)
        (g.resolve (papers q) s).1 ∧
      (g.answer links key q s).2 = (g.resolve (papers q) { s with entropy := e }).2 := by
  cases hu : Url.ofText q.requestUri with
  | error e =>
    rw [answer_of_error hu] at h
    cases h
  | ok uri =>
    rcases loginPage_cases links key uri s with ⟨-, hp⟩ | ⟨he, token, e, ht, hp⟩
    · rw [answer_of_no_page hu hp] at h
      cases h
    · rw [answer_of_page hu hp, judge_apply] at h
      dsimp only at h
      rw [resolve_entropy] at h
      refine ⟨uri, token, e, rfl, he, ht, ?_, ?_⟩
      · simpa using h.symm
      · rw [answer_of_page hu hp, judge_apply]

theorem resolve_of_allow {name : String} {fields : List HeaderField}
    (h : (g.answer links key q s).1 = .ok (some (.allow name fields))) :
    ∃ x, (g.resolve (papers q) s).1 = .ok x ∧ x.mayVisit = .ok () ∧ x.user.username = name := by
  obtain ⟨uri, token, e, -, -, -, hd, -⟩ := judged_of_answer h
  rcases verdict_cases (elsewhere q.method (links.loginPageWith token)) (g.passedOn q)
    (g.resolve (papers q) s).1 with ⟨x, hx, hm, hv⟩ | ⟨-, reason, hv⟩
  · rw [hv] at hd
    cases hd
    exact ⟨x, hx, hm, rfl⟩
  · rw [hv] at hd
    cases hd

section

variable (hd : s.database.failingCommits = 0)
variable (ho : ∀ id y, s.database.committed.findSession id = some y → y.user.id.isAssigned)

include hd ho

theorem answer_cases (hu : Url.ofText q.requestUri = .ok uri) (he : s.entropy.failing = false) :
    (∃ name, g.Admits q s.database.committed s.now name ∧
      (g.answer links key q s).1 = .ok (some (.allow name (g.passedOn q)))) ∨
    (∀ name, ¬ g.Admits q s.database.committed s.now name) ∧
      ∃ reason page, (g.answer links key q s).1 =
        .ok (some (.deny reason (elsewhere q.method page))) := by
  rcases loginPage_cases links key uri s with ⟨he', -⟩ | ⟨-, token, e, -, hp⟩
  · rw [he] at he'
    cases he'
  · rw [answer_of_page hu hp]
    rcases (g.judge_cases (s := { s with entropy := e }) q
      (elsewhere q.method (links.loginPageWith token)) hd ho).2 with
      ⟨name, hn, hj⟩ | ⟨hn, reason, hj⟩
    · exact .inl ⟨name, hn, by rw [hj]⟩
    · exact .inr ⟨hn, reason, _, by rw [hj]⟩

theorem answer_eq_allow {name : String} :
    (∃ fields, (g.answer links key q s).1 = .ok (some (.allow name fields))) ↔
      (∃ uri, Url.ofText q.requestUri = .ok uri) ∧ s.entropy.failing = false ∧
        g.Admits q s.database.committed s.now name := by
  constructor
  · intro h₀
    obtain ⟨fields, h⟩ := h₀
    obtain ⟨uri, -, -, hu, he, -⟩ := judged_of_answer h
    refine ⟨⟨uri, hu⟩, he, ?_⟩
    rcases answer_cases hd ho hu he with ⟨name', hn, ha⟩ | ⟨-, reason, page, ha⟩
    · rw [h] at ha
      cases ha
      exact hn
    · rw [h] at ha
      cases ha
  · intro h₀
    obtain ⟨⟨uri, hu⟩, he, hn⟩ := h₀
    rcases answer_cases hd ho hu he with ⟨name', hn', ha⟩ | ⟨hnobody, -⟩
    · exact ⟨g.passedOn q, by rw [ha, hn.unique hn']⟩
    · exact absurd hn (hnobody name)

theorem answer_eq_deny (hu : Url.ofText q.requestUri = .ok uri) (he : s.entropy.failing = false)
    (hn : ∀ name, ¬ g.Admits q s.database.committed s.now name) :
    ∃ reason page,
      (g.answer links key q s).1 = .ok (some (.deny reason (elsewhere q.method page))) := by
  rcases answer_cases hd ho hu he with ⟨name, hn', -⟩ | ⟨-, ha⟩
  · exact absurd hn' (hn name)
  · exact ha

theorem answer_database : (g.answer links key q s).2.database = s.database := by
  cases hu : Url.ofText q.requestUri with
  | error e => rw [answer_of_error hu]
  | ok uri =>
    rcases loginPage_cases links key uri s with ⟨-, hp⟩ | ⟨-, token, e, -, hp⟩
    · rw [answer_of_no_page hu hp]
    · rw [answer_of_page hu hp]
      dsimp only
      rw [(g.judge_cases (s := { s with entropy := e }) q _ hd ho).1]

end

end Guard

end Gatehouse
