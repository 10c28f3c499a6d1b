import Gatehouse.Proofs.Guard.Papers
import Gatehouse.Proofs.Guard.Search
import Gatehouse.Proofs.Session.Taints

namespace Gatehouse

open Surroundings (Same)

namespace State

variable {s : State} {now : Instant} {ids : List SessionId} {x y : Session}

def FirstLive (s : State) (now : Instant) (ids : List SessionId) (x : Session) : Prop :=
  ∃ earlier id later, ids = earlier ++ id :: later ∧ (∀ i ∈ earlier, ∀ y, ¬ s.HasLive now i y) ∧
    s.HasLive now id x

def NoneLive (s : State) (now : Instant) (ids : List SessionId) : Prop :=
  ∀ i ∈ ids, ∀ y, ¬ s.HasLive now i y

theorem toOption_live_eq_some {id : SessionId} :
    (s.live id now).toOption = some x ↔ s.HasLive now id x := by
  rw [hasLive_iff]
  cases s.live id now <;> simp [Except.toOption]

theorem toOption_live_eq_none {id : SessionId} :
    (s.live id now).toOption = none ↔ ∀ y, ¬ s.HasLive now id y := by
  simp only [Option.eq_none_iff_forall_not_mem, Option.mem_def, toOption_live_eq_some]

theorem firstLive_iff : s.FirstLive now ids x ↔
    ids.findSome? (fun id ↦ (s.live id now).toOption) = some x := by
  simp only [List.findSome?_eq_some_iff, FirstLive, toOption_live_eq_some, toOption_live_eq_none]
  constructor
  · intro h₀
    obtain ⟨earlier, id, later, hi, he, h⟩ := h₀
    exact ⟨earlier, id, later, hi, h, he⟩
  · intro h₀
    obtain ⟨earlier, id, later, hi, h, he⟩ := h₀
    exact ⟨earlier, id, later, hi, he, h⟩

theorem noneLive_iff : s.NoneLive now ids ↔
    ids.findSome? (fun id ↦ (s.live id now).toOption) = none := by
  simp only [List.findSome?_eq_none_iff, NoneLive, toOption_live_eq_none]

theorem firstLive_or_noneLive (s : State) (now : Instant) (ids : List SessionId) :
    (∃ x, s.FirstLive now ids x) ∨ s.NoneLive now ids := by
  simp only [firstLive_iff, noneLive_iff]
  cases ids.findSome? fun id ↦ (s.live id now).toOption <;> simp

theorem FirstLive.unique (h : s.FirstLive now ids x) (h' : s.FirstLive now ids y) : x = y := by
  rw [firstLive_iff] at h h'
  exact Option.some.inj (h.symm.trans h')

theorem FirstLive.stored (h : s.FirstLive now ids x) : ∃ id, s.findSession id = some x := by
  obtain ⟨_, id, _, -, -, hid⟩ := h
  exact ⟨id, hid.stored⟩

theorem FirstLive.not_noneLive (h : s.FirstLive now ids x) : ¬ s.NoneLive now ids := by
  rw [firstLive_iff] at h
  rw [noneLive_iff, h]
  exact Option.some_ne_none x

theorem NoneLive.nil (s : State) (now : Instant) : s.NoneLive now [] :=
  fun _ hi ↦ absurd hi List.not_mem_nil

end State

namespace Guard

variable {g : Guard} {p : Papers} {s : State} {now : Instant} {x y : Session}

/-- Whose papers these are: root's, nobody's, or those of the first live session that they show. -/
inductive Identifies (g : Guard) (p : Papers) (s : State) (now : Instant) : Session → Prop
  | root : g.ShowsPassword p.authorization → Identifies g p s now .root
  | anonymous :
      ¬ g.ShowsPassword p.authorization → g.ShowsNothing p → Identifies g p s now .anonymous
  | stored {x : Session} : ¬ g.ShowsPassword p.authorization →
      s.FirstLive now (g.shownIds p) x → Identifies g p s now x

/-- The papers are meant for us, and show neither the root password nor a live session. -/
structure Unidentified (g : Guard) (p : Papers) (s : State) (now : Instant) : Prop where
  no_password : ¬ g.ShowsPassword p.authorization
  something : ¬ g.ShowsNothing p
  none_live : s.NoneLive now (g.shownIds p)

/-- All that is wrong with papers of which no session id names a live session. -/
def problems (g : Guard) (p : Papers) (s : State) (now : Instant) : List Complaint :=
  (g.shownIds p).mapIdx (fun i id ↦ .candidate i (g.shownIds p).length (s.fault now id)) ++
    g.flaws p

theorem ShowsNothing.shownIds_eq_nil (h : g.ShowsNothing p) : g.shownIds p = [] := by
  simp [shownIds, h.1, h.2]

theorem Identifies.unique (h : g.Identifies p s now x) (h' : g.Identifies p s now y) : x = y := by
  cases h with
  | root hp =>
    cases h' with
    | root => rfl
    | anonymous hp' => exact absurd hp hp'
    | stored hp' => exact absurd hp hp'
  | anonymous hp hn =>
    cases h' with
    | root hp' => exact absurd hp' hp
    | anonymous => rfl
    | stored _ hl => exact absurd (hn.shownIds_eq_nil ▸ .nil s now) hl.not_noneLive
  | stored hp hl =>
    cases h' with
    | root hp' => exact absurd hp' hp
    | anonymous _ hn => exact absurd (hn.shownIds_eq_nil ▸ .nil s now) hl.not_noneLive
    | stored _ hl' => exact hl.unique hl'

theorem Unidentified.not_identifies (h : g.Unidentified p s now) : ¬ g.Identifies p s now x := by
  intro h₀
  rcases h₀ with hp | ⟨-, hn⟩ | ⟨-, hl⟩
  · exact h.no_password hp
  · exact h.something hn
  · exact hl.not_noneLive h.none_live

theorem authenticate_same (g : Guard) (p : Presented) : Deed.Keeps Same (g.authenticate p) := by
  unfold authenticate
  split
  · exact .bind (g.search_same _ _ _) fun _ ↦ .pure _
  · exact .pure _

theorem resolve_same (g : Guard) (p : Papers) : Deed.Keeps Same (g.resolve p) := by
  unfold resolve
  split
  · exact .pure _
  · exact g.authenticate_same _

theorem permit_same (g : Guard) (o : Operation) (p : Papers) : Deed.Keeps Same (g.permit o p) := by
  unfold permit
  refine .bind (g.resolve_same p) fun r ↦ ?_
  cases r with
  | error complaints => exact .pure _
  | ok x =>
    dsimp only
    cases g.authorize o x <;> exact .pure _

theorem resolve_of_password {s : Surroundings} (h : g.ShowsPassword p.authorization) :
    g.resolve p s = (.ok .root, s) := by
  rw [resolve, if_pos (isRoot_iff.2 h)]
  rfl

theorem resolve_of_no_password {s : Surroundings} (h : ¬ g.ShowsPassword p.authorization) :
    g.resolve p s = g.authenticate (g.extract p) s := by
  rw [resolve, if_neg (mt isRoot_iff.1 h)]

theorem authenticate_of_nothing {s : Surroundings} (h : g.ShowsNothing p) :
    g.authenticate (g.extract p) s = (.ok .anonymous, s) := by
  rw [authenticate, if_neg (not_not_intro h ∘ offersCredentials_extract.1)]
  rfl

theorem authenticate_of_something {s : Surroundings} (h : ¬ g.ShowsNothing p) :
    g.authenticate (g.extract p) s =
      ((g.search (g.shownIds p).length 0 (g.shownIds p) s).1.mapError (· ++ g.flaws p),
        (g.search (g.shownIds p).length 0 (g.shownIds p) s).2) := by
  rw [authenticate, if_pos (offersCredentials_extract.2 h), sessions_extract, unreadable_extract]
  rfl

theorem authenticate_of_firstLive {s : Surroundings} (hd : s.database.failingCommits = 0)
    (h : s.database.committed.FirstLive s.now (g.shownIds p) x) :
    g.authenticate (g.extract p) s = (.ok x, s) := by
  have hn : ¬ g.ShowsNothing p := fun hn ↦
    h.not_noneLive (hn.shownIds_eq_nil ▸ .nil s.database.committed s.now)
  obtain ⟨earlier, id, later, hi, he, hl⟩ := h
  rw [authenticate_of_something hn]
  generalize (g.shownIds p).length = total
  rw [hi, search_of_first hd he hl]
  rfl

theorem authenticate_of_noneLive {s : Surroundings} (hn : ¬ g.ShowsNothing p)
    (h : s.database.committed.NoneLive s.now (g.shownIds p)) :
    g.authenticate (g.extract p) s = (.error (g.problems p s.database.committed s.now), s) := by
  rw [authenticate_of_something hn, search_of_none h]
  simp only [Nat.zero_add]
  rfl

/-- Who somebody is does not depend on what is drawn. -/
theorem resolve_entropy (g : Guard) (p : Papers) (s : Surroundings) (e : Entropy) :
    (g.resolve p { s with entropy := e }).1 = (g.resolve p s).1 := by
  by_cases hp : g.ShowsPassword p.authorization
  · rw [resolve_of_password hp, resolve_of_password hp]
  · rw [resolve_of_no_password hp, resolve_of_no_password hp]
    by_cases hn : g.ShowsNothing p
    · rw [authenticate_of_nothing hn, authenticate_of_nothing hn]
    · rw [authenticate_of_something hn, authenticate_of_something hn, search_entropy]

theorem resolve_cases (g : Guard) (p : Papers) {s : Surroundings}
    (hd : s.database.failingCommits = 0) :
    (∃ x, g.Identifies p s.database.committed s.now x ∧ g.resolve p s = (.ok x, s)) ∨
    (g.Unidentified p s.database.committed s.now ∧
      g.resolve p s = (.error (g.problems p s.database.committed s.now), s)) := by
  by_cases hp : g.ShowsPassword p.authorization
  · exact .inl ⟨_, .root hp, resolve_of_password hp⟩
  · rw [resolve_of_no_password hp]
    by_cases hn : g.ShowsNothing p
    · exact .inl ⟨_, .anonymous hp hn, authenticate_of_nothing hn⟩
    · rcases s.database.committed.firstLive_or_noneLive s.now (g.shownIds p) with ⟨x, hl⟩ | hl
      · exact .inl ⟨x, .stored hp hl, authenticate_of_firstLive hd hl⟩
      · exact .inr ⟨⟨hp, hn, hl⟩, authenticate_of_noneLive hn hl⟩

/-- Who is somebody is root, anonymous, or the holder of a live session, whatever happens to the
transactions. -/
theorem resolve_finds {s : Surroundings} (h : (g.resolve p s).1 = .ok x) :
    x = .root ∨ x = .anonymous ∨
      ∃ id ∈ g.shownIds p, s.database.committed.HasLive s.now id x := by
  by_cases hp : g.ShowsPassword p.authorization
  · rw [resolve_of_password hp] at h
    cases h
    exact .inl rfl
  · rw [resolve_of_no_password hp] at h
    by_cases hn : g.ShowsNothing p
    · rw [authenticate_of_nothing hn] at h
      cases h
      exact .inr (.inl rfl)
    · rw [authenticate_of_something hn] at h
      cases hs : (g.search (g.shownIds p).length 0 (g.shownIds p) s).1 with
      | error cs => rw [hs] at h; cases h
      | ok y =>
        rw [hs] at h
        cases h
        exact .inr (.inr (search_finds hs))

theorem permit_of_ok {o : Operation} {s s' : Surroundings} (h : g.resolve p s = (.ok x, s')) :
    g.permit o p s = match x.taints.check (g.tolerances.of o) with
      | .error remaining => (.error (.permissionDenied o x.user.username remaining), s')
      | .ok () => (.ok x, s') := by
  simp only [permit, bind, StateT.bind, h, authorize, Tolerances.check]
  cases x.taints.check (g.tolerances.of o) <;> rfl

theorem permit_of_error {o : Operation} {s s' : Surroundings} {cs : List Complaint}
    (h : g.resolve p s = (.error cs, s')) :
    g.permit o p s = (.error (.unauthenticated cs), s') := by
  simp only [permit, bind, StateT.bind, h]
  rfl

theorem permit_snd {o : Operation} {s : Surroundings} (hd : s.database.failingCommits = 0) :
    (g.permit o p s).2 = s := by
  rcases g.resolve_cases p hd with ⟨x, -, hr⟩ | ⟨-, hr⟩
  · rw [permit_of_ok hr]
    cases x.taints.check (g.tolerances.of o) <;> rfl
  · rw [permit_of_error hr]

theorem resolve_of_permit {o : Operation} {s : Surroundings} (h : (g.permit o p s).1 = .ok x) :
    (g.resolve p s).1 = .ok x := by
  rcases hr : g.resolve p s with ⟨cs | y, s'⟩
  · rw [permit_of_error hr] at h
    cases h
  · rw [permit_of_ok hr] at h
    cases hc : y.taints.check (g.tolerances.of o) with
    | error remaining => rw [hc] at h; cases h
    | ok _ => rw [hc] at h; cases h; rfl

theorem eq_of_permit_of_live {o : Operation} {s : Surroundings} (h : (g.permit o p s).1 = .ok x)
    (hy : s.database.committed.live x.id s.now = .ok y) :
    s.database.committed.HasLive s.now x.id x ∧ y = x := by
  have hz := (State.live_eq_ok.1 hy).1
  have hx : s.database.committed.HasLive s.now x.id x := by
    rcases resolve_finds (resolve_of_permit h) with rfl | rfl | ⟨id, -, hl⟩
    · exact absurd hz (by simp [Session.root, SessionId.isZero_zero])
    · exact absurd hz (by simp [Session.anonymous, SessionId.isZero_zero])
    · exact hl.id_eq ▸ hl
  exact ⟨hx, (State.hasLive_iff.2 hy).unique hx⟩

/-- The decision about a call: who passes, who is asked for other papers and why, and who is told
which taints are in the way. -/
inductive Decides (g : Guard) (o : Operation) (p : Papers) (s : State) (now : Instant) :
    Except Rejection Session → Prop
  | passed {x : Session} : g.Identifies p s now x →
      (∀ name, x.taints.contains name → (g.tolerances.of o).contains name) →
      Decides g o p s now (.ok x)
  | unauthenticated : g.Unidentified p s now →
      Decides g o p s now (.error (.unauthenticated (g.problems p s now)))
  | denied {x : Session} {remaining : List String} : g.Identifies p s now x →
      remaining = x.taints.untolerated (g.tolerances.of o) → remaining ≠ [] →
      Decides g o p s now (.error (.permissionDenied o x.user.username remaining))

variable {o : Operation} {r r' : Except Rejection Session}

theorem decides_of_identifies (hx : g.Identifies p s now x) : g.Decides o p s now r ↔
    r = match x.taints.check (g.tolerances.of o) with
      | .error remaining => .error (.permissionDenied o x.user.username remaining)
      | .ok () => .ok x := by
  constructor
  · intro h
    cases h with
    | passed hy ht =>
      rw [hx.unique hy, Taints.check_eq_ok.2 ht]
    | unauthenticated hu => exact absurd hx hu.not_identifies
    | denied hy he hne =>
      rw [hx.unique hy, Taints.check_eq_error.2 ⟨he, hne⟩]
  · rintro rfl
    cases hc : x.taints.check (g.tolerances.of o) with
    | ok _ => exact .passed hx (Taints.check_eq_ok.1 hc)
    | error remaining =>
      obtain ⟨he, hne⟩ := Taints.check_eq_error.1 hc
      exact .denied hx he hne

theorem decides_of_unidentified (hu : g.Unidentified p s now) : g.Decides o p s now r ↔
    r = .error (.unauthenticated (g.problems p s now)) := by
  constructor
  · intro h
    cases h with
    | passed hx => exact absurd hx hu.not_identifies
    | unauthenticated => rfl
    | denied hx => exact absurd hx hu.not_identifies
  · rintro rfl
    exact .unauthenticated hu

/-- The guard decides about every call, in this way and no other, and changes nothing. -/
theorem permit_eq_iff (g : Guard) (o : Operation) (p : Papers) {s s' : Surroundings}
    {r : Except Rejection Session} (hd : s.database.failingCommits = 0) :
    g.permit o p s = (r, s') ↔ g.Decides o p s.database.committed s.now r ∧ s' = s := by
  rcases g.resolve_cases p hd with ⟨x, hx, hr⟩ | ⟨hu, hr⟩
  · rw [permit_of_ok hr, decides_of_identifies hx]
    cases x.taints.check (g.tolerances.of o) <;>
      rw [Prod.mk.injEq, eq_comm, eq_comm (a := s)]
  · rw [permit_of_error hr, decides_of_unidentified hu, Prod.mk.injEq, eq_comm, eq_comm (a := s)]

def midway : Session :=
  ⟨⟨List.replicate 64 1⟩, ⟨⟨1⟩, "ann"⟩, .epoch, ⟨9, 0⟩, .ofList [Taints.startLogin], {}⟩

def duringLogin : Surroundings where
  now := ⟨5, 0⟩
  database.committed.users := [midway.user]
  database.committed.sessions := [midway]

theorem permit_eq_iff_duringLogin : duringLogin.database.failingCommits = 0 ∧
    ({} : Guard).permit .editUser
        ⟨["Basic eDp5", SessionId.zero.authorization, midway.id.authorization], []⟩ duringLogin =
      (.error (.permissionDenied .editUser "ann" ["start_login"]), duringLogin) := by
  have hl : duringLogin.database.committed.HasLive duringLogin.now midway.id midway :=
    ⟨rfl, ⟨1, by decide, by decide⟩, rfl, rfl, rfl⟩
  have hz (y : Session) : ¬ duringLogin.database.committed.HasLive duringLogin.now .zero y :=
    fun h ↦ by obtain ⟨o, ho, hn⟩ := h.not_zero; exact hn (List.eq_of_mem_replicate ho)
  refine ⟨rfl, (permit_eq_iff {} .editUser _ rfl).2
    ⟨.denied (x := midway) (.stored ?_ ⟨[.zero], midway.id, [], rfl, ?_, hl⟩) rfl (by decide), rfl⟩⟩
  · intro h₀
    obtain ⟨password, ⟨⟩, -⟩ := h₀
  · simpa using hz

end Guard

end Gatehouse
