import Gatehouse.Proxy.Server
import Mathlib.Tactic.SplitIfs

namespace Gatehouse

namespace Limits

variable {l : Limits} {t t' : Nat}

def Allows (l : Limits) (t : Nat) : Prop :=
  (∀ c, l.cancelled = some c → t < c) ∧ ∀ d, l.deadline = some d → t < d

theorem Allows.of_le (h : l.Allows t') (ht : t ≤ t') : l.Allows t :=
  ⟨fun c hc ↦ Nat.lt_of_le_of_lt ht (h.1 c hc), fun d hd ↦ Nat.lt_of_le_of_lt ht (h.2 d hd)⟩

theorem stop?_eq_none : l.stop? t = none ↔ l.Allows t := by
  obtain ⟨_ | c, _ | d⟩ := l
  · simp [stop?, reached, Allows]
  · simp [stop?, reached, Allows]
  · simp [stop?, reached, Allows]
  · simp only [stop?, reached, Allows, Option.any_some, decide_eq_true_eq, Option.some.injEq]
    split_ifs <;> simp <;> omega

theorem interruption?_eq_none : l.interruption? (some t) = none ↔ l.Allows t := by
  obtain ⟨_ | c, _ | d⟩ := l
  · simp [interruption?, Allows]
  · simp [interruption?, Allows]
  · simp [interruption?, Allows]
  · rcases Nat.lt_or_ge c d with h | h
    · simp only [interruption?, Allows, Nat.not_le.2 h, Option.all_some, Option.some.injEq]
      simp
      omega
    · simp only [interruption?, Allows, h, Option.all_some, Option.some.injEq]
      simp
      omega

theorem exists_interruption?_none {d : Nat} (h : l.deadline = some d) :
    ∃ why t, l.interruption? none = some (why, t) := by
  obtain ⟨c, d'⟩ := l
  obtain rfl : d' = some d := h
  cases c with
  | none => exact ⟨_, _, rfl⟩
  | some c =>
    simp only [interruption?]
    split <;> exact ⟨_, _, rfl⟩

end Limits

namespace Check

variable {l : Limits} {calls : Nat → Reception} {m n t t' : Nat}

def start? (calls : Nat → Reception) : Nat → Option Nat
  | 0 => some 0
  | n + 1 => (start? calls n).bind fun t ↦ (calls n).delay.map fun d ↦ t + d + pause

def ending? (calls : Nat → Reception) (n : Nat) : Option Nat :=
  (start? calls n).bind fun t ↦ (calls n).delay.map (t + ·)

theorem ending?_of_start? (h : start? calls n = some t) :
    ending? calls n = (calls n).delay.map (t + ·) := by rw [ending?, h]; rfl

theorem start?_succ (h : ending? calls n = some t) : start? calls (n + 1) = some (t + pause) := by
  rcases hs : start? calls n with _ | u
  · simp [ending?, hs] at h
  · rw [ending?_of_start? hs, Option.map_eq_some_iff] at h
    obtain ⟨d, hd, rfl⟩ := h
    simp [start?, hs, hd]

theorem exists_start?_le (h : ending? calls n = some t) : ∃ u, start? calls n = some u ∧ u ≤ t := by
  rcases hs : start? calls n with _ | u
  · simp [ending?, hs] at h
  · rw [ending?_of_start? hs, Option.map_eq_some_iff] at h
    obtain ⟨d, -, rfl⟩ := h
    exact ⟨u, rfl, Nat.le_add_right u d⟩

theorem exists_ending?_le_start? (h : start? calls (n + 1) = some t) :
    ∃ u, ending? calls n = some u ∧ u ≤ t := by
  simp only [start?, Option.bind_eq_some_iff, Option.map_eq_some_iff] at h
  obtain ⟨u, hu, d, hd, rfl⟩ := h
  exact ⟨u + d, by simp [ending?_of_start? hu, hd], Nat.le_add_right ..⟩

/-- Call number `n` begins, and it ends before the check is given up. -/
def InTime (l : Limits) (calls : Nat → Reception) (n : Nat) : Prop :=
  ∃ t, ending? calls n = some t ∧ l.Allows t

namespace InTime

theorem allows_start (h : InTime l calls n) (hs : start? calls n = some t) : l.Allows t := by
  obtain ⟨u, hu, ha⟩ := h
  obtain ⟨t', ht', hle⟩ := exists_start?_le hu
  rw [hs, Option.some.injEq] at ht'
  exact ha.of_le (ht' ▸ hle)

theorem of_le (h : InTime l calls n) (hm : m ≤ n) : InTime l calls m := by
  induction n with
  | zero => rwa [Nat.le_zero.1 hm]
  | succ n ih =>
    rcases Nat.le_succ_iff.1 hm with hm | rfl
    · obtain ⟨t, ht, ha⟩ := h
      obtain ⟨u, hu, hut⟩ := exists_start?_le ht
      obtain ⟨v, hv, hvu⟩ := exists_ending?_le_start? hu
      exact ih ⟨v, hv, ha.of_le (Nat.le_trans hvu hut)⟩ hm
    · exact h

end InTime

def Failing (calls : Nat → Reception) (n : Nat) : Prop :=
  ∀ m, m < n → ∃ e, (calls m).outcome = .error e

theorem Failing.succ {e : CallError} (h : Failing calls n) (he : (calls n).outcome = .error e) :
    Failing calls (n + 1) := by
  intro m hm
  rcases Nat.lt_succ_iff_lt_or_eq.1 hm with hm | rfl
  · exact h m hm
  · exact ⟨e, he⟩

/-- The authority is heard in call number `n`: the call is made, because those before it failed, and
it ends in time. -/
structure Heard (l : Limits) (calls : Nat → Reception) (n : Nat) : Prop where
  made : n < attempts
  failing : Failing calls n
  inTime : InTime l calls n

/-- How a check comes to its end: a call brings a decision, all calls fail, or a call does not end
in time. -/
inductive Ends (l : Limits) (calls : Nat → Reception) : Checked → Prop
  | decided {n t : Nat} {d : Decision} : Heard l calls n → (calls n).outcome = .ok d →
      Ends l calls ⟨.ok d, n + 1, t⟩
  | exhausted {t : Nat} {failures : List String} : InTime l calls (attempts - 1) →
      Failing calls attempts → Ends l calls ⟨.error (exhausted failures), attempts, t⟩
  | interrupted {n k t : Nat} {why : Interruption} {tries : Nat} {failures : List String} :
      n < attempts → Failing calls n → ¬InTime l calls n → k ≤ attempts →
      Ends l calls ⟨.error (.interrupted why tries failures), k, t⟩

variable {left d : Nat} {failures : List String} {why : Interruption} {e : CallError}

theorem runFrom_of_stop (h : l.stop? t = some why) :
    runFrom l calls left n t failures =
      some ⟨.error (.interrupted why (n + 1) failures), n, t⟩ := by
  cases left <;> rw [runFrom, h]

theorem runFrom_of_late {ending : Option Nat} (ht : l.Allows t)
    (he : (calls n).delay.map (t + ·) = ending) (h : l.interruption? ending = some (why, t')) :
    runFrom l calls left n t failures =
      some ⟨.error (.interrupted why (n + 1) failures), n + 1, t'⟩ := by
  have hne : ending ≠ some t := by
    rintro rfl
    rw [Limits.interruption?_eq_none.2 ht] at h
    cases h
  cases left <;> simp only [runFrom, Limits.stop?_eq_none.2 ht, he, hne, if_false, h]

theorem runFrom_of_ok {decision : Decision} (ht : l.Allows (t + d)) (hd : (calls n).delay = some d)
    (h : (calls n).outcome = .ok decision) :
    runFrom l calls left n t failures = some ⟨.ok decision, n + 1, t + d⟩ := by
  have hstop := Limits.stop?_eq_none.2 (ht.of_le (Nat.le_add_right t d))
  cases left <;>
    simp only [runFrom, hstop, hd, Option.map_some, Limits.interruption?_eq_none.2 ht, ite_self, h]

theorem runFrom_of_last (ht : l.Allows (t + d)) (hd : (calls n).delay = some d)
    (h : (calls n).outcome = .error e) :
    runFrom l calls 0 n t failures =
      some ⟨.error (exhausted (failures ++ [failureText e])), n + 1, t + d⟩ := by
  have hstop := Limits.stop?_eq_none.2 (ht.of_le (Nat.le_add_right t d))
  simp only [runFrom, hstop, hd, Option.map_some, Limits.interruption?_eq_none.2 ht, ite_self, h]

theorem runFrom_of_late_pause (ht : l.Allows (t + d)) (hd : (calls n).delay = some d)
    (h : (calls n).outcome = .error e)
    (hi : l.interruption? (some (t + d + pause)) = some (why, t')) :
    runFrom l calls (left + 1) n t failures =
      some ⟨.error (.interrupted why (n + 1) (failures ++ [failureText e])), n + 1, t'⟩ := by
  have hstop := Limits.stop?_eq_none.2 (ht.of_le (Nat.le_add_right t d))
  rw [runFrom]
  simp only [hstop, hd, Option.map_some, Limits.interruption?_eq_none.2 ht, ite_self, h, hi]

theorem runFrom_of_error (ht : l.Allows (t + d)) (hd : (calls n).delay = some d)
    (h : (calls n).outcome = .error e) (hi : l.Allows (t + d + pause)) :
    runFrom l calls (left + 1) n t failures =
      runFrom l calls left (n + 1) (t + d + pause) (failures ++ [failureText e]) := by
  have hstop := Limits.stop?_eq_none.2 (ht.of_le (Nat.le_add_right t d))
  rw [runFrom]
  simp only [hstop, hd, Option.map_some, Limits.interruption?_eq_none.2 ht, ite_self, h,
    Limits.interruption?_eq_none.2 hi]

/-- A check ends in the next call, or this call fails in time. -/
theorem runFrom_cases {last : Nat} (hl : l.deadline = some last)
    (hn : n < attempts) (hs : start? calls n = some t) (hf : Failing calls n) :
    (∃ c, runFrom l calls left n t failures = some c ∧ Ends l calls c) ∨
    ∃ d e, (calls n).delay = some d ∧ (calls n).outcome = .error e ∧ l.Allows (t + d) := by
  rcases hstop : l.stop? t with _ | why
  · have ht : l.Allows t := Limits.stop?_eq_none.1 hstop
    have he := ending?_of_start? hs
    rcases hdelay : (calls n).delay with _ | d
    · obtain ⟨why, u, hu⟩ := Limits.exists_interruption?_none hl
      rw [hdelay] at he
      refine .inl ⟨_, runFrom_of_late ht (by rw [hdelay]; rfl) hu, .interrupted hn hf ?_ hn⟩
      rintro ⟨v, hv, -⟩
      cases he.symm.trans hv
    · rw [hdelay] at he
      rcases hi : l.interruption? (some (t + d)) with _ | ⟨why, u⟩
      · have hu : l.Allows (t + d) := Limits.interruption?_eq_none.1 hi
        rcases ho : (calls n).outcome with e | decision
        · exact .inr ⟨d, e, rfl, rfl, hu⟩
        · exact .inl ⟨_, runFrom_of_ok hu hdelay ho, .decided ⟨hn, hf, t + d, he, hu⟩ ho⟩
      · refine .inl ⟨_, runFrom_of_late ht (by rw [hdelay]; rfl) hi, .interrupted hn hf ?_ hn⟩
        rintro ⟨v, hv, ha⟩
        obtain rfl : t + d = v := Option.some.inj (he.symm.trans hv)
        rw [Limits.interruption?_eq_none.2 ha] at hi
        cases hi
  · refine .inl ⟨_, runFrom_of_stop hstop, .interrupted hn hf (fun h ↦ ?_) (Nat.le_of_lt hn)⟩
    rw [Limits.stop?_eq_none.2 (h.allows_start hs)] at hstop
    cases hstop

theorem runFrom_ends {last : Nat} (hl : l.deadline = some last)
    (hleft : n + left + 1 = attempts) (hs : start? calls n = some t) (hf : Failing calls n) :
    ∃ c, runFrom l calls left n t failures = some c ∧ Ends l calls c := by
  -- on the calls that are left after number `n`, each of which begins where the one before left off
  induction left generalizing n t failures with
  | zero =>
    rcases runFrom_cases hl (by omega) hs hf with h | ⟨d, e, hd, ho, ht⟩
    · exact h
    · obtain rfl : n = attempts - 1 := by omega
      have he : ending? calls (attempts - 1) = some (t + d) := by rw [ending?_of_start? hs, hd]; rfl
      exact ⟨_, runFrom_of_last ht hd ho, .exhausted ⟨t + d, he, ht⟩ (hf.succ ho)⟩
  | succ left ih =>
    rcases runFrom_cases hl (by omega) hs hf with h | ⟨d, e, hd, ho, ht⟩
    · exact h
    · have he : ending? calls n = some (t + d) := by rw [ending?_of_start? hs, hd]; rfl
      have hs' := start?_succ he
      rcases hi : l.interruption? (some (t + d + pause)) with _ | ⟨why, u⟩
      · rw [runFrom_of_error ht hd ho (Limits.interruption?_eq_none.1 hi)]
        exact ih (by omega) hs' (hf.succ ho)
      -- an interruption in the pause keeps the next call from being made, let alone in time
      · refine ⟨_, runFrom_of_late_pause ht hd ho hi,
          .interrupted (n := n + 1) (by omega) (hf.succ ho) (fun h ↦ ?_) (by omega)⟩
        rw [Limits.interruption?_eq_none.2 (h.allows_start hs')] at hi
        cases hi

theorem run_ends {last : Nat} (hl : l.deadline = some last) (calls : Nat → Reception) :
    ∃ c, run l calls = some c ∧ Ends l calls c :=
  runFrom_ends hl rfl rfl fun _ hm ↦ absurd hm (Nat.not_lt_zero _)

namespace Ends

variable {c : Checked}

theorem calls_le (h : Ends l calls c) : c.calls ≤ attempts := by
  cases h with
  | decided h _ => exact h.made
  | exhausted _ _ => exact Nat.le_refl _
  | interrupted _ _ _ h => exact h

theorem result_of_heard {d : Decision} (h : Ends l calls c) (hn : Heard l calls n)
    (ho : (calls n).outcome = .ok d) : c.result = .ok d := by
  -- whatever ends a check later than with this call needs this call to have failed
  have hlate (k : Nat) (hk : Failing calls k) : n < k → False := fun hnk ↦ by
    obtain ⟨e, he⟩ := hk n hnk
    cases he.symm.trans ho
  cases h with
  | @decided m t d' hm hd =>
    rcases Nat.lt_trichotomy n m with hlt | rfl | hgt
    · exact (hlate m hm.failing hlt).elim
    · exact congrArg _ (Except.ok.inj (hd.symm.trans ho))
    · obtain ⟨e, he⟩ := hn.failing m hgt
      cases he.symm.trans hd
  | exhausted _ hf => exact (hlate attempts hf hn.made).elim
  | @interrupted m _ _ _ _ _ _ hf hm _ =>
    refine absurd (hn.inTime.of_le (Nat.le_of_not_lt fun hlt ↦ hlate m hf hlt)) hm

theorem result_of_failing (h : Ends l calls c) (ht : InTime l calls (attempts - 1))
    (hf : Failing calls attempts) : ∃ failures, c.result = .error (Check.exhausted failures) := by
  cases h with
  | @decided n t d hn hd =>
    obtain ⟨e, he⟩ := hf n hn.made
    cases he.symm.trans hd
  | exhausted _ _ => exact ⟨_, rfl⟩
  | interrupted hn _ hm _ => exact absurd (ht.of_le (Nat.le_sub_one_of_lt hn)) hm

theorem result_of_late (h : Ends l calls c) (hn : n < attempts) (hf : Failing calls n)
    (ht : ¬InTime l calls n) :
    ∃ why tries failures, c.result = .error (.interrupted why tries failures) := by
  cases h with
  | @decided m t d hm hd =>
    rcases Nat.lt_or_ge m n with hlt | hge
    · obtain ⟨e, he⟩ := hf m hlt
      cases he.symm.trans hd
    · exact absurd (hm.inTime.of_le hge) ht
  | exhausted h _ => exact absurd (h.of_le (Nat.le_sub_one_of_lt hn)) ht
  | interrupted _ _ _ _ => exact ⟨_, _, _, rfl⟩

end Ends

end Check

theorem Client.read_eq_ok {status : Nat} {body : Octets} {d : Decision}
    (h : read status body = .ok d) :
    200 ≤ status ∧ status < 300 ∧ Wire.readVisitReply.run body = .ok d := by
  have hnil : (Wire.readVisitReply.run []).toOption = none := rfl
  unfold read at h
  dsimp only at h
  by_cases hs : 200 ≤ status ∧ status < 300
  · rw [if_pos hs] at h
    split at h
    · rcases hr : Wire.readVisitReply.run [] with f | d
      · rw [hr] at h
        cases h
      · rw [hr] at hnil
        cases hnil
    · rcases hr : Wire.readVisitReply.run body with f | d'
      · rw [hr] at h
        cases h
      · rw [hr] at h
        cases h
        exact ⟨hs.1, hs.2, rfl⟩
  · rw [if_neg hs] at h
    split at h <;> cases h

namespace Verdict

@[simp] theorem status_response (v : Verdict) : v.response.status = v.status := by
  cases v with
  | pass headers removed => cases removed <;> rfl
  | answer status headers body => rfl

end Verdict

namespace Proxy

theorem status_respond (p : Proxy) (r : Http.Request) (c : Checked) :
    (p.respond r c).status = (Check.verdict p.usernameHeader c).status := by
  unfold respond
  split_ifs <;> simp [Http.Response.bodiless]

theorem status_iff {a b c d e : Prop} {s : Nat} (ha : a → s = 200) (hb : b → s = 307)
    (hc : c → s = 403) (hd : d → s = 503) (he : e → s = 500) (h : a ∨ b ∨ c ∨ d ∨ e) :
    s ∈ [200, 307, 403, 503, 500] ∧
      (s = 200 ↔ a) ∧ (s = 307 ↔ b) ∧ (s = 403 ↔ c) ∧ (s = 503 ↔ d) ∧ (s = 500 ↔ e) := by
  grind

theorem status_of_ends (p : Proxy) (r : Http.Request) {l : Limits} {calls : Nat → Reception}
    {c : Checked} (he : Check.Ends l calls c) :
    (p.respond r c).status ∈ [200, 307, 403, 503, 500] ∧
      ((p.respond r c).status = 200 ↔ ∃ n username headers, Check.Heard l calls n ∧
        (calls n).outcome = .ok (.allow username headers)) ∧
      ((p.respond r c).status = 307 ↔ ∃ n reason url, Check.Heard l calls n ∧
        (calls n).outcome = .ok (.deny reason (.redirect url))) ∧
      ((p.respond r c).status = 403 ↔ ∃ n reason contentType body, Check.Heard l calls n ∧
        (calls n).outcome = .ok (.deny reason (.response contentType body))) ∧
      ((p.respond r c).status = 503 ↔ Check.Failing calls 3 ∧ Check.InTime l calls 2) ∧
      ((p.respond r c).status = 500 ↔
        ∃ n, n < 3 ∧ Check.Failing calls n ∧ ¬Check.InTime l calls n) := by
  have hheard {n : Nat} {d : Decision} (hn : Check.Heard l calls n)
      (ho : (calls n).outcome = .ok d) :
      (p.respond r c).status = (Verdict.ofDecision p.usernameHeader d).status := by
    rw [status_respond, Check.verdict, he.result_of_heard hn ho]
  refine status_iff ?_ ?_ ?_ ?_ ?_ ?_
  · rintro ⟨n, username, headers, hn, ho⟩
    exact hheard hn ho
  · rintro ⟨n, reason, url, hn, ho⟩
    exact hheard hn ho
  · rintro ⟨n, reason, contentType, body, hn, ho⟩
    exact hheard hn ho
  · rintro ⟨hf, ht⟩
    obtain ⟨failures, h⟩ := he.result_of_failing ht hf
    rw [status_respond, Check.verdict, h]
    rfl
  · rintro ⟨n, hn, hf, ht⟩
    obtain ⟨why, tries, failures, h⟩ := he.result_of_late hn hf ht
    rw [status_respond, Check.verdict, h]
    rfl
  · cases he with
    | @decided n t d hn ho =>
      rcases d with ⟨username, headers⟩ | ⟨reason, url | ⟨contentType, body⟩⟩
      · exact .inl ⟨n, username, headers, hn, ho⟩
      · exact .inr (.inl ⟨n, reason, url, hn, ho⟩)
      · exact .inr (.inr (.inl ⟨n, reason, contentType, body, hn, ho⟩))
    | exhausted ht hf => exact .inr (.inr (.inr (.inl ⟨hf, ht⟩)))
    | @interrupted n _ _ _ _ _ hn hf ht _ => exact .inr (.inr (.inr (.inr ⟨n, hn, hf, ht⟩)))

/-- Only a decision to let a visitor in does so: it has to be heard from the authority before the
deadline, before the check is called off, and after nothing but failed calls. -/
theorem fails_closed (p : Proxy) (cancelled : Option Nat) (r : Http.Request)
    (calls : Nat → Reception) :
    let l : Limits := ⟨cancelled, some p.timeout⟩
    ∃ c answer, p.serveWithin l r calls = some (c, answer) ∧ c.calls ≤ 3 ∧
      (answer.status = 200 ↔ ∃ n username headers, Check.Heard l calls n ∧
        (calls n).outcome = .ok (.allow username headers)) ∧
      (answer.status = 307 ↔ ∃ n reason url, Check.Heard l calls n ∧
        (calls n).outcome = .ok (.deny reason (.redirect url))) ∧
      (answer.status = 403 ↔ ∃ n reason contentType body, Check.Heard l calls n ∧
        (calls n).outcome = .ok (.deny reason (.response contentType body))) ∧
      (answer.status = 503 ↔ Check.Failing calls 3 ∧ Check.InTime l calls 2) ∧
      (answer.status = 500 ↔ ∃ n, n < 3 ∧ Check.Failing calls n ∧ ¬Check.InTime l calls n) ∧
      answer.status ∈ [200, 307, 403, 503, 500] ∧
      (answer.status = 200 → ∃ n, Check.Heard l calls n ∧
        ∀ status body, (calls n).outcome = Client.read status body →
          200 ≤ status ∧ status < 300 ∧
            ∃ username headers, Wire.readVisitReply.run body = .ok (.allow username headers)) := by
  intro l
  obtain ⟨c, hc, he⟩ := Check.run_ends (l := l) rfl calls
  obtain ⟨hmem, h200, h307, h403, h503, h500⟩ := p.status_of_ends r he
  refine ⟨c, p.respond r c, by rw [serveWithin, hc]; rfl, he.calls_le, h200, h307, h403, h503, h500,
    hmem, fun hs ↦ ?_⟩
  obtain ⟨n, username, headers, hn, ho⟩ := h200.1 hs
  refine ⟨n, hn, fun status body hread ↦ ?_⟩
  obtain ⟨hlow, hhigh, hbody⟩ := Client.read_eq_ok (hread.symm.trans ho)
  exact ⟨hlow, hhigh, username, headers, hbody⟩

example : (Check.run ⟨none, some 5⟩ fun _ ↦ ⟨.ok (.allow "ann" []), some 5⟩).map
    (fun c ↦ (({} : Proxy).respond ⟨"GET", ⟨"", none⟩, [], [], none⟩ c).status) = some 500 := by
  decide +kernel

end Proxy

end Gatehouse
