import Mathlib.Data.List.Basic
import Gatehouse.Proofs.Proxy.Checks
import Gatehouse.Proxy.Progress

namespace Gatehouse

namespace Limits

variable {l : Limits} {t : Nat} {why : Interruption} {ending : Option Nat}

theorem in_time {w : Interruption} {u : Nat}
    (h : (if ending.all (u ≤ ·) then some (w, u) else none) = some (why, t)) :
    w = why ∧ u = t ∧ ∀ e, ending = some e → t ≤ e := by
  split at h
  · rename_i hin
    obtain ⟨rfl, rfl⟩ : w = why ∧ u = t := by simpa using h
    refine ⟨rfl, rfl, fun e he ↦ ?_⟩
    rw [he] at hin
    exact of_decide_eq_true hin
  · cases h

theorem of_interruption? (h : l.interruption? ending = some (why, t)) :
    (why = .deadline ∧ l.deadline = some t ∨ why = .cancelled ∧ l.cancelled = some t) ∧
      (∀ d, l.deadline = some d → t ≤ d) ∧ (∀ c, l.cancelled = some c → t ≤ c) ∧
      ∀ e, ending = some e → t ≤ e := by
  obtain ⟨_ | c, _ | d⟩ := l
  · cases h
  · obtain ⟨rfl, rfl, hin⟩ := in_time h
    exact ⟨.inl ⟨rfl, rfl⟩, by simp, by simp, hin⟩
  · obtain ⟨rfl, rfl, hin⟩ := in_time h
    exact ⟨.inr ⟨rfl, rfl⟩, by simp, by simp, hin⟩
  · rcases Nat.lt_or_ge c d with hlt | hge
    · simp only [interruption?, Nat.not_le.2 hlt, if_false] at h
      obtain ⟨rfl, rfl, hin⟩ := in_time h
      exact ⟨.inr ⟨rfl, rfl⟩, by simpa using Nat.le_of_lt hlt, by simp, hin⟩
    · simp only [interruption?, hge, if_true] at h
      obtain ⟨rfl, rfl, hin⟩ := in_time h
      exact ⟨.inl ⟨rfl, rfl⟩, by simp, by simpa using hge, hin⟩

theorem eq_of_interruption?_none (h : l.interruption? none = none) : l = ⟨none, none⟩ := by
  obtain ⟨_ | c, _ | d⟩ := l
  · rfl
  · cases h
  · cases h
  · obtain ⟨why, t, hi⟩ := exists_interruption?_none (l := ⟨some c, some d⟩) rfl
    rw [hi] at h
    cases h

end Limits

namespace Check

variable {l : Limits} {calls : Nat → Reception} {Suits : Progress → Moment → Prop}
variable {m m' : Moment} {p : Progress} {n since t : Nat} {made ended : List Nat}
variable {why : Interruption} {es : List CallError} {e : CallError}

namespace Moment

/-- Why a check is given up at this look: it has been called off by then, or else its deadline has
passed, and it has not been called off before. -/
inductive Stops (l : Limits) (m : Moment) : Interruption → Prop
  | cancelled {t : Nat} : l.cancelled = some t → t ≤ m.time → m.calledOff = true →
      Stops l m .cancelled
  | deadline {t : Nat} : l.deadline = some t → t ≤ m.time → m.calledOff = false →
      (∀ u, l.cancelled = some u → m.time ≤ u) → Stops l m .deadline

structure Passes (l : Limits) (m : Moment) : Prop where
  not_calledOff : m.calledOff = false
  before_deadline : ∀ t, l.deadline = some t → m.time < t
  before_cancelled : ∀ t, l.cancelled = some t → m.time ≤ t

theorem Stops.stop?_eq (h : m.Stops l why) : m.stop? l.deadline = some why := by
  cases h with
  | cancelled _ _ hoff => rw [stop?, if_pos hoff]
  | deadline hd ht hoff _ =>
    have hreached : Limits.reached l.deadline m.time := by
      rw [hd]
      exact decide_eq_true ht
    rw [stop?, hoff, if_neg Bool.false_ne_true, if_pos hreached]

theorem Passes.stop?_eq (h : m.Passes l) : m.stop? l.deadline = none := by
  have hreached : ¬ Limits.reached l.deadline m.time := by
    intro hr
    obtain ⟨d, hd, hle⟩ := (Option.any_eq_true ..).1 hr
    exact Nat.not_le.2 (h.before_deadline d hd) (of_decide_eq_true hle)
  rw [stop?, h.not_calledOff, if_neg Bool.false_ne_true, if_neg hreached]

theorem Possible.stops_or_passes (h : m.Possible l) : (∃ why, m.Stops l why) ∨ m.Passes l := by
  cases hoff : m.calledOff with
  | true =>
    obtain ⟨t, ht, hle⟩ := h.of_calledOff hoff
    exact .inl ⟨.cancelled, .cancelled ht hle hoff⟩
  | false =>
    have hc (t : Nat) (ht : l.cancelled = some t) : m.time ≤ t := by
      refine Nat.le_of_not_lt fun hlt ↦ ?_
      rw [h.of_cancelled t ht hlt] at hoff
      cases hoff
    by_cases hd : ∃ t, l.deadline = some t ∧ t ≤ m.time
    · obtain ⟨t, ht, hle⟩ := hd
      exact .inl ⟨.deadline, .deadline ht hle hoff hc⟩
    · exact .inr ⟨hoff, fun t ht ↦ Nat.lt_of_not_le fun hle ↦ hd ⟨t, ht, hle⟩, hc⟩

theorem possible_of_le (h : ∀ c, l.cancelled = some c → t ≤ c) : Possible l ⟨t, false⟩ :=
  ⟨nofun, fun c hc hlt ↦ absurd (h c hc) (Nat.not_le.2 hlt)⟩

end Moment

def note (e : CallError) : String := "[call remote AuthorizeHTTP: " ++ e.message ++ "]"

theorem exhausted_note (e₁ e₂ e₃ : CallError) : exhausted ([e₁, e₂, e₃].map note) =
    .unavailable ("authorization check failed after 3 tries: " ++ note e₁ ++ " " ++ note e₂ ++
      " " ++ note e₃) := by
  have htext : Text.joined " " ([e₁, e₂, e₃].map note) =
      note e₁ ++ " " ++ (note e₂ ++ " " ++ note e₃) := rfl
  have hintro : s!"authorization check failed after {attempts} tries: " =
      "authorization check failed after 3 tries: " := by decide
  rw [exhausted, htext, hintro]
  simp only [String.append_assoc]

def FailedWith (calls : Nat → Reception) (es : List CallError) : Prop :=
  ∀ k e, es[k]? = some e → (calls k).outcome = .error e

theorem FailedWith.nil : FailedWith calls [] := nofun

theorem FailedWith.concat (h : FailedWith calls es) (he : (calls es.length).outcome = .error e) :
    FailedWith calls (es ++ [e]) := by
  intro k e' hk
  rcases Nat.lt_trichotomy k es.length with hlt | rfl | hgt
  · rw [List.getElem?_append_left hlt] at hk
    exact h k e' hk
  · rw [List.getElem?_concat_length, Option.some.injEq] at hk
    rw [he, hk]
  · have hlong : (es ++ [e]).length ≤ k := by
      rw [List.length_append]
      exact hgt
    rw [List.getElem?_eq_none hlong] at hk
    cases hk

/-- What a check is known to have done once it has been looked at. -/
inductive Account (l : Limits) (calls : Nat → Reception) (m : Moment) : Progress → Prop
  | calling {es : List CallError} {since : Nat} {made ended : List Nat} : es.length < 3 →
      FailedWith calls es → made.length = es.length + 1 → ended.length = es.length →
      m.Passes l → Account l calls m ⟨.calling es.length since, es.map note, made, ended⟩
  | pausing {n : Nat} {es : List CallError} {since : Nat} {made ended : List Nat} :
      es.length = n + 1 → es.length < 3 → FailedWith calls es → made.length = es.length →
      ended.length = es.length → m.Passes l →
      Account l calls m ⟨.pausing n since, es.map note, made, ended⟩
  | replied {es : List CallError} {made ended : List Nat} {d : Decision} : es.length < 3 →
      FailedWith calls es → (calls es.length).outcome = .ok d → made.length = es.length + 1 →
      ended.length = es.length + 1 → m.Passes l →
      Account l calls m ⟨.over ⟨.ok d, es.length + 1, m.time⟩, es.map note, made, ended⟩
  | exhausted {e₁ e₂ e₃ : CallError} {made ended : List Nat} : FailedWith calls [e₁, e₂, e₃] →
      made.length = 3 → ended.length = 3 → m.Passes l →
      Account l calls m ⟨.over ⟨.error (.unavailable
        ("authorization check failed after 3 tries: " ++ note e₁ ++ " " ++ note e₂ ++ " " ++
          note e₃)), 3, m.time⟩, [note e₁, note e₂, note e₃], made, ended⟩
  | unbegun {why : Interruption} : m.Stops l why →
      Account l calls m ⟨.over ⟨.error (.interrupted why 1 []), 0, m.time⟩, [], [], []⟩
  | duringCall {es : List CallError} {made ended : List Nat} {why : Interruption} :
      es.length < 3 → FailedWith calls es → made.length = es.length + 1 →
      ended.length = es.length → m.Stops l why →
      Account l calls m ⟨.over ⟨.error (.interrupted why (es.length + 1) (es.map note)),
        es.length + 1, m.time⟩, es.map note, made, ended⟩
  | duringPause {es : List CallError} {made ended : List Nat} {why : Interruption} :
      0 < es.length → es.length < 3 → FailedWith calls es → made.length = es.length →
      ended.length = es.length → m.Stops l why →
      Account l calls m ⟨.over ⟨.error (.interrupted why es.length (es.map note)),
        es.length, m.time⟩, es.map note, made, ended⟩

namespace Account

theorem hear (hn : es.length < 3) (hf : FailedWith calls es) (hm : made.length = es.length + 1)
    (he : ended.length = es.length) (hpass : m.Passes l) {point : Point} :
    Account l calls m
      (Progress.hear calls es.length m.time ⟨point, es.map note, made, ended⟩) := by
  have he' : (ended ++ [m.time]).length = es.length + 1 := by simp [he]
  rcases ho : (calls es.length).outcome with e | d
  · have hf' := hf.concat ho
    have hnote : es.map note ++ [failureText e] = (es ++ [e]).map note := by
      rw [List.map_append]
      rfl
    have hlength : (es ++ [e]).length = es.length + 1 := by simp
    by_cases hlast : es.length + 1 = attempts
    · simp only [Progress.hear, ho, hlast, if_true, Progress.finish, hnote]
      obtain ⟨e₁, e₂, e₃, hes⟩ := List.length_eq_three.1 (hlength.trans hlast)
      rw [hlast] at hm he'
      rw [hes] at hf' ⊢
      rw [exhausted_note, hm]
      exact .exhausted hf' hm he' hpass
    · simp only [Progress.hear, ho, hlast, if_false, hnote]
      have hlt : (es ++ [e]).length < 3 := hlength ▸ Nat.lt_of_le_of_ne hn hlast
      exact .pausing hlength hlt hf' (hm.trans hlength.symm) (he'.trans hlength.symm) hpass
  · simp only [Progress.hear, ho, Progress.finish, hm]
    exact .replied hn hf ho hm he' hpass

theorem listen (hn : es.length < 3) (hf : FailedWith calls es) (hm : made.length = es.length + 1)
    (he : ended.length = es.length) (hpass : m.Passes l) {point : Point} :
    Account l calls m
      (Progress.listen calls es.length since m.time ⟨point, es.map note, made, ended⟩) := by
  unfold Progress.listen
  split
  · exact hear hn hf hm he hpass
  · exact .calling hn hf hm he hpass

theorem call (hn : es.length < 3) (hf : FailedWith calls es) (hm : made.length = es.length)
    (he : ended.length = es.length) (hpass : m.Passes l) {point : Point} :
    Account l calls m
      (Progress.call calls es.length m.time ⟨point, es.map note, made, ended⟩) :=
  listen hn hf (by simp [hm]) he hpass

theorem first (calls : Nat → Reception) (h : m.Possible l) :
    Account l calls m (Progress.advance l.deadline calls m {}) := by
  rcases h.stops_or_passes with ⟨why, hstop⟩ | hpass
  · simp only [Progress.advance, hstop.stop?_eq]
    exact .unbegun hstop
  · simp only [Progress.advance, hpass.stop?_eq]
    have hnil : ([] : List CallError).length < 3 := Nat.zero_lt_succ 2
    exact call hnil .nil rfl rfl hpass

/-- What one more look makes of a check. -/
theorem next (h : Account l calls m p) (hp : ∀ c, p.point ≠ .over c) (hm' : m'.Possible l) :
    Account l calls m' (p.advance l.deadline calls m') := by
  cases h with
  | calling hn hf hm he _ =>
    rcases hm'.stops_or_passes with ⟨why, hstop⟩ | hpass
    · simp only [Progress.advance, hstop.stop?_eq, Progress.abandon, Progress.finish, hm]
      exact .duringCall hn hf hm he hstop
    · simp only [Progress.advance, hpass.stop?_eq]
      exact listen hn hf hm he hpass
  | pausing hk hn hf hm he _ =>
    rcases hm'.stops_or_passes with ⟨why, hstop⟩ | hpass
    · simp only [Progress.advance, hstop.stop?_eq, Progress.abandon, Progress.finish, hm, ← hk]
      exact .duringPause (hk ▸ Nat.succ_pos _) hn hf hm he hstop
    · simp only [Progress.advance, hpass.stop?_eq, ← hk]
      split
      · exact call hn hf hm he hpass
      · exact .pausing hk hn hf hm he hpass
  | replied => exact absurd rfl (hp _)
  | exhausted => exact absurd rfl (hp _)
  | unbegun => exact absurd rfl (hp _)
  | duringCall => exact absurd rfl (hp _)
  | duringPause => exact absurd rfl (hp _)

end Account

theorem Course.account (h : Course l calls Suits m p) : Account l calls m p := by
  induction h with
  | first hm _ => exact .first calls hm
  | next _ hp _ _ hm _ ih => exact ih.next hp hm

def Keeps (timetable : Nat → Option Nat) (times : List Nat) : Prop :=
  times.map some = (List.range times.length).map timetable

namespace Keeps

variable {timetable : Nat → Option Nat} {times : List Nat} {t : Nat}

theorem concat (h : Keeps timetable times) (ht : timetable times.length = some t) :
    Keeps timetable (times ++ [t]) := by
  unfold Keeps at h ⊢
  rw [List.map_append, h, List.length_append, List.length_singleton, List.range_succ,
    List.map_append, List.map_singleton, List.map_singleton, ht]

theorem eq_some (h : Keeps timetable times) (hn : times[n]? = some t) :
    timetable n = some t := by
  have hlt : n < times.length := (List.getElem?_eq_some_iff.1 hn).1
  have hget : (times.map some)[n]? = some (some t) := by rw [List.getElem?_map, hn]; rfl
  rw [h, List.getElem?_map, List.getElem?_range hlt] at hget
  exact Option.some.inj hget

end Keeps

/-- Calls are made, and end, at the times that follow from how long each takes. -/
structure Timely (calls : Nat → Reception) (p : Progress) : Prop where
  made : Keeps (start? calls) p.made
  ended : Keeps (ending? calls) p.ended
  calling : ∀ n t, p.point = .calling n t → start? calls n = some t
  pausing : ∀ n t, p.point = .pausing n t → ending? calls n = some t

namespace Timely

variable {t : Nat}

theorem hear (hm : Keeps (start? calls) p.made) (he : Keeps (ending? calls) p.ended)
    (hn : p.ended.length = n) (ht : ending? calls n = some t) :
    Timely calls (p.hear calls n t) := by
  have he' : Keeps (ending? calls) (p.ended ++ [t]) := he.concat (hn ▸ ht)
  rcases ho : (calls n).outcome with e | d
  · by_cases hlast : n + 1 = attempts
    · simp only [Progress.hear, ho, hlast, if_true, Progress.finish]
      exact ⟨hm, he', nofun, nofun⟩
    · simp only [Progress.hear, ho, hlast, if_false]
      refine ⟨hm, he', nofun, fun k u hk ↦ ?_⟩
      obtain ⟨rfl, rfl⟩ := Point.pausing.inj hk
      exact ht
  · simp only [Progress.hear, ho, Progress.finish]
    exact ⟨hm, he', nofun, nofun⟩

theorem listen (hm : Keeps (start? calls) p.made) (he : Keeps (ending? calls) p.ended)
    (hn : p.ended.length = n) (hs : start? calls n = some since)
    (ht : ∀ d, (calls n).delay = some d → t ≤ since + d) :
    Timely calls (p.listen calls n since t) := by
  unfold Progress.listen
  split
  · rename_i hany
    rcases hd : (calls n).delay with _ | d
    · rw [hd] at hany
      cases hany
    · rw [hd] at hany
      have ht' : since + d = t := Nat.le_antisymm (of_decide_eq_true hany) (ht d hd)
      exact hear hm he hn (by rw [ending?_of_start? hs, hd, Option.map_some, ht'])
  · refine ⟨hm, he, fun k u hk ↦ ?_, nofun⟩
    obtain ⟨rfl, rfl⟩ := Point.calling.inj hk
    exact hs

theorem call (hm : Keeps (start? calls) p.made) (he : Keeps (ending? calls) p.ended)
    (hm' : p.made.length = n) (he' : p.ended.length = n) (ht : start? calls n = some t) :
    Timely calls (p.call calls n t) :=
  listen (hm.concat (hm' ▸ ht)) he he' ht fun d _ ↦ Nat.le_add_right t d

theorem abandon (h : Timely calls p) (tries : Nat) : Timely calls (p.abandon t why tries) :=
  ⟨h.made, h.ended, nofun, nofun⟩

theorem first (h : Progress.Prompt l calls {} m) :
    Timely calls (Progress.advance l.deadline calls m {}) := by
  have hnil : Timely calls {} := ⟨rfl, rfl, nofun, nofun⟩
  rcases hstop : m.stop? l.deadline with _ | why
  · simp only [Progress.advance, hstop]
    have ht : m.time = 0 := Nat.le_zero.1 (h.awaited 0 rfl)
    exact call hnil.made hnil.ended rfl rfl (by rw [ht]; rfl)
  · simp only [Progress.advance, hstop]
    exact hnil.abandon 1

theorem next (h : Timely calls p) (hp : Account l calls m p)
    (hprompt : p.Prompt l calls m') : Timely calls (p.advance l.deadline calls m') := by
  cases hp with
  | calling _ _ _ he _ =>
    rcases hstop : m'.stop? l.deadline with _ | why
    · simp only [Progress.advance, hstop]
      refine listen h.made h.ended he (h.calling _ _ rfl) fun d hd ↦ hprompt.awaited _ ?_
      simp only [Progress.awaits?, hd, Option.map_some]
    · simp only [Progress.advance, hstop]
      exact h.abandon _
  | pausing hk _ _ hm he _ =>
    rcases hstop : m'.stop? l.deadline with _ | why
    · simp only [Progress.advance, hstop]
      split
      · rename_i hle
        have ht := Nat.le_antisymm (hprompt.awaited _ rfl) hle
        exact call h.made h.ended (hm.trans hk) (he.trans hk)
          (ht ▸ start?_succ (h.pausing _ _ rfl))
      · exact h
    · simp only [Progress.advance, hstop]
      exact h.abandon _
  | replied => exact h
  | exhausted => exact h
  | unbegun => exact h
  | duringCall => exact h
  | duringPause => exact h

end Timely

theorem Course.timely (h : Course l calls (Progress.Prompt l calls) m p) : Timely calls p := by
  induction h with
  | first _ hprompt => exact .first hprompt
  | next h _ _ _ _ hprompt ih => exact ih.next h.account hprompt

theorem Course.time_le (h : Course l calls (Progress.Prompt l calls) m p) {t : Nat}
    (ht : l.deadline = some t ∨ l.cancelled = some t) : m.time ≤ t := by
  cases h with
  | first _ hprompt => exact ht.elim (hprompt.deadline t) (hprompt.cancelled t)
  | next _ _ _ _ _ hprompt => exact ht.elim (hprompt.deadline t) (hprompt.cancelled t)

section Run

variable {left t t' : Nat} {c : Checked}

theorem stop?_of_allows (h : l.Allows t) : Moment.stop? l.deadline ⟨t, false⟩ = none := by
  rcases hd : l.deadline with _ | d
  · rfl
  · simp [Moment.stop?, Limits.reached, h.2 d hd]

theorem exists_moment {ending : Option Nat} (h : l.interruption? ending = some (why, t)) :
    ∃ m : Moment, m.time = t ∧ m.Possible l ∧ m.stop? l.deadline = some why := by
  obtain ⟨hwhy, -, hbefore, -⟩ := Limits.of_interruption? h
  rcases hwhy with ⟨rfl, hd⟩ | ⟨rfl, hc⟩
  · refine ⟨⟨t, false⟩, rfl, Moment.possible_of_le hbefore, ?_⟩
    simp [Moment.stop?, Limits.reached, hd]
  · exact ⟨⟨t, true⟩, rfl, ⟨fun _ ↦ ⟨t, hc, Nat.le_refl t⟩, fun _ _ _ ↦ rfl⟩, rfl⟩

/-- The check waits for something that an interruption comes before, or at once with. -/
theorem Course.interrupt (h : Course l calls (Progress.Prompt l calls) ⟨t, false⟩ p)
    (ht : l.Allows t) (hp : ∀ c, p.point ≠ .over c)
    (hi : l.interruption? (p.awaits? calls) = some (why, t')) :
    ∃ m, m.time = t' ∧ m.stop? l.deadline = some why ∧
      Course l calls (Progress.Prompt l calls) m (p.advance l.deadline calls m) := by
  obtain ⟨hwhy, hd, hc, he⟩ := Limits.of_interruption? hi
  obtain ⟨m, rfl, hm, hstop⟩ := exists_moment hi
  have hle : t ≤ m.time := by
    rcases hwhy with ⟨-, hl⟩ | ⟨-, hl⟩
    · exact Nat.le_of_lt (ht.2 _ hl)
    · exact Nat.le_of_lt (ht.1 _ hl)
  exact ⟨m, rfl, hstop, h.next hp hle nofun hm ⟨he, hd, hc⟩⟩

theorem Course.await (h : Course l calls (Progress.Prompt l calls) ⟨t, false⟩ p)
    (hp : ∀ c, p.point ≠ .over c) (hle : t ≤ t') (ht : l.Allows t')
    (ha : ∀ u, p.awaits? calls = some u → t' ≤ u) :
    Course l calls (Progress.Prompt l calls) ⟨t', false⟩
      (p.advance l.deadline calls ⟨t', false⟩) :=
  have hbefore (c : Nat) (hc : l.cancelled = some c) : t' ≤ c := Nat.le_of_lt (ht.1 c hc)
  h.next hp hle nofun (Moment.possible_of_le hbefore)
    ⟨ha, fun d hd ↦ Nat.le_of_lt (ht.2 d hd), hbefore⟩

theorem hear_point (point : Point) :
    Progress.hear calls n t { p with point } = p.hear calls n t := by
  unfold Progress.hear
  split <;> rfl

theorem Course.answer {d : Nat}
    (h : Course l calls (Progress.Prompt l calls) ⟨t, false⟩ (p.listen calls n t t))
    (hd : (calls n).delay = some d) (ht : l.Allows (t + d)) :
    Course l calls (Progress.Prompt l calls) ⟨t + d, false⟩ (p.hear calls n (t + d)) := by
  rcases Nat.eq_zero_or_pos d with rfl | hpos
  · have hlisten : p.listen calls n t t = p.hear calls n t := by
      simp [Progress.listen, hd]
    exact hlisten ▸ h
  · have hlisten : p.listen calls n t t = { p with point := .calling n t } := by
      rw [Progress.listen, hd, Option.any_some,
        decide_eq_false (Nat.not_le.2 (Nat.lt_add_of_pos_right hpos))]
      rfl
    rw [hlisten] at h
    have hnext := h.await nofun (Nat.le_add_right t d) ht fun u hu ↦ by
      simp only [Progress.awaits?, hd, Option.map_some, Option.some.injEq] at hu
      exact Nat.le_of_eq hu
    have hadvance : Progress.advance l.deadline calls ⟨t + d, false⟩
        { p with point := .calling n t } = p.hear calls n (t + d) := by
      simp only [Progress.advance, stop?_of_allows ht, Progress.listen, hd, Option.any_some,
        Nat.le_refl, decide_true, if_true, hear_point]
    exact hadvance ▸ hnext

theorem Course.giveUp
    (h : Course l calls (Progress.Prompt l calls) ⟨t, false⟩ (p.listen calls n t t))
    (ht : l.Allows t) (hi : l.interruption? ((calls n).delay.map (t + ·)) = some (why, t')) :
    ∃ m, Course l calls (Progress.Prompt l calls) m (p.abandon t' why (n + 1)) := by
  have hlate : ((calls n).delay.any (t + · ≤ t)) = false := by
    rcases hd : (calls n).delay with _ | d
    · rfl
    · refine decide_eq_false fun hle ↦ ?_
      obtain rfl : d = 0 := by omega
      rw [hd, Option.map_some, Nat.add_zero, Limits.interruption?_eq_none.2 ht] at hi
      cases hi
  have hlisten : p.listen calls n t t = { p with point := .calling n t } := by
    rw [Progress.listen, hlate]
    rfl
  rw [hlisten] at h
  obtain ⟨m, rfl, hstop, hm⟩ := h.interrupt ht nofun hi
  simp only [Progress.advance, hstop] at hm
  exact ⟨m, hm⟩

theorem runFrom_of_never (ht : l.Allows t) (hd : (calls n).delay = none)
    (hi : l.interruption? none = none) {failures : List String} :
    runFrom l calls left n t failures = none := by
  cases left <;>
    simp only [runFrom, Limits.stop?_eq_none.2 ht, hd, Option.map_none, hi, ite_self, reduceCtorEq]

/-- A course comes to this end, and it does so by itself only if no limit has come yet. -/
def Reaches (l : Limits) (calls : Nat → Reception) (c : Checked) : Prop :=
  ∃ m p, Course l calls (Progress.Prompt l calls) m p ∧ p.point = .over c ∧
    ((∀ why tries failures, c.result ≠ .error (.interrupted why tries failures)) →
      l.Allows c.waited)

theorem Reaches.of_abandon {tries : Nat} (hp : p.made.length = n)
    (h : Course l calls (Progress.Prompt l calls) m (p.abandon t why tries)) :
    Reaches l calls ⟨.error (.interrupted why tries p.failures), n, t⟩ := by
  refine ⟨m, _, h, ?_, fun hresult ↦ absurd rfl (hresult _ _ _)⟩
  rw [Progress.abandon, Progress.finish, hp]

theorem reaches_or_fails (ht : l.Allows t) (hm : p.made.length = n)
    (hc : Course l calls (Progress.Prompt l calls) ⟨t, false⟩ (p.call calls n t))
    (hrun : runFrom l calls left n t p.failures = some c) :
    Reaches l calls c ∨ ∃ d e, (calls n).delay = some d ∧ (calls n).outcome = .error e ∧
      l.Allows (t + d) ∧ Course l calls (Progress.Prompt l calls) ⟨t + d, false⟩
        ({ p with made := p.made ++ [t] }.hear calls n (t + d)) := by
  rcases hi : l.interruption? ((calls n).delay.map (t + ·)) with _ | ⟨why, u⟩
  · rcases hd : (calls n).delay with _ | d
    · rw [hd] at hi
      rw [runFrom_of_never ht hd hi] at hrun
      cases hrun
    · rw [hd] at hi
      have hu : l.Allows (t + d) := Limits.interruption?_eq_none.1 hi
      have hheard := Course.answer hc hd hu
      rcases ho : (calls n).outcome with e | decision
      · exact .inr ⟨d, e, rfl, rfl, hu, hheard⟩
      · rw [runFrom_of_ok hu hd ho, Option.some.injEq] at hrun
        subst hrun
        refine .inl ⟨_, _, hheard, ?_, fun _ ↦ hu⟩
        simp [Progress.hear, ho, Progress.finish, hm]
  · obtain ⟨m, hgiven⟩ := Course.giveUp hc ht hi
    rw [runFrom_of_late ht rfl hi, Option.some.injEq] at hrun
    subst hrun
    have hmade : (p.made ++ [t]).length = n + 1 := by simp [hm]
    have hreaches := Reaches.of_abandon hmade hgiven
    exact .inl hreaches

theorem reaches_of_runFrom (hleft : n + left + 1 = attempts) (ht : l.Allows t)
    (hm : p.made.length = n)
    (hc : Course l calls (Progress.Prompt l calls) ⟨t, false⟩ (p.call calls n t))
    (hrun : runFrom l calls left n t p.failures = some c) : Reaches l calls c := by
  -- on the calls that are left, as the check itself counts them
  induction left generalizing n t p with
  | zero =>
    rcases reaches_or_fails ht hm hc hrun with h | ⟨d, e, hd, ho, hu, hheard⟩
    · exact h
    · rw [runFrom_of_last hu hd ho, Option.some.injEq] at hrun
      subst hrun
      refine ⟨_, _, hheard, ?_, fun _ ↦ hu⟩
      simp [Progress.hear, ho, hleft, Progress.finish, hm]
  | succ left ih =>
    rcases reaches_or_fails ht hm hc hrun with h | ⟨d, e, hd, ho, hu, hheard⟩
    · exact h
    have hlast : n + 1 ≠ attempts := by omega
    simp only [Progress.hear, ho, hlast, if_false] at hheard
    rcases hi : l.interruption? (some (t + d + pause)) with _ | ⟨why, u⟩
    · have hnext : l.Allows (t + d + pause) := Limits.interruption?_eq_none.1 hi
      rw [runFrom_of_error hu hd ho hnext] at hrun
      have hcall := hheard.await nofun (Nat.le_add_right _ pause) hnext fun v hv ↦
        Nat.le_of_eq (Option.some.inj hv)
      simp only [Progress.advance, stop?_of_allows hnext, Nat.le_refl, if_true] at hcall
      exact ih (by omega) hnext (by simp [hm]) hcall hrun
    · obtain ⟨m, rfl, hstop, hgiven⟩ := hheard.interrupt hu nofun hi
      rw [runFrom_of_late_pause hu hd ho hi, Option.some.injEq] at hrun
      subst hrun
      simp only [Progress.advance, hstop] at hgiven
      have hmade : (p.made ++ [t]).length = n + 1 := by simp [hm]
      exact Reaches.of_abandon hmade hgiven

theorem reaches_of_run (h : run l calls = some c) : Reaches l calls c := by
  have hprompt (off : Bool) : Progress.Prompt l calls {} ⟨0, off⟩ :=
    ⟨fun _ _ ↦ Nat.zero_le _, fun _ _ ↦ Nat.zero_le _, fun _ _ ↦ Nat.zero_le _⟩
  rcases hstop : l.stop? 0 with _ | why
  · have ht : l.Allows 0 := Limits.stop?_eq_none.1 hstop
    have hpossible : Moment.Possible l ⟨0, false⟩ :=
      Moment.possible_of_le fun c _ ↦ Nat.zero_le c
    have hc : Course l calls (Progress.Prompt l calls) ⟨0, false⟩ _ :=
      .first hpossible (hprompt false)
    simp only [Progress.advance, stop?_of_allows ht] at hc
    exact reaches_of_runFrom (p := {}) rfl ht rfl hc h
  · have hpossible : Moment.Possible l ⟨0, Limits.reached l.cancelled 0⟩ := by
      refine ⟨fun hoff ↦ ?_, fun c _ hlt ↦ absurd hlt (Nat.not_lt_zero c)⟩
      obtain ⟨t, ht, hle⟩ := (Option.any_eq_true ..).1 hoff
      exact ⟨t, ht, of_decide_eq_true hle⟩
    have hfirst : Moment.stop? l.deadline ⟨0, Limits.reached l.cancelled 0⟩ = some why := hstop
    have hc : Course l calls (Progress.Prompt l calls) _ _ := .first hpossible (hprompt _)
    simp only [Progress.advance, hfirst] at hc
    rw [run, runFrom_of_stop hstop, Option.some.injEq] at h
    subst h
    exact .of_abandon rfl hc

theorem endless_or_fails {failures : List String} (h : runFrom l calls left n t failures = none) :
    (l = ⟨none, none⟩ ∧ (calls n).delay = none) ∨
    ∃ d e, (calls n).delay = some d ∧ (calls n).outcome = .error e ∧ l.Allows (t + d) := by
  rcases hstop : l.stop? t with _ | why
  · have ht : l.Allows t := Limits.stop?_eq_none.1 hstop
    rcases hi : l.interruption? ((calls n).delay.map (t + ·)) with _ | ⟨why, u⟩
    · rcases hd : (calls n).delay with _ | d
      · rw [hd] at hi
        exact .inl ⟨Limits.eq_of_interruption?_none hi, rfl⟩
      · rw [hd] at hi
        have hu : l.Allows (t + d) := Limits.interruption?_eq_none.1 hi
        rcases ho : (calls n).outcome with e | decision
        · exact .inr ⟨d, e, rfl, rfl, hu⟩
        · rw [runFrom_of_ok hu hd ho] at h
          cases h
    · rw [runFrom_of_late ht rfl hi] at h
      cases h
  · rw [runFrom_of_stop hstop] at h
    cases h

/-- Only a call that never ends keeps a check going for ever, and only where nothing limits it. -/
theorem endless_of_runFrom {failures : List String}
    (h : runFrom l calls left n t failures = none) :
    l = ⟨none, none⟩ ∧ ∃ k, k < n + left + 1 ∧ (calls k).delay = none := by
  induction left generalizing n t failures with
  | zero =>
    rcases endless_or_fails h with ⟨hl, hd⟩ | ⟨d, e, hd, ho, ht⟩
    · exact ⟨hl, n, n.lt_succ_self, hd⟩
    · rw [runFrom_of_last ht hd ho] at h
      cases h
  | succ left ih =>
    rcases endless_or_fails h with ⟨hl, hd⟩ | ⟨d, e, hd, ho, ht⟩
    · exact ⟨hl, n, by omega, hd⟩
    rcases hi : l.interruption? (some (t + d + pause)) with _ | ⟨why, u⟩
    · rw [runFrom_of_error ht hd ho (Limits.interruption?_eq_none.1 hi)] at h
      obtain ⟨hl, k, hk, hd⟩ := ih h
      exact ⟨hl, k, by omega, hd⟩
    · rw [runFrom_of_late_pause ht hd ho hi] at h
      cases h

end Run

theorem Account.lengths (h : Account l calls m p) :
    p.ended.length ≤ p.made.length ∧ p.made.length ≤ p.ended.length + 1 := by
  cases h with
  | calling _ _ hm he _ => exact ⟨by simp [hm, he], by simp [hm, he]⟩
  | pausing _ _ _ hm he _ => exact ⟨by simp [hm, he], by simp [hm, he]⟩
  | replied _ _ _ hm he _ => exact ⟨by simp [hm, he], by simp [hm, he]⟩
  | exhausted _ hm he _ => exact ⟨by simp [hm, he], by simp [hm, he]⟩
  | unbegun _ => exact ⟨Nat.zero_le _, Nat.zero_le _⟩
  | duringCall _ _ hm he _ => exact ⟨by simp [hm, he], by simp [hm, he]⟩
  | duringPause _ _ _ hm he _ => exact ⟨by simp [hm, he], by simp [hm, he]⟩

theorem Course.exists_made (h : Course l calls (Progress.Prompt l calls) m p)
    (ht : p.ended[n]? = some t) :
    ∃ u d, p.made[n]? = some u ∧ (calls n).delay = some d ∧ t = u + d := by
  have hlt : n < p.made.length :=
    Nat.lt_of_lt_of_le (List.getElem?_eq_some_iff.1 ht).1 h.account.lengths.1
  have hmade : p.made[n]? = some p.made[n] := List.getElem?_eq_getElem hlt
  have hending := h.timely.ended.eq_some ht
  rw [ending?_of_start? (h.timely.made.eq_some hmade), Option.map_eq_some_iff] at hending
  obtain ⟨d, hd, rfl⟩ := hending
  exact ⟨_, d, hmade, hd, rfl⟩

theorem Course.exists_ended (h : Course l calls (Progress.Prompt l calls) m p)
    (ht : p.made[n + 1]? = some t) : ∃ u, p.ended[n]? = some u ∧ t = u + 10 := by
  have hmade : n + 1 < p.made.length := (List.getElem?_eq_some_iff.1 ht).1
  have hlt : n < p.ended.length := by
    have hle := h.account.lengths.2
    omega
  have hended : p.ended[n]? = some p.ended[n] := List.getElem?_eq_getElem hlt
  have hstart := start?_succ (h.timely.ended.eq_some hended)
  exact ⟨_, hended, Option.some.inj ((h.timely.made.eq_some ht).symm.trans hstart)⟩

theorem Account.advance_of_stops (h : Account l calls m p)
    (hp : p.point = .calling n since ∨ p.point = .pausing n since) (hstop : m'.Stops l why) :
    p.advance l.deadline calls m' = { p with
      point := .over ⟨.error (.interrupted why (n + 1) p.failures), n + 1, m'.time⟩ } := by
  cases h with
  | calling _ _ hm _ _ =>
    obtain ⟨rfl, rfl⟩ : _ = n ∧ _ = since := Point.calling.inj (hp.resolve_right nofun)
    simp only [Progress.advance, hstop.stop?_eq, Progress.abandon, Progress.finish, hm]
  | pausing hk _ _ hm _ _ =>
    obtain ⟨rfl, rfl⟩ : _ = n ∧ _ = since := Point.pausing.inj (hp.resolve_left nofun)
    simp only [Progress.advance, hstop.stop?_eq, Progress.abandon, Progress.finish, hm, hk]
  | replied => exact absurd hp nofun
  | exhausted => exact absurd hp nofun
  | unbegun => exact absurd hp nofun
  | duringCall => exact absurd hp nofun
  | duringPause => exact absurd hp nofun

/-- A check that fails tells the truth about it. Whenever it is looked at, it has done what
`Account` says, and nothing more is done once it is over; a look that finds it called off, or its
deadline passed, gives it up there and then, whatever else has come to its end. If it is looked at
in time, each call is made ten milliseconds after the failure of the one before, and the check is
given up at once. Left to itself, a check ends as one that is looked at in time does; it has no end
only if nothing limits it and one of the calls has none. -/
theorem tells_failures (l : Limits) (calls : Nat → Reception) :
    (∀ Suits m p, Course l calls Suits m p →
      Account l calls m p ∧
      (∀ c, p.point = .over c → ∀ m', p.advance l.deadline calls m' = p) ∧
      ∀ n since, p.point = .calling n since ∨ p.point = .pausing n since →
        ∀ m' why, m'.Stops l why → p.advance l.deadline calls m' = { p with
          point := .over ⟨.error (.interrupted why (n + 1) p.failures), n + 1, m'.time⟩ }) ∧
    (∀ m p, Course l calls (Progress.Prompt l calls) m p →
      (∀ t, p.made[0]? = some t → t = 0) ∧
      (∀ n t, p.ended[n]? = some t →
        ∃ u d, p.made[n]? = some u ∧ (calls n).delay = some d ∧ t = u + d) ∧
      (∀ n t, p.made[n + 1]? = some t → ∃ u, p.ended[n]? = some u ∧ t = u + 10) ∧
      ∀ t, l.deadline = some t ∨ l.cancelled = some t → m.time ≤ t) ∧
    (∀ c, run l calls = some c → ∃ m p, Course l calls (Progress.Prompt l calls) m p ∧
      p.point = .over c ∧
      ((∀ why tries failures, c.result ≠ .error (.interrupted why tries failures)) →
        ∀ t, l.deadline = some t ∨ l.cancelled = some t → c.waited < t)) ∧
    (run l calls = none → l = ⟨none, none⟩ ∧ ∃ n, n < 3 ∧ (calls n).delay = none) := by
  refine ⟨fun Suits m p h ↦ ?_, fun m p h ↦ ?_, fun c ↦ ?_, endless_of_runFrom⟩
  · refine ⟨h.account, fun c hc m' ↦ ?_, fun n since hp m' why ↦ h.account.advance_of_stops hp⟩
    simp only [Progress.advance, hc]
  · have hfirst (t : Nat) (ht : p.made[0]? = some t) : t = 0 :=
      (Option.some.inj (h.timely.made.eq_some ht)).symm
    exact ⟨hfirst, fun n t ↦ h.exists_made, fun n t ↦ h.exists_ended, fun t ↦ h.time_le⟩
  · intro hc
    obtain ⟨m, p, hcourse, hover, hallows⟩ := reaches_of_run hc
    refine ⟨m, p, hcourse, hover, fun hresult t ht ↦ ?_⟩
    exact ht.elim ((hallows hresult).2 t) ((hallows hresult).1 t)

theorem tells_failures_in_pause :
    let l : Limits := ⟨some 5, some 5⟩
    let calls : Nat → Reception := fun _ ↦ ⟨.error (.transport "refused"), some 2⟩
    let failure := "[call remote AuthorizeHTTP: transport: refused]"
    let p : Progress := ⟨.pausing 0 2, [failure], [0], [2]⟩
    Course l calls (Progress.Prompt l calls) ⟨2, false⟩ p ∧ Account l calls ⟨2, false⟩ p ∧
      p.advance l.deadline calls ⟨5, true⟩ =
        { p with point := .over ⟨.error (.interrupted .cancelled 1 [failure]), 1, 5⟩ } ∧
      (∃ u d, p.made[0]? = some u ∧ (calls 0).delay = some d ∧ 2 = u + d) ∧
      ∃ c, run l calls = some c ∧
        ∃ m q, Course l calls (Progress.Prompt l calls) m q ∧ q.point = .over c := by
  intro l calls failure p
  have hpossible {t : Nat} (ht : t ≤ 5) : Moment.Possible l ⟨t, false⟩ :=
    Moment.possible_of_le fun c hc ↦ Option.some.inj hc ▸ ht
  have hprompt {p : Progress} {t : Nat} (ha : ∀ u, p.awaits? calls = some u → t ≤ u)
      (ht : t ≤ 5) : Progress.Prompt l calls p ⟨t, false⟩ :=
    ⟨ha, fun d hd ↦ Option.some.inj hd ▸ ht, fun c hc ↦ Option.some.inj hc ▸ ht⟩
  have hcalling : Course l calls (Progress.Prompt l calls) ⟨0, false⟩ ⟨.calling 0 0, [], [0], []⟩ :=
    .first (hpossible (by decide)) (hprompt (fun t _ ↦ t.zero_le) (by decide))
  have hpausing : Course l calls (Progress.Prompt l calls) ⟨2, false⟩ p :=
    hcalling.next nofun (by decide) nofun (hpossible (by decide))
      (hprompt (fun t ht ↦ Nat.le_of_eq (Option.some.inj ht)) (by decide))
  obtain ⟨hany, hprompt, hrun, -⟩ := tells_failures l calls
  obtain ⟨haccount, -, hstop⟩ := hany _ _ _ hpausing
  obtain ⟨-, hended, -⟩ := hprompt _ _ hpausing
  have hover := hstop 0 2 (.inr rfl) ⟨5, true⟩ .cancelled
    (.cancelled rfl (Nat.le_refl 5) rfl)
  have hallows : l.Allows 2 :=
    ⟨fun c hc ↦ by cases hc; decide, fun d hd ↦ by cases hd; decide⟩
  have hlate : runFrom l calls (1 + 1) 0 0 [] =
      some ⟨.error (.interrupted .deadline 1 [failure]), 1, 5⟩ :=
    runFrom_of_late_pause (e := .transport "refused") hallows rfl rfl rfl
  obtain ⟨m, q, hq, hc, -⟩ := hrun _ hlate
  exact ⟨hpausing, haccount, hover, hended 0 2 rfl, _, hlate, m, q, hq, hc⟩

end Check

end Gatehouse
