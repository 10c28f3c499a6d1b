import Gatehouse.Proofs.Http.Listings
import Gatehouse.Proofs.Proxy.Checks

namespace Gatehouse

open Http (Fields isFieldText)

namespace Verdict

variable {name : String} {headers : Fields} {removed : List String}

theorem sendable_cons (f : String × String) (fs : Fields) :
    sendable (f :: fs) =
      (if Http.isToken f.1 && isFieldText f.2 then [(Text.lower f.1, f.2)] else []) ++
        sendable fs := by
  unfold sendable Http.field?
  rw [List.filterMap_cons]
  by_cases h : Http.isToken f.1 && isFieldText f.2
  · simp only [if_pos h]
    rfl
  · simp only [if_neg h]
    rfl

theorem sendable_append (fs fs' : Fields) : sendable (fs ++ fs') = sendable fs ++ sendable fs' :=
  List.filterMap_append

theorem exists_of_mem_sendable {f : String × String} (h : f ∈ sendable headers) :
    ∃ e ∈ headers, f.1 = Text.lower e.1 := by
  obtain ⟨e, he, hf⟩ := List.mem_filterMap.1 h
  obtain ⟨-, hf⟩ := Option.ite_none_right_eq_some.1 hf
  exact ⟨e, he, by rw [← Option.some.inj hf]⟩

theorem valuesOf_sendable (hname : Http.isToken name)
    (h : ∀ f ∈ headers, Text.lower f.1 = name → f.1 = name ∧ isFieldText f.2) :
    Http.valuesOf name (sendable headers) = Http.valuesOf name headers := by
  induction headers with
  | nil => rfl
  | cons f fs ih =>
    rw [sendable_cons, Http.valuesOf_append, ih fun e he ↦ h e (List.mem_cons_of_mem f he),
      Http.valuesOf_cons]
    congr 1
    by_cases hl : Text.lower f.1 = name
    · obtain ⟨hkey, hvalue⟩ := h f List.mem_cons_self hl
      simp [hkey, hname, hvalue, Http.valuesOf_singleton]
    · split <;> simp [Http.valuesOf_singleton, hl]

theorem lower_removalHeader : Text.lower removalHeader = removalHeader := by decide

theorem valuesOf_response (hn : name ≠ removalHeader) :
    Http.valuesOf name (pass headers removed).response.headers =
      Http.valuesOf name (sendable headers) := by
  cases removed with
  | nil => rfl
  | cons n ns =>
    have hr : Text.lower removalHeader ≠ name := lower_removalHeader ▸ hn.symm
    change Http.valuesOf name ((sendable headers).filter (fun f ↦ f.1 ≠ removalHeader) ++
      [(removalHeader, Text.joined "," (n :: ns))]) = _
    rw [Http.valuesOf_append, Http.valuesOf_singleton, if_neg hr, List.append_nil,
      Http.valuesOf, Http.valuesOf, List.filter_filter]
    congr 1
    refine List.filter_congr fun f _ ↦ ?_
    by_cases hf : f.1 = removalHeader
    · simp [hf, hr]
    · simp [hf]

end Verdict

namespace Proxy

def removals (answer : Fields) : List String :=
  ((Http.valuesOf Verdict.removalHeader answer).flatMap Http.elements).map Text.lower

def additions (answer : Fields) : Fields :=
  answer.filter fun f ↦ Text.lower f.1 ≠ Verdict.removalHeader

/-- What a site receives of the headers of a client, after the proxy has removed those that it is
to remove, and replaced those that it is to set. -/
def upstream (client answer : Fields) : Fields :=
  (client.filter fun f ↦ !(removals answer).contains (Text.lower f.1) &&
    (Http.valuesOf (Text.lower f.1) (additions answer)).isEmpty) ++ additions answer

variable {answer : Fields} {name : String}

theorem valuesOf_additions (hn : name ≠ Verdict.removalHeader) :
    Http.valuesOf name (additions answer) = Http.valuesOf name answer := by
  have h := Http.valuesOf_filter (fun n ↦ n ≠ Verdict.removalHeader) name answer
  rwa [if_pos (by simpa using hn)] at h

/-- What a site may receive of the headers of a client, whether the proxy removes or sets first. -/
structure Relays (client answer sent : Fields) : Prop where
  removed : ∀ name ∈ removals answer, Http.valuesOf name sent = [] ∨
    Http.valuesOf name sent = Http.valuesOf name (additions answer)
  replaced : ∀ name ∉ removals answer, Http.valuesOf name (additions answer) ≠ [] →
    Http.valuesOf name sent = Http.valuesOf name (additions answer)
  kept : ∀ name ∉ removals answer, Http.valuesOf name (additions answer) = [] →
    Http.valuesOf name sent = Http.valuesOf name client

def upstreamSetFirst (client answer : Fields) : Fields :=
  ((client.filter fun f ↦ (Http.valuesOf (Text.lower f.1) (additions answer)).isEmpty) ++
    additions answer).filter fun f ↦ !(removals answer).contains (Text.lower f.1)

theorem valuesOf_upstream_eq (client answer : Fields) (name : String) :
    Http.valuesOf name (upstream client answer) =
      (if name ∉ removals answer ∧ Http.valuesOf name (additions answer) = [] then
        Http.valuesOf name client else []) ++ Http.valuesOf name (additions answer) := by
  have hf := Http.valuesOf_filter (fun n ↦ !(removals answer).contains n &&
    (Http.valuesOf n (additions answer)).isEmpty) name client
  rw [upstream, Http.valuesOf_append, hf]
  simp

theorem valuesOf_upstreamSetFirst (client answer : Fields) (name : String) :
    Http.valuesOf name (upstreamSetFirst client answer) =
      if name ∈ removals answer then [] else
        (if Http.valuesOf name (additions answer) = [] then Http.valuesOf name client else []) ++
          Http.valuesOf name (additions answer) := by
  have hr := Http.valuesOf_filter (fun n ↦ !(removals answer).contains n) name
    ((client.filter fun f ↦ (Http.valuesOf (Text.lower f.1) (additions answer)).isEmpty) ++
      additions answer)
  have ha := Http.valuesOf_filter (fun n ↦ (Http.valuesOf n (additions answer)).isEmpty) name client
  rw [upstreamSetFirst, hr, Http.valuesOf_append, ha]
  by_cases hm : name ∈ removals answer <;> simp [hm]

theorem relays_upstream (client answer : Fields) :
    Relays client answer (upstream client answer) where
  removed name hm := .inr (by rw [valuesOf_upstream_eq, if_neg fun h ↦ h.1 hm, List.nil_append])
  replaced name _ ha := by rw [valuesOf_upstream_eq, if_neg fun h ↦ ha h.2, List.nil_append]
  kept name hm ha := by rw [valuesOf_upstream_eq, if_pos ⟨hm, ha⟩, ha, List.append_nil]

theorem relays_upstreamSetFirst (client answer : Fields) :
    Relays client answer (upstreamSetFirst client answer) where
  removed name hm := .inl (by rw [valuesOf_upstreamSetFirst, if_pos hm])
  replaced name hm ha := by
    rw [valuesOf_upstreamSetFirst, if_neg hm, if_neg ha, List.nil_append]
  kept name hm ha := by rw [valuesOf_upstreamSetFirst, if_neg hm, if_pos ha, ha, List.append_nil]

/-- The order makes no difference to a header that is either removed or set. -/
theorem Relays.valuesOf_eq {client sent : Fields} (h : Relays client answer sent)
    (hn : name ≠ Verdict.removalHeader)
    (hx : name ∈ removals answer ↔ Http.valuesOf name answer = []) :
    Http.valuesOf name sent = Http.valuesOf name answer := by
  by_cases hm : name ∈ removals answer
  · rcases h.removed name hm with h | h
    · rw [h, hx.1 hm]
    · rw [h, valuesOf_additions hn]
  · have hset : Http.valuesOf name (additions answer) ≠ [] := by
      rw [valuesOf_additions hn]
      exact mt hx.2 hm
    rw [h.replaced name hm hset, valuesOf_additions hn]

theorem removals_pass {headers : Fields} {removed : List String}
    (hr : ∀ n ∈ removed, Text.lower n = n ∧ Http.elements n = [n])
    (h : ∀ f ∈ headers, Text.lower f.1 ≠ Verdict.removalHeader) :
    removals (Verdict.pass headers removed).response.headers = removed := by
  have hs : ∀ f ∈ Verdict.sendable headers, Text.lower f.1 ≠ Verdict.removalHeader := by
    intro f hf
    obtain ⟨e, he, hfe⟩ := Verdict.exists_of_mem_sendable hf
    rw [hfe, Text.lower_lower]
    exact h e he
  cases removed with
  | nil =>
    change ((Http.valuesOf _ (Verdict.sendable headers)).flatMap Http.elements).map Text.lower = []
    rw [Http.valuesOf_eq_nil hs]
    rfl
  | cons n ns =>
    change ((Http.valuesOf _ ((Verdict.sendable headers).filter (fun f ↦
      f.1 ≠ Verdict.removalHeader) ++ [(_, _)])).flatMap Http.elements).map Text.lower = n :: ns
    rw [Http.valuesOf_append, Http.valuesOf_singleton, if_pos Verdict.lower_removalHeader,
      Http.valuesOf_eq_nil fun f hf ↦ hs f (List.mem_filter.1 hf).1, List.nil_append,
      List.flatMap_singleton, Http.listing_elements.joined,
      Http.flatMap_eq_self fun m hm ↦ (hr m hm).2]
    exact (List.map_congr_left fun m hm ↦ (hr m hm).1).trans (List.map_id _)

def pairs (fields : List HeaderField) : Fields := fields.map fun h ↦ (h.key, h.value)

variable {usernameHeader : Option String} {fields : List HeaderField}

/-- The header that tells the user's name, if one is configured for it: an empty name is none. -/
def told (usernameHeader : Option String) (username : String) : Fields :=
  (usernameHeader.filter (· ≠ "")).toList.map fun name ↦ (name, username)

theorem ofDecision_allow (usernameHeader : Option String) (username : String)
    (fields : List HeaderField) :
    Verdict.ofDecision usernameHeader (.allow username fields) =
      .pass (Http.fold (pairs fields) ++ told usernameHeader username)
        (Verdict.identifying.filter fun n ↦ Http.folded? n (pairs fields) = none) := by
  have hkept (n : String) : (!((Http.grouped (pairs fields)).map Prod.fst).contains n) =
      decide (Http.folded? n (pairs fields) = none) := by
    rw [Http.keys_grouped, Bool.eq_iff_iff, Bool.not_eq_true', Bool.eq_false_iff, ne_eq,
      List.contains_iff_mem, Http.mem_keys_fold, not_not, decide_eq_true_iff]
  rw [← Http.joined_grouped, ← funext hkept]
  cases usernameHeader with
  | none => rfl
  | some name =>
    by_cases hn : name = ""
    · subst hn
      rfl
    · have htold : told (some name) username = [(name, username)] := by simp [told, hn]
      rw [htold, Verdict.ofDecision]
      simp only [if_neg hn]
      rfl

theorem eq_of_mem_told {f : String × String} {username : String}
    (h : f ∈ told usernameHeader username) : usernameHeader = some f.1 := by
  obtain ⟨name, hname, rfl⟩ := List.mem_map.1 h
  exact (Option.filter_eq_some_iff.1 (Option.mem_toList.1 hname)).1

theorem valuesOf_pairs (name : String) (fields : List HeaderField) :
    Http.valuesOf name (pairs fields) =
      (fields.filter fun h ↦ Text.lower h.key = name).map HeaderField.value := by
  rw [Http.valuesOf, pairs, List.filter_map, List.map_map]
  rfl

theorem valuesOf_pairs_eq_nil :
    Http.valuesOf name (pairs fields) = [] ↔ ∀ h ∈ fields, Text.lower h.key ≠ name := by
  simp [valuesOf_pairs, List.filter_eq_nil_iff]

theorem identifying_names (hn : name ∈ Verdict.identifying) :
    name ≠ Verdict.removalHeader ∧ Http.isToken name ∧ Text.lower name = name ∧
      Http.elements name = [name] := by
  simp only [Verdict.identifying, List.mem_cons, List.not_mem_nil, or_false] at hn
  rcases hn with rfl | rfl <;> decide

theorem valuesOf_allowed (username : String) (hn : name ∈ Verdict.identifying)
    (hu : ∀ n, usernameHeader = some n → Text.lower n ∉ Verdict.identifying)
    (hv : ∀ v, Http.folded? name (pairs fields) = some v → isFieldText v) :
    Http.valuesOf name
        (Verdict.ofDecision usernameHeader (.allow username fields)).response.headers =
      (Http.folded? name (pairs fields)).toList := by
  obtain ⟨hr, htoken, -, -⟩ := identifying_names hn
  have htold : ∀ f ∈ told usernameHeader username, Text.lower f.1 ≠ name := by
    rintro f hf rfl
    exact hu f.1 (eq_of_mem_told hf) hn
  have hadded : ∀ f ∈ Http.fold (pairs fields) ++ told usernameHeader username,
      Text.lower f.1 = name → f.1 = name ∧ isFieldText f.2 := by
    intro f hf hf'
    rcases List.mem_append.1 hf with hf | hf
    · rw [Http.lower_of_mem_fold hf] at hf'
      exact ⟨hf', hv f.2 (hf' ▸ Http.folded?_of_mem_fold hf)⟩
    · exact absurd hf' (htold f hf)
  rw [ofDecision_allow, Verdict.valuesOf_response hr, Verdict.valuesOf_sendable htoken hadded,
    Http.valuesOf_append, Http.valuesOf_eq_nil htold, List.append_nil, Http.valuesOf_fold]

/-- Headers that identify somebody are to be removed exactly if they are not set, unless the user's
name is told under the name of the header by which the proxy is told what to remove. -/
theorem mem_removals_allowed (username : String) (hn : name ∈ Verdict.identifying)
    (hu : ∀ n, usernameHeader = some n → Text.lower n ≠ Verdict.removalHeader)
    (hf : ∀ f ∈ pairs fields, Text.lower f.1 ≠ Verdict.removalHeader) :
    name ∈ removals
        (Verdict.ofDecision usernameHeader (.allow username fields)).response.headers ↔
      Http.folded? name (pairs fields) = none := by
  rw [ofDecision_allow, removals_pass, List.mem_filter, decide_eq_true_iff, and_iff_right hn]
  · intro n hn
    exact (identifying_names (List.mem_filter.1 hn).1).2.2
  · intro f hmem
    rcases List.mem_append.1 hmem with hmem | hmem
    · obtain ⟨e, he, hfe⟩ := Http.exists_of_mem_fold hmem
      rw [hfe, Text.lower_lower]
      exact hf e he
    · exact hu f.1 (eq_of_mem_told hmem)

theorem removed_iff_not_set (username : String) (hn : name ∈ Verdict.identifying)
    (hu : ∀ n, usernameHeader = some n →
      Text.lower n ∉ Verdict.removalHeader :: Verdict.identifying)
    (hf : ∀ f ∈ pairs fields, Text.lower f.1 ≠ Verdict.removalHeader)
    (hv : ∀ v, Http.folded? name (pairs fields) = some v → isFieldText v) :
    name ∈ removals
        (Verdict.ofDecision usernameHeader (.allow username fields)).response.headers ↔
      Http.valuesOf name
        (Verdict.ofDecision usernameHeader (.allow username fields)).response.headers = [] := by
  rw [mem_removals_allowed username hn (fun n h he ↦ hu n h (he ▸ List.mem_cons_self)) hf,
    valuesOf_allowed username hn (fun n h hm ↦ hu n h (List.mem_cons_of_mem _ hm)) hv]
  cases Http.folded? name (pairs fields) <;> simp

/-- Whoever is let in, the headers that are set are those of the reply, folded as the headers of
requests are, and behind them the one for the user's name. The headers that are removed are those
by which visitors identify and of which the reply has none. -/
theorem allowance_folded (usernameHeader : Option String) (username : String)
    (fields : List HeaderField) :
    ∃ added removed,
      Verdict.ofDecision usernameHeader (.allow username fields) =
        .pass (added ++ told usernameHeader username) removed ∧
      added = Http.fold (pairs fields) ∧ Text.Sorted added ∧
      (∀ name value, (name, value) ∈ added ↔
        (∃ h ∈ fields, Text.lower h.key = name) ∧
          value = Text.joined (if name = "cookie" then "; " else ",")
            ((fields.filter fun h ↦ Text.lower h.key = name).map HeaderField.value)) ∧
      removed = ["cookie", "authorization"].filter
        (fun name ↦ ∀ h ∈ fields, Text.lower h.key ≠ name) ∧
      ∀ h ∈ fields, Text.lower h.key ∉ removed := by
  refine ⟨_, _, ofDecision_allow usernameHeader username fields, rfl, Http.sorted_fold _,
    fun name value ↦ ?_, ?_, ?_⟩
  · have hsome : Http.valuesOf name (pairs fields) ≠ [] ↔
        ∃ h ∈ fields, Text.lower h.key = name := by
      simp [valuesOf_pairs_eq_nil]
    rw [Http.mem_fold, Http.folded?_eq_some, hsome, valuesOf_pairs]
    rfl
  · apply List.filter_congr
    intro name _
    rw [decide_eq_decide, Http.folded?_eq_none, valuesOf_pairs_eq_nil]
  · intro h hh hm
    have hnone := of_decide_eq_true (List.mem_filter.1 hm).2
    exact valuesOf_pairs_eq_nil.1 (Http.folded?_eq_none.1 hnone) h hh rfl

example : Verdict.ofDecision (some "X-User")
    (.allow "ann" [⟨"COOKIE", "a=1"⟩, ⟨"b", ""⟩, ⟨"Cookie", ""⟩, ⟨"B", "2"⟩, ⟨"cookie", "c=3"⟩]) =
      .pass [("b", ",2"), ("cookie", "a=1; ; c=3"), ("X-User", "ann")] ["authorization"] := by
  decide

end Proxy

end Gatehouse
