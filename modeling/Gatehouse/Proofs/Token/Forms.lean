import Gatehouse.Proofs.Text.Letters
import Gatehouse.Proofs.Token.Outcomes

namespace Gatehouse.Token

open Base64 (Carries Groups letter isLetter packed)

variable {α : Type} {kind : PayloadKind α} {key : TokenKey} {now : Instant} {limit : Span}
  {nonce nonce' plain plain' hidden tag o : Octets} {token text body front : String}

/-- A text that is framed as a token, and is authentic under a key, with the nonce and the plaintext
that it holds. -/
def Passes (key : TokenKey) (token : String) (nonce plain : Octets) : Prop :=
  ∃ body closed, token = mark ++ body ∧ Base64.decode .urlSafe body = .ok (nonce ++ closed) ∧
    nonce.length = nonceSize ∧ Cipher.tagLength ≤ closed.length ∧
    Cipher.decrypt key.octets nonce closed = some plain

theorem passes_iff :
    Passes key token nonce plain ↔ nonce.length = nonceSize ∧ token = frame key nonce plain := by
  constructor
  · intro h
    obtain ⟨body, closed, rfl, hd, hn, -, hc⟩ := h
    rw [Cipher.decrypt_eq_some.1 hc] at hd
    rw [Base64.decode_eq_ok.1 hd]
    exact ⟨hn, rfl⟩
  · intro h
    obtain ⟨hn, rfl⟩ := h
    refine ⟨_, _, rfl, Base64.decode_encode _ _, hn, ?_, Cipher.decrypt_encrypt _ _ _⟩
    rw [Cipher.length_encrypt]
    exact Nat.le_add_left _ _

def IsRefusal (e : TokenError) : Prop := e = .invalid ∨ ∃ reason, e = .malformed reason

theorem unframe_outcome (key : TokenKey) (token : String) :
    (∃ e, unframe key token = .error e ∧ IsRefusal e) ∨
      ∃ nonce plain, unframe key token = .ok plain ∧ Passes key token nonce plain := by
  rcases unframe_cases key token with hm | ⟨body, e, rfl, hd⟩ | ⟨o, rfl, hl⟩ |
    ⟨nonce, closed, rfl, hn, hc, hf⟩ | ⟨nonce, plain, rfl, hn⟩
  · exact .inl ⟨_, unframe_of_unmarked hm, .inr ⟨_, rfl⟩⟩
  · exact .inl ⟨_, unframe_of_garbled hd, .inr ⟨_, rfl⟩⟩
  · exact .inl ⟨_, unframe_of_short hl, .inr ⟨_, rfl⟩⟩
  · exact .inl ⟨_, unframe_of_forged hn hc hf, .inl rfl⟩
  · exact .inr ⟨nonce, plain, unframe_frame key plain hn, passes_iff.2 ⟨hn, rfl⟩⟩

theorem unframe_eq_ok :
    unframe key token = .ok plain ↔ ∃ nonce, Passes key token nonce plain := by
  constructor
  · intro h
    rcases unframe_outcome key token with ⟨e, he, -⟩ | ⟨nonce, p, hok, hp⟩
    · rw [h] at he
      cases he
    · rw [h] at hok
      cases hok
      exact ⟨nonce, hp⟩
  · intro h
    obtain ⟨nonce, hp⟩ := h
    obtain ⟨hn, rfl⟩ := passes_iff.1 hp
    exact unframe_frame key plain hn

theorem exists_passes_of_open {a : α} (h : openWithin limit kind token key now = .ok a) :
    ∃ nonce plain, Passes key token nonce plain := by
  rcases unframe_outcome key token with ⟨e, he, -⟩ | ⟨nonce, plain, -, hp⟩
  · have hne : token ≠ "" := by
      intro hempty
      rw [hempty] at h
      cases h
    rw [openWithin_of_unframe_error hne he] at h
    cases h
  · exact ⟨nonce, plain, hp⟩

/-- A text that whoever is not particular takes for a token with this nonce and these masked octets,
whatever its tag is and whatever stands in front. If that is the mark and something more, it is
something that no token can begin with. -/
def Resembles (nonce hidden : Octets) (text : String) : Prop :=
  ∃ front body tag, text = front ++ body ∧ Carries body (nonce ++ (hidden ++ tag)) ∧
    tag.length = Cipher.tagLength ∧
    ∀ more, front = mark ++ more → more.toList.all isLetter → more = ""

/-- The ways to alter a token and leave its nonce and its masked octets as they are. -/
inductive Altered (nonce hidden tag : Octets) : String → Prop
  | tag {tag' : Octets} : tag'.length = Cipher.tagLength → tag' ≠ tag →
      Altered nonce hidden tag (mark ++ Base64.encode .urlSafe (nonce ++ (hidden ++ tag')))
  | padding {n : Nat} : n ≠ 0 →
      Altered nonce hidden tag (mark ++ (Base64.encode .urlSafe (nonce ++ (hidden ++ tag)) ++
        String.ofList (List.replicate n '=')))
  | alphabet {vs : List Nat} {body : String} : Groups (nonce ++ (hidden ++ tag)) vs →
      List.Forall₂ (fun c v ↦ ∃ a, c = letter a v) body.toList vs →
      body ≠ Base64.encode .urlSafe (nonce ++ (hidden ++ tag)) →
      Altered nonce hidden tag (mark ++ body)
  | lastBits {vs : List Nat} {v w : Nat} : Groups (nonce ++ (hidden ++ tag)) (vs ++ [v]) →
      packed (vs ++ [w]) = nonce ++ (hidden ++ tag) → w < 64 → w ≠ v →
      Altered nonce hidden tag (mark ++ String.ofList ((vs ++ [w]).map (letter .urlSafe)))
  | front {front : String} : (∀ more, front = mark ++ more → ¬more.toList.all isLetter) →
      Altered nonce hidden tag (front ++ Base64.encode .urlSafe (nonce ++ (hidden ++ tag)))

theorem eq_encode_of_marked (h : front ++ body = mark ++ Base64.encode .urlSafe o)
    (hdot : '.' ∉ body.toList)
    (hfront : ∀ more, front = mark ++ more → more.toList.all isLetter → more = "") :
    body = Base64.encode .urlSafe o := by
  have hlists := congrArg String.toList h
  rw [String.toList_append, String.toList_append] at hlists
  rcases List.append_eq_append_iff.1 hlists with ⟨more, hmark, hrest⟩ | ⟨more, hmark, hrest⟩
  · -- the mark ends in a point, which is no letter
    have hnil : more = [] := by
      by_contra hne
      have hlast : more.getLast? = some '.' := by
        rw [← List.getLast?_append_of_ne_nil front.toList hne, ← hmark]
        rfl
      apply hdot
      rw [hrest]
      exact List.mem_append_left _ (List.mem_of_getLast? hlast)
    rw [hnil, List.nil_append] at hrest
    exact String.toList_inj.1 hrest
  · have hletters : (String.ofList more).toList.all isLetter := by
      rw [String.toList_ofList, List.all_eq_true]
      intro c hc
      apply Base64.isLetter_of_mem_encode
      rw [hrest]
      exact List.mem_append_left _ hc
    have hshape : front = mark ++ String.ofList more := by
      rw [← String.toList_inj, hmark, String.toList_append, String.toList_ofList]
    have hempty := congrArg String.toList (hfront _ hshape hletters)
    rw [String.toList_ofList] at hempty
    rw [hempty, String.toList_empty, List.nil_append] at hrest
    exact String.toList_inj.1 hrest.symm

/-- Whatever resembles a token and passes for one, is that token. -/
theorem Resembles.eq_frame
    (h : Resembles nonce (Cipher.masked key.octets nonce plain) text)
    (hn : nonce.length = nonceSize) (hp : Passes key text nonce' plain') :
    text = frame key nonce plain := by
  obtain ⟨hn', ht⟩ := passes_iff.1 hp
  obtain ⟨front, body, tag, hsplit, hc, htag, hfront⟩ := h
  rw [ht] at hsplit
  have hbody := eq_encode_of_marked hsplit.symm hc.dot_not_mem hfront
  rw [hbody] at hc
  obtain ⟨rfl, hclosed⟩ := List.append_inj hc.eq_of_encode (hn.trans hn'.symm)
  have hl := congrArg List.length hclosed
  rw [List.length_append, htag, Cipher.length_encrypt, Cipher.length_masked] at hl
  have hmasked : Cipher.masked key.octets nonce plain = Cipher.masked key.octets nonce plain' := by
    refine (List.append_inj hclosed ?_).1
    rw [Cipher.length_masked, Cipher.length_masked]
    exact Nat.add_right_cancel hl
  have hplain : plain = plain' := by
    rw [← Cipher.masked_masked key.octets nonce plain, hmasked, Cipher.masked_masked]
  rw [ht, hplain]

theorem Resembles.ne_empty (h : Resembles nonce hidden text) (hn : nonce.length = nonceSize) :
    text ≠ "" := by
  obtain ⟨front, body, tag, rfl, hc, -⟩ := h
  have hne : nonce ++ (hidden ++ tag) ≠ [] := by
    intro hnil
    rw [(List.append_eq_nil_iff.1 hnil).1] at hn
    cases hn
  intro hempty
  rw [String.append_eq_empty_iff] at hempty
  exact hc.ne_empty hne hempty.2

theorem Resembles.refused (h : Resembles nonce (Cipher.masked key.octets nonce plain) text)
    (hn : nonce.length = nonceSize) (hne : text ≠ frame key nonce plain) :
    ∃ e, openWithin limit kind text key now = .error e ∧ IsRefusal e := by
  rcases unframe_outcome key text with ⟨e, he, hr⟩ | ⟨nonce', plain', -, hp⟩
  · exact ⟨e, openWithin_of_unframe_error (h.ne_empty hn) he, hr⟩
  · exact absurd (h.eq_frame hn hp) hne

theorem resembles_marked (h : Carries body (nonce ++ (hidden ++ tag)))
    (ht : tag.length = Cipher.tagLength) : Resembles nonce hidden (mark ++ body) :=
  ⟨mark, body, tag, rfl, h, ht, fun _ hm _ ↦ String.append_eq_left_iff.1 hm.symm⟩

theorem Altered.resembles (h : Altered nonce hidden tag text) (ht : tag.length = Cipher.tagLength) :
    Resembles nonce hidden text ∧
      text ≠ mark ++ Base64.encode .urlSafe (nonce ++ (hidden ++ tag)) := by
  cases h with
  | tag ht' hne =>
    refine ⟨resembles_marked (Base64.carries_encode _ _) ht', fun he ↦ hne ?_⟩
    have hoctets := Base64.encode_injective .urlSafe ((String.append_right_inj mark).1 he)
    exact List.append_cancel_left (List.append_cancel_left hoctets)
  | @padding n hn =>
    refine ⟨resembles_marked ((Base64.carries_encode _ _).padded n) ht, fun he ↦ hn ?_⟩
    have hl := congrArg String.length ((String.append_right_inj mark).1 he)
    simpa using hl
  | @alphabet vs body hvs hbody hne =>
    refine ⟨resembles_marked ⟨body.toList, vs, 0, by simp, hvs.lt, hbody, hvs.fill⟩ ht,
      fun he ↦ hne ?_⟩
    exact (String.append_right_inj mark).1 he
  | @lastBits vs v w hvs hfill hw hne =>
    have hlt : ∀ u ∈ vs ++ [w], u < 64 := by
      intro u hu
      rcases List.mem_append.1 hu with hu | hu
      · exact hvs.lt u (List.mem_append_left _ hu)
      · rwa [List.mem_singleton.1 hu]
    refine ⟨resembles_marked ⟨_, vs ++ [w], 0, by simp, hlt, Base64.forall₂_letters .urlSafe _,
      hfill⟩ ht, fun he ↦ hne ?_⟩
    have hletters := congrArg String.toList ((String.append_right_inj mark).1 he)
    rw [String.toList_ofList, Base64.toList_encode_urlSafe hvs, List.map_append,
      List.map_append] at hletters
    have hlast := List.append_cancel_left hletters
    exact Base64.eq_of_letter_eq hw (hvs.lt v (by simp)) (List.cons.inj hlast).1
  | @front front hfront =>
    refine ⟨⟨front, _, tag, rfl, Base64.carries_encode _ _, ht, fun more hm hall ↦
      absurd hall (hfront more hm)⟩, fun he ↦ ?_⟩
    have hmark := (String.append_left_inj _).1 he
    exact hfront "" (hmark.trans (String.append_empty).symm) rfl

/-- A text that passes for a token under a key is the one text for its nonce and its plaintext.
However it is altered, in front, in its letters, its padding, its last bits or its tag, it is
refused. -/
theorem one_text_for_contents (key : TokenKey) :
    (∀ token plain, unframe key token = .ok plain ↔ ∃ nonce, Passes key token nonce plain) ∧
    (∀ (α : Type) (kind : PayloadKind α) (limit : Span) (now : Instant) (token : String) (a : α),
      openWithin limit kind token key now = .ok a → ∃ nonce plain, Passes key token nonce plain) ∧
    (∀ token nonce plain, Passes key token nonce plain ↔ nonce.length = nonceSize ∧
      token = "v1." ++ Base64.encode .urlSafe (nonce ++ Cipher.encrypt key.octets nonce plain)) ∧
    (∀ token token' nonce nonce' plain plain', Passes key token nonce plain →
      Passes key token' nonce' plain' → token ≠ token' → nonce ≠ nonce' ∨ plain ≠ plain') ∧
    ∀ token nonce plain, Passes key token nonce plain →
      let hidden := Cipher.masked key.octets nonce plain
      (∀ text, Altered nonce hidden (Cipher.tag key.octets nonce hidden) text →
        Resembles nonce hidden text ∧ text ≠ token) ∧
      ∀ text, Resembles nonce hidden text → text ≠ token →
        ∀ (α : Type) (kind : PayloadKind α) (limit : Span) (now : Instant),
          ∃ e, openWithin limit kind text key now = .error e ∧ IsRefusal e := by
  refine ⟨fun _ _ ↦ unframe_eq_ok, fun _ _ _ _ _ _ ↦ exists_passes_of_open,
    fun _ _ _ ↦ passes_iff, ?_, ?_⟩
  · intro token token' nonce nonce' plain plain' h h' hne
    rw [← not_and_or]
    intro hsame
    obtain ⟨hnonce, hplain⟩ := hsame
    apply hne
    rw [(passes_iff.1 h).2, (passes_iff.1 h').2, hnonce, hplain]
  · intro token nonce plain h hidden
    obtain ⟨hn, rfl⟩ := passes_iff.1 h
    exact ⟨fun _ ha ↦ ha.resembles (Cipher.length_tag _ _ _),
      fun _ hr hne _ _ _ _ ↦ hr.refused hn hne⟩

theorem one_text_for_contents_misspelt :
    let key : TokenKey := ⟨List.replicate 32 9, by decide, by decide⟩
    let nonce := List.replicate nonceSize 7
    let plain := Octets.ofText "{}"
    let body := Base64.encode .urlSafe (nonce ++ Cipher.encrypt key.octets nonce plain)
    Passes key ("v1." ++ body) nonce plain ∧
      ∀ text ∈ ["v1." ++ (body ++ "="), "v2." ++ body], ∃ e,
        openWithin (Instant.minutes 5) returns text key ⟨1000, 0⟩ = .error e ∧ IsRefusal e := by
  intro key nonce plain body
  obtain ⟨-, -, hpasses, -, halike⟩ := one_text_for_contents key
  have h : Passes key ("v1." ++ body) nonce plain :=
    (hpasses _ _ _).2 ⟨List.length_replicate, rfl⟩
  obtain ⟨haltered, hrefused⟩ := halike _ _ _ h
  refine ⟨h, fun text ht ↦ ?_⟩
  suffices ha : Altered nonce (Cipher.masked key.octets nonce plain)
      (Cipher.tag key.octets nonce (Cipher.masked key.octets nonce plain)) text by
    obtain ⟨hr, hne⟩ := haltered text ha
    exact hrefused text hr hne _ _ _ _
  simp only [List.mem_cons, List.not_mem_nil, or_false] at ht
  rcases ht with rfl | rfl
  · exact Altered.padding (n := 1) (by decide)
  · refine Altered.front fun more hm ↦ ?_
    have hhead := congrArg (fun s ↦ s.toList[1]?) hm
    simp [mark] at hhead

end Gatehouse.Token
