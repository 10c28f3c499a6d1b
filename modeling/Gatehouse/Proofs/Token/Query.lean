import Gatehouse.Authority.Server
import Gatehouse.Proofs.Text.Base64
import Gatehouse.Proofs.Text.Splitting
import Gatehouse.Proofs.Text.Utf8
import Gatehouse.Proofs.Token.Opening

namespace Gatehouse

variable {c d : Char} {s : List Char} {o : Octets}

def Token.isPlain (c : Char) : Bool := c.isAlphanum || c = '-' || c = '_' || c = '.'

theorem Token.ne_of_isPlain (h : isPlain c) (hd : isPlain d = false) : c ≠ d := by
  rintro rfl
  rw [h] at hd
  cases hd

theorem Token.lt_of_isPlain (h : isPlain c) : c.toNat < 128 := by
  simp only [isPlain, Bool.or_eq_true, decide_eq_true_eq] at h
  rcases h with ((h | rfl) | rfl) | rfl
  · exact Text.lt_of_isAlphanum h
  · decide
  · decide
  · decide

theorem Token.isPlain_encode (hc : c ∈ (Base64.encode .urlSafe o).toList) : isPlain c := by
  rw [Base64.encode, String.toList_ofList, List.mem_map] at hc
  obtain ⟨b, hb, rfl⟩ := hc
  obtain ⟨n, hn, rfl⟩ | ⟨h, -⟩ := Base64.mem_symbols hb
  · have all : ∀ n : Fin 64, isPlain (Char.ofNat (Base64.symbol .urlSafe n).toNat) := by decide
    exact all ⟨n, hn⟩
  · cases h

theorem Token.isPlain_frame {key : TokenKey} {nonce plain : Octets}
    (hc : c ∈ (frame key nonce plain).toList) : isPlain c := by
  rw [frame, String.toList_append, List.mem_append] at hc
  rcases hc with hc | hc
  · have all : mark.toList.all isPlain := by decide
    exact List.all_eq_true.1 all c hc
  · exact isPlain_encode hc

theorem Token.isPlain_make {α : Type} {kind : PayloadKind α} {payload : α} {key : TokenKey}
    {now : Instant} {e : Entropy} {token : String}
    (h : (make kind payload key now e).1 = .ok (some token)) (hc : c ∈ token.toList) :
    isPlain c := by
  obtain ⟨nonce, plain, -, -, rfl⟩ := frame_of_make h
  exact isPlain_frame hc

theorem Url.percentDecode_of_not_mem (h : 37 ∉ o) : percentDecode o = o := by
  induction o with
  | nil => rfl
  | cons b o ih =>
    rw [List.mem_cons, not_or] at h
    rw [percentDecode.eq_def]
    simp only [Ne.symm h.1, if_false, ih h.2]

namespace Http

theorem formText_of_isPlain (h : ∀ c ∈ s, Token.isPlain c) : formText s = String.ofList s := by
  have hspaced : (s.map fun c ↦ if c = '+' then ' ' else c) = s := by
    have same : ∀ c ∈ s, (if c = '+' then ' ' else c) = c := by
      intro c hc
      rw [if_neg (Token.ne_of_isPlain (h c hc) rfl)]
    exact (List.map_congr_left same).trans (List.map_id' s)
  have hascii : ∀ c ∈ s, c.toNat < 128 := fun c hc ↦ Token.lt_of_isPlain (h c hc)
  have hpercent : 37 ∉ Octets.ofChars s := by
    rw [Octets.ofChars_of_ascii hascii, List.mem_map]
    rintro ⟨c, hc, he⟩
    have hne := Token.ne_of_isPlain (d := '%') (h c hc) rfl
    have hv := congrArg UInt8.toNat he
    rw [UInt8.toNat_ofNat', Nat.mod_eq_of_lt (Nat.lt_trans (hascii c hc) (by decide))] at hv
    exact hne (Char.toNat_inj.1 hv)
  rw [formText, hspaced, Octets.ofText_ofList, Url.percentDecode_of_not_mem hpercent,
    Octets.lossyText_ofChars_of_ascii hascii]

end Http

/-- The token is found again in the query that it was put into. -/
theorem Authority.tokenOf_set {token : String} (h : ∀ c ∈ token.toList, Token.isPlain c) :
    tokenOf ("set=" ++ token) = .ok token := by
  have hshape : ("set=" ++ token).toList = "set".toList ++ '=' :: token.toList := by
    rw [String.toList_append]
    rfl
  have hamp : '&' ∉ "set".toList ++ '=' :: token.toList := by
    rw [List.mem_append, List.mem_cons, not_or, not_or]
    refine ⟨by decide, by decide, fun hc ↦ ?_⟩
    exact Token.ne_of_isPlain (d := '&') (h _ hc) rfl rfl
  have hplain : "set".toList.all Token.isPlain := by decide
  have hname : Http.formText "set".toList = "set" :=
    Http.formText_of_isPlain (List.all_eq_true.1 hplain)
  have hvalue : Http.formText token.toList = token := by
    rw [Http.formText_of_isPlain h, String.ofList_toList]
  have hform : Http.readForm ("set=" ++ token) = [("set", token)] := by
    rw [Http.readForm, hshape, Text.pieces_of_not_mem hamp]
    simp only [List.filter]
    rw [show (!("set".toList ++ '=' :: token.toList).isEmpty) = true by rfl]
    simp only [List.map, @Text.cut_append '=' "set".toList (by decide), hname,
      hvalue]
  rw [tokenOf, hform]
  rfl

end Gatehouse
