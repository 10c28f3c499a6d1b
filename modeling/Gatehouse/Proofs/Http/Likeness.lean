import Mathlib.Logic.Relation
import Gatehouse.Proofs.Http.Listings

namespace Gatehouse.Http

variable {fs fs' : Fields}

/-- Other ways to write the same headers: another spelling of a name, another order of headers that
have different names, and cookies in two headers in place of one. -/
inductive Rewritten : Fields → Fields → Prop
  | spelling (before after : Fields) (v : String) {n n' : String}
      (h : Text.lower n = Text.lower n') :
      Rewritten (before ++ (n, v) :: after) (before ++ (n', v) :: after)
  | order (before after : Fields) {f g : String × String} (h : Text.lower f.1 ≠ Text.lower g.1) :
      Rewritten (before ++ f :: g :: after) (before ++ g :: f :: after)
  | division (before after : Fields) (v w : String) {n n' sep : String}
      (hn : Text.lower n = "cookie") (hn' : Text.lower n' = "cookie") (hs : sep ∈ [";", "; "]) :
      Rewritten (before ++ (n, v ++ sep ++ w) :: after) (before ++ (n, v) :: (n', w) :: after)

def Alike : Fields → Fields → Prop := Relation.EqvGen Rewritten

theorem Rewritten.cons (f : String × String) (h : Rewritten fs fs') :
    Rewritten (f :: fs) (f :: fs') := by
  cases h with
  | spelling before after v h => exact .spelling (f :: before) after v h
  | order before after h => exact .order (f :: before) after h
  | division before after v w hn hn' hs => exact .division (f :: before) after v w hn hn' hs

namespace Alike

theorem cons (f : String × String) (h : Alike fs fs') : Alike (f :: fs) (f :: fs') := by
  induction h with
  | rel fs fs' h => exact .rel _ _ (h.cons f)
  | refl fs => exact .refl _
  | symm fs fs' _ ih => exact .symm _ _ ih
  | trans fs fs' fs'' _ _ ih ih' => exact .trans _ _ _ ih ih'

theorem front {before : Fields} {f : String × String}
    (h : ∀ e ∈ before, Text.lower e.1 ≠ Text.lower f.1) (after : Fields) :
    Alike (before ++ f :: after) (f :: (before ++ after)) := by
  induction before with
  | nil => exact .refl _
  | cons e before ih =>
    have hbefore : Alike (e :: (before ++ f :: after)) (e :: f :: (before ++ after)) :=
      (ih fun e' he ↦ h e' (List.mem_cons_of_mem e he)).cons e
    have he : Rewritten (e :: f :: (before ++ after)) (f :: e :: (before ++ after)) :=
      .order [] (before ++ after) (h e List.mem_cons_self)
    exact .trans _ _ _ hbefore (.rel _ _ he)

end Alike

theorem exists_of_valuesOf_eq_cons {name v : String} {vs : List String}
    (h : valuesOf name fs = v :: vs) : ∃ before n after, fs = before ++ (n, v) :: after ∧
      Text.lower n = name ∧ ∀ e ∈ before, Text.lower e.1 ≠ name := by
  induction fs with
  | nil => cases h
  | cons f fs ih =>
    rw [valuesOf_cons] at h
    by_cases hf : Text.lower f.1 = name
    · rw [if_pos hf] at h
      obtain rfl : f.2 = v := (List.cons.inj h).1
      exact ⟨[], f.1, fs, rfl, hf, by simp⟩
    · rw [if_neg hf, List.nil_append] at h
      obtain ⟨before, n, after, rfl, hn, hbefore⟩ := ih h
      refine ⟨f :: before, n, after, rfl, hn, ?_⟩
      intro e he
      rcases List.mem_cons.1 he with rfl | he
      · exact hf
      · exact hbefore e he

theorem alike_of_valuesOf_eq (h : ∀ name, valuesOf name fs = valuesOf name fs') :
    Alike fs fs' := by
  induction fs generalizing fs' with
  | nil =>
    cases fs' with
    | nil => exact .refl _
    | cons f fs' =>
      have hf := h (Text.lower f.1)
      rw [valuesOf_cons, if_pos rfl] at hf
      cases hf
  | cons f fs ih =>
    have hf := h (Text.lower f.1)
    rw [valuesOf_cons, if_pos rfl] at hf
    obtain ⟨before, n, after, rfl, hn, hbefore⟩ := exists_of_valuesOf_eq_cons hf.symm
    have hrest (name : String) : valuesOf name fs = valuesOf name (before ++ after) := by
      have hname := h name
      rw [valuesOf_append, valuesOf_cons, valuesOf_cons, hn] at hname
      rw [valuesOf_append]
      by_cases hfn : Text.lower f.1 = name
      · have hnil : valuesOf name before = [] := valuesOf_eq_nil fun e he ↦ hfn ▸ hbefore e he
        rw [hnil, if_pos hfn] at hname
        rw [hnil]
        exact (List.cons.inj hname).2
      · rwa [if_neg hfn] at hname
    have hspelling : Rewritten (f :: (before ++ after)) ((n, f.2) :: (before ++ after)) :=
      .spelling [] (before ++ after) f.2 hn.symm
    have hfront : Alike (before ++ (n, f.2) :: after) ((n, f.2) :: (before ++ after)) :=
      Alike.front (fun e he ↦ hn.symm ▸ hbefore e he) after
    exact .trans _ _ _ ((ih hrest).cons f) (.trans _ _ _ (.rel _ _ hspelling) (.symm _ _ hfront))

theorem valuesOf_swap {f g : String × String} (h : Text.lower f.1 ≠ Text.lower g.1) (name : String)
    (fs : Fields) : valuesOf name (f :: g :: fs) = valuesOf name (g :: f :: fs) := by
  simp only [valuesOf_cons]
  by_cases hf : Text.lower f.1 = name
  · have hg : Text.lower g.1 ≠ name := fun hg ↦ h (hf.trans hg.symm)
    simp [hf, hg]
  · simp [hf]

/-- Only cookies are ever divided. -/
theorem Rewritten.valuesOf_eq {name : String} (hname : name ≠ "cookie") (h : Rewritten fs fs') :
    valuesOf name fs = valuesOf name fs' := by
  cases h with
  | spelling before after v h => simp only [valuesOf_append, valuesOf_cons, h]
  | order before after h => rw [valuesOf_append, valuesOf_append, valuesOf_swap h]
  | division before after v w hn hn' hs =>
    simp only [valuesOf_append, valuesOf_cons, hn, hn', if_neg hname.symm, List.nil_append]

theorem parse_divided {sep : String} (hs : sep ∈ [";", "; "]) (v w : String) :
    Cookie.parse (v ++ sep ++ w) = Cookie.parse v ++ Cookie.parse w := by
  rcases List.mem_pair.1 hs with rfl | rfl
  · exact Cookie.listing_parse_bare.append v w
  · exact Cookie.listing_parse.append v w

theorem Rewritten.cookies_eq (h : Rewritten fs fs') :
    (valuesOf "cookie" fs).flatMap Cookie.parse = (valuesOf "cookie" fs').flatMap Cookie.parse := by
  cases h with
  | spelling before after v h => simp only [valuesOf_append, valuesOf_cons, h]
  | order before after h => rw [valuesOf_append, valuesOf_append, valuesOf_swap h]
  | division before after v w hn hn' hs =>
    simp [valuesOf_cons, hn, hn', parse_divided hs]

theorem Alike.invariants (h : Alike fs fs') :
    valuesOf "authorization" fs = valuesOf "authorization" fs' ∧
      (valuesOf "cookie" fs).flatMap Cookie.parse =
        (valuesOf "cookie" fs').flatMap Cookie.parse := by
  induction h with
  | rel fs fs' h => exact ⟨h.valuesOf_eq (by decide), h.cookies_eq⟩
  | refl fs => exact ⟨rfl, rfl⟩
  | symm fs fs' _ ih => exact ⟨ih.1.symm, ih.2.symm⟩
  | trans fs fs' fs'' _ _ ih ih' => exact ⟨ih.1.trans ih'.1, ih.2.trans ih'.2⟩

end Gatehouse.Http
