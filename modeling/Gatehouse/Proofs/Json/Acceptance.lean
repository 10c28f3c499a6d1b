import Mathlib.Data.List.Forall2
import Gatehouse.Proofs.Json.Grammar

namespace Gatehouse.Json

variable {b : UInt8} {fuel : Nat} {k o p s v rest : Octets} {n : Node} {r : Option Octets}
  {vs : List Octets} {ns : List Node} {raw : List (Octets × Octets)}
  {es : List (Except Fault String × Node)}

/-- A node shows of its text whether it is a text or a truth value, and which. -/
structure Shows (v : Octets) (n : Node) : Prop where
  skip : n.skip = .ok ()
  text (s : String) : n = .text (.ok s) ↔ IsText v s
  bool (b : Bool) : n = .bool b ↔ v = boolWord b

def ShowsMember (m : Octets × Octets) (e : Except Fault String × Node) : Prop :=
  Told m.1 e.1 ∧ Shows m.2 e.2

def Items.of : List Node → Items
  | [] => .done .closed
  | n :: ns => .more n (of ns)

def Members.of : List (Except Fault String × Node) → Members
  | [] => .done .closed
  | (k, n) :: es => .more k n (of es)

theorem Items.of_injective {ns' : List Node} (h : Items.of ns = .of ns') : ns = ns' := by
  induction ns generalizing ns' with
  | nil =>
    cases ns' with
    | nil => rfl
    | cons n ns' => cases h
  | cons n ns ih =>
    cases ns' with
    | nil => cases h
    | cons n' ns' =>
      simp only [of, more.injEq] at h
      rw [h.1, ih h.2]

theorem Members.of_injective {es' : List (Except Fault String × Node)}
    (h : Members.of es = .of es') : es = es' := by
  induction es generalizing es' with
  | nil =>
    cases es' with
    | nil => rfl
    | cons e es' => cases h
  | cons e es ih =>
    cases es' with
    | nil => cases h
    | cons e' es' =>
      simp only [of, more.injEq] at h
      rw [ih h.2.2, Prod.ext h.1 h.2.1]

structure Tells (v : Octets) (n : Node) : Prop extends Shows v n where
  list (form : Form) (items : Items) : n = .list form items →
    ∃ vs o ns, v = 91 :: (o ++ [93]) ∧ IsList vs o ∧ items = .of ns ∧ List.Forall₂ Shows vs ns
  object (form : Form) (members : Members) : n = .object form members →
    ∃ ms o es, v = 123 :: (o ++ [125]) ∧ IsObject ms o ∧ members = .of es ∧
      List.Forall₂ ShowsMember ms es

theorem Items.skip_more {items : Items} :
    (Items.more n items).skip = .ok () ↔ n.skip = .ok () ∧ items.skip = .ok () := by
  rw [Items.skip]
  cases n.skip <;> simp [bind, Except.bind]

theorem Members.skip_more {key : Except Fault String} {members : Members} :
    (Members.more key n members).skip = .ok () ↔ n.skip = .ok () ∧ members.skip = .ok () := by
  rw [Members.skip]
  cases n.skip <;> simp [bind, Except.bind]

theorem Items.skip_more_broken {onRead onSkip onSurplus : Fault} :
    (Items.more n (.done (.broken onRead onSkip onSurplus))).skip ≠ .ok () := by
  rintro h
  cases (skip_more.1 h).2

theorem Members.skip_more_broken {key : Except Fault String} {onRead onSkip onSurplus : Fault} :
    (Members.more key n (.done (.broken onRead onSkip onSurplus))).skip ≠ .ok () := by
  rintro h
  cases (skip_more.1 h).2

theorem Items.skip_of (h : ∀ n ∈ ns, n.skip = .ok ()) : (Items.of ns).skip = .ok () := by
  induction ns with
  | nil => rfl
  | cons n ns ih =>
    exact skip_more.2 ⟨h n List.mem_cons_self, ih fun m hm ↦ h m (List.mem_cons_of_mem n hm)⟩

theorem Members.skip_of (h : ∀ e ∈ es, e.2.skip = .ok ()) : (Members.of es).skip = .ok () := by
  induction es with
  | nil => rfl
  | cons e es ih =>
    exact skip_more.2 ⟨h e List.mem_cons_self, ih fun m hm ↦ h m (List.mem_cons_of_mem e hm)⟩

theorem exists_of_forall₂ {α β : Type} {R : α → β → Prop} {as : List α} {bs : List β} {b : β}
    (h : List.Forall₂ R as bs) (hb : b ∈ bs) : ∃ a ∈ as, R a b := by
  induction h with
  | nil => cases hb
  | @cons a c as bs hr _ ih =>
    rcases List.mem_cons.1 hb with rfl | hb
    · exact ⟨a, List.mem_cons_self, hr⟩
    · obtain ⟨a', ha, hr⟩ := ih hb
      exact ⟨a', List.mem_cons_of_mem a ha, hr⟩

section Scalars

theorem head_of_isText {t : String} (h : IsText (b :: v) t) : b = 34 := by
  obtain ⟨k, hk, -⟩ := h
  exact (List.cons.inj hk).1

theorem head_of_boolWord {t : Bool} (h : b :: v = boolWord t) : b = 116 ∨ b = 102 := by
  cases t
  · exact .inr (List.cons.inj h).1
  · exact .inl (List.cons.inj h).1

theorem shows_of_head (hskip : n.skip = .ok ()) (htext : ∀ t, n ≠ .text t)
    (hbool : ∀ t, n ≠ .bool t) (hb : b ≠ 34 ∧ b ≠ 116 ∧ b ≠ 102) : Shows (b :: v) n where
  skip := hskip
  text t := ⟨fun h ↦ absurd h (htext _), fun h ↦ absurd (head_of_isText h) hb.1⟩
  bool t := by
    refine ⟨fun h ↦ absurd h (hbool _), fun h ↦ ?_⟩
    rcases head_of_boolWord h with h | h
    · exact absurd h hb.2.1
    · exact absurd h hb.2.2

theorem shows_null : Shows nullWord .null :=
  shows_of_head rfl (by simp) (by simp) (by decide)

theorem shows_bool (t : Bool) : Shows (boolWord t) (.bool t) where
  skip := rfl
  text s := by
    refine ⟨by simp, fun h ↦ ?_⟩
    cases t <;> exact absurd (head_of_isText h) (by decide)
  bool t' := by cases t <;> cases t' <;> simp [boolWord]

theorem shows_number (h : IsNumeral v) (x : Except Fault Number) : Shows v (.number x) := by
  rcases h with h | ⟨w, rfl, -⟩
  · obtain ⟨b, w, rfl, hb⟩ := h.head
    exact shows_of_head rfl (by simp) (by simp)
      ⟨ne_of_digit hb rfl, ne_of_digit hb rfl, ne_of_digit hb rfl⟩
  · exact shows_of_head rfl (by simp) (by simp) (by decide)

theorem shows_text {t : Except Fault String} (h : Told k t) : Shows (quoted k) (.text t) where
  skip := rfl
  text s := by
    rw [Node.text.injEq, h s]
    constructor
    · exact fun hs ↦ ⟨k, rfl, hs⟩
    · rintro ⟨k', hk, hs⟩
      rw [quoted, quoted, List.cons.injEq, List.append_left_inj] at hk
      rwa [hk.2]
  bool t' := by
    refine ⟨by simp, fun h ↦ ?_⟩
    rcases head_of_boolWord h with h | h <;> exact absurd h (by decide)

theorem shows_list {form : Form} (h : List.Forall₂ Shows vs ns) :
    Shows (91 :: o) (.list form (.of ns)) :=
  shows_of_head (Items.skip_of fun _ hn ↦ (exists_of_forall₂ h hn).elim fun _ hv ↦ hv.2.skip)
    (by simp) (by simp) (by decide)

theorem shows_object {form : Form} (h : List.Forall₂ ShowsMember raw es) :
    Shows (123 :: o) (.object form (.of es)) :=
  shows_of_head (Members.skip_of fun _ he ↦ (exists_of_forall₂ h he).elim fun _ hm ↦ hm.2.2.skip)
    (by simp) (by simp) (by decide)

theorem readWord_append (word : Octets) (n : Node) (rest : Octets) :
    readWord word n (word ++ rest) = (n, some rest) := by
  induction word with
  | nil => rfl
  | cons w word ih => rw [List.cons_append, readWord, if_pos rfl, ih]

theorem exists_of_readWord {word : Octets} {m : Node} (h : readWord word m o = (n, r))
    (hn : n.skip = .ok ()) : ∃ rest, r = some rest ∧ o = word ++ rest ∧ n = m := by
  induction word generalizing o with
  | nil =>
    cases h
    exact ⟨o, rfl, rfl, rfl⟩
  | cons w word ih =>
    cases o with
    | nil =>
      rw [readWord] at h
      cases h
      cases hn
    | cons b o =>
      rw [readWord] at h
      split at h
      · next hw =>
        obtain ⟨rest, hr, ho, hm⟩ := ih h
        exact ⟨rest, hr, by rw [ho, hw]; rfl, hm⟩
      · cases h
        cases hn

theorem readNumber_append (negative : Bool) (h : IsMagnitude v) (hr : Stops rest) :
    ∃ x, readNumber negative (v ++ rest) = (.number x, some rest) := by
  obtain ⟨x, hx⟩ := readNumeral_append negative h hr
  exact ⟨_, by simp only [readNumber, hx]; rfl⟩

theorem exists_of_readNumber {negative : Bool} (h : readNumber negative o = (n, r))
    (hn : n.skip = .ok ()) :
    ∃ v rest x, r = some rest ∧ o = v ++ rest ∧ IsMagnitude v ∧ n = .number x := by
  unfold readNumber at h
  split at h
  · next x rest hx =>
    cases h
    obtain ⟨v, hv, hm⟩ := exists_of_readNumeral hx
    exact ⟨v, rest, _, rfl, hv, hm, rfl⟩
  · cases h
    cases hn

theorem readScalar_append (h : IsScalar v) (hr : Stops rest) :
    ∃ b w n, v = b :: w ∧ isSpace b = false ∧ b ≠ 91 ∧ b ≠ 123 ∧
      readScalar b (w ++ rest) = (n, some rest) ∧ Shows v n := by
  cases h with
  | null =>
    have hread := readWord_append [117, 108, 108] .null rest
    exact ⟨110, _, _, rfl, rfl, by decide, by decide, by simpa [readScalar] using hread, shows_null⟩
  | bool t =>
    cases t
    · have hread := readWord_append [97, 108, 115, 101] (.bool false) rest
      exact ⟨102, _, _, rfl, rfl, by decide, by decide, by simpa [readScalar] using hread,
        shows_bool false⟩
    · have hread := readWord_append [114, 117, 101] (.bool true) rest
      exact ⟨116, _, _, rfl, rfl, by decide, by decide, by simpa [readScalar] using hread,
        shows_bool true⟩
  | number h =>
    have hshows := shows_number h
    rcases h with h | ⟨w, rfl, h⟩
    · obtain ⟨x, hx⟩ := readNumber_append false h hr
      obtain ⟨b, w, rfl, hb⟩ := h.head
      refine ⟨b, w, .number x, rfl, isSpace_of_digit hb, ne_of_digit hb rfl, ne_of_digit hb rfl, ?_,
        hshows x⟩
      rw [readScalar, if_neg (ne_of_digit hb rfl), if_neg (ne_of_digit hb rfl),
        if_neg (ne_of_digit hb rfl), if_neg (ne_of_digit hb rfl), if_neg (ne_of_digit hb rfl),
        if_pos hb]
      exact hx
    · obtain ⟨x, hx⟩ := readNumber_append true h hr
      exact ⟨45, w, .number x, rfl, rfl, by decide, by decide, by simpa [readScalar] using hx,
        hshows x⟩
  | @text k h =>
    obtain ⟨t, hscan, htold⟩ := scanText_of_skimmed h rest
    refine ⟨34, k ++ [34], .text t, rfl, rfl, by decide, by decide, ?_, shows_text htold⟩
    rw [List.append_assoc, List.singleton_append]
    simp [readScalar, hscan]

theorem exists_of_readScalar (h : readScalar b o = (n, r)) (hn : n.skip = .ok ()) :
    ∃ w rest, r = some rest ∧ o = w ++ rest ∧ IsScalar (b :: w) ∧ Tells (b :: w) n := by
  unfold readScalar at h
  split_ifs at h with hquote hnull htrue hfalse hminus hdigit
  · subst hquote
    split at h
    · next t rest hscan =>
      cases h
      obtain ⟨k, rfl, hk, htold⟩ := exists_of_scanText hscan
      refine ⟨k ++ [34], rest, rfl, by simp, .text hk, shows_text htold, ?_, ?_⟩ <;> simp
    · cases h
      cases hn
  · subst hnull
    obtain ⟨rest, hr, rfl, rfl⟩ := exists_of_readWord h hn
    refine ⟨_, rest, hr, rfl, .null, shows_null, ?_, ?_⟩ <;> simp
  · subst htrue
    obtain ⟨rest, hr, rfl, rfl⟩ := exists_of_readWord h hn
    refine ⟨_, rest, hr, rfl, .bool true, shows_bool true, ?_, ?_⟩ <;> simp
  · subst hfalse
    obtain ⟨rest, hr, rfl, rfl⟩ := exists_of_readWord h hn
    refine ⟨_, rest, hr, rfl, .bool false, shows_bool false, ?_, ?_⟩ <;> simp
  · subst hminus
    obtain ⟨v, rest, x, hr, rfl, hv, rfl⟩ := exists_of_readNumber h hn
    have hv : IsNumeral (45 :: v) := .inr ⟨v, rfl, hv⟩
    refine ⟨v, rest, hr, rfl, .number hv, shows_number hv x, ?_, ?_⟩ <;> simp
  · obtain ⟨v, rest, x, hr, ho, hv, rfl⟩ := exists_of_readNumber h hn
    obtain ⟨c, w, rfl, -⟩ := hv.head
    obtain ⟨rfl, rfl⟩ := List.cons.inj ho
    have hv : IsNumeral (b :: w) := .inl hv
    refine ⟨w, rest, hr, rfl, .number hv, shows_number hv x, ?_, ?_⟩ <;> simp
  · cases h
    cases hn

end Scalars

section Soundness

/-- What is read of a value that can be passed over is a value. -/
def NodeSound (fuel : Nat) : Prop :=
  ∀ o n r, readNode fuel o = (n, r) → n.skip = .ok () →
    ∃ s v rest, r = some rest ∧ o = s ++ (v ++ rest) ∧ Blank s ∧ IsValue v ∧ Tells v n

def ItemsSound (fuel : Nat) : Prop :=
  ∀ o items r, readItems fuel o = (items, r) → items.skip = .ok () →
    ∃ v vs p ns rest, r = some rest ∧ o = p ++ 93 :: rest ∧ IsList (v :: vs) p ∧
      items = .of ns ∧ List.Forall₂ Shows (v :: vs) ns

def MembersSound (fuel : Nat) : Prop :=
  ∀ o members r, readMembers fuel o = (members, r) → members.skip = .ok () →
    ∃ m ms p es rest, r = some rest ∧ 34 :: o = p ++ 125 :: rest ∧ IsObject (m :: ms) p ∧
      members = .of es ∧ List.Forall₂ ShowsMember (m :: ms) es

theorem itemsSound_succ (hnode : NodeSound fuel) (hitems : ItemsSound fuel) :
    ItemsSound (fuel + 1) := by
  intro o items r h hskip
  rw [readItems] at h
  rcases hn : readNode fuel o with ⟨n, _ | o₁⟩
  · -- a value that breaks off cannot be passed over
    simp only [hn] at h
    cases h
    obtain ⟨_, _, _, hr, -⟩ := hnode o n none hn (Items.skip_more.1 hskip).1
    cases hr
  · simp only [hn] at h
    obtain ⟨t, ht, ho₁⟩ := blank_dropSpace o₁
    split at h
    · cases h
      exact absurd hskip Items.skip_more_broken
    · next b o₂ hdrop =>
      rw [hdrop] at ho₁
      split_ifs at h with hclose hcomma
      · cases h
        obtain ⟨s, v, rest, hr, rfl, hs, hv, htells⟩ := hnode o n _ hn (Items.skip_more.1 hskip).1
        cases hr
        refine ⟨v, [], s ++ (v ++ t), [n], o₂, rfl, ?_, .last hv ⟨s, t, hs, ht, rfl⟩, rfl,
          .cons htells.toShows .nil⟩
        simp [ho₁, hclose]
      · split at h
        · cases h
          exact absurd hskip Items.skip_more_broken
        · next c o₃ hdrop' =>
          split_ifs at h with hend
          · cases h
            exact absurd hskip Items.skip_more_broken
          · cases h
            obtain ⟨hskip, hskip'⟩ := Items.skip_more.1 hskip
            obtain ⟨s, v, rest, hr, rfl, hs, hv, htells⟩ := hnode o n _ hn hskip
            cases hr
            obtain ⟨w, vs, p, ns, rest, hr, hp, hlist, hof, hshows⟩ := hitems _ _ _ rfl hskip'
            obtain ⟨u, hu, ho₂⟩ := blank_dropSpace o₂
            refine ⟨v, w :: vs, s ++ (v ++ t) ++ 44 :: (u ++ p), n :: ns, rest, hr, ?_,
              .more hv ⟨s, t, hs, ht, rfl⟩ (hlist.blank hu), by rw [hof]; rfl,
              .cons htells.toShows hshows⟩
            rw [hdrop', hp] at ho₂
            simp [ho₁, hcomma, ho₂]
      · cases h
        exact absurd hskip Items.skip_more_broken

theorem membersSound_succ (hnode : NodeSound fuel) (hmembers : MembersSound fuel) :
    MembersSound (fuel + 1) := by
  intro o members r h hskip
  rw [readMembers] at h
  split at h
  · cases h
    cases hskip
  next key o₁ hscan =>
  obtain ⟨k, rfl, hk, htold⟩ := exists_of_scanText hscan
  obtain ⟨a, ha, ho₁⟩ := blank_dropSpace o₁
  split at h
  · cases h
    cases hskip
  next b o₂ hdrop =>
  rw [hdrop] at ho₁
  split_ifs at h with hcolon
  swap
  · cases h
    cases hskip
  rcases hn : readNode fuel o₂ with ⟨n, _ | o₃⟩
  · simp only [hn] at h
    cases h
    obtain ⟨_, _, _, hr, -⟩ := hnode o₂ n none hn (Members.skip_more.1 hskip).1
    cases hr
  · simp only [hn] at h
    obtain ⟨t, ht, ho₃⟩ := blank_dropSpace o₃
    split at h
    · cases h
      exact absurd hskip Members.skip_more_broken
    next c o₄ hdrop' =>
    rw [hdrop'] at ho₃
    split_ifs at h with hclose hcomma
    · cases h
      obtain ⟨s, v, rest, hr, rfl, hs, hv, htells⟩ := hnode _ n _ hn (Members.skip_more.1 hskip).1
      cases hr
      refine ⟨(k, v), [], _, [(key, n)], o₄, rfl, ?_, .last hk hv (isMember_intro ha hs ht), rfl,
        .cons ⟨htold, htells.toShows⟩ .nil⟩
      simp [quoted, ho₁, hcolon, ho₃, hclose]
    · split at h
      · cases h
        exact absurd hskip Members.skip_more_broken
      next d o₅ hdrop'' =>
      split_ifs at h with hquote hend
      · cases h
        obtain ⟨hskip, hskip'⟩ := Members.skip_more.1 hskip
        obtain ⟨s, v, rest, hr, rfl, hs, hv, htells⟩ := hnode _ n _ hn hskip
        cases hr
        obtain ⟨m, ms, p, es, rest, hr, hp, hobject, hof, hshows⟩ := hmembers _ _ _ rfl hskip'
        obtain ⟨u, hu, ho₄⟩ := blank_dropSpace o₄
        refine ⟨(k, v), m :: ms, _, (key, n) :: es, rest, hr, ?_,
          .more hk hv (isMember_intro ha hs ht) (hobject.blank hu), by rw [hof]; rfl,
          .cons ⟨htold, htells.toShows⟩ hshows⟩
        rw [hdrop'', hquote, hp] at ho₄
        simp [quoted, ho₁, hcolon, ho₃, hcomma, ho₄]
      · cases h
        exact absurd hskip Members.skip_more_broken
      · cases h
        exact absurd hskip Members.skip_more_broken
    · cases h
      exact absurd hskip Members.skip_more_broken

theorem nodeSound_succ (hitems : ItemsSound fuel) (hmembers : MembersSound fuel) :
    NodeSound (fuel + 1) := by
  intro o n r h hskip
  rw [readNode] at h
  obtain ⟨s, hs, ho⟩ := blank_dropSpace o
  split at h
  · cases h
    cases hskip
  next b o₁ hdrop =>
  rw [hdrop] at ho
  split_ifs at h with hlist hobject
  · subst hlist
    obtain ⟨t, ht, ho₁⟩ := blank_dropSpace o₁
    split at h
    · cases h
      cases hskip
    next c o₂ hdrop' =>
    rw [hdrop'] at ho₁
    split_ifs at h with hclose
    · cases h
      subst hclose
      refine ⟨s, _, o₂, rfl, ?_, hs, .list (.none ht), shows_list .nil, ?_, by simp⟩
      · simp [ho, ho₁]
      · rintro form items ⟨⟩
        exact ⟨[], t, [], rfl, .none ht, rfl, .nil⟩
    · cases h
      obtain ⟨v, vs, p, ns, rest, hr, hp, hvs, hof, hshows⟩ := hitems _ _ _ rfl hskip
      have hvs := hvs.blank ht
      refine ⟨s, _, rest, hr, ?_, hs, .list hvs, hof ▸ shows_list hshows, ?_, by simp⟩
      · simp [ho, ho₁, hp]
      · rintro form items ⟨⟩
        exact ⟨v :: vs, t ++ p, ns, rfl, hvs, hof, hshows⟩
  · subst hobject
    obtain ⟨t, ht, ho₁⟩ := blank_dropSpace o₁
    split at h
    · cases h
      cases hskip
    next c o₂ hdrop' =>
    rw [hdrop'] at ho₁
    split_ifs at h with hclose hquote
    · cases h
      subst hclose
      refine ⟨s, _, o₂, rfl, ?_, hs, .object (.none ht), shows_object .nil, by simp, ?_⟩
      · simp [ho, ho₁]
      · rintro form members ⟨⟩
        exact ⟨[], t, [], rfl, .none ht, rfl, .nil⟩
    · cases h
      obtain ⟨m, ms, p, es, rest, hr, hp, hms, hof, hshows⟩ := hmembers _ _ _ rfl hskip
      have hms := hms.blank ht
      refine ⟨s, _, rest, hr, ?_, hs, .object hms, hof ▸ shows_object hshows, by simp, ?_⟩
      · simp [ho, ho₁, hquote, hp]
      · rintro form members ⟨⟩
        exact ⟨m :: ms, t ++ p, es, rfl, hms, hof, hshows⟩
    · cases h
      cases hskip
  · obtain ⟨w, rest, hr, rfl, hv, htells⟩ := exists_of_readScalar h hskip
    exact ⟨s, b :: w, rest, hr, by rw [ho]; rfl, hs, .scalar hv, htells⟩

theorem readings_sound (fuel : Nat) : NodeSound fuel ∧ ItemsSound fuel ∧ MembersSound fuel := by
  induction fuel with
  | zero =>
    refine ⟨fun o n r h hskip ↦ ?_, fun o items r h hskip ↦ ?_, fun o members r h hskip ↦ ?_⟩ <;>
      cases h <;> cases hskip
  | succ fuel ih =>
    obtain ⟨hnode, hitems, hmembers⟩ := ih
    exact ⟨nodeSound_succ hitems hmembers, itemsSound_succ hnode hitems,
      membersSound_succ hnode hmembers⟩

end Soundness

section Completeness

/-- Each value is read to its end. Each level of the reading costs one of `fuel`, and there are at
most two for an octet. -/
def NodeComplete (fuel : Nat) : Prop :=
  ∀ s v rest, Blank s → IsValue v → Stops rest → 2 * v.length ≤ fuel →
    ∃ n, readNode fuel (s ++ (v ++ rest)) = (n, some rest) ∧ Shows v n

def ItemsComplete (fuel : Nat) : Prop :=
  ∀ v vs p rest, IsList (v :: vs) p → 2 * p.length + 1 ≤ fuel →
    ∃ ns, readItems fuel (p ++ 93 :: rest) = (.of ns, some rest) ∧
      List.Forall₂ Shows (v :: vs) ns

def MembersComplete (fuel : Nat) : Prop :=
  ∀ m ms p rest, IsObject (m :: ms) (34 :: p) → 2 * p.length + 1 ≤ fuel →
    ∃ es, readMembers fuel (p ++ 125 :: rest) = (.of es, some rest) ∧
      List.Forall₂ ShowsMember (m :: ms) es

theorem dropSpace_append (hs : Blank s) (hb : isSpace b = false) (o : Octets) :
    dropSpace (s ++ b :: o) = b :: o := by
  rw [dropSpace_blank hs, dropSpace, List.dropWhile_cons_of_neg (by simp [hb])]

theorem readNode_list (hitems : ItemsComplete fuel) (hs : Blank s) (h : IsList vs o)
    (hf : 2 * o.length + 1 ≤ fuel) (rest : Octets) :
    ∃ ns, readNode (fuel + 1) (s ++ 91 :: (o ++ 93 :: rest)) = (.list .text (.of ns), some rest) ∧
      List.Forall₂ Shows vs ns := by
  rw [readNode, dropSpace_append hs rfl]
  simp only [if_true]
  cases vs with
  | nil =>
    cases h with
    | none h =>
      refine ⟨[], ?_, .nil⟩
      rw [dropSpace_append h rfl]
      rfl
  | cons v vs =>
    obtain ⟨t, b, p, ht, rfl, hb, hne, htrim⟩ := h.trim
    rw [List.length_append] at hf
    obtain ⟨ns, hread, hshows⟩ := hitems v vs (b :: p) rest htrim (by omega)
    refine ⟨ns, ?_, hshows⟩
    rw [List.append_assoc, List.cons_append, dropSpace_append ht hb]
    rw [List.cons_append] at hread
    simp only [if_neg hne, hread]

theorem readNode_object (hmembers : MembersComplete fuel) (hs : Blank s) (h : IsObject raw o)
    (hf : 2 * o.length + 1 ≤ fuel) (rest : Octets) :
    ∃ es, readNode (fuel + 1) (s ++ 123 :: (o ++ 125 :: rest)) =
        (.object .text (.of es), some rest) ∧ List.Forall₂ ShowsMember raw es := by
  rw [readNode, dropSpace_append hs rfl]
  simp only [show (123 : UInt8) ≠ 91 by decide, if_false, if_true]
  cases raw with
  | nil =>
    cases h with
    | none h =>
      refine ⟨[], ?_, .nil⟩
      rw [dropSpace_append h rfl]
      rfl
  | cons m ms =>
    obtain ⟨t, p, ht, rfl, htrim⟩ := h.trim
    rw [List.length_append, List.length_cons] at hf
    obtain ⟨es, hread, hshows⟩ := hmembers m ms p rest htrim (by omega)
    refine ⟨es, ?_, hshows⟩
    rw [List.append_assoc, List.cons_append, dropSpace_append ht rfl]
    simp only [show (34 : UInt8) ≠ 125 by decide, if_false, if_true, hread]

theorem nodeComplete_succ (hitems : ItemsComplete fuel) (hmembers : MembersComplete fuel) :
    NodeComplete (fuel + 1) := by
  intro s v rest hs hv hrest hf
  cases hv with
  | scalar h =>
    obtain ⟨b, w, n, rfl, hb, hlist, hobject, hread, hshows⟩ := readScalar_append h hrest
    refine ⟨n, ?_, hshows⟩
    rw [List.cons_append, readNode, dropSpace_append hs hb]
    simp only [if_neg hlist, if_neg hobject, hread]
  | list h =>
    simp only [List.length_cons, List.length_append, List.length_nil] at hf
    obtain ⟨ns, hread, hshows⟩ := readNode_list hitems hs h (by omega) rest
    exact ⟨_, by simpa using hread, shows_list hshows⟩
  | object h =>
    simp only [List.length_cons, List.length_append, List.length_nil] at hf
    obtain ⟨es, hread, hshows⟩ := readNode_object hmembers hs h (by omega) rest
    exact ⟨_, by simpa using hread, shows_object hshows⟩

theorem itemsComplete_succ (hnode : NodeComplete fuel) (hitems : ItemsComplete fuel) :
    ItemsComplete (fuel + 1) := by
  intro v vs p rest h hf
  cases h with
  | last hv ho =>
    obtain ⟨s, t, hs, ht, rfl⟩ := ho
    simp only [List.length_append] at hf
    obtain ⟨n, hread, hshows⟩ := hnode s v _ hs hv (ht.stops_cons (.inr (.inl rfl)) rest) (by omega)
    refine ⟨[n], ?_, .cons hshows .nil⟩
    have hdrop : dropSpace (t ++ 93 :: rest) = 93 :: rest := dropSpace_append ht rfl rest
    rw [List.append_assoc, List.append_assoc, readItems, hread]
    simp only [hdrop, if_true, Items.of]
  | @more _ w _ q vs hv ho h =>
    obtain ⟨s, t, hs, ht, rfl⟩ := ho
    obtain ⟨u, b, q, hu, rfl, hb, hne, htrim⟩ := h.trim
    simp only [List.length_append, List.length_cons] at hf
    obtain ⟨n, hread, hshows⟩ := hnode s v _ hs hv
      (ht.stops_cons (.inl rfl) (u ++ b :: (q ++ 93 :: rest))) (by omega)
    have hlength : 2 * (b :: q).length + 1 ≤ fuel := by
      rw [List.length_cons]
      omega
    obtain ⟨ns, hread', hshows'⟩ := hitems w vs (b :: q) rest htrim hlength
    refine ⟨n :: ns, ?_, .cons hshows hshows'⟩
    have hdrop : dropSpace (t ++ 44 :: (u ++ b :: (q ++ 93 :: rest))) =
        44 :: (u ++ b :: (q ++ 93 :: rest)) := dropSpace_append ht rfl _
    have hdrop' : dropSpace (u ++ b :: (q ++ 93 :: rest)) = b :: (q ++ 93 :: rest) :=
      dropSpace_append hu hb _
    rw [List.cons_append] at hread'
    simp only [List.append_assoc, List.cons_append, readItems, hread, hdrop, hdrop',
      show (44 : UInt8) ≠ 93 by decide, if_false, if_true, if_neg hne, hread', Items.of]

theorem membersComplete_succ (hnode : NodeComplete fuel) (hmembers : MembersComplete fuel) :
    MembersComplete (fuel + 1) := by
  intro m ms p rest h hf
  generalize hq : 34 :: p = q at h
  cases h with
  | @last k v _ hk hv ho =>
    obtain ⟨a, s, t, ha, hs, ht, rfl⟩ := exists_of_isMember ho (hq.trans (List.append_nil _).symm)
    simp only [List.length_append, List.length_cons] at hf
    obtain ⟨key, hscan, htold⟩ := scanText_of_skimmed hk
      (a ++ 58 :: (s ++ (v ++ (t ++ 125 :: rest))))
    obtain ⟨n, hread, hshows⟩ := hnode s v _ hs hv (ht.stops_cons (.inr (.inr rfl)) rest) (by omega)
    refine ⟨[(key, n)], ?_, .cons ⟨htold, hshows⟩ .nil⟩
    have hcolon := dropSpace_append ha (b := 58) rfl (s ++ (v ++ (t ++ 125 :: rest)))
    have hdrop := dropSpace_append ht (b := 125) rfl rest
    simp only [List.append_assoc, List.cons_append, List.append_nil, readMembers, hscan, hcolon,
      hread, hdrop, if_true, Members.of]
  | @more k v _ r m ms hk hv ho h =>
    obtain ⟨a, s, t, ha, hs, ht, rfl⟩ := exists_of_isMember ho hq
    obtain ⟨u, r, hu, rfl, htrim⟩ := h.trim
    simp only [List.length_append, List.length_cons] at hf
    obtain ⟨key, hscan, htold⟩ := scanText_of_skimmed hk
      (a ++ 58 :: (s ++ (v ++ (t ++ 44 :: (u ++ 34 :: (r ++ 125 :: rest))))))
    obtain ⟨n, hread, hshows⟩ := hnode s v _ hs hv
      (ht.stops_cons (.inl rfl) (u ++ 34 :: (r ++ 125 :: rest))) (by omega)
    obtain ⟨es, hread', hshows'⟩ := hmembers m ms r rest htrim (by omega)
    refine ⟨(key, n) :: es, ?_, .cons ⟨htold, hshows⟩ hshows'⟩
    have hcolon := dropSpace_append ha (b := 58) rfl
      (s ++ (v ++ (t ++ 44 :: (u ++ 34 :: (r ++ 125 :: rest)))))
    have hdrop := dropSpace_append ht (b := 44) rfl (u ++ 34 :: (r ++ 125 :: rest))
    have hdrop' := dropSpace_append hu (b := 34) rfl (r ++ 125 :: rest)
    simp only [List.append_assoc, List.cons_append, readMembers, hscan, hcolon, hread, hdrop,
      hdrop', hread', show (44 : UInt8) ≠ 125 by decide, if_false, if_true, Members.of]

theorem readings_complete (fuel : Nat) :
    NodeComplete fuel ∧ ItemsComplete fuel ∧ MembersComplete fuel := by
  induction fuel with
  | zero =>
    refine ⟨fun s v rest _ hv _ hf ↦ ?_, fun v vs p rest _ hf ↦ ?_, fun m ms p rest _ hf ↦ ?_⟩
    · obtain ⟨b, w, rfl, -⟩ := hv.head
      simp at hf
    · omega
    · omega
  | succ fuel ih =>
    obtain ⟨hnode, hitems, hmembers⟩ := ih
    exact ⟨nodeComplete_succ hitems hmembers, itemsComplete_succ hnode hitems,
      membersComplete_succ hnode hmembers⟩

end Completeness

theorem Document.exists_of_read (hskip : (read o).root.skip = .ok ())
    (htrailing : (read o).trailing = false) :
    ∃ v, Padded v o ∧ IsValue v ∧ Tells v (read o).root := by
  rcases hread : readNode (2 * o.length + 2) o with ⟨n, r⟩
  have hn : (read o).root = n := by
    rw [read, hread]
    cases r <;> rfl
  rw [hn] at hskip ⊢
  obtain ⟨s, v, rest, rfl, ho, hs, hv, htells⟩ := (readings_sound _).1 o n r hread hskip
  rw [read, hread] at htrailing
  have hrest : Blank rest := blank_of_dropSpace (by simpa using htrailing)
  exact ⟨v, ⟨s, rest, hs, hrest, ho⟩, hv, htells⟩

theorem Document.read_eq (hrest : Blank rest)
    (h : readNode (2 * o.length + 2) o = (n, some rest)) : read o = ⟨n, false⟩ := by
  have hdrop : dropSpace rest = [] := by
    rw [← List.append_nil rest, dropSpace_blank hrest]
    rfl
  rw [read, h]
  simp only [hdrop]
  rfl

theorem Document.read_list (ho : Padded (91 :: (p ++ [93])) o) (h : IsList vs p) :
    ∃ ns, read o = ⟨.list .text (.of ns), false⟩ ∧ List.Forall₂ Shows vs ns := by
  obtain ⟨s, t, hs, ht, rfl⟩ := ho
  have hf : 2 * p.length + 1 ≤ 2 * (s ++ (91 :: (p ++ [93]) ++ t)).length + 1 := by
    simp only [List.length_append, List.length_cons]
    omega
  obtain ⟨ns, hread, hshows⟩ := readNode_list (readings_complete _).2.1 hs h hf t
  exact ⟨ns, read_eq ht (by simpa using hread), hshows⟩

theorem Document.read_object (ho : Padded (123 :: (p ++ [125])) o) (h : IsObject raw p) :
    ∃ es, read o = ⟨.object .text (.of es), false⟩ ∧ List.Forall₂ ShowsMember raw es := by
  obtain ⟨s, t, hs, ht, rfl⟩ := ho
  have hf : 2 * p.length + 1 ≤ 2 * (s ++ (123 :: (p ++ [125]) ++ t)).length + 1 := by
    simp only [List.length_append, List.length_cons]
    omega
  obtain ⟨es, hread, hshows⟩ := readNode_object (readings_complete _).2.2 hs h hf t
  exact ⟨es, read_eq ht (by simpa using hread), hshows⟩

/-- The texts that can be passed over are those of the grammar. -/
theorem Document.read_iff :
    ((read o).root.skip = .ok () ∧ (read o).trailing = false) ↔ ∃ v, Padded v o ∧ IsValue v := by
  constructor
  · rintro ⟨hskip, htrailing⟩
    obtain ⟨v, ho, hv, -⟩ := exists_of_read hskip htrailing
    exact ⟨v, ho, hv⟩
  · rintro ⟨v, ⟨s, t, hs, ht, rfl⟩, hv⟩
    have hstops : Stops t := by
      have hnil : Stops ([] : Octets) := by simp [Stops]
      simpa using ht.stops hnil
    have hf : 2 * v.length ≤ 2 * (s ++ (v ++ t)).length + 2 := by
      simp only [List.length_append]
      omega
    obtain ⟨n, hread, hshows⟩ := (readings_complete _).1 s v t hs hv hstops hf
    rw [read_eq ht hread]
    exact ⟨hshows.skip, rfl⟩

end Gatehouse.Json
