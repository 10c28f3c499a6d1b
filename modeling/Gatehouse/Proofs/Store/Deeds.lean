import Mathlib.Order.Defs.Unbundled
import Gatehouse.Proofs.Store.Effects
import Gatehouse.Proofs.Store.UnitOfWork

namespace Gatehouse

namespace Work

variable {α β : Type} {w : Work α}

def Reads (w : Work α) : Prop := ∀ t, (w t).2 = t

namespace Reads

theorem pure (a : α) : Reads (Pure.pure a) := fun _ ↦ rfl

theorem fail (e : StoreError) : Reads (Work.fail e : Work α) := fun _ ↦ rfl

theorem read (f : State → α) : Reads (Work.read f) := by
  intro t
  unfold Work.read
  split <;> rfl

theorem bind {f : α → Work β} (h : Reads w) (h' : ∀ a, Reads (f a)) : Reads (w >>= f) := by
  intro t
  have ht := h t
  rw [bind_apply]
  rcases hw : w t with ⟨r, t'⟩
  rw [hw] at ht
  cases r with
  | ok a => exact (h' a t').trans ht
  | error e => exact ht

theorem demand (e : StoreError) (a : Option α) : Reads (Work.demand e a) := by
  cases a with
  | none => exact fail e
  | some a => exact pure a

theorem lookupSession (id : SessionId) (now : Instant) : Reads (Work.lookupSession id now) := by
  unfold Work.lookupSession
  split
  · exact fail _
  · refine (read _).bind fun x? ↦ (demand _ x?).bind fun x ↦ ?_
    split
    · exact fail _
    · split
      · exact fail _
      · exact pure x

theorem lookupUser (id : UserId) : Reads (Work.lookupUser id) := (read _).bind (demand _)

theorem lookupUserByName (name : String) : Reads (Work.lookupUserByName name) :=
  (read _).bind (demand _)

theorem listCredentials (u : User) : Reads (Work.listCredentials u) := read _

end Reads

end Work

namespace Surroundings

variable {s s' : Surroundings}

/-- Nothing has been stored in the meantime. -/
structure SameRows (s s' : Surroundings) : Prop where
  now : s'.now = s.now
  committed : s'.database.committed = s.database.committed

structure Undrawn (s s' : Surroundings) : Prop where
  now : s'.now = s.now
  entropy : s'.entropy = s.entropy

structure Same (s s' : Surroundings) : Prop extends SameRows s s', Undrawn s s'

instance : IsPreorder Surroundings SameRows where
  refl _ := ⟨rfl, rfl⟩
  trans _ _ _ h h' := ⟨h'.now.trans h.now, h'.committed.trans h.committed⟩

instance : IsPreorder Surroundings Undrawn where
  refl _ := ⟨rfl, rfl⟩
  trans _ _ _ h h' := ⟨h'.now.trans h.now, h'.entropy.trans h.entropy⟩

instance : IsPreorder Surroundings Same where
  refl _ := ⟨⟨rfl, rfl⟩, rfl⟩
  trans _ _ _ h h' := ⟨IsTrans.trans _ _ _ h.toSameRows h'.toSameRows, h'.entropy.trans h.entropy⟩

end Surroundings

open Surroundings (Same SameRows)

namespace Deed

variable {α β : Type} {R : Surroundings → Surroundings → Prop} {d : Deed α} {f : α → Deed β}

theorem bind_apply (d : Deed α) (f : α → Deed β) (s : Surroundings) :
    (d >>= f) s = f (d s).1 (d s).2 := rfl

/-- Whatever the surroundings, it leaves them in a relation to what they were. -/
def Keeps (R : Surroundings → Surroundings → Prop) (d : Deed α) : Prop := ∀ s, R s (d s).2

theorem Keeps.transact {access : Access} {retry : RetryPolicy} {w : Instant → Work α}
    (h : ∀ now, (w now).Reads) : Keeps Same (transact access retry w) := by
  intro s
  refine ⟨⟨rfl, ?_⟩, rfl⟩
  rcases transact_cases access retry w s with ⟨a, t, hw, -, -, hc⟩ | ⟨e, -, hc⟩
  · have ht := h s.now (s.database.begin access)
    rw [hw] at ht
    exact hc.trans (congrArg Transaction.working ht)
  · exact hc

theorem Keeps.drawing (f : Entropy → α × Entropy) : Keeps SameRows (drawing f) :=
  fun _ ↦ ⟨rfl, rfl⟩

variable [IsPreorder Surroundings R]

theorem Keeps.pure (a : α) : Keeps R (Pure.pure a : Deed α) := fun s ↦ refl s

theorem Keeps.bind (h : Keeps R d) (h' : ∀ a, Keeps R (f a)) : Keeps R (d >>= f) :=
  fun s ↦ IsTrans.trans _ _ _ (h s) (h' _ _)

theorem Keeps.forIn {γ : Type} {xs : List γ} {b : β} {f : γ → β → Deed (ForInStep β)}
    (h : ∀ x b, Keeps R (f x b)) : Keeps R (forIn xs b f) := by
  induction xs generalizing b with
  | nil => exact .pure b
  | cons x xs ih =>
    rw [List.forIn_cons]
    refine .bind (h x b) fun r ↦ ?_
    cases r with
    | done b => exact .pure b
    | yield b => exact ih

end Deed

end Gatehouse
